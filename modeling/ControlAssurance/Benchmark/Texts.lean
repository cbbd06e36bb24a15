import Mathlib.Data.List.Basic
import ControlAssurance.Values

/-!
# Text fields of the benchmark wire

The constrained strings of the benchmark models. What a character is (its category and its
bidirectional class) is read from the Unicode character database, a parameter here; lengths are
in code points.
-/

namespace ControlAssurance.Benchmark

/-- `unicodedata.category` and `unicodedata.bidirectional`. -/
structure UnicodeData where
  category : Char → String
  bidirectional : Char → String

/-- `str.isspace` of one character: what `str.strip` takes off. -/
def UnicodeData.isSpace (U : UnicodeData) (c : Char) : Bool :=
  U.category c == "Zs" || ["WS", "B", "S"].contains (U.bidirectional c)

/-- `value.strip() == value`. -/
def UnicodeData.stripped (U : UnicodeData) (value : String) : Bool :=
  value.toList.head?.all (fun c => !U.isSpace c) && value.toList.getLast?.all (fun c => !U.isSpace c)

def bidiClasses : List String :=
  ["R", "AL", "AN", "RLE", "RLO", "LRE", "LRO", "PDF", "LRI", "RLI", "FSI", "PDI"]

def unsafeDisplayCategories : List String := ["Cc", "Cf", "Cs", "Zl", "Zp"]

/-- `_safe_display_text`. -/
def safeDisplayText (U : UnicodeData) (value : String) : Bool :=
  value.toList.all fun c => !(unsafeDisplayCategories.contains (U.category c)
    || bidiClasses.contains (U.bidirectional c))

/-- `_safe_external_identity`. -/
def safeExternalIdentity (U : UnicodeData) (value : String) : Bool :=
  safeDisplayText U value && U.stripped value

/-- `Field(min_length=low, max_length=high)`. -/
def lengthBetween (low high : Nat) (value : String) : Bool :=
  decide (low ≤ value.length ∧ value.length ≤ high)

def isLowerAlpha (c : Char) : Bool := decide ('a' ≤ c ∧ c ≤ 'z')

def isAsciiDigit (c : Char) : Bool := decide ('0' ≤ c ∧ c ≤ '9')

def isAsciiAlnum (c : Char) : Bool :=
  isLowerAlpha c || isAsciiDigit c || decide ('A' ≤ c ∧ c ≤ 'Z')

/-- A text matched by `^[first][rest]*$`. -/
def headThen (first rest : Char → Bool) (value : String) : Bool :=
  match value.toList with
  | [] => false
  | c :: tail => first c && tail.all rest

/-- `IssueCode`: words of `[a-z0-9]` joined by single hyphens, the first one from a letter. -/
def isIssueCode (value : String) : Bool :=
  decide (value.length ≤ 128) &&
    match value.toList.splitOnP (· == '-') with
    | [] => false
    | word :: words => headThen isLowerAlpha (fun c => isLowerAlpha c || isAsciiDigit c)
        (String.ofList word)
      && words.all fun w => !w.isEmpty && w.all fun c => isLowerAlpha c || isAsciiDigit c

/-- `CompilerBlock`. -/
def isCompilerBlock (value : String) : Bool :=
  lengthBetween 1 128 value && headThen isLowerAlpha
    (fun c => isLowerAlpha c || isAsciiDigit c || ['.', '_', '-'].contains c) value

/-- `_is_safe_compiler_cell_key`. -/
def isSafeCompilerCellKey (U : UnicodeData) (value : String) : Bool :=
  lengthBetween 1 512 value && U.stripped value
    && value.toList.all fun c => decide (0x20 ≤ c.toNat ∧ c.toNat ≤ 0x7e)

/-- `ExternalIdentity`. -/
def isExternalIdentity (U : UnicodeData) (value : String) : Bool :=
  lengthBetween 1 512 value && safeExternalIdentity U value

/-- `SubjectPath`. -/
def isSubjectPath (U : UnicodeData) (value : String) : Bool :=
  lengthBetween 1 2048 value && value.toList.head? == some '/' && safeDisplayText U value

/-- `PortableBenchmarkId`, with the limit 128, and `PortableEvaluatorId`, with 256. -/
def isPortableId (high : Nat) (value : String) : Bool :=
  lengthBetween 1 high value && headThen isAsciiAlnum
    (fun c => isAsciiAlnum c || ['.', '_', ':', '@', '+', '/', '-'].contains c) value

/-- `PortableBenchmarkVersion`. -/
def isPortableVersion (value : String) : Bool :=
  lengthBetween 1 64 value && headThen isAsciiAlnum
    (fun c => isAsciiAlnum c || ['.', '_', '+', '-'].contains c) value

/-- `SchemaName`: `name/vN`, where `N` is a positive decimal. -/
def isSchemaName (value : String) : Bool :=
  lengthBetween 1 256 value &&
    match value.toList.splitOnP (· == '/') with
    | [name, version] =>
      headThen isLowerAlpha (fun c => isLowerAlpha c || isAsciiDigit c || ['.', '-'].contains c)
        (String.ofList name)
      && match version with
        | 'v' :: digits => headThen (fun c => isAsciiDigit c && c != '0') isAsciiDigit
            (String.ofList digits)
        | _ => false
    | _ => false

end ControlAssurance.Benchmark
