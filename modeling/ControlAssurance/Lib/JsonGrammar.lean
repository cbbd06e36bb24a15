import Mathlib.Data.List.Basic

/-!
# The JSON grammar

RFC 8259 as a relation between texts and syntax trees. A string in a tree is the list of its
units: a character as it stands, or the code of an escape. A pair of surrogate escapes is two
units, and joining them is left to whoever reads the tree. A number is its text, and an object
keeps its members in order, repeated names included.

`Spells` is by recursion on the tree, so that a proof about a text follows the tree.
-/

namespace ControlAssurance.Lib

inductive JsonTree where
  | null
  | bool (value : Bool)
  | number (text : List Char)
  | string (units : List Nat)
  | array (items : List JsonTree)
  | object (members : List (List Nat × JsonTree))

/-- `ws`. -/
def Blank (text : List Char) : Prop := ∀ c ∈ text, c = ' ' ∨ c = '\t' ∨ c = '\n' ∨ c = '\r'

/-- The escapes of one character. -/
def simpleEscape : Char → Option Nat
  | '"' => some 0x22
  | '\\' => some 0x5C
  | '/' => some 0x2F
  | 'b' => some 0x08
  | 'f' => some 0x0C
  | 'n' => some 0x0A
  | 'r' => some 0x0D
  | 't' => some 0x09
  | _ => none

/-- `HEXDIG`, in either case. -/
def hexDigit (c : Char) : Option Nat :=
  if '0' ≤ c ∧ c ≤ '9' then some (c.toNat - '0'.toNat)
  else if 'a' ≤ c ∧ c ≤ 'f' then some (c.toNat - 'a'.toNat + 10)
  else if 'A' ≤ c ∧ c ≤ 'F' then some (c.toNat - 'A'.toNat + 10)
  else none

/-- `*char`: the text between the quotes of a string, and its units. -/
inductive StringUnits : List Char → List Nat → Prop where
  | nil : StringUnits [] []
  | plain {c : Char} {text : List Char} {units : List Nat} (hcontrol : 0x20 ≤ c.toNat)
      (hquote : c ≠ '"') (hbackslash : c ≠ '\\') (h : StringUnits text units) :
      StringUnits (c :: text) (c.toNat :: units)
  | escape {c : Char} {code : Nat} {text : List Char} {units : List Nat}
      (hcode : simpleEscape c = some code) (h : StringUnits text units) :
      StringUnits ('\\' :: c :: text) (code :: units)
  | unicode {a b c d : Char} {w x y z : Nat} {text : List Char} {units : List Nat}
      (ha : hexDigit a = some w) (hb : hexDigit b = some x) (hc : hexDigit c = some y)
      (hd : hexDigit d = some z) (h : StringUnits text units) :
      StringUnits ('\\' :: 'u' :: a :: b :: c :: d :: text)
        ((((w * 16 + x) * 16 + y) * 16 + z) :: units)

/-- `1*DIGIT`. -/
def Digits (text : List Char) : Prop := text ≠ [] ∧ ∀ c ∈ text, '0' ≤ c ∧ c ≤ '9'

/-- `int`. -/
def IsInteger (text : List Char) : Prop :=
  text = ['0'] ∨ ∃ c rest, text = c :: rest ∧ ('1' ≤ c ∧ c ≤ '9')
    ∧ ∀ d ∈ rest, '0' ≤ d ∧ d ≤ '9'

/-- `[ frac ]`. -/
def IsFraction (text : List Char) : Prop := text = [] ∨ ∃ digits, text = '.' :: digits ∧ Digits digits

/-- `[ exp ]`. -/
def IsExponent (text : List Char) : Prop :=
  text = [] ∨ ∃ e sign digits, text = e :: (sign ++ digits) ∧ (e = 'e' ∨ e = 'E')
    ∧ (sign = [] ∨ sign = ['+'] ∨ sign = ['-']) ∧ Digits digits

/-- `number`. -/
def IsNumber (text : List Char) : Prop :=
  ∃ sign integer fraction exponent, text = sign ++ (integer ++ (fraction ++ exponent))
    ∧ (sign = [] ∨ sign = ['-']) ∧ IsInteger integer ∧ IsFraction fraction ∧ IsExponent exponent

mutual

/-- A text is a value of the grammar with a tree. -/
def Spells : JsonTree → List Char → Prop
  | .null, text => text = ['n', 'u', 'l', 'l']
  | .bool true, text => text = ['t', 'r', 'u', 'e']
  | .bool false, text => text = ['f', 'a', 'l', 's', 'e']
  | .number digits, text => text = digits ∧ IsNumber digits
  | .string units, text => ∃ body, text = '"' :: (body ++ ['"']) ∧ StringUnits body units
  | .array [], text => ∃ blank, text = '[' :: (blank ++ [']']) ∧ Blank blank
  | .array items, text => ∃ inner, text = '[' :: (inner ++ [']']) ∧ SpellsItems items inner
  | .object [], text => ∃ blank, text = '{' :: (blank ++ ['}']) ∧ Blank blank
  | .object members, text => ∃ inner, text = '{' :: (inner ++ ['}']) ∧ SpellsMembers members inner

/-- `value *( value-separator value )`, with the blanks around the values. -/
def SpellsItems : List JsonTree → List Char → Prop
  | [], _ => False
  | [item], text => ∃ before value after, text = before ++ (value ++ after) ∧ Blank before
    ∧ Spells item value ∧ Blank after
  | item :: next :: items, text => ∃ before value after rest,
    text = before ++ (value ++ (after ++ ',' :: rest)) ∧ Blank before ∧ Spells item value
      ∧ Blank after ∧ SpellsItems (next :: items) rest

/-- `member *( value-separator member )`. -/
def SpellsMembers : List (List Nat × JsonTree) → List Char → Prop
  | [], _ => False
  | [(name, item)], text => ∃ before body colon between value after,
    text = before ++ '"' :: (body ++ '"' :: (colon ++ ':' :: (between ++ (value ++ after))))
      ∧ Blank before ∧ StringUnits body name ∧ Blank colon ∧ Blank between ∧ Spells item value
      ∧ Blank after
  | (name, item) :: next :: members, text => ∃ before body colon between value after rest,
    text = before ++ '"' :: (body ++ '"' :: (colon ++ ':' :: (between ++ (value ++ (after
        ++ ',' :: rest)))))
      ∧ Blank before ∧ StringUnits body name ∧ Blank colon ∧ Blank between ∧ Spells item value
      ∧ Blank after ∧ SpellsMembers (next :: members) rest

end

/-- `JSON-text`. -/
def JsonText (text : List Char) (tree : JsonTree) : Prop :=
  ∃ before value after, text = before ++ (value ++ after) ∧ Blank before ∧ Spells tree value
    ∧ Blank after

/-! ## Size of a tree -/

mutual

/-- The number of containers around the innermost value. -/
def JsonTree.nesting : JsonTree → Nat
  | .array items => itemsNesting items + 1
  | .object members => membersNesting members + 1
  | _ => 0

def itemsNesting : List JsonTree → Nat
  | [] => 0
  | item :: items => max item.nesting (itemsNesting items)

def membersNesting : List (List Nat × JsonTree) → Nat
  | [] => 0
  | (_, item) :: members => max item.nesting (membersNesting members)

end

mutual

/-- No array or object has more than `limit` entries. -/
def JsonTree.EntriesWithin (limit : Nat) : JsonTree → Prop
  | .array items => items.length ≤ limit ∧ ItemsWithin limit items
  | .object members => members.length ≤ limit ∧ MembersWithin limit members
  | _ => True

def ItemsWithin (limit : Nat) : List JsonTree → Prop
  | [] => True
  | item :: items => item.EntriesWithin limit ∧ ItemsWithin limit items

def MembersWithin (limit : Nat) : List (List Nat × JsonTree) → Prop
  | [] => True
  | (_, item) :: members => item.EntriesWithin limit ∧ MembersWithin limit members

end

end ControlAssurance.Lib
