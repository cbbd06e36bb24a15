import ControlAssurance.Attestation.Preflight
import ControlAssurance.Lib.JsonGrammar
import ControlAssurance.JsonLines

/-!
# Strict JSON

`strict_json_loads`: a document as Python holds it, the checks of `_validate_tree` and the limits.
`json.loads`, with the hooks it is called with, is a parameter; `Implements` is what is asked of it,
that it accepts only texts of the grammar and makes of them what `loaded` says.
-/

namespace ControlAssurance.Attestation

open Lib

/-- `ENVELOPE_JSON_LIMITS`. -/
def envelopeJsonLimits : JsonLimits where
  maxBytes := maxEnvelopeBytes
  maxLineBytes := maxEnvelopeBytes
  maxDepth := 4
  maxCollectionItems := maxEnvelopeSignatures
  maxStringLength := maxEncodedPayloadLength

def maxIdentityLength : Nat := 512

/-- `TRUST_POLICY_JSON_LIMITS`. -/
def trustPolicyJsonLimits : JsonLimits where
  maxBytes := maxTrustPolicyBytes
  maxLineBytes := maxTrustPolicyBytes
  maxDepth := 5
  maxCollectionItems := maxTrustedKeys
  maxStringLength := maxIdentityLength

/-- `I_JSON_MAX_INTEGER`. -/
def iJsonMaxInteger : Nat := 2 ^ 53 - 1

/-- A loaded document. A float is the text it was read from. -/
inductive JsonValue where
  | null
  | bool (value : Bool)
  | int (value : Int)
  | float (source : List Char)
  | string (value : Text)
  | list (items : List JsonValue)
  | dict (members : List (Text × JsonValue))

def JsonValue.isNumber : JsonValue → Bool
  | .int _ => true
  | .float _ => true
  | _ => false

/-! ## What `json.loads` makes of a text -/

/-- Escaped surrogates that form a pair are one code point. -/
def joinSurrogates : List Nat → Text
  | high :: low :: rest =>
    if 0xD800 ≤ high ∧ high ≤ 0xDBFF ∧ 0xDC00 ≤ low ∧ low ≤ 0xDFFF then
      (0x10000 + (high - 0xD800) * 0x400 + (low - 0xDC00)) :: joinSurrogates rest
    else high :: joinSurrogates (low :: rest)
  | other => other

/-- The digits of an integer. -/
def decimal (digits : List Char) : Nat :=
  digits.foldl (fun n c => n * 10 + (c.toNat - '0'.toNat)) 0

/-- `_parse_int`, where it does not raise. -/
def parseInt (source : List Char) : Option Int :=
  let negative := source.head? = some '-'
  let digits := if negative then source.tail else source
  if source = ['-', '0'] then none
  else if 16 < digits.length then none
  else if iJsonMaxInteger < decimal digits then none
  else some (if negative then -(decimal digits : Int) else decimal digits)

/-- `_parse_int` or `_parse_float`, by the shape of the number. -/
def loadNumber (parseFloat : List Char → Bool) (source : List Char) : Option JsonValue :=
  if source.any fun c => c == '.' || c == 'e' || c == 'E' then
    if parseFloat source then some (.float source) else none
  else (parseInt source).map .int

mutual

/-- The value of a tree, with the hooks of `strict_json_loads`, where none of them raises. -/
def loaded (parseFloat : List Char → Bool) : JsonTree → Option JsonValue
  | .null => some .null
  | .bool value => some (.bool value)
  | .number source => loadNumber parseFloat source
  | .string units => some (.string (joinSurrogates units))
  | .array items => (loadedItems parseFloat items).map .list
  | .object members => (loadedMembers parseFloat members).bind fun pairs =>
      if (pairs.map (·.1)).Nodup then some (.dict pairs) else none

def loadedItems (parseFloat : List Char → Bool) : List JsonTree → Option (List JsonValue)
  | [] => some []
  | item :: items => (loaded parseFloat item).bind fun value =>
      (loadedItems parseFloat items).map (value :: ·)

def loadedMembers (parseFloat : List Char → Bool) :
    List (List Nat × JsonTree) → Option (List (Text × JsonValue))
  | [] => some []
  | (name, item) :: members => (loaded parseFloat item).bind fun value =>
      (loadedMembers parseFloat members).map ((joinSurrogates name, value) :: ·)

end

/-- The library calls: `json.loads` with its hooks, which answers with the text of its exception,
the floats that `_parse_float` lets pass and those that `_validate_tree` does. -/
structure JsonRuntime where
  loads : List Char → Except String JsonValue
  parseFloat : List Char → Bool
  checkFloat : List Char → Except String Unit

/-- `json.loads` implements the grammar. -/
def JsonRuntime.Implements (J : JsonRuntime) : Prop :=
  ∀ chars value, J.loads chars = .ok value →
    ∃ tree, JsonText chars tree ∧ loaded J.parseFloat tree = some value

/-! ## Checks -/

/-- `_reject_surrogates`. -/
def rejectSurrogates (value : Text) : Except String Unit :=
  require (∀ code ∈ value, ¬(0xD800 ≤ code ∧ code ≤ 0xDFFF))
    "Unicode surrogate code points are not allowed"

variable (J : JsonRuntime) (limits : JsonLimits)

mutual

/-- `_validate_tree`. -/
def validateTree : Nat → JsonValue → Except String Unit
  | depth, .string value => do
    require (depth ≤ limits.maxDepth) "JSON nesting exceeds the configured limit"
    require (value.length ≤ limits.maxStringLength) "JSON string exceeds the configured limit"
    rejectSurrogates value
  | depth, .int value => do
    require (depth ≤ limits.maxDepth) "JSON nesting exceeds the configured limit"
    require (value.natAbs ≤ iJsonMaxInteger)
      "JSON integer exceeds the interoperable I-JSON range"
  | depth, .float source => do
    require (depth ≤ limits.maxDepth) "JSON nesting exceeds the configured limit"
    J.checkFloat source
  | depth, .list items => do
    require (depth ≤ limits.maxDepth) "JSON nesting exceeds the configured limit"
    require (items.length ≤ limits.maxCollectionItems)
      "JSON array exceeds the configured item limit"
    validateItems (depth + 1) items
  | depth, .dict members => do
    require (depth ≤ limits.maxDepth) "JSON nesting exceeds the configured limit"
    require (members.length ≤ limits.maxCollectionItems)
      "JSON object exceeds the configured member limit"
    validateMembers (depth + 1) members
  | depth, _ => require (depth ≤ limits.maxDepth) "JSON nesting exceeds the configured limit"

def validateItems : Nat → List JsonValue → Except String Unit
  | _, [] => pure ()
  | depth, item :: items => do
    validateTree depth item
    validateItems depth items

def validateMembers : Nat → List (Text × JsonValue) → Except String Unit
  | _, [] => pure ()
  | depth, (key, item) :: members => do
    rejectSurrogates key
    require (key.length ≤ limits.maxStringLength) "JSON object key exceeds the configured limit"
    validateTree depth item
    validateMembers depth members

end

/-- `strict_json_loads`. -/
def strictJsonLoads (payload : Bytes) : Except String JsonValue := do
  require (payload.length ≤ limits.maxBytes) "JSON payload exceeds the configured byte limit"
  require (payload.take 3 ≠ [0xEF, 0xBB, 0xBF]) "UTF-8 byte-order marks are not allowed"
  let chars ← expect (decodeUtf8 payload) "JSON payload is not valid UTF-8"
  let value ← J.loads chars
  validateTree J limits 0 value
  pure value

end ControlAssurance.Attestation
