import ControlAssurance.Lib.Checked
import ControlAssurance.Lib.Utf8

/-!
# The raw JSON preflight

`_RawJSONPreflight`: a scanner over the bytes of a document that builds no value. It checks the
syntax, the nesting of containers, the entries of each collection, and on the way the length of an
envelope's payload and the number of a trusted key's payload types.

The scanner's position is the list of bytes that are left. Its loops and its recursion run on fuel
that the number of bytes bounds; `preflight_terminates` says that they never need more.
-/

namespace ControlAssurance.Attestation

open Lib

abbrev Bytes := List UInt8

/-- A Python string: its code points. -/
abbrev Text := List Nat

/-- The code points of a literal. -/
def text (literal : String) : Text := literal.toList.map Char.toNat

def maxEnvelopeBytes : Nat := 4 * 1024 * 1024

def maxTrustPolicyBytes : Nat := 1 * 1024 * 1024

def maxDecodedPayloadBytes : Nat := 2 * 1024 * 1024

def maxEncodedPayloadLength : Nat := 4 * ((maxDecodedPayloadBytes + 2) / 3)

def maxEnvelopeSignatures : Nat := 64

def maxTrustedKeys : Nat := 256

def maxAllowedPayloadTypes : Nat := 16

inductive PreflightError where
  /-- `_ResourceLimitError`. -/
  | resource (text : String)
  /-- `ValueError`. -/
  | invalid (text : String)
  /-- The fuel of this model. -/
  | exhausted
deriving DecidableEq

/-- The parameters of `_preflight_json_structure`. -/
structure PreflightLimits where
  maxContainers : Nat
  maxCollectionItems : Nat
  enforceEnvelopePayloadLimit : Bool := false
  enforcePolicyPayloadTypesLimit : Bool := false
deriving DecidableEq

/-! ## Bytes -/

/-- `_WHITESPACE`. -/
def isWhitespace (byte : UInt8) : Bool := byte == 0x20 || byte == 0x09 || byte == 0x0A || byte == 0x0D

/-- `_skip_whitespace`. -/
def skipWhitespace (bytes : Bytes) : Bytes := bytes.dropWhile isWhitespace

/-- `_consume_if`: what is left after the expected byte. -/
def consumeIf (expected : UInt8) : Bytes → Option Bytes
  | byte :: rest => if byte = expected then some rest else none
  | [] => none

def isDigit (byte : UInt8) : Bool := 0x30 ≤ byte && byte ≤ 0x39

/-! ## Strings -/

/-- `_STRING_SPECIAL`. -/
def isSpecial (byte : UInt8) : Bool := byte == 0x22 || byte == 0x5C || byte < 0x20 || 0x80 ≤ byte

/-- `_RawJSONString`, while it is read. -/
structure StringScan where
  decodedLength : Nat := 0
  captured : Option Text := some []
  finalCharacters : Text := []
deriving DecidableEq

/-- The last two of the characters. -/
def lastTwo (characters : Text) : Text := characters.drop (characters.length - 2)

/-- Characters are read: they are captured within the limit, and the last two are retained. -/
def StringScan.read (captureLimit : Nat) (retain : Bool) (scan : StringScan) (characters : Text) :
    StringScan :=
  let decodedLength := scan.decodedLength + characters.length
  { decodedLength := decodedLength
    captured := scan.captured.bind fun held =>
      if decodedLength ≤ captureLimit then some (held ++ characters) else none
    finalCharacters := if retain then lastTwo (scan.finalCharacters ++ lastTwo characters) else [] }

/-- A segment of ordinary bytes. -/
def StringScan.segment (captureLimit : Nat) (retain : Bool) (scan : StringScan) (segment : Bytes) :
    StringScan :=
  if segment = [] then scan else scan.read captureLimit retain (segment.map (·.toNat))

/-- `_SIMPLE_ESCAPES`. -/
def simpleEscapes (byte : UInt8) : Option Nat :=
  if byte = 0x22 then some 0x22
  else if byte = 0x5C then some 0x5C
  else if byte = 0x2F then some 0x2F
  else if byte = 0x62 then some 0x08
  else if byte = 0x66 then some 0x0C
  else if byte = 0x6E then some 0x0A
  else if byte = 0x72 then some 0x0D
  else if byte = 0x74 then some 0x09
  else none

/-- A digit of `int(…, 16)`. -/
def hexByte (byte : UInt8) : Option Nat :=
  if 0x30 ≤ byte ∧ byte ≤ 0x39 then some (byte.toNat - 0x30)
  else if 0x61 ≤ byte ∧ byte ≤ 0x66 then some (byte.toNat - 0x61 + 10)
  else if 0x41 ≤ byte ∧ byte ≤ 0x46 then some (byte.toNat - 0x41 + 10)
  else none

/-- White space around the argument of `int`. -/
def isPythonSpace (byte : UInt8) : Bool := byte == 0x20 || (0x09 ≤ byte && byte ≤ 0x0D)

/-- The digits of `int(…, 16)` after its sign and prefix: single underscores may stand between
digits, and white space may follow. -/
def hexDigits (value : Nat) : Bytes → Option Nat
  | [] => some value
  | byte :: rest =>
    if byte = 0x5F then
      match rest with
      | next :: rest => (hexByte next).bind fun digit => hexDigits (value * 16 + digit) rest
      | [] => none
    else
      match hexByte byte with
      | some digit => hexDigits (value * 16 + digit) rest
      | none => if (byte :: rest).all isPythonSpace then some value else none

/-- The first digit, which is required. -/
def hexFirst : Bytes → Option Nat
  | byte :: rest => (hexByte byte).bind fun digit => hexDigits digit rest
  | [] => none

/-- The prefix `0x`, with one underscore after it. -/
def hexPrefixed (bytes : Bytes) : Option Nat :=
  match bytes with
  | zero :: mark :: rest =>
    if zero = 0x30 ∧ (mark = 0x78 ∨ mark = 0x58) then
      hexFirst (if rest.head? = some 0x5F then rest.tail else rest)
    else hexFirst bytes
  | _ => hexFirst bytes

/-- `int(digits.decode("ascii"), 16)`. -/
def pythonHex (digits : Bytes) : Option Int :=
  if digits.all (· < 0x80) then
    match digits.dropWhile isPythonSpace with
    | byte :: rest =>
      if byte = 0x2D then (hexPrefixed rest).map fun n => -(n : Int)
      else if byte = 0x2B then (hexPrefixed rest).map fun n => (n : Int)
      else (hexPrefixed (byte :: rest)).map fun n => (n : Int)
    | [] => none
  else none

/-- `_parse_escape`, after the backslash. -/
def parseEscape : Bytes → Except PreflightError (Nat × Bytes)
  | [] => .error (.invalid "JSON escape is incomplete")
  | escape :: rest =>
    match simpleEscapes escape with
    | some code => .ok (code, rest)
    | none => do
      require (escape = 0x75) (.invalid "JSON string contains an invalid escape")
      require ((rest.take 4).length = 4) (.invalid "JSON Unicode escape is incomplete")
      let code ← expect (pythonHex (rest.take 4)) (.invalid "JSON Unicode escape is invalid")
      require (0 ≤ code) (.invalid "chr() arg not in range(0x110000)")
      pure (code.toNat, rest.drop 4)

/-- The bytes of one character beyond ASCII. -/
def decodeCharacter (encoded : Bytes) : Except PreflightError Nat :=
  match decodeUtf8 encoded with
  | some [character] => .ok character.toNat
  | _ => .error (.invalid "JSON string is not valid UTF-8")

/-- `_next_string_character`. -/
def nextStringCharacter : Bytes → Except PreflightError (Nat × Bytes)
  | [] => .error (.invalid "index out of range")
  | byte :: rest =>
    if byte < 0x20 then .error (.invalid "JSON string contains an unescaped control byte")
    else if byte = 0x5C then parseEscape rest
    else if byte < 0x80 then .ok (byte.toNat, rest)
    else do
      let width ← expect (announcedWidth byte) (.invalid "JSON string is not valid UTF-8")
      let encoded := (byte :: rest).take width
      require (encoded.length = width) (.invalid "JSON string is not valid UTF-8")
      let character ← decodeCharacter encoded
      pure (character, (byte :: rest).drop width)

/-- The loop of `_parse_string`. -/
def stringLoop (captureLimit : Nat) (retain : Bool) :
    Nat → StringScan → Bytes → Except PreflightError (StringScan × Bytes)
  | 0, _, _ => .error .exhausted
  | fuel + 1, scan, bytes =>
    let segment := bytes.takeWhile fun byte => !isSpecial byte
    let scan := scan.segment captureLimit retain segment
    match bytes.dropWhile fun byte => !isSpecial byte with
    | [] => .error (.invalid "JSON string is incomplete")
    | byte :: rest =>
      if byte = 0x22 then .ok (scan, rest)
      else do
        let (character, rest) ← nextStringCharacter (byte :: rest)
        stringLoop captureLimit retain fuel (scan.read captureLimit retain [character]) rest

/-- `_parse_string`. -/
def parseString (captureLimit : Nat) (retain : Bool) (bytes : Bytes) :
    Except PreflightError (StringScan × Bytes) := do
  let rest ← expect (consumeIf 0x22 bytes) (.invalid "JSON string is missing its opening quote")
  stringLoop captureLimit retain (rest.length + 1) {} rest

/-- `_MEMBER_CAPTURE_LIMIT`. -/
def memberCaptureLimit : Nat := max (text "payload").length (text "allowed_payload_types").length

/-- The padding that base64 text ends with. -/
def padding (characters : Text) : Nat :=
  if characters.getLast? = some '='.toNat then
    if characters.dropLast.getLast? = some '='.toNat then 2 else 1
  else 0

/-- `_check_decoded_payload_limit`. -/
def checkDecodedPayloadLimit (value : StringScan) : Except PreflightError Unit := do
  require (value.decodedLength ≤ maxEncodedPayloadLength)
    (.resource "encoded payload exceeds the profile limit")
  if value.decodedLength % 4 ≠ 0 then pure ()
  else do
    require (value.decodedLength / 4 * 3 - padding value.finalCharacters ≤ maxDecodedPayloadBytes)
      (.resource "decoded payload exceeds the profile limit")

/-! ## Literals and numbers -/

/-- `_parse_literal`. -/
def parseLiteral (bytes : Bytes) : Except PreflightError Bytes :=
  let literal : Bytes :=
    if bytes.head? = some 0x74 then [0x74, 0x72, 0x75, 0x65]
    else if bytes.head? = some 0x66 then [0x66, 0x61, 0x6C, 0x73, 0x65]
    else [0x6E, 0x75, 0x6C, 0x6C]
  if bytes.take literal.length = literal then .ok (bytes.drop literal.length)
  else .error (.invalid "JSON literal is invalid")

/-- One digit, and `while self._consume_digit(): pass`. -/
def consumeDigits (bytes : Bytes) (missing : String) : Except PreflightError Bytes :=
  match bytes with
  | byte :: rest => if isDigit byte then .ok (rest.dropWhile isDigit) else .error (.invalid missing)
  | [] => .error (.invalid missing)

def parseInteger (bytes : Bytes) : Except PreflightError Bytes :=
  match bytes with
  | byte :: rest =>
    if byte = 0x30 then .ok rest
    else if 0x31 ≤ byte ∧ byte ≤ 0x39 then .ok (rest.dropWhile isDigit)
    else .error (.invalid "JSON number has an invalid integer part")
  | [] => .error (.invalid "JSON number has an invalid integer part")

def parseFraction (bytes : Bytes) : Except PreflightError Bytes :=
  match consumeIf 0x2E bytes with
  | some rest => consumeDigits rest "JSON number has an invalid fraction"
  | none => .ok bytes

def parseExponent (bytes : Bytes) : Except PreflightError Bytes :=
  match bytes with
  | byte :: rest =>
    if byte = 0x65 ∨ byte = 0x45 then
      consumeDigits (if rest.head? = some 0x2B ∨ rest.head? = some 0x2D then rest.tail else rest)
        "JSON number has an invalid exponent"
    else .ok (byte :: rest)
  | [] => .ok []

/-- The sign of `_parse_number`. -/
def parseSign (bytes : Bytes) : Except PreflightError Bytes :=
  match consumeIf 0x2D bytes with
  | some rest => do
    require (rest ≠ []) (.invalid "JSON number is incomplete")
    pure rest
  | none => .ok bytes

/-- `_parse_number`. -/
def parseNumber (bytes : Bytes) : Except PreflightError Bytes := do
  let bytes ← parseSign bytes
  let bytes ← parseInteger bytes
  let bytes ← parseFraction bytes
  parseExponent bytes

/-! ## Values -/

variable (L : PreflightLimits)

/-- `_enter_container`. -/
def enterContainer (depth : Nat) : Except PreflightError Unit :=
  require (depth ≤ L.maxContainers) (.resource "JSON nesting exceeds the profile depth limit")

/-- `_check_collection_limit`. -/
def checkCollectionLimit (items : Nat) : Except PreflightError Unit :=
  require (items ≤ L.maxCollectionItems) (.resource "JSON collection exceeds the profile item limit")

/-- A value is the payload of an envelope. -/
def isPayloadMember (depth : Nat) (member : Option Text) : Bool :=
  L.enforceEnvelopePayloadLimit && depth == 1 && member == some (text "payload")

/-- The limit of an array of payload types. -/
def allowedTypesLimit (member : Option Text) : Option Nat :=
  if L.enforcePolicyPayloadTypesLimit && member == some (text "allowed_payload_types") then
    some maxAllowedPayloadTypes
  else none

/-- The name that was captured, within the limit. -/
def StringScan.name (scan : StringScan) : Option Text :=
  if scan.decodedLength ≤ memberCaptureLimit then scan.captured else none

mutual

/-- `_parse_value`; entering a container is the start of `_parse_object` and `_parse_array`. -/
def parseValue : Nat → Nat → Bool → Option Nat → Bytes → Except PreflightError Bytes
  | 0, _, _, _, _ => .error .exhausted
  | fuel + 1, depth, payloadString, itemLimit, bytes =>
    match skipWhitespace bytes with
    | [] => .error (.invalid "JSON document is incomplete")
    | byte :: rest =>
      if byte = 0x7B then do
        enterContainer L (depth + 1)
        match consumeIf 0x7D (skipWhitespace rest) with
        | some rest => pure rest
        | none => objectLoop fuel (depth + 1) 1 (skipWhitespace rest)
      else if byte = 0x5B then do
        enterContainer L (depth + 1)
        match consumeIf 0x5D (skipWhitespace rest) with
        | some rest => pure rest
        | none => arrayLoop fuel (depth + 1) itemLimit 1 (skipWhitespace rest)
      else if byte = 0x22 then do
        let (string, rest) ← parseString 0 payloadString (byte :: rest)
        if payloadString then do
          checkDecodedPayloadLimit string
          pure rest
        else pure rest
      else if byte = 0x74 ∨ byte = 0x66 ∨ byte = 0x6E then parseLiteral (byte :: rest)
      else if byte = 0x2D ∨ isDigit byte then parseNumber (byte :: rest)
      else .error (.invalid "JSON value has invalid syntax")

/-- The loop of `_parse_object`, at its `items`-th member. -/
def objectLoop : Nat → Nat → Nat → Bytes → Except PreflightError Bytes
  | 0, _, _, _ => .error .exhausted
  | fuel + 1, depth, items, bytes => do
    checkCollectionLimit L items
    require (bytes.head? = some 0x22) (.invalid "JSON object member name must be a string")
    let (member, rest) ← parseString memberCaptureLimit false bytes
    let rest ← expect (consumeIf 0x3A (skipWhitespace rest))
      (.invalid "JSON object member is missing a colon")
    let rest ← parseValue fuel depth (isPayloadMember L depth member.name)
      (allowedTypesLimit L member.name) rest
    match consumeIf 0x7D (skipWhitespace rest) with
    | some rest => pure rest
    | none => do
      let rest ← expect (consumeIf 0x2C (skipWhitespace rest))
        (.invalid "JSON object members must be comma separated")
      objectLoop fuel depth (items + 1) (skipWhitespace rest)

/-- The loop of `_parse_array`, at its `items`-th item. -/
def arrayLoop : Nat → Nat → Option Nat → Nat → Bytes → Except PreflightError Bytes
  | 0, _, _, _, _ => .error .exhausted
  | fuel + 1, depth, itemLimit, items, bytes => do
    checkCollectionLimit L items
    require (∀ limit ∈ itemLimit, items ≤ limit)
      (.resource "allowed payload type count exceeds the profile limit")
    let rest ← parseValue fuel depth false none bytes
    match consumeIf 0x5D (skipWhitespace rest) with
    | some rest => pure rest
    | none => do
      let rest ← expect (consumeIf 0x2C (skipWhitespace rest))
        (.invalid "JSON array items must be comma separated")
      arrayLoop fuel depth itemLimit (items + 1) (skipWhitespace rest)

end

/-- `_preflight_json_structure`. -/
def preflightJsonStructure (payload : Bytes) : Except PreflightError Unit := do
  let rest ← parseValue L (2 * payload.length + 1) 0 false none (skipWhitespace payload)
  require (skipWhitespace rest = []) (.invalid "JSON document has trailing content")

end ControlAssurance.Attestation
