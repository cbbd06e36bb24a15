import ControlAssurance.Attestation.Base64
import ControlAssurance.Attestation.StrictJson

/-!
# Envelopes

`DSSESignature` and `DSSEEnvelope`, whose values carry the checks of their validators, and
`parse_dsse_envelope`. `envelopeDocument` is what it does after the preflight.
-/

namespace ControlAssurance.Attestation

open Lib

/-! ## Validators -/

def maxKeyIdLength : Nat := 256

def maxPayloadTypeLength : Nat := 512

def ed25519PublicKeyBytes : Nat := 32

def ed25519PublicKeyBase64Length : Nat := 44

def ed25519SignatureBytes : Nat := 64

def ed25519SignatureBase64Length : Nat := 88

/-- Not empty, bounded, and of `_VISIBLE_ASCII_PATTERN`. -/
def VisibleAscii (maximum : Nat) (value : Text) : Prop :=
  value ≠ [] ∧ value.length ≤ maximum ∧ ∀ code ∈ value, 0x21 ≤ code ∧ code ≤ 0x7E

instance (maximum : Nat) (value : Text) : Decidable (VisibleAscii maximum value) :=
  inferInstanceAs (Decidable (_ ∧ _ ∧ _))

def isAlphanumeric (code : Nat) : Bool :=
  ('A'.toNat ≤ code && code ≤ 'Z'.toNat) || ('a'.toNat ≤ code && code ≤ 'z'.toNat)
    || ('0'.toNat ≤ code && code ≤ '9'.toNat)

/-- `_KEY_ID_PATTERN`. -/
def KeyIdSafe (value : Text) : Prop :=
  (value.head?.any isAlphanumeric = true) ∧ value.length ≤ maxKeyIdLength
    ∧ ∀ code ∈ value.tail, isAlphanumeric code = true ∨ code ∈ text "._:@/+~-"

instance (value : Text) : Decidable (KeyIdSafe value) := inferInstanceAs (Decidable (_ ∧ _ ∧ _))

/-- `_validate_signature_base64`, with the length that the field asks for. -/
def SignatureSafe (value : Text) : Prop :=
  value.length = ed25519SignatureBase64Length
    ∧ (canonicalBase64Decode value ed25519SignatureBase64Length
        (some ed25519SignatureBytes)).isOk = true

instance (value : Text) : Decidable (SignatureSafe value) := inferInstanceAs (Decidable (_ ∧ _))

/-- The check of `_validate_payload_base64` on what is decoded. -/
def decodePayload (value : Text) : Except String Bytes := do
  let decoded ← canonicalBase64Decode value maxEncodedPayloadLength none
  require (decoded.length ≤ maxDecodedPayloadBytes)
    "decoded payload exceeds the configured byte limit"
  pure decoded

/-- `_validate_payload_base64`. -/
def PayloadSafe (value : Text) : Prop := (decodePayload value).isOk = true

instance (value : Text) : Decidable (PayloadSafe value) := inferInstanceAs (Decidable (_ = _))

theorem isOk_iff {ε α : Type} {x : Except ε α} : x.isOk = true ↔ ∃ a, x = .ok a := by
  cases x <;> simp [Except.isOk, Except.toBool]

/-! ## Models -/

abbrev Members := List (Text × JsonValue)

/-- A check of a model, with its proof. -/
def ensure {ε : Type} (p : Prop) [Decidable p] (e : ε) : Except ε (PLift p) :=
  if h : p then .ok ⟨h⟩ else .error e

theorem ensure_eq_ok {ε : Type} {p : Prop} [Decidable p] {e : ε} (h : p) :
    ensure p e = .ok ⟨h⟩ := dif_pos h

/-- `extra="forbid"`. -/
def forbidExtra (fields : List Text) (members : Members) : Except String Unit :=
  require (∀ entry ∈ members, entry.1 ∈ fields) "Extra inputs are not permitted"

/-- A required field. -/
def field (name : Text) (members : Members) : Except String JsonValue :=
  expect (members.lookup name) "Field required"

def asString : JsonValue → Except String Text
  | .string value => .ok value
  | _ => .error "Input should be a valid string"

def asDict : JsonValue → Except String Members
  | .dict members => .ok members
  | _ => .error "Input should be a valid dictionary"

/-- `_tuple_from_array`. -/
def asList : JsonValue → Except String (List JsonValue)
  | .list items => .ok items
  | _ => .error "value must be an array"

/-- `DSSESignature`. -/
structure DsseSignature where
  keyid : Text
  sig : Text
  keyidSafe : KeyIdSafe keyid
  sigSafe : SignatureSafe sig

/-- `DSSEEnvelope`. -/
structure DsseEnvelope where
  payloadType : Text
  payload : Text
  signatures : List DsseSignature
  payloadTypeSafe : VisibleAscii maxPayloadTypeLength payloadType
  payloadSafe : PayloadSafe payload
  signaturesBounded : signatures.length ≤ maxEnvelopeSignatures

/-- The wire names of a signature. -/
def signatureFields : List Text := [text "keyid", text "sig"]

/-- The wire names of an envelope. -/
def envelopeFields : List Text := [text "payloadType", text "payload", text "signatures"]

/-- `DSSESignature.model_validate`. -/
def DsseSignature.modelValidate (document : JsonValue) : Except String DsseSignature := do
  let members ← asDict document
  forbidExtra signatureFields members
  let keyid ← field (text "keyid") members >>= asString
  let sig ← field (text "sig") members >>= asString
  let keyidSafe ← ensure (KeyIdSafe keyid) "key id is not portable or exceeds the length limit"
  let sigSafe ← ensure (SignatureSafe sig) "value is not canonical RFC 4648 base64"
  pure ⟨keyid, sig, keyidSafe.down, sigSafe.down⟩

/-- `DSSEEnvelope.model_validate`. -/
def DsseEnvelope.modelValidate (document : JsonValue) : Except String DsseEnvelope := do
  let members ← asDict document
  forbidExtra envelopeFields members
  let payloadType ← field (text "payloadType") members >>= asString
  let payload ← field (text "payload") members >>= asString
  let items ← field (text "signatures") members >>= asList
  let signatures ← items.mapM DsseSignature.modelValidate
  let payloadTypeSafe ← ensure (VisibleAscii maxPayloadTypeLength payloadType)
    "payload type must be non-empty visible ASCII"
  let payloadSafe ← ensure (PayloadSafe payload) "value is not canonical RFC 4648 base64"
  let signaturesBounded ← ensure (signatures.length ≤ maxEnvelopeSignatures)
    "Tuple should have at most 64 items after validation"
  pure ⟨payloadType, payload, signatures, payloadTypeSafe.down, payloadSafe.down,
    signaturesBounded.down⟩

/-! ## Parsing -/

/-- A string member, if it is one. -/
def stringMember (name : Text) (members : Members) : Option Text :=
  match members.lookup name with
  | some (.string value) => some value
  | _ => none

/-- The loop body of `_validate_raw_envelope_shape`. -/
def checkRawSignature (signature : JsonValue) : Except PreflightError Unit := do
  let members ← (asDict signature).mapError fun _ =>
    .invalid "each DSSE signature must be an object"
  require (∀ encoded ∈ stringMember (text "sig") members,
      encoded.length ≤ ed25519SignatureBase64Length)
    (.resource "encoded signature exceeds the profile limit")

/-- `_validate_raw_envelope_shape`. -/
def validateRawEnvelopeShape (members : Members) : Except PreflightError Unit := do
  let payload := stringMember (text "payload") members
  require (∀ encoded ∈ payload, encoded.length ≤ maxEncodedPayloadLength)
    (.resource "encoded payload exceeds the profile limit")
  require (∀ encoded ∈ payload, encoded.length % 4 = 0 →
      encoded.length / 4 * 3 - padding encoded ≤ maxDecodedPayloadBytes)
    (.resource "decoded payload exceeds the profile limit")
  let signatures ← ((field (text "signatures") members >>= asList)).mapError fun _ =>
    .invalid "DSSE signatures must be an array"
  require (signatures.length ≤ maxEnvelopeSignatures)
    (.resource "signature count exceeds the profile limit")
  signatures.forM checkRawSignature

/-- The limits of the preflight on an envelope. -/
def envelopePreflight : PreflightLimits where
  maxContainers := 4
  maxCollectionItems := maxEnvelopeSignatures
  enforceEnvelopePayloadLimit := true

variable (J : JsonRuntime)

/-- `parse_dsse_envelope` after the preflight. -/
def envelopeDocument (envelopeBytes : Bytes) : Except PreflightError DsseEnvelope := do
  let document ← (strictJsonLoads J envelopeJsonLimits envelopeBytes).mapError .invalid
  let members ← (asDict document).mapError fun _ =>
    .invalid "DSSE envelope root must be an object"
  validateRawEnvelopeShape members
  (DsseEnvelope.modelValidate document).mapError .invalid

/-- `parse_dsse_envelope`. -/
def parseDsseEnvelope (envelopeBytes : Bytes) : Except PreflightError DsseEnvelope := do
  require (envelopeBytes.length ≤ maxEnvelopeBytes)
    (.resource "DSSE envelope exceeds the profile byte limit")
  preflightJsonStructure envelopePreflight envelopeBytes
  envelopeDocument J envelopeBytes

end ControlAssurance.Attestation
