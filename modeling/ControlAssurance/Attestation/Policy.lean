import ControlAssurance.Attestation.Envelope
import ControlAssurance.Attestation.Timestamp

/-!
# Trust policies

`TrustedKey` and `TrustPolicy`, whose values carry the checks of their validators, the canonical
form of a policy, and `parse_trust_policy`. RFC 8785 serialization is a parameter.
-/

namespace ControlAssurance.Attestation

open Lib

/-- `KeyStatus`. -/
inductive KeyStatus where
  | active
  | disabled
  | revoked
deriving DecidableEq

/-- The wire value. -/
def KeyStatus.value : KeyStatus → Text
  | .active => text "active"
  | .disabled => text "disabled"
  | .revoked => text "revoked"

/-- `KeyStatus(value)`. -/
def KeyStatus.ofValue (value : Text) : Option KeyStatus :=
  [KeyStatus.active, .disabled, .revoked].find? fun status => status.value = value

theorem KeyStatus.ofValue_value (status : KeyStatus) : KeyStatus.ofValue status.value = some status := by
  cases status <;> decide

/-- `<=` of strings, by code points. -/
def textLe : Text → Text → Bool
  | [], _ => true
  | _ :: _, [] => false
  | a :: first, b :: second => a < b || (a == b && textLe first second)

/-- A timestamp is canonical. -/
def TimestampSafe (value : Text) : Prop := (parseCanonicalTimestamp value).isOk = true

instance (value : Text) : Decidable (TimestampSafe value) := inferInstanceAs (Decidable (_ = _))

/-- `_validate_public_key_base64`, with the length that the field asks for. -/
def PublicKeySafe (value : Text) : Prop :=
  value.length = ed25519PublicKeyBase64Length
    ∧ (canonicalBase64Decode value ed25519PublicKeyBase64Length
        (some ed25519PublicKeyBytes)).isOk = true

instance (value : Text) : Decidable (PublicKeySafe value) := inferInstanceAs (Decidable (_ ∧ _))

/-- `payload_types_are_explicit`. -/
def PayloadTypesExplicit (values : List Text) : Prop :=
  values.length ≤ maxAllowedPayloadTypes
    ∧ (∀ value ∈ values, VisibleAscii maxPayloadTypeLength value) ∧ values.Nodup
    ∧ values.Pairwise fun first second => textLe first second = true

instance (values : List Text) : Decidable (PayloadTypesExplicit values) :=
  inferInstanceAs (Decidable (_ ∧ _ ∧ _ ∧ _))

/-- The position of a canonical timestamp. -/
def timestampPosition (value : Text) : Except String Nat :=
  (parseCanonicalTimestamp value).map DateTime.microseconds

/-- `validity_window_is_coherent`. -/
def checkValidityWindow (validFrom : Text) (validUntil : Option Text) (status : KeyStatus)
    (revocationEffectiveAt : Option Text) : Except String Unit := do
  let opens ← timestampPosition validFrom
  match validUntil with
  | some validUntil => do
    let closes ← timestampPosition validUntil
    require (opens < closes) "valid_until must be later than valid_from"
  | none => pure ()
  require (status = .revoked → revocationEffectiveAt ≠ none)
    "revoked keys require revocation_effective_at"

/-- `TrustedKey`. -/
structure TrustedKey where
  keyId : Text
  identity : Text
  algorithm : Text
  publicKey : Text
  allowedPayloadTypes : List Text
  validFrom : Text
  validUntil : Option Text
  status : KeyStatus
  revocationEffectiveAt : Option Text
  keyIdSafe : KeyIdSafe keyId
  identitySafe : VisibleAscii maxIdentityLength identity
  algorithmSafe : algorithm = text "ed25519"
  publicKeySafe : PublicKeySafe publicKey
  payloadTypesExplicit : PayloadTypesExplicit allowedPayloadTypes
  timestampsCanonical : TimestampSafe validFrom ∧ (∀ t ∈ validUntil, TimestampSafe t)
    ∧ ∀ t ∈ revocationEffectiveAt, TimestampSafe t
  windowCoherent : checkValidityWindow validFrom validUntil status revocationEffectiveAt = .ok ()

/-- `public_key_bytes`. -/
def TrustedKey.publicKeyBytes (key : TrustedKey) : Except String Bytes :=
  canonicalBase64Decode key.publicKey ed25519PublicKeyBase64Length (some ed25519PublicKeyBytes)

/-- `trusted_key_material_is_unambiguous`. -/
def checkKeyMaterial (trustedKeys : List TrustedKey) : Except String Unit := do
  require (trustedKeys.map (·.keyId)).Nodup "trusted key ids must be unique"
  let publicKeys ← trustedKeys.mapM TrustedKey.publicKeyBytes
  require publicKeys.Nodup "trusted Ed25519 public-key material must be unique"

def trustPolicyMediaType : Text := text "application/vnd.control-assurance.trust-policy.v1+json"

def trustPolicySchemaVersion : Text := text "1.0.0"

/-- `TrustPolicy`. -/
structure TrustPolicy where
  mediaType : Text
  schemaVersion : Text
  policyId : Text
  threshold : Int
  trustedKeys : List TrustedKey
  mediaTypeLiteral : mediaType = trustPolicyMediaType
  schemaVersionLiteral : schemaVersion = trustPolicySchemaVersion
  policyIdSafe : VisibleAscii 256 policyId
  thresholdBounds : 1 ≤ threshold ∧ threshold ≤ maxTrustedKeys
  keysBounded : trustedKeys.length ≤ maxTrustedKeys
  keyMaterialUnambiguous : checkKeyMaterial trustedKeys = .ok ()

/-! ## Reading -/

def asInt : JsonValue → Except String Int
  | .int value => .ok value
  | _ => .error "Input should be a valid integer"

/-- An optional string, absent or null. -/
def optionalString (name : Text) (members : Members) : Except String (Option Text) :=
  match members.lookup name with
  | none => .ok none
  | some .null => .ok none
  | some value => (asString value).map some

/-- `status_uses_exact_wire_value`. -/
def asStatus : JsonValue → Except String KeyStatus
  | .string value => expect (KeyStatus.ofValue value) "unknown trusted-key status"
  | _ => .error "Input should be an instance of KeyStatus"

/-- The wire names of a trusted key. -/
def trustedKeyFields : List Text :=
  [text "key_id", text "identity", text "algorithm", text "public_key",
    text "allowed_payload_types", text "valid_from", text "valid_until", text "status",
    text "revocation_effective_at"]

/-- The wire names of a policy. -/
def trustPolicyFields : List Text :=
  [text "media_type", text "schema_version", text "policy_id", text "threshold",
    text "trusted_keys"]

theorem safeKeyId {keyId : Text} (h : PLift (KeyIdSafe keyId)) : KeyIdSafe keyId := h.down

/-- `TrustedKey.model_validate`. -/
def TrustedKey.modelValidate (document : JsonValue) : Except String TrustedKey := do
  let members ← asDict document
  forbidExtra trustedKeyFields members
  let keyId ← field (text "key_id") members >>= asString
  let identity ← field (text "identity") members >>= asString
  let algorithm ← field (text "algorithm") members >>= asString
  let publicKey ← field (text "public_key") members >>= asString
  let items ← field (text "allowed_payload_types") members >>= asList
  let allowedPayloadTypes ← items.mapM asString
  let validFrom ← field (text "valid_from") members >>= asString
  let validUntil ← optionalString (text "valid_until") members
  let status ← field (text "status") members >>= asStatus
  let revocationEffectiveAt ← optionalString (text "revocation_effective_at") members
  let keyIdSafe ← ensure (KeyIdSafe keyId) "key id is not portable or exceeds the length limit"
  let identitySafe ← ensure (VisibleAscii maxIdentityLength identity)
    "signer identity must be non-empty visible ASCII"
  let algorithmSafe ← ensure (algorithm = text "ed25519") "Input should be 'ed25519'"
  let publicKeySafe ← ensure (PublicKeySafe publicKey) "value is not canonical RFC 4648 base64"
  let payloadTypesExplicit ← ensure (PayloadTypesExplicit allowedPayloadTypes)
    "allowed payload types must be unique"
  let timestampsCanonical ← ensure (TimestampSafe validFrom ∧ (∀ t ∈ validUntil, TimestampSafe t)
    ∧ ∀ t ∈ revocationEffectiveAt, TimestampSafe t) "timestamp is not a valid UTC date and time"
  let windowCoherent ← ensure
    (checkValidityWindow validFrom validUntil status revocationEffectiveAt = .ok ())
    "valid_until must be later than valid_from"
  pure ⟨keyId, identity, algorithm, publicKey, allowedPayloadTypes, validFrom, validUntil, status,
    revocationEffectiveAt, safeKeyId keyIdSafe, identitySafe.down, algorithmSafe.down,
    publicKeySafe.down, payloadTypesExplicit.down, timestampsCanonical.down, windowCoherent.down⟩

/-- `TrustPolicy.model_validate`. -/
def TrustPolicy.modelValidate (document : JsonValue) : Except String TrustPolicy := do
  let members ← asDict document
  forbidExtra trustPolicyFields members
  let mediaType ← field (text "media_type") members >>= asString
  let schemaVersion ← field (text "schema_version") members >>= asString
  let policyId ← field (text "policy_id") members >>= asString
  let threshold ← field (text "threshold") members >>= asInt
  let items ← field (text "trusted_keys") members >>= asList
  let trustedKeys ← items.mapM TrustedKey.modelValidate
  let mediaTypeLiteral ← ensure (mediaType = trustPolicyMediaType) "Input should be the media type"
  let schemaVersionLiteral ← ensure (schemaVersion = trustPolicySchemaVersion)
    "Input should be '1.0.0'"
  let policyIdSafe ← ensure (VisibleAscii 256 policyId) "policy id must be non-empty visible ASCII"
  let thresholdBounds ← ensure (1 ≤ threshold ∧ threshold ≤ maxTrustedKeys)
    "Input should be between 1 and 256"
  let keysBounded ← ensure (trustedKeys.length ≤ maxTrustedKeys)
    "Tuple should have at most 256 items after validation"
  let keyMaterialUnambiguous ← ensure (checkKeyMaterial trustedKeys = .ok ())
    "trusted key ids must be unique"
  pure ⟨mediaType, schemaVersion, policyId, threshold, trustedKeys, mediaTypeLiteral.down,
    schemaVersionLiteral.down, policyIdSafe.down, thresholdBounds.down, keysBounded.down,
    keyMaterialUnambiguous.down⟩

/-! ## Writing -/

def optionalValue : Option Text → JsonValue
  | some value => .string value
  | none => .null

/-- `TrustedKey.model_dump`. -/
def TrustedKey.modelDump (key : TrustedKey) : JsonValue :=
  .dict [(text "key_id", .string key.keyId), (text "identity", .string key.identity),
    (text "algorithm", .string key.algorithm), (text "public_key", .string key.publicKey),
    (text "allowed_payload_types", .list (key.allowedPayloadTypes.map .string)),
    (text "valid_from", .string key.validFrom), (text "valid_until", optionalValue key.validUntil),
    (text "status", .string key.status.value),
    (text "revocation_effective_at", optionalValue key.revocationEffectiveAt)]

/-- `TrustPolicy.model_dump`. -/
def TrustPolicy.modelDump (policy : TrustPolicy) : JsonValue :=
  .dict [(text "media_type", .string policy.mediaType),
    (text "schema_version", .string policy.schemaVersion),
    (text "policy_id", .string policy.policyId), (text "threshold", .int policy.threshold),
    (text "trusted_keys", .list (policy.trustedKeys.map TrustedKey.modelDump))]

/-- The library calls, with `rfc8785.dump`. -/
structure CanonicalRuntime extends JsonRuntime where
  dump : JsonValue → Except String Bytes

variable (R : CanonicalRuntime)

/-- `canonical_json_bytes`. -/
def canonicalJsonBytes (limits : JsonLimits) (value : JsonValue) : Except String Bytes := do
  validateTree R.toJsonRuntime limits 0 value
  let content ← R.dump value
  require (content.length ≤ limits.maxBytes) "canonical JSON exceeds the configured byte limit"
  pure content

/-- `TrustPolicy.canonical_bytes`. -/
def TrustPolicy.canonicalBytes (policy : TrustPolicy) : Except String Bytes :=
  canonicalJsonBytes R trustPolicyJsonLimits policy.modelDump

/-! ## Parsing -/

/-- The limits of the preflight on a policy. -/
def policyPreflight : PreflightLimits where
  maxContainers := 5
  maxCollectionItems := maxTrustedKeys
  enforcePolicyPayloadTypesLimit := true

/-- `parse_trust_policy` after the preflight. -/
def policyDocument (policyBytes : Bytes) : Except PreflightError TrustPolicy := do
  let document ← (strictJsonLoads R.toJsonRuntime trustPolicyJsonLimits policyBytes).mapError
    .invalid
  let _ ← (asDict document).mapError fun _ => .invalid "trust policy root must be an object"
  let policy ← (TrustPolicy.modelValidate document).mapError .invalid
  let canonical ← (policy.canonicalBytes R).mapError .invalid
  require (canonical = policyBytes) (.invalid "trust policy must use exact RFC 8785 canonical JSON")
  pure policy

/-- `parse_trust_policy`. -/
def parseTrustPolicy (policyBytes : Bytes) : Except PreflightError TrustPolicy := do
  require (policyBytes.length ≤ maxTrustPolicyBytes)
    (.resource "trust policy exceeds the profile byte limit")
  preflightJsonStructure policyPreflight policyBytes
  policyDocument R policyBytes

end ControlAssurance.Attestation
