import ControlAssurance.Attestation.Policy
import ControlAssurance.Digests

/-!
# DSSE verification

`verify_dsse_attestation` and the decision that it returns. A stage of it stops with a refusal,
which becomes a failed decision, or with an exception, which would leave the function.
-/

namespace ControlAssurance.Attestation

open Lib

/-- `AttestationReason`. -/
inductive AttestationReason where
  | verified
  | invalidExpectation
  | invalidAdmissionTime
  | malformedPolicy
  | malformedEnvelope
  | malformedBase64
  | resourceLimitExceeded
  | payloadTypeMismatch
  | payloadMismatch
  | duplicateTrustedKey
  | duplicateSigner
  | unknownSigner
  | unknownAlgorithm
  | payloadTypeNotAllowed
  | keyNotYetValid
  | keyExpired
  | keyDisabled
  | keyRevoked
  | invalidPublicKey
  | invalidSignature
  | thresholdNotMet
deriving DecidableEq

/-- `_VerificationProvenance`. -/
structure VerificationProvenance where
  rawEnvelopeSha256 : Option Digest := none
  expectedPayloadSha256 : Option Digest := none
  expectedPayloadType : Option Text := none
  trustPolicySha256 : Option Digest := none
  policyId : Option Text := none
  admissionTime : Option Text := none
deriving DecidableEq

/-- `AttestationVerification`. -/
structure AttestationVerification extends VerificationProvenance where
  verified : Bool
  reasonCode : AttestationReason
  thresholdRequired : Option Int
  acceptedKeyIds : List Text := []
  acceptedIdentities : List Text := []
deriving DecidableEq

/-! ## The decision -/

/-- `tuple(sorted(set(values)))`. -/
def sortedSet (values : List Text) : List Text := values.dedup.mergeSort textLe

/-- `decision_is_coherent`. -/
def AttestationVerification.decisionIsCoherent (decision : AttestationVerification) :
    Except String Unit := do
  require (decision.acceptedKeyIds = sortedSet decision.acceptedKeyIds)
    "accepted key ids must be unique and sorted"
  require (decision.acceptedIdentities = sortedSet decision.acceptedIdentities)
    "accepted identities must be unique and sorted"
  if decision.verified then do
    require (decision.reasonCode = .verified) "verified decisions require the verified reason code"
    let threshold ← expect decision.thresholdRequired
      "verified decisions require complete provenance"
    require (decision.rawEnvelopeSha256.isSome ∧ decision.expectedPayloadSha256.isSome
        ∧ decision.expectedPayloadType.isSome ∧ decision.trustPolicySha256.isSome
        ∧ decision.policyId.isSome ∧ decision.admissionTime.isSome)
      "verified decisions require complete provenance"
    require (threshold ≤ decision.acceptedIdentities.length)
      "verified decisions must satisfy their identity threshold"
    require (decision.acceptedKeyIds.length = decision.acceptedIdentities.length)
      "verified decisions require one key per accepted identity"
  else do
    require (decision.reasonCode ≠ .verified) "failed decisions cannot use the verified reason code"
    require (decision.acceptedKeyIds = [] ∧ decision.acceptedIdentities = [])
      "failed decisions cannot retain accepted signers"

/-- The validators of `AttestationVerification`, which run when a decision is built. -/
def AttestationVerification.build (decision : AttestationVerification) :
    Except String AttestationVerification := do
  require (∀ threshold ∈ decision.thresholdRequired, 1 ≤ threshold ∧ threshold ≤ maxTrustedKeys)
    "Input should be between 1 and 256"
  require (∀ value ∈ decision.expectedPayloadType, VisibleAscii maxPayloadTypeLength value)
    "payload type must be non-empty visible ASCII"
  require (∀ value ∈ decision.policyId, VisibleAscii 256 value)
    "policy id must be non-empty visible ASCII"
  require (∀ value ∈ decision.admissionTime, TimestampSafe value)
    "timestamp is not a valid UTC date and time"
  decision.decisionIsCoherent
  pure decision

/-- `_failed`. -/
def failed (reason : AttestationReason) (threshold : Option Int)
    (provenance : VerificationProvenance) : Except String AttestationVerification :=
  AttestationVerification.build { provenance with
    verified := false, reasonCode := reason, thresholdRequired := threshold }

/-- `_verified`. -/
def verified (threshold : Int) (keyIds identities : List Text)
    (provenance : VerificationProvenance) : Except String AttestationVerification :=
  AttestationVerification.build { provenance with
    verified := true, reasonCode := .verified, thresholdRequired := some threshold
    acceptedKeyIds := keyIds.mergeSort textLe, acceptedIdentities := identities.mergeSort textLe }

/-! ## The signed bytes -/

def dssePaeVersion : Text := text "DSSEv1"

/-- `encode("utf-8", errors="strict")`. -/
def encodeText (value : Text) : Option Bytes :=
  if ∀ code ∈ value, code.isValidChar then some (utf8 (value.map Char.ofNat)) else none

/-- `str(n).encode("ascii")`. -/
def decimalBytes (n : Nat) : Bytes := (Nat.toDigits 10 n).map fun c => UInt8.ofNat c.toNat

/-- `dsse_pae`. -/
def dssePae (payloadType : Text) (payload : Bytes) : Except String Bytes := do
  let encodedType ← expect (encodeText payloadType) "payload_type is not valid Unicode"
  pure (List.intercalate [0x20] [dssePaeVersion.map UInt8.ofNat, decimalBytes encodedType.length,
    encodedType, decimalBytes payload.length, payload])

/-! ## The policy -/

/-- The bounds of `_bounded_programmatic_policy_primitive` on a key. -/
def boundedKeyPrimitive (key : TrustedKey) : Option JsonValue :=
  if key.keyId.length ≤ maxKeyIdLength ∧ key.identity.length ≤ maxIdentityLength
      ∧ key.algorithm.length ≤ 64 ∧ key.publicKey.length ≤ ed25519PublicKeyBase64Length
      ∧ key.validFrom.length ≤ 27 ∧ (∀ t ∈ key.validUntil, t.length ≤ 27)
      ∧ (∀ t ∈ key.revocationEffectiveAt, t.length ≤ 27)
      ∧ key.allowedPayloadTypes.length ≤ maxAllowedPayloadTypes
      ∧ ∀ value ∈ key.allowedPayloadTypes, value.length ≤ maxPayloadTypeLength then
    some key.modelDump
  else none

/-- `_bounded_programmatic_policy_primitive`. -/
def boundedProgrammaticPolicyPrimitive (policy : TrustPolicy) : Option JsonValue :=
  if policy.mediaType.length ≤ 128 ∧ policy.schemaVersion.length ≤ 32 ∧ policy.policyId.length ≤ 256
      ∧ (1 ≤ policy.threshold ∧ policy.threshold ≤ maxTrustedKeys)
      ∧ policy.trustedKeys.length ≤ maxTrustedKeys then do
    let primitiveKeys ← policy.trustedKeys.mapM boundedKeyPrimitive
    some (.dict [(text "media_type", .string policy.mediaType),
      (text "schema_version", .string policy.schemaVersion),
      (text "policy_id", .string policy.policyId), (text "threshold", .int policy.threshold),
      (text "trusted_keys", .list primitiveKeys)])
  else none

/-- The library calls of verification. -/
structure AttestationRuntime extends CanonicalRuntime where
  sha256 : Bytes → Digest
  /-- `Ed25519PublicKey.from_public_bytes` accepts the bytes. -/
  acceptsPublicKey : Bytes → Bool
  /-- `verify` of a public key, on a signature and a message. -/
  verifies : Bytes → Bytes → Bytes → Bool

variable (R : AttestationRuntime)

/-- `_revalidate_programmatic_policy`. -/
def revalidateProgrammaticPolicy (policy : TrustPolicy) : Option TrustPolicy := do
  let primitive ← boundedProgrammaticPolicyPrimitive policy
  let revalidated ← (TrustPolicy.modelValidate primitive).toOption
  let _ ← (revalidated.canonicalBytes R.toCanonicalRuntime).toOption
  some revalidated

/-! ## The stages -/

/-- How a stage ends without a result. -/
inductive Stop where
  | refuse (reason : AttestationReason)
  | raise (text : String)
deriving DecidableEq

/-- A candidate of `_looks_like_malformed_base64`. -/
def malformedCandidate (candidate : Option Text) (maximum : Nat) (exactLength : Option Nat) : Bool :=
  candidate.any fun value => !(canonicalBase64Decode value maximum exactLength).isOk

/-- `_looks_like_malformed_base64`. -/
def looksLikeMalformedBase64 (document : Members) : Bool :=
  match document.lookup (text "signatures") with
  | some (.list signatures) =>
    if maxEnvelopeSignatures < signatures.length then false
    else malformedCandidate (stringMember (text "payload") document) maxEncodedPayloadLength none
      || signatures.any fun signature => match signature with
        | .dict members => malformedCandidate (stringMember (text "sig") members)
            ed25519SignatureBase64Length (some ed25519SignatureBytes)
        | _ => false
  | _ => malformedCandidate (stringMember (text "payload") document) maxEncodedPayloadLength none

/-- The refusal for a `ValueError`, `_ResourceLimitError` or not. -/
def structureStop : PreflightError → Stop
  | .resource _ => .refuse .resourceLimitExceeded
  | .invalid _ => .refuse .malformedEnvelope
  | .exhausted => .raise "the preflight does not end"

/-- The refusal for a `StrictJSONError`, by its text. -/
def strictJsonStop (message : String) : Stop :=
  if "exceed".toList <:+: message.toList ∨ "limit".toList <:+: message.toList then
    .refuse .resourceLimitExceeded
  else .refuse .malformedEnvelope

/-- From the preflight to `DSSEEnvelope.model_validate`. -/
def readEnvelope (envelopeBytes : Bytes) : Except Stop DsseEnvelope := do
  (preflightJsonStructure envelopePreflight envelopeBytes).mapError structureStop
  let document ← (strictJsonLoads R.toJsonRuntime envelopeJsonLimits envelopeBytes).mapError
    strictJsonStop
  let members ← (asDict document).mapError fun _ => Stop.refuse .malformedEnvelope
  (validateRawEnvelopeShape members).mapError structureStop
  require (looksLikeMalformedBase64 members = false) (.refuse .malformedBase64)
  (DsseEnvelope.modelValidate document).mapError fun _ => Stop.refuse .malformedEnvelope

/-- `payload_bytes`. -/
def DsseEnvelope.payloadBytes (envelope : DsseEnvelope) : Except String Bytes :=
  canonicalBase64Decode envelope.payload maxEncodedPayloadLength none

/-- The comparison with what is expected. -/
def checkPayload (envelope : DsseEnvelope) (expectedPayloadType : Text) (expectedPayload : Bytes) :
    Except Stop Unit := do
  require (envelope.payloadType = expectedPayloadType) (.refuse .payloadTypeMismatch)
  let payload ← envelope.payloadBytes.mapError .raise
  require (payload = expectedPayload) (.refuse .payloadMismatch)

/-- The keys of the signatures. -/
def selectKeys (policy : TrustPolicy) (envelope : DsseEnvelope) :
    Except Stop (List TrustedKey) := do
  require (policy.trustedKeys.map (·.keyId)).Nodup (.refuse .duplicateTrustedKey)
  let signatureKeyIds := envelope.signatures.map (·.keyid)
  require signatureKeyIds.Nodup (.refuse .duplicateSigner)
  require (signatureKeyIds ⊆ policy.trustedKeys.map (·.keyId)) (.refuse .unknownSigner)
  let selectedKeys ← signatureKeyIds.mapM fun keyId =>
    expect (policy.trustedKeys.find? fun key => key.keyId = keyId) (.raise "KeyError")
  require (selectedKeys.map (·.identity)).Nodup (.refuse .duplicateSigner)
  pure selectedKeys

/-- A half-open bound: nothing, or a timestamp that the admission lies before. -/
def checkBefore (bound : Option Text) (admittedAt : Nat) (reason : AttestationReason) :
    Except Stop Unit :=
  match bound with
  | none => pure ()
  | some value => do
    let ends ← (timestampPosition value).mapError .raise
    require (admittedAt < ends) (.refuse reason)

/-- The time checks of a selected key. -/
def checkKey (admittedAt : Nat) (key : TrustedKey) : Except Stop Unit := do
  require (key.status ≠ .disabled) (.refuse .keyDisabled)
  checkBefore key.revocationEffectiveAt admittedAt .keyRevoked
  let opens ← (timestampPosition key.validFrom).mapError .raise
  require (opens ≤ admittedAt) (.refuse .keyNotYetValid)
  checkBefore key.validUntil admittedAt .keyExpired

/-- The checks of the selected keys. -/
def checkKeys (selectedKeys : List TrustedKey) (expectedPayloadType : Text) (admittedAt : Nat) :
    Except Stop Unit := do
  require (∀ key ∈ selectedKeys, key.algorithm = text "ed25519") (.refuse .unknownAlgorithm)
  require (∀ key ∈ selectedKeys, expectedPayloadType ∈ key.allowedPayloadTypes)
    (.refuse .payloadTypeNotAllowed)
  selectedKeys.forM (checkKey admittedAt)

/-- One signature under its key. -/
def verifySignature (encoded : Bytes) (signature : DsseSignature) (key : TrustedKey) :
    Except Stop Unit := do
  let publicKeyBytes ← key.publicKeyBytes.mapError .raise
  require (publicKeyBytes.length = 32) (.refuse .invalidPublicKey)
  require (R.acceptsPublicKey publicKeyBytes = true) (.refuse .invalidPublicKey)
  let signatureBytes ← (canonicalBase64Decode signature.sig ed25519SignatureBase64Length
    (some ed25519SignatureBytes)).mapError fun _ => Stop.refuse .invalidSignature
  require (R.verifies publicKeyBytes signatureBytes encoded = true) (.refuse .invalidSignature)

/-- The sets of accepted key ids and identities. -/
structure Accepted where
  keyIds : List Text := []
  identities : List Text := []

/-- The loop body over the signatures and their keys. -/
def acceptSignature (encoded : Bytes) (accepted : Accepted) (pair : DsseSignature × TrustedKey) :
    Except Stop Accepted := do
  verifySignature R encoded pair.1 pair.2
  pure { keyIds := accepted.keyIds.insert pair.2.keyId
         identities := accepted.identities.insert pair.2.identity }

/-- From the envelope to the accepted signers. -/
def acceptSigners (policy : TrustPolicy) (envelope : DsseEnvelope) (expectedPayloadType : Text)
    (expectedPayload : Bytes) (admittedAt : Nat) : Except Stop Accepted := do
  checkPayload envelope expectedPayloadType expectedPayload
  let selectedKeys ← selectKeys policy envelope
  checkKeys selectedKeys expectedPayloadType admittedAt
  let encoded ← (dssePae envelope.payloadType expectedPayload).mapError .raise
  require (envelope.signatures.length = selectedKeys.length)
    (.raise "zip() arguments differ in length")
  let accepted ← (envelope.signatures.zip selectedKeys).foldlM (acceptSignature R encoded) {}
  require (policy.threshold ≤ accepted.identities.length) (.refuse .thresholdNotMet)
  pure accepted

/-- The rest of the function once its expectations, policy and time are admitted. -/
def judge (policy : TrustPolicy) (envelopeBytes : Bytes) (expectedPayloadType : Text)
    (expectedPayload : Bytes) (admittedAt : DateTime) : Except Stop Accepted := do
  let envelope ← readEnvelope R envelopeBytes
  acceptSigners R policy envelope expectedPayloadType expectedPayload admittedAt.microseconds

/-- The decision about a stage's end. -/
def conclude (threshold : Int) (provenance : VerificationProvenance) :
    Except Stop Accepted → Except String AttestationVerification
  | .ok accepted => verified threshold accepted.keyIds accepted.identities provenance
  | .error (.refuse reason) => failed reason (some threshold) provenance
  | .error (.raise message) => .error message

/-- `verify_dsse_attestation`. -/
def verifyDsseAttestation (envelopeBytes : Bytes) (policy : TrustPolicy)
    (expectedPayloadType : Text) (expectedPayload : Bytes) (admissionTime : AdmissionTime) :
    Except String AttestationVerification :=
  if maxEnvelopeBytes < envelopeBytes.length then failed .resourceLimitExceeded none {}
  else
    let provenance : VerificationProvenance :=
      { rawEnvelopeSha256 := some (R.sha256 envelopeBytes) }
    if ¬VisibleAscii maxPayloadTypeLength expectedPayloadType then
      failed .invalidExpectation none provenance
    else if maxDecodedPayloadBytes < expectedPayload.length then
      failed .resourceLimitExceeded none provenance
    else
      let provenance := { provenance with
        expectedPayloadSha256 := some (R.sha256 expectedPayload)
        expectedPayloadType := some expectedPayloadType }
      match revalidateProgrammaticPolicy R policy with
      | none => failed .malformedPolicy none provenance
      | some policy => do
        let canonical ← policy.canonicalBytes R.toCanonicalRuntime
        let provenance := { provenance with
          trustPolicySha256 := some (R.sha256 canonical)
          policyId := some policy.policyId }
        match canonicalAdmissionTime admissionTime with
        | none => failed .invalidAdmissionTime (some policy.threshold) provenance
        | some admittedAt =>
          let provenance := { provenance with
            admissionTime := some (formatCanonicalTimestamp admittedAt) }
          conclude policy.threshold provenance
            (judge R policy envelopeBytes expectedPayloadType expectedPayload admittedAt)

end ControlAssurance.Attestation
