import ControlAssurance.Values
import ControlAssurance.Lib.Checked

/-!
# Documents of evidence admission

The signed and digested documents of `evidence/admission.py`. Every document is
stored and sent as its canonical JSON, so a document here stands for its
canonical bytes, and its digest is `Profile.sha` of it, of which nothing is
assumed. Instants are whole microseconds, the resolution of the canonical timestamp.

`Profile` is one configuration: the two keys, what they verify, the parsers and
verifiers of the evidence the ledger keeps, and the limits. Parsing DSSE
envelopes and trust policies, verifying attestations and CAB snapshots happen in
other modules of the source; here they are arbitrary functions, the same ones
each time.
-/

namespace ControlAssurance.Admission

open Lib

abbrev Bytes := List UInt8

/-- Microseconds since the Unix epoch. -/
abbrev Instant := Int

inductive AdmissionRejectReason where
  | malformedLease | invalidLeaseSignature | duplicateJob | duplicateNonce
  | duplicateSequence | unknownLease | leaseExpired | leaseMismatch | outOfSequence
  | epochMismatch | replayConflict | retryMismatch | malformedEnvelope
  | policyUnavailable | policyRollback | policyFork | attestationRejected | cabRejected
  | configurationMismatch | clockRollback | resourceLimitExceeded | quotaExceeded
  | signerUnavailable | invalidReceiptSignature | custodyUnavailable
  | internalIntegrityError | storageUnavailable
deriving DecidableEq

/-- What a call raises: a typed rejection, or what no handler of the source catches:
the validation error of a document model, or another exception by its name. -/
inductive AdmissionError where
  | rejected (reason : AdmissionRejectReason) (detail : String)
  | validation (detail : String)
  | uncaught (exception : String)
deriving DecidableEq

/-- The rejection a storage failure is reported as. -/
def storageRejected : AdmissionError :=
  .rejected .storageUnavailable "admission storage is unavailable or corrupt"

/-! ## Identifiers -/

/-- `_safe_identifier`; the pattern leaves only ASCII characters. -/
def safeIdentifier (value : String) : Bool :=
  match value.toList with
  | [] => false
  | c :: cs => c.isAlphanum && decide (cs.length ≤ 255)
      && cs.all fun c => c.isAlphanum || "._:@/+~-".toList.contains c

/-- `_safe_reference`: visible ASCII. -/
def safeReference (value : String) : Bool :=
  value.toList ≠ [] && decide (value.toList.length ≤ 1024)
    && value.toList.all fun c => decide (0x21 ≤ c.toNat ∧ c.toNat ≤ 0x7e)

/-! ## Leases and statements -/

structure DetachedSignature where
  keyId : String
  signature : BitVec 512
deriving DecidableEq

/-- What a lease and the statement made under it agree on. -/
structure LeaseTerms where
  tenantId : String
  collectorId : String
  audience : String
  jobId : String
  capabilityDigest : Digest
  policyId : String
  policyRevision : Nat
  policyDigest : Digest
  epoch : Nat
  sequence : Nat
  previousEpoch : Option Nat
  previousEpochFinalSequence : Option Nat
  previousEpochFinalReceiptDigest : Option Digest
  cabId : Digest
  manifestDigest : Digest
  jobNonce : BitVec 256
deriving DecidableEq

/-- The field rules that both documents have. -/
def LeaseTerms.valid (t : LeaseTerms) : Prop :=
  (∀ value ∈ [t.tenantId, t.collectorId, t.audience, t.jobId, t.policyId],
    safeIdentifier value = true)
  ∧ 1 ≤ t.policyRevision ∧ 1 ≤ t.epoch ∧ 1 ≤ t.sequence
  ∧ (∀ n, t.previousEpoch = some n → 1 ≤ n)
  ∧ (∀ n, t.previousEpochFinalSequence = some n → 1 ≤ n)
  ∧ t.cabId = t.manifestDigest

/-- `∀ n, o = some n → 1 ≤ n` by cases on `o`. -/
instance decidableAtLeastOne (o : Option Nat) : Decidable (∀ n, o = some n → 1 ≤ n) :=
  match o with
  | none => isTrue fun _ h => by cases h
  | some m =>
    decidable_of_iff (1 ≤ m) ⟨fun h n hn => by cases hn; exact h, fun h => h m rfl⟩

instance (t : LeaseTerms) : Decidable t.valid :=
  inferInstanceAs (Decidable (_ ∧ _))

/-- Only sequence one of a later epoch binds a predecessor. -/
def transitionCoherent (epoch sequence : Nat) (previousEpoch finalSequence : Option Nat)
    (finalReceipt : Option Digest) : Prop :=
  if epoch = 1 ∨ sequence ≠ 1 then
    previousEpoch = none ∧ finalSequence = none ∧ finalReceipt = none
  else
    previousEpoch = some (epoch - 1) ∧ finalSequence ≠ none ∧ finalReceipt ≠ none

instance (epoch sequence : Nat) (e s : Option Nat) (r : Option Digest) :
    Decidable (transitionCoherent epoch sequence e s r) :=
  inferInstanceAs (Decidable (if epoch = 1 ∨ sequence ≠ 1 then _ else _))

structure JobLease extends LeaseTerms where
  leaseAuthorityKeyFingerprint : Digest
  issuedAt : Instant
  expiresAt : Instant
deriving DecidableEq

/-- `lease_is_coherent` and the field rules. -/
def JobLease.valid (l : JobLease) : Prop :=
  l.toLeaseTerms.valid ∧ l.issuedAt < l.expiresAt
    ∧ transitionCoherent l.epoch l.sequence l.previousEpoch l.previousEpochFinalSequence
      l.previousEpochFinalReceiptDigest

instance (l : JobLease) : Decidable l.valid :=
  inferInstanceAs (Decidable (_ ∧ _ ∧ _))

structure SignedJobLease where
  lease : JobLease
  authoritySignature : DetachedSignature
deriving DecidableEq

structure CollectionStatement extends LeaseTerms where
  leaseDigest : Digest
  collectedAt : Instant
deriving DecidableEq

/-! ## Receipts and acknowledgements -/

inductive AttestationReason where
  | verified | invalidExpectation | invalidAdmissionTime | malformedPolicy
  | malformedEnvelope | malformedBase64 | resourceLimitExceeded | payloadTypeMismatch
  | payloadMismatch | duplicateTrustedKey | duplicateSigner | unknownSigner
  | unknownAlgorithm | payloadTypeNotAllowed | keyNotYetValid | keyExpired | keyDisabled
  | keyRevoked | invalidPublicKey | invalidSignature | thresholdNotMet
deriving DecidableEq

/-- The wire values of the reasons. -/
def AttestationReason.wire : AttestationReason → String
  | .verified => "verified"
  | .invalidExpectation => "invalid-expectation"
  | .invalidAdmissionTime => "invalid-admission-time"
  | .malformedPolicy => "malformed-policy"
  | .malformedEnvelope => "malformed-envelope"
  | .malformedBase64 => "malformed-base64"
  | .resourceLimitExceeded => "resource-limit-exceeded"
  | .payloadTypeMismatch => "payload-type-mismatch"
  | .payloadMismatch => "payload-mismatch"
  | .duplicateTrustedKey => "duplicate-trusted-key"
  | .duplicateSigner => "duplicate-signer"
  | .unknownSigner => "unknown-signer"
  | .unknownAlgorithm => "unknown-algorithm"
  | .payloadTypeNotAllowed => "payload-type-not-allowed"
  | .keyNotYetValid => "key-not-yet-valid"
  | .keyExpired => "key-expired"
  | .keyDisabled => "key-disabled"
  | .keyRevoked => "key-revoked"
  | .invalidPublicKey => "invalid-public-key"
  | .invalidSignature => "invalid-signature"
  | .thresholdNotMet => "threshold-not-met"

structure AttestationVerification where
  verified : Bool
  reasonCode : AttestationReason
  acceptedKeyIds : List String
  acceptedIdentities : List String
  rawEnvelopeSha256 : Option Digest
  expectedPayloadSha256 : Option Digest
  trustPolicySha256 : Option Digest
  policyId : Option String
  admissionTime : Option Instant
deriving DecidableEq

structure AdmissionReceiptBody where
  receiptSequence : Nat
  admittedAt : Instant
  tenantId : String
  collectorId : String
  audience : String
  jobId : String
  capabilityDigest : Digest
  epoch : Nat
  sequence : Nat
  previousEpoch : Option Nat
  previousEpochFinalSequence : Option Nat
  previousEpochFinalReceiptDigest : Option Digest
  leaseDigest : Digest
  nonceDigest : Digest
  cabId : Digest
  manifestDigest : Digest
  cabSnapshotDigest : Digest
  envelopeDigest : Digest
  payloadDigest : Digest
  trustPolicyDigest : Digest
  trustPolicyId : String
  trustPolicyRevision : Nat
  leaseAuthorityKeyFingerprint : Digest
  receiptSignerKeyFingerprint : Digest
  attestationVerificationDigest : Digest
  acceptedKeyIds : List String
  acceptedIdentities : List String
  admissionRequestFingerprint : Digest
  previousReceiptDigest : Option Digest
  custodyObjectId : Digest
  custodyReference : String
deriving DecidableEq

/-- `signer_sets_are_canonical` and the length rules of the two tuples. -/
def canonicalSigners (values : List String) : Prop :=
  values ≠ [] ∧ values.length ≤ 64 ∧ values.Pairwise (· < ·)
    ∧ ∀ value ∈ values, safeIdentifier value = true

instance (values : List String) : Decidable (canonicalSigners values) :=
  inferInstanceAs (Decidable (_ ∧ _ ∧ _ ∧ _))

/-- The validators of `AdmissionReceiptBody`. -/
def AdmissionReceiptBody.valid (b : AdmissionReceiptBody) : Prop :=
  1 ≤ b.receiptSequence ∧ 1 ≤ b.epoch ∧ 1 ≤ b.sequence ∧ 1 ≤ b.trustPolicyRevision
  ∧ (∀ n, b.previousEpoch = some n → 1 ≤ n)
  ∧ (∀ n, b.previousEpochFinalSequence = some n → 1 ≤ n)
  ∧ (∀ value ∈ [b.tenantId, b.collectorId, b.audience, b.jobId, b.trustPolicyId],
    safeIdentifier value = true)
  ∧ safeReference b.custodyReference = true
  ∧ canonicalSigners b.acceptedKeyIds ∧ canonicalSigners b.acceptedIdentities
  ∧ b.leaseAuthorityKeyFingerprint ≠ b.receiptSignerKeyFingerprint
  ∧ transitionCoherent b.epoch b.sequence b.previousEpoch b.previousEpochFinalSequence
    b.previousEpochFinalReceiptDigest

instance (b : AdmissionReceiptBody) : Decidable b.valid :=
  inferInstanceAs (Decidable (_ ∧ _))

structure AdmissionReceipt where
  body : AdmissionReceiptBody
  serviceSignature : DetachedSignature
deriving DecidableEq

structure CustodyAcknowledgementBody where
  receiptDigest : Digest
  custodyObjectId : Digest
  custodyReference : String
  envelopeDigest : Digest
  cabSnapshotDigest : Digest
  trustPolicyDigest : Digest
  receiptSignerKeyFingerprint : Digest
deriving DecidableEq

structure CustodyAcknowledgement where
  body : CustodyAcknowledgementBody
  serviceSignature : DetachedSignature
deriving DecidableEq

/-- The two bodies the receipt signer is asked to sign. -/
inductive SigningBody where
  | receipt (body : AdmissionReceiptBody)
  | acknowledgement (body : CustodyAcknowledgementBody)
deriving DecidableEq

/-! ## Digests -/

/-- The object whose digest is an admission request's fingerprint. -/
structure AdmissionRequest where
  statementDigest : Digest
  envelopeDigest : Digest
  snapshotDigest : Digest
  policyDigest : Digest
  policyRevision : Nat
  attestationDigest : Digest
  audience : String
  capabilityDigest : Digest
  acceptedKeyIds : List String
  acceptedIdentities : List String
  custodyObjectId : Digest
  custodyReference : String
  leaseAuthorityKeyFingerprint : Digest
  receiptSignerKeyFingerprint : Digest
deriving DecidableEq

/-- Everything the ledger takes a digest of. -/
inductive Document where
  | bytes (b : Bytes)
  | nonce (n : BitVec 256)
  | lease (l : JobLease)
  | statement (s : CollectionStatement)
  | attestation (a : AttestationVerification)
  | request (r : AdmissionRequest)
  | custodyObject (tenantId jobId : String) (envelopeDigest snapshotDigest : Digest)
  | receiptBody (b : AdmissionReceiptBody)
  | receipt (r : AdmissionReceipt)
  | acknowledgementBody (b : CustodyAcknowledgementBody)
  | acknowledgement (a : CustodyAcknowledgement)
deriving DecidableEq

structure AdmissionLimits where
  maxEnvelopeBytes : Nat
  maxPolicyBytes : Nat
  maxAdmissionsPerTenant : Nat
  maxRegisteredLeasesPerTenant : Nat
  maxDatabaseBytes : Nat
deriving Repr

/-- What `verify_cab_snapshot` reports of the bytes it accepts. -/
structure SealedCABSnapshot where
  cabId : Digest
  manifestDigest : Digest
deriving DecidableEq

/-- One configuration of the service, shared by all its instances. -/
structure Profile where
  sha : Document → Digest
  leaseAuthorityFingerprint : Digest
  receiptSignerFingerprint : Digest
  distinct : leaseAuthorityFingerprint ≠ receiptSignerFingerprint
  /-- `_verify_signer_signature` under the lease authority's key -/
  authorityVerifies : JobLease → DetachedSignature → Bool
  /-- `_verify_signer_signature` under the receipt signer's key -/
  signerVerifies : SigningBody → DetachedSignature → Bool
  /-- `parse_dsse_envelope` and `parse_collection_statement` of its payload -/
  parseStatement : Bytes → Option CollectionStatement
  /-- `parse_trust_policy`; only the policy's id is read here -/
  parseTrustPolicy : Bytes → Option String
  /-- `verify_dsse_attestation` of an envelope under policy bytes -/
  verifyAttestation : Bytes → Bytes → CollectionStatement → Instant → AttestationVerification
  /-- `verify_cab_snapshot` -/
  verifySnapshot : Bytes → Option SealedCABSnapshot
  /-- the length of the canonical bytes of a document, and of a signed lease -/
  canonicalLength : Document → Nat
  grantLength : SignedJobLease → Nat
  expectedAudience : String
  expectedCapabilityDigest : Digest
  limits : AdmissionLimits

section

variable (P : Profile)

def JobLease.leaseDigest (l : JobLease) : Digest := P.sha (.lease l)

def JobLease.nonceDigest (l : JobLease) : Digest := P.sha (.nonce l.jobNonce)

def CollectionStatement.nonceDigest (s : CollectionStatement) : Digest :=
  P.sha (.nonce s.jobNonce)

/-- `matches`. -/
def CollectionStatement.matchesLease (s : CollectionStatement) (l : JobLease) : Prop :=
  s.leaseDigest = l.leaseDigest P ∧ s.toLeaseTerms = l.toLeaseTerms

instance (s : CollectionStatement) (l : JobLease) : Decidable (s.matchesLease P l) :=
  inferInstanceAs (Decidable (_ ∧ _))

def AdmissionReceipt.receiptDigest (r : AdmissionReceipt) : Digest := P.sha (.receipt r)

/-- `_admission_request_fingerprint` of what a receipt body records. -/
def AdmissionReceiptBody.requestFingerprint (b : AdmissionReceiptBody)
    (attestation : AttestationVerification) : Digest :=
  P.sha (.request
    { statementDigest := b.payloadDigest
      envelopeDigest := b.envelopeDigest
      snapshotDigest := b.cabSnapshotDigest
      policyDigest := b.trustPolicyDigest
      policyRevision := b.trustPolicyRevision
      attestationDigest := P.sha (.attestation attestation)
      audience := b.audience
      capabilityDigest := b.capabilityDigest
      acceptedKeyIds := b.acceptedKeyIds
      acceptedIdentities := b.acceptedIdentities
      custodyObjectId := b.custodyObjectId
      custodyReference := b.custodyReference
      leaseAuthorityKeyFingerprint := b.leaseAuthorityKeyFingerprint
      receiptSignerKeyFingerprint := b.receiptSignerKeyFingerprint })

end

end ControlAssurance.Admission
