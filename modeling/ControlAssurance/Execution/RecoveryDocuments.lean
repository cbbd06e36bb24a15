import Mathlib.Data.List.MinMax
import ControlAssurance.Admission.Documents

/-!
# The documents of publishing recovery

The nested, signed documents of `runtime/execution_recovery.py`: a maker's request
that names an abandoned attempt and its successor, the attestation of a compute
fence, the attestation that the credentials of the run have drained, and the
authorization that embeds all three with a checker's approval.

Every document is its canonical JSON, so a document here stands for its bytes, and
`Recovery.sha` of it is its digest. Fields with a single allowed value (media
types, schema versions, `attempt_revision`, `use_policy` and the flags that must be
true) are left out. `valid` is the model validator of a document together with
its field rules; the rules of nested documents are part of it.
-/

namespace ControlAssurance.Execution

open Admission (Bytes DetachedSignature safeIdentifier)

/-- `_PORTABLE_ID_RE`. -/
def portableId (value : String) : Bool :=
  match value.toList with
  | [] => false
  | c :: cs => c.isLower && decide (cs.length ≤ 127)
      && cs.all fun c => c.isLower || c.isDigit || "._-".toList.contains c

/-- `_MEDIA_TYPE_RE`, with the length bound of its fields. -/
def jsonMediaType (value : String) : Bool :=
  decide (16 ≤ value.length ∧ value.length ≤ 128) && value.startsWith "application/"
    && (value == "application/json"
      || (decide (17 < value.length) && value.endsWith "+json"
        && (value.drop 12).all fun c => c.isLower || c.isDigit || "!#$&^_.+-".toList.contains c))

/-- A 32-byte nonce. -/
abbrev Nonce := BitVec 256

/-! ## Human actions -/

inductive ActorRole where
  | checker | maker
deriving DecidableEq

inductive ActorAction where
  | approve | request
deriving DecidableEq

/-- Five minutes. -/
def maxActorAuthenticationAge : Time := 300

/-- 24 hours. -/
def maxActorActionLifetime : Time := 86400

structure RecoveryActorVerificationPolicy where
  audience : String
  makerIssuerId : String
  checkerIssuerId : String
deriving DecidableEq

def RecoveryActorVerificationPolicy.valid (p : RecoveryActorVerificationPolicy) : Prop :=
  safeIdentifier p.audience = true ∧ safeIdentifier p.makerIssuerId = true
    ∧ safeIdentifier p.checkerIssuerId = true ∧ p.makerIssuerId ≠ p.checkerIssuerId

structure RecoveryActorAction where
  issuerId : String
  audience : String
  tenantId : String
  runId : Digest
  subjectId : String
  sessionDigest : Digest
  role : ActorRole
  action : ActorAction
  actionDigest : Digest
  authenticatedAt : Time
  mfaVerifiedAt : Time
  actedAt : Time
  expiresAt : Time
  actionNonce : Nonce
  idpKeyFingerprint : Digest
deriving DecidableEq

/-- `validate_action`. -/
def RecoveryActorAction.valid (a : RecoveryActorAction) : Prop :=
  safeIdentifier a.issuerId = true ∧ safeIdentifier a.audience = true
    ∧ portableId a.tenantId = true ∧ safeIdentifier a.subjectId = true
    ∧ ((a.role = .maker ∧ a.action = .request) ∨ (a.role = .checker ∧ a.action = .approve))
    ∧ (a.authenticatedAt ≤ a.mfaVerifiedAt ∧ a.mfaVerifiedAt ≤ a.actedAt
      ∧ a.actedAt < a.expiresAt)
    ∧ a.actedAt - a.mfaVerifiedAt ≤ maxActorAuthenticationAge
    ∧ a.expiresAt - a.actedAt ≤ maxActorActionLifetime

structure SignedRecoveryActorAction where
  actorActionDigest : Digest
  idpKeyFingerprint : Digest
  actorAction : RecoveryActorAction
  authoritySignature : DetachedSignature
deriving DecidableEq

/-! ## The request -/

structure AbandonedPublishingAttempt where
  leaseFence : Nat
  attemptCount : Nat
  workerId : String
  workerCredentialDigest : Digest
  leaseTokenDigest : Digest
  leasedAt : Time
  leaseExpiresAt : Time
  publishingAt : Time
deriving DecidableEq

/-- `validate_attempt`. -/
def AbandonedPublishingAttempt.valid (a : AbandonedPublishingAttempt) : Prop :=
  1 ≤ a.leaseFence ∧ a.leaseFence ≤ 2 ^ 63 - 2 ∧ 1 ≤ a.attemptCount ∧ a.attemptCount ≤ 32
    ∧ portableId a.workerId = true ∧ a.attemptCount ≤ a.leaseFence
    ∧ a.leasedAt < a.leaseExpiresAt ∧ a.leasedAt ≤ a.publishingAt
    ∧ a.publishingAt < a.leaseExpiresAt

structure SuccessorLeaseClaim where
  leaseFence : Nat
  attemptCount : Nat
  workerId : String
  workerCredentialDigest : Digest
  leaseTokenDigest : Digest
  leasedAt : Time
  leaseExpiresAt : Time
deriving DecidableEq

/-- `validate_claim`. -/
def SuccessorLeaseClaim.valid (c : SuccessorLeaseClaim) : Prop :=
  2 ≤ c.leaseFence ∧ c.leaseFence ≤ 2 ^ 63 - 1 ∧ 2 ≤ c.attemptCount ∧ c.attemptCount ≤ 32
    ∧ portableId c.workerId = true ∧ c.leasedAt < c.leaseExpiresAt

inductive AuthorityClass where
  | custody | signing | source
deriving DecidableEq

/-- The wire values, which the sort keys compare. -/
def AuthorityClass.wire : AuthorityClass → String
  | .custody => "custody"
  | .signing => "signing"
  | .source => "source"

structure PAMRecoveryScope where
  authorityClass : AuthorityClass
  connectorId : String
  connectorRequestDigest : Digest
deriving DecidableEq

/-- `sort_key` of two scopes, compared. -/
def PAMRecoveryScope.before (a b : PAMRecoveryScope) : Prop :=
  a.authorityClass.wire < b.authorityClass.wire
    ∨ (a.authorityClass = b.authorityClass ∧ (a.connectorId < b.connectorId
      ∨ (a.connectorId = b.connectorId ∧ a.connectorRequestDigest < b.connectorRequestDigest)))

instance : DecidableRel PAMRecoveryScope.before := fun a b =>
  inferInstanceAs (Decidable (a.authorityClass.wire < b.authorityClass.wire ∨ (_ ∧ (_ ∨ (_ ∧ _)))))

inductive RecoveryReason where
  | nodeLoss | oldWorkerTerminated | oldWorkerUnreachable | operatorRecovery
deriving DecidableEq

structure PublishingRecoveryRequestIntent where
  tenantId : String
  runId : Digest
  controlId : String
  configurationDigest : Digest
  executionPlanDigest : Digest
  executionIdentityDigest : Digest
  abandonedAttempt : AbandonedPublishingAttempt
  successorClaim : SuccessorLeaseClaim
  pamScopes : List PAMRecoveryScope
  pamScopeDigest : Digest
  pamExecutionBindingDigest : Digest
  reason : RecoveryReason
  incidentReferenceDigest : Digest
  requestedAt : Time
  requestExpiresAt : Time
  requestNonce : Nonce
deriving DecidableEq

structure PublishingRecoveryRequest where
  intentDigest : Digest
  intent : PublishingRecoveryRequestIntent
  signedMakerAction : SignedRecoveryActorAction
deriving DecidableEq

/-! ## The compute fence -/

structure WorkloadFenceLocator where
  clusterUid : String
  namespaceName : String
  serviceAccountUid : String
  podUid : String
  nodeUid : String
  containerImageDigest : Digest
  workerId : String
  workerCredentialDigest : Digest
deriving DecidableEq

def WorkloadFenceLocator.valid (w : WorkloadFenceLocator) : Prop :=
  safeIdentifier w.clusterUid = true ∧ portableId w.namespaceName = true
    ∧ safeIdentifier w.serviceAccountUid = true ∧ safeIdentifier w.podUid = true
    ∧ safeIdentifier w.nodeUid = true ∧ portableId w.workerId = true

inductive HardFenceMethod where
  | egressDenyFenced | nodePowerFenced | podRuntimeTerminated
deriving DecidableEq

structure ComputeFenceAttestation where
  recoveryRequestDigest : Digest
  tenantId : String
  runId : Digest
  abandonedAttemptDigest : Digest
  workload : WorkloadFenceLocator
  method : HardFenceMethod
  authorityClassesFenced : List AuthorityClass
  oldProcessAbsent : Bool
  oldWorkloadEgressDenied : Bool
  nodeReachableAtObservation : Bool
  kubernetesDeleteOperationDigest : Option Digest
  nodePowerFenceOperationDigest : Option Digest
  egressPolicyDigest : Option Digest
  proofMediaType : String
  proofDigest : Digest
  relaunchFenceOperationDigest : Digest
  relaunchFenceEffectiveAt : Time
  relaunchFenceValidUntil : Time
  fencingControllerId : String
  fencingControllerCredentialDigest : Digest
  fencingAuthorityKeyFingerprint : Digest
  fenceRequestedAt : Time
  fenceEffectiveAt : Time
  isolationObservedAt : Time
  attestedAt : Time
deriving DecidableEq

/-- The proof a method needs; exactly one of the three digests is there. -/
def ComputeFenceAttestation.methodProved (f : ComputeFenceAttestation) : Prop :=
  match f.method with
  | .podRuntimeTerminated => f.kubernetesDeleteOperationDigest ≠ none
      ∧ f.nodeReachableAtObservation = true ∧ f.oldProcessAbsent = true
      ∧ f.nodePowerFenceOperationDigest = none ∧ f.egressPolicyDigest = none
  | .nodePowerFenced => f.nodePowerFenceOperationDigest ≠ none ∧ f.oldProcessAbsent = true
      ∧ f.kubernetesDeleteOperationDigest = none ∧ f.egressPolicyDigest = none
  | .egressDenyFenced => f.egressPolicyDigest ≠ none ∧ f.oldWorkloadEgressDenied = true
      ∧ f.kubernetesDeleteOperationDigest = none ∧ f.nodePowerFenceOperationDigest = none

instance (f : ComputeFenceAttestation) : Decidable f.methodProved :=
  match h : f.method with
  | .podRuntimeTerminated => decidable_of_iff (f.kubernetesDeleteOperationDigest ≠ none
      ∧ f.nodeReachableAtObservation = true ∧ f.oldProcessAbsent = true
      ∧ f.nodePowerFenceOperationDigest = none ∧ f.egressPolicyDigest = none)
      (by unfold ComputeFenceAttestation.methodProved; rw [h])
  | .nodePowerFenced => decidable_of_iff (f.nodePowerFenceOperationDigest ≠ none
      ∧ f.oldProcessAbsent = true ∧ f.kubernetesDeleteOperationDigest = none
      ∧ f.egressPolicyDigest = none)
      (by unfold ComputeFenceAttestation.methodProved; rw [h])
  | .egressDenyFenced => decidable_of_iff (f.egressPolicyDigest ≠ none
      ∧ f.oldWorkloadEgressDenied = true ∧ f.kubernetesDeleteOperationDigest = none
      ∧ f.nodePowerFenceOperationDigest = none)
      (by unfold ComputeFenceAttestation.methodProved; rw [h])

/-- `validate_fence`. -/
def ComputeFenceAttestation.valid (f : ComputeFenceAttestation) : Prop :=
  portableId f.tenantId = true ∧ jsonMediaType f.proofMediaType = true
    ∧ safeIdentifier f.fencingControllerId = true ∧ f.workload.valid
    ∧ f.authorityClassesFenced = [.custody, .signing, .source]
    ∧ (f.fenceRequestedAt ≤ f.relaunchFenceEffectiveAt
      ∧ f.relaunchFenceEffectiveAt ≤ f.fenceEffectiveAt
      ∧ f.fenceEffectiveAt ≤ f.isolationObservedAt ∧ f.isolationObservedAt ≤ f.attestedAt
      ∧ f.attestedAt < f.relaunchFenceValidUntil)
    ∧ ([f.kubernetesDeleteOperationDigest, f.nodePowerFenceOperationDigest,
      f.egressPolicyDigest].filter Option.isSome).length = 1
    ∧ f.methodProved

structure SignedComputeFenceAttestation where
  attestationDigest : Digest
  fencingAuthorityKeyFingerprint : Digest
  attestation : ComputeFenceAttestation
  authoritySignature : DetachedSignature
deriving DecidableEq

/-! ## The credential drain -/

inductive PAMLifecycleState where
  | expired | neverIssued | revoked
deriving DecidableEq

inductive PAMExpiryBasis where
  | confirmedRevocation | notIssued | observedExpiry | policyUpperBound
deriving DecidableEq

structure PAMDrainAnchor where
  authorityClass : AuthorityClass
  connectorId : String
  connectorRequestDigest : Digest
  scopeDigest : Digest
  executionBindingDigest : Digest
  lifecycleRecordId : String
  lifecycleRecordDigest : Digest
  lifecycleSequence : Nat
  lifecycleRevision : Nat
  credentialReferenceDigest : Option Digest
  state : PAMLifecycleState
  expiryBasis : PAMExpiryBasis
  createdAt : Time
  issuedAt : Option Time
  expiresAt : Option Time
  revocationConfirmedAt : Option Time
  maximumResidualExposureEndsAt : Time
  settledAt : Time
deriving DecidableEq

/-- What the state of a lifecycle record has to come with. -/
def PAMDrainAnchor.stateProved (a : PAMDrainAnchor) : Bool :=
  match a.state with
  | .revoked => decide (a.expiryBasis = .confirmedRevocation
      ∧ a.credentialReferenceDigest ≠ none) && sqlLe a.issuedAt a.revocationConfirmedAt
      && sqlLe a.revocationConfirmedAt (some a.maximumResidualExposureEndsAt)
  | .expired => decide ((a.expiryBasis = .observedExpiry ∨ a.expiryBasis = .policyUpperBound)
      ∧ a.credentialReferenceDigest ≠ none ∧ a.revocationConfirmedAt = none)
      && sqlLe a.issuedAt a.expiresAt
      && sqlLe a.expiresAt (some a.maximumResidualExposureEndsAt)
  | .neverIssued => decide (a.expiryBasis = .notIssued ∧ a.credentialReferenceDigest = none
      ∧ a.issuedAt = none ∧ a.expiresAt = none ∧ a.revocationConfirmedAt = none
      ∧ a.maximumResidualExposureEndsAt = a.createdAt)

/-- The optional times of a lifecycle record. -/
def PAMDrainAnchor.optionalTimes (a : PAMDrainAnchor) : List Time :=
  [a.issuedAt, a.expiresAt, a.revocationConfirmedAt].filterMap id

/-- `validate_anchor`. -/
def PAMDrainAnchor.valid (a : PAMDrainAnchor) : Prop :=
  portableId a.connectorId = true ∧ safeIdentifier a.lifecycleRecordId = true
    ∧ 1 ≤ a.lifecycleSequence ∧ a.lifecycleSequence ≤ 2 ^ 53 - 1
    ∧ a.lifecycleRevision ≤ 2 ^ 53 - 1
    ∧ (∀ x ∈ a.optionalTimes, a.createdAt ≤ x ∧ x ≤ a.settledAt)
    ∧ a.createdAt ≤ a.maximumResidualExposureEndsAt
    ∧ a.maximumResidualExposureEndsAt ≤ a.settledAt ∧ a.stateProved = true

/-- `scope_key`. -/
def PAMDrainAnchor.scope (a : PAMDrainAnchor) : PAMRecoveryScope :=
  ⟨a.authorityClass, a.connectorId, a.connectorRequestDigest⟩

/-- `sort_key` of two anchors, compared. -/
def PAMDrainAnchor.before (a b : PAMDrainAnchor) : Prop :=
  a.scope.before b.scope ∨ (a.scope = b.scope ∧ (a.lifecycleSequence < b.lifecycleSequence
    ∨ (a.lifecycleSequence = b.lifecycleSequence ∧ a.lifecycleRecordId < b.lifecycleRecordId)))

instance : DecidableRel PAMDrainAnchor.before := fun a b =>
  inferInstanceAs (Decidable (a.scope.before b.scope ∨ (_ ∧ (_ ∨ (_ ∧ _)))))

structure CredentialDrainAttestation where
  recoveryRequestDigest : Digest
  computeFenceAttestationDigest : Digest
  tenantId : String
  runId : Digest
  abandonedAttemptDigest : Digest
  scopeDigest : Digest
  executionBindingDigest : Digest
  anchors : List PAMDrainAnchor
  lifecycleSnapshotDigest : Digest
  lifecycleRecordCount : Nat
  snapshotHighWatermark : Nat
  maximumResidualExposureEndsAt : Time
  fenceEffectiveAt : Time
  maximumInflightSeconds : Nat
  clockSkewSeconds : Nat
  postFenceInflightDeadline : Time
  drainNotBefore : Time
  checkedAt : Time
  attestedAt : Time
  issuanceFenceOperationDigest : Digest
  issuanceFenceEffectiveAt : Time
  issuanceFenceValidUntil : Time
  issuanceFenceHighWatermark : Nat
  drainControllerId : String
  drainControllerCredentialDigest : Digest
  drainAuthorityKeyFingerprint : Digest
  pamQueryEvidenceMediaType : String
  pamQueryEvidenceDigest : Digest
deriving DecidableEq

structure SignedCredentialDrainAttestation where
  attestationDigest : Digest
  drainAuthorityKeyFingerprint : Digest
  attestation : CredentialDrainAttestation
  authoritySignature : DetachedSignature
deriving DecidableEq

/-! ## The authorization -/

/-- What the checker's action digest is the digest of. -/
structure PublishingRecoveryApprovalIntent where
  tenantId : String
  runId : Digest
  recoveryRequestDigest : Digest
  signedComputeFenceAttestationDigest : Digest
  signedCredentialDrainAttestationDigest : Digest
  abandonedAttemptDigest : Digest
  successorClaimDigest : Digest
  changeApprovalDigest : Digest
  approvedAt : Time
  notBefore : Time
  issuedAt : Time
  expiresAt : Time
  authorizationNonce : Nonce
  recoveryAuthorityId : String
  recoveryAuthorityKeyFingerprint : Digest
deriving DecidableEq

/-- 15 minutes. -/
def maxRecoveryAuthorizationLifetime : Time := 900

/-- 24 hours. -/
def maxRecoveryRequestLifetime : Time := 86400

structure PublishingRecoveryAuthorization where
  tenantId : String
  runId : Digest
  controlId : String
  configurationDigest : Digest
  executionPlanDigest : Digest
  executionIdentityDigest : Digest
  recoveryRequestDigest : Digest
  recoveryRequest : PublishingRecoveryRequest
  computeFenceAttestationDigest : Digest
  signedComputeFenceAttestationDigest : Digest
  signedComputeFenceAttestation : SignedComputeFenceAttestation
  credentialDrainAttestationDigest : Digest
  signedCredentialDrainAttestationDigest : Digest
  signedCredentialDrainAttestation : SignedCredentialDrainAttestation
  abandonedAttempt : AbandonedPublishingAttempt
  successorClaim : SuccessorLeaseClaim
  signedCheckerActionDigest : Digest
  signedCheckerAction : SignedRecoveryActorAction
  changeApprovalDigest : Digest
  approvedAt : Time
  notBefore : Time
  issuedAt : Time
  expiresAt : Time
  authorizationNonce : Nonce
  recoveryAuthorityId : String
  recoveryAuthorityKeyFingerprint : Digest
deriving DecidableEq

structure SignedPublishingRecoveryAuthorization where
  authorizationId : Digest
  recoveryAuthorityKeyFingerprint : Digest
  authorization : PublishingRecoveryAuthorization
  authoritySignature : DetachedSignature
deriving DecidableEq

section

variable (a : PublishingRecoveryAuthorization)

def PublishingRecoveryAuthorization.fence : ComputeFenceAttestation :=
  a.signedComputeFenceAttestation.attestation

def PublishingRecoveryAuthorization.drain : CredentialDrainAttestation :=
  a.signedCredentialDrainAttestation.attestation

def PublishingRecoveryAuthorization.maker : RecoveryActorAction :=
  a.recoveryRequest.signedMakerAction.actorAction

def PublishingRecoveryAuthorization.checker : RecoveryActorAction :=
  a.signedCheckerAction.actorAction

/-- The identities no human may have. -/
def PublishingRecoveryAuthorization.nonHumanIdentities : List String :=
  [a.abandonedAttempt.workerId, a.successorClaim.workerId, a.fence.fencingControllerId,
    a.drain.drainControllerId, a.recoveryAuthorityId]

/-- The fingerprints of the three machine keys. -/
def PublishingRecoveryAuthorization.machineKeys : List Digest :=
  [a.fence.fencingAuthorityKeyFingerprint, a.drain.drainAuthorityKeyFingerprint,
    a.recoveryAuthorityKeyFingerprint]

end

/-! ## Expectation and use -/

/-- What the journal row and the caller of the transition say. -/
structure PublishingRecoveryJournalExpectation where
  tenantId : String
  runId : Digest
  controlId : String
  configurationDigest : Digest
  executionPlanDigest : Digest
  executionIdentityDigest : Digest
  recoveryRequestDigest : Digest
  pamScopeDigest : Digest
  pamExecutionBindingDigest : Digest
  pamSnapshotHighWatermark : Nat
  pamLifecycleRecordCount : Nat
  relaunchFenceOperationDigest : Digest
  issuanceFenceOperationDigest : Digest
  abandonedLeaseFence : Nat
  abandonedAttemptCount : Nat
  abandonedWorkerId : String
  abandonedLeaseTokenDigest : Digest
  abandonedPublishingAt : Time
  successorLeaseFence : Nat
  successorAttemptCount : Nat
  successorWorkerId : String
  successorLeaseTokenDigest : Digest
deriving DecidableEq

structure PublishingRecoveryUseClaim where
  authorizationId : Digest
  tenantId : String
  runId : Digest
  recoveryRequestDigest : Digest
  abandonedAttemptDigest : Digest
  successorClaimDigest : Digest
  executionPlanDigest : Digest
  executionIdentityDigest : Digest
  pamScopeDigest : Digest
  pamSnapshotHighWatermark : Nat
  pamLifecycleRecordCount : Nat
  relaunchFenceOperationDigest : Digest
  issuanceFenceOperationDigest : Digest
  consumedAt : Time
  authorizationExpiresAt : Time
deriving DecidableEq

/-! ## Digests -/

/-- Whatever a digest of these modules is computed from. -/
inductive RecoveryDocument where
  | actorAction (a : RecoveryActorAction)
  | signedActorAction (a : SignedRecoveryActorAction)
  | abandonedAttempt (a : AbandonedPublishingAttempt)
  | successorClaim (c : SuccessorLeaseClaim)
  | pamScope (scopes : List PAMRecoveryScope)
  | executionBinding (tenantId : String) (runId plan identity : Digest) (abandonedFence : Nat)
      (scope : Digest)
  | requestIntent (i : PublishingRecoveryRequestIntent)
  | request (r : PublishingRecoveryRequest)
  | computeFence (f : ComputeFenceAttestation)
  | signedComputeFence (f : SignedComputeFenceAttestation)
  | lifecycleSnapshot (scope binding : Digest) (highWatermark : Nat)
      (anchors : List PAMDrainAnchor)
  | credentialDrain (d : CredentialDrainAttestation)
  | signedCredentialDrain (d : SignedCredentialDrainAttestation)
  | approvalIntent (i : PublishingRecoveryApprovalIntent)
  | authorization (a : PublishingRecoveryAuthorization)
  | signedAuthorization (a : SignedPublishingRecoveryAuthorization)
  | useClaim (c : PublishingRecoveryUseClaim)
  | publicKey (key : Bytes)
deriving DecidableEq

/-- The domains of the five signatures. -/
inductive SignatureDomain where
  | authorization | computeFence | credentialDrain | makerAction | checkerAction
deriving DecidableEq

/-- What the modules take from elsewhere: SHA-256 of the canonical bytes, Ed25519,
and the JSON reading and writing of an envelope. -/
structure Recovery where
  sha : RecoveryDocument → Digest
  verifies : Bytes → SignatureDomain → RecoveryDocument → BitVec 512 → Bool
  /-- strict JSON with the fields of the envelope -/
  parse : Bytes → Option SignedPublishingRecoveryAuthorization
  /-- fails when a limit of the JSON writer is exceeded -/
  canonicalBytes : SignedPublishingRecoveryAuthorization → Option Bytes

/-- `MAX_SIGNED_PUBLISHING_RECOVERY_BYTES`. -/
def maxSignedPublishingRecoveryBytes : Nat := 128 * 1024

/-- The signed envelope is written as text that the parser and the table accept. -/
def SignedPublishingRecoveryAuthorization.fits (R : Recovery)
    (s : SignedPublishingRecoveryAuthorization) : Prop :=
  ∃ bytes ∈ R.canonicalBytes s, 2 ≤ bytes.length ∧ bytes.length ≤ maxSignedPublishingRecoveryBytes

instance (R : Recovery) (s : SignedPublishingRecoveryAuthorization) : Decidable (s.fits R) := by
  delta SignedPublishingRecoveryAuthorization.fits; infer_instance

/-! ## Validators that compare digests -/

section

variable (R : Recovery)

/-- `validate_envelope` of a signed action. -/
def SignedRecoveryActorAction.valid (s : SignedRecoveryActorAction) : Prop :=
  s.actorAction.valid ∧ safeIdentifier s.authoritySignature.keyId = true
    ∧ s.actorActionDigest = R.sha (.actorAction s.actorAction)
    ∧ s.idpKeyFingerprint = s.actorAction.idpKeyFingerprint

/-- `validate_intent`. -/
def PublishingRecoveryRequestIntent.valid (i : PublishingRecoveryRequestIntent) : Prop :=
  portableId i.tenantId = true ∧ portableId i.controlId = true
    ∧ i.abandonedAttempt.valid ∧ i.successorClaim.valid
    ∧ (1 ≤ i.pamScopes.length ∧ i.pamScopes.length ≤ 32)
    ∧ (∀ s ∈ i.pamScopes, portableId s.connectorId = true)
    ∧ i.successorClaim.leaseFence = i.abandonedAttempt.leaseFence + 1
    ∧ i.successorClaim.attemptCount = i.abandonedAttempt.attemptCount + 1
    ∧ i.abandonedAttempt.leaseExpiresAt ≤ i.successorClaim.leasedAt
    ∧ i.successorClaim.leasedAt ≤ i.requestedAt
    ∧ i.successorClaim.workerId ≠ i.abandonedAttempt.workerId
    ∧ i.successorClaim.workerCredentialDigest ≠ i.abandonedAttempt.workerCredentialDigest
    ∧ i.successorClaim.leaseTokenDigest ≠ i.abandonedAttempt.leaseTokenDigest
    ∧ i.requestedAt < i.requestExpiresAt
    ∧ i.requestExpiresAt - i.requestedAt ≤ maxRecoveryRequestLifetime
    ∧ i.pamScopes.Pairwise PAMRecoveryScope.before
    ∧ i.pamScopeDigest = R.sha (.pamScope i.pamScopes)
    ∧ i.pamExecutionBindingDigest = R.sha (.executionBinding i.tenantId i.runId
      i.executionPlanDigest i.executionIdentityDigest i.abandonedAttempt.leaseFence
      i.pamScopeDigest)

/-- `validate_request`. -/
def PublishingRecoveryRequest.valid (r : PublishingRecoveryRequest) : Prop :=
  r.intent.valid R ∧ r.signedMakerAction.valid R
    ∧ r.intentDigest = R.sha (.requestIntent r.intent)
    ∧ r.signedMakerAction.actorAction.role = .maker
    ∧ r.signedMakerAction.actorAction.action = .request
    ∧ r.signedMakerAction.actorAction.tenantId = r.intent.tenantId
    ∧ r.signedMakerAction.actorAction.runId = r.intent.runId
    ∧ r.signedMakerAction.actorAction.actionDigest = R.sha (.requestIntent r.intent)
    ∧ r.signedMakerAction.actorAction.actedAt = r.intent.requestedAt
    ∧ r.signedMakerAction.actorAction.expiresAt = r.intent.requestExpiresAt

/-- `validate_drain`. -/
def CredentialDrainAttestation.valid (d : CredentialDrainAttestation) : Prop :=
  portableId d.tenantId = true ∧ safeIdentifier d.drainControllerId = true
    ∧ jsonMediaType d.pamQueryEvidenceMediaType = true
    ∧ d.anchors.length ≤ 128 ∧ (∀ a ∈ d.anchors, a.valid)
    ∧ d.maximumInflightSeconds ≤ 3600 ∧ d.clockSkewSeconds ≤ 300
    ∧ (1 ≤ d.snapshotHighWatermark ∧ d.snapshotHighWatermark ≤ 2 ^ 53 - 1)
    ∧ d.anchors.Pairwise PAMDrainAnchor.before
    ∧ (d.anchors.map (·.lifecycleRecordId)).Nodup
    ∧ (d.anchors.map (·.lifecycleRecordDigest)).Nodup
    ∧ (d.anchors.map (·.lifecycleSequence)).Nodup
    ∧ d.lifecycleRecordCount = d.anchors.length
    ∧ d.lifecycleSnapshotDigest = R.sha (.lifecycleSnapshot d.scopeDigest
      d.executionBindingDigest d.snapshotHighWatermark d.anchors)
    ∧ (∀ a ∈ d.anchors, a.scopeDigest = d.scopeDigest
      ∧ a.executionBindingDigest = d.executionBindingDigest
      ∧ a.lifecycleSequence ≤ d.snapshotHighWatermark ∧ a.settledAt ≤ d.checkedAt)
    ∧ d.issuanceFenceHighWatermark = d.snapshotHighWatermark
    ∧ d.issuanceFenceEffectiveAt ≤ d.checkedAt
    ∧ d.attestedAt < d.issuanceFenceValidUntil
    ∧ (d.anchors.map (·.maximumResidualExposureEndsAt)).max?
      = some d.maximumResidualExposureEndsAt
    ∧ d.postFenceInflightDeadline
      = d.fenceEffectiveAt + (d.maximumInflightSeconds + d.clockSkewSeconds : Nat)
    ∧ d.drainNotBefore = max d.maximumResidualExposureEndsAt d.postFenceInflightDeadline
    ∧ d.drainNotBefore ≤ d.checkedAt ∧ d.checkedAt ≤ d.attestedAt

def SignedComputeFenceAttestation.valid (s : SignedComputeFenceAttestation) : Prop :=
  s.attestation.valid ∧ safeIdentifier s.authoritySignature.keyId = true
    ∧ s.attestationDigest = R.sha (.computeFence s.attestation)
    ∧ s.fencingAuthorityKeyFingerprint = s.attestation.fencingAuthorityKeyFingerprint

def SignedCredentialDrainAttestation.valid (s : SignedCredentialDrainAttestation) : Prop :=
  s.attestation.valid R ∧ safeIdentifier s.authoritySignature.keyId = true
    ∧ s.attestationDigest = R.sha (.credentialDrain s.attestation)
    ∧ s.drainAuthorityKeyFingerprint = s.attestation.drainAuthorityKeyFingerprint

/-- `publishing_recovery_checker_action_digest` of an authorization. -/
def PublishingRecoveryAuthorization.checkerActionDigest (a : PublishingRecoveryAuthorization) :
    Digest :=
  R.sha (.approvalIntent
    { tenantId := a.tenantId
      runId := a.runId
      recoveryRequestDigest := a.recoveryRequestDigest
      signedComputeFenceAttestationDigest := a.signedComputeFenceAttestationDigest
      signedCredentialDrainAttestationDigest := a.signedCredentialDrainAttestationDigest
      abandonedAttemptDigest := R.sha (.abandonedAttempt a.abandonedAttempt)
      successorClaimDigest := R.sha (.successorClaim a.successorClaim)
      changeApprovalDigest := a.changeApprovalDigest
      approvedAt := a.approvedAt
      notBefore := a.notBefore
      issuedAt := a.issuedAt
      expiresAt := a.expiresAt
      authorizationNonce := a.authorizationNonce
      recoveryAuthorityId := a.recoveryAuthorityId
      recoveryAuthorityKeyFingerprint := a.recoveryAuthorityKeyFingerprint })

/-! ## The authorization's own validator -/

section

variable (a : PublishingRecoveryAuthorization)

/-- The authorization names what its request names, and embeds the objects whose
digests it lists. -/
def PublishingRecoveryAuthorization.embedsRequest : Prop :=
  (a.tenantId = a.recoveryRequest.intent.tenantId ∧ a.runId = a.recoveryRequest.intent.runId
    ∧ a.controlId = a.recoveryRequest.intent.controlId
    ∧ a.configurationDigest = a.recoveryRequest.intent.configurationDigest
    ∧ a.executionPlanDigest = a.recoveryRequest.intent.executionPlanDigest
    ∧ a.executionIdentityDigest = a.recoveryRequest.intent.executionIdentityDigest)
  ∧ a.recoveryRequestDigest = R.sha (.request a.recoveryRequest)
  ∧ a.computeFenceAttestationDigest = R.sha (.computeFence a.fence)
  ∧ a.signedComputeFenceAttestationDigest
    = R.sha (.signedComputeFence a.signedComputeFenceAttestation)
  ∧ a.credentialDrainAttestationDigest = R.sha (.credentialDrain a.drain)
  ∧ a.signedCredentialDrainAttestationDigest
    = R.sha (.signedCredentialDrain a.signedCredentialDrainAttestation)
  ∧ a.abandonedAttempt = a.recoveryRequest.intent.abandonedAttempt
  ∧ a.successorClaim = a.recoveryRequest.intent.successorClaim
  ∧ a.signedCheckerActionDigest = R.sha (.signedActorAction a.signedCheckerAction)

/-- The compute fence identifies the abandoned workload. -/
def PublishingRecoveryAuthorization.fencesAbandoned : Prop :=
  a.fence.recoveryRequestDigest = R.sha (.request a.recoveryRequest)
    ∧ a.fence.tenantId = a.tenantId ∧ a.fence.runId = a.runId
    ∧ a.fence.abandonedAttemptDigest = R.sha (.abandonedAttempt a.abandonedAttempt)
    ∧ a.fence.workload.workerId = a.abandonedAttempt.workerId
    ∧ a.fence.workload.workerCredentialDigest = a.abandonedAttempt.workerCredentialDigest

/-- The drain is inside the recovery binding and covers the exact PAM scope. -/
def PublishingRecoveryAuthorization.drainsScope : Prop :=
  a.drain.recoveryRequestDigest = R.sha (.request a.recoveryRequest)
    ∧ a.drain.computeFenceAttestationDigest = R.sha (.computeFence a.fence)
    ∧ a.drain.tenantId = a.tenantId ∧ a.drain.runId = a.runId
    ∧ a.drain.abandonedAttemptDigest = R.sha (.abandonedAttempt a.abandonedAttempt)
    ∧ a.drain.scopeDigest = a.recoveryRequest.intent.pamScopeDigest
    ∧ a.drain.executionBindingDigest = a.recoveryRequest.intent.pamExecutionBindingDigest
    ∧ a.drain.fenceEffectiveAt = a.fence.fenceEffectiveAt
    ∧ (∀ x ∈ a.drain.anchors, x.scope ∈ a.recoveryRequest.intent.pamScopes)
    ∧ ∀ s ∈ a.recoveryRequest.intent.pamScopes, s ∈ a.drain.anchors.map PAMDrainAnchor.scope

/-- Explicit maker and checker roles. -/
def PublishingRecoveryAuthorization.rolesExplicit : Prop :=
  a.maker.role = .maker ∧ a.maker.action = .request
    ∧ a.checker.role = .checker ∧ a.checker.action = .approve
    ∧ a.checker.tenantId = a.tenantId ∧ a.checker.runId = a.runId
    ∧ a.checker.actionDigest = a.checkerActionDigest R
    ∧ a.checker.actedAt = a.approvedAt ∧ a.expiresAt ≤ a.checker.expiresAt

/-- Different people, sessions and keys, and duties that are not shared. -/
def PublishingRecoveryAuthorization.dutiesSeparated : Prop :=
  a.maker.subjectId ≠ a.checker.subjectId
    ∧ a.maker.sessionDigest ≠ a.checker.sessionDigest
    ∧ a.maker.idpKeyFingerprint ≠ a.checker.idpKeyFingerprint
    ∧ a.nonHumanIdentities.Nodup ∧ a.machineKeys.Nodup
    ∧ a.maker.subjectId ∉ a.nonHumanIdentities ∧ a.checker.subjectId ∉ a.nonHumanIdentities
    ∧ a.maker.idpKeyFingerprint ∉ a.machineKeys ∧ a.checker.idpKeyFingerprint ∉ a.machineKeys
    ∧ a.fence.fencingControllerCredentialDigest ∉ [a.abandonedAttempt.workerCredentialDigest,
      a.successorClaim.workerCredentialDigest, a.drain.drainControllerCredentialDigest]
    ∧ a.drain.drainControllerCredentialDigest ∉ [a.abandonedAttempt.workerCredentialDigest,
      a.successorClaim.workerCredentialDigest]

/-- `required_not_before`. -/
def PublishingRecoveryAuthorization.requiredNotBefore : Time :=
  max a.abandonedAttempt.leaseExpiresAt (max a.fence.isolationObservedAt a.drain.drainNotBefore)

/-- The timeline and the lifetime of the authorization. -/
def PublishingRecoveryAuthorization.timelineValid : Prop :=
  a.recoveryRequest.intent.requestedAt ≤ a.fence.fenceRequestedAt
    ∧ a.fence.attestedAt ≤ a.drain.attestedAt ∧ a.drain.attestedAt ≤ a.approvedAt
    ∧ a.requiredNotBefore ≤ a.approvedAt ∧ a.notBefore = a.requiredNotBefore
    ∧ a.approvedAt ≤ a.issuedAt ∧ a.issuedAt < a.expiresAt
    ∧ a.expiresAt - a.issuedAt ≤ maxRecoveryAuthorizationLifetime
    ∧ a.issuedAt < a.recoveryRequest.intent.requestExpiresAt
    ∧ a.expiresAt ≤ a.recoveryRequest.intent.requestExpiresAt
    ∧ a.notBefore < a.successorClaim.leaseExpiresAt
    ∧ a.expiresAt ≤ a.successorClaim.leaseExpiresAt
    ∧ a.successorClaim.leaseExpiresAt ≤ a.fence.relaunchFenceValidUntil
    ∧ a.successorClaim.leaseExpiresAt ≤ a.drain.issuanceFenceValidUntil

/-- `validate_authorization`, after the field rules and the nested documents. -/
def PublishingRecoveryAuthorization.valid : Prop :=
  portableId a.tenantId = true ∧ portableId a.controlId = true
    ∧ safeIdentifier a.recoveryAuthorityId = true
    ∧ a.recoveryRequest.valid R ∧ a.signedComputeFenceAttestation.valid R
    ∧ a.signedCredentialDrainAttestation.valid R ∧ a.signedCheckerAction.valid R
    ∧ a.abandonedAttempt.valid ∧ a.successorClaim.valid
    ∧ a.embedsRequest R ∧ a.fencesAbandoned R ∧ a.drainsScope R ∧ a.rolesExplicit R
    ∧ a.dutiesSeparated ∧ a.timelineValid

end

/-- `validate_envelope` of a signed authorization. -/
def SignedPublishingRecoveryAuthorization.valid
    (s : SignedPublishingRecoveryAuthorization) : Prop :=
  s.authorization.valid R ∧ safeIdentifier s.authoritySignature.keyId = true
    ∧ s.authorizationId = R.sha (.authorization s.authorization)
    ∧ s.recoveryAuthorityKeyFingerprint = s.authorization.recoveryAuthorityKeyFingerprint

end

/-- The field rules of a journal expectation and `validate_fence_progression`. -/
def PublishingRecoveryJournalExpectation.valid
    (e : PublishingRecoveryJournalExpectation) : Prop :=
  portableId e.tenantId = true ∧ portableId e.controlId = true
    ∧ portableId e.abandonedWorkerId = true ∧ portableId e.successorWorkerId = true
    ∧ (1 ≤ e.pamSnapshotHighWatermark ∧ e.pamSnapshotHighWatermark ≤ 2 ^ 53 - 1)
    ∧ (1 ≤ e.pamLifecycleRecordCount ∧ e.pamLifecycleRecordCount ≤ 128)
    ∧ (1 ≤ e.abandonedLeaseFence ∧ e.abandonedLeaseFence ≤ 2 ^ 63 - 2)
    ∧ (1 ≤ e.abandonedAttemptCount ∧ e.abandonedAttemptCount ≤ 32)
    ∧ (2 ≤ e.successorLeaseFence ∧ e.successorLeaseFence ≤ 2 ^ 63 - 1)
    ∧ (2 ≤ e.successorAttemptCount ∧ e.successorAttemptCount ≤ 32)
    ∧ e.successorLeaseFence = e.abandonedLeaseFence + 1
    ∧ e.successorAttemptCount = e.abandonedAttemptCount + 1

/-- The field rules of a use claim and `validate_use_window`. -/
def PublishingRecoveryUseClaim.valid (c : PublishingRecoveryUseClaim) : Prop :=
  portableId c.tenantId = true
    ∧ (1 ≤ c.pamSnapshotHighWatermark ∧ c.pamSnapshotHighWatermark ≤ 2 ^ 53 - 1)
    ∧ (1 ≤ c.pamLifecycleRecordCount ∧ c.pamLifecycleRecordCount ≤ 128)
    ∧ c.consumedAt < c.authorizationExpiresAt

/-! ## The validators can be run -/

section

variable (R : Recovery)

instance (p : RecoveryActorVerificationPolicy) : Decidable p.valid := by
  delta RecoveryActorVerificationPolicy.valid; infer_instance

instance (a : RecoveryActorAction) : Decidable a.valid := by
  delta RecoveryActorAction.valid; infer_instance

instance (a : AbandonedPublishingAttempt) : Decidable a.valid := by
  delta AbandonedPublishingAttempt.valid; infer_instance

instance (c : SuccessorLeaseClaim) : Decidable c.valid := by
  delta SuccessorLeaseClaim.valid; infer_instance

instance (w : WorkloadFenceLocator) : Decidable w.valid := by
  delta WorkloadFenceLocator.valid; infer_instance

instance (f : ComputeFenceAttestation) : Decidable f.valid := by
  delta ComputeFenceAttestation.valid; infer_instance

instance (a : PAMDrainAnchor) : Decidable a.valid := by
  delta PAMDrainAnchor.valid; infer_instance

instance (s : SignedRecoveryActorAction) : Decidable (s.valid R) := by
  delta SignedRecoveryActorAction.valid; infer_instance

instance (i : PublishingRecoveryRequestIntent) : Decidable (i.valid R) := by
  delta PublishingRecoveryRequestIntent.valid; infer_instance

instance (r : PublishingRecoveryRequest) : Decidable (r.valid R) := by
  delta PublishingRecoveryRequest.valid; infer_instance

instance (d : CredentialDrainAttestation) : Decidable (d.valid R) := by
  delta CredentialDrainAttestation.valid; infer_instance

instance (s : SignedComputeFenceAttestation) : Decidable (s.valid R) := by
  delta SignedComputeFenceAttestation.valid; infer_instance

instance (s : SignedCredentialDrainAttestation) : Decidable (s.valid R) := by
  delta SignedCredentialDrainAttestation.valid; infer_instance

instance (a : PublishingRecoveryAuthorization) : Decidable (a.embedsRequest R) := by
  delta PublishingRecoveryAuthorization.embedsRequest; infer_instance

instance (a : PublishingRecoveryAuthorization) : Decidable (a.fencesAbandoned R) := by
  delta PublishingRecoveryAuthorization.fencesAbandoned; infer_instance

instance (a : PublishingRecoveryAuthorization) : Decidable (a.drainsScope R) := by
  delta PublishingRecoveryAuthorization.drainsScope; infer_instance

instance (a : PublishingRecoveryAuthorization) : Decidable (a.rolesExplicit R) := by
  delta PublishingRecoveryAuthorization.rolesExplicit; infer_instance

instance (a : PublishingRecoveryAuthorization) : Decidable a.dutiesSeparated := by
  delta PublishingRecoveryAuthorization.dutiesSeparated; infer_instance

instance (a : PublishingRecoveryAuthorization) : Decidable a.timelineValid := by
  delta PublishingRecoveryAuthorization.timelineValid; infer_instance

instance (a : PublishingRecoveryAuthorization) : Decidable (a.valid R) := by
  delta PublishingRecoveryAuthorization.valid; infer_instance

instance (s : SignedPublishingRecoveryAuthorization) : Decidable (s.valid R) := by
  delta SignedPublishingRecoveryAuthorization.valid; infer_instance

instance (e : PublishingRecoveryJournalExpectation) : Decidable e.valid := by
  delta PublishingRecoveryJournalExpectation.valid; infer_instance

instance (c : PublishingRecoveryUseClaim) : Decidable c.valid := by
  delta PublishingRecoveryUseClaim.valid; infer_instance

end

end ControlAssurance.Execution
