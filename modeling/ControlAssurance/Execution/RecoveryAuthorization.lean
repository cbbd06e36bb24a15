import ControlAssurance.Execution.RecoveryDocuments

/-!
# Verifying and consuming a recovery authorization

`verify_publishing_recovery_authorization` of `runtime/execution_recovery.py`: an
envelope is read, five signatures are checked under five pinned keys, its times are
compared with the clock, its actors with the policy and its binding with the journal;
only then `consume_once` of the use registry is called, once. The last section derives
what is true at that moment from the validators of the nested documents: the abandoned
worker holds no lease and no live credential and cannot get new ones before the
successor's lease ends.

The clock is a whole UTC second; `utc_second` refuses any other before all else.
-/

namespace ControlAssurance.Execution

open Lib
open Admission (Bytes DetachedSignature safeIdentifier)

/-! ## Errors -/

/-- The codes of `PublishingRecoveryError`, and the error of a use claim that its own
model refuses. -/
inductive RecoveryError where
  | documentInvalid | documentNoncanonical
  | authorityUnavailable | authorityInvalid | authorityChanged
  | signatureInvalid | makerSignatureInvalid | checkerSignatureInvalid
  | fenceSignatureInvalid | drainSignatureInvalid
  | authorizationNotYetValid | recoveryRequestExpired | successorLeaseExpired
  | authorizationExpired | computeFenceExpired | issuanceFenceExpired
  | makerActionInvalid | checkerActionInvalid | journalBindingMismatch
  | consumptionUnavailable | consumptionInvalid | authorizationConsumed
  | useClaimInvalid
deriving DecidableEq

/-- The stable text of an error; a refused use claim raises a `ValidationError`. -/
def RecoveryError.code : RecoveryError → Option String
  | .documentInvalid => some "document-invalid"
  | .documentNoncanonical => some "document-noncanonical"
  | .authorityUnavailable => some "authority-unavailable"
  | .authorityInvalid => some "authority-invalid"
  | .authorityChanged => some "authority-changed"
  | .signatureInvalid => some "signature-invalid"
  | .makerSignatureInvalid => some "maker-signature-invalid"
  | .checkerSignatureInvalid => some "checker-signature-invalid"
  | .fenceSignatureInvalid => some "fence-signature-invalid"
  | .drainSignatureInvalid => some "drain-signature-invalid"
  | .authorizationNotYetValid => some "authorization-not-yet-valid"
  | .recoveryRequestExpired => some "recovery-request-expired"
  | .successorLeaseExpired => some "successor-lease-expired"
  | .authorizationExpired => some "authorization-expired"
  | .computeFenceExpired => some "compute-fence-expired"
  | .issuanceFenceExpired => some "issuance-fence-expired"
  | .makerActionInvalid => some "maker-action-invalid"
  | .checkerActionInvalid => some "checker-action-invalid"
  | .journalBindingMismatch => some "journal-binding-mismatch"
  | .consumptionUnavailable => some "consumption-unavailable"
  | .consumptionInvalid => some "consumption-invalid"
  | .authorizationConsumed => some "authorization-consumed"
  | .useClaimInvalid => none

/-! ## Pinned keys -/

/-- What reading `key_id` and `public_key_bytes` of a verifier gives. -/
inductive KeyReading where
  | raised
  | malformed
  | material (keyId : String) (publicKey : Bytes)
deriving DecidableEq

/-- A verifier is read before and after its signature is checked. -/
structure LeaseAuthorityVerifier where
  before : KeyReading
  after : KeyReading
deriving DecidableEq

/-- The public key a verifier shows. -/
def LeaseAuthorityVerifier.publicKey (v : LeaseAuthorityVerifier) : Option Bytes :=
  match v.before with
  | .material _ key => some key
  | _ => none

/-- The five verifiers of a verification. -/
structure RecoveryVerifiers where
  authority : LeaseAuthorityVerifier
  fence : LeaseAuthorityVerifier
  drain : LeaseAuthorityVerifier
  maker : LeaseAuthorityVerifier
  checker : LeaseAuthorityVerifier
deriving DecidableEq

/-- The five public keys. -/
def RecoveryVerifiers.publicKeys (v : RecoveryVerifiers) : List (Option Bytes) :=
  [v.authority.publicKey, v.fence.publicKey, v.drain.publicKey, v.maker.publicKey,
    v.checker.publicKey]

section

variable (R : Recovery)

/-- `_verifier_material`. -/
def verifierMaterial : KeyReading → Except RecoveryError (String × Bytes × Digest)
  | .raised => .error .authorityUnavailable
  | .malformed => .error .authorityInvalid
  | .material keyId publicKey => do
    require (safeIdentifier keyId = true ∧ publicKey.length = 32) RecoveryError.authorityInvalid
    pure (keyId, publicKey, R.sha (.publicKey publicKey))

/-- `_verify_payload_signature`. -/
def verifyPayloadSignature (payload : RecoveryDocument) (signature : DetachedSignature)
    (expectedFingerprint : Digest) (domain : SignatureDomain)
    (verifier : LeaseAuthorityVerifier) (invalidCode : RecoveryError) :
    Except RecoveryError Unit := do
  let before ← verifierMaterial R verifier.before
  require (signature.keyId = before.1 ∧ expectedFingerprint = before.2.2
    ∧ R.verifies before.2.1 domain payload signature.signature = true) invalidCode
  let after ← verifierMaterial R verifier.after
  require (after = before) RecoveryError.authorityChanged

/-- `_verify_compute_fence_signature`. -/
def verifyComputeFenceSignature (envelope : SignedComputeFenceAttestation)
    (verifier : LeaseAuthorityVerifier) : Except RecoveryError Unit :=
  verifyPayloadSignature R (.computeFence envelope.attestation) envelope.authoritySignature
    envelope.fencingAuthorityKeyFingerprint .computeFence verifier .fenceSignatureInvalid

/-- `_verify_credential_drain_signature`. -/
def verifyCredentialDrainSignature (envelope : SignedCredentialDrainAttestation)
    (verifier : LeaseAuthorityVerifier) : Except RecoveryError Unit :=
  verifyPayloadSignature R (.credentialDrain envelope.attestation) envelope.authoritySignature
    envelope.drainAuthorityKeyFingerprint .credentialDrain verifier .drainSignatureInvalid

/-- `_verify_authorization_signature`. -/
def verifyAuthorizationSignature (envelope : SignedPublishingRecoveryAuthorization)
    (verifier : LeaseAuthorityVerifier) : Except RecoveryError Unit :=
  verifyPayloadSignature R (.authorization envelope.authorization) envelope.authoritySignature
    envelope.recoveryAuthorityKeyFingerprint .authorization verifier .signatureInvalid

/-- `_actor_signature_prefix`; a valid action has no other pair of role and action. -/
def actorSignatureDomain (action : RecoveryActorAction) : SignatureDomain :=
  match action.role with
  | .maker => .makerAction
  | .checker => .checkerAction

/-- `_verify_actor_action_signature`. -/
def verifyActorActionSignature (envelope : SignedRecoveryActorAction)
    (verifier : LeaseAuthorityVerifier) (invalidCode : RecoveryError) :
    Except RecoveryError Unit :=
  verifyPayloadSignature R (.actorAction envelope.actorAction) envelope.authoritySignature
    envelope.idpKeyFingerprint (actorSignatureDomain envelope.actorAction) verifier invalidCode

/-! ## Context -/

/-- The condition `_assert_actor_action_context` asks for. -/
def RecoveryActorAction.inContext (action : RecoveryActorAction) (role : ActorRole)
    (act : ActorAction) (actionDigest : Digest) (tenantId : String) (runId : Digest)
    (issuerId audience : String) (observedAt : Time) : Prop :=
  action.role = role ∧ action.action = act ∧ action.actionDigest = actionDigest
    ∧ action.tenantId = tenantId ∧ action.runId = runId ∧ action.issuerId = issuerId
    ∧ action.audience = audience ∧ action.actedAt ≤ observedAt ∧ observedAt < action.expiresAt

instance (action : RecoveryActorAction) (role : ActorRole) (act : ActorAction)
    (actionDigest : Digest) (tenantId : String) (runId : Digest) (issuerId audience : String)
    (observedAt : Time) : Decidable (action.inContext role act actionDigest tenantId runId
      issuerId audience observedAt) := by
  delta RecoveryActorAction.inContext; infer_instance

/-- The tuple `_assert_journal_binding` observes. -/
def PublishingRecoveryAuthorization.journalBinding (a : PublishingRecoveryAuthorization) :
    PublishingRecoveryJournalExpectation where
  tenantId := a.tenantId
  runId := a.runId
  controlId := a.controlId
  configurationDigest := a.configurationDigest
  executionPlanDigest := a.executionPlanDigest
  executionIdentityDigest := a.executionIdentityDigest
  recoveryRequestDigest := a.recoveryRequestDigest
  pamScopeDigest := a.recoveryRequest.intent.pamScopeDigest
  pamExecutionBindingDigest := a.recoveryRequest.intent.pamExecutionBindingDigest
  pamSnapshotHighWatermark := a.drain.snapshotHighWatermark
  pamLifecycleRecordCount := a.drain.lifecycleRecordCount
  relaunchFenceOperationDigest := a.fence.relaunchFenceOperationDigest
  issuanceFenceOperationDigest := a.drain.issuanceFenceOperationDigest
  abandonedLeaseFence := a.abandonedAttempt.leaseFence
  abandonedAttemptCount := a.abandonedAttempt.attemptCount
  abandonedWorkerId := a.abandonedAttempt.workerId
  abandonedLeaseTokenDigest := a.abandonedAttempt.leaseTokenDigest
  abandonedPublishingAt := a.abandonedAttempt.publishingAt
  successorLeaseFence := a.successorClaim.leaseFence
  successorAttemptCount := a.successorClaim.attemptCount
  successorWorkerId := a.successorClaim.workerId
  successorLeaseTokenDigest := a.successorClaim.leaseTokenDigest

/-- The use claim of an envelope at a time. -/
def SignedPublishingRecoveryAuthorization.useClaim (s : SignedPublishingRecoveryAuthorization)
    (observedAt : Time) : PublishingRecoveryUseClaim where
  authorizationId := s.authorizationId
  tenantId := s.authorization.tenantId
  runId := s.authorization.runId
  recoveryRequestDigest := s.authorization.recoveryRequestDigest
  abandonedAttemptDigest := R.sha (.abandonedAttempt s.authorization.abandonedAttempt)
  successorClaimDigest := R.sha (.successorClaim s.authorization.successorClaim)
  executionPlanDigest := s.authorization.executionPlanDigest
  executionIdentityDigest := s.authorization.executionIdentityDigest
  pamScopeDigest := s.authorization.recoveryRequest.intent.pamScopeDigest
  pamSnapshotHighWatermark := s.authorization.drain.snapshotHighWatermark
  pamLifecycleRecordCount := s.authorization.drain.lifecycleRecordCount
  relaunchFenceOperationDigest := s.authorization.fence.relaunchFenceOperationDigest
  issuanceFenceOperationDigest := s.authorization.drain.issuanceFenceOperationDigest
  consumedAt := observedAt
  authorizationExpiresAt := s.authorization.expiresAt

/-! ## Verification -/

/-- The pinned inputs of a verification. The two models are built before the call, so
they are valid. -/
structure RecoveryPins where
  verifiers : RecoveryVerifiers
  actorPolicy : RecoveryActorVerificationPolicy
  actorPolicyValid : actorPolicy.valid

/-- A journal expectation as the caller built it. -/
abbrev JournalExpectation := { e : PublishingRecoveryJournalExpectation // e.valid }

/-- Reading the envelope: bounded, valid and canonical. -/
def readEnvelope (value : Bytes) :
    Except RecoveryError SignedPublishingRecoveryAuthorization := do
  require (value ≠ [] ∧ value.length ≤ maxSignedPublishingRecoveryBytes)
    RecoveryError.documentInvalid
  let envelope ← expect (R.parse value) RecoveryError.documentInvalid
  require (envelope.valid R) RecoveryError.documentInvalid
  let canonical ← expect (R.canonicalBytes envelope) RecoveryError.documentInvalid
  require (canonical = value) RecoveryError.documentNoncanonical
  pure envelope

/-- The five signatures, in the order they are checked. -/
def verifySignatures (verifiers : RecoveryVerifiers)
    (envelope : SignedPublishingRecoveryAuthorization) : Except RecoveryError Unit := do
  verifyAuthorizationSignature R envelope verifiers.authority
  verifyActorActionSignature R envelope.authorization.recoveryRequest.signedMakerAction
    verifiers.maker .makerSignatureInvalid
  verifyActorActionSignature R envelope.authorization.signedCheckerAction
    verifiers.checker .checkerSignatureInvalid
  verifyComputeFenceSignature R envelope.authorization.signedComputeFenceAttestation
    verifiers.fence
  verifyCredentialDrainSignature R envelope.authorization.signedCredentialDrainAttestation
    verifiers.drain

/-- The six comparisons with the clock. -/
def checkTimes (a : PublishingRecoveryAuthorization) (observedAt : Time) :
    Except RecoveryError Unit := do
  require (a.notBefore ≤ observedAt ∧ a.issuedAt ≤ observedAt)
    RecoveryError.authorizationNotYetValid
  require (observedAt < a.recoveryRequest.intent.requestExpiresAt)
    RecoveryError.recoveryRequestExpired
  require (observedAt < a.successorClaim.leaseExpiresAt) RecoveryError.successorLeaseExpired
  require (observedAt < a.expiresAt) RecoveryError.authorizationExpired
  require (observedAt < a.fence.relaunchFenceValidUntil) RecoveryError.computeFenceExpired
  require (observedAt < a.drain.issuanceFenceValidUntil) RecoveryError.issuanceFenceExpired

/-- The maker's and the checker's action against the pinned policy. -/
def checkActors (policy : RecoveryActorVerificationPolicy)
    (a : PublishingRecoveryAuthorization) (observedAt : Time) : Except RecoveryError Unit := do
  require (a.maker.inContext .maker .request a.recoveryRequest.intentDigest a.tenantId a.runId
    policy.makerIssuerId policy.audience observedAt) RecoveryError.makerActionInvalid
  require (a.checker.inContext .checker .approve (a.checkerActionDigest R) a.tenantId a.runId
    policy.checkerIssuerId policy.audience observedAt) RecoveryError.checkerActionInvalid

/-- Everything before `consume_once`: the envelope and the claim it is called with. -/
def authorizeUse (pins : RecoveryPins) (expectation : JournalExpectation) (now : Time)
    (value : Bytes) :
    Except RecoveryError (SignedPublishingRecoveryAuthorization × PublishingRecoveryUseClaim) := do
  let envelope ← readEnvelope R value
  verifySignatures R pins.verifiers envelope
  checkTimes envelope.authorization now
  checkActors R pins.actorPolicy envelope.authorization now
  require (envelope.authorization.journalBinding = expectation.1)
    RecoveryError.journalBindingMismatch
  require (envelope.useClaim R now).valid RecoveryError.useClaimInvalid
  pure (envelope, envelope.useClaim R now)

/-- What `consume_once` does: raise, answer something that is no `bool`, or answer. -/
inductive ConsumeAnswer where
  | raised
  | notBool
  | answered (first : Bool)
deriving DecidableEq

structure VerifiedPublishingRecoveryAuthorization where
  envelope : SignedPublishingRecoveryAuthorization
  envelopeBytes : Bytes
  journalExpectation : JournalExpectation
  useClaim : PublishingRecoveryUseClaim

/-- `verify_publishing_recovery_authorization`: the claims `consume_once` was called with,
and the answer of the call. -/
def verifyPublishingRecoveryAuthorization (pins : RecoveryPins)
    (expectation : JournalExpectation) (now : Time)
    (registry : PublishingRecoveryUseClaim → ConsumeAnswer) (value : Bytes) :
    List PublishingRecoveryUseClaim
      × Except RecoveryError VerifiedPublishingRecoveryAuthorization :=
  match authorizeUse R pins expectation now value with
  | .error e => ([], .error e)
  | .ok (envelope, claim) =>
    ([claim], match registry claim with
      | .raised => .error .consumptionUnavailable
      | .notBool => .error .consumptionInvalid
      | .answered false => .error .authorizationConsumed
      | .answered true => .ok ⟨envelope, value, expectation, claim⟩)

/-! ## Signatures -/

/-- A document is signed under the key a verifier shows, and that key is the one with the
expected fingerprint. -/
def SignedUnder (payload : RecoveryDocument) (signature : DetachedSignature)
    (fingerprint : Digest) (domain : SignatureDomain) (verifier : LeaseAuthorityVerifier) :
    Prop :=
  ∃ key, verifier.publicKey = some key ∧ fingerprint = R.sha (.publicKey key)
    ∧ R.verifies key domain payload signature.signature = true

variable {R}

theorem verifyPayloadSignature_ok {payload : RecoveryDocument} {signature : DetachedSignature}
    {fingerprint : Digest} {domain : SignatureDomain} {verifier : LeaseAuthorityVerifier}
    {code : RecoveryError}
    (h : verifyPayloadSignature R payload signature fingerprint domain verifier code = .ok ()) :
    SignedUnder R payload signature fingerprint domain verifier := by
  unfold verifyPayloadSignature at h
  simp only [bind_eq_ok, require_eq_ok] at h
  obtain ⟨before, hbefore, _, ⟨-, hfingerprint, hverifies⟩, -⟩ := h
  cases hread : verifier.before with
  | raised =>
    rw [hread] at hbefore
    cases hbefore
  | malformed =>
    rw [hread] at hbefore
    cases hbefore
  | material keyId key =>
    rw [hread] at hbefore
    simp only [verifierMaterial, bind_eq_ok, require_eq_ok, pure_eq_ok] at hbefore
    obtain ⟨-, -, rfl⟩ := hbefore
    refine ⟨key, ?_, hfingerprint, hverifies⟩
    simp [LeaseAuthorityVerifier.publicKey, hread]

/-- Documents with different fingerprints are signed under different keys. -/
theorem SignedUnder.publicKey_ne {p q : RecoveryDocument} {s u : DetachedSignature}
    {f g : Digest} {c d : SignatureDomain} {v w : LeaseAuthorityVerifier}
    (hp : SignedUnder R p s f c v) (hq : SignedUnder R q u g d w) (hne : f ≠ g) :
    v.publicKey ≠ w.publicKey := by
  obtain ⟨k, hk, hf, -⟩ := hp
  obtain ⟨l, hl, hg, -⟩ := hq
  intro h
  rw [hk, hl, Option.some.injEq] at h
  rw [hf, hg, h] at hne
  exact hne rfl

/-- The five signatures of an envelope. -/
structure AllSigned (R : Recovery) (verifiers : RecoveryVerifiers)
    (envelope : SignedPublishingRecoveryAuthorization) : Prop where
  authority : SignedUnder R (.authorization envelope.authorization) envelope.authoritySignature
    envelope.recoveryAuthorityKeyFingerprint .authorization verifiers.authority
  maker : SignedUnder R (.actorAction envelope.authorization.maker)
    envelope.authorization.recoveryRequest.signedMakerAction.authoritySignature
    envelope.authorization.recoveryRequest.signedMakerAction.idpKeyFingerprint
    (actorSignatureDomain envelope.authorization.maker) verifiers.maker
  checker : SignedUnder R (.actorAction envelope.authorization.checker)
    envelope.authorization.signedCheckerAction.authoritySignature
    envelope.authorization.signedCheckerAction.idpKeyFingerprint
    (actorSignatureDomain envelope.authorization.checker) verifiers.checker
  fence : SignedUnder R (.computeFence envelope.authorization.fence)
    envelope.authorization.signedComputeFenceAttestation.authoritySignature
    envelope.authorization.signedComputeFenceAttestation.fencingAuthorityKeyFingerprint
    .computeFence verifiers.fence
  drain : SignedUnder R (.credentialDrain envelope.authorization.drain)
    envelope.authorization.signedCredentialDrainAttestation.authoritySignature
    envelope.authorization.signedCredentialDrainAttestation.drainAuthorityKeyFingerprint
    .credentialDrain verifiers.drain

theorem verifySignatures_ok {verifiers : RecoveryVerifiers}
    {envelope : SignedPublishingRecoveryAuthorization}
    (h : verifySignatures R verifiers envelope = .ok ()) : AllSigned R verifiers envelope := by
  unfold verifySignatures at h
  simp only [bind_eq_ok] at h
  obtain ⟨_, hauthority, _, hmaker, _, hchecker, _, hfence, hdrain⟩ := h
  exact ⟨verifyPayloadSignature_ok hauthority, verifyPayloadSignature_ok hmaker,
    verifyPayloadSignature_ok hchecker, verifyPayloadSignature_ok hfence,
    verifyPayloadSignature_ok hdrain⟩

/-! ## What is true when the claim reaches the registry -/

/-- The facts a successful `authorizeUse` has checked. -/
structure Authorized (R : Recovery) (pins : RecoveryPins)
    (expectation : JournalExpectation) (now : Time) (value : Bytes)
    (envelope : SignedPublishingRecoveryAuthorization) : Prop where
  parsed : R.parse value = some envelope
  canonical : R.canonicalBytes envelope = some value
  valid : envelope.valid R
  signed : AllSigned R pins.verifiers envelope
  started : envelope.authorization.notBefore ≤ now ∧ envelope.authorization.issuedAt ≤ now
  requestLive : now < envelope.authorization.recoveryRequest.intent.requestExpiresAt
  successorLive : now < envelope.authorization.successorClaim.leaseExpiresAt
  live : now < envelope.authorization.expiresAt
  relaunchLive : now < envelope.authorization.fence.relaunchFenceValidUntil
  issuanceLive : now < envelope.authorization.drain.issuanceFenceValidUntil
  maker : envelope.authorization.maker.inContext .maker .request
    envelope.authorization.recoveryRequest.intentDigest envelope.authorization.tenantId
    envelope.authorization.runId pins.actorPolicy.makerIssuerId pins.actorPolicy.audience now
  checker : envelope.authorization.checker.inContext .checker .approve
    (envelope.authorization.checkerActionDigest R) envelope.authorization.tenantId
    envelope.authorization.runId pins.actorPolicy.checkerIssuerId pins.actorPolicy.audience now
  bound : envelope.authorization.journalBinding = expectation.1
  claimValid : (envelope.useClaim R now).valid

theorem authorizeUse_ok {pins : RecoveryPins} {expectation : JournalExpectation} {now : Time}
    {value : Bytes} {envelope : SignedPublishingRecoveryAuthorization}
    {claim : PublishingRecoveryUseClaim}
    (h : authorizeUse R pins expectation now value = .ok (envelope, claim)) :
    Authorized R pins expectation now value envelope ∧ claim = envelope.useClaim R now := by
  unfold authorizeUse readEnvelope checkTimes checkActors at h
  simp only [bind_eq_ok, require_eq_ok, expect_eq_ok, pure_eq_ok, Prod.mk.injEq] at h
  obtain ⟨_, ⟨_, -, _, hparse, _, hvalid, _, hcanonical, _, rfl, rfl⟩, _, hsigned, _,
    ⟨_, hstarted, _, hrequest, _, hsuccessor, _, hlive, _, hrelaunch, hissuance⟩, _,
    ⟨_, hmaker, hchecker⟩, _, hbound, _, hclaim, rfl, rfl⟩ := h
  exact ⟨⟨hparse, hcanonical, hvalid, verifySignatures_ok hsigned, hstarted, hrequest,
    hsuccessor, hlive, hrelaunch, hissuance, hmaker, hchecker, hbound, hclaim⟩, rfl⟩

/-- The recovery is safe at the time its authorization is used. -/
structure SafeAtUse (R : Recovery) (pins : RecoveryPins)
    (expectation : PublishingRecoveryJournalExpectation)
    (a : PublishingRecoveryAuthorization) (now : Time) : Prop where
  /-- The old lease expired before the successor's began. -/
  leasesApart : a.abandonedAttempt.leaseExpiresAt ≤ a.successorClaim.leasedAt
  exposuresEnded : ∀ x ∈ a.drain.anchors, x.maximumResidualExposureEndsAt ≤ now
  inflightEnded : a.drain.postFenceInflightDeadline ≤ now
  /-- The scopes are those the journal expects, and each has a record. -/
  scopesExpected : expectation.pamScopeDigest
    = R.sha (.pamScope a.recoveryRequest.intent.pamScopes)
  scopesListed : ∀ s ∈ a.recoveryRequest.intent.pamScopes, ∃ x ∈ a.drain.anchors, x.scope = s
  relaunchFenced : a.fence.relaunchFenceEffectiveAt ≤ now ∧ now < a.fence.relaunchFenceValidUntil
    ∧ a.successorClaim.leaseExpiresAt ≤ a.fence.relaunchFenceValidUntil
  issuanceFenced : a.drain.issuanceFenceEffectiveAt ≤ now ∧ now < a.drain.issuanceFenceValidUntil
    ∧ a.successorClaim.leaseExpiresAt ≤ a.drain.issuanceFenceValidUntil
  successorLive : now < a.successorClaim.leaseExpiresAt
  keysShown : none ∉ pins.verifiers.publicKeys
  keysDistinct : pins.verifiers.publicKeys.Nodup
  peopleDiffer : a.maker.subjectId ≠ a.checker.subjectId
    ∧ a.maker.sessionDigest ≠ a.checker.sessionDigest
    ∧ a.maker.issuerId ≠ a.checker.issuerId
  peopleHuman : ∀ x ∈ [a.maker, a.checker], x.subjectId ∉ a.nonHumanIdentities
  actionsFresh : ∀ x ∈ [a.maker, a.checker], x.actedAt ≤ now ∧ now < x.expiresAt
    ∧ x.mfaVerifiedAt ≤ x.actedAt ∧ x.actedAt - x.mfaVerifiedAt ≤ maxActorAuthenticationAge
  bound : a.journalBinding = expectation

/-- A maximum of a list bounds its members. -/
theorem le_of_max?_eq {l : List Time} {m x : Time} (h : l.max? = some m) (hx : x ∈ l) :
    x ≤ m :=
  (List.max?_le_iff h).mp le_rfl x hx

variable {d : CredentialDrainAttestation}

theorem CredentialDrainAttestation.valid.exposure_le
    (h : d.valid R) {x : PAMDrainAnchor} (hx : x ∈ d.anchors) :
    x.maximumResidualExposureEndsAt ≤ d.drainNotBefore := by
  obtain ⟨-, -, -, -, -, -, -, -, -, -, -, -, -, -, -, -, -, -, hmax, -, hnotBefore, -, -⟩ := h
  have hle : x.maximumResidualExposureEndsAt ≤ d.maximumResidualExposureEndsAt :=
    le_of_max?_eq hmax (List.mem_map.mpr ⟨x, hx, rfl⟩)
  rw [hnotBefore]
  exact le_trans hle (le_max_left ..)

theorem CredentialDrainAttestation.valid.deadline_le
    (h : d.valid R) : d.postFenceInflightDeadline ≤ d.drainNotBefore := by
  obtain ⟨-, -, -, -, -, -, -, -, -, -, -, -, -, -, -, -, -, -, -, -, hnotBefore, -, -⟩ := h
  rw [hnotBefore]
  exact le_max_right ..

theorem CredentialDrainAttestation.valid.issuance_le
    (h : d.valid R) : d.issuanceFenceEffectiveAt ≤ d.attestedAt := by
  obtain ⟨-, -, -, -, -, -, -, -, -, -, -, -, -, -, -, -, heffective, -, -, -, -, -, hchecked⟩ := h
  exact le_trans heffective hchecked

theorem ComputeFenceAttestation.valid.relaunch_le {f : ComputeFenceAttestation} (h : f.valid) :
    f.relaunchFenceEffectiveAt ≤ f.isolationObservedAt := by
  obtain ⟨-, -, -, -, -, ⟨-, hrelaunch, heffective, -, -⟩, -, -⟩ := h
  exact le_trans hrelaunch heffective

theorem RecoveryActorAction.valid.mfa {x : RecoveryActorAction} (h : x.valid) :
    x.mfaVerifiedAt ≤ x.actedAt ∧ x.actedAt - x.mfaVerifiedAt ≤ maxActorAuthenticationAge := by
  obtain ⟨-, -, -, -, -, ⟨-, hmfa, -⟩, hage, -⟩ := h
  exact ⟨hmfa, hage⟩

section

variable {pins : RecoveryPins} {expectation : JournalExpectation} {now : Time} {value : Bytes}
  {envelope : SignedPublishingRecoveryAuthorization}

/-- The two instants an authorization cannot be used before bound the three timelines. -/
theorem Authorized.isolated_le (h : Authorized R pins expectation now value envelope) :
    envelope.authorization.fence.isolationObservedAt ≤ now
      ∧ envelope.authorization.drain.drainNotBefore ≤ now
      ∧ envelope.authorization.drain.attestedAt ≤ now := by
  obtain ⟨⟨-, -, -, -, -, -, -, -, -, -, -, -, -, -, htimes⟩, -⟩ := h.valid
  obtain ⟨-, -, hattested, -, hnotBefore, happroved, -⟩ := htimes
  obtain ⟨hstart, hissued⟩ := h.started
  rw [hnotBefore] at hstart
  unfold PublishingRecoveryAuthorization.requiredNotBefore at hstart
  refine ⟨?_, ?_, ?_⟩
  · exact le_trans (le_trans (le_max_left _ _) (le_max_right _ _)) hstart
  · exact le_trans (le_trans (le_max_right _ _) (le_max_right _ _)) hstart
  · exact le_trans hattested (le_trans happroved hissued)

/-- The fingerprints the validators keep apart are those of the five keys. -/
theorem Authorized.keys_distinct (h : Authorized R pins expectation now value envelope) :
    none ∉ pins.verifiers.publicKeys ∧ pins.verifiers.publicKeys.Nodup := by
  obtain ⟨⟨-, -, -, hrequest, hfence, hdrain, hchecker, -, -, -, -, -, -, hduties, -⟩, -, -,
    hauthority⟩ := h.valid
  obtain ⟨-, -, hpeople, -, hmachines, -, -, hmaker, hcheck, -, -⟩ := hduties
  obtain ⟨-, -, -, hfenceKey⟩ := hfence
  obtain ⟨-, -, -, hdrainKey⟩ := hdrain
  obtain ⟨-, -, -, hcheckerKey⟩ := hchecker
  obtain ⟨-, ⟨-, -, -, hmakerKey⟩, -⟩ := hrequest
  have sa := h.signed.authority
  have sf := h.signed.fence
  have sd := h.signed.drain
  have sm := h.signed.maker
  have sc := h.signed.checker
  rw [hauthority] at sa
  rw [hfenceKey] at sf
  rw [hdrainKey] at sd
  rw [hmakerKey] at sm
  rw [hcheckerKey] at sc
  simp only [PublishingRecoveryAuthorization.machineKeys, List.nodup_cons, List.mem_cons,
    List.not_mem_nil, or_false, not_or] at hmachines hmaker hcheck
  obtain ⟨⟨hfd, hfa⟩, hda, -⟩ := hmachines
  constructor
  · obtain ⟨ka, ha, -⟩ := sa
    obtain ⟨kf, hf, -⟩ := sf
    obtain ⟨kd, hd, -⟩ := sd
    obtain ⟨km, hm, -⟩ := sm
    obtain ⟨kc, hc, -⟩ := sc
    simp [RecoveryVerifiers.publicKeys, ha, hf, hd, hm, hc]
  · have af := sa.publicKey_ne sf (Ne.symm hfa)
    have ad := sa.publicKey_ne sd (Ne.symm hda)
    have am := sa.publicKey_ne sm (Ne.symm hmaker.2.2)
    have ac := sa.publicKey_ne sc (Ne.symm hcheck.2.2)
    have fd := sf.publicKey_ne sd hfd
    have fm := sf.publicKey_ne sm (Ne.symm hmaker.1)
    have fc := sf.publicKey_ne sc (Ne.symm hcheck.1)
    have dm := sd.publicKey_ne sm (Ne.symm hmaker.2.1)
    have dc := sd.publicKey_ne sc (Ne.symm hcheck.2.1)
    have mc := sm.publicKey_ne sc hpeople
    simp [RecoveryVerifiers.publicKeys, af, ad, am, ac, fd, fm, fc, dm, dc, mc]

theorem Authorized.safe (h : Authorized R pins expectation now value envelope) :
    SafeAtUse R pins expectation.1 envelope.authorization now := by
  obtain ⟨hisolated, hdrained, hattested⟩ := h.isolated_le
  obtain ⟨hshown, hdistinct⟩ := h.keys_distinct
  obtain ⟨⟨-, -, -, hrequest, hfence, hdrain, hchecker, -, -, hembeds, -, hscope, -, hduties,
    htimes⟩, -⟩ := h.valid
  have hfence := hfence.1
  have hdrain := hdrain.1
  obtain ⟨hintent, hmaker, -⟩ := hrequest
  obtain ⟨-, -, -, -, -, -, -, -, -, -, hrelaunch, hissuance⟩ := htimes.2.2
  obtain ⟨-, -, -, -, -, -, hold, hnew, -⟩ := hembeds
  obtain ⟨-, -, -, -, -, -, -, -, hapart, -, -, -, -, -, -, -, hdigest, -⟩ := hintent
  obtain ⟨-, -, -, -, -, hmakerIssuer, -, hmakerActed, hmakerLive⟩ := h.maker
  obtain ⟨-, -, -, -, -, hcheckerIssuer, -, hcheckerActed, hcheckerLive⟩ := h.checker
  refine
    { leasesApart := ?_
      exposuresEnded := fun x hx => le_trans (hdrain.exposure_le hx) hdrained
      inflightEnded := le_trans hdrain.deadline_le hdrained
      scopesExpected := ?_
      scopesListed := ?_
      relaunchFenced := ⟨le_trans hfence.relaunch_le hisolated, h.relaunchLive, hrelaunch⟩
      issuanceFenced := ⟨le_trans hdrain.issuance_le hattested, h.issuanceLive, hissuance⟩
      successorLive := h.successorLive
      keysShown := hshown
      keysDistinct := hdistinct
      peopleDiffer := ⟨hduties.1, hduties.2.1, ?_⟩
      peopleHuman := ?_
      actionsFresh := ?_
      bound := h.bound }
  · rw [hold, hnew]
    exact hapart
  · rw [← hdigest, ← h.bound]
    rfl
  · intro s hs
    exact List.mem_map.mp (hscope.2.2.2.2.2.2.2.2.2 s hs)
  · rw [hmakerIssuer, hcheckerIssuer]
    exact pins.actorPolicyValid.2.2.2
  · obtain ⟨-, -, -, -, -, hmakerHuman, hcheckerHuman, -⟩ := hduties
    intro x hx
    simp only [List.mem_cons, List.not_mem_nil, or_false] at hx
    rcases hx with rfl | rfl
    · exact hmakerHuman
    · exact hcheckerHuman
  · intro x hx
    simp only [List.mem_cons, List.not_mem_nil, or_false] at hx
    rcases hx with rfl | rfl
    · exact ⟨hmakerActed, hmakerLive, hmaker.1.mfa⟩
    · exact ⟨hcheckerActed, hcheckerLive, hchecker.1.mfa⟩

end

/-- The registry is asked at most once, with the claim of the envelope the bytes are, and
only when the recovery is safe at that time. -/
theorem consume_once_safe (R : Recovery) (pins : RecoveryPins)
    (expectation : JournalExpectation) (now : Time)
    (registry : PublishingRecoveryUseClaim → ConsumeAnswer) (value : Bytes) :
    (verifyPublishingRecoveryAuthorization R pins expectation now registry value).1.length ≤ 1
    ∧ ∀ claim ∈ (verifyPublishingRecoveryAuthorization R pins expectation now registry value).1,
      ∃ envelope, R.parse value = some envelope ∧ claim = envelope.useClaim R now
        ∧ claim.consumedAt = now ∧ AllSigned R pins.verifiers envelope
        ∧ SafeAtUse R pins expectation.1 envelope.authorization now := by
  unfold verifyPublishingRecoveryAuthorization
  cases huse : authorizeUse R pins expectation now value with
  | error e => simp
  | ok use =>
    obtain ⟨envelope, claim⟩ := use
    obtain ⟨hauthorized, rfl⟩ := authorizeUse_ok huse
    refine ⟨by simp, ?_⟩
    intro claim hclaim
    obtain rfl := List.mem_singleton.mp hclaim
    exact ⟨envelope, hauthorized.parsed, rfl, rfl, hauthorized.signed, hauthorized.safe⟩

end

end ControlAssurance.Execution
