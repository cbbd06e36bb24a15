import ControlAssurance.Execution.RecoveryAuthorization
import ControlAssurance.Execution.Schema

/-!
# An authorization for every abandoned publication

The documents of a recovery, made for a stored run and its abandoned attempt: a request and its
maker's action, a compute fence, a drain with one record, a checker's action. Their validators
ask for a hundred relations between them. Here they are met for every run and attempt, so the
routine that consumes an authorization has one to accept (`offeredEnvelope_valid`).
-/

namespace ControlAssurance.Execution

open Admission (safeIdentifier)

/-- The attempt that published at some second, with a lease around it. -/
def abandonedAt (leaseFence attemptCount : Nat) (workerId : String) (token : Digest)
    (publishingAt : Time) : AbandonedPublishingAttempt :=
  ⟨leaseFence, attemptCount, workerId, 31, token, publishingAt - 10, publishingAt + 10, publishingAt⟩

/-- A worker with another name. -/
def otherWorker (workerId : String) : String :=
  if workerId = "worker-b" then "worker-c" else "worker-b"

/-- Another lease token. -/
def otherToken (token : Digest) : Digest := if token = 42 then 43 else 42

def offeredSignature : Admission.DetachedSignature := ⟨"key-1", 0⟩

section

variable (R : Recovery) (request : StableRequest) (planDigest identityDigest : Digest)
variable (a : AbandonedPublishingAttempt)

/-- The successor, whose lease begins after the abandoned one. -/
def offeredSuccessor : SuccessorLeaseClaim :=
  ⟨a.leaseFence + 1, a.attemptCount + 1, otherWorker a.workerId, 32, otherToken a.leaseTokenDigest,
    a.leaseExpiresAt + 10, a.leaseExpiresAt + 290⟩

def offeredAction (role : ActorRole) (action : ActorAction) (issuerId subjectId : String)
    (session actionDigest key : Digest) (actedAt expiresAt : Time) : SignedRecoveryActorAction :=
  let actorAction : RecoveryActorAction :=
    { issuerId := issuerId
      audience := "audience"
      tenantId := request.tenantId
      runId := request.runId
      subjectId := subjectId
      sessionDigest := session
      role := role
      action := action
      actionDigest := actionDigest
      authenticatedAt := actedAt
      mfaVerifiedAt := actedAt
      actedAt := actedAt
      expiresAt := expiresAt
      actionNonce := 0
      idpKeyFingerprint := key }
  ⟨R.sha (.actorAction actorAction), key, actorAction, offeredSignature⟩

/-- The one scope the attempt had credentials for. -/
def offeredScope : PAMRecoveryScope := ⟨.source, "connector-a", 51⟩

def offeredScopeDigest : Digest := R.sha (.pamScope [offeredScope])

def offeredBindingDigest : Digest :=
  R.sha (.executionBinding request.tenantId request.runId planDigest identityDigest a.leaseFence
    (offeredScopeDigest R))

def offeredIntent : PublishingRecoveryRequestIntent :=
  { tenantId := request.tenantId
    runId := request.runId
    controlId := request.controlId
    configurationDigest := request.configurationDigest
    executionPlanDigest := planDigest
    executionIdentityDigest := identityDigest
    abandonedAttempt := a
    successorClaim := offeredSuccessor a
    pamScopes := [offeredScope]
    pamScopeDigest := offeredScopeDigest R
    pamExecutionBindingDigest := offeredBindingDigest R request planDigest identityDigest a
    reason := .nodeLoss
    incidentReferenceDigest := 52
    requestedAt := a.leaseExpiresAt + 20
    requestExpiresAt := a.leaseExpiresAt + 890
    requestNonce := 0 }

def offeredRequest : PublishingRecoveryRequest :=
  let intent := offeredIntent R request planDigest identityDigest a
  { intentDigest := R.sha (.requestIntent intent)
    intent := intent
    signedMakerAction := offeredAction R request .maker .request "idp-maker" "Alice" 61
      (R.sha (.requestIntent intent)) 71 intent.requestedAt intent.requestExpiresAt }

def offeredFence : ComputeFenceAttestation :=
  { recoveryRequestDigest := R.sha (.request (offeredRequest R request planDigest identityDigest a))
    tenantId := request.tenantId
    runId := request.runId
    abandonedAttemptDigest := R.sha (.abandonedAttempt a)
    workload := ⟨"cluster", "namespace", "account", "pod", "node", 81, a.workerId,
      a.workerCredentialDigest⟩
    method := .nodePowerFenced
    authorityClassesFenced := [.custody, .signing, .source]
    oldProcessAbsent := true
    oldWorkloadEgressDenied := false
    nodeReachableAtObservation := false
    kubernetesDeleteOperationDigest := none
    nodePowerFenceOperationDigest := some 82
    egressPolicyDigest := none
    proofMediaType := "application/json"
    proofDigest := 83
    relaunchFenceOperationDigest := 84
    relaunchFenceEffectiveAt := a.leaseExpiresAt + 30
    relaunchFenceValidUntil := a.leaseExpiresAt + 390
    fencingControllerId := "Fencer"
    fencingControllerCredentialDigest := 91
    fencingAuthorityKeyFingerprint := 72
    fenceRequestedAt := a.leaseExpiresAt + 25
    fenceEffectiveAt := a.leaseExpiresAt + 35
    isolationObservedAt := a.leaseExpiresAt + 40
    attestedAt := a.leaseExpiresAt + 45 }

/-- The credential of the scope, revoked after the fence. -/
def offeredAnchor : PAMDrainAnchor :=
  { authorityClass := offeredScope.authorityClass
    connectorId := offeredScope.connectorId
    connectorRequestDigest := offeredScope.connectorRequestDigest
    scopeDigest := offeredScopeDigest R
    executionBindingDigest := offeredBindingDigest R request planDigest identityDigest a
    lifecycleRecordId := "record-1"
    lifecycleRecordDigest := 87
    lifecycleSequence := 5
    lifecycleRevision := 0
    credentialReferenceDigest := some 88
    state := .revoked
    expiryBasis := .confirmedRevocation
    createdAt := a.leasedAt
    issuedAt := some a.leasedAt
    expiresAt := none
    revocationConfirmedAt := some (a.leaseExpiresAt + 40)
    maximumResidualExposureEndsAt := a.leaseExpiresAt + 45
    settledAt := a.leaseExpiresAt + 50 }

def offeredDrain : CredentialDrainAttestation :=
  let anchors := [offeredAnchor R request planDigest identityDigest a]
  let binding := offeredBindingDigest R request planDigest identityDigest a
  { recoveryRequestDigest := R.sha (.request (offeredRequest R request planDigest identityDigest a))
    computeFenceAttestationDigest :=
      R.sha (.computeFence (offeredFence R request planDigest identityDigest a))
    tenantId := request.tenantId
    runId := request.runId
    abandonedAttemptDigest := R.sha (.abandonedAttempt a)
    scopeDigest := offeredScopeDigest R
    executionBindingDigest := binding
    anchors := anchors
    lifecycleSnapshotDigest := R.sha (.lifecycleSnapshot (offeredScopeDigest R) binding 7 anchors)
    lifecycleRecordCount := 1
    snapshotHighWatermark := 7
    maximumResidualExposureEndsAt := a.leaseExpiresAt + 45
    fenceEffectiveAt := a.leaseExpiresAt + 35
    maximumInflightSeconds := 10
    clockSkewSeconds := 5
    postFenceInflightDeadline := a.leaseExpiresAt + 50
    drainNotBefore := a.leaseExpiresAt + 50
    checkedAt := a.leaseExpiresAt + 55
    attestedAt := a.leaseExpiresAt + 60
    issuanceFenceOperationDigest := 85
    issuanceFenceEffectiveAt := a.leaseExpiresAt + 40
    issuanceFenceValidUntil := a.leaseExpiresAt + 390
    issuanceFenceHighWatermark := 7
    drainControllerId := "Drainer"
    drainControllerCredentialDigest := 92
    drainAuthorityKeyFingerprint := 73
    pamQueryEvidenceMediaType := "application/json"
    pamQueryEvidenceDigest := 86 }

def offeredSignedFence : SignedComputeFenceAttestation :=
  ⟨R.sha (.computeFence (offeredFence R request planDigest identityDigest a)), 72,
    offeredFence R request planDigest identityDigest a, offeredSignature⟩

def offeredSignedDrain : SignedCredentialDrainAttestation :=
  ⟨R.sha (.credentialDrain (offeredDrain R request planDigest identityDigest a)), 73,
    offeredDrain R request planDigest identityDigest a, offeredSignature⟩

/-- What the checker approves. -/
def offeredApproval : PublishingRecoveryApprovalIntent :=
  { tenantId := request.tenantId
    runId := request.runId
    recoveryRequestDigest := R.sha (.request (offeredRequest R request planDigest identityDigest a))
    signedComputeFenceAttestationDigest :=
      R.sha (.signedComputeFence (offeredSignedFence R request planDigest identityDigest a))
    signedCredentialDrainAttestationDigest :=
      R.sha (.signedCredentialDrain (offeredSignedDrain R request planDigest identityDigest a))
    abandonedAttemptDigest := R.sha (.abandonedAttempt a)
    successorClaimDigest := R.sha (.successorClaim (offeredSuccessor a))
    changeApprovalDigest := 53
    approvedAt := a.leaseExpiresAt + 65
    notBefore := a.leaseExpiresAt + 50
    issuedAt := a.leaseExpiresAt + 70
    expiresAt := a.leaseExpiresAt + 190
    authorizationNonce := 0
    recoveryAuthorityId := "Authority"
    recoveryAuthorityKeyFingerprint := 75 }

def offeredCheckerAction : SignedRecoveryActorAction :=
  offeredAction R request .checker .approve "idp-checker" "Bob" 62
    (R.sha (.approvalIntent (offeredApproval R request planDigest identityDigest a))) 74
    (a.leaseExpiresAt + 65) (a.leaseExpiresAt + 790)

def offeredAuthorization : PublishingRecoveryAuthorization :=
  { tenantId := request.tenantId
    runId := request.runId
    controlId := request.controlId
    configurationDigest := request.configurationDigest
    executionPlanDigest := planDigest
    executionIdentityDigest := identityDigest
    recoveryRequestDigest := R.sha (.request (offeredRequest R request planDigest identityDigest a))
    recoveryRequest := offeredRequest R request planDigest identityDigest a
    computeFenceAttestationDigest :=
      R.sha (.computeFence (offeredFence R request planDigest identityDigest a))
    signedComputeFenceAttestationDigest :=
      R.sha (.signedComputeFence (offeredSignedFence R request planDigest identityDigest a))
    signedComputeFenceAttestation := offeredSignedFence R request planDigest identityDigest a
    credentialDrainAttestationDigest :=
      R.sha (.credentialDrain (offeredDrain R request planDigest identityDigest a))
    signedCredentialDrainAttestationDigest :=
      R.sha (.signedCredentialDrain (offeredSignedDrain R request planDigest identityDigest a))
    signedCredentialDrainAttestation := offeredSignedDrain R request planDigest identityDigest a
    abandonedAttempt := a
    successorClaim := offeredSuccessor a
    signedCheckerActionDigest :=
      R.sha (.signedActorAction (offeredCheckerAction R request planDigest identityDigest a))
    signedCheckerAction := offeredCheckerAction R request planDigest identityDigest a
    changeApprovalDigest := 53
    approvedAt := a.leaseExpiresAt + 65
    notBefore := a.leaseExpiresAt + 50
    issuedAt := a.leaseExpiresAt + 70
    expiresAt := a.leaseExpiresAt + 190
    authorizationNonce := 0
    recoveryAuthorityId := "Authority"
    recoveryAuthorityKeyFingerprint := 75 }

def offeredEnvelope : SignedPublishingRecoveryAuthorization :=
  ⟨R.sha (.authorization (offeredAuthorization R request planDigest identityDigest a)), 75,
    offeredAuthorization R request planDigest identityDigest a, offeredSignature⟩

end

/-! ## The documents are valid -/

theorem lifetime_eq (e m n : Int) : e + m - (e + n) = m - n := by omega

theorem otherWorker_portable (workerId : String) : portableId (otherWorker workerId) = true := by
  unfold otherWorker
  split <;> decide

theorem otherWorker_ne (workerId : String) : otherWorker workerId ≠ workerId := by
  unfold otherWorker
  split
  next h =>
    rw [h]
    decide
  next h => exact fun hsame => h hsame.symm

theorem otherToken_ne (token : Digest) : otherToken token ≠ token := by
  unfold otherToken
  split
  next h =>
    rw [h]
    decide
  next h => exact fun hsame => h hsame.symm

/-- Names that begin with a capital are no portable ids. -/
theorem ne_of_portable {name workerId : String} (hname : portableId name = false)
    (h : portableId workerId = true) : workerId ≠ name := by
  rintro rfl
  rw [hname] at h
  cases h

section

variable {R : Recovery} {request : StableRequest} {planDigest identityDigest : Digest}
variable {a : AbandonedPublishingAttempt}

theorem connector_portable : portableId offeredScope.connectorId = true := by decide

/-- The names that every authorization has. -/
theorem offered_safe : ∀ name ∈ ["audience", "key-1", "record-1", "cluster", "account", "pod",
    "node", "Fencer", "Drainer", "Authority"], safeIdentifier name = true := by
  decide

theorem offered_mediaType : jsonMediaType "application/json" = true := by
  decide +kernel

theorem key_safe : safeIdentifier offeredSignature.keyId = true := offered_safe _ (by decide)

theorem offeredAction_valid {role : ActorRole} {action : ActorAction} {issuerId subjectId : String}
    {session actionDigest key : Digest} {actedAt expiresAt : Time}
    (hissuer : safeIdentifier issuerId = true) (hsubject : safeIdentifier subjectId = true)
    (hduty : (role = .maker ∧ action = .request) ∨ (role = .checker ∧ action = .approve))
    (hlater : actedAt < expiresAt) (hlifetime : expiresAt - actedAt ≤ maxActorActionLifetime) :
    (offeredAction R request role action issuerId subjectId session actionDigest key actedAt
      expiresAt).valid R := by
  have hmfa : actedAt - actedAt ≤ maxActorAuthenticationAge := by
    rw [Int.sub_self]
    decide
  exact ⟨⟨hissuer, offered_safe "audience" (by decide), request.portable.1, hsubject, hduty,
    ⟨Int.le_refl _, Int.le_refl _, hlater⟩, hmfa, hlifetime⟩, key_safe, rfl, rfl⟩

theorem offeredSuccessor_valid (ha : a.valid) (hcount : a.attemptCount < maxAttemptCount) :
    (offeredSuccessor a).valid := by
  obtain ⟨hfence, hfence', hcount', -⟩ := ha
  have hfence'' : a.leaseFence + 1 ≤ 2 ^ 63 - 1 := by omega
  refine ⟨Nat.succ_le_succ hfence, hfence'', Nat.succ_le_succ hcount', hcount,
    otherWorker_portable _, ?_⟩
  exact Int.add_lt_add_left (by decide) _

theorem offeredIntent_valid (ha : a.valid) (hcount : a.attemptCount < maxAttemptCount)
    (hcredential : a.workerCredentialDigest = 31) :
    (offeredIntent R request planDigest identityDigest a).valid R := by
  refine ⟨request.portable.1, request.portable.2, ha, offeredSuccessor_valid ha hcount,
    ⟨Nat.le_refl 1, by show 1 ≤ 32; decide⟩, ?_, rfl, rfl, ?_, ?_, otherWorker_ne _, ?_, otherToken_ne _, ?_, ?_,
    List.pairwise_singleton .., rfl, rfl⟩
  · intro s hs
    rw [List.mem_singleton.mp hs]
    exact connector_portable
  · exact Int.le_add_of_nonneg_right (by decide)
  · exact Int.add_le_add_left (by decide) _
  · show (32 : Digest) ≠ a.workerCredentialDigest
    rw [hcredential]
    decide
  · exact Int.add_lt_add_left (by decide) _
  · show a.leaseExpiresAt + 890 - (a.leaseExpiresAt + 20) ≤ 86400
    rw [lifetime_eq]
    decide

theorem offeredRequest_valid (ha : a.valid) (hcount : a.attemptCount < maxAttemptCount)
    (hcredential : a.workerCredentialDigest = 31) :
    (offeredRequest R request planDigest identityDigest a).valid R := by
  refine ⟨offeredIntent_valid ha hcount hcredential,
    offeredAction_valid (by decide) (by decide) (Or.inl ⟨rfl, rfl⟩) ?_ ?_, rfl, rfl, rfl, rfl, rfl,
    rfl, rfl, rfl⟩
  · exact Int.add_lt_add_left (by decide) _
  · show a.leaseExpiresAt + 890 - (a.leaseExpiresAt + 20) ≤ 86400
    rw [lifetime_eq]
    decide

theorem offeredFence_valid (ha : a.valid) :
    (offeredSignedFence R request planDigest identityDigest a).valid R := by
  have hnamespace : portableId "namespace" = true := by decide
  have hworkload : (offeredFence R request planDigest identityDigest a).workload.valid :=
    ⟨offered_safe "cluster" (by decide), hnamespace, offered_safe "account" (by decide),
      offered_safe "pod" (by decide), offered_safe "node" (by decide), ha.2.2.2.2.1⟩
  refine ⟨⟨request.portable.1, offered_mediaType, offered_safe "Fencer" (by decide), hworkload, rfl,
    ⟨?_, ?_, ?_, ?_, ?_⟩, rfl, Option.some_ne_none _, rfl, rfl, rfl⟩, key_safe, rfl, rfl⟩
  · exact Int.add_le_add_left (by decide) _
  · exact Int.add_le_add_left (by decide) _
  · exact Int.add_le_add_left (by decide) _
  · exact Int.add_le_add_left (by decide) _
  · exact Int.add_lt_add_left (by decide) _

theorem offeredAnchor_valid (ha : a.valid) :
    (offeredAnchor R request planDigest identityDigest a).valid := by
  have hlease : a.leasedAt ≤ a.leaseExpiresAt := ha.2.2.2.2.2.2.1.le
  have hlater : ∀ n : Int, 0 ≤ n → a.leasedAt ≤ a.leaseExpiresAt + n := fun n hn =>
    Int.le_trans hlease (Int.le_add_of_nonneg_right hn)
  have hexposed : a.leaseExpiresAt + 45 ≤ a.leaseExpiresAt + 50 :=
    Int.add_le_add_left (by decide) _
  have hrevoked : a.leaseExpiresAt + 40 ≤ a.leaseExpiresAt + 45 :=
    Int.add_le_add_left (by decide) _
  refine ⟨connector_portable, offered_safe "record-1" (by decide), by show 1 ≤ 5; decide, by show 5 ≤ 2 ^ 53 - 1; decide,
    Nat.zero_le _, ?_, hlater 45 (by decide), hexposed, ?_⟩
  · intro t ht
    have htimes : t = a.leasedAt ∨ t = a.leaseExpiresAt + 40 := by
      simpa [PAMDrainAnchor.optionalTimes, offeredAnchor] using ht
    rcases htimes with rfl | rfl
    · exact ⟨Int.le_refl _, hlater 50 (by decide)⟩
    · exact ⟨hlater 40 (by decide), hrevoked.trans hexposed⟩
  · simp [PAMDrainAnchor.stateProved, offeredAnchor, sqlLe, hlater 40 (by decide), hrevoked]

theorem offeredDrain_valid (ha : a.valid) :
    (offeredSignedDrain R request planDigest identityDigest a).valid R := by
  refine ⟨⟨request.portable.1, offered_safe "Drainer" (by decide), offered_mediaType,
    by show 1 ≤ 128; decide, ?_,
    by show 10 ≤ 3600; decide, by show 5 ≤ 300; decide, by show 1 ≤ 7 ∧ 7 ≤ 2 ^ 53 - 1; decide,
    List.pairwise_singleton .., List.nodup_singleton _, List.nodup_singleton _,
    List.nodup_singleton _, rfl, rfl, ?_, rfl, ?_, ?_, rfl, ?_, ?_, ?_, ?_⟩, key_safe, rfl, rfl⟩
  · intro anchor hanchor
    rw [List.mem_singleton.mp hanchor]
    exact offeredAnchor_valid ha
  · intro anchor hanchor
    rw [List.mem_singleton.mp hanchor]
    refine ⟨rfl, rfl, by show 5 ≤ 7; decide, ?_⟩
    exact Int.add_le_add_left (by decide) _
  · exact Int.add_le_add_left (by decide) _
  · exact Int.add_lt_add_left (by decide) _
  · exact (Int.add_assoc a.leaseExpiresAt 35 15).symm
  · exact (Int.max_eq_right (Int.add_le_add_left (by decide) a.leaseExpiresAt)).symm
  · exact Int.add_le_add_left (by decide) _
  · exact Int.add_le_add_left (by decide) _

theorem offered_dutiesSeparated (hworker : portableId a.workerId = true)
    (hcredential : a.workerCredentialDigest = 31) :
    (offeredAuthorization R request planDigest identityDigest a).dutiesSeparated := by
  have hother := otherWorker_portable a.workerId
  have hapart : ∀ name, portableId name = false → a.workerId ≠ name ∧ otherWorker a.workerId ≠ name :=
    fun name hname => ⟨ne_of_portable hname hworker, ne_of_portable hname hother⟩
  obtain ⟨hfencer, hfencer'⟩ := hapart "Fencer" (by decide)
  obtain ⟨hdrainer, hdrainer'⟩ := hapart "Drainer" (by decide)
  obtain ⟨hauthority, hauthority'⟩ := hapart "Authority" (by decide)
  obtain ⟨halice, halice'⟩ := hapart "Alice" (by decide)
  obtain ⟨hbob, hbob'⟩ := hapart "Bob" (by decide)
  have hidentities : (offeredAuthorization R request planDigest identityDigest a).nonHumanIdentities
      = [a.workerId, otherWorker a.workerId, "Fencer", "Drainer", "Authority"] := rfl
  refine ⟨by show "Alice" ≠ "Bob"; decide, by show (61 : Digest) ≠ 62; decide,
    by show (71 : Digest) ≠ 74; decide, ?_, by show [(72 : Digest), 73, 75].Nodup; decide, ?_, ?_,
    by show (71 : Digest) ∉ [(72 : Digest), 73, 75]; decide,
    by show (74 : Digest) ∉ [(72 : Digest), 73, 75]; decide, ?_, ?_⟩
  · rw [hidentities]
    simp [(otherWorker_ne a.workerId).symm, hfencer, hfencer', hdrainer, hdrainer', hauthority,
      hauthority']
  · show "Alice" ∉ [a.workerId, otherWorker a.workerId, "Fencer", "Drainer", "Authority"]
    simp [halice.symm, halice'.symm]
  · show "Bob" ∉ [a.workerId, otherWorker a.workerId, "Fencer", "Drainer", "Authority"]
    simp [hbob.symm, hbob'.symm]
  · show (91 : Digest) ∉ [a.workerCredentialDigest, 32, 92]
    rw [hcredential]
    decide
  · show (92 : Digest) ∉ [a.workerCredentialDigest, 32]
    rw [hcredential]
    decide

theorem offered_timelineValid :
    (offeredAuthorization R request planDigest identityDigest a).timelineValid := by
  have hrequired : (offeredAuthorization R request planDigest identityDigest a).requiredNotBefore
      = a.leaseExpiresAt + 50 := by
    have hmax : ∀ e : Int, max e (max (e + 40) (e + 50)) = e + 50 := by
      intro e
      omega
    exact hmax a.leaseExpiresAt
  unfold PublishingRecoveryAuthorization.timelineValid
  rw [hrequired]
  have hline : ∀ e : Int, e + 20 ≤ e + 25 ∧ e + 45 ≤ e + 60 ∧ e + 60 ≤ e + 65 ∧ e + 50 ≤ e + 65
      ∧ e + 50 = e + 50 ∧ e + 65 ≤ e + 70 ∧ e + 70 < e + 190 ∧ e + 190 - (e + 70) ≤ 900
      ∧ e + 70 < e + 890 ∧ e + 190 ≤ e + 890 ∧ e + 50 < e + 290 ∧ e + 190 ≤ e + 290
      ∧ e + 290 ≤ e + 390 ∧ e + 290 ≤ e + 390 := by
    intro e
    omega
  exact hline a.leaseExpiresAt

/-- **Every abandoned attempt has an authorization**: the envelope passes its validators. -/
theorem offeredEnvelope_valid (ha : a.valid) (hcount : a.attemptCount < maxAttemptCount)
    (hcredential : a.workerCredentialDigest = 31) :
    (offeredEnvelope R request planDigest identityDigest a).valid R := by
  have hchecker : (offeredCheckerAction R request planDigest identityDigest a).valid R := by
    refine offeredAction_valid (by decide) (by decide) (Or.inr ⟨rfl, rfl⟩) ?_ ?_
    · exact Int.add_lt_add_left (by decide) _
    · show a.leaseExpiresAt + 790 - (a.leaseExpiresAt + 65) ≤ 86400
      rw [lifetime_eq]
      decide
  refine ⟨⟨request.portable.1, request.portable.2, offered_safe "Authority" (by decide),
    offeredRequest_valid ha hcount hcredential, offeredFence_valid ha, offeredDrain_valid ha, hchecker,
    ha, offeredSuccessor_valid ha hcount,
    ⟨⟨rfl, rfl, rfl, rfl, rfl, rfl⟩, rfl, rfl, rfl, rfl, rfl, rfl, rfl, rfl⟩,
    ⟨rfl, rfl, rfl, rfl, rfl, rfl⟩, ⟨rfl, rfl, rfl, rfl, rfl, rfl, rfl, rfl, ?_, ?_⟩,
    ⟨rfl, rfl, rfl, rfl, rfl, rfl, rfl, rfl, ?_⟩,
    offered_dutiesSeparated ha.2.2.2.2.1 hcredential, offered_timelineValid⟩, key_safe, rfl, rfl⟩
  · intro anchor hanchor
    rw [List.mem_singleton.mp hanchor]
    exact List.mem_singleton.mpr rfl
  · intro s hs
    rw [List.mem_singleton.mp hs]
    exact List.mem_singleton.mpr rfl
  · exact Int.add_le_add_left (by decide) _

end

end ControlAssurance.Execution
