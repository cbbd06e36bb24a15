import ControlAssurance.Execution.Journal

/-!
# Adopting an identity-bound publication

`consume_publishing_recovery_authorization`, statement by statement, and
`recover_identity_bound_publication`, which verifies the signed authorization and calls it
in the same transaction. The thirteen documents the routine takes are the nested parts of
one envelope and its use claim, so what it compares between two copies of one document
holds of every call; `bindingHolds` has the comparisons between different documents and
with the clock.
-/

namespace ControlAssurance.Execution

open Lib
open Admission (Bytes)

/-- The claim may be this many seconds old when the routine runs. -/
def useClaimWindow : Time := 5

section

variable (C : Codec)

/-- The row's primary key, which the routine computes from the authorization. -/
def RecoveryRow.authorizationId (r : RecoveryRow) : Digest :=
  C.recovery.sha (.authorization r.authorization)

/-- The digests of the nested documents. -/
def RecoveryRow.digestsBind (r : RecoveryRow) : Prop :=
  r.envelope.authorizationId = r.authorizationId C
    ∧ r.authorization.recoveryRequestDigest
      = C.recovery.sha (.request r.authorization.recoveryRequest)
    ∧ r.authorization.recoveryRequest.intentDigest
      = C.recovery.sha (.requestIntent r.authorization.recoveryRequest.intent)
    ∧ r.authorization.recoveryRequest.signedMakerAction.actorActionDigest
      = C.recovery.sha (.actorAction r.authorization.maker)
    ∧ r.authorization.signedCheckerActionDigest
      = C.recovery.sha (.signedActorAction r.authorization.signedCheckerAction)
    ∧ r.authorization.signedCheckerAction.actorActionDigest
      = C.recovery.sha (.actorAction r.authorization.checker)
    ∧ r.authorization.maker.actionDigest
      = C.recovery.sha (.requestIntent r.authorization.recoveryRequest.intent)
    ∧ r.authorization.signedComputeFenceAttestationDigest
      = C.recovery.sha (.signedComputeFence r.authorization.signedComputeFenceAttestation)
    ∧ r.authorization.computeFenceAttestationDigest
      = C.recovery.sha (.computeFence r.authorization.fence)
    ∧ r.authorization.signedCredentialDrainAttestationDigest
      = C.recovery.sha (.signedCredentialDrain r.authorization.signedCredentialDrainAttestation)
    ∧ r.authorization.credentialDrainAttestationDigest
      = C.recovery.sha (.credentialDrain r.authorization.drain)
    ∧ r.authorization.fence.recoveryRequestDigest
      = C.recovery.sha (.request r.authorization.recoveryRequest)
    ∧ r.authorization.drain.recoveryRequestDigest
      = C.recovery.sha (.request r.authorization.recoveryRequest)
    ∧ r.authorization.drain.computeFenceAttestationDigest
      = C.recovery.sha (.computeFence r.authorization.fence)

instance (r : RecoveryRow) : Decidable (r.digestsBind C) := by
  delta RecoveryRow.digestsBind; infer_instance

/-- The roles and the names the nested documents share. -/
def RecoveryRow.namesBind (r : RecoveryRow) : Prop :=
  r.authorization.abandonedAttempt = r.authorization.recoveryRequest.intent.abandonedAttempt
    ∧ r.authorization.successorClaim = r.authorization.recoveryRequest.intent.successorClaim
    ∧ r.authorization.maker.role = .maker ∧ r.authorization.maker.action = .request
    ∧ r.authorization.maker.tenantId = r.authorization.tenantId
    ∧ r.authorization.maker.runId = r.authorization.runId
    ∧ r.authorization.checker.role = .checker ∧ r.authorization.checker.action = .approve
    ∧ r.authorization.checker.tenantId = r.authorization.tenantId
    ∧ r.authorization.checker.runId = r.authorization.runId
    ∧ r.authorization.maker.subjectId ≠ r.authorization.checker.subjectId
    ∧ r.authorization.maker.sessionDigest ≠ r.authorization.checker.sessionDigest
    ∧ r.authorization.recoveryRequest.intent.tenantId = r.authorization.tenantId
    ∧ r.authorization.recoveryRequest.intent.runId = r.authorization.runId
    ∧ r.authorization.recoveryRequest.intent.controlId = r.authorization.controlId
    ∧ r.authorization.recoveryRequest.intent.configurationDigest
      = r.authorization.configurationDigest
    ∧ r.authorization.recoveryRequest.intent.executionPlanDigest
      = r.authorization.executionPlanDigest
    ∧ r.authorization.recoveryRequest.intent.executionIdentityDigest
      = r.authorization.executionIdentityDigest
    ∧ r.authorization.drain.scopeDigest = r.authorization.recoveryRequest.intent.pamScopeDigest
    ∧ r.authorization.drain.executionBindingDigest
      = r.authorization.recoveryRequest.intent.pamExecutionBindingDigest

instance (r : RecoveryRow) : Decidable r.namesBind := by
  delta RecoveryRow.namesBind; infer_instance

/-- The use claim against the documents. -/
def RecoveryRow.claimBinds (r : RecoveryRow) : Prop :=
  r.useClaim.authorizationId = r.authorizationId C
    ∧ r.useClaim.tenantId = r.authorization.tenantId ∧ r.useClaim.runId = r.authorization.runId
    ∧ r.useClaim.recoveryRequestDigest
      = C.recovery.sha (.request r.authorization.recoveryRequest)
    ∧ r.useClaim.abandonedAttemptDigest = r.authorization.fence.abandonedAttemptDigest
    ∧ r.useClaim.pamScopeDigest = r.authorization.recoveryRequest.intent.pamScopeDigest
    ∧ r.useClaim.pamSnapshotHighWatermark = r.authorization.drain.snapshotHighWatermark
    ∧ r.useClaim.pamLifecycleRecordCount = r.authorization.drain.lifecycleRecordCount
    ∧ r.useClaim.relaunchFenceOperationDigest
      = r.authorization.fence.relaunchFenceOperationDigest
    ∧ r.useClaim.issuanceFenceOperationDigest
      = r.authorization.drain.issuanceFenceOperationDigest
    ∧ r.useClaim.executionPlanDigest = r.authorization.executionPlanDigest
    ∧ r.useClaim.executionIdentityDigest = r.authorization.executionIdentityDigest
    ∧ r.useClaim.authorizationExpiresAt = r.authorization.expiresAt

instance (r : RecoveryRow) : Decidable (r.claimBinds C) := by
  delta RecoveryRow.claimBinds; infer_instance

/-- The claim's time against the documents and the database clock. -/
def RecoveryRow.timesBind (r : RecoveryRow) (databaseSecond : Time) : Prop :=
  r.consumedAt ≤ databaseSecond ∧ databaseSecond - useClaimWindow ≤ r.consumedAt
    ∧ r.authorization.notBefore ≤ r.consumedAt ∧ r.authorization.issuedAt ≤ r.consumedAt
    ∧ r.consumedAt < r.authorization.expiresAt ∧ r.consumedAt < r.successor.leaseExpiresAt
    ∧ databaseSecond < r.authorization.expiresAt
    ∧ databaseSecond < r.successor.leaseExpiresAt
    ∧ r.successor.leaseFence = r.abandoned.leaseFence + 1
    ∧ r.successor.attemptCount = r.abandoned.attemptCount + 1

instance (r : RecoveryRow) (databaseSecond : Time) : Decidable (r.timesBind databaseSecond) := by
  delta RecoveryRow.timesBind; infer_instance

def RecoveryRow.bindingHolds (r : RecoveryRow) (databaseSecond : Time) : Prop :=
  r.digestsBind C ∧ r.namesBind ∧ r.claimBinds C ∧ r.timesBind databaseSecond

instance (r : RecoveryRow) (databaseSecond : Time) :
    Decidable (r.bindingHolds C databaseSecond) := by
  delta RecoveryRow.bindingHolds; infer_instance

/-! ## The routine's statements -/

/-- `INSERT … ON CONFLICT (authorization_id) DO NOTHING`: nothing when the authorization was
used before. -/
def RunJournal.insertRecovery (x : RunJournal) (r : RecoveryRow) :
    Except SqlError (Option RunJournal) :=
  if r.authorizationId C ∈ x.recoveries.map (·.authorizationId C) then
    pure none
  else do
    require (r.checks C) "publishing_recovery check"
    pure (some { x with recoveries := x.recoveries ++ [r] })

/-- What the routine asks of the execution row once it holds its lock. -/
def RunJournal.namedBy (x : RunJournal) (r : RecoveryRow) : Prop :=
  x.request.controlId = r.authorization.controlId
    ∧ x.request.configurationDigest = r.authorization.configurationDigest
    ∧ x.planDigest = r.authorization.executionPlanDigest
    ∧ x.identity.map (·.digest) = some r.authorization.executionIdentityDigest
    ∧ x.highestLeaseFence = r.abandoned.leaseFence
    ∧ x.highestAttemptCount = r.abandoned.attemptCount
    ∧ x.completion = none

instance (x : RunJournal) (r : RecoveryRow) : Decidable (x.namedBy r) := by
  delta RunJournal.namedBy; infer_instance

/-- What it asks of the abandoned attempt. -/
def Attempt.abandonedIn (a : Attempt) (r : RecoveryRow) : Prop :=
  a.attemptCount = r.abandoned.attemptCount ∧ a.workerId = r.abandoned.workerId
    ∧ a.leaseTokenDigest = r.abandoned.leaseTokenDigest ∧ a.state = .publishing
    ∧ a.revision = 1 ∧ a.publishingAt = some r.abandoned.publishingAt ∧ a.finishedAt = none

instance (a : Attempt) (r : RecoveryRow) : Decidable (a.abandonedIn r) := by
  delta Attempt.abandonedIn; infer_instance

/-- `SELECT … FROM executions … FOR UPDATE`. -/
def RunJournal.recheckExecution (x : RunJournal) (r : RecoveryRow) : Except SqlError Unit :=
  require (x.namedBy r) "publishing recovery logical execution changed"

/-- `SELECT … FROM execution_attempts … FOR UPDATE`. -/
def RunJournal.recheckAttempt (x : RunJournal) (r : RecoveryRow) : Except SqlError Unit :=
  require (∃ a ∈ x.attempts.find? fun a : Attempt => decide (a.leaseFence = r.abandoned.leaseFence),
      a.abandonedIn r)
    "publishing recovery abandoned attempt changed"

/-- The abandoned attempt becomes `uncertain`. -/
def RunJournal.retireAbandoned (x : RunJournal) (r : RecoveryRow) (statementTime : Time) :
    Except SqlError RunJournal := do
  let retired ← x.updateAttempt C r.abandoned.leaseFence
    (fun a => decide (a.attemptCount = r.abandoned.attemptCount
      ∧ a.workerId = r.abandoned.workerId ∧ a.leaseTokenDigest = r.abandoned.leaseTokenDigest
      ∧ a.state = .publishing ∧ a.revision = 1
      ∧ a.publishingAt = some r.abandoned.publishingAt))
    (fun a => { a with
      state := .uncertain
      revision := a.revision + 1
      finishedAt := some r.consumedAt
      errorCode := some "recovery-superseded" }) statementTime
  expect retired "publishing recovery old attempt CAS failed"

/-- The execution advances to the successor's fence. -/
def RunJournal.advanceToSuccessor (x : RunJournal) (r : RecoveryRow) :
    Except SqlError RunJournal := do
  let advanced ← x.updateRow C
    (decide (x.highestLeaseFence = r.abandoned.leaseFence
      ∧ x.highestAttemptCount = r.abandoned.attemptCount
      ∧ x.planDigest = r.authorization.executionPlanDigest
      ∧ x.identity.map (·.digest) = some r.authorization.executionIdentityDigest
      ∧ x.completion = none))
    { x.toExecutionRow with
      highestLeaseFence := r.successor.leaseFence
      highestAttemptCount := r.successor.attemptCount }
  expect advanced "publishing recovery execution CAS failed"

/-- The successor's attempt, directly in `publishing`. -/
def RecoveryRow.successorAttempt (r : RecoveryRow) : Attempt :=
  { leaseFence := r.successor.leaseFence
    attemptCount := r.successor.attemptCount
    workerId := r.successor.workerId
    leaseTokenDigest := r.successor.leaseTokenDigest
    state := .publishing
    revision := 1
    preparedAt := r.successor.leasedAt
    publishingAt := some r.consumedAt
    finishedAt := none
    errorCode := none
    outcome := none }

/-- What the routine does under the row lock: recheck, retire, advance, insert. -/
def RunJournal.adopt (x : RunJournal) (r : RecoveryRow) (clock : Clock) :
    Except SqlError RunJournal := do
  x.recheckExecution r
  x.recheckAttempt r
  let x ← x.retireAbandoned C r clock.statement
  let x ← x.advanceToSuccessor C r
  x.insertAttempt C r.successorAttempt clock.transaction

/-- `consume_publishing_recovery_authorization`; `none` is the answer `FALSE`. -/
def RunJournal.consume (x : RunJournal) (r : RecoveryRow) (clock : Clock)
    (databaseSecond : Time) : Except SqlError (Option RunJournal) := do
  require (r.bindingHolds C databaseSecond) "publishing recovery document binding mismatch"
  match ← x.insertRecovery C r with
  | none => pure none
  | some x => do
    let x ← x.adopt C r clock
    pure (some x)

/-! ## `recover_identity_bound_publication` -/

/-- `_assert_publishing_recovery_expectation`. -/
def ExecutionJournalRecord.expectedBy (r : ExecutionJournalRecord)
    (e : PublishingRecoveryJournalExpectation) : Prop :=
  r.request.stable.tenantId = e.tenantId ∧ r.request.stable.runId = e.runId
    ∧ r.request.stable.controlId = e.controlId
    ∧ r.request.stable.configurationDigest = e.configurationDigest
    ∧ r.planDigest = e.executionPlanDigest
    ∧ r.identity.map (·.digest) = some e.executionIdentityDigest
    ∧ r.request.leaseFence = e.abandonedLeaseFence
    ∧ r.request.attemptCount = e.abandonedAttemptCount ∧ r.revision = 1
    ∧ r.workerId = e.abandonedWorkerId ∧ r.leaseTokenDigest = e.abandonedLeaseTokenDigest
    ∧ r.publishingAt = some e.abandonedPublishingAt ∧ r.state = .publishing
    ∧ r.completion = none

instance (r : ExecutionJournalRecord) (e : PublishingRecoveryJournalExpectation) :
    Decidable (r.expectedBy e) := by
  delta ExecutionJournalRecord.expectedBy; infer_instance

/-- The successor the caller expects to read back. -/
def ExecutionJournalRecord.succeeds (r : ExecutionJournalRecord)
    (e : PublishingRecoveryJournalExpectation) : Prop :=
  r.request.leaseFence = e.successorLeaseFence
    ∧ r.request.attemptCount = e.successorAttemptCount ∧ r.workerId = e.successorWorkerId
    ∧ r.leaseTokenDigest = e.successorLeaseTokenDigest ∧ r.state = .publishing
    ∧ r.revision = 1 ∧ r.planDigest = e.executionPlanDigest
    ∧ r.identity.map (·.digest) = some e.executionIdentityDigest

instance (r : ExecutionJournalRecord) (e : PublishingRecoveryJournalExpectation) :
    Decidable (r.succeeds e) := by
  delta ExecutionJournalRecord.succeeds; infer_instance

/-- How an error of the verification is reported. -/
def RecoveryError.reported (e : RecoveryError) : JournalError :=
  match e with
  | .consumptionUnavailable => .outcomeUnknown "publishing recovery transaction outcome is unknown"
  | e =>
    match e.code with
    | some code => .conflict ("publishing recovery authorization was rejected: " ++ code)
    | none => .outcomeUnknown "publishing recovery transaction outcome is unknown"

/-- The clocks of a recovery: the second read before the verification, and the routine's. -/
structure RecoveryClock extends Clock where
  recoveryNow : Time
  databaseSecond : Time
deriving DecidableEq

/-- The authorization, verified at the second the database gave. -/
def authorizeRecovery (pins : RecoveryPins) (expectation : JournalExpectation) (now : Time)
    (value : Bytes) : Except JournalError RecoveryRow :=
  match authorizeUse C.recovery pins expectation now value with
  | .ok (envelope, claim) => .ok ⟨envelope, claim⟩
  | .error e => .error e.reported

/-- The answer of `consume_once`, as the verification reports it. -/
def consumed (answer : Except SqlError (Option RunJournal)) : Except JournalError RunJournal :=
  match answer with
  | .ok (some x) => .ok x
  | .ok none => .error (RecoveryError.authorizationConsumed).reported
  | .error _ => .error (RecoveryError.consumptionUnavailable).reported

/-- The end of the recovery transaction. -/
def rereadSuccessor (expectation : JournalExpectation) (x : RunJournal) :
    Except JournalError (RunJournal × ExecutionJournalRecord) := do
  let (x, record) ← reread C x "recovered execution could not be reread"
    "publishing recovery transaction was rejected"
  require (record.succeeds expectation.1)
    (JournalError.integrity "publishing recovery routine returned a substituted successor")
  pure (x, record)

/-- `recover_identity_bound_publication`. -/
def recoverIdentityBoundPublication (clock : RecoveryClock) (pins : RecoveryPins)
    (expectation : JournalExpectation) (value : Bytes) (s : Option RunJournal) :
    Except JournalError (RunJournal × ExecutionJournalRecord) := do
  let (x, current) ← readCurrent C s (.notFound "execution journal record not found")
  require (current.expectedBy expectation.1) (JournalError.conflict
    "publishing recovery expectation differs from current durable state")
  let row ← authorizeRecovery C pins expectation clock.recoveryNow value
  let x ← consumed (x.consume C row clock.toClock clock.databaseSecond)
  rereadSuccessor C expectation x

end

end ControlAssurance.Execution
