import ControlAssurance.Execution.RecoveryDocuments
import ControlAssurance.Lib.Table

/-!
# The execution journal's tables

What `execution-journal-schema.sql` keeps for one `(tenant_id, run_id)`: the row of
`executions`, its `execution_attempts` and its `publishing_recovery_authorizations`.
Every statement of the journal is restricted to one such pair, so the state of one run
is all it can see or change. `INSERT` and `UPDATE` come with the `BEFORE` triggers and
the `CHECK`s they fire; `consistent` is the deferred constraint trigger, which runs at
commit.

The columns of `executions` that a request model has already tied to the request
(`stable_request_bytes`, the digests of the embedded bytes) are the request; `created_at`
and `updated_at` are never compared. The columns of a recovery row are fields of the
documents it stores, so a row is its documents. Times are whole seconds, as
`timestamptz(0)` stores them.
-/

namespace ControlAssurance.Execution

open Lib
open Admission (Bytes)

/-! ## Requests and parameters -/

/-- The part of a request that identifies the run: what `_same_stable_request` compares. -/
structure StableRequest where
  runId : Digest
  runRequestBytes : Bytes
  tenantId : String
  controlId : String
  deploymentOperationId : Digest
  deploymentReceiptDigest : Digest
  configurationDigest : Digest
  configurationBytes : Bytes
  controlProfileId : String
  controlProfileDigest : Digest
  controlProfileMediaType : String
  controlProfileBytes : Bytes
  windowStart : Time
  windowEnd : Time
  portable : portableId tenantId = true ∧ portableId controlId = true
deriving DecidableEq

def maxLeaseFence : Nat := 2 ^ 63 - 1

def maxAttemptCount : Nat := 32

/-- The ranges of an attempt's two counters. -/
def inRange (attemptCount leaseFence : Nat) : Prop :=
  (1 ≤ attemptCount ∧ attemptCount ≤ maxAttemptCount)
    ∧ (1 ≤ leaseFence ∧ leaseFence ≤ maxLeaseFence)

instance (attemptCount leaseFence : Nat) : Decidable (inRange attemptCount leaseFence) := by
  delta inRange; infer_instance

/-- A validated request of the scheduler. -/
structure ControlRunExecutionRequest where
  stable : StableRequest
  attemptCount : Nat
  leaseFence : Nat
  ranges : inRange attemptCount leaseFence
deriving DecidableEq

/-- The fields of a verified plan that anything below reads. -/
structure ExecutionPlan where
  sourceRevision : String
  sourceKind : String
  custodyRetainUntil : Time
  artifactSetId : Digest
  custodyScopeId : Digest
  executorReceiptId : Digest
deriving DecidableEq

/-- The public composition of an execution environment. -/
structure ExecutionEnvironmentIdentity where
  runId : Digest
  tenantId : String
  controlId : String
  configurationDigest : Digest
  executionPlanDigest : Digest
  sourceRevision : String
  sourceKind : String
deriving DecidableEq

/-- What the journal takes from elsewhere. A plan and an identity are canonical bytes, so
their digest is that of the bytes. -/
structure Codec where
  recovery : Recovery
  sha : Bytes → Digest
  /-- `verify_control_run_execution_plan`, which reads the stable request only -/
  verifyPlan : StableRequest → Bytes → Option ExecutionPlan
  /-- `parse_execution_environment_identity` -/
  parseIdentity : Bytes → Option ExecutionEnvironmentIdentity
  /-- the `CHECK`s of `executions` on the identity document -/
  identityBoundary : StableRequest → Digest → Bytes → Bool
  /-- strict JSON, one canonical object -/
  canonicalObject : Bytes → Bool
  /-- `create_control_run_execution_plan`, from the nonce, the time and the source revision -/
  createPlan : StableRequest → Bytes → Time → String → Option Bytes
  /-- `_attempt_token_digest`, of fence, run, tenant and worker -/
  attemptToken : Nat → Digest → String → String → Digest

/-! ## Rows -/

inductive AttemptState where
  | prepared | publishing | completed | failed | uncertain
deriving DecidableEq

/-- `ExecutionJournalRecord.terminal`. -/
def AttemptState.terminal : AttemptState → Bool
  | .prepared | .publishing => false
  | .completed | .failed | .uncertain => true

/-- The three columns a completion fills. -/
structure Outcome where
  evidenceDigest : Digest
  executorReceiptDigest : Digest
  executorReceiptBytes : Bytes
deriving DecidableEq

/-- A row of `execution_attempts`. -/
structure Attempt where
  leaseFence : Nat
  attemptCount : Nat
  workerId : String
  leaseTokenDigest : Digest
  state : AttemptState
  revision : Nat
  preparedAt : Time
  publishingAt : Option Time
  finishedAt : Option Time
  errorCode : Option String
  outcome : Option Outcome
deriving DecidableEq

/-- A row of `publishing_recovery_authorizations`. -/
structure RecoveryRow where
  envelope : SignedPublishingRecoveryAuthorization
  useClaim : PublishingRecoveryUseClaim
deriving DecidableEq

/-- The exact public identity, as digest and bytes. -/
structure BoundIdentity where
  digest : Digest
  bytes : Bytes
deriving DecidableEq

/-- A row of `executions`. -/
structure ExecutionRow where
  request : StableRequest
  planDigest : Digest
  planBytes : Bytes
  identity : Option BoundIdentity
  highestLeaseFence : Nat
  highestAttemptCount : Nat
  /-- `completion_lease_fence` with the outcome of that attempt -/
  completion : Option (Nat × Outcome)
deriving DecidableEq

/-- Everything the journal holds for one run. -/
structure RunJournal extends ExecutionRow where
  attempts : List Attempt
  recoveries : List RecoveryRow
deriving DecidableEq

section

variable (r : RecoveryRow)

def RecoveryRow.authorization : PublishingRecoveryAuthorization := r.envelope.authorization

def RecoveryRow.abandoned : AbandonedPublishingAttempt := r.authorization.abandonedAttempt

def RecoveryRow.successor : SuccessorLeaseClaim := r.authorization.successorClaim

def RecoveryRow.consumedAt : Time := r.useClaim.consumedAt

end

/-- The attempt `_SELECT_CURRENT` joins to the execution. -/
def RunJournal.current (x : RunJournal) : Option Attempt :=
  x.attempts.find? fun a => decide (a.leaseFence = x.highestLeaseFence)

/-! ## Checks -/

/-- `_ERROR_CODE_RE`. -/
def boundedErrorCode (code : String) : Bool :=
  match code.toList with
  | [] => false
  | c :: cs => c.isLower && decide (cs.length ≤ 63)
      && cs.all fun c => c.isLower || c.isDigit || ".-".toList.contains c

/-- `execution_attempt_state_shape`. -/
def Attempt.stateShape (sha : Bytes → Digest) (a : Attempt) : Prop :=
  match a.state with
  | .prepared => a.revision = 0 ∧ a.publishingAt = none ∧ a.finishedAt = none
      ∧ a.errorCode = none ∧ a.outcome = none
  | .publishing => a.revision = 1 ∧ a.publishingAt ≠ none ∧ a.finishedAt = none
      ∧ a.errorCode = none ∧ a.outcome = none
  | .completed => a.revision = 2 ∧ a.publishingAt ≠ none ∧ a.finishedAt ≠ none
      ∧ a.errorCode = none ∧ a.outcome ≠ none
      ∧ ∀ o ∈ a.outcome, o.executorReceiptDigest = sha o.executorReceiptBytes
  | .failed | .uncertain => (a.revision = 1 ∨ a.revision = 2) ∧ a.finishedAt ≠ none
      ∧ a.errorCode ≠ none ∧ a.outcome = none

instance (sha : Bytes → Digest) (a : Attempt) : Decidable (a.stateShape sha) := by
  delta Attempt.stateShape
  cases a.state <;> infer_instance

/-- `execution_attempt_time_order`. -/
def Attempt.timeOrder (a : Attempt) : Prop :=
  (∀ p ∈ a.publishingAt, a.preparedAt ≤ p) ∧ (∀ f ∈ a.finishedAt, a.preparedAt ≤ f)
    ∧ ∀ p ∈ a.publishingAt, ∀ f ∈ a.finishedAt, p ≤ f

instance (a : Attempt) : Decidable a.timeOrder := by
  delta Attempt.timeOrder; infer_instance

/-- The `CHECK`s of `execution_attempts`. -/
def Attempt.checks (sha : Bytes → Digest) (a : Attempt) : Prop :=
  inRange a.attemptCount a.leaseFence ∧ portableId a.workerId = true
    ∧ (∀ code ∈ a.errorCode, boundedErrorCode code = true)
    ∧ (∀ o ∈ a.outcome, 2 ≤ o.executorReceiptBytes.length
      ∧ o.executorReceiptBytes.length ≤ 1048576)
    ∧ a.stateShape sha ∧ a.timeOrder

instance (sha : Bytes → Digest) (a : Attempt) : Decidable (a.checks sha) := by
  delta Attempt.checks; infer_instance

/-- The `CHECK`s of `executions`. -/
def ExecutionRow.checks (C : Codec) (x : ExecutionRow) : Prop :=
  inRange x.highestAttemptCount x.highestLeaseFence
    ∧ x.planDigest = C.sha x.planBytes
    ∧ (2 ≤ x.planBytes.length ∧ x.planBytes.length ≤ 2097152)
    ∧ (∀ i ∈ x.identity, i.digest = C.sha i.bytes
      ∧ (2 ≤ i.bytes.length ∧ i.bytes.length ≤ 524288)
      ∧ C.identityBoundary x.request x.planDigest i.bytes = true)
    ∧ ∀ c ∈ x.completion, c.1 = x.highestLeaseFence ∧ x.identity ≠ none
      ∧ c.2.executorReceiptDigest = C.sha c.2.executorReceiptBytes

instance (C : Codec) (x : ExecutionRow) : Decidable (x.checks C) := by
  delta ExecutionRow.checks; infer_instance

/-- The `CHECK`s of `publishing_recovery_authorizations` that the documents of a row do not
already meet by what they are. The nested documents are parts of the envelope's text, so their
lengths have the bound of its length. -/
def RecoveryRow.checks (C : Codec) (r : RecoveryRow) : Prop :=
  (1 ≤ r.abandoned.leaseFence ∧ r.abandoned.leaseFence ≤ maxLeaseFence - 1)
    ∧ (1 ≤ r.abandoned.attemptCount ∧ r.abandoned.attemptCount ≤ 31)
    ∧ r.successor.leaseFence = r.abandoned.leaseFence + 1
    ∧ r.successor.attemptCount = r.abandoned.attemptCount + 1
    ∧ r.abandoned.leasedAt < r.abandoned.leaseExpiresAt
    ∧ r.abandoned.leasedAt ≤ r.abandoned.publishingAt
    ∧ r.abandoned.publishingAt < r.abandoned.leaseExpiresAt
    ∧ r.abandoned.leaseExpiresAt ≤ r.successor.leasedAt
    ∧ r.successor.leasedAt < r.successor.leaseExpiresAt
    ∧ r.consumedAt < r.authorization.expiresAt
    ∧ r.consumedAt < r.successor.leaseExpiresAt
    ∧ (1 ≤ r.authorization.drain.snapshotHighWatermark
      ∧ r.authorization.drain.snapshotHighWatermark ≤ 2 ^ 53 - 1)
    ∧ (1 ≤ r.authorization.drain.lifecycleRecordCount
      ∧ r.authorization.drain.lifecycleRecordCount ≤ 128)
    ∧ r.envelope.fits C.recovery

instance (C : Codec) (r : RecoveryRow) : Decidable (r.checks C) := by
  delta RecoveryRow.checks; infer_instance

/-! ## Triggers -/

/-- The text of an error the database raises. Each has a `SQLSTATE` the journal reports as a
conflict. -/
abbrev SqlError := String

/-- The recovery row that lets an attempt start in `publishing`. -/
def RecoveryRow.admits (r : RecoveryRow) (a : Attempt) : Prop :=
  r.successor.leaseFence = a.leaseFence ∧ r.successor.attemptCount = a.attemptCount
    ∧ r.successor.workerId = a.workerId ∧ r.successor.leaseTokenDigest = a.leaseTokenDigest
    ∧ r.successor.leasedAt = a.preparedAt ∧ some r.consumedAt = a.publishingAt

instance (r : RecoveryRow) (a : Attempt) : Decidable (r.admits a) := by
  delta RecoveryRow.admits; infer_instance

/-- `own_attempt_insert_clock`. -/
def ownAttemptInsertClock (x : RunJournal) (new : Attempt) (transactionTime : Time) :
    Except SqlError Attempt := do
  require (new.leaseFence = x.highestLeaseFence ∧ new.attemptCount = x.highestAttemptCount
      ∧ new.finishedAt = none ∧ new.errorCode = none ∧ new.outcome = none)
    "execution attempt does not match current fence"
  if new.state = .prepared ∧ new.revision = 0 ∧ new.publishingAt = none then
    pure { new with preparedAt := transactionTime }
  else if new.state = .publishing ∧ new.revision = 1 ∧ new.publishingAt ≠ none
      ∧ ∃ r ∈ x.recoveries, r.admits new then
    -- the signed lease time and the consumption time stay as they are
    pure new
  else
    throw "execution attempt insert bypassed recovery authority"

/-- The recovery row that lets an identity-bound execution change its fence. -/
def RecoveryRow.advances (r : RecoveryRow) (old new : ExecutionRow) : Prop :=
  r.authorization.controlId = old.request.controlId
    ∧ r.authorization.configurationDigest = old.request.configurationDigest
    ∧ r.authorization.executionPlanDigest = old.planDigest
    ∧ some r.authorization.executionIdentityDigest = old.identity.map (·.digest)
    ∧ r.abandoned.leaseFence = old.highestLeaseFence
    ∧ r.abandoned.attemptCount = old.highestAttemptCount
    ∧ r.successor.leaseFence = new.highestLeaseFence
    ∧ r.successor.attemptCount = new.highestAttemptCount

instance (r : RecoveryRow) (old new : ExecutionRow) : Decidable (r.advances old new) := by
  delta RecoveryRow.advances; infer_instance

/-- The fence and the attempt count of two rows differ somewhere. -/
def ExecutionRow.reclaims (old new : ExecutionRow) : Prop :=
  new.highestLeaseFence ≠ old.highestLeaseFence
    ∨ new.highestAttemptCount ≠ old.highestAttemptCount

instance (old new : ExecutionRow) : Decidable (old.reclaims new) := by
  delta ExecutionRow.reclaims; infer_instance

/-- `guard_execution_update`. -/
def guardExecutionUpdate (x : RunJournal) (new : ExecutionRow) : Except SqlError Unit := do
  require (new.request = x.request ∧ new.planDigest = x.planDigest
      ∧ new.planBytes = x.planBytes) "immutable execution identity"
  require (x.highestLeaseFence ≤ new.highestLeaseFence
      ∧ x.highestAttemptCount ≤ new.highestAttemptCount
      ∧ (x.highestLeaseFence < new.highestLeaseFence →
        x.highestAttemptCount < new.highestAttemptCount)
      ∧ (new.highestLeaseFence = x.highestLeaseFence →
        new.highestAttemptCount = x.highestAttemptCount))
    "execution fence must advance monotonically"
  require (x.completion ≠ none → new.completion = x.completion)
    "immutable execution completion"
  require (x.completion ≠ none → ¬x.toExecutionRow.reclaims new)
    "completed execution cannot be reclaimed"
  require (x.identity ≠ none → new.identity = x.identity)
    "immutable execution environment identity"
  require (x.identity ≠ none → x.toExecutionRow.reclaims new →
      ∃ r ∈ x.recoveries, r.advances x.toExecutionRow new)
    "identity-bound publishing execution requires reconciliation"
  require (x.identity = none → new.identity ≠ none →
      (∃ a ∈ x.current, a.state = .publishing) ∧ ¬x.toExecutionRow.reclaims new)
    "execution environment identity requires current publishing attempt"

/-- The recovery row that keeps the finish time of a superseded attempt. -/
def RecoveryRow.supersedes (r : RecoveryRow) (old new : Attempt) : Prop :=
  r.abandoned.leaseFence = old.leaseFence ∧ r.abandoned.attemptCount = old.attemptCount
    ∧ old.revision = 1 ∧ r.abandoned.workerId = old.workerId
    ∧ r.abandoned.leaseTokenDigest = old.leaseTokenDigest
    ∧ some r.abandoned.publishingAt = old.publishingAt ∧ some r.consumedAt = new.finishedAt

instance (r : RecoveryRow) (old new : Attempt) : Decidable (r.supersedes old new) := by
  delta RecoveryRow.supersedes; infer_instance

/-- The transitions `guard_attempt_update` allows. -/
def Attempt.mayBecome (old new : Attempt) : Prop :=
  (old.state = .prepared ∧ new.state ∈ [.publishing, .failed, .uncertain]
      ∧ new.revision = old.revision + 1)
    ∨ (old.state = .publishing ∧ new.state ∈ [.completed, .failed, .uncertain]
      ∧ new.revision = old.revision + 1 ∧ new.publishingAt = old.publishingAt)

instance (old new : Attempt) : Decidable (old.mayBecome new) := by
  delta Attempt.mayBecome; infer_instance

/-- The columns of an attempt that no update may change. -/
def Attempt.sameIdentity (old new : Attempt) : Prop :=
  new.leaseFence = old.leaseFence ∧ new.attemptCount = old.attemptCount
    ∧ new.workerId = old.workerId ∧ new.leaseTokenDigest = old.leaseTokenDigest
    ∧ new.preparedAt = old.preparedAt

instance (old new : Attempt) : Decidable (old.sameIdentity new) := by
  delta Attempt.sameIdentity; infer_instance

/-- `guard_attempt_update`. -/
def guardAttemptUpdate (x : RunJournal) (old new : Attempt) (statementTime : Time) :
    Except SqlError Attempt := do
  require (old.sameIdentity new) "immutable execution attempt identity"
  require (old.leaseFence = x.highestLeaseFence ∧ x.completion = none)
    "only the current unfinished attempt may transition"
  require (old.mayBecome new) "invalid execution attempt transition"
  if old.state = .prepared ∧ new.state = .publishing then
    pure { new with publishingAt := some statementTime }
  else if old.state = .publishing ∧ new.state = .uncertain
      ∧ new.errorCode = some "recovery-superseded" ∧ ∃ r ∈ x.recoveries, r.supersedes old new then
    -- the consumption time of the signed use claim stays
    pure new
  else
    pure { new with finishedAt := some statementTime }

/-! ## Statements -/

section

variable (C : Codec)

/-- `INSERT INTO executions`. -/
def insertExecution (new : ExecutionRow) : Except SqlError RunJournal := do
  require (new.identity = none ∧ new.completion = none) "new execution cannot start completed"
  require (new.checks C) "executions check"
  pure { toExecutionRow := new, attempts := [], recoveries := [] }

/-- `INSERT INTO execution_attempts`. -/
def RunJournal.insertAttempt (x : RunJournal) (new : Attempt) (transactionTime : Time) :
    Except SqlError RunJournal := do
  let row ← ownAttemptInsertClock x new transactionTime
  require (row.checks C.sha) "execution_attempts check"
  require (row.leaseFence ∉ x.attempts.map (·.leaseFence)) "execution_attempts_pkey"
  require (row.attemptCount ∉ x.attempts.map (·.attemptCount)) "attempt_count key"
  pure { x with attempts := x.attempts ++ [row] }

/-- `UPDATE execution_attempts … WHERE lease_fence = … AND … RETURNING`: nothing when no row
matches. -/
def RunJournal.updateAttempt (x : RunJournal) (leaseFence : Nat) (matching : Attempt → Bool)
    (set : Attempt → Attempt) (statementTime : Time) : Except SqlError (Option RunJournal) :=
  match x.attempts.find? fun a => decide (a.leaseFence = leaseFence) && matching a with
  | none => pure none
  | some old => do
    let row ← guardAttemptUpdate x old (set old) statementTime
    require (row.checks C.sha) "execution_attempts check"
    pure (some { x with
      attempts := updateWhere (fun a => decide (a.leaseFence = leaseFence)) (fun _ => row)
        x.attempts })

/-- `UPDATE executions … WHERE … RETURNING`. -/
def RunJournal.updateRow (x : RunJournal) (matching : Bool) (new : ExecutionRow) :
    Except SqlError (Option RunJournal) :=
  if matching = true then do
    guardExecutionUpdate x new
    require (new.checks C) "executions check"
    pure (some { x with toExecutionRow := new })
  else
    pure none

/-- `validate_execution_consistency`, at commit. -/
def RunJournal.consistent (x : RunJournal) : Prop :=
  ∃ a ∈ x.current, a.attemptCount = x.highestAttemptCount
    ∧ match x.completion with
      | none => a.state ≠ .completed
      | some c => a.state = .completed ∧ c.1 = a.leaseFence ∧ some c.2 = a.outcome

instance (x : RunJournal) : Decidable x.consistent := by
  delta RunJournal.consistent
  have : DecidablePred fun a : Attempt => a.attemptCount = x.highestAttemptCount
      ∧ match x.completion with
        | none => a.state ≠ .completed
        | some c => a.state = .completed ∧ c.1 = a.leaseFence ∧ some c.2 = a.outcome := by
    intro a
    cases x.completion <;> infer_instance
  infer_instance

/-- The end of a transaction. -/
def RunJournal.commit (x : RunJournal) : Except SqlError RunJournal := do
  require x.consistent "execution current fence lacks exact attempt"
  pure x

end

end ControlAssurance.Execution
