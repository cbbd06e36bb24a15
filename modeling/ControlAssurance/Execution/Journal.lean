import ControlAssurance.Execution.RecoveryAuthorization
import ControlAssurance.Execution.Schema
import ControlAssurance.Runtime.Runs

/-!
# `PostgresExecutionJournal`

The methods of `runtime/execution_journal.py`, each one transaction on the rows of one
run: a function from those rows to the new rows and the record it returns, or to the
exception, after which the rows are as before. The statements are those of
`Schema.lean`; an error the database raises is reported as a conflict by the method
that made the statement.

Every method locks the execution row and its current attempt before it decides, so a
transaction sees nothing change under it; the row lock of a new run is the primary key
of its `INSERT`. A transaction can also be refused for reasons outside these tables (a
lock timeout, a deadlock, a lost connection): those answers are those of
`Executor.lean`.
-/

namespace ControlAssurance.Execution

open Lib
open Admission (Bytes)
open ControlAssurance.Runtime (ControlRunExecutionResult)

/-! ## Errors and records -/

/-- The journal's exceptions with their texts; `invalid` are the `ValueError`s and
`TypeError`s raised before any statement. -/
inductive JournalError where
  | conflict (text : String)
  | notFound (text : String)
  | integrity (text : String)
  | unavailable (text : String)
  | outcomeUnknown (text : String)
  | invalid (text : String)
deriving DecidableEq

/-- The clocks of a transaction, in the seconds the columns store. -/
structure Clock where
  transaction : Time
  statement : Time
deriving DecidableEq

/-- The verified current attempt joined to its run. -/
structure ExecutionJournalRecord where
  request : ControlRunExecutionRequest
  planDigest : Digest
  planBytes : Bytes
  identity : Option BoundIdentity
  state : AttemptState
  revision : Nat
  highestLeaseFence : Nat
  workerId : String
  leaseTokenDigest : Digest
  preparedAt : Time
  publishingAt : Option Time
  finishedAt : Option Time
  errorCode : Option String
  completion : Option (Nat × Outcome)
deriving DecidableEq

/-- A statement whose error the method reports as a conflict. -/
def rejectedAs {α : Type} (text : String) (x : Except SqlError α) : Except JournalError α :=
  x.mapError fun _ => .conflict text

section

variable (C : Codec)

/-- `_validate_executor_receipt_bytes`. -/
def receiptExact (bytes : Bytes) (expectedDigest : Digest) : Prop :=
  (2 ≤ bytes.length ∧ bytes.length ≤ 1048576) ∧ C.sha bytes = expectedDigest
    ∧ C.canonicalObject bytes = true

instance (bytes : Bytes) (expectedDigest : Digest) :
    Decidable (receiptExact C bytes expectedDigest) := by
  delta receiptExact; infer_instance

/-- `_validate_execution_identity_bytes`. -/
def identityExact (i : BoundIdentity) : Option ExecutionEnvironmentIdentity :=
  if (2 ≤ i.bytes.length ∧ i.bytes.length ≤ 524288) ∧ C.sha i.bytes = i.digest then
    C.parseIdentity i.bytes
  else
    none

/-- `_validate_execution_identity_binding`. -/
def identityBinds (identity : ExecutionEnvironmentIdentity) (request : StableRequest)
    (planBytes : Bytes) (planDigest : Digest) : Prop :=
  ∃ plan ∈ C.verifyPlan request planBytes, planDigest = C.sha planBytes
    ∧ identity.runId = request.runId ∧ identity.tenantId = request.tenantId
    ∧ identity.controlId = request.controlId
    ∧ identity.configurationDigest = request.configurationDigest
    ∧ identity.executionPlanDigest = planDigest
    ∧ identity.sourceRevision = plan.sourceRevision ∧ identity.sourceKind = plan.sourceKind

instance (identity : ExecutionEnvironmentIdentity) (request : StableRequest)
    (planBytes : Bytes) (planDigest : Digest) :
    Decidable (identityBinds C identity request planBytes planDigest) := by
  delta identityBinds; infer_instance

/-- `validate_state_shape`, by state. -/
def ExecutionJournalRecord.stateShape (r : ExecutionJournalRecord) : Prop :=
  match r.state with
  | .prepared => r.revision = 0 ∧ r.publishingAt = none ∧ r.finishedAt = none
      ∧ r.errorCode = none
  | .publishing => r.revision = 1 ∧ r.publishingAt ≠ none ∧ r.finishedAt = none
      ∧ r.errorCode = none
  | .completed => r.revision = 2 ∧ r.publishingAt ≠ none ∧ r.finishedAt ≠ none
      ∧ r.errorCode = none ∧ r.completion.map (·.1) = some r.request.leaseFence
      ∧ r.identity ≠ none
      ∧ ∀ c ∈ r.completion, receiptExact C c.2.executorReceiptBytes c.2.executorReceiptDigest
  | .failed | .uncertain => 1 ≤ r.revision ∧ r.finishedAt ≠ none ∧ r.errorCode ≠ none

instance (r : ExecutionJournalRecord) : Decidable (r.stateShape C) := by
  delta ExecutionJournalRecord.stateShape
  cases r.state <;> infer_instance

/-- The validators of `ExecutionJournalRecord`. -/
def ExecutionJournalRecord.valid (r : ExecutionJournalRecord) : Prop :=
  r.request.leaseFence ≤ r.highestLeaseFence ∧ portableId r.workerId = true
    ∧ (∀ code ∈ r.errorCode, boundedErrorCode code = true)
    ∧ (∀ i ∈ r.identity, ∃ identity ∈ identityExact C i,
      identityBinds C identity r.request.stable r.planBytes r.planDigest)
    ∧ r.stateShape C

instance (r : ExecutionJournalRecord) : Decidable (r.valid C) := by
  delta ExecutionJournalRecord.valid; infer_instance

/-- The record that `_record_from_row` builds of an attempt. -/
def RunJournal.record (x : RunJournal) (a : Attempt)
    (h : inRange a.attemptCount x.highestLeaseFence) : ExecutionJournalRecord :=
  { request := ⟨x.request, a.attemptCount, x.highestLeaseFence, h⟩
    planDigest := x.planDigest
    planBytes := x.planBytes
    identity := x.identity
    state := a.state
    revision := a.revision
    highestLeaseFence := x.highestLeaseFence
    workerId := a.workerId
    leaseTokenDigest := a.leaseTokenDigest
    preparedAt := a.preparedAt
    publishingAt := a.publishingAt
    finishedAt := a.finishedAt
    errorCode := a.errorCode
    completion := x.completion }

/-- `_record_from_row`. -/
def recordFromRow (x : RunJournal) (a : Attempt) :
    Except JournalError ExecutionJournalRecord :=
  if h : inRange a.attemptCount x.highestLeaseFence then do
    require (x.planDigest = C.sha x.planBytes)
      (JournalError.integrity "stored execution plan digest differs")
    require (C.verifyPlan x.request x.planBytes ≠ none)
      (JournalError.integrity "stored execution journal row is invalid")
    let record := x.record a h
    require (record.valid C) (JournalError.integrity "stored execution journal row is invalid")
    pure record
  else
    .error (.integrity "stored execution journal row is invalid")

/-- `_select_current` and `_record_from_row`. -/
def readCurrent (s : Option RunJournal) (missing : JournalError) :
    Except JournalError (RunJournal × ExecutionJournalRecord) := do
  let x ← expect s missing
  let a ← expect x.current missing
  let record ← recordFromRow C x a
  pure (x, record)

/-- The record of the rows a transaction is about to commit. -/
def reread (x : RunJournal) (missing rejection : String) :
    Except JournalError (RunJournal × ExecutionJournalRecord) := do
  let (_, record) ← readCurrent C (some x) (.integrity missing)
  let _ ← rejectedAs rejection x.commit
  pure (x, record)

/-- The worker, the token and the fence of a caller. -/
structure AttemptKey where
  leaseFence : Nat
  workerId : String
  leaseTokenDigest : Digest
deriving DecidableEq

/-- The current attempt is the caller's, and still the highest. -/
def ExecutionJournalRecord.heldBy (r : ExecutionJournalRecord) (key : AttemptKey) : Prop :=
  r.highestLeaseFence = key.leaseFence ∧ r.request.leaseFence = key.leaseFence
    ∧ r.workerId = key.workerId ∧ r.leaseTokenDigest = key.leaseTokenDigest

instance (r : ExecutionJournalRecord) (key : AttemptKey) : Decidable (r.heldBy key) := by
  delta ExecutionJournalRecord.heldBy; infer_instance

/-- What the methods check of their own arguments before any statement. -/
def AttemptKey.check (key : AttemptKey) (outside : String) : Except JournalError Unit := do
  require (portableId key.workerId = true)
    (JournalError.invalid "worker id is not a portable identifier")
  require (1 ≤ key.leaseFence ∧ key.leaseFence ≤ maxLeaseFence) (JournalError.invalid outside)

/-! ## `prepare` -/

/-- A new attempt, before the trigger sets its clock. -/
def newAttempt (attemptCount : Nat) (key : AttemptKey) : Attempt :=
  { leaseFence := key.leaseFence
    attemptCount := attemptCount
    workerId := key.workerId
    leaseTokenDigest := key.leaseTokenDigest
    state := .prepared
    revision := 0
    preparedAt := 0
    publishingAt := none
    finishedAt := none
    errorCode := none
    outcome := none }

/-- The rows of a new run. `ON CONFLICT DO NOTHING` cannot meet a row here: the transaction
has just seen none. -/
def insertRun (clock : Clock) (request : ControlRunExecutionRequest) (key : AttemptKey)
    (plan : Bytes) : Except JournalError RunJournal :=
  rejectedAs "execution preparation was rejected" do
    let x ← insertExecution C
      { request := request.stable
        planDigest := C.sha plan
        planBytes := plan
        identity := none
        highestLeaseFence := request.leaseFence
        highestAttemptCount := request.attemptCount
        completion := none }
    let x ← x.insertAttempt C (newAttempt request.attemptCount key) clock.transaction
    x.commit

/-- The rows a `prepare` goes on with: those it finds, or those of the new run. -/
def findOrInsert (clock : Clock) (request : ControlRunExecutionRequest) (key : AttemptKey)
    (plan : Option Bytes) (s : Option RunJournal) : Except JournalError RunJournal :=
  match s with
  | some x => do
    require (¬(x.current = none ∧ plan = none))
      (JournalError.notFound "new execution requires a frozen execution plan")
    pure x
  | none => do
    let plan ← expect plan (.notFound "new execution requires a frozen execution plan")
    insertRun C clock request key plan

/-- The unfinished attempt of the lower fence becomes `uncertain`. -/
def supersede (clock : Clock) (x : RunJournal) (current : ExecutionJournalRecord) :
    Except JournalError RunJournal :=
  if current.state = .prepared ∨ current.state = .publishing then do
    let superseded ← rejectedAs "execution preparation was rejected" (x.updateAttempt C
      current.request.leaseFence
      (fun a => decide (a.state = current.state ∧ a.revision = current.revision))
      (fun a => { a with
        state := .uncertain
        revision := a.revision + 1
        finishedAt := some clock.statement
        errorCode := some "lease-superseded" }) clock.statement)
    expect superseded (.conflict "execution recovery compare-and-swap failed")
  else
    pure x

/-- A higher fence supersedes the unfinished attempt and inserts its own. -/
def takeOver (clock : Clock) (request : ControlRunExecutionRequest) (key : AttemptKey)
    (x : RunJournal) (current : ExecutionJournalRecord) :
    Except JournalError (RunJournal × ExecutionJournalRecord) := do
  require (current.request.attemptCount < request.attemptCount)
    (JournalError.conflict "execution attempt count did not advance")
  require (¬(current.state = .publishing ∧ current.identity ≠ none))
    (JournalError.conflict "identity-bound publishing execution requires reconciliation")
  let x ← supersede C clock x current
  let advanced ← rejectedAs "execution preparation was rejected" (x.updateRow C
    (decide (x.highestLeaseFence = current.highestLeaseFence
      ∧ x.highestAttemptCount = current.request.attemptCount ∧ x.completion = none))
    { x.toExecutionRow with
      highestLeaseFence := request.leaseFence
      highestAttemptCount := request.attemptCount })
  let x ← expect advanced (.conflict "execution fence advance compare-and-swap failed")
  let x ← rejectedAs "execution preparation was rejected"
    (x.insertAttempt C (newAttempt request.attemptCount key) clock.transaction)
  reread C x "recovered execution could not be reread" "execution preparation was rejected"

/-- `prepare`. -/
def prepare (clock : Clock) (request : ControlRunExecutionRequest) (workerId : String)
    (leaseTokenDigest : Digest) (plan : Option Bytes) (s : Option RunJournal) :
    Except JournalError (RunJournal × ExecutionJournalRecord) := do
  require (portableId workerId = true)
    (JournalError.invalid "worker id is not a portable identifier")
  require (∀ p ∈ plan, 2 ≤ p.length ∧ p.length ≤ 2097152)
    (JournalError.invalid "execution plan bytes are outside the supported range")
  require (∀ p ∈ plan, C.verifyPlan request.stable p ≠ none)
    (JournalError.invalid "execution plan is invalid")
  let key : AttemptKey := ⟨request.leaseFence, workerId, leaseTokenDigest⟩
  let x ← findOrInsert C clock request key plan s
  let (x, current) ← readCurrent C (some x) (.integrity "prepared execution could not be reread")
  require (current.request.stable = request.stable)
    (JournalError.conflict "execution request differs from immutable journal identity")
  require (∀ p ∈ plan, p = current.planBytes)
    (JournalError.conflict "execution plan differs from immutable journal identity")
  require (current.highestLeaseFence ≤ request.leaseFence)
    (JournalError.conflict "execution lease fence is stale")
  if current.state = .completed then
    pure (x, current)
  else if request.leaseFence = current.highestLeaseFence then do
    require (current.request.attemptCount = request.attemptCount ∧ current.heldBy key)
      (JournalError.conflict "execution attempt identity differs from its lease")
    pure (x, current)
  else
    takeOver C clock request key x current

/-! ## Transitions -/

/-- `get`, which leaves the rows as they are. -/
def get (s : Option RunJournal) : Except JournalError (RunJournal × ExecutionJournalRecord) :=
  readCurrent C s (.notFound "execution journal record not found")

inductive Transition where
  | publishing
  | failed (errorCode : String)
  | uncertain (errorCode : String)
deriving DecidableEq

def Transition.target : Transition → AttemptState
  | .publishing => .publishing
  | .failed _ => .failed
  | .uncertain _ => .uncertain

def Transition.errorCode : Transition → Option String
  | .publishing => none
  | .failed code => some code
  | .uncertain code => some code

/-- `allowed_source`. -/
def Transition.allowedSource : Transition → List AttemptState
  | .publishing => [.prepared]
  | .failed _ => [.prepared, .publishing]
  | .uncertain _ => [.prepared, .publishing]

/-- The `SET` of the two statements of `_transition`. -/
def Transition.set (t : Transition) (now : Time) (a : Attempt) : Attempt :=
  match t with
  | .publishing => { a with
      state := .publishing
      revision := a.revision + 1
      publishingAt := some now }
  | .failed code => { a with
      state := .failed
      revision := a.revision + 1
      finishedAt := some now
      errorCode := some code }
  | .uncertain code => { a with
      state := .uncertain
      revision := a.revision + 1
      finishedAt := some now
      errorCode := some code }

/-- `_transition`: `begin_publishing`, `mark_failed` and `mark_uncertain`. -/
def transition (clock : Clock) (key : AttemptKey) (expectedRevision : Nat) (t : Transition)
    (s : Option RunJournal) : Except JournalError (RunJournal × ExecutionJournalRecord) := do
  key.check "lease fence is outside the supported range"
  require (∀ code ∈ t.errorCode, boundedErrorCode code = true)
    (JournalError.invalid "execution error code is invalid")
  let (x, current) ← readCurrent C s (.notFound "execution journal record not found")
  require (current.heldBy key) (JournalError.conflict "execution transition used a stale lease")
  if current.state = .completed then
    pure (x, current)
  else if current.state = t.target ∧ current.revision = expectedRevision + 1
      ∧ current.errorCode = t.errorCode then
    pure (x, current)
  else do
    require (current.state ∈ t.allowedSource ∧ current.revision = expectedRevision)
      (JournalError.conflict "execution transition compare-and-swap failed")
    let updated ← rejectedAs "execution transition was rejected" (x.updateAttempt C
      key.leaseFence
      (fun a => decide (a.workerId = key.workerId ∧ a.leaseTokenDigest = key.leaseTokenDigest
        ∧ a.state = current.state ∧ a.revision = expectedRevision))
      (t.set clock.statement) clock.statement)
    let x ← expect updated (.conflict "execution transition compare-and-swap failed")
    reread C x "transitioned execution could not be reread" "execution transition was rejected"

def beginPublishing (clock : Clock) (key : AttemptKey) (expectedRevision : Nat)
    (s : Option RunJournal) : Except JournalError (RunJournal × ExecutionJournalRecord) :=
  transition C clock key expectedRevision .publishing s

def markFailed (clock : Clock) (key : AttemptKey) (expectedRevision : Nat)
    (errorCode : String) (s : Option RunJournal) :
    Except JournalError (RunJournal × ExecutionJournalRecord) :=
  transition C clock key expectedRevision (.failed errorCode) s

def markUncertain (clock : Clock) (key : AttemptKey) (expectedRevision : Nat)
    (errorCode : String) (s : Option RunJournal) :
    Except JournalError (RunJournal × ExecutionJournalRecord) :=
  transition C clock key expectedRevision (.uncertain errorCode) s

/-! ## Identity and completion -/

/-- `bind_execution_identity`. -/
def bindExecutionIdentity (key : AttemptKey) (expectedRevision : Nat) (i : BoundIdentity)
    (s : Option RunJournal) : Except JournalError (RunJournal × ExecutionJournalRecord) := do
  key.check "execution identity fence or revision is invalid"
  let identity ← expect (identityExact C i)
    (.conflict "execution environment identity is not exact canonical state")
  let (x, current) ← readCurrent C s (.notFound "execution journal record not found")
  require (current.heldBy key ∧ current.state = .publishing
      ∧ current.revision = expectedRevision)
    (JournalError.conflict "execution identity binding used a stale publishing attempt")
  require (identityBinds C identity current.request.stable current.planBytes current.planDigest)
    (JournalError.conflict "execution environment identity crosses its journaled execution")
  match current.identity with
  | some bound => do
    require (bound = i)
      (JournalError.conflict "execution environment identity differs from its binding")
    pure (x, current)
  | none => do
    let bound ← rejectedAs "execution identity binding was rejected" (x.updateRow C
      (decide (x.highestLeaseFence = key.leaseFence ∧ x.completion = none ∧ x.identity = none
        ∧ ∃ a ∈ x.attempts, a.leaseFence = key.leaseFence ∧ a.workerId = key.workerId
          ∧ a.leaseTokenDigest = key.leaseTokenDigest ∧ a.state = .publishing
          ∧ a.revision = expectedRevision))
      { x.toExecutionRow with identity := some i })
    let x ← expect bound (.conflict "execution identity binding compare-and-swap failed")
    reread C x "bound execution identity could not be reread"
      "execution identity binding was rejected"

/-- `ExecutionJournalRecord.result`. -/
def ExecutionJournalRecord.result (r : ExecutionJournalRecord) :
    Option ControlRunExecutionResult :=
  r.completion.map fun c =>
    ⟨r.request.stable.runId, c.1, c.2.evidenceDigest, c.2.executorReceiptDigest⟩

/-- `mark_completed`. -/
def markCompleted (clock : Clock) (runId : Digest) (key : AttemptKey) (expectedRevision : Nat)
    (result : ControlRunExecutionResult) (receiptBytes : Bytes) (s : Option RunJournal) :
    Except JournalError (RunJournal × ExecutionJournalRecord) := do
  key.check "completion fence or revision is invalid"
  require (result.runId = runId ∧ result.leaseFence = key.leaseFence)
    (JournalError.conflict "executor result differs from execution lease")
  require (receiptExact C receiptBytes result.executorReceiptDigest)
    (JournalError.conflict "executor receipt bytes differ from the canonical result")
  let (x, current) ← readCurrent C s (.notFound "execution journal record not found")
  match current.result with
  | some stored => do
    require (stored = result ∧ current.state = .completed ∧ current.workerId = key.workerId
        ∧ current.leaseTokenDigest = key.leaseTokenDigest
        ∧ current.completion.map (·.2.executorReceiptBytes) = some receiptBytes)
      (JournalError.conflict "completed execution differs from requested result")
    pure (x, current)
  | none => do
    require (current.heldBy key ∧ current.state = .publishing
        ∧ current.revision = expectedRevision ∧ current.identity ≠ none)
      (JournalError.conflict "execution completion compare-and-swap failed")
    let outcome : Outcome :=
      ⟨result.evidenceDigest, result.executorReceiptDigest, receiptBytes⟩
    let attempt ← rejectedAs "execution completion was rejected" (x.updateAttempt C
      key.leaseFence
      (fun a => decide (a.workerId = key.workerId ∧ a.leaseTokenDigest = key.leaseTokenDigest
        ∧ a.state = .publishing ∧ a.revision = expectedRevision))
      (fun a => { a with
        state := .completed
        revision := a.revision + 1
        finishedAt := some clock.statement
        outcome := some outcome }) clock.statement)
    let x ← expect attempt (.conflict "execution completion compare-and-swap failed")
    let execution ← rejectedAs "execution completion was rejected" (x.updateRow C
      (decide (x.highestLeaseFence = key.leaseFence ∧ x.completion = none))
      { x.toExecutionRow with completion := some (key.leaseFence, outcome) })
    let x ← expect execution (.conflict "logical execution completion was already claimed")
    reread C x "completed execution could not be reread" "execution completion was rejected"

end

end ControlAssurance.Execution
