import ControlAssurance.Execution.JournalInvariant
import ControlAssurance.Lib.RowLocks

/-!
# The journal, statement by statement

`Journal.lean` has each method as one transaction. Here a method is the sequence of its
statements, and the statements of different transactions interleave at READ COMMITTED: each
sees what is committed at its own moment and what its own transaction has written.

The one lock is that of the row of `executions`: `FOR UPDATE` takes it exclusively, the
foreign keys of attempts and of recovery rows take it shared. An attempt's row lock is only
ever taken under the exclusive one, so it decides nothing. A locking select that waited may
come back empty although the run is there: its join is evaluated again on the row it waited
for and on the attempts it saw before, so it misses an attempt that became current meanwhile.

`Tables.insertions` is kept for the statements about it: every row an `INSERT` into
`execution_attempts` has stored.
-/

namespace ControlAssurance.Execution

open Lib
open Admission (Bytes)
open ControlAssurance.Runtime (ControlRunExecutionResult)

/-! ## Rows and writes -/

structure Tables where
  run : Option RunJournal
  insertions : List Attempt

/-- One row written by a statement. -/
inductive Write where
  | execution (row : ExecutionRow)
  | attemptInsert (row : Attempt)
  | attemptUpdate (row : Attempt)
  | recovery (row : RecoveryRow)

def Tables.write (t : Tables) : Write → Tables
  | .execution row =>
    { t with run := some (match t.run with
      | none => { toExecutionRow := row, attempts := [], recoveries := [] }
      | some x => { x with toExecutionRow := row }) }
  | .attemptInsert row =>
    { run := t.run.map fun x => { x with attempts := x.attempts ++ [row] }
      insertions := t.insertions ++ [row] }
  | .attemptUpdate row => { t with run := t.run.map fun x => x.replace row row }
  | .recovery row =>
    { t with run := t.run.map fun x => { x with recoveries := x.recoveries ++ [row] } }

/-! ## Statements -/

inductive Sql where
  /-- `_SELECT_CURRENT`, with `FOR UPDATE OF execution, attempt` or without -/
  | selectCurrent (forUpdate : Bool)
  /-- `INSERT INTO executions … ON CONFLICT DO NOTHING RETURNING` -/
  | insertExecution (row : ExecutionRow)
  | insertAttempt (row : Attempt) (transactionTime : Time)
  | updateAttempt (leaseFence : Nat) (matching : Attempt → Bool) (set : Attempt → Attempt)
      (statementTime : Time)
  | updateExecution (matching : RunJournal → Bool) (set : ExecutionRow → ExecutionRow)
  /-- `INSERT … ON CONFLICT (authorization_id) DO NOTHING RETURNING` -/
  | insertRecovery (row : RecoveryRow)
  /-- `SELECT … FROM executions … FOR UPDATE` -/
  | lockExecution
  /-- `SELECT … FROM execution_attempts … FOR UPDATE` -/
  | lockAttempt (leaseFence : Nat)

@[reducible] def Sql.Out : Sql → Type
  | .selectCurrent _ => Option (ExecutionRow × Attempt)
  | .insertExecution _ => Bool
  | .insertAttempt .. => Unit
  | .updateAttempt .. => Bool
  | .updateExecution .. => Bool
  | .insertRecovery _ => Bool
  | .lockExecution => Option ExecutionRow
  | .lockAttempt _ => Option Attempt

/-- The row an update of an attempt stores. -/
def RunJournal.updatedAttempt (C : Codec) (x : RunJournal) (leaseFence : Nat)
    (matching : Attempt → Bool) (set : Attempt → Attempt) (statementTime : Time) :
    Except SqlError (Option Attempt) :=
  match x.attempts.find? fun a => decide (a.leaseFence = leaseFence) && matching a with
  | none => pure none
  | some old => do
    let row ← guardAttemptUpdate x old (set old) statementTime
    require (row.checks C.sha) "execution_attempts check"
    pure (some row)

section

variable (C : Codec)

/-- What a statement answers on the rows it sees, what it writes, and the lock it takes. -/
def Sql.answer : (q : Sql) → Tables → Except SqlError (q.Out × List Write × Lock)
  | .selectCurrent forUpdate, t =>
    match t.run.bind fun x => x.current.map fun a => (x.toExecutionRow, a) with
    | none => .ok (none, [], .free)
    | some row => .ok (some row, [], if forUpdate then .exclusive else .free)
  | .insertExecution row, t =>
    match t.run with
    | some _ => .ok (false, [], .free)
    | none => do
      let x ← Execution.insertExecution C row
      pure (true, [.execution x.toExecutionRow], .exclusive)
  | .insertAttempt new now, t => do
    let x ← expect t.run "execution_attempts_execution_fkey"
    let row ← ownAttemptInsertClock x new now
    let _ ← x.insertAttempt C new now
    pure ((), [.attemptInsert row], .share)
  | .updateAttempt fence matching set now, t =>
    match t.run with
    | none => .ok (false, [], .free)
    | some x => do
      match ← x.updatedAttempt C fence matching set now with
      | none => pure (false, [], .free)
      | some row => pure (true, [.attemptUpdate row], .free)
  | .updateExecution matching set, t =>
    match t.run with
    | none => .ok (false, [], .free)
    | some x => do
      match ← x.updateRow C (matching x) (set x.toExecutionRow) with
      | none => pure (false, [], .free)
      | some y => pure (true, [.execution y.toExecutionRow], .exclusive)
  | .insertRecovery row, t => do
    let x ← expect t.run "publishing_recovery_execution_fkey"
    match ← x.insertRecovery C row with
    | none => pure (false, [], .free)
    | some _ => pure (true, [.recovery row], .share)
  | .lockExecution, t =>
    match t.run with
    | none => .ok (none, [], .free)
    | some x => .ok (some x.toExecutionRow, [], .exclusive)
  | .lockAttempt fence, t =>
    .ok (t.run.bind fun x => x.attempts.find? fun a => decide (a.leaseFence = fence), [], .free)

/-- A locking select may miss the current attempt. -/
def Sql.Misses : (q : Sql) → q.Out → Prop
  | .selectCurrent true, none => True
  | _, _ => False

/-- How a statement fails: the database raises, it gives the statement up (a deadlock, a lock
timeout or a statement timeout), or the connection is cut. -/
inductive SqlFailure where
  | raised (error : SqlError)
  | canceled
  | cut
deriving DecidableEq

/-- The journal's tables as a database. The deferred trigger runs at commit. -/
def journalStore : RowStore Tables Write Sql SqlFailure Sql.Out where
  apply := Tables.write
  act := fun q t r ws l =>
    match r with
    | .ok r => q.answer C t = .ok (r, ws, l) ∨ (q.Misses r ∧ ws = [] ∧ l = .free)
    | .error e => ∃ error, q.answer C t = .error error ∧ e = .raised error ∧ ws = [] ∧ l = .free
  valid := fun t => ∀ x ∈ t.run, x.consistent

end

/-! ## Methods as sequences of statements -/

/-- Statements that end in an answer or in an exception. -/
def Statements (α : Type) : Type :=
  Prog Sql Sql.Out (Except JournalError α)

namespace Statements

variable {α β : Type}

def bind (p : Prog Sql Sql.Out (Except JournalError α)) (f : α → Statements β) :
    Prog Sql Sql.Out (Except JournalError β) :=
  match p with
  | .ret (.ok a) => f a
  | .ret (.error e) => .ret (.error e)
  | .call q k => .call q fun r => bind (k r) f

instance : Monad Statements where
  pure a := Prog.ret (.ok a)
  bind p f := bind p f

theorem bind_pure (p : Prog Sql Sql.Out (Except JournalError α)) :
    bind p (fun a => .ret (.ok a)) = p := by
  induction p with
  | ret a =>
    cases a with
    | ok a => rfl
    | error e => rfl
  | call q k ih => exact congrArg (Prog.call q) (funext ih)

theorem bind_bind {γ : Type} (p : Prog Sql Sql.Out (Except JournalError α))
    (f : α → Statements β) (g : β → Statements γ) :
    bind (bind p f) g = bind p fun a => bind (f a) g := by
  induction p with
  | ret a =>
    cases a with
    | ok a => rfl
    | error e => rfl
  | call q k ih => exact congrArg (Prog.call q) (funext ih)

instance : LawfulMonad Statements :=
  LawfulMonad.mk' Statements (fun p => bind_pure p) (fun _ _ => rfl)
    (fun p f g => bind_bind p f g)

instance : MonadLift (Except JournalError) Statements where
  monadLift x := Prog.ret x

end Statements

def statement (q : Sql) : Statements q.Out :=
  Prog.call q fun r => .ret (.ok r)

section

variable (C : Codec)

/-- `_record_from_row`, of the row a select found. -/
def readRow (row : Option (ExecutionRow × Attempt)) (missing : JournalError) :
    Except JournalError ExecutionJournalRecord := do
  let row ← expect row missing
  recordFromRow C { toExecutionRow := row.1, attempts := [], recoveries := [] } row.2

def getStatements : Statements ExecutionJournalRecord := do
  let row ← statement (.selectCurrent false)
  readRow C row (.notFound "execution journal record not found")

def transitionStatements (clock : Clock) (key : AttemptKey) (expectedRevision : Nat)
    (t : Transition) : Statements ExecutionJournalRecord := do
  key.check "lease fence is outside the supported range"
  require (∀ code ∈ t.errorCode, boundedErrorCode code = true)
    (JournalError.invalid "execution error code is invalid")
  let row ← statement (.selectCurrent true)
  let current ← readRow C row (.notFound "execution journal record not found")
  require (current.heldBy key) (JournalError.conflict "execution transition used a stale lease")
  if current.state = .completed then
    pure current
  else if current.state = t.target ∧ current.revision = expectedRevision + 1
      ∧ current.errorCode = t.errorCode then
    pure current
  else do
    require (current.state ∈ t.allowedSource ∧ current.revision = expectedRevision)
      (JournalError.conflict "execution transition compare-and-swap failed")
    let updated ← statement (.updateAttempt key.leaseFence
      (fun a => decide (a.workerId = key.workerId ∧ a.leaseTokenDigest = key.leaseTokenDigest
        ∧ a.state = current.state ∧ a.revision = expectedRevision))
      (t.set clock.statement) clock.statement)
    require (updated = true) (JournalError.conflict "execution transition compare-and-swap failed")
    let row ← statement (.selectCurrent false)
    readRow C row (.integrity "transitioned execution could not be reread")

def bindStatements (key : AttemptKey) (expectedRevision : Nat) (i : BoundIdentity) :
    Statements ExecutionJournalRecord := do
  key.check "execution identity fence or revision is invalid"
  let identity ← expect (identityExact C i)
    (JournalError.conflict "execution environment identity is not exact canonical state")
  let row ← statement (.selectCurrent true)
  let current ← readRow C row (.notFound "execution journal record not found")
  require (current.heldBy key ∧ current.state = .publishing
      ∧ current.revision = expectedRevision)
    (JournalError.conflict "execution identity binding used a stale publishing attempt")
  require (identityBinds C identity current.request.stable current.planBytes current.planDigest)
    (JournalError.conflict "execution environment identity crosses its journaled execution")
  match current.identity with
  | some bound => do
    require (bound = i)
      (JournalError.conflict "execution environment identity differs from its binding")
    pure current
  | none => do
    let bound ← statement (.updateExecution
      (fun x => decide (x.highestLeaseFence = key.leaseFence ∧ x.completion = none
        ∧ x.identity = none
        ∧ ∃ a ∈ x.attempts, a.leaseFence = key.leaseFence ∧ a.workerId = key.workerId
          ∧ a.leaseTokenDigest = key.leaseTokenDigest ∧ a.state = .publishing
          ∧ a.revision = expectedRevision))
      (fun row => { row with identity := some i }))
    require (bound = true)
      (JournalError.conflict "execution identity binding compare-and-swap failed")
    let row ← statement (.selectCurrent false)
    readRow C row (.integrity "bound execution identity could not be reread")

def completeStatements (clock : Clock) (runId : Digest) (key : AttemptKey)
    (expectedRevision : Nat) (result : ControlRunExecutionResult) (receiptBytes : Bytes) :
    Statements ExecutionJournalRecord := do
  key.check "completion fence or revision is invalid"
  require (result.runId = runId ∧ result.leaseFence = key.leaseFence)
    (JournalError.conflict "executor result differs from execution lease")
  require (receiptExact C receiptBytes result.executorReceiptDigest)
    (JournalError.conflict "executor receipt bytes differ from the canonical result")
  let row ← statement (.selectCurrent true)
  let current ← readRow C row (.notFound "execution journal record not found")
  match current.result with
  | some stored => do
    require (stored = result ∧ current.state = .completed ∧ current.workerId = key.workerId
        ∧ current.leaseTokenDigest = key.leaseTokenDigest
        ∧ current.completion.map (·.2.executorReceiptBytes) = some receiptBytes)
      (JournalError.conflict "completed execution differs from requested result")
    pure current
  | none => do
    require (current.heldBy key ∧ current.state = .publishing
        ∧ current.revision = expectedRevision ∧ current.identity ≠ none)
      (JournalError.conflict "execution completion compare-and-swap failed")
    let outcome : Outcome :=
      ⟨result.evidenceDigest, result.executorReceiptDigest, receiptBytes⟩
    let attempt ← statement (.updateAttempt key.leaseFence
      (fun a => decide (a.workerId = key.workerId ∧ a.leaseTokenDigest = key.leaseTokenDigest
        ∧ a.state = .publishing ∧ a.revision = expectedRevision))
      (fun a => { a with
        state := .completed
        revision := a.revision + 1
        finishedAt := some clock.statement
        outcome := some outcome }) clock.statement)
    require (attempt = true)
      (JournalError.conflict "execution completion compare-and-swap failed")
    let execution ← statement (.updateExecution
      (fun x => decide (x.highestLeaseFence = key.leaseFence ∧ x.completion = none))
      (fun row => { row with completion := some (key.leaseFence, outcome) }))
    require (execution = true)
      (JournalError.conflict "logical execution completion was already claimed")
    let row ← statement (.selectCurrent false)
    readRow C row (.integrity "completed execution could not be reread")

/-- What `prepare` does when its first select finds no row. -/
def insertRunStatements (clock : Clock) (request : ControlRunExecutionRequest)
    (key : AttemptKey) (plan : Option Bytes) : Statements (Option (ExecutionRow × Attempt)) := do
  let plan ← expect plan
    (JournalError.notFound "new execution requires a frozen execution plan")
  let inserted ← statement (.insertExecution
    { request := request.stable
      planDigest := C.sha plan
      planBytes := plan
      identity := none
      highestLeaseFence := request.leaseFence
      highestAttemptCount := request.attemptCount
      completion := none })
  if inserted = true then do
    let _ ← statement (.insertAttempt (newAttempt request.attemptCount key) clock.transaction)
    statement (.selectCurrent true)
  else
    statement (.selectCurrent true)

/-- The unfinished attempt of the lower fence becomes `uncertain`. -/
def supersedeStatements (clock : Clock) (current : ExecutionJournalRecord) :
    Statements Unit :=
  if current.state = .prepared ∨ current.state = .publishing then do
    let superseded ← statement (.updateAttempt current.request.leaseFence
      (fun a => decide (a.state = current.state ∧ a.revision = current.revision))
      (fun a => { a with
        state := .uncertain
        revision := a.revision + 1
        finishedAt := some clock.statement
        errorCode := some "lease-superseded" }) clock.statement)
    require (superseded = true)
      (JournalError.conflict "execution recovery compare-and-swap failed")
  else
    pure ()

def takeOverStatements (clock : Clock) (request : ControlRunExecutionRequest)
    (key : AttemptKey) (current : ExecutionJournalRecord) :
    Statements ExecutionJournalRecord := do
  require (current.request.attemptCount < request.attemptCount)
    (JournalError.conflict "execution attempt count did not advance")
  require (¬(current.state = .publishing ∧ current.identity ≠ none))
    (JournalError.conflict "identity-bound publishing execution requires reconciliation")
  supersedeStatements clock current
  let advanced ← statement (.updateExecution
    (fun x => decide (x.highestLeaseFence = current.highestLeaseFence
      ∧ x.highestAttemptCount = current.request.attemptCount ∧ x.completion = none))
    (fun row => { row with
      highestLeaseFence := request.leaseFence
      highestAttemptCount := request.attemptCount }))
  require (advanced = true)
    (JournalError.conflict "execution fence advance compare-and-swap failed")
  let _ ← statement (.insertAttempt (newAttempt request.attemptCount key) clock.transaction)
  let row ← statement (.selectCurrent false)
  readRow C row (.integrity "recovered execution could not be reread")

/-- What `prepare` does with the row it holds the lock of. -/
def prepareFound (clock : Clock) (request : ControlRunExecutionRequest) (key : AttemptKey)
    (plan : Option Bytes) (row : Option (ExecutionRow × Attempt)) :
    Statements ExecutionJournalRecord := do
  let current ← readRow C row (.integrity "prepared execution could not be reread")
  require (current.request.stable = request.stable)
    (JournalError.conflict "execution request differs from immutable journal identity")
  require (∀ p ∈ plan, p = current.planBytes)
    (JournalError.conflict "execution plan differs from immutable journal identity")
  require (current.highestLeaseFence ≤ request.leaseFence)
    (JournalError.conflict "execution lease fence is stale")
  if current.state = .completed then
    pure current
  else if request.leaseFence = current.highestLeaseFence then do
    require (current.request.attemptCount = request.attemptCount ∧ current.heldBy key)
      (JournalError.conflict "execution attempt identity differs from its lease")
    pure current
  else
    takeOverStatements C clock request key current

def prepareStatements (clock : Clock) (request : ControlRunExecutionRequest)
    (workerId : String) (leaseTokenDigest : Digest) (plan : Option Bytes) :
    Statements ExecutionJournalRecord := do
  require (portableId workerId = true)
    (JournalError.invalid "worker id is not a portable identifier")
  require (∀ p ∈ plan, 2 ≤ p.length ∧ p.length ≤ 2097152)
    (JournalError.invalid "execution plan bytes are outside the supported range")
  require (∀ p ∈ plan, C.verifyPlan request.stable p ≠ none)
    (JournalError.invalid "execution plan is invalid")
  let key : AttemptKey := ⟨request.leaseFence, workerId, leaseTokenDigest⟩
  match ← statement (.selectCurrent true) with
  | some row => prepareFound C clock request key plan (some row)
  | none => do
    let row ← insertRunStatements C clock request key plan
    prepareFound C clock request key plan row

/-! ### Recovery -/

/-- An error of the routine is reported as a consumption that could not be made. -/
def routineError : JournalError := (RecoveryError.consumptionUnavailable).reported

/-- `consume_publishing_recovery_authorization`. -/
def consumeStatements (r : RecoveryRow) (clock : Clock) (databaseSecond : Time) :
    Statements Unit := do
  require (r.bindingHolds C databaseSecond) routineError
  let inserted ← statement (.insertRecovery r)
  require (inserted = true) (RecoveryError.authorizationConsumed).reported
  let execution ← statement .lockExecution
  require (∃ row ∈ execution,
    RunJournal.namedBy { toExecutionRow := row, attempts := [], recoveries := [] } r) routineError
  let attempt ← statement (.lockAttempt r.abandoned.leaseFence)
  require (∃ a ∈ attempt, a.abandonedIn r) routineError
  let retired ← statement (.updateAttempt r.abandoned.leaseFence
    (fun a => decide (a.attemptCount = r.abandoned.attemptCount
      ∧ a.workerId = r.abandoned.workerId ∧ a.leaseTokenDigest = r.abandoned.leaseTokenDigest
      ∧ a.state = .publishing ∧ a.revision = 1
      ∧ a.publishingAt = some r.abandoned.publishingAt))
    (fun a => { a with
      state := .uncertain
      revision := a.revision + 1
      finishedAt := some r.consumedAt
      errorCode := some "recovery-superseded" }) clock.statement)
  require (retired = true) routineError
  let advanced ← statement (.updateExecution
    (fun x => decide (x.highestLeaseFence = r.abandoned.leaseFence
      ∧ x.highestAttemptCount = r.abandoned.attemptCount
      ∧ x.planDigest = r.authorization.executionPlanDigest
      ∧ x.identity.map (·.digest) = some r.authorization.executionIdentityDigest
      ∧ x.completion = none))
    (fun row => { row with
      highestLeaseFence := r.successor.leaseFence
      highestAttemptCount := r.successor.attemptCount }))
  require (advanced = true) routineError
  statement (.insertAttempt r.successorAttempt clock.transaction)

def recoverStatements (clock : RecoveryClock) (pins : RecoveryPins)
    (expectation : JournalExpectation) (value : Bytes) : Statements ExecutionJournalRecord := do
  let row ← statement (.selectCurrent false)
  let current ← readRow C row (.notFound "execution journal record not found")
  require (current.expectedBy expectation.1) (JournalError.conflict
    "publishing recovery expectation differs from current durable state")
  let r ← authorizeRecovery C pins expectation clock.recoveryNow value
  consumeStatements C r clock.toClock clock.databaseSecond
  let row ← statement (.selectCurrent false)
  let record ← readRow C row (.integrity "recovered execution could not be reread")
  require (record.succeeds expectation.1)
    (JournalError.integrity "publishing recovery routine returned a substituted successor")
  pure record

/-- The statements of a call. -/
def JournalCall.statements (clock : RecoveryClock) :
    JournalCall → Statements ExecutionJournalRecord
  | .prepare request workerId token plan =>
    prepareStatements C clock.toClock request workerId token plan
  | .get => getStatements C
  | .beginPublishing key revision => transitionStatements C clock.toClock key revision .publishing
  | .bindExecutionIdentity key revision i => bindStatements C key revision i
  | .markFailed key revision code =>
    transitionStatements C clock.toClock key revision (.failed code)
  | .markUncertain key revision code =>
    transitionStatements C clock.toClock key revision (.uncertain code)
  | .markCompleted runId key revision result receipt =>
    completeStatements C clock.toClock runId key revision result receipt
  | .recover pins expectation value => recoverStatements C clock pins expectation value

end

/-- How the `except` clauses of a method report a failed statement or commit: what is among
`_CONFLICT_SQLSTATES` is a conflict. -/
def SqlFailure.reportedAs (rejected unknown : String) : SqlFailure → JournalError
  | .raised _ => .conflict rejected
  | .canceled => .conflict rejected
  | .cut => .outcomeUnknown unknown

def JournalCall.report : JournalCall → Option Sql → SqlFailure → JournalError
  | .prepare .., _ => SqlFailure.reportedAs "execution preparation was rejected"
      "execution preparation outcome is unknown"
  | .get, _ => fun _ => .unavailable "execution journal read is unavailable"
  | .bindExecutionIdentity .., _ => SqlFailure.reportedAs "execution identity binding was rejected"
      "execution identity binding outcome is unknown"
  | .beginPublishing .., _ => SqlFailure.reportedAs "execution transition was rejected"
      "execution transition outcome is unknown"
  | .markFailed .., _ => SqlFailure.reportedAs "execution transition was rejected"
      "execution transition outcome is unknown"
  | .markUncertain .., _ => SqlFailure.reportedAs "execution transition was rejected"
      "execution transition outcome is unknown"
  | .markCompleted .., _ => SqlFailure.reportedAs "execution completion was rejected"
      "execution completion outcome is unknown"
  -- what fails inside `consume_once` is reported by the verification
  | .recover .., some (.selectCurrent _) | .recover .., none =>
    SqlFailure.reportedAs "publishing recovery transaction was rejected"
      "publishing recovery transaction outcome is unknown"
  | .recover .., _ => fun _ => routineError

end ControlAssurance.Execution
