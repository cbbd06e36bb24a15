import ControlAssurance.Execution.JournalInvariant
import ControlAssurance.Lib.Owned

/-!
# `DurableControlRunExecutor`

`ensure_executed` of `runtime/executor.py` as a client of the journal, of the clock and the
entropy source of its process, of the environment provider and of the publisher. Each of
those is a call; between two calls any other worker may run, and the process may die. The
publisher is two calls, its invocation and its return, so that an invocation that is under
way is a place in the program.

A journal call is one transaction, with three answers besides its own: it raised without a
change (a lost connection, a lock timeout, a deadlock), it raised and the database had
committed, or it is refused.
-/

namespace ControlAssurance.Execution

open Lib
open Admission (Bytes)
open ControlAssurance.Runtime (ControlRunExecutionResult)

/-! ## What the executor is given -/

/-- An exception of the environment provider or of the publisher, as far as
`_publication_failure` looks at it. -/
inductive Raised where
  /-- a `TypeError` or a `ValueError` -/
  | value
  /-- any other, with its `stage` when it has a text there -/
  | other (stage : Option String)
deriving DecidableEq

/-- The public part of a `PreparedExecutionEnvironment`; the handles are used only by the
publisher. -/
structure PreparedExecutionEnvironment (C : Codec) where
  identity : BoundIdentity
  /-- `__post_init__` -/
  exact : C.parseIdentity identity.bytes ≠ none ∧ C.sha identity.bytes = identity.digest

/-- What the executor reads of a `ManagedEvidencePublication`. -/
structure ManagedEvidencePublication where
  runId : Digest
  artifactSetId : Digest
  custodyScopeId : Digest
  executorReceiptId : Digest
  evidenceDigest : Digest
  executorReceiptDigest : Digest
  executorReceiptBytes : Bytes
deriving DecidableEq

/-- One invocation of the publisher: for which attempt, with which plan and identity. -/
structure Invocation where
  key : AttemptKey
  request : ControlRunExecutionRequest
  planBytes : Bytes
  identity : BoundIdentity
deriving DecidableEq

/-- A configured executor. -/
structure Executor where
  workerId : String
  sourceRevision : String
  portable : portableId workerId = true
  bounded : 1 ≤ sourceRevision.length ∧ sourceRevision.length ≤ 256

/-- What an executor calls. -/
inductive ExecutorCall where
  | journal (call : JournalCall)
  | nonceBytes
  | now
  | prepareEnvironment (key : AttemptKey) (request : ControlRunExecutionRequest)
      (planBytes : Bytes) (expectedIdentity : Option Bytes)
  /-- the publisher is invoked -/
  | publish (i : Invocation)
  /-- and returns or raises -/
  | published (i : Invocation)
  /-- the journal call that records how invocation `i` ended -/
  | record (i : Invocation) (call : JournalCall)
  /-- `get` after a completion that may or may not have been recorded -/
  | confirm (i : Invocation)

def ExecutorCall.Answer (C : Codec) : ExecutorCall → Type
  | .journal _ => Except JournalError ExecutionJournalRecord
  | .nonceBytes => Bytes
  | .now => Option Time
  | .prepareEnvironment .. => Except Raised (PreparedExecutionEnvironment C)
  | .publish _ => Unit
  | .published _ => Except Raised ManagedEvidencePublication
  | .record _ _ => Except JournalError ExecutionJournalRecord
  | .confirm _ => Except JournalError ExecutionJournalRecord

/-- `ControlRunExecutionError`, `ControlRunOutcomeUnknown`, or a journal exception that
nothing catches. -/
inductive ExecutorError where
  | failed (code : String) (retryable : Bool)
  | outcomeUnknown (code : String)
  | uncaught (e : JournalError)
deriving DecidableEq

abbrev ExecutorResult := Except ExecutorError ControlRunExecutionResult

/-- A run of `ensure_executed` from some point on. -/
abbrev ExecutorProg (C : Codec) := Prog ExecutorCall (ExecutorCall.Answer C) ExecutorResult

/-! ## Failures -/

/-- `_STAGE_RE`. -/
def boundedStage (stage : String) : Bool :=
  match stage.toList with
  | [] => false
  | c :: cs => c.isLower && decide (cs.length ≤ 39)
      && cs.all fun c => c.isLower || c.isDigit || c = '-'

/-- `_INTEGRITY_STAGES`. -/
def integrityStages : List String :=
  ["authorization", "configuration", "descriptor", "execution-identity", "input", "integrity",
    "job", "plan", "profile", "request", "snapshot", "source-binding", "source-registration",
    "source-registry", "custody-runtime", "verification"]

/-- `_publication_failure`. -/
def publicationFailure : Raised → String × Bool
  | .value => ("executor-publication-integrity", false)
  | .other none => ("executor-publication-unknown", true)
  | .other (some stage) =>
    if boundedStage stage = true then
      ("executor-" ++ stage, !integrityStages.contains stage)
    else
      ("executor-publication-unknown", true)

def raise {C : Codec} (e : ExecutorError) : ExecutorProg C := .ret (.error e)

def journalIntegrity : ExecutorError := .failed "executor-journal-integrity" false

def journalOutcomeUnknown : ExecutorError := .outcomeUnknown "executor-journal-outcome-unknown"

/-- The exceptions of `_prepare`, as `ensure_executed` reports them. -/
def prepareFailed : JournalError → ExecutorError
  | .integrity _ => journalIntegrity
  | .conflict _ => .failed "executor-journal-conflict" true
  | .outcomeUnknown _ => journalOutcomeUnknown
  | .unavailable _ => journalOutcomeUnknown
  | .notFound text => .uncaught (.notFound text)
  | .invalid text => .uncaught (.invalid text)

/-- The exceptions of `mark_failed` and `mark_uncertain`. -/
def markFailure : JournalError → ExecutorError
  | .conflict _ => journalOutcomeUnknown
  | .outcomeUnknown _ => journalOutcomeUnknown
  | .unavailable _ => journalOutcomeUnknown
  | .integrity text => .uncaught (.integrity text)
  | .notFound text => .uncaught (.notFound text)
  | .invalid text => .uncaught (.invalid text)

/-- The exceptions of the two reads after a `begin_publishing` of unknown outcome. -/
def beginRereadFailed : JournalError → ExecutorError
  | .conflict _ => journalOutcomeUnknown
  | .integrity _ => journalOutcomeUnknown
  | .notFound _ => journalOutcomeUnknown
  | .unavailable _ => journalOutcomeUnknown
  | .outcomeUnknown text => .uncaught (.outcomeUnknown text)
  | .invalid text => .uncaught (.invalid text)

/-- The exceptions of a read that catches three of them and reports `e`. -/
def readFailed (e : ExecutorError) : JournalError → ExecutorError
  | .integrity _ => e
  | .notFound _ => e
  | .unavailable _ => e
  | .conflict text => .uncaught (.conflict text)
  | .outcomeUnknown text => .uncaught (.outcomeUnknown text)
  | .invalid text => .uncaught (.invalid text)

/-! ## `ensure_executed` -/

section

variable (C : Codec) (e : Executor) (request : ControlRunExecutionRequest)

/-- The fence of the request, the worker and `_attempt_token_digest`. -/
def attemptKey : AttemptKey :=
  ⟨request.leaseFence, e.workerId,
    C.attemptToken request.leaseFence request.stable.runId request.stable.tenantId e.workerId⟩

/-- `_new_plan`. -/
def newPlan (k : Bytes → ExecutorProg C) : ExecutorProg C :=
  .call .nonceBytes fun (nonce : Bytes) =>
    if nonce.length = 32 then
      .call .now fun (time : Option Time) =>
        match time with
        | none => raise (.failed "executor-clock-invalid" false)
        | some preparedAt =>
          match C.createPlan request.stable nonce preparedAt e.sourceRevision with
          | none => raise (.failed "executor-plan-invalid" false)
          | some plan => k plan
    else
      raise (.failed "executor-entropy-invalid" false)

/-- The journal's `prepare` for this request. -/
def prepareCall (plan : Option Bytes) : JournalCall :=
  .prepare request e.workerId (attemptKey C e request).leaseTokenDigest plan

/-- `_prepare`, with the exceptions `ensure_executed` maps. -/
def prepareRecord (k : ExecutionJournalRecord → ExecutorProg C) : ExecutorProg C :=
  .call (.journal (prepareCall C e request none))
    fun (r : Except JournalError ExecutionJournalRecord) =>
      match r with
      | .ok record => k record
      | .error (.notFound _) =>
        newPlan C e request fun plan =>
          .call (.journal (prepareCall C e request (some plan)))
            fun (r : Except JournalError ExecutionJournalRecord) =>
              match r with
              | .ok record => k record
              | .error (.conflict _) =>
                -- another worker won the insert, and only its plan counts
                .call (.journal (prepareCall C e request none))
                  fun (r : Except JournalError ExecutionJournalRecord) =>
                    match r with
                    | .ok record => k record
                    | .error err => raise (prepareFailed err)
              | .error err => raise (prepareFailed err)
      | .error err => raise (prepareFailed err)

/-- `_result_for_request`. -/
def resultForRequest (record : ExecutionJournalRecord) : ExecutorResult :=
  match record.completion with
  | none => .error journalIntegrity
  | some c =>
    if C.sha c.2.executorReceiptBytes = c.2.executorReceiptDigest then
      .ok ⟨request.stable.runId, request.leaseFence, c.2.evidenceDigest,
        c.2.executorReceiptDigest⟩
    else
      .error journalIntegrity

/-- `_mark_prepublication_failure`, and the exception raised after it. -/
def markPrepublicationFailure (record : ExecutionJournalRecord) (code : String)
    (after : ExecutorError) : ExecutorProg C :=
  .call (.journal (.markFailed (attemptKey C e request) record.revision code))
    fun (r : Except JournalError ExecutionJournalRecord) =>
      match r with
      | .ok _ => raise after
      | .error err => raise (markFailure err)

/-- `_mark_publication_uncertain`, and the exception raised after it. -/
def markPublicationUncertain (i : Invocation) (record : ExecutionJournalRecord)
    (code : String) (after : ExecutorError) : ExecutorProg C :=
  .call (.record i (.markUncertain (attemptKey C e request) record.revision code))
    fun (r : Except JournalError ExecutionJournalRecord) =>
      match r with
      | .ok _ => raise after
      | .error err => raise (markFailure err)

/-- A plan this executor cannot run: a prepared attempt is recorded as failed. -/
def refusePlan (record : ExecutionJournalRecord) (code : String) : ExecutorProg C :=
  if record.state = .prepared then
    markPrepublicationFailure C e request record code (.failed code false)
  else
    raise (.failed code false)

/-- The answer of a completed execution that was read back: `_reread_completed` compares the
receipt with the one just published. -/
def confirmed (receiptBytes : Bytes) (current : ExecutionJournalRecord)
    (unfinished : ExecutorError) : ExecutorProg C :=
  if current.state ≠ .completed then
    raise unfinished
  else if current.completion.map (·.2.executorReceiptBytes) ≠ some receiptBytes then
    raise (.failed "executor-result-conflict" false)
  else
    .ret (resultForRequest C request current)

/-- `mark_completed` and what follows from its answers. -/
def complete (i : Invocation) (record : ExecutionJournalRecord)
    (publication : ManagedEvidencePublication) : ExecutorProg C :=
  .call (.record i (.markCompleted request.stable.runId (attemptKey C e request) record.revision
      ⟨request.stable.runId, request.leaseFence, publication.evidenceDigest,
        publication.executorReceiptDigest⟩ publication.executorReceiptBytes))
    fun (r : Except JournalError ExecutionJournalRecord) =>
      match r with
      | .ok completed =>
        if completed.state = .completed then
          .ret (resultForRequest C request completed)
        else
          raise journalOutcomeUnknown
      | .error (.outcomeUnknown _) =>
        .call (.confirm i) fun (r : Except JournalError ExecutionJournalRecord) =>
          match r with
          | .ok current =>
            confirmed C request publication.executorReceiptBytes current journalOutcomeUnknown
          | .error err => raise (readFailed journalOutcomeUnknown err)
      | .error (.conflict _) =>
        .call (.confirm i) fun (r : Except JournalError ExecutionJournalRecord) =>
          match r with
          | .ok current =>
            confirmed C request publication.executorReceiptBytes current
              (.failed "executor-result-conflict" false)
          | .error err => raise (readFailed (.failed "executor-result-conflict" false) err)
      | .error (.integrity _) => raise journalIntegrity
      | .error (.unavailable _) => raise journalOutcomeUnknown
      | .error err => raise (.uncaught err)

/-- The publication is the one the frozen plan names. -/
def publicationWithin (plan : ExecutionPlan) (publication : ManagedEvidencePublication) :
    Prop :=
  publication.runId = request.stable.runId ∧ publication.artifactSetId = plan.artifactSetId
    ∧ publication.custodyScopeId = plan.custodyScopeId
    ∧ publication.executorReceiptId = plan.executorReceiptId
    ∧ C.sha publication.executorReceiptBytes = publication.executorReceiptDigest

instance (plan : ExecutionPlan) (publication : ManagedEvidencePublication) :
    Decidable (publicationWithin C request plan publication) := by
  delta publicationWithin; infer_instance

/-- The publisher's answer, and the `ValueError` of one outside the boundary. -/
def checkPublication (plan : ExecutionPlan) (answer : Except Raised ManagedEvidencePublication) :
    Except Raised ManagedEvidencePublication := do
  let publication ← answer
  require (publicationWithin C request plan publication) Raised.value
  pure publication

/-- The publisher is invoked, and how it ended is recorded. -/
def publishEvidence (plan : ExecutionPlan) (record : ExecutionJournalRecord) (i : Invocation) :
    ExecutorProg C :=
  .call (.publish i) fun (_ : Unit) =>
    .call (.published i) fun (answer : Except Raised ManagedEvidencePublication) =>
      match checkPublication C request plan answer with
      | .error raised =>
        markPublicationUncertain C e request i record (publicationFailure raised).1
          (.failed (publicationFailure raised).1 (publicationFailure raised).2)
      | .ok publication => complete C e request i record publication

/-- What follows once the identity is bound. -/
def publishBound (planBytes : Bytes) (plan : ExecutionPlan) (i : BoundIdentity)
    (bound : ExecutionJournalRecord) : ExecutorProg C :=
  if ¬(bound.identity = some i ∧ (bound.state = .publishing ∨ bound.state = .completed)) then
    raise (.failed "executor-identity-conflict" false)
  else if bound.state = .completed then
    .ret (resultForRequest C request bound)
  else
    publishEvidence C e request plan bound ⟨attemptKey C e request, request, planBytes, i⟩

/-- The record that was read back is that of this attempt with this identity. -/
def boundHere (i : BoundIdentity) (current : ExecutionJournalRecord) : Prop :=
  (current.state = .publishing ∨ current.state = .completed)
    ∧ current.heldBy (attemptKey C e request) ∧ current.identity = some i

instance (i : BoundIdentity) (current : ExecutionJournalRecord) :
    Decidable (boundHere C e request i current) := by
  delta boundHere; infer_instance

/-- The read after a binding that failed or whose outcome is unknown. -/
def rereadBinding (planBytes : Bytes) (plan : ExecutionPlan) (i : BoundIdentity)
    (elsewhere : ExecutorError) : ExecutorProg C :=
  .call (.journal .get) fun (r : Except JournalError ExecutionJournalRecord) =>
    match r with
    | .ok current =>
      if boundHere C e request i current then
        publishBound C e request planBytes plan i current
      else
        raise elsewhere
    | .error err => raise (readFailed (.outcomeUnknown "executor-identity-outcome-unknown") err)

/-- `_bind_execution_environment`. -/
def bindExecutionEnvironment (planBytes : Bytes) (plan : ExecutionPlan)
    (record : ExecutionJournalRecord) (i : BoundIdentity) : ExecutorProg C :=
  .call (.journal (.bindExecutionIdentity (attemptKey C e request) record.revision i))
    fun (r : Except JournalError ExecutionJournalRecord) =>
      match r with
      | .ok bound => publishBound C e request planBytes plan i bound
      | .error (.outcomeUnknown _) =>
        rereadBinding C e request planBytes plan i
          (.outcomeUnknown "executor-identity-outcome-unknown")
      | .error (.conflict _) =>
        rereadBinding C e request planBytes plan i (.failed "executor-identity-conflict" false)
      | .error (.integrity _) => raise journalIntegrity
      | .error (.unavailable _) =>
        raise (.outcomeUnknown "executor-identity-outcome-unknown")
      | .error err => raise (.uncaught err)

/-- `_validate_environment`. -/
def environmentWithin (planBytes : Bytes) (plan : ExecutionPlan)
    (expectedIdentity : Option Bytes) (environment : PreparedExecutionEnvironment C) : Prop :=
  ∃ identity ∈ C.parseIdentity environment.identity.bytes,
    identity.runId = request.stable.runId ∧ identity.tenantId = request.stable.tenantId
      ∧ identity.controlId = request.stable.controlId
      ∧ identity.configurationDigest = request.stable.configurationDigest
      ∧ identity.executionPlanDigest = C.sha planBytes
      ∧ identity.sourceRevision = plan.sourceRevision
      ∧ C.sha environment.identity.bytes = environment.identity.digest
      ∧ ∀ expected ∈ expectedIdentity, environment.identity.bytes = expected

instance (planBytes : Bytes) (plan : ExecutionPlan) (expectedIdentity : Option Bytes)
    (environment : PreparedExecutionEnvironment C) :
    Decidable (environmentWithin C request planBytes plan expectedIdentity environment) := by
  delta environmentWithin; infer_instance

/-- The provider's answer, and the `ValueError` of an environment outside the boundary. -/
def checkEnvironment (planBytes : Bytes) (plan : ExecutionPlan)
    (expectedIdentity : Option Bytes)
    (answer : Except Raised (PreparedExecutionEnvironment C)) :
    Except Raised (PreparedExecutionEnvironment C) := do
  let environment ← answer
  require (environmentWithin C request planBytes plan expectedIdentity environment) Raised.value
  pure environment

/-- From a publishing record to the binding of its environment. -/
def prepareEnvironment (planBytes : Bytes) (plan : ExecutionPlan)
    (record : ExecutionJournalRecord) : ExecutorProg C :=
  .call (.prepareEnvironment (attemptKey C e request) request planBytes
      (record.identity.map (·.bytes)))
    fun (answer : Except Raised (PreparedExecutionEnvironment C)) =>
      match checkEnvironment C request planBytes plan (record.identity.map (·.bytes)) answer with
      | .error raised =>
        markPrepublicationFailure C e request record (publicationFailure raised).1
          (.failed (publicationFailure raised).1 (publicationFailure raised).2)
      | .ok environment =>
        bindExecutionEnvironment C e request planBytes plan record environment.identity

/-- What follows once the attempt has begun to publish. -/
def publishing (planBytes : Bytes) (plan : ExecutionPlan) (record : ExecutionJournalRecord) :
    ExecutorProg C :=
  match record.state with
  | .completed => .ret (resultForRequest C request record)
  | .publishing => prepareEnvironment C e request planBytes plan record
  | _ => raise (.outcomeUnknown "executor-recovery-required")

/-- The reads after a `begin_publishing` of unknown outcome. -/
def rereadBegun (planBytes : Bytes) (plan : ExecutionPlan) : ExecutorProg C :=
  .call (.journal .get) fun (r : Except JournalError ExecutionJournalRecord) =>
    match r with
    | .ok current =>
      if current.state = .completed then
        .ret (resultForRequest C request current)
      else
        .call (.journal .get) fun (r : Except JournalError ExecutionJournalRecord) =>
          match r with
          | .ok record => publishing C e request planBytes plan record
          | .error err => raise (beginRereadFailed err)
    | .error err => raise (beginRereadFailed err)

/-- A prepared attempt begins to publish; a publishing one goes on. -/
def beginPublication (planBytes : Bytes) (plan : ExecutionPlan) (record : ExecutionJournalRecord) :
    ExecutorProg C :=
  if record.state = .prepared then
    .call (.journal (.beginPublishing (attemptKey C e request) record.revision))
      fun (r : Except JournalError ExecutionJournalRecord) =>
        match r with
        | .ok record => publishing C e request planBytes plan record
        | .error (.outcomeUnknown _) => rereadBegun C e request planBytes plan
        | .error (.conflict _) => raise (.failed "executor-journal-conflict" true)
        | .error (.integrity _) => raise journalIntegrity
        | .error (.unavailable _) => raise journalOutcomeUnknown
        | .error err => raise (.uncaught err)
  else
    publishing C e request planBytes plan record

/-- The checks of the stored plan before anything begins. -/
def withPlan (record : ExecutionJournalRecord) : ExecutorProg C :=
  match C.verifyPlan request.stable record.planBytes with
  | none => raise journalIntegrity
  | some plan =>
    if plan.sourceRevision ≠ e.sourceRevision then
      refusePlan C e request record "executor-revision-mismatch"
    else
      .call .now fun (time : Option Time) =>
        match time with
        | none => raise (.failed "executor-clock-invalid" false)
        | some now =>
          if plan.custodyRetainUntil ≤ now then
            refusePlan C e request record "executor-plan-expired"
          else
            beginPublication C e request record.planBytes plan record

/-- `ensure_executed`. -/
def ensureExecuted : ExecutorProg C :=
  prepareRecord C e request fun record =>
    match record.state with
    | .completed => .ret (resultForRequest C request record)
    | .uncertain => raise (.outcomeUnknown "executor-recovery-required")
    | .failed =>
      raise (.failed (record.errorCode.getD "executor-attempt-failed") true)
    | .prepared => withPlan C e request record
    | .publishing => withPlan C e request record

end

/-! ## The system -/

/-- The journal's rows of the run, and every invocation of the publisher so far. -/
structure World where
  journal : Option RunJournal
  invoked : List Invocation

/-- An exception that says nothing about the rows. -/
def JournalError.external : JournalError → Bool
  | .conflict _ | .integrity _ | .unavailable _ | .outcomeUnknown _ => true
  | .notFound _ | .invalid _ => false

/-- What a journal call can answer and leave behind. -/
inductive JournalAnswer (C : Codec) (call : JournalCall) (s : Option RunJournal) :
    Except JournalError ExecutionJournalRecord → Option RunJournal → Prop
  | done {clock x' r} (h : call.run C clock s = .ok (x', r)) :
      JournalAnswer C call s (.ok r) (some x')
  | refused {clock err} (h : call.run C clock s = .error err) :
      JournalAnswer C call s (.error err) s
  /-- the commit went through and its answer was lost -/
  | lost {clock x' r text} (h : call.run C clock s = .ok (x', r)) :
      JournalAnswer C call s (.error (.outcomeUnknown text)) (some x')
  | interrupted {err} (h : err.external = true) : JournalAnswer C call s (.error err) s

/-- A journal call in the world. -/
def World.journalCall (C : Codec) (call : JournalCall) (w : World)
    (r : Except JournalError ExecutionJournalRecord) (w' : World) : Prop :=
  JournalAnswer C call w.journal r w'.journal ∧ w'.invoked = w.invoked

/-- What each call does. The clock, the entropy source, the environment provider and the
publisher answer anything. -/
def World.exec (C : Codec) : (c : ExecutorCall) → World → c.Answer C → World → Prop
  | .journal call, w, r, w' => w.journalCall C call r w'
  | .record _ call, w, r, w' => w.journalCall C call r w'
  | .confirm _, w, r, w' => w.journalCall C .get r w'
  | .nonceBytes, w, _, w' => w' = w
  | .now, w, _, w' => w' = w
  | .prepareEnvironment .., w, _, w' => w' = w
  | .publish i, w, _, w' => w' = { w with invoked := w.invoked ++ [i] }
  | .published _, w, _, w' => w' = w

/-- The name under which an executor call runs: the worker and the lease fence. -/
abbrev ClientName := String × Nat

/-- The calls of `ensure_executed` for one run. -/
def Started (C : Codec) (tenantId : String) (runId : Digest) (name : ClientName)
    (p : ExecutorProg C) : Prop :=
  ∃ e request, name = (e.workerId, request.leaseFence) ∧ request.stable.tenantId = tenantId
    ∧ request.stable.runId = runId ∧ p = ensureExecuted C e request

end ControlAssurance.Execution
