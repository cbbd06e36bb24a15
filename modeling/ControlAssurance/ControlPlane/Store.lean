import ControlAssurance.Lib.Checked
import ControlAssurance.Lib.Table
import ControlAssurance.ControlPlane.Models

/-!
# The SQLite control-plane store

`SQLiteControlPlaneStore` as a state machine over its five tables. Each
writing method of the class is one `BEGIN IMMEDIATE … COMMIT` transaction;
here it is a function from the tables to either the new tables with the
answer or the exception, and an exception leaves the tables as they were
(`StoreCall.exec`). Triggers, `CHECK`s, keys and the partial unique index are
part of the statements that fire them (`insertOperation`, `updateOperations`):
a violation is `sqlite3.IntegrityError`, which each method reports under its
own text.

Timestamps are stored as fixed-width ISO texts; on the four-digit years the
row parser accepts, their text order is the order of the instants, so columns
hold `Time` and SQL comparisons are comparisons of times.
-/

namespace ControlAssurance.ControlPlane

open Lib

inductive ControlPlaneError where
  | authorization (message : String)
  | notFound (message : String)
  | conflict (message : String)
  | integrity (message : String)
  | value (message : String)
  | sqliteIntegrity (message : String)
deriving DecidableEq

structure Store where
  revisions : List ConfigurationRevision
  decisions : List ApprovalDecision
  deployments : List ActiveDeployment
  operations : List DeploymentOperation
  audit : List AuditEvent
deriving DecidableEq

def Store.empty : Store := ⟨[], [], [], [], []⟩

def genesisDigest : Digest := 0

/-! ## Reading rows -/

section

variable (sha : Document → Digest)

/-- `_revision`: a stored row is validated on every read. -/
def readRevision (r : ConfigurationRevision) :
    Except ControlPlaneError ConfigurationRevision := do
  require (r.valid sha = true) (.integrity "stored revision failed validation")
  pure r

/-- `_operation`. -/
def readOperation (op : DeploymentOperation) :
    Except ControlPlaneError DeploymentOperation := do
  require (op.valid sha = true)
    (.integrity "stored deployment operation failed validation")
  pure op

end

/-- `SELECT … WHERE tenant_id = ? AND revision_id = ?`. -/
def Store.revisionRow (st : Store) (tenantId : String) (revisionId : Digest) :
    Option ConfigurationRevision :=
  st.revisions.find? fun r => decide (r.tenantId = tenantId ∧ r.revisionId = revisionId)

/-- `SELECT … WHERE tenant_id = ? AND operation_id = ?`. -/
def Store.operationRow (st : Store) (tenantId : String) (operationId : Digest) :
    Option DeploymentOperation :=
  st.operations.find? fun op =>
    decide (op.tenantId = tenantId ∧ op.operationId = operationId)

def Store.deploymentRow (st : Store) (tenantId controlId : String) :
    Option ActiveDeployment :=
  st.deployments.find? fun d => decide (d.tenantId = tenantId ∧ d.controlId = controlId)

/-- The operations of one control. -/
def Store.controlOperations (st : Store) (tenantId controlId : String) :
    List DeploymentOperation :=
  st.operations.filter fun op =>
    decide (op.tenantId = tenantId ∧ op.controlId = controlId)

/-- `ORDER BY generation DESC LIMIT 1`. -/
def Store.latestRevision (st : Store) (tenantId controlId : String) :
    Option ConfigurationRevision :=
  firstBy (fun a b => decide (b.generation ≤ a.generation))
    (st.revisions.filter fun r =>
      decide (r.tenantId = tenantId ∧ r.controlId = controlId))

/-- `ORDER BY operation_sequence DESC LIMIT 1`. -/
def latestBySequence (ops : List DeploymentOperation) : Option DeploymentOperation :=
  firstBy (fun a b => decide (b.operationSequence ≤ a.operationSequence)) ops

/-- The control's applied operation of highest sequence. -/
def Store.latestApplied (st : Store) (tenantId controlId : String) :
    Option DeploymentOperation :=
  latestBySequence
    ((st.controlOperations tenantId controlId).filter fun op =>
      decide (op.state = .applied))

/-- `COALESCE(MAX(operation_sequence), 0)`. -/
def Store.maxSequence (st : Store) (tenantId controlId : String) : Nat :=
  match latestBySequence (st.controlOperations tenantId controlId) with
  | none => 0
  | some op => op.operationSequence

/-! ## Audit chain -/

/-- The last event of a tenant. -/
def lastEvent (audit : List AuditEvent) (tenantId : String) : Option AuditEvent :=
  firstBy (fun a b => decide (b.body.sequence ≤ a.body.sequence))
    (audit.filter fun e => decide (e.body.tenantId = tenantId))

/-- The event that `_append_audit` inserts. -/
def auditEvent (sha : Document → Digest) (audit : List AuditEvent) (tenantId subject : String)
    (session : Digest) (action : AuditAction) (objectId : Digest) (occurredAt : Time)
    (details : AuditDetails) : AuditEvent :=
  let body : AuditEventBody :=
    { tenantId
      sequence := match lastEvent audit tenantId with
        | none => 1
        | some e => e.body.sequence + 1
      previousEventDigest := match lastEvent audit tenantId with
        | none => genesisDigest
        | some e => e.eventDigest
      action
      objectId
      actorSubject := subject
      actorSessionDigest := session
      occurredAt
      detailsDigest := sha (.details details) }
  ⟨body, sha (.event body), details⟩

/-- `_append_audit`: one more link of the tenant's hash chain. -/
def appendAudit (sha : Document → Digest) (st : Store) (tenantId subject : String)
    (session : Digest) (action : AuditAction) (objectId : Digest) (occurredAt : Time)
    (details : AuditDetails) : Except ControlPlaneError Store := do
  let event := auditEvent sha st.audit tenantId subject session action objectId occurredAt details
  require (∀ e ∈ st.audit, e.eventDigest ≠ event.eventDigest)
    (.sqliteIntegrity "UNIQUE constraint failed: control_audit_events.event_digest")
  pure { st with audit := st.audit ++ [event] }

/-- Report an integrity violation inside a transaction as a conflict, the
`except sqlite3.IntegrityError` clause of most methods. -/
def orConflict {α : Type} (message : String) (x : Except ControlPlaneError α) :
    Except ControlPlaneError α :=
  match x with
  | .error (.sqliteIntegrity _) => .error (.conflict message)
  | other => other

/-! ## Revisions -/

section

variable (sha : Document → Digest)

/-- `INSERT INTO control_revisions`: primary key, the generation key and the
parent reference. -/
def insertRevision (st : Store) (r : ConfigurationRevision) :
    Except ControlPlaneError Store := do
  require (∀ x ∈ st.revisions, x.revisionId ≠ r.revisionId)
    (.sqliteIntegrity "UNIQUE constraint failed: control_revisions.revision_id")
  require (∀ x ∈ st.revisions, ¬(x.tenantId = r.tenantId ∧ x.controlId = r.controlId
      ∧ x.generation = r.generation))
    (.sqliteIntegrity "UNIQUE constraint failed: control_revisions.generation")
  require (r.parentRevisionId = none
      ∨ ∃ x ∈ st.revisions, r.parentRevisionId = some x.revisionId)
    (.sqliteIntegrity "FOREIGN KEY constraint failed")
  pure { st with revisions := st.revisions ++ [r] }

/-- The latest revision, if there is one, validated. -/
def readLatest (row : Option ConfigurationRevision) :
    Except ControlPlaneError (Option ConfigurationRevision) :=
  match row with
  | none => pure none
  | some row => do
    let latest ← readRevision sha row
    pure (some latest)

/-- The generation and parent a new draft takes from the latest revision. -/
def nextGeneration (latest : Option ConfigurationRevision)
    (expectedParentRevisionId : Option Digest) :
    Except ControlPlaneError (Nat × Option Digest) :=
  match latest with
  | none => do
    require (expectedParentRevisionId = none)
      (.conflict "first revision cannot declare a parent")
    pure (1, none)
  | some latest => do
    require (latest.state ≠ .draft ∧ latest.state ≠ .submitted)
      (.conflict "another revision is still in flight")
    require (expectedParentRevisionId = some latest.revisionId)
      (.conflict "new revision is not based on the latest generation")
    pure (latest.generation + 1, some latest.revisionId)

/-- `create_draft`, up to its commit; the answer is the id that is read back. -/
def createDraft (st : Store) (actor : Actor) (configuration : ControlConfiguration)
    (expectedParentRevisionId : Option Digest) (createdAt : Time) :
    Except ControlPlaneError (Store × Digest) := do
  require (configuration.tenantId = actor.tenantId)
    (.conflict "configuration belongs to another tenant")
  orConflict "revision identity already exists" do
    let latest ← readLatest sha
      (st.latestRevision configuration.tenantId configuration.controlId)
    let (generation, parentRevisionId) ← nextGeneration latest expectedParentRevisionId
    let configurationDigest := configuration.digest sha
    let revisionId := revisionIdentity sha configuration.tenantId configuration.controlId
      generation parentRevisionId configurationDigest
    let st₁ ← insertRevision st
      { revisionId
        tenantId := configuration.tenantId
        controlId := configuration.controlId
        generation
        parentRevisionId
        configurationDigest
        configurationBytes := configuration
        createdBy := actor.subject
        createdAt
        state := .draft
        stateVersion := 0
        submittedAt := none
        decidedAt := none }
    let st₂ ← appendAudit sha st₁ actor.tenantId actor.subject actor.sessionIdDigest
      .revisionCreated revisionId createdAt
      (.revisionCreated configurationDigest configuration.controlId generation
        parentRevisionId)
    pure (st₂, revisionId)

/-- `get_revision`. -/
def getRevision (st : Store) (tenantId : String) (revisionId : Digest) :
    Except ControlPlaneError ConfigurationRevision := do
  let row ← expect (st.revisionRow tenantId revisionId)
    (.notFound "configuration revision was not found")
  readRevision sha row

/-- `UPDATE control_revisions … WHERE tenant_id, revision_id, state,
state_version`, with its row count check. -/
def updateRevision (st : Store) (tenantId : String) (revisionId : Digest)
    (state : RevisionState) (stateVersion : Nat)
    (f : ConfigurationRevision → ConfigurationRevision) :
    Except ControlPlaneError Store := do
  let p : ConfigurationRevision → Bool := fun r =>
    decide (r.tenantId = tenantId ∧ r.revisionId = revisionId ∧ r.state = state
      ∧ r.stateVersion = stateVersion)
  require (st.revisions.countP p = 1) (.conflict "revision state changed concurrently")
  pure { st with revisions := updateWhere p f st.revisions }

/-- `submit`, which is `_transition` from draft to submitted. -/
def submit (st : Store) (actor : Actor) (revisionId : Digest)
    (expectedStateVersion : Nat) (submittedAt : Time) :
    Except ControlPlaneError (Store × Unit) := do
  let row ← expect (st.revisionRow actor.tenantId revisionId)
    (.notFound "configuration revision was not found")
  let current ← readRevision sha row
  require (current.state = .draft ∧ current.stateVersion = expectedStateVersion)
    (.conflict "revision state changed concurrently")
  let st₁ ← updateRevision st actor.tenantId revisionId .draft expectedStateVersion
    fun r => { r with
      state := .submitted
      stateVersion := r.stateVersion + 1
      submittedAt := some submittedAt
      decidedAt := current.decidedAt }
  let st₂ ← appendAudit sha st₁ actor.tenantId actor.subject actor.sessionIdDigest
    .revisionSubmitted revisionId submittedAt
    (.revisionTransition current.controlId .draft current.generation .submitted)
  pure (st₂, ())

def Verdict.state : Verdict → RevisionState
  | .approved => .approved
  | .rejected => .rejected

def Verdict.action : Verdict → AuditAction
  | .approved => .revisionApproved
  | .rejected => .revisionRejected

/-- `INSERT INTO approval_decisions`: one decision per id and per revision. -/
def insertDecision (st : Store) (d : ApprovalDecision) :
    Except ControlPlaneError Store := do
  require (∀ x ∈ st.decisions, x.decisionId ≠ d.decisionId)
    (.sqliteIntegrity "UNIQUE constraint failed: approval_decisions.decision_id")
  require (∀ x ∈ st.decisions, x.revisionId ≠ d.revisionId)
    (.sqliteIntegrity "UNIQUE constraint failed: approval_decisions.revision_id")
  pure { st with decisions := st.decisions ++ [d] }

/-- `decide`. -/
def decideRevision (st : Store) (actor : Actor) (revisionId : Digest)
    (expectedStateVersion : Nat) (decision : Verdict) (comment : String)
    (decidedAt : Time) : Except ControlPlaneError (Store × ApprovalDecision) := do
  require (comment ≠ "" ∧ comment.length ≤ 2000)
    (.value "decision comment is empty or too long")
  orConflict "revision already has an approval decision" do
    let row ← expect (st.revisionRow actor.tenantId revisionId)
      (.notFound "configuration revision was not found")
    let current ← readRevision sha row
    require (current.state = .submitted ∧ current.stateVersion = expectedStateVersion)
      (.conflict "revision state changed concurrently")
    let approval : ApprovalDecision :=
      { decisionId := decisionIdentity sha revisionId actor.tenantId decision
          actor.subject decidedAt comment actor.sessionIdDigest
        revisionId
        tenantId := actor.tenantId
        decision
        decidedBy := actor.subject
        decidedAt
        comment
        actorSessionDigest := actor.sessionIdDigest }
    let st₁ ← insertDecision st approval
    let st₂ ← updateRevision st₁ actor.tenantId revisionId .submitted
      expectedStateVersion fun r => { r with
        state := decision.state
        stateVersion := r.stateVersion + 1
        decidedAt := some decidedAt }
    let st₃ ← appendAudit sha st₂ actor.tenantId actor.subject actor.sessionIdDigest
      decision.action revisionId decidedAt
      (.revisionDecided (sha (.comment comment)) current.controlId approval.decisionId
        current.generation)
    pure (st₃, approval)

end

/-! ## Deployment operations: requests -/

/-- The part of `deployment_operations_insert_guard` about the revision the
request names: it exists for this tenant and control with this digest, its
maker is not the requester, and its state fits the kind. -/
def Store.admitsRevision (st : Store) (op : DeploymentOperation) : Prop :=
  ∃ r ∈ st.revisions, r.tenantId = op.tenantId ∧ r.controlId = op.controlId
    ∧ r.revisionId = op.revisionId ∧ r.configurationDigest = op.configurationDigest
    ∧ r.createdBy ≠ op.requestedBy
    ∧ ((op.kind = .apply ∧ r.state = .approved)
      ∨ (op.kind = .rollback ∧ r.state = .retired
        ∧ ∃ d ∈ st.decisions, d.tenantId = op.tenantId ∧ d.revisionId = op.revisionId
          ∧ d.decision = .approved))

instance (st : Store) (op : DeploymentOperation) : Decidable (st.admitsRevision op) :=
  inferInstanceAs (Decidable (∃ r ∈ st.revisions, _))

/-- `deployment_operations_insert_guard`: the conditions under which the trigger
does not abort. -/
def Store.insertGuard (st : Store) (op : DeploymentOperation) : Prop :=
  st.admitsRevision op
    ∧ op.operationSequence = st.maxSequence op.tenantId op.controlId + 1
    ∧ op.predecessorOperationId
        = (st.latestApplied op.tenantId op.controlId).map (·.operationId)
    ∧ (op.kind = .rollback → op.predecessorOperationId ≠ none)
    ∧ (op.retryOfOperationId ≠ none → op.kind = .apply
        ∧ ∃ f ∈ st.operations, op.retryOfOperationId = some f.operationId
          ∧ f.tenantId = op.tenantId ∧ f.controlId = op.controlId
          ∧ f.revisionId = op.revisionId
          ∧ f.configurationDigest = op.configurationDigest
          ∧ f.state = .failed ∧ f.retryAt = none
          ∧ f.operationSequence + 1 = op.operationSequence)

instance (st : Store) (op : DeploymentOperation) : Decidable (st.insertGuard op) :=
  inferInstanceAs (Decidable (_ ∧ _ ∧ _ ∧ _ ∧ _))

/-- The partial unique index: at most one unresolved operation per control. -/
def oneUnresolved (ops : List DeploymentOperation) : Prop :=
  ((ops.filter (·.unresolved)).map fun op => (op.tenantId, op.controlId)).Nodup

instance (ops : List DeploymentOperation) : Decidable (oneUnresolved ops) :=
  inferInstanceAs (Decidable (List.Nodup _))

/-- `INSERT INTO deployment_operations` with its trigger, keys and index. -/
def insertOperation (st : Store) (op : DeploymentOperation) :
    Except ControlPlaneError Store := do
  require (st.insertGuard op)
    (.sqliteIntegrity "deployment operation violates request invariants")
  require (op.stateShape = true) (.sqliteIntegrity "CHECK constraint failed")
  require (∀ x ∈ st.operations, x.operationId ≠ op.operationId)
    (.sqliteIntegrity "UNIQUE constraint failed: deployment_operations.operation_id")
  require (∀ x ∈ st.operations, ¬(x.tenantId = op.tenantId ∧ x.controlId = op.controlId
      ∧ x.operationSequence = op.operationSequence))
    (.sqliteIntegrity "UNIQUE constraint failed: deployment_operations.operation_sequence")
  require (oneUnresolved (st.operations ++ [op]))
    (.sqliteIntegrity "UNIQUE constraint failed: deployment_operations_one_unresolved")
  pure { st with operations := st.operations ++ [op] }

/-- The row a request starts as. -/
def pendingOperation (r : OperationRequest) : DeploymentOperation :=
  { r with
    state := .pending
    stateVersion := 0
    attemptCount := 0
    leaseFence := 0
    leaseOwner := none
    leaseTokenDigest := none
    leasedAt := none
    leaseExpiresAt := none
    retryAt := none
    appliedAt := none
    appliedConfigurationDigest := none
    targetReceiptDigest := none
    failedAt := none
    failureDigest := none }

section

variable (sha : Document → Digest)

/-- `_create_deployment_operation`. `expectedPredecessor` is `some p` when the
caller enforces the predecessor. -/
def createDeploymentOperation (st : Store) (actor : Actor)
    (revision : ConfigurationRevision) (kind : OperationKind) (requestedAt : Time)
    (expectedPredecessor : Option (Option Digest)) (retryOfOperationId : Option Digest) :
    Except ControlPlaneError (Store × DeploymentOperation) := do
  require (∀ op ∈ st.controlOperations actor.tenantId revision.controlId,
      op.unresolved = false)
    (.conflict "control already has an unresolved deployment operation")
  let predecessorOperationId :=
    (st.latestApplied actor.tenantId revision.controlId).map (·.operationId)
  require (expectedPredecessor = none ∨ expectedPredecessor = some predecessorOperationId)
    (.conflict "applied deployment operation changed concurrently")
  let request : OperationRequest :=
    { operationId := 0
      tenantId := actor.tenantId
      controlId := revision.controlId
      operationSequence := st.maxSequence actor.tenantId revision.controlId + 1
      kind
      revisionId := revision.revisionId
      configurationDigest := revision.configurationDigest
      predecessorOperationId
      retryOfOperationId
      requestedBy := actor.subject
      requestedAt
      requesterSessionDigest := actor.sessionIdDigest }
  let op := pendingOperation
    { request with operationId := deploymentOperationIdentity sha request }
  let st₁ ← insertOperation st op
  pure (st₁, op)

/-- The pointer part of `activate_with_operation`: insert the first pointer, or
move an existing one and retire the revision it named. -/
def movePointer (st : Store) (actor : Actor) (revision : ConfigurationRevision)
    (expectedDeploymentVersion : Option Nat) (activatedAt : Time) :
    Except ControlPlaneError (Store × Nat × Option Digest) :=
  match st.deploymentRow actor.tenantId revision.controlId with
  | none => do
    require (expectedDeploymentVersion = none)
      (.conflict "deployment pointer changed concurrently")
    let pointer : ActiveDeployment :=
      { tenantId := actor.tenantId
        controlId := revision.controlId
        revisionId := revision.revisionId
        configurationDigest := revision.configurationDigest
        activatedBy := actor.subject
        activatedAt
        deploymentVersion := 1 }
    pure ({ st with deployments := st.deployments ++ [pointer] }, 1, none)
  | some existing => do
    require (expectedDeploymentVersion = some existing.deploymentVersion)
      (.conflict "deployment pointer changed concurrently")
    require (existing.revisionId ≠ revision.revisionId)
      (.conflict "revision is already active")
    let p : ActiveDeployment → Bool := fun d =>
      decide (d.tenantId = actor.tenantId ∧ d.controlId = revision.controlId
        ∧ d.deploymentVersion = existing.deploymentVersion)
    require (st.deployments.countP p = 1)
      (.conflict "deployment pointer changed concurrently")
    let deployments := updateWhere p (fun d => { d with
        revisionId := revision.revisionId
        configurationDigest := revision.configurationDigest
        activatedBy := actor.subject
        activatedAt
        deploymentVersion := existing.deploymentVersion + 1 }) st.deployments
    let revisions := updateWhere (fun r => decide (r.tenantId = actor.tenantId
        ∧ r.revisionId = existing.revisionId ∧ r.state = .approved))
      (fun r => { r with state := .retired, stateVersion := r.stateVersion + 1 })
      st.revisions
    pure ({ st with deployments, revisions }, existing.deploymentVersion + 1,
      some existing.revisionId)

/-- `activate_with_operation`. -/
def activateWithOperation (st : Store) (actor : Actor) (revisionId : Digest)
    (expectedDeploymentVersion : Option Nat) (activatedAt : Time) :
    Except ControlPlaneError (Store × ActiveDeployment × DeploymentOperation) :=
  orConflict "deployment activation changed concurrently" do
    let row ← expect (st.revisionRow actor.tenantId revisionId)
      (.notFound "configuration revision was not found")
    let revision ← readRevision sha row
    require (revision.state = .approved)
      (.conflict "only an approved revision can be activated")
    let (st₁, deploymentVersion, previousRevisionId) ←
      movePointer st actor revision expectedDeploymentVersion activatedAt
    let (st₂, op) ← createDeploymentOperation sha st₁ actor revision .apply activatedAt
      none none
    let st₃ ← appendAudit sha st₂ actor.tenantId actor.subject actor.sessionIdDigest
      .revisionActivated revision.revisionId activatedAt
      (.revisionActivated revision.configurationDigest revision.controlId
        deploymentVersion op.operationId op.operationSequence previousRevisionId)
    pure (st₃,
      { tenantId := actor.tenantId
        controlId := revision.controlId
        revisionId := revision.revisionId
        configurationDigest := revision.configurationDigest
        activatedBy := actor.subject
        activatedAt
        deploymentVersion }, op)

/-- `request_rollback`. -/
def requestRollback (st : Store) (actor : Actor) (revisionId : Digest)
    (expectedPredecessorOperationId : Digest) (requestedAt : Time) :
    Except ControlPlaneError (Store × DeploymentOperation) :=
  orConflict "rollback operation changed concurrently" do
    let row ← expect (st.revisionRow actor.tenantId revisionId)
      (.notFound "rollback revision was not found")
    let revision ← readRevision sha row
    require (revision.state = .retired)
      (.conflict "rollback target must be a previously retired revision")
    require (∃ d ∈ st.decisions, d.tenantId = actor.tenantId ∧ d.revisionId = revisionId
        ∧ d.decision = .approved)
      (.integrity "rollback target lacks its immutable approval")
    require (revision.createdBy ≠ actor.subject)
      (.conflict "revision maker cannot request its rollback deployment")
    let currentRow ← expect (st.latestApplied actor.tenantId revision.controlId)
      (.conflict "rollback requires a previously applied deployment operation")
    let current ← readOperation sha currentRow
    require (current.operationId = expectedPredecessorOperationId)
      (.conflict "applied deployment operation changed concurrently")
    require (current.revisionId ≠ revision.revisionId)
      (.conflict "rollback target is already the applied configuration")
    let (st₁, op) ← createDeploymentOperation sha st actor revision .rollback requestedAt
      (some (some expectedPredecessorOperationId)) none
    let st₂ ← appendAudit sha st₁ actor.tenantId actor.subject actor.sessionIdDigest
      .deploymentRollbackRequested op.operationId requestedAt
      (.rollbackRequested op.configurationDigest op.controlId op.operationSequence
        op.predecessorOperationId op.revisionId)
    pure (st₂, op)

/-- `request_deployment_retry`. -/
def requestDeploymentRetry (st : Store) (actor : Actor) (failedOperationId : Digest)
    (requestedAt : Time) : Except ControlPlaneError (Store × DeploymentOperation) :=
  orConflict "deployment retry request changed concurrently" do
    let failedRow ← expect (st.operationRow actor.tenantId failedOperationId)
      (.notFound "failed deployment operation was not found")
    let failed ← readOperation sha failedRow
    require (failed.state = .failed ∧ failed.retryAt = none)
      (.conflict "only a terminal deployment failure can be retried manually")
    require ((latestBySequence (st.controlOperations actor.tenantId failed.controlId)).map
        (·.operationId) = some failed.operationId)
      (.conflict "failed operation is no longer the control's latest intent")
    let revisionRow ← expect (st.revisionRow actor.tenantId failed.revisionId)
      (.integrity "failed operation target revision disappeared")
    let revision ← readRevision sha revisionRow
    require (revision.state = .approved)
      (.conflict "failed operation target is no longer approved")
    require (revision.createdBy ≠ actor.subject)
      (.conflict "revision maker cannot request its deployment retry")
    let selection ← expect (st.deploymentRow actor.tenantId failed.controlId)
      (.integrity "failed operation has no desired selection")
    require (selection.revisionId = revision.revisionId
        ∧ selection.configurationDigest = revision.configurationDigest)
      (.conflict "failed operation is no longer the desired selection")
    let (st₁, op) ← createDeploymentOperation sha st actor revision .apply requestedAt
      none (some failed.operationId)
    let st₂ ← appendAudit sha st₁ actor.tenantId actor.subject actor.sessionIdDigest
      .deploymentRetryRequested op.operationId requestedAt
      (.retryRequested op.configurationDigest op.controlId op.operationSequence
        failed.operationId op.revisionId)
    pure (st₂, op)

/-- `get_deployment_operation`. -/
def getDeploymentOperation (st : Store) (tenantId : String) (operationId : Digest) :
    Except ControlPlaneError DeploymentOperation := do
  let row ← expect (st.operationRow tenantId operationId)
    (.notFound "deployment operation was not found")
  readOperation sha row

end

/-! ## Deployment operations: leases -/

/-- `deployment_operations_transition_guard`: the updates the trigger lets
through. -/
def transitionGuard (old new : DeploymentOperation) : Bool :=
  decide (new.stateVersion = old.stateVersion + 1
    ∧ ((old.state = .pending ∧ new.state = .leased)
      ∨ (old.state = .failed ∧ sqlLe old.retryAt new.leasedAt = true
          ∧ new.state = .leased)
      ∨ (old.state = .leased ∧ new.state = .leased
          ∧ sqlLe old.leaseExpiresAt new.leasedAt = true
          ∧ new.leaseFence = old.leaseFence + 1)
      ∨ (old.state = .leased ∧ (new.state = .applied ∨ new.state = .failed))))

/-- `UPDATE deployment_operations`: each matched row passes the trigger and the
`CHECK`, the table keeps its partial index, and exactly one row matched. -/
def updateOperations (st : Store) (p : DeploymentOperation → Bool)
    (f : DeploymentOperation → DeploymentOperation) (stale : String) :
    Except ControlPlaneError Store := do
  require (∀ op ∈ st.operations, p op = true → transitionGuard op (f op) = true)
    (.sqliteIntegrity "invalid deployment operation transition")
  require (∀ op ∈ st.operations, p op = true → (f op).stateShape = true)
    (.sqliteIntegrity "CHECK constraint failed")
  require (oneUnresolved (updateWhere p f st.operations))
    (.sqliteIntegrity "UNIQUE constraint failed: deployment_operations_one_unresolved")
  require (st.operations.countP p = 1) (.conflict stale)
  pure { st with operations := updateWhere p f st.operations }

/-- The rows a worker may lease at `t`. -/
def DeploymentOperation.eligible (op : DeploymentOperation) (t : Time) : Bool :=
  decide ((op.state = .pending ∧ op.requestedAt ≤ t)
    ∨ (op.state = .failed ∧ sqlLe op.retryAt (some t) = true)
    ∨ (op.state = .leased ∧ sqlLe op.leaseExpiresAt (some t) = true))

/-- `ORDER BY requested_at, control_id, operation_sequence`. -/
def leaseOrder (a b : DeploymentOperation) : Bool :=
  decide (a.requestedAt < b.requestedAt ∨ (a.requestedAt = b.requestedAt
    ∧ (a.controlId < b.controlId ∨ (a.controlId = b.controlId
      ∧ a.operationSequence ≤ b.operationSequence))))

/-- The assignments of the lease `UPDATE`. -/
def DeploymentOperation.lease (op : DeploymentOperation) (attempt : Nat)
    (workerId : String) (token : Digest) (leasedAt expiresAt : Time) :
    DeploymentOperation :=
  { op with
    state := .leased
    stateVersion := op.stateVersion + 1
    attemptCount := attempt
    leaseFence := attempt
    leaseOwner := some workerId
    leaseTokenDigest := some token
    leasedAt := some leasedAt
    leaseExpiresAt := some expiresAt
    retryAt := none
    failedAt := none
    failureDigest := none }

/-- The assignments of the acknowledgement `UPDATE`. -/
def DeploymentOperation.acknowledge (op : DeploymentOperation) (appliedAt : Time)
    (configurationDigest receiptDigest : Digest) : DeploymentOperation :=
  { op with
    state := .applied
    stateVersion := op.stateVersion + 1
    leaseOwner := none
    leaseTokenDigest := none
    leasedAt := none
    leaseExpiresAt := none
    appliedAt := some appliedAt
    appliedConfigurationDigest := some configurationDigest
    targetReceiptDigest := some receiptDigest }

/-- The assignments of the failure `UPDATE`. -/
def DeploymentOperation.fail (op : DeploymentOperation) (failedAt : Time)
    (failureDigest : Digest) (retryAt : Option Time) : DeploymentOperation :=
  { op with
    state := .failed
    stateVersion := op.stateVersion + 1
    leaseOwner := none
    leaseTokenDigest := none
    leasedAt := none
    leaseExpiresAt := none
    retryAt
    failedAt := some failedAt
    failureDigest := some failureDigest }

/-- The row's lease is open at `t` and is the one the caller names. -/
def DeploymentOperation.heldBy (op : DeploymentOperation) (workerId : String)
    (token : Digest) (fence : Nat) (t : Time) : Bool :=
  decide (op.state = .leased ∧ op.leaseOwner = some workerId
    ∧ op.leaseTokenDigest = some token ∧ op.leaseFence = fence
    ∧ sqlLt (some t) op.leaseExpiresAt = true)

section

variable (sha : Document → Digest)

/-- `lease_next_deployment_operation`. -/
def leaseNextDeploymentOperation (st : Store) (worker : DeploymentWorkerIdentity)
    (leaseTokenDigest : Digest) (leasedAt : Time) (leaseTtlSeconds : Nat) :
    Except ControlPlaneError (Store × Option DeploymentOperation) := do
  require (15 ≤ leaseTtlSeconds ∧ leaseTtlSeconds ≤ 3600)
    (.value "deployment lease TTL is outside the supported range")
  let leaseExpiresAt := leasedAt + leaseTtlSeconds
  orConflict "deployment operation lease changed concurrently" do
    match firstBy leaseOrder (st.operations.filter fun op =>
        decide (op.tenantId = worker.tenantId) && op.eligible leasedAt) with
    | none => pure (st, none)
    | some row =>
      let current ← readOperation sha row
      let nextAttempt := current.attemptCount + 1
      let st₁ ← updateOperations st
        (fun op => decide (op.tenantId = worker.tenantId
          ∧ op.operationId = current.operationId
          ∧ op.stateVersion = current.stateVersion) && op.eligible leasedAt)
        (fun op => op.lease nextAttempt worker.workerId leaseTokenDigest leasedAt
          leaseExpiresAt)
        "deployment operation lease changed concurrently"
      let st₂ ← appendAudit sha st₁ worker.tenantId worker.subject worker.sessionIdDigest
        .deploymentLeased current.operationId leasedAt
        (.leased nextAttempt current.controlId leaseExpiresAt nextAttempt current.state
          worker.workerId)
      let updated ← expect (st₂.operationRow worker.tenantId current.operationId)
        (.integrity "leased deployment operation disappeared")
      let op ← readOperation sha updated
      pure (st₂, some op)

/-- `acknowledge_deployment_applied`. -/
def acknowledgeDeploymentApplied (st : Store) (worker : DeploymentWorkerIdentity)
    (operationId leaseTokenDigest : Digest) (leaseFence : Nat)
    (appliedConfigurationDigest targetReceiptDigest : Digest) (appliedAt : Time) :
    Except ControlPlaneError (Store × DeploymentOperation) := do
  require (1 ≤ leaseFence) (.value "deployment lease fence is invalid")
  let row ← expect (st.operationRow worker.tenantId operationId)
    (.notFound "deployment operation was not found")
  let current ← readOperation sha row
  require (appliedConfigurationDigest = current.configurationDigest)
    (.integrity "target acknowledged a different configuration digest")
  require (current.heldBy worker.workerId leaseTokenDigest leaseFence appliedAt = true)
    (.conflict "deployment lease is stale or belongs to another worker")
  let st₁ ← updateOperations st
    (fun op => decide (op.tenantId = worker.tenantId ∧ op.operationId = operationId
      ∧ op.stateVersion = current.stateVersion)
      && op.heldBy worker.workerId leaseTokenDigest leaseFence appliedAt)
    (fun op => op.acknowledge appliedAt appliedConfigurationDigest targetReceiptDigest)
    "deployment lease is stale or belongs to another worker"
  let st₂ ← appendAudit sha st₁ worker.tenantId worker.subject worker.sessionIdDigest
    .deploymentApplied operationId appliedAt
    (.applied appliedConfigurationDigest current.controlId leaseFence
      targetReceiptDigest worker.workerId)
  let updated ← expect (st₂.operationRow worker.tenantId operationId)
    (.integrity "applied deployment operation disappeared")
  let op ← readOperation sha updated
  pure (st₂, op)

/-- `fail_deployment_operation`. -/
def failDeploymentOperation (st : Store) (worker : DeploymentWorkerIdentity)
    (operationId leaseTokenDigest : Digest) (leaseFence : Nat) (failureDigest : Digest)
    (failedAt : Time) (retryAt : Option Time) :
    Except ControlPlaneError (Store × DeploymentOperation) := do
  require (1 ≤ leaseFence) (.value "deployment lease fence is invalid")
  require (∀ r, retryAt = some r → failedAt < r ∧ r ≤ failedAt + maxRetryDelay)
    (.value "deployment retry time is outside the supported range")
  let row ← expect (st.operationRow worker.tenantId operationId)
    (.notFound "deployment operation was not found")
  let current ← readOperation sha row
  require (current.heldBy worker.workerId leaseTokenDigest leaseFence failedAt = true)
    (.conflict "deployment lease is stale or belongs to another worker")
  let st₁ ← updateOperations st
    (fun op => decide (op.tenantId = worker.tenantId ∧ op.operationId = operationId
      ∧ op.stateVersion = current.stateVersion)
      && op.heldBy worker.workerId leaseTokenDigest leaseFence failedAt)
    (fun op => op.fail failedAt failureDigest retryAt)
    "deployment lease is stale or belongs to another worker"
  let st₂ ← appendAudit sha st₁ worker.tenantId worker.subject worker.sessionIdDigest
    .deploymentFailed operationId failedAt
    (.failed current.controlId failureDigest leaseFence retryAt worker.workerId)
  let updated ← expect (st₂.operationRow worker.tenantId operationId)
    (.integrity "failed deployment operation disappeared")
  let op ← readOperation sha updated
  pure (st₂, op)

end

/-! ## The store as one machine -/

/-- One atomic store call with all its arguments. -/
inductive StoreCall where
  | createDraft (actor : Actor) (configuration : ControlConfiguration)
      (expectedParentRevisionId : Option Digest) (createdAt : Time)
  | getRevision (tenantId : String) (revisionId : Digest)
  | submit (actor : Actor) (revisionId : Digest) (expectedStateVersion : Nat)
      (submittedAt : Time)
  | decide (actor : Actor) (revisionId : Digest) (expectedStateVersion : Nat)
      (decision : Verdict) (comment : String) (decidedAt : Time)
  | activateWithOperation (actor : Actor) (revisionId : Digest)
      (expectedDeploymentVersion : Option Nat) (activatedAt : Time)
  | requestRollback (actor : Actor) (revisionId : Digest)
      (expectedPredecessorOperationId : Digest) (requestedAt : Time)
  | requestDeploymentRetry (actor : Actor) (failedOperationId : Digest)
      (requestedAt : Time)
  | getDeploymentOperation (tenantId : String) (operationId : Digest)
  | lease (worker : DeploymentWorkerIdentity) (leaseTokenDigest : Digest)
      (leasedAt : Time) (leaseTtlSeconds : Nat)
  | acknowledge (worker : DeploymentWorkerIdentity)
      (operationId leaseTokenDigest : Digest) (leaseFence : Nat)
      (appliedConfigurationDigest targetReceiptDigest : Digest) (appliedAt : Time)
  | fail (worker : DeploymentWorkerIdentity) (operationId leaseTokenDigest : Digest)
      (leaseFence : Nat) (failureDigest : Digest) (failedAt : Time)
      (retryAt : Option Time)
deriving DecidableEq

/-- What each call answers. -/
def StoreCall.Answer : StoreCall → Type
  | .createDraft .. => Digest
  | .getRevision .. => ConfigurationRevision
  | .submit .. => Unit
  | .decide .. => ApprovalDecision
  | .activateWithOperation .. => ActiveDeployment × DeploymentOperation
  | .requestRollback .. => DeploymentOperation
  | .requestDeploymentRetry .. => DeploymentOperation
  | .getDeploymentOperation .. => DeploymentOperation
  | .lease .. => Option DeploymentOperation
  | .acknowledge .. => DeploymentOperation
  | .fail .. => DeploymentOperation

/-- Run one call as a transaction. -/
def StoreCall.run (sha : Document → Digest) (st : Store) :
    (c : StoreCall) → Except ControlPlaneError (Store × c.Answer)
  | .createDraft a cfg p t => ControlPlane.createDraft sha st a cfg p t
  | .getRevision t r => (ControlPlane.getRevision sha st t r).map (st, ·)
  | .submit a r v t => ControlPlane.submit sha st a r v t
  | .decide a r v d c t => decideRevision sha st a r v d c t
  | .activateWithOperation a r v t => ControlPlane.activateWithOperation sha st a r v t
  | .requestRollback a r p t => ControlPlane.requestRollback sha st a r p t
  | .requestDeploymentRetry a o t => ControlPlane.requestDeploymentRetry sha st a o t
  | .getDeploymentOperation t o =>
      (ControlPlane.getDeploymentOperation sha st t o).map (st, ·)
  | .lease w k t n => leaseNextDeploymentOperation sha st w k t n
  | .acknowledge w o k f c r t => acknowledgeDeploymentApplied sha st w o k f c r t
  | .fail w o k f d t r => failDeploymentOperation sha st w o k f d t r

end ControlAssurance.ControlPlane
