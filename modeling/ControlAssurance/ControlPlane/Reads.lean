import ControlAssurance.ControlPlane.Store

/-!
# The reading methods of the store

Each method is one `SELECT`, whose rows are then validated one by one: a stored row that fails
its model's checks raises an integrity error. A join is the list of the matching pairs, a left
join keeps an unmatched row with `none`.
-/

namespace ControlAssurance.ControlPlane

open Lib

section

variable (sha : Document → Digest)

/-- `list_revisions`. -/
def listRevisions (st : Store) (tenantId controlId : String) (limit : Nat) :
    Except ControlPlaneError (List ConfigurationRevision) := do
  require (1 ≤ limit ∧ limit ≤ 1000)
    (.value "revision list limit is outside the supported range")
  let rows := (st.revisions.filter fun r =>
      decide (r.tenantId = tenantId ∧ r.controlId = controlId)).mergeSort
    fun a b => decide (b.generation ≤ a.generation)
  (rows.take limit).mapM (readRevision sha)

/-- `list_deployment_operations`. -/
def listDeploymentOperations (st : Store) (tenantId controlId : String) (limit : Nat) :
    Except ControlPlaneError (List DeploymentOperation) := do
  require (1 ≤ limit ∧ limit ≤ 1000)
    (.value "deployment operation limit is outside the supported range")
  let rows := (st.controlOperations tenantId controlId).mergeSort
    fun a b => decide (b.operationSequence ≤ a.operationSequence)
  (rows.take limit).mapM (readOperation sha)

/-- `latest_applied_operation`. -/
def latestAppliedOperation (st : Store) (tenantId controlId : String) :
    Except ControlPlaneError DeploymentOperation := do
  let row ← expect (st.latestApplied tenantId controlId)
    (.notFound "applied deployment operation was not found")
  readOperation sha row

end

/-- `_deployment`. -/
def readDeployment (d : ActiveDeployment) : Except ControlPlaneError ActiveDeployment := do
  require (1 ≤ d.deploymentVersion) (.integrity "stored deployment failed validation")
  pure d

/-- The pointer agrees with the revision row it was joined with. -/
def ActiveDeployment.selects (d : ActiveDeployment) (r : ConfigurationRevision) : Prop :=
  r.configurationDigest = d.configurationDigest ∧ r.tenantId = d.tenantId
    ∧ r.controlId = d.controlId ∧ r.state = .approved

instance (d : ActiveDeployment) (r : ConfigurationRevision) : Decidable (d.selects r) :=
  inferInstanceAs (Decidable (_ ∧ _ ∧ _ ∧ _))

/-- `active_deployments JOIN control_revisions ON revision_id`. -/
def Store.selections (st : Store) (d : ActiveDeployment) : List ConfigurationRevision :=
  st.revisions.filter fun r => decide (r.revisionId = d.revisionId)

/-- `get_active_deployment`. -/
def getActiveDeployment (st : Store) (tenantId controlId : String) :
    Except ControlPlaneError ActiveDeployment := do
  let joined := st.deployments.flatMap fun d => (st.selections d).map (Prod.mk d)
  let row ← expect (joined.find? fun row =>
      decide (row.1.tenantId = tenantId ∧ row.1.controlId = controlId))
    (.notFound "active deployment was not found")
  let deployment ← readDeployment row.1
  require (deployment.selects row.2)
    (.integrity "active deployment pointer differs from its approved revision")
  pure deployment

structure ControlSummary where
  latestRevision : ConfigurationRevision
  activeDeployment : Option ActiveDeployment
deriving DecidableEq

/-- One row of the query of `list_controls`: the latest revision of a control, the control's
pointer if it has one, and the revision the pointer names. -/
structure ControlRow where
  latest : ConfigurationRevision
  deployment : Option ActiveDeployment
  active : Option ConfigurationRevision
deriving DecidableEq

/-- `LEFT JOIN`: the matches, or one row without any. -/
def leftJoin {α : Type} (rows : List α) : List (Option α) :=
  if rows.isEmpty then [none] else rows.map some

/-- The common table expression `latest` of `list_controls`. -/
def Store.latestRevisions (st : Store) (tenantId : String) : List ConfigurationRevision :=
  st.revisions.filter fun r => decide (r.tenantId = tenantId
    ∧ ∀ x ∈ st.revisions, x.tenantId = r.tenantId → x.controlId = r.controlId →
      x.generation ≤ r.generation)

def Store.controlRows (st : Store) (tenantId : String) : List ControlRow :=
  (st.latestRevisions tenantId).flatMap fun latest =>
    (leftJoin (st.deployments.filter fun d =>
      decide (d.tenantId = latest.tenantId ∧ d.controlId = latest.controlId))).flatMap
      fun deployment =>
        (leftJoin (st.revisions.filter fun r =>
          decide (deployment.map (·.revisionId) = some r.revisionId))).map
          fun active => ⟨latest, deployment, active⟩

/-- The pointer of a summary, checked against the revision it was joined with. -/
def readActive (row : ControlRow) : Except ControlPlaneError (Option ActiveDeployment) :=
  match row.deployment with
  | none => pure none
  | some d => do
    let deployment ← readDeployment d
    require (∃ r ∈ row.active, deployment.selects r)
      (.integrity "active deployment pointer differs from its approved revision")
    pure (some deployment)

/-- One round of the loop of `list_controls`, with `ControlSummary.validate_summary`. -/
def summarize (sha : Document → Digest) (row : ControlRow) :
    Except ControlPlaneError ControlSummary := do
  let latest ← readRevision sha row.latest
  let deployment ← readActive row
  require (∀ d ∈ deployment, d.tenantId = latest.tenantId ∧ d.controlId = latest.controlId)
    (.value "control summary crosses a tenant or control boundary")
  pure ⟨latest, deployment⟩

/-- `list_controls`. -/
def listControls (sha : Document → Digest) (st : Store) (tenantId : String) (limit : Nat) :
    Except ControlPlaneError (List ControlSummary) := do
  require (1 ≤ limit ∧ limit ≤ 1000)
    (.value "control list limit is outside the supported range")
  let rows := (st.controlRows tenantId).mergeSort
    fun a b => decide (a.latest.controlId ≤ b.latest.controlId)
  (rows.take limit).mapM (summarize sha)

end ControlAssurance.ControlPlane
