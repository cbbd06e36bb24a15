import ControlAssurance.ControlPlane.StoreSteps

/-!
# What a committed call writes

`StoreStep` leaves the audit event of a commit open and says little about the generation of a
draft. Here each writing method is inverted once more with both in view: the event it appends,
and the rows it read to choose what it writes. The event is always `auditEvent`, the next link
of the caller's tenant.
-/

namespace ControlAssurance.ControlPlane

open Lib

variable {sha : Document → Digest}

variable {st st' : Store} {t : Time} {n : Nat} {a : Actor} {k oid rid : Digest}
  {w : DeploymentWorkerIdentity}

/-! ## Revisions -/

/-- The row `create_draft` inserts. -/
def draftRow (sha : Document → Digest) (actor : Actor) (configuration : ControlConfiguration)
    (generation : Nat) (parentRevisionId : Option Digest) (createdAt : Time) :
    ConfigurationRevision :=
  { revisionId := revisionIdentity sha configuration.tenantId configuration.controlId generation
      parentRevisionId (configuration.digest sha)
    tenantId := configuration.tenantId
    controlId := configuration.controlId
    generation
    parentRevisionId
    configurationDigest := configuration.digest sha
    configurationBytes := configuration
    createdBy := actor.subject
    createdAt
    state := .draft
    stateVersion := 0
    submittedAt := none
    decidedAt := none }

/-- What the latest revision of the control says about the next one. -/
inductive Follows (latest : Option ConfigurationRevision) : Nat → Option Digest → Prop
  | first (absent : latest = none) : Follows latest 1 none
  | next {r : ConfigurationRevision} (row : latest = some r)
      (settled : r.state ≠ .draft ∧ r.state ≠ .submitted) :
      Follows latest (r.generation + 1) (some r.revisionId)

/-- A generation is the first, or follows the latest revision of the control. -/
theorem nextGeneration_ok {latest : Option ConfigurationRevision} {expected parent : Option Digest}
    (h : nextGeneration latest expected = .ok (n, parent)) : Follows latest n parent := by
  cases latest with
  | none =>
    simp only [nextGeneration, bind_eq_ok, require_eq_ok, pure_eq_ok, Prod.mk.injEq,
      exists_const] at h
    obtain ⟨-, rfl, rfl⟩ := h
    exact .first rfl
  | some r =>
    simp only [nextGeneration, bind_eq_ok, require_eq_ok, pure_eq_ok, Prod.mk.injEq,
      exists_const] at h
    obtain ⟨hsettled, -, rfl, rfl⟩ := h
    exact .next rfl hsettled

theorem readLatest_ok {row latest : Option ConfigurationRevision}
    (h : readLatest sha row = .ok latest) : row = latest := by
  cases row with
  | none =>
    simp only [readLatest, pure_eq_ok] at h
    exact h
  | some r =>
    simp only [readLatest, bind_eq_ok, readRevision_eq_ok, pure_eq_ok] at h
    obtain ⟨_, ⟨-, rfl⟩, rfl⟩ := h
    rfl

/-- A draft is inserted with the generation that was read for it. -/
theorem createDraft_ok {cfg : ControlConfiguration} {p : Option Digest}
    (h : createDraft sha st a cfg p t = .ok (st', rid)) :
    ∃ n parent, cfg.tenantId = a.tenantId
      ∧ Follows (st.latestRevision cfg.tenantId cfg.controlId) n parent
      ∧ rid = (draftRow sha a cfg n parent t).revisionId
      ∧ (∀ x ∈ st.revisions, x.revisionId ≠ rid)
      ∧ st' = { st with
        revisions := st.revisions ++ [draftRow sha a cfg n parent t]
        audit := st.audit ++ [auditEvent sha st.audit a.tenantId a.subject a.sessionIdDigest
          .revisionCreated rid t
          (.revisionCreated (cfg.digest sha) cfg.controlId n parent)] } := by
  simp only [createDraft, insertRevision, bind_eq_ok, require_eq_ok, orConflict_eq_ok,
    pure_eq_ok, Prod.mk.injEq, exists_const] at h
  obtain ⟨htenant, latest, hlatest, ⟨n, parent⟩, hnext, st₁, ⟨hfresh, _, _, rfl⟩, st₂, haudit,
    rfl, rfl⟩ := h
  rw [← readLatest_ok hlatest] at hnext
  exact ⟨n, parent, htenant, nextGeneration_ok hnext, rfl, hfresh, appendAudit_event haudit⟩

/-- The row predicate of the two revision `UPDATE`s. -/
def revisionRows (tenantId : String) (revisionId : Digest) (state : RevisionState) (v : Nat)
    (r : ConfigurationRevision) : Bool :=
  decide (r.tenantId = tenantId ∧ r.revisionId = revisionId ∧ r.state = state
    ∧ r.stateVersion = v)

/-- A draft of the version asked for is submitted. -/
theorem submit_ok {v : Nat} {u : Unit} (h : submit sha st a rid v t = .ok (st', u)) :
    ∃ r, st.revisionRow a.tenantId rid = some r ∧ r.valid sha = true ∧ r.state = .draft
      ∧ r.stateVersion = v
      ∧ st' = { st with
        revisions := updateWhere (revisionRows a.tenantId rid .draft v)
          (fun x => { x with
            state := .submitted
            stateVersion := x.stateVersion + 1
            submittedAt := some t
            decidedAt := r.decidedAt }) st.revisions
        audit := st.audit ++ [auditEvent sha st.audit a.tenantId a.subject a.sessionIdDigest
          .revisionSubmitted rid t
          (.revisionTransition r.controlId .draft r.generation .submitted)] } := by
  simp only [submit, updateRevision, bind_eq_ok, require_eq_ok, expect_eq_ok,
    readRevision_eq_ok, pure_eq_ok, Prod.mk.injEq, exists_const] at h
  obtain ⟨row, hrow, r, ⟨hvalid, rfl⟩, ⟨hstate, hv⟩, st₁, ⟨_, rfl⟩, st₂, haudit, rfl, _⟩ := h
  exact ⟨row, hrow, hvalid, hstate, hv, appendAudit_event haudit⟩

/-- A submitted revision is decided, with a decision of its own. -/
theorem decideRevision_ok {v : Nat} {verdict : Verdict} {comment : String} {d : ApprovalDecision}
    (h : decideRevision sha st a rid v verdict comment t = .ok (st', d)) :
    ∃ r, st.revisionRow a.tenantId rid = some r ∧ r.state = .submitted ∧ r.stateVersion = v
      ∧ d.revisionId = rid ∧ d.tenantId = a.tenantId ∧ d.decision = verdict
      ∧ (∀ x ∈ st.decisions, x.revisionId ≠ rid)
      ∧ st' = { st with
        decisions := st.decisions ++ [d]
        revisions := updateWhere (revisionRows a.tenantId rid .submitted v)
          (fun x => { x with
            state := verdict.state
            stateVersion := x.stateVersion + 1
            decidedAt := some t }) st.revisions
        audit := st.audit ++ [auditEvent sha st.audit a.tenantId a.subject a.sessionIdDigest
          verdict.action rid t
          (.revisionDecided (sha (.comment comment)) r.controlId d.decisionId
            r.generation)] } := by
  simp only [decideRevision, insertDecision, updateRevision, bind_eq_ok, require_eq_ok,
    orConflict_eq_ok, expect_eq_ok, readRevision_eq_ok, pure_eq_ok, Prod.mk.injEq,
    exists_const] at h
  obtain ⟨_, row, hrow, r, ⟨_, rfl⟩, ⟨hstate, hv⟩, st₁, ⟨_, hfresh, rfl⟩, st₂, ⟨_, rfl⟩,
    st₃, haudit, rfl, rfl⟩ := h
  exact ⟨row, hrow, hstate, hv, rfl, rfl, rfl, hfresh, appendAudit_event haudit⟩

/-! ## The pointer -/

/-- The pointer row an activation writes. -/
def pointerRow (a : Actor) (r : ConfigurationRevision) (t : Time) (n : Nat) : ActiveDeployment :=
  { tenantId := a.tenantId
    controlId := r.controlId
    revisionId := r.revisionId
    configurationDigest := r.configurationDigest
    activatedBy := a.subject
    activatedAt := t
    deploymentVersion := n }

/-- The row predicate of the retirement in `activate_with_operation`. -/
def retiredRows (tenantId : String) (revisionId : Digest) (r : ConfigurationRevision) : Bool :=
  decide (r.tenantId = tenantId ∧ r.revisionId = revisionId ∧ r.state = .approved)

/-- The revision that the pointer leaves. -/
def ConfigurationRevision.retire (r : ConfigurationRevision) : ConfigurationRevision :=
  { r with state := .retired, stateVersion := r.stateVersion + 1 }

/-- The row predicate of the pointer `UPDATE`. -/
def pointerRows (tenantId controlId : String) (n : Nat) (d : ActiveDeployment) : Bool :=
  decide (d.tenantId = tenantId ∧ d.controlId = controlId ∧ d.deploymentVersion = n)

/-- The two ways a pointer moves. -/
inductive Moved (st : Store) (a : Actor) (r : ConfigurationRevision) (t : Time) :
    Store → Nat → Option Digest → Prop
  | first (absent : st.deploymentRow a.tenantId r.controlId = none) :
      Moved st a r t { st with deployments := st.deployments ++ [pointerRow a r t 1] } 1 none
  | next {existing : ActiveDeployment}
      (row : st.deploymentRow a.tenantId r.controlId = some existing)
      (other : existing.revisionId ≠ r.revisionId) :
      Moved st a r t
        { st with
          deployments := updateWhere
            (pointerRows a.tenantId r.controlId existing.deploymentVersion)
            (fun d => { d with
              revisionId := r.revisionId
              configurationDigest := r.configurationDigest
              activatedBy := a.subject
              activatedAt := t
              deploymentVersion := existing.deploymentVersion + 1 }) st.deployments
          revisions := updateWhere (retiredRows a.tenantId existing.revisionId)
            ConfigurationRevision.retire st.revisions }
        (existing.deploymentVersion + 1) (some existing.revisionId)

/-- The pointer is set for the first time, or moves on and retires what it leaves. -/
theorem movePointer_moved {st₁ : Store} {r : ConfigurationRevision}
    {v : Option Nat} {previous : Option Digest}
    (h : movePointer st a r v t = .ok (st₁, n, previous)) : Moved st a r t st₁ n previous := by
  unfold movePointer at h
  split at h
  next hnone =>
    simp only [bind_eq_ok, require_eq_ok, pure_eq_ok, Prod.mk.injEq, exists_const] at h
    obtain ⟨_, rfl, rfl, rfl⟩ := h
    exact .first hnone
  next existing hrow =>
    simp only [bind_eq_ok, require_eq_ok, pure_eq_ok, Prod.mk.injEq, exists_const] at h
    obtain ⟨_, hother, _, rfl, rfl, rfl⟩ := h
    exact .next hrow hother

/-- An activation moves the pointer and requests the deployment in one commit. -/
theorem activateWithOperation_ok {v : Option Nat} {ans : ActiveDeployment × DeploymentOperation}
    (h : activateWithOperation sha st a rid v t = .ok (st', ans)) :
    ∃ r st₁ n previous, st.revisionRow a.tenantId rid = some r ∧ r.state = .approved
      ∧ Moved st a r t st₁ n previous
      ∧ Requested sha st₁ ans.2 a r .apply t none
      ∧ st' = { st₁ with
        operations := st₁.operations ++ [ans.2]
        audit := st₁.audit ++ [auditEvent sha st₁.audit a.tenantId a.subject a.sessionIdDigest
          .revisionActivated r.revisionId t
          (.revisionActivated r.configurationDigest r.controlId n ans.2.operationId
            ans.2.operationSequence previous)] } := by
  simp only [activateWithOperation, bind_eq_ok, require_eq_ok, orConflict_eq_ok,
    expect_eq_ok, readRevision_eq_ok, pure_eq_ok, Prod.mk.injEq, exists_const] at h
  obtain ⟨row, hrow, r, ⟨_, rfl⟩, hstate, ⟨st₁, n, previous⟩, hpointer, ⟨st₂, op⟩, hcreate,
    st₃, haudit, rfl, rfl⟩ := h
  obtain ⟨hreq, rfl⟩ := createDeploymentOperation_ok hcreate
  exact ⟨row, st₁, n, previous, hrow, hstate, movePointer_moved hpointer, hreq,
    appendAudit_event haudit⟩

/-! ## Requests -/

theorem requestRollback_ok {p : Digest}
    {op : DeploymentOperation} (h : requestRollback sha st a rid p t = .ok (st', op)) :
    ∃ r, Requested sha st op a r .rollback t none
      ∧ st' = { st with
        operations := st.operations ++ [op]
        audit := st.audit ++ [auditEvent sha st.audit a.tenantId a.subject a.sessionIdDigest
          .deploymentRollbackRequested op.operationId t
          (.rollbackRequested op.configurationDigest op.controlId op.operationSequence
            op.predecessorOperationId op.revisionId)] } := by
  simp only [requestRollback, bind_eq_ok, require_eq_ok, orConflict_eq_ok, expect_eq_ok,
    readRevision_eq_ok, readOperation_eq_ok, pure_eq_ok, Prod.mk.injEq, exists_const] at h
  obtain ⟨row, _, r, ⟨_, rfl⟩, _, _, _, cur, _, c, _, _, _, ⟨st₁, o⟩, hcreate,
    st₂, haudit, rfl, rfl⟩ := h
  obtain ⟨hreq, rfl⟩ := createDeploymentOperation_ok hcreate
  exact ⟨row, hreq, appendAudit_event haudit⟩

/-- A retry names the operation that failed. -/
theorem requestDeploymentRetry_ok
    {op : DeploymentOperation} (h : requestDeploymentRetry sha st a oid t = .ok (st', op)) :
    ∃ r failed, Requested sha st op a r .apply t (some failed)
      ∧ st' = { st with
        operations := st.operations ++ [op]
        audit := st.audit ++ [auditEvent sha st.audit a.tenantId a.subject a.sessionIdDigest
          .deploymentRetryRequested op.operationId t
          (.retryRequested op.configurationDigest op.controlId op.operationSequence failed
            op.revisionId)] } := by
  simp only [requestDeploymentRetry, bind_eq_ok, require_eq_ok, orConflict_eq_ok,
    expect_eq_ok, readRevision_eq_ok, readOperation_eq_ok, pure_eq_ok, Prod.mk.injEq,
    exists_const] at h
  obtain ⟨frow, _, f, ⟨_, rfl⟩, _, _, row, _, r, ⟨_, rfl⟩, _, _, sel,
    _, _, ⟨st₁, o⟩, hcreate, st₂, haudit, rfl, rfl⟩ := h
  obtain ⟨hreq, rfl⟩ := createDeploymentOperation_ok hcreate
  exact ⟨row, frow.operationId, hreq, appendAudit_event haudit⟩

/-! ## Leases -/

/-- Only the holder of the lease acknowledges. -/
theorem acknowledge_ok {fence : Nat} {digest receipt : Digest} {new : DeploymentOperation}
    (h : acknowledgeDeploymentApplied sha st w oid k fence digest receipt t = .ok (st', new)) :
    ∃ op, st.operationRow w.tenantId oid = some op ∧ op.valid sha = true
      ∧ heldRows w oid k fence t op op = true
      ∧ st' = { st with
        operations := updateWhere (heldRows w oid k fence t op)
          (fun x => x.acknowledge t digest receipt) st.operations
        audit := st.audit ++ [auditEvent sha st.audit w.tenantId w.subject w.sessionIdDigest
          .deploymentApplied oid t (.applied digest op.controlId fence receipt w.workerId)] } := by
  simp only [acknowledgeDeploymentApplied, bind_eq_ok, require_eq_ok, expect_eq_ok,
    readOperation_eq_ok, pure_eq_ok, Prod.mk.injEq, exists_const] at h
  obtain ⟨_, row, hrow, cur, ⟨hvalid, rfl⟩, _, hheld, st₁, hupd, st₂, haudit, _, _, _,
    _, rfl, _⟩ := h
  obtain ⟨_, _, _, _, rfl⟩ := updateOperations_ok hupd
  obtain ⟨_, htenant, hid⟩ := operationRow_some hrow
  refine ⟨row, hrow, hvalid, ?_, appendAudit_event haudit⟩
  unfold heldRows
  rw [hheld, decide_eq_true ⟨htenant, hid, rfl⟩]
  rfl

/-- Only the holder of the lease reports a failure. -/
theorem fail_ok {fence : Nat} {failure : Digest} {retryAt : Option Time} {new : DeploymentOperation}
    (h : failDeploymentOperation sha st w oid k fence failure t retryAt = .ok (st', new)) :
    ∃ op, st.operationRow w.tenantId oid = some op ∧ heldRows w oid k fence t op op = true
      ∧ st' = { st with
        operations := updateWhere (heldRows w oid k fence t op)
          (fun x => x.fail t failure retryAt) st.operations
        audit := st.audit ++ [auditEvent sha st.audit w.tenantId w.subject w.sessionIdDigest
          .deploymentFailed oid t (.failed op.controlId failure fence retryAt w.workerId)] } := by
  simp only [failDeploymentOperation, bind_eq_ok, require_eq_ok, expect_eq_ok,
    readOperation_eq_ok, pure_eq_ok, Prod.mk.injEq, exists_const] at h
  obtain ⟨_, _, row, hrow, cur, ⟨_, rfl⟩, hheld, st₁, hupd, st₂, haudit, _, _, _, _, rfl,
    _⟩ := h
  obtain ⟨_, _, _, _, rfl⟩ := updateOperations_ok hupd
  obtain ⟨_, htenant, hid⟩ := operationRow_some hrow
  refine ⟨row, hrow, ?_, appendAudit_event haudit⟩
  unfold heldRows
  rw [hheld, decide_eq_true ⟨htenant, hid, rfl⟩]
  rfl

/-! ## The audit table -/

/-- A commit appends nothing to the audit table, or one event of the tenant it was made for. -/
theorem commit_audit {c : StoreCall} {ans : c.Answer} (h : c.run sha st = .ok (st', ans)) :
    st'.audit = st.audit ∨ ∃ tenantId subject session action objectId t details,
      st'.audit = st.audit ++
        [auditEvent sha st.audit tenantId subject session action objectId t details] := by
  cases c with
  | createDraft a cfg p t =>
    obtain ⟨_, _, -, -, -, -, rfl⟩ := createDraft_ok h
    exact Or.inr ⟨_, _, _, _, _, _, _, rfl⟩
  | getRevision tenantId rid =>
    obtain ⟨_, -, heq⟩ := map_eq_ok.mp h
    exact Or.inl (congrArg (fun x => x.1.audit) heq).symm
  | submit a rid v t =>
    obtain ⟨_, -, -, -, -, rfl⟩ := submit_ok h
    exact Or.inr ⟨_, _, _, _, _, _, _, rfl⟩
  | decide a rid v d comment t =>
    obtain ⟨_, -, -, -, -, -, -, -, rfl⟩ := decideRevision_ok h
    exact Or.inr ⟨_, _, _, _, _, _, _, rfl⟩
  | activateWithOperation a rid v t =>
    obtain ⟨_, st₁, _, _, -, -, hmoved, -, rfl⟩ := activateWithOperation_ok h
    have hsame : st₁.audit = st.audit := by cases hmoved <;> rfl
    rw [← hsame]
    exact Or.inr ⟨_, _, _, _, _, _, _, rfl⟩
  | requestRollback a rid p t =>
    obtain ⟨_, -, rfl⟩ := requestRollback_ok h
    exact Or.inr ⟨_, _, _, _, _, _, _, rfl⟩
  | requestDeploymentRetry a oid t =>
    obtain ⟨_, _, -, rfl⟩ := requestDeploymentRetry_ok h
    exact Or.inr ⟨_, _, _, _, _, _, _, rfl⟩
  | getDeploymentOperation tenantId oid =>
    obtain ⟨_, -, heq⟩ := map_eq_ok.mp h
    exact Or.inl (congrArg (fun x => x.1.audit) heq).symm
  | lease w k t n =>
    rcases leaseNext_ok h with ⟨-, rfl⟩ | ⟨_, _, -, -, -, -, -, -, -, -, -, rfl⟩
    · exact Or.inl rfl
    · exact Or.inr ⟨_, _, _, _, _, _, _, rfl⟩
  | acknowledge w oid k f d r t =>
    obtain ⟨_, -, -, -, rfl⟩ := acknowledge_ok h
    exact Or.inr ⟨_, _, _, _, _, _, _, rfl⟩
  | fail w oid k f d t r =>
    obtain ⟨_, -, -, rfl⟩ := fail_ok h
    exact Or.inr ⟨_, _, _, _, _, _, _, rfl⟩

end ControlAssurance.ControlPlane
