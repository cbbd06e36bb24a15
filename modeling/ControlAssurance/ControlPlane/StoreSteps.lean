import ControlAssurance.ControlPlane.Store

/-!
# What a committed store call can do

`StoreStep sha st c st'` lists, call by call, everything a commit of `c` can
do to the tables: the guards that held in `st` and the rows of `st'`. It is
the inversion of `StoreCall.run` (`run_step`), done once; every invariant of
the store is then a case analysis of `StoreStep`. The second half derives the
table-by-table reading that most invariants use: content of revisions never
changes, decisions are only appended, every operation row descends from one
with the same request or was inserted by one of three calls.
-/

namespace ControlAssurance.ControlPlane

open Lib

variable {sha : Document → Digest}

/-! ## Inverting the statements -/

@[simp] theorem orConflict_eq_ok {α : Type} {m : String}
    {x : Except ControlPlaneError α} {a : α} :
    orConflict m x = .ok a ↔ x = .ok a := by
  unfold orConflict
  split
  next => simp
  next => rfl

@[simp] theorem readRevision_eq_ok {r r' : ConfigurationRevision} :
    readRevision sha r = .ok r' ↔ r.valid sha = true ∧ r = r' := by
  simp only [readRevision, bind_eq_ok, require_eq_ok, pure_eq_ok, exists_const]

@[simp] theorem readOperation_eq_ok {op op' : DeploymentOperation} :
    readOperation sha op = .ok op' ↔ op.valid sha = true ∧ op = op' := by
  simp only [readOperation, bind_eq_ok, require_eq_ok, pure_eq_ok, exists_const]

theorem appendAudit_event {st st' : Store} {tenantId subject : String} {session : Digest}
    {action : AuditAction} {objectId : Digest} {t : Time} {details : AuditDetails}
    (h : appendAudit sha st tenantId subject session action objectId t details = .ok st') :
    st' = { st with audit := st.audit ++
      [auditEvent sha st.audit tenantId subject session action objectId t details] } := by
  simp only [appendAudit, bind_eq_ok, require_eq_ok, pure_eq_ok, exists_const] at h
  exact h.2.symm

theorem appendAudit_ok {st st' : Store} {tenantId subject : String} {session : Digest}
    {action : AuditAction} {objectId : Digest} {occurredAt : Time} {details : AuditDetails}
    (h : appendAudit sha st tenantId subject session action objectId occurredAt details
      = .ok st') :
    ∃ e, st' = { st with audit := st.audit ++ [e] } := ⟨_, appendAudit_event h⟩

theorem revisionRow_some {st : Store} {tenantId : String} {revisionId : Digest}
    {r : ConfigurationRevision} (h : st.revisionRow tenantId revisionId = some r) :
    r ∈ st.revisions ∧ r.tenantId = tenantId ∧ r.revisionId = revisionId := by
  have hp := List.find?_some h
  simp only [decide_eq_true_eq] at hp
  exact ⟨List.mem_of_find?_eq_some h, hp.1, hp.2⟩

theorem operationRow_some {st : Store} {tenantId : String} {operationId : Digest}
    {op : DeploymentOperation} (h : st.operationRow tenantId operationId = some op) :
    op ∈ st.operations ∧ op.tenantId = tenantId ∧ op.operationId = operationId := by
  have hp := List.find?_some h
  simp only [decide_eq_true_eq] at hp
  exact ⟨List.mem_of_find?_eq_some h, hp.1, hp.2⟩

theorem deploymentRow_some {st : Store} {tenantId controlId : String}
    {d : ActiveDeployment} (h : st.deploymentRow tenantId controlId = some d) :
    d ∈ st.deployments ∧ d.tenantId = tenantId ∧ d.controlId = controlId := by
  have hp := List.find?_some h
  simp only [decide_eq_true_eq] at hp
  exact ⟨List.mem_of_find?_eq_some h, hp.1, hp.2⟩

theorem mem_controlOperations {st : Store} {tenantId controlId : String}
    {op : DeploymentOperation} :
    op ∈ st.controlOperations tenantId controlId ↔
      op ∈ st.operations ∧ op.tenantId = tenantId ∧ op.controlId = controlId := by
  simp [Store.controlOperations]

/-- A successful request insert: the guards it passed, and its row. -/
structure Requested (sha : Document → Digest) (st : Store) (op : DeploymentOperation)
    (a : Actor) (r : ConfigurationRevision) (kind : OperationKind) (t : Time)
    (retryOf : Option Digest) : Prop where
  pending : op = pendingOperation op.toOperationRequest
  identity : op.operationId = deploymentOperationIdentity sha
    { op.toOperationRequest with operationId := 0 }
  tenant : op.tenantId = a.tenantId
  control : op.controlId = r.controlId
  revision : op.revisionId = r.revisionId
  digest : op.configurationDigest = r.configurationDigest
  kind_eq : op.kind = kind
  requestedBy : op.requestedBy = a.subject
  requestedAt : op.requestedAt = t
  session : op.requesterSessionDigest = a.sessionIdDigest
  retryOf_eq : op.retryOfOperationId = retryOf
  idle : ∀ o ∈ st.controlOperations a.tenantId r.controlId, o.unresolved = false
  guard : st.insertGuard op
  fresh : ∀ x ∈ st.operations, x.operationId ≠ op.operationId
  freshSequence : ∀ x ∈ st.operations, ¬(x.tenantId = op.tenantId
    ∧ x.controlId = op.controlId ∧ x.operationSequence = op.operationSequence)
  index : oneUnresolved (st.operations ++ [op])

theorem createDeploymentOperation_ok {st st' : Store} {a : Actor}
    {r : ConfigurationRevision} {kind : OperationKind} {t : Time}
    {expected : Option (Option Digest)} {retryOf : Option Digest}
    {op : DeploymentOperation}
    (h : createDeploymentOperation sha st a r kind t expected retryOf = .ok (st', op)) :
    Requested sha st op a r kind t retryOf
      ∧ st' = { st with operations := st.operations ++ [op] } := by
  simp only [createDeploymentOperation, insertOperation, bind_eq_ok, require_eq_ok,
    pure_eq_ok, Prod.mk.injEq, exists_const] at h
  obtain ⟨hidle, _, st₁, ⟨hguard, _, hfresh, hseq, hindex, rfl⟩, rfl, rfl⟩ := h
  exact ⟨⟨rfl, rfl, rfl, rfl, rfl, rfl, rfl, rfl, rfl, rfl, rfl, hidle, hguard, hfresh,
    hseq, hindex⟩, rfl⟩

/-- A successful row update: the row that matched, what the trigger and the
`CHECK` said of it, and the new table. -/
theorem updateOperations_ok {st st' : Store} {p : DeploymentOperation → Bool}
    {f : DeploymentOperation → DeploymentOperation} {stale : String}
    (h : updateOperations st p f stale = .ok st') :
    (∃ op ∈ st.operations, p op = true)
      ∧ (∀ op ∈ st.operations, p op = true → transitionGuard op (f op) = true)
      ∧ (∀ op ∈ st.operations, p op = true → (f op).stateShape = true)
      ∧ oneUnresolved (updateWhere p f st.operations)
      ∧ st' = { st with operations := updateWhere p f st.operations } := by
  simp only [updateOperations, bind_eq_ok, require_eq_ok, pure_eq_ok, exists_const] at h
  obtain ⟨hguard, hshape, hindex, hcount, rfl⟩ := h
  refine ⟨?_, hguard, hshape, hindex, rfl⟩
  have hpos : 0 < st.operations.countP p := by omega
  exact List.countP_pos_iff.mp hpos

/-! ## The step relation -/

/-- The row predicate of the lease `UPDATE`. -/
def leaseRows (w : DeploymentWorkerIdentity) (current : DeploymentOperation) (t : Time)
    (op : DeploymentOperation) : Bool :=
  decide (op.tenantId = w.tenantId ∧ op.operationId = current.operationId
    ∧ op.stateVersion = current.stateVersion) && op.eligible t

theorem leaseRows_self {w : DeploymentWorkerIdentity} {op : DeploymentOperation} {t : Time}
    (htenant : op.tenantId = w.tenantId) (hready : op.eligible t = true) :
    leaseRows w op t op = true := by
  simp [leaseRows, htenant, hready]

/-- The row predicate of the two closing `UPDATE`s. -/
def heldRows (w : DeploymentWorkerIdentity) (operationId token : Digest) (fence : Nat)
    (t : Time) (current op : DeploymentOperation) : Bool :=
  decide (op.tenantId = w.tenantId ∧ op.operationId = operationId
    ∧ op.stateVersion = current.stateVersion) && op.heldBy w.workerId token fence t

/-- The calls that may commit without changing anything: the reads, and a lease
call that finds no row. -/
def StoreCall.Quiet : StoreCall → Prop
  | .getRevision .. => True
  | .getDeploymentOperation .. => True
  | .lease .. => True
  | _ => False

/-- Everything a committed call can do. -/
inductive StoreStep (sha : Document → Digest) (st : Store) : StoreCall → Store → Prop
  | unchanged {c : StoreCall} (quiet : c.Quiet) : StoreStep sha st c st
  | drafted {a cfg p t} (r : ConfigurationRevision) (e : AuditEvent)
      (fresh : ∀ x ∈ st.revisions, x.revisionId ≠ r.revisionId)
      (tenant : r.tenantId = a.tenantId) (maker : r.createdBy = a.subject)
      (bytes : r.configurationBytes = cfg)
      (digest : r.configurationDigest = sha (.configuration cfg))
      (state : r.state = .draft) :
      StoreStep sha st (.createDraft a cfg p t)
        { st with revisions := st.revisions ++ [r], audit := st.audit ++ [e] }
  | submitted {a rid v t} (r : ConfigurationRevision) (e : AuditEvent)
      (row : st.revisionRow a.tenantId rid = some r) (state : r.state = .draft) :
      StoreStep sha st (.submit a rid v t)
        { st with
          revisions := updateWhere (fun x => decide (x.tenantId = a.tenantId
              ∧ x.revisionId = rid ∧ x.state = .draft ∧ x.stateVersion = v))
            (fun x => { x with
              state := .submitted
              stateVersion := x.stateVersion + 1
              submittedAt := some t
              decidedAt := r.decidedAt }) st.revisions
          audit := st.audit ++ [e] }
  | decided {a rid v verdict comment t} (r : ConfigurationRevision)
      (d : ApprovalDecision) (e : AuditEvent)
      (row : st.revisionRow a.tenantId rid = some r) (state : r.state = .submitted)
      (revision : d.revisionId = rid) (tenant : d.tenantId = a.tenantId)
      (verdict_eq : d.decision = verdict) (checker : d.decidedBy = a.subject)
      (time : d.decidedAt = t) (session : d.actorSessionDigest = a.sessionIdDigest)
      (fresh : ∀ x ∈ st.decisions, x.revisionId ≠ d.revisionId) :
      StoreStep sha st (.decide a rid v verdict comment t)
        { st with
          decisions := st.decisions ++ [d]
          revisions := updateWhere (fun x => decide (x.tenantId = a.tenantId
              ∧ x.revisionId = rid ∧ x.state = .submitted ∧ x.stateVersion = v))
            (fun x => { x with
              state := verdict.state
              stateVersion := x.stateVersion + 1
              decidedAt := some t }) st.revisions
          audit := st.audit ++ [e] }
  | activated {a rid v t} (r : ConfigurationRevision) (st₁ : Store) (n : Nat)
      (previous : Option Digest) (op : DeploymentOperation) (e : AuditEvent)
      (row : st.revisionRow a.tenantId rid = some r) (state : r.state = .approved)
      (pointer : movePointer st a r v t = .ok (st₁, n, previous))
      (requested : Requested sha st₁ op a r .apply t none) :
      StoreStep sha st (.activateWithOperation a rid v t)
        { st₁ with operations := st₁.operations ++ [op], audit := st₁.audit ++ [e] }
  | rolledBack {a rid p t} (r : ConfigurationRevision) (op : DeploymentOperation)
      (e : AuditEvent) (row : st.revisionRow a.tenantId rid = some r)
      (state : r.state = .retired) (maker : r.createdBy ≠ a.subject)
      (requested : Requested sha st op a r .rollback t none) :
      StoreStep sha st (.requestRollback a rid p t)
        { st with operations := st.operations ++ [op], audit := st.audit ++ [e] }
  | retried {a oid t} (failed : DeploymentOperation) (r : ConfigurationRevision)
      (op : DeploymentOperation) (e : AuditEvent)
      (failedRow : st.operationRow a.tenantId oid = some failed)
      (terminal : failed.state = .failed ∧ failed.retryAt = none)
      (row : st.revisionRow a.tenantId failed.revisionId = some r)
      (state : r.state = .approved) (maker : r.createdBy ≠ a.subject)
      (requested : Requested sha st op a r .apply t (some failed.operationId)) :
      StoreStep sha st (.requestDeploymentRetry a oid t)
        { st with operations := st.operations ++ [op], audit := st.audit ++ [e] }
  | leased {w k t} {n : Nat} (op : DeploymentOperation) (e : AuditEvent)
      (mem : op ∈ st.operations) (tenant : op.tenantId = w.tenantId)
      (ready : op.eligible t = true) (ttl : 15 ≤ n)
      (guard : ∀ x ∈ st.operations, leaseRows w op t x = true →
        transitionGuard x (x.lease (op.attemptCount + 1) w.workerId k t (t + n)) = true)
      (shape : ∀ x ∈ st.operations, leaseRows w op t x = true →
        (x.lease (op.attemptCount + 1) w.workerId k t (t + n)).stateShape = true)
      (index : oneUnresolved (updateWhere (leaseRows w op t)
        (fun x => x.lease (op.attemptCount + 1) w.workerId k t (t + n)) st.operations)) :
      StoreStep sha st (.lease w k t n)
        { st with
          operations := updateWhere (leaseRows w op t)
            (fun x => x.lease (op.attemptCount + 1) w.workerId k t (t + n)) st.operations
          audit := st.audit ++ [e] }
  | acknowledged {w oid k fence digest receipt t} (op : DeploymentOperation)
      (e : AuditEvent) (row : st.operationRow w.tenantId oid = some op)
      (held : op.heldBy w.workerId k fence t = true)
      (digest_eq : digest = op.configurationDigest)
      (shape : ∀ x ∈ st.operations, heldRows w oid k fence t op x = true →
        (x.acknowledge t digest receipt).stateShape = true)
      (index : oneUnresolved (updateWhere (heldRows w oid k fence t op)
        (fun x => x.acknowledge t digest receipt) st.operations)) :
      StoreStep sha st (.acknowledge w oid k fence digest receipt t)
        { st with
          operations := updateWhere (heldRows w oid k fence t op)
            (fun x => x.acknowledge t digest receipt) st.operations
          audit := st.audit ++ [e] }
  | failed {w oid k fence failure t retryAt} (op : DeploymentOperation)
      (e : AuditEvent) (row : st.operationRow w.tenantId oid = some op)
      (held : op.heldBy w.workerId k fence t = true)
      (shape : ∀ x ∈ st.operations, heldRows w oid k fence t op x = true →
        (x.fail t failure retryAt).stateShape = true)
      (index : oneUnresolved (updateWhere (heldRows w oid k fence t op)
        (fun x => x.fail t failure retryAt) st.operations)) :
      StoreStep sha st (.fail w oid k fence failure t retryAt)
        { st with
          operations := updateWhere (heldRows w oid k fence t op)
            (fun x => x.fail t failure retryAt) st.operations
          audit := st.audit ++ [e] }

theorem createDraft_step {st st' : Store} {a : Actor} {cfg : ControlConfiguration}
    {p : Option Digest} {t : Time} {rid : Digest}
    (h : createDraft sha st a cfg p t = .ok (st', rid)) :
    StoreStep sha st (.createDraft a cfg p t) st' := by
  simp only [createDraft, insertRevision, bind_eq_ok, require_eq_ok, orConflict_eq_ok,
    pure_eq_ok, Prod.mk.injEq, exists_const] at h
  obtain ⟨htenant, latest, _, gp, _, st₁, ⟨hfresh, _, _, rfl⟩, st₂, haudit, rfl, rfl⟩ := h
  obtain ⟨e, rfl⟩ := appendAudit_ok haudit
  exact .drafted _ e hfresh htenant rfl rfl rfl rfl

theorem submit_step {st st' : Store} {a : Actor} {rid : Digest} {v : Nat} {t : Time}
    {u : Unit} (h : submit sha st a rid v t = .ok (st', u)) :
    StoreStep sha st (.submit a rid v t) st' := by
  simp only [submit, updateRevision, bind_eq_ok, require_eq_ok, expect_eq_ok,
    readRevision_eq_ok, pure_eq_ok, Prod.mk.injEq, exists_const] at h
  obtain ⟨row, hrow, r, ⟨_, rfl⟩, ⟨hstate, _⟩, st₁, ⟨_, rfl⟩, st₂, haudit, rfl, _⟩ := h
  obtain ⟨e, rfl⟩ := appendAudit_ok haudit
  exact .submitted row e hrow hstate

theorem decideRevision_step {st st' : Store} {a : Actor} {rid : Digest} {v : Nat}
    {verdict : Verdict} {comment : String} {t : Time} {d : ApprovalDecision}
    (h : decideRevision sha st a rid v verdict comment t = .ok (st', d)) :
    StoreStep sha st (.decide a rid v verdict comment t) st' := by
  simp only [decideRevision, insertDecision, updateRevision, bind_eq_ok, require_eq_ok,
    orConflict_eq_ok, expect_eq_ok, readRevision_eq_ok, pure_eq_ok, Prod.mk.injEq,
    exists_const] at h
  obtain ⟨_, row, hrow, r, ⟨_, rfl⟩, ⟨hstate, _⟩, st₁, ⟨_, hfresh, rfl⟩, st₂, ⟨_, rfl⟩,
    st₃, haudit, rfl, rfl⟩ := h
  obtain ⟨e, rfl⟩ := appendAudit_ok haudit
  exact .decided row _ e hrow hstate rfl rfl rfl rfl rfl rfl hfresh

theorem activateWithOperation_step {st st' : Store} {a : Actor} {rid : Digest}
    {v : Option Nat} {t : Time} {ans : ActiveDeployment × DeploymentOperation}
    (h : activateWithOperation sha st a rid v t = .ok (st', ans)) :
    StoreStep sha st (.activateWithOperation a rid v t) st' := by
  simp only [activateWithOperation, bind_eq_ok, require_eq_ok, orConflict_eq_ok,
    expect_eq_ok, readRevision_eq_ok, pure_eq_ok, Prod.mk.injEq, exists_const] at h
  obtain ⟨row, hrow, r, ⟨_, rfl⟩, hstate, ⟨st₁, n, previous⟩, hpointer, ⟨st₂, op⟩, hcreate,
    st₃, haudit, rfl, _⟩ := h
  obtain ⟨hreq, rfl⟩ := createDeploymentOperation_ok hcreate
  obtain ⟨e, rfl⟩ := appendAudit_ok haudit
  exact .activated row st₁ n previous op e hrow hstate hpointer hreq

theorem requestRollback_step {st st' : Store} {a : Actor} {rid p : Digest} {t : Time}
    {op : DeploymentOperation}
    (h : requestRollback sha st a rid p t = .ok (st', op)) :
    StoreStep sha st (.requestRollback a rid p t) st' := by
  simp only [requestRollback, bind_eq_ok, require_eq_ok, orConflict_eq_ok, expect_eq_ok,
    readRevision_eq_ok, readOperation_eq_ok, pure_eq_ok, Prod.mk.injEq, exists_const] at h
  obtain ⟨row, hrow, r, ⟨_, rfl⟩, hstate, _, hmaker, cur, _, c, _, _, _, ⟨st₁, o⟩, hcreate,
    st₂, haudit, rfl, rfl⟩ := h
  obtain ⟨hreq, rfl⟩ := createDeploymentOperation_ok hcreate
  obtain ⟨e, rfl⟩ := appendAudit_ok haudit
  exact .rolledBack row _ e hrow hstate hmaker hreq

theorem requestDeploymentRetry_step {st st' : Store} {a : Actor} {oid : Digest}
    {t : Time} {op : DeploymentOperation}
    (h : requestDeploymentRetry sha st a oid t = .ok (st', op)) :
    StoreStep sha st (.requestDeploymentRetry a oid t) st' := by
  simp only [requestDeploymentRetry, bind_eq_ok, require_eq_ok, orConflict_eq_ok,
    expect_eq_ok, readRevision_eq_ok, readOperation_eq_ok, pure_eq_ok, Prod.mk.injEq,
    exists_const] at h
  obtain ⟨frow, hfrow, f, ⟨_, rfl⟩, hterm, _, row, hrow, r, ⟨_, rfl⟩, hstate, hmaker, sel,
    _, _, ⟨st₁, o⟩, hcreate, st₂, haudit, rfl, rfl⟩ := h
  obtain ⟨hreq, rfl⟩ := createDeploymentOperation_ok hcreate
  obtain ⟨e, rfl⟩ := appendAudit_ok haudit
  exact .retried frow row _ e hfrow hterm hrow hstate hmaker hreq

/-- A committed lease call either found no row and changed nothing, or leased
the row it answers with. -/
theorem leaseNext_ok {st st' : Store} {w : DeploymentWorkerIdentity} {k : Digest}
    {t : Time} {n : Nat} {ans : Option DeploymentOperation}
    (h : leaseNextDeploymentOperation sha st w k t n = .ok (st', ans)) :
    (ans = none ∧ st' = st) ∨
      ∃ op new, ans = some new ∧ op ∈ st.operations
        ∧ op.tenantId = w.tenantId ∧ op.eligible t = true ∧ 15 ≤ n
        ∧ st'.operationRow w.tenantId op.operationId = some new
        ∧ (∀ x ∈ st.operations, leaseRows w op t x = true →
          transitionGuard x (x.lease (op.attemptCount + 1) w.workerId k t (t + n)) = true)
        ∧ (∀ x ∈ st.operations, leaseRows w op t x = true →
          (x.lease (op.attemptCount + 1) w.workerId k t (t + n)).stateShape = true)
        ∧ oneUnresolved st'.operations
        ∧ st' = { st with
          operations := updateWhere (leaseRows w op t)
            (fun x => x.lease (op.attemptCount + 1) w.workerId k t (t + n)) st.operations
          audit := st.audit ++ [auditEvent sha st.audit w.tenantId w.subject w.sessionIdDigest
            .deploymentLeased op.operationId t
            (.leased (op.attemptCount + 1) op.controlId (t + n) (op.attemptCount + 1) op.state
              w.workerId)] } := by
  simp only [leaseNextDeploymentOperation, bind_eq_ok, require_eq_ok, orConflict_eq_ok,
    exists_const] at h
  obtain ⟨⟨httl, _⟩, h⟩ := h
  split at h
  next =>
    simp only [pure_eq_ok, Prod.mk.injEq] at h
    exact Or.inl ⟨h.2.symm, h.1.symm⟩
  next row hfirst =>
    simp only [bind_eq_ok, readOperation_eq_ok, expect_eq_ok, pure_eq_ok,
      Prod.mk.injEq] at h
    obtain ⟨cur, ⟨_, rfl⟩, st₁, hupd, st₂, haudit, new, hnew, _, ⟨_, rfl⟩, rfl, rfl⟩ := h
    have hrow := firstBy_mem hfirst
    simp only [List.mem_filter, Bool.and_eq_true, decide_eq_true_eq] at hrow
    obtain ⟨_, hguard, hshape, hindex, rfl⟩ := updateOperations_ok hupd
    obtain rfl := appendAudit_event haudit
    exact Or.inr ⟨row, new, rfl, hrow.1, hrow.2.1, hrow.2.2, httl, hnew, hguard, hshape,
      hindex, rfl⟩

theorem acknowledge_step {st st' : Store} {w : DeploymentWorkerIdentity}
    {oid k : Digest} {fence : Nat} {digest receipt : Digest} {t : Time}
    {op : DeploymentOperation}
    (h : acknowledgeDeploymentApplied sha st w oid k fence digest receipt t
      = .ok (st', op)) :
    StoreStep sha st (.acknowledge w oid k fence digest receipt t) st' := by
  simp only [acknowledgeDeploymentApplied, bind_eq_ok, require_eq_ok, expect_eq_ok,
    readOperation_eq_ok, pure_eq_ok, Prod.mk.injEq, exists_const] at h
  obtain ⟨_, row, hrow, cur, ⟨_, rfl⟩, hdigest, hheld, st₁, hupd, st₂, haudit, new, _, _,
    _, rfl, _⟩ := h
  obtain ⟨_, _, hshape, hindex, rfl⟩ := updateOperations_ok hupd
  obtain ⟨e, rfl⟩ := appendAudit_ok haudit
  exact .acknowledged row e hrow hheld hdigest hshape hindex

theorem fail_step {st st' : Store} {w : DeploymentWorkerIdentity} {oid k : Digest}
    {fence : Nat} {failure : Digest} {t : Time} {retryAt : Option Time}
    {op : DeploymentOperation}
    (h : failDeploymentOperation sha st w oid k fence failure t retryAt
      = .ok (st', op)) :
    StoreStep sha st (.fail w oid k fence failure t retryAt) st' := by
  simp only [failDeploymentOperation, bind_eq_ok, require_eq_ok, expect_eq_ok,
    readOperation_eq_ok, pure_eq_ok, Prod.mk.injEq, exists_const] at h
  obtain ⟨_, _, row, hrow, cur, ⟨_, rfl⟩, hheld, st₁, hupd, st₂, haudit, new, _, _, _, rfl,
    _⟩ := h
  obtain ⟨_, _, hshape, hindex, rfl⟩ := updateOperations_ok hupd
  obtain ⟨e, rfl⟩ := appendAudit_ok haudit
  exact .failed row e hrow hheld hshape hindex

/-- Every committed call is one of the steps above. -/
theorem run_step {st st' : Store} {c : StoreCall} {ans : c.Answer}
    (h : c.run sha st = .ok (st', ans)) : StoreStep sha st c st' := by
  cases c with
  | createDraft a cfg p t => exact createDraft_step h
  | getRevision t r =>
    cases hg : getRevision sha st t r with
    | error e => simp [StoreCall.run, hg, Except.map] at h
    | ok r' =>
      simp only [StoreCall.run, hg, Except.map, Except.ok.injEq] at h
      cases h
      exact .unchanged trivial
  | submit a r v t => exact submit_step h
  | decide a r v d c t => exact decideRevision_step h
  | activateWithOperation a r v t => exact activateWithOperation_step h
  | requestRollback a r p t => exact requestRollback_step h
  | requestDeploymentRetry a o t => exact requestDeploymentRetry_step h
  | getDeploymentOperation t o =>
    cases hg : getDeploymentOperation sha st t o with
    | error e => simp [StoreCall.run, hg, Except.map] at h
    | ok r' =>
      simp only [StoreCall.run, hg, Except.map, Except.ok.injEq] at h
      cases h
      exact .unchanged trivial
  | lease w k t n =>
    rcases leaseNext_ok h with
      ⟨_, rfl⟩ | ⟨op, new, _, hmem, hten, hready, httl, _, hguard, hshape, hindex, rfl⟩
    · exact .unchanged trivial
    · exact .leased op _ hmem hten hready httl hguard hshape hindex
  | acknowledge w o k f c r t => exact acknowledge_step h
  | fail w o k f d t r => exact fail_step h

/-! ## Table by table -/

/-- How a revision row may change: its content never, its state only forward
(and out of a retired one, never). -/
structure Evolves (r r' : ConfigurationRevision) : Prop where
  content : r'.toRevisionContent = r.toRevisionContent
  retired : r.state = .retired → r'.state = .retired

theorem Evolves.refl (r : ConfigurationRevision) : Evolves r r := ⟨rfl, id⟩

theorem Evolves.trans {r₁ r₂ r₃ : ConfigurationRevision} (h₁ : Evolves r₁ r₂)
    (h₂ : Evolves r₂ r₃) : Evolves r₁ r₃ :=
  ⟨h₂.content.trans h₁.content, fun h => h₂.retired (h₁.retired h)⟩

theorem Evolves.revisionId {r r' : ConfigurationRevision} (h : Evolves r r') :
    r'.revisionId = r.revisionId := congrArg RevisionContent.revisionId h.content

theorem Evolves.tenantId {r r' : ConfigurationRevision} (h : Evolves r r') :
    r'.tenantId = r.tenantId := congrArg RevisionContent.tenantId h.content

theorem Evolves.createdBy {r r' : ConfigurationRevision} (h : Evolves r r') :
    r'.createdBy = r.createdBy := congrArg RevisionContent.createdBy h.content

/-- Every row of the old table is still there in the new one, evolved. -/
def RevisionsKept (st st' : Store) : Prop :=
  ∀ r ∈ st.revisions, ∃ r' ∈ st'.revisions, Evolves r r'

theorem updateWhere_evolves {p : ConfigurationRevision → Bool}
    {f : ConfigurationRevision → ConfigurationRevision} {t : List ConfigurationRevision}
    (hf : ∀ r, p r = true → Evolves r (f r)) :
    ∀ r ∈ t, ∃ r' ∈ updateWhere p f t, Evolves r r' := by
  intro r hr
  refine ⟨_, exists_mem_updateWhere hr, ?_⟩
  split
  next hp => exact hf r hp
  next => exact Evolves.refl r

theorem movePointer_ok {st st₁ : Store} {a : Actor} {r : ConfigurationRevision}
    {v : Option Nat} {t : Time} {n : Nat} {previous : Option Digest}
    (h : movePointer st a r v t = .ok (st₁, n, previous)) :
    RevisionsKept st st₁ ∧ st₁.revisions.map (·.revisionId) = st.revisions.map (·.revisionId)
      ∧ st₁.decisions = st.decisions ∧ st₁.operations = st.operations
      ∧ (∀ d ∈ st₁.deployments, d ∈ st.deployments ∨ (d.tenantId = a.tenantId
          ∧ d.controlId = r.controlId ∧ d.revisionId = r.revisionId
          ∧ d.activatedBy = a.subject ∧ d.activatedAt = t)) := by
  unfold movePointer at h
  split at h
  next =>
    simp only [bind_eq_ok, require_eq_ok, pure_eq_ok, Prod.mk.injEq, exists_const] at h
    obtain ⟨_, rfl, _⟩ := h
    refine ⟨fun x hx => ⟨x, hx, Evolves.refl x⟩, rfl, rfl, rfl, ?_⟩
    intro d hd
    rcases List.mem_append.mp hd with hd | hd
    · exact Or.inl hd
    · rw [List.mem_singleton] at hd
      subst hd
      exact Or.inr ⟨rfl, rfl, rfl, rfl, rfl⟩
  next existing hrow =>
    simp only [bind_eq_ok, require_eq_ok, pure_eq_ok, Prod.mk.injEq, exists_const] at h
    obtain ⟨_, _, _, rfl, _⟩ := h
    refine ⟨updateWhere_evolves ?_, map_updateWhere fun _ => rfl, rfl, rfl, ?_⟩
    · intro x hx
      simp only [decide_eq_true_eq] at hx
      exact ⟨rfl, fun _ => rfl⟩
    · intro d hd
      rcases mem_updateWhere.mp hd with ⟨d₀, _, hp, rfl⟩ | ⟨hd, _⟩
      · simp only [decide_eq_true_eq] at hp
        exact Or.inr ⟨hp.1, hp.2.1, rfl, rfl, rfl⟩
      · exact Or.inl hd

/-- Revision content survives every commit, and a retired row stays retired. -/
theorem step_revisions {st st' : Store} {c : StoreCall} (h : StoreStep sha st c st') :
    RevisionsKept st st' := by
  have hsame : RevisionsKept st st := fun r hr => ⟨r, hr, Evolves.refl r⟩
  cases h with
  | unchanged => exact hsame
  | drafted r e => exact fun x hx => ⟨x, List.mem_append_left _ hx, Evolves.refl x⟩
  | submitted r e _ _ =>
    apply updateWhere_evolves
    intro x hx
    simp only [decide_eq_true_eq] at hx
    exact ⟨rfl, fun hret => by rw [hx.2.2.1] at hret; cases hret⟩
  | decided r d e _ _ =>
    apply updateWhere_evolves
    intro x hx
    simp only [decide_eq_true_eq] at hx
    exact ⟨rfl, fun hret => by rw [hx.2.2.1] at hret; cases hret⟩
  | activated r st₁ n previous op e _ _ hpointer _ => exact (movePointer_ok hpointer).1
  | rolledBack => exact hsame
  | retried => exact hsame
  | leased => exact hsame
  | acknowledged => exact hsame
  | failed => exact hsame

/-- Revision ids stay a key. -/
theorem step_revisionKeys {st st' : Store} {c : StoreCall} (h : StoreStep sha st c st')
    (hkeys : (st.revisions.map (·.revisionId)).Nodup) :
    (st'.revisions.map (·.revisionId)).Nodup := by
  cases h with
  | drafted r e hfresh => exact append_keys hkeys hfresh
  | submitted r e _ _ => exact updateWhere_keys (fun _ => rfl) hkeys
  | decided r d e _ _ => exact updateWhere_keys (fun _ => rfl) hkeys
  | activated r st₁ n previous op e _ _ hpointer _ =>
    show (st₁.revisions.map _).Nodup
    rw [(movePointer_ok hpointer).2.1]
    exact hkeys
  | _ => exact hkeys

/-- A decision row is old, or the one the call made. -/
theorem step_decisions {st st' : Store} {c : StoreCall} (h : StoreStep sha st c st') :
    (∀ d ∈ st.decisions, d ∈ st'.decisions) ∧
    ∀ d ∈ st'.decisions, d ∈ st.decisions ∨
      ∃ a v comment r, c = .decide a d.revisionId v d.decision comment d.decidedAt
        ∧ r ∈ st.revisions ∧ r.tenantId = a.tenantId ∧ r.revisionId = d.revisionId
        ∧ d.tenantId = a.tenantId
        ∧ d.decidedBy = a.subject ∧ d.actorSessionDigest = a.sessionIdDigest := by
  have hsame : ∀ ds : List ApprovalDecision, (∀ d ∈ ds, d ∈ ds) ∧
      ∀ d ∈ ds, d ∈ ds ∨
        ∃ a v comment r, c = .decide a d.revisionId v d.decision comment d.decidedAt
          ∧ r ∈ st.revisions ∧ r.tenantId = a.tenantId ∧ r.revisionId = d.revisionId
          ∧ d.tenantId = a.tenantId
          ∧ d.decidedBy = a.subject ∧ d.actorSessionDigest = a.sessionIdDigest :=
    fun ds => ⟨fun _ hd => hd, fun _ hd => Or.inl hd⟩
  cases h with
  | @decided a rid v verdict comment t r d e hrow _ hrev hten hver hby ht hses =>
    refine ⟨fun x hx => List.mem_append_left _ hx, ?_⟩
    intro x hx
    rcases List.mem_append.mp hx with hx | hx
    · exact Or.inl hx
    · rw [List.mem_singleton] at hx
      subst hx hrev hver ht
      obtain ⟨hmem, htr, hid⟩ := revisionRow_some hrow
      exact Or.inr ⟨a, v, comment, r, rfl, hmem, htr, hid, hten, hby, hses⟩
  | activated r st₁ n previous op e _ _ hpointer _ =>
    show (∀ d ∈ st.decisions, d ∈ st₁.decisions) ∧ ∀ d ∈ st₁.decisions, _
    rw [(movePointer_ok hpointer).2.2.1]
    exact hsame st.decisions
  | _ => exact hsame st.decisions

/-- A pointer row is old, or the one an activation set. -/
theorem step_deployments {st st' : Store} {c : StoreCall} (h : StoreStep sha st c st') :
    ∀ d ∈ st'.deployments, d ∈ st.deployments ∨
      ∃ a v r, c = .activateWithOperation a d.revisionId v d.activatedAt
        ∧ r ∈ st.revisions ∧ r.tenantId = a.tenantId ∧ r.revisionId = d.revisionId
        ∧ r.controlId = d.controlId ∧ r.state = .approved
        ∧ d.tenantId = a.tenantId ∧ d.activatedBy = a.subject := by
  cases h with
  | @activated a rid v t r st₁ n previous op e hrow hstate hpointer _ =>
    intro d hd
    rcases (movePointer_ok hpointer).2.2.2.2 d hd with hd | ⟨hten, hctl, hrev, hby, ht⟩
    · exact Or.inl hd
    · obtain ⟨hmem, htr, hid⟩ := revisionRow_some hrow
      refine Or.inr ⟨a, v, r, ?_, hmem, htr, hrev.symm, hctl.symm, hstate, hten, hby⟩
      rw [hrev, ht, hid]
  | _ => exact fun d hd => Or.inl hd

/-- The calls that insert an operation with request `q`, and the facts that
held of its revision in the tables before the call. -/
structure InsertedBy (st : Store) (c : StoreCall) (q : OperationRequest)
    (a : Actor) (r : ConfigurationRevision) : Prop where
  call : (∃ v, q.kind = .apply ∧ c = .activateWithOperation a r.revisionId v q.requestedAt)
    ∨ (∃ p, q.kind = .rollback ∧ c = .requestRollback a r.revisionId p q.requestedAt)
    ∨ (∃ o, q.kind = .apply ∧ c = .requestDeploymentRetry a o q.requestedAt)
  mem : r ∈ st.revisions
  tenant : q.tenantId = a.tenantId
  revisionTenant : r.tenantId = a.tenantId
  revision : q.revisionId = r.revisionId
  control : q.controlId = r.controlId
  digest : q.configurationDigest = r.configurationDigest
  requestedBy : q.requestedBy = a.subject
  session : q.requesterSessionDigest = a.sessionIdDigest
  fresh : ∀ x ∈ st.operations, x.operationId ≠ q.operationId
  maker : r.createdBy ≠ q.requestedBy
  apply_approved : q.kind = .apply → r.state = .approved
  rollback_retired : q.kind = .rollback → r.state = .retired
    ∧ ∃ d ∈ st.decisions, d.revisionId = q.revisionId ∧ d.decision = .approved

theorem updateWhere_request {p : DeploymentOperation → Bool}
    {f : DeploymentOperation → DeploymentOperation} {ops : List DeploymentOperation}
    {op : DeploymentOperation} (hop : op ∈ updateWhere p f ops)
    (hf : ∀ op, (f op).toOperationRequest = op.toOperationRequest) :
    ∃ o ∈ ops, op.toOperationRequest = o.toOperationRequest := by
  rcases mem_updateWhere.mp hop with ⟨o, ho, _, rfl⟩ | ⟨ho, _⟩
  · exact ⟨o, ho, hf o⟩
  · exact ⟨op, ho, rfl⟩

/-- The trigger's maker check, read back in the tables before the call. -/
theorem Requested.maker {st₁ : Store} {op : DeploymentOperation} {a : Actor}
    {r : ConfigurationRevision} {kind : OperationKind} {t : Time} {retryOf : Option Digest}
    (h : Requested sha st₁ op a r kind t retryOf)
    (hkeys : (st₁.revisions.map (·.revisionId)).Nodup)
    (hr : ∃ r' ∈ st₁.revisions, Evolves r r') : r.createdBy ≠ op.requestedBy := by
  obtain ⟨x, hx, _, _, hid, _, hne, _⟩ := h.guard.1
  obtain ⟨r', hr', hev⟩ := hr
  have hxr : x = r' := List.inj_on_of_nodup_map hkeys hx hr' (by
    rw [hid, hev.revisionId]
    exact h.revision)
  rw [← hev.createdBy, ← hxr]
  exact hne

/-- An operation row descends from an old row with the same request, or was
inserted by the call. -/
theorem step_operations {st st' : Store} {c : StoreCall} (h : StoreStep sha st c st')
    (hkeys : (st.revisions.map (·.revisionId)).Nodup) :
    ∀ op ∈ st'.operations,
      (∃ o ∈ st.operations, op.toOperationRequest = o.toOperationRequest) ∨
      ∃ a r, InsertedBy st c op.toOperationRequest a r := by
  have hsame : ∀ r ∈ st.revisions, ∃ r' ∈ st.revisions, Evolves r r' :=
    fun r hr => ⟨r, hr, Evolves.refl r⟩
  cases h with
  | @activated a rid v t r st₁ n previous op e hrow hstate hpointer hreq =>
    obtain ⟨hkept, hids, _, hops, _⟩ := movePointer_ok hpointer
    intro x hx
    rcases List.mem_append.mp hx with hx | hx
    · rw [hops] at hx
      exact Or.inl ⟨x, hx, rfl⟩
    · rw [List.mem_singleton] at hx
      subst hx
      obtain ⟨hmem, htr, hid⟩ := revisionRow_some hrow
      have hkind : x.kind = .apply := hreq.kind_eq
      refine Or.inr ⟨a, r, ⟨Or.inl ⟨v, hkind, ?_⟩, hmem, hreq.tenant, htr, hreq.revision,
        hreq.control, hreq.digest, hreq.requestedBy, hreq.session, ?_,
        hreq.maker (hids ▸ hkeys) (hkept r hmem), fun _ => hstate, ?_⟩⟩
      · rw [hreq.requestedAt, hid]
      · exact hops ▸ hreq.fresh
      · intro hroll
        rw [hkind] at hroll
        cases hroll
  | @rolledBack a rid p t r op e hrow hstate hmaker hreq =>
    intro x hx
    rcases List.mem_append.mp hx with hx | hx
    · exact Or.inl ⟨x, hx, rfl⟩
    · rw [List.mem_singleton] at hx
      subst hx
      obtain ⟨hmem, htr, hid⟩ := revisionRow_some hrow
      have hkind : x.kind = .rollback := hreq.kind_eq
      refine Or.inr ⟨a, r, ⟨Or.inr (Or.inl ⟨p, hkind, ?_⟩), hmem, hreq.tenant, htr,
        hreq.revision, hreq.control, hreq.digest, hreq.requestedBy, hreq.session, hreq.fresh,
        hreq.maker hkeys (hsame r hmem), ?_, ?_⟩⟩
      · rw [hreq.requestedAt, hid]
      · intro happ
        rw [hkind] at happ
        cases happ
      · intro _
        -- the trigger looked the approval up in the same tables
        obtain ⟨r', _, _, _, _, _, _, hcase⟩ := hreq.guard.1
        rcases hcase with ⟨happ, _⟩ | ⟨_, _, d, hd, _, hdr, hdv⟩
        · rw [hkind] at happ
          cases happ
        · exact ⟨hstate, d, hd, hdr, hdv⟩
  | @retried a oid t failed r op e hfrow hterm hrow hstate hmaker hreq =>
    intro x hx
    rcases List.mem_append.mp hx with hx | hx
    · exact Or.inl ⟨x, hx, rfl⟩
    · rw [List.mem_singleton] at hx
      subst hx
      obtain ⟨hmem, htr, hid⟩ := revisionRow_some hrow
      have hkind : x.kind = .apply := hreq.kind_eq
      refine Or.inr ⟨a, r, ⟨Or.inr (Or.inr ⟨oid, hkind, ?_⟩), hmem, hreq.tenant, htr,
        hreq.revision, hreq.control, hreq.digest, hreq.requestedBy, hreq.session, hreq.fresh,
        hreq.maker hkeys (hsame r hmem), fun _ => hstate, ?_⟩⟩
      · rw [hreq.requestedAt]
      · intro hroll
        rw [hkind] at hroll
        cases hroll
  | leased op e => exact fun x hx => Or.inl (updateWhere_request hx fun _ => rfl)
  | acknowledged op e => exact fun x hx => Or.inl (updateWhere_request hx fun _ => rfl)
  | failed op e => exact fun x hx => Or.inl (updateWhere_request hx fun _ => rfl)
  | _ => exact fun x hx => Or.inl ⟨x, hx, rfl⟩

/-- Operation ids stay a key. -/
theorem step_operationKeys {st st' : Store} {c : StoreCall} (h : StoreStep sha st c st')
    (hkeys : (st.operations.map (·.operationId)).Nodup) :
    (st'.operations.map (·.operationId)).Nodup := by
  cases h with
  | activated r st₁ n previous op e _ _ hpointer hreq =>
    have hops := (movePointer_ok hpointer).2.2.2.1
    apply append_keys
    · rw [hops]
      exact hkeys
    · exact hreq.fresh
  | rolledBack r op e _ _ _ hreq => exact append_keys hkeys hreq.fresh
  | retried f r op e _ _ _ _ _ hreq => exact append_keys hkeys hreq.fresh
  | leased op e => exact updateWhere_keys (fun _ => rfl) hkeys
  | acknowledged op e => exact updateWhere_keys (fun _ => rfl) hkeys
  | failed op e => exact updateWhere_keys (fun _ => rfl) hkeys
  | _ => exact hkeys

end ControlAssurance.ControlPlane
