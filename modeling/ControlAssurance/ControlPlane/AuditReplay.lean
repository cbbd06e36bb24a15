import ControlAssurance.ControlPlane.AuditChain
import ControlAssurance.ControlPlane.Lineage

/-!
# The audit log as a journal

A tenant's audit events, replayed in the order of their sequences, give back the states of its
revisions, its pointers and its deployment operations. `Replayed.record` is the replay of one
event, from its action, its object and its details alone.

One event can stand for several changes: an activation moves the pointer, retires the revision
the pointer named and inserts an operation. The replay retires the revision that the details
call the previous one; that the store retired it too, and did not find it in another state, is
what `Sound` says of pointers.
-/

namespace ControlAssurance.ControlPlane

open Lib

variable {sha : Document → Digest}

/-! ## Replay -/

structure RevisionStatus where
  revisionId : Digest
  state : RevisionState
  stateVersion : Nat
deriving DecidableEq

structure PointerStatus where
  controlId : String
  revisionId : Digest
  deploymentVersion : Nat
deriving DecidableEq

structure OperationStatus where
  operationId : Digest
  state : OperationState
  leaseFence : Nat
  retryAt : Option Time
deriving DecidableEq

/-- What a journal is replayed into. -/
structure Replayed where
  revisions : List RevisionStatus
  pointers : List PointerStatus
  operations : List OperationStatus
deriving DecidableEq

def Replayed.empty : Replayed := ⟨[], [], []⟩

/-- The revision takes a new state. -/
def Replayed.advance (s : Replayed) (revisionId : Digest) (state : RevisionState) : Replayed :=
  { s with
    revisions := s.revisions.map fun r =>
      if decide (r.revisionId = revisionId) then ⟨r.revisionId, state, r.stateVersion + 1⟩ else r }

/-- A new operation. -/
def Replayed.request (s : Replayed) (operationId : Digest) : Replayed :=
  { s with operations := s.operations ++ [⟨operationId, .pending, 0, none⟩] }

/-- The operation takes a new state. -/
def Replayed.settle (s : Replayed) (operationId : Digest) (state : OperationState) (fence : Nat)
    (retryAt : Option Time) : Replayed :=
  { s with
    operations := s.operations.map fun o =>
      if decide (o.operationId = operationId) then ⟨o.operationId, state, fence, retryAt⟩ else o }

/-- The pointer of a control, its first one or the next. -/
def Replayed.point (s : Replayed) (controlId : String) (revisionId : Digest) (version : Nat)
    (previous : Option Digest) : Replayed :=
  match previous with
  | none => { s with pointers := s.pointers ++ [⟨controlId, revisionId, version⟩] }
  | some previous =>
    { s.advance previous .retired with
      pointers := s.pointers.map fun p =>
        if decide (p.controlId = controlId) then ⟨p.controlId, revisionId, version⟩ else p }

/-- One event. -/
def Replayed.record (s : Replayed) (e : AuditEvent) : Replayed :=
  match e.body.action, e.detailsBytes with
  | .revisionCreated, .revisionCreated .. =>
    { s with revisions := s.revisions ++ [⟨e.body.objectId, .draft, 0⟩] }
  | .revisionSubmitted, .revisionTransition _ _ _ toState => s.advance e.body.objectId toState
  | .revisionApproved, .revisionDecided .. => s.advance e.body.objectId .approved
  | .revisionRejected, .revisionDecided .. => s.advance e.body.objectId .rejected
  | .revisionActivated, .revisionActivated _ controlId version operationId _ previous =>
    (s.point controlId e.body.objectId version previous).request operationId
  | .deploymentRollbackRequested, .rollbackRequested .. => s.request e.body.objectId
  | .deploymentRetryRequested, .retryRequested .. => s.request e.body.objectId
  | .deploymentLeased, .leased _ _ _ fence _ _ => s.settle e.body.objectId .leased fence none
  | .deploymentApplied, .applied _ _ fence _ _ => s.settle e.body.objectId .applied fence none
  | .deploymentFailed, .failed _ _ fence retryAt _ =>
    s.settle e.body.objectId .failed fence retryAt
  | _, _ => s

/-- The events of a tenant in the order of their sequences, replayed. -/
def replay (audit : List AuditEvent) (tenantId : String) : Replayed :=
  ((tenantEvents audit tenantId).mergeSort
    fun a b => decide (a.body.sequence ≤ b.body.sequence)).foldl Replayed.record Replayed.empty

/-! ## The tables of a tenant -/

def ConfigurationRevision.status (r : ConfigurationRevision) : RevisionStatus :=
  ⟨r.revisionId, r.state, r.stateVersion⟩

def ActiveDeployment.status (d : ActiveDeployment) : PointerStatus :=
  ⟨d.controlId, d.revisionId, d.deploymentVersion⟩

def DeploymentOperation.status (op : DeploymentOperation) : OperationStatus :=
  ⟨op.operationId, op.state, op.leaseFence, op.retryAt⟩

/-- The tenant's rows, in the columns a replay reconstructs. -/
def Store.view (st : Store) (tenantId : String) : Replayed where
  revisions := (st.revisions.filter fun r => decide (r.tenantId = tenantId)).map (·.status)
  pointers := (st.deployments.filter fun d => decide (d.tenantId = tenantId)).map (·.status)
  operations := (st.operations.filter fun o => decide (o.tenantId = tenantId)).map (·.status)

variable {st st' : Store} {a : Actor} {t : Time} {k oid rid : Digest} {r : ConfigurationRevision}
  {op x : DeploymentOperation} {w : DeploymentWorkerIdentity} {c : StoreCall}

theorem view_eq {tenantId : String} {s : Replayed}
    (hrevisions : (st.revisions.filter fun r => decide (r.tenantId = tenantId)).map (·.status)
      = s.revisions)
    (hpointers : (st.deployments.filter fun d => decide (d.tenantId = tenantId)).map (·.status)
      = s.pointers)
    (hoperations : (st.operations.filter fun o => decide (o.tenantId = tenantId)).map (·.status)
      = s.operations) : st.view tenantId = s := by
  unfold Store.view
  rw [hrevisions, hpointers, hoperations]

/-- One more row, seen by its own tenant and no other. -/
theorem filter_append_row {α β : Type} {t : List α} {r : α} {tenant : α → String} {g : α → β}
    {tenantId : String} :
    ((t ++ [r]).filter fun x => decide (tenant x = tenantId)).map g
      = (t.filter fun x => decide (tenant x = tenantId)).map g
        ++ if tenant r = tenantId then [g r] else [] := by
  rw [List.filter_append, List.map_append]
  by_cases h : tenant r = tenantId
  · rw [if_pos h, List.filter_cons_of_pos (by simpa using h), List.filter_nil, List.map_singleton]
  · rw [if_neg h, List.filter_cons_of_neg (by simpa using h), List.filter_nil, List.map_nil]

/-- The event a commit appended, and what both sides make of it: the caller's tenant sees the
replay of the event, the others see nothing. -/
structure Journalled (sha : Document → Digest) (st st' : Store) (tenantId : String) : Prop where
  event : ∃ subject session action objectId t details,
    st'.audit = st.audit ++
        [auditEvent sha st.audit tenantId subject session action objectId t details]
      ∧ st'.view tenantId = (st.view tenantId).record
        (auditEvent sha st.audit tenantId subject session action objectId t details)
  others : ∀ other, other ≠ tenantId → st'.view other = st.view other

/-! ## Revisions -/

theorem drafted_journalled {cfg : ControlConfiguration} {p : Option Digest}
    (h : createDraft sha st a cfg p t = .ok (st', rid)) : Journalled sha st st' a.tenantId := by
  obtain ⟨n, parent, htenant, -, rfl, -, rfl⟩ := createDraft_ok h
  refine ⟨⟨_, _, _, _, _, _, rfl, ?_⟩, ?_⟩
  · refine view_eq ?_ rfl rfl
    rw [filter_append_row]
    have hrow : (draftRow sha a cfg n parent t).tenantId = a.tenantId := htenant
    rw [if_pos hrow]
    rfl
  · intro other hne
    refine view_eq ?_ rfl rfl
    rw [filter_append_row]
    have hrow : (draftRow sha a cfg n parent t).tenantId ≠ other :=
      fun heq => hne (heq.symm.trans htenant)
    rw [if_neg hrow, List.append_nil]
    rfl

/-- The rows a state change matches, by the key. -/
theorem revision_named {p : ConfigurationRevision → Bool}
    (hkeys : (st.revisions.map (·.revisionId)).Nodup) (hr : r ∈ st.revisions) (hp : p r = true)
    (hid : ∀ x, p x = true → x.revisionId = r.revisionId) :
    ∀ x ∈ st.revisions, p x = true ↔ decide (x.status.revisionId = r.revisionId) = true := by
  intro x hx
  rw [decide_eq_true_eq]
  constructor
  · exact hid x
  · intro heq
    rw [List.inj_on_of_nodup_map hkeys hx hr heq]
    exact hp

/-- A change of the state of one revision, as its tenant and the others see it. -/
theorem advance_view {p : ConfigurationRevision → Bool}
    {f : ConfigurationRevision → ConfigurationRevision} (state : RevisionState)
    (hkeys : (st.revisions.map (·.revisionId)).Nodup) (hr : r ∈ st.revisions) (hp : p r = true)
    (hid : ∀ x, p x = true → x.revisionId = r.revisionId ∧ x.tenantId = r.tenantId)
    (hcontent : ∀ x, (f x).toRevisionContent = x.toRevisionContent)
    (hf : ∀ x, (f x).status = ⟨x.revisionId, state, x.stateVersion + 1⟩) (tenantId : String) :
    ((updateWhere p f st.revisions).filter fun x => decide (x.tenantId = tenantId)).map (·.status)
      = if r.tenantId = tenantId then ((st.view tenantId).advance r.revisionId state).revisions
        else (st.view tenantId).revisions := by
  have hkeep : ∀ x, decide ((f x).tenantId = tenantId) = decide (x.tenantId = tenantId) := by
    intro x
    rw [congrArg RevisionContent.tenantId (hcontent x)]
  split
  next htenant =>
    refine view_updateWhere hkeep ?_ ?_
    · intro x hx _
      exact revision_named hkeys hr hp (fun y hy => (hid y hy).1) x hx
    · intro x _ _
      exact hf x
  next htenant =>
    rw [filter_updateWhere_other ?_ hkeep]
    · rfl
    · intro x _ hpx
      exact decide_eq_false fun h => htenant ((hid x hpx).2.symm.trans h)

theorem submitted_journalled {v : Nat}
    {u : Unit} (hst : Sound sha st) (h : submit sha st a rid v t = .ok (st', u)) :
    Journalled sha st st' a.tenantId := by
  obtain ⟨r, hrow, -, hstate, hv, rfl⟩ := submit_ok h
  obtain ⟨hr, htenant, rfl⟩ := revisionRow_some hrow
  have hview := advance_view (p := revisionRows a.tenantId r.revisionId .draft v)
    (f := fun x => { x with
      state := .submitted
      stateVersion := x.stateVersion + 1
      submittedAt := some t
      decidedAt := r.decidedAt })
    .submitted hst.revisionKeys hr (decide_eq_true ⟨htenant, rfl, hstate, hv⟩)
    (fun x hx => ⟨(of_decide_eq_true hx).2.1, (of_decide_eq_true hx).1.trans htenant.symm⟩)
    (fun _ => rfl) (fun _ => rfl)
  refine ⟨⟨_, _, _, _, _, _, rfl, ?_⟩, ?_⟩
  · refine view_eq ?_ rfl rfl
    rw [hview, if_pos htenant]
    rfl
  · intro other hne
    refine view_eq ?_ rfl rfl
    rw [hview, if_neg fun heq => hne (heq.symm.trans htenant)]

theorem decided_journalled {v : Nat} {verdict : Verdict}
    {comment : String} {d : ApprovalDecision} (hst : Sound sha st)
    (h : decideRevision sha st a rid v verdict comment t = .ok (st', d)) :
    Journalled sha st st' a.tenantId := by
  obtain ⟨r, hrow, hstate, hv, -, -, -, -, rfl⟩ := decideRevision_ok h
  obtain ⟨hr, htenant, rfl⟩ := revisionRow_some hrow
  have hview := advance_view (p := revisionRows a.tenantId r.revisionId .submitted v)
    (f := fun x => { x with
      state := verdict.state
      stateVersion := x.stateVersion + 1
      decidedAt := some t })
    verdict.state hst.revisionKeys hr (decide_eq_true ⟨htenant, rfl, hstate, hv⟩)
    (fun x hx => ⟨(of_decide_eq_true hx).2.1, (of_decide_eq_true hx).1.trans htenant.symm⟩)
    (fun _ => rfl) (fun _ => rfl)
  refine ⟨⟨_, _, _, _, _, _, rfl, ?_⟩, ?_⟩
  · -- the verdict is in the action, and only there
    have hrecord : ∀ s : Replayed, s.record (auditEvent sha st.audit a.tenantId a.subject
        a.sessionIdDigest verdict.action r.revisionId t
        (.revisionDecided (sha (.comment comment)) r.controlId d.decisionId r.generation))
        = s.advance r.revisionId verdict.state := by
      intro s
      cases verdict <;> rfl
    rw [hrecord]
    refine view_eq ?_ rfl rfl
    rw [hview, if_pos htenant]
  · intro other hne
    refine view_eq ?_ rfl rfl
    rw [hview, if_neg fun heq => hne (heq.symm.trans htenant)]

/-! ## Operations -/

/-- A new operation, as its tenant and the others see it. -/
theorem request_view {kind : OperationKind} {retryOf : Option Digest}
    (hreq : Requested sha st op a r kind t retryOf) (tenantId : String) :
    ((st.operations ++ [op]).filter fun o => decide (o.tenantId = tenantId)).map (·.status)
      = if a.tenantId = tenantId then ((st.view tenantId).request op.operationId).operations
        else (st.view tenantId).operations := by
  have hpending : op.status = ⟨op.operationId, .pending, 0, none⟩ := by
    rw [hreq.pending]
    rfl
  rw [filter_append_row, hpending, hreq.tenant]
  split
  · rfl
  · exact List.append_nil _

theorem rolledBack_journalled {p : Digest} (h : requestRollback sha st a rid p t = .ok (st', op)) :
    Journalled sha st st' a.tenantId := by
  obtain ⟨r, hreq, rfl⟩ := requestRollback_ok h
  refine ⟨⟨_, _, _, _, _, _, rfl, ?_⟩, ?_⟩
  · refine view_eq rfl rfl ?_
    rw [request_view hreq, if_pos rfl]
    rfl
  · intro other hne
    refine view_eq rfl rfl ?_
    rw [request_view hreq, if_neg hne.symm]

theorem retried_journalled (h : requestDeploymentRetry sha st a oid t = .ok (st', op)) :
    Journalled sha st st' a.tenantId := by
  obtain ⟨r, failed, hreq, rfl⟩ := requestDeploymentRetry_ok h
  refine ⟨⟨_, _, _, _, _, _, rfl, ?_⟩, ?_⟩
  · refine view_eq rfl rfl ?_
    rw [request_view hreq, if_pos rfl]
    rfl
  · intro other hne
    refine view_eq rfl rfl ?_
    rw [request_view hreq, if_neg hne.symm]

/-- A change of one operation, as its tenant and the others see it. -/
theorem settle_view {p : DeploymentOperation → Bool}
    {f : DeploymentOperation → DeploymentOperation} (state : OperationState) (fence : Nat)
    (retryAt : Option Time) (hkeys : (st.operations.map (·.operationId)).Nodup)
    (hop : op ∈ st.operations) (hp : p op = true)
    (hid : ∀ x, p x = true → x.operationId = op.operationId)
    (hrequest : ∀ x, (f x).toOperationRequest = x.toOperationRequest)
    (hf : (f op).status = ⟨op.operationId, state, fence, retryAt⟩) (tenantId : String) :
    ((updateWhere p f st.operations).filter fun x => decide (x.tenantId = tenantId)).map (·.status)
      = if op.tenantId = tenantId
        then ((st.view tenantId).settle op.operationId state fence retryAt).operations
        else (st.view tenantId).operations := by
  have hkeep : ∀ x, decide ((f x).tenantId = tenantId) = decide (x.tenantId = tenantId) := by
    intro x
    rw [congrArg OperationRequest.tenantId (hrequest x)]
  have hrow : ∀ x ∈ st.operations, p x = true → x = op :=
    fun x hx hpx => List.inj_on_of_nodup_map hkeys hx hop (hid x hpx)
  split
  next htenant =>
    refine view_updateWhere hkeep ?_ ?_
    · intro x hx _
      show p x = true ↔ decide (x.operationId = op.operationId) = true
      rw [decide_eq_true_eq]
      refine ⟨hid x, fun heq => ?_⟩
      rw [List.inj_on_of_nodup_map hkeys hx hop heq]
      exact hp
    · intro x hx hpx
      rw [hrow x hx hpx]
      exact hf
  next htenant =>
    rw [filter_updateWhere_other ?_ hkeep]
    · rfl
    · intro x hx hpx
      rw [hrow x hx hpx]
      exact decide_eq_false htenant

theorem leaseRows_id (h : leaseRows w op t x = true) : x.operationId = op.operationId :=
  (of_decide_eq_true (Bool.and_eq_true_iff.mp h).1).2.1

theorem heldRows_id {fence : Nat}
    (h : heldRows w oid k fence t op x = true) : x.operationId = oid :=
  (of_decide_eq_true (Bool.and_eq_true_iff.mp h).1).2.1

theorem heldRows_fence {fence : Nat} (h : heldRows w oid k fence t op x = true) :
    x.state = .leased ∧ x.leaseFence = fence := by
  have hheld := (Bool.and_eq_true_iff.mp h).2
  unfold DeploymentOperation.heldBy at hheld
  exact ⟨(of_decide_eq_true hheld).1, (of_decide_eq_true hheld).2.2.2.1⟩

theorem leased_journalled {n : Nat} {ans : Option DeploymentOperation}
    (hkeys : (st.operations.map (·.operationId)).Nodup)
    (h : leaseNextDeploymentOperation sha st w k t n = .ok (st', ans)) :
    (ans = none ∧ st' = st) ∨ (ans ≠ none ∧ Journalled sha st st' w.tenantId) := by
  rcases leaseNext_ok h with hnone | ⟨op, _, hans, hop, htenant, hready, -, -, -, -, -, rfl⟩
  · exact Or.inl hnone
  · have hview := settle_view (p := leaseRows w op t)
      (f := fun x => x.lease (op.attemptCount + 1) w.workerId k t (t + n))
      .leased (op.attemptCount + 1) none hkeys hop (leaseRows_self htenant hready)
      (fun x hx => leaseRows_id hx) (fun _ => rfl) rfl
    refine Or.inr ⟨by simp [hans], ⟨_, _, _, _, _, _, rfl, ?_⟩, ?_⟩
    · refine view_eq rfl rfl ?_
      rw [hview, if_pos htenant]
      rfl
    · intro other hne
      refine view_eq rfl rfl ?_
      rw [hview, if_neg fun heq => hne (heq.symm.trans htenant)]

theorem acknowledged_journalled {fence : Nat} {digest receipt : Digest} {new : DeploymentOperation}
    (hkeys : (st.operations.map (·.operationId)).Nodup)
    (h : acknowledgeDeploymentApplied sha st w oid k fence digest receipt t = .ok (st', new)) :
    Journalled sha st st' w.tenantId := by
  obtain ⟨op, hrow, hvalid, hheld, rfl⟩ := acknowledge_ok h
  obtain ⟨hop, htenant, rfl⟩ := operationRow_some hrow
  obtain ⟨hstate, hfence⟩ := heldRows_fence hheld
  -- a leased row has no retry time
  have hretry : op.retryAt = none := by
    have hshape := (Bool.and_eq_true_iff.mp hvalid).2
    unfold DeploymentOperation.stateShape at hshape
    rw [hstate] at hshape
    exact (of_decide_eq_true hshape).2.2.2.2.2.2.1
  have hview := settle_view (p := heldRows w op.operationId k fence t op)
    (f := fun x => x.acknowledge t digest receipt) .applied fence none hkeys hop hheld (fun x hx => heldRows_id hx) (fun _ => rfl)
    (by
      show OperationStatus.mk op.operationId .applied op.leaseFence op.retryAt = _
      rw [hfence, hretry])
  refine ⟨⟨_, _, _, _, _, _, rfl, ?_⟩, ?_⟩
  · refine view_eq rfl rfl ?_
    rw [hview, if_pos htenant]
    rfl
  · intro other hne
    refine view_eq rfl rfl ?_
    rw [hview, if_neg fun heq => hne (heq.symm.trans htenant)]

theorem failed_journalled
    {fence : Nat} {failure : Digest} {retryAt : Option Time} {new : DeploymentOperation}
    (hkeys : (st.operations.map (·.operationId)).Nodup)
    (h : failDeploymentOperation sha st w oid k fence failure t retryAt = .ok (st', new)) :
    Journalled sha st st' w.tenantId := by
  obtain ⟨op, hrow, hheld, rfl⟩ := fail_ok h
  obtain ⟨hop, htenant, rfl⟩ := operationRow_some hrow
  have hview := settle_view (p := heldRows w op.operationId k fence t op)
    (f := fun x => x.fail t failure retryAt) .failed fence retryAt hkeys hop hheld (fun x hx => heldRows_id hx) (fun _ => rfl)
    (by
      show OperationStatus.mk op.operationId .failed op.leaseFence retryAt = _
      rw [(heldRows_fence hheld).2])
  refine ⟨⟨_, _, _, _, _, _, rfl, ?_⟩, ?_⟩
  · refine view_eq rfl rfl ?_
    rw [hview, if_pos htenant]
    rfl
  · intro other hne
    refine view_eq rfl rfl ?_
    rw [hview, if_neg fun heq => hne (heq.symm.trans htenant)]

/-! ## Activation -/

/-- The moved pointer and the retired revision, as the tenant and the others see them. -/
theorem moved_view {st₁ : Store} {n : Nat}
    {previous : Option Digest} (hst : Sound sha st) (h : Moved st a r t st₁ n previous)
    (tenantId : String) :
    st₁.view tenantId = if a.tenantId = tenantId
      then (st.view tenantId).point r.controlId r.revisionId n previous
      else st.view tenantId := by
  cases h with
  | first habsent =>
    refine view_eq ?_ ?_ ?_
    · split <;> rfl
    · rw [filter_append_row]
      show _ ++ (if a.tenantId = tenantId then _ else _) = _
      split
      · rfl
      · exact List.append_nil _
    · split <;> rfl
  | @next existing hrow hother =>
    obtain ⟨hmem, het, hec⟩ := deploymentRow_some hrow
    obtain ⟨old, hold, hoid, -, hot, -, hstate⟩ := hst.pointers existing hmem
    have hrevisions := advance_view (p := retiredRows a.tenantId existing.revisionId)
      (f := ConfigurationRevision.retire) .retired hst.revisionKeys hold
      (decide_eq_true ⟨hot.trans het, hoid, hstate⟩)
      (fun x hx => ⟨(of_decide_eq_true hx).2.1.trans hoid.symm,
        (of_decide_eq_true hx).1.trans (hot.trans het).symm⟩)
      (fun _ => rfl) (fun _ => rfl) tenantId
    rw [hot.trans het, hoid] at hrevisions
    by_cases htenant : a.tenantId = tenantId
    · rw [if_pos htenant] at hrevisions ⊢
      refine view_eq hrevisions ?_ rfl
      refine view_updateWhere (fun _ => rfl) ?_ ?_
      · intro d hd hkeep
        -- a control has one pointer
        show pointerRows _ _ _ d = true ↔ decide (d.controlId = r.controlId) = true
        rw [decide_eq_true_eq]
        refine ⟨fun hp => (of_decide_eq_true hp).2.1, fun hc => ?_⟩
        have hde : d = existing := List.inj_on_of_nodup_map hst.deploymentKeys hd hmem (by
          show (d.tenantId, d.controlId) = (existing.tenantId, existing.controlId)
          rw [of_decide_eq_true hkeep, hc, hec, het, htenant])
        rw [hde]
        exact decide_eq_true ⟨het, hec, rfl⟩
      · intro d _ _
        rfl
    · rw [if_neg htenant] at hrevisions ⊢
      refine view_eq hrevisions ?_ rfl
      dsimp only
      rw [filter_updateWhere_other ?_ ?_]
      · rfl
      · intro d _ hp
        exact decide_eq_false fun h => htenant ((of_decide_eq_true hp).1.symm.trans h)
      · intro d
        rfl

theorem activated_journalled {v : Option Nat}
    {ans : ActiveDeployment × DeploymentOperation} (hst : Sound sha st)
    (h : activateWithOperation sha st a rid v t = .ok (st', ans)) :
    Journalled sha st st' a.tenantId := by
  obtain ⟨r, st₁, n, previous, -, -, hmoved, hreq, rfl⟩ := activateWithOperation_ok h
  have haudit : st₁.audit = st.audit := by cases hmoved <;> rfl
  have hmove := moved_view hst hmoved
  rw [haudit]
  refine ⟨⟨_, _, _, _, _, _, rfl, ?_⟩, ?_⟩
  · have hown := hmove a.tenantId
    rw [if_pos rfl] at hown
    show _ = (((st.view a.tenantId).point r.controlId r.revisionId n previous).request
      ans.2.operationId)
    rw [← hown]
    refine view_eq rfl rfl ?_
    rw [request_view hreq, if_pos rfl]
  · intro other hne
    have hothers := hmove other
    rw [if_neg hne.symm] at hothers
    rw [← hothers]
    refine view_eq rfl rfl ?_
    rw [request_view hreq, if_neg hne.symm]

/-! ## Calls -/

/-- The tenant of the actor or the worker, or the tenant asked about. -/
def StoreCall.tenantId : StoreCall → String
  | .createDraft a .. => a.tenantId
  | .getRevision tenantId _ => tenantId
  | .submit a .. => a.tenantId
  | .decide a .. => a.tenantId
  | .activateWithOperation a .. => a.tenantId
  | .requestRollback a .. => a.tenantId
  | .requestDeploymentRetry a .. => a.tenantId
  | .getDeploymentOperation tenantId _ => tenantId
  | .lease w .. => w.tenantId
  | .acknowledge w .. => w.tenantId
  | .fail w .. => w.tenantId

/-- The reads, and a lease that found nothing. -/
def StoreCall.Silent : (c : StoreCall) → c.Answer → Prop
  | .getRevision .., _ => True
  | .getDeploymentOperation .., _ => True
  | .lease .., ans => ans = none
  | _, _ => False

/-- The revision that a method reads back after its commit and returns. -/
def StoreCall.readBack : (c : StoreCall) → c.Answer → Option (String × Digest)
  | .createDraft _ cfg _ _, revisionId => some (cfg.tenantId, revisionId)
  | .submit a revisionId _ _, _ => some (a.tenantId, revisionId)
  | .decide a revisionId _ _ _ _, _ => some (a.tenantId, revisionId)
  | _, _ => none

/-- A method as its caller sees it: the transaction, and then the revision it returns. A method
that raises after its commit would leave changed tables behind. -/
def StoreCall.invoke (sha : Document → Digest) (c : StoreCall) (st : Store) :
    Except ControlPlaneError (c.Answer × Option ConfigurationRevision) × Store :=
  match c.run sha st with
  | .error e => (.error e, st)
  | .ok (st', ans) =>
    match c.readBack ans with
    | none => (.ok (ans, none), st')
    | some key => ((ControlPlane.getRevision sha st' key.1 key.2).map fun r => (ans, some r), st')

/-- **One commit**: nothing, or one event that says what happened. -/
theorem commit_journalled {ans : c.Answer} (hst : Sound sha st)
    (hkeys : (st.operations.map (·.operationId)).Nodup) (h : c.run sha st = .ok (st', ans)) :
    (c.Silent ans ∧ st' = st) ∨ (¬c.Silent ans ∧ Journalled sha st st' c.tenantId) := by
  cases c with
  | createDraft a cfg p t => exact Or.inr ⟨id, drafted_journalled h⟩
  | getRevision tenantId rid =>
    obtain ⟨_, -, heq⟩ := map_eq_ok.mp h
    exact Or.inl ⟨trivial, (congrArg (·.1) heq).symm⟩
  | submit a rid v t => exact Or.inr ⟨id, submitted_journalled hst h⟩
  | decide a rid v d comment t => exact Or.inr ⟨id, decided_journalled hst h⟩
  | activateWithOperation a rid v t => exact Or.inr ⟨id, activated_journalled hst h⟩
  | requestRollback a rid p t => exact Or.inr ⟨id, rolledBack_journalled h⟩
  | requestDeploymentRetry a oid t => exact Or.inr ⟨id, retried_journalled h⟩
  | getDeploymentOperation tenantId oid =>
    obtain ⟨_, -, heq⟩ := map_eq_ok.mp h
    exact Or.inl ⟨trivial, (congrArg (·.1) heq).symm⟩
  | lease w k t n => exact leased_journalled hkeys h
  | acknowledge w oid k f d r t => exact Or.inr ⟨id, acknowledged_journalled hkeys h⟩
  | fail w oid k f d t r => exact Or.inr ⟨id, failed_journalled hkeys h⟩

/-- The revision a method reads back is there. -/
theorem readBack_mem {ans : c.Answer} {key : String × Digest}
    (h : c.run sha st = .ok (st', ans)) (hkey : c.readBack ans = some key) :
    ∃ r ∈ st'.revisions, r.tenantId = key.1 ∧ r.revisionId = key.2 := by
  -- a state change keeps the id and the tenant of every row
  have hupdated : ∀ (p : ConfigurationRevision → Bool)
      (f : ConfigurationRevision → ConfigurationRevision) (r : ConfigurationRevision),
      (∀ x, (f x).toRevisionContent = x.toRevisionContent) → r ∈ st.revisions →
      r.tenantId = key.1 → r.revisionId = key.2 →
      ∃ x ∈ updateWhere p f st.revisions, x.tenantId = key.1 ∧ x.revisionId = key.2 := by
    intro p f r hf hr ht hid
    refine ⟨_, exists_mem_updateWhere hr, ?_⟩
    split
    · exact ⟨(congrArg RevisionContent.tenantId (hf r)).trans ht,
        (congrArg RevisionContent.revisionId (hf r)).trans hid⟩
    · exact ⟨ht, hid⟩
  cases c with
  | createDraft a cfg p t =>
    cases hkey
    obtain ⟨n, parent, -, -, rfl, -, rfl⟩ := createDraft_ok h
    exact ⟨_, List.mem_append_right _ (List.mem_singleton.mpr rfl), rfl, rfl⟩
  | submit a rid v t =>
    cases hkey
    obtain ⟨r, hrow, -, -, -, rfl⟩ := submit_ok h
    obtain ⟨hr, ht, hid⟩ := revisionRow_some hrow
    exact hupdated _ _ r (fun _ => rfl) hr ht hid
  | decide a rid v d comment t =>
    cases hkey
    obtain ⟨r, hrow, -, -, -, -, -, -, rfl⟩ := decideRevision_ok h
    obtain ⟨hr, ht, hid⟩ := revisionRow_some hrow
    exact hupdated _ _ r (fun _ => rfl) hr ht hid
  | _ => cases hkey

/-- A sound store reads back every revision it has. -/
theorem Sound.getRevision (hst : Sound sha st) {tenantId : String}
    (h : ∃ r ∈ st.revisions, r.tenantId = tenantId ∧ r.revisionId = rid) :
    ∃ r, ControlPlane.getRevision sha st tenantId rid = .ok r := by
  obtain ⟨r, hr, ht, hid⟩ := h
  cases hrow : st.revisionRow tenantId rid with
  | none =>
    have hnot := List.find?_eq_none.mp hrow r hr
    exact absurd (decide_eq_true ⟨ht, hid⟩) hnot
  | some x =>
    refine ⟨x, ?_⟩
    unfold ControlPlane.getRevision
    simp only [bind_eq_ok, expect_eq_ok, readRevision_eq_ok]
    exact ⟨x, hrow, hst.valid x (revisionRow_some hrow).1, rfl⟩

/-! ## Runs -/

/-- What one call does to the tables and the log. -/
def Atomic (sha : Document → Digest) (st : Store) (c : StoreCall) : Prop :=
  (∃ e, c.invoke sha st = (.error e, st)) ∨
  ∃ ans r st', c.invoke sha st = (.ok (ans, r), st')
    ∧ ((c.Silent ans ∧ st' = st)
      ∨ (¬c.Silent ans ∧ ∃ e, st'.audit = st.audit ++ [e] ∧ e.body.tenantId = c.tenantId))

theorem invoke_atomic (hst : Sound sha st)
    (hkeys : (st.operations.map (·.operationId)).Nodup) (c : StoreCall) : Atomic sha st c := by
  unfold Atomic StoreCall.invoke
  cases hrun : c.run sha st with
  | error e => exact Or.inl ⟨e, rfl⟩
  | ok result =>
    obtain ⟨st', ans⟩ := result
    have hlog : (c.Silent ans ∧ st' = st)
        ∨ (¬c.Silent ans ∧ ∃ e, st'.audit = st.audit ++ [e] ∧ e.body.tenantId = c.tenantId) := by
      rcases commit_journalled hst hkeys hrun with hsilent | ⟨hloud, hjournal⟩
      · exact Or.inl hsilent
      · obtain ⟨_, _, _, _, _, _, haudit, -⟩ := hjournal.event
        exact Or.inr ⟨hloud, _, haudit, rfl⟩
    refine Or.inr ?_
    dsimp only
    cases hkey : c.readBack ans with
    | none => exact ⟨ans, none, st', rfl, hlog⟩
    | some key =>
      obtain ⟨r, hr⟩ := (commit_sound hst hrun).getRevision (readBack_mem hrun hkey)
      refine ⟨ans, some r, st', ?_, hlog⟩
      dsimp only
      rw [hr]
      rfl

/-- A log that replays to the tables of every tenant. -/
structure Replays (sha : Document → Digest) (st : Store) : Prop where
  sound : Sound sha st
  operationKeys : (st.operations.map (·.operationId)).Nodup
  chained : Chained sha st.audit
  replayed : ∀ tenantId,
    (tenantEvents st.audit tenantId).foldl Replayed.record Replayed.empty = st.view tenantId

theorem commit_replays {ans : c.Answer} (hst : Replays sha st)
    (h : c.run sha st = .ok (st', ans)) : Replays sha st' := by
  refine ⟨commit_sound hst.sound h, step_operationKeys (run_step h) hst.operationKeys,
    commit_chained hst.chained h, ?_⟩
  intro tenantId
  rcases commit_journalled hst.sound hst.operationKeys h with ⟨-, rfl⟩ | ⟨-, hjournal⟩
  · exact hst.replayed tenantId
  · obtain ⟨_, _, _, _, _, _, haudit, hview⟩ := hjournal.event
    rw [haudit, tenantEvents_append, List.foldl_append, hst.replayed tenantId]
    by_cases htenant : c.tenantId = tenantId
    · rw [← htenant, hview]
      exact congrArg _ (if_pos rfl)
    · rw [if_neg (by exact htenant)]
      exact (hjournal.others tenantId fun heq => htenant heq.symm).symm

theorem execute_replays (sha : Document → Digest) (calls : List StoreCall) :
    Replays sha (execute sha calls World.init).store :=
  execute_keeps (P := Replays sha) (fun hst hrun => commit_replays hst hrun) calls
    (w := World.init) ⟨sound_init, List.nodup_nil, chained_nil, fun _ => rfl⟩

/-- **A faithful journal.** After any calls, the next one either raises and changes nothing or
returns and appends one event for its tenant, unless it is a read or an empty lease; and the
events of each tenant replay to its tables. -/
theorem audit_log_faithful (sha : Document → Digest) (calls : List StoreCall) :
    (∀ c, Atomic sha (execute sha calls World.init).store c)
      ∧ ∀ tenantId, replay (execute sha calls World.init).store.audit tenantId
        = (execute sha calls World.init).store.view tenantId := by
  have hst := execute_replays sha calls
  refine ⟨invoke_atomic hst.sound hst.operationKeys, ?_⟩
  intro tenantId
  unfold replay
  rw [List.mergeSort_of_pairwise]
  · exact hst.replayed tenantId
  · exact (hst.chained.increasing tenantId).imp fun hlt => decide_eq_true (Nat.le_of_lt hlt)

end ControlAssurance.ControlPlane
