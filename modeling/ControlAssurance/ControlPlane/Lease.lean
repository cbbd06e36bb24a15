import Mathlib.Data.Int.Order.Basic
import ControlAssurance.Lib.FencedLease
import ControlAssurance.ControlPlane.Service

/-!
# The lease protocol of deployment operations

A deployment operation is a fenced lease (`Lib.FencedLease`): `leaseView` reads
the lease off a row, `leaseHistory` reads the events of one operation off the
commits of a run, and the invariant `Tracked` says that the two always match.
What the protocol promises then follows from the three facts about histories,
for any list of store calls with any clocks, tokens and delays.
-/

namespace ControlAssurance.ControlPlane

open Lib Lib.FencedLease

variable {sha : Document → Digest}

/-- A run: calls arrive in some order, each one transaction. -/
def execute (sha : Document → Digest) (calls : List StoreCall) (w : World) : World :=
  calls.foldl (fun w c => (transact sha c w).2) w

/-! ## The abstract lease of a row -/

/-- The grant a leased row is held under. -/
def DeploymentOperation.grant? (op : DeploymentOperation) :
    Option (Grant String Digest Time) :=
  match op.state, op.leaseOwner, op.leaseTokenDigest, op.leasedAt, op.leaseExpiresAt with
  | .leased, some owner, some token, some since, some expires =>
    some ⟨owner, token, op.leaseFence, since, expires⟩
  | _, _, _, _, _ => none

def DeploymentOperation.leaseView (op : DeploymentOperation) : Lease String Digest Time :=
  ⟨op.leaseFence, op.grant?, op.closed⟩

/-- What a committed call did to operation `oid`, as a lease event. -/
def callEvent (oid : Digest) : (c : StoreCall) → c.Answer →
    Option (Event String Digest Time)
  | .lease w k t n, ans =>
    match (ans : Option DeploymentOperation) with
    | some op =>
      if op.operationId = oid then
        some (.grant ⟨w.workerId, k, op.leaseFence, t, t + n⟩)
      else none
    | none => none
  | .acknowledge w o k f _ _ t, _ =>
    if o = oid then some (.release w.workerId k f t true) else none
  | .fail w o k f _ t retryAt, _ =>
    if o = oid then some (.release w.workerId k f t retryAt.isNone) else none
  | _, _ => none

def Commit.event (oid : Digest) (e : Commit) : Option (Event String Digest Time) :=
  callEvent oid e.call e.answer

/-- The lease events of operation `oid` in the order they were committed. -/
def leaseHistory (oid : Digest) (log : List Commit) : List (Event String Digest Time) :=
  log.filterMap (Commit.event oid)

theorem leaseHistory_concat (oid : Digest) (log : List Commit) (e : Commit) :
    leaseHistory oid (log ++ [e]) = leaseHistory oid log ++ (e.event oid).toList := by
  unfold leaseHistory
  rw [List.filterMap_append]
  cases he : e.event oid <;> simp [he]

variable {k oid : Digest} {e : Commit} {st st' : Store} {new old op : DeploymentOperation}
  {t : Time} {c : StoreCall} {w : World}

theorem leaseHistory_append_cons {pre post : List Commit}
    {ev : Event String Digest Time} (he : e.event oid = some ev) :
    leaseHistory oid (pre ++ e :: post)
      = leaseHistory oid pre ++ ev :: leaseHistory oid post := by
  unfold leaseHistory
  rw [List.filterMap_append, List.filterMap_cons_some he]

/-! ## One row changes -/

/-- The commit replaced row `old` by `new`, and no other row. -/
structure RowChange (st st' : Store) (old new : DeploymentOperation) : Prop where
  mem : old ∈ st.operations
  request : new.toOperationRequest = old.toOperationRequest
  rows : ∀ x, x ∈ st'.operations ↔
    x = new ∨ (x ∈ st.operations ∧ x.operationId ≠ old.operationId)

theorem RowChange.operationId (h : RowChange st st' old new) : new.operationId = old.operationId :=
  congrArg OperationRequest.operationId h.request

theorem RowChange.mem_new (h : RowChange st st' old new) : new ∈ st'.operations :=
  (h.rows new).mpr (Or.inl rfl)

/-- An update of the row with id `oid`, read back by id. -/
theorem rowChange_of_update {p : DeploymentOperation → Bool}
    {f : DeploymentOperation → DeploymentOperation}
    {tenantId : String} (hkeys : (st.operations.map (·.operationId)).Nodup)
    (hmem : old ∈ st.operations) (hp : p old = true)
    (hid : ∀ x, p x = true → x.operationId = old.operationId)
    (hf : (f old).toOperationRequest = old.toOperationRequest)
    (hst : st'.operations = updateWhere p f st.operations)
    (hnew : st'.operationRow tenantId old.operationId = some new) :
    RowChange st st' old new ∧ new = f old := by
  have hrows : ∀ x, x ∈ st'.operations ↔
      x = f old ∨ (x ∈ st.operations ∧ x.operationId ≠ old.operationId) := by
    intro x
    rw [hst]
    exact mem_updateWhere_key hkeys hmem hp hid
  obtain ⟨hmem', _, hidnew⟩ := operationRow_some hnew
  have heq : new = f old := by
    rcases (hrows new).mp hmem' with heq | ⟨_, hne⟩
    · exact heq
    · exact absurd hidnew hne
  subst heq
  exact ⟨⟨hmem, hf, hrows⟩, rfl⟩

theorem leased_row {w : DeploymentWorkerIdentity} {n : Nat}
    (hkeys : (st.operations.map (·.operationId)).Nodup)
    (h : leaseNextDeploymentOperation sha st w k t n = .ok (st', some new)) :
    ∃ old, RowChange st st' old new ∧ old.tenantId = w.tenantId
      ∧ old.eligible t = true ∧ new.stateShape = true
      ∧ new = old.lease (old.attemptCount + 1) w.workerId k t (t + n) := by
  rcases leaseNext_ok h with
    ⟨hnone, _⟩ | ⟨op, new', hans, hmem, hten, hready, _, hnew, _, hshape, _, rfl⟩
  · cases hnone
  · cases hans
    have hp := leaseRows_self hten hready
    obtain ⟨hchange, hnew'⟩ := rowChange_of_update hkeys hmem hp
      (by
        intro x hx
        simp only [leaseRows, Bool.and_eq_true, decide_eq_true_eq] at hx
        exact hx.1.2.1)
      (by rfl) rfl hnew
    refine ⟨op, hchange, hten, hready, ?_, hnew'⟩
    rw [hnew']
    exact hshape op hmem hp

variable {fence : Nat}

theorem heldRows_self {w : DeploymentWorkerIdentity} (hten : op.tenantId = w.tenantId)
    (hid : op.operationId = oid) (hheld : op.heldBy w.workerId k fence t = true) :
    heldRows w oid k fence t op op = true := by
  simp [heldRows, hten, hid, hheld]

theorem heldRows_operationId {w : DeploymentWorkerIdentity}
    {x : DeploymentOperation} (h : heldRows w oid k fence t op x = true) :
    x.operationId = oid := by
  simp only [heldRows, Bool.and_eq_true, decide_eq_true_eq] at h
  exact h.1.2.1

theorem acknowledge_answer {w : DeploymentWorkerIdentity} {digest receipt : Digest}
    (h : acknowledgeDeploymentApplied sha st w oid k fence digest receipt t
      = .ok (st', op)) : st'.operationRow w.tenantId oid = some op := by
  simp only [acknowledgeDeploymentApplied, bind_eq_ok, require_eq_ok, expect_eq_ok,
    readOperation_eq_ok, pure_eq_ok, Prod.mk.injEq, exists_const] at h
  obtain ⟨_, _, _, _, _, _, _, _, _, st₂, _, new, hnew, _, ⟨_, rfl⟩, rfl, rfl⟩ := h
  exact hnew

theorem acknowledged_row {w : DeploymentWorkerIdentity} {digest receipt : Digest}
    (hkeys : (st.operations.map (·.operationId)).Nodup)
    (h : acknowledgeDeploymentApplied sha st w oid k fence digest receipt t
      = .ok (st', new)) :
    ∃ old, RowChange st st' old new ∧ old.operationId = oid
      ∧ old.heldBy w.workerId k fence t = true ∧ new.stateShape = true
      ∧ digest = old.configurationDigest ∧ new = old.acknowledge t digest receipt := by
  have hans := acknowledge_answer h
  cases acknowledge_step h with
  | unchanged hquiet => exact hquiet.elim
  | acknowledged op e hrow hheld hdigest hshape _ =>
    obtain ⟨hmem, hten, hid⟩ := operationRow_some hrow
    subst hid
    have hp := heldRows_self hten rfl hheld
    obtain ⟨hchange, hnew⟩ := rowChange_of_update hkeys hmem hp
      (fun x hx => heldRows_operationId hx) (by rfl) rfl hans
    refine ⟨op, hchange, rfl, hheld, ?_, hdigest, hnew⟩
    rw [hnew]
    exact hshape op hmem hp

theorem fail_answer {w : DeploymentWorkerIdentity} {failure : Digest} {retryAt : Option Time}
    (h : failDeploymentOperation sha st w oid k fence failure t retryAt
      = .ok (st', op)) : st'.operationRow w.tenantId oid = some op := by
  simp only [failDeploymentOperation, bind_eq_ok, require_eq_ok, expect_eq_ok,
    readOperation_eq_ok, pure_eq_ok, Prod.mk.injEq, exists_const] at h
  obtain ⟨_, _, _, _, _, _, _, _, _, st₂, _, new, hnew, _, ⟨_, rfl⟩, rfl, rfl⟩ := h
  exact hnew

theorem failed_row {w : DeploymentWorkerIdentity} {failure : Digest} {retryAt : Option Time}
    (hkeys : (st.operations.map (·.operationId)).Nodup)
    (h : failDeploymentOperation sha st w oid k fence failure t retryAt
      = .ok (st', new)) :
    ∃ old, RowChange st st' old new ∧ old.operationId = oid
      ∧ old.heldBy w.workerId k fence t = true ∧ new.stateShape = true
      ∧ new = old.fail t failure retryAt := by
  have hans := fail_answer h
  cases fail_step h with
  | unchanged hquiet => exact hquiet.elim
  | failed op e hrow hheld hshape _ =>
    obtain ⟨hmem, hten, hid⟩ := operationRow_some hrow
    subst hid
    have hp := heldRows_self hten rfl hheld
    obtain ⟨hchange, hnew⟩ := rowChange_of_update hkeys hmem hp
      (fun x hx => heldRows_operationId hx) (by rfl) rfl hans
    refine ⟨op, hchange, rfl, hheld, ?_, hnew⟩
    rw [hnew]
    exact hshape op hmem hp

/-- The calls of the lease protocol. -/
def StoreCall.leaseCall : StoreCall → Bool
  | .lease .. => true
  | .acknowledge .. => true
  | .fail .. => true
  | _ => false

/-- Every other call leaves the rows alone and may insert a pending one under a
new id. -/
theorem step_otherRows (h : StoreStep sha st c st') (hc : c.leaseCall = false) :
    (∀ x ∈ st.operations, x ∈ st'.operations) ∧
    ∀ x ∈ st'.operations, x ∈ st.operations ∨ (x = pendingOperation x.toOperationRequest
        ∧ ∀ y ∈ st.operations, y.operationId ≠ x.operationId) := by
  have hsame : (∀ x ∈ st.operations, x ∈ st.operations) ∧
      ∀ x ∈ st.operations, x ∈ st.operations ∨
        (x = pendingOperation x.toOperationRequest
          ∧ ∀ y ∈ st.operations, y.operationId ≠ x.operationId) :=
    ⟨fun _ hx => hx, fun _ hx => Or.inl hx⟩
  have happend : ∀ op : DeploymentOperation, op = pendingOperation op.toOperationRequest →
      (∀ y ∈ st.operations, y.operationId ≠ op.operationId) →
      (∀ x ∈ st.operations, x ∈ st.operations ++ [op]) ∧
      ∀ x ∈ st.operations ++ [op], x ∈ st.operations ∨
        (x = pendingOperation x.toOperationRequest
          ∧ ∀ y ∈ st.operations, y.operationId ≠ x.operationId) := by
    intro op hpend hfresh
    refine ⟨fun x hx => List.mem_append_left _ hx, ?_⟩
    intro x hx
    rcases List.mem_append.mp hx with hx | hx
    · exact Or.inl hx
    · rw [List.mem_singleton] at hx
      subst hx
      exact Or.inr ⟨hpend, hfresh⟩
  cases h with
  | activated r st₁ n previous op e _ _ hpointer hreq =>
    have hops := (movePointer_ok hpointer).2.2.2.1
    show (∀ x ∈ st.operations, x ∈ st₁.operations ++ [op]) ∧
      ∀ x ∈ st₁.operations ++ [op], _
    have hfresh := hreq.fresh
    rw [hops] at hfresh ⊢
    exact happend op hreq.pending hfresh
  | rolledBack r op e _ _ _ hreq => exact happend op hreq.pending hreq.fresh
  | retried f r op e _ _ _ _ _ hreq => exact happend op hreq.pending hreq.fresh
  | leased => cases hc
  | acknowledged => cases hc
  | failed => cases hc
  | _ => exact hsame

/-! ## Rows follow their history -/

theorem grant?_some {g : Grant String Digest Time} (h : op.grant? = some g) :
    op.state = .leased ∧ op.leaseExpiresAt = some g.expires := by
  unfold DeploymentOperation.grant? at h
  split at h
  next hs _ _ _ he =>
    cases h
    exact ⟨hs, he⟩
  next => cases h

/-- A row that may be leased is not closed, and whoever holds it is out of time. -/
theorem eligible_free (h : op.eligible t = true) :
    op.closed = false ∧ ∀ g, op.grant? = some g → g.expires ≤ t := by
  simp only [DeploymentOperation.eligible, decide_eq_true_eq] at h
  constructor
  · simp only [DeploymentOperation.closed, decide_eq_false_iff_not]
    rintro (happ | ⟨hfail, hretry⟩)
    · simp [happ] at h
    · simp [hfail, hretry, sqlLe] at h
  · intro g hg
    obtain ⟨hstate, hexp⟩ := grant?_some hg
    simp only [hstate, hexp, reduceCtorEq, false_and, false_or, true_and, sqlLe_some] at h
    exact h

/-- In every state of the row the fence is the number of attempts. -/
theorem stateShape_fence (h : op.stateShape = true) :
    op.leaseFence = op.attemptCount := by
  unfold DeploymentOperation.stateShape at h
  split at h <;> simp only [decide_eq_true_eq] at h
  · rw [h.2.1, h.2.2.1]
  · exact h.2.1
  · exact h.2.1
  · exact h.2.1

theorem lease_view {w : DeploymentWorkerIdentity}
    {n : Nat} (hshape : op.stateShape = true) (hready : op.eligible t = true) :
    FencedLease.Step op.leaseView (.grant ⟨w.workerId, k,
        (op.lease (op.attemptCount + 1) w.workerId k t (t + n)).leaseFence, t, t + n⟩)
      (op.lease (op.attemptCount + 1) w.workerId k t (t + n)).leaseView := by
  obtain ⟨hopen, hfree⟩ := eligible_free hready
  have hnext : op.attemptCount + 1 = op.leaseFence + 1 := by rw [stateShape_fence hshape]
  exact .grant hopen hnext hfree

/-- The holder of a row, as the grant it holds it under. -/
theorem heldBy_grant {workerId : String} (hshape : op.stateShape = true)
    (h : op.heldBy workerId k fence t = true) :
    ∃ g, op.grant? = some g ∧ g.owner = workerId ∧ g.token = k ∧ g.fence = fence
      ∧ t < g.expires := by
  simp only [DeploymentOperation.heldBy, decide_eq_true_eq] at h
  obtain ⟨hstate, howner, htoken, hfence, hlive⟩ := h
  obtain ⟨_, expires, ht, hexp, hlt⟩ := sqlLt_iff.mp hlive
  cases ht
  -- the shape of a leased row supplies the one column `heldBy` does not read
  simp only [DeploymentOperation.stateShape, hstate, decide_eq_true_eq] at hshape
  obtain ⟨_, _, _, _, _, hsince, _⟩ := hshape
  obtain ⟨since, _, hat, _, _⟩ := sqlLt_iff.mp hsince
  refine ⟨⟨workerId, k, op.leaseFence, since, expires⟩, ?_, rfl, rfl, hfence, hlt⟩
  simp only [DeploymentOperation.grant?, hstate, howner, htoken, hat, hexp]

theorem release_view {workerId : String} (hshape : op.stateShape = true)
    (hheld : op.heldBy workerId k fence t = true) (hfence : new.leaseFence = op.leaseFence)
    (hnew : new.state ≠ .leased) :
    FencedLease.Step op.leaseView (.release workerId k fence t new.closed) new.leaseView := by
  obtain ⟨g, hg, rfl, rfl, rfl, hlive⟩ := heldBy_grant hshape hheld
  have hnone : new.grant? = none := by
    cases hn : new.grant? with
    | none => rfl
    | some g' => exact absurd (grant?_some hn).1 hnew
  have hview : new.leaseView = ⟨op.leaseView.fence, none, new.closed⟩ := by
    show (⟨new.leaseFence, new.grant?, new.closed⟩ : Lease String Digest Time) = _
    rw [hnone, hfence]
    rfl
  rw [hview]
  exact .release hg hlive

/-- A pending row is a fresh lease. -/
theorem pendingOperation_view (q : OperationRequest) :
    (pendingOperation q).leaseView = Lease.fresh := rfl

theorem pendingOperation_shape (q : OperationRequest) :
    (pendingOperation q).stateShape = true := rfl

/-- The invariant of runs: each row is where the events of its operation led. -/
structure Tracked (w : World) : Prop where
  keys : (w.store.operations.map (·.operationId)).Nodup
  shapes : ∀ op ∈ w.store.operations, op.stateShape = true
  histories : ∀ op ∈ w.store.operations,
    History (leaseHistory op.operationId w.log) op.leaseView
  named : ∀ oid, (∀ op ∈ w.store.operations, op.operationId ≠ oid) →
    leaseHistory oid w.log = []

theorem tracked_init : Tracked World.init := by
  refine ⟨List.nodup_nil, ?_, ?_, fun _ _ => rfl⟩
  · intro op hop
    cases hop
  · intro op hop
    cases hop

/-- A commit is one lease event on one row, or no event for any row. -/
inductive Effect (st : Store) (e : Commit) : Prop
  | quiet (kept : ∀ x ∈ st.operations, x ∈ e.after.operations)
      (inserted : ∀ x ∈ e.after.operations, x ∈ st.operations ∨
        (x = pendingOperation x.toOperationRequest
          ∧ ∀ y ∈ st.operations, y.operationId ≠ x.operationId))
      (silent : ∀ oid, e.event oid = none)
  | change (old new : DeploymentOperation) (ev : Event String Digest Time)
      (row : RowChange st e.after old new) (shape : new.stateShape = true)
      (step : FencedLease.Step old.leaseView ev new.leaseView)
      (event : e.event old.operationId = some ev)
      (others : ∀ oid, oid ≠ old.operationId → e.event oid = none)

theorem fail_closed (op : DeploymentOperation) (t : Time) (d : Digest) (r : Option Time) :
    (op.fail t d r).closed = r.isNone := by
  cases r <;> rfl

theorem commit_effect {ans : c.Answer}
    (hw : Tracked w) (hrun : c.run sha w.store = .ok (st', ans)) :
    Effect w.store ⟨w.store, c, ans, st'⟩ := by
  cases hc : c.leaseCall with
  | false =>
    obtain ⟨hkept, hins⟩ := step_otherRows (run_step hrun) hc
    refine .quiet hkept hins fun oid => ?_
    cases c <;> first | rfl | cases hc
  | true =>
    cases c with
    | lease wk k t n =>
      match ans, hrun with
      | none, hrun =>
        rcases leaseNext_ok hrun with ⟨_, rfl⟩ | ⟨_, _, hans, _⟩
        · exact .quiet (fun _ hx => hx) (fun _ hx => Or.inl hx) fun _ => rfl
        · cases hans
      | some new, hrun =>
        obtain ⟨old, hrow, _, hready, hshape, rfl⟩ := leased_row hw.keys hrun
        refine .change old _ _ hrow hshape (lease_view (hw.shapes old hrow.mem) hready)
          (if_pos rfl) ?_
        intro oid hne
        exact if_neg fun h => hne h.symm
    | acknowledge wk oid k f d r t =>
      obtain ⟨old, hrow, rfl, hheld, hshape, _, rfl⟩ := acknowledged_row hw.keys hrun
      refine .change old _ _ hrow hshape
        (release_view (hw.shapes old hrow.mem) hheld rfl (by simp [DeploymentOperation.acknowledge]))
        (if_pos rfl) ?_
      intro oid hne
      exact if_neg fun h => hne h.symm
    | fail wk oid k f d t r =>
      obtain ⟨old, hrow, rfl, hheld, hshape, rfl⟩ := failed_row hw.keys hrun
      refine .change old _ _ hrow hshape
        (release_view (hw.shapes old hrow.mem) hheld rfl (by simp [DeploymentOperation.fail]))
        ?_ ?_
      · rw [fail_closed]
        exact if_pos rfl
      · intro oid hne
        exact if_neg fun h => hne h.symm
    | _ => cases hc

theorem transact_cases (sha : Document → Digest) (c : StoreCall) (w : World) :
    (∃ st' ans, c.run sha w.store = .ok (st', ans)
      ∧ (transact sha c w).2 = ⟨st', w.log ++ [⟨w.store, c, ans, st'⟩]⟩) ∨
    (∃ e, (transact sha c w) = (.error e, w)) := by
  unfold transact
  split
  next st' ans hrun => exact Or.inl ⟨st', ans, hrun, rfl⟩
  next e _ => exact Or.inr ⟨e, rfl⟩

/-- What holds before a run and is kept by every commit holds after it. -/
theorem execute_keeps {P : Store → Prop}
    (hstep : ∀ {st st' : Store} {c : StoreCall} {ans : c.Answer}, P st →
      c.run sha st = .ok (st', ans) → P st')
    (calls : List StoreCall) (hw : P w.store) : P (execute sha calls w).store := by
  induction calls generalizing w with
  | nil => exact hw
  | cons c calls ih =>
    apply ih
    show P (transact sha c w).2.store
    rcases transact_cases sha c w with ⟨st', ans, hrun, heq⟩ | ⟨e, heq⟩
    · rw [heq]
      exact hstep hw hrun
    · rw [heq]
      exact hw

/-- One commit keeps rows and histories together. -/
theorem commit_tracked {ans : c.Answer}
    (hw : Tracked w) (hrun : c.run sha w.store = .ok (st', ans)) :
    Tracked ⟨st', w.log ++ [⟨w.store, c, ans, st'⟩]⟩ := by
  have hkeys := step_operationKeys (run_step hrun) hw.keys
  cases commit_effect hw hrun with
  | quiet hkept hins hsilent =>
    have hlog : ∀ oid, leaseHistory oid (w.log ++ [⟨w.store, c, ans, st'⟩])
        = leaseHistory oid w.log := by
      intro oid
      rw [leaseHistory_concat, hsilent oid]
      exact List.append_nil _
    refine ⟨hkeys, ?_, ?_, ?_⟩
    · intro op hop
      rcases hins op hop with hop | ⟨hpend, _⟩
      · exact hw.shapes op hop
      · rw [hpend]
        exact pendingOperation_shape _
    · intro op hop
      show History (leaseHistory op.operationId (w.log ++ _)) op.leaseView
      rw [hlog]
      rcases hins op hop with hop | ⟨hpend, hfresh⟩
      · exact hw.histories op hop
      · rw [hw.named op.operationId hfresh, hpend, pendingOperation_view]
        exact .nil
    · intro oid hne
      show leaseHistory oid (w.log ++ _) = []
      rw [hlog]
      exact hw.named oid fun op hop => hne op (hkept op hop)
  | change old new ev hrow hshape hstep hev hothers =>
    refine ⟨hkeys, ?_, ?_, ?_⟩
    · intro op hop
      rcases (hrow.rows op).mp hop with rfl | ⟨hop, _⟩
      · exact hshape
      · exact hw.shapes op hop
    · intro op hop
      show History (leaseHistory op.operationId (w.log ++ _)) op.leaseView
      rw [leaseHistory_concat]
      rcases (hrow.rows op).mp hop with rfl | ⟨hop, hne⟩
      · rw [hrow.operationId, hev]
        exact .snoc (hw.histories old hrow.mem) hstep
      · rw [hothers _ hne]
        exact (List.append_nil _).symm ▸ hw.histories op hop
    · intro oid hne
      have hold : oid ≠ old.operationId := fun he =>
        hne new hrow.mem_new (hrow.operationId.trans he.symm)
      show leaseHistory oid (w.log ++ _) = []
      rw [leaseHistory_concat, hothers oid hold]
      refine (List.append_nil _).trans (hw.named oid ?_)
      intro op hop he
      exact hne op ((hrow.rows op).mpr (Or.inr ⟨hop, he ▸ hold⟩)) he

/-- A closed row survives every commit as it is. -/
theorem commit_closed {ans : c.Answer} (hw : Tracked w) (hrun : c.run sha w.store = .ok (st', ans))
    (hop : op ∈ w.store.operations) (hclosed : op.closed = true) :
    op ∈ st'.operations := by
  cases commit_effect hw hrun with
  | quiet hkept => exact hkept op hop
  | change old new ev hrow _ hstep =>
    -- a row that takes an event is open, so it is another one
    have hopen : old.closed = false := by
      rcases hstep.running with hopen | ⟨g, hheld⟩
      · exact hopen
      · have hleased := (grant?_some hheld).1
        simp [DeploymentOperation.closed, hleased]
    refine (hrow.rows op).mpr (Or.inr ⟨hop, fun he => ?_⟩)
    have heq : op = old := List.inj_on_of_nodup_map hw.keys hop hrow.mem he
    rw [heq, hopen] at hclosed
    cases hclosed

/-! ## The protocol -/

/-- A successful acknowledgement of operation `oid`. -/
def Commit.acknowledges (oid : Digest) (e : Commit) : Bool :=
  match e.call with
  | .acknowledge _ o _ _ _ _ _ => decide (o = oid)
  | _ => false

/-- `g` is the lease of `oid` that the commits `pre` end with: it was granted
after every other event of the operation, so it has not been closed. -/
def LastLease (oid : Digest) (pre : List Commit) (g : Grant String Digest Time) : Prop :=
  (leaseHistory oid pre).getLast? = some (.grant g)

/-- The fenced lease protocol in one state of a run. -/
structure FencedLeases (sha : Document → Digest) (w : World) : Prop where
  keys : (w.store.operations.map (·.operationId)).Nodup
  attempts : ∀ op ∈ w.store.operations, op.leaseFence = op.attemptCount
  /-- the leases of an operation were numbered 1, 2, … up to its fence -/
  numbered : ∀ op ∈ w.store.operations,
    grantedFences (leaseHistory op.operationId w.log) = List.range' 1 op.leaseFence
  /-- a successful lease raises the fence of one row by one -/
  leases : ∀ {st st' : Store} {wk k t} {n : Nat} {new : DeploymentOperation},
    (⟨st, .lease wk k t n, some new, st'⟩ : Commit) ∈ w.log →
    ∃ old, RowChange st st' old new ∧ new.leaseFence = old.leaseFence + 1
      ∧ new.leaseFence = new.attemptCount ∧ new.leaseOwner = some wk.workerId
      ∧ new.leaseTokenDigest = some k ∧ new.leaseExpiresAt = some (t + n)
  acknowledgements : ∀ {pre post st st' wk oid k f d r t} {new : DeploymentOperation},
    w.log = pre ++ ⟨st, .acknowledge wk oid k f d r t, new, st'⟩ :: post →
    ∃ g, LastLease oid pre g ∧ g.owner = wk.workerId ∧ g.token = k ∧ g.fence = f
      ∧ t < g.expires
  failures : ∀ {pre post st st' wk oid k f d t r} {new : DeploymentOperation},
    w.log = pre ++ ⟨st, .fail wk oid k f d t r, new, st'⟩ :: post →
    ∃ g, LastLease oid pre g ∧ g.owner = wk.workerId ∧ g.token = k ∧ g.fence = f
      ∧ t < g.expires
  one_acknowledgement : ∀ oid, w.log.countP (Commit.acknowledges oid) ≤ 1
  /-- the row an acknowledgement answered with is still the row -/
  acknowledged_stays : ∀ {st st' wk oid k f d r t} {new : DeploymentOperation},
    (⟨st, .acknowledge wk oid k f d r t, new, st'⟩ : Commit) ∈ w.log →
    new.operationId = oid ∧ new ∈ w.store.operations
  failed_stays : ∀ {st st' wk oid k f d t} {new : DeploymentOperation},
    (⟨st, .fail wk oid k f d t none, new, st'⟩ : Commit) ∈ w.log →
    new.operationId = oid ∧ new ∈ w.store.operations
  /-- a call under the fence of an earlier lease raises and changes nothing -/
  stale : ∀ op ∈ w.store.operations, ∀ f < op.leaseFence, ∀ wk k,
    (∀ d r t, ∃ e, transact sha (.acknowledge wk op.operationId k f d r t) w = (.error e, w))
      ∧ ∀ d t r, ∃ e, transact sha (.fail wk op.operationId k f d t r) w = (.error e, w)

/-- What one commit recorded, kept for the whole run. -/
structure Recorded (w : World) (e : Commit) : Prop where
  leased : ∀ {wk k t} {n : Nat} {new : DeploymentOperation} {st st' : Store},
    e = ⟨st, .lease wk k t n, some new, st'⟩ →
    ∃ old, RowChange st st' old new ∧ new.leaseFence = old.leaseFence + 1
      ∧ new.leaseFence = new.attemptCount ∧ new.leaseOwner = some wk.workerId
      ∧ new.leaseTokenDigest = some k ∧ new.leaseExpiresAt = some (t + n)
  acknowledged : ∀ {st st' wk oid k f d r t} {new : DeploymentOperation},
    e = ⟨st, .acknowledge wk oid k f d r t, new, st'⟩ →
    new.operationId = oid ∧ new.closed = true ∧ new ∈ w.store.operations
  failed : ∀ {st st' wk oid k f d t} {new : DeploymentOperation},
    e = ⟨st, .fail wk oid k f d t none, new, st'⟩ →
    new.operationId = oid ∧ new.closed = true ∧ new ∈ w.store.operations

theorem commit_recorded {ans : c.Answer}
    (hw : Tracked w) (hrun : c.run sha w.store = .ok (st', ans)) :
    Recorded ⟨st', w.log ++ [⟨w.store, c, ans, st'⟩]⟩ ⟨w.store, c, ans, st'⟩ := by
  refine ⟨?_, ?_, ?_⟩
  · intro wk k t n new st₁ st₁' he
    cases he
    obtain ⟨old, hrow, _, _, hshape, rfl⟩ := leased_row hw.keys hrun
    refine ⟨old, hrow, ?_, stateShape_fence hshape, rfl, rfl, rfl⟩
    show old.attemptCount + 1 = old.leaseFence + 1
    rw [stateShape_fence (hw.shapes old hrow.mem)]
  · intro st₁ st₁' wk oid k f d r t new he
    cases he
    obtain ⟨old, hrow, hid, _, _, _, rfl⟩ := acknowledged_row hw.keys hrun
    exact ⟨hid, rfl, hrow.mem_new⟩
  · intro st₁ st₁' wk oid k f d t new he
    cases he
    obtain ⟨old, hrow, hid, _, _, rfl⟩ := failed_row hw.keys hrun
    exact ⟨hid, rfl, hrow.mem_new⟩

theorem recorded_commit {ans : c.Answer}
    (hw : Tracked w) (hrun : c.run sha w.store = .ok (st', ans))
    (he : Recorded w e) : Recorded ⟨st', w.log ++ [⟨w.store, c, ans, st'⟩]⟩ e := by
  refine ⟨he.leased, ?_, ?_⟩
  · intro st₁ st₁' wk oid k f d r t new heq
    obtain ⟨hid, hclosed, hmem⟩ := he.acknowledged heq
    exact ⟨hid, hclosed, commit_closed hw hrun hmem hclosed⟩
  · intro st₁ st₁' wk oid k f d t new heq
    obtain ⟨hid, hclosed, hmem⟩ := he.failed heq
    exact ⟨hid, hclosed, commit_closed hw hrun hmem hclosed⟩

theorem execute_tracked (sha : Document → Digest) (calls : List StoreCall) (hw : Tracked w)
    (hrec : ∀ e ∈ w.log, Recorded w e) :
    Tracked (execute sha calls w)
      ∧ ∀ e ∈ (execute sha calls w).log, Recorded (execute sha calls w) e := by
  induction calls generalizing w with
  | nil => exact ⟨hw, hrec⟩
  | cons c calls ih =>
    have hcons : execute sha (c :: calls) w = execute sha calls (transact sha c w).2 := rfl
    rw [hcons]
    rcases transact_cases sha c w with ⟨st', ans, hrun, heq⟩ | ⟨e, heq⟩
    · refine ih (heq ▸ commit_tracked hw hrun) ?_
      rw [heq]
      intro e he
      rcases List.mem_append.mp he with he | he
      · exact recorded_commit hw hrun (hrec e he)
      · rw [List.mem_singleton] at he
        subst he
        exact commit_recorded hw hrun
    · rw [heq]
      exact ih hw hrec

theorem Tracked.history (hw : Tracked w) (oid : Digest) :
    ∃ s, History (leaseHistory oid w.log) s := by
  by_cases h : ∃ op ∈ w.store.operations, op.operationId = oid
  · obtain ⟨op, hop, rfl⟩ := h
    exact ⟨_, hw.histories op hop⟩
  · refine ⟨Lease.fresh, ?_⟩
    rw [hw.named oid fun op hop he => h ⟨op, hop, he⟩]
    exact .nil

/-- A closing call in a run came from the holder of the last lease. -/
theorem Tracked.closing (hw : Tracked w) {pre post : List Commit}
    {owner : String} {f : Nat} {final : Bool} (hlog : w.log = pre ++ e :: post)
    (he : e.event oid = some (.release owner k f t final)) :
    ∃ g, LastLease oid pre g ∧ g.owner = owner ∧ g.token = k ∧ g.fence = f
      ∧ t < g.expires := by
  obtain ⟨s, hs⟩ := hw.history oid
  rw [hlog, leaseHistory_append_cons he] at hs
  obtain ⟨s₀, s₁, hpast, hstep⟩ := hs.split
  obtain ⟨g, hlast, ho, hk, hf, _, hlive⟩ := hstep.released hpast
  exact ⟨g, hlast, ho, hk, hf, hlive⟩

theorem acknowledgements_le_finals (oid : Digest) (log : List Commit) :
    log.countP (Commit.acknowledges oid) ≤ (leaseHistory oid log).countP Event.isFinal := by
  induction log with
  | nil => exact Nat.le_refl _
  | cons e log ih =>
    rw [List.countP_cons]
    by_cases hack : e.acknowledges oid = true
    · obtain ⟨st, c, ans, st'⟩ := e
      cases c with
      | acknowledge wk o k f d r t =>
        simp only [Commit.acknowledges, decide_eq_true_eq] at hack
        have hev : (⟨st, .acknowledge wk o k f d r t, ans, st'⟩ : Commit).event oid
            = some (.release wk.workerId k f t true) := if_pos hack
        unfold leaseHistory at ih ⊢
        rw [List.filterMap_cons_some hev, List.countP_cons]
        simp only [Commit.acknowledges, hack, Event.isFinal, decide_true, if_true]
        omega
      | _ => cases hack
    · have hmono : (leaseHistory oid log).countP Event.isFinal
          ≤ (leaseHistory oid (e :: log)).countP Event.isFinal := by
        unfold leaseHistory
        cases hev : e.event oid with
        | none => simp only [List.filterMap_cons_none hev, Nat.le_refl]
        | some ev =>
          rw [List.filterMap_cons_some hev, List.countP_cons]
          omega
      rw [if_neg hack]
      omega

/-- A closing call under any other fence than the row's own raises. -/
theorem stale_call (hw : Tracked w)
    (hop : op ∈ w.store.operations) {wk : DeploymentWorkerIdentity} {f : Nat}
    (hlt : f < op.leaseFence) (hc : (∃ d r t, c = .acknowledge wk op.operationId k f d r t)
      ∨ ∃ d t r, c = .fail wk op.operationId k f d t r) :
    ∃ e, transact sha c w = (.error e, w) := by
  rcases transact_cases sha c w with ⟨st', ans, hrun, _⟩ | h
  · exfalso
    -- both calls commit only on the row with their id, at their fence
    have hheld : ∃ old, old ∈ w.store.operations ∧ old.operationId = op.operationId
        ∧ ∃ t, old.heldBy wk.workerId k f t = true := by
      rcases hc with ⟨d, r, t, rfl⟩ | ⟨d, t, r, rfl⟩
      · obtain ⟨old, hrow, hid, hheld, _⟩ := acknowledged_row hw.keys hrun
        exact ⟨old, hrow.mem, hid, t, hheld⟩
      · obtain ⟨old, hrow, hid, hheld, _⟩ := failed_row hw.keys hrun
        exact ⟨old, hrow.mem, hid, t, hheld⟩
    obtain ⟨old, hmem, hid, t, hheld⟩ := hheld
    have heq : old = op := List.inj_on_of_nodup_map hw.keys hmem hop hid
    simp only [DeploymentOperation.heldBy, decide_eq_true_eq] at hheld
    have hfence := hheld.2.2.2.1
    rw [heq] at hfence
    omega
  · exact h

/-- **Fenced leases.** Every list of store calls, by any workers with any clocks,
tokens and delays, keeps the lease protocol. -/
theorem fenced_leases (calls : List StoreCall) :
    FencedLeases sha (execute sha calls World.init) := by
  obtain ⟨hw, hrec⟩ := execute_tracked sha calls tracked_init
    (fun e he => by cases he)
  refine ⟨hw.keys, fun op hop => stateShape_fence (hw.shapes op hop),
    fun op hop => (hw.histories op hop).fences, fun he => (hrec _ he).leased rfl,
    fun hlog => hw.closing hlog (if_pos rfl), fun hlog => hw.closing hlog (if_pos rfl),
    ?_, ?_, ?_, ?_⟩
  · intro oid
    obtain ⟨s, hs⟩ := hw.history oid
    have hle := acknowledgements_le_finals oid (execute sha calls World.init).log
    rw [hs.finals] at hle
    split at hle <;> omega
  · intro st st' wk oid k f d r t new he
    obtain ⟨hid, _, hmem⟩ := (hrec _ he).acknowledged rfl
    exact ⟨hid, hmem⟩
  · intro st st' wk oid k f d t new he
    obtain ⟨hid, _, hmem⟩ := (hrec _ he).failed rfl
    exact ⟨hid, hmem⟩
  · intro op hop f hlt wk k
    exact ⟨fun d r t => stale_call hw hop hlt (Or.inl ⟨d, r, t, rfl⟩),
      fun d t r => stale_call hw hop hlt (Or.inr ⟨d, t, r, rfl⟩)⟩

end ControlAssurance.ControlPlane
