import ControlAssurance.ControlPlane.MakerChecker
import ControlAssurance.Reconciliation.Reconciler

/-!
# The two databases agree on what is applied

The control plane marks an operation applied only with the receipt digest of a
history row of the runtime, and every history row was made for an operation of
the control plane. Between the two lies a message exchange in which anything may
be late, repeated or lost; what makes the result hold is that the facts a
reconciler carries across it are stable: request fields never change and history
rows are never removed (`Kept`). `planes_agree` is the result, in every
configuration and along every continuation.
-/

namespace ControlAssurance.Reconciliation

open Lib ControlPlane ControlAssurance.Runtime

variable {sha : Document → Digest} {rsha : RuntimeDocument → Digest} {maxRunAttempts : Nat}

/-! ## Rows of the control plane, one transaction later -/

/-- Where a row of the operations table comes from after a call. -/
inductive RowFate (c : StoreCall) (st : Store) (new : DeploymentOperation) : Prop
  | kept (mem : new ∈ st.operations)
  | inserted (other : c.leaseCall = false)
      (pending : new = pendingOperation new.toOperationRequest)
  | leased (old : DeploymentOperation) (mem : old ∈ st.operations)
      (request : new.toOperationRequest = old.toOperationRequest)
      (before : old.closed = false) (state : new.state = .leased)
  | acknowledged (old : DeploymentOperation) (mem : old ∈ st.operations)
      (request : new.toOperationRequest = old.toOperationRequest)
      (before : old.state = .leased) (wk k f d r t)
      (call : c = .acknowledge wk new.operationId k f d r t) (state : new.state = .applied)
      (receipt : new.targetReceiptDigest = some r)
  | failed (old : DeploymentOperation) (mem : old ∈ st.operations)
      (request : new.toOperationRequest = old.toOperationRequest)
      (before : old.state = .leased) (wk k f d t retryAt)
      (call : c = .fail wk new.operationId k f d t retryAt) (state : new.state = .failed)
      (retry : new.retryAt = retryAt)

variable {op : DeploymentOperation} {t : Time} {w : World} {c : StoreCall} {s : System}
  {q : DeploymentApplyRequest}

theorem heldBy_leased {workerId : String} {k : Digest}
    {fence : Nat} (h : op.heldBy workerId k fence t = true) :
    op.state = .leased := by
  simp only [DeploymentOperation.heldBy, decide_eq_true_eq] at h
  exact h.1

theorem run_fate {st' : Store} {ans : c.Answer} (hw : Tracked w)
    (hrun : c.run sha w.store = .ok (st', ans)) {new : DeploymentOperation}
    (hnew : new ∈ st'.operations) : RowFate c w.store new := by
  cases hc : c.leaseCall with
  | false =>
    rcases (step_otherRows (run_step hrun) hc).2 new hnew with hmem | ⟨hpending, _⟩
    · exact .kept hmem
    · exact .inserted hc hpending
  | true =>
    cases c with
    | lease wk k t n =>
      match ans, hrun with
      | none, hrun =>
        rcases leaseNext_ok hrun with ⟨_, rfl⟩ | ⟨_, _, hans, _⟩
        · exact .kept hnew
        · cases hans
      | some x, hrun =>
        obtain ⟨old, hrow, _, hready, _, rfl⟩ := leased_row hw.keys hrun
        rcases (hrow.rows new).mp hnew with rfl | ⟨hmem, _⟩
        · exact .leased old hrow.mem hrow.request (eligible_free hready).1 rfl
        · exact .kept hmem
    | acknowledge wk oid k f d r t =>
      obtain ⟨old, hrow, rfl, hheld, _, _, rfl⟩ := acknowledged_row hw.keys hrun
      rcases (hrow.rows new).mp hnew with rfl | ⟨hmem, _⟩
      · exact .acknowledged old hrow.mem hrow.request (heldBy_leased hheld) wk k f d r t rfl
          rfl rfl
      · exact .kept hmem
    | fail wk oid k f d t r =>
      obtain ⟨old, hrow, rfl, hheld, _, rfl⟩ := failed_row hw.keys hrun
      rcases (hrow.rows new).mp hnew with rfl | ⟨hmem, _⟩
      · exact .failed old hrow.mem hrow.request (heldBy_leased hheld) wk k f d t r rfl rfl rfl
      · exact .kept hmem
    | _ => cases hc

/-- The request fields of an operation are for ever. -/
def RequestsKept (st st' : Store) : Prop :=
  ∀ op ∈ st.operations, ∃ op' ∈ st'.operations,
    op'.toOperationRequest = op.toOperationRequest

theorem run_requests {st' : Store} {ans : c.Answer}
    (hw : Tracked w) (hrun : c.run sha w.store = .ok (st', ans)) :
    RequestsKept w.store st' := by
  intro op hop
  cases commit_effect hw hrun with
  | quiet hkept => exact ⟨op, hkept op hop, rfl⟩
  | change old new ev hrow =>
    by_cases hid : op.operationId = old.operationId
    · have heq : op = old := List.inj_on_of_nodup_map hw.keys hop hrow.mem hid
      exact ⟨new, hrow.mem_new, by rw [hrow.request, heq]⟩
    · exact ⟨op, (hrow.rows op).mpr (Or.inr ⟨hop, hid⟩), rfl⟩

/-- What a transaction keeps and what it makes, whether it commits or not. -/
theorem transact_plane (sha : Document → Digest) (hw : Tracked w) (c : StoreCall) :
    Tracked (transact sha c w).2 ∧ RequestsKept w.store (transact sha c w).2.store
      ∧ ∀ new ∈ (transact sha c w).2.store.operations, RowFate c w.store new := by
  rcases transact_cases sha c w with ⟨st', ans, hrun, heq⟩ | ⟨e, heq⟩
  · rw [heq]
    exact ⟨commit_tracked hw hrun, run_requests hw hrun, fun new hnew => run_fate hw hrun hnew⟩
  · rw [heq]
    exact ⟨hw, fun op hop => ⟨op, hop, rfl⟩, fun new hnew => .kept hnew⟩

/-! ## The invariant -/

/-- The request was made for the operation. -/
structure RequestOf (op : OperationRequest) (q : DeploymentApplyRequest) : Prop where
  operation : q.operationId = op.operationId
  tenant : q.tenantId = op.tenantId
  control : q.controlId = op.controlId
  sequence : q.operationSequence = op.operationSequence
  revision : q.revisionId = op.revisionId
  digest : q.configurationDigest = op.configurationDigest

/-- The history row was made for the operation. -/
structure RowOf (op : OperationRequest) (h : DeploymentHistory) : Prop where
  operation : h.operationId = op.operationId
  tenant : h.tenantId = op.tenantId
  control : h.controlId = op.controlId
  sequence : h.operationSequence = op.operationSequence
  revision : h.revisionId = op.revisionId
  digest : h.configurationDigest = op.configurationDigest

structure Agreed (sha : Document → Digest) (rsha : RuntimeDocument → Digest) (s : System) :
    Prop where
  tracked : Tracked s.plane
  history : HistoryInv sha rsha s.catalog
  sent : ∀ q ∈ s.sent, ∃ op ∈ s.plane.store.operations, RequestOf op.toOperationRequest q
  rows : ∀ h ∈ s.catalog.history, ∃ op ∈ s.plane.store.operations,
    RowOf op.toOperationRequest h
  /-- an acknowledgement carries the receipt digest of the operation's row -/
  answers : ∀ q ack, (q, .ok ack) ∈ s.answers → ∃ h ∈ s.catalog.history,
    h.operationId = q.operationId ∧ ack.targetReceiptDigest = h.receiptDigest
  applied : ∀ op ∈ s.plane.store.operations, op.state = .applied →
    ∃ h ∈ s.catalog.history, h.operationId = op.operationId
      ∧ op.targetReceiptDigest = some h.receiptDigest

theorem agreed_init : Agreed sha rsha System.init := by
  refine ⟨tracked_init, historyInv_empty, ?_, ?_, ?_, ?_⟩
  · intro q hq
    cases hq
  · intro h hh
    cases hh
  · intro q ack h
    cases h
  · intro op hop
    cases hop

/-- What no step takes back. -/
structure Kept (s s' : System) : Prop where
  requests : RequestsKept s.plane.store s'.plane.store
  history : ∀ h ∈ s.catalog.history, h ∈ s'.catalog.history
  fences : FencesKept s.catalog s'.catalog

theorem Kept.refl (s : System) : Kept s s :=
  ⟨fun op hop => ⟨op, hop, rfl⟩, fun _ hh => hh, .refl _⟩

theorem Kept.trans {s₁ s₂ s₃ : System} (h : Kept s₁ s₂) (h' : Kept s₂ s₃) : Kept s₁ s₃ := by
  refine ⟨?_, fun x hx => h'.history x (h.history x hx), h.fences.trans h'.fences⟩
  intro op hop
  obtain ⟨op₂, hop₂, he₂⟩ := h.requests op hop
  obtain ⟨op₃, hop₃, he₃⟩ := h'.requests op₂ hop₂
  exact ⟨op₃, hop₃, he₃.trans he₂⟩

/-- A control-plane transaction keeps the agreement, provided an acknowledgement
brings the receipt of a history row. -/
theorem plane_agreed (hs : Agreed sha rsha s) (c : StoreCall)
    (hack : ∀ wk oid k f d r t, c = .acknowledge wk oid k f d r t →
      ∃ h ∈ s.catalog.history, h.operationId = oid ∧ r = h.receiptDigest) :
    Agreed sha rsha { s with plane := (transact sha c s.plane).2 }
      ∧ Kept s { s with plane := (transact sha c s.plane).2 } := by
  obtain ⟨htracked, hkept, hfate⟩ := transact_plane sha hs.tracked c
  refine ⟨⟨htracked, hs.history, ?_, ?_, hs.answers, ?_⟩,
    ⟨hkept, fun _ hh => hh, .refl _⟩⟩
  · intro q hq
    obtain ⟨op, hop, hreq⟩ := hs.sent q hq
    obtain ⟨op', hop', he⟩ := hkept op hop
    exact ⟨op', hop', he ▸ hreq⟩
  · intro h hh
    obtain ⟨op, hop, hrow⟩ := hs.rows h hh
    obtain ⟨op', hop', he⟩ := hkept op hop
    exact ⟨op', hop', he ▸ hrow⟩
  · intro op hop happ
    cases hfate op hop with
    | kept mem => exact hs.applied op mem happ
    | inserted _ pending =>
      rw [pending] at happ
      cases happ
    | leased _ _ _ _ state =>
      rw [state] at happ
      cases happ
    | acknowledged _ _ _ _ wk k f d r t call _ receipt =>
      obtain ⟨h, hh, hid, hr⟩ := hack wk op.operationId k f d r t call
      exact ⟨h, hh, hid, by rw [receipt, hr]⟩
    | failed _ _ _ _ _ _ _ _ _ _ _ state _ =>
      rw [state] at happ
      cases happ

/-- What a delivery leaves in the history: everything, and at most one new row,
made from its request. -/
theorem ensureApplied_rows {c c' : Catalog} {ack : DeploymentTargetAcknowledgement}
    (h : ensureApplied sha rsha c q t = .ok (c', ack)) : (∀ x ∈ c.history, x ∈ c'.history)
      ∧ (∀ x ∈ c'.history, x ∈ c.history ∨
        (x.operationId = q.operationId ∧ x.tenantId = q.tenantId ∧ x.controlId = q.controlId
          ∧ x.operationSequence = q.operationSequence ∧ x.revisionId = q.revisionId
          ∧ x.configurationDigest = q.configurationDigest))
      ∧ ∃ x ∈ c'.history, x.operationId = q.operationId
        ∧ ack.targetReceiptDigest = x.receiptDigest := by
  rcases ensureApplied_ok h with ⟨existing, hre⟩ | ⟨row, happ⟩
  · have hhist : c'.history = c.history := by rw [hre.frame]
    rw [hhist]
    refine ⟨fun _ hx => hx, fun _ hx => Or.inl hx, existing, hre.mem, hre.operation, ?_⟩
    rw [hre.acknowledged]
  · rw [happ.history]
    refine ⟨fun _ hx => List.mem_append_left _ hx, ?_, row,
      List.mem_append_right _ (List.mem_singleton_self row), ?_, ?_⟩
    · intro x hx
      rcases List.mem_append.mp hx with hx | hx
      · exact Or.inl hx
      · rw [List.mem_singleton] at hx
        rw [hx, happ.row_eq]
        exact Or.inr ⟨rfl, rfl, rfl, rfl, rfl, rfl⟩
    · rw [happ.row_eq]
      rfl
    · rw [happ.acknowledged]

theorem deliver_agreed (hs : Agreed sha rsha s) (hq : q ∈ s.sent) (t : Time) :
    Agreed sha rsha (s.deliver sha rsha q t) ∧ Kept s (s.deliver sha rsha q t) := by
  unfold System.deliver
  cases hres : ensureApplied sha rsha s.catalog q t with
  | error e =>
    refine ⟨⟨hs.tracked, hs.history, hs.sent, hs.rows, ?_, hs.applied⟩,
      ⟨fun op hop => ⟨op, hop, rfl⟩, fun _ hh => hh, .refl _⟩⟩
    intro q' ack h
    rcases List.mem_append.mp h with h | h
    · exact hs.answers q' ack h
    · rw [List.mem_singleton] at h
      cases h
  | ok result =>
    obtain ⟨c', ack⟩ := result
    obtain ⟨hkept, hmade, x, hx, hxid, hxr⟩ := ensureApplied_rows hres
    refine ⟨⟨hs.tracked, ensureApplied_historyInv hs.history hres, hs.sent, ?_, ?_, ?_⟩,
      ⟨fun op hop => ⟨op, hop, rfl⟩, hkept, ensureApplied_fencesKept hs.history hres⟩⟩
    · intro y hy
      rcases hmade y hy with hy | ⟨h₁, h₂, h₃, h₄, h₅, h₆⟩
      · exact hs.rows y hy
      · obtain ⟨op, hop, hreq⟩ := hs.sent q hq
        exact ⟨op, hop, h₁.trans hreq.operation, h₂.trans hreq.tenant, h₃.trans hreq.control,
          h₄.trans hreq.sequence, h₅.trans hreq.revision, h₆.trans hreq.digest⟩
    · intro q' ack' h
      rcases List.mem_append.mp h with h | h
      · obtain ⟨y, hy, hyr⟩ := hs.answers q' ack' h
        exact ⟨y, hkept y hy, hyr⟩
      · rw [List.mem_singleton] at h
        cases h
        exact ⟨x, hx, hxid, hxr⟩
    · intro op hop happ
      obtain ⟨y, hy, hyr⟩ := hs.applied op hop happ
      exact ⟨y, hkept y hy, hyr⟩

theorem runtime_agreed (hs : Agreed sha rsha s) {call : CatalogCall}
    (h : ∀ q t, call ≠ .ensureApplied q t) :
    Agreed sha rsha { s with catalog := call.next sha rsha maxRunAttempts s.catalog }
      ∧ Kept s { s with catalog := call.next sha rsha maxRunAttempts s.catalog } := by
  have hsame : SameDeployments s.catalog (call.next sha rsha maxRunAttempts s.catalog) :=
    next_deployments h
  refine ⟨⟨hs.tracked, hs.history.of_eq hsame.history hsame.fences hsame.current, hs.sent,
    ?_, ?_, ?_⟩, ⟨fun op hop => ⟨op, hop, rfl⟩, ?_, ?_⟩⟩
  · rw [hsame.history]
    exact hs.rows
  · rw [hsame.history]
    exact hs.answers
  · rw [hsame.history]
    exact hs.applied
  · rw [hsame.history]
    exact fun _ hh => hh
  · unfold FencesKept
    rw [hsame.fences]
    exact FencesKept.refl s.catalog

theorem environment_agreed {s' : System} (hs : Agreed sha rsha s)
    (h : Environment sha rsha maxRunAttempts s s') : Agreed sha rsha s' ∧ Kept s s' := by
  cases h with
  | service c hc =>
    refine plane_agreed hs c ?_
    rintro wk oid k f d r t rfl
    cases hc
  | delivery q t hq => exact deliver_agreed hs hq t
  | runtime call hcall => exact runtime_agreed hs hcall

/-! ## The reconciler is a safe client -/

/-- No promise is made about what `run_once` returns. -/
abbrev SafeReconciler (sha : Document → Digest) (rsha : RuntimeDocument → Digest)
    (p : Reconciler) (s : System) : Prop :=
  Safe (execCall sha) (Agreed sha rsha) Kept (fun _ _ => True) p s

/-- A store call that is not an acknowledgement. -/
theorem safe_store {k : c.Answer → Reconciler}
    (hc : ∀ wk oid k f d r t, c ≠ .acknowledge wk oid k f d r t)
    (hk : ∀ (ans : c.Answer) s', Kept s s' →
      (∃ w w', exec sha c w (.ok ans) w' ∧ Tracked w ∧ w' = s'.plane) →
      SafeReconciler sha rsha (k ans) s') :
    SafeReconciler sha rsha (Prog.request (.store c) k) s := by
  refine safe_requested (fun _ _ => trivial) ?_
  rintro s' hrely hs' r s'' ⟨w', hexec, rfl⟩
  have hw' : w' = (transact sha c s'.plane).2 := congrArg Prod.snd hexec
  obtain ⟨hagreed, hkept⟩ := plane_agreed hs' c
    (fun wk oid k f d r t h => absurd h (hc wk oid k f d r t))
  rw [hw']
  refine ⟨hagreed, hkept, ?_⟩
  rintro ans rfl
  refine hk ans _ (hrely.trans hkept) ⟨s'.plane, w', hexec, hs'.tracked, ?_⟩
  exact hw'

theorem failure_safe (settings : ReconcilerSettings) (token : Digest) (t : Time)
    (op : DeploymentOperation) (code : String) (retryable : Bool) (s : System) :
    SafeReconciler sha rsha (failure sha settings token t op code retryable) s := by
  refine safe_store ?_ fun _ _ _ _ => trivial
  intro wk oid k f d r t h
  cases h

/-- Closing with an acknowledgement needs the receipt of the operation's row. -/
theorem close_safe (settings : ReconcilerSettings) (token : Digest) (t : Time)
    (op : DeploymentOperation) (answer : TargetAnswer)
    (hanswer : ∀ ack, answer = .ok ack → ∃ h ∈ s.catalog.history,
      h.operationId = op.operationId ∧ ack.targetReceiptDigest = h.receiptDigest) :
    SafeReconciler sha rsha (close sha settings token t op answer) s := by
  cases answer with
  | error e =>
    cases e with
    | apply e => exact failure_safe settings token t op e.code e.retryable s
    | unhandled => exact failure_safe settings token t op _ _ s
  | ok ack =>
    show SafeReconciler sha rsha (if _ then _ else _) s
    split
    next =>
      refine safe_requested (fun _ _ => trivial) ?_
      rintro s' hrely hs' r s'' ⟨w', hexec, rfl⟩
      have hw' : w' = (transact sha _ s'.plane).2 := congrArg Prod.snd hexec
      obtain ⟨h, hh, hid, hr⟩ := hanswer ack rfl
      obtain ⟨hagreed, hkept⟩ := plane_agreed hs'
        (.acknowledge settings.worker op.operationId token op.leaseFence
          ack.appliedConfigurationDigest ack.targetReceiptDigest t) (by
        intro wk oid k f d r t heq
        cases heq
        exact ⟨h, hrely.history h hh, hid, hr⟩)
      rw [hw']
      exact ⟨hagreed, hkept, fun _ _ => trivial⟩
    next => exact failure_safe settings token t op _ _ s

theorem applyRequest_ok {revision : ConfigurationRevision}
    (h : applyRequest sha op revision = .ok q) :
    RequestOf op.toOperationRequest q := by
  simp only [applyRequest, bind_eq_ok, require_eq_ok, pure_eq_ok, exists_const] at h
  obtain ⟨_, _, _, rfl⟩ := h
  exact ⟨rfl, rfl, rfl, rfl, rfl, rfl⟩

theorem send_agreed (hs : Agreed sha rsha s) (hop : op ∈ s.plane.store.operations)
    (hq : RequestOf op.toOperationRequest q) :
    Agreed sha rsha { s with sent := s.sent ++ [q] }
      ∧ Kept s { s with sent := s.sent ++ [q] } := by
  refine ⟨⟨hs.tracked, hs.history, ?_, hs.rows, hs.answers, hs.applied⟩,
    ⟨fun op hop => ⟨op, hop, rfl⟩, fun _ hh => hh, .refl _⟩⟩
  intro q' hq'
  rcases List.mem_append.mp hq' with hq' | hq'
  · exact hs.sent q' hq'
  · rw [List.mem_singleton] at hq'
    exact ⟨op, hop, hq' ▸ hq⟩

theorem reconcile_safe (settings : ReconcilerSettings) (token : Digest) (t : Time)
    (hop : ∃ x ∈ s.plane.store.operations,
      x.toOperationRequest = op.toOperationRequest) :
    SafeReconciler sha rsha (reconcile sha settings token t op) s := by
  refine safe_store (fun _ _ _ _ _ _ _ h => by cases h) ?_
  intro revision s₁ hrely₁ _
  split
  next => exact failure_safe settings token t op _ _ s₁
  next =>
    refine safe_check (fun _ => trivial) fun q hq => ?_
    have hreq := applyRequest_ok hq
    -- sending: the operation is still there with the same request
    refine safe_requested (fun _ _ => trivial) ?_
    rintro s₂ hrely₂ hs₂ r s₃ ⟨rfl, rfl⟩
    obtain ⟨x, hx, hxr⟩ := hop
    obtain ⟨y, hy, hyr⟩ := (hrely₁.trans hrely₂).requests x hx
    obtain ⟨hagreed, hkept⟩ := send_agreed hs₂ hy (hyr.trans hxr ▸ hreq)
    refine ⟨hagreed, hkept, fun _ _ => ?_⟩
    -- receiving: an acknowledgement names a row that is there to stay
    refine safe_requested (fun _ _ => trivial) ?_
    rintro s₄ _ hs₄ r s₅ ⟨rfl, answer, rfl, hanswer⟩
    refine ⟨hs₄, .refl _, ?_⟩
    intro a ha
    cases ha
    refine close_safe settings token t op answer ?_
    rintro ack rfl
    rcases hanswer with hmem | hamb | hamb
    · obtain ⟨h, hh, hid, hr⟩ := hs₄.answers q ack hmem
      exact ⟨h, hh, hid.trans hreq.operation, hr⟩
    · cases hamb
    · cases hamb

/-- A leased operation is a row of the control plane. -/
theorem leased_requested {w' : World} {wk : DeploymentWorkerIdentity} {k : Digest}
    {n : Nat} (hw : Tracked w) (h : exec sha (.lease wk k t n) w (.ok (some op)) w') :
    op ∈ w'.store.operations := by
  rcases exec_cases h with ⟨st', ans, hrun, hans, rfl⟩ | ⟨e, hr, _⟩
  · cases hans
    obtain ⟨old, hrow, _⟩ := leased_row hw.keys hrun
    exact hrow.mem_new
  · cases hr

theorem runOnce_safe (settings : ReconcilerSettings) (token : Digest)
    (leasedAt closedAt : Time) (s : System) :
    SafeReconciler sha rsha (runOnce sha settings token leasedAt closedAt) s := by
  refine safe_store (fun _ _ _ _ _ _ _ h => by cases h) ?_
  rintro leased s' _ ⟨w, w', hexec, hw, rfl⟩
  cases leased with
  | none => trivial
  | some op =>
    refine reconcile_safe settings token closedAt ⟨op, ?_, rfl⟩
    exact leased_requested hw hexec

/-! ## Agreement in every configuration -/

/-- One row is before the other, by sequence and by application time alike. -/
def Before (a b : DeploymentHistory) : Prop :=
  a.operationSequence < b.operationSequence ∧ a.appliedAt < b.appliedAt

structure PlanesAgree (s : System) : Prop where
  /-- an applied operation has its one history row, and the row's receipt -/
  applied : ∀ op ∈ s.plane.store.operations, op.state = .applied →
    ∃! h, h ∈ s.catalog.history ∧ h.operationId = op.operationId
      ∧ h.tenantId = op.tenantId ∧ h.controlId = op.controlId
      ∧ h.revisionId = op.revisionId ∧ h.configurationDigest = op.configurationDigest
      ∧ op.targetReceiptDigest = some h.receiptDigest
  single : (s.catalog.history.map (·.operationId)).Nodup
  ordered : ∀ a ∈ s.catalog.history, ∀ b ∈ s.catalog.history, SameControl a b →
    a = b ∨ Before a b ∨ Before b a
  chained : ∀ h ∈ s.catalog.history, First s.catalog h ∨ ∃ p, Follows s.catalog h p
  /-- when the control's latest operation is applied, it is the one in force -/
  current : ∀ tenantId controlId op,
    latestBySequence (s.plane.store.controlOperations tenantId controlId) = some op →
    op.state = .applied → ∃ h ∈ s.catalog.history, h.operationId = op.operationId
      ∧ s.catalog.currentRow tenantId controlId = some h.deployed

theorem latestBySequence_some {ops : List DeploymentOperation}
    (h : latestBySequence ops = some op) :
    op ∈ ops ∧ ∀ x ∈ ops, x.operationSequence ≤ op.operationSequence := by
  refine ⟨firstBy_mem h, ?_⟩
  intro x hx
  have hle := firstBy_le
    (fun a b => by simpa using Nat.le_total b.operationSequence a.operationSequence)
    (fun a b d h₁ h₂ => by
      simp only [decide_eq_true_eq] at h₁ h₂ ⊢
      exact Nat.le_trans h₂ h₁) h x hx
  simpa using hle

/-- The row of an applied operation was made for it. -/
theorem Agreed.rowOf (hs : Agreed sha rsha s)
    (hop : op ∈ s.plane.store.operations) {h : DeploymentHistory}
    (hh : h ∈ s.catalog.history) (hid : h.operationId = op.operationId) :
    RowOf op.toOperationRequest h := by
  obtain ⟨op', hop', hrow⟩ := hs.rows h hh
  have heq : op' = op := List.inj_on_of_nodup_map hs.tracked.keys hop' hop
    (hrow.operation.symm.trans hid)
  exact heq ▸ hrow

theorem Agreed.current (hs : Agreed sha rsha s) {tenantId controlId : String}
    (hlatest : latestBySequence (s.plane.store.controlOperations tenantId controlId)
      = some op) (happ : op.state = .applied) :
    ∃ h ∈ s.catalog.history, h.operationId = op.operationId
      ∧ s.catalog.currentRow tenantId controlId = some h.deployed := by
  obtain ⟨hmem, hmax⟩ := latestBySequence_some hlatest
  obtain ⟨hop, hten, hctl⟩ := mem_controlOperations.mp hmem
  obtain ⟨h, hh, hid, _⟩ := hs.applied op hop happ
  have hrow := hs.rowOf hop hh hid
  -- every row of the control stems from an operation, and none is later
  have hlast : ∀ x ∈ s.catalog.history, SameControl x h →
      x.operationSequence ≤ h.operationSequence := by
    intro x hx hsame
    obtain ⟨opx, hopx, hrowx⟩ := hs.rows x hx
    rw [hrowx.sequence, hrow.sequence]
    refine hmax opx (mem_controlOperations.mpr ⟨hopx, ?_, ?_⟩)
    · rw [← hrowx.tenant, hsame.1, hrow.tenant, hten]
    · rw [← hrowx.control, hsame.2, hrow.control, hctl]
  have hcur := hs.history.currentRow_of_mem
    ((hs.history.current h.deployed).mpr ⟨h, hh, rfl, hlast⟩)
  refine ⟨h, hh, hid, ?_⟩
  rw [← hten, ← hctl, ← hrow.tenant, ← hrow.control]
  exact hcur

theorem Agreed.planesAgree (hs : Agreed sha rsha s) : PlanesAgree s := by
  refine ⟨?_, hs.history.operationIds, ?_, hs.history.chain,
    fun _ _ _ hlatest happ => hs.current hlatest happ⟩
  · intro op hop happ
    obtain ⟨h, hh, hid, hreceipt⟩ := hs.applied op hop happ
    have hrow := hs.rowOf hop hh hid
    refine ⟨h, ⟨hh, hid, hrow.tenant, hrow.control, hrow.revision, hrow.digest, hreceipt⟩, ?_⟩
    rintro y ⟨hy, hyid, _⟩
    exact List.inj_on_of_nodup_map hs.history.operationIds hy hh (hyid.trans hid.symm)
  · intro a ha b hb hsame
    rcases Nat.lt_trichotomy a.operationSequence b.operationSequence with hlt | heq | hgt
    · exact Or.inr (Or.inl ⟨hlt, hs.history.ordered a ha b hb hsame hlt⟩)
    · exact Or.inl (hs.history.sequences a ha b hb hsame heq)
    · exact Or.inr (Or.inr ⟨hgt, hs.history.ordered b hb a ha hsame.symm hgt⟩)

theorem entry_safe {p : Reconciler} (hp : Entry sha p) (s : System) :
    SafeReconciler sha rsha p s := by
  cases hp with
  | runOnce settings token leasedAt closedAt =>
    exact runOnce_safe settings token leasedAt closedAt s

theorem system_agreed {c : Config System Reconciler}
    (h : ReachableSystem sha rsha maxRunAttempts c) :
    Agreed sha rsha c.shared
      ∧ ∀ p ∈ c.clients, SafeReconciler sha rsha p c.shared := by
  obtain ⟨hagreed, _, hsafe⟩ := reachable_safe Kept.refl (fun _ _ _ => Kept.trans)
    (fun _ _ _ _ _ => trivial) (fun _ hp s _ => entry_safe hp s)
    (fun _ _ hs he => environment_agreed hs he) agreed_init h
  exact ⟨hagreed, hsafe⟩

/-- In every configuration the two databases agree, and whatever happens next,
no fence seen by the runtime is taken back. -/
theorem planes_agree {c : Config System Reconciler}
    (h : ReachableSystem sha rsha maxRunAttempts c) :
    PlanesAgree c.shared ∧
      ∀ c', Relation.ReflTransGen (SystemStep sha rsha maxRunAttempts) c c' →
        PlanesAgree c'.shared ∧ FencesKept c.shared.catalog c'.shared.catalog := by
  obtain ⟨hagreed, hsafe⟩ := system_agreed h
  refine ⟨hagreed.planesAgree, ?_⟩
  intro c' hrun
  obtain ⟨hagreed', hkept, _⟩ := steps_safe Kept.refl (fun _ _ _ => Kept.trans)
    (fun _ _ _ _ _ => trivial) (fun _ hp s _ => entry_safe hp s)
    (fun _ _ hs he => environment_agreed hs he) hrun hagreed hsafe
  exact ⟨hagreed'.planesAgree, hkept.fences⟩

/-! One operation from draft to acknowledgement, with the target's answer lost
once and the request delivered twice. -/

def exampleWorker : DeploymentWorkerIdentity :=
  ⟨"tenant-a", "worker-1", 5⟩

def exampleSettings : ReconcilerSettings :=
  ⟨exampleWorker, 30, 3, 5, 300, by decide, by decide, by decide⟩

/-- Draft, submit, approve and activate one revision, with its profile known to
the runtime. -/
def exampleActivation (rsha : RuntimeDocument → Digest) :
    List (SystemMove exampleSha rsha 3) :=
  let alice := exampleActor "alice" [.editor]
  let bob := exampleActor "bob" [.approver, .deployer]
  [serviceMove _ _ 3 (.createDraft alice exampleConfiguration none 1000) rfl,
   serviceMove _ _ 3 (.submit alice 0 0 1001) rfl,
   serviceMove _ _ 3 (.decide bob 0 1 .approved "reviewed" 1002) rfl,
   serviceMove _ _ 3 (.activateWithOperation bob 0 none 1003) rfl,
   profileMove _ _ 3 ⟨"tenant-a", "edr", 9⟩]

def exampleDelivery (rsha : RuntimeDocument → Digest) :
    List (SystemMove exampleSha rsha 3) :=
  exampleActivation rsha ++
  [.start _ (.runOnce exampleSettings 11 1010 1015), .run 0 0, .run 0 0, .run 0 0,
   deliveryMove _ _ 3 0 1012, .run 0 9, .run 0 0,
   .start _ (.runOnce exampleSettings 12 1020 1025), .run 0 0, .run 0 0, .run 0 0,
   deliveryMove _ _ 3 1 1022, deliveryMove _ _ 3 1 1023, .run 0 1, .run 0 0]

theorem planes_agree_delivery :
    (played exampleSha (fun _ => 6) 3 (exampleDelivery _)).shared.plane.store.operations.map
        (fun op => (op.state, op.leaseFence, op.targetReceiptDigest))
        = [(.applied, 2, some 6)]
      ∧ PlanesAgree (played exampleSha (fun _ => 6) 3 (exampleDelivery _)).shared :=
  ⟨by decide, (planes_agree (played_reachable _ _ 3 (exampleDelivery _))).1⟩

end ControlAssurance.Reconciliation
