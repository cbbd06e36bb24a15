import ControlAssurance.Reconciliation.Agreement

/-!
# What is in force and what is recorded

Operators read the control plane's record: an operation that failed for good is
taken for one that is not running. `InForce` says so. The code keeps it only as
long as nothing happens out of order (`InOrder`): a reconciler whose failure is
not retryable, or that is out of attempts, must not close an operation that the
target has committed, and no request may reach the target after its operation was
closed so. Neither is checked. An ambiguous outcome of the last attempt is closed
for good although the target may have committed, and a request that is still
under way is not recalled.
-/

namespace ControlAssurance.Reconciliation

open Lib ControlPlane ControlAssurance.Runtime

variable {sha : Document → Digest} {rsha : RuntimeDocument → Digest} {maxRunAttempts : Nat}

/-- Failed without a time to retry. -/
def failedForGood (op : DeploymentOperation) : Bool :=
  decide (op.state = .failed ∧ op.retryAt = none)

structure InForce (s : System) : Prop where
  single : oneUnresolved s.plane.store.operations
  /-- what runs is the latest applied operation or the unresolved one -/
  current : ∀ d ∈ s.catalog.current,
    (s.plane.store.latestApplied d.tenantId d.controlId).map (·.operationId)
        = some d.operationId
      ∨ ∃ op ∈ s.plane.store.controlOperations d.tenantId d.controlId,
        op.unresolved = true ∧ op.operationId = d.operationId
  failed : ∀ op ∈ s.plane.store.operations, failedForGood op = true →
    ∀ d ∈ s.catalog.current, d.operationId ≠ op.operationId

/-- `_failure` gives no time to retry: the failure is not retryable, or it was the
last attempt. -/
def givesUp (settings : ReconcilerSettings) (op : DeploymentOperation) (retryable : Bool) : Bool :=
  !(retryable && decide (op.attemptCount < settings.maxAttempts))

/-- In the step from `a` to `b` the client `p` makes its next call. -/
def Runs (p : Reconciler) (a b : Config System Reconciler) : Prop :=
  ∃ ps₁ ps₂ c k r, p = .call c k ∧ a.clients = ps₁ ++ p :: ps₂ ∧ b.clients = ps₁ ++ k r :: ps₂

structure InOrder (sha : Document → Digest) (rsha : RuntimeDocument → Digest)
    (a b : Config System Reconciler) : Prop where
  /-- a reconciler that gives up does so on an operation the target has not committed -/
  closing : ∀ settings token failedAt op code retryable,
    Runs (failure sha settings token failedAt op code retryable) a b →
      givesUp settings op retryable = true →
        ∀ h ∈ a.shared.catalog.history, h.operationId ≠ op.operationId
  /-- a request of an operation that has failed for good is not delivered, unless
  the target has one of the control that is as late -/
  delivering : ∀ q t, b.shared = a.shared.deliver sha rsha q t →
    (∀ op ∈ a.shared.plane.store.operations, op.operationId = q.operationId →
      failedForGood op = false)
    ∨ ∃ h ∈ a.shared.catalog.history, h.tenantId = q.tenantId ∧ h.controlId = q.controlId
      ∧ q.operationSequence ≤ h.operationSequence

/-! ## One unresolved operation per control -/

theorem step_index {st st' : Store} {c : StoreCall} (h : StoreStep sha st c st')
    (hst : oneUnresolved st.operations) : oneUnresolved st'.operations := by
  cases h with
  | activated r st₁ n previous op e _ _ _ hreq => exact hreq.index
  | rolledBack r op e _ _ _ hreq => exact hreq.index
  | retried f r op e _ _ _ _ _ hreq => exact hreq.index
  | leased _ _ _ _ _ _ _ _ hindex => exact hindex
  | acknowledged _ _ _ _ _ _ hindex => exact hindex
  | failed _ _ _ _ _ hindex => exact hindex
  | _ => exact hst

theorem transact_index (sha : Document → Digest) (c : StoreCall) {w : World}
    (hw : oneUnresolved w.store.operations) :
    oneUnresolved (transact sha c w).2.store.operations := by
  rcases transact_cases sha c w with ⟨st', ans, hrun, heq⟩ | ⟨e, heq⟩
  · rw [heq]
    exact step_index (run_step hrun) hw
  · rw [heq]
    exact hw

/-! ## Who closes an operation -/

/-- Where the program closes an operation without a time to retry, it is `_failure`
that gives up. -/
def ClosesByFailure (sha : Document → Digest) : Reconciler → Prop
  | .ret _ => True
  | .call c k =>
    (∀ wk oid token fence d t, c = .store (.fail wk oid token fence d t none) →
      ∃ settings op code retryable,
        .call c k = failure sha settings token t op code retryable
          ∧ givesUp settings op retryable = true ∧ op.operationId = oid)
      ∧ ∀ r, ClosesByFailure sha (k r)

/-- A call that does not close an operation so. -/
theorem closes_request {c : ReconcilerCall} {k : c.Answer → Reconciler}
    (hc : ∀ wk oid token fence d t, c ≠ .store (.fail wk oid token fence d t none))
    (hk : ∀ ans, ClosesByFailure sha (k ans)) : ClosesByFailure sha (Prog.request c k) := by
  refine ⟨fun wk oid token fence d t h => absurd h (hc wk oid token fence d t), fun r => ?_⟩
  cases r with
  | error e => trivial
  | ok ans => exact hk ans

theorem failure_closes (settings : ReconcilerSettings) (token : Digest) (t : Time)
    (op : DeploymentOperation) (code : String) (retryable : Bool) :
    ClosesByFailure sha (failure sha settings token t op code retryable) := by
  refine ⟨fun wk oid token' fence d t' h => ?_, fun r => ?_⟩
  · have hretry : (if (retryable && decide (op.attemptCount < settings.maxAttempts)) = true
        then some (t + retryDelay settings op.attemptCount) else none) = none := by
      injection h with h
      injection h
    have hgiven : givesUp settings op retryable = true := by
      unfold givesUp
      cases hcan : retryable && decide (op.attemptCount < settings.maxAttempts) with
      | false => rfl
      | true =>
        rw [if_pos hcan] at hretry
        cases hretry
    injection h with h
    injection h with _ hid htoken _ _ ht
    subst hid htoken ht
    exact ⟨settings, op, code, retryable, rfl, hgiven, rfl⟩
  · cases r <;> trivial

theorem close_closes (settings : ReconcilerSettings) (token : Digest) (t : Time)
    (op : DeploymentOperation) (answer : TargetAnswer) :
    ClosesByFailure sha (close sha settings token t op answer) := by
  cases answer with
  | error e => cases e <;> exact failure_closes ..
  | ok ack =>
    show ClosesByFailure sha (if _ then _ else _)
    split
    next => exact closes_request (fun _ _ _ _ _ _ h => nomatch h) fun _ => trivial
    next => exact failure_closes ..

theorem runOnce_closes (settings : ReconcilerSettings) (token : Digest)
    (leasedAt closedAt : Time) :
    ClosesByFailure sha (runOnce sha settings token leasedAt closedAt) := by
  refine closes_request (fun _ _ _ _ _ _ h => nomatch h) fun leased => ?_
  cases leased with
  | none => trivial
  | some op =>
    refine closes_request (fun _ _ _ _ _ _ h => nomatch h) fun revision => ?_
    split
    next => exact failure_closes ..
    next =>
      cases hq : applyRequest sha op revision with
      | error e => trivial
      | ok q =>
        refine closes_request (fun _ _ _ _ _ _ h => nomatch h) fun _ => ?_
        exact closes_request (fun _ _ _ _ _ _ h => nomatch h) fun answer => close_closes ..

theorem clients_close {c : Config System Reconciler}
    (h : ReachableSystem sha rsha maxRunAttempts c) :
    ∀ p ∈ c.clients, ClosesByFailure sha p := by
  induction h with
  | refl => exact fun p hp => absurd hp (List.not_mem_nil)
  | tail _ hstep ih =>
    cases hstep with
    | start hentry =>
      intro p hp
      rcases List.mem_cons.mp hp with rfl | hp
      · cases hentry
        exact runOnce_closes ..
      · exact ih p hp
    | @run _ _ ps₁ ps₂ call k r _ =>
      have hcall : ClosesByFailure sha (.call call k) :=
        ih _ (List.mem_append_right _ (List.mem_cons_self ..))
      intro p hp
      rcases List.mem_append.mp hp with hp | hp
      · exact ih p (List.mem_append_left _ hp)
      · rcases List.mem_cons.mp hp with rfl | hp
        · exact hcall.2 r
        · exact ih p (List.mem_append_right _ (List.mem_cons_of_mem _ hp))
    | @crash _ ps₁ ps₂ q =>
      intro p hp
      refine ih p ?_
      rcases List.mem_append.mp hp with hp | hp
      · exact List.mem_append_left _ hp
      · exact List.mem_append_right _ (List.mem_cons_of_mem _ hp)
    | environment _ => exact ih

/-! ## What one step changes -/

/-- A step changes the control plane or the target, never both. -/
inductive SystemChange (sha : Document → Digest) (rsha : RuntimeDocument → Digest)
    (a b : Config System Reconciler) : Prop
  | still (plane : b.shared.plane = a.shared.plane)
      (current : b.shared.catalog.current = a.shared.catalog.current)
  | transaction (c : StoreCall) (plane : b.shared.plane = (transact sha c a.shared.plane).2)
      (catalog : b.shared.catalog = a.shared.catalog)
      (caller : c.leaseCall = false ∨ ∃ k, .call (.store c) k ∈ a.clients
        ∧ Runs (.call (.store c) k) a b)
  | application (q : DeploymentApplyRequest) (t : Time) (row : DeploymentHistory)
      (ack : DeploymentTargetAcknowledgement)
      (delivery : b.shared = a.shared.deliver sha rsha q t)
      (applied : Applied sha rsha a.shared.catalog q t row b.shared.catalog ack)

theorem deliver_change {a b : Config System Reconciler} (q : DeploymentApplyRequest) (t : Time)
    (hb : b.shared = a.shared.deliver sha rsha q t) : SystemChange sha rsha a b := by
  have hcat : b.shared.catalog
      = committed a.shared.catalog (ensureApplied sha rsha a.shared.catalog q t) := by
    rw [hb]
    rfl
  have hplane : b.shared.plane = a.shared.plane := by
    rw [hb]
    rfl
  cases hres : ensureApplied sha rsha a.shared.catalog q t with
  | error e =>
    rw [hres] at hcat
    exact .still hplane (by rw [hcat]; rfl)
  | ok result =>
    obtain ⟨c', ack⟩ := result
    rw [hres] at hcat
    rcases ensureApplied_ok hres with ⟨existing, hre⟩ | ⟨row, happ⟩
    · -- the operation was there: only its fence may have moved
      have hcurrent : c'.current = a.shared.catalog.current := by rw [hre.frame]
      exact .still hplane (by rw [hcat]; exact hcurrent)
    · exact .application q t row ack hb (hcat ▸ happ)

theorem systemStep_change {a b : Config System Reconciler}
    (h : SystemStep sha rsha maxRunAttempts a b) : SystemChange sha rsha a b := by
  cases h with
  | start _ => exact .still rfl rfl
  | @run s s' ps₁ ps₂ c k r hexec =>
    cases c with
    | store c =>
      obtain ⟨w', hexec, rfl⟩ := hexec
      exact .transaction c (congrArg Prod.snd hexec) rfl (Or.inr ⟨k,
        List.mem_append_right _ (List.mem_cons_self ..), ps₁, ps₂, _, k, r, rfl, rfl, rfl⟩)
    | send q =>
      obtain ⟨_, rfl⟩ := hexec
      exact .still rfl rfl
    | receive q =>
      obtain ⟨rfl, _⟩ := hexec
      exact .still rfl rfl
  | crash => exact .still rfl rfl
  | @environment s _ _ henv =>
    cases henv with
    | service c hc => exact .transaction c rfl rfl (Or.inl hc)
    | delivery q t _ => exact deliver_change q t rfl
    | runtime call hcall =>
      have hsame : SameDeployments s.catalog (call.next sha rsha maxRunAttempts s.catalog) :=
        next_deployments hcall
      exact .still rfl hsame.current

/-! ## In order and in force -/

/-- With the agreement, the last part of `InForce` gives the middle one. -/
theorem Agreed.inForce {s : System} (hs : Agreed sha rsha s)
    (hsingle : oneUnresolved s.plane.store.operations)
    (hfailed : ∀ op ∈ s.plane.store.operations, failedForGood op = true →
      ∀ d ∈ s.catalog.current, d.operationId ≠ op.operationId) : InForce s := by
  refine ⟨hsingle, ?_, hfailed⟩
  intro d hd
  obtain ⟨h, hh, rfl, hlast⟩ := (hs.history.current d).mp hd
  obtain ⟨op, hop, hrow⟩ := hs.rows h hh
  have hmem : op ∈ s.plane.store.controlOperations h.tenantId h.controlId :=
    mem_controlOperations.mpr ⟨hop, hrow.tenant.symm, hrow.control.symm⟩
  cases hun : op.unresolved with
  | true => exact Or.inr ⟨op, hmem, hun, hrow.operation.symm⟩
  | false =>
    left
    -- a closed operation that is current has been applied
    have happ : op.state = .applied := by
      have hclosed := op.closed_eq_not_unresolved
      rw [hun, DeploymentOperation.closed, Bool.not_false, decide_eq_true_eq] at hclosed
      rcases hclosed with happ | hfail
      · exact happ
      · exact absurd hrow.operation
          (hfailed op hop (decide_eq_true hfail) h.deployed hd)
    have hmem' : op ∈ (s.plane.store.controlOperations h.tenantId h.controlId).filter
        fun x => decide (x.state = .applied) :=
      List.mem_filter.mpr ⟨hmem, decide_eq_true happ⟩
    show (s.plane.store.latestApplied h.tenantId h.controlId).map _ = some h.operationId
    cases hl : s.plane.store.latestApplied h.tenantId h.controlId with
    | none =>
      have hnil := firstBy_eq_none.mp hl
      rw [hnil] at hmem'
      cases hmem'
    | some x =>
      obtain ⟨hx, hmax⟩ := latestBySequence_some hl
      obtain ⟨hxc, hxapp⟩ := List.mem_filter.mp hx
      obtain ⟨hxop, hxten, hxctl⟩ := mem_controlOperations.mp hxc
      obtain ⟨y, hy, hyid, _⟩ := hs.applied x hxop (of_decide_eq_true hxapp)
      have hyrow := hs.rowOf hxop hy hyid
      have hsame : SameControl y h := ⟨hyrow.tenant.trans hxten, hyrow.control.trans hxctl⟩
      -- no applied operation is later than the current row, nor is it later
      have hle : y.operationSequence ≤ h.operationSequence := hlast y hy hsame
      have hge : h.operationSequence ≤ y.operationSequence := by
        rw [hrow.sequence, hyrow.sequence]
        exact hmax op hmem'
      have heq : y = h := hs.history.sequences y hy h hh hsame (Nat.le_antisymm hle hge)
      rw [Option.map_some, ← hyid, heq]

/-- The step lemma: a step in order keeps what is in force as recorded. -/
theorem change_inForce {a b : Config System Reconciler} (hs : Agreed sha rsha a.shared)
    (hs' : Agreed sha rsha b.shared) (hclients : ∀ p ∈ a.clients, ClosesByFailure sha p)
    (hforce : InForce a.shared) (hord : InOrder sha rsha a b) (hchange : SystemChange sha rsha a b) :
    InForce b.shared := by
  cases hchange with
  | still hplane hcur =>
    refine hs'.inForce (hplane ▸ hforce.single) ?_
    rw [hplane, hcur]
    exact hforce.failed
  | transaction c hplane hcat hcaller =>
    refine hs'.inForce (hplane ▸ transact_index sha c hforce.single) ?_
    intro op hop hfail d hd
    rw [hcat] at hd
    obtain ⟨hstate, hretry⟩ := of_decide_eq_true hfail
    rw [hplane] at hop
    cases (transact_plane sha hs.tracked c).2.2 op hop with
    | kept hmem => exact hforce.failed op hmem hfail d hd
    | inserted _ hpending =>
      rw [hpending] at hstate
      cases hstate
    | leased _ _ _ _ hleased =>
      rw [hleased] at hstate
      cases hstate
    | acknowledged _ _ _ _ _ _ _ _ _ _ _ happlied =>
      rw [happlied] at hstate
      cases hstate
    | failed _ _ _ _ wk token fence digest t retryAt hcall _ hsame =>
      -- the call is one of `_failure`, which was in order
      obtain rfl := hsame.symm.trans hretry
      subst hcall
      rcases hcaller with hservice | ⟨k, hk, hruns⟩
      · cases hservice
      · obtain ⟨settings, op', code, retryable, hfailure, hgiven, hid⟩ :=
          (hclients _ hk).1 wk op.operationId token fence digest t rfl
        obtain ⟨h, hh, rfl, -⟩ := (hs.history.current d).mp hd
        rw [← hid]
        exact hord.closing settings token t op' code retryable (hfailure ▸ hruns) hgiven h hh
  | application q t row ack hdelivery happ =>
    have hplane : b.shared.plane = a.shared.plane := by
      rw [hdelivery]
      rfl
    refine hs'.inForce (hplane ▸ hforce.single) ?_
    intro op hop hfail d hd
    rw [hplane] at hop
    rcases (happ.moved d).mp hd with rfl | ⟨hd, _⟩
    · have hrow : row.operationId = q.operationId := by
        rw [happ.row_eq]
        rfl
      rintro hid
      rcases hord.delivering q t hdelivery with hnone | ⟨h, hh, htenant, hcontrol, hle⟩
      · have hno := hnone op hop (hid.symm.trans hrow)
        rw [hfail] at hno
        cases hno
      · have hsame : SameControl h row := by
          rw [happ.row_eq]
          exact ⟨htenant, hcontrol⟩
        have hlt := (happ.last h hh hsame).1
        rw [happ.row_eq] at hlt
        exact absurd hlt (Nat.not_lt.mpr hle)
    · exact hforce.failed op hop hfail d hd

/-! ## Runs -/

/-- Schedules in which every step is in order. -/
def OrderlyRun (sha : Document → Digest) (rsha : RuntimeDocument → Digest)
    (maxRunAttempts : Nat) (c : Config System Reconciler) : Prop :=
  Relation.ReflTransGen
    (fun a b => SystemStep sha rsha maxRunAttempts a b ∧ InOrder sha rsha a b)
    ⟨System.init, []⟩ c

theorem OrderlyRun.reachable {c : Config System Reconciler}
    (h : OrderlyRun sha rsha maxRunAttempts c) : ReachableSystem sha rsha maxRunAttempts c :=
  Relation.ReflTransGen.mono (fun _ _ hstep => hstep.1) _ _ h

theorem inForce_init : InForce System.init := by
  refine ⟨List.nodup_nil, ?_, ?_⟩
  · intro d hd
    cases hd
  · intro op hop
    cases hop

/-- **What failed for good is not in force**, along every schedule in which no reconciler
gives up on an operation that the target has committed, and no request comes after that. -/
theorem orderly_in_force {c : Config System Reconciler}
    (h : OrderlyRun sha rsha maxRunAttempts c) : InForce c.shared := by
  induction h with
  | refl => exact inForce_init
  | tail hrun hstep ih =>
    have hreach := OrderlyRun.reachable hrun
    exact change_inForce (system_agreed hreach).1 (system_agreed (hreach.tail hstep.1)).1
      (clients_close hreach) ih hstep.2 (systemStep_change hstep.1)

/-- The operation that a program is about to close without a time to retry. -/
def aboutToClose : Reconciler → Option Digest
  | .call (.store (.fail _ oid _ _ _ _ none)) _ => some oid
  | _ => none

/-- Nobody is about to close what the target has, and nothing has failed for good. -/
def quiet (a : Config System Reconciler) : Bool :=
  (a.clients.all fun p => (aboutToClose p).all fun oid =>
      a.shared.catalog.history.all fun h => decide (h.operationId ≠ oid))
    && a.shared.plane.store.operations.all fun op => decide (failedForGood op = false)

theorem inOrder_of_quiet {a b : Config System Reconciler} (h : quiet a = true) :
    InOrder sha rsha a b := by
  simp only [quiet, Bool.and_eq_true, List.all_eq_true, decide_eq_true_eq] at h
  refine ⟨?_, fun _ _ _ => Or.inl fun op hop _ => h.2 op hop⟩
  rintro settings token t op code retryable ⟨ps₁, ps₂, _, _, _, -, hclients, -⟩ hgiven
  have hcan : (retryable && decide (op.attemptCount < settings.maxAttempts)) = false :=
    (Bool.not_eq_true' _).mp hgiven
  have habout : aboutToClose (failure sha settings token t op code retryable)
      = some op.operationId := by
    unfold failure
    rw [hcan]
    rfl
  have hall := h.1 _ (hclients ▸ List.mem_append_right _ (List.mem_cons_self ..))
  rw [habout, Option.all_some, List.all_eq_true] at hall
  exact fun x hx => of_decide_eq_true (hall x hx)

/-- An answer is lost, and nobody gives up. -/
theorem in_force_delivery :
    Along (runCall exampleSha) (fun a _ => quiet a = true) (exampleDelivery fun _ => 6)
        ⟨System.init, []⟩
      ∧ (played exampleSha (fun _ => 6) 3 (exampleDelivery _)).shared.catalog.current.map
        (·.operationId) = [0]
      ∧ InForce (played exampleSha (fun _ => 6) 3 (exampleDelivery _)).shared := by
  have halong : Along (runCall exampleSha) (fun a _ => quiet a = true) (exampleDelivery fun _ => 6)
      ⟨System.init, []⟩ := by decide +kernel
  have horderly : OrderlyRun exampleSha (fun _ => 6) 3 (played _ _ 3 (exampleDelivery _)) :=
    Relation.ReflTransGen.mono (fun _ _ hstep => ⟨hstep.1, inOrder_of_quiet hstep.2⟩) _ _
      (play_along (runCall_exec exampleSha) _ halong)
  exact ⟨halong, by decide, orderly_in_force horderly⟩

/-- A reconciler that is allowed one attempt. -/
def singleAttempt : ReconcilerSettings :=
  ⟨exampleWorker, 30, 1, 5, 300, exampleSettings.ttl_range, by decide, exampleSettings.retry_range⟩

/-- The target commits, its answer is lost, and the attempt was the last one. -/
def lostAnswer : List (SystemMove exampleSha (fun _ => 6) 3) :=
  exampleActivation _ ++
  [.start _ (.runOnce singleAttempt 11 1010 1015), .run 0 0, .run 0 0, .run 0 0,
   deliveryMove _ _ 3 0 1012, .run 0 9, .run 0 0]

theorem failed_in_force :
    ReachableSystem exampleSha (fun _ => 6) 3 (played _ _ 3 lostAnswer)
      ∧ (played _ _ 3 lostAnswer).shared.plane.store.operations.map
          (fun op => (op.operationId, op.state, op.retryAt)) = [(0, .failed, none)]
      ∧ (played _ _ 3 lostAnswer).shared.catalog.current.map (·.operationId) = [0]
      ∧ ¬InForce (played _ _ 3 lostAnswer).shared := by
  refine ⟨played_reachable _ _ 3 lostAnswer, by decide, by decide, ?_⟩
  intro hforce
  have hbad : ∃ op ∈ (played _ _ 3 lostAnswer).shared.plane.store.operations,
      failedForGood op = true ∧ ∃ d ∈ (played _ _ 3 lostAnswer).shared.catalog.current,
        d.operationId = op.operationId := by
    decide
  obtain ⟨op, hop, hfail, d, hd, hid⟩ := hbad
  exact hforce.failed op hop hfail d hd hid

end ControlAssurance.Reconciliation
