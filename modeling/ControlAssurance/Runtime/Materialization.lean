import Mathlib.Data.Set.Function
import ControlAssurance.Runtime.RunSteps

/-!
# Materialization of due runs

`materialize_due_runs` recomputes, at every call, all windows that were ever due
since each deployment was applied, and inserts those that have no run yet. The
insert is idempotent, so only the missing windows are work; but the limit on
windows is checked against the whole list. `materialize_iff` says exactly when a
call does what it is for: when no deployment has had more windows than the
limit. A deployment that outlives the limit stops the worker with an integrity
error on a catalog in which nothing is wrong (`materialize_stalls`).
-/

namespace ControlAssurance.Runtime

open Lib ControlPlane

variable {sha : Document → Digest} {rsha : RuntimeDocument → Digest} {maxRunAttempts : Nat}

/-- The windows of a deployment that are due by the horizon. -/
def rowEnds (through : Time) (row : DeploymentHistory × Option Time) : List Time :=
  dueEnds row.1.configurationBytes row.1.appliedAt row.2 through

/-- The runs a tenant is owed by the horizon. -/
def Catalog.dueRequests (c : Catalog) (tenantId : String) (through : Time) :
    List ControlRunRequest :=
  (c.deployments tenantId).flatMap fun row => (rowEnds through row).map row.1.runRequest

/-- Those of `qs` that have no run yet. -/
def Catalog.missing (c : Catalog) (qs : List ControlRunRequest) : List ControlRunRequest :=
  qs.filter fun q => decide (∀ r ∈ c.runs, r.request ≠ q)

def newRun (rsha : RuntimeDocument → Digest) (t : Time) (q : ControlRunRequest) : ControlRun :=
  pendingRun (rsha (.runRequest q)) q t

/-- The digest tells the requests at hand apart. -/
def CollisionFree (rsha : RuntimeDocument → Digest) (c : Catalog)
    (qs : List ControlRunRequest) : Prop :=
  Set.InjOn (fun q => rsha (.runRequest q)) {q | q ∈ qs ∨ ∃ r ∈ c.runs, r.request = q}

/-! ## The insertion loop -/

theorem insertRuns_append (t : Time) (maxNewRuns : Nat) :
    ∀ (xs ys : List ControlRunRequest) (acc : Catalog × Nat),
      insertRuns rsha t maxNewRuns (xs ++ ys) acc
        = (insertRuns rsha t maxNewRuns xs acc >>= insertRuns rsha t maxNewRuns ys)
  | [], ys, acc => rfl
  | q :: xs, ys, (c, n) => by
    simp only [List.cons_append, insertRuns, bind_assoc]
    congr 1
    funext r
    congr 1
    funext _
    exact insertRuns_append t maxNewRuns xs ys _

variable {c : Catalog} {q : ControlRunRequest} {t through : Time} {qs : List ControlRunRequest}
  {l : MaterializationLimits}

/-- Two owed windows of one deployment with one end are one request. -/
theorem owed_unique (hc : HistoryInv sha rsha c) {h h' : DeploymentHistory}
    {q' : ControlRunRequest} (hh : h ∈ c.history) (hh' : h' ∈ c.history)
    (ho : OwesRun h q) (ho' : OwesRun h' q')
    (hop : q.deploymentOperationId = q'.deploymentOperationId)
    (hend : q.windowEnd = q'.windowEnd) : q = q' := by
  have hid : h.operationId = h'.operationId := by
    have h₁ : q.deploymentOperationId = h.operationId := by
      rw [ho.request]
      rfl
    have h₂ : q'.deploymentOperationId = h'.operationId := by
      rw [ho'.request]
      rfl
    rw [← h₁, ← h₂, hop]
  have heq : h = h' := List.inj_on_of_nodup_map hc.operationIds hh hh' hid
  rw [ho.request, ho'.request, heq, hend]

/-- A window without a run is inserted. -/
theorem insertRun_missing (hc : CatalogInv sha rsha c) (hguard : c.runGuard q t)
    (hinj : ∀ r ∈ c.runs, rsha (.runRequest r.request) = rsha (.runRequest q) →
      r.request = q)
    (hmiss : ∀ r ∈ c.runs, r.request ≠ q) :
    insertRun rsha c q t = .ok ({ c with runs := c.runs ++ [newRun rsha t q] }, 1) := by
  obtain ⟨h, hh, howes, _⟩ := runGuard_owes hc.deployments hguard
  have hfresh : ¬∃ r ∈ c.runs, r.runId = rsha (.runRequest q) := by
    rintro ⟨r, hr, hid⟩
    rw [hc.runs.requests r hr] at hid
    exact hmiss r hr (hinj r hr hid)
  have hwindow : ∀ r ∈ c.runs, ¬(r.request.tenantId = q.tenantId
      ∧ r.request.controlId = q.controlId
      ∧ r.request.deploymentOperationId = q.deploymentOperationId
      ∧ r.request.windowStart = q.windowStart ∧ r.request.windowEnd = q.windowEnd) := by
    rintro r hr ⟨_, _, hop, _, hend⟩
    obtain ⟨h', hh', howes'⟩ := hc.runs.owed r hr
    exact hmiss r hr (owed_unique hc.deployments hh' hh howes' howes hop hend)
  simp only [insertRun, require_pos hguard, ok_bind, if_neg hfresh, require_pos hwindow]
  rfl

/-- A window that has its run is left alone. -/
theorem insertRun_present
    (hc : RunsInv rsha c) (hguard : c.runGuard q t) {r : ControlRun} (hr : r ∈ c.runs)
    (hrq : r.request = q) : insertRun rsha c q t = .ok (c, 0) := by
  have hex : ∃ r ∈ c.runs, r.runId = rsha (.runRequest q) :=
    ⟨r, hr, by rw [hc.requests r hr, hrq]⟩
  simp only [insertRun, require_pos hguard, ok_bind, if_pos hex]
  rfl

theorem missing_cons_present {r : ControlRun} (hr : r ∈ c.runs) (hrq : r.request = q) :
    c.missing (q :: qs) = c.missing qs := by
  unfold Catalog.missing
  rw [List.filter_cons_of_neg]
  simp only [decide_eq_true_eq]
  exact fun hall => hall r hr hrq

theorem missing_cons_missing (hmiss : ∀ r ∈ c.runs, r.request ≠ q) :
    c.missing (q :: qs) = q :: c.missing qs := by
  unfold Catalog.missing
  rw [List.filter_cons_of_pos]
  simpa using hmiss

/-- A run for another window does not change what is missing. -/
theorem missing_append (hq : q ∉ qs) :
    Catalog.missing { c with runs := c.runs ++ [newRun rsha t q] } qs = c.missing qs := by
  unfold Catalog.missing
  apply List.filter_congr
  intro x hx
  have hne : q ≠ x := fun h => hq (h ▸ hx)
  rw [decide_eq_decide]
  constructor
  · intro h r hr
    exact h r (List.mem_append_left _ hr)
  · intro h r hr
    rcases List.mem_append.mp hr with hr | hr
    · exact h r hr
    · rw [List.mem_singleton] at hr
      rw [hr]
      exact hne

/-- **The loop.** Given room, inserting a list of owed windows adds exactly the
runs that are missing. -/
theorem insertRuns_missing {maxNewRuns : Nat} :
    ∀ (qs : List ControlRunRequest) {c : Catalog} {n : Nat}, CatalogInv sha rsha c →
      (∀ q ∈ qs, c.runGuard q t) → qs.Nodup → CollisionFree rsha c qs →
      n + (c.missing qs).length ≤ maxNewRuns →
      insertRuns rsha t maxNewRuns qs (c, n)
        = .ok ({ c with runs := c.runs ++ (c.missing qs).map (newRun rsha t) },
          n + (c.missing qs).length)
  | [], c, n, _, _, _, _, _ => by
    simp only [insertRuns, Catalog.missing, List.filter_nil, List.map_nil, List.append_nil,
      List.length_nil, Nat.add_zero]
    rfl
  | q :: qs, c, n, hc, hguard, hnd, hinj, hroom => by
    have hq : c.runGuard q t := hguard q (List.mem_cons_self ..)
    have hqs : ∀ x ∈ qs, c.runGuard x t := fun x hx => hguard x (List.mem_cons_of_mem _ hx)
    rw [List.nodup_cons] at hnd
    by_cases hmiss : ∀ r ∈ c.runs, r.request ≠ q
    · have hins := insertRun_missing hc hq
        (fun r hr he => hinj (Or.inr ⟨r, hr, rfl⟩) (Or.inl (List.mem_cons_self ..)) he) hmiss
      rw [missing_cons_missing hmiss, List.length_cons] at hroom ⊢
      have hinj' : CollisionFree rsha { c with runs := c.runs ++ [newRun rsha t q] } qs := by
        refine Set.InjOn.mono ?_ hinj
        rintro x (hx | ⟨r, hr, rfl⟩)
        · exact Or.inl (List.mem_cons_of_mem _ hx)
        · rcases List.mem_append.mp hr with hr | hr
          · exact Or.inr ⟨r, hr, rfl⟩
          · rw [List.mem_singleton] at hr
            rw [hr]
            exact Or.inl (List.mem_cons_self ..)
      have hsame : Catalog.missing { c with runs := c.runs ++ [newRun rsha t q] } qs
          = c.missing qs := missing_append hnd.1
      have hroom' : n + 1
          + (Catalog.missing { c with runs := c.runs ++ [newRun rsha t q] } qs).length
            ≤ maxNewRuns := by
        rw [hsame]
        omega
      have hrest := insertRuns_missing qs (insertRun_inv hc hins) hqs hnd.2 hinj' hroom'
      rw [hsame] at hrest
      have hle : n + 1 ≤ maxNewRuns := by omega
      have hstep : insertRuns rsha t maxNewRuns (q :: qs) (c, n)
          = insertRuns rsha t maxNewRuns qs
            ({ c with runs := c.runs ++ [newRun rsha t q] }, n + 1) := by
        simp only [insertRuns, hins, ok_bind, require_pos hle]
      rw [hstep, hrest]
      simp only [List.map_cons, List.append_assoc, List.singleton_append]
      congr 2
      omega
    · have hex : ∃ r ∈ c.runs, r.request = q := by
        by_contra hno
        exact hmiss fun r hr he => hno ⟨r, hr, he⟩
      obtain ⟨r, hr, hrq⟩ := hex
      have hins := insertRun_present (t := t) hc.runs hq hr hrq
      rw [missing_cons_present hr hrq] at hroom ⊢
      have hinj' : CollisionFree rsha c qs := by
        refine Set.InjOn.mono ?_ hinj
        rintro x (hx | hx)
        · exact Or.inl (List.mem_cons_of_mem _ hx)
        · exact Or.inr hx
      have hle : n ≤ maxNewRuns := by omega
      have hstep : insertRuns rsha t maxNewRuns (q :: qs) (c, n)
          = insertRuns rsha t maxNewRuns qs (c, n) := by
        simp only [insertRuns, hins, ok_bind, Nat.add_zero, require_pos hle]
      rw [hstep]
      exact insertRuns_missing qs hc hqs hnd.2 hinj' hroom

/-! ## The windows of a tenant -/

variable {tenantId : String} {now : Time}

theorem mem_deployments {row : DeploymentHistory × Option Time} :
    row ∈ c.deployments tenantId ↔
      row.1 ∈ c.history ∧ row.1.tenantId = tenantId ∧ row.2 = c.supersededAt row.1 := by
  unfold Catalog.deployments
  rw [List.mem_map]
  constructor
  · rintro ⟨h, hh, rfl⟩
    rw [List.mem_insertionSort, List.mem_filter, decide_eq_true_eq] at hh
    exact ⟨hh.1, hh.2, rfl⟩
  · rintro ⟨hh, hten, hsup⟩
    refine ⟨row.1, ?_, Prod.ext rfl hsup.symm⟩
    rw [List.mem_insertionSort, List.mem_filter, decide_eq_true_eq]
    exact ⟨hh, hten⟩

theorem mem_dueRequests :
    q ∈ c.dueRequests tenantId through ↔ ∃ h ∈ c.history, h.tenantId = tenantId ∧
      ∃ e, DueWindow h.configurationBytes h.appliedAt (c.supersededAt h) through e
        ∧ q = h.runRequest e := by
  unfold Catalog.dueRequests
  rw [List.mem_flatMap]
  constructor
  · rintro ⟨row, hrow, hq⟩
    obtain ⟨e, he, rfl⟩ := List.mem_map.mp hq
    obtain ⟨hh, hten, hsup⟩ := mem_deployments.mp hrow
    rw [rowEnds, hsup, mem_dueEnds] at he
    exact ⟨row.1, hh, hten, e, he, rfl⟩
  · rintro ⟨h, hh, hten, e, he, rfl⟩
    refine ⟨(h, c.supersededAt h), mem_deployments.mpr ⟨hh, hten, rfl⟩, ?_⟩
    exact List.mem_map.mpr ⟨e, mem_dueEnds.mpr he, rfl⟩

/-- The trigger admits every window that is due. -/
theorem due_guard (hc : HistoryInv sha rsha c) (hnow : through ≤ now)
    (hq : q ∈ c.dueRequests tenantId through) : c.runGuard q now := by
  obtain ⟨h, hh, hten, e, hdue, rfl⟩ := mem_dueRequests.mp hq
  obtain ⟨_, _, hctl, hpid, hpdig⟩ := hc.configurations h hh
  refine ⟨h, hh, rfl, hctl.symm, rfl, rfl, rfl, rfl, rfl, hpid.symm, hpdig.symm,
    hdue.enabled, hdue.after, ?_, rfl, Int.emod_eq_zero_of_dvd hdue.aligned,
    Int.le_trans hdue.lagged hnow, ?_⟩
  · exact Int.sub_sub_self ..
  · rintro ⟨x, hx, hxt, hxk, hlt, hbefore⟩
    -- a later row exists, so the deployment was superseded, and not before `e`
    cases hs : c.supersededAt h with
    | none =>
      have := supersededAt_none hs hx ⟨hxt, hxk⟩
      omega
    | some s =>
      have hle := (hc.superseded_after hh hs).2 x hx ⟨hxt, hxk⟩ hlt
      have hend := hdue.before s hs
      exact absurd (Int.le_trans hend hle) (Int.not_le_of_gt hbefore)

theorem dueRequests_nodup
    (hc : HistoryInv sha rsha c) : (c.dueRequests tenantId through).Nodup := by
  unfold Catalog.dueRequests
  rw [List.nodup_flatMap]
  constructor
  · intro row _
    refine List.Nodup.map ?_ dueEnds_nodup
    intro e e' he
    exact congrArg ControlRunRequest.windowEnd he
  · -- two rows of the list are two operations
    have hids : ((c.deployments tenantId).map fun row => row.1.operationId).Nodup := by
      unfold Catalog.deployments
      rw [List.map_map]
      have hperm := List.perm_insertionSort historyOrder
        (c.history.filter fun h => decide (h.tenantId = tenantId))
      refine ((hperm.map _).nodup_iff).mpr ?_
      exact hc.operationIds.sublist (List.filter_sublist.map _)
    rw [List.Nodup, List.pairwise_map] at hids
    refine hids.imp ?_
    intro a b hab q hqa hqb
    obtain ⟨e, _, rfl⟩ := List.mem_map.mp hqa
    obtain ⟨e', _, he'⟩ := List.mem_map.mp hqb
    exact hab (congrArg ControlRunRequest.deploymentOperationId he').symm

/-! ## The call -/

/-- The bounds are in their supported ranges. -/
def MaterializationLimits.InRange (l : MaterializationLimits) : Prop :=
  (1 ≤ l.maxDeployments ∧ l.maxDeployments ≤ 100000)
    ∧ (1 ≤ l.maxWindowsPerDeployment ∧ l.maxWindowsPerDeployment ≤ 100000)
    ∧ (1 ≤ l.maxNewRuns ∧ l.maxNewRuns ≤ 100000)

instance (l : MaterializationLimits) : Decidable l.InRange :=
  inferInstanceAs (Decidable (_ ∧ _ ∧ _))

/-- No scan is longer than its bound: the tenant's deployments, and the windows
each of them ever had. -/
structure WithinLimits (c : Catalog) (tenantId : String) (through : Time)
    (l : MaterializationLimits) : Prop where
  deployments : (c.deployments tenantId).length ≤ l.maxDeployments
  windows : ∀ row ∈ c.deployments tenantId,
    (rowEnds through row).length ≤ l.maxWindowsPerDeployment

theorem materializeRows_eq (hc : HistoryInv sha rsha c) (hl : l.InRange) :
    ∀ (rows : List (DeploymentHistory × Option Time)),
      (∀ row ∈ rows, row.1 ∈ c.history ∧ row.2 = c.supersededAt row.1
        ∧ (rowEnds through row).length ≤ l.maxWindowsPerDeployment) →
      ∀ acc, materializeRows sha rsha through now l rows acc
        = insertRuns rsha now l.maxNewRuns
          (rows.flatMap fun row => (rowEnds through row).map row.1.runRequest) acc
  | [], _, acc => by
    obtain ⟨c, n⟩ := acc
    rfl
  | row :: rows, hrows, acc => by
    obtain ⟨hh, hsup, hlen⟩ := hrows row (List.mem_cons_self ..)
    have hdue : dueWindowEnds row.1.configurationBytes row.1.appliedAt row.2 through
        l.maxWindowsPerDeployment = .ok (rowEnds through row) := by
      refine dueWindowEnds_eq_ok.mpr ⟨?_, hl.2.1, hlen, rfl⟩
      intro s hs
      rw [hsup] at hs
      exact (hc.superseded_after hh hs).1
    have hrow : materializeRow sha rsha through now l row acc
        = insertRuns rsha now l.maxNewRuns ((rowEnds through row).map row.1.runRequest)
          acc := by
      simp only [materializeRow, require_pos (hc.configurations row.1 hh), hdue, ok_bind,
        Except.mapError]
    rw [List.flatMap_cons, insertRuns_append]
    unfold materializeRows
    rw [hrow]
    congr 1
    funext acc'
    exact materializeRows_eq hc hl rows
      (fun r hr => hrows r (List.mem_cons_of_mem _ hr)) acc'

theorem materializeDueRuns_eq (hc : HistoryInv sha rsha c) (hl : l.InRange)
    (hnow : through ≤ now) (hw : WithinLimits c tenantId through l) :
    materializeDueRuns sha rsha c now tenantId (some through) l
      = insertRuns rsha now l.maxNewRuns (c.dueRequests tenantId through) (c, 0) := by
  have hhor : ∀ h, some through = some h → h ≤ now := by
    intro h hh
    cases hh
    exact hnow
  simp only [materializeDueRuns, require_pos hl.1, require_pos hl.2.1, require_pos hl.2.2,
    require_pos hhor, require_pos hw.deployments, ok_bind, Option.getD_some]
  refine materializeRows_eq hc hl _ ?_ _
  intro row hrow
  obtain ⟨hh, _, hsup⟩ := mem_deployments.mp hrow
  exact ⟨hh, hsup, hw.windows row hrow⟩

/-- A call that answers passed every scan bound. -/
theorem materializeDueRuns_within {c' : Catalog} {n : Nat}
    (h : materializeDueRuns sha rsha c now tenantId (some through) l = .ok (c', n)) :
    WithinLimits c tenantId through l := by
  simp only [materializeDueRuns, bind_eq_ok, require_eq_ok, exists_const,
    Option.getD_some] at h
  obtain ⟨_, _, _, _, hlen, hrows⟩ := h
  have hall : ∀ (rows : List (DeploymentHistory × Option Time)) (acc acc' : Catalog × Nat),
      materializeRows sha rsha through now l rows acc = .ok acc' →
      ∀ row ∈ rows, (rowEnds through row).length ≤ l.maxWindowsPerDeployment := by
    intro rows
    induction rows with
    | nil =>
      intro _ _ _ row hrow
      cases hrow
    | cons r rows ih =>
      intro acc acc' hacc row hrow
      simp only [materializeRows, bind_eq_ok] at hacc
      obtain ⟨acc₁, hr, hrest⟩ := hacc
      rcases List.mem_cons.mp hrow with rfl | hrow
      · obtain ⟨ends, hends, _⟩ := materializeRow_ok hr
        exact (dueWindowEnds_eq_ok.mp hends).2.2.1
      · exact ih _ _ hrest row hrow
  exact ⟨hlen, hall _ _ _ hrows⟩

/-- What materialization is for: the call succeeds, adds one run for each due
window that has none and nothing else, and has nothing to do when repeated. -/
def Materializes (sha : Document → Digest) (rsha : RuntimeDocument → Digest) (c : Catalog)
    (now : Time) (tenantId : String) (through : Time) (l : MaterializationLimits) : Prop :=
  ∃ c', materializeDueRuns sha rsha c now tenantId (some through) l
      = .ok (c', (c.missing (c.dueRequests tenantId through)).length)
    ∧ c' = { c with runs := c.runs
        ++ (c.missing (c.dueRequests tenantId through)).map (newRun rsha now) }
    ∧ ∀ later, through ≤ later →
      materializeDueRuns sha rsha c' later tenantId (some through) l = .ok (c', 0)

/-- After the missing runs are added nothing is missing. -/
theorem missing_after :
    Catalog.missing { c with runs := c.runs ++ (c.missing qs).map (newRun rsha t) } qs
      = [] := by
  unfold Catalog.missing
  rw [List.filter_eq_nil_iff]
  intro q hq hall
  simp only [decide_eq_true_eq] at hall
  have hmiss : q ∈ c.missing qs := by
    rw [Catalog.missing, List.mem_filter, decide_eq_true_eq]
    exact ⟨hq, fun r hr => hall r (List.mem_append_left _ hr)⟩
  exact hall (newRun rsha t q)
    (List.mem_append_right _ (List.mem_map_of_mem hmiss)) rfl

/-- Within the limits, a call adds exactly what is missing. -/
theorem materializeDueRuns_missing
    (hc : CatalogInv sha rsha c) (hl : l.InRange) (hnow : through ≤ now)
    (hinj : CollisionFree rsha c (c.dueRequests tenantId through))
    (hroom : (c.missing (c.dueRequests tenantId through)).length ≤ l.maxNewRuns)
    (hw : WithinLimits c tenantId through l) :
    materializeDueRuns sha rsha c now tenantId (some through) l
      = .ok ({ c with runs := c.runs
          ++ (c.missing (c.dueRequests tenantId through)).map (newRun rsha now) },
        (c.missing (c.dueRequests tenantId through)).length) := by
  rw [materializeDueRuns_eq hc.deployments hl hnow hw,
    insertRuns_missing _ hc (fun q hq => due_guard hc.deployments hnow hq)
      (dueRequests_nodup hc.deployments) hinj (by omega), Nat.zero_add]

/-- Within the limits, a call with nothing to add changes nothing. -/
theorem materializeDueRuns_idle (hc : CatalogInv sha rsha c) (hl : l.InRange) (hnow : through ≤ now)
    (hinj : CollisionFree rsha c (c.dueRequests tenantId through))
    (hnone : c.missing (c.dueRequests tenantId through) = [])
    (hw : WithinLimits c tenantId through l) :
    materializeDueRuns sha rsha c now tenantId (some through) l = .ok (c, 0) := by
  rw [materializeDueRuns_missing hc hl hnow hinj (hnone ▸ Nat.zero_le _) hw, hnone]
  simp only [List.map_nil, List.append_nil, List.length_nil]

theorem materialize_ok (hc : CatalogInv sha rsha c) (hl : l.InRange) (hnow : through ≤ now)
    (hinj : CollisionFree rsha c (c.dueRequests tenantId through))
    (hroom : (c.missing (c.dueRequests tenantId through)).length ≤ l.maxNewRuns)
    (hw : WithinLimits c tenantId through l) :
    Materializes sha rsha c now tenantId through l := by
  have hfirst := materializeDueRuns_missing hc hl hnow hinj hroom hw
  refine ⟨_, hfirst, rfl, ?_⟩
  intro later hlater
  -- the second call sees the same history, so the same windows, now all present
  have hc' := materializeDueRuns_induction (fun _ _ _ _ h => insertRun_inv h) hc hfirst
  refine materializeDueRuns_idle hc' hl hlater ?_ missing_after ⟨hw.deployments, hw.windows⟩
  refine Set.InjOn.mono ?_ hinj
  rintro x (hx | ⟨r, hr, rfl⟩)
  · exact Or.inl hx
  · rcases List.mem_append.mp hr with hr | hr
    · exact Or.inr ⟨r, hr, rfl⟩
    · obtain ⟨q, hq, rfl⟩ := List.mem_map.mp hr
      exact Or.inl (List.mem_of_mem_filter hq)

/-- **When materialization works.** In every catalog that calls can lead to, with
room for the missing runs, the call does its job exactly when the tenant has no
more deployments than the scan bound and no deployment has had more windows,
counted from its application, than the window bound. -/
theorem materialize_iff (calls : List CatalogCall) (tenantId : String) (through now : Time)
    (l : MaterializationLimits) (hl : l.InRange) (hnow : through ≤ now)
    (hinj : CollisionFree rsha (catalogAfter sha rsha maxRunAttempts calls)
      ((catalogAfter sha rsha maxRunAttempts calls).dueRequests tenantId through))
    (hroom : ((catalogAfter sha rsha maxRunAttempts calls).missing
      ((catalogAfter sha rsha maxRunAttempts calls).dueRequests tenantId through)).length
        ≤ l.maxNewRuns) :
    Materializes sha rsha (catalogAfter sha rsha maxRunAttempts calls) now tenantId through l
      ↔ WithinLimits (catalogAfter sha rsha maxRunAttempts calls) tenantId through l := by
  constructor
  · rintro ⟨c', hok, _⟩
    exact materializeDueRuns_within hok
  · exact materialize_ok (catalogAfter_inv calls) hl hnow hinj hroom

/-! ## A deployment that has been active for a week

One control every minute, applied at the epoch. Its first ten thousand windows
were materialized in time; the next one is due. -/

/-- Digests for the example: a run is told by its window's end. -/
def minuteSha : RuntimeDocument → Digest
  | .runRequest q => BitVec.ofNat 256 q.windowEnd.toNat
  | _ => 0

def minuteRequest : DeploymentApplyRequest :=
  ⟨1, "tenant-a", "edr-coverage", 2, 0, everyMinute, 1, 1⟩

def minuteDeployment : List CatalogCall :=
  [.registerProfile ⟨"tenant-a", "edr", 9⟩, .ensureApplied minuteRequest 0]

def minuteWeek : List CatalogCall :=
  minuteDeployment ++
    [.materialize 600000 "tenant-a" (some 600000) MaterializationLimits.default]

def minuteCatalog (calls : List CatalogCall) : Catalog :=
  catalogAfter (fun _ => 0) minuteSha 8 calls

def minuteRow : DeploymentHistory := newHistory minuteSha minuteRequest none 0

theorem minute_deployments :
    (minuteCatalog minuteDeployment).deployments "tenant-a" = [(minuteRow, none)] := by
  decide

/-- What is due is the minute's requests up to the horizon, each told by its end. -/
theorem mem_minute_due :
    q ∈ (minuteCatalog minuteDeployment).dueRequests "tenant-a" through ↔
      ∃ e, DueWindow everyMinute 0 none through e ∧ q = minuteRow.runRequest e := by
  unfold Catalog.dueRequests
  rw [minute_deployments, List.flatMap_singleton, List.mem_map]
  constructor
  · rintro ⟨e, he, rfl⟩
    exact ⟨e, mem_dueEnds.mp he, rfl⟩
  · rintro ⟨e, he, rfl⟩
    exact ⟨e, mem_dueEnds.mpr he, rfl⟩

theorem minute_collisionFree (hthrough : through ≤ 1000000) :
    CollisionFree minuteSha (minuteCatalog minuteDeployment)
      ((minuteCatalog minuteDeployment).dueRequests "tenant-a" through) := by
  have hruns : (minuteCatalog minuteDeployment).runs = [] := by decide
  have hrange : ∀ q, (q ∈ (minuteCatalog minuteDeployment).dueRequests "tenant-a" through
      ∨ ∃ r ∈ (minuteCatalog minuteDeployment).runs, r.request = q) →
      ∃ e : Int, 0 ≤ e ∧ e ≤ 1000000 ∧ q = minuteRow.runRequest e := by
    rintro q (hq | ⟨r, hr, _⟩)
    · obtain ⟨e, hdue, rfl⟩ := mem_minute_due.mp hq
      have h₁ : (0 : Int) ≤ e - 60 := hdue.after
      have h₂ : e ≤ (1000000 : Int) := by
        have hlag := Int.le_trans hdue.lagged hthrough
        simpa [everyMinute] using hlag
      exact ⟨e, by omega, h₂, rfl⟩
    · rw [hruns] at hr
      cases hr
  intro q hq q' hq' heq
  obtain ⟨e, h₁, h₂, rfl⟩ := hrange q hq
  obtain ⟨e', h₁', h₂', rfl⟩ := hrange q' hq'
  have hbits : BitVec.ofNat 256 e.toNat = BitVec.ofNat 256 e'.toNat := heq
  have hsmall : ∀ x : Int, x ≤ 1000000 → x.toNat < 2 ^ 256 := by
    intro x hx
    have hle : x.toNat ≤ 1000000 := by omega
    exact Nat.lt_of_le_of_lt hle (by decide)
  have hnat := congrArg BitVec.toNat hbits
  rw [BitVec.toNat_ofNat, BitVec.toNat_ofNat, Nat.mod_eq_of_lt (hsmall e h₂),
    Nat.mod_eq_of_lt (hsmall e' h₂')] at hnat
  have hee : e = e' := by omega
  rw [hee]

theorem minute_count (through : Time) :
    (rowEnds through (minuteRow, none)).length = dueCount everyMinute 0 none through := by
  show (dueEnds everyMinute 0 none through).length = _
  have hen : everyMinute.enabled = true := rfl
  unfold dueEnds
  rw [if_pos hen, List.length_map, List.length_range]

theorem minute_within :
    WithinLimits (minuteCatalog minuteDeployment) "tenant-a" 600000
      MaterializationLimits.default := by
  constructor
  · rw [minute_deployments]
    decide
  · intro row hrow
    rw [minute_deployments, List.mem_singleton] at hrow
    rw [hrow, minute_count]
    decide

theorem minute_room :
    ((minuteCatalog minuteDeployment).missing
      ((minuteCatalog minuteDeployment).dueRequests "tenant-a" 600000)).length
        ≤ MaterializationLimits.default.maxNewRuns := by
  refine Nat.le_trans (List.length_filter_le _ _) ?_
  unfold Catalog.dueRequests
  rw [minute_deployments, List.flatMap_singleton, List.length_map, minute_count]
  decide

theorem materialize_iff_minute :
    Materializes (fun _ => 0) minuteSha (minuteCatalog minuteDeployment) 600000 "tenant-a"
      600000 MaterializationLimits.default :=
  (materialize_iff minuteDeployment "tenant-a" 600000 600000 MaterializationLimits.default
    (by decide) (by decide) (minute_collisionFree (by decide)) minute_room).mpr minute_within

/-- The catalog after the week: every window so far has its run. -/
theorem minuteWeek_eq : minuteCatalog minuteWeek = { minuteCatalog minuteDeployment with
    runs := (minuteCatalog minuteDeployment).runs ++
      ((minuteCatalog minuteDeployment).missing
        ((minuteCatalog minuteDeployment).dueRequests "tenant-a" 600000)).map
          (newRun minuteSha 600000) } := by
  have hinv : CatalogInv (fun _ => 0) minuteSha (minuteCatalog minuteDeployment) :=
    catalogAfter_inv minuteDeployment
  have hrun := materializeDueRuns_missing hinv
    (by decide : MaterializationLimits.default.InRange) (Int.le_refl 600000)
    (minute_collisionFree (by decide)) minute_room minute_within
  have hnext : minuteCatalog minuteWeek
      = (CatalogCall.materialize 600000 "tenant-a" (some 600000)
          MaterializationLimits.default).next (fun _ => 0) minuteSha 8
          (minuteCatalog minuteDeployment) := catalogAfter_concat _ _
  rw [hnext]
  show committed (minuteCatalog minuteDeployment) (materializeDueRuns (fun _ => 0) minuteSha
    (minuteCatalog minuteDeployment) 600000 "tenant-a" (some 600000)
      MaterializationLimits.default) = _
  rw [hrun]
  rfl

/-- A materialization leaves the deployments as they are. -/
theorem minuteWeek_deployments :
    (minuteCatalog minuteWeek).deployments "tenant-a" = [(minuteRow, none)] := by
  have hsame : ∀ runs, Catalog.deployments { minuteCatalog minuteDeployment with runs := runs }
      "tenant-a" = (minuteCatalog minuteDeployment).deployments "tenant-a" := by
    intro runs
    rfl
  rw [minuteWeek_eq, hsame, minute_deployments]

/-- One more window is due than at the end of the week. -/
theorem minute_next : (minuteCatalog minuteWeek).dueRequests "tenant-a" 600060
    = (minuteCatalog minuteDeployment).dueRequests "tenant-a" 600000
      ++ [minuteRow.runRequest 600060] := by
  have hends : rowEnds 600060 (minuteRow, none) = rowEnds 600000 (minuteRow, none) ++ [600060] := by
    have hen : everyMinute.enabled = true := rfl
    have h₁ : dueCount everyMinute 0 none 600060 = 10001 := by decide
    have h₂ : dueCount everyMinute 0 none 600000 = 10000 := by decide
    show dueEnds everyMinute 0 none 600060
      = dueEnds everyMinute 0 none 600000 ++ [600060]
    unfold dueEnds
    rw [if_pos hen, if_pos hen, h₁, h₂, List.range_succ, List.map_append]
    congr 1
  unfold Catalog.dueRequests
  rw [minuteWeek_deployments, minute_deployments, List.flatMap_singleton,
    List.flatMap_singleton, hends, List.map_append]
  rfl

theorem minute_missing : (minuteCatalog minuteWeek).missing
    ((minuteCatalog minuteWeek).dueRequests "tenant-a" 600060)
      = [minuteRow.runRequest 600060] := by
  have hold : (minuteCatalog minuteWeek).missing
      ((minuteCatalog minuteDeployment).dueRequests "tenant-a" 600000) = [] := by
    rw [minuteWeek_eq]
    exact missing_after
  have hnew : ∀ r ∈ (minuteCatalog minuteWeek).runs,
      r.request ≠ minuteRow.runRequest 600060 := by
    have hnone : (minuteCatalog minuteDeployment).runs = [] := by decide
    have hruns : (minuteCatalog minuteWeek).runs = ((minuteCatalog minuteDeployment).missing
        ((minuteCatalog minuteDeployment).dueRequests "tenant-a" 600000)).map
          (newRun minuteSha 600000) := by
      rw [minuteWeek_eq]
      dsimp only
      rw [hnone, List.nil_append]
    intro r hr heq
    rw [hruns, List.mem_map] at hr
    obtain ⟨q, hq, rfl⟩ := hr
    have hmem : q ∈ (minuteCatalog minuteDeployment).dueRequests "tenant-a" 600000 := by
      rw [Catalog.missing, List.mem_filter] at hq
      exact hq.1
    obtain ⟨e, hdue, rfl⟩ := mem_minute_due.mp hmem
    -- the runs of the week end by its horizon
    have hend : e = 600060 := congrArg ControlRunRequest.windowEnd heq
    have hlag := hdue.lagged
    rw [hend] at hlag
    revert hlag
    decide
  have hlast : (minuteCatalog minuteWeek).missing [minuteRow.runRequest 600060]
      = [minuteRow.runRequest 600060] := by
    rw [missing_cons_missing hnew]
    rfl
  have hsplit : ∀ xs ys, (minuteCatalog minuteWeek).missing (xs ++ ys)
      = (minuteCatalog minuteWeek).missing xs ++ (minuteCatalog minuteWeek).missing ys :=
    fun xs ys => List.filter_append xs ys
  rw [minute_next, hsplit, hold, hlast, List.nil_append]

/-- The next minute is due, it is the only window without a run, and the call
fails. -/
theorem materialize_stalls :
    (minuteCatalog minuteWeek).missing
        ((minuteCatalog minuteWeek).dueRequests "tenant-a" 600060)
      = [minuteRow.runRequest 600060]
    ∧ materializeDueRuns (fun _ => 0) minuteSha (minuteCatalog minuteWeek) 600060 "tenant-a"
        (some 600060) MaterializationLimits.default
      = .error (.integrity "runtime materialization input or state is invalid")
    ∧ ¬Materializes (fun _ => 0) minuteSha (minuteCatalog minuteWeek) 600060 "tenant-a" 600060
        MaterializationLimits.default := by
  have herr : materializeDueRuns (fun _ => 0) minuteSha (minuteCatalog minuteWeek) 600060
      "tenant-a" (some 600060) MaterializationLimits.default
        = .error (.integrity "runtime materialization input or state is invalid") := by
    unfold materializeDueRuns
    rw [minuteWeek_deployments]
    generalize minuteCatalog minuteWeek = c
    rfl
  refine ⟨minute_missing, herr, ?_⟩
  rintro ⟨c', hok, _⟩
  rw [herr] at hok
  cases hok

/-! ## Whose runs there are -/

/-- The windows of one deployment do not overlap. -/
theorem owed_apart {h : DeploymentHistory} {q q' : ControlRunRequest} (hq : OwesRun h q)
    (hq' : OwesRun h q') (hlt : q.windowEnd < q'.windowEnd) : q.windowEnd ≤ q'.windowStart := by
  have hstart := congrArg ControlRunRequest.windowStart hq'.request
  have hinterval : (h.configurationBytes.schedule.intervalSeconds : Int)
      ≤ q'.windowEnd - q.windowEnd :=
    Int.le_of_dvd (Int.sub_pos.mpr hlt) (Int.dvd_sub hq'.aligned hq.aligned)
  have hwindow := Int.ofNat_le.mpr h.configurationBytes.schedule.window_le_interval
  rw [hstart]
  exact Int.le_sub_left_of_add_le (Int.add_le_of_le_sub_right (Int.le_trans hwindow hinterval))

/-- **Every run is owed by exactly one deployment, and no two runs of a deployment overlap**, after
any calls: a run's window is on its deployment's schedule and after the application. -/
theorem deployment_runs_apart (calls : List CatalogCall) :
    (∀ r ∈ (catalogAfter sha rsha maxRunAttempts calls).runs,
      ∃! h, h ∈ (catalogAfter sha rsha maxRunAttempts calls).history ∧ OwesRun h r.request)
    ∧ (catalogAfter sha rsha maxRunAttempts calls).runs.Pairwise fun r r' =>
      r.request.deploymentOperationId = r'.request.deploymentOperationId →
        r.request.windowEnd ≤ r'.request.windowStart
          ∨ r'.request.windowEnd ≤ r.request.windowStart := by
  obtain ⟨hdeployments, hruns⟩ : CatalogInv sha rsha (catalogAfter sha rsha maxRunAttempts calls) :=
    catalogAfter_inv calls
  generalize catalogAfter sha rsha maxRunAttempts calls = c at hdeployments hruns
  have hunique : ∀ {h h' : DeploymentHistory} {q q' : ControlRunRequest}, h ∈ c.history →
      h' ∈ c.history → OwesRun h q → OwesRun h' q' →
      q.deploymentOperationId = q'.deploymentOperationId → h = h' := by
    intro h h' q q' hh hh' hq hq' hsame
    rw [hq.request, hq'.request] at hsame
    exact List.inj_on_of_nodup_map hdeployments.operationIds hh hh' hsame
  refine ⟨fun r hr => ?_, (List.Nodup.of_map _ hruns.runIds).pairwise_of_forall_ne ?_⟩
  · obtain ⟨h, hh, howes⟩ := hruns.owed r hr
    refine ⟨h, ⟨hh, howes⟩, ?_⟩
    rintro h' ⟨hh', howes'⟩
    exact hunique hh' hh howes' howes rfl
  · intro r hr r' hr' hne hsame
    obtain ⟨h, hh, howes⟩ := hruns.owed r hr
    obtain ⟨h', hh', howes'⟩ := hruns.owed r' hr'
    obtain rfl := hunique hh hh' howes howes' hsame
    rcases Int.lt_trichotomy r.request.windowEnd r'.request.windowEnd with hlt | heq | hgt
    · exact Or.inl (owed_apart howes howes' hlt)
    · refine absurd (List.inj_on_of_nodup_map hruns.runIds hr hr' ?_) hne
      rw [hruns.requests r hr, hruns.requests r' hr', howes.request, howes'.request, heq]
    · exact Or.inr (owed_apart howes' howes hgt)

end ControlAssurance.Runtime
