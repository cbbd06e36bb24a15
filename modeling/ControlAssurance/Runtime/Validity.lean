import ControlAssurance.Runtime.RunSteps

/-!
# Windows and the validity of deployments

The catalog with a clock. An `ensure_applied` transaction reads its timestamp
when it begins and may commit any time later; `materialize_due_runs` commits at
the current time. The application time of a deployment is the timestamp of its
transaction (or a second after its predecessor's), so it can lie before runs
that were materialized for the predecessor while the transaction was open.

`windows_valid_iff` says that this is the only thing that can go wrong: along
any schedule every window stays inside the validity of its deployment, and the
windows of a control stay disjoint, exactly when every commit that extends the
history finds no run of its control that was materialized after the transaction
began and ends after the application time. `overlapping_windows` is a schedule
that does not.
-/

namespace ControlAssurance.Runtime

open Lib ControlPlane

/-- The catalog, the database's clock, and the `ensure_applied` transactions that
have begun, each with its `transaction_timestamp`. -/
structure Database where
  catalog : Catalog
  now : Time
  begun : List (DeploymentApplyRequest × Time)

def Database.init (now : Time) : Database := ⟨Catalog.empty, now, []⟩

inductive DatabaseEvent where
  | tick (seconds : Nat)
  | begin (q : DeploymentApplyRequest)
  | commit (index : Nat)
  | rollback (index : Nat)
  | materialize (tenantId : String) (through : Option Time) (limits : MaterializationLimits)
  | other (call : CatalogCall) (h : call.keepsDeployments = true)

section

variable (sha : Document → Digest) (rsha : RuntimeDocument → Digest) (maxRunAttempts : Nat)

def Database.next (s : Database) : DatabaseEvent → Database
  | .tick n => { s with now := s.now + n }
  | .begin q => { s with begun := s.begun ++ [(q, s.now)] }
  | .commit i =>
    match s.begun[i]? with
    | some (q, timestamp) =>
      { s with
        catalog := committed s.catalog (ensureApplied sha rsha s.catalog q timestamp)
        begun := s.begun.eraseIdx i }
    | none => s
  | .rollback i => { s with begun := s.begun.eraseIdx i }
  | .materialize tenantId through limits =>
    { s with
      catalog := committed s.catalog
        (materializeDueRuns sha rsha s.catalog s.now tenantId through limits) }
  | .other call _ => { s with catalog := call.next sha rsha maxRunAttempts s.catalog }

def databaseAfter (start : Time) (events : List DatabaseEvent) : Database :=
  events.foldl (fun s e => s.next sha rsha maxRunAttempts e) (Database.init start)

end

/-- The half-open windows of the runs respect the deployments. -/
structure WindowsValid (c : Catalog) : Prop where
  /-- a run's window lies in `[applied_at, superseded_at)` of its deployment -/
  inside : ∀ r ∈ c.runs, ∃ h ∈ c.history,
    h.operationId = r.request.deploymentOperationId
      ∧ h.appliedAt ≤ r.request.windowStart
      ∧ ∀ s, c.supersededAt h = some s → r.request.windowEnd ≤ s
  /-- two runs of one control have disjoint windows -/
  disjoint : ∀ r ∈ c.runs, ∀ r' ∈ c.runs, r.runId ≠ r'.runId →
    r.request.tenantId = r'.request.tenantId → r.request.controlId = r'.request.controlId →
    r.request.windowEnd ≤ r'.request.windowStart
      ∨ r'.request.windowEnd ≤ r.request.windowStart

/-- The commit of a new deployment comes in time: no run of its control that was
materialized since the transaction began ends after its application time. -/
def CommitsInTime (sha : Document → Digest) (rsha : RuntimeDocument → Digest) (s : Database) :
    DatabaseEvent → Prop
  | .commit i => ∀ q timestamp, s.begun[i]? = some (q, timestamp) →
    (∀ x ∈ s.catalog.history, x.operationId ≠ q.operationId) →
    (∃ result, ensureApplied sha rsha s.catalog q timestamp = .ok result) →
    ∀ r ∈ s.catalog.runs, r.request.tenantId = q.tenantId →
      r.request.controlId = q.controlId → timestamp < r.materializedAt →
      r.request.windowEnd
        ≤ applicationTime (s.catalog.currentRow q.tenantId q.controlId) timestamp
  | _ => True

variable {sha : Document → Digest} {rsha : RuntimeDocument → Digest} {maxRunAttempts : Nat}

/-! ## Disjoint windows -/

variable {q : ControlRunRequest} {h : DeploymentHistory} {c c' : Catalog} {t : Time} {s : Database}

/-- Two windows of one schedule with different ends do not meet. -/
theorem aligned_disjoint {q' : ControlRunRequest}
    (ho : OwesRun h q) (ho' : OwesRun h q') (hne : q.windowEnd ≠ q'.windowEnd) :
    q.windowEnd ≤ q'.windowStart ∨ q'.windowEnd ≤ q.windowStart := by
  have hstart : ∀ x, OwesRun h x →
      x.windowStart = x.windowEnd - h.configurationBytes.schedule.windowSeconds := by
    intro x hx
    have heq := congrArg ControlRunRequest.windowStart hx.request
    exact heq
  obtain ⟨i, hi⟩ := ho.aligned
  obtain ⟨j, hj⟩ := ho'.aligned
  have hwin : (h.configurationBytes.schedule.windowSeconds : Int)
      ≤ h.configurationBytes.schedule.intervalSeconds := by
    exact_mod_cast h.configurationBytes.schedule.window_le_interval
  have hpos := interval_pos h.configurationBytes
  rw [hstart q ho, hstart q' ho']
  -- the ends are multiples of the interval, which is at least the window
  have hgap : ∀ a b : Int, a < b →
      (h.configurationBytes.schedule.intervalSeconds : Int) * a
        ≤ h.configurationBytes.schedule.intervalSeconds * b
          - h.configurationBytes.schedule.windowSeconds := by
    intro a b hab
    have hle := Int.mul_le_mul_of_nonneg_left (show a + 1 ≤ b from hab) (Int.le_of_lt hpos)
    rw [Int.mul_add, Int.mul_one] at hle
    omega
  rw [hi, hj] at hne ⊢
  rcases Int.lt_trichotomy i j with hij | hij | hij
  · exact Or.inl (hgap i j hij)
  · exact absurd (by rw [hij]) hne
  · exact Or.inr (hgap j i hij)

/-- Every run lies inside the validity of the deployment that owes it. -/
def RunsInside (c : Catalog) : Prop :=
  ∀ r ∈ c.runs, ∀ h ∈ c.history, OwesRun h r.request →
    ∀ s, c.supersededAt h = some s → r.request.windowEnd ≤ s

theorem owes_operation (ho : OwesRun h q) :
    h.operationId = q.deploymentOperationId := by
  rw [ho.request]
  rfl

theorem owes_control (hc : HistoryInv sha rsha c) (hh : h ∈ c.history) (ho : OwesRun h q) :
    h.tenantId = q.tenantId ∧ h.controlId = q.controlId := by
  obtain ⟨_, _, hctl, _⟩ := hc.configurations h hh
  rw [ho.request]
  exact ⟨rfl, hctl.symm⟩

/-- Containment is all there is to validity: windows of two deployments are kept
apart by the superseding time, those of one by the schedule. -/
theorem windowsValid_iff (hc : CatalogInv sha rsha c) :
    WindowsValid c ↔ RunsInside c := by
  constructor
  · intro hv r hr h hh howes s hs
    obtain ⟨h', hh', hop, _, hend⟩ := hv.inside r hr
    have heq : h' = h := List.inj_on_of_nodup_map hc.deployments.operationIds hh' hh
      (hop.trans (owes_operation howes).symm)
    exact hend s (heq ▸ hs)
  · intro hin
    have hbefore : ∀ r ∈ c.runs, ∀ r' ∈ c.runs, ∀ h ∈ c.history, ∀ h' ∈ c.history,
        OwesRun h r.request → OwesRun h' r'.request → SameControl h' h →
        h.operationSequence < h'.operationSequence →
        r.request.windowEnd ≤ r'.request.windowStart := by
      intro r hr r' hr' h hh h' hh' ho ho' hsame hlt
      cases hs : c.supersededAt h with
      | none =>
        have := supersededAt_none hs hh' hsame
        omega
      | some s =>
        have h₁ := hin r hr h hh ho s hs
        have h₂ := (hc.deployments.superseded_after hh hs).2 h' hh' hsame hlt
        exact Int.le_trans h₁ (Int.le_trans h₂ ho'.after)
    refine ⟨?_, ?_⟩
    · intro r hr
      obtain ⟨h, hh, howes⟩ := hc.runs.owed r hr
      exact ⟨h, hh, owes_operation howes, howes.after, hin r hr h hh howes⟩
    · intro r hr r' hr' hne hten hctl
      obtain ⟨h, hh, ho⟩ := hc.runs.owed r hr
      obtain ⟨h', hh', ho'⟩ := hc.runs.owed r' hr'
      obtain ⟨ht, hk⟩ := owes_control hc.deployments hh ho
      obtain ⟨ht', hk'⟩ := owes_control hc.deployments hh' ho'
      have hsame : SameControl h' h :=
        ⟨ht'.trans (hten.symm.trans ht.symm), hk'.trans (hctl.symm.trans hk.symm)⟩
      rcases Nat.lt_trichotomy h.operationSequence h'.operationSequence with hlt | heq | hlt
      · exact Or.inl (hbefore r hr r' hr' h hh h' hh' ho ho' hsame hlt)
      · have hrow : h = h' := hc.deployments.sequences h hh h' hh' hsame.symm heq
        rw [← hrow] at ho'
        refine aligned_disjoint ho ho' ?_
        intro hend
        have hreq : r.request = r'.request := by
          rw [ho.request, ho'.request, hend]
        apply hne
        rw [hc.runs.requests r hr, hc.runs.requests r' hr', hreq]
      · exact Or.inr (hbefore r' hr' r hr h' hh' h hh ho' ho hsame.symm hlt)

/-! ## What one event does to the windows -/

/-- What holds of every database: its tables are sound, and no run was
materialized before its window ended. -/
structure Timed (sha : Document → Digest) (rsha : RuntimeDocument → Digest) (c : Catalog) :
    Prop where
  tables : CatalogInv sha rsha c
  materialized : ∀ r ∈ c.runs, r.request.windowEnd ≤ r.materializedAt

theorem timed_empty : Timed sha rsha Catalog.empty := by
  refine ⟨catalogInv_empty, ?_⟩
  intro r hr
  cases hr

theorem timed_of_identities (hsame : SameDeployments c c')
    (hids : c'.runs.map (·.toControlRunIdentity) = c.runs.map (·.toControlRunIdentity))
    (hc : Timed sha rsha c) : Timed sha rsha c' := by
  refine ⟨hc.tables.of_identities hsame hids, ?_⟩
  intro r' hr'
  obtain ⟨r, hr, heq⟩ := mem_of_identities hids hr'
  have h := hc.materialized r hr
  rw [heq] at h
  exact h

theorem inside_of_identities (hsame : SameDeployments c c')
    (hids : c'.runs.map (·.toControlRunIdentity) = c.runs.map (·.toControlRunIdentity))
    (hin : RunsInside c) : RunsInside c' := by
  have hsup : ∀ h, c'.supersededAt h = c.supersededAt h := by
    intro h
    unfold Catalog.supersededAt Catalog.controlHistory
    rw [hsame.history]
  intro r' hr' h hh ho s hs
  obtain ⟨r, hr, heq⟩ := mem_of_identities hids hr'
  have hreq : r.request = r'.request := congrArg ControlRunIdentity.request heq
  rw [← hreq] at ho ⊢
  exact hin r hr h (hsame.history ▸ hh) ho s (hsup h ▸ hs)

/-- A run is not inserted before it is due. -/
theorem insertRun_timed {n : Nat}
    (hc : Timed sha rsha c) (h : insertRun rsha c q t = .ok (c', n)) : Timed sha rsha c' := by
  refine ⟨insertRun_inv hc.tables h, ?_⟩
  obtain ⟨hguard, ⟨_, _, rfl⟩ | ⟨_, _, _, rfl⟩⟩ := insertRun_ok h
  · exact hc.materialized
  · obtain ⟨x, _, howes, hdue, _⟩ := runGuard_owes hc.tables.deployments hguard
    intro r hr
    rcases List.mem_append.mp hr with hr | hr
    · exact hc.materialized r hr
    · rw [List.mem_singleton] at hr
      rw [hr]
      show q.windowEnd ≤ t
      have hlag : q.dueAt
          = q.windowEnd + x.configurationBytes.schedule.collectionLagSeconds :=
        congrArg ControlRunRequest.dueAt howes.request
      rw [hlag] at hdue
      exact Int.le_trans (Int.le_add_of_nonneg_right (Int.natCast_nonneg _)) hdue

/-- An inserted run lies inside the validity its trigger saw. -/
theorem insertRun_inside {n : Nat}
    (hc : Timed sha rsha c) (hin : RunsInside c) (h : insertRun rsha c q t = .ok (c', n)) :
    RunsInside c' := by
  have hinv := hc.tables
  obtain ⟨hguard, ⟨_, _, rfl⟩ | ⟨_, _, _, rfl⟩⟩ := insertRun_ok h
  · exact hin
  · obtain ⟨x, hx, howes, _, hlater⟩ := runGuard_owes hinv.deployments hguard
    intro r hr y hy ho s hs
    rcases List.mem_append.mp hr with hr | hr
    · exact hin r hr y hy ho s hs
    · rw [List.mem_singleton] at hr
      rw [hr] at ho ⊢
      have heq : y = x := List.inj_on_of_nodup_map hinv.deployments.operationIds hy hx
        ((owes_operation ho).trans (owes_operation howes).symm)
      obtain ⟨z, hz, hsame, hlt, rfl, _⟩ := supersededAt_some hs
      rw [heq] at hsame hlt
      exact hlater z hz hsame hlt

theorem le_applicationTime (current : Option DeployedControl) (t : Time) :
    t ≤ applicationTime current t := by
  cases current with
  | none => exact Int.le_refl t
  | some d =>
    unfold applicationTime
    dsimp only
    split
    next hle => exact Int.le_trans hle (Int.le_of_lt (Int.lt_succ d.appliedAt))
    next => exact Int.le_refl t

/-- A new row cuts off the windows of its predecessor at its application time. -/
theorem applied_inside {q : DeploymentApplyRequest}
    {row : DeploymentHistory} {ack : DeploymentTargetAcknowledgement}
    (hc : Timed sha rsha c) (hin : RunsInside c) (h : Applied sha rsha c q t row c' ack) :
    RunsInside c' ↔ ∀ r ∈ c.runs, r.request.tenantId = q.tenantId →
      r.request.controlId = q.controlId → t < r.materializedAt →
      r.request.windowEnd ≤ applicationTime (c.currentRow q.tenantId q.controlId) t := by
  have hinv' := applied_historyInv hc.tables.deployments h
  have hrow : row.tenantId = q.tenantId ∧ row.controlId = q.controlId
      ∧ row.operationId = q.operationId
      ∧ row.appliedAt = applicationTime (c.currentRow q.tenantId q.controlId) t := by
    rw [h.row_eq]
    exact ⟨rfl, rfl, rfl, rfl⟩
  obtain ⟨hten, hctl, hop, happ⟩ := hrow
  have hruns : c'.runs = c.runs := by rw [h.frame]
  have hmem : ∀ x, x ∈ c'.history ↔ x ∈ c.history ∨ x = row := by
    intro x
    rw [h.history, List.mem_append, List.mem_singleton]
  rw [← happ]
  constructor
  · intro hin' r hr ht hk _
    obtain ⟨x, hx, ho⟩ := hc.tables.runs.owed r hr
    obtain ⟨hxt, hxk⟩ := owes_control hc.tables.deployments hx ho
    have hsame : SameControl row x :=
      ⟨hten.trans (ht.symm.trans hxt.symm), hctl.trans (hk.symm.trans hxk.symm)⟩
    have hlt := (h.last x hx hsame.symm).1
    have hrow' : row ∈ c'.history := (hmem row).mpr (Or.inr rfl)
    have hx' : x ∈ c'.history := (hmem x).mpr (Or.inl hx)
    cases hs : c'.supersededAt x with
    | none =>
      have := supersededAt_none hs hrow' hsame
      omega
    | some s =>
      have h₁ := hin' r (hruns ▸ hr) x hx' ho s hs
      exact Int.le_trans h₁ ((hinv'.superseded_after hx' hs).2 row hrow' hsame hlt)
  · intro htime r hr x hx ho s hs
    rw [hruns] at hr
    have hx : x ∈ c.history := by
      rcases (hmem x).mp hx with hx | rfl
      · exact hx
      · -- the run's own deployment is in the old history already
        obtain ⟨y, hy, hoy⟩ := hc.tables.runs.owed r hr
        exact absurd ((owes_operation hoy).trans ((owes_operation ho).symm.trans hop))
          (h.fresh y hy)
    obtain ⟨z, hz, hsame, hlt, rfl, _⟩ := supersededAt_some hs
    rcases (hmem z).mp hz with hz | rfl
    · cases hs' : c.supersededAt x with
      | none =>
        have := supersededAt_none hs' hz hsame
        omega
      | some s' =>
        have h₁ := hin r hr x hx ho s' hs'
        exact Int.le_trans h₁
          ((hc.tables.deployments.superseded_after hx hs').2 z hz hsame hlt)
    · obtain ⟨hxt, hxk⟩ := owes_control hc.tables.deployments hx ho
      by_cases hopen : t < r.materializedAt
      · exact htime r hr (hxt.symm.trans (hsame.1.symm.trans hten))
          (hxk.symm.trans (hsame.2.symm.trans hctl)) hopen
      · -- a run from before the transaction began ended before it began
        rw [happ]
        exact Int.le_trans (hc.materialized r hr)
          (Int.le_trans (Int.not_lt.mp hopen) (le_applicationTime _ t))

theorem ensureApplied_timed {q : DeploymentApplyRequest}
    {ack : DeploymentTargetAcknowledgement} (hc : Timed sha rsha c)
    (h : ensureApplied sha rsha c q t = .ok (c', ack)) : Timed sha rsha c' := by
  refine ⟨ensureApplied_inv hc.tables h, ?_⟩
  have hruns : c'.runs = c.runs := by
    rcases ensureApplied_ok h with ⟨_, hre⟩ | ⟨_, happ⟩
    · rw [hre.frame]
    · rw [happ.frame]
  rw [hruns]
  exact hc.materialized

/-- A commit keeps the windows valid exactly when it comes in time. -/
theorem commit_inside {i : Nat} {q : DeploymentApplyRequest}
    (hi : s.begun[i]? = some (q, t)) (hc : Timed sha rsha s.catalog) (hin : RunsInside s.catalog) :
    RunsInside (committed s.catalog (ensureApplied sha rsha s.catalog q t))
      ↔ CommitsInTime sha rsha s (.commit i) := by
  have hunfold : CommitsInTime sha rsha s (.commit i) ↔
      ((∀ x ∈ s.catalog.history, x.operationId ≠ q.operationId) →
      (∃ result, ensureApplied sha rsha s.catalog q t = .ok result) →
      ∀ r ∈ s.catalog.runs, r.request.tenantId = q.tenantId →
        r.request.controlId = q.controlId → t < r.materializedAt → r.request.windowEnd
          ≤ applicationTime (s.catalog.currentRow q.tenantId q.controlId) t) := by
    constructor
    · intro h
      exact h q t hi
    · intro h q' t' hi'
      rw [hi] at hi'
      obtain ⟨rfl, rfl⟩ := Prod.mk.inj (Option.some.inj hi')
      exact h
  rw [hunfold]
  cases hres : ensureApplied sha rsha s.catalog q t with
  | error e =>
    refine ⟨?_, fun _ => hin⟩
    rintro _ _ ⟨result, hok⟩
    cases hok
  | ok result =>
    obtain ⟨c', ack⟩ := result
    show RunsInside c' ↔ _
    rcases ensureApplied_ok hres with ⟨existing, hre⟩ | ⟨row, happ⟩
    · -- nothing is appended: the operation is in the history already
      have hsame : RunsInside s.catalog ↔ RunsInside c' := by
        rw [hre.frame]
        exact Iff.rfl
      refine ⟨?_, fun _ => hsame.mp hin⟩
      intro _ hfresh
      exact absurd hre.operation (hfresh existing hre.mem)
    · rw [applied_inside hc hin happ]
      constructor
      · exact fun h _ _ => h
      · exact fun h => h happ.fresh ⟨(c', ack), rfl⟩

/-- Every event keeps what holds of every database. -/
theorem database_timed (hc : Timed sha rsha s.catalog) (e : DatabaseEvent) :
    Timed sha rsha (s.next sha rsha maxRunAttempts e).catalog := by
  cases e with
  | tick n => exact hc
  | begin q => exact hc
  | rollback i => exact hc
  | commit i =>
    unfold Database.next
    dsimp only
    split
    next q t hi =>
      exact committed_induction (P := Timed sha rsha) hc fun _ _ h => ensureApplied_timed hc h
    next => exact hc
  | materialize tenantId through limits =>
    refine committed_induction (P := Timed sha rsha) hc fun c' n h => ?_
    exact materializeDueRuns_induction (fun _ _ _ _ hc h => insertRun_timed hc h) hc h
  | other call hkeep =>
    obtain ⟨h₁, h₂⟩ := next_same hkeep
    exact timed_of_identities h₁ h₂ hc

/-- One event keeps the windows valid exactly when it is not a late commit. -/
theorem database_inside (hc : Timed sha rsha s.catalog)
    (hin : RunsInside s.catalog) (e : DatabaseEvent) :
    RunsInside (s.next sha rsha maxRunAttempts e).catalog ↔ CommitsInTime sha rsha s e := by
  cases e with
  | tick n => exact iff_of_true hin trivial
  | begin q => exact iff_of_true hin trivial
  | rollback i => exact iff_of_true hin trivial
  | commit i =>
    unfold Database.next
    dsimp only
    split
    next q t hi => exact commit_inside hi hc hin
    next hi =>
      refine iff_of_true hin ?_
      intro q t hi'
      rw [hi] at hi'
      cases hi'
  | materialize tenantId through limits =>
    refine iff_of_true ?_ trivial
    refine committed_induction (P := RunsInside) hin fun c' n h => ?_
    exact (materializeDueRuns_induction (P := fun c => Timed sha rsha c ∧ RunsInside c)
      (fun _ _ _ _ hc h => ⟨insertRun_timed hc.1 h, insertRun_inside hc.1 hc.2 h⟩)
      ⟨hc, hin⟩ h).2
  | other call hkeep =>
    obtain ⟨h₁, h₂⟩ := next_same (c := s.catalog) hkeep
    exact iff_of_true (inside_of_identities h₁ h₂ hin) trivial

/-! ## Whole schedules -/

theorem databaseAfter_concat (start : Time) (events : List DatabaseEvent) (e : DatabaseEvent) :
    databaseAfter sha rsha maxRunAttempts start (events ++ [e])
      = (databaseAfter sha rsha maxRunAttempts start events).next sha rsha maxRunAttempts e :=
  List.foldl_concat ..

theorem databaseAfter_timed (start : Time) (events : List DatabaseEvent) :
    Timed sha rsha (databaseAfter sha rsha maxRunAttempts start events).catalog := by
  induction events using List.reverseRecOn with
  | nil => exact timed_empty
  | append_singleton events e ih =>
    rw [databaseAfter_concat]
    exact database_timed ih e

/-- **When windows respect deployments.** Along any schedule, all windows are
valid in all states exactly when every commit comes in time. -/
theorem windows_valid_iff (start : Time) (events : List DatabaseEvent) :
    (∀ pre, pre <+: events →
        WindowsValid (databaseAfter sha rsha maxRunAttempts start pre).catalog)
      ↔ ∀ pre e, pre ++ [e] <+: events →
        CommitsInTime sha rsha (databaseAfter sha rsha maxRunAttempts start pre) e := by
  constructor
  · intro hvalid pre e hpre
    have htimed : Timed sha rsha (databaseAfter sha rsha maxRunAttempts start pre).catalog :=
      databaseAfter_timed start pre
    have hbefore := hvalid pre (List.IsPrefix.trans (List.prefix_append pre [e]) hpre)
    have hafter := hvalid (pre ++ [e]) hpre
    rw [databaseAfter_concat, windowsValid_iff (database_timed htimed e).tables] at hafter
    rw [windowsValid_iff htimed.tables] at hbefore
    exact (database_inside htimed hbefore e).mp hafter
  · intro htime pre hpre
    rw [windowsValid_iff (databaseAfter_timed start pre).tables]
    -- by induction on the prefix, from its end
    induction pre using List.reverseRecOn with
    | nil =>
      intro r hr
      cases hr
    | append_singleton pre e ih =>
      have hbefore := ih (List.IsPrefix.trans (List.prefix_append pre [e]) hpre)
      rw [databaseAfter_concat]
      exact (database_inside (databaseAfter_timed start pre) hbefore e).mpr (htime pre e hpre)

/-! ## A transaction that commits late

The second deployment begins at second 30 and commits at second 60, after the
first one's run for the minute was materialized. -/

def everyNinetySeconds : ControlConfiguration :=
  { everyMinute with
    schedule := ⟨90, 0, 60, by decide, noLag, minuteRange, by decide⟩ }

def lateSha : RuntimeDocument → Digest
  | .receipt r => BitVec.ofNat 256 r.operationSequence
  | .runRequest q => BitVec.ofNat 256 (q.deploymentOperationSequence + q.windowEnd.toNat)
  | _ => 0

def firstDeployment : DeploymentApplyRequest :=
  ⟨1, "tenant-a", "edr-coverage", 1, 0, everyMinute, 1, 1⟩

def secondDeployment : DeploymentApplyRequest :=
  ⟨2, "tenant-a", "edr-coverage", 2, 0, everyNinetySeconds, 2, 1⟩

def lateCommit : List DatabaseEvent :=
  [.other (.registerProfile ⟨"tenant-a", "edr", 9⟩) rfl, .begin firstDeployment, .commit 0,
    .tick 30, .begin secondDeployment, .tick 30,
    .materialize "tenant-a" none MaterializationLimits.default, .commit 0, .tick 30,
    .materialize "tenant-a" none MaterializationLimits.default]

/-- A minute and a half later the control has the windows `[0, 60)` and
`[30, 90)`, and the first reaches beyond the second deployment's start. -/
theorem overlapping_windows :
    (databaseAfter (fun _ => 0) lateSha 8 0 lateCommit).catalog.history.map (·.appliedAt)
      = [0, 30]
    ∧ (databaseAfter (fun _ => 0) lateSha 8 0 lateCommit).catalog.runs.map
        (fun r => (r.request.deploymentOperationId, r.request.windowStart,
          r.request.windowEnd)) = [(1, 0, 60), (2, 30, 90)]
    ∧ ¬WindowsValid (databaseAfter (fun _ => 0) lateSha 8 0 lateCommit).catalog := by
  refine ⟨by decide, by decide, ?_⟩
  intro hv
  have hoverlap : ∃ r ∈ (databaseAfter (fun _ => 0) lateSha 8 0 lateCommit).catalog.runs,
      ∃ r' ∈ (databaseAfter (fun _ => 0) lateSha 8 0 lateCommit).catalog.runs,
      r.runId ≠ r'.runId ∧ r.request.tenantId = r'.request.tenantId
        ∧ r.request.controlId = r'.request.controlId
        ∧ ¬(r.request.windowEnd ≤ r'.request.windowStart
          ∨ r'.request.windowEnd ≤ r.request.windowStart) := by
    decide
  obtain ⟨r, hr, r', hr', hne, hten, hctl, hmeet⟩ := hoverlap
  exact hmeet (hv.disjoint r hr r' hr' hne hten hctl)

end ControlAssurance.Runtime
