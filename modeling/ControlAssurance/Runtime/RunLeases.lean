import Mathlib.Data.Int.Order.Basic
import ControlAssurance.Lib.FencedLease
import ControlAssurance.Runtime.RunSteps

/-!
# The lease protocol of control runs

A control run is a fenced lease whose history is written down: each grant is a
row of `control_run_claims`, each end of a grant a row of
`control_run_outcomes`. `leaseHistory` reads the events of a run off the two
tables, fence by fence, and the invariant `RunTracked` says that they lead to
the lease the run's own row shows. Every call is a few elementary steps, each of
which keeps the invariant and moves rows only forward.
-/

namespace ControlAssurance.Runtime

open Lib Lib.FencedLease ControlPlane

variable {sha : Document → Digest} {rsha : RuntimeDocument → Digest} {maxRunAttempts : Nat}

/-! ## The lease of a run and its history -/

/-- The grant a leased run is held under. -/
def ControlRun.grant? (r : ControlRun) : Option (Grant String Digest Time) :=
  match r.state, r.leaseOwner, r.leaseTokenDigest, r.leasedAt, r.leaseExpiresAt with
  | .leased, some owner, some token, some since, some expires =>
    some ⟨owner, token, r.leaseFence, since, expires⟩
  | _, _, _, _, _ => none

/-- Succeeded, or failed without a retry. -/
def ControlRun.closed (r : ControlRun) : Bool :=
  decide (r.state = .succeeded ∨ (r.state = .failed ∧ r.retryAt = none))

def ControlRun.leaseView (r : ControlRun) : Lease String Digest Time :=
  ⟨r.leaseFence, r.grant?, r.closed⟩

def ControlRunClaim.grant (k : ControlRunClaim) : Grant String Digest Time :=
  ⟨k.workerId, k.leaseTokenDigest, k.leaseFence, k.leasedAt, k.leaseExpiresAt⟩

def RunOutcome.final : RunOutcome → Bool
  | .succeeded .. => true
  | .failed _ retryAt => retryAt.isNone

/-- How the grant of claim `k` ended. -/
def ControlRunOutcome.event (k : ControlRunClaim) (o : ControlRunOutcome) :
    Event String Digest Time :=
  if o.recordedAt < k.leaseExpiresAt then
    .release k.workerId k.leaseTokenDigest k.leaseFence o.recordedAt o.outcome.final
  else .lapse k.leaseFence o.recordedAt

def Catalog.outcomeRow (c : Catalog) (tenantId : String) (runId : Digest) (fence : Nat) :
    Option ControlRunOutcome :=
  c.outcomes.find? fun o =>
    decide (o.tenantId = tenantId ∧ o.runId = runId ∧ o.leaseFence = fence)

/-- What the tables say about one fence of a run. -/
def Catalog.attempt (c : Catalog) (tenantId : String) (runId : Digest) (fence : Nat) :
    List (Event String Digest Time) :=
  match c.claimRow tenantId runId fence with
  | some k =>
    .grant k.grant :: ((c.outcomeRow tenantId runId fence).map (·.event k)).toList
  | none => []

def Catalog.leaseHistory (c : Catalog) (r : ControlRun) : List (Event String Digest Time) :=
  (List.range' 1 r.leaseFence).flatMap (c.attempt r.request.tenantId r.runId)

/-! ## Elementary steps -/

/-- What one transaction can do to the runs, claims and outcomes. -/
inductive RunStep (rsha : RuntimeDocument → Digest) (maxRunAttempts : Nat) (c : Catalog) :
    Catalog → Prop
  | insert {q t} (fresh : ∀ r ∈ c.runs, r.runId ≠ rsha (.runRequest q)) :
    RunStep rsha maxRunAttempts c
      { c with runs := c.runs ++ [pendingRun (rsha (.runRequest q)) q t] }
  | claim {w k t n row new c'} (h : Claimed maxRunAttempts c w k t n row new c') :
    RunStep rsha maxRunAttempts c c'
  | terminalize {tenantId t row c'}
    (h : Terminalized rsha maxRunAttempts c tenantId t row c') :
    RunStep rsha maxRunAttempts c c'
  | complete {w runId k fence result t row new c'}
    (h : Completed rsha c w runId k fence result t row new c') :
    RunStep rsha maxRunAttempts c c'
  | fail {w runId k fence failure t retryAt row new c'}
    (h : Failed rsha maxRunAttempts c w runId k fence failure t retryAt row new c') :
    RunStep rsha maxRunAttempts c c'
  | other {c'} (runs : c'.runs = c.runs) (claims : c'.claims = c.claims)
    (outcomes : c'.outcomes = c.outcomes) : RunStep rsha maxRunAttempts c c'

/-- The rule for one call: what holds before it, and is kept by each thing it can do, holds after
it. -/
theorem next_induction {P : Catalog → Prop} {c : Catalog} (call : CatalogCall) (hself : P c)
    (hother : ∀ c', c'.runs = c.runs → c'.claims = c.claims → c'.outcomes = c.outcomes → P c')
    (hinsert : ∀ c₁ q t, P c₁ → (∀ r ∈ c₁.runs, r.runId ≠ rsha (.runRequest q)) →
      P { c₁ with runs := c₁.runs ++ [pendingRun (rsha (.runRequest q)) q t] })
    (hterminalize : ∀ w k t n row c', call = .claim w k t n →
      Terminalized rsha maxRunAttempts c w.tenantId t row c' → P c')
    (hclaim : ∀ c₁ w k t n row new c', P c₁ → Claimed maxRunAttempts c₁ w k t n row new c' → P c')
    (hcomplete : ∀ w runId k f result t row new c', call = .complete w runId k f result t →
      Completed rsha c w runId k f result t row new c' → P c')
    (hfail : ∀ w runId k f d t retryAt row new c', call = .fail w runId k f d t retryAt →
      Failed rsha maxRunAttempts c w runId k f d t retryAt row new c' → P c') :
    P (call.next sha rsha maxRunAttempts c) := by
  cases call with
  | registerProfile p =>
    refine committed_induction (P := P) hself ?_
    intro c' a h
    cases hreg : registerControlProfile c p with
    | error e => simp [hreg, Except.map] at h
    | ok c₁ =>
      simp only [hreg, Except.map, Except.ok.injEq, Prod.mk.injEq] at h
      have hsame := registerControlProfile_ok hreg
      rw [← h.1]
      refine hother _ ?_ ?_ ?_ <;> rw [hsame]
  | ensureApplied q t =>
    refine committed_induction (P := P) hself ?_
    intro c' a h
    rcases ensureApplied_ok h with ⟨_, hre⟩ | ⟨_, happ⟩
    · refine hother _ ?_ ?_ ?_ <;> rw [hre.frame]
    · refine hother _ ?_ ?_ ?_ <;> rw [happ.frame]
  | materialize now tenant through limits =>
    refine committed_induction (P := P) hself ?_
    intro c' a h
    refine materializeDueRuns_induction (P := P) ?_ hself h
    intro c₁ q c₂ n hc₁ hins
    obtain ⟨_, ⟨_, _, rfl⟩ | ⟨hfresh, _, _, rfl⟩⟩ := insertRun_ok hins
    · exact hc₁
    · exact hinsert c₁ q _ hc₁ hfresh
  | claim w k t n =>
    refine committed_induction (P := P) hself ?_
    intro c' a h
    obtain ⟨c₁, hterm, hans⟩ := claimNextRun_ok h
    have hfirst : P c₁ := by
      rcases terminalize_ok hterm with rfl | ⟨row, hrow⟩
      · exact hself
      · exact hterminalize w k t n row c₁ rfl hrow
    rcases hans with ⟨_, rfl⟩ | ⟨row, new, _, hclaimed⟩
    · exact hfirst
    · exact hclaim c₁ _ _ _ _ _ _ _ hfirst hclaimed
  | complete w r k f result t =>
    refine committed_induction (P := P) hself ?_
    intro c' a h
    obtain ⟨_, ⟨_, _, _, _, rfl⟩ | ⟨row, hdone⟩⟩ := completeRun_ok h
    · exact hself
    · exact hcomplete _ _ _ _ _ _ _ _ _ rfl hdone
  | fail w r k f d t retryAt =>
    refine committed_induction (P := P) hself ?_
    intro c' a h
    rcases failRun_ok h with ⟨_, _, _, _, rfl⟩ | ⟨row, hdone⟩
    · exact hself
    · exact hfail _ _ _ _ _ _ _ _ _ _ rfl hdone

/-- Every call is a few such steps. -/
theorem next_steps (c : Catalog) (call : CatalogCall) :
    Relation.ReflTransGen (RunStep rsha maxRunAttempts) c
      (call.next sha rsha maxRunAttempts c) :=
  next_induction call .refl (fun _ hruns hclaims houts => .single (.other hruns hclaims houts))
    (fun _ _ _ hsteps hfresh => hsteps.tail (.insert hfresh))
    (fun _ _ _ _ _ _ _ hrow => .single (.terminalize hrow))
    (fun _ _ _ _ _ _ _ _ hsteps hclaimed => hsteps.tail (.claim hclaimed))
    (fun _ _ _ _ _ _ _ _ _ _ hdone => .single (.complete hdone))
    (fun _ _ _ _ _ _ _ _ _ _ _ hdone => .single (.fail hdone))

/-! ## The invariant -/

/-- The success outcome `o` is the run's own: its closure document names the
run's request, the fence and the digests of the row. -/
structure SuccessOf (rsha : RuntimeDocument → Digest) (o : ControlRunOutcome)
    (evidence receipt digest : Digest) (closure : ControlRunClosure) (r : ControlRun) :
    Prop where
  run : r.request.tenantId = o.tenantId ∧ r.runId = o.runId ∧ r.leaseFence = o.leaseFence
  state : r.state = .succeeded
  closure_eq : closure = r.closure r.runId r.leaseFence
    ⟨r.runId, r.leaseFence, evidence, receipt⟩ o.recordedAt
  digest_eq : digest = rsha (.closure closure)
  columns : r.evidenceDigest = some evidence ∧ r.executorReceiptDigest = some receipt
    ∧ r.closureDigest = some digest ∧ r.completedAt = some o.recordedAt

def ControlRunClaim.key (k : ControlRunClaim) : String × Digest × Nat :=
  (k.tenantId, k.runId, k.leaseFence)

def ControlRunOutcome.key (o : ControlRunOutcome) : String × Digest × Nat :=
  (o.tenantId, o.runId, o.leaseFence)

variable {o : ControlRunOutcome} {new old r : ControlRun} {c c' : Catalog} {f n : Nat}
  {k runId : Digest} {t : Time} {w : RuntimeWorkerIdentity}

theorem outcomeKey_ne {x : ControlRunOutcome} (h : ¬(x.tenantId = o.tenantId
    ∧ x.runId = o.runId ∧ x.leaseFence = o.leaseFence)) : x.key ≠ o.key := by
  intro he
  obtain ⟨h₁, he⟩ := Prod.mk.inj he
  exact h ⟨h₁, Prod.mk.inj he⟩

structure RunTracked (rsha : RuntimeDocument → Digest) (maxRunAttempts : Nat) (c : Catalog) :
    Prop where
  runIds : (c.runs.map (·.runId)).Nodup
  shapes : ∀ r ∈ c.runs, r.stateShape = true
  bounded : ∀ r ∈ c.runs, r.attemptCount ≤ maxRunAttempts
  claimKeys : (c.claims.map (·.key)).Nodup
  outcomeKeys : (c.outcomes.map (·.key)).Nodup
  claimed : ∀ k ∈ c.claims, ∃ r ∈ c.runs, r.request.tenantId = k.tenantId
    ∧ r.runId = k.runId ∧ 1 ≤ k.leaseFence ∧ k.leaseFence ≤ r.leaseFence
  recorded : ∀ o ∈ c.outcomes, ∃ k ∈ c.claims, k.key = o.key
  histories : ∀ r ∈ c.runs, History (c.leaseHistory r) r.leaseView
  successes : ∀ o ∈ c.outcomes, ∀ evidence receipt digest closure,
    o.outcome = .succeeded evidence receipt digest closure →
    ∃ r ∈ c.runs, SuccessOf rsha o evidence receipt digest closure r

theorem runTracked_empty : RunTracked rsha maxRunAttempts Catalog.empty := by
  refine ⟨List.nodup_nil, ?_, ?_, List.nodup_nil, List.nodup_nil, ?_, ?_, ?_, ?_⟩
  all_goals
    intro x hx
    cases hx

/-- In every state of the row the fence is the number of attempts. -/
theorem runShape_fence (h : r.stateShape = true) :
    r.leaseFence = r.attemptCount := by
  unfold ControlRun.stateShape at h
  split at h <;> simp only [decide_eq_true_eq] at h
  · rw [h.2.1, h.2.2.1]
  · exact h.2.2.1
  · exact h.2.2.1
  · exact h.2.2.1

/-- A leased row is held under a grant. -/
theorem leased_grant (hshape : r.stateShape = true) (hleased : r.state = .leased) :
    1 ≤ r.leaseFence ∧ ∃ g, r.grant? = some g ∧ r.leaseOwner = some g.owner
      ∧ r.leaseTokenDigest = some g.token ∧ r.leaseFence = g.fence
      ∧ r.leaseExpiresAt = some g.expires := by
  simp only [ControlRun.stateShape, hleased, decide_eq_true_eq] at hshape
  obtain ⟨hone, _, hfence, howner, htoken, _, hlt, _⟩ := hshape
  obtain ⟨since, expires, hsince, hexp, _⟩ := sqlLt_iff.mp hlt
  obtain ⟨owner, howner⟩ := Option.ne_none_iff_exists'.mp howner
  obtain ⟨token, htoken⟩ := Option.ne_none_iff_exists'.mp htoken
  refine ⟨hfence ▸ hone, ⟨owner, token, r.leaseFence, since, expires⟩, ?_, howner, htoken,
    rfl, hexp⟩
  simp only [ControlRun.grant?, hleased, howner, htoken, hsince, hexp]

theorem runGrant_some {g : Grant String Digest Time}
    (h : r.grant? = some g) : r.state = .leased ∧ r.leaseExpiresAt = some g.expires := by
  unfold ControlRun.grant? at h
  split at h
  next hs _ _ _ he =>
    cases h
    exact ⟨hs, he⟩
  next => cases h

theorem runGrant_none (h : r.state ≠ .leased) : r.grant? = none := by
  unfold ControlRun.grant?
  split
  next hs _ _ _ _ => exact absurd hs h
  next => rfl

/-- The grants of one fence. -/
theorem attempt_fences (c : Catalog) (tenantId : String) (runId : Digest) (f : Nat) :
    grantedFences (c.attempt tenantId runId f)
      = if (c.claimRow tenantId runId f).isSome then [f] else [] := by
  unfold Catalog.attempt
  cases hk : c.claimRow tenantId runId f with
  | none => rfl
  | some k =>
    obtain ⟨_, _, _, hf⟩ := claimRow_some hk
    have hfence : k.grant.fence = f := hf
    cases ho : c.outcomeRow tenantId runId f with
    | none => simp [grantedFences, hfence]
    | some o =>
      by_cases hlive : o.recordedAt < k.leaseExpiresAt
      · simp [grantedFences, hfence, ControlRunOutcome.event, hlive]
      · simp [grantedFences, hfence, ControlRunOutcome.event, hlive]

/-- Every fence a run has had has its claim row. -/
theorem RunTracked.exists_claim (hc : RunTracked rsha maxRunAttempts c)
    (hr : r ∈ c.runs) (hone : 1 ≤ f) (hle : f ≤ r.leaseFence) :
    ∃ k, c.claimRow r.request.tenantId r.runId f = some k := by
  have hfences : grantedFences (c.leaseHistory r) = List.range' 1 r.leaseFence :=
    (hc.histories r hr).fences
  unfold Catalog.leaseHistory at hfences
  rw [grantedFences_flatMap] at hfences
  have hmem : f ∈ List.range' 1 r.leaseFence := by
    rw [List.mem_range'_1]
    omega
  rw [← hfences, List.mem_flatMap] at hmem
  obtain ⟨f', _, hf'⟩ := hmem
  rw [attempt_fences] at hf'
  split at hf'
  next hsome =>
    rw [List.mem_singleton] at hf'
    rw [hf']
    exact Option.isSome_iff_exists.mp hsome
  next => cases hf'

/-- The history of a run with `n + 1` fences ends with the last of them. -/
theorem leaseHistory_last (hone : 1 ≤ r.leaseFence) :
    c.leaseHistory r
      = (List.range' 1 (r.leaseFence - 1)).flatMap (c.attempt r.request.tenantId r.runId)
        ++ c.attempt r.request.tenantId r.runId r.leaseFence := by
  have hrange : List.range' 1 r.leaseFence
      = List.range' 1 (r.leaseFence - 1) ++ [r.leaseFence] := by
    have hsucc : r.leaseFence = r.leaseFence - 1 + 1 := by omega
    have hlast : 1 + 1 * (r.leaseFence - 1) = r.leaseFence := by omega
    conv => lhs; rw [hsucc]
    rw [List.range'_concat, hlast]
  unfold Catalog.leaseHistory
  rw [hrange, List.flatMap_append, List.flatMap_singleton]

/-- A leased run's claim is the one its row names, and has no outcome yet. -/
theorem RunTracked.leased_claim (hc : RunTracked rsha maxRunAttempts c)
    (hr : r ∈ c.runs) {g : Grant String Digest Time} (hg : r.grant? = some g) :
    ∃ k, c.claimRow r.request.tenantId r.runId r.leaseFence = some k ∧ k.grant = g
      ∧ c.outcomeRow r.request.tenantId r.runId r.leaseFence = none := by
  have hone := (leased_grant (hc.shapes r hr) (runGrant_some hg).1).1
  obtain ⟨k, hk⟩ := hc.exists_claim hr hone (Nat.le_refl _)
  have hlast := (hc.histories r hr).holder hg
  rw [leaseHistory_last hone] at hlast
  unfold Catalog.attempt at hlast
  rw [hk] at hlast
  cases ho : c.outcomeRow r.request.tenantId r.runId r.leaseFence with
  | none =>
    simp only [ho, Option.map_none, Option.toList_none, List.getLast?_append,
      List.getLast?_singleton, Option.some_or, Option.some.injEq, Event.grant.injEq] at hlast
    exact ⟨k, hk, hlast, rfl⟩
  | some o =>
    -- the history would end with the outcome
    exfalso
    simp only [ho, Option.map_some, Option.toList_some, List.getLast?_append,
      List.getLast?_cons_cons, List.getLast?_singleton, Option.some_or,
      Option.some.injEq] at hlast
    unfold ControlRunOutcome.event at hlast
    split at hlast <;> cases hlast

/-! ## Steps keep the invariant -/

variable {tenantId : String} {fence : Nat} {row : ControlRun}

theorem attempt_congr (hk : c'.claimRow tenantId runId f = c.claimRow tenantId runId f)
    (ho : c'.outcomeRow tenantId runId f = c.outcomeRow tenantId runId f) :
    c'.attempt tenantId runId f = c.attempt tenantId runId f := by
  unfold Catalog.attempt
  rw [hk, ho]

theorem leaseHistory_congr (h : ∀ f ≤ r.leaseFence, c'.attempt r.request.tenantId r.runId f
      = c.attempt r.request.tenantId r.runId f) : c'.leaseHistory r = c.leaseHistory r := by
  unfold Catalog.leaseHistory
  rw [List.flatMap_def, List.flatMap_def]
  congr 1
  apply List.map_congr_left
  intro f hf
  rw [List.mem_range'_1] at hf
  exact h f (by omega)

theorem claimRow_append {k : ControlRunClaim} (hclaims : c'.claims = c.claims ++ [k])
    (hne : ¬(k.tenantId = tenantId ∧ k.runId = runId ∧ k.leaseFence = f)) :
    c'.claimRow tenantId runId f = c.claimRow tenantId runId f := by
  unfold Catalog.claimRow
  rw [hclaims]
  exact find?_append_of_neg (decide_eq_false hne)

theorem outcomeRow_append (houts : c'.outcomes = c.outcomes ++ [o])
    (hne : ¬(o.tenantId = tenantId ∧ o.runId = runId ∧ o.leaseFence = f)) :
    c'.outcomeRow tenantId runId f = c.outcomeRow tenantId runId f := by
  unfold Catalog.outcomeRow
  rw [houts]
  exact find?_append_of_neg (decide_eq_false hne)

/-- The outcome `o` ended the grant of the leased run `old`, which became `new`. -/
structure Closing (rsha : RuntimeDocument → Digest) (c : Catalog) (o : ControlRunOutcome)
    (old new : ControlRun) (c' : Catalog) : Prop where
  row : Replaced (·.runId) c.runs c'.runs old new
  leased : old.state = .leased
  key : o.tenantId = old.request.tenantId ∧ o.runId = old.runId
    ∧ o.leaseFence = old.leaseFence
  identity : new.toControlRunIdentity = old.toControlRunIdentity
  counts : new.leaseFence = old.leaseFence ∧ new.attemptCount = old.attemptCount
  shape : new.stateShape = true
  ended : new.state ≠ .leased
  closed : new.closed = o.outcome.final
  late : ∀ expires, old.leaseExpiresAt = some expires → expires ≤ o.recordedAt →
    o.outcome.final = true
  fresh : ∀ x ∈ c.outcomes, x.key ≠ o.key
  success : ∀ evidence receipt digest closure,
    o.outcome = .succeeded evidence receipt digest closure →
    SuccessOf rsha o evidence receipt digest closure new
  claims : c'.claims = c.claims
  outcomes : c'.outcomes = c.outcomes ++ [o]

/-- The history of the closed run is one event longer. -/
theorem closing_history (hc : RunTracked rsha maxRunAttempts c) (h : Closing rsha c o old new c') :
    History (c'.leaseHistory new) new.leaseView := by
  obtain ⟨hone, g, hg, _, _, hgf, hexp⟩ := leased_grant (hc.shapes old h.row.mem) h.leased
  obtain ⟨k, hk, hkg, ho⟩ := hc.leased_claim h.row.mem hg
  obtain ⟨hten, hid, hfence⟩ := h.key
  have hten' : new.request.tenantId = old.request.tenantId :=
    congrArg (fun i => i.request.tenantId) h.identity
  have hid' : new.runId = old.runId := congrArg ControlRunIdentity.runId h.identity
  have hclaim : ∀ f, c'.claimRow old.request.tenantId old.runId f
      = c.claimRow old.request.tenantId old.runId f := by
    intro f
    unfold Catalog.claimRow
    rw [h.claims]
  have hnew : c'.outcomeRow old.request.tenantId old.runId old.leaseFence = some o := by
    unfold Catalog.outcomeRow at ho ⊢
    rw [h.outcomes]
    exact find?_append_of_pos ho (decide_eq_true ⟨hten, hid, hfence⟩)
  have hbefore : (List.range' 1 (old.leaseFence - 1)).flatMap
        (c'.attempt old.request.tenantId old.runId)
      = (List.range' 1 (old.leaseFence - 1)).flatMap
        (c.attempt old.request.tenantId old.runId) := by
    rw [List.flatMap_def, List.flatMap_def]
    congr 1
    apply List.map_congr_left
    intro f hf
    rw [List.mem_range'_1] at hf
    refine attempt_congr (hclaim f) (outcomeRow_append h.outcomes ?_)
    rintro ⟨_, _, heq⟩
    omega
  have hhist : c'.leaseHistory new = c.leaseHistory old ++ [o.event k] := by
    rw [leaseHistory_last (by rw [h.counts.1]; exact hone), leaseHistory_last hone, hten',
      hid', h.counts.1, hbefore, List.append_assoc]
    congr 1
    unfold Catalog.attempt
    rw [hclaim, hk, hnew, ho]
    rfl
  rw [hhist]
  refine .snoc (hc.histories old h.row.mem) ?_
  have hview : new.leaseView = ⟨old.leaseView.fence, none, o.outcome.final⟩ := by
    unfold ControlRun.leaseView
    rw [h.counts.1, runGrant_none h.ended, h.closed]
  rw [hview]
  have hheld : old.leaseView.holder = some k.grant := by
    rw [hkg]
    exact hg
  have hexpires : old.leaseExpiresAt = some k.leaseExpiresAt := by
    rw [hexp, ← hkg]
    rfl
  unfold ControlRunOutcome.event
  split
  next hlive => exact .release (g := k.grant) hheld hlive
  next hover =>
    have hover : k.leaseExpiresAt ≤ o.recordedAt := Int.not_lt.mp hover
    rw [h.late _ hexpires hover]
    exact .lapse (g := k.grant) hheld hover

/-- A row that the step did not touch. -/
theorem other_history (hc : RunTracked rsha maxRunAttempts c) (hr : r ∈ c.runs)
    (h : ∀ f ≤ r.leaseFence, c'.attempt r.request.tenantId r.runId f
      = c.attempt r.request.tenantId r.runId f) :
    History (c'.leaseHistory r) r.leaseView := by
  rw [leaseHistory_congr h]
  exact hc.histories r hr

theorem closing_tracked (hc : RunTracked rsha maxRunAttempts c) (h : Closing rsha c o old new c')
    (hids : (c'.runs.map (·.runId)).Nodup) : RunTracked rsha maxRunAttempts c' := by
  obtain ⟨hten, hid, hfence⟩ := h.key
  have hten' : new.request.tenantId = old.request.tenantId :=
    congrArg (fun i => i.request.tenantId) h.identity
  have hid' : new.runId = old.runId := congrArg ControlRunIdentity.runId h.identity
  obtain ⟨hone, g, hg, _⟩ := leased_grant (hc.shapes old h.row.mem) h.leased
  obtain ⟨k, hk, _, hnone⟩ := hc.leased_claim h.row.mem hg
  refine ⟨hids, ?_, ?_, ?_, ?_, ?_, ?_, ?_, ?_⟩
  · intro r hr
    rcases (h.row.rows r).mp hr with rfl | ⟨hr, _⟩
    · exact h.shape
    · exact hc.shapes r hr
  · intro r hr
    rcases (h.row.rows r).mp hr with rfl | ⟨hr, _⟩
    · rw [h.counts.2]
      exact hc.bounded old h.row.mem
    · exact hc.bounded r hr
  · rw [h.claims]
    exact hc.claimKeys
  · rw [h.outcomes]
    exact append_keys hc.outcomeKeys h.fresh
  · intro x hx
    rw [h.claims] at hx
    obtain ⟨r, hr, hrt, hri, h₁, h₂⟩ := hc.claimed x hx
    by_cases hsame : r.runId = old.runId
    · have heq : r = old := List.inj_on_of_nodup_map hc.runIds hr h.row.mem hsame
      refine ⟨new, h.row.mem_new, ?_, ?_, h₁, ?_⟩
      · rw [hten', ← heq, hrt]
      · rw [hid', ← heq, hri]
      · rw [h.counts.1, ← heq]
        exact h₂
    · exact ⟨r, (h.row.rows r).mpr (Or.inr ⟨hr, hsame⟩), hrt, hri, h₁, h₂⟩
  · intro x hx
    rw [h.claims]
    rw [h.outcomes, List.mem_append, List.mem_singleton] at hx
    rcases hx with hx | rfl
    · exact hc.recorded x hx
    · obtain ⟨hkm, hkt, hki, hkf⟩ := claimRow_some hk
      refine ⟨k, hkm, ?_⟩
      unfold ControlRunClaim.key ControlRunOutcome.key
      rw [hkt, hki, hkf, hten, hid, hfence]
  · intro r hr
    rcases (h.row.rows r).mp hr with rfl | ⟨hr, hne⟩
    · exact closing_history hc h
    · refine other_history hc hr fun f _ => attempt_congr ?_ (outcomeRow_append h.outcomes ?_)
      · unfold Catalog.claimRow
        rw [h.claims]
      · rintro ⟨_, heq, _⟩
        exact hne (heq.symm.trans hid)
  · intro x hx evidence receipt digest closure hout
    rw [h.outcomes, List.mem_append, List.mem_singleton] at hx
    rcases hx with hx | rfl
    · obtain ⟨r, hr, hsucc⟩ := hc.successes x hx evidence receipt digest closure hout
      refine ⟨r, (h.row.rows r).mpr (Or.inr ⟨hr, fun he => ?_⟩), hsucc⟩
      -- the succeeded run is not the leased one
      have heq : r = old := List.inj_on_of_nodup_map hc.runIds hr h.row.mem he
      have hstate := hsucc.state
      rw [heq, h.leased] at hstate
      cases hstate
    · exact ⟨new, h.row.mem_new, h.success evidence receipt digest closure hout⟩

theorem leasedAtFence_iff : r.leasedAtFence tenantId runId fence = true ↔
      r.request.tenantId = tenantId ∧ r.runId = runId ∧ r.state = .leased
        ∧ r.leaseFence = fence := by
  unfold ControlRun.leasedAtFence
  exact decide_eq_true_iff

/-- The row a closing update hits. -/
theorem replaced_leased
    {f : ControlRun → ControlRun} (hids : (c.runs.map (·.runId)).Nodup) (hrow : row ∈ c.runs)
    (hten : row.request.tenantId = tenantId) (hleased : row.state = .leased)
    (hf : (f row).runId = row.runId) :
    Replaced (·.runId) c.runs
      (updateWhere (ControlRun.leasedAtFence tenantId row.runId row.leaseFence) f c.runs)
      row (f row) :=
  replaced_updateWhere hids hrow (leasedAtFence_iff.mpr ⟨hten, rfl, hleased, rfl⟩)
    (fun _ hx => (leasedAtFence_iff.mp hx).2.1) hf

theorem exhausted_iff :
    r.exhausted maxRunAttempts tenantId t = true ↔
      r.request.tenantId = tenantId ∧ r.state = .leased
        ∧ sqlLe r.leaseExpiresAt (some t) = true ∧ maxRunAttempts ≤ r.attemptCount := by
  unfold ControlRun.exhausted
  exact decide_eq_true_iff

theorem terminalized_closing (hc : RunTracked rsha maxRunAttempts c)
    (h : Terminalized rsha maxRunAttempts c tenantId t row c') :
    Closing rsha c (exhaustedOutcome rsha tenantId t row) row
      (row.fail t (exhaustedFailure rsha row) none) c' := by
  obtain ⟨hten, hleased, _, _⟩ := exhausted_iff.mp h.exhausted
  have hresult := h.result
  refine ⟨?_, hleased, ⟨hten.symm, rfl, rfl⟩, rfl, ⟨rfl, rfl⟩,
    h.shape row h.mem (leasedAtFence_iff.mpr ⟨hten, rfl, hleased, rfl⟩), ?_, rfl,
    fun _ _ _ => rfl, ?_, ?_, ?_, ?_⟩
  · rw [hresult]
    exact replaced_leased hc.runIds h.mem hten hleased rfl
  · exact fun hs => by cases hs
  · exact fun x hx => outcomeKey_ne (h.fresh x hx)
  · intro _ _ _ _ hout
    cases hout
  · rw [hresult]
  · rw [hresult]

/-- A live lease is not over. -/
theorem live_not_late {expires : Time}
    (hlive : sqlLt (some t) r.leaseExpiresAt = true) (hexp : r.leaseExpiresAt = some expires)
    (hover : expires ≤ t) : False := by
  rw [hexp, sqlLt_some] at hlive
  exact absurd hlive (Int.not_lt.mpr hover)

theorem completed_closing {result : ControlRunExecutionResult}
    (hc : RunTracked rsha maxRunAttempts c)
    (h : Completed rsha c w runId k fence result t row new c') :
    Closing rsha c
      ⟨w.tenantId, runId, fence, .succeeded result.evidenceDigest result.executorReceiptDigest
        (rsha (.closure (row.closure runId fence result t)))
        (row.closure runId fence result t), t⟩ row
      (row.succeed t result.evidenceDigest result.executorReceiptDigest
        (rsha (.closure (row.closure runId fence result t)))) c' := by
  obtain ⟨hleased, _, _, rfl, hlive⟩ := h.lease
  obtain ⟨hmem, hten, rfl⟩ := runRow_some h.row_eq
  have hresult := h.result_eq
  refine ⟨?_, hleased, ⟨hten.symm, rfl, rfl⟩, rfl, ⟨rfl, rfl⟩,
    h.shape row hmem (leasedAtFence_iff.mpr ⟨hten, rfl, hleased, rfl⟩), ?_, rfl,
    fun _ _ _ => rfl, ?_, ?_, ?_, ?_⟩
  · rw [hresult]
    exact replaced_leased hc.runIds hmem hten hleased rfl
  · exact fun hs => by cases hs
  · exact fun x hx => outcomeKey_ne (h.fresh x hx)
  · intro evidence receipt digest closure hout
    cases hout
    exact ⟨⟨hten, rfl, rfl⟩, rfl, rfl, rfl, rfl, rfl, rfl, rfl⟩
  · rw [hresult]
  · rw [hresult]

theorem fail_runClosed (r : ControlRun) (t : Time) (failure : Digest) (retryAt : Option Time) :
    (r.fail t failure retryAt).closed = retryAt.isNone := by
  cases retryAt <;> rfl

theorem failed_closing {failure : Digest} {retryAt : Option Time}
    (hc : RunTracked rsha maxRunAttempts c)
    (h : Failed rsha maxRunAttempts c w runId k fence failure t retryAt row new c') :
    Closing rsha c
      ⟨w.tenantId, runId, fence,
        .failed failure (effectiveRetry maxRunAttempts row retryAt), t⟩ row
      (row.fail t failure (effectiveRetry maxRunAttempts row retryAt)) c' := by
  obtain ⟨hleased, _, _, rfl, hlive⟩ := h.lease
  obtain ⟨hmem, hten, rfl⟩ := runRow_some h.row_eq
  have hresult := h.result_eq
  refine ⟨?_, hleased, ⟨hten.symm, rfl, rfl⟩, rfl, ⟨rfl, rfl⟩,
    h.shape row hmem (leasedAtFence_iff.mpr ⟨hten, rfl, hleased, rfl⟩), ?_,
    fail_runClosed .., ?_, ?_, ?_, ?_, ?_⟩
  · rw [hresult]
    exact replaced_leased hc.runIds hmem hten hleased rfl
  · exact fun hs => by cases hs
  · intro expires hexp hover
    exact (live_not_late hlive hexp hover).elim
  · exact fun x hx => outcomeKey_ne (h.fresh x hx)
  · intro _ _ _ _ hout
    cases hout
  · rw [hresult]
  · rw [hresult]

theorem claimable_iff :
    r.claimable maxRunAttempts tenantId t = true ↔
      r.request.tenantId = tenantId ∧ r.request.dueAt ≤ t
        ∧ r.attemptCount < maxRunAttempts
        ∧ (r.state = .pending
          ∨ (r.state = .leased ∧ sqlLe r.leaseExpiresAt (some t) = true)
          ∨ (r.state = .failed ∧ sqlLe r.retryAt (some t) = true)) := by
  unfold ControlRun.claimable
  exact decide_eq_true_iff

/-- A run that may be claimed is not closed, and whoever holds it is out of time. -/
theorem claimable_free (h : r.claimable maxRunAttempts tenantId t = true) :
    r.closed = false ∧ ∀ g, r.grant? = some g → g.expires ≤ t := by
  obtain ⟨_, _, _, hstate⟩ := claimable_iff.mp h
  constructor
  · simp only [ControlRun.closed, decide_eq_false_iff_not]
    rintro (hsucc | ⟨hfail, hretry⟩)
    · simp [hsucc] at hstate
    · simp [hfail, hretry, sqlLe] at hstate
  · intro g hg
    obtain ⟨hleased, hexp⟩ := runGrant_some hg
    simp only [hleased, hexp, reduceCtorEq, false_and, false_or, or_false, true_and,
      sqlLe_some] at hstate
    exact hstate

/-- The row a claim hits. -/
theorem claimed_row (hc : RunTracked rsha maxRunAttempts c)
    (h : Claimed maxRunAttempts c w k t n row new c') :
    Replaced (·.runId) c.runs c'.runs row
      (row.lease (row.attemptCount + 1) (row.leaseFence + 1) w.workerId k t (t + n)) := by
  obtain ⟨hten, _⟩ := claimable_iff.mp h.claimable
  rw [h.result]
  exact replaced_updateWhere hc.runIds h.mem (decide_eq_true ⟨hten, rfl⟩)
    (fun x hx => (of_decide_eq_true hx).2) rfl

theorem claimed_history (hc : RunTracked rsha maxRunAttempts c)
    (h : Claimed maxRunAttempts c w k t n row new c') :
    History (c'.leaseHistory
        (row.lease (row.attemptCount + 1) (row.leaseFence + 1) w.workerId k t (t + n)))
      (row.lease (row.attemptCount + 1) (row.leaseFence + 1) w.workerId k t (t + n)).leaseView := by
  obtain ⟨hten, _⟩ := claimable_iff.mp h.claimable
  obtain ⟨hopen, hfree⟩ := claimable_free h.claimable
  have hclaims : c'.claims = c.claims ++ [newClaim w k t n row] := by rw [h.result]
  have houts : ∀ f, c'.outcomeRow row.request.tenantId row.runId f
      = c.outcomeRow row.request.tenantId row.runId f := by
    intro f
    unfold Catalog.outcomeRow
    rw [h.result]
  -- nothing in the tables has the new fence yet
  have hnoClaim : c.claimRow row.request.tenantId row.runId (row.leaseFence + 1) = none := by
    unfold Catalog.claimRow
    rw [List.find?_eq_none]
    intro x hx hp
    simp only [decide_eq_true_eq] at hp
    exact h.fresh x hx ⟨hp.1.trans hten, hp.2.1, hp.2.2⟩
  have hnoOutcome : c.outcomeRow row.request.tenantId row.runId (row.leaseFence + 1)
      = none := by
    unfold Catalog.outcomeRow
    rw [List.find?_eq_none]
    intro o ho hp
    simp only [decide_eq_true_eq] at hp
    obtain ⟨x, hx, hkey⟩ := hc.recorded o ho
    obtain ⟨h₁, h₂⟩ := Prod.mk.inj hkey
    obtain ⟨h₂, h₃⟩ := Prod.mk.inj h₂
    exact h.fresh x hx ⟨h₁.trans (hp.1.trans hten), h₂.trans hp.2.1, h₃.trans hp.2.2⟩
  have hnew : c'.claimRow row.request.tenantId row.runId (row.leaseFence + 1)
      = some (newClaim w k t n row) := by
    unfold Catalog.claimRow at hnoClaim ⊢
    rw [hclaims]
    exact find?_append_of_pos hnoClaim (decide_eq_true ⟨hten.symm, rfl, rfl⟩)
  have hold : c'.leaseHistory row = c.leaseHistory row := by
    apply leaseHistory_congr
    intro f hf
    refine attempt_congr (claimRow_append hclaims ?_) (houts f)
    rintro ⟨_, _, heq⟩
    have hfence : row.leaseFence + 1 = f := heq
    omega
  have hhist : c'.leaseHistory
      (row.lease (row.attemptCount + 1) (row.leaseFence + 1) w.workerId k t (t + n))
      = c.leaseHistory row ++ [.grant (newClaim w k t n row).grant] := by
    rw [leaseHistory_last (Nat.le_add_left 1 _), ← hold]
    show (List.range' 1 row.leaseFence).flatMap
        (c'.attempt row.request.tenantId row.runId)
        ++ c'.attempt row.request.tenantId row.runId (row.leaseFence + 1) = _
    congr 1
    unfold Catalog.attempt
    rw [hnew, houts, hnoOutcome]
    rfl
  rw [hhist]
  exact .snoc (hc.histories row h.mem) (.grant hopen rfl hfree)

theorem claimed_tracked (hc : RunTracked rsha maxRunAttempts c)
    (h : Claimed maxRunAttempts c w k t n row new c') :
    RunTracked rsha maxRunAttempts c' := by
  obtain ⟨hten, _, hlt, hstate⟩ := claimable_iff.mp h.claimable
  have hrow := claimed_row hc h
  have hclaims : c'.claims = c.claims ++ [newClaim w k t n row] := by rw [h.result]
  have houts : c'.outcomes = c.outcomes := by rw [h.result]
  refine ⟨?_, ?_, ?_, ?_, houts ▸ hc.outcomeKeys, ?_, ?_, ?_, ?_⟩
  · rw [h.result]
    exact updateWhere_keys (fun _ => rfl) hc.runIds
  · intro r hr
    rcases (hrow.rows r).mp hr with rfl | ⟨hr, _⟩
    · exact h.shape row h.mem hten rfl
    · exact hc.shapes r hr
  · intro r hr
    rcases (hrow.rows r).mp hr with rfl | ⟨hr, _⟩
    · exact hlt
    · exact hc.bounded r hr
  · rw [hclaims]
    refine append_keys hc.claimKeys ?_
    intro x hx he
    obtain ⟨h₁, he⟩ := Prod.mk.inj he
    exact h.fresh x hx ⟨h₁, Prod.mk.inj he⟩
  · intro x hx
    rw [hclaims, List.mem_append, List.mem_singleton] at hx
    rcases hx with hx | rfl
    · obtain ⟨r, hr, hrt, hri, h₁, h₂⟩ := hc.claimed x hx
      by_cases hsame : r.runId = row.runId
      · have heq : r = row := List.inj_on_of_nodup_map hc.runIds hr h.mem hsame
        rw [heq] at hrt hri h₂
        exact ⟨_, hrow.mem_new, hrt, hri, h₁, Nat.le_succ_of_le h₂⟩
      · exact ⟨r, (hrow.rows r).mpr (Or.inr ⟨hr, hsame⟩), hrt, hri, h₁, h₂⟩
    · exact ⟨_, hrow.mem_new, hten, rfl, Nat.le_add_left 1 _, Nat.le_refl _⟩
  · intro o ho
    rw [houts] at ho
    obtain ⟨x, hx, hkey⟩ := hc.recorded o ho
    refine ⟨x, ?_, hkey⟩
    rw [hclaims]
    exact List.mem_append_left _ hx
  · intro r hr
    rcases (hrow.rows r).mp hr with rfl | ⟨hr, hne⟩
    · exact claimed_history hc h
    · refine other_history hc hr fun f _ => attempt_congr (claimRow_append hclaims ?_) ?_
      · rintro ⟨_, heq, _⟩
        exact hne heq.symm
      · unfold Catalog.outcomeRow
        rw [houts]
  · intro o ho evidence receipt digest closure hout
    rw [houts] at ho
    obtain ⟨r, hr, hsucc⟩ := hc.successes o ho evidence receipt digest closure hout
    refine ⟨r, (hrow.rows r).mpr (Or.inr ⟨hr, fun he => ?_⟩), hsucc⟩
    have heq : r = row := List.inj_on_of_nodup_map hc.runIds hr h.mem he
    have hs := hsucc.state
    rw [heq] at hs
    simp [hs] at hstate

/-- A new run has no past. -/
theorem inserted_tracked {q : ControlRunRequest} (hc : RunTracked rsha maxRunAttempts c)
    (hfresh : ∀ r ∈ c.runs, r.runId ≠ rsha (.runRequest q)) :
    RunTracked rsha maxRunAttempts
      { c with runs := c.runs ++ [pendingRun (rsha (.runRequest q)) q t] } := by
  have hmem : ∀ r, r ∈ c.runs ++ [pendingRun (rsha (.runRequest q)) q t] ↔
      r ∈ c.runs ∨ r = pendingRun (rsha (.runRequest q)) q t := by
    intro r
    rw [List.mem_append, List.mem_singleton]
  refine ⟨append_keys hc.runIds hfresh, ?_, ?_, hc.claimKeys, hc.outcomeKeys, ?_,
    hc.recorded, ?_, ?_⟩
  · intro r hr
    rcases (hmem r).mp hr with hr | rfl
    · exact hc.shapes r hr
    · rfl
  · intro r hr
    rcases (hmem r).mp hr with hr | rfl
    · exact hc.bounded r hr
    · exact Nat.zero_le _
  · intro k hk
    obtain ⟨r, hr, h⟩ := hc.claimed k hk
    exact ⟨r, (hmem r).mpr (Or.inl hr), h⟩
  · intro r hr
    rcases (hmem r).mp hr with hr | rfl
    · exact hc.histories r hr
    · exact .nil
  · intro o ho evidence receipt digest closure hout
    obtain ⟨r, hr, h⟩ := hc.successes o ho evidence receipt digest closure hout
    exact ⟨r, (hmem r).mpr (Or.inl hr), h⟩

theorem step_tracked (hc : RunTracked rsha maxRunAttempts c)
    (h : RunStep rsha maxRunAttempts c c') : RunTracked rsha maxRunAttempts c' := by
  cases h with
  | insert fresh => exact inserted_tracked hc fresh
  | claim h => exact claimed_tracked hc h
  | terminalize h =>
    refine closing_tracked hc (terminalized_closing hc h) ?_
    rw [h.result]
    exact updateWhere_keys (fun _ => rfl) hc.runIds
  | complete h =>
    refine closing_tracked hc (completed_closing hc h) ?_
    rw [h.result_eq]
    exact updateWhere_keys (fun _ => rfl) hc.runIds
  | fail h =>
    refine closing_tracked hc (failed_closing hc h) ?_
    rw [h.result_eq]
    exact updateWhere_keys (fun _ => rfl) hc.runIds
  | @other c' runs claims outcomes =>
    have hhist : ∀ r, c'.leaseHistory r = c.leaseHistory r := by
      intro r
      unfold Catalog.leaseHistory Catalog.attempt Catalog.claimRow Catalog.outcomeRow
      rw [claims, outcomes]
    refine ⟨runs ▸ hc.runIds, runs ▸ hc.shapes, runs ▸ hc.bounded, claims ▸ hc.claimKeys,
      outcomes ▸ hc.outcomeKeys, ?_, ?_, ?_, ?_⟩
    · rw [claims, runs]
      exact hc.claimed
    · rw [claims, outcomes]
      exact hc.recorded
    · rw [runs]
      intro r hr
      rw [hhist]
      exact hc.histories r hr
    · rw [outcomes, runs]
      exact hc.successes

/-! ## Runs only advance -/

/-- How a row may look after later steps: the same, or leased again, or closed. -/
def RunAdvances (r r' : ControlRun) : Prop :=
  r' = r ∨ r.leaseFence < r'.leaseFence ∨ (r.state = .leased ∧ r'.leaseFence = r.leaseFence)

theorem replaced_advances (hids : (c.runs.map (·.runId)).Nodup)
    (hrow : Replaced (·.runId) c.runs c'.runs old new) (hadv : RunAdvances old new)
    (hr : r ∈ c.runs) :
    ∃ r' ∈ c'.runs, r'.runId = r.runId ∧ RunAdvances r r' := by
  by_cases hsame : r.runId = old.runId
  · have heq : r = old := List.inj_on_of_nodup_map hids hr hrow.mem hsame
    exact ⟨new, hrow.mem_new, hrow.key_eq.trans hsame.symm, heq ▸ hadv⟩
  · exact ⟨r, (hrow.rows r).mpr (Or.inr ⟨hr, hsame⟩), rfl, Or.inl rfl⟩

/-- A step replaces rows only by later ones, and never a closed one. -/
theorem step_advances (hc : RunTracked rsha maxRunAttempts c)
    (h : RunStep rsha maxRunAttempts c c') (hr : r ∈ c.runs) :
    (∃ r' ∈ c'.runs, r'.runId = r.runId ∧ RunAdvances r r')
      ∧ (r.closed = true → r ∈ c'.runs) := by
  have hclosing : ∀ {o old new}, Closing rsha c o old new c' →
      (∃ r' ∈ c'.runs, r'.runId = r.runId ∧ RunAdvances r r')
        ∧ (r.closed = true → r ∈ c'.runs) := by
    intro o old new h
    refine ⟨replaced_advances hc.runIds h.row (Or.inr (Or.inr ⟨h.leased, h.counts.1⟩)) hr, ?_⟩
    intro hclosed
    refine (h.row.rows r).mpr (Or.inr ⟨hr, fun he => ?_⟩)
    have heq : r = old := List.inj_on_of_nodup_map hc.runIds hr h.row.mem he
    rw [heq, ControlRun.closed, h.leased] at hclosed
    simp at hclosed
  cases h with
  | @insert q t fresh =>
    have hmem := List.mem_append_left [pendingRun (rsha (.runRequest q)) q t] hr
    exact ⟨⟨r, hmem, rfl, Or.inl rfl⟩, fun _ => hmem⟩
  | claim h =>
    have hrow := claimed_row hc h
    refine ⟨replaced_advances hc.runIds hrow (Or.inr (Or.inl (Nat.lt_succ_self _))) hr, ?_⟩
    intro hclosed
    refine (hrow.rows r).mpr (Or.inr ⟨hr, fun he => ?_⟩)
    have heq : r = _ := List.inj_on_of_nodup_map hc.runIds hr h.mem he
    rw [heq, (claimable_free h.claimable).1] at hclosed
    cases hclosed
  | terminalize h => exact hclosing (terminalized_closing hc h)
  | complete h => exact hclosing (completed_closing hc h)
  | fail h => exact hclosing (failed_closing hc h)
  | other runs =>
    have hmem := runs ▸ hr
    exact ⟨⟨r, hmem, rfl, Or.inl rfl⟩, fun _ => hmem⟩

/-- Claims are never changed or removed. -/
theorem step_claimRow (h : RunStep rsha maxRunAttempts c c')
    {k : ControlRunClaim} (hk : c.claimRow tenantId runId f = some k) :
    c'.claimRow tenantId runId f = some k := by
  have hsame : c'.claims = c.claims → c'.claimRow tenantId runId f = some k := by
    intro hclaims
    unfold Catalog.claimRow at hk ⊢
    rw [hclaims, hk]
  cases h with
  | insert => exact hk
  | claim h =>
    unfold Catalog.claimRow at hk ⊢
    rw [h.result, List.find?_append, hk]
    rfl
  | terminalize h => exact hsame (by rw [h.result])
  | complete h => exact hsame (by rw [h.result_eq])
  | fail h => exact hsame (by rw [h.result_eq])
  | other _ claims _ => exact hsame claims

/-! ## Whole runs -/

/-- The catalog after further calls. -/
def catalogFrom (sha : Document → Digest) (rsha : RuntimeDocument → Digest)
    (maxRunAttempts : Nat) (c : Catalog) (calls : List CatalogCall) : Catalog :=
  calls.foldl (fun c call => call.next sha rsha maxRunAttempts c) c

theorem catalogFrom_steps (calls : List CatalogCall) (c : Catalog) :
    Relation.ReflTransGen (RunStep rsha maxRunAttempts) c
      (catalogFrom sha rsha maxRunAttempts c calls) := by
  induction calls generalizing c with
  | nil => exact .refl
  | cons call calls ih => exact (next_steps c call).trans (ih _)

theorem steps_tracked (hc : RunTracked rsha maxRunAttempts c)
    (h : Relation.ReflTransGen (RunStep rsha maxRunAttempts) c c') :
    RunTracked rsha maxRunAttempts c' := by
  induction h with
  | refl => exact hc
  | tail _ hstep ih => exact step_tracked ih hstep

/-- A closed run never changes. -/
theorem steps_closed (hc : RunTracked rsha maxRunAttempts c)
    (h : Relation.ReflTransGen (RunStep rsha maxRunAttempts) c c')
    (hr : r ∈ c.runs) (hclosed : r.closed = true) : r ∈ c'.runs := by
  induction h with
  | refl => exact hr
  | tail hpast hstep ih => exact (step_advances (steps_tracked hc hpast) hstep ih).2 hclosed

/-- A failed run stays as it is until it is claimed again. -/
theorem steps_failed (hc : RunTracked rsha maxRunAttempts c)
    (h : Relation.ReflTransGen (RunStep rsha maxRunAttempts) c c')
    (hr : r ∈ c.runs) (hfailed : r.state = .failed) :
    ∃ r' ∈ c'.runs, r'.runId = r.runId ∧ (r' = r ∨ r.leaseFence < r'.leaseFence) := by
  induction h with
  | refl => exact ⟨r, hr, rfl, Or.inl rfl⟩
  | tail hpast hstep ih =>
    obtain ⟨x, hx, hid, hadv⟩ := ih
    obtain ⟨⟨y, hy, hid', hadv'⟩, _⟩ := step_advances (steps_tracked hc hpast) hstep hx
    refine ⟨y, hy, hid'.trans hid, ?_⟩
    rcases hadv' with rfl | hlt | ⟨hleased, heq⟩
    · exact hadv
    · rcases hadv with rfl | hlt'
      · exact Or.inr hlt
      · exact Or.inr (Nat.lt_trans hlt' hlt)
    · rcases hadv with rfl | hlt'
      · rw [hfailed] at hleased
        cases hleased
      · exact Or.inr (heq ▸ hlt')

theorem steps_claimRow (h : Relation.ReflTransGen (RunStep rsha maxRunAttempts) c c')
    {k : ControlRunClaim} (hk : c.claimRow tenantId runId f = some k) :
    c'.claimRow tenantId runId f = some k := by
  induction h with
  | refl => exact hk
  | tail _ hstep ih => exact step_claimRow hstep ih

/-- A run is found by its id. -/
theorem RunTracked.runRow_eq (hc : RunTracked rsha maxRunAttempts c)
    (hr : r ∈ c.runs) : c.runRow r.request.tenantId r.runId = some r := by
  refine find?_eq_of_unique hr (decide_eq_true ⟨rfl, rfl⟩) ?_
  intro x hx hp
  exact List.inj_on_of_nodup_map hc.runIds hx hr (of_decide_eq_true hp).2

/-- As many claims as fences. -/
theorem RunTracked.claim_count (hc : RunTracked rsha maxRunAttempts c) (hr : r ∈ c.runs) :
    (c.claims.filter fun k =>
      decide (k.tenantId = r.request.tenantId ∧ k.runId = r.runId)).length
        = r.leaseFence := by
  have hof : ∀ k, k ∈ (c.claims.filter fun k =>
      decide (k.tenantId = r.request.tenantId ∧ k.runId = r.runId)) ↔
        k ∈ c.claims ∧ k.tenantId = r.request.tenantId ∧ k.runId = r.runId := by
    intro k
    rw [List.mem_filter, decide_eq_true_iff]
  have hnodup : ((c.claims.filter fun k =>
      decide (k.tenantId = r.request.tenantId ∧ k.runId = r.runId)).map
        (·.leaseFence)).Nodup := by
    refine List.Nodup.map_on ?_ (hc.claimKeys.of_map.filter _)
    intro x hx y hy he
    obtain ⟨hx, hxt, hxr⟩ := (hof x).mp hx
    obtain ⟨hy, hyt, hyr⟩ := (hof y).mp hy
    refine List.inj_on_of_nodup_map hc.claimKeys hx hy ?_
    unfold ControlRunClaim.key
    rw [hxt, hxr, hyt, hyr, he]
  have hperm : ((c.claims.filter fun k =>
      decide (k.tenantId = r.request.tenantId ∧ k.runId = r.runId)).map
        (·.leaseFence)).Perm (List.range' 1 r.leaseFence) := by
    rw [List.perm_ext_iff_of_nodup hnodup List.nodup_range']
    intro f
    rw [List.mem_map, List.mem_range'_1]
    constructor
    · rintro ⟨k, hk, rfl⟩
      obtain ⟨hk, _, hkr⟩ := (hof k).mp hk
      obtain ⟨x, hx, _, hxr, h₁, h₂⟩ := hc.claimed k hk
      have heq : x = r := List.inj_on_of_nodup_map hc.runIds hx hr (hxr.trans hkr)
      rw [heq] at h₂
      omega
    · rintro ⟨h₁, h₂⟩
      obtain ⟨k, hk⟩ := hc.exists_claim hr h₁ (by omega)
      obtain ⟨hmem, hkt, hkr, hkf⟩ := claimRow_some hk
      exact ⟨k, (hof k).mpr ⟨hmem, hkt, hkr⟩, hkf⟩
  have hlen := hperm.length_eq
  rw [List.length_map, List.length_range'] at hlen
  exact hlen

end ControlAssurance.Runtime
