import ControlAssurance.Runtime.History
import ControlAssurance.Runtime.Runs

/-!
# What a committed run call can do

The inversion of `claim_next_run`, `complete_run`, `fail_run` and
`materialize_due_runs`: the guards that held and the tables that resulted.
`RunsInv` is the part of the invariant of `control_runs` that no lease touches:
a run's id is the digest of its request, and its request is a window that some
deployment of the history owes.
-/

namespace ControlAssurance.Runtime

open Lib ControlPlane

variable {sha : Document → Digest} {rsha : RuntimeDocument → Digest} {maxRunAttempts : Nat}

/-! ## Statements -/

variable {c c' : Catalog} {k runId : Digest} {t : Time} {w : RuntimeWorkerIdentity} {n : Nat}
  {new : ControlRun} {q : ControlRunRequest} {P : Catalog → Prop} {limits : MaterializationLimits}

variable {tenantId : String} {fence : Nat} {result : ControlRunExecutionResult}

theorem runRow_some {r : ControlRun} (h : c.runRow tenantId runId = some r) :
    r ∈ c.runs ∧ r.request.tenantId = tenantId ∧ r.runId = runId := by
  have hp := List.find?_some h
  simp only [decide_eq_true_eq] at hp
  exact ⟨List.mem_of_find?_eq_some h, hp.1, hp.2⟩

theorem claimRow_some {k : ControlRunClaim} (h : c.claimRow tenantId runId fence = some k) :
    k ∈ c.claims ∧ k.tenantId = tenantId ∧ k.runId = runId ∧ k.leaseFence = fence := by
  have hp := List.find?_some h
  simp only [decide_eq_true_eq] at hp
  exact ⟨List.mem_of_find?_eq_some h, hp.1, hp.2.1, hp.2.2⟩

theorem updateRuns_ok {p : ControlRun → Bool} {f : ControlRun → ControlRun}
    {e : RuntimeCatalogError} (h : updateRuns c p f e = .ok c') :
    (∀ r ∈ c.runs, p r = true → runTransitionGuard r (f r) = true)
      ∧ (∀ r ∈ c.runs, p r = true → (f r).stateShape = true)
      ∧ c' = { c with runs := updateWhere p f c.runs } := by
  simp only [updateRuns, bind_eq_ok, require_eq_ok, pure_eq_ok, exists_const] at h
  exact ⟨h.1, h.2.1, h.2.2.symm⟩

/-! ## The calls -/

/-- The outcome row that closes an exhausted lease. -/
def exhaustedOutcome (rsha : RuntimeDocument → Digest) (tenantId : String) (t : Time)
    (row : ControlRun) : ControlRunOutcome :=
  ⟨tenantId, row.runId, row.leaseFence, .failed (exhaustedFailure rsha row) none, t⟩

structure Terminalized (rsha : RuntimeDocument → Digest) (maxRunAttempts : Nat)
    (c : Catalog) (tenantId : String) (t : Time) (row : ControlRun) (c' : Catalog) :
    Prop where
  mem : row ∈ c.runs
  exhausted : row.exhausted maxRunAttempts tenantId t = true
  guard : outcomeGuard rsha c (exhaustedOutcome rsha tenantId t row) = true
  fresh : ∀ x ∈ c.outcomes, ¬(x.tenantId = tenantId ∧ x.runId = row.runId
    ∧ x.leaseFence = row.leaseFence)
  shape : ∀ r ∈ c.runs, r.leasedAtFence tenantId row.runId row.leaseFence = true →
    (r.fail t (exhaustedFailure rsha row) none).stateShape = true
  result : c' = { c with
    outcomes := c.outcomes ++ [exhaustedOutcome rsha tenantId t row]
    runs := updateWhere (ControlRun.leasedAtFence tenantId row.runId row.leaseFence)
      (fun r => r.fail t (exhaustedFailure rsha row) none) c.runs }

theorem terminalize_ok (h : terminalizeExhaustedLease rsha maxRunAttempts c tenantId t = .ok c') :
    c' = c ∨ ∃ row, Terminalized rsha maxRunAttempts c tenantId t row c' := by
  unfold terminalizeExhaustedLease at h
  split at h
  next =>
    rw [pure_eq_ok] at h
    exact Or.inl h.symm
  next row hrow =>
    simp only [insertOutcome, bind_eq_ok, require_eq_ok, pure_eq_ok, exists_const] at h
    obtain ⟨c₁, ⟨hguard, hfresh, rfl⟩, hupd⟩ := h
    obtain ⟨_, hshape, rfl⟩ := updateRuns_ok hupd
    have hmem := firstBy_mem hrow
    rw [List.mem_filter] at hmem
    exact Or.inr ⟨row, hmem.1, hmem.2, hguard, hfresh, hshape, rfl⟩

/-- The claim row of a lease. -/
def newClaim (w : RuntimeWorkerIdentity) (k : Digest) (t : Time) (n : Nat)
    (row : ControlRun) : ControlRunClaim :=
  { tenantId := w.tenantId
    runId := row.runId
    leaseFence := row.leaseFence + 1
    attemptCount := row.attemptCount + 1
    workerId := w.workerId
    workerCredentialDigest := w.credentialDigest
    leaseTokenDigest := k
    leasedAt := t
    leaseExpiresAt := t + n }

structure Claimed (maxRunAttempts : Nat) (c : Catalog) (w : RuntimeWorkerIdentity)
    (k : Digest) (t : Time) (n : Nat) (row new : ControlRun) (c' : Catalog) : Prop where
  mem : row ∈ c.runs
  claimable : row.claimable maxRunAttempts w.tenantId t = true
  ttl : 15 ≤ n
  shape : ∀ r ∈ c.runs, r.request.tenantId = w.tenantId → r.runId = row.runId →
    (r.lease (row.attemptCount + 1) (row.leaseFence + 1) w.workerId k t (t + n)).stateShape
      = true
  fresh : ∀ x ∈ c.claims, ¬(x.tenantId = w.tenantId ∧ x.runId = row.runId
    ∧ x.leaseFence = row.leaseFence + 1)
  answer : c'.runRow w.tenantId row.runId = some new
  result : c' = { c with
    claims := c.claims ++ [newClaim w k t n row]
    runs := updateWhere
      (fun r => decide (r.request.tenantId = w.tenantId ∧ r.runId = row.runId))
      (fun r => r.lease (row.attemptCount + 1) (row.leaseFence + 1) w.workerId k t (t + n))
      c.runs }

theorem claimNextRun_ok {ans : Option ControlRun}
    (h : claimNextRun rsha maxRunAttempts c w k t n = .ok (c', ans)) :
    ∃ c₁, terminalizeExhaustedLease rsha maxRunAttempts c w.tenantId t = .ok c₁
      ∧ ((ans = none ∧ c' = c₁) ∨ ∃ row new, ans = some new
        ∧ Claimed maxRunAttempts c₁ w k t n row new c') := by
  simp only [claimNextRun, bind_eq_ok, require_eq_ok, exists_const] at h
  obtain ⟨⟨httl, _⟩, c₁, hterm, h⟩ := h
  refine ⟨c₁, hterm, ?_⟩
  split at h
  next =>
    simp only [pure_eq_ok, Prod.mk.injEq] at h
    exact Or.inl ⟨h.2.symm, h.1.symm⟩
  next row hrow =>
    simp only [bind_eq_ok, expect_eq_ok, insertClaim, require_eq_ok, pure_eq_ok,
      Prod.mk.injEq, exists_const] at h
    obtain ⟨c₂, hupd, new, hnew, c₃, ⟨_, _, hfresh, rfl⟩, rfl, rfl⟩ := h
    obtain ⟨_, hshape, rfl⟩ := updateRuns_ok hupd
    have hmem := firstBy_mem hrow
    rw [List.mem_filter] at hmem
    refine Or.inr ⟨row, new, rfl, hmem.1, hmem.2, httl, ?_, hfresh, hnew, rfl⟩
    intro r hr hten hid
    exact hshape r hr (by simp [hten, hid])

/-- A first completion. -/
structure Completed (rsha : RuntimeDocument → Digest) (c : Catalog)
    (w : RuntimeWorkerIdentity) (runId k : Digest) (fence : Nat)
    (result : ControlRunExecutionResult) (t : Time) (row new : ControlRun) (c' : Catalog) :
    Prop where
  row_eq : c.runRow w.tenantId runId = some row
  lease : row.state = .leased ∧ row.leaseOwner = some w.workerId
    ∧ row.leaseTokenDigest = some k ∧ row.leaseFence = fence
    ∧ sqlLt (some t) row.leaseExpiresAt = true
  guard : outcomeGuard rsha c
    ⟨w.tenantId, runId, fence,
      .succeeded result.evidenceDigest result.executorReceiptDigest
        (rsha (.closure (row.closure runId fence result t)))
        (row.closure runId fence result t), t⟩ = true
  fresh : ∀ x ∈ c.outcomes, ¬(x.tenantId = w.tenantId ∧ x.runId = runId
    ∧ x.leaseFence = fence)
  shape : ∀ r ∈ c.runs, r.leasedAtFence w.tenantId runId fence = true →
    (r.succeed t result.evidenceDigest result.executorReceiptDigest
      (rsha (.closure (row.closure runId fence result t)))).stateShape = true
  answer : c'.runRow w.tenantId runId = some new
  result_eq : c' = { c with
    outcomes := c.outcomes ++ [⟨w.tenantId, runId, fence,
      .succeeded result.evidenceDigest result.executorReceiptDigest
        (rsha (.closure (row.closure runId fence result t)))
        (row.closure runId fence result t), t⟩]
    runs := updateWhere (ControlRun.leasedAtFence w.tenantId runId fence)
      (fun r => r.succeed t result.evidenceDigest result.executorReceiptDigest
        (rsha (.closure (row.closure runId fence result t)))) c.runs }

/-- A repeated closing call, answered from the row. -/
structure Replayed (c : Catalog) (w : RuntimeWorkerIdentity) (runId k : Digest) (fence : Nat)
    (row : ControlRun) : Prop where
  row_eq : c.runRow w.tenantId runId = some row
  fence_eq : row.leaseFence = fence
  claim : ∃ x, c.claimRow w.tenantId runId fence = some x ∧ x.workerId = w.workerId
    ∧ x.leaseTokenDigest = k

theorem completeRun_ok (h : completeRun rsha c w runId k fence result t = .ok (c', new)) :
    (result.runId = runId ∧ result.leaseFence = fence) ∧
    ((new.state = .succeeded ∧ new.evidenceDigest = some result.evidenceDigest
        ∧ new.executorReceiptDigest = some result.executorReceiptDigest
        ∧ Replayed c w runId k fence new ∧ c' = c)
      ∨ ∃ row, Completed rsha c w runId k fence result t row new c') := by
  simp only [completeRun, requireClaimIdentity, requireCurrentLease, bind_eq_ok,
    require_eq_ok, expect_eq_ok, exists_const] at h
  obtain ⟨hresult, row, hrow, h⟩ := h
  refine ⟨hresult, ?_⟩
  split at h
  next hstate =>
    simp only [bind_eq_ok, require_eq_ok, pure_eq_ok, Prod.mk.injEq, exists_const] at h
    obtain ⟨⟨hfence, hev, hre⟩, hclaim, rfl, rfl⟩ := h
    exact Or.inl ⟨hstate, hev, hre, ⟨hrow, hfence, hclaim⟩, rfl⟩
  next =>
    simp only [insertOutcome, bind_eq_ok, require_eq_ok, expect_eq_ok, pure_eq_ok,
      Prod.mk.injEq, exists_const] at h
    obtain ⟨hlease, _, c₁, ⟨hguard, hfresh, rfl⟩, c₂, hupd, new', hnew, rfl, rfl⟩ := h
    obtain ⟨_, hshape, rfl⟩ := updateRuns_ok hupd
    exact Or.inr ⟨row, hrow, hlease, hguard, hfresh, hshape, hnew, rfl⟩

/-- A first failure. -/
structure Failed (rsha : RuntimeDocument → Digest) (maxRunAttempts : Nat) (c : Catalog)
    (w : RuntimeWorkerIdentity) (runId k : Digest) (fence : Nat) (failure : Digest)
    (t : Time) (retryAt : Option Time) (row new : ControlRun) (c' : Catalog) : Prop where
  row_eq : c.runRow w.tenantId runId = some row
  lease : row.state = .leased ∧ row.leaseOwner = some w.workerId
    ∧ row.leaseTokenDigest = some k ∧ row.leaseFence = fence
    ∧ sqlLt (some t) row.leaseExpiresAt = true
  guard : outcomeGuard rsha c ⟨w.tenantId, runId, fence,
    .failed failure (effectiveRetry maxRunAttempts row retryAt), t⟩ = true
  fresh : ∀ x ∈ c.outcomes, ¬(x.tenantId = w.tenantId ∧ x.runId = runId
    ∧ x.leaseFence = fence)
  shape : ∀ r ∈ c.runs, r.leasedAtFence w.tenantId runId fence = true →
    (r.fail t failure (effectiveRetry maxRunAttempts row retryAt)).stateShape = true
  answer : c'.runRow w.tenantId runId = some new
  result_eq : c' = { c with
    outcomes := c.outcomes ++ [⟨w.tenantId, runId, fence,
      .failed failure (effectiveRetry maxRunAttempts row retryAt), t⟩]
    runs := updateWhere (ControlRun.leasedAtFence w.tenantId runId fence)
      (fun r => r.fail t failure (effectiveRetry maxRunAttempts row retryAt)) c.runs }

theorem failRun_ok {failure : Digest} {retryAt : Option Time}
    (h : failRun rsha maxRunAttempts c w runId k fence failure t retryAt = .ok (c', new)) :
    (new.state = .failed ∧ new.failureDigest = some failure
        ∧ new.retryAt = effectiveRetry maxRunAttempts new retryAt
        ∧ Replayed c w runId k fence new ∧ c' = c)
      ∨ ∃ row, Failed rsha maxRunAttempts c w runId k fence failure t retryAt row new c' := by
  simp only [failRun, requireClaimIdentity, requireCurrentLease, bind_eq_ok,
    require_eq_ok, expect_eq_ok, exists_const] at h
  obtain ⟨_, row, hrow, h⟩ := h
  split at h
  next hstate =>
    simp only [bind_eq_ok, require_eq_ok, pure_eq_ok, Prod.mk.injEq, exists_const] at h
    obtain ⟨⟨hfence, hfail, hretry⟩, hclaim, rfl, rfl⟩ := h
    exact Or.inl ⟨hstate, hfail, hretry, ⟨hrow, hfence, hclaim⟩, rfl⟩
  next =>
    simp only [insertOutcome, bind_eq_ok, require_eq_ok, expect_eq_ok, pure_eq_ok,
      Prod.mk.injEq, exists_const] at h
    obtain ⟨hlease, c₁, ⟨hguard, hfresh, rfl⟩, c₂, hupd, new', hnew, rfl, rfl⟩ := h
    obtain ⟨_, hshape, rfl⟩ := updateRuns_ok hupd
    exact Or.inr ⟨row, hrow, hlease, hguard, hfresh, hshape, hnew, rfl⟩

/-! ## Inserting runs -/

theorem insertRun_ok (h : insertRun rsha c q t = .ok (c', n)) :
    c.runGuard q t ∧ (((∃ r ∈ c.runs, r.runId = rsha (.runRequest q)) ∧ n = 0 ∧ c' = c)
      ∨ ((∀ r ∈ c.runs, r.runId ≠ rsha (.runRequest q)) ∧ n = 1
        ∧ (∀ r ∈ c.runs, ¬(r.request.tenantId = q.tenantId
          ∧ r.request.controlId = q.controlId
          ∧ r.request.deploymentOperationId = q.deploymentOperationId
          ∧ r.request.windowStart = q.windowStart ∧ r.request.windowEnd = q.windowEnd))
        ∧ c' = { c with runs := c.runs ++ [pendingRun (rsha (.runRequest q)) q t] })) := by
  simp only [insertRun, bind_eq_ok, require_eq_ok, exists_const] at h
  obtain ⟨hguard, h⟩ := h
  refine ⟨hguard, ?_⟩
  split at h
  next hex =>
    simp only [pure_eq_ok, Prod.mk.injEq] at h
    exact Or.inl ⟨hex, h.2.symm, h.1.symm⟩
  next hnex =>
    simp only [bind_eq_ok, require_eq_ok, pure_eq_ok, Prod.mk.injEq, exists_const] at h
    obtain ⟨hwindow, hc, hn⟩ := h
    exact Or.inr ⟨fun r hr he => hnex ⟨r, hr, he⟩, hn.symm, hwindow, hc.symm⟩

/-- What each single insert preserves, a whole materialization preserves. -/
theorem insertRuns_induction {maxNewRuns : Nat}
    (hstep : ∀ c q c' n, P c → insertRun rsha c q t = .ok (c', n) → P c') :
    ∀ (qs : List ControlRunRequest) {c c' : Catalog} {n n' : Nat}, P c →
      insertRuns rsha t maxNewRuns qs (c, n) = .ok (c', n') → P c'
  | [], c, c', n, n', hc, h => by
    simp only [insertRuns, pure_eq_ok, Prod.mk.injEq] at h
    exact h.1 ▸ hc
  | q :: qs, c, c', n, n', hc, h => by
    simp only [insertRuns, bind_eq_ok, require_eq_ok, exists_const] at h
    obtain ⟨⟨c₁, k⟩, hins, _, hrest⟩ := h
    exact insertRuns_induction hstep qs (hstep c q c₁ k hc hins) hrest

theorem materializeRow_ok {horizon : Time}
    {row : DeploymentHistory × Option Time} {acc acc' : Catalog × Nat}
    (h : materializeRow sha rsha horizon t limits row acc = .ok acc') :
    ∃ ends, dueWindowEnds row.1.configurationBytes row.1.appliedAt row.2 horizon
        limits.maxWindowsPerDeployment = .ok ends
      ∧ insertRuns rsha t limits.maxNewRuns (ends.map row.1.runRequest) acc = .ok acc' := by
  simp only [materializeRow, bind_eq_ok, require_eq_ok, mapError_eq_ok, exists_const] at h
  exact h.2

theorem materializeRows_induction {horizon : Time}
    (hstep : ∀ c q c' n, P c → insertRun rsha c q t = .ok (c', n) → P c') :
    ∀ (rows : List (DeploymentHistory × Option Time)) {c c' : Catalog} {n n' : Nat}, P c →
      materializeRows sha rsha horizon t limits rows (c, n) = .ok (c', n') → P c'
  | [], c, c', n, n', hc, h => by
    simp only [materializeRows, pure_eq_ok, Prod.mk.injEq] at h
    exact h.1 ▸ hc
  | row :: rows, c, c', n, n', hc, h => by
    simp only [materializeRows, bind_eq_ok] at h
    obtain ⟨⟨c₁, k⟩, hrow, hrest⟩ := h
    obtain ⟨ends, _, hins⟩ := materializeRow_ok hrow
    exact materializeRows_induction hstep rows (insertRuns_induction hstep _ hc hins) hrest

/-- The rule for materialization: prove one insert. -/
theorem materializeDueRuns_induction {now : Time} {through : Option Time}
    (hstep : ∀ c q c' n, P c → insertRun rsha c q now = .ok (c', n) → P c') (hc : P c)
    (h : materializeDueRuns sha rsha c now tenantId through limits = .ok (c', n)) : P c' := by
  simp only [materializeDueRuns, bind_eq_ok, require_eq_ok, exists_const] at h
  exact materializeRows_induction hstep _ hc h.2.2.2.2.2

/-! ## Every run is owed -/

/-- The request is a window on the schedule of deployment `h`, after its
application. -/
structure OwesRun (h : DeploymentHistory) (q : ControlRunRequest) : Prop where
  request : q = h.runRequest q.windowEnd
  enabled : h.configurationBytes.enabled = true
  aligned : (h.configurationBytes.schedule.intervalSeconds : Int) ∣ q.windowEnd
  after : h.appliedAt ≤ q.windowStart

/-- The trigger admits only owed windows. -/
theorem runGuard_owes (hc : HistoryInv sha rsha c) (h : c.runGuard q t) :
    ∃ x ∈ c.history, OwesRun x q ∧ q.dueAt ≤ t
      ∧ ∀ y ∈ c.history, SameControl y x → x.operationSequence < y.operationSequence →
        q.windowEnd ≤ y.appliedAt := by
  obtain ⟨x, hx, hten, hctl, hop, hseq, hrec, hrev, hdig, hpid, hpdig, hen, hafter, hwin,
    hdue, hmod, hnow, hlater⟩ := h
  obtain ⟨_, _, hcctl, hcpid, hcpdig⟩ := hc.configurations x hx
  have hstart : q.windowStart
      = q.windowEnd - x.configurationBytes.schedule.windowSeconds := by
    rw [← hwin]
    exact (Int.sub_sub_self ..).symm
  refine ⟨x, hx, ⟨?_, hen, Int.dvd_of_emod_eq_zero hmod, hafter⟩, hnow, ?_⟩
  · have heq : x.runRequest q.windowEnd
        = ⟨x.tenantId, x.configurationBytes.controlId, x.operationId, x.operationSequence,
          x.receiptDigest, x.configurationBytes.controlProfileId,
          x.configurationBytes.controlProfileDigest, x.revisionId, x.configurationDigest,
          q.windowEnd - x.configurationBytes.schedule.windowSeconds, q.windowEnd,
          q.windowEnd + x.configurationBytes.schedule.collectionLagSeconds⟩ := rfl
    rw [heq, hcctl, hcpid, hcpdig, hten, hctl, hop, hseq, hrec, hrev, hdig, hpid, hpdig,
      ← hstart, ← hdue]
  · intro y hy hs hlt
    by_contra hle
    exact hlater ⟨y, hy, hs.1, hs.2, hlt, Int.lt_of_not_ge hle⟩

structure RunsInv (rsha : RuntimeDocument → Digest) (c : Catalog) : Prop where
  runIds : (c.runs.map (·.runId)).Nodup
  requests : ∀ r ∈ c.runs, r.runId = rsha (.runRequest r.request)
  owed : ∀ r ∈ c.runs, ∃ h ∈ c.history, OwesRun h r.request

/-- A run is found again by its identity columns. -/
theorem mem_of_identities
    (hids : c'.runs.map (·.toControlRunIdentity) = c.runs.map (·.toControlRunIdentity))
    {r' : ControlRun} (hr' : r' ∈ c'.runs) :
    ∃ r ∈ c.runs, r.toControlRunIdentity = r'.toControlRunIdentity := by
  have hmem : r'.toControlRunIdentity ∈ c.runs.map (·.toControlRunIdentity) :=
    hids ▸ List.mem_map_of_mem hr'
  exact List.mem_map.mp hmem

/-- The invariant reads only the identity columns, and history only grows. -/
theorem RunsInv.of_identities (hc : RunsInv rsha c)
    (hids : c'.runs.map (·.toControlRunIdentity) = c.runs.map (·.toControlRunIdentity))
    (hhist : ∀ h ∈ c.history, h ∈ c'.history) : RunsInv rsha c' := by
  refine ⟨?_, ?_, ?_⟩
  · have hmap : ∀ l : List ControlRun, l.map (·.runId)
        = (l.map (·.toControlRunIdentity)).map ControlRunIdentity.runId := by
      intro l
      rw [List.map_map]
      rfl
    rw [hmap, hids, ← hmap]
    exact hc.runIds
  · intro r' hr'
    obtain ⟨r, hr, heq⟩ := mem_of_identities hids hr'
    have h := hc.requests r hr
    rw [heq] at h
    exact h
  · intro r' hr'
    obtain ⟨r, hr, heq⟩ := mem_of_identities hids hr'
    obtain ⟨x, hx, howes⟩ := hc.owed r hr
    rw [heq] at howes
    exact ⟨x, hhist x hx, howes⟩

theorem insertRun_runsInv (hh : HistoryInv sha rsha c) (hc : RunsInv rsha c)
    (h : insertRun rsha c q t = .ok (c', n)) : RunsInv rsha c' := by
  obtain ⟨hguard, ⟨_, _, rfl⟩ | ⟨hfresh, _, _, rfl⟩⟩ := insertRun_ok h
  · exact hc
  · obtain ⟨x, hx, howes, _⟩ := runGuard_owes hh hguard
    refine ⟨append_keys hc.runIds hfresh, ?_, ?_⟩
    · intro r hr
      rcases List.mem_append.mp hr with hr | hr
      · exact hc.requests r hr
      · rw [List.mem_singleton] at hr
        rw [hr]
        rfl
    · intro r hr
      rcases List.mem_append.mp hr with hr | hr
      · exact hc.owed r hr
      · rw [List.mem_singleton] at hr
        rw [hr]
        exact ⟨x, hx, howes⟩

/-- The tables a call on runs never touches. -/
structure SameDeployments (c c' : Catalog) : Prop where
  history : c'.history = c.history
  fences : c'.fences = c.fences
  current : c'.current = c.current

theorem SameDeployments.trans {c₁ c₂ c₃ : Catalog} (h : SameDeployments c₁ c₂)
    (h' : SameDeployments c₂ c₃) : SameDeployments c₁ c₃ :=
  ⟨h'.history.trans h.history, h'.fences.trans h.fences, h'.current.trans h.current⟩

theorem insertRun_same (h : insertRun rsha c q t = .ok (c', n)) : SameDeployments c c' := by
  obtain ⟨_, ⟨_, _, rfl⟩ | ⟨_, _, _, rfl⟩⟩ := insertRun_ok h <;> exact ⟨rfl, rfl, rfl⟩

/-- Both invariants of the catalog. -/
structure CatalogInv (sha : Document → Digest) (rsha : RuntimeDocument → Digest)
    (c : Catalog) : Prop where
  deployments : HistoryInv sha rsha c
  runs : RunsInv rsha c

theorem catalogInv_empty : CatalogInv sha rsha Catalog.empty := by
  refine ⟨historyInv_empty, ⟨List.nodup_nil, ?_, ?_⟩⟩
  · intro r hr
    cases hr
  · intro r hr
    cases hr

theorem CatalogInv.of_identities (hc : CatalogInv sha rsha c) (hsame : SameDeployments c c')
    (hids : c'.runs.map (·.toControlRunIdentity) = c.runs.map (·.toControlRunIdentity)) :
    CatalogInv sha rsha c' :=
  ⟨hc.deployments.of_eq hsame.history hsame.fences hsame.current,
    hc.runs.of_identities hids fun _ hh => hsame.history ▸ hh⟩

theorem insertRun_inv (hc : CatalogInv sha rsha c) (h : insertRun rsha c q t = .ok (c', n)) :
    CatalogInv sha rsha c' := by
  have hsame := insertRun_same h
  exact ⟨hc.deployments.of_eq hsame.history hsame.fences hsame.current,
    insertRun_runsInv hc.deployments hc.runs h⟩

theorem ensureApplied_inv {q : DeploymentApplyRequest}
    {ack : DeploymentTargetAcknowledgement} (hc : CatalogInv sha rsha c)
    (h : ensureApplied sha rsha c q t = .ok (c', ack)) : CatalogInv sha rsha c' := by
  refine ⟨ensureApplied_historyInv hc.deployments h, ?_⟩
  rcases ensureApplied_ok h with ⟨existing, hre⟩ | ⟨row, happ⟩
  · rw [hre.frame]
    exact hc.runs.of_identities rfl fun _ hx => hx
  · rw [happ.frame]
    refine hc.runs.of_identities rfl ?_
    intro x hx
    show x ∈ c'.history
    rw [happ.history]
    exact List.mem_append_left _ hx

/-! ## Lease calls keep identities -/

theorem lease_same {row : ControlRun}
    (h : Claimed maxRunAttempts c w k t n row new c') : SameDeployments c c'
      ∧ c'.runs.map (·.toControlRunIdentity) = c.runs.map (·.toControlRunIdentity) := by
  rw [h.result]
  exact ⟨⟨rfl, rfl, rfl⟩, map_updateWhere fun _ => rfl⟩

theorem terminalize_same (h : terminalizeExhaustedLease rsha maxRunAttempts c tenantId t = .ok c') :
    SameDeployments c c'
      ∧ c'.runs.map (·.toControlRunIdentity) = c.runs.map (·.toControlRunIdentity) := by
  rcases terminalize_ok h with rfl | ⟨row, h⟩
  · exact ⟨⟨rfl, rfl, rfl⟩, rfl⟩
  · rw [h.result]
    exact ⟨⟨rfl, rfl, rfl⟩, map_updateWhere fun _ => rfl⟩

theorem claimNextRun_same {ans : Option ControlRun}
    (h : claimNextRun rsha maxRunAttempts c w k t n = .ok (c', ans)) :
    SameDeployments c c'
      ∧ c'.runs.map (·.toControlRunIdentity) = c.runs.map (·.toControlRunIdentity) := by
  obtain ⟨c₁, hterm, ⟨_, rfl⟩ | ⟨row, new, _, hclaim⟩⟩ := claimNextRun_ok h
  · exact terminalize_same hterm
  · obtain ⟨h₁, h₂⟩ := terminalize_same hterm
    obtain ⟨h₃, h₄⟩ := lease_same hclaim
    exact ⟨h₁.trans h₃, h₄.trans h₂⟩

theorem completeRun_same (h : completeRun rsha c w runId k fence result t = .ok (c', new)) :
    SameDeployments c c'
      ∧ c'.runs.map (·.toControlRunIdentity) = c.runs.map (·.toControlRunIdentity) := by
  obtain ⟨_, ⟨_, _, _, _, rfl⟩ | ⟨row, hdone⟩⟩ := completeRun_ok h
  · exact ⟨⟨rfl, rfl, rfl⟩, rfl⟩
  · rw [hdone.result_eq]
    exact ⟨⟨rfl, rfl, rfl⟩, map_updateWhere fun _ => rfl⟩

theorem failRun_same {failure : Digest} {retryAt : Option Time}
    (h : failRun rsha maxRunAttempts c w runId k fence failure t retryAt = .ok (c', new)) :
    SameDeployments c c'
      ∧ c'.runs.map (·.toControlRunIdentity) = c.runs.map (·.toControlRunIdentity) := by
  rcases failRun_ok h with ⟨_, _, _, _, rfl⟩ | ⟨row, hdone⟩
  · exact ⟨⟨rfl, rfl, rfl⟩, rfl⟩
  · rw [hdone.result_eq]
    exact ⟨⟨rfl, rfl, rfl⟩, map_updateWhere fun _ => rfl⟩

/-- What holds before a transaction and after its commit holds after it. -/
theorem committed_induction {ε α : Type}
    {x : Except ε (Catalog × α)} (hc : P c) (hok : ∀ c' a, x = .ok (c', a) → P c') :
    P (committed c x) := by
  cases x with
  | ok r => exact hok r.1 r.2 rfl
  | error e => exact hc

theorem registerControlProfile_ok {p : ControlProfileKey}
    (h : registerControlProfile c p = .ok c') :
    c' = { c with profiles := c'.profiles } := by
  unfold registerControlProfile at h
  split at h
  next =>
    simp only [bind_eq_ok, require_eq_ok, pure_eq_ok, exists_const] at h
    obtain ⟨_, rfl⟩ := h
    rfl
  next =>
    rw [pure_eq_ok] at h
    rw [← h]

/-- The calls that touch neither the deployment tables nor the identity of a
run. -/
def CatalogCall.keepsDeployments : CatalogCall → Bool
  | .ensureApplied .. | .materialize .. => false
  | .registerProfile .. | .claim .. | .complete .. | .fail .. => true

theorem next_same {call : CatalogCall} (hkeep : call.keepsDeployments = true) :
    SameDeployments c (call.next sha rsha maxRunAttempts c)
      ∧ (call.next sha rsha maxRunAttempts c).runs.map (·.toControlRunIdentity)
        = c.runs.map (·.toControlRunIdentity) := by
  let P : Catalog → Prop := fun c' => SameDeployments c c'
    ∧ c'.runs.map (·.toControlRunIdentity) = c.runs.map (·.toControlRunIdentity)
  have hself : P c := ⟨⟨rfl, rfl, rfl⟩, rfl⟩
  cases call with
  | ensureApplied q t => cases hkeep
  | materialize now tenant through limits => cases hkeep
  | registerProfile p =>
    refine committed_induction (P := P) hself ?_
    intro c' a h
    cases hreg : registerControlProfile c p with
    | error e => simp [hreg, Except.map] at h
    | ok c₁ =>
      simp only [hreg, Except.map, Except.ok.injEq, Prod.mk.injEq] at h
      rw [← h.1, registerControlProfile_ok hreg]
      exact ⟨⟨rfl, rfl, rfl⟩, rfl⟩
  | claim w k t n =>
    exact committed_induction (P := P) hself fun _ _ h => claimNextRun_same h
  | complete w r k f result t =>
    exact committed_induction (P := P) hself fun _ _ h => completeRun_same h
  | fail w r k f d t retryAt =>
    exact committed_induction (P := P) hself fun _ _ h => failRun_same h

/-- Only `ensure_applied` touches the deployment tables. -/
theorem next_deployments {call : CatalogCall} (h : ∀ q t, call ≠ .ensureApplied q t) :
    SameDeployments c (call.next sha rsha maxRunAttempts c) := by
  by_cases hkeep : call.keepsDeployments = true
  · exact (next_same hkeep).1
  · cases call with
    | ensureApplied q t => exact absurd rfl (h q t)
    | materialize now tenant through limits =>
      refine committed_induction (P := SameDeployments c) ⟨rfl, rfl, rfl⟩ fun _ _ h => ?_
      exact materializeDueRuns_induction (P := SameDeployments c)
        (fun _ _ _ _ hc h => hc.trans (insertRun_same h)) ⟨rfl, rfl, rfl⟩ h
    | registerProfile p => exact absurd rfl hkeep
    | claim w k t n => exact absurd rfl hkeep
    | complete w r k f result t => exact absurd rfl hkeep
    | fail w r k f d t retryAt => exact absurd rfl hkeep

/-- One call keeps the invariant. -/
theorem next_inv (hc : CatalogInv sha rsha c) (call : CatalogCall) :
    CatalogInv sha rsha (call.next sha rsha maxRunAttempts c) := by
  by_cases hkeep : call.keepsDeployments = true
  · obtain ⟨h₁, h₂⟩ := next_same (c := c) hkeep
    exact hc.of_identities h₁ h₂
  · cases call with
    | ensureApplied q t =>
      exact committed_induction (P := CatalogInv sha rsha) hc fun _ _ h =>
        ensureApplied_inv hc h
    | materialize now tenant through limits =>
      exact committed_induction (P := CatalogInv sha rsha) hc fun _ _ h =>
        materializeDueRuns_induction (fun _ _ _ _ h => insertRun_inv h) hc h
    | registerProfile p => exact absurd rfl hkeep
    | claim w k t n => exact absurd rfl hkeep
    | complete w r k f result t => exact absurd rfl hkeep
    | fail w r k f d t retryAt => exact absurd rfl hkeep

theorem catalogAfter_concat (calls : List CatalogCall) (call : CatalogCall) :
    catalogAfter sha rsha maxRunAttempts (calls ++ [call])
      = call.next sha rsha maxRunAttempts (catalogAfter sha rsha maxRunAttempts calls) :=
  List.foldl_concat ..

theorem catalogAfter_inv (calls : List CatalogCall) :
    CatalogInv sha rsha (catalogAfter sha rsha maxRunAttempts calls) := by
  have hfold : ∀ (calls : List CatalogCall) (c : Catalog), CatalogInv sha rsha c →
      CatalogInv sha rsha
        (calls.foldl (fun c call => call.next sha rsha maxRunAttempts c) c) := by
    intro calls
    induction calls with
    | nil => exact fun _ hc => hc
    | cons call calls ih => exact fun c hc => ih _ (next_inv hc call)
  exact hfold calls _ catalogInv_empty

end ControlAssurance.Runtime
