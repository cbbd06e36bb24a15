import ControlAssurance.Runtime.RunLeases

/-!
# What the lease protocol of control runs promises

`RunLeases` collects it: how claims, fences and attempts count, who may record an
outcome, that a run succeeds at most once with a closure document of its own,
that a closed run never changes, and how a repeated `complete_run` or `fail_run`
is answered. A repetition is told by its claim (tenant, worker, token and fence)
and by what it reports; its time and the worker's credential are not compared.
-/

namespace ControlAssurance.Runtime

open Lib Lib.FencedLease ControlPlane

variable {sha : Document → Digest} {rsha : RuntimeDocument → Digest} {maxRunAttempts : Nat}

/-! ## Who records an outcome -/

/-- The call recorded `o` for the current claim `k` of a leased run: its holder in
its time, or, at the attempt limit, another worker after its time. -/
structure RecordedBy (maxRunAttempts : Nat) (c : Catalog) (call : CatalogCall)
    (o : ControlRunOutcome) (r : ControlRun) (k : ControlRunClaim) : Prop where
  run : r ∈ c.runs ∧ r.state = .leased
  claim : k ∈ c.claims
  current : o.tenantId = r.request.tenantId ∧ o.runId = r.runId
    ∧ o.leaseFence = r.leaseFence ∧ k.key = o.key
  caller : match call with
    | .complete w runId token fence _ t | .fail w runId token fence _ t _ =>
      w.tenantId = k.tenantId ∧ runId = k.runId ∧ w.workerId = k.workerId
        ∧ token = k.leaseTokenDigest ∧ fence = k.leaseFence ∧ t = o.recordedAt
        ∧ t < k.leaseExpiresAt
    | .claim w _ t _ =>
      w.tenantId = k.tenantId ∧ t = o.recordedAt ∧ k.leaseExpiresAt ≤ t
        ∧ r.attemptCount = maxRunAttempts ∧ ∃ d, o.outcome = .failed d none
    | _ => False

variable {c c' : Catalog} {w : RuntimeWorkerIdentity} {k runId token : Digest} {t : Time} {f : Nat}
  {new : ControlRun} {retryAt : Option Time}

variable {fence : Nat} {row : ControlRun} {result : ControlRunExecutionResult}

/-- The claim row of the lease a closing call showed. -/
theorem RunTracked.current_claim (hc : RunTracked rsha maxRunAttempts c)
    (hrow : c.runRow w.tenantId runId = some row)
    (hlease : row.state = .leased ∧ row.leaseOwner = some w.workerId
      ∧ row.leaseTokenDigest = some token ∧ row.leaseFence = fence
      ∧ sqlLt (some t) row.leaseExpiresAt = true) :
    ∃ k, c.claimRow w.tenantId runId fence = some k ∧ k.workerId = w.workerId
      ∧ k.leaseTokenDigest = token ∧ t < k.leaseExpiresAt := by
  obtain ⟨hleased, howner, htoken, rfl, hlive⟩ := hlease
  obtain ⟨hmem, hten, hid⟩ := runRow_some hrow
  obtain ⟨_, g, hg, howner', htoken', _, hexp⟩ := leased_grant (hc.shapes row hmem) hleased
  obtain ⟨k, hk, hkg, _⟩ := hc.leased_claim hmem hg
  rw [hten, hid] at hk
  refine ⟨k, hk, ?_, ?_, ?_⟩
  · have hgo : g.owner = k.workerId := by rw [← hkg]; rfl
    rw [howner', Option.some.injEq] at howner
    rw [← hgo, howner]
  · have hgt : g.token = k.leaseTokenDigest := by rw [← hkg]; rfl
    rw [htoken', Option.some.injEq] at htoken
    rw [← hgt, htoken]
  · have hge : g.expires = k.leaseExpiresAt := by rw [← hkg]; rfl
    rw [hexp, sqlLt_some, hge] at hlive
    exact hlive

theorem claimRow_key {tenantId : String}
    {k : ControlRunClaim} (hk : c.claimRow tenantId runId f = some k) :
    k.key = (tenantId, runId, f) := by
  obtain ⟨_, h₁, h₂, h₃⟩ := claimRow_some hk
  unfold ControlRunClaim.key
  rw [h₁, h₂, h₃]

theorem terminalized_recorded (token : Digest) (n : Nat) (hc : RunTracked rsha maxRunAttempts c)
    (h : Terminalized rsha maxRunAttempts c w.tenantId t row c') :
    ∃ k, RecordedBy maxRunAttempts c (.claim w token t n)
      (exhaustedOutcome rsha w.tenantId t row) row k := by
  obtain ⟨hten, hleased, hover, hlimit⟩ := exhausted_iff.mp h.exhausted
  obtain ⟨_, g, hg, _, _, _, hexp⟩ := leased_grant (hc.shapes row h.mem) hleased
  obtain ⟨k, hk, hkg, _⟩ := hc.leased_claim h.mem hg
  obtain ⟨hmem, hkt, _⟩ := claimRow_some hk
  refine ⟨k, ⟨h.mem, hleased⟩, hmem, ⟨hten.symm, rfl, rfl, ?_⟩, ?_⟩
  · rw [claimRow_key hk, hten]
    rfl
  · have hge : g.expires = k.leaseExpiresAt := by rw [← hkg]; rfl
    rw [hexp, sqlLe_some, hge] at hover
    exact ⟨(hkt.trans hten).symm, rfl, hover, Nat.le_antisymm (hc.bounded row h.mem) hlimit,
      _, rfl⟩

theorem completed_recorded (hc : RunTracked rsha maxRunAttempts c)
    (h : Completed rsha c w runId token fence result t row new c') :
    ∃ o k, c'.outcomes = c.outcomes ++ [o] ∧
      RecordedBy maxRunAttempts c (.complete w runId token fence result t) o row k := by
  obtain ⟨k, hk, howner, htoken, hlive⟩ := hc.current_claim h.row_eq h.lease
  obtain ⟨hmem, hten, hid⟩ := runRow_some h.row_eq
  obtain ⟨hkm, hkt, hkr, hkf⟩ := claimRow_some hk
  exact ⟨_, k, (completed_closing hc h).outcomes, ⟨hmem, h.lease.1⟩, hkm,
    ⟨hten.symm, hid.symm, h.lease.2.2.2.1.symm, claimRow_key hk⟩, hkt.symm, hkr.symm,
    howner.symm, htoken.symm, hkf.symm, rfl, hlive⟩

theorem failed_recorded {failure : Digest} (hc : RunTracked rsha maxRunAttempts c)
    (h : Failed rsha maxRunAttempts c w runId token fence failure t retryAt row new c') :
    ∃ o k, c'.outcomes = c.outcomes ++ [o] ∧
      RecordedBy maxRunAttempts c (.fail w runId token fence failure t retryAt) o row k := by
  obtain ⟨k, hk, howner, htoken, hlive⟩ := hc.current_claim h.row_eq h.lease
  obtain ⟨hmem, hten, hid⟩ := runRow_some h.row_eq
  obtain ⟨hkm, hkt, hkr, hkf⟩ := claimRow_some hk
  exact ⟨_, k, (failed_closing hc h).outcomes, ⟨hmem, h.lease.1⟩, hkm,
    ⟨hten.symm, hid.symm, h.lease.2.2.2.1.symm, claimRow_key hk⟩, hkt.symm, hkr.symm,
    howner.symm, htoken.symm, hkf.symm, rfl, hlive⟩

/-- Every new outcome row was recorded for the current claim of its run. -/
theorem next_recorded (hc : RunTracked rsha maxRunAttempts c)
    (call : CatalogCall) {o : ControlRunOutcome}
    (ho : o ∈ (call.next sha rsha maxRunAttempts c).outcomes) :
    o ∈ c.outcomes ∨ ∃ r k, RecordedBy maxRunAttempts c call o r k := by
  have hadded : ∀ {c' : Catalog} {o' : ControlRunOutcome} {r k},
      c'.outcomes = c.outcomes ++ [o'] → RecordedBy maxRunAttempts c call o' r k →
      o ∈ c'.outcomes → o ∈ c.outcomes ∨ ∃ r k, RecordedBy maxRunAttempts c call o r k := by
    intro c' o' r k houts hrec hmem
    rw [houts, List.mem_append, List.mem_singleton] at hmem
    rcases hmem with hmem | rfl
    · exact Or.inl hmem
    · exact Or.inr ⟨r, k, hrec⟩
  let P : Catalog → Prop := fun c' => o ∈ c'.outcomes →
    o ∈ c.outcomes ∨ ∃ r k, RecordedBy maxRunAttempts c call o r k
  revert ho
  show P (call.next sha rsha maxRunAttempts c)
  refine next_induction (P := P) call Or.inl (fun c' _ _ houts => ?_) (fun _ _ _ h _ => h) ?_
    (fun _ _ _ _ _ _ _ _ h hclaimed => ?_) ?_ ?_
  · show o ∈ c'.outcomes → _
    rw [houts]
    exact Or.inl
  · rintro w k t n row c' rfl hrow
    obtain ⟨x, hrec⟩ := terminalized_recorded k n hc hrow
    exact hadded (terminalized_closing hc hrow).outcomes hrec
  · rw [hclaimed.result]
    exact h
  · rintro w runId k f result t row new c' rfl hdone
    obtain ⟨_, _, houts, hrec⟩ := completed_recorded hc hdone
    exact hadded houts hrec
  · rintro w runId k f d t retryAt row new c' rfl hdone
    obtain ⟨_, _, houts, hrec⟩ := failed_recorded hc hdone
    exact hadded houts hrec

/-! ## Repeated calls -/

/-- A first closing call leaves what a repetition is answered from. -/
theorem closed_replayed {o : ControlRunOutcome} {old : ControlRun}
    (hc : RunTracked rsha maxRunAttempts c) (hclose : Closing rsha c o old row c')
    (hrow : c.runRow w.tenantId runId = some old)
    (hlease : old.state = .leased ∧ old.leaseOwner = some w.workerId
      ∧ old.leaseTokenDigest = some k ∧ old.leaseFence = fence
      ∧ sqlLt (some t) old.leaseExpiresAt = true)
    (hanswer : c'.runRow w.tenantId runId = some new) :
    new = row ∧ Replayed c' w runId k fence new := by
  obtain ⟨x, hx, howner, htoken, _⟩ := hc.current_claim hrow hlease
  obtain ⟨hmem, _, hid⟩ := runRow_some hanswer
  obtain ⟨_, _, hidrow⟩ := runRow_some hrow
  rcases (hclose.row.rows new).mp hmem with rfl | ⟨_, hne⟩
  · refine ⟨rfl, hanswer, hclose.counts.1.trans hlease.2.2.2.1, x, ?_, howner, htoken⟩
    unfold Catalog.claimRow at hx ⊢
    rw [hclose.claims, hx]
  · exact absurd (hid.trans hidrow.symm) hne

theorem completed_replayed (hc : RunTracked rsha maxRunAttempts c)
    (h : completeRun rsha c w runId k fence result t = .ok (c', new)) :
    new.state = .succeeded ∧ new.evidenceDigest = some result.evidenceDigest
      ∧ new.executorReceiptDigest = some result.executorReceiptDigest
      ∧ Replayed c' w runId k fence new := by
  obtain ⟨_, ⟨hstate, hev, hrec, hreplay, rfl⟩ | ⟨row, hdone⟩⟩ := completeRun_ok h
  · exact ⟨hstate, hev, hrec, hreplay⟩
  · obtain ⟨rfl, hreplay⟩ :=
      closed_replayed hc (completed_closing hc hdone) hdone.row_eq hdone.lease hdone.answer
    exact ⟨rfl, rfl, rfl, hreplay⟩

theorem failed_replayed {failure : Digest} (hc : RunTracked rsha maxRunAttempts c)
    (h : failRun rsha maxRunAttempts c w runId k fence failure t retryAt = .ok (c', new)) :
    new.state = .failed ∧ new.failureDigest = some failure
      ∧ new.retryAt = effectiveRetry maxRunAttempts new retryAt
      ∧ Replayed c' w runId k fence new := by
  rcases failRun_ok h with ⟨hstate, hfail, hretry, hreplay, rfl⟩ | ⟨row, hdone⟩
  · exact ⟨hstate, hfail, hretry, hreplay⟩
  · obtain ⟨rfl, hreplay⟩ :=
      closed_replayed hc (failed_closing hc hdone) hdone.row_eq hdone.lease hdone.answer
    exact ⟨rfl, rfl, rfl, hreplay⟩

/-- What a repetition is answered from stays there while the row does. -/
theorem replayed_later (hc' : RunTracked rsha maxRunAttempts c')
    (h : Relation.ReflTransGen (RunStep rsha maxRunAttempts) c c')
    (hr : Replayed c w runId k fence row) (hmem : row ∈ c'.runs) :
    Replayed c' w runId k fence row := by
  obtain ⟨_, hten, hid⟩ := runRow_some hr.row_eq
  obtain ⟨x, hx, hxw, hxk⟩ := hr.claim
  have hrow := hc'.runRow_eq hmem
  rw [hten, hid] at hrow
  exact ⟨hrow, hr.fence_eq, x, steps_claimRow h hx, hxw, hxk⟩

/-- Two claim holders the tables cannot tell apart. -/
structure SameClaim (w w' : RuntimeWorkerIdentity) (k k' : Digest) (f f' : Nat) : Prop where
  tenant : w'.tenantId = w.tenantId
  worker : w'.workerId = w.workerId
  token : k' = k
  fence : f' = f

theorem Replayed.of_same {w' : RuntimeWorkerIdentity} {k' : Digest} {f' : Nat}
    (h : Replayed c w runId k f row) (hsame : SameClaim w w' k k' f f') :
    Replayed c w' runId k' f' row := by
  obtain ⟨hten, hwk, rfl, rfl⟩ := hsame
  obtain ⟨hrow, hfence, x, hx, hxw, hxk⟩ := h
  exact ⟨hten.symm ▸ hrow, hfence, x, hten.symm ▸ hx, hxw.trans hwk.symm, hxk⟩

/-- A run id names one row, whatever the tenant that asks for it. -/
theorem RunTracked.runRow_unique {tenantId tenantId' : String} {row' : ControlRun}
    (hc : RunTracked rsha maxRunAttempts c) (h : c.runRow tenantId runId = some row)
    (h' : c.runRow tenantId' runId = some row') : row' = row := by
  obtain ⟨hmem, _, hid⟩ := runRow_some h
  obtain ⟨hmem', _, hid'⟩ := runRow_some h'
  exact List.inj_on_of_nodup_map hc.runIds hmem' hmem (hid'.trans hid.symm)

theorem replayed_same {w' : RuntimeWorkerIdentity} {k' : Digest}
    {f' : Nat} {row' : ControlRun} (hc : RunTracked rsha maxRunAttempts c)
    (h : Replayed c w runId k f row) (h' : Replayed c w' runId k' f' row') :
    row' = row ∧ SameClaim w w' k k' f f' := by
  obtain ⟨_, hten, _⟩ := runRow_some h.row_eq
  obtain ⟨_, hten', _⟩ := runRow_some h'.row_eq
  have heq : row' = row := hc.runRow_unique h.row_eq h'.row_eq
  have htenant : w'.tenantId = w.tenantId := by rw [← hten', ← hten, heq]
  have hfence : f' = f := by rw [← h'.fence_eq, ← h.fence_eq, heq]
  obtain ⟨x, hx, hxw, hxk⟩ := h.claim
  obtain ⟨x', hx', hxw', hxk'⟩ := h'.claim
  rw [htenant, hfence, hx, Option.some.injEq] at hx'
  exact ⟨heq, htenant, by rw [← hxw', ← hxw, hx'], by rw [← hxk', ← hxk, hx'], hfence⟩

/-- A completion of a succeeded run is answered to its own claim holder with its
own result, whatever the time, and refused otherwise. -/
theorem completeRun_again (hc : RunTracked rsha maxRunAttempts c) (h : Replayed c w runId k f row)
    (hstate : row.state = .succeeded) (hev : row.evidenceDigest = some result.evidenceDigest)
    (hre : row.executorReceiptDigest = some result.executorReceiptDigest)
    (hresult : result.runId = runId ∧ result.leaseFence = f)
    (w' : RuntimeWorkerIdentity) (k' : Digest) (f' : Nat)
    (result' : ControlRunExecutionResult) (t' : Time) :
    (SameClaim w w' k k' f f' ∧ result' = result →
      completeRun rsha c w' runId k' f' result' t' = .ok (c, row))
    ∧ (¬(SameClaim w w' k k' f f' ∧ result' = result) →
      ∃ e, completeRun rsha c w' runId k' f' result' t' = .error e) := by
  constructor
  · rintro ⟨hsame, rfl⟩
    obtain ⟨hrow', hfence, hclaim⟩ := h.of_same hsame
    obtain ⟨-, -, rfl, rfl⟩ := hsame
    simp only [completeRun, requireClaimIdentity, require_pos hresult, ok_bind, expect, hrow',
      if_pos hstate, require_pos (And.intro hfence (And.intro hev hre)), require_pos hclaim]
    rfl
  · intro hdiff
    cases hres : completeRun rsha c w' runId k' f' result' t' with
    | error e => exact ⟨e, rfl⟩
    | ok ans =>
      exfalso
      obtain ⟨c', new⟩ := ans
      obtain ⟨hresult', ⟨_, hev', hre', hreplay, _⟩ | ⟨row', hdone⟩⟩ := completeRun_ok hres
      · obtain ⟨heq, hsame⟩ := replayed_same hc h hreplay
        rw [heq, hev, Option.some.injEq] at hev'
        rw [heq, hre, Option.some.injEq] at hre'
        apply hdiff
        refine ⟨hsame, ?_⟩
        obtain ⟨r₁, f₁, e₁, x₁⟩ := result
        obtain ⟨r₂, f₂, e₂, x₂⟩ := result'
        have h₁ : r₂ = r₁ := hresult'.1.trans hresult.1.symm
        have h₂ : f₂ = f₁ := hresult'.2.trans (hsame.fence.trans hresult.2.symm)
        have h₃ : e₁ = e₂ := hev'
        have h₄ : x₁ = x₂ := hre'
        rw [h₁, h₂, h₃, h₄]
      · have hleased := hdone.lease.1
        rw [hc.runRow_unique h.row_eq hdone.row_eq, hstate] at hleased
        cases hleased

/-- A failure of a failed run is answered to its own claim holder with its own
failure and retry time, whatever the time, and refused otherwise. -/
theorem failRun_again {failure : Digest}
    (hc : RunTracked rsha maxRunAttempts c) (h : Replayed c w runId k f row)
    (hstate : row.state = .failed) (hfail : row.failureDigest = some failure)
    (w' : RuntimeWorkerIdentity) (k' : Digest) (f' : Nat) (failure' : Digest) (t' : Time)
    (retryAt' : Option Time) (hretry' : ∀ x, retryAt' = some x → t' < x) :
    (SameClaim w w' k k' f f' ∧ failure' = failure
        ∧ row.retryAt = effectiveRetry maxRunAttempts row retryAt' →
      failRun rsha maxRunAttempts c w' runId k' f' failure' t' retryAt' = .ok (c, row))
    ∧ (¬(SameClaim w w' k k' f f' ∧ failure' = failure
        ∧ row.retryAt = effectiveRetry maxRunAttempts row retryAt') →
      ∃ e, failRun rsha maxRunAttempts c w' runId k' f' failure' t' retryAt' = .error e) := by
  constructor
  · rintro ⟨hsame, rfl, hretry⟩
    obtain ⟨hrow', hfence, hclaim⟩ := h.of_same hsame
    obtain ⟨-, -, rfl, rfl⟩ := hsame
    simp only [failRun, requireClaimIdentity, require_pos hretry', ok_bind, expect, hrow',
      if_pos hstate, require_pos (And.intro hfence (And.intro hfail hretry)),
      require_pos hclaim]
    rfl
  · intro hdiff
    cases hres : failRun rsha maxRunAttempts c w' runId k' f' failure' t' retryAt' with
    | error e => exact ⟨e, rfl⟩
    | ok ans =>
      exfalso
      obtain ⟨c', new⟩ := ans
      rcases failRun_ok hres with ⟨_, hfail', hretry, hreplay, _⟩ | ⟨row', hdone⟩
      · obtain ⟨heq, hsame⟩ := replayed_same hc h hreplay
        rw [heq, hfail, Option.some.injEq] at hfail'
        rw [heq] at hretry
        exact hdiff ⟨hsame, hfail'.symm, hretry⟩
      · have hleased := hdone.lease.1
        rw [hc.runRow_unique h.row_eq hdone.row_eq, hstate] at hleased
        cases hleased

/-- Once the run was claimed again, nothing is recorded under the old fence. -/
theorem failRun_stale
    (hc : RunTracked rsha maxRunAttempts c) (hrow : row ∈ c.runs) (hid : row.runId = runId)
    (hlt : f < row.leaseFence) (w : RuntimeWorkerIdentity) (k failure : Digest) (t : Time)
    (retryAt : Option Time) :
    ∃ e, failRun rsha maxRunAttempts c w runId k f failure t retryAt = .error e := by
  cases hres : failRun rsha maxRunAttempts c w runId k f failure t retryAt with
  | error e => exact ⟨e, rfl⟩
  | ok ans =>
    exfalso
    obtain ⟨c', new⟩ := ans
    have hfence : ∃ x ∈ c.runs, x.runId = runId ∧ x.leaseFence = f := by
      rcases failRun_ok hres with ⟨_, _, _, hreplay, _⟩ | ⟨x, hdone⟩
      · obtain ⟨hmem, _, hx⟩ := runRow_some hreplay.row_eq
        exact ⟨_, hmem, hx, hreplay.fence_eq⟩
      · obtain ⟨hmem, _, hx⟩ := runRow_some hdone.row_eq
        exact ⟨x, hmem, hx, hdone.lease.2.2.2.1⟩
    obtain ⟨x, hx, hxid, hxf⟩ := hfence
    have heq : x = row := List.inj_on_of_nodup_map hc.runIds hx hrow (hxid.trans hid.symm)
    rw [heq] at hxf
    omega

/-! ## The protocol -/

def RunOutcome.isSuccess : RunOutcome → Bool
  | .succeeded .. => true
  | .failed .. => false

/-- The lease protocol of control runs in one state of the catalog. -/
structure RunLeases (sha : Document → Digest) (rsha : RuntimeDocument → Digest)
    (maxRunAttempts : Nat) (c : Catalog) : Prop where
  runIds : (c.runs.map (·.runId)).Nodup
  attempts : ∀ r ∈ c.runs, r.attemptCount = r.leaseFence
    ∧ (c.claims.filter fun k =>
        decide (k.tenantId = r.request.tenantId ∧ k.runId = r.runId)).length = r.leaseFence
    ∧ r.attemptCount ≤ maxRunAttempts
  one_outcome : ∀ k ∈ c.claims,
    (c.outcomes.filter fun o => decide (o.key = k.key)).length ≤ 1
  claimed_outcome : ∀ o ∈ c.outcomes, ∃ k ∈ c.claims, k.key = o.key
  /-- an outcome is recorded for the current claim only -/
  recorded : ∀ call, ∀ o ∈ (CatalogCall.next sha rsha maxRunAttempts c call).outcomes,
    o ∈ c.outcomes ∨ ∃ r k, RecordedBy maxRunAttempts c call o r k
  one_success : ∀ r ∈ c.runs, (c.outcomes.filter fun o =>
    decide (o.tenantId = r.request.tenantId ∧ o.runId = r.runId
      ∧ o.outcome.isSuccess = true)).length ≤ 1
  successes : ∀ o ∈ c.outcomes, ∀ evidence receipt digest closure,
    o.outcome = .succeeded evidence receipt digest closure →
    ∃ r ∈ c.runs, SuccessOf rsha o evidence receipt digest closure r
  closed_stays : ∀ r ∈ c.runs, r.closed = true → ∀ calls,
    r ∈ (catalogFrom sha rsha maxRunAttempts c calls).runs
  /-- a repeated completion, any number of calls later, returns the run and changes
  nothing; the completion time and the worker's credential are not compared -/
  complete_again : ∀ {w runId k f result t c' new},
    completeRun rsha c w runId k f result t = .ok (c', new) → ∀ calls w' k' f' result' t',
    (SameClaim w w' k k' f f' ∧ result' = result →
      completeRun rsha (catalogFrom sha rsha maxRunAttempts c' calls) w' runId k' f' result' t'
        = .ok (catalogFrom sha rsha maxRunAttempts c' calls, new))
    ∧ (¬(SameClaim w w' k k' f f' ∧ result' = result) →
      ∃ e, completeRun rsha (catalogFrom sha rsha maxRunAttempts c' calls) w' runId k' f'
        result' t' = .error e)
  /-- a repeated failure does, while the run has not been claimed again; a retry
  time at the attempt limit is not compared either -/
  fail_again : ∀ {w runId k f failure t retryAt c' new},
    failRun rsha maxRunAttempts c w runId k f failure t retryAt = .ok (c', new) →
    ∀ calls, new ∈ (catalogFrom sha rsha maxRunAttempts c' calls).runs →
    ∀ w' k' f' failure' t' retryAt', (∀ x, retryAt' = some x → t' < x) →
    (SameClaim w w' k k' f f' ∧ failure' = failure
        ∧ effectiveRetry maxRunAttempts new retryAt
          = effectiveRetry maxRunAttempts new retryAt' →
      failRun rsha maxRunAttempts (catalogFrom sha rsha maxRunAttempts c' calls) w' runId k' f'
        failure' t' retryAt' = .ok (catalogFrom sha rsha maxRunAttempts c' calls, new))
    ∧ (¬(SameClaim w w' k k' f f' ∧ failure' = failure
        ∧ effectiveRetry maxRunAttempts new retryAt
          = effectiveRetry maxRunAttempts new retryAt') →
      ∃ e, failRun rsha maxRunAttempts (catalogFrom sha rsha maxRunAttempts c' calls) w' runId
        k' f' failure' t' retryAt' = .error e)
  /-- after the next claim the failure is refused under its fence -/
  fail_reclaimed : ∀ {w runId k f failure t retryAt c' new},
    failRun rsha maxRunAttempts c w runId k f failure t retryAt = .ok (c', new) →
    ∀ calls, new ∉ (catalogFrom sha rsha maxRunAttempts c' calls).runs →
    ∀ w' k' failure' t' retryAt', ∃ e, failRun rsha maxRunAttempts
      (catalogFrom sha rsha maxRunAttempts c' calls) w' runId k' f failure' t' retryAt'
        = .error e

theorem RunTracked.one_success (hc : RunTracked rsha maxRunAttempts c)
    {r : ControlRun} (hr : r ∈ c.runs) : (c.outcomes.filter fun o =>
      decide (o.tenantId = r.request.tenantId ∧ o.runId = r.runId
        ∧ o.outcome.isSuccess = true)).length ≤ 1 := by
  refine filter_key_le_one (v := (r.request.tenantId, r.runId, r.leaseFence))
    hc.outcomeKeys ?_
  intro o ho hp
  obtain ⟨hten, hid, hsuccess⟩ := of_decide_eq_true hp
  cases hout : o.outcome with
  | failed d retryAt =>
    rw [hout] at hsuccess
    cases hsuccess
  | succeeded evidence receipt digest closure =>
    obtain ⟨x, hx, hsucc⟩ := hc.successes o ho evidence receipt digest closure hout
    have heq : x = r := List.inj_on_of_nodup_map hc.runIds hx hr (hsucc.run.2.1.trans hid)
    unfold ControlRunOutcome.key
    rw [hten, hid, ← hsucc.run.2.2, heq]

theorem completeRun_tracked (hc : RunTracked rsha maxRunAttempts c)
    (h : completeRun rsha c w runId k f result t = .ok (c', new)) :
    RunTracked rsha maxRunAttempts c' := by
  obtain ⟨_, ⟨_, _, _, _, rfl⟩ | ⟨row, hdone⟩⟩ := completeRun_ok h
  · exact hc
  · exact step_tracked hc (.complete hdone)

theorem failRun_tracked {failure : Digest} (hc : RunTracked rsha maxRunAttempts c)
    (h : failRun rsha maxRunAttempts c w runId k f failure t retryAt = .ok (c', new)) :
    RunTracked rsha maxRunAttempts c' := by
  rcases failRun_ok h with ⟨_, _, _, _, rfl⟩ | ⟨row, hdone⟩
  · exact hc
  · exact step_tracked hc (.fail hdone)

/-- **The lease protocol of control runs.** Every list of catalog calls, by any
workers with any clocks, tokens, repetitions and delays, keeps it. -/
theorem control_run_leases (calls : List CatalogCall) :
    RunLeases sha rsha maxRunAttempts (catalogAfter sha rsha maxRunAttempts calls) := by
  have hc : RunTracked rsha maxRunAttempts (catalogAfter sha rsha maxRunAttempts calls) :=
    steps_tracked runTracked_empty (catalogFrom_steps calls _)
  generalize catalogAfter sha rsha maxRunAttempts calls = c at hc
  have hsteps : ∀ c' calls, Relation.ReflTransGen (RunStep rsha maxRunAttempts) c'
      (catalogFrom sha rsha maxRunAttempts c' calls) :=
    fun c' calls => catalogFrom_steps calls c'
  refine ⟨hc.runIds, ?_, ?_, hc.recorded, fun call o ho => next_recorded hc call ho,
    fun r hr => hc.one_success hr, hc.successes, ?_, ?_, ?_, ?_⟩
  · intro r hr
    exact ⟨(runShape_fence (hc.shapes r hr)).symm, hc.claim_count hr, hc.bounded r hr⟩
  · intro k _
    exact filter_key_le_one hc.outcomeKeys fun o _ hp => of_decide_eq_true hp
  · intro r hr hclosed calls
    exact steps_closed hc (hsteps c calls) hr hclosed
  · intro w runId k f result t c' new h calls w' k' f' result' t'
    have hc' := completeRun_tracked hc h
    have hlater := steps_tracked hc' (hsteps c' calls)
    obtain ⟨hresult, _⟩ := completeRun_ok h
    obtain ⟨hstate, hev, hre, hreplay⟩ := completed_replayed hc h
    -- the succeeded row is closed, so it is still there
    have hmem := steps_closed hc' (hsteps c' calls) (runRow_some hreplay.row_eq).1
      (by simp [ControlRun.closed, hstate])
    exact completeRun_again hlater (replayed_later hlater (hsteps c' calls) hreplay hmem)
      hstate hev hre hresult w' k' f' result' t'
  · intro w runId k f failure t retryAt c' new h calls hmem w' k' f' failure' t' retryAt' hlt
    have hlater := steps_tracked (failRun_tracked hc h) (hsteps c' calls)
    obtain ⟨hstate, hfail, hretry, hreplay⟩ := failed_replayed hc h
    have hagain := failRun_again hlater
      (replayed_later hlater (hsteps c' calls) hreplay hmem) hstate hfail w' k' f' failure' t'
      retryAt' hlt
    rw [hretry] at hagain
    exact hagain
  · intro w runId k f failure t retryAt c' new h calls hmem w' k' failure' t' retryAt'
    have hc' := failRun_tracked hc h
    have hlater := steps_tracked hc' (hsteps c' calls)
    obtain ⟨hstate, _, _, hreplay⟩ := failed_replayed hc h
    obtain ⟨hin, _, hid⟩ := runRow_some hreplay.row_eq
    obtain ⟨r, hr, hrid, heq | hgt⟩ := steps_failed hc' (hsteps c' calls) hin hstate
    · exact absurd (heq ▸ hr) hmem
    · rw [hreplay.fence_eq] at hgt
      exact failRun_stale hlater hr (hrid.trans hid) hgt w' k' failure' t' retryAt'

/-! ## A completion repeated with another time -/

def protocolSha : RuntimeDocument → Digest
  | .receipt r => BitVec.ofNat 256 r.operationSequence
  | .runRequest q => BitVec.ofNat 256 q.windowEnd.toNat
  | _ => 0

def minuteWorker : RuntimeWorkerIdentity := ⟨"tenant-a", "worker-1", 5⟩

/-- One run, due at second 60 and claimed then. -/
def claimedMinute : Catalog :=
  catalogAfter (fun _ => 0) protocolSha 8
    [.registerProfile ⟨"tenant-a", "edr", 9⟩,
      .ensureApplied ⟨1, "tenant-a", "edr-coverage", 1, 0, everyMinute, 1, 1⟩ 0,
      .materialize 60 "tenant-a" none MaterializationLimits.default,
      .claim minuteWorker 7 60 60]

/-- `complete_run` of that run at second `t`. -/
def completeMinute (c : Catalog) (t : Time) : Except RuntimeCatalogError (Catalog × ControlRun) :=
  completeRun protocolSha c minuteWorker 60 7 1 ⟨60, 1, 11, 12⟩ t

/-- The run was completed at second 70; the same completion given second 71 is
answered with the run of second 70. -/
theorem completion_time_ignored :
    (completeMinute claimedMinute 70).map (·.2.completedAt) = .ok (some 70)
    ∧ (completeMinute claimedMinute 70 >>= fun first =>
        (completeMinute first.1 71).map fun again => decide (again = first)) = .ok true := by
  decide

end ControlAssurance.Runtime
