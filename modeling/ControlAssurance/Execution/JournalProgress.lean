import ControlAssurance.Execution.JournalInvariant

/-!
# Calls that succeed

The inversion lemmas of `JournalSteps.lean` say what a call that succeeded has done. This
module has the other direction: from the invariant of the rows, a read, a takeover by the
next fence and the consumption of a valid recovery authorization do succeed. The database
clock enters here: a row is only accepted with its times in order, so the stored times have
to be in the past.
-/

namespace ControlAssurance.Execution

open Lib
open Admission (Bytes)
open ControlAssurance.Runtime (ControlRunExecutionResult)

/-! ## Runs in time -/

/-- The clocks of a transaction whose statements run at `now` or later. The transaction
began, and the second of a recovery was read, before the last statement. -/
def RecoveryClock.follows (clock : RecoveryClock) (now : Time) : Prop :=
  now ≤ clock.statement ∧ clock.transaction ≤ clock.statement
    ∧ clock.recoveryNow ≤ clock.statement

instance (clock : RecoveryClock) (now : Time) : Decidable (clock.follows now) := by
  delta RecoveryClock.follows; infer_instance

/-- The rows after a call; one that raises leaves them. -/
def JournalCall.after (C : Codec) (clock : RecoveryClock) (call : JournalCall)
    (s : Option RunJournal) : Option RunJournal :=
  match call.run C clock s with
  | .ok (x', _) => some x'
  | .error _ => s

/-- The rows after any sequence of calls, and the database clock after the last of them. -/
inductive Reached (C : Codec) : Time → Option RunJournal → Prop
  | empty (now : Time) : Reached C now none
  | call {now s} (h : Reached C now s) (call : JournalCall) (clock : RecoveryClock)
      (hclock : clock.follows now) : Reached C clock.statement (call.after C clock s)

/-- No attempt was prepared or began to publish after `now`. -/
def RunJournal.Timed (now : Time) (x : RunJournal) : Prop :=
  ∀ a ∈ x.attempts, a.preparedAt ≤ now ∧ ∀ p ∈ a.publishingAt, p ≤ now

section

variable {C : Codec} {x x' : RunJournal} {now : Time}

theorem RunJournal.Timed.mono {later : Time} (h : x.Timed now) (hle : now ≤ later) :
    x.Timed later := by
  intro a ha
  obtain ⟨hprepared, hpublishing⟩ := h a ha
  exact ⟨hprepared.trans hle, fun p hp => (hpublishing p hp).trans hle⟩

variable {time : Time} {row : Attempt} {key : AttemptKey} {clock : Clock}
  {current : ExecutionJournalRecord}

/-- The times a guarded update leaves are those asked for or the clock's. -/
theorem guardAttemptUpdate_publishingAt {old asked : Attempt}
    (h : guardAttemptUpdate x old asked time = .ok row) :
    row.publishingAt = asked.publishingAt ∨ row.publishingAt = some time := by
  unfold guardAttemptUpdate at h
  simp only [bind_eq_ok, require_eq_ok] at h
  obtain ⟨_, -, _, -, _, -, h⟩ := h
  split at h
  · simp only [pure_eq_ok] at h
    rw [← h]
    exact Or.inr rfl
  · split at h
    · simp only [pure_eq_ok] at h
      rw [h]
      exact Or.inl rfl
    · simp only [pure_eq_ok] at h
      rw [← h]
      exact Or.inl rfl

theorem updateAttempt_timed {fence : Nat} {matching : Attempt → Bool} {set : Attempt → Attempt}
    (h : x.updateAttempt C fence matching set time = .ok (some x'))
    (hset : ∀ a, (set a).publishingAt = a.publishingAt ∨ (set a).publishingAt = some time)
    (htimed : x.Timed now) (htime : time ≤ now) : x'.Timed now := by
  obtain ⟨old, new, -, -, hupdated, -, hguard, rfl⟩ := updateAttempt_ok h
  obtain ⟨hprepared, hpublishing⟩ := htimed old hupdated.mem
  intro a ha
  rcases (mem_replace hupdated.mem).mp ha with rfl | ⟨ha, -⟩
  · constructor
    · rw [hupdated.same.2.2.2.2]
      exact hprepared
    · intro p hp
      rcases guardAttemptUpdate_publishingAt hguard with hasked | hclock
      · rw [hasked] at hp
        rcases hset old with hkept | hset
        · rw [hkept] at hp
          exact hpublishing p hp
        · rw [hset] at hp
          cases hp
          exact htime
      · rw [hclock] at hp
        cases hp
        exact htime
  · exact htimed a ha

variable {r : ExecutionJournalRecord} {s : Option RunJournal} {a : Attempt}

theorem transition_timed {revision : Nat} {t : Transition}
    (h : transition C clock key revision t (some x) = .ok (x', r))
    (htimed : x.Timed now) (htime : clock.statement ≤ now) : x'.Timed now := by
  unfold transition at h
  simp only [bind_eq_ok, require_eq_ok] at h
  obtain ⟨_, -, _, -, ⟨y, current⟩, hread, _, -, h⟩ := h
  obtain ⟨hy, -⟩ := readCurrent_ok hread
  cases hy
  split at h
  · cases h
    exact htimed
  · split at h
    · cases h
      exact htimed
    · simp only [bind_eq_ok, require_eq_ok, rejectedAs_eq_ok, expect_eq_ok] at h
      obtain ⟨_, -, _, hupdate, y, rfl, hreread⟩ := h
      obtain ⟨rfl, -⟩ := reread_ok hreread
      refine updateAttempt_timed hupdate ?_ htimed htime
      intro a
      cases t with
      | publishing => exact Or.inr rfl
      | failed code => exact Or.inl rfl
      | uncertain code => exact Or.inl rfl

theorem markCompleted_timed {runId : Digest}
    {revision : Nat} {result : ControlRunExecutionResult} {receiptBytes : Bytes}
    (h : markCompleted C clock runId key revision result receiptBytes (some x) = .ok (x', r))
    (htimed : x.Timed now) (htime : clock.statement ≤ now) : x'.Timed now := by
  unfold markCompleted at h
  simp only [bind_eq_ok, require_eq_ok] at h
  obtain ⟨_, -, _, -, _, -, ⟨y, current⟩, hread, h⟩ := h
  obtain ⟨hy, -⟩ := readCurrent_ok hread
  cases hy
  split at h
  · simp only [bind_eq_ok, require_eq_ok, pure_eq_ok, Prod.mk.injEq] at h
    obtain ⟨_, -, rfl, -⟩ := h
    exact htimed
  · simp only [bind_eq_ok, require_eq_ok, rejectedAs_eq_ok, expect_eq_ok] at h
    obtain ⟨_, -, _, hupdate, y, rfl, _, hrow, z, rfl, hreread⟩ := h
    obtain ⟨rfl, -⟩ := reread_ok hreread
    obtain ⟨-, -, rfl⟩ := updateRow_ok hrow
    have hy : y.Timed now := updateAttempt_timed hupdate (fun _ => Or.inl rfl) htimed htime
    exact hy

theorem takeOver_timed {request : ControlRunExecutionRequest}
    (h : takeOver C clock request key x current = .ok (x', r)) (htimed : x.Timed now)
    (htransaction : clock.transaction ≤ now) (htime : clock.statement ≤ now) :
    x'.Timed now := by
  unfold takeOver at h
  simp only [bind_eq_ok, require_eq_ok, rejectedAs_eq_ok, expect_eq_ok] at h
  obtain ⟨_, -, _, -, y, hsupersede, _, hrow, z, rfl, w, hinsert, hreread⟩ := h
  obtain ⟨rfl, -⟩ := reread_ok hreread
  obtain ⟨-, -, rfl⟩ := updateRow_ok hrow
  have hy : y.Timed now := by
    unfold supersede at hsupersede
    split at hsupersede
    · simp only [bind_eq_ok, rejectedAs_eq_ok, expect_eq_ok] at hsupersede
      obtain ⟨_, hupdate, rfl⟩ := hsupersede
      exact updateAttempt_timed hupdate (fun a => Or.inl rfl) htimed htime
    · cases hsupersede
      exact htimed
  obtain ⟨row, -, rfl, ⟨-, rfl⟩ | ⟨hstate, -⟩⟩ := insertAttempt_ok hinsert
  · intro a ha
    rcases List.mem_append.mp ha with ha | ha
    · exact hy a ha
    · obtain rfl := List.mem_singleton.mp ha
      refine ⟨htransaction, ?_⟩
      intro p hp
      cases hp
  · cases hstate

theorem prepare_timed {request : ControlRunExecutionRequest}
    {workerId : String} {token : Digest} {plan : Option Bytes}
    (h : prepare C clock request workerId token plan s = .ok (x', r))
    (htimed : ∀ x ∈ s, x.Timed now) (htransaction : clock.transaction ≤ now)
    (htime : clock.statement ≤ now) : x'.Timed now := by
  unfold prepare at h
  simp only [bind_eq_ok, require_eq_ok] at h
  obtain ⟨_, -, _, -, _, -, y, hfind, ⟨_, current⟩, hread, _, -, _, -, _, -, h⟩ := h
  obtain ⟨hy, -⟩ := readCurrent_ok hread
  cases hy
  have hfound : y.Timed now := by
    unfold findOrInsert at hfind
    split at hfind
    · simp only [bind_eq_ok, require_eq_ok, pure_eq_ok] at hfind
      obtain ⟨_, -, rfl⟩ := hfind
      exact htimed _ rfl
    · unfold insertRun insertExecution RunJournal.commit at hfind
      simp only [bind_eq_ok, require_eq_ok, rejectedAs_eq_ok, expect_eq_ok, pure_eq_ok] at hfind
      obtain ⟨p, -, z, ⟨_, -, _, -, rfl⟩, w, hinsert, _, -, rfl⟩ := hfind
      obtain ⟨row, -, rfl, ⟨-, rfl⟩ | ⟨hstate, -⟩⟩ := insertAttempt_ok hinsert
      · intro a ha
        obtain rfl := List.mem_singleton.mp ha
        refine ⟨htransaction, ?_⟩
        intro p hp
        cases hp
      · cases hstate
  split at h
  · cases h
    exact hfound
  · split at h
    · simp only [bind_eq_ok, require_eq_ok, pure_eq_ok, Prod.mk.injEq] at h
      obtain ⟨_, -, rfl, -⟩ := h
      exact hfound
    · exact takeOver_timed h hfound htransaction htime

/-- An adoption puts in the signed times of the successor. -/
theorem adopted_timed {row : RecoveryRow} {old new : Attempt} (h : Adopted C x x' row old new)
    (htimed : x.Timed now) (htime : row.consumedAt ≤ now) : x'.Timed now := by
  obtain ⟨hprepared, hpublishing⟩ := htimed old h.mem
  intro a ha
  rw [h.result] at ha
  rcases List.mem_append.mp ha with ha | ha
  · rcases (mem_replace h.mem).mp ha with rfl | ⟨ha, -⟩
    · constructor
      · rw [h.same.2.2.2.2]
        exact hprepared
      · rcases h.moves with ⟨hstate, -⟩ | ⟨-, -, -, hkept⟩
        · rw [h.abandoned.2.2.2.1] at hstate
          cases hstate
        · rw [hkept]
          exact hpublishing
    · exact htimed a ha
  · obtain rfl := List.mem_singleton.mp ha
    have horder : row.successorAttempt.timeOrder := h.newChecks.2.2.2.2.2
    refine ⟨(horder.1 row.consumedAt rfl).trans htime, ?_⟩
    intro p hp
    cases hp
    exact htime

/-- Every call leaves the times of the rows in the past. -/
theorem run_timed {clock : RecoveryClock} {call : JournalCall}
    (hwf : ∀ x ∈ s, x.WF C) (h : call.run C clock s = .ok (x', r))
    (htimed : ∀ x ∈ s, x.Timed now) (hclock : clock.follows now) :
    x'.Timed clock.statement := by
  obtain ⟨hnow, htransaction, hrecovery⟩ := hclock
  have hpast : ∀ x ∈ s, x.Timed clock.statement := fun x hx => (htimed x hx).mono hnow
  have hmoves : ∀ {key : AttemptKey} {revision : Nat} {t : Transition},
      transition C clock.toClock key revision t s = .ok (x', r) →
      x'.Timed clock.statement := by
    intro key revision t ht
    obtain ⟨x, rfl, -⟩ := transition_ok ht
    exact transition_timed ht (hpast x rfl) le_rfl
  cases call with
  | prepare request workerId token plan => exact prepare_timed h hpast htransaction le_rfl
  | get =>
    obtain ⟨rfl, -⟩ := readCurrent_ok h
    exact hpast x' rfl
  | beginPublishing key revision => exact hmoves h
  | bindExecutionIdentity key revision i =>
    obtain ⟨x, rfl, -, -, -, -, rfl | ⟨a, hbound⟩⟩ := bindExecutionIdentity_ok h
    · exact hpast x' rfl
    · rw [hbound.result]
      exact hpast x rfl
  | markFailed key revision code => exact hmoves h
  | markUncertain key revision code => exact hmoves h
  | markCompleted runId key revision result receipt =>
    obtain ⟨x, rfl, -⟩ := markCompleted_ok h
    exact markCompleted_timed h (hpast x rfl) le_rfl
  | recover pins expectation value =>
    obtain ⟨x, rfl, -, -, -, row, old, new, hadopted, hclaim, -⟩ :=
      recover_ok (fun x hx => (hwf x hx).fences) h
    have hconsumed : row.consumedAt = clock.recoveryNow := by
      unfold RecoveryRow.consumedAt
      rw [hclaim]
      rfl
    refine adopted_timed hadopted (hpast x rfl) ?_
    rw [hconsumed]
    exact hrecovery

/-- The invariant holds after any sequence of calls, and the stored times are in the past. -/
theorem reached_wf (h : Reached C now s) :
    ∀ x ∈ s, x.WF C ∧ x.Timed now := by
  induction h with
  | empty now =>
    intro x hx
    cases hx
  | @call now s h call clock hclock ih =>
    unfold JournalCall.after
    split
    · rename_i x' r hrun
      intro y hy
      cases hy
      have hwf : ∀ x ∈ s, x.WF C := fun x hx => (ih x hx).1
      obtain ⟨hchange, -⟩ := run_change (fun x hx => (hwf x hx).fences) hrun
      exact ⟨change_wf hwf hchange, run_timed hwf hrun (fun x hx => (ih x hx).2) hclock⟩
    · intro x hx
      exact ⟨(ih x hx).1, (ih x hx).2.mono hclock.1⟩

/-! ## Reads -/

theorem RunJournal.WF.record_stateShape (hwf : x.WF C) (ha : x.current = some a)
    (h : inRange a.attemptCount x.highestLeaseFence) : (x.record a h).stateShape C := by
  obtain ⟨hmem, hfence⟩ := current_mem ha
  have hshape : a.stateShape C.sha := (hwf.checks a hmem).2.2.2.2.1
  unfold Attempt.stateShape at hshape
  have hrecord : (x.record a h).state = a.state := rfl
  unfold ExecutionJournalRecord.stateShape
  rw [hrecord]
  cases hstate : a.state with
  | prepared =>
    rw [hstate] at hshape
    exact ⟨hshape.1, hshape.2.1, hshape.2.2.1, hshape.2.2.2.1⟩
  | publishing =>
    rw [hstate] at hshape
    exact ⟨hshape.1, hshape.2.1, hshape.2.2.1, hshape.2.2.2.1⟩
  | completed =>
    rw [hstate] at hshape
    obtain ⟨c, hc, hcfence, -, -⟩ := hwf.completed hmem hstate
    obtain ⟨-, -, -, -, hcompletion⟩ := hwf.rowChecks
    refine ⟨hshape.1, hshape.2.1, hshape.2.2.1, hshape.2.2.2.1, ?_, (hcompletion c hc).2.1,
      hwf.receipts⟩
    show x.completion.map (·.1) = some x.highestLeaseFence
    rw [hc, Option.map_some, hcfence, hfence]
  | failed =>
    rw [hstate] at hshape
    refine ⟨?_, hshape.2.1, hshape.2.2.1⟩
    show 1 ≤ a.revision
    omega
  | uncertain =>
    rw [hstate] at hshape
    refine ⟨?_, hshape.2.1, hshape.2.2.1⟩
    show 1 ≤ a.revision
    omega

/-- The rows of a run can always be read. -/
theorem RunJournal.WF.readCurrent (hwf : x.WF C) (ha : x.current = some a)
    (missing : JournalError) :
    ∃ r, readCurrent C (some x) missing = .ok (x, r) ∧ r.Of x a := by
  obtain ⟨hmem, hfence⟩ := current_mem ha
  obtain ⟨hrange, hportable, hcodes, -⟩ := hwf.checks a hmem
  have hin : inRange a.attemptCount x.highestLeaseFence := by
    rw [← hfence]
    exact hrange
  have hvalid : (x.record a hin).valid C :=
    ⟨le_rfl, hportable, hcodes, hwf.identity, hwf.record_stateShape ha hin⟩
  refine ⟨x.record a hin, ?_, ⟨rfl, rfl, rfl, rfl, rfl, rfl, rfl, rfl, rfl, rfl, rfl, rfl, rfl,
    rfl⟩⟩
  unfold Execution.readCurrent recordFromRow
  simp only [bind_eq_ok, expect_eq_ok, pure_eq_ok, Prod.mk.injEq]
  refine ⟨x, rfl, a, ha, x.record a hin, ?_, rfl, rfl⟩
  rw [dif_pos hin]
  simp only [bind_eq_ok, require_eq_ok, pure_eq_ok]
  exact ⟨(), hwf.rowChecks.2.1, (), hwf.verified, (), hvalid, trivial⟩

/-- A transaction that ends in rows with the invariant commits. -/
theorem RunJournal.WF.reread (hwf : x.WF C) (ha : x.current = some a) (missing rejection : String) :
    ∃ r, reread C x missing rejection = .ok (x, r) ∧ r.Of x a := by
  obtain ⟨r, hread, hof⟩ := hwf.readCurrent ha (.integrity missing)
  refine ⟨r, ?_, hof⟩
  unfold Execution.reread RunJournal.commit
  simp only [bind_eq_ok, require_eq_ok, rejectedAs_eq_ok, pure_eq_ok, Prod.mk.injEq]
  exact ⟨(x, r), hread, x, ⟨(), hwf.consistent, rfl⟩, trivial, rfl⟩

/-! ## A takeover -/

/-- The attempt a higher fence leaves behind. -/
def Attempt.settledAt (a : Attempt) (now : Time) : Attempt :=
  if a.state.terminal = true then a
  else { a with
    state := .uncertain
    revision := a.revision + 1
    finishedAt := some now
    errorCode := some "lease-superseded" }

/-- An update of the current attempt that nothing stands against. -/
theorem updateAttempt_intro {matching : Attempt → Bool}
    {set : Attempt → Attempt} (ha : x.current = some a)
    (hunique : ∀ b ∈ x.attempts, b.leaseFence = x.highestLeaseFence → b = a)
    (hmatching : matching a = true) (hguard : guardAttemptUpdate x a (set a) time = .ok row)
    (hchecks : row.checks C.sha) :
    x.updateAttempt C x.highestLeaseFence matching set time = .ok (some (x.replace a row)) := by
  obtain ⟨hmem, hfence⟩ := current_mem ha
  have hfind : (x.attempts.find? fun b =>
      decide (b.leaseFence = x.highestLeaseFence) && matching b) = some a := by
    refine find?_eq_of_unique hmem ?_ ?_
    · rw [hfence, hmatching]
      simp
    · intro b hb hp
      simp only [Bool.and_eq_true, decide_eq_true_eq] at hp
      exact hunique b hb hp.1
  unfold RunJournal.updateAttempt
  rw [hfind]
  simp only [bind_eq_ok, require_eq_ok, pure_eq_ok, Option.some.injEq]
  refine ⟨row, hguard, (), hchecks, ?_⟩
  unfold RunJournal.replace
  rw [hfence]

/-- The superseded attempt meets the constraints of its table. -/
theorem settled_checks (h : a.checks C.sha)
    (hopen : a.state.terminal = false) (htimed : a.preparedAt ≤ time
      ∧ ∀ p ∈ a.publishingAt, p ≤ time) : (a.settledAt time).checks C.sha := by
  obtain ⟨hrange, hportable, -, -, hshape, horder⟩ := h
  have hrevision : a.revision + 1 = 1 ∨ a.revision + 1 = 2 := by
    unfold Attempt.stateShape at hshape
    cases hstate : a.state with
    | prepared => rw [hstate] at hshape; omega
    | publishing => rw [hstate] at hshape; omega
    | completed => rw [hstate] at hopen; cases hopen
    | failed => rw [hstate] at hopen; cases hopen
    | uncertain => rw [hstate] at hopen; cases hopen
  have houtcome : a.outcome = none := by
    unfold Attempt.stateShape at hshape
    cases hstate : a.state with
    | prepared => rw [hstate] at hshape; exact hshape.2.2.2.2
    | publishing => rw [hstate] at hshape; exact hshape.2.2.2.2
    | completed => rw [hstate] at hopen; cases hopen
    | failed => rw [hstate] at hopen; cases hopen
    | uncertain => rw [hstate] at hopen; cases hopen
  unfold Attempt.settledAt
  rw [if_neg (by rw [hopen]; exact Bool.false_ne_true)]
  refine ⟨hrange, hportable, ?_, ?_, ⟨hrevision, ?_, ?_, houtcome⟩, ?_⟩
  · intro code hcode
    cases hcode
    decide
  · intro o ho
    rw [houtcome] at ho
    cases ho
  · exact Option.some_ne_none _
  · exact Option.some_ne_none _
  · refine ⟨horder.1, ?_, ?_⟩
    · intro f hf
      cases hf
      exact htimed.1
    · intro p hp f hf
      cases hf
      exact htimed.2 p hp

theorem settledAt_same (a : Attempt) (time : Time) :
    (a.settledAt time).leaseFence = a.leaseFence
      ∧ (a.settledAt time).attemptCount = a.attemptCount := by
  unfold Attempt.settledAt
  split
  · exact ⟨rfl, rfl⟩
  · exact ⟨rfl, rfl⟩

/-- The lower fence is superseded. -/
theorem supersede_intro (hwf : x.WF C) (ha : x.current = some a) (hunfinished : x.completion = none)
    (hof : current.Of x a) (htimed : x.Timed clock.statement) :
    supersede C clock x current = .ok (x.replace a (a.settledAt clock.statement)) := by
  obtain ⟨hmem, hfence⟩ := current_mem ha
  unfold supersede
  by_cases hopen : a.state = .prepared ∨ a.state = .publishing
  · have hterminal : a.state.terminal = false := by
      rcases hopen with hopen | hopen
      · rw [hopen]; rfl
      · rw [hopen]; rfl
    have hset : a.settledAt clock.statement = { a with
        state := .uncertain
        revision := a.revision + 1
        finishedAt := some clock.statement
        errorCode := some "lease-superseded" } := by
      unfold Attempt.settledAt
      rw [if_neg (by rw [hterminal]; exact Bool.false_ne_true)]
    rw [if_pos (by rw [hof.state]; exact hopen), hof.leaseFence]
    simp only [bind_eq_ok, rejectedAs_eq_ok, expect_eq_ok]
    refine ⟨some (x.replace a (a.settledAt clock.statement)), ?_, rfl⟩
    refine updateAttempt_intro ha (fun b => hwf.current_eq ha) ?_ ?_ (settled_checks (hwf.checks a hmem) hterminal
      (htimed a hmem))
    · exact decide_eq_true ⟨hof.state.symm, hof.revision.symm⟩
    · rw [hset]
      unfold guardAttemptUpdate
      simp only [bind_eq_ok, require_eq_ok]
      refine ⟨(), ⟨rfl, rfl, rfl, rfl, rfl⟩, (), ⟨hfence, hunfinished⟩, (), ?_, ?_⟩
      · rcases hopen with hopen | hopen
        · exact Or.inl ⟨hopen, by simp, rfl⟩
        · exact Or.inr ⟨hopen, by simp, rfl, rfl⟩
      · rw [if_neg (by simp), if_neg (by simp)]
        rfl
  · have hterminal : a.state.terminal = true := by
      cases hstate : a.state with
      | prepared => exact absurd (Or.inl hstate) hopen
      | publishing => exact absurd (Or.inr hstate) hopen
      | completed => rfl
      | failed => rfl
      | uncertain => rfl
    have hset : a.settledAt clock.statement = a := by
      unfold Attempt.settledAt
      rw [if_pos hterminal]
    rw [if_neg (by rw [hof.state]; exact hopen), hset]
    -- replacing the attempt by itself changes nothing
    have hself : x.replace a a = x := by
      unfold RunJournal.replace updateWhere
      have hmap : (x.attempts.map fun b => if decide (b.leaseFence = a.leaseFence) = true then a
          else b) = x.attempts := by
        conv => rhs; rw [← List.map_id x.attempts]
        apply List.map_congr_left
        intro b hb
        by_cases hb' : b.leaseFence = a.leaseFence
        · rw [if_pos (decide_eq_true hb'), hwf.current_eq ha hb (hb'.trans hfence)]
          rfl
        · rw [if_neg (by simpa using hb')]
          rfl
      rw [hmap]
    rw [hself]
    rfl

/-- No attempt is above the highest fence or the highest count. -/
theorem RunJournal.WF.bounded (hwf : x.WF C) (ha : a ∈ x.attempts) :
    a.leaseFence ≤ x.highestLeaseFence ∧ a.attemptCount ≤ x.highestAttemptCount := by
  by_cases hfence : a.leaseFence = x.highestLeaseFence
  · obtain ⟨b, hb, hcount, -⟩ := hwf.consistent
    rw [hwf.current_eq hb ha hfence]
    exact ⟨(current_mem hb).2.le, hcount.le⟩
  · obtain ⟨hlt, hcount, -⟩ := hwf.earlier a ha hfence
    exact ⟨hlt.le, hcount.le⟩

theorem replace_bounded (hwf : x.WF C) {settled b : Attempt} (ha : x.current = some a)
    (hfence : settled.leaseFence = a.leaseFence) (hcount : settled.attemptCount = a.attemptCount)
    (hb : b ∈ (x.replace a settled).attempts) :
    b.leaseFence ≤ x.highestLeaseFence ∧ b.attemptCount ≤ x.highestAttemptCount := by
  obtain ⟨hmem, -⟩ := current_mem ha
  rcases (mem_replace hmem).mp hb with rfl | ⟨hb, -⟩
  · rw [hfence, hcount]
    exact hwf.bounded hmem
  · exact hwf.bounded hb

/-- A new attempt with a higher fence is the current one. -/
theorem appended_current {y : RunJournal}
    (hattempts : ∀ b ∈ x.attempts, b.leaseFence ≠ row.leaseFence)
    (hy : y.attempts = x.attempts ++ [row]) (hfence : y.highestLeaseFence = row.leaseFence) :
    y.current = some row := by
  refine find?_eq_of_unique ?_ ?_ ?_
  · rw [hy]
    exact List.mem_append_right _ (List.mem_singleton.mpr rfl)
  · exact decide_eq_true hfence.symm
  · intro b hb hp
    have hsame : b.leaseFence = y.highestLeaseFence := of_decide_eq_true hp
    rw [hy] at hb
    rcases List.mem_append.mp hb with hb | hb
    · exact absurd (hsame.trans hfence) (hattempts b hb)
    · exact List.mem_singleton.mp hb

/-- The rows after a takeover by the next fence. -/
def RunJournal.takenOverBy (x : RunJournal) (a : Attempt) (request : ControlRunExecutionRequest)
    (key : AttemptKey) (clock : Clock) : RunJournal :=
  { x.replace a (a.settledAt clock.statement) with
    highestLeaseFence := request.leaseFence
    highestAttemptCount := request.attemptCount
    attempts := (x.replace a (a.settledAt clock.statement)).attempts
      ++ [{ newAttempt request.attemptCount key with preparedAt := clock.transaction }] }

/-- What a caller brings to a takeover: the next fence and count, under its own name. -/
structure NextAttempt (x : RunJournal) (request : ControlRunExecutionRequest)
    (key : AttemptKey) : Prop where
  fence : request.leaseFence = x.highestLeaseFence + 1
  count : request.attemptCount = x.highestAttemptCount + 1
  own : key.leaseFence = request.leaseFence
  portable : portableId key.workerId = true

theorem newAttempt_checks {request : ControlRunExecutionRequest}
    (h : NextAttempt x request key) (time : Time) :
    ({ newAttempt request.attemptCount key with preparedAt := time } : Attempt).checks C.sha := by
  have hrange := request.ranges
  rw [← h.own] at hrange
  refine ⟨hrange, h.portable, ?_, ?_, ⟨rfl, rfl, rfl, rfl, rfl⟩, ?_⟩
  · intro code hcode
    cases hcode
  · intro o ho
    cases ho
  · refine ⟨?_, ?_, ?_⟩
    · intro p hp
      cases hp
    · intro f hf
      cases hf
    · intro p hp
      cases hp

theorem takenOverBy_wf (hwf : x.WF C) (ha : x.current = some a)
    (hunfinished : x.completion = none) (hunbound : x.identity = none)
    {request : ControlRunExecutionRequest}
    (hnext : NextAttempt x request key) (htimed : x.Timed clock.statement) :
    (x.takenOverBy a request key clock).WF C ∧ (x.takenOverBy a request key clock).current
      = some { newAttempt request.attemptCount key with preparedAt := clock.transaction } := by
  obtain ⟨hmem, hfence⟩ := current_mem ha
  obtain ⟨hsameFence, hsameCount⟩ := settledAt_same a clock.statement
  have hcurrent : (x.takenOverBy a request key clock).current
      = some { newAttempt request.attemptCount key with preparedAt := clock.transaction } := by
    refine appended_current ?_ rfl ?_
    · intro b hb
      have hle := (replace_bounded hwf ha hsameFence hsameCount hb).1
      have hnew : (newAttempt request.attemptCount key).leaseFence = request.leaseFence :=
        hnext.own
      rw [hnext.fence] at hnew
      show b.leaseFence ≠ (newAttempt request.attemptCount key).leaseFence
      omega
    · exact hnext.own.symm
  have hnotCompleted : a.state ≠ .completed := by
    obtain ⟨b, hb, -, hmatch⟩ := hwf.consistent
    rw [Option.mem_def, ha] at hb
    cases hb
    rw [hunfinished] at hmatch
    exact hmatch
  have hended : (a.settledAt clock.statement).state = .failed
      ∨ (a.settledAt clock.statement).state = .uncertain := by
    unfold Attempt.settledAt
    cases hstate : a.state with
    | prepared => exact Or.inr rfl
    | publishing => exact Or.inr rfl
    | completed => exact absurd hstate hnotCompleted
    | failed => exact Or.inl hstate
    | uncertain => exact Or.inr hstate
  have hsettled : (a.settledAt clock.statement).checks C.sha := by
    cases hterminal : a.state.terminal with
    | true =>
      unfold Attempt.settledAt
      rw [if_pos hterminal]
      exact hwf.checks a hmem
    | false => exact settled_checks (hwf.checks a hmem) hterminal (htimed a hmem)
  obtain ⟨-, hdigest, hlength, -, -⟩ := hwf.rowChecks
  refine ⟨?_, hcurrent⟩
  have hadvanced : Advanced C x (x.takenOverBy a request key clock) a
      (a.settledAt clock.statement)
      { newAttempt request.attemptCount key with preparedAt := clock.transaction } :=
    { reads := ha
      fence := hsameFence
      count := hsameCount
      ended := hended
      settledChecks := hsettled
      higherFence := by
        show x.highestLeaseFence < request.leaseFence
        have := hnext.fence
        omega
      higherCount := by
        show x.highestAttemptCount < request.attemptCount
        have := hnext.count
        omega
      rowFence := hnext.own
      newChecks := newAttempt_checks hnext clock.transaction
      rowChecks := by
        refine ⟨request.ranges, hdigest, hlength, ?_, ?_⟩
        · intro i hi
          have hbound : x.identity = some i := hi
          rw [hunbound] at hbound
          cases hbound
        · intro c hc
          have hcompleted : x.completion = some c := hc
          rw [hunfinished] at hcompleted
          cases hcompleted
      begun := fun hbound => absurd hunbound hbound
      recovered := by
        intro r hr
        have hlt := hwf.recovered r hr
        have hnextFence := hnext.fence
        show r.abandoned.leaseFence < request.leaseFence
        omega
      consistent := by
        refine ⟨_, hcurrent, rfl, ?_⟩
        have hnone : (x.takenOverBy a request key clock).completion = none := hunfinished
        rw [hnone]
        intro h
        cases h
      request := rfl
      planDigest := rfl
      planBytes := rfl
      identity := rfl
      completion := ⟨hunfinished, hunfinished⟩
      attempts := rfl }
  exact advanced_wf hwf hadvanced

/-- **A takeover by the next fence succeeds** where no identity is bound. -/
theorem takeOver_intro (hwf : x.WF C) (ha : x.current = some a)
    (hunfinished : x.completion = none) (hunbound : x.identity = none)
    {request : ControlRunExecutionRequest}
    (hnext : NextAttempt x request key) (htimed : x.Timed clock.statement) (hof : current.Of x a) :
    ∃ r, takeOver C clock request key x current
        = .ok (x.takenOverBy a request key clock, r)
      ∧ r.Of (x.takenOverBy a request key clock)
        { newAttempt request.attemptCount key with preparedAt := clock.transaction } := by
  obtain ⟨hwf', hcurrent'⟩ := takenOverBy_wf hwf ha hunfinished hunbound hnext htimed
  obtain ⟨r, hreread, hof'⟩ := hwf'.reread hcurrent' "recovered execution could not be reread"
    "execution preparation was rejected"
  refine ⟨r, ?_, hof'⟩
  obtain ⟨hsameFence, hsameCount⟩ := settledAt_same a clock.statement
  have hcount := hnext.count
  have hfence := hnext.fence
  unfold takeOver
  simp only [bind_eq_ok, require_eq_ok, rejectedAs_eq_ok, expect_eq_ok]
  refine ⟨(), ?_, (), ?_, x.replace a (a.settledAt clock.statement),
    supersede_intro hwf ha hunfinished hof htimed,
    some { x.replace a (a.settledAt clock.statement) with
      highestLeaseFence := request.leaseFence
      highestAttemptCount := request.attemptCount }, ?_, _, rfl, _, ?_, hreread⟩
  · rw [hof.attemptCount, hwf.current_count ha]
    omega
  · rw [hof.identity, hunbound]
    simp
  · -- the trigger has nothing against an unbound execution
    unfold RunJournal.updateRow guardExecutionUpdate
    rw [if_pos (decide_eq_true ⟨hof.highest.symm,
      (hof.attemptCount.trans (hwf.current_count ha)).symm, hunfinished⟩)]
    simp only [bind_eq_ok, require_eq_ok, pure_eq_ok]
    refine ⟨(), ⟨(), ⟨trivial, trivial, trivial⟩, (), ?_, (), ?_, (), ?_, (), ?_, (), ?_, ?_⟩,
      (), ?_, trivial⟩
    · show x.highestLeaseFence ≤ request.leaseFence
        ∧ x.highestAttemptCount ≤ request.attemptCount
        ∧ (x.highestLeaseFence < request.leaseFence →
          x.highestAttemptCount < request.attemptCount)
        ∧ (request.leaseFence = x.highestLeaseFence →
          request.attemptCount = x.highestAttemptCount)
      omega
    · exact fun hcompleted => absurd hunfinished hcompleted
    · exact fun hcompleted => absurd hunfinished hcompleted
    · exact fun hbound => absurd hunbound hbound
    · exact fun hbound => absurd hunbound hbound
    · exact fun _ hbound => absurd hunbound hbound
    · exact hwf'.rowChecks
  · unfold RunJournal.insertAttempt ownAttemptInsertClock
    simp only [bind_eq_ok, require_eq_ok, pure_eq_ok]
    refine ⟨{ newAttempt request.attemptCount key with preparedAt := clock.transaction },
      ⟨(), ⟨hnext.own, rfl, rfl, rfl, rfl⟩, ?_⟩, (), newAttempt_checks hnext _, (), ?_, (), ?_,
      rfl⟩
    · rw [if_pos ⟨rfl, rfl, rfl⟩]
      rfl
    · intro hin
      obtain ⟨b, hb, hsame⟩ := List.mem_map.mp hin
      have hle := (replace_bounded hwf ha hsameFence hsameCount hb).1
      have hnew : b.leaseFence = request.leaseFence := hsame.trans hnext.own
      omega
    · intro hin
      obtain ⟨b, hb, hsame⟩ := List.mem_map.mp hin
      have hle := (replace_bounded hwf ha hsameFence hsameCount hb).2
      have hnew : b.attemptCount = request.attemptCount := hsame
      omega

end

end ControlAssurance.Execution
