import Mathlib.Logic.Relation
import ControlAssurance.Execution.JournalSteps

/-!
# Over whole runs of the journal

The journal's methods as calls, the invariant of the rows of one run, and the order
between an earlier and a later state of them. `Change` is what one committed call does;
every change keeps `WF` and leads to a `Later` state, so both hold along any sequence of
calls, in whatever order their callers make them.
-/

namespace ControlAssurance.Execution

open Lib
open Admission (Bytes)
open ControlAssurance.Runtime (ControlRunExecutionResult)

/-! ## Calls -/

inductive JournalCall where
  | prepare (request : ControlRunExecutionRequest) (workerId : String)
      (leaseTokenDigest : Digest) (plan : Option Bytes)
  | get
  | beginPublishing (key : AttemptKey) (expectedRevision : Nat)
  | bindExecutionIdentity (key : AttemptKey) (expectedRevision : Nat) (identity : BoundIdentity)
  | markFailed (key : AttemptKey) (expectedRevision : Nat) (errorCode : String)
  | markUncertain (key : AttemptKey) (expectedRevision : Nat) (errorCode : String)
  | markCompleted (runId : Digest) (key : AttemptKey) (expectedRevision : Nat)
      (result : ControlRunExecutionResult) (receiptBytes : Bytes)
  | recover (pins : RecoveryPins) (expectation : JournalExpectation) (value : Bytes)

/-- A call on the rows of the run: the rows it leaves and its answer, or its exception. -/
def JournalCall.run (C : Codec) (clock : RecoveryClock) (call : JournalCall)
    (s : Option RunJournal) : Except JournalError (RunJournal × ExecutionJournalRecord) :=
  match call with
  | .prepare request workerId token plan =>
    Execution.prepare C clock.toClock request workerId token plan s
  | .get => Execution.get C s
  | .beginPublishing key revision => Execution.beginPublishing C clock.toClock key revision s
  | .bindExecutionIdentity key revision i => Execution.bindExecutionIdentity C key revision i s
  | .markFailed key revision code => Execution.markFailed C clock.toClock key revision code s
  | .markUncertain key revision code =>
    Execution.markUncertain C clock.toClock key revision code s
  | .markCompleted runId key revision result receipt =>
    Execution.markCompleted C clock.toClock runId key revision result receipt s
  | .recover pins expectation value =>
    recoverIdentityBoundPublication C clock pins expectation value s

/-- The attempt a call names as its caller's. -/
def JournalCall.key : JournalCall → Option AttemptKey
  | .prepare request workerId token _ => some ⟨request.leaseFence, workerId, token⟩
  | .beginPublishing key _ => some key
  | .bindExecutionIdentity key _ _ => some key
  | .markFailed key _ _ => some key
  | .markUncertain key _ _ => some key
  | .markCompleted _ key _ _ _ => some key
  | .get => none
  | .recover .. => none

/-- What a committed call of a caller does to the rows. -/
inductive Change (C : Codec) : Option AttemptKey → Option RunJournal → RunJournal → Prop
  | same {who} (x : RunJournal) : Change C who (some x) x
  | created {x' request key plan now} (h : Created C x' request key plan now) :
      Change C (some key) none x'
  | moved {x x' key revision t old new} (h : Moved C x x' key revision t old new) :
      Change C (some key) (some x) x'
  | bound {x x' key i a} (h : IdentityBound C x x' key i a) : Change C (some key) (some x) x'
  | completed {x x' key revision outcome old new}
      (h : RunCompleted C x x' key revision outcome old new) : Change C (some key) (some x) x'
  | takenOver {x x' request key now old settled}
      (h : TakenOver C x x' request key now old settled) : Change C (some key) (some x) x'
  | adopted {x x' r old new} (h : Adopted C x x' r old new) (hconsistent : x'.consistent) :
      Change C none (some x) x'

variable {C : Codec} {x x' : RunJournal}

variable {s : Option RunJournal} {a b : Attempt}

theorem transition_change {clock : Clock} {key : AttemptKey} {revision : Nat} {t : Transition}
    {r : ExecutionJournalRecord} (h : transition C clock key revision t s = .ok (x', r)) :
    Change C (some key) s x' ∧ Answers x' r := by
  obtain ⟨x, rfl, hanswers, -, ⟨rfl, -⟩ | ⟨old, new, hmoved⟩⟩ := transition_ok h
  · exact ⟨.same _, hanswers⟩
  · exact ⟨.moved hmoved, hanswers⟩

theorem run_change {clock : RecoveryClock} {call : JournalCall}
    {r : ExecutionJournalRecord} (hnodup : ∀ x ∈ s, (x.attempts.map (·.leaseFence)).Nodup)
    (h : call.run C clock s = .ok (x', r)) : Change C call.key s x' ∧ Answers x' r := by
  cases call with
  | prepare request workerId token plan =>
    obtain ⟨hanswers, ⟨rfl, -⟩ | ⟨rfl, p, -, hcreated⟩ | ⟨x, rfl, old, settled, htaken⟩⟩ :=
      prepare_ok hnodup h
    · exact ⟨.same _, hanswers⟩
    · exact ⟨.created hcreated, hanswers⟩
    · exact ⟨.takenOver htaken, hanswers⟩
  | get =>
    obtain ⟨rfl, a, ha, hof, -⟩ := readCurrent_ok h
    exact ⟨.same _, a, ha, hof⟩
  | beginPublishing key revision => exact transition_change h
  | bindExecutionIdentity key revision i =>
    obtain ⟨x, rfl, hanswers, -, -, -, rfl | ⟨a, hbound⟩⟩ := bindExecutionIdentity_ok h
    · exact ⟨.same _, hanswers⟩
    · exact ⟨.bound hbound, hanswers⟩
  | markFailed key revision code => exact transition_change h
  | markUncertain key revision code => exact transition_change h
  | markCompleted runId key revision result receipt =>
    obtain ⟨x, rfl, hanswers, -, -, rfl | ⟨old, new, hcompleted⟩⟩ := markCompleted_ok h
    · exact ⟨.same _, hanswers⟩
    · exact ⟨.completed hcompleted, hanswers⟩
  | recover pins expectation value =>
    obtain ⟨x, rfl, hanswers, -, hconsistent, row, old, new, hadopted, -⟩ := recover_ok hnodup h
    exact ⟨.adopted hadopted hconsistent, hanswers⟩

/-! ## The invariant -/

/-- What holds of the rows of a run. -/
structure RunJournal.WF (C : Codec) (x : RunJournal) : Prop where
  fences : (x.attempts.map (·.leaseFence)).Nodup
  checks : ∀ a ∈ x.attempts, a.checks C.sha
  rowChecks : x.toExecutionRow.checks C
  verified : C.verifyPlan x.request x.planBytes ≠ none
  consistent : x.consistent
  /-- Every attempt below the highest fence has ended, and not as completed. -/
  earlier : ∀ a ∈ x.attempts, a.leaseFence ≠ x.highestLeaseFence →
    a.leaseFence < x.highestLeaseFence ∧ a.attemptCount < x.highestAttemptCount
      ∧ (a.state = .failed ∨ a.state = .uncertain)
  identity : ∀ i ∈ x.identity, ∃ identity ∈ identityExact C i,
    identityBinds C identity x.request x.planBytes x.planDigest
  /-- A bound identity is that of an attempt which has begun to publish. -/
  begun : x.identity ≠ none → ∀ a ∈ x.attempts, a.leaseFence = x.highestLeaseFence →
    a.state ≠ .prepared
  receipts : ∀ c ∈ x.completion,
    receiptExact C c.2.executorReceiptBytes c.2.executorReceiptDigest
  /-- No recovery row abandons the highest fence. -/
  recovered : ∀ r ∈ x.recoveries, r.abandoned.leaseFence < x.highestLeaseFence

theorem mem_replace {old new : Attempt} (hmem : old ∈ x.attempts) :
    a ∈ (x.replace old new).attempts ↔
      a = new ∨ (a ∈ x.attempts ∧ a.leaseFence ≠ old.leaseFence) := by
  unfold RunJournal.replace
  rw [mem_updateWhere]
  constructor
  · rintro (⟨_, -, -, rfl⟩ | ⟨ha, hne⟩)
    · exact Or.inl rfl
    · exact Or.inr ⟨ha, by simpa using hne⟩
  · rintro (rfl | ⟨ha, hne⟩)
    · exact Or.inl ⟨old, hmem, by simp, rfl⟩
    · exact Or.inr ⟨ha, by simpa using hne⟩

theorem replace_fences {old new : Attempt} (hfence : new.leaseFence = old.leaseFence) :
    (x.replace old new).attempts.map (·.leaseFence) = x.attempts.map (·.leaseFence) := by
  unfold RunJournal.replace updateWhere
  rw [List.map_map]
  apply List.map_congr_left
  intro a _
  by_cases ha : a.leaseFence = old.leaseFence
  · simp [ha, hfence]
  · simp [ha]

/-- The only attempt with the highest fence is the current one. -/
theorem RunJournal.WF.current_eq (h : x.WF C) (ha : x.current = some a)
    (hb : b ∈ x.attempts) (hfence : b.leaseFence = x.highestLeaseFence) : b = a :=
  List.inj_on_of_nodup_map h.fences hb (current_mem ha).1
    (hfence.trans (current_mem ha).2.symm)

theorem RunJournal.WF.current_count (h : x.WF C) (ha : x.current = some a) :
    a.attemptCount = x.highestAttemptCount := by
  obtain ⟨b, hb, hcount, -⟩ := h.consistent
  rw [Option.mem_def, ha] at hb
  cases hb
  exact hcount

/-- A completed attempt is the current one of a completed run, and has its outcome. -/
theorem RunJournal.WF.completed (h : x.WF C) (ha : a ∈ x.attempts) (hstate : a.state = .completed) :
    ∃ c, x.completion = some c ∧ c.1 = a.leaseFence ∧ some c.2 = a.outcome
      ∧ a.leaseFence = x.highestLeaseFence := by
  have hfence : a.leaseFence = x.highestLeaseFence := by
    by_contra hne
    obtain ⟨-, -, hend⟩ := h.earlier a ha hne
    rw [hstate] at hend
    simp at hend
  obtain ⟨b, hb, -, hmatch⟩ := h.consistent
  obtain rfl := h.current_eq hb ha hfence
  cases hcompletion : x.completion with
  | none =>
    rw [hcompletion] at hmatch
    exact absurd hstate hmatch
  | some c =>
    rw [hcompletion] at hmatch
    exact ⟨c, rfl, hmatch.2.1, hmatch.2.2, hfence⟩

/-- The attempt of a completed run is completed. -/
theorem RunJournal.WF.completion_current (h : x.WF C) {c : Nat × Outcome}
    (ha : x.current = some a) (hc : x.completion = some c) :
    a.state = .completed ∧ c.1 = a.leaseFence ∧ some c.2 = a.outcome := by
  obtain ⟨b, hb, -, hmatch⟩ := h.consistent
  rw [Option.mem_def, ha] at hb
  cases hb
  rw [hc] at hmatch
  exact hmatch

/-! ## Every change keeps it -/

section

variable {old new : Attempt}

theorem replace_checks (h : x.WF C) (hmem : old ∈ x.attempts) (hchecks : new.checks C.sha)
    {a : Attempt} (ha : a ∈ (x.replace old new).attempts) : a.checks C.sha := by
  rcases (mem_replace hmem).mp ha with rfl | ⟨ha, -⟩
  · exact hchecks
  · exact h.checks a ha

theorem Updated.earlier (h : x.WF C) (hupdated : Updated C x old new) {a : Attempt}
    (ha : a ∈ (x.replace old new).attempts) (hne : a.leaseFence ≠ x.highestLeaseFence) :
    a.leaseFence < x.highestLeaseFence ∧ a.attemptCount < x.highestAttemptCount
      ∧ (a.state = .failed ∨ a.state = .uncertain) := by
  rcases (mem_replace hupdated.mem).mp ha with rfl | ⟨ha, -⟩
  · exact absurd (hupdated.same.1.trans hupdated.current) hne
  · exact h.earlier a ha hne

theorem Attempt.mayBecome.begun (h : old.mayBecome new) : new.state ≠ .prepared := by
  intro hprepared
  rcases h with ⟨-, hstate, -⟩ | ⟨-, hstate, -, -⟩
  · rw [hprepared] at hstate
    simp at hstate
  · rw [hprepared] at hstate
    simp at hstate

theorem Updated.begun (hupdated : Updated C x old new) {a : Attempt}
    (ha : a ∈ (x.replace old new).attempts) (hfence : a.leaseFence = x.highestLeaseFence) :
    a.state ≠ .prepared := by
  rcases (mem_replace hupdated.mem).mp ha with rfl | ⟨-, hne⟩
  · exact hupdated.moves.begun
  · exact absurd (hfence.trans hupdated.current.symm) hne

variable {key : AttemptKey} {now : Time} {settled : Attempt}

theorem moved_wf (h : x.WF C) {revision : Nat} {t : Transition}
    (hmoved : Moved C x x' key revision t old new) : x'.WF C := by
  have hconsistent := hmoved.consistent
  rw [hmoved.result] at hconsistent ⊢
  exact
    { fences := by rw [replace_fences hmoved.same.1]; exact h.fences
      checks := fun a ha => replace_checks h hmoved.mem hmoved.checks ha
      rowChecks := h.rowChecks
      verified := h.verified
      consistent := hconsistent
      earlier := fun a ha hne => hmoved.toUpdated.earlier h ha hne
      identity := h.identity
      begun := fun _ a ha hfence => hmoved.toUpdated.begun ha hfence
      receipts := h.receipts
      recovered := h.recovered }

theorem completed_wf (h : x.WF C) {revision : Nat} {outcome : Outcome}
    (hcompleted : RunCompleted C x x' key revision outcome old new) : x'.WF C := by
  have hconsistent := hcompleted.consistent
  have hrow := hcompleted.rowChecks
  rw [hcompleted.result] at hconsistent hrow ⊢
  exact
    { fences := by
        show ((x.replace old new).attempts.map (·.leaseFence)).Nodup
        rw [replace_fences hcompleted.same.1]
        exact h.fences
      checks := fun a ha => replace_checks h hcompleted.mem hcompleted.checks ha
      rowChecks := hrow
      verified := h.verified
      consistent := hconsistent
      earlier := fun a ha hne => hcompleted.toUpdated.earlier h ha hne
      identity := h.identity
      begun := fun _ a ha hfence => hcompleted.toUpdated.begun ha hfence
      receipts := by
        intro c hc
        cases hc
        exact hcompleted.receipt
      recovered := h.recovered }

theorem bound_wf (h : x.WF C) {i : BoundIdentity} {a : Attempt}
    (hbound : IdentityBound C x x' key i a) : x'.WF C := by
  have hconsistent := hbound.consistent
  have hrow := hbound.rowChecks
  rw [hbound.result] at hconsistent hrow ⊢
  exact
    { fences := h.fences
      checks := h.checks
      rowChecks := hrow
      verified := h.verified
      consistent := hconsistent
      earlier := h.earlier
      identity := by
        intro j hj
        cases hj
        exact hbound.exact
      begun := by
        intro _ b hb hfence
        rw [h.current_eq hbound.reads hb hfence, hbound.publishing]
        simp
      receipts := h.receipts
      recovered := h.recovered }

theorem created_wf {request : ControlRunExecutionRequest} {plan : Bytes}
    (hcreated : Created C x' request key plan now) : x'.WF C := by
  have hconsistent := hcreated.consistent
  have hrow := hcreated.rowChecks
  have hattempts := hcreated.attemptChecks
  rw [hcreated.result] at hconsistent hrow hattempts ⊢
  exact
    { fences := by simp
      checks := hattempts
      rowChecks := hrow
      verified := hcreated.verified
      consistent := hconsistent
      earlier := by
        intro a ha hne
        obtain rfl := List.mem_singleton.mp ha
        exact absurd hcreated.fence hne
      identity := by
        intro i hi
        cases hi
      begun := fun hbound => absurd rfl hbound
      receipts := by
        intro c hc
        cases hc
      recovered := by
        intro r hr
        cases hr }

/-- The fence advanced: the old attempt has ended and a new one is current. Common to a
takeover and an adoption. -/
structure Advanced (C : Codec) (x x' : RunJournal) (old settled row : Attempt) : Prop where
  reads : x.current = some old
  fence : settled.leaseFence = old.leaseFence
  count : settled.attemptCount = old.attemptCount
  ended : settled.state = .failed ∨ settled.state = .uncertain
  settledChecks : settled.checks C.sha
  higherFence : x.highestLeaseFence < x'.highestLeaseFence
  higherCount : x.highestAttemptCount < x'.highestAttemptCount
  rowFence : row.leaseFence = x'.highestLeaseFence
  newChecks : row.checks C.sha
  rowChecks : x'.toExecutionRow.checks C
  begun : x'.identity ≠ none → row.state ≠ .prepared
  recovered : ∀ r ∈ x'.recoveries, r.abandoned.leaseFence < x'.highestLeaseFence
  consistent : x'.consistent
  request : x'.request = x.request
  planDigest : x'.planDigest = x.planDigest
  planBytes : x'.planBytes = x.planBytes
  identity : x'.identity = x.identity
  completion : x'.completion = none ∧ x.completion = none
  attempts : x'.attempts = (x.replace old settled).attempts ++ [row]

theorem Advanced.earlier {row : Attempt} (h : x.WF C)
    (hadvanced : Advanced C x x' old settled row) {a : Attempt}
    (ha : a ∈ (x.replace old settled).attempts) :
    a.leaseFence < x'.highestLeaseFence ∧ a.attemptCount < x'.highestAttemptCount
      ∧ (a.state = .failed ∨ a.state = .uncertain) := by
  obtain ⟨hmem, hcurrent⟩ := current_mem hadvanced.reads
  rcases (mem_replace hmem).mp ha with rfl | ⟨ha, hne⟩
  · refine ⟨?_, ?_, hadvanced.ended⟩
    · rw [hadvanced.fence, hcurrent]
      exact hadvanced.higherFence
    · rw [hadvanced.count, h.current_count hadvanced.reads]
      exact hadvanced.higherCount
  · rw [hcurrent] at hne
    obtain ⟨hfence, hcount, hended⟩ := h.earlier a ha hne
    exact ⟨hfence.trans hadvanced.higherFence, hcount.trans hadvanced.higherCount, hended⟩

theorem advanced_wf {row : Attempt} (h : x.WF C)
    (hadvanced : Advanced C x x' old settled row) : x'.WF C := by
  obtain ⟨hmem, hcurrent⟩ := current_mem hadvanced.reads
  exact
    { fences := by
        rw [hadvanced.attempts, List.map_append, replace_fences hadvanced.fence]
        refine List.Nodup.append h.fences (List.nodup_singleton _) ?_
        intro f hf hrow
        obtain rfl := List.mem_singleton.mp hrow
        rw [← replace_fences hadvanced.fence] at hf
        obtain ⟨a, ha, he⟩ := List.mem_map.mp hf
        have hlt := (hadvanced.earlier h ha).1
        have hsame : a.leaseFence = x'.highestLeaseFence := he.trans hadvanced.rowFence
        exact hlt.ne hsame
      checks := by
        intro a ha
        rw [hadvanced.attempts] at ha
        rcases List.mem_append.mp ha with ha | ha
        · exact replace_checks h hmem hadvanced.settledChecks ha
        · obtain rfl := List.mem_singleton.mp ha
          exact hadvanced.newChecks
      rowChecks := hadvanced.rowChecks
      verified := by
        rw [hadvanced.request, hadvanced.planBytes]
        exact h.verified
      consistent := hadvanced.consistent
      earlier := by
        intro a ha hne
        rw [hadvanced.attempts] at ha
        rcases List.mem_append.mp ha with ha | ha
        · exact hadvanced.earlier h ha
        · obtain rfl := List.mem_singleton.mp ha
          exact absurd hadvanced.rowFence hne
      identity := by
        rw [hadvanced.identity, hadvanced.request, hadvanced.planBytes, hadvanced.planDigest]
        exact h.identity
      begun := by
        intro hbound a ha hfence
        rw [hadvanced.attempts] at ha
        rcases List.mem_append.mp ha with ha | ha
        · exact absurd hfence (hadvanced.earlier h ha).1.ne
        · obtain rfl := List.mem_singleton.mp ha
          exact hadvanced.begun hbound
      receipts := by
        rw [hadvanced.completion.1]
        intro c hc
        cases hc
      recovered := hadvanced.recovered }

/-- A takeover happens only where no identity is bound. -/
theorem TakenOver.unbound (h : x.WF C) {request : ControlRunExecutionRequest}
    (htaken : TakenOver C x x' request key now old settled) : x.identity = none := by
  by_contra hbound
  obtain ⟨r, hr, hfence⟩ := htaken.recovered hbound
  have hlt := h.recovered r hr
  rw [hfence] at hlt
  exact lt_irrefl _ hlt

theorem TakenOver.advanced (h : x.WF C) {request : ControlRunExecutionRequest}
    (htaken : TakenOver C x x' request key now old settled) :
    Advanced C x x' old settled { newAttempt request.attemptCount key with preparedAt := now } := by
  have hunbound := htaken.unbound h
  have hconsistent := htaken.consistent
  have hrow := htaken.rowChecks
  have hcount := htaken.higherCount
  rw [h.current_count htaken.reads] at hcount
  have hsettled : settled.leaseFence = old.leaseFence ∧ settled.attemptCount = old.attemptCount
      ∧ (settled.state = .failed ∨ settled.state = .uncertain) ∧ settled.checks C.sha := by
    rcases htaken.settles with ⟨hterminal, rfl⟩ | ⟨hupdated, hstate, -⟩
    · refine ⟨rfl, rfl, ?_, h.checks _ (current_mem htaken.reads).1⟩
      cases hstate : settled.state with
      | prepared => rw [hstate] at hterminal; cases hterminal
      | publishing => rw [hstate] at hterminal; cases hterminal
      | completed => exact absurd hstate htaken.notCompleted
      | failed => exact Or.inl rfl
      | uncertain => exact Or.inr rfl
    · exact ⟨hupdated.same.1, hupdated.same.2.1, Or.inr hstate, hupdated.checks⟩
  obtain ⟨hfence, hcountSame, hended, hchecks⟩ := hsettled
  rw [htaken.result] at hconsistent hrow ⊢
  exact
    { reads := htaken.reads
      fence := hfence
      count := hcountSame
      ended := hended
      settledChecks := hchecks
      higherFence := htaken.higherFence
      higherCount := hcount
      rowFence := htaken.fence
      newChecks := htaken.newChecks
      rowChecks := hrow
      begun := fun hbound => absurd hunbound hbound
      recovered := fun r hr => (h.recovered r hr).trans htaken.higherFence
      consistent := hconsistent
      request := rfl
      planDigest := rfl
      planBytes := rfl
      identity := rfl
      completion := ⟨htaken.unfinished, htaken.unfinished⟩
      attempts := rfl }

theorem Adopted.advanced (h : x.WF C) {r : RecoveryRow} (hadopted : Adopted C x x' r old new)
    (hconsistent : x'.consistent) : Advanced C x x' old new r.successorAttempt := by
  have hrow := hadopted.rowChecks
  obtain ⟨-, -, -, -, hhighest, hcount, hunfinished⟩ := hadopted.named
  obtain ⟨-, -, hnextFence, hnextCount, -⟩ := hadopted.recoveryChecks
  have hreads : x.current = some old := by
    refine find?_eq_of_unique hadopted.mem (decide_eq_true hadopted.current) ?_
    intro a ha hp
    have hfence : a.leaseFence = x.highestLeaseFence := of_decide_eq_true hp
    exact List.inj_on_of_nodup_map h.fences ha hadopted.mem
      (hfence.trans hadopted.current.symm)
  have hfence : x.highestLeaseFence < r.successor.leaseFence := by
    rw [hhighest, hnextFence]
    exact Nat.lt_succ_self _
  rw [hadopted.result] at hconsistent hrow ⊢
  exact
    { reads := hreads
      fence := hadopted.same.1
      count := hadopted.same.2.1
      ended := Or.inr hadopted.superseded.1
      settledChecks := hadopted.checks
      higherFence := hfence
      higherCount := by
        show x.highestAttemptCount < r.successor.attemptCount
        rw [hcount, hnextCount]
        exact Nat.lt_succ_self _
      rowFence := rfl
      newChecks := hadopted.newChecks
      rowChecks := hrow
      begun := fun _ hprepared => by cases hprepared
      recovered := by
        intro q hq
        rcases List.mem_append.mp hq with hq | hq
        · exact (h.recovered q hq).trans hfence
        · obtain rfl := List.mem_singleton.mp hq
          rw [hhighest] at hfence
          exact hfence
      consistent := hconsistent
      request := rfl
      planDigest := rfl
      planBytes := rfl
      identity := rfl
      completion := ⟨hunfinished, hunfinished⟩
      attempts := rfl }

end

/-- Every committed call keeps the invariant. -/
theorem change_wf {who : Option AttemptKey} (h : ∀ x ∈ s, x.WF C)
    (hchange : Change C who s x') : x'.WF C := by
  cases hchange with
  | same => exact h x' rfl
  | created hcreated => exact created_wf hcreated
  | moved hmoved => exact moved_wf (h _ rfl) hmoved
  | bound hbound => exact bound_wf (h _ rfl) hbound
  | completed hcompleted => exact completed_wf (h _ rfl) hcompleted
  | takenOver htaken => exact advanced_wf (h _ rfl) (htaken.advanced (h _ rfl))
  | adopted hadopted hconsistent =>
    exact advanced_wf (h _ rfl) (hadopted.advanced (h _ rfl) hconsistent)

/-! ## Later states -/

/-- One move of an attempt: from `prepared` to `publishing`, `failed` or `uncertain`, or from
`publishing` to `completed`, `failed` or `uncertain`. -/
def Attempt.step (a b : Attempt) : Prop :=
  a.sameIdentity b ∧ a.mayBecome b

/-- Any number of moves. -/
def Attempt.evolves : Attempt → Attempt → Prop :=
  Relation.ReflTransGen Attempt.step

theorem Attempt.step.unfinished (h : a.step b) : a.state.terminal = false := by
  rcases h.2 with ⟨hstate, -⟩ | ⟨hstate, -⟩
  · rw [hstate]; rfl
  · rw [hstate]; rfl

/-- An attempt that has ended does not change. -/
theorem Attempt.evolves.eq_of_terminal (h : a.evolves b)
    (hterminal : a.state.terminal = true) : b = a := by
  rcases Relation.ReflTransGen.cases_head h with rfl | ⟨c, hstep, -⟩
  · rfl
  · rw [hstep.unfinished] at hterminal
    cases hterminal

/-- What a later state of a run keeps. -/
structure RunJournal.Later (x x' : RunJournal) : Prop where
  request : x'.request = x.request
  planDigest : x'.planDigest = x.planDigest
  planBytes : x'.planBytes = x.planBytes
  identity : ∀ i, x.identity = some i → x'.identity = some i
  fence : x.highestLeaseFence ≤ x'.highestLeaseFence
  attempts : ∀ a ∈ x.attempts, ∃ b ∈ x'.attempts, a.evolves b
  /-- A completed run keeps its completion and gets no further attempt. -/
  completion : ∀ c, x.completion = some c → x'.completion = some c ∧ x'.attempts = x.attempts

theorem RunJournal.Later.refl (x : RunJournal) : x.Later x :=
  ⟨rfl, rfl, rfl, fun _ h => h, le_rfl, fun a ha => ⟨a, ha, .refl⟩, fun _ h => ⟨h, rfl⟩⟩

theorem RunJournal.Later.trans {x y z : RunJournal} (hxy : x.Later y) (hyz : y.Later z) :
    x.Later z := by
  refine ⟨hyz.request.trans hxy.request, hyz.planDigest.trans hxy.planDigest,
    hyz.planBytes.trans hxy.planBytes, fun i hi => hyz.identity i (hxy.identity i hi),
    hxy.fence.trans hyz.fence, ?_, ?_⟩
  · intro a ha
    obtain ⟨b, hb, hab⟩ := hxy.attempts a ha
    obtain ⟨c, hc, hbc⟩ := hyz.attempts b hb
    exact ⟨c, hc, Relation.ReflTransGen.trans hab hbc⟩
  · intro c hc
    obtain ⟨hy, hattemptsY⟩ := hxy.completion c hc
    obtain ⟨hz, hattemptsZ⟩ := hyz.completion c hy
    exact ⟨hz, hattemptsZ.trans hattemptsY⟩

/-- An attempt that has ended is in every later state. -/
theorem RunJournal.Later.terminal (h : x.Later x') (ha : a ∈ x.attempts)
    (hterminal : a.state.terminal = true) : a ∈ x'.attempts := by
  obtain ⟨b, hb, hevolves⟩ := h.attempts a ha
  rw [hevolves.eq_of_terminal hterminal] at hb
  exact hb

/-- An update moves one attempt and leaves the others. -/
theorem replace_evolves {old new : Attempt} (hnodup : (x.attempts.map (·.leaseFence)).Nodup)
    (hmem : old ∈ x.attempts) (hevolves : old.evolves new)
    (ha : a ∈ x.attempts) : ∃ b ∈ (x.replace old new).attempts, a.evolves b := by
  by_cases hfence : a.leaseFence = old.leaseFence
  · obtain rfl := List.inj_on_of_nodup_map hnodup ha hmem hfence
    exact ⟨new, (mem_replace hmem).mpr (Or.inl rfl), hevolves⟩
  · exact ⟨a, (mem_replace hmem).mpr (Or.inr ⟨ha, hfence⟩), .refl⟩

theorem Updated.evolves {old new : Attempt} (h : Updated C x old new) : old.evolves new :=
  .single ⟨h.same, h.moves⟩

theorem Advanced.later {old settled row : Attempt} (h : x.WF C)
    (hadvanced : Advanced C x x' old settled row) (hsettled : old.evolves settled) :
    x.Later x' := by
  refine ⟨hadvanced.request, hadvanced.planDigest, hadvanced.planBytes, ?_,
    hadvanced.higherFence.le, ?_, ?_⟩
  · intro i hi
    rw [hadvanced.identity]
    exact hi
  · intro a ha
    obtain ⟨b, hb, hab⟩ :=
      replace_evolves h.fences (current_mem hadvanced.reads).1 hsettled ha
    refine ⟨b, ?_, hab⟩
    rw [hadvanced.attempts]
    exact List.mem_append_left _ hb
  · intro c hc
    rw [hadvanced.completion.2] at hc
    cases hc

/-- Every committed call leads to a later state. -/
theorem change_later {who : Option AttemptKey} (h : ∀ x ∈ s, x.WF C)
    (hchange : Change C who s x') : ∀ x ∈ s, x.Later x' := by
  cases hchange with
  | same =>
    intro y hy
    cases hy
    exact .refl _
  | created hcreated =>
    intro y hy
    cases hy
  | moved hmoved =>
    intro y hy
    cases hy
    rw [hmoved.result]
    refine ⟨rfl, rfl, rfl, fun _ hi => hi, le_rfl, ?_, ?_⟩
    · exact fun a ha => replace_evolves (h _ rfl).fences hmoved.mem hmoved.toUpdated.evolves ha
    · intro c hc
      rw [hmoved.unfinished] at hc
      cases hc
  | bound hbound =>
    intro y hy
    cases hy
    rw [hbound.result]
    refine ⟨rfl, rfl, rfl, ?_, le_rfl, fun a ha => ⟨a, ha, .refl⟩, fun c hc => ⟨hc, rfl⟩⟩
    intro j hj
    rw [hbound.unbound] at hj
    cases hj
  | completed hcompleted =>
    intro y hy
    cases hy
    rw [hcompleted.result]
    refine ⟨rfl, rfl, rfl, fun _ hi => hi, le_rfl, ?_, ?_⟩
    · exact fun a ha =>
        replace_evolves (h _ rfl).fences hcompleted.mem hcompleted.toUpdated.evolves ha
    · intro c hc
      rw [hcompleted.unfinished] at hc
      cases hc
  | takenOver htaken =>
    intro y hy
    cases hy
    refine (htaken.advanced (h _ rfl)).later (h _ rfl) ?_
    rcases htaken.settles with ⟨-, rfl⟩ | ⟨hupdated, -⟩
    · exact .refl
    · exact hupdated.evolves
  | adopted hadopted hconsistent =>
    intro y hy
    cases hy
    exact (hadopted.advanced (h _ rfl) hconsistent).later (h _ rfl) hadopted.toUpdated.evolves

end ControlAssurance.Execution
