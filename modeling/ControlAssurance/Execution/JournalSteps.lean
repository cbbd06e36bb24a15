import ControlAssurance.Execution.Recovery

/-!
# What a committed journal transaction changes

A transaction of the journal leaves the rows of its run alone or makes one of six
changes: the run is created, the current attempt moves, the identity is bound, the run
is completed, a higher fence takes over, or a signed recovery adopts the publication.
Each change is a structure that says all of it, guards and triggers included. The
theorem about a method says which change it made, for which caller, and that its answer
is the record of the rows it leaves.
-/

namespace ControlAssurance.Execution

open Lib
open Admission (Bytes)
open ControlAssurance.Runtime (ControlRunExecutionResult)

/-! ## Statements -/

/-- The rows after attempt `old` became `new`. -/
def RunJournal.replace (x : RunJournal) (old new : Attempt) : RunJournal :=
  { x with
    attempts := updateWhere (fun a => decide (a.leaseFence = old.leaseFence)) (fun _ => new)
      x.attempts }

/-- One update of the current attempt that the trigger and the `CHECK`s let through. -/
structure Updated (C : Codec) (x : RunJournal) (old new : Attempt) : Prop where
  mem : old ∈ x.attempts
  current : old.leaseFence = x.highestLeaseFence
  unfinished : x.completion = none
  same : old.sameIdentity new
  moves : old.mayBecome new
  checks : new.checks C.sha

/-- The columns of the row that the trigger does not write. -/
structure Attempt.Asked (asked row : Attempt) : Prop where
  state : row.state = asked.state
  revision : row.revision = asked.revision
  errorCode : row.errorCode = asked.errorCode
  outcome : row.outcome = asked.outcome

section

variable {C : Codec} {x x' : RunJournal} {clock : Clock}

theorem rejectedAs_eq_ok {α : Type} {text : String} {y : Except SqlError α} {a : α} :
    rejectedAs text y = .ok a ↔ y = .ok a :=
  mapError_eq_ok

variable {now : Time} {r : ExecutionJournalRecord}

theorem guardAttemptUpdate_ok {old asked row : Attempt}
    (h : guardAttemptUpdate x old asked now = .ok row) :
    old.leaseFence = x.highestLeaseFence ∧ x.completion = none ∧ old.sameIdentity row
      ∧ old.mayBecome row ∧ asked.Asked row := by
  unfold guardAttemptUpdate at h
  simp only [bind_eq_ok, require_eq_ok] at h
  obtain ⟨_, hsame, _, ⟨hcurrent, hunfinished⟩, _, hmoves, h⟩ := h
  split at h
  · rename_i hbegin
    simp only [pure_eq_ok] at h
    subst h
    refine ⟨hcurrent, hunfinished, hsame, ?_, ⟨rfl, rfl, rfl, rfl⟩⟩
    rcases hmoves with hmoves | ⟨hpublishing, -⟩
    · exact Or.inl hmoves
    · rw [hbegin.1] at hpublishing
      cases hpublishing
  · split at h
    · simp only [pure_eq_ok] at h
      subst h
      exact ⟨hcurrent, hunfinished, hsame, hmoves, ⟨rfl, rfl, rfl, rfl⟩⟩
    · simp only [pure_eq_ok] at h
      subst h
      exact ⟨hcurrent, hunfinished, hsame, hmoves, ⟨rfl, rfl, rfl, rfl⟩⟩

/-- The row an update of an attempt works on and the row it leaves. -/
theorem updateAttempt_ok {fence : Nat} {matching : Attempt → Bool} {set : Attempt → Attempt}
    (h : x.updateAttempt C fence matching set now = .ok (some x')) :
    ∃ old new, old.leaseFence = fence ∧ matching old = true ∧ Updated C x old new
      ∧ (set old).Asked new ∧ guardAttemptUpdate x old (set old) now = .ok new
      ∧ x' = x.replace old new := by
  unfold RunJournal.updateAttempt at h
  split at h
  · simp at h
  · rename_i old hfind
    simp only [bind_eq_ok, require_eq_ok, pure_eq_ok, Option.some.injEq] at h
    obtain ⟨row, hguard, _, hchecks, rfl⟩ := h
    obtain ⟨hcurrent, hunfinished, hsame, hmoves, hasked⟩ := guardAttemptUpdate_ok hguard
    have hmatch := List.find?_some hfind
    simp only [Bool.and_eq_true, decide_eq_true_eq] at hmatch
    refine ⟨old, row, hmatch.1, hmatch.2,
      ⟨List.mem_of_find?_eq_some hfind, hcurrent, hunfinished, hsame, hmoves, hchecks⟩,
      hasked, hguard, ?_⟩
    unfold RunJournal.replace
    rw [hmatch.1]

/-- An update of the execution row that the trigger and the `CHECK`s let through. -/
structure RowUpdated (C : Codec) (x : RunJournal) (new : ExecutionRow) : Prop where
  request : new.request = x.request
  planDigest : new.planDigest = x.planDigest
  planBytes : new.planBytes = x.planBytes
  completion : x.completion ≠ none → new.completion = x.completion
  identity : x.identity ≠ none → new.identity = x.identity
  /-- a bound identity moves to another fence only with a recovery row -/
  recovered : x.identity ≠ none → x.toExecutionRow.reclaims new →
    ∃ r ∈ x.recoveries, r.advances x.toExecutionRow new
  bound : x.identity = none → new.identity ≠ none →
    (∃ a ∈ x.current, a.state = .publishing) ∧ ¬x.toExecutionRow.reclaims new
  checks : new.checks C

theorem updateRow_ok {matching : Bool} {new : ExecutionRow}
    (h : x.updateRow C matching new = .ok (some x')) :
    matching = true ∧ RowUpdated C x new ∧ x' = { x with toExecutionRow := new } := by
  unfold RunJournal.updateRow at h
  split at h
  · rename_i hmatch
    unfold guardExecutionUpdate at h
    simp only [bind_eq_ok, require_eq_ok, pure_eq_ok, Option.some.injEq] at h
    obtain ⟨_, ⟨_, ⟨hrequest, hdigest, hbytes⟩, _, -, _, hcompletion, _, -, _, hidentity, _,
      hrecovered, hbound⟩, _, hchecks, rfl⟩ := h
    exact ⟨hmatch, ⟨hrequest, hdigest, hbytes, hcompletion, hidentity, hrecovered, hbound,
      hchecks⟩, rfl⟩
  · simp at h

/-- A new attempt the trigger and the constraints let through. -/
structure Inserted (C : Codec) (x : RunJournal) (row : Attempt) : Prop where
  fence : row.leaseFence = x.highestLeaseFence
  count : row.attemptCount = x.highestAttemptCount
  freshFence : ∀ a ∈ x.attempts, a.leaseFence ≠ row.leaseFence
  freshCount : ∀ a ∈ x.attempts, a.attemptCount ≠ row.attemptCount
  checks : row.checks C.sha

theorem insertAttempt_ok {new : Attempt} (h : x.insertAttempt C new now = .ok x') :
    ∃ row, Inserted C x row ∧ x' = { x with attempts := x.attempts ++ [row] }
      ∧ ((new.state = .prepared ∧ row = { new with preparedAt := now })
        ∨ (new.state = .publishing ∧ (∃ r ∈ x.recoveries, r.admits new) ∧ row = new)) := by
  unfold RunJournal.insertAttempt ownAttemptInsertClock at h
  simp only [bind_eq_ok, require_eq_ok, pure_eq_ok] at h
  obtain ⟨row, ⟨_, hmatch, hrow⟩, _, hchecks, _, hfence, _, hcount, rfl⟩ := h
  have hcases : (new.state = .prepared ∧ row = { new with preparedAt := now })
      ∨ (new.state = .publishing ∧ (∃ r ∈ x.recoveries, r.admits new) ∧ row = new) := by
    split at hrow
    · rename_i hprepared
      simp only [pure_eq_ok] at hrow
      exact Or.inl ⟨hprepared.1, hrow.symm⟩
    · split at hrow
      · rename_i hpublishing
        simp only [pure_eq_ok] at hrow
        exact Or.inr ⟨hpublishing.1, hpublishing.2.2.2, hrow.symm⟩
      · simp at hrow
  have hsame : row.leaseFence = new.leaseFence ∧ row.attemptCount = new.attemptCount := by
    rcases hcases with ⟨-, rfl⟩ | ⟨-, -, rfl⟩
    · exact ⟨rfl, rfl⟩
    · exact ⟨rfl, rfl⟩
  refine ⟨row, ⟨?_, ?_, ?_, ?_, hchecks⟩, rfl, hcases⟩
  · rw [hsame.1, hmatch.1]
  · rw [hsame.2, hmatch.2.1]
  · intro a ha he
    exact hfence (List.mem_map.mpr ⟨a, ha, he⟩)
  · intro a ha he
    exact hcount (List.mem_map.mpr ⟨a, ha, he⟩)

/-! ## Records -/

/-- The record of a run and its current attempt. -/
structure ExecutionJournalRecord.Of (r : ExecutionJournalRecord) (x : RunJournal)
    (a : Attempt) : Prop where
  stable : r.request.stable = x.request
  attemptCount : r.request.attemptCount = a.attemptCount
  leaseFence : r.request.leaseFence = x.highestLeaseFence
  highest : r.highestLeaseFence = x.highestLeaseFence
  planDigest : r.planDigest = x.planDigest
  planBytes : r.planBytes = x.planBytes
  identity : r.identity = x.identity
  state : r.state = a.state
  revision : r.revision = a.revision
  workerId : r.workerId = a.workerId
  leaseTokenDigest : r.leaseTokenDigest = a.leaseTokenDigest
  publishingAt : r.publishingAt = a.publishingAt
  errorCode : r.errorCode = a.errorCode
  completion : r.completion = x.completion

theorem recordFromRow_ok {a : Attempt} (h : recordFromRow C x a = .ok r) :
    r.Of x a ∧ r.valid C ∧ x.planDigest = C.sha x.planBytes
      ∧ C.verifyPlan x.request x.planBytes ≠ none := by
  unfold recordFromRow at h
  split at h
  · simp only [bind_eq_ok, require_eq_ok, pure_eq_ok] at h
    obtain ⟨_, hdigest, _, hplan, _, hvalid, rfl⟩ := h
    exact ⟨⟨rfl, rfl, rfl, rfl, rfl, rfl, rfl, rfl, rfl, rfl, rfl, rfl, rfl, rfl⟩, hvalid,
      hdigest, hplan⟩
  · cases h

theorem current_mem {a : Attempt} (h : x.current = some a) :
    a ∈ x.attempts ∧ a.leaseFence = x.highestLeaseFence := by
  have hmatch := List.find?_some h
  exact ⟨List.mem_of_find?_eq_some h, of_decide_eq_true hmatch⟩

/-- What a method knows once it has read the current attempt. -/
theorem readCurrent_ok {s : Option RunJournal} {missing : JournalError}
    (h : readCurrent C s missing = .ok (x, r)) :
    s = some x ∧ ∃ a, x.current = some a ∧ r.Of x a ∧ r.valid C := by
  unfold readCurrent at h
  simp only [bind_eq_ok, expect_eq_ok, pure_eq_ok, Prod.mk.injEq] at h
  obtain ⟨_, hs, a, ha, record, hrecord, rfl, rfl⟩ := h
  obtain ⟨hof, hvalid, -⟩ := recordFromRow_ok hrecord
  exact ⟨hs, a, ha, hof, hvalid⟩

/-- The answer of a method is the record of the rows it leaves. -/
def Answers (x : RunJournal) (r : ExecutionJournalRecord) : Prop :=
  ∃ a, x.current = some a ∧ r.Of x a

theorem reread_ok {y : RunJournal} {missing rejection : String}
    (h : reread C y missing rejection = .ok (x', r)) :
    x' = y ∧ y.consistent ∧ Answers y r ∧ r.valid C := by
  unfold reread RunJournal.commit at h
  simp only [bind_eq_ok, require_eq_ok, rejectedAs_eq_ok, pure_eq_ok, Prod.mk.injEq] at h
  obtain ⟨⟨_, record⟩, hread, _, ⟨_, hconsistent, rfl⟩, rfl, rfl⟩ := h
  obtain ⟨hs, a, ha, hof, hvalid⟩ := readCurrent_ok hread
  cases hs
  exact ⟨rfl, hconsistent, ⟨a, ha, hof⟩, hvalid⟩

end

/-! ## The changes -/

section

variable (C : Codec) (x x' : RunJournal)

/-- The attempt is the caller's. -/
def Attempt.heldBy (a : Attempt) (key : AttemptKey) : Prop :=
  a.leaseFence = key.leaseFence ∧ a.workerId = key.workerId
    ∧ a.leaseTokenDigest = key.leaseTokenDigest

/-- A new run with its first attempt. -/
structure Created (request : ControlRunExecutionRequest) (key : AttemptKey) (plan : Bytes)
    (now : Time) : Prop where
  fence : key.leaseFence = request.leaseFence
  verified : C.verifyPlan request.stable plan ≠ none
  rowChecks : x'.toExecutionRow.checks C
  attemptChecks : ∀ a ∈ x'.attempts, a.checks C.sha
  consistent : x'.consistent
  result : x' =
    { request := request.stable
      planDigest := C.sha plan
      planBytes := plan
      identity := none
      highestLeaseFence := request.leaseFence
      highestAttemptCount := request.attemptCount
      completion := none
      attempts := [{ newAttempt request.attemptCount key with preparedAt := now }]
      recoveries := [] }

/-- The current attempt moved to the target of a transition. -/
structure Moved (key : AttemptKey) (revision : Nat) (t : Transition) (old new : Attempt) :
    Prop extends Updated C x old new where
  held : old.heldBy key
  expected : old.revision = revision
  target : new.state = t.target
  code : new.errorCode = t.errorCode
  outcome : new.outcome = old.outcome
  consistent : x'.consistent
  result : x' = x.replace old new

/-- The identity of the current, publishing attempt was bound. -/
structure IdentityBound (key : AttemptKey) (i : BoundIdentity) (current : Attempt) : Prop where
  reads : x.current = some current
  held : current.heldBy key
  publishing : current.state = .publishing
  unbound : x.identity = none
  unfinished : x.completion = none
  exact : ∃ identity ∈ identityExact C i,
    identityBinds C identity x.request x.planBytes x.planDigest
  rowChecks : x'.toExecutionRow.checks C
  consistent : x'.consistent
  result : x' = { x with identity := some i }

/-- The publishing attempt and with it the run was completed. -/
structure RunCompleted (key : AttemptKey) (revision : Nat) (outcome : Outcome)
    (old new : Attempt) : Prop extends Updated C x old new where
  held : old.heldBy key
  publishing : old.state = .publishing
  expected : old.revision = revision
  target : new.state = .completed ∧ new.outcome = some outcome
  bound : x.identity ≠ none
  receipt : receiptExact C outcome.executorReceiptBytes outcome.executorReceiptDigest
  rowChecks : x'.toExecutionRow.checks C
  consistent : x'.consistent
  result : x' = { x.replace old new with completion := some (key.leaseFence, outcome) }

/-- How a higher fence leaves the attempt it takes over. -/
def Superseded (old settled : Attempt) : Prop :=
  (old.state.terminal = true ∧ settled = old)
    ∨ (Updated C x old settled ∧ settled.state = .uncertain
      ∧ settled.errorCode = some "lease-superseded" ∧ settled.outcome = old.outcome)

/-- A higher fence took over. -/
structure TakenOver (request : ControlRunExecutionRequest) (key : AttemptKey) (now : Time)
    (old settled : Attempt) : Prop where
  reads : x.current = some old
  fence : key.leaseFence = request.leaseFence
  unfinished : x.completion = none
  notCompleted : old.state ≠ .completed
  settles : Superseded C x old settled
  unreconciled : ¬(old.state = .publishing ∧ x.identity ≠ none)
  higherFence : x.highestLeaseFence < request.leaseFence
  higherCount : old.attemptCount < request.attemptCount
  recovered : x.identity ≠ none → ∃ r ∈ x.recoveries,
    r.abandoned.leaseFence = x.highestLeaseFence
  rowChecks : x'.toExecutionRow.checks C
  newChecks : ({ newAttempt request.attemptCount key with preparedAt := now } : Attempt).checks
    C.sha
  freshFence : ∀ a ∈ x.attempts, a.leaseFence ≠ request.leaseFence
  freshCount : ∀ a ∈ x.attempts, a.attemptCount ≠ request.attemptCount
  consistent : x'.consistent
  result : x' = { x.replace old settled with
    highestLeaseFence := request.leaseFence
    highestAttemptCount := request.attemptCount
    attempts := (x.replace old settled).attempts
      ++ [{ newAttempt request.attemptCount key with preparedAt := now }] }

/-- A signed recovery adopted the publication of the current attempt. -/
structure Adopted (r : RecoveryRow) (old new : Attempt) : Prop
    extends Updated C { x with recoveries := x.recoveries ++ [r] } old new where
  abandoned : old.abandonedIn r
  named : x.namedBy r
  fresh : r.authorizationId C ∉ x.recoveries.map (·.authorizationId C)
  recoveryChecks : r.checks C
  superseded : new.state = .uncertain ∧ new.errorCode = some "recovery-superseded"
    ∧ new.finishedAt = some r.consumedAt
  rowChecks : x'.toExecutionRow.checks C
  newChecks : r.successorAttempt.checks C.sha
  freshFence : ∀ a ∈ x.attempts, a.leaseFence ≠ r.successor.leaseFence
  freshCount : ∀ a ∈ x.attempts, a.attemptCount ≠ r.successor.attemptCount
  result : x' = { x.replace old new with
    highestLeaseFence := r.successor.leaseFence
    highestAttemptCount := r.successor.attemptCount
    attempts := (x.replace old new).attempts ++ [r.successorAttempt]
    recoveries := x.recoveries ++ [r] }

end

section

variable {C : Codec} {x x' : RunJournal} {clock : Clock}

/-! ## Transitions -/

variable {a new old : Attempt} {r : ExecutionJournalRecord} {s : Option RunJournal}

variable {key : AttemptKey} {revision : Nat}

theorem heldBy_of
    (hof : r.Of x a) (hcurrent : x.current = some a) (h : r.heldBy key) : a.heldBy key := by
  obtain ⟨hhighest, -, hworker, htoken⟩ := h
  rw [hof.highest] at hhighest
  rw [hof.workerId] at hworker
  rw [hof.leaseTokenDigest] at htoken
  exact ⟨(current_mem hcurrent).2.trans hhighest, hworker, htoken⟩

/-- The columns a transition asks for. -/
theorem Transition.set_fields (t : Transition) (now : Time) (a : Attempt) :
    (t.set now a).state = t.target ∧ (t.set now a).outcome = a.outcome
      ∧ (t ≠ .publishing → (t.set now a).errorCode = t.errorCode) := by
  cases t with
  | publishing => exact ⟨rfl, rfl, fun h => absurd rfl h⟩
  | failed code => exact ⟨rfl, rfl, fun _ => rfl⟩
  | uncertain code => exact ⟨rfl, rfl, fun _ => rfl⟩

/-- The attempt that replaced the current one is the current one. -/
theorem replace_current (hmem : old ∈ x.attempts) (hcurrent : old.leaseFence = x.highestLeaseFence)
    (hfence : new.leaseFence = old.leaseFence) : (x.replace old new).current = some new := by
  have hnew : new ∈ (x.replace old new).attempts := by
    refine mem_updateWhere.mpr (Or.inl ⟨old, hmem, ?_, rfl⟩)
    simp
  refine find?_eq_of_unique hnew ?_ ?_
  · exact decide_eq_true (hfence.trans hcurrent)
  · intro a ha hp
    rcases mem_updateWhere.mp ha with ⟨_, -, -, rfl⟩ | ⟨-, hne⟩
    · rfl
    · have hhighest : a.leaseFence = x.highestLeaseFence := of_decide_eq_true hp
      rw [hhighest, ← hcurrent] at hne
      simp at hne

theorem Updated.current_new (h : Updated C x old new) : (x.replace old new).current = some new :=
  replace_current h.mem h.current h.same.1

/-- The record read back after an update is still the caller's. -/
theorem answers_heldBy (h : Answers (x.replace old new) r) (hupdated : Updated C x old new)
    (hheld : old.heldBy key) : r.heldBy key := by
  obtain ⟨a, ha, hof⟩ := h
  rw [hupdated.current_new] at ha
  cases ha
  obtain ⟨hfence, -, hworker, htoken, -⟩ := hupdated.same
  have hhighest : (x.replace old new).highestLeaseFence = key.leaseFence :=
    hupdated.current.symm.trans hheld.1
  refine ⟨hof.highest.trans hhighest, hof.leaseFence.trans hhighest, ?_, ?_⟩
  · rw [hof.workerId, hworker, hheld.2.1]
  · rw [hof.leaseTokenDigest, htoken, hheld.2.2]

theorem transition_ok {t : Transition} (h : transition C clock key revision t s = .ok (x', r)) :
    ∃ x, s = some x ∧ Answers x' r ∧ r.heldBy key
      ∧ (x' = x ∧ (r.state = .completed ∨ r.state = t.target)
        ∨ ∃ old new, Moved C x x' key revision t old new) := by
  unfold transition at h
  simp only [bind_eq_ok, require_eq_ok] at h
  obtain ⟨_, -, _, -, ⟨x, current⟩, hread, _, hheld, h⟩ := h
  obtain ⟨rfl, a, ha, hof, hvalid⟩ := readCurrent_ok hread
  refine ⟨x, rfl, ?_⟩
  split at h
  · rename_i hcompleted
    cases h
    exact ⟨⟨a, ha, hof⟩, hheld, Or.inl ⟨rfl, Or.inl hcompleted⟩⟩
  · split at h
    · rename_i hdone
      cases h
      exact ⟨⟨a, ha, hof⟩, hheld, Or.inl ⟨rfl, Or.inr hdone.1⟩⟩
    · simp only [bind_eq_ok, require_eq_ok, rejectedAs_eq_ok, expect_eq_ok] at h
      obtain ⟨_, ⟨hsource, hrevision⟩, _, hupdate, y, rfl, hreread⟩ := h
      obtain ⟨old, new, hfence, hmatch, hupdated, hasked, -, rfl⟩ := updateAttempt_ok hupdate
      obtain ⟨rfl, hconsistent, hanswers, -⟩ := reread_ok hreread
      simp only [decide_eq_true_eq] at hmatch
      obtain ⟨hstate, houtcome, hcode⟩ := t.set_fields clock.statement old
      have hheldOld : old.heldBy key := ⟨hfence, hmatch.1, hmatch.2.1⟩
      refine ⟨hanswers, ?_, Or.inr ⟨old, new, hupdated, hheldOld, hmatch.2.2.2,
        hasked.state.trans hstate, ?_, hasked.outcome.trans houtcome, hconsistent, rfl⟩⟩
      · exact answers_heldBy hanswers hupdated hheldOld
      · by_cases hpublishing : t = .publishing
        · have hshape := hupdated.checks.2.2.2.2.1
          unfold Attempt.stateShape at hshape
          rw [hasked.state.trans hstate, hpublishing] at hshape
          rw [hpublishing]
          exact hshape.2.2.2.1
        · exact hasked.errorCode.trans (hcode hpublishing)

/-! ## Identity and completion -/

theorem bindExecutionIdentity_ok {i : BoundIdentity}
    (h : bindExecutionIdentity C key revision i s = .ok (x', r)) :
    ∃ x, s = some x ∧ Answers x' r ∧ r.heldBy key ∧ r.state = .publishing
      ∧ r.identity = some i ∧ (x' = x ∨ ∃ a, IdentityBound C x x' key i a) := by
  unfold bindExecutionIdentity at h
  simp only [bind_eq_ok, require_eq_ok, expect_eq_ok] at h
  obtain ⟨_, -, identity, hexact, ⟨x, current⟩, hread, _, ⟨hheld, hpublishing, hrevision⟩, _,
    hbinds, h⟩ := h
  obtain ⟨rfl, a, ha, hof, hvalid⟩ := readCurrent_ok hread
  refine ⟨x, rfl, ?_⟩
  split at h
  · rename_i bound hbound
    simp only [bind_eq_ok, require_eq_ok, pure_eq_ok, Prod.mk.injEq] at h
    obtain ⟨_, rfl, rfl, rfl⟩ := h
    exact ⟨⟨a, ha, hof⟩, hheld, hpublishing, hbound, Or.inl rfl⟩
  · rename_i hunbound
    simp only [bind_eq_ok, rejectedAs_eq_ok, expect_eq_ok] at h
    obtain ⟨_, hupdate, y, rfl, hreread⟩ := h
    obtain ⟨hmatch, hrow, rfl⟩ := updateRow_ok hupdate
    obtain ⟨rfl, hconsistent, hanswers, -⟩ := reread_ok hreread
    simp only [decide_eq_true_eq] at hmatch
    obtain ⟨-, hunfinished, hnone, -⟩ := hmatch
    have hpublishingAttempt : a.state = .publishing := hof.state.symm.trans hpublishing
    have hheldAttempt := heldBy_of hof ha hheld
    rw [hof.stable, hof.planBytes, hof.planDigest] at hbinds
    refine ⟨hanswers, ?_, ?_, ?_, Or.inr ⟨a, ha, hheldAttempt, hpublishingAttempt, hnone,
      hunfinished, ⟨identity, hexact, hbinds⟩, hrow.checks, hconsistent, rfl⟩⟩
    all_goals
      obtain ⟨b, hb, hofb⟩ := hanswers
      have hsame : x.current = some b := hb
      rw [ha] at hsame
      cases hsame
    · have hhighest : x.highestLeaseFence = key.leaseFence := hof.highest.symm.trans hheld.1
      refine ⟨hofb.highest.trans hhighest, hofb.leaseFence.trans hhighest, ?_, ?_⟩
      · exact hofb.workerId.trans hheldAttempt.2.1
      · exact hofb.leaseTokenDigest.trans hheldAttempt.2.2
    · exact hofb.state.trans hpublishingAttempt
    · exact hofb.identity

theorem markCompleted_ok {runId : Digest}
    {result : ControlRunExecutionResult} {receiptBytes : Bytes}
    (h : markCompleted C clock runId key revision result receiptBytes s = .ok (x', r)) :
    ∃ x, s = some x ∧ Answers x' r ∧ r.state = .completed
      ∧ r.completion = some (key.leaseFence,
        ⟨result.evidenceDigest, result.executorReceiptDigest, receiptBytes⟩)
      ∧ (x' = x ∨ ∃ old new, RunCompleted C x x' key revision
        ⟨result.evidenceDigest, result.executorReceiptDigest, receiptBytes⟩ old new) := by
  unfold markCompleted at h
  simp only [bind_eq_ok, require_eq_ok] at h
  obtain ⟨_, -, _, ⟨hrun, hfence⟩, _, hreceipt, ⟨x, current⟩, hread, h⟩ := h
  obtain ⟨rfl, a, ha, hof, hvalid⟩ := readCurrent_ok hread
  refine ⟨x, rfl, ?_⟩
  split at h
  · rename_i stored hstored
    simp only [bind_eq_ok, require_eq_ok, pure_eq_ok, Prod.mk.injEq] at h
    obtain ⟨_, ⟨rfl, hcompleted, -, -, hbytes⟩, rfl, rfl⟩ := h
    refine ⟨⟨a, ha, hof⟩, hcompleted, ?_, Or.inl rfl⟩
    unfold ExecutionJournalRecord.result at hstored
    obtain ⟨⟨fence, outcome⟩, hcompletion, hresult⟩ := Option.map_eq_some_iff.mp hstored
    rw [hcompletion] at hbytes ⊢
    simp only [Option.map_some, Option.some.injEq] at hbytes
    subst hresult
    simp only at hfence
    rw [← hfence, ← hbytes]
  · simp only [bind_eq_ok, require_eq_ok, rejectedAs_eq_ok, expect_eq_ok] at h
    obtain ⟨_, ⟨hheld, hpublishing, hrevision, hbound⟩, _, hattempt, y, rfl, _, hexecution, z,
      rfl, hreread⟩ := h
    obtain ⟨old, new, hold, hmatch, hupdated, hasked, -, rfl⟩ := updateAttempt_ok hattempt
    obtain ⟨hmatchRow, hrow, rfl⟩ := updateRow_ok hexecution
    obtain ⟨rfl, hconsistent, hanswers, -⟩ := reread_ok hreread
    simp only [decide_eq_true_eq] at hmatch
    have hheldOld : old.heldBy key := ⟨hold, hmatch.1, hmatch.2.1⟩
    rw [hof.identity] at hbound
    refine ⟨hanswers, ?_, ?_, Or.inr ⟨old, new, hupdated, hheldOld, hmatch.2.2.1,
      hmatch.2.2.2, ⟨hasked.state, hasked.outcome⟩, hbound, hreceipt, hrow.checks,
      hconsistent, rfl⟩⟩
    all_goals
      obtain ⟨b, hb, hofb⟩ := hanswers
    · have hcurrent : (x.replace old new).current = some b := hb
      rw [hupdated.current_new] at hcurrent
      cases hcurrent
      exact hofb.state.trans hasked.state
    · exact hofb.completion

/-! ## `prepare` -/

theorem insertRun_ok {request : ControlRunExecutionRequest} {plan : Bytes}
    (hfence : key.leaseFence = request.leaseFence) (hplan : C.verifyPlan request.stable plan ≠ none)
    (h : insertRun C clock request key plan = .ok x') :
    Created C x' request key plan clock.transaction := by
  unfold insertRun insertExecution RunJournal.commit at h
  simp only [rejectedAs_eq_ok, bind_eq_ok, require_eq_ok, pure_eq_ok] at h
  obtain ⟨_, ⟨_, -, _, hchecks, rfl⟩, y, hinsert, _, hconsistent, rfl⟩ := h
  obtain ⟨row, hinserted, rfl, hcases⟩ := insertAttempt_ok hinsert
  have hrow : row = { newAttempt request.attemptCount key with
      preparedAt := clock.transaction } := by
    rcases hcases with ⟨-, hrow⟩ | ⟨hstate, -⟩
    · exact hrow
    · cases hstate
  subst hrow
  refine ⟨hfence, hplan, hchecks, ?_, hconsistent, rfl⟩
  intro a ha
  obtain rfl := List.mem_singleton.mp ha
  exact hinserted.checks

/-- Replacing an attempt by itself changes nothing. -/
theorem replace_self (hnodup : (x.attempts.map (·.leaseFence)).Nodup)
    (ha : a ∈ x.attempts) : x.replace a a = x := by
  have hattempts : updateWhere (fun b => decide (b.leaseFence = a.leaseFence)) (fun _ => a)
      x.attempts = x.attempts := by
    unfold updateWhere
    conv => rhs; rw [← List.map_id x.attempts]
    apply List.map_congr_left
    intro b hb
    by_cases hfence : b.leaseFence = a.leaseFence
    · rw [if_pos (decide_eq_true hfence)]
      exact (List.inj_on_of_nodup_map hnodup hb ha hfence).symm
    · rw [if_neg (by simpa using hfence)]
      rfl
  unfold RunJournal.replace
  rw [hattempts]

/-- An attempt that was there has its fence and count in the table after an update. -/
theorem replace_keeps (hnodup : (x.attempts.map (·.leaseFence)).Nodup) {b : Attempt}
    (hmem : old ∈ x.attempts) (hfence : new.leaseFence = old.leaseFence)
    (hcount : new.attemptCount = old.attemptCount) (hb : b ∈ x.attempts) :
    ∃ b' ∈ (x.replace old new).attempts,
      b'.leaseFence = b.leaseFence ∧ b'.attemptCount = b.attemptCount := by
  by_cases hold : b.leaseFence = old.leaseFence
  · obtain rfl := List.inj_on_of_nodup_map hnodup hb hmem hold
    exact ⟨new, mem_updateWhere.mpr (Or.inl ⟨b, hmem, decide_eq_true rfl, rfl⟩), hfence, hcount⟩
  · refine ⟨b, mem_updateWhere.mpr (Or.inr ⟨hb, ?_⟩), rfl, rfl⟩
    simpa using hold

theorem takeOver_ok {request : ControlRunExecutionRequest} {current : ExecutionJournalRecord}
    (hnodup : (x.attempts.map (·.leaseFence)).Nodup) (ha : x.current = some a)
    (hof : current.Of x a) (hfence : key.leaseFence = request.leaseFence)
    (hcompleted : current.state ≠ .completed) (hhigher : x.highestLeaseFence < request.leaseFence)
    (h : takeOver C clock request key x current = .ok (x', r)) :
    Answers x' r ∧ ∃ settled, TakenOver C x x' request key clock.transaction a settled := by
  obtain ⟨hmem, hcurrent⟩ := current_mem ha
  unfold takeOver at h
  simp only [bind_eq_ok, require_eq_ok] at h
  obtain ⟨_, hcount, _, hunreconciled, y, hsettle, h⟩ := h
  rw [hof.attemptCount] at hcount
  rw [hof.state, hof.identity] at hunreconciled
  rw [hof.state] at hcompleted
  -- the rows after the unfinished attempt was superseded
  have hsettled : ∃ settled, y = x.replace a settled ∧ Superseded C x a settled
      ∧ settled.leaseFence = a.leaseFence := by
    unfold supersede at hsettle
    split at hsettle
    · simp only [bind_eq_ok, rejectedAs_eq_ok, expect_eq_ok] at hsettle
      obtain ⟨_, hupdate, rfl⟩ := hsettle
      obtain ⟨old, new, hold, -, hupdated, hasked, -, rfl⟩ := updateAttempt_ok hupdate
      have hsame : old = a := by
        rw [hof.leaseFence, ← hcurrent] at hold
        exact List.inj_on_of_nodup_map hnodup hupdated.mem hmem hold
      subst hsame
      exact ⟨new, rfl, Or.inr ⟨hupdated, hasked.state, hasked.errorCode, hasked.outcome⟩,
        hupdated.same.1⟩
    · rename_i hterminal
      rw [hof.state] at hterminal
      simp only [pure_eq_ok] at hsettle
      subst hsettle
      refine ⟨a, (replace_self hnodup hmem).symm, Or.inl ⟨?_, rfl⟩, rfl⟩
      cases hstate : a.state with
      | prepared => exact absurd (Or.inl hstate) hterminal
      | publishing => exact absurd (Or.inr hstate) hterminal
      | completed => rfl
      | failed => rfl
      | uncertain => rfl
  obtain ⟨settled, rfl, hsuperseded, hsettledFence⟩ := hsettled
  simp only [rejectedAs_eq_ok, expect_eq_ok] at h
  obtain ⟨_, hadvance, z, rfl, w, hinsert, hreread⟩ := h
  obtain ⟨hmatch, hrow, rfl⟩ := updateRow_ok hadvance
  obtain ⟨row, hinserted, rfl, hcases⟩ := insertAttempt_ok hinsert
  obtain ⟨rfl, hconsistent, hanswers, -⟩ := reread_ok hreread
  simp only [decide_eq_true_eq] at hmatch
  have hnew : row = { newAttempt request.attemptCount key with
      preparedAt := clock.transaction } := by
    rcases hcases with ⟨-, hrow⟩ | ⟨hstate, -⟩
    · exact hrow
    · cases hstate
  subst hnew
  have hreclaims : (x.replace a settled).toExecutionRow.reclaims
      { (x.replace a settled).toExecutionRow with
        highestLeaseFence := request.leaseFence
        highestAttemptCount := request.attemptCount } :=
    Or.inl (Nat.ne_of_gt hhigher)
  have hsettledCount : settled.attemptCount = a.attemptCount := by
    rcases hsuperseded with ⟨-, rfl⟩ | ⟨hupdated, -⟩
    · rfl
    · exact hupdated.same.2.1
  refine ⟨hanswers, settled, ?_⟩
  refine
    { reads := ha
      fence := hfence
      unfinished := hmatch.2.2
      notCompleted := hcompleted
      settles := hsuperseded
      unreconciled := hunreconciled
      higherFence := hhigher
      higherCount := hcount
      recovered := ?_
      rowChecks := hrow.checks
      newChecks := hinserted.checks
      freshFence := ?_
      freshCount := ?_
      consistent := hconsistent
      result := rfl }
  · intro hbound
    obtain ⟨r, hr, hadvances⟩ := hrow.recovered hbound hreclaims
    exact ⟨r, hr, hadvances.2.2.2.2.1⟩
  · intro b hb he
    obtain ⟨b', hb', hsame, -⟩ :=
      replace_keeps hnodup hmem hsettledFence hsettledCount hb
    refine hinserted.freshFence b' hb' ?_
    rw [hsame, he]
    exact hfence.symm
  · intro b hb he
    obtain ⟨b', hb', -, hsame⟩ :=
      replace_keeps hnodup hmem hsettledFence hsettledCount hb
    refine hinserted.freshCount b' hb' ?_
    rw [hsame, he]
    rfl

/-- What a `prepare` does. -/
theorem prepare_ok {request : ControlRunExecutionRequest} {workerId : String} {token : Digest}
    {plan : Option Bytes} (hnodup : ∀ x ∈ s, (x.attempts.map (·.leaseFence)).Nodup)
    (h : prepare C clock request workerId token plan s = .ok (x', r)) :
    Answers x' r ∧ ((s = some x' ∧ (r.state = .completed
          ∨ (r.heldBy ⟨request.leaseFence, workerId, token⟩
            ∧ r.request.attemptCount = request.attemptCount)))
      ∨ (s = none ∧ ∃ p, plan = some p
        ∧ Created C x' request ⟨request.leaseFence, workerId, token⟩ p clock.transaction)
      ∨ ∃ x, s = some x ∧ ∃ old settled, TakenOver C x x' request
        ⟨request.leaseFence, workerId, token⟩ clock.transaction old settled) := by
  unfold prepare at h
  simp only [bind_eq_ok, require_eq_ok] at h
  obtain ⟨_, -, _, -, _, hplan, y, hfind, ⟨_, current⟩, hread, _, hstable, _, -, _, hle, h⟩ := h
  obtain ⟨hy, a, ha, hof, hvalid⟩ := readCurrent_ok hread
  cases hy
  rw [hof.highest] at hle
  -- the rows it found, or those of the new run
  have hfound : s = some y ∨ (s = none ∧ ∃ p, plan = some p
      ∧ Created C y request ⟨request.leaseFence, workerId, token⟩ p clock.transaction) := by
    unfold findOrInsert at hfind
    split at hfind
    · simp only [bind_eq_ok, require_eq_ok, pure_eq_ok] at hfind
      obtain ⟨_, -, rfl⟩ := hfind
      exact Or.inl rfl
    · simp only [bind_eq_ok, expect_eq_ok] at hfind
      obtain ⟨p, hp, hinsert⟩ := hfind
      exact Or.inr ⟨rfl, p, hp, insertRun_ok rfl (hplan p hp) hinsert⟩
  have hsame : y = x' → r = current → (r.state = .completed
        ∨ (r.heldBy ⟨request.leaseFence, workerId, token⟩
          ∧ r.request.attemptCount = request.attemptCount)) →
      Answers x' r ∧ ((s = some x' ∧ (r.state = .completed
          ∨ (r.heldBy ⟨request.leaseFence, workerId, token⟩
            ∧ r.request.attemptCount = request.attemptCount)))
        ∨ (s = none ∧ ∃ p, plan = some p
          ∧ Created C x' request ⟨request.leaseFence, workerId, token⟩ p clock.transaction)
        ∨ ∃ x, s = some x ∧ ∃ old settled, TakenOver C x x' request
          ⟨request.leaseFence, workerId, token⟩ clock.transaction old settled) := by
    intro hx hr hstate
    subst hx hr
    refine ⟨⟨a, ha, hof⟩, ?_⟩
    rcases hfound with hs | hcreated
    · exact Or.inl ⟨hs, hstate⟩
    · exact Or.inr (Or.inl hcreated)
  split at h
  · rename_i hcompleted
    simp only [pure_eq_ok, Prod.mk.injEq] at h
    exact hsame h.1 h.2.symm (Or.inl (h.2 ▸ hcompleted))
  · rename_i hcompleted
    split at h
    · simp only [bind_eq_ok, require_eq_ok, pure_eq_ok, Prod.mk.injEq] at h
      obtain ⟨_, ⟨hcount, hheld⟩, hx, hr⟩ := h
      exact hsame hx hr.symm (Or.inr (hr ▸ ⟨hheld, hcount⟩))
    · rename_i hfence
      rw [hof.highest] at hfence
      rcases hfound with rfl | ⟨-, p, -, hcreated⟩
      · obtain ⟨hanswers, settled, htaken⟩ :=
          takeOver_ok (hnodup y rfl) ha hof rfl hcompleted
            (lt_of_le_of_ne hle (Ne.symm hfence)) h
        exact ⟨hanswers, Or.inr (Or.inr ⟨y, rfl, a, settled, htaken⟩)⟩
      · -- a run just created has the request's own fence
        refine absurd ?_ hfence
        rw [hcreated.result]

/-! ## Recovery -/

/-- The trigger keeps the finish time of an attempt that a recovery row supersedes. -/
theorem guardAttemptUpdate_superseded {asked row : Attempt} {now : Time} {r : RecoveryRow}
    (hr : r ∈ x.recoveries) (hsupersedes : r.supersedes old asked)
    (hstate : old.state = .publishing) (hasked : asked.state = .uncertain)
    (hcode : asked.errorCode = some "recovery-superseded")
    (h : guardAttemptUpdate x old asked now = .ok row) : row = asked := by
  unfold guardAttemptUpdate at h
  simp only [bind_eq_ok, require_eq_ok] at h
  obtain ⟨_, -, _, -, _, -, h⟩ := h
  rw [if_neg (by rw [hstate]; simp), if_pos ⟨hstate, hasked, hcode, r, hr, hsupersedes⟩] at h
  exact (pure_eq_ok.mp h).symm

theorem adopt_ok {r : RecoveryRow} (hnodup : (x.attempts.map (·.leaseFence)).Nodup)
    (h : RunJournal.adopt C { x with recoveries := x.recoveries ++ [r] } r clock = .ok x')
    (hfresh : r.authorizationId C ∉ x.recoveries.map (·.authorizationId C))
    (hchecks : r.checks C) : ∃ old new, Adopted C x x' r old new := by
  unfold RunJournal.adopt RunJournal.recheckExecution RunJournal.recheckAttempt
    RunJournal.retireAbandoned RunJournal.advanceToSuccessor at h
  simp only [bind_eq_ok, require_eq_ok, expect_eq_ok] at h
  obtain ⟨_, hnamed, _, ⟨found, hfound, habandoned⟩, y, ⟨_, hretire, rfl⟩, z, ⟨_, hadvance, rfl⟩, hinsert⟩ := h
  obtain ⟨old, new, hfence, hmatch, hupdated, hasked, hguard, rfl⟩ := updateAttempt_ok hretire
  obtain ⟨-, hrow, rfl⟩ := updateRow_ok hadvance
  obtain ⟨row, hinserted, rfl, hcases⟩ := insertAttempt_ok hinsert
  simp only [decide_eq_true_eq] at hmatch
  obtain ⟨hcount, hworker, htoken, hpublishing, hrevision, hat⟩ := hmatch
  have hsuccessor : row = r.successorAttempt := by
    rcases hcases with ⟨hstate, -⟩ | ⟨-, -, hrow⟩
    · cases hstate
    · exact hrow
  subst hsuccessor
  have hkept := guardAttemptUpdate_superseded (r := r)
    (List.mem_append_right _ (List.mem_singleton.mpr rfl))
    ⟨hfence.symm, hcount.symm, hrevision, hworker.symm, htoken.symm, hat.symm, rfl⟩
    hpublishing rfl rfl hguard
  have hsame : found = old := by
    refine List.inj_on_of_nodup_map hnodup (List.mem_of_find?_eq_some hfound) hupdated.mem ?_
    have hfoundFence := List.find?_some hfound
    rw [decide_eq_true_eq] at hfoundFence
    exact hfoundFence.trans hfence.symm
  subst hsame
  refine ⟨found, new, hupdated, habandoned, hnamed, hfresh, hchecks, ?_, hrow.checks,
    hinserted.checks, ?_, ?_, rfl⟩
  · rw [hkept]
    exact ⟨rfl, rfl, rfl⟩
  · intro b hb he
    obtain ⟨b', hb', hsame, -⟩ :=
      replace_keeps hnodup hupdated.mem hupdated.same.1 hupdated.same.2.1 hb
    refine hinserted.freshFence b' hb' ?_
    rw [hsame, he]
    rfl
  · intro b hb he
    obtain ⟨b', hb', -, hsame⟩ :=
      replace_keeps hnodup hupdated.mem hupdated.same.1 hupdated.same.2.1 hb
    refine hinserted.freshCount b' hb' ?_
    rw [hsame, he]
    rfl

theorem consume_ok {r : RecoveryRow} {databaseSecond : Time}
    (hnodup : (x.attempts.map (·.leaseFence)).Nodup)
    (h : x.consume C r clock databaseSecond = .ok (some x')) :
    r.bindingHolds C databaseSecond ∧ ∃ old new, Adopted C x x' r old new := by
  unfold RunJournal.consume RunJournal.insertRecovery at h
  simp only [bind_eq_ok, require_eq_ok] at h
  obtain ⟨_, hbinding, inserted, hinsert, h⟩ := h
  split at hinsert
  · simp only [pure_eq_ok] at hinsert
    subst hinsert
    simp at h
  · rename_i hfresh
    simp only [bind_eq_ok, require_eq_ok, pure_eq_ok] at hinsert
    obtain ⟨_, hchecks, rfl⟩ := hinsert
    simp only [bind_eq_ok, pure_eq_ok, Option.some.injEq] at h
    obtain ⟨y, hadopt, rfl⟩ := h
    exact ⟨hbinding, adopt_ok hnodup hadopt hfresh hchecks⟩

theorem recover_ok {recoveryClock : RecoveryClock} {pins : RecoveryPins}
    {expectation : JournalExpectation} {value : Bytes}
    (hnodup : ∀ x ∈ s, (x.attempts.map (·.leaseFence)).Nodup)
    (h : recoverIdentityBoundPublication C recoveryClock pins expectation value s
      = .ok (x', r)) :
    ∃ x, s = some x ∧ Answers x' r ∧ r.succeeds expectation.1 ∧ x'.consistent
      ∧ ∃ row old new, Adopted C x x' row old new
        ∧ row.useClaim = row.envelope.useClaim C.recovery recoveryClock.recoveryNow
        ∧ Authorized C.recovery pins expectation recoveryClock.recoveryNow value
          row.envelope := by
  unfold recoverIdentityBoundPublication rereadSuccessor at h
  simp only [bind_eq_ok, require_eq_ok, pure_eq_ok, Prod.mk.injEq] at h
  obtain ⟨⟨x, current⟩, hread, _, -, row, hauthorize, y, hconsumed, ⟨z, _⟩, hreread, _,
    hsucceeds, rfl, rfl⟩ := h
  obtain ⟨rfl, a, ha, hof, -⟩ := readCurrent_ok hread
  obtain ⟨rfl, hconsistent, hanswers, -⟩ := reread_ok hreread
  have hconsume : x.consume C row recoveryClock.toClock recoveryClock.databaseSecond
      = .ok (some z) := by
    unfold consumed at hconsumed
    split at hconsumed
    · rename_i hanswer
      cases hconsumed
      exact hanswer
    · cases hconsumed
    · cases hconsumed
  obtain ⟨-, old, new, hadopted⟩ := consume_ok (hnodup x rfl) hconsume
  unfold authorizeRecovery at hauthorize
  split at hauthorize
  · rename_i envelope claim huse
    cases hauthorize
    obtain ⟨hauthorized, hclaim⟩ := authorizeUse_ok huse
    exact ⟨x, rfl, hanswers, hsucceeds, hconsistent, ⟨envelope, claim⟩, old, new, hadopted, hclaim,
      hauthorized⟩
  · cases hauthorize

end

end ControlAssurance.Execution
