import ControlAssurance.Execution.Statements
import ControlAssurance.Execution.JournalProgress

/-!
# Interleaved statements are whole calls

Every transaction of the journal takes its place among the others where it first locks the
execution row. From there on it runs as if it were alone (`Lib/RowLocks.lean`), so what it
commits is what the method of `Journal.lean` or `Recovery.lean` does to the rows committed
just before. A recovery reads the current attempt and verifies its envelope before it holds
any lock; what it read may be gone by then, and the checks of its routine under the lock are
what makes up for it.
-/

namespace ControlAssurance.Execution

open Lib
open Admission (Bytes)
open ControlAssurance.Runtime (ControlRunExecutionResult)

/-! ## Commits -/

/-- The attempts a call added. -/
def born (s : Option RunJournal) (x' : RunJournal) : List Attempt :=
  x'.attempts.drop ((s.map (·.attempts.length)).getD 0)

/-- What a commit does: nothing, for a read outside any lock, or what the call does to the
rows committed before it. -/
def JournalCommit (C : Codec) (c : Committed JournalCall Tables ExecutionJournalRecord) : Prop :=
  (c.label = .get ∧ c.after = c.before)
    ∨ ∃ clock x', c.label.run C clock c.before.run = .ok (x', c.answer)
      ∧ c.after = ⟨some x', c.before.insertions ++ born c.before.run x'⟩

/-- The rows are those of one run, and well formed. -/
def Tables.OfRun (C : Codec) (tenantId : String) (runId : Digest) (t : Tables) : Prop :=
  ∀ x ∈ t.run, x.WF C ∧ x.request.tenantId = tenantId ∧ x.request.runId = runId

section

variable {C : Codec} {x x' : RunJournal} {insertions : List Attempt}

/-! ## What a statement did -/

theorem over_append (c : Tables) (ws ws' : List Write) :
    (journalStore C).over c (ws ++ ws') = ws'.foldl Tables.write ((journalStore C).over c ws) :=
  List.foldl_append ..

variable {now : Time}

theorem updateAttempt_eq {fence : Nat} {matching : Attempt → Bool} {set : Attempt → Attempt}
    {row : Attempt} (h : x.updatedAttempt C fence matching set now = .ok (some row)) :
    x.updateAttempt C fence matching set now = .ok (some (x.replace row row)) := by
  unfold RunJournal.updatedAttempt at h
  unfold RunJournal.updateAttempt
  cases hfind : x.attempts.find? fun a => decide (a.leaseFence = fence) && matching a with
  | none => simp [hfind] at h
  | some old =>
    simp only [hfind, bind_eq_ok, require_eq_ok, pure_eq_ok, Option.some.injEq] at h
    obtain ⟨stored, hguard, _, hchecks, hstored⟩ := h
    subst hstored
    have hmatch := List.find?_some hfind
    simp only [Bool.and_eq_true, decide_eq_true_eq] at hmatch
    have hfence : fence = stored.leaseFence := by
      rw [(guardAttemptUpdate_ok hguard).2.2.1.1]
      exact hmatch.1.symm
    simp only [hguard, ok_bind, require_pos hchecks]
    unfold RunJournal.replace
    rw [hfence]
    rfl

/-- The rows a transaction sees, under the exclusive lock. -/
structure Locked (C : Codec) (c : Tables) (t : Session Write) (x : RunJournal)
    (insertions : List Attempt) : Prop where
  view : (journalStore C).over c t.writes = ⟨some x, insertions⟩
  lock : t.lock = .exclusive

variable {ws : List Write} {l : Lock}

theorem Locked.extend {c : Tables} {t : Session Write} (h : Locked C c t x insertions)
    {insertions' : List Attempt}
    (hwrites : ws.foldl Tables.write ⟨some x, insertions⟩ = ⟨some x', insertions'⟩) :
    Locked C c (t.extend l ws) x' insertions' := by
  refine ⟨?_, ?_⟩
  · show (journalStore C).over c (t.writes ++ ws) = _
    rw [over_append, h.view, hwrites]
  · show t.lock.join l = _
    rw [h.lock]
    rfl

theorem select_answer {forUpdate : Bool} {r : Option (ExecutionRow × Attempt)} {t : Tables}
    (h : (journalStore C).act (.selectCurrent forUpdate) t (.ok r) ws l) :
    ws = [] ∧ ((r = none ∧ l = .free) ∨ ∃ x a, t.run = some x ∧ x.current = some a
      ∧ r = some (x.toExecutionRow, a) ∧ l = if forUpdate then .exclusive else .free) := by
  rcases h with h | ⟨hmisses, rfl, rfl⟩
  · dsimp only [Sql.answer] at h
    split at h
    · cases h
      exact ⟨rfl, Or.inl ⟨rfl, rfl⟩⟩
    · rename_i row hrow
      cases h
      obtain ⟨x, hx, hmap⟩ := Option.bind_eq_some_iff.mp hrow
      obtain ⟨a, ha, hpair⟩ := Option.map_eq_some_iff.mp hmap
      exact ⟨rfl, Or.inr ⟨x, a, hx, ha, congrArg some hpair.symm, rfl⟩⟩
  · refine ⟨rfl, Or.inl ⟨?_, rfl⟩⟩
    cases forUpdate with
    | false => exact hmisses.elim
    | true =>
      cases r with
      | none => rfl
      | some row => exact hmisses.elim

theorem updateAttempt_answer {fence : Nat} {matching : Attempt → Bool}
    {set : Attempt → Attempt} {b : Bool}
    (h : (journalStore C).act (.updateAttempt fence matching set now) ⟨some x, insertions⟩
      (.ok b) ws l) (hb : b = true) :
    ∃ x', x.updateAttempt C fence matching set now = .ok (some x')
      ∧ ws.foldl Tables.write ⟨some x, insertions⟩ = ⟨some x', insertions⟩ := by
  subst hb
  rcases h with h | ⟨hmisses, -⟩
  · dsimp only [Sql.answer] at h
    simp only [bind_eq_ok] at h
    obtain ⟨row, hrow, h⟩ := h
    split at h
    · cases h
    · cases h
      exact ⟨_, updateAttempt_eq hrow, rfl⟩
  · exact hmisses.elim

theorem updateExecution_answer {matching : RunJournal → Bool}
    {set : ExecutionRow → ExecutionRow} {b : Bool}
    (h : (journalStore C).act (.updateExecution matching set) ⟨some x, insertions⟩ (.ok b) ws l)
    (hb : b = true) :
    ∃ x', x.updateRow C (matching x) (set x.toExecutionRow) = .ok (some x')
      ∧ ws.foldl Tables.write ⟨some x, insertions⟩ = ⟨some x', insertions⟩ := by
  subst hb
  rcases h with h | ⟨hmisses, -⟩
  · dsimp only [Sql.answer] at h
    simp only [bind_eq_ok] at h
    obtain ⟨updated, hupdate, h⟩ := h
    split at h
    · cases h
    · rename_i y
      cases h
      refine ⟨y, hupdate, ?_⟩
      obtain ⟨-, -, rfl⟩ := updateRow_ok hupdate
      rfl
  · exact hmisses.elim

theorem insertAttempt_answer {new : Attempt} {u : Unit}
    (h : (journalStore C).act (.insertAttempt new now) ⟨some x, insertions⟩ (.ok u) ws l) :
    ∃ x' row, x.insertAttempt C new now = .ok x' ∧ x'.attempts = x.attempts ++ [row]
      ∧ ws.foldl Tables.write ⟨some x, insertions⟩ = ⟨some x', insertions ++ [row]⟩ := by
  rcases h with h | ⟨hmisses, -⟩
  · dsimp only [Sql.answer] at h
    simp only [bind_eq_ok, expect_eq_ok, Option.some.injEq] at h
    obtain ⟨_, rfl, row, hclock, y, hinsert, h⟩ := h
    cases h
    have hy : y = { x with attempts := x.attempts ++ [row] } := by
      unfold RunJournal.insertAttempt at hinsert
      simp only [hclock, ok_bind, bind_eq_ok, require_eq_ok, pure_eq_ok] at hinsert
      obtain ⟨_, -, _, -, _, -, rfl⟩ := hinsert
      rfl
    subst hy
    exact ⟨_, row, hinsert, rfl, rfl⟩
  · exact hmisses.elim

theorem readRow_eq {a : Attempt} (ha : x.current = some a) {missing : JournalError}
    {r : ExecutionJournalRecord}
    (h : readRow C (some (x.toExecutionRow, a)) missing = .ok r) (missing' : JournalError) :
    readCurrent C (some x) missing' = .ok (x, r) := by
  have hrecord : recordFromRow C x a = .ok r := h
  unfold readCurrent expect
  simp only [ok_bind, ha, hrecord]
  rfl

end

/-! ## Rules for the statements of a call -/

/-- The rest of a call that holds the lock of the execution row. -/
abbrev JournalHolding (C : Codec) (call : JournalCall) (p : Statements ExecutionJournalRecord)
    (c : Tables) (t : Session Write) : Prop :=
  Holding (journalStore C) (JournalCommit C) call p c t

/-- The rest of a call that holds no lock. -/
abbrev JournalWaiting (C : Codec) (tenantId : String) (runId : Digest) (call : JournalCall)
    (p : Statements ExecutionJournalRecord) : Prop :=
  Waiting (journalStore C) (Tables.OfRun C tenantId runId) (JournalCommit C) call p

section

variable {C : Codec} {tenantId : String} {runId : Digest} {call : JournalCall}
variable {c : Tables} {t : Session Write} {x : RunJournal} {insertions : List Attempt}
variable {β : Type}

theorem holding_lift {y : Except JournalError β} {f : β → Statements ExecutionJournalRecord}
    (h : ∀ b, y = .ok b → JournalHolding C call (f b) c t) :
    JournalHolding C call ((liftM y : Statements β) >>= f) c t := by
  cases y with
  | ok b => exact h b rfl
  | error e => trivial

theorem waiting_lift {y : Except JournalError β} {f : β → Statements ExecutionJournalRecord}
    (h : ∀ b, y = .ok b → JournalWaiting C tenantId runId call (f b)) :
    JournalWaiting C tenantId runId call ((liftM y : Statements β) >>= f) := by
  cases y with
  | ok b => exact h b rfl
  | error e => trivial

variable {f : Bool → Statements ExecutionJournalRecord}

variable {now : Time} {fence : Nat} {x' : RunJournal}

theorem holding_updateAttempt {matching : Attempt → Bool}
    {set : Attempt → Attempt} (hlocked : Locked C c t x insertions)
    (h : ∀ b t', (b = true → ∃ x', x.updateAttempt C fence matching set now = .ok (some x')
      ∧ Locked C c t' x' insertions) → JournalHolding C call (f b) c t') :
    JournalHolding C call (statement (.updateAttempt fence matching set now) >>= f) c t := by
  intro b ws l hact
  rw [hlocked.view] at hact
  refine h b _ ?_
  intro hb
  obtain ⟨x', hupdate, hwrites⟩ := updateAttempt_answer hact hb
  exact ⟨x', hupdate, hlocked.extend hwrites⟩

theorem holding_updateExecution {matching : RunJournal → Bool} {set : ExecutionRow → ExecutionRow}
    (hlocked : Locked C c t x insertions)
    (h : ∀ b t', (b = true → ∃ x', x.updateRow C (matching x) (set x.toExecutionRow)
        = .ok (some x') ∧ Locked C c t' x' insertions) → JournalHolding C call (f b) c t') :
    JournalHolding C call (statement (.updateExecution matching set) >>= f) c t := by
  intro b ws l hact
  rw [hlocked.view] at hact
  refine h b _ ?_
  intro hb
  obtain ⟨x', hupdate, hwrites⟩ := updateExecution_answer hact hb
  exact ⟨x', hupdate, hlocked.extend hwrites⟩

theorem holding_insertAttempt {new : Attempt}
    {f : Unit → Statements ExecutionJournalRecord} (hlocked : Locked C c t x insertions)
    (h : ∀ x' row t', x.insertAttempt C new now = .ok x' → x'.attempts = x.attempts ++ [row] →
      Locked C c t' x' (insertions ++ [row]) → JournalHolding C call (f ()) c t') :
    JournalHolding C call (statement (.insertAttempt new now) >>= f) c t := by
  intro u ws l hact
  rw [hlocked.view] at hact
  obtain ⟨x', row, hinsert, hattempts, hwrites⟩ := insertAttempt_answer hact
  exact h x' row _ hinsert hattempts (hlocked.extend hwrites)

/-- The current attempt read under the lock. -/
theorem holding_select {forUpdate : Bool}
    {f : Option (ExecutionRow × Attempt) → Statements ExecutionJournalRecord}
    (hlocked : Locked C c t x insertions)
    (hnone : ∀ t', JournalHolding C call (f none) c t')
    (h : ∀ a t', x.current = some a → Locked C c t' x insertions →
      JournalHolding C call (f (some (x.toExecutionRow, a))) c t') :
    JournalHolding C call (statement (.selectCurrent forUpdate) >>= f) c t := by
  intro r ws l hact
  rw [hlocked.view] at hact
  obtain ⟨rfl, ⟨rfl, -⟩ | ⟨y, a, hy, ha, rfl, -⟩⟩ := select_answer hact
  · exact hnone _
  · cases hy
    exact h a _ ha (hlocked.extend rfl)

/-- The end of a call that holds the lock. -/
theorem holding_end {r : ExecutionJournalRecord} (hlocked : Locked C c t x insertions)
    (h : x.consistent → ∃ clock, call.run C clock c.run = .ok (x, r))
    (hinsertions : insertions = c.insertions ++ born c.run x) :
    JournalHolding C call (pure r) c t := by
  intro hvalid
  refine ⟨Or.inr ?_, Or.inl hlocked.lock⟩
  have hconsistent : x.consistent := by
    apply hvalid
    rw [hlocked.view]
    rfl
  obtain ⟨clock, hrun⟩ := h hconsistent
  refine ⟨clock, x, hrun, ?_⟩
  rw [← hinsertions]
  exact hlocked.view

theorem holding_reread {missing : String} (rejection : String) (hlocked : Locked C c t x insertions)
    (h : ∀ r, reread C x missing rejection = .ok (x, r) →
      ∃ clock, call.run C clock c.run = .ok (x, r))
    (hinsertions : insertions = c.insertions ++ born c.run x) :
    JournalHolding C call (statement (.selectCurrent false) >>= fun row =>
      liftM (readRow C row (.integrity missing))) c t := by
  refine holding_select hlocked (fun _ => trivial) ?_
  intro a t' ha hlocked'
  cases hread : readRow C (some (x.toExecutionRow, a)) (.integrity missing) with
  | error e =>
    exact trivial
  | ok r =>
    refine holding_end hlocked' ?_ hinsertions
    intro hconsistent
    refine h r ?_
    unfold reread RunJournal.commit
    simp only [readRow_eq ha hread (.integrity missing), ok_bind, require_pos hconsistent]
    rfl

/-- The locking select of a call that holds no lock yet. -/
theorem waiting_select {f : Option (ExecutionRow × Attempt) → Statements ExecutionJournalRecord}
    (hnone : JournalWaiting C tenantId runId call (f none))
    (h : ∀ x a insertions, x.WF C → x.current = some a → JournalHolding C call
      (f (some (x.toExecutionRow, a))) ⟨some x, insertions⟩ ⟨.exclusive, []⟩) :
    JournalWaiting C tenantId runId call (statement (.selectCurrent true) >>= f) := by
  intro c hrun r ws l hact
  obtain ⟨rfl, ⟨rfl, rfl⟩ | ⟨x, a, hx, ha, rfl, rfl⟩⟩ := select_answer hact
  · exact ⟨fun _ => ⟨rfl, hnone⟩, fun hne => absurd rfl hne⟩
  · obtain ⟨run, insertions⟩ := c
    cases hx
    refine ⟨?_, fun _ => h x a insertions (hrun x rfl).1 ha⟩
    intro hfree
    cases hfree

/-- A read that takes no lock: nothing it saw is known to hold later. -/
theorem waiting_read {f : Option (ExecutionRow × Attempt) → Statements ExecutionJournalRecord}
    (hnone : JournalWaiting C tenantId runId call (f none))
    (h : ∀ (x : RunJournal) a, x.request.tenantId = tenantId → x.request.runId = runId →
      JournalWaiting C tenantId runId call (f (some (x.toExecutionRow, a)))) :
    JournalWaiting C tenantId runId call (statement (.selectCurrent false) >>= f) := by
  intro c hrun r ws l hact
  obtain ⟨rfl, ⟨rfl, rfl⟩ | ⟨x, a, hx, ha, rfl, rfl⟩⟩ := select_answer hact
  · exact ⟨fun _ => ⟨rfl, hnone⟩, fun hne => absurd rfl hne⟩
  · obtain ⟨-, htenant, hrunId⟩ := hrun x hx
    exact ⟨fun _ => ⟨rfl, h x a htenant hrunId⟩, fun hne => absurd rfl hne⟩

/-- The insert of a recovery row takes the execution's lock shared, through its foreign key. -/
theorem waiting_insertRecovery {r : RecoveryRow}
    (hused : JournalWaiting C tenantId runId call (f false))
    (h : ∀ x insertions, Tables.OfRun C tenantId runId ⟨some x, insertions⟩ →
      x.insertRecovery C r = .ok (some { x with recoveries := x.recoveries ++ [r] }) →
      JournalHolding C call (f true) ⟨some x, insertions⟩ ⟨.share, [.recovery r]⟩) :
    JournalWaiting C tenantId runId call (statement (.insertRecovery r) >>= f) := by
  intro c hrun b ws l hact
  rcases hact with hact | ⟨hmisses, -⟩
  swap
  · exact hmisses.elim
  dsimp only [Sql.answer] at hact
  simp only [bind_eq_ok, expect_eq_ok] at hact
  obtain ⟨x, hx, inserted, hinserted, hact⟩ := hact
  obtain ⟨run, insertions⟩ := c
  obtain rfl : run = some x := hx
  split at hact
  · cases hact
    exact ⟨fun _ => ⟨rfl, hused⟩, fun hne => absurd rfl hne⟩
  · rename_i y
    cases hact
    refine ⟨?_, fun _ => h x insertions hrun ?_⟩
    · intro hfree
      cases hfree
    · have hy : y = { x with recoveries := x.recoveries ++ [r] } := by
        unfold RunJournal.insertRecovery at hinserted
        split at hinserted
        · simp at hinserted
        · simp only [bind_eq_ok, require_eq_ok, pure_eq_ok, Option.some.injEq] at hinserted
          obtain ⟨_, -, rfl⟩ := hinserted
          rfl
      rw [← hy]
      exact hinserted

theorem holding_lockExecution {f : Option ExecutionRow → Statements ExecutionJournalRecord}
    (hview : (journalStore C).over c t.writes = ⟨some x, insertions⟩)
    (h : ∀ t', Locked C c t' x insertions →
      JournalHolding C call (f (some x.toExecutionRow)) c t') :
    JournalHolding C call (statement .lockExecution >>= f) c t := by
  intro row ws l hact
  rw [hview] at hact
  rcases hact with hact | ⟨hmisses, -⟩
  · cases hact
    refine h _ ⟨?_, ?_⟩
    · show (journalStore C).over c (t.writes ++ []) = _
      rw [List.append_nil, hview]
    · show t.lock.join .exclusive = .exclusive
      cases t.lock <;> rfl
  · exact hmisses.elim

theorem holding_lockAttempt {f : Option Attempt → Statements ExecutionJournalRecord}
    (hlocked : Locked C c t x insertions)
    (h : ∀ t', Locked C c t' x insertions → JournalHolding C call
      (f (x.attempts.find? fun a => decide (a.leaseFence = fence))) c t') :
    JournalHolding C call (statement (.lockAttempt fence) >>= f) c t := by
  intro row ws l hact
  rw [hlocked.view] at hact
  rcases hact with hact | ⟨hmisses, -⟩
  · cases hact
    exact h _ (hlocked.extend rfl)
  · exact hmisses.elim

theorem locked_start (x : RunJournal) (insertions : List Attempt) :
    Locked C ⟨some x, insertions⟩ ⟨.exclusive, []⟩ x insertions :=
  ⟨rfl, rfl⟩

/-- A call that adds no attempt. -/
theorem born_same {x : RunJournal} (h : x'.attempts.length = x.attempts.length) :
    born (some x) x' = [] := by
  show x'.attempts.drop x.attempts.length = []
  rw [← h, List.drop_length]

theorem updateAttempt_length {x : RunJournal} {matching : Attempt → Bool} {set : Attempt → Attempt}
    (h : x.updateAttempt C fence matching set now = .ok (some x')) :
    x'.attempts.length = x.attempts.length := by
  obtain ⟨old, new, -, -, -, -, -, rfl⟩ := updateAttempt_ok h
  exact List.length_map ..

theorem updateRow_attempts {x : RunJournal} {matching : Bool} {new : ExecutionRow}
    (h : x.updateRow C matching new = .ok (some x')) : x'.attempts = x.attempts := by
  obtain ⟨-, -, rfl⟩ := updateRow_ok h
  rfl

end

/-! ## The calls -/

section

variable {C : Codec} {tenantId : String} {runId : Digest} {call : JournalCall}
variable {clock : RecoveryClock}

theorem get_waiting : JournalWaiting C tenantId runId .get (getStatements C) := by
  intro c hrun r ws l hact
  obtain ⟨rfl, ⟨rfl, rfl⟩ | ⟨x, a, hx, ha, rfl, rfl⟩⟩ := select_answer hact
  · exact ⟨fun _ => ⟨rfl, trivial⟩, fun hne => absurd rfl hne⟩
  · refine ⟨fun _ => ⟨rfl, ?_⟩, fun hne => absurd rfl hne⟩
    show JournalWaiting C tenantId runId .get (liftM (readRow C (some (x.toExecutionRow, a))
      (.notFound "execution journal record not found")))
    cases readRow C (some (x.toExecutionRow, a))
        (.notFound "execution journal record not found") with
    | error e => trivial
    | ok r => exact fun _ _ => Or.inl ⟨rfl, rfl⟩

variable {revision : Nat} {key : AttemptKey} {current : ExecutionJournalRecord} {x : RunJournal}
  {expectation : JournalExpectation}

theorem transition_waiting {t : Transition}
    (hcall : ∀ s, call.run C clock s = transition C clock.toClock key revision t s) :
    JournalWaiting C tenantId runId call (transitionStatements C clock.toClock key revision t) := by
  refine waiting_lift fun _ hkey => ?_
  refine waiting_lift fun _ hcode => ?_
  refine waiting_select trivial ?_
  intro x a insertions hwf ha
  refine holding_lift fun current hread => ?_
  refine holding_lift fun _ hheld => ?_
  have hlocked := locked_start (C := C) x insertions
  have hcurrent := readRow_eq ha hread
    (.notFound "execution journal record not found")
  split
  next hcompleted =>
    refine holding_end hlocked ?_ ?_
    · intro _
      refine ⟨clock, ?_⟩
      show call.run C clock (some x) = _
      rw [hcall]
      unfold transition
      simp only [hkey, hcode, hcurrent, hheld, ok_bind, if_pos hcompleted]
      rfl
    · rw [born_same rfl, List.append_nil]
  next hcompleted =>
    split
    next hdone =>
      refine holding_end hlocked ?_ ?_
      · intro _
        refine ⟨clock, ?_⟩
        show call.run C clock (some x) = _
        rw [hcall]
        unfold transition
        simp only [hkey, hcode, hcurrent, hheld, ok_bind, if_neg hcompleted, if_pos hdone]
        rfl
      · rw [born_same rfl, List.append_nil]
    next hdone =>
      refine holding_lift fun _ hsource => ?_
      refine holding_updateAttempt hlocked ?_
      intro b t' hb
      refine holding_lift fun _ hupdated => ?_
      obtain ⟨x', hupdate, hlocked'⟩ := hb (require_eq_ok.mp hupdated)
      refine holding_reread "execution transition was rejected" hlocked' ?_ ?_
      · intro r hreread
        refine ⟨clock, ?_⟩
        show call.run C clock (some x) = _
        rw [hcall]
        unfold transition
        simp only [hkey, hcode, hcurrent, hheld, ok_bind, if_neg hcompleted, if_neg hdone,
          hsource, hupdate]
        exact hreread
      · rw [born_same (updateAttempt_length hupdate), List.append_nil]

theorem bind_waiting (clock : RecoveryClock) {i : BoundIdentity} :
    JournalWaiting C tenantId runId (.bindExecutionIdentity key revision i)
      (bindStatements C key revision i) := by
  refine waiting_lift fun _ hkey => ?_
  refine waiting_lift fun identity hexact => ?_
  refine waiting_select trivial ?_
  intro x a insertions hwf ha
  refine holding_lift fun current hread => ?_
  refine holding_lift fun _ hheld => ?_
  refine holding_lift fun _ hbinds => ?_
  have hlocked := locked_start (C := C) x insertions
  have hcurrent := readRow_eq ha hread
    (.notFound "execution journal record not found")
  split
  next bound hbound =>
    refine holding_lift fun _ hsame => ?_
    refine holding_end hlocked ?_ ?_
    · intro _
      refine ⟨clock, ?_⟩
      show bindExecutionIdentity C key revision i (some x) = _
      unfold bindExecutionIdentity
      simp only [hkey, hexact, hcurrent, hheld, hbinds, ok_bind, hbound, hsame]
      rfl
    · rw [born_same rfl, List.append_nil]
  next hbound =>
    refine holding_updateExecution hlocked ?_
    intro b t' hb
    refine holding_lift fun _ hupdated => ?_
    obtain ⟨x', hupdate, hlocked'⟩ := hb (require_eq_ok.mp hupdated)
    refine holding_reread "execution identity binding was rejected" hlocked' ?_ ?_
    · intro r hreread
      refine ⟨clock, ?_⟩
      show bindExecutionIdentity C key revision i (some x) = _
      unfold bindExecutionIdentity
      simp only [hkey, hexact, hcurrent, hheld, hbinds, ok_bind, hbound, hupdate]
      exact hreread
    · rw [born_same (congrArg List.length (updateRow_attempts hupdate)), List.append_nil]

theorem complete_waiting {run : Digest} {result : ControlRunExecutionResult} {receipt : Bytes} :
    JournalWaiting C tenantId runId (.markCompleted run key revision result receipt)
      (completeStatements C clock.toClock run key revision result receipt) := by
  refine waiting_lift fun _ hkey => ?_
  refine waiting_lift fun _ hresult => ?_
  refine waiting_lift fun _ hreceipt => ?_
  refine waiting_select trivial ?_
  intro x a insertions hwf ha
  refine holding_lift fun current hread => ?_
  have hlocked := locked_start (C := C) x insertions
  have hcurrent := readRow_eq ha hread
    (.notFound "execution journal record not found")
  split
  next stored hstored =>
    refine holding_lift fun _ hsame => ?_
    refine holding_end hlocked ?_ ?_
    · intro _
      refine ⟨clock, ?_⟩
      show markCompleted C clock.toClock run key revision result receipt (some x) = _
      unfold markCompleted
      simp only [hkey, hresult, hreceipt, hcurrent, ok_bind, hstored, hsame]
      rfl
    · rw [born_same rfl, List.append_nil]
  next hstored =>
    refine holding_lift fun _ hheld => ?_
    refine holding_updateAttempt hlocked ?_
    intro b t' hb
    refine holding_lift fun _ hupdated => ?_
    obtain ⟨y, hattempt, hlockedAttempt⟩ := hb (require_eq_ok.mp hupdated)
    refine holding_updateExecution hlockedAttempt ?_
    intro b' t'' hb'
    refine holding_lift fun _ hclaimed => ?_
    obtain ⟨z, hexecution, hlockedExecution⟩ := hb' (require_eq_ok.mp hclaimed)
    refine holding_reread "execution completion was rejected" hlockedExecution ?_ ?_
    · intro r hreread
      refine ⟨clock, ?_⟩
      show markCompleted C clock.toClock run key revision result receipt (some x) = _
      unfold markCompleted
      simp only [hkey, hresult, hreceipt, hcurrent, ok_bind, hstored, hheld, hattempt,
        rejectedAs, Except.mapError, expect, hexecution]
      exact hreread
    · have hlength := updateAttempt_length hattempt
      rw [← updateRow_attempts hexecution] at hlength
      rw [born_same hlength, List.append_nil]

/-! ### `prepare` -/

theorem takeOver_holding {request : ControlRunExecutionRequest} {insertions : List Attempt}
    {t : Session Write} (hlocked : Locked C ⟨some x, insertions⟩ t x insertions)
    (h : ∀ x' r, takeOver C clock.toClock request key x current = .ok (x', r) →
      ∃ clock, call.run C clock (some x) = .ok (x', r)) :
    JournalHolding C call (takeOverStatements C clock.toClock request key current)
      ⟨some x, insertions⟩ t := by
  refine holding_lift fun _ hcount => ?_
  refine holding_lift fun _ hunreconciled => ?_
  -- the rest, once the unfinished attempt has been superseded
  have hrest : ∀ y t', supersede C clock.toClock x current = .ok y →
      y.attempts.length = x.attempts.length →
      Locked C ⟨some x, insertions⟩ t' y insertions →
      JournalHolding C call (do
        let advanced ← statement (.updateExecution
          (fun x => decide (x.highestLeaseFence = current.highestLeaseFence
            ∧ x.highestAttemptCount = current.request.attemptCount ∧ x.completion = none))
          (fun row => { row with
            highestLeaseFence := request.leaseFence
            highestAttemptCount := request.attemptCount }))
        require (advanced = true)
          (JournalError.conflict "execution fence advance compare-and-swap failed")
        let _ ← statement
          (.insertAttempt (newAttempt request.attemptCount key) clock.transaction)
        let row ← statement (.selectCurrent false)
        readRow C row (.integrity "recovered execution could not be reread"))
        ⟨some x, insertions⟩ t' := by
    intro y t' hsupersede hlength hlocked'
    refine holding_updateExecution hlocked' ?_
    intro b t₁ hb
    refine holding_lift fun _ hadvanced => ?_
    obtain ⟨z, hadvance, hlockedAdvanced⟩ := hb (require_eq_ok.mp hadvanced)
    refine holding_insertAttempt hlockedAdvanced ?_
    intro w row t₂ hinsert hattempts hlockedInserted
    refine holding_reread "execution preparation was rejected" hlockedInserted ?_ ?_
    · intro r hreread
      refine h w r ?_
      unfold takeOver
      simp only [hcount, hunreconciled, ok_bind, hsupersede, hadvance, rejectedAs,
        Except.mapError, expect, hinsert]
      exact hreread
    · show _ = insertions ++ w.attempts.drop x.attempts.length
      rw [hattempts, updateRow_attempts hadvance, ← hlength, List.drop_left]
  unfold supersedeStatements
  split
  next hunfinished =>
    rw [bind_assoc]
    refine holding_updateAttempt hlocked ?_
    intro b t' hb
    refine holding_lift fun _ hsuperseded => ?_
    obtain ⟨y, hupdate, hlocked'⟩ := hb (require_eq_ok.mp hsuperseded)
    refine hrest y t' ?_ (updateAttempt_length hupdate) hlocked'
    unfold supersede
    rw [if_pos hunfinished]
    simp only [hupdate, rejectedAs, Except.mapError, ok_bind, expect]
  next hunfinished =>
    refine hrest x t ?_ rfl hlocked
    unfold supersede
    rw [if_neg hunfinished]
    rfl

variable {a : Attempt} {plan : Option Bytes} {r : RecoveryRow}

/-- What `prepare` does with the rows it found or inserted. -/
theorem prepareFound_holding {request : ControlRunExecutionRequest} {workerId : String}
    {token : Digest} {c : Tables} {t : Session Write}
    {insertions : List Attempt} (hlocked : Locked C c t x insertions) (ha : x.current = some a)
    (hworker : require (portableId workerId = true)
      (JournalError.invalid "worker id is not a portable identifier") = .ok ())
    (hlength : require (∀ p ∈ plan, 2 ≤ p.length ∧ p.length ≤ 2097152)
      (JournalError.invalid "execution plan bytes are outside the supported range") = .ok ())
    (hplan : require (∀ p ∈ plan, C.verifyPlan request.stable p ≠ none)
      (JournalError.invalid "execution plan is invalid") = .ok ())
    (hfound : findOrInsert C clock.toClock request ⟨request.leaseFence, workerId, token⟩ plan
      c.run = .ok x)
    (hnew : c = ⟨some x, insertions⟩ ∨ x.highestLeaseFence = request.leaseFence)
    (hinsertions : insertions = c.insertions ++ born c.run x) :
    JournalHolding C (.prepare request workerId token plan)
      (prepareFound C clock.toClock request ⟨request.leaseFence, workerId, token⟩ plan
        (some (x.toExecutionRow, a))) c t := by
  refine holding_lift fun current hread => ?_
  refine holding_lift fun _ hstable => ?_
  refine holding_lift fun _ hsame => ?_
  refine holding_lift fun _ hfence => ?_
  have hcurrent := readRow_eq ha hread (.integrity "prepared execution could not be reread")
  split
  next hcompleted =>
    refine holding_end hlocked ?_ hinsertions
    intro _
    refine ⟨clock, ?_⟩
    show prepare C clock.toClock request workerId token plan c.run = _
    unfold prepare
    simp only [hworker, hlength, hplan, ok_bind, hfound, hcurrent, hstable, hsame, hfence,
      if_pos hcompleted]
    rfl
  next hcompleted =>
    split
    next hequal =>
      refine holding_lift fun _ hheld => ?_
      refine holding_end hlocked ?_ hinsertions
      intro _
      refine ⟨clock, ?_⟩
      show prepare C clock.toClock request workerId token plan c.run = _
      unfold prepare
      simp only [hworker, hlength, hplan, ok_bind, hfound, hcurrent, hstable, hsame, hfence,
        if_neg hcompleted, if_pos hequal, hheld]
      rfl
    next hequal =>
      -- a run just inserted has the request's own fence
      rcases hnew with rfl | hnew
      · refine takeOver_holding hlocked ?_
        intro x' r htake
        refine ⟨clock, ?_⟩
        show prepare C clock.toClock request workerId token plan (some x) = _
        have hfound' : findOrInsert C clock.toClock request
          ⟨request.leaseFence, workerId, token⟩ plan (some x) = .ok x := hfound
        unfold prepare
        simp only [hworker, hlength, hplan, ok_bind, hfound', hcurrent, hstable, hsame, hfence,
          if_neg hcompleted, if_neg hequal]
        exact htake
      · refine absurd ?_ hequal
        obtain ⟨-, b, -, hof, -⟩ := readCurrent_ok hcurrent
        rw [hof.highest, hnew]

theorem findOrInsert_some {request : ControlRunExecutionRequest} (ha : x.current = some a) :
    findOrInsert C clock.toClock request key plan (some x) = .ok x := by
  unfold findOrInsert
  simp only [ha, reduceCtorEq, false_and, not_false_eq_true]
  rfl

/-- The rows of a run that was just inserted are consistent. -/
theorem insertRun_eq {request : ControlRunExecutionRequest} {plan : Bytes} {y : RunJournal}
    (hinsert : insertExecution C
      { request := request.stable
        planDigest := C.sha plan
        planBytes := plan
        identity := none
        highestLeaseFence := request.leaseFence
        highestAttemptCount := request.attemptCount
        completion := none } = .ok y)
    (hattempt : y.insertAttempt C (newAttempt request.attemptCount key) clock.transaction
      = .ok x) :
    insertRun C clock.toClock request key plan = .ok x
      ∧ x.highestLeaseFence = request.leaseFence := by
  have hy := hinsert
  unfold insertExecution at hy
  simp only [bind_eq_ok, require_eq_ok, pure_eq_ok] at hy
  obtain ⟨_, -, _, -, rfl⟩ := hy
  obtain ⟨row, hinserted, rfl, hcases⟩ := insertAttempt_ok hattempt
  have hrow : row.state = .prepared := by
    rcases hcases with ⟨-, rfl⟩ | ⟨hstate, -⟩
    · rfl
    · cases hstate
  refine ⟨?_, rfl⟩
  unfold insertRun RunJournal.commit
  simp only [hinsert, hattempt, ok_bind]
  rw [require_pos]
  · rfl
  · refine ⟨row, ?_, hinserted.count, ?_⟩
    · refine find?_eq_of_unique (List.mem_singleton.mpr rfl) (decide_eq_true hinserted.fence) ?_
      intro b hb _
      exact List.mem_singleton.mp hb
    · rw [hrow]
      simp

theorem prepare_waiting {request : ControlRunExecutionRequest} {workerId : String}
    {token : Digest} :
    JournalWaiting C tenantId runId (.prepare request workerId token plan)
      (prepareStatements C clock.toClock request workerId token plan) := by
  refine waiting_lift fun _ hworker => ?_
  refine waiting_lift fun _ hlength => ?_
  refine waiting_lift fun _ hplan => ?_
  refine waiting_select ?_ ?_
  · -- no row was found: insert the run, or find the one another transaction inserted
    unfold insertRunStatements
    rw [bind_assoc]
    refine waiting_lift fun p hp => ?_
    rw [bind_assoc]
    intro c hrun b ws l hact
    rcases hact with hact | ⟨hmisses, -⟩
    · dsimp only [Sql.answer] at hact
      split at hact
      · cases hact
        refine ⟨fun _ => ⟨rfl, ?_⟩, fun hne => absurd rfl hne⟩
        refine waiting_select trivial ?_
        intro x a insertions hwf ha
        refine prepareFound_holding (locked_start x insertions) ha hworker hlength hplan
          (findOrInsert_some ha) (Or.inl rfl) ?_
        rw [born_same rfl, List.append_nil]
      · rename_i hnone
        obtain ⟨run, insertions⟩ := c
        obtain rfl : run = none := hnone
        simp only [bind_eq_ok] at hact
        obtain ⟨y, hinsert, hact⟩ := hact
        cases hact
        refine ⟨?_, fun _ => ?_⟩
        · intro hfree
          cases hfree
        have hy : y = { toExecutionRow := y.toExecutionRow, attempts := [], recoveries := [] } := by
          unfold insertExecution at hinsert
          simp only [bind_eq_ok, require_eq_ok, pure_eq_ok] at hinsert
          obtain ⟨_, -, _, -, rfl⟩ := hinsert
          rfl
        have hlocked : Locked C ⟨none, insertions⟩
            ⟨.exclusive, [.execution y.toExecutionRow]⟩ y insertions := by
          refine ⟨?_, rfl⟩
          show (⟨some { toExecutionRow := y.toExecutionRow, attempts := [], recoveries := [] },
            insertions⟩ : Tables) = _
          rw [← hy]
        refine holding_insertAttempt hlocked ?_
        intro x row t' hattempt hattempts hlocked'
        refine holding_select hlocked' (fun _ => trivial) ?_
        intro a t₁ ha hlocked₁
        obtain ⟨hinsertRun, hfence⟩ := insertRun_eq hinsert hattempt
        refine prepareFound_holding hlocked₁ ha hworker hlength hplan ?_ (Or.inr hfence) ?_
        · unfold findOrInsert
          rw [hp, ok_bind]
          exact hinsertRun
        · show _ = insertions ++ x.attempts.drop 0
          rw [List.drop_zero, hattempts, hy]
          rfl
    · exact hmisses.elim
  · intro x a insertions hwf ha
    refine prepareFound_holding (locked_start x insertions) ha hworker hlength hplan
      (findOrInsert_some ha) (Or.inl rfl) ?_
    rw [born_same rfl, List.append_nil]

/-! ### Recovery -/

/-- What the routine rechecks under the lock is what the caller expected to find. -/
theorem expectedBy_of_named {e : PublishingRecoveryJournalExpectation}
    (hof : current.Of x a) (hnamed : x.namedBy r) (habandoned : a.abandonedIn r)
    (hbinding : r.authorization.journalBinding = e) (htenant : x.request.tenantId = e.tenantId)
    (hrun : x.request.runId = e.runId) : current.expectedBy e := by
  subst hbinding
  obtain ⟨hcontrol, hconfiguration, hplan, hidentity, hfence, -, hunfinished⟩ := hnamed
  obtain ⟨hcount, hworker, htoken, hstate, hrevision, hat, -⟩ := habandoned
  unfold ExecutionJournalRecord.expectedBy
  rw [hof.stable, hof.planDigest, hof.identity, hof.leaseFence, hof.attemptCount, hof.revision,
    hof.workerId, hof.leaseTokenDigest, hof.publishingAt, hof.state, hof.completion]
  exact ⟨htenant, hrun, hcontrol, hconfiguration, hplan, hidentity, hfence, hcount, hrevision,
    hworker, htoken, hat, hstate, hunfinished⟩

theorem authorizeRecovery_binding {pins : RecoveryPins}
    {now : Time} {value : Bytes} (h : authorizeRecovery C pins expectation now value = .ok r) :
    r.authorization.journalBinding = expectation.1 := by
  unfold authorizeRecovery at h
  split at h
  · rename_i envelope claim huse
    cases h
    exact (authorizeUse_ok huse).1.bound
  · cases h

/-- The attempt the routine rechecks is the current one. -/
theorem current_of_named
    (hfind : x.attempts.find? (fun a => decide (a.leaseFence = r.abandoned.leaseFence)) = some a)
    (hnamed : x.namedBy r) : x.current = some a := by
  unfold RunJournal.current
  rw [hnamed.2.2.2.2.1]
  exact hfind

/-- The routine: what it does to the rows it was called on. -/
theorem consume_waiting {databaseSecond : Time} {f : Unit → Statements ExecutionJournalRecord}
    (h : ∀ x insertions a x' row t', Tables.OfRun C tenantId runId ⟨some x, insertions⟩ →
      x.current = some a → x.namedBy r → a.abandonedIn r →
      x.consume C r clock.toClock databaseSecond = .ok (some x') →
      x'.attempts.drop x.attempts.length = [row] →
      Locked C ⟨some x, insertions⟩ t' x' (insertions ++ [row]) →
      JournalHolding C call (f ()) ⟨some x, insertions⟩ t') :
    JournalWaiting C tenantId runId call
      (consumeStatements C r clock.toClock databaseSecond >>= f) := by
  unfold consumeStatements
  simp only [bind_assoc]
  refine waiting_lift fun _ hbinding => ?_
  refine waiting_insertRecovery trivial ?_
  intro x insertions hrun hinserted
  refine holding_lockExecution
    (x := { x with recoveries := x.recoveries ++ [r] }) (t := ⟨.share, [.recovery r]⟩) rfl ?_
  intro t₀ hlocked
  refine holding_lift fun _ hexecution => ?_
  obtain ⟨_, hrow, hnamed⟩ := require_eq_ok.mp hexecution
  cases hrow
  have hnamed' : x.namedBy r := hnamed
  refine holding_lockAttempt hlocked ?_
  intro t₁ hlocked₁
  refine holding_lift fun _ hattempt => ?_
  obtain ⟨a, hfind, habandoned⟩ := require_eq_ok.mp hattempt
  refine holding_updateAttempt hlocked₁ ?_
  intro b t₁ hb
  refine holding_lift fun _ hretired => ?_
  obtain ⟨y, hretire, hlockedRetired⟩ := hb (require_eq_ok.mp hretired)
  refine holding_updateExecution hlockedRetired ?_
  intro b' t₂ hb'
  refine holding_lift fun _ hadvanced => ?_
  obtain ⟨z, hadvance, hlockedAdvanced⟩ := hb' (require_eq_ok.mp hadvanced)
  refine holding_insertAttempt hlockedAdvanced ?_
  intro x' row t₃ hinsert hattempts hlockedInserted
  have hlength : z.attempts.length = x.attempts.length := by
    have hretired := updateAttempt_length hretire
    rw [updateRow_attempts hadvance]
    exact hretired
  refine h x insertions a x' row t₃ hrun (current_of_named hfind hnamed') hnamed' habandoned ?_ ?_
    hlockedInserted
  · have hadopt : RunJournal.adopt C { x with recoveries := x.recoveries ++ [r] } r
        clock.toClock = .ok x' := by
      unfold RunJournal.adopt RunJournal.recheckExecution RunJournal.recheckAttempt
        RunJournal.retireAbandoned RunJournal.advanceToSuccessor
      have hrecorded : RunJournal.namedBy { x with recoveries := x.recoveries ++ [r] } r := hnamed
      rw [require_pos hrecorded, ok_bind, require_pos ⟨a, hfind, habandoned⟩, ok_bind]
      simp only [hretire, hadvance, ok_bind, expect]
      exact hinsert
    unfold RunJournal.consume
    rw [require_pos (require_eq_ok.mp hbinding), ok_bind, hinserted]
    simp only [ok_bind, hadopt]
    rfl
  · rw [hattempts, ← hlength, List.drop_left]

theorem recover_waiting {pins : RecoveryPins} {value : Bytes} :
    JournalWaiting C tenantId runId (.recover pins expectation value)
      (recoverStatements C clock pins expectation value) := by
  refine waiting_read trivial ?_
  intro x₀ a₀ htenant₀ hrunId₀
  refine waiting_lift fun current₀ hread₀ => ?_
  refine waiting_lift fun _ hexpected₀ => ?_
  refine waiting_lift fun r hauthorize => ?_
  -- of what was read without a lock only the run's own name is still known
  have hof₀ := (recordFromRow_ok (x := x₀) hread₀).1
  have hname : expectation.1.tenantId = tenantId ∧ expectation.1.runId = runId := by
    obtain ⟨he, he', -⟩ := require_eq_ok.mp hexpected₀
    rw [hof₀.stable] at he he'
    exact ⟨he.symm.trans htenant₀, he'.symm.trans hrunId₀⟩
  refine consume_waiting ?_
  intro x insertions a x' row t' hrun ha hnamed habandoned hconsume hborn hlocked
  refine holding_select hlocked (fun _ => trivial) ?_
  intro a' t₁ ha' hlocked₁
  refine holding_lift fun record hread => ?_
  refine holding_lift fun _ hsucceeds => ?_
  refine holding_end hlocked₁ ?_ ?_
  · intro hconsistent
    obtain ⟨hwf, htenant, hrunId⟩ := hrun x rfl
    obtain ⟨current, hcurrent, hof⟩ :=
      hwf.readCurrent ha (.notFound "execution journal record not found")
    have hexpected : current.expectedBy expectation.1 :=
      expectedBy_of_named hof hnamed habandoned (authorizeRecovery_binding hauthorize)
        (htenant.trans hname.1.symm) (hrunId.trans hname.2.symm)
    refine ⟨clock, ?_⟩
    show recoverIdentityBoundPublication C clock pins expectation value (some x) = _
    unfold recoverIdentityBoundPublication rereadSuccessor consumed reread RunJournal.commit
    simp only [hcurrent, ok_bind, require_pos hexpected, hauthorize, hconsume,
      readRow_eq ha' hread (.integrity "recovered execution could not be reread"),
      require_pos hconsistent]
    simp only [hsucceeds, ok_bind, pure, Except.pure, rejectedAs, Except.mapError]
  · show _ = insertions ++ x'.attempts.drop x.attempts.length
    rw [hborn]

theorem statements_waiting (clock : RecoveryClock) (call : JournalCall) :
    JournalWaiting C tenantId runId call (call.statements C clock) := by
  cases call with
  | prepare request workerId token plan => exact prepare_waiting
  | get => exact get_waiting
  | beginPublishing key revision => exact transition_waiting fun _ => rfl
  | bindExecutionIdentity key revision i => exact bind_waiting clock
  | markFailed key revision code => exact transition_waiting fun _ => rfl
  | markUncertain key revision code => exact transition_waiting fun _ => rfl
  | markCompleted run key revision result receipt => exact complete_waiting
  | recover pins expectation value => exact recover_waiting

end

end ControlAssurance.Execution
