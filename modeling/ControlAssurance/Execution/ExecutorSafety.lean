import ControlAssurance.Execution.Executor

/-!
# What `ensure_executed` keeps, whoever else runs

The rely-guarantee proof of the executor. Each stage of `ensureExecuted` is safe: it keeps
the invariant of the journal, moves the rows only to later ones, breaks nobody else's
authority over a publication, calls the publisher only with authority of its own, and
returns only results of the stored completion.

Two parameters say what is assumed. With `exclusive`, a worker runs at most one call at a
time for one lease fence; only then has an invocation an owner. With `guarded`, the
environment provider does not fail an attempt whose publisher was invoked before.
-/

namespace ControlAssurance.Execution

open Lib
open Admission (Bytes)
open ControlAssurance.Runtime (ControlRunExecutionResult)

/-! ## Invariant, order and authority -/

def AttemptKey.name (key : AttemptKey) : ClientName := (key.workerId, key.leaseFence)

/-- The invocation's attempt is the current one and is publishing, with the plan and the
identity of the invocation. -/
def Invocation.Authority (i : Invocation) (s : Option RunJournal) : Prop :=
  ∃ x a, s = some x ∧ x.current = some a ∧ a.heldBy i.key ∧ a.state = .publishing
    ∧ x.identity = some i.identity ∧ x.planBytes = i.planBytes

/-- The invocation's attempt has ended, and not as a known failure. -/
def Invocation.Recorded (i : Invocation) (s : Option RunJournal) : Prop :=
  ∃ x a, s = some x ∧ a ∈ x.attempts ∧ a.heldBy i.key
    ∧ (a.state = .completed ∨ a.state = .uncertain)

/-- The invocation's attempt is publishing, completed or uncertain, and the identity of its
run is bound. -/
def Invocation.Unfailed (i : Invocation) (s : Option RunJournal) : Prop :=
  ∃ x a, s = some x ∧ x.identity ≠ none ∧ a ∈ x.attempts ∧ a.heldBy i.key
    ∧ (a.state = .publishing ∨ a.state = .completed ∨ a.state = .uncertain)

/-- The invariant. -/
structure World.Inv (C : Codec) (guarded : Prop) (w : World) : Prop where
  wf : ∀ x ∈ w.journal, x.WF C
  unfailed : guarded → ∀ i ∈ w.invoked, i.Unfailed w.journal

/-- What every move keeps. -/
structure World.Order (w w' : World) : Prop where
  later : ∀ x ∈ w.journal, ∃ x' ∈ w'.journal, x.Later x'
  invoked : w.invoked <+: w'.invoked

/-- What the moves under other names keep for the client `name`. -/
structure World.Rely (exclusive : Prop) (name : ClientName) (w w' : World) : Prop
    extends World.Order w w' where
  authority : exclusive → ∀ i : Invocation, i.key.name = name → i.Authority w.journal → i.Authority w'.journal
  uninvoked : exclusive → ∀ i ∈ w'.invoked, i.key.name = name → i ∈ w.invoked

/-- What holds when a call is about to be made. -/
def World.Pre (exclusive : Prop) (name : ClientName) (c : ExecutorCall) (w : World) : Prop :=
  match c with
  | .publish i => i.key.name = name ∧ (exclusive → i.Authority w.journal)
  | .published i => i.key.name = name ∧ (exclusive → i.Authority w.journal)
  | .record i _ => i.key.name = name ∧ (exclusive → i.Authority w.journal)
  | .confirm i => i.key.name = name ∧ (exclusive → i.Authority w.journal ∨ i.Recorded w.journal)
  | _ => True

/-- A result carries the digests of the stored completion. -/
def World.Post (a : ExecutorResult) (w : World) : Prop :=
  ∀ result, a = .ok result → ∃ x c, w.journal = some x ∧ x.completion = some c
    ∧ result.evidenceDigest = c.2.evidenceDigest
    ∧ result.executorReceiptDigest = c.2.executorReceiptDigest

/-- The environment provider does not fail an attempt whose publisher was invoked: it
answers with an environment that passes `_validate_environment`. -/
def World.Composes (C : Codec) : (c : ExecutorCall) → World → c.Answer C → Prop
  | .prepareEnvironment key request planBytes expected, w, answer =>
    (∃ i ∈ w.invoked, i.key = key) → ∀ plan ∈ C.verifyPlan request.stable planBytes,
      ∃ environment, checkEnvironment C request planBytes plan expected answer = .ok environment
  | .journal _, _, _ => True
  | .nonceBytes, _, _ => True
  | .now, _, _ => True
  | .publish _, _, _ => True
  | .published _, _, _ => True
  | .record _ _, _, _ => True
  | .confirm _, _, _ => True

/-- The calls of a system in which, if `guarded`, every environment composes. -/
def World.execWhere (C : Codec) (guarded : Prop) (c : ExecutorCall) (w : World)
    (r : c.Answer C) (w' : World) : Prop :=
  World.exec C c w r w' ∧ (guarded → World.Composes C c w r)

section

variable {C : Codec} {exclusive guarded : Prop} {w w' w'' : World}

theorem World.Order.refl (w : World) : w.Order w :=
  ⟨fun x hx => ⟨x, hx, .refl x⟩, List.prefix_refl _⟩

theorem World.Order.trans (h : w.Order w') (h' : w'.Order w'') : w.Order w'' := by
  refine ⟨?_, h.invoked.trans h'.invoked⟩
  intro x hx
  obtain ⟨x', hx', hlater⟩ := h.later x hx
  obtain ⟨x'', hx'', hlater'⟩ := h'.later x' hx'
  exact ⟨x'', hx'', hlater.trans hlater'⟩

theorem World.Rely.refl (name : ClientName) (w : World) : World.Rely exclusive name w w :=
  ⟨.refl w, fun _ _ _ h => h, fun _ _ h _ => h⟩

theorem World.Rely.trans {name : ClientName} (h : World.Rely exclusive name w w')
    (h' : World.Rely exclusive name w' w'') : World.Rely exclusive name w w'' := by
  refine ⟨h.toOrder.trans h'.toOrder, ?_, ?_⟩
  · intro hexclusive i hname hauthority
    exact h'.authority hexclusive i hname (h.authority hexclusive i hname hauthority)
  · intro hexclusive i hi hname
    exact h.uninvoked hexclusive i (h'.uninvoked hexclusive i hi hname) hname

theorem World.Post.later {a : ExecutorResult} (h : World.Post a w) (horder : w.Order w') :
    World.Post a w' := by
  intro result ha
  obtain ⟨x, c, hx, hc, hdigests⟩ := h result ha
  obtain ⟨x', hx', hlater⟩ := horder.later x hx
  exact ⟨x', c, hx', (hlater.completion c hc).1, hdigests⟩

/-! ## One journal call -/

/-- A caller with another name leaves an authority alone. -/
theorem change_authority {x x' : RunJournal} {key : AttemptKey} {i : Invocation}
    (hwf : x.WF C) (hchange : Change C (some key) (some x) x')
    (hname : i.key.name ≠ key.name) (hauthority : i.Authority (some x)) :
    i.Authority (some x') := by
  obtain ⟨y, a, hy, ha, hheld, hstate, hidentity, hplan⟩ := hauthority
  cases hy
  -- the attempt a caller moves is the current one, and its own
  have hown : ∀ old : Attempt, old ∈ x.attempts → old.leaseFence = x.highestLeaseFence →
      ¬old.heldBy key := by
    intro old hold hfence hkey
    obtain rfl := hwf.current_eq ha hold hfence
    apply hname
    unfold AttemptKey.name
    rw [← hheld.1, ← hheld.2.1, hkey.1, hkey.2.1]
  cases hchange with
  | same => exact ⟨x, a, rfl, ha, hheld, hstate, hidentity, hplan⟩
  | moved hmoved => exact absurd hmoved.held (hown _ hmoved.mem hmoved.current)
  | bound hbound =>
    rw [hbound.unbound] at hidentity
    cases hidentity
  | completed hcompleted =>
    exact absurd hcompleted.held (hown _ hcompleted.mem hcompleted.current)
  | takenOver htaken =>
    have hreads := htaken.reads
    rw [ha] at hreads
    cases hreads
    refine absurd ⟨hstate, ?_⟩ htaken.unreconciled
    rw [hidentity]
    exact Option.some_ne_none i.identity

/-- An attempt that evolves from `publishing` or an end is never `prepared` again. -/
theorem Attempt.evolves.state {a b : Attempt} (h : a.evolves b) :
    b = a ∨ b.state ≠ .prepared := by
  induction h with
  | refl => exact Or.inl rfl
  | tail _ hstep _ => exact Or.inr hstep.2.begun

/-- An invocation stays unfailed in a later state whose only new failed attempts are of other
keys. -/
theorem unfailed_later {x x' : RunJournal} {i : Invocation} (hlater : x.Later x')
    (hnodup : (x.attempts.map (·.leaseFence)).Nodup)
    (hnew : ∀ b ∈ x'.attempts, b.state = .failed → b ∈ x.attempts ∨ ¬b.heldBy i.key)
    (h : i.Unfailed (some x)) : i.Unfailed (some x') := by
  obtain ⟨y, a, hy, hidentity, ha, hheld, hstate⟩ := h
  cases hy
  obtain ⟨b, hb, hevolves⟩ := hlater.attempts a ha
  have hsame : b.heldBy i.key := by
    have hidentities : ∀ {b : Attempt}, a.evolves b → b.heldBy i.key := by
      intro b hab
      induction hab with
      | refl => exact hheld
      | tail _ hstep ih =>
        obtain ⟨hfence, -, hworker, htoken, -⟩ := hstep.1
        exact ⟨hfence.trans ih.1, hworker.trans ih.2.1, htoken.trans ih.2.2⟩
    exact hidentities hevolves
  have hnotFailed : b.state ≠ .failed := by
    intro hfailed
    rcases hnew b hb hfailed with hmem | hother
    · have hsameFence : b.leaseFence = a.leaseFence := hsame.1.trans hheld.1.symm
      obtain rfl := List.inj_on_of_nodup_map hnodup hmem ha hsameFence
      rw [hfailed] at hstate
      simp at hstate
    · exact hother hsame
  have hnotPrepared : b.state ≠ .prepared := by
    rcases hevolves.state with rfl | hbegun
    · intro hprepared
      rw [hprepared] at hstate
      simp at hstate
    · exact hbegun
  refine ⟨x', b, rfl, ?_, hb, hsame, ?_⟩
  · obtain ⟨j, hj⟩ := Option.ne_none_iff_exists'.mp hidentity
    rw [hlater.identity j hj]
    exact Option.some_ne_none j
  · cases hb' : b.state with
    | prepared => exact absurd hb' hnotPrepared
    | failed => exact absurd hb' hnotFailed
    | publishing => exact Or.inl rfl
    | completed => exact Or.inr (Or.inl rfl)
    | uncertain => exact Or.inr (Or.inr rfl)

/-- Only `mark_failed` records a failure. -/
theorem run_failed {clock : RecoveryClock} {call : JournalCall} {s : Option RunJournal}
    {x' : RunJournal} {r : ExecutionJournalRecord}
    (hnodup : ∀ x ∈ s, (x.attempts.map (·.leaseFence)).Nodup)
    (h : call.run C clock s = .ok (x', r)) {b : Attempt} (hb : b ∈ x'.attempts)
    (hfailed : b.state = .failed) :
    (∃ x ∈ s, b ∈ x.attempts) ∨ ∃ key revision code x old,
      call = .markFailed key revision code ∧ s = some x
        ∧ Moved C x x' key revision (.failed code) old b := by
  have hmoves : ∀ {key : AttemptKey} {revision : Nat} {t : Transition},
      transition C clock.toClock key revision t s = .ok (x', r) →
      (∃ x ∈ s, b ∈ x.attempts)
        ∨ (t.target = .failed ∧ ∃ x old, s = some x ∧ Moved C x x' key revision t old b) := by
    intro key revision t ht
    obtain ⟨x, rfl, -, -, ⟨rfl, -⟩ | ⟨old, new, hmoved⟩⟩ := transition_ok ht
    · exact Or.inl ⟨x', rfl, hb⟩
    · rw [hmoved.result] at hb
      rcases (mem_replace hmoved.mem).mp hb with rfl | ⟨hb, -⟩
      · exact Or.inr ⟨hmoved.target.symm.trans hfailed, x, old, rfl, hmoved⟩
      · exact Or.inl ⟨x, rfl, hb⟩
  cases call with
  | prepare request workerId token plan =>
    obtain ⟨-, ⟨rfl, -⟩ | ⟨rfl, p, -, hcreated⟩ | ⟨x, rfl, old, settled, htaken⟩⟩ :=
      prepare_ok hnodup h
    · exact Or.inl ⟨x', rfl, hb⟩
    · rw [hcreated.result] at hb
      obtain rfl := List.mem_singleton.mp hb
      cases hfailed
    · left
      refine ⟨x, rfl, ?_⟩
      rw [htaken.result] at hb
      rcases List.mem_append.mp hb with hb | hb
      · have hold := (current_mem htaken.reads).1
        rcases (mem_replace hold).mp hb with rfl | ⟨hb, -⟩
        · rcases htaken.settles with ⟨-, rfl⟩ | ⟨-, huncertain, -⟩
          · exact hold
          · rw [hfailed] at huncertain
            cases huncertain
        · exact hb
      · obtain rfl := List.mem_singleton.mp hb
        cases hfailed
  | get =>
    obtain ⟨rfl, -⟩ := readCurrent_ok h
    exact Or.inl ⟨x', rfl, hb⟩
  | beginPublishing key revision =>
    rcases hmoves h with hold | ⟨htarget, -⟩
    · exact Or.inl hold
    · cases htarget
  | bindExecutionIdentity key revision i =>
    obtain ⟨x, rfl, -, -, -, -, rfl | ⟨a, hbound⟩⟩ := bindExecutionIdentity_ok h
    · exact Or.inl ⟨x', rfl, hb⟩
    · rw [hbound.result] at hb
      exact Or.inl ⟨x, rfl, hb⟩
  | markFailed key revision code =>
    rcases hmoves h with hold | ⟨-, x, old, hs, hmoved⟩
    · exact Or.inl hold
    · exact Or.inr ⟨key, revision, code, x, old, rfl, hs, hmoved⟩
  | markUncertain key revision code =>
    rcases hmoves h with hold | ⟨htarget, -⟩
    · exact Or.inl hold
    · cases htarget
  | markCompleted runId key revision result receipt =>
    obtain ⟨x, rfl, -, -, -, rfl | ⟨old, new, hcompleted⟩⟩ := markCompleted_ok h
    · exact Or.inl ⟨x', rfl, hb⟩
    · rw [hcompleted.result] at hb
      rcases (mem_replace hcompleted.mem).mp hb with rfl | ⟨hb, -⟩
      · rw [hcompleted.target.1] at hfailed
        cases hfailed
      · exact Or.inl ⟨x, rfl, hb⟩
  | recover pins expectation value =>
    obtain ⟨x, rfl, -, -, -, row, old, new, hadopted, -⟩ := recover_ok hnodup h
    left
    refine ⟨x, rfl, ?_⟩
    rw [hadopted.result] at hb
    rcases List.mem_append.mp hb with hb | hb
    · rcases (mem_replace hadopted.mem).mp hb with rfl | ⟨hb, -⟩
      · rw [hadopted.superseded.1] at hfailed
        cases hfailed
      · exact hb
    · obtain rfl := List.mem_singleton.mp hb
      cases hfailed

/-- A `mark_failed` with the revision of a prepared attempt, or for another attempt, fails no
invocation. -/
def JournalCall.sparing (call : JournalCall) (i : Invocation) : Prop :=
  match call with
  | .markFailed key revision _ => revision = 0 ∨ i.key ≠ key
  | _ => True

theorem heldBy_key {a : Attempt} {k k' : AttemptKey} (h : a.heldBy k) (h' : a.heldBy k') :
    k = k' := by
  obtain ⟨hfence, hworker, htoken⟩ := h
  rw [h'.1] at hfence
  rw [h'.2.1] at hworker
  rw [h'.2.2] at htoken
  cases k
  cases k'
  simp only [AttemptKey.mk.injEq]
  exact ⟨hfence.symm, hworker.symm, htoken.symm⟩

/-- Only a prepared attempt has revision zero. -/
theorem checks_revision {a : Attempt} (h : a.checks C.sha) :
    a.revision = 0 ↔ a.state = .prepared := by
  have hshape : a.stateShape C.sha := h.2.2.2.2.1
  unfold Attempt.stateShape at hshape
  constructor
  · intro hzero
    by_contra hbegun
    split at hshape
    next hprepared => exact hbegun hprepared
    next => omega
    next => omega
    next => omega
    next => omega
  · intro hprepared
    rw [hprepared] at hshape
    exact hshape.1

theorem unfailed_run {clock : RecoveryClock} {call : JournalCall} {s : Option RunJournal}
    {x' : RunJournal} {r : ExecutionJournalRecord} {i : Invocation}
    (hwf : ∀ x ∈ s, x.WF C) (h : call.run C clock s = .ok (x', r)) (hspares : call.sparing i)
    (hunfailed : i.Unfailed s) : i.Unfailed (some x') := by
  obtain ⟨x, a, hs, hidentity, ha, hheld, hstate⟩ := hunfailed
  cases hs
  have hnodup : ∀ y ∈ some x, (y.attempts.map (·.leaseFence)).Nodup :=
    fun y hy => (hwf y hy).fences
  have hx := hwf x rfl
  have hlater : x.Later x' := change_later hwf (run_change hnodup h).1 x rfl
  refine unfailed_later hlater hx.fences ?_ ⟨x, a, rfl, hidentity, ha, hheld, hstate⟩
  intro b hb hfailed
  rcases run_failed hnodup h hb hfailed with
    ⟨_, hy, hold⟩ | ⟨key, revision, code, _, old, rfl, hy, hmoved⟩
  · cases hy
    exact Or.inl hold
  · cases hy
    right
    intro hbi
    have hbkey : b.heldBy key := by
      obtain ⟨hfence, -, hworker, htoken, -⟩ := hmoved.same
      obtain ⟨h₁, h₂, h₃⟩ := hmoved.held
      exact ⟨hfence.trans h₁, hworker.trans h₂, htoken.trans h₃⟩
    rcases hspares with hzero | hother
    · -- the attempt with that revision is prepared, and the invocation's is not
      have hsame : a = old := by
        refine List.inj_on_of_nodup_map hx.fences ha hmoved.mem ?_
        show a.leaseFence = old.leaseFence
        rw [hheld.1, ← hbi.1, hmoved.same.1]
      have hrevision : a.revision = 0 := by
        rw [hsame, hmoved.expected]
        exact hzero
      rw [checks_revision (hx.checks a ha)] at hrevision
      rw [hrevision] at hstate
      simp at hstate
    · exact hother (heldBy_key hbi hbkey)

/-- The call reads, or is made under `name`. -/
def JournalCall.madeBy (call : JournalCall) (name : ClientName) : Prop :=
  call = .get ∨ ∃ key, call.key = some key ∧ key.name = name

/-- What one journal call keeps, whatever it answers. -/
theorem journalCall_kept {name : ClientName} {call : JournalCall}
    {r : Except JournalError ExecutionJournalRecord} (hinv : w.Inv C guarded)
    (hcall : call.madeBy name) (hspares : guarded → ∀ i ∈ w.invoked, call.sparing i)
    (h : w.journalCall C call r w') :
    w'.Inv C guarded ∧ w.Order w'
      ∧ ∀ other, (exclusive → other ≠ name) → World.Rely exclusive other w w' := by
  obtain ⟨s, invoked⟩ := w
  obtain ⟨s', invoked'⟩ := w'
  obtain ⟨hanswer, rfl⟩ := h
  have hsame : s' = s → World.Inv C guarded ⟨s', invoked'⟩ ∧ World.Order ⟨s, invoked'⟩ ⟨s', invoked'⟩
      ∧ ∀ other, (exclusive → other ≠ name) →
        World.Rely exclusive other ⟨s, invoked'⟩ ⟨s', invoked'⟩ := by
    rintro rfl
    exact ⟨hinv, .refl _, fun other _ => .refl other _⟩
  -- a committed call is one change of a caller with this name
  have hcommitted : ∀ {clock : RecoveryClock} {x' : RunJournal} {record : ExecutionJournalRecord},
      call.run C clock s = .ok (x', record) → s' = some x' →
      World.Inv C guarded ⟨s', invoked'⟩ ∧ World.Order ⟨s, invoked'⟩ ⟨s', invoked'⟩
        ∧ ∀ other, (exclusive → other ≠ name) →
          World.Rely exclusive other ⟨s, invoked'⟩ ⟨s', invoked'⟩ := by
    rintro clock x' record hrun rfl
    obtain ⟨hchange, -⟩ := run_change (fun x hx => (hinv.wf x hx).fences) hrun
    have hlater := change_later hinv.wf hchange
    have horder : World.Order ⟨s, invoked'⟩ ⟨some x', invoked'⟩ :=
      ⟨fun x hx => ⟨x', rfl, hlater x hx⟩, List.prefix_refl _⟩
    refine ⟨⟨?_, ?_⟩, horder, ?_⟩
    · rintro _ ⟨⟩
      exact change_wf hinv.wf hchange
    · intro hguarded i hi
      exact unfailed_run hinv.wf hrun (hspares hguarded i hi) (hinv.unfailed hguarded i hi)
    · intro other hother
      refine ⟨horder, ?_, fun _ i hi _ => hi⟩
      intro hexclusive i hname hauthority
      obtain ⟨x, a, hs, hrest⟩ := hauthority
      obtain rfl : s = some x := hs
      rcases hcall with rfl | ⟨key, hkey, hkeyName⟩
      · obtain ⟨hx, -⟩ := readCurrent_ok hrun
        cases hx
        exact ⟨_, a, rfl, hrest⟩
      · rw [hkey] at hchange
        refine change_authority (hinv.wf x rfl) hchange ?_ ⟨x, a, rfl, hrest⟩
        rw [hname, hkeyName]
        exact hother hexclusive
  cases hanswer with
  | done hrun => exact hcommitted hrun rfl
  | refused _ => exact hsame rfl
  | lost hrun => exact hcommitted hrun rfl
  | interrupted _ => exact hsame rfl

end

/-! ## The stages -/

/-- What is proved of a stage. -/
def ExecutorSafe (C : Codec) (exclusive guarded : Prop) (name : ClientName)
    (p : ExecutorProg C) (w : World) : Prop :=
  NamedSafe (World.execWhere C guarded) exclusive (World.Inv C guarded) World.Order
    (World.Rely exclusive) (World.Pre exclusive) World.Post name p w

/-- The record was read from the rows as they are. -/
def World.Reads (w : World) (record : ExecutionJournalRecord) : Prop :=
  ∃ x, w.journal = some x ∧ Answers x record

/-- The plan is the stored one. -/
def World.PlanIs (w : World) (planBytes : Bytes) : Prop :=
  ∃ x, w.journal = some x ∧ x.planBytes = planBytes

section

variable {C : Codec} {exclusive guarded : Prop} {name : ClientName} {w w' w'' : World}

theorem World.PlanIs.later {planBytes : Bytes} (h : w.PlanIs planBytes) (horder : w.Order w') :
    w'.PlanIs planBytes := by
  obtain ⟨x, hx, hplan⟩ := h
  obtain ⟨x', hx', hlater⟩ := horder.later x hx
  exact ⟨x', hx', hlater.planBytes.trans hplan⟩

theorem World.Reads.planIs {record : ExecutionJournalRecord} (h : w.Reads record) :
    w.PlanIs record.planBytes := by
  obtain ⟨x, hx, a, -, hof⟩ := h
  exact ⟨x, hx, hof.planBytes.symm⟩

/-- A prepared record has revision zero. -/
theorem World.Reads.revision {record : ExecutionJournalRecord} (h : w.Reads record)
    (hinv : w.Inv C guarded) (hprepared : record.state = .prepared) : record.revision = 0 := by
  obtain ⟨x, hx, a, ha, hof⟩ := h
  rw [hof.state] at hprepared
  rw [hof.revision]
  exact (checks_revision ((hinv.wf x hx).checks a (current_mem ha).1)).mpr hprepared

/-- A publishing record of this attempt gives authority. -/
theorem World.Reads.authority {record : ExecutionJournalRecord} {i : Invocation}
    (h : w.Reads record) (hheld : record.heldBy i.key) (hstate : record.state = .publishing)
    (hidentity : record.identity = some i.identity) (hplan : w.PlanIs i.planBytes) :
    i.Authority w.journal := by
  obtain ⟨x, hx, a, ha, hof⟩ := h
  obtain ⟨y, hy, hbytes⟩ := hplan
  rw [hx] at hy
  cases hy
  rw [hof.state] at hstate
  rw [hof.identity] at hidentity
  exact ⟨x, a, hx, ha, heldBy_of hof ha hheld, hstate, hidentity, hbytes⟩

/-- A committed answer is the record of the rows it leaves. -/
theorem World.journalCall_ok {call : JournalCall} {record : ExecutionJournalRecord}
    (hinv : w.Inv C guarded) (h : w.journalCall C call (.ok record) w') :
    w'.Reads record
      ∧ ∃ clock x', call.run C clock w.journal = .ok (x', record) ∧ w'.journal = some x' := by
  obtain ⟨hanswer, -⟩ := h
  generalize hs' : w'.journal = s' at hanswer
  cases hanswer with
  | @done clock x' _ hrun =>
    obtain ⟨-, hanswers⟩ := run_change (fun x hx => (hinv.wf x hx).fences) hrun
    exact ⟨⟨x', hs', hanswers⟩, clock, x', hrun, rfl⟩

theorem safe_raise (err : ExecutorError) : ExecutorSafe C exclusive guarded name (raise err) w := by
  intro result h
  cases h

/-- A result is that of the stored completion. -/
theorem safe_result {request : ControlRunExecutionRequest} {record : ExecutionJournalRecord}
    (h : w.Reads record) :
    ExecutorSafe C exclusive guarded name (.ret (resultForRequest C request record)) w := by
  intro result hresult
  obtain ⟨x, hx, a, -, hof⟩ := h
  unfold resultForRequest at hresult
  rw [hof.completion] at hresult
  split at hresult
  · cases hresult
  · rename_i c hc
    split at hresult
    · cases hresult
      exact ⟨x, c, hx, hc, rfl, rfl⟩
    · cases hresult

/-- The rule for a journal call. -/
theorem safe_journal {call : JournalCall}
    {k : Except JournalError ExecutionJournalRecord → ExecutorProg C}
    (hcall : call.madeBy name)
    (hspares : guarded → ∀ w', World.Rely exclusive name w w' → ∀ i ∈ w'.invoked, call.sparing i)
    (hk : ∀ w' w'' r, World.Rely exclusive name w w' → w'.Inv C guarded →
      w'.journalCall C call r w'' → w''.Inv C guarded → w'.Order w'' →
      ExecutorSafe C exclusive guarded name (k r) w'') :
    ExecutorSafe C exclusive guarded name (.call (.journal call) k) w := by
  intro w' hrely hinv
  refine ⟨trivial, ?_⟩
  rintro r w'' ⟨hexec, -⟩
  obtain ⟨hinv', horder, hothers⟩ :=
    journalCall_kept hinv hcall (fun hguarded => hspares hguarded w' hrely) hexec
  exact ⟨hinv', horder, hothers, hk w' w'' r hrely hinv hexec hinv' horder⟩

/-- The rule for a call that leaves the world as it is. -/
theorem safe_local {c : ExecutorCall} {k : c.Answer C → ExecutorProg C}
    (hsame : ∀ w r w', World.exec C c w r w' → w' = w)
    (hpre : ∀ w', World.Rely exclusive name w w' → World.Pre exclusive name c w')
    (hk : ∀ w' r, World.Rely exclusive name w w' → w'.Inv C guarded →
      (guarded → World.Composes C c w' r) → ExecutorSafe C exclusive guarded name (k r) w') :
    ExecutorSafe C exclusive guarded name (.call c k) w := by
  intro w' hrely hinv
  refine ⟨hpre w' hrely, ?_⟩
  rintro r w'' ⟨hexec, hcomposes⟩
  obtain rfl := hsame w' r w'' hexec
  exact ⟨hinv, .refl _, fun other _ => .refl other _, hk w'' r hrely hinv hcomposes⟩

end

end ControlAssurance.Execution
