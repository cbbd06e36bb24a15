import ControlAssurance.Execution.Serialization
import ControlAssurance.Execution.WayForward

/-!
# Adoption happens once

Any number of sessions run the journal's methods and recoveries on one run, their statements
interleaved. Their commits are whole calls, one after another (`Serialization.lean`), so what
holds along every sequence of calls holds under every interleaving. Here it is what a
recovery row stands for: the attempt it abandoned was retired by it, the successor it names
was inserted by it directly in `publishing`, no other row abandons the same fence, and from
then on the abandoned worker commits nothing.
-/

namespace ControlAssurance.Execution

open Lib
open Admission (Bytes)
open ControlAssurance.Runtime (ControlRunExecutionResult)

/-! ## Sessions -/

/-- A new run is created under its own name. -/
def JournalCall.Names (tenantId : String) (runId : Digest) : JournalCall → Prop
  | .prepare request _ _ _ => request.stable.tenantId = tenantId ∧ request.stable.runId = runId
  | _ => True

instance (tenantId : String) (runId : Digest) :
    (call : JournalCall) → Decidable (call.Names tenantId runId)
  | .prepare request _ _ _ => inferInstanceAs
      (Decidable (request.stable.tenantId = tenantId ∧ request.stable.runId = runId))
  | .get | .beginPublishing .. | .bindExecutionIdentity .. | .markFailed .. | .markUncertain ..
  | .markCompleted .. | .recover .. => inferInstanceAs (Decidable True)

abbrev JournalDatabase :=
  Database Nat JournalCall Tables Write ExecutionJournalRecord

/-- A client in a session. -/
abbrev JournalClient :=
  Prog (Nat × Request Sql JournalCall ExecutionJournalRecord)
    (fun c => c.2.Reply SqlFailure Sql.Out) (Except JournalError ExecutionJournalRecord)

/-- A call in a session of its own. -/
def JournalCall.client (C : Codec) (clock : RecoveryClock) (call : JournalCall) (id : Nat) :
    JournalClient :=
  transaction call.report id call (call.statements C clock)

/-- What may start in a session: any call on the run. -/
def JournalEntry (C : Codec) (tenantId : String) (runId : Digest) (id : Nat)
    (p : JournalClient) : Prop :=
  ∃ clock, ∃ call : JournalCall, call.Names tenantId runId ∧ p = call.client C clock id

abbrev JournalConfig := Config JournalDatabase (Nat × JournalClient)

def JournalConfig.init : JournalConfig :=
  ⟨⟨⟨none, []⟩, fun _ => .idle, []⟩, []⟩

/-- Some interleaving of calls on the run leads to a configuration. -/
def Interleaved (C : Codec) (tenantId : String) (runId : Digest) (c : JournalConfig) : Prop :=
  NamedSteps (Database.exec (journalStore C) False) (JournalEntry C tenantId runId) True
    JournalConfig.init c

/-- A commit of a call on the run. -/
def CommitOf (C : Codec) (tenantId : String) (runId : Digest)
    (c : Committed JournalCall Tables ExecutionJournalRecord) : Prop :=
  JournalCommit C c ∧ c.label.Names tenantId runId

section

variable {C : Codec} {tenantId : String} {runId : Digest}
variable {c : Committed JournalCall Tables ExecutionJournalRecord}

theorem run_request {clock : RecoveryClock} {call : JournalCall} {s : Option RunJournal}
    {x' : RunJournal} {r : ExecutionJournalRecord} (hwf : ∀ x ∈ s, x.WF C)
    (h : call.run C clock s = .ok (x', r)) :
    x'.WF C ∧ (∀ x ∈ s, x.Later x')
      ∧ (s = none → ∃ request workerId token plan,
        call = .prepare request workerId token plan ∧ x'.request = request.stable) := by
  obtain ⟨hchange, -⟩ := run_change (fun x hx => (hwf x hx).fences) h
  refine ⟨change_wf hwf hchange, change_later hwf hchange, ?_⟩
  rintro rfl
  cases call with
  | prepare request workerId token plan =>
    refine ⟨request, workerId, token, plan, rfl, ?_⟩
    obtain ⟨-, ⟨hs, -⟩ | ⟨-, p, -, hcreated⟩ | ⟨x, hs, -⟩⟩ :=
      prepare_ok (fun x hx => (hwf x hx).fences) h
    · cases hs
    · rw [hcreated.result]
    · cases hs
  | get => cases h
  | beginPublishing key revision =>
    obtain ⟨x, hs, -⟩ := transition_ok h
    cases hs
  | bindExecutionIdentity key revision i =>
    obtain ⟨x, hs, -⟩ := bindExecutionIdentity_ok h
    cases hs
  | markFailed key revision code =>
    obtain ⟨x, hs, -⟩ := transition_ok h
    cases hs
  | markUncertain key revision code =>
    obtain ⟨x, hs, -⟩ := transition_ok h
    cases hs
  | markCompleted run key revision result receipt =>
    obtain ⟨x, hs, -⟩ := markCompleted_ok h
    cases hs
  | recover pins expectation value =>
    obtain ⟨x, hs, -⟩ := recover_ok (fun x hx => (hwf x hx).fences) h
    cases hs

/-- A commit keeps the rows well formed, and those of the run. -/
theorem commitOf_ofRun (hc : CommitOf C tenantId runId c)
    (hbefore : c.before.OfRun C tenantId runId) : c.after.OfRun C tenantId runId := by
  obtain ⟨⟨-, hsame⟩ | ⟨clock, x', hrun, hafter⟩, hnames⟩ := hc
  · rw [hsame]
    exact hbefore
  · rw [hafter]
    intro y hy
    cases hy
    obtain ⟨hwf, hlater, hnew⟩ := run_request (fun x hx => (hbefore x hx).1) hrun
    refine ⟨hwf, ?_⟩
    cases hs : c.before.run with
    | none =>
      obtain ⟨request, workerId, token, plan, hlabel, hrequest⟩ := hnew hs
      rw [hlabel] at hnames
      rw [hrequest]
      exact hnames
    | some x =>
      rw [(hlater x hs).request]
      exact (hbefore x hs).2

theorem client_safe (clock : RecoveryClock) (call : JournalCall)
    (hnames : call.Names tenantId runId) (id : Nat) (d : JournalDatabase) :
    SessionSafe (journalStore C) (Tables.OfRun C tenantId runId) (CommitOf C tenantId runId) id
      (call.client C clock id) d :=
  transaction_safe (fun _ => commitOf_ofRun)
    ((statements_waiting clock call).labelled hnames) d

/-- A call also commits under its own label only. -/
theorem client_safe_of {P : JournalCall → Prop} (clock : RecoveryClock) (call : JournalCall)
    (hnames : call.Names tenantId runId) (hlabel : P call) (id : Nat) (d : JournalDatabase) :
    SessionSafe (journalStore C) (Tables.OfRun C tenantId runId)
      (fun c => CommitOf C tenantId runId c ∧ P c.label) id (call.client C clock id) d :=
  transaction_safe (fun _ hc => commitOf_ofRun hc.1)
    (((statements_waiting clock call).labelled hnames).labelled hlabel) d

/-- Under every interleaving the committed history is a sequence of whole calls. -/
theorem interleaved_serial {c : JournalConfig} (h : Interleaved C tenantId runId c) :
    SessionsKept (journalStore C) (Tables.OfRun C tenantId runId) (CommitOf C tenantId runId) c
      ∧ Serial (CommitOf C tenantId runId) ⟨none, []⟩ c.shared.history c.shared.committed := by
  have hinit : SessionsKept (journalStore C) (Tables.OfRun C tenantId runId)
      (CommitOf C tenantId runId) JournalConfig.init := by
    refine kept_init ⟨?_, fun _ _ _ => rfl, fun _ _ => rfl⟩
    intro x hx
    cases hx
  obtain ⟨hkept, cs, hhistory, hserial⟩ := steps_serial
    (fun id p hp d _ => by
      obtain ⟨clock, call, hnames, rfl⟩ := hp
      exact client_safe clock call hnames id d) h hinit
  refine ⟨hkept, ?_⟩
  have hcs : c.shared.history = cs := hhistory
  rw [hcs]
  exact hserial

end

/-! ## What a recovery row stands for -/

/-- The two attempts of a recovery row, in the rows as they are now. -/
structure RecoveryRow.Stands (r : RecoveryRow) (x : RunJournal) (insertions : List Attempt) :
    Prop where
  /-- The abandoned attempt was retired at the time the authorization was used. -/
  abandoned : ∃ a ∈ x.attempts, a.leaseFence = r.abandoned.leaseFence
    ∧ a.attemptCount = r.abandoned.attemptCount ∧ a.workerId = r.abandoned.workerId
    ∧ a.leaseTokenDigest = r.abandoned.leaseTokenDigest ∧ a.state = .uncertain
    ∧ a.errorCode = some "recovery-superseded" ∧ a.finishedAt = some r.consumedAt
  /-- The successor is the attempt of the next fence and count. -/
  successor : ∃ a ∈ x.attempts, a.leaseFence = r.abandoned.leaseFence + 1
    ∧ a.attemptCount = r.abandoned.attemptCount + 1 ∧ a.workerId = r.successor.workerId
    ∧ a.leaseTokenDigest = r.successor.leaseTokenDigest
  /-- It was inserted in `publishing` at the time the authorization was used. -/
  inserted : ∃ a ∈ insertions, a.leaseFence = r.abandoned.leaseFence + 1
    ∧ a.state = .publishing ∧ a.publishingAt = some r.consumedAt
  highest : r.abandoned.leaseFence + 1 ≤ x.highestLeaseFence

/-- What the rows and the inserts so far say about adoptions. -/
structure Tables.Adoptions (t : Tables) : Prop where
  empty : t.run = none → t.insertions = []
  stands : ∀ x ∈ t.run, ∀ r ∈ x.recoveries, r.Stands x t.insertions
  once : ∀ x ∈ t.run, (x.recoveries.map (·.abandoned.leaseFence)).Nodup
  /-- Only a recovery inserts an attempt directly in `publishing`. -/
  direct : ∀ a ∈ t.insertions, a.state = .publishing → ∃ x ∈ t.run, ∃ r ∈ x.recoveries,
    a = r.successorAttempt

variable {a : Attempt} {r : RecoveryRow} {s : Tables}
  {cs : List (Committed JournalCall Tables ExecutionJournalRecord)} {pins : RecoveryPins}
  {expectation : JournalExpectation} {receipt : Bytes} {y : RunJournal}

theorem Attempt.evolves.same {b : Attempt} (h : a.evolves b) : a.sameIdentity b := by
  induction h with
  | refl => exact ⟨rfl, rfl, rfl, rfl, rfl⟩
  | tail _ hstep ih =>
    obtain ⟨hfence, hcount, hworker, htoken, hprepared⟩ := hstep.1
    exact ⟨hfence.trans ih.1, hcount.trans ih.2.1, hworker.trans ih.2.2.1,
      htoken.trans ih.2.2.2.1, hprepared.trans ih.2.2.2.2⟩

section

variable {C : Codec} {x x' : RunJournal} {insertions : List Attempt}

/-- A later state keeps it. -/
theorem RecoveryRow.Stands.later (h : r.Stands x insertions)
    (hlater : x.Later x') (more : List Attempt) : r.Stands x' (insertions ++ more) := by
  obtain ⟨a, ha, hfence, hcount, hworker, htoken, hstate, hcode, hfinished⟩ := h.abandoned
  obtain ⟨b, hb, hbfence, hbcount, hbworker, hbtoken⟩ := h.successor
  obtain ⟨i, hi, hinserted⟩ := h.inserted
  refine ⟨⟨a, ?_, hfence, hcount, hworker, htoken, hstate, hcode, hfinished⟩, ?_,
    ⟨i, List.mem_append_left _ hi, hinserted⟩, h.highest.trans hlater.fence⟩
  · exact hlater.terminal ha (by rw [hstate]; rfl)
  · obtain ⟨b', hb', hevolves⟩ := hlater.attempts b hb
    obtain ⟨hfence', hcount', hworker', htoken', -⟩ := hevolves.same
    exact ⟨b', hb', hfence'.trans hbfence, hcount'.trans hbcount, hworker'.trans hbworker,
      htoken'.trans hbtoken⟩

/-- What a change does to the recovery rows, and the attempts it adds. -/
theorem change_recoveries {who : Option AttemptKey} (hchange : Change C who (some x) x') :
    (x'.recoveries = x.recoveries ∧ ∀ a ∈ born (some x) x', a.state = .prepared)
      ∨ ∃ r old new, Adopted C x x' r old new ∧ born (some x) x' = [r.successorAttempt] := by
  have hreplace : ∀ old new : Attempt, ∀ rows : List Attempt,
      ((x.replace old new).attempts ++ rows).drop x.attempts.length = rows := by
    intro old new rows
    have hlength : x.attempts.length = (x.replace old new).attempts.length :=
      (List.length_map ..).symm
    rw [hlength, List.drop_left]
  have hnone : ∀ {y : RunJournal}, y.attempts.length = x.attempts.length →
      ∀ a ∈ born (some x) y, a.state = .prepared := by
    intro y hlength a ha
    rw [born_same hlength] at ha
    cases ha
  cases hchange with
  | same => exact Or.inl ⟨rfl, hnone rfl⟩
  | moved h =>
    rw [h.result]
    exact Or.inl ⟨rfl, hnone (List.length_map ..)⟩
  | bound h =>
    rw [h.result]
    exact Or.inl ⟨rfl, hnone rfl⟩
  | completed h =>
    rw [h.result]
    exact Or.inl ⟨rfl, hnone (List.length_map ..)⟩
  | takenOver h =>
    rw [h.result]
    refine Or.inl ⟨rfl, ?_⟩
    intro a ha
    have ha' : a ∈ ((x.replace _ _).attempts ++ [_]).drop x.attempts.length := ha
    rw [hreplace] at ha'
    obtain rfl := List.mem_singleton.mp ha'
    rfl
  | adopted h hconsistent =>
    refine Or.inr ⟨_, _, _, h, ?_⟩
    rw [h.result]
    exact hreplace _ _ _

/-- The row of an adoption stands for its two attempts. -/
theorem adopted_stands {old new : Attempt} (h : Adopted C x x' r old new) (more : List Attempt) :
    r.Stands x' (more ++ [r.successorAttempt]) := by
  obtain ⟨-, -, hnextFence, hnextCount, -⟩ := h.recoveryChecks
  obtain ⟨-, -, -, -, hhighest, -, -⟩ := h.named
  obtain ⟨hcount, hworker, htoken, -⟩ := h.abandoned
  obtain ⟨hsameFence, hsameCount, hsameWorker, hsameToken, -⟩ := h.same
  have hcurrent : old.leaseFence = x.highestLeaseFence := h.current
  rw [h.result]
  refine ⟨⟨new, ?_, ?_, ?_, ?_, ?_, h.superseded⟩, ⟨r.successorAttempt, ?_, hnextFence,
    hnextCount, rfl, rfl⟩, ⟨r.successorAttempt, List.mem_append_right _ (List.mem_singleton.mpr rfl),
      hnextFence, rfl, rfl⟩, ?_⟩
  · exact List.mem_append_left _ ((mem_replace (x := x) h.mem).mpr (Or.inl rfl))
  · rw [hsameFence, hcurrent, hhighest]
  · rw [hsameCount, hcount]
  · rw [hsameWorker, hworker]
  · rw [hsameToken, htoken]
  · exact List.mem_append_right _ (List.mem_singleton.mpr rfl)
  · show r.abandoned.leaseFence + 1 ≤ r.successor.leaseFence
    omega

variable {tenantId : String} {runId : Digest}
variable {c : Committed JournalCall Tables ExecutionJournalRecord}

/-- What a commit keeps about adoptions. -/
theorem commitOf_adoptions (hc : CommitOf C tenantId runId c)
    (hbefore : c.before.OfRun C tenantId runId) (h : c.before.Adoptions) : c.after.Adoptions := by
  obtain ⟨⟨-, hsame⟩ | ⟨clock, x', hrun, hafter⟩, -⟩ := hc
  · rw [hsame]
    exact h
  have hwf : ∀ x ∈ c.before.run, x.WF C := fun x hx => (hbefore x hx).1
  obtain ⟨hchange, -⟩ := run_change (fun x hx => (hwf x hx).fences) hrun
  rw [hafter]
  cases hs : c.before.run with
  | none =>
    -- the run was created: one prepared attempt, no recovery
    rw [hs] at hchange
    generalize c.label.key = who at hchange
    cases hchange with
    | created hcreated =>
      rw [h.empty hs, hcreated.result]
      refine ⟨nofun, ?_, ?_, ?_⟩
      · intro y hy r hr
        cases hy
        cases hr
      · intro y hy
        cases hy
        exact List.nodup_nil
      · intro a ha hstate
        obtain rfl := List.mem_singleton.mp ha
        cases hstate
  | some x =>
    have hx := hwf x hs
    rw [hs] at hchange
    have hlater : x.Later x' :=
      change_later (fun y hy => by cases hy; exact hx) hchange x rfl
    have hkept : ∀ r ∈ x.recoveries, r.Stands x' (c.before.insertions ++ born (some x) x') :=
      fun r hr => (h.stands x hs r hr).later hlater _
    rcases change_recoveries hchange with ⟨hrecoveries, hborn⟩ | ⟨r, old, new, hadopted, hborn⟩
    · refine ⟨nofun, ?_, ?_, ?_⟩
      · intro y hy r hr
        cases hy
        rw [hrecoveries] at hr
        exact hkept r hr
      · intro y hy
        cases hy
        rw [hrecoveries]
        exact h.once x hs
      · intro a ha hstate
        rcases List.mem_append.mp ha with ha | ha
        · obtain ⟨y, hy, r, hr, rfl⟩ := h.direct a ha hstate
          rw [Option.mem_def, hs] at hy
          cases hy
          exact ⟨x', rfl, r, hrecoveries ▸ hr, rfl⟩
        · rw [hborn a ha] at hstate
          cases hstate
    · have hrows : x'.recoveries = x.recoveries ++ [r] := by
        rw [hadopted.result]
      refine ⟨nofun, ?_, ?_, ?_⟩
      · intro y hy q hq
        cases hy
        rw [hrows] at hq
        rcases List.mem_append.mp hq with hq | hq
        · exact hkept q hq
        · obtain rfl := List.mem_singleton.mp hq
          rw [hborn]
          exact adopted_stands hadopted _
      · intro y hy
        cases hy
        rw [hrows, List.map_append]
        refine List.Nodup.append (h.once x hs) (List.nodup_singleton _) ?_
        intro f hf hfr
        obtain ⟨q, hq, rfl⟩ := List.mem_map.mp hf
        obtain he := List.mem_singleton.mp hfr
        -- the fence a recovery abandons is the highest, above those abandoned before
        have hlt := hx.recovered q hq
        have hhighest := hadopted.named.2.2.2.2.1
        simp only at he
        omega
      · intro a ha hstate
        rw [hborn] at ha
        rcases List.mem_append.mp ha with ha | ha
        · obtain ⟨y, hy, q, hq, rfl⟩ := h.direct a ha hstate
          rw [Option.mem_def, hs] at hy
          cases hy
          refine ⟨x', rfl, q, ?_, rfl⟩
          rw [hrows]
          exact List.mem_append_left _ hq
        · obtain rfl := List.mem_singleton.mp ha
          refine ⟨x', rfl, r, ?_, rfl⟩
          rw [hrows]
          exact List.mem_append_right _ (List.mem_singleton.mpr rfl)

/-! ## Along a history -/

variable {t : Tables} {key : AttemptKey} {result : ControlRunExecutionResult}

/-- What a stretch of history keeps of the rows. -/
theorem serial_later (h : Serial (CommitOf C tenantId runId) s cs t) (hs : s.OfRun C tenantId runId)
    (hx : s.run = some x) : ∃ y, t.run = some y ∧ x.Later y := by
  induction h generalizing x with
  | nil => exact ⟨x, hx, .refl x⟩
  | @cons c cs t hc _ ih =>
    have hafter := commitOf_ofRun hc hs
    obtain ⟨⟨-, hsame⟩ | ⟨clock, x', hrun, he⟩, -⟩ := hc
    · rw [hsame] at ih
      exact ih hs hx
    · obtain ⟨-, hlater, -⟩ := run_request (fun x hx => (hs x hx).1) hrun
      have hrunAfter : c.after.run = some x' := by rw [he]
      obtain ⟨y, hy, hlater'⟩ := ih hafter hrunAfter
      exact ⟨y, hy, (hlater x hx).trans hlater'⟩

/-- A call that names its caller is committed only for the highest fence or a new one. -/
theorem run_fence {clock : RecoveryClock} {call : JournalCall} {r : ExecutionJournalRecord}
    (hwf : x.WF C) (h : call.run C clock (some x) = .ok (x', r))
    (hkey : call.key = some key) : x.highestLeaseFence ≤ key.leaseFence := by
  have hsome : ∀ y ∈ some x, y.WF C := by
    intro y hy
    cases hy
    exact hwf
  obtain ⟨hwf', hlater, -⟩ := run_request hsome h
  have hle := (hlater x rfl).fence
  have hheld : ∀ {k : AttemptKey}, Answers x' r → r.heldBy k →
      x.highestLeaseFence ≤ k.leaseFence := by
    intro k hanswers hheld
    obtain ⟨a, -, hof⟩ := hanswers
    rw [← hheld.1, hof.highest]
    exact hle
  cases call with
  | prepare request workerId token plan =>
    cases hkey
    have hprepare : prepare C clock.toClock request workerId token plan (some x)
      = .ok (x', r) := h
    unfold prepare at hprepare
    simp only [bind_eq_ok, require_eq_ok] at hprepare
    obtain ⟨_, -, _, -, _, -, y, hfind, ⟨_, current⟩, hread, _, -, _, -, _, hfence, -⟩ := hprepare
    unfold findOrInsert at hfind
    simp only [bind_eq_ok, require_eq_ok, pure_eq_ok] at hfind
    obtain ⟨_, -, rfl⟩ := hfind
    obtain ⟨hy, a, -, hof, -⟩ := readCurrent_ok hread
    cases hy
    rw [hof.highest] at hfence
    exact hfence
  | get => cases hkey
  | beginPublishing key revision =>
    cases hkey
    obtain ⟨_, -, hanswers, hheldBy, -⟩ := transition_ok h
    exact hheld hanswers hheldBy
  | bindExecutionIdentity key revision i =>
    cases hkey
    obtain ⟨_, -, hanswers, hheldBy, -⟩ := bindExecutionIdentity_ok h
    exact hheld hanswers hheldBy
  | markFailed key revision code =>
    cases hkey
    obtain ⟨_, -, hanswers, hheldBy, -⟩ := transition_ok h
    exact hheld hanswers hheldBy
  | markUncertain key revision code =>
    cases hkey
    obtain ⟨_, -, hanswers, hheldBy, -⟩ := transition_ok h
    exact hheld hanswers hheldBy
  | markCompleted run key revision result receipt =>
    cases hkey
    obtain ⟨_, -, ⟨a, ha, hof⟩, -, hcompletion, -⟩ := markCompleted_ok h
    rw [hof.completion] at hcompletion
    obtain ⟨-, hfence, -⟩ := hwf'.completion_current ha hcompletion
    simp only at hfence
    rw [hfence, (current_mem ha).2]
    exact hle
  | recover pins expectation value => cases hkey

/-- What the commit of a recovery did. -/
theorem commitOf_recover {value : Bytes} (hc : CommitOf C tenantId runId c)
    (hbefore : c.before.OfRun C tenantId runId)
    (hlabel : c.label = .recover pins expectation value) :
    ∃ x x' r old new, c.before.run = some x ∧ c.after.run = some x' ∧ Adopted C x x' r old new
      ∧ r.abandoned.leaseFence = expectation.1.abandonedLeaseFence := by
  obtain ⟨⟨hget, -⟩ | ⟨clock, x', hrun, hafter⟩, -⟩ := hc
  · rw [hlabel] at hget
    cases hget
  · rw [hlabel] at hrun
    obtain ⟨x, hs, -, -, -, r, old, new, hadopted, -, hauthorized⟩ :=
      recover_ok (fun x hx => (hbefore x hx).1.fences) hrun
    refine ⟨x, x', r, old, new, hs, ?_, hadopted, ?_⟩
    · rw [hafter]
    · rw [← hauthorized.bound]
      rfl

/-- What the commit of a completion leaves. -/
theorem commitOf_complete {run : Digest} {revision : Nat} (hc : CommitOf C tenantId runId c)
    (hlabel : c.label = .markCompleted run key revision result receipt) :
    ∃ x', c.after.run = some x' ∧ x'.completion.map (·.1) = some key.leaseFence := by
  obtain ⟨⟨hget, -⟩ | ⟨clock, x', hrun, hafter⟩, -⟩ := hc
  · rw [hlabel] at hget
    cases hget
  · rw [hlabel] at hrun
    obtain ⟨x, hs, ⟨a, -, hof⟩, -, hcompletion, -⟩ := markCompleted_ok hrun
    refine ⟨x', by rw [hafter], ?_⟩
    rw [← hof.completion, hcompletion]
    rfl

/-- After a recovery, no call of the abandoned fence is committed. -/
theorem serial_fenced {ds : List (Committed JournalCall Tables ExecutionJournalRecord)}
    (h : Serial (CommitOf C tenantId runId) s (cs ++ c :: ds) t) (hs : s.OfRun C tenantId runId)
    {value : Bytes} (hlabel : c.label = .recover pins expectation value) :
    ∀ d ∈ ds, ∀ key ∈ d.label.key, expectation.1.abandonedLeaseFence < key.leaseFence := by
  intro d hd key hkey
  obtain ⟨u, hcs, hrest⟩ := h.split
  have hu := hcs.keeps (fun _ => commitOf_ofRun) hs
  cases hrest with
  | cons hc hds =>
    obtain ⟨x, x', r, old, new, -, hx', hadopted, habandoned⟩ := commitOf_recover hc hu hlabel
    have hafter := commitOf_ofRun hc hu
    obtain ⟨before, after, rfl⟩ := List.append_of_mem hd
    obtain ⟨v, hbefore, hrest⟩ := hds.split
    obtain ⟨y, hy, hlater⟩ := serial_later hbefore hafter hx'
    have hv := hbefore.keeps (fun _ => commitOf_ofRun) hafter
    have hhighest : x'.highestLeaseFence = r.abandoned.leaseFence + 1 := by
      rw [← hadopted.recoveryChecks.2.2.1, hadopted.result]
    cases hrest with
    | cons hd _ =>
      obtain ⟨⟨hget, -⟩ | ⟨clock, y', hrun, -⟩, -⟩ := hd
      · rw [hget] at hkey
        cases hkey
      · rw [hy] at hrun
        have hfence := run_fence (hv y hy).1 hrun hkey
        have hle := hlater.fence
        omega

/-- A fence is completed or abandoned, not both. -/
theorem serial_exclusive
    (h : Serial (CommitOf C tenantId runId) s cs t) (hs : s.OfRun C tenantId runId)
    {d : Committed JournalCall Tables ExecutionJournalRecord} (hc : c ∈ cs) (hd : d ∈ cs)
    {value : Bytes} (hrecover : c.label = .recover pins expectation value) {run : Digest}
    {revision : Nat} (hcomplete : d.label = .markCompleted run key revision result receipt) :
    key.leaseFence ≠ expectation.1.abandonedLeaseFence := by
  intro hsame
  obtain ⟨before, after, rfl⟩ := List.append_of_mem hc
  have hne : d ≠ c := by
    rintro rfl
    rw [hrecover] at hcomplete
    cases hcomplete
  rcases List.mem_append.mp hd with hd | hd
  · -- the completion came first: the run is completed and cannot be adopted
    obtain ⟨u, hbefore, hrest⟩ := h.split
    obtain ⟨first, last, rfl⟩ := List.append_of_mem hd
    obtain ⟨v, hfirst, hlast⟩ := hbefore.split
    have hv := hfirst.keeps (fun _ => commitOf_ofRun) hs
    cases hlast with
    | cons hdone hlast =>
      obtain ⟨x', hx', hcompleted⟩ := commitOf_complete hdone hcomplete
      obtain ⟨z, hz, hlater⟩ := serial_later hlast (commitOf_ofRun hdone hv) hx'
      have hu := hlast.keeps (fun _ => commitOf_ofRun) (commitOf_ofRun hdone hv)
      obtain ⟨completion, hcompletion, -⟩ := Option.map_eq_some_iff.mp hcompleted
      cases hrest with
      | cons hc _ =>
        obtain ⟨x, _, r, old, new, hx, -, hadopted, -⟩ := commitOf_recover hc hu hrecover
        rw [hz] at hx
        cases hx
        have hunfinished := hadopted.named.2.2.2.2.2.2
        rw [(hlater.completion completion hcompletion).1] at hunfinished
        cases hunfinished
  · -- the recovery came first: the fence is below the highest
    rcases List.mem_cons.mp hd with hd | hd
    · exact hne hd
    · have hfenced := serial_fenced h hs hrecover d hd key (by rw [hcomplete]; rfl)
      omega

end

/-! ## A recovery alone commits -/

section

variable {C : Codec} {c : Tables} {t : Session Write} {x x' : RunJournal}
variable {insertions : List Attempt} {β : Type}

/-- The rest of a call that commits if nobody disturbs it. -/
abbrev JournalCommits (C : Codec) (p : Statements ExecutionJournalRecord) (c : Tables)
    (t : Session Write) : Prop :=
  Commits (journalStore C) p c t

theorem commits_lift {y : Except JournalError β} {f : β → Statements ExecutionJournalRecord}
    {b : β} (hy : y = .ok b) (h : JournalCommits C (f b) c t) :
    JournalCommits C ((liftM y : Statements β) >>= f) c t := by
  subst hy
  exact h

/-- A statement that cannot miss answers what it answers. -/
theorem commits_statement {q : Sql} {f : q.Out → Statements ExecutionJournalRecord}
    {r : q.Out} {ws : List Write} {l : Lock} {y z : Tables} (hmisses : ∀ r, ¬q.Misses r)
    (hview : (journalStore C).over c t.writes = y) (hanswer : q.answer C y = .ok (r, ws, l))
    (hwrites : ws.foldl Tables.write y = z)
    (h : ∀ t', (journalStore C).over c t'.writes = z → JournalCommits C (f r) c t') :
    JournalCommits C (statement q >>= f) c t := by
  intro r' ws' l' hact
  rw [hview] at hact
  cases r' with
  | ok r' =>
    rcases hact with hact | ⟨hmiss, -⟩
    · rw [hanswer] at hact
      cases hact
      refine ⟨r, rfl, h _ ?_⟩
      show (journalStore C).over c (t.writes ++ ws) = z
      rw [over_append, hview, hwrites]
    · exact absurd hmiss (hmisses r')
  | error e =>
    obtain ⟨error, herror, -⟩ := hact
    rw [hanswer] at herror
    cases herror

theorem select_ok {forUpdate : Bool} (ha : x.current = some a) (insertions : List Attempt) :
    Sql.answer C (.selectCurrent forUpdate) ⟨some x, insertions⟩
      = .ok (some (x.toExecutionRow, a), [], if forUpdate then .exclusive else .free) := by
  dsimp only [Sql.answer, Option.bind_some]
  rw [ha]
  rfl

/-- A read without a lock finds the current attempt and goes on with its record. -/
theorem commits_read {missing : JournalError} {r : ExecutionJournalRecord}
    {f : ExecutionJournalRecord → Statements ExecutionJournalRecord}
    (hview : (journalStore C).over c t.writes = ⟨some x, insertions⟩)
    (ha : x.current = some a) (hr : recordFromRow C x a = .ok r)
    (h : ∀ t', (journalStore C).over c t'.writes = ⟨some x, insertions⟩ →
      JournalCommits C (f r) c t') :
    JournalCommits C (statement (.selectCurrent false) >>= fun row =>
      (liftM (readRow C row missing) : Statements ExecutionJournalRecord) >>= f) c t := by
  refine commits_statement (fun _ hmiss => hmiss) hview (select_ok ha insertions) rfl ?_
  intro t₁ hview₁
  have hrow : readRow C (some (x.toExecutionRow, a)) missing = .ok r := hr
  exact commits_lift hrow (h t₁ hview₁)

theorem updatedAttempt_of {fence : Nat} {matching : Attempt → Bool} {set : Attempt → Attempt}
    {now : Time} (h : x.updateAttempt C fence matching set now = .ok (some x'))
    (insertions : List Attempt) :
    ∃ row, Sql.answer C (.updateAttempt fence matching set now) ⟨some x, insertions⟩
        = .ok (true, [.attemptUpdate row], .free)
      ∧ [Write.attemptUpdate row].foldl Tables.write ⟨some x, insertions⟩
        = ⟨some x', insertions⟩ := by
  have hrow : ∃ row, x.updatedAttempt C fence matching set now = .ok (some row) := by
    unfold RunJournal.updateAttempt at h
    unfold RunJournal.updatedAttempt
    cases hfind : x.attempts.find? fun a => decide (a.leaseFence = fence) && matching a with
    | none => simp [hfind] at h
    | some old =>
      simp only [hfind, bind_eq_ok, require_eq_ok, pure_eq_ok, Option.some.injEq] at h
      obtain ⟨row, hguard, _, hchecks, -⟩ := h
      refine ⟨row, ?_⟩
      simp only [hguard, ok_bind, require_pos hchecks]
      rfl
  obtain ⟨row, hrow⟩ := hrow
  refine ⟨row, ?_, ?_⟩
  · dsimp only [Sql.answer]
    rw [hrow]
    rfl
  · have hsame := updateAttempt_eq hrow
    rw [h] at hsame
    cases hsame
    rfl

theorem updateExecution_of {matching : RunJournal → Bool} {set : ExecutionRow → ExecutionRow}
    (h : x.updateRow C (matching x) (set x.toExecutionRow) = .ok (some x'))
    (insertions : List Attempt) :
    Sql.answer C (.updateExecution matching set) ⟨some x, insertions⟩
      = .ok (true, [.execution x'.toExecutionRow], .exclusive) := by
  dsimp only [Sql.answer]
  rw [h]
  rfl

theorem execution_write {matching : Bool} {new : ExecutionRow}
    (h : x.updateRow C matching new = .ok (some x')) (insertions : List Attempt) :
    [Write.execution x'.toExecutionRow].foldl Tables.write ⟨some x, insertions⟩
      = ⟨some x', insertions⟩ := by
  obtain ⟨-, -, rfl⟩ := updateRow_ok h
  rfl

theorem insertAttempt_of {new : Attempt} {now : Time}
    (h : x.insertAttempt C new now = .ok x') (insertions : List Attempt) :
    ∃ row, Sql.answer C (.insertAttempt new now) ⟨some x, insertions⟩
        = .ok ((), [.attemptInsert row], .share)
      ∧ ∃ more, [Write.attemptInsert row].foldl Tables.write ⟨some x, insertions⟩
        = ⟨some x', insertions ++ more⟩ := by
  have hrow := h
  unfold RunJournal.insertAttempt at hrow
  simp only [bind_eq_ok, require_eq_ok, pure_eq_ok] at hrow
  obtain ⟨row, hclock, _, -, _, -, _, -, rfl⟩ := hrow
  refine ⟨row, ?_, [row], rfl⟩
  dsimp only [Sql.answer]
  simp only [expect, ok_bind, hclock, h]
  rfl

theorem insertRecovery_of (h : x.insertRecovery C r = .ok (some y)) (insertions : List Attempt) :
    y = { x with recoveries := x.recoveries ++ [r] }
      ∧ Sql.answer C (.insertRecovery r) ⟨some x, insertions⟩
        = .ok (true, [.recovery r], .share) := by
  refine ⟨?_, ?_⟩
  · unfold RunJournal.insertRecovery at h
    split at h
    · simp at h
    · simp only [bind_eq_ok, require_eq_ok, pure_eq_ok, Option.some.injEq] at h
      obtain ⟨_, -, rfl⟩ := h
      rfl
  · dsimp only [Sql.answer]
    simp only [expect, ok_bind, h]
    rfl

theorem consume_commits {clock : Clock} {databaseSecond : Time}
    {f : Unit → Statements ExecutionJournalRecord}
    (hconsume : x.consume C r clock databaseSecond = .ok (some y))
    (hview : (journalStore C).over c t.writes = ⟨some x, insertions⟩)
    (h : ∀ t' more, (journalStore C).over c t'.writes = ⟨some y, insertions ++ more⟩ →
      JournalCommits C (f ()) c t') :
    JournalCommits C (consumeStatements C r clock databaseSecond >>= f) c t := by
  unfold RunJournal.consume at hconsume
  simp only [bind_eq_ok, require_eq_ok] at hconsume
  obtain ⟨_, hbinding, inserted, hinserted, hconsume⟩ := hconsume
  split at hconsume
  · simp at hconsume
  · rename_i recorded
    simp only [bind_eq_ok, pure_eq_ok, Option.some.injEq] at hconsume
    obtain ⟨_, hadopt, rfl⟩ := hconsume
    obtain ⟨rfl, hanswer⟩ := insertRecovery_of hinserted insertions
    unfold RunJournal.adopt RunJournal.recheckExecution RunJournal.recheckAttempt
      RunJournal.retireAbandoned RunJournal.advanceToSuccessor at hadopt
    simp only [bind_eq_ok, require_eq_ok, expect_eq_ok] at hadopt
    obtain ⟨_, hnamed, _, habandoned, y₁, ⟨_, hretire, rfl⟩, y₂, ⟨_, hadvance, rfl⟩, hinsert⟩ :=
      hadopt
    obtain ⟨row, hretireAnswer, hretireWrites⟩ := updatedAttempt_of hretire insertions
    obtain ⟨_, hinsertAnswer, more, hinsertWrites⟩ := insertAttempt_of hinsert insertions
    unfold consumeStatements
    simp only [bind_assoc]
    refine commits_lift (require_pos hbinding) ?_
    refine commits_statement (fun _ hmiss => hmiss) hview hanswer rfl ?_
    intro t₁ hview₁
    refine commits_lift (require_pos rfl) ?_
    refine commits_statement (fun _ hmiss => hmiss) hview₁ rfl rfl ?_
    intro t₂ hview₂
    refine commits_lift (require_pos ⟨_, rfl, hnamed⟩) ?_
    refine commits_statement (fun _ hmiss => hmiss) hview₂ rfl rfl ?_
    intro t₃ hview₃
    refine commits_lift (require_pos habandoned) ?_
    refine commits_statement (fun _ hmiss => hmiss) hview₃ hretireAnswer hretireWrites ?_
    intro t₄ hview₄
    refine commits_lift (require_pos rfl) ?_
    refine commits_statement (fun _ hmiss => hmiss) hview₄ (updateExecution_of hadvance insertions)
      (execution_write hadvance insertions) ?_
    intro t₅ hview₅
    refine commits_lift (require_pos rfl) ?_
    refine commits_statement (fun _ hmiss => hmiss) hview₅ hinsertAnswer hinsertWrites ?_
    intro t₆ hview₆
    exact h t₆ more hview₆

/-- What the method would do alone, its statements do. -/
theorem recover_commits {clock : RecoveryClock} {value : Bytes} {record : ExecutionJournalRecord}
    (h : recoverIdentityBoundPublication C clock pins expectation value (some x)
      = .ok (x', record)) :
    JournalCommits C (recoverStatements C clock pins expectation value)
      ⟨some x, insertions⟩ .idle := by
  unfold recoverIdentityBoundPublication rereadSuccessor at h
  simp only [bind_eq_ok, require_eq_ok, pure_eq_ok, Prod.mk.injEq] at h
  obtain ⟨⟨_, current⟩, hread, _, hexpected, r, hauthorize, y, hconsumed, ⟨z, result⟩, hreread, _,
    hsucceeds, rfl, rfl⟩ := h
  unfold readCurrent at hread
  simp only [bind_eq_ok, expect_eq_ok, pure_eq_ok, Prod.mk.injEq, Option.some.injEq] at hread
  obtain ⟨_, rfl, a, ha, _, hrecord, rfl, rfl⟩ := hread
  unfold reread readCurrent RunJournal.commit at hreread
  simp only [bind_eq_ok, expect_eq_ok, rejectedAs_eq_ok, require_eq_ok, pure_eq_ok,
    Prod.mk.injEq, Option.some.injEq] at hreread
  obtain ⟨⟨_, _⟩, ⟨_, rfl, a', ha', _, hrecord', rfl, rfl⟩, _, ⟨_, hconsistent, rfl⟩, rfl, rfl⟩ :=
    hreread
  have hconsume : x.consume C r clock.toClock clock.databaseSecond = .ok (some y) := by
    unfold consumed at hconsumed
    split at hconsumed
    · rename_i hanswer
      cases hconsumed
      exact hanswer
    · cases hconsumed
    · cases hconsumed
  unfold recoverStatements
  refine commits_read rfl ha hrecord ?_
  intro t₁ hview₁
  refine commits_lift (require_pos hexpected) ?_
  refine commits_lift hauthorize ?_
  refine consume_commits hconsume hview₁ ?_
  intro t₂ more hview₂
  refine commits_read hview₂ ha' hrecord' ?_
  intro t₃ hview₃
  refine commits_lift (require_pos hsucceeds) ?_
  show (journalStore C).valid _
  rw [hview₃]
  intro w hw
  cases hw
  exact hconsistent

end

/-! ## The theorem -/

/-- What holds of every configuration the sessions of a run can reach. -/
structure AdoptedOnce (C : Codec) (c : JournalConfig) : Prop where
  /-- Every recovery row stands for its two attempts, no two for one fence, and only they
  start an attempt in `publishing`. -/
  adoptions : c.shared.committed.Adoptions
  /-- The plan, and the identity once it is bound, are those of every earlier state. -/
  unchanged : ∀ e ∈ c.shared.history, ∀ x, e.before.run = some x →
    ∃ y, c.shared.committed.run = some y ∧ y.planDigest = x.planDigest
      ∧ y.planBytes = x.planBytes ∧ ∀ i, x.identity = some i → y.identity = some i
  /-- After a recovery, no call of the abandoned fence is committed. -/
  fenced : ∀ es e fs, c.shared.history = es ++ e :: fs →
    ∀ pins (expectation : JournalExpectation) value, e.label = .recover pins expectation value →
      ∀ f ∈ fs, ∀ key ∈ f.label.key, expectation.1.abandonedLeaseFence < key.leaseFence
  /-- No fence is both completed and abandoned. -/
  exclusive : ∀ e ∈ c.shared.history, ∀ f ∈ c.shared.history,
    ∀ pins (expectation : JournalExpectation) value run key revision result receipt,
      e.label = .recover pins expectation value →
      f.label = .markCompleted run key revision result receipt →
      key.leaseFence ≠ expectation.1.abandonedLeaseFence
  /-- A completion and a recovery that would both commit alone, and that run at once with
  nothing else in the way, end with one commit: that of the one or that of the other. -/
  race : ∀ (id other : Nat) (x : RunJournal) (clock clock' : RecoveryClock) run key revision
    result receipt pins expectation value,
    id ≠ other → c.shared.committed.run = some x →
    (∃ y r, (JournalCall.markCompleted run key revision result receipt).run C clock (some x)
      = .ok (y, r)) →
    (∃ y r, (JournalCall.recover pins expectation value).run C clock' (some x) = .ok (y, r)) →
    ∀ (c' : JournalConfig) a b,
      NamedSteps (Database.exec (journalStore C) True) (fun _ _ => False) True
        ⟨c.shared, [(id, (JournalCall.markCompleted run key revision result receipt).client C
          clock id), (other, (JournalCall.recover pins expectation value).client C clock' other)]⟩
        c' →
      c'.clients = [(id, .ret a), (other, .ret b)] →
      ∃ tail, c'.shared.history = c.shared.history ++ tail
        ∧ ((∃ e ∈ tail, e.label = .markCompleted run key revision result receipt)
          ↔ ¬∃ e ∈ tail, e.label = .recover pins expectation value)

section

variable {C : Codec} {tenantId : String} {runId : Digest}

variable {result : ControlRunExecutionResult}

/-- The two calls of a race are of one fence. -/
theorem race_fence {x y' : RunJournal} {clock clock' : RecoveryClock} {run : Digest}
    {key : AttemptKey} {revision : Nat} {value : Bytes}
    {r r' : ExecutionJournalRecord} (hwf : x.WF C)
    (hcomplete : (JournalCall.markCompleted run key revision result receipt).run C clock (some x)
      = .ok (y, r))
    (hrecover : (JournalCall.recover pins expectation value).run C clock' (some x)
      = .ok (y', r')) : key.leaseFence = expectation.1.abandonedLeaseFence := by
  have hfences : ∀ z ∈ some x, (z.attempts.map (·.leaseFence)).Nodup := by
    intro z hz
    cases hz
    exact hwf.fences
  obtain ⟨_, hx, -, -, -, row, old, new, hadopted, -, hauthorized⟩ := recover_ok hfences hrecover
  cases hx
  obtain ⟨-, -, -, -, hhighest, -, hunfinished⟩ := hadopted.named
  have habandoned : row.abandoned.leaseFence = expectation.1.abandonedLeaseFence := by
    rw [← hauthorized.bound]
    rfl
  obtain ⟨_, hx, ⟨a, -, hof⟩, -, hcompletion, rfl | ⟨held, done, hcompleted⟩⟩ :=
    markCompleted_ok hcomplete
  · cases hx
    rw [hof.completion, hunfinished] at hcompletion
    cases hcompletion
  · cases hx
    rw [← hcompleted.held.1, hcompleted.current, hhighest, habandoned]

/-- One of two racing transactions commits, and not the other. -/
theorem race_one {d : JournalDatabase} (hinv : d.Inv (Tables.OfRun C tenantId runId))
    {id other : Nat} {x : RunJournal} {clock clock' : RecoveryClock} {run : Digest}
    {key : AttemptKey} {revision : Nat}
    {value : Bytes} (hne : id ≠ other) (hx : d.committed.run = some x)
    (hcomplete : ∃ y r, (JournalCall.markCompleted run key revision result receipt).run C clock
      (some x) = .ok (y, r))
    (hrecover : ∃ y r, (JournalCall.recover pins expectation value).run C clock' (some x)
      = .ok (y, r))
    {c' : JournalConfig} {a b : Except JournalError ExecutionJournalRecord}
    (hsteps : NamedSteps (Database.exec (journalStore C) True) (fun _ _ => False) True
      ⟨d, [(id, (JournalCall.markCompleted run key revision result receipt).client C clock id),
        (other, (JournalCall.recover pins expectation value).client C clock' other)]⟩ c')
    (hreturned : c'.clients = [(id, .ret a), (other, .ret b)]) :
    ∃ tail, c'.shared.history = d.history ++ tail
      ∧ ((∃ e ∈ tail, e.label = .markCompleted run key revision result receipt)
        ↔ ¬∃ e ∈ tail, e.label = .recover pins expectation value) := by
  obtain ⟨y, r, hcomplete⟩ := hcomplete
  obtain ⟨y', r', hrecover⟩ := hrecover
  have hfence := race_fence (hinv.rows x hx).1 hcomplete hrecover
  -- every commit of the race is one of the two calls
  let racing : JournalCall → Prop := fun l =>
    l = .markCompleted run key revision result receipt ∨ l = .recover pins expectation value
  have hkept : SessionsKept (journalStore C) (Tables.OfRun C tenantId runId)
      (fun c => CommitOf C tenantId runId c ∧ racing c.label)
      ⟨d, [(id, (JournalCall.markCompleted run key revision result receipt).client C clock id),
        (other, (JournalCall.recover pins expectation value).client C clock' other)]⟩ := by
    refine ⟨hinv, ?_, ?_⟩
    · intro p hp
      rcases List.mem_cons.mp hp with rfl | hp
      · exact client_safe_of (P := racing) clock
          (.markCompleted run key revision result receipt) trivial (Or.inl rfl) id d
      · obtain rfl := List.mem_singleton.mp hp
        exact client_safe_of (P := racing) clock' (.recover pins expectation value) trivial
          (Or.inr rfl) other d
    · intro _
      refine List.pairwise_cons.mpr ⟨?_, List.pairwise_singleton ..⟩
      intro q hq _ _
      obtain rfl := List.mem_singleton.mp hq
      exact hne
  obtain ⟨-, tail, htail, hserial⟩ := steps_serial (fun _ _ hp => hp.elim)
    (namedSteps_mono exec_quiet hsteps) hkept
  refine ⟨tail, htail, ?_⟩
  have hserialAll := hserial.mono (fun _ hc => hc.1)
  constructor
  · rintro ⟨f, hf, hflabel⟩ ⟨e, he, helabel⟩
    exact serial_exclusive hserialAll hinv.rows he hf helabel hflabel hfence
  · intro hnone
    -- the recovery returned, so somebody committed
    have hlast : (other, .ret b) ∈ c'.clients := by
      rw [hreturned]
      exact List.mem_cons_of_mem _ (List.mem_cons_self ..)
    have hpending : ∀ p ∈ [(id, (JournalCall.markCompleted run key revision result receipt).client
          C clock id), (other, (JournalCall.recover pins expectation value).client C clock' other)],
        p.1 = other → Committing (journalStore C)
          (JournalCall.recover pins expectation value).report other
          (.recover pins expectation value) d.committed p.2 d := by
      intro p hp hid
      rcases List.mem_cons.mp hp with rfl | hp
      · exact absurd hid hne
      · obtain rfl := List.mem_singleton.mp hp
        obtain ⟨⟨rows, insertions⟩, sessions, history⟩ := d
        obtain rfl : rows = some x := hx
        exact Or.inl ⟨_, rfl, recover_commits hrecover⟩
    have hgrown : d.history.length < c'.shared.history.length := by
      refine quiet_commits ?_ ?_ hpending hsteps hlast
      · refine List.pairwise_cons.mpr ⟨?_, List.pairwise_singleton ..⟩
        intro q hq
        obtain rfl := List.mem_singleton.mp hq
        exact hne
      · intro p hp
        rcases List.mem_cons.mp hp with rfl | hp
        · exact transaction_within ..
        · obtain rfl := List.mem_singleton.mp hp
          exact transaction_within ..
    rw [htail, List.length_append] at hgrown
    obtain ⟨e, he⟩ : ∃ e, e ∈ tail := by
      cases tail with
      | nil => exact absurd hgrown (Nat.lt_irrefl _)
      | cons e tail => exact ⟨e, List.mem_cons_self ..⟩
    rcases (hserial.mem he).2 with hlabel | hlabel
    · exact ⟨e, he, hlabel⟩
    · exact absurd ⟨e, he, hlabel⟩ hnone

end

/-! ## A run with a recovery -/

/-- The rows after calls that ran one after another. -/
def Tables.playAlone (C : Codec) : List (RecoveryClock × JournalCall) → Tables → Option Tables
  | [], t => some t
  | (clock, call) :: rest, t =>
    match alone (journalStore C)
        (fun q s => (q.answer C s).mapError SqlFailure.raised) (call.statements C clock) t .idle with
    | some (_, session) =>
      let after := (journalStore C).over t session.writes
      if ∀ x ∈ after.run, x.consistent then
        playAlone C rest after
      else
        none
    | none => none

theorem playAlone_interleaved {C : Codec} {tenantId : String} {runId : Digest}
    (calls : List (RecoveryClock × JournalCall)) (hnames : ∀ p ∈ calls, p.2.Names tenantId runId)
    {t t' : Tables} {c : JournalConfig} (hplay : t.playAlone C calls = some t')
    (hc : Interleaved C tenantId runId c) (hcommitted : c.shared.committed = t)
    (hidle : c.shared.sessions = fun _ => .idle) (hdone : ∀ q ∈ c.clients, ¬q.2.Live) :
    ∃ c', Interleaved C tenantId runId c' ∧ c'.shared.committed = t' := by
  induction calls generalizing t c with
  | nil =>
    cases hplay
    exact ⟨c, hc, hcommitted⟩
  | cons p rest ih =>
    obtain ⟨clock, call⟩ := p
    unfold Tables.playAlone at hplay
    split at hplay
    · rename_i a session halone
      simp only at hplay
      split at hplay
      · rename_i hvalid
        obtain ⟨⟨committed, sessions, history⟩, clients⟩ := c
        obtain rfl : committed = t := hcommitted
        obtain rfl : sessions = fun _ => .idle := hidle
        have hanswer : ∀ q s r ws l,
            (q.answer C s).mapError SqlFailure.raised = .ok (r, ws, l) →
            (journalStore C).act q s (.ok r) ws l := by
          intro q s r ws l h
          cases hq : q.answer C s with
          | error e =>
            rw [hq] at h
            cases h
          | ok b =>
            rw [hq] at h
            cases h
            exact Or.inl hq
        have hentry : JournalEntry C tenantId runId 0 (call.client C clock 0) :=
          ⟨clock, call, hnames _ (List.mem_cons_self ..), rfl⟩
        have hsteps := hc.trans (alone_transaction hanswer hentry halone hvalid hdone)
        refine ih (fun q hq => hnames q (List.mem_cons_of_mem _ hq)) hplay hsteps rfl rfl ?_
        intro q hq
        rcases List.mem_cons.mp hq with rfl | hq
        · exact fun hlive => hlive
        · exact hdone q hq
      · cases hplay
    · cases hplay

/-- The codec of the examples, with an authority that reads the example envelope. -/
def adoptingCodec : Codec :=
  { recoveringCodec with
    recovery :=
      ⟨fun document => match document with
        | .publicKey key => BitVec.ofNat 256 (key.headD 0).toNat
        | document => exampleDocumentDigest document,
      fun _ _ _ _ => true,
      fun value => if value = exampleEnvelopeBytes then some exampleEnvelope else none,
      fun envelope => if envelope = exampleEnvelope then some exampleEnvelopeBytes else none⟩ }

/-- A verifier that shows one key. -/
def examplePinned (n : UInt8) : LeaseAuthorityVerifier :=
  ⟨.material "key-1" (List.replicate 32 n), .material "key-1" (List.replicate 32 n)⟩

def examplePins : RecoveryPins :=
  ⟨⟨examplePinned 75, examplePinned 72, examplePinned 73, examplePinned 71, examplePinned 74⟩,
    ⟨"audience", "idp-maker", "idp-checker"⟩, by decide⟩

def exampleExpectation : JournalExpectation :=
  ⟨exampleAuthorization.journalBinding, by decide⟩

/-- `worker-a` binds its identity and is lost, and the publication is adopted. -/
def exampleAdoption : List (RecoveryClock × JournalCall) :=
  (exampleBound.reverse.map fun call => (⟨⟨100, 100⟩, 100, 100⟩, call))
    ++ [(⟨⟨200, 201⟩, 200, 201⟩, .recover examplePins exampleExpectation exampleEnvelopeBytes)]

/-- A signed recovery adopts a publication exactly once and fences the worker it took it
from, under every interleaving of the statements of any calls. -/
theorem recovery_adopts_once (C : Codec) {tenantId : String} {runId : Digest}
    {c : JournalConfig} (h : Interleaved C tenantId runId c) : AdoptedOnce C c := by
  obtain ⟨hkept, hserial⟩ := interleaved_serial h
  have hinit : Tables.OfRun C tenantId runId ⟨none, []⟩ := by
    intro x hx
    cases hx
  refine ⟨?_, ?_, ?_, ?_, ?_⟩
  · have hboth : c.shared.committed.OfRun C tenantId runId ∧ c.shared.committed.Adoptions := by
      have hkeeps : ∀ e, CommitOf C tenantId runId e →
          (e.before.OfRun C tenantId runId ∧ e.before.Adoptions) →
          (e.after.OfRun C tenantId runId ∧ e.after.Adoptions) := by
        intro e he hbefore
        exact ⟨commitOf_ofRun he hbefore.1, commitOf_adoptions he hbefore.1 hbefore.2⟩
      refine hserial.keeps (P := fun t => t.OfRun C tenantId runId ∧ t.Adoptions) hkeeps
        ⟨hinit, fun _ => rfl, ?_, ?_, ?_⟩
      · intro x hx
        cases hx
      · intro x hx
        cases hx
      · intro a ha
        cases ha
    exact hboth.2
  · intro e he x hx
    obtain ⟨es, fs, hhistory⟩ := List.append_of_mem he
    rw [hhistory] at hserial
    obtain ⟨u, hes, hrest⟩ := hserial.split
    have hu := hes.keeps (fun _ => commitOf_ofRun) hinit
    have hbefore : e.before = u := by
      cases hrest
      rfl
    obtain ⟨y, hy, hlater⟩ := serial_later hrest hu (hbefore ▸ hx)
    exact ⟨y, hy, hlater.planDigest, hlater.planBytes, hlater.identity⟩
  · intro es e fs hhistory pins expectation value hlabel
    rw [hhistory] at hserial
    exact serial_fenced hserial hinit hlabel
  · intro e he f hf pins expectation value run key revision result receipt hrecover hcomplete
    exact serial_exclusive hserial hinit he hf hrecover hcomplete
  · intro id other x clock clock' run key revision result receipt pins expectation value hne hx
      hcomplete hrecover c' a b hsteps hreturned
    exact race_one hkept.holds hne hx hcomplete hrecover hsteps hreturned

theorem recovery_adopts_once_example :
    ∃ c, Interleaved adoptingCodec "tenant-a" 1 c ∧ AdoptedOnce adoptingCodec c
      ∧ ∃ x, c.shared.committed.run = some x ∧ x.recoveries.length = 1 := by
  have hplayed : ∃ t, Tables.playAlone adoptingCodec exampleAdoption ⟨none, []⟩ = some t
      ∧ ∃ x ∈ t.run, x.recoveries.length = 1 := by
    decide +kernel
  obtain ⟨t, hplay, x, hx, hlength⟩ := hplayed
  have hnames : ∀ p ∈ exampleAdoption, p.2.Names "tenant-a" 1 := by decide
  obtain ⟨c, hc, hcommitted⟩ := playAlone_interleaved exampleAdoption hnames hplay .refl rfl rfl
    (fun _ hq => absurd hq (List.not_mem_nil))
  refine ⟨c, hc, recovery_adopts_once adoptingCodec hc, x, ?_, hlength⟩
  rw [hcommitted]
  exact hx

/-- **The journal is serializable.** Under every interleaving of the statements of any calls on a
run, the committed history is a sequence of whole calls, each applied to what the one before it
left; all committed rows are well formed, and keep what earlier ones had bound. -/
theorem journal_serializable (C : Codec) {tenantId : String} {runId : Digest} {c : JournalConfig}
    (h : Interleaved C tenantId runId c) :
    Serial (CommitOf C tenantId runId) ⟨none, []⟩ c.shared.history c.shared.committed
      ∧ c.shared.committed.OfRun C tenantId runId
      ∧ ∀ e ∈ c.shared.history, e.before.OfRun C tenantId runId
        ∧ ∀ x ∈ e.before.run, ∃ y ∈ c.shared.committed.run, x.Later y := by
  obtain ⟨-, hserial⟩ := interleaved_serial h
  have hinit : Tables.OfRun C tenantId runId ⟨none, []⟩ := by
    intro x hx
    cases hx
  refine ⟨hserial, hserial.keeps (fun _ => commitOf_ofRun) hinit, fun e he => ?_⟩
  obtain ⟨es, fs, hhistory⟩ := List.append_of_mem he
  rw [hhistory] at hserial
  obtain ⟨u, hes, hrest⟩ := hserial.split
  obtain rfl : e.before = u := by
    cases hrest
    rfl
  have hbefore := hes.keeps (fun _ => commitOf_ofRun) hinit
  exact ⟨hbefore, fun x hx => serial_later hrest hbefore hx⟩

theorem journal_serializable_example :
    ∃ c, Interleaved recoveringCodec "tenant-a" 1 c ∧ c.shared.committed.run ≠ none
      ∧ c.shared.committed.OfRun recoveringCodec "tenant-a" 1 := by
  have hplayed : ∃ t, Tables.playAlone recoveringCodec ((exampleBound.drop 2).map fun call =>
      (⟨⟨100, 100⟩, 100, 100⟩, call)) ⟨none, []⟩ = some t ∧ t.run ≠ none := by
    decide
  obtain ⟨t, hplay, hrun⟩ := hplayed
  obtain ⟨c, hc, hcommitted⟩ : ∃ c, Interleaved recoveringCodec "tenant-a" 1 c
      ∧ c.shared.committed = t :=
    playAlone_interleaved _ (by decide) hplay .refl rfl rfl
      (fun _ hq => absurd hq (List.not_mem_nil))
  exact ⟨c, hc, hcommitted ▸ hrun, (journal_serializable recoveringCodec hc).2.1⟩

end ControlAssurance.Execution
