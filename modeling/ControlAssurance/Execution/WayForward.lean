import ControlAssurance.Execution.JournalProgress
import ControlAssurance.Execution.Publication
import ControlAssurance.Execution.RecoveryOffer

/-!
# Where a run can go on

A takeover is decided three times: by the state checks of `prepare`, by the row trigger
`guard_execution_update`, which looks at the bound identity and the recovery rows, and by
`consume_publishing_recovery_authorization`, which has a state precondition of its own.
This module says which states have a way forward under all three.
-/

namespace ControlAssurance.Execution

open Lib
open Admission (Bytes)
open ControlAssurance.Runtime (ControlRunExecutionResult)

section

variable {C : Codec} {x x' : RunJournal} {now : Time}

/-! ## `prepare` by the next fence -/

theorem prepare_intro (hwf : x.WF C) {a : Attempt} (ha : x.current = some a)
    (hunfinished : x.completion = none) (hunbound : x.identity = none)
    {request : ControlRunExecutionRequest} {workerId : String} {token : Digest}
    (hnext : NextAttempt x request ⟨request.leaseFence, workerId, token⟩)
    (hstable : request.stable = x.request) {plan : Option Bytes}
    (hplan : ∀ p ∈ plan, p = x.planBytes) {clock : Clock} (htimed : x.Timed clock.statement) :
    ∃ r, prepare C clock request workerId token plan (some x)
        = .ok (x.takenOverBy a request ⟨request.leaseFence, workerId, token⟩ clock, r)
      ∧ r.Of (x.takenOverBy a request ⟨request.leaseFence, workerId, token⟩ clock)
        { newAttempt request.attemptCount ⟨request.leaseFence, workerId, token⟩ with
          preparedAt := clock.transaction } := by
  obtain ⟨current, hread, hof⟩ :=
    hwf.readCurrent ha (.integrity "prepared execution could not be reread")
  obtain ⟨r, htakeOver, hof'⟩ := takeOver_intro hwf ha hunfinished hunbound hnext htimed hof
  refine ⟨r, ?_, hof'⟩
  have hfence := hnext.fence
  have hhighest := hof.highest
  have hnotCompleted : current.state ≠ .completed := by
    rw [hof.state]
    intro hcompleted
    obtain ⟨c, hc, -⟩ := hwf.completed (current_mem ha).1 hcompleted
    rw [hunfinished] at hc
    cases hc
  unfold prepare findOrInsert
  simp only [bind_eq_ok, require_eq_ok, pure_eq_ok]
  refine ⟨(), hnext.portable, (), ?_, (), ?_, x, ⟨(), ?_, rfl⟩, (x, current), hread, (), ?_, (),
    ?_, (), ?_, ?_⟩
  · intro p hp
    rw [hplan p hp]
    exact hwf.rowChecks.2.2.1
  · intro p hp
    rw [hplan p hp, hstable]
    exact hwf.verified
  · rw [ha]
    simp
  · rw [hof.stable, hstable]
  · intro p hp
    rw [hplan p hp, hof.planBytes]
  · show current.highestLeaseFence ≤ request.leaseFence
    omega
  · have hhigher : ¬request.leaseFence = current.highestLeaseFence := by omega
    rw [if_neg hnotCompleted, if_neg hhigher]
    exact htakeOver

/-! ## Consuming an authorization -/

/-- A correctly dated authorization, used at the second of its claim: the envelope passes its
own validators and fits, the claim is the one made from it, and neither has expired. -/
structure RecoveryRow.Dated (C : Codec) (r : RecoveryRow) (databaseSecond : Time) : Prop where
  valid : r.envelope.valid C.recovery
  fits : r.envelope.fits C.recovery
  claim : r.useClaim = r.envelope.useClaim C.recovery r.consumedAt
  recent : r.consumedAt ≤ databaseSecond ∧ databaseSecond - useClaimWindow ≤ r.consumedAt
  begun : r.authorization.notBefore ≤ r.consumedAt ∧ r.authorization.issuedAt ≤ r.consumedAt
  unexpired : databaseSecond < r.authorization.expiresAt

/-- The authorization names the stored run and the stored attempt. -/
structure RecoveryRow.Names (r : RecoveryRow) (x : RunJournal) (a : Attempt) : Prop where
  tenantId : r.authorization.tenantId = x.request.tenantId
  runId : r.authorization.runId = x.request.runId
  execution : x.namedBy r
  attempt : a.abandonedIn r

/-- The documents of a valid envelope bind one another as the routine wants them. -/
theorem dated_digestsBind {r : RecoveryRow} (h : r.envelope.valid C.recovery) :
    r.digestsBind C := by
  obtain ⟨⟨-, -, -, hrequest, -, -, hchecker, -, -, hembeds, hfences, hdrains, -, -, -⟩, -, hid,
    -⟩ := h
  obtain ⟨-, hrequestDigest, hfence, hsignedFence, hdrain, hsignedDrain, -, -, hcheckerDigest⟩ :=
    hembeds
  obtain ⟨-, hmaker, hintent, -, -, -, -, haction, -⟩ := hrequest
  exact ⟨hid, hrequestDigest, hintent, hmaker.2.2.1, hcheckerDigest, hchecker.2.2.1, haction,
    hsignedFence, hfence, hsignedDrain, hdrain, hfences.1, hdrains.1, hdrains.2.1⟩

theorem dated_namesBind {r : RecoveryRow} (h : r.envelope.valid C.recovery) : r.namesBind := by
  obtain ⟨⟨-, -, -, hrequest, -, -, -, -, -, hembeds, -, hdrains, hroles, hduties, -⟩, -⟩ := h
  obtain ⟨⟨htenant, hrun, hcontrol, hconfiguration, hplan, hidentity⟩, -, -, -, -, -, habandoned,
    hsuccessor, -⟩ := hembeds
  obtain ⟨-, -, -, -, -, hmakerTenant, hmakerRun, -⟩ := hrequest
  obtain ⟨hmakerRole, hmakerAction, hcheckerRole, hcheckerAction, hcheckerTenant, hcheckerRun,
    -⟩ := hroles
  obtain ⟨-, -, -, -, -, hscope, hbinding, -⟩ := hdrains
  exact ⟨habandoned, hsuccessor, hmakerRole, hmakerAction, hmakerTenant.trans htenant.symm,
    hmakerRun.trans hrun.symm, hcheckerRole, hcheckerAction, hcheckerTenant, hcheckerRun,
    hduties.1, hduties.2.1, htenant.symm, hrun.symm, hcontrol.symm, hconfiguration.symm,
    hplan.symm, hidentity.symm, hscope, hbinding⟩

theorem dated_claimBinds {r : RecoveryRow} (h : r.envelope.valid C.recovery)
    (hclaim : r.useClaim = r.envelope.useClaim C.recovery r.consumedAt) : r.claimBinds C := by
  obtain ⟨⟨-, -, -, -, -, -, -, -, -, hembeds, hfences, -⟩, -, hid, -⟩ := h
  unfold RecoveryRow.claimBinds
  rw [hclaim]
  exact ⟨hid, rfl, rfl, hembeds.2.1, hfences.2.2.2.1.symm, rfl, rfl, rfl, rfl, rfl, rfl, rfl, rfl⟩

/-- The successor's lease began before the authorization was issued. -/
theorem successor_leased {r : RecoveryRow} (h : r.envelope.valid C.recovery) :
    r.successor.leasedAt ≤ r.authorization.issuedAt := by
  obtain ⟨⟨-, -, -, hrequest, hfence, hdrain, -, -, -, hembeds, -, -, -, -, htimeline⟩, -⟩ := h
  obtain ⟨-, -, -, -, -, -, -, hsuccessor, -⟩ := hembeds
  obtain ⟨⟨-, -, -, -, -, -, -, -, -, hleased, -⟩, -⟩ := hrequest
  obtain ⟨hrequested, hfenceAttested, hdrainAttested, -, -, happroved, -⟩ := htimeline
  obtain ⟨⟨-, -, -, -, -, ⟨h₁, h₂, h₃, h₄, -⟩, -⟩, -⟩ := hfence
  rw [← hsuccessor] at hleased
  exact calc r.successor.leasedAt
      ≤ r.authorization.recoveryRequest.intent.requestedAt := hleased
    _ ≤ r.authorization.fence.fenceRequestedAt := hrequested
    _ ≤ r.authorization.fence.attestedAt := h₁.trans (h₂.trans (h₃.trans h₄))
    _ ≤ r.authorization.drain.attestedAt := hfenceAttested
    _ ≤ r.authorization.approvedAt := hdrainAttested
    _ ≤ r.authorization.issuedAt := happroved

variable {databaseSecond : Time}

theorem dated_bindingHolds {r : RecoveryRow}
    (h : r.Dated C databaseSecond) : r.bindingHolds C databaseSecond := by
  refine ⟨dated_digestsBind h.valid, dated_namesBind h.valid,
    dated_claimBinds h.valid h.claim, ?_⟩
  obtain ⟨⟨-, -, -, hrequest, -, -, -, -, -, hembeds, -, -, -, -, htimeline⟩, -⟩ := h.valid
  obtain ⟨-, -, -, -, -, -, habandoned, hsuccessor, -⟩ := hembeds
  obtain ⟨⟨-, -, -, -, -, -, hfence, hcount, -⟩, -⟩ := hrequest
  obtain ⟨-, -, -, -, -, -, -, -, -, -, -, hlease, -⟩ := htimeline
  have hused : r.consumedAt < r.authorization.expiresAt := h.recent.1.trans_lt h.unexpired
  rw [← hsuccessor, ← habandoned] at hfence hcount
  exact ⟨h.recent.1, h.recent.2, h.begun.1, h.begun.2, hused, hused.trans_le hlease,
    h.unexpired, h.unexpired.trans_le hlease, hfence, hcount⟩

/-- A drain has at least one record, since its latest exposure is one of theirs. -/
theorem drain_counted {R : Recovery} {d : CredentialDrainAttestation} (h : d.valid R) :
    1 ≤ d.lifecycleRecordCount ∧ d.lifecycleRecordCount ≤ 128 := by
  obtain ⟨-, -, -, hlength, -, -, -, -, -, -, -, -, hcount, -, -, -, -, -, hmax, -⟩ := h
  rw [hcount]
  refine ⟨?_, hlength⟩
  cases hanchors : d.anchors with
  | nil =>
    rw [hanchors] at hmax
    cases hmax
  | cons anchor anchors => exact Nat.le_add_left 1 anchors.length

/-- The row of a correctly dated authorization meets the constraints of its table. -/
theorem dated_checks {r : RecoveryRow} (h : r.Dated C databaseSecond) :
    r.checks C := by
  obtain ⟨-, -, -, -, -, -, -, hused, hleaseUsed, -, -, hfence, hcount⟩ := dated_bindingHolds h
  obtain ⟨⟨-, -, -, hrequest, -, hdrain, -, habandonedValid, hsuccessorValid, hembeds, -⟩, -⟩ :=
    h.valid
  obtain ⟨-, -, -, -, -, -, habandoned, hsuccessor, -⟩ := hembeds
  obtain ⟨⟨-, -, -, -, -, -, -, -, hexpired, -⟩, -⟩ := hrequest
  rw [← hsuccessor, ← habandoned] at hexpired
  obtain ⟨hfenceLow, hfenceHigh, hcountLow, -, -, -, hlease, hbegan, hpublishing⟩ :=
    habandonedValid
  obtain ⟨-, -, -, hcountHigh, -, hsuccessorLease⟩ := hsuccessorValid
  have hcountBound : r.abandoned.attemptCount ≤ 31 := by
    have hle : r.successor.attemptCount ≤ 32 := hcountHigh
    omega
  exact ⟨⟨hfenceLow, hfenceHigh⟩, ⟨hcountLow, hcountBound⟩, hfence, hcount, hlease, hbegan,
    hpublishing, hexpired, hsuccessorLease, hused, hleaseUsed, hdrain.1.2.2.2.2.2.2.2.1,
    drain_counted hdrain.1, h.fits⟩

/-- The abandoned attempt as the routine leaves it. -/
def RecoveryRow.retired (r : RecoveryRow) (a : Attempt) : Attempt :=
  { a with
    state := .uncertain
    revision := a.revision + 1
    finishedAt := some r.consumedAt
    errorCode := some "recovery-superseded" }

/-- The rows after an adoption. -/
def RunJournal.adoptedBy (x : RunJournal) (r : RecoveryRow) (a : Attempt) : RunJournal :=
  { x.replace a (r.retired a) with
    highestLeaseFence := r.successor.leaseFence
    highestAttemptCount := r.successor.attemptCount
    attempts := (x.replace a (r.retired a)).attempts ++ [r.successorAttempt]
    recoveries := x.recoveries ++ [r] }

theorem retired_checks {r : RecoveryRow} {a : Attempt}
    (hdated : r.Dated C databaseSecond) (hchecks : a.checks C.sha)
    (habandoned : a.abandonedIn r) : (r.retired a).checks C.sha := by
  obtain ⟨hrange, hportable, -, -, hshape, horder⟩ := hchecks
  obtain ⟨-, -, -, hstate, hrevision, hpublishing, -⟩ := habandoned
  obtain ⟨-, -, -, -, -, -, hbefore, hexpired, -⟩ := dated_checks hdated
  unfold Attempt.stateShape at hshape
  rw [hstate] at hshape
  have hused : r.abandoned.publishingAt ≤ r.consumedAt := calc
    r.abandoned.publishingAt ≤ r.abandoned.leaseExpiresAt := hbefore.le
    _ ≤ r.successor.leasedAt := hexpired
    _ ≤ r.authorization.issuedAt := successor_leased hdated.valid
    _ ≤ r.consumedAt := hdated.begun.2
  refine ⟨hrange, hportable, ?_, ?_, ⟨?_, ?_, ?_, hshape.2.2.2.2⟩, horder.1, ?_, ?_⟩
  · intro code hcode
    cases hcode
    decide
  · intro o ho
    have hnone : a.outcome = some o := ho
    rw [hshape.2.2.2.2] at hnone
    cases hnone
  · show a.revision + 1 = 1 ∨ a.revision + 1 = 2
    omega
  · exact Option.some_ne_none _
  · exact Option.some_ne_none _
  · intro f hf
    cases hf
    exact (horder.1 r.abandoned.publishingAt hpublishing).trans hused
  · intro p hp f hf
    cases hf
    have hp' : a.publishingAt = some p := hp
    rw [hpublishing] at hp'
    cases hp'
    exact hused

theorem successorAttempt_checks {r : RecoveryRow}
    (hdated : r.Dated C databaseSecond) : r.successorAttempt.checks C.sha := by
  obtain ⟨⟨-, -, -, -, -, -, -, -, hsuccessor, -⟩, -⟩ := hdated.valid
  obtain ⟨hfenceLow, hfenceHigh, hcountLow, hcountHigh, hportable, -⟩ := hsuccessor
  have hused : r.successor.leasedAt ≤ r.consumedAt :=
    (successor_leased hdated.valid).trans hdated.begun.2
  refine ⟨⟨⟨Nat.le_of_succ_le hcountLow, hcountHigh⟩, Nat.le_of_succ_le hfenceLow, hfenceHigh⟩,
    hportable, ?_, ?_, ⟨rfl, Option.some_ne_none _, rfl, rfl, rfl⟩, ?_, ?_, ?_⟩
  · intro code hcode
    cases hcode
  · intro o ho
    cases ho
  · intro p hp
    cases hp
    exact hused
  · intro f hf
    cases hf
  · intro p _ f hf
    cases hf

theorem adoptedBy_current (hwf : x.WF C) {a : Attempt} (ha : x.current = some a)
    {r : RecoveryRow} (hdated : r.Dated C databaseSecond)
    (hnames : r.Names x a) : (x.adoptedBy r a).current = some r.successorAttempt := by
  obtain ⟨-, -, hfence, -⟩ := dated_checks hdated
  obtain ⟨-, -, -, -, hhighest, -⟩ := hnames.execution
  refine appended_current ?_ rfl rfl
  intro b hb
  have hsame : (r.retired a).leaseFence = a.leaseFence := rfl
  have hle := (replace_bounded hwf ha hsame rfl hb).1
  show b.leaseFence ≠ r.successor.leaseFence
  omega

/-- The rows after the adoption are as the constraints want them. -/
theorem adoptedBy_adopted (hwf : x.WF C) {a : Attempt} (ha : x.current = some a)
    {r : RecoveryRow} (hdated : r.Dated C databaseSecond) (hnames : r.Names x a)
    (hfresh : r.authorizationId C ∉ x.recoveries.map (·.authorizationId C)) :
    Adopted C x (x.adoptedBy r a) r a (r.retired a) := by
  obtain ⟨hmem, hcurrent⟩ := current_mem ha
  obtain ⟨-, -, hfence, hcount, -⟩ := dated_checks hdated
  obtain ⟨-, -, -, -, hhighest, hhighestCount, hunfinished⟩ := hnames.execution
  obtain ⟨-, hdigest, hlength, hidentity, -⟩ := hwf.rowChecks
  have hnew := successorAttempt_checks hdated
  exact
    { mem := hmem
      current := hcurrent
      unfinished := hunfinished
      same := ⟨rfl, rfl, rfl, rfl, rfl⟩
      moves := Or.inr ⟨hnames.attempt.2.2.2.1, by simp [RecoveryRow.retired], rfl, rfl⟩
      checks := retired_checks hdated (hwf.checks a hmem) hnames.attempt
      abandoned := hnames.attempt
      named := hnames.execution
      fresh := hfresh
      recoveryChecks := dated_checks hdated
      superseded := ⟨rfl, rfl, rfl⟩
      rowChecks := by
        refine ⟨hnew.1, hdigest, hlength, hidentity, ?_⟩
        intro c hc
        have hcompleted : x.completion = some c := hc
        rw [hunfinished] at hcompleted
        cases hcompleted
      newChecks := hnew
      freshFence := by
        intro b hb
        have hle := (hwf.bounded hb).1
        omega
      freshCount := by
        intro b hb
        have hle := (hwf.bounded hb).2
        omega
      result := rfl }

theorem adoptedBy_consistent (hwf : x.WF C) {a : Attempt} (ha : x.current = some a)
    {r : RecoveryRow} (hdated : r.Dated C databaseSecond)
    (hnames : r.Names x a) : (x.adoptedBy r a).consistent := by
  obtain ⟨-, -, -, -, -, -, hunfinished⟩ := hnames.execution
  refine ⟨r.successorAttempt, adoptedBy_current hwf ha hdated hnames, rfl, ?_⟩
  have hnone : (x.adoptedBy r a).completion = none := hunfinished
  rw [hnone]
  intro h
  cases h

/-- The rows between two statements of the routine: the audit row is in, -/
def RunJournal.recordedBy (x : RunJournal) (r : RecoveryRow) : RunJournal :=
  { x with recoveries := x.recoveries ++ [r] }

/-- the abandoned attempt is retired, -/
def RunJournal.retiredBy (x : RunJournal) (r : RecoveryRow) (a : Attempt) : RunJournal :=
  (x.recordedBy r).replace a (r.retired a)

/-- and the execution has the successor's fence. -/
def RunJournal.advancedBy (x : RunJournal) (r : RecoveryRow) (a : Attempt) : RunJournal :=
  { x.retiredBy r a with
    highestLeaseFence := r.successor.leaseFence
    highestAttemptCount := r.successor.attemptCount }

theorem mem_recordedBy (x : RunJournal) (r : RecoveryRow) : r ∈ (x.recordedBy r).recoveries :=
  List.mem_append_right _ (List.mem_singleton.mpr rfl)

section

variable {a : Attempt} {r : RecoveryRow}

theorem retireAbandoned_intro (hwf : x.WF C) (ha : x.current = some a) (hnames : r.Names x a)
    (hchecks : (r.retired a).checks C.sha) (time : Time) :
    (x.recordedBy r).retireAbandoned C r time = .ok (x.retiredBy r a) := by
  obtain ⟨hmem, hcurrent⟩ := current_mem ha
  obtain ⟨-, -, -, -, hhighest, -, hunfinished⟩ := hnames.execution
  obtain ⟨hattempt, hworker, htoken, hstate, hrevision, hpublishing, -⟩ := hnames.attempt
  have hfence : (x.recordedBy r).highestLeaseFence = r.abandoned.leaseFence := hhighest
  unfold RunJournal.retireAbandoned
  simp only [bind_eq_ok, expect_eq_ok]
  refine ⟨some (x.retiredBy r a), ?_, rfl⟩
  rw [← hfence]
  refine updateAttempt_intro ha (fun b => hwf.current_eq ha) ?_ ?_ hchecks
  · exact decide_eq_true ⟨hattempt, hworker, htoken, hstate, hrevision, hpublishing⟩
  · unfold guardAttemptUpdate
    simp only [bind_eq_ok, require_eq_ok]
    refine ⟨(), ⟨rfl, rfl, rfl, rfl, rfl⟩, (), ⟨hcurrent, hunfinished⟩, (), ?_, ?_⟩
    · exact Or.inr ⟨hstate, by simp, rfl, rfl⟩
    · -- the trigger finds the audit row and keeps the time of the claim
      rw [if_neg (by simp), if_pos ⟨hstate, trivial, trivial, r, mem_recordedBy x r,
        hhighest.symm.trans hcurrent.symm, hattempt.symm, hrevision, hworker.symm, htoken.symm,
        hpublishing.symm, rfl⟩]
      rfl

theorem advanceToSuccessor_intro (hnames : r.Names x a) (hchecks : r.checks C)
    (hrow : (x.adoptedBy r a).toExecutionRow.checks C) :
    (x.retiredBy r a).advanceToSuccessor C r = .ok (x.advancedBy r a) := by
  obtain ⟨hcontrol, hconfiguration, hplan, hidentity, hhighest, hhighestCount, hunfinished⟩ :=
    hnames.execution
  obtain ⟨-, -, hfence, hcount, -⟩ := hchecks
  unfold RunJournal.advanceToSuccessor
  simp only [bind_eq_ok, expect_eq_ok]
  refine ⟨some (x.advancedBy r a), ?_, rfl⟩
  unfold RunJournal.updateRow guardExecutionUpdate
  rw [if_pos (decide_eq_true ⟨hhighest, hhighestCount, hplan, hidentity, hunfinished⟩)]
  simp only [bind_eq_ok, require_eq_ok, pure_eq_ok]
  refine ⟨(), ⟨(), ⟨trivial, trivial, trivial⟩, (), ?_, (), ?_, (), ?_, (), ?_, (), ?_, ?_⟩,
    (), hrow, rfl⟩
  · show x.highestLeaseFence ≤ r.successor.leaseFence
      ∧ x.highestAttemptCount ≤ r.successor.attemptCount
      ∧ (x.highestLeaseFence < r.successor.leaseFence →
        x.highestAttemptCount < r.successor.attemptCount)
      ∧ (r.successor.leaseFence = x.highestLeaseFence →
        r.successor.attemptCount = x.highestAttemptCount)
    omega
  · exact fun hcompleted => absurd hunfinished hcompleted
  · exact fun hcompleted => absurd hunfinished hcompleted
  · exact fun _ => trivial
  · exact fun _ _ => ⟨r, mem_recordedBy x r, hcontrol.symm, hconfiguration.symm, hplan.symm,
      hidentity.symm, hhighest.symm, hhighestCount.symm, rfl, rfl⟩
  · intro hunbound
    have hnone : x.identity = none := hunbound
    rw [hnone] at hidentity
    cases hidentity

theorem insertSuccessor_intro (hwf : x.WF C) (ha : x.current = some a) (hnames : r.Names x a)
    (hchecks : r.checks C) (hnew : r.successorAttempt.checks C.sha) (time : Time) :
    (x.advancedBy r a).insertAttempt C r.successorAttempt time = .ok (x.adoptedBy r a) := by
  obtain ⟨-, -, -, -, hhighest, hhighestCount, -⟩ := hnames.execution
  obtain ⟨-, -, hfence, hcount, -⟩ := hchecks
  have hkept : (r.retired a).leaseFence = a.leaseFence := rfl
  unfold RunJournal.insertAttempt ownAttemptInsertClock
  simp only [bind_eq_ok, require_eq_ok, pure_eq_ok]
  refine ⟨r.successorAttempt, ⟨(), ⟨rfl, rfl, rfl, rfl, rfl⟩, ?_⟩, (), hnew, (), ?_, (),
    ?_, rfl⟩
  · rw [if_neg (by simp [RecoveryRow.successorAttempt]),
      if_pos ⟨rfl, rfl, Option.some_ne_none _, r, mem_recordedBy x r, rfl, rfl, rfl, rfl, rfl,
        rfl⟩]
    rfl
  · intro hin
    obtain ⟨b, hb, hsame⟩ := List.mem_map.mp hin
    have hle := (replace_bounded hwf ha hkept rfl hb).1
    have hsuccessor : b.leaseFence = r.successor.leaseFence := hsame
    omega
  · intro hin
    obtain ⟨b, hb, hsame⟩ := List.mem_map.mp hin
    have hle := (replace_bounded hwf ha hkept rfl hb).2
    have hsuccessor : b.attemptCount = r.successor.attemptCount := hsame
    omega

/-- **The routine accepts** a correctly dated authorization that names the stored tuple and
was not used before, and its transaction commits. -/
theorem consume_intro (hwf : x.WF C) (ha : x.current = some a) {databaseSecond : Time}
    (hdated : r.Dated C databaseSecond) (hnames : r.Names x a)
    (hfresh : r.authorizationId C ∉ x.recoveries.map (·.authorizationId C)) (clock : Clock) :
    x.consume C r clock databaseSecond = .ok (some (x.adoptedBy r a))
      ∧ (x.adoptedBy r a).WF C := by
  have hadopted := adoptedBy_adopted hwf ha hdated hnames hfresh
  have hchecks := dated_checks hdated
  refine ⟨?_, advanced_wf hwf
    (hadopted.advanced hwf (adoptedBy_consistent hwf ha hdated hnames))⟩
  obtain ⟨-, -, -, -, hhighest, -⟩ := hnames.execution
  unfold RunJournal.consume RunJournal.insertRecovery
  simp only [bind_eq_ok, require_eq_ok]
  refine ⟨(), dated_bindingHolds hdated, some (x.recordedBy r), ?_, ?_⟩
  · rw [if_neg hfresh]
    simp only [bind_eq_ok, require_eq_ok, pure_eq_ok]
    exact ⟨(), hchecks, rfl⟩
  · simp only [bind_eq_ok, pure_eq_ok]
    refine ⟨x.adoptedBy r a, ?_, rfl⟩
    unfold RunJournal.adopt RunJournal.recheckExecution RunJournal.recheckAttempt
    simp only [bind_eq_ok, require_eq_ok]
    refine ⟨(), hnames.execution, (), ⟨a, ?_, hnames.attempt⟩, x.retiredBy r a,
      retireAbandoned_intro hwf ha hnames hadopted.checks clock.statement, x.advancedBy r a,
      advanceToSuccessor_intro hnames hchecks hadopted.rowChecks,
      insertSuccessor_intro hwf ha hnames hchecks hadopted.newChecks clock.transaction⟩
    -- the attempt is found by the fence the document names
    rw [Option.mem_def, ← hhighest]
    exact ha

end

/-! ## Open and stuck states -/

/-- Two recorded authorizations with one digest are one authorization. -/
def Recognized (C : Codec) (x : RunJournal) (r : RecoveryRow) : Prop :=
  ∀ q ∈ x.recoveries, q.authorizationId C = r.authorizationId C →
    q.authorization = r.authorization

/-- A run that waits for no reconciliation can be taken over: `prepare` by any worker with the
next fence and the next count leaves a prepared attempt of its own, with the plan and the
identity the run has. -/
def RunJournal.Preparable (C : Codec) (x : RunJournal) (now : Time) : Prop :=
  ∀ (request : ControlRunExecutionRequest) (workerId : String) (token : Digest)
    (plan : Option Bytes) (clock : RecoveryClock), clock.follows now →
    request.stable = x.request → request.leaseFence = x.highestLeaseFence + 1 →
    request.attemptCount = x.highestAttemptCount + 1 → portableId workerId = true →
    (∀ p ∈ plan, p = x.planBytes) →
    ∃ x' r, prepare C clock.toClock request workerId token plan (some x) = .ok (x', r)
      ∧ r.state = .prepared ∧ r.heldBy ⟨request.leaseFence, workerId, token⟩
      ∧ x'.planBytes = x.planBytes ∧ x'.identity = x.identity

/-- A publication that waits for reconciliation can be adopted: there is a correctly dated
authorization that names the stored tuple, and the routine accepts every such one, and its
transaction commits. -/
def RunJournal.Adoptable (C : Codec) (x : RunJournal) (a : Attempt) : Prop :=
  (∃ (r : RecoveryRow) (databaseSecond : Time), r.Dated C databaseSecond ∧ r.Names x a)
  ∧ ∀ (r : RecoveryRow) (clock : Clock) (databaseSecond : Time), r.Dated C databaseSecond →
    r.Names x a → Recognized C x r →
    ∃ x', x.consume C r clock databaseSecond = .ok (some x') ∧ x'.commit = .ok x'
      ∧ x'.planBytes = x.planBytes ∧ x'.identity = x.identity

/-- The way forward of a run that is not completed, by the state of its current attempt. -/
def RunJournal.WayForward (C : Codec) (x : RunJournal) (now : Time) : Prop :=
  ∀ a ∈ x.current,
    (¬(a.state = .publishing ∧ x.identity ≠ none) → x.Preparable C now)
    ∧ (a.state = .publishing ∧ x.identity ≠ none → x.Adoptable C a)

/-- A publication that ended as failed or uncertain after its identity was bound. -/
def RunJournal.EndedBound (x : RunJournal) : Prop :=
  x.identity ≠ none ∧ ∃ a ∈ x.current, a.state = .failed ∨ a.state = .uncertain

instance (x : RunJournal) : Decidable x.EndedBound := by
  delta RunJournal.EndedBound; infer_instance

/-- A publication under way whose attempt count is above its fence: no authorization can name it. -/
def RunJournal.Unnameable (x : RunJournal) : Prop :=
  x.identity ≠ none ∧ ∃ a ∈ x.current, a.state = .publishing ∧ a.leaseFence < a.attemptCount

instance (x : RunJournal) : Decidable x.Unnameable := by
  delta RunJournal.Unnameable; infer_instance

theorem preparable_of_unbound (hwf : x.WF C) (htimed : x.Timed now) {a : Attempt}
    (ha : x.current = some a) (hunfinished : x.completion = none)
    (hunbound : x.identity = none) : x.Preparable C now := by
  intro request workerId token plan clock hclock hstable hfence hcount hportable hplan
  have hnext : NextAttempt x request ⟨request.leaseFence, workerId, token⟩ :=
    ⟨hfence, hcount, rfl, hportable⟩
  obtain ⟨r, hprepare, hof⟩ := prepare_intro hwf ha hunfinished hunbound hnext hstable hplan
    (htimed.mono hclock.1)
  exact ⟨_, r, hprepare, hof.state, ⟨hof.highest, hof.leaseFence, hof.workerId,
    hof.leaseTokenDigest⟩, rfl, rfl⟩

/-- The writer stays within its limits on an envelope with one scope and one lifecycle record:
all that its validators let a string be is bounded. -/
def Recovery.Writes (R : Recovery) : Prop :=
  ∀ s : SignedPublishingRecoveryAuthorization, s.valid R →
    s.authorization.recoveryRequest.intent.pamScopes.length = 1 →
    s.authorization.drain.anchors.length = 1 → s.fits R

/-- There is an authorization for a publication whose attempt count is at most its fence. -/
theorem authorization_offered (hwrites : C.recovery.Writes) (hwf : x.WF C) {a : Attempt}
    (ha : x.current = some a) (hunfinished : x.completion = none)
    (hpublishing : a.state = .publishing) (hbound : x.identity ≠ none)
    (hcount : x.highestAttemptCount < maxAttemptCount)
    (hfence : x.highestLeaseFence < maxLeaseFence) (hle : a.attemptCount ≤ a.leaseFence) :
    ∃ (r : RecoveryRow) (databaseSecond : Time), r.Dated C databaseSecond ∧ r.Names x a := by
  obtain ⟨hmem, hcurrent⟩ := current_mem ha
  have hhighest := hwf.current_count ha
  obtain ⟨⟨hcounts, hfences⟩, hportable, -, -, hshape, -⟩ := hwf.checks a hmem
  unfold Attempt.stateShape at hshape
  rw [hpublishing] at hshape
  obtain ⟨hrevision, hbegan, hopen, -⟩ := hshape
  obtain ⟨p, hp⟩ := Option.ne_none_iff_exists'.mp hbegan
  obtain ⟨i, hi⟩ := Option.ne_none_iff_exists'.mp hbound
  have hidentity : x.identity.map (·.digest) = some i.digest := by
    rw [hi]
    rfl
  let d := abandonedAt a.leaseFence a.attemptCount a.workerId a.leaseTokenDigest p
  have htimes : ∀ p : Int, p - 10 < p + 10 ∧ p - 10 ≤ p ∧ p < p + 10 := by
    intro p
    omega
  have hd : d.valid := by
    refine ⟨hfences.1, ?_, hcounts.1, hcounts.2, hportable, hle, htimes p⟩
    show a.leaseFence ≤ 2 ^ 63 - 2
    have hmax : maxLeaseFence = 2 ^ 63 - 1 := rfl
    omega
  let s := offeredEnvelope C.recovery x.request x.planDigest i.digest d
  have hd' : d.attemptCount < maxAttemptCount := by
    show a.attemptCount < maxAttemptCount
    rw [hhighest]
    exact hcount
  have hs : s.valid C.recovery := offeredEnvelope_valid hd hd' rfl
  have hused : ∀ e : Int, e + 75 - 5 ≤ e + 75 ∧ (e + 50 ≤ e + 75 ∧ e + 70 ≤ e + 75)
      ∧ e + 75 < e + 190 := by
    intro e
    omega
  obtain ⟨hwindow, hbegun, hunexpired⟩ := hused d.leaseExpiresAt
  refine ⟨⟨s, s.useClaim C.recovery (d.leaseExpiresAt + 75)⟩, d.leaseExpiresAt + 75,
    ⟨hs, hwrites s hs rfl rfl, rfl, ⟨Int.le_refl _, hwindow⟩, hbegun, hunexpired⟩, rfl, rfl, ?_, ?_⟩
  · exact ⟨rfl, rfl, rfl, hidentity, hcurrent.symm, hhighest.symm, hunfinished⟩
  · exact ⟨rfl, rfl, rfl, hpublishing, hrevision, hp, hopen⟩

/-- What names a publication under way has a count that is at most its fence. -/
theorem names_count {a : Attempt} (ha : x.current = some a) {r : RecoveryRow}
    {databaseSecond : Time} (hdated : r.Dated C databaseSecond) (hnames : r.Names x a) :
    a.attemptCount ≤ a.leaseFence := by
  obtain ⟨⟨-, -, -, -, -, -, -, habandoned, -⟩, -⟩ := hdated.valid
  obtain ⟨-, -, -, -, -, hle, -⟩ := habandoned
  obtain ⟨-, -, -, -, hhighest, -⟩ := hnames.execution
  rw [(current_mem ha).2, hhighest, hnames.attempt.1]
  exact hle

theorem accepted_of_publishing (hwf : x.WF C) {a : Attempt} (ha : x.current = some a)
    (r : RecoveryRow) (clock : Clock) (databaseSecond : Time) (hdated : r.Dated C databaseSecond)
    (hnames : r.Names x a) (hrecognized : Recognized C x r) :
    ∃ x', x.consume C r clock databaseSecond = .ok (some x') ∧ x'.commit = .ok x'
      ∧ x'.planBytes = x.planBytes ∧ x'.identity = x.identity := by
  have hfresh : r.authorizationId C ∉ x.recoveries.map (·.authorizationId C) := by
    intro hused
    obtain ⟨q, hq, hsame⟩ := List.mem_map.mp hused
    -- an authorization used before abandons a lower fence
    have hlt := hwf.recovered q hq
    obtain ⟨-, -, -, -, hhighest, -⟩ := hnames.execution
    unfold RecoveryRow.abandoned at hlt hhighest
    rw [hrecognized q hq hsame] at hlt
    omega
  obtain ⟨hconsume, hwf'⟩ := consume_intro hwf ha hdated hnames hfresh clock
  refine ⟨_, hconsume, ?_, rfl, rfl⟩
  unfold RunJournal.commit
  rw [require_pos hwf'.consistent]
  rfl

/-- Nothing changes a publication that ended after its identity was bound: no call of anyone,
at any time. -/
theorem ended_bound_stuck {clock : RecoveryClock} {call : JournalCall}
    {r : ExecutionJournalRecord} (hwf : x.WF C) (hended : x.EndedBound)
    (h : call.run C clock (some x) = .ok (x', r)) : x' = x := by
  obtain ⟨hbound, a, ha, hstate⟩ := hended
  have hterminal : ∀ {old : Attempt}, old ∈ x.attempts → old.leaseFence = x.highestLeaseFence →
      old.state = .failed ∨ old.state = .uncertain := by
    intro old hold hfence
    rw [hwf.current_eq ha hold hfence]
    exact hstate
  have hunmoved : ∀ {old new : Attempt}, old ∈ x.attempts →
      old.leaseFence = x.highestLeaseFence → ¬old.mayBecome new := by
    intro old new hold hfence hmoves
    rcases hterminal hold hfence with hfailed | huncertain
    · rcases hmoves with ⟨hopen, -⟩ | ⟨hopen, -⟩ <;> rw [hfailed] at hopen <;> cases hopen
    · rcases hmoves with ⟨hopen, -⟩ | ⟨hopen, -⟩ <;> rw [huncertain] at hopen <;> cases hopen
  obtain ⟨hchange, -⟩ := run_change (fun y hy => by cases hy; exact hwf.fences) h
  generalize call.key = who at hchange
  cases hchange with
  | same => rfl
  | moved hmoved => exact absurd hmoved.moves (hunmoved hmoved.mem hmoved.current)
  | bound hbinds => exact absurd hbinds.unbound hbound
  | completed hcompleted =>
    exact absurd hcompleted.moves (hunmoved hcompleted.mem hcompleted.current)
  | takenOver htaken => exact absurd (htaken.unbound hwf) hbound
  | adopted hadopted _ =>
    exact absurd hadopted.moves (hunmoved hadopted.mem hadopted.current)

/-- No takeover succeeds there. -/
theorem ended_bound_unpreparable (hwf : x.WF C) (hended : x.EndedBound)
    (hcount : x.highestAttemptCount < maxAttemptCount)
    (hfence : x.highestLeaseFence < maxLeaseFence) : ¬x.Preparable C now := by
  intro hpreparable
  have hrange : inRange (x.highestAttemptCount + 1) (x.highestLeaseFence + 1) := by
    refine ⟨⟨?_, ?_⟩, ?_, ?_⟩ <;> omega
  obtain ⟨x', r, hprepare, hstate, -⟩ := hpreparable
    ⟨x.request, x.highestAttemptCount + 1, x.highestLeaseFence + 1, hrange⟩ "a" 0 none
    ⟨⟨now, now⟩, now, now⟩ ⟨le_rfl, le_rfl, le_rfl⟩ rfl rfl rfl (by decide)
    (fun p hp => by cases hp)
  obtain ⟨hbound, a, ha, hended'⟩ := hended
  obtain ⟨⟨b, hb, hof⟩, -⟩ := prepare_ok (fun y hy => by cases hy; exact hwf.fences) hprepare
  have hsame : x' = x := by
    have hrun : JournalCall.run C ⟨⟨now, now⟩, now, now⟩
        (.prepare ⟨x.request, x.highestAttemptCount + 1, x.highestLeaseFence + 1, hrange⟩ "a" 0
          none) (some x) = .ok (x', r) := hprepare
    exact ended_bound_stuck hwf ⟨hbound, a, ha, hended'⟩ hrun
  rw [hsame, Option.mem_def.mp ha] at hb
  cases hb
  rw [hof.state] at hstate
  rcases hended' with h | h <;> rw [h] at hstate <;> cases hstate

end

/-- Digests by the kind of document, which is enough for one envelope. -/
def exampleDocumentDigest : RecoveryDocument → Digest
  | .pamScope _ => 201
  | .executionBinding .. => 202
  | .requestIntent _ => 203
  | .request _ => 204
  | .abandonedAttempt _ => 205
  | .computeFence _ => 206
  | .lifecycleSnapshot .. => 207
  | .approvalIntent _ => 208
  | .actorAction a => if a.role = .maker then 210 else 211
  | .signedActorAction _ => 212
  | .successorClaim _ => 213
  | .signedComputeFence _ => 214
  | .credentialDrain _ => 215
  | .signedCredentialDrain _ => 216
  | .authorization a => BitVec.ofNat 256 (300 + a.abandonedAttempt.leaseFence)
  | .signedAuthorization _ => 218
  | .useClaim _ => 219
  | .publicKey _ => 220

/-- Every envelope has the same text. -/
def exampleEnvelopeBytes : Bytes := [123, 125]

def recoveringCodec : Codec :=
  { exampleCodec with
    recovery := ⟨exampleDocumentDigest, fun _ _ _ _ => true, fun _ => none,
      fun _ => some exampleEnvelopeBytes⟩ }

theorem recovering_writes : recoveringCodec.recovery.Writes := fun _ _ _ _ =>
  ⟨exampleEnvelopeBytes, rfl, by decide, by decide⟩

def exampleAbandoned : AbandonedPublishingAttempt := abandonedAt 1 1 "worker-a" 41 100

/-- The authorization for the publication `worker-a` abandoned. -/
def exampleAuthorization : PublishingRecoveryAuthorization :=
  offeredAuthorization recoveringCodec.recovery exampleStableRequest (exampleDigestOf examplePlanBytes)
    exampleIdentity.digest exampleAbandoned

def exampleEnvelope : SignedPublishingRecoveryAuthorization :=
  offeredEnvelope recoveringCodec.recovery exampleStableRequest (exampleDigestOf examplePlanBytes)
    exampleIdentity.digest exampleAbandoned

/-- Its row when it is used at second 200. -/
def exampleRecoveryRow : RecoveryRow :=
  ⟨exampleEnvelope, exampleEnvelope.useClaim recoveringCodec.recovery 200⟩

theorem exampleRecoveryRow_dated : exampleRecoveryRow.Dated recoveringCodec 201 := by
  have hvalid : exampleEnvelope.valid recoveringCodec.recovery :=
    offeredEnvelope_valid (by decide) (by decide) rfl
  exact ⟨hvalid, recovering_writes _ hvalid rfl rfl, rfl, by decide, by decide, by decide⟩

def exampleKey : AttemptKey := ⟨1, "worker-a", 41⟩

/-- The rows after some calls of `worker-a` at second 100, from the last to the first. -/
def exampleCalls : List JournalCall → Option RunJournal
  | [] => none
  | call :: earlier => call.after recoveringCodec ⟨⟨100, 100⟩, 100, 100⟩ (exampleCalls earlier)

theorem exampleCalls_reached : ∀ calls, Reached recoveringCodec 100 (exampleCalls calls)
  | [] => .empty 100
  | call :: earlier =>
    .call (exampleCalls_reached earlier) call ⟨⟨100, 100⟩, 100, 100⟩ (by decide)

theorem firstInRange : inRange 1 1 := by decide

/-- `worker-a` has bound its identity. -/
def exampleBound : List JournalCall :=
  [.bindExecutionIdentity exampleKey 1 exampleIdentity, .beginPublishing exampleKey 0,
    .prepare (exampleRequest 1 1 firstInRange) "worker-a" 41 (some examplePlanBytes)]

/-- What is not completed and not at its last fence or count. -/
def RunJournal.pending (x : RunJournal) : Prop :=
  x.completion = none ∧ x.highestAttemptCount < maxAttemptCount
    ∧ x.highestLeaseFence < maxLeaseFence

instance (x : RunJournal) : Decidable x.pending := by
  delta RunJournal.pending; infer_instance

end ControlAssurance.Execution
