import ControlAssurance.Incident.Process

/-!
# Where replacement sessions come from

A replacement session appears with `rotate_session`, except that a branch that ends early may carry
one: the early end has the rank of a finalized snapshot, so the check of the earlier phases passes
it over, and it is exempt from the check of the later ones.
-/

namespace ControlAssurance.Incident

open Lib

variable {R : LifecycleRuntime} {branch : IncidentBranch} {receiptKeys : List ReceiptKey}

/-- Every replacement session in a branch comes after a rotation. -/
def ReplacedByRotation (branch : IncidentBranch) : Prop :=
  ∀ (i : Nat) (s : IncidentSnapshot), branch.snapshots[i]? = some s →
    s.replacementSessionDigest ≠ none →
    ∃ (j : Nat) (t : IncidentTransitionRecord), j < i ∧ branch.transitions[j]? = some t
      ∧ t.action = .rotateSession

/-- The branch ends without a related alert in a snapshot that names a replacement session. -/
def EndsEarlyWithReplacement (branch : IncidentBranch) : Prop :=
  ∃ i p t s, branch.StepAt i p t s ∧ t.action = .finalize
    ∧ t.finalizationDisposition = some .noRelatedAlert ∧ s.replacementSessionDigest ≠ none

/-- The early end leads from `detection_closed`, in an actual branch. -/
theorem early_end {kind : BranchKind} {source target : IncidentSnapshot}
    {t : IncidentTransitionRecord} (h : PhaseStep kind source target t)
    (hfinal : t.action = .finalize) (hdisposition : t.finalizationDisposition = some .noRelatedAlert) :
    kind = .actual ∧ source.phase = .detectionClosed := by
  cases h with
  | ordinary _ _ hcompleted =>
    rw [hcompleted hfinal] at hdisposition
    cases hdisposition
  | noAlert hkind hfrom => exact ⟨hkind, hfrom⟩

/-- A snapshot past rotation has a rotation before it: the process leaves no other way there. -/
theorem BranchFacts.rotated_before (h : BranchFacts R branch receiptKeys) {i : Nat}
    {s : IncidentSnapshot} (hs : branch.snapshots[i]? = some s) :
    PastRotation branch i s → ∃ (j : Nat) (t : IncidentTransitionRecord), j < i
      ∧ branch.transitions[j]? = some t ∧ t.action = .rotateSession := by
  refine neighbours_all (P := fun i z => PastRotation branch i z →
    ∃ (j : Nat) (t : IncidentTransitionRecord), j < i ∧ branch.transitions[j]? = some t
      ∧ t.action = .rotateSession) (fun x hx hpast => ?_) (fun k x y hx hy ih hpast => ?_) hs
  · obtain rfl := Option.some.inj (branch.getElem?_zero.symm.trans hx)
    have hrank := hpast.1
    rw [h.first.phase] at hrank
    exact absurd hrank (by decide)
  · obtain ⟨t, ht, hstep⟩ := h.between hx hy
    -- an action that leads past rotation either rotates or starts past rotation
    have hbefore : ∀ phase : LifecyclePhase, LifecyclePhase.sessionRotated.rank ≤ phase.rank →
        phase ≠ .finalized → x.phase = phase → ∃ (j : Nat) (t : IncidentTransitionRecord),
          j < k + 1 ∧ branch.transitions[j]? = some t ∧ t.action = .rotateSession := by
      intro phase hrank hopen hphase
      have hnot : isNoAlertFinal (branch.transitionInto k) x = false := by
        rw [isNoAlertFinal, hphase, decide_eq_false hopen, Bool.false_and]
      obtain ⟨j, t', hlt, ht', hrotate⟩ := ih ⟨hphase ▸ hrank, hnot⟩
      exact ⟨j, t', Nat.lt_succ_of_lt hlt, ht', hrotate⟩
    cases hstep.phase with
    | noAlert _ _ hto hfinal hdisposition =>
      have hnot := hpast.2
      rw [transitionInto_succ ht, isNoAlertFinal, hto] at hnot
      simp [hfinal, hdisposition] at hnot
    | ordinary hfrom hto _ =>
      have hrank := hpast.1
      rw [hto] at hrank
      cases haction : t.action with
      | rotateSession => exact ⟨k, t, Nat.lt_succ_self k, ht, haction⟩
      | retest =>
        rw [haction] at hfrom
        exact hbefore .sessionRotated (le_refl _) (by decide) hfrom
      | finalize =>
        rw [haction] at hfrom
        exact hbefore .retested (by decide) (by decide) hfrom
      | bindSource | closeDetection | probeResponse | applyRestore =>
        rw [haction] at hrank
        exact absurd hrank (by decide)

/-- A replacement session without a rotation is that of an early end. -/
theorem BranchFacts.replacedByRotation (h : BranchFacts R branch receiptKeys)
    (hend : ¬EndsEarlyWithReplacement branch) : ReplacedByRotation branch := by
  intro i s hs hreplaced
  have hrank : LifecyclePhase.sessionRotated.rank ≤ s.phase.rank := by
    by_contra hlt
    exact hreplaced ((h.snapshot i s hs).before (not_le.mp hlt))
  refine h.rotated_before hs ⟨hrank, ?_⟩
  cases i with
  | zero =>
    rw [isNoAlertFinal, IncidentBranch.transitionInto, if_pos rfl, Option.any_none, Bool.and_false]
  | succ i =>
    obtain ⟨t, ht⟩ := h.transition hs
    obtain ⟨p, _, hp, _, _⟩ := h.around ht
    by_contra hfinal
    rw [Bool.not_eq_false, isNoAlertFinal, transitionInto_succ ht, Option.any_some,
      Bool.and_eq_true, decide_eq_true_eq, decide_eq_true_eq] at hfinal
    obtain ⟨_, haction, hdisposition⟩ := hfinal
    exact hend ⟨i, p, t, s, ⟨hp, ht, hs⟩, haction, hdisposition, hreplaced⟩

/-- An early end has no rotation before it. -/
theorem BranchFacts.not_replacedByRotation (h : BranchFacts R branch receiptKeys)
    (hend : EndsEarlyWithReplacement branch) : ¬ReplacedByRotation branch := by
  intro hall
  obtain ⟨i, p, t, s, hat, hfinal, hdisposition, hreplaced⟩ := hend
  obtain ⟨j, t', hlt, ht', hrotate⟩ := hall (i + 1) s hat.2.2 hreplaced
  obtain ⟨_, hclosed⟩ := early_end (h.stepAt hat).phase hfinal hdisposition
  rcases Nat.lt_or_eq_of_le (Nat.lt_succ_iff.mp hlt) with hji | rfl
  · have hrank := (h.pastRotation_of_rotate ht' hrotate hji hat.1).1
    rw [hclosed] at hrank
    exact absurd hrank (by decide)
  · obtain rfl := Option.some.inj (hat.2.1.symm.trans ht')
    rw [hfinal] at hrotate
    cases hrotate

/-- Replacement sessions come only from rotation exactly when the actual branch does not end early
with one. -/
theorem replacements_rotated_iff {lifecycle : IncidentLifecycle}
    {receipts : List AdmittedReceiptEvidence} {verified : VerifiedLifecycle}
    (h : verifyLifecycle R lifecycle receipts = .ok verified) :
    (ReplacedByRotation lifecycle.actual ∧ ReplacedByRotation lifecycle.matchedComparison)
      ↔ ¬EndsEarlyWithReplacement lifecycle.actual := by
  obtain ⟨_, hkind, hactual, hcomparison, _⟩ := verifyLifecycle_ok h
  have hnever : ¬EndsEarlyWithReplacement lifecycle.matchedComparison := by
    rintro ⟨i, p, t, s, hat, hfinal, hdisposition, _⟩
    have hearly := (early_end (hcomparison.stepAt hat).phase hfinal hdisposition).1
    rw [hkind] at hearly
    cases hearly
  constructor
  · intro hall hend
    exact hactual.not_replacedByRotation hend hall.1
  · intro hend
    exact ⟨hactual.replacedByRotation hend, hcomparison.replacedByRotation hnever⟩

theorem replacements_rotated_iff_example :
    ReplacedByRotation exampleLifecycle.actual
      ∧ ReplacedByRotation exampleLifecycle.matchedComparison := by
  obtain ⟨verified, hverified⟩ := example_accepted.exists_ok
  refine (replacements_rotated_iff hverified).mpr ?_
  rintro ⟨i, p, t, s, hat, hfinal, hdisposition, _⟩
  have hnone : ∀ t ∈ exampleLifecycle.actual.transitions,
      t.finalizationDisposition ≠ some .noRelatedAlert := by
    intro t ht
    obtain ⟨n, _, rfl⟩ := List.mem_map.mp ht
    revert n
    decide
  exact hnone t (List.mem_of_getElem? hat.2.1) hdisposition

/-! ## An early end with a replacement session -/

def earlySnapshotFields (kind : BranchKind) (n : Fin 3) : SnapshotFields :=
  { exampleSnapshotFields kind (n.castLE (by decide)) with
    phase := [.sourceBound, .detectionClosed, .finalized].get n
    compromisedSessionState := .active
    lastAlertId := none
    disclosureLedger := exampleLedger kind 0
    confidentialityStatus := .noneObservedOnTestedBranch
    replacementSessionDigest := if n.val < 2 then none else some (exampleDigest kind 90)
    replacementSessionState := if n.val < 2 then .none else .active
    replacementEntitlementDigest := if n.val < 2 then none else some 5 }

def earlySnapshot (kind : BranchKind) (n : Fin 3) : IncidentSnapshot where
  toSnapshotFields := earlySnapshotFields kind n
  coherent := by
    revert n
    cases kind <;> decide

def earlyTransitionFields (kind : BranchKind) (n : Fin 2) : TransitionFields :=
  { exampleTransitionFields kind (n.castLE (by decide)) with
    action := [.closeDetection, .finalize].get n
    finalizationDisposition := if n.val = 0 then none else some .noRelatedAlert
    finalizationReason := if n.val = 0 then none else some "no alert" }

def earlyTransition (kind : BranchKind) (n : Fin 2) : IncidentTransitionRecord where
  toTransitionFields := earlyTransitionFields kind n
  coherent := by
    revert n
    cases kind <;> decide
  transitionId := exampleTraceDigest (exampleTraceId kind n)

/-- The actual branch ends early in a snapshot that names a replacement session. -/
def earlyLifecycle : IncidentLifecycle where
  actual := {
    branchKind := .actual
    snapshots := [earlySnapshot .actual 0, earlySnapshot .actual 1, earlySnapshot .actual 2]
    transitions := [earlyTransition .actual 0, earlyTransition .actual 1]
    started := by simp }
  matchedComparison := {
    branchKind := .matchedComparison
    snapshots := [earlySnapshot .matchedComparison 0, earlySnapshot .matchedComparison 1]
    transitions := [earlyTransition .matchedComparison 0]
    started := by simp }
  currentSnapshotDigest := exampleSnapshotDigest "actual" 3

theorem early_end_keeps_replacement :
    Accepted exampleLifecycleRuntime earlyLifecycle []
      ∧ ¬ReplacedByRotation earlyLifecycle.actual := by
  refine ⟨by decide, fun hall => ?_⟩
  obtain ⟨j, t, hj, ht, hrotate⟩ := hall 2 (earlySnapshot .actual 2) rfl (by decide)
  have hnone : ∀ t ∈ earlyLifecycle.actual.transitions, t.action ≠ .rotateSession := by
    decide
  exact hnone t (List.mem_of_getElem? ht) hrotate

end ControlAssurance.Incident
