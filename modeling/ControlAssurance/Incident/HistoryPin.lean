import ControlAssurance.Incident.Process
import ControlAssurance.Lib.HashChain

/-!
# The current snapshot pins the history

Each snapshot of a branch names the digest of the one before it, so the digest of the head stands
for the whole branch: two accepted lifecycles with one current snapshot have one actual history.
-/

namespace ControlAssurance.Incident

open Lib

variable {R : LifecycleRuntime} {branch : IncidentBranch} {receiptKeys : List ReceiptKey}

/-- The digest of a snapshot that has one. -/
def snapshotDigest? (R : LifecycleRuntime) (s : IncidentSnapshot) : Option Digest :=
  (incidentSnapshotDigest R s).toOption

theorem snapshotDigest?_ok {s : IncidentSnapshot} {digest : Digest}
    (h : incidentSnapshotDigest R s = .ok digest) : snapshotDigest? R s = some digest := by
  rw [snapshotDigest?, h]
  rfl

/-- An accepted branch is a hash chain. -/
theorem BranchFacts.linked (h : BranchFacts R branch receiptKeys) :
    Linked (fun s : IncidentSnapshot => s.ordinal.val) (fun s => s.previousSnapshotDigest)
      (snapshotDigest? R) 0 none branch.snapshots := by
  refine linked_of_neighbours (fun i s hs => ?_) (fun s hs => ?_) (fun i s s' hs hs' => ?_)
  · rw [(h.snapshot i s hs).numbered]
    omega
  · obtain rfl := Option.some.inj (branch.getElem?_zero.symm.trans hs)
    exact h.first.previous
  · obtain ⟨_, _, hstep⟩ := h.between hs hs'
    obtain ⟨digest, hdigest, hprevious⟩ := hstep.linked
    rw [hprevious, snapshotDigest?_ok hdigest]

/-- The current snapshot is the head of the actual branch and no snapshot of the comparison. -/
theorem verifyCurrent_ok {lifecycle : IncidentLifecycle} {digest : Digest}
    (h : verifyCurrent R lifecycle = .ok digest) :
    incidentSnapshotDigest R lifecycle.actual.head = .ok lifecycle.currentSnapshotDigest
      ∧ (∀ s ∈ lifecycle.matchedComparison.snapshots,
        incidentSnapshotDigest R s ≠ .ok lifecycle.currentSnapshotDigest)
      ∧ ∀ s ∈ lifecycle.actual.snapshots, snapshotDigest? R s ≠ none := by
  simp only [verifyCurrent, bind_eq_ok, require_eq_ok] at h
  obtain ⟨actualDigests, hactual, comparisonDigests, hcomparison, _, hforeign, headDigest, hhead, _,
    hcurrent, _⟩ := h
  refine ⟨hcurrent ▸ hhead, fun s hs heq => ?_, fun s hs hnone => ?_⟩
  · obtain ⟨d, hd, hdigest⟩ := mapM_answer hcomparison s hs
    obtain rfl : d = lifecycle.currentSnapshotDigest := by
      rw [heq] at hdigest
      exact (Except.ok.inj hdigest).symm
    exact hforeign hd
  · obtain ⟨d, _, hdigest⟩ := mapM_answer hactual s hs
    rw [snapshotDigest?_ok hdigest] at hnone
    cases hnone

theorem IncidentBranch.lastDigest_eq :
    lastDigest (snapshotDigest? R) none branch.snapshots = snapshotDigest? R branch.head := by
  rw [lastDigest, List.getLast?_eq_getLast_of_ne_nil branch.started]
  rfl

/-- Two accepted lifecycles with one current snapshot have the same actual snapshots, as long as
no two different snapshots of their actual branches share a digest. -/
theorem current_snapshot_pins_history {lifecycle lifecycle' : IncidentLifecycle}
    {receipts receipts' : List AdmittedReceiptEvidence} {verified verified' : VerifiedLifecycle}
    (h : verifyLifecycle R lifecycle receipts = .ok verified)
    (h' : verifyLifecycle R lifecycle' receipts' = .ok verified')
    (hinjective : ∀ a ∈ lifecycle.actual.snapshots, ∀ b ∈ lifecycle'.actual.snapshots,
      incidentSnapshotDigest R a = incidentSnapshotDigest R b → a = b)
    (hcurrent : lifecycle.currentSnapshotDigest = lifecycle'.currentSnapshotDigest) :
    lifecycle.actual.snapshots = lifecycle'.actual.snapshots
      ∧ incidentSnapshotDigest R lifecycle.actual.head = .ok lifecycle.currentSnapshotDigest
      ∧ ∀ s ∈ lifecycle.matchedComparison.snapshots,
        incidentSnapshotDigest R s ≠ .ok lifecycle.currentSnapshotDigest := by
  obtain ⟨_, _, hactual, _, _, _, hverified⟩ := verifyLifecycle_ok h
  obtain ⟨_, _, hactual', _, _, _, hverified'⟩ := verifyLifecycle_ok h'
  obtain ⟨hhead, hforeign, hknown⟩ := verifyCurrent_ok hverified
  obtain ⟨hhead', _, hknown'⟩ := verifyCurrent_ok hverified'
  refine ⟨hactual.linked.unique hactual'.linked ?_ ?_ ?_, hhead, hforeign⟩
  · rw [IncidentBranch.lastDigest_eq, IncidentBranch.lastDigest_eq, snapshotDigest?_ok hhead,
      snapshotDigest?_ok hhead', hcurrent]
  · intro a ha b hb hsame
    refine hinjective a ha b hb ?_
    obtain ⟨d, hd⟩ := Option.ne_none_iff_exists'.mp (hknown a ha)
    rw [hd] at hsame
    have hok : ∀ {s : IncidentSnapshot}, snapshotDigest? R s = some d →
        incidentSnapshotDigest R s = .ok d := by
      intro s hs
      rw [snapshotDigest?] at hs
      cases hdigest : incidentSnapshotDigest R s with
      | ok x =>
        rw [hdigest] at hs
        exact congrArg Except.ok (Option.some.inj hs)
      | error e =>
        rw [hdigest] at hs
        cases hs
    rw [hok hd, hok hsame.symm]
  · intro s hs
    rcases List.mem_append.mp hs with hs | hs
    · exact hknown s hs
    · exact hknown' s hs

/-- The transition with other bundles. -/
def IncidentTransitionRecord.rebundled (t : IncidentTransitionRecord) : IncidentTransitionRecord where
  toTransitionFields := { t.toTransitionFields with
    attestationBundleDigest := t.attestationBundleDigest + 1000
    cleanupBundleDigest := t.cleanupBundleDigest + 1000 }
  coherent := by
    have hcoherent := t.coherent
    unfold TransitionFields.validate at hcoherent ⊢
    exact hcoherent
  transitionId := t.transitionId

/-- The example with a comparison branch that has other bundles. -/
def rebundledLifecycle : IncidentLifecycle :=
  { exampleLifecycle with
    matchedComparison := { exampleBranch .matchedComparison with
      transitions := (exampleBranch .matchedComparison).transitions.map (·.rebundled) } }

theorem rebundled_accepted :
    Accepted exampleLifecycleRuntime rebundledLifecycle exampleReceipts := by
  decide

theorem current_snapshot_pins_history_example :
    (∃ t ∈ exampleLifecycle.matchedComparison.transitions,
        ∀ t' ∈ rebundledLifecycle.matchedComparison.transitions,
          t'.cleanupBundleDigest ≠ t.cleanupBundleDigest)
      ∧ exampleLifecycle.actual.snapshots = rebundledLifecycle.actual.snapshots
      ∧ incidentSnapshotDigest exampleLifecycleRuntime exampleLifecycle.actual.head
        = .ok exampleLifecycle.currentSnapshotDigest := by
  obtain ⟨verified, hverified⟩ := example_accepted.exists_ok
  obtain ⟨verified', hverified'⟩ := rebundled_accepted.exists_ok
  have hinjective : ∀ a ∈ exampleLifecycle.actual.snapshots,
      ∀ b ∈ rebundledLifecycle.actual.snapshots,
        incidentSnapshotDigest exampleLifecycleRuntime a
          = incidentSnapshotDigest exampleLifecycleRuntime b → a = b := by
    intro a ha b hb hsame
    obtain ⟨i, _, rfl⟩ := List.mem_map.mp ha
    obtain ⟨j, _, rfl⟩ := List.mem_map.mp hb
    have hij : i = j := by
      revert i j
      decide
    rw [hij]
  obtain ⟨hsnapshots, hhead, -⟩ :=
    current_snapshot_pins_history hverified hverified' hinjective rfl
  exact ⟨by decide, hsnapshots, hhead⟩

end ControlAssurance.Incident
