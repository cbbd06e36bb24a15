import ControlAssurance.Incident.Disclosure

/-!
# Evidence of the two branches

The check between the branches compares what each branch added to its own source snapshot. What
it lets through is an artifact that one branch's transition claims and the other branch's source
snapshot already lists; everything else of one branch is apart from the other.
-/

namespace ControlAssurance.Incident

open Lib

variable {R : LifecycleRuntime} {branch other : IncidentBranch} {receiptKeys : List ReceiptKey}

/-- No evidence of the transitions of a branch occurs in the other branch: no event artifact in
its snapshots, transitions and ledgers, no trace and no bundle. Traces are compared with those of
the other branch's source and transitions, not with a `first_delivery_trace_id` in its ledgers. -/
structure IndependentOf (branch other : IncidentBranch) : Prop where
  snapshots : ∀ t ∈ branch.transitions, ∀ id ∈ t.eventArtifactIds, ∀ s ∈ other.snapshots,
    id ∉ s.evidenceIds
  transitions : ∀ t ∈ branch.transitions, ∀ id ∈ t.eventArtifactIds, ∀ t' ∈ other.transitions,
    id ∉ t'.eventArtifactIds
  deliveries : ∀ t ∈ branch.transitions, ∀ id ∈ t.eventArtifactIds, ∀ s ∈ other.snapshots,
    ∀ entry ∈ s.disclosureLedger.entries, entry.firstDeliveryEventDigest ≠ id
  traces : ∀ t ∈ branch.transitions,
    t.traceId ≠ other.first.sourceTraceId ∧ ∀ t' ∈ other.transitions, t'.traceId ≠ t.traceId
  bundles : ∀ id ∈ branch.bundleIds,
    id ≠ other.first.sourcePreventionBundleId ∧ id ∉ other.bundleIds

/-- No event artifact of a branch is in the source evidence of the other. -/
def ApartFromSource (branch other : IncidentBranch) : Prop :=
  Apart branch.eventArtifactIds other.first.evidenceIds

/-! ## Keys -/

variable {t : IncidentTransitionRecord} {id : Digest}

theorem transition_key (ht : t ∈ branch.transitions)
    {key : EventKey} (hkey : key ∈ transitionEventKeys t) : key ∈ branchEventKeys branch :=
  List.mem_append_right _ (List.mem_flatMap.mpr ⟨t, ht, hkey⟩)

theorem artifact_key (ht : t ∈ branch.transitions)
    (hid : id ∈ t.eventArtifactIds) : .artifact id ∈ branchEventKeys branch := by
  refine transition_key ht ?_
  simp only [transitionEventKeys, List.cons_append, List.mem_cons, List.mem_append, List.mem_map]
  exact .inr (.inl ⟨id, hid, rfl⟩)

theorem bundle_key (hid : id ∈ branch.bundleIds) :
    .bundle id ∈ branchEventKeys branch := by
  obtain ⟨t, ht, hbundle⟩ := List.mem_flatMap.mp hid
  refine transition_key ht ?_
  simp only [transitionEventKeys, List.cons_append, List.mem_cons, List.mem_append, List.mem_map,
    List.not_mem_nil, or_false, EventKey.bundle.injEq]
  simp only [List.mem_cons, List.not_mem_nil, or_false] at hbundle
  exact .inr (.inr hbundle)

theorem trace_key (ht : t ∈ branch.transitions) :
    .trace t.traceId ∈ branchEventKeys branch := by
  refine transition_key ht ?_
  simp only [transitionEventKeys, List.cons_append, List.mem_cons, true_or]

/-- Evidence of a snapshot is that of the source or a key of the branch. -/
theorem evidence_key {s : IncidentSnapshot} (hs : s ∈ branch.snapshots) (hid : id ∈ s.evidenceIds) :
    id ∈ branch.first.evidenceIds ∨ .artifact id ∈ branchEventKeys branch := by
  by_cases hsource : id ∈ branch.first.evidenceIds
  · exact .inl hsource
  · right
    rw [← List.cons_head_tail branch.started, List.mem_cons] at hs
    rcases hs with rfl | htail
    · exact absurd hid hsource
    · refine List.mem_append_left _ (List.mem_flatMap.mpr ⟨s, htail, ?_⟩)
      refine List.mem_append_left _ (List.mem_append_left _ (List.mem_map.mpr ⟨id, ?_, rfl⟩))
      exact List.mem_filter.mpr ⟨hid, decide_eq_true hsource⟩

/-- The delivery of a disclosed entry is evidence of the source or of a transition. -/
theorem BranchFacts.delivery_key (h : BranchFacts R branch receiptKeys) {s : IncidentSnapshot}
    (hs : s ∈ branch.snapshots) {entry : DisclosureEntry}
    (hmem : entry ∈ s.disclosureLedger.entries) :
    entry.firstDeliveryEventDigest ∈ branch.first.evidenceIds
      ∨ .artifact entry.firstDeliveryEventDigest ∈ branchEventKeys branch := by
  by_cases hsource : ∀ source ∈ branch.first.disclosureLedger.entries, source.key ≠ entry.key
  · obtain ⟨j, hj⟩ := List.getElem?_of_mem hs
    obtain ⟨i, p, t, s', _, hat, hintroduced⟩ := h.introduced hj entry hmem hsource
    exact .inr (artifact_key (List.mem_of_getElem? hat.2.1) hintroduced.evidenced)
  · push Not at hsource
    obtain ⟨source, hmember, hkey⟩ := hsource
    left
    rw [← (key_fields hkey).2.1]
    exact h.first.disclosed.evidenced source hmember (List.not_mem_nil)

/-! ## The law -/

/-- Branches with no key in common are independent but for the source evidence. -/
theorem independentOf_iff (hother : BranchFacts R other receiptKeys)
    (hbranch : BranchFacts R branch receiptKeys)
    (hsame : branchIdentity branch.first = branchIdentity other.first)
    (hapart : Apart (branchEventKeys branch) (branchEventKeys other)) :
    IndependentOf branch other ↔ ApartFromSource branch other := by
  simp only [branchIdentity, Prod.mk.injEq] at hsame
  obtain ⟨_, hbundle, _, htrace, _⟩ := hsame
  constructor
  · intro hindependent id hid
    obtain ⟨t, ht, hartifact⟩ := List.mem_flatMap.mp hid
    exact hindependent.snapshots t ht id hartifact _ (List.head_mem other.started)
  · intro hsource
    have hfree : ∀ t ∈ branch.transitions, ∀ id ∈ t.eventArtifactIds,
        ¬(id ∈ other.first.evidenceIds ∨ .artifact id ∈ branchEventKeys other) := by
      rintro t ht id hid (hfixture | hkey)
      · exact hsource id (List.mem_flatMap.mpr ⟨t, ht, hid⟩) hfixture
      · exact hapart _ (artifact_key ht hid) hkey
    exact {
      snapshots := fun t ht id hid s hs hevidence =>
        hfree t ht id hid (evidence_key hs hevidence)
      transitions := fun t ht id hid t' ht' hid' => hfree t ht id hid (.inr (artifact_key ht' hid'))
      deliveries := by
        rintro t ht id hid s hs entry hmem rfl
        exact hfree t ht _ hid (hother.delivery_key hs hmem)
      traces := by
        intro t ht
        refine ⟨fun heq => ?_, fun t' ht' heq => ?_⟩
        · exact hbranch.sourceTrace (List.mem_map.mpr ⟨t, ht, heq.trans htrace.symm⟩)
        · exact hapart _ (trace_key ht) (heq ▸ trace_key ht')
      bundles := by
        intro id hid
        refine ⟨fun heq => ?_, fun hid' => hapart _ (bundle_key hid) (bundle_key hid')⟩
        rw [heq, ← hbundle] at hid
        exact hbranch.sourceBundle hid }

theorem apart_symm {α : Type} {l l' : List α} (h : Apart l l') : Apart l' l :=
  fun a ha ha' => h a ha' ha

/-- What the comparison of the branches asks of their keys. -/
theorem verifyPair_keys {actual comparison : IncidentBranch}
    (h : verifyPair actual comparison receiptKeys = .ok ()) :
    branchIdentity actual.first = branchIdentity comparison.first
      ∧ Apart (branchEventKeys actual) (branchEventKeys comparison) := by
  simp only [verifyPair, bind_eq_ok, require_eq_ok] at h
  obtain ⟨_, _, _, _, _, hidentity, _, _, _, _, _, _, _, hkeys, _⟩ := h
  exact ⟨hidentity, hkeys⟩

/-- The comparison whose source snapshot lists the actual branch's first artifact. -/
def sharedSource : IncidentSnapshot where
  toSnapshotFields := { exampleSnapshotFields .matchedComparison 0 with
    evidenceIds := [exampleDigest .actual 1] }
  coherent := by decide

def sharedLifecycle : IncidentLifecycle where
  actual := {
    branchKind := .actual
    snapshots := [exampleIncidentSnapshot .actual 0, exampleIncidentSnapshot .actual 1]
    transitions := [exampleTransition .actual 0]
    started := by simp }
  matchedComparison := {
    branchKind := .matchedComparison
    snapshots := [sharedSource, exampleIncidentSnapshot .matchedComparison 1]
    transitions := [exampleTransition .matchedComparison 0]
    started := by simp }
  currentSnapshotDigest := exampleSnapshotDigest "actual" 2

end ControlAssurance.Incident
