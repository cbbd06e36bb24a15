import ControlAssurance.Incident.Lifecycle
import ControlAssurance.Lib.Neighbours

/-!
# What an accepted branch is

`verifyBranch_ok` turns the loop of `_verify_branch` into facts about single snapshots and about
neighbours, by position. Everything else about lifecycles starts from these facts.
-/

namespace ControlAssurance.Incident

open Lib

variable {R : LifecycleRuntime} {branch : IncidentBranch} {receiptKeys : List ReceiptKey}

/-- The phases between which a transition may lead. -/
inductive PhaseStep (branchKind : BranchKind) (source target : IncidentSnapshot)
    (t : IncidentTransitionRecord) : Prop where
  | ordinary (hfrom : source.phase = t.action.origin) (hto : target.phase = t.action.destination)
      (hfinal : t.action = .finalize → t.finalizationDisposition = some .lifecycleCompleted)
  | noAlert (hkind : branchKind = .actual) (hfrom : source.phase = .detectionClosed)
      (hto : target.phase = .finalized) (hfinal : t.action = .finalize)
      (hdisposition : t.finalizationDisposition = some .noRelatedAlert)
      (hsource : source.lastAlertId = none) (htarget : target.lastAlertId = none)

/-- A ledger that continues the prior entries with admitted ones. -/
structure LedgerStep (prior : List DisclosureEntry) (current : DisclosureLedger)
    (receiptKeys : List ReceiptKey) (evidenceIds : List Digest) (observedAfter : Option Int)
    (observedBefore : Int) : Prop where
  kept : ∀ entry ∈ prior, (current.entry? entry.recordToken).map (·.key) = some entry.key
  admitted : ∀ entry ∈ current.entries, entry.recordToken ∉ prior.map (·.recordToken) →
    entry.key ∈ receiptKeys
  evidenced : ∀ entry ∈ current.entries, entry.recordToken ∉ prior.map (·.recordToken) →
    entry.firstDeliveryEventDigest ∈ evidenceIds
  intime : ∀ entry ∈ current.entries, entry.recordToken ∉ prior.map (·.recordToken) →
    (∀ after ∈ observedAfter, after ≤ entry.firstObservedAt.utc)
      ∧ entry.firstObservedAt.utc ≤ observedBefore

/-- What holds of the sessions once they were rotated. -/
structure Rotated (snapshot : IncidentSnapshot) : Prop where
  revoked : snapshot.compromisedSessionState = .revoked
  replaced : snapshot.replacementSessionDigest ≠ none
  active : snapshot.replacementSessionState = .active
  entitled : snapshot.replacementEntitlementDigest = some snapshot.entitlementSetDigest
  released : snapshot.quarantineState = .normal

/-- The transition that leads to the snapshot at an index. -/
def IncidentBranch.transitionInto (branch : IncidentBranch) (index : Nat) :
    Option IncidentTransitionRecord :=
  if index = 0 then none else branch.transitions[index - 1]?

/-- A snapshot of an accepted branch. -/
structure SnapshotFacts (branch : IncidentBranch) (index : Nat) (snapshot : IncidentSnapshot) :
    Prop where
  numbered : snapshot.ordinal.val = index + 1
  branchId : snapshot.branchId = branch.first.branchId
  identity : branchIdentity snapshot = branchIdentity branch.first
  distinct : snapshot.replacementSessionDigest ≠ some snapshot.compromisedSessionDigest
  before : snapshot.phase.rank < LifecyclePhase.sessionRotated.rank →
    snapshot.replacementSessionDigest = none
  rotated : LifecyclePhase.sessionRotated.rank ≤ snapshot.phase.rank →
    isNoAlertFinal (branch.transitionInto index) snapshot = false → Rotated snapshot

/-- Two neighbouring snapshots of an accepted branch and the transition between them. -/
structure StepFacts (R : LifecycleRuntime) (branch : IncidentBranch)
    (receiptKeys : List ReceiptKey) (previous snapshot : IncidentSnapshot)
    (t : IncidentTransitionRecord) : Prop where
  linked : ∃ digest, incidentSnapshotDigest R previous = .ok digest
    ∧ snapshot.previousSnapshotDigest = some digest
  addressed : ∃ digest, incidentSnapshotDigest R snapshot = .ok digest
  bound : ∀ id ∈ t.eventArtifactIds, id ∈ snapshot.evidenceIds
  phase : PhaseStep branch.branchKind previous snapshot t
  entitlement : snapshot.entitlementSetDigest ≠ previous.entitlementSetDigest →
    t.action = .applyRestore
  alert : snapshot.lastAlertId ≠ previous.lastAlertId →
    t.action = .closeDetection ∧ previous.lastAlertId = none ∧ snapshot.lastAlertId ≠ none
  session : snapshot.compromisedSessionState ≠ previous.compromisedSessionState →
    t.action = .probeResponse ∧ previous.compromisedSessionState = .active
      ∧ snapshot.compromisedSessionState = .revoked
  disclosed : LedgerStep previous.disclosureLedger.entries snapshot.disclosureLedger receiptKeys
    t.eventArtifactIds (some t.startedAt.utc) t.endedAt.utc
  replacement : ∀ digest, previous.replacementSessionDigest = some digest →
    snapshot.replacementSessionDigest = some digest

/-- The source-bound snapshot of an accepted branch. -/
structure FirstFacts (branch : IncidentBranch) (receiptKeys : List ReceiptKey) : Prop where
  phase : branch.first.phase = .sourceBound
  previous : branch.first.previousSnapshotDigest = none
  session : branch.first.compromisedSessionState = .active
  alert : branch.first.lastAlertId = none
  disclosed : LedgerStep [] branch.first.disclosureLedger receiptKeys branch.first.evidenceIds none
    branch.first.observedAt.utc

structure BranchFacts (R : LifecycleRuntime) (branch : IncidentBranch)
    (receiptKeys : List ReceiptKey) : Prop where
  first : FirstFacts branch receiptKeys
  length : branch.transitions.length + 1 = branch.snapshots.length
  snapshot : ∀ i s, branch.snapshots[i]? = some s → SnapshotFacts branch i s
  step : ∀ i previous s t, branch.snapshots[i]? = some previous →
    branch.snapshots[i + 1]? = some s → branch.transitions[i]? = some t →
    StepFacts R branch receiptKeys previous s t
  sourceTrace : branch.first.sourceTraceId ∉ branch.transitions.map (·.traceId)
  sourceBundle : branch.first.sourcePreventionBundleId ∉ branch.bundleIds
  sourceEvidence : ∀ id ∈ branch.first.evidenceIds, id ∉ branch.eventArtifactIds

/-! ## Reading the checks -/

theorem verifyNewDisclosure_ok {evidenceIds : List Digest} {after : Option Int} {before : Int}
    {entry : DisclosureEntry}
    (h : verifyNewDisclosure receiptKeys evidenceIds after before entry = .ok ()) :
    entry.key ∈ receiptKeys ∧ entry.firstDeliveryEventDigest ∈ evidenceIds
      ∧ (∀ a ∈ after, a ≤ entry.firstObservedAt.utc) ∧ entry.firstObservedAt.utc ≤ before := by
  simp only [verifyNewDisclosure, bind_eq_ok, require_eq_ok] at h
  obtain ⟨_, hkey, _, hevidence, _, hafter, hbefore⟩ := h
  exact ⟨hkey, hevidence, fun a ha => not_lt.mp (hafter a ha), not_lt.mp hbefore⟩

theorem verifyDisclosureDelta_ok {prior : List DisclosureEntry} {current : DisclosureLedger}
    {evidenceIds : List Digest} {after : Option Int} {before : Int}
    (h : verifyDisclosureDelta prior current receiptKeys evidenceIds after before = .ok ()) :
    LedgerStep prior current receiptKeys evidenceIds after before := by
  simp only [verifyDisclosureDelta, bind_eq_ok, require_eq_ok, forM_eq_ok] at h
  obtain ⟨_, _, _, hkept, hnew⟩ := h
  have hfresh : ∀ entry ∈ current.entries, entry.recordToken ∉ prior.map (·.recordToken) →
      verifyNewDisclosure receiptKeys evidenceIds after before entry = .ok () := by
    intro entry hmem htoken
    exact hnew entry (List.mem_filter.mpr ⟨hmem, by simpa using htoken⟩)
  exact {
    kept := hkept
    admitted := fun entry hmem htoken => (verifyNewDisclosure_ok (hfresh entry hmem htoken)).1
    evidenced := fun entry hmem htoken => (verifyNewDisclosure_ok (hfresh entry hmem htoken)).2.1
    intime := fun entry hmem htoken => (verifyNewDisclosure_ok (hfresh entry hmem htoken)).2.2 }

variable {t : IncidentTransitionRecord} {previous snapshot : IncidentSnapshot} {i : Nat}

theorem verifyPhaseTransition_ok {kind : BranchKind} {source target : IncidentSnapshot}
    (h : verifyPhaseTransition kind source target t = .ok ()) :
    PhaseStep kind source target t := by
  simp only [verifyPhaseTransition, bind_eq_ok, require_eq_ok] at h
  obtain ⟨_, _, _, hto, h⟩ := h
  by_cases hfrom : source.phase = t.action.origin
  · rw [if_pos hfrom, require_eq_ok] at h
    exact .ordinary hfrom hto h
  · rw [if_neg hfrom, require_eq_ok] at h
    obtain ⟨hkind, hsource, htarget, hfinal, hdisposition, halert, halert'⟩ := h
    exact .noAlert hkind hsource htarget hfinal hdisposition halert halert'

theorem verifyFirst_ok (h : verifyFirst branch receiptKeys = .ok ()) :
    FirstFacts branch receiptKeys
      ∧ branch.transitions.length + 1 = branch.snapshots.length := by
  simp only [verifyFirst, bind_eq_ok, require_eq_ok] at h
  obtain ⟨_, _, _, hbegin, _, hprevious, _, hsession, _, _, _, halert, _, hlength, _, _,
    hdisclosed⟩ := h
  have hpositive : 0 < branch.snapshots.length := List.length_pos_of_ne_nil branch.started
  refine ⟨{
    phase := by
      by_contra hphase
      exact hbegin (.inr hphase)
    previous := hprevious
    session := hsession
    alert := halert
    disclosed := verifyDisclosureDelta_ok hdisclosed }, ?_⟩
  omega

theorem verifySessions_ok {noAlertFinal : Bool}
    (h : verifySessions noAlertFinal snapshot = .ok ()) :
    (snapshot.phase.rank < LifecyclePhase.sessionRotated.rank →
        snapshot.replacementSessionDigest = none)
      ∧ (LifecyclePhase.sessionRotated.rank ≤ snapshot.phase.rank → noAlertFinal = false →
        Rotated snapshot) := by
  simp only [verifySessions, bind_eq_ok, require_eq_ok] at h
  obtain ⟨_, hbefore, h⟩ := h
  refine ⟨fun hrank => ?_, fun hrank hfinal => ?_⟩
  · by_contra hreplaced
    exact hbefore ⟨hrank, hreplaced⟩
  · rw [if_pos ⟨hrank, hfinal⟩] at h
    simp only [bind_eq_ok, require_eq_ok] at h
    obtain ⟨_, hrevoked, _, hreplaced, _, hactive, _, hentitled, hreleased⟩ := h
    exact ⟨hrevoked, hreplaced, hactive, hentitled, hreleased⟩

/-- A round of the loop, without the step into the snapshot. -/
theorem verifySnapshot_ok {track track' : ReplacementTrack}
    {index : Nat} (h : verifySnapshot R branch receiptKeys track (snapshot, index) = .ok track') :
    SnapshotFacts branch index snapshot ∧ trackReplacement track snapshot = .ok track'
      ∧ (index ≠ 0 → verifyStep R branch receiptKeys snapshot index = .ok ()) := by
  simp only [verifySnapshot, bind_eq_ok, require_eq_ok] at h
  obtain ⟨_, hnumbered, _, ⟨_, hbranchId⟩, _, hidentity, _, hdistinct, next, htrack, _, hsessions,
    h⟩ := h
  obtain ⟨hbefore, hrotated⟩ := verifySessions_ok hsessions
  have hfacts : SnapshotFacts branch index snapshot := {
    numbered := hnumbered
    branchId := hbranchId
    identity := hidentity
    distinct := by simpa [verifyReplacement] using hdistinct
    before := hbefore
    rotated := hrotated }
  by_cases hindex : index = 0
  · rw [if_pos hindex, pure_eq_ok] at h
    subst h
    exact ⟨hfacts, htrack, fun hne => absurd hindex hne⟩
  · rw [if_neg hindex] at h
    simp only [bind_eq_ok, pure_eq_ok] at h
    obtain ⟨_, hstep, rfl⟩ := h
    exact ⟨hfacts, htrack, fun _ => hstep⟩

theorem trackReplacement_ok {track track' : ReplacementTrack}
    (h : trackReplacement track snapshot = .ok track') :
    (∀ digest, track.replacement = some digest → snapshot.replacementSessionDigest = some digest)
      ∧ track' = ⟨snapshot.replacementSessionDigest <|> track.replacement,
        snapshot.replacementSessionState⟩ := by
  simp only [trackReplacement, bind_eq_ok, require_eq_ok, pure_eq_ok] at h
  obtain ⟨_, hkept, _, _, _, _, htrack⟩ := h
  refine ⟨fun digest hdigest => ?_, htrack.symm⟩
  rw [hkept (by simp [hdigest]), hdigest]

theorem verifyLinks_ok {first : IncidentSnapshot} {index : Nat} {previousTransition : Option Digest}
    (h : verifyLinks R first previous snapshot index t previousTransition = .ok ()) :
    (∃ digest, incidentSnapshotDigest R previous = .ok digest
        ∧ snapshot.previousSnapshotDigest = some digest)
      ∧ (∃ digest, incidentSnapshotDigest R snapshot = .ok digest)
      ∧ ∀ id ∈ t.eventArtifactIds, id ∈ snapshot.evidenceIds := by
  simp only [verifyLinks, bind_eq_ok, require_eq_ok] at h
  obtain ⟨previousDigest, hprevious, currentDigest, hcurrent, _, hlinked, _, _, _, _, _, _, _, _,
    _, _, _, _, _, _, _, hbound, _⟩ := h
  exact ⟨⟨previousDigest, hprevious, hlinked⟩, ⟨currentDigest, hcurrent⟩, fun _ hid => hbound hid⟩

/-- The step into a snapshot, from its neighbour; the replacement is tracked by the loop. -/
theorem verifyStep_ok (hprevious : branch.snapshots[i]? = some previous)
    (ht : branch.transitions[i]? = some t)
    (hreplacement : ∀ digest, previous.replacementSessionDigest = some digest →
      snapshot.replacementSessionDigest = some digest)
    (h : verifyStep R branch receiptKeys snapshot (i + 1) = .ok ()) :
    StepFacts R branch receiptKeys previous snapshot t := by
  simp only [verifyStep, transitionAt, Nat.add_sub_cancel, bind_eq_ok, expect_eq_ok] at h
  obtain ⟨_, hprevious', _, ht', _, _, _, hlinks, hchanges⟩ := h
  obtain rfl := Option.some.inj (hprevious.symm.trans hprevious')
  obtain rfl := Option.some.inj (ht.symm.trans ht')
  obtain ⟨hlinked, haddressed, hbound⟩ := verifyLinks_ok hlinks
  simp only [verifyChanges, bind_eq_ok, require_eq_ok] at hchanges
  obtain ⟨_, hphase, _, hentitlement, _, halert, _, hsession, _, hdisclosed, _⟩ := hchanges
  exact {
    linked := hlinked
    addressed := haddressed
    bound := hbound
    phase := verifyPhaseTransition_ok hphase
    entitlement := hentitlement
    alert := halert
    session := hsession
    disclosed := verifyDisclosureDelta_ok hdisclosed
    replacement := hreplacement }

theorem verifyReuse_ok (h : verifyReuse branch = .ok ()) :
    branch.first.sourceTraceId ∉ branch.transitions.map (·.traceId)
      ∧ branch.first.sourcePreventionBundleId ∉ branch.bundleIds
      ∧ ∀ id ∈ branch.first.evidenceIds, id ∉ branch.eventArtifactIds := by
  simp only [verifyReuse, bind_eq_ok, require_eq_ok] at h
  obtain ⟨_, _, _, _, _, _, _, _, _, htrace, _, hbundle, hevidence⟩ := h
  exact ⟨htrace, hbundle, fun id hid => hevidence id (List.mem_append_left _ hid)⟩

theorem verifyBranch_ok (h : verifyBranch R branch receiptKeys = .ok ()) :
    BranchFacts R branch receiptKeys := by
  simp only [verifyBranch, bind_eq_ok] at h
  obtain ⟨_, hfirst, _, hloop, hreuse⟩ := h
  obtain ⟨hfirst, hlength⟩ := verifyFirst_ok hfirst
  obtain ⟨htrace, hbundle, hevidence⟩ := verifyReuse_ok hreuse
  obtain ⟨hzero, hneighbours⟩ := foldlM_neighbours hloop
  -- the rounds are those of the snapshots with their positions
  have hround : ∀ (i : Nat) (s : IncidentSnapshot), branch.snapshots[i]? = some s →
      branch.snapshots.zipIdx[i]? = some (s, i) := by
    intro i s hs
    rw [List.getElem?_zipIdx, hs]
    simp
  have hpair : ∀ (i : Nat) (previous s : IncidentSnapshot), branch.snapshots[i]? = some previous →
      branch.snapshots[i + 1]? = some s → ∃ t₀ t t',
        verifySnapshot R branch receiptKeys t₀ (previous, i) = .ok t
          ∧ verifySnapshot R branch receiptKeys t (s, i + 1) = .ok t' :=
    fun i previous s hprevious hs =>
      hneighbours i _ _ (hround i previous hprevious) (hround (i + 1) s hs)
  exact {
    first := hfirst
    length := hlength
    snapshot := by
      intro i s hs
      cases i with
      | zero =>
        obtain ⟨t, ht⟩ := hzero _ (hround 0 s hs)
        exact (verifySnapshot_ok ht).1
      | succ i =>
        have hi : i < branch.snapshots.length := by
          have := (List.getElem?_eq_some_iff.mp hs).1
          omega
        obtain ⟨_, _, _, _, ht⟩ := hpair i _ s (List.getElem?_eq_getElem hi) hs
        exact (verifySnapshot_ok ht).1
    step := by
      intro i previous s t hprevious hs ht
      obtain ⟨track₀, track, track', hbefore, hafter⟩ := hpair i previous s hprevious hs
      obtain ⟨_, htrack, _⟩ := verifySnapshot_ok hbefore
      obtain ⟨_, htrack', hstep⟩ := verifySnapshot_ok hafter
      obtain ⟨_, rfl⟩ := trackReplacement_ok htrack
      refine verifyStep_ok hprevious ht (fun digest hdigest => ?_) (hstep (Nat.succ_ne_zero i))
      exact (trackReplacement_ok htrack').1 digest (by simp [hdigest])
    sourceTrace := htrace
    sourceBundle := hbundle
    sourceEvidence := hevidence }

/-! ## Positions -/

theorem IncidentBranch.getElem?_zero (branch : IncidentBranch) :
    branch.snapshots[0]? = some branch.first := by
  rw [IncidentBranch.first, List.head_eq_getElem, List.getElem?_eq_getElem]

/-- Between two neighbours there is a transition. -/
theorem BranchFacts.transition (h : BranchFacts R branch receiptKeys)
    {s : IncidentSnapshot} (hs : branch.snapshots[i + 1]? = some s) :
    ∃ t, branch.transitions[i]? = some t := by
  have hi := (List.getElem?_eq_some_iff.mp hs).1
  have hlength := h.length
  have ht : i < branch.transitions.length := by omega
  exact ⟨_, List.getElem?_eq_getElem ht⟩

/-- A transition has a snapshot before it and one after it. -/
theorem BranchFacts.around (h : BranchFacts R branch receiptKeys)
    (ht : branch.transitions[i]? = some t) :
    ∃ previous s, branch.snapshots[i]? = some previous ∧ branch.snapshots[i + 1]? = some s
      ∧ StepFacts R branch receiptKeys previous s t := by
  have hi := (List.getElem?_eq_some_iff.mp ht).1
  have hlength := h.length
  have hbefore : i < branch.snapshots.length := by omega
  have hafter : i + 1 < branch.snapshots.length := by omega
  have hprevious := List.getElem?_eq_getElem hbefore
  have hs := List.getElem?_eq_getElem hafter
  exact ⟨_, _, hprevious, hs, h.step i _ _ t hprevious hs ht⟩

/-- The step between two neighbours. -/
theorem BranchFacts.between (h : BranchFacts R branch receiptKeys)
    {s : IncidentSnapshot} (hprevious : branch.snapshots[i]? = some previous)
    (hs : branch.snapshots[i + 1]? = some s) :
    ∃ t, branch.transitions[i]? = some t ∧ StepFacts R branch receiptKeys previous s t := by
  obtain ⟨t, ht⟩ := h.transition hs
  exact ⟨t, ht, h.step i previous s t hprevious hs ht⟩

/-- Acceptance of a lifecycle: both branches, their comparison and the current snapshot. -/
theorem verifyLifecycle_ok {lifecycle : IncidentLifecycle}
    {receipts : List AdmittedReceiptEvidence} {verified : VerifiedLifecycle}
    (h : verifyLifecycle R lifecycle receipts = .ok verified) :
    lifecycle.actual.branchKind = .actual
      ∧ lifecycle.matchedComparison.branchKind = .matchedComparison
      ∧ BranchFacts R lifecycle.actual (receipts.map (·.key))
      ∧ BranchFacts R lifecycle.matchedComparison (receipts.map (·.key))
      ∧ verifyPair lifecycle.actual lifecycle.matchedComparison (receipts.map (·.key)) = .ok ()
      ∧ ∃ digest, verifyCurrent R lifecycle = .ok digest := by
  simp only [verifyLifecycle, bind_eq_ok, require_eq_ok] at h
  obtain ⟨_, hactual, _, hcomparison, _, _, _, hbranch, _, hbranch', _, hpair, digest, hcurrent,
    _⟩ := h
  exact ⟨hactual, hcomparison, verifyBranch_ok hbranch, verifyBranch_ok hbranch', hpair, digest,
    hcurrent⟩

end ControlAssurance.Incident
