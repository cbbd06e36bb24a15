import ControlAssurance.Incident.BranchFacts
import Mathlib.Data.List.Infix

/-!
# The declared process

The actions of an accepted branch are those of the response process in order, after any number of
source bindings, or end early with `no_related_alert`. `BranchFacts` gives each transition as a
`PhaseStep`; read backwards from the end of the branch, the steps left are a prefix of what the
process still has after the phase that was reached.
-/

namespace ControlAssurance.Incident

open Lib

variable {R : LifecycleRuntime} {branch : IncidentBranch} {receiptKeys : List ReceiptKey}

/-- An action and how it finalizes. -/
abbrev ProcessStep := LifecycleAction × Option FinalizationDisposition

def responseProcess : List ProcessStep :=
  [(.closeDetection, none), (.probeResponse, none), (.applyRestore, none), (.rotateSession, none),
    (.retest, none), (.finalize, some .lifecycleCompleted)]

def noAlertProcess : List ProcessStep :=
  [(.closeDetection, none), (.finalize, some .noRelatedAlert)]

def IncidentTransitionRecord.step (t : IncidentTransitionRecord) : ProcessStep :=
  (t.action, t.finalizationDisposition)

def IncidentBranch.steps (branch : IncidentBranch) : List ProcessStep :=
  branch.transitions.map (·.step)

/-- No snapshot names an alert. -/
def IncidentBranch.AlertFree (branch : IncidentBranch) : Prop :=
  ∀ s ∈ branch.snapshots, s.lastAlertId = none

/-- The steps of a branch: source bindings, then the process as far as it went or the early end. -/
def FollowsProcess (branch : IncidentBranch) : Prop :=
  ∃ bindings rest, branch.steps = List.replicate bindings (.bindSource, none) ++ rest
    ∧ (rest <+: responseProcess
      ∨ (branch.branchKind = .actual ∧ branch.AlertFree ∧ rest = noAlertProcess))

variable {t : IncidentTransitionRecord} {i j : Nat} {s s' : IncidentSnapshot}

/-- Only `finalize` carries a disposition. -/
theorem disposition_none (h : t.action ≠ .finalize) :
    t.finalizationDisposition = none := by
  have hcoherent := t.coherent
  simp only [TransitionFields.validate, bind_eq_ok, require_eq_ok] at hcoherent
  obtain ⟨_, _, _, _, _, _, _, _, _, _, hother⟩ := hcoherent
  exact (hother h).1

/-! ## Phases along a branch -/

/-- What may follow a snapshot of a phase that is past the source. -/
def FollowsFrom (branch : IncidentBranch) (phase : LifecyclePhase) (rest : List ProcessStep) :
    Prop :=
  rest <+: responseProcess.drop phase.rank
    ∨ (branch.branchKind = .actual ∧ branch.AlertFree ∧ phase = .detectionClosed
      ∧ rest = [(.finalize, some .noRelatedAlert)])

/-- An ordinary step takes the next step of the process. -/
theorem ordinary_next (hbind : t.action ≠ .bindSource)
    (hfinal : t.action = .finalize → t.finalizationDisposition = some .lifecycleCompleted) :
    responseProcess.drop t.action.origin.rank
      = t.step :: responseProcess.drop t.action.destination.rank := by
  have hnone := disposition_none (t := t)
  revert hfinal hnone hbind
  rw [IncidentTransitionRecord.step]
  cases t.action with
  | bindSource => exact fun hbind => absurd rfl hbind
  | finalize =>
    intro _ hfinal _
    rw [hfinal rfl]
    rfl
  | closeDetection | probeResponse | applyRestore | rotateSession | retest =>
    intro _ _ hnone
    rw [hnone (by decide)]
    rfl

/-- An alert once named is named by every later snapshot, so none before an alert-free one. -/
theorem BranchFacts.alert_persists (h : BranchFacts R branch receiptKeys)
    (hij : i ≤ j) (hs : branch.snapshots[i]? = some s)
    (hs' : branch.snapshots[j]? = some s') (halert : s.lastAlertId ≠ none) :
    s'.lastAlertId = s.lastAlertId := by
  refine neighbours_from (P := fun _ z => z.lastAlertId = s.lastAlertId) ?_ hij hs hs' rfl
  intro k x y hx hy hsame
  obtain ⟨t, _, hstep⟩ := h.between hx hy
  by_contra hchanged
  have hne : y.lastAlertId ≠ x.lastAlertId := fun heq => hchanged (heq.trans hsame)
  exact halert (hsame ▸ (hstep.alert hne).2.1)

/-- Nothing follows a finalized snapshot. -/
theorem BranchFacts.finalized_last (h : BranchFacts R branch receiptKeys)
    (hs : branch.snapshots[i]? = some s) (hphase : s.phase = .finalized) :
    branch.transitions.length ≤ i := by
  by_contra hlt
  obtain ⟨t, ht⟩ : ∃ t, branch.transitions[i]? = some t :=
    ⟨_, List.getElem?_eq_getElem (not_le.mp hlt)⟩
  obtain ⟨previous, _, hprevious, _, hstep⟩ := h.around ht
  obtain rfl := Option.some.inj (hs.symm.trans hprevious)
  cases hstep.phase with
  | ordinary hfrom =>
    rw [hphase] at hfrom
    generalize t.action = action at hfrom
    cases action <;> cases hfrom
  | noAlert _ hfrom =>
    rw [hphase] at hfrom
    cases hfrom

/-- The alert-free end: no snapshot at or before it names an alert, and none comes after. -/
theorem BranchFacts.alertFree (h : BranchFacts R branch receiptKeys)
    (hs : branch.snapshots[i]? = some s) (hphase : s.phase = .finalized)
    (halert : s.lastAlertId = none) : branch.AlertFree := by
  intro x hx
  obtain ⟨j, hj, rfl⟩ := List.getElem_of_mem hx
  have hlast := h.finalized_last hs hphase
  have hlength := h.length
  by_contra hne
  have hsame := h.alert_persists (by omega) (List.getElem?_eq_getElem hj) hs hne
  exact hne (hsame ▸ halert)

theorem steps_drop (ht : branch.transitions[i]? = some t) :
    branch.steps.drop i = t.step :: branch.steps.drop (i + 1) := by
  have hi := (List.getElem?_eq_some_iff.mp ht).1
  rw [IncidentBranch.steps, ← List.map_drop, ← List.map_drop, List.drop_eq_getElem_cons hi,
    List.map_cons, (List.getElem?_eq_some_iff.mp ht).2]

theorem steps_drop_nil (h : branch.transitions.length ≤ i) : branch.steps.drop i = [] := by
  rw [IncidentBranch.steps, ← List.map_drop, List.drop_eq_nil_of_le h, List.map_nil]

/-- Past the source binding, the steps left continue the process. By induction on their number. -/
theorem BranchFacts.follows_from (h : BranchFacts R branch receiptKeys) :
    ∀ n i s, branch.transitions.length - i = n → branch.snapshots[i]? = some s →
      s.phase ≠ .sourceBound → FollowsFrom branch s.phase (branch.steps.drop i)
  | 0, i, s, hn, _, _ => by
    rw [steps_drop_nil (Nat.sub_eq_zero_iff_le.mp hn)]
    exact .inl (List.nil_prefix)
  | n + 1, i, s, hn, hs, hsource => by
    have hi : i < branch.transitions.length := by omega
    have ht := List.getElem?_eq_getElem hi
    obtain ⟨previous, next, hprevious, hnext, hstep⟩ := h.around ht
    obtain rfl := Option.some.inj (hs.symm.trans hprevious)
    rw [steps_drop ht]
    cases hstep.phase with
    | noAlert hkind hfrom hto hfinal hdisposition _ htarget =>
      have hlast := h.finalized_last hnext hto
      have hfree := h.alertFree hnext hto htarget
      refine .inr ⟨hkind, hfree, hfrom, ?_⟩
      rw [steps_drop_nil hlast, IncidentTransitionRecord.step, hfinal, hdisposition]
    | ordinary hfrom hto hfinal =>
      have hbind : branch.transitions[i].action ≠ .bindSource := by
        intro hbind
        rw [hbind] at hfrom
        exact hsource hfrom
      have hpast : next.phase ≠ .sourceBound := by
        rw [hto]
        revert hbind
        cases branch.transitions[i].action <;> simp [LifecycleAction.destination]
      rcases h.follows_from n (i + 1) next (by omega) hnext hpast with hrest | hrest
      · left
        rw [hfrom, ordinary_next hbind hfinal, List.cons_prefix_cons, ← hto]
        exact ⟨rfl, hrest⟩
      · obtain ⟨hkind, hfree, hclosed, hrest⟩ := hrest
        -- only `close_detection` leads to `detection_closed`, from the source
        exfalso
        rw [hto] at hclosed
        rw [hfrom] at hsource
        revert hclosed hsource
        cases branch.transitions[i].action <;> simp [LifecycleAction.destination, LifecycleAction.origin]

/-- From the source binding on: further bindings, then the process. -/
theorem BranchFacts.follows_source (h : BranchFacts R branch receiptKeys) :
    ∀ n i s, branch.transitions.length - i = n → branch.snapshots[i]? = some s →
      s.phase = .sourceBound → ∃ bindings rest,
        branch.steps.drop i = List.replicate bindings (.bindSource, none) ++ rest
          ∧ (rest <+: responseProcess
            ∨ (branch.branchKind = .actual ∧ branch.AlertFree ∧ rest = noAlertProcess))
  | 0, i, s, hn, _, _ => by
    rw [steps_drop_nil (Nat.sub_eq_zero_iff_le.mp hn)]
    exact ⟨0, [], rfl, .inl (List.nil_prefix)⟩
  | n + 1, i, s, hn, hs, hsource => by
    have hi : i < branch.transitions.length := by omega
    have ht := List.getElem?_eq_getElem hi
    obtain ⟨previous, next, hprevious, hnext, hstep⟩ := h.around ht
    obtain rfl := Option.some.inj (hs.symm.trans hprevious)
    rw [steps_drop ht]
    cases hstep.phase with
    | noAlert _ hfrom =>
      rw [hsource] at hfrom
      cases hfrom
    | ordinary hfrom hto hfinal =>
      by_cases hbind : branch.transitions[i].action = .bindSource
      · have hnextSource : next.phase = .sourceBound := by
          rw [hto, hbind]
          rfl
        obtain ⟨bindings, rest, hsteps, hrest⟩ :=
          h.follows_source n (i + 1) next (by omega) hnext hnextSource
        refine ⟨bindings + 1, rest, ?_, hrest⟩
        rw [hsteps, List.replicate_succ, List.cons_append, IncidentTransitionRecord.step, hbind,
          disposition_none (by rw [hbind]; decide)]
      · have hclose : branch.transitions[i].action = .closeDetection := by
          rw [hsource] at hfrom
          revert hbind hfrom
          cases branch.transitions[i].action <;> simp [LifecycleAction.origin]
        have hphase : next.phase = .detectionClosed := by
          rw [hto, hclose]
          rfl
        have hclosed : branch.transitions[i].step = (.closeDetection, none) := by
          rw [IncidentTransitionRecord.step, hclose, disposition_none (by rw [hclose]; decide)]
        refine ⟨0, branch.transitions[i].step :: branch.steps.drop (i + 1), rfl, ?_⟩
        rcases h.follows_from n (i + 1) next (by omega) hnext (by rw [hphase]; decide) with
          hrest | ⟨hkind, hfree, _, hrest⟩
        · left
          rw [hphase] at hrest
          rw [hclosed]
          exact List.cons_prefix_cons.mpr ⟨rfl, hrest⟩
        · right
          refine ⟨hkind, hfree, ?_⟩
          rw [hclosed, hrest]
          rfl

theorem BranchFacts.follows (h : BranchFacts R branch receiptKeys) : FollowsProcess branch := by
  obtain ⟨bindings, rest, hsteps, hrest⟩ :=
    h.follows_source _ 0 branch.first rfl branch.getElem?_zero h.first.phase
  exact ⟨bindings, rest, hsteps, hrest⟩

/-! ## Sessions, alert and entitlement -/

/-- Two neighbouring snapshots and the transition between them. -/
def IncidentBranch.StepAt (branch : IncidentBranch) (i : Nat) (previous : IncidentSnapshot)
    (t : IncidentTransitionRecord) (s : IncidentSnapshot) : Prop :=
  branch.snapshots[i]? = some previous ∧ branch.transitions[i]? = some t
    ∧ branch.snapshots[i + 1]? = some s

theorem BranchFacts.stepAt (h : BranchFacts R branch receiptKeys) {previous : IncidentSnapshot}
    (hat : branch.StepAt i previous t s) : StepFacts R branch receiptKeys previous s t :=
  h.step i previous s t hat.1 hat.2.2 hat.2.1

/-- A finalizing transition is the last one. -/
theorem BranchFacts.finalize_last (h : BranchFacts R branch receiptKeys)
    (ht : branch.transitions[i]? = some t)
    (hfinal : t.action = .finalize) : i + 1 = branch.transitions.length := by
  obtain ⟨_, s, _, hs, hstep⟩ := h.around ht
  have hi := (List.getElem?_eq_some_iff.mp ht).1
  have hphase : s.phase = .finalized := by
    cases hstep.phase with
    | ordinary _ hto =>
      rw [hto, hfinal]
      rfl
    | noAlert _ _ hto => exact hto
  have hlast := h.finalized_last hs hphase
  omega

/-- The compromised session is active or revoked, and stays revoked. -/
theorem BranchFacts.session_step (h : BranchFacts R branch receiptKeys)
    {x y : IncidentSnapshot} (hx : branch.snapshots[i]? = some x)
    (hy : branch.snapshots[i + 1]? = some y) :
    y.compromisedSessionState = x.compromisedSessionState
      ∨ (x.compromisedSessionState = .active ∧ y.compromisedSessionState = .revoked) := by
  obtain ⟨t, _, hstep⟩ := h.between hx hy
  by_cases hsame : y.compromisedSessionState = x.compromisedSessionState
  · exact .inl hsame
  · exact .inr (hstep.session hsame).2

theorem BranchFacts.session_known (h : BranchFacts R branch receiptKeys)
    (hs : branch.snapshots[i]? = some s) :
    s.compromisedSessionState = .active ∨ s.compromisedSessionState = .revoked := by
  refine neighbours_all (P := fun _ z => z.compromisedSessionState = .active
    ∨ z.compromisedSessionState = .revoked) (fun x hx => ?_) (fun k x y hx hy hknown => ?_) hs
  · obtain rfl := Option.some.inj (branch.getElem?_zero.symm.trans hx)
    exact .inl h.first.session
  · rcases h.session_step hx hy with hsame | ⟨_, hrevoked⟩
    · rwa [hsame]
    · exact .inr hrevoked

theorem BranchFacts.session_stays_revoked (h : BranchFacts R branch receiptKeys)
    (hij : i ≤ j) (hs : branch.snapshots[i]? = some s)
    (hs' : branch.snapshots[j]? = some s') (hrevoked : s.compromisedSessionState = .revoked) :
    s'.compromisedSessionState = .revoked := by
  refine neighbours_from (P := fun _ z => z.compromisedSessionState = .revoked) ?_ hij hs hs' hrevoked
  intro k x y hx hy hx'
  rcases h.session_step hx hy with hsame | ⟨_, hy'⟩
  · rw [hsame, hx']
  · exact hy'

/-- Active up to some point and revoked from there on. -/
theorem BranchFacts.session_split (h : BranchFacts R branch receiptKeys) :
    ∃ point, ∀ (i : Nat) (s : IncidentSnapshot), branch.snapshots[i]? = some s →
      s.compromisedSessionState = if i < point then .active else .revoked := by
  by_cases hany : ∃ (i : Nat) (s : IncidentSnapshot),
      branch.snapshots[i]? = some s ∧ s.compromisedSessionState = .revoked
  · -- the point is the first revoked snapshot
    classical
    obtain ⟨s₀, hs₀, hrevoked⟩ := Nat.find_spec hany
    refine ⟨Nat.find hany, fun i s hs => ?_⟩
    by_cases hi : i < Nat.find hany
    · rw [if_pos hi]
      rcases h.session_known hs with hactive | hearly
      · exact hactive
      · exact absurd ⟨s, hs, hearly⟩ (Nat.find_min hany hi)
    · rw [if_neg hi]
      exact h.session_stays_revoked (not_lt.mp hi) hs₀ hs hrevoked
  · refine ⟨branch.snapshots.length, fun i s hs => ?_⟩
    rw [if_pos (List.getElem?_eq_some_iff.mp hs).1]
    rcases h.session_known hs with hactive | hrevoked
    · exact hactive
    · exact absurd ⟨i, s, hs, hrevoked⟩ hany

/-- An alert is set once: a second change would need it unset again. -/
theorem BranchFacts.alert_once (h : BranchFacts R branch receiptKeys)
    {p p' : IncidentSnapshot} {t' : IncidentTransitionRecord}
    (hi : branch.StepAt i p t s) (hj : branch.StepAt j p' t' s')
    (hset : s.lastAlertId ≠ p.lastAlertId) (hset' : s'.lastAlertId ≠ p'.lastAlertId) : i = j := by
  have horder : ∀ {i j : Nat} {p p' s s' : IncidentSnapshot} {t t' : IncidentTransitionRecord},
      branch.StepAt i p t s → branch.StepAt j p' t' s' → s.lastAlertId ≠ p.lastAlertId →
      s'.lastAlertId ≠ p'.lastAlertId → j ≤ i := by
    intro i j p p' s s' t t' hi hj hset hset'
    by_contra hlt
    have hsome := ((h.stepAt hi).alert hset).2.2
    have hnone := ((h.stepAt hj).alert hset').2.1
    have hsame := h.alert_persists (i := i + 1) (by omega) hi.2.2 hj.1 hsome
    exact hsome (hsame.symm.trans hnone)
  exact Nat.le_antisymm (horder hj hi hset' hset) (horder hi hj hset hset')

/-! ## After rotation -/

/-- A snapshot at or past `session_rotated` that did not skip the process. -/
def PastRotation (branch : IncidentBranch) (i : Nat) (s : IncidentSnapshot) : Prop :=
  LifecyclePhase.sessionRotated.rank ≤ s.phase.rank
    ∧ isNoAlertFinal (branch.transitionInto i) s = false

theorem transitionInto_succ
    (ht : branch.transitions[i]? = some t) : branch.transitionInto (i + 1) = some t := by
  rw [IncidentBranch.transitionInto, if_neg (Nat.succ_ne_zero i), Nat.add_sub_cancel, ht]

/-- An ordinary step is no early end, and does not lower the rank. -/
theorem ordinary_not_noAlert (ht : branch.transitions[i]? = some t)
    (hfinal : t.action = .finalize → t.finalizationDisposition = some .lifecycleCompleted) :
    isNoAlertFinal (branch.transitionInto (i + 1)) s = false := by
  rw [transitionInto_succ ht, isNoAlertFinal, Option.any_some, Bool.and_eq_false_iff]
  right
  rw [decide_eq_false_iff_not]
  rintro ⟨hact, hdisposition⟩
  rw [hfinal hact] at hdisposition
  cases hdisposition

theorem origin_rank_le (action : LifecycleAction) :
    action.origin.rank ≤ action.destination.rank := by
  cases action <;> decide

/-- Past rotation, every step stays past it. -/
theorem BranchFacts.pastRotation_step (h : BranchFacts R branch receiptKeys)
    {x y : IncidentSnapshot} (hx : branch.snapshots[i]? = some x)
    (hy : branch.snapshots[i + 1]? = some y) (hpast : PastRotation branch i x) :
    PastRotation branch (i + 1) y := by
  obtain ⟨t, ht, hstep⟩ := h.between hx hy
  cases hstep.phase with
  | ordinary hfrom hto hfinal =>
    refine ⟨?_, ordinary_not_noAlert ht hfinal⟩
    have hrank := hpast.1
    rw [hfrom] at hrank
    rw [hto]
    exact le_trans hrank (origin_rank_le t.action)
  | noAlert _ hfrom =>
    have hrank := hpast.1
    rw [hfrom] at hrank
    exact absurd hrank (by decide)

/-- What a rotation reaches is past rotation. -/
theorem BranchFacts.pastRotation_of_rotate (h : BranchFacts R branch receiptKeys)
    (ht : branch.transitions[i]? = some t)
    (hrotate : t.action = .rotateSession) (hij : i < j) (hs : branch.snapshots[j]? = some s) :
    PastRotation branch j s := by
  obtain ⟨_, next, _, hnext, hstep⟩ := h.around ht
  have hreached : PastRotation branch (i + 1) next := by
    cases hstep.phase with
    | ordinary _ hto hfinal =>
      refine ⟨?_, ordinary_not_noAlert ht hfinal⟩
      rw [hto, hrotate]
      exact le_refl _
    | noAlert _ _ _ hfinal =>
      rw [hrotate] at hfinal
      cases hfinal
  exact neighbours_from (P := PastRotation branch)
    (fun k x y hx hy hpast => h.pastRotation_step hx hy hpast) hij hnext hs hreached

/-- All replacement sessions of a branch are one. -/
theorem BranchFacts.replacement_unique (h : BranchFacts R branch receiptKeys)
    {d d' : Digest} (hs : branch.snapshots[i]? = some s)
    (hs' : branch.snapshots[j]? = some s') (hd : s.replacementSessionDigest = some d)
    (hd' : s'.replacementSessionDigest = some d') : d = d' := by
  have hkept : ∀ {i j : Nat} {s s' : IncidentSnapshot} {d : Digest}, i ≤ j →
      branch.snapshots[i]? = some s → branch.snapshots[j]? = some s' →
      s.replacementSessionDigest = some d → s'.replacementSessionDigest = some d := by
    intro i j s s' d hij hs hs' hd
    refine neighbours_from (P := fun _ z => z.replacementSessionDigest = some d) ?_ hij hs hs' hd
    intro k x y hx hy hsame
    obtain ⟨_, _, hstep⟩ := h.between hx hy
    exact hstep.replacement d hsame
  rcases Nat.le_total i j with hij | hij
  · exact Option.some.inj ((hkept hij hs hs' hd).symm.trans hd')
  · exact Option.some.inj (hd.symm.trans (hkept hij hs' hs hd'))

/-- The sessions in every snapshot that a rotation leads to. -/
theorem BranchFacts.rotation (h : BranchFacts R branch receiptKeys) :
    ∃ replacement, ∀ (i j : Nat) (t : IncidentTransitionRecord) (s : IncidentSnapshot),
      branch.transitions[i]? = some t → t.action = .rotateSession → i < j →
      branch.snapshots[j]? = some s →
        Rotated s ∧ s.replacementSessionDigest = some replacement
          ∧ replacement ≠ s.compromisedSessionDigest := by
  by_cases hany : ∃ (j : Nat) (s : IncidentSnapshot),
      branch.snapshots[j]? = some s ∧ s.replacementSessionDigest ≠ none
  · obtain ⟨k, s₀, hs₀, hreplaced⟩ := hany
    obtain ⟨replacement, hreplacement⟩ := Option.ne_none_iff_exists'.mp hreplaced
    refine ⟨replacement, fun i j t s ht hrotate hij hs => ?_⟩
    have hpast := h.pastRotation_of_rotate ht hrotate hij hs
    have hrotated := (h.snapshot j s hs).rotated hpast.1 hpast.2
    obtain ⟨digest, hdigest⟩ := Option.ne_none_iff_exists'.mp hrotated.replaced
    obtain rfl := h.replacement_unique hs hs₀ hdigest hreplacement
    refine ⟨hrotated, hdigest, fun heq => ?_⟩
    exact (h.snapshot j s hs).distinct (heq ▸ hdigest)
  · refine ⟨0, fun i j t s ht hrotate hij hs => ?_⟩
    have hpast := h.pastRotation_of_rotate ht hrotate hij hs
    have hrotated := (h.snapshot j s hs).rotated hpast.1 hpast.2
    exact absurd ⟨j, s, hs, hrotated.replaced⟩ hany

/-! ## The law -/

/-- How an accepted branch follows the process. -/
structure ProcessFacts (branch : IncidentBranch) : Prop where
  follows : FollowsProcess branch
  finalizeLast : ∀ i t, branch.transitions[i]? = some t → t.action = .finalize →
    i + 1 = branch.transitions.length
  sessionSplit : ∃ point, ∀ (i : Nat) (s : IncidentSnapshot), branch.snapshots[i]? = some s →
    s.compromisedSessionState = if i < point then .active else .revoked
  sessionChange : ∀ i p t s, branch.StepAt i p t s →
    s.compromisedSessionState ≠ p.compromisedSessionState → t.action = .probeResponse
  alertUnset : branch.first.lastAlertId = none
  alertSet : ∀ i p t s, branch.StepAt i p t s → s.lastAlertId ≠ p.lastAlertId →
    t.action = .closeDetection ∧ p.lastAlertId = none ∧ s.lastAlertId ≠ none
  alertOnce : ∀ i p t s j p' t' s', branch.StepAt i p t s → branch.StepAt j p' t' s' →
    s.lastAlertId ≠ p.lastAlertId → s'.lastAlertId ≠ p'.lastAlertId → i = j
  entitlement : ∀ i p t s, branch.StepAt i p t s →
    s.entitlementSetDigest ≠ p.entitlementSetDigest → t.action = .applyRestore
  rotation : ∃ replacement, ∀ (i j : Nat) (t : IncidentTransitionRecord) (s : IncidentSnapshot),
    branch.transitions[i]? = some t → t.action = .rotateSession → i < j →
    branch.snapshots[j]? = some s →
      Rotated s ∧ s.replacementSessionDigest = some replacement
        ∧ replacement ≠ s.compromisedSessionDigest

theorem BranchFacts.process (h : BranchFacts R branch receiptKeys) : ProcessFacts branch where
  follows := h.follows
  finalizeLast := fun _ _ ht hfinal => h.finalize_last ht hfinal
  sessionSplit := h.session_split
  sessionChange := fun _ _ _ _ hat hchange => ((h.stepAt hat).session hchange).1
  alertUnset := h.first.alert
  alertSet := fun _ _ _ _ hat hchange => (h.stepAt hat).alert hchange
  alertOnce := fun _ _ _ _ _ _ _ _ hi hj hset hset' => h.alert_once hi hj hset hset'
  entitlement := fun _ _ _ _ hat hchange => (h.stepAt hat).entitlement hchange
  rotation := h.rotation

/-! ## An example

Two branches that go through the whole process; the actual one discloses a record while the
response is probed. -/

def exampleLifecycleRuntime : LifecycleRuntime where
  sha256 bytes := BitVec.ofNat 256 (bytes.foldl (fun n b => n * 256 + b.toNat + 1) 0)
  snapshotJson s := .ok (s.branchId.toList.map (fun c => UInt8.ofNat c.toNat)
    ++ [UInt8.ofNat s.ordinal.val])
  transitionJson t := .ok (t.traceId.toList.map fun c => UInt8.ofNat c.toNat)

/-- The digest of a snapshot under `exampleLifecycleRuntime`. -/
def exampleSnapshotDigest (branchId : String) (ordinal : Nat) : Digest :=
  exampleLifecycleRuntime.sha256 (branchId.toList.map (fun c => UInt8.ofNat c.toNat)
    ++ [UInt8.ofNat ordinal])

def exampleTraceDigest (traceId : String) : Digest :=
  exampleLifecycleRuntime.sha256 (traceId.toList.map fun c => UInt8.ofNat c.toNat)

def exampleBranchId : BranchKind → String
  | .actual => "actual"
  | .matchedComparison => "comparison"

/-- Where the digests of a branch start. -/
def exampleBase : BranchKind → Nat
  | .actual => 1000
  | .matchedComparison => 2000

def exampleDigest (kind : BranchKind) (n : Nat) : Digest := BitVec.ofNat 256 (exampleBase kind + n)

def exampleDisclosure : DisclosureEntry where
  recordToken := "record-1"
  firstDeliveryTraceId := "delivery-1"
  firstDeliveryEventDigest := exampleDigest .actual 2
  firstObservedAt := ⟨15, 0⟩

def exampleLedger (kind : BranchKind) (n : Nat) : DisclosureLedger :=
  if kind = .actual ∧ 2 ≤ n then ⟨[exampleDisclosure], by decide⟩ else ⟨[], by decide⟩

def exampleSnapshotFields (kind : BranchKind) (n : Fin 7) : SnapshotFields where
  incidentId := "incident-1"
  branchId := exampleBranchId kind
  branchKind := kind
  ordinal := n.val.succPNat
  phase := [.sourceBound, .detectionClosed, .responseProbed, .restoreApplied, .sessionRotated,
    .retested, .finalized].get n
  sourcePreventionBundleId := 3
  sourceTrialKey := 4
  sourceTraceId := "source"
  entitlementSetDigest := if n.val < 3 then 5 else 6
  compromisedSessionDigest := 7
  compromisedSessionState := if n.val < 2 then .active else .revoked
  quarantineState := .normal
  replacementSessionDigest := if n.val < 4 then none else some (exampleDigest kind 90)
  replacementSessionState := if n.val < 4 then .none else .active
  replacementEntitlementDigest := if n.val < 4 then none else some 6
  confidentialityStatus :=
    if kind = .actual ∧ 2 ≤ n.val then .priorDisclosureOccurred else .noneObservedOnTestedBranch
  disclosureLedger := exampleLedger kind n
  lastAlertId := if n.val = 0 then none else some (exampleBranchId kind)
  observedAt := ⟨10 * n.val, 0⟩
  previousSnapshotDigest :=
    if n.val = 0 then none else some (exampleSnapshotDigest (exampleBranchId kind) n)
  evidenceIds := if n.val = 0 then [1] else [exampleDigest kind n]

def exampleIncidentSnapshot (kind : BranchKind) (n : Fin 7) : IncidentSnapshot where
  toSnapshotFields := exampleSnapshotFields kind n
  coherent := by
    revert n
    cases kind <;> decide

def exampleTraceId : BranchKind → Nat → String
  | .actual, n => ["a1", "a2", "a3", "a4", "a5", "a6"].getD n ""
  | .matchedComparison, n => ["c1", "c2", "c3", "c4", "c5", "c6"].getD n ""

def exampleTransitionFields (kind : BranchKind) (n : Fin 6) : TransitionFields where
  caseSpecDigest := 8
  incidentId := "incident-1"
  branchId := exampleBranchId kind
  ordinal := n.val.succPNat
  action := [.closeDetection, .probeResponse, .applyRestore, .rotateSession, .retest,
    .finalize].get n
  fromSnapshotDigest := exampleSnapshotDigest (exampleBranchId kind) (n + 1)
  toSnapshotDigest := exampleSnapshotDigest (exampleBranchId kind) (n + 2)
  previousTransitionDigest :=
    if n.val = 0 then none else some (exampleTraceDigest (exampleTraceId kind (n - 1)))
  factorAssignmentDigest := exampleDigest kind 0
  traceId := exampleTraceId kind n
  startedAt := ⟨10 * n.val, 0⟩
  endedAt := ⟨10 * n.val + 10, 0⟩
  eventArtifactIds := [exampleDigest kind (n + 1)]
  attestationBundleDigest := exampleDigest kind (n + 30)
  cleanupBundleDigest := exampleDigest kind (n + 60)
  finalizationDisposition := if n.val = 5 then some .lifecycleCompleted else none
  finalizationReason := if n.val = 5 then some "recovered" else none

def exampleTransition (kind : BranchKind) (n : Fin 6) : IncidentTransitionRecord where
  toTransitionFields := exampleTransitionFields kind n
  coherent := by
    revert n
    cases kind <;> decide
  transitionId := exampleTraceDigest (exampleTraceId kind n)

def exampleBranch (kind : BranchKind) : IncidentBranch where
  branchKind := kind
  snapshots := (List.finRange 7).map (exampleIncidentSnapshot kind)
  transitions := (List.finRange 6).map (exampleTransition kind)
  started := by simp [List.finRange_succ]

def exampleLifecycle : IncidentLifecycle where
  actual := exampleBranch .actual
  matchedComparison := exampleBranch .matchedComparison
  currentSnapshotDigest := exampleSnapshotDigest "actual" 7

def exampleReceipts : List AdmittedReceiptEvidence :=
  [⟨"record-1", "delivery-1", exampleDigest .actual 2, ⟨15, 0⟩⟩]

/-- A lifecycle is accepted. -/
def Accepted (R : LifecycleRuntime) (lifecycle : IncidentLifecycle)
    (receipts : List AdmittedReceiptEvidence) : Prop :=
  (verifyLifecycle R lifecycle receipts).toOption.isSome = true

instance (lifecycle : IncidentLifecycle) (receipts : List AdmittedReceiptEvidence) :
    Decidable (Accepted R lifecycle receipts) := inferInstanceAs (Decidable (_ = true))

theorem Accepted.exists_ok {lifecycle : IncidentLifecycle}
    {receipts : List AdmittedReceiptEvidence} (h : Accepted R lifecycle receipts) :
    ∃ verified, verifyLifecycle R lifecycle receipts = .ok verified := by
  rw [Accepted] at h
  generalize verifyLifecycle R lifecycle receipts = result at h ⊢
  cases result with
  | ok verified => exact ⟨verified, rfl⟩
  | error e => cases h

theorem example_accepted : Accepted exampleLifecycleRuntime exampleLifecycle exampleReceipts := by
  decide

/-! ## Every accepted lifecycle -/

/-- Both branches of an accepted lifecycle follow the process; the early end without an alert is
open to the actual branch only. -/
theorem lifecycle_follows_process {lifecycle : IncidentLifecycle}
    {receipts : List AdmittedReceiptEvidence} {verified : VerifiedLifecycle}
    (h : verifyLifecycle R lifecycle receipts = .ok verified) :
    lifecycle.actual.branchKind = .actual
      ∧ lifecycle.matchedComparison.branchKind = .matchedComparison
      ∧ ProcessFacts lifecycle.actual ∧ ProcessFacts lifecycle.matchedComparison := by
  obtain ⟨hactual, hcomparison, hbranch, hbranch', _⟩ := verifyLifecycle_ok h
  exact ⟨hactual, hcomparison, hbranch.process, hbranch'.process⟩

/-- The whole process on both branches. -/
theorem lifecycle_follows_process_example : ∃ verified,
    verifyLifecycle exampleLifecycleRuntime exampleLifecycle exampleReceipts = .ok verified
      ∧ ProcessFacts exampleLifecycle.actual
      ∧ exampleLifecycle.actual.steps = responseProcess := by
  obtain ⟨verified, hverified⟩ := example_accepted.exists_ok
  exact ⟨verified, hverified, (lifecycle_follows_process hverified).2.2.1, by decide⟩

end ControlAssurance.Incident
