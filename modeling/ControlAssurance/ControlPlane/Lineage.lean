import ControlAssurance.ControlPlane.Commits
import ControlAssurance.ControlPlane.Lease
import ControlAssurance.ControlPlane.Reads

/-!
# Revision lineage and the desired pointer

The revisions of a control are numbered without gaps and each names the one before it as its
parent; only the last can be a draft or submitted. A revision is decided once, and the pointer
of a control names one of its approved revisions.

`Sound` says this of all tables at once. Three commits touch them in ways that matter. A draft
appends a row that follows the latest. A submission or a decision changes the state of the one
row it names, which no pointer names. An activation moves one pointer and retires the revision
that pointer named: no other pointer can name it, since a pointer and its revision belong to
one control and a control has one pointer.
-/

namespace ControlAssurance.ControlPlane

open Lib

variable {sha : Document → Digest}

/-! ## The revisions of one control -/

/-- The revisions of one control. -/
def Store.controlRevisions (st : Store) (tenantId controlId : String) :
    List ConfigurationRevision :=
  st.revisions.filter fun r => decide (r.tenantId = tenantId ∧ r.controlId = controlId)

/-- A draft, or waiting for its decision. -/
def ConfigurationRevision.inFlight (r : ConfigurationRevision) : Prop :=
  r.state = .draft ∨ r.state = .submitted

structure Lineage (revs : List ConfigurationRevision) : Prop where
  generations : revs.map (·.generation) = List.range' 1 revs.length
  parents : ∀ pre r post, revs = pre ++ r :: post →
    r.parentRevisionId = pre.getLast?.map (·.revisionId)
  latest : ∀ pre r post, revs = pre ++ r :: post → r.inFlight → post = []

theorem lineage_nil : Lineage [] :=
  ⟨rfl, fun _ _ _ h => absurd h.symm (List.append_ne_nil_of_right_ne_nil _ (List.cons_ne_nil _ _)),
    fun _ _ _ h => absurd h.symm (List.append_ne_nil_of_right_ne_nil _ (List.cons_ne_nil _ _))⟩

variable {revs : List ConfigurationRevision} {r : ConfigurationRevision} {st st' : Store}
  {controlId : String} {n : Nat} {a : Actor} {t : Time} {rid : Digest} {d : ApprovalDecision}

theorem Lineage.generation {pre post : List ConfigurationRevision}
    (h : Lineage revs) (heq : revs = pre ++ r :: post) :
    r.generation = pre.length + 1 := by
  have hget : (revs.map (·.generation))[pre.length]? = some r.generation := by
    rw [heq]
    simp
  rw [h.generations, List.getElem?_range' (by rw [heq]; simp)] at hget
  have := Option.some.inj hget
  omega

variable {tenantId : String} {f : ConfigurationRevision → ConfigurationRevision}
  {p : ConfigurationRevision → Bool}

/-- The latest generation is the last row. -/
theorem Lineage.latestRevision (h : Lineage (st.controlRevisions tenantId controlId)) :
    st.latestRevision tenantId controlId = (st.controlRevisions tenantId controlId).getLast? := by
  have hrange : ((st.controlRevisions tenantId controlId).map (·.generation)).Pairwise (· < ·) := by
    rw [h.generations]
    exact List.pairwise_lt_range'
  apply firstBy_eq_getLast?
  refine (List.pairwise_map.mp hrange).imp fun {a b} hlt => ?_
  exact decide_eq_false (Nat.not_le_of_lt hlt)

/-- A draft follows the last row, which is settled. -/
theorem Lineage.append
    {parent : Option Digest} (h : Lineage revs) (hfollows : Follows revs.getLast? n parent)
    (hn : r.generation = n) (hparent : r.parentRevisionId = parent) : Lineage (revs ++ [r]) := by
  have hlast : n = revs.length + 1 ∧ parent = revs.getLast?.map (·.revisionId)
      ∧ ∀ x ∈ revs, ¬x.inFlight := by
    rcases List.eq_nil_or_concat revs with rfl | ⟨pre, l, rfl⟩
    · cases hfollows with
      | first => exact ⟨rfl, rfl, fun _ hx => by cases hx⟩
      | next hrow => cases hrow
    · rw [List.concat_eq_append] at h hfollows ⊢
      rw [List.getLast?_concat] at hfollows ⊢
      have hl := h.generation (rfl : pre ++ [l] = pre ++ l :: [])
      cases hfollows with
      | first habsent => cases habsent
      | next hrow hsettled =>
        cases hrow
        refine ⟨by rw [hl, List.length_append, List.length_singleton], rfl, ?_⟩
        intro x hx hflight
        rcases List.mem_append.mp hx with hx | hx
        · obtain ⟨a, b, rfl⟩ := List.append_of_mem hx
          have hend := h.latest a x (b ++ [l]) (by simp) hflight
          exact List.append_ne_nil_of_right_ne_nil _ (List.cons_ne_nil _ _) hend
        · rw [List.mem_singleton.mp hx] at hflight
          exact hflight.elim hsettled.1 hsettled.2
  obtain ⟨hgeneration, hprevious, hsettled⟩ := hlast
  refine ⟨?_, ?_, ?_⟩
  · rw [List.map_append, h.generations, List.length_append, List.length_singleton,
      List.range'_concat, List.map_singleton, hn, hgeneration]
    simp [Nat.add_comm]
  · intro pre x post heq
    rcases split_concat heq with ⟨post', rfl, hrevs⟩ | ⟨rfl, rfl, rfl⟩
    · exact h.parents pre x post' hrevs
    · exact hparent.trans hprevious
  · intro pre x post heq hflight
    rcases split_concat heq with ⟨post', rfl, hrevs⟩ | ⟨rfl, -, -⟩
    · exact absurd hflight (hsettled x (by simp [hrevs]))
    · rfl

/-- A change of states that puts no settled revision back in flight. -/
theorem Lineage.map {g : ConfigurationRevision → ConfigurationRevision} (h : Lineage revs)
    (hcontent : ∀ r, (g r).toRevisionContent = r.toRevisionContent)
    (hflight : ∀ r, (g r).inFlight → r.inFlight) : Lineage (revs.map g) := by
  have hsplit : ∀ pre x post, revs.map g = pre ++ x :: post → ∃ pre₀ r post₀,
      revs = pre₀ ++ r :: post₀ ∧ pre = pre₀.map g ∧ x = g r ∧ post = post₀.map g := by
    intro pre x post heq
    obtain ⟨pre₀, tail, hrevs, hpre, htail⟩ := List.map_eq_append_iff.mp heq
    obtain ⟨r, post₀, rfl, rfl, rfl⟩ := List.map_eq_cons_iff.mp htail
    exact ⟨pre₀, r, post₀, hrevs, hpre.symm, rfl, rfl⟩
  refine ⟨?_, ?_, ?_⟩
  · rw [List.map_map, List.length_map, ← h.generations]
    exact List.map_congr_left fun r _ => congrArg RevisionContent.generation (hcontent r)
  · intro pre x post heq
    obtain ⟨pre₀, r, post₀, hrevs, rfl, rfl, rfl⟩ := hsplit pre x post heq
    rw [congrArg RevisionContent.parentRevisionId (hcontent r), h.parents pre₀ r post₀ hrevs,
      List.getLast?_map, Option.map_map]
    congr 1
    funext y
    exact (congrArg RevisionContent.revisionId (hcontent y)).symm
  · intro pre x post heq hx
    obtain ⟨pre₀, r, post₀, hrevs, rfl, rfl, rfl⟩ := hsplit pre x post heq
    rw [h.latest pre₀ r post₀ hrevs (hflight r hx)]
    rfl

/-! ## All tables -/

/-- The decision of a revision, in the state it is in: none yet, or one with its verdict. -/
def Decided (decisions : List ApprovalDecision) (r : ConfigurationRevision) : Prop :=
  match r.state with
  | .draft | .submitted => ∀ d ∈ decisions, d.revisionId ≠ r.revisionId
  | .approved | .retired => ∃ d, decisions.filter (fun x => decide (x.revisionId = r.revisionId))
      = [d] ∧ d.tenantId = r.tenantId ∧ d.decision = .approved
  | .rejected => ∃ d, decisions.filter (fun x => decide (x.revisionId = r.revisionId)) = [d]
      ∧ d.tenantId = r.tenantId ∧ d.decision = .rejected

structure Sound (sha : Document → Digest) (st : Store) : Prop where
  revisionKeys : (st.revisions.map (·.revisionId)).Nodup
  deploymentKeys : (st.deployments.map fun d => (d.tenantId, d.controlId)).Nodup
  valid : ∀ r ∈ st.revisions, r.valid sha = true
  lineage : ∀ tenantId controlId, Lineage (st.controlRevisions tenantId controlId)
  decided : ∀ r ∈ st.revisions, Decided st.decisions r
  named : ∀ d ∈ st.decisions, ∃ r ∈ st.revisions, r.revisionId = d.revisionId
  versions : ∀ d ∈ st.deployments, 1 ≤ d.deploymentVersion
  pointers : ∀ d ∈ st.deployments, ∃ r ∈ st.revisions, r.revisionId = d.revisionId
    ∧ d.selects r

theorem sound_init : Sound sha Store.empty where
  revisionKeys := List.nodup_nil
  deploymentKeys := List.nodup_nil
  valid := fun _ h => absurd h List.not_mem_nil
  lineage := fun _ _ => lineage_nil
  decided := fun _ h => absurd h List.not_mem_nil
  named := fun _ h => absurd h List.not_mem_nil
  versions := fun _ h => absurd h List.not_mem_nil
  pointers := fun _ h => absurd h List.not_mem_nil

/-- `Sound` reads three tables. -/
theorem Sound.of_tables (h : Sound sha st)
    (hrevisions : st'.revisions = st.revisions) (hdecisions : st'.decisions = st.decisions)
    (hdeployments : st'.deployments = st.deployments) : Sound sha st' := by
  obtain ⟨hk, hd, hv, hl, hdec, hn, hver, hp⟩ := h
  refine ⟨hrevisions ▸ hk, hdeployments ▸ hd, hrevisions ▸ hv, ?_, ?_, ?_, hdeployments ▸ hver, ?_⟩
  · intro tenantId controlId
    unfold Store.controlRevisions
    rw [hrevisions]
    exact hl tenantId controlId
  · rw [hrevisions, hdecisions]
    exact hdec
  · rw [hrevisions, hdecisions]
    exact hn
  · rw [hrevisions, hdeployments]
    exact hp

theorem controlRevisions_append {audit : List AuditEvent} :
    ({ st with revisions := st.revisions ++ [r], audit } : Store).controlRevisions
      tenantId controlId
      = if r.tenantId = tenantId ∧ r.controlId = controlId
        then st.controlRevisions tenantId controlId ++ [r]
        else st.controlRevisions tenantId controlId := by
  unfold Store.controlRevisions
  rw [List.filter_append]
  by_cases h : r.tenantId = tenantId ∧ r.controlId = controlId
  · rw [if_pos h, List.filter_cons_of_pos (by simpa using h), List.filter_nil]
  · rw [if_neg h, List.filter_cons_of_neg (by simpa using h), List.filter_nil, List.append_nil]

/-- A row that `create_draft` writes passes its own validation. -/
theorem draftRow_valid {cfg : ControlConfiguration} {parent : Option Digest}
    {latest : Option ConfigurationRevision} (h : Follows latest n parent)
    (hlatest : ∀ r ∈ latest, 1 ≤ r.generation) : (draftRow sha a cfg n parent t).valid sha = true := by
  have hparent : 1 ≤ n ∧ (n = 1 → parent = none) ∧ (1 < n → parent ≠ none) := by
    cases h with
    | first => exact ⟨Nat.le_refl 1, fun _ => rfl, fun hlt => absurd hlt (Nat.lt_irrefl 1)⟩
    | next hrow =>
      have hpos := hlatest _ hrow
      exact ⟨by omega, fun h => by omega, fun _ => Option.some_ne_none _⟩
  apply decide_eq_true
  refine ⟨rfl, rfl, rfl, rfl, hparent.1, hparent.2.1, hparent.2.2, fun _ => ⟨rfl, rfl⟩, ?_, ?_⟩
  · intro h
    cases h
  · intro h
    rcases h with h | h <;> cases h

theorem drafted_sound {cfg : ControlConfiguration} {p : Option Digest} (hst : Sound sha st)
    (h : createDraft sha st a cfg p t = .ok (st', rid)) : Sound sha st' := by
  obtain ⟨n, parent, -, hfollows, rfl, hfresh, rfl⟩ := createDraft_ok h
  have hlineage := hst.lineage cfg.tenantId cfg.controlId
  have hmem : ∀ r ∈ st.latestRevision cfg.tenantId cfg.controlId, 1 ≤ r.generation := by
    intro r hr
    have hin := List.mem_of_mem_filter (firstBy_mem hr)
    have hvalid := hst.valid r hin
    unfold ConfigurationRevision.valid at hvalid
    exact (of_decide_eq_true hvalid).2.2.2.2.1
  have hvalid : (draftRow sha a cfg n parent t).valid sha = true := draftRow_valid hfollows hmem
  refine ⟨append_keys hst.revisionKeys hfresh, hst.deploymentKeys, ?_, ?_, ?_, ?_, hst.versions, ?_⟩
  · intro r hr
    rcases List.mem_append.mp hr with hr | hr
    · exact hst.valid r hr
    · rw [List.mem_singleton.mp hr]
      exact hvalid
  · intro tenantId controlId
    rw [controlRevisions_append]
    split
    next heq =>
      obtain ⟨rfl, rfl⟩ := heq
      rw [hlineage.latestRevision] at hfollows
      exact hlineage.append hfollows rfl rfl
    next => exact hst.lineage tenantId controlId
  · intro r hr
    rcases List.mem_append.mp hr with hr | hr
    · exact hst.decided r hr
    · rw [List.mem_singleton.mp hr]
      intro d hd heq
      obtain ⟨x, hx, hid⟩ := hst.named d hd
      exact hfresh x hx (hid.trans heq)
  · intro d hd
    obtain ⟨r, hr, hid⟩ := hst.named d hd
    exact ⟨r, List.mem_append_left _ hr, hid⟩
  · intro d hd
    obtain ⟨r, hr, hid⟩ := hst.pointers d hd
    exact ⟨r, List.mem_append_left _ hr, hid⟩

/-- A change of revision states: what is left to show of the rows, the decisions and the
pointers. -/
theorem Sound.update (hst : Sound sha st)
    (hrevisions : st'.revisions = updateWhere p f st.revisions)
    (hcontent : ∀ r, (f r).toRevisionContent = r.toRevisionContent)
    (hflight : ∀ r, p r = true → (f r).inFlight → r.inFlight)
    (hvalid : ∀ r ∈ st.revisions, p r = true → (f r).valid sha = true)
    (hdecided : ∀ r ∈ st'.revisions, Decided st'.decisions r)
    (hnamed : ∀ d ∈ st'.decisions, ∃ r ∈ st.revisions, r.revisionId = d.revisionId)
    (hkeys : (st'.deployments.map fun d => (d.tenantId, d.controlId)).Nodup)
    (hversions : ∀ d ∈ st'.deployments, 1 ≤ d.deploymentVersion)
    (hpointers : ∀ d ∈ st'.deployments, ∃ r ∈ st'.revisions, r.revisionId = d.revisionId
      ∧ d.selects r) : Sound sha st' := by
  have hrow : ∀ r, (if p r then f r else r).toRevisionContent = r.toRevisionContent := by
    intro r
    split
    · exact hcontent r
    · rfl
  refine ⟨?_, hkeys, ?_, ?_, hdecided, ?_, hversions, hpointers⟩
  · rw [hrevisions]
    exact updateWhere_keys (fun r => congrArg RevisionContent.revisionId (hcontent r))
      hst.revisionKeys
  · rw [hrevisions]
    intro r hr
    rcases mem_updateWhere.mp hr with ⟨r₀, hr₀, hp, rfl⟩ | ⟨hr, -⟩
    · exact hvalid r₀ hr₀ hp
    · exact hst.valid r hr
  · intro tenantId controlId
    have hfilter : st'.controlRevisions tenantId controlId
        = (st.controlRevisions tenantId controlId).map fun r => if p r then f r else r := by
      unfold Store.controlRevisions
      rw [hrevisions]
      unfold updateWhere
      rw [List.filter_map]
      congr 1
      apply List.filter_congr
      intro r _
      show decide (_ ∧ _) = decide (_ ∧ _)
      rw [congrArg RevisionContent.tenantId (hrow r), congrArg RevisionContent.controlId (hrow r)]
    rw [hfilter]
    refine (hst.lineage tenantId controlId).map hrow ?_
    intro r
    split
    next hp => exact hflight r hp
    next => exact id
  · intro d hd
    obtain ⟨r, hr, hid⟩ := hnamed d hd
    refine ⟨_, hrevisions ▸ exists_mem_updateWhere hr, ?_⟩
    exact (congrArg RevisionContent.revisionId (hrow r)).trans hid

/-- A pointer whose revision an update leaves alone. -/
theorem Sound.pointer_kept (hst : Sound sha st)
    (hp : ∀ r, r.state = .approved → p r = false) {d : ActiveDeployment} (hd : d ∈ st.deployments) :
    ∃ r ∈ updateWhere p f st.revisions, r.revisionId = d.revisionId ∧ d.selects r := by
  obtain ⟨r, hr, hid, hsel⟩ := hst.pointers d hd
  exact ⟨r, mem_updateWhere.mpr (Or.inr ⟨hr, hp r hsel.2.2.2⟩), hid, hsel⟩

theorem submitted_sound {v : Nat} {u : Unit}
    (hst : Sound sha st) (h : submit sha st a rid v t = .ok (st', u)) : Sound sha st' := by
  obtain ⟨r, hrow, hvalid, hstate, -, rfl⟩ := submit_ok h
  have hdecidedAt : r.decidedAt = none := by
    unfold ConfigurationRevision.valid at hvalid
    exact ((of_decide_eq_true hvalid).2.2.2.2.2.2.2.1 hstate).2
  have hdraft : ∀ x, revisionRows a.tenantId rid .draft v x = true → x.state = .draft :=
    fun x hx => (of_decide_eq_true hx).2.2.1
  refine hst.update rfl (fun _ => rfl) (fun x hx _ => Or.inl (hdraft x hx)) ?_ ?_ hst.named
    hst.deploymentKeys hst.versions ?_
  · intro x hx _
    have hxv := hst.valid x hx
    unfold ConfigurationRevision.valid at hxv ⊢
    obtain ⟨h₁, h₂, h₃, h₄, h₅, h₆, h₇, -⟩ := of_decide_eq_true hxv
    apply decide_eq_true
    refine ⟨h₁, h₂, h₃, h₄, h₅, h₆, h₇, ?_, fun _ => ⟨Option.some_ne_none _, hdecidedAt⟩, ?_⟩
    · intro h
      cases h
    · intro h
      rcases h with h | h <;> cases h
  · intro x hx
    rcases mem_updateWhere.mp hx with ⟨x₀, hx₀, hp, rfl⟩ | ⟨hx, -⟩
    · have hnone := hst.decided x₀ hx₀
      unfold Decided at hnone
      rw [hdraft x₀ hp] at hnone
      exact hnone
    · exact hst.decided x hx
  · intro d hd
    refine hst.pointer_kept ?_ hd
    intro x hx
    exact decide_eq_false fun hp => by rw [hx] at hp; exact absurd hp.2.2.1 (by decide)

/-- One more decision is one more for the revision it names. -/
theorem filter_decisions {ds : List ApprovalDecision} :
    (ds ++ [d]).filter (fun x => decide (x.revisionId = rid))
      = ds.filter (fun x => decide (x.revisionId = rid))
        ++ if d.revisionId = rid then [d] else [] := by
  rw [List.filter_append]
  by_cases h : d.revisionId = rid
  · rw [if_pos h, List.filter_cons_of_pos (by simpa using h), List.filter_nil]
  · rw [if_neg h, List.filter_cons_of_neg (by simpa using h), List.filter_nil]

/-- A decision about another revision says nothing about this one. -/
theorem Decided.append {ds : List ApprovalDecision}
    (h : Decided ds r) (hne : d.revisionId ≠ r.revisionId) :
    Decided (ds ++ [d]) r := by
  unfold Decided at h ⊢
  rw [filter_decisions, if_neg hne, List.append_nil]
  split <;> rename_i hs <;> rw [hs] at h
  case h_1 | h_2 =>
    intro x hx
    rcases List.mem_append.mp hx with hx | hx
    · exact h x hx
    · rw [List.mem_singleton.mp hx]
      exact hne
  all_goals exact h

theorem decided_sound {v : Nat} {verdict : Verdict} {comment : String} (hst : Sound sha st)
    (h : decideRevision sha st a rid v verdict comment t = .ok (st', d)) : Sound sha st' := by
  obtain ⟨r, hrow, hstate, hversion, rfl, hten, hverdict, hfresh, rfl⟩ := decideRevision_ok h
  obtain ⟨hr, htenant, hid⟩ := revisionRow_some hrow
  have hsubmitted : ∀ x, revisionRows a.tenantId d.revisionId .submitted v x = true →
      x.tenantId = a.tenantId ∧ x.revisionId = d.revisionId ∧ x.state = .submitted :=
    fun x hx => ⟨(of_decide_eq_true hx).1, (of_decide_eq_true hx).2.1, (of_decide_eq_true hx).2.2.1⟩
  have hnone : st.decisions.filter (fun x => decide (x.revisionId = d.revisionId)) = [] :=
    List.filter_eq_nil_iff.mpr fun x hx => by simpa using hfresh x hx
  refine hst.update rfl (fun _ => rfl) (fun x hx _ => Or.inr (hsubmitted x hx).2.2) ?_ ?_ ?_
    hst.deploymentKeys hst.versions ?_
  · intro x hx hp
    have hxv := hst.valid x hx
    unfold ConfigurationRevision.valid at hxv ⊢
    obtain ⟨h₁, h₂, h₃, h₄, h₅, h₆, h₇, -, h₉, -⟩ := of_decide_eq_true hxv
    apply decide_eq_true
    refine ⟨h₁, h₂, h₃, h₄, h₅, h₆, h₇, ?_, ?_,
      fun _ => ⟨(h₉ (hsubmitted x hp).2.2).1, Option.some_ne_none _⟩⟩
    · intro h
      cases verdict <;> cases h
    · intro h
      cases verdict <;> cases h
  · intro x hx
    rcases mem_updateWhere.mp hx with ⟨x₀, hx₀, hp, rfl⟩ | ⟨hx, hp⟩
    · -- the row that was decided has this one decision
      obtain ⟨hxt, hxid, -⟩ := hsubmitted x₀ hp
      have hone : (st.decisions ++ [d]).filter (fun y => decide (y.revisionId = x₀.revisionId))
          = [d] := by
        rw [filter_decisions, hxid, hnone, if_pos rfl]
        rfl
      cases verdict with
      | approved => exact ⟨d, hone, hten.trans hxt.symm, hverdict⟩
      | rejected => exact ⟨d, hone, hten.trans hxt.symm, hverdict⟩
    · by_cases hxid : d.revisionId = x.revisionId
      · -- the only row with this id was submitted and read at this version
        have hxr : x = r := List.inj_on_of_nodup_map hst.revisionKeys hx hr (hxid.symm.trans hid.symm)
        have hmatch : revisionRows a.tenantId d.revisionId .submitted v r = true :=
          decide_eq_true ⟨htenant, hid, hstate, hversion⟩
        rw [hxr, hmatch] at hp
        cases hp
      · exact (hst.decided x hx).append hxid
  · intro x hx
    rcases List.mem_append.mp hx with hx | hx
    · exact hst.named x hx
    · rw [List.mem_singleton.mp hx]
      exact ⟨r, hr, hid⟩
  · intro p hp
    refine hst.pointer_kept ?_ hp
    intro x hx
    exact decide_eq_false fun hq => by rw [hx] at hq; exact absurd hq.2.2.1 (by decide)

/-- A lookup by the key of the pointers. -/
theorem deploymentRow_none (h : st.deploymentRow tenantId controlId = none) :
    ∀ d ∈ st.deployments, (d.tenantId, d.controlId) ≠ (tenantId, controlId) := by
  intro d hd heq
  obtain ⟨ht, hc⟩ := Prod.mk.inj heq
  exact absurd (decide_eq_true ⟨ht, hc⟩) (List.find?_eq_none.mp h d hd)

/-- An activation retires the revision of the pointer it moves, and only that pointer named it. -/
theorem moved_sound {st₁ : Store}
    {previous : Option Digest} (hst : Sound sha st) (hr : r ∈ st.revisions)
    (htenant : r.tenantId = a.tenantId) (hstate : r.state = .approved)
    (h : Moved st a r t st₁ n previous) : Sound sha st₁ := by
  cases h with
  | first habsent =>
    refine ⟨hst.revisionKeys, append_keys hst.deploymentKeys (deploymentRow_none habsent),
      hst.valid, hst.lineage, hst.decided, hst.named, ?_, ?_⟩
    · intro d hd
      rcases List.mem_append.mp hd with hd | hd
      · exact hst.versions d hd
      · rw [List.mem_singleton.mp hd]
        exact Nat.le_refl 1
    · intro d hd
      rcases List.mem_append.mp hd with hd | hd
      · exact hst.pointers d hd
      · rw [List.mem_singleton.mp hd]
        exact ⟨r, hr, rfl, rfl, htenant, rfl, hstate⟩
  | @next existing hrow hother =>
    obtain ⟨hmem, het, hec⟩ := deploymentRow_some hrow
    obtain ⟨old, hold, hoid, -, hot, hoc, -⟩ := hst.pointers existing hmem
    have hrows : ∀ (f : ActiveDeployment → ActiveDeployment) d, d ∈ updateWhere
        (pointerRows a.tenantId r.controlId existing.deploymentVersion) f st.deployments ↔
        d = f existing ∨ (d ∈ st.deployments
          ∧ (d.tenantId, d.controlId) ≠ (existing.tenantId, existing.controlId)) := by
      intro f d
      apply mem_updateWhere_key hst.deploymentKeys hmem (decide_eq_true ⟨het, hec, rfl⟩)
      intro x hx
      have hx := of_decide_eq_true hx
      rw [hx.1, hx.2.1, het, hec]
    refine hst.update rfl (fun _ => rfl) ?_ ?_ ?_ hst.named ?_ ?_ ?_
    · intro x _ hflight
      rcases hflight with hflight | hflight <;> cases hflight
    · intro x hx _
      have hxv := hst.valid x hx
      unfold ConfigurationRevision.valid at hxv ⊢
      obtain ⟨h₁, h₂, h₃, h₄, h₅, h₆, h₇, -⟩ := of_decide_eq_true hxv
      apply decide_eq_true
      refine ⟨h₁, h₂, h₃, h₄, h₅, h₆, h₇, ?_, ?_, ?_⟩
      · intro h
        cases h
      · intro h
        cases h
      · intro h
        rcases h with h | h <;> cases h
    · intro x hx
      rcases mem_updateWhere.mp hx with ⟨x₀, hx₀, hp, rfl⟩ | ⟨hx, -⟩
      · have hdecided := hst.decided x₀ hx₀
        unfold Decided at hdecided
        rw [(of_decide_eq_true hp).2.2] at hdecided
        exact hdecided
      · exact hst.decided x hx
    · exact updateWhere_keys (fun _ => rfl) hst.deploymentKeys
    · intro d hd
      rcases (hrows _ d).mp hd with rfl | ⟨hd, -⟩
      · exact Nat.le_add_left 1 _
      · exact hst.versions d hd
    · intro d hd
      rcases (hrows _ d).mp hd with rfl | ⟨hd, hkey⟩
      · -- the pointer that moved names the activated revision, which is not the retired one
        refine ⟨r, mem_updateWhere.mpr (Or.inr ⟨hr, ?_⟩), rfl, rfl, ?_, hec.symm, hstate⟩
        · exact decide_eq_false fun h => hother h.2.1.symm
        · exact htenant.trans het.symm
      · obtain ⟨x, hx, hxid, hsel⟩ := hst.pointers d hd
        refine ⟨x, mem_updateWhere.mpr (Or.inr ⟨hx, ?_⟩), hxid, hsel⟩
        refine decide_eq_false fun h => hkey ?_
        have hxo : x = old := List.inj_on_of_nodup_map hst.revisionKeys hx hold
          (h.2.1.trans hoid.symm)
        rw [← hsel.2.1, ← hsel.2.2.1, hxo, hot, hoc]

theorem activated_sound {v : Option Nat}
    {ans : ActiveDeployment × DeploymentOperation} (hst : Sound sha st)
    (h : activateWithOperation sha st a rid v t = .ok (st', ans)) : Sound sha st' := by
  obtain ⟨r, st₁, n, previous, hrow, hstate, hmoved, -, rfl⟩ := activateWithOperation_ok h
  obtain ⟨hr, htenant, -⟩ := revisionRow_some hrow
  exact (moved_sound hst hr htenant hstate hmoved).of_tables rfl rfl rfl

/-- **One commit.** -/
theorem commit_sound {c : StoreCall} {ans : c.Answer} (hst : Sound sha st)
    (h : c.run sha st = .ok (st', ans)) : Sound sha st' := by
  have hstep := run_step h
  cases c with
  | createDraft a cfg p t => exact drafted_sound hst h
  | submit a rid v t => exact submitted_sound hst h
  | decide a rid v d comment t => exact decided_sound hst h
  | activateWithOperation a rid v t => exact activated_sound hst h
  | _ => cases hstep <;> exact hst.of_tables rfl rfl rfl

theorem execute_sound (sha : Document → Digest) (calls : List StoreCall) :
    Sound sha (execute sha calls World.init).store :=
  execute_keeps (fun hst hrun => commit_sound hst hrun) calls (w := World.init) sound_init

/-! ## The two reads -/

theorem getActiveDeployment_intact (hst : Sound sha st) (tenantId controlId : String)
    (m : String) : getActiveDeployment st tenantId controlId ≠ .error (.integrity m) := by
  intro h
  unfold getActiveDeployment at h
  dsimp only at h
  cases hrow : (st.deployments.flatMap fun d => (st.selections d).map (Prod.mk d)).find?
      fun row => decide (row.1.tenantId = tenantId ∧ row.1.controlId = controlId) with
  | none =>
    rw [hrow] at h
    cases h
  | some row =>
    obtain ⟨d, r⟩ := row
    have hjoined := List.mem_of_find?_eq_some hrow
    obtain ⟨d', hd, hpair⟩ := List.mem_flatMap.mp hjoined
    obtain ⟨r', hr, heq⟩ := List.mem_map.mp hpair
    obtain ⟨rfl, rfl⟩ := Prod.mk.inj heq
    obtain ⟨hr, hid⟩ := List.mem_filter.mp hr
    -- the joined revision is the one the pointer names
    obtain ⟨x, hx, hxid, hsel⟩ := hst.pointers d' hd
    have hxr : x = r' := List.inj_on_of_nodup_map hst.revisionKeys hx hr
      (hxid.trans (of_decide_eq_true hid).symm)
    rw [hxr] at hsel
    rw [hrow] at h
    have hread : readDeployment d' = .ok d' := by
      unfold readDeployment
      rw [require_pos (hst.versions d' hd)]
      rfl
    simp only [expect, ok_bind, hread, require_pos hsel] at h
    cases h

theorem mem_leftJoin {α : Type} {rows : List α} {o : Option α} (h : o ∈ leftJoin rows) :
    (o = none ∧ rows = []) ∨ ∃ x ∈ rows, o = some x := by
  unfold leftJoin at h
  split at h
  next hempty => exact Or.inl ⟨List.mem_singleton.mp h, List.isEmpty_iff.mp hempty⟩
  next =>
    obtain ⟨x, hx, rfl⟩ := List.mem_map.mp h
    exact Or.inr ⟨x, hx, rfl⟩

/-- What the joins put in one row. -/
theorem mem_controlRows {row : ControlRow} (h : row ∈ st.controlRows tenantId) :
    row.latest ∈ st.revisions
      ∧ (∀ d ∈ row.deployment, d ∈ st.deployments ∧ d.tenantId = row.latest.tenantId
        ∧ d.controlId = row.latest.controlId
        ∧ ((row.active = none ∧ ∀ r ∈ st.revisions, r.revisionId ≠ d.revisionId)
          ∨ ∃ r ∈ st.revisions, row.active = some r ∧ r.revisionId = d.revisionId)) := by
  obtain ⟨latest, hlatest, h⟩ := List.mem_flatMap.mp h
  obtain ⟨o, ho, h⟩ := List.mem_flatMap.mp h
  obtain ⟨active, hactive, rfl⟩ := List.mem_map.mp h
  refine ⟨List.mem_of_mem_filter hlatest, ?_⟩
  intro d hd
  have hd : o = some d := hd
  rw [hd] at ho hactive
  have hmem : d ∈ st.deployments.filter fun d =>
      decide (d.tenantId = latest.tenantId ∧ d.controlId = latest.controlId) := by
    rcases mem_leftJoin ho with ⟨hnone, -⟩ | ⟨x, hx, heq⟩
    · cases hnone
    · rw [Option.some.inj heq]
      exact hx
  obtain ⟨hmem, hkey⟩ := List.mem_filter.mp hmem
  obtain ⟨ht, hc⟩ := of_decide_eq_true hkey
  refine ⟨hmem, ht, hc, ?_⟩
  rcases mem_leftJoin hactive with ⟨hnone, hempty⟩ | ⟨r, hr, heq⟩
  · refine Or.inl ⟨hnone, fun r hr hid => ?_⟩
    have hnot := List.filter_eq_nil_iff.mp hempty r hr
    exact hnot (decide_eq_true (by rw [hid]; rfl))
  · obtain ⟨hr, hid⟩ := List.mem_filter.mp hr
    exact Or.inr ⟨r, hr, heq, (Option.some.inj (of_decide_eq_true hid)).symm⟩

/-- No row of the query fails its checks. -/
theorem summarize_ok (hst : Sound sha st) {row : ControlRow}
    (h : row ∈ st.controlRows tenantId) : ∃ s, summarize sha row = .ok s := by
  obtain ⟨hlatest, hdeployment⟩ := mem_controlRows h
  have hread : readRevision sha row.latest = .ok row.latest := by
    unfold readRevision
    rw [require_pos (hst.valid row.latest hlatest)]
    rfl
  have hactive : readActive row = .ok row.deployment := by
    unfold readActive
    cases hd : row.deployment with
    | none => rfl
    | some d =>
      obtain ⟨hmem, -, -, hactive⟩ := hdeployment d hd
      obtain ⟨x, hx, hxid, hsel⟩ := hst.pointers d hmem
      have hfound : ∃ r ∈ row.active, d.selects r := by
        rcases hactive with ⟨-, hnone⟩ | ⟨r, hr, heq, hid⟩
        · exact absurd hxid (hnone x hx)
        · have hxr : x = r := List.inj_on_of_nodup_map hst.revisionKeys hx hr (hxid.trans hid.symm)
          exact ⟨r, heq, hxr ▸ hsel⟩
      simp only [readDeployment, require_pos (hst.versions d hmem), ok_bind, require_pos hfound,
        pure, Except.pure]
  refine ⟨⟨row.latest, row.deployment⟩, ?_⟩
  have hsame : ∀ d ∈ row.deployment,
      d.tenantId = row.latest.tenantId ∧ d.controlId = row.latest.controlId :=
    fun d hd => ⟨(hdeployment d hd).2.1, (hdeployment d hd).2.2.1⟩
  simp only [summarize, hread, hactive, ok_bind, require_pos hsame, pure, Except.pure]

theorem listControls_intact (hst : Sound sha st) (tenantId : String) (limit : Nat)
    (m : String) : listControls sha st tenantId limit ≠ .error (.integrity m) := by
  intro h
  unfold listControls at h
  by_cases hlimit : 1 ≤ limit ∧ limit ≤ 1000
  · have hall : ∀ row ∈ (((st.controlRows tenantId).mergeSort
        fun a b => decide (a.latest.controlId ≤ b.latest.controlId)).take limit),
        ∃ s, summarize sha row = .ok s ∧ True := by
      intro row hrow
      have hmem := (List.mergeSort_perm _ _).mem_iff.mp (List.mem_of_mem_take hrow)
      obtain ⟨s, hs⟩ := summarize_ok hst hmem
      exact ⟨s, hs, trivial⟩
    obtain ⟨summaries, hok, -⟩ := mapM_ok hall
    rw [require_pos hlimit, ok_bind, hok] at h
    cases h
  · rw [require_neg hlimit] at h
    cases h

/-! ## Every reachable state -/

/-- The revisions of a control in the order of their insertion, and its pointer. -/
structure SoundControl (sha : Document → Digest) (st : Store) (tenantId controlId : String) :
    Prop where
  generations : (st.controlRevisions tenantId controlId).map (·.generation)
    = List.range' 1 (st.controlRevisions tenantId controlId).length
  first : ∀ r ∈ st.controlRevisions tenantId controlId, r.generation = 1 →
    r.parentRevisionId = none
  parents : ∀ r ∈ st.controlRevisions tenantId controlId,
    ∀ p ∈ st.controlRevisions tenantId controlId, r.generation = p.generation + 1 →
      r.parentRevisionId = some p.revisionId
  inFlight : ∀ r ∈ st.controlRevisions tenantId controlId, r.inFlight →
    ∀ x ∈ st.controlRevisions tenantId controlId,
      x.generation ≤ r.generation ∧ (x.inFlight → x = r)
  approved : ∀ r ∈ st.controlRevisions tenantId controlId,
    r.state = .approved ∨ r.state = .retired →
      ∃ d, st.decisions.filter (fun x => decide (x.revisionId = r.revisionId)) = [d]
        ∧ d.tenantId = tenantId ∧ d.decision = .approved
  rejected : ∀ r ∈ st.controlRevisions tenantId controlId, r.state = .rejected →
    ∃ d, st.decisions.filter (fun x => decide (x.revisionId = r.revisionId)) = [d]
      ∧ d.tenantId = tenantId ∧ d.decision = .rejected
  pointer : ∀ d ∈ st.deploymentRow tenantId controlId,
    ∃ r ∈ st.controlRevisions tenantId controlId, r.revisionId = d.revisionId
      ∧ r.state = .approved ∧ r.configurationDigest = d.configurationDigest
  onePointer : (st.deployments.filter fun d =>
    decide (d.tenantId = tenantId ∧ d.controlId = controlId)).length ≤ 1
  getActiveDeployment : ∀ m,
    ControlPlane.getActiveDeployment st tenantId controlId ≠ .error (.integrity m)
  listControls : ∀ limit m,
    ControlPlane.listControls sha st tenantId limit ≠ .error (.integrity m)

/-- In a lineage, two rows are in the order of their generations. -/
theorem Lineage.position (h : Lineage revs) (hr : r ∈ revs) :
    ∃ pre post, revs = pre ++ r :: post ∧ r.generation = pre.length + 1 := by
  obtain ⟨pre, post, heq⟩ := List.append_of_mem hr
  exact ⟨pre, post, heq, h.generation heq⟩

/-- **Lineage and pointer.** In every state that store calls reach from an empty store. -/
theorem revision_lineage_and_pointer (sha : Document → Digest) (calls : List StoreCall)
    (tenantId controlId : String) :
    SoundControl sha (execute sha calls World.init).store tenantId controlId := by
  have hst := execute_sound sha calls
  generalize (execute sha calls World.init).store = st at hst
  have hlineage := hst.lineage tenantId controlId
  have hmem : ∀ r ∈ st.controlRevisions tenantId controlId,
      r ∈ st.revisions ∧ r.tenantId = tenantId ∧ r.controlId = controlId := by
    intro r hr
    obtain ⟨hr, hkey⟩ := List.mem_filter.mp hr
    exact ⟨hr, of_decide_eq_true hkey⟩
  refine ⟨hlineage.generations, ?_, ?_, ?_, ?_, ?_, ?_, ?_,
    getActiveDeployment_intact hst tenantId controlId, listControls_intact hst tenantId⟩
  · intro r hr hgeneration
    obtain ⟨pre, post, heq, hg⟩ := hlineage.position hr
    have hpre : pre = [] := List.length_eq_zero_iff.mp (by omega)
    rw [hlineage.parents pre r post heq, hpre]
    rfl
  · intro r hr p hp hgeneration
    obtain ⟨pre, post, heq, hg⟩ := hlineage.position hr
    obtain ⟨pre', post', heq', hg'⟩ := hlineage.position hp
    rw [hlineage.parents pre r post heq]
    -- the row before `r` is the one of generation g
    have hlast : pre.getLast? = some p := by
      have hget : (pre ++ r :: post)[pre'.length]? = some p := by
        rw [← heq, heq']
        simp
      rw [List.getElem?_append_left (by omega)] at hget
      rw [List.getLast?_eq_getElem?, ← hget]
      congr 1
      omega
    rw [hlast]
    rfl
  · intro r hr hflight x hx
    obtain ⟨pre, post, heq, hg⟩ := hlineage.position hr
    obtain ⟨pre', post', heq', hg'⟩ := hlineage.position hx
    have hpost := hlineage.latest pre r post heq hflight
    have hlength := congrArg List.length (heq.symm.trans heq')
    rw [hpost] at hlength
    simp only [List.length_append, List.length_cons, List.length_nil] at hlength
    refine ⟨by omega, fun hother => ?_⟩
    have hpost' := hlineage.latest pre' x post' heq' hother
    rw [hpost] at heq
    rw [hpost'] at heq'
    have hends := (List.append_inj' (heq.symm.trans heq') rfl).2
    exact (List.cons.inj hends).1.symm
  · intro r hr hstate
    obtain ⟨hrow, rfl, -⟩ := hmem r hr
    have hdecided := hst.decided r hrow
    unfold Decided at hdecided
    rcases hstate with hstate | hstate
    · rw [hstate] at hdecided
      exact hdecided
    · rw [hstate] at hdecided
      exact hdecided
  · intro r hr hstate
    obtain ⟨hrow, rfl, -⟩ := hmem r hr
    have hdecided := hst.decided r hrow
    unfold Decided at hdecided
    rw [hstate] at hdecided
    exact hdecided
  · intro d hd
    obtain ⟨hrow, rfl, rfl⟩ := deploymentRow_some hd
    obtain ⟨r, hr, hid, hdigest, ht, hc, hstate⟩ := hst.pointers d hrow
    exact ⟨r, List.mem_filter.mpr ⟨hr, decide_eq_true ⟨ht, hc⟩⟩, hid, hstate, hdigest⟩
  · refine filter_key_le_one (v := (tenantId, controlId)) hst.deploymentKeys ?_
    intro d _ hp
    obtain ⟨ht, hc⟩ := of_decide_eq_true hp
    rw [ht, hc]

end ControlAssurance.ControlPlane
