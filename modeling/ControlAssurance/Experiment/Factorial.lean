import Mathlib.Data.List.ProdSigma
import ControlAssurance.Experiment.CompiledPlan
import ControlAssurance.Lib.Returns
import ControlAssurance.Lib.Wire

/-!
# The compiled plan is the full factorial

The levels of every axis are two values that no comparison confuses, so the sixteen cells are told
apart by their selectors as well as by their keys. From there the plan has one trial at each
coordinate, the coverage of an obligation is the trials of the cells it selects, and each contrast
finds its two cells (`compiled_plan_factorial`).
-/

namespace ControlAssurance.Experiment

open Lib

/-! ## Comparing values -/

theorem same_iff {a b : TypedValue} : a.same b = true ↔ a.canonical = b.canonical := by
  cases a <;> cases b <;> simp [TypedValue.same, TypedValue.canonical, Decimal.canonical_eq_iff]

/-- The two ways to compare values agree. -/
theorem sameValue_eq (a b : TypedValue) : a.sameValue b = a.same b := by
  rw [Bool.eq_iff_iff, same_iff, TypedValue.sameValue, decide_eq_true_iff]

theorem same_comm (a b : TypedValue) : a.same b = b.same a := by
  rw [Bool.eq_iff_iff, same_iff, same_iff, eq_comm]

/-! ## Levels -/

/-- A wanted level is exactly one of two. -/
def OneOf (first second wanted : TypedValue) : Prop :=
  first.same wanted = true ∧ second.same wanted = false
    ∨ first.same wanted = false ∧ second.same wanted = true

/-- The one of two levels that is wanted. -/
def pick (first second wanted : TypedValue) : TypedValue :=
  if first.same wanted = true then first else second

variable {first second : TypedValue} {cells : List GeneratedCell} {plan : TrialPlan}

theorem oneOf_first (h : first.same second = false) :
    OneOf first second first := .inl ⟨same_refl first, by rw [same_comm, h]⟩

theorem oneOf_second (h : first.same second = false) :
    OneOf first second second := .inr ⟨h, same_refl second⟩

theorem pick_first (first second : TypedValue) : pick first second first = first :=
  if_pos (same_refl first)

theorem pick_second (h : first.same second = false) :
    pick first second second = second := if_neg (by rw [h]; exact Bool.false_ne_true)

/-- The current level is the one of the two it equals. -/
theorem oneOf_current {current : TypedValue} (h : first.same second = false)
    (hcurrent : current.sameValue first = true ∨ current.sameValue second = true) :
    OneOf first second current := by
  rw [sameValue_eq, sameValue_eq, same_iff, same_iff] at hcurrent
  have hother : ¬first.canonical = second.canonical := by
    rw [← same_iff, h]
    exact Bool.false_ne_true
  unfold OneOf
  simp only [← Bool.not_eq_true, same_iff]
  rcases hcurrent with hfirst | hsecond
  · rw [hfirst]
    exact .inl ⟨rfl, fun hsame => hother hsame.symm⟩
  · rw [hsecond]
    exact .inr ⟨hother, rfl⟩

/-- The levels of a valid profile. -/
structure Levels (p : PreventiveNonMaskingProfile) : Prop where
  input : p.input.attack.same p.input.benign = false
  target : p.target.ineffective.same p.target.effective = false
  compensator : p.compensator.off.same p.compensator.on = false
  sham : p.sham.steady.same p.sham.redeploy = false
  currentTarget : OneOf p.target.ineffective p.target.effective p.target.current
  currentCompensator : OneOf p.compensator.off p.compensator.on p.compensator.current

theorem checkAxisLevels_ok {name : String}
    (h : checkAxisLevels name first second = .ok ()) : first.same second = false := by
  unfold checkAxisLevels at h
  simp only [bind_eq_ok, require_eq_ok, exists_and_left, exists_const] at h
  rw [← sameValue_eq]
  exact h.2

theorem checkCurrent_ok {name : String} {current : TypedValue}
    (h : checkCurrent name current first second = .ok ()) :
    current.sameValue first = true ∨ current.sameValue second = true := by
  unfold checkCurrent at h
  simp only [bind_eq_ok, require_eq_ok, exists_and_left, exists_const] at h
  exact h.2

theorem validate_levels {contract : ExperimentContract} (h : contract.validate = .ok ()) :
    Levels contract.profile := by
  unfold ExperimentContract.validate at h
  simp only [bind_eq_ok, require_eq_ok, exists_and_left, exists_const] at h
  obtain ⟨-, -, -, -, -, -, -, -, -, -, ⟨⟩, hprofile, -⟩ := h
  unfold PreventiveNonMaskingProfile.validate at hprofile
  simp only [bind_eq_ok] at hprofile
  obtain ⟨⟨⟩, hinput, ⟨⟩, htarget, ⟨⟩, hcompensator, ⟨⟩, hsham, -⟩ := hprofile
  unfold InputAxis.validate at hinput
  unfold TargetControlAxis.validate at htarget
  unfold CompensatorControlAxis.validate at hcompensator
  unfold ShamAxis.validate at hsham
  simp only [bind_eq_ok] at hinput htarget hcompensator hsham
  obtain ⟨-, -, -, -, ⟨⟩, hinputs, -⟩ := hinput
  obtain ⟨-, -, -, -, ⟨⟩, htargets, hcurrentTarget⟩ := htarget
  obtain ⟨-, -, -, -, ⟨⟩, hcompensators, hcurrentCompensator⟩ := hcompensator
  obtain ⟨-, -, hshams⟩ := hsham
  exact
    { input := checkAxisLevels_ok hinputs
      target := checkAxisLevels_ok htargets
      compensator := checkAxisLevels_ok hcompensators
      sham := checkAxisLevels_ok hshams
      currentTarget := oneOf_current (checkAxisLevels_ok htargets) (checkCurrent_ok hcurrentTarget)
      currentCompensator := oneOf_current (checkAxisLevels_ok hcompensators)
        (checkCurrent_ok hcurrentCompensator) }

/-- Every checked name is an identifier. -/
theorem checked_identifier {values : List (String × String)}
    (h : checkIdentifiers values = .ok ()) (field value : String) (hvalue : (field, value) ∈ values) :
    isIdentifier value = true := by
  have hstep := forM_eq_ok.mp h (field, value) hvalue
  by_cases hname : isIdentifier value = true
  · exact hname
  · rw [require_neg hname] at hstep
    cases hstep

theorem validate_blocks {contract : ExperimentContract} (h : contract.validate = .ok ()) :
    (∀ block ∈ contract.plan.blocks, isIdentifier block = true) ∧ contract.plan.blocks.Nodup := by
  unfold ExperimentContract.validate at h
  simp only [bind_eq_ok, require_eq_ok, exists_and_left, exists_const] at h
  obtain ⟨-, -, -, -, -, -, -, -, -, -, -, -, ⟨⟩, hplan, -⟩ := h
  unfold TrialPlan.validate at hplan
  simp only [bind_eq_ok, require_eq_ok, exists_and_left, exists_const] at hplan
  obtain ⟨-, ⟨⟩, hnames, -, -, hnodup⟩ := hplan
  refine ⟨fun block hblock => ?_, hnodup⟩
  exact checked_identifier hnames _ block (List.mem_map_of_mem hblock)

/-! ## Cells -/

/-- The labels of a cell are read off its key. -/
theorem cellAt_key_inj {i t c s i' t' c' s' : String} (hi : ';' ∉ i.toList) (hi' : ';' ∉ i'.toList)
    (ht : ';' ∉ t.toList) (ht' : ';' ∉ t'.toList) (hc : ';' ∉ c.toList) (hc' : ';' ∉ c'.toList)
    (h : "input=" ++ i ++ ";target=" ++ t ++ ";compensator=" ++ c ++ ";sham=" ++ s
      = "input=" ++ i' ++ ";target=" ++ t' ++ ";compensator=" ++ c' ++ ";sham=" ++ s') :
    i = i' ∧ t = t' ∧ c = c' ∧ s = s' := by
  have htarget : ";target=".toList = ';' :: "target=".toList := by decide
  have hcompensator : ";compensator=".toList = ';' :: "compensator=".toList := by decide
  have hsham : ";sham=".toList = ';' :: "sham=".toList := by decide
  have hlist := congrArg String.toList h
  simp only [String.toList_append, htarget, hcompensator, hsham, List.append_assoc,
    List.cons_append] at hlist
  obtain ⟨h₁, hlist⟩ := split_separator hi hi' (List.append_cancel_left hlist)
  obtain ⟨h₂, hlist⟩ := split_separator ht ht' (List.append_cancel_left hlist)
  obtain ⟨h₃, hlist⟩ := split_separator hc hc' (List.append_cancel_left hlist)
  exact ⟨String.toList_inj.mp h₁, String.toList_inj.mp h₂, String.toList_inj.mp h₃,
    String.toList_inj.mp (List.append_cancel_left hlist)⟩

/-- The keys of the cells do not depend on the levels. -/
theorem generateCells_keys (p : PreventiveNonMaskingProfile) :
    ((generateCells p).map (·.key)).Nodup := by
  let labels := ["attack", "benign"] ×ˢ ["ineffective", "effective"] ×ˢ ["off", "on"]
    ×ˢ ["steady", "redeploy"]
  have hkeys : (generateCells p).map (·.key) = labels.map fun l => "input=" ++ l.1 ++ ";target="
      ++ l.2.1 ++ ";compensator=" ++ l.2.2.1 ++ ";sham=" ++ l.2.2.2 := rfl
  have hlabels : labels.Nodup := by
    refine List.Nodup.product ?_ (List.Nodup.product ?_ (List.Nodup.product ?_ ?_)) <;> decide
  have hplain : ∀ l ∈ labels, ';' ∉ l.1.toList ∧ ';' ∉ l.2.1.toList ∧ ';' ∉ l.2.2.1.toList := by
    rintro ⟨input, target, compensator, sham⟩ hl
    have hone : ∀ label ∈ ["attack", "benign", "ineffective", "effective", "off", "on"],
        ';' ∉ label.toList := by decide
    obtain ⟨hinput, hl⟩ := List.mem_product.mp hl
    obtain ⟨htarget, hl⟩ := List.mem_product.mp hl
    have hcompensator := (List.mem_product.mp hl).1
    refine ⟨hone _ ?_, hone _ ?_, hone _ ?_⟩
    · exact List.mem_append_left ["ineffective", "effective", "off", "on"] hinput
    · exact List.mem_append_right ["attack", "benign"] (List.mem_append_left ["off", "on"] htarget)
    · exact List.mem_append_right ["attack", "benign", "ineffective", "effective"] hcompensator
  rw [hkeys]
  refine hlabels.map_on fun l hl m hm hsame => ?_
  obtain ⟨hi, ht, hc⟩ := hplain l hl
  obtain ⟨hi', ht', hc'⟩ := hplain m hm
  obtain ⟨h₁, h₂, h₃, h₄⟩ := cellAt_key_inj hi hi' ht ht' hc hc' hsame
  exact Prod.ext h₁ (Prod.ext h₂ (Prod.ext h₃ h₄))
theorem generateCells_length (p : PreventiveNonMaskingProfile) : (generateCells p).length = 16 := rfl

/-- A label of an axis with its level. -/
abbrev Level := String × TypedValue

/-- The wanted one of two labelled levels. -/
def pickLevel (first second : Level) (wanted : TypedValue) : Level :=
  if first.2.same wanted = true then first else second

def cellAt (input target compensator sham : Level) : GeneratedCell :=
  ⟨"input=" ++ input.1 ++ ";target=" ++ target.1 ++ ";compensator=" ++ compensator.1
      ++ ";sham=" ++ sham.1,
    some input.2, some target.2, some compensator.2, some sham.2⟩

theorem pickLevel_snd {first second : Level} {wanted : TypedValue} :
    (pickLevel first second wanted).2 = pick first.2 second.2 wanted := by
  unfold pickLevel pick
  split <;> rfl

/-- Of two levels a filter keeps what comes from the wanted one, if it keeps nothing that comes from
another. -/
theorem filter_levels {first second : Level} {wanted : TypedValue}
    {f : Level → List GeneratedCell} {keep : GeneratedCell → Bool}
    (h : OneOf first.2 second.2 wanted)
    (hother : ∀ level : Level, level.2.same wanted = false → (f level).filter keep = []) :
    ([first, second].flatMap f).filter keep = (f (pickLevel first second wanted)).filter keep := by
  have hboth : [first, second].flatMap f = f first ++ f second := by
    rw [List.flatMap_cons, List.flatMap_singleton]
  rw [hboth, List.filter_append]
  unfold pickLevel
  rcases h with ⟨hfirst, hsecond⟩ | ⟨hfirst, hsecond⟩
  · rw [if_pos hfirst, hother second hsecond, List.append_nil]
  · rw [if_neg (by rw [hfirst]; exact Bool.false_ne_true), hother first hfirst, List.nil_append]

/-- The wanted levels have one cell. -/
theorem cellFor_generated {p : PreventiveNonMaskingProfile} {i t c s : TypedValue}
    (hi : OneOf p.input.attack p.input.benign i)
    (ht : OneOf p.target.ineffective p.target.effective t)
    (hc : OneOf p.compensator.off p.compensator.on c)
    (hs : OneOf p.sham.steady p.sham.redeploy s) :
    ∃ cell ∈ generateCells p, cellFor (generateCells p) ⟨some i, some t, some c, some s⟩ = .ok cell
      ∧ cell.selector = ⟨some (pick p.input.attack p.input.benign i),
        some (pick p.target.ineffective p.target.effective t),
        some (pick p.compensator.off p.compensator.on c),
        some (pick p.sham.steady p.sham.redeploy s)⟩ := by
  let keep (cell : GeneratedCell) : Bool := cell.selector.same ⟨some i, some t, some c, some s⟩
  have hkeep : ∀ input target compensator sham : Level, keep (cellAt input target compensator sham)
      = (input.2.same i && target.2.same t && compensator.2.same c && sham.2.same s) :=
    fun _ _ _ _ => rfl
  have hcells : generateCells p = [("attack", p.input.attack), ("benign", p.input.benign)].flatMap
      fun input => [("ineffective", p.target.ineffective),
        ("effective", p.target.effective)].flatMap fun target =>
        [("off", p.compensator.off), ("on", p.compensator.on)].flatMap fun compensator =>
          [("steady", p.sham.steady), ("redeploy", p.sham.redeploy)].flatMap fun sham =>
            [cellAt input target compensator sham] := rfl
  have hfilter : (generateCells p).filter keep
      = [cellAt (pickLevel ("attack", p.input.attack) ("benign", p.input.benign) i)
        (pickLevel ("ineffective", p.target.ineffective) ("effective", p.target.effective) t)
        (pickLevel ("off", p.compensator.off) ("on", p.compensator.on) c)
        (pickLevel ("steady", p.sham.steady) ("redeploy", p.sham.redeploy) s)] := by
    rw [hcells, filter_levels hi, filter_levels ht, filter_levels hc, filter_levels hs]
    · have hpicked : ∀ {first second : Level} {wanted : TypedValue},
          OneOf first.2 second.2 wanted → (pickLevel first second wanted).2.same wanted = true := by
        intro first second wanted h
        unfold pickLevel
        rcases h with ⟨hfirst, -⟩ | ⟨hfirst, hsecond⟩
        · rw [if_pos hfirst, hfirst]
        · rw [if_neg (by rw [hfirst]; exact Bool.false_ne_true), hsecond]
      refine List.filter_eq_self.mpr fun cell hcell => ?_
      rw [List.mem_singleton.mp hcell, hkeep, hpicked hi, hpicked ht, hpicked hc, hpicked hs]
      rfl
    all_goals
      intro level hlevel
      refine List.filter_eq_nil_iff.mpr fun cell hcell => ?_
      simp only [List.mem_flatMap, List.mem_singleton] at hcell
    · subst hcell
      simp [hkeep, hlevel]
    · obtain ⟨_, _, rfl⟩ := hcell
      simp [hkeep, hlevel]
    · obtain ⟨_, _, _, _, rfl⟩ := hcell
      simp [hkeep, hlevel]
    · obtain ⟨_, _, _, _, _, _, rfl⟩ := hcell
      simp [hkeep, hlevel]
  refine ⟨_, (List.mem_filter.mp (hfilter ▸ List.mem_singleton.mpr rfl)).1, ?_, ?_⟩
  · unfold cellFor
    rw [hfilter]
  · unfold cellAt
    rw [pickLevel_snd, pickLevel_snd, pickLevel_snd, pickLevel_snd]

/-! ## Coordinates -/

/-- Where a trial is: its cell, its block and its number. -/
def PlannedTrial.coordinate (t : PlannedTrial) : String × String × Nat :=
  (t.cellKey, t.block, t.replicate)

/-- All coordinates of a plan. -/
def coordinates (plan : TrialPlan) (cells : List GeneratedCell) : List (String × String × Nat) :=
  cells.map (·.key) ×ˢ sortedBlocks plan ×ˢ List.range' 1 plan.replicates

theorem rawTrials_coordinates (R : CompilerRuntime) (plan : TrialPlan) (cells : List GeneratedCell)
    (digest : Digest) :
    (rawTrials R plan cells digest).map (fun raw => (raw.cellKey, raw.block, raw.replicate))
      = coordinates plan cells := by
  show _ = (cells.map (·.key)).flatMap fun key => ((sortedBlocks plan).flatMap fun block =>
    (List.range' 1 plan.replicates).map (Prod.mk block)).map (Prod.mk key)
  unfold rawTrials
  rw [List.map_flatMap, List.flatMap_map]
  refine List.flatMap_congr fun cell _ => ?_
  rw [List.map_flatMap, List.map_flatMap]
  refine List.flatMap_congr fun block _ => ?_
  rw [List.map_map, List.map_map, List.range'_eq_map_range, List.map_map]
  refine List.map_congr_left fun i _ => ?_
  show (cell.key, block, i + 1) = (cell.key, block, 1 + i)
  rw [Nat.add_comm]

theorem coordinates_length (plan : TrialPlan) (cells : List GeneratedCell) :
    (coordinates plan cells).length = cells.length * plan.blocks.length * plan.replicates := by
  unfold coordinates sortedBlocks
  rw [List.length_product, List.length_product, List.length_map, List.length_range',
    List.length_mergeSort, Nat.mul_assoc]

theorem coordinates_nodup (hcells : (cells.map (·.key)).Nodup) (hblocks : plan.blocks.Nodup) :
    (coordinates plan cells).Nodup := by
  unfold coordinates sortedBlocks
  exact hcells.product
    (((List.mergeSort_perm _ _).nodup_iff.mpr hblocks).product List.nodup_range')

theorem mem_coordinates {c : String × String × Nat} :
    c ∈ coordinates plan cells ↔ c.1 ∈ cells.map (·.key) ∧ c.2.1 ∈ plan.blocks
      ∧ 1 ≤ c.2.2 ∧ c.2.2 ≤ plan.replicates := by
  obtain ⟨key, block, replicate⟩ := c
  unfold coordinates sortedBlocks
  rw [List.mem_product, List.mem_product, List.mem_mergeSort, List.mem_range'_1]
  have hbound : replicate < 1 + plan.replicates ↔ replicate ≤ plan.replicates := by omega
  rw [hbound]

/-- The planned trials are at all coordinates, in some order. -/
theorem planTrials_coordinates (R : CompilerRuntime) (plan : TrialPlan) (cells : List GeneratedCell)
    (digest : Digest) :
    ((planTrials R plan cells digest).map PlannedTrial.coordinate).Perm (coordinates plan cells) := by
  have hsorted : (planTrials R plan cells digest).map PlannedTrial.coordinate
      = ((rawTrials R plan cells digest).mergeSort RawTrial.le).map
        fun raw => (raw.cellKey, raw.block, raw.replicate) := by
    unfold planTrials
    rw [List.map_map]
    conv_rhs => rw [← List.zipIdx_map_fst 0 ((rawTrials R plan cells digest).mergeSort RawTrial.le)]
    rw [List.map_map]
    rfl
  rw [hsorted, ← rawTrials_coordinates R plan cells digest]
  exact (List.mergeSort_perm _ _).map _

theorem planTrials_ordinals (R : CompilerRuntime) (plan : TrialPlan) (cells : List GeneratedCell)
    (digest : Digest) :
    (planTrials R plan cells digest).map (·.ordinal)
      = List.range' 1 (cells.length * plan.blocks.length * plan.replicates) := by
  have hlength : ((rawTrials R plan cells digest).mergeSort RawTrial.le).length
      = cells.length * plan.blocks.length * plan.replicates := by
    rw [List.length_mergeSort, ← coordinates_length, ← rawTrials_coordinates R plan cells digest,
      List.length_map]
  unfold planTrials
  rw [List.map_map, ← hlength]
  have hsucc : ((fun t : PlannedTrial => t.ordinal) ∘ fun x : RawTrial × Nat =>
      (⟨x.1.key, x.2 + 1, x.1.cellKey, x.1.block, x.1.replicate⟩ : PlannedTrial))
      = (· + 1) ∘ Prod.snd := rfl
  show List.map ((fun t : PlannedTrial => t.ordinal) ∘ fun x : RawTrial × Nat =>
      (⟨x.1.key, x.2 + 1, x.1.cellKey, x.1.block, x.1.replicate⟩ : PlannedTrial)) _ = _
  have hcomm : (fun n : Nat => n + 1) = (1 + ·) := funext fun n => Nat.add_comm n 1
  rw [hsucc, ← List.map_map, List.zipIdx_map_snd, hcomm, List.map_add_range']

/-! ## Trial keys -/

/-- The text that a trial key is the hash of. -/
def trialMaterial (digest : Digest) (c : String × String × Nat) : String :=
  String.intercalate "\x00" [Digest.text digest, c.1, c.2.1, toString c.2.2]

theorem toString_inj {m n : Nat} (h : (toString m).toList = (toString n).toList) : m = n := by
  have hm : (toString m).toList = Nat.toDigits 10 m := Nat.toList_repr
  have hn : (toString n).toList = Nat.toDigits 10 n := Nat.toList_repr
  rw [hm, hn] at h
  rw [← Nat.ofDigitChars_ten_toDigits (n := m), h, Nat.ofDigitChars_ten_toDigits]

theorem trialMaterial_toList (digest : Digest) (c : String × String × Nat) :
    (trialMaterial digest c).toList = (Digest.text digest).toList ++ '\x00' :: (c.1.toList
      ++ '\x00' :: (c.2.1.toList ++ '\x00' :: (toString c.2.2).toList)) := by
  show (((Digest.text digest ++ "\x00" ++ c.1) ++ "\x00" ++ c.2.1) ++ "\x00"
    ++ toString c.2.2).toList = _
  simp only [String.toList_append]
  have hseparator : "\x00".toList = ['\x00'] := by decide
  rw [hseparator]
  simp only [List.append_assoc, List.cons_append, List.nil_append]

/-- No name of a plan holds the separator, so its materials are distinct texts. -/
theorem trialMaterial_inj {digest : Digest} {c d : String × String × Nat}
    (hc : '\x00' ∉ c.1.toList) (hc' : '\x00' ∉ c.2.1.toList)
    (hd : '\x00' ∉ d.1.toList) (hd' : '\x00' ∉ d.2.1.toList)
    (h : trialMaterial digest c = trialMaterial digest d) : c = d := by
  have hlist := congrArg String.toList h
  rw [trialMaterial_toList, trialMaterial_toList] at hlist
  obtain ⟨hkey, hrest⟩ := split_separator hc hd
    (List.cons.inj (List.append_cancel_left hlist)).2
  obtain ⟨hblock, hreplicate⟩ := split_separator hc' hd' hrest
  exact Prod.ext (String.toList_inj.mp hkey)
    (Prod.ext (String.toList_inj.mp hblock) (toString_inj hreplicate))

theorem isIdentifier_separator {value : String} (h : isIdentifier value = true) :
    '\x00' ∉ value.toList := by
  unfold isIdentifier Benchmark.headThen at h
  rw [Bool.and_eq_true] at h
  obtain ⟨-, h⟩ := h
  intro hmem
  cases hlist : value.toList with
  | nil =>
    rw [hlist] at hmem
    cases hmem
  | cons c tail =>
    rw [hlist] at h hmem
    rw [Bool.and_eq_true, List.all_eq_true] at h
    rcases List.mem_cons.mp hmem with rfl | hmem
    · exact absurd h.1 (by decide)
    · exact absurd (h.2 _ hmem) (by decide)

theorem generateCells_separator {p : PreventiveNonMaskingProfile} {key : String}
    (h : key ∈ (generateCells p).map (·.key)) : '\x00' ∉ key.toList := by
  obtain ⟨cell, hcell, rfl⟩ := List.mem_map.mp h
  unfold generateCells at hcell
  simp only [List.mem_flatMap, List.mem_map] at hcell
  obtain ⟨input, hinput, target, htarget, compensator, hcompensator, sham, hsham, rfl⟩ := hcell
  simp only [List.mem_cons, List.not_mem_nil, or_false] at hinput htarget hcompensator hsham
  have hlabels : '\x00' ∉ input.1.toList ∧ '\x00' ∉ target.1.toList ∧ '\x00' ∉ compensator.1.toList
      ∧ '\x00' ∉ sham.1.toList := by
    refine ⟨?_, ?_, ?_, ?_⟩
    · rcases hinput with rfl | rfl <;> (dsimp only; decide)
    · rcases htarget with rfl | rfl <;> (dsimp only; decide)
    · rcases hcompensator with rfl | rfl <;> (dsimp only; decide)
    · rcases hsham with rfl | rfl <;> (dsimp only; decide)
  have h₁ : '\x00' ∉ "input=".toList := by decide
  have h₂ : '\x00' ∉ ";target=".toList := by decide
  have h₃ : '\x00' ∉ ";compensator=".toList := by decide
  have h₄ : '\x00' ∉ ";sham=".toList := by decide
  simp only [String.toList_append, List.mem_append, h₁, h₂, h₃, h₄, hlabels, or_self,
    not_false_eq_true]

/-- Distinct coordinates of the plan have distinct hashes. -/
def NoCollision (R : CompilerRuntime) (compiled : CompiledExperiment) : Prop :=
  ∀ c ∈ coordinates compiled.contract.plan compiled.cells,
    ∀ d ∈ coordinates compiled.contract.plan compiled.cells,
      R.sha256 (trialMaterial compiled.specDigest c) = R.sha256 (trialMaterial compiled.specDigest d) →
        trialMaterial compiled.specDigest c = trialMaterial compiled.specDigest d

/-- The key of a planned trial is the hash of its coordinate. -/
theorem planTrials_key {R : CompilerRuntime}
    {digest : Digest} {t : PlannedTrial} (h : t ∈ planTrials R plan cells digest) :
    t.key = R.sha256 (trialMaterial digest t.coordinate) := by
  unfold planTrials at h
  obtain ⟨⟨raw, i⟩, hraw, rfl⟩ := List.mem_map.mp h
  have hmem := List.mem_mergeSort.mp (List.fst_mem_of_mem_zipIdx hraw)
  unfold rawTrials at hmem
  simp only [List.mem_flatMap, List.mem_map] at hmem
  obtain ⟨cell, -, block, -, j, -, rfl⟩ := hmem
  rfl

/-! ## Coverage -/

/-- The cell of a trial is selected. -/
def coveredBy (cells : List GeneratedCell) (o : Obligation) (t : PlannedTrial) : Bool :=
  cells.any fun cell => decide (cell.key = t.cellKey) && selectorMatches o.selector cell.selector

/-- A filter whose every test returns. -/
theorem filterM_returns {ε α : Type} {f : α → Except ε Bool} {p : α → Bool} {l : List α}
    (h : ∀ a ∈ l, f a = .ok (p a)) : l.filterM f = .ok (l.filter p) := by
  have hrun : ∀ (l acc : List α), (∀ a ∈ l, f a = .ok (p a)) →
      List.filterAuxM f l acc = .ok ((l.filter p).reverse ++ acc) := by
    intro l
    induction l with
    | nil => exact fun acc _ => rfl
    | cons a l ih =>
      intro acc hl
      rw [List.filterAuxM, hl a (List.mem_cons_self ..), ok_bind,
        ih _ fun b hb => hl b (List.mem_cons_of_mem _ hb), List.filter_cons]
      cases hp : p a
      · rfl
      · simp [cond]
  unfold List.filterM
  rw [hrun l [] h, ok_bind, List.append_nil, List.reverse_reverse]
  rfl

/-- The trials of an obligation are those of the cells it selects. -/
theorem coveredTrials_eq {trials : List PlannedTrial} {o : Obligation}
    (hcells : (cells.map (·.key)).Nodup) (htrials : ∀ t ∈ trials, t.cellKey ∈ cells.map (·.key)) :
    coveredTrials cells trials o = .ok ((trials.filter (coveredBy cells o)).map (·.key)) := by
  unfold coveredTrials
  have htests : ∀ t ∈ trials, (do
      let selector ← expect ((selectorsByKey cells).get? t.cellKey) "KeyError"
      pure (selectorMatches o.selector selector)) = Except.ok (coveredBy cells o t) := by
    intro t ht
    obtain ⟨cell, hcell, hkey⟩ := List.mem_map.mp (htrials t ht)
    have hpairs : ((cells.map fun cell => (cell.key, cell.selector)).map Prod.fst).Nodup := by
      rw [List.map_map]
      exact hcells
    have hselector : (selectorsByKey cells).get? t.cellKey = some cell.selector := by
      unfold selectorsByKey
      rw [Dict.ofPairs_of_nodup hpairs]
      refine Dict.get?_of_mem hpairs ?_
      rw [← hkey]
      exact List.mem_map_of_mem hcell
    rw [hselector]
    show Except.ok (selectorMatches o.selector cell.selector) = _
    congr 1
    unfold coveredBy
    rw [Bool.eq_iff_iff, List.any_eq_true]
    constructor
    · intro hmatches
      exact ⟨cell, hcell, by rw [decide_eq_true hkey, hmatches]; rfl⟩
    · rintro ⟨other, hother, hboth⟩
      rw [Bool.and_eq_true, decide_eq_true_iff] at hboth
      obtain rfl := List.inj_on_of_nodup_map hcells hother hcell (hboth.1.trans hkey.symm)
      exact hboth.2
  rw [filterM_returns htests]
  rfl

/-! ## Contrasts -/

/-- Two selectors differ on the axis and agree on the others. -/
def DifferOnly (axis : VariedAxis) (left right : CellSelector) : Prop :=
  left.input = right.input ∧ match axis with
  | .target => sameOptional left.target right.target = false
    ∧ left.compensator = right.compensator ∧ left.sham = right.sham
  | .compensator => left.target = right.target
    ∧ sameOptional left.compensator right.compensator = false ∧ left.sham = right.sham
  | .sham => left.target = right.target ∧ left.compensator = right.compensator
    ∧ sameOptional left.sham right.sham = false

/-- A contrast compares two cells that differ on its axis only. -/
def ContrastDefinition.Resolved (cells : List GeneratedCell) (contrast : ContrastDefinition) : Prop :=
  ∃ left ∈ cells, ∃ right ∈ cells, contrast.pairs = [⟨left.key, right.key⟩]
    ∧ DifferOnly contrast.variedAxis left.selector right.selector

section

variable {p : PreventiveNonMaskingProfile}

/-- A pair of selectors that vary the target. -/
theorem targetPair (hlevels : Levels p) {i c s : TypedValue}
    (hi : OneOf p.input.attack p.input.benign i)
    (hc : OneOf p.compensator.off p.compensator.on c)
    (hs : OneOf p.sham.steady p.sham.redeploy s) :
    ∃ left ∈ generateCells p, ∃ right ∈ generateCells p,
      contrastPair (generateCells p) ⟨some i, some p.target.ineffective, some c, some s⟩
        ⟨some i, some p.target.effective, some c, some s⟩ = .ok [⟨left.key, right.key⟩]
      ∧ DifferOnly .target left.selector right.selector := by
  obtain ⟨left, hleft, hfound, hselector⟩ :=
    cellFor_generated hi (oneOf_first hlevels.target) hc hs
  obtain ⟨right, hright, hfound', hselector'⟩ :=
    cellFor_generated hi (oneOf_second hlevels.target) hc hs
  refine ⟨left, hleft, right, hright, ?_, ?_⟩
  · unfold contrastPair
    rw [hfound, ok_bind, hfound', ok_bind]
    rfl
  · rw [hselector, hselector', pick_first, pick_second hlevels.target]
    exact ⟨rfl, hlevels.target, rfl, rfl⟩

/-- A pair of selectors that vary the compensator. -/
theorem compensatorPair (hlevels : Levels p) {i t s : TypedValue}
    (hi : OneOf p.input.attack p.input.benign i)
    (ht : OneOf p.target.ineffective p.target.effective t)
    (hs : OneOf p.sham.steady p.sham.redeploy s) :
    ∃ left ∈ generateCells p, ∃ right ∈ generateCells p,
      contrastPair (generateCells p) ⟨some i, some t, some p.compensator.off, some s⟩
        ⟨some i, some t, some p.compensator.on, some s⟩ = .ok [⟨left.key, right.key⟩]
      ∧ DifferOnly .compensator left.selector right.selector := by
  obtain ⟨left, hleft, hfound, hselector⟩ :=
    cellFor_generated hi ht (oneOf_first hlevels.compensator) hs
  obtain ⟨right, hright, hfound', hselector'⟩ :=
    cellFor_generated hi ht (oneOf_second hlevels.compensator) hs
  refine ⟨left, hleft, right, hright, ?_, ?_⟩
  · unfold contrastPair
    rw [hfound, ok_bind, hfound', ok_bind]
    rfl
  · rw [hselector, hselector', pick_first, pick_second hlevels.compensator]
    exact ⟨rfl, rfl, hlevels.compensator, rfl⟩

/-- A pair of selectors that vary the sham. -/
theorem shamPair (hlevels : Levels p) {i t c : TypedValue}
    (hi : OneOf p.input.attack p.input.benign i)
    (ht : OneOf p.target.ineffective p.target.effective t)
    (hc : OneOf p.compensator.off p.compensator.on c) :
    ∃ left ∈ generateCells p, ∃ right ∈ generateCells p,
      contrastPair (generateCells p) ⟨some i, some t, some c, some p.sham.steady⟩
        ⟨some i, some t, some c, some p.sham.redeploy⟩ = .ok [⟨left.key, right.key⟩]
      ∧ DifferOnly .sham left.selector right.selector := by
  obtain ⟨left, hleft, hfound, hselector⟩ :=
    cellFor_generated hi ht hc (oneOf_first hlevels.sham)
  obtain ⟨right, hright, hfound', hselector'⟩ :=
    cellFor_generated hi ht hc (oneOf_second hlevels.sham)
  refine ⟨left, hleft, right, hright, ?_, ?_⟩
  · unfold contrastPair
    rw [hfound, ok_bind, hfound', ok_bind]
    rfl
  · rw [hselector, hselector', pick_first, pick_second hlevels.sham]
    exact ⟨rfl, rfl, rfl, hlevels.sham⟩

/-- The five contrasts find their cells. -/
theorem generateContrasts_resolved (hlevels : Levels p) :
    ∃ contrasts, generateContrasts p (generateCells p) = .ok contrasts
      ∧ ∀ contrast ∈ contrasts, contrast.Resolved (generateCells p) := by
  have hattack := oneOf_first hlevels.input
  have hbenign := oneOf_second hlevels.input
  have hsteady := oneOf_first hlevels.sham
  have hoff := oneOf_first hlevels.compensator
  obtain ⟨l₁, hl₁, r₁, hr₁, h₁, hd₁⟩ := targetPair hlevels hattack hoff hsteady
  obtain ⟨l₂, hl₂, r₂, hr₂, h₂, hd₂⟩ := targetPair hlevels hbenign hoff hsteady
  obtain ⟨l₃, hl₃, r₃, hr₃, h₃, hd₃⟩ :=
    compensatorPair hlevels hbenign hlevels.currentTarget hsteady
  obtain ⟨l₄, hl₄, r₄, hr₄, h₄, hd₄⟩ :=
    shamPair hlevels hattack hlevels.currentTarget hlevels.currentCompensator
  obtain ⟨l₅, hl₅, r₅, hr₅, h₅, hd₅⟩ :=
    compensatorPair hlevels hattack (oneOf_first hlevels.target) hsteady
  unfold generateContrasts
  dsimp only
  rw [h₁, ok_bind, h₂, ok_bind, h₃, ok_bind, h₄, ok_bind, h₅, ok_bind]
  refine ⟨_, rfl, fun contrast hcontrast => ?_⟩
  simp only [List.mem_cons, List.not_mem_nil, or_false] at hcontrast
  rcases hcontrast with rfl | rfl | rfl | rfl | rfl
  · exact ⟨l₁, hl₁, r₁, hr₁, rfl, hd₁⟩
  · exact ⟨l₂, hl₂, r₂, hr₂, rfl, hd₂⟩
  · exact ⟨l₃, hl₃, r₃, hr₃, rfl, hd₃⟩
  · exact ⟨l₄, hl₄, r₄, hr₄, rfl, hd₄⟩
  · exact ⟨l₅, hl₅, r₅, hr₅, rfl, hd₅⟩

end

/-! ## The compiled plan -/

/-- What a full factorial is. -/
structure Factorial (R : CompilerRuntime) (c : CompiledExperiment) : Prop where
  cells : c.cells.length = 16 ∧ (c.cells.map (·.key)).Nodup
  injective : (c.plannedTrials.map PlannedTrial.coordinate).Nodup
  onto : ∀ cellKey block replicate,
    (cellKey, block, replicate) ∈ c.plannedTrials.map PlannedTrial.coordinate
      ↔ cellKey ∈ c.cells.map (·.key) ∧ block ∈ c.contract.plan.blocks
        ∧ 1 ≤ replicate ∧ replicate ≤ c.contract.plan.replicates
  ordinals : c.plannedTrials.map (·.ordinal)
    = List.range' 1 (16 * c.contract.plan.blocks.length * c.contract.plan.replicates)
  keys : NoCollision R c → (c.plannedTrials.map (·.key)).Nodup
  obligations : (c.obligationCoverage.map (·.obligationId)).Perm (c.contract.obligations.map (·.id))
    ∧ (c.obligationCoverage.map (·.obligationId)).Nodup
  coverage : ∀ o ∈ c.contract.obligations, ∀ item ∈ c.obligationCoverage, item.obligationId = o.id →
    item.trialKeys = (c.plannedTrials.filter (coveredBy c.cells o)).map (·.key)
      ∧ item.trialKeys ≠ [] ∧ o.quantifier.minTrials ≤ item.trialKeys.length
  contrasts : c.contrasts.length = 5 ∧ ∀ contrast ∈ c.contrasts, contrast.Resolved c.cells

section

variable {R : CompilerRuntime} {contract : ExperimentContract} {compiled : CompiledExperiment}

/-- The items of the coverage are those of the obligations in their order. -/
theorem coverage_items {cells : List GeneratedCell} {trials : List PlannedTrial}
    (hcells : (cells.map (·.key)).Nodup) (htrials : ∀ t ∈ trials, t.cellKey ∈ cells.map (·.key)) :
    ∀ {sorted : List Obligation} {covered : List ObligationCoverage},
      (sorted.mapM fun obligation => do
        let keys ← coveredTrials cells trials obligation
        require (1 ≤ keys.length ∧ keys.length ≤ maxPlannedTrials) "trial_keys"
        pure (ObligationCoverage.mk obligation.id keys)) = Except.ok covered →
      covered = sorted.map fun o =>
        ⟨o.id, (trials.filter (coveredBy cells o)).map (·.key)⟩ := by
  intro sorted
  induction sorted with
  | nil =>
    intro covered hcovered
    cases hcovered
    rfl
  | cons o sorted ih =>
    intro covered hcovered
    simp only [List.mapM_cons, bind_eq_ok, pure_eq_ok] at hcovered
    obtain ⟨item, ⟨keys, hkeys, ⟨⟩, -, rfl⟩, rest, hrest, rfl⟩ := hcovered
    rw [coveredTrials_eq hcells htrials] at hkeys
    obtain rfl := Except.ok.inj hkeys
    rw [List.map_cons, ih hrest]

/-- The coverage of a compiled experiment. -/
theorem compile_coverage (h : compileExperiment R contract = .ok compiled) :
    compiled.obligationCoverage
      = (compiled.contract.obligations.mergeSort fun a b => decide (a.id ≤ b.id)).map fun o =>
        ⟨o.id, (compiled.plannedTrials.filter (coveredBy compiled.cells o)).map (·.key)⟩ := by
  obtain ⟨metrics, obligations, hby⟩ := compile_ok h
  rw [hby.contract_eq, hby.cells_eq]
  refine coverage_items (generateCells_keys _) (fun t ht => ?_) hby.covered
  rw [hby.planned_eq] at ht
  obtain ⟨-, -, -, -, cell, hcell, hkey⟩ := planTrials_coordinate ht
  rw [hkey]
  exact List.mem_map_of_mem hcell

/-- The checks of the last step before a contract is compiled. -/
theorem compile_minimum (h : compileExperiment R contract = .ok compiled) :
    validateMinimumTrials compiled.contract.obligations compiled.obligationCoverage = .ok () := by
  unfold compileExperiment at h
  simp only [bind_eq_ok, mapError_eq_ok, pure_eq_ok] at h
  obtain ⟨⟨⟩, -, -, -, -, -, _, -, ⟨⟩, -, ⟨⟩, -, canonical, -, covered, -, ⟨⟩, hminimum, contrasts,
    -, ⟨⟩, -, rfl⟩ := h
  exact hminimum

/-- A covered obligation has as many trials as its quantifier asks for. -/
theorem compile_minTrials (h : compileExperiment R contract = .ok compiled) {o : Obligation}
    (ho : o ∈ compiled.contract.obligations) {item : ObligationCoverage}
    (hitem : item ∈ compiled.obligationCoverage)
    (hnodup : (compiled.obligationCoverage.map (·.obligationId)).Nodup)
    (hid : item.obligationId = o.id) : o.quantifier.minTrials ≤ item.trialKeys.length := by
  have hkeys : ((compiled.obligationCoverage.map fun c =>
      (c.obligationId, c.trialKeys.length)).map Prod.fst).Nodup := by
    rw [List.map_map]
    exact hnodup
  have hpairs : (Dict.ofPairs (compiled.obligationCoverage.map fun c =>
      (c.obligationId, c.trialKeys.length))).get? o.id = some item.trialKeys.length := by
    rw [Dict.ofPairs_of_nodup hkeys]
    refine Dict.get?_of_mem hkeys ?_
    rw [← hid]
    exact List.mem_map_of_mem hitem
  have hstep := forM_eq_ok.mp (compile_minimum h) o ho
  simp only [bind_eq_ok, require_eq_ok, exists_and_left, exists_const] at hstep
  rw [hpairs] at hstep
  exact not_lt.mp hstep.2

theorem compile_factorial (h : compileExperiment R contract = .ok compiled) :
    Factorial R compiled := by
  obtain ⟨metrics, obligations, hby⟩ := compile_ok h
  have hcoverage := compile_coverage h
  obtain rfl := hby.contract_eq
  have hlevels := validate_levels hby.valid
  obtain ⟨hblockNames, hblocks⟩ := validate_blocks hby.valid
  have hcells : (compiled.cells.map (·.key)).Nodup := hby.cells_eq ▸ generateCells_keys _
  have hlength : compiled.cells.length = 16 := hby.cells_eq ▸ generateCells_length _
  have hperm : (compiled.plannedTrials.map PlannedTrial.coordinate).Perm
      (coordinates compiled.contract.plan compiled.cells) := by
    rw [hby.planned_eq, hby.cells_eq]
    exact planTrials_coordinates R _ _ _
  have hinjective : (compiled.plannedTrials.map PlannedTrial.coordinate).Nodup :=
    hperm.nodup_iff.mpr (coordinates_nodup hcells hblocks)
  have hids : (compiled.obligationCoverage.map (·.obligationId)).Perm
      (compiled.contract.obligations.map (·.id)) := by
    rw [hcoverage, List.map_map]
    exact (List.mergeSort_perm _ _).map (fun o : Obligation => o.id)
  have hnodup : (compiled.obligationCoverage.map (·.obligationId)).Nodup :=
    hids.nodup_iff.mpr (uniqueById_ok hby.obligations_ok).2
  refine
    { cells := ⟨hlength, hcells⟩
      injective := hinjective
      onto := fun cellKey block replicate => hperm.mem_iff.trans mem_coordinates
      ordinals := ?_
      keys := fun hcollision => ?_
      obligations := ⟨hids, hnodup⟩
      coverage := fun o ho item hitem hid => ?_
      contrasts := ?_ }
  · rw [hby.planned_eq, planTrials_ordinals, generateCells_length]
  · have hkey : compiled.plannedTrials.map (·.key)
        = (compiled.plannedTrials.map PlannedTrial.coordinate).map
          fun c => R.sha256 (trialMaterial compiled.specDigest c) := by
      rw [List.map_map]
      refine List.map_congr_left fun t ht => ?_
      rw [hby.planned_eq] at ht
      exact planTrials_key ht
    rw [hkey]
    refine hinjective.map_on fun c hc d hd hsame => ?_
    have hcoordinate := hperm.mem_iff.mp hc
    have hcoordinate' := hperm.mem_iff.mp hd
    have hnames : ∀ c ∈ coordinates compiled.contract.plan compiled.cells,
        '\x00' ∉ c.1.toList ∧ '\x00' ∉ c.2.1.toList := by
      intro c hc
      obtain ⟨hcellKey, hblock, -⟩ := mem_coordinates.mp hc
      rw [hby.cells_eq] at hcellKey
      exact ⟨generateCells_separator hcellKey,
        isIdentifier_separator (hblockNames _ hblock)⟩
    exact trialMaterial_inj (hnames c hcoordinate).1 (hnames c hcoordinate).2
      (hnames d hcoordinate').1 (hnames d hcoordinate').2
      (hcollision c hcoordinate d hcoordinate' hsame)
  · have hkeys : item.trialKeys
        = (compiled.plannedTrials.filter (coveredBy compiled.cells o)).map (·.key) := by
      rw [hcoverage] at hitem
      obtain ⟨o', ho', rfl⟩ := List.mem_map.mp hitem
      have hobligations := (uniqueById_ok hby.obligations_ok).2
      obtain rfl := List.inj_on_of_nodup_map hobligations (List.mem_mergeSort.mp ho') ho hid
      rfl
    exact ⟨hkeys, (compile_sound h).coverage item hitem, compile_minTrials h ho hitem hnodup hid⟩
  · obtain ⟨contrasts, hcontrasts, hresolved⟩ := generateContrasts_resolved hlevels
    have hsame : contrasts = compiled.contrasts :=
      Except.ok.inj (hcontrasts.symm.trans hby.contrasts_ok)
    rw [hby.cells_eq, ← hsame]
    refine ⟨?_, hresolved⟩
    have hlength := congrArg List.length (generateContrasts_ok hcontrasts).1
    rw [List.length_map] at hlength
    exact hlength

/-- **The contrasts of a valid contract find their cells, and a compiled plan is the full
factorial.** -/
theorem compiled_plan_factorial (R : CompilerRuntime) :
    (∀ contract : ExperimentContract, contract.validate = .ok () →
      ∃ contrasts, generateContrasts contract.profile (generateCells contract.profile)
        = .ok contrasts)
    ∧ ∀ contract compiled, compileExperiment R contract = .ok compiled → Factorial R compiled := by
  refine ⟨fun contract hvalid => ?_, fun contract compiled h => compile_factorial h⟩
  obtain ⟨contrasts, hcontrasts, -⟩ := generateContrasts_resolved (validate_levels hvalid)
  exact ⟨contrasts, hcontrasts⟩

end

/-! ## A contract -/

def plainScope : ExperimentScope where
  scenarioId := "s"
  buildDigest := 1
  datasetDigest := 2
  fixtureDigest := 3
  assessmentAsOf := ⟨90, 0⟩
  evidenceWindow := ⟨⟨0, 0⟩, ⟨100, 0⟩⟩
  evidencePolicy := ⟨"p", "1", 4⟩

def switchMetric (id component : String) (stage : Stage) : MetricContract :=
  ⟨id, component, stage, .boolean, none, "e", "l"⟩

def plainProfile : PreventiveNonMaskingProfile where
  input := ⟨"i", .boolean true, .boolean false, 5, 6⟩
  target := ⟨"t", .boolean false, .boolean true, .boolean true⟩
  compensator := ⟨"c", .boolean false, .boolean true, .boolean false⟩
  sham := ⟨.boolean false, .boolean true⟩
  outcomeComponent := "o"
  targetMetricId := "t"
  compensatorMetricId := "c"
  outcomeMetricId := "o"
  benignOutcomeMetricId := "b"
  targetSafeValue := .boolean false
  compensatorSafeValue := .boolean false
  outcomeSafeValue := .boolean false
  benignSafeValue := .boolean false
  primaryTargetObligationId := "d"
  primaryCompensatorObligationId := "b"
  primaryPathObligationId := "c"
  primaryBenignObligationId := "a"
  targetAttackRelation := .trueToFalse
  targetBenignRelation := .equal
  shamRelation := .equal
  compensatorAttackRelation := .trueToFalse

def safeObligation (id component metricId : String) (scope : ObligationScope)
    (selector : CellSelector) : Obligation :=
  ⟨id, ⟨id, component⟩, scope, selector, ⟨metricId, .equal, .boolean false, none⟩, .allTested 1⟩

def plainContract : ExperimentContract where
  id := "s"
  scope := plainScope
  metrics := [switchMetric "t" "t" .target, switchMetric "c" "c" .compensator,
    switchMetric "o" "o" .outcome, switchMetric "b" "o" .outcome]
  obligations :=
    [safeObligation "a" "o" "b" .path (benignEnvelopeSelector plainProfile),
      safeObligation "b" "c" "c" .compensatorLocal (currentSelector plainProfile),
      safeObligation "c" "o" "o" .path (currentSelector plainProfile),
      safeObligation "d" "t" "t" .targetLocal (currentSelector plainProfile)]
  profile := plainProfile
  plan := ⟨["b"], 1, "order"⟩

theorem plain_coordinates : coordinates plainContract.plan (generateCells plainProfile)
    = (generateCells plainProfile).map fun cell => (cell.key, "b", 1) := by
  have hblocks : sortedBlocks plainContract.plan = ["b"] := List.mergeSort_singleton _
  unfold coordinates
  rw [hblocks]
  rfl

def plainMaterials : List String :=
  (coordinates plainContract.plan (generateCells plainProfile)).map (trialMaterial 16)

theorem plainMaterials_nodup : plainMaterials.Nodup := by
  have hnames : ∀ c ∈ coordinates plainContract.plan (generateCells plainProfile),
      '\x00' ∉ c.1.toList ∧ '\x00' ∉ c.2.1.toList := by
    intro c hc
    obtain ⟨hkey, hblock, -⟩ := mem_coordinates.mp hc
    refine ⟨generateCells_separator hkey, ?_⟩
    rw [List.mem_singleton.mp hblock]
    decide
  refine List.Nodup.map_on (fun c hc d hd hsame => ?_)
    (coordinates_nodup (generateCells_keys _) (List.nodup_singleton _))
  exact trialMaterial_inj (hnames c hc).1 (hnames c hc).2 (hnames d hd).1 (hnames d hd).2 hsame

/-- A hash that numbers the materials of the plain contract, and gives every other text one more. -/
def materialHash (value : String) : Digest := BitVec.ofNat 256 (plainMaterials.idxOf value)

def plainRuntime : CompilerRuntime := ⟨fun _ => .ok "contract", materialHash⟩

/-- The hash of a text that does not begin as a material. -/
theorem materialHash_other {value : String} {first : Char} {rest : List Char}
    (hvalue : value.toList = first :: rest) (hfirst : 's' ≠ first) : materialHash value = 16 := by
  have hnot : value ∉ plainMaterials := by
    intro hvalueMem
    obtain ⟨c, -, rfl⟩ := List.mem_map.mp hvalueMem
    have hscheme : "sha256:".toList = 's' :: "ha256:".toList := by decide
    rw [trialMaterial_toList, text_toList, hscheme] at hvalue
    exact hfirst (List.cons.inj hvalue).1
  unfold materialHash
  rw [List.idxOf_eq_length hnot, plainMaterials, List.length_map, coordinates_length]
  rfl

theorem materialHash_contract : materialHash "contract" = 16 :=
  materialHash_other (show _ = 'c' :: "ontract".toList by decide) (by decide)

/-- The trials of the plain contract before they have their places. -/
def plainTrials : List RawTrial :=
  (generateCells plainProfile).map fun cell => rawTrial plainRuntime "order" 16 cell.key "b" 1

theorem plainTrials_eq : plainTrials = (generateCells plainProfile).zipIdx.map fun x =>
    ⟨16, BitVec.ofNat 256 x.2, x.1.key, 1, "b"⟩ := by
  have horder : ∀ key : Digest,
      plainRuntime.sha256 (String.intercalate "\x00" ["order", Digest.text key]) = 16 := by
    intro key
    have horder : ("order" ++ "\x00" ++ Digest.text key).toList
        = 'o' :: ("rder" ++ "\x00" ++ Digest.text key).toList := by
      simp only [String.toList_append]
      rfl
    exact materialHash_other horder (by decide)
  unfold plainTrials rawTrial
  simp only [horder]
  refine List.ext_getElem (by simp) fun i hi _ => ?_
  rw [List.length_map] at hi
  have hlt : i < plainMaterials.length := by
    rwa [plainMaterials, plain_coordinates, List.length_map, List.length_map]
  have hmaterial : plainMaterials[i]
      = trialMaterial 16 ((generateCells plainProfile)[i].key, "b", 1) := by
    simp only [plainMaterials, plain_coordinates, List.getElem_map]
    rfl
  have hkey : materialHash (trialMaterial 16 ((generateCells plainProfile)[i].key, "b", 1))
      = BitVec.ofNat 256 i := by
    unfold materialHash
    rw [← hmaterial, plainMaterials_nodup.idxOf_getElem]
  simp only [List.getElem_map, List.getElem_zipIdx, Nat.zero_add, ← hkey]
  rfl

/-- The trials of the plain contract in their places. -/
def placedTrials : List PlannedTrial :=
  (generateCells plainProfile).zipIdx.map fun x =>
    ⟨BitVec.ofNat 256 x.2, x.2 + 1, x.1.key, "b", 1⟩

/-- The plan keeps the order of the cells: the order keys are equal, and the keys increase. -/
theorem planTrials_plain :
    planTrials plainRuntime plainContract.plan (generateCells plainProfile) 16 = placedTrials := by
  have hblocks : sortedBlocks plainContract.plan = ["b"] := List.mergeSort_singleton _
  have hsorted : plainTrials.mergeSort RawTrial.le = plainTrials := by
    refine List.mergeSort_of_pairwise ?_
    rw [plainTrials_eq]
    decide +kernel
  unfold planTrials rawTrials
  rw [hblocks]
  show (plainTrials.mergeSort RawTrial.le).zipIdx.map _ = _
  rw [hsorted, plainTrials_eq]
  rfl

theorem plain_keyLength : ∀ cell ∈ generateCells plainProfile, cell.key.length ≤ 512 := by
  simp only [generateCells, List.flatMap_cons, List.flatMap_nil, List.map_cons, List.map_nil,
    List.append_nil, List.cons_append, List.nil_append, List.forall_mem_cons, String.length_append]
  decide

theorem placedTrials_cell {t : PlannedTrial} (h : t ∈ placedTrials) :
    ∃ cell ∈ generateCells plainProfile, cell.key = t.cellKey := by
  obtain ⟨x, hx, rfl⟩ := List.mem_map.mp h
  exact ⟨x.1, List.fst_mem_of_mem_zipIdx hx, rfl⟩

def plainContrasts : List ContrastDefinition :=
  (generateContrasts plainProfile (generateCells plainProfile)).toOption.getD []

theorem plainContrasts_eq :
    generateContrasts plainProfile (generateCells plainProfile) = .ok plainContrasts := by
  obtain ⟨contrasts, hcontrasts, -⟩ := generateContrasts_resolved (p := plainProfile)
    ⟨rfl, rfl, rfl, rfl, .inr ⟨rfl, rfl⟩, .inl ⟨rfl, rfl⟩⟩
  unfold plainContrasts
  rw [hcontrasts]
  rfl

theorem plainContrasts_valid : plainContrasts.forM (·.validate) = .ok () := by
  have hnames : ∀ id ∈ contrastMetrics plainProfile, checkIdentifiers [("metric_id", id)] = .ok () :=
    by decide
  refine forM_eq_ok.mpr fun contrast hcontrast => ?_
  obtain ⟨hmetric, hpairs, hkeys⟩ := (generateContrasts_ok plainContrasts_eq).2 contrast hcontrast
  unfold ContrastDefinition.validate
  rw [hnames _ hmetric, ok_bind, require_pos hpairs, ok_bind]
  refine require_pos fun pair hpair => ?_
  obtain ⟨⟨left, hleft, hleftKey⟩, right, hright, hrightKey⟩ := hkeys pair hpair
  rw [hleftKey, hrightKey]
  exact ⟨plain_keyLength _ hleft, plain_keyLength _ hright⟩

theorem placedTrials_valid : placedTrials.forM (·.validate) = .ok () := by
  have hplaces : ∀ t ∈ placedTrials, (1 ≤ t.ordinal ∧ t.ordinal ≤ maxPlannedTrials)
      ∧ t.block = "b" ∧ t.replicate = 1 := by decide
  refine forM_eq_ok.mpr fun t ht => ?_
  obtain ⟨hordinal, hblock, hreplicate⟩ := hplaces t ht
  obtain ⟨cell, hcell, hkey⟩ := placedTrials_cell ht
  unfold PlannedTrial.validate
  rw [require_pos hordinal, ok_bind, ← hkey, require_pos (plain_keyLength _ hcell), ok_bind, hblock,
    hreplicate]
  rfl

theorem plain_compiles : ∃ compiled, compileExperiment plainRuntime plainContract = .ok compiled := by
  have hcanonical : (plainRuntime.canonicalJson (semanticPayload plainContract)).mapError
      ("contract canonicalization failed: " ++ ·) = .ok "contract" := rfl
  have hdigest : plainRuntime.sha256 "contract" = 16 := materialHash_contract
  have hprofile : plainContract.profile = plainProfile := rfl
  have hsorted : plainContract.obligations.mergeSort (fun a b => decide (a.id ≤ b.id))
      = plainContract.obligations := List.mergeSort_of_pairwise (by decide)
  have htrials : ∀ t ∈ placedTrials, t.cellKey ∈ (generateCells plainProfile).map (·.key) :=
    fun t ht => List.mem_map.mpr (placedTrials_cell ht)
  have hok : (compileExperiment plainRuntime plainContract).isOk = true := by
    unfold compileExperiment coverage
    rw [hcanonical, hsorted]
    simp only [ok_bind, hdigest, hprofile, planTrials_plain, plainContrasts_eq,
      CompiledExperiment.validate, coveredTrials_eq (generateCells_keys plainProfile) htrials,
      require_pos plain_keyLength, plainContrasts_valid, placedTrials_valid]
    decide +kernel
  cases h : compileExperiment plainRuntime plainContract with
  | ok compiled => exact ⟨compiled, rfl⟩
  | error e =>
    rw [h] at hok
    cases hok

/-- The hash tells the materials of the plan apart. -/
theorem plain_noCollision {compiled : CompiledExperiment}
    (h : compileExperiment plainRuntime plainContract = .ok compiled) :
    NoCollision plainRuntime compiled := by
  obtain ⟨metrics, obligations, hby⟩ := compile_ok h
  have hdigest : compiled.specDigest = 16 := by
    have hcompiled := h
    unfold compileExperiment at hcompiled
    simp only [bind_eq_ok, mapError_eq_ok, pure_eq_ok] at hcompiled
    obtain ⟨⟨⟩, -, -, -, -, -, _, -, ⟨⟩, -, ⟨⟩, -, canonical, hcanonical, covered, -, ⟨⟩, -,
      contrasts, -, ⟨⟩, -, rfl⟩ := hcompiled
    obtain rfl := Except.ok.inj hcanonical
    exact materialHash_contract
  intro c hc d hd hsame
  rw [hby.contract_eq, hby.cells_eq] at hc hd
  rw [hdigest] at hsame ⊢
  have hlength : plainMaterials.length = 16 := by
    rw [plainMaterials, List.length_map, coordinates_length]
    rfl
  have hmem : trialMaterial 16 c ∈ plainMaterials := List.mem_map_of_mem hc
  have hmem' : trialMaterial 16 d ∈ plainMaterials := List.mem_map_of_mem hd
  have hlt := List.idxOf_lt_length_of_mem hmem
  have hlt' := List.idxOf_lt_length_of_mem hmem'
  have hindex := congrArg BitVec.toNat hsame
  have hbound : 16 < 2 ^ 256 := by decide
  simp only [plainRuntime, materialHash, BitVec.toNat_ofNat] at hindex
  rw [Nat.mod_eq_of_lt (by omega), Nat.mod_eq_of_lt (by omega)] at hindex
  exact (List.idxOf_inj hmem).mp hindex

theorem plain_plan_factorial :
    ∃ compiled, compileExperiment plainRuntime plainContract = .ok compiled
      ∧ NoCollision plainRuntime compiled ∧ Factorial plainRuntime compiled := by
  obtain ⟨compiled, h⟩ := plain_compiles
  exact ⟨compiled, h, plain_noCollision h, (compiled_plan_factorial plainRuntime).2 _ _ h⟩

end ControlAssurance.Experiment
