import ControlAssurance.Benchmark.SemanticModels
import ControlAssurance.Experiment.Factorial

/-!
# Recovery pairs

The attack and benign trials that a recovery verdict compares. Partners are looked up through the
cells of the compiled experiment, the entries of the frozen plan and the coordinates of the raw
trials; since the cells are a full factorial, each of two partners finds the other, so the pairs
match all trials (`recovery_pairs_match`).
-/

namespace ControlAssurance.Benchmark

open Lib Experiment

/-! ## Trials -/

structure FrozenActionBinding where
  specDigest : Digest
  trialKey : Digest
  artifact : OpaqueArtifactReference
deriving DecidableEq

structure RawTrialEnvelope where
  trialKey : Digest
  cellKey : String
  block : String
  replicate : Nat
  ordinal : Nat
  action : FrozenActionBinding
  sharedLifecycleProof : Option OpaqueArtifactReference
deriving DecidableEq

/-- The key of `raw_by_coordinates`. -/
def RawTrialEnvelope.coordinate (trial : RawTrialEnvelope) : String × String × Nat :=
  (trial.cellKey, trial.block, trial.replicate)

/-- The trials of a scenario; their keys are unique. -/
structure RawTrialSet where
  trials : List RawTrialEnvelope
  keysUnique : (trials.map (·.trialKey)).Nodup

structure FrozenPlanEntry where
  cellKey : String
  block : String
  replicate : Nat
  ordinal : Nat
  trialKey : Digest
  action : OpaqueArtifactReference
deriving DecidableEq

def FrozenPlanEntry.coordinate (entry : FrozenPlanEntry) : String × String × Nat :=
  (entry.cellKey, entry.block, entry.replicate)

/-- A plan, whose coordinates and keys are unique. -/
structure FrozenPlan where
  entries : List FrozenPlanEntry
  coordinatesUnique : (entries.map FrozenPlanEntry.coordinate).Nodup
  keysUnique : (entries.map (·.trialKey)).Nodup

structure ExpectedMatchedPair where
  subjectTrialKey : Digest
  attackTrialKey : Digest
  benignTrialKey : Digest
deriving DecidableEq

/-! ## Deriving the pairs -/

/-- `_find_matching_recovery_cell`. The dumps of two selectors are equal when their values are. -/
def findMatchingRecoveryCell (compiledCells : List GeneratedCell) (sourceSelector : CellSelector)
    (replacementInput : TypedValue) : Except String String :=
  match compiledCells.filter fun cell =>
    cell.selector.same { sourceSelector with input := some replacementInput } with
  | [cell] => .ok cell.key
  | _ => .error "frozen recovery selectors do not yield one exact matched input cell"

/-- The input of the counterpart, the digest of the expected action, and whether the value is the
attack. -/
def inputSide (axis : InputAxis) (inputValue : Option TypedValue) :
    Except String (TypedValue × Digest × Bool) :=
  if sameOptional inputValue (some axis.attack) = true then
    .ok (axis.benign, axis.attackActionDigest, true)
  else if sameOptional inputValue (some axis.benign) = true then
    .ok (axis.attack, axis.benignActionDigest, false)
  else .error "recovery cell input is outside the frozen attack/benign axis"

/-- One round of the first loop. -/
def checkedTrial (planByKey : Dict Digest FrozenPlanEntry) (trial : RawTrialEnvelope) :
    Except String ((String × String × Nat) × RawTrialEnvelope) := do
  let planned ← expect (planByKey.get? trial.trialKey) "KeyError"
  require (trial.ordinal = planned.ordinal ∧ trial.cellKey = planned.cellKey
      ∧ trial.block = planned.block ∧ trial.replicate = planned.replicate
      ∧ trial.action.artifact = planned.action)
    "recovery raw trial does not match its compiler-owned plan entry"
  pure (trial.coordinate, trial)

/-- `raw_by_coordinates`. -/
def rawByCoordinates (plan : FrozenPlan) (raw : RawTrialSet) :
    Except String (Dict (String × String × Nat) RawTrialEnvelope) := do
  let rawByKey : Dict Digest RawTrialEnvelope :=
    Dict.ofPairs (raw.trials.map fun trial => (trial.trialKey, trial))
  let planByKey : Dict Digest FrozenPlanEntry :=
    Dict.ofPairs (plan.entries.map fun entry => (entry.trialKey, entry))
  require ((∀ key ∈ rawByKey.keys, key ∈ planByKey.keys)
      ∧ ∀ key ∈ planByKey.keys, key ∈ rawByKey.keys)
    "recovery raw and frozen plan trial-key sets differ"
  let pairs ← rawByKey.mapM fun item => checkedTrial planByKey item.2
  pure (Dict.ofPairs pairs)

/-- One round of the second loop. -/
def matchedPair (axis : InputAxis) (cells : List GeneratedCell)
    (byCoordinates : Dict (String × String × Nat) RawTrialEnvelope) (trial : RawTrialEnvelope) :
    Except String ExpectedMatchedPair := do
  let cellsByKey := Dict.ofPairs (cells.map fun cell => (cell.key, cell))
  let cell ← expect (cellsByKey.get? trial.cellKey)
    "recovery raw trial names an unknown frozen cell"
  let (counterpartInput, expectedActionDigest, isAttack) ← inputSide axis cell.selector.input
  require (trial.action.artifact.artifactDigest = expectedActionDigest)
    "recovery action artifact does not match the frozen input-axis digest"
  let counterpartCellKey ← findMatchingRecoveryCell cells cell.selector counterpartInput
  let counterpart ← expect (byCoordinates.get? (counterpartCellKey, trial.block, trial.replicate))
    "recovery trial has no matched input trial in the same block and replicate"
  require (trial.sharedLifecycleProof ≠ none ∧ counterpart.sharedLifecycleProof ≠ none
      ∧ trial.sharedLifecycleProof = counterpart.sharedLifecycleProof)
    "matched recovery trials do not bind the same lifecycle proof bytes"
  let attack := if isAttack then trial else counterpart
  let benign := if isAttack then counterpart else trial
  require (attack.action.artifact.artifactDigest = axis.attackActionDigest
      ∧ benign.action.artifact.artifactDigest = axis.benignActionDigest)
    "derived recovery pair does not bind the frozen attack and benign actions"
  pure ⟨trial.trialKey, attack.trialKey, benign.trialKey⟩

/-- `_derive_recovery_pairs`, for the contract of the specification. -/
def deriveRecoveryPairs (R : CompilerRuntime) (contract : ExperimentContract) (plan : FrozenPlan)
    (raw : RawTrialSet) : Except String (Dict Digest ExpectedMatchedPair) := do
  let compiled ← compileExperiment R contract
  let byCoordinates ← rawByCoordinates plan raw
  let pairs ← raw.trials.mapM fun trial => do
    let pair ← matchedPair contract.profile.input compiled.cells byCoordinates trial
    pure (trial.trialKey, pair)
  pure (Dict.ofPairs pairs)

/-! ## Values of a selector -/

theorem sameOptional_iff {a b : Option TypedValue} :
    sameOptional a b = true ↔ a.map (·.canonical) = b.map (·.canonical) := by
  cases a <;> cases b <;> simp [sameOptional, same_iff]

/-- Selectors are the same when their canonical forms are. -/
theorem selector_same_iff {a b : CellSelector} :
    a.same b = true ↔ a.canonical = b.canonical := by
  simp only [CellSelector.same, Bool.and_eq_true, sameOptional_iff, CellSelector.canonical,
    CellSelector.mk.injEq, and_assoc]

/-- The levels of a cell but its input. -/
def CellSelector.rest (s : CellSelector) : CellSelector := { s.canonical with input := none }

theorem canonical_withInput (s : CellSelector) (value : TypedValue) :
    CellSelector.canonical { s with input := some value }
      = { CellSelector.rest s with input := some value.canonical } := rfl

theorem canonical_rest (s : CellSelector) :
    s.canonical = { CellSelector.rest s with input := s.input.map (·.canonical) } := rfl

/-! ## The first loop -/

section Loops

variable {plan : FrozenPlan} {raw : RawTrialSet}

/-- With distinct keys a comprehension holds exactly its pairs. -/
theorem get?_ofPairs {κ β α : Type} [DecidableEq κ] {f : α → κ} {g : α → β} {l : List α}
    (h : (l.map f).Nodup) {k : κ} {v : β} :
    (Dict.ofPairs (l.map fun a => (f a, g a))).get? k = some v ↔ ∃ a ∈ l, f a = k ∧ g a = v := by
  have hkeys : ((l.map fun a => (f a, g a)).map Prod.fst).Nodup := by
    rw [List.map_map]
    exact h
  rw [Dict.ofPairs_of_nodup hkeys]
  constructor
  · intro hget
    obtain ⟨a, ha, hpair⟩ := List.mem_map.mp (Dict.get?_eq_some hget)
    exact ⟨a, ha, (Prod.mk.inj hpair).1, (Prod.mk.inj hpair).2⟩
  · rintro ⟨a, ha, rfl, rfl⟩
    exact Dict.get?_of_mem hkeys (List.mem_map_of_mem ha)

/-- A loop that makes the same of each item. -/
theorem mapM_map {α β ε : Type} {f : α → Except ε β} {g : α → β}
    (h : ∀ a b, f a = .ok b → b = g a) :
    ∀ {l : List α} {bs : List β}, l.mapM f = .ok bs → bs = l.map g
  | [], bs, hrun => by
    cases hrun
    rfl
  | a :: l, bs, hrun => by
    rw [List.mapM_cons] at hrun
    simp only [bind_eq_ok, pure_eq_ok] at hrun
    obtain ⟨b, hb, rest, hrest, rfl⟩ := hrun
    rw [List.map_cons, h a b hb, mapM_map h hrest]

/-- A trial is the one that the plan has under its key. -/
def PlannedAs (plan : FrozenPlan) (trial : RawTrialEnvelope) : Prop :=
  ∃ entry ∈ plan.entries, entry.trialKey = trial.trialKey ∧ trial.ordinal = entry.ordinal
    ∧ trial.coordinate = entry.coordinate ∧ trial.action.artifact = entry.action

theorem checkedTrial_iff {trial : RawTrialEnvelope}
    {pair : (String × String × Nat) × RawTrialEnvelope} :
    checkedTrial (Dict.ofPairs (plan.entries.map fun entry => (entry.trialKey, entry))) trial
        = .ok pair
      ↔ PlannedAs plan trial ∧ pair = (trial.coordinate, trial) := by
  unfold checkedTrial
  simp only [bind_eq_ok, expect_eq_ok, require_eq_ok, pure_eq_ok, exists_and_left, exists_const,
    get?_ofPairs plan.keysUnique]
  constructor
  · rintro ⟨entry, ⟨_, hentry, hkey, rfl⟩, ⟨hordinal, hcell, hblock, hreplicate, haction⟩, rfl⟩
    exact ⟨⟨_, hentry, hkey, hordinal, Prod.ext hcell (Prod.ext hblock hreplicate), haction⟩, rfl⟩
  · rintro ⟨⟨entry, hentry, hkey, hordinal, hcoordinate, haction⟩, rfl⟩
    obtain ⟨hcell, hrest⟩ := Prod.mk.inj hcoordinate
    obtain ⟨hblock, hreplicate⟩ := Prod.mk.inj hrest
    exact ⟨entry, ⟨entry, hentry, hkey, rfl⟩, ⟨hordinal, hcell, hblock, hreplicate, haction⟩, rfl⟩

/-- The coordinates of the raw trials are as distinct as those of the plan. -/
theorem coordinates_unique (h : ∀ trial ∈ raw.trials, PlannedAs plan trial) :
    (raw.trials.map RawTrialEnvelope.coordinate).Nodup := by
  refine List.Nodup.map_on (fun trial htrial other hother hsame => ?_)
    (List.Nodup.of_map _ raw.keysUnique)
  obtain ⟨entry, hentry, hkey, -, hcoordinate, -⟩ := h trial htrial
  obtain ⟨entry', hentry', hkey', -, hcoordinate', -⟩ := h other hother
  have hentries : entry = entry' := List.inj_on_of_nodup_map plan.coordinatesUnique hentry hentry'
    (by rw [← hcoordinate, ← hcoordinate', hsame])
  refine List.inj_on_of_nodup_map raw.keysUnique htrial hother ?_
  show trial.trialKey = other.trialKey
  rw [← hkey, ← hkey', hentries]

/-- **The raw trials are found at their coordinates.** -/
theorem rawByCoordinates_ok {byCoordinates : Dict (String × String × Nat) RawTrialEnvelope}
    (h : rawByCoordinates plan raw = .ok byCoordinates) :
    (raw.trials.map RawTrialEnvelope.coordinate).Nodup
      ∧ ∀ {coordinate trial}, byCoordinates.get? coordinate = some trial
        ↔ trial ∈ raw.trials ∧ trial.coordinate = coordinate := by
  have hkeys : ((raw.trials.map fun trial => (trial.trialKey, trial)).map Prod.fst).Nodup := by
    rw [List.map_map]
    exact raw.keysUnique
  unfold rawByCoordinates at h
  simp only [bind_eq_ok, pure_eq_ok] at h
  obtain ⟨⟨⟩, -, pairs, hpairs, rfl⟩ := h
  rw [Dict.ofPairs_of_nodup hkeys] at hpairs
  have hplanned : ∀ trial ∈ raw.trials, PlannedAs plan trial := by
    intro trial htrial
    obtain ⟨pair, -, hpair⟩ := mapM_answer hpairs _ (List.mem_map_of_mem htrial)
    exact (checkedTrial_iff.mp hpair).1
  have hmap : pairs = raw.trials.map fun trial => (trial.coordinate, trial) := by
    rw [mapM_map (g := fun item => (item.2.coordinate, item.2))
      (fun item pair hpair => (checkedTrial_iff.mp hpair).2) hpairs, List.map_map]
    rfl
  have hunique := coordinates_unique hplanned
  refine ⟨hunique, fun {coordinate trial} => ?_⟩
  rw [hmap, get?_ofPairs hunique]
  constructor
  · rintro ⟨other, hother, hcoordinate, rfl⟩
    exact ⟨hother, hcoordinate⟩
  · rintro ⟨htrial, hcoordinate⟩
    exact ⟨trial, htrial, hcoordinate, rfl⟩

end Loops

/-! ## Partners -/

/-- A trial with its cell on one side of the input axis. -/
structure OnSide (axis : InputAxis) (cells : List GeneratedCell) (isAttack : Bool)
    (trial : RawTrialEnvelope) (cell : GeneratedCell) : Prop where
  cell_mem : cell ∈ cells
  key : cell.key = trial.cellKey
  input : cell.selector.input.map (·.canonical)
    = some (if isAttack then axis.attack else axis.benign).canonical
  action : trial.action.artifact.artifactDigest
    = if isAttack then axis.attackActionDigest else axis.benignActionDigest

/-- The attack and the benign trial of a pair. -/
structure Partners (axis : InputAxis) (cells : List GeneratedCell) (attack benign : RawTrialEnvelope) :
    Prop where
  sides : ∃ attackCell benignCell, OnSide axis cells true attack attackCell
    ∧ OnSide axis cells false benign benignCell
    ∧ CellSelector.rest attackCell.selector = CellSelector.rest benignCell.selector
  block : attack.block = benign.block
  replicate : attack.replicate = benign.replicate
  proof : attack.sharedLifecycleProof = benign.sharedLifecycleProof
  proven : attack.sharedLifecycleProof ≠ none

section Pair

variable {axis : InputAxis} {cells : List GeneratedCell} {raw : RawTrialSet}
  {byCoordinates : Dict (String × String × Nat) RawTrialEnvelope}

theorem inputSide_ok {value : Option TypedValue} {counterpart : TypedValue} {digest : Digest}
    {isAttack : Bool} (h : inputSide axis value = .ok (counterpart, digest, isAttack)) :
    value.map (·.canonical) = some (if isAttack then axis.attack else axis.benign).canonical
      ∧ counterpart = (if isAttack then axis.benign else axis.attack)
      ∧ digest = if isAttack then axis.attackActionDigest else axis.benignActionDigest := by
  unfold inputSide at h
  split at h
  · next hattack =>
    obtain ⟨⟩ := Except.ok.inj h
    exact ⟨sameOptional_iff.mp hattack, rfl, rfl⟩
  · split at h
    · next hbenign =>
      obtain ⟨⟩ := Except.ok.inj h
      exact ⟨sameOptional_iff.mp hbenign, rfl, rfl⟩
    · cases h

theorem findMatching_ok {selector : CellSelector} {input : TypedValue} {key : String}
    (h : findMatchingRecoveryCell cells selector input = .ok key) :
    ∃ cell, cell.key = key
      ∧ (cells.filter fun cell => cell.selector.same { selector with input := some input })
        = [cell] := by
  unfold findMatchingRecoveryCell at h
  split at h
  · next cell hcell => exact ⟨cell, Except.ok.inj h, hcell⟩
  · cases h

/-- The one cell that a filter keeps, by the canonical levels it asks for. -/
theorem mem_matching {selector : CellSelector} {input : TypedValue} {cell : GeneratedCell} :
    cell ∈ cells.filter (fun cell => cell.selector.same { selector with input := some input })
      ↔ cell ∈ cells ∧ CellSelector.rest cell.selector = CellSelector.rest selector
        ∧ cell.selector.input.map (·.canonical) = some input.canonical := by
  rw [List.mem_filter, selector_same_iff, canonical_withInput, canonical_rest cell.selector]
  simp only [CellSelector.rest, CellSelector.mk.injEq, true_and]
  tauto

variable {trial : RawTrialEnvelope}

/-- **What a derived pair is: its subject with its partner, found in the counterpart's cell.** -/
theorem matchedPair_ok (hcells : (cells.map (·.key)).Nodup)
    (hby : ∀ {coordinate trial}, byCoordinates.get? coordinate = some trial
      ↔ trial ∈ raw.trials ∧ trial.coordinate = coordinate)
    {pair : ExpectedMatchedPair} (h : matchedPair axis cells byCoordinates trial = .ok pair) :
    ∃ counterpart ∈ raw.trials, ∃ isAttack : Bool,
      Partners axis cells (if isAttack then trial else counterpart)
          (if isAttack then counterpart else trial)
        ∧ pair = ⟨trial.trialKey, (if isAttack then trial else counterpart).trialKey,
          (if isAttack then counterpart else trial).trialKey⟩ := by
  unfold matchedPair at h
  simp only [bind_eq_ok, expect_eq_ok, require_eq_ok, pure_eq_ok, exists_and_left, exists_const,
    get?_ofPairs hcells] at h
  obtain ⟨_, ⟨cell, hcell, hkey, rfl⟩, ⟨input, digest, isAttack⟩, hside, haction, counterKey, hmatching,
    counterpart, hcounterpart, ⟨hproven, -, hproof⟩, ⟨hattackAction, hbenignAction⟩, rfl⟩ := h
  obtain ⟨hinput, hcounterInput, hdigest⟩ := inputSide_ok hside
  obtain ⟨counter, hcounterKey, hfilter⟩ := findMatching_ok hmatching
  obtain ⟨hcounterMem, hrest, hcounterCanonical⟩ :=
    mem_matching.mp (hfilter ▸ List.mem_singleton.mpr rfl : counter ∈ _)
  obtain ⟨hmem, hcoordinate⟩ := hby.mp hcounterpart
  obtain ⟨hcellKey, hplace⟩ := Prod.mk.inj hcoordinate
  obtain ⟨hblock, hreplicate⟩ := Prod.mk.inj hplace
  refine ⟨counterpart, hmem, isAttack, ?_, rfl⟩
  rw [hdigest] at haction
  rw [hcounterInput] at hcounterCanonical
  cases isAttack with
  | true =>
    exact
      { sides := ⟨cell, counter, ⟨hcell, hkey, hinput, haction⟩,
          ⟨hcounterMem, hcounterKey.trans hcellKey.symm, hcounterCanonical, hbenignAction⟩, hrest.symm⟩
        block := hblock.symm
        replicate := hreplicate.symm
        proof := hproof
        proven := hproven }
  | false =>
    exact
      { sides := ⟨counter, cell, ⟨hcounterMem, hcounterKey.trans hcellKey.symm, hcounterCanonical,
          hattackAction⟩, ⟨hcell, hkey, hinput, haction⟩, hrest⟩
        block := hblock
        replicate := hreplicate
        proof := hproof.symm
        proven := fun hnone => hproven (hproof.trans hnone) }

/-- A trial is on one side only. -/
theorem onSide_unique (hcells : (cells.map (·.key)).Nodup) (hinput : axis.attack.same axis.benign = false)
    {cell cell' : GeneratedCell} {isAttack isAttack' : Bool}
    (h : OnSide axis cells isAttack trial cell) (h' : OnSide axis cells isAttack' trial cell') :
    isAttack = isAttack' ∧ cell = cell' := by
  have hcell : cell = cell' := List.inj_on_of_nodup_map hcells h.cell_mem h'.cell_mem
    (h.key.trans h'.key.symm)
  subst hcell
  have hsame := h.input.symm.trans h'.input
  have hdifferent : axis.attack.canonical ≠ axis.benign.canonical := fun heq => by
    rw [same_iff.mpr heq] at hinput
    cases hinput
  refine ⟨?_, rfl⟩
  cases isAttack <;> cases isAttack'
  · rfl
  · exact absurd (Option.some.inj hsame).symm hdifferent
  · exact absurd (Option.some.inj hsame) hdifferent
  · rfl

/-- **The partners of one trial are the same pair, whichever of them asks.** -/
theorem partners_unique (hcells : (cells.map (·.key)).Nodup)
    (hselectors : ∀ cell ∈ cells, ∀ cell' ∈ cells,
      cell.selector.canonical = cell'.selector.canonical → cell = cell')
    (hcoordinates : (raw.trials.map RawTrialEnvelope.coordinate).Nodup)
    (hinput : axis.attack.same axis.benign = false)
    {attack benign attack' benign' : RawTrialEnvelope}
    (hmem : attack ∈ raw.trials ∧ benign ∈ raw.trials)
    (hmem' : attack' ∈ raw.trials ∧ benign' ∈ raw.trials)
    (h : Partners axis cells attack benign) (h' : Partners axis cells attack' benign')
    (htrial : trial = attack ∨ trial = benign)
    (htrial' : trial = attack' ∨ trial = benign') : attack = attack' ∧ benign = benign' := by
  obtain ⟨attackCell, benignCell, hattack, hbenign, hrest⟩ := h.sides
  obtain ⟨attackCell', benignCell', hattack', hbenign', hrest'⟩ := h'.sides
  -- two cells with one input and the same other levels are one cell
  have hcell : ∀ {cell cell' : GeneratedCell}, cell ∈ cells → cell' ∈ cells →
      cell.selector.input.map (·.canonical) = cell'.selector.input.map (·.canonical) →
      CellSelector.rest cell.selector = CellSelector.rest cell'.selector → cell = cell' := by
    intro cell cell' hc hc' hinputs hrests
    refine hselectors cell hc cell' hc' ?_
    rw [canonical_rest, canonical_rest cell'.selector, hinputs, hrests]
  have htrialOf : ∀ {one other : RawTrialEnvelope}, one ∈ raw.trials → other ∈ raw.trials →
      one.cellKey = other.cellKey → one.block = other.block → one.replicate = other.replicate →
        one = other := fun hone hother hkey hblock hreplicate =>
    List.inj_on_of_nodup_map hcoordinates hone hother
      (Prod.ext hkey (Prod.ext hblock hreplicate))
  rcases htrial with rfl | rfl <;> rcases htrial' with rfl | rfl
  · -- the attack trial is shared, so the benign cells have the same levels
    obtain ⟨-, rfl⟩ := onSide_unique hcells hinput hattack hattack'
    have hbenignCell := hcell hbenign.cell_mem hbenign'.cell_mem
      (hbenign.input.trans hbenign'.input.symm) (hrest.symm.trans hrest')
    refine ⟨rfl, htrialOf hmem.2 hmem'.2 ?_ (h.block.symm.trans h'.block)
      (h.replicate.symm.trans h'.replicate)⟩
    rw [← hbenign.key, ← hbenign'.key, hbenignCell]
  · exact absurd (onSide_unique hcells hinput hattack hbenign').1 (by decide)
  · exact absurd (onSide_unique hcells hinput hattack' hbenign).1 (by decide)
  · obtain ⟨-, rfl⟩ := onSide_unique hcells hinput hbenign hbenign'
    have hattackCell := hcell hattack.cell_mem hattack'.cell_mem
      (hattack.input.trans hattack'.input.symm) (hrest.trans hrest'.symm)
    refine ⟨htrialOf hmem.1 hmem'.1 ?_ (h.block.trans h'.block.symm)
      (h.replicate.trans h'.replicate.symm), rfl⟩
    rw [← hattack.key, ← hattack'.key, hattackCell]

end Pair

/-! ## The matching -/

variable {p : PreventiveNonMaskingProfile}

/-- A cell has one level of each axis. -/
theorem cell_levels (h : Levels p) {cell : GeneratedCell} (hcell : cell ∈ generateCells p) :
    ∃ i t c s, cell.selector = ⟨some i, some t, some c, some s⟩
      ∧ (i = p.input.attack ∨ i = p.input.benign)
      ∧ OneOf p.target.ineffective p.target.effective t
      ∧ OneOf p.compensator.off p.compensator.on c ∧ OneOf p.sham.steady p.sham.redeploy s := by
  unfold generateCells at hcell
  simp only [List.mem_flatMap, List.mem_map, List.mem_cons, List.not_mem_nil, or_false] at hcell
  obtain ⟨input, hi, target, ht, compensator, hc, sham, hs, rfl⟩ := hcell
  refine ⟨input.2, target.2, compensator.2, sham.2, rfl, ?_, ?_, ?_, ?_⟩
  · rcases hi with rfl | rfl
    · exact .inl rfl
    · exact .inr rfl
  · rcases ht with rfl | rfl
    · exact oneOf_first h.target
    · exact oneOf_second h.target
  · rcases hc with rfl | rfl
    · exact oneOf_first h.compensator
    · exact oneOf_second h.compensator
  · rcases hs with rfl | rfl
    · exact oneOf_first h.sham
    · exact oneOf_second h.sham

theorem oneOf_input (h : Levels p) {i : TypedValue}
    (hi : i = p.input.attack ∨ i = p.input.benign) : OneOf p.input.attack p.input.benign i := by
  rcases hi with rfl | rfl
  · exact oneOf_first h.input
  · exact oneOf_second h.input

/-- Cells with the same levels are one cell. -/
theorem cells_distinct (h : Levels p) :
    ∀ cell ∈ generateCells p, ∀ cell' ∈ generateCells p,
      cell.selector.canonical = cell'.selector.canonical → cell = cell' := by
  intro cell hcell cell' hcell' hsame
  obtain ⟨i, t, c, s, hselector, hinput, ht, hc, hs⟩ := cell_levels h hcell
  have hi := oneOf_input h hinput
  obtain ⟨found, -, hfound, -⟩ := cellFor_generated hi ht hc hs
  unfold cellFor at hfound
  split at hfound
  · next only hfilter =>
    rw [← hselector] at hfilter
    have hone : cell ∈ [only] := by
      rw [← hfilter, List.mem_filter, selector_same_iff]
      exact ⟨hcell, rfl⟩
    have hother : cell' ∈ [only] := by
      rw [← hfilter, List.mem_filter, selector_same_iff]
      exact ⟨hcell', hsame.symm⟩
    rw [List.mem_singleton.mp hone, List.mem_singleton.mp hother]
  · cases hfound

/-- The pairs match the raw trials. -/
structure PerfectMatching (axis : InputAxis) (cells : List GeneratedCell) (raw : RawTrialSet)
    (result : Dict Digest ExpectedMatchedPair) : Prop where
  /-- Every trial has an entry, and there are no others. -/
  entries : ∀ key, (∃ pair, result.get? key = some pair) ↔ ∃ trial ∈ raw.trials, trial.trialKey = key
  /-- An entry names its subject and the other of two partners, which both name the same two. -/
  members : ∀ key pair, result.get? key = some pair → pair.subjectTrialKey = key
    ∧ (key = pair.attackTrialKey ∨ key = pair.benignTrialKey)
    ∧ pair.attackTrialKey ≠ pair.benignTrialKey
    ∧ ∃ attack ∈ raw.trials, ∃ benign ∈ raw.trials, attack.trialKey = pair.attackTrialKey
      ∧ benign.trialKey = pair.benignTrialKey ∧ Partners axis cells attack benign
      ∧ result.get? attack.trialKey
        = some ⟨attack.trialKey, attack.trialKey, benign.trialKey⟩
      ∧ result.get? benign.trialKey
        = some ⟨benign.trialKey, attack.trialKey, benign.trialKey⟩
  /-- Every trial is in exactly one of the pairs. -/
  unique : ∀ trial ∈ raw.trials, ∃! keys : Digest × Digest,
    (∃ key pair, result.get? key = some pair ∧ keys = (pair.attackTrialKey, pair.benignTrialKey))
      ∧ (trial.trialKey = keys.1 ∨ trial.trialKey = keys.2)

/-- **The derived recovery pairs are a perfect matching of the raw trials.** -/
theorem recovery_pairs_match {R : CompilerRuntime} {contract : ExperimentContract} {plan : FrozenPlan}
    {raw : RawTrialSet} {result : Dict Digest ExpectedMatchedPair}
    (h : deriveRecoveryPairs R contract plan raw = .ok result) :
    ∃ compiled, compileExperiment R contract = .ok compiled
      ∧ PerfectMatching contract.profile.input compiled.cells raw result := by
  unfold deriveRecoveryPairs at h
  simp only [bind_eq_ok, pure_eq_ok] at h
  obtain ⟨compiled, hcompiled, byCoordinates, hbyCoordinates, pairs, hpairs, rfl⟩ := h
  obtain ⟨metrics, obligations, hby⟩ := compile_ok hcompiled
  have hlevels := validate_levels hby.valid
  obtain ⟨hcoordinates, hfind⟩ := rawByCoordinates_ok hbyCoordinates
  rw [hby.cells_eq] at hpairs
  have hcells := generateCells_keys contract.profile
  refine ⟨compiled, hcompiled, ?_⟩
  rw [hby.cells_eq]
  have hkeysOf : ∀ (l : List RawTrialEnvelope) pairs, (l.mapM fun trial => do
      let pair ← matchedPair contract.profile.input (generateCells contract.profile) byCoordinates trial
      pure (trial.trialKey, pair)) = Except.ok pairs →
        pairs.map Prod.fst = l.map (·.trialKey) := by
    intro l
    induction l with
    | nil =>
      intro pairs hrun
      cases hrun
      rfl
    | cons trial l ih =>
      intro pairs hrun
      rw [List.mapM_cons] at hrun
      simp only [bind_eq_ok, pure_eq_ok] at hrun
      obtain ⟨_, ⟨pair, -, rfl⟩, rest, hrest, rfl⟩ := hrun
      rw [List.map_cons, List.map_cons, ih rest hrest]
  have hnodup : (pairs.map Prod.fst).Nodup := by
    rw [hkeysOf _ _ hpairs]
    exact raw.keysUnique
  -- what the entry of a trial says
  have hentry : ∀ trial ∈ raw.trials, ∃ attack ∈ raw.trials, ∃ benign ∈ raw.trials,
      Partners contract.profile.input (generateCells contract.profile) attack benign
        ∧ (trial = attack ∨ trial = benign)
        ∧ Dict.get? (Dict.ofPairs pairs) trial.trialKey
          = some ⟨trial.trialKey, attack.trialKey, benign.trialKey⟩ := by
    intro trial htrial
    obtain ⟨item, hitem, hstep⟩ := mapM_answer hpairs trial htrial
    simp only [bind_eq_ok, pure_eq_ok] at hstep
    obtain ⟨pair, hpair, rfl⟩ := hstep
    obtain ⟨counterpart, hcounterpart, isAttack, hpartners, rfl⟩ := matchedPair_ok hcells hfind hpair
    have hget := Dict.get?_of_mem (Dict.ofPairs_of_nodup hnodup ▸ hnodup)
      (Dict.ofPairs_of_nodup hnodup ▸ hitem)
    cases isAttack with
    | true => exact ⟨trial, htrial, counterpart, hcounterpart, hpartners, .inl rfl, hget⟩
    | false => exact ⟨counterpart, hcounterpart, trial, htrial, hpartners, .inr rfl, hget⟩
  -- both partners of a pair have the entry of that pair
  have hboth : ∀ attack ∈ raw.trials, ∀ benign ∈ raw.trials,
      Partners contract.profile.input (generateCells contract.profile) attack benign →
        ∀ trial, trial = attack ∨ trial = benign → trial ∈ raw.trials →
          Dict.get? (Dict.ofPairs pairs) trial.trialKey
            = some ⟨trial.trialKey, attack.trialKey, benign.trialKey⟩ := by
    intro attack hattack benign hbenign hpartners trial hone htrial
    obtain ⟨attack', hattack', benign', hbenign', hpartners', hone', hget⟩ := hentry trial htrial
    obtain ⟨rfl, rfl⟩ := partners_unique hcells (cells_distinct hlevels) hcoordinates hlevels.input
      ⟨hattack, hbenign⟩ ⟨hattack', hbenign'⟩ hpartners hpartners' hone hone'
    exact hget
  have honly : ∀ {key pair}, Dict.get? (Dict.ofPairs pairs) key = some pair →
      ∃ trial ∈ raw.trials, trial.trialKey = key := by
    intro key pair hget
    have hmem : key ∈ pairs.map Prod.fst := List.mem_map_of_mem (Dict.ofPairs_mem hget)
    rw [hkeysOf _ _ hpairs] at hmem
    obtain ⟨trial, htrial, hkey⟩ := List.mem_map.mp hmem
    exact ⟨trial, htrial, hkey⟩
  have hapart : ∀ {attack benign : RawTrialEnvelope}, attack ∈ raw.trials → benign ∈ raw.trials →
      Partners contract.profile.input (generateCells contract.profile) attack benign →
        attack.trialKey ≠ benign.trialKey := by
    intro attack benign hattack hbenign hpartners hsame
    obtain rfl := List.inj_on_of_nodup_map raw.keysUnique hattack hbenign hsame
    obtain ⟨_, _, hside, hside', -⟩ := hpartners.sides
    exact absurd (onSide_unique hcells hlevels.input hside hside').1 (by decide)
  refine ⟨fun key => ⟨?_, ?_⟩, ?_, ?_⟩
  · rintro ⟨pair, hget⟩
    exact honly hget
  · rintro ⟨trial, htrial, rfl⟩
    obtain ⟨attack, -, benign, -, -, -, hget⟩ := hentry trial htrial
    exact ⟨_, hget⟩
  · intro key pair hget
    obtain ⟨trial, htrial, rfl⟩ := honly hget
    obtain ⟨attack, hattack, benign, hbenign, hpartners, hone, hget'⟩ := hentry trial htrial
    obtain rfl := Option.some.inj (hget.symm.trans hget')
    refine ⟨rfl, ?_, hapart hattack hbenign hpartners, attack, hattack, benign, hbenign, rfl, rfl,
      hpartners, hboth attack hattack benign hbenign hpartners attack (.inl rfl) hattack,
      hboth attack hattack benign hbenign hpartners benign (.inr rfl) hbenign⟩
    rcases hone with rfl | rfl
    · exact .inl rfl
    · exact .inr rfl
  · intro trial htrial
    obtain ⟨attack, hattack, benign, hbenign, hpartners, hone, hget⟩ := hentry trial htrial
    refine ⟨(attack.trialKey, benign.trialKey), ⟨⟨_, _, hget, rfl⟩, ?_⟩, ?_⟩
    · rcases hone with rfl | rfl
      · exact .inl rfl
      · exact .inr rfl
    · rintro keys ⟨⟨key, pair, hother, rfl⟩, hmember⟩
      obtain ⟨subject, hsubject, rfl⟩ := honly hother
      obtain ⟨attack', hattack', benign', hbenign', hpartners', -, hget'⟩ := hentry subject hsubject
      obtain rfl := Option.some.inj (hother.symm.trans hget')
      have hone' : trial = attack' ∨ trial = benign' := hmember.imp
        (List.inj_on_of_nodup_map raw.keysUnique htrial hattack')
        (List.inj_on_of_nodup_map raw.keysUnique htrial hbenign')
      obtain ⟨rfl, rfl⟩ := partners_unique hcells (cells_distinct hlevels) hcoordinates hlevels.input
        ⟨hattack, hbenign⟩ ⟨hattack', hbenign'⟩ hpartners hpartners' hone hone'
      rfl

/-! ## Trials that ran as planned -/

section Planned

/-- The action that the input of a cell asks for. -/
def frozenAction (axis : InputAxis) (cells : List GeneratedCell) (cellKey : String) :
    OpaqueArtifactReference :=
  ⟨"action/v1", if cells.any fun cell => decide (cell.key = cellKey)
      && sameOptional cell.selector.input (some axis.attack)
    then axis.attackActionDigest else axis.benignActionDigest⟩

def plannedEntry (axis : InputAxis) (cells : List GeneratedCell) (t : PlannedTrial) :
    FrozenPlanEntry :=
  ⟨t.cellKey, t.block, t.replicate, t.ordinal, t.key, frozenAction axis cells t.cellKey⟩

def plannedEnvelope (compiled : CompiledExperiment) (proof : OpaqueArtifactReference)
    (t : PlannedTrial) : RawTrialEnvelope :=
  ⟨t.key, t.cellKey, t.block, t.replicate, t.ordinal, ⟨compiled.specDigest, t.key,
    frozenAction compiled.contract.profile.input compiled.cells t.cellKey⟩, some proof⟩

/-- The plan of a compiled experiment. -/
def plannedPlan (compiled : CompiledExperiment)
    (hcoordinates : (compiled.plannedTrials.map PlannedTrial.coordinate).Nodup)
    (hkeys : (compiled.plannedTrials.map (·.key)).Nodup) : FrozenPlan where
  entries := compiled.plannedTrials.map (plannedEntry compiled.contract.profile.input compiled.cells)
  coordinatesUnique := by rw [List.map_map]; exact hcoordinates
  keysUnique := by rw [List.map_map]; exact hkeys

/-- The trials of a run of that plan, with one proof. -/
def plannedTrialSet (compiled : CompiledExperiment) (proof : OpaqueArtifactReference)
    (hkeys : (compiled.plannedTrials.map (·.key)).Nodup) : RawTrialSet where
  trials := compiled.plannedTrials.map (plannedEnvelope compiled proof)
  keysUnique := by rw [List.map_map]; exact hkeys

variable {axis : InputAxis}

/-- The action of a cell on one side. -/
theorem frozenAction_digest {cells : List GeneratedCell} {cell : GeneratedCell}
    (hcells : (cells.map (·.key)).Nodup) (hcell : cell ∈ cells) :
    (frozenAction axis cells cell.key).artifactDigest
      = if sameOptional cell.selector.input (some axis.attack) = true then axis.attackActionDigest
        else axis.benignActionDigest := by
  refine if_congr ?_ rfl rfl
  rw [List.any_eq_true]
  constructor
  · rintro ⟨other, hother, hmatch⟩
    rw [Bool.and_eq_true, decide_eq_true_iff] at hmatch
    rw [← List.inj_on_of_nodup_map hcells hother hcell hmatch.1]
    exact hmatch.2
  · intro hattack
    exact ⟨cell, hcell, by rw [hattack, decide_eq_true rfl]; rfl⟩

variable {R : CompilerRuntime} {contract : ExperimentContract} {compiled : CompiledExperiment}

/-- The input on one side of the axis. -/
def InputAxis.side (axis : InputAxis) (isAttack : Bool) : TypedValue :=
  if isAttack then axis.attack else axis.benign

theorem sameOptional_congr {a b c : Option TypedValue}
    (h : a.map (·.canonical) = b.map (·.canonical)) : sameOptional a c = sameOptional b c := by
  rw [Bool.eq_iff_iff, sameOptional_iff, sameOptional_iff, h]

/-- An input is the attack on the attack's side only. -/
theorem side_same (h : axis.attack.same axis.benign = false) (isAttack : Bool) :
    sameOptional (some (InputAxis.side axis isAttack)) (some axis.attack) = isAttack := by
  cases isAttack with
  | true => exact same_refl _
  | false => exact (same_comm _ _).trans h

theorem inputSide_returns (h : axis.attack.same axis.benign = false)
    (isAttack : Bool) : inputSide axis (some (InputAxis.side axis isAttack))
      = .ok (InputAxis.side axis !isAttack,
        if isAttack then axis.attackActionDigest else axis.benignActionDigest, isAttack) := by
  unfold inputSide
  rw [side_same h]
  cases isAttack with
  | true => rfl
  | false =>
    rw [if_neg Bool.false_ne_true]
    exact if_pos (same_refl _)

/-- The counterpart's cell is found. -/
theorem findMatching_returns {p : PreventiveNonMaskingProfile} (h : Levels p) {cell : GeneratedCell}
    (hcell : cell ∈ generateCells p) (isAttack : Bool) :
    ∃ counter ∈ generateCells p,
      findMatchingRecoveryCell (generateCells p) cell.selector (InputAxis.side p.input isAttack)
          = .ok counter.key
        ∧ counter.selector.input.map (·.canonical)
          = some (InputAxis.side p.input isAttack).canonical := by
  have hside : InputAxis.side p.input isAttack = p.input.attack
      ∨ InputAxis.side p.input isAttack = p.input.benign := by
    cases isAttack with
    | true => exact .inl rfl
    | false => exact .inr rfl
  obtain ⟨i, t, c, s, hselector, -, ht, hc, hs⟩ := cell_levels h hcell
  obtain ⟨counter, hmem, hfound, -⟩ := cellFor_generated (oneOf_input h hside) ht hc hs
  unfold cellFor at hfound
  split at hfound
  · next only hfilter =>
    obtain rfl := Except.ok.inj hfound
    have hone : only ∈ [only] := List.mem_singleton.mpr rfl
    rw [← hfilter] at hone
    have hsame := selector_same_iff.mp (List.mem_filter.mp hone).2
    refine ⟨only, hmem, ?_, congrArg CellSelector.input hsame⟩
    unfold findMatchingRecoveryCell
    rw [hselector, hfilter]
  · cases hfound

section Run

variable (h : compileExperiment R contract = .ok compiled)
  (hkeys : (compiled.plannedTrials.map (·.key)).Nodup) (proof : OpaqueArtifactReference)

/-- The first loop over trials that ran as planned. -/
theorem rawByCoordinates_returns : ∃ byCoordinates, rawByCoordinates
    (plannedPlan compiled (compile_factorial h).injective hkeys)
    (plannedTrialSet compiled proof hkeys) = .ok byCoordinates := by
  have hpairs : (((plannedTrialSet compiled proof hkeys).trials.map fun trial =>
      (trial.trialKey, trial)).map Prod.fst).Nodup := by
    rw [List.map_map]
    exact (plannedTrialSet compiled proof hkeys).keysUnique
  have hentries : (((plannedPlan compiled (compile_factorial h).injective hkeys).entries.map
      fun entry => (entry.trialKey, entry)).map Prod.fst).Nodup := by
    rw [List.map_map]
    exact (plannedPlan compiled (compile_factorial h).injective hkeys).keysUnique
  have hsets : Dict.keys (Dict.ofPairs ((plannedTrialSet compiled proof hkeys).trials.map
      fun trial => (trial.trialKey, trial)))
      = Dict.keys (Dict.ofPairs ((plannedPlan compiled (compile_factorial h).injective
        hkeys).entries.map fun entry => (entry.trialKey, entry))) := by
    rw [Dict.ofPairs_of_nodup hpairs, Dict.ofPairs_of_nodup hentries]
    unfold Dict.keys plannedTrialSet plannedPlan
    rw [List.map_map, List.map_map, List.map_map, List.map_map]
    rfl
  have hrounds : ∀ item ∈ Dict.ofPairs ((plannedTrialSet compiled proof hkeys).trials.map
      fun trial => (trial.trialKey, trial)), ∃ pair, checkedTrial (Dict.ofPairs
        ((plannedPlan compiled (compile_factorial h).injective hkeys).entries.map fun entry =>
          (entry.trialKey, entry))) item.2 = .ok pair := by
    intro item hitem
    rw [Dict.ofPairs_of_nodup hpairs] at hitem
    obtain ⟨trial, htrial, rfl⟩ := List.mem_map.mp hitem
    obtain ⟨t, ht, rfl⟩ := List.mem_map.mp htrial
    exact ⟨_, checkedTrial_iff.mpr ⟨⟨plannedEntry compiled.contract.profile.input compiled.cells t,
      List.mem_map_of_mem ht, rfl, rfl, rfl, rfl⟩, rfl⟩⟩
  obtain ⟨pairs, hrun⟩ := (returns_mapM hrounds).exists_ok
  unfold rawByCoordinates
  dsimp only
  rw [require_pos ⟨fun key hkey => hsets ▸ hkey, fun key hkey => hsets ▸ hkey⟩, ok_bind, hrun]
  exact ⟨_, rfl⟩

include h in
/-- One round of the second loop. -/
theorem matchedPair_returns {byCoordinates : Dict (String × String × Nat) RawTrialEnvelope}
    (hfind : ∀ {coordinate trial}, byCoordinates.get? coordinate = some trial
      ↔ trial ∈ (plannedTrialSet compiled proof hkeys).trials ∧ trial.coordinate = coordinate)
    {t : PlannedTrial} (ht : t ∈ compiled.plannedTrials) :
    ∃ pair, matchedPair contract.profile.input compiled.cells byCoordinates
      (plannedEnvelope compiled proof t) = .ok pair := by
  obtain ⟨metrics, obligations, hby⟩ := compile_ok h
  have hlevels := validate_levels hby.valid
  have hfactorial := compile_factorial h
  have hcells : (compiled.cells.map (·.key)).Nodup := hfactorial.cells.2
  obtain ⟨hcellKey, hplace⟩ := (hfactorial.onto t.cellKey t.block t.replicate).mp
    (List.mem_map_of_mem ht)
  obtain ⟨cell, hcell, hkey⟩ := List.mem_map.mp hcellKey
  -- which side the cell is on
  obtain ⟨isAttack, hside⟩ : ∃ isAttack, cell.selector.input
      = some (InputAxis.side contract.profile.input isAttack) := by
    have hgenerated := hcell
    rw [hby.cells_eq] at hgenerated
    obtain ⟨i, _, _, _, hselector, hi, -⟩ := cell_levels hlevels hgenerated
    rw [hselector]
    rcases hi with rfl | rfl
    · exact ⟨true, rfl⟩
    · exact ⟨false, rfl⟩
  have hmatching : ∃ counter ∈ compiled.cells, findMatchingRecoveryCell compiled.cells cell.selector
      (InputAxis.side contract.profile.input !isAttack) = .ok counter.key
        ∧ counter.selector.input.map (·.canonical)
          = some (InputAxis.side contract.profile.input !isAttack).canonical := by
    rw [hby.cells_eq] at hcell ⊢
    exact findMatching_returns hlevels hcell _
  obtain ⟨counter, hcounter, hmatching, hcounterInput⟩ := hmatching
  obtain ⟨other, hother, hotherPlace⟩ := List.mem_map.mp ((hfactorial.onto counter.key t.block
    t.replicate).mpr ⟨List.mem_map_of_mem hcounter, hplace⟩)
  have hlookup : (Dict.ofPairs (compiled.cells.map fun cell => (cell.key, cell))).get?
      (plannedEnvelope compiled proof t).cellKey = some cell :=
    (get?_ofPairs hcells).mpr ⟨cell, hcell, hkey, rfl⟩
  have hfound : byCoordinates.get? (counter.key, (plannedEnvelope compiled proof t).block,
      (plannedEnvelope compiled proof t).replicate) = some (plannedEnvelope compiled proof other) :=
    hfind.mpr ⟨List.mem_map_of_mem hother, hotherPlace⟩
  -- a planned action is the one of its cell's side
  have haction : ∀ {cell : GeneratedCell} {t : PlannedTrial} {side : Bool}, cell ∈ compiled.cells →
      cell.key = t.cellKey → cell.selector.input.map (·.canonical)
        = some (InputAxis.side contract.profile.input side).canonical →
      (plannedEnvelope compiled proof t).action.artifact.artifactDigest
        = if side then contract.profile.input.attackActionDigest
          else contract.profile.input.benignActionDigest := by
    intro cell t side hcell hkey hinput
    show (frozenAction compiled.contract.profile.input compiled.cells t.cellKey).artifactDigest = _
    rw [← hkey, frozenAction_digest hcells hcell, hby.contract_eq,
      sameOptional_congr (b := some (InputAxis.side contract.profile.input side)) hinput,
      side_same hlevels.input]
  have hown := haction hcell hkey (congrArg (Option.map (·.canonical)) hside)
  have hcounterpart := haction hcounter (congrArg Prod.fst hotherPlace).symm hcounterInput
  have hproof : (plannedEnvelope compiled proof t).sharedLifecycleProof ≠ none
      ∧ (plannedEnvelope compiled proof other).sharedLifecycleProof ≠ none
      ∧ (plannedEnvelope compiled proof t).sharedLifecycleProof
        = (plannedEnvelope compiled proof other).sharedLifecycleProof :=
    ⟨Option.some_ne_none _, Option.some_ne_none _, rfl⟩
  unfold matchedPair
  simp only [hlookup, expect, hside, inputSide_returns hlevels.input, ok_bind]
  rw [require_pos hown, ok_bind, hmatching, ok_bind]
  simp only [hfound, ok_bind]
  rw [require_pos hproof, ok_bind]
  cases isAttack with
  | true =>
    rw [require_pos ⟨hown, hcounterpart⟩]
    exact ⟨_, rfl⟩
  | false =>
    rw [require_pos ⟨hcounterpart, hown⟩]
    exact ⟨_, rfl⟩

/-- **The pairs of trials that ran as planned are derived.** -/
theorem derivation_returns : ∃ result, deriveRecoveryPairs R contract
    (plannedPlan compiled (compile_factorial h).injective hkeys)
    (plannedTrialSet compiled proof hkeys) = .ok result := by
  obtain ⟨byCoordinates, hbyCoordinates⟩ := rawByCoordinates_returns h hkeys proof
  obtain ⟨-, hfind⟩ := rawByCoordinates_ok hbyCoordinates
  have hrounds : ∀ trial ∈ (plannedTrialSet compiled proof hkeys).trials, ∃ item, (do
      let pair ← matchedPair contract.profile.input compiled.cells byCoordinates trial
      pure (trial.trialKey, pair)) = Except.ok item := by
    intro trial htrial
    obtain ⟨t, ht, rfl⟩ := List.mem_map.mp htrial
    obtain ⟨pair, hpair⟩ := matchedPair_returns h hkeys proof hfind ht
    rw [hpair]
    exact ⟨_, rfl⟩
  obtain ⟨pairs, hrun⟩ := (returns_mapM hrounds).exists_ok
  unfold deriveRecoveryPairs
  rw [h, ok_bind, hbyCoordinates, ok_bind, hrun]
  exact ⟨_, rfl⟩

end Run

end Planned

theorem recovery_pairs_match_plain :
    ∃ compiled plan raw result, compileExperiment plainRuntime plainContract = .ok compiled
      ∧ deriveRecoveryPairs plainRuntime plainContract plan raw = .ok result
      ∧ PerfectMatching plainContract.profile.input compiled.cells raw result := by
  obtain ⟨compiled, h⟩ := plain_compiles
  have hkeys := (compile_factorial h).keys (plain_noCollision h)
  obtain ⟨result, hresult⟩ := derivation_returns h hkeys ⟨"proof/v1", 7⟩
  obtain ⟨compiled', h', hmatching⟩ := recovery_pairs_match hresult
  obtain rfl := Except.ok.inj (h.symm.trans h')
  exact ⟨compiled, _, _, result, h, hresult, hmatching⟩

end ControlAssurance.Benchmark
