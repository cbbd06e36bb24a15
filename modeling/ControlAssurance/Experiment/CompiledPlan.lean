import Mathlib.Data.List.Sort
import ControlAssurance.Experiment.Assessment

/-!
# What a compiled experiment guarantees

The facts about a compiled experiment that the evaluator relies on, all of them read off
`compile_experiment`: every reference resolves, every name it will put into a model is nonempty,
and the plan has a trial at each coordinate.
-/

namespace ControlAssurance.Experiment

open Lib

variable {R : CompilerRuntime} {contract : ExperimentContract} {compiled : CompiledExperiment}

/-! ## The compiler's steps -/

/-- The dictionary of items with distinct ids is the items under their ids. -/
theorem uniqueById_ok {α : Type} {identifier : α → String} {label : String} {items : List α}
    {d : Dict String α} (h : uniqueById identifier label items = .ok d) :
    d = items.map (fun item => (identifier item, item)) ∧ (items.map identifier).Nodup := by
  have hrun : ∀ (items : List α) (d r : Dict String α),
      items.foldlM (fun result item => do
        require (identifier item ∉ Dict.keys result)
          ("duplicate " ++ label ++ " id: " ++ identifier item)
        pure (Dict.insert result (identifier item) item)) d = Except.ok r →
      (Dict.keys d).Nodup →
      r = d ++ items.map (fun item => (identifier item, item)) ∧ (Dict.keys r).Nodup := by
    intro items
    induction items with
    | nil =>
      intro d r h hd
      cases h
      exact ⟨(List.append_nil _).symm, hd⟩
    | cons item items ih =>
      intro d r h hd
      rw [List.foldlM_cons] at h
      simp only [bind_eq_ok, require_eq_ok, pure_eq_ok, exists_and_left, exists_const] at h
      obtain ⟨_, ⟨hnew, rfl⟩, hrest⟩ := h
      obtain ⟨hr, hnodup⟩ := ih _ _ hrest (Dict.nodup_keys_insert hd _ _)
      refine ⟨?_, hnodup⟩
      have hinsert : Dict.insert d (identifier item) item = d ++ [(identifier item, item)] :=
        if_neg hnew
      rw [hr, hinsert, List.append_assoc]
      rfl
  obtain ⟨hd, hnodup⟩ := hrun items [] d h List.nodup_nil
  refine ⟨hd, ?_⟩
  rw [hd] at hnodup
  simpa [Dict.keys, List.map_map, Function.comp_def] using hnodup

/-- What the dictionary holds is found in the list. -/
theorem uniqueById_get? {α : Type} {identifier : α → String} {label : String} {items : List α}
    {d : Dict String α} (h : uniqueById identifier label items = .ok d) {k : String} {a : α}
    (hget : d.get? k = some a) : a ∈ items ∧ identifier a = k := by
  obtain ⟨rfl, -⟩ := uniqueById_ok h
  obtain ⟨item, hitem, heq⟩ := List.mem_map.mp (Dict.get?_eq_some hget)
  cases heq
  exact ⟨hitem, rfl⟩

/-- What a compiled experiment is made of. -/
structure CompiledBy (R : CompilerRuntime) (contract : ExperimentContract)
    (compiled : CompiledExperiment) (metrics : Dict String MetricContract)
    (obligations : Dict String Obligation) : Prop where
  contract_eq : compiled.contract = contract
  valid : contract.validate = .ok ()
  metrics_ok : uniqueById (·.id) "metric" contract.metrics = .ok metrics
  obligations_ok : uniqueById (·.id) "obligation" contract.obligations = .ok obligations
  profile_ok : validateProfile contract.profile metrics = .ok ()
  cells_eq : compiled.cells = generateCells contract.profile
  references : validateObligations contract metrics obligations (generateCells contract.profile)
    (currentSelector contract.profile) = .ok ()
  planned_eq : compiled.plannedTrials
    = planTrials R contract.plan (generateCells contract.profile) compiled.specDigest
  covered : coverage contract.obligations (generateCells contract.profile) compiled.plannedTrials
    = .ok compiled.obligationCoverage
  contrasts_ok : generateContrasts contract.profile (generateCells contract.profile)
    = .ok compiled.contrasts
  compiled_valid : compiled.validate = .ok ()

theorem compile_ok (h : compileExperiment R contract = .ok compiled) :
    ∃ metrics obligations, CompiledBy R contract compiled metrics obligations := by
  unfold compileExperiment at h
  simp only [bind_eq_ok, mapError_eq_ok, pure_eq_ok] at h
  obtain ⟨⟨⟩, hvalid, metrics, hmetrics, obligations, hobligations, _, -, ⟨⟩, hprofile, ⟨⟩,
    hreferences, canonical, -, covered, hcovered, _, -, contrasts, hcontrasts, ⟨⟩, hcompiled, rfl⟩ :=
    h
  exact ⟨metrics, obligations,
    { contract_eq := rfl
      valid := hvalid
      metrics_ok := hmetrics
      obligations_ok := hobligations
      profile_ok := hprofile
      cells_eq := rfl
      references := hreferences
      planned_eq := rfl
      covered := hcovered
      contrasts_ok := hcontrasts
      compiled_valid := hcompiled }⟩

/-! ## Names -/

theorem isIdentifier_ne_empty {value : String} (h : isIdentifier value = true) : value ≠ "" := by
  rintro rfl
  exact absurd h (by decide)

theorem checkIdentifiers_ok {values : List (String × String)} (h : checkIdentifiers values = .ok ())
    {field value : String} (hmem : (field, value) ∈ values) : value ≠ "" := by
  have hchecked := forM_eq_ok.mp h (field, value) hmem
  exact isIdentifier_ne_empty (require_eq_ok.mp hchecked)

/-- The names and sizes that a valid contract has. -/
structure NamedContract (c : ExperimentContract) : Prop where
  metric : ∀ m ∈ c.metrics, m.id ≠ ""
  obligation : ∀ o ∈ c.obligations, o.id ≠ ""
  block : ∀ b ∈ c.plan.blocks, b ≠ ""
  blocks : c.plan.blocks ≠ []
  replicates : 1 ≤ c.plan.replicates

theorem validate_named (h : contract.validate = .ok ()) : NamedContract contract := by
  unfold ExperimentContract.validate at h
  simp only [bind_eq_ok, require_eq_ok, exists_and_left, exists_const] at h
  obtain ⟨_, -, _, -, -, ⟨⟩, hmetrics, -, ⟨⟩, hobligations, _, -, ⟨⟩, hplan, -⟩ := h
  unfold TrialPlan.validate at hplan
  simp only [bind_eq_ok, require_eq_ok, exists_and_left, exists_const] at hplan
  obtain ⟨hblocks, ⟨⟩, hnames, hreplicates, -⟩ := hplan
  refine ⟨fun m hm => ?_, fun o ho => ?_, fun b hb => ?_, ?_, hreplicates.1⟩
  · have hvalid := forM_eq_ok.mp hmetrics m hm
    unfold MetricContract.validate at hvalid
    rw [bind_eq_ok] at hvalid
    obtain ⟨⟨⟩, hids, -⟩ := hvalid
    exact checkIdentifiers_ok hids (List.mem_cons_self ..)
  · have hvalid := forM_eq_ok.mp hobligations o ho
    unfold Obligation.validate at hvalid
    rw [bind_eq_ok] at hvalid
    obtain ⟨⟨⟩, hids, -⟩ := hvalid
    exact checkIdentifiers_ok hids (List.mem_cons_self ..)
  · exact checkIdentifiers_ok hnames (List.mem_map_of_mem hb)
  · intro hnil
    rw [hnil] at hblocks
    exact absurd hblocks.1 (by decide)

/-! ## The plan -/

variable {cell : GeneratedCell} {profile : PreventiveNonMaskingProfile} {cells : List GeneratedCell}

theorem generateCells_spec (h : cell ∈ generateCells profile) :
    cell.key ≠ "" ∧ (cell.selector.input = some profile.input.attack
      ∨ cell.selector.input = some profile.input.benign) := by
  unfold generateCells at h
  simp only [List.mem_flatMap, List.mem_map] at h
  obtain ⟨input, hinput, target, -, compensator, -, sham, -, rfl⟩ := h
  refine ⟨fun hempty => ?_, ?_⟩
  · have hlength := congrArg String.length hempty
    simp only [String.length_append] at hlength
    have hfirst : "input=".length = 6 := by decide
    have hnone : "".length = 0 := by decide
    omega
  · rcases List.mem_cons.mp hinput with rfl | hinput
    · exact .inl rfl
    · rw [List.mem_singleton.mp hinput]
      exact .inr rfl

/-- A planned trial is at a coordinate of the plan. -/
theorem planTrials_coordinate {plan : TrialPlan} {digest : Digest}
    {trial : PlannedTrial} (h : trial ∈ planTrials R plan cells digest) :
    1 ≤ trial.ordinal ∧ 1 ≤ trial.replicate ∧ trial.replicate ≤ plan.replicates
      ∧ trial.block ∈ plan.blocks ∧ ∃ cell ∈ cells, trial.cellKey = cell.key := by
  unfold planTrials at h
  obtain ⟨⟨raw, i⟩, hraw, rfl⟩ := List.mem_map.mp h
  have hmem := List.mem_mergeSort.mp (List.fst_mem_of_mem_zipIdx hraw)
  unfold rawTrials at hmem
  simp only [List.mem_flatMap, List.mem_map] at hmem
  obtain ⟨cell, hcell, block, hblock, j, hj, rfl⟩ := hmem
  have hlt := List.mem_range.mp hj
  refine ⟨Nat.le_add_left 1 i, Nat.le_add_left 1 j, hlt, List.mem_mergeSort.mp hblock, cell, hcell,
    rfl⟩

/-- Each coordinate of the plan has a trial. -/
theorem planTrials_at {plan : TrialPlan} (digest : Digest)
    (hcell : cell ∈ cells) {block : String} (hblock : block ∈ plan.blocks)
    {i : Nat} (hi : i < plan.replicates) :
    ∃ trial ∈ planTrials R plan cells digest,
      trial.cellKey = cell.key ∧ trial.block = block ∧ trial.replicate = i + 1 := by
  have hraw : rawTrial R plan.orderSeed digest cell.key block (i + 1)
      ∈ (rawTrials R plan cells digest).mergeSort RawTrial.le := by
    rw [List.mem_mergeSort]
    unfold rawTrials
    simp only [List.mem_flatMap, List.mem_map]
    exact ⟨cell, hcell, block, List.mem_mergeSort.mpr hblock, i, List.mem_range.mpr hi, rfl⟩
  obtain ⟨k, hk⟩ := List.mem_iff_getElem?.mp hraw
  exact ⟨_, List.mem_map_of_mem (List.mk_mem_zipIdx_iff_getElem?.mpr hk), rfl, rfl, rfl⟩

/-! ## Contrasts -/

theorem contrastPair_ok {reference comparison : CellSelector}
    {pairs : List ContrastPair} (h : contrastPair cells reference comparison = .ok pairs) :
    pairs ≠ [] ∧ ∀ pair ∈ pairs, (∃ cell ∈ cells, pair.referenceCellKey = cell.key)
      ∧ ∃ cell ∈ cells, pair.comparisonCellKey = cell.key := by
  have hcell : ∀ {selector cell}, cellFor cells selector = .ok cell → cell ∈ cells := by
    intro selector cell hcell
    unfold cellFor at hcell
    split at hcell
    · rename_i hfound
      cases hcell
      have hmem : cell ∈ cells.filter fun cell => cell.selector.same selector := by
        rw [hfound]
        exact List.mem_singleton.mpr rfl
      exact (List.mem_filter.mp hmem).1
    · cases hcell
  unfold contrastPair at h
  simp only [bind_eq_ok, pure_eq_ok] at h
  obtain ⟨left, hleft, right, hright, rfl⟩ := h
  refine ⟨List.cons_ne_nil _ _, fun pair hpair => ?_⟩
  rw [List.mem_singleton.mp hpair]
  exact ⟨⟨left, hcell hleft, rfl⟩, right, hcell hright, rfl⟩

/-- The metrics that the contrasts compare. -/
def contrastMetrics (profile : PreventiveNonMaskingProfile) : List String :=
  [profile.targetMetricId, profile.benignOutcomeMetricId, profile.outcomeMetricId]

theorem generateContrasts_ok
    {contrasts : List ContrastDefinition} (h : generateContrasts profile cells = .ok contrasts) :
    contrasts.map (·.id) = [.targetAttackEffect, .targetBenignInvariance,
        .compensatorBenignInvariance, .shamInvariance, .compensatorAttackEffect]
      ∧ ∀ contrast ∈ contrasts, contrast.metricId ∈ contrastMetrics profile
        ∧ contrast.pairs ≠ [] ∧ ∀ pair ∈ contrast.pairs,
          (∃ cell ∈ cells, pair.referenceCellKey = cell.key)
          ∧ ∃ cell ∈ cells, pair.comparisonCellKey = cell.key := by
  unfold generateContrasts at h
  simp only [bind_eq_ok, pure_eq_ok] at h
  obtain ⟨p₁, h₁, p₂, h₂, p₃, h₃, p₄, h₄, p₅, h₅, rfl⟩ := h
  refine ⟨rfl, fun contrast hcontrast => ?_⟩
  simp only [List.mem_cons, List.not_mem_nil, or_false] at hcontrast
  unfold contrastMetrics
  rcases hcontrast with rfl | rfl | rfl | rfl | rfl
  · exact ⟨by simp, contrastPair_ok h₁⟩
  · exact ⟨by simp, contrastPair_ok h₂⟩
  · exact ⟨by simp, contrastPair_ok h₃⟩
  · exact ⟨by simp, contrastPair_ok h₄⟩
  · exact ⟨by simp, contrastPair_ok h₅⟩

/-! ## What the evaluator relies on -/

theorem same_refl (v : TypedValue) : v.same v = true := by
  cases v <;> simp [TypedValue.same]

/-- The lookups that the evaluator makes in a compiled experiment. -/
structure SoundPlan (c : CompiledExperiment) : Prop where
  named : NamedContract c.contract
  trial : ∀ trial ∈ c.plannedTrials,
    trial.cellKey ≠ "" ∧ trial.block ≠ "" ∧ 1 ≤ trial.replicate ∧ 1 ≤ trial.ordinal
  action : ∀ trial ∈ c.plannedTrials, ∃ selector action,
    (selectorsByKey c.cells).get? trial.cellKey = some selector
      ∧ expectedActionDigest c selector = .ok action
  covered : ∀ o ∈ c.contract.obligations, ∃ item ∈ c.obligationCoverage, item.obligationId = o.id
  coverage : ∀ item ∈ c.obligationCoverage, item.trialKeys ≠ []
  metric : ∀ o ∈ c.contract.obligations, ∃ m ∈ c.contract.metrics, m.id = o.predicate.metricId
  contrastMetric : ∀ contrast ∈ c.contrasts, ∃ m ∈ c.contract.metrics, m.id = contrast.metricId
  pairs : ∀ contrast ∈ c.contrasts, contrast.pairs ≠ []
  matched : ∀ contrast ∈ c.contrasts, ∀ pair ∈ contrast.pairs, ∀ block ∈ c.contract.plan.blocks,
    ∀ i < c.contract.plan.replicates, ∀ cellKey ∈ [pair.referenceCellKey, pair.comparisonCellKey],
      ∃ trial ∈ c.plannedTrials,
        trial.cellKey = cellKey ∧ trial.block = block ∧ trial.replicate = i + 1
  primary : ∀ id ∈ [c.contract.profile.primaryTargetObligationId,
      c.contract.profile.primaryCompensatorObligationId,
      c.contract.profile.primaryPathObligationId, c.contract.profile.primaryBenignObligationId],
    ∃ o ∈ c.contract.obligations, o.id = id
  contrastIds : c.contrasts.map (·.id) = [.targetAttackEffect, .targetBenignInvariance,
    .compensatorBenignInvariance, .shamInvariance, .compensatorAttackEffect]

theorem expectedActionDigest_ok {selector : CellSelector}
    (h : selector.input = some compiled.contract.profile.input.attack
      ∨ selector.input = some compiled.contract.profile.input.benign) :
    ∃ action, expectedActionDigest compiled selector = .ok action := by
  unfold expectedActionDigest
  dsimp only
  by_cases hattack : sameOptional selector.input (some compiled.contract.profile.input.attack) = true
  · exact ⟨_, by rw [if_pos hattack]⟩
  · rw [if_neg hattack]
    have hbenign := h.resolve_left fun heq => hattack (by rw [heq]; exact same_refl _)
    have hsame : sameOptional selector.input (some compiled.contract.profile.input.benign) = true := by
      rw [hbenign]
      exact same_refl _
    exact ⟨_, if_pos hsame⟩

/-- The cell of a key of the generated cells. -/
theorem selectorsByKey_generated (h : cell ∈ generateCells profile) :
    ∃ other ∈ generateCells profile,
      (selectorsByKey (generateCells profile)).get? cell.key = some other.selector := by
  unfold selectorsByKey
  have hkey : cell.key ∈ (Dict.ofPairs ((generateCells profile).map fun cell =>
      (cell.key, cell.selector))).keys := by
    rw [Dict.mem_keys_ofPairs, List.map_map]
    exact List.mem_map_of_mem h
  obtain ⟨selector, hselector⟩ := Option.isSome_iff_exists.mp (Dict.get?_isSome.mpr hkey)
  obtain ⟨other, hother, heq⟩ := List.mem_map.mp (Dict.ofPairs_mem hselector)
  refine ⟨other, hother, ?_⟩
  rw [hselector, ← (Prod.mk.inj heq).2]

/-- **A compiled experiment has all that the evaluator looks up.** -/
theorem compile_sound (h : compileExperiment R contract = .ok compiled) : SoundPlan compiled := by
  obtain ⟨metrics, obligations, hby⟩ := compile_ok h
  obtain rfl := hby.contract_eq
  have hnamed := validate_named hby.valid
  have hcontrasts := generateContrasts_ok hby.contrasts_ok
  have hreferences := hby.references
  unfold validateObligations at hreferences
  rw [bind_eq_ok] at hreferences
  obtain ⟨⟨⟩, hobligations, hprimary⟩ := hreferences
  rw [forM_eq_ok] at hobligations hprimary
  have hplanned : ∀ trial ∈ compiled.plannedTrials, 1 ≤ trial.ordinal ∧ 1 ≤ trial.replicate
      ∧ trial.replicate ≤ compiled.contract.plan.replicates
      ∧ trial.block ∈ compiled.contract.plan.blocks
      ∧ ∃ cell ∈ generateCells compiled.contract.profile, trial.cellKey = cell.key := by
    intro trial htrial
    rw [hby.planned_eq] at htrial
    exact planTrials_coordinate htrial
  refine
    { named := hnamed
      trial := fun trial htrial => ?_
      action := fun trial htrial => ?_
      covered := fun o ho => ?_
      coverage := fun item hitem => ?_
      metric := fun o ho => ?_
      contrastMetric := fun contrast hcontrast => ?_
      pairs := fun contrast hcontrast => (hcontrasts.2 contrast hcontrast).2.1
      matched := fun contrast hcontrast pair hpair block hblock i hi cellKey hcell => ?_
      primary := fun id hid => ?_
      contrastIds := hcontrasts.1 }
  · obtain ⟨hordinal, hreplicate, -, hblock, cell, hcell, hkey⟩ := hplanned trial htrial
    rw [hkey]
    exact ⟨(generateCells_spec hcell).1, hnamed.block _ hblock, hreplicate, hordinal⟩
  · obtain ⟨-, -, -, -, cell, hcell, hkey⟩ := hplanned trial htrial
    obtain ⟨other, hother, hselector⟩ := selectorsByKey_generated hcell
    rw [hby.cells_eq, hkey]
    obtain ⟨action, haction⟩ := expectedActionDigest_ok (generateCells_spec hother).2
    exact ⟨other.selector, action, hselector, haction⟩
  · obtain ⟨item, hitem, hstep⟩ := mapM_answer hby.covered o (List.mem_mergeSort.mpr ho)
    simp only [bind_eq_ok, pure_eq_ok] at hstep
    obtain ⟨keys, -, ⟨⟩, -, rfl⟩ := hstep
    exact ⟨_, hitem, rfl⟩
  · obtain ⟨o, -, hstep⟩ := mapM_mem hby.covered item hitem
    simp only [bind_eq_ok, require_eq_ok, pure_eq_ok, exists_and_left, exists_const] at hstep
    obtain ⟨keys, -, hlength, rfl⟩ := hstep
    exact List.length_pos_iff.mp hlength.1
  · have hstep := hobligations o ho
    unfold validateObligation at hstep
    simp only [bind_eq_ok, expect_eq_ok] at hstep
    obtain ⟨metric, hmetric, -⟩ := hstep
    obtain ⟨hmem, hid⟩ := uniqueById_get? hby.metrics_ok hmetric
    exact ⟨metric, hmem, hid⟩
  · have hprofile := hby.profile_ok
    unfold validateProfile at hprofile
    simp only [bind_eq_ok, require_eq_ok, exists_and_left, exists_const] at hprofile
    have hroles := forM_eq_ok.mp hprofile.2.2
    have hrole : ∃ role ∈ metricRoles compiled.contract.profile,
        role.metricId = contrast.metricId := by
      have hid := (hcontrasts.2 contrast hcontrast).1
      unfold contrastMetrics at hid
      simp only [List.mem_cons, List.not_mem_nil, or_false] at hid
      unfold metricRoles
      rcases hid with hid | hid | hid
      · exact ⟨_, List.mem_cons_self .., hid.symm⟩
      · exact ⟨_, List.mem_cons_of_mem _ (List.mem_cons_of_mem _ (List.mem_cons_of_mem _
          (List.mem_cons_self ..))), hid.symm⟩
      · exact ⟨_, List.mem_cons_of_mem _ (List.mem_cons_of_mem _ (List.mem_cons_self ..)), hid.symm⟩
    obtain ⟨role, hrole, hid⟩ := hrole
    have hstep := hroles role hrole
    unfold validateMetricRole at hstep
    rw [bind_eq_ok] at hstep
    obtain ⟨metric, hmetric, -⟩ := hstep
    obtain ⟨hmem, hmetricId⟩ := uniqueById_get? hby.metrics_ok (expect_eq_ok.mp hmetric)
    exact ⟨metric, hmem, hmetricId.trans hid⟩
  · obtain ⟨hreference, hcomparison⟩ := (hcontrasts.2 contrast hcontrast).2.2 pair hpair
    have hkey : ∃ cell ∈ generateCells compiled.contract.profile, cellKey = cell.key := by
      rcases List.mem_cons.mp hcell with rfl | hcell
      · exact hreference
      · rw [List.mem_singleton.mp hcell]
        exact hcomparison
    obtain ⟨cell, hmem, rfl⟩ := hkey
    rw [hby.planned_eq]
    exact planTrials_at _ hmem hblock hi
  · have hrole : ∃ role ∈ primaryRoles compiled.contract.profile
        (currentSelector compiled.contract.profile), role.obligationId = id := by
      simp only [List.mem_cons, List.not_mem_nil, or_false] at hid
      unfold primaryRoles
      rcases hid with rfl | rfl | rfl | rfl
      · exact ⟨_, List.mem_cons_self .., rfl⟩
      · exact ⟨_, List.mem_cons_of_mem _ (List.mem_cons_self ..), rfl⟩
      · exact ⟨_, List.mem_cons_of_mem _ (List.mem_cons_of_mem _ (List.mem_cons_self ..)), rfl⟩
      · exact ⟨_, List.mem_cons_of_mem _ (List.mem_cons_of_mem _ (List.mem_cons_of_mem _
          (List.mem_cons_self ..))), rfl⟩
    obtain ⟨role, hrole, rfl⟩ := hrole
    have hstep := hprimary role hrole
    unfold validatePrimaryRole at hstep
    rw [bind_eq_ok] at hstep
    obtain ⟨obligation, hobligation, -⟩ := hstep
    obtain ⟨hmem, hid⟩ := uniqueById_get? hby.obligations_ok (expect_eq_ok.mp hobligation)
    exact ⟨obligation, hmem, hid⟩

end ControlAssurance.Experiment
