import ControlAssurance.Experiment.Contract
import ControlAssurance.Lib.Dict

/-!
# The preventive non-masking compiler

`compile_experiment` checks how the parts of a contract refer to each other and expands it into
sixteen cells, the planned trials in their execution order, the trials that cover each obligation
and five contrasts.

The canonical JSON text of the contract (RFC 8785) and SHA-256 of a UTF-8 text are parameters.
-/

namespace ControlAssurance.Experiment

open Lib

inductive ContrastId where
  | targetAttackEffect
  | targetBenignInvariance
  | compensatorBenignInvariance
  | shamInvariance
  | compensatorAttackEffect
deriving DecidableEq

structure GeneratedCell where
  key : String
  selector : CellSelector
deriving DecidableEq

structure ContrastPair where
  referenceCellKey : String
  comparisonCellKey : String
deriving DecidableEq

inductive VariedAxis where
  | target
  | compensator
  | sham
deriving DecidableEq

structure ContrastDefinition where
  id : ContrastId
  metricId : String
  relation : RelationOperator
  variedAxis : VariedAxis
  pairs : List ContrastPair
deriving DecidableEq

structure PlannedTrial where
  key : Digest
  ordinal : Nat
  cellKey : String
  block : String
  replicate : Nat
deriving DecidableEq

structure ObligationCoverage where
  obligationId : String
  trialKeys : List Digest
deriving DecidableEq

structure CompiledExperiment where
  contract : ExperimentContract
  canonicalSpec : String
  specDigest : Digest
  cells : List GeneratedCell
  currentSelector : CellSelector
  contrasts : List ContrastDefinition
  plannedTrials : List PlannedTrial
  obligationCoverage : List ObligationCoverage
deriving DecidableEq

/-- The functions that the compiler calls: RFC 8785 over the dumped contract, and SHA-256. -/
structure CompilerRuntime where
  canonicalJson : ExperimentContract → Except String String
  sha256 : String → Digest

/-! ## References between the parts -/

/-- `_unique_by_id`. -/
def uniqueById {α : Type} (identifier : α → String) (label : String) (items : List α) :
    Except String (Dict String α) :=
  items.foldlM (fun result item => do
    require (identifier item ∉ result.keys)
      ("duplicate " ++ label ++ " id: " ++ identifier item)
    pure (result.insert (identifier item) item)) []

/-- `_validate_plan_size`. -/
def validatePlanSize (plan : TrialPlan) : Except String Unit :=
  require (¬maxPlannedTrials < 16 * plan.blocks.length * plan.replicates)
    ("trial plan expands to " ++ toString (16 * plan.blocks.length * plan.replicates)
      ++ " trials; maximum is " ++ toString maxPlannedTrials)

/-- The relations that an effect on a metric of this type can have. -/
def effectRelations : MetricValueType → List RelationOperator
  | .boolean => [.trueToFalse, .falseToTrue]
  | .integer | .decimal => [.decreases, .increases]
  | .string => []

/-- The boolean value that a relation ends in. -/
def safeTerminal : RelationOperator → Bool
  | .falseToTrue => true
  | _ => false

/-- `_validate_effect_relation`. -/
def validateEffectRelation (relation : RelationOperator) (metric : MetricContract)
    (label : String) (safeValue : TypedValue) : Except String Unit := do
  require (relation ∈ effectRelations metric.valueType)
    (label ++ " effect relation is incompatible with " ++ metric.valueType.value ++ " metric "
      ++ metric.id)
  require (metric.valueType = .boolean → safeValue = .boolean (safeTerminal relation))
    (label ++ " effect relation moves away from its declared safe value")

/-- One row of the table in `_validate_profile`. -/
structure MetricRole where
  label : String
  metricId : String
  stage : Stage
  component : String
  relation : Option RelationOperator
  safeValue : TypedValue

def metricRoles (profile : PreventiveNonMaskingProfile) : List MetricRole :=
  [⟨"target", profile.targetMetricId, .target, profile.target.component,
      some profile.targetAttackRelation, profile.targetSafeValue⟩,
    ⟨"compensator", profile.compensatorMetricId, .compensator, profile.compensator.component,
      none, profile.compensatorSafeValue⟩,
    ⟨"outcome", profile.outcomeMetricId, .outcome, profile.outcomeComponent,
      some profile.compensatorAttackRelation, profile.outcomeSafeValue⟩,
    ⟨"benign outcome", profile.benignOutcomeMetricId, .outcome, profile.outcomeComponent,
      none, profile.benignSafeValue⟩]

def validateMetricRole (metrics : Dict String MetricContract) (role : MetricRole) :
    Except String Unit := do
  let metric ← expect (metrics.get? role.metricId)
    (role.label ++ " metric does not exist: " ++ role.metricId)
  require (metric.stage = role.stage)
    (role.label ++ " metric " ++ role.metricId ++ " must belong to stage " ++ role.stage.value)
  require (metric.component = role.component)
    (role.label ++ " metric " ++ role.metricId ++ " belongs to component " ++ metric.component
      ++ ", not " ++ role.component)
  require (role.safeValue.type = metric.valueType)
    (role.label ++ " safe value type does not match metric " ++ role.metricId)
  match role.relation with
  | some relation => validateEffectRelation relation metric role.label role.safeValue
  | none => pure ()

/-- `_validate_profile`. -/
def validateProfile (profile : PreventiveNonMaskingProfile)
    (metrics : Dict String MetricContract) : Except String Unit := do
  require ([profile.target.component, profile.compensator.component,
      profile.outcomeComponent].Nodup)
    "target, compensator, and outcome components must be distinct"
  require (profile.outcomeMetricId ≠ profile.benignOutcomeMetricId)
    "security outcome and benign outcome metrics must be distinct"
  (metricRoles profile).forM (validateMetricRole metrics)

/-! ## Cells and selectors -/

/-- `_generate_cells`: the product of the levels, the last axis fastest. -/
def generateCells (profile : PreventiveNonMaskingProfile) : List GeneratedCell :=
  [("attack", profile.input.attack), ("benign", profile.input.benign)].flatMap fun input =>
    [("ineffective", profile.target.ineffective),
      ("effective", profile.target.effective)].flatMap fun target =>
      [("off", profile.compensator.off), ("on", profile.compensator.on)].flatMap
        fun compensator =>
        [("steady", profile.sham.steady), ("redeploy", profile.sham.redeploy)].map fun sham =>
          ⟨"input=" ++ input.1 ++ ";target=" ++ target.1 ++ ";compensator=" ++ compensator.1
              ++ ";sham=" ++ sham.1,
            some input.2, some target.2, some compensator.2, some sham.2⟩

/-- `_current_selector`. -/
def currentSelector (profile : PreventiveNonMaskingProfile) : CellSelector :=
  ⟨some profile.input.attack, some profile.target.current, some profile.compensator.current,
    some profile.sham.steady⟩

/-- `_benign_envelope_selector`. -/
def benignEnvelopeSelector (profile : PreventiveNonMaskingProfile) : CellSelector :=
  ⟨some profile.input.benign, none, none, none⟩

/-- One axis of `_validate_selector`. -/
def validateLevel (obligationId axis : String) (selected : Option TypedValue)
    (first second : TypedValue) : Except String Unit :=
  require (∀ level ∈ selected, level.sameValue first = true ∨ level.sameValue second = true)
    ("obligation " ++ obligationId ++ " selector has undeclared " ++ axis ++ " level")

/-- `_validate_selector`. -/
def validateSelector (obligationId : String) (selector : CellSelector)
    (profile : PreventiveNonMaskingProfile) : Except String Unit := do
  validateLevel obligationId "input" selector.input profile.input.attack profile.input.benign
  validateLevel obligationId "target" selector.target profile.target.ineffective
    profile.target.effective
  validateLevel obligationId "compensator" selector.compensator profile.compensator.off
    profile.compensator.on
  validateLevel obligationId "sham" selector.sham profile.sham.steady profile.sham.redeploy

/-- One axis of `_selector_matches`; the exact selector has a level on every axis. -/
def levelMatches : Option TypedValue → Option TypedValue → Bool
  | none, _ => true
  | some narrow, some exact => narrow.sameValue exact
  | some _, none => false

/-- `_selector_matches`. -/
def selectorMatches (narrow exact : CellSelector) : Bool :=
  levelMatches narrow.input exact.input && levelMatches narrow.target exact.target
    && levelMatches narrow.compensator exact.compensator && levelMatches narrow.sham exact.sham

/-! ## Obligations -/

def stageForScope : ObligationScope → Stage
  | .targetLocal => .target
  | .compensatorLocal => .compensator
  | .path => .outcome

def componentForScope (profile : PreventiveNonMaskingProfile) : ObligationScope → String
  | .targetLocal => profile.target.component
  | .compensatorLocal => profile.compensator.component
  | .path => profile.outcomeComponent

/-- One obligation in `_validate_obligations`. -/
def validateObligation (profile : PreventiveNonMaskingProfile)
    (metrics : Dict String MetricContract) (cells : List GeneratedCell)
    (obligation : Obligation) : Except String Unit := do
  let metric ← expect (metrics.get? obligation.predicate.metricId)
    ("obligation " ++ obligation.id ++ " references unknown metric "
      ++ obligation.predicate.metricId)
  require (metric.stage = stageForScope obligation.scope)
    (obligation.scope.value ++ " obligation " ++ obligation.id ++ " cannot use "
      ++ metric.stage.value ++ " metric " ++ metric.id)
  require (metric.component = componentForScope profile obligation.scope)
    (obligation.scope.value ++ " obligation " ++ obligation.id ++ " must use component "
      ++ componentForScope profile obligation.scope)
  require (obligation.subject.component = metric.component)
    ("obligation " ++ obligation.id ++ " subject and metric components differ")
  require (obligation.predicate.expected.type = metric.valueType)
    ("obligation " ++ obligation.id ++ " expected value type does not match metric " ++ metric.id)
  validateSelector obligation.id obligation.selector profile
  require (cells.any (fun cell => selectorMatches obligation.selector cell.selector) = true)
    ("obligation " ++ obligation.id ++ " has no planned cell")

/-- One row of the table of primary obligations. -/
structure PrimaryRole where
  label : String
  obligationId : String
  scope : ObligationScope
  metricId : String
  component : String
  selector : CellSelector
  safeValue : TypedValue

def primaryRoles (profile : PreventiveNonMaskingProfile) (current : CellSelector) :
    List PrimaryRole :=
  [⟨"target", profile.primaryTargetObligationId, .targetLocal, profile.targetMetricId,
      profile.target.component, current, profile.targetSafeValue⟩,
    ⟨"compensator", profile.primaryCompensatorObligationId, .compensatorLocal,
      profile.compensatorMetricId, profile.compensator.component, current,
      profile.compensatorSafeValue⟩,
    ⟨"path", profile.primaryPathObligationId, .path, profile.outcomeMetricId,
      profile.outcomeComponent, current, profile.outcomeSafeValue⟩,
    ⟨"benign path", profile.primaryBenignObligationId, .path, profile.benignOutcomeMetricId,
      profile.outcomeComponent, benignEnvelopeSelector profile, profile.benignSafeValue⟩]

def validatePrimaryRole (obligations : Dict String Obligation) (role : PrimaryRole) :
    Except String Unit := do
  let obligation ← expect (obligations.get? role.obligationId)
    ("primary " ++ role.label ++ " obligation does not exist: " ++ role.obligationId)
  require (obligation.scope = role.scope)
    ("primary " ++ role.label ++ " obligation must have scope " ++ role.scope.value)
  require (obligation.predicate.metricId = role.metricId)
    ("primary " ++ role.label ++ " obligation must use metric " ++ role.metricId)
  require (obligation.subject.component = role.component)
    ("primary " ++ role.label ++ " obligation must use component " ++ role.component)
  require (obligation.selector.same role.selector = true)
    ("primary " ++ role.label ++ " obligation has the wrong exact selector")
  require (¬(obligation.predicate.operator ≠ .equal ∨ obligation.predicate.absoluteTolerance ≠ none
      ∨ obligation.predicate.expected.sameValue role.safeValue = false))
    ("primary " ++ role.label
      ++ " obligation must equal its declared safe value without tolerance")
  match obligation.quantifier with
  | .allTested _ => pure ()
  | _ => throw ("primary " ++ role.label ++ " obligation must use all_tested")

/-- `_validate_obligations`. -/
def validateObligations (contract : ExperimentContract) (metrics : Dict String MetricContract)
    (obligations : Dict String Obligation) (cells : List GeneratedCell)
    (current : CellSelector) : Except String Unit := do
  contract.obligations.forM (validateObligation contract.profile metrics cells)
  (primaryRoles contract.profile current).forM (validatePrimaryRole obligations)

/-! ## The plan -/

/-- `_semantic_payload`: the dumped contract with its sets in order. -/
def semanticPayload (contract : ExperimentContract) : ExperimentContract :=
  let payload := contract.canonical
  { payload with
    metrics := payload.metrics.mergeSort fun a b => decide (a.id ≤ b.id)
    obligations := payload.obligations.mergeSort fun a b => decide (a.id ≤ b.id)
    plan := { payload.plan with
      blocks := payload.plan.blocks.mergeSort fun a b => decide (a ≤ b) } }

def sortedBlocks (plan : TrialPlan) : List String :=
  plan.blocks.mergeSort fun a b => decide (a ≤ b)

/-- A trial before it has its place: the order key, the trial key and the coordinates. -/
structure RawTrial where
  orderKey : Digest
  key : Digest
  cellKey : String
  replicate : Nat
  block : String
deriving DecidableEq

def rawTrial (R : CompilerRuntime) (orderSeed : String) (specDigest : Digest) (cellKey : String)
    (block : String) (replicate : Nat) : RawTrial :=
  let key := R.sha256 (String.intercalate "\x00"
    [Digest.text specDigest, cellKey, block, toString replicate])
  ⟨R.sha256 (String.intercalate "\x00" [orderSeed, Digest.text key]), key, cellKey, replicate,
    block⟩

/-- The order of `raw.sort(key=lambda item: (item[0], item[1]))`. -/
def RawTrial.le (a b : RawTrial) : Bool :=
  decide (a.orderKey < b.orderKey ∨ a.orderKey = b.orderKey ∧ a.key ≤ b.key)

def rawTrials (R : CompilerRuntime) (plan : TrialPlan) (cells : List GeneratedCell)
    (specDigest : Digest) : List RawTrial :=
  cells.flatMap fun cell => (sortedBlocks plan).flatMap fun block =>
    (List.range plan.replicates).map fun i =>
      rawTrial R plan.orderSeed specDigest cell.key block (i + 1)

/-- `_plan_trials`. -/
def planTrials (R : CompilerRuntime) (plan : TrialPlan) (cells : List GeneratedCell)
    (specDigest : Digest) : List PlannedTrial :=
  ((rawTrials R plan cells specDigest).mergeSort RawTrial.le).zipIdx.map fun (raw, i) =>
    ⟨raw.key, i + 1, raw.cellKey, raw.block, raw.replicate⟩

/-- `{cell.key: cell.selector for cell in cells}`. -/
def selectorsByKey (cells : List GeneratedCell) : Dict String CellSelector :=
  Dict.ofPairs (cells.map fun cell => (cell.key, cell.selector))

/-- The trials of one obligation, in the order of the plan. -/
def coveredTrials (cells : List GeneratedCell) (trials : List PlannedTrial)
    (obligation : Obligation) : Except String (List Digest) := do
  let covered ← trials.filterM fun trial => do
    let selector ← expect ((selectorsByKey cells).get? trial.cellKey) "KeyError"
    pure (selectorMatches obligation.selector selector)
  pure (covered.map (·.key))

/-- `_coverage`. -/
def coverage (obligations : List Obligation) (cells : List GeneratedCell)
    (trials : List PlannedTrial) : Except String (List ObligationCoverage) :=
  (obligations.mergeSort fun a b => decide (a.id ≤ b.id)).mapM fun obligation => do
    let keys ← coveredTrials cells trials obligation
    require (1 ≤ keys.length ∧ keys.length ≤ maxPlannedTrials) "trial_keys"
    pure ⟨obligation.id, keys⟩

/-- `_validate_minimum_trials`. -/
def validateMinimumTrials (obligations : List Obligation) (covered : List ObligationCoverage) :
    Except String Unit :=
  obligations.forM fun obligation => do
    let counts := Dict.ofPairs (covered.map fun c => (c.obligationId, c.trialKeys.length))
    let planned := (counts.get? obligation.id).getD 0
    require (planned ≠ 0) ("obligation " ++ obligation.id ++ " is left unassessed")
    require (¬planned < obligation.quantifier.minTrials)
      ("obligation " ++ obligation.id ++ " requires " ++ toString obligation.quantifier.minTrials
        ++ " trials but the plan contains " ++ toString planned)

/-! ## Contrasts -/

/-- `_cell_for`. -/
def cellFor (cells : List GeneratedCell) (selector : CellSelector) :
    Except String GeneratedCell :=
  match cells.filter fun cell => cell.selector.same selector with
  | [cell] => .ok cell
  | _ => .error "compiler could not resolve a generated contrast cell"

/-- `_pair`. -/
def contrastPair (cells : List GeneratedCell) (reference comparison : CellSelector) :
    Except String (List ContrastPair) := do
  let left ← cellFor cells reference
  let right ← cellFor cells comparison
  pure [⟨left.key, right.key⟩]

/-- `_generate_contrasts`. -/
def generateContrasts (profile : PreventiveNonMaskingProfile) (cells : List GeneratedCell) :
    Except String (List ContrastDefinition) := do
  let attack := some profile.input.attack
  let benign := some profile.input.benign
  let targetOff := some profile.target.ineffective
  let targetOn := some profile.target.effective
  let compOff := some profile.compensator.off
  let compOn := some profile.compensator.on
  let steady := some profile.sham.steady
  let redeploy := some profile.sham.redeploy
  let currentTarget := some profile.target.current
  let currentComp := some profile.compensator.current
  let targetAttack ← contrastPair cells ⟨attack, targetOff, compOff, steady⟩
    ⟨attack, targetOn, compOff, steady⟩
  let targetBenign ← contrastPair cells ⟨benign, targetOff, compOff, steady⟩
    ⟨benign, targetOn, compOff, steady⟩
  let compensatorBenign ← contrastPair cells ⟨benign, currentTarget, compOff, steady⟩
    ⟨benign, currentTarget, compOn, steady⟩
  let sham ← contrastPair cells ⟨attack, currentTarget, currentComp, steady⟩
    ⟨attack, currentTarget, currentComp, redeploy⟩
  let compensatorAttack ← contrastPair cells ⟨attack, targetOff, compOff, steady⟩
    ⟨attack, targetOff, compOn, steady⟩
  pure
    [⟨.targetAttackEffect, profile.targetMetricId, profile.targetAttackRelation, .target,
        targetAttack⟩,
      ⟨.targetBenignInvariance, profile.benignOutcomeMetricId, profile.targetBenignRelation,
        .target, targetBenign⟩,
      ⟨.compensatorBenignInvariance, profile.benignOutcomeMetricId, .equal, .compensator,
        compensatorBenign⟩,
      ⟨.shamInvariance, profile.outcomeMetricId, profile.shamRelation, .sham, sham⟩,
      ⟨.compensatorAttackEffect, profile.outcomeMetricId, profile.compensatorAttackRelation,
        .compensator, compensatorAttack⟩]

/-! ## Compilation -/

def ContrastDefinition.validate (contrast : ContrastDefinition) : Except String Unit := do
  checkIdentifiers [("metric_id", contrast.metricId)]
  require (contrast.pairs ≠ []) "pairs"
  require (∀ pair ∈ contrast.pairs,
    pair.referenceCellKey.length ≤ 512 ∧ pair.comparisonCellKey.length ≤ 512) "pairs.key"

def PlannedTrial.validate (trial : PlannedTrial) : Except String Unit := do
  require (1 ≤ trial.ordinal ∧ trial.ordinal ≤ maxPlannedTrials) "ordinal"
  require (trial.cellKey.length ≤ 512) "cell_key"
  checkIdentifiers [("block", trial.block)]
  require (1 ≤ trial.replicate ∧ trial.replicate ≤ 1000) "replicate"

/-- The constraints of `CompiledExperiment` and the models in it. -/
def CompiledExperiment.validate (c : CompiledExperiment) : Except String Unit := do
  c.contract.validate
  require (c.cells.length = 16) "cells"
  require (∀ cell ∈ c.cells, cell.key.length ≤ 512) "cells.key"
  c.cells.forM (·.selector.validate)
  c.currentSelector.validate
  require (c.contrasts.length = 5) "contrasts"
  c.contrasts.forM (·.validate)
  require (16 ≤ c.plannedTrials.length ∧ c.plannedTrials.length ≤ maxPlannedTrials)
    "planned_trials"
  c.plannedTrials.forM (·.validate)
  require (c.obligationCoverage ≠ []) "obligation_coverage"
  c.obligationCoverage.forM fun item => do
    checkIdentifiers [("obligation_id", item.obligationId)]
    require (1 ≤ item.trialKeys.length ∧ item.trialKeys.length ≤ maxPlannedTrials) "trial_keys"

/-- `compile_experiment`. -/
def compileExperiment (R : CompilerRuntime) (contract : ExperimentContract) :
    Except String CompiledExperiment := do
  contract.validate.mapError ("contract revalidation failed: " ++ ·)
  let metrics ← uniqueById (·.id) "metric" contract.metrics
  let obligations ← uniqueById (·.id) "obligation" contract.obligations
  validatePlanSize contract.plan
  validateProfile contract.profile metrics
  let cells := generateCells contract.profile
  let current := currentSelector contract.profile
  validateObligations contract metrics obligations cells current
  let canonical ← (R.canonicalJson (semanticPayload contract)).mapError
    ("contract canonicalization failed: " ++ ·)
  let specDigest := R.sha256 canonical
  let planned := planTrials R contract.plan cells specDigest
  let covered ← coverage contract.obligations cells planned
  validateMinimumTrials contract.obligations covered
  let contrasts ← generateContrasts contract.profile cells
  let compiled : CompiledExperiment := ⟨contract, canonical, specDigest, cells, current, contrasts,
    planned, covered⟩
  compiled.validate
  pure compiled

end ControlAssurance.Experiment
