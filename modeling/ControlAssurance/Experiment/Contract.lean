import ControlAssurance.Digests
import ControlAssurance.Benchmark.Texts
import ControlAssurance.Lib.Checked
import ControlAssurance.Lib.Decimal

/-!
# Experiment contracts

The author-facing value objects of a preventive non-masking experiment, and their validators. A
model is accepted when its fields are and then its own validator passes; `validate` is both, in
that order.

Two values are compared in two ways: as models (`same`, by the value of a decimal) and by their
JSON dump (`sameValue`). The dump spells decimals canonically and gives instants in UTC, so it is
modelled as the same object in its `canonical` form.
-/

namespace ControlAssurance.Experiment

open Lib

/-! ## Values -/

inductive MetricValueType where
  | boolean
  | integer
  | decimal
  | string
deriving DecidableEq

def MetricValueType.value : MetricValueType → String
  | .boolean => "boolean"
  | .integer => "integer"
  | .decimal => "decimal"
  | .string => "string"

/-- `TypedValue`, the union that the field `type` discriminates. -/
inductive TypedValue where
  | boolean (value : Bool)
  | integer (value : Int)
  | decimal (value : Decimal)
  | string (value : String)
deriving DecidableEq

namespace TypedValue

def type : TypedValue → MetricValueType
  | .boolean _ => .boolean
  | .integer _ => .integer
  | .decimal _ => .decimal
  | .string _ => .string

/-- `left == right` of two models. -/
def same : TypedValue → TypedValue → Bool
  | .boolean a, .boolean b => a == b
  | .integer a, .integer b => a == b
  | .decimal a, .decimal b => decide (a.value = b.value)
  | .string a, .string b => a == b
  | _, _ => false

/-- `model_dump(mode="json")`. -/
def canonical : TypedValue → TypedValue
  | .decimal d => .decimal d.canonical
  | v => v

/-- `_same_value`. -/
def sameValue (left right : TypedValue) : Bool := decide (left.canonical = right.canonical)

/-- `_same_type`. -/
def sameType (left right : TypedValue) : Bool := decide (left.type = right.type)

def isNumeric (v : TypedValue) : Bool := decide (v.type = .integer ∨ v.type = .decimal)

end TypedValue

/-- A timezone-aware `datetime`: the instant in microseconds, and the offset it is written in. -/
structure AwareDatetime where
  utc : Int
  offset : Int
deriving DecidableEq

/-- `value.astimezone(UTC)`. -/
def AwareDatetime.canonical (t : AwareDatetime) : AwareDatetime := ⟨t.utc, 0⟩

/-! ## Models -/

inductive Stage where
  | input
  | target
  | compensator
  | outcome
deriving DecidableEq

def Stage.value : Stage → String
  | .input => "input"
  | .target => "target"
  | .compensator => "compensator"
  | .outcome => "outcome"

structure MetricContract where
  id : String
  component : String
  stage : Stage
  valueType : MetricValueType
  unit : Option String
  extractorId : String
  evidenceClass : String
deriving DecidableEq

structure EvidenceWindow where
  start : AwareDatetime
  finish : AwareDatetime
deriving DecidableEq

structure EvidencePolicyRef where
  id : String
  version : String
  digest : Digest
deriving DecidableEq

structure ExperimentScope where
  scenarioId : String
  buildDigest : Digest
  datasetDigest : Digest
  fixtureDigest : Digest
  assessmentAsOf : AwareDatetime
  evidenceWindow : EvidenceWindow
  evidencePolicy : EvidencePolicyRef
deriving DecidableEq

inductive ObligationScope where
  | targetLocal
  | compensatorLocal
  | path
deriving DecidableEq

def ObligationScope.value : ObligationScope → String
  | .targetLocal => "target_local"
  | .compensatorLocal => "compensator_local"
  | .path => "path"

structure Subject where
  identifier : String
  component : String
deriving DecidableEq

inductive PredicateOperator where
  | equal
  | notEqual
  | lessOrEqual
  | greaterOrEqual
deriving DecidableEq

structure Predicate where
  metricId : String
  operator : PredicateOperator
  expected : TypedValue
  absoluteTolerance : Option Decimal
deriving DecidableEq

structure CellSelector where
  input : Option TypedValue
  target : Option TypedValue
  compensator : Option TypedValue
  sham : Option TypedValue
deriving DecidableEq

inductive Quantifier where
  | allTested (minTrials : Nat)
  | atLeastRate (rate : Decimal) (minTrials : Nat)
  | exists (minTrials : Nat)
deriving DecidableEq

def Quantifier.minTrials : Quantifier → Nat
  | .allTested n => n
  | .atLeastRate _ n => n
  | .exists n => n

structure Obligation where
  id : String
  subject : Subject
  scope : ObligationScope
  selector : CellSelector
  predicate : Predicate
  quantifier : Quantifier
deriving DecidableEq

structure InputAxis where
  component : String
  attack : TypedValue
  benign : TypedValue
  attackActionDigest : Digest
  benignActionDigest : Digest
deriving DecidableEq

structure TargetControlAxis where
  component : String
  ineffective : TypedValue
  effective : TypedValue
  current : TypedValue
deriving DecidableEq

structure CompensatorControlAxis where
  component : String
  off : TypedValue
  on : TypedValue
  current : TypedValue
deriving DecidableEq

structure ShamAxis where
  steady : TypedValue
  redeploy : TypedValue
deriving DecidableEq

inductive RelationOperator where
  | equal
  | notEqual
  | lessOrEqual
  | greaterOrEqual
  | trueToFalse
  | falseToTrue
  | decreases
  | increases
deriving DecidableEq

/-- `PreventiveNonMaskingProfile`. A `MetricRelation` is its operator. -/
structure PreventiveNonMaskingProfile where
  input : InputAxis
  target : TargetControlAxis
  compensator : CompensatorControlAxis
  sham : ShamAxis
  outcomeComponent : String
  targetMetricId : String
  compensatorMetricId : String
  outcomeMetricId : String
  benignOutcomeMetricId : String
  targetSafeValue : TypedValue
  compensatorSafeValue : TypedValue
  outcomeSafeValue : TypedValue
  benignSafeValue : TypedValue
  primaryTargetObligationId : String
  primaryCompensatorObligationId : String
  primaryPathObligationId : String
  primaryBenignObligationId : String
  targetAttackRelation : RelationOperator
  targetBenignRelation : RelationOperator
  shamRelation : RelationOperator
  compensatorAttackRelation : RelationOperator
deriving DecidableEq

structure TrialPlan where
  blocks : List String
  replicates : Nat
  orderSeed : String
deriving DecidableEq

structure ExperimentContract where
  id : String
  scope : ExperimentScope
  metrics : List MetricContract
  obligations : List Obligation
  profile : PreventiveNonMaskingProfile
  plan : TrialPlan
deriving DecidableEq

/-! ## Comparing and dumping -/

/-- `left == right` of two optional values. -/
def sameOptional : Option TypedValue → Option TypedValue → Bool
  | some a, some b => a.same b
  | none, none => true
  | _, _ => false

/-- `left == right` of two selectors. -/
def CellSelector.same (left right : CellSelector) : Bool :=
  sameOptional left.input right.input && sameOptional left.target right.target
    && sameOptional left.compensator right.compensator && sameOptional left.sham right.sham

def CellSelector.canonical (s : CellSelector) : CellSelector :=
  ⟨s.input.map (·.canonical), s.target.map (·.canonical), s.compensator.map (·.canonical),
    s.sham.map (·.canonical)⟩

def ExperimentScope.canonical (s : ExperimentScope) : ExperimentScope :=
  { s with
    assessmentAsOf := s.assessmentAsOf.canonical
    evidenceWindow := ⟨s.evidenceWindow.start.canonical, s.evidenceWindow.finish.canonical⟩ }

def Quantifier.canonical : Quantifier → Quantifier
  | .atLeastRate rate n => .atLeastRate rate.canonical n
  | q => q

def Obligation.canonical (o : Obligation) : Obligation :=
  { o with
    selector := o.selector.canonical
    predicate := { o.predicate with
      expected := o.predicate.expected.canonical
      absoluteTolerance := o.predicate.absoluteTolerance.map Decimal.canonical }
    quantifier := o.quantifier.canonical }

def PreventiveNonMaskingProfile.canonical (p : PreventiveNonMaskingProfile) :
    PreventiveNonMaskingProfile :=
  { p with
    input := { p.input with attack := p.input.attack.canonical, benign := p.input.benign.canonical }
    target := { p.target with
      ineffective := p.target.ineffective.canonical
      effective := p.target.effective.canonical
      current := p.target.current.canonical }
    compensator := { p.compensator with
      off := p.compensator.off.canonical
      on := p.compensator.on.canonical
      current := p.compensator.current.canonical }
    sham := ⟨p.sham.steady.canonical, p.sham.redeploy.canonical⟩
    targetSafeValue := p.targetSafeValue.canonical
    compensatorSafeValue := p.compensatorSafeValue.canonical
    outcomeSafeValue := p.outcomeSafeValue.canonical
    benignSafeValue := p.benignSafeValue.canonical }

/-- `contract.model_dump(mode="json")`. -/
def ExperimentContract.canonical (c : ExperimentContract) : ExperimentContract :=
  { c with
    scope := c.scope.canonical
    obligations := c.obligations.map (·.canonical)
    profile := c.profile.canonical }

/-! ## Validators -/

def maxPlannedTrials : Nat := 100000

/-- `Identifier`. -/
def isIdentifier (value : String) : Bool :=
  decide (value.length ≤ 128) && Benchmark.headThen Benchmark.isLowerAlpha
    (fun c => Benchmark.isLowerAlpha c || Benchmark.isAsciiDigit c || ['.', '_', '-'].contains c)
    value

/-- `NonEmptyText`. -/
def isNonEmptyText (value : String) : Bool := Benchmark.lengthBetween 1 512 value

def checkIdentifiers (values : List (String × String)) : Except String Unit :=
  values.forM fun v => require (isIdentifier v.2 = true) v.1

/-- `DecimalValue`, of a finite decimal. -/
def checkDecimal (d : Decimal) : Except String Unit :=
  require (d.digitCount ≤ 128 ∧ d.exponent.natAbs ≤ 128)
    "decimal value exceeds the configured precision or scale"

/-- `IntegerValue`, `DecimalValue` and `StringValue`. -/
def TypedValue.validate : TypedValue → Except String Unit
  | .boolean _ => pure ()
  | .integer n => require (n.natAbs ≤ 2 ^ 53 - 1) "value"
  | .decimal d => checkDecimal d
  | .string s => require (s.length ≤ 4096) "value"

def checkOptional : Option TypedValue → Except String Unit
  | some v => v.validate
  | none => pure ()

/-- `MetricContract.numeric_unit_only`. -/
def MetricContract.validate (m : MetricContract) : Except String Unit := do
  checkIdentifiers [("id", m.id), ("component", m.component), ("extractor_id", m.extractorId),
    ("evidence_class", m.evidenceClass)]
  require (∀ unit ∈ m.unit, isNonEmptyText unit = true) "unit"
  let numeric := m.valueType = .integer ∨ m.valueType = .decimal
  require (¬(numeric ∧ m.unit = none)) "numeric metrics require a unit"
  require (¬(¬numeric ∧ m.unit ≠ none)) "non-numeric metrics cannot declare a unit"

/-- `EvidenceWindow.ordered` and `ExperimentScope.assessment_inside_window`. -/
def ExperimentScope.validate (s : ExperimentScope) : Except String Unit := do
  checkIdentifiers [("scenario_id", s.scenarioId), ("id", s.evidencePolicy.id)]
  require (isNonEmptyText s.evidencePolicy.version = true) "version"
  let window := s.evidenceWindow
  require (¬window.finish.utc < window.start.utc) "evidence window ends before it starts"
  require (window.start.utc ≤ s.assessmentAsOf.utc ∧ s.assessmentAsOf.utc ≤ window.finish.utc)
    "assessment_as_of must fall inside the evidence window"

/-- `Predicate.coherent_operator`. -/
def Predicate.validate (p : Predicate) : Except String Unit := do
  checkIdentifiers [("metric_id", p.metricId)]
  p.expected.validate
  p.absoluteTolerance.toList.forM checkDecimal
  require (¬((p.operator = .lessOrEqual ∨ p.operator = .greaterOrEqual)
      ∧ p.expected.isNumeric = false))
    "ordered predicates require an integer or decimal metric"
  require (p.absoluteTolerance ≠ none → p.expected.isNumeric = true)
    "absolute tolerance is only valid for numeric predicates"
  require (∀ tolerance ∈ p.absoluteTolerance, ¬tolerance.value < 0)
    "absolute tolerance cannot be negative"

def CellSelector.validate (s : CellSelector) : Except String Unit := do
  checkOptional s.input
  checkOptional s.target
  checkOptional s.compensator
  checkOptional s.sham

/-- `AllTested`, `AtLeastRate.unit_interval` and `Exists`. -/
def Quantifier.validate (q : Quantifier) : Except String Unit := do
  require (1 ≤ q.minTrials ∧ q.minTrials ≤ maxPlannedTrials) "min_trials"
  match q with
  | .atLeastRate rate _ => do
    checkDecimal rate
    require (0 < rate.value ∧ rate.value ≤ 1) "rate must be in (0, 1]"
  | _ => pure ()

def Obligation.validate (o : Obligation) : Except String Unit := do
  checkIdentifiers [("id", o.id), ("component", o.subject.component)]
  require (isNonEmptyText o.subject.identifier = true) "identifier"
  o.selector.validate
  o.predicate.validate
  o.quantifier.validate

/-- `_check_axis_levels`. -/
def checkAxisLevels (name : String) (first second : TypedValue) : Except String Unit := do
  require (first.sameType second = true) (name ++ " axis levels must use the same type")
  require (first.sameValue second = false) (name ++ " axis levels must be distinct")

/-- `_check_current`. -/
def checkCurrent (name : String) (current first second : TypedValue) : Except String Unit := do
  require (current.sameType first = true) (name ++ " current level has the wrong type")
  require (current.sameValue first = true ∨ current.sameValue second = true)
    (name ++ " current level must equal a declared level")

/-- `InputAxis.two_levels`. -/
def InputAxis.validate (a : InputAxis) : Except String Unit := do
  checkIdentifiers [("component", a.component)]
  [a.attack, a.benign].forM (·.validate)
  checkAxisLevels "input" a.attack a.benign
  require (a.attackActionDigest ≠ a.benignActionDigest)
    "attack and benign actions must have distinct digests"

/-- `TargetControlAxis.two_levels_and_current`. -/
def TargetControlAxis.validate (a : TargetControlAxis) : Except String Unit := do
  checkIdentifiers [("component", a.component)]
  [a.ineffective, a.effective, a.current].forM (·.validate)
  checkAxisLevels "target" a.ineffective a.effective
  checkCurrent "target" a.current a.ineffective a.effective

/-- `CompensatorControlAxis.two_levels_and_current`. -/
def CompensatorControlAxis.validate (a : CompensatorControlAxis) : Except String Unit := do
  checkIdentifiers [("component", a.component)]
  [a.off, a.on, a.current].forM (·.validate)
  checkAxisLevels "compensator" a.off a.on
  checkCurrent "compensator" a.current a.off a.on

/-- `ShamAxis.two_levels`. -/
def ShamAxis.validate (a : ShamAxis) : Except String Unit := do
  [a.steady, a.redeploy].forM (·.validate)
  checkAxisLevels "sham" a.steady a.redeploy

def RelationOperator.isDirectional (r : RelationOperator) : Bool :=
  decide (r ∈ [.trueToFalse, .falseToTrue, .decreases, .increases])

/-- `PreventiveNonMaskingProfile.coherent_relation_kinds`. -/
def PreventiveNonMaskingProfile.validate (p : PreventiveNonMaskingProfile) :
    Except String Unit := do
  p.input.validate
  p.target.validate
  p.compensator.validate
  p.sham.validate
  checkIdentifiers [("outcome_component", p.outcomeComponent),
    ("target_metric_id", p.targetMetricId), ("compensator_metric_id", p.compensatorMetricId),
    ("outcome_metric_id", p.outcomeMetricId),
    ("benign_outcome_metric_id", p.benignOutcomeMetricId),
    ("primary_target_obligation_id", p.primaryTargetObligationId),
    ("primary_compensator_obligation_id", p.primaryCompensatorObligationId),
    ("primary_path_obligation_id", p.primaryPathObligationId),
    ("primary_benign_obligation_id", p.primaryBenignObligationId)]
  [p.targetSafeValue, p.compensatorSafeValue, p.outcomeSafeValue, p.benignSafeValue].forM
    (·.validate)
  require (p.targetAttackRelation.isDirectional = true)
    "target attack effect requires a directional relation"
  require (p.compensatorAttackRelation.isDirectional = true)
    "compensator attack effect requires a directional relation"
  require (p.targetBenignRelation = .equal)
    "target benign invariance must use the equality relation"
  require (p.shamRelation = .equal) "sham invariance must use the equality relation"

/-- `TrialPlan.unique_blocks`. -/
def TrialPlan.validate (p : TrialPlan) : Except String Unit := do
  require (1 ≤ p.blocks.length ∧ p.blocks.length ≤ 64) "blocks"
  checkIdentifiers (p.blocks.map fun block => ("blocks", block))
  require (1 ≤ p.replicates ∧ p.replicates ≤ 1000) "replicates"
  require (isNonEmptyText p.orderSeed = true) "order_seed"
  require p.blocks.Nodup "block identifiers must be unique"

/-- `ExperimentContract.identity_matches_scope`. -/
def ExperimentContract.validate (c : ExperimentContract) : Except String Unit := do
  checkIdentifiers [("id", c.id)]
  c.scope.validate
  require (1 ≤ c.metrics.length ∧ c.metrics.length ≤ 256) "metrics"
  c.metrics.forM (·.validate)
  require (1 ≤ c.obligations.length ∧ c.obligations.length ≤ 512) "obligations"
  c.obligations.forM (·.validate)
  c.profile.validate
  c.plan.validate
  require (c.id = c.scope.scenarioId) "contract id must equal scope scenario_id"

end ControlAssurance.Experiment
