import ControlAssurance.Experiment.Compiler

/-!
# Obligations over trial points

The end of `ExperimentEvaluator.evaluate`: what a predicate says about an admitted value, and the
assessment of an obligation from the results of the trials that cover it. A model that is built
from a plain value (`text`, `positive`) and a division can raise, so these are in `Except`.
-/

namespace ControlAssurance.Experiment

open Lib

/-! ## Values -/

/-- `str` with `min_length=1`. -/
abbrev Text := {s : String // s ≠ ""}

/-- A plain string as a field with `min_length=1`. -/
def text (value : String) : Except String Text :=
  if h : value ≠ "" then .ok ⟨value, h⟩ else .error "string_too_short"

/-- A plain number as a `PositiveInt`. -/
def positive (value : Nat) : Except String ℕ+ :=
  if h : 0 < value then .ok ⟨value, h⟩ else .error "greater_than"

/-- `_digests`: `tuple(sorted(set(values)))`. -/
def digests (values : List Digest) : List Digest :=
  values.dedup.mergeSort fun a b => decide (a ≤ b)

inductive TruthValue where
  | supported
  | refuted
  | neither
deriving DecidableEq

inductive ExerciseState where
  | exercised
  | partiallyExercised
  | notExercised
  | unknown
deriving DecidableEq

inductive TrialPointState where
  | pass
  | fail
  | unresolved
deriving DecidableEq

structure TrialPointResult where
  trialKey : Digest
  state : TrialPointState
  exercise : ExerciseState
  observedValue : Option TypedValue := none
  reason : Option String := none
  evidenceIds : List Digest := []
  artifactIds : List Digest := []
deriving DecidableEq

structure ObligationAssessment where
  obligationId : Text
  truth : TruthValue
  exercise : ExerciseState
  expectedCount : ℕ+
  executedCount : Nat
  admittedCount : Nat
  passCount : Nat
  failCount : Nat
  unresolvedCount : Nat
  notExercisedCount : Nat
  unknownExerciseCount : Nat
  lowerBound : ℚ
  upperBound : ℚ
  passTrialKeys : List Digest
  failTrialKeys : List Digest
  unresolvedTrialKeys : List Digest
  evidenceIds : List Digest
  artifactIds : List Digest
  trialResults : List TrialPointResult
deriving DecidableEq

/-- `_expected_action_digest`. -/
def expectedActionDigest (compiled : CompiledExperiment) (selector : CellSelector) :
    Except String Digest :=
  let axis := compiled.contract.profile.input
  if sameOptional selector.input (some axis.attack) then .ok axis.attackActionDigest
  else if sameOptional selector.input (some axis.benign) then .ok axis.benignActionDigest
  else .error "compiled cell has no declared input action"

/-! ## Predicates -/

/-- The precision of the default decimal context. -/
def decimalPrecision : Nat := 28

/-- `_as_decimal`. -/
def asDecimal : TypedValue → Except String ℚ
  | .integer n => .ok n
  | .decimal d => .ok d.value
  | _ => .error "non-numeric typed value"

/-- The numeric branch of `_predicate_matches`; sums and differences are rounded. -/
def numericPredicate (operator : PredicateOperator) (left right tolerance : ℚ) : Bool :=
  match operator with
  | .equal => decide (|rounded decimalPrecision (left - right)| ≤ tolerance)
  | .notEqual => decide (tolerance < |rounded decimalPrecision (left - right)|)
  | .lessOrEqual => decide (left ≤ rounded decimalPrecision (right + tolerance))
  | .greaterOrEqual => decide (rounded decimalPrecision (right - tolerance) ≤ left)

/-- `_predicate_matches`. -/
def predicateMatches (predicate : Predicate) (actual : TypedValue) : Except String Bool :=
  if actual.type ≠ predicate.expected.type then pure false
  else if actual.isNumeric then do
    let left ← asDecimal actual
    let right ← asDecimal predicate.expected
    let tolerance := (predicate.absoluteTolerance.map Decimal.value).getD 0
    pure (numericPredicate predicate.operator left right tolerance)
  else pure <| match predicate.operator with
    | .equal => actual.same predicate.expected
    | .notEqual => !actual.same predicate.expected
    | _ => false

/-- `_quantified_truth`. -/
def quantifiedTruth (quantifier : Quantifier) (passed failed unresolved admitted expected : Nat)
    (lower upper : ℚ) : TruthValue :=
  match quantifier with
  | .allTested _ =>
    if failed ≠ 0 then .refuted
    else if unresolved = 0 ∧ passed = expected then .supported
    else .neither
  | .atLeastRate rate minTrials =>
    if rate.value ≤ lower ∧ minTrials ≤ admitted then .supported
    else if upper < rate.value then .refuted
    else .neither
  | .exists minTrials =>
    if passed ≠ 0 ∧ minTrials ≤ admitted then .supported
    else if unresolved = 0 ∧ passed = 0 then .refuted
    else .neither

/-! ## Obligations -/

def countExercise (results : List TrialPointResult) (exercise : ExerciseState) : Nat :=
  results.countP fun result => decide (result.exercise = exercise)

def overallExercise (results : List TrialPointResult) : ExerciseState :=
  if countExercise results .unknown = results.length then .unknown
  else if countExercise results .notExercised = results.length then .notExercised
  else if countExercise results .exercised = results.length then .exercised
  else .partiallyExercised

def resultsIn (results : List TrialPointResult) (state : TrialPointState) :
    List TrialPointResult :=
  results.filter fun result => decide (result.state = state)

/-- The assessment of an obligation from its trial points. -/
def assessObligation (obligation : Obligation) (results : List TrialPointResult) :
    Except String ObligationAssessment := do
  let passed := (resultsIn results .pass).length
  let failed := (resultsIn results .fail).length
  let unresolved := (resultsIn results .unresolved).length
  let admitted := passed + failed
  require (results.length ≠ 0) "DivisionUndefined"
  let lower := rounded decimalPrecision (passed / results.length)
  let upper := rounded decimalPrecision ((passed + unresolved : Nat) / results.length)
  let obligationId ← text obligation.id
  let expected ← positive results.length
  pure
    { obligationId := obligationId
      truth := quantifiedTruth obligation.quantifier passed failed unresolved admitted
        results.length lower upper
      exercise := overallExercise results
      expectedCount := expected
      executedCount := countExercise results .exercised
      admittedCount := admitted
      passCount := passed
      failCount := failed
      unresolvedCount := unresolved
      notExercisedCount := countExercise results .notExercised
      unknownExerciseCount := countExercise results .unknown
      lowerBound := lower
      upperBound := upper
      passTrialKeys := (resultsIn results .pass).map (·.trialKey)
      failTrialKeys := (resultsIn results .fail).map (·.trialKey)
      unresolvedTrialKeys := (resultsIn results .unresolved).map (·.trialKey)
      evidenceIds := digests (results.flatMap (·.evidenceIds))
      artifactIds := digests (results.flatMap (·.artifactIds))
      trialResults := results }

end ControlAssurance.Experiment
