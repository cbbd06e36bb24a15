import ControlAssurance.Experiment.Factorial
import ControlAssurance.Lib.Rounding

/-!
# Verdicts on numbers

Numeric predicates and the rate quantifier compare numbers that were rounded to the precision of
the decimal context. Here is how near two numbers have to be for that to change an answer
(`predicateMatches_exact_iff`, `rate_verdict_exact_iff`), and that a verdict once reached stands
whatever the open points turn out to be (`verdict_stable`), since rounding keeps the order of the
two bounds of a rate.
-/

namespace ControlAssurance.Experiment

open Lib

/-! ## Predicates -/

def Predicate.tolerance (p : Predicate) : ℚ := (p.absoluteTolerance.map Decimal.value).getD 0

/-- The comparison of a numeric predicate, on exact numbers. -/
def exactPredicate (operator : PredicateOperator) (actual expected tolerance : ℚ) : Prop :=
  match operator with
  | .equal => |actual - expected| ≤ tolerance
  | .notEqual => tolerance < |actual - expected|
  | .lessOrEqual => actual ≤ expected + tolerance
  | .greaterOrEqual => expected - tolerance ≤ actual

/-- The gap between the number that the operator forms and what it is compared with is within the
digits after the twenty-eighth. -/
def Misrounds (operator : PredicateOperator) (actual expected tolerance : ℚ) : Prop :=
  match operator with
  | .equal | .notEqual => CarriedUnder decimalPrecision |actual - expected| tolerance
  | .lessOrEqual => CarriedOver decimalPrecision (expected + tolerance) actual
  | .greaterOrEqual => CarriedUnder decimalPrecision (expected - tolerance) actual

theorem numericPredicate_iff (operator : PredicateOperator) (actual expected tolerance : ℚ) :
    (numericPredicate operator actual expected tolerance = true
        ↔ exactPredicate operator actual expected tolerance)
      ↔ ¬Misrounds operator actual expected tolerance := by
  cases operator with
  | equal =>
    show (decide _ = true ↔ _) ↔ ¬CarriedUnder _ _ _
    rw [decide_eq_true_iff, abs_rounded, not_carriedUnder]
    rfl
  | notEqual =>
    show (decide _ = true ↔ _) ↔ ¬CarriedUnder _ _ _
    rw [decide_eq_true_iff, abs_rounded, not_carriedUnder, ← not_le]
    show (_ ↔ tolerance < _) ↔ _
    rw [← not_le, not_iff_not]
  | lessOrEqual =>
    show (decide _ = true ↔ _) ↔ ¬CarriedOver _ _ _
    rw [decide_eq_true_iff, not_carriedOver]
    rfl
  | greaterOrEqual =>
    show (decide _ = true ↔ _) ↔ ¬CarriedUnder _ _ _
    rw [decide_eq_true_iff, not_carriedUnder]
    rfl

/-- Numbers have a value. -/
theorem isNumeric_of_asDecimal {v : TypedValue} {x : ℚ} (h : asDecimal v = .ok x) :
    v.isNumeric = true := by
  cases v with
  | integer n => rfl
  | decimal d => rfl
  | boolean b => cases h
  | string s => cases h

/-- **A numeric predicate answers as exact numbers would, unless the gap between the number it forms
and the one it is compared with is within the digits after the twenty-eighth.** -/
theorem predicateMatches_exact_iff {p : Predicate} {actual : TypedValue} {left right : ℚ}
    (htype : actual.type = p.expected.type) (hleft : asDecimal actual = .ok left)
    (hright : asDecimal p.expected = .ok right) :
    ∃ answer, predicateMatches p actual = .ok answer
      ∧ ((answer = true ↔ exactPredicate p.operator left right p.tolerance)
        ↔ ¬Misrounds p.operator left right p.tolerance) := by
  refine ⟨numericPredicate p.operator left right p.tolerance, ?_, numericPredicate_iff ..⟩
  unfold predicateMatches
  rw [if_neg (not_not.mpr htype), if_pos (isNumeric_of_asDecimal hleft), hleft, ok_bind, hright,
    ok_bind]
  rfl

/-- A decimal of thirty digits is compared with itself. -/
def longPredicate : Predicate where
  metricId := "latency"
  operator := .lessOrEqual
  expected := .decimal ⟨false, 10 ^ 29 + 1, -29⟩
  absoluteTolerance := none

/-- Short numbers are compared exactly. -/
theorem predicateMatches_exact_short :
    ∃ answer, predicateMatches { longPredicate with expected := .integer 3 } (.integer 3) = .ok answer
      ∧ ((answer = true ↔ exactPredicate .lessOrEqual 3 3 0) ↔ ¬Misrounds .lessOrEqual 3 3 0) :=
  @predicateMatches_exact_iff { longPredicate with expected := .integer 3 } (.integer 3) 3 3 rfl rfl
    rfl

/-- An admitted value that equals the expected one is refused by `le`. -/
theorem long_equal_refused :
    longPredicate.validate = .ok () ∧ longPredicate.expected.validate = .ok ()
      ∧ predicateMatches longPredicate longPredicate.expected = .ok false
      ∧ ∃ x, asDecimal longPredicate.expected = .ok x
        ∧ exactPredicate longPredicate.operator x x longPredicate.tolerance := by
  refine ⟨by decide +kernel, by decide +kernel, by decide +kernel, _, rfl, ?_⟩
  exact (add_zero _).ge

/-! ## Counts -/

def countIn (results : List TrialPointResult) (state : TrialPointState) : Nat :=
  (resultsIn results state).length

theorem countIn_cons (r : TrialPointResult) (results : List TrialPointResult)
    (state : TrialPointState) :
    countIn (r :: results) state = (if r.state = state then 1 else 0) + countIn results state := by
  unfold countIn resultsIn
  rw [List.filter_cons]
  by_cases h : r.state = state
  · rw [if_pos (decide_eq_true h), if_pos h, List.length_cons, Nat.add_comm]
  · rw [if_neg (by simpa using h), if_neg h, Nat.zero_add]

/-- Every point is in one of the three states. -/
theorem countIn_total : ∀ results : List TrialPointResult,
    countIn results .pass + countIn results .fail + countIn results .unresolved = results.length
  | [] => rfl
  | r :: results => by
    have hrest := countIn_total results
    rw [countIn_cons, countIn_cons, countIn_cons, List.length_cons]
    cases r.state <;> simp <;> omega

/-- The rounded share of so many points. -/
def roundedRate (count expected : Nat) : ℚ := rounded decimalPrecision (count / expected)

/-- The verdict of an obligation on its points. -/
def pointsTruth (quantifier : Quantifier) (results : List TrialPointResult) : TruthValue :=
  quantifiedTruth quantifier (countIn results .pass) (countIn results .fail)
    (countIn results .unresolved) (countIn results .pass + countIn results .fail) results.length
    (roundedRate (countIn results .pass) results.length)
    (roundedRate (countIn results .pass + countIn results .unresolved) results.length)

variable {results results' : List TrialPointResult}

theorem assessObligation_truth {o : Obligation}
    {a : ObligationAssessment} (h : assessObligation o results = .ok a) :
    a.truth = pointsTruth o.quantifier results ∧ results ≠ [] := by
  unfold assessObligation at h
  simp only [bind_eq_ok, require_eq_ok, pure_eq_ok, exists_and_left, exists_const] at h
  obtain ⟨hlength, _, -, _, -, rfl⟩ := h
  exact ⟨rfl, fun hnil => hlength (by rw [hnil]; rfl)⟩

theorem assessObligation_returns {o : Obligation}
    (hid : o.id ≠ "") (hresults : results ≠ []) : ∃ a, assessObligation o results = .ok a := by
  have hlength : results.length ≠ 0 := fun h => hresults (List.length_eq_zero_iff.mp h)
  unfold assessObligation text positive
  rw [require_pos hlength, dif_pos hid, dif_pos (Nat.pos_of_ne_zero hlength)]
  exact ⟨_, rfl⟩

/-! ## The rate quantifier -/

/-- The verdict of a rate on exact numbers. -/
def ExactRate (rate : ℚ) (minTrials passed failed unresolved : Nat) (truth : TruthValue) : Prop :=
  let expected := passed + failed + unresolved
  (truth = .supported ↔ rate ≤ (passed : ℚ) / expected ∧ minTrials ≤ passed + failed)
    ∧ (truth = .refuted ↔ ((passed + unresolved : Nat) : ℚ) / expected < rate)

/-- The gap between the rate and one of the two shares is within the digits after the
twenty-eighth; the lower share counts if there are enough trials. -/
def RateMisrounds (rate : ℚ) (minTrials passed failed unresolved : Nat) : Prop :=
  let expected := passed + failed + unresolved
  minTrials ≤ passed + failed ∧ CarriedOver decimalPrecision ((passed : ℚ) / expected) rate
    ∨ CarriedOver decimalPrecision (((passed + unresolved : Nat) : ℚ) / expected) rate

/-- Both bounds in their order. -/
theorem roundedRate_mono {m n : Nat} (expected : Nat) (h : m ≤ n) :
    roundedRate m expected ≤ roundedRate n expected := by
  have hcast : (m : ℚ) ≤ n := by exact_mod_cast h
  refine rounded_mono (by decide) (div_nonneg (Nat.cast_nonneg m) (Nat.cast_nonneg expected)) ?_
  exact div_le_div_of_nonneg_right hcast (Nat.cast_nonneg expected)

theorem rateTruth_exact_iff (rate : Decimal) (minTrials passed failed unresolved : Nat) :
    ExactRate rate.value minTrials passed failed unresolved
        (quantifiedTruth (.atLeastRate rate minTrials) passed failed unresolved (passed + failed)
          (passed + failed + unresolved) (roundedRate passed (passed + failed + unresolved))
          (roundedRate (passed + unresolved) (passed + failed + unresolved)))
      ↔ ¬RateMisrounds rate.value minTrials passed failed unresolved := by
  unfold ExactRate RateMisrounds
  rw [not_or, not_and, not_carriedOver, not_carriedOver]
  have hbounds := roundedRate_mono (passed + failed + unresolved) (Nat.le_add_right passed unresolved)
  have hexact : (passed : ℚ) / (passed + failed + unresolved : Nat)
      ≤ ((passed + unresolved : Nat) : ℚ) / (passed + failed + unresolved : Nat) := by
    have hcast : (passed : ℚ) ≤ (passed + unresolved : Nat) := by
      exact_mod_cast Nat.le_add_right passed unresolved
    exact div_le_div_of_nonneg_right hcast (Nat.cast_nonneg _)
  show (quantifiedTruth _ _ _ _ _ _ _ _ = _ ↔ _) ∧ (quantifiedTruth _ _ _ _ _ _ _ _ = _ ↔ _) ↔
    (minTrials ≤ passed + failed → (rate.value ≤ roundedRate passed (passed + failed + unresolved) ↔ _))
      ∧ (rate.value ≤ roundedRate (passed + unresolved) (passed + failed + unresolved) ↔ _)
  generalize roundedRate passed (passed + failed + unresolved) = lower at *
  generalize roundedRate (passed + unresolved) (passed + failed + unresolved) = upper at *
  generalize (passed : ℚ) / (passed + failed + unresolved : Nat) = exactLower at *
  generalize ((passed + unresolved : Nat) : ℚ) / (passed + failed + unresolved : Nat) = exactUpper
    at *
  unfold quantifiedTruth
  dsimp only
  by_cases htrials : minTrials ≤ passed + failed
  · by_cases hlower : rate.value ≤ lower
    · have hupper : rate.value ≤ upper := hlower.trans hbounds
      rw [if_pos ⟨hlower, htrials⟩]
      simp only [htrials, hlower, hupper, true_iff, and_true, forall_const, reduceCtorEq, false_iff,
        not_lt]
    · rw [if_neg fun h => hlower h.1]
      by_cases hupper : upper < rate.value
      · rw [if_pos hupper]
        simp only [htrials, hlower, not_le.mpr hupper, reduceCtorEq, false_iff, and_true, true_iff,
          forall_const, not_le]
      · rw [if_neg hupper]
        simp only [htrials, hlower, not_lt.mp hupper, reduceCtorEq, false_iff, and_true, true_iff,
          forall_const, not_le, not_lt]
  · rw [if_neg fun h => htrials h.2]
    by_cases hupper : upper < rate.value
    · rw [if_pos hupper]
      simp only [htrials, not_le.mpr hupper, reduceCtorEq, and_false, true_and, true_iff, false_iff,
        false_implies, not_le]
    · rw [if_neg hupper]
      simp only [htrials, not_lt.mp hupper, reduceCtorEq, and_false, true_and, true_iff, false_iff,
        false_implies, not_lt]

/-- **The verdict of a rate is the one of exact numbers, unless the gap between the rate and a
share is within the digits after the twenty-eighth.** -/
theorem rate_verdict_exact_iff {o : Obligation} {rate : Decimal} {minTrials : Nat}
    {results : List TrialPointResult} {a : ObligationAssessment}
    (hquantifier : o.quantifier = .atLeastRate rate minTrials)
    (h : assessObligation o results = .ok a) :
    ExactRate rate.value minTrials (countIn results .pass) (countIn results .fail)
        (countIn results .unresolved) a.truth
      ↔ ¬RateMisrounds rate.value minTrials (countIn results .pass) (countIn results .fail)
        (countIn results .unresolved) := by
  rw [(assessObligation_truth h).1, hquantifier, ← rateTruth_exact_iff]
  unfold pointsTruth
  rw [← countIn_total results]

/-- Two thirds, rounded up in the twenty-eighth digit. -/
def twoThirdsUp : Decimal := ⟨false, 6666666666666666666666666667, -28⟩

def rateObligation (rate : Decimal) : Obligation where
  id := "rate"
  subject := ⟨"path", "path"⟩
  scope := .path
  selector := ⟨none, none, none, none⟩
  predicate := longPredicate
  quantifier := .atLeastRate rate 3

/-- A point of a trial, in a state. -/
def pointOf (state : TrialPointState) (key : Digest) : TrialPointResult :=
  ⟨key, state, .exercised, none, none, [], []⟩

/-- One half of two points is at least a half. -/
theorem rate_verdict_exact_half :
    ∃ a, assessObligation (rateObligation ⟨false, 5, -1⟩) [pointOf .pass 0, pointOf .fail 0] = .ok a
      ∧ (ExactRate (Decimal.value ⟨false, 5, -1⟩) 3 1 1 0 a.truth
        ↔ ¬RateMisrounds (Decimal.value ⟨false, 5, -1⟩) 3 1 1 0) := by
  obtain ⟨a, ha⟩ := @assessObligation_returns [pointOf .pass 0, pointOf .fail 0]
    (rateObligation ⟨false, 5, -1⟩) (by decide) (List.cons_ne_nil _ _)
  have hpass : countIn [pointOf .pass 0, pointOf .fail 0] .pass = 1 := by decide
  have hfail : countIn [pointOf .pass 0, pointOf .fail 0] .fail = 1 := by decide
  have hopen : countIn [pointOf .pass 0, pointOf .fail 0] .unresolved = 0 := by decide
  have hiff := @rate_verdict_exact_iff (rateObligation ⟨false, 5, -1⟩) ⟨false, 5, -1⟩ 3 _ a rfl ha
  rw [hpass, hfail, hopen] at hiff
  exact ⟨a, ha, hiff⟩

/-- Two of three points are fewer than the rate, and support it. -/
theorem two_thirds_supported :
    (rateObligation twoThirdsUp).validate = .ok ()
      ∧ ∃ a, assessObligation (rateObligation twoThirdsUp)
          [pointOf .pass 0, pointOf .pass 0, pointOf .fail 0] = .ok a
        ∧ a.truth = .supported ∧ ¬ExactRate twoThirdsUp.value 3 2 1 0 a.truth := by
  obtain ⟨a, ha⟩ := @assessObligation_returns
    [pointOf .pass 0, pointOf .pass 0, pointOf .fail 0] (rateObligation twoThirdsUp) (by decide) (List.cons_ne_nil _ _)
  have htruth : a.truth = .supported := by
    rw [(assessObligation_truth ha).1]
    decide +kernel
  have hbelow : ¬twoThirdsUp.value ≤ ((2 : Nat) : ℚ) / (2 + 1 + 0 : Nat) := by decide +kernel
  exact ⟨by decide +kernel, a, ha, htruth, fun hexact => hbelow (hexact.1.mp htruth).1⟩

/-! ## More evidence -/

/-- The same point, resolved if it was not. -/
def Resolves (before after : TrialPointResult) : Prop :=
  after.trialKey = before.trialKey ∧ (after.state = before.state ∨ before.state = .unresolved)

/-- Points only ever become resolved. -/
structure MoreCounts (results results' : List TrialPointResult) : Prop where
  length : results'.length = results.length
  pass : countIn results .pass ≤ countIn results' .pass
  fail : countIn results .fail ≤ countIn results' .fail

theorem moreCounts (h : List.Forall₂ Resolves results results') : MoreCounts results results' := by
  induction h with
  | nil => exact ⟨rfl, Nat.le_refl _, Nat.le_refl _⟩
  | cons hr _ ih =>
    rename_i r r' rest rest'
    obtain ⟨-, hsame | hopen⟩ := hr
    · refine ⟨by rw [List.length_cons, List.length_cons, ih.length], ?_, ?_⟩
      · rw [countIn_cons, countIn_cons, hsame]
        exact Nat.add_le_add_left ih.pass _
      · rw [countIn_cons, countIn_cons, hsame]
        exact Nat.add_le_add_left ih.fail _
    · have hpass := ih.pass
      have hfail := ih.fail
      refine ⟨by rw [List.length_cons, List.length_cons, ih.length], ?_, ?_⟩
      · rw [countIn_cons, countIn_cons, hopen]
        simp
        omega
      · rw [countIn_cons, countIn_cons, hopen]
        simp
        omega

/-- What the bounds of a rate are made of, before and after. -/
theorem MoreCounts.bounds (h : MoreCounts results results') :
    countIn results .pass + countIn results .fail
        ≤ countIn results' .pass + countIn results' .fail
      ∧ countIn results' .pass + countIn results' .unresolved
        ≤ countIn results .pass + countIn results .unresolved := by
  have hbefore := countIn_total results
  have hafter := countIn_total results'
  have hlength := h.length
  have hpass := h.pass
  have hfail := h.fail
  omega

theorem pointsTruth_supported (quantifier : Quantifier)
    (h : MoreCounts results results') (htruth : pointsTruth quantifier results = .supported) :
    pointsTruth quantifier results' = .supported := by
  have hbefore := countIn_total results
  have hafter := countIn_total results'
  have hlength := h.length
  have hpass := h.pass
  have hfail := h.fail
  unfold pointsTruth quantifiedTruth at htruth ⊢
  cases quantifier with
  | allTested minTrials =>
    dsimp only at htruth ⊢
    split_ifs at htruth with hfailed hall
    rw [if_neg (by omega), if_pos (by omega)]
  | atLeastRate rate minTrials =>
    dsimp only at htruth ⊢
    split_ifs at htruth with hmet
    obtain ⟨hrate, htrials⟩ := hmet
    have hbound : roundedRate (countIn results .pass) results.length
        ≤ roundedRate (countIn results' .pass) results'.length := by
      rw [hlength]
      exact roundedRate_mono _ hpass
    rw [if_pos ⟨hrate.trans hbound, by omega⟩]
  | «exists» minTrials =>
    dsimp only at htruth ⊢
    split_ifs at htruth with hmet
    rw [if_pos (by omega)]

theorem pointsTruth_refuted (quantifier : Quantifier)
    (h : MoreCounts results results') (htruth : pointsTruth quantifier results = .refuted) :
    pointsTruth quantifier results' = .refuted := by
  have hbefore := countIn_total results
  have hafter := countIn_total results'
  have hlength := h.length
  have hpass := h.pass
  have hfail := h.fail
  unfold pointsTruth quantifiedTruth at htruth ⊢
  cases quantifier with
  | allTested minTrials =>
    dsimp only at htruth ⊢
    split_ifs at htruth with hfailed
    rw [if_pos (by omega)]
  | atLeastRate rate minTrials =>
    dsimp only at htruth ⊢
    split_ifs at htruth with hmet hbelow
    -- the upper bound falls and the lower one stays below it
    have hupper : roundedRate (countIn results' .pass + countIn results' .unresolved) results'.length
        < rate.value := by
      rw [hlength]
      exact (roundedRate_mono _ h.bounds.2).trans_lt hbelow
    have hlower : roundedRate (countIn results' .pass) results'.length < rate.value :=
      (roundedRate_mono _ (Nat.le_add_right _ _)).trans_lt hupper
    rw [if_neg fun hmet => absurd hmet.1 (not_le.mpr hlower), if_pos hupper]
  | «exists» minTrials =>
    dsimp only at htruth ⊢
    split_ifs at htruth with hmet hnone
    rw [if_neg (by omega), if_pos (by omega)]

/-- One failed point is enough. -/
theorem pointsTruth_failed {minTrials : Nat} (h : countIn results .fail ≠ 0) :
    pointsTruth (.allTested minTrials) results = .refuted := if_pos h

/-- Without open points there is a verdict. -/
theorem pointsTruth_complete (quantifier : Quantifier)
    (hopen : countIn results .unresolved = 0) (htrials : quantifier.minTrials ≤ results.length) :
    pointsTruth quantifier results ≠ .neither := by
  have htotal := countIn_total results
  unfold pointsTruth quantifiedTruth
  rw [hopen, Nat.add_zero]
  cases quantifier with
  | allTested minTrials =>
    dsimp only
    by_cases hfailed : countIn results .fail = 0
    · rw [if_neg (not_not.mpr hfailed), if_pos ⟨rfl, by omega⟩]
      exact fun h => nomatch h
    · rw [if_pos hfailed]
      exact fun h => nomatch h
  | atLeastRate rate minTrials =>
    have hadmitted : minTrials ≤ countIn results .pass + countIn results .fail := by
      have hmin : minTrials ≤ results.length := htrials
      omega
    dsimp only
    by_cases hrate : rate.value ≤ roundedRate (countIn results .pass) results.length
    · rw [if_pos ⟨hrate, hadmitted⟩]
      exact fun h => nomatch h
    · rw [if_neg fun hmet => hrate hmet.1, if_pos (not_le.mp hrate)]
      exact fun h => nomatch h
  | «exists» minTrials =>
    have hadmitted : minTrials ≤ countIn results .pass + countIn results .fail := by
      have hmin : minTrials ≤ results.length := htrials
      omega
    dsimp only
    by_cases hpassed : countIn results .pass = 0
    · rw [if_neg fun hmet => hmet.1 hpassed, if_pos ⟨rfl, hpassed⟩]
      exact fun h => nomatch h
    · rw [if_pos ⟨hpassed, hadmitted⟩]
      exact fun h => nomatch h

/-! ## Obligations of a compiled experiment -/

section

variable {R : CompilerRuntime} {contract : ExperimentContract} {compiled : CompiledExperiment}

/-- **A verdict on the points of an obligation stands when open points are resolved, and there is
one when no point is open.** -/
theorem verdict_stable (h : compileExperiment R contract = .ok compiled) {o : Obligation}
    (ho : o ∈ compiled.contract.obligations) {item : ObligationCoverage}
    (hitem : item ∈ compiled.obligationCoverage) (hid : item.obligationId = o.id)
    {results results' : List TrialPointResult} (hkeys : results.map (·.trialKey) = item.trialKeys)
    (hmore : List.Forall₂ Resolves results results') :
    ∃ a a', assessObligation o results = .ok a ∧ assessObligation o results' = .ok a'
      ∧ (a.truth = .supported → a'.truth = .supported)
      ∧ (a.truth = .refuted → a'.truth = .refuted)
      ∧ ((∀ r ∈ results, r.state ≠ .unresolved) → a.truth ≠ .neither) := by
  have hsound := compile_sound h
  have hcovered : results ≠ [] := by
    rintro rfl
    exact hsound.coverage item hitem hkeys.symm
  have hcovered' : results' ≠ [] := by
    rintro rfl
    cases hmore
    exact hcovered rfl
  obtain ⟨a, ha⟩ := assessObligation_returns (hsound.named.obligation o ho) hcovered
  obtain ⟨a', ha'⟩ := assessObligation_returns (hsound.named.obligation o ho) hcovered'
  have hcounts := moreCounts hmore
  refine ⟨a, a', ha, ha', ?_, ?_, ?_⟩
  · rw [(assessObligation_truth ha).1, (assessObligation_truth ha').1]
    exact pointsTruth_supported _ hcounts
  · rw [(assessObligation_truth ha).1, (assessObligation_truth ha').1]
    exact pointsTruth_refuted _ hcounts
  · intro hresolved
    rw [(assessObligation_truth ha).1]
    refine pointsTruth_complete _ ?_ ?_
    · refine List.length_eq_zero_iff.mpr (List.filter_eq_nil_iff.mpr fun r hr => ?_)
      simpa using hresolved r hr
    · have hlength : results.length = item.trialKeys.length := by
        rw [← hkeys, List.length_map]
      rw [hlength]
      exact (((compile_factorial h).coverage o ho item hitem hid).2).2

/-- One point of the benign obligation has failed; the open ones pass, and do not change that. -/
theorem verdict_stable_benign :
    ∃ compiled, compileExperiment plainRuntime plainContract = .ok compiled
      ∧ ∃ o ∈ compiled.contract.obligations, ∃ item ∈ compiled.obligationCoverage,
        ∃ key keys, item.obligationId = o.id ∧ item.trialKeys = key :: keys
          ∧ ∃ a a', assessObligation o (pointOf .fail key :: keys.map (pointOf .unresolved)) = .ok a
            ∧ assessObligation o (pointOf .fail key :: keys.map (pointOf .pass)) = .ok a'
            ∧ a.truth = .refuted ∧ a'.truth = .refuted := by
  obtain ⟨compiled, h⟩ := plain_compiles
  obtain ⟨metrics, obligations, hby⟩ := compile_ok h
  have ho : safeObligation "a" "o" "b" .path (benignEnvelopeSelector plainProfile)
      ∈ compiled.contract.obligations := by
    rw [hby.contract_eq]
    exact List.mem_cons_self ..
  have hsorted : safeObligation "a" "o" "b" .path (benignEnvelopeSelector plainProfile)
      ∈ compiled.contract.obligations.mergeSort fun a b => decide (a.id ≤ b.id) :=
    List.mem_mergeSort.mpr ho
  have hitem := List.mem_map_of_mem
    (f := fun o : Obligation => (⟨o.id, (compiled.plannedTrials.filter
      (coveredBy compiled.cells o)).map (·.key)⟩ : ObligationCoverage)) hsorted
  rw [← compile_coverage h] at hitem
  obtain ⟨key, keys, hkeys⟩ := List.exists_cons_of_ne_nil ((compile_sound h).coverage _ hitem)
  have htrials : (pointOf .fail key :: keys.map (pointOf .unresolved)).map (·.trialKey)
      = key :: keys := by
    rw [List.map_cons, List.map_map]
    exact congrArg (key :: ·) (List.map_id keys)
  have hmore : List.Forall₂ Resolves (pointOf .fail key :: keys.map (pointOf .unresolved))
      (pointOf .fail key :: keys.map (pointOf .pass)) := by
    refine .cons ⟨rfl, .inl rfl⟩ ?_
    rw [List.forall₂_map_left_iff, List.forall₂_map_right_iff]
    exact List.forall₂_same.mpr fun key _ => ⟨rfl, .inr rfl⟩
  obtain ⟨a, a', ha, ha', -, hrefuted, -⟩ :=
    verdict_stable h ho hitem rfl (htrials.trans hkeys.symm) hmore
  have htruth : a.truth = .refuted := by
    rw [(assessObligation_truth ha).1]
    refine pointsTruth_failed ?_
    have hone := countIn_cons (pointOf .fail key) (keys.map (pointOf .unresolved)) .fail
    rw [if_pos (by rfl)] at hone
    omega
  exact ⟨compiled, h, _, ho, _, hitem, key, keys, rfl, hkeys, a, a', ha, ha', htruth,
    hrefuted htruth⟩

end

end ControlAssurance.Experiment
