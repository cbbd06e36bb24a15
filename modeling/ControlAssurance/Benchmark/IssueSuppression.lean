import ControlAssurance.Benchmark.SemanticModels

/-!
# No positive conclusion survives an issue

Four validators look at the issues, each only at those of its own level. The key is the cell: it
has no vote, so that what every replicate of it is denied, and what a single diverging replicate
would deny, is denied to the cell (`cell_suppressed`). An issue of any level therefore only has to
reach the trials in its scope, which each level's validator sees to (`level_suppressed`).
-/

namespace ControlAssurance.Benchmark

open Lib

variable {E : Environment}

/-- What an issue leaves of a conclusion: nothing positive, and its own disposition throughout. -/
structure Suppressed (issue : NormalizedIssue) (semantics : SemanticVector) : Prop where
  negative : hasPositiveSemantics semantics = false
  conflicting : issue.disposition = .conflicting → semantics = allConflictingSemantics
  nonRepeatable : issue.disposition = .nonRepeatable →
    semantics = allNonRepeatableSemantics ∨ semantics = allConflictingSemantics

theorem suppressed_conflicting (issue : NormalizedIssue) :
    Suppressed issue allConflictingSemantics where
  negative := by decide
  conflicting := fun _ => rfl
  nonRepeatable := fun _ => Or.inr rfl

/-- The joint check of a list of issues is the check of each one. -/
theorem suppressed_of_validate {issues : List NormalizedIssue} {semantics : SemanticVector}
    (h : validateIssueConstrainedSemantics issues semantics = .ok ()) {issue : NormalizedIssue}
    (hissue : issue ∈ issues) : Suppressed issue semantics := by
  unfold validateIssueConstrainedSemantics at h
  dsimp only at h
  by_cases hconflict : .conflicting ∈ issues.map (·.disposition)
  · rw [if_pos hconflict, require_eq_ok] at h
    rw [h]
    exact suppressed_conflicting issue
  · rw [if_neg hconflict] at h
    have hno : issue.disposition ≠ .conflicting :=
      fun heq => hconflict (heq ▸ List.mem_map_of_mem hissue)
    by_cases hrepeat : .nonRepeatable ∈ issues.map (·.disposition)
    · rw [if_pos hrepeat, require_eq_ok] at h
      rw [h]
      exact ⟨by decide, fun heq => absurd heq hno, fun _ => Or.inl rfl⟩
    · rw [if_neg hrepeat, require_eq_ok] at h
      have hno' : issue.disposition ≠ .nonRepeatable :=
        fun heq => hrepeat (heq ▸ List.mem_map_of_mem hissue)
      refine ⟨?_, fun heq => absurd heq hno, fun heq => absurd heq hno'⟩
      have hsome : issues ≠ [] := List.ne_nil_of_mem hissue
      by_contra hpositive
      exact h ⟨hsome, by simpa using hpositive⟩

/-- The trials an issue is about, among those of its level. -/
def NormalizedIssue.covers (issue : NormalizedIssue) (trial : TrialSemanticResult) : Prop :=
  issue.relatedTrialKeys = [] ∨ trial.trialKey ∈ issue.relatedTrialKeys

/-- **One level**: the issues reach every trial in their scope. -/
theorem level_suppressed {issues : List NormalizedIssue} {trials : List TrialSemanticResult}
    (hkeys : (trials.map (·.trialKey)).Nodup)
    (h : validateIssuesAgainstExactTrials issues
      (Dict.ofPairs (trials.map fun trial => (trial.trialKey, trial))) = .ok ())
    {issue : NormalizedIssue} (hissue : issue ∈ issues) {trial : TrialSemanticResult}
    (htrial : trial ∈ trials) (hcovers : issue.covers trial) :
    Suppressed issue trial.semantics := by
  have hfst : (trials.map fun trial => (trial.trialKey, trial)).map Prod.fst
      = trials.map (·.trialKey) := by
    rw [List.map_map]
    rfl
  rw [← hfst] at hkeys
  have hdict := Dict.ofPairs_of_nodup hkeys
  have hround := forM_eq_ok.mp h issue hissue
  rw [hdict, bind_eq_ok] at hround
  obtain ⟨affected, haffected, hchecked⟩ := hround
  -- Whatever the scope is written as, the trial is among the affected ones.
  have hmem : trial ∈ affected := by
    unfold affectedTrials at haffected
    by_cases hempty : issue.relatedTrialKeys = []
    · rw [if_pos hempty] at haffected
      cases haffected
      exact List.mem_map.mpr ⟨_, List.mem_map_of_mem htrial, rfl⟩
    · rw [if_neg hempty] at haffected
      have hkey : trial.trialKey ∈ issue.relatedTrialKeys :=
        hcovers.resolve_left hempty
      obtain ⟨x, hx, hget⟩ := mapM_answer haffected _ hkey
      have hlookup : Dict.get? (trials.map fun trial => (trial.trialKey, trial)) trial.trialKey
          = some trial :=
        Dict.get?_of_mem hkeys (List.mem_map_of_mem htrial)
      rw [expect_eq_ok, hlookup] at hget
      exact Option.some.inj hget ▸ hx
  exact suppressed_of_validate (forM_eq_ok.mp hchecked trial hmem) (List.mem_singleton.mpr rfl)

/-! ## Cells -/

theorem sortedSet_length_one {xs : List Digest} (h : (sortedSet xs).length = 1) {a b : Digest}
    (ha : a ∈ xs) (hb : b ∈ xs) : a = b := by
  unfold sortedSet at h
  rw [List.length_insertionSort] at h
  obtain ⟨d, hd⟩ := List.length_eq_one_iff.mp h
  have hmem : ∀ x ∈ xs, x = d := by
    intro x hx
    have hx' := List.mem_dedup.mpr hx
    rw [hd] at hx'
    exact List.mem_singleton.mp hx'
  rw [hmem a ha, hmem b hb]

/-- The digests of the conclusions of a cell's replicates. -/
def CellSemanticResult.digests (E : Environment) (cell : CellSemanticResult) : List Digest :=
  sortedSet (cell.trials.map fun trial => E.canonicalDigest (.semantics trial.semantics))

/-- What the validator of a cell establishes. -/
structure CellFacts (E : Environment) (cell : CellSemanticResult) : Prop where
  count : cell.trials.length = 3
  trials : ∀ trial ∈ cell.trials, trial.validate E = .ok ()
  keys : (cell.trials.map (·.trialKey)).Nodup
  exactTrials : validateIssuesAgainstExactTrials cell.issues cell.trialsByKey = .ok ()
  aggregate :
    cell.validateAggregate (expectedDisposition (cell.digests E) cell.trials) = .ok ()

theorem nodup_of_dedup_length {α : Type} [DecidableEq α] {l : List α} {n : Nat}
    (hlen : l.length = n) (h : l.dedup.length = n) : l.Nodup := by
  have heq : l.dedup = l := (List.dedup_sublist l).eq_of_length (h.trans hlen.symm)
  rw [← heq]
  exact List.nodup_dedup l

theorem cell_facts {cell : CellSemanticResult} (h : cell.validate E = .ok ()) :
    CellFacts E cell := by
  unfold CellSemanticResult.validate at h
  simp only [bind_eq_ok, require_eq_ok, exists_and_left, exists_const] at h
  obtain ⟨-, hcount, _, htrials, _, -, _, -, -, -, -, -, -, -, hkeys, -, _, hexact, -, -, -, _,
    haggregate, -⟩ := h
  refine ⟨hcount, forM_eq_ok.mp htrials, ?_, hexact, haggregate⟩
  have hperm := List.perm_insertionSort (· ≤ ·) (cell.trials.map (·.trialKey))
  refine hperm.nodup_iff.mp (nodup_of_dedup_length ?_ hkeys)
  rw [hperm.length_eq, List.length_map, hcount]

/-- **A cell has no vote**: replicates that do not all say the same leave it entirely conflicting
or entirely non-repeatable. -/
theorem cell_nonVoting (hsha : Function.Injective fun v => E.canonicalDigest (.semantics v))
    {cell : CellSemanticResult} (h : CellFacts E cell) :
    (∀ trial ∈ cell.trials, cell.semantics = trial.semantics)
      ∨ cell.semantics = allConflictingSemantics
      ∨ (cell.semantics = allNonRepeatableSemantics
        ∧ ∀ trial ∈ cell.trials, trial.semantics.hasConflict = false) := by
  have haggregate := h.aggregate
  unfold expectedDisposition at haggregate
  by_cases hone : (cell.digests E).length = 1
  · rw [if_pos hone] at haggregate
    have hfirst := require_eq_ok.mp haggregate
    refine Or.inl fun trial htrial => ?_
    obtain ⟨first, rest, heq⟩ := List.exists_cons_of_ne_nil (List.ne_nil_of_mem htrial)
    have hmem : first ∈ cell.trials := heq ▸ List.mem_cons_self ..
    rw [hfirst first (by rw [heq]; rfl)]
    -- One digest, and digests of different conclusions differ.
    have hsame := sortedSet_length_one hone
      (List.mem_map_of_mem (f := fun t => E.canonicalDigest (.semantics t.semantics)) hmem)
      (List.mem_map_of_mem (f := fun t => E.canonicalDigest (.semantics t.semantics)) htrial)
    exact hsha hsame
  · rw [if_neg hone] at haggregate
    by_cases hconflict : cell.trials.any (·.semantics.hasConflict) = true
    · rw [if_pos hconflict] at haggregate
      exact Or.inr (Or.inl (require_eq_ok.mp haggregate))
    · rw [if_neg hconflict] at haggregate
      refine Or.inr (Or.inr ⟨require_eq_ok.mp haggregate, fun trial htrial => ?_⟩)
      by_contra hne
      exact hconflict (List.any_eq_true.mpr ⟨trial, htrial, by simpa using hne⟩)

/-- **An issue that reaches a replicate reaches the cell.** -/
theorem cell_suppressed (hsha : Function.Injective fun v => E.canonicalDigest (.semantics v))
    {cell : CellSemanticResult} (h : CellFacts E cell) {issue : NormalizedIssue}
    {trial : TrialSemanticResult} (htrial : trial ∈ cell.trials)
    (hsuppressed : Suppressed issue trial.semantics) : Suppressed issue cell.semantics := by
  rcases cell_nonVoting hsha h with hagreed | hconflicting | ⟨hrepeat, hclean⟩
  · rw [hagreed trial htrial]
    exact hsuppressed
  · rw [hconflicting]
    exact suppressed_conflicting issue
  · rw [hrepeat]
    refine ⟨by decide, fun heq => ?_, fun _ => Or.inl rfl⟩
    -- A conflicting issue makes its trial conflict, and then the cell would be conflicting.
    have hnone := hclean trial htrial
    rw [hsuppressed.conflicting heq] at hnone
    exact absurd hnone (by decide)

/-! ## Trials, scenarios, the benchmark -/

theorem trial_suppressed {trial : TrialSemanticResult} (h : trial.validate E = .ok ())
    {issue : NormalizedIssue} (hissue : issue ∈ trial.issues) :
    Suppressed issue trial.semantics := by
  unfold TrialSemanticResult.validate at h
  simp only [bind_eq_ok, require_eq_ok, exists_and_left, exists_const] at h
  obtain ⟨-, -, -, -, -, -, -, _, -, _, -, -, -, _, -, -, -, _, -, -, hconstrained⟩ := h
  exact suppressed_of_validate hconstrained hissue

/-- What the validator of a scenario establishes. -/
structure ScenarioFacts (E : Environment) (scenario : ScenarioSemanticResult) : Prop where
  count : scenario.cells.length = 16
  cells : ∀ cell ∈ scenario.cells, CellFacts E cell
  keys : (scenario.trials.map (·.trialKey)).Nodup
  exactTrials :
    validateIssuesAgainstExactTrials scenario.issues (trialsByKey scenario.cells) = .ok ()

theorem scenario_facts {scenario : ScenarioSemanticResult} (h : scenario.validate E = .ok ()) :
    ScenarioFacts E scenario := by
  unfold ScenarioSemanticResult.validate validateIssuesOverCells at h
  simp only [bind_eq_ok, require_eq_ok, exists_and_left, exists_const] at h
  obtain ⟨hcount, _, hcells, _, -, -, -, -, -, -, -, hkeys, -, -, -, -, -, -, -, -, _, hexact, -⟩ := h
  exact ⟨hcount, fun cell hcell => cell_facts (forM_eq_ok.mp hcells cell hcell), hkeys, hexact⟩

/-- What the validator of a benchmark establishes. -/
structure BenchmarkFacts (E : Environment) (result : BenchmarkSemanticResult) : Prop where
  scenarios : ∀ scenario ∈ result.scenarios, ScenarioFacts E scenario
  keys : (result.trials.map (·.trialKey)).Nodup
  exactTrials :
    validateIssuesAgainstExactTrials result.issues (trialsByKey result.cells) = .ok ()

theorem flatMap_length {α β : Type} {l : List α} {f : α → List β} {n : Nat}
    (h : ∀ a ∈ l, (f a).length = n) : (l.flatMap f).length = l.length * n := by
  induction l with
  | nil => rw [List.flatMap_nil, List.length_nil, List.length_nil, Nat.zero_mul]
  | cons a l ih =>
    have hrest := ih fun x hx => h x (List.mem_cons_of_mem _ hx)
    have hhead := h a (List.mem_cons_self ..)
    rw [List.flatMap_cons, List.length_append, hrest, hhead, List.length_cons, Nat.succ_mul]
    omega

theorem benchmark_facts {result : BenchmarkSemanticResult} (h : result.validate E = .ok ()) :
    BenchmarkFacts E result := by
  unfold BenchmarkSemanticResult.validate validateIssuesOverCells at h
  simp only [bind_eq_ok, require_eq_ok, exists_and_left, exists_const] at h
  obtain ⟨-, -, -, hcount, _, hscenarios, _, -, -, -, -, -, -, -, -, -, hkeys, -, -, -, -, -, _,
    hexact, -⟩ := h
  have hfacts : ∀ scenario ∈ result.scenarios, ScenarioFacts E scenario :=
    fun scenario hmem => scenario_facts (forM_eq_ok.mp hscenarios scenario hmem)
  refine ⟨hfacts, nodup_of_dedup_length ?_ hkeys, hexact⟩
  have hcells : result.cells.length = 48 := by
    unfold BenchmarkSemanticResult.cells
    rw [flatMap_length fun scenario hmem => (hfacts scenario hmem).count, hcount]
  have htrials : ∀ cell ∈ result.cells, cell.trials.length = 3 := by
    intro cell hcell
    obtain ⟨scenario, hmem, hcell⟩ := List.mem_flatMap.mp hcell
    exact ((hfacts scenario hmem).cells cell hcell).count
  unfold BenchmarkSemanticResult.trials
  rw [List.length_map, flatMap_length htrials, hcells]

/-- The dictionary of several cells is that of their trials. -/
theorem trialsByKey_eq (cells : List CellSemanticResult) : trialsByKey cells
    = Dict.ofPairs ((cells.flatMap (·.trials)).map fun trial => (trial.trialKey, trial)) := by
  unfold trialsByKey
  rw [List.map_flatMap]

/-- Every issue of the result, with the trials of the level it stands at. -/
def BenchmarkSemanticResult.scopedIssues (result : BenchmarkSemanticResult) :
    List (NormalizedIssue × List TrialSemanticResult) :=
  (result.issues.map fun issue => (issue, result.trials))
    ++ (result.scenarios.flatMap fun scenario =>
      scenario.issues.map fun issue => (issue, scenario.trials))
    ++ (result.cells.flatMap fun cell => cell.issues.map fun issue => (issue, cell.trials))
    ++ result.trials.flatMap fun trial => trial.issues.map fun issue => (issue, [trial])

/-- The cells of an accepted benchmark are accepted. -/
theorem BenchmarkFacts.cell {result : BenchmarkSemanticResult} (h : BenchmarkFacts E result)
    {cell : CellSemanticResult} (hcell : cell ∈ result.cells) : CellFacts E cell := by
  obtain ⟨scenario, hmem, hcell⟩ := List.mem_flatMap.mp hcell
  exact (h.scenarios scenario hmem).cells cell hcell

/-- An issue of any level reaches the trials in its scope. -/
theorem scoped_suppressed {result : BenchmarkSemanticResult} (h : BenchmarkFacts E result)
    {issue : NormalizedIssue} {level : List TrialSemanticResult}
    (hissue : (issue, level) ∈ result.scopedIssues) {trial : TrialSemanticResult}
    (htrial : trial ∈ level) (hcovers : issue.covers trial) :
    Suppressed issue trial.semantics := by
  unfold BenchmarkSemanticResult.scopedIssues at hissue
  simp only [List.mem_append, List.mem_map, List.mem_flatMap, Prod.mk.injEq] at hissue
  rcases hissue with ((⟨i, hi, rfl, rfl⟩ | ⟨scenario, hmem, i, hi, rfl, rfl⟩)
    | ⟨cell, hcell, i, hi, rfl, rfl⟩) | ⟨own, hown, i, hi, rfl, rfl⟩
  · have hexact := h.exactTrials
    rw [trialsByKey_eq] at hexact
    exact level_suppressed h.keys hexact hi htrial hcovers
  · have hfacts := h.scenarios scenario hmem
    have hexact := hfacts.exactTrials
    rw [trialsByKey_eq] at hexact
    exact level_suppressed hfacts.keys hexact hi htrial hcovers
  · have hfacts := h.cell hcell
    exact level_suppressed hfacts.keys hfacts.exactTrials hi htrial hcovers
  · obtain ⟨cell, hcell, hmem⟩ := List.mem_flatMap.mp hown
    rw [List.mem_singleton.mp htrial]
    exact trial_suppressed ((h.cell hcell).trials own hmem) hi

/-- An environment in which SHA-256 tells the conclusions apart: there are finitely many of them,
and no two have the same digest. -/
structure SoundEnvironment extends Environment where
  semantics_injective : Function.Injective fun v => canonicalDigest (.semantics v)

/-- A benchmark result that the models let through. -/
structure AcceptedBenchmark (E : Environment) extends BenchmarkSemanticResult where
  accepted : toBenchmarkSemanticResult.validate E = .ok ()

/-- **No positive conclusion survives an issue.** Whatever level an issue stands at, it suppresses
the conclusion of every trial in its scope and of every cell that holds such a trial; and a cell
whose trials do not all conclude the same is entirely conflicting or entirely non-repeatable. -/
theorem no_positive_conclusion_survives (E : SoundEnvironment)
    (result : AcceptedBenchmark E.toEnvironment) :
    (∀ issue level, (issue, level) ∈ result.scopedIssues → ∀ trial ∈ level, issue.covers trial →
      Suppressed issue trial.semantics
        ∧ ∀ cell ∈ result.cells, trial ∈ cell.trials → Suppressed issue cell.semantics)
      ∧ ∀ cell ∈ result.cells,
        (¬∀ a ∈ cell.trials, ∀ b ∈ cell.trials, a.semantics = b.semantics) →
        cell.semantics = allConflictingSemantics ∨ cell.semantics = allNonRepeatableSemantics := by
  have hfacts := benchmark_facts result.accepted
  refine ⟨?_, ?_⟩
  · intro issue level hissue trial htrial hcovers
    have hsuppressed := scoped_suppressed hfacts hissue htrial hcovers
    exact ⟨hsuppressed, fun cell hcell hmem =>
      cell_suppressed E.semantics_injective (hfacts.cell hcell) hmem hsuppressed⟩
  · intro cell hcell hdiffer
    rcases cell_nonVoting E.semantics_injective (hfacts.cell hcell) with
      hagreed | hconflicting | ⟨hrepeat, -⟩
    · exact absurd (fun a ha b hb => (hagreed a ha).symm.trans (hagreed b hb)) hdiffer
    · exact Or.inl hconflicting
    · exact Or.inr hrepeat

/-! ## A benchmark with issues -/

/-- Characters as one number, as far as it fits. -/
def charactersDigest (characters : List Char) : Digest :=
  BitVec.ofNat 256 (characters.foldl (fun n c => 257 * n + c.toNat) 0)

/-- The six conclusions by their places. -/
def SemanticVector.places (v : SemanticVector) : List Nat :=
  [v.target.ctorIdx, v.compensator.ctorIdx, v.path.ctorIdx, v.benign.ctorIdx, v.baseline.ctorIdx,
    v.residual.ctorIdx]

/-- The places as the digits of a number. -/
def SemanticVector.code (v : SemanticVector) : Digest := BitVec.ofNat 256 (Nat.ofDigits 6 v.places)

theorem claim_inj : ∀ {a b : ClaimDisposition}, a.ctorIdx = b.ctorIdx → a = b := by
  intro a b h
  cases a <;> cases b <;> first | rfl | cases h

theorem baseline_inj : ∀ {a b : BaselineDisposition}, a.ctorIdx = b.ctorIdx → a = b := by
  intro a b h
  cases a <;> cases b <;> first | rfl | cases h

theorem residual_inj : ∀ {a b : ResidualDisposition}, a.ctorIdx = b.ctorIdx → a = b := by
  intro a b h
  cases a <;> cases b <;> first | rfl | cases h

theorem SemanticVector.places_lt (v : SemanticVector) : ∀ place ∈ v.places, place < 6 := by
  have hclaim : ∀ c : ClaimDisposition, c.ctorIdx < 6 := fun c => by cases c <;> decide
  have hbaseline : v.baseline.ctorIdx < 6 := by cases v.baseline <;> decide
  have hresidual : v.residual.ctorIdx < 6 := by cases v.residual <;> decide
  simp [SemanticVector.places, hclaim, hbaseline, hresidual]

theorem SemanticVector.code_inj {v w : SemanticVector} (h : v.code = w.code) : v = w := by
  have hbound : ∀ u : SemanticVector, Nat.ofDigits 6 u.places < 2 ^ 256 := fun u =>
    (Nat.ofDigits_lt_base_pow_length (by decide) u.places_lt).trans_le (by show 6 ^ 6 ≤ _; decide)
  have hcode := congrArg BitVec.toNat h
  unfold SemanticVector.code at hcode
  rw [BitVec.toNat_ofNat, BitVec.toNat_ofNat, Nat.mod_eq_of_lt (hbound v),
    Nat.mod_eq_of_lt (hbound w)] at hcode
  have hplaces := @Nat.ofDigits_inj_of_len_eq 6 (by decide) v.places w.places rfl v.places_lt w.places_lt hcode
  simp only [SemanticVector.places, List.cons.injEq] at hplaces
  obtain ⟨ht, hc, hp, hb, hs, hr, -⟩ := hplaces
  cases v
  cases w
  rw [SemanticVector.mk.injEq]
  exact ⟨claim_inj ht, claim_inj hc, claim_inj hp, claim_inj hb, baseline_inj hs, residual_inj hr⟩

/-- Digests that tell the texts and the conclusions of the example apart, and the Unicode data of
its characters. -/
def exampleEnvironment : SoundEnvironment where
  sha256 := fun text => charactersDigest text.toList
  canonicalDigest := fun document => match document with
    | .semantics v => v.code
    | .singleTrialLineage lineage => lineage.subjectTrialKey + 1
    | .matchedPairLineage lineage => lineage.subjectTrialKey + 2
  unicode :=
    { category := fun c => if isLowerAlpha c then "Ll" else if isAsciiDigit c then "Nd"
        else if c = '-' then "Pd" else "Po"
      bidirectional := fun c => if isLowerAlpha c then "L" else if isAsciiDigit c then "EN"
        else if c = '-' then "ES" else "CS" }
  semantics_injective := fun _ _ h => SemanticVector.code_inj h

def effective : SemanticVector :=
  ⟨.supported, .supported, .supported, .supported, .pass, .targetEffective⟩

def ineffective : SemanticVector :=
  ⟨.refuted, .indeterminate, .refuted, .notExercised, .fail, .unresolved⟩

/-- The second cell of the detections has an issue, and the replicates of the third differ. -/
def exampleSemantics (scenario : ScenarioId) (cell replicate : Nat) : SemanticVector :=
  if scenario = .detection ∧ (cell = 1 ∨ (cell = 2 ∧ replicate = 3)) then ineffective else effective

def exampleIssue : NormalizedIssue := ⟨"missing", .rejected, "/cells", []⟩

/-- The place of a scenario among `benchmarkScenarioIds`. -/
def scenarioPlace (scenario : ScenarioId) : Nat := (scenario.ctorIdx + 1) % 3

def exampleSpec (scenario : ScenarioId) : Digest := BitVec.ofNat 256 (100 * scenarioPlace scenario)

def cellCharacters (cell : Nat) : List Char := ['c', Char.ofNat (97 + cell)]

def exampleCellKey (cell : Nat) : String := String.ofList (cellCharacters cell)

def nameCharacters (number : Nat) : List Char := 't' :: Nat.toDigits 10 number

def exampleName (number : Nat) : String := String.ofList (nameCharacters number)

/-- The characters of the coordinates of a trial. -/
def coordinates (scenario : ScenarioId) (cell replicate : Nat) : List Char :=
  ['s', 'h', 'a', '2', '5', '6', ':'] ++ (List.range 64).map (fun i =>
      Nat.digitChar ((exampleSpec scenario).toNat / 16 ^ (63 - i) % 16))
    ++ ['\x00'] ++ cellCharacters cell ++ ['\x00'] ++ ['b'] ++ ['\x00'] ++ Nat.toDigits 10 replicate

def exampleLineage (scenario : ScenarioId) (key : Digest) : TrialSemanticLineage :=
  if scenario = .recovery then
    .matchedPair ⟨key, key, key + 1, ⟨"action/v1", 1⟩, ⟨"action/v1", 2⟩, ⟨"action/v1", 3⟩,
      ⟨"action/v1", 4⟩, ⟨"action/v1", 5⟩, key + 2⟩
  else .singleTrial ⟨key, ⟨"action/v1", 1⟩, ⟨"action/v1", 3⟩, key + 1⟩

def exampleTrial (scenario : ScenarioId) (cell replicate : Nat) : TrialSemanticResult :=
  let number := 48 * scenarioPlace scenario + 3 * cell + replicate
  let key := charactersDigest (coordinates scenario cell replicate)
  { scenarioId := scenario
    specDigest := exampleSpec scenario
    trialKey := key
    cellKey := exampleCellKey cell
    block := "b"
    replicate := replicate
    ordinal := 3 * cell + replicate
    traceId := exampleName number
    cloneUniqueInstanceId := exampleName number
    cloneReadbackDigest := BitVec.ofNat 256 number
    attestationBundleDigest := BitVec.ofNat 256 number
    runnerResourceId := exampleName 0
    lineage := exampleLineage scenario key
    semantics := exampleSemantics scenario cell replicate
    issues := [] }

/-- A cell of three replicates, which agree unless it is the third of the detections. -/
def exampleCell (scenario : ScenarioId) (cell : Nat) : CellSemanticResult :=
  let trials := [1, 2, 3].map (exampleTrial scenario cell)
  let digests := sortedSet
    (trials.map fun trial => exampleEnvironment.canonicalDigest (.semantics trial.semantics))
  { scenarioId := scenario
    specDigest := exampleSpec scenario
    cellKey := exampleCellKey cell
    trials := trials
    agreement := if scenario = .detection ∧ cell = 2 then
        ⟨.nonRepeatable, digests, trials.map (·.trialKey)⟩
      else ⟨.agreed, digests, []⟩
    semantics := if scenario = .detection ∧ cell = 2 then allNonRepeatableSemantics
      else exampleSemantics scenario cell 1
    issues := if scenario = .detection ∧ cell = 1 then [exampleIssue] else [] }

def exampleScenario (scenario : ScenarioId) : ScenarioSemanticResult :=
  ⟨scenario, exampleSpec scenario, exampleSpec scenario, (List.range 16).map (exampleCell scenario),
    []⟩

def exampleResult : BenchmarkSemanticResult :=
  ⟨"financial", "1.0.0", "evaluator", 1, benchmarkScenarioIds.map exampleScenario, []⟩

theorem exampleKey (scenario : ScenarioId) (cell replicate : Nat) :
    exampleEnvironment.sha256 (String.intercalate "\x00" [Digest.text (exampleSpec scenario),
      exampleCellKey cell, "b", toString replicate])
      = charactersDigest (coordinates scenario cell replicate) := by
  have hjoined : String.intercalate "\x00" [Digest.text (exampleSpec scenario), exampleCellKey cell,
      "b", toString replicate] = Digest.text (exampleSpec scenario) ++ "\x00" ++ exampleCellKey cell
        ++ "\x00" ++ "b" ++ "\x00" ++ toString replicate := rfl
  show charactersDigest _ = _
  rw [hjoined]
  simp only [String.toList_append, text_toList, exampleCellKey, String.toList_ofList,
    Nat.toString_eq_ofList_toDigits]
  rfl

/-- What the validators ask of the texts. -/
theorem example_texts :
    (∀ cell ∈ List.range 16,
        isSafeCompilerCellKey exampleEnvironment.unicode (exampleCellKey cell) = true)
      ∧ (∀ number ∈ List.range 145,
        isExternalIdentity exampleEnvironment.unicode (exampleName number) = true)
      ∧ isSchemaName "action/v1" = true ∧ isCompilerBlock "b" = true
      ∧ exampleIssue.validate exampleEnvironment.toEnvironment = .ok ()
      ∧ ((List.range 16).map exampleCellKey).dedup.length = 16
      ∧ ((List.range 16).map exampleCellKey).Pairwise (· ≤ ·)
      ∧ isPortableId 128 "financial" = true ∧ isPortableVersion "1.0.0" = true
      ∧ isPortableId 256 "evaluator" = true
      ∧ (benchmarkScenarioIds.map (·.value)).Pairwise (· ≤ ·) := by
  decide +kernel

theorem exampleName_inj {m n : Nat} (h : exampleName m = exampleName n) : m = n := by
  have hcharacters : nameCharacters m = nameCharacters n := by
    have hlists := congrArg String.toList h
    rwa [exampleName, exampleName, String.toList_ofList, String.toList_ofList] at hlists
  have hdigits := (List.cons.inj hcharacters).2
  rw [← Nat.ofDigitChars_ten_toDigits (n := m), hdigits, Nat.ofDigitChars_ten_toDigits]

theorem exampleLineage_valid (scenario : ScenarioId) (key : Digest) :
    (exampleLineage scenario key).validate exampleEnvironment.toEnvironment = .ok () := by
  have hreference : ∀ digest, OpaqueArtifactReference.validate ⟨"action/v1", digest⟩ = .ok () :=
    fun _ => require_pos example_texts.2.2.1
  have hapart : key ≠ key + 1 := by
    intro hsame
    bv_omega
  unfold exampleLineage
  split
  next =>
    simp only [TrialSemanticLineage.validate, MatchedPairSemanticLineage.validate, hreference, ok_bind]
    rw [require_pos hapart, ok_bind, require_pos (Or.inl trivial), ok_bind, require_pos (by decide),
      ok_bind]
    exact require_pos rfl
  next =>
    simp only [TrialSemanticLineage.validate, SingleTrialSemanticLineage.validate, hreference, ok_bind]
    exact require_pos rfl

theorem exampleTrial_valid {scenario : ScenarioId} {cell : Nat} (hcell : cell ∈ List.range 16)
    {replicate : Nat} (hreplicate : replicate ∈ [1, 2, 3]) :
    (exampleTrial scenario cell replicate).validate exampleEnvironment.toEnvironment = .ok () := by
  obtain ⟨hcellKeys, hnames, -, hblock, -⟩ := example_texts
  have hbounds : 1 ≤ replicate ∧ replicate ≤ 3 := by
    simp only [List.mem_cons, List.not_mem_nil, or_false] at hreplicate
    omega
  have hcell' := List.mem_range.mp hcell
  have hnumber : 48 * scenarioPlace scenario + 3 * cell + replicate ∈ List.range 145 := by
    have hscenario : scenarioPlace scenario < 3 := Nat.mod_lt _ (by decide)
    exact List.mem_range.mpr (by omega)
  have hkey : canonicalTrialKey exampleEnvironment.toEnvironment (exampleSpec scenario)
      (exampleCellKey cell) "b" replicate
      = some (charactersDigest (coordinates scenario cell replicate)) := by
    unfold canonicalTrialKey
    rw [if_pos (by simp [hcellKeys cell hcell, hblock]; omega), exampleKey]
  unfold TrialSemanticResult.validate
  simp only [bind_eq_ok, require_eq_ok, expect_eq_ok, exists_and_left, exists_const]
  refine ⟨hcellKeys cell hcell, hblock, ⟨hbounds.1, by show replicate ≤ 1000; omega⟩,
    by show 1 ≤ 3 * cell + replicate; omega, hnames _ hnumber, hnames _ hnumber,
    hnames _ (by decide), (), exampleLineage_valid _ _, (), rfl, Nat.zero_le _, List.Pairwise.nil, _, hkey, rfl, ?_, (), ?_, fun _ h => absurd h List.not_mem_nil,
    ?_⟩
  · show (exampleLineage scenario _).subjectTrialKey = _
    unfold exampleLineage
    split <;> rfl
  · cases scenario <;> rfl
  · show validateIssueConstrainedSemantics [] _ = .ok ()
    simp [validateIssueConstrainedSemantics, require]

/-- What the validator of a cell asks besides its trials. -/
theorem exampleCell_checks : ∀ scenario ∈ benchmarkScenarioIds, ∀ cell ∈ List.range 16,
    let c := exampleCell scenario cell
    let disposition := expectedDisposition (c.digests exampleEnvironment.toEnvironment) c.trials
    c.agreement.validate = .ok ()
      ∧ c.issues.length ≤ 64
      ∧ c.issueCount ≤ 128
      ∧ CanonicalIssues c.issues
      ∧ (c.trials.map (·.trialKey)).Nodup
      ∧ validateIssuesAgainstExactTrials c.issues c.trialsByKey = .ok ()
      ∧ validateIssueConstrainedSemantics c.issues c.semantics = .ok ()
      ∧ c.agreement.disposition = disposition
      ∧ c.agreement.semanticDigests = c.digests exampleEnvironment.toEnvironment
      ∧ c.agreement.divergentTrialKeys
        = (if disposition = .agreed then [] else (c.trials.map (·.trialKey)).insertionSort (· ≤ ·))
      ∧ c.validateAggregate disposition = .ok () := by
  decide +kernel

theorem exampleCell_issues {scenario : ScenarioId} {cell : Nat} {issue : NormalizedIssue}
    (h : issue ∈ (exampleCell scenario cell).issues) : issue = exampleIssue := by
  have hissues : issue ∈ if scenario = .detection ∧ cell = 1 then [exampleIssue] else [] := h
  split at hissues
  · exact List.mem_singleton.mp hissues
  · cases hissues

theorem exampleCell_valid {scenario : ScenarioId} (hscenario : scenario ∈ benchmarkScenarioIds)
    {cell : Nat} (hcell : cell ∈ List.range 16) :
    (exampleCell scenario cell).validate exampleEnvironment.toEnvironment = .ok () := by
  obtain ⟨hcellKeys, -, -, -, hissueValid, -⟩ := example_texts
  obtain ⟨hagreement, hlength, hcount, hcanonical, hkeys, hexact, hconstrained, hdisposition,
    hdigests, hdivergent, haggregate⟩ := exampleCell_checks scenario hscenario cell hcell
  have hreplicates : (exampleCell scenario cell).trials.map (·.replicate) = [1, 2, 3] := rfl
  have hsorted := List.perm_insertionSort (· ≤ ·)
    ((exampleCell scenario cell).trials.map (·.trialKey))
  unfold CellSemanticResult.validate
  simp only [bind_eq_ok, require_eq_ok, exists_and_left, exists_const]
  refine ⟨hcellKeys cell hcell, rfl, (), forM_eq_ok.mpr fun trial htrial => ?_, (),
    hagreement, (), forM_eq_ok.mpr fun issue hissue => ?_, hlength, hcount, hcanonical,
    fun trial htrial => ?_, ?_, hreplicates, ?_, fun issue hissue key hkey => ?_, (), hexact,
    hdisposition, hdigests, hdivergent, (), haggregate, hconstrained⟩
  · obtain ⟨replicate, hreplicate, rfl⟩ := List.mem_map.mp htrial
    exact exampleTrial_valid hcell hreplicate
  · rw [exampleCell_issues hissue]
    exact hissueValid
  · obtain ⟨replicate, -, rfl⟩ := List.mem_map.mp htrial
    exact ⟨rfl, rfl, rfl⟩
  · rw [hreplicates]
    rfl
  · rw [(hsorted.nodup_iff.mpr hkeys).dedup, hsorted.length_eq]
    rfl
  · rw [exampleCell_issues hissue] at hkey
    cases hkey

theorem exampleScenario_names (scenario : ScenarioId) :
    (exampleScenario scenario).trials.map (·.traceId)
      = (List.range 48).map fun i => exampleName (48 * scenarioPlace scenario + i + 1) := by
  cases scenario <;> rfl

theorem nodup_of_increasing {α : Type} {f : α → Digest} {l : List α}
    (h : (l.map fun a => (f a).toNat).IsChain (· < ·)) : (l.map f).Nodup := by
  have hapart : (l.map fun a => (f a).toNat).Nodup :=
    (List.isChain_iff_pairwise.mp h).imp Nat.ne_of_lt
  refine List.Nodup.of_map BitVec.toNat ?_
  rwa [List.map_map]

theorem exampleScenario_checks : ∀ scenario ∈ benchmarkScenarioIds,
    (exampleScenario scenario).issueCount ≤ 256
      ∧ ((exampleScenario scenario).trials.map fun trial => trial.trialKey.toNat).IsChain (· < ·)
      ∧ ((exampleScenario scenario).trials.map fun trial =>
        trial.cloneReadbackDigest.toNat).IsChain (· < ·)
      ∧ (exampleScenario scenario).trials.map (·.ordinal) = (List.range 48).map (· + 1)
      ∧ ((List.range 48).map (· + 1)).insertionSort (· ≤ ·) = (List.range 48).map (· + 1) := by
  decide +kernel

theorem exampleScenario_valid {scenario : ScenarioId} (hscenario : scenario ∈ benchmarkScenarioIds) :
    (exampleScenario scenario).validate exampleEnvironment.toEnvironment = .ok () := by
  unfold ScenarioSemanticResult.validate validateIssuesOverCells
  simp only [bind_eq_ok, require_eq_ok, exists_and_left, exists_const]
  obtain ⟨-, -, -, -, -, hdistinct, hcellKeys, -⟩ := example_texts
  obtain ⟨hcount, hkeys, hreadbacks, hordinals, hsorted⟩ := exampleScenario_checks scenario hscenario
  have hnames : ((exampleScenario scenario).trials.map (·.traceId)).Nodup := by
    rw [exampleScenario_names]
    refine List.nodup_range.map fun i j hsame => ?_
    have := exampleName_inj hsame
    omega
  have hreadbacks := nodup_of_increasing hreadbacks
  refine ⟨rfl, (), forM_eq_ok.mpr fun c hc => ?_, (), rfl, Nat.zero_le _, hcount, List.Pairwise.nil,
    fun c hc => ?_, hdistinct, hcellKeys, nodup_of_increasing hkeys, hnames, hnames,
    hreadbacks, hreadbacks, ?_, ?_, ?_, fun _ h => absurd h List.not_mem_nil, (), rfl, rfl⟩
  · obtain ⟨cell, hcell, rfl⟩ := List.mem_map.mp hc
    exact exampleCell_valid hscenario hcell
  · obtain ⟨cell, hcell, rfl⟩ := List.mem_map.mp hc
    exact ⟨rfl, rfl⟩
  · rw [hordinals]
    exact List.nodup_range.map fun _ _ h => Nat.succ.inj h
  · rw [hordinals, hsorted]
  · have hblocks : (exampleScenario scenario).trials.map (·.block) = List.replicate 48 "b" := rfl
    rw [hblocks, List.replicate_dedup (by decide)]
    rfl

theorem exampleResult_checks :
    (exampleResult.trials.map fun trial => trial.trialKey.toNat).IsChain (· < ·)
      ∧ (exampleResult.trials.map fun trial => trial.cloneReadbackDigest.toNat).IsChain (· < ·)
      ∧ (exampleResult.trials.map fun trial => 48 * scenarioPlace trial.scenarioId + trial.ordinal)
        = (List.range 144).map (· + 1)
      ∧ exampleResult.issueCount ≤ 512
      ∧ (exampleResult.scenarios.map (·.specDigest)).dedup.length = 3 := by
  decide +kernel

theorem exampleResult_trial {trial : TrialSemanticResult} (h : trial ∈ exampleResult.trials) :
    trial.traceId = exampleName (48 * scenarioPlace trial.scenarioId + trial.ordinal) := by
  obtain ⟨c, hc, htrial⟩ := List.mem_flatMap.mp h
  obtain ⟨s, hs, hc⟩ := List.mem_flatMap.mp hc
  obtain ⟨scenario, -, rfl⟩ := List.mem_map.mp hs
  obtain ⟨cell, -, rfl⟩ := List.mem_map.mp hc
  obtain ⟨replicate, -, rfl⟩ := List.mem_map.mp htrial
  exact congrArg exampleName (Nat.add_assoc _ _ _)

theorem exampleResult_valid : exampleResult.validate exampleEnvironment.toEnvironment = .ok () := by
  obtain ⟨-, -, -, -, -, -, -, hbenchmark, hversion, hevaluator, hordered⟩ := example_texts
  obtain ⟨hkeys, hreadbacks, hnumbers, hcount, hspecs⟩ := exampleResult_checks
  have hlength : exampleResult.trials.length = 144 := by
    have hlengths := congrArg List.length hnumbers
    rwa [List.length_map, List.length_map, List.length_range] at hlengths
  have hnames : (exampleResult.trials.map (·.traceId)).Nodup := by
    have hrenamed : exampleResult.trials.map (·.traceId)
        = ((List.range 144).map (· + 1)).map exampleName := by
      rw [← hnumbers, List.map_map]
      exact List.map_congr_left fun _ h => exampleResult_trial h
    rw [hrenamed]
    exact (List.nodup_range.map fun _ _ h => Nat.succ.inj h).map fun _ _ => exampleName_inj
  have hcounted : ∀ {α : Type} [DecidableEq α] {f : TrialSemanticResult → α},
      (exampleResult.trials.map f).Nodup → (exampleResult.trials.map f).dedup.length = 144 := by
    intro α _ f hapart
    rw [hapart.dedup, List.length_map, hlength]
  unfold BenchmarkSemanticResult.validate validateIssuesOverCells
  simp only [bind_eq_ok, require_eq_ok, exists_and_left, exists_const]
  refine ⟨hbenchmark, hversion, hevaluator, rfl, (), forM_eq_ok.mpr fun s hs => ?_, (), rfl,
    Nat.zero_le _, hcount, List.Pairwise.nil, rfl, hspecs, hspecs, hordered, rfl,
    hcounted (nodup_of_increasing hkeys), hcounted hnames, hcounted hnames,
    hcounted (nodup_of_increasing hreadbacks), hcounted (nodup_of_increasing hreadbacks),
    fun _ h => absurd h List.not_mem_nil, (), rfl, rfl⟩
  obtain ⟨scenario, hscenario, rfl⟩ := List.mem_map.mp hs
  exact exampleScenario_valid hscenario

/-- A benchmark of 144 trials, of which one cell has an issue and another is non-repeatable. -/
def exampleBenchmark : AcceptedBenchmark exampleEnvironment.toEnvironment where
  toBenchmarkSemanticResult := exampleResult
  accepted := exampleResult_valid

theorem exampleCell_mem {scenario : ScenarioId} (hscenario : scenario ∈ benchmarkScenarioIds)
    {cell : Nat} (hcell : cell ∈ List.range 16) :
    exampleCell scenario cell ∈ exampleBenchmark.cells :=
  List.mem_flatMap.mpr ⟨exampleScenario scenario, List.mem_map_of_mem hscenario,
    List.mem_map_of_mem hcell⟩

theorem exampleTrial_mem (scenario : ScenarioId) (cell replicate : Nat)
    (h : replicate ∈ [1, 2, 3]) :
    exampleTrial scenario cell replicate ∈ (exampleCell scenario cell).trials :=
  List.mem_map_of_mem h

/-- The issue of the second cell of the detections suppresses that cell and its trials; the third
cell, whose replicates differ, concludes nothing; and the trials of the first keep their
conclusion. -/
theorem no_positive_conclusion_survives_example :
    (exampleIssue, (exampleCell .detection 1).trials) ∈ exampleBenchmark.scopedIssues
      ∧ Suppressed exampleIssue (exampleTrial .detection 1 2).semantics
      ∧ Suppressed exampleIssue (exampleCell .detection 1).semantics
      ∧ (exampleCell .detection 2).semantics = allNonRepeatableSemantics
      ∧ (exampleTrial .detection 0 2).semantics.residual = .targetEffective := by
  obtain ⟨hissues, hdiffering⟩ := no_positive_conclusion_survives exampleEnvironment exampleBenchmark
  have hcell : ∀ cell ∈ List.range 16, exampleCell .detection cell ∈ exampleBenchmark.cells :=
    fun _ h => exampleCell_mem (by decide) h
  have hscoped : (exampleIssue, (exampleCell .detection 1).trials)
      ∈ exampleBenchmark.scopedIssues := by
    refine List.mem_append_left _ (List.mem_append_right _ ?_)
    exact List.mem_flatMap.mpr ⟨_, hcell 1 (by decide), List.mem_singleton.mpr rfl⟩
  have htrial := exampleTrial_mem .detection 1 2 (by decide)
  obtain ⟨hsuppressed, hcells⟩ := hissues _ _ hscoped _ htrial (Or.inl rfl)
  refine ⟨hscoped, hsuppressed, hcells _ (hcell 1 (by decide)) htrial, ?_, rfl⟩
  refine (hdiffering _ (hcell 2 (by decide)) fun hsame => ?_).resolve_left (by decide)
  exact absurd (hsame _ (exampleTrial_mem .detection 2 1 (by decide)) _
    (exampleTrial_mem .detection 2 3 (by decide))) (by decide)

end ControlAssurance.Benchmark
