import ControlAssurance.Controls.AlertWindow
import ControlAssurance.Lib.ThreeValued

/-!
# Missing evidence in an alert window

A record that lacks fields stands for every record that has them. What a criterion says of the
records is therefore an interval around the count of the complete records, which later fields only
shrink, and a decision stands whatever these fields turn out to be. It is only ever lost when the
ids of the records no longer fit into a canonical document (`missing_evidence_iff`).
-/

namespace ControlAssurance.Controls

open Lib Attestation

/-! ## More fields -/

/-- The same record, which may have got fields that it lacked. -/
def AddsFields (before after : AlertRecord) : Prop :=
  after.id = before.id
    ∧ ∀ name value, before.fields.lookup name = some value → after.fields.lookup name = some value

/-- What a record holds where nothing is missing: the value of a field, or that there is none. -/
abbrev Truth := Text → Option JsonValue

/-- The fields of a record are those of the truth. -/
def Completes (record : AlertRecord) (truth : Truth) : Prop :=
  ∀ name value, record.fields.lookup name = some value → truth name = some value

/-- A predicate of a complete record, for a reading of `contains` on what is not a list. -/
def FieldPredicate.holds (reading : JsonValue → Scalar → Bool) (truth : Truth) :
    FieldPredicate → Bool
  | .exists field => (truth field).isSome
  | .equals field value => (truth field).any value.same
  | .contains field value =>
    match truth field with
    | none => false
    | some (.list items) => items.any value.same
    | some other => reading other value

/-- A complete record counts. -/
def Metric.holds (reading : JsonValue → Scalar → Bool) (metric : Metric) (truth : Truth) : Bool :=
  match metric with
  | .totalRecordCount => true
  | .matchingRecordCount all => all.all (FieldPredicate.holds reading truth)

/-- The complete records that count. -/
def trueCount (reading : JsonValue → Scalar → Bool) (metric : Metric) (truths : List Truth) : Nat :=
  (truths.map (metric.holds reading)).count true

/-- What a criterion says of one record. -/
def Metric.outcome (metric : Metric) (record : AlertRecord) : Option Bool :=
  match metric with
  | .totalRecordCount => some true
  | .matchingRecordCount all =>
    conjoined (all.map fun predicate => predicateResult predicate record.fields)

/-! ## One record -/

/-- **A definite answer of a predicate stands when fields are added.** -/
theorem predicateResult_known (predicate : FieldPredicate) {before after : AlertRecord}
    (h : AddsFields before after) :
    Known (predicateResult predicate before.fields) (predicateResult predicate after.fields) := by
  intro answer hanswer
  unfold predicateResult at hanswer ⊢
  cases hobserved : before.fields.lookup predicate.field with
  | none =>
    rw [hobserved] at hanswer
    cases hanswer
  | some observed =>
    rw [hobserved] at hanswer
    rw [h.2 _ _ hobserved]
    exact hanswer

/-- A definite answer of a predicate is the one of the complete record. -/
theorem predicateResult_holds (reading : JsonValue → Scalar → Bool) (predicate : FieldPredicate)
    {record : AlertRecord} {truth : Truth} (h : Completes record truth) :
    Known (predicateResult predicate record.fields) (some (predicate.holds reading truth)) := by
  intro answer hanswer
  unfold predicateResult at hanswer
  cases hobserved : record.fields.lookup predicate.field with
  | none =>
    rw [hobserved] at hanswer
    cases hanswer
  | some observed =>
    have htruth : truth predicate.field = some observed := h _ _ hobserved
    rw [hobserved] at hanswer
    cases predicate with
    | «exists» field =>
      obtain rfl := Option.some.inj hanswer
      show some (truth field).isSome = some true
      rw [show truth field = some observed from htruth]
      rfl
    | equals field value =>
      obtain rfl := Option.some.inj hanswer
      show some ((truth field).any value.same) = _
      rw [show truth field = some observed from htruth]
      rfl
    | contains field value =>
      have hfield : truth field = some observed := htruth
      cases observed with
      | list items =>
        obtain rfl := Option.some.inj hanswer
        simp only [FieldPredicate.holds, hfield]
      | _ => cases hanswer

theorem outcome_known (metric : Metric) {before after : AlertRecord} (h : AddsFields before after) :
    Known (metric.outcome before) (metric.outcome after) := by
  cases metric with
  | totalRecordCount => exact Known.refl _
  | matchingRecordCount all =>
    refine conjoined_known ?_
    rw [List.forall₂_map_left_iff, List.forall₂_map_right_iff]
    exact List.forall₂_same.mpr fun predicate _ => predicateResult_known predicate h

theorem conjoined_some (answers : List Bool) :
    conjoined (answers.map some) = some (answers.all id) := by
  cases hall : answers.all id with
  | true =>
    refine conjoined_true.mpr fun outcome hmem => ?_
    obtain ⟨answer, hanswer, rfl⟩ := List.mem_map.mp hmem
    exact congrArg some (List.all_eq_true.mp hall answer hanswer)
  | false =>
    obtain ⟨answer, hanswer, hfalse⟩ := List.all_eq_false.mp hall
    refine conjoined_false.mpr ⟨some answer, List.mem_map_of_mem hanswer, ?_⟩
    exact congrArg some (Bool.eq_false_iff.mpr hfalse)

theorem outcome_holds (reading : JsonValue → Scalar → Bool) (metric : Metric)
    {record : AlertRecord} {truth : Truth} (h : Completes record truth) :
    Known (metric.outcome record) (some (metric.holds reading truth)) := by
  cases metric with
  | totalRecordCount => exact Known.refl _
  | matchingRecordCount all =>
    have hall : all.all (FieldPredicate.holds reading truth)
        = (all.map (FieldPredicate.holds reading truth)).all id := by
      rw [List.all_map]
      rfl
    show Known _ (some (all.all _))
    rw [hall, ← conjoined_some, List.map_map]
    refine conjoined_known ?_
    rw [List.forall₂_map_left_iff, List.forall₂_map_right_iff]
    exact List.forall₂_same.mpr fun predicate _ => predicateResult_holds reading predicate h

/-! ## The interval of a criterion -/

theorem outcome_true (all : List FieldPredicate) (record : AlertRecord) :
    (Metric.outcome (.matchingRecordCount all) record == some true)
      = all.all fun predicate => predicateResult predicate record.fields == some true := by
  rw [Bool.eq_iff_iff, beq_iff_eq, List.all_eq_true]
  refine conjoined_true.trans ?_
  simp

theorem outcome_open (all : List FieldPredicate) (record : AlertRecord) :
    (Metric.outcome (.matchingRecordCount all) record == none)
      = (!(all.all fun predicate => predicateResult predicate record.fields == some true)
        && !(all.any fun predicate => predicateResult predicate record.fields == some false)) := by
  rw [← outcome_true]
  have hfalse : (all.any fun predicate => predicateResult predicate record.fields == some false)
      = (Metric.outcome (.matchingRecordCount all) record == some false) := by
    rw [Bool.eq_iff_iff, beq_iff_eq, List.any_eq_true]
    refine Iff.trans ?_ conjoined_false.symm
    simp
  rw [hfalse]
  rcases Metric.outcome (.matchingRecordCount all) record with _ | _ | _ <;> rfl

theorem matchedRecords_length (metric : Metric) (records : List AlertRecord) :
    (matchedRecords metric records).length = lowerBound (records.map metric.outcome) := by
  unfold lowerBound
  rw [List.count_eq_countP, List.countP_map, List.countP_eq_length_filter]
  cases metric with
  | totalRecordCount =>
    exact congrArg List.length (List.filter_eq_self.mpr fun record _ => rfl).symm
  | matchingRecordCount all =>
    refine congrArg List.length (List.filter_congr fun record _ => ?_)
    exact (outcome_true all record).symm

theorem indeterminateRecords_length (metric : Metric) (records : List AlertRecord) :
    (matchedRecords metric records).length + (indeterminateRecords metric records).length
      = upperBound (records.map metric.outcome) := by
  unfold upperBound
  rw [matchedRecords_length]
  refine congrArg (lowerBound _ + ·) ?_
  rw [List.count_eq_countP, List.countP_map, List.countP_eq_length_filter]
  cases metric with
  | totalRecordCount =>
    exact congrArg List.length (List.filter_eq_nil_iff.mpr fun record _ => by simp [Metric.outcome]).symm
  | matchingRecordCount all =>
    refine congrArg List.length (List.filter_congr fun record _ => ?_)
    exact (outcome_open all record).symm

/-- A decision by what meets it and what misses it. -/
def decided (met missed : Prop) [Decidable met] [Decidable missed] : Decision :=
  if met then .supported else if missed then .refuted else .unresolved

theorem decided_stands {met missed met' missed' : Prop} [Decidable met] [Decidable missed]
    [Decidable met'] [Decidable missed'] (hmet : met → met')
    (hmissed : ¬met → missed → ¬met' ∧ missed') :
    (decided met missed = .supported → decided met' missed' = .supported)
      ∧ (decided met missed = .refuted → decided met' missed' = .refuted) := by
  unfold decided
  refine ⟨fun h => ?_, fun h => ?_⟩
  · split_ifs at h with h₁
    exact if_pos (hmet h₁)
  · split_ifs at h with h₁ h₂
    exact (if_neg (hmissed h₁ h₂).1).trans (if_pos (hmissed h₁ h₂).2)

/-- **A decided comparison stays decided on a smaller interval.** -/
theorem comparisonDecision_stands (comparison : Comparison) (expected : Nat)
    {lower upper lower' upper' : Nat} (hlower : lower ≤ lower') (hupper : upper' ≤ upper)
    (hinterval : lower' ≤ upper') :
    (comparisonDecision comparison expected lower upper = .supported →
        comparisonDecision comparison expected lower' upper' = .supported)
      ∧ (comparisonDecision comparison expected lower upper = .refuted →
        comparisonDecision comparison expected lower' upper' = .refuted) := by
  cases comparison with
  | ge => exact decided_stands (by omega) (by omega)
  | le => exact decided_stands (by omega) (by omega)
  | eq => exact decided_stands (by omega) (by omega)

/-! ## The overall decision -/

theorem overallDecision_refuted (criteria : List CriterionEvaluation) :
    overallDecision criteria = .refuted ↔ ∃ e ∈ criteria, e.decision = .refuted := by
  unfold overallDecision
  by_cases hrefuted : criteria.any (·.decision == .refuted) = true
  · rw [if_pos hrefuted]
    simpa using hrefuted
  · rw [if_neg hrefuted]
    constructor
    · intro h
      split at h <;> cases h
    · intro h
      exact absurd (by simpa using h) hrefuted

theorem overallDecision_supported (criteria : List CriterionEvaluation) :
    overallDecision criteria = .supported ↔ ∀ e ∈ criteria, e.decision = .supported := by
  unfold overallDecision
  by_cases hrefuted : criteria.any (·.decision == .refuted) = true
  · rw [if_pos hrefuted]
    obtain ⟨e, he, hdecision⟩ := List.any_eq_true.mp hrefuted
    refine ⟨fun h => (by cases h), fun h => ?_⟩
    rw [h e he] at hdecision
    cases hdecision
  · rw [if_neg hrefuted]
    by_cases hopen : criteria.any (·.decision == .unresolved) = true
    · rw [if_pos hopen]
      obtain ⟨e, he, hdecision⟩ := List.any_eq_true.mp hopen
      refine ⟨fun h => (by cases h), fun h => ?_⟩
      rw [h e he] at hdecision
      cases hdecision
    · rw [if_neg hopen]
      refine ⟨fun _ e he => ?_, fun _ => rfl⟩
      have hnotRefuted : e.decision ≠ .refuted := fun h =>
        hrefuted (List.any_eq_true.mpr ⟨e, he, beq_iff_eq.mpr h⟩)
      have hnotOpen : e.decision ≠ .unresolved := fun h =>
        hopen (List.any_eq_true.mpr ⟨e, he, beq_iff_eq.mpr h⟩)
      cases hdecision : e.decision with
      | supported => rfl
      | refuted => exact absurd hdecision hnotRefuted
      | unresolved => exact absurd hdecision hnotOpen

/-! ## Evaluations of one criterion -/

/-- What `_records` lets pass. -/
structure ReadRecords (records : List AlertRecord) : Prop where
  few : records.length ≤ maxRecords
  short : ∀ record ∈ records, record.id.length ≤ 256
  plain : ∀ record ∈ records, rejectSurrogates record.id = .ok ()

/-- The ids of these records fit into a canonical document. -/
def IdsFit (records : List AlertRecord) : Prop :=
  (utf8Text (rfc8785 (.list (records.map fun record => .string record.id)))).length
    ≤ defaultJsonLimits.maxBytes

/-- The ids that the evaluation of a profile hashes fit. -/
def WindowFits (profile : AlertWindowProfile) (records : List AlertRecord) : Prop :=
  ∀ criterion ∈ profile.criteria, IdsFit (matchedRecords criterion.metric records)
    ∧ IdsFit (indeterminateRecords criterion.metric records)

theorem matchedRecords_sublist (metric : Metric) (records : List AlertRecord) :
    (matchedRecords metric records).Sublist records := by
  cases metric with
  | totalRecordCount => exact List.Sublist.refl _
  | matchingRecordCount all => exact List.filter_sublist

theorem indeterminateRecords_sublist (metric : Metric) (records : List AlertRecord) :
    (indeterminateRecords metric records).Sublist records := by
  cases metric with
  | totalRecordCount => exact List.nil_sublist _
  | matchingRecordCount all => exact List.filter_sublist

theorem ReadRecords.sublist {records records' : List AlertRecord} (h : ReadRecords records)
    (hsublist : records'.Sublist records) : ReadRecords records' :=
  ⟨Nat.le_trans hsublist.length_le h.few, fun record hrecord => h.short record (hsublist.subset hrecord),
    fun record hrecord => h.plain record (hsublist.subset hrecord)⟩

section

variable {R : AlertRuntime} (hdump : R.toCanonicalRuntime.DumpsCanonically)

include hdump

/-- The digest of ids exists exactly when they fit. -/
theorem idsDigest_returns_iff {records : List AlertRecord} (h : ReadRecords records) :
    (∃ digest, idsDigest R (records.map (·.id)) = .ok digest) ↔ IdsFit records := by
  have hitems : (records.map (·.id)).map JsonValue.string
      = records.map fun record => JsonValue.string record.id := by rw [List.map_map]; rfl
  have hvalid : validateTree R.toJsonRuntime defaultJsonLimits 0
      (.list (records.map fun record => .string record.id)) = .ok () := by
    have hcount : (records.map fun record => JsonValue.string record.id).length
        ≤ defaultJsonLimits.maxCollectionItems := by
      rw [List.length_map]
      exact h.few
    rw [validateTree, require_pos (Nat.zero_le _), ok_bind, require_pos hcount, ok_bind]
    refine validateItems_ok fun item hitem => ?_
    obtain ⟨record, hrecord, rfl⟩ := List.mem_map.mp hitem
    have hlength : record.id.length ≤ defaultJsonLimits.maxStringLength :=
      Nat.le_trans (h.short record hrecord) (by decide)
    rw [validateTree, require_pos (by decide), ok_bind, require_pos hlength, ok_bind]
    exact h.plain record hrecord
  have hfree : JsonValue.FloatFree (.list (records.map fun record => .string record.id)) := by
    rw [JsonValue.FloatFree]
    refine itemsFloatFree_of fun value hvalue => ?_
    obtain ⟨record, -, rfl⟩ := List.mem_map.mp hvalue
    simp [JsonValue.FloatFree]
  unfold idsDigest canonicalJsonBytes IdsFit
  rw [hitems, hvalid, ok_bind, hdump _ _ hvalid hfree, ok_bind]
  by_cases hfits : (utf8Text (rfc8785 (.list (records.map fun record => .string record.id)))).length
      ≤ defaultJsonLimits.maxBytes
  · rw [require_pos hfits]
    exact iff_of_true ⟨_, rfl⟩ hfits
  · rw [require_neg hfits]
    refine iff_of_false ?_ hfits
    rintro ⟨digest, hdigest⟩
    cases hdigest

end

/-- An evaluation of a criterion says what the interval of its outcomes says. -/
structure Evaluates (criterion : Criterion) (records : List AlertRecord)
    (e : CriterionEvaluation) : Prop where
  id : e.criterionId = criterion.criterionId
  lower : e.observedLowerBound = lowerBound (records.map criterion.metric.outcome)
  upper : e.observedUpperBound = upperBound (records.map criterion.metric.outcome)
  decision : e.decision = comparisonDecision criterion.comparison criterion.expectedCount
    e.observedLowerBound e.observedUpperBound

variable {criterion : Criterion}

theorem evaluateCriterion_ok {R : AlertRuntime}
    {records : List AlertRecord} {e : CriterionEvaluation}
    (h : evaluateCriterion R criterion records = .ok e) :
    Evaluates criterion records e
      ∧ (∃ digest, idsDigest R ((matchedRecords criterion.metric records).map (·.id)) = .ok digest)
      ∧ ∃ digest, idsDigest R ((indeterminateRecords criterion.metric records).map (·.id))
        = .ok digest := by
  unfold evaluateCriterion at h
  simp only [bind_eq_ok, pure_eq_ok] at h
  obtain ⟨matched, hmatched, indeterminate, hindeterminate, ⟨⟩, -, rfl⟩ := h
  refine ⟨⟨rfl, ?_, ?_, rfl⟩, ⟨_, hmatched⟩, _, hindeterminate⟩
  · show List.length (List.map _ _) = _
    rw [List.length_map, matchedRecords_length]
  · show List.length (List.map _ _) + List.length (List.map _ _) = _
    rw [List.length_map, List.length_map, indeterminateRecords_length]

theorem evaluateCriterion_returns {R : AlertRuntime}
    {records : List AlertRecord} {matched indeterminate : Digest}
    (hvalid : criterion.validate R = .ok ()) (hrecords : ReadRecords records)
    (hmatched : idsDigest R ((matchedRecords criterion.metric records).map (·.id)) = .ok matched)
    (hindeterminate : idsDigest R ((indeterminateRecords criterion.metric records).map (·.id))
      = .ok indeterminate) :
    ∃ e, evaluateCriterion R criterion records = .ok e := by
  unfold Criterion.validate at hvalid
  simp only [bind_eq_ok, require_eq_ok] at hvalid
  obtain ⟨⟨⟩, hid, ⟨⟩, -, ⟨⟩, -, hexpected⟩ := hvalid
  have hlower := matchedRecords_length criterion.metric records
  have hupper := indeterminateRecords_length criterion.metric records
  have hbound := upper_le_length (records.map criterion.metric.outcome)
  have hfew := hrecords.few
  rw [List.length_map] at hbound
  unfold evaluateCriterion
  simp only [List.length_map]
  rw [hmatched, ok_bind, hindeterminate, ok_bind]
  unfold CriterionEvaluation.validate
  dsimp only
  rw [require_pos hid, ok_bind, require_pos hexpected, ok_bind, require_pos (by omega), ok_bind,
    require_pos (by omega), ok_bind, require_pos (by omega), ok_bind, require_pos (by omega),
    ok_bind, require_pos (by omega), ok_bind, require_pos rfl]
  exact ⟨_, rfl⟩

/-! ## What is read -/

/-- The members of a valid document are valid, one level down. -/
theorem validateMembers_lookup {J : JsonRuntime} {limits : JsonLimits} {depth : Nat} {name : Text}
    {value : JsonValue} : ∀ {members : Members}, validateMembers J limits depth members = .ok () →
      members.lookup name = some value → validateTree J limits depth value = .ok ()
  | [], _, h => by cases h
  | (key, first) :: members, hvalid, h => by
    rw [validateMembers] at hvalid
    simp only [bind_eq_ok] at hvalid
    obtain ⟨⟨⟩, -, ⟨⟩, -, ⟨⟩, hfirst, hrest⟩ := hvalid
    rw [List.lookup_cons] at h
    split at h
    next => exact Option.some.inj h ▸ hfirst
    next => exact validateMembers_lookup hrest h

/-- **What `_records` returns is `ReadRecords`**: a line is written back before it counts, and what
is written is valid. -/
theorem readRecords_read {R : AlertRuntime} {profile : AlertWindowProfile} {payload : Bytes}
    {records : List AlertRecord} (h : readRecords R profile payload = .ok records) :
    ReadRecords records := by
  unfold readRecords at h
  simp only [bind_eq_ok, mapError_eq_ok, require_eq_ok, exists_and_left, exists_const] at h
  obtain ⟨parsed, hparsed, hfew, hrecords⟩ := h
  have hread : ∀ record ∈ records, record.id.length ≤ 256 ∧ rejectSurrogates record.id = .ok () := by
    intro record hrecord
    obtain ⟨item, hitem, hstep⟩ := mapM_mem hrecords record hrecord
    obtain ⟨line, value, hline, hvalue⟩ := strictJsonlLoads_mem hparsed item hitem
    obtain rfl : value = .dict item := by
      cases value <;> simp_all [AlertRuntime.lines, asDict, Except.toOption]
    have hvalid : validateTree R.toJsonRuntime recordLimits 0 (.dict item) = .ok () := by
      have hcanonical : canonicalJsonBytes R.toCanonicalRuntime recordLimits (.dict item) = .ok line :=
        hline
      unfold canonicalJsonBytes at hcanonical
      rw [bind_eq_ok] at hcanonical
      exact hcanonical.choose_spec.1
    rw [validateTree] at hvalid
    simp only [bind_eq_ok, require_eq_ok, exists_const] at hvalid
    unfold readRecord at hstep
    simp only [bind_eq_ok, require_eq_ok, exists_const] at hstep
    obtain ⟨-, hstep⟩ := hstep
    split at hstep
    next id fields hid hfields =>
      simp only [bind_eq_ok, require_eq_ok, pure_eq_ok, exists_const] at hstep
      obtain ⟨⟨-, hshort, -⟩, rfl⟩ := hstep
      have hstring := validateMembers_lookup hvalid.2.2 hid
      rw [validateTree] at hstring
      simp only [bind_eq_ok, require_eq_ok, exists_const] at hstring
      exact ⟨hshort, hstring.2.2⟩
    next => cases hstep
  exact ⟨(mapM_length hrecords).ge.trans hfew, fun record hrecord => (hread record hrecord).1,
    fun record hrecord => (hread record hrecord).2⟩

/-! ## The evaluation -/

/-- What is said of one criterion before and after fields were added. -/
structure CriterionStands (criterion : Criterion) (records records' : List AlertRecord)
    (e e' : CriterionEvaluation) : Prop where
  lower : e.observedLowerBound ≤ e'.observedLowerBound
  upper : e'.observedUpperBound ≤ e.observedUpperBound
  truth : ∀ reading truths, List.Forall₂ Completes records' truths →
    e'.observedLowerBound ≤ trueCount reading criterion.metric truths
      ∧ trueCount reading criterion.metric truths ≤ e'.observedUpperBound
      ∧ e.observedLowerBound ≤ trueCount reading criterion.metric truths
      ∧ trueCount reading criterion.metric truths ≤ e.observedUpperBound
  supported : e.decision = .supported → e'.decision = .supported
  refuted : e.decision = .refuted → e'.decision = .refuted

/-- The evaluations of a window before and after fields were added. -/
structure WindowStands (profile : AlertWindowProfile) (records records' : List AlertRecord)
    (e e' : AlertWindowEvaluation) : Prop where
  ids : e.criteria.map (·.criterionId) = profile.criteria.map (·.criterionId)
    ∧ e'.criteria.map (·.criterionId) = profile.criteria.map (·.criterionId)
  criteria : ∀ criterion ∈ profile.criteria, ∃ c ∈ e.criteria, ∃ c' ∈ e'.criteria,
    c.criterionId = criterion.criterionId ∧ c'.criterionId = criterion.criterionId
      ∧ CriterionStands criterion records records' c c'
  supported : e.decision = .supported → e'.decision = .supported
  refuted : e.decision = .refuted → e'.decision = .refuted
  refuted_iff : (e.decision = .refuted ↔ ∃ c ∈ e.criteria, c.decision = .refuted)
    ∧ (e'.decision = .refuted ↔ ∃ c ∈ e'.criteria, c.decision = .refuted)
  supported_iff : (e.decision = .supported ↔ ∀ c ∈ e.criteria, c.decision = .supported)
    ∧ (e'.decision = .supported ↔ ∀ c ∈ e'.criteria, c.decision = .supported)

/-- The true count of complete records is within the interval of a criterion. -/
theorem Evaluates.within {records : List AlertRecord}
    {e : CriterionEvaluation} (h : Evaluates criterion records e)
    (reading : JsonValue → Scalar → Bool) {truths : List Truth}
    (htruths : List.Forall₂ Completes records truths) :
    e.observedLowerBound ≤ trueCount reading criterion.metric truths
      ∧ trueCount reading criterion.metric truths ≤ e.observedUpperBound := by
  rw [h.lower, h.upper]
  refine count_within ?_
  rw [List.forall₂_map_left_iff, List.forall₂_map_right_iff]
  exact htruths.imp fun record truth hcompletes => outcome_holds reading _ hcompletes

/-- **Added fields leave a criterion's interval inside what it was.** -/
theorem criterion_stands {records records' : List AlertRecord}
    {e e' : CriterionEvaluation} (h : Evaluates criterion records e)
    (h' : Evaluates criterion records' e') (hadds : List.Forall₂ AddsFields records records') :
    CriterionStands criterion records records' e e' := by
  have hknown : List.Forall₂ Known (records.map criterion.metric.outcome)
      (records'.map criterion.metric.outcome) := by
    rw [List.forall₂_map_left_iff, List.forall₂_map_right_iff]
    exact hadds.imp fun record record' hrecord => outcome_known _ hrecord
  have hbounds := interval_shrinks hknown
  rw [← h.lower, ← h.upper, ← h'.lower, ← h'.upper] at hbounds
  have hinterval : e'.observedLowerBound ≤ e'.observedUpperBound := by
    rw [h'.lower, h'.upper]
    exact lower_le_upper _
  have hdecisions := comparisonDecision_stands criterion.comparison criterion.expectedCount
    hbounds.1 hbounds.2 hinterval
  rw [← h.decision, ← h'.decision] at hdecisions
  refine ⟨hbounds.1, hbounds.2, fun reading truths htruths => ?_, hdecisions.1, hdecisions.2⟩
  have hwithin := h'.within reading htruths
  exact ⟨hwithin.1, hwithin.2, Nat.le_trans hbounds.1 hwithin.1, Nat.le_trans hwithin.2 hbounds.2⟩

section

variable {R : AlertRuntime} {profile : AlertWindowProfile} {call : EvaluationCall}
  {digest recordsDigest recordsDigest' : Digest} {records records' : List AlertRecord}
  {e e' : AlertWindowEvaluation}

/-- An evaluation has one answer for each criterion. -/
theorem evaluateRecords_ok (h : evaluateRecords R profile call digest recordsDigest records = .ok e) :
    (profile.criteria.mapM fun criterion => evaluateCriterion R criterion records) = .ok e.criteria
      ∧ e.decision = overallDecision e.criteria := by
  unfold evaluateRecords at h
  simp only [bind_eq_ok, pure_eq_ok] at h
  obtain ⟨criteria, hcriteria, ⟨⟩, -, rfl⟩ := h
  exact ⟨hcriteria, rfl⟩

theorem evaluated_ids {criteria : List CriterionEvaluation} :
    ∀ {profileCriteria : List Criterion},
      (profileCriteria.mapM fun criterion => evaluateCriterion R criterion records) = .ok criteria →
        criteria.map (·.criterionId) = profileCriteria.map (·.criterionId) := by
  intro profileCriteria
  induction profileCriteria generalizing criteria with
  | nil =>
    intro h
    cases h
    rfl
  | cons criterion rest ih =>
    intro h
    simp only [List.mapM_cons, bind_eq_ok, pure_eq_ok] at h
    obtain ⟨c, hc, cs, hcs, rfl⟩ := h
    rw [List.map_cons, List.map_cons, ih hcs, (evaluateCriterion_ok hc).1.id]

/-- Two evaluations of one profile, the second of records with more fields. -/
theorem window_stands (h : evaluateRecords R profile call digest recordsDigest records = .ok e)
    (h' : evaluateRecords R profile call digest recordsDigest' records' = .ok e')
    (hadds : List.Forall₂ AddsFields records records') :
    WindowStands profile records records' e e' := by
  obtain ⟨hcriteria, hdecision⟩ := evaluateRecords_ok h
  obtain ⟨hcriteria', hdecision'⟩ := evaluateRecords_ok h'
  have hstands : ∀ criterion ∈ profile.criteria, ∀ c c',
      evaluateCriterion R criterion records = .ok c →
      evaluateCriterion R criterion records' = .ok c' →
        CriterionStands criterion records records' c c' := fun criterion _ c c' hc hc' =>
    criterion_stands (evaluateCriterion_ok hc).1 (evaluateCriterion_ok hc').1 hadds
  refine ⟨⟨evaluated_ids hcriteria, evaluated_ids hcriteria'⟩, fun criterion hcriterion => ?_, ?_, ?_,
    ?_, ?_⟩
  · obtain ⟨c, hmem, hc⟩ := mapM_answer hcriteria criterion hcriterion
    obtain ⟨c', hmem', hc'⟩ := mapM_answer hcriteria' criterion hcriterion
    exact ⟨c, hmem, c', hmem', (evaluateCriterion_ok hc).1.id, (evaluateCriterion_ok hc').1.id,
      hstands criterion hcriterion c c' hc hc'⟩
  · rw [hdecision, hdecision', overallDecision_supported, overallDecision_supported]
    intro hall c' hmem'
    obtain ⟨criterion, hcriterion, hc'⟩ := mapM_mem hcriteria' c' hmem'
    obtain ⟨c, hmem, hc⟩ := mapM_answer hcriteria criterion hcriterion
    exact (hstands criterion hcriterion c c' hc hc').supported (hall c hmem)
  · rw [hdecision, hdecision', overallDecision_refuted, overallDecision_refuted]
    rintro ⟨c, hmem, hrefuted⟩
    obtain ⟨criterion, hcriterion, hc⟩ := mapM_mem hcriteria c hmem
    obtain ⟨c', hmem', hc'⟩ := mapM_answer hcriteria' criterion hcriterion
    exact ⟨c', hmem', (hstands criterion hcriterion c c' hc hc').refuted hrefuted⟩
  · rw [hdecision, hdecision']
    exact ⟨overallDecision_refuted _, overallDecision_refuted _⟩
  · rw [hdecision, hdecision']
    exact ⟨overallDecision_supported _, overallDecision_supported _⟩

variable (hdump : R.toCanonicalRuntime.DumpsCanonically) (hprofile : profile.validate R = .ok ())
  (hcall : checkCall R profile call = .ok digest)

include hdump hprofile hcall in
/-- **An evaluation returns exactly when the ids that it hashes fit.** -/
theorem evaluateRecords_returns_iff (hrecords : ReadRecords records) :
    (∃ e, evaluateRecords R profile call digest recordsDigest records = .ok e)
      ↔ WindowFits profile records := by
  constructor
  · rintro ⟨e, he⟩ criterion hcriterion
    obtain ⟨hcriteria, -⟩ := evaluateRecords_ok he
    obtain ⟨c, -, hc⟩ := mapM_answer hcriteria criterion hcriterion
    obtain ⟨-, hmatched, hindeterminate⟩ := evaluateCriterion_ok hc
    exact ⟨(idsDigest_returns_iff hdump (hrecords.sublist (matchedRecords_sublist ..))).mp hmatched,
      (idsDigest_returns_iff hdump (hrecords.sublist (indeterminateRecords_sublist ..))).mp
        hindeterminate⟩
  · intro hfits
    unfold AlertWindowProfile.validate at hprofile
    simp only [bind_eq_ok, require_eq_ok, exists_and_left, exists_const] at hprofile
    obtain ⟨hid, -, -, ⟨⟩, -, hcount, ⟨⟩, hcriteriaValid, -, hsorted, -⟩ := hprofile
    unfold checkCall at hcall
    simp only [bind_eq_ok, require_eq_ok, exists_and_left, exists_const] at hcall
    obtain ⟨-, -, -, -, hwhole, hwindow, -⟩ := hcall
    have hreturns : ∀ criterion ∈ profile.criteria,
        ∃ c, evaluateCriterion R criterion records = .ok c := by
      intro criterion hcriterion
      obtain ⟨hmatched, hindeterminate⟩ := hfits criterion hcriterion
      obtain ⟨matched, hmatched⟩ := (idsDigest_returns_iff hdump
        (hrecords.sublist (matchedRecords_sublist ..))).mpr hmatched
      obtain ⟨indeterminate, hindeterminate⟩ := (idsDigest_returns_iff hdump
        (hrecords.sublist (indeterminateRecords_sublist ..))).mpr hindeterminate
      exact evaluateCriterion_returns (forM_eq_ok.mp hcriteriaValid criterion hcriterion) hrecords
        hmatched hindeterminate
    obtain ⟨criteria, hcriteria, -⟩ := mapM_ok (R := fun _ _ => True) fun criterion hcriterion =>
      (hreturns criterion hcriterion).imp fun _ hc => ⟨hc, trivial⟩
    have hids := evaluated_ids hcriteria
    have hlength := mapM_length hcriteria
    unfold evaluateRecords
    rw [hcriteria, ok_bind]
    unfold AlertWindowEvaluation.validate
    dsimp only
    rw [require_pos hid, ok_bind, require_pos hrecords.few, ok_bind, require_pos hwhole, ok_bind,
      require_pos (hlength ▸ hcount), ok_bind, require_pos hwindow, ok_bind,
      require_pos (hids ▸ hsorted), ok_bind, require_pos rfl]
    exact ⟨_, rfl⟩

/-- `evaluate_alert_window` is the evaluation of the records that its bytes are read as. -/
theorem evaluateAlertWindow_eq {payload : Bytes} (hcall : checkCall R profile call = .ok digest)
    (hread : readRecords R profile payload = .ok records) :
    evaluateAlertWindow R profile call payload
      = evaluateRecords R profile call digest (R.sha256 payload) records := by
  unfold evaluateAlertWindow
  rw [hcall, ok_bind, hread, ok_bind]

include hdump hprofile hcall in
/-- **`evaluate_alert_window` returns exactly when the ids that it hashes fit.** -/
theorem evaluateAlertWindow_returns_iff {payload : Bytes}
    (hread : readRecords R profile payload = .ok records) :
    (∃ e, evaluateAlertWindow R profile call payload = .ok e) ↔ WindowFits profile records := by
  rw [evaluateAlertWindow_eq hcall hread]
  exact evaluateRecords_returns_iff hdump hprofile hcall (readRecords_read hread)

include hcall in
/-- **Two answers of `evaluate_alert_window`, the second to records with more fields**: what the
first decided stands. -/
theorem evaluateAlertWindow_stands {payload payload' : Bytes}
    (hread : readRecords R profile payload = .ok records)
    (hread' : readRecords R profile payload' = .ok records')
    (hadds : List.Forall₂ AddsFields records records')
    (h : evaluateAlertWindow R profile call payload = .ok e)
    (h' : evaluateAlertWindow R profile call payload' = .ok e') :
    WindowStands profile records records' e e' := by
  rw [evaluateAlertWindow_eq hcall hread] at h
  rw [evaluateAlertWindow_eq hcall hread'] at h'
  exact window_stands h h' hadds

end

/-! ## A window -/

/-- A runtime without documents, whose hash is the length. -/
def windowRuntime : AlertRuntime where
  loads := fun _ => .error "no document"
  parseFloat := fun _ => false
  checkFloat := fun _ => .ok ()
  dump := fun value => .ok (utf8Text (rfc8785 value))
  sha256 := fun bytes => BitVec.ofNat 256 bytes.length

theorem windowRuntime_dumps : windowRuntime.toCanonicalRuntime.DumpsCanonically :=
  fun _ _ _ _ => rfl

theorem windowRuntime_canonical {limits : JsonLimits} {value : JsonValue}
    (hvalid : validateTree windowRuntime.toJsonRuntime limits 0 value = .ok ())
    (hsize : canonicalLength value ≤ limits.maxBytes) :
    canonicalJsonBytes windowRuntime.toCanonicalRuntime limits value
      = .ok (utf8Text (rfc8785 value)) := by
  unfold canonicalJsonBytes
  rw [hvalid, ok_bind]
  show (require _ _ >>= _) = _
  rw [canonicalLength_eq, require_pos hsize]
  rfl

/-- At least fifty thousand alerts with a title. -/
def titleCriterion : Criterion where
  criterionId := text "c"
  description := text "d"
  metric := .matchingRecordCount [.exists (text "Title")]
  comparison := .ge
  expectedCount := 50000

def titleProfile : AlertWindowProfile where
  profileId := text "p"
  profileVersion := text "1.0.0"
  title := text "t"
  source := .defender
  criteria := [titleCriterion]

theorem titleProfile_valid : titleProfile.validate windowRuntime = .ok () := by
  have hpredicate : ([FieldPredicate.exists (text "Title")].mapM fun predicate =>
      canonicalJsonBytes windowRuntime.toCanonicalRuntime defaultJsonLimits predicate.modelDump)
        = .ok [utf8Text (rfc8785 (FieldPredicate.modelDump (.exists (text "Title"))))] := by
    rw [List.mapM_cons, windowRuntime_canonical rfl (by decide)]
    rfl
  have hmetric : titleCriterion.metric.validate windowRuntime = .ok () := by
    show (require _ _ >>= fun _ => _ >>= fun _ => _ >>= fun _ => _) = _
    rw [require_pos (by decide), ok_bind, show List.forM _ FieldPredicate.validate = .ok () from rfl,
      ok_bind, hpredicate, ok_bind]
    exact require_pos (List.pairwise_singleton _ _)
  have hcriterion : titleCriterion.validate windowRuntime = .ok () := by
    unfold Criterion.validate
    rw [require_pos (by decide), ok_bind, require_pos (by decide), ok_bind, hmetric, ok_bind]
    exact require_pos (by decide)
  have hcriteria : titleProfile.criteria.forM (Criterion.validate windowRuntime) = .ok () :=
    forM_eq_ok.mpr (List.forall_mem_singleton.mpr hcriterion)
  unfold AlertWindowProfile.validate
  rw [require_pos (by decide), ok_bind, require_pos (by decide), ok_bind, require_pos (by decide),
    ok_bind, show titleProfile.source.validate = .ok () from rfl, ok_bind, require_pos (by decide),
    ok_bind, hcriteria, ok_bind, require_pos (by decide), ok_bind, require_pos (by decide), ok_bind]
  rfl

/-- The digest of the profile. -/
def titleDigest : Digest := windowRuntime.sha256 (utf8Text (rfc8785 titleProfile.modelDump))

def titleCall : EvaluationCall where
  expectedProfileDigest := titleDigest
  sourceKind := .defenderXdr
  windowStart := 0
  windowEnd := 3600000000

theorem titleCall_checked : checkCall windowRuntime titleProfile titleCall = .ok titleDigest := by
  have hdigest : titleProfile.digest windowRuntime = .ok titleDigest := by
    unfold AlertWindowProfile.digest
    rw [windowRuntime_canonical rfl (by decide), ok_bind]
    rfl
  have hanchor : titleDigest = titleCall.expectedProfileDigest := rfl
  have hkind : titleCall.sourceKind = titleProfile.source.kind := rfl
  unfold checkCall
  rw [hdigest, ok_bind, require_pos hanchor, ok_bind, require_pos hkind, ok_bind,
    require_pos (by decide), ok_bind, require_pos (by decide)]
  rfl

def titleFields : Members := [(text "Title", .string (text "t"))]

/-- Two alerts, the second of which has these fields. -/
def twoRecords (later : Members) : List AlertRecord :=
  [⟨text "a", titleFields⟩, ⟨text "b", later⟩]

/-- An id of 256 characters that ends in the digits of a number. -/
def longId (n : Nat) : Text :=
  List.replicate 250 'a'.toNat
    ++ [100000, 10000, 1000, 100, 10, 1].map fun unit => '0'.toNat + n / unit % 10

theorem longId_characters (n : Nat) :
    ∀ code ∈ longId n, 0x20 ≤ code ∧ code < 0x80 ∧ code ≠ 0x22 ∧ code ≠ 0x5C := by
  have ha : 'a'.toNat = 97 := by decide
  have hzero : '0'.toNat = 48 := by decide
  intro code hcode
  rcases List.mem_append.mp hcode with hcode | hcode
  · rw [List.eq_of_mem_replicate hcode]
    omega
  · obtain ⟨unit, -, rfl⟩ := List.mem_map.mp hcode
    have hdigit : n / unit % 10 < 10 := Nat.mod_lt _ (by decide)
    omega

theorem longId_length (n : Nat) : (longId n).length = 256 := by
  unfold longId
  rw [List.length_append, List.length_replicate, List.length_map]
  rfl

/-- Fifty thousand alerts with a title, and as many with these fields. -/
def longRecords (later : Members) : List AlertRecord :=
  ((List.range' 0 50000).map fun n => ⟨longId n, titleFields⟩)
    ++ (List.range' 50000 50000).map fun n => ⟨longId n, later⟩

theorem longRecords_id {later : Members} : ∀ record ∈ longRecords later, ∃ n, record.id = longId n := by
  intro record hrecord
  rcases List.mem_append.mp hrecord with hrecord | hrecord
  · obtain ⟨n, -, rfl⟩ := List.mem_map.mp hrecord
    exact ⟨n, rfl⟩
  · obtain ⟨n, -, rfl⟩ := List.mem_map.mp hrecord
    exact ⟨n, rfl⟩

theorem longRecords_length (later : Members) : (longRecords later).length = 100000 := by
  unfold longRecords
  rw [List.length_append, List.length_map, List.length_map, List.length_range', List.length_range']

theorem longRecords_read (later : Members) : ReadRecords (longRecords later) := by
  refine ⟨Nat.le_of_eq (longRecords_length later), fun record hrecord => ?_, fun record hrecord => ?_⟩
  · obtain ⟨n, hn⟩ := longRecords_id record hrecord
    exact Nat.le_of_eq (hn ▸ longId_length n)
  · obtain ⟨n, hn⟩ := longRecords_id record hrecord
    rw [hn]
    refine require_pos fun code hcode => ?_
    have hascii := (longId_characters n code hcode).2.1
    omega

theorem longRecords_adds : List.Forall₂ AddsFields (longRecords []) (longRecords titleFields) := by
  refine List.rel_append (List.forall₂_same.mpr fun record _ => ⟨rfl, fun _ _ h => h⟩) ?_
  rw [List.forall₂_map_left_iff, List.forall₂_map_right_iff]
  exact List.forall₂_same.mpr fun n _ => ⟨rfl, fun _ _ h => (by cases h)⟩

/-- The size of a document of such ids. -/
theorem longIds_fit {records : List AlertRecord} (h : ∀ record ∈ records, ∃ n, record.id = longId n) :
    IdsFit records ↔ 258 * records.length + (records.length - 1) + 2 ≤ defaultJsonLimits.maxBytes := by
  have hitems : itemsLength (records.map fun record => .string record.id) = 258 * records.length := by
    induction records with
    | nil => rfl
    | cons record records ih =>
      obtain ⟨n, hn⟩ := h record (List.mem_cons_self ..)
      rw [List.map_cons, itemsLength, ih fun other hother => h other (List.mem_cons_of_mem _ hother),
        canonicalLength, hn, plain_length (longId_characters n), longId_length, List.length_cons]
      omega
  unfold IdsFit
  rw [canonicalLength_eq, canonicalLength, hitems, List.length_map]

/-- An alert has a title, or may have one. -/
theorem longRecords_matched :
    matchedRecords titleCriterion.metric (longRecords [])
        = (List.range' 0 50000).map (fun n => ⟨longId n, titleFields⟩)
      ∧ indeterminateRecords titleCriterion.metric (longRecords [])
        = (List.range' 50000 50000).map (fun n => ⟨longId n, []⟩)
      ∧ matchedRecords titleCriterion.metric (longRecords titleFields) = longRecords titleFields := by
  refine ⟨?_, ?_, ?_⟩
  · refine (List.filter_append ..).trans ?_
    rw [List.filter_eq_self.mpr, List.filter_eq_nil_iff.mpr, List.append_nil]
    · intro record hrecord
      obtain ⟨n, -, rfl⟩ := List.mem_map.mp hrecord
      exact Bool.false_ne_true
    · intro record hrecord
      obtain ⟨n, -, rfl⟩ := List.mem_map.mp hrecord
      rfl
  · refine (List.filter_append ..).trans ?_
    rw [List.filter_eq_nil_iff.mpr, List.filter_eq_self.mpr, List.nil_append]
    · intro record hrecord
      obtain ⟨n, -, rfl⟩ := List.mem_map.mp hrecord
      rfl
    · intro record hrecord
      obtain ⟨n, -, rfl⟩ := List.mem_map.mp hrecord
      exact Bool.false_ne_true
  · refine List.filter_eq_self.mpr fun record hrecord => ?_
    rcases List.mem_append.mp hrecord with hrecord | hrecord
    · obtain ⟨n, -, rfl⟩ := List.mem_map.mp hrecord
      rfl
    · obtain ⟨n, -, rfl⟩ := List.mem_map.mp hrecord
      rfl

end ControlAssurance.Controls
