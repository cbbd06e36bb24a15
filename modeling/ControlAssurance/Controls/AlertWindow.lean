import ControlAssurance.Attestation.Rfc8785
import ControlAssurance.Values

/-!
# Alert windows

The criteria of a control profile over the records of one alert window. A record may lack fields, so
a predicate has three answers, a criterion counts an interval, and a comparison is decided only
when the whole interval decides it.
-/

namespace ControlAssurance.Controls

open Lib Attestation

/-! ## Limits -/

def maxRecords : Nat := 100000

def maxFields : Nat := 32

def maxCriteria : Nat := 64

def maxPredicates : Nat := 16

def maxLiteralText : Nat := 4096

/-- `_PROFILE_LIMITS`. -/
def profileLimits : JsonLimits where
  maxBytes := 1024 * 1024
  maxLineBytes := 1024 * 1024
  maxDepth := 24
  maxCollectionItems := 16384
  maxStringLength := 256 * 1024

/-- `_RECORD_LIMITS`. -/
def recordLimits : JsonLimits where
  maxBytes := 64 * 1024 * 1024
  maxLineBytes := 2 * 1024 * 1024
  maxDepth := 16
  maxCollectionItems := 200000
  maxStringLength := 1024 * 1024

/-! ## Names -/

def isLowerLetter (code : Nat) : Bool := 'a'.toNat ≤ code && code ≤ 'z'.toNat

def isUpperLetter (code : Nat) : Bool := 'A'.toNat ≤ code && code ≤ 'Z'.toNat

def isDigit (code : Nat) : Bool := '0'.toNat ≤ code && code ≤ '9'.toNat

/-- A text that starts with one class of characters and goes on with another. -/
def isName (first rest : Nat → Bool) (value : Text) : Bool :=
  value.length ≤ 128 && value.head?.any first && value.tail.all rest

/-- `PortableId`. -/
def isPortableId (value : Text) : Bool :=
  isName isLowerLetter (fun code =>
    isLowerLetter code || isDigit code || (text "._-").contains code) value

/-- `FieldName`. -/
def isFieldName (value : Text) : Bool :=
  value == text "@timestamp"
    || isName (fun code => isUpperLetter code || isLowerLetter code) (fun code =>
      isUpperLetter code || isLowerLetter code || isDigit code || (text "_.").contains code) value

/-- `profile_version`. -/
def isVersion (value : Text) : Bool :=
  value.length ≤ 64
    && (let parts := value.splitOn '.'.toNat
        parts.length == 3 && parts.all fun part => part ≠ [] && part.all isDigit)

/-- `_UUID_RE`. -/
def isUuid (value : Text) : Bool :=
  let hexadecimal := fun code => isDigit code || ('a'.toNat ≤ code && code ≤ 'f'.toNat)
  let parts := value.splitOn '-'.toNat
  parts.map List.length == [8, 4, 4, 4, 12] && parts.all (·.all hexadecimal)
    && (parts[2]?.bind List.head?).any (fun code => '1'.toNat ≤ code && code ≤ '5'.toNat)
    && (parts[3]?.bind List.head?).any (fun code => (text "89ab").contains code)

/-- Unique and sorted. -/
def uniqueSorted (values : List Text) : Prop :=
  values.Nodup ∧ values.Pairwise fun first second => textLe first second = true

instance (values : List Text) : Decidable (uniqueSorted values) :=
  inferInstanceAs (Decidable (_ ∧ _))

/-! ## Predicates -/

inductive Scalar where
  | string (value : Text)
  | int (value : Int)
  | bool (value : Bool)
deriving DecidableEq

def Scalar.json : Scalar → JsonValue
  | .string value => .string value
  | .int value => .int value
  | .bool value => .bool value

/-- `type(observed) is type(value) and observed == value`. -/
def Scalar.same : Scalar → JsonValue → Bool
  | .string value, .string observed => observed == value
  | .int value, .int observed => observed == value
  | .bool value, .bool observed => observed == value
  | _, _ => false

/-- `validate_value`. -/
def Scalar.validate : Scalar → Except String Unit
  | .string value => require ((utf8Text value).length ≤ maxLiteralText)
      "predicate text exceeds the profile limit"
  | _ => pure ()

inductive FieldPredicate where
  | exists (field : Text)
  | equals (field : Text) (value : Scalar)
  | contains (field : Text) (value : Scalar)
deriving DecidableEq

def FieldPredicate.field : FieldPredicate → Text
  | .exists field => field
  | .equals field _ => field
  | .contains field _ => field

def FieldPredicate.modelDump : FieldPredicate → JsonValue
  | .exists field => .dict [(text "kind", .string (text "exists")), (text "field", .string field)]
  | .equals field value => .dict [(text "kind", .string (text "equals")),
      (text "field", .string field), (text "value", value.json)]
  | .contains field value => .dict [(text "kind", .string (text "contains")),
      (text "field", .string field), (text "value", value.json)]

def FieldPredicate.validate (predicate : FieldPredicate) : Except String Unit := do
  require (isFieldName predicate.field = true) "field"
  match predicate with
  | .exists _ => pure ()
  | .equals _ value => value.validate
  | .contains _ value => value.validate

/-! ## Profiles -/

inductive Metric where
  | totalRecordCount
  | matchingRecordCount (all : List FieldPredicate)

def Metric.modelDump : Metric → JsonValue
  | .totalRecordCount => .dict [(text "kind", .string (text "total-record-count"))]
  | .matchingRecordCount all => .dict [(text "kind", .string (text "matching-record-count")),
      (text "all", .list (all.map FieldPredicate.modelDump))]

inductive Comparison where
  | eq
  | ge
  | le
deriving DecidableEq

def Comparison.value : Comparison → Text
  | .eq => text "eq"
  | .ge => text "ge"
  | .le => text "le"

structure Criterion where
  criterionId : Text
  description : Text
  metric : Metric
  comparison : Comparison
  expectedCount : Nat

def Criterion.modelDump (criterion : Criterion) : JsonValue :=
  .dict [(text "criterion_id", .string criterion.criterionId),
    (text "description", .string criterion.description),
    (text "metric", criterion.metric.modelDump),
    (text "comparison", .string criterion.comparison.value),
    (text "expected_count", .int criterion.expectedCount)]

inductive SourceKind where
  | elasticSecurity
  | defenderXdr
deriving DecidableEq

structure ElasticAlertSource where
  fields : List Text
  ruleUuids : List Text
  workflowStatuses : List Text
  alertStatuses : List Text

inductive AlertSource where
  | elastic (source : ElasticAlertSource)
  | defender

def AlertSource.kind : AlertSource → SourceKind
  | .elastic _ => .elasticSecurity
  | .defender => .defenderXdr

/-- `_DEFENDER_FIELDS`. -/
def defenderFields : List Text :=
  [text "AlertId", text "AttackTechniques", text "Category", text "DetectionSource",
    text "ServiceSource", text "Severity", text "Timestamp", text "Title"]

def AlertSource.allowedFields : AlertSource → List Text
  | .elastic source => source.fields
  | .defender => defenderFields

def AlertSource.modelDump : AlertSource → JsonValue
  | .elastic source =>
    let texts := fun values : List Text => JsonValue.list (values.map .string)
    .dict [(text "kind", .string (text "elastic-security")), (text "fields", texts source.fields),
      (text "rule_uuids", texts source.ruleUuids),
      (text "workflow_statuses", texts source.workflowStatuses),
      (text "alert_statuses", texts source.alertStatuses)]
  | .defender => .dict [(text "kind", .string (text "defender-xdr"))]

structure AlertWindowProfile where
  profileId : Text
  profileVersion : Text
  title : Text
  source : AlertSource
  criteria : List Criterion

def AlertWindowProfile.modelDump (profile : AlertWindowProfile) : JsonValue :=
  .dict [(text "media_type",
      .string (text "application/vnd.control-assurance.alert-window-profile.v1+json")),
    (text "schema_version", .string (text "1.0.0")),
    (text "profile_id", .string profile.profileId),
    (text "profile_version", .string profile.profileVersion),
    (text "title", .string profile.title),
    (text "claim_boundary", .string (text "observed-source-window-only")),
    (text "source", profile.source.modelDump),
    (text "criteria", .list (profile.criteria.map Criterion.modelDump))]

/-- The library calls, with SHA-256. -/
structure AlertRuntime extends CanonicalRuntime where
  sha256 : Bytes → Digest

variable (R : AlertRuntime)

/-- `unique_predicates`. -/
def Metric.validate : Metric → Except String Unit
  | .totalRecordCount => pure ()
  | .matchingRecordCount all => do
    require (1 ≤ all.length ∧ all.length ≤ maxPredicates) "all"
    all.forM FieldPredicate.validate
    let canonical ← all.mapM fun predicate =>
      canonicalJsonBytes R.toCanonicalRuntime defaultJsonLimits predicate.modelDump
    require canonical.Nodup "matching criterion contains duplicate predicates"

def Criterion.validate (criterion : Criterion) : Except String Unit := do
  require (isPortableId criterion.criterionId = true) "criterion_id"
  require (1 ≤ criterion.description.length ∧ criterion.description.length ≤ 512) "description"
  criterion.metric.validate R
  require (criterion.expectedCount ≤ maxRecords) "expected_count"

def AlertSource.validate : AlertSource → Except String Unit
  | .elastic source => do
    require (1 ≤ source.fields.length ∧ source.fields.length ≤ maxFields
      ∧ ∀ field ∈ source.fields, isFieldName field = true) "fields"
    require (text "@timestamp" ∈ source.fields) "Elastic profile fields must include @timestamp"
    require (uniqueSorted source.fields) "Elastic profile fields must be unique and sorted"
    require (source.ruleUuids.length ≤ 256) "rule_uuids"
    require ((∀ item ∈ source.ruleUuids, isUuid item = true) ∧ uniqueSorted source.ruleUuids)
      "Elastic rule UUIDs must be unique sorted canonical UUIDs"
    require (source.workflowStatuses.length ≤ 3) "workflow_statuses"
    require ((∀ item ∈ source.workflowStatuses,
        item ∈ [text "acknowledged", text "closed", text "open"])
      ∧ uniqueSorted source.workflowStatuses) "Elastic workflow statuses are invalid"
    require (source.alertStatuses.length ≤ 2) "alert_statuses"
    require ((∀ item ∈ source.alertStatuses, item ∈ [text "active", text "recovered"])
      ∧ uniqueSorted source.alertStatuses) "Elastic alert statuses are invalid"
  | .defender => pure ()

/-- The checks of `validate_profile` on one predicate. -/
def checkPredicate (source : AlertSource) (predicate : FieldPredicate) : Except String Unit := do
  require (predicate.field ∈ source.allowedFields)
    "criterion field is not supplied by the selected source"
  match source, predicate with
  | .defender, .contains _ _ =>
    throw "Defender AlertInfo fields are scalar; contains is invalid"
  | _, _ => pure ()

/-- `AlertWindowProfile`, as it is validated. -/
def AlertWindowProfile.validate (profile : AlertWindowProfile) : Except String Unit := do
  require (isPortableId profile.profileId = true) "profile_id"
  require (isVersion profile.profileVersion = true) "profile_version"
  require (1 ≤ profile.title.length ∧ profile.title.length ≤ 160) "title"
  profile.source.validate
  require (1 ≤ profile.criteria.length ∧ profile.criteria.length ≤ maxCriteria) "criteria"
  profile.criteria.forM (Criterion.validate R)
  require (profile.criteria.map (·.criterionId)).Nodup
    "control profile criterion ids must be unique"
  require (uniqueSorted (profile.criteria.map (·.criterionId)))
    "control profile criteria must be sorted by id"
  profile.criteria.forM fun criterion => match criterion.metric with
    | .totalRecordCount => pure ()
    | .matchingRecordCount all => all.forM (checkPredicate profile.source)

/-- `AlertWindowProfile.digest`. -/
def AlertWindowProfile.digest (profile : AlertWindowProfile) : Except String Digest := do
  let canonical ← canonicalJsonBytes R.toCanonicalRuntime profileLimits profile.modelDump
  pure (R.sha256 canonical)

/-! ## Records -/

/-- The records of the line format are the dictionaries. -/
def AlertRuntime.lines : LineCodec JsonValue Members Text where
  strictJsonLoads := strictJsonLoads R.toJsonRuntime
  canonicalJsonBytes := canonicalJsonBytes R.toCanonicalRuntime
  record? := fun value => (asDict value).toOption
  identity? := fun members => match members.lookup (text "id") with
    | some (.string identity) => some identity
    | _ => none
  le := textLe

/-- A record of the window. -/
structure AlertRecord where
  id : Text
  fields : Members

/-- The keys of a record's envelope. -/
def AlertSource.expectedKeys : AlertSource → List Text
  | .elastic _ => [text "cursor", text "fields", text "id"]
  | .defender => [text "fields", text "id"]

/-- One record of `_records`. -/
def readRecord (source : AlertSource) (item : Members) : Except String AlertRecord := do
  let names := item.map (·.1)
  require ((∀ name ∈ names, name ∈ source.expectedKeys) ∧ ∀ name ∈ source.expectedKeys, name ∈ names)
    "source record has an unexpected envelope"
  match item.lookup (text "id"), item.lookup (text "fields") with
  | some (.string id), some (.dict fields) => do
    require (id ≠ [] ∧ id.length ≤ 256 ∧ ∀ member ∈ fields, member.1 ∈ source.allowedFields)
      "source record fields are outside the control profile"
    pure ⟨id, fields⟩
  | _, _ => throw "source record fields are outside the control profile"

/-- `_records`. -/
def readRecords (profile : AlertWindowProfile) (value : Bytes) :
    Except String (List AlertRecord) := do
  let parsed ← (strictJsonlLoads R.lines recordLimits true value).mapError fun _ =>
    "source records are not canonical sorted JSONL"
  require (parsed.length ≤ maxRecords) "source record count exceeds the profile"
  parsed.mapM (readRecord profile.source)

/-! ## Evaluation -/

/-- `_predicate_result`. -/
def predicateResult (predicate : FieldPredicate) (fields : Members) : Option Bool :=
  match fields.lookup predicate.field with
  | none => none
  | some observed =>
    match predicate with
    | .exists _ => some true
    | .equals _ value => some (value.same observed)
    | .contains _ value =>
      match observed with
      | .list items => some (items.any value.same)
      | _ => none

inductive Decision where
  | supported
  | refuted
  | unresolved
deriving DecidableEq

/-- `_comparison_decision`. -/
def comparisonDecision (comparison : Comparison) (expected lower upper : Nat) : Decision :=
  match comparison with
  | .ge =>
    if expected ≤ lower then .supported
    else if upper < expected then .refuted
    else .unresolved
  | .le =>
    if upper ≤ expected then .supported
    else if expected < lower then .refuted
    else .unresolved
  | .eq =>
    if lower = upper ∧ upper = expected then .supported
    else if expected < lower ∨ upper < expected then .refuted
    else .unresolved

inductive ReasonCode where
  | comparisonSatisfied
  | comparisonRefuted
  | insufficientFieldEvidence
deriving DecidableEq

/-- The reason that belongs to a decision. -/
def Decision.reason : Decision → ReasonCode
  | .supported => .comparisonSatisfied
  | .refuted => .comparisonRefuted
  | .unresolved => .insufficientFieldEvidence

structure CriterionEvaluation where
  criterionId : Text
  comparison : Comparison
  expectedCount : Nat
  observedLowerBound : Nat
  observedUpperBound : Nat
  indeterminateRecordCount : Nat
  matchedRecordIdsDigest : Digest
  indeterminateRecordIdsDigest : Digest
  decision : Decision
  reasonCode : ReasonCode

/-- `CriterionEvaluation`, as it is validated. -/
def CriterionEvaluation.validate (e : CriterionEvaluation) : Except String Unit := do
  require (isPortableId e.criterionId = true) "criterion_id"
  require (e.expectedCount ≤ maxRecords) "expected_count"
  require (e.observedLowerBound ≤ maxRecords) "observed_lower_bound"
  require (e.observedUpperBound ≤ maxRecords) "observed_upper_bound"
  require (e.indeterminateRecordCount ≤ maxRecords) "indeterminate_record_count"
  require (e.observedLowerBound ≤ e.observedUpperBound) "criterion evaluation interval is reversed"
  require (e.observedUpperBound - e.observedLowerBound = e.indeterminateRecordCount)
    "criterion interval does not close over uncertainty"
  require (e.reasonCode = e.decision.reason) "criterion decision and reason disagree"

/-- `_ids_digest`. -/
def idsDigest (values : List Text) : Except String Digest := do
  let canonical ← canonicalJsonBytes R.toCanonicalRuntime defaultJsonLimits
    (.list (values.map .string))
  pure (R.sha256 canonical)

/-- The records that a criterion's predicates all match. -/
def matchedRecords (metric : Metric) (records : List AlertRecord) : List AlertRecord :=
  match metric with
  | .totalRecordCount => records
  | .matchingRecordCount all => records.filter fun record =>
      all.all fun predicate => predicateResult predicate record.fields == some true

/-- The records that are not among these and that no predicate rules out. -/
def indeterminateRecords (metric : Metric) (records : List AlertRecord) : List AlertRecord :=
  match metric with
  | .totalRecordCount => []
  | .matchingRecordCount all => records.filter fun record =>
      !(all.all fun predicate => predicateResult predicate record.fields == some true)
        && !(all.any fun predicate => predicateResult predicate record.fields == some false)

/-- `_evaluate_criterion`. -/
def evaluateCriterion (criterion : Criterion) (records : List AlertRecord) :
    Except String CriterionEvaluation := do
  let matched := (matchedRecords criterion.metric records).map (·.id)
  let indeterminate := (indeterminateRecords criterion.metric records).map (·.id)
  let lower := matched.length
  let upper := lower + indeterminate.length
  let decision := comparisonDecision criterion.comparison criterion.expectedCount lower upper
  let matchedDigest ← idsDigest R matched
  let indeterminateDigest ← idsDigest R indeterminate
  let evaluation : CriterionEvaluation :=
    { criterionId := criterion.criterionId, comparison := criterion.comparison,
      expectedCount := criterion.expectedCount, observedLowerBound := lower,
      observedUpperBound := upper, indeterminateRecordCount := indeterminate.length,
      matchedRecordIdsDigest := matchedDigest,
      indeterminateRecordIdsDigest := indeterminateDigest, decision, reasonCode := decision.reason }
  evaluation.validate
  pure evaluation

/-- The decision over all criteria. -/
def overallDecision (criteria : List CriterionEvaluation) : Decision :=
  if criteria.any (·.decision == .refuted) then .refuted
  else if criteria.any (·.decision == .unresolved) then .unresolved
  else .supported

structure AlertWindowEvaluation where
  profileId : Text
  profileDigest : Digest
  sourceKind : SourceKind
  recordsDigest : Digest
  recordCount : Nat
  windowStart : Int
  windowEnd : Int
  criteria : List CriterionEvaluation
  decision : Decision

/-- A time in microseconds on a whole second. -/
def wholeSecond (time : Int) : Prop := time % 1000000 = 0

instance (time : Int) : Decidable (wholeSecond time) := inferInstanceAs (Decidable (_ = _))

/-- `AlertWindowEvaluation`, as it is validated. -/
def AlertWindowEvaluation.validate (e : AlertWindowEvaluation) : Except String Unit := do
  require (isPortableId e.profileId = true) "profile_id"
  require (e.recordCount ≤ maxRecords) "record_count"
  require (wholeSecond e.windowStart ∧ wholeSecond e.windowEnd)
    "evaluation window must use whole UTC seconds"
  require (1 ≤ e.criteria.length ∧ e.criteria.length ≤ maxCriteria) "criteria"
  require (e.windowStart < e.windowEnd) "evaluation window must be non-empty"
  require (uniqueSorted (e.criteria.map (·.criterionId)))
    "evaluation criteria must be unique and sorted"
  require (e.decision = overallDecision e.criteria)
    "overall decision does not follow criterion decisions"

/-- The arguments of an evaluation besides the profile and the records. -/
structure EvaluationCall where
  expectedProfileDigest : Digest
  sourceKind : SourceKind
  windowStart : Int
  windowEnd : Int

/-- The checks before the records are read. -/
def checkCall (profile : AlertWindowProfile) (call : EvaluationCall) : Except String Digest := do
  let digest ← profile.digest R
  require (digest = call.expectedProfileDigest)
    "profile digest does not match its external anchor"
  require (call.sourceKind = profile.source.kind) "profile and connector source kinds differ"
  require (wholeSecond call.windowStart ∧ wholeSecond call.windowEnd)
    "evaluation window is invalid"
  require (call.windowStart < call.windowEnd) "evaluation window must be non-empty"
  pure digest

/-- `evaluate_alert_window`, once the records are read. -/
def evaluateRecords (profile : AlertWindowProfile) (call : EvaluationCall)
    (digest recordsDigest : Digest) (records : List AlertRecord) :
    Except String AlertWindowEvaluation := do
  let criteria ← profile.criteria.mapM fun criterion => evaluateCriterion R criterion records
  let evaluation : AlertWindowEvaluation :=
    { profileId := profile.profileId, profileDigest := digest, sourceKind := call.sourceKind,
      recordsDigest, recordCount := records.length, windowStart := call.windowStart,
      windowEnd := call.windowEnd, criteria, decision := overallDecision criteria }
  evaluation.validate
  pure evaluation

/-- `evaluate_alert_window`. -/
def evaluateAlertWindow (profile : AlertWindowProfile) (call : EvaluationCall)
    (recordsJsonl : Bytes) : Except String AlertWindowEvaluation := do
  let digest ← checkCall R profile call
  let records ← readRecords R profile recordsJsonl
  evaluateRecords R profile call digest (R.sha256 recordsJsonl) records

end ControlAssurance.Controls
