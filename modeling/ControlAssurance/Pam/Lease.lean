import Mathlib.Algebra.Group.Int.Defs
import ControlAssurance.Lib.Checked
import ControlAssurance.Lib.Table
import ControlAssurance.Values

/-!
# Elastic leases and their two journals

`connectors/elastic_pam.py` keeps one row for each short-lived API key it asks Elasticsearch
for. A lease is `prepared` before the key is created, `active` once the key is known,
`revoke-pending` before the key is invalidated and `revoked` once that was confirmed.

Two stores keep the rows. `SQLiteElasticLeaseJournal` decides each transition in the `WHERE`
clause of one update. `PostgresElasticLeaseJournal` does the same and has, below it, the row
constraints and the triggers of `pam-journal-schema.sql`. Both are here, method by method.

A lease id is 64 lower-case hexadecimal digits, so it is a 256-bit value and the text order of
two ids is their numeric order; a key name is `control-assurance-` and 32 such digits. The rows
are those of one journal namespace: no statement reads or writes another one's.
-/

namespace ControlAssurance.Pam

open Lib

abbrev LeaseId := BitVec 256

abbrev KeyName := BitVec 128

/-- Milliseconds since the Unix epoch. -/
abbrev Millis := Int

/-! ## Texts -/

/-- `str.split` without arguments splits at these. -/
def pythonSpace (c : Char) : Bool :=
  (0x09 ≤ c.toNat && c.toNat ≤ 0x0d) || (0x1c ≤ c.toNat && c.toNat ≤ 0x20)
    || c.toNat == 0x85 || c.toNat == 0xa0 || c.toNat == 0x1680
    || (0x2000 ≤ c.toNat && c.toNat ≤ 0x200a) || c.toNat == 0x2028 || c.toNat == 0x2029
    || c.toNat == 0x202f || c.toNat == 0x205f || c.toNat == 0x3000

/-- `" ".join(text.split())`. -/
def joinWords (text : List Char) : List Char :=
  [' '].intercalate ((text.splitOnP pythonSpace).filter (· ≠ []))

/-- `_MAX_ERROR_LENGTH` -/
def maxErrorLength : Nat := 512

/-- The text a journal stores for a reason. -/
def normalizeError (reason : List Char) : List Char := (joinWords reason).take maxErrorLength

/-- The characters of `[A-Za-z0-9_-]`. -/
def keyIdChar (c : Char) : Bool := c.isAlphanum || c == '_' || c == '-'

/-- `_KEY_ID_RE` -/
def keyIdText (s : List Char) : Bool := 1 ≤ s.length && s.length ≤ 512 && s.all keyIdChar

def aliasChar (c : Char) : Bool := c.isLower || c.isDigit || c == '_' || c == '-'

/-- `_ALERT_ALIAS_RE` -/
def alertAlias (s : List Char) : Bool :=
  let stem := ".alerts-security.alerts-".toList
  s.take stem.length == stem && match s.drop stem.length with
    | [] => false
    | c :: rest => (c.isLower || c.isDigit) && rest.length ≤ 63 && rest.all aliasChar

/-- What a `bigint` column holds. -/
def maxBigint : Int := 2 ^ 63 - 1

/-- What an `integer` column holds. -/
def maxInteger : Int := 2 ^ 31 - 1

/-! ## Leases -/

inductive LeaseState where
  | prepared | active | revokePending | revoked
deriving DecidableEq

/-- `ElasticPamPolicy`, as `__post_init__` leaves it. -/
structure ElasticPamPolicy where
  indexAlias : List Char
  ttlSeconds : Int
  aliasExact : alertAlias indexAlias = true
  ttlBounded : 120 ≤ ttlSeconds ∧ ttlSeconds ≤ 3600

structure ElasticLeaseRecord where
  leaseId : LeaseId
  keyName : KeyName
  indexAlias : List Char
  requestDigest : Digest
  endpointOriginDigest : Digest
  roleDescriptorDigest : Digest
  ttlSeconds : Int
  state : LeaseState
  keyId : Option (List Char)
  expirationEpochMillis : Option Millis
  createdEpochMillis : Millis
  activatedEpochMillis : Option Millis
  revokedEpochMillis : Option Millis
  revokeAttempts : Int
  revision : Int
  lastError : Option (List Char)
deriving DecidableEq

/-- What a call raises. An integer that no column can hold is refused by the driver. -/
inductive LeaseError where
  | elasticPam (stage reason : String)
  | valueError (reason : String)
  | overflowError
deriving DecidableEq

/-- `ElasticPamError("journal", reason)` -/
def journalError (reason : String) : LeaseError := .elasticPam "journal" reason

def LeaseError.isElasticPam : LeaseError → Bool
  | .elasticPam .. => true
  | _ => false

/-- `ElasticLeaseRecord.__post_init__`: what the types do not say already. -/
def ElasticLeaseRecord.exact (r : ElasticLeaseRecord) : Except LeaseError ElasticLeaseRecord := do
  require (alertAlias r.indexAlias = true) (LeaseError.valueError "lease index alias is invalid")
  require (∀ k ∈ r.keyId, keyIdText k = true) (LeaseError.valueError "lease key id is invalid")
  pure r

abbrev LeaseRows := List ElasticLeaseRecord

/-! ## Calls -/

inductive LeaseCall where
  | prepare (leaseId : LeaseId) (keyName : KeyName) (policy : ElasticPamPolicy)
      (requestDigest endpointOriginDigest : Digest) (nowEpochMillis : Millis)
  | activate (leaseId : LeaseId) (expectedRevision : Int) (keyId : List Char)
      (expirationEpochMillis nowEpochMillis : Millis)
  | beginRevocation (leaseId : LeaseId) (expectedRevision : Int) (reason : Option (List Char))
  | markRevoked (leaseId : LeaseId) (expectedRevision : Int) (nowEpochMillis : Millis)
  | get (leaseId : LeaseId)
  | unsettled (limit : Int)
  | recordsForRequestDigest (requestDigest : Digest) (unsettledOnly : Bool) (limit : Int)

/-- What a call returns. -/
inductive LeaseAnswer where
  | record (r : ElasticLeaseRecord)
  | records (rs : List ElasticLeaseRecord)
deriving DecidableEq

abbrev LeaseResult := Except LeaseError (LeaseRows × LeaseAnswer)

/-- `ORDER BY created_epoch_millis, lease_id` -/
def createdBefore (a b : ElasticLeaseRecord) : Bool :=
  decide (a.createdEpochMillis < b.createdEpochMillis)
    || (decide (a.createdEpochMillis = b.createdEpochMillis)
      && decide (a.leaseId.toNat ≤ b.leaseId.toNat))

/-- The rows of a selection, in order and at most `limit` of them. -/
def selectRows (rows : LeaseRows) (selected : ElasticLeaseRecord → Bool) (limit : Int) :
    LeaseRows :=
  ((rows.filter selected).mergeSort createdBefore).take limit.toNat

/-- `"recovery limit is outside the supported range"` -/
def checkLimit (limit : Int) : Except LeaseError Unit :=
  require (1 ≤ limit ∧ limit ≤ 10000)
    (LeaseError.valueError "recovery limit is outside the supported range")

/-- The rows a request's recovery is about. -/
def ofRequest (requestDigest : Digest) (unsettledOnly : Bool) (r : ElasticLeaseRecord) : Bool :=
  decide (r.requestDigest = requestDigest)
    && (!unsettledOnly || decide (r.state ≠ .revoked))

section

variable (descriptorDigest : List Char → Digest)

/-- The row `prepare` inserts. -/
def preparedRow (leaseId : LeaseId) (keyName : KeyName) (policy : ElasticPamPolicy)
    (requestDigest endpointOriginDigest : Digest) (now : Millis) : ElasticLeaseRecord :=
  { leaseId := leaseId
    keyName := keyName
    indexAlias := policy.indexAlias
    requestDigest := requestDigest
    endpointOriginDigest := endpointOriginDigest
    roleDescriptorDigest := descriptorDigest policy.indexAlias
    ttlSeconds := policy.ttlSeconds
    state := .prepared
    keyId := none
    expirationEpochMillis := none
    createdEpochMillis := now
    activatedEpochMillis := none
    revokedEpochMillis := none
    revokeAttempts := 0
    revision := 0
    lastError := none }

end

/-- `SET` of `activate`. -/
def ElasticLeaseRecord.activated (r : ElasticLeaseRecord) (keyId : List Char)
    (expiration now : Millis) : ElasticLeaseRecord :=
  { r with
    state := .active
    keyId := some keyId
    expirationEpochMillis := some expiration
    activatedEpochMillis := some now
    revision := r.revision + 1
    lastError := none }

/-- `SET` of `begin_revocation`. -/
def ElasticLeaseRecord.revoking (r : ElasticLeaseRecord) (reason : Option (List Char)) :
    ElasticLeaseRecord :=
  { r with
    state := .revokePending
    revokeAttempts := r.revokeAttempts + 1
    revision := r.revision + 1
    lastError := reason.map normalizeError }

/-- `SET` of `mark_revoked`. -/
def ElasticLeaseRecord.settled (r : ElasticLeaseRecord) (now : Millis) : ElasticLeaseRecord :=
  { r with
    state := .revoked
    revokedEpochMillis := some now
    revision := r.revision + 1
    lastError := none }

/-- `WHERE lease_id = … AND revision = … AND state IN …` -/
def ElasticLeaseRecord.matching (leaseId : LeaseId) (revision : Int) (states : List LeaseState)
    (r : ElasticLeaseRecord) : Bool :=
  decide (r.leaseId = leaseId ∧ r.revision = revision ∧ r.state ∈ states)

/-- The states `begin_revocation` starts from. -/
def unsettledStates : List LeaseState := [.prepared, .active, .revokePending]

/-! ## SQLite -/

namespace SQLiteElasticLeaseJournal

/-- Binding a parameter. -/
def bindInteger (x : Int) : Except LeaseError Unit :=
  require (-(2 ^ 63) ≤ x ∧ x ≤ maxBigint) LeaseError.overflowError

def get (rows : LeaseRows) (leaseId : LeaseId) : LeaseResult := do
  let row ← expect (rows.find? fun r => decide (r.leaseId = leaseId))
    (journalError "lease does not exist")
  let r ← row.exact
  pure (rows, .record r)

/-- One update of at most one row, and the row read back. -/
def update (rows : LeaseRows) (leaseId : LeaseId) (revision : Int) (states : List LeaseState)
    (set : ElasticLeaseRecord → ElasticLeaseRecord) (lost : String) : LeaseResult := do
  bindInteger revision
  require (rows.countP (·.matching leaseId revision states) = 1) (journalError lost)
  get (updateWhere (·.matching leaseId revision states) set rows) leaseId

def select (rows : LeaseRows) (selected : ElasticLeaseRecord → Bool) (limit : Int) :
    LeaseResult := do
  checkLimit limit
  let rs ← (selectRows rows selected limit).mapM (·.exact)
  pure (rows, .records rs)

def run (descriptorDigest : List Char → Digest) (rows : LeaseRows) : LeaseCall → LeaseResult
  | .prepare leaseId keyName policy requestDigest endpointOriginDigest now => do
    bindInteger now
    -- the primary key and the unique key name
    require (∀ r ∈ rows, r.leaseId ≠ leaseId ∧ r.keyName ≠ keyName)
      (journalError "lease identity was already used")
    get (rows ++ [preparedRow descriptorDigest leaseId keyName policy requestDigest
      endpointOriginDigest now]) leaseId
  | .activate leaseId expectedRevision keyId expiration now => do
    require (keyIdText keyId = true) (LeaseError.valueError "key id is invalid")
    bindInteger expiration
    bindInteger now
    update rows leaseId expectedRevision [.prepared] (·.activated keyId expiration now)
      "lease activation lost its state transition"
  | .beginRevocation leaseId expectedRevision reason =>
    update rows leaseId expectedRevision unsettledStates (·.revoking reason)
      "lease revocation lost its state transition"
  | .markRevoked leaseId expectedRevision now => do
    bindInteger now
    update rows leaseId expectedRevision [.revokePending] (·.settled now)
      "lease finalization lost its state transition"
  | .get leaseId => get rows leaseId
  | .unsettled limit => select rows (fun r => decide (r.state ≠ .revoked)) limit
  | .recordsForRequestDigest requestDigest unsettledOnly limit =>
    select rows (ofRequest requestDigest unsettledOnly) limit

end SQLiteElasticLeaseJournal

/-! ## PostgreSQL -/

/-- The character class `[[:cntrl:]]` of the database's locale. Every locale agrees on the
ASCII characters. -/
structure PostgresCtype where
  cntrl : Char → Bool
  ascii : ∀ c : Char, c.toNat < 128 → (cntrl c = true ↔ c.toNat < 32 ∨ c.toNat = 127)

/-- What the database raises, by class of SQLSTATE. -/
inductive PostgresFault where
  | uniqueViolation | triggerRaised | checkViolation | outOfRange
deriving DecidableEq

/-- How `_transaction` reports a fault. -/
def PostgresFault.reported : PostgresFault → LeaseError
  | .uniqueViolation | .triggerRaised => journalError "PostgreSQL PAM journal write conflicted"
  | .checkViolation | .outOfRange => journalError "PostgreSQL PAM journal is unavailable"

/-- Every other exception inside `_transaction`. -/
def unavailable : LeaseError := journalError "PostgreSQL PAM journal is unavailable"

/-- The columns of a key are all set or all absent. -/
def ElasticLeaseRecord.keyShape (r : ElasticLeaseRecord) : Prop :=
  (r.keyId = none ∧ r.expirationEpochMillis = none ∧ r.activatedEpochMillis = none)
    ∨ (r.keyId ≠ none ∧ r.expirationEpochMillis ≠ none ∧ r.activatedEpochMillis ≠ none)

instance (r : ElasticLeaseRecord) : Decidable r.keyShape := by
  delta ElasticLeaseRecord.keyShape; infer_instance

/-- `elastic_jit_lease_state_shape` -/
def ElasticLeaseRecord.stateShape (r : ElasticLeaseRecord) : Prop :=
  match r.state with
  | .prepared => r.revision = 0 ∧ r.keyId = none ∧ r.expirationEpochMillis = none
      ∧ r.activatedEpochMillis = none ∧ r.revokedEpochMillis = none ∧ r.revokeAttempts = 0
      ∧ r.lastError = none
  | .active => r.revision = 1 ∧ r.keyId ≠ none ∧ r.expirationEpochMillis ≠ none
      ∧ r.activatedEpochMillis ≠ none ∧ r.revokedEpochMillis = none ∧ r.revokeAttempts = 0
      ∧ r.lastError = none
  | .revokePending => 1 ≤ r.revision ∧ r.revokedEpochMillis = none ∧ 1 ≤ r.revokeAttempts
      ∧ r.keyShape
  | .revoked => 2 ≤ r.revision ∧ r.revokedEpochMillis ≠ none ∧ 1 ≤ r.revokeAttempts
      ∧ r.lastError = none ∧ r.keyShape

instance (r : ElasticLeaseRecord) : Decidable r.stateShape := by
  unfold ElasticLeaseRecord.stateShape; cases r.state <;> infer_instance

/-- The constraints on a row of `elastic_jit_leases`. -/
def ElasticLeaseRecord.checks (ctype : PostgresCtype) (r : ElasticLeaseRecord) : Prop :=
  alertAlias r.indexAlias = true ∧ (120 ≤ r.ttlSeconds ∧ r.ttlSeconds ≤ 3600)
    ∧ (∀ k ∈ r.keyId, keyIdText k = true)
    ∧ (∀ e ∈ r.expirationEpochMillis, 0 ≤ e)
    ∧ 0 ≤ r.createdEpochMillis
    ∧ (∀ a ∈ r.activatedEpochMillis, r.createdEpochMillis ≤ a)
    ∧ (∀ v ∈ r.revokedEpochMillis, r.createdEpochMillis ≤ v)
    ∧ 0 ≤ r.revokeAttempts ∧ 0 ≤ r.revision
    ∧ (∀ t ∈ r.lastError, (1 ≤ t.length ∧ t.length ≤ 512) ∧ ∀ c ∈ t, ctype.cntrl c = false)
    -- elastic_jit_lease_expiration_after_activation
    ∧ (∀ e ∈ r.expirationEpochMillis, ∃ a ∈ r.activatedEpochMillis, a < e)
    -- elastic_jit_lease_revocation_after_activation
    ∧ (∀ a ∈ r.activatedEpochMillis, ∀ v ∈ r.revokedEpochMillis, a ≤ v)
    ∧ r.stateShape

instance (ctype : PostgresCtype) (r : ElasticLeaseRecord) : Decidable (r.checks ctype) := by
  delta ElasticLeaseRecord.checks; infer_instance

/-- `reject_elastic_lease_identity_change` -/
def ElasticLeaseRecord.sameIdentity (old new : ElasticLeaseRecord) : Prop :=
  new.leaseId = old.leaseId ∧ new.keyName = old.keyName ∧ new.indexAlias = old.indexAlias
    ∧ new.requestDigest = old.requestDigest
    ∧ new.endpointOriginDigest = old.endpointOriginDigest
    ∧ new.roleDescriptorDigest = old.roleDescriptorDigest ∧ new.ttlSeconds = old.ttlSeconds
    ∧ new.createdEpochMillis = old.createdEpochMillis

instance (old new : ElasticLeaseRecord) : Decidable (old.sameIdentity new) := by
  delta ElasticLeaseRecord.sameIdentity; infer_instance

/-- The columns of the key are kept. -/
def ElasticLeaseRecord.sameKey (old new : ElasticLeaseRecord) : Prop :=
  new.keyId = old.keyId ∧ new.expirationEpochMillis = old.expirationEpochMillis
    ∧ new.activatedEpochMillis = old.activatedEpochMillis

instance (old new : ElasticLeaseRecord) : Decidable (old.sameKey new) := by
  delta ElasticLeaseRecord.sameKey; infer_instance

/-- `reject_elastic_lease_invalid_transition` -/
def ElasticLeaseRecord.mayBecome (old new : ElasticLeaseRecord) : Prop :=
  (old.state = .prepared ∧ new.state = .active ∧ new.revision = old.revision + 1
      ∧ new.revokeAttempts = old.revokeAttempts
      ∧ new.revokedEpochMillis = old.revokedEpochMillis ∧ new.lastError = none)
    ∨ (old.state ∈ unsettledStates ∧ new.state = .revokePending
      ∧ new.revision = old.revision + 1 ∧ new.revokeAttempts = old.revokeAttempts + 1
      ∧ old.sameKey new ∧ new.revokedEpochMillis = old.revokedEpochMillis)
    ∨ (old.state = .revokePending ∧ new.state = .revoked ∧ new.revision = old.revision + 1
      ∧ new.revokeAttempts = old.revokeAttempts ∧ old.sameKey new
      ∧ new.revokedEpochMillis ≠ none ∧ new.lastError = none)

instance (old new : ElasticLeaseRecord) : Decidable (old.mayBecome new) := by
  delta ElasticLeaseRecord.mayBecome; infer_instance

namespace PostgresElasticLeaseJournal

/-- `_require_nonnegative_integer` -/
def nonnegative (x : Int) (label : String) : Except LeaseError Unit :=
  require (0 ≤ x ∧ x ≤ maxBigint)
    (LeaseError.valueError (label ++ " is outside the PostgreSQL bigint range"))

/-- `_normalize_error` refuses a reason of spaces. -/
def checkReason (reason : Option (List Char)) : Except LeaseError Unit :=
  require (∀ t ∈ reason, joinWords t ≠ [])
    (LeaseError.valueError "journal error must contain non-whitespace text")

/-- `_record`, inside the transaction. -/
def record (row : ElasticLeaseRecord) : Except LeaseError ElasticLeaseRecord :=
  match row.exact with
  | .ok r => .ok r
  | .error _ => .error unavailable

section

variable (ctype : PostgresCtype)

def get (rows : LeaseRows) (leaseId : LeaseId) : LeaseResult := do
  let row ← expect (rows.find? fun r => decide (r.leaseId = leaseId))
    (journalError "lease does not exist")
  let r ← record row
  pure (rows, .record r)

/-- `INSERT … RETURNING *`: the row constraints, then the two unique indexes. -/
def insert (rows : LeaseRows) (row : ElasticLeaseRecord) : LeaseResult := do
  require (row.checks ctype) PostgresFault.checkViolation.reported
  require (∀ r ∈ rows, r.leaseId ≠ row.leaseId ∧ r.keyName ≠ row.keyName)
    PostgresFault.uniqueViolation.reported
  let r ← record row
  pure (rows ++ [row], .record r)

/-- The new version of a row: arithmetic in the column types, the triggers, the constraints. -/
def newVersion (old new : ElasticLeaseRecord) : Except LeaseError Unit := do
  require (new.revokeAttempts ≤ maxInteger ∧ new.revision ≤ maxBigint)
    PostgresFault.outOfRange.reported
  require (old.sameIdentity new) PostgresFault.triggerRaised.reported
  require (old.mayBecome new) PostgresFault.triggerRaised.reported
  require (new.checks ctype) PostgresFault.checkViolation.reported

/-- `UPDATE … RETURNING *`. -/
def update (rows : LeaseRows) (leaseId : LeaseId) (revision : Int) (states : List LeaseState)
    (set : ElasticLeaseRecord → ElasticLeaseRecord) (lost : String) : LeaseResult := do
  let old ← expect (rows.find? (·.matching leaseId revision states)) (journalError lost)
  newVersion ctype old (set old)
  let r ← record (set old)
  pure (updateWhere (·.matching leaseId revision states) set rows, .record r)

def select (rows : LeaseRows) (selected : ElasticLeaseRecord → Bool) (limit : Int) :
    LeaseResult := do
  checkLimit limit
  let rs ← (selectRows rows selected limit).mapM record
  pure (rows, .records rs)

def run (descriptorDigest : List Char → Digest) (rows : LeaseRows) : LeaseCall → LeaseResult
  | .prepare leaseId keyName policy requestDigest endpointOriginDigest now => do
    nonnegative now "created time"
    insert ctype rows (preparedRow descriptorDigest leaseId keyName policy requestDigest
      endpointOriginDigest now)
  | .activate leaseId expectedRevision keyId expiration now => do
    require (keyIdText keyId = true) (LeaseError.valueError "key id is invalid")
    nonnegative expectedRevision "expected revision"
    nonnegative expiration "expiration"
    nonnegative now "activation time"
    require (now < expiration) (LeaseError.valueError "expiration must follow activation")
    update ctype rows leaseId expectedRevision [.prepared] (·.activated keyId expiration now)
      "lease activation lost its state transition"
  | .beginRevocation leaseId expectedRevision reason => do
    nonnegative expectedRevision "expected revision"
    checkReason reason
    update ctype rows leaseId expectedRevision unsettledStates (·.revoking reason)
      "lease revocation lost its state transition"
  | .markRevoked leaseId expectedRevision now => do
    nonnegative expectedRevision "expected revision"
    nonnegative now "revocation time"
    update ctype rows leaseId expectedRevision [.revokePending] (·.settled now)
      "lease finalization lost its state transition"
  | .get leaseId => get rows leaseId
  | .unsettled limit => select rows (fun r => decide (r.state ≠ .revoked)) limit
  | .recordsForRequestDigest requestDigest unsettledOnly limit =>
    select rows (ofRequest requestDigest unsettledOnly) limit

end

end PostgresElasticLeaseJournal

end ControlAssurance.Pam
