import ControlAssurance.Pam.Lease

/-!
# Defender tokens and their two journals

`connectors/defender_pam.py` keeps one row for each access token it asks Microsoft Entra for. A
row is `prepared` before the request, `issued` once the token is known, `closed` when the token
was released or when there is none, and `uncertain` when the outcome of the request is unknown.

The SQLite and the PostgreSQL journal decide a transition in the `WHERE` clause of one update.
The second also has the constraints of `pam-journal-schema.sql`. A row of a bound execution has
one more trigger, `guard_source_issuance`; a call it refuses is one of the failed calls of the
next module.
-/

namespace ControlAssurance.Pam.Defender

open Lib

/-- 64 lower-case hexadecimal digits. -/
abbrev AcquisitionId := BitVec 256

inductive CredentialMode where
  | certificatePs256 | federatedRs256
deriving DecidableEq

inductive TokenState where
  | prepared | issued | closed | uncertain
deriving DecidableEq

inductive TokenClosure where
  | captureCompletedTokenReleaseOnly
  | captureFailedTokenReleaseOnly
  | tokenRequestRejectedNoToken
  | tokenRequestAmbiguous
  | abandonedAfterCrash
deriving DecidableEq

structure DefenderTokenRecord where
  acquisitionId : AcquisitionId
  requestDigest : Digest
  tokenEndpointDigest : Digest
  graphOriginDigest : Digest
  scopeDigest : Digest
  credentialMode : CredentialMode
  credentialReferenceDigest : Digest
  tokenRequestProfileDigest : Digest
  state : TokenState
  closure : Option TokenClosure
  createdEpochMillis : Millis
  issuedEpochMillis : Option Millis
  closedEpochMillis : Option Millis
  accessTokenExpiresEpochMillis : Option Millis
  conservativeExposureEndEpochMillis : Millis
  assertionIdDigest : Option Digest
  responseRequestIdDigest : Option Digest
  revision : Int
  lastError : Option (List Char)
deriving DecidableEq

abbrev TokenRows := List DefenderTokenRecord

/-- Whatever a call may raise. `DefenderPamAmbiguousRequest` is a `DefenderPamError`. -/
inductive Raised where
  /-- a `DefenderPamError` that is not ambiguous -/
  | pam (stage reason : String)
  /-- `DefenderPamAmbiguousRequest` -/
  | ambiguous (stage reason : String)
  /-- `ConnectorCaptureError` -/
  | connector (stage : String)
  /-- any other exception, by the name of its class -/
  | other (className : String)
deriving DecidableEq

/-- `isinstance(exc, DefenderPamError)` -/
def Raised.isPam : Raised → Bool
  | .pam .. | .ambiguous .. => true
  | _ => false

/-- `DefenderPamError("journal", reason)` -/
def journalFailure (reason : String) : Raised := .pam "journal" reason

def valueError : Raised := .other "ValueError"

/-! ## Calls -/

inductive TokenCall where
  | prepare (acquisitionId : AcquisitionId)
      (requestDigest tokenEndpointDigest graphOriginDigest scopeDigest : Digest)
      (credentialMode : CredentialMode)
      (credentialReferenceDigest tokenRequestProfileDigest : Digest)
      (nowEpochMillis conservativeExposureEndEpochMillis : Millis)
  | markIssued (acquisitionId : AcquisitionId) (expectedRevision : Int)
      (nowEpochMillis expiresEpochMillis : Millis) (assertionIdDigest : Digest)
      (responseRequestIdDigest : Option Digest)
  | close (acquisitionId : AcquisitionId) (expectedRevision : Int) (expectedState : TokenState)
      (closure : TokenClosure) (nowEpochMillis : Millis) (error : Option (List Char))
  | markUncertain (acquisitionId : AcquisitionId) (expectedRevision : Int)
      (nowEpochMillis : Millis) (error : List Char)
  | get (acquisitionId : AcquisitionId)
  | unsettled (limit : Int)
  | recordsForRequestDigest (requestDigest : Digest) (unsettledOnly : Bool) (limit : Int)
deriving DecidableEq

inductive TokenAnswer where
  | record (r : DefenderTokenRecord)
  | records (rs : List DefenderTokenRecord)
deriving DecidableEq

abbrev TokenResult := Except Raised (TokenRows × TokenAnswer)

/-- The row `prepare` inserts. -/
def preparedRow (acquisitionId : AcquisitionId)
    (requestDigest tokenEndpointDigest graphOriginDigest scopeDigest : Digest)
    (credentialMode : CredentialMode)
    (credentialReferenceDigest tokenRequestProfileDigest : Digest)
    (now conservativeEnd : Millis) : DefenderTokenRecord :=
  { acquisitionId := acquisitionId
    requestDigest := requestDigest
    tokenEndpointDigest := tokenEndpointDigest
    graphOriginDigest := graphOriginDigest
    scopeDigest := scopeDigest
    credentialMode := credentialMode
    credentialReferenceDigest := credentialReferenceDigest
    tokenRequestProfileDigest := tokenRequestProfileDigest
    state := .prepared
    closure := none
    createdEpochMillis := now
    issuedEpochMillis := none
    closedEpochMillis := none
    accessTokenExpiresEpochMillis := none
    conservativeExposureEndEpochMillis := conservativeEnd
    assertionIdDigest := none
    responseRequestIdDigest := none
    revision := 0
    lastError := none }

/-- `SET` of `mark_issued`. -/
def DefenderTokenRecord.issued (r : DefenderTokenRecord) (now expires : Millis)
    (assertionIdDigest : Digest) (responseRequestIdDigest : Option Digest) :
    DefenderTokenRecord :=
  { r with
    state := .issued
    issuedEpochMillis := some now
    accessTokenExpiresEpochMillis := some expires
    assertionIdDigest := some assertionIdDigest
    responseRequestIdDigest := responseRequestIdDigest
    revision := r.revision + 1 }

/-- `SET` of `close`. -/
def DefenderTokenRecord.closed (r : DefenderTokenRecord) (closure : TokenClosure) (now : Millis)
    (error : Option (List Char)) : DefenderTokenRecord :=
  { r with
    state := .closed
    closure := some closure
    closedEpochMillis := some now
    lastError := error
    revision := r.revision + 1 }

/-- `SET` of `mark_uncertain`. -/
def DefenderTokenRecord.uncertain (r : DefenderTokenRecord) (now : Millis) (error : List Char) :
    DefenderTokenRecord :=
  { r with
    state := .uncertain
    closure := some .tokenRequestAmbiguous
    closedEpochMillis := some now
    lastError := some error
    revision := r.revision + 1 }

/-- `WHERE acquisition_id = … AND revision = … AND state = …` -/
def DefenderTokenRecord.matching (acquisitionId : AcquisitionId) (revision : Int)
    (state : TokenState) (r : DefenderTokenRecord) : Bool :=
  decide (r.acquisitionId = acquisitionId ∧ r.revision = revision ∧ r.state = state)

/-- `ORDER BY created_epoch_millis, acquisition_id` -/
def createdBefore (a b : DefenderTokenRecord) : Bool :=
  decide (a.createdEpochMillis < b.createdEpochMillis)
    || (decide (a.createdEpochMillis = b.createdEpochMillis)
      && decide (a.acquisitionId.toNat ≤ b.acquisitionId.toNat))

def selectRows (rows : TokenRows) (selected : DefenderTokenRecord → Bool) (limit : Int) :
    TokenRows :=
  ((rows.filter selected).mergeSort createdBefore).take limit.toNat

/-- `state IN ('prepared', 'issued')` -/
def DefenderTokenRecord.open (r : DefenderTokenRecord) : Bool :=
  decide (r.state = .prepared ∨ r.state = .issued)

def ofRequest (requestDigest : Digest) (unsettledOnly : Bool) (r : DefenderTokenRecord) : Bool :=
  decide (r.requestDigest = requestDigest) && (!unsettledOnly || r.open)

/-- Both journals read in the same way. -/
def get (rows : TokenRows) (acquisitionId : AcquisitionId) : TokenResult := do
  let row ← expect (rows.find? fun r => decide (r.acquisitionId = acquisitionId))
    (journalFailure "token lifecycle record does not exist")
  pure (rows, .record row)

def select (rows : TokenRows) (selected : DefenderTokenRecord → Bool) (limit : Int) :
    TokenResult := do
  require (1 ≤ limit ∧ limit ≤ 10000) valueError
  pure (rows, .records (selectRows rows selected limit))

/-! ## SQLite -/

namespace SQLiteDefenderTokenJournal

/-- Binding a parameter. -/
def bindInteger (x : Int) : Except Raised Unit :=
  require (-(2 ^ 63) ≤ x ∧ x ≤ maxBigint) (Raised.other "OverflowError")

def transition (rows : TokenRows) (acquisitionId : AcquisitionId) (expectedRevision : Int)
    (expectedState : TokenState) (set : DefenderTokenRecord → DefenderTokenRecord) :
    TokenResult := do
  bindInteger expectedRevision
  require (rows.countP (·.matching acquisitionId expectedRevision expectedState) = 1)
    (journalFailure "token lifecycle compare-and-swap failed")
  get (updateWhere (·.matching acquisitionId expectedRevision expectedState) set rows)
    acquisitionId

def run (rows : TokenRows) : TokenCall → TokenResult
  | .prepare acquisitionId requestDigest tokenEndpointDigest graphOriginDigest scopeDigest
      credentialMode credentialReferenceDigest tokenRequestProfileDigest now conservativeEnd => do
    bindInteger now
    bindInteger conservativeEnd
    require (∀ r ∈ rows, r.acquisitionId ≠ acquisitionId) (Raised.other "IntegrityError")
    get (rows ++ [preparedRow acquisitionId requestDigest tokenEndpointDigest graphOriginDigest
      scopeDigest credentialMode credentialReferenceDigest tokenRequestProfileDigest now
      conservativeEnd]) acquisitionId
  | .markIssued acquisitionId expectedRevision now expires assertionIdDigest
      responseRequestIdDigest => do
    bindInteger now
    bindInteger expires
    transition rows acquisitionId expectedRevision .prepared
      (·.issued now expires assertionIdDigest responseRequestIdDigest)
  | .close acquisitionId expectedRevision expectedState closure now error => do
    bindInteger now
    transition rows acquisitionId expectedRevision expectedState (·.closed closure now error)
  | .markUncertain acquisitionId expectedRevision now error => do
    bindInteger now
    transition rows acquisitionId expectedRevision .prepared (·.uncertain now error)
  | .get acquisitionId => get rows acquisitionId
  | .unsettled limit => select rows (·.open) limit
  | .recordsForRequestDigest requestDigest unsettledOnly limit =>
    select rows (ofRequest requestDigest unsettledOnly) limit

end SQLiteDefenderTokenJournal

/-! ## PostgreSQL -/

/-- How `_transaction` reports a fault. -/
def reported : PostgresFault → Raised
  | .uniqueViolation | .triggerRaised => journalFailure "PostgreSQL PAM journal write conflicted"
  | .checkViolation | .outOfRange => journalFailure "PostgreSQL PAM journal is unavailable"

/-- `defender_token_lifecycle_state_shape` -/
def DefenderTokenRecord.stateShape (r : DefenderTokenRecord) : Prop :=
  match r.state with
  | .prepared => r.revision = 0 ∧ r.closure = none ∧ r.issuedEpochMillis = none
      ∧ r.closedEpochMillis = none ∧ r.accessTokenExpiresEpochMillis = none
      ∧ r.assertionIdDigest = none ∧ r.responseRequestIdDigest = none ∧ r.lastError = none
  | .issued => r.revision = 1 ∧ r.closure = none ∧ r.issuedEpochMillis ≠ none
      ∧ r.closedEpochMillis = none ∧ r.accessTokenExpiresEpochMillis ≠ none
      ∧ r.assertionIdDigest ≠ none ∧ r.lastError = none
  | .uncertain => r.revision = 1 ∧ r.closure = some .tokenRequestAmbiguous
      ∧ r.issuedEpochMillis = none ∧ r.closedEpochMillis ≠ none
      ∧ r.accessTokenExpiresEpochMillis = none ∧ r.assertionIdDigest = none
      ∧ r.responseRequestIdDigest = none ∧ r.lastError ≠ none
  | .closed => r.closedEpochMillis ≠ none ∧
      ((r.revision = 1 ∧ r.closure = some .tokenRequestRejectedNoToken
          ∧ r.issuedEpochMillis = none ∧ r.accessTokenExpiresEpochMillis = none
          ∧ r.assertionIdDigest = none ∧ r.responseRequestIdDigest = none ∧ r.lastError ≠ none)
        ∨ (r.revision = 2 ∧ r.issuedEpochMillis ≠ none ∧ r.accessTokenExpiresEpochMillis ≠ none
          ∧ r.assertionIdDigest ≠ none
          ∧ ((r.closure = some .captureCompletedTokenReleaseOnly ∧ r.lastError = none)
            ∨ ((r.closure = some .captureFailedTokenReleaseOnly
              ∨ r.closure = some .abandonedAfterCrash) ∧ r.lastError ≠ none))))

instance (r : DefenderTokenRecord) : Decidable r.stateShape := by
  unfold DefenderTokenRecord.stateShape; cases r.state <;> infer_instance

/-- The constraints on a row of `defender_token_lifecycle`. -/
def DefenderTokenRecord.checks (ctype : PostgresCtype) (r : DefenderTokenRecord) : Prop :=
  0 ≤ r.createdEpochMillis
    ∧ (∀ i ∈ r.issuedEpochMillis, r.createdEpochMillis ≤ i)
    ∧ (∀ c ∈ r.closedEpochMillis, r.createdEpochMillis ≤ c)
    ∧ (∀ e ∈ r.accessTokenExpiresEpochMillis, ∃ i ∈ r.issuedEpochMillis, i < e)
    ∧ r.createdEpochMillis ≤ r.conservativeExposureEndEpochMillis
    ∧ 0 ≤ r.revision
    ∧ (∀ t ∈ r.lastError, (1 ≤ t.length ∧ t.length ≤ 384) ∧ ∀ c ∈ t, ctype.cntrl c = false)
    -- defender_token_expiry_within_conservative_bound
    ∧ (∀ e ∈ r.accessTokenExpiresEpochMillis, e ≤ r.conservativeExposureEndEpochMillis
      ∧ ∀ i ∈ r.issuedEpochMillis, 60000 ≤ e - i ∧ e - i ≤ 3900000)
    ∧ r.stateShape

instance (ctype : PostgresCtype) (r : DefenderTokenRecord) : Decidable (r.checks ctype) := by
  delta DefenderTokenRecord.checks; infer_instance

/-- `reject_defender_token_identity_change` -/
def DefenderTokenRecord.sameIdentity (old new : DefenderTokenRecord) : Prop :=
  new.acquisitionId = old.acquisitionId ∧ new.requestDigest = old.requestDigest
    ∧ new.tokenEndpointDigest = old.tokenEndpointDigest
    ∧ new.graphOriginDigest = old.graphOriginDigest ∧ new.scopeDigest = old.scopeDigest
    ∧ new.credentialMode = old.credentialMode
    ∧ new.credentialReferenceDigest = old.credentialReferenceDigest
    ∧ new.tokenRequestProfileDigest = old.tokenRequestProfileDigest
    ∧ new.createdEpochMillis = old.createdEpochMillis
    ∧ new.conservativeExposureEndEpochMillis = old.conservativeExposureEndEpochMillis

instance (old new : DefenderTokenRecord) : Decidable (old.sameIdentity new) := by
  delta DefenderTokenRecord.sameIdentity; infer_instance

/-- `reject_defender_token_invalid_transition` -/
def DefenderTokenRecord.mayBecome (old new : DefenderTokenRecord) : Prop :=
  (old.state = .prepared ∧ new.state ∈ [TokenState.issued, .closed, .uncertain]
      ∧ new.revision = old.revision + 1)
    ∨ (old.state = .issued ∧ new.state = .closed ∧ new.revision = old.revision + 1
      ∧ new.issuedEpochMillis = old.issuedEpochMillis
      ∧ new.accessTokenExpiresEpochMillis = old.accessTokenExpiresEpochMillis
      ∧ new.assertionIdDigest = old.assertionIdDigest
      ∧ new.responseRequestIdDigest = old.responseRequestIdDigest)

instance (old new : DefenderTokenRecord) : Decidable (old.mayBecome new) := by
  delta DefenderTokenRecord.mayBecome; infer_instance

namespace PostgresDefenderTokenJournal

/-- `_require_nonnegative_integer` -/
def nonnegative (x : Int) : Except Raised Unit := require (0 ≤ x ∧ x ≤ maxBigint) valueError

/-- `_normalize_error` -/
def normalizeError : Option (List Char) → Except Raised (Option (List Char))
  | none => .ok none
  | some text => do
    require (joinWords text ≠ []) valueError
    pure (some ((joinWords text).take 384))

section

variable (ctype : PostgresCtype)

/-- `INSERT … RETURNING *` -/
def insert (rows : TokenRows) (row : DefenderTokenRecord) : TokenResult := do
  require (row.checks ctype) (reported .checkViolation)
  require (∀ r ∈ rows, r.acquisitionId ≠ row.acquisitionId) (reported .uniqueViolation)
  pure (rows ++ [row], .record row)

/-- The new version of a row: arithmetic in the column types, the triggers, the constraints. -/
def newVersion (old new : DefenderTokenRecord) : Except Raised Unit := do
  require (new.revision ≤ maxBigint) (reported .outOfRange)
  require (old.sameIdentity new) (reported .triggerRaised)
  require (old.mayBecome new) (reported .triggerRaised)
  require (new.checks ctype) (reported .checkViolation)

/-- `UPDATE … RETURNING *` -/
def update (rows : TokenRows) (acquisitionId : AcquisitionId) (revision : Int)
    (state : TokenState) (set : DefenderTokenRecord → DefenderTokenRecord) : TokenResult := do
  let old ← expect (rows.find? (·.matching acquisitionId revision state))
    (journalFailure "token lifecycle compare-and-swap failed")
  newVersion ctype old (set old)
  pure (updateWhere (·.matching acquisitionId revision state) set rows, .record (set old))

def run (rows : TokenRows) : TokenCall → TokenResult
  | .prepare acquisitionId requestDigest tokenEndpointDigest graphOriginDigest scopeDigest
      credentialMode credentialReferenceDigest tokenRequestProfileDigest now conservativeEnd => do
    nonnegative now
    nonnegative conservativeEnd
    require (now ≤ conservativeEnd) valueError
    insert ctype rows (preparedRow acquisitionId requestDigest tokenEndpointDigest
      graphOriginDigest scopeDigest credentialMode credentialReferenceDigest
      tokenRequestProfileDigest now conservativeEnd)
  | .markIssued acquisitionId expectedRevision now expires assertionIdDigest
      responseRequestIdDigest => do
    nonnegative expectedRevision
    nonnegative now
    nonnegative expires
    require (60000 ≤ expires - now ∧ expires - now ≤ 3900000) valueError
    update ctype rows acquisitionId expectedRevision .prepared
      (·.issued now expires assertionIdDigest responseRequestIdDigest)
  | .close acquisitionId expectedRevision expectedState closure now error => do
    nonnegative expectedRevision
    nonnegative now
    require (expectedState ∈ [TokenState.prepared, .issued]) valueError
    require (closure ≠ .tokenRequestAmbiguous) valueError
    require (expectedState = .prepared → closure = .tokenRequestRejectedNoToken) valueError
    require (expectedState = .issued → closure ≠ .tokenRequestRejectedNoToken) valueError
    let normalized ← normalizeError error
    require (closure = .captureCompletedTokenReleaseOnly → normalized = none) valueError
    require (closure ≠ .captureCompletedTokenReleaseOnly → normalized ≠ none) valueError
    update ctype rows acquisitionId expectedRevision expectedState
      (·.closed closure now normalized)
  | .markUncertain acquisitionId expectedRevision now error => do
    nonnegative expectedRevision
    nonnegative now
    let normalized ← normalizeError (some error)
    let text ← expect normalized (Raised.other "AssertionError")
    update ctype rows acquisitionId expectedRevision .prepared (·.uncertain now text)
  | .get acquisitionId => get rows acquisitionId
  | .unsettled limit => select rows (·.open) limit
  | .recordsForRequestDigest requestDigest unsettledOnly limit =>
    select rows (ofRequest requestDigest unsettledOnly) limit

end

end PostgresDefenderTokenJournal

/-- The journal the replicas share. -/
inductive TokenBackend where
  | sqlite
  | postgres (ctype : PostgresCtype)

def TokenBackend.run (backend : TokenBackend) (rows : TokenRows) (call : TokenCall) :
    TokenResult :=
  match backend with
  | .sqlite => SQLiteDefenderTokenJournal.run rows call
  | .postgres ctype => PostgresDefenderTokenJournal.run ctype rows call

end ControlAssurance.Pam.Defender
