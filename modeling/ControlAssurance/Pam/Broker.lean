import ControlAssurance.Lib.Owned
import ControlAssurance.Pam.Lease

/-!
# The recovery of just-in-time Elastic keys

The recovery of `ElasticJitApiKeyBroker` as a program over atomic calls: a call on the journal, a
request put on the wire, the receipt of its answer, a reading of the clock. A request carries the
lease it is sent for, which nothing reads and statements need.
-/

namespace ControlAssurance.Pam

open Lib

/-! ## Elasticsearch -/

abbrev KeyId := List Char

/-- `DELETE /_security/api_key` -/
inductive PamRequest where
  | invalidateName (name : KeyName)
  | invalidateIds (ids : List KeyId)
deriving DecidableEq

/-- An answer, as far as the broker reads it. -/
inductive PamResponse where
  | invalidation (invalidated previous : List KeyId) (errorCount : Int) (errorDetails : Bool)
  /-- not a `200`, or not the expected JSON, and what that raises -/
  | refused (error : LeaseError)
deriving DecidableEq

/-- A request on the wire. -/
structure SentRequest where
  request : PamRequest
  lease : LeaseId
deriving DecidableEq

/-! ## Calls -/

/-- Which journal the broker uses. -/
inductive LeaseBackend where
  | sqlite
  | postgres (ctype : PostgresCtype)

def LeaseBackend.run (backend : LeaseBackend) (descriptorDigest : List Char → Digest)
    (rows : LeaseRows) (call : LeaseCall) : LeaseResult :=
  match backend with
  | .sqlite => SQLiteElasticLeaseJournal.run descriptorDigest rows call
  | .postgres ctype => PostgresElasticLeaseJournal.run ctype descriptorDigest rows call

/-- What a capture under a key raised. -/
structure ConnectorFailure where
  stage : List Char
  reason : List Char
deriving DecidableEq

inductive BrokerError where
  | lease (e : LeaseError)
  | connector (e : ConnectorFailure)
deriving DecidableEq

inductive BrokerCall where
  | now
  | journal (call : LeaseCall)
  | send (request : PamRequest) (lease : LeaseId)
  | receive (number : Nat)

@[reducible] def BrokerCall.Out : BrokerCall → Type
  | .now => Millis
  | .journal .. => Except LeaseError LeaseAnswer
  | .send .. => Nat
  | .receive _ => Except LeaseError PamResponse

/-! ## The broker -/

inductive RevocationOutcome where
  | invalidated | previouslyInvalidated | notCreated
deriving DecidableEq

structure ElasticPamRecoveryResult where
  leaseId : LeaseId
  finalState : LeaseState
  revocationOutcome : RevocationOutcome
deriving DecidableEq

abbrev BrokerClient :=
  Prog BrokerCall BrokerCall.Out (Except BrokerError (List ElasticPamRecoveryResult))

def pamError (stage reason : String) : LeaseError := .elasticPam stage reason

/-- `_bounded_error` -/
def boundedError (e : BrokerError) : List Char :=
  let reason := match e with
    | .lease (.elasticPam _ reason) => reason.toList
    | .lease (.valueError _) => "ValueError".toList
    | .lease .overflowError => "OverflowError".toList
    | .connector e => e.stage ++ ": ".toList ++ e.reason
  let words := joinWords reason
  (if words = [] then "unspecified failure".toList else words).take maxErrorLength

/-- `_MAX_CLOCK_SKEW_MILLISECONDS` -/
def maxClockSkew : Millis := 5 * 60 * 1000

/-- The checks of `_revoke` on the answer to an invalidation. -/
def readInvalidation (pending : ElasticLeaseRecord) (response : Except LeaseError PamResponse) :
    Except LeaseError RevocationOutcome :=
  match response with
  | .error e => .error e
  | .ok (.refused e) => .error e
  | .ok (.invalidation invalidated previous errorCount errorDetails) => do
    require (errorCount = 0 ∧ errorDetails = false)
      (pamError "revoke-key" "Elasticsearch did not confirm clean revocation")
    match pending.keyId with
    | none => pure (if invalidated ≠ [] ∨ previous ≠ [] then .invalidated else .notCreated)
    | some key =>
      if key ∈ invalidated then
        pure .invalidated
      else if key ∈ previous then
        pure .previouslyInvalidated
      else
        .error (pamError "revoke-key" "response did not account for the exact key id")

/-- The request `_revoke` sends. -/
def revocationRequest (pending : ElasticLeaseRecord) : PamRequest :=
  match pending.keyId with
  | none => .invalidateName pending.keyName
  | some key => .invalidateIds [key]

/-- A journal call that returns one record. -/
def journalRecord (call : LeaseCall)
    (k : Except LeaseError ElasticLeaseRecord → BrokerClient) : BrokerClient :=
  .call (.journal call) fun r => match r with
    | .ok (.record record) => k (.ok record)
    | .ok (.records _) => k (.error (journalError "journal returned an invalid record"))
    | .error e => k (.error e)

/-- A journal call that returns a list. -/
def journalRecords (call : LeaseCall)
    (k : Except LeaseError (List ElasticLeaseRecord) → BrokerClient) : BrokerClient :=
  .call (.journal call) fun r => match r with
    | .ok (.records records) => k (.ok records)
    | .ok (.record _) => k (.error (journalError "journal returned an invalid record"))
    | .error e => k (.error e)

/-- `_revoke` -/
def revoke (record : ElasticLeaseRecord) (reason : Option (List Char))
    (k : Except LeaseError (ElasticLeaseRecord × RevocationOutcome) → BrokerClient) :
    BrokerClient :=
  journalRecord (.beginRevocation record.leaseId record.revision reason) fun r => match r with
    | .error e => k (.error e)
    | .ok pending =>
      .call (.send (revocationRequest pending) pending.leaseId) fun n =>
      .call (.receive n) fun (response : Except LeaseError PamResponse) =>
        match readInvalidation pending response with
        | .error e => k (.error e)
        | .ok outcome =>
          .call .now fun (now : Millis) =>
          journalRecord (.markRevoked pending.leaseId pending.revision now) fun r =>
            k (r.map fun revoked => (revoked, outcome))

/-- The name of the key of a lease: the first half of its id. -/
def keyNameOf (leaseId : LeaseId) : KeyName := leaseId.extractLsb' 128 128

/-- `_recover_records` -/
def recoverRecords : List ElasticLeaseRecord → List ElasticPamRecoveryResult → BrokerClient
  | [], results => .ret (.ok results)
  | record :: records, results =>
    let next (latest : ElasticLeaseRecord) : BrokerClient :=
      revoke latest (some "recovery".toList) fun r => match r with
        | .error e => .ret (.error (.lease e))
        | .ok (revoked, outcome) =>
          recoverRecords records (results ++ [⟨revoked.leaseId, revoked.state, outcome⟩])
    if record.state = .revokePending then
      journalRecord (.get record.leaseId) fun r => match r with
        | .error e => .ret (.error (.lease e))
        | .ok latest => next latest
    else
      next record

/-- What the records of a recovery are read with. -/
def recoverWith (call : LeaseCall) : BrokerClient :=
  journalRecords call fun r => match r with
    | .error e => .ret (.error (.lease e))
    | .ok records => recoverRecords records []

/-- `recover_unsettled` -/
def recoverUnsettled (limit : Int) : BrokerClient := recoverWith (.unsettled limit)

end ControlAssurance.Pam
