import ControlAssurance.Lib.Transactions
import ControlAssurance.Admission.Runs

/-!
# `AdmissionService` as client programs

`admit`, `register_lease` and `reconcile_pending` as programs over atomic calls:
the ledger's transactions, and the surroundings (policy resolver, sealing of the
CAB source, custody, receipt signer), each of which may fail or answer
anything. The signer is asked outside of every transaction, for a preparation the
client holds in memory. Any number of programs of any number of instances run at
once and may die between two calls, which is every fault point of the source.

`SigningWorld.log` is a ghost: the ledgers that were current, the bodies the
signer was asked for and the outcomes that were returned, in their order.
-/

namespace ControlAssurance.Admission

open Lib
open Prog (check request)

/-! ## Calls -/

structure AdmissionOutcome where
  disposition : AdmissionDisposition
  receipt : AdmissionReceipt
  custodyAcknowledgement : CustodyAcknowledgement
deriving DecidableEq

inductive ServiceCall (P : Profile) where
  /-- a transaction of instance `service` -/
  | ledger (service : Nat) (call : LedgerCall P)
  /-- `retry_admitted_at`, which reads the clock inside its transaction -/
  | retryTime (service : Nat) (statement : CollectionStatement) (envelopeDigest : Digest)
  /-- `_prepare_admission`, likewise -/
  | prepare (service : Nat) (inputs : AdmissionInputs P) (original : Option Instant)
  | resolve (policyId : String) (policyRevision : Nat) (policyDigest : Digest)
  /-- `capture_cab_snapshot`, up to the bytes it seals -/
  | capture
  | referenceFor (custodyObjectId : Digest)
  /-- `persist` with the returned reference, and `verify` -/
  | persist (stored : StoredAdmission)
  /-- `receipt_signer.sign` -/
  | sign (body : SigningBody)
  /-- the outcome is handed to the caller of `admit` -/
  | reply (outcome : AdmissionOutcome)

variable {P : Profile}

def ServiceCall.Answer : ServiceCall P → Type
  | .ledger _ call => call.Answer
  | .retryTime .. => Option Instant
  | .prepare .. => PreparedOrStored
  | .resolve .. => Bytes
  | .capture => Bytes
  | .referenceFor _ => String
  | .persist _ => Unit
  | .sign _ => DetachedSignature
  | .reply _ => Unit

/-- The rejection a failed call of the surroundings is reported as. -/
def ServiceCall.failure : ServiceCall P → AdmissionError
  | .ledger .. => storageRejected
  | .retryTime .. =>
    .rejected .clockRollback "service clock did not return a valid trusted instant"
  | .prepare .. =>
    .rejected .clockRollback "service clock did not return a valid trusted instant"
  | .resolve .. =>
    .rejected .policyUnavailable "authoritative trust policy could not be resolved"
  | .capture => .rejected .cabRejected
      "CAB source could not be sealed as an integrity-verified snapshot"
  | .referenceFor _ => .rejected .custodyUnavailable
      "custody could not derive a deterministic object reference"
  | .persist _ => .rejected .custodyUnavailable
      ("lease is consumed but exact durable custody is not confirmed; "
        ++ "retry or reconciliation is required")
  | .sign (.receipt _) => .rejected .signerUnavailable
      "receipt signer is unavailable; retry the exact request"
  | .sign (.acknowledgement _) => .rejected .signerUnavailable
      "custody acknowledgement signer is unavailable; retry reconciliation"
  | .reply _ => storageRejected

inductive ServiceResult where
  | registered (grant : SignedJobLease)
  | admitted (outcome : AdmissionOutcome)
  | reconciled (completed : Nat)
deriving DecidableEq

abbrev Client (P : Profile) :=
  Prog (ServiceCall P) (fun c => Except AdmissionError c.Answer)
    (Except AdmissionError ServiceResult)

/-! ## Programs -/

section

variable (P) (service : Nat)

/-- `_sign_prepared_admission` and `_finalize_admission`. -/
def completePreparedAdmission (prepared : PreparedAdmission)
    (k : StoredAdmission → Client P) : Client P :=
  check (require (P.sha (.receiptBody prepared.body) = prepared.receiptBodyDigest)
      (corrupted "in-memory receipt preparation changed before signing")) fun _ =>
  request (.sign (.receipt prepared.body)) fun (signature : DetachedSignature) =>
  check (require (P.signerVerifies (.receipt prepared.body) signature = true)
      (.rejected .invalidReceiptSignature
        "receipt signer returned an invalid or substituted signature")) fun _ =>
  request (.ledger service (.finalize prepared ⟨prepared.body, signature⟩))
    fun (stored : StoredAdmission) => k stored

/-- `mark_custody_durable`. -/
def markCustodyDurable (receiptDigest : Digest) (custodyReference : String)
    (k : CustodyAcknowledgement → Client P) : Client P :=
  request (.ledger service (.prepareAck receiptDigest custodyReference))
    fun (answer : PreparedOrAcknowledged) =>
  match answer with
  | .acknowledged ack => k ack
  | .prepared prepared =>
    check (require (P.sha (.acknowledgementBody prepared.body)
          = prepared.acknowledgementBodyDigest)
        (corrupted "in-memory custody acknowledgement preparation changed")) fun _ =>
    request (.sign (.acknowledgement prepared.body)) fun (signature : DetachedSignature) =>
    check (require (P.signerVerifies (.acknowledgement prepared.body) signature = true)
        (.rejected .invalidReceiptSignature
          "custody acknowledgement signer returned a substituted signature")) fun _ =>
    request (.ledger service (.finalizeAck prepared ⟨prepared.body, signature⟩))
      fun (ack : CustodyAcknowledgement) => k ack

/-- `_establish_custody`. -/
def establishCustody (stored : StoredAdmission) (k : CustodyAcknowledgement → Client P) :
    Client P :=
  request (.persist stored) fun _ =>
  markCustodyDurable P service (stored.receipt.receiptDigest P) stored.custodyReference
    fun marked =>
  check (require (∀ ack ∈ stored.custodyAcknowledgement, ack = marked)
    (corrupted "durable custody acknowledgement changed during retry")) fun _ => k marked

/-- The bytes `_resolve_policy` answers for a statement. -/
def checkPolicy (statement : CollectionStatement) (exactRetry : Bool) (policyBytes : Bytes) :
    Except AdmissionError
      { bytes : Bytes // bytes.length ≤ P.limits.maxPolicyBytes
        ∧ P.parseTrustPolicy bytes = some statement.policyId
        ∧ P.sha (.bytes bytes) = statement.policyDigest } :=
  if hlength : policyBytes.length ≤ P.limits.maxPolicyBytes then
    match hparse : P.parseTrustPolicy policyBytes with
    | none => .error (.rejected .policyUnavailable "authoritative trust policy is malformed")
    | some policyId =>
      if hid : policyId = statement.policyId then
        if hdigest : P.sha (.bytes policyBytes) = statement.policyDigest then
          .ok ⟨policyBytes, hlength, by rw [hparse, hid], hdigest⟩
        else
          .error (.rejected (if exactRetry then .retryMismatch else .policyUnavailable)
            "resolved trust policy bytes do not match the signed immutable revision")
      else
        .error (.rejected .policyUnavailable
          "resolved trust policy id does not match the signed statement")
  else
    .error (.rejected .resourceLimitExceeded
      "resolved trust policy is not bounded canonical bytes")

/-- The sealed CAB must be the one the statement names. -/
def checkSnapshot (statement : CollectionStatement) (snapshotBytes : Bytes) :
    Except AdmissionError
      { bytes : Bytes // P.verifySnapshot bytes
        = some ⟨statement.cabId, statement.manifestDigest⟩ } :=
  match hsealed : P.verifySnapshot snapshotBytes with
  | none => .error (ServiceCall.failure (P := P) .capture)
  | some snapshot =>
    if h : snapshot = ⟨statement.cabId, statement.manifestDigest⟩ then
      .ok ⟨snapshotBytes, by rw [hsealed, h]⟩
    else
      .error (.rejected .cabRejected
        "sealed CAB identity does not match the signed collection statement")

/-- The statement of an envelope, for this service. -/
def checkEnvelope (envelopeBytes : Bytes) :
    Except AdmissionError
      { statement : CollectionStatement // envelopeBytes.length ≤ P.limits.maxEnvelopeBytes
        ∧ P.parseStatement envelopeBytes = some statement
        ∧ statement.audience = P.expectedAudience
        ∧ statement.capabilityDigest = P.expectedCapabilityDigest } :=
  if hlength : envelopeBytes.length ≤ P.limits.maxEnvelopeBytes then
    match P.parseStatement envelopeBytes with
    | none => .error (.rejected .malformedEnvelope
        "envelope does not carry one canonical collection statement")
    | some statement =>
      if h : statement.audience = P.expectedAudience
          ∧ statement.capabilityDigest = P.expectedCapabilityDigest then
        .ok ⟨statement, hlength, rfl, h⟩
      else
        .error (.rejected .configurationMismatch
          "statement audience or capability is not configured for this service")
  else
    .error (.rejected .resourceLimitExceeded "DSSE envelope exceeds the configured byte limit")

/-- `append`. -/
def append (inputs : AdmissionInputs P) (original : Option Instant)
    (k : StoredAdmission → Client P) : Client P :=
  request (.prepare service inputs original) fun (answer : PreparedOrStored) =>
  match answer with
  | .stored stored => k stored
  | .prepared prepared => completePreparedAdmission P service prepared k

/-- `admit`, from the envelope on. -/
def admitCall (envelopeBytes : Bytes) : Client P :=
  check (checkEnvelope P envelopeBytes) fun statement =>
  request (.retryTime service statement.1 (P.sha (.bytes envelopeBytes)))
    fun (original : Option Instant) =>
  request (.resolve statement.1.policyId statement.1.policyRevision statement.1.policyDigest)
    fun (policyBytes : Bytes) =>
  check (checkPolicy P statement.1 original.isSome policyBytes) fun policy =>
  request .capture fun (snapshotBytes : Bytes) =>
  check (checkSnapshot P statement.1 snapshotBytes) fun snapshot =>
  request (.referenceFor (P.sha (.custodyObject statement.1.tenantId statement.1.jobId
      (P.sha (.bytes envelopeBytes)) (P.sha (.bytes snapshot.1)))))
    fun (reference : String) =>
  check (require (safeReference reference = true)
    (ServiceCall.failure (P := P) (.referenceFor 0))) fun _ =>
  append P service
    { statement := statement.1
      envelopeBytes
      policyBytes := policy.1
      snapshotBytes := snapshot.1
      custodyReference := reference
      bounded := ⟨statement.2.1, policy.2.1⟩
      parsed := statement.2.2.1
      configured := statement.2.2.2
      policy := policy.2.2.1
      policyDigest := policy.2.2.2
      snapshot := snapshot.2 } original
    fun stored =>
  establishCustody P service stored fun ack =>
  request (.reply ⟨stored.disposition, stored.receipt, ack⟩) fun _ =>
  .ret (.ok (.admitted ⟨stored.disposition, stored.receipt, ack⟩))

/-- `register_lease`. -/
def registerLeaseCall (grant : SignedJobLease) : Client P :=
  request (.ledger service (.register grant)) fun (answer : SignedJobLease) =>
  .ret (.ok (.registered answer))

/-- Custody for the receipts of `pending`. -/
def establishAll : List StoredAdmission → Nat → Client P
  | [], completed => .ret (.ok (.reconciled completed))
  | stored :: rest, completed =>
    establishCustody P service stored fun _ => establishAll rest (completed + 1)

/-- The second half of `reconcile_pending`. -/
def reconcileRest (limit completed : Nat) : Client P :=
  if limit ≤ completed then .ret (.ok (.reconciled completed))
  else
    request (.ledger service (.pending (limit - completed)))
      fun (pending : List StoredAdmission) => establishAll P service pending completed

/-- `reconcile_prepared`, and custody for each receipt it finalizes. -/
def reconcilePrepared (limit : Nat) : List Digest → Nat → Client P
  | [], completed => reconcileRest P service limit completed
  | digest :: rest, completed =>
    request (.ledger service (.preparation digest)) fun (row : Option PreparedAdmission) =>
    match row with
    | none => reconcilePrepared limit rest completed
    | some prepared =>
      completePreparedAdmission P service prepared fun stored =>
      establishCustody P service stored fun _ =>
      reconcilePrepared limit rest (completed + 1)

/-- `reconcile_pending`. -/
def reconcilePending (limit : Nat) : Client P :=
  check (require (1 ≤ limit ∧ limit ≤ 1000)
    (.validation "prepared reconciliation limit must be between 1 and 1000")) fun _ =>
  request (.ledger service (.preparations limit)) fun (digests : List Digest) =>
  reconcilePrepared P service limit digests 0

end

/-! ## The world they run in -/

inductive SigningEvent where
  /-- the ledger a transaction left -/
  | committed (ledger : Ledger)
  /-- the signer was asked -/
  | signed (body : SigningBody)
  | returned (outcome : AdmissionOutcome)

structure SigningWorld where
  world : World
  log : List SigningEvent

def SigningWorld.init : SigningWorld := ⟨World.init, [.committed Ledger.empty]⟩

def SigningWorld.record (s : SigningWorld) (e : SigningEvent) : SigningWorld :=
  { s with log := s.log ++ [e] }

/-- The surroundings fail, or answer anything. -/
def Outside (c : ServiceCall P) (r : Except AdmissionError c.Answer) : Prop :=
  (∃ answer, r = .ok answer) ∨ r = .error c.failure

/-- A transaction, with the ledger it leaves in the log. -/
def SigningWorld.transact (s : SigningWorld) (service : Nat) (call : LedgerCall P) :
    Except AdmissionError call.Answer × SigningWorld :=
  ((s.world.transact P service call).1,
    ⟨(s.world.transact P service call).2,
      s.log ++ [.committed (s.world.transact P service call).2.ledger]⟩)

/-- What a call does. The signer has seen the body also when it fails; a clock
that fails ends the transaction that reads it. -/
def serviceExec : (c : ServiceCall P) → SigningWorld → Except AdmissionError c.Answer →
    SigningWorld → Prop
  | .ledger service call, s, r, s' => (r, s') = s.transact service call
  | .retryTime service statement digest, s, r, s' =>
    (∃ now, (r, s') = s.transact service (.retryTime (P := P) statement digest now))
      ∨ (r = .error (ServiceCall.failure (P := P) (.retryTime service statement digest)) ∧ s' = s)
  | .prepare service inputs original, s, r, s' =>
    (∃ now, (r, s') = s.transact service (.prepare inputs original now))
      ∨ (r = .error (ServiceCall.failure (.prepare service inputs original)) ∧ s' = s)
  | .sign body, s, r, s' => Outside (.sign body) r ∧ s' = s.record (.signed body)
  | .reply outcome, s, r, s' => r = .ok () ∧ s' = s.record (.returned outcome)
  | .resolve id revision digest, s, r, s' =>
    Outside (P := P) (.resolve id revision digest) r ∧ s' = s
  | .capture, s, r, s' =>
    -- only a `CABSnapshotError` is reported as a rejection
    (Outside (P := P) .capture r ∨ ∃ exception, r = .error (.uncaught exception)) ∧ s' = s
  | .referenceFor object, s, r, s' => Outside (P := P) (.referenceFor object) r ∧ s' = s
  | .persist stored, s, r, s' => Outside (P := P) (.persist stored) r ∧ s' = s

/-- The public operations, on any instance. -/
inductive ServiceEntry : Client P → Prop
  | admitCall (service : Nat) (envelopeBytes : Bytes) : ServiceEntry (admitCall P service envelopeBytes)
  | register (service : Nat) (grant : SignedJobLease) :
      ServiceEntry (registerLeaseCall P service grant)
  | reconcile (service limit : Nat) : ServiceEntry (reconcilePending P service limit)

/-- Instances open and crash, and the file changes. -/
def serviceEnv (s s' : SigningWorld) : Prop :=
  s'.log = s.log ∧ ∃ event : LedgerEvent P, (∀ service call, event ≠ .called service call)
    ∧ s'.world = s.world.next P event

end ControlAssurance.Admission
