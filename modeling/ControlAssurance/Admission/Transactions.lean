import ControlAssurance.Admission.Verification

/-!
# The ledger's transactions

The writing methods of `_SQLiteAdmissionLedger` as functions from the tables to
the new tables with the answer, or the exception. A receipt and a custody
acknowledgement are each made in two transactions, a preparation that reserves
the exact body to be signed and a finalization that puts the signed document in
its place; what the signer is asked in between is in `Service`.

Inserts carry the keys and references of the schema; a violation is
`sqlite3.IntegrityError`, which every method reports as unavailable storage.
`heads` are the tenant heads the calling instance has validated.
-/

namespace ControlAssurance.Admission

open Lib

/-- A storage constraint. -/
def constrain (c : Prop) [Decidable c] : Except AdmissionError Unit := require c storageRejected

/-! ## What an admission is made from -/

/-- The inputs `admit` has verified before it turns to the ledger. -/
structure AdmissionInputs (P : Profile) where
  statement : CollectionStatement
  envelopeBytes : Bytes
  policyBytes : Bytes
  snapshotBytes : Bytes
  custodyReference : String
  bounded : envelopeBytes.length ≤ P.limits.maxEnvelopeBytes
    ∧ policyBytes.length ≤ P.limits.maxPolicyBytes
  parsed : P.parseStatement envelopeBytes = some statement
  configured : statement.audience = P.expectedAudience
    ∧ statement.capabilityDigest = P.expectedCapabilityDigest
  policy : P.parseTrustPolicy policyBytes = some statement.policyId
  policyDigest : P.sha (.bytes policyBytes) = statement.policyDigest
  snapshot : P.verifySnapshot snapshotBytes
    = some ⟨statement.cabId, statement.manifestDigest⟩

/-- `_VerifiedAdmission`. -/
structure VerifiedAdmission where
  statement : CollectionStatement
  evidence : Evidence
  envelopeDigest : Digest
  snapshotDigest : Digest
  policyDigest : Digest
  requestFingerprint : Digest
  admittedAt : Instant
  currentTime : Instant
  custodyObjectId : Digest
  custodyReference : String
deriving DecidableEq

inductive AdmissionDisposition where
  | admitted | exactRetry
deriving DecidableEq

/-- `_StoredAdmission`. -/
structure StoredAdmission where
  disposition : AdmissionDisposition
  receipt : AdmissionReceipt
  evidence : Evidence
  custodyReference : String
  custodyAcknowledgement : Option CustodyAcknowledgement
deriving DecidableEq

section

variable (P : Profile)

def AdmissionInputs.envelopeDigest (inputs : AdmissionInputs P) : Digest :=
  P.sha (.bytes inputs.envelopeBytes)

/-- `candidate_for`, the closure `admit` hands to the ledger. -/
def candidateFor (inputs : AdmissionInputs P) (admissionTime : Instant) :
    Except AdmissionError VerifiedAdmission := do
  let statement := inputs.statement
  let verification := P.verifyAttestation inputs.envelopeBytes inputs.policyBytes statement
    admissionTime
  require (verification.verified = true ∧ verification.reasonCode = .verified)
    (.rejected .attestationRejected
      ("DSSE attestation rejected: " ++ verification.reasonCode.wire))
  let envelopeDigest := P.sha (.bytes inputs.envelopeBytes)
  let snapshotDigest := P.sha (.bytes inputs.snapshotBytes)
  let policyDigest := P.sha (.bytes inputs.policyBytes)
  require (policyDigest = statement.policyDigest
      ∧ verification.rawEnvelopeSha256 = some envelopeDigest
      ∧ verification.expectedPayloadSha256 = some (P.sha (.statement statement))
      ∧ verification.trustPolicySha256 = some policyDigest
      ∧ verification.policyId = some statement.policyId
      ∧ verification.admissionTime = some admissionTime)
    (corrupted "attestation verifier returned incoherent provenance")
  let objectId := P.sha (.custodyObject statement.tenantId statement.jobId envelopeDigest
    snapshotDigest)
  pure
    { statement
      evidence := ⟨inputs.envelopeBytes, inputs.snapshotBytes, inputs.policyBytes, verification⟩
      envelopeDigest
      snapshotDigest
      policyDigest
      requestFingerprint := P.sha (.request
        { statementDigest := P.sha (.statement statement)
          envelopeDigest
          snapshotDigest
          policyDigest
          policyRevision := statement.policyRevision
          attestationDigest := P.sha (.attestation verification)
          audience := statement.audience
          capabilityDigest := statement.capabilityDigest
          acceptedKeyIds := verification.acceptedKeyIds
          acceptedIdentities := verification.acceptedIdentities
          custodyObjectId := objectId
          custodyReference := inputs.custodyReference
          leaseAuthorityKeyFingerprint := P.leaseAuthorityFingerprint
          receiptSignerKeyFingerprint := P.receiptSignerFingerprint })
      admittedAt := admissionTime
      currentTime := admissionTime
      custodyObjectId := objectId
      custodyReference := inputs.custodyReference }

/-- `_receipt_body`. -/
def receiptBody (candidate : VerifiedAdmission) (receiptSequence : Nat)
    (previousReceiptDigest : Option Digest) : Except AdmissionError AdmissionReceiptBody := do
  let statement := candidate.statement
  let body : AdmissionReceiptBody :=
    { receiptSequence
      admittedAt := candidate.admittedAt
      tenantId := statement.tenantId
      collectorId := statement.collectorId
      audience := statement.audience
      jobId := statement.jobId
      capabilityDigest := statement.capabilityDigest
      epoch := statement.epoch
      sequence := statement.sequence
      previousEpoch := statement.previousEpoch
      previousEpochFinalSequence := statement.previousEpochFinalSequence
      previousEpochFinalReceiptDigest := statement.previousEpochFinalReceiptDigest
      leaseDigest := statement.leaseDigest
      nonceDigest := statement.nonceDigest P
      cabId := statement.cabId
      manifestDigest := statement.manifestDigest
      cabSnapshotDigest := candidate.snapshotDigest
      envelopeDigest := candidate.envelopeDigest
      payloadDigest := P.sha (.statement statement)
      trustPolicyDigest := candidate.policyDigest
      trustPolicyId := statement.policyId
      trustPolicyRevision := statement.policyRevision
      leaseAuthorityKeyFingerprint := P.leaseAuthorityFingerprint
      receiptSignerKeyFingerprint := P.receiptSignerFingerprint
      attestationVerificationDigest := P.sha (.attestation candidate.evidence.attestation)
      acceptedKeyIds := candidate.evidence.attestation.acceptedKeyIds
      acceptedIdentities := candidate.evidence.attestation.acceptedIdentities
      admissionRequestFingerprint := candidate.requestFingerprint
      previousReceiptDigest
      custodyObjectId := candidate.custodyObjectId
      custodyReference := candidate.custodyReference }
  require body.valid (.validation "AdmissionReceiptBody")
  pure body

/-! ## Leases -/

/-- `INSERT INTO job_leases`. -/
def insertLease (db : Ledger) (row : LeaseRow) : Except AdmissionError Ledger := do
  constrain (∀ l ∈ db.leases, l.leaseDigest ≠ row.leaseDigest)
  constrain (∀ l ∈ db.leases, l.nonceDigest ≠ row.nonceDigest)
  constrain (∀ l ∈ db.leases, ¬(l.tenantId = row.tenantId ∧ l.jobId = row.jobId))
  constrain (∀ l ∈ db.leases, ¬(l.tenantId = row.tenantId ∧ l.collectorId = row.collectorId
    ∧ l.epoch = row.epoch ∧ l.sequence = row.sequence))
  pure { db with leases := db.leases ++ [row] }

/-- The grant is already registered under its digest, byte for byte. -/
def registeredGrant (db : Ledger) (grant : SignedJobLease) : Except AdmissionError Bool :=
  match db.leaseRow (grant.lease.leaseDigest P) with
  | none => pure false
  | some row => do
    let existing ← verifyGrantRow P row
    pure (decide (existing = grant))

/-- The conflict checks, quota and head check before a new lease. -/
def admitLease (db : Ledger) (lease : JobLease) : Except AdmissionError Unit := do
  let detail := "lease coordinate already exists"
  require (∀ l ∈ db.leases, l.nonceDigest ≠ lease.nonceDigest P)
    (.rejected .duplicateNonce detail)
  require (∀ l ∈ db.leases, ¬(l.tenantId = lease.tenantId ∧ l.jobId = lease.jobId))
    (.rejected .duplicateJob detail)
  require (∀ l ∈ db.leases, ¬(l.tenantId = lease.tenantId ∧ l.collectorId = lease.collectorId
      ∧ l.epoch = lease.epoch ∧ l.sequence = lease.sequence))
    (.rejected .duplicateSequence detail)
  require ((db.leases.filter fun l => decide (l.tenantId = lease.tenantId)).length
      < P.limits.maxRegisteredLeasesPerTenant)
    (.rejected .quotaExceeded "tenant registered-lease quota is exhausted")
  if 1 < lease.epoch ∧ lease.sequence = 1 then do
    let head ← verifyCollectorHead P db lease.tenantId lease.collectorId
    require (∃ h ∈ head, lease.position.binds h)
      (.rejected .epochMismatch "new epoch lease does not bind the durable collector head")
  else pure ()

/-- What SQLite and the file system report of the database: the bytes of its pages
(`page_count * page_size`) and of its `-wal` file before a write, and the bytes of its pages when
the transaction has written. -/
structure DatabaseFile where
  pageBytes : Nat
  walBytes : Nat
  writtenBytes : Nat
deriving DecidableEq

/-- `_check_database_capacity`. -/
def checkDatabaseCapacity (file : DatabaseFile) (incomingBytes : Nat) :
    Except AdmissionError Unit :=
  require (file.pageBytes + file.walBytes + incomingBytes ≤ P.limits.maxDatabaseBytes)
    (.rejected .quotaExceeded "admission database byte quota would be exceeded")

/-- `register_lease`. -/
def registerLease (file : DatabaseFile) (db : Ledger) (grant : SignedJobLease) :
    Except AdmissionError (Ledger × SignedJobLease) := do
  let lease := grant.lease
  require lease.valid
    (.rejected .malformedLease "signed lease is not the canonical supported schema")
  require (P.authorityVerifies lease grant.authoritySignature = true
      ∧ lease.leaseAuthorityKeyFingerprint = P.leaseAuthorityFingerprint)
    (.rejected .invalidLeaseSignature
      "signed lease did not bind and verify under the configured authority key")
  let registered ← registeredGrant P db grant
  if registered then pure (db, grant)
  else do
    admitLease P db lease
    checkDatabaseCapacity P file (P.grantLength grant + 4096)
    let db₁ ← insertLease db
      { toLeaseColumns := lease.columns P
        grant
        consumedEnvelopeDigest := none
        consumedReceiptDigest := none }
    pure (db₁, grant)

/-- `_lease_by_nonce`. -/
def leaseByNonce (db : Ledger) (nonceDigest : Digest) :
    Except AdmissionError (LeaseRow × SignedJobLease) := do
  let row ← expect (db.leaseByNonceRow nonceDigest)
    (.rejected .unknownLease "no issued lease matches the statement nonce")
  let grant ← verifyGrantRow P row
  pure (row, grant)

/-- The row of the statement's lease, with the two checks both callers make. -/
def statementLease (db : Ledger) (statement : CollectionStatement) :
    Except AdmissionError (LeaseRow × SignedJobLease) := do
  let (row, grant) ← leaseByNonce P db (statement.nonceDigest P)
  require (statement.matchesLease P grant.lease)
    (.rejected .leaseMismatch "signed statement does not exactly match its issued lease")
  require (row.consumedEnvelopeDigest = none ↔ row.consumedReceiptDigest = none)
    (corrupted "stored lease consumption markers are incomplete")
  pure (row, grant)

/-- `_clock_floor`. -/
def clockFloor (db : Ledger) (now : Instant) : Except AdmissionError Unit :=
  require (∀ floor ∈ db.lastAdmittedAt, floor ≤ now)
    (.rejected .clockRollback
      "service clock is earlier than the durable admission high-water mark")

/-- A retry must have found the stored time, or have a clock that is not behind. -/
def checkRetryTime (db : Ledger) (originalAdmittedAt : Option Instant) (admittedAt now : Instant)
    (detail : String) : Except AdmissionError Unit :=
  match originalAdmittedAt with
  | none => clockFloor db now
  | some original => require (original = admittedAt) (corrupted detail)

/-- `retry_admitted_at`. -/
def retryAdmittedAt (heads : List TenantHead) (db : Ledger) (statement : CollectionStatement)
    (envelopeDigest : Digest) (now : Instant) : Except AdmissionError (Option Instant) := do
  let (leaseRow, grant) ← statementLease P db statement
  match leaseRow.consumedEnvelopeDigest with
  | none =>
    match db.preparationByLease (grant.lease.leaseDigest P) with
    | none => pure none
    | some row => do
      let prepared ← preparedAdmissionFromRow P db row
      require (prepared.body.envelopeDigest = envelopeDigest)
        (.rejected .replayConflict "one-time lease is reserved by a different envelope")
      clockFloor db now
      pure (some prepared.body.admittedAt)
  | some consumed => do
    require (consumed = envelopeDigest)
      (.rejected .replayConflict "one-time lease was consumed by a different envelope")
    clockFloor db now
    let row ← expect (db.admissionByLease (grant.lease.leaseDigest P))
      (corrupted "consumed lease has no admission record")
    let receipt ← verifyReceiptRow P db row
    verifyReceiptChainNeighborhood P heads db receipt
    pure (some receipt.body.admittedAt)

/-! ## Preparing a receipt -/

/-- `_advance_policy_head`. -/
def advancePolicyHead (db : Ledger) (policyId : String) (revision : Nat) (digest : Digest) :
    Except AdmissionError Ledger := do
  let head ← verifyPolicyHead db policyId
  require (∀ h ∈ head, h.1 ≤ revision)
    (.rejected .policyRollback
      "signed trust-policy revision is older than the durable high-water mark")
  require (∀ h ∈ head, revision = h.1 → digest = h.2)
    (.rejected .policyFork "one trust-policy revision cannot identify two byte snapshots")
  if ∃ h ∈ head, revision = h.1 then pure db
  else do
    require (∀ v ∈ db.policyVersions, ¬(v.policyId = policyId ∧ v.policyRevision = revision))
      (.rejected .policyFork "trust-policy revision conflicts with immutable ledger history")
    pure { db with
      policyVersions := db.policyVersions ++ [⟨policyId, revision, digest⟩]
      policyHeads := db.policyHeads.filter (fun h => !decide (h.policyId = policyId))
        ++ [⟨policyId, revision, digest⟩] }

/-- `INSERT INTO admission_preparations`. -/
def insertPreparation (db : Ledger) (row : PreparationRow) : Except AdmissionError Ledger := do
  constrain (∀ p ∈ db.preparations, p.receiptBodyDigest ≠ row.receiptBodyDigest)
  constrain (∀ p ∈ db.preparations, p.leaseDigest ≠ row.leaseDigest)
  constrain (∀ p ∈ db.preparations, p.tenantId ≠ row.tenantId)
  constrain (∀ p ∈ db.preparations, p.envelopeDigest ≠ row.envelopeDigest)
  constrain (∀ p ∈ db.preparations, p.custodyObjectId ≠ row.custodyObjectId)
  constrain (∃ l ∈ db.leases, l.leaseDigest = row.leaseDigest)
  constrain (⟨row.policyId, row.policyRevision, row.policyDigest⟩ ∈ db.policyVersions)
  pure { db with preparations := db.preparations ++ [row] }

inductive PreparedOrStored where
  | prepared (p : PreparedAdmission)
  | stored (s : StoredAdmission)
deriving DecidableEq

/-- A stored row as an answer. -/
def AdmissionRow.stored (row : AdmissionRow) (receipt : AdmissionReceipt)
    (ack : Option CustodyAcknowledgement) : StoredAdmission :=
  ⟨.exactRetry, receipt, row.evidence, row.custodyReference, ack⟩

/-- The lease was consumed: the answer is its receipt. -/
def retryConsumed (heads : List TenantHead) (db : Ledger) (inputs : AdmissionInputs P)
    (lease : JobLease) (consumed : Digest) (originalAdmittedAt : Option Instant)
    (now : Instant) : Except AdmissionError StoredAdmission := do
  require (consumed = inputs.envelopeDigest P)
    (.rejected .replayConflict "one-time lease was consumed by a different envelope")
  let row ← expect (db.admissionByLease (lease.leaseDigest P))
    (corrupted "consumed lease has no admission record")
  let receipt ← verifyReceiptRow P db row
  verifyReceiptChainNeighborhood P heads db receipt
  checkRetryTime db originalAdmittedAt receipt.body.admittedAt now
    "retry probe and durable receipt disagree on admission time"
  let candidate ← candidateFor P inputs receipt.body.admittedAt
  require (row.requestFingerprint = candidate.requestFingerprint)
    (.rejected .retryMismatch "retry inputs differ from the original admission request")
  let ack ← storedAck P row
  pure (row.stored receipt ack)

/-- The lease is reserved: its preparation, and the request verified again. -/
def reverified (db : Ledger) (inputs : AdmissionInputs P) (row : PreparationRow)
    (originalAdmittedAt : Option Instant) (now : Instant) :
    Except AdmissionError (PreparedAdmission × VerifiedAdmission) := do
  let prepared ← preparedAdmissionFromRow P db row
  require (prepared.body.envelopeDigest = inputs.envelopeDigest P)
    (.rejected .replayConflict "one-time lease is reserved by a different envelope")
  checkRetryTime db originalAdmittedAt prepared.body.admittedAt now
    "retry probe and durable preparation disagree on admission time"
  let candidate ← candidateFor P inputs prepared.body.admittedAt
  pure (prepared, candidate)

/-- The answer is the preparation, if the request would make the same one. -/
def retryPrepared (db : Ledger) (inputs : AdmissionInputs P) (row : PreparationRow)
    (originalAdmittedAt : Option Instant) (now : Instant) :
    Except AdmissionError PreparedAdmission := do
  let (prepared, candidate) ← reverified P db inputs row originalAdmittedAt now
  let expected ← receiptBody P candidate prepared.body.receiptSequence
    prepared.body.previousReceiptDigest
  require (expected = prepared.body ∧ candidate.evidence = prepared.evidence)
    (.rejected .retryMismatch "retry inputs differ from the durable signing preparation")
  pure prepared

/-- What a reservation counts against the capacity. -/
def incomingBytes (body : AdmissionReceiptBody) (evidence : Evidence) : Nat :=
  P.canonicalLength (.receiptBody body) + evidence.envelopeBytes.length
    + evidence.cabSnapshotBytes.length + evidence.policyBytes.length
    + P.canonicalLength (.attestation evidence.attestation) + 16 * 1024

/-- The lease is free: the verified request, the head of its tenant and the tables with
the policy head advanced, from which the receipt body is built. -/
def reservable (heads : List TenantHead) (db : Ledger) (inputs : AdmissionInputs P)
    (lease : JobLease) (now : Instant) :
    Except AdmissionError (VerifiedAdmission × Option (Nat × Digest) × Ledger) := do
  let statement := inputs.statement
  require (∀ p ∈ db.preparations, p.tenantId ≠ statement.tenantId)
    (.rejected .custodyUnavailable
      "tenant has an earlier receipt awaiting signature; retry it first")
  clockFloor db now
  let candidate ← candidateFor P inputs now
  require (candidate.admittedAt = candidate.currentTime)
    (corrupted "new admissions must use the service clock instant")
  require (candidate.policyDigest = statement.policyDigest
      ∧ candidate.policyDigest = lease.policyDigest)
    (corrupted "verified policy bytes do not match the signed policy digest")
  require (candidate.admittedAt < lease.expiresAt)
    (.rejected .leaseExpired "lease expired before trusted admission time")
  require (lease.issuedAt ≤ candidate.admittedAt)
    (.rejected .leaseMismatch "trusted admission time predates lease issuance")
  require (lease.issuedAt ≤ statement.collectedAt ∧ statement.collectedAt < lease.expiresAt
      ∧ statement.collectedAt ≤ candidate.admittedAt)
    (.rejected .leaseMismatch "collection time is outside the trusted lease/admission window")
  let collectorHead ← verifyCollectorHead P db statement.tenantId statement.collectorId
  checkCollector collectorHead statement.position
    (.rejected .epochMismatch "the first collector admission must be epoch 1 sequence 1")
    (.rejected .outOfSequence ("expected collector sequence "
      ++ toString ((collectorHead.map fun h => h.2.1 + 1).getD 1)))
    (.rejected .epochMismatch "new epoch does not bind the preceding collector head")
    (.rejected .epochMismatch "collector epoch is stale or skips a durable epoch")
  let tenantHead ← verifyTenantHead P heads db statement.tenantId
  require (¬db.pendingReceipt statement.tenantId)
    (.rejected .custodyUnavailable
      ("tenant has an earlier receipt awaiting durable custody; "
        ++ "reconcile it before admitting a successor"))
  require ((∀ a ∈ db.admissions, a.envelopeDigest ≠ candidate.envelopeDigest)
      ∧ ∀ p ∈ db.preparations, p.envelopeDigest ≠ candidate.envelopeDigest)
    (.rejected .replayConflict "envelope was already admitted or reserved under another lease")
  let db₁ ← advancePolicyHead db statement.policyId statement.policyRevision
    candidate.policyDigest
  pure (candidate, tenantHead, db₁)

/-- Reserve the next position for the receipt. -/
def reserve (file : DatabaseFile) (heads : List TenantHead) (db : Ledger) (inputs : AdmissionInputs P)
    (lease : JobLease) (now : Instant) : Except AdmissionError (Ledger × PreparedAdmission) := do
  let statement := inputs.statement
  let (candidate, tenantHead, db₁) ← reservable P heads db inputs lease now
  let receiptSequence := nextNumber tenantHead
  let body ← receiptBody P candidate receiptSequence (tenantHead.map Prod.snd)
  require ((db₁.tenantAdmissions statement.tenantId).length
      + (db₁.preparations.filter fun p => decide (p.tenantId = statement.tenantId)).length
      < P.limits.maxAdmissionsPerTenant)
    (.rejected .quotaExceeded "tenant admission quota is exhausted")
  checkDatabaseCapacity P file (incomingBytes P body candidate.evidence)
  let db₂ ← insertPreparation db₁
    { toPreparationColumns := body.preparationColumns P
      receiptBody := body
      evidence := candidate.evidence }
  pure ({ db₂ with lastAdmittedAt := some candidate.currentTime },
    ⟨P.sha (.receiptBody body), body, candidate.evidence⟩)

/-- `_prepare_admission`. -/
def prepareAdmission (file : DatabaseFile) (heads : List TenantHead) (db : Ledger) (inputs : AdmissionInputs P)
    (originalAdmittedAt : Option Instant) (now : Instant) :
    Except AdmissionError (Ledger × PreparedOrStored) := do
  let (leaseRow, grant) ← statementLease P db inputs.statement
  match leaseRow.consumedEnvelopeDigest with
  | some consumed => do
    let stored ← retryConsumed P heads db inputs grant.lease consumed originalAdmittedAt now
    pure (db, .stored stored)
  | none =>
    match db.preparationByLease (grant.lease.leaseDigest P) with
    | some row => do
      let prepared ← retryPrepared P db inputs row originalAdmittedAt now
      pure (db, .prepared prepared)
    | none => do
      let (db₁, prepared) ← reserve P file heads db inputs grant.lease now
      pure (db₁, .prepared prepared)

/-! ## Finalizing a receipt -/

/-- `INSERT INTO admissions`. -/
def insertAdmission (db : Ledger) (row : AdmissionRow) : Except AdmissionError Ledger := do
  constrain (∀ a ∈ db.admissions, a.receiptDigest ≠ row.receiptDigest)
  constrain (∀ a ∈ db.admissions, a.leaseDigest ≠ row.leaseDigest)
  constrain (∀ a ∈ db.admissions, a.envelopeDigest ≠ row.envelopeDigest)
  constrain (∀ a ∈ db.admissions, a.custodyObjectId ≠ row.custodyObjectId)
  constrain (∀ a ∈ db.admissions,
    ¬(a.tenantId = row.tenantId ∧ a.receiptSequence = row.receiptSequence))
  constrain (∀ a ∈ db.admissions, ¬(a.tenantId = row.tenantId
    ∧ a.collectorId = row.collectorId ∧ a.epoch = row.epoch ∧ a.sequence = row.sequence))
  pure { db with admissions := db.admissions ++ [row] }

/-- The lease already has a receipt: it must be of the expected body. -/
def finalizedAlready (heads : List TenantHead) (db : Ledger) (expected : PreparedAdmission)
    (receipt : AdmissionReceipt) (row : AdmissionRow) :
    Except AdmissionError StoredAdmission := do
  let existing ← verifyReceiptRow P db row
  verifyReceiptChainNeighborhood P heads db existing
  require (existing.body = expected.body ∧ receipt.body = expected.body)
    (.rejected .retryMismatch "finalized receipt differs from the durable preparation")
  let ack ← storedAck P row
  pure (row.stored existing ack)

/-- The row a signed receipt becomes. -/
def AdmissionReceipt.row (receipt : AdmissionReceipt) (evidence : Evidence) : AdmissionRow :=
  { toAdmissionColumns := receipt.columns P
    receipt
    evidence
    custodyState := .pending
    custodyAckDigest := none
    custodyAck := none }

/-- Replace the preparation by the signed receipt, consume the lease and move the
heads. -/
def replacePreparation (db : Ledger) (prepared : PreparedAdmission)
    (receipt : AdmissionReceipt) : Except AdmissionError Ledger := do
  let body := prepared.body
  let digest := receipt.receiptDigest P
  let own : PreparationRow → Bool := fun p => decide
    (p.receiptBodyDigest = prepared.receiptBodyDigest ∧ p.leaseDigest = body.leaseDigest)
  require (db.preparations.countP own = 1)
    (corrupted "receipt preparation compare-and-delete failed")
  let db₁ ← insertAdmission
    { db with preparations := db.preparations.filter fun p => !own p }
    (receipt.row P prepared.evidence)
  let unused : LeaseRow → Bool := fun l => decide (l.leaseDigest = body.leaseDigest
    ∧ l.consumedEnvelopeDigest = none ∧ l.consumedReceiptDigest = none)
  require (db₁.leases.countP unused = 1) (corrupted "lease consumption was not atomic")
  pure { db₁ with
    leases := updateWhere unused (fun l => { l with
      consumedEnvelopeDigest := some body.envelopeDigest
      consumedReceiptDigest := some digest }) db₁.leases
    collectorHeads := upsertCollector db₁.collectorHeads
      ⟨body.tenantId, body.collectorId, body.epoch, body.sequence, digest⟩
    tenantHeads := db₁.tenantHeads.filter (fun h => !decide (h.tenantId = body.tenantId))
      ++ [⟨body.tenantId, body.receiptSequence, digest⟩] }

/-- `_finalize_admission`. -/
def finalizeAdmission (heads : List TenantHead) (db : Ledger) (expected : PreparedAdmission)
    (receipt : AdmissionReceipt) : Except AdmissionError (Ledger × StoredAdmission) :=
  match db.admissionByLease expected.body.leaseDigest with
  | some row => do
    let stored ← finalizedAlready P heads db expected receipt row
    pure (db, stored)
  | none => do
    let row ← expect (db.preparationByLease expected.body.leaseDigest)
      (corrupted "durable receipt preparation disappeared before finalization")
    let prepared ← preparedAdmissionFromRow P db row
    require (prepared = expected ∧ receipt.body = prepared.body)
      (.rejected .retryMismatch "signed receipt does not match the durable preparation")
    require (P.signerVerifies (.receipt receipt.body) receipt.serviceSignature = true)
      (.rejected .invalidReceiptSignature "signed receipt changed before finalization")
    let tenantHead ← verifyTenantHead P heads db prepared.body.tenantId
    let expectedSequence := nextNumber tenantHead
    let collectorHead ← verifyCollectorHead P db prepared.body.tenantId
      prepared.body.collectorId
    require (prepared.body.receiptSequence = expectedSequence
        ∧ prepared.body.previousReceiptDigest = tenantHead.map Prod.snd
        ∧ collectorValid collectorHead prepared.body.position
        ∧ ¬db.pendingReceipt prepared.body.tenantId)
      (corrupted "reserved tenant or collector chain position changed")
    let db₁ ← replacePreparation P db prepared receipt
    pure (db₁, ⟨.admitted, receipt, prepared.evidence, prepared.body.custodyReference, none⟩)

/-! ## Custody acknowledgements -/

inductive PreparedOrAcknowledged where
  | prepared (p : PreparedCustodyAcknowledgement)
  | acknowledged (a : CustodyAcknowledgement)
deriving DecidableEq

/-- `INSERT INTO custody_ack_preparations`. -/
def insertAckPreparation (db : Ledger) (row : AckPreparationRow) :
    Except AdmissionError Ledger := do
  constrain (∀ a ∈ db.ackPreparations, a.receiptDigest ≠ row.receiptDigest)
  constrain (∀ a ∈ db.ackPreparations,
    a.acknowledgementBodyDigest ≠ row.acknowledgementBodyDigest)
  constrain (∃ a ∈ db.admissions, a.receiptDigest = row.receiptDigest)
  pure { db with ackPreparations := db.ackPreparations ++ [row] }

/-- `_prepare_custody_acknowledgement`. -/
def prepareCustodyAcknowledgement (db : Ledger) (receiptDigest : Digest)
    (custodyReference : String) :
    Except AdmissionError (Ledger × PreparedOrAcknowledged) := do
  let row ← expect (db.admissionByReceipt receiptDigest)
    (corrupted "receipt disappeared before custody acknowledgement")
  let receipt ← verifyReceiptRow P db row
  require (custodyReference = row.custodyReference)
    (.rejected .custodyUnavailable "custody returned a non-idempotent reference")
  let existing ← storedAck P row
  match existing, db.ackPreparation receiptDigest with
  | some ack, _ => pure (db, .acknowledged ack)
  | none, some preparedRow => do
    let prepared ← preparedAcknowledgementFromRow P db preparedRow
    require (prepared.body.custodyReference = custodyReference)
      (.rejected .custodyUnavailable "custody acknowledgement retry changed its reference")
    pure (db, .prepared prepared)
  | none, none => do
    require (¬db.pendingBefore row.tenantId row.receiptSequence)
      (.rejected .custodyUnavailable
        "an earlier tenant receipt must reach durable custody first")
    let body := acknowledgementBody P receipt custodyReference
    let bodyDigest := P.sha (.acknowledgementBody body)
    let db₁ ← insertAckPreparation db ⟨receiptDigest, bodyDigest, body⟩
    pure (db₁, .prepared ⟨bodyDigest, body⟩)

/-- `_finalize_custody_acknowledgement`. -/
def finalizeCustodyAcknowledgement (db : Ledger) (expected : PreparedCustodyAcknowledgement)
    (acknowledgement : CustodyAcknowledgement) :
    Except AdmissionError (Ledger × CustodyAcknowledgement) := do
  let row ← expect (db.admissionByReceipt expected.body.receiptDigest)
    (corrupted "receipt disappeared before custody acknowledgement finalization")
  let existing ← storedAck P row
  match existing with
  | some ack => do
    require (ack.body = expected.body ∧ acknowledgement.body = expected.body)
      (.rejected .retryMismatch "final custody acknowledgement differs from its preparation")
    pure (db, ack)
  | none => do
    let preparedRow ← expect (db.ackPreparation expected.body.receiptDigest)
      (corrupted "custody acknowledgement preparation disappeared")
    let prepared ← preparedAcknowledgementFromRow P db preparedRow
    require (prepared = expected ∧ acknowledgement.body = prepared.body
        ∧ P.signerVerifies (.acknowledgement acknowledgement.body)
          acknowledgement.serviceSignature = true)
      (.rejected .invalidReceiptSignature "custody acknowledgement changed before finalization")
    require (¬db.pendingBefore row.tenantId row.receiptSequence)
      (.rejected .custodyUnavailable
        "an earlier tenant receipt must reach durable custody first")
    let own : AckPreparationRow → Bool := fun a => decide
      (a.receiptDigest = expected.body.receiptDigest
        ∧ a.acknowledgementBodyDigest = expected.acknowledgementBodyDigest)
    require (db.ackPreparations.countP own = 1)
      (corrupted "custody acknowledgement compare-and-delete failed")
    let open_ : AdmissionRow → Bool := fun a => decide
      (a.receiptDigest = expected.body.receiptDigest ∧ a.custodyState = .pending)
    require (db.admissions.countP open_ = 1)
      (corrupted "custody acknowledgement transition was not atomic")
    pure ({ db with
      ackPreparations := db.ackPreparations.filter fun a => !own a
      admissions := updateWhere open_ (fun a => { a with
        custodyState := .durable
        custodyAckDigest := some (P.sha (.acknowledgement acknowledgement))
        custodyAck := some acknowledgement }) db.admissions }, acknowledgement)

end

end ControlAssurance.Admission
