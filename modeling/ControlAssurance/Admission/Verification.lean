import ControlAssurance.Admission.Ledger

/-!
# Reading the ledger back

Every read of `_SQLiteAdmissionLedger` verifies what it reads. The functions
follow the source one by one: grants, receipts, preparations and
acknowledgements against their own documents and keys; tenant, collector and
policy heads against the rows they summarise; and the complete walk over the
history, `validateCompleteLedger`.
-/

namespace ControlAssurance.Admission

open Lib

/-- The rejection of stored data that does not fit together. -/
def corrupted (detail : String) : AdmissionError :=
  .rejected .internalIntegrityError detail

/-! ## Lookups -/

def Ledger.leaseRow (db : Ledger) (leaseDigest : Digest) : Option LeaseRow :=
  db.leases.find? fun l => decide (l.leaseDigest = leaseDigest)

def Ledger.leaseByNonceRow (db : Ledger) (nonceDigest : Digest) : Option LeaseRow :=
  db.leases.find? fun l => decide (l.nonceDigest = nonceDigest)

def Ledger.policyVersion (db : Ledger) (policyId : String) (revision : Nat) :
    Option PolicyVersion :=
  db.policyVersions.find? fun v => decide (v.policyId = policyId ∧ v.policyRevision = revision)

def Ledger.policyHead (db : Ledger) (policyId : String) : Option PolicyHead :=
  db.policyHeads.find? fun h => decide (h.policyId = policyId)

def Ledger.collectorHead (db : Ledger) (tenantId collectorId : String) :
    Option CollectorHead :=
  db.collectorHeads.find? fun h =>
    decide (h.tenantId = tenantId ∧ h.collectorId = collectorId)

/-- A lookup in `tenant_heads`, and in an instance's validated heads. -/
def tenantHeadIn (heads : List TenantHead) (tenantId : String) : Option TenantHead :=
  heads.find? fun h => decide (h.tenantId = tenantId)

def Ledger.admissionByLease (db : Ledger) (leaseDigest : Digest) : Option AdmissionRow :=
  db.admissions.find? fun a => decide (a.leaseDigest = leaseDigest)

def Ledger.admissionByReceipt (db : Ledger) (receiptDigest : Digest) : Option AdmissionRow :=
  db.admissions.find? fun a => decide (a.receiptDigest = receiptDigest)

def Ledger.admissionAt (db : Ledger) (tenantId : String) (sequence : Nat) :
    Option AdmissionRow :=
  db.admissions.find? fun a => decide (a.tenantId = tenantId ∧ a.receiptSequence = sequence)

def Ledger.preparationByLease (db : Ledger) (leaseDigest : Digest) : Option PreparationRow :=
  db.preparations.find? fun p => decide (p.leaseDigest = leaseDigest)

def Ledger.ackPreparation (db : Ledger) (receiptDigest : Digest) : Option AckPreparationRow :=
  db.ackPreparations.find? fun a => decide (a.receiptDigest = receiptDigest)

def Ledger.tenantAdmissions (db : Ledger) (tenantId : String) : List AdmissionRow :=
  db.admissions.filter fun a => decide (a.tenantId = tenantId)

/-- `ORDER BY receipt_sequence DESC LIMIT 1`. -/
def latestReceipt (rows : List AdmissionRow) : Option AdmissionRow :=
  firstBy (fun a b => decide (b.receiptSequence ≤ a.receiptSequence)) rows

/-- The tenant has a receipt whose custody is not confirmed. -/
def Ledger.pendingReceipt (db : Ledger) (tenantId : String) : Prop :=
  ∃ a ∈ db.admissions, a.tenantId = tenantId ∧ a.custodyState = .pending

instance (db : Ledger) (tenantId : String) : Decidable (db.pendingReceipt tenantId) :=
  inferInstanceAs (Decidable (∃ a ∈ db.admissions, _))

/-- The tenant has such a receipt before the given one. -/
def Ledger.pendingBefore (db : Ledger) (tenantId : String) (sequence : Nat) : Prop :=
  ∃ a ∈ db.admissions, a.tenantId = tenantId ∧ a.receiptSequence < sequence
    ∧ a.custodyState ≠ .durable

instance (db : Ledger) (tenantId : String) (sequence : Nat) :
    Decidable (db.pendingBefore tenantId sequence) :=
  inferInstanceAs (Decidable (∃ a ∈ db.admissions, _))

section

variable (P : Profile)

/-! ## Rows against their documents -/

/-- `_verify_grant_row`. -/
def verifyGrantRow (row : LeaseRow) : Except AdmissionError SignedJobLease := do
  require row.grant.lease.valid (corrupted "stored lease is not canonical")
  require (P.authorityVerifies row.grant.lease row.grant.authoritySignature = true
      ∧ row.grant.lease.leaseAuthorityKeyFingerprint = P.leaseAuthorityFingerprint)
    (corrupted "stored lease authority signature or key binding is invalid")
  require (row.toLeaseColumns = row.grant.lease.columns P)
    (corrupted "stored lease columns do not match the authority-signed grant")
  pure row.grant

/-- `_verify_policy_head`: the head, the newest version and the newest revision
in use are one. -/
def verifyPolicyHead (db : Ledger) (policyId : String) :
    Except AdmissionError (Option (Nat × Digest)) :=
  let head := (db.policyHead policyId).map fun h => (h.currentRevision, h.currentPolicyDigest)
  let newest := firstBy (fun a b : Nat × Digest => decide (b.1 ≤ a.1))
  let latest := newest ((db.policyVersions.filter fun v =>
    decide (v.policyId = policyId)).map fun v => (v.policyRevision, v.policyDigest))
  let latestAdmission := newest
    ((db.admissions.filter fun a => decide (a.policyId = policyId)).map
        (fun a => (a.policyRevision, a.policyDigest))
      ++ (db.preparations.filter fun p => decide (p.policyId = policyId)).map
        fun p => (p.policyRevision, p.policyDigest))
  match head, latest, latestAdmission with
  | none, none, none => pure none
  | some head, some latest, some admitted => do
    require (head = latest ∧ admitted = latest)
      (corrupted "trust-policy head does not match admitted or reserved revision history")
    pure (some latest)
  | _, _, _ => .error (corrupted "trust-policy revision head is missing or orphaned")

/-- What a receipt body must say of the statement, the lease and the evidence it
was made from. -/
def EvidenceBound (b : AdmissionReceiptBody) (ev : Evidence) (statement : CollectionStatement)
    (lease : JobLease) : Prop :=
  statement.matchesLease P lease
  ∧ b.leaseAuthorityKeyFingerprint = P.leaseAuthorityFingerprint
  ∧ b.leaseAuthorityKeyFingerprint = lease.leaseAuthorityKeyFingerprint
  ∧ b.receiptSignerKeyFingerprint = P.receiptSignerFingerprint
  ∧ b.leaseAuthorityKeyFingerprint ≠ b.receiptSignerKeyFingerprint
  ∧ b.leaseDigest = lease.leaseDigest P
  ∧ b.nonceDigest = statement.nonceDigest P
  ∧ b.tenantId = statement.tenantId
  ∧ b.collectorId = statement.collectorId
  ∧ b.audience = statement.audience
  ∧ b.jobId = statement.jobId
  ∧ b.capabilityDigest = statement.capabilityDigest
  ∧ b.position = statement.position
  ∧ b.cabId = statement.cabId
  ∧ b.manifestDigest = statement.manifestDigest
  ∧ b.custodyObjectId = P.sha (.custodyObject statement.tenantId statement.jobId
      b.envelopeDigest b.cabSnapshotDigest)
  ∧ b.payloadDigest = P.sha (.statement statement)
  ∧ b.trustPolicyId = statement.policyId
  ∧ b.trustPolicyRevision = statement.policyRevision
  ∧ b.trustPolicyDigest = statement.policyDigest
  ∧ b.acceptedKeyIds = ev.attestation.acceptedKeyIds
  ∧ b.acceptedIdentities = ev.attestation.acceptedIdentities
  ∧ ev.attestation.rawEnvelopeSha256 = some b.envelopeDigest
  ∧ ev.attestation.expectedPayloadSha256 = some b.payloadDigest
  ∧ ev.attestation.trustPolicySha256 = some b.trustPolicyDigest
  ∧ ev.attestation.admissionTime = some b.admittedAt
  ∧ P.verifyAttestation ev.envelopeBytes ev.policyBytes statement b.admittedAt = ev.attestation
  ∧ lease.issuedAt ≤ b.admittedAt ∧ b.admittedAt < lease.expiresAt
  ∧ lease.issuedAt ≤ statement.collectedAt ∧ statement.collectedAt < lease.expiresAt
  ∧ statement.collectedAt ≤ b.admittedAt

instance (b : AdmissionReceiptBody) (ev : Evidence) (statement : CollectionStatement)
    (lease : JobLease) : Decidable (EvidenceBound P b ev statement lease) :=
  inferInstanceAs (Decidable (_ ∧ _))

/-- The stored bytes are the ones the receipt body names. -/
def EvidenceDigests (b : AdmissionReceiptBody) (ev : Evidence) : Prop :=
  P.sha (.bytes ev.envelopeBytes) = b.envelopeDigest
  ∧ P.sha (.bytes ev.cabSnapshotBytes) = b.cabSnapshotDigest
  ∧ P.sha (.bytes ev.policyBytes) = b.trustPolicyDigest
  ∧ P.sha (.attestation ev.attestation) = b.attestationVerificationDigest

instance (b : AdmissionReceiptBody) (ev : Evidence) : Decidable (EvidenceDigests P b ev) :=
  inferInstanceAs (Decidable (_ ∧ _ ∧ _ ∧ _))

/-- `_verify_receipt_row`. -/
def verifyReceiptRow (db : Ledger) (row : AdmissionRow) :
    Except AdmissionError AdmissionReceipt := do
  let body := row.receipt.body
  require body.valid (corrupted "stored receipt is not canonical")
  require (P.signerVerifies (.receipt body) row.receipt.serviceSignature = true)
    (.rejected .invalidReceiptSignature "stored receipt service signature is invalid")
  require (row.receipt.receiptDigest P = row.receiptDigest)
    (corrupted "stored receipt digest does not match its bytes")
  require (row.toAdmissionColumns = row.receipt.columns P ∧ EvidenceDigests P body row.evidence)
    (corrupted "stored admission columns do not match the signed receipt")
  let statement ← expect (P.parseStatement row.evidence.envelopeBytes)
    (corrupted "stored envelope or trust policy is invalid")
  let policyId ← expect (P.parseTrustPolicy row.evidence.policyBytes)
    (corrupted "stored envelope or trust policy is invalid")
  require (row.evidence.attestation.verified = true)
    (corrupted "stored attestation verification is invalid")
  let grantRow ← expect (db.leaseRow row.leaseDigest)
    (corrupted "admission references a missing lease")
  let grant ← verifyGrantRow P grantRow
  require ((db.policyVersion body.trustPolicyId body.trustPolicyRevision).map (·.policyDigest)
      = some body.trustPolicyDigest)
    (corrupted "stored receipt references an unknown or forked trust-policy revision")
  let policyHead ← verifyPolicyHead db body.trustPolicyId
  require (∃ head ∈ policyHead, body.trustPolicyRevision ≤ head.1)
    (corrupted "stored receipt is ahead of the durable trust-policy revision head")
  require (EvidenceBound P body row.evidence statement grant.lease
      ∧ grantRow.consumedEnvelopeDigest = some body.envelopeDigest
      ∧ grantRow.consumedReceiptDigest = some (row.receipt.receiptDigest P)
      ∧ row.evidence.attestation.policyId = some body.trustPolicyId
      ∧ policyId = body.trustPolicyId)
    (corrupted "stored admission bindings are incoherent")
  require (body.requestFingerprint P row.evidence.attestation
      = body.admissionRequestFingerprint)
    (corrupted "stored admission request fingerprint is invalid")
  pure row.receipt

/-- A durable unsigned receipt body and the exact bytes it will authorize. -/
structure PreparedAdmission where
  receiptBodyDigest : Digest
  body : AdmissionReceiptBody
  evidence : Evidence
deriving DecidableEq

/-- `_prepared_admission_from_row`. -/
def preparedAdmissionFromRow (db : Ledger) (row : PreparationRow) :
    Except AdmissionError PreparedAdmission := do
  let body := row.receiptBody
  let unverified := corrupted "stored admission preparation is not canonical and verified"
  require body.valid unverified
  let statement ← expect (P.parseStatement row.evidence.envelopeBytes) unverified
  let policyId ← expect (P.parseTrustPolicy row.evidence.policyBytes) unverified
  require (row.evidence.attestation.verified = true)
    (corrupted "stored attestation verification is invalid")
  let snapshot ← expect (P.verifySnapshot row.evidence.cabSnapshotBytes) unverified
  let leaseRow ← expect (db.leaseRow body.leaseDigest)
    (corrupted "admission preparation references a missing lease")
  let grant ← verifyGrantRow P leaseRow
  require (row.toPreparationColumns = body.preparationColumns P
      ∧ EvidenceDigests P body row.evidence
      ∧ leaseRow.consumedEnvelopeDigest = none ∧ leaseRow.consumedReceiptDigest = none
      ∧ (db.policyVersion body.trustPolicyId body.trustPolicyRevision).map (·.policyDigest)
        = some body.trustPolicyDigest
      ∧ EvidenceBound P body row.evidence statement grant.lease
      ∧ policyId = body.trustPolicyId
      ∧ snapshot.cabId = body.cabId ∧ snapshot.manifestDigest = body.manifestDigest
      ∧ body.requestFingerprint P row.evidence.attestation = body.admissionRequestFingerprint)
    (corrupted "stored admission preparation bindings are incoherent")
  pure ⟨P.sha (.receiptBody body), body, row.evidence⟩

/-- The acknowledgement body of a receipt. -/
def acknowledgementBody (r : AdmissionReceipt) (custodyReference : String) :
    CustodyAcknowledgementBody :=
  { receiptDigest := r.receiptDigest P
    custodyObjectId := r.body.custodyObjectId
    custodyReference
    envelopeDigest := r.body.envelopeDigest
    cabSnapshotDigest := r.body.cabSnapshotDigest
    trustPolicyDigest := r.body.trustPolicyDigest
    receiptSignerKeyFingerprint := P.receiptSignerFingerprint }

/-- `_stored_ack`. -/
def storedAck (row : AdmissionRow) : Except AdmissionError (Option CustodyAcknowledgement) :=
  match row.custodyState with
  | .pending => do
    require (row.custodyAck = none ∧ row.custodyAckDigest = none)
      (corrupted "pending custody row already contains an acknowledgement")
    pure none
  | .durable =>
    match row.custodyAck, row.custodyAckDigest with
    | some ack, some ackDigest => do
      require (P.sha (.acknowledgement ack) = ackDigest
          ∧ P.signerVerifies (.acknowledgement ack.body) ack.serviceSignature = true
          ∧ ack.body.receiptDigest = row.receiptDigest
          ∧ ack.body.custodyObjectId = row.custodyObjectId
          ∧ ack.body.custodyReference = row.custodyReference
          ∧ ack.body.envelopeDigest = row.envelopeDigest
          ∧ ack.body.cabSnapshotDigest = row.cabSnapshotDigest
          ∧ ack.body.trustPolicyDigest = row.policyDigest
          ∧ ack.body.receiptSignerKeyFingerprint = P.receiptSignerFingerprint)
        (corrupted "stored custody acknowledgement binding is invalid")
      pure (some ack)
    | _, _ => .error (corrupted "durable custody row is missing its acknowledgement")

structure PreparedCustodyAcknowledgement where
  acknowledgementBodyDigest : Digest
  body : CustodyAcknowledgementBody
deriving DecidableEq

/-- `_prepared_acknowledgement_from_row`. -/
def preparedAcknowledgementFromRow (db : Ledger) (row : AckPreparationRow) :
    Except AdmissionError PreparedCustodyAcknowledgement := do
  let body := row.acknowledgementBody
  require (safeReference body.custodyReference = true)
    (corrupted "stored custody acknowledgement preparation is not canonical")
  let bodyDigest := P.sha (.acknowledgementBody body)
  let admission ← expect (db.admissionByReceipt body.receiptDigest)
    (corrupted "custody acknowledgement preparation references a missing receipt")
  let receipt ← verifyReceiptRow P db admission
  require (body.receiptDigest = row.receiptDigest
      ∧ bodyDigest = row.acknowledgementBodyDigest
      ∧ admission.custodyState = .pending
      ∧ admission.custodyAckDigest = none ∧ admission.custodyAck = none
      ∧ body = acknowledgementBody P receipt receipt.body.custodyReference)
    (corrupted "stored custody acknowledgement preparation bindings are incoherent")
  require (¬db.pendingBefore admission.tenantId admission.receiptSequence)
    (corrupted "custody acknowledgement preparation bypasses a pending predecessor")
  pure ⟨bodyDigest, body⟩

/-! ## Heads against the rows they summarise -/

/-- `_verify_tenant_head`, for an instance that has validated `heads`. -/
def verifyTenantHead (heads : List TenantHead) (db : Ledger) (tenantId : String) :
    Except AdmissionError (Option (Nat × Digest)) :=
  match tenantHeadIn db.tenantHeads tenantId, latestReceipt (db.tenantAdmissions tenantId) with
  | none, none => do
    require (tenantHeadIn heads tenantId = none)
      (corrupted "empty tenant receipt history disagrees with its validated state")
    pure none
  | some head, some latest => do
    let receipt ← verifyReceiptRow P db latest
    let digest := receipt.receiptDigest P
    require (head.lastReceiptSequence = receipt.body.receiptSequence
        ∧ head.lastReceiptDigest = digest)
      (corrupted "tenant receipt head does not match the latest signed receipt")
    require ((tenantHeadIn heads tenantId).map
          (fun h => (h.lastReceiptSequence, h.lastReceiptDigest))
        = some (receipt.body.receiptSequence, digest))
      (corrupted "tenant receipt history is not closed through its validated head")
    if receipt.body.receiptSequence = 1 then
      require (receipt.body.previousReceiptDigest = none)
        (corrupted "first tenant receipt has a predecessor")
    else do
      let predecessor ← expect (db.admissionAt tenantId (receipt.body.receiptSequence - 1))
        (corrupted "latest tenant receipt predecessor is missing")
      let previous ← verifyReceiptRow P db predecessor
      require (receipt.body.previousReceiptDigest = some (previous.receiptDigest P))
        (corrupted "latest tenant receipt predecessor binding is invalid")
    pure (some (receipt.body.receiptSequence, digest))
  | _, _ => .error (corrupted "tenant receipt head is missing or orphaned")

/-- `_verify_collector_head`. -/
def verifyCollectorHead (db : Ledger) (tenantId collectorId : String) :
    Except AdmissionError (Option (Nat × Nat × Digest)) :=
  match db.collectorHead tenantId collectorId,
      latestReceipt ((db.tenantAdmissions tenantId).filter fun a =>
        decide (a.collectorId = collectorId)) with
  | none, none => pure none
  | some head, some latest => do
    let receipt ← verifyReceiptRow P db latest
    let expected := (receipt.body.epoch, receipt.body.sequence, receipt.receiptDigest P)
    require (expected = (head.currentEpoch, head.lastSequence, head.lastReceiptDigest))
      (corrupted "collector head does not match the latest signed receipt")
    pure (some expected)
  | _, _ => .error (corrupted "collector sequence head is missing or orphaned")

/-- `_verify_receipt_chain_neighborhood`. -/
def verifyReceiptChainNeighborhood (heads : List TenantHead) (db : Ledger)
    (receipt : AdmissionReceipt) : Except AdmissionError Unit := do
  let sequence := receipt.body.receiptSequence
  let tenantId := receipt.body.tenantId
  if sequence = 1 then
    require (receipt.body.previousReceiptDigest = none)
      (corrupted "first receipt has a predecessor")
  else do
    let predecessor ← expect (db.admissionAt tenantId (sequence - 1))
      (corrupted "receipt predecessor is missing")
    let prior ← verifyReceiptRow P db predecessor
    require (receipt.body.previousReceiptDigest = some (prior.receiptDigest P))
      (corrupted "receipt predecessor digest is invalid")
  match db.admissionAt tenantId (sequence + 1) with
  | none => pure ()
  | some successor => do
    let following ← verifyReceiptRow P db successor
    require (following.body.previousReceiptDigest = some (receipt.receiptDigest P))
      (corrupted "receipt successor digest is invalid")
  let _ ← verifyTenantHead P heads db tenantId
  let _ ← verifyCollectorHead P db tenantId receipt.body.collectorId
  pure ()

/-! ## The complete walk -/

/-- What the walk over one tenant's receipts carries. -/
structure WalkState where
  seen : Nat
  previousDigest : Option Digest
  collectors : List CollectorHead
  pendingSeen : Bool
  times : List Instant

def WalkState.start : WalkState := ⟨0, none, [], false, []⟩

/-- Insert a row, or replace the one with the same key. -/
def upsertCollector (heads : List CollectorHead) (h : CollectorHead) : List CollectorHead :=
  heads.filter (fun x => !decide (x.tenantId = h.tenantId ∧ x.collectorId = h.collectorId))
    ++ [h]

/-- One round of the walk. -/
def walkRow (db : Ledger) (tenantId : String) (s : WalkState) (row : AdmissionRow) :
    Except AdmissionError WalkState := do
  let receipt ← verifyReceiptRow P db row
  let body := receipt.body
  let digest := receipt.receiptDigest P
  require (body.tenantId = tenantId ∧ body.receiptSequence = s.seen + 1
      ∧ body.previousReceiptDigest = s.previousDigest)
    (corrupted "tenant receipt chain is not closed over signed predecessor digests")
  require (s.pendingSeen = false)
    (corrupted "a tenant receipt exists beyond an unconfirmed custody predecessor")
  let prior := (s.collectors.find? fun h =>
      decide (h.tenantId = tenantId ∧ h.collectorId = body.collectorId)).map fun h =>
    (h.currentEpoch, h.lastSequence, h.lastReceiptDigest)
  checkCollector prior body.position
    (corrupted "collector history does not begin at epoch 1 sequence 1")
    (corrupted "collector history contains a sequence gap")
    (corrupted "collector epoch transition does not bind its signed predecessor")
    (corrupted "collector history skips or rolls back an epoch")
  let ack ← storedAck P row
  pure
    { seen := s.seen + 1
      previousDigest := some digest
      collectors := upsertCollector s.collectors
        ⟨tenantId, body.collectorId, body.epoch, body.sequence, digest⟩
      pendingSeen := ack.isNone
      times := s.times ++ [body.admittedAt] }

/-- The walk over one tenant, with its summary and its head. -/
def validateTenant (db : Ledger) (tenantId : String) :
    Except AdmissionError (TenantHead × WalkState) := do
  let rows := db.tenantAdmissions tenantId
  let sequences := rows.map (·.receiptSequence)
  require (1 ≤ rows.length ∧ rows.length ≤ P.limits.maxAdmissionsPerTenant
      ∧ sequences.min? = some 1 ∧ sequences.max? = some rows.length)
    (corrupted "tenant receipt history is not one bounded contiguous sequence")
  let walked ← (rows.insertionSort fun a b => a.receiptSequence ≤ b.receiptSequence).foldlM
    (walkRow P db tenantId) WalkState.start
  let previousDigest ← expect walked.previousDigest
    (corrupted "tenant receipt summary names an empty history")
  let head : TenantHead := ⟨tenantId, rows.length, previousDigest⟩
  require (tenantHeadIn db.tenantHeads tenantId = some head)
    (corrupted "tenant head does not match the complete signed receipt chain")
  pure (head, walked)

/-- A preparation still reserves the next position of its tenant and collector. -/
def validatePreparation (heads : List TenantHead) (db : Ledger) (row : PreparationRow) :
    Except AdmissionError Instant := do
  let prepared ← preparedAdmissionFromRow P db row
  let body := prepared.body
  let tenantHead ← verifyTenantHead P heads db body.tenantId
  let expectedSequence := nextNumber tenantHead
  let collectorHead ← verifyCollectorHead P db body.tenantId body.collectorId
  let policyHead ← verifyPolicyHead db body.trustPolicyId
  require (body.receiptSequence = expectedSequence
      ∧ body.previousReceiptDigest = tenantHead.map Prod.snd
      ∧ collectorValid collectorHead body.position
      ∧ ¬db.pendingReceipt body.tenantId
      ∧ ∃ head ∈ policyHead, body.trustPolicyRevision ≤ head.1)
    (corrupted "admission preparation no longer reserves the next valid chain position")
  pure body.admittedAt

/-- `_validate_complete_ledger`; the answer is the validated tenant heads. -/
def validateCompleteLedger (db : Ledger) : Except AdmissionError (List TenantHead) := do
  let tenants := (db.admissions.map (·.tenantId)).dedup
  require ((∀ t ∈ tenants, t ∈ db.tenantHeads.map (·.tenantId))
      ∧ ∀ t ∈ db.tenantHeads.map (·.tenantId), t ∈ tenants)
    (corrupted "tenant receipt heads do not exactly cover durable admissions")
  let walks ← tenants.mapM (validateTenant P db)
  let expected := walks.flatMap fun w => w.2.collectors
  require ((∀ h ∈ db.collectorHeads, h ∈ expected) ∧ ∀ h ∈ expected, h ∈ db.collectorHeads)
    (corrupted "collector heads do not match complete signed collector histories")
  let heads := walks.map Prod.fst
  let preparedTimes ← db.preparations.mapM (validatePreparation P heads db)
  let _ ← db.ackPreparations.mapM (preparedAcknowledgementFromRow P db)
  require (db.lastAdmittedAt = ((walks.flatMap fun w => w.2.times) ++ preparedTimes).max?)
    (corrupted "durable admission clock floor does not match receipts and reservations")
  pure heads

end

end ControlAssurance.Admission
