import ControlAssurance.Lib.Plays
import ControlAssurance.Lib.Raises
import ControlAssurance.Admission.Retry

/-!
# What the ledger raises

Every read, check and constraint of the ledger fails with a typed rejection. One
step does not: `_receipt_body` builds its document inside the transaction, and a
field rule of that document is a `ValidationError`, which the handlers of
`_prepare_admission` do not list. So the whole question is which requests get that
far (`Builds`) and which of them have a valid receipt body (`receiptBody_ok`).
-/

namespace ControlAssurance.Admission

open Lib

/-- The exception is an `AdmissionRejected`. -/
def AdmissionError.typed : AdmissionError → Prop
  | .rejected .. => True
  | _ => False

@[simp] theorem typed_rejected {reason : AdmissionRejectReason} {detail : String} :
    (AdmissionError.rejected reason detail).typed := trivial

@[simp] theorem typed_corrupted {detail : String} : (corrupted detail).typed := trivial

@[simp] theorem typed_storageRejected : storageRejected.typed := trivial

/-- Only typed rejections are raised. -/
abbrev Rejects {α : Type} (x : Except AdmissionError α) : Prop := Raises x AdmissionError.typed

@[simp] theorem rejects_constrain {c : Prop} [Decidable c] : Rejects (constrain c) := by
  simp [constrain]

variable {P : Profile} {db : Ledger} {heads : List TenantHead}

/-! ## Reading back -/

@[simp] theorem rejects_verifyGrantRow (row : LeaseRow) : Rejects (verifyGrantRow P row) := by
  simp [verifyGrantRow]

@[simp] theorem rejects_verifyPolicyHead (policyId : String) :
    Rejects (verifyPolicyHead db policyId) := by
  unfold verifyPolicyHead
  dsimp only
  split <;> simp

@[simp] theorem rejects_verifyReceiptRow (row : AdmissionRow) :
    Rejects (verifyReceiptRow P db row) := by
  simp [verifyReceiptRow]

@[simp] theorem rejects_preparedAdmissionFromRow (row : PreparationRow) :
    Rejects (preparedAdmissionFromRow P db row) := by
  simp [preparedAdmissionFromRow]

@[simp] theorem rejects_storedAck (row : AdmissionRow) : Rejects (storedAck P row) := by
  unfold storedAck
  split
  · simp
  · split <;> simp

@[simp] theorem rejects_preparedAcknowledgementFromRow (row : AckPreparationRow) :
    Rejects (preparedAcknowledgementFromRow P db row) := by
  simp [preparedAcknowledgementFromRow]

@[simp] theorem rejects_verifyTenantHead (tenantId : String) :
    Rejects (verifyTenantHead P heads db tenantId) := by
  unfold verifyTenantHead
  split
  · simp
  · -- only the first receipt has no predecessor to look up
    simp only [raises_bind, rejects_verifyReceiptRow, raises_require, typed_corrupted, or_true,
      true_and]
    intro receipt _ _ _ _ _
    exact raises_ite (fun _ => by simp) fun _ => by simp
  · simp

@[simp] theorem rejects_verifyCollectorHead (tenantId collectorId : String) :
    Rejects (verifyCollectorHead P db tenantId collectorId) := by
  unfold verifyCollectorHead
  split <;> simp

@[simp] theorem rejects_verifyReceiptChainNeighborhood (receipt : AdmissionReceipt) :
    Rejects (verifyReceiptChainNeighborhood P heads db receipt) := by
  have hheads : Rejects (do
      let _ ← verifyTenantHead P heads db receipt.body.tenantId
      let _ ← verifyCollectorHead P db receipt.body.tenantId receipt.body.collectorId
      pure () : Except AdmissionError Unit) := by
    simp
  unfold verifyReceiptChainNeighborhood
  dsimp only
  refine raises_ite (fun _ => ?_) fun _ => ?_
  · refine raises_bind.mpr ⟨by simp, fun _ _ => ?_⟩
    split
    · exact hheads
    · simp
  · refine raises_bind.mpr ⟨by simp, fun _ _ => raises_bind.mpr ⟨by simp, fun _ _ =>
      raises_bind.mpr ⟨by simp, fun _ _ => ?_⟩⟩⟩
    split
    · exact hheads
    · simp

@[simp] theorem rejects_checkCollector (head : Option (Nat × Nat × Digest))
    (p : CollectorPosition) {e₁ e₂ e₃ e₄ : AdmissionError} (h₁ : e₁.typed) (h₂ : e₂.typed)
    (h₃ : e₃.typed) (h₄ : e₄.typed) : Rejects (checkCollector head p e₁ e₂ e₃ e₄) := by
  unfold checkCollector
  split
  · simp [h₁]
  · refine raises_ite (fun _ => by simp [h₂]) fun _ => ?_
    exact raises_ite (fun _ => by simp [h₃]) fun _ => by simp [h₄]

theorem rejects_walkRow (tenantId : String) (s : WalkState) (row : AdmissionRow) :
    Rejects (walkRow P db tenantId s row) := by
  simp [walkRow]

theorem rejects_validateTenant (tenantId : String) : Rejects (validateTenant P db tenantId) := by
  simp only [validateTenant, raises_bind, raises_require, typed_corrupted, or_true, true_and,
    raises_expect, raises_pure, implies_true, and_true]
  exact fun _ _ => raises_foldlM fun s row _ => rejects_walkRow tenantId s row

theorem rejects_validatePreparation (row : PreparationRow) :
    Rejects (validatePreparation P heads db row) := by
  simp [validatePreparation]

theorem rejects_validateCompleteLedger : Rejects (validateCompleteLedger P db) := by
  unfold validateCompleteLedger
  refine raises_bind.mpr ⟨by simp, fun _ _ => raises_bind.mpr
    ⟨raises_mapM fun t _ => rejects_validateTenant t, fun walks _ => raises_bind.mpr
      ⟨by simp, fun _ _ => raises_bind.mpr
        ⟨raises_mapM fun p _ => rejects_validatePreparation p, fun _ _ => raises_bind.mpr
          ⟨raises_mapM fun q _ => rejects_preparedAcknowledgementFromRow q, fun _ _ => ?_⟩⟩⟩⟩⟩
  simp

/-! ## Leases -/

@[simp] theorem rejects_checkDatabaseCapacity (file : DatabaseFile) (incoming : Nat) :
    Rejects (checkDatabaseCapacity P file incoming) := by
  simp [checkDatabaseCapacity]

theorem rejects_registerLease (file : DatabaseFile) (grant : SignedJobLease) :
    Rejects (registerLease P file db grant) := by
  have hregistered : Rejects (registeredGrant P db grant) := by
    unfold registeredGrant
    split <;> simp
  have hfresh : Rejects (admitLease P db grant.lease) := by
    simp only [admitLease, raises_bind, raises_require, typed_rejected, or_true, true_and]
    intro _ _ _ _ _ _ _ _
    exact raises_ite (fun _ => by simp) fun _ => by simp
  simp only [registerLease, raises_bind, raises_require, typed_rejected, or_true, true_and]
  intro _ _ _ _
  refine ⟨hregistered, fun registered _ => raises_ite (fun _ => by simp) fun _ => ?_⟩
  simp [hfresh, insertLease]

@[simp] theorem rejects_statementLease (statement : CollectionStatement) :
    Rejects (statementLease P db statement) := by
  simp [statementLease, leaseByNonce]

@[simp] theorem rejects_clockFloor (now : Instant) : Rejects (clockFloor db now) := by
  simp [clockFloor]

@[simp] theorem rejects_checkRetryTime (original : Option Instant) (admittedAt now : Instant)
    (detail : String) : Rejects (checkRetryTime db original admittedAt now detail) := by
  unfold checkRetryTime
  split <;> simp

theorem rejects_retryAdmittedAt (statement : CollectionStatement) (envelopeDigest : Digest)
    (now : Instant) : Rejects (retryAdmittedAt P heads db statement envelopeDigest now) := by
  refine raises_bind.mpr ⟨rejects_statementLease statement, fun found _ => ?_⟩
  dsimp only
  split
  · split <;> simp
  · simp

/-! ## The receipt body -/

theorem rejects_candidateFor (inputs : AdmissionInputs P) (now : Instant) :
    Rejects (candidateFor P inputs now) := by
  simp [candidateFor]

/-- Everything else that the receipt body asks for has been checked before: a body
whose signers fit is built. -/
theorem receiptBody_ok {inputs : AdmissionInputs P} {now : Instant} {c : VerifiedAdmission}
    {lease : JobLease} {n : Nat} (previous : Option Digest) (hc : CandidateOf inputs now c)
    (hlease : lease.valid) (hmatch : inputs.statement.matchesLease P lease)
    (hreference : safeReference inputs.custodyReference = true) (hn : 1 ≤ n)
    (hkeyIds : canonicalSigners c.evidence.attestation.acceptedKeyIds)
    (hidentities : canonicalSigners c.evidence.attestation.acceptedIdentities) :
    ∃ body, receiptBody P c n previous = .ok body := by
  obtain ⟨⟨hids, hrevision, hepoch, hsequence, hprevious, hfinal, _⟩, _, hcoherent⟩ := hlease
  have hstatement : c.statement = inputs.statement := by rw [hc.fields]
  have hcustody : c.custodyReference = inputs.custodyReference := by rw [hc.fields]
  have hterms : c.statement.toLeaseTerms = lease.toLeaseTerms := by
    rw [hstatement]
    exact hmatch.2
  rw [← hterms] at hids hrevision hepoch hsequence hprevious hfinal hcoherent
  rw [← hcustody] at hreference
  unfold receiptBody
  dsimp only
  rw [require_pos]
  · exact ⟨_, rfl⟩
  · exact ⟨hn, hepoch, hsequence, hrevision, hprevious, hfinal, hids, hreference, hkeyIds,
      hidentities, P.distinct, hcoherent⟩

theorem rejects_advancePolicyHead (policyId : String) (revision : Nat) (digest : Digest) :
    Rejects (advancePolicyHead db policyId revision digest) := by
  unfold advancePolicyHead
  refine raises_bind.mpr ⟨by simp, fun _ _ => raises_bind.mpr ⟨by simp, fun _ _ => raises_bind.mpr
    ⟨by simp, fun _ _ => raises_ite (fun _ => raises_pure) fun _ => by simp⟩⟩⟩

/-- A body that is not built has been refused by the field rules of its document. -/
theorem receiptBody_error {c : VerifiedAdmission} {n : Nat} {previous : Option Digest}
    (h : ¬∃ body, receiptBody P c n previous = .ok body) :
    receiptBody P c n previous = .error (.validation "AdmissionReceiptBody") := by
  unfold receiptBody at h ⊢
  dsimp only at h ⊢
  rw [require_neg]
  · rfl
  · intro hvalid
    rw [require_pos hvalid] at h
    exact h ⟨_, rfl⟩

theorem rejects_reverified (inputs : AdmissionInputs P) (row : PreparationRow)
    (original : Option Instant) (now : Instant) :
    Rejects (reverified P db inputs row original now) := by
  simp [reverified, rejects_candidateFor]

theorem rejects_reservable (inputs : AdmissionInputs P) (lease : JobLease) (now : Instant) :
    Rejects (reservable P heads db inputs lease now) := by
  simp [reservable, rejects_candidateFor, rejects_advancePolicyHead]

/-- The receipt body of the request is built from these, after every other check. -/
def Builds (P : Profile) (heads : List TenantHead) (db : Ledger) (inputs : AdmissionInputs P)
    (original : Option Instant) (now : Instant) (c : VerifiedAdmission) (n : Nat)
    (previous : Option Digest) : Prop :=
  ∃ row grant, statementLease P db inputs.statement = .ok (row, grant)
    ∧ row.consumedEnvelopeDigest = none
    ∧ ((∃ p prepared, db.preparationByLease (grant.lease.leaseDigest P) = some p
        ∧ reverified P db inputs p original now = .ok (prepared, c)
        ∧ n = prepared.body.receiptSequence ∧ previous = prepared.body.previousReceiptDigest)
      ∨ (db.preparationByLease (grant.lease.leaseDigest P) = none
        ∧ ∃ head db₁, reservable P heads db inputs grant.lease now = .ok (c, head, db₁)
          ∧ n = nextNumber head ∧ previous = head.map Prod.snd))

section

variable {inputs : AdmissionInputs P} {original : Option Instant} {now : Instant}

/-- What has been checked before a body is built. -/
theorem Builds.checked {c : VerifiedAdmission} {n : Nat} {previous : Option Digest}
    (h : Builds P heads db inputs original now c n previous) :
    ∃ lease : JobLease, ∃ time, lease.valid ∧ inputs.statement.matchesLease P lease
      ∧ candidateFor P inputs time = .ok c ∧ 1 ≤ n := by
  obtain ⟨row, grant, hfound, _, hbuilds⟩ := h
  obtain ⟨_, hsound, rfl, hmatch, _⟩ := statementLease_ok hfound
  refine ⟨row.grant.lease, ?_⟩
  rcases hbuilds with ⟨p, prepared, _, hreverified, rfl, _⟩ | ⟨_, head, db₁, hreservable, rfl, _⟩
  · simp only [reverified, bind_eq_ok, pure_eq_ok, require_eq_ok, exists_const,
      Prod.mk.injEq] at hreverified
    obtain ⟨_, hread, _, _, _, _, hcandidate, rfl, rfl⟩ := hreverified
    refine ⟨_, hsound.valid, hmatch, hcandidate, ?_⟩
    -- the stored body numbers its receipt from one on
    rw [preparedAdmissionFromRow_eq hread]
    unfold preparedAdmissionFromRow at hread
    simp only [bind_eq_ok, require_eq_ok] at hread
    obtain ⟨_, hvalid, _⟩ := hread
    exact hvalid.1
  · simp only [reservable, bind_eq_ok, pure_eq_ok, exists_const, require_eq_ok,
      Prod.mk.injEq] at hreservable
    obtain ⟨_, _, _, _, hcandidate, _, _, _, _, _, _, _, _, _, _, _, _, _, _, _, rfl, _⟩ :=
      hreservable
    refine ⟨_, hsound.valid, hmatch, hcandidate, ?_⟩
    cases head with
    | none => exact Nat.le_refl 1
    | some head => exact Nat.succ_le_succ (Nat.zero_le _)

/-- `_prepare_admission` rejects unless the receipt document refuses the body. -/
theorem rejects_prepareAdmission (file : DatabaseFile)
    (hbody : ∀ c n previous, Builds P heads db inputs original now c n previous →
      ∃ body, receiptBody P c n previous = .ok body) :
    Rejects (prepareAdmission P file heads db inputs original now) := by
  have hbuilt : ∀ {c n previous}, Builds P heads db inputs original now c n previous →
      Rejects (receiptBody P c n previous) := by
    intro c n previous hbuilds
    obtain ⟨body, hok⟩ := hbody c n previous hbuilds
    rw [hok]
    exact raises_ok
  refine raises_bind.mpr ⟨rejects_statementLease _, fun found hfound => ?_⟩
  obtain ⟨row, grant⟩ := found
  dsimp only
  split
  · refine raises_bind.mpr ⟨?_, fun _ _ => raises_pure⟩
    simp [retryConsumed, rejects_candidateFor]
  next hfree =>
    split
    next p hprepared =>
      refine raises_bind.mpr ⟨raises_bind.mpr ⟨rejects_reverified _ _ _ _, fun x hx => ?_⟩,
        fun _ _ => raises_pure⟩
      refine raises_bind.mpr ⟨hbuilt ⟨row, grant, hfound, hfree,
        .inl ⟨p, x.1, hprepared, hx, rfl, rfl⟩⟩, fun _ _ => ?_⟩
      simp
    next hnone =>
      refine raises_bind.mpr ⟨raises_bind.mpr ⟨rejects_reservable _ _ _, fun x hx => ?_⟩,
        fun _ _ => raises_pure⟩
      refine raises_bind.mpr ⟨hbuilt ⟨row, grant, hfound, hfree,
        .inr ⟨hnone, x.2.1, x.2.2, hx, rfl, rfl⟩⟩, fun _ _ => ?_⟩
      simp [insertPreparation]

/-- A body that the document refuses is what `_prepare_admission` raises. -/
theorem prepareAdmission_escapes (file : DatabaseFile) {c : VerifiedAdmission} {n : Nat}
    {previous : Option Digest} (h : Builds P heads db inputs original now c n previous)
    (hnone : ¬∃ body, receiptBody P c n previous = .ok body) :
    prepareAdmission P file heads db inputs original now
      = .error (.validation "AdmissionReceiptBody") := by
  have hrefused := receiptBody_error hnone
  obtain ⟨row, grant, hfound, hfree, hbuilds⟩ := h
  rw [prepareAdmission, hfound, ok_bind]
  dsimp only
  rw [hfree]
  dsimp only
  rcases hbuilds with ⟨p, prepared, hprepared, hreverified, rfl, rfl⟩ |
    ⟨hunreserved, head, db₁, hreservable, rfl, rfl⟩
  · rw [hprepared]
    dsimp only
    rw [retryPrepared, hreverified, ok_bind]
    dsimp only
    rw [hrefused, error_bind, error_bind]
  · rw [hunreserved]
    dsimp only
    rw [reserve, hreservable, ok_bind]
    dsimp only
    rw [hrefused, error_bind, error_bind]

end

/-! ## Finalizing -/

theorem rejects_finalizeAdmission (expected : PreparedAdmission) (receipt : AdmissionReceipt) :
    Rejects (finalizeAdmission P heads db expected receipt) := by
  unfold finalizeAdmission
  split
  · simp [finalizedAlready]
  · simp [replacePreparation, insertAdmission]

theorem rejects_prepareCustodyAcknowledgement (receiptDigest : Digest) (reference : String) :
    Rejects (prepareCustodyAcknowledgement P db receiptDigest reference) := by
  unfold prepareCustodyAcknowledgement
  refine raises_bind.mpr ⟨by simp, fun _ _ => raises_bind.mpr ⟨by simp, fun _ _ => raises_bind.mpr
    ⟨by simp, fun _ _ => raises_bind.mpr ⟨by simp, fun _ _ => ?_⟩⟩⟩⟩
  split
  · simp
  · simp
  · simp [insertAckPreparation]

theorem rejects_finalizeCustodyAcknowledgement (expected : PreparedCustodyAcknowledgement)
    (acknowledgement : CustodyAcknowledgement) :
    Rejects (finalizeCustodyAcknowledgement P db expected acknowledgement) := by
  unfold finalizeCustodyAcknowledgement
  refine raises_bind.mpr ⟨by simp, fun _ _ => raises_bind.mpr ⟨by simp, fun _ _ => ?_⟩⟩
  split <;> simp

/-! ## Calls of the service -/

/-- The transaction builds a receipt body. -/
def LedgerCall.prepares : LedgerCall P → Bool
  | .prepare .. => true
  | _ => false

theorem rejects_readPreparation (digest : Digest) : Rejects (readPreparation P db digest) := by
  unfold readPreparation
  split <;> simp

variable {c : LedgerCall P} {service : Nat} {s s' : SigningWorld}

theorem rejects_run {file : DatabaseFile} (h : c.prepares = false) :
    Rejects (c.run P file heads db) := by
  cases c with
  | register grant => exact rejects_registerLease file grant
  | retryTime statement digest now => exact raises_map.mpr (rejects_retryAdmittedAt statement digest now)
  | prepare inputs original now => cases h
  | finalize expected receipt => exact rejects_finalizeAdmission expected receipt
  | prepareAck digest reference => exact rejects_prepareCustodyAcknowledgement digest reference
  | finalizeAck expected ack => exact rejects_finalizeCustodyAcknowledgement expected ack
  | preparations limit => exact raises_ok
  | preparation digest => exact raises_map.mpr (rejects_readPreparation digest)
  | pending limit =>
    refine raises_map.mpr (raises_mapM fun row _ => ?_)
    simp [pendingRow]

theorem rejects_transact {r : Except AdmissionError c.Answer} (h : (r, s') = s.transact service c)
    (hrun : ∀ heads, s.world.heads P service = .ok heads →
      Rejects (c.run P s.world.file heads s.world.ledger)) : Rejects r := by
  obtain ⟨rfl, _⟩ := Prod.mk.inj h
  show Rejects (s.world.transact P service c).1
  unfold World.transact
  have hheads : Rejects (s.world.heads P service) := by
    unfold World.heads
    split
    · exact raises_ok
    · exact rejects_validateCompleteLedger
  split
  next e he => exact raises_error.mpr (hheads e he)
  next heads hok =>
    split
    next e he => exact raises_error.mpr (hrun heads hok e he)
    next => split <;> simp [overQuota]

/-- A transaction that raises leaves the tables alone. -/
theorem transact_failed {e : AdmissionError} (h : (.error e, s') = s.transact service c) :
    s'.world.ledger = s.world.ledger := by
  obtain ⟨hr, rfl⟩ := Prod.mk.inj h
  show (s.world.transact P service c).2.ledger = s.world.ledger
  unfold World.transact at hr ⊢
  split
  · rfl
  next heads hheads =>
    rw [hheads] at hr
    dsimp only at hr
    split
    · rfl
    next hrun =>
      rw [hrun] at hr
      split
      next hwrites => cases (congrArg Prod.fst (if_pos hwrites)).symm.trans hr.symm
      next => rfl

/-- A transaction raises what its body raises. -/
theorem transact_error {heads : List TenantHead} {e : AdmissionError}
    (hheads : s.world.heads P service = .ok heads)
    (hrun : c.run P s.world.file heads s.world.ledger = .error e) :
    (s.transact service c).1 = .error e := by
  show (s.world.transact P service c).1 = .error e
  rw [World.transact, hheads]
  dsimp only
  rw [hrun]

/-- A transaction that only reads answers what its body answers. -/
theorem transact_reads {heads : List TenantHead} {a : c.Answer}
    (hheads : s.world.heads P service = .ok heads)
    (hrun : c.run P s.world.file heads s.world.ledger = .ok (s.world.ledger, a)) :
    (s.transact service c).1 = .ok a := by
  show (s.world.transact P service c).1 = .ok a
  rw [World.transact, hheads]
  dsimp only
  rw [hrun]
  exact congrArg Prod.fst (if_pos (.inl rfl))

/-- Looking for the time of an earlier admission only reads. -/
theorem transact_retryTime {statement : CollectionStatement}
    {digest : Digest} {now : Instant} {r : Except AdmissionError (Option Instant)}
    (h : (r, s') = s.transact service (.retryTime (P := P) statement digest now)) :
    s'.world.ledger = s.world.ledger := by
  obtain ⟨_, rfl⟩ := Prod.mk.inj h
  show (s.world.transact P service (.retryTime statement digest now)).2.ledger = s.world.ledger
  unfold World.transact
  split
  · rfl
  next heads _ =>
    dsimp only [LedgerCall.run]
    cases retryAdmittedAt P heads s.world.ledger statement digest now with
    | error e => rfl
    | ok answer =>
      dsimp only [Except.map]
      rw [if_pos (.inl rfl)]
      rfl

end ControlAssurance.Admission
