import ControlAssurance.Admission.Preservation

/-!
# Runs of the ledger

Any number of `AdmissionService` instances on one database. An instance keeps the
tenant heads it has validated; a commit of another connection makes it validate
the complete ledger at its next transaction (`PRAGMA data_version`). An event of a
run is an opening, a crash or one transaction with any arguments: which receipt
or acknowledgement is finalized is up to the signer, and every time is up to the
clock. A crash between two transactions loses only what the instance had in
memory.
-/

namespace ControlAssurance.Admission

open Lib

variable (P : Profile)

/-! ## Transactions and their answers -/

inductive LedgerCall where
  | register (grant : SignedJobLease)
  | retryTime (statement : CollectionStatement) (envelopeDigest : Digest) (now : Instant)
  | prepare (inputs : AdmissionInputs P) (original : Option Instant) (now : Instant)
  | finalize (expected : PreparedAdmission) (receipt : AdmissionReceipt)
  | prepareAck (receiptDigest : Digest) (custodyReference : String)
  | finalizeAck (expected : PreparedCustodyAcknowledgement)
      (acknowledgement : CustodyAcknowledgement)
  /-- the first transaction of `reconcile_prepared` -/
  | preparations (limit : Nat)
  /-- its transaction for one preparation -/
  | preparation (receiptBodyDigest : Digest)
  | pending (limit : Nat)

variable {P}

def LedgerCall.Answer : LedgerCall P → Type
  | .register _ => SignedJobLease
  | .retryTime .. => Option Instant
  | .prepare .. => PreparedOrStored
  | .finalize .. => StoredAdmission
  | .prepareAck .. => PreparedOrAcknowledged
  | .finalizeAck .. => CustodyAcknowledgement
  | .preparations _ => List Digest
  | .preparation _ => Option PreparedAdmission
  | .pending _ => List StoredAdmission

/-- `SELECT receipt_body_digest … ORDER BY receipt_body_digest LIMIT ?`. -/
def Ledger.preparedDigests (db : Ledger) (limit : Nat) : List Digest :=
  ((db.preparations.map (·.receiptBodyDigest)).insertionSort fun a b => decide (a ≤ b)).take limit

section

variable (P)

/-- A preparation by its body digest, for `reconcile_prepared`. -/
def readPreparation (db : Ledger) (receiptBodyDigest : Digest) :
    Except AdmissionError (Option PreparedAdmission) :=
  match db.preparations.find? fun p => decide (p.receiptBodyDigest = receiptBodyDigest) with
  | none => pure none
  | some row => do
    let prepared ← preparedAdmissionFromRow P db row
    pure (some prepared)

/-- One row of `pending`. -/
def pendingRow (heads : List TenantHead) (db : Ledger) (row : AdmissionRow) :
    Except AdmissionError StoredAdmission := do
  let receipt ← verifyReceiptRow P db row
  verifyReceiptChainNeighborhood P heads db receipt
  pure (row.stored receipt none)

/-- `pending`; SQLite leaves the order of equal sequences open, here it is the
order of insertion. -/
def pendingReceipts (heads : List TenantHead) (db : Ledger) (limit : Nat) :
    Except AdmissionError (List StoredAdmission) :=
  (((db.admissions.filter fun a => decide (a.custodyState = .pending)).insertionSort
    fun a b => a.receiptSequence ≤ b.receiptSequence).take limit).mapM (pendingRow P heads db)

/-- One transaction of an instance that has validated `heads`. -/
def LedgerCall.run (file : DatabaseFile) (heads : List TenantHead) (db : Ledger) :
    (c : LedgerCall P) → Except AdmissionError (Ledger × c.Answer)
  | .register grant => registerLease P file db grant
  | .retryTime statement envelopeDigest now =>
    (retryAdmittedAt P heads db statement envelopeDigest now).map (db, ·)
  | .prepare inputs original now => prepareAdmission P file heads db inputs original now
  | .finalize expected receipt => finalizeAdmission P heads db expected receipt
  | .prepareAck receiptDigest reference =>
    prepareCustodyAcknowledgement P db receiptDigest reference
  | .finalizeAck expected acknowledgement =>
    finalizeCustodyAcknowledgement P db expected acknowledgement
  | .preparations limit => .ok (db, db.preparedDigests limit)
  | .preparation receiptBodyDigest => (readPreparation P db receiptBodyDigest).map (db, ·)
  | .pending limit => (pendingReceipts P heads db limit).map (db, ·)

/-- The heads the instance knows afterwards: only a finalization adds one. -/
def LedgerCall.learn (heads : List TenantHead) : (c : LedgerCall P) → c.Answer → List TenantHead
  | .finalize .., (stored : StoredAdmission) =>
    match stored.disposition with
    | .exactRetry => heads
    | .admitted =>
      heads.filter (fun h => !decide (h.tenantId = stored.receipt.body.tenantId))
        ++ [⟨stored.receipt.body.tenantId, stored.receipt.body.receiptSequence,
          stored.receipt.receiptDigest P⟩]
  | _, _ => heads

/-! ## Instances on one database -/

/-- The database, what its file will measure next, and for each instance the heads
it has validated, unless another connection has committed since. -/
structure World where
  ledger : Ledger
  file : DatabaseFile
  validated : Nat → Option (List TenantHead)

def World.init : World := ⟨Ledger.empty, ⟨0, 0, 0⟩, fun _ => none⟩

/-- `_check_database_quota_after_write` passes. -/
def DatabaseFile.hasRoom (file : DatabaseFile) : Prop :=
  file.writtenBytes ≤ P.limits.maxDatabaseBytes

instance (file : DatabaseFile) : Decidable (file.hasRoom P) :=
  inferInstanceAs (Decidable (_ ≤ _))

/-- What instance `i` works with: its validated heads, or those of a new complete
validation. -/
def World.heads (w : World) (i : Nat) : Except AdmissionError (List TenantHead) :=
  match w.validated i with
  | some heads => .ok heads
  | none => validateCompleteLedger P w.ledger

def World.setValidated (w : World) (i : Nat) (heads : Option (List TenantHead)) : World :=
  { w with validated := fun j => if j = i then heads else w.validated j }

/-- Instance `i` has committed and knows `heads`. A changed ledger outdates what the
other instances have validated. -/
def World.commit (w : World) (i : Nat) (db : Ledger) (heads : List TenantHead) : World :=
  { w with
    ledger := db
    validated := fun j =>
      if j = i then some heads else if db = w.ledger then w.validated j else none }

def overQuota : AdmissionError :=
  .rejected .quotaExceeded "admission database byte quota was exceeded by the transaction"

/-- A transaction of instance `i`: the answer and the world after it. One that has
written is rolled back if the file is too large by then
(`_check_database_quota_after_write`, the last check of all five that write). -/
def World.transact (w : World) (i : Nat) (c : LedgerCall P) :
    Except AdmissionError c.Answer × World :=
  match w.heads P i with
  | .error e => (.error e, w)
  | .ok heads =>
    match c.run P w.file heads w.ledger with
    | .error e => (.error e, w.setValidated i (some heads))
    | .ok (db, answer) =>
      if db = w.ledger ∨ w.file.hasRoom P then
        (.ok answer, w.commit i db (c.learn P heads answer))
      else (.error overQuota, w.setValidated i (some heads))

inductive LedgerEvent where
  /-- the instance opens the database and validates it -/
  | opened (service : Nat)
  /-- the instance is gone, with what it had validated -/
  | crashed (service : Nat)
  /-- the file measures something else -/
  | measured (file : DatabaseFile)
  | called (service : Nat) (call : LedgerCall P)

def World.next (w : World) : LedgerEvent P → World
  | .opened i =>
    if w.file.pageBytes ≤ P.limits.maxDatabaseBytes then
      match validateCompleteLedger P w.ledger with
      | .error _ => w
      | .ok heads => w.setValidated i (some heads)
    else w
  | .crashed i => w.setValidated i none
  | .measured file => { w with file }
  | .called i c => (w.transact P i c).2

/-- The world after the events. -/
def worldAfter (events : List (LedgerEvent P)) : World :=
  events.foldl (World.next P) World.init

end

/-! ## What one transaction keeps -/

variable {db db' : Ledger} {heads : List TenantHead}

theorem CurrentHeads.of_ends (h : CurrentHeads db heads)
    (hends : ∀ t, tenantEnd (db'.tenantAdmissions t) = tenantEnd (db.tenantAdmissions t)) :
    CurrentHeads db' heads := by
  intro x
  rw [hends]
  exact h x

/-- A committed transaction makes one of the changes, and what its instance has
validated is current again. -/
theorem run_change {file : DatabaseFile} (hinv : LedgerInv P db) (hheads : CurrentHeads db heads)
    (c : LedgerCall P) {answer : c.Answer} (h : c.run P file heads db = .ok (db', answer)) :
    LedgerChange P db db' ∧ CurrentHeads db' (c.learn P heads answer) := by
  cases c with
  | register grant =>
    obtain ⟨_, rfl | ⟨row, hrow, _⟩⟩ := registerLease_step h
    · exact ⟨.same rfl, hheads⟩
    · refine ⟨.registered row hrow, hheads.of_ends fun t => ?_⟩
      rw [hrow.result]
      rfl
  | prepare inputs original now =>
    rcases prepareAdmission_step hinv h with ⟨_, _, _, rfl, _⟩ | ⟨row, _, rfl | hrow, _⟩
    · exact ⟨.same rfl, hheads⟩
    · exact ⟨.same rfl, hheads⟩
    · refine ⟨.reserved row hrow, hheads.of_ends fun t => ?_⟩
      rw [hrow.result]
      rfl
  | finalize expected receipt =>
    rcases finalizeAdmission_step hinv h with
      ⟨a, _, rfl, _, _, ack, _, rfl⟩ | ⟨p, hp, _, rfl⟩
    · exact ⟨.same rfl, hheads⟩
    · refine ⟨.finalized p receipt hp, currentHeads_concat (a := receipt.row P p.evidence) hheads ?_⟩
      rw [hp.result]
  | prepareAck receiptDigest reference =>
    obtain ⟨a, _, _, ⟨_, rfl, _⟩ | ⟨_, rfl | ha, _⟩⟩ := prepareCustodyAcknowledgement_step hinv h
    · exact ⟨.same rfl, hheads⟩
    · exact ⟨.same rfl, hheads⟩
    · refine ⟨.ackPrepared a ha, hheads.of_ends fun t => ?_⟩
      rw [ha.result]
      rfl
  | finalizeAck expected ack =>
    obtain ⟨a, _, _, ⟨rfl, _⟩ | ⟨ha, _⟩⟩ := finalizeCustodyAcknowledgement_step hinv h
    · exact ⟨.same rfl, hheads⟩
    · obtain ⟨g, hg, hadmissions, _⟩ := ha.rows
      refine ⟨.closed a ack ha, hheads.of_ends fun t => ?_⟩
      rw [tenantAdmissions_map hg hadmissions, tenantEnd_map hg]
  | retryTime statement envelopeDigest now =>
    obtain ⟨_, _, hpair⟩ := map_eq_ok.mp h
    cases hpair
    exact ⟨.same rfl, hheads⟩
  | preparations limit =>
    cases h
    exact ⟨.same rfl, hheads⟩
  | preparation digest =>
    obtain ⟨_, _, hpair⟩ := map_eq_ok.mp h
    cases hpair
    exact ⟨.same rfl, hheads⟩
  | pending limit =>
    obtain ⟨_, _, hpair⟩ := map_eq_ok.mp h
    cases hpair
    exact ⟨.same rfl, hheads⟩

/-! ## What a run keeps -/

/-- The ledger's invariant, and no instance trusts heads that are not current. -/
structure WorldInv (P : Profile) (w : World) : Prop where
  ledger : LedgerInv P w.ledger
  validated : ∀ i heads, w.validated i = some heads → CurrentHeads w.ledger heads

theorem worldInv_init : WorldInv P World.init :=
  ⟨ledgerInv_empty P, fun _ _ h => by cases h⟩

theorem WorldInv.currentHeads {w : World} (h : WorldInv P w) (i : Nat) :
    ∃ heads, w.heads P i = .ok heads ∧ CurrentHeads w.ledger heads := by
  unfold World.heads
  cases hv : w.validated i with
  | some heads => exact ⟨heads, rfl, h.validated i heads hv⟩
  | none => exact validateCompleteLedger_ok h.ledger

theorem WorldInv.setValidated {w : World} (h : WorldInv P w) (i : Nat)
    {heads : Option (List TenantHead)} (hheads : ∀ l, heads = some l → CurrentHeads w.ledger l) :
    WorldInv P (w.setValidated i heads) := by
  refine ⟨h.ledger, fun j l hl => ?_⟩
  by_cases hj : j = i
  · exact hheads l ((if_pos hj).symm.trans hl)
  · exact h.validated j l ((if_neg hj).symm.trans hl)

/-- A transaction commits, or it raises and changes no table. -/
theorem transact_cases {w : World} (hw : WorldInv P w) (i : Nat) (c : LedgerCall P) :
    ∃ heads, w.heads P i = .ok heads ∧ CurrentHeads w.ledger heads
      ∧ ((∃ db answer, c.run P w.file heads w.ledger = .ok (db, answer)
            ∧ w.transact P i c = (.ok answer, w.commit i db (c.learn P heads answer)))
        ∨ ∃ e, (c.run P w.file heads w.ledger = .error e
              ∨ e = overQuota ∧ ¬w.file.hasRoom P
                ∧ ∃ db answer, c.run P w.file heads w.ledger = .ok (db, answer) ∧ db ≠ w.ledger)
            ∧ w.transact P i c = (.error e, w.setValidated i (some heads))) := by
  obtain ⟨heads, hheads, hcurrent⟩ := hw.currentHeads i
  refine ⟨heads, hheads, hcurrent, ?_⟩
  unfold World.transact
  rw [hheads]
  dsimp only
  cases hrun : c.run P w.file heads w.ledger with
  | error e => exact .inr ⟨e, .inl rfl, rfl⟩
  | ok result =>
    obtain ⟨db, answer⟩ := result
    by_cases hwrites : db = w.ledger ∨ w.file.hasRoom P
    · exact .inl ⟨db, answer, rfl, if_pos hwrites⟩
    · obtain ⟨hchanged, hroom⟩ := not_or.mp hwrites
      exact .inr ⟨overQuota, .inr ⟨rfl, hroom, db, answer, rfl, hchanged⟩, if_neg hwrites⟩

/-- A transaction of any instance, committed or not. -/
theorem transact_inv {w : World} (hw : WorldInv P w) (i : Nat) (c : LedgerCall P) :
    WorldInv P (w.transact P i c).2 ∧ LedgerChange P w.ledger (w.transact P i c).2.ledger := by
  obtain ⟨heads, _, hcurrent, ⟨db, answer, hrun, heq⟩ | ⟨e, _, heq⟩⟩ := transact_cases hw i c
  · obtain ⟨hchange, hlearned⟩ := run_change hw.ledger hcurrent c hrun
    rw [heq]
    refine ⟨⟨hchange.inv hw.ledger, fun j l hl => ?_⟩, hchange⟩
    by_cases hj : j = i
    · rw [Option.some.inj ((if_pos hj).symm.trans hl).symm]
      exact hlearned
    · have hl' := (if_neg hj).symm.trans hl
      by_cases hsame : db = w.ledger
      · rw [hsame]
        exact hw.validated j l ((if_pos hsame).symm.trans hl')
      · cases (if_neg hsame).symm.trans hl'
  · rw [heq]
    refine ⟨hw.setValidated i fun l hl => ?_, .same rfl⟩
    cases hl
    exact hcurrent

theorem next_inv {w : World} (hw : WorldInv P w) (e : LedgerEvent P) :
    WorldInv P (w.next P e) := by
  cases e with
  | opened i =>
    obtain ⟨heads, hok, hcurrent⟩ := validateCompleteLedger_ok hw.ledger
    simp only [World.next, hok]
    split
    · refine hw.setValidated i fun l hl => ?_
      cases hl
      exact hcurrent
    · exact hw
  | crashed i => exact hw.setValidated i fun l hl => by cases hl
  | measured file => exact ⟨hw.ledger, hw.validated⟩
  | called i c => exact (transact_inv hw i c).1

theorem worldAfter_inv (events : List (LedgerEvent P)) : WorldInv P (worldAfter P events) := by
  unfold worldAfter
  have hrun : ∀ (events : List (LedgerEvent P)) (w : World), WorldInv P w →
      WorldInv P (events.foldl (World.next P) w) := by
    intro events
    induction events with
    | nil => exact fun w hw => hw
    | cons e events ih => exact fun w hw => ih _ (next_inv hw e)
  exact hrun events World.init worldInv_init

/-! ## The history in plain terms -/

/-- The next receipt of a collector: the next sequence of its epoch, or sequence
one of the next epoch, bound to the last receipt of the epoch before. -/
def CollectorFollows (b : AdmissionRow) (a : AdmissionReceiptBody) : Prop :=
  (a.epoch = b.epoch ∧ a.sequence = b.sequence + 1)
    ∨ (a.epoch = b.epoch + 1 ∧ a.sequence = 1 ∧ a.previousEpoch = some b.epoch
      ∧ a.previousEpochFinalSequence = some b.sequence
      ∧ a.previousEpochFinalReceiptDigest = some b.receiptDigest)

/-- What the tables say, without the vocabulary of the proofs. The receipts of a
tenant are its rows in the order of insertion; `pre` are those before `a`. -/
structure LedgerHistory (P : Profile) (db : Ledger) : Prop where
  /-- the columns are those of the signed receipt -/
  columns : ∀ a ∈ db.admissions, a.toAdmissionColumns = a.receipt.columns P
  numbered : ∀ t, (db.tenantAdmissions t).map (·.receiptSequence)
    = List.range' 1 (db.tenantAdmissions t).length
  linked : ∀ t pre a post, db.tenantAdmissions t = pre ++ a :: post →
    a.receipt.body.previousReceiptDigest = pre.getLast?.map (·.receiptDigest)
  custody : ∀ t pre a post, db.tenantAdmissions t = pre ++ a :: post → post ≠ [] →
    a.custodyState = .durable
  oneReservation : ∀ p ∈ db.preparations, ∀ q ∈ db.preparations, p.tenantId = q.tenantId → p = q
  /-- a reservation is of the next position, behind receipts in durable custody -/
  reservation : ∀ p ∈ db.preparations,
    p.toPreparationColumns = p.receiptBody.preparationColumns P
      ∧ p.receiptSequence = (db.tenantAdmissions p.tenantId).length + 1
      ∧ p.receiptBody.previousReceiptDigest
        = (db.tenantAdmissions p.tenantId).getLast?.map (·.receiptDigest)
      ∧ ∀ a ∈ db.tenantAdmissions p.tenantId, a.custodyState = .durable
  collectorFirst : ∀ t c a post,
    (db.tenantAdmissions t).filter (fun a => decide (a.collectorId = c)) = a :: post →
    a.epoch = 1 ∧ a.sequence = 1
  collectorNext : ∀ t c pre b a post,
    (db.tenantAdmissions t).filter (fun a => decide (a.collectorId = c))
      = pre ++ b :: a :: post → CollectorFollows b a.receipt.body
  tenantHeads : ∀ h, h ∈ db.tenantHeads ↔
    ∃ a, (db.tenantAdmissions h.tenantId).getLast? = some a
      ∧ h.lastReceiptSequence = a.receiptSequence ∧ h.lastReceiptDigest = a.receiptDigest
  collectorHeads : ∀ h, h ∈ db.collectorHeads ↔
    ∃ a, ((db.tenantAdmissions h.tenantId).filter
        fun a => decide (a.collectorId = h.collectorId)).getLast? = some a
      ∧ h.currentEpoch = a.epoch ∧ h.lastSequence = a.sequence
      ∧ h.lastReceiptDigest = a.receiptDigest
  oneAdmission : ∀ a ∈ db.admissions, ∀ b ∈ db.admissions, a.leaseDigest = b.leaseDigest → a = b
  /-- a lease is marked, both times, exactly when its receipt is there -/
  consumption : ∀ l ∈ db.leases,
    (l.consumedEnvelopeDigest = none ∧ l.consumedReceiptDigest = none
        ∧ ∀ a ∈ db.admissions, a.leaseDigest ≠ l.leaseDigest)
      ∨ ∃ a ∈ db.admissions, a.leaseDigest = l.leaseDigest
        ∧ l.consumedEnvelopeDigest = some a.envelopeDigest
        ∧ l.consumedReceiptDigest = some a.receiptDigest
  oneDigest : ∀ v ∈ db.policyVersions, ∀ w ∈ db.policyVersions,
    v.policyId = w.policyId → v.policyRevision = w.policyRevision → v.policyDigest = w.policyDigest
  /-- the versions are those that receipts and reservations name -/
  policiesNamed : ∀ v, v ∈ db.policyVersions ↔
    (∃ a ∈ db.admissions, a.toAdmissionColumns.policy = v)
      ∨ ∃ p ∈ db.preparations, p.toPreparationColumns.policy = v
  policyHeads : ∀ h, h ∈ db.policyHeads ↔
    ⟨h.policyId, h.currentRevision, h.currentPolicyDigest⟩ ∈ db.policyVersions
      ∧ ∀ v ∈ db.policyVersions, v.policyId = h.policyId → v.policyRevision ≤ h.currentRevision
  /-- an acknowledgement is prepared only for a receipt whose custody is pending -/
  acknowledgements : ∀ q ∈ db.ackPreparations, ∃ a ∈ db.admissions,
    a.receiptDigest = q.receiptDigest ∧ a.custodyState = .pending
      ∧ q.acknowledgementBody = acknowledgementBody P a.receipt a.custodyReference
  clockFloor : db.lastAdmittedAt = db.admissionTimes.max?

/-- The receipts of one collector before one of them. -/
theorem collector_split {rows pre post : List AdmissionRow} {a : AdmissionRow} {c : String}
    (hgrown : Grown (fun rows a => NextBody rows a.receipt.body) rows)
    (h : rows.filter (fun a => decide (a.collectorId = c)) = pre ++ a :: post) :
    ∃ before, before.filter (fun a => decide (a.collectorId = c)) = pre ∧ a.collectorId = c
      ∧ a ∈ rows ∧ NextBody before a.receipt.body := by
  obtain ⟨l₁, l₂, rfl, hpre, hrest⟩ := List.filter_eq_append_iff.mp h
  obtain ⟨l₃, l₄, rfl, hnone, hc, _⟩ := List.filter_eq_cons_iff.mp hrest
  have hsplit : l₁ ++ (l₃ ++ a :: l₄) = (l₁ ++ l₃) ++ a :: l₄ := (List.append_assoc ..).symm
  refine ⟨l₁ ++ l₃, ?_, by simpa using hc, by simp, (hgrown.split hsplit).2⟩
  rw [List.filter_append, hpre, List.filter_eq_nil_iff.mpr hnone, List.append_nil]

theorem tenantEnd_eq (rows : List AdmissionRow) :
    (tenantEnd rows).map Prod.snd = rows.getLast?.map (·.receiptDigest) := by
  unfold tenantEnd chainHead
  rw [Option.map_map]
  rfl

theorem collector_position (hinv : ReceiptsInv P db) {t c : String} {pre post : List AdmissionRow}
    {a : AdmissionRow}
    (h : (db.tenantAdmissions t).filter (fun a => decide (a.collectorId = c)) = pre ++ a :: post) :
    a ∈ db.admissions ∧ collectorValid
      (pre.getLast?.map fun b => (b.epoch, b.sequence, b.receiptDigest)) a.receipt.body.position := by
  obtain ⟨before, hbefore, hc, hmem, hnext⟩ := collector_split (hinv.chains t) h
  have ha := (mem_tenantAdmissions.mp hmem).1
  refine ⟨ha, ?_⟩
  have hvalid := hnext.collector
  rw [← (hinv.sound a ha).collectorId, hc, collectorEnd, hbefore] at hvalid
  exact hvalid

/-- The invariant says all of it. -/
theorem LedgerInv.history (hinv : LedgerInv P db) : LedgerHistory P db where
  columns a ha := (hinv.receipts.sound a ha).columns
  numbered t := chain_numbers (hinv.receipts.linked t)
  linked t pre a post h := by
    rw [← tenantEnd_eq]
    exact ((hinv.receipts.chains t).split h).2.previous
  custody t pre a post h hpost := by
    -- the next one was only allowed behind durable receipts
    cases post with
    | nil => exact absurd rfl hpost
    | cons b post =>
      have hsplit : db.tenantAdmissions t = (pre ++ [a]) ++ b :: post := by
        rw [h, List.append_assoc]
        rfl
      exact ((hinv.receipts.chains t).split hsplit).2.durable a
        (List.mem_append_right _ (List.mem_singleton_self a))
  oneReservation p hp q hq h := List.inj_on_of_nodup_map hinv.preparations.tenants hp hq h
  reservation p hp := by
    have hcolumns := (hinv.preparations.sound p hp).columns
    have hnext := hinv.preparations.next p hp
    refine ⟨hcolumns, ?_, ?_, hnext.durable⟩
    · rw [← hnext.number]
      exact congrArg PreparationColumns.receiptSequence hcolumns
    · rw [← tenantEnd_eq]
      exact hnext.previous
  collectorFirst t c a post h := by
    have hsplit : (db.tenantAdmissions t).filter (fun a => decide (a.collectorId = c))
        = [] ++ a :: post := h
    obtain ⟨ha, hvalid⟩ := collector_position hinv.receipts hsplit
    rw [(hinv.receipts.sound a ha).columns]
    exact hvalid
  collectorNext t c pre b a post h := by
    have hsplit : (db.tenantAdmissions t).filter (fun a => decide (a.collectorId = c))
        = (pre ++ [b]) ++ a :: post := by
      rw [h, List.append_assoc]
      rfl
    obtain ⟨_, hvalid⟩ := collector_position hinv.receipts hsplit
    rw [List.getLast?_concat, Option.map_some] at hvalid
    unfold collectorValid at hvalid
    by_cases hsame : a.receipt.body.epoch = b.epoch
    · exact Or.inl ⟨hsame, (if_pos hsame).mp hvalid⟩
    · have hnext := (if_neg hsame).mp hvalid
      by_cases hepoch : a.receipt.body.epoch = b.epoch + 1
      · obtain ⟨hone, hbinds⟩ := (if_pos hepoch).mp hnext
        exact Or.inr ⟨hepoch, hone, hbinds⟩
      · exact absurd ((if_neg hepoch).mp hnext) id
  tenantHeads h := by
    rw [hinv.heads.tenants h, tenantEnd, chainHead, Option.map_eq_some_iff]
    simp only [Prod.mk.injEq, eq_comm]
  collectorHeads h := by
    rw [hinv.heads.collectors h, collectorEnd, Option.map_eq_some_iff]
    simp only [Prod.mk.injEq, eq_comm]
  oneAdmission a ha b hb h := List.inj_on_of_nodup_map hinv.receipts.leases ha hb h
  consumption l hl := by
    -- an admitted lease is marked with its receipt
    have hmarked : ∀ a ∈ db.admissions, a.leaseDigest = l.leaseDigest →
        l.consumedEnvelopeDigest = some a.envelopeDigest
          ∧ l.consumedReceiptDigest = some a.receiptDigest := by
      intro a ha hal
      obtain ⟨l', hl', hdigest, _, henvelope, hreceipt⟩ := (hinv.receipts.sound a ha).lease
      have hsame : l' = l :=
        List.inj_on_of_nodup_map hinv.leases.digests hl' hl (hdigest.trans hal)
      rw [← hsame]
      exact ⟨henvelope, hreceipt⟩
    by_cases hadmitted : ∃ a ∈ db.admissions, a.leaseDigest = l.leaseDigest
    · obtain ⟨a, ha, hal⟩ := hadmitted
      exact Or.inr ⟨a, ha, hal, hmarked a ha hal⟩
    · rcases hinv.leases.consumed l hl with ⟨henvelope, hreceipt⟩ | hexists
      · exact Or.inl ⟨henvelope, hreceipt, fun a ha hal => hadmitted ⟨a, ha, hal⟩⟩
      · exact absurd hexists hadmitted
  oneDigest v hv w hw hid hrevision := by
    rw [List.inj_on_of_nodup_map hinv.policies.versions hv hw (Prod.ext hid hrevision)]
  policiesNamed v := by
    rw [hinv.policies.used v, Ledger.policiesUsed, List.mem_append, List.mem_map, List.mem_map]
  policyHeads := hinv.policies.heads
  acknowledgements q hq := by
    obtain ⟨a, ha, hdigest, hpending, hbody, _⟩ := hinv.acks.sound q hq
    exact ⟨a, ha, hdigest, hpending, hbody⟩
  clockFloor := hinv.clock.eq_max? fun _ => Iff.rfl

/-- **The ledger in every reachable state.** After any events of any number of
instances the tables are a closed history, and the complete validation accepts
it, so that the database can be opened again and no running instance is ever
refused its next transaction by it. -/
theorem ledger_reachable (events : List (LedgerEvent P)) :
    LedgerHistory P (worldAfter P events).ledger
      ∧ (∃ heads, validateCompleteLedger P (worldAfter P events).ledger = .ok heads
        ∧ CurrentHeads (worldAfter P events).ledger heads)
      ∧ ∀ i, ∃ heads, (worldAfter P events).heads P i = .ok heads
        ∧ CurrentHeads (worldAfter P events).ledger heads := by
  have hinv := worldAfter_inv events
  exact ⟨hinv.ledger.history, validateCompleteLedger_ok hinv.ledger, hinv.currentHeads⟩

end ControlAssurance.Admission
