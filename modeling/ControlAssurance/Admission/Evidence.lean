import ControlAssurance.Admission.Runs

/-!
# The evidence behind every receipt

What stands behind a receipt is checked in several places: the lease when it is
registered, the envelope, policy and CAB by `admit`, the attestation and the
times inside the transaction that reserves the receipt. A later transaction only
moves a reservation, with its evidence, into the table of receipts. So every
receipt was a reservation, and what a reservation has shown the receipt has.

`reservations` lists the reservations of a run in the order in which they
committed. The clock floor and the policy heads are the newest time and the
newest revisions of all of them, so neither a time nor a revision of a policy
goes back in that order, whichever tenants and instances took part.
-/

namespace ControlAssurance.Admission

open Lib

variable {P : Profile} {db db' : Ledger}

/-! ## Entries -/

/-- A receipt body with its evidence. -/
abbrev Entry := AdmissionReceiptBody × Evidence

def AdmissionRow.entry (a : AdmissionRow) : Entry := (a.receipt.body, a.evidence)

def PreparationRow.entry (p : PreparationRow) : Entry := (p.receiptBody, p.evidence)

/-- What is admitted or reserved. -/
def Ledger.entries (db : Ledger) : List Entry :=
  db.admissions.map (·.entry) ++ db.preparations.map (·.entry)

theorem mem_entries {e : Entry} :
    e ∈ db.entries ↔ (∃ a ∈ db.admissions, a.entry = e) ∨ ∃ p ∈ db.preparations, p.entry = e := by
  rw [Ledger.entries, List.mem_append, List.mem_map, List.mem_map]

/-- The reservations in `db'` that are not in `db`. -/
def newReservations (db db' : Ledger) : List PreparationRow :=
  db'.preparations.filter fun p => decide (p ∉ db.preparations)

theorem newReservations_eq_nil (h : ∀ p ∈ db'.preparations, p ∈ db.preparations) :
    newReservations db db' = [] := by
  rw [newReservations, List.filter_eq_nil_iff]
  intro p hp
  rw [decide_eq_true_iff, not_not]
  exact h p hp

/-- The receipt takes over the entry of its reservation. -/
theorem Finalized.entries {p : PreparationRow} {receipt : AdmissionReceipt}
    (h : Finalized P db db' p receipt) (hinv : LedgerInv P db) (e : Entry) :
    e ∈ db'.entries ↔ e ∈ db.entries := by
  have hentry : (receipt.row P p.evidence).entry = p.entry := Prod.ext h.body rfl
  rw [h.result]
  exact mem_replaced hinv.preparations h.mem (f := fun a => a.entry) (g := fun p => p.entry)
    hentry e

theorem CustodyClosed.entries {a : AdmissionRow} {ack : CustodyAcknowledgement}
    (h : CustodyClosed P db db' a ack) : db'.entries = db.entries := by
  obtain ⟨g, hg, hadmissions, _⟩ := h.rows
  have hpreparations : db'.preparations = db.preparations := by rw [h.result]
  have hrows : db'.admissions.map (·.entry) = db.admissions.map (·.entry) := by
    rw [hadmissions, List.map_map]
    refine List.map_congr_left fun x _ => ?_
    exact Prod.ext (congrArg AdmissionReceipt.body (hg.receipt x)) (hg.evidence x)
  rw [Ledger.entries, Ledger.entries, hrows, hpreparations]

/-- A change reserves one receipt, or changes neither the entries nor adds a
reservation. -/
theorem LedgerChange.entries (h : LedgerChange P db db') (hinv : LedgerInv P db) :
    (newReservations db db' = [] ∧ ∀ e, e ∈ db'.entries ↔ e ∈ db.entries)
      ∨ ∃ row, Reserved P db db' row ∧ newReservations db db' = [row] := by
  cases h with
  | same h =>
    rw [h]
    exact Or.inl ⟨newReservations_eq_nil fun _ hp => hp, fun _ => Iff.rfl⟩
  | registered row h =>
    rw [h.result]
    exact Or.inl ⟨newReservations_eq_nil fun _ hp => hp, fun _ => Iff.rfl⟩
  | reserved row h =>
    have hrow : row ∉ db.preparations := fun hmem => h.tenant row hmem rfl
    have hold : db.preparations.filter (fun p => decide (p ∉ db.preparations)) = [] :=
      newReservations_eq_nil (show ∀ p ∈ db.preparations, p ∈ db.preparations from fun _ hp => hp)
    refine Or.inr ⟨row, h, ?_⟩
    have hpreparations : db'.preparations = db.preparations ++ [row] := by rw [h.result]
    rw [newReservations, hpreparations, List.filter_append, hold, List.nil_append]
    exact List.filter_cons_of_pos (decide_eq_true hrow)
  | finalized p receipt h =>
    refine Or.inl ⟨newReservations_eq_nil fun q hq => ?_, h.entries hinv⟩
    rw [h.result] at hq
    exact List.mem_of_mem_filter hq
  | ackPrepared a h =>
    rw [h.result]
    exact Or.inl ⟨newReservations_eq_nil fun _ hp => hp, fun _ => Iff.rfl⟩
  | closed a ack h =>
    refine Or.inl ⟨newReservations_eq_nil fun p hp => ?_, fun e => by rw [h.entries]⟩
    rw [h.result] at hp
    exact hp

/-! ## The order of reservations -/

section

variable (P)

/-- The reservations of a run from `w`, in the order in which they committed. -/
def reservations (w : World) : List (LedgerEvent P) → List PreparationRow
  | [] => []
  | e :: events =>
    newReservations w.ledger (w.next P e).ledger ++ reservations (w.next P e) events

end

/-- `p` could be reserved before `q`. -/
def ReservedBefore (p q : PreparationRow) : Prop :=
  p.receiptBody.admittedAt ≤ q.receiptBody.admittedAt
    ∧ (p.receiptBody.trustPolicyId = q.receiptBody.trustPolicyId →
      p.receiptBody.trustPolicyRevision ≤ q.receiptBody.trustPolicyRevision)

/-- The ledger holds the entries of `past`, which are in order. -/
structure Accounted (db : Ledger) (past : List PreparationRow) : Prop where
  entries : ∀ e, e ∈ db.entries ↔ ∃ p ∈ past, p.entry = e
  ordered : past.Pairwise ReservedBefore

theorem accounted_empty : Accounted Ledger.empty [] := by
  refine ⟨fun e => ?_, List.Pairwise.nil⟩
  constructor
  · intro he
    cases he
  · rintro ⟨p, hp, _⟩
    cases hp

/-- The clock floor is not before any entry. -/
theorem entry_before_floor (hinv : LedgerInv P db) {e : Entry} (he : e ∈ db.entries)
    {now : Instant} (hfloor : ∀ f ∈ db.lastAdmittedAt, f ≤ now) : e.1.admittedAt ≤ now := by
  have htime : e.1.admittedAt ∈ db.admissionTimes := by
    rw [Ledger.admissionTimes, List.mem_append, List.mem_map, List.mem_map]
    rcases mem_entries.mp he with ⟨a, ha, rfl⟩ | ⟨p, hp, rfl⟩
    · exact Or.inl ⟨a, ha, rfl⟩
    · exact Or.inr ⟨p, hp, rfl⟩
  rcases hinv.clock with ⟨_, hnil⟩ | ⟨m, hm, _, hmax⟩
  · rw [hnil] at htime
    cases htime
  · exact le_trans (hmax _ htime) (hfloor m hm)

/-- An entry's policy revision is a stored version. -/
theorem entry_policy (hinv : LedgerInv P db) {e : Entry} (he : e ∈ db.entries) :
    (e.1.preparationColumns P).policy ∈ db.policyVersions := by
  rw [hinv.policies.used, Ledger.policiesUsed, List.mem_append, List.mem_map, List.mem_map]
  rcases mem_entries.mp he with ⟨a, ha, rfl⟩ | ⟨p, hp, rfl⟩
  · refine Or.inl ⟨a, ha, ?_⟩
    rw [(hinv.receipts.sound a ha).columns]
    rfl
  · refine Or.inr ⟨p, hp, ?_⟩
    rw [(hinv.preparations.sound p hp).columns]
    rfl

/-- A version the policy head has reached or passed is not newer than one it may
advance to. -/
theorem PolicyAdvanced.newest {v x : PolicyVersion} (h : PolicyAdvanced db db' v)
    (hx : x ∈ db.policyVersions) (hid : x.policyId = v.policyId) :
    x.policyRevision ≤ v.policyRevision := by
  rcases h with ⟨_, hmax, _⟩ | ⟨hlt, _⟩
  · exact hmax x hx hid
  · exact Nat.le_of_lt (hlt x hx hid)

theorem Accounted.change {past : List PreparationRow} (h : Accounted db past)
    (hinv : LedgerInv P db) (hchange : LedgerChange P db db') :
    Accounted db' (past ++ newReservations db db') := by
  rcases hchange.entries hinv with ⟨hnil, hsame⟩ | ⟨row, hrow, hnew⟩
  · rw [hnil, List.append_nil]
    exact ⟨fun e => (hsame e).trans (h.entries e), h.ordered⟩
  · rw [hnew]
    constructor
    · intro e
      have hadmissions : db'.admissions = db.admissions := by rw [hrow.result]
      have hpreparations : db'.preparations = db.preparations ++ [row] := by rw [hrow.result]
      have hentries : e ∈ db'.entries ↔ e ∈ db.entries ∨ row.entry = e := by
        rw [Ledger.entries, Ledger.entries, hadmissions, hpreparations, List.map_append,
          ← List.append_assoc, List.mem_append, List.map_singleton, List.mem_singleton]
        exact or_congr_right eq_comm
      rw [hentries, h.entries]
      simp only [List.mem_append, List.mem_singleton, or_and_right, exists_or, exists_eq_left]
    · rw [List.pairwise_append]
      refine ⟨h.ordered, List.pairwise_singleton _ _, fun p hp q hq => ?_⟩
      rw [List.mem_singleton.mp hq]
      have hentry : p.entry ∈ db.entries := (h.entries _).mpr ⟨p, hp, rfl⟩
      refine ⟨entry_before_floor hinv hentry hrow.floor, fun hid => ?_⟩
      have hpolicy := hrow.policy
      rw [hrow.sound.columns] at hpolicy
      exact hpolicy.newest (entry_policy hinv hentry) hid

/-- What an event does to the tables. -/
theorem next_change {w : World} (hw : WorldInv P w) (e : LedgerEvent P) :
    LedgerChange P w.ledger (w.next P e).ledger := by
  cases e with
  | opened i =>
    obtain ⟨heads, hok, _⟩ := validateCompleteLedger_ok hw.ledger
    simp only [World.next, hok]
    split <;> exact .same rfl
  | crashed i => exact .same rfl
  | measured file => exact .same rfl
  | called i c => exact (transact_inv hw i c).2

theorem accounted_run (events : List (LedgerEvent P)) :
    ∀ (w : World) (past : List PreparationRow), WorldInv P w → Accounted w.ledger past →
      Accounted (events.foldl (World.next P) w).ledger (past ++ reservations P w events) := by
  induction events with
  | nil =>
    intro w past _ h
    rw [reservations, List.append_nil]
    exact h
  | cons e events ih =>
    intro w past hw h
    rw [reservations, ← List.append_assoc]
    exact ih _ _ (next_inv hw e) (h.change hw.ledger (next_change hw e))

/-! ## Evidence -/

/-- A receipt row, the lease it was made under and the statement of its envelope. -/
structure EvidencedBy (P : Profile) (a : AdmissionRow) (l : LeaseRow)
    (statement : CollectionStatement) : Prop where
  /-- signed under the pinned key -/
  authority : P.authorityVerifies l.grant.lease l.grant.authoritySignature = true
    ∧ l.grant.lease.leaseAuthorityKeyFingerprint = P.leaseAuthorityFingerprint
  named : a.receipt.body.leaseDigest = l.grant.lease.leaseDigest P
  carried : P.parseStatement a.evidence.envelopeBytes = some statement
  shared : statement.leaseDigest = l.grant.lease.leaseDigest P
    ∧ statement.toLeaseTerms = l.grant.lease.toLeaseTerms
  configured : statement.audience = P.expectedAudience
    ∧ statement.capabilityDigest = P.expectedCapabilityDigest
  policy : P.sha (.bytes a.evidence.policyBytes) = statement.policyDigest
    ∧ statement.policyDigest = l.grant.lease.policyDigest
    ∧ P.parseTrustPolicy a.evidence.policyBytes = some statement.policyId
  /-- `verify_dsse_attestation` accepts at the time of admission -/
  attested : (P.verifyAttestation a.evidence.envelopeBytes a.evidence.policyBytes statement
      a.receipt.body.admittedAt).verified = true
    ∧ (P.verifyAttestation a.evidence.envelopeBytes a.evidence.policyBytes statement
      a.receipt.body.admittedAt).reasonCode = .verified
  window : l.grant.lease.issuedAt ≤ statement.collectedAt
    ∧ statement.collectedAt ≤ a.receipt.body.admittedAt
    ∧ a.receipt.body.admittedAt < l.grant.lease.expiresAt
  snapshot : P.verifySnapshot a.evidence.cabSnapshotBytes
    = some ⟨statement.cabId, statement.manifestDigest⟩
  /-- the receipt is about these bytes -/
  digests : EvidenceDigests P a.receipt.body a.evidence

theorem SoundReceipt.evidenced {a : AdmissionRow} (h : SoundReceipt P db a)
    (hleases : ∀ l ∈ db.leases, SoundLease P l) :
    ∃ l ∈ db.leases, ∃ statement, EvidencedBy P a l statement := by
  obtain ⟨l, hl, _, hev, _⟩ := h.lease
  obtain ⟨statement, hparse, hmatch, _, _, _, _, hlease, _, _, _, haudience, _, hcapability, _,
    hcab, hmanifest, _, _, hpolicyId, _, hpolicyDigest, _, _, _, _, _, _, hattestation, _,
    hunexpired, hcollected, _, hbefore⟩ := hev.bound
  have hbytes := hev.digests.2.2.1
  refine ⟨l, hl, statement,
    { authority := ⟨(hleases l hl).signed, (hleases l hl).authority⟩
      named := hlease
      carried := hparse
      shared := hmatch
      configured := ?_
      policy := ⟨hbytes.trans hpolicyDigest, congrArg LeaseTerms.policyDigest hmatch.2, ?_⟩
      attested := ?_
      window := ⟨hcollected, hbefore, hunexpired⟩
      snapshot := ?_
      digests := hev.digests }⟩
  · rw [← haudience, ← hcapability]
    exact hev.configured
  · rw [← hpolicyId]
    exact hev.policy
  · rw [hattestation]
    exact hev.verified
  · rw [← hcab, ← hmanifest]
    exact hev.snapshot

/-- **Every receipt is evidenced.** After any events of any number of instances:
each receipt has a registered lease and a statement that make it good; receipts
and outstanding reservations are exactly what was ever reserved; and in the order
in which the reservations committed, over all tenants, neither the admission time
nor the revision of any policy goes back. -/
theorem receipts_evidenced (events : List (LedgerEvent P)) :
    (∀ a ∈ (worldAfter P events).ledger.admissions,
      ∃ l ∈ (worldAfter P events).ledger.leases, ∃ statement, EvidencedBy P a l statement)
    ∧ (∀ e, e ∈ (worldAfter P events).ledger.entries
      ↔ ∃ p ∈ reservations P World.init events, p.entry = e)
    ∧ (reservations P World.init events).Pairwise ReservedBefore := by
  have hinv := (worldAfter_inv events).ledger
  have hrun : Accounted (worldAfter P events).ledger (reservations P World.init events) :=
    accounted_run events World.init [] worldInv_init accounted_empty
  refine ⟨fun a ha => ?_, hrun.entries, hrun.ordered⟩
  exact (hinv.receipts.sound a ha).evidenced hinv.leases.sound

end ControlAssurance.Admission
