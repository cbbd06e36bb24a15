import ControlAssurance.Admission.Evidence
import ControlAssurance.Admission.Service

/-!
# The receipt signer never equivocates

The signer works outside of every transaction, on preparations that clients hold
in memory, so what it has signed is in no table. What holds it together is that
no committed ledger is ever taken back (`Advances`): a reserved body stays a
reservation until it is the body of a receipt, and receipts stay. Whatever a
client remembers was therefore in a ledger of the log and is still accounted for
in the current one, where all bodies stand in different places
(`bodies_unique`).
-/

namespace ControlAssurance.Admission

open Lib

variable {P : Profile} {db db' : Ledger}

/-! ## What no transaction takes back -/

/-- The bodies of receipts and reservations. -/
def Ledger.bodies (db : Ledger) : List AdmissionReceiptBody :=
  db.admissions.map (·.receipt.body) ++ db.preparations.map (·.receiptBody)

variable {b : AdmissionReceiptBody} {s' : SigningWorld} {service : Nat}

theorem mem_bodies :
    b ∈ db.bodies ↔ (∃ a ∈ db.admissions, a.receipt.body = b)
      ∨ ∃ p ∈ db.preparations, p.receiptBody = b := by
  rw [Ledger.bodies, List.mem_append, List.mem_map, List.mem_map]

/-- `a'` is the row `a`, whose custody may have been confirmed since. -/
structure KeepsRow (a a' : AdmissionRow) : Prop where
  columns : a'.toAdmissionColumns = a.toAdmissionColumns
  receipt : a'.receipt = a.receipt
  evidence : a'.evidence = a.evidence
  ack : ∀ ack, a.custodyAck = some ack → a'.custodyAck = some ack
  durable : a.custodyState = .durable → a' = a

theorem KeepsRow.refl (a : AdmissionRow) : KeepsRow a a :=
  ⟨rfl, rfl, rfl, fun _ h => h, fun _ => rfl⟩

theorem KeepsRow.trans {a b c : AdmissionRow} (h : KeepsRow a b) (h' : KeepsRow b c) :
    KeepsRow a c := by
  refine ⟨h'.columns.trans h.columns, h'.receipt.trans h.receipt, h'.evidence.trans h.evidence,
    fun ack hack => h'.ack ack (h.ack ack hack), fun hdurable => ?_⟩
  have hsame := h.durable hdurable
  rw [hsame] at h'
  exact h'.durable hdurable

structure Advances (db db' : Ledger) : Prop where
  entries : ∀ e ∈ db.entries, e ∈ db'.entries
  receipts : ∀ a ∈ db.admissions, ∃ a' ∈ db'.admissions, KeepsRow a a'
  /-- an acknowledgement that is to be signed waits until custody is confirmed -/
  acks : ∀ q ∈ db.ackPreparations, q ∈ db'.ackPreparations
    ∨ ∃ a ∈ db'.admissions, a.receiptDigest = q.receiptDigest ∧ a.custodyState = .durable

theorem Advances.refl (db : Ledger) : Advances db db :=
  ⟨fun _ he => he, fun a ha => ⟨a, ha, .refl a⟩, fun _ hq => Or.inl hq⟩

theorem Advances.trans {db'' : Ledger} (h : Advances db db') (h' : Advances db' db'') :
    Advances db db'' := by
  refine ⟨fun e he => h'.entries e (h.entries e he), fun a ha => ?_, fun q hq => ?_⟩
  · obtain ⟨a₁, ha₁, hkeeps⟩ := h.receipts a ha
    obtain ⟨a₂, ha₂, hkeeps'⟩ := h'.receipts a₁ ha₁
    exact ⟨a₂, ha₂, hkeeps.trans hkeeps'⟩
  · rcases h.acks q hq with hq' | ⟨a, ha, hdigest, hdurable⟩
    · exact h'.acks q hq'
    · obtain ⟨a', ha', hkeeps⟩ := h'.receipts a ha
      rw [hkeeps.durable hdurable] at ha'
      exact Or.inr ⟨a, ha', hdigest, hdurable⟩

theorem Advances.bodies (h : Advances db db') (hb : b ∈ db.bodies) :
    b ∈ db'.bodies := by
  have hentry : ∃ ev, (b, ev) ∈ db.entries := by
    rcases mem_bodies.mp hb with ⟨a, ha, rfl⟩ | ⟨p, hp, rfl⟩
    · exact ⟨a.evidence, mem_entries.mpr (Or.inl ⟨a, ha, rfl⟩)⟩
    · exact ⟨p.evidence, mem_entries.mpr (Or.inr ⟨p, hp, rfl⟩)⟩
  obtain ⟨ev, he⟩ := hentry
  rw [mem_bodies]
  rcases mem_entries.mp (h.entries _ he) with ⟨a, ha, hentry⟩ | ⟨p, hp, hentry⟩
  · exact Or.inl ⟨a, ha, congrArg Prod.fst hentry⟩
  · exact Or.inr ⟨p, hp, congrArg Prod.fst hentry⟩

/-- The rows and the prepared acknowledgements after a change. -/
theorem LedgerChange.advances (h : LedgerChange P db db') (hinv : LedgerInv P db) :
    Advances db db' := by
  have hentries : ∀ e ∈ db.entries, e ∈ db'.entries := by
    intro e he
    rcases h.entries hinv with ⟨_, hsame⟩ | ⟨row, hrow, _⟩
    · exact (hsame e).mpr he
    · rw [hrow.result]
      rcases mem_entries.mp he with hadmitted | ⟨p, hp, hentry⟩
      · exact mem_entries.mpr (Or.inl hadmitted)
      · exact mem_entries.mpr (Or.inr ⟨p, List.mem_append_left _ hp, hentry⟩)
  refine ⟨hentries, ?_, ?_⟩
  · intro x hx
    cases h with
    | same h => rw [h]; exact ⟨x, hx, .refl x⟩
    | registered row h => rw [h.result]; exact ⟨x, hx, .refl x⟩
    | reserved row h => rw [h.result]; exact ⟨x, hx, .refl x⟩
    | finalized p receipt h =>
      rw [h.result]
      exact ⟨x, List.mem_append_left _ hx, .refl x⟩
    | ackPrepared a h => rw [h.result]; exact ⟨x, hx, .refl x⟩
    | closed a ack h =>
      obtain ⟨g, hg, hadmissions, _, hother⟩ := h.rows
      refine ⟨g x, ?_, ?_⟩
      · rw [hadmissions]
        exact List.mem_map_of_mem hx
      · by_cases hxa : x.receiptDigest = a.receiptDigest
        · -- the confirmed row was pending and had no acknowledgement
          have heq := List.inj_on_of_nodup_map hinv.receipts.digests hx h.mem hxa
          refine ⟨hg.columns x, hg.receipt x, hg.evidence x, fun k hk => ?_, fun hdurable => ?_⟩
          · rcases (hinv.receipts.sound a h.mem).ack with ⟨_, hnone, _⟩ | ⟨hdurable, _⟩
            · rw [heq, hnone] at hk
              cases hk
            · rw [h.pending] at hdurable
              cases hdurable
          · rw [heq, h.pending] at hdurable
            cases hdurable
        · rw [hother x hxa]
          exact .refl x
  · intro q hq
    cases h with
    | same h => rw [h]; exact Or.inl hq
    | registered row h => rw [h.result]; exact Or.inl hq
    | reserved row h => rw [h.result]; exact Or.inl hq
    | finalized p receipt h => rw [h.result]; exact Or.inl hq
    | ackPrepared a h =>
      rw [h.result]
      exact Or.inl (List.mem_append_left _ hq)
    | closed a ack h =>
      by_cases hqa : q.receiptDigest = a.receiptDigest
      · obtain ⟨g, hg, hadmissions, hself, _⟩ := h.rows
        refine Or.inr ⟨g a, ?_, ?_, ?_⟩
        · rw [hadmissions]
          exact List.mem_map_of_mem h.mem
        · rw [hg.columns]
          exact hqa.symm
        · rw [hself]
          rfl
      · rw [h.result]
        refine Or.inl (List.mem_filter.mpr ⟨hq, ?_⟩)
        rw [Bool.not_eq_true', decide_eq_false_iff_not]
        exact fun hown => hqa hown.1

/-! ## The places of a body -/

/-- Two receipt bodies claim one place: a number in the tenant's chain, a lease, a
position of a collector, or an envelope. -/
def SamePlace (b b' : AdmissionReceiptBody) : Prop :=
  (b.tenantId = b'.tenantId ∧ b.receiptSequence = b'.receiptSequence)
    ∨ b.leaseDigest = b'.leaseDigest
    ∨ (b.tenantId = b'.tenantId ∧ b.collectorId = b'.collectorId ∧ b.epoch = b'.epoch
      ∧ b.sequence = b'.sequence)
    ∨ b.envelopeDigest = b'.envelopeDigest

/-- Two bodies of a ledger are one when this holds for receipts, for reservations,
and a receipt and a reservation are never at one place. -/
theorem bodies_cases {place : AdmissionReceiptBody → AdmissionReceiptBody → Prop}
    (hsymm : ∀ b b', place b b' → place b' b)
    (hadmitted : ∀ a ∈ db.admissions, ∀ a' ∈ db.admissions,
      place a.receipt.body a'.receipt.body → a = a')
    (hreserved : ∀ p ∈ db.preparations, ∀ p' ∈ db.preparations,
      place p.receiptBody p'.receiptBody → p = p')
    (hmixed : ∀ a ∈ db.admissions, ∀ p ∈ db.preparations,
      ¬place a.receipt.body p.receiptBody) :
    ∀ b ∈ db.bodies, ∀ b' ∈ db.bodies, place b b' → b = b' := by
  intro b hb b' hb' hplace
  rcases mem_bodies.mp hb with ⟨a, ha, rfl⟩ | ⟨p, hp, rfl⟩
  · rcases mem_bodies.mp hb' with ⟨a', ha', rfl⟩ | ⟨p', hp', rfl⟩
    · rw [hadmitted a ha a' ha' hplace]
    · exact absurd hplace (hmixed a ha p' hp')
  · rcases mem_bodies.mp hb' with ⟨a', ha', rfl⟩ | ⟨p', hp', rfl⟩
    · exact absurd (hsymm _ _ hplace) (hmixed a' ha' p hp)
    · rw [hreserved p hp p' hp' hplace]

/-- Rows repeat their documents. -/
theorem LedgerInv.admitted_columns (hinv : LedgerInv P db) {a : AdmissionRow}
    (ha : a ∈ db.admissions) :
    a.tenantId = a.receipt.body.tenantId ∧ a.receiptSequence = a.receipt.body.receiptSequence
      ∧ a.leaseDigest = a.receipt.body.leaseDigest
      ∧ a.envelopeDigest = a.receipt.body.envelopeDigest := by
  rw [(hinv.receipts.sound a ha).columns]
  exact ⟨rfl, rfl, rfl, rfl⟩

theorem LedgerInv.reserved_columns (hinv : LedgerInv P db) {p : PreparationRow}
    (hp : p ∈ db.preparations) :
    p.tenantId = p.receiptBody.tenantId ∧ p.receiptSequence = p.receiptBody.receiptSequence
      ∧ p.leaseDigest = p.receiptBody.leaseDigest
      ∧ p.envelopeDigest = p.receiptBody.envelopeDigest := by
  rw [(hinv.preparations.sound p hp).columns]
  exact ⟨rfl, rfl, rfl, rfl⟩

theorem number_unique (hinv : LedgerInv P db) : ∀ b ∈ db.bodies, ∀ b' ∈ db.bodies,
    b.tenantId = b'.tenantId ∧ b.receiptSequence = b'.receiptSequence → b = b' := by
  refine bodies_cases (fun b b' h => ⟨h.1.symm, h.2.symm⟩) ?_ ?_ ?_
  · intro a ha a' ha' ⟨htenant, hnumber⟩
    obtain ⟨ht, hn, _⟩ := hinv.admitted_columns ha
    obtain ⟨ht', hn', _⟩ := hinv.admitted_columns ha'
    have hfound := admissionAt_of_mem hinv.receipts ha
    rw [ht, hn, htenant, hnumber, ← ht', ← hn', admissionAt_of_mem hinv.receipts ha'] at hfound
    exact (Option.some.inj hfound).symm
  · intro p hp p' hp' ⟨htenant, _⟩
    refine List.inj_on_of_nodup_map hinv.preparations.tenants hp hp' ?_
    rw [(hinv.reserved_columns hp).1, (hinv.reserved_columns hp').1]
    exact htenant
  · -- a reservation has the number after all receipts
    intro a ha p hp ⟨htenant, hnumber⟩
    obtain ⟨ht, hn, _⟩ := hinv.admitted_columns ha
    obtain ⟨ht', _⟩ := hinv.reserved_columns hp
    have hmem : a ∈ db.tenantAdmissions p.tenantId :=
      mem_tenantAdmissions.mpr ⟨ha, ht.trans (htenant.trans ht'.symm)⟩
    have hrange : a.receiptSequence
        ∈ (db.tenantAdmissions p.tenantId).map (·.receiptSequence) := List.mem_map_of_mem hmem
    rw [chain_numbers (hinv.receipts.linked _), List.mem_range'_1] at hrange
    have hnext := (hinv.preparations.next p hp).number
    omega

theorem lease_unique (hinv : LedgerInv P db) : ∀ b ∈ db.bodies, ∀ b' ∈ db.bodies,
    b.leaseDigest = b'.leaseDigest → b = b' := by
  refine bodies_cases (fun b b' h => h.symm) ?_ ?_ ?_
  · intro a ha a' ha' hlease
    refine List.inj_on_of_nodup_map hinv.receipts.leases ha ha' ?_
    rw [(hinv.admitted_columns ha).2.2.1, (hinv.admitted_columns ha').2.2.1]
    exact hlease
  · intro p hp p' hp' hlease
    refine List.inj_on_of_nodup_map hinv.preparations.leases hp hp' ?_
    rw [(hinv.reserved_columns hp).2.2.1, (hinv.reserved_columns hp').2.2.1]
    exact hlease
  · -- the lease of a receipt is consumed, that of a reservation is not
    intro a ha p hp hlease
    obtain ⟨l, hl, hla, _, _, hconsumed⟩ := (hinv.receipts.sound a ha).lease
    obtain ⟨l', hl', hlp, _, _, hunused⟩ := (hinv.preparations.sound p hp).lease
    have hsame : l = l' := by
      refine List.inj_on_of_nodup_map hinv.leases.digests hl hl' ?_
      rw [hla, hlp, (hinv.admitted_columns ha).2.2.1, (hinv.reserved_columns hp).2.2.1]
      exact hlease
    rw [hsame, hunused] at hconsumed
    cases hconsumed

theorem envelope_unique (hinv : LedgerInv P db) : ∀ b ∈ db.bodies, ∀ b' ∈ db.bodies,
    b.envelopeDigest = b'.envelopeDigest → b = b' := by
  obtain ⟨hadmitted, hreserved, hdisjoint⟩ := List.nodup_append.mp hinv.preparations.envelopes
  refine bodies_cases (fun b b' h => h.symm) ?_ ?_ ?_
  · intro a ha a' ha' henvelope
    refine List.inj_on_of_nodup_map hadmitted ha ha' ?_
    rw [(hinv.admitted_columns ha).2.2.2, (hinv.admitted_columns ha').2.2.2]
    exact henvelope
  · intro p hp p' hp' henvelope
    refine List.inj_on_of_nodup_map hreserved hp hp' ?_
    rw [(hinv.reserved_columns hp).2.2.2, (hinv.reserved_columns hp').2.2.2]
    exact henvelope
  · intro a ha p hp henvelope
    refine hdisjoint _ (List.mem_map_of_mem ha) _ (List.mem_map_of_mem hp) ?_
    rw [(hinv.admitted_columns ha).2.2.2, (hinv.reserved_columns hp).2.2.2]
    exact henvelope

/-- A body stands at the coordinate of its lease. -/
theorem SoundEvidence.coordinate {ev : Evidence} {l : LeaseRow}
    (h : SoundEvidence P b ev l.grant.lease) (hl : SoundLease P l) :
    l.leaseDigest = b.leaseDigest
      ∧ l.toLeaseColumns.coordinate = (b.tenantId, b.collectorId, b.epoch, b.sequence) := by
  obtain ⟨statement, _, hmatch, _, _, _, _, hdigest, _, htenant, hcollector, _, _, _, hposition, _⟩ :=
    h.bound
  have hepoch : b.epoch = statement.epoch := congrArg CollectorPosition.epoch hposition
  have hsequence : b.sequence = statement.sequence := congrArg CollectorPosition.sequence hposition
  rw [hl.columns, hdigest, htenant, hcollector, hepoch, hsequence, hmatch.2]
  exact ⟨rfl, rfl⟩

theorem body_lease (hinv : LedgerInv P db) (hb : b ∈ db.bodies) :
    ∃ l ∈ db.leases, l.leaseDigest = b.leaseDigest
      ∧ l.toLeaseColumns.coordinate = (b.tenantId, b.collectorId, b.epoch, b.sequence) := by
  rcases mem_bodies.mp hb with ⟨a, ha, rfl⟩ | ⟨p, hp, rfl⟩
  · obtain ⟨l, hl, _, hev, _⟩ := (hinv.receipts.sound a ha).lease
    exact ⟨l, hl, hev.coordinate (hinv.leases.sound l hl)⟩
  · obtain ⟨l, hl, _, hev, _⟩ := (hinv.preparations.sound p hp).lease
    exact ⟨l, hl, hev.coordinate (hinv.leases.sound l hl)⟩

theorem bodies_unique (hinv : LedgerInv P db) {b' : AdmissionReceiptBody} (hb : b ∈ db.bodies)
    (hb' : b' ∈ db.bodies) (h : SamePlace b b') : b = b' := by
  rcases h with hnumber | hlease | ⟨htenant, hcollector, hepoch, hsequence⟩ | henvelope
  · exact number_unique hinv b hb b' hb' hnumber
  · exact lease_unique hinv b hb b' hb' hlease
  · -- one coordinate, so one lease
    obtain ⟨l, hl, hdigest, hcoordinate⟩ := body_lease hinv hb
    obtain ⟨l', hl', hdigest', hcoordinate'⟩ := body_lease hinv hb'
    have hsame : l = l' := by
      refine List.inj_on_of_nodup_map hinv.leases.coordinates hl hl' ?_
      rw [hcoordinate, hcoordinate', htenant, hcollector, hepoch, hsequence]
    refine lease_unique hinv b hb b' hb' ?_
    rw [← hdigest, ← hdigest', hsame]
  · exact envelope_unique hinv b hb b' hb' henvelope

/-! ## The log -/

/-- A ledger that was current before. -/
def LedgerIn (log : List SigningEvent) (db : Ledger) : Prop := SigningEvent.committed db ∈ log

/-- An outcome is what a row says. -/
def Holds (db : Ledger) (o : AdmissionOutcome) : Prop :=
  ∃ a ∈ db.admissions, a.receipt = o.receipt ∧ a.custodyAck = some o.custodyAcknowledgement

/-- What may be signed and returned after `log`. -/
def Justified (log : List SigningEvent) : SigningEvent → Prop
  | .committed _ => True
  | .signed (.receipt b) => ∃ db, LedgerIn log db ∧ ∃ p ∈ db.preparations, p.receiptBody = b
  | .signed (.acknowledgement k) =>
    ∃ db, LedgerIn log db ∧ ∃ q ∈ db.ackPreparations, q.acknowledgementBody = k
  | .returned o => ∃ db, LedgerIn log db ∧ Holds db o

structure SigningInv (P : Profile) (s : SigningWorld) : Prop where
  world : WorldInv P s.world
  current : LedgerIn s.log s.world.ledger
  ledgers : ∀ db, LedgerIn s.log db → LedgerInv P db ∧ Advances db s.world.ledger
  order : Grown Justified s.log

theorem signingInv_init : SigningInv P SigningWorld.init := by
  refine ⟨worldInv_init, List.mem_singleton_self _, fun db hdb => ?_, .snoc .nil trivial⟩
  cases List.mem_singleton.mp hdb
  exact ⟨ledgerInv_empty P, Advances.refl _⟩

/-- The promise of every move: the log only grows. -/
def LogGrows (s s' : SigningWorld) : Prop := s.log <+: s'.log

theorem LogGrows.ledgerIn {s : SigningWorld} (h : LogGrows s s') {db : Ledger}
    (hdb : LedgerIn s.log db) : LedgerIn s'.log db :=
  h.subset hdb

/-- An event that is justified, and no ledger. -/
theorem record_inv {s : SigningWorld} (hinv : SigningInv P s) {e : SigningEvent}
    (he : Justified s.log e) (hno : ∀ db, e ≠ .committed db) :
    SigningInv P (s.record e) ∧ LogGrows s (s.record e) := by
  refine ⟨⟨hinv.world, List.mem_append_left _ hinv.current, fun db hdb => ?_,
    .snoc hinv.order he⟩, List.prefix_append _ _⟩
  rcases List.mem_append.mp hdb with hdb | hdb
  · exact hinv.ledgers db hdb
  · exact absurd (List.mem_singleton.mp hdb).symm (hno db)

/-- A transaction: the ledger it leaves joins the log, and a successful one ran on
the ledger before it. -/
theorem ledger_exec {s : SigningWorld} (hinv : SigningInv P s)
    {c : LedgerCall P} {r : Except AdmissionError c.Answer} (h : (r, s') = s.transact service c) :
    SigningInv P s' ∧ LogGrows s s'
      ∧ ∀ answer, r = .ok answer → ∃ heads, c.run P s.world.file heads s.world.ledger
        = .ok (s'.world.ledger, answer) := by
  obtain ⟨hr, rfl⟩ := Prod.mk.inj h
  obtain ⟨hworld, hchange⟩ := transact_inv hinv.world service c
  have hadvances := hchange.advances hinv.world.ledger
  refine ⟨⟨hworld, List.mem_append_right _ (List.mem_singleton_self _), fun db hdb => ?_,
    .snoc hinv.order trivial⟩, List.prefix_append _ _, fun answer hanswer => ?_⟩
  · rcases List.mem_append.mp hdb with hdb | hdb
    · obtain ⟨hdbinv, hold⟩ := hinv.ledgers db hdb
      exact ⟨hdbinv, hold.trans hadvances⟩
    · cases List.mem_singleton.mp hdb
      exact ⟨hworld.ledger, Advances.refl _⟩
  · rw [hanswer] at hr
    show ∃ heads, c.run P s.world.file heads s.world.ledger
      = .ok ((s.world.transact P service c).2.ledger, answer)
    obtain ⟨heads, _, _, ⟨db, answer', hrun, heq⟩ | ⟨e, _, heq⟩⟩ :=
      transact_cases hinv.world service c
    · rw [heq] at hr ⊢
      cases hr
      exact ⟨heads, hrun⟩
    · rw [heq] at hr
      cases hr

/-- An event of the surroundings touches no table. -/
theorem next_ledger {w : World} {event : LedgerEvent P}
    (hevent : ∀ service call, event ≠ .called service call) :
    (w.next P event).ledger = w.ledger := by
  cases event with
  | opened i =>
    unfold World.next
    dsimp only
    split
    · split <;> rfl
    · rfl
  | crashed i => rfl
  | measured file => rfl
  | called i c => exact absurd rfl (hevent i c)

theorem env_inv {s : SigningWorld} (hinv : SigningInv P s) (h : serviceEnv (P := P) s s') :
    SigningInv P s' ∧ LogGrows s s' := by
  obtain ⟨hlog, event, hevent, hworld⟩ := h
  have hledger : s'.world.ledger = s.world.ledger := by
    rw [hworld]
    exact next_ledger hevent
  refine ⟨⟨?_, ?_, ?_, ?_⟩, ?_⟩
  · rw [hworld]
    exact next_inv hinv.world _
  · rw [hlog, hledger]
    exact hinv.current
  · rw [hlog, hledger]
    exact hinv.ledgers
  · rw [hlog]
    exact hinv.order
  · show s.log <+: s'.log
    exact hlog ▸ List.prefix_refl _

/-! ## Clients -/

/-- A client keeps the log justified; all it returns is in the log. -/
abbrev ClientSafe (p : Client P) (s : SigningWorld) : Prop :=
  Safe serviceExec (SigningInv P) LogGrows (fun _ _ => True) p s

theorem logGrows_refl (s : SigningWorld) : LogGrows s s := List.prefix_refl _

theorem logGrows_trans {s₁ s₂ s₃ : SigningWorld} (h : LogGrows s₁ s₂) (h' : LogGrows s₂ s₃) :
    LogGrows s₁ s₃ := List.IsPrefix.trans h h'

/-- A call of the surroundings that leaves no trace. -/
theorem safe_outside {c : ServiceCall P} {s : SigningWorld}
    (hexec : ∀ s r s', serviceExec c s r s' → s' = s)
    {k : c.Answer → Client P}
    (hk : ∀ s', LogGrows s s' → SigningInv P s' → ∀ a, ClientSafe (k a) s') :
    ClientSafe (Prog.request c k) s := by
  refine safe_requested (fun _ _ => trivial) ?_
  intro s' hgrows hinv r s'' h
  cases hexec s' r s'' h
  exact ⟨hinv, List.prefix_refl _, fun a _ => hk s' hgrows hinv a⟩

/-- A transaction, with what its success says. -/
theorem safe_transaction {c : LedgerCall P} {s : SigningWorld} {k : c.Answer → Client P}
    (hk : ∀ s₁ s₂, LogGrows s s₂ → SigningInv P s₁ → SigningInv P s₂ → ∀ heads a,
      c.run P s₁.world.file heads s₁.world.ledger = .ok (s₂.world.ledger, a) → ClientSafe (k a) s₂) :
    ClientSafe (Prog.request (.ledger service c) k) s := by
  refine safe_requested (fun _ _ => trivial) ?_
  intro s₁ hgrows hinv r s₂ h
  obtain ⟨hinv₂, hgrows₂, hrun⟩ := ledger_exec hinv h
  refine ⟨hinv₂, hgrows₂, fun a ha => ?_⟩
  obtain ⟨heads, hok⟩ := hrun a ha
  exact hk s₁ s₂ (logGrows_trans hgrows hgrows₂) hinv hinv₂ heads a hok

/-- A transaction that reads the clock, or whose clock fails. -/
theorem safe_retryTime {statement : CollectionStatement} {digest : Digest}
    {s : SigningWorld} {k : Option Instant → Client P}
    (hk : ∀ s', LogGrows s s' → SigningInv P s' → ∀ a, ClientSafe (k a) s') :
    ClientSafe (Prog.request (.retryTime service statement digest) k) s := by
  refine safe_requested (fun _ _ => trivial) ?_
  intro s₁ hgrows hinv r s₂ h
  rcases h with ⟨now, h⟩ | ⟨rfl, rfl⟩
  · obtain ⟨hinv₂, hgrows₂, _⟩ :=
      ledger_exec (c := .retryTime statement digest now) hinv h
    exact ⟨hinv₂, hgrows₂, fun a _ => hk s₂ (logGrows_trans hgrows hgrows₂) hinv₂ a⟩
  · exact ⟨hinv, logGrows_refl _, fun a ha => by cases ha⟩

theorem safe_prepare {inputs : AdmissionInputs P} {original : Option Instant}
    {s : SigningWorld} {k : PreparedOrStored → Client P}
    (hk : ∀ s₁ s₂, LogGrows s s₂ → SigningInv P s₁ → SigningInv P s₂ → ∀ heads now a,
      prepareAdmission P s₁.world.file heads s₁.world.ledger inputs original now
        = .ok (s₂.world.ledger, a) → ClientSafe (k a) s₂) :
    ClientSafe (Prog.request (.prepare service inputs original) k) s := by
  refine safe_requested (fun _ _ => trivial) ?_
  intro s₁ hgrows hinv r s₂ h
  rcases h with ⟨now, h⟩ | ⟨rfl, rfl⟩
  · obtain ⟨hinv₂, hgrows₂, hrun⟩ :=
      ledger_exec (c := .prepare inputs original now) hinv h
    refine ⟨hinv₂, hgrows₂, fun a ha => ?_⟩
    obtain ⟨heads, hok⟩ := hrun a ha
    exact hk s₁ s₂ (logGrows_trans hgrows hgrows₂) hinv hinv₂ heads now a hok
  · exact ⟨hinv, logGrows_refl _, fun a ha => by cases ha⟩

/-- The signer is asked for a justified body. -/
theorem safe_sign {body : SigningBody} {s : SigningWorld}
    {k : DetachedSignature → Client P}
    (hjust : ∀ s', LogGrows s s' → Justified s'.log (.signed body))
    (hk : ∀ s', LogGrows s s' → SigningInv P s' → ∀ signature, ClientSafe (k signature) s') :
    ClientSafe (Prog.request (.sign body) k) s := by
  refine safe_requested (fun _ _ => trivial) ?_
  intro s' hgrows hinv r s'' ⟨_, hs''⟩
  cases hs''
  obtain ⟨hinv', hgrows'⟩ := record_inv hinv (hjust s' hgrows) (fun db h => by cases h)
  exact ⟨hinv', hgrows', fun a _ => hk _ (logGrows_trans hgrows hgrows') hinv' a⟩

/-- A preparation the client has read from some committed ledger. -/
def KnowsPrepared (P : Profile) (log : List SigningEvent) (p : PreparedAdmission) : Prop :=
  ∃ db, LedgerIn log db ∧ ∃ row ∈ db.preparations, p = row.prepared P

/-- A receipt it has read from one. -/
def KnowsReceipt (log : List SigningEvent) (receipt : AdmissionReceipt) : Prop :=
  ∃ db, LedgerIn log db ∧ ∃ a ∈ db.admissions, a.receipt = receipt

theorem completePreparedAdmission_safe {prepared : PreparedAdmission}
    {k : StoredAdmission → Client P} {s : SigningWorld} (hknown : KnowsPrepared P s.log prepared)
    (hk : ∀ s', LogGrows s s' → SigningInv P s' → ∀ stored,
      KnowsReceipt s'.log stored.receipt → ClientSafe (k stored) s') :
    ClientSafe (completePreparedAdmission P service prepared k) s := by
  obtain ⟨db, hdb, row, hrow, rfl⟩ := hknown
  refine safe_check (fun _ => trivial) fun _ _ => ?_
  refine safe_sign (fun s' hgrows => ⟨db, hgrows.ledgerIn hdb, row, hrow, rfl⟩) ?_
  intro s₁ hgrows₁ _ signature
  refine safe_check (fun _ => trivial) fun _ _ => ?_
  refine safe_transaction ?_
  intro s₂ s₃ hgrows₃ hinv₂ hinv₃ heads stored hrun
  refine hk s₃ (logGrows_trans hgrows₁ hgrows₃) hinv₃ stored ⟨_, hinv₃.current, ?_⟩
  rcases finalizeAdmission_step hinv₂.world.ledger hrun with
    ⟨a, ha, hsame, _, _, _, _, rfl⟩ | ⟨p, hp, _, rfl⟩
  · rw [hsame]
    exact ⟨a, ha, rfl⟩
  · rw [hp.result]
    exact ⟨_, List.mem_append_right _ (List.mem_singleton_self _), rfl⟩

/-- Custody of the receipt with the digest is confirmed by this acknowledgement. -/
def Confirmed (db : Ledger) (receiptDigest : Digest) (ack : CustodyAcknowledgement) : Prop :=
  ∃ a ∈ db.admissions, a.receiptDigest = receiptDigest ∧ a.custodyAck = some ack

theorem finalizeAck_confirmed (hinv : LedgerInv P db)
    {expected : PreparedCustodyAcknowledgement} {ack answer : CustodyAcknowledgement}
    (h : finalizeCustodyAcknowledgement P db expected ack = .ok (db', answer)) :
    Confirmed db' expected.body.receiptDigest answer := by
  obtain ⟨a, ha, hdigest, ⟨rfl, hack⟩ | ⟨hclosed, rfl⟩⟩ :=
    finalizeCustodyAcknowledgement_step hinv h
  · exact ⟨a, ha, hdigest, hack⟩
  · obtain ⟨g, hg, hadmissions, hself, _⟩ := hclosed.rows
    refine ⟨g a, ?_, ?_, ?_⟩
    · rw [hadmissions]
      exact List.mem_map_of_mem ha
    · rw [hg.columns]
      exact hdigest
    · rw [hself]
      rfl

theorem markCustodyDurable_safe {receiptDigest : Digest} {reference : String}
    {k : CustodyAcknowledgement → Client P} {s : SigningWorld}
    (hk : ∀ s', LogGrows s s' → SigningInv P s' → ∀ ack,
      Confirmed s'.world.ledger receiptDigest ack → ClientSafe (k ack) s') :
    ClientSafe (markCustodyDurable P service receiptDigest reference k) s := by
  refine safe_transaction ?_
  intro s₀ s₁ hgrows₁ hinv₀ hinv₁ heads answer hrun
  obtain ⟨a, ha, hdigest, ⟨ack, hsame, hack, rfl⟩ | ⟨hprepared, _, rfl⟩⟩ :=
    prepareCustodyAcknowledgement_step hinv₀.world.ledger hrun
  · refine hk s₁ hgrows₁ hinv₁ ack ?_
    rw [hsame]
    exact ⟨a, ha, hdigest, hack⟩
  · -- the body that is signed is in the ledger the transaction left
    refine safe_check (fun _ => trivial) fun _ _ => ?_
    refine safe_sign (fun s' hgrows =>
      ⟨_, hgrows.ledgerIn hinv₁.current, _, hprepared, rfl⟩) ?_
    intro s₂ hgrows₂ _ signature
    refine safe_check (fun _ => trivial) fun _ _ => ?_
    refine safe_transaction ?_
    intro s₃ s₄ hgrows₄ hinv₃ hinv₄ heads' ack hfinal
    have hgrows := logGrows_trans hgrows₁ (logGrows_trans hgrows₂ hgrows₄)
    refine hk s₄ hgrows hinv₄ ack ?_
    have hconfirmed := finalizeAck_confirmed hinv₃.world.ledger hfinal
    rw [← hdigest, (hinv₀.world.ledger.receipts.sound a ha).receiptDigest]
    exact hconfirmed

/-- A receipt that is known is the one under its digest. -/
theorem confirmed_holds {s : SigningWorld} (hinv : SigningInv P s) {receipt : AdmissionReceipt}
    (hknown : KnowsReceipt s.log receipt) {ack : CustodyAcknowledgement}
    (hconfirmed : Confirmed s.world.ledger (receipt.receiptDigest P) ack)
    (disposition : AdmissionDisposition) : Holds s.world.ledger ⟨disposition, receipt, ack⟩ := by
  obtain ⟨db, hdb, a₀, ha₀, rfl⟩ := hknown
  obtain ⟨hdbinv, hadvances⟩ := hinv.ledgers db hdb
  obtain ⟨a₁, ha₁, hkeeps⟩ := hadvances.receipts a₀ ha₀
  obtain ⟨a, ha, hdigest, hack⟩ := hconfirmed
  have hsame : a = a₁ := by
    refine List.inj_on_of_nodup_map hinv.world.ledger.receipts.digests ha ha₁ ?_
    rw [hdigest, hkeeps.columns, (hdbinv.receipts.sound a₀ ha₀).receiptDigest]
  refine ⟨a, ha, ?_, hack⟩
  rw [hsame]
  exact hkeeps.receipt

theorem establishCustody_safe {stored : StoredAdmission}
    {k : CustodyAcknowledgement → Client P} {s : SigningWorld}
    (hknown : KnowsReceipt s.log stored.receipt)
    (hk : ∀ s', LogGrows s s' → SigningInv P s' → ∀ ack,
      Holds s'.world.ledger ⟨stored.disposition, stored.receipt, ack⟩ → ClientSafe (k ack) s') :
    ClientSafe (establishCustody P service stored k) s := by
  refine safe_outside (fun _ _ _ h => by exact h.2) ?_
  intro s₁ hgrows₁ _ _
  refine markCustodyDurable_safe ?_
  intro s₂ hgrows₂ hinv₂ ack hconfirmed
  refine safe_check (fun _ => trivial) fun _ _ => ?_
  have hgrows := logGrows_trans hgrows₁ hgrows₂
  obtain ⟨db, hdb, ha⟩ := hknown
  exact hk s₂ hgrows hinv₂ ack
    (confirmed_holds hinv₂ ⟨db, hgrows.ledgerIn hdb, ha⟩ hconfirmed stored.disposition)

/-! ## The public operations -/

theorem append_safe {inputs : AdmissionInputs P} {original : Option Instant}
    {k : StoredAdmission → Client P} {s : SigningWorld}
    (hk : ∀ s', LogGrows s s' → SigningInv P s' → ∀ stored,
      KnowsReceipt s'.log stored.receipt → ClientSafe (k stored) s') :
    ClientSafe (append P service inputs original k) s := by
  refine safe_prepare ?_
  intro s₀ s₁ hgrows₁ hinv₀ hinv₁ heads now answer hrun
  rcases prepareAdmission_step hinv₀.world.ledger hrun with
    ⟨a, ha, stored, hsame, _, rfl, _, _, rfl⟩ | ⟨row, hrow, _, _, rfl⟩
  · refine hk s₁ hgrows₁ hinv₁ _ ⟨_, hinv₁.current, ?_⟩
    rw [hsame]
    exact ⟨a, ha, rfl⟩
  · refine completePreparedAdmission_safe ⟨_, hinv₁.current, row, hrow, rfl⟩ ?_
    intro s₂ hgrows₂
    exact hk s₂ (logGrows_trans hgrows₁ hgrows₂)

theorem admit_safe (service : Nat) (envelopeBytes : Bytes) (s : SigningWorld) :
    ClientSafe (admitCall P service envelopeBytes) s := by
  refine safe_check (fun _ => trivial) fun statement _ => ?_
  refine safe_retryTime fun _ _ _ original => ?_
  refine safe_outside (fun _ _ _ h => by exact h.2) fun _ _ _ policyBytes => ?_
  refine safe_check (fun _ => trivial) fun policy _ => ?_
  refine safe_outside (fun _ _ _ h => by exact h.2) fun _ _ _ snapshotBytes => ?_
  refine safe_check (fun _ => trivial) fun snapshot _ => ?_
  refine safe_outside (fun _ _ _ h => by exact h.2) fun _ _ _ reference => ?_
  refine safe_check (fun _ => trivial) fun _ _ => ?_
  refine append_safe fun _ _ _ stored hknown => ?_
  refine establishCustody_safe hknown ?_
  intro s₁ _ hinv₁ ack hholds
  -- the outcome is what a row of the ledger says
  refine safe_requested (fun _ _ => trivial) ?_
  intro s₂ hgrows₂ hinv₂ r s₃ ⟨_, hs₃⟩
  cases hs₃
  obtain ⟨hinv₃, hgrows₃⟩ := record_inv hinv₂ (e := .returned _)
    ⟨_, hgrows₂.ledgerIn hinv₁.current, hholds⟩ (fun db h => by cases h)
  exact ⟨hinv₃, hgrows₃, fun _ _ => trivial⟩

theorem registerLeaseCall_safe (service : Nat) (grant : SignedJobLease) (s : SigningWorld) :
    ClientSafe (registerLeaseCall P service grant) s :=
  safe_transaction fun _ _ _ _ _ _ _ _ => trivial

theorem establishAll_safe :
    ∀ (pending : List StoredAdmission) (completed : Nat) (s : SigningWorld),
      (∀ stored ∈ pending, KnowsReceipt s.log stored.receipt) →
      ClientSafe (establishAll P service pending completed) s
  | [], _, _, _ => trivial
  | stored :: rest, completed, s, hknown => by
    refine establishCustody_safe (hknown stored (List.mem_cons_self ..)) ?_
    intro s' hgrows _ _ _
    refine establishAll_safe rest (completed + 1) s' fun x hx => ?_
    obtain ⟨db, hdb, ha⟩ := hknown x (List.mem_cons_of_mem _ hx)
    exact ⟨db, hgrows.ledgerIn hdb, ha⟩

/-- The answers of `pending` are rows. -/
theorem pendingReceipts_rows {heads : List TenantHead} {limit : Nat}
    {answer : List StoredAdmission} (h : pendingReceipts P heads db limit = .ok answer) :
    ∀ stored ∈ answer, ∃ a ∈ db.admissions, a.receipt = stored.receipt := by
  intro stored hstored
  obtain ⟨a, ha, hrow⟩ := mapM_mem h stored hstored
  simp only [pendingRow, bind_eq_ok, pure_eq_ok] at hrow
  obtain ⟨receipt, hread, _, _, rfl⟩ := hrow
  have hsorted := List.mem_of_mem_take ha
  rw [List.mem_insertionSort] at hsorted
  exact ⟨a, List.mem_of_mem_filter hsorted, (verifyReceiptRow_eq hread).symm⟩

theorem reconcileRest_safe (service limit completed : Nat) (s : SigningWorld) :
    ClientSafe (reconcileRest P service limit completed) s := by
  unfold reconcileRest
  split
  · exact trivial
  · refine safe_transaction ?_
    intro s₀ s₁ _ _ hinv₁ heads pending hrun
    obtain ⟨answer, hok, hpair⟩ := map_eq_ok.mp hrun
    obtain ⟨hledger, rfl⟩ := Prod.mk.inj hpair
    refine establishAll_safe answer completed s₁ fun stored hstored => ?_
    refine ⟨_, hinv₁.current, ?_⟩
    rw [← hledger]
    exact pendingReceipts_rows hok stored hstored

theorem readPreparation_row {digest : Digest} {prepared : PreparedAdmission}
    (h : readPreparation P db digest = .ok (some prepared)) :
    ∃ row ∈ db.preparations, prepared = row.prepared P := by
  unfold readPreparation at h
  split at h
  · cases h
  next row hrow =>
    simp only [bind_eq_ok, pure_eq_ok, Option.some.injEq] at h
    obtain ⟨_, hread, rfl⟩ := h
    exact ⟨row, List.mem_of_find?_eq_some hrow, preparedAdmissionFromRow_eq hread⟩

theorem reconcilePrepared_safe {limit : Nat} :
    ∀ (digests : List Digest) (completed : Nat) (s : SigningWorld),
      ClientSafe (reconcilePrepared P service limit digests completed) s
  | [], completed, s => reconcileRest_safe service limit completed s
  | digest :: rest, completed, s => by
    refine safe_transaction ?_
    intro s₀ s₁ _ _ hinv₁ heads row hrun
    obtain ⟨answer, hok, hpair⟩ := map_eq_ok.mp hrun
    obtain ⟨hledger, rfl⟩ := Prod.mk.inj hpair
    cases answer with
    | none => exact reconcilePrepared_safe rest completed s₁
    | some prepared =>
      obtain ⟨row, hrow, rfl⟩ := readPreparation_row hok
      refine completePreparedAdmission_safe ⟨_, hinv₁.current, row, ?_, rfl⟩ ?_
      · rw [← hledger]
        exact hrow
      · intro s₂ _ _ stored hknown
        refine establishCustody_safe hknown ?_
        intro s₃ _ _ _ _
        exact reconcilePrepared_safe rest (completed + 1) s₃

theorem reconcilePending_safe (service limit : Nat) (s : SigningWorld) :
    ClientSafe (reconcilePending P service limit) s := by
  refine safe_check (fun _ => trivial) fun _ _ => ?_
  exact safe_transaction fun _ s₁ _ _ _ _ digests _ => reconcilePrepared_safe digests 0 s₁

theorem serviceEntry_safe (p : Client P) (h : ServiceEntry p) (s : SigningWorld) :
    ClientSafe p s := by
  cases h with
  | admitCall service envelopeBytes => exact admit_safe service envelopeBytes s
  | register service grant => exact registerLeaseCall_safe service grant s
  | reconcile service limit => exact reconcilePending_safe service limit s

/-- The log of every run is justified. -/
theorem signing_reachable {c : Config SigningWorld (Client P)}
    (h : Reachable serviceExec ServiceEntry (serviceEnv (P := P)) SigningWorld.init c) :
    SigningInv P c.shared := by
  have hsafe := reachable_safe logGrows_refl (fun _ _ _ => logGrows_trans)
    (fun _ _ _ _ _ => trivial) (fun p hp s _ => serviceEntry_safe p hp s)
    (fun s s' hinv henv => env_inv hinv henv) signingInv_init h
  exact hsafe.1

/-! ## What the log says -/

/-- The body continues the tenant's chain behind a receipt whose custody is
acknowledged. -/
def Behind (P : Profile) (db : Ledger) (b : AdmissionReceiptBody) : Prop :=
  (b.receiptSequence = 1 ∧ b.previousReceiptDigest = none)
    ∨ ∃ a ∈ db.admissions, a.receipt.body.tenantId = b.tenantId
      ∧ b.receiptSequence = a.receipt.body.receiptSequence + 1
      ∧ b.previousReceiptDigest = some (a.receipt.receiptDigest P)
      ∧ a.custodyState = .durable ∧ ∃ ack, a.custodyAck = some ack

/-- What the signer was asked for, and what was returned, in one log. -/
structure NeverEquivocates (P : Profile) (log : List SigningEvent) : Prop where
  onePlace : ∀ b b', SigningEvent.signed (.receipt b) ∈ log →
    SigningEvent.signed (.receipt b') ∈ log → SamePlace b b' → b = b'
  oneAcknowledgement : ∀ k k', SigningEvent.signed (.acknowledgement k) ∈ log →
    SigningEvent.signed (.acknowledgement k') ∈ log → k.receiptDigest = k'.receiptDigest → k = k'
  /-- a signed receipt body was reserved before, in a ledger where it is next -/
  receipts : ∀ pre b post, log = pre ++ SigningEvent.signed (.receipt b) :: post →
    ∃ db, LedgerIn pre db ∧ (∃ p ∈ db.preparations, p.receiptBody = b) ∧ Behind P db b
  acknowledgements : ∀ pre k post,
    log = pre ++ SigningEvent.signed (.acknowledgement k) :: post →
    ∃ db, LedgerIn pre db ∧ ∃ q ∈ db.ackPreparations, q.acknowledgementBody = k
  outcomes : ∀ o o', SigningEvent.returned o ∈ log → SigningEvent.returned o' ∈ log →
    o.receipt.body.leaseDigest = o'.receipt.body.leaseDigest →
    o.receipt = o'.receipt ∧ o.custodyAcknowledgement = o'.custodyAcknowledgement

theorem reserved_behind (hinv : LedgerInv P db) {p : PreparationRow} (hp : p ∈ db.preparations) :
    Behind P db p.receiptBody := by
  rcases (hinv.preparations.next p hp).predecessor (hinv.receipts.linked _) with
    hfirst | ⟨a, ha, _, hnumber, hprevious, hdurable⟩
  · exact Or.inl hfirst
  · obtain ⟨hmem, htenant⟩ := mem_tenantAdmissions.mp ha
    have hsound := hinv.receipts.sound a hmem
    refine Or.inr ⟨a, hmem, ?_, ?_, ?_, hdurable, ?_⟩
    · rw [← hsound.tenantId, htenant, (hinv.reserved_columns hp).1]
    · rw [hnumber, hsound.receiptSequence]
    · rw [hprevious, hsound.receiptDigest]
    · rcases hsound.ack with ⟨hpending, _⟩ | ⟨_, ack, hack⟩
      · rw [hdurable] at hpending
        cases hpending
      · exact ⟨ack, hack.stored⟩

section

variable {s : SigningWorld} (hinv : SigningInv P s)
include hinv

/-- Every event of the log was justified by ledgers that are still accounted for. -/
theorem SigningInv.justified {e : SigningEvent} (he : e ∈ s.log) : Justified s.log e := by
  obtain ⟨pre, post, hlog, _, hjust⟩ := hinv.order.mem he
  have hsub : ∀ db, LedgerIn pre db → LedgerIn s.log db := by
    intro db hdb
    rw [hlog]
    exact List.mem_append_left _ hdb
  match e, hjust with
  | .committed _, _ => exact trivial
  | .signed (.receipt b), ⟨db, hdb, h⟩ => exact ⟨db, hsub db hdb, h⟩
  | .signed (.acknowledgement k), ⟨db, hdb, h⟩ => exact ⟨db, hsub db hdb, h⟩
  | .returned o, ⟨db, hdb, h⟩ => exact ⟨db, hsub db hdb, h⟩

theorem SigningInv.signed_body {b : AdmissionReceiptBody}
    (hb : SigningEvent.signed (.receipt b) ∈ s.log) : b ∈ s.world.ledger.bodies := by
  obtain ⟨db, hdb, p, hp, hpb⟩ := hinv.justified hb
  exact (hinv.ledgers db hdb).2.bodies (mem_bodies.mpr (Or.inr ⟨p, hp, hpb⟩))

theorem SigningInv.signed_acknowledgement {k : CustodyAcknowledgementBody}
    (hk : SigningEvent.signed (.acknowledgement k) ∈ s.log) :
    ∃ a ∈ s.world.ledger.admissions, k = acknowledgementBody P a.receipt a.custodyReference
      ∧ k.receiptDigest = a.receiptDigest := by
  obtain ⟨db, hdb, q, hq, rfl⟩ := hinv.justified hk
  obtain ⟨hdbinv, hadvances⟩ := hinv.ledgers db hdb
  obtain ⟨a, ha, _, _, hbody, _⟩ := hdbinv.acks.sound q hq
  obtain ⟨a', ha', hkeeps⟩ := hadvances.receipts a ha
  have hreceipt := hkeeps.receipt
  have hsound := hinv.world.ledger.receipts.sound a' ha'
  have hreference : a'.custodyReference = a.custodyReference := by rw [hkeeps.columns]
  refine ⟨a', ha', ?_, ?_⟩
  · rw [hreceipt, hreference]
    exact hbody
  · rw [hbody, hsound.receiptDigest, hreceipt]
    rfl

theorem SigningInv.outcome_holds {o : AdmissionOutcome} (ho : SigningEvent.returned o ∈ s.log) :
    Holds s.world.ledger o := by
  obtain ⟨db, hdb, a, ha, hreceipt, hack⟩ := hinv.justified ho
  obtain ⟨a', ha', hkeeps⟩ := (hinv.ledgers db hdb).2.receipts a ha
  exact ⟨a', ha', hkeeps.receipt.trans hreceipt, hkeeps.ack _ hack⟩

end

/-- **The receipt signer never equivocates**, in any run of any clients. -/
theorem signer_never_equivocates {c : Config SigningWorld (Client P)}
    (h : Reachable serviceExec ServiceEntry (serviceEnv (P := P)) SigningWorld.init c) :
    NeverEquivocates P c.shared.log := by
  have hinv := signing_reachable h
  have hledger := hinv.world.ledger
  refine ⟨?_, ?_, ?_, ?_, ?_⟩
  · intro b b' hb hb' hplace
    exact bodies_unique hledger (hinv.signed_body hb) (hinv.signed_body hb') hplace
  · intro k k' hk hk' hdigest
    obtain ⟨a, ha, hka, hkd⟩ := hinv.signed_acknowledgement hk
    obtain ⟨a', ha', hka', hkd'⟩ := hinv.signed_acknowledgement hk'
    have hsame : a = a' := List.inj_on_of_nodup_map hledger.receipts.digests ha ha'
      (hkd.symm.trans (hdigest.trans hkd'))
    rw [hka, hka', hsame]
  · intro pre b post hlog
    obtain ⟨_, db, hdb, p, hp, rfl⟩ := hinv.order.split hlog
    have hin : LedgerIn c.shared.log db := by
      rw [hlog]
      exact List.mem_append_left _ hdb
    exact ⟨db, hdb, ⟨p, hp, rfl⟩, reserved_behind (hinv.ledgers db hin).1 hp⟩
  · intro pre k post hlog
    exact (hinv.order.split hlog).2
  · intro o o' ho ho' hlease
    obtain ⟨a, ha, hreceipt, hack⟩ := hinv.outcome_holds ho
    obtain ⟨a', ha', hreceipt', hack'⟩ := hinv.outcome_holds ho'
    have hsame : a = a' := by
      refine List.inj_on_of_nodup_map hledger.receipts.leases ha ha' ?_
      rw [(hledger.admitted_columns ha).2.2.1, (hledger.admitted_columns ha').2.2.1, hreceipt,
        hreceipt']
      exact hlease
    rw [← hreceipt, ← hreceipt', hsame]
    refine ⟨rfl, ?_⟩
    rw [hsame, hack'] at hack
    exact (Option.some.inj hack).symm

/-! ## A run with two clients of one envelope -/

/-- The surroundings of a written schedule. -/
structure ServiceAnswers where
  time : Instant
  policyBytes : Bytes
  snapshotBytes : Bytes
  reference : String
  signature : DetachedSignature

/-- A call with the given answers. -/
def runService (answers : ServiceAnswers) :
    (c : ServiceCall P) → SigningWorld → Except AdmissionError c.Answer × SigningWorld
  | .ledger service call, s => s.transact service call
  | .retryTime service statement digest, s =>
    s.transact service (.retryTime (P := P) statement digest answers.time)
  | .prepare service inputs original, s =>
    s.transact service (.prepare inputs original answers.time)
  | .resolve .., s => (.ok answers.policyBytes, s)
  | .capture, s => (.ok answers.snapshotBytes, s)
  | .referenceFor _, s => (.ok answers.reference, s)
  | .persist _, s => (.ok (), s)
  | .sign body, s => (.ok answers.signature, s.record (.signed body))
  | .reply outcome, s => (.ok (), s.record (.returned outcome))

theorem runService_exec (answers : ServiceAnswers) (c : ServiceCall P) (s : SigningWorld) :
    serviceExec c s (runService answers c s).1 (runService answers c s).2 := by
  cases c with
  | ledger service call => exact rfl
  | retryTime service statement digest => exact Or.inl ⟨answers.time, rfl⟩
  | prepare service inputs original => exact Or.inl ⟨answers.time, rfl⟩
  | reply outcome => exact ⟨rfl, rfl⟩
  | sign body => exact ⟨Or.inl ⟨_, rfl⟩, rfl⟩
  | resolve id revision digest => exact ⟨Or.inl ⟨_, rfl⟩, rfl⟩
  | capture => exact ⟨Or.inl (Or.inl ⟨_, rfl⟩), rfl⟩
  | referenceFor object => exact ⟨Or.inl ⟨_, rfl⟩, rfl⟩
  | persist stored => exact ⟨Or.inl ⟨_, rfl⟩, rfl⟩

abbrev ServiceMove (P : Profile) :=
  Move (ServiceEntry (P := P)) (serviceEnv (P := P)) ServiceAnswers

/-- A digest that tells the documents of the example apart. -/
def exampleDigest : Document → Digest
  | .bytes b => BitVec.ofNat 256 (b.foldl (fun n x => n * 256 + x.toNat) 1)
  | .nonce n => n + 5000
  | .lease _ => 1001
  | .statement _ => 1002
  | .attestation _ => 1003
  | .request _ => 1004
  | .custodyObject .. => 1005
  | .receiptBody b => BitVec.ofNat 256 (2000 + b.receiptSequence)
  | .receipt r => BitVec.ofNat 256 (3000 + r.body.receiptSequence)
  | .acknowledgementBody _ => 1006
  | .acknowledgement _ => 1007

def exampleTerms : LeaseTerms :=
  { tenantId := "tenant-a"
    collectorId := "collector-1"
    audience := "admission"
    jobId := "job-1"
    capabilityDigest := 77
    policyId := "policy"
    policyRevision := 1
    policyDigest := exampleDigest (.bytes [2])
    epoch := 1
    sequence := 1
    previousEpoch := none
    previousEpochFinalSequence := none
    previousEpochFinalReceiptDigest := none
    cabId := 88
    manifestDigest := 88
    jobNonce := 9 }

def exampleLease : SignedJobLease :=
  { lease :=
      { toLeaseTerms := exampleTerms
        leaseAuthorityKeyFingerprint := 11
        issuedAt := 100
        expiresAt := 1000 }
    authoritySignature := ⟨"authority", 1⟩ }

def exampleStatement : CollectionStatement :=
  { toLeaseTerms := exampleTerms
    leaseDigest := 1001
    collectedAt := 150 }

/-- The attestation of envelope `[1]` under policy `[2]`. -/
def exampleAttestation (envelope policy : Bytes) (statement : CollectionStatement)
    (time : Instant) : AttestationVerification :=
  { verified := decide (envelope = [1])
    reasonCode := if envelope = [1] then .verified else .malformedEnvelope
    acceptedKeyIds := ["key-1"]
    acceptedIdentities := ["collector-1"]
    rawEnvelopeSha256 := some (exampleDigest (.bytes envelope))
    expectedPayloadSha256 := some (exampleDigest (.statement statement))
    trustPolicySha256 := some (exampleDigest (.bytes policy))
    policyId := some "policy"
    admissionTime := some time }

def exampleProfile : Profile :=
  { sha := exampleDigest
    leaseAuthorityFingerprint := 11
    receiptSignerFingerprint := 12
    distinct := by decide
    authorityVerifies := fun _ signature => decide (signature.signature = 1)
    signerVerifies := fun _ signature => decide (signature.signature = 2)
    parseStatement := fun bytes => if bytes = [1] then some exampleStatement else none
    parseTrustPolicy := fun bytes => if bytes = [2] then some "policy" else none
    verifyAttestation := exampleAttestation
    verifySnapshot := fun bytes => if bytes = [3] then some ⟨88, 88⟩ else none
    expectedAudience := "admission"
    expectedCapabilityDigest := 77
    canonicalLength := fun _ => 512
    grantLength := fun _ => 512
    limits := ⟨1024, 1024, 10, 10, 1073741824⟩ }

def exampleAnswers : ServiceAnswers :=
  ⟨200, [2], [3], "custody:1", ⟨"signer", 2⟩⟩

def exampleRunMoves (client calls : Nat) : List (ServiceMove exampleProfile) :=
  List.replicate calls (.run client exampleAnswers)

/-- A lease is registered; two instances then admit its envelope at once: both
reserve and sign before either finalizes, the first dies before custody, and the
second finishes. -/
def twoAdmits : List (ServiceMove exampleProfile) :=
  [.start (registerLeaseCall exampleProfile 0 exampleLease) (.register 0 exampleLease)]
    ++ exampleRunMoves 0 1
    ++ [.start (admitCall exampleProfile 0 [1]) (.admitCall 0 [1]),
      .start (admitCall exampleProfile 1 [1]) (.admitCall 1 [1])]
    ++ exampleRunMoves 1 6 ++ exampleRunMoves 0 6
    ++ exampleRunMoves 1 1 ++ exampleRunMoves 0 1
    ++ [.crash 1]
    ++ exampleRunMoves 0 5

def twoAdmitsEnd : Config SigningWorld (Client exampleProfile) :=
  twoAdmits.foldl (fun c m => play runService m c) ⟨SigningWorld.init, []⟩

/-- The signer was asked for a receipt. -/
def SigningEvent.isReceipt : SigningEvent → Bool
  | .signed (.receipt _) => true
  | _ => false

/-- Both admits had the same body signed. -/
theorem signer_twoAdmits : twoAdmitsEnd.shared.log.countP SigningEvent.isReceipt = 2
    ∧ NeverEquivocates exampleProfile twoAdmitsEnd.shared.log :=
  ⟨by decide +kernel, signer_never_equivocates (play_reachable runService_exec twoAdmits)⟩

end ControlAssurance.Admission
