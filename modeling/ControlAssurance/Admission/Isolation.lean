import ControlAssurance.Admission.Reconciling

/-!
# Reconciliation and the other tenants

`reconcile_pending` stops at the first object that custody refuses. What is
outstanding is taken in a fixed order, the reservations by the digests of their
bodies and then the receipts by their numbers, so the items before that object are
settled and those after it are not even tried: reconciliation isolates the tenants
exactly when custody refuses none but the last ones of that order
(`reconciliation_isolates`).
-/

namespace ControlAssurance.Admission

open Lib

variable {P : Profile} {db db' db'' : Ledger}

/-! ## What is outstanding -/

/-- The reservations as `reconcile_prepared` takes them. -/
def Ledger.reservedInOrder (db : Ledger) : List PreparationRow :=
  db.preparations.insertionSort fun p q => p.receiptBodyDigest ≤ q.receiptBodyDigest

/-- The receipts as `pending` takes them. -/
def Ledger.pendingInOrder (db : Ledger) : List AdmissionRow :=
  (db.admissions.filter fun a => decide (a.custodyState = .pending)).insertionSort
    fun a b => a.receiptSequence ≤ b.receiptSequence

/-- The outstanding items of all tenants. -/
def Ledger.unfinished (db : Ledger) : List Entry :=
  db.reservedInOrder.map (·.entry) ++ db.pendingInOrder.map (·.entry)

theorem mem_reservedInOrder {p : PreparationRow} :
    p ∈ db.reservedInOrder ↔ p ∈ db.preparations := List.mem_insertionSort _

theorem mem_pendingInOrder {a : AdmissionRow} :
    a ∈ db.pendingInOrder ↔ a ∈ db.admissions ∧ a.custodyState = .pending := by
  rw [Ledger.pendingInOrder, List.mem_insertionSort, List.mem_filter, decide_eq_true_iff]

theorem preparedDigests_eq (db : Ledger) (limit : Nat) :
    db.preparedDigests limit = (db.reservedInOrder.map (·.receiptBodyDigest)).take limit := by
  rw [Ledger.preparedDigests, Ledger.reservedInOrder]
  congr 1
  refine (List.map_insertionSort _ _ _ _ fun p _ q _ => ?_).symm
  exact decide_eq_true_iff.symm

/-- An item has its receipt, in the state. -/
def CustodyIs (state : CustodyState) (db : Ledger) (e : Entry) : Prop :=
  ∃ a ∈ db.admissions, a.entry = e ∧ a.tenantId = e.1.tenantId ∧ a.custodyState = state

/-- An item is outstanding. -/
def Open (db : Ledger) (e : Entry) : Prop :=
  (∃ p ∈ db.preparations, p.entry = e ∧ p.tenantId = e.1.tenantId) ∨ CustodyIs .pending db e

theorem LedgerInv.reserved_open (hinv : LedgerInv P db) {p : PreparationRow}
    (hp : p ∈ db.preparations) : Open db p.entry :=
  .inl ⟨p, hp, rfl, (hinv.reserved_columns hp).1⟩

theorem LedgerInv.pending_open (hinv : LedgerInv P db) {a : AdmissionRow}
    (ha : a ∈ db.admissions) (hpending : a.custodyState = .pending) : Open db a.entry :=
  .inr ⟨a, ha, rfl, (hinv.admitted_columns ha).1, hpending⟩

theorem mem_unfinished (hinv : LedgerInv P db) {e : Entry} (he : e ∈ db.unfinished) :
    Open db e := by
  rcases List.mem_append.mp he with he | he
  · obtain ⟨p, hp, rfl⟩ := List.mem_map.mp he
    exact hinv.reserved_open (mem_reservedInOrder.mp hp)
  · obtain ⟨a, ha, rfl⟩ := List.mem_map.mp he
    obtain ⟨ha, hpending⟩ := mem_pendingInOrder.mp ha
    exact hinv.pending_open ha hpending

/-- An outstanding item has no durable custody. -/
theorem open_not_durable (hinv : LedgerInv P db) {e : Entry} (hopen : Open db e) :
    ¬CustodyIs .durable db e := by
  rintro ⟨a, ha, rfl, _, hdurable⟩
  rcases hopen with ⟨p, hp, hentry, _⟩ | ⟨b, hb, hentry, _, hpending⟩
  · refine reserved_place hinv hp ha (.inr (.inl ?_))
    exact (congrArg (fun x : Entry => x.1.leaseDigest) hentry).symm
  · have hlease : b.leaseDigest = a.leaseDigest := by
      rw [(hinv.admitted_columns hb).2.2.1, (hinv.admitted_columns ha).2.2.1]
      exact congrArg (fun x : Entry => x.1.leaseDigest) hentry
    rw [List.inj_on_of_nodup_map hinv.receipts.leases hb ha hlease, hdurable] at hpending
    cases hpending

/-- A tenant has one outstanding item at most. -/
theorem unfinished_tenants (hinv : LedgerInv P db) :
    (db.unfinished.map (·.1.tenantId)).Nodup := by
  have hreserved : (db.reservedInOrder.map (·.tenantId)).Nodup :=
    ((List.perm_insertionSort _ _).map _).nodup_iff.mpr hinv.preparations.tenants
  have hpending : (db.pendingInOrder.map fun a => a.tenantId).Nodup := by
    have hnodup : db.pendingInOrder.Nodup :=
      (List.perm_insertionSort _ _).nodup_iff.mpr
        ((List.Nodup.of_map _ hinv.receipts.digests).filter _)
    refine hnodup.map_on fun a ha b hb htenant => ?_
    obtain ⟨ha, hpa⟩ := mem_pendingInOrder.mp ha
    obtain ⟨hb, hpb⟩ := mem_pendingInOrder.mp hb
    exact pending_unique hinv ha hb hpa hpb htenant
  have hleft : (db.reservedInOrder.map (·.entry)).map (·.1.tenantId)
      = db.reservedInOrder.map (·.tenantId) := by
    rw [List.map_map]
    refine List.map_congr_left fun p hp => ?_
    exact (hinv.reserved_columns (mem_reservedInOrder.mp hp)).1.symm
  have hright : (db.pendingInOrder.map (·.entry)).map (·.1.tenantId)
      = db.pendingInOrder.map fun a => a.tenantId := by
    rw [List.map_map]
    refine List.map_congr_left fun a ha => ?_
    exact (hinv.admitted_columns (mem_pendingInOrder.mp ha).1).1.symm
  rw [Ledger.unfinished, List.map_append, hleft, hright, List.nodup_append]
  refine ⟨hreserved, hpending, fun t ht t' ht' hsame => ?_⟩
  obtain ⟨p, hp, rfl⟩ := List.mem_map.mp ht
  obtain ⟨a, ha, rfl⟩ := List.mem_map.mp ht'
  obtain ⟨ha, hstate⟩ := mem_pendingInOrder.mp ha
  -- a tenant with a reservation has no pending receipt
  have hdurable := (hinv.preparations.next p (mem_reservedInOrder.mp hp)).durable a
    (mem_tenantAdmissions.mpr ⟨ha, hsame.symm⟩)
  rw [hstate] at hdurable
  cases hdurable

/-! ## Working through a list of items -/

/-- The tenants of a list of items. -/
def among (items : List Entry) (t : String) : Bool := decide (t ∈ items.map (·.1.tenantId))

/-- Different tenants, and different objects of custody. -/
structure Separate (items items' : List Entry) : Prop where
  tenants : ∀ e ∈ items, ∀ e' ∈ items', e.1.tenantId ≠ e'.1.tenantId
  objects : ∀ e ∈ items, ∀ e' ∈ items', e.1.custodyObjectId ≠ e'.1.custodyObjectId

/-- What was done with the items, each at most once. -/
structure Once (items : List Entry) (trace : List (Stage × Digest)) : Prop where
  nodup : trace.Nodup
  own : ∀ x ∈ trace, ∃ e ∈ items, x.2 = e.1.custodyObjectId

/-- All items are settled. -/
structure Worked (F : Set Digest) (db db' : Ledger) (items : List Entry)
    (trace : List (Stage × Digest)) : Prop where
  taken : ∀ e ∈ items, e.1.custodyObjectId ∉ F
  admitted : ∀ e ∈ items, ∃ a ∈ db'.admissions, a.entry = e ∧ a.tenantId = e.1.tenantId
  durable : ∀ a ∈ db'.admissions, among items a.tenantId = true → a.custodyState = .durable
  untouched : Untouched (fun t => !among items t) db db'
  once : Once items trace

/-- Custody refused an item; the ones before it are settled. -/
structure Stopped (F : Set Digest) (db db' : Ledger) (items : List Entry)
    (trace : List (Stage × Digest)) : Prop where
  stopped : ∃ done e tail, items = done ++ e :: tail ∧ e.1.custodyObjectId ∈ F
    ∧ (∀ x ∈ done, x.1.custodyObjectId ∉ F ∧ CustodyIs .durable db' x)
    ∧ CustodyIs .pending db' e ∧ Untouched (fun t => !among (done ++ [e]) t) db db'
  once : Once items trace

section

variable {F : Set Digest} {items items' : List Entry} {trace trace' : List (Stage × Digest)}

theorem among_append (t : String) :
    among (items ++ items') t = (among items t || among items' t) := by
  rw [among, List.map_append, among, among, ← Bool.decide_or]
  exact decide_eq_decide.mpr List.mem_append

theorem among_iff {t : String} : among items t = true ↔ ∃ e ∈ items, e.1.tenantId = t := by
  rw [among, decide_eq_true_iff, List.mem_map]

theorem Separate.among (h : Separate items items') {e : Entry} (he : e ∈ items) :
    (!among items' e.1.tenantId) = true := by
  rw [Bool.not_eq_true', ← Bool.not_eq_true, among_iff]
  rintro ⟨e', he', hsame⟩
  exact h.tenants e he e' he' hsame.symm

theorem Once.append (h : Once items trace) (h' : Once items' trace') (hsep : Separate items items') :
    Once (items ++ items') (trace ++ trace') := by
  constructor
  · rw [List.nodup_append]
    refine ⟨h.nodup, h'.nodup, fun x hx y hy hsame => ?_⟩
    obtain ⟨e, he, hxe⟩ := h.own x hx
    obtain ⟨e', he', hye⟩ := h'.own y hy
    exact hsep.objects e he e' he' (by rw [← hxe, ← hye, hsame])
  · intro x hx
    rcases List.mem_append.mp hx with hx | hx
    · obtain ⟨e, he, hxe⟩ := h.own x hx
      exact ⟨e, List.mem_append_left _ he, hxe⟩
    · obtain ⟨e, he, hxe⟩ := h'.own x hx
      exact ⟨e, List.mem_append_right _ he, hxe⟩

theorem worked_nil (F : Set Digest) (db : Ledger) : Worked F db db [] [] where
  taken _ he := nomatch he
  admitted _ he := nomatch he
  durable _ _ hno := nomatch hno
  untouched := untouched_refl _ _
  once := ⟨List.nodup_nil, fun _ hx => nomatch hx⟩

/-- The rows of settled items stay while others are worked on. -/
theorem Worked.append (h : Worked F db db' items trace) (h' : Worked F db' db'' items' trace')
    (hsep : Separate items items') : Worked F db db'' (items ++ items') (trace ++ trace') where
  taken := by
    intro e he
    rcases List.mem_append.mp he with he | he
    · exact h.taken e he
    · exact h'.taken e he
  admitted := by
    intro e he
    rcases List.mem_append.mp he with he | he
    · obtain ⟨a, ha, hentry, htenant⟩ := h.admitted e he
      refine ⟨a, (h'.untouched.mem_admissions ?_).mpr ha, hentry, htenant⟩
      rw [htenant]
      exact hsep.among he
    · exact h'.admitted e he
  durable := by
    intro a ha hmem
    by_cases hlater : among items' a.tenantId = true
    · exact h'.durable a ha hlater
    · rw [Bool.not_eq_true] at hlater
      rw [among_append, hlater, Bool.or_false] at hmem
      refine h.durable a ((h'.untouched.mem_admissions ?_).mp ha) hmem
      rw [hlater]
      rfl
  untouched := by
    refine (h.untouched.mono fun t ht => ?_).trans (h'.untouched.mono fun t ht => ?_)
    · rw [among_append, Bool.not_or, Bool.and_eq_true] at ht
      exact ht.1
    · rw [among_append, Bool.not_or, Bool.and_eq_true] at ht
      exact ht.2
  once := h.once.append h'.once hsep

/-- A settled item has durable custody. -/
theorem Worked.custody (h : Worked F db db' items trace) {e : Entry} (he : e ∈ items) :
    CustodyIs .durable db' e := by
  obtain ⟨a, ha, hentry, htenant⟩ := h.admitted e he
  exact ⟨a, ha, hentry, htenant, h.durable a ha (among_iff.mpr ⟨e, he, htenant.symm⟩)⟩

theorem CustodyIs.untouched {state : CustodyState} {keep : String → Bool} {e : Entry}
    (h : CustodyIs state db e) (huntouched : Untouched keep db db')
    (hkeep : keep e.1.tenantId = true) : CustodyIs state db' e := by
  obtain ⟨a, ha, hentry, htenant, hstate⟩ := h
  refine ⟨a, (huntouched.mem_admissions ?_).mpr ha, hentry, htenant, hstate⟩
  rw [htenant]
  exact hkeep

theorem Open.untouched {keep : String → Bool} {e : Entry} (h : Open db e)
    (huntouched : Untouched keep db db') (hkeep : keep e.1.tenantId = true) : Open db' e := by
  rcases h with ⟨p, hp, hentry, htenant⟩ | hpending
  · refine .inl ⟨p, (huntouched.mem_preparations ?_).mpr hp, hentry, htenant⟩
    rw [htenant]
    exact hkeep
  · exact .inr (hpending.untouched huntouched hkeep)

theorem Worked.refused (h : Worked F db db' items trace) (h' : Stopped F db' db'' items' trace')
    (hsep : Separate items items') : Stopped F db db'' (items ++ items') (trace ++ trace') := by
  obtain ⟨⟨done, e, tail, rfl, hobject, hdone, hpending, huntouched⟩, honce⟩ := h'
  have hdoneSep : Separate items (done ++ [e]) := by
    have hsub : ∀ x ∈ done ++ [e], x ∈ done ++ e :: tail := by
      intro x hx
      rcases List.mem_append.mp hx with hx | hx
      · exact List.mem_append_left _ hx
      · rw [List.mem_singleton.mp hx]
        exact List.mem_append_right _ (List.mem_cons_self ..)
    exact ⟨fun x hx y hy => hsep.tenants x hx y (hsub y hy),
      fun x hx y hy => hsep.objects x hx y (hsub y hy)⟩
  refine ⟨⟨items ++ done, e, tail, (List.append_assoc ..).symm, hobject, fun x hx => ?_, hpending,
    ?_⟩, h.once.append honce hsep⟩
  · rcases List.mem_append.mp hx with hx | hx
    · exact ⟨h.taken x hx, (h.custody hx).untouched huntouched (hdoneSep.among hx)⟩
    · exact hdone x hx
  · refine (h.untouched.mono fun t ht => ?_).trans (huntouched.mono fun t ht => ?_)
    · rw [List.append_assoc, among_append, Bool.not_or, Bool.and_eq_true] at ht
      exact ht.1
    · rw [List.append_assoc, among_append, Bool.not_or, Bool.and_eq_true] at ht
      exact ht.2

theorem elsewhere_of_among {e : Entry} {t : String} (h : (!among [e] t) = true) :
    elsewhere e.1.tenantId t = true := by
  rw [Bool.not_eq_true', ← Bool.not_eq_true, among_iff] at h
  rw [elsewhere, Bool.not_eq_true', decide_eq_false_iff_not]
  exact fun hsame => h ⟨e, List.mem_singleton_self _, hsame.symm⟩

/-- One item that custody took. -/
theorem worked_one {e : Entry} (hobject : e.1.custodyObjectId ∉ F)
    (hadmitted : ∃ a ∈ db'.admissions, a.entry = e ∧ a.tenantId = e.1.tenantId)
    (hdurable : ∀ a ∈ db'.admissions, a.tenantId = e.1.tenantId → a.custodyState = .durable)
    (huntouched : Untouched (elsewhere e.1.tenantId) db db') (hnodup : trace.Nodup)
    (hown : ∀ x ∈ trace, x.2 = e.1.custodyObjectId) : Worked F db db' [e] trace where
  taken x hx := List.mem_singleton.mp hx ▸ hobject
  admitted x hx := List.mem_singleton.mp hx ▸ hadmitted
  durable := by
    intro a ha hmem
    obtain ⟨x, hx, htenant⟩ := among_iff.mp hmem
    rw [List.mem_singleton.mp hx] at htenant
    exact hdurable a ha htenant.symm
  untouched := huntouched.mono fun _ => elsewhere_of_among
  once := ⟨hnodup, fun x hx => ⟨e, List.mem_singleton_self _, hown x hx⟩⟩

/-- One item that custody refused. -/
theorem stopped_one {e : Entry} {tail : List Entry} (hobject : e.1.custodyObjectId ∈ F)
    (hpending : CustodyIs .pending db' e)
    (huntouched : Untouched (elsewhere e.1.tenantId) db db') (hnodup : trace.Nodup)
    (hown : ∀ x ∈ trace, x.2 = e.1.custodyObjectId) : Stopped F db db' (e :: tail) trace where
  stopped := ⟨[], e, tail, rfl, hobject, fun _ hx => (nomatch hx), hpending,
    huntouched.mono fun _ => elsewhere_of_among⟩
  once := ⟨hnodup, fun x hx => ⟨e, List.mem_cons_self .., hown x hx⟩⟩

end

/-- Two items of different tenants, with different objects. -/
def Apart (e e' : Entry) : Prop :=
  e.1.tenantId ≠ e'.1.tenantId ∧ e.1.custodyObjectId ≠ e'.1.custodyObjectId

theorem separate_one {e : Entry} {items : List Entry} (h : ∀ e' ∈ items, Apart e e') :
    Separate [e] items :=
  ⟨fun _ hx e' he' => List.mem_singleton.mp hx ▸ (h e' he').1,
    fun _ hx e' he' => List.mem_singleton.mp hx ▸ (h e' he').2⟩

/-! ## The loops -/

section

variable {docs : Set Document} {signer : SigningBody → DetachedSignature} {F : Set Digest}
variable {service : Nat} {s' : SigningWorld} {r : Except AdmissionError ServiceResult}
variable (hsigner : ∀ body, P.signerVerifies body (signer body) = true)
include hsigner

/-- The second loop of `reconcile_pending`. By induction on the receipts that are left: the first is
settled, and the rows of the others are still there. -/
theorem establishAll_plays : ∀ (rows : List AdmissionRow) (completed : Nat) {s : SigningWorld}
    {made : List (Made SigningWorld (ServiceCall P) fun c => Except AdmissionError c.Answer)},
    Ready P docs signer s →
    (∀ a ∈ rows, a ∈ s.world.ledger.admissions ∧ a.custodyState = .pending) →
    (rows.map (·.entry)).Pairwise Apart →
    Plays (custodyExec F signer) (Measured P)
      (establishAll P service (rows.map fun a => a.stored a.receipt none) completed) s made r s' →
    (r = .ok (.reconciled (completed + rows.length))
        ∧ Worked F s.world.ledger s'.world.ledger (rows.map (·.entry)) (processed made))
      ∨ ((∃ e, r = .error e)
        ∧ Stopped F s.world.ledger s'.world.ledger (rows.map (·.entry)) (processed made))
  | [], completed, s, made, _, _, _, h => by
    obtain ⟨rfl, rfl, rfl⟩ := plays_ret h
    exact .inl ⟨rfl, worked_nil _ _⟩
  | a :: rows, completed, s, made, hs, hrows, hapart, h => by
    obtain ⟨ha, hpending⟩ := hrows a (List.mem_cons_self ..)
    have htenant : a.tenantId = a.entry.1.tenantId := (hs.world.ledger.admitted_columns ha).1
    have hstored : StoredOf a (a.stored a.receipt none) := ⟨rfl, rfl, fun _ hno => (nomatch hno)⟩
    rw [List.map_cons, List.pairwise_cons] at hapart
    rcases establishCustody_plays hsigner hs ha hpending hstored h with
      ⟨hobject, rfl, hsame, htrace⟩ | ⟨hobject, ack, s₁, rest, htrace, hs₁, hsettled, h⟩
    · refine .inr ⟨⟨_, rfl⟩, ?_⟩
      rw [List.map_cons, htrace, hsame]
      exact stopped_one hobject ⟨a, ha, rfl, htenant, hpending⟩ (untouched_refl _ _)
        (List.nodup_singleton _) fun x hx => by rw [List.mem_singleton.mp hx]; rfl
    · have huntouched := hsettled.untouched
      rw [htenant] at huntouched
      have hworked : Worked F s.world.ledger s₁.world.ledger [a.entry]
          [(.persisted, a.receipt.body.custodyObjectId),
            (.acknowledged, a.receipt.body.custodyObjectId)] := by
        refine worked_one hobject ?_ (fun x hx hsame => ?_) huntouched (by simp) fun x hx => ?_
        · obtain ⟨a', ha', hentry, htenant'⟩ := hsettled.admitted
          exact ⟨a', ha', hentry, htenant'.trans htenant⟩
        · exact hsettled.durable x hx (hsame.trans htenant.symm)
        · rcases List.mem_cons.mp hx with rfl | hx
          · rfl
          · rw [List.mem_singleton.mp hx]
            rfl
      have hleft : ∀ b ∈ rows, b ∈ s₁.world.ledger.admissions ∧ b.custodyState = .pending := by
        intro b hb
        obtain ⟨hmem, hstate⟩ := hrows b (List.mem_cons_of_mem _ hb)
        refine ⟨(huntouched.mem_admissions ?_).mpr hmem, hstate⟩
        rw [elsewhere, Bool.not_eq_true', decide_eq_false_iff_not,
          (hs.world.ledger.admitted_columns hmem).1]
        exact (hapart.1 b.entry (List.mem_map_of_mem hb)).1.symm
      have hsep := separate_one hapart.1
      have hitems : (a :: rows).map (·.entry) = [a.entry] ++ rows.map (·.entry) := rfl
      rw [hitems, htrace]
      rcases establishAll_plays rows (completed + 1) hs₁ hleft hapart.2 h with
        ⟨rfl, hrest⟩ | ⟨herror, hrest⟩
      · refine .inl ⟨?_, hworked.append hrest hsep⟩
        rw [List.length_cons, Nat.add_assoc, Nat.add_comm 1]
      · exact .inr ⟨herror, hworked.refused hrest hsep⟩

omit hsigner in
/-- A reservation is found by the digest of its body. -/
theorem readPreparation_ok (hinv : LedgerInv P db) (hdocs : Distinguishes P docs signer db)
    {p : PreparationRow} (hp : p ∈ db.preparations) :
    readPreparation P db p.receiptBodyDigest = .ok (some (p.prepared P)) := by
  have hfound : db.preparations.find? (fun q => decide (q.receiptBodyDigest = p.receiptBodyDigest))
      = some p := by
    have hsome : (db.preparations.find? fun q =>
        decide (q.receiptBodyDigest = p.receiptBodyDigest)).isSome = true :=
      List.find?_isSome.mpr ⟨p, hp, decide_eq_true rfl⟩
    obtain ⟨q, hq⟩ := Option.isSome_iff_exists.mp hsome
    have hmem := List.mem_of_find?_eq_some hq
    have hdigest : q.receiptBodyDigest = p.receiptBodyDigest := by simpa using List.find?_some hq
    have hcolumn : ∀ x ∈ db.preparations, x.receiptBodyDigest = P.sha (.receiptBody x.receiptBody) :=
      fun x hx => congrArg PreparationColumns.receiptBodyDigest (hinv.preparations.sound x hx).columns
    have hknown : ∀ x ∈ db.preparations, Document.receiptBody x.receiptBody ∈ docs :=
      fun x hx => hdocs.bodies x.entry (mem_entries.mpr (.inr ⟨x, hx, rfl⟩))
    rw [hcolumn q hmem, hcolumn p hp] at hdigest
    have hbody := Document.receiptBody.inj (hdocs.injective (hknown q hmem) (hknown p hp) hdigest)
    have hsame : q = p := by
      refine List.inj_on_of_nodup_map hinv.preparations.tenants hmem hp ?_
      rw [(hinv.reserved_columns hmem).1, (hinv.reserved_columns hp).1, hbody]
    rw [hq, hsame]
  rw [readPreparation, hfound]
  dsimp only
  rw [preparedAdmissionFromRow_ok hinv.leases hinv.preparations hinv.policies hp, ok_bind]
  rfl

/-- The first loop, up to the point where it hands over to the second. By induction on the
reservations that are left. -/
theorem reconcilePrepared_plays {limit : Nat} : ∀ (rows : List PreparationRow) (completed : Nat)
    {s : SigningWorld}
    {made : List (Made SigningWorld (ServiceCall P) fun c => Except AdmissionError c.Answer)},
    Ready P docs signer s → (∀ p ∈ rows, p ∈ s.world.ledger.preparations) →
    (rows.map (·.entry)).Pairwise Apart →
    Plays (custodyExec F signer) (Measured P) (reconcilePrepared P service limit
      (rows.map (·.receiptBodyDigest)) completed) s made r s' →
    (∃ s₁ trace rest, processed made = trace ++ processed rest ∧ Ready P docs signer s₁
        ∧ Worked F s.world.ledger s₁.world.ledger (rows.map (·.entry)) trace
        ∧ Plays (custodyExec F signer) (Measured P)
          (reconcileRest P service limit (completed + rows.length)) s₁ rest r s')
      ∨ ((∃ e, r = .error e)
        ∧ Stopped F s.world.ledger s'.world.ledger (rows.map (·.entry)) (processed made))
  | [], completed, s, made, hs, _, _, h =>
    .inl ⟨s, [], made, rfl, hs, worked_nil _ _, h⟩
  | p :: rows, completed, s, made, hs, hrows, hapart, h => by
    have hledger := hs.world.ledger
    have hp := hrows p (List.mem_cons_self ..)
    have htenant : p.tenantId = p.entry.1.tenantId := (hledger.reserved_columns hp).1
    rw [List.map_cons, List.pairwise_cons] at hapart
    obtain ⟨answer, s₀, rest₀, htrace₀, hworld₀, ⟨rfl, hsame⟩, h⟩ := ledger_plays
      (.preparation p.receiptBodyDigest)
      (Q := fun answer db' => answer = some (p.prepared P) ∧ db' = s.world.ledger) hs.world
      (fun _ heads _ => ⟨_, _, congrArg (Except.map _)
        (readPreparation_ok hledger hs.documents hp), rfl, rfl⟩) h
    rw [← hsame] at hp hledger
    have hs₀ : Ready P docs signer s₀ := ⟨hworld₀, hsame ▸ hs.documents⟩
    obtain ⟨s₁, rest₁, htrace₁, hs₁, hfinal, h⟩ := completePreparedAdmission_plays hsigner hs₀ hp h
    -- the receipt that the reservation became
    obtain ⟨a, ha, hentry, hpending, hobject, hatenant, hstored⟩ :
        ∃ a ∈ s₁.world.ledger.admissions, a.entry = p.entry ∧ a.custodyState = .pending
          ∧ a.receipt.body.custodyObjectId = p.receiptBody.custodyObjectId
          ∧ a.tenantId = p.tenantId ∧ StoredOf a (p.admitted signer) := by
      refine ⟨(p.signedReceipt signer).row P p.evidence, ?_, rfl, rfl, rfl, htenant.symm,
        ⟨rfl, rfl, fun _ hno => (nomatch hno)⟩⟩
      rw [hfinal.result]
      exact List.mem_append_right _ (List.mem_singleton_self _)
    have hfinalUntouched := hfinal.untouched hledger
    rw [hsame] at hfinalUntouched
    have hitems : (p :: rows).map (·.entry) = [p.entry] ++ rows.map (·.entry) := rfl
    have hsep := separate_one hapart.1
    rcases establishCustody_plays hsigner hs₁ ha hpending hstored h with
      ⟨hrefused, rfl, hstopped, htrace₂⟩ | ⟨htaken, ack, s₂, rest₂, htrace₂, hs₂, hsettled, h⟩
    · refine .inr ⟨⟨_, rfl⟩, ?_⟩
      rw [hobject] at hrefused
      rw [htrace₀, htrace₁, htrace₂, List.map_cons, hobject, hstopped]
      refine stopped_one hrefused ⟨a, ha, hentry, hatenant.trans htenant, hpending⟩ ?_ (by simp)
        fun x hx => ?_
      · rw [← htenant]
        exact hfinalUntouched
      · rcases List.mem_cons.mp hx with rfl | hx
        · rfl
        · rw [List.mem_singleton.mp hx]
          rfl
    · have huntouched := hfinalUntouched.trans (hatenant ▸ hsettled.untouched)
      rw [htenant] at huntouched
      rw [hobject] at htaken htrace₂
      have hworked : Worked F s.world.ledger s₂.world.ledger [p.entry]
          [(.signed, p.receiptBody.custodyObjectId), (.persisted, p.receiptBody.custodyObjectId),
            (.acknowledged, p.receiptBody.custodyObjectId)] := by
        refine worked_one htaken ?_ (fun x hx hsame => ?_) huntouched (by simp) fun x hx => ?_
        · obtain ⟨a', ha', hentry', htenant'⟩ := hsettled.admitted
          exact ⟨a', ha', hentry'.trans hentry, htenant'.trans (hatenant.trans htenant)⟩
        · exact hsettled.durable x hx (hsame.trans (hatenant.trans htenant).symm)
        · rcases List.mem_cons.mp hx with rfl | hx
          · rfl
          rcases List.mem_cons.mp hx with rfl | hx
          · rfl
          · rw [List.mem_singleton.mp hx]
            rfl
      have hleft : ∀ q ∈ rows, q ∈ s₂.world.ledger.preparations := by
        intro q hq
        have hmem := hrows q (List.mem_cons_of_mem _ hq)
        refine (huntouched.mem_preparations ?_).mpr hmem
        rw [elsewhere, Bool.not_eq_true', decide_eq_false_iff_not,
          (hs.world.ledger.reserved_columns hmem).1]
        exact (hapart.1 q.entry (List.mem_map_of_mem hq)).1.symm
      rcases reconcilePrepared_plays rows (completed + 1) hs₂ hleft hapart.2 h with
        ⟨s₃, trace, rest, htrace₃, hs₃, hrest, h⟩ | ⟨herror, hrest⟩
      · refine .inl ⟨s₃, _ ++ trace, rest, ?_, hs₃, hitems ▸ hworked.append hrest hsep, ?_⟩
        · rw [htrace₀, htrace₁, htrace₂, htrace₃]
          rfl
        · rw [List.length_cons, Nat.add_comm rows.length, ← Nat.add_assoc]
          exact h
      · refine .inr ⟨herror, ?_⟩
        rw [htrace₀, htrace₁, htrace₂, hitems]
        exact hworked.refused hrest hsep

omit hsigner in
/-- With room for all of them, every pending receipt is listed. -/
theorem pendingReceipts_ok {heads : List TenantHead} (hinv : LedgerInv P db)
    (hheads : CurrentHeads db heads) {limit : Nat} (hlimit : db.pendingInOrder.length ≤ limit) :
    pendingReceipts P heads db limit
      = .ok (db.pendingInOrder.map fun a => a.stored a.receipt none) := by
  have hrows : ∀ a ∈ db.pendingInOrder, ∃ stored, pendingRow P heads db a = .ok stored
      ∧ stored = a.stored a.receipt none := by
    intro a ha
    obtain ⟨ha, _⟩ := mem_pendingInOrder.mp ha
    refine ⟨_, ?_, rfl⟩
    rw [pendingRow, verifyReceiptRow_ok hinv.leases hinv.receipts hinv.policies ha, ok_bind,
      verifyReceiptChainNeighborhood_ok hinv hheads ha]
    rfl
  obtain ⟨answers, hok, hall⟩ := mapM_ok hrows
  have hsame : answers = db.pendingInOrder.map fun a => a.stored a.receipt none := by
    clear hok
    generalize db.pendingInOrder = rows at hall ⊢
    induction hall with
    | nil => rfl
    | cons h _ ih => rw [List.map_cons, h, ih]
  rw [pendingReceipts]
  show (db.pendingInOrder.take limit).mapM (pendingRow P heads db) = _
  rw [List.take_of_length_le hlimit, hok, hsame]

omit hsigner in
/-- The first loop leaves what the second one is to do as it was. -/
theorem pendingInOrder_worked (hinv : LedgerInv P db) {trace : List (Stage × Digest)}
    (h : Worked F db db' (db.reservedInOrder.map (·.entry)) trace) :
    db'.pendingInOrder = db.pendingInOrder := by
  have hkept : ∀ rows : List AdmissionRow, (∀ a ∈ rows, a.custodyState = .pending →
      among (db.reservedInOrder.map (·.entry)) a.tenantId = false) →
      rows.filter (fun a => decide (a.custodyState = .pending))
        = (rows.filter fun a => !among (db.reservedInOrder.map (·.entry)) a.tenantId).filter
          fun a => decide (a.custodyState = .pending) := by
    intro rows hrows
    rw [List.filter_filter]
    refine List.filter_congr fun a ha => ?_
    cases hstate : a.custodyState with
    | pending =>
      rw [hrows a ha hstate]
      rfl
    | durable => rfl
  have hbefore : ∀ a ∈ db.admissions, a.custodyState = .pending →
      among (db.reservedInOrder.map (·.entry)) a.tenantId = false := by
    intro a ha hpending
    rw [← Bool.not_eq_true, among_iff]
    rintro ⟨e, he, htenant⟩
    obtain ⟨p, hp, rfl⟩ := List.mem_map.mp he
    have hp := mem_reservedInOrder.mp hp
    have hdurable := (hinv.preparations.next p hp).durable a (mem_tenantAdmissions.mpr
      ⟨ha, htenant.symm.trans (hinv.reserved_columns hp).1.symm⟩)
    rw [hpending] at hdurable
    cases hdurable
  have hafter : ∀ a ∈ db'.admissions, a.custodyState = .pending →
      among (db.reservedInOrder.map (·.entry)) a.tenantId = false := by
    intro a ha hpending
    cases hmem : among (db.reservedInOrder.map (·.entry)) a.tenantId with
    | false => rfl
    | true =>
      rw [h.durable a ha hmem] at hpending
      cases hpending
  rw [Ledger.pendingInOrder, Ledger.pendingInOrder, hkept db'.admissions hafter,
    hkept db.admissions hbefore, h.untouched.admissions]

omit hsigner in
/-- The items are of different tenants and have different objects. -/
theorem unfinished_apart (hinv : LedgerInv P db) (hdocs : Distinguishes P docs signer db) :
    db.unfinished.Pairwise Apart := by
  have hentries : ∀ e ∈ db.unfinished, e ∈ db.entries := by
    intro e he
    rcases mem_unfinished hinv he with ⟨p, hp, hentry, _⟩ | ⟨a, ha, hentry, _⟩
    · exact mem_entries.mpr (.inr ⟨p, hp, hentry⟩)
    · exact mem_entries.mpr (.inl ⟨a, ha, hentry⟩)
  have hdocument : ∀ e ∈ db.entries, e.1.custodyDocument ∈ docs
      ∧ e.1.custodyObjectId = P.sha e.1.custodyDocument := by
    intro e he
    obtain ⟨_, _, _, hev, _⟩ := hinv.entry he
    exact ⟨(known_iff.mp hdocs.known).1 e he _ (by simp [entryDocuments]), hev.custodyObject⟩
  refine (List.pairwise_map.mp (unfinished_tenants hinv)).imp_of_mem fun he he' htenant => ?_
  obtain ⟨hdoc, hobject⟩ := hdocument _ (hentries _ he)
  obtain ⟨hdoc', hobject'⟩ := hdocument _ (hentries _ he')
  refine ⟨htenant, fun hsame => htenant ?_⟩
  rw [hobject, hobject'] at hsame
  exact (Document.custodyObject.inj (hdocs.injective hdoc hdoc' hsame)).1

/-- A whole run: all items are settled, or custody refused one of them. -/
theorem reconcilePending_plays {limit : Nat} (hlimit : 1 ≤ limit ∧ limit ≤ 1000) {s : SigningWorld}
    {made : List (Made SigningWorld (ServiceCall P) fun c => Except AdmissionError c.Answer)}
    (hs : Ready P docs signer s) (hcount : s.world.ledger.unfinished.length ≤ limit)
    (h : Plays (custodyExec F signer) (Measured P) (reconcilePending P service limit) s made r s') :
    (r = .ok (.reconciled s.world.ledger.unfinished.length)
        ∧ Worked F s.world.ledger s'.world.ledger s.world.ledger.unfinished (processed made))
      ∨ ((∃ e, r = .error e)
        ∧ Stopped F s.world.ledger s'.world.ledger s.world.ledger.unfinished (processed made)) := by
  have hledger := hs.world.ledger
  have hlength : s.world.ledger.reservedInOrder.length + s.world.ledger.pendingInOrder.length
      = s.world.ledger.unfinished.length := by
    rw [Ledger.unfinished, List.length_append, List.length_map, List.length_map]
  have hapart := unfinished_apart hledger hs.documents
  rw [Ledger.unfinished, List.pairwise_append] at hapart
  obtain ⟨hreserved, hpending, hcross⟩ := hapart
  have hsep : Separate (s.world.ledger.reservedInOrder.map (·.entry))
      (s.world.ledger.pendingInOrder.map (·.entry)) :=
    ⟨fun e he e' he' => (hcross e he e' he').1, fun e he e' he' => (hcross e he e' he').2⟩
  have h := plays_passed (a := ()) (require_pos hlimit) h
  obtain ⟨digests, s₀, rest₀, htrace₀, hworld₀, ⟨rfl, hsame⟩, h⟩ := ledger_plays (.preparations limit)
    (Q := fun digests db' => digests = s.world.ledger.reservedInOrder.map (·.receiptBodyDigest)
      ∧ db' = s.world.ledger) hs.world (fun _ heads _ => by
        refine ⟨_, _, rfl, ?_, rfl⟩
        rw [preparedDigests_eq, List.take_of_length_le]
        rw [List.length_map]
        omega) h
  have hs₀ : Ready P docs signer s₀ := ⟨hworld₀, hsame ▸ hs.documents⟩
  have hrows : ∀ p ∈ s.world.ledger.reservedInOrder, p ∈ s₀.world.ledger.preparations := by
    intro p hp
    rw [hsame]
    exact mem_reservedInOrder.mp hp
  rw [htrace₀, Ledger.unfinished]
  rcases reconcilePrepared_plays hsigner s.world.ledger.reservedInOrder 0 hs₀ hrows hreserved h with
    ⟨s₁, trace, rest, htrace, hs₁, hworked, h⟩ | ⟨herror, hstopped⟩
  · rw [hsame] at hworked
    have hsamePending := pendingInOrder_worked hledger hworked
    rw [Nat.zero_add] at h
    rw [htrace]
    rw [reconcileRest] at h
    split at h
    · -- no room is left, and nothing is left to do
      obtain ⟨rfl, rfl, rfl⟩ := plays_ret h
      have hnil : s.world.ledger.pendingInOrder = [] :=
        List.eq_nil_of_length_eq_zero (by omega)
      rw [hnil, List.map_nil, List.append_nil]
      refine .inl ⟨?_, ?_⟩
      · rw [List.length_map]
      · show Worked F _ _ _ (trace ++ [])
        rw [List.append_nil]
        exact hworked
    · obtain ⟨pending, s₂, rest₂, htrace₂, hworld₂, ⟨rfl, hsame₂⟩, h⟩ := ledger_plays
        (.pending (limit - s.world.ledger.reservedInOrder.length))
        (Q := fun pending db' => pending = s.world.ledger.pendingInOrder.map
            (fun a => a.stored a.receipt none) ∧ db' = s₁.world.ledger) hs₁.world
        (fun _ heads hheads => by
          refine ⟨_, _, congrArg (Except.map _)
            (pendingReceipts_ok hs₁.world.ledger hheads ?_), ?_, rfl⟩
          · rw [hsamePending]
            omega
          · rw [hsamePending]) h
      have hs₂ : Ready P docs signer s₂ := ⟨hworld₂, hsame₂ ▸ hs₁.documents⟩
      have hleft : ∀ a ∈ s.world.ledger.pendingInOrder, a ∈ s₂.world.ledger.admissions
          ∧ a.custodyState = .pending := by
        intro a ha
        rw [← hsamePending] at ha
        rw [hsame₂]
        exact mem_pendingInOrder.mp ha
      rw [htrace₂]
      rcases establishAll_plays hsigner s.world.ledger.pendingInOrder _ hs₂ hleft hpending h with
        ⟨rfl, hrest⟩ | ⟨herror, hrest⟩
      · rw [hsame₂] at hrest
        refine .inl ⟨?_, hworked.append hrest hsep⟩
        rw [List.length_append, List.length_map, List.length_map]
      · rw [hsame₂] at hrest
        exact .inr ⟨herror, hworked.refused hrest hsep⟩
  · rw [hsame] at hstopped
    obtain ⟨⟨done, e, tail, hitems, hobject, hdone, hpendingItem, huntouched⟩, honce⟩ := hstopped
    refine .inr ⟨herror, ⟨done, e, tail ++ s.world.ledger.pendingInOrder.map (·.entry), ?_, hobject,
      hdone, hpendingItem, huntouched⟩, honce.nodup, fun x hx => ?_⟩
    · rw [hitems, List.append_assoc]
      rfl
    · obtain ⟨y, hy, hown⟩ := honce.own x hx
      exact ⟨y, List.mem_append_left _ hy, hown⟩

end

/-! ## Isolation -/

/-- Each item that custody takes is settled, none is worked on twice, and if custody takes all of
them their number is the answer. -/
structure Isolates (F : Set Digest) (db db' : Ledger)
    (made : List (Made SigningWorld (ServiceCall P) fun c => Except AdmissionError c.Answer))
    (r : Except AdmissionError ServiceResult) : Prop where
  durable : ∀ e ∈ db.unfinished, e.1.custodyObjectId ∉ F → CustodyIs .durable db' e
  once : (processed made).Nodup
  all : F = ∅ → r = .ok (.reconciled db.unfinished.length)

/-- Only the last items of the order are refused. -/
def RefusesLast (F : Set Digest) (db : Ledger) : Prop :=
  db.unfinished.Pairwise fun e e' => e.1.custodyObjectId ∈ F → e'.1.custodyObjectId ∈ F

theorem isolates_iff {docs : Set Document} {signer : SigningBody → DetachedSignature}
    {F : Set Digest} {service limit : Nat} {s s' : SigningWorld}
    {r : Except AdmissionError ServiceResult}
    {made : List (Made SigningWorld (ServiceCall P) fun c => Except AdmissionError c.Answer)}
    (hsigner : ∀ body, P.signerVerifies body (signer body) = true) (hs : Ready P docs signer s)
    (hlimit : 1 ≤ limit ∧ limit ≤ 1000) (hcount : s.world.ledger.unfinished.length ≤ limit)
    (h : Plays (custodyExec F signer) (Measured P) (reconcilePending P service limit) s made r s') :
    Isolates F s.world.ledger s'.world.ledger made r ↔ RefusesLast F s.world.ledger := by
  rcases reconcilePending_plays hsigner hlimit hs hcount h with
    ⟨rfl, hworked⟩ | ⟨⟨error, rfl⟩, ⟨done, e, tail, hitems, hobject, hdone, _, huntouched⟩, honce⟩
  · refine ⟨fun _ => ?_, fun _ => ⟨fun e he _ => hworked.custody he, hworked.once.nodup,
      fun _ => rfl⟩⟩
    exact List.Pairwise.imp_of_mem (fun he _ _ hmem => absurd hmem (hworked.taken _ he))
      (List.pairwise_of_forall (R := fun _ _ => True) fun _ _ => trivial)
  · have hworld : WorldInv P s'.world := h.keeps
      (by rintro _ _ hinv ⟨file, _, rfl⟩; exact ⟨hinv.ledger, hinv.validated⟩)
      (fun _ _ _ _ hinv hexec => serviceExec_world hinv (custodyExec_exec hexec))
      hs.world.toWorldInv
    have hpairs : RefusesLast F s.world.ledger ↔ ∀ x ∈ tail, x.1.custodyObjectId ∈ F := by
      rw [RefusesLast, hitems, List.pairwise_append, List.pairwise_cons]
      constructor
      · exact fun hpairs x hx => hpairs.2.1.1 x hx hobject
      · intro htail
        refine ⟨List.Pairwise.imp_of_mem (fun hx _ _ hmem => absurd hmem (hdone _ hx).1)
          (List.pairwise_of_forall (R := fun _ _ => True) fun _ _ => trivial),
          ⟨fun x hx _ => htail x hx, List.Pairwise.imp_of_mem (fun _ hy _ _ => htail _ hy)
            (List.pairwise_of_forall (R := fun _ _ => True) fun _ _ => trivial)⟩,
          fun x hx _ _ hmem => absurd hmem (hdone x hx).1⟩
    rw [hpairs]
    constructor
    · -- an item after the refused one is still outstanding
      intro hisolates x hx
      by_contra hnot
      have hmem : x ∈ s.world.ledger.unfinished := by
        rw [hitems]
        exact List.mem_append_right _ (List.mem_cons_of_mem _ hx)
      have htenants := unfinished_tenants hs.world.ledger
      rw [hitems, List.append_cons, List.map_append, List.nodup_append] at htenants
      have hkeep : (!among (done ++ [e]) x.1.tenantId) = true := by
        rw [Bool.not_eq_true', ← Bool.not_eq_true, among_iff]
        rintro ⟨y, hy, hsame⟩
        exact htenants.2.2 _ (List.mem_map_of_mem hy) _ (List.mem_map_of_mem hx) hsame
      have hopen := (mem_unfinished hs.world.ledger hmem).untouched huntouched hkeep
      exact open_not_durable hworld.ledger hopen (hisolates.durable x hmem hnot)
    · intro htail
      refine ⟨fun x hx hnot => ?_, honce.nodup, fun hempty => ?_⟩
      · rw [hitems] at hx
        rcases List.mem_append.mp hx with hx | hx
        · exact (hdone x hx).2
        · rcases List.mem_cons.mp hx with rfl | hx
          · exact absurd hobject hnot
          · exact absurd (htail x hx) hnot
      · rw [hempty] at hobject
        exact absurd hobject (Set.notMem_empty _)

/-- **Reconciliation isolates the tenants whose items come before the refused ones.** After any
events, with a custody that refuses the objects of `F`, a signer that signs and a database file that
has room for what is written, a call with room for all outstanding items ends, and it settles every
item that custody takes exactly when custody refuses only the last ones of the order. -/
theorem reconciliation_isolates {events : List (LedgerEvent P)} {s : SigningWorld}
    (hs : s.world = worldAfter P events) (hroom : s.world.file.hasRoom P) {docs : Set Document}
    {signer : SigningBody → DetachedSignature}
    (hsigner : ∀ body, P.signerVerifies body (signer body) = true)
    (hdocs : Distinguishes P docs signer s.world.ledger) (service : Nat) {limit : Nat}
    (hlimit : 1 ≤ limit ∧ limit ≤ 1000) (hcount : s.world.ledger.unfinished.length ≤ limit)
    (F : Set Digest) :
    (∃ made r s', Plays (custodyExec F signer) (Measured P) (reconcilePending P service limit) s made r s')
    ∧ ∀ made r s', Plays (custodyExec F signer) (Measured P) (reconcilePending P service limit) s made r s' →
      (Isolates F s.world.ledger s'.world.ledger made r ↔ RefusesLast F s.world.ledger) := by
  have hready : Ready P docs signer s :=
    ⟨{ toWorldInv := hs ▸ worldAfter_inv events, room := hroom }, hdocs⟩
  exact ⟨plays_exists custodyExec_total measured_refl _ s,
    fun made r s' h => isolates_iff hsigner hready hlimit hcount h⟩

/-! Two tenants, each with a receipt that awaits its signature. -/

/-- What tells the documents of the two tenants apart. -/
def Document.owner : Document → Nat
  | .lease l => l.tenantId.length
  | .statement s => s.tenantId.length
  | .custodyObject tenantId .. => tenantId.length
  | .request r => r.envelopeDigest.toNat
  | .receiptBody b => b.tenantId.length
  | .receipt r => r.body.tenantId.length
  | .acknowledgementBody b => b.receiptDigest.toNat
  | _ => 0

def ownedDigest (d : Document) : Digest := exampleDigest d + BitVec.ofNat 256 (65536 * d.owner)

def otherLease : SignedJobLease :=
  { exampleLease with
    lease := { exampleLease.lease with tenantId := "other-tenant", jobNonce := 10 } }

/-- The statement of a lease. -/
def statementOf (grant : SignedJobLease) : CollectionStatement :=
  { toLeaseTerms := grant.lease.toLeaseTerms
    leaseDigest := ownedDigest (.lease grant.lease)
    collectedAt := 150 }

/-- The service of two tenants: envelope `[1]` is of the one, `[5]` of the other. -/
def tenantsProfile : Profile :=
  { exampleProfile with
    sha := ownedDigest
    parseStatement := fun bytes =>
      if bytes = [1] then some (statementOf exampleLease)
      else if bytes = [5] then some (statementOf otherLease) else none
    verifyAttestation := fun envelope policy statement time =>
      { exampleAttestation [1] policy statement time with
        rawEnvelopeSha256 := some (ownedDigest (.bytes envelope))
        expectedPayloadSha256 := some (ownedDigest (.statement statement)) } }

def tenantInputs : AdmissionInputs tenantsProfile where
  statement := statementOf exampleLease
  envelopeBytes := [1]
  policyBytes := [2]
  snapshotBytes := [3]
  custodyReference := "custody:1"
  bounded := by decide
  parsed := by decide
  configured := by decide
  policy := by decide
  policyDigest := by decide
  snapshot := by decide

def otherInputs : AdmissionInputs tenantsProfile where
  statement := statementOf otherLease
  envelopeBytes := [5]
  policyBytes := [2]
  snapshotBytes := [3]
  custodyReference := "custody:2"
  bounded := by decide
  parsed := by decide
  configured := by decide
  policy := by decide
  policyDigest := by decide
  snapshot := by decide

/-- Both leases are registered and both receipts reserved. -/
def twoReserved : List (LedgerEvent tenantsProfile) :=
  [.called 0 (.register exampleLease), .called 0 (.register otherLease),
    .called 0 (.prepare tenantInputs none 200), .called 0 (.prepare otherInputs none 200)]

def reservedWorld : SigningWorld := ⟨worldAfter tenantsProfile twoReserved, []⟩

theorem reservedWorld_world :
    reservedWorld.world = worldAfter tenantsProfile twoReserved := by
  rw [reservedWorld]

def tenantsSigner (_ : SigningBody) : DetachedSignature := ⟨"signer", 2⟩

def tenantsDocuments : List Document :=
  reservedWorld.world.ledger.documents tenantsProfile
    ++ reservedWorld.world.ledger.entries.flatMap fun e =>
      [.receiptBody e.1, .receipt ⟨e.1, ⟨"signer", 2⟩⟩,
        .acknowledgementBody (acknowledgementBody tenantsProfile ⟨e.1, ⟨"signer", 2⟩⟩
          e.1.custodyReference)]

theorem tenants_distinguished :
    Distinguishes tenantsProfile {d | d ∈ tenantsDocuments} tenantsSigner
      reservedWorld.world.ledger := by
  have hinjective : ∀ d ∈ tenantsDocuments, ∀ d' ∈ tenantsDocuments,
      ownedDigest d = ownedDigest d' → d = d' := by
    decide +kernel
  have hreceipts : ∀ d ∈ tenantsDocuments, ∀ r ∈ d.ofReceipt, Document.acknowledgementBody
      (acknowledgementBody tenantsProfile r r.body.custodyReference) ∈ tenantsDocuments := by
    decide +kernel
  have hmade : ∀ e ∈ reservedWorld.world.ledger.entries, ∀ d ∈ [Document.receiptBody e.1,
      .receipt ⟨e.1, ⟨"signer", 2⟩⟩], d ∈ tenantsDocuments := by
    intro e he d hd
    refine List.mem_append_right _ (List.mem_flatMap.mpr ⟨e, he, ?_⟩)
    rcases List.mem_cons.mp hd with rfl | hd
    · exact List.mem_cons_self ..
    · rw [List.mem_singleton.mp hd]
      exact List.mem_cons_of_mem _ (List.mem_cons_self ..)
  exact
    { injective := fun d hd d' hd' => hinjective d hd d' hd'
      known := fun d hd => List.mem_append_left _ hd
      bodies := fun e he => by
        rw [Set.mem_ofPred_eq]
        exact hmade e he (.receiptBody e.1) (List.mem_cons_self ..)
      receipts := fun e he => by
        rw [Set.mem_ofPred_eq, tenantsSigner]
        exact hmade e he (.receipt ⟨e.1, ⟨"signer", 2⟩⟩)
          (List.mem_cons_of_mem _ (List.mem_cons_self ..))
      acknowledgements := fun r hr => by
        rw [Set.mem_ofPred_eq] at hr ⊢
        exact hreceipts (.receipt r) hr r (Option.mem_some_self r) }

theorem tenants_signed (body : SigningBody) :
    tenantsProfile.signerVerifies body (tenantsSigner body) = true := by
  simp [tenantsProfile, exampleProfile, tenantsSigner]

theorem tenants_room : reservedWorld.world.file.hasRoom tenantsProfile := by decide +kernel

theorem tenants_outstanding : reservedWorld.world.ledger.unfinished.length = 2 := by
  decide +kernel

/-- With a custody that takes everything, both tenants are settled and counted. -/
theorem reconciliation_isolates_all :
    ∃ made s', Plays (custodyExec ∅ tenantsSigner) (Measured tenantsProfile) (reconcilePending tenantsProfile 0 2)
        reservedWorld made (.ok (.reconciled 2)) s'
      ∧ ∀ e ∈ reservedWorld.world.ledger.unfinished, CustodyIs .durable s'.world.ledger e := by
  obtain ⟨⟨made, r, s', hplays⟩, hall⟩ := reconciliation_isolates reservedWorld_world
    tenants_room tenants_signed tenants_distinguished 0 (by decide : 1 ≤ 2 ∧ 2 ≤ 1000)
    (le_of_eq tenants_outstanding) ∅
  have hlast : RefusesLast ∅ reservedWorld.world.ledger :=
    List.pairwise_of_forall fun e _ hno => absurd hno (Set.notMem_empty e.1.custodyObjectId)
  have hisolates := (hall made r s' hplays).mpr hlast
  have hcount := hisolates.all rfl
  rw [tenants_outstanding] at hcount
  subst hcount
  exact ⟨made, s', hplays, fun e he => hisolates.durable e he (Set.notMem_empty _)⟩

/-- The object of the first item. -/
def firstObject : Digest :=
  (reservedWorld.world.ledger.unfinished.map (·.1.custodyObjectId)).headD 0

/-- Custody refuses the object of one tenant, and the other tenant is not settled. -/
theorem refused_object_stops :
    (∃ made r s', Plays (custodyExec {firstObject} tenantsSigner)
      (Measured tenantsProfile) (reconcilePending tenantsProfile 0 2) reservedWorld made r s')
    ∧ ∀ made r s', Plays (custodyExec {firstObject} tenantsSigner)
      (Measured tenantsProfile) (reconcilePending tenantsProfile 0 2) reservedWorld made r s' →
      ¬Isolates {firstObject} reservedWorld.world.ledger s'.world.ledger made r := by
  have hready : Ready tenantsProfile {d | d ∈ tenantsDocuments} tenantsSigner reservedWorld :=
    ⟨{ toWorldInv := by rw [reservedWorld_world]; exact worldAfter_inv twoReserved
       room := tenants_room }, tenants_distinguished⟩
  refine ⟨plays_exists custodyExec_total measured_refl _ _, fun made r s' h hisolates => ?_⟩
  have hlast := (isolates_iff tenants_signed hready (by decide : 1 ≤ 2 ∧ 2 ≤ 1000)
    (le_of_eq tenants_outstanding) h).mp hisolates
  have hmapped : (reservedWorld.world.ledger.unfinished.map (·.1.custodyObjectId)).Pairwise
      fun o o' => o = firstObject → o' = firstObject := List.pairwise_map.mpr hlast
  have hnot : ¬(reservedWorld.world.ledger.unfinished.map (·.1.custodyObjectId)).Pairwise
      fun o o' => o = firstObject → o' = firstObject := by
    decide +kernel
  exact hnot hmapped

end ControlAssurance.Admission
