import ControlAssurance.Admission.Steps

/-!
# Every change keeps the invariant

One theorem for each of the five changes of `Steps`, assembled table by table.
The two that touch receipts go through what they do to a tenant's list: a
finalization appends to one of them, a closed custody only changes the custody
columns of one row.
-/

namespace ControlAssurance.Admission

open Lib

variable {P : Profile} {db db' : Ledger}

/-! ## Changes that leave the receipts alone -/

variable {a : AdmissionRow} {p : PreparationRow}

theorem SoundReceipt.mono (h : SoundReceipt P db a)
    (hleases : ∀ l ∈ db.leases, l.consumedReceiptDigest ≠ none → l ∈ db'.leases) :
    SoundReceipt P db' a := by
  obtain ⟨l, hl, hdigest, hev, henv, hrec⟩ := h.lease
  refine ⟨h.signed, h.columns, ⟨l, hleases l hl ?_, hdigest, hev, henv, hrec⟩, h.ack⟩
  rw [hrec]
  exact Option.some_ne_none _

theorem SoundPreparation.mono (h : SoundPreparation P db p)
    (hleases : ∀ l ∈ db.leases, l.leaseDigest = p.leaseDigest → l ∈ db'.leases) :
    SoundPreparation P db' p := by
  obtain ⟨l, hl, hdigest, hrest⟩ := h.lease
  exact ⟨h.columns, l, hleases l hl hdigest, hdigest, hrest⟩

theorem registered_inv (hinv : LedgerInv P db) {row : LeaseRow} (h : Registered P db db' row) :
    LedgerInv P db' := by
  obtain ⟨hsound, hunused, hdigest, hnonce, hcoordinate, rfl⟩ := h
  have hold : ∀ l ∈ db.leases, l ∈ db.leases ++ [row] := fun l hl => List.mem_append_left _ hl
  refine
    { leases := ⟨append_keys hinv.leases.digests hdigest, append_keys hinv.leases.nonces hnonce,
        append_keys hinv.leases.coordinates hcoordinate, ?_, ?_⟩
      receipts := ⟨hinv.receipts.digests, hinv.receipts.leases,
        fun a ha => (hinv.receipts.sound a ha).mono fun l hl _ => hold l hl,
        hinv.receipts.chains⟩
      preparations := ⟨hinv.preparations.tenants, hinv.preparations.leases,
        fun p hp => (hinv.preparations.sound p hp).mono fun l hl _ => hold l hl,
        hinv.preparations.next, hinv.preparations.envelopes, hinv.preparations.quota⟩
      heads := ⟨hinv.heads.tenants, hinv.heads.collectors⟩
      policies := ⟨hinv.policies.versions, hinv.policies.used, hinv.policies.heads⟩
      acks := ⟨hinv.acks.receipts, hinv.acks.sound⟩
      clock := hinv.clock
      quota := hinv.quota }
  · intro l hl
    rcases List.mem_append.mp hl with hl | hl
    · exact hinv.leases.sound l hl
    · rw [List.mem_singleton.mp hl]
      exact hsound
  · intro l hl
    rcases List.mem_append.mp hl with hl | hl
    · exact hinv.leases.consumed l hl
    · rw [List.mem_singleton.mp hl]
      exact Or.inl hunused

/-- The policies after a reservation. -/
theorem policyAdvanced_inv (hinv : PoliciesInv db) {v : PolicyVersion}
    (h : PolicyAdvanced db db' v)
    (hused : ∀ x, x ∈ db'.policiesUsed ↔ x ∈ db.policiesUsed ∨ x = v) : PoliciesInv db' := by
  rcases h with ⟨hv, hmax, hversions, hheads⟩ | ⟨hlt, hversions, hheads⟩
  · -- the version was in use already
    refine ⟨by rw [hversions]; exact hinv.versions, fun x => ?_, fun x => ?_⟩
    · rw [hversions, hused, hinv.used]
      constructor
      · exact Or.inl
      · rintro (hx | rfl)
        · exact hx
        · exact (hinv.used _).mp hv
    · rw [hheads, hversions]
      exact hinv.heads x
  · -- it is newer than every version of its policy
    refine ⟨?_, fun x => ?_, fun x => ?_⟩
    · rw [hversions]
      refine append_keys hinv.versions fun x hx heq => ?_
      have hkey := Prod.mk.inj heq
      exact absurd hkey.2 (Nat.ne_of_lt (hlt x hx hkey.1))
    · rw [hversions, hused, List.mem_append, List.mem_singleton, hinv.used]
    · rw [hheads, hversions, List.mem_append, List.mem_filter, List.mem_singleton]
      obtain ⟨id, revision, digest⟩ := x
      simp only [Bool.not_eq_true', decide_eq_false_iff_not, List.mem_append, List.mem_singleton,
        PolicyHead.mk.injEq]
      by_cases hid : id = v.policyId
      · subst hid
        constructor
        · rintro (⟨_, hne⟩ | ⟨_, rfl, rfl⟩)
          · exact absurd rfl hne
          · refine ⟨Or.inr rfl, fun x hx hxid => ?_⟩
            rcases hx with hx | rfl
            · exact Nat.le_of_lt (hlt x hx hxid)
            · exact Nat.le_refl _
        · rintro ⟨hx | hx, hmax⟩
          · exact absurd (hlt _ hx rfl) (Nat.not_lt_of_le (hmax v (Or.inr rfl) rfl))
          · right
            rw [← hx]
            exact ⟨rfl, rfl, rfl⟩
      · have hhead := hinv.heads ⟨id, revision, digest⟩
        constructor
        · rintro (⟨hx, _⟩ | ⟨hx, _⟩)
          · obtain ⟨hmem, hmax⟩ := hhead.mp hx
            refine ⟨Or.inl hmem, fun y hy hyid => ?_⟩
            rcases hy with hy | rfl
            · exact hmax y hy hyid
            · exact absurd hyid.symm hid
          · exact absurd hx hid
        · rintro ⟨hx | hx, hmax⟩
          · exact Or.inl ⟨hhead.mpr ⟨hx, fun y hy => hmax y (Or.inl hy)⟩, hid⟩
          · rw [← hx] at hid
            exact absurd rfl hid

theorem reserved_inv (hinv : LedgerInv P db) {row : PreparationRow}
    (h : Reserved P db db' row) : LedgerInv P db' := by
  obtain ⟨hsound, hnext, htenant, hlease, hadmitted, hreserved, hfloor, hquota, hpolicy, hresult⟩ := h
  obtain ⟨last, leases, versions, heads, collectorHeads, tenantHeads, admissions, preparations,
    acks⟩ := db'
  simp only [Ledger.mk.injEq, true_and] at hresult
  obtain ⟨rfl, rfl, rfl, rfl, rfl, rfl, rfl⟩ := hresult
  refine
    { leases := ⟨hinv.leases.digests, hinv.leases.nonces, hinv.leases.coordinates,
        hinv.leases.sound, hinv.leases.consumed⟩
      receipts := ⟨hinv.receipts.digests, hinv.receipts.leases,
        fun a ha => (hinv.receipts.sound a ha).mono fun l hl _ => hl, hinv.receipts.chains⟩
      preparations := ⟨append_keys hinv.preparations.tenants htenant,
        append_keys hinv.preparations.leases hlease, ?_, ?_, ?_, ?_⟩
      heads := ⟨hinv.heads.tenants, hinv.heads.collectors⟩
      policies := policyAdvanced_inv hinv.policies hpolicy ?_
      acks := ⟨hinv.acks.receipts, hinv.acks.sound⟩
      clock := ?_
      quota := hinv.quota }
  · intro p hp
    rcases List.mem_append.mp hp with hp | hp
    · exact (hinv.preparations.sound p hp).mono fun l hl _ => hl
    · rw [List.mem_singleton.mp hp]
      exact hsound.mono fun l hl _ => hl
  · intro p hp
    rcases List.mem_append.mp hp with hp | hp
    · exact hinv.preparations.next p hp
    · rw [List.mem_singleton.mp hp]
      exact hnext
  · show (db.admissions.map (·.envelopeDigest)
      ++ (db.preparations ++ [row]).map (·.envelopeDigest)).Nodup
    rw [List.map_append, ← List.append_assoc, List.map_singleton, List.nodup_append]
    refine ⟨hinv.preparations.envelopes, List.nodup_singleton _, ?_⟩
    intro x hx y hy hxy
    rw [List.mem_singleton] at hy
    rw [hy] at hxy
    rcases List.mem_append.mp hx with hx | hx
    · obtain ⟨a, ha, rfl⟩ := List.mem_map.mp hx
      exact hadmitted a ha hxy
    · obtain ⟨p, hp, rfl⟩ := List.mem_map.mp hx
      exact hreserved p hp hxy
  · intro p hp
    rcases List.mem_append.mp hp with hp | hp
    · exact hinv.preparations.quota p hp
    · rw [List.mem_singleton.mp hp]
      exact hquota
  · intro x
    simp [Ledger.policiesUsed, or_assoc]
  · -- the new time is not below the floor, so it is the greatest
    refine Or.inr ⟨_, rfl, ?_, ?_⟩
    · simp [Ledger.admissionTimes]
    · intro x hx
      simp only [Ledger.admissionTimes, List.map_append, List.map_singleton,
        ← List.append_assoc] at hx
      rcases List.mem_append.mp hx with hx | hx
      · rcases hinv.clock with ⟨_, hnil⟩ | ⟨m, hm, _, hle⟩
        · rw [Ledger.admissionTimes] at hnil
          rw [hnil] at hx
          cases hx
        · exact Int.le_trans (hle x hx) (hfloor m hm)
      · rw [List.mem_singleton.mp hx]

theorem ackPrepared_inv (hinv : LedgerInv P db) (h : AckPrepared P db db' a) : LedgerInv P db' := by
  obtain ⟨hmem, hpending, hfresh, rfl⟩ := h
  refine
    { leases := ⟨hinv.leases.digests, hinv.leases.nonces, hinv.leases.coordinates,
        hinv.leases.sound, hinv.leases.consumed⟩
      receipts := ⟨hinv.receipts.digests, hinv.receipts.leases,
        fun a ha => (hinv.receipts.sound a ha).mono fun l hl _ => hl, hinv.receipts.chains⟩
      preparations := ⟨hinv.preparations.tenants, hinv.preparations.leases,
        fun p hp => (hinv.preparations.sound p hp).mono fun l hl _ => hl,
        hinv.preparations.next, hinv.preparations.envelopes, hinv.preparations.quota⟩
      heads := ⟨hinv.heads.tenants, hinv.heads.collectors⟩
      policies := ⟨hinv.policies.versions, hinv.policies.used, hinv.policies.heads⟩
      acks := ⟨append_keys hinv.acks.receipts hfresh, ?_⟩
      clock := hinv.clock
      quota := hinv.quota }
  intro q hq
  rcases List.mem_append.mp hq with hq | hq
  · exact hinv.acks.sound q hq
  · rw [List.mem_singleton.mp hq]
    exact ⟨a, hmem, rfl, hpending, rfl, rfl⟩

/-! ## A finalized receipt -/

theorem tenantAdmissions_concat (h : db'.admissions = db.admissions ++ [a]) (t : String) :
    db'.tenantAdmissions t
      = if a.tenantId = t then db.tenantAdmissions t ++ [a] else db.tenantAdmissions t := by
  unfold Ledger.tenantAdmissions
  rw [h, List.filter_append, List.filter_singleton]
  by_cases ht : a.tenantId = t
  · rw [if_pos ht, decide_eq_true ht]
    rfl
  · rw [if_neg ht, decide_eq_false ht]
    exact List.append_nil _

/-- Tenant heads follow an appended receipt, in the table and in the memory of the
instance that appended it. -/
theorem currentHeads_concat {heads : List TenantHead} (h : CurrentHeads db heads)
    (hadmissions : db'.admissions = db.admissions ++ [a]) :
    CurrentHeads db' (heads.filter (fun x => !decide (x.tenantId = a.tenantId))
      ++ [⟨a.tenantId, a.receiptSequence, a.receiptDigest⟩]) := by
  intro x
  rw [tenantAdmissions_concat hadmissions, List.mem_append, List.mem_filter,
    List.mem_singleton, Bool.not_eq_true', decide_eq_false_iff_not]
  by_cases ht : a.tenantId = x.tenantId
  · rw [if_pos ht, tenantEnd, chainHead_concat]
    obtain ⟨t, n, d⟩ := x
    simp only at ht
    simp only [ht, not_true_eq_false, and_false, false_or, TenantHead.mk.injEq, true_and,
      Option.some.injEq, Prod.mk.injEq]
    exact ⟨fun hx => ⟨hx.1.symm, hx.2.symm⟩, fun hx => ⟨hx.1.symm, hx.2.symm⟩⟩
  · rw [if_neg ht, h x]
    constructor
    · rintro (⟨hx, _⟩ | rfl)
      · exact hx
      · exact absurd rfl ht
    · exact fun hx => Or.inl ⟨hx, fun heq => ht heq.symm⟩

/-- The heads follow an appended receipt. -/
theorem headsInv_concat (h : HeadsInv db) (hadmissions : db'.admissions = db.admissions ++ [a])
    (htenants : db'.tenantHeads
      = db.tenantHeads.filter (fun x => !decide (x.tenantId = a.tenantId))
        ++ [⟨a.tenantId, a.receiptSequence, a.receiptDigest⟩])
    (hcollectors : db'.collectorHeads = upsertCollector db.collectorHeads
      ⟨a.tenantId, a.collectorId, a.epoch, a.sequence, a.receiptDigest⟩) : HeadsInv db' := by
  constructor
  · rw [htenants]
    exact currentHeads_concat h.tenants hadmissions
  · intro x
    rw [hcollectors, tenantAdmissions_concat hadmissions, mem_upsertCollector, h.collectors x]
    by_cases ht : a.tenantId = x.tenantId
    · rw [if_pos ht, collectorEnd_concat]
      by_cases hc : a.collectorId = x.collectorId
      · rw [if_pos hc]
        obtain ⟨t, c, e, n, d⟩ := x
        simp only at ht hc
        simp only [ht, hc, not_true_eq_false, and_self, and_false, or_false,
          CollectorHead.mk.injEq, true_and, Option.some.injEq, Prod.mk.injEq]
        exact ⟨fun hx => ⟨hx.1.symm, hx.2.1.symm, hx.2.2.symm⟩,
          fun hx => ⟨hx.1.symm, hx.2.1.symm, hx.2.2.symm⟩⟩
      · rw [if_neg hc]
        constructor
        · rintro (rfl | ⟨hx, _⟩)
          · exact absurd rfl hc
          · exact hx
        · exact fun hx => Or.inr ⟨hx, fun hkey => hc hkey.2.symm⟩
    · rw [if_neg ht]
      constructor
      · rintro (rfl | ⟨hx, _⟩)
        · exact absurd rfl ht
        · exact hx
      · exact fun hx => Or.inr ⟨hx, fun hkey => ht hkey.1.symm⟩

theorem IsMax.congr {o : Option Instant} {l l' : List Instant} (h : IsMax o l)
    (hmem : ∀ x, x ∈ l' ↔ x ∈ l) : IsMax o l' := by
  rcases h with ⟨rfl, rfl⟩ | ⟨m, rfl, hm, hle⟩
  · refine Or.inl ⟨rfl, ?_⟩
    rw [List.eq_nil_iff_forall_not_mem]
    intro x hx
    cases (hmem x).mp hx
  · exact Or.inr ⟨m, rfl, (hmem m).mpr hm, fun x hx => hle x ((hmem x).mp hx)⟩

/-- The reservations that stay. -/
theorem mem_otherPreparations (hinv : PreparationsInv P db) {q : PreparationRow}
    (hp : p ∈ db.preparations) :
    q ∈ db.preparations.filter (fun q => !samePreparation p q)
      ↔ q ∈ db.preparations ∧ q ≠ p := by
  rw [List.mem_filter, Bool.not_eq_true', samePreparation, decide_eq_false_iff_not]
  constructor
  · rintro ⟨hq, hne⟩
    refine ⟨hq, fun heq => hne ?_⟩
    rw [heq]
    exact ⟨rfl, rfl⟩
  · rintro ⟨hq, hne⟩
    exact ⟨hq, fun heq => hne (List.inj_on_of_nodup_map hinv.leases hq hp heq.2)⟩

/-- What replaces a reservation stands for it wherever only the set of values
counts. -/
theorem mem_replaced {α : Type} (hinv : PreparationsInv P db)
    (hp : p ∈ db.preparations) {f : AdmissionRow → α} {g : PreparationRow → α}
    (hfg : f a = g p) (x : α) :
    x ∈ (db.admissions ++ [a]).map f
        ++ (db.preparations.filter fun q => !samePreparation p q).map g
      ↔ x ∈ db.admissions.map f ++ db.preparations.map g := by
  simp only [List.mem_append, List.mem_map, List.mem_singleton, mem_otherPreparations hinv hp]
  constructor
  · rintro (⟨b, hb | rfl, rfl⟩ | ⟨q, ⟨hq, _⟩, rfl⟩)
    · exact Or.inl ⟨b, hb, rfl⟩
    · exact Or.inr ⟨p, hp, hfg.symm⟩
    · exact Or.inr ⟨q, hq, rfl⟩
  · rintro (⟨b, hb, rfl⟩ | ⟨q, hq, rfl⟩)
    · exact Or.inl ⟨b, Or.inl hb, rfl⟩
    · by_cases hqp : q = p
      · rw [hqp]
        exact Or.inl ⟨a, Or.inr rfl, hfg⟩
      · exact Or.inr ⟨q, ⟨hq, hqp⟩, rfl⟩

/-- The leases after one of them was consumed: the others are as they were. -/
theorem mem_consumedLeases {digest envelope receipt : Digest} {l : LeaseRow}
    (hl : l ∈ db.leases) (hother : l.leaseDigest ≠ digest ∨ l.consumedReceiptDigest ≠ none) :
    l ∈ updateWhere (unusedLease digest) (fun l => { l with
      consumedEnvelopeDigest := some envelope
      consumedReceiptDigest := some receipt }) db.leases := by
  rw [mem_updateWhere]
  refine Or.inr ⟨hl, ?_⟩
  rw [unusedLease, decide_eq_false_iff_not]
  rintro ⟨hdigest, _, hnone⟩
  rcases hother with h | h
  · exact h hdigest
  · exact h hnone

theorem consumed_leasesInv (hinv : LedgerInv P db) {digest envelope receipt : Digest}
    (hleases : db'.leases = updateWhere (unusedLease digest) (fun l => { l with
      consumedEnvelopeDigest := some envelope
      consumedReceiptDigest := some receipt }) db.leases)
    {a : AdmissionRow} (hadmissions : db'.admissions = db.admissions ++ [a])
    (ha : a.leaseDigest = digest) : LeasesInv P db' := by
  refine ⟨?_, ?_, ?_, ?_, ?_⟩
  · rw [hleases]
    exact updateWhere_keys (fun _ => rfl) hinv.leases.digests
  · rw [hleases]
    exact updateWhere_keys (fun _ => rfl) hinv.leases.nonces
  · rw [hleases]
    exact updateWhere_keys (fun _ => rfl) hinv.leases.coordinates
  · intro l hl
    rw [hleases, mem_updateWhere] at hl
    rcases hl with ⟨l₀, hl₀, _, rfl⟩ | ⟨hl, _⟩
    · obtain ⟨hvalid, hsigned, hauthority, hcolumns⟩ := hinv.leases.sound l₀ hl₀
      exact ⟨hvalid, hsigned, hauthority, hcolumns⟩
    · exact hinv.leases.sound l hl
  · intro l hl
    rw [hleases, mem_updateWhere] at hl
    rw [hadmissions]
    rcases hl with ⟨l₀, _, hunused, rfl⟩ | ⟨hl, _⟩
    · right
      rw [unusedLease, decide_eq_true_eq] at hunused
      exact ⟨a, List.mem_append_right _ (List.mem_singleton_self a), ha.trans hunused.1.symm⟩
    · rcases hinv.leases.consumed l hl with hnone | ⟨b, hb, hbl⟩
      · exact Or.inl hnone
      · exact Or.inr ⟨b, List.mem_append_left _ hb, hbl⟩

theorem finalized_inv (hinv : LedgerInv P db) {receipt : AdmissionReceipt}
    (h : Finalized P db db' p receipt) : LedgerInv P db' := by
  obtain ⟨hmem, hbody, hsigned, hdigest, hlease, rfl⟩ := h
  have hcolumns := (hinv.preparations.sound p hmem).columns
  obtain ⟨l, hl, hld, hev, hunusedEnvelope, hunusedReceipt⟩ := (hinv.preparations.sound p hmem).lease
  -- the columns of preparation and receipt repeat the same body
  obtain ⟨columns, body, evidence⟩ := p
  cases (show columns = body.preparationColumns P from hcolumns)
  obtain ⟨receiptBody, signature⟩ := receipt
  cases (show receiptBody = body from hbody)
  have hothers := fun q => mem_otherPreparations (q := q) hinv.preparations hmem
  have hsameTenant := fun q (hq : q ∈ db.preparations) =>
    List.inj_on_of_nodup_map hinv.preparations.tenants hq hmem
  have hsameLease := fun q (hq : q ∈ db.preparations) =>
    List.inj_on_of_nodup_map hinv.preparations.leases hq hmem
  have hconcat : ∀ t, Ledger.tenantAdmissions { db with
        admissions := db.admissions ++ [AdmissionReceipt.row P ⟨body, signature⟩ evidence] } t
      = if (AdmissionReceipt.row P ⟨body, signature⟩ evidence).tenantId = t
        then db.tenantAdmissions t ++ [AdmissionReceipt.row P ⟨body, signature⟩ evidence]
        else db.tenantAdmissions t := tenantAdmissions_concat rfl
  have hnext := hinv.preparations.next _ hmem
  refine
    { leases := consumed_leasesInv hinv rfl rfl rfl
      receipts := ⟨append_keys hinv.receipts.digests hdigest,
        append_keys hinv.receipts.leases hlease, ?_, ?_⟩
      preparations := ⟨hinv.preparations.tenants.sublist (List.filter_sublist.map _),
        hinv.preparations.leases.sublist (List.filter_sublist.map _), ?_, ?_, ?_, ?_⟩
      heads := headsInv_concat hinv.heads rfl rfl rfl
      policies := ⟨hinv.policies.versions, ?_, hinv.policies.heads⟩
      acks := ⟨hinv.acks.receipts, ?_⟩
      clock := hinv.clock.congr (mem_replaced hinv.preparations hmem rfl)
      quota := ?_ }
  · -- the receipts are sound
    intro a ha
    rcases List.mem_append.mp ha with ha | ha
    · exact (hinv.receipts.sound a ha).mono fun l hl hne => mem_consumedLeases hl (Or.inr hne)
    · rw [List.mem_singleton.mp ha]
      have hunused : unusedLease body.leaseDigest l = true :=
        decide_eq_true ⟨hld, hunusedEnvelope, hunusedReceipt⟩
      exact ⟨hsigned, rfl, ⟨_, mem_updateWhere.mpr (Or.inl ⟨l, hl, hunused, rfl⟩), hld, hev, rfl,
        rfl⟩, Or.inl ⟨rfl, rfl, rfl⟩⟩
  · -- and each tenant's list grew by an allowed one
    intro t
    show Grown _ (Ledger.tenantAdmissions { db with admissions := _ } t)
    rw [hconcat t]
    split
    next ht =>
      cases ht
      exact .snoc (hinv.receipts.chains _) hnext
    next => exact hinv.receipts.chains t
  · intro q hq
    obtain ⟨hq, hne⟩ := (hothers q).mp hq
    refine (hinv.preparations.sound q hq).mono fun l hl hql => mem_consumedLeases hl (Or.inl ?_)
    intro heq
    exact hne (hsameLease q hq (hql.symm.trans heq))
  · intro q hq
    obtain ⟨hq, hne⟩ := (hothers q).mp hq
    show NextBody (Ledger.tenantAdmissions { db with admissions := _ } q.tenantId) _
    rw [hconcat, if_neg fun heq => hne (hsameTenant q hq heq.symm)]
    exact hinv.preparations.next q hq
  · -- no envelope appears twice
    obtain ⟨hold, hreserved, hdisjoint⟩ := List.nodup_append.mp hinv.preparations.envelopes
    refine List.nodup_append.mpr ⟨append_keys hold fun a ha heq => ?_,
      hreserved.sublist (List.filter_sublist.map _), ?_⟩
    · exact hdisjoint _ (List.mem_map_of_mem ha) _ (List.mem_map_of_mem hmem) heq
    · intro x hx y hy hxy
      obtain ⟨q, hq, rfl⟩ := List.mem_map.mp hy
      obtain ⟨hq, hne⟩ := (hothers q).mp hq
      rw [List.map_append] at hx
      rcases List.mem_append.mp hx with hx | hx
      · exact hdisjoint x hx _ (List.mem_map_of_mem hq) hxy
      · rw [List.map_singleton, List.mem_singleton] at hx
        rw [hx] at hxy
        exact hne (List.inj_on_of_nodup_map hreserved hq hmem hxy.symm)
  · intro q hq
    obtain ⟨hq, hne⟩ := (hothers q).mp hq
    show (Ledger.tenantAdmissions { db with admissions := _ } q.tenantId).length < _
    rw [hconcat, if_neg fun heq => hne (hsameTenant q hq heq.symm)]
    exact hinv.preparations.quota q hq
  · intro v
    rw [hinv.policies.used v]
    exact (mem_replaced hinv.preparations hmem rfl v).symm
  · intro q hq
    obtain ⟨a, ha, hrest⟩ := hinv.acks.sound q hq
    exact ⟨a, List.mem_append_left _ ha, hrest⟩
  · intro t
    show (Ledger.tenantAdmissions { db with admissions := _ } t).length ≤ _
    rw [hconcat t]
    split
    next ht =>
      cases ht
      rw [List.length_append, List.length_singleton]
      exact hinv.preparations.quota _ hmem
    next => exact hinv.quota t

/-! ## A closed custody -/

/-- A change of rows that can only confirm custody. -/
structure ConfirmsCustody (g : AdmissionRow → AdmissionRow) : Prop where
  columns : ∀ a, (g a).toAdmissionColumns = a.toAdmissionColumns
  receipt : ∀ a, (g a).receipt = a.receipt
  evidence : ∀ a, (g a).evidence = a.evidence
  durable : ∀ a, a.custodyState = .durable → (g a).custodyState = .durable

section

variable {g : AdmissionRow → AdmissionRow} (hg : ConfirmsCustody g)
include hg

theorem tenantAdmissions_map (h : db'.admissions = db.admissions.map g) (t : String) :
    db'.tenantAdmissions t = (db.tenantAdmissions t).map g := by
  unfold Ledger.tenantAdmissions
  rw [h, List.filter_map]
  refine congrArg (List.map g) (List.filter_congr fun a _ => ?_)
  show decide ((g a).tenantId = t) = _
  rw [hg.columns]

theorem tenantEnd_map (rows : List AdmissionRow) : tenantEnd (rows.map g) = tenantEnd rows := by
  unfold tenantEnd chainHead
  rw [List.getLast?_map, Option.map_map]
  refine congrArg (fun f => rows.getLast?.map f) (funext fun a => ?_)
  show ((g a).receiptSequence, (g a).receiptDigest) = _
  rw [hg.columns]

theorem collectorEnd_map (rows : List AdmissionRow) (c : String) :
    collectorEnd (rows.map g) c = collectorEnd rows c := by
  unfold collectorEnd
  have hfilter : (rows.map g).filter (fun a => decide (a.collectorId = c))
      = (rows.filter fun a => decide (a.collectorId = c)).map g := by
    rw [List.filter_map]
    refine congrArg (List.map g) (List.filter_congr fun a _ => ?_)
    show decide ((g a).collectorId = c) = _
    rw [hg.columns]
  rw [hfilter, List.getLast?_map, Option.map_map]
  refine congrArg (fun f => (rows.filter _).getLast?.map f) (funext fun a => ?_)
  show ((g a).epoch, (g a).sequence, (g a).receiptDigest) = _
  rw [hg.columns]

theorem nextBody_map {rows : List AdmissionRow} {b : AdmissionReceiptBody}
    (h : NextBody rows b) : NextBody (rows.map g) b := by
  refine ⟨by rw [List.length_map]; exact h.number, by rw [tenantEnd_map hg]; exact h.previous, ?_,
    by rw [collectorEnd_map hg]; exact h.collector⟩
  intro a ha
  obtain ⟨a₀, ha₀, rfl⟩ := List.mem_map.mp ha
  exact hg.durable a₀ (h.durable a₀ ha₀)

/-- A column of receipts keeps its values. -/
theorem map_confirmed {κ : Type} (column : AdmissionColumns → κ) (rows : List AdmissionRow) :
    (rows.map g).map (fun a => column a.toAdmissionColumns)
      = rows.map fun a => column a.toAdmissionColumns := by
  rw [List.map_map]
  refine List.map_congr_left fun a _ => ?_
  show column (g a).toAdmissionColumns = _
  rw [hg.columns]

end

/-- The row of a receipt whose custody is confirmed. -/
def AdmissionRow.confirmed (P : Profile) (a : AdmissionRow) (ack : CustodyAcknowledgement) :
    AdmissionRow :=
  { a with
    custodyState := .durable
    custodyAckDigest := some (P.sha (.acknowledgement ack))
    custodyAck := some ack }

/-- A closed custody as a change of rows: one row is confirmed, the others stay. -/
theorem CustodyClosed.rows {ack : CustodyAcknowledgement} (h : CustodyClosed P db db' a ack) :
    ∃ g, ConfirmsCustody g ∧ db'.admissions = db.admissions.map g ∧ g a = a.confirmed P ack
      ∧ ∀ x, x.receiptDigest ≠ a.receiptDigest → g x = x := by
  refine ⟨fun x => if decide (x.receiptDigest = a.receiptDigest ∧ x.custodyState = .pending) = true
    then x.confirmed P ack else x, ⟨fun x => ?_, fun x => ?_, fun x => ?_, fun x hx => ?_⟩, ?_, ?_,
    ?_⟩
  · split <;> rfl
  · split <;> rfl
  · split <;> rfl
  · split
    · rfl
    · exact hx
  · rw [h.result]
    rfl
  · exact if_pos (decide_eq_true ⟨rfl, h.pending⟩)
  · intro x hx
    exact if_neg fun hp => hx (of_decide_eq_true hp).1

theorem custodyClosed_inv (hinv : LedgerInv P db)
    {ack : CustodyAcknowledgement} (h : CustodyClosed P db db' a ack) : LedgerInv P db' := by
  obtain ⟨g, hg, hadmissions, hself, hother⟩ := h.rows
  obtain ⟨hmem, hpending, hprepared, hbody, hsigned, hresult⟩ := h
  have hcases : ∀ x ∈ db.admissions, x = a ∨ g x = x := by
    intro x hx
    by_cases hxa : x.receiptDigest = a.receiptDigest
    · exact Or.inl (List.inj_on_of_nodup_map hinv.receipts.digests hx hmem hxa)
    · exact Or.inr (hother x hxa)
  have hrows := tenantAdmissions_map hg hadmissions
  have hleases : db'.leases = db.leases := by rw [hresult]
  have hpreparations : db'.preparations = db.preparations := by rw [hresult]
  have hconfirmed : ∀ x ∈ db.admissions, g x ∈ db'.admissions := by
    intro x hx
    rw [hadmissions]
    exact List.mem_map_of_mem hx
  have hused : db'.policiesUsed = db.policiesUsed := by
    unfold Ledger.policiesUsed
    rw [hadmissions, hpreparations]
    exact congrArg (· ++ _) (map_confirmed hg AdmissionColumns.policy _)
  have htimes : db'.admissionTimes = db.admissionTimes := by
    unfold Ledger.admissionTimes
    rw [hadmissions, hpreparations, List.map_map]
    refine congrArg (· ++ _) (List.map_congr_left fun x _ => ?_)
    show (g x).receipt.body.admittedAt = _
    rw [hg.receipt]
  refine
    { leases := ⟨by rw [hleases]; exact hinv.leases.digests,
        by rw [hleases]; exact hinv.leases.nonces,
        by rw [hleases]; exact hinv.leases.coordinates,
        by rw [hleases]; exact hinv.leases.sound, ?_⟩
      receipts := ⟨?_, ?_, ?_, ?_⟩
      preparations := ⟨by rw [hpreparations]; exact hinv.preparations.tenants,
        by rw [hpreparations]; exact hinv.preparations.leases, ?_, ?_, ?_, ?_⟩
      heads := ⟨?_, ?_⟩
      policies := ⟨?_, ?_, ?_⟩
      acks := ⟨?_, ?_⟩
      clock := ?_
      quota := ?_ }
  · intro l hl
    rw [hleases] at hl
    rcases hinv.leases.consumed l hl with hnone | ⟨x, hx, hxl⟩
    · exact Or.inl hnone
    · exact Or.inr ⟨g x, hconfirmed x hx, by rw [hg.columns]; exact hxl⟩
  · rw [hadmissions, map_confirmed hg AdmissionColumns.receiptDigest]
    exact hinv.receipts.digests
  · rw [hadmissions, map_confirmed hg AdmissionColumns.leaseDigest]
    exact hinv.receipts.leases
  · -- the confirmed receipt has its acknowledgement
    intro x hx
    rw [hadmissions] at hx
    obtain ⟨x₀, hx₀, rfl⟩ := List.mem_map.mp hx
    have hsound : SoundReceipt P db' x₀ :=
      (hinv.receipts.sound x₀ hx₀).mono fun l hl _ => by rw [hleases]; exact hl
    rcases hcases x₀ hx₀ with rfl | hsame
    · rw [hself]
      exact ⟨hsound.signed, hsound.columns, hsound.lease,
        Or.inr ⟨rfl, ack, ⟨rfl, rfl, hsigned, hbody⟩⟩⟩
    · rw [hsame]
      exact hsound
  · intro t
    rw [hrows t]
    refine (hinv.receipts.chains t).map fun rows x hnext => ?_
    rw [hg.receipt]
    exact nextBody_map hg hnext
  · intro p hp
    rw [hpreparations] at hp
    exact (hinv.preparations.sound p hp).mono fun l hl _ => by rw [hleases]; exact hl
  · intro p hp
    rw [hpreparations] at hp
    rw [hrows]
    exact nextBody_map hg (hinv.preparations.next p hp)
  · rw [hpreparations, hadmissions, map_confirmed hg AdmissionColumns.envelopeDigest]
    exact hinv.preparations.envelopes
  · intro p hp
    rw [hpreparations] at hp
    rw [hrows, List.length_map]
    exact hinv.preparations.quota p hp
  · intro x
    rw [hrows, tenantEnd_map hg, ← hinv.heads.tenants x, hresult]
  · intro x
    rw [hrows, collectorEnd_map hg, ← hinv.heads.collectors x, hresult]
  · rw [hresult]
    exact hinv.policies.versions
  · intro v
    rw [hused, ← hinv.policies.used v, hresult]
  · intro x
    rw [hresult]
    exact hinv.policies.heads x
  · rw [hresult]
    exact hinv.acks.receipts.sublist (List.filter_sublist.map _)
  · -- the preparations that stay are of other receipts
    intro q hq
    rw [hresult, List.mem_filter, Bool.not_eq_true', decide_eq_false_iff_not] at hq
    obtain ⟨hq, hne⟩ := hq
    have hdigest : q.receiptDigest ≠ a.receiptDigest := by
      intro heq
      rw [ackPreparation_eq hinv hmem hq heq] at hne
      exact hne ⟨rfl, rfl⟩
    obtain ⟨x, hx, hxd, hrest⟩ := hinv.acks.sound q hq
    refine ⟨x, ?_, hxd, hrest⟩
    have hsame := hother x (by rw [hxd]; exact hdigest)
    rw [← hsame]
    exact hconfirmed x hx
  · rw [htimes, hresult]
    exact hinv.clock
  · intro t
    rw [hrows, List.length_map]
    exact hinv.quota t

/-! ## Any change -/

/-- What a transaction can do to the tables. -/
inductive LedgerChange (P : Profile) (db db' : Ledger) : Prop
  | same (h : db' = db)
  | registered (row : LeaseRow) (h : Registered P db db' row)
  | reserved (row : PreparationRow) (h : Reserved P db db' row)
  | finalized (p : PreparationRow) (receipt : AdmissionReceipt) (h : Finalized P db db' p receipt)
  | ackPrepared (a : AdmissionRow) (h : AckPrepared P db db' a)
  | closed (a : AdmissionRow) (ack : CustodyAcknowledgement) (h : CustodyClosed P db db' a ack)

theorem LedgerChange.inv (h : LedgerChange P db db') (hinv : LedgerInv P db) :
    LedgerInv P db' := by
  cases h with
  | same h => rw [h]; exact hinv
  | registered row h => exact registered_inv hinv h
  | reserved row h => exact reserved_inv hinv h
  | finalized p receipt h => exact finalized_inv hinv h
  | ackPrepared a h => exact ackPrepared_inv hinv h
  | closed a ack h => exact custodyClosed_inv hinv h

end ControlAssurance.Admission
