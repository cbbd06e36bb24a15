import ControlAssurance.Lib.HashChain
import ControlAssurance.ControlPlane.Commits
import ControlAssurance.ControlPlane.Lease
import ControlAssurance.ControlPlane.MakerChecker

/-!
# Verifying the audit chain

`verify_audit_chain` reads the events of a tenant in pages of a thousand, each page from the
last sequence it has checked, and follows the chain of digests. Here a stored row has its
columns and the two byte strings beside them; hashing, canonical JSON and the strict parser are
the functions of an `AuditCodec`.

Paging does not matter (`verifyPages_eq_ok`): a run over pages succeeds exactly when all rows
are valid and the check of the whole trail in one go does. The rest is about hash chains. What
the store appends continues the chain, so a reachable table verifies; and a chain is determined
by its head.
-/

namespace ControlAssurance.ControlPlane

open Lib

abbrev AuditBytes := List UInt8

/-- A row of `control_audit_events`. -/
structure AuditRow where
  body : AuditEventBody
  eventDigest : Digest
  detailsBytes : AuditBytes
  eventBytes : AuditBytes
deriving DecidableEq

/-- Hashing and JSON: `canonical` renders a body with `canonical_json_bytes`, `strictJsonLoads`
and `canonicalJson` are the parser and the printer under the limits of audit details. -/
structure AuditCodec (J : Type) where
  sha256 : AuditBytes → Digest
  canonical : Document → AuditBytes
  strictJsonLoads : AuditBytes → Option J
  canonicalJson : J → Option AuditBytes

/-- The rows of a tenant in the order of their sequences. -/
def auditTrail (rows : List AuditRow) (tenantId : String) : List AuditRow :=
  (rows.filter fun r => decide (r.body.tenantId = tenantId)).mergeSort
    fun a b => decide (a.body.sequence ≤ b.body.sequence)

section

variable {J : Type} (C : AuditCodec J)

/-- The digest of a canonical body. -/
def AuditCodec.sha (d : Document) : Digest := C.sha256 (C.canonical d)

/-- The row `_append_audit` inserts for an event. -/
def AuditEvent.row (e : AuditEvent) : AuditRow :=
  ⟨e.body, e.eventDigest, C.canonical (.details e.detailsBytes), C.canonical (.event e.body)⟩

/-- `_audit`, with `AuditEvent.validate_event`. -/
def readAudit (r : AuditRow) : Except ControlPlaneError AuditRow := do
  require (C.sha256 r.detailsBytes = r.body.detailsDigest)
    (.integrity "stored audit event failed validation")
  require (C.sha256 r.eventBytes = r.eventDigest)
    (.integrity "stored audit event failed validation")
  require (C.canonical (.event r.body) = r.eventBytes)
    (.integrity "stored audit event failed validation")
  pure r

/-- `WHERE tenant_id = ? AND sequence > ? ORDER BY sequence`. -/
def auditAfter (rows : List AuditRow) (tenantId : String) (afterSequence : Nat) : List AuditRow :=
  (rows.filter fun r => decide (r.body.tenantId = tenantId ∧ afterSequence < r.body.sequence)).mergeSort
    fun a b => decide (a.body.sequence ≤ b.body.sequence)

/-- `audit_events`. -/
def auditEvents (rows : List AuditRow) (tenantId : String) (afterSequence limit : Nat) :
    Except ControlPlaneError (List AuditRow) := do
  require (1 ≤ limit ∧ limit ≤ 10000) (.value "audit limit is outside the supported range")
  ((auditAfter rows tenantId afterSequence).take limit).mapM (readAudit C)

/-- One round of the inner loop: the sequence and the digest it has come to. -/
def checkEvent (s : Nat × Digest) (e : AuditRow) : Except ControlPlaneError (Nat × Digest) := do
  let sequence := s.1 + 1
  require (e.body.sequence = sequence ∧ e.body.previousEventDigest = s.2
      ∧ C.sha256 e.eventBytes = e.eventDigest)
    (.integrity "audit hash chain is broken")
  let details ← expect (C.strictJsonLoads e.detailsBytes) (.integrity "audit details are invalid")
  let bytes ← expect (C.canonicalJson details) (.integrity "audit details are invalid")
  require (bytes = e.detailsBytes) (.integrity "audit details are not canonical")
  pure (sequence, e.eventDigest)

def auditPage : Nat := 1000

/-- The outer loop; `none` when `fuel` rounds were not enough. -/
def verifyPages (rows : List AuditRow) (tenantId : String) :
    Nat → Nat × Digest → Option (Except ControlPlaneError (Nat × Digest))
  | 0, _ => none
  | fuel + 1, s =>
    match auditEvents C rows tenantId s.1 auditPage with
    | .error e => some (.error e)
    | .ok events =>
      if events.isEmpty then
        some (.ok s)
      else
        match events.foldlM (checkEvent C) s with
        | .error e => some (.error e)
        | .ok s' => if events.length < auditPage then some (.ok s') else verifyPages rows tenantId fuel s'

/-- `verify_audit_chain`: every page but the last moves past a thousand rows of the tenant, so the
loop ends. -/
def verifyAuditChain (rows : List AuditRow) (tenantId : String) :
    Option (Except ControlPlaneError (Nat × Digest)) :=
  verifyPages C rows tenantId ((auditTrail rows tenantId).length + 1) (0, genesisDigest)

end

/-- The `CHECK` and the primary key of `control_audit_events`. -/
structure AuditConstraints (rows : List AuditRow) : Prop where
  positive : ∀ r ∈ rows, 1 ≤ r.body.sequence
  key : (rows.map fun r => (r.body.tenantId, r.body.sequence)).Nodup

/-! ## Pages -/

section

variable {J : Type} {C : AuditCodec J} {rows : List AuditRow} {tenantId : String}

/-- A row that passes `_audit`. -/
structure ValidRow (C : AuditCodec J) (r : AuditRow) : Prop where
  details : C.sha256 r.detailsBytes = r.body.detailsDigest
  event : C.sha256 r.eventBytes = r.eventDigest
  bytes : C.canonical (.event r.body) = r.eventBytes

theorem readAudit_eq_ok {r r' : AuditRow} : readAudit C r = .ok r' ↔ ValidRow C r ∧ r = r' := by
  simp only [readAudit, bind_eq_ok, require_eq_ok, pure_eq_ok, exists_const]
  constructor
  · rintro ⟨h₁, h₂, h₃, h₄⟩
    exact ⟨⟨h₁, h₂, h₃⟩, h₄⟩
  · rintro ⟨⟨h₁, h₂, h₃⟩, h₄⟩
    exact ⟨h₁, h₂, h₃, h₄⟩

variable {l : List AuditRow} {s : Nat × Digest} {k : Nat}

theorem mapM_readAudit {l' : List AuditRow} :
    l.mapM (readAudit C) = .ok l' ↔ (∀ r ∈ l, ValidRow C r) ∧ l = l' := by
  induction l generalizing l' with
  | nil =>
    rw [List.mapM_nil, pure_eq_ok]
    exact ⟨fun h => ⟨fun _ hr => absurd hr List.not_mem_nil, h⟩, fun h => h.2⟩
  | cons r l ih =>
    simp only [List.mapM_cons, bind_eq_ok, readAudit_eq_ok, ih, pure_eq_ok]
    constructor
    · intro h
      obtain ⟨x, ⟨hr, rfl⟩, xs, ⟨hl, rfl⟩, rfl⟩ := h
      refine ⟨?_, rfl⟩
      intro y hy
      rcases List.mem_cons.mp hy with rfl | hy
      · exact hr
      · exact hl y hy
    · intro h
      obtain ⟨hall, rfl⟩ := h
      exact ⟨r, ⟨hall r (List.mem_cons_self ..), rfl⟩, l,
        ⟨fun y hy => hall y (List.mem_cons_of_mem _ hy), rfl⟩, rfl⟩

theorem trail_sorted (rows : List AuditRow) (p : AuditRow → Bool) :
    ((rows.filter p).mergeSort fun a b => decide (a.body.sequence ≤ b.body.sequence)).Pairwise
      fun a b => a.body.sequence ≤ b.body.sequence := by
  have hsorted : ((rows.filter p).mergeSort
      fun a b => decide (a.body.sequence ≤ b.body.sequence)).Pairwise
      fun a b => decide (a.body.sequence ≤ b.body.sequence) = true := by
    apply List.pairwise_mergeSort
    · intro a b c hab hbc
      exact decide_eq_true (Nat.le_trans (of_decide_eq_true hab) (of_decide_eq_true hbc))
    · intro a b
      rw [Bool.or_eq_true, decide_eq_true_eq, decide_eq_true_eq]
      exact Nat.le_total _ _
  exact hsorted.imp fun hab => of_decide_eq_true hab

theorem mem_auditTrail {r : AuditRow} :
    r ∈ auditTrail rows tenantId ↔ r ∈ rows ∧ r.body.tenantId = tenantId := by
  unfold auditTrail
  rw [List.mem_mergeSort, List.mem_filter, decide_eq_true_eq]

/-- By the primary key, the rows of a tenant have different sequences. -/
theorem trail_key (hrows : AuditConstraints rows) {a b : AuditRow}
    (ha : a ∈ auditTrail rows tenantId) (hb : b ∈ auditTrail rows tenantId)
    (h : a.body.sequence = b.body.sequence) : a = b := by
  obtain ⟨ha, hta⟩ := mem_auditTrail.mp ha
  obtain ⟨hb, htb⟩ := mem_auditTrail.mp hb
  refine List.inj_on_of_nodup_map hrows.key ha hb ?_
  rw [hta, htb, h]

theorem trail_increasing (hrows : AuditConstraints rows) :
    (auditTrail rows tenantId).Pairwise fun a b => a.body.sequence < b.body.sequence := by
  have hnodup : (auditTrail rows tenantId).Nodup :=
    (List.mergeSort_perm _ _).nodup_iff.mpr
      ((List.Nodup.of_map _ hrows.key).sublist List.filter_sublist)
  refine (List.Pairwise.and (trail_sorted rows _) hnodup).imp_of_mem ?_
  intro a b ha hb hab
  exact Nat.lt_of_le_of_ne hab.1 fun heq => hab.2 (trail_key hrows ha hb heq)

/-- The rows after a sequence are the trail from there on. -/
theorem auditAfter_eq (hrows : AuditConstraints rows) (k : Nat) :
    auditAfter rows tenantId k
      = (auditTrail rows tenantId).filter fun r => decide (k < r.body.sequence) := by
  have hperm : (auditAfter rows tenantId k).Perm
      ((auditTrail rows tenantId).filter fun r => decide (k < r.body.sequence)) := by
    refine (List.mergeSort_perm _ _).trans ?_
    refine List.Perm.trans ?_ ((List.mergeSort_perm _ _).filter _).symm
    rw [List.filter_filter]
    refine List.Perm.of_eq (List.filter_congr fun r _ => ?_)
    rw [Bool.decide_and, Bool.and_comm]
  have hincreasing : ((auditTrail rows tenantId).filter
      fun r => decide (k < r.body.sequence)).Pairwise
      fun a b => a.body.sequence < b.body.sequence := (trail_increasing hrows).filter _
  refine hperm.eq_of_pairwise ?_ (trail_sorted rows _) (hincreasing.imp Nat.le_of_lt)
  intro a b ha hb hab hba
  exact trail_key hrows (List.mem_of_mem_filter (hperm.mem_iff.mp ha)) (List.mem_of_mem_filter hb)
    (Nat.le_antisymm hab hba)

/-- The details of a row parse, and print back to the same bytes. -/
def Reencodes (C : AuditCodec J) (bytes : AuditBytes) : Prop :=
  ∃ v, C.strictJsonLoads bytes = some v ∧ C.canonicalJson v = some bytes

theorem checkEvent_eq_ok {s' : Nat × Digest} {e : AuditRow} :
    checkEvent C s e = .ok s' ↔ e.body.sequence = s.1 + 1 ∧ e.body.previousEventDigest = s.2
      ∧ C.sha256 e.eventBytes = e.eventDigest ∧ Reencodes C e.detailsBytes
      ∧ s' = (s.1 + 1, e.eventDigest) := by
  simp only [checkEvent, bind_eq_ok, require_eq_ok, expect_eq_ok, pure_eq_ok, exists_const]
  constructor
  · intro h
    obtain ⟨⟨hseq, hprev, hsha⟩, v, hv, bytes, hbytes, rfl, rfl⟩ := h
    exact ⟨hseq, hprev, hsha, ⟨v, hv, hbytes⟩, rfl⟩
  · intro h
    obtain ⟨hseq, hprev, hsha, ⟨v, hv, hbytes⟩, rfl⟩ := h
    exact ⟨⟨hseq, hprev, hsha⟩, v, hv, e.detailsBytes, hbytes, rfl, rfl⟩

/-- Following the chain. -/
abbrev AuditLinked (k : Nat) (p : Digest) (l : List AuditRow) : Prop :=
  Linked (fun r : AuditRow => r.body.sequence) (fun r => r.body.previousEventDigest)
    (fun r => r.eventDigest) k p l

abbrev auditHead (p : Digest) (l : List AuditRow) : Digest :=
  lastDigest (fun r : AuditRow => r.eventDigest) p l

theorem fold_eq_ok {p : Digest} :
    l.foldlM (checkEvent C) (k, p) = .ok s ↔ AuditLinked k p l
      ∧ (∀ r ∈ l, C.sha256 r.eventBytes = r.eventDigest ∧ Reencodes C r.detailsBytes)
      ∧ s = (k + l.length, auditHead p l) := by
  induction l generalizing k p with
  | nil =>
    rw [List.foldlM_nil, pure_eq_ok]
    constructor
    · intro h
      exact ⟨trivial, fun _ hr => absurd hr List.not_mem_nil, h.symm⟩
    · intro h
      exact h.2.2.symm
  | cons r l ih =>
    have hlength : k + (r :: l).length = k + 1 + l.length := by
      rw [List.length_cons]
      omega
    rw [List.foldlM_cons, bind_eq_ok, auditHead, lastDigest_cons, hlength]
    constructor
    · intro h
      obtain ⟨s₁, hcheck, hrest⟩ := h
      obtain ⟨hseq, hprev, hsha, hdetails, rfl⟩ := checkEvent_eq_ok.mp hcheck
      obtain ⟨hlinked, hall, rfl⟩ := ih.mp hrest
      refine ⟨⟨hseq, hprev, hlinked⟩, ?_, rfl⟩
      intro x hx
      rcases List.mem_cons.mp hx with rfl | hx
      · exact ⟨hsha, hdetails⟩
      · exact hall x hx
    · intro h
      obtain ⟨⟨hseq, hprev, hlinked⟩, hall, rfl⟩ := h
      obtain ⟨hsha, hdetails⟩ := hall r (List.mem_cons_self ..)
      exact ⟨_, checkEvent_eq_ok.mpr ⟨hseq, hprev, hsha, hdetails, rfl⟩,
        ih.mpr ⟨hlinked, fun x hx => hall x (List.mem_cons_of_mem _ hx), rfl⟩⟩

/-- The rows after the first page are those after its last sequence. -/
theorem rest_after {page : List AuditRow}
    (hl : l.Pairwise fun a b => a.body.sequence < b.body.sequence)
    (hsplit : (l.filter fun r => decide (k < r.body.sequence)) = page ++ rows)
    (hnumbers : page.map (fun r => r.body.sequence) = List.range' (k + 1) page.length)
    (hpage : page ≠ []) :
    (l.filter fun r => decide (k + page.length < r.body.sequence)) = rows := by
  have hinto : ∀ r ∈ page, r.body.sequence ≤ k + page.length := by
    intro r hr
    have hmem : r.body.sequence ∈ List.range' (k + 1) page.length :=
      hnumbers ▸ List.mem_map_of_mem hr
    have := (List.mem_range'_1.mp hmem).2
    omega
  have hsorted : (page ++ rows).Pairwise fun a b => a.body.sequence < b.body.sequence :=
    hsplit ▸ hl.filter _
  have hlast : ∃ r ∈ page, r.body.sequence = k + page.length := by
    have hpos : 0 < page.length := List.length_pos_of_ne_nil hpage
    have hmem : k + page.length ∈ page.map fun r => r.body.sequence := by
      rw [hnumbers, List.mem_range'_1]
      omega
    exact List.mem_map.mp hmem
  obtain ⟨last, hlast, hseq⟩ := hlast
  have hbeyond : ∀ r ∈ rows, k + page.length < r.body.sequence := by
    intro r hr
    have := (List.pairwise_append.mp hsorted).2.2 last hlast r hr
    omega
  have htwice : (l.filter fun r => decide (k + page.length < r.body.sequence))
      = (page ++ rows).filter fun r => decide (k + page.length < r.body.sequence) := by
    rw [← hsplit, List.filter_filter]
    apply List.filter_congr
    intro r _
    by_cases h : k + page.length < r.body.sequence
    · simp only [h, decide_true, Bool.true_and]
      exact (decide_eq_true (by omega)).symm
    · simp only [h, decide_false, Bool.false_and]
  rw [htwice, List.filter_append, List.filter_eq_nil_iff.mpr, List.nil_append,
    List.filter_eq_self.mpr]
  · intro r hr
    exact decide_eq_true (hbeyond r hr)
  · intro r hr
    have := hinto r hr
    rw [decide_eq_true_eq]
    omega

/-- **Paging does not matter.** With enough rounds, the loop succeeds exactly when the rows that
are left are valid and continue the chain. -/
theorem verifyPages_eq_ok (hrows : AuditConstraints rows) {fuel : Nat} {p : Digest}
    (hfuel : (auditAfter rows tenantId k).length < fuel) :
    verifyPages C rows tenantId fuel (k, p) = some (.ok s) ↔
      (∀ r ∈ auditAfter rows tenantId k, ValidRow C r)
      ∧ (auditAfter rows tenantId k).foldlM (checkEvent C) (k, p) = .ok s := by
  induction fuel generalizing k p with
  | zero => exact absurd hfuel (Nat.not_lt_zero _)
  | succ fuel ih =>
    have hlimit : 1 ≤ auditPage ∧ auditPage ≤ 10000 := by decide
    rw [verifyPages]
    simp only [auditEvents, require_pos hlimit, ok_bind]
    -- the page, and what is left after it
    obtain ⟨rest, hrest⟩ : ∃ rest, rest = auditAfter rows tenantId k := ⟨_, rfl⟩
    rw [← hrest] at hfuel ⊢
    cases hread : (rest.take auditPage).mapM (readAudit C) with
    | error e =>
      simp only [Option.some.injEq, reduceCtorEq, false_iff]
      intro h
      have hvalid := mapM_readAudit.mpr
        ⟨fun r hr => h.1 r (List.mem_of_mem_take hr), (rfl : rest.take auditPage = _)⟩
      rw [hread] at hvalid
      cases hvalid
    | ok page =>
      obtain ⟨hvalid, rfl⟩ := mapM_readAudit.mp hread
      dsimp only
      by_cases hempty : (rest.take auditPage).isEmpty = true
      · rw [if_pos hempty]
        have hnil : rest = [] := by
          rcases List.take_eq_nil_iff.mp (List.isEmpty_iff.mp hempty) with h | h
          · exact absurd h (by decide)
          · exact h
        rw [hnil, List.foldlM_nil, pure_eq_ok]
        simp
      · rw [if_neg hempty]
        have hsplit : rest = rest.take auditPage ++ rest.drop auditPage :=
          (List.take_append_drop _ _).symm
        cases hfold : (rest.take auditPage).foldlM (checkEvent C) (k, p) with
        | error e =>
          simp only [Option.some.injEq, reduceCtorEq, false_iff]
          intro h
          rw [hsplit, List.foldlM_append, hfold, error_bind] at h
          cases h.2
        | ok s₁ =>
          obtain ⟨hlinked, -, hs₁⟩ := fold_eq_ok.mp hfold
          dsimp only
          by_cases hshort : (rest.take auditPage).length < auditPage
          · rw [if_pos hshort]
            have hall : rest.take auditPage = rest := by
              rw [List.length_take] at hshort
              exact List.take_of_length_le (by omega)
            rw [hall] at hvalid hfold
            rw [hfold]
            simp only [Option.some.injEq, Except.ok.injEq]
            exact ⟨fun h => ⟨hvalid, h⟩, fun h => h.2⟩
          · rw [if_neg hshort]
            have hlength : (rest.take auditPage).length = auditPage := by
              have := List.length_take_le auditPage rest
              omega
            have hpage : rest.take auditPage ≠ [] := fun h => hempty (List.isEmpty_iff.mpr h)
            have hafter : auditAfter rows tenantId (k + (rest.take auditPage).length)
                = rest.drop auditPage := by
              rw [auditAfter_eq hrows]
              refine rest_after (trail_increasing hrows) ?_ hlinked.numbers hpage
              rw [← auditAfter_eq hrows, ← hrest]
              exact hsplit
            have hless : (auditAfter rows tenantId (k + (rest.take auditPage).length)).length
                < fuel := by
              rw [hafter, List.length_drop]
              have hpos : 0 < auditPage := by decide
              have := List.length_take_le auditPage rest
              have := List.length_take (i := auditPage) (l := rest)
              omega
            rw [hs₁, ih hless, hafter]
            constructor
            · intro h
              refine ⟨?_, ?_⟩
              · intro r hr
                rw [hsplit] at hr
                rcases List.mem_append.mp hr with hr | hr
                · exact hvalid r hr
                · exact h.1 r hr
              · rw [hsplit, List.foldlM_append, hfold, ok_bind, hs₁]
                exact h.2
            · intro h
              refine ⟨fun r hr => h.1 r (List.mem_of_mem_drop hr), ?_⟩
              have hwhole := h.2
              rw [hsplit, List.foldlM_append, hfold, ok_bind, hs₁] at hwhole
              exact hwhole

/-- What a successful verification has checked. -/
theorem verifyAuditChain_eq_ok (hrows : AuditConstraints rows) {n : Nat} {head : Digest} :
    verifyAuditChain C rows tenantId = some (.ok (n, head)) ↔
      (∀ r ∈ auditTrail rows tenantId, ValidRow C r ∧ Reencodes C r.detailsBytes)
      ∧ AuditLinked 0 genesisDigest (auditTrail rows tenantId)
      ∧ n = (auditTrail rows tenantId).length
      ∧ head = auditHead genesisDigest (auditTrail rows tenantId) := by
  have hall : auditAfter rows tenantId 0 = auditTrail rows tenantId := by
    rw [auditAfter_eq hrows]
    refine List.filter_eq_self.mpr fun r hr => ?_
    exact decide_eq_true (hrows.positive r (mem_auditTrail.mp hr).1)
  have hfuel : (auditAfter rows tenantId 0).length < (auditTrail rows tenantId).length + 1 := by
    rw [hall]
    exact Nat.lt_succ_self _
  unfold verifyAuditChain
  rw [verifyPages_eq_ok hrows hfuel, hall, fold_eq_ok, Nat.zero_add, Prod.mk.injEq]
  constructor
  · intro h
    obtain ⟨hvalid, hlinked, hchecked, hn, hhead⟩ := h
    exact ⟨fun r hr => ⟨hvalid r hr, (hchecked r hr).2⟩, hlinked, hn, hhead⟩
  · intro h
    obtain ⟨hvalid, hlinked, hn, hhead⟩ := h
    exact ⟨fun r hr => (hvalid r hr).1, hlinked,
      fun r hr => ⟨(hvalid r hr).1.event, (hvalid r hr).2⟩, hn, hhead⟩

end

/-! ## Reachable tables -/

section

variable {sha : Document → Digest}

/-- The events of a tenant, in the order of their insertion. -/
def tenantEvents (audit : List AuditEvent) (tenantId : String) : List AuditEvent :=
  audit.filter fun e => decide (e.body.tenantId = tenantId)

structure Chained (sha : Document → Digest) (audit : List AuditEvent) : Prop where
  linked : ∀ tenantId, Linked (fun e : AuditEvent => e.body.sequence)
    (fun e => e.body.previousEventDigest) (fun e => e.eventDigest) 0 genesisDigest
    (tenantEvents audit tenantId)
  digests : ∀ e ∈ audit, e.eventDigest = sha (.event e.body)
    ∧ e.body.detailsDigest = sha (.details e.detailsBytes)
  key : (audit.map fun e => (e.body.tenantId, e.body.sequence)).Nodup

theorem chained_nil : Chained sha [] :=
  ⟨fun _ => trivial, fun _ h => absurd h List.not_mem_nil, List.nodup_nil⟩

variable {audit : List AuditEvent}

theorem Chained.increasing (h : Chained sha audit) (tenantId : String) :
    (tenantEvents audit tenantId).Pairwise fun a b => a.body.sequence < b.body.sequence := by
  have hnumbers := (h.linked tenantId).numbers
  have hrange : ((tenantEvents audit tenantId).map fun e => e.body.sequence).Pairwise (· < ·) := by
    rw [hnumbers]
    exact List.pairwise_lt_range'
  exact List.pairwise_map.mp hrange

theorem Chained.lastEvent (h : Chained sha audit) (tenantId : String) :
    lastEvent audit tenantId = (tenantEvents audit tenantId).getLast? := by
  apply firstBy_eq_getLast?
  refine (h.increasing tenantId).imp fun {a b} hlt => ?_
  exact decide_eq_false (Nat.not_le_of_lt hlt)

/-- The sequences of a tenant run from 1 to the number of its events. -/
theorem Chained.bounded (h : Chained sha audit) {e : AuditEvent} (he : e ∈ audit) :
    1 ≤ e.body.sequence ∧ e.body.sequence ≤ (tenantEvents audit e.body.tenantId).length := by
  have hmem : e.body.sequence
      ∈ (tenantEvents audit e.body.tenantId).map fun x => x.body.sequence :=
    List.mem_map_of_mem (List.mem_filter.mpr ⟨he, decide_eq_true rfl⟩)
  rw [(h.linked e.body.tenantId).numbers, List.mem_range'_1] at hmem
  omega

theorem tenantEvents_append {e : AuditEvent} {tenantId : String} :
    tenantEvents (audit ++ [e]) tenantId
      = tenantEvents audit tenantId ++ if e.body.tenantId = tenantId then [e] else [] := by
  unfold tenantEvents
  rw [List.filter_append]
  by_cases h : e.body.tenantId = tenantId
  · rw [if_pos h, List.filter_cons_of_pos (by simpa using h), List.filter_nil]
  · rw [if_neg h, List.filter_cons_of_neg (by simpa using h), List.filter_nil]

/-- What the next event of a tenant takes from the last one. -/
theorem Chained.next (h : Chained sha audit) (tenantId subject : String)
    (session : Digest) (action : AuditAction) (objectId : Digest) (t : Time)
    (details : AuditDetails) :
    (auditEvent sha audit tenantId subject session action objectId t details).body.sequence
        = (tenantEvents audit tenantId).length + 1
      ∧ (auditEvent sha audit tenantId subject session action objectId t details).body.previousEventDigest
        = lastDigest (fun e : AuditEvent => e.eventDigest) genesisDigest
          (tenantEvents audit tenantId) := by
  have hnumbers := (h.linked tenantId).numbers
  simp only [auditEvent, h.lastEvent tenantId, lastDigest]
  rcases List.eq_nil_or_concat (tenantEvents audit tenantId) with hnil | ⟨pre, e, hconcat⟩
  · rw [hnil]
    exact ⟨rfl, rfl⟩
  · rw [List.concat_eq_append] at hconcat
    rw [hconcat] at hnumbers ⊢
    rw [List.getLast?_concat]
    refine ⟨?_, rfl⟩
    rw [List.map_append, List.length_append, List.length_singleton, List.range'_concat] at hnumbers
    have hlast := (List.append_inj' hnumbers rfl).2
    rw [List.map_singleton] at hlast
    have hseq := (List.cons.inj hlast).1
    rw [List.length_append, List.length_singleton]
    show e.body.sequence + 1 = _
    omega

/-- **The store continues the chain.** -/
theorem Chained.append (h : Chained sha audit)
    (tenantId subject : String) (session : Digest) (action : AuditAction) (objectId : Digest)
    (t : Time) (details : AuditDetails) :
    Chained sha
      (audit ++ [auditEvent sha audit tenantId subject session action objectId t details]) := by
  obtain ⟨hsequence, hprevious⟩ := h.next tenantId subject session action objectId t details
  refine ⟨?_, ?_, ?_⟩
  · intro other
    rw [tenantEvents_append]
    split
    next heq =>
      have heq : tenantId = other := heq
      rw [← heq, linked_append, Nat.zero_add]
      exact ⟨h.linked tenantId, hsequence, hprevious, trivial⟩
    next =>
      rw [List.append_nil]
      exact h.linked other
  · intro e he
    rcases List.mem_append.mp he with he | he
    · exact h.digests e he
    · rw [List.mem_singleton.mp he]
      exact ⟨rfl, rfl⟩
  · refine append_keys h.key fun e he heq => ?_
    obtain ⟨ht, hs⟩ := Prod.mk.inj heq
    have hle := (h.bounded he).2
    have ht : e.body.tenantId = tenantId := ht
    rw [ht] at hle
    rw [hsequence] at hs
    omega

theorem commit_chained {st st' : Store} {c : StoreCall} {ans : c.Answer}
    (hst : Chained sha st.audit) (h : c.run sha st = .ok (st', ans)) : Chained sha st'.audit := by
  rcases commit_audit h with heq | ⟨tenantId, subject, session, action, oid, t, details, heq⟩
  · rw [heq]
    exact hst
  · rw [heq]
    exact hst.append tenantId subject session action oid t details

theorem execute_chained (sha : Document → Digest) (calls : List StoreCall) :
    Chained sha (execute sha calls World.init).store.audit :=
  execute_keeps (P := fun st => Chained sha st.audit) (fun hst hrun => commit_chained hst hrun)
    calls (w := World.init) chained_nil

end

section

variable {J : Type} {C : AuditCodec J}

variable {audit : List AuditEvent}

theorem Chained.constraints (h : Chained C.sha audit) :
    AuditConstraints (audit.map (·.row C)) := by
  refine ⟨?_, ?_⟩
  · intro r hr
    obtain ⟨e, he, rfl⟩ := List.mem_map.mp hr
    exact (h.bounded he).1
  · rw [List.map_map]
    exact h.key

theorem Chained.trail (h : Chained C.sha audit) (tenantId : String) :
    auditTrail (audit.map (·.row C)) tenantId = (tenantEvents audit tenantId).map (·.row C) := by
  unfold auditTrail
  rw [List.filter_map]
  apply List.mergeSort_of_pairwise
  rw [List.pairwise_map]
  exact (h.increasing tenantId).imp fun hlt => decide_eq_true (Nat.le_of_lt hlt)

/-- A table that the store wrote verifies. -/
theorem Chained.verifies (h : Chained C.sha audit)
    (hdetails : ∀ d, Reencodes C (C.canonical (.details d))) (tenantId : String) :
    verifyAuditChain C (audit.map (·.row C)) tenantId
      = some (.ok ((tenantEvents audit tenantId).length,
        lastDigest (fun e : AuditEvent => e.eventDigest) genesisDigest
          (tenantEvents audit tenantId))) := by
  rw [verifyAuditChain_eq_ok h.constraints, h.trail]
  refine ⟨?_, ?_, (List.length_map _).symm, ?_⟩
  · intro r hr
    obtain ⟨e, he, rfl⟩ := List.mem_map.mp hr
    obtain ⟨hevent, hdigest⟩ := h.digests e (List.mem_of_mem_filter he)
    exact ⟨⟨hdigest.symm, hevent.symm, rfl⟩, hdetails e.detailsBytes⟩
  · exact linked_map.mpr (h.linked tenantId)
  · rw [auditHead, lastDigest_map]
    rfl

/-! ## Tampering -/

/-- SHA-256 and canonical JSON tell the byte strings and the bodies of these rows apart; the
genesis digest stands for no event, and no event hashes to it. -/
structure CollisionFree (C : AuditCodec J) (rows rows' : List AuditRow) : Prop where
  event : ∀ r ∈ rows, ∀ r' ∈ rows', C.sha256 r.eventBytes = C.sha256 r'.eventBytes →
    r.eventBytes = r'.eventBytes
  details : ∀ r ∈ rows, ∀ r' ∈ rows', C.sha256 r.detailsBytes = C.sha256 r'.detailsBytes →
    r.detailsBytes = r'.detailsBytes
  canonical : ∀ r ∈ rows, ∀ r' ∈ rows',
    C.canonical (.event r.body) = C.canonical (.event r'.body) → r.body = r'.body
  genesis : ∀ r ∈ rows ++ rows', C.sha256 r.eventBytes ≠ genesisDigest

/-- Two valid rows with one digest are one row. -/
theorem ValidRow.unique {r r' : AuditRow} (hr : ValidRow C r) (hr' : ValidRow C r')
    (hdigest : r.eventDigest = r'.eventDigest)
    (hevent : C.sha256 r.eventBytes = C.sha256 r'.eventBytes → r.eventBytes = r'.eventBytes)
    (hdetails : C.sha256 r.detailsBytes = C.sha256 r'.detailsBytes →
      r.detailsBytes = r'.detailsBytes)
    (hcanonical : C.canonical (.event r.body) = C.canonical (.event r'.body) → r.body = r'.body) :
    r = r' := by
  have hbytes : r.eventBytes = r'.eventBytes :=
    hevent (hr.event.trans (hdigest.trans hr'.event.symm))
  have hbody : r.body = r'.body := hcanonical (hr.bytes.trans (hbytes.trans hr'.bytes.symm))
  have hpayload : r.detailsBytes = r'.detailsBytes := by
    apply hdetails
    rw [hr.details, hr'.details, hbody]
  cases r
  cases r'
  simp only [AuditRow.mk.injEq]
  exact ⟨hbody, hdigest, hpayload, hbytes⟩

/-- One head, one trail. -/
theorem trail_unique {rows rows' : List AuditRow} {tenantId : String} {n n' : Nat} {head : Digest}
    (hrows : AuditConstraints rows) (hrows' : AuditConstraints rows')
    (hfree : CollisionFree C (auditTrail rows tenantId) (auditTrail rows' tenantId))
    (h : verifyAuditChain C rows tenantId = some (.ok (n, head)))
    (h' : verifyAuditChain C rows' tenantId = some (.ok (n', head))) :
    auditTrail rows tenantId = auditTrail rows' tenantId := by
  obtain ⟨hvalid, hlinked, -, hhead⟩ := (verifyAuditChain_eq_ok hrows).mp h
  obtain ⟨hvalid', hlinked', -, hhead'⟩ := (verifyAuditChain_eq_ok hrows').mp h'
  refine hlinked.unique hlinked' (hhead.symm.trans hhead') ?_ ?_
  · intro r hr r' hr' hdigest
    exact (hvalid r hr).1.unique (hvalid' r' hr').1 hdigest (hfree.event r hr r' hr')
      (hfree.details r hr r' hr') (hfree.canonical r hr r' hr')
  · intro r hr heq
    have hr₁ : ValidRow C r := by
      rcases List.mem_append.mp hr with hmem | hmem
      · exact (hvalid r hmem).1
      · exact (hvalid' r hmem).1
    exact hfree.genesis r hr (hr₁.event.trans heq)

/-- **The audit chain.** Whatever store calls were made, verification returns the number of a
tenant's events and the digest of the last one; and two tables on which it returns one head have
the same rows for the tenant, field by field. -/
theorem audit_chain_verification (C : AuditCodec J)
    (hdetails : ∀ d, Reencodes C (C.canonical (.details d))) :
    (∀ (calls : List StoreCall) (tenantId : String),
      verifyAuditChain C ((execute C.sha calls World.init).store.audit.map (·.row C)) tenantId
        = some (.ok
          ((tenantEvents (execute C.sha calls World.init).store.audit tenantId).length,
            lastDigest (fun e : AuditEvent => e.eventDigest) genesisDigest
              (tenantEvents (execute C.sha calls World.init).store.audit tenantId))))
    ∧ ∀ (rows rows' : List AuditRow) (tenantId : String) (n n' : Nat) (head : Digest),
      AuditConstraints rows → AuditConstraints rows' →
      CollisionFree C (auditTrail rows tenantId) (auditTrail rows' tenantId) →
      verifyAuditChain C rows tenantId = some (.ok (n, head)) →
      verifyAuditChain C rows' tenantId = some (.ok (n', head)) →
      auditTrail rows tenantId = auditTrail rows' tenantId :=
  ⟨fun calls tenantId => (execute_chained C.sha calls).verifies hdetails tenantId,
    fun _ _ _ _ _ _ hrows hrows' hfree h h' => trail_unique hrows hrows' hfree h h'⟩

end

/-! One tenant drafts and submits a revision; in the longer run another tenant drafts one too. -/

/-- Bytes that tell the bodies of small runs apart, by tenant and position. -/
def exampleAuditCodec : AuditCodec AuditBytes where
  sha256 := fun bytes => BitVec.ofNat 256 (bytes.foldl (fun n b => 256 * n + b.toNat) 1)
  canonical
    | .event e => [if e.tenantId = "tenant-a" then 1 else 2, e.sequence.toUInt8]
    | .revision tenantId .. => [if tenantId = "tenant-a" then 3 else 4]
    | _ => [0]
  strictJsonLoads := some
  canonicalJson := some

def exampleAuditCalls : List StoreCall :=
  let alice := exampleActor "alice" [.editor]
  [.createDraft alice exampleConfiguration none 1000,
   .submit alice (exampleAuditCodec.sha256 [3]) 0 1001]

def exampleOtherCalls : List StoreCall :=
  let bob := { exampleActor "bob" [.editor] with tenantId := "tenant-b" }
  exampleAuditCalls ++
    [.createDraft bob { exampleConfiguration with tenantId := "tenant-b" } none 1002]

def exampleAudit (calls : List StoreCall) : List AuditEvent :=
  (execute exampleAuditCodec.sha calls World.init).store.audit

theorem example_collisionFree :
    CollisionFree exampleAuditCodec
      (auditTrail ((exampleAudit exampleAuditCalls).map (·.row exampleAuditCodec)) "tenant-a")
      (auditTrail ((exampleAudit exampleOtherCalls).map (·.row exampleAuditCodec)) "tenant-a") := by
  unfold exampleAudit
  rw [(execute_chained exampleAuditCodec.sha exampleAuditCalls).trail,
    (execute_chained exampleAuditCodec.sha exampleOtherCalls).trail]
  exact ⟨by decide, by decide, by decide, by decide⟩

theorem audit_chain_verification_example :
    (exampleAudit exampleAuditCalls).length = 2 ∧ (exampleAudit exampleOtherCalls).length = 3
      ∧ verifyAuditChain exampleAuditCodec
          ((exampleAudit exampleAuditCalls).map (·.row exampleAuditCodec)) "tenant-a"
        = some (.ok (2, exampleAuditCodec.sha256 [1, 2]))
      ∧ auditTrail ((exampleAudit exampleAuditCalls).map (·.row exampleAuditCodec)) "tenant-a"
        = auditTrail ((exampleAudit exampleOtherCalls).map (·.row exampleAuditCodec)) "tenant-a" := by
  obtain ⟨hruns, htables⟩ := audit_chain_verification exampleAuditCodec
    fun d => ⟨exampleAuditCodec.canonical (.details d), rfl, rfl⟩
  have hfirst : verifyAuditChain exampleAuditCodec
      ((exampleAudit exampleAuditCalls).map (·.row exampleAuditCodec)) "tenant-a"
      = some (.ok (2, exampleAuditCodec.sha256 [1, 2])) :=
    (hruns exampleAuditCalls "tenant-a").trans (by decide)
  have hsecond : verifyAuditChain exampleAuditCodec
      ((exampleAudit exampleOtherCalls).map (·.row exampleAuditCodec)) "tenant-a"
      = some (.ok (2, exampleAuditCodec.sha256 [1, 2])) :=
    (hruns exampleOtherCalls "tenant-a").trans (by decide)
  exact ⟨by decide, by decide, hfirst,
    htables _ _ "tenant-a" 2 2 _ (execute_chained _ exampleAuditCalls).constraints
      (execute_chained _ exampleOtherCalls).constraints example_collisionFree hfirst hsecond⟩

end ControlAssurance.ControlPlane
