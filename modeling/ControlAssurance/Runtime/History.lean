import ControlAssurance.Runtime.Catalog

/-!
# The deployment history is a chain

What `ensure_applied` can do, said once (`ensureApplied_ok`): either it finds
the operation in the history and at most raises its fence, or it appends one
row behind the control's latest one and points `current_deployed_controls` at
it. `HistoryInv` is the invariant of the three deployment tables that follows:
per control the rows are ordered the same way by sequence and by application
time, each names its immediate predecessor, and the current row is the last.
-/

namespace ControlAssurance.Runtime

open Lib ControlPlane

variable {sha : Document → Digest} {rsha : RuntimeDocument → Digest}

/-- Two rows of one control. -/
def SameControl (a b : DeploymentHistory) : Prop :=
  a.tenantId = b.tenantId ∧ a.controlId = b.controlId

theorem SameControl.symm {a b : DeploymentHistory} (h : SameControl a b) :
    SameControl b a := ⟨h.1.symm, h.2.symm⟩

theorem SameControl.trans {a b c : DeploymentHistory} (h : SameControl a b)
    (h' : SameControl b c) : SameControl a c := ⟨h.1.trans h'.1, h.2.trans h'.2⟩

/-! ## Reading rows -/

variable {c c' : Catalog} {controlId : String} {existing h : DeploymentHistory}
  {d : DeployedControl} {q : DeploymentApplyRequest} {ack : DeploymentTargetAcknowledgement}
  {t : Time}

variable {tenantId : String} {row : DeploymentHistory}

theorem mem_controlHistory :
    h ∈ c.controlHistory tenantId controlId ↔
      h ∈ c.history ∧ h.tenantId = tenantId ∧ h.controlId = controlId := by
  simp [Catalog.controlHistory]

/-- A row that was found by its operation is a row of the history. -/
theorem historyRow_some {oid : Digest} (hr : c.historyRow tenantId oid = some h) :
    h ∈ c.history ∧ h.tenantId = tenantId ∧ h.operationId = oid := by
  have hp := List.find?_some hr
  simp only [decide_eq_true_eq] at hp
  exact ⟨List.mem_of_find?_eq_some hr, hp.1, hp.2⟩

theorem fenceRow_some {oid : Digest} {f : DeploymentOperationFence}
    (hr : c.fenceRow oid = some f) : f ∈ c.fences ∧ f.operationId = oid := by
  have hp := List.find?_some hr
  simp only [decide_eq_true_eq] at hp
  exact ⟨List.mem_of_find?_eq_some hr, hp⟩

theorem currentRow_some (hr : c.currentRow tenantId controlId = some d) :
    d ∈ c.current ∧ d.tenantId = tenantId ∧ d.controlId = controlId := by
  have hp := List.find?_some hr
  simp only [decide_eq_true_eq] at hp
  exact ⟨List.mem_of_find?_eq_some hr, hp.1, hp.2⟩

/-- No row found is no row at all. -/
theorem currentRow_none (hr : c.currentRow tenantId controlId = none)
    (hd : d ∈ c.current) : ¬(d.tenantId = tenantId ∧ d.controlId = controlId) := by
  have hp := List.find?_eq_none.mp hr d hd
  simpa using hp

/-- The latest row of a control has its highest sequence. -/
theorem latestHistory_some
    {l : DeploymentHistory} (hl : c.latestHistory tenantId controlId = some l) :
    (l ∈ c.history ∧ l.tenantId = tenantId ∧ l.controlId = controlId) ∧
      ∀ x ∈ c.history, x.tenantId = tenantId → x.controlId = controlId →
        x.operationSequence ≤ l.operationSequence := by
  refine ⟨mem_controlHistory.mp (firstBy_mem hl), ?_⟩
  intro x hx ht hk
  have hle := firstBy_le
    (fun a b => by simpa using Nat.le_total b.operationSequence a.operationSequence)
    (fun a b d h₁ h₂ => by
      simp only [decide_eq_true_eq] at h₁ h₂ ⊢
      exact Nat.le_trans h₂ h₁) hl x
    (mem_controlHistory.mpr ⟨hx, ht, hk⟩)
  simpa using hle

theorem latestHistory_none (hl : c.latestHistory tenantId controlId = none) {x : DeploymentHistory}
    (hx : x ∈ c.history) : ¬(x.tenantId = tenantId ∧ x.controlId = controlId) := by
  intro hxc
  have hnil := firstBy_eq_none.mp hl
  have hmem := mem_controlHistory.mpr ⟨hx, hxc⟩
  rw [hnil] at hmem
  cases hmem

/-! ## What a committed application can do -/

/-- The operation was in the history already. -/
structure Reapplied (rsha : RuntimeDocument → Digest) (c : Catalog)
    (q : DeploymentApplyRequest) (existing : DeploymentHistory) (c' : Catalog)
    (ack : DeploymentTargetAcknowledgement) : Prop where
  mem : existing ∈ c.history
  operation : existing.operationId = q.operationId
  tenant : existing.tenantId = q.tenantId
  control : existing.controlId = q.controlId
  sequence : existing.operationSequence = q.operationSequence
  revision : existing.revisionId = q.revisionId
  digest : existing.configurationDigest = q.configurationDigest
  current : (c.currentRow q.tenantId q.controlId).map (·.operationId) = some q.operationId
  fence : ∃ f, c.fenceRow q.operationId = some f ∧ f.highestLeaseFenceSeen ≤ q.leaseFence
  fences : c'.fences = c.fences ∨ c'.fences = updateWhere
    (fun f => decide (f.tenantId = q.tenantId ∧ f.operationId = q.operationId))
    (fun f => { f with highestLeaseFenceSeen := q.leaseFence }) c.fences
  frame : c' = { c with fences := c'.fences }
  acknowledged : ack = ⟨q.operationId, q.leaseFence, q.configurationDigest,
    existing.receiptDigest⟩

/-- The operation was appended to the history. -/
structure Applied (sha : Document → Digest) (rsha : RuntimeDocument → Digest) (c : Catalog)
    (q : DeploymentApplyRequest) (timestamp : Time) (row : DeploymentHistory) (c' : Catalog)
    (ack : DeploymentTargetAcknowledgement) : Prop where
  row_eq : row = newHistory rsha q (c.currentRow q.tenantId q.controlId) timestamp
  configuration : q.configurationBytes.digest sha = q.configurationDigest
    ∧ q.configurationBytes.tenantId = q.tenantId
    ∧ q.configurationBytes.controlId = q.controlId
  current : ∀ d, c.currentRow q.tenantId q.controlId = some d →
    d.operationSequence < q.operationSequence
  chain : c.chainGuard row
  fresh : ∀ x ∈ c.history, x.operationId ≠ q.operationId
  freshFence : ∀ x ∈ c.fences, x.operationId ≠ q.operationId
  freshSequence : ∀ x ∈ c.history, ¬(x.tenantId = q.tenantId ∧ x.controlId = q.controlId
    ∧ x.operationSequence = q.operationSequence)
  history : c'.history = c.history ++ [row]
  fences : c'.fences
    = c.fences ++ [⟨q.operationId, q.tenantId, q.controlId, q.leaseFence⟩]
  moved : ∀ d, d ∈ c'.current ↔ d = row.deployed
    ∨ (d ∈ c.current ∧ ¬(d.tenantId = q.tenantId ∧ d.controlId = q.controlId))
  currentKeys : (c.current.map fun d => (d.tenantId, d.controlId)).Nodup →
    (c'.current.map fun d => (d.tenantId, d.controlId)).Nodup
  frame : c' = { c with
    history := c'.history, fences := c'.fences, current := c'.current }
  acknowledged : ack = ⟨q.operationId, q.leaseFence, q.configurationDigest,
    row.receiptDigest⟩

/-- An operation that was applied before leaves its row, and at most raises its fence. -/
theorem reapply_ok {fence : DeploymentOperationFence}
    (hh : c.historyRow q.tenantId q.operationId = some existing)
    (hf : c.fenceRow q.operationId = some fence)
    (h : reapply rsha c q existing fence (c.currentRow q.tenantId q.controlId)
      = .ok (c', ack)) : Reapplied rsha c q existing c' ack := by
  simp only [reapply, bind_eq_ok, require_eq_ok, pure_eq_ok, Prod.mk.injEq,
    exists_const] at h
  obtain ⟨⟨_, hcontrol, hseq, hrev, hdig, _⟩, hcur, hle, _, rfl, rfl⟩ := h
  obtain ⟨hmem, hten, hop⟩ := historyRow_some hh
  refine ⟨hmem, hop, hten, hcontrol, hseq, hrev, hdig, hcur, ⟨fence, hf, hle⟩, ?_, rfl, rfl⟩
  dsimp only
  split
  next => exact Or.inr rfl
  next => exact Or.inl rfl

/-- The pointer update, for a control that has at most one row. -/
theorem setCurrent_ok {current : Option DeployedControl}
    (hcur : c.currentRow h.tenantId h.controlId = current)
    (hset : setCurrent c current h = .ok c') : (∀ d, d ∈ c'.current ↔ d = h.deployed
      ∨ (d ∈ c.current ∧ ¬(d.tenantId = h.tenantId ∧ d.controlId = h.controlId)))
    ∧ ((c.current.map fun d => (d.tenantId, d.controlId)).Nodup →
      (c'.current.map fun d => (d.tenantId, d.controlId)).Nodup)
    ∧ c' = { c with current := c'.current } := by
  cases current with
  | none =>
    simp only [setCurrent, bind_eq_ok, require_eq_ok, pure_eq_ok, exists_const] at hset
    obtain ⟨hnew, rfl⟩ := hset
    refine ⟨?_, ?_, rfl⟩
    · intro d
      rw [List.mem_append, List.mem_singleton]
      constructor
      · rintro (hd | rfl)
        · exact Or.inr ⟨hd, hnew d hd⟩
        · exact Or.inl rfl
      · rintro (rfl | ⟨hd, _⟩)
        · exact Or.inr rfl
        · exact Or.inl hd
    · intro hnd
      refine append_keys hnd ?_
      intro x hx he
      exact hnew x hx (Prod.mk.inj he)
  | some d₀ =>
    simp only [setCurrent, bind_eq_ok, require_eq_ok, pure_eq_ok, exists_const] at hset
    obtain ⟨_, rfl⟩ := hset
    obtain ⟨hd₀, hten, hctl⟩ := currentRow_some hcur
    refine ⟨?_, ?_, rfl⟩
    · intro d
      rw [mem_updateWhere]
      constructor
      · rintro (⟨_, _, _, rfl⟩ | ⟨hd, hp⟩)
        · exact Or.inl rfl
        · exact Or.inr ⟨hd, by simpa using hp⟩
      · rintro (rfl | ⟨hd, hne⟩)
        · exact Or.inl ⟨d₀, hd₀, by simp [hten, hctl], rfl⟩
        · exact Or.inr ⟨hd, by simpa using hne⟩
    · -- the row keeps its key, so the keys are those before
      intro hnd
      show ((updateWhere _ _ c.current).map _).Nodup
      have hsame : (updateWhere
            (fun d => decide (d.tenantId = h.tenantId ∧ d.controlId = h.controlId))
            (fun _ => h.deployed) c.current).map (fun d => (d.tenantId, d.controlId))
          = c.current.map fun d => (d.tenantId, d.controlId) := by
        unfold updateWhere
        rw [List.map_map]
        apply List.map_congr_left
        intro d _
        show ((fun d : DeployedControl => (d.tenantId, d.controlId))
          (if decide (d.tenantId = h.tenantId ∧ d.controlId = h.controlId) = true
            then h.deployed else d)) = _
        split
        next hp =>
          simp only [decide_eq_true_eq] at hp
          exact (Prod.ext hp.1 hp.2).symm
        next => rfl
      rw [hsame]
      exact hnd

/-- `ensure_applied` finds the row of the operation, or inserts it. -/
theorem ensureApplied_ok (h : ensureApplied sha rsha c q t = .ok (c', ack)) :
    (∃ existing, Reapplied rsha c q existing c' ack)
      ∨ ∃ row, Applied sha rsha c q t row c' ack := by
  simp only [ensureApplied, bind_eq_ok, require_eq_ok, exists_const] at h
  obtain ⟨hcfg, _, h⟩ := h
  split at h
  next existing fence hh hf => exact Or.inl ⟨existing, reapply_ok hh hf h⟩
  next =>
    simp only [bind_eq_ok, require_eq_ok, insertHistory, insertFence, pure_eq_ok,
      Prod.mk.injEq, exists_const] at h
    obtain ⟨hcur, c₁, ⟨hchain, _, hfresh, _, hseq, rfl⟩, c₂, ⟨hfence, rfl⟩, c₃, hset, rfl,
      rfl⟩ := h
    obtain ⟨hmoved, hkeys, hframe⟩ := setCurrent_ok (by rfl) hset
    refine Or.inr ⟨_, ⟨rfl, hcfg, hcur, hchain, hfresh, hfence, hseq, ?_, ?_, hmoved, hkeys,
      ?_, rfl⟩⟩
    · rw [hframe]
    · rw [hframe]
    · rw [hframe]

/-! ## The invariant -/

/-- `h` names `p`, the row of its control directly before it. -/
structure Follows (c : Catalog) (h p : DeploymentHistory) : Prop where
  mem : p ∈ c.history
  control : SameControl p h
  before : p.operationSequence < h.operationSequence
  adjacent : ∀ x ∈ c.history, SameControl x h → x.operationSequence < h.operationSequence →
    x.operationSequence ≤ p.operationSequence
  operation : h.previousOperationId = some p.operationId
  receipt : h.previousReceiptDigest = some p.receiptDigest

/-- `h` is the first row of its control and names nothing. -/
structure First (c : Catalog) (h : DeploymentHistory) : Prop where
  least : ∀ x ∈ c.history, SameControl x h → h.operationSequence ≤ x.operationSequence
  operation : h.previousOperationId = none
  receipt : h.previousReceiptDigest = none

/-- The rows of a control are ordered by their sequences, each bounded by the next, and the
current row of a control is its last. -/
structure HistoryInv (sha : Document → Digest) (rsha : RuntimeDocument → Digest)
    (c : Catalog) : Prop where
  operationIds : (c.history.map (·.operationId)).Nodup
  sequences : ∀ a ∈ c.history, ∀ b ∈ c.history, SameControl a b →
    a.operationSequence = b.operationSequence → a = b
  ordered : ∀ a ∈ c.history, ∀ b ∈ c.history, SameControl a b →
    a.operationSequence < b.operationSequence → a.appliedAt < b.appliedAt
  chain : ∀ h ∈ c.history, First c h ∨ ∃ p, Follows c h p
  receipts : ∀ h ∈ c.history,
    h.receiptDigest = rsha (.receipt h.toRuntimeDeploymentReceipt)
  configurations : ∀ h ∈ c.history, h.configurationBytes.digest sha = h.configurationDigest
    ∧ h.configurationBytes.tenantId = h.tenantId
    ∧ h.configurationBytes.controlId = h.controlId
    ∧ h.configurationBytes.controlProfileId = h.controlProfileId
    ∧ h.configurationBytes.controlProfileDigest = h.controlProfileDigest
  currentKeys : (c.current.map fun d => (d.tenantId, d.controlId)).Nodup
  /-- a control is current at its last row, and every control with rows is -/
  current : ∀ d, d ∈ c.current ↔ ∃ h ∈ c.history, d = h.deployed ∧
    ∀ x ∈ c.history, SameControl x h → x.operationSequence ≤ h.operationSequence
  fenceIds : (c.fences.map (·.operationId)).Nodup
  fences : ∀ h ∈ c.history, ∃ f ∈ c.fences, f.operationId = h.operationId
    ∧ f.tenantId = h.tenantId ∧ h.leaseFenceAtCommit ≤ f.highestLeaseFenceSeen
  fenced : ∀ f ∈ c.fences, ∃ h ∈ c.history, h.operationId = f.operationId
    ∧ h.tenantId = f.tenantId

theorem historyInv_empty : HistoryInv sha rsha Catalog.empty := by
  refine ⟨List.nodup_nil, ?_, ?_, ?_, ?_, ?_, List.nodup_nil, ?_, List.nodup_nil, ?_, ?_⟩
  case refine_6 =>
    intro d
    constructor
    · intro hd
      cases hd
    · rintro ⟨h, hh, _⟩
      cases hh
  all_goals
    intro x hx
    cases hx

/-- A control has one current row. -/
theorem HistoryInv.currentRow_of_mem (hc : HistoryInv sha rsha c) (hd : d ∈ c.current) :
    c.currentRow d.tenantId d.controlId = some d := by
  cases hrow : c.currentRow d.tenantId d.controlId with
  | none => exact absurd ⟨rfl, rfl⟩ (currentRow_none hrow hd)
  | some e =>
    obtain ⟨he, hten, hctl⟩ := currentRow_some hrow
    have heq : e = d := List.inj_on_of_nodup_map hc.currentKeys he hd (Prod.ext hten hctl)
    rw [heq]

/-- The appended row comes after every row of its control. -/
theorem Applied.last (h : Applied sha rsha c q t row c' ack) :
    ∀ x ∈ c.history, SameControl x row → x.operationSequence < row.operationSequence
      ∧ ∃ l, c.latestHistory row.tenantId row.controlId = some l
        ∧ x.operationSequence ≤ l.operationSequence := by
  intro x hx hs
  have hchain := h.chain
  unfold Catalog.chainGuard at hchain
  cases hl : c.latestHistory row.tenantId row.controlId with
  | none => exact absurd hs (latestHistory_none hl hx)
  | some l =>
    rw [hl] at hchain
    obtain ⟨_, hmax⟩ := latestHistory_some hl
    have hle := hmax x hx hs.1 hs.2
    exact ⟨Nat.lt_of_le_of_lt hle hchain.2.2.1, l, rfl, hle⟩

/-- A new last row does not come between two earlier ones. -/
theorem follows_append {p : DeploymentHistory} (hhist : c'.history = c.history ++ [row])
    (hlast : SameControl row h → h.operationSequence < row.operationSequence)
    (hf : Follows c h p) : Follows c' h p := by
  refine ⟨?_, hf.control, hf.before, ?_, hf.operation, hf.receipt⟩
  · rw [hhist]
    exact List.mem_append_left _ hf.mem
  · intro x hx hs hlt
    rw [hhist, List.mem_append, List.mem_singleton] at hx
    rcases hx with hx | rfl
    · exact hf.adjacent x hx hs hlt
    · have := hlast hs
      omega

/-- The first row stays the first. -/
theorem first_append (hhist : c'.history = c.history ++ [row])
    (hlast : SameControl row h → h.operationSequence < row.operationSequence)
    (hf : First c h) : First c' h := by
  refine ⟨?_, hf.operation, hf.receipt⟩
  intro x hx hs
  rw [hhist, List.mem_append, List.mem_singleton] at hx
  rcases hx with hx | rfl
  · exact hf.least x hx hs
  · have := hlast hs
    omega

/-- Appending a row keeps the chain. -/
theorem applied_historyInv (hc : HistoryInv sha rsha c) (h : Applied sha rsha c q t row c' ack) :
    HistoryInv sha rsha c' := by
  have hrow : row.tenantId = q.tenantId ∧ row.controlId = q.controlId
      ∧ row.operationId = q.operationId ∧ row.operationSequence = q.operationSequence
      ∧ row.leaseFenceAtCommit = q.leaseFence := by
    rw [h.row_eq]
    exact ⟨rfl, rfl, rfl, rfl, rfl⟩
  obtain ⟨hten, hctl, hop, hseq, hfence⟩ := hrow
  have hlast := h.last
  have hmem : ∀ x, x ∈ c'.history ↔ x ∈ c.history ∨ x = row := by
    intro x
    rw [h.history, List.mem_append, List.mem_singleton]
  refine ⟨?_, ?_, ?_, ?_, ?_, ?_, h.currentKeys hc.currentKeys, ?_, ?_, ?_, ?_⟩
  · rw [h.history]
    exact append_keys hc.operationIds fun x hx => hop ▸ h.fresh x hx
  · intro a ha b hb hs heq
    rcases (hmem a).mp ha with ha | rfl <;> rcases (hmem b).mp hb with hb | rfl
    · exact hc.sequences a ha b hb hs heq
    · have := (hlast a ha hs).1
      omega
    · have := (hlast b hb hs.symm).1
      omega
    · rfl
  · intro a ha b hb hs hlt
    rcases (hmem a).mp ha with ha | rfl <;> rcases (hmem b).mp hb with hb | rfl
    · exact hc.ordered a ha b hb hs hlt
    · -- the predecessor's time is below the new row's by the trigger
      obtain ⟨_, l, hl, hle⟩ := hlast a ha hs
      have hchain := h.chain
      unfold Catalog.chainGuard at hchain
      rw [hl] at hchain
      obtain ⟨⟨hlm, hlt', hlk⟩, _⟩ := latestHistory_some hl
      have hal : SameControl a l := ⟨hs.1.trans hlt'.symm, hs.2.trans hlk.symm⟩
      rcases Nat.lt_or_eq_of_le hle with hlt₁ | heq₁
      · exact Int.lt_trans (hc.ordered a ha l hlm hal hlt₁) hchain.2.2.2
      · rw [hc.sequences a ha l hlm hal heq₁]
        exact hchain.2.2.2
    · have := (hlast b hb hs.symm).1
      omega
    · exact absurd hlt (Nat.lt_irrefl _)
  · intro x hx
    rcases (hmem x).mp hx with hx | rfl
    · have hlater : SameControl row x → x.operationSequence < row.operationSequence :=
        fun hs => (hlast x hx hs.symm).1
      rcases hc.chain x hx with hf | ⟨p, hf⟩
      · exact Or.inl (first_append h.history hlater hf)
      · exact Or.inr ⟨p, follows_append h.history hlater hf⟩
    · have hchain := h.chain
      unfold Catalog.chainGuard at hchain
      cases hl : c.latestHistory x.tenantId x.controlId with
      | none =>
        rw [hl] at hchain
        refine Or.inl ⟨?_, hchain.1, hchain.2⟩
        intro y hy hs
        rcases (hmem y).mp hy with hy | rfl
        · exact absurd hs (latestHistory_none hl hy)
        · exact Nat.le_refl _
      | some l =>
        rw [hl] at hchain
        obtain ⟨⟨hlm, hlt', hlk⟩, hmax⟩ := latestHistory_some hl
        refine Or.inr ⟨l, (hmem l).mpr (Or.inl hlm), ⟨hlt', hlk⟩, hchain.2.2.1, ?_,
          hchain.1, hchain.2.1⟩
        intro y hy hs hlt
        rcases (hmem y).mp hy with hy | rfl
        · exact hmax y hy hs.1 hs.2
        · exact absurd hlt (Nat.lt_irrefl _)
  · intro x hx
    rcases (hmem x).mp hx with hx | rfl
    · exact hc.receipts x hx
    · rw [h.row_eq]
      rfl
  · intro x hx
    rcases (hmem x).mp hx with hx | rfl
    · exact hc.configurations x hx
    · obtain ⟨h₁, h₂, h₃⟩ := h.configuration
      rw [h.row_eq]
      exact ⟨h₁, h₂, h₃, rfl, rfl⟩
  · intro d
    rw [h.moved]
    constructor
    · rintro (rfl | ⟨hd, hne⟩)
      · refine ⟨row, (hmem row).mpr (Or.inr rfl), rfl, ?_⟩
        intro x hx hs
        rcases (hmem x).mp hx with hx | rfl
        · exact Nat.le_of_lt (hlast x hx hs).1
        · exact Nat.le_refl _
      · obtain ⟨y, hy, rfl, hmax⟩ := (hc.current d).mp hd
        refine ⟨y, (hmem y).mpr (Or.inl hy), rfl, ?_⟩
        intro x hx hs
        rcases (hmem x).mp hx with hx | rfl
        · exact hmax x hx hs
        · exact absurd ⟨hs.1.symm.trans hten, hs.2.symm.trans hctl⟩ hne
    · rintro ⟨y, hy, rfl, hmax⟩
      rcases (hmem y).mp hy with hy | rfl
      · refine Or.inr ⟨(hc.current _).mpr ⟨y, hy, rfl, fun x hx hs =>
          hmax x ((hmem x).mpr (Or.inl hx)) hs⟩, ?_⟩
        intro hs
        -- a row of the same control is before the new one
        have hs' : SameControl y row := ⟨hs.1.trans hten.symm, hs.2.trans hctl.symm⟩
        have h₁ := (hlast y hy hs').1
        have h₂ := hmax row ((hmem row).mpr (Or.inr rfl)) hs'.symm
        omega
      · exact Or.inl rfl
  · rw [h.fences]
    exact append_keys hc.fenceIds h.freshFence
  · intro x hx
    rcases (hmem x).mp hx with hx | rfl
    · obtain ⟨f, hf, hfx⟩ := hc.fences x hx
      refine ⟨f, ?_, hfx⟩
      rw [h.fences]
      exact List.mem_append_left _ hf
    · refine ⟨⟨q.operationId, q.tenantId, q.controlId, q.leaseFence⟩, ?_, hop.symm,
        hten.symm, Nat.le_of_eq hfence⟩
      rw [h.fences]
      exact List.mem_append_right _ (List.mem_singleton_self _)
  · intro f hf
    rw [h.fences, List.mem_append, List.mem_singleton] at hf
    rcases hf with hf | rfl
    · obtain ⟨y, hy, hfy⟩ := hc.fenced f hf
      exact ⟨y, (hmem y).mpr (Or.inl hy), hfy⟩
    · exact ⟨row, (hmem row).mpr (Or.inr rfl), hop, hten⟩

/-- Every fence row is still there and has not gone back. -/
def FencesKept (c c' : Catalog) : Prop :=
  ∀ f ∈ c.fences, ∃ f' ∈ c'.fences, f'.operationId = f.operationId
    ∧ f'.tenantId = f.tenantId ∧ f.highestLeaseFenceSeen ≤ f'.highestLeaseFenceSeen

theorem FencesKept.refl (c : Catalog) : FencesKept c c :=
  fun f hf => ⟨f, hf, rfl, rfl, Nat.le_refl _⟩

theorem FencesKept.trans {c₁ c₂ c₃ : Catalog} (h₁ : FencesKept c₁ c₂)
    (h₂ : FencesKept c₂ c₃) : FencesKept c₁ c₃ := by
  intro f hf
  obtain ⟨g, hg, hop, hten, hle⟩ := h₁ f hf
  obtain ⟨k, hk, hop', hten', hle'⟩ := h₂ g hg
  exact ⟨k, hk, hop'.trans hop, hten'.trans hten, Nat.le_trans hle hle'⟩

/-- A fence that was raised again is still no lower. -/
theorem reapplied_fencesKept (hc : HistoryInv sha rsha c) (h : Reapplied rsha c q existing c' ack) :
    FencesKept c c' := by
  intro f hf
  rcases h.fences with hsame | hupd
  · exact ⟨f, hsame ▸ hf, rfl, rfl, Nat.le_refl _⟩
  · refine ⟨_, hupd ▸ exists_mem_updateWhere hf, ?_⟩
    split
    next hp =>
      simp only [decide_eq_true_eq] at hp
      obtain ⟨g, hg, hle⟩ := h.fence
      obtain ⟨hgm, hgo⟩ := fenceRow_some hg
      have heq : f = g := List.inj_on_of_nodup_map hc.fenceIds hf hgm (hp.2.trans hgo.symm)
      exact ⟨rfl, rfl, heq ▸ hle⟩
    next => exact ⟨rfl, rfl, Nat.le_refl _⟩

theorem reapplied_historyInv (hc : HistoryInv sha rsha c) (h : Reapplied rsha c q existing c' ack) :
    HistoryInv sha rsha c' := by
  have hkept := reapplied_fencesKept hc h
  have hids : c'.fences.map (·.operationId) = c.fences.map (·.operationId) := by
    rcases h.fences with hsame | hupd
    · rw [hsame]
    · rw [hupd]
      exact map_updateWhere fun _ => rfl
  have hback : ∀ f' ∈ c'.fences, ∃ f ∈ c.fences, f.operationId = f'.operationId
      ∧ f.tenantId = f'.tenantId := by
    intro f' hf'
    rcases h.fences with hsame | hupd
    · exact ⟨f', hsame ▸ hf', rfl, rfl⟩
    · rw [hupd] at hf'
      rcases mem_updateWhere.mp hf' with ⟨f, hf, _, rfl⟩ | ⟨hf, _⟩
      · exact ⟨f, hf, rfl, rfl⟩
      · exact ⟨f', hf, rfl, rfl⟩
  rw [h.frame]
  refine ⟨hc.operationIds, hc.sequences, hc.ordered, ?_, hc.receipts, hc.configurations,
    hc.currentKeys, hc.current, hids ▸ hc.fenceIds, ?_, ?_⟩
  · intro x hx
    rcases hc.chain x hx with hf | ⟨p, hf⟩
    · exact Or.inl ⟨hf.least, hf.operation, hf.receipt⟩
    · exact Or.inr ⟨p, hf.mem, hf.control, hf.before, hf.adjacent, hf.operation, hf.receipt⟩
  · intro x hx
    obtain ⟨f, hf, hop, hten, hle⟩ := hc.fences x hx
    obtain ⟨f', hf', hop', hten', hle'⟩ := hkept f hf
    exact ⟨f', hf', hop'.trans hop, hten'.trans hten, Nat.le_trans hle hle'⟩
  · intro f' hf'
    obtain ⟨f, hf, hop, hten⟩ := hback f' hf'
    obtain ⟨y, hy, hyo, hyt⟩ := hc.fenced f hf
    exact ⟨y, hy, hyo.trans hop, hyt.trans hten⟩

/-- **The history stays in order** through `ensure_applied`. -/
theorem ensureApplied_historyInv (hc : HistoryInv sha rsha c)
    (h : ensureApplied sha rsha c q t = .ok (c', ack)) : HistoryInv sha rsha c' := by
  rcases ensureApplied_ok h with ⟨existing, hre⟩ | ⟨row, happ⟩
  · exact reapplied_historyInv hc hre
  · exact applied_historyInv hc happ

/-- Fences are never lowered. -/
theorem ensureApplied_fencesKept (hc : HistoryInv sha rsha c)
    (h : ensureApplied sha rsha c q t = .ok (c', ack)) : FencesKept c c' := by
  rcases ensureApplied_ok h with ⟨existing, hre⟩ | ⟨row, happ⟩
  · exact reapplied_fencesKept hc hre
  · intro f hf
    refine ⟨f, ?_, rfl, rfl, Nat.le_refl _⟩
    rw [happ.fences]
    exact List.mem_append_left _ hf

/-- The other tables are not part of the invariant. -/
theorem HistoryInv.of_eq (hc : HistoryInv sha rsha c)
    (hh : c'.history = c.history) (hf : c'.fences = c.fences) (hd : c'.current = c.current) :
    HistoryInv sha rsha c' := by
  refine ⟨hh ▸ hc.operationIds, hh ▸ hc.sequences, hh ▸ hc.ordered, ?_, hh ▸ hc.receipts,
    hh ▸ hc.configurations, hd ▸ hc.currentKeys, ?_, hf ▸ hc.fenceIds, ?_, ?_⟩
  · intro x hx
    rcases hc.chain x (hh ▸ hx) with h | ⟨p, h⟩
    · exact Or.inl ⟨hh ▸ h.least, h.operation, h.receipt⟩
    · exact Or.inr ⟨p, hh ▸ h.mem, h.control, h.before, hh ▸ h.adjacent, h.operation,
        h.receipt⟩
  · rw [hh, hd]
    exact hc.current
  · rw [hh, hf]
    exact hc.fences
  · rw [hh, hf]
    exact hc.fenced

/-! ## Superseding times -/

theorem supersededAt_some {s : Time} (hs : c.supersededAt h = some s) :
    ∃ x ∈ c.history, SameControl x h ∧ h.operationSequence < x.operationSequence
      ∧ x.appliedAt = s ∧ ∀ y ∈ c.history, SameControl y h →
        h.operationSequence < y.operationSequence → x.operationSequence ≤ y.operationSequence := by
  unfold Catalog.supersededAt at hs
  obtain ⟨x, hx, rfl⟩ := Option.map_eq_some_iff.mp hs
  have hmem := firstBy_mem hx
  rw [List.mem_filter, mem_controlHistory, decide_eq_true_eq] at hmem
  refine ⟨x, hmem.1.1, hmem.1.2, hmem.2, rfl, ?_⟩
  intro y hy hyc hlt
  have hle := firstBy_le
    (fun a b => by simpa using Nat.le_total a.operationSequence b.operationSequence)
    (fun a b d h₁ h₂ => by
      simp only [decide_eq_true_eq] at h₁ h₂ ⊢
      exact Nat.le_trans h₁ h₂) hx y
    (by
      rw [List.mem_filter, mem_controlHistory, decide_eq_true_eq]
      exact ⟨⟨hy, hyc⟩, hlt⟩)
  simpa using hle

/-- A row that nothing superseded is the last of its control. -/
theorem supersededAt_none
    (hs : c.supersededAt h = none) {x : DeploymentHistory} (hx : x ∈ c.history)
    (hsc : SameControl x h) : x.operationSequence ≤ h.operationSequence := by
  unfold Catalog.supersededAt at hs
  rw [Option.map_eq_none_iff, firstBy_eq_none] at hs
  by_contra hlt
  have hmem : x ∈ (c.controlHistory h.tenantId h.controlId).filter fun x =>
      decide (h.operationSequence < x.operationSequence) := by
    rw [List.mem_filter, mem_controlHistory, decide_eq_true_eq]
    exact ⟨⟨hx, hsc⟩, by omega⟩
  rw [hs] at hmem
  cases hmem

/-- A validity interval is never empty, and no later row starts inside it. -/
theorem HistoryInv.superseded_after (hc : HistoryInv sha rsha c)
    (hh : h ∈ c.history) {s : Time} (hs : c.supersededAt h = some s) :
    h.appliedAt < s ∧ ∀ y ∈ c.history, SameControl y h →
      h.operationSequence < y.operationSequence → s ≤ y.appliedAt := by
  obtain ⟨x, hx, hxc, hlt, rfl, hmin⟩ := supersededAt_some hs
  refine ⟨hc.ordered h hh x hx hxc.symm hlt, ?_⟩
  intro y hy hyc hlty
  rcases Nat.lt_or_eq_of_le (hmin y hy hyc hlty) with hlt' | heq
  · exact Int.le_of_lt (hc.ordered x hx y hy (hxc.trans hyc.symm) hlt')
  · rw [hc.sequences x hx y hy (hxc.trans hyc.symm) heq]

end ControlAssurance.Runtime
