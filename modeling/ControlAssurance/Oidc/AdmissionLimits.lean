import ControlAssurance.Lib.Seats
import ControlAssurance.Oidc.DurableAdmission

/-!
# The limits on logins hold while no finalize comes too late

A reservation stops counting when it expires, and `finalize_login_admission` turns it into a
row that counts for much longer. It compares the expiry with the start of its own transaction,
not with the moment it commits. In between, a reserve that started after the expiry may have
taken its counts: it skipped the row, because it had expired, and could not remove it, because
the finalize had it locked. Then both have a place.

`Timely` is what a commit has to meet for this not to happen: a row that becomes ready was
counted by whoever holds a place or is about to take one. Under it the limits hold in every
state. The invariant is `Seated` for the committed rows; what an open transaction has done is
justified entry by entry (`Entry.Justified`), so that a statement only has to justify its own
new entries, and a commit only what others rely on.
-/

namespace ControlAssurance.Oidc.Durable

open Lib

/-! ## Entries -/

section

variable {ws ws' : List Entry}

/-- The rows of one kind of entry. -/
theorem mem_picked {ρ : Type} [DecidableEq ρ] {pick : Entry → Option ρ} {entry : ρ → Entry}
    (hpick : ∀ e x, pick e = some x ↔ e = entry x) {x : ρ} :
    x ∈ (ws.filterMap pick).toFinset ↔ entry x ∈ ws := by
  rw [List.mem_toFinset, List.mem_filterMap]
  constructor
  · rintro ⟨e, he, heq⟩
    exact (hpick e x).mp heq ▸ he
  · exact fun h => ⟨_, h, (hpick _ x).mpr rfl⟩

variable {a : LoginAdmission} {r : AuthorizationRow}

theorem mem_deletedAdmissions :
    a ∈ deletedAdmissions ws ↔ .deletedAdmission a ∈ ws :=
  mem_picked (by intro e x; cases e <;> simp)

theorem mem_insertedAdmissions :
    a ∈ insertedAdmissions ws ↔ .insertedAdmission a ∈ ws :=
  mem_picked (by intro e x; cases e <;> simp)

theorem mem_deletedTransactions :
    r ∈ deletedTransactions ws ↔ .deletedTransaction r ∈ ws :=
  mem_picked (by intro e x; cases e <;> simp)

theorem mem_insertedTransactions :
    r ∈ insertedTransactions ws ↔ .insertedTransaction r ∈ ws :=
  mem_picked (by intro e x; cases e <;> simp)

theorem mem_deletedBurns {b : Burn} :
    b ∈ deletedBurns ws ↔ .deletedBurn b ∈ ws :=
  mem_picked (by intro e x; cases e <;> simp)

theorem mem_insertedBurns {b : Burn} :
    b ∈ insertedBurns ws ↔ .insertedBurn b ∈ ws :=
  mem_picked (by intro e x; cases e <;> simp)

variable {c : Tables}

theorem mem_over_admissions : a ∈ (c.over ws).admissions ↔
    (a ∈ c.admissions ∧ .deletedAdmission a ∉ ws) ∨ .insertedAdmission a ∈ ws := by
  show a ∈ c.admissions \ deletedAdmissions ws ∪ insertedAdmissions ws ↔ _
  rw [Finset.mem_union, Finset.mem_sdiff, mem_deletedAdmissions, mem_insertedAdmissions]

theorem mem_over_transactions : r ∈ (c.over ws).transactions ↔
    (r ∈ c.transactions ∧ .deletedTransaction r ∉ ws) ∨ .insertedTransaction r ∈ ws := by
  show r ∈ c.transactions \ deletedTransactions ws ∪ insertedTransactions ws ↔ _
  rw [Finset.mem_union, Finset.mem_sdiff, mem_deletedTransactions, mem_insertedTransactions]

end

/-! ## The invariant -/

abbrev Open := Txn Key Entry

section

variable (policy : AdmissionPolicy)

/-- Whoever takes a place has counted the others at its own time, and found room. -/
def Entry.JustifiedInsert (t : Open) (a : LoginAdmission) : Prop :=
  match a.phase with
  | .reserved => a.admittedAt = t.startedAt
      ∧ (∃ n < policy.globalActiveLimit, .counted a.admittedAt n ∈ t.writes)
      ∧ ∃ n < policy.sourceActiveLimit, .countedSource a.sourceDigest a.admittedAt n ∈ t.writes
  | .ready => ∃ b : LoginAdmission, b.phase = .reserved ∧ .deletedAdmission b ∈ t.writes
      ∧ a = { b with phase := .ready }

/-- The rows a reserve still has to count. -/
def remaining (c : Tables) (t : Open) : Finset LoginAdmission :=
  c.admissions \ deletedAdmissions t.writes

/-- What makes an entry of an open transaction right, over the committed rows. -/
def Entry.Justified (c : Tables) (t : Open) : Entry → Prop
  | .lockedAdmission a => a ∈ c.admissions ∧ .admissionRow a.transactionDigest ∈ t.locks
  | .deletedAdmission a => .lockedAdmission a ∈ t.writes
      ∧ ∀ r ∈ c.transactions, r.transactionDigest = a.transactionDigest →
        .deletedTransaction r ∈ t.writes
  | .insertedAdmission a => .admissionRow a.transactionDigest ∈ t.locks
      ∧ Entry.JustifiedInsert policy t a
  | .insertedTransaction r => ∃ a : LoginAdmission, .insertedAdmission a ∈ t.writes
      ∧ a.phase = .ready ∧ a.transactionDigest = r.transactionDigest
      ∧ a.transactionExpiresAt = r.expiresAt
  | .insertedBurn _ => .advisory .transactionBurns ∈ t.locks
      ∧ ∃ n < policy.burnCapacity, .countedBurns n ∈ t.writes
  | .counted v n => .advisory .loginAdmission ∈ t.locks
      ∧ ((remaining c t).filter (·.Active v)).card ≤ n
  | .countedSource s v n => (∃ m, .counted v m ∈ t.writes)
      ∧ (((remaining c t).filter (·.sourceDigest = s)).filter (·.Active v)).card ≤ n
  | .countedBurns n => .advisory .transactionBurns ∈ t.locks →
      (c.burns \ deletedBurns t.writes).card ≤ n
  | .deletedTransaction _ => True
  | .deletedBurn _ => True

/-- What holds of an open transaction. -/
structure Upright (c : Tables) (t : Open) : Prop where
  justified : ∀ e ∈ t.writes, e.Justified policy c t
  oneAdmission : ∀ a b, .insertedAdmission a ∈ t.writes → .insertedAdmission b ∈ t.writes → a = b
  oneBurn : ∀ a b, .insertedBurn a ∈ t.writes → .insertedBurn b ∈ t.writes → a = b

/-- What holds of the committed rows. -/
structure Orderly (c : Tables) (lastCommit : Micros) : Prop where
  seated : Seated LoginAdmission.Active LoginAdmission.admittedAt policy.globalActiveLimit
    c.admissions
  seatedSource : ∀ s, Seated LoginAdmission.Active LoginAdmission.admittedAt
    policy.sourceActiveLimit (c.admissions.filter (·.sourceDigest = s))
  past : ∀ a ∈ c.admissions, a.admittedAt ≤ lastCommit
  burns : c.burns.card ≤ policy.burnCapacity
  children : ∀ r ∈ c.transactions, ∃ a ∈ c.admissions, a.phase = .ready
    ∧ a.transactionDigest = r.transactionDigest ∧ a.transactionExpiresAt = r.expiresAt

def Inv {ι : Type} (d : Database ι) : Prop :=
  Orderly policy d.committed d.lastCommit ∧ ∀ id, Upright policy d.committed (d.txns id)

/-- A row that becomes ready was counted by everyone who holds a place, and by every reserve
that has taken its counts: they all started before the reservation expired. -/
def Timely {ι : Type} (d : Database ι) (id : ι) : Prop :=
  ∀ a, .insertedAdmission a ∈ (d.txns id).writes → a.phase = .ready →
    (∀ x ∈ d.committed.admissions, x.admittedAt < a.reservationExpiresAt)
      ∧ ∀ other v n, .counted v n ∈ (d.txns other).writes → v < a.reservationExpiresAt

/-- When a transaction may make a statement. -/
def May : Statement → Open → Prop
  | .advisoryLock .transactionBurns, t => ∀ n, .countedBurns n ∉ t.writes
  | .doomedAdmissions _ _, t => ∀ b, .insertedAdmission b ∉ t.writes
  | .lockAdmission _, t => ∀ b, .insertedAdmission b ∉ t.writes
  | .deleteAdmissions rows, t => ∀ a ∈ rows, .lockedAdmission a ∈ t.writes
  | .countActive _, t => .advisory .loginAdmission ∈ t.locks
  | .countSource _ v, t => ∃ m, .counted v m ∈ t.writes
  | .insertAdmission a, t => (∀ b, .insertedAdmission b ∉ t.writes)
      ∧ Entry.JustifiedInsert policy t a
  | .insertTransaction r, t => ∃ a : LoginAdmission, .insertedAdmission a ∈ t.writes
      ∧ a.phase = .ready ∧ a.transactionDigest = r.transactionDigest
      ∧ a.transactionExpiresAt = r.expiresAt
  | .insertBurn _, t => (∀ b, .insertedBurn b ∉ t.writes)
      ∧ .advisory .transactionBurns ∈ t.locks
      ∧ ∃ n < policy.burnCapacity, .countedBurns n ∈ t.writes
  | _, _ => True

end

/-! ## Statements -/

section

variable {policy : AdmissionPolicy} {c : Tables} {t : Open} {ks : List Key} {ws : List Entry}

theorem remaining_extend : remaining c (t.extend ks ws) ⊆ remaining c t := by
  intro a ha
  obtain ⟨hmem, hdel⟩ := Finset.mem_sdiff.mp ha
  refine Finset.mem_sdiff.mpr ⟨hmem, fun h => hdel ?_⟩
  exact mem_deletedAdmissions.mpr (List.mem_append_left _ (mem_deletedAdmissions.mp h))

variable {a : LoginAdmission} {e : Entry}

theorem justifiedInsert_extend (h : Entry.JustifiedInsert policy t a) :
    Entry.JustifiedInsert policy (t.extend ks ws) a := by
  unfold Entry.JustifiedInsert at h ⊢
  split at h
  · obtain ⟨hat, ⟨n, hn, hcounted⟩, m, hm, hsource⟩ := h
    exact ⟨hat, ⟨n, hn, List.mem_append_left _ hcounted⟩, m, hm, List.mem_append_left _ hsource⟩
  · obtain ⟨b, hphase, hdel, heq⟩ := h
    exact ⟨b, hphase, List.mem_append_left _ hdel, heq⟩

/-- What a transaction does later takes nothing back; only the lock on the ledger of burns has
to come before its count. -/
theorem justified_extend (h : e.Justified policy c t)
    (hburns : (∃ n, .countedBurns n ∈ t.writes) → .advisory .transactionBurns ∉ ks)
    (he : e ∈ t.writes) : e.Justified policy c (t.extend ks ws) := by
  cases e with
  | lockedAdmission a => exact ⟨h.1, List.mem_append_left _ h.2⟩
  | deletedAdmission a =>
    exact ⟨List.mem_append_left _ h.1, fun r hr heq => List.mem_append_left _ (h.2 r hr heq)⟩
  | insertedAdmission a =>
    exact ⟨List.mem_append_left _ h.1, justifiedInsert_extend h.2⟩
  | deletedTransaction r => trivial
  | insertedTransaction r =>
    obtain ⟨a, ha, hrest⟩ := h
    exact ⟨a, List.mem_append_left _ ha, hrest⟩
  | deletedBurn b => trivial
  | insertedBurn b =>
    obtain ⟨hlock, n, hn, hcounted⟩ := h
    exact ⟨List.mem_append_left _ hlock, n, hn, List.mem_append_left _ hcounted⟩
  | counted v n =>
    refine ⟨List.mem_append_left _ h.1, Nat.le_trans (Finset.card_le_card ?_) h.2⟩
    exact Finset.filter_subset_filter _ remaining_extend
  | countedSource s v n =>
    obtain ⟨⟨m, hm⟩, hcard⟩ := h
    refine ⟨⟨m, List.mem_append_left _ hm⟩, Nat.le_trans (Finset.card_le_card ?_) hcard⟩
    exact Finset.filter_subset_filter _ (Finset.filter_subset_filter _ remaining_extend)
  | countedBurns n =>
    intro hlock
    rcases List.mem_append.mp hlock with hlock | hlock
    · refine Nat.le_trans (Finset.card_le_card ?_) (h hlock)
      intro b hb
      obtain ⟨hmem, hdel⟩ := Finset.mem_sdiff.mp hb
      refine Finset.mem_sdiff.mpr ⟨hmem, fun hb' => hdel ?_⟩
      exact mem_deletedBurns.mpr (List.mem_append_left _ (mem_deletedBurns.mp hb'))
    · exact absurd hlock (hburns ⟨n, he⟩)

/-- A statement that inserts nothing only has to justify its own entries. -/
theorem upright_extend (h : Upright policy c t)
    (hburns : (∃ n, .countedBurns n ∈ t.writes) → .advisory .transactionBurns ∉ ks)
    (hws : ∀ e ∈ ws, e.Justified policy c (t.extend ks ws))
    (hadmission : ∀ a, .insertedAdmission a ∉ ws) (hburn : ∀ b, .insertedBurn b ∉ ws) :
    Upright policy c (t.extend ks ws) := by
  refine ⟨?_, ?_, ?_⟩
  · intro e he
    rcases List.mem_append.mp he with he | he
    · exact justified_extend (h.justified e he) hburns he
    · exact hws e he
  · intro a b ha hb
    have ha := (List.mem_append.mp ha).resolve_right (hadmission a)
    have hb := (List.mem_append.mp hb).resolve_right (hadmission b)
    exact h.oneAdmission a b ha hb
  · intro a b ha hb
    have ha := (List.mem_append.mp ha).resolve_right (hburn a)
    have hb := (List.mem_append.mp hb).resolve_right (hburn b)
    exact h.oneBurn a b ha hb

/-- A statement with no entries. -/
theorem upright_quiet (h : Upright policy c t)
    (hburns : (∃ n, .countedBurns n ∈ t.writes) → .advisory .transactionBurns ∉ ks) :
    Upright policy c (t.extend ks []) :=
  upright_extend h hburns (fun _ he => absurd he List.not_mem_nil)
    (fun _ => List.not_mem_nil) (fun _ => List.not_mem_nil)

/-- Where nothing has been inserted, a row that is seen is committed. -/
theorem committed_of_view (ha : a ∈ (c.over t.writes).admissions)
    (hnone : ∀ b, .insertedAdmission b ∉ t.writes) : a ∈ c.admissions :=
  (mem_over_admissions.mp ha).elim (fun h => h.1) fun h => absurd h (hnone a)

/-- A committed row is seen, or was deleted. -/
theorem remaining_subset_view : remaining c t ⊆ (c.over t.writes).admissions :=
  Finset.subset_union_left

theorem insert_upright (h : Upright policy c t)
    (hnone : ∀ b, .insertedAdmission b ∉ t.writes) (hinsert : Entry.JustifiedInsert policy t a) :
    Upright policy c (t.extend [.admissionRow a.transactionDigest] [.insertedAdmission a]) := by
  have hburns : (∃ n, .countedBurns n ∈ t.writes) →
      Key.advisory .transactionBurns ∉ [Key.admissionRow a.transactionDigest] := by simp
  have hnew : ∀ b, .insertedAdmission b ∈ t.writes ++ [.insertedAdmission a] → b = a := by
    intro b hb
    rcases List.mem_append.mp hb with hb | hb
    · exact absurd hb (hnone b)
    · simpa using hb
  refine ⟨?_, ?_, ?_⟩
  · intro e he
    rcases List.mem_append.mp he with he | he
    · exact justified_extend (h.justified e he) hburns he
    · rw [List.mem_singleton] at he
      subst he
      exact ⟨List.mem_append_right _ (List.mem_singleton_self _), justifiedInsert_extend hinsert⟩
  · intro b b' hb hb'
    rw [hnew b hb, hnew b' hb']
  · intro b b' hb hb'
    have hb := (List.mem_append.mp hb).resolve_right (by simp)
    have hb' := (List.mem_append.mp hb').resolve_right (by simp)
    exact h.oneBurn b b' hb hb'

theorem insertBurn_upright {b : Burn} (h : Upright policy c t)
    (hmay : May policy (.insertBurn b) t) :
    Upright policy c (t.extend [.burnRow b.transactionDigest] [.insertedBurn b]) := by
  obtain ⟨hnone, hlock, n, hn, hcounted⟩ := hmay
  have hnew : ∀ x, .insertedBurn x ∈ t.writes ++ [.insertedBurn b] → x = b := by
    intro x hx
    rcases List.mem_append.mp hx with hx | hx
    · exact absurd hx (hnone x)
    · simpa using hx
  refine ⟨?_, ?_, ?_⟩
  · intro e he
    rcases List.mem_append.mp he with he | he
    · exact justified_extend (h.justified e he) (by simp) he
    · rw [List.mem_singleton] at he
      subst he
      exact ⟨List.mem_append_left _ hlock, n, hn, List.mem_append_left _ hcounted⟩
  · intro a a' ha ha'
    have ha := (List.mem_append.mp ha).resolve_right (by simp)
    have ha' := (List.mem_append.mp ha').resolve_right (by simp)
    exact h.oneAdmission a a' ha ha'
  · intro x x' hx hx'
    rw [hnew x hx, hnew x' hx']

/-- Committed rows that get locked. -/
theorem lock_upright {rows : List LoginAdmission} (h : Upright policy c t)
    (hrows : ∀ a ∈ rows, a ∈ c.admissions) :
    Upright policy c (t.extend (rows.map fun a => .admissionRow a.transactionDigest)
      (rows.map .lockedAdmission)) := by
  refine upright_extend h (by simp) ?_ (by simp) (by simp)
  intro e he
  obtain ⟨a, ha, rfl⟩ := List.mem_map.mp he
  exact ⟨hrows a ha, List.mem_append_right _ (List.mem_map.mpr ⟨a, ha, rfl⟩)⟩

/-- A cleanup or a `DELETE` of locked rows takes the transactions that refer to them along. -/
theorem delete_upright {rows : List LoginAdmission} {children : List AuthorizationRow}
    (h : Upright policy c t) (hlocked : ∀ a ∈ rows, .lockedAdmission a ∈ t.writes)
    (hchildren : ∀ r, r ∈ children ↔ r ∈ (c.over t.writes).transactions
      ∧ ∃ a ∈ rows, a.transactionDigest = r.transactionDigest) :
    Upright policy c (t.extend (children.map fun r => .transactionRow r.transactionDigest)
      (rows.map .deletedAdmission ++ children.map .deletedTransaction)) := by
  refine upright_extend h (by simp) ?_ (by simp) (by simp)
  intro e he
  rcases List.mem_append.mp he with he | he
  · obtain ⟨a, ha, rfl⟩ := List.mem_map.mp he
    refine ⟨List.mem_append_left _ (hlocked a ha), ?_⟩
    intro r hr heq
    by_cases hdel : .deletedTransaction r ∈ t.writes
    · exact List.mem_append_left _ hdel
    · have hchild : r ∈ children :=
        (hchildren r).mpr ⟨mem_over_transactions.mpr (Or.inl ⟨hr, hdel⟩), a, ha, heq.symm⟩
      exact List.mem_append_right _ (List.mem_append_right _ (List.mem_map_of_mem hchild))
  · obtain ⟨r, -, rfl⟩ := List.mem_map.mp he
    trivial

/-- The answer of a count bounds what is left to count. -/
theorem counted_justified {p : LoginAdmission → Prop} [DecidablePred p] :
    ((remaining c (t.extend [] [e])).filter p).card
      ≤ ((c.over t.writes).admissions.filter p).card :=
  Finset.card_le_card
    (Finset.filter_subset_filter _ (remaining_extend.trans remaining_subset_view))

/-- **One statement.** What a permitted statement does is justified. -/
theorem statement_upright {q : Statement} {r : q.Out} {n : Unit} {now startedAt : Int}
    {held : Key → Prop} (h : Upright policy c t) (hmay : May policy q t)
    (hact : act q ⟨c.over t.writes, now, startedAt, held, n⟩ r ws ks n) :
    Upright policy c (t.extend ks ws) := by
  cases q with
  | transactionTimestamp =>
    obtain ⟨-, rfl, rfl⟩ := hact
    exact upright_quiet h (by simp)
  | advisoryLock l =>
    obtain ⟨rfl, rfl⟩ := hact
    refine upright_quiet h ?_
    rintro ⟨n, hn⟩ hmem
    have hl : AdvisoryLock.transactionBurns = l := by simpa using hmem
    subst hl
    exact hmay n hn
  | doomedAdmissions v limit =>
    obtain ⟨⟨-, -, hrows, -⟩, rfl, rfl⟩ := hact
    exact lock_upright h fun a ha => committed_of_view (hrows a ha).1 hmay
  | deleteAdmissions rows =>
    obtain ⟨children, hchildren, rfl, rfl⟩ := hact
    exact delete_upright h hmay hchildren
  | deleteDoomedBurns v limit =>
    obtain ⟨rows, -, rfl, rfl⟩ := hact
    refine upright_extend h (by simp) ?_ (by simp) (by simp)
    intro e he
    obtain ⟨b, -, rfl⟩ := List.mem_map.mp he
    trivial
  | countBurns =>
    obtain ⟨rfl, rfl, rfl⟩ := hact
    refine upright_extend h (by simp) ?_ (by simp) (by simp)
    intro e he
    rw [List.mem_singleton] at he
    subst he
    intro _
    refine Finset.card_le_card fun b hb => ?_
    obtain ⟨hmem, hdel⟩ := Finset.mem_sdiff.mp hb
    refine Finset.mem_union_left _ (Finset.mem_sdiff.mpr ⟨hmem, fun hb' => hdel ?_⟩)
    exact mem_deletedBurns.mpr (List.mem_append_left _ (mem_deletedBurns.mp hb'))
  | known d =>
    obtain ⟨-, rfl, rfl⟩ := hact
    exact upright_quiet h (by simp)
  | countActive v =>
    obtain ⟨rfl, rfl, rfl⟩ := hact
    refine upright_extend h (by simp) ?_ (by simp) (by simp)
    intro e he
    rw [List.mem_singleton] at he
    subst he
    exact ⟨List.mem_append_left _ hmay, counted_justified⟩
  | countSource s v =>
    obtain ⟨rfl, rfl, rfl⟩ := hact
    obtain ⟨m, hm⟩ := hmay
    refine upright_extend h (by simp) ?_ (by simp) (by simp)
    intro e he
    rw [List.mem_singleton] at he
    subst he
    refine ⟨⟨m, List.mem_append_left _ hm⟩, ?_⟩
    rw [Finset.filter_filter, Finset.filter_filter]
    exact counted_justified
  | insertAdmission a =>
    obtain ⟨-, -, rfl, rfl⟩ := hact
    exact insert_upright h hmay.1 hmay.2
  | findAdmission d =>
    cases r with
    | none =>
      obtain ⟨-, rfl, rfl⟩ := hact
      exact upright_quiet h (by simp)
    | some a =>
      obtain ⟨-, rfl, rfl⟩ := hact
      exact upright_quiet h (by simp)
  | lockAdmission a =>
    cases r with
    | false =>
      obtain ⟨-, rfl, rfl⟩ := hact
      exact upright_quiet h (by simp)
    | true =>
      obtain ⟨ha, rfl, rfl⟩ := hact
      have hlocked : ∀ x ∈ [a], x ∈ c.admissions := by
        intro x hx
        rw [List.mem_singleton] at hx
        exact hx ▸ committed_of_view ha hmay
      exact lock_upright h hlocked
  | insertTransaction row =>
    obtain ⟨-, -, -, rfl, rfl⟩ := hact
    obtain ⟨a, ha, hrest⟩ := hmay
    refine upright_extend h (by simp) ?_ (by simp) (by simp)
    intro e he
    rw [List.mem_singleton] at he
    subst he
    exact ⟨a, List.mem_append_left _ ha, hrest⟩
  | findReady d =>
    cases r with
    | none =>
      obtain ⟨-, rfl, rfl⟩ := hact
      exact upright_quiet h (by simp)
    | some row =>
      obtain ⟨-, rfl, rfl⟩ := hact
      exact upright_quiet h (by simp)
  | deleteTransaction row =>
    cases r with
    | false =>
      obtain ⟨-, rfl, rfl⟩ := hact
      exact upright_quiet h (by simp)
    | true =>
      obtain ⟨-, rfl, rfl⟩ := hact
      refine upright_extend h (by simp) ?_ (by simp) (by simp)
      intro e he
      rw [List.mem_singleton] at he
      subst he
      trivial
  | insertBurn b =>
    obtain ⟨-, -, rfl, rfl⟩ := hact
    exact insertBurn_upright h hmay

/-! ## Commits -/

/-- What a commit does to the admissions: it only removes some, or exchanges a reservation for
a ready row, or adds a reservation that found room. -/
inductive Effect (policy : AdmissionPolicy) (c : Tables) (t : Open) : Prop
  | removed (hsub : (c.over t.writes).admissions ⊆ c.admissions)
  | exchanged (a b : LoginAdmission) (ha : .insertedAdmission a ∈ t.writes)
      (hready : a.phase = .ready) (hreserved : b.phase = .reserved)
      (hdel : .deletedAdmission b ∈ t.writes) (hb : b ∈ c.admissions)
      (heq : a = { b with phase := .ready })
      (hsub : (c.over t.writes).admissions ⊆ insert a (c.admissions.erase b))
  | added (a : LoginAdmission) (ha : .insertedAdmission a ∈ t.writes)
      (hstart : a.admittedAt = t.startedAt) (hlock : .advisory .loginAdmission ∈ t.locks)
      (hroom : ((remaining c t).filter (·.Active a.admittedAt)).card < policy.globalActiveLimit)
      (hsource : (((remaining c t).filter (·.sourceDigest = a.sourceDigest)).filter
        (·.Active a.admittedAt)).card < policy.sourceActiveLimit)
      (hsub : (c.over t.writes).admissions ⊆ insert a (remaining c t))

theorem effect_of_upright (h : Upright policy c t) : Effect policy c t := by
  by_cases hnone : ∀ a, .insertedAdmission a ∉ t.writes
  · exact .removed fun a ha => committed_of_view ha hnone
  · push Not at hnone
    obtain ⟨a, ha⟩ := hnone
    -- nothing else was inserted
    have hview : ∀ x ∈ (c.over t.writes).admissions, x = a ∨ x ∈ remaining c t := by
      intro x hx
      rcases mem_over_admissions.mp hx with ⟨hc, hdel⟩ | hins
      · exact Or.inr (Finset.mem_sdiff.mpr ⟨hc, fun hx' => hdel (mem_deletedAdmissions.mp hx')⟩)
      · exact Or.inl (h.oneAdmission x a hins ha)
    obtain ⟨-, hinsert⟩ := h.justified _ ha
    unfold Entry.JustifiedInsert at hinsert
    split at hinsert
    next hphase =>
      obtain ⟨hstart, ⟨n, hn, hcounted⟩, m, hm, hsource⟩ := hinsert
      obtain ⟨hlock, hcard⟩ := h.justified _ hcounted
      obtain ⟨-, hcard'⟩ := h.justified _ hsource
      refine .added a ha hstart hlock (Nat.lt_of_le_of_lt hcard hn)
        (Nat.lt_of_le_of_lt hcard' hm) ?_
      intro x hx
      rcases hview x hx with rfl | hx
      · exact Finset.mem_insert_self ..
      · exact Finset.mem_insert_of_mem hx
    next hphase =>
      obtain ⟨b, hreserved, hdel, heq⟩ := hinsert
      obtain ⟨hb, -⟩ := h.justified _ (h.justified _ hdel).1
      refine .exchanged a b ha hphase hreserved hdel hb heq ?_
      intro x hx
      rcases hview x hx with rfl | hx
      · exact Finset.mem_insert_self ..
      · obtain ⟨hc, hnot⟩ := Finset.mem_sdiff.mp hx
        refine Finset.mem_insert_of_mem (Finset.mem_erase.mpr ⟨?_, hc⟩)
        intro hxb
        exact hnot (mem_deletedAdmissions.mpr (hxb ▸ hdel))

theorem over_children (h : Upright policy c t)
    (hchildren : ∀ r ∈ c.transactions, ∃ a ∈ c.admissions, a.phase = .ready
      ∧ a.transactionDigest = r.transactionDigest ∧ a.transactionExpiresAt = r.expiresAt) :
    ∀ r ∈ (c.over t.writes).transactions, ∃ a ∈ (c.over t.writes).admissions, a.phase = .ready
      ∧ a.transactionDigest = r.transactionDigest ∧ a.transactionExpiresAt = r.expiresAt := by
  intro r hr
  rcases mem_over_transactions.mp hr with ⟨hr, hdel⟩ | hins
  · obtain ⟨a, ha, hphase, hdigest, hexpires⟩ := hchildren r hr
    refine ⟨a, mem_over_admissions.mpr (Or.inl ⟨ha, ?_⟩), hphase, hdigest, hexpires⟩
    -- deleting the admission would have cascaded to the row
    intro hdela
    exact hdel ((h.justified _ hdela).2 r hr hdigest.symm)
  · obtain ⟨a, ha, hphase, hdigest, hexpires⟩ := h.justified _ hins
    exact ⟨a, mem_over_admissions.mpr (Or.inr ha), hphase, hdigest, hexpires⟩

theorem over_burns (h : Upright policy c t) (hburns : c.burns.card ≤ policy.burnCapacity) :
    (c.over t.writes).burns.card ≤ policy.burnCapacity := by
  have hunion : (c.over t.writes).burns.card
      ≤ (c.burns \ deletedBurns t.writes).card + (insertedBurns t.writes).card :=
    Finset.card_union_le _ _
  rcases Finset.eq_empty_or_nonempty (insertedBurns t.writes) with hempty | ⟨b, hb⟩
  · have hsub : (c.burns \ deletedBurns t.writes).card ≤ c.burns.card :=
      Finset.card_le_card Finset.sdiff_subset
    rw [hempty, Finset.card_empty] at hunion
    omega
  · obtain ⟨hlock, n, hn, hcounted⟩ := h.justified _ (mem_insertedBurns.mp hb)
    have hcard : (c.burns \ deletedBurns t.writes).card ≤ n := h.justified _ hcounted hlock
    have hone : (insertedBurns t.writes).card ≤ 1 := by
      refine Finset.card_le_one.mpr fun x hx y hy => ?_
      exact h.oneBurn x y (mem_insertedBurns.mp hx) (mem_insertedBurns.mp hy)
    omega

/-- A reservation that has not expired for anyone is active at everyone's time. -/
theorem active_of_reserved {b : LoginAdmission} {v : Micros} (hb : b.phase = .reserved)
    (hv : v < b.reservationExpiresAt) : b.Active v := by
  unfold LoginAdmission.Active LoginAdmission.expiresAt
  rw [hb]
  exact hv

/-- **The commit and the rows.** -/
theorem commit_orderly {last now : Micros} (horderly : Orderly policy c last)
    (h : Upright policy c t) (hlast : last ≤ now) (hstart : t.startedAt ≤ now)
    (htimely : ∀ a, .insertedAdmission a ∈ t.writes → a.phase = .ready →
      ∀ x ∈ c.admissions, x.admittedAt < a.reservationExpiresAt) :
    Orderly policy (c.over t.writes) now := by
  have hburns := over_burns h horderly.burns
  have hchildren := over_children h horderly.children
  have hpast : ∀ a ∈ c.admissions, a.admittedAt ≤ now :=
    fun a ha => Int.le_trans (horderly.past a ha) hlast
  cases effect_of_upright h with
  | removed hsub =>
    exact ⟨horderly.seated.subset hsub,
      fun s => (horderly.seatedSource s).subset (Finset.filter_subset_filter _ hsub),
      fun a ha => hpast a (hsub ha), hburns, hchildren⟩
  | exchanged a b ha hready hreserved hdel hb heq hsub =>
    have hadmitted : a.admittedAt = b.admittedAt := by rw [heq]
    have hsource : a.sourceDigest = b.sourceDigest := by rw [heq]
    have hexpires : a.reservationExpiresAt = b.reservationExpiresAt := by rw [heq]
    have hcounted : ∀ x ∈ c.admissions, b.Active x.admittedAt := by
      intro x hx
      exact active_of_reserved hreserved (hexpires ▸ htimely a ha hready x hx)
    refine ⟨(horderly.seated.exchange hb hadmitted hcounted).subset hsub, ?_, ?_, hburns,
      hchildren⟩
    · intro s
      by_cases hs : b.sourceDigest = s
      · have hbs : b ∈ c.admissions.filter (·.sourceDigest = s) :=
          Finset.mem_filter.mpr ⟨hb, hs⟩
        refine ((horderly.seatedSource s).exchange hbs hadmitted
          fun x hx => hcounted x (Finset.mem_filter.mp hx).1).subset ?_
        intro x hx
        obtain ⟨hx, hxs⟩ := Finset.mem_filter.mp hx
        rcases Finset.mem_insert.mp (hsub hx) with rfl | hx
        · exact Finset.mem_insert_self ..
        · obtain ⟨hne, hx⟩ := Finset.mem_erase.mp hx
          exact Finset.mem_insert_of_mem
            (Finset.mem_erase.mpr ⟨hne, Finset.mem_filter.mpr ⟨hx, hxs⟩⟩)
      · refine (horderly.seatedSource s).subset fun x hx => ?_
        obtain ⟨hx, hxs⟩ := Finset.mem_filter.mp hx
        rcases Finset.mem_insert.mp (hsub hx) with rfl | hx
        · exact absurd (hsource ▸ hxs) hs
        · exact Finset.mem_filter.mpr ⟨Finset.mem_of_mem_erase hx, hxs⟩
    · intro x hx
      rcases Finset.mem_insert.mp (hsub hx) with rfl | hx
      · exact hadmitted ▸ hpast b hb
      · exact hpast x (Finset.mem_of_mem_erase hx)
  | added a ha hstart' hlock hroom hsource hsub =>
    have hrest : remaining c t ⊆ c.admissions := Finset.sdiff_subset
    refine ⟨((horderly.seated.subset hrest).insert hroom).subset hsub, ?_, ?_, hburns,
      hchildren⟩
    · intro s
      have hseated := (horderly.seatedSource s).subset (Finset.filter_subset_filter _ hrest)
      by_cases hs : a.sourceDigest = s
      · subst hs
        refine (hseated.insert hsource).subset fun x hx => ?_
        obtain ⟨hx, hxs⟩ := Finset.mem_filter.mp hx
        rcases Finset.mem_insert.mp (hsub hx) with rfl | hx
        · exact Finset.mem_insert_self ..
        · exact Finset.mem_insert_of_mem (Finset.mem_filter.mpr ⟨hx, hxs⟩)
      · refine hseated.subset fun x hx => ?_
        obtain ⟨hx, hxs⟩ := Finset.mem_filter.mp hx
        rcases Finset.mem_insert.mp (hsub hx) with rfl | hx
        · exact absurd hxs hs
        · exact Finset.mem_filter.mpr ⟨hx, hxs⟩
    · intro x hx
      rcases Finset.mem_insert.mp (hsub hx) with rfl | hx
      · exact hstart' ▸ hstart
      · exact hpast x (hrest hx)

/-- **The commit and the others' counts.** Whoever holds the admission lock sees no more rows
with a property than it has counted, unless a row becomes ready that did not have it before. -/
theorem commit_remaining {u : Open} {p : LoginAdmission → Prop} [DecidablePred p]
    (ht : Upright policy c t) (hu : Upright policy c u) (hapart : ∀ k ∈ u.locks, k ∉ t.locks)
    (hlock : .advisory .loginAdmission ∈ u.locks)
    (hready : ∀ a b : LoginAdmission, .insertedAdmission a ∈ t.writes → a.phase = .ready →
      b.phase = .reserved → a = { b with phase := .ready } → p a → p b) :
    ((remaining (c.over t.writes) u).filter p).card ≤ ((remaining c u).filter p).card := by
  have hmem : ∀ x ∈ remaining (c.over t.writes) u,
      x ∈ (c.over t.writes).admissions ∧ .deletedAdmission x ∉ u.writes := by
    intro x hx
    obtain ⟨hx, hdel⟩ := Finset.mem_sdiff.mp hx
    exact ⟨hx, fun hx' => hdel (mem_deletedAdmissions.mpr hx')⟩
  have hback : ∀ x ∈ c.admissions, .deletedAdmission x ∉ u.writes → x ∈ remaining c u :=
    fun x hx hdel => Finset.mem_sdiff.mpr ⟨hx, fun hx' => hdel (mem_deletedAdmissions.mp hx')⟩
  cases effect_of_upright ht with
  | removed hsub =>
    refine Finset.card_le_card (Finset.filter_subset_filter _ fun x hx => ?_)
    obtain ⟨hx, hdel⟩ := hmem x hx
    exact hback x (hsub hx) hdel
  | exchanged a b ha hphase hreserved hdel hb heq hsub =>
    -- the row is locked by the one that exchanges it, so it is still there to be counted
    have hbu : .deletedAdmission b ∉ u.writes := by
      intro hdelu
      have hlockt := (ht.justified _ (ht.justified _ hdel).1).2
      have hlocku := (hu.justified _ (hu.justified _ hdelu).1).2
      exact hapart _ hlocku hlockt
    have hsub' : remaining (c.over t.writes) u ⊆ insert a ((remaining c u).erase b) := by
      intro x hx
      obtain ⟨hx, hdelx⟩ := hmem x hx
      rcases Finset.mem_insert.mp (hsub hx) with rfl | hx
      · exact Finset.mem_insert_self ..
      · obtain ⟨hne, hx⟩ := Finset.mem_erase.mp hx
        exact Finset.mem_insert_of_mem (Finset.mem_erase.mpr ⟨hne, hback x hx hdelx⟩)
    calc ((remaining (c.over t.writes) u).filter p).card
        ≤ ((insert a ((remaining c u).erase b)).filter p).card :=
          Finset.card_le_card (Finset.filter_subset_filter _ hsub')
      _ ≤ ((remaining c u).filter p).card :=
          card_filter_exchange (hback b hb hbu) (hready a b ha hphase hreserved heq)
  | added a ha hstart hlock' hroom hsource hsub => exact absurd hlock' (hapart _ hlock)

/-- **The commit and the other transactions.** -/
theorem commit_justified {u : Open} (ht : Upright policy c t)
    (hu : Upright policy c u) (hapart : ∀ k ∈ u.locks, k ∉ t.locks)
    (htimely : ∀ a, .insertedAdmission a ∈ t.writes → a.phase = .ready →
      ∀ v n, .counted v n ∈ u.writes → v < a.reservationExpiresAt)
    (he : e ∈ u.writes) : e.Justified policy (c.over t.writes) u := by
  have hold := hu.justified e he
  -- a row that becomes ready was active whenever the other transaction counted
  have hactive : ∀ v n, .counted v n ∈ u.writes → ∀ a b : LoginAdmission,
      .insertedAdmission a ∈ t.writes → a.phase = .ready → b.phase = .reserved →
      a = { b with phase := .ready } → b.Active v := by
    intro v n hcounted a b ha hphase hreserved heq
    have hv := htimely a ha hphase v n hcounted
    rw [heq] at hv
    exact active_of_reserved hreserved hv
  cases e with
  | lockedAdmission a =>
    refine ⟨mem_over_admissions.mpr (Or.inl ⟨hold.1, ?_⟩), hold.2⟩
    intro hdel
    exact hapart _ hold.2 (ht.justified _ (ht.justified _ hdel).1).2
  | deletedAdmission a =>
    refine ⟨hold.1, ?_⟩
    intro r hr heq
    rcases mem_over_transactions.mp hr with ⟨hr, -⟩ | hins
    · exact hold.2 r hr heq
    · obtain ⟨b, hb, -, hdigest, -⟩ := ht.justified _ hins
      have hlockt := (ht.justified _ hb).1
      have hlocku := (hu.justified _ hold.1).2
      rw [hdigest, heq] at hlockt
      exact absurd hlockt (hapart _ hlocku)
  | insertedAdmission a => exact hold
  | deletedTransaction r => trivial
  | insertedTransaction r => exact hold
  | deletedBurn b => trivial
  | insertedBurn b => exact hold
  | counted v n =>
    refine ⟨hold.1, Nat.le_trans (commit_remaining ht hu hapart hold.1 ?_) hold.2⟩
    intro a b ha hphase hreserved heq _
    exact hactive v n he a b ha hphase hreserved heq
  | countedSource s v n =>
    obtain ⟨⟨m, hm⟩, hcard⟩ := hold
    refine ⟨⟨m, hm⟩, ?_⟩
    rw [Finset.filter_filter] at hcard ⊢
    refine Nat.le_trans (commit_remaining ht hu hapart (hu.justified _ hm).1 ?_) hcard
    rintro a b ha hphase hreserved heq ⟨hsource, -⟩
    exact ⟨by rw [← hsource, heq], hactive v m hm a b ha hphase hreserved heq⟩
  | countedBurns n =>
    intro hlock
    refine Nat.le_trans (Finset.card_le_card fun b hb => ?_) (hold hlock)
    obtain ⟨hb, hdel⟩ := Finset.mem_sdiff.mp hb
    refine Finset.mem_sdiff.mpr ⟨?_, hdel⟩
    rcases Finset.mem_union.mp hb with hb | hins
    · exact (Finset.mem_sdiff.mp hb).1
    · exact absurd (ht.justified _ (mem_insertedBurns.mp hins)).1 (hapart _ hlock)

theorem begun_upright (v : Int) : Upright policy c (.begun v) :=
  ⟨fun _ he => absurd he List.not_mem_nil, fun _ _ h => absurd h List.not_mem_nil,
    fun _ _ h => absurd h List.not_mem_nil⟩

end

/-! ## The server -/

section

variable {ι : Type} [DecidableEq ι] {policy : AdmissionPolicy}

/-- Every request keeps the invariant, where commits are timely. -/
theorem keeping (policy : AdmissionPolicy) : Keeping (ι := ι) engine Timely (Inv policy)
    (fun _ _ => True) (May policy) (fun (_ : Except String Answer) _ => True)
    (fun _ _ => True) where
  later := fun d t _ hinv _ => ⟨hinv, trivial⟩
  reset := by
    intro d id _ hinv
    refine ⟨⟨hinv.1, ?_⟩, trivial⟩
    intro other
    by_cases hne : other = id
    · subst hne
      rw [Server.reset_self]
      exact begun_upright _
    · rw [Server.reset_other hne]
      exact hinv.2 other
  sql := by
    intro d id q r ws ks n _ hinv hmay hact _
    refine ⟨⟨hinv.1, ?_⟩, trivial⟩
    intro other
    by_cases hne : other = id
    · subst hne
      rw [Server.extend_own]
      exact statement_upright (hinv.2 other) hmay hact
    · rw [Server.extend_other hne]
      exact hinv.2 other
  commit := by
    intro d id hsound hinv htimely
    refine ⟨⟨?_, ?_⟩, trivial⟩
    · exact commit_orderly hinv.1 (hinv.2 id) hsound.past (hsound.begun id)
        fun a ha hready => (htimely a ha hready).1
    · intro other
      by_cases hne : other = id
      · subst hne
        rw [Server.publish_self]
        exact begun_upright _
      · rw [Server.publish_other hne]
        have hold := hinv.2 other
        refine ⟨?_, hold.oneAdmission, hold.oneBurn⟩
        intro e he
        exact commit_justified (hinv.2 id) hold
          (fun k hk => hsound.apart other id k hne hk)
          (fun a ha hready v n => (htimely a ha hready).2 other v n) he
  done := fun _ _ _ _ _ _ _ => trivial
  raised := fun _ _ _ _ _ _ => trivial

end

end ControlAssurance.Oidc.Durable
