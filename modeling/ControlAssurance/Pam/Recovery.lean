import Mathlib.Data.Set.Basic
import Mathlib.Data.Set.Insert
import ControlAssurance.Lib.Plays
import ControlAssurance.Pam.Broker
import ControlAssurance.Pam.LeaseAgreement

/-!
# Recovery and the leases that cannot be confirmed

`recover_unsettled`, alone with its journal, against an Elasticsearch that confirms the
revocation of every lease but those of a set `F`. The loop takes the leases in the order in
which they were created and lets the first exception out. So a lease that is never confirmed
keeps the later ones from being revoked, in this call and in every other one, and recovery does
for each lease what it can exactly when the leases of `F` are the last ones of the order
(`recovery_isolates`).
-/

namespace ControlAssurance.Pam

open Lib

/-- One replacement after another. -/
theorem replaced_twice {α κ : Type} {key : α → κ} {t t₁ t₂ : List α} {a b c : α}
    (hab : Replaced key t t₁ a b) (hbc : Replaced key t₁ t₂ b c) : Replaced key t t₂ a c := by
  refine ⟨hab.mem, hbc.key_eq.trans hab.key_eq, fun r => ?_⟩
  rw [hbc.rows, hab.rows, hab.key_eq]
  constructor
  · rintro (rfl | ⟨rfl | ⟨hr, -⟩, hne⟩)
    · exact Or.inl rfl
    · exact absurd hab.key_eq hne
    · exact Or.inr ⟨hr, hne⟩
  · rintro (rfl | ⟨hr, hne⟩)
    · exact Or.inl rfl
    · exact Or.inr ⟨Or.inr ⟨hr, hne⟩, hne⟩

/-! ## The surroundings -/

/-- A journal, the wire and a clock. -/
structure RecoveryWorld where
  rows : LeaseRows
  sent : List SentRequest
  clock : Millis
  clockBounded : clock ≤ maxBigint

/-- Elasticsearch confirms the revocation that was asked for: it reports no error, and every key
that the request names is among the invalidated ones. -/
def PamRequest.ConfirmedBy : PamRequest → PamResponse → Prop
  | .invalidateName _, .invalidation _ _ errorCount errorDetails =>
    errorCount = 0 ∧ errorDetails = false
  | .invalidateIds ids, .invalidation invalidated previous errorCount errorDetails =>
    (errorCount = 0 ∧ errorDetails = false) ∧ ∀ id ∈ ids, id ∈ invalidated ∨ id ∈ previous
  | _, _ => False

/-- The clock readings a journal stores. PostgreSQL refuses one before a time it has. -/
def LeaseBackend.Reads : LeaseBackend → Millis → Millis → Prop
  | .sqlite, _, now => -(2 ^ 63) ≤ now ∧ now ≤ maxBigint
  | .postgres _, clock, now => clock ≤ now ∧ now ≤ maxBigint

section

variable (backend : LeaseBackend) (descriptorDigest : List Char → Digest) (F : Set LeaseId)

/-- What a call does when nobody else calls and Elasticsearch confirms all leases but `F`. -/
def recoveryExec : (c : BrokerCall) → RecoveryWorld → c.Out → RecoveryWorld → Prop
  | .now, s, now, s' => backend.Reads s.clock now
    ∧ s'.rows = s.rows ∧ s'.sent = s.sent ∧ s'.clock = max s.clock now
  | .journal call, s, r, s' => match backend.run descriptorDigest s.rows call with
    | .ok (rows, answer) => r = .ok answer ∧ s' = { s with rows := rows }
    | .error e => r = .error e ∧ s' = s
  | .send request lease, s, number, s' => number = s.sent.length
    ∧ s' = { s with sent := s.sent ++ [⟨request, lease⟩] }
  | .receive number, s, r, s' => s' = s ∧ ∀ d, s.sent[number]? = some d →
    ((∃ response, r = .ok response ∧ d.request.ConfirmedBy response) ↔ d.lease ∉ F)

/-- A recovery from one world to another. -/
abbrev Recovers (limit : Int) (s : RecoveryWorld)
    (made : List (Made RecoveryWorld BrokerCall BrokerCall.Out))
    (r : Except BrokerError (List ElasticPamRecoveryResult)) (s' : RecoveryWorld) : Prop :=
  Plays (recoveryExec backend descriptorDigest F) Eq (recoverUnsettled limit) s made r s'

/-- What the constraints of a journal say of its rows. -/
def LeaseBackend.Sound (rows : LeaseRows) (clock : Millis) : Prop :=
  match backend with
  | .sqlite => (rows.map (·.leaseId)).Nodup ∧ ∀ r ∈ rows, r.exact = .ok r
  | .postgres ctype => Kept ctype rows clock

/-- The counters of a row can still go through `n` revocations. -/
def LeaseBackend.Room (n : Int) (r : ElasticLeaseRecord) : Prop :=
  match backend with
  | .sqlite => -(2 ^ 63) ≤ r.revision ∧ r.revision + 2 * n ≤ maxBigint
  | .postgres _ => r.revokeAttempts + n ≤ maxInteger

end

/-- The leases that are not revoked, in the order of recovery. -/
def outstanding (rows : LeaseRows) : LeaseRows :=
  (rows.filter fun r => decide (r.state ≠ .revoked)).mergeSort createdBefore

/-- Every unsettled lease outside `F` is revoked, and the ones of `F` are left to be revoked. -/
structure Isolated (F : Set LeaseId) (rows rows' : LeaseRows) : Prop where
  revoked : ∀ r ∈ rows, r.state ≠ .revoked → r.leaseId ∉ F →
    ∃ r' ∈ rows', r'.leaseId = r.leaseId ∧ r'.state = .revoked
  pending : ∀ r ∈ rows, r.state ≠ .revoked → r.leaseId ∈ F →
    ∃ r' ∈ rows', r'.leaseId = r.leaseId ∧ r'.state = .revokePending

/-- After a lease of `F` come only leases of `F` whose revocation was begun before. -/
def FailsLast (F : Set LeaseId) (rows : LeaseRows) : Prop :=
  (outstanding rows).Pairwise fun r r' =>
    r.leaseId ∈ F → r'.leaseId ∈ F ∧ r'.state = .revokePending

theorem mem_outstanding {rows : LeaseRows} {r : ElasticLeaseRecord} :
    r ∈ outstanding rows ↔ r ∈ rows ∧ r.state ≠ .revoked := by
  rw [outstanding, List.mem_mergeSort, List.mem_filter, decide_eq_true_iff]

/-! ## The journals -/

section

variable {backend : LeaseBackend} {descriptorDigest : List Char → Digest}
variable {rows : LeaseRows} {clock : Millis} {r : ElasticLeaseRecord}

theorem LeaseBackend.Sound.ids (h : backend.Sound rows clock) :
    (rows.map (·.leaseId)).Nodup := by
  cases backend with
  | sqlite => exact h.1
  | postgres ctype => exact Kept.ids h

theorem LeaseBackend.Room.mono {n m : Int} (h : backend.Room n r) (hle : m ≤ n) :
    backend.Room m r := by
  cases backend with
  | sqlite =>
    obtain ⟨hlow, hhigh⟩ : -(2 ^ 63) ≤ r.revision ∧ r.revision + 2 * n ≤ maxBigint := h
    exact ⟨hlow, by omega⟩
  | postgres ctype =>
    have hroom : r.revokeAttempts + n ≤ maxInteger := h
    show r.revokeAttempts + m ≤ maxInteger
    omega

theorem LeaseBackend.Room.revoking {reason : Option (List Char)} (h : backend.Room 2 r) :
    backend.Room 1 (r.revoking reason) := by
  cases backend with
  | sqlite =>
    obtain ⟨hlow, hhigh⟩ : -(2 ^ 63) ≤ r.revision ∧ r.revision + 2 * 2 ≤ maxBigint := h
    refine ⟨?_, ?_⟩
    · show -(2 ^ 63) ≤ r.revision + 1
      omega
    · show r.revision + 1 + 2 * 1 ≤ maxBigint
      omega
  | postgres ctype =>
    have hroom : r.revokeAttempts + 2 ≤ maxInteger := h
    show r.revokeAttempts + 1 + 1 ≤ maxInteger
    omega

theorem mem_unsettledStates {state : LeaseState} : state ∈ unsettledStates ↔ state ≠ .revoked := by
  cases state <;> decide

section

variable {leaseId : LeaseId} {revision : Int} {states : List LeaseState} {lost : String}
variable {set : ElasticLeaseRecord → ElasticLeaseRecord}

/-- SQLite updates the row of a lease and reads it back. -/
theorem sqlite_updates (hids : (rows.map (·.leaseId)).Nodup) (hr : r ∈ rows)
    (hmatch : r.matching leaseId revision states = true)
    (hrevision : -(2 ^ 63) ≤ revision ∧ revision ≤ maxBigint)
    (hset : ∀ r, (set r).leaseId = r.leaseId) (hexact : (set r).exact = .ok (set r)) :
    SQLiteElasticLeaseJournal.update rows leaseId revision states set lost
      = .ok (updateWhere (·.matching leaseId revision states) set rows, .record (set r)) := by
  obtain ⟨hlease, -⟩ := matching_iff.mp hmatch
  have hunique : ∀ x ∈ rows, x.matching leaseId revision states = true →
      x.leaseId = r.leaseId := by
    intro x _ hx
    rw [(matching_iff.mp hx).1, hlease]
  have hmem : set r ∈ updateWhere (·.matching leaseId revision states) set rows :=
    mem_updateWhere.mpr (Or.inl ⟨r, hr, hmatch, rfl⟩)
  have hfind := find?_key (updateWhere_keys hset hids) hmem
  rw [hset, hlease] at hfind
  unfold SQLiteElasticLeaseJournal.update SQLiteElasticLeaseJournal.bindInteger
  rw [require_pos hrevision, ok_bind, require_pos (countP_key hids hr hmatch hunique), ok_bind]
  unfold SQLiteElasticLeaseJournal.get
  rw [hfind]
  show ((set r).exact >>= _) = _
  rw [hexact]
  rfl

variable (set) in
theorem updateWhere_exact (hexact : ∀ x ∈ rows, x.exact = .ok x)
    (hset : ∀ x, x.exact = .ok x → (set x).exact = .ok (set x)) :
    ∀ x ∈ updateWhere (·.matching leaseId revision states) set rows, x.exact = .ok x := by
  intro x hx
  rcases mem_updateWhere.mp hx with ⟨y, hy, -, rfl⟩ | ⟨hx, -⟩
  · exact hset y (hexact y hy)
  · exact hexact x hx

variable (set) in
/-- An update of the row of a lease replaces that row. -/
theorem updated_replaced (hids : (rows.map (·.leaseId)).Nodup) (hr : r ∈ rows)
    (hmatch : r.matching leaseId revision states = true)
    (hset : ∀ r, (set r).leaseId = r.leaseId) :
    Replaced (·.leaseId) rows (updateWhere (·.matching leaseId revision states) set rows) r
      (set r) :=
  replaced_updateWhere hids hr hmatch
    (fun _ hx => (matching_iff.mp hx).1.trans (matching_iff.mp hmatch).1.symm) (hset r)

end

/-- What a revision and the counters of a row that PostgreSQL has come to. -/
theorem Kept.revision {ctype : PostgresCtype} (h : Kept ctype rows clock) (hr : r ∈ rows) :
    0 ≤ r.revision ∧ r.revision ≤ maxBigint := by
  obtain ⟨-, -, -, -, -, -, -, -, hrevision, -⟩ := h.checks r hr
  obtain ⟨-, hany, hattempts⟩ := h.counted r hr
  refine ⟨hrevision, ?_⟩
  unfold maxInteger at hattempts
  unfold maxBigint
  omega

/-- PostgreSQL makes an update whose new version is acceptable. -/
theorem Kept.postgres_update {ctype : PostgresCtype} {later : Millis} {leaseId : LeaseId}
    {revision : Int} {states : List LeaseState} (h : Kept ctype rows clock) (hle : clock ≤ later)
    (hr : r ∈ rows) (hmatch : r.matching leaseId revision states = true) (lost : String)
    (set : ElasticLeaseRecord → ElasticLeaseRecord) (hset : ∀ r, (set r).leaseId = r.leaseId)
    (haccepted : Accepted ctype r (set r) later) :
    PostgresElasticLeaseJournal.update ctype rows leaseId revision states set lost
        = .ok (updateWhere (·.matching leaseId revision states) set rows, .record (set r))
      ∧ Kept ctype (updateWhere (·.matching leaseId revision states) set rows) later := by
  have hrevision : 0 ≤ revision ∧ revision ≤ maxBigint := by
    rw [← (matching_iff.mp hmatch).2.1]
    exact h.revision hr
  exact (h.update_same hle hrevision hr hmatch hset haccepted).2

theorem exact_same {x y : ElasticLeaseRecord} (halias : y.indexAlias = x.indexAlias)
    (hkey : y.keyId = x.keyId) (h : x.exact = .ok x) : y.exact = .ok y := by
  unfold ElasticLeaseRecord.exact at h ⊢
  simp only [bind_eq_ok, require_eq_ok] at h
  obtain ⟨-, hgood, -, hid, -⟩ := h
  rw [halias, hkey, require_pos hgood, ok_bind, require_pos hid]
  rfl

/-- What recovery tells the journal. -/
def recoveryReason : Option (List Char) := some "recovery".toList

theorem recoveryReason_printed (ctype : PostgresCtype) :
    (∀ t ∈ recoveryReason, joinWords t ≠ [])
      ∧ ∀ t ∈ recoveryReason, ∀ c ∈ normalizeError t, ctype.cntrl c = false := by
  refine ⟨?_, ?_⟩
  · intro t ht
    obtain rfl := Option.some.inj ht
    decide
  · intro t ht c hc
    obtain rfl := Option.some.inj ht
    have hcodes : ∀ c ∈ normalizeError "recovery".toList, 32 ≤ c.toNat ∧ c.toNat < 127 := by
      decide
    obtain ⟨hlow, hhigh⟩ := hcodes c hc
    have hclass := ctype.ascii c (by omega)
    by_contra hcntrl
    rw [Bool.not_eq_false] at hcntrl
    have hrange := hclass.mp hcntrl
    omega

/-- The revocation of a lease begins. -/
theorem LeaseBackend.Sound.begins (h : backend.Sound rows clock) (hr : r ∈ rows)
    (hstate : r.state ≠ .revoked) (hroom : backend.Room 1 r) :
    ∃ rows', backend.run descriptorDigest rows
        (.beginRevocation r.leaseId r.revision recoveryReason)
        = .ok (rows', .record (r.revoking recoveryReason))
      ∧ backend.Sound rows' clock
      ∧ Replaced (·.leaseId) rows rows' r (r.revoking recoveryReason) := by
  have hmatch : r.matching r.leaseId r.revision unsettledStates = true :=
    matching_iff.mpr ⟨rfl, rfl, mem_unsettledStates.mpr hstate⟩
  have hreplaced := updated_replaced (·.revoking recoveryReason) h.ids hr hmatch fun _ => rfl
  cases backend with
  | sqlite =>
    obtain ⟨hids, hexact⟩ := h
    obtain ⟨hlow, hhigh⟩ : -(2 ^ 63) ≤ r.revision ∧ r.revision + 2 * 1 ≤ maxBigint := hroom
    have hset : ∀ x : ElasticLeaseRecord, x.exact = .ok x →
        (x.revoking recoveryReason).exact = .ok (x.revoking recoveryReason) :=
      fun x hx => @exact_same x _ rfl rfl hx
    exact ⟨_, sqlite_updates hids hr hmatch ⟨hlow, by omega⟩ (fun _ => rfl)
      (hset r (hexact r hr)), ⟨updateWhere_keys (fun _ => rfl) hids,
        updateWhere_exact (·.revoking recoveryReason) hexact hset⟩, hreplaced⟩
  | postgres ctype =>
    have hkept : Kept ctype rows clock := h
    have hattempts : r.revokeAttempts + 1 ≤ maxInteger := hroom
    obtain ⟨hwords, hprinted⟩ := recoveryReason_printed ctype
    obtain ⟨hupdate, hkept'⟩ := hkept.postgres_update (Int.le_refl clock) hr hmatch
      "lease revocation lost its state transition" (·.revoking recoveryReason) (fun _ => rfl)
      (hkept.revoking_accepted hr (mem_unsettledStates.mpr hstate) (by omega) hwords hprinted)
    refine ⟨_, ?_, hkept', hreplaced⟩
    rw [LeaseBackend.run, beginRevocation_postgres ⟨hkept.revision hr, hwords⟩]
    exact hupdate

/-- The revocation of a lease is finished. -/
theorem LeaseBackend.Sound.finishes (h : backend.Sound rows clock) (hr : r ∈ rows)
    (hstate : r.state = .revokePending) (hrevision : -(2 ^ 63) ≤ r.revision ∧ r.revision ≤ maxBigint)
    {now : Millis} (hnow : backend.Reads clock now) :
    ∃ rows', backend.run descriptorDigest rows (.markRevoked r.leaseId r.revision now)
        = .ok (rows', .record (r.settled now))
      ∧ backend.Sound rows' (max clock now)
      ∧ Replaced (·.leaseId) rows rows' r (r.settled now) := by
  have hmatch : r.matching r.leaseId r.revision [.revokePending] = true :=
    matching_iff.mpr ⟨rfl, rfl, List.mem_singleton.mpr hstate⟩
  have hreplaced := updated_replaced (·.settled now) h.ids hr hmatch fun _ => rfl
  cases backend with
  | sqlite =>
    obtain ⟨hids, hexact⟩ := h
    have hset : ∀ x : ElasticLeaseRecord, x.exact = .ok x →
        (x.settled now).exact = .ok (x.settled now) :=
      fun x hx => @exact_same x _ rfl rfl hx
    refine ⟨updateWhere (·.matching r.leaseId r.revision [.revokePending]) (·.settled now) rows, ?_,
      ⟨updateWhere_keys (fun _ => rfl) hids, updateWhere_exact (·.settled now) hexact hset⟩,
      hreplaced⟩
    show (SQLiteElasticLeaseJournal.bindInteger now >>= _) = _
    obtain ⟨hlow, hhigh⟩ : -(2 ^ 63) ≤ now ∧ now ≤ maxBigint := hnow
    rw [SQLiteElasticLeaseJournal.bindInteger, require_pos ⟨hlow, hhigh⟩, ok_bind]
    exact sqlite_updates hids hr hmatch hrevision (fun _ => rfl) (hset r (hexact r hr))
  | postgres ctype =>
    have hkept : Kept ctype rows clock := h
    obtain ⟨hle, hmax⟩ : clock ≤ now ∧ now ≤ maxBigint := hnow
    have hclock : 0 ≤ clock := by
      obtain ⟨-, -, -, -, hzero, -⟩ := hkept.checks r hr
      exact Int.le_trans hzero (hkept.created r hr)
    obtain ⟨hupdate, hkept'⟩ := hkept.postgres_update hle hr hmatch
      "lease finalization lost its state transition" (·.settled now) (fun _ => rfl)
      (hkept.settled_accepted hle hr hstate)
    refine ⟨_, ?_, ?_, hreplaced⟩
    · simp only [LeaseBackend.run, PostgresElasticLeaseJournal.run]
      rw [nonnegative_ok (hkept.revision hr), ok_bind,
        nonnegative_ok ⟨Int.le_trans hclock hle, hmax⟩, ok_bind]
      exact hupdate
    · rw [Int.max_eq_right hle]
      exact hkept'

/-- The revision under which a revocation ends. -/
theorem LeaseBackend.Sound.counts (h : backend.Sound rows clock) (hr : r ∈ rows)
    (hroom : backend.Room 1 r) : -(2 ^ 63) ≤ r.revision + 1 ∧ r.revision + 1 ≤ maxBigint := by
  cases backend with
  | sqlite =>
    obtain ⟨hlow, hhigh⟩ : -(2 ^ 63) ≤ r.revision ∧ r.revision + 2 * 1 ≤ maxBigint := hroom
    omega
  | postgres ctype =>
    have hkept : Kept ctype rows clock := h
    have hattempts : r.revokeAttempts + 1 ≤ maxInteger := hroom
    obtain ⟨hlow, -⟩ := hkept.revision hr
    obtain ⟨-, hany, -⟩ := hkept.counted r hr
    unfold maxInteger at hattempts
    unfold maxBigint
    omega

/-- A row is read under its id. -/
theorem LeaseBackend.Sound.gets (h : backend.Sound rows clock) (hr : r ∈ rows) :
    backend.run descriptorDigest rows (.get r.leaseId) = .ok (rows, .record r) := by
  cases backend with
  | sqlite =>
    obtain ⟨hids, hexact⟩ := h
    show SQLiteElasticLeaseJournal.get rows r.leaseId = _
    unfold SQLiteElasticLeaseJournal.get
    rw [find?_key hids hr]
    show (r.exact >>= _) = _
    rw [hexact r hr]
    rfl
  | postgres ctype =>
    have hkept : Kept ctype rows clock := h
    show PostgresElasticLeaseJournal.get rows r.leaseId = _
    rw [hkept.get_same]
    exact get_row hkept.ids hr (hkept.checks r hr)

/-- The unsettled leases are listed from the first created on, as many as the limit allows. -/
theorem unsettled_answers (backend : LeaseBackend) (hexact : ∀ r ∈ rows, r.exact = .ok r)
    {limit : Int} (hlimit : 1 ≤ limit ∧ limit ≤ 10000) :
    backend.run descriptorDigest rows (.unsettled limit)
      = .ok (rows, .records ((outstanding rows).take limit.toNat)) := by
  have hselected : selectRows rows (fun r => decide (r.state ≠ .revoked)) limit
      = (outstanding rows).take limit.toNat := rfl
  have hread : ∀ r ∈ (outstanding rows).take limit.toNat, r.exact = .ok r :=
    fun r hr => hexact r (mem_outstanding.mp (List.mem_of_mem_take hr)).1
  cases backend with
  | sqlite =>
    show SQLiteElasticLeaseJournal.select rows _ limit = _
    unfold SQLiteElasticLeaseJournal.select checkLimit
    rw [require_pos hlimit, ok_bind, hselected, mapM_exact hread]
    rfl
  | postgres ctype =>
    have hrecord : ∀ r ∈ (outstanding rows).take limit.toNat,
        PostgresElasticLeaseJournal.record r = .ok r := by
      intro r hr
      unfold PostgresElasticLeaseJournal.record
      rw [hread r hr]
    show PostgresElasticLeaseJournal.select rows _ limit = _
    unfold PostgresElasticLeaseJournal.select checkLimit
    rw [require_pos hlimit, ok_bind, hselected, mapM_exact hrecord]
    rfl

/-- All unsettled leases are listed, if there are not too many. -/
theorem unsettled_lists (backend : LeaseBackend) (hexact : ∀ r ∈ rows, r.exact = .ok r) {limit : Int}
    (hlimit : 1 ≤ limit ∧ limit ≤ 10000) (hcount : (outstanding rows).length ≤ limit) :
    backend.run descriptorDigest rows (.unsettled limit)
      = .ok (rows, .records (outstanding rows)) := by
  rw [unsettled_answers backend hexact hlimit, List.take_of_length_le (by omega)]

theorem LeaseBackend.Sound.exact (h : backend.Sound rows clock) : ∀ r ∈ rows, r.exact = .ok r := by
  cases backend with
  | sqlite => exact h.2
  | postgres ctype => exact fun r hr => (Kept.checks h r hr).exact

end

/-! ## One lease -/

section

variable {pending : ElasticLeaseRecord} {invalidated previous : List KeyId} {errorCount : Int}
variable {errorDetails : Bool}

/-- A confirmation has no errors, and it names the key of the lease if that is known. -/
theorem confirmedBy_iff : (revocationRequest pending).ConfirmedBy
      (.invalidation invalidated previous errorCount errorDetails)
    ↔ (errorCount = 0 ∧ errorDetails = false)
      ∧ ∀ key ∈ pending.keyId, key ∈ invalidated ∨ key ∈ previous := by
  unfold revocationRequest
  cases pending.keyId with
  | none => exact ⟨fun h => ⟨h, fun _ hno => (nomatch hno)⟩, And.left⟩
  | some key =>
    refine and_congr_right fun _ => ⟨fun h k hk => ?_, fun h k hk => ?_⟩
    · obtain rfl := Option.some.inj hk
      exact h key (List.mem_singleton.mpr rfl)
    · rw [List.mem_singleton.mp hk]
      exact h key rfl

theorem confirmedBy_invalidation {response : PamResponse}
    (h : (revocationRequest pending).ConfirmedBy response) :
    ∃ invalidated previous errorCount errorDetails,
      response = .invalidation invalidated previous errorCount errorDetails := by
  unfold revocationRequest at h
  cases response with
  | invalidation invalidated previous errorCount errorDetails => exact ⟨_, _, _, _, rfl⟩
  | refused => cases hkey : pending.keyId <;> rw [hkey] at h <;> exact h.elim

/-- What `_revoke` asks of an answer. -/
theorem readInvalidation_reads : (∃ outcome, readInvalidation pending
      (.ok (.invalidation invalidated previous errorCount errorDetails)) = .ok outcome)
    ↔ (errorCount = 0 ∧ errorDetails = false)
      ∧ ∀ key ∈ pending.keyId, key ∈ invalidated ∨ key ∈ previous := by
  unfold readInvalidation
  simp only [bind_eq_ok, require_eq_ok]
  constructor
  · rintro ⟨outcome, -, hclean, h⟩
    refine ⟨hclean, fun key hkey => ?_⟩
    rw [Option.mem_def.mp hkey] at h
    dsimp only at h
    split at h
    next hmem => exact Or.inl hmem
    next =>
      split at h
      next hmem => exact Or.inr hmem
      next => cases h
  · rintro ⟨hclean, hkeys⟩
    cases hkey : pending.keyId with
    | none => exact ⟨_, (), hclean, rfl⟩
    | some key =>
      by_cases hfirst : key ∈ invalidated
      · exact ⟨_, (), hclean, if_pos hfirst⟩
      · have hmem := (hkeys key hkey).resolve_left hfirst
        exact ⟨_, (), hclean, (if_neg hfirst).trans (if_pos hmem)⟩

/-- `_revoke` accepts an answer exactly when it confirms what was asked for. -/
theorem readInvalidation_iff {response : Except LeaseError PamResponse} :
    (∃ outcome, readInvalidation pending response = .ok outcome)
      ↔ ∃ confirmed, response = .ok confirmed
        ∧ (revocationRequest pending).ConfirmedBy confirmed := by
  constructor
  · rintro ⟨outcome, h⟩
    rcases response with e | ⟨_, _, _, _⟩ | e
    · cases h
    · exact ⟨_, rfl, confirmedBy_iff.mpr (readInvalidation_reads.mp ⟨outcome, h⟩)⟩
    · cases h
  · rintro ⟨confirmed, rfl, h⟩
    obtain ⟨_, _, _, _, rfl⟩ := confirmedBy_invalidation h
    exact readInvalidation_reads.mpr (confirmedBy_iff.mp h)

end

section

variable {backend : LeaseBackend} {descriptorDigest : List Char → Digest} {F : Set LeaseId}
variable {s s' : RecoveryWorld}
variable {made : List (Made RecoveryWorld BrokerCall BrokerCall.Out)}
variable {r : Except BrokerError (List ElasticPamRecoveryResult)}

/-- A journal call that returns one record. -/
theorem journalRecord_plays {call : LeaseCall} {rows : LeaseRows} {record : ElasticLeaseRecord}
    {k : Except LeaseError ElasticLeaseRecord → BrokerClient}
    (hrun : backend.run descriptorDigest s.rows call = .ok (rows, .record record))
    (h : Plays (recoveryExec backend descriptorDigest F) Eq (journalRecord call k) s made
      r s') :
    ∃ rest, Plays (recoveryExec backend descriptorDigest F) Eq (k (.ok record))
      { s with rows := rows } rest r s' := by
  cases h with
  | call hothers hexec hrest =>
    subst hothers
    simp only [recoveryExec, hrun] at hexec
    obtain ⟨rfl, rfl⟩ := hexec
    exact ⟨_, hrest⟩

/-- One lease is revoked, or it is one of `F` and only the revocation has begun. -/
theorem revoke_plays (hsound : backend.Sound s.rows s.clock) {x : ElasticLeaseRecord}
    (hx : x ∈ s.rows) (hstate : x.state ≠ .revoked) (hroom : backend.Room 1 x)
    {k : Except LeaseError (ElasticLeaseRecord × RevocationOutcome) → BrokerClient}
    (h : Plays (recoveryExec backend descriptorDigest F) Eq (revoke x recoveryReason k) s
      made r s') :
    ∃ s₁ rest, backend.Sound s₁.rows s₁.clock
      ∧ ((x.leaseId ∉ F ∧ ∃ now outcome,
          Replaced (·.leaseId) s.rows s₁.rows x ((x.revoking recoveryReason).settled now)
            ∧ Plays (recoveryExec backend descriptorDigest F) Eq
              (k (.ok ((x.revoking recoveryReason).settled now, outcome))) s₁ rest r s')
        ∨ (x.leaseId ∈ F ∧ ∃ e,
          Replaced (·.leaseId) s.rows s₁.rows x (x.revoking recoveryReason)
            ∧ Plays (recoveryExec backend descriptorDigest F) Eq (k (.error e)) s₁ rest r s')) := by
  obtain ⟨rows, hrun, hsound₁, hreplaced⟩ := hsound.begins hx hstate hroom
  obtain ⟨rest, h⟩ := journalRecord_plays hrun h
  -- the request is sent, and its answer is the one of this lease
  cases h with
  | call hothers hexec h =>
    subst hothers
    obtain ⟨rfl, rfl⟩ := hexec
    cases h with
    | @call _ _ _ _ answer _ _ _ _ hothers hexec h =>
      subst hothers
      obtain ⟨rfl, hanswer⟩ := hexec
      have hsent := hanswer ⟨revocationRequest (x.revoking recoveryReason), x.leaseId⟩
        List.getElem?_concat_length
      rw [← readInvalidation_iff] at hsent
      dsimp only at h
      by_cases hin : x.leaseId ∈ F
      · have hrefused : ¬∃ outcome, readInvalidation (x.revoking recoveryReason) answer
            = .ok outcome := fun hread => hsent.mp hread hin
        cases hread : readInvalidation (x.revoking recoveryReason) answer with
        | ok outcome => exact absurd ⟨outcome, hread⟩ hrefused
        | error e =>
          rw [hread] at h
          exact ⟨_, _, hsound₁, Or.inr ⟨hin, e, hreplaced, h⟩⟩
      · obtain ⟨outcome, hread⟩ := hsent.mpr hin
        rw [hread] at h
        cases h with
        | @call _ _ _ _ now after _ _ _ hothers hexec h =>
          subst hothers
          obtain ⟨hnow, hrows, -, hclock⟩ := hexec
          have hsame : after.rows = rows := hrows
          obtain ⟨rows₂, hrun₂, hsound₂, hreplaced₂⟩ := hsound₁.finishes hreplaced.mem_new rfl
            (hsound.counts hx hroom) hnow
          rw [← hsame] at hrun₂
          obtain ⟨rest, h⟩ := journalRecord_plays hrun₂ h
          refine ⟨_, rest, ?_, Or.inl ⟨hin, now, outcome, replaced_twice hreplaced hreplaced₂, h⟩⟩
          rw [← hclock] at hsound₂
          exact hsound₂

/-! ## The loop -/

/-- What a recovery did with a list of leases. It revoked the first ones, began with one of `F`
and left what came after that. -/
structure Handled (F : Set LeaseId) (records rows rows' : LeaseRows) : Prop where
  others : ∀ y : ElasticLeaseRecord, y.leaseId ∉ records.map (·.leaseId) →
    (y ∈ rows' ↔ y ∈ rows)
  stopped : ∃ done rest, records = done ++ rest
    ∧ (∀ x ∈ done, x.leaseId ∉ F ∧ ∃ now, (x.revoking recoveryReason).settled now ∈ rows')
    ∧ ∀ x later, rest = x :: later →
      x.leaseId ∈ F ∧ x.revoking recoveryReason ∈ rows' ∧ ∀ y ∈ later, y ∈ rows'

/-- By induction on the leases that are left. -/
theorem recoverRecords_plays : ∀ (records : LeaseRows) (results : List ElasticPamRecoveryResult)
    {s : RecoveryWorld} {made : List (Made RecoveryWorld BrokerCall BrokerCall.Out)},
    backend.Sound s.rows s.clock →
    (∀ x ∈ records, x ∈ s.rows ∧ x.state ≠ .revoked ∧ backend.Room 1 x) →
    (records.map (·.leaseId)).Nodup →
    Plays (recoveryExec backend descriptorDigest F) Eq (recoverRecords records results) s
      made r s' →
    backend.Sound s'.rows s'.clock ∧ Handled F records s.rows s'.rows
  | [], results, s, made, hsound, _, _, h => by
    obtain ⟨-, -, rfl⟩ := plays_ret h
    exact ⟨hsound, fun _ _ => Iff.rfl, [], [], rfl, fun _ hx => absurd hx List.not_mem_nil,
      fun _ _ hno => by cases hno⟩
  | x :: records, results, s, made, hsound, hrecords, hids, h => by
    obtain ⟨hx, hstate, hroom⟩ := hrecords x (List.mem_cons_self ..)
    rw [List.map_cons, List.nodup_cons] at hids
    -- a pending lease is read again, and is what it was
    have hrevoke : ∃ made₁ k, Plays (recoveryExec backend descriptorDigest F) Eq
        (revoke x recoveryReason k) s made₁ r s'
        ∧ (∀ e, k (.error e) = .ret (.error (.lease e)))
        ∧ ∀ revoked outcome, k (.ok (revoked, outcome)) = recoverRecords records
            (results ++ [⟨revoked.leaseId, revoked.state, outcome⟩]) := by
      unfold recoverRecords at h
      dsimp only at h
      split at h
      next =>
        obtain ⟨made₁, h⟩ := journalRecord_plays (hsound.gets hx) h
        exact ⟨made₁, _, h, fun _ => rfl, fun _ _ => rfl⟩
      next => exact ⟨made, _, h, fun _ => rfl, fun _ _ => rfl⟩
    obtain ⟨made₁, k, hrevoke, herror, hok⟩ := hrevoke
    have hapart : ∀ y ∈ records, y.leaseId ≠ x.leaseId :=
      fun y hy hsame => hids.1 (hsame ▸ List.mem_map_of_mem hy)
    obtain ⟨s₁, rest, hsound₁, ⟨hout, now, outcome, hreplaced, h⟩ | ⟨hin, e, hreplaced, h⟩⟩ :=
      revoke_plays hsound hx hstate hroom hrevoke
    · rw [hok] at h
      have hleft : ∀ y ∈ records, y ∈ s₁.rows ∧ y.state ≠ .revoked ∧ backend.Room 1 y := by
        intro y hy
        obtain ⟨hmem, hopen⟩ := hrecords y (List.mem_cons_of_mem _ hy)
        exact ⟨(hreplaced.rows y).mpr (Or.inr ⟨hmem, hapart y hy⟩), hopen⟩
      obtain ⟨hsound', hothers, done, left, hsplit, hdone, hleftover⟩ :=
        recoverRecords_plays records _ hsound₁ hleft hids.2 h
      refine ⟨hsound', fun y hy => ?_, x :: done, left, by rw [hsplit]; rfl, fun z hz => ?_,
        hleftover⟩
      · rw [List.map_cons, List.mem_cons, not_or] at hy
        rw [hothers y hy.2, hreplaced.rows]
        constructor
        · rintro (rfl | ⟨hmem, -⟩)
          · exact absurd rfl hy.1
          · exact hmem
        · exact fun hmem => Or.inr ⟨hmem, hy.1⟩
      · rcases List.mem_cons.mp hz with rfl | hz
        · refine ⟨hout, now, (hothers _ ?_).mpr hreplaced.mem_new⟩
          exact hids.1
        · exact hdone z hz
    · rw [herror] at h
      obtain ⟨-, -, rfl⟩ := plays_ret h
      refine ⟨hsound₁, fun y hy => ?_, [], x :: records, rfl,
        fun _ hno => absurd hno List.not_mem_nil, ?_⟩
      · rw [List.map_cons, List.mem_cons, not_or] at hy
        rw [hreplaced.rows]
        constructor
        · rintro (rfl | ⟨hmem, -⟩)
          · exact absurd rfl hy.1
          · exact hmem
        · exact fun hmem => Or.inr ⟨hmem, hy.1⟩
      · rintro _ _ ⟨⟩
        refine ⟨hin, hreplaced.mem_new, fun y hy => (hreplaced.rows y).mpr (Or.inr ⟨?_, ?_⟩)⟩
        · exact (hrecords y (List.mem_cons_of_mem _ hy)).1
        · exact hapart y hy

/-! ## The whole call -/

theorem outstanding_ids {rows : LeaseRows} (hids : (rows.map (·.leaseId)).Nodup) :
    ((outstanding rows).map (·.leaseId)).Nodup :=
  ((List.mergeSort_perm _ _).map _).nodup_iff.mpr (hids.sublist (List.filter_sublist.map _))

section

variable {rows rows' : LeaseRows}

/-- Two rows of one lease are one row. -/
theorem same_row (hids : (rows.map (·.leaseId)).Nodup) {x y : ElasticLeaseRecord} (hx : x ∈ rows)
    (hy : y ∈ rows) (hsame : x.leaseId = y.leaseId) : x = y :=
  List.inj_on_of_nodup_map hids hx hy hsame

/-- The rows that are still unsettled after a recovery: of the lease it stopped at, and the ones
it did not come to. -/
theorem Handled.left (h : Handled F (outstanding rows) rows rows')
    (hids' : (rows'.map (·.leaseId)).Nodup) {y : ElasticLeaseRecord} (hy : y ∈ rows')
    (hstate : y.state ≠ .revoked) :
    ∃ x ∈ outstanding rows, y.leaseId = x.leaseId ∧ (y = x ∨ y = x.revoking recoveryReason) := by
  obtain ⟨hothers, done, rest, hsplit, hdone, hrest⟩ := h
  have hmem : y.leaseId ∈ (outstanding rows).map (·.leaseId) := by
    by_contra hnot
    exact hnot (List.mem_map_of_mem (mem_outstanding.mpr ⟨(hothers y hnot).mp hy, hstate⟩))
  obtain ⟨x, hx, hsame⟩ := List.mem_map.mp hmem
  refine ⟨x, hx, hsame.symm, ?_⟩
  rw [hsplit] at hx
  rcases List.mem_append.mp hx with hx | hx
  · obtain ⟨-, now, hsettled⟩ := hdone x hx
    obtain rfl := same_row hids' hy hsettled hsame.symm
    exact absurd rfl hstate
  · cases rest with
    | nil => exact absurd hx List.not_mem_nil
    | cons z later =>
      obtain ⟨-, hbegun, hlater⟩ := hrest z later rfl
      rcases List.mem_cons.mp hx with rfl | hx
      · exact Or.inr (same_row hids' hy hbegun hsame.symm)
      · exact Or.inl (same_row hids' hy (hlater x hx) hsame.symm)

/-- One call does its part for every lease exactly when the leases of `F` come last. -/
theorem Handled.isolated_iff (h : Handled F (outstanding rows) rows rows')
    (hids' : (rows'.map (·.leaseId)).Nodup) : Isolated F rows rows' ↔ FailsLast F rows := by
  obtain ⟨-, done, rest, hsplit, hdone, hrest⟩ := h
  have hopen : ∀ x ∈ done ++ rest, x ∈ rows ∧ x.state ≠ .revoked :=
    fun x hx => mem_outstanding.mp (hsplit ▸ hx)
  constructor
  · intro hisolated
    unfold FailsLast
    rw [hsplit, List.pairwise_append]
    refine ⟨List.Pairwise.imp_of_mem (fun hx _ _ hin => absurd hin (hdone _ hx).1)
      (List.pairwise_of_forall (R := fun _ _ => True) fun _ _ => trivial), ?_,
      fun x hx _ _ hin => absurd hin (hdone x hx).1⟩
    cases rest with
    | nil => exact List.Pairwise.nil
    | cons z later =>
      -- what comes after the failure is as it was
      have hafter : ∀ y ∈ later, y.leaseId ∈ F ∧ y.state = .revokePending := by
        intro y hy
        obtain ⟨hmem, hstate⟩ := hopen y (List.mem_append_right _ (List.mem_cons_of_mem _ hy))
        have hsame := (hrest z later rfl).2.2 y hy
        by_cases hin : y.leaseId ∈ F
        · obtain ⟨r', hr', hlease, hpending⟩ := hisolated.pending y hmem hstate hin
          rw [same_row hids' hr' hsame hlease] at hpending
          exact ⟨hin, hpending⟩
        · obtain ⟨r', hr', hlease, hrevoked⟩ := hisolated.revoked y hmem hstate hin
          rw [same_row hids' hr' hsame hlease] at hrevoked
          exact absurd hrevoked hstate
      refine List.pairwise_cons.mpr ⟨fun y hy _ => hafter y hy, ?_⟩
      exact List.Pairwise.imp_of_mem (fun _ hy _ _ => hafter _ hy)
        (List.pairwise_of_forall (R := fun _ _ => True) fun _ _ => trivial)
  · intro hlast
    unfold FailsLast at hlast
    rw [hsplit, List.pairwise_append] at hlast
    have hcases : ∀ r ∈ rows, r.state ≠ .revoked →
        (r.leaseId ∉ F ∧ ∃ r' ∈ rows', r'.leaseId = r.leaseId ∧ r'.state = .revoked)
          ∨ (r.leaseId ∈ F ∧ ∃ r' ∈ rows', r'.leaseId = r.leaseId ∧ r'.state = .revokePending) := by
      intro r hr hstate
      have hmem : r ∈ done ++ rest := hsplit ▸ mem_outstanding.mpr ⟨hr, hstate⟩
      rcases List.mem_append.mp hmem with hmem | hmem
      · obtain ⟨hout, now, hsettled⟩ := hdone r hmem
        exact Or.inl ⟨hout, _, hsettled, rfl, rfl⟩
      · cases rest with
        | nil => exact absurd hmem List.not_mem_nil
        | cons z later =>
          obtain ⟨hin, hbegun, hlater⟩ := hrest z later rfl
          rcases List.mem_cons.mp hmem with rfl | hmem
          · exact Or.inr ⟨hin, _, hbegun, rfl, rfl⟩
          · obtain ⟨hrin, hpending⟩ := (List.pairwise_cons.mp hlast.2.1).1 r hmem hin
            exact Or.inr ⟨hrin, r, hlater r hmem, rfl, hpending⟩
    refine ⟨fun r hr hstate hout => ?_, fun r hr hstate hin => ?_⟩
    · rcases hcases r hr hstate with ⟨-, hrevoked⟩ | ⟨hin, -⟩
      · exact hrevoked
      · exact absurd hin hout
    · rcases hcases r hr hstate with ⟨hout, -⟩ | ⟨-, hpending⟩
      · exact absurd hin hout
      · exact hpending

/-- After such a call only leases of `F` are left, all of them pending. -/
theorem Handled.fails_last (h : Handled F (outstanding rows) rows rows')
    (hids' : (rows'.map (·.leaseId)).Nodup) (hisolated : Isolated F rows rows') :
    FailsLast F rows' := by
  have hleft : ∀ y ∈ outstanding rows', y.leaseId ∈ F ∧ y.state = .revokePending := by
    intro y hy
    obtain ⟨hmem, hstate⟩ := mem_outstanding.mp hy
    obtain ⟨x, hx, hsame, -⟩ := h.left hids' hmem hstate
    obtain ⟨hxmem, hxstate⟩ := mem_outstanding.mp hx
    by_cases hin : x.leaseId ∈ F
    · obtain ⟨r', hr', hlease, hpending⟩ := hisolated.pending x hxmem hxstate hin
      rw [same_row hids' hr' hmem (hlease.trans hsame.symm)] at hpending
      exact ⟨hsame ▸ hin, hpending⟩
    · obtain ⟨r', hr', hlease, hrevoked⟩ := hisolated.revoked x hxmem hxstate hin
      rw [same_row hids' hr' hmem (hlease.trans hsame.symm)] at hrevoked
      exact absurd hrevoked hstate
  exact List.Pairwise.imp_of_mem (fun _ hy _ _ => hleft _ hy)
    (List.pairwise_of_forall (R := fun _ _ => True) fun _ _ => trivial)

/-- No lease becomes unsettled. -/
theorem Handled.fewer (h : Handled F (outstanding rows) rows rows')
    (hids' : (rows'.map (·.leaseId)).Nodup) :
    (outstanding rows').length ≤ (outstanding rows).length := by
  have hsubset : (outstanding rows').map (·.leaseId) ⊆ (outstanding rows).map (·.leaseId) := by
    intro l hl
    obtain ⟨y, hy, rfl⟩ := List.mem_map.mp hl
    obtain ⟨hmem, hstate⟩ := mem_outstanding.mp hy
    obtain ⟨x, hx, hsame, -⟩ := h.left hids' hmem hstate
    exact hsame ▸ List.mem_map_of_mem hx
  simpa using (outstanding_ids hids').length_le_of_subset hsubset

end

/-- A call with room for all unsettled leases. -/
theorem recoverUnsettled_plays (hsound : backend.Sound s.rows s.clock)
    (hroom : ∀ x ∈ outstanding s.rows, backend.Room 1 x) {limit : Int}
    (hlimit : 1 ≤ limit ∧ limit ≤ 10000) (hcount : (outstanding s.rows).length ≤ limit)
    (h : Recovers backend descriptorDigest F limit s made r s') :
    backend.Sound s'.rows s'.clock ∧ Handled F (outstanding s.rows) s.rows s'.rows := by
  have hrun : backend.run descriptorDigest s.rows (.unsettled limit)
      = .ok (s.rows, .records (outstanding s.rows)) :=
    unsettled_lists backend hsound.exact hlimit hcount
  cases h with
  | call hothers hexec hrest =>
    subst hothers
    simp only [recoveryExec, hrun] at hexec
    obtain ⟨rfl, rfl⟩ := hexec
    refine recoverRecords_plays (outstanding s.rows) [] hsound (fun x hx => ?_)
      (outstanding_ids hsound.ids) hrest
    obtain ⟨hmem, hstate⟩ := mem_outstanding.mp hx
    exact ⟨hmem, hstate, hroom x hx⟩

/-- Elasticsearch can confirm every invalidation. -/
theorem confirmable (request : PamRequest) : ∃ response, request.ConfirmedBy response := by
  cases request with
  | invalidateName name => exact ⟨.invalidation [] [] 0 false, rfl, rfl⟩
  | invalidateIds ids =>
    exact ⟨.invalidation ids [] 0 false, ⟨rfl, rfl⟩, fun id hid => Or.inl hid⟩

/-- There is always a clock reading that the journal stores. -/
theorem readable (backend : LeaseBackend) (s : RecoveryWorld) :
    ∃ now, backend.Reads s.clock now ∧ max s.clock now ≤ maxBigint := by
  cases backend with
  | sqlite =>
    have hzero : (0 : Int) ≤ maxBigint := by decide
    exact ⟨0, ⟨by decide, hzero⟩, Int.max_le.mpr ⟨s.clockBounded, hzero⟩⟩
  | postgres ctype =>
    exact ⟨s.clock, ⟨Int.le_refl _, s.clockBounded⟩,
      Int.max_le.mpr ⟨s.clockBounded, s.clockBounded⟩⟩

/-- Every call has some outcome. -/
theorem recoveryExec_total (c : BrokerCall) (s : RecoveryWorld) :
    ∃ answer s', recoveryExec backend descriptorDigest F c s answer s' := by
  cases c with
  | now =>
    obtain ⟨now, hnow, hbounded⟩ := readable backend s
    exact ⟨now, ⟨s.rows, s.sent, max s.clock now, hbounded⟩, hnow, rfl, rfl, rfl⟩
  | journal call =>
    cases hrun : backend.run descriptorDigest s.rows call with
    | ok result =>
      refine ⟨.ok result.2, { s with rows := result.1 }, ?_⟩
      simp only [recoveryExec, hrun, and_self]
    | error e =>
      refine ⟨.error e, s, ?_⟩
      simp only [recoveryExec, hrun, and_self]
  | send request lease => exact ⟨_, _, rfl, rfl⟩
  | receive number =>
    cases hsent : s.sent[number]? with
    | none => exact ⟨.error unavailable, s, rfl, fun d hd => (nomatch hd.symm.trans hsent)⟩
    | some d =>
      have honly : ∀ d', s.sent[number]? = some d' → d' = d :=
        fun d' hd' => Option.some.inj (hd'.symm.trans hsent)
      by_cases hconfirmed : d.lease ∉ F
      · obtain ⟨response, hresponse⟩ := confirmable d.request
        refine ⟨.ok response, s, rfl, fun d' hd' => ?_⟩
        rw [honly d' hd']
        exact ⟨fun _ => hconfirmed, fun _ => ⟨response, rfl, hresponse⟩⟩
      · refine ⟨.error unavailable, s, rfl, fun d' hd' => ?_⟩
        rw [honly d' hd']
        exact ⟨fun ⟨_, hno, _⟩ => (nomatch hno), fun hout => absurd hout hconfirmed⟩

end

theorem recovers_exists (backend : LeaseBackend) (descriptorDigest : List Char → Digest)
    (F : Set LeaseId) (limit : Int) (s : RecoveryWorld) :
    ∃ made r s', Recovers backend descriptorDigest F limit s made r s' :=
  plays_exists recoveryExec_total (fun _ => rfl) _ s

/-- Two calls, one after the other, each do their part for every lease exactly when the leases of
`F` come last. -/
theorem isolated_twice_iff {backend : LeaseBackend} {descriptorDigest : List Char → Digest}
    {F : Set LeaseId} {limit : Int} {s s₁ s₂ : RecoveryWorld}
    {made made' : List (Made RecoveryWorld BrokerCall BrokerCall.Out)}
    {r r' : Except BrokerError (List ElasticPamRecoveryResult)} (hsound : backend.Sound s.rows s.clock)
    (hroom : ∀ x ∈ outstanding s.rows, backend.Room 2 x) (hlimit : 1 ≤ limit ∧ limit ≤ 10000)
    (hcount : (outstanding s.rows).length ≤ limit)
    (h₁ : Recovers backend descriptorDigest F limit s made r s₁)
    (h₂ : Recovers backend descriptorDigest F limit s₁ made' r' s₂) :
    Isolated F s.rows s₁.rows ∧ Isolated F s₁.rows s₂.rows ↔ FailsLast F s.rows := by
  obtain ⟨hsound₁, hhandled⟩ := recoverUnsettled_plays hsound
    (fun x hx => (hroom x hx).mono (by decide)) hlimit hcount h₁
  have hroom₁ : ∀ y ∈ outstanding s₁.rows, backend.Room 1 y := by
    intro y hy
    obtain ⟨hmem, hstate⟩ := mem_outstanding.mp hy
    obtain ⟨x, hx, -, rfl | rfl⟩ := hhandled.left hsound₁.ids hmem hstate
    · exact (hroom y hx).mono (by decide)
    · exact (hroom x hx).revoking
  have hfewer := hhandled.fewer hsound₁.ids
  obtain ⟨hsound₂, hhandled₁⟩ := recoverUnsettled_plays hsound₁ hroom₁ hlimit (by omega) h₂
  constructor
  · exact fun hboth => (hhandled.isolated_iff hsound₁.ids).mp hboth.1
  · intro hlast
    have hisolated := (hhandled.isolated_iff hsound₁.ids).mpr hlast
    exact ⟨hisolated, (hhandled₁.isolated_iff hsound₂.ids).mpr
      (hhandled.fails_last hsound₁.ids hisolated)⟩

/-- **Recovery isolates the leases that come before the ones that fail.** With sound rows whose
counters have room, a limit that the call accepts and that is no smaller than the number of
unsettled leases, and an Elasticsearch that confirms all leases but those of `F`: a call ends, and
so does another one after it, and after each of them the leases outside `F` are revoked and those
of `F` pending exactly when the leases of `F` are last in the order of creation. -/
theorem recovery_isolates (backend : LeaseBackend) (descriptorDigest : List Char → Digest)
    {s : RecoveryWorld} (hsound : backend.Sound s.rows s.clock)
    (hroom : ∀ x ∈ outstanding s.rows, backend.Room 2 x) {limit : Int}
    (hlimit : 1 ≤ limit ∧ limit ≤ 10000) (hcount : (outstanding s.rows).length ≤ limit)
    (F : Set LeaseId) :
    (∃ made r s₁, Recovers backend descriptorDigest F limit s made r s₁)
    ∧ ∀ made r s₁, Recovers backend descriptorDigest F limit s made r s₁ →
      (∃ made' r' s₂, Recovers backend descriptorDigest F limit s₁ made' r' s₂)
      ∧ ∀ made' r' s₂, Recovers backend descriptorDigest F limit s₁ made' r' s₂ →
        (Isolated F s.rows s₁.rows ∧ Isolated F s₁.rows s₂.rows ↔ FailsLast F s.rows) :=
  ⟨recovers_exists .., fun _ _ _ h₁ => ⟨recovers_exists .., fun _ _ _ h₂ =>
    isolated_twice_iff hsound hroom hlimit hcount h₁ h₂⟩⟩

/-! Two leases that wait for their keys. -/

def waitingLease (id : Nat) : ElasticLeaseRecord :=
  preparedRow exampleDescriptor (BitVec.ofNat 256 id) (BitVec.ofNat 128 id) examplePolicy 3 4 1000

def waitingWorld : RecoveryWorld where
  rows := [waitingLease 1, waitingLease 2]
  sent := []
  clock := 1000
  clockBounded := by decide

theorem waiting_outstanding : outstanding waitingWorld.rows = [waitingLease 1, waitingLease 2] := by
  have hfilter : waitingWorld.rows.filter (fun r => decide (r.state ≠ .revoked))
      = [waitingLease 1, waitingLease 2] := by
    decide
  rw [outstanding, hfilter]
  exact List.mergeSort_of_pairwise (by decide)

theorem waiting_sound : LeaseBackend.sqlite.Sound waitingWorld.rows waitingWorld.clock :=
  ⟨by decide, by decide⟩

theorem waiting_room : ∀ x ∈ outstanding waitingWorld.rows, LeaseBackend.sqlite.Room 2 x := by
  rw [waiting_outstanding]
  intro x hx
  show -(2 ^ 63) ≤ x.revision ∧ x.revision + 2 * 2 ≤ maxBigint
  revert x
  decide

/-- Where Elasticsearch confirms everything, both leases are revoked. -/
theorem recovery_isolates_all : ∃ made r s₁,
    Recovers .sqlite exampleDescriptor ∅ 10 waitingWorld made r s₁
      ∧ ∀ x ∈ waitingWorld.rows, ∃ x' ∈ s₁.rows, x'.leaseId = x.leaseId ∧ x'.state = .revoked := by
  obtain ⟨⟨made, r, s₁, h₁⟩, hall⟩ := recovery_isolates .sqlite exampleDescriptor waiting_sound
    waiting_room (by decide : (1 : Int) ≤ 10 ∧ (10 : Int) ≤ 10000)
    (by rw [waiting_outstanding]; decide) ∅
  obtain ⟨⟨made', r', s₂, h₂⟩, hiff⟩ := hall made r s₁ h₁
  have hlast : FailsLast ∅ waitingWorld.rows :=
    List.pairwise_of_forall fun x _ hin => absurd hin (Set.notMem_empty x.leaseId)
  obtain ⟨hisolated, -⟩ := (hiff made' r' s₂ h₂).mpr hlast
  refine ⟨made, r, s₁, h₁, fun x hx => ?_⟩
  have hopen : ∀ x ∈ waitingWorld.rows, x.state ≠ .revoked := by decide
  exact hisolated.revoked x hx (hopen x hx) (Set.notMem_empty _)

/-- The first lease is never confirmed, and the second one is never revoked. -/
theorem failing_lease_stops :
    (∃ made r s₁, Recovers .sqlite exampleDescriptor {1} 10 waitingWorld made r s₁)
    ∧ ∀ made r s₁, Recovers .sqlite exampleDescriptor {1} 10 waitingWorld made r s₁ →
      (∃ made' r' s₂, Recovers .sqlite exampleDescriptor {1} 10 s₁ made' r' s₂)
      ∧ ∀ made' r' s₂, Recovers .sqlite exampleDescriptor {1} 10 s₁ made' r' s₂ →
        ¬(Isolated {1} waitingWorld.rows s₁.rows ∧ Isolated {1} s₁.rows s₂.rows) := by
  refine ⟨recovers_exists .., fun made r s₁ h₁ => ⟨recovers_exists .., ?_⟩⟩
  intro made' r' s₂ h₂ hboth
  have hlast := (isolated_twice_iff waiting_sound waiting_room
    (by decide : (1 : Int) ≤ 10 ∧ (10 : Int) ≤ 10000) (by rw [waiting_outstanding]; decide) h₁ h₂).mp
    hboth
  rw [FailsLast, waiting_outstanding, List.pairwise_cons] at hlast
  have hsecond := (hlast.1 (waitingLease 2) (List.mem_singleton.mpr rfl) (Set.mem_singleton _)).1
  have hother : (waitingLease 2).leaseId ≠ 1 := by decide
  exact hother (Set.mem_singleton_iff.mp hsecond)

end ControlAssurance.Pam
