import ControlAssurance.Pam.Lease

/-!
# The two lease journals agree

Both journals run the same calls one after another, from no rows. `Kept` is what holds of the
rows along the way: every row passes PostgreSQL's constraints, and its times are not later than
the last call's. From it, an update that SQLite makes passes the triggers and the constraints
of PostgreSQL too, with two exceptions. A reason that still has a control character once its
white space is normalised is refused by a constraint SQLite does not have, and the counter of
revocation attempts ends at `2 ^ 31 - 1` in PostgreSQL.
-/

namespace ControlAssurance.Pam

open Lib

/-! ## The calls -/

/-- Arguments of the kind the broker passes. -/
def LeaseCall.wellFormed : LeaseCall → Prop
  | .prepare _ _ _ _ _ now => 0 ≤ now ∧ now ≤ maxBigint
  | .activate _ revision keyId expiration now =>
    (0 ≤ revision ∧ revision ≤ maxBigint) ∧ keyIdText keyId = true
      ∧ (0 ≤ now ∧ now < expiration ∧ expiration ≤ maxBigint)
  | .beginRevocation _ revision reason =>
    (0 ≤ revision ∧ revision ≤ maxBigint) ∧ ∀ t ∈ reason, joinWords t ≠ []
  | .markRevoked _ revision now =>
    (0 ≤ revision ∧ revision ≤ maxBigint) ∧ 0 ≤ now ∧ now ≤ maxBigint
  | .get _ => True
  | .unsettled limit => 1 ≤ limit ∧ limit ≤ 10000
  | .recordsForRequestDigest _ _ limit => 1 ≤ limit ∧ limit ≤ 10000

instance : (call : LeaseCall) → Decidable call.wellFormed
  | .prepare .. | .activate .. | .beginRevocation .. | .markRevoked .. | .get _ | .unsettled _
  | .recordsForRequestDigest .. => by unfold LeaseCall.wellFormed; infer_instance

/-- The clock reading a call carries. -/
def LeaseCall.time : LeaseCall → Option Millis
  | .prepare _ _ _ _ _ now => some now
  | .activate _ _ _ _ now => some now
  | .markRevoked _ _ now => some now
  | .beginRevocation .. | .get _ | .unsettled _ | .recordsForRequestDigest .. => none

/-- Well-formed calls whose times do not decrease. -/
def WellFormedCalls (calls : List LeaseCall) : Prop :=
  (∀ call ∈ calls, call.wellFormed) ∧ (calls.filterMap (·.time)).Pairwise (· ≤ ·)

/-- The rows after a call; a call that raises is rolled back. -/
def rowsAfter (rows : LeaseRows) : LeaseResult → LeaseRows
  | .ok (rows', _) => rows'
  | .error _ => rows

/-- Equal results, or `ElasticPamError` from both. -/
def SameAnswer : LeaseResult → LeaseResult → Prop
  | .ok (_, a), .ok (_, b) => a = b
  | .error e, .error f => e.isElasticPam = true ∧ f.isElasticPam = true
  | _, _ => False

section

variable (ctype : PostgresCtype) (descriptorDigest : List Char → Digest)

/-- The two journals give the same answers and keep the same rows, call after call. -/
def Agree (sqlite postgres : LeaseRows) : List LeaseCall → Prop
  | [] => True
  | call :: calls =>
    let s := SQLiteElasticLeaseJournal.run descriptorDigest sqlite call
    let p := PostgresElasticLeaseJournal.run ctype descriptorDigest postgres call
    SameAnswer s p ∧ rowsAfter sqlite s = rowsAfter postgres p
      ∧ Agree (rowsAfter sqlite s) (rowsAfter postgres p) calls

/-- A revocation that finds its lease can be counted, and its reason stored, by both. -/
def LeaseCall.fits (rows : LeaseRows) : LeaseCall → Prop
  | .beginRevocation leaseId revision reason =>
    ∀ r ∈ rows, r.matching leaseId revision unsettledStates = true →
      r.revokeAttempts < maxInteger
        ∧ ∀ t ∈ reason, ∀ c ∈ normalizeError t, ctype.cntrl c = false
  | _ => True

/-- Every call of a run fits the rows before it. -/
def FitsAll (rows : LeaseRows) : List LeaseCall → Prop
  | [] => True
  | call :: calls => call.fits ctype rows
    ∧ FitsAll (rowsAfter rows (SQLiteElasticLeaseJournal.run descriptorDigest rows call)) calls

end

/-! ## What holds along a run -/

/-- A revision is an activation, an attempt or the settlement, and the counters fit. -/
structure ElasticLeaseRecord.Counted (r : ElasticLeaseRecord) : Prop where
  unsettled : r.state ≠ .revoked → r.revision ≤ r.revokeAttempts + 1
  any : r.revision ≤ r.revokeAttempts + 2
  attempts : r.revokeAttempts ≤ maxInteger

/-- The rows as PostgreSQL would accept them, at the time of the last call. -/
structure Kept (ctype : PostgresCtype) (rows : LeaseRows) (now : Millis) : Prop where
  ids : (rows.map (·.leaseId)).Nodup
  checks : ∀ r ∈ rows, r.checks ctype
  created : ∀ r ∈ rows, r.createdEpochMillis ≤ now
  activated : ∀ r ∈ rows, ∀ a ∈ r.activatedEpochMillis, a ≤ now
  counted : ∀ r ∈ rows, r.Counted

section

variable {ctype : PostgresCtype} {descriptorDigest : List Char → Digest} {rows : LeaseRows}
variable {now : Millis} {r old : ElasticLeaseRecord}

/-- A row within the checks passes the validators of the record. -/
theorem ElasticLeaseRecord.checks.exact (h : r.checks ctype) : r.exact = .ok r := by
  unfold ElasticLeaseRecord.exact
  rw [require_pos h.1, ok_bind, require_pos h.2.2.1]
  rfl

theorem ElasticLeaseRecord.checks.record (h : r.checks ctype) :
    PostgresElasticLeaseJournal.record r = .ok r := by
  unfold PostgresElasticLeaseJournal.record
  rw [h.exact]

theorem matching_iff {leaseId : LeaseId} {revision : Int} {states : List LeaseState} :
    r.matching leaseId revision states = true
      ↔ r.leaseId = leaseId ∧ r.revision = revision ∧ r.state ∈ states :=
  decide_eq_true_iff

/-- A reason with a word in it fits into its column. -/
theorem normalizeError_bounded {t : List Char} (h : joinWords t ≠ []) :
    1 ≤ (normalizeError t).length ∧ (normalizeError t).length ≤ 512 := by
  have hpos : 0 < (joinWords t).length := List.length_pos_iff.mpr h
  unfold normalizeError
  rw [List.length_take]
  show 1 ≤ min 512 _ ∧ min 512 _ ≤ 512
  omega

/-- A prepared row is within the checks. -/
theorem preparedRow_checks {leaseId : LeaseId} {keyName : KeyName} {policy : ElasticPamPolicy}
    {requestDigest endpointOriginDigest : Digest} (hnow : 0 ≤ now) :
    (preparedRow descriptorDigest leaseId keyName policy requestDigest endpointOriginDigest
      now).checks ctype := by
  refine ⟨policy.aliasExact, policy.ttlBounded, ?_, ?_, hnow, ?_, ?_, Int.le_refl 0,
    Int.le_refl 0, ?_, ?_, ?_, ⟨rfl, rfl, rfl, rfl, rfl, rfl, rfl⟩⟩
  -- every column these are about is absent
  all_goals exact fun _ h => nomatch h

/-- An activation keeps a row within them. -/
theorem activated_checks {keyId : List Char} {expiration : Millis} (h : old.checks ctype)
    (hstate : old.state = .prepared) (hkey : keyIdText keyId = true)
    (hcreated : old.createdEpochMillis ≤ now) (hexpires : now < expiration) :
    (old.activated keyId expiration now).checks ctype := by
  obtain ⟨halias, httl, -, -, hzero, -, -, hattempts, hrevision, -, -, -, hshape⟩ := h
  unfold ElasticLeaseRecord.stateShape at hshape
  rw [hstate] at hshape
  obtain ⟨hrev, -, -, -, hrevoked, hnone, -⟩ := hshape
  have hunrevoked : (old.activated keyId expiration now).revokedEpochMillis = none := hrevoked
  refine ⟨halias, httl, ?_, ?_, hzero, ?_, ?_, hattempts, ?_, ?_, ?_, ?_, ?_⟩
  · intro k hk
    obtain rfl := Option.some.inj hk
    exact hkey
  · intro e he
    obtain rfl := Option.some.inj he
    exact Int.le_trans hzero (Int.le_trans hcreated (Int.le_of_lt hexpires))
  · intro a ha
    obtain rfl := Option.some.inj ha
    exact hcreated
  · intro v hv
    rw [hunrevoked] at hv
    cases hv
  · show 0 ≤ old.revision + 1
    omega
  · exact fun _ ht => nomatch ht
  · intro e he
    obtain rfl := Option.some.inj he
    exact ⟨now, rfl, hexpires⟩
  · intro a _ v hv
    rw [hunrevoked] at hv
    cases hv
  · refine ⟨?_, Option.some_ne_none _, Option.some_ne_none _, Option.some_ne_none _, hrevoked,
      hnone, rfl⟩
    show old.revision + 1 = 1
    omega

/-- Before it is settled a lease has no revocation time, and its key is known or it is not. -/
theorem unsettled_shape (h : old.checks ctype) (hstate : old.state ∈ unsettledStates) :
    old.revokedEpochMillis = none ∧ old.keyShape := by
  obtain ⟨-, -, -, -, -, -, -, -, -, -, -, -, hshape⟩ := h
  unfold ElasticLeaseRecord.stateShape at hshape
  cases hs : old.state with
  | prepared =>
    rw [hs] at hshape
    obtain ⟨-, hkey, hexpires, hactivated, hrevoked, -⟩ := hshape
    exact ⟨hrevoked, Or.inl ⟨hkey, hexpires, hactivated⟩⟩
  | active =>
    rw [hs] at hshape
    obtain ⟨-, hkey, hexpires, hactivated, hrevoked, -⟩ := hshape
    exact ⟨hrevoked, Or.inr ⟨hkey, hexpires, hactivated⟩⟩
  | revokePending =>
    rw [hs] at hshape
    exact ⟨hshape.2.1, hshape.2.2.2⟩
  | revoked =>
    rw [hs] at hstate
    exact absurd hstate (by decide)

/-- So does the start of a revocation, if the reason has no control character. -/
theorem revoking_checks {reason : Option (List Char)} (h : old.checks ctype)
    (hstate : old.state ∈ unsettledStates) (hwords : ∀ t ∈ reason, joinWords t ≠ [])
    (hprinted : ∀ t ∈ reason, ∀ c ∈ normalizeError t, ctype.cntrl c = false) :
    (old.revoking reason).checks ctype := by
  obtain ⟨hrevoked, hkeyShape⟩ := unsettled_shape h hstate
  obtain ⟨halias, httl, hkey, hexpires, hzero, hcreated, -, hattempts, hrevision, -, horder, -,
    -⟩ := h
  have hunrevoked : (old.revoking reason).revokedEpochMillis = none := hrevoked
  refine ⟨halias, httl, hkey, hexpires, hzero, hcreated, ?_, ?_, ?_, ?_, horder, ?_, ?_⟩
  · intro v hv
    rw [hunrevoked] at hv
    cases hv
  · show 0 ≤ old.revokeAttempts + 1
    omega
  · show 0 ≤ old.revision + 1
    omega
  · intro text htext
    obtain ⟨t, ht, rfl⟩ := Option.map_eq_some_iff.mp htext
    exact ⟨normalizeError_bounded (hwords t ht), hprinted t ht⟩
  · intro a _ v hv
    rw [hunrevoked] at hv
    cases hv
  · refine ⟨?_, hrevoked, ?_, hkeyShape⟩
    · show 1 ≤ old.revision + 1
      omega
    · show 1 ≤ old.revokeAttempts + 1
      omega

/-- And so does its end. -/
theorem settled_checks_of (h : old.checks ctype) (hstate : old.state = .revokePending)
    (hcreated : old.createdEpochMillis ≤ now)
    (hactivated : ∀ a ∈ old.activatedEpochMillis, a ≤ now) :
    (old.settled now).checks ctype := by
  obtain ⟨-, hkeyShape⟩ := unsettled_shape h (by rw [hstate]; decide)
  obtain ⟨halias, httl, hkey, hexpires, hzero, hafter, -, hattempts, hrevision, -, horder, -,
    hshape⟩ := h
  unfold ElasticLeaseRecord.stateShape at hshape
  rw [hstate] at hshape
  obtain ⟨hrev, -, hcount, -⟩ := hshape
  refine ⟨halias, httl, hkey, hexpires, hzero, hafter, ?_, hattempts, ?_, ?_, horder, ?_, ?_⟩
  · intro v hv
    obtain rfl := Option.some.inj hv
    exact hcreated
  · show 0 ≤ old.revision + 1
    omega
  · exact fun _ ht => nomatch ht
  · intro a ha v hv
    obtain rfl := Option.some.inj hv
    exact hactivated a ha
  · refine ⟨?_, Option.some_ne_none _, hcount, rfl, hkeyShape⟩
    show 2 ≤ old.revision + 1
    omega

/-! ## Reading and inserting -/

theorem Kept.get_same (h : Kept ctype rows now) (leaseId : LeaseId) :
    PostgresElasticLeaseJournal.get rows leaseId = SQLiteElasticLeaseJournal.get rows leaseId := by
  unfold PostgresElasticLeaseJournal.get SQLiteElasticLeaseJournal.get
  cases hrow : rows.find? fun r => decide (r.leaseId = leaseId) with
  | none => rfl
  | some row =>
    have hchecks := h.checks row (List.mem_of_find?_eq_some hrow)
    show (PostgresElasticLeaseJournal.record row >>= _) = (row.exact >>= _)
    rw [hchecks.record, hchecks.exact]

theorem get_error {leaseId : LeaseId} {e : LeaseError} (h : Kept ctype rows now)
    (herror : SQLiteElasticLeaseJournal.get rows leaseId = .error e) : e.isElasticPam = true := by
  unfold SQLiteElasticLeaseJournal.get at herror
  cases hrow : rows.find? fun r => decide (r.leaseId = leaseId) with
  | none =>
    rw [hrow] at herror
    cases herror
    rfl
  | some row =>
    have hchecks := h.checks row (List.mem_of_find?_eq_some hrow)
    rw [hrow] at herror
    have hread : (row.exact >>= fun r => pure (rows, LeaseAnswer.record r))
      = Except.error e := herror
    rw [hchecks.exact] at hread
    cases hread

/-- A row is read back under its id. -/
theorem get_row {rows' : LeaseRows} (hids : (rows'.map (·.leaseId)).Nodup) (hr : r ∈ rows')
    (hchecks : r.checks ctype) :
    SQLiteElasticLeaseJournal.get rows' r.leaseId = .ok (rows', .record r) := by
  unfold SQLiteElasticLeaseJournal.get
  rw [find?_key hids hr]
  show (r.exact >>= _) = _
  rw [hchecks.exact]
  rfl

theorem mapM_exact {f : ElasticLeaseRecord → Except LeaseError ElasticLeaseRecord} :
    ∀ {rs : LeaseRows}, (∀ r ∈ rs, f r = .ok r) → rs.mapM f = .ok rs
  | [], _ => rfl
  | r :: rs, h => by
    rw [List.mapM_cons, h r (List.mem_cons_self ..), ok_bind,
      mapM_exact fun x hx => h x (List.mem_cons_of_mem _ hx)]
    rfl

/-- Both stores list the same rows. -/
theorem Kept.select_same (h : Kept ctype rows now) (selected : ElasticLeaseRecord → Bool)
    {limit : Int} (hlimit : 1 ≤ limit ∧ limit ≤ 10000) :
    SQLiteElasticLeaseJournal.select rows selected limit
        = .ok (rows, .records (selectRows rows selected limit))
      ∧ PostgresElasticLeaseJournal.select rows selected limit
        = .ok (rows, .records (selectRows rows selected limit)) := by
  have hchecks : ∀ r ∈ selectRows rows selected limit, r.checks ctype := by
    intro r hr
    have hsorted := List.mem_of_mem_take hr
    exact h.checks r (List.mem_of_mem_filter (List.mem_mergeSort.mp hsorted))
  unfold SQLiteElasticLeaseJournal.select PostgresElasticLeaseJournal.select checkLimit
  rw [require_pos hlimit, ok_bind, ok_bind, mapM_exact fun r hr => (hchecks r hr).exact,
    mapM_exact fun r hr => (hchecks r hr).record]
  exact ⟨rfl, rfl⟩

/-- A call that leaves the rows alone keeps them, at a later time too. -/
theorem Kept.mono {later : Millis} (h : Kept ctype rows now) (hle : now ≤ later) :
    Kept ctype rows later :=
  ⟨h.ids, h.checks, fun r hr => Int.le_trans (h.created r hr) hle,
    fun r hr a ha => Int.le_trans (h.activated r hr a ha) hle, h.counted⟩

/-! ## Updates -/

section

variable {leaseId : LeaseId} {revision : Int} {states : List LeaseState}
variable {set : ElasticLeaseRecord → ElasticLeaseRecord} {lost : String}

/-- What a new version of a row has to meet. -/
structure Accepted (ctype : PostgresCtype) (old new : ElasticLeaseRecord) (now : Millis) :
    Prop where
  identity : old.sameIdentity new
  transition : old.mayBecome new
  checks : new.checks ctype
  activated : ∀ a ∈ new.activatedEpochMillis, a ≤ now
  counted : new.Counted

/-- The trigger lets an accepted version pass. -/
theorem Accepted.newVersion {new : ElasticLeaseRecord} (h : Accepted ctype old new now) :
    PostgresElasticLeaseJournal.newVersion ctype old new = .ok () := by
  have hrange : new.revokeAttempts ≤ maxInteger ∧ new.revision ≤ maxBigint := by
    obtain ⟨-, hrevision, hattempts⟩ := h.counted
    refine ⟨hattempts, ?_⟩
    unfold maxInteger at hattempts
    unfold maxBigint
    omega
  unfold PostgresElasticLeaseJournal.newVersion
  rw [require_pos hrange, ok_bind, require_pos h.identity, ok_bind, require_pos h.transition,
    ok_bind, require_pos h.checks]

/-- No row matches: both journals lose the transition. -/
theorem update_lost (hrevision : 0 ≤ revision ∧ revision ≤ maxBigint)
    (hnone : ∀ r ∈ rows, ¬r.matching leaseId revision states = true) :
    SQLiteElasticLeaseJournal.update rows leaseId revision states set lost
        = .error (journalError lost)
      ∧ PostgresElasticLeaseJournal.update ctype rows leaseId revision states set lost
        = .error (journalError lost) := by
  have hcount : rows.countP (·.matching leaseId revision states) = 0 :=
    List.countP_eq_zero.mpr hnone
  have hfind : rows.find? (·.matching leaseId revision states) = none :=
    List.find?_eq_none.mpr hnone
  constructor
  · unfold SQLiteElasticLeaseJournal.update SQLiteElasticLeaseJournal.bindInteger
    rw [require_pos (by unfold maxBigint at *; omega), ok_bind, hcount,
      require_neg (by decide)]
    rfl
  · unfold PostgresElasticLeaseJournal.update
    rw [hfind]
    rfl

/-- The one row that matches is found by both. -/
theorem Kept.found (h : Kept ctype rows now) (hold : old ∈ rows)
    (hmatch : old.matching leaseId revision states = true) :
    rows.countP (·.matching leaseId revision states) = 1
      ∧ rows.find? (·.matching leaseId revision states) = some old := by
  have hunique : ∀ x ∈ rows, x.matching leaseId revision states = true →
      x.leaseId = old.leaseId := by
    intro x _ hx
    rw [(matching_iff.mp hx).1, (matching_iff.mp hmatch).1]
  refine ⟨countP_key h.ids hold hmatch hunique, find?_eq_of_unique hold hmatch ?_⟩
  intro x hx hxmatch
  exact List.inj_on_of_nodup_map h.ids hx hold (hunique x hx hxmatch)

/-- SQLite writes a new version under the id of the old one and reads it back. -/
theorem Kept.sqlite_update (h : Kept ctype rows now)
    (hrevision : 0 ≤ revision ∧ revision ≤ maxBigint) (hold : old ∈ rows)
    (hmatch : old.matching leaseId revision states = true)
    (hset : ∀ r, (set r).leaseId = r.leaseId) (hexact : (set old).exact = .ok (set old)) :
    SQLiteElasticLeaseJournal.update rows leaseId revision states set lost
      = .ok (updateWhere (·.matching leaseId revision states) set rows, .record (set old)) := by
  have hids : ((updateWhere (·.matching leaseId revision states) set rows).map
      (·.leaseId)).Nodup := updateWhere_keys hset h.ids
  have hmem : set old ∈ updateWhere (·.matching leaseId revision states) set rows :=
    mem_updateWhere.mpr (Or.inl ⟨old, hold, hmatch, rfl⟩)
  have hid : leaseId = (set old).leaseId := by
    rw [hset, (matching_iff.mp hmatch).1]
  unfold SQLiteElasticLeaseJournal.update SQLiteElasticLeaseJournal.bindInteger
  rw [require_pos (by unfold maxBigint at *; omega), ok_bind,
    require_pos (h.found hold hmatch).1, ok_bind]
  unfold SQLiteElasticLeaseJournal.get
  have hfind : (updateWhere (·.matching leaseId revision states) set rows).find?
      (fun r => decide (r.leaseId = leaseId)) = some (set old) := by
    have hkey := find?_key hids hmem
    rw [← hid] at hkey
    exact hkey
  rw [hfind]
  show ((set old).exact >>= _) = _
  rw [hexact]
  rfl

/-- Both journals make an update whose new version is acceptable, and keep the rows. -/
theorem Kept.update_same {later : Millis} (h : Kept ctype rows now) (hle : now ≤ later)
    (hrevision : 0 ≤ revision ∧ revision ≤ maxBigint) (hold : old ∈ rows)
    (hmatch : old.matching leaseId revision states = true)
    (hset : ∀ r, (set r).leaseId = r.leaseId) (haccepted : Accepted ctype old (set old) later) :
    SQLiteElasticLeaseJournal.update rows leaseId revision states set lost
        = .ok (updateWhere (·.matching leaseId revision states) set rows, .record (set old))
      ∧ PostgresElasticLeaseJournal.update ctype rows leaseId revision states set lost
        = .ok (updateWhere (·.matching leaseId revision states) set rows, .record (set old))
      ∧ Kept ctype (updateWhere (·.matching leaseId revision states) set rows) later := by
  refine ⟨h.sqlite_update hrevision hold hmatch hset haccepted.checks.exact, ?_, ?_⟩
  · unfold PostgresElasticLeaseJournal.update
    rw [(h.found hold hmatch).2]
    show (PostgresElasticLeaseJournal.newVersion ctype old (set old) >>= _) = _
    rw [haccepted.newVersion, ok_bind, haccepted.checks.record]
    rfl
  · have hlater := h.mono hle
    have hrows : ∀ r ∈ updateWhere (·.matching leaseId revision states) set rows,
        r = set old ∨ r ∈ rows := by
      intro r hr
      rcases mem_updateWhere.mp hr with ⟨x, hx, hxmatch, rfl⟩ | ⟨hr, -⟩
      · have hsame : x = old := List.inj_on_of_nodup_map h.ids hx hold (by
          rw [(matching_iff.mp hxmatch).1, (matching_iff.mp hmatch).1])
        rw [hsame]
        exact Or.inl rfl
      · exact Or.inr hr
    refine ⟨updateWhere_keys hset h.ids, ?_, ?_, ?_, ?_⟩
    · intro r hr
      rcases hrows r hr with rfl | hr
      · exact haccepted.checks
      · exact hlater.checks r hr
    · intro r hr
      rcases hrows r hr with rfl | hr
      · obtain ⟨-, -, -, -, -, -, -, hcreated⟩ := haccepted.identity
        rw [hcreated]
        exact hlater.created old hold
      · exact hlater.created r hr
    · intro r hr
      rcases hrows r hr with rfl | hr
      · exact haccepted.activated
      · exact hlater.activated r hr
    · intro r hr
      rcases hrows r hr with rfl | hr
      · exact haccepted.counted
      · exact hlater.counted r hr

end

/-! ## One call -/

/-- The time of the rows after a call. -/
def LeaseCall.clock (call : LeaseCall) (now : Millis) : Millis := call.time.getD now

/-- Both journals did the same with a call. -/
structure SameStep (ctype : PostgresCtype) (descriptorDigest : List Char → Digest)
    (rows : LeaseRows) (now : Millis) (call : LeaseCall) : Prop where
  answer : SameAnswer (SQLiteElasticLeaseJournal.run descriptorDigest rows call)
    (PostgresElasticLeaseJournal.run ctype descriptorDigest rows call)
  same : rowsAfter rows (SQLiteElasticLeaseJournal.run descriptorDigest rows call)
    = rowsAfter rows (PostgresElasticLeaseJournal.run ctype descriptorDigest rows call)
  kept : Kept ctype (rowsAfter rows (SQLiteElasticLeaseJournal.run descriptorDigest rows call))
    (call.clock now)

variable {call : LeaseCall}

/-- Two successes are one step if what they leave is within the checks. -/
theorem sameStep_ok {rows' : LeaseRows} {answer : LeaseAnswer}
    (hs : SQLiteElasticLeaseJournal.run descriptorDigest rows call = .ok (rows', answer))
    (hp : PostgresElasticLeaseJournal.run ctype descriptorDigest rows call = .ok (rows', answer))
    (hkept : Kept ctype rows' (call.clock now)) :
    SameStep ctype descriptorDigest rows now call := by
  refine ⟨?_, ?_, ?_⟩
  · rw [hs, hp]
    exact rfl
  · rw [hs, hp]
  · rw [hs]
    exact hkept

/-- Two refusals of the PAM error are one step. -/
theorem sameStep_error {e f : LeaseError}
    (hs : SQLiteElasticLeaseJournal.run descriptorDigest rows call = .error e)
    (hp : PostgresElasticLeaseJournal.run ctype descriptorDigest rows call = .error f)
    (he : e.isElasticPam = true) (hf : f.isElasticPam = true)
    (hkept : Kept ctype rows (call.clock now)) :
    SameStep ctype descriptorDigest rows now call := by
  refine ⟨?_, ?_, ?_⟩
  · rw [hs, hp]
    exact ⟨he, hf⟩
  · rw [hs, hp]
    rfl
  · rw [hs]
    exact hkept

theorem bindInteger_ok {x : Int} (h : 0 ≤ x ∧ x ≤ maxBigint) :
    SQLiteElasticLeaseJournal.bindInteger x = .ok () := by
  refine require_pos ⟨?_, h.2⟩
  omega

theorem nonnegative_ok {x : Int} {label : String} (h : 0 ≤ x ∧ x ≤ maxBigint) :
    PostgresElasticLeaseJournal.nonnegative x label = .ok () :=
  require_pos h

/-- Both stores prepare alike: a lease that exists is answered, another is inserted. -/
theorem prepare_same {leaseId : LeaseId} {keyName : KeyName} {policy : ElasticPamPolicy}
    {requestDigest endpointOriginDigest : Digest} {later : Millis} (h : Kept ctype rows now)
    (hle : now ≤ later) (htime : 0 ≤ later ∧ later ≤ maxBigint) :
    SameStep ctype descriptorDigest rows now
      (.prepare leaseId keyName policy requestDigest endpointOriginDigest later) := by
  obtain ⟨row, hrow⟩ : ∃ row, preparedRow descriptorDigest leaseId keyName policy requestDigest
      endpointOriginDigest later = row := ⟨_, rfl⟩
  have hchecks : row.checks ctype := hrow ▸ preparedRow_checks htime.1
  have hid : row.leaseId = leaseId := hrow ▸ rfl
  have hname : row.keyName = keyName := hrow ▸ rfl
  have hlater := h.mono hle
  by_cases hnew : ∀ r ∈ rows, r.leaseId ≠ row.leaseId ∧ r.keyName ≠ row.keyName
  · have hids : ((rows ++ [row]).map (·.leaseId)).Nodup :=
      append_keys h.ids fun x hx => (hnew x hx).1
    have hs : SQLiteElasticLeaseJournal.run descriptorDigest rows
        (.prepare leaseId keyName policy requestDigest endpointOriginDigest later)
        = .ok (rows ++ [row], .record row) := by
      simp only [SQLiteElasticLeaseJournal.run]
      rw [bindInteger_ok htime, ok_bind, hrow, ← hid, ← hname, require_pos hnew, ok_bind]
      exact get_row hids (List.mem_append_right _ (List.mem_singleton.mpr rfl)) hchecks
    have hp : PostgresElasticLeaseJournal.run ctype descriptorDigest rows
        (.prepare leaseId keyName policy requestDigest endpointOriginDigest later)
        = .ok (rows ++ [row], .record row) := by
      simp only [PostgresElasticLeaseJournal.run, PostgresElasticLeaseJournal.insert]
      rw [nonnegative_ok htime, ok_bind, hrow, require_pos hchecks, ok_bind, require_pos hnew,
        ok_bind, hchecks.record]
      rfl
    refine sameStep_ok hs hp ⟨hids, ?_, ?_, ?_, ?_⟩
    · intro r hr
      rcases List.mem_append.mp hr with hr | hr
      · exact hlater.checks r hr
      · rw [List.mem_singleton.mp hr]
        exact hchecks
    · intro r hr
      rcases List.mem_append.mp hr with hr | hr
      · exact hlater.created r hr
      · rw [List.mem_singleton.mp hr, ← hrow]
        exact Int.le_refl later
    · intro r hr a ha
      rcases List.mem_append.mp hr with hr | hr
      · exact hlater.activated r hr a ha
      · rw [List.mem_singleton.mp hr, ← hrow] at ha
        cases ha
    · intro r hr
      rcases List.mem_append.mp hr with hr | hr
      · exact hlater.counted r hr
      · rw [List.mem_singleton.mp hr, ← hrow]
        refine ⟨fun _ => ?_, ?_, ?_⟩
        · show (0 : Int) ≤ 0 + 1
          decide
        · show (0 : Int) ≤ 0 + 2
          decide
        · show (0 : Int) ≤ maxInteger
          decide
  · -- a taken id or name: `IntegrityError` in one, `unique_violation` in the other
    have hs : SQLiteElasticLeaseJournal.run descriptorDigest rows
        (.prepare leaseId keyName policy requestDigest endpointOriginDigest later)
        = .error (journalError "lease identity was already used") := by
      simp only [SQLiteElasticLeaseJournal.run]
      rw [bindInteger_ok htime, ok_bind, ← hid, ← hname, require_neg hnew]
      rfl
    have hp : PostgresElasticLeaseJournal.run ctype descriptorDigest rows
        (.prepare leaseId keyName policy requestDigest endpointOriginDigest later)
        = .error PostgresFault.uniqueViolation.reported := by
      simp only [PostgresElasticLeaseJournal.run, PostgresElasticLeaseJournal.insert]
      rw [nonnegative_ok htime, ok_bind, hrow, require_pos hchecks, ok_bind, require_neg hnew]
      rfl
    exact sameStep_error hs hp rfl rfl hlater

/-- A call that is one update: both journals make it when its new version is acceptable. -/
theorem sameStep_update {leaseId : LeaseId} {revision : Int}
    {states : List LeaseState} {set : ElasticLeaseRecord → ElasticLeaseRecord} {lost : String}
    (h : Kept ctype rows now) (hle : now ≤ call.clock now)
    (hs : SQLiteElasticLeaseJournal.run descriptorDigest rows call
      = SQLiteElasticLeaseJournal.update rows leaseId revision states set lost)
    (hp : PostgresElasticLeaseJournal.run ctype descriptorDigest rows call
      = PostgresElasticLeaseJournal.update ctype rows leaseId revision states set lost)
    (hrevision : 0 ≤ revision ∧ revision ≤ maxBigint) (hset : ∀ r, (set r).leaseId = r.leaseId)
    (haccepted : ∀ old ∈ rows, old.matching leaseId revision states = true →
      Accepted ctype old (set old) (call.clock now)) :
    SameStep ctype descriptorDigest rows now call := by
  by_cases hfound : ∃ old ∈ rows, old.matching leaseId revision states = true
  · obtain ⟨old, hold, hmatch⟩ := hfound
    obtain ⟨hsqlite, hpostgres, hkept⟩ := h.update_same hle hrevision hold hmatch hset
      (haccepted old hold hmatch)
    exact sameStep_ok (hs.trans hsqlite) (hp.trans hpostgres) hkept
  · have hnone : ∀ r ∈ rows, ¬r.matching leaseId revision states = true :=
      fun r hr hmatch => hfound ⟨r, hr, hmatch⟩
    obtain ⟨hsqlite, hpostgres⟩ := update_lost hrevision hnone
    exact sameStep_error (hs.trans hsqlite) (hp.trans hpostgres) rfl rfl (h.mono hle)

/-- Both stores activate alike. -/
theorem activate_same {leaseId : LeaseId} {revision : Int} {keyId : List Char}
    {expiration later : Millis} (h : Kept ctype rows now) (hle : now ≤ later)
    (hwf : (LeaseCall.activate leaseId revision keyId expiration later).wellFormed) :
    SameStep ctype descriptorDigest rows now
      (.activate leaseId revision keyId expiration later) := by
  obtain ⟨hrevision, hkey, hnonneg, hexpires, hmax⟩ := hwf
  have htime : 0 ≤ later ∧ later ≤ maxBigint := ⟨hnonneg, Int.le_trans (Int.le_of_lt hexpires) hmax⟩
  have hend : 0 ≤ expiration ∧ expiration ≤ maxBigint :=
    ⟨Int.le_trans hnonneg (Int.le_of_lt hexpires), hmax⟩
  have hs : SQLiteElasticLeaseJournal.run descriptorDigest rows
        (.activate leaseId revision keyId expiration later)
      = SQLiteElasticLeaseJournal.update rows leaseId revision [.prepared]
        (·.activated keyId expiration later) "lease activation lost its state transition" := by
    simp only [SQLiteElasticLeaseJournal.run]
    rw [require_pos hkey, ok_bind, bindInteger_ok hend, ok_bind, bindInteger_ok htime, ok_bind]
  have hp : PostgresElasticLeaseJournal.run ctype descriptorDigest rows
        (.activate leaseId revision keyId expiration later)
      = PostgresElasticLeaseJournal.update ctype rows leaseId revision [.prepared]
        (·.activated keyId expiration later) "lease activation lost its state transition" := by
    simp only [PostgresElasticLeaseJournal.run]
    rw [require_pos hkey, ok_bind, nonnegative_ok hrevision, ok_bind, nonnegative_ok hend,
      ok_bind, nonnegative_ok htime, ok_bind, require_pos hexpires, ok_bind]
  refine sameStep_update h hle hs hp hrevision (fun _ => rfl) ?_
  intro old hold hmatch
  have hstate : old.state = .prepared := List.mem_singleton.mp (matching_iff.mp hmatch).2.2
  obtain ⟨-, -, -, -, -, -, -, -, -, -, -, -, hshape⟩ := h.checks old hold
  unfold ElasticLeaseRecord.stateShape at hshape
  rw [hstate] at hshape
  obtain ⟨hzero, -, -, -, -, hattempts, -⟩ := hshape
  refine ⟨⟨rfl, rfl, rfl, rfl, rfl, rfl, rfl, rfl⟩, Or.inl ⟨hstate, rfl, rfl, rfl, rfl, rfl⟩,
    activated_checks (h.checks old hold) hstate hkey
      (Int.le_trans (h.created old hold) hle) hexpires, ?_, fun _ => ?_, ?_, ?_⟩
  · intro a ha
    obtain rfl := Option.some.inj ha
    exact Int.le_refl later
  · show old.revision + 1 ≤ old.revokeAttempts + 1
    omega
  · show old.revision + 1 ≤ old.revokeAttempts + 2
    omega
  · exact (h.counted old hold).attempts

/-- The settlement of a pending revocation is an acceptable version. -/
theorem Kept.settled_accepted {later : Millis} (h : Kept ctype rows now) (hle : now ≤ later)
    (hold : old ∈ rows) (hstate : old.state = .revokePending) :
    Accepted ctype old (old.settled later) later := by
  have hactivated : ∀ a ∈ old.activatedEpochMillis, a ≤ later :=
    fun a ha => Int.le_trans (h.activated old hold a ha) hle
  have hopen := (h.counted old hold).unsettled (by rw [hstate]; decide)
  refine ⟨⟨rfl, rfl, rfl, rfl, rfl, rfl, rfl, rfl⟩,
    Or.inr (Or.inr ⟨hstate, rfl, rfl, rfl, ⟨rfl, rfl, rfl⟩, Option.some_ne_none _, rfl⟩),
    settled_checks_of (h.checks old hold) hstate (Int.le_trans (h.created old hold) hle)
      hactivated, hactivated, fun hopenState => absurd rfl hopenState, ?_, ?_⟩
  · show old.revision + 1 ≤ old.revokeAttempts + 2
    omega
  · exact (h.counted old hold).attempts

/-- Both stores settle alike. -/
theorem markRevoked_same {leaseId : LeaseId} {revision : Int} {later : Millis}
    (h : Kept ctype rows now) (hle : now ≤ later)
    (hwf : (LeaseCall.markRevoked leaseId revision later).wellFormed) :
    SameStep ctype descriptorDigest rows now (.markRevoked leaseId revision later) := by
  obtain ⟨hrevision, htime⟩ := hwf
  have hs : SQLiteElasticLeaseJournal.run descriptorDigest rows
        (.markRevoked leaseId revision later)
      = SQLiteElasticLeaseJournal.update rows leaseId revision [.revokePending]
        (·.settled later) "lease finalization lost its state transition" := by
    simp only [SQLiteElasticLeaseJournal.run]
    rw [bindInteger_ok htime, ok_bind]
  have hp : PostgresElasticLeaseJournal.run ctype descriptorDigest rows
        (.markRevoked leaseId revision later)
      = PostgresElasticLeaseJournal.update ctype rows leaseId revision [.revokePending]
        (·.settled later) "lease finalization lost its state transition" := by
    simp only [PostgresElasticLeaseJournal.run]
    rw [nonnegative_ok hrevision, ok_bind, nonnegative_ok htime, ok_bind]
  exact sameStep_update h hle hs hp hrevision (fun _ => rfl) fun old hold hmatch =>
    h.settled_accepted hle hold (List.mem_singleton.mp (matching_iff.mp hmatch).2.2)

section

variable {leaseId : LeaseId} {revision : Int} {reason : Option (List Char)}

/-- What PostgreSQL does for a revocation, its arguments being in order. -/
theorem beginRevocation_postgres
    (hwf : (LeaseCall.beginRevocation leaseId revision reason).wellFormed) :
    PostgresElasticLeaseJournal.run ctype descriptorDigest rows
        (.beginRevocation leaseId revision reason)
      = PostgresElasticLeaseJournal.update ctype rows leaseId revision unsettledStates
        (·.revoking reason) "lease revocation lost its state transition" := by
  obtain ⟨hrevision, hwords⟩ := hwf
  simp only [PostgresElasticLeaseJournal.run, PostgresElasticLeaseJournal.checkReason]
  rw [nonnegative_ok hrevision, ok_bind, require_pos hwords, ok_bind]

/-- The start of a revocation that can be counted is an acceptable version. -/
theorem Kept.revoking_accepted (h : Kept ctype rows now) (hold : old ∈ rows)
    (hstate : old.state ∈ unsettledStates) (hattempts : old.revokeAttempts < maxInteger)
    (hwords : ∀ t ∈ reason, joinWords t ≠ [])
    (hprinted : ∀ t ∈ reason, ∀ c ∈ normalizeError t, ctype.cntrl c = false) :
    Accepted ctype old (old.revoking reason) now := by
  have hopen := (h.counted old hold).unsettled (fun hrevoked => by
    rw [hrevoked] at hstate
    exact absurd hstate (by decide))
  refine ⟨⟨rfl, rfl, rfl, rfl, rfl, rfl, rfl, rfl⟩,
    Or.inr (Or.inl ⟨hstate, rfl, rfl, rfl, ⟨rfl, rfl, rfl⟩, rfl⟩),
    revoking_checks (h.checks old hold) hstate hwords hprinted,
    fun a ha => h.activated old hold a ha, fun _ => ?_, ?_, ?_⟩
  · show old.revision + 1 ≤ old.revokeAttempts + 1 + 1
    omega
  · show old.revision + 1 ≤ old.revokeAttempts + 1 + 2
    omega
  · show old.revokeAttempts + 1 ≤ maxInteger
    omega

/-- Both stores begin a revocation alike, where the reason and the counters fit. -/
theorem beginRevocation_same (h : Kept ctype rows now)
    (hwf : (LeaseCall.beginRevocation leaseId revision reason).wellFormed)
    (hfits : (LeaseCall.beginRevocation leaseId revision reason).fits ctype rows) :
    SameStep ctype descriptorDigest rows now (.beginRevocation leaseId revision reason) := by
  have hs : SQLiteElasticLeaseJournal.run descriptorDigest rows
        (.beginRevocation leaseId revision reason)
      = SQLiteElasticLeaseJournal.update rows leaseId revision unsettledStates
        (·.revoking reason) "lease revocation lost its state transition" := rfl
  refine sameStep_update h (Int.le_refl now) hs (beginRevocation_postgres hwf) hwf.1
    (fun _ => rfl) ?_
  intro old hold hmatch
  obtain ⟨hattempts, hprinted⟩ := hfits old hold hmatch
  exact h.revoking_accepted hold (matching_iff.mp hmatch).2.2 hattempts hwf.2 hprinted

/-- A revocation that does not fit is made by SQLite and refused by PostgreSQL. -/
theorem beginRevocation_differs (h : Kept ctype rows now)
    (hwf : (LeaseCall.beginRevocation leaseId revision reason).wellFormed)
    (hfits : ¬(LeaseCall.beginRevocation leaseId revision reason).fits ctype rows) :
    ¬SameAnswer (SQLiteElasticLeaseJournal.run descriptorDigest rows
        (.beginRevocation leaseId revision reason))
      (PostgresElasticLeaseJournal.run ctype descriptorDigest rows
        (.beginRevocation leaseId revision reason)) := by
  have hexists : ∃ old ∈ rows, old.matching leaseId revision unsettledStates = true
      ∧ ¬(old.revokeAttempts < maxInteger
        ∧ ∀ t ∈ reason, ∀ c ∈ normalizeError t, ctype.cntrl c = false) := by
    by_contra hnone
    refine hfits fun r hr hmatch => ?_
    by_contra hbad
    exact hnone ⟨r, hr, hmatch, hbad⟩
  obtain ⟨old, hold, hmatch, hbad⟩ := hexists
  have hexact : (old.revoking reason).exact = .ok (old.revoking reason) := by
    have hchecks := h.checks old hold
    unfold ElasticLeaseRecord.exact
    rw [require_pos (show alertAlias (old.revoking reason).indexAlias = true from hchecks.1),
      ok_bind, require_pos (show ∀ k ∈ (old.revoking reason).keyId, keyIdText k = true from
        hchecks.2.2.1)]
    rfl
  -- SQLite has no CHECK on either column
  have hs : SQLiteElasticLeaseJournal.run descriptorDigest rows
        (.beginRevocation leaseId revision reason)
      = .ok (updateWhere (·.matching leaseId revision unsettledStates) (·.revoking reason) rows,
        .record (old.revoking reason)) :=
    h.sqlite_update hwf.1 hold hmatch (fun _ => rfl) hexact
  have hrefused : ∃ e, PostgresElasticLeaseJournal.newVersion ctype old (old.revoking reason)
      = .error e := by
    cases hversion : PostgresElasticLeaseJournal.newVersion ctype old (old.revoking reason) with
    | error e => exact ⟨e, rfl⟩
    | ok u =>
      -- a version that passes the CHECKs has what the old row is short of
      refine absurd ?_ hbad
      unfold PostgresElasticLeaseJournal.newVersion at hversion
      simp only [bind_eq_ok, require_eq_ok] at hversion
      obtain ⟨-, ⟨hattempts, -⟩, -, -, -, -, hchecks⟩ := hversion
      obtain ⟨-, -, -, -, -, -, -, -, -, herror, -⟩ := hchecks
      have hless : old.revokeAttempts + 1 ≤ maxInteger := hattempts
      refine ⟨by omega, fun t ht c hc => ?_⟩
      exact (herror (normalizeError t) (Option.map_eq_some_iff.mpr ⟨t, ht, rfl⟩)).2 c hc
  obtain ⟨e, he⟩ := hrefused
  have hp : PostgresElasticLeaseJournal.run ctype descriptorDigest rows
      (.beginRevocation leaseId revision reason) = .error e := by
    rw [beginRevocation_postgres hwf]
    unfold PostgresElasticLeaseJournal.update
    rw [(h.found hold hmatch).2]
    show (PostgresElasticLeaseJournal.newVersion ctype old (old.revoking reason) >>= _) = _
    rw [he]
    rfl
  rw [hs, hp]
  exact id

end

/-- **One call that fits is one step of both stores.** -/
theorem call_same (h : Kept ctype rows now) (hwf : call.wellFormed)
    (htime : ∀ later ∈ call.time, now ≤ later) (hfits : call.fits ctype rows) :
    SameStep ctype descriptorDigest rows now call := by
  cases call with
  | prepare leaseId keyName policy requestDigest endpointOriginDigest later =>
    exact prepare_same h (htime later rfl) hwf
  | activate leaseId revision keyId expiration later =>
    exact activate_same h (htime later rfl) hwf
  | beginRevocation leaseId revision reason => exact beginRevocation_same h hwf hfits
  | markRevoked leaseId revision later => exact markRevoked_same h (htime later rfl) hwf
  | get leaseId =>
    cases hget : SQLiteElasticLeaseJournal.get rows leaseId with
    | error e =>
      exact sameStep_error hget ((h.get_same leaseId).trans hget) (get_error h hget)
        (get_error h hget) h
    | ok result =>
      obtain ⟨rows', answer⟩ := result
      obtain rfl : rows' = rows := by
        unfold SQLiteElasticLeaseJournal.get at hget
        simp only [bind_eq_ok, pure_eq_ok] at hget
        obtain ⟨_, -, _, -, hresult⟩ := hget
        cases hresult
        rfl
      exact sameStep_ok hget ((h.get_same leaseId).trans hget) h
  | unsettled limit =>
    obtain ⟨hs, hp⟩ := h.select_same (fun r => decide (r.state ≠ .revoked)) hwf
    exact sameStep_ok hs hp h
  | recordsForRequestDigest requestDigest unsettledOnly limit =>
    obtain ⟨hs, hp⟩ := h.select_same (ofRequest requestDigest unsettledOnly) hwf
    exact sameStep_ok hs hp h

/-- **A call that does not fit is answered differently.** -/
theorem call_differs (h : Kept ctype rows now) (hwf : call.wellFormed)
    (hfits : ¬call.fits ctype rows) :
    ¬SameAnswer (SQLiteElasticLeaseJournal.run descriptorDigest rows call)
      (PostgresElasticLeaseJournal.run ctype descriptorDigest rows call) := by
  cases call with
  | beginRevocation leaseId revision reason => exact beginRevocation_differs h hwf hfits
  | prepare leaseId keyName policy requestDigest endpointOriginDigest later =>
    exact absurd trivial hfits
  | activate leaseId revision keyId expiration later => exact absurd trivial hfits
  | markRevoked leaseId revision later => exact absurd trivial hfits
  | get leaseId => exact absurd trivial hfits
  | unsettled limit => exact absurd trivial hfits
  | recordsForRequestDigest requestDigest unsettledOnly limit => exact absurd trivial hfits

/-! ## Whole runs -/

theorem agree_from {calls : List LeaseCall} (h : Kept ctype rows now)
    (hwf : ∀ call ∈ calls, call.wellFormed)
    (htimes : (calls.filterMap (·.time)).Pairwise (· ≤ ·))
    (hlater : ∀ t ∈ calls.filterMap (·.time), now ≤ t) :
    Agree ctype descriptorDigest rows rows calls ↔ FitsAll ctype descriptorDigest rows calls := by
  induction calls generalizing rows now with
  | nil => exact Iff.rfl
  | cons call calls ih =>
    have hcall := hwf call (List.mem_cons_self ..)
    have htime : ∀ later ∈ call.time, now ≤ later := by
      intro later hl
      exact hlater later (List.mem_filterMap.mpr ⟨call, List.mem_cons_self .., hl⟩)
    by_cases hfits : call.fits ctype rows
    · have hstep : SameStep ctype descriptorDigest rows now call :=
        call_same h hcall htime hfits
      -- the times of the remaining calls are not before this one's
      have hrest : (calls.filterMap (·.time)).Pairwise (· ≤ ·)
          ∧ ∀ t ∈ calls.filterMap (·.time), call.clock now ≤ t := by
        unfold LeaseCall.clock
        cases hclock : call.time with
        | none =>
          rw [List.filterMap_cons_none hclock] at htimes hlater
          exact ⟨htimes, hlater⟩
        | some later =>
          rw [List.filterMap_cons_some hclock] at htimes
          exact ⟨(List.pairwise_cons.mp htimes).2, (List.pairwise_cons.mp htimes).1⟩
      have hfollowing := ih hstep.kept (fun c hc => hwf c (List.mem_cons_of_mem _ hc)) hrest.1
        hrest.2
      unfold Agree FitsAll
      constructor
      · rintro ⟨-, -, hagree⟩
        rw [← hstep.same] at hagree
        exact ⟨hfits, hfollowing.mp hagree⟩
      · rintro ⟨-, hall⟩
        refine ⟨hstep.answer, hstep.same, ?_⟩
        rw [← hstep.same]
        exact hfollowing.mpr hall
    · constructor
      · rintro ⟨hanswer, -⟩
        exact absurd hanswer (call_differs h hcall hfits)
      · rintro ⟨hcallFits, -⟩
        exact absurd hcallFits hfits

theorem kept_nil : Kept ctype [] now :=
  ⟨List.nodup_nil, fun _ hr => absurd hr List.not_mem_nil, fun _ hr => absurd hr List.not_mem_nil,
    fun _ hr => absurd hr List.not_mem_nil, fun _ hr => absurd hr List.not_mem_nil⟩

theorem wellFormed_time (h : call.wellFormed) : ∀ t ∈ call.time, 0 ≤ t := by
  cases call with
  | prepare leaseId keyName policy requestDigest endpointOriginDigest later =>
    intro t ht
    obtain rfl := Option.some.inj ht
    exact h.1
  | activate leaseId revision keyId expiration later =>
    intro t ht
    obtain rfl := Option.some.inj ht
    exact h.2.2.1
  | markRevoked leaseId revision later =>
    intro t ht
    obtain rfl := Option.some.inj ht
    exact h.2.1
  | beginRevocation leaseId revision reason => exact nofun
  | get leaseId => exact nofun
  | unsettled limit => exact nofun
  | recordsForRequestDigest requestDigest unsettledOnly limit => exact nofun

/-- Two empty stores agree on the calls that fit. -/
theorem agree_empty {calls : List LeaseCall} (h : WellFormedCalls calls) :
    Agree ctype descriptorDigest [] [] calls ↔ FitsAll ctype descriptorDigest [] calls := by
  have hkept : Kept ctype [] 0 := kept_nil
  refine agree_from hkept h.1 h.2 ?_
  intro t ht
  obtain ⟨call, hcall, htime⟩ := List.mem_filterMap.mp ht
  exact wellFormed_time (h.1 call hcall) t htime

end

/-! ## Runs that part the journals -/

section

variable (ctype : PostgresCtype) (descriptorDigest : List Char → Digest)

instance (rows : LeaseRows) : (call : LeaseCall) → Decidable (call.fits ctype rows)
  | .beginRevocation leaseId revision reason => inferInstanceAs (Decidable (∀ r ∈ rows,
      r.matching leaseId revision unsettledStates = true → r.revokeAttempts < maxInteger
        ∧ ∀ t ∈ reason, ∀ c ∈ normalizeError t, ctype.cntrl c = false))
  | .prepare .. | .activate .. | .markRevoked .. | .get _ | .unsettled _
  | .recordsForRequestDigest .. => inferInstanceAs (Decidable True)

instance decidableFitsAll : (rows : LeaseRows) → (calls : List LeaseCall) →
    Decidable (FitsAll ctype descriptorDigest rows calls)
  | _, [] => inferInstanceAs (Decidable True)
  | rows, call :: calls =>
    have := decidableFitsAll
      (rowsAfter rows (SQLiteElasticLeaseJournal.run descriptorDigest rows call)) calls
    inferInstanceAs (Decidable (call.fits ctype rows ∧ _))

end

/-- The locale `C`. -/
def asciiCtype : PostgresCtype :=
  ⟨fun c => decide (c.toNat < 32 ∨ c.toNat = 127), fun _ _ => decide_eq_true_iff⟩

def exampleDescriptor : List Char → Digest := fun _ => 9

def examplePolicy : ElasticPamPolicy :=
  ⟨".alerts-security.alerts-default".toList, 900, by decide, by decide⟩

/-- A lease is prepared. -/
def examplePrepare : LeaseCall := .prepare 1 2 examplePolicy 3 4 1000

/-- Its key is created, used and revoked. -/
def exampleLifecycle : List LeaseCall :=
  [examplePrepare, .activate 1 0 "key-1".toList 901000 1001, .unsettled 1000,
    .beginRevocation 1 1 none, .markRevoked 1 2 1002, .beginRevocation 1 3 none, .get 1]

/-- A failed attempt at a revocation, by a recovery. -/
def exampleAttempt (revision : Nat) : LeaseCall :=
  .beginRevocation 1 revision (some "recovery".toList)

/-- The lease after `n` failed attempts. -/
def attemptedRow : Nat → ElasticLeaseRecord
  | 0 => preparedRow exampleDescriptor 1 2 examplePolicy 3 4 1000
  | n + 1 => (attemptedRow n).revoking (some "recovery".toList)

theorem attemptedRow_counts (n : Nat) : (attemptedRow n).revision = n
    ∧ (attemptedRow n).revokeAttempts = n ∧ (attemptedRow n).leaseId = 1
    ∧ (attemptedRow n).state ∈ unsettledStates
    ∧ (attemptedRow n).exact = .ok (attemptedRow n) := by
  induction n with
  | zero => decide
  | succ n ih =>
    obtain ⟨hrevision, hattempts, hid, -, hexact⟩ := ih
    refine ⟨?_, ?_, hid, List.mem_cons_of_mem _ (List.mem_cons_of_mem _ (List.mem_cons_self ..)),
      ?_⟩
    · show (attemptedRow n).revision + 1 = _
      rw [hrevision]
      rfl
    · show (attemptedRow n).revokeAttempts + 1 = _
      rw [hattempts]
      rfl
    · unfold ElasticLeaseRecord.exact at hexact
      simp only [bind_eq_ok, require_eq_ok] at hexact
      obtain ⟨-, halias, -, hkey, -⟩ := hexact
      unfold ElasticLeaseRecord.exact
      rw [require_pos (show alertAlias (attemptedRow (n + 1)).indexAlias = true from halias),
        ok_bind, require_pos (show ∀ k ∈ (attemptedRow (n + 1)).keyId, keyIdText k = true from
          hkey)]
      rfl

theorem attemptedRow_matching (n : Nat) :
    (attemptedRow n).matching 1 n unsettledStates = true := by
  obtain ⟨hrevision, -, hid, hstate, -⟩ := attemptedRow_counts n
  exact matching_iff.mpr ⟨hid, hrevision, hstate⟩

/-- One more attempt raises both counters. -/
theorem attempt_rows {n : Nat} (hn : (n : Int) < maxInteger) :
    rowsAfter [attemptedRow n]
        (SQLiteElasticLeaseJournal.run exampleDescriptor [attemptedRow n] (exampleAttempt n))
      = [attemptedRow (n + 1)] := by
  have hmatch := attemptedRow_matching n
  obtain ⟨-, -, hid, -, hexact⟩ := attemptedRow_counts (n + 1)
  have hrange : (0 : Int) ≤ n ∧ (n : Int) ≤ maxBigint := by
    unfold maxInteger at hn
    unfold maxBigint
    omega
  have hcount : [attemptedRow n].countP (·.matching 1 n unsettledStates) = 1 := by
    rw [List.countP_cons_of_pos hmatch]
    rfl
  have hrows : updateWhere (·.matching 1 n unsettledStates) (·.revoking (some "recovery".toList))
      [attemptedRow n] = [attemptedRow (n + 1)] := by
    show [if _ then _ else _] = _
    rw [if_pos hmatch]
    rfl
  have hget : SQLiteElasticLeaseJournal.get [attemptedRow (n + 1)] 1
      = .ok ([attemptedRow (n + 1)], .record (attemptedRow (n + 1))) := by
    have hfind : [attemptedRow (n + 1)].find? (fun r => decide (r.leaseId = 1))
        = some (attemptedRow (n + 1)) := List.find?_cons_of_pos (decide_eq_true hid)
    unfold SQLiteElasticLeaseJournal.get
    rw [hfind]
    show ((attemptedRow (n + 1)).exact >>= _) = _
    rw [hexact]
    rfl
  show rowsAfter _ (SQLiteElasticLeaseJournal.update _ 1 n _ _ _) = _
  unfold SQLiteElasticLeaseJournal.update
  rw [bindInteger_ok hrange, ok_bind, hcount, require_pos rfl, ok_bind, hrows, hget]
  rfl

/-- Attempts that all fit are fewer than the counter can hold. -/
theorem fitsAll_attempts (n : Nat) : ∀ k : Nat,
    FitsAll asciiCtype exampleDescriptor [attemptedRow k]
      ((List.range' k (n + 1)).map exampleAttempt) → (k + n : Int) < maxInteger := by
  induction n with
  | zero =>
    rintro k ⟨hfits, -⟩
    have hless := (hfits _ (List.mem_singleton.mpr rfl) (attemptedRow_matching k)).1
    rw [(attemptedRow_counts k).2.1] at hless
    omega
  | succ n ih =>
    intro k hall
    rw [List.range'_succ, List.map_cons] at hall
    obtain ⟨hfits, hrest⟩ := hall
    have hless := (hfits _ (List.mem_singleton.mpr rfl) (attemptedRow_matching k)).1
    rw [(attemptedRow_counts k).2.1] at hless
    rw [attempt_rows hless] at hrest
    have hlast := ih (k + 1) hrest
    omega

/-- As many attempts as an `integer` counts, and one more. -/
def exampleAttempts : List LeaseCall :=
  examplePrepare :: (List.range' 0 (2 ^ 31 - 1 + 1)).map exampleAttempt

theorem exampleAttempts_wellFormed : WellFormedCalls exampleAttempts := by
  refine ⟨?_, ?_⟩
  · intro call hcall
    rcases List.mem_cons.mp hcall with rfl | hcall
    · exact ⟨by decide, by decide⟩
    · obtain ⟨i, hi, rfl⟩ := List.mem_map.mp hcall
      rw [List.mem_range'_1] at hi
      refine ⟨⟨by omega, ?_⟩, ?_⟩
      · unfold maxBigint
        omega
      · intro t ht
        obtain rfl := Option.some.inj ht
        decide
  · have hnone : ((List.range' 0 (2 ^ 31 - 1 + 1)).map exampleAttempt).filterMap (·.time) = [] := by
      rw [List.filterMap_eq_nil_iff]
      intro call hcall
      obtain ⟨i, -, rfl⟩ := List.mem_map.mp hcall
      rfl
    have htime : examplePrepare.time = some 1000 := rfl
    unfold exampleAttempts
    rw [List.filterMap_cons_some htime, hnone]
    exact List.pairwise_singleton ..

/-- A reason with a bell character. -/
def exampleBell : List LeaseCall :=
  [examplePrepare, .beginRevocation 1 0 (some ['a', '\x07'])]

theorem exampleBell_wellFormed : WellFormedCalls exampleBell := by
  refine ⟨?_, ?_⟩
  · intro call hcall
    rcases List.mem_cons.mp hcall with rfl | hcall
    · exact ⟨by decide, by decide⟩
    · obtain rfl := List.mem_singleton.mp hcall
      exact ⟨by decide, fun t ht => by
        obtain rfl := Option.some.inj ht
        decide⟩
  · exact List.pairwise_singleton ..

/-- The journals agree on a run exactly when every revocation that finds its lease has a
reason without control characters and a counter below its end. -/
theorem lease_journals_agree_iff (ctype : PostgresCtype) (descriptorDigest : List Char → Digest)
    {calls : List LeaseCall} (h : WellFormedCalls calls) :
    Agree ctype descriptorDigest [] [] calls ↔ FitsAll ctype descriptorDigest [] calls :=
  agree_empty h

theorem exampleLifecycle_wellFormed : WellFormedCalls exampleLifecycle := by
  refine ⟨?_, by decide⟩
  decide

/-- The journals agree on the life of a lease. -/
theorem lease_journals_agree_lifecycle :
    WellFormedCalls exampleLifecycle ∧ Agree asciiCtype exampleDescriptor [] [] exampleLifecycle :=
  ⟨exampleLifecycle_wellFormed,
    (lease_journals_agree_iff asciiCtype exampleDescriptor exampleLifecycle_wellFormed).mpr
      (by decide +kernel)⟩

/-- They part at a control character, and at the last attempt the counter cannot hold. -/
theorem lease_journals_part :
    (WellFormedCalls exampleBell ∧ ¬Agree asciiCtype exampleDescriptor [] [] exampleBell)
      ∧ (WellFormedCalls exampleAttempts
        ∧ ¬Agree asciiCtype exampleDescriptor [] [] exampleAttempts) := by
  refine ⟨⟨exampleBell_wellFormed, ?_⟩, exampleAttempts_wellFormed, ?_⟩
  · rw [agree_empty exampleBell_wellFormed]
    decide
  · rw [agree_empty exampleAttempts_wellFormed]
    rintro ⟨-, hall⟩
    have hrows : rowsAfter [] (SQLiteElasticLeaseJournal.run exampleDescriptor [] examplePrepare)
        = [attemptedRow 0] := by
      decide
    rw [hrows] at hall
    have hless := fitsAll_attempts (2 ^ 31 - 1) 0 hall
    revert hless
    decide

end ControlAssurance.Pam
