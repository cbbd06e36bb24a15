import ControlAssurance.ControlPlane.AuditReplay

/-!
# One tenant's part of the store

All tenants share five tables, and some constraints of these tables look at every row: primary
keys, the unique event digest, the partial index. `Store.only A` is the store with the rows of
tenant `A` and no others. The statements of a call that acts for `A` do on the whole store what
they do on `A`'s part of it, as long as no key of another tenant is one that `A` could choose
(`Apart`): each lemma `f_only` below says so of one statement, and `Mirrors` puts them together
along a transaction.
-/

namespace ControlAssurance.ControlPlane

open Lib

variable {sha : Document → Digest} {A : String}

/-- The rows of one tenant. -/
def Store.only (st : Store) (tenantId : String) : Store where
  revisions := st.revisions.filter fun r => decide (r.tenantId = tenantId)
  decisions := st.decisions.filter fun d => decide (d.tenantId = tenantId)
  deployments := st.deployments.filter fun d => decide (d.tenantId = tenantId)
  operations := st.operations.filter fun o => decide (o.tenantId = tenantId)
  audit := st.audit.filter fun e => decide (e.body.tenantId = tenantId)

/-- No other tenant holds a key that `A` could choose. -/
structure Apart (sha : Document → Digest) (A : String) (st : Store) : Prop where
  revisions : ∀ r ∈ st.revisions, r.tenantId ≠ A → ∀ controlId generation parent digest,
    r.revisionId ≠ revisionIdentity sha A controlId generation parent digest
  decisions : ∀ d ∈ st.decisions, d.tenantId ≠ A → ∀ revisionId verdict subject t comment session,
    d.decisionId ≠ decisionIdentity sha revisionId A verdict subject t comment session
  decided : ∀ d ∈ st.decisions, d.tenantId ≠ A → ∀ r ∈ st.revisions, r.tenantId = A →
    d.revisionId ≠ r.revisionId
  latest : ∀ r ∈ st.revisions, r.tenantId ≠ A → ∀ x ∈ st.revisions, x.tenantId = A →
    r.revisionId ≠ x.revisionId
  operations : ∀ o ∈ st.operations, o.tenantId ≠ A → ∀ q : OperationRequest, q.tenantId = A →
    o.operationId ≠ deploymentOperationIdentity sha q
  index : oneUnresolved st.operations
  pointers : ∀ d ∈ st.deployments, d.tenantId = A → ∀ r ∈ st.revisions,
    r.revisionId = d.revisionId → r.tenantId = A
  audit : ∀ e ∈ st.audit, e.body.tenantId ≠ A → ∀ body : AuditEventBody, body.tenantId = A →
    e.eventDigest ≠ sha (.event body)

/-! ## Queries -/

section

variable {α : Type} {keep p : α → Bool} {t : List α}

/-- A query that only rows of the part can answer. -/
theorem find?_part (h : ∀ r ∈ t, p r = true → keep r = true) : (t.filter keep).find? p = t.find? p := by
  rw [List.find?_filter]
  induction t with
  | nil => rfl
  | cons r t ih =>
    have hrest := ih fun x hx => h x (List.mem_cons_of_mem _ hx)
    rw [List.find?_cons, List.find?_cons, hrest]
    cases hp : p r with
    | false => simp
    | true => simp [h r (List.mem_cons_self ..) hp]

theorem filter_part (h : ∀ r ∈ t, p r = true → keep r = true) :
    (t.filter keep).filter p = t.filter p := by
  rw [List.filter_filter]
  apply List.filter_congr
  intro r hr
  cases hp : p r with
  | false => rfl
  | true => simp [h r hr hp]

theorem countP_part (h : ∀ r ∈ t, p r = true → keep r = true) :
    (t.filter keep).countP p = t.countP p := by
  rw [List.countP_eq_length_filter, List.countP_eq_length_filter, filter_part h]

theorem updateWhere_part {f : α → α} (hf : ∀ r, keep (f r) = keep r) :
    (updateWhere p f t).filter keep = updateWhere p f (t.filter keep) := by
  unfold updateWhere
  rw [List.filter_map]
  congr 1
  apply List.filter_congr
  intro r _
  show keep (if p r then f r else r) = keep r
  split
  · exact hf r
  · rfl

theorem append_part {r : α} (hr : keep r = true) : (t ++ [r]).filter keep = t.filter keep ++ [r] := by
  rw [List.filter_append, List.filter_cons_of_pos hr, List.filter_nil]

/-- Rows that others hold do not matter to a condition that they meet anyway. -/
theorem forall_part {P : α → Prop} (h : ∀ r ∈ t, keep r = false → P r) :
    (∀ r ∈ t.filter keep, P r) ↔ ∀ r ∈ t, P r := by
  constructor
  · intro hall r hr
    cases hk : keep r with
    | false => exact h r hr hk
    | true => exact hall r (List.mem_filter.mpr ⟨hr, hk⟩)
  · intro hall r hr
    exact hall r (List.mem_of_mem_filter hr)

theorem exists_part {P : α → Prop} (h : ∀ r ∈ t, P r → keep r = true) :
    (∃ r ∈ t.filter keep, P r) ↔ ∃ r ∈ t, P r := by
  constructor
  · intro hex
    obtain ⟨r, hr, hP⟩ := hex
    exact ⟨r, List.mem_of_mem_filter hr, hP⟩
  · intro hex
    obtain ⟨r, hr, hP⟩ := hex
    exact ⟨r, List.mem_filter.mpr ⟨hr, h r hr hP⟩, hP⟩

end

section

variable {st : Store}

theorem revisionRow_only (rid : Digest) :
    (st.only A).revisionRow A rid = st.revisionRow A rid :=
  find?_part fun _ _ hp => decide_eq_true (of_decide_eq_true hp).1

theorem operationRow_only (oid : Digest) :
    (st.only A).operationRow A oid = st.operationRow A oid :=
  find?_part fun _ _ hp => decide_eq_true (of_decide_eq_true hp).1

theorem deploymentRow_only (controlId : String) :
    (st.only A).deploymentRow A controlId = st.deploymentRow A controlId :=
  find?_part fun _ _ hp => decide_eq_true (of_decide_eq_true hp).1

theorem controlOperations_only (controlId : String) :
    (st.only A).controlOperations A controlId = st.controlOperations A controlId :=
  filter_part fun _ _ hp => decide_eq_true (of_decide_eq_true hp).1

theorem latestRevision_only (controlId : String) :
    (st.only A).latestRevision A controlId = st.latestRevision A controlId :=
  congrArg _ (filter_part fun _ _ hp => decide_eq_true (of_decide_eq_true hp).1)

theorem latestApplied_only (controlId : String) :
    (st.only A).latestApplied A controlId = st.latestApplied A controlId := by
  unfold Store.latestApplied
  rw [controlOperations_only]

theorem maxSequence_only (controlId : String) :
    (st.only A).maxSequence A controlId = st.maxSequence A controlId := by
  unfold Store.maxSequence
  rw [controlOperations_only]

end

/-! ## Transactions -/

/-- The second computation is the first one, on the tenant's part. -/
def Mirrors {α : Type} (A : String) (x y : Except ControlPlaneError (Store × α)) : Prop :=
  y = x.map fun p => (p.1.only A, p.2)

section

variable {α β : Type}

theorem mirrors_pure {st : Store} {a : α} :
    Mirrors A (pure (st, a)) (pure (st.only A, a)) := rfl

/-- A step that both make alike. -/
theorem mirrors_same {x : Except ControlPlaneError β}
    {k k' : β → Except ControlPlaneError (Store × α)}
    (h : ∀ b, x = .ok b → Mirrors A (k b) (k' b)) : Mirrors A (x >>= k) (x >>= k') := by
  cases x with
  | error e => rfl
  | ok b => exact h b rfl

/-- A check whose condition means the same to both. -/
theorem mirrors_require {c c' : Prop} [Decidable c] [Decidable c'] {e : ControlPlaneError}
    {k k' : Unit → Except ControlPlaneError (Store × α)} (hc : c' ↔ c)
    (h : c → Mirrors A (k ()) (k' ())) :
    Mirrors A (require c e >>= k) (require c' e >>= k') := by
  by_cases hcond : c
  · rw [require_pos hcond, require_pos (hc.mpr hcond)]
    exact h hcond
  · rw [require_neg hcond, require_neg fun h' => hcond (hc.mp h')]
    rfl

/-- A statement that both make, each on its own tables. -/
theorem mirrors_write {x y : Except ControlPlaneError Store}
    {k k' : Store → Except ControlPlaneError (Store × α)} (hxy : y = x.map (·.only A))
    (h : ∀ st, x = .ok st → Mirrors A (k st) (k' (st.only A))) :
    Mirrors A (x >>= k) (y >>= k') := by
  rw [hxy]
  cases x with
  | error e => rfl
  | ok st => exact h st rfl

/-- A statement with an answer. -/
theorem mirrors_bind {x y : Except ControlPlaneError (Store × β)}
    {k k' : Store × β → Except ControlPlaneError (Store × α)} (hxy : Mirrors A x y)
    (h : ∀ st b, x = .ok (st, b) → Mirrors A (k (st, b)) (k' (st.only A, b))) :
    Mirrors A (x >>= k) (y >>= k') := by
  rw [hxy]
  cases x with
  | error e => rfl
  | ok p => exact h p.1 p.2 rfl

theorem mirrors_orConflict {m : String} {x y : Except ControlPlaneError (Store × α)}
    (h : Mirrors A x y) : Mirrors A (orConflict m x) (orConflict m y) := by
  rw [h]
  cases x with
  | ok p => rfl
  | error e => cases e <;> rfl

end

/-! ## Statements -/

section

variable {st : Store}

variable {details : AuditDetails} {objectId session : Digest}

variable {t : Time} {action : AuditAction} {subject : String}

theorem appendAudit_eq {tenantId : String} :
    appendAudit sha st tenantId subject session action objectId t details = (do
      require (∀ e ∈ st.audit, e.eventDigest
          ≠ (auditEvent sha st.audit tenantId subject session action objectId t details).eventDigest)
        (.sqliteIntegrity "UNIQUE constraint failed: control_audit_events.event_digest")
      pure { st with audit := st.audit ++
        [auditEvent sha st.audit tenantId subject session action objectId t details] }) := rfl

/-- Only the tenant's own events matter to its next one. -/
theorem auditEvent_only :
    auditEvent sha (st.only A).audit A subject session action objectId t details
      = auditEvent sha st.audit A subject session action objectId t details := by
  have hlast : lastEvent (st.only A).audit A = lastEvent st.audit A :=
    congrArg _ (filter_part fun _ _ hp => hp)
  unfold auditEvent
  rw [hlast]

theorem appendAudit_only
    (haudit : ∀ e ∈ st.audit, e.body.tenantId ≠ A → ∀ body : AuditEventBody, body.tenantId = A →
      e.eventDigest ≠ sha (.event body)) :
    appendAudit sha (st.only A) A subject session action objectId t details
      = (appendAudit sha st A subject session action objectId t details).map (·.only A) := by
  rw [appendAudit_eq, appendAudit_eq, auditEvent_only]
  generalize hevent : auditEvent sha st.audit A subject session action objectId t details = event
  have htenant : event.body.tenantId = A := by rw [← hevent]; rfl
  have hdigest : event.eventDigest = sha (.event event.body) := by rw [← hevent]; rfl
  have hsame : (∀ e ∈ (st.only A).audit, e.eventDigest ≠ event.eventDigest)
      ↔ ∀ e ∈ st.audit, e.eventDigest ≠ event.eventDigest := by
    refine forall_part fun e he hk => ?_
    rw [hdigest]
    exact haudit e he (of_decide_eq_false hk) event.body htenant
  by_cases hfresh : ∀ e ∈ st.audit, e.eventDigest ≠ event.eventDigest
  · rw [require_pos hfresh, require_pos (hsame.mpr hfresh)]
    have hpart : (st.audit ++ [event]).filter (fun e => decide (e.body.tenantId = A))
        = (st.only A).audit ++ [event] := append_part (decide_eq_true htenant)
    exact congrArg (fun l => Except.ok { st.only A with audit := l }) hpart.symm
  · rw [require_neg hfresh, require_neg fun h => hfresh (hsame.mp h)]
    rfl

theorem insertRevision_only {r : ConfigurationRevision} (htenant : r.tenantId = A)
    (hkey : ∀ x ∈ st.revisions, x.tenantId ≠ A → x.revisionId ≠ r.revisionId)
    (hparent : ∀ x ∈ st.revisions, r.parentRevisionId = some x.revisionId → x.tenantId = A) :
    insertRevision (st.only A) r = (insertRevision st r).map (·.only A) := by
  have hids : (∀ x ∈ (st.only A).revisions, x.revisionId ≠ r.revisionId)
      ↔ ∀ x ∈ st.revisions, x.revisionId ≠ r.revisionId :=
    forall_part fun x hx hk => hkey x hx (of_decide_eq_false hk)
  have hgenerations : (∀ x ∈ (st.only A).revisions, ¬(x.tenantId = r.tenantId
        ∧ x.controlId = r.controlId ∧ x.generation = r.generation))
      ↔ ∀ x ∈ st.revisions, ¬(x.tenantId = r.tenantId ∧ x.controlId = r.controlId
        ∧ x.generation = r.generation) :=
    forall_part fun x _ hk h => of_decide_eq_false hk (h.1.trans htenant)
  have hparents : (r.parentRevisionId = none
        ∨ ∃ x ∈ (st.only A).revisions, r.parentRevisionId = some x.revisionId)
      ↔ (r.parentRevisionId = none ∨ ∃ x ∈ st.revisions, r.parentRevisionId = some x.revisionId) :=
    or_congr Iff.rfl (exists_part fun x hx h => decide_eq_true (hparent x hx h))
  unfold insertRevision
  by_cases h₁ : ∀ x ∈ st.revisions, x.revisionId ≠ r.revisionId
  · rw [require_pos h₁, require_pos (hids.mpr h₁), ok_bind, ok_bind]
    by_cases h₂ : ∀ x ∈ st.revisions, ¬(x.tenantId = r.tenantId ∧ x.controlId = r.controlId
        ∧ x.generation = r.generation)
    · rw [require_pos h₂, require_pos (hgenerations.mpr h₂), ok_bind, ok_bind]
      by_cases h₃ : r.parentRevisionId = none
          ∨ ∃ x ∈ st.revisions, r.parentRevisionId = some x.revisionId
      · rw [require_pos h₃, require_pos (hparents.mpr h₃)]
        have hpart : (st.revisions ++ [r]).filter (fun x => decide (x.tenantId = A))
            = (st.only A).revisions ++ [r] := append_part (decide_eq_true htenant)
        exact congrArg (fun l => Except.ok { st.only A with revisions := l }) hpart.symm
      · rw [require_neg h₃, require_neg fun h => h₃ (hparents.mp h)]
        rfl
    · rw [require_neg h₂, require_neg fun h => h₂ (hgenerations.mp h)]
      rfl
  · rw [require_neg h₁, require_neg fun h => h₁ (hids.mp h)]
    rfl

theorem insertDecision_only {d : ApprovalDecision} (htenant : d.tenantId = A)
    (hkey : ∀ x ∈ st.decisions, x.tenantId ≠ A → x.decisionId ≠ d.decisionId)
    (hrevision : ∀ x ∈ st.decisions, x.tenantId ≠ A → x.revisionId ≠ d.revisionId) :
    insertDecision (st.only A) d = (insertDecision st d).map (·.only A) := by
  have hids : (∀ x ∈ (st.only A).decisions, x.decisionId ≠ d.decisionId)
      ↔ ∀ x ∈ st.decisions, x.decisionId ≠ d.decisionId :=
    forall_part fun x hx hk => hkey x hx (of_decide_eq_false hk)
  have hrevisions : (∀ x ∈ (st.only A).decisions, x.revisionId ≠ d.revisionId)
      ↔ ∀ x ∈ st.decisions, x.revisionId ≠ d.revisionId :=
    forall_part fun x hx hk => hrevision x hx (of_decide_eq_false hk)
  unfold insertDecision
  by_cases h₁ : ∀ x ∈ st.decisions, x.decisionId ≠ d.decisionId
  · rw [require_pos h₁, require_pos (hids.mpr h₁), ok_bind, ok_bind]
    by_cases h₂ : ∀ x ∈ st.decisions, x.revisionId ≠ d.revisionId
    · rw [require_pos h₂, require_pos (hrevisions.mpr h₂)]
      have hpart : (st.decisions ++ [d]).filter (fun x => decide (x.tenantId = A))
          = (st.only A).decisions ++ [d] := append_part (decide_eq_true htenant)
      exact congrArg (fun l => Except.ok { st.only A with decisions := l }) hpart.symm
    · rw [require_neg h₂, require_neg fun h => h₂ (hrevisions.mp h)]
      rfl
  · rw [require_neg h₁, require_neg fun h => h₁ (hids.mp h)]
    rfl

theorem updateRevision_only {rid : Digest} {state : RevisionState} {v : Nat}
    {f : ConfigurationRevision → ConfigurationRevision} (hf : ∀ r, (f r).tenantId = r.tenantId) :
    updateRevision (st.only A) A rid state v f = (updateRevision st A rid state v f).map (·.only A) := by
  have hcount : (st.only A).revisions.countP (fun r => decide (r.tenantId = A ∧ r.revisionId = rid
        ∧ r.state = state ∧ r.stateVersion = v))
      = st.revisions.countP fun r => decide (r.tenantId = A ∧ r.revisionId = rid
        ∧ r.state = state ∧ r.stateVersion = v) :=
    countP_part fun _ _ hp => decide_eq_true (of_decide_eq_true hp).1
  unfold updateRevision
  dsimp only
  rw [hcount]
  by_cases h : st.revisions.countP (fun r => decide (r.tenantId = A ∧ r.revisionId = rid
      ∧ r.state = state ∧ r.stateVersion = v)) = 1
  · rw [require_pos h, ok_bind, ok_bind]
    have hpart : (updateWhere (fun r => decide (r.tenantId = A ∧ r.revisionId = rid
          ∧ r.state = state ∧ r.stateVersion = v)) f st.revisions).filter
          (fun x => decide (x.tenantId = A))
        = updateWhere (fun r => decide (r.tenantId = A ∧ r.revisionId = rid
          ∧ r.state = state ∧ r.stateVersion = v)) f (st.only A).revisions :=
      updateWhere_part fun r => congrArg (fun x => decide (x = A)) (hf r)
    exact congrArg (fun l => Except.ok { st.only A with revisions := l }) hpart.symm
  · rw [require_neg h]
    rfl

/-! The partial index is one condition per tenant. -/

/-- Keys that carry a group are unique when they are in each group. -/
theorem nodup_by_group {α κ γ : Type} [DecidableEq γ] (group : κ → γ) {l : List α} {key : α → κ} :
    (l.map key).Nodup ↔ ∀ g, ((l.filter fun x => decide (group (key x) = g)).map key).Nodup := by
  constructor
  · intro h g
    exact h.sublist (List.filter_sublist.map key)
  · intro h
    induction l with
    | nil => exact List.nodup_nil
    | cons x l ih =>
      have hrest : ∀ g, ((l.filter fun y => decide (group (key y) = g)).map key).Nodup := by
        intro g
        refine (h g).sublist (List.Sublist.map key ?_)
        exact (List.sublist_cons_self x l).filter _
      rw [List.map_cons, List.nodup_cons]
      refine ⟨fun hmem => ?_, ih hrest⟩
      obtain ⟨y, hy, heq⟩ := List.mem_map.mp hmem
      have hgroup := h (group (key x))
      rw [List.filter_cons_of_pos (by simp), List.map_cons, List.nodup_cons] at hgroup
      apply hgroup.1
      rw [← heq]
      exact List.mem_map_of_mem (List.mem_filter.mpr ⟨hy, decide_eq_true rfl⟩)

/-- The index on one tenant's rows. -/
theorem oneUnresolved_by_tenant {ops : List DeploymentOperation} :
    oneUnresolved ops ↔ ∀ tenantId,
      oneUnresolved (ops.filter fun o => decide (o.tenantId = tenantId)) := by
  unfold oneUnresolved
  rw [nodup_by_group Prod.fst]
  refine forall_congr' fun tenantId => ?_
  rw [List.filter_filter, List.filter_filter]
  have hcomm : (ops.filter fun o => decide (o.tenantId = tenantId) && o.unresolved)
      = ops.filter fun o => o.unresolved && decide (o.tenantId = tenantId) :=
    List.filter_congr fun o _ => Bool.and_comm _ _
  rw [hcomm]

/-- A change of one tenant's rows keeps the index when it does so for that tenant. -/
theorem oneUnresolved_only {ops ops' : List DeploymentOperation} (h : oneUnresolved ops)
    (hothers : ∀ other, other ≠ A → (ops'.filter fun o => decide (o.tenantId = other))
      = ops.filter fun o => decide (o.tenantId = other)) :
    oneUnresolved (ops'.filter fun o => decide (o.tenantId = A)) ↔ oneUnresolved ops' := by
  constructor
  · intro hown
    refine oneUnresolved_by_tenant.mpr fun tenantId => ?_
    by_cases ht : tenantId = A
    · rw [ht]
      exact hown
    · rw [hothers tenantId ht]
      exact oneUnresolved_by_tenant.mp h tenantId
  · intro hall
    exact oneUnresolved_by_tenant.mp hall A

theorem insertGuard_only {op : DeploymentOperation} (htenant : op.tenantId = A) :
    (st.only A).insertGuard op ↔ st.insertGuard op := by
  unfold Store.insertGuard Store.admitsRevision
  rw [htenant, maxSequence_only, latestApplied_only]
  have hdecisions : (∃ d ∈ (st.only A).decisions, d.tenantId = A ∧ d.revisionId = op.revisionId
        ∧ d.decision = .approved)
      ↔ ∃ d ∈ st.decisions, d.tenantId = A ∧ d.revisionId = op.revisionId
        ∧ d.decision = .approved := exists_part fun _ _ h => decide_eq_true h.1
  rw [hdecisions]
  refine and_congr (exists_part fun _ _ h => decide_eq_true h.1) ?_
  refine and_congr Iff.rfl (and_congr Iff.rfl (and_congr Iff.rfl ?_))
  refine imp_congr Iff.rfl (and_congr Iff.rfl ?_)
  exact exists_part fun _ _ h => decide_eq_true h.2.1

theorem insertOperation_only {op : DeploymentOperation} (htenant : op.tenantId = A)
    (hkey : ∀ x ∈ st.operations, x.tenantId ≠ A → x.operationId ≠ op.operationId)
    (hindex : oneUnresolved st.operations) :
    insertOperation (st.only A) op = (insertOperation st op).map (·.only A) := by
  have hids : (∀ x ∈ (st.only A).operations, x.operationId ≠ op.operationId)
      ↔ ∀ x ∈ st.operations, x.operationId ≠ op.operationId :=
    forall_part fun x hx hk => hkey x hx (of_decide_eq_false hk)
  have hsequences : (∀ x ∈ (st.only A).operations, ¬(x.tenantId = op.tenantId
        ∧ x.controlId = op.controlId ∧ x.operationSequence = op.operationSequence))
      ↔ ∀ x ∈ st.operations, ¬(x.tenantId = op.tenantId ∧ x.controlId = op.controlId
        ∧ x.operationSequence = op.operationSequence) :=
    forall_part fun x _ hk h => of_decide_eq_false hk (h.1.trans htenant)
  have hunresolved : oneUnresolved ((st.only A).operations ++ [op])
      ↔ oneUnresolved (st.operations ++ [op]) := by
    have hpart : (st.operations ++ [op]).filter (fun o => decide (o.tenantId = A))
        = (st.only A).operations ++ [op] := append_part (decide_eq_true htenant)
    rw [← hpart]
    refine oneUnresolved_only hindex fun other hne => ?_
    rw [List.filter_append, List.filter_cons_of_neg, List.filter_nil, List.append_nil]
    rw [decide_eq_true_eq]
    exact fun h => hne (h.symm.trans htenant)
  unfold insertOperation
  by_cases h₁ : st.insertGuard op
  · rw [require_pos h₁, require_pos ((insertGuard_only htenant).mpr h₁), ok_bind, ok_bind]
    by_cases h₂ : op.stateShape = true
    · rw [require_pos h₂, ok_bind, ok_bind]
      by_cases h₃ : ∀ x ∈ st.operations, x.operationId ≠ op.operationId
      · rw [require_pos h₃, require_pos (hids.mpr h₃), ok_bind, ok_bind]
        by_cases h₄ : ∀ x ∈ st.operations, ¬(x.tenantId = op.tenantId ∧ x.controlId = op.controlId
            ∧ x.operationSequence = op.operationSequence)
        · rw [require_pos h₄, require_pos (hsequences.mpr h₄), ok_bind, ok_bind]
          by_cases h₅ : oneUnresolved (st.operations ++ [op])
          · rw [require_pos h₅, require_pos (hunresolved.mpr h₅)]
            have hpart : (st.operations ++ [op]).filter (fun o => decide (o.tenantId = A))
                = (st.only A).operations ++ [op] := append_part (decide_eq_true htenant)
            exact congrArg (fun l => Except.ok { st.only A with operations := l }) hpart.symm
          · rw [require_neg h₅, require_neg fun h => h₅ (hunresolved.mp h)]
            rfl
        · rw [require_neg h₄, require_neg fun h => h₄ (hsequences.mp h)]
          rfl
      · rw [require_neg h₃, require_neg fun h => h₃ (hids.mp h)]
        rfl
    · rw [require_neg h₂]
      rfl
  · rw [require_neg h₁, require_neg fun h => h₁ ((insertGuard_only htenant).mp h)]
    rfl

theorem updateOperations_only {p : DeploymentOperation → Bool}
    {f : DeploymentOperation → DeploymentOperation} {stale : String}
    (hp : ∀ o, p o = true → o.tenantId = A) (hf : ∀ o, (f o).tenantId = o.tenantId)
    (hindex : oneUnresolved st.operations) :
    updateOperations (st.only A) p f stale = (updateOperations st p f stale).map (·.only A) := by
  have hguard : (∀ op ∈ (st.only A).operations, p op = true → transitionGuard op (f op) = true)
      ↔ ∀ op ∈ st.operations, p op = true → transitionGuard op (f op) = true :=
    forall_part fun o _ hk h => absurd (hp o h) (of_decide_eq_false hk)
  have hshape : (∀ op ∈ (st.only A).operations, p op = true → (f op).stateShape = true)
      ↔ ∀ op ∈ st.operations, p op = true → (f op).stateShape = true :=
    forall_part fun o _ hk h => absurd (hp o h) (of_decide_eq_false hk)
  have hpart : updateWhere p f (st.only A).operations
      = (updateWhere p f st.operations).filter fun o => decide (o.tenantId = A) :=
    (updateWhere_part fun o => congrArg (fun x => decide (x = A)) (hf o)).symm
  have hunresolved : oneUnresolved (updateWhere p f (st.only A).operations)
      ↔ oneUnresolved (updateWhere p f st.operations) := by
    rw [hpart]
    refine oneUnresolved_only hindex fun other hne => ?_
    refine filter_updateWhere_other (fun o _ hpo => ?_)
      fun o => congrArg (fun x => decide (x = other)) (hf o)
    exact decide_eq_false fun h => hne (h.symm.trans (hp o hpo))
  have hcount : (st.only A).operations.countP p = st.operations.countP p :=
    countP_part fun o _ hpo => decide_eq_true (hp o hpo)
  unfold updateOperations
  by_cases h₁ : ∀ op ∈ st.operations, p op = true → transitionGuard op (f op) = true
  · rw [require_pos h₁, require_pos (hguard.mpr h₁), ok_bind, ok_bind]
    by_cases h₂ : ∀ op ∈ st.operations, p op = true → (f op).stateShape = true
    · rw [require_pos h₂, require_pos (hshape.mpr h₂), ok_bind, ok_bind]
      by_cases h₃ : oneUnresolved (updateWhere p f st.operations)
      · rw [require_pos h₃, require_pos (hunresolved.mpr h₃), ok_bind, ok_bind, hcount]
        by_cases h₄ : st.operations.countP p = 1
        · rw [require_pos h₄]
          show Except.ok _ = Except.ok _
          rw [hpart]
          rfl
        · rw [require_neg h₄]
          rfl
      · rw [require_neg h₃, require_neg fun h => h₃ (hunresolved.mp h)]
        rfl
    · rw [require_neg h₂, require_neg fun h => h₂ (hshape.mp h)]
      rfl
  · rw [require_neg h₁, require_neg fun h => h₁ (hguard.mp h)]
    rfl

end

/-! ## Methods -/

section

variable {st : Store}

variable {st₁ : Store} {a : Actor} {k oid rid : Digest} {w : DeploymentWorkerIdentity}

variable {t : Time}

/-- The last statement of every writing method. -/
theorem mirrors_appendAudit {α : Type} (hst : Apart sha A st)
    (haudit : st₁.audit = st.audit) {subject : String} {session : Digest} {action : AuditAction}
    {objectId : Digest} {details : AuditDetails} {a : α} :
    Mirrors A (appendAudit sha st₁ A subject session action objectId t details >>= fun st₂ =>
        pure (st₂, a))
      (appendAudit sha (st₁.only A) A subject session action objectId t details >>= fun st₂ =>
        pure (st₂, a)) :=
  mirrors_write (appendAudit_only (haudit ▸ hst.audit)) fun _ _ => mirrors_pure

theorem createDraft_mirrors (hst : Apart sha A st) (ha : a.tenantId = A)
    {cfg : ControlConfiguration} {p : Option Digest} :
    Mirrors A (createDraft sha st a cfg p t) (createDraft sha (st.only A) a cfg p t) := by
  unfold createDraft
  refine mirrors_require Iff.rfl fun htenant => ?_
  have hA : cfg.tenantId = A := htenant.trans ha
  rw [hA, ha]
  refine mirrors_orConflict ?_
  rw [latestRevision_only]
  refine mirrors_same fun latest hlatest => mirrors_same fun next hnext => ?_
  obtain ⟨n, parent⟩ := next
  refine mirrors_write (insertRevision_only rfl ?_ ?_) fun st₁ hst₁ => ?_
  · intro x hx hne
    exact hst.revisions x hx hne cfg.controlId n parent _
  · -- the parent is the latest revision of `A`
    intro x hx hparent
    have hparent : parent = some x.revisionId := hparent
    have hfollows := nextGeneration_ok hnext
    rw [← readLatest_ok hlatest] at hfollows
    cases hfollows with
    | first => cases hparent
    | @next r hrow =>
      have hr := List.mem_filter.mp (firstBy_mem hrow)
      by_contra hne
      have hvalid := of_decide_eq_true hr.2
      exact hst.latest x hx hne r hr.1 hvalid.1 (Option.some.inj hparent).symm
  · have haudit : st₁.audit = st.audit := by
      simp only [insertRevision, bind_eq_ok, require_eq_ok, pure_eq_ok, exists_const] at hst₁
      obtain ⟨_, _, _, rfl⟩ := hst₁
      rfl
    exact mirrors_appendAudit hst haudit

theorem submit_mirrors (hst : Apart sha A st) (ha : a.tenantId = A)
    {v : Nat} : Mirrors A (submit sha st a rid v t) (submit sha (st.only A) a rid v t) := by
  unfold submit
  rw [ha, revisionRow_only]
  refine mirrors_same fun row _ => mirrors_same fun current _ => mirrors_same fun _ _ => ?_
  refine mirrors_write (updateRevision_only fun _ => rfl) fun st₁ hst₁ => ?_
  have haudit : st₁.audit = st.audit := by
    simp only [updateRevision, bind_eq_ok, require_eq_ok, pure_eq_ok, exists_const] at hst₁
    obtain ⟨_, rfl⟩ := hst₁
    rfl
  exact mirrors_appendAudit hst haudit

theorem decideRevision_mirrors (hst : Apart sha A st) (ha : a.tenantId = A)
    {v : Nat} {verdict : Verdict} {comment : String} :
    Mirrors A (decideRevision sha st a rid v verdict comment t)
      (decideRevision sha (st.only A) a rid v verdict comment t) := by
  unfold decideRevision
  refine mirrors_same fun _ _ => mirrors_orConflict ?_
  rw [ha, revisionRow_only]
  refine mirrors_same fun row hrow => mirrors_same fun current _ => mirrors_same fun _ _ => ?_
  obtain ⟨hr, htenant, hid⟩ := revisionRow_some (expect_eq_ok.mp hrow)
  refine mirrors_write (insertDecision_only rfl ?_ ?_) fun st₁ hst₁ => ?_
  · intro x hx hne
    exact hst.decisions x hx hne _ _ _ _ _ _
  · intro x hx hne
    rw [← hid]
    exact hst.decided x hx hne row hr htenant
  · refine mirrors_write (updateRevision_only fun _ => rfl) fun st₂ hst₂ => ?_
    have haudit : st₂.audit = st.audit := by
      simp only [insertDecision, bind_eq_ok, require_eq_ok, pure_eq_ok, exists_const] at hst₁
      simp only [updateRevision, bind_eq_ok, require_eq_ok, pure_eq_ok, exists_const] at hst₂
      obtain ⟨_, _, rfl⟩ := hst₁
      obtain ⟨_, rfl⟩ := hst₂
      rfl
    exact mirrors_appendAudit hst haudit

theorem createDeploymentOperation_mirrors (hst : Apart sha A st)
    (hops : st₁.operations = st.operations) (ha : a.tenantId = A)
    {r : ConfigurationRevision} {kind : OperationKind}
    {expected : Option (Option Digest)} {retryOf : Option Digest} :
    Mirrors A (createDeploymentOperation sha st₁ a r kind t expected retryOf)
      (createDeploymentOperation sha (st₁.only A) a r kind t expected retryOf) := by
  unfold createDeploymentOperation
  rw [ha, controlOperations_only, latestApplied_only, maxSequence_only]
  refine mirrors_same fun _ _ => mirrors_same fun _ _ => ?_
  refine mirrors_write (insertOperation_only rfl ?_ ?_) fun _ _ => mirrors_pure
  · rw [hops]
    intro x hx hne
    exact hst.operations x hx hne _ rfl
  · rw [hops]
    exact hst.index

theorem movePointer_mirrors (ha : a.tenantId = A) {r : ConfigurationRevision} {v : Option Nat} :
    Mirrors A (movePointer st a r v t) (movePointer (st.only A) a r v t) := by
  unfold movePointer
  rw [ha, deploymentRow_only]
  cases st.deploymentRow A r.controlId with
  | none =>
    refine mirrors_same fun _ _ => ?_
    have hpart : (st.deployments ++ [pointerRow a r t 1]).filter (fun d => decide (d.tenantId = A))
        = (st.only A).deployments ++ [pointerRow a r t 1] := append_part (decide_eq_true ha)
    unfold pointerRow at hpart
    rw [ha] at hpart
    exact congrArg (fun l => Except.ok ({ st.only A with deployments := l }, 1, none)) hpart.symm
  | some existing =>
    have hcount : (st.only A).deployments.countP (pointerRows A r.controlId existing.deploymentVersion)
        = st.deployments.countP (pointerRows A r.controlId existing.deploymentVersion) :=
      countP_part fun _ _ hp => decide_eq_true (of_decide_eq_true hp).1
    refine mirrors_same fun _ _ => mirrors_same fun _ _ => ?_
    dsimp only
    refine mirrors_require ?_ fun _ => ?_
    · show (st.only A).deployments.countP (pointerRows A r.controlId existing.deploymentVersion) = 1
        ↔ st.deployments.countP (pointerRows A r.controlId existing.deploymentVersion) = 1
      rw [hcount]
    · have hrevisions : (updateWhere (retiredRows A existing.revisionId)
            ConfigurationRevision.retire st.revisions).filter (fun x => decide (x.tenantId = A))
          = updateWhere (retiredRows A existing.revisionId) ConfigurationRevision.retire
            (st.only A).revisions := updateWhere_part fun _ => rfl
      have hdeployments : (updateWhere (pointerRows A r.controlId existing.deploymentVersion)
            (fun d => { d with
              revisionId := r.revisionId
              configurationDigest := r.configurationDigest
              activatedBy := a.subject
              activatedAt := t
              deploymentVersion := existing.deploymentVersion + 1 }) st.deployments).filter
            (fun d => decide (d.tenantId = A))
          = updateWhere (pointerRows A r.controlId existing.deploymentVersion) (fun d => { d with
              revisionId := r.revisionId
              configurationDigest := r.configurationDigest
              activatedBy := a.subject
              activatedAt := t
              deploymentVersion := existing.deploymentVersion + 1 })
            (st.only A).deployments := updateWhere_part fun _ => rfl
      have hstore : ∀ (rs rs' : List ConfigurationRevision) (ds ds' : List ActiveDeployment),
          rs' = rs → ds' = ds →
          (Except.ok ({ st.only A with revisions := rs, deployments := ds },
            existing.deploymentVersion + 1, some existing.revisionId) :
            Except ControlPlaneError (Store × Nat × Option Digest))
          = Except.ok ({ st.only A with revisions := rs', deployments := ds' },
            existing.deploymentVersion + 1, some existing.revisionId) := by
        intro rs rs' ds ds' hrs hds
        rw [hrs, hds]
      exact hstore _ _ _ _ hrevisions hdeployments

theorem activateWithOperation_mirrors (hst : Apart sha A st) (ha : a.tenantId = A)
    {v : Option Nat} :
    Mirrors A (activateWithOperation sha st a rid v t)
      (activateWithOperation sha (st.only A) a rid v t) := by
  unfold activateWithOperation
  refine mirrors_orConflict ?_
  have hrow : (st.only A).revisionRow a.tenantId rid = st.revisionRow a.tenantId rid := by
    rw [ha, revisionRow_only]
  rw [hrow]
  refine mirrors_same fun row _ => mirrors_same fun revision _ => mirrors_same fun _ _ => ?_
  refine mirrors_bind (movePointer_mirrors ha) fun st₁ moved hmoved => ?_
  obtain ⟨n, previous⟩ := moved
  have hm := movePointer_moved hmoved
  have hops : st₁.operations = st.operations := by cases hm <;> rfl
  have haudit : st₁.audit = st.audit := by cases hm <;> rfl
  refine mirrors_bind (createDeploymentOperation_mirrors hst hops ha) fun st₂ op hcreate => ?_
  have haudit₂ : st₂.audit = st.audit := by
    obtain ⟨-, rfl⟩ := createDeploymentOperation_ok hcreate
    exact haudit
  dsimp only
  rw [ha]
  exact mirrors_appendAudit hst haudit₂

theorem requestRollback_mirrors (hst : Apart sha A st) (ha : a.tenantId = A) {p : Digest} :
    Mirrors A (requestRollback sha st a rid p t) (requestRollback sha (st.only A) a rid p t) := by
  unfold requestRollback
  refine mirrors_orConflict ?_
  have hrow : (st.only A).revisionRow a.tenantId rid = st.revisionRow a.tenantId rid := by
    rw [ha, revisionRow_only]
  rw [hrow]
  refine mirrors_same fun row _ => mirrors_same fun revision _ => mirrors_same fun _ _ => ?_
  refine mirrors_require (exists_part fun _ _ h => decide_eq_true (h.1.trans ha)) fun _ => ?_
  have happlied : (st.only A).latestApplied a.tenantId revision.controlId
      = st.latestApplied a.tenantId revision.controlId := by
    rw [ha, latestApplied_only]
  rw [happlied]
  refine mirrors_same fun _ _ => mirrors_same fun _ _ => mirrors_same fun _ _ =>
    mirrors_same fun _ _ => mirrors_same fun _ _ => ?_
  refine mirrors_bind (createDeploymentOperation_mirrors hst rfl ha) fun st₁ op hcreate => ?_
  have haudit : st₁.audit = st.audit := by
    obtain ⟨-, rfl⟩ := createDeploymentOperation_ok hcreate
    rfl
  dsimp only
  rw [ha]
  exact mirrors_appendAudit hst haudit

theorem requestDeploymentRetry_mirrors (hst : Apart sha A st) (ha : a.tenantId = A) :
    Mirrors A (requestDeploymentRetry sha st a oid t)
      (requestDeploymentRetry sha (st.only A) a oid t) := by
  unfold requestDeploymentRetry
  refine mirrors_orConflict ?_
  have hrow : (st.only A).operationRow a.tenantId oid = st.operationRow a.tenantId oid := by
    rw [ha, operationRow_only]
  rw [hrow]
  refine mirrors_same fun failedRow _ => mirrors_same fun failed _ => mirrors_same fun _ _ => ?_
  have hops : (st.only A).controlOperations a.tenantId failed.controlId
      = st.controlOperations a.tenantId failed.controlId := by
    rw [ha, controlOperations_only]
  have hrevision : (st.only A).revisionRow a.tenantId failed.revisionId
      = st.revisionRow a.tenantId failed.revisionId := by
    rw [ha, revisionRow_only]
  have hselection : (st.only A).deploymentRow a.tenantId failed.controlId
      = st.deploymentRow a.tenantId failed.controlId := by
    rw [ha, deploymentRow_only]
  rw [hops, hrevision, hselection]
  refine mirrors_same fun _ _ => mirrors_same fun _ _ => mirrors_same fun _ _ =>
    mirrors_same fun _ _ => mirrors_same fun _ _ => mirrors_same fun _ _ =>
    mirrors_same fun _ _ => ?_
  refine mirrors_bind (createDeploymentOperation_mirrors hst rfl ha) fun st₁ op hcreate => ?_
  have haudit : st₁.audit = st.audit := by
    obtain ⟨-, rfl⟩ := createDeploymentOperation_ok hcreate
    rfl
  dsimp only
  rw [ha]
  exact mirrors_appendAudit hst haudit

/-- The last three steps of a worker's call: the event, and the row it reads back. -/
theorem mirrors_reread {α : Type} (hst : Apart sha A st)
    (haudit : st₁.audit = st.audit) {subject : String} {session : Digest} {action : AuditAction}
    {objectId : Digest} {details : AuditDetails} {e : ControlPlaneError}
    {answer : DeploymentOperation → α} :
    Mirrors A (appendAudit sha st₁ A subject session action objectId t details >>= fun st₂ =>
        expect (st₂.operationRow A oid) e >>= fun updated =>
        readOperation sha updated >>= fun op => pure (st₂, answer op))
      (appendAudit sha (st₁.only A) A subject session action objectId t details >>= fun st₂ =>
        expect (st₂.operationRow A oid) e >>= fun updated =>
        readOperation sha updated >>= fun op => pure (st₂, answer op)) := by
  refine mirrors_write (appendAudit_only (haudit ▸ hst.audit)) fun st₂ _ => ?_
  rw [operationRow_only]
  exact mirrors_same fun _ _ => mirrors_same fun _ _ => mirrors_pure

theorem updateOperations_audit {p : DeploymentOperation → Bool}
    {f : DeploymentOperation → DeploymentOperation} {stale : String}
    (h : updateOperations st p f stale = .ok st₁) : st₁.audit = st.audit := by
  obtain ⟨-, -, -, -, rfl⟩ := updateOperations_ok h
  rfl

theorem leaseNext_mirrors (hst : Apart sha A st) (hw : w.tenantId = A) {n : Nat} :
    Mirrors A (leaseNextDeploymentOperation sha st w k t n)
      (leaseNextDeploymentOperation sha (st.only A) w k t n) := by
  unfold leaseNextDeploymentOperation
  refine mirrors_same fun _ _ => mirrors_orConflict ?_
  have hrows : ((st.only A).operations.filter fun op =>
        decide (op.tenantId = w.tenantId) && op.eligible t)
      = st.operations.filter fun op => decide (op.tenantId = w.tenantId) && op.eligible t := by
    refine filter_part fun o _ hp => ?_
    exact decide_eq_true ((of_decide_eq_true (Bool.and_eq_true_iff.mp hp).1).trans hw)
  rw [hrows]
  cases firstBy leaseOrder
      (st.operations.filter fun op => decide (op.tenantId = w.tenantId) && op.eligible t) with
  | none => exact mirrors_pure
  | some row =>
    refine mirrors_same fun current _ => ?_
    dsimp only
    rw [hw]
    refine mirrors_write (updateOperations_only ?_ (fun _ => rfl) hst.index) fun st₁ hst₁ => ?_
    · intro o hp
      exact (of_decide_eq_true (Bool.and_eq_true_iff.mp hp).1).1
    · exact mirrors_reread hst (updateOperations_audit hst₁)

theorem acknowledge_mirrors (hst : Apart sha A st)
    (hw : w.tenantId = A) {fence : Nat} {digest receipt : Digest} :
    Mirrors A (acknowledgeDeploymentApplied sha st w oid k fence digest receipt t)
      (acknowledgeDeploymentApplied sha (st.only A) w oid k fence digest receipt t) := by
  unfold acknowledgeDeploymentApplied
  rw [hw, operationRow_only]
  refine mirrors_same fun _ _ => mirrors_same fun _ _ => mirrors_same fun current _ =>
    mirrors_same fun _ _ => mirrors_same fun _ _ => ?_
  refine mirrors_write (updateOperations_only ?_ (fun _ => rfl) hst.index) fun st₁ hst₁ => ?_
  · intro o hp
    exact (of_decide_eq_true (Bool.and_eq_true_iff.mp hp).1).1
  · exact mirrors_reread hst (updateOperations_audit hst₁)

theorem fail_mirrors (hst : Apart sha A st)
    (hw : w.tenantId = A) {fence : Nat} {failure : Digest} {retryAt : Option Time} :
    Mirrors A (failDeploymentOperation sha st w oid k fence failure t retryAt)
      (failDeploymentOperation sha (st.only A) w oid k fence failure t retryAt) := by
  unfold failDeploymentOperation
  rw [hw, operationRow_only]
  refine mirrors_same fun _ _ => mirrors_same fun _ _ => mirrors_same fun _ _ =>
    mirrors_same fun current _ => mirrors_same fun _ _ => ?_
  refine mirrors_write (updateOperations_only ?_ (fun _ => rfl) hst.index) fun st₁ hst₁ => ?_
  · intro o hp
    exact (of_decide_eq_true (Bool.and_eq_true_iff.mp hp).1).1
  · exact mirrors_reread hst (updateOperations_audit hst₁)

/-- **A call on the shared store is the call on the tenant's own.** -/
theorem run_mirrors (hst : Apart sha A st) {c : StoreCall} (hc : c.tenantId = A) :
    Mirrors A (c.run sha st) (c.run sha (st.only A)) := by
  cases c with
  | createDraft a cfg p t => exact createDraft_mirrors hst hc
  | getRevision tenantId rid =>
    have hc : tenantId = A := hc
    simp only [StoreCall.run, getRevision]
    rw [hc, revisionRow_only]
    cases expect (st.revisionRow A rid) _ >>= readRevision sha <;> rfl
  | submit a rid v t => exact submit_mirrors hst hc
  | decide a rid v d comment t => exact decideRevision_mirrors hst hc
  | activateWithOperation a rid v t => exact activateWithOperation_mirrors hst hc
  | requestRollback a rid p t => exact requestRollback_mirrors hst hc
  | requestDeploymentRetry a oid t => exact requestDeploymentRetry_mirrors hst hc
  | getDeploymentOperation tenantId oid =>
    have hc : tenantId = A := hc
    simp only [StoreCall.run, getDeploymentOperation]
    rw [hc, operationRow_only]
    cases expect (st.operationRow A oid) _ >>= readOperation sha <;> rfl
  | lease w k t n => exact leaseNext_mirrors hst hc
  | acknowledge w oid k f d r t => exact acknowledge_mirrors hst hc
  | fail w oid k f d t r => exact fail_mirrors hst hc

end

end ControlAssurance.ControlPlane
