import ControlAssurance.ControlPlane.TenantStore

/-!
# Tenants do not interfere

Every row belongs to a tenant. A call changes rows of its own tenant only (`commit_frame`), and
what it answers and does depends on the rows of its own tenant only (`invoke_only`): to each
tenant the shared store is a private one. Whatever other tenants do in between, a tenant gets
the answers its calls would get alone.

The keys of the shared tables are digests, so one tenant could be refused because of another
one's row if their identities had the same digest. `SeparateTenants` assumes that they have not, for
the tenants at hand.
-/

namespace ControlAssurance.ControlPlane

open Lib

variable {sha : Document → Digest} {A B : String}

/-! ## What a call leaves alone -/

variable {st' : Store} {c : StoreCall} {tenants : List String}

theorem only_eq {st : Store} (hrevisions : st'.revisions.filter (fun r => decide (r.tenantId = B))
      = st.revisions.filter fun r => decide (r.tenantId = B))
    (hdecisions : st'.decisions.filter (fun d => decide (d.tenantId = B))
      = st.decisions.filter fun d => decide (d.tenantId = B))
    (hdeployments : st'.deployments.filter (fun d => decide (d.tenantId = B))
      = st.deployments.filter fun d => decide (d.tenantId = B))
    (hoperations : st'.operations.filter (fun o => decide (o.tenantId = B))
      = st.operations.filter fun o => decide (o.tenantId = B))
    (haudit : st'.audit.filter (fun e => decide (e.body.tenantId = B))
      = st.audit.filter fun e => decide (e.body.tenantId = B)) : st'.only B = st.only B := by
  unfold Store.only
  rw [hrevisions, hdecisions, hdeployments, hoperations, haudit]

theorem append_other {α : Type} {t : List α} {r : α} {tenant : α → String} (hr : tenant r ≠ B) :
    (t ++ [r]).filter (fun x => decide (tenant x = B)) = t.filter fun x => decide (tenant x = B) := by
  rw [List.filter_append, List.filter_cons_of_neg (by simpa using hr), List.filter_nil,
    List.append_nil]

theorem update_other {α : Type} {t : List α} {p : α → Bool} {f : α → α} {tenant : α → String}
    (hp : ∀ x, p x = true → tenant x ≠ B) (hf : ∀ x, tenant (f x) = tenant x) :
    (updateWhere p f t).filter (fun x => decide (tenant x = B))
      = t.filter fun x => decide (tenant x = B) :=
  filter_updateWhere_other (fun x _ hpx => decide_eq_false (hp x hpx))
    fun x => congrArg (fun y => decide (y = B)) (hf x)

/-- **A call changes no row of another tenant.** -/
theorem commit_frame {st : Store} {ans : c.Answer}
    (h : c.run sha st = .ok (st', ans)) (hB : c.tenantId ≠ B) : st'.only B = st.only B := by
  cases c with
  | createDraft a cfg p t =>
    obtain ⟨n, parent, htenant, -, rfl, -, rfl⟩ := createDraft_ok h
    exact only_eq (append_other fun heq => hB (htenant.symm.trans heq)) rfl rfl rfl
      (append_other hB)
  | getRevision tenantId rid =>
    obtain ⟨_, -, heq⟩ := map_eq_ok.mp h
    cases heq
    rfl
  | submit a rid v t =>
    obtain ⟨r, -, -, -, -, rfl⟩ := submit_ok h
    refine only_eq (update_other ?_ fun _ => rfl) rfl rfl rfl (append_other hB)
    exact fun x hx heq => hB ((of_decide_eq_true hx).1.symm.trans heq)
  | decide a rid v d comment t =>
    obtain ⟨r, -, -, -, -, hten, -, -, rfl⟩ := decideRevision_ok h
    refine only_eq (update_other ?_ fun _ => rfl) (append_other fun heq => hB (hten.symm.trans heq))
      rfl rfl (append_other hB)
    exact fun x hx heq => hB ((of_decide_eq_true hx).1.symm.trans heq)
  | activateWithOperation a rid v t =>
    obtain ⟨r, st₁, n, previous, -, -, hmoved, hreq, rfl⟩ := activateWithOperation_ok h
    have hop : ans.2.tenantId ≠ B := fun heq => hB (hreq.tenant.symm.trans heq)
    cases hmoved with
    | first =>
      exact only_eq rfl rfl (append_other hB) (append_other hop) (append_other hB)
    | next =>
      refine only_eq (update_other ?_ fun _ => rfl) rfl (update_other ?_ fun _ => rfl)
        (append_other hop) (append_other hB)
      · exact fun x hx heq => hB ((of_decide_eq_true hx).1.symm.trans heq)
      · exact fun x hx heq => hB ((of_decide_eq_true hx).1.symm.trans heq)
  | requestRollback a rid p t =>
    obtain ⟨r, hreq, rfl⟩ := requestRollback_ok h
    exact only_eq rfl rfl rfl (append_other fun heq => hB (hreq.tenant.symm.trans heq))
      (append_other hB)
  | requestDeploymentRetry a oid t =>
    obtain ⟨r, _, hreq, rfl⟩ := requestDeploymentRetry_ok h
    exact only_eq rfl rfl rfl (append_other fun heq => hB (hreq.tenant.symm.trans heq))
      (append_other hB)
  | getDeploymentOperation tenantId oid =>
    obtain ⟨_, -, heq⟩ := map_eq_ok.mp h
    cases heq
    rfl
  | lease w k t n =>
    rcases leaseNext_ok h with ⟨-, rfl⟩ | ⟨op, _, -, -, -, -, -, -, -, -, -, rfl⟩
    · rfl
    · refine only_eq rfl rfl rfl (update_other ?_ fun _ => rfl) (append_other hB)
      exact fun x hx heq =>
        hB ((of_decide_eq_true (Bool.and_eq_true_iff.mp hx).1).1.symm.trans heq)
  | acknowledge w oid k f d r t =>
    obtain ⟨op, -, -, -, rfl⟩ := acknowledge_ok h
    refine only_eq rfl rfl rfl (update_other ?_ fun _ => rfl) (append_other hB)
    exact fun x hx heq => hB ((of_decide_eq_true (Bool.and_eq_true_iff.mp hx).1).1.symm.trans heq)
  | fail w oid k f d t r =>
    obtain ⟨op, -, -, rfl⟩ := fail_ok h
    refine only_eq rfl rfl rfl (update_other ?_ fun _ => rfl) (append_other hB)
    exact fun x hx heq => hB ((of_decide_eq_true (Bool.and_eq_true_iff.mp hx).1).1.symm.trans heq)

/-! ## Whose identities the keys are -/

/-- The tenant whose identity a document is. -/
def Document.tenantId : Document → Option String
  | .revision tenantId .. => some tenantId
  | .decision _ tenantId .. => some tenantId
  | .operation tenantId .. => some tenantId
  | .event e => some e.tenantId
  | _ => none

/-- Identities of different tenants have different digests. -/
def SeparateTenants (sha : Document → Digest) (tenants : List String) : Prop :=
  ∀ A ∈ tenants, ∀ B ∈ tenants, A ≠ B → ∀ d d' : Document, d.tenantId = some A →
    d'.tenantId = some B → sha d ≠ sha d'

/-- Every row is one of the tenants', and its key is its own identity. -/
structure Tidy (sha : Document → Digest) (tenants : List String) (st : Store) : Prop where
  sound : Sound sha st
  chained : Chained sha st.audit
  index : oneUnresolved st.operations
  operationIds : ∀ o ∈ st.operations,
    o.operationId = deploymentOperationIdentity sha o.toOperationRequest
  decisionIds : ∀ d ∈ st.decisions, d.decisionId = decisionIdentity sha d.revisionId d.tenantId
    d.decision d.decidedBy d.decidedAt d.comment d.actorSessionDigest
  owned : ∀ tenantId, tenantId ∉ tenants → st.only tenantId = Store.empty

theorem tidy_init : Tidy sha tenants Store.empty where
  sound := sound_init
  chained := chained_nil
  index := List.nodup_nil
  operationIds := fun _ h => absurd h List.not_mem_nil
  decisionIds := fun _ h => absurd h List.not_mem_nil
  owned := fun _ _ => rfl

theorem step_index {st : Store} (h : StoreStep sha st c st')
    (hst : oneUnresolved st.operations) : oneUnresolved st'.operations := by
  cases h with
  | activated r st₁ n previous op e _ _ _ hreq => exact hreq.index
  | rolledBack r op e _ _ _ hreq => exact hreq.index
  | retried f r op e _ _ _ _ _ hreq => exact hreq.index
  | leased op e _ _ _ _ _ _ hindex => exact hindex
  | acknowledged op e _ _ _ _ hindex => exact hindex
  | failed op e _ _ _ hindex => exact hindex
  | _ => exact hst

theorem step_operationIds {st : Store} (h : StoreStep sha st c st') (hst : ∀ o ∈ st.operations,
      o.operationId = deploymentOperationIdentity sha o.toOperationRequest) :
    ∀ o ∈ st'.operations, o.operationId = deploymentOperationIdentity sha o.toOperationRequest := by
  have hadded : ∀ {st₁ : Store} {op : DeploymentOperation} {a : Actor} {r : ConfigurationRevision}
      {kind : OperationKind} {t : Time} {retryOf : Option Digest}, st₁.operations = st.operations →
      Requested sha st₁ op a r kind t retryOf → ∀ o ∈ st₁.operations ++ [op],
      o.operationId = deploymentOperationIdentity sha o.toOperationRequest := by
    intro st₁ op a r kind t retryOf hops hreq o ho
    rcases List.mem_append.mp ho with ho | ho
    · exact hst o (hops ▸ ho)
    · rw [List.mem_singleton.mp ho]
      exact hreq.identity
  have hupdated : ∀ {p : DeploymentOperation → Bool} {f : DeploymentOperation → DeploymentOperation},
      (∀ x, (f x).toOperationRequest = x.toOperationRequest) →
      ∀ o ∈ updateWhere p f st.operations,
      o.operationId = deploymentOperationIdentity sha o.toOperationRequest := by
    intro p f hf o ho
    obtain ⟨x, hx, heq⟩ := updateWhere_request ho hf
    rw [heq]
    exact hst x hx
  cases h with
  | activated r st₁ n previous op e _ _ hpointer hreq =>
    exact hadded (movePointer_ok hpointer).2.2.2.1 hreq
  | rolledBack r op e _ _ _ hreq => exact hadded rfl hreq
  | retried f r op e _ _ _ _ _ hreq => exact hadded rfl hreq
  | leased op e => exact hupdated fun _ => rfl
  | acknowledged op e => exact hupdated fun _ => rfl
  | failed op e => exact hupdated fun _ => rfl
  | _ => exact hst

theorem decideRevision_identity {st : Store} {a : Actor} {rid : Digest} {v : Nat}
    {verdict : Verdict} {comment : String} {t : Time} {d : ApprovalDecision}
    (h : decideRevision sha st a rid v verdict comment t = .ok (st', d)) :
    d.decisionId = decisionIdentity sha d.revisionId d.tenantId d.decision d.decidedBy d.decidedAt
      d.comment d.actorSessionDigest := by
  simp only [decideRevision, bind_eq_ok, require_eq_ok, orConflict_eq_ok, pure_eq_ok,
    Prod.mk.injEq] at h
  obtain ⟨_, _, _, _, _, _, _, _, _, _, _, _, _, _, _, rfl⟩ := h
  rfl

theorem commit_decisionIds {st : Store} {ans : c.Answer} (h : c.run sha st = .ok (st', ans))
    (hst : ∀ d ∈ st.decisions, d.decisionId = decisionIdentity sha d.revisionId d.tenantId
      d.decision d.decidedBy d.decidedAt d.comment d.actorSessionDigest) :
    ∀ d ∈ st'.decisions, d.decisionId = decisionIdentity sha d.revisionId d.tenantId d.decision
      d.decidedBy d.decidedAt d.comment d.actorSessionDigest := by
  have hstep := run_step h
  cases c with
  | decide a rid v verdict comment t =>
    have hidentity := decideRevision_identity h
    obtain ⟨r, -, -, -, -, -, -, -, rfl⟩ := decideRevision_ok h
    intro d hd
    rcases List.mem_append.mp hd with hd | hd
    · exact hst d hd
    · rw [List.mem_singleton.mp hd]
      exact hidentity
  | activateWithOperation a rid v t =>
    obtain ⟨r, st₁, n, previous, -, -, hmoved, -, rfl⟩ := activateWithOperation_ok h
    cases hmoved <;> exact hst
  | _ => cases hstep <;> exact hst

theorem commit_tidy {st : Store} {ans : c.Answer}
    (hst : Tidy sha tenants st) (hc : c.tenantId ∈ tenants)
    (h : c.run sha st = .ok (st', ans)) : Tidy sha tenants st' where
  sound := commit_sound hst.sound h
  chained := commit_chained hst.chained h
  index := step_index (run_step h) hst.index
  operationIds := step_operationIds (run_step h) hst.operationIds
  decisionIds := commit_decisionIds h hst.decisionIds
  owned := by
    intro tenantId hnot
    have hother : c.tenantId ≠ tenantId := fun heq => hnot (heq ▸ hc)
    rw [commit_frame h hother]
    exact hst.owned tenantId hnot

/-- The tenants of the rows. -/
theorem Tidy.tenant {st : Store} (hst : Tidy sha tenants st) :
    (∀ r ∈ st.revisions, r.tenantId ∈ tenants) ∧ (∀ d ∈ st.decisions, d.tenantId ∈ tenants)
      ∧ (∀ o ∈ st.operations, o.tenantId ∈ tenants)
      ∧ ∀ e ∈ st.audit, e.body.tenantId ∈ tenants := by
  refine ⟨?_, ?_, ?_, ?_⟩
  · intro r hr
    by_contra hnot
    have hnil := congrArg Store.revisions (hst.owned r.tenantId hnot)
    exact List.filter_eq_nil_iff.mp hnil r hr (decide_eq_true rfl)
  · intro d hd
    by_contra hnot
    have hnil := congrArg Store.decisions (hst.owned d.tenantId hnot)
    exact List.filter_eq_nil_iff.mp hnil d hd (decide_eq_true rfl)
  · intro o ho
    by_contra hnot
    have hnil := congrArg Store.operations (hst.owned o.tenantId hnot)
    exact List.filter_eq_nil_iff.mp hnil o ho (decide_eq_true rfl)
  · intro e he
    by_contra hnot
    have hnil := congrArg Store.audit (hst.owned e.body.tenantId hnot)
    exact List.filter_eq_nil_iff.mp hnil e he (decide_eq_true rfl)

/-- A decision belongs to the tenant of the revision it is about. -/
theorem Sound.decision_tenant {st : Store} (hst : Sound sha st) {d : ApprovalDecision}
    (hd : d ∈ st.decisions) {r : ConfigurationRevision} (hr : r ∈ st.revisions)
    (hid : d.revisionId = r.revisionId) : d.tenantId = r.tenantId := by
  have hmem : d ∈ st.decisions.filter fun x => decide (x.revisionId = r.revisionId) :=
    List.mem_filter.mpr ⟨hd, decide_eq_true hid⟩
  have hdecided := hst.decided r hr
  unfold Decided at hdecided
  split at hdecided
  · exact absurd hid (hdecided d hd)
  · exact absurd hid (hdecided d hd)
  all_goals
    obtain ⟨d', hone, htenant, -⟩ := hdecided
    rw [hone] at hmem
    rw [List.mem_singleton.mp hmem]
    exact htenant

/-- In a tidy store, the others hold no key of `A`. -/
theorem Tidy.apart {st : Store} (hst : Tidy sha tenants st)
    (hsep : SeparateTenants sha tenants) (hA : A ∈ tenants) : Apart sha A st := by
  obtain ⟨htr, htd, hto, hta⟩ := hst.tenant
  refine ⟨?_, ?_, ?_, ?_, ?_, hst.index, ?_, ?_⟩
  · intro r hr hne controlId generation parent digest
    have hvalid := hst.sound.valid r hr
    unfold ConfigurationRevision.valid at hvalid
    rw [← (of_decide_eq_true hvalid).2.2.2.1]
    exact hsep r.tenantId (htr r hr) A hA hne _ _ rfl rfl
  · intro d hd hne revisionId verdict subject t comment session
    rw [hst.decisionIds d hd]
    exact hsep d.tenantId (htd d hd) A hA hne _ _ rfl rfl
  · intro d hd hne r hr htenant heq
    exact hne ((hst.sound.decision_tenant hd hr heq).trans htenant)
  · intro r hr hne x hx htenant heq
    have hrx : r = x := List.inj_on_of_nodup_map hst.sound.revisionKeys hr hx heq
    exact hne (hrx ▸ htenant)
  · intro o ho hne q hq
    rw [hst.operationIds o ho]
    exact hsep o.tenantId (hto o ho) A hA hne _ _ rfl (congrArg some hq)
  · intro d hd htenant r hr hid
    obtain ⟨x, hx, hxid, hsel⟩ := hst.sound.pointers d hd
    have hrx : r = x := List.inj_on_of_nodup_map hst.sound.revisionKeys hr hx (hid.trans hxid.symm)
    rw [hrx, hsel.2.1, htenant]
  · intro e he hne body hbody
    rw [(hst.chained.digests e he).1]
    exact hsep e.body.tenantId (hta e he) A hA hne _ _ rfl (congrArg some hbody)

/-! ## Methods -/

/-- A public method of the store with its arguments. -/
inductive StoreMethod where
  | call (c : StoreCall)
  | listRevisions (tenantId controlId : String) (limit : Nat)
  | listControls (tenantId : String) (limit : Nat)
  | getActiveDeployment (tenantId controlId : String)
  | listDeploymentOperations (tenantId controlId : String) (limit : Nat)
  | latestAppliedOperation (tenantId controlId : String)
  | auditEvents (tenantId : String) (afterSequence limit : Nat)
  | verifyAuditChain (tenantId : String)

def StoreMethod.tenantId : StoreMethod → String
  | .call c => c.tenantId
  | .listRevisions tenantId .. => tenantId
  | .listControls tenantId .. => tenantId
  | .getActiveDeployment tenantId _ => tenantId
  | .listDeploymentOperations tenantId .. => tenantId
  | .latestAppliedOperation tenantId _ => tenantId
  | .auditEvents tenantId .. => tenantId
  | .verifyAuditChain tenantId => tenantId

/-- What each method returns. -/
def StoreMethod.Answer : StoreMethod → Type
  | .call c => c.Answer × Option ConfigurationRevision
  | .listRevisions .. => List ConfigurationRevision
  | .listControls .. => List ControlSummary
  | .getActiveDeployment .. => ActiveDeployment
  | .listDeploymentOperations .. => List DeploymentOperation
  | .latestAppliedOperation .. => DeploymentOperation
  | .auditEvents .. => List AuditRow
  | .verifyAuditChain .. => Option (Except ControlPlaneError (Nat × Digest))

/-- The result of a method, a value or an exception, and the tables after it. -/
def StoreMethod.invoke {J : Type} (C : AuditCodec J) (st : Store) :
    (m : StoreMethod) → Except ControlPlaneError m.Answer × Store
  | .call c => c.invoke C.sha st
  | .listRevisions tenantId controlId limit =>
    (ControlPlane.listRevisions C.sha st tenantId controlId limit, st)
  | .listControls tenantId limit => (ControlPlane.listControls C.sha st tenantId limit, st)
  | .getActiveDeployment tenantId controlId =>
    (ControlPlane.getActiveDeployment st tenantId controlId, st)
  | .listDeploymentOperations tenantId controlId limit =>
    (ControlPlane.listDeploymentOperations C.sha st tenantId controlId limit, st)
  | .latestAppliedOperation tenantId controlId =>
    (ControlPlane.latestAppliedOperation C.sha st tenantId controlId, st)
  | .auditEvents tenantId afterSequence limit =>
    (ControlPlane.auditEvents C (st.audit.map (·.row C)) tenantId afterSequence limit, st)
  | .verifyAuditChain tenantId =>
    (.ok (ControlPlane.verifyAuditChain C (st.audit.map (·.row C)) tenantId), st)

section

variable {J : Type} {C : AuditCodec J} {st : Store}

theorem listRevisions_only (controlId : String) (limit : Nat) :
    listRevisions sha (st.only A) A controlId limit = listRevisions sha st A controlId limit := by
  have hrows : ((st.only A).revisions.filter fun r =>
        decide (r.tenantId = A ∧ r.controlId = controlId))
      = st.revisions.filter fun r => decide (r.tenantId = A ∧ r.controlId = controlId) :=
    filter_part fun _ _ hp => decide_eq_true (of_decide_eq_true hp).1
  unfold listRevisions
  rw [hrows]

theorem selections_only (hst : Apart sha A st) {d : ActiveDeployment} (hd : d ∈ st.deployments)
    (hA : d.tenantId = A) : (st.only A).selections d = st.selections d :=
  filter_part fun r hr hid => decide_eq_true (hst.pointers d hd hA r hr (of_decide_eq_true hid))

/-- A search through a join that only pairs of the part can answer. -/
theorem find?_join_part {α β : Type} {keep : α → Bool} {p : β → Bool} {g : α → List β}
    {t : List α} (h : ∀ x ∈ t, keep x = false → ∀ y ∈ g x, p y = false) :
    ((t.filter keep).flatMap g).find? p = (t.flatMap g).find? p := by
  induction t with
  | nil => rfl
  | cons x t ih =>
    have hrest := ih fun y hy => h y (List.mem_cons_of_mem _ hy)
    rw [List.flatMap_cons, List.find?_append]
    cases hk : keep x with
    | true =>
      rw [List.filter_cons_of_pos hk, List.flatMap_cons, List.find?_append, hrest]
    | false =>
      have hnone : (g x).find? p = none := by
        refine List.find?_eq_none.mpr fun y hy => ?_
        rw [h x (List.mem_cons_self ..) hk y hy]
        exact Bool.false_ne_true
      rw [List.filter_cons_of_neg (by rw [hk]; exact Bool.false_ne_true), hrest, hnone]
      rfl

theorem getActiveDeployment_only (hst : Apart sha A st) (controlId : String) :
    getActiveDeployment (st.only A) A controlId = getActiveDeployment st A controlId := by
  have hjoined : ((st.only A).deployments.flatMap fun d =>
        ((st.only A).selections d).map (Prod.mk d)).find?
        (fun row => decide (row.1.tenantId = A ∧ row.1.controlId = controlId))
      = (st.deployments.flatMap fun d => (st.selections d).map (Prod.mk d)).find?
        fun row => decide (row.1.tenantId = A ∧ row.1.controlId = controlId) := by
    have hpairs : ((st.only A).deployments.flatMap fun d =>
        ((st.only A).selections d).map (Prod.mk d))
        = (st.only A).deployments.flatMap fun d => (st.selections d).map (Prod.mk d) := by
      refine List.flatMap_congr fun d hd => ?_
      obtain ⟨hd, hA⟩ := List.mem_filter.mp hd
      rw [selections_only hst hd (of_decide_eq_true hA)]
    rw [hpairs]
    refine find?_join_part fun d _ hk row hrow => ?_
    obtain ⟨r, -, rfl⟩ := List.mem_map.mp hrow
    exact decide_eq_false fun h => of_decide_eq_false hk h.1
  unfold getActiveDeployment
  dsimp only
  rw [hjoined]

theorem controlRows_only (hst : Apart sha A st) :
    (st.only A).controlRows A = st.controlRows A := by
  have hlatest : (st.only A).latestRevisions A = st.latestRevisions A := by
    have hsame : (st.only A).latestRevisions A = (st.only A).revisions.filter fun r =>
        decide (r.tenantId = A ∧ ∀ x ∈ st.revisions, x.tenantId = r.tenantId →
          x.controlId = r.controlId → x.generation ≤ r.generation) := by
      refine List.filter_congr fun r hr => ?_
      have hA := of_decide_eq_true (List.mem_filter.mp hr).2
      refine decide_eq_decide.mpr (and_congr Iff.rfl (forall_part fun x _ hk hx => ?_))
      exact absurd (hx.trans hA) (of_decide_eq_false hk)
    rw [hsame]
    exact filter_part fun _ _ hp => decide_eq_true (of_decide_eq_true hp).1
  unfold Store.controlRows
  rw [hlatest]
  refine List.flatMap_congr fun latest hmem => ?_
  have hA : latest.tenantId = A := (of_decide_eq_true (List.mem_filter.mp hmem).2).1
  have hdeployments : ((st.only A).deployments.filter fun d =>
        decide (d.tenantId = latest.tenantId ∧ d.controlId = latest.controlId))
      = st.deployments.filter fun d =>
        decide (d.tenantId = latest.tenantId ∧ d.controlId = latest.controlId) :=
    filter_part fun _ _ hp => decide_eq_true ((of_decide_eq_true hp).1.trans hA)
  rw [hdeployments]
  refine List.flatMap_congr fun o ho => ?_
  have hactive : ((st.only A).revisions.filter fun r =>
        decide (o.map (·.revisionId) = some r.revisionId))
      = st.revisions.filter fun r => decide (o.map (·.revisionId) = some r.revisionId) := by
    refine filter_part fun r hr hid => ?_
    have hid := of_decide_eq_true hid
    rcases mem_leftJoin ho with ⟨rfl, -⟩ | ⟨d, hd, rfl⟩
    · cases hid
    · obtain ⟨hd, hkey⟩ := List.mem_filter.mp hd
      exact decide_eq_true (hst.pointers d hd ((of_decide_eq_true hkey).1.trans hA) r hr
        (Option.some.inj hid).symm)
  rw [hactive]

theorem listControls_only (hst : Apart sha A st) (limit : Nat) :
    listControls sha (st.only A) A limit = listControls sha st A limit := by
  unfold listControls
  rw [controlRows_only hst]

theorem listDeploymentOperations_only (controlId : String) (limit : Nat) :
    listDeploymentOperations sha (st.only A) A controlId limit
      = listDeploymentOperations sha st A controlId limit := by
  unfold listDeploymentOperations
  rw [controlOperations_only]

theorem latestAppliedOperation_only (controlId : String) :
    latestAppliedOperation sha (st.only A) A controlId
      = latestAppliedOperation sha st A controlId := by
  unfold latestAppliedOperation
  rw [latestApplied_only]

theorem auditAfter_only (k : Nat) :
    auditAfter ((st.only A).audit.map (·.row C)) A k = auditAfter (st.audit.map (·.row C)) A k := by
  unfold auditAfter
  rw [List.filter_map, List.filter_map]
  have hrows : (st.only A).audit.filter ((fun r : AuditRow =>
        decide (r.body.tenantId = A ∧ k < r.body.sequence)) ∘ (·.row C))
      = st.audit.filter ((fun r : AuditRow =>
        decide (r.body.tenantId = A ∧ k < r.body.sequence)) ∘ (·.row C)) :=
    filter_part fun _ _ hp => decide_eq_true (of_decide_eq_true hp).1
  rw [hrows]

theorem auditEvents_only (k limit : Nat) :
    auditEvents C ((st.only A).audit.map (·.row C)) A k limit
      = auditEvents C (st.audit.map (·.row C)) A k limit := by
  unfold auditEvents
  rw [auditAfter_only]

theorem verifyAuditChain_only :
    verifyAuditChain C ((st.only A).audit.map (·.row C)) A
      = verifyAuditChain C (st.audit.map (·.row C)) A := by
  have hpages : ∀ fuel s, verifyPages C ((st.only A).audit.map (·.row C)) A fuel s
      = verifyPages C (st.audit.map (·.row C)) A fuel s := by
    intro fuel
    induction fuel with
    | zero => exact fun _ => rfl
    | succ fuel ih =>
      intro s
      rw [verifyPages, verifyPages, auditEvents_only]
      simp only [ih]
  have htrail : auditTrail ((st.only A).audit.map (·.row C)) A
      = auditTrail (st.audit.map (·.row C)) A := by
    unfold auditTrail
    rw [List.filter_map, List.filter_map]
    have hrows : (st.only A).audit.filter ((fun r : AuditRow =>
          decide (r.body.tenantId = A)) ∘ (·.row C))
        = st.audit.filter ((fun r : AuditRow => decide (r.body.tenantId = A)) ∘ (·.row C)) :=
      filter_part fun _ _ hp => hp
    rw [hrows]
  unfold verifyAuditChain
  rw [htrail, hpages]

/-- A method reads back a revision of its own tenant. -/
theorem readBack_tenant {st' : Store} {c : StoreCall} {ans : c.Answer} {key : String × Digest}
    (h : c.run sha st = .ok (st', ans)) (hkey : c.readBack ans = some key)
    (hc : c.tenantId = A) : key.1 = A := by
  cases c with
  | createDraft a cfg p t =>
    cases hkey
    obtain ⟨n, parent, htenant, -⟩ := createDraft_ok h
    exact htenant.trans hc
  | submit a rid v t =>
    cases hkey
    exact hc
  | decide a rid v d comment t =>
    cases hkey
    exact hc
  | _ => cases hkey

/-- **To its tenant, the shared store is a private one.** -/
theorem invoke_only (hst : Apart C.sha A st) {m : StoreMethod} (hm : m.tenantId = A) :
    m.invoke C (st.only A) = ((m.invoke C st).1, (m.invoke C st).2.only A) := by
  cases m with
  | call c =>
    have hc : c.tenantId = A := hm
    have hmirror := run_mirrors hst hc
    unfold Mirrors at hmirror
    simp only [StoreMethod.invoke, StoreCall.invoke]
    rw [hmirror]
    cases hrun : c.run C.sha st with
    | error e => rfl
    | ok result =>
      obtain ⟨st', ans⟩ := result
      simp only [Except.map]
      cases hkey : c.readBack ans with
      | none => rfl
      | some key =>
        have htenant : key.1 = A := readBack_tenant hrun hkey hc
        simp only [getRevision]
        rw [htenant, revisionRow_only]
        rfl
  | listRevisions tenantId controlId limit =>
    have hm : tenantId = A := hm
    subst hm
    exact congrArg (fun x => (x, st.only tenantId)) (listRevisions_only controlId limit)
  | listControls tenantId limit =>
    have hm : tenantId = A := hm
    subst hm
    exact congrArg (fun x => (x, st.only tenantId)) (listControls_only hst limit)
  | getActiveDeployment tenantId controlId =>
    have hm : tenantId = A := hm
    subst hm
    exact congrArg (fun x => (x, st.only tenantId)) (getActiveDeployment_only hst controlId)
  | listDeploymentOperations tenantId controlId limit =>
    have hm : tenantId = A := hm
    subst hm
    exact congrArg (fun x => (x, st.only tenantId)) (listDeploymentOperations_only controlId limit)
  | latestAppliedOperation tenantId controlId =>
    have hm : tenantId = A := hm
    subst hm
    exact congrArg (fun x => (x, st.only tenantId)) (latestAppliedOperation_only controlId)
  | auditEvents tenantId k limit =>
    have hm : tenantId = A := hm
    subst hm
    exact congrArg (fun x => (x, st.only tenantId)) (auditEvents_only k limit)
  | verifyAuditChain tenantId =>
    have hm : tenantId = A := hm
    subst hm
    exact congrArg (fun x => (Except.ok x, st.only tenantId)) verifyAuditChain_only

/-! ## Runs -/

/-- The tables after a method: as before it, or as its transaction left them. -/
theorem invoke_cases (C : AuditCodec J) (st : Store) (m : StoreMethod) :
    (m.invoke C st).2 = st ∨ ∃ (c : StoreCall) (st' : Store) (ans : c.Answer), m.tenantId = c.tenantId
      ∧ c.run C.sha st = .ok (st', ans) ∧ (m.invoke C st).2 = st' := by
  cases m with
  | call c =>
    simp only [StoreMethod.invoke, StoreCall.invoke]
    cases hrun : c.run C.sha st with
    | error e => exact Or.inl rfl
    | ok result =>
      obtain ⟨st', ans⟩ := result
      refine Or.inr ⟨c, st', ans, rfl, hrun, ?_⟩
      dsimp only
      cases c.readBack ans <;> rfl
  | _ => exact Or.inl rfl

/-- A method leaves the rows of every other tenant alone. -/
theorem invoke_frame (C : AuditCodec J) (st : Store) {m : StoreMethod} (hB : m.tenantId ≠ B) :
    (m.invoke C st).2.only B = st.only B := by
  rcases invoke_cases C st m with hsame | ⟨c, st', ans, htenant, hrun, heq⟩
  · rw [hsame]
  · rw [heq]
    exact commit_frame hrun fun h => hB (htenant.trans h)

theorem invoke_tidy {tenants : List String} (hst : Tidy C.sha tenants st) {m : StoreMethod}
    (hm : m.tenantId ∈ tenants) : Tidy C.sha tenants (m.invoke C st).2 := by
  rcases invoke_cases C st m with hsame | ⟨c, st', ans, htenant, hrun, heq⟩
  · rw [hsame]
    exact hst
  · rw [heq]
    exact commit_tidy hst (htenant ▸ hm) hrun

/-- A method with its result. -/
abbrev Outcome : Type := (m : StoreMethod) × Except ControlPlaneError m.Answer

/-- The methods arrive in some order; each finds the tables as the one before left them. -/
def invokeAll (C : AuditCodec J) : List StoreMethod → Store → List Outcome × Store
  | [], st => ([], st)
  | m :: methods, st =>
    let (result, st') := m.invoke C st
    let (outcomes, last) := invokeAll C methods st'
    (⟨m, result⟩ :: outcomes, last)

theorem invokeAll_cons (C : AuditCodec J) (m : StoreMethod) (methods : List StoreMethod)
    (st : Store) : invokeAll C (m :: methods) st
      = (⟨m, (m.invoke C st).1⟩ :: (invokeAll C methods (m.invoke C st).2).1,
        (invokeAll C methods (m.invoke C st).2).2) := rfl

/-- The methods that act for a tenant. -/
def methodsOf (tenantId : String) (methods : List StoreMethod) : List StoreMethod :=
  methods.filter fun m => decide (m.tenantId = tenantId)

/-- What the methods that act for a tenant returned or raised. -/
def outcomesOf (tenantId : String) (outcomes : List Outcome) : List Outcome :=
  outcomes.filter fun o => decide (o.1.tenantId = tenantId)

theorem invokeAll_tidy {tenants : List String} {methods : List StoreMethod}
    (hmethods : ∀ m ∈ methods, m.tenantId ∈ tenants) (hst : Tidy C.sha tenants st) :
    Tidy C.sha tenants (invokeAll C methods st).2 := by
  induction methods generalizing st with
  | nil => exact hst
  | cons m methods ih =>
    apply ih fun x hx => hmethods x (List.mem_cons_of_mem _ hx)
    exact invoke_tidy hst (hmethods m (List.mem_cons_self ..))

/-- **The other tenants' methods are as good as absent**: the tenant sees the answers and the rows
its own methods alone would give on a store of its own. -/
theorem invokeAll_only {tenants : List String} (hsep : SeparateTenants C.sha tenants)
    (hA : A ∈ tenants) {methods : List StoreMethod}
    (hmethods : ∀ m ∈ methods, m.tenantId ∈ tenants) (hst : Tidy C.sha tenants st) :
    invokeAll C (methodsOf A methods) (st.only A)
      = (outcomesOf A (invokeAll C methods st).1, (invokeAll C methods st).2.only A) := by
  -- The induction is over the run; every state of it is tidy, so that no method of `A` meets a
  -- key of another tenant.
  induction methods generalizing st with
  | nil => rfl
  | cons m methods ih =>
    have hm := hmethods m (List.mem_cons_self ..)
    have hrest := ih (fun x hx => hmethods x (List.mem_cons_of_mem _ hx)) (invoke_tidy hst hm)
    by_cases hown : m.tenantId = A
    · have hlist : methodsOf A (m :: methods) = m :: methodsOf A methods :=
        List.filter_cons_of_pos (decide_eq_true hown)
      have hfirst := invoke_only (hst.apart hsep hA) hown
      have houtcome : outcomesOf A (invokeAll C (m :: methods) st).1
          = ⟨m, (m.invoke C st).1⟩ :: outcomesOf A (invokeAll C methods (m.invoke C st).2).1 :=
        List.filter_cons_of_pos (decide_eq_true hown)
      rw [hlist, houtcome, invokeAll_cons, hfirst, hrest, invokeAll_cons]
    · have hlist : methodsOf A (m :: methods) = methodsOf A methods :=
        List.filter_cons_of_neg (by simpa using hown)
      have houtcome : outcomesOf A (invokeAll C (m :: methods) st).1
          = outcomesOf A (invokeAll C methods (m.invoke C st).2).1 :=
        List.filter_cons_of_neg (by simpa using hown)
      rw [hlist, houtcome, ← invoke_frame C st hown, hrest, invokeAll_cons]

/-- **Tenant noninterference.** Two reachable stores agree on the rows of tenant `A`, and two lists
of methods differ only in what the other tenants do, and where: every method of `A` answers the
same in both runs, and they end with the same rows of `A`. And no method of a tenant, in any
store, touches a row of another. -/
theorem tenant_noninterference (C : AuditCodec J) (tenants : List String)
    (hsep : SeparateTenants C.sha tenants) :
    (∀ A ∈ tenants, ∀ before before' methods methods' : List StoreMethod,
      (∀ m ∈ before ++ before' ++ methods ++ methods', m.tenantId ∈ tenants) →
      (invokeAll C before Store.empty).2.only A = (invokeAll C before' Store.empty).2.only A →
      methodsOf A methods = methodsOf A methods' →
      outcomesOf A (invokeAll C methods (invokeAll C before Store.empty).2).1
          = outcomesOf A (invokeAll C methods' (invokeAll C before' Store.empty).2).1
        ∧ (invokeAll C methods (invokeAll C before Store.empty).2).2.only A
          = (invokeAll C methods' (invokeAll C before' Store.empty).2).2.only A)
      ∧ ∀ (st : Store) (m : StoreMethod) (B : String), m.tenantId ≠ B →
        (m.invoke C st).2.only B = st.only B := by
  refine ⟨?_, fun st m B hB => invoke_frame C st hB⟩
  intro A hA before before' methods methods' hall hagree hsame
  have hleft : ∀ m ∈ before, m.tenantId ∈ tenants := fun m hm => hall m (by simp [hm])
  have hright : ∀ m ∈ before', m.tenantId ∈ tenants := fun m hm => hall m (by simp [hm])
  have hmethods : ∀ m ∈ methods, m.tenantId ∈ tenants := fun m hm => hall m (by simp [hm])
  have hmethods' : ∀ m ∈ methods', m.tenantId ∈ tenants := fun m hm => hall m (by simp [hm])
  have hrun := invokeAll_only hsep hA hmethods (invokeAll_tidy hleft tidy_init)
  have hrun' := invokeAll_only hsep hA hmethods' (invokeAll_tidy hright tidy_init)
  rw [hagree, hsame] at hrun
  exact Prod.ext_iff.mp (hrun.symm.trans hrun')

end

/-- Documents in a few bytes, the last of which is the tenant. -/
def separatingCodec : AuditCodec AuditBytes :=
  { exampleAuditCodec with
    canonical := fun d =>
      (match d with
        | .event e => [9, e.sequence.toUInt8]
        | .revision .. => [3]
        | _ => [0]) ++ [if d.tenantId = some "tenant-a" then 1 else 2] }

theorem separatingCodec_tenant (d : Document) : (separatingCodec.sha d).toNat % 256
    = if d.tenantId = some "tenant-a" then 1 else 2 := by
  unfold AuditCodec.sha separatingCodec exampleAuditCodec
  dsimp only
  rw [List.foldl_append, BitVec.toNat_ofNat, Nat.mod_mod_of_dvd _ (by decide)]
  by_cases htenant : d.tenantId = some "tenant-a"
  · simp [htenant]
  · simp [htenant]

theorem separatingCodec_separate :
    SeparateTenants separatingCodec.sha ["tenant-a", "tenant-b"] := by
  intro A hA B hB hne d d' hd hd' heq
  have hcodes := separatingCodec_tenant d
  rw [heq, separatingCodec_tenant d', hd, hd'] at hcodes
  have hA' : A = "tenant-a" ∨ A = "tenant-b" := by simpa using hA
  have hB' : B = "tenant-a" ∨ B = "tenant-b" := by simpa using hB
  rcases hA' with rfl | rfl <;> rcases hB' with rfl | rfl
  · exact hne rfl
  · revert hcodes
    decide
  · revert hcodes
    decide
  · exact hne rfl

def exampleAlone : List StoreMethod :=
  let alice := exampleActor "alice" [.editor]
  [.call (.createDraft alice exampleConfiguration none 1000),
   .call (.submit alice (separatingCodec.sha256 [3, 1]) 0 1001)]

def exampleOther : StoreMethod :=
  let bob := { exampleActor "bob" [.editor] with tenantId := "tenant-b" }
  .call (.createDraft bob { exampleConfiguration with tenantId := "tenant-b" } none 1002)

theorem tenant_noninterference_example :
    (invokeAll separatingCodec (exampleOther :: exampleAlone) Store.empty).2.audit.length = 3
      ∧ (invokeAll separatingCodec exampleAlone Store.empty).2.audit.length = 2
      ∧ outcomesOf "tenant-a" (invokeAll separatingCodec exampleAlone Store.empty).1
        = outcomesOf "tenant-a"
          (invokeAll separatingCodec (exampleOther :: exampleAlone) Store.empty).1 := by
  refine ⟨by decide, by decide, ?_⟩
  have hsame := (tenant_noninterference separatingCodec _ separatingCodec_separate).1 "tenant-a"
    (by decide) [] [] exampleAlone (exampleOther :: exampleAlone) (by decide) rfl rfl
  exact hsame.1

end ControlAssurance.ControlPlane
