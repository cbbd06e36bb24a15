import ControlAssurance.ControlPlane.Lease
import Mathlib.Data.List.Chain

/-!
# The deployment operations of a control form one line

An operation records its predecessor, the control's latest applied operation, when it is
requested; it may be acknowledged long after. What makes the record still right then is that
only one operation of a control is ever unresolved, and it is the latest: everything before it
is closed and stays as it is.

`Linear` says so of the rows of one control in the order of their insertion. Two things happen
to these rows. A request appends one to a list with nothing unresolved (`Linear.append`), and a
lease, an acknowledgement or a failure changes the state of unresolved rows, of which there is
only the last (`Linear.settle`).
-/

namespace ControlAssurance.ControlPlane

open Lib

variable {sha : Document → Digest}

/-! ## The rows of one control -/

def DeploymentOperation.isApplied (op : DeploymentOperation) : Bool := decide (op.state = .applied)

/-- The id of the last applied operation of a list. -/
def appliedId (ops : List DeploymentOperation) : Option Digest :=
  (ops.filter (·.isApplied)).getLast?.map (·.operationId)

/-- `op` is the failure that a retry names. -/
structure RetriedBy (op retry : DeploymentOperation) : Prop where
  names : retry.retryOfOperationId = some op.operationId
  terminal : op.state = .failed ∧ op.retryAt = none
  revision : op.revisionId = retry.revisionId
  digest : op.configurationDigest = retry.configurationDigest

structure Linear (ops : List DeploymentOperation) : Prop where
  sequences : ops.map (·.operationSequence) = List.range' 1 ops.length
  latest : ∀ pre op post, ops = pre ++ op :: post → op.unresolved = true → post = []
  linked : ∀ pre op post, ops = pre ++ op :: post → op.predecessorOperationId = appliedId pre
  retries : ∀ pre op post, ops = pre ++ op :: post → op.retryOfOperationId ≠ none →
    ∃ earlier f, pre = earlier ++ [f] ∧ RetriedBy f op

theorem linear_nil : Linear [] :=
  ⟨rfl, fun _ _ _ h => absurd h.symm (List.append_ne_nil_of_right_ne_nil _ (List.cons_ne_nil _ _)),
    fun _ _ _ h => absurd h.symm (List.append_ne_nil_of_right_ne_nil _ (List.cons_ne_nil _ _)),
    fun _ _ _ h => absurd h.symm (List.append_ne_nil_of_right_ne_nil _ (List.cons_ne_nil _ _))⟩

variable {ops : List DeploymentOperation} {op : DeploymentOperation} {st : Store}
  {controlId : String} {t : Time}

theorem Linear.sequence {pre post : List DeploymentOperation}
    (h : Linear ops) (heq : ops = pre ++ op :: post) :
    op.operationSequence = pre.length + 1 := by
  have hget : (ops.map (·.operationSequence))[pre.length]? = some op.operationSequence := by
    rw [heq]
    simp
  rw [h.sequences, List.getElem?_range' (by rw [heq]; simp)] at hget
  have := Option.some.inj hget
  omega

/-- The rows are in the order of their sequences. -/
theorem Linear.increasing (h : Linear ops) :
    ops.Pairwise fun a b => a.operationSequence < b.operationSequence := by
  have hrange : (ops.map (·.operationSequence)).Pairwise (· < ·) := by
    rw [h.sequences]
    exact List.pairwise_lt_range'
  exact List.pairwise_map.mp hrange

/-- A request: nothing is unresolved, and the row is numbered, linked and justified by the rows
before it. -/
theorem Linear.append (h : Linear ops) (hidle : ∀ o ∈ ops, o.unresolved = false)
    (hsequence : op.operationSequence = ops.length + 1)
    (hpredecessor : op.predecessorOperationId = appliedId ops)
    (hretry : op.retryOfOperationId ≠ none → ∃ earlier f, ops = earlier ++ [f] ∧ RetriedBy f op) :
    Linear (ops ++ [op]) := by
  refine ⟨?_, ?_, ?_, ?_⟩
  · rw [List.map_append, h.sequences, List.length_append, List.length_singleton,
      List.range'_concat, List.map_singleton, hsequence]
    simp [Nat.add_comm]
  · intro pre x post heq hunresolved
    rcases split_concat heq with ⟨post', rfl, hops⟩ | ⟨rfl, -, -⟩
    · have hx : x ∈ ops := by simp [hops]
      rw [hidle x hx] at hunresolved
      cases hunresolved
    · rfl
  · intro pre x post heq
    rcases split_concat heq with ⟨post', rfl, hops⟩ | ⟨rfl, rfl, rfl⟩
    · exact h.linked pre x post' hops
    · exact hpredecessor
  · intro pre x post heq hne
    rcases split_concat heq with ⟨post', rfl, hops⟩ | ⟨rfl, rfl, rfl⟩
    · exact h.retries pre x post' hops hne
    · exact hretry hne

variable {g : DeploymentOperation → DeploymentOperation} {tenantId : String}

/-- Rows before some other row are closed, so a change of unresolved rows is none to them. -/
theorem Linear.settled_prefix {pre post : List DeploymentOperation} (h : Linear ops)
    (hg : ∀ o, o.unresolved = false → g o = o) (heq : ops = pre ++ op :: post) :
    pre.map g = pre := by
  have hclosed : ∀ o ∈ pre, g o = o := by
    intro o ho
    apply hg
    by_contra hunresolved
    obtain ⟨a, b, rfl⟩ := List.append_of_mem ho
    have hend := h.latest a o (b ++ op :: post) (by simp [heq])
      (by simpa using hunresolved)
    exact List.append_ne_nil_of_right_ne_nil _ (List.cons_ne_nil _ _) hend
  exact (List.map_congr_left hclosed).trans (List.map_id pre)

/-- A lease, an acknowledgement or a failure. -/
theorem Linear.settle (h : Linear ops)
    (hrequest : ∀ o, (g o).toOperationRequest = o.toOperationRequest)
    (hg : ∀ o, o.unresolved = false → g o = o) : Linear (ops.map g) := by
  have hsplit : ∀ pre x post, ops.map g = pre ++ x :: post → ∃ o rest,
      ops = pre ++ o :: rest ∧ x = g o ∧ post = rest.map g := by
    intro pre x post heq
    obtain ⟨pre', tail, hops, hpre, htail⟩ := List.map_eq_append_iff.mp heq
    obtain ⟨o, rest, rfl, rfl, rfl⟩ := List.map_eq_cons_iff.mp htail
    refine ⟨o, rest, ?_, rfl, rfl⟩
    rw [← hpre, h.settled_prefix hg hops]
    exact hops
  refine ⟨?_, ?_, ?_, ?_⟩
  · rw [List.map_map, List.length_map, ← h.sequences]
    exact List.map_congr_left fun o _ => congrArg OperationRequest.operationSequence (hrequest o)
  · intro pre x post heq hunresolved
    obtain ⟨o, rest, hops, rfl, rfl⟩ := hsplit pre x post heq
    -- a row that is unresolved now was so before
    have hold : o.unresolved = true := by
      by_contra hclosed
      have hclosed : o.unresolved = false := by simpa using hclosed
      rw [hg o hclosed, hclosed] at hunresolved
      cases hunresolved
    rw [h.latest pre o rest hops hold]
    rfl
  · intro pre x post heq
    obtain ⟨o, rest, hops, rfl, -⟩ := hsplit pre x post heq
    exact (congrArg OperationRequest.predecessorOperationId (hrequest o)).trans
      (h.linked pre o rest hops)
  · intro pre x post heq hne
    obtain ⟨o, rest, hops, rfl, -⟩ := hsplit pre x post heq
    have hretry := congrArg OperationRequest.retryOfOperationId (hrequest o)
    obtain ⟨earlier, f, hpre, hby⟩ := h.retries pre o rest hops (hretry ▸ hne)
    exact ⟨earlier, f, hpre, hretry.trans hby.names, hby.terminal,
      hby.revision.trans (congrArg OperationRequest.revisionId (hrequest o)).symm,
      hby.digest.trans (congrArg OperationRequest.configurationDigest (hrequest o)).symm⟩

/-! ## What the store reads off these rows -/

theorem latestBySequence_eq
    (h : ops.Pairwise fun a b => a.operationSequence < b.operationSequence) :
    latestBySequence ops = ops.getLast? := by
  apply firstBy_eq_getLast?
  refine h.imp fun {a b} hlt => ?_
  exact decide_eq_false (Nat.not_le_of_lt hlt)

theorem Linear.maxSequence (h : Linear (st.controlOperations tenantId controlId)) :
    st.maxSequence tenantId controlId = (st.controlOperations tenantId controlId).length := by
  unfold Store.maxSequence
  rw [latestBySequence_eq h.increasing]
  generalize st.controlOperations tenantId controlId = ops at h
  rcases List.eq_nil_or_concat ops with rfl | ⟨pre, op, rfl⟩
  · rfl
  · rw [List.concat_eq_append] at h ⊢
    have hsequence := h.sequence (rfl : pre ++ [op] = pre ++ op :: [])
    rw [List.getLast?_concat]
    show op.operationSequence = _
    rw [hsequence, List.length_append, List.length_singleton]

theorem Linear.latestApplied (h : Linear (st.controlOperations tenantId controlId)) :
    (st.latestApplied tenantId controlId).map (·.operationId)
      = appliedId (st.controlOperations tenantId controlId) := by
  unfold Store.latestApplied appliedId
  rw [latestBySequence_eq (h.increasing.sublist List.filter_sublist)]
  rfl

/-! ## Commits -/

/-- Every control's rows are in line. -/
def AllLinear (st : Store) : Prop :=
  ∀ tenantId controlId, Linear (st.controlOperations tenantId controlId)

theorem controlOperations_append :
    ({ st with operations := st.operations ++ [op] } : Store).controlOperations tenantId controlId
      = if op.tenantId = tenantId ∧ op.controlId = controlId
        then st.controlOperations tenantId controlId ++ [op]
        else st.controlOperations tenantId controlId := by
  unfold Store.controlOperations
  rw [List.filter_append]
  by_cases h : op.tenantId = tenantId ∧ op.controlId = controlId
  · rw [if_pos h, List.filter_cons_of_pos (by simpa using h), List.filter_nil]
  · rw [if_neg h, List.filter_cons_of_neg (by simpa using h), List.filter_nil, List.append_nil]

/-- A request that was accepted leaves its control in line. -/
theorem requested_linear {a : Actor}
    {r : ConfigurationRevision} {kind : OperationKind} {retryOf : Option Digest}
    (hst : AllLinear st) (hreq : Requested sha st op a r kind t retryOf) :
    AllLinear { st with operations := st.operations ++ [op] } := by
  intro tenantId controlId
  rw [controlOperations_append]
  split
  next hop =>
    obtain ⟨rfl, rfl⟩ := hop
    have hlinear := hst op.tenantId op.controlId
    obtain ⟨-, hsequence, hpredecessor, -, hretry⟩ := hreq.guard
    have hidle := hreq.idle
    rw [← hreq.tenant, ← hreq.control] at hidle
    rw [hlinear.maxSequence] at hsequence
    refine hlinear.append hidle hsequence (hpredecessor.trans hlinear.latestApplied) ?_
    intro hne
    obtain ⟨-, f, hf, hname, hftenant, hfcontrol, hrevision, hdigest, hstate, hretryAt, hfseq⟩ :=
      hretry hne
    have hmem : f ∈ st.controlOperations op.tenantId op.controlId :=
      mem_controlOperations.mpr ⟨hf, hftenant, hfcontrol⟩
    obtain ⟨earlier, rest, heq⟩ := List.append_of_mem hmem
    -- the failure has the highest sequence, so it is the last row
    have hrest : rest = [] := by
      have hseq := hlinear.sequence heq
      have hlength := congrArg List.length heq
      rw [List.length_append, List.length_cons] at hlength
      rw [← List.length_eq_zero_iff]
      omega
    rw [hrest] at heq
    exact ⟨earlier, f, heq, hname, ⟨hstate, hretryAt⟩, hrevision, hdigest⟩
  next => exact hst tenantId controlId

/-- An update of unresolved rows that leaves their requests alone. -/
theorem updated_linear {p : DeploymentOperation → Bool}
    {f : DeploymentOperation → DeploymentOperation} (hst : AllLinear st)
    (hp : ∀ o, p o = true → o.unresolved = true)
    (hf : ∀ o, (f o).toOperationRequest = o.toOperationRequest) :
    AllLinear { st with operations := updateWhere p f st.operations } := by
  intro tenantId controlId
  have hrequest : ∀ o, (if p o then f o else o).toOperationRequest = o.toOperationRequest := by
    intro o
    split
    · exact hf o
    · rfl
  have hrows : ({ st with operations := updateWhere p f st.operations } : Store).controlOperations
      tenantId controlId
      = (st.controlOperations tenantId controlId).map fun o => if p o then f o else o := by
    unfold Store.controlOperations updateWhere
    rw [List.filter_map]
    congr 1
    apply List.filter_congr
    intro o _
    show decide (_ ∧ _) = decide (_ ∧ _)
    rw [congrArg OperationRequest.tenantId (hrequest o),
      congrArg OperationRequest.controlId (hrequest o)]
  rw [hrows]
  refine (hst tenantId controlId).settle hrequest ?_
  intro o hclosed
  have hnot : ¬p o = true := fun hpo => by rw [hp o hpo] at hclosed; cases hclosed
  exact if_neg hnot

theorem eligible_unresolved (h : op.eligible t = true) :
    op.unresolved = true := by
  unfold DeploymentOperation.eligible at h
  unfold DeploymentOperation.unresolved
  rw [decide_eq_true_eq] at h ⊢
  rcases h with ⟨hs, -⟩ | ⟨hs, hle⟩ | ⟨hs, -⟩
  · exact Or.inl hs
  · refine Or.inr (Or.inr ⟨hs, fun hnone => ?_⟩)
    rw [hnone] at hle
    cases hle
  · exact Or.inr (Or.inl hs)

theorem heldBy_unresolved {workerId : String} {k : Digest} {fence : Nat}
    (h : op.heldBy workerId k fence t = true) : op.unresolved = true := by
  unfold DeploymentOperation.heldBy at h
  rw [decide_eq_true_eq] at h
  exact decide_eq_true (Or.inr (Or.inl h.1))

theorem leaseRows_unresolved {w : DeploymentWorkerIdentity} {current : DeploymentOperation}
    (h : leaseRows w current t op = true) : op.unresolved = true :=
  eligible_unresolved (Bool.and_eq_true_iff.mp h).2

theorem heldRows_unresolved {w : DeploymentWorkerIdentity} {oid k : Digest} {fence : Nat}
    {current : DeploymentOperation} (h : heldRows w oid k fence t current op = true) :
    op.unresolved = true :=
  heldBy_unresolved (Bool.and_eq_true_iff.mp h).2

/-- **One commit.** -/
theorem step_linear {st' : Store} {c : StoreCall} (h : StoreStep sha st c st')
    (hst : AllLinear st) : AllLinear st' := by
  cases h with
  | activated r st₁ n previous op e _ _ hpointer hreq =>
    have hops := (movePointer_ok hpointer).2.2.2.1
    have hst₁ : AllLinear st₁ := by
      intro tenantId controlId
      unfold Store.controlOperations
      rw [hops]
      exact hst tenantId controlId
    exact requested_linear hst₁ hreq
  | rolledBack r op e _ _ _ hreq => exact requested_linear hst hreq
  | retried f r op e _ _ _ _ _ hreq => exact requested_linear hst hreq
  | leased op e => exact updated_linear hst (fun _ => leaseRows_unresolved) fun _ => rfl
  | acknowledged op e => exact updated_linear hst (fun _ => heldRows_unresolved) fun _ => rfl
  | failed op e => exact updated_linear hst (fun _ => heldRows_unresolved) fun _ => rfl
  | _ => exact hst

/-! ## Runs -/

/-- The operations of a control, in the order of their insertion. -/
structure LinearHistory (ops : List DeploymentOperation) : Prop where
  ids : (ops.map (·.operationId)).Nodup
  sequences : ops.map (·.operationSequence) = List.range' 1 ops.length
  unresolved : ∀ op ∈ ops, op.unresolved = true →
    ∀ o ∈ ops, o.operationSequence ≤ op.operationSequence ∧ (o.unresolved = true → o = op)
  first : ∀ op ∈ (ops.filter (·.isApplied)).head?, op.predecessorOperationId = none
  chain : (ops.filter (·.isApplied)).IsChain fun a b =>
    b.predecessorOperationId = some a.operationId
  retries : ∀ op ∈ ops, ∀ id, op.retryOfOperationId = some id → ∃ f ∈ ops, f.operationId = id
    ∧ f.operationSequence + 1 = op.operationSequence
    ∧ f.state = .failed ∧ f.retryAt = none
    ∧ f.revisionId = op.revisionId ∧ f.configurationDigest = op.configurationDigest

theorem applied_chain
    (h : ∀ pre op post, ops = pre ++ op :: post → op.predecessorOperationId = appliedId pre) :
    (∀ op ∈ (ops.filter (·.isApplied)).head?, op.predecessorOperationId = none)
      ∧ (ops.filter (·.isApplied)).IsChain fun a b =>
        b.predecessorOperationId = some a.operationId := by
  induction ops using List.reverseRecOn with
  | nil => exact ⟨fun _ h => absurd h (Option.not_mem_none _), List.IsChain.nil⟩
  | append_singleton ops x ih =>
    obtain ⟨hfirst, hchain⟩ := ih fun pre op post heq => h pre op (post ++ [x]) (by simp [heq])
    have hx : x.predecessorOperationId = appliedId ops := h ops x [] rfl
    rw [List.filter_append]
    cases hstate : x.isApplied with
    | false =>
      rw [List.filter_cons_of_neg (by simp [hstate]), List.filter_nil, List.append_nil]
      exact ⟨hfirst, hchain⟩
    | true =>
      rw [List.filter_cons_of_pos hstate, List.filter_nil]
      unfold appliedId at hx
      constructor
      · intro op hop
        cases happlied : ops.filter (·.isApplied) with
        | nil =>
          rw [happlied] at hop hx
          have heq : x = op := by simpa using hop
          rw [← heq, hx]
          rfl
        | cons y ys =>
          rw [happlied] at hop hfirst
          exact hfirst op hop
      · refine List.isChain_append.mpr ⟨hchain, List.IsChain.singleton x, ?_⟩
        intro a ha b hb
        have hb : x = b := by simpa using hb
        rw [← hb, hx, Option.mem_def.mp ha]
        rfl

/-- **Linear deployment history.** In every state that store calls reach from an empty store, the
operations of a control are numbered 1 to n, at most one is unresolved and it is the latest, the
applied ones form one chain, and a retry follows the terminal failure it names. -/
theorem linear_deployment_history (sha : Document → Digest) (calls : List StoreCall)
    (tenantId controlId : String) :
    LinearHistory ((execute sha calls World.init).store.controlOperations tenantId controlId) := by
  have hboth : AllLinear (execute sha calls World.init).store
      ∧ ((execute sha calls World.init).store.operations.map (·.operationId)).Nodup := by
    have hinit : AllLinear World.init.store
        ∧ (World.init.store.operations.map (·.operationId)).Nodup :=
      ⟨fun _ _ => linear_nil, List.nodup_nil⟩
    refine execute_keeps (P := fun st => AllLinear st ∧ (st.operations.map (·.operationId)).Nodup)
      ?_ calls hinit
    intro st st' c ans hst hrun
    have hstep := run_step hrun
    exact ⟨step_linear hstep hst.1, step_operationKeys hstep hst.2⟩
  have hlinear := hboth.1 tenantId controlId
  have hids : (((execute sha calls World.init).store.controlOperations tenantId controlId).map
      (·.operationId)).Nodup :=
    hboth.2.sublist (List.filter_sublist.map _)
  generalize (execute sha calls World.init).store.controlOperations tenantId controlId = ops
    at hlinear hids
  obtain ⟨hfirst, hchain⟩ := applied_chain hlinear.linked
  refine ⟨hids, hlinear.sequences, ?_, hfirst, hchain, ?_⟩
  · intro op hop hunresolved o ho
    obtain ⟨pre, post, heq⟩ := List.append_of_mem hop
    rw [hlinear.latest pre op post heq hunresolved] at heq
    have hseq := hlinear.sequence heq
    constructor
    · obtain ⟨pre', post', heq'⟩ := List.append_of_mem ho
      have hseq' := hlinear.sequence heq'
      have hlength := congrArg List.length (heq.symm.trans heq')
      simp only [List.length_append, List.length_cons, List.length_nil] at hlength
      omega
    · intro hother
      rw [heq] at ho
      rcases List.mem_append.mp ho with ho | ho
      · obtain ⟨a, b, rfl⟩ := List.append_of_mem ho
        have hend := hlinear.latest a o (b ++ [op]) (by simp [heq]) hother
        exact absurd hend (List.append_ne_nil_of_right_ne_nil _ (List.cons_ne_nil _ _))
      · exact List.mem_singleton.mp ho
  · intro op hop id hid
    obtain ⟨pre, post, heq⟩ := List.append_of_mem hop
    obtain ⟨earlier, f, rfl, hby⟩ := hlinear.retries pre op post heq (by rw [hid]; simp)
    have hseq := hlinear.sequence heq
    have hsplit : ops = earlier ++ f :: op :: post := by simp [heq]
    have hfseq := hlinear.sequence hsplit
    refine ⟨f, by simp [heq], ?_, ?_, hby.terminal.1, hby.terminal.2, hby.revision, hby.digest⟩
    · exact Option.some.inj (hby.names.symm.trans hid)
    · rw [hfseq, hseq]
      simp

end ControlAssurance.ControlPlane
