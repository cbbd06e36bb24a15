import ControlAssurance.Execution.ExecutorStages

/-!
# Any number of executors on one run

The system in which workers call `ensure_executed` for one run, in any interleaving, with
any lease fences, dying and starting again anywhere. What every schedule keeps follows
from `ensureExecuted_safe` by the rule of `Lib/Owned.lean`.
-/

namespace ControlAssurance.Execution

open Lib
open Admission (Bytes)
open ControlAssurance.Runtime (ControlRunExecutionResult)

/-- The executors of one run and the journal they share. -/
abbrev ExecutorConfig (C : Codec) := Config World (ClientName × ExecutorProg C)

/-- No rows, no invocation and no worker. -/
def ExecutorConfig.init (C : Codec) : ExecutorConfig C := ⟨⟨none, []⟩, []⟩

/-- Some schedule of `ensure_executed` calls leads from one configuration to the other. -/
def Executes (C : Codec) (tenantId : String) (runId : Digest) (exclusive : Prop) :
    ExecutorConfig C → ExecutorConfig C → Prop :=
  NamedSteps (World.exec C) (Started C tenantId runId) exclusive

/-- The same, where every environment composes if `guarded`. -/
def ExecutesWhere (C : Codec) (tenantId : String) (runId : Digest) (exclusive guarded : Prop) :
    ExecutorConfig C → ExecutorConfig C → Prop :=
  NamedSteps (World.execWhere C guarded) (Started C tenantId runId) exclusive

/-- What holds in a configuration that some schedule leads to. -/
def ExecutorKept (C : Codec) (exclusive guarded : Prop) (c : ExecutorConfig C) : Prop :=
  Kept (World.execWhere C guarded) exclusive (World.Inv C guarded) World.Order
    (World.Rely exclusive) (World.Pre exclusive) World.Post c

section

variable {C : Codec} {tenantId : String} {runId : Digest} {exclusive guarded : Prop}
variable {c c' : ExecutorConfig C}

theorem started_safe {name : ClientName} {p : ExecutorProg C} (hmode : guarded → exclusive)
    (h : Started C tenantId runId name p) (w : World) :
    ExecutorSafe C exclusive guarded name p w := by
  obtain ⟨e, request, rfl, -, -, rfl⟩ := h
  exact ensureExecuted_safe hmode

theorem init_kept : ExecutorKept C exclusive guarded (.init C) := by
  refine kept_init ⟨?_, ?_⟩
  · intro x hx
    cases hx
  · intro _ i hi
    cases hi

/-- What a schedule keeps, and the order it moves in. -/
theorem executesWhere_kept (hmode : guarded → exclusive)
    (h : ExecutesWhere C tenantId runId exclusive guarded c c')
    (hkept : ExecutorKept C exclusive guarded c) :
    ExecutorKept C exclusive guarded c' ∧ c.shared.Order c'.shared :=
  namedSteps_kept .refl (fun _ _ _ => .trans) .refl (fun _ _ _ _ => .trans)
    (fun _ _ _ => .later) (fun _ _ hp w _ => started_safe hmode hp w) h hkept

theorem executes_where (h : Executes C tenantId runId exclusive c c') :
    ExecutesWhere C tenantId runId exclusive False c c' :=
  namedSteps_mono (fun _ _ _ _ hexec => ⟨hexec, False.elim⟩) h

theorem executes_kept (h : Executes C tenantId runId exclusive c c')
    (hkept : ExecutorKept C exclusive False c) :
    ExecutorKept C exclusive False c' ∧ c.shared.Order c'.shared :=
  executesWhere_kept False.elim (executes_where h) hkept

end

/-! ## A schedule that can be computed -/

/-- The choices of the world: the database clock, the entropy, the process clock, the
environment and the publication. -/
structure ExecutorChoice (C : Codec) where
  clock : RecoveryClock
  nonce : Bytes
  now : Option Time
  environment : Except Raised (PreparedExecutionEnvironment C)
  publication : Except Raised ManagedEvidencePublication

/-- A journal call that answers as it should. -/
def runJournal (C : Codec) (clock : RecoveryClock) (call : JournalCall) (w : World) :
    Except JournalError ExecutionJournalRecord × World :=
  match call.run C clock w.journal with
  | .ok (x', r) => (.ok r, { w with journal := some x' })
  | .error err => (.error err, w)

def runExecutor (C : Codec) (choice : ExecutorChoice C) :
    (c : ExecutorCall) → World → c.Answer C × World
  | .journal call, w => runJournal C choice.clock call w
  | .record _ call, w => runJournal C choice.clock call w
  | .confirm _, w => runJournal C choice.clock .get w
  | .nonceBytes, w => (choice.nonce, w)
  | .now, w => (choice.now, w)
  | .prepareEnvironment .., w => (choice.environment, w)
  | .publish i, w => ((), { w with invoked := w.invoked ++ [i] })
  | .published _, w => (choice.publication, w)

theorem runJournal_exec (C : Codec) (clock : RecoveryClock) (call : JournalCall) (w : World) :
    w.journalCall C call (runJournal C clock call w).1 (runJournal C clock call w).2 := by
  unfold runJournal
  split
  · rename_i x' r hrun
    exact ⟨.done hrun, rfl⟩
  · rename_i err hrun
    exact ⟨.refused hrun, rfl⟩

theorem runExecutor_exec (C : Codec) (choice : ExecutorChoice C) (c : ExecutorCall) (w : World) :
    World.exec C c w (runExecutor C choice c w).1 (runExecutor C choice c w).2 := by
  cases c with
  | journal call => exact runJournal_exec C choice.clock call w
  | record i call => exact runJournal_exec C choice.clock call w
  | confirm i => exact runJournal_exec C choice.clock .get w
  | nonceBytes => exact rfl
  | now => exact rfl
  | prepareEnvironment _ _ _ _ => exact rfl
  | publish i => exact rfl
  | published i => exact rfl

/-- A digest that tells the byte strings below apart. -/
def exampleDigestOf (bytes : Bytes) : Digest :=
  BitVec.ofNat 256 (bytes.foldl (fun n b => 256 * n + b.toNat) bytes.length)

def examplePlanBytes : Bytes := [123, 1, 125]

def examplePlan : ExecutionPlan := ⟨"1.0.0", "siem", 1000, 11, 12, 13⟩

theorem exampleNames_portable :
    portableId "tenant-a" = true ∧ portableId "control-a" = true := by decide

def exampleStableRequest : StableRequest :=
  { runId := 1
    runRequestBytes := [123, 125]
    tenantId := "tenant-a"
    controlId := "control-a"
    deploymentOperationId := 2
    deploymentReceiptDigest := 3
    configurationDigest := 4
    configurationBytes := [123, 125]
    controlProfileId := "profile-a"
    controlProfileDigest := 5
    controlProfileMediaType := "application/json"
    controlProfileBytes := [123, 125]
    windowStart := 0
    windowEnd := 10
    portable := exampleNames_portable }

def exampleIdentityBytes : Bytes := [123, 2, 125]

def exampleIdentity : BoundIdentity := ⟨exampleDigestOf exampleIdentityBytes, exampleIdentityBytes⟩

/-- A codec with one plan and one identity document, both of the example run. -/
def exampleCodec : Codec :=
  { recovery := ⟨fun _ => 0, fun _ _ _ _ => false, fun _ => none, fun _ => none⟩
    sha := exampleDigestOf
    verifyPlan := fun request bytes =>
      if request = exampleStableRequest ∧ bytes = examplePlanBytes then some examplePlan else none
    parseIdentity := fun bytes =>
      if bytes = exampleIdentityBytes then
        some ⟨1, "tenant-a", "control-a", 4, exampleDigestOf examplePlanBytes, "1.0.0", "siem"⟩
      else
        none
    identityBoundary := fun _ planDigest bytes =>
      decide (planDigest = exampleDigestOf examplePlanBytes ∧ bytes = exampleIdentityBytes)
    canonicalObject := fun bytes => bytes.head? = some 123
    createPlan := fun request nonce _ revision =>
      if request = exampleStableRequest ∧ nonce.length = 32 ∧ revision = "1.0.0" then
        some examplePlanBytes
      else
        none
    attemptToken := fun fence _ _ worker => BitVec.ofNat 256 (fence + 1000 * worker.length) }

def exampleExecutor : Executor := ⟨"worker-a", "1.0.0", by decide, by decide⟩

def exampleRequest (attemptCount leaseFence : Nat) (h : inRange attemptCount leaseFence) :
    ControlRunExecutionRequest :=
  ⟨exampleStableRequest, attemptCount, leaseFence, h⟩

/-- The entry of a call for the example run. -/
theorem exampleStarted (e : Executor) (attemptCount leaseFence : Nat)
    (h : inRange attemptCount leaseFence) :
    Started exampleCodec "tenant-a" 1 (e.workerId, leaseFence)
      (ensureExecuted exampleCodec e (exampleRequest attemptCount leaseFence h)) :=
  ⟨e, exampleRequest attemptCount leaseFence h, rfl, rfl, rfl, rfl⟩

/-- Everything answers, and the publication is the one of the plan. -/
def exampleChoice : ExecutorChoice exampleCodec :=
  { clock := ⟨⟨100, 100⟩, 100, 100⟩
    nonce := List.replicate 32 7
    now := some 100
    environment := .ok ⟨exampleIdentity, by decide⟩
    publication := .ok
      ⟨1, 11, 12, 13, 21, exampleDigestOf [123, 3, 125], [123, 3, 125]⟩ }

abbrev ExampleMove :=
  NamedMove (Started exampleCodec "tenant-a" 1) (ExecutorChoice exampleCodec)

/-- The example worker starts a call for its first lease. -/
def exampleStart : ExampleMove :=
  .start ("worker-a", 1) _ (exampleStarted exampleExecutor 1 1 (by decide))

/-- Where such moves lead. -/
def examplePlay (moves : List ExampleMove) : ExecutorConfig exampleCodec :=
  moves.foldl (fun c m => playNamed (fun choice c w => some (runExecutor exampleCodec choice c w))
    m c) (.init exampleCodec)

theorem examplePlay_executes (exclusive : Prop) (moves : List ExampleMove) :
    Executes exampleCodec "tenant-a" 1 exclusive (.init exampleCodec) (examplePlay moves) := by
  refine playNamed_steps ?_ moves _
  intro choice c w r w' h
  obtain ⟨rfl, rfl⟩ := Prod.mk.inj (Option.some.inj h)
  exact runExecutor_exec exampleCodec choice c w

section

variable {C : Codec} {tenantId : String} {runId : Digest} {exclusive guarded : Prop}
variable {c c' : ExecutorConfig C}

/-! ## One durable result -/

/-- At most one attempt is completed. -/
theorem RunJournal.WF.sole_completed {x : RunJournal} (h : x.WF C) {a b : Attempt}
    (ha : a ∈ x.attempts) (hb : b ∈ x.attempts) (hacompleted : a.state = .completed)
    (hbcompleted : b.state = .completed) : a = b := by
  obtain ⟨_, -, -, -, hafence⟩ := h.completed ha hacompleted
  obtain ⟨_, -, -, -, hbfence⟩ := h.completed hb hbcompleted
  exact List.inj_on_of_nodup_map h.fences ha hb (hafence.trans hbfence.symm)

theorem RunJournal.WF.earlier_terminal {x : RunJournal} (h : x.WF C) {a : Attempt}
    (ha : a ∈ x.attempts) (hne : a.leaseFence ≠ x.highestLeaseFence) :
    a.state.terminal = true := by
  obtain ⟨-, -, hended⟩ := h.earlier a ha hne
  rcases hended with hended | hended
  · rw [hended]; rfl
  · rw [hended]; rfl

/-- **One durable result per run.** In every schedule: the plan and a bound identity stay,
the highest fence never falls, every attempt moves only as it may and not at all once it
has ended, every attempt below the highest fence has ended, a completed attempt is the only
one and the last, and every result any call returned has the digests of the stored
completion. -/
theorem one_durable_result (C : Codec) (tenantId : String) (runId : Digest)
    {c c' : ExecutorConfig C} (hreached : Executes C tenantId runId False (.init C) c)
    (hlater : Executes C tenantId runId False c c') :
    (∀ x ∈ c.shared.journal,
      (∃ x' ∈ c'.shared.journal, x'.planBytes = x.planBytes
        ∧ (∀ i ∈ x.identity, x'.identity = some i)
        ∧ x.highestLeaseFence ≤ x'.highestLeaseFence
        ∧ (∀ a ∈ x.attempts, ∃ b ∈ x'.attempts, a.evolves b)
        ∧ (∀ a ∈ x.attempts, a.state.terminal = true → a ∈ x'.attempts)
        ∧ ∀ a ∈ x.attempts, a.state = .completed → x'.attempts = x.attempts)
      ∧ (∀ a ∈ x.attempts, a.leaseFence ≠ x.highestLeaseFence → a.state.terminal = true)
      ∧ ∀ a ∈ x.attempts, ∀ b ∈ x.attempts, a.state = .completed → b.state = .completed →
        a = b)
    ∧ ∀ name result, (name, Prog.ret (.ok result)) ∈ c'.clients →
      ∃ x completion, c'.shared.journal = some x ∧ x.completion = some completion
        ∧ result.evidenceDigest = completion.2.evidenceDigest
        ∧ result.executorReceiptDigest = completion.2.executorReceiptDigest := by
  obtain ⟨hkept, -⟩ := executes_kept hreached init_kept
  obtain ⟨hkept', horder⟩ := executes_kept hlater hkept
  constructor
  · intro x hx
    have hwf := hkept.holds.wf x hx
    obtain ⟨x', hx', hxx'⟩ := horder.later x hx
    refine ⟨⟨x', hx', hxx'.planBytes, fun i hi => hxx'.identity i hi, hxx'.fence,
      hxx'.attempts, fun a ha => hxx'.terminal ha, ?_⟩, fun a ha => hwf.earlier_terminal ha,
      fun a ha b hb => hwf.sole_completed ha hb⟩
    intro a ha hcompleted
    obtain ⟨completion, hcompletion, -⟩ := hwf.completed ha hcompleted
    exact (hxx'.completion completion hcompletion).2
  · intro name result hresult
    exact hkept'.returned hresult result rfl

/-- The example worker completes the run in eleven calls and returns its result. -/
theorem one_durable_result_example :
    (examplePlay (exampleStart :: List.replicate 11 (.run 0 exampleChoice))).clients.map
        (fun p => match p.2 with
          | .ret (.ok result) => some result.evidenceDigest
          | _ => none) = [some 21]
      ∧ ∀ name result, (name, Prog.ret (.ok result)) ∈ (examplePlay
          (exampleStart :: List.replicate 11 (.run 0 exampleChoice))).clients →
        ∃ x completion, (examplePlay (exampleStart
            :: List.replicate 11 (.run 0 exampleChoice))).shared.journal = some x
          ∧ x.completion = some completion
          ∧ result.evidenceDigest = completion.2.evidenceDigest
          ∧ result.executorReceiptDigest = completion.2.executorReceiptDigest :=
  ⟨by decide,
    (one_durable_result exampleCodec "tenant-a" 1 (examplePlay_executes False _) .refl).2⟩

/-! ## Exclusive authority -/

/-- The invocation a client has under way: it is about to invoke the publisher, waits for it,
or is about to record how it ended. -/
def underWay : ExecutorProg C → Option Invocation
  | .call (.publish i) _ => some i
  | .call (.published i) _ => some i
  | .call (.record i _) _ => some i
  | _ => none

/-- An invocation under way has authority and is its client's own. -/
theorem underWay_authority {name : ClientName} {p : ExecutorProg C} {i : Invocation}
    (hkept : ExecutorKept C True False c) (hp : (name, p) ∈ c.clients)
    (hi : underWay p = some i) : i.key.name = name ∧ i.Authority c.shared.journal := by
  cases p with
  | ret a => cases hi
  | call call k =>
    have hready : World.Pre True name call c.shared := hkept.ready .refl hp
    cases call with
    | publish j => cases hi; exact ⟨hready.1, hready.2 trivial⟩
    | published j => cases hi; exact ⟨hready.1, hready.2 trivial⟩
    | record j _ => cases hi; exact ⟨hready.1, hready.2 trivial⟩
    | journal _ => cases hi
    | nonceBytes => cases hi
    | now => cases hi
    | prepareEnvironment _ _ _ _ => cases hi
    | confirm _ => cases hi

/-- Two invocations with authority in one state are for the same attempt. -/
theorem authority_agree {s : Option RunJournal} {i j : Invocation} (hi : i.Authority s)
    (hj : j.Authority s) :
    i.key = j.key ∧ i.planBytes = j.planBytes ∧ i.identity = j.identity := by
  obtain ⟨x, a, hx, ha, hheld, -, hidentity, hplan⟩ := hi
  obtain ⟨y, b, hy, hb, hheld', -, hidentity', hplan'⟩ := hj
  rw [hx] at hy
  cases hy
  rw [ha] at hb
  cases hb
  exact ⟨heldBy_key hheld hheld', hplan.symm.trans hplan',
    Option.some.inj (hidentity.symm.trans hidentity')⟩

/-- **Publication authority is exclusive.** Where a worker runs at most one call at a time for
one fence, every invocation of the publisher that is under way is for the attempt of the
journal's highest fence, which is its client's own and publishing, with the stored plan and
the stored identity; so two of them never differ in fence, plan or identity. A client that
has asked for the completion to be recorded still holds that attempt or finds it ended. -/
theorem publication_authority_exclusive (C : Codec) (tenantId : String) (runId : Digest)
    {c : ExecutorConfig C} (hreached : Executes C tenantId runId True (.init C) c) :
    (∀ name p i, (name, p) ∈ c.clients → underWay p = some i →
      i.key.name = name ∧ ∃ x a, c.shared.journal = some x ∧ a ∈ x.attempts
        ∧ x.highestLeaseFence = name.2 ∧ a.leaseFence = name.2 ∧ a.workerId = name.1
        ∧ a.state = .publishing ∧ x.identity = some i.identity ∧ x.planBytes = i.planBytes)
    ∧ (∀ name i k, (name, Prog.call (.confirm i) k) ∈ c.clients →
      i.Authority c.shared.journal ∨ i.Recorded c.shared.journal)
    ∧ ∀ name p i name' p' i', (name, p) ∈ c.clients → underWay p = some i →
      (name', p') ∈ c.clients → underWay p' = some i' →
      i.key.leaseFence = i'.key.leaseFence ∧ i.planBytes = i'.planBytes
        ∧ i.identity = i'.identity := by
  obtain ⟨hkept, -⟩ := executes_kept hreached init_kept
  refine ⟨?_, ?_, ?_⟩
  · intro name p i hp hi
    obtain ⟨hname, x, a, hx, ha, hheld, hstate, hidentity, hplan⟩ :=
      underWay_authority hkept hp hi
    obtain ⟨hmem, hcurrent⟩ := current_mem ha
    have hfence : a.leaseFence = name.2 := by
      rw [hheld.1, ← hname]
      rfl
    have hworker : a.workerId = name.1 := by
      rw [hheld.2.1, ← hname]
      rfl
    exact ⟨hname, x, a, hx, hmem, hcurrent.symm.trans hfence, hfence, hworker, hstate,
      hidentity, hplan⟩
  · intro name i k hp
    have hready : World.Pre True name (.confirm i) c.shared := hkept.ready .refl hp
    exact hready.2 trivial
  · intro name p i name' p' i' hp hi hp' hi'
    obtain ⟨-, hauthority⟩ := underWay_authority hkept hp hi
    obtain ⟨-, hauthority'⟩ := underWay_authority hkept hp' hi'
    obtain ⟨hkey, hplan, hidentity⟩ := authority_agree hauthority hauthority'
    rw [hkey]
    exact ⟨rfl, hplan, hidentity⟩

/-- After nine calls the publisher of the example worker is under way. -/
theorem publication_authority_exclusive_example :
    (examplePlay (exampleStart :: List.replicate 9 (.run 0 exampleChoice))).clients.map
        (fun p => ((underWay p.2).map (·.key.leaseFence))) = [some 1]
      ∧ ∀ name p i, (name, p) ∈ (examplePlay
          (exampleStart :: List.replicate 9 (.run 0 exampleChoice))).clients →
        underWay p = some i → i.key.name = name ∧ ∃ x a, (examplePlay
          (exampleStart :: List.replicate 9 (.run 0 exampleChoice))).shared.journal = some x
          ∧ a ∈ x.attempts ∧ x.highestLeaseFence = name.2 ∧ a.leaseFence = name.2
          ∧ a.workerId = name.1 ∧ a.state = .publishing ∧ x.identity = some i.identity
          ∧ x.planBytes = i.planBytes :=
  ⟨by decide,
    (publication_authority_exclusive exampleCodec "tenant-a" 1 (examplePlay_executes True _)).1⟩

/-! ## An invoked publication is no known failure -/

/-- **A started publication is not recorded as failed**, in every run in which the
environment provider does not fail an attempt whose publisher was invoked: the attempt of
every invocation stays publishing or ends completed or uncertain, and if a higher fence is
in force it is uncertain. -/
theorem invoked_never_failed (C : Codec) (tenantId : String) (runId : Digest)
    {c : ExecutorConfig C} (hreached : ExecutesWhere C tenantId runId True True (.init C) c) :
    ∀ i ∈ c.shared.invoked, ∃ x, c.shared.journal = some x
      ∧ ∀ a ∈ x.attempts, a.leaseFence = i.key.leaseFence →
        (a.state = .publishing ∨ a.state = .completed ∨ a.state = .uncertain)
        ∧ (a.leaseFence < x.highestLeaseFence → a.state = .uncertain) := by
  obtain ⟨hkept, -⟩ := executesWhere_kept (fun _ => trivial) hreached init_kept
  intro i hi
  obtain ⟨x, b, hx, -, hb, hheld, hstate⟩ := hkept.holds.unfailed trivial i hi
  have hwf := hkept.holds.wf x hx
  refine ⟨x, hx, ?_⟩
  intro a ha hfence
  obtain rfl : a = b :=
    List.inj_on_of_nodup_map hwf.fences ha hb (hfence.trans hheld.1.symm)
  refine ⟨hstate, ?_⟩
  intro hlower
  obtain ⟨-, -, hended⟩ := hwf.earlier a ha hlower.ne
  rcases hended with hfailed | huncertain
  · rw [hfailed] at hstate
    simp at hstate
  · exact huncertain

end

instance (C : Codec) (request : ControlRunExecutionRequest) (planBytes : Bytes)
    (plan : ExecutionPlan) (expected : Option Bytes)
    (answer : Except Raised (PreparedExecutionEnvironment C)) :
    Decidable (∃ environment,
      checkEnvironment C request planBytes plan expected answer = .ok environment) :=
  match checkEnvironment C request planBytes plan expected answer with
  | .ok environment => .isTrue ⟨environment, rfl⟩
  | .error _ => .isFalse fun ⟨_, h⟩ => by cases h

instance (C : Codec) : (c : ExecutorCall) → (w : World) → (r : c.Answer C) →
    Decidable (World.Composes C c w r)
  | .prepareEnvironment key request planBytes expected, w,
      (answer : Except Raised (PreparedExecutionEnvironment C)) =>
    inferInstanceAs (Decidable ((∃ i ∈ w.invoked, i.key = key) →
      ∀ plan ∈ C.verifyPlan request.stable planBytes, ∃ environment,
        checkEnvironment C request planBytes plan expected answer = .ok environment))
  | .journal _, _, _ => inferInstanceAs (Decidable True)
  | .nonceBytes, _, _ => inferInstanceAs (Decidable True)
  | .now, _, _ => inferInstanceAs (Decidable True)
  | .publish _, _, _ => inferInstanceAs (Decidable True)
  | .published _, _, _ => inferInstanceAs (Decidable True)
  | .record _ _, _, _ => inferInstanceAs (Decidable True)
  | .confirm _, _, _ => inferInstanceAs (Decidable True)

/-- Where the moves lead if every environment composes. -/
def exampleComposed (moves : List ExampleMove) : ExecutorConfig exampleCodec :=
  moves.foldl (fun c m => playNamed (fun choice c w =>
    if World.Composes exampleCodec c w (runExecutor exampleCodec choice c w).1 then
      some (runExecutor exampleCodec choice c w)
    else
      none) m c) (.init exampleCodec)

theorem exampleComposed_executes (moves : List ExampleMove) :
    ExecutesWhere exampleCodec "tenant-a" 1 True True (.init exampleCodec)
      (exampleComposed moves) := by
  refine playNamed_steps ?_ moves _
  intro choice c w r w' h
  split at h
  · rename_i hcomposes
    obtain ⟨rfl, rfl⟩ := Prod.mk.inj (Option.some.inj h)
    exact ⟨runExecutor_exec exampleCodec choice c w, fun _ => hcomposes⟩
  · cases h

/-- The worker invokes the publisher, dies, comes back under the same lease, finds its
environment again and completes. -/
def exampleResumed : List ExampleMove :=
  exampleStart :: List.replicate 9 (.run 0 exampleChoice) ++ .crash 0 :: exampleStart
    :: List.replicate 7 (.run 0 exampleChoice)

theorem invoked_never_failed_example :
    (exampleComposed exampleResumed).shared.invoked.length = 2
      ∧ ∀ i ∈ (exampleComposed exampleResumed).shared.invoked,
        ∃ x, (exampleComposed exampleResumed).shared.journal = some x
          ∧ ∀ a ∈ x.attempts, a.leaseFence = i.key.leaseFence →
            (a.state = .publishing ∨ a.state = .completed ∨ a.state = .uncertain)
            ∧ (a.leaseFence < x.highestLeaseFence → a.state = .uncertain) :=
  ⟨by decide,
    invoked_never_failed exampleCodec "tenant-a" 1 (exampleComposed_executes exampleResumed)⟩

/-- The same, but the environment provider raises when the worker comes back. -/
def exampleForgotten : List ExampleMove :=
  exampleStart :: List.replicate 9 (.run 0 exampleChoice) ++ .crash 0 :: exampleStart
    :: List.replicate 4 (.run 0 { exampleChoice with environment := .error (.other none) })

/-- The publisher was invoked and the attempt is recorded as a known failure. -/
theorem invoked_then_failed :
    ¬∀ c : ExecutorConfig exampleCodec,
      Executes exampleCodec "tenant-a" 1 True (.init exampleCodec) c →
      ∀ i ∈ c.shared.invoked, ∀ x ∈ c.shared.journal, ∀ a ∈ x.attempts,
        a.leaseFence = i.key.leaseFence → a.state ≠ .failed := by
  intro hclaim
  have hrun := hclaim (examplePlay exampleForgotten) (examplePlay_executes True exampleForgotten)
  revert hrun
  decide

end ControlAssurance.Execution
