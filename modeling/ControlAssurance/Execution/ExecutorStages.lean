import ControlAssurance.Execution.ExecutorSafety

/-!
# The stages of `ensure_executed`

One lemma for each definition of `Executor.lean`, from the last stage to the first:
recording how a publication ended, publishing, binding, beginning, preparing. What a stage
knows from the ones before is in its hypotheses: the stored plan, the record it read, the
authority it holds.
-/

namespace ControlAssurance.Execution

open Lib
open Admission (Bytes)
open ControlAssurance.Runtime (ControlRunExecutionResult)

/-! ## Ending an attempt -/

section

variable {C : Codec} {exclusive guarded : Prop} {w w' : World}
variable {e : Executor} {request : ControlRunExecutionRequest}

/-- The name under which this executor runs this request. -/
def clientName (e : Executor) (request : ControlRunExecutionRequest) : ClientName :=
  (e.workerId, request.leaseFence)

theorem markPrepublicationFailure_safe {record : ExecutionJournalRecord} {code : String}
    {after : ExecutorError} (hmode : guarded → exclusive)
    (h : guarded → record.revision = 0 ∨ ∀ i ∈ w.invoked, i.key ≠ attemptKey C e request) :
    ExecutorSafe C exclusive guarded (clientName e request)
      (markPrepublicationFailure C e request record code after) w := by
  refine safe_journal (Or.inr ⟨attemptKey C e request, rfl, rfl⟩) ?_ ?_
  · intro hguarded w' hrely i hi
    rcases h hguarded with hzero | huninvoked
    · exact Or.inl hzero
    · right
      intro hkey
      -- nobody else invokes the publisher under this name
      have hname : i.key.name = clientName e request := by
        rw [hkey]
        rfl
      exact huninvoked i (hrely.uninvoked (hmode hguarded) i hi hname) hkey
  · intro w' w'' r _ _ _ _ _
    cases r with
    | ok _ => exact safe_raise after
    | error err => exact safe_raise (markFailure err)

theorem refusePlan_safe {record : ExecutionJournalRecord} {code : String}
    (hmode : guarded → exclusive) (h : record.state = .prepared → record.revision = 0) :
    ExecutorSafe C exclusive guarded (clientName e request)
      (refusePlan C e request record code) w := by
  unfold refusePlan
  split
  · rename_i hprepared
    exact markPrepublicationFailure_safe hmode fun _ => Or.inl (h hprepared)
  · exact safe_raise _

variable {i : Invocation} {planBytes receiptBytes : Bytes} {plan : ExecutionPlan}

/-- An ended attempt stays as it is. -/
theorem Invocation.Recorded.later (h : i.Recorded w.journal)
    (horder : w.Order w') : i.Recorded w'.journal := by
  obtain ⟨x, a, hx, ha, hheld, hstate⟩ := h
  obtain ⟨x', hx', hlater⟩ := horder.later x hx
  refine ⟨x', a, hx', hlater.terminal ha ?_, hheld, hstate⟩
  rcases hstate with hstate | hstate
  · rw [hstate]; rfl
  · rw [hstate]; rfl

/-- `mark_completed` by the owner records the end or leaves the authority. -/
theorem markCompleted_authority {runId : Digest} {revision : Nat}
    {result : ControlRunExecutionResult} {r : Except JournalError ExecutionJournalRecord}
    (h : w.journalCall C (.markCompleted runId i.key revision result receiptBytes) r w')
    (hauthority : i.Authority w.journal) :
    i.Authority w'.journal ∨ i.Recorded w'.journal := by
  obtain ⟨s, invoked⟩ := w
  obtain ⟨s', invoked'⟩ := w'
  obtain ⟨hanswer, -⟩ := h
  have hcommitted : ∀ {clock : RecoveryClock} {x' : RunJournal} {record : ExecutionJournalRecord},
      JournalCall.run C clock (.markCompleted runId i.key revision result receiptBytes) s
        = .ok (x', record) → i.Authority (some x') ∨ i.Recorded (some x') := by
    intro clock x' record hrun
    obtain ⟨x, rfl, -, -, -, rfl | ⟨old, new, hcompleted⟩⟩ := markCompleted_ok hrun
    · exact Or.inl hauthority
    · right
      obtain ⟨hfence, -, hworker, htoken, -⟩ := hcompleted.same
      obtain ⟨h₁, h₂, h₃⟩ := hcompleted.held
      refine ⟨x', new, rfl, ?_, ⟨hfence.trans h₁, hworker.trans h₂, htoken.trans h₃⟩,
        Or.inl hcompleted.target.1⟩
      rw [hcompleted.result]
      exact (mem_replace hcompleted.mem).mpr (Or.inl rfl)
  cases hanswer with
  | done hrun => exact hcommitted hrun
  | refused _ => exact Or.inl hauthority
  | lost hrun => exact hcommitted hrun
  | interrupted _ => exact Or.inl hauthority

theorem confirmed_safe {current : ExecutionJournalRecord}
    {unfinished : ExecutorError} (h : w.Reads current) :
    ExecutorSafe C exclusive guarded (clientName e request)
      (confirmed C request receiptBytes current unfinished) w := by
  unfold confirmed
  split
  · exact safe_raise _
  · split
    · exact safe_raise _
    · exact safe_result h

/-- The read after a completion that may not have been recorded. -/
theorem confirm_safe {unfinished unread : ExecutorError} (hname : i.key.name = clientName e request)
    (h : exclusive → i.Authority w.journal ∨ i.Recorded w.journal) :
    ExecutorSafe C exclusive guarded (clientName e request)
      (.call (.confirm i) fun (r : Except JournalError ExecutionJournalRecord) =>
        match r with
        | .ok current => confirmed C request receiptBytes current unfinished
        | .error err => raise (readFailed unread err)) w := by
  intro w' hrely hinv
  refine ⟨⟨hname, ?_⟩, ?_⟩
  · intro hexclusive
    rcases h hexclusive with hauthority | hrecorded
    · exact Or.inl (hrely.authority hexclusive i hname hauthority)
    · exact Or.inr (hrecorded.later hrely.toOrder)
  · rintro r w'' ⟨hexec, -⟩
    have hexec : w'.journalCall C .get r w'' := hexec
    obtain ⟨hinv', horder, hothers⟩ :=
      journalCall_kept hinv (Or.inl rfl)
        (fun _ _ _ => trivial) hexec
    refine ⟨hinv', horder, hothers, ?_⟩
    cases r with
    | ok current => exact confirmed_safe (World.journalCall_ok hinv hexec).1
    | error err => exact safe_raise _

theorem complete_safe {record : ExecutionJournalRecord}
    {publication : ManagedEvidencePublication} (hkey : i.key = attemptKey C e request)
    (hauthority : exclusive → i.Authority w.journal) :
    ExecutorSafe C exclusive guarded (clientName e request)
      (complete C e request i record publication) w := by
  have hname : i.key.name = clientName e request := by
    rw [hkey]
    rfl
  intro w' hrely hinv
  have hauthority' : exclusive → i.Authority w'.journal :=
    fun hexclusive => hrely.authority hexclusive i hname (hauthority hexclusive)
  refine ⟨⟨hname, hauthority'⟩, ?_⟩
  rintro r w'' ⟨hexec, -⟩
  rw [← hkey] at hexec
  obtain ⟨hinv', horder, hothers⟩ :=
    journalCall_kept hinv (Or.inr ⟨i.key, rfl, hname⟩) (by exact fun _ _ _ => trivial) hexec
  refine ⟨hinv', horder, hothers, ?_⟩
  have hended : exclusive → i.Authority w''.journal ∨ i.Recorded w''.journal :=
    fun hexclusive => markCompleted_authority hexec (hauthority' hexclusive)
  cases r with
  | ok completed =>
    dsimp only
    split
    · exact safe_result (World.journalCall_ok hinv hexec).1
    · exact safe_raise _
  | error err =>
    cases err with
    | outcomeUnknown _ => exact confirm_safe hname hended
    | conflict _ => exact confirm_safe hname hended
    | integrity _ => exact safe_raise _
    | unavailable _ => exact safe_raise _
    | notFound _ => exact safe_raise _
    | invalid _ => exact safe_raise _

theorem markPublicationUncertain_safe {record : ExecutionJournalRecord}
    {code : String} {after : ExecutorError} (hkey : i.key = attemptKey C e request)
    (hauthority : exclusive → i.Authority w.journal) :
    ExecutorSafe C exclusive guarded (clientName e request)
      (markPublicationUncertain C e request i record code after) w := by
  have hname : i.key.name = clientName e request := by
    rw [hkey]
    rfl
  intro w' hrely hinv
  refine ⟨⟨hname, ?_⟩, ?_⟩
  · exact fun hexclusive => hrely.authority hexclusive i hname (hauthority hexclusive)
  · rintro r w'' ⟨hexec, -⟩
    obtain ⟨hinv', horder, hothers⟩ :=
      journalCall_kept hinv (Or.inr ⟨attemptKey C e request, rfl, rfl⟩)
        (by exact fun _ _ _ => trivial) hexec
    refine ⟨hinv', horder, hothers, ?_⟩
    cases r with
    | ok _ => exact safe_raise after
    | error err => exact safe_raise (markFailure err)

/-! ## Publishing -/

/-- The publisher is invoked with authority, and how it ended is recorded. -/
theorem publishEvidence_safe {record : ExecutionJournalRecord}
    (hmode : guarded → exclusive) (hkey : i.key = attemptKey C e request)
    (hauthority : exclusive → i.Authority w.journal) :
    ExecutorSafe C exclusive guarded (clientName e request)
      (publishEvidence C e request plan record i) w := by
  have hname : i.key.name = clientName e request := by
    rw [hkey]
    rfl
  intro w' hrely hinv
  have hauthority' : exclusive → i.Authority w'.journal :=
    fun hexclusive => hrely.authority hexclusive i hname (hauthority hexclusive)
  refine ⟨⟨hname, hauthority'⟩, ?_⟩
  rintro r w'' ⟨hexec, -⟩
  obtain rfl : w'' = { w' with invoked := w'.invoked ++ [i] } := hexec
  have horder : w'.Order { w' with invoked := w'.invoked ++ [i] } :=
    ⟨fun x hx => ⟨x, hx, .refl x⟩, List.prefix_append _ _⟩
  refine ⟨⟨hinv.wf, ?_⟩, horder, ?_, ?_⟩
  · intro hguarded j hj
    rcases List.mem_append.mp hj with hj | hj
    · exact hinv.unfailed hguarded j hj
    · obtain rfl := List.mem_singleton.mp hj
      obtain ⟨x, a, hx, ha, hheld, hstate, hidentity, -⟩ := hauthority' (hmode hguarded)
      refine ⟨x, a, hx, ?_, (current_mem ha).1, hheld, Or.inl hstate⟩
      rw [hidentity]
      exact Option.some_ne_none _
  · intro other hother
    refine ⟨horder, fun _ _ _ h => h, ?_⟩
    intro hexclusive j hj hjname
    rcases List.mem_append.mp hj with hj | hj
    · exact hj
    · obtain rfl := List.mem_singleton.mp hj
      exact absurd (hjname.symm.trans hname) (hother hexclusive)
  · -- the publisher is under way
    refine safe_local (fun _ _ _ h => h) ?_ ?_
    · intro v hv
      exact ⟨hname, fun hexclusive => hv.authority hexclusive i hname (hauthority' hexclusive)⟩
    · intro v answer hv _ _
      have hheld : exclusive → i.Authority v.journal :=
        fun hexclusive => hv.authority hexclusive i hname (hauthority' hexclusive)
      cases checkPublication C request plan answer with
      | error raised => exact markPublicationUncertain_safe hkey hheld
      | ok publication => exact complete_safe hkey hheld

theorem publishBound_safe {i : BoundIdentity}
    {bound : ExecutionJournalRecord} (hmode : guarded → exclusive) (hreads : w.Reads bound)
    (hheld : bound.heldBy (attemptKey C e request)) (hplan : w.PlanIs planBytes) :
    ExecutorSafe C exclusive guarded (clientName e request)
      (publishBound C e request planBytes plan i bound) w := by
  unfold publishBound
  split
  · exact safe_raise _
  · rename_i hbound
    obtain ⟨hidentity, hstate⟩ := not_not.mp hbound
    split
    · exact safe_result hreads
    · rename_i hunfinished
      have hpublishing := hstate.resolve_right hunfinished
      exact publishEvidence_safe hmode rfl fun _ =>
        hreads.authority hheld hpublishing hidentity hplan

theorem rereadBinding_safe {i : BoundIdentity}
    {elsewhere : ExecutorError} (hmode : guarded → exclusive) (hplan : w.PlanIs planBytes) :
    ExecutorSafe C exclusive guarded (clientName e request)
      (rereadBinding C e request planBytes plan i elsewhere) w := by
  refine safe_journal (Or.inl rfl) (fun _ _ _ _ _ => trivial) ?_
  intro w' w'' r hrely hinv hcall _ horder
  cases r with
  | ok current =>
    obtain ⟨hreads, -⟩ := World.journalCall_ok hinv hcall
    dsimp only
    split
    · rename_i hhere
      exact publishBound_safe hmode hreads hhere.2.1 ((hplan.later hrely.toOrder).later horder)
    · exact safe_raise _
  | error err => exact safe_raise _

theorem bindExecutionEnvironment_safe
    {record : ExecutionJournalRecord} {i : BoundIdentity} (hmode : guarded → exclusive)
    (hplan : w.PlanIs planBytes) :
    ExecutorSafe C exclusive guarded (clientName e request)
      (bindExecutionEnvironment C e request planBytes plan record i) w := by
  refine safe_journal (Or.inr ⟨attemptKey C e request, rfl, rfl⟩)
    (fun _ _ _ _ _ => trivial) ?_
  intro w' w'' r hrely hinv hcall _ horder
  have hplan' : w''.PlanIs planBytes := (hplan.later hrely.toOrder).later horder
  cases r with
  | ok bound =>
    obtain ⟨hreads, clock, x', hrun, -⟩ := World.journalCall_ok hinv hcall
    obtain ⟨x, -, -, hheld, -⟩ := bindExecutionIdentity_ok hrun
    exact publishBound_safe hmode hreads hheld hplan'
  | error err =>
    cases err with
    | outcomeUnknown _ => exact rereadBinding_safe hmode hplan'
    | conflict _ => exact rereadBinding_safe hmode hplan'
    | integrity _ => exact safe_raise _
    | unavailable _ => exact safe_raise _
    | notFound _ => exact safe_raise _
    | invalid _ => exact safe_raise _

/-- An environment that fails is that of an attempt whose publisher was never invoked, or the
system is not `guarded`. -/
theorem prepareEnvironment_safe {record : ExecutionJournalRecord} (hmode : guarded → exclusive)
    (hverified : C.verifyPlan request.stable planBytes = some plan) (hplan : w.PlanIs planBytes) :
    ExecutorSafe C exclusive guarded (clientName e request)
      (prepareEnvironment C e request planBytes plan record) w := by
  refine safe_local (fun _ _ _ h => h) (fun _ _ => trivial) ?_
  intro w' answer hrely _ hcomposes
  cases hchecked : checkEnvironment C request planBytes plan (record.identity.map (·.bytes))
      answer with
  | error raised =>
    refine markPrepublicationFailure_safe hmode fun hguarded => Or.inr ?_
    intro i hi hkey
    obtain ⟨environment, henvironment⟩ := hcomposes hguarded ⟨i, hi, hkey⟩ plan hverified
    rw [hchecked] at henvironment
    cases henvironment
  | ok environment =>
    exact bindExecutionEnvironment_safe hmode (hplan.later hrely.toOrder)

theorem publishing_safe {record : ExecutionJournalRecord} (hmode : guarded → exclusive)
    (hverified : C.verifyPlan request.stable planBytes = some plan)
    (hplan : w.PlanIs planBytes) (hreads : record.state = .completed → w.Reads record) :
    ExecutorSafe C exclusive guarded (clientName e request)
      (publishing C e request planBytes plan record) w := by
  unfold publishing
  cases hstate : record.state with
  | completed => exact safe_result (hreads hstate)
  | publishing => exact prepareEnvironment_safe hmode hverified hplan
  | prepared => exact safe_raise _
  | failed => exact safe_raise _
  | uncertain => exact safe_raise _

theorem rereadBegun_safe (hmode : guarded → exclusive)
    (hverified : C.verifyPlan request.stable planBytes = some plan) (hplan : w.PlanIs planBytes) :
    ExecutorSafe C exclusive guarded (clientName e request)
      (rereadBegun C e request planBytes plan) w := by
  refine safe_journal (Or.inl rfl) (fun _ _ _ _ _ => trivial) ?_
  intro w' w'' r hrely hinv hcall _ horder
  have hplan' : w''.PlanIs planBytes := (hplan.later hrely.toOrder).later horder
  cases r with
  | error err => exact safe_raise _
  | ok current =>
    dsimp only
    split
    · exact safe_result (World.journalCall_ok hinv hcall).1
    · refine safe_journal (Or.inl rfl) (fun _ _ _ _ _ => trivial) ?_
      intro v v' r hv hinvV hcallV _ horderV
      cases r with
      | error err => exact safe_raise _
      | ok record =>
        exact publishing_safe hmode hverified ((hplan'.later hv.toOrder).later horderV)
          fun _ => (World.journalCall_ok hinvV hcallV).1

theorem beginPublication_safe {record : ExecutionJournalRecord} (hmode : guarded → exclusive)
    (hverified : C.verifyPlan request.stable planBytes = some plan) (hplan : w.PlanIs planBytes)
    (hopen : record.state = .prepared ∨ record.state = .publishing) :
    ExecutorSafe C exclusive guarded (clientName e request)
      (beginPublication C e request planBytes plan record) w := by
  unfold beginPublication
  split
  · refine safe_journal (Or.inr ⟨attemptKey C e request, rfl, rfl⟩)
      (fun _ _ _ _ _ => trivial) ?_
    intro w' w'' r hrely hinv hcall _ horder
    have hplan' : w''.PlanIs planBytes := (hplan.later hrely.toOrder).later horder
    cases r with
    | ok begun =>
      exact publishing_safe hmode hverified hplan' fun _ => (World.journalCall_ok hinv hcall).1
    | error err =>
      cases err with
      | outcomeUnknown _ => exact rereadBegun_safe hmode hverified hplan'
      | conflict _ => exact safe_raise _
      | integrity _ => exact safe_raise _
      | unavailable _ => exact safe_raise _
      | notFound _ => exact safe_raise _
      | invalid _ => exact safe_raise _
  · rename_i hbegun
    refine publishing_safe hmode hverified hplan ?_
    intro hcompleted
    rw [hopen.resolve_left hbegun] at hcompleted
    cases hcompleted

theorem withPlan_safe {record : ExecutionJournalRecord} (hmode : guarded → exclusive)
    (hplan : w.PlanIs record.planBytes)
    (hrevision : record.state = .prepared → record.revision = 0)
    (hopen : record.state = .prepared ∨ record.state = .publishing) :
    ExecutorSafe C exclusive guarded (clientName e request) (withPlan C e request record) w := by
  unfold withPlan
  split
  · exact safe_raise _
  · rename_i plan hverified
    split
    · exact refusePlan_safe hmode hrevision
    · refine safe_local (fun _ _ _ h => h) (fun _ _ => trivial) ?_
      intro w' time hrely _ _
      cases time with
      | none => exact safe_raise _
      | some now =>
        dsimp only
        split
        · exact refusePlan_safe hmode hrevision
        · exact beginPublication_safe hmode hverified (hplan.later hrely.toOrder) hopen

/-! ## The whole call -/

theorem prepareRecord_safe {k : ExecutionJournalRecord → ExecutorProg C}
    (hk : ∀ w' record, w'.Inv C guarded → w'.Reads record →
      ExecutorSafe C exclusive guarded (clientName e request) (k record) w') :
    ExecutorSafe C exclusive guarded (clientName e request) (prepareRecord C e request k) w := by
  have hmade : ∀ plan, (prepareCall C e request plan).madeBy (clientName e request) :=
    fun plan => Or.inr ⟨attemptKey C e request, rfl, rfl⟩
  refine safe_journal (hmade none) (fun _ _ _ _ _ => trivial) ?_
  intro w₁ w₂ r _ hinv hcall hinv' _
  cases r with
  | ok record => exact hk w₂ record hinv' (World.journalCall_ok hinv hcall).1
  | error err =>
    cases err with
    | notFound _ =>
      -- a new plan, and the insert
      refine safe_local (fun _ _ _ h => h) (fun _ _ => trivial) ?_
      intro w₃ nonce _ _ _
      dsimp only
      split
      · refine safe_local (fun _ _ _ h => h) (fun _ _ => trivial) ?_
        intro w₄ time _ _ _
        cases time with
        | none => exact safe_raise _
        | some preparedAt =>
          dsimp only
          split
          · exact safe_raise _
          · refine safe_journal (hmade _) (fun _ _ _ _ _ => trivial) ?_
            intro w₅ w₆ r _ hinv₅ hcall₅ hinv₆ _
            cases r with
            | ok record => exact hk w₆ record hinv₆ (World.journalCall_ok hinv₅ hcall₅).1
            | error err =>
              cases err with
              | conflict _ =>
                refine safe_journal (hmade none) (fun _ _ _ _ _ => trivial) ?_
                intro w₇ w₈ r _ hinv₇ hcall₇ hinv₈ _
                cases r with
                | ok record => exact hk w₈ record hinv₈ (World.journalCall_ok hinv₇ hcall₇).1
                | error err => exact safe_raise _
              | notFound _ => exact safe_raise _
              | integrity _ => exact safe_raise _
              | unavailable _ => exact safe_raise _
              | outcomeUnknown _ => exact safe_raise _
              | invalid _ => exact safe_raise _
      · exact safe_raise _
    | conflict _ => exact safe_raise _
    | integrity _ => exact safe_raise _
    | unavailable _ => exact safe_raise _
    | outcomeUnknown _ => exact safe_raise _
    | invalid _ => exact safe_raise _

/-- `ensure_executed` is safe from any state. -/
theorem ensureExecuted_safe (hmode : guarded → exclusive) :
    ExecutorSafe C exclusive guarded (clientName e request) (ensureExecuted C e request) w := by
  refine prepareRecord_safe ?_
  intro w' record hinv hreads
  cases hstate : record.state with
  | completed =>
    exact safe_result hreads
  | uncertain =>
    exact safe_raise _
  | failed =>
    exact safe_raise _
  | prepared =>
    exact withPlan_safe hmode hreads.planIs (hreads.revision hinv) (Or.inl hstate)
  | publishing =>
    exact withPlan_safe hmode hreads.planIs (hreads.revision hinv) (Or.inr hstate)

end

end ControlAssurance.Execution
