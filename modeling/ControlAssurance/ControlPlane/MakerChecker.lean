import ControlAssurance.ControlPlane.Service

/-!
# Maker and checker over whole runs

The rule that nobody approves, activates, retries or rolls back a change of
their own is enforced in three places: `ControlPlaneService` compares the
revision's maker with the actor before it calls the store, the store's
rollback and retry transactions compare again, and the insert trigger of
`deployment_operations` compares a third time. The first check is made in a
transaction of its own, so it says something about the writing call only
because `created_by` never changes: that is the promise `Promised` that every
client keeps, and `Permitted` is what a method has established about its
writing call when it makes it.

`maker_checker` is the result: in every configuration any schedule of service
and worker calls can reach, every decision, operation and pointer was made by
somebody other than the maker of its revision, by an actor with the role and
a fresh second factor at the recorded time.
-/

namespace ControlAssurance.ControlPlane

open Lib

variable {sha : Document → Digest}

/-- What a privileged action requires of its actor at its time `t`. -/
structure Authorized (a : Actor) (role : Role) (t : Time) : Prop where
  role : .administrator ∈ a.roles ∨ role ∈ a.roles
  mfa : a.mfa = true
  not_future : a.authenticatedAt ≤ t
  fresh : t ≤ a.authenticatedAt + privilegedSessionMaxAge

theorem authorize_privileged {a : Actor} {role : Role} {t : Time} {u : Unit}
    (h : authorize a role true t = .ok u) : Authorized a role t := by
  simp only [authorize, bind_eq_ok, require_eq_ok, exists_const, true_implies] at h
  obtain ⟨hrole, _, hmfa, hnow, hage⟩ := h
  exact ⟨hrole, hmfa, Int.sub_nonneg.mp hnow, Int.le_add_of_sub_left_le hage⟩

/-- The privileged calls, each with the role it needs. -/
def AuthorizedCall : StoreCall → Prop
  | .decide a _ _ _ _ t => Authorized a .approver t
  | .activateWithOperation a _ _ t => Authorized a .deployer t
  | .requestRollback a _ _ t => Authorized a .deployer t
  | .requestDeploymentRetry a _ t => Authorized a .deployer t
  | _ => True

/-- The actor of a decision or an activation is not the revision's maker. -/
def Separated (st : Store) : StoreCall → Prop
  | .decide a rid _ _ _ _ => ∀ r ∈ st.revisions, r.revisionId = rid → r.createdBy ≠ a.subject
  | .activateWithOperation a rid _ _ =>
      ∀ r ∈ st.revisions, r.revisionId = rid → r.createdBy ≠ a.subject
  | _ => True

/-- Separation of duties in one state of the running service. -/
structure MakerChecker (sha : Document → Digest) (w : World) : Prop where
  /-- one row per revision id, so "its revision" below is one row -/
  revisions : (w.store.revisions.map (·.revisionId)).Nodup
  decisions : ∀ d ∈ w.store.decisions, ∃ r ∈ w.store.revisions,
    r.revisionId = d.revisionId ∧ r.tenantId = d.tenantId ∧ r.createdBy ≠ d.decidedBy
  operations : ∀ op ∈ w.store.operations, ∃ r ∈ w.store.revisions,
    r.revisionId = op.revisionId ∧ r.tenantId = op.tenantId
      ∧ r.createdBy ≠ op.requestedBy
      ∧ (op.kind = .rollback → r.state = .retired
        ∧ ∃ d ∈ w.store.decisions, d.revisionId = r.revisionId ∧ d.decision = .approved)
  pointers : ∀ p ∈ w.store.deployments, ∃ r ∈ w.store.revisions,
    r.revisionId = p.revisionId ∧ r.tenantId = p.tenantId ∧ r.createdBy ≠ p.activatedBy
  /-- every commit so far was a step of the store by an authorized actor -/
  commits : ∀ e ∈ w.log, StoreStep sha e.before e.call e.after ∧ AuthorizedCall e.call
  approvals : ∀ d ∈ w.store.decisions, ∃ e ∈ w.log, ∃ a v comment,
    e.call = .decide a d.revisionId v d.decision comment d.decidedAt
      ∧ a.tenantId = d.tenantId ∧ a.subject = d.decidedBy
      ∧ a.sessionIdDigest = d.actorSessionDigest ∧ Authorized a .approver d.decidedAt
  /-- every operation was inserted by a commit in whose tables its revision was
  approved (apply) or retired with an approval (rollback) -/
  requests : ∀ op ∈ w.store.operations, ∃ e ∈ w.log, ∃ a r,
    InsertedBy e.before e.call op.toOperationRequest a r
      ∧ Authorized a .deployer op.requestedAt
  activations : ∀ p ∈ w.store.deployments, ∃ e ∈ w.log, ∃ a v,
    e.call = .activateWithOperation a p.revisionId v p.activatedAt
      ∧ a.tenantId = p.tenantId ∧ a.subject = p.activatedBy
      ∧ Authorized a .deployer p.activatedAt

theorem makerChecker_init : MakerChecker sha World.init := by
  refine ⟨List.nodup_nil, ?_, ?_, ?_, ?_, ?_, ?_, ?_⟩ <;>
    · intro x hx
      cases hx

/-! ## One commit -/

/-- The promise between any two states of a run. -/
def Promised (w w' : World) : Prop := RevisionsKept w.store w'.store

theorem promised_refl (w : World) : Promised w w :=
  fun r hr => ⟨r, hr, Evolves.refl r⟩

theorem promised_trans (w₁ w₂ w₃ : World) (h₁ : Promised w₁ w₂) (h₂ : Promised w₂ w₃) :
    Promised w₁ w₃ := by
  intro r hr
  obtain ⟨r', hr', hev⟩ := h₁ r hr
  obtain ⟨r'', hr'', hev'⟩ := h₂ r' hr'
  exact ⟨r'', hr'', hev.trans hev'⟩

variable {r : ConfigurationRevision} {c : StoreCall} {w w' : World}

theorem insertedBy_authorized {st : Store} {q : OperationRequest}
    {a : Actor} (h : InsertedBy st c q a r)
    (hauth : AuthorizedCall c) : Authorized a .deployer q.requestedAt := by
  rcases h.call with ⟨v, _, rfl⟩ | ⟨p, _, rfl⟩ | ⟨o, _, rfl⟩
  · exact hauth
  · exact hauth
  · exact hauth

/-- A permitted commit keeps separation of duties. The rows it leaves alone
keep their revision because content is immutable; the rows it makes are the
ones `step_decisions`, `step_operations` and `step_deployments` describe. -/
theorem commit_makerChecker {ans : c.Answer} {st' : Store}
    (hw : MakerChecker sha w) (hstep : StoreStep sha w.store c st')
    (hauth : AuthorizedCall c) (hsep : Separated w.store c) :
    MakerChecker sha ⟨st', w.log ++ [⟨w.store, c, ans, st'⟩]⟩ := by
  have hkept := step_revisions hstep
  have hdec := step_decisions hstep
  have hapart : ∀ {id : Digest} {tenantId subject : String},
      (∃ r ∈ w.store.revisions, r.revisionId = id ∧ r.tenantId = tenantId ∧ r.createdBy ≠ subject) →
        ∃ r ∈ st'.revisions, r.revisionId = id ∧ r.tenantId = tenantId ∧ r.createdBy ≠ subject := by
    rintro id tenantId subject ⟨r, hr, hid, hten, hne⟩
    obtain ⟨r', hr', hev⟩ := hkept r hr
    exact ⟨r', hr', hev.revisionId.trans hid, hev.tenantId.trans hten, hev.createdBy ▸ hne⟩
  have hold : ∀ e ∈ w.log, e ∈ w.log ++ [⟨w.store, c, ans, st'⟩] :=
    fun e he => List.mem_append_left _ he
  have hnew : (⟨w.store, c, ans, st'⟩ : Commit) ∈ w.log ++ [⟨w.store, c, ans, st'⟩] :=
    List.mem_append_right _ (List.mem_singleton_self _)
  refine ⟨step_revisionKeys hstep hw.revisions, ?_, ?_, ?_, ?_, ?_, ?_, ?_⟩
  · intro d hd
    rcases hdec.2 d hd with hd | ⟨a, v, comment, r, rfl, hr, htr, hid, hten, hby, _⟩
    · exact hapart (hw.decisions d hd)
    · exact hapart ⟨r, hr, hid, htr.trans hten.symm, hby ▸ hsep r hr hid⟩
  · intro op hop
    rcases step_operations hstep hw.revisions op hop with ⟨o, ho, hreq⟩ | ⟨a, r, hins⟩
    · obtain ⟨r, hr, hid, hten, hne, hroll⟩ := hw.operations o ho
      obtain ⟨r', hr', hev⟩ := hkept r hr
      rw [hreq]
      refine ⟨r', hr', hev.revisionId.trans hid, hev.tenantId.trans hten,
        hev.createdBy ▸ hne, ?_⟩
      intro hkind
      obtain ⟨hret, d, hd, hdr, hdv⟩ := hroll hkind
      exact ⟨hev.retired hret, d, hdec.1 d hd, hdr.trans hev.revisionId.symm, hdv⟩
    · obtain ⟨r', hr', hev⟩ := hkept r hins.mem
      refine ⟨r', hr', hev.revisionId.trans hins.revision.symm,
        hev.tenantId.trans (hins.revisionTenant.trans hins.tenant.symm),
        hev.createdBy ▸ hins.maker, ?_⟩
      intro hkind
      obtain ⟨hret, d, hd, hdr, hdv⟩ := hins.rollback_retired hkind
      exact ⟨hev.retired hret, d, hdec.1 d hd,
        hdr.trans (hins.revision.trans hev.revisionId.symm), hdv⟩
  · intro p hp
    rcases step_deployments hstep p hp with
      hp | ⟨a, v, r, rfl, hr, htr, hid, _, _, hten, hby⟩
    · exact hapart (hw.pointers p hp)
    · exact hapart ⟨r, hr, hid, htr.trans hten.symm, hby ▸ hsep r hr hid⟩
  · intro e he
    rcases List.mem_append.mp he with he | he
    · exact hw.commits e he
    · rw [List.mem_singleton] at he
      subst he
      exact ⟨hstep, hauth⟩
  · intro d hd
    rcases hdec.2 d hd with hd | ⟨a, v, comment, r, rfl, _, _, _, hten, hby, hses⟩
    · obtain ⟨e, he, h⟩ := hw.approvals d hd
      exact ⟨e, hold e he, h⟩
    · exact ⟨_, hnew, a, v, comment, rfl, hten.symm, hby.symm, hses.symm, hauth⟩
  · intro op hop
    rcases step_operations hstep hw.revisions op hop with ⟨o, ho, hreq⟩ | ⟨a, r, hins⟩
    · obtain ⟨e, he, h⟩ := hw.requests o ho
      rw [hreq]
      exact ⟨e, hold e he, h⟩
    · exact ⟨_, hnew, a, r, hins, insertedBy_authorized hins hauth⟩
  · intro p hp
    rcases step_deployments hstep p hp with
      hp | ⟨a, v, r, rfl, _, _, _, _, _, hten, hby⟩
    · obtain ⟨e, he, h⟩ := hw.activations p hp
      exact ⟨e, hold e he, h⟩
    · exact ⟨_, hnew, a, v, rfl, hten.symm, hby.symm, hauth⟩

/-- The same for a whole transaction, which may also raise. -/
theorem exec_makerChecker {r : Except ControlPlaneError c.Answer} (hw : MakerChecker sha w)
    (hauth : AuthorizedCall c) (hsep : Separated w.store c) (h : exec sha c w r w') :
    MakerChecker sha w' ∧ Promised w w' := by
  rcases exec_cases h with ⟨st', ans, hrun, _, rfl⟩ | ⟨e, _, rfl⟩
  · have hstep := run_step hrun
    exact ⟨commit_makerChecker hw hstep hauth hsep, step_revisions hstep⟩
  · exact ⟨hw, promised_refl _⟩

/-! ## The methods are safe clients -/

/-- No promise is made about what a method answers. -/
abbrev SafeClient (sha : Document → Digest) (p : Client) (w : World) : Prop :=
  Safe (exec sha) (MakerChecker sha) Promised (fun _ _ => True) p w

/-- A call that needs no permission, followed by a safe continuation. -/
theorem safe_request {k : c.Answer → Client} (hauth : AuthorizedCall c)
    (hsep : ∀ w', Promised w w' → MakerChecker sha w' → Separated w'.store c)
    (hk : ∀ ans w' w'', Promised w w' → MakerChecker sha w' →
      exec sha c w' (.ok ans) w'' → Promised w' w'' → SafeClient sha (k ans) w'') :
    SafeClient sha (Prog.request c k) w := by
  refine safe_requested (fun _ _ => trivial) ?_
  intro w' hrely hw' r w'' hexec
  obtain ⟨hw'', hrely'⟩ := exec_makerChecker hw' hauth (hsep w' hrely hw') hexec
  refine ⟨hw'', hrely', ?_⟩
  intro ans hans
  subst hans
  exact hk ans w' w'' hrely hw' hexec hrely'

/-- What `get_revision` tells its caller for good: the row it answered with is
in the tables, and its content stays. -/
theorem getRevision_exec {tenantId : String} {rid : Digest}
    (h : exec sha (.getRevision tenantId rid) w (.ok r) w') :
    r ∈ w'.store.revisions ∧ r.revisionId = rid := by
  rcases exec_cases h with ⟨st', ans, hrun, hr, rfl⟩ | ⟨e, hr, _⟩
  · cases hg : getRevision sha w.store tenantId rid with
    | error e => simp [StoreCall.run, hg, Except.map] at hrun
    | ok r' =>
      simp only [StoreCall.run, hg, Except.map, Except.ok.injEq] at hrun
      cases hrun
      cases hr
      simp only [getRevision, bind_eq_ok, expect_eq_ok, readRevision_eq_ok] at hg
      obtain ⟨row, hrow, _, rfl⟩ := hg
      obtain ⟨hmem, _, hid⟩ := revisionRow_some hrow
      exact ⟨hmem, hid⟩
  · cases hr

/-- A maker read once is the maker in every later state. -/
theorem maker_stable {subject : String}
    (hr : r ∈ w.store.revisions) (hne : r.createdBy ≠ subject) (hext : Promised w w')
    (hw' : MakerChecker sha w') :
    ∀ x ∈ w'.store.revisions, x.revisionId = r.revisionId → x.createdBy ≠ subject := by
  intro x hx hid
  obtain ⟨r', hr', hev⟩ := hext r hr
  have hxr : x = r' := List.inj_on_of_nodup_map hw'.revisions hx hr'
    (hid.trans hev.revisionId.symm)
  rw [hxr, hev.createdBy]
  exact hne

/-- A read followed by a safe continuation that knows the row. -/
theorem safe_getRevision {tenantId : String} {rid : Digest} {k : ConfigurationRevision → Client}
    (hk : ∀ (r : ConfigurationRevision) w', r ∈ w'.store.revisions → r.revisionId = rid →
      SafeClient sha (k r) w') :
    SafeClient sha (Prog.request (.getRevision tenantId rid) k) w := by
  refine safe_request trivial (fun _ _ _ => trivial) ?_
  intro r w' w'' _ _ hexec _
  obtain ⟨hr, hid⟩ := getRevision_exec hexec
  exact hk r w'' hr hid

theorem safe_answer (a : ServiceAnswer) (w : World) :
    SafeClient sha (.ret (.ok a)) w := trivial

theorem createRevision_safe (now : Time) (a : Actor) (cfg : ControlConfiguration)
    (p : Option Digest) (w : World) : SafeClient sha (createRevision now a cfg p) w := by
  refine safe_check (fun _ => trivial) fun _ _ => ?_
  refine safe_check (fun _ => trivial) fun _ _ => ?_
  refine safe_check (fun _ => trivial) fun _ _ => ?_
  refine safe_request trivial (fun _ _ _ => trivial) fun _ _ w' _ _ _ _ => ?_
  exact safe_getRevision fun r w'' _ _ => safe_answer _ _

theorem submitRevision_safe (now : Time) (a : Actor) (rid : Digest) (v : Nat) (w : World) :
    SafeClient sha (submitRevision now a rid v) w := by
  refine safe_check (fun _ => trivial) fun _ _ => ?_
  refine safe_getRevision fun r w' _ _ => ?_
  refine safe_check (fun _ => trivial) fun _ _ => ?_
  refine safe_check (fun _ => trivial) fun _ _ => ?_
  refine safe_request trivial (fun _ _ _ => trivial) fun _ _ w'' _ _ _ _ => ?_
  exact safe_getRevision fun r w'' _ _ => safe_answer _ _

theorem decideRevisionCall_safe (now : Time) (a : Actor) (rid : Digest) (v : Nat)
    (d : Verdict) (comment : String) (w : World) :
    SafeClient sha (decideRevisionCall now a rid v d comment) w := by
  refine safe_check (fun _ => trivial) fun _ hauth => ?_
  refine safe_getRevision fun r w' hr hid => ?_
  refine safe_check (fun _ => trivial) fun _ hmaker => ?_
  rw [require_eq_ok] at hmaker
  refine safe_request (authorize_privileged hauth) ?_ fun _ _ w'' _ _ _ _ => ?_
  · intro w₁ hext hw₁
    exact hid ▸ maker_stable hr hmaker hext hw₁
  · exact safe_getRevision fun r w'' _ _ => safe_answer _ _

theorem activateRevision_safe (now : Time) (a : Actor) (rid : Digest) (v : Option Nat)
    (w : World) : SafeClient sha (activateRevisionWithOperation now a rid v) w := by
  refine safe_check (fun _ => trivial) fun _ hauth => ?_
  refine safe_getRevision fun r w' hr hid => ?_
  refine safe_check (fun _ => trivial) fun _ hmaker => ?_
  rw [require_eq_ok] at hmaker
  refine safe_request (authorize_privileged hauth) ?_ fun _ _ w'' _ _ _ _ =>
    safe_answer _ _
  intro w₁ hext hw₁
  exact hid ▸ maker_stable hr hmaker hext hw₁

theorem requestRollbackCall_safe (now : Time) (a : Actor) (rid p : Digest) (w : World) :
    SafeClient sha (requestRollbackCall now a rid p) w := by
  refine safe_check (fun _ => trivial) fun _ hauth => ?_
  refine safe_getRevision fun r w' _ _ => ?_
  refine safe_check (fun _ => trivial) fun _ _ => ?_
  exact safe_request (authorize_privileged hauth) (fun _ _ _ => trivial)
    fun _ _ w'' _ _ _ _ => safe_answer _ _

theorem retryDeployment_safe (now : Time) (a : Actor) (oid : Digest) (w : World) :
    SafeClient sha (retryDeployment now a oid) w := by
  refine safe_check (fun _ => trivial) fun _ hauth => ?_
  refine safe_request trivial (fun _ _ _ => trivial) fun failed _ w' _ _ _ _ => ?_
  refine safe_getRevision fun r w'' _ _ => ?_
  refine safe_check (fun _ => trivial) fun _ _ => ?_
  exact safe_request (authorize_privileged hauth) (fun _ _ _ => trivial)
    fun _ _ w'' _ _ _ _ => safe_answer _ _

/-- Everything that may be called is a safe client. -/
theorem entry_safe {p : Client} (hp : Entry p) (w : World) : SafeClient sha p w := by
  cases hp with
  | create now a cfg p => exact createRevision_safe now a cfg p w
  | submit now a rid v => exact submitRevision_safe now a rid v w
  | decide now a rid v d c => exact decideRevisionCall_safe now a rid v d c w
  | activate now a rid v => exact activateRevision_safe now a rid v w
  | rollback now a rid p => exact requestRollbackCall_safe now a rid p w
  | retry now a oid => exact retryDeployment_safe now a oid w
  | lease wk k t n =>
    exact safe_request trivial (fun _ _ _ => trivial) fun _ _ _ _ _ _ _ => safe_answer _ _
  | acknowledge wk o k f c r t =>
    exact safe_request trivial (fun _ _ _ => trivial) fun _ _ _ _ _ _ _ => safe_answer _ _
  | fail wk o k f d t r =>
    exact safe_request trivial (fun _ _ _ => trivial) fun _ _ _ _ _ _ _ => safe_answer _ _

/-- **Maker and checker.** In every configuration reachable by any interleaving
of service calls and worker calls, duties are separated. -/
theorem maker_checker {c : Config World Client} (h : ReachableWorld sha c) :
    MakerChecker sha c.shared :=
  (reachable_safe promised_refl promised_trans (fun _ _ _ _ _ => trivial)
    (fun _ hp w _ => entry_safe hp w) (fun _ _ _ he => he.elim)
    makerChecker_init h).1

/-! A run that gets as far as a deployment: one person drafts and submits a
revision, another approves and activates it. -/

def exampleActor (subject : String) (roles : List Role) : Actor :=
  { tenantId := "tenant-a", subject, displayName := subject, roles, groups := ["soc"]
    authenticatedAt := 1000, sessionIdDigest := 7, mfa := true }

def exampleConfiguration : ControlConfiguration :=
  { tenantId := "tenant-a", controlId := "edr-coverage", displayName := "EDR coverage"
    description := "Endpoint agents report", environment := .production, ownerGroup := "soc"
    controlProfileId := "edr", controlProfileDigest := 9
    source := .defender ⟨.global, "t", "c", "vault://client"⟩
    schedule := ⟨300, 0, 300, by decide, by decide, by decide, by decide⟩
    evidence := ⟨"custody://a", "kms://a", 365, false⟩, enabled := true }

/-- A digest for small runs: audit events are told apart by their position. -/
def exampleSha : Document → Digest
  | .event e => e.sequence
  | _ => 0

def exampleSchedule : List (Move Entry (fun (_ _ : World) => False) Unit) :=
  let alice := exampleActor "alice" [.editor]
  let bob := exampleActor "bob" [.approver, .deployer]
  [.start _ (.create 1000 alice exampleConfiguration none), .run 0 (), .crash 0,
   .start _ (.submit 1001 alice 0 0), .run 0 (), .run 0 (),
   .start _ (.decide 1002 bob 0 1 .approved "reviewed"), .run 0 (), .run 0 (),
   .start _ (.activate 1003 bob 0 none), .run 0 (), .run 0 ()]

def exampleRun : Config World Client :=
  exampleSchedule.foldl (fun c m => play (fun _ => transact exampleSha) m c)
    ⟨World.init, []⟩

theorem exampleRun_reachable : ReachableWorld exampleSha exampleRun :=
  play_reachable (fun _ _ _ => rfl) exampleSchedule

theorem maker_checker_exampleRun :
    exampleRun.shared.store.decisions.length = 1
      ∧ exampleRun.shared.store.operations.length = 1
      ∧ exampleRun.shared.store.deployments.length = 1
      ∧ MakerChecker exampleSha exampleRun.shared :=
  ⟨by decide, by decide, by decide,
    maker_checker exampleRun_reachable⟩

end ControlAssurance.ControlPlane
