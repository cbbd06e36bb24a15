import ControlAssurance.Lib.Checked
import ControlAssurance.Lib.Transactions

/-!
# Named clients of a transactional store

As `Transactions.lean`, with three additions. Every client has a name, and what the
others promise may depend on it: `rely id` is what the moves of the clients with other
names keep for the client named `id`, so a client can own a part of the state; `order` is
what every move keeps for everybody. Every call has a precondition, `pre id c`, that holds
whenever a client named `id` is about to make call `c`, however long it waits there. And a
client that has returned stays, so that a configuration shows every answer given so far.

`exclusive` says whether a name has at most one client running at a time. Where it does,
a client relies on nobody else acting under its name; where it does not, its rely has to
cover other clients of its own name too.
-/

namespace ControlAssurance.Lib

/-- The client has not returned. -/
def Prog.Live {Call α : Type} {Res : Call → Type} : Prog Call Res α → Prop
  | .ret _ => False
  | .call _ _ => True

instance {Call α : Type} {Res : Call → Type} : (p : Prog Call Res α) → Decidable p.Live
  | .ret _ => inferInstanceAs (Decidable False)
  | .call _ _ => inferInstanceAs (Decidable True)

section

variable {S Call α ι : Type} {Res : Call → Type}
variable (exec : (c : Call) → S → Res c → S → Prop)
variable (entry : ι → Prog Call Res α → Prop) (exclusive : Prop)

/-- One move: a client starts under a free name, makes its next call, or dies before it
has returned. -/
inductive NamedStep : Config S (ι × Prog Call Res α) → Config S (ι × Prog Call Res α) → Prop
  | start {s ps id p} (h : entry id p)
      (hfree : exclusive → ∀ q ∈ ps, q.1 = id → ¬q.2.Live) :
      NamedStep ⟨s, ps⟩ ⟨s, (id, p) :: ps⟩
  | run {s s' ps₁ ps₂ id c k r} (h : exec c s r s') :
      NamedStep ⟨s, ps₁ ++ (id, .call c k) :: ps₂⟩ ⟨s', ps₁ ++ (id, k r) :: ps₂⟩
  | crash {s ps₁ ps₂ p} (h : p.2.Live) : NamedStep ⟨s, ps₁ ++ p :: ps₂⟩ ⟨s, ps₁ ++ ps₂⟩

/-- Any number of moves. -/
def NamedSteps : Config S (ι × Prog Call Res α) → Config S (ι × Prog Call Res α) → Prop :=
  Relation.ReflTransGen (NamedStep exec entry exclusive)

variable (inv : S → Prop) (order : S → S → Prop) (rely : ι → S → S → Prop)
variable (pre : ι → Call → S → Prop) (post : α → S → Prop)

/-- Client `p` named `id`, resumed at any state later than `s`, makes only calls whose
precondition holds, keeps what it promises the others, and ends with an answer satisfying
`post`. -/
def NamedSafe (id : ι) : Prog Call Res α → S → Prop
  | .ret a, s => post a s
  | .call c k, s => ∀ s', rely id s s' → inv s' → pre id c s' ∧ ∀ r s'', exec c s' r s'' →
      inv s'' ∧ order s' s'' ∧ (∀ other, (exclusive → other ≠ id) → rely other s' s'')
        ∧ NamedSafe id (k r) s''

end

section

variable {S Call α ι : Type} {Res : Call → Type}
variable {exec : (c : Call) → S → Res c → S → Prop}
variable {entry : ι → Prog Call Res α → Prop} {exclusive : Prop}
variable {inv : S → Prop} {order : S → S → Prop} {rely : ι → S → S → Prop}
variable {pre : ι → Call → S → Prop} {post : α → S → Prop}

variable {id : ι} {ps₁ ps₂ : List (ι × Prog Call Res α)} {c c' : Config S (ι × Prog Call Res α)}

/-- What a client knew holds after a move of another one. -/
theorem namedSafe_mono (htrans : ∀ id a b c, rely id a b → rely id b c → rely id a c)
    (hpost : ∀ a s s', post a s → order s s' → post a s') {p : Prog Call Res α} {s s' : S}
    (h : NamedSafe exec exclusive inv order rely pre post id p s)
    (horder : order s s') (hrely : p.Live → rely id s s') :
    NamedSafe exec exclusive inv order rely pre post id p s' := by
  cases p with
  | ret a => exact hpost a s s' h horder
  | call c k =>
    intro s₁ hs₁
    exact h s₁ (htrans id _ _ _ (hrely trivial) hs₁)

/-- No two running clients have one name. -/
def Apart (ps : List (ι × Prog Call Res α)) : Prop :=
  ps.Pairwise fun p q => p.2.Live → q.2.Live → p.1 ≠ q.1

theorem apart_others {p q : ι × Prog Call Res α}
    (h : Apart (ps₁ ++ p :: ps₂)) (hp : p.2.Live) (hq : q ∈ ps₁ ++ ps₂) (hlive : q.2.Live) :
    q.1 ≠ p.1 := by
  unfold Apart at h
  rw [List.pairwise_append, List.pairwise_cons] at h
  obtain ⟨-, ⟨hafter, -⟩, hbefore⟩ := h
  rcases List.mem_append.mp hq with hq | hq
  · exact hbefore q hq p (List.mem_cons_self ..) hlive hp
  · exact Ne.symm (hafter q hq hp hlive)

/-- A client that makes a call keeps its name. -/
theorem apart_run {p p' : Prog Call Res α}
    (h : Apart (ps₁ ++ (id, p) :: ps₂)) (hp : p.Live) : Apart (ps₁ ++ (id, p') :: ps₂) := by
  unfold Apart at h ⊢
  rw [List.pairwise_append, List.pairwise_cons] at h ⊢
  obtain ⟨hps₁, ⟨hafter, hps₂⟩, hbefore⟩ := h
  refine ⟨hps₁, ⟨fun q hq _ => hafter q hq hp, hps₂⟩, ?_⟩
  intro a ha b hb hlive
  rcases List.mem_cons.mp hb with rfl | hb
  · exact fun _ => hbefore a ha (id, p) (List.mem_cons_self ..) hlive hp
  · exact hbefore a ha b (List.mem_cons_of_mem _ hb) hlive

theorem apart_crash {p : ι × Prog Call Res α} (h : Apart (ps₁ ++ p :: ps₂)) : Apart (ps₁ ++ ps₂) :=
  h.sublist (List.Sublist.append_left (List.sublist_cons_self ..) _)

/-- What holds in every configuration of a schedule. -/
structure Kept (exec : (c : Call) → S → Res c → S → Prop) (exclusive : Prop) (inv : S → Prop)
    (order : S → S → Prop) (rely : ι → S → S → Prop) (pre : ι → Call → S → Prop)
    (post : α → S → Prop) (c : Config S (ι × Prog Call Res α)) : Prop where
  holds : inv c.shared
  safe : ∀ p ∈ c.clients, NamedSafe exec exclusive inv order rely pre post p.1 p.2 c.shared
  apart : exclusive → Apart c.clients

/-- What one move keeps. -/
theorem namedStep_kept (horder : ∀ s, order s s) (hrefl : ∀ id s, rely id s s)
    (htrans : ∀ id a b c, rely id a b → rely id b c → rely id a c)
    (hpost : ∀ a s s', post a s → order s s' → post a s')
    (hentry : ∀ id p, entry id p → ∀ s, inv s →
      NamedSafe exec exclusive inv order rely pre post id p s)
    (hstep : NamedStep exec entry exclusive c c')
    (h : Kept exec exclusive inv order rely pre post c) :
    Kept exec exclusive inv order rely pre post c' ∧ order c.shared c'.shared := by
  cases hstep with
  | @start s ps id p hp hfree =>
    refine ⟨⟨h.holds, ?_, ?_⟩, horder s⟩
    · intro q hq
      rcases List.mem_cons.mp hq with rfl | hq
      · exact hentry _ _ hp _ h.holds
      · exact h.safe q hq
    · intro hexclusive
      refine List.pairwise_cons.mpr ⟨?_, h.apart hexclusive⟩
      intro q hq _ hlive hname
      exact hfree hexclusive q hq hname.symm hlive
  | @run s s' ps₁ ps₂ id call k r hexec =>
    have hp := h.safe (id, .call call k) (List.mem_append_right _ (List.mem_cons_self ..))
    obtain ⟨-, hcall⟩ := hp s (hrefl id s) h.holds
    obtain ⟨hinv, hlater, hothers, hk⟩ := hcall r s' hexec
    -- another client keeps what it knew
    have hother : ∀ q ∈ ps₁ ++ ps₂,
        NamedSafe exec exclusive inv order rely pre post q.1 q.2 s' := by
      intro q hq
      have hmem : q ∈ ps₁ ++ (id, Prog.call call k) :: ps₂ := by
        rcases List.mem_append.mp hq with hq | hq
        · exact List.mem_append_left _ hq
        · exact List.mem_append_right _ (List.mem_cons_of_mem _ hq)
      refine namedSafe_mono htrans hpost (h.safe q hmem) hlater ?_
      intro hlive
      exact hothers q.1 fun hexclusive => apart_others (h.apart hexclusive) trivial hq hlive
    refine ⟨⟨hinv, ?_, fun hexclusive => apart_run (h.apart hexclusive) trivial⟩, hlater⟩
    intro q hq
    rcases List.mem_append.mp hq with hq | hq
    · exact hother q (List.mem_append_left _ hq)
    · rcases List.mem_cons.mp hq with rfl | hq
      · exact hk
      · exact hother q (List.mem_append_right _ hq)
  | @crash s ps₁ ps₂ p hlive =>
    refine ⟨⟨h.holds, ?_, fun hexclusive => apart_crash (h.apart hexclusive)⟩, horder s⟩
    intro q hq
    apply h.safe q
    rcases List.mem_append.mp hq with hq | hq
    · exact List.mem_append_left _ hq
    · exact List.mem_append_right _ (List.mem_cons_of_mem _ hq)

/-- **The rule.** Where every client that may start is safe, every configuration a schedule
leads to has the invariant and only safe clients, of different names if names are
exclusive, and is later in `order`. -/
theorem namedSteps_kept (horder : ∀ s, order s s)
    (hordered : ∀ a b c, order a b → order b c → order a c) (hrefl : ∀ id s, rely id s s)
    (htrans : ∀ id a b c, rely id a b → rely id b c → rely id a c)
    (hpost : ∀ a s s', post a s → order s s' → post a s')
    (hentry : ∀ id p, entry id p → ∀ s, inv s →
      NamedSafe exec exclusive inv order rely pre post id p s)
    (hsteps : NamedSteps exec entry exclusive c c')
    (h : Kept exec exclusive inv order rely pre post c) :
    Kept exec exclusive inv order rely pre post c' ∧ order c.shared c'.shared := by
  induction hsteps with
  | refl => exact ⟨h, horder _⟩
  | tail _ hstep ih =>
    obtain ⟨hkept, hlater⟩ := namedStep_kept horder hrefl htrans hpost hentry hstep ih.1
    exact ⟨hkept, hordered _ _ _ ih.2 hlater⟩

/-- A schedule stays one when calls can do more. -/
theorem namedSteps_mono {exec' : (c : Call) → S → Res c → S → Prop}
    (hexec : ∀ c s r s', exec c s r s' → exec' c s r s')
    (h : NamedSteps exec entry exclusive c c') :
    NamedSteps exec' entry exclusive c c' := by
  refine Relation.ReflTransGen.mono ?_ _ _ h
  intro a b hstep
  cases hstep with
  | start hp hfree => exact .start hp hfree
  | run hrun => exact .run (hexec _ _ _ _ hrun)
  | crash hlive => exact .crash hlive

theorem kept_init {init : S} (hinit : inv init) :
    Kept exec exclusive inv order rely pre post
      (⟨init, []⟩ : Config S (ι × Prog Call Res α)) :=
  ⟨hinit, fun _ hp => absurd hp List.not_mem_nil, fun _ => List.Pairwise.nil⟩

/-- A client about to make a call has its precondition. -/
theorem Kept.ready (hrefl : ∀ id s, rely id s s)
    (h : Kept exec exclusive inv order rely pre post c) {call : Call}
    {k : Res call → Prog Call Res α} (hp : (id, .call call k) ∈ c.clients) :
    pre id call c.shared :=
  (h.safe _ hp _ (hrefl id _) h.holds).1

/-- A client that has returned has its postcondition. -/
theorem Kept.returned (h : Kept exec exclusive inv order rely pre post c) {a : α}
    (hp : (id, .ret a) ∈ c.clients) : post a c.shared :=
  h.safe _ hp

end

/-! ## Playing a given schedule -/

section

variable {S Call α ι Choice : Type} {Res : Call → Type} [DecidableEq ι]

/-- One move of a written schedule; `run i` lets client number `i` make its next call, and a
client starts only under a free name. -/
inductive NamedMove (entry : ι → Prog Call Res α → Prop) (Choice : Type) where
  | start (id : ι) (p : Prog Call Res α) (h : entry id p)
  | run (i : Nat) (choice : Choice)
  | crash (i : Nat)

variable {entry : ι → Prog Call Res α → Prop}
variable (run : Choice → (c : Call) → S → Option (Res c × S))

/-- A move that cannot be made, or whose choice does not fit, changes nothing. -/
def playNamed (m : NamedMove entry Choice) (c : Config S (ι × Prog Call Res α)) :
    Config S (ι × Prog Call Res α) :=
  match m with
  | .start id p _ =>
    if ∀ q ∈ c.clients, q.1 = id → ¬q.2.Live then ⟨c.shared, (id, p) :: c.clients⟩ else c
  | .run i choice =>
    match c.clients[i]? with
    | some (id, .call call k) =>
      match run choice call c.shared with
      | some (r, s') => ⟨s', c.clients.set i (id, k r)⟩
      | none => c
    | _ => c
  | .crash i =>
    match c.clients[i]? with
    | some (_, .call ..) => ⟨c.shared, c.clients.eraseIdx i⟩
    | _ => c

variable {run} {exec : (c : Call) → S → Res c → S → Prop} {exclusive : Prop}

theorem playNamed_step (hrun : ∀ choice c s r s', run choice c s = some (r, s') → exec c s r s')
    (m : NamedMove entry Choice) (c : Config S (ι × Prog Call Res α)) :
    playNamed run m c = c ∨ NamedStep exec entry exclusive c (playNamed run m c) := by
  obtain ⟨s, ps⟩ := c
  have hsplit : ∀ {i : Nat} {p : ι × Prog Call Res α}, ps[i]? = some p →
      i < ps.length ∧ ps = ps.take i ++ p :: ps.drop (i + 1) := by
    intro i p hi
    obtain ⟨hlt, hget⟩ := List.getElem?_eq_some_iff.mp hi
    refine ⟨hlt, ?_⟩
    rw [← hget, ← List.drop_eq_getElem_cons, List.take_append_drop]
  cases m with
  | start id p hp =>
    unfold playNamed
    dsimp only
    split
    next hfree => exact Or.inr (.start hp fun _ => hfree)
    next => exact Or.inl rfl
  | run i choice =>
    unfold playNamed
    dsimp only
    split
    next id call k hi =>
      obtain ⟨hlt, heq⟩ := hsplit hi
      split
      next r s' hr =>
        right
        rw [List.set_eq_take_append_cons_drop, if_pos hlt]
        conv => lhs; rw [heq]
        exact .run (hrun choice call s r s' hr)
      next => exact Or.inl rfl
    next => exact Or.inl rfl
  | crash i =>
    unfold playNamed
    dsimp only
    split
    next id call k hi =>
      obtain ⟨-, heq⟩ := hsplit hi
      right
      rw [List.eraseIdx_eq_take_drop_succ]
      conv => lhs; rw [heq]
      exact .crash trivial
    next => exact Or.inl rfl

/-- A written schedule is a run of the system. -/
theorem playNamed_steps (hrun : ∀ choice c s r s', run choice c s = some (r, s') → exec c s r s')
    (ms : List (NamedMove entry Choice)) (c : Config S (ι × Prog Call Res α)) :
    NamedSteps exec entry exclusive c (ms.foldl (fun c m => playNamed run m c) c) := by
  induction ms generalizing c with
  | nil => exact .refl
  | cons m ms ih =>
    rw [List.foldl_cons]
    have hrest := ih (playNamed run m c)
    rcases playNamed_step hrun m c with hsame | hstep
    · rw [hsame] at hrest ⊢
      exact hrest
    · exact .head hstep hrest

end

end ControlAssurance.Lib
