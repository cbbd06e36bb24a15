import Mathlib.Logic.Relation
import Mathlib.Data.List.Basic

/-!
# Clients of a transactional store, interleaved

A client is a `Prog`: a finite tree of atomic calls on a shared state, each
followed by a continuation on its answer. Any number of clients run at once;
between two calls of one client any others may run, a client may die at any
point, and the environment may move the shared state on its own. `Step` is
one such move and `Reachable` a whole schedule.

The proof rule is rely-guarantee with one preorder. `rely s s'` says what
every move of the system promises to keep from `s` to `s'`. `Safe post p s`
says that client `p`, resumed in any later state that satisfies the
invariant, makes only moves that keep the invariant and the promise, and
ends with an answer satisfying `post`. `reachable_safe` then gives the
invariant in every reachable configuration, with no reasoning about
interleavings left: what a client knows between two calls is what `rely`
carries forward.
-/

namespace ControlAssurance.Lib

/-- A client: return an answer, or make one atomic call and continue. -/
inductive Prog (Call : Type) (Res : Call → Type) (α : Type) where
  | ret (a : α)
  | call (c : Call) (k : Res c → Prog Call Res α)

namespace Prog

variable {Call : Type} {ε α β : Type} {Out : Call → Type}

/-- A local check that may raise. -/
def check (x : Except ε α) (k : α → Prog Call (fun c => Except ε (Out c)) (Except ε β)) :
    Prog Call (fun c => Except ε (Out c)) (Except ε β) :=
  match x with
  | .ok a => k a
  | .error e => .ret (.error e)

/-- A call whose exception is passed on. -/
def request (c : Call) (k : Out c → Prog Call (fun c => Except ε (Out c)) (Except ε β)) :
    Prog Call (fun c => Except ε (Out c)) (Except ε β) :=
  .call c fun r => check r k

end Prog

/-- The shared state and the clients still running on it. -/
structure Config (S P : Type) where
  shared : S
  clients : List P

section

variable {S Call α : Type} {Res : Call → Type}
variable (exec : (c : Call) → S → Res c → S → Prop)
variable (entry : Prog Call Res α → Prop) (env : S → S → Prop)

/-- One move: a client starts, makes its next call, dies, or the
environment acts. -/
inductive Step : Config S (Prog Call Res α) → Config S (Prog Call Res α) → Prop
  | start {s ps p} (h : entry p) : Step ⟨s, ps⟩ ⟨s, p :: ps⟩
  | run {s s' ps₁ ps₂ c k r} (h : exec c s r s') :
      Step ⟨s, ps₁ ++ .call c k :: ps₂⟩ ⟨s', ps₁ ++ k r :: ps₂⟩
  | crash {s ps₁ ps₂ p} : Step ⟨s, ps₁ ++ p :: ps₂⟩ ⟨s, ps₁ ++ ps₂⟩
  | environment {s s' ps} (h : env s s') : Step ⟨s, ps⟩ ⟨s', ps⟩

/-- Configurations some schedule leads to from `init` with no clients. -/
def Reachable (init : S) (c : Config S (Prog Call Res α)) : Prop :=
  Relation.ReflTransGen (Step exec entry env) ⟨init, []⟩ c

variable (inv : S → Prop) (rely : S → S → Prop) (post : α → S → Prop)

/-- Client `p`, resumed at any state later than `s`, keeps its promises. -/
def Safe : Prog Call Res α → S → Prop
  | .ret a, s => post a s
  | .call c k, s => ∀ s', rely s s' → inv s' → ∀ r s'', exec c s' r s'' →
      inv s'' ∧ rely s' s'' ∧ Safe (k r) s''

end

section

variable {S Call α : Type} {Res : Call → Type}
variable {exec : (c : Call) → S → Res c → S → Prop}
variable {entry : Prog Call Res α → Prop} {env : S → S → Prop}
variable {inv : S → Prop} {rely : S → S → Prop} {post : α → S → Prop}

/-- What a client was promised at `s` still holds at any later state. -/
theorem safe_mono (htrans : ∀ a b c, rely a b → rely b c → rely a c)
    (hpost : ∀ a s s', post a s → rely s s' → post a s')
    {p : Prog Call Res α} {s s' : S} (h : Safe exec inv rely post p s)
    (hrely : rely s s') : Safe exec inv rely post p s' := by
  cases p with
  | ret a => exact hpost a s s' h hrely
  | call c k =>
    intro s₁ hs₁
    exact h s₁ (htrans _ _ _ hrely hs₁)

/-- What one move keeps: the invariant, the safety of every client, and the
promise. -/
theorem step_safe (hrefl : ∀ s, rely s s) (htrans : ∀ a b c, rely a b → rely b c → rely a c)
    (hpost : ∀ a s s', post a s → rely s s' → post a s')
    (hentry : ∀ p, entry p → ∀ s, inv s → Safe exec inv rely post p s)
    (henv : ∀ s s', inv s → env s s' → inv s' ∧ rely s s')
    {c c' : Config S (Prog Call Res α)} (hstep : Step exec entry env c c')
    (hinv : inv c.shared) (hsafe : ∀ p ∈ c.clients, Safe exec inv rely post p c.shared) :
    inv c'.shared ∧ rely c.shared c'.shared ∧
      ∀ p ∈ c'.clients, Safe exec inv rely post p c'.shared := by
  cases hstep with
  | start hp =>
    refine ⟨hinv, hrefl _, ?_⟩
    intro q hq
    rcases List.mem_cons.mp hq with rfl | hq'
    · exact hentry _ hp _ hinv
    · exact hsafe q hq'
  | @run s s' ps₁ ps₂ c k r hexec =>
    have hp : Safe exec inv rely post (.call c k) s :=
      hsafe _ (List.mem_append_right _ (List.mem_cons_self ..))
    obtain ⟨hinv', hrely', hk⟩ := hp s (hrefl s) hinv r s' hexec
    refine ⟨hinv', hrely', ?_⟩
    intro q hq
    rcases List.mem_append.mp hq with hq₁ | hq₂
    · exact safe_mono htrans hpost (hsafe q (List.mem_append_left _ hq₁)) hrely'
    · rcases List.mem_cons.mp hq₂ with rfl | hq₃
      · exact hk
      · exact safe_mono htrans hpost
          (hsafe q (List.mem_append_right _ (List.mem_cons_of_mem _ hq₃))) hrely'
  | crash =>
    refine ⟨hinv, hrefl _, ?_⟩
    intro q hq
    rcases List.mem_append.mp hq with hq₁ | hq₂
    · exact hsafe q (List.mem_append_left _ hq₁)
    · exact hsafe q (List.mem_append_right _ (List.mem_cons_of_mem _ hq₂))
  | environment he =>
    obtain ⟨hinv', hrely'⟩ := henv _ _ hinv he
    exact ⟨hinv', hrely', fun q hq => safe_mono htrans hpost (hsafe q hq) hrely'⟩

/-- **The rely-guarantee rule.** If every client that may start is safe in
every state satisfying the invariant, and the environment keeps invariant and
promise, then every configuration a schedule leads to satisfies the invariant,
is later than the one it started from, and has only safe clients. -/
theorem steps_safe (hrefl : ∀ s, rely s s) (htrans : ∀ a b c, rely a b → rely b c → rely a c)
    (hpost : ∀ a s s', post a s → rely s s' → post a s')
    (hentry : ∀ p, entry p → ∀ s, inv s → Safe exec inv rely post p s)
    (henv : ∀ s s', inv s → env s s' → inv s' ∧ rely s s')
    {c c' : Config S (Prog Call Res α)}
    (h : Relation.ReflTransGen (Step exec entry env) c c')
    (hinv : inv c.shared) (hsafe : ∀ p ∈ c.clients, Safe exec inv rely post p c.shared) :
    inv c'.shared ∧ rely c.shared c'.shared ∧
      ∀ p ∈ c'.clients, Safe exec inv rely post p c'.shared := by
  induction h with
  | refl => exact ⟨hinv, hrefl _, hsafe⟩
  | tail _ hstep ih =>
    obtain ⟨hinv₁, hrely₁, hsafe₁⟩ := ih
    obtain ⟨hinv₂, hrely₂, hsafe₂⟩ :=
      step_safe hrefl htrans hpost hentry henv hstep hinv₁ hsafe₁
    exact ⟨hinv₂, htrans _ _ _ hrely₁ hrely₂, hsafe₂⟩

theorem reachable_safe (hrefl : ∀ s, rely s s)
    (htrans : ∀ a b c, rely a b → rely b c → rely a c)
    (hpost : ∀ a s s', post a s → rely s s' → post a s')
    (hentry : ∀ p, entry p → ∀ s, inv s → Safe exec inv rely post p s)
    (henv : ∀ s s', inv s → env s s' → inv s' ∧ rely s s')
    {init : S} (hinit : inv init) {c : Config S (Prog Call Res α)}
    (h : Reachable exec entry env init c) :
    inv c.shared ∧ rely init c.shared ∧
      ∀ p ∈ c.clients, Safe exec inv rely post p c.shared :=
  steps_safe hrefl htrans hpost hentry henv h hinit fun p hp => by cases hp

end

section

variable {S Call ε α β : Type} {Out : Call → Type}
variable {exec : (c : Call) → S → Except ε (Out c) → S → Prop}
variable {inv : S → Prop} {rely : S → S → Prop} {post : Except ε β → S → Prop}

/-- A local check is safe when its continuation is, wherever it passes. -/
theorem safe_check {x : Except ε α}
    {k : α → Prog Call (fun c => Except ε (Out c)) (Except ε β)} {s : S}
    (hpost : ∀ e, post (.error e) s)
    (hk : ∀ a, x = .ok a → Safe exec inv rely post (k a) s) :
    Safe exec inv rely post (Prog.check x k) s := by
  cases x with
  | ok a => exact hk a rfl
  | error e => exact hpost e

/-- A call is safe when it keeps invariant and promise, and its continuation is
safe after every answer. -/
theorem safe_requested {c : Call}
    {k : Out c → Prog Call (fun c => Except ε (Out c)) (Except ε β)} {s : S}
    (hpost : ∀ e s, post (.error e) s)
    (h : ∀ s', rely s s' → inv s' → ∀ r s'', exec c s' r s'' → inv s'' ∧ rely s' s''
      ∧ ∀ a, r = .ok a → Safe exec inv rely post (k a) s'') :
    Safe exec inv rely post (Prog.request c k) s := by
  intro s' hrely hinv r s'' hexec
  obtain ⟨hinv', hrely', hk⟩ := h s' hrely hinv r s'' hexec
  exact ⟨hinv', hrely', safe_check (fun e => hpost e s'') hk⟩

end

/-! ## Playing a given schedule

A schedule written as a list of moves, for systems whose calls can be computed
once the choices of the environment (`Choice`) are given. -/

section

variable {S Call α Choice : Type} {Res : Call → Type}

/-- One move of a written schedule; `run i` lets client number `i` make its
next call. -/
inductive Move (entry : Prog Call Res α → Prop) (env : S → S → Prop) (Choice : Type) where
  | start (p : Prog Call Res α) (h : entry p)
  | run (i : Nat) (choice : Choice)
  | crash (i : Nat)
  | environment (act : S → Option S) (h : ∀ s s', act s = some s' → env s s')

variable {entry : Prog Call Res α → Prop} {env : S → S → Prop}
variable (run : Choice → (c : Call) → S → Res c × S)

/-- A move that cannot be made changes nothing. -/
def play (m : Move entry env Choice) (c : Config S (Prog Call Res α)) :
    Config S (Prog Call Res α) :=
  match m with
  | .start p _ => ⟨c.shared, p :: c.clients⟩
  | .run i choice =>
    match c.clients[i]? with
    | some (.call call k) =>
      ⟨(run choice call c.shared).2, c.clients.set i (k (run choice call c.shared).1)⟩
    | _ => c
  | .crash i => ⟨c.shared, c.clients.eraseIdx i⟩
  | .environment act _ =>
    match act c.shared with
    | some s' => ⟨s', c.clients⟩
    | none => c

/-- Every move of the schedule is as `R` says. -/
def Along (R : Config S (Prog Call Res α) → Config S (Prog Call Res α) → Prop) :
    List (Move entry env Choice) → Config S (Prog Call Res α) → Prop
  | [], _ => True
  | m :: ms, c => R c (play run m c) ∧ Along R ms (play run m c)

instance decidableAlong (R : Config S (Prog Call Res α) → Config S (Prog Call Res α) → Prop)
    [∀ a b, Decidable (R a b)] :
    (ms : List (Move entry env Choice)) → (c : Config S (Prog Call Res α)) →
      Decidable (Along run R ms c)
  | [], _ => inferInstanceAs (Decidable True)
  | m :: ms, c =>
    have := decidableAlong R ms (play run m c)
    inferInstanceAs (Decidable (_ ∧ _))

variable {run}
variable {exec : (c : Call) → S → Res c → S → Prop}

theorem play_step (hrun : ∀ choice c s, exec c s (run choice c s).1 (run choice c s).2)
    (m : Move entry env Choice) (c : Config S (Prog Call Res α)) :
    play run m c = c ∨ Step exec entry env c (play run m c) := by
  obtain ⟨s, ps⟩ := c
  cases m with
  | start p hp => exact Or.inr (.start hp)
  | run i choice =>
    unfold play
    dsimp only
    split
    next call k hi =>
      obtain ⟨hlt, hget⟩ := List.getElem?_eq_some_iff.mp hi
      have hsplit : ps = ps.take i ++ .call call k :: ps.drop (i + 1) := by
        rw [← hget, ← List.drop_eq_getElem_cons, List.take_append_drop]
      right
      rw [List.set_eq_take_append_cons_drop, if_pos hlt]
      conv => lhs; rw [hsplit]
      exact .run (hrun choice call s)
    next => exact Or.inl rfl
  | crash i =>
    show (⟨s, ps.eraseIdx i⟩ : Config S _) = ⟨s, ps⟩ ∨ Step exec entry env _ ⟨s, ps.eraseIdx i⟩
    by_cases hlt : i < ps.length
    · have hsplit : ps = ps.take i ++ ps[i] :: ps.drop (i + 1) := by
        rw [← List.drop_eq_getElem_cons, List.take_append_drop]
      right
      rw [List.eraseIdx_eq_take_drop_succ]
      conv => lhs; rw [hsplit]
      exact .crash
    · rw [List.eraseIdx_of_length_le (Nat.le_of_not_lt hlt)]
      exact Or.inl rfl
  | environment act h =>
    unfold play
    dsimp only
    split
    next s' hact => exact Or.inr (.environment (h s s' hact))
    next => exact Or.inl rfl

/-- A written schedule whose moves are as `R` says is a run of such steps. -/
theorem play_along (hrun : ∀ choice c s, exec c s (run choice c s).1 (run choice c s).2)
    {R : Config S (Prog Call Res α) → Config S (Prog Call Res α) → Prop}
    (ms : List (Move entry env Choice)) {c : Config S (Prog Call Res α)}
    (h : Along run R ms c) :
    Relation.ReflTransGen (fun a b => Step exec entry env a b ∧ R a b) c
      (ms.foldl (fun c m => play run m c) c) := by
  induction ms generalizing c with
  | nil => exact .refl
  | cons m ms ih =>
    rw [List.foldl_cons]
    have hrest := ih h.2
    rcases play_step hrun m c with hsame | hstep
    · rw [hsame] at hrest ⊢
      exact hrest
    · exact .head ⟨hstep, h.1⟩ hrest

/-- A written schedule leads to a reachable configuration. -/
theorem play_reachable
    (hrun : ∀ choice c s, exec c s (run choice c s).1 (run choice c s).2) {init : S}
    (ms : List (Move entry env Choice)) :
    Reachable exec entry env init (ms.foldl (fun c m => play run m c) ⟨init, []⟩) := by
  have hall : ∀ (ms : List (Move entry env Choice)) (c : Config S (Prog Call Res α)),
      Along run (fun _ _ => True) ms c := by
    intro ms
    induction ms with
    | nil => exact fun _ => trivial
    | cons m ms ih => exact fun c => ⟨trivial, ih _⟩
  exact Relation.ReflTransGen.mono (fun _ _ h => h.1) _ _ (play_along hrun ms (hall ms _))

end

end ControlAssurance.Lib
