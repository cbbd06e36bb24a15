import ControlAssurance.Lib.Transactions

/-!
# One client among the others

`Safe` is what every client promises the others. This file is about what one
client gets in return: its own calls are answered as `own` says (its
surroundings work, say), the others do whatever the system lets them do, and
the question is how the client ends.

`AlwaysEnds` is the statement about runs: wherever a run of the client among
the others has led, the client has its answer, which satisfies `post`, or its
next call has an answer and every answer of it keeps `guar`. A client is a
finite tree, so it ends after as many calls as the tree is deep.

`Completes` is the same thing by recursion over the client, with `rely` in the
place of the others; `completes_alwaysEnds` connects the two.
-/

namespace ControlAssurance.Lib

section

variable {S Call α : Type} {Res : Call → Type}
variable (exec own : (c : Call) → S → Res c → S → Prop)
variable (entry : Prog Call Res α → Prop) (env : S → S → Prop) (ok : S → Prop)

/-- A move of the others that leaves the state `ok`, or a call of the client. -/
inductive Alongside : Config S (Prog Call Res α) × Prog Call Res α →
    Config S (Prog Call Res α) × Prog Call Res α → Prop
  | others {c c' p} (h : Step exec entry env c c') (hok : ok c'.shared) :
      Alongside (c, p) (c', p)
  | own {c q k r s'} (h : own q c.shared r s') :
      Alongside (c, .call q k) (⟨s', c.clients⟩, k r)

/-- However the client is run among the others: it never gets stuck, its own
calls keep `guar`, and it ends with `post`. -/
def AlwaysEnds (guar : S → S → Prop) (post : α → S → Prop)
    (c : Config S (Prog Call Res α)) (p : Prog Call Res α) : Prop :=
  ∀ c' p', Relation.ReflTransGen (Alongside exec own entry env ok) (c, p) (c', p') →
    match p' with
    | .ret a => post a c'.shared
    | .call q _ => (∃ r s', own q c'.shared r s')
        ∧ ∀ r s', own q c'.shared r s' → guar c'.shared s'

variable (inv : S → Prop) (rely guar : S → S → Prop) (post : α → S → Prop)

/-- The client ends with `post` when the others move as `rely` says. -/
def Completes : Prog Call Res α → S → Prop
  | .ret a, s => ∀ s', rely s s' → inv s' → post a s'
  | .call c k, s => ∀ s', rely s s' → inv s' → (∃ r s'', own c s' r s'')
      ∧ ∀ r s'', own c s' r s'' → inv s'' ∧ rely s' s'' ∧ guar s' s'' ∧ Completes (k r) s''

end

section

variable {S Call α : Type} {Res : Call → Type}
variable {exec own : (c : Call) → S → Res c → S → Prop}
variable {entry : Prog Call Res α → Prop} {env : S → S → Prop} {ok : S → Prop}
variable {inv : S → Prop} {rely guar : S → S → Prop} {post : α → S → Prop}

theorem completes_mono (htrans : ∀ a b c, rely a b → rely b c → rely a c)
    {p : Prog Call Res α} {s s' : S} (h : Completes own inv rely guar post p s)
    (hrely : rely s s') : Completes own inv rely guar post p s' := by
  cases p with
  | ret a =>
    intro s₁ hs₁
    exact h s₁ (htrans _ _ _ hrely hs₁)
  | call c k =>
    intro s₁ hs₁
    exact h s₁ (htrans _ _ _ hrely hs₁)

/-- What one move of the client or of the others keeps. -/
theorem alongside_step (hrefl : ∀ s, rely s s) (htrans : ∀ a b c, rely a b → rely b c → rely a c)
    (hentry : ∀ p, entry p → ∀ s, inv s → Safe exec inv rely (fun _ _ => True) p s)
    (henv : ∀ s s', inv s → env s s' → inv s' ∧ rely s s')
    {x y : Config S (Prog Call Res α) × Prog Call Res α}
    (hstep : Alongside exec own entry env ok x y)
    (hinv : inv x.1.shared ∧ ok x.1.shared)
    (hsafe : ∀ p ∈ x.1.clients, Safe exec inv rely (fun _ _ => True) p x.1.shared)
    (hown : Completes own (fun s => inv s ∧ ok s) rely guar post x.2 x.1.shared) :
    (inv y.1.shared ∧ ok y.1.shared)
      ∧ (∀ p ∈ y.1.clients, Safe exec inv rely (fun _ _ => True) p y.1.shared)
      ∧ Completes own (fun s => inv s ∧ ok s) rely guar post y.2 y.1.shared := by
  cases hstep with
  | others h hok =>
    obtain ⟨hinv', hrely, hsafe'⟩ :=
      step_safe hrefl htrans (fun _ _ _ _ _ => trivial) hentry henv h hinv.1 hsafe
    exact ⟨⟨hinv', hok⟩, hsafe', completes_mono htrans hown hrely⟩
  | own h =>
    obtain ⟨_, hanswer⟩ := hown _ (hrefl _) hinv
    obtain ⟨hinv', hrely, _, hk⟩ := hanswer _ _ h
    refine ⟨hinv', fun p hp => ?_, hk⟩
    exact safe_mono htrans (fun _ _ _ _ _ => trivial) (hsafe p hp) hrely

/-- **A client that completes by the rule ends in every run.** -/
theorem completes_alwaysEnds (hrefl : ∀ s, rely s s)
    (htrans : ∀ a b c, rely a b → rely b c → rely a c)
    (hentry : ∀ p, entry p → ∀ s, inv s → Safe exec inv rely (fun _ _ => True) p s)
    (henv : ∀ s s', inv s → env s s' → inv s' ∧ rely s s')
    {c : Config S (Prog Call Res α)} (hinv : inv c.shared ∧ ok c.shared)
    (hsafe : ∀ p ∈ c.clients, Safe exec inv rely (fun _ _ => True) p c.shared)
    {p : Prog Call Res α}
    (hown : Completes own (fun s => inv s ∧ ok s) rely guar post p c.shared) :
    AlwaysEnds exec own entry env ok guar post c p := by
  intro c' p' hrun
  have hkept : ∀ y, Relation.ReflTransGen (Alongside exec own entry env ok) (c, p) y →
      (inv y.1.shared ∧ ok y.1.shared)
        ∧ (∀ p ∈ y.1.clients, Safe exec inv rely (fun _ _ => True) p y.1.shared)
        ∧ Completes own (fun s => inv s ∧ ok s) rely guar post y.2 y.1.shared := by
    intro y hy
    induction hy with
    | refl => exact ⟨hinv, hsafe, hown⟩
    | tail _ hstep ih =>
      exact alongside_step hrefl htrans hentry henv hstep ih.1 ih.2.1 ih.2.2
  obtain ⟨hinv', _, hcompletes⟩ := hkept _ hrun
  cases p' with
  | ret a => exact hcompletes _ (hrefl _) hinv'
  | call q k =>
    obtain ⟨hexists, hanswer⟩ := hcompletes _ (hrefl _) hinv'
    exact ⟨hexists, fun r s' h => (hanswer r s' h).2.2.1⟩

end

section

variable {S Call α : Type} {Res : Call → Type}

/-- The next `n` calls of the client, answered by a function. -/
def playAlone (run : (c : Call) → S → Res c × S) :
    Nat → Config S (Prog Call Res α) × Prog Call Res α →
      Config S (Prog Call Res α) × Prog Call Res α
  | n + 1, (c, .call q k) =>
    playAlone run n (⟨(run q c.shared).2, c.clients⟩, k (run q c.shared).1)
  | _, x => x

variable {exec own : (c : Call) → S → Res c → S → Prop}
variable {entry : Prog Call Res α → Prop} {env : S → S → Prop} {ok : S → Prop}

theorem playAlone_alongside {run : (c : Call) → S → Res c × S}
    (hrun : ∀ q s, own q s (run q s).1 (run q s).2) (n : Nat) :
    ∀ x, Relation.ReflTransGen (Alongside exec own entry env ok) x (playAlone run n x) := by
  induction n with
  | zero =>
    rintro ⟨c, _ | _⟩ <;> exact .refl
  | succ n ih =>
    rintro ⟨c, a | ⟨q, k⟩⟩
    · exact .refl
    · exact .head (.own (hrun q c.shared)) (ih _)

end

section

variable {S Call ε α β : Type} {Out : Call → Type}
variable {own : (c : Call) → S → Except ε (Out c) → S → Prop}
variable {inv : S → Prop} {rely guar : S → S → Prop} {post : Except ε β → S → Prop}

/-- A local check that passes. -/
theorem completes_check {x : Except ε α}
    {k : α → Prog Call (fun c => Except ε (Out c)) (Except ε β)} {s : S} {a : α}
    (hx : x = .ok a) (hk : Completes own inv rely guar post (k a) s) :
    Completes own inv rely guar post (Prog.check x k) s := by
  rw [hx]
  exact hk

/-- A local check that may raise, where raising is a good end. -/
theorem completes_check_or {x : Except ε α}
    {k : α → Prog Call (fun c => Except ε (Out c)) (Except ε β)} {s : S}
    (herror : ∀ e, x = .error e → ∀ s', post (.error e) s')
    (hk : ∀ a, x = .ok a → Completes own inv rely guar post (k a) s) :
    Completes own inv rely guar post (Prog.check x k) s := by
  cases x with
  | ok a => exact hk a rfl
  | error e => exact fun s' _ _ => herror e rfl s'

/-- A call that has an answer; what follows each answer completes. -/
theorem completes_requested {c : Call}
    {k : Out c → Prog Call (fun c => Except ε (Out c)) (Except ε β)} {s : S}
    (h : ∀ s', rely s s' → inv s' → (∃ r s'', own c s' r s'')
      ∧ ∀ r s'', own c s' r s'' → inv s'' ∧ rely s' s'' ∧ guar s' s''
        ∧ Completes own inv rely guar post (Prog.check r k) s'') :
    Completes own inv rely guar post (Prog.request c k) s :=
  h

end

end ControlAssurance.Lib
