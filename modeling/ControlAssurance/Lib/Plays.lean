import ControlAssurance.Lib.Transactions

/-!
# One client from its start to its end

`Plays` is a whole run of one client: the calls it made, each with the state it
was made in and the state it left, and the answer it ended with. Between two of
its calls the others move the shared state as `others` allows; with equality for
`others` the client is alone.

A client that is a sequence of checks and requests is read from the front:
`plays_check` and `plays_request` say how its run begins.
-/

namespace ControlAssurance.Lib

/-- A call that was made. -/
structure Made (S Call : Type) (Res : Call → Type) where
  call : Call
  before : S
  answer : Res call
  after : S

section

variable {S Call α : Type} {Res : Call → Type}
variable (exec : (c : Call) → S → Res c → S → Prop) (others : S → S → Prop)

/-- The client, started in one state, makes the calls and ends with an answer in another. -/
inductive Plays : Prog Call Res α → S → List (Made S Call Res) → α → S → Prop
  | ret {a s} : Plays (.ret a) s [] a s
  | call {c k s before answer after made a s'} (hothers : others s before)
      (hexec : exec c before answer after) (hrest : Plays (k answer) after made a s') :
      Plays (.call c k) s (⟨c, before, answer, after⟩ :: made) a s'

/-- Some run of the client ends with the answer. -/
def Ends (p : Prog Call Res α) (s : S) (a : α) : Prop :=
  ∃ made s', Plays exec others p s made a s'

variable {exec others}

theorem plays_ret {a b : α} {s s' : S} {made : List (Made S Call Res)}
    (h : Plays exec others (.ret a) s made b s') : made = [] ∧ b = a ∧ s' = s := by
  cases h
  exact ⟨rfl, rfl, rfl⟩

/-- A client whose calls are all answered ends: it is a finite tree. -/
theorem plays_exists (hexec : ∀ c s, ∃ answer s', exec c s answer s') (hrefl : ∀ s, others s s) :
    ∀ (p : Prog Call Res α) (s : S), ∃ made a s', Plays exec others p s made a s'
  | .ret a, s => ⟨[], a, s, .ret⟩
  | .call c k, s => by
    obtain ⟨answer, after, hanswer⟩ := hexec c s
    obtain ⟨made, a, s', hrest⟩ := plays_exists hexec hrefl (k answer) after
    exact ⟨_, a, s', .call (hrefl s) hanswer hrest⟩

/-- What every call keeps, and the others keep, a whole run keeps. -/
theorem Plays.keeps {inv : S → Prop} (hothers : ∀ s s', inv s → others s s' → inv s')
    (hexec : ∀ c s answer s', inv s → exec c s answer s' → inv s') {p : Prog Call Res α} {s s' : S}
    {made : List (Made S Call Res)} {a : α} (h : Plays exec others p s made a s') (hs : inv s) :
    inv s' := by
  induction h with
  | ret => exact hs
  | call hother hcall _ ih => exact ih (hexec _ _ _ _ (hothers _ _ hs hother) hcall)

/-- Every call of a run was made where what is kept holds. -/
theorem Plays.made_in (inv : S → Prop) (hothers : ∀ s s', inv s → others s s' → inv s')
    (hexec : ∀ c s answer s', inv s → exec c s answer s' → inv s') {p : Prog Call Res α} {s s' : S}
    {made : List (Made S Call Res)} {a : α} (h : Plays exec others p s made a s') (hs : inv s) :
    ∀ x ∈ made, inv x.before ∧ exec x.call x.before x.answer x.after := by
  induction h with
  | ret => exact fun _ hx => absurd hx List.not_mem_nil
  | call hother hcall hrest ih =>
    have hbefore := hothers _ _ hs hother
    intro x hx
    rcases List.mem_cons.mp hx with rfl | hx
    · exact ⟨hbefore, hcall⟩
    · exact ih (hexec _ _ _ _ hbefore hcall) x hx

/-- What holds after one call of a run, and is kept, holds at its end. -/
theorem Plays.keeps_after {inv : S → Prop} (hothers : ∀ s s', inv s → others s s' → inv s')
    (hexec : ∀ c s answer s', inv s → exec c s answer s' → inv s') {p : Prog Call Res α} {s s' : S}
    {made : List (Made S Call Res)} {a : α} (h : Plays exec others p s made a s') :
    ∀ x ∈ made, inv x.after → inv s' := by
  induction h with
  | ret => exact fun _ hx => absurd hx List.not_mem_nil
  | call hother hcall hrest ih =>
    intro x hx hinv
    rcases List.mem_cons.mp hx with rfl | hx
    · exact hrest.keeps hothers hexec hinv
    · exact ih x hx hinv

end

section

variable {S Call ε α β : Type} {Out : Call → Type}
variable {exec : (c : Call) → S → Except ε (Out c) → S → Prop} {others : S → S → Prop}
variable {s s' : S} {made : List (Made S Call fun c => Except ε (Out c))} {b : Except ε β}

/-- The client can only end with an exception. -/
def OnlyRaises {Call : Type} {Res : Call → Type} {ε β : Type} :
    Prog Call Res (Except ε β) → Prop
  | .ret r => ∃ e, r = .error e
  | .call _ k => ∀ answer, OnlyRaises (k answer)

theorem OnlyRaises.raised {Call : Type} {Res : Call → Type} {ε β : Type}
    {exec : (c : Call) → S → Res c → S → Prop} {p : Prog Call Res (Except ε β)} (h : OnlyRaises p)
    {made : List (Made S Call Res)} {r : Except ε β} (hplays : Plays exec others p s made r s') :
    ∃ e, r = .error e := by
  induction hplays with
  | ret => exact h
  | call _ _ _ ih => exact ih (h _)

/-- A local check raises at once, or the rest is run. -/
theorem plays_check {x : Except ε α}
    {k : α → Prog Call (fun c => Except ε (Out c)) (Except ε β)}
    (h : Plays exec others (Prog.check x k) s made b s') :
    (∃ e, x = .error e ∧ made = [] ∧ b = .error e ∧ s' = s)
      ∨ ∃ a, x = .ok a ∧ Plays exec others (k a) s made b s' := by
  cases x with
  | ok a => exact .inr ⟨a, rfl, h⟩
  | error e =>
    obtain ⟨rfl, rfl, rfl⟩ := plays_ret h
    exact .inl ⟨e, rfl, rfl, rfl, rfl⟩

/-- A request is answered, and the rest is run, or its exception ends the run. -/
theorem plays_request {c : Call} {k : Out c → Prog Call (fun c => Except ε (Out c)) (Except ε β)}
    (h : Plays exec others (Prog.request c k) s made b s') :
    ∃ before answer after rest, others s before ∧ exec c before answer after
      ∧ made = ⟨c, before, answer, after⟩ :: rest
      ∧ ((∃ e, answer = .error e ∧ rest = [] ∧ b = .error e ∧ s' = after)
        ∨ ∃ a, answer = .ok a ∧ Plays exec others (k a) after rest b s') := by
  cases h with
  | call hothers hexec hrest =>
    refine ⟨_, _, _, _, hothers, hexec, rfl, ?_⟩
    rcases plays_check hrest with ⟨e, rfl, rfl, rfl, rfl⟩ | ⟨a, rfl, hrest⟩
    · exact .inl ⟨e, rfl, rfl, rfl, rfl⟩
    · exact .inr ⟨a, rfl, hrest⟩

/-- A check that passes is no part of the run. -/
theorem plays_passed {x : Except ε α} {a : α}
    {k : α → Prog Call (fun c => Except ε (Out c)) (Except ε β)} (hx : x = .ok a)
    (h : Plays exec others (Prog.check x k) s made b s') : Plays exec others (k a) s made b s' := by
  rw [hx] at h
  exact h

/-- A check that passes. -/
theorem ends_checked {x : Except ε α} {a : α}
    {k : α → Prog Call (fun c => Except ε (Out c)) (Except ε β)} (hx : x = .ok a)
    (hrest : Ends exec others (k a) s b) : Ends exec others (Prog.check x k) s b := by
  rw [hx]
  exact hrest

/-- A request that is answered. -/
theorem ends_answered {c : Call} {k : Out c → Prog Call (fun c => Except ε (Out c)) (Except ε β)}
    {before after : S} {a : Out c} (hothers : others s before)
    (hexec : exec c before (.ok a) after) (hrest : Ends exec others (k a) after b) :
    Ends exec others (Prog.request c k) s b := by
  obtain ⟨made, s', hplays⟩ := hrest
  exact ⟨_, s', .call hothers hexec hplays⟩

/-- A request whose exception ends the run. -/
theorem ends_raised {c : Call} {k : Out c → Prog Call (fun c => Except ε (Out c)) (Except ε β)}
    {before after : S} {e : ε} (hothers : others s before)
    (hexec : exec c before (.error e) after) :
    Ends exec others (Prog.request c k) s (.error e) :=
  ⟨_, after, .call hothers hexec .ret⟩

end

end ControlAssurance.Lib
