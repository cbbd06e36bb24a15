import Mathlib.Data.List.Induction
import Mathlib.Order.Lattice

/-!
# Fenced leases

The abstract protocol behind a row that workers take turns to hold. A resource
is granted for a limited time under a fence number, one higher at each grant;
the holder of the running grant may release it while it lasts, for another try
or for good; a grant that ran out may be replaced by a new one, or closed by
whoever notices (`lapse`). `Step` is one event on the resource and `History h s`
says that the events `h`, in order, lead from a fresh resource to `s`.

What the fence is for are three facts about histories: the fences of the grants
count up from one, a release directly follows the grant it names, and a final
event is the last one.
-/

namespace ControlAssurance.Lib.FencedLease

/-- One lease as it was granted. -/
structure Grant (W T τ : Type) where
  owner : W
  token : T
  fence : Nat
  since : τ
  expires : τ

inductive Event (W T τ : Type) where
  | grant (g : Grant W T τ)
  | release (owner : W) (token : T) (fence : Nat) (time : τ) (final : Bool)
  | lapse (fence : Nat) (time : τ)

/-- The resource: the last fence given out, who holds it, and whether it is
closed for good. -/
structure Lease (W T τ : Type) where
  fence : Nat
  holder : Option (Grant W T τ)
  closed : Bool

variable {W T τ : Type}

def Lease.fresh : Lease W T τ := ⟨0, none, false⟩

/-- The fences handed out in a history, in order. -/
def grantedFences : List (Event W T τ) → List Nat
  | [] => []
  | .grant g :: h => g.fence :: grantedFences h
  | _ :: h => grantedFences h

/-- Nothing follows these. -/
def Event.isFinal : Event W T τ → Bool
  | .grant _ => false
  | .release _ _ _ _ final => final
  | .lapse _ _ => true

variable [LinearOrder τ]

inductive Step (s : Lease W T τ) : Event W T τ → Lease W T τ → Prop
  | grant {g} (running : s.closed = false) (next : g.fence = s.fence + 1)
      (free : ∀ g₀, s.holder = some g₀ → g₀.expires ≤ g.since) :
      Step s (.grant g) ⟨g.fence, some g, false⟩
  | release {g t final} (held : s.holder = some g) (live : t < g.expires) :
      Step s (.release g.owner g.token g.fence t final) ⟨s.fence, none, final⟩
  | lapse {g t} (held : s.holder = some g) (due : g.expires ≤ t) :
      Step s (.lapse g.fence t) ⟨s.fence, none, true⟩

inductive History : List (Event W T τ) → Lease W T τ → Prop
  | nil : History [] Lease.fresh
  | snoc {h s e s'} (past : History h s) (step : Step s e s') : History (h ++ [e]) s'

variable {s : Lease W T τ} {h : List (Event W T τ)}

/-- Only a resource that is open or held takes an event. -/
theorem Step.running {s' : Lease W T τ} {e : Event W T τ} (h : Step s e s') :
    s.closed = false ∨ ∃ g, s.holder = some g := by
  cases h with
  | grant running => exact Or.inl running
  | release held => exact Or.inr ⟨_, held⟩
  | lapse held => exact Or.inr ⟨_, held⟩

omit [LinearOrder τ] in
theorem grantedFences_append (h₁ h₂ : List (Event W T τ)) :
    grantedFences (h₁ ++ h₂) = grantedFences h₁ ++ grantedFences h₂ := by
  induction h₁ with
  | nil => rfl
  | cons e h ih =>
    cases e with
    | grant g =>
      show g.fence :: grantedFences (h ++ h₂) = g.fence :: grantedFences h ++ grantedFences h₂
      rw [ih]
      rfl
    | release o k f t b => exact ih
    | lapse f t => exact ih

omit [LinearOrder τ] in
theorem grantedFences_flatMap (attempt : Nat → List (Event W T τ)) (fences : List Nat) :
    grantedFences (fences.flatMap attempt)
      = fences.flatMap fun f => grantedFences (attempt f) := by
  induction fences with
  | nil => rfl
  | cons f fences ih => rw [List.flatMap_cons, grantedFences_append, ih, List.flatMap_cons]

/-- The grants of a history are numbered from one without a gap, and the last
number is the resource's fence. -/
theorem History.fences (hh : History h s) :
    grantedFences h = List.range' 1 s.fence := by
  induction hh with
  | nil => rfl
  | snoc _ step ih =>
    rw [grantedFences_append, ih]
    cases step with
    | grant _ next _ =>
      show List.range' 1 _ ++ [_] = List.range' 1 _
      rw [next, List.range'_concat, Nat.one_mul, Nat.add_comm]
    | release => exact List.append_nil _
    | lapse => exact List.append_nil _

/-- Who holds the resource was granted it by the last event. -/
theorem History.holder {g : Grant W T τ}
    (hh : History h s) (hg : s.holder = some g) : h.getLast? = some (.grant g) := by
  cases hh with
  | nil => cases hg
  | snoc _ step =>
    rw [List.getLast?_concat]
    cases step with
    | grant =>
      cases hg
      rfl
    | release => cases hg
    | lapse => cases hg

/-- The resource is closed exactly when a final event happened, and then only
one did. -/
theorem History.finals (hh : History h s) :
    h.countP Event.isFinal = if s.closed then 1 else 0 := by
  -- a closed resource has no holder and takes no grant, so nothing follows
  have key : ∀ {h : List (Event W T τ)} {s}, History h s →
      h.countP Event.isFinal = (if s.closed then 1 else 0)
        ∧ (s.closed = true → s.holder = none) := by
    intro h s hh
    induction hh with
    | nil => exact ⟨rfl, fun hc => by cases hc⟩
    | snoc _ step ih =>
      obtain ⟨ihc, ihh⟩ := ih
      rw [List.countP_append, ihc]
      cases step with
      | grant running => simp [running, Event.isFinal]
      | @release g t final held =>
        have hopen : ¬ _ = true := fun hc => by
          rw [ihh hc] at held
          cases held
        cases final <;> simp [hopen, Event.isFinal]
      | lapse held =>
        have hopen : ¬ _ = true := fun hc => by
          rw [ihh hc] at held
          cases held
        simp [hopen, Event.isFinal]
  exact (key hh).1

/-- Every event of a history was a step when it happened. -/
theorem History.split {h₁ h₂ : List (Event W T τ)} {e : Event W T τ}
    (hh : History (h₁ ++ e :: h₂) s) : ∃ s₀ s₁, History h₁ s₀ ∧ Step s₀ e s₁ := by
  induction h₂ using List.reverseRecOn generalizing s with
  | nil =>
    generalize hl : h₁ ++ [e] = l at hh
    cases hh with
    | nil => simp at hl
    | snoc past step =>
      obtain ⟨rfl, he⟩ := List.append_inj' hl rfl
      cases he
      exact ⟨_, _, past, step⟩
  | append_singleton h₂ e' ih =>
    generalize hl : h₁ ++ e :: (h₂ ++ [e']) = l at hh
    cases hh with
    | nil => simp at hl
    | snoc past step =>
      rw [← List.cons_append, ← List.append_assoc] at hl
      obtain ⟨rfl, _⟩ := List.append_inj' hl rfl
      exact ih past

/-- A release names the grant that was made by the event directly before it,
and comes in its time. -/
theorem Step.released {s' : Lease W T τ} {o : W} {k : T}
    {f : Nat} {t : τ} {final : Bool} (hh : History h s)
    (step : Step s (.release o k f t final) s') :
    ∃ g, h.getLast? = some (.grant g) ∧ g.owner = o ∧ g.token = k ∧ g.fence = f
      ∧ f = s.fence ∧ t < g.expires := by
  cases step with
  | @release g _ _ held live =>
    have hlast := hh.holder held
    refine ⟨g, hlast, rfl, rfl, rfl, ?_, live⟩
    cases hh with
    | nil => cases held
    | snoc _ step =>
      cases step with
      | grant =>
        cases held
        rfl
      | release => cases held
      | lapse => cases held

end ControlAssurance.Lib.FencedLease
