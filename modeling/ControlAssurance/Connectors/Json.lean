import ControlAssurance.Attestation.Rfc8785
import ControlAssurance.Digests

/-!
# Documents as the connectors read them

Every connector loads a bounded document with `strict_json_loads`, checks the names of its objects
and then the type of each value it uses. What is common to them is here: the members of an object,
equality of documents, and equality up to the order of members (`Same`), which is what the
canonical form keeps of a document.
-/

namespace ControlAssurance.Connectors

open Lib Attestation

/-! ## Members -/

/-- `parsed[name]`, or `null` where there is none. -/
def member (members : Members) (name : String) : JsonValue :=
  (members.lookup (text name)).getD .null

/-- `required <= frozenset(parsed) <= required | optional` -/
def HasNames (members : Members) (required : List String) (optional : List String) : Prop :=
  (∀ name ∈ required, (members.lookup (text name)).isSome = true)
    ∧ ∀ entry ∈ members, ∃ name ∈ required ++ optional, entry.1 = text name

instance (members : Members) (required optional : List String) :
    Decidable (HasNames members required optional) := by
  delta HasNames; infer_instance

/-- `name in parsed` -/
def present (members : Members) (name : String) : Bool := (members.lookup (text name)).isSome

def textValue : JsonValue → Option Text
  | .string value => some value
  | _ => none

/-- `type(value) is int` -/
def intValue : JsonValue → Option Int
  | .int value => some value
  | _ => none

def itemsValue : JsonValue → Option (List JsonValue)
  | .list items => some items
  | _ => none

def membersValue : JsonValue → Option Members
  | .dict members => some members
  | _ => none

/-- Code points of a text that is known to the program. -/
def codes (value : List Char) : Text := value.map Char.toNat

/-- A text as characters. -/
def chars (value : Text) : List Char := value.map Char.ofNat

/-- The digits of a number in hexadecimal. -/
def hexText (width : Nat) (value : Nat) : Text :=
  (List.range width).map fun i => (Nat.digitChar (value / 16 ^ (width - 1 - i) % 16)).toNat

/-- `[a-f0-9]` -/
def isLowerHex (code : Nat) : Bool :=
  (0x30 ≤ code && code ≤ 0x39) || (0x61 ≤ code && code ≤ 0x66)

/-- `^sha256:[a-f0-9]{64}$` -/
def isDigestText (value : Text) : Bool :=
  value.length = 71 && value.take 7 = text "sha256:" && (value.drop 7).all isLowerHex

/-! ## Written documents -/

/-- An object. -/
def object (members : List (String × JsonValue)) : JsonValue :=
  .dict (members.map fun entry => (text entry.1, entry.2))

def literal (value : String) : JsonValue := .string (text value)

def digestJson (d : Digest) : JsonValue := .string (text "sha256:" ++ hexText 64 d.toNat)

theorem text_injective {a b : String} (h : text a = text b) : a = b := by
  have hlist : a.toList = b.toList := List.map_injective_iff.mpr
    (fun c d hcd => Char.toNat_inj.mp hcd) h
  exact String.toList_inj.mp hlist

/-- Names are looked up as the texts they are. -/
theorem lookup_names (members : List (String × JsonValue)) (name : String) :
    (members.map fun entry => (text entry.1, entry.2)).lookup (text name)
      = members.lookup name := by
  induction members with
  | nil => rfl
  | cons entry members ih =>
    rw [List.map_cons, List.lookup_cons, List.lookup_cons, ih]
    have hnames : (text name == text entry.1) = (name == entry.1) := by
      by_cases hname : name = entry.1
      · rw [hname, beq_self_eq_true, beq_self_eq_true]
      · rw [beq_eq_false_iff_ne.mpr hname, beq_eq_false_iff_ne]
        exact fun htext => hname (text_injective htext)
    rw [hnames]

/-! ## Equality -/

mutual

/-- The same document, member by member. -/
def identical : JsonValue → JsonValue → Bool
  | .null, .null => true
  | .bool a, .bool b => a == b
  | .int a, .int b => a == b
  | .float a, .float b => a == b
  | .string a, .string b => a == b
  | .list a, .list b => identicalItems a b
  | .dict a, .dict b => identicalMembers a b
  | _, _ => false

def identicalItems : List JsonValue → List JsonValue → Bool
  | [], [] => true
  | a :: as, b :: bs => identical a b && identicalItems as bs
  | _, _ => false

def identicalMembers : Members → Members → Bool
  | [], [] => true
  | (n, a) :: as, (m, b) :: bs => n == m && identical a b && identicalMembers as bs
  | _, _ => false

end

mutual

theorem identical_iff : ∀ {a b : JsonValue}, identical a b = true ↔ a = b
  | .null, b => by cases b <;> simp [identical]
  | .bool a, b => by cases b <;> simp [identical]
  | .int a, b => by cases b <;> simp [identical]
  | .float a, b => by cases b <;> simp [identical]
  | .string a, b => by cases b <;> simp [identical]
  | .list a, b => by
    cases b with
    | list b => rw [identical, identicalItems_iff, JsonValue.list.injEq]
    | _ => simp [identical]
  | .dict a, b => by
    cases b with
    | dict b => rw [identical, identicalMembers_iff, JsonValue.dict.injEq]
    | _ => simp [identical]

theorem identicalItems_iff : ∀ {a b : List JsonValue}, identicalItems a b = true ↔ a = b
  | [], b => by cases b <;> simp [identicalItems]
  | a :: as, [] => by simp [identicalItems]
  | a :: as, b :: bs => by
    rw [identicalItems, Bool.and_eq_true, identical_iff, identicalItems_iff, List.cons.injEq]

theorem identicalMembers_iff : ∀ {a b : Members}, identicalMembers a b = true ↔ a = b
  | [], b => by cases b <;> simp [identicalMembers]
  | (n, a) :: as, [] => by simp [identicalMembers]
  | (n, a) :: as, (m, b) :: bs => by
    rw [identicalMembers, Bool.and_eq_true, Bool.and_eq_true, beq_iff_eq, identical_iff,
      identicalMembers_iff, List.cons.injEq, Prod.mk.injEq]

end

instance : DecidableEq JsonValue := fun _ _ => decidable_of_iff _ identical_iff

/-! ## Equality up to the order of members -/

mutual

/-- The same document up to the order of its members: what the canonical form tells. -/
def Same : JsonValue → JsonValue → Prop
  | .list a, .list b => SameItems a b
  | .dict a, .dict b => a.length = b.length ∧ SameMembers a b
  | a, b => a = b

def SameItems : List JsonValue → List JsonValue → Prop
  | [], [] => True
  | a :: as, b :: bs => Same a b ∧ SameItems as bs
  | _, _ => False

/-- Every member of the first is one of the second. -/
def SameMembers : Members → Members → Prop
  | [], _ => True
  | (name, a) :: as, bs => (match bs.lookup name with
      | some b => Same a b
      | none => False) ∧ SameMembers as bs

end

theorem sameMembers_lookup : ∀ {as bs : Members} {name : Text} {a : JsonValue},
    SameMembers as bs → as.lookup name = some a → ∃ b, bs.lookup name = some b ∧ Same a b
  | [], _, _, _, _, h => by cases h
  | (n, v) :: as, bs, name, a, hsame, h => by
    rw [SameMembers] at hsame
    obtain ⟨hfirst, hrest⟩ := hsame
    rw [List.lookup_cons] at h
    split at h
    next hname =>
      obtain rfl := Option.some.inj h
      rw [eq_of_beq hname]
      split at hfirst
      next b hb => exact ⟨b, hb, hfirst⟩
      next => exact hfirst.elim
    next => exact sameMembers_lookup hrest h

mutual

/-- No object has two members of one name. -/
def distinctNames : JsonValue → Bool
  | .list items => itemsDistinct items
  | .dict members => decide (members.map (·.1)).Nodup && membersDistinct members
  | _ => true

def itemsDistinct : List JsonValue → Bool
  | [] => true
  | item :: items => distinctNames item && itemsDistinct items

def membersDistinct : Members → Bool
  | [] => true
  | (_, value) :: members => distinctNames value && membersDistinct members

end

theorem lookup_distinct {members : Members} (h : (members.map (·.1)).Nodup) :
    ∀ entry ∈ members, members.lookup entry.1 = some entry.2 := by
  induction members with
  | nil => exact fun _ hentry => absurd hentry List.not_mem_nil
  | cons first members ih =>
    obtain ⟨hfirst, hrest⟩ := List.nodup_cons.mp h
    intro entry hentry
    rcases List.mem_cons.mp hentry with rfl | hentry
    · exact List.lookup_cons_self
    · have hother : (entry.1 == first.1) = false := by
        rw [beq_eq_false_iff_ne]
        intro hsame
        exact hfirst (List.mem_map.mpr ⟨entry, hentry, hsame⟩)
      rw [List.lookup_cons, hother]
      exact ih hrest entry hentry

mutual

/-- A document is the same as itself. -/
theorem Same.refl : ∀ {value : JsonValue}, distinctNames value = true → Same value value
  | .null, _ | .bool _, _ | .int _, _ | .float _, _ | .string _, _ => by simp [Same]
  | .list items, h => by
    rw [Same]
    exact sameItems_refl h
  | .dict members, h => by
    rw [distinctNames, Bool.and_eq_true, decide_eq_true_iff] at h
    rw [Same]
    exact ⟨rfl, sameMembers_refl h.2 (lookup_distinct h.1)⟩

theorem sameItems_refl : ∀ {items : List JsonValue}, itemsDistinct items = true →
    SameItems items items
  | [], _ => by simp [SameItems]
  | item :: items, h => by
    rw [itemsDistinct, Bool.and_eq_true] at h
    rw [SameItems]
    exact ⟨Same.refl h.1, sameItems_refl h.2⟩

theorem sameMembers_refl : ∀ {members all : Members}, membersDistinct members = true →
    (∀ entry ∈ members, all.lookup entry.1 = some entry.2) → SameMembers members all
  | [], _, _, _ => by simp [SameMembers]
  | (name, value) :: members, all, h, hlookup => by
    rw [membersDistinct, Bool.and_eq_true] at h
    obtain ⟨hfirst, hrest⟩ := List.forall_mem_cons.mp hlookup
    rw [SameMembers, hfirst]
    exact ⟨Same.refl h.1, sameMembers_refl h.2 hrest⟩

end

/-- What an object has under a name, a same object has under it. -/
theorem Same.lookup {as : Members} {b : JsonValue} {name : Text} {a : JsonValue}
    (hsame : Same (.dict as) b) (h : as.lookup name = some a) :
    ∃ bs b', b = .dict bs ∧ bs.lookup name = some b' ∧ Same a b' := by
  cases b with
  | dict bs =>
    rw [Same] at hsame
    obtain ⟨b', hlookup, hb'⟩ := sameMembers_lookup hsame.2 h
    exact ⟨bs, b', rfl, hlookup, hb'⟩
  | _ => simp [Same] at hsame

theorem membersValue_eq {value : JsonValue} {members : Members}
    (h : membersValue value = some members) : value = .dict members := by
  cases value with
  | dict _ => exact congrArg _ (Option.some.inj h)
  | _ => cases h

/-- What a same object has under a name of a written object. -/
theorem Same.member {written : List (String × JsonValue)} {read : Members} (n : String)
    {value : JsonValue} (hsame : Same (object written) (.dict read))
    (h : written.lookup n = some value) : Same value (ControlAssurance.Connectors.member read n) := by
  obtain ⟨members, value', hread, hlookup, hvalue⟩ :=
    Same.lookup hsame ((lookup_names written n).trans h)
  obtain rfl := JsonValue.dict.inj hread
  rw [ControlAssurance.Connectors.member, hlookup]
  exact hvalue

theorem Same.int {n : Int} {b : JsonValue} (h : Same (.int n) b) : b = .int n := by
  simpa [Same] using h.symm

/-- Reading what was written gives the same document. -/
def ReadsBack (R : CanonicalRuntime) : Prop :=
  ∀ limits limits' value bytes value', value.FloatFree →
    canonicalJsonBytes R limits value = .ok bytes →
    strictJsonLoads R.toJsonRuntime limits' bytes = .ok value' → Same value value'

end ControlAssurance.Connectors
