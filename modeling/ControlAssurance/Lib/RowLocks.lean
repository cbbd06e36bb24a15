import ControlAssurance.Lib.Owned

/-!
# Transactions that interleave statement by statement

A database keeps its committed rows and, for every session, the lock it holds and the writes
of its open transaction. A statement sees the committed rows of its own moment with the
session's writes over them (read committed); it waits while another session holds a lock
that conflicts with the one it asks for. A commit publishes the writes, and a session that
fails gives up its lock and its writes. There is one lock, with a shared and an exclusive
mode: the row every transaction of interest locks first.

A transaction is a `Prog` of statements. The rule has two modes. Until it holds a lock it is
`Waiting`: the rows may change between two of its statements, so nothing it has read is
known to hold. Once it holds the lock it is `Holding`: nobody can commit under it, so the
rest of it runs as if it were alone. `transaction_safe` puts the two together, and
`steps_serial` gives what is wanted: the committed history of any schedule is a sequence of
transactions, each of which ran alone on the rows the one before it left.
-/

namespace ControlAssurance.Lib

/-! ## Locks -/

inductive Lock where
  | free | share | exclusive
deriving DecidableEq

/-- Two sessions cannot hold these at once. -/
def Lock.conflicts : Lock → Lock → Bool
  | .free, _ => false
  | _, .free => false
  | .share, .share => false
  | _, _ => true

/-- The stronger of two locks. -/
def Lock.join : Lock → Lock → Lock
  | .exclusive, _ => .exclusive
  | _, .exclusive => .exclusive
  | .share, _ => .share
  | .free, l => l

theorem Lock.conflicts_comm (l m : Lock) : l.conflicts m = m.conflicts l := by
  cases l <;> cases m <;> rfl

theorem Lock.free_join (l : Lock) : Lock.free.join l = l := by
  cases l <;> rfl

theorem Lock.join_ne_free {l : Lock} (h : l ≠ .free) (m : Lock) : l.join m ≠ .free := by
  cases l <;> cases m <;> simp_all [Lock.join]

/-- Whoever holds the exclusive lock is alone with it. -/
theorem Lock.free_of_exclusive {l : Lock} (h : Lock.exclusive.conflicts l = false) :
    l = .free := by
  cases l <;> simp_all [Lock.conflicts]

/-! ## The database -/

/-- What a session's open transaction holds. -/
structure Session (W : Type) where
  lock : Lock
  writes : List W

/-- No transaction is open. -/
def Session.idle {W : Type} : Session W := ⟨.free, []⟩

/-- A statement took a lock and wrote. -/
def Session.extend {W : Type} (t : Session W) (l : Lock) (ws : List W) : Session W :=
  ⟨t.lock.join l, t.writes ++ ws⟩

theorem Session.idle_extend {W : Type} (l : Lock) (ws : List W) :
    Session.idle.extend l ws = ⟨l, ws⟩ := by
  unfold Session.idle Session.extend
  rw [Lock.free_join, List.nil_append]

/-- A committed transaction: what it was, its answer, and the rows before and after. -/
structure Committed (Label S α : Type) where
  label : Label
  answer : α
  before : S
  after : S

structure Database (ι Label S W α : Type) where
  committed : S
  sessions : ι → Session W
  /-- every commit so far, in order -/
  history : List (Committed Label S α)

/-- What the statements of a database are. -/
structure RowStore (S W Sql ε : Type) (Out : Sql → Type) where
  /-- one row written over the others -/
  apply : S → W → S
  /-- what a statement may answer on the rows it sees, what it writes, the lock it takes -/
  act : (q : Sql) → S → Except ε (Out q) → List W → Lock → Prop
  /-- what is checked at commit -/
  valid : S → Prop

inductive Request (Sql Label α : Type) where
  | begin
  | sql (q : Sql)
  | commit (label : Label) (answer : α)
  | rollback

def Request.Reply {Sql Label α : Type} (ε : Type) (Out : Sql → Type) :
    Request Sql Label α → Type
  | .begin => Unit
  | .sql q => Except ε (Out q)
  | .commit _ _ => Except ε Unit
  | .rollback => Unit

section

variable {ι Label S W Sql ε ε' α : Type} {Out : Sql → Type} [DecidableEq ι]
variable (D : RowStore S W Sql ε Out)

/-- The rows a transaction sees. -/
def RowStore.over (c : S) (ws : List W) : S :=
  ws.foldl D.apply c

namespace Database

variable (d : Database ι Label S W α) (id : ι)

/-- The transaction of a session is over: its lock and its writes are gone. -/
def finish : Database ι Label S W α :=
  { d with sessions := Function.update d.sessions id .idle }

def extend (l : Lock) (ws : List W) : Database ι Label S W α :=
  { d with sessions := Function.update d.sessions id ((d.sessions id).extend l ws) }

def view : S :=
  D.over d.committed (d.sessions id).writes

/-- No other session holds a lock in the way. -/
def Grants (l : Lock) : Prop :=
  ∀ other, other ≠ id →
    (((d.sessions id).lock.join l).conflicts (d.sessions other).lock) = false

def publish (label : Label) (answer : α) : Database ι Label S W α :=
  { committed := d.view D id
    sessions := Function.update d.sessions id .idle
    history := d.history ++ [⟨label, answer, d.committed, d.view D id⟩] }

/-- One request of a session. Where `quiet` does not hold, any statement may also be cut off
(a deadlock, a timeout, a lost connection), and the answer to a commit may be lost after it
took effect. -/
def exec (quiet : Prop) :
    (c : ι × Request Sql Label α) → Database ι Label S W α → c.2.Reply ε Out →
      Database ι Label S W α → Prop
  | (id, .begin), d, _, d' => d' = d.finish id
  | (id, .rollback), d, _, d' => d' = d.finish id
  | (id, .sql q), d, .ok r, d' => ∃ ws l, D.act q (d.view D id) (.ok r) ws l
      ∧ d.Grants id l ∧ d' = d.extend id l ws
  | (id, .sql q), d, .error e, d' => d' = d.finish id
      ∧ (¬quiet ∨ ∃ ws l, D.act q (d.view D id) (.error e) ws l ∧ d.Grants id l)
  | (id, .commit label a), d, .ok _, d' => D.valid (d.view D id)
      ∧ d' = d.publish D id label a
  | (id, .commit label a), d, .error _, d' =>
      (d' = d.finish id ∧ (¬quiet ∨ ¬D.valid (d.view D id)))
        ∨ (¬quiet ∧ D.valid (d.view D id) ∧ d' = d.publish D id label a)

end Database

/-! ## Transactions -/

/-- The statements of a transaction and how their errors are reported; `none` is the commit.
What it returns is committed, what it raises is rolled back. -/
def running (report : Option Sql → ε → ε') (id : ι) (label : Label) :
    Prog Sql Out (Except ε' α) →
      Prog (ι × Request Sql Label α) (fun c => c.2.Reply ε Out) (Except ε' α)
  | .ret (.ok a) => .call (id, .commit label a) fun (r : Except ε Unit) =>
      match r with
      | .ok _ => .ret (.ok a)
      | .error e => .ret (.error (report none e))
  | .ret (.error e) => .call (id, .rollback) fun _ => .ret (.error e)
  | .call q k => .call (id, .sql q) fun (r : Except ε (Out q)) =>
      match r with
      | .ok r => running report id label (k r)
      | .error e => .ret (.error (report (some q) e))

omit [DecidableEq ι] in
theorem running_call (report : Option Sql → ε → ε') (id : ι) (label : Label) (q : Sql)
    (k : Out q → Prog Sql Out (Except ε' α)) :
    running report id label (.call q k) = .call (id, .sql q) fun (r : Except ε (Out q)) =>
      match r with
      | .ok r => running report id label (k r)
      | .error e => .ret (.error (report (some q) e)) := by
  rw [running]

def transaction (report : Option Sql → ε → ε') (id : ι) (label : Label)
    (p : Prog Sql Out (Except ε' α)) :
    Prog (ι × Request Sql Label α) (fun c => c.2.Reply ε Out) (Except ε' α) :=
  .call (id, .begin) fun _ => running report id label p

variable (inv : S → Prop) (good : Committed Label S α → Prop) (label : Label)

/-- The rest of a transaction that holds a lock over the committed rows `c`: whatever its
statements answer there, it commits under the exclusive lock, or nothing, and does what it
should. -/
def Holding : Prog Sql Out (Except ε' α) → S → Session W → Prop
  | .ret (.ok a), c, t => D.valid (D.over c t.writes) →
      good ⟨label, a, c, D.over c t.writes⟩ ∧ (t.lock = .exclusive ∨ t.writes = [])
  | .ret (.error _), _, _ => True
  | .call q k, c, t => ∀ r ws l, D.act q (D.over c t.writes) (.ok r) ws l →
      Holding (k r) c (t.extend l ws)

/-- The rest of a transaction that holds no lock and has written nothing. -/
def Waiting : Prog Sql Out (Except ε' α) → Prop
  | .ret (.ok a) => ∀ c, inv c → good ⟨label, a, c, c⟩
  | .ret (.error _) => True
  | .call q k => ∀ c, inv c → ∀ r ws l, D.act q c (.ok r) ws l →
      (l = .free → ws = [] ∧ Waiting (k r))
        ∧ (l ≠ .free → Holding D good label (k r) c ⟨l, ws⟩)

/-- The committed transactions lead from `s` to the last rows one after another. -/
inductive Serial (good : Committed Label S α → Prop) : S → List (Committed Label S α) → S → Prop
  | nil {s} : Serial good s [] s
  | cons {c cs t} (hc : good c) (h : Serial good c.after cs t) : Serial good c.before (c :: cs) t

/-- What a schedule adds to the history. -/
def Database.Serially (d d' : Database ι Label S W α) : Prop :=
  ∃ cs, d'.history = d.history ++ cs ∧ Serial good d.committed cs d'.committed

/-- What holds of a database under any schedule. -/
structure Database.Inv (d : Database ι Label S W α) : Prop where
  rows : inv d.committed
  apart : ∀ id other, id ≠ other →
    (d.sessions id).lock.conflicts (d.sessions other).lock = false
  unlocked : ∀ id, (d.sessions id).lock = .free → (d.sessions id).writes = []

/-- What the others leave to a session: its own transaction, and, while it holds a lock, the
committed rows. -/
def Database.Leaves (id : ι) (d d' : Database ι Label S W α) : Prop :=
  d'.sessions id = d.sessions id
    ∧ ((d.sessions id).lock ≠ .free → d'.committed = d.committed)

end

/-! ## Histories -/

section

variable {ι Label S W α : Type} {good : Committed Label S α → Prop}

variable {cs cs' : List (Committed Label S α)} {s t : S}

theorem Serial.trans {u : S}
    (h : Serial good s cs t) (h' : Serial good t cs' u) : Serial good s (cs ++ cs') u := by
  induction h with
  | nil => exact h'
  | cons hc _ ih => exact .cons hc (ih h')

theorem Serial.mem (h : Serial good s cs t) {c : Committed Label S α} (hc : c ∈ cs) : good c := by
  induction h with
  | nil => cases hc
  | cons hgood _ ih =>
    rcases List.mem_cons.mp hc with rfl | hc
    · exact hgood
    · exact ih hc

theorem Serial.mono {good' : Committed Label S α → Prop} (h : Serial good s cs t)
    (hgood : ∀ c, good c → good' c) : Serial good' s cs t := by
  induction h with
  | nil => exact .nil
  | cons hc _ ih => exact .cons (hgood _ hc) ih

/-- A history can be cut anywhere. -/
theorem Serial.split
    (h : Serial good s (cs ++ cs') t) : ∃ u, Serial good s cs u ∧ Serial good u cs' t := by
  induction cs generalizing s with
  | nil => exact ⟨s, .nil, h⟩
  | cons c cs ih =>
    cases h with
    | cons hc hrest =>
      obtain ⟨u, hu, htail⟩ := ih hrest
      exact ⟨u, .cons hc hu, htail⟩

/-- What every transaction keeps, a history keeps. -/
theorem Serial.keeps {P : S → Prop}
    (hkeeps : ∀ c, good c → P c.before → P c.after) (h : Serial good s cs t)
    (hinv : P s) : P t := by
  induction h with
  | nil => exact hinv
  | cons hc _ ih => exact ih (hkeeps _ hc hinv)

namespace Database

theorem Serially.refl (d : Database ι Label S W α) : Serially good d d :=
  ⟨[], (List.append_nil _).symm, .nil⟩

theorem Serially.trans {a b c : Database ι Label S W α} (h : Serially good a b)
    (h' : Serially good b c) : Serially good a c := by
  obtain ⟨cs, hcs, hserial⟩ := h
  obtain ⟨cs', hcs', hserial'⟩ := h'
  refine ⟨cs ++ cs', ?_, hserial.trans hserial'⟩
  rw [hcs', hcs, List.append_assoc]

theorem Leaves.refl (id : ι) (d : Database ι Label S W α) : d.Leaves id d :=
  ⟨rfl, fun _ => rfl⟩

theorem Leaves.trans {id : ι} {a b c : Database ι Label S W α} (h : a.Leaves id b)
    (h' : b.Leaves id c) : a.Leaves id c := by
  refine ⟨h'.1.trans h.1, ?_⟩
  intro hlock
  have hlock' : (b.sessions id).lock ≠ .free := by
    rw [h.1]
    exact hlock
  exact (h'.2 hlock').trans (h.2 hlock)

end Database

end

section

variable {ι Label S W Sql ε ε' α : Type} {Out : Sql → Type} [DecidableEq ι]
variable {D : RowStore S W Sql ε Out}
variable {inv : S → Prop} {good : Committed Label S α → Prop} {label : Label}
variable {report : Option Sql → ε → ε'}

namespace Database

/-! ## What a request does -/

variable {d : Database ι Label S W α} {id : ι}

@[simp] theorem finish_self : (d.finish id).sessions id = .idle :=
  Function.update_self ..

variable {other : ι} {ws : List W} {l : Lock}

theorem finish_other (h : other ≠ id) : (d.finish id).sessions other = d.sessions other :=
  Function.update_of_ne h ..

theorem finish_leaves (h : other ≠ id) : d.Leaves other (d.finish id) :=
  ⟨finish_other h, fun _ => rfl⟩

/-- Locks stay apart when one session's becomes one that no other conflicts with. -/
theorem apart_update {sessions : ι → Session W} {t : Session W}
    (h : ∀ id other, id ≠ other → (sessions id).lock.conflicts (sessions other).lock = false)
    (ht : ∀ other, other ≠ id → t.lock.conflicts (sessions other).lock = false) :
    ∀ i other, i ≠ other → ((Function.update sessions id t) i).lock.conflicts
      ((Function.update sessions id t) other).lock = false := by
  intro i other hne
  by_cases hi : i = id
  · subst hi
    rw [Function.update_self, Function.update_of_ne hne.symm]
    exact ht other hne.symm
  · rw [Function.update_of_ne hi]
    by_cases ho : other = id
    · subst ho
      rw [Function.update_self, Lock.conflicts_comm]
      exact ht i hi
    · rw [Function.update_of_ne ho]
      exact h i other hne

theorem unlocked_update {sessions : ι → Session W} {t : Session W}
    (h : ∀ id, (sessions id).lock = .free → (sessions id).writes = [])
    (ht : t.lock = .free → t.writes = []) :
    ∀ i, ((Function.update sessions id t) i).lock = .free →
      ((Function.update sessions id t) i).writes = [] := by
  intro i
  by_cases hi : i = id
  · subst hi
    rw [Function.update_self]
    exact ht
  · rw [Function.update_of_ne hi]
    exact h i

theorem Inv.finish (h : d.Inv inv) (id : ι) : (d.finish id).Inv inv :=
  ⟨h.rows, apart_update h.apart fun _ _ => rfl, unlocked_update h.unlocked fun _ => rfl⟩

theorem Inv.extend (h : d.Inv inv) (hgrants : d.Grants id l)
    (hws : (d.sessions id).lock.join l = .free → (d.sessions id).writes ++ ws = []) :
    (d.extend id l ws).Inv inv :=
  ⟨h.rows, apart_update h.apart hgrants, unlocked_update h.unlocked hws⟩

theorem extend_self : (d.extend id l ws).sessions id = (d.sessions id).extend l ws :=
  Function.update_self ..

theorem extend_leaves (h : other ≠ id) :
    d.Leaves other (d.extend id l ws) :=
  ⟨Function.update_of_ne h .., fun _ => rfl⟩

/-- A commit under the exclusive lock, or of nothing, is one more transaction of the history,
and no session that holds a lock sees the rows change. -/
theorem publish_keeps {a : α} (h : d.Inv inv)
    (hkeeps : ∀ c, good c → inv c.before → inv c.after)
    (hgood : good ⟨label, a, d.committed, d.view D id⟩)
    (hlock : (d.sessions id).lock = .exclusive ∨ (d.sessions id).writes = []) :
    (d.publish D id label a).Inv inv ∧ Serially good d (d.publish D id label a)
      ∧ ∀ other, other ≠ id → d.Leaves other (d.publish D id label a) := by
  refine ⟨⟨?_, apart_update h.apart fun _ _ => rfl, unlocked_update h.unlocked fun _ => rfl⟩,
    ⟨[_], rfl, Serial.cons hgood .nil⟩, ?_⟩
  · exact hkeeps _ hgood h.rows
  · intro other hne
    refine ⟨Function.update_of_ne hne .., ?_⟩
    intro hother
    rcases hlock with hexclusive | hwrites
    · have hapart := h.apart id other hne.symm
      rw [hexclusive] at hapart
      exact absurd (Lock.free_of_exclusive hapart) hother
    · show d.view D id = d.committed
      unfold view RowStore.over
      rw [hwrites, List.foldl_nil]

end Database

/-! ## The rule -/

variable (D inv good) in
/-- A client that keeps what the others rely on. -/
def SessionSafe (id : ι)
    (p : Prog (ι × Request Sql Label α) (fun c => c.2.Reply ε Out) (Except ε' α))
    (d : Database ι Label S W α) : Prop :=
  NamedSafe (Database.exec D False) True (Database.Inv inv) (Database.Serially good)
    Database.Leaves (fun _ _ _ => True) (fun _ _ => True) id p d

theorem ret_sessionSafe {id : ι} {a : Except ε' α} {d : Database ι Label S W α} :
    SessionSafe D inv good id (.ret a) d :=
  trivial

theorem commit_safe (hkeeps : ∀ c, good c → inv c.before → inv c.after) {id : ι} {a : α}
    {d : Database ι Label S W α}
    (h : ∀ d', d.Leaves id d' → d'.Inv inv → D.valid (d'.view D id) →
      good ⟨label, a, d'.committed, d'.view D id⟩
        ∧ ((d'.sessions id).lock = .exclusive ∨ (d'.sessions id).writes = [])) :
    SessionSafe D inv good id (running report id label (.ret (.ok a))) d := by
  intro d' hleaves hinv
  refine ⟨trivial, ?_⟩
  intro r d'' hexec
  -- whatever the answer to the commit was, it took effect or the session finished
  have hcases : d'' = d'.finish id
      ∨ (D.valid (d'.view D id) ∧ d'' = d'.publish D id label a) := by
    cases r with
    | ok u => exact Or.inr hexec
    | error e =>
      rcases hexec with ⟨rfl, -⟩ | ⟨-, hvalid, rfl⟩
      · exact Or.inl rfl
      · exact Or.inr ⟨hvalid, rfl⟩
  have hrest : SessionSafe D inv good id ((fun r : Except ε Unit =>
      match r with
      | .ok _ => .ret (.ok a)
      | .error e => .ret (.error (report none e))) r) d'' := by
    cases r with
    | ok u => exact ret_sessionSafe
    | error e => exact ret_sessionSafe
  rcases hcases with rfl | ⟨hvalid, rfl⟩
  · exact ⟨hinv.finish id, .refl _, fun other hne => Database.finish_leaves (hne trivial),
      hrest⟩
  · obtain ⟨hgood, hlock⟩ := h d' hleaves hinv hvalid
    obtain ⟨hinv', hserial, hothers⟩ := Database.publish_keeps hinv hkeeps hgood hlock
    exact ⟨hinv', hserial, fun other hne => hothers other (hne trivial), hrest⟩

theorem raise_safe {id : ι} {e : ε'} {d : Database ι Label S W α} :
    SessionSafe D inv good id (running report id label (.ret (.error e))) d := by
  intro d' _ hinv
  refine ⟨trivial, ?_⟩
  intro r d'' hexec
  obtain rfl : d'' = d'.finish id := hexec
  exact ⟨hinv.finish id, .refl _, fun other hne => Database.finish_leaves (hne trivial),
    ret_sessionSafe⟩

/-- One statement: if it is answered the rest is safe, and if it fails the session is over. -/
theorem statement_safe {id : ι} {q : Sql} {k : Out q → Prog Sql Out (Except ε' α)}
    {d : Database ι Label S W α}
    (h : ∀ d', d.Leaves id d' → d'.Inv inv → ∀ r ws l, D.act q (d'.view D id) (.ok r) ws l →
      ((d'.sessions id).lock.join l = .free → (d'.sessions id).writes ++ ws = [])
        ∧ (d'.Grants id l →
          SessionSafe D inv good id (running report id label (k r)) (d'.extend id l ws))) :
    SessionSafe D inv good id (running report id label (.call q k)) d := by
  unfold running
  intro d' hleaves hinv
  refine ⟨trivial, ?_⟩
  intro r d'' hexec
  cases r with
  | ok r =>
    obtain ⟨ws, l, hact, hgrants, rfl⟩ := hexec
    obtain ⟨hwrites, hrest⟩ := h d' hleaves hinv r ws l hact
    exact ⟨hinv.extend hgrants hwrites, .refl _,
      fun other hne => Database.extend_leaves (hne trivial), hrest hgrants⟩
  | error e =>
    obtain ⟨rfl, -⟩ := hexec
    exact ⟨hinv.finish id, .refl _, fun other hne => Database.finish_leaves (hne trivial),
      ret_sessionSafe⟩

/-- A transaction that holds a lock runs as if it were alone. -/
theorem holding_safe (hkeeps : ∀ c, good c → inv c.before → inv c.after) {id : ι}
    (p : Prog Sql Out (Except ε' α)) {d : Database ι Label S W α}
    (hlock : (d.sessions id).lock ≠ .free)
    (h : Holding D good label p d.committed (d.sessions id)) :
    SessionSafe D inv good id (running report id label p) d := by
  induction p generalizing d with
  | ret a =>
    cases a with
    | error e => exact raise_safe
    | ok a =>
      refine commit_safe hkeeps ?_
      intro d' hleaves hinv hvalid
      unfold Database.view at hvalid ⊢
      rw [hleaves.1, hleaves.2 hlock] at hvalid ⊢
      exact h hvalid
  | call q k ih =>
    refine statement_safe ?_
    intro d' hleaves hinv r ws l hact
    unfold Database.view at hact
    rw [hleaves.1, hleaves.2 hlock] at hact
    have hstill := Lock.join_ne_free hlock l
    rw [hleaves.1]
    refine ⟨fun hfree => absurd hfree hstill, ?_⟩
    intro _
    refine ih r ?_ ?_
    · rw [Database.extend_self, hleaves.1]
      exact hstill
    · rw [Database.extend_self, hleaves.1]
      show Holding D good label (k r) d'.committed _
      rw [hleaves.2 hlock]
      exact h r ws l hact

/-- A transaction that holds no lock yet: its first lock is where it takes its place among
the others. -/
theorem waiting_safe (hkeeps : ∀ c, good c → inv c.before → inv c.after) {id : ι}
    (p : Prog Sql Out (Except ε' α)) {d : Database ι Label S W α}
    (hidle : d.sessions id = .idle) (h : Waiting D inv good label p) :
    SessionSafe D inv good id (running report id label p) d := by
  induction p generalizing d with
  | ret a =>
    cases a with
    | error e => exact raise_safe
    | ok a =>
      refine commit_safe hkeeps ?_
      intro d' hleaves hinv _
      have hwrites : (d'.sessions id).writes = [] := by
        rw [hleaves.1, hidle]
        rfl
      refine ⟨?_, Or.inr hwrites⟩
      have hview : d'.view D id = d'.committed := by
        unfold Database.view RowStore.over
        rw [hwrites, List.foldl_nil]
      rw [hview]
      exact h d'.committed hinv.rows
  | call q k ih =>
    refine statement_safe ?_
    intro d' hleaves hinv r ws l hact
    have hsession : d'.sessions id = .idle := hleaves.1.trans hidle
    unfold Database.view RowStore.over at hact
    rw [hsession] at hact
    obtain ⟨hfree, hlocked⟩ := h d'.committed hinv.rows r ws l hact
    have hextend : (d'.extend id l ws).sessions id = ⟨l, ws⟩ := by
      rw [Database.extend_self, hsession, Session.idle_extend]
    have hjoin : (d'.sessions id).lock.join l = l := by
      rw [hsession]
      exact Lock.free_join l
    by_cases hl : l = .free
    · obtain ⟨rfl, hwaiting⟩ := hfree hl
      refine ⟨fun _ => by rw [hsession]; rfl, fun _ => ih r ?_ hwaiting⟩
      rw [hextend, hl]
      rfl
    · rw [hjoin]
      refine ⟨fun he => absurd he hl, fun _ => ?_⟩
      refine holding_safe hkeeps _ ?_ ?_
      · rw [hextend]
        exact hl
      · rw [hextend]
        exact hlocked hl

theorem transaction_safe (hkeeps : ∀ c, good c → inv c.before → inv c.after) {id : ι}
    {p : Prog Sql Out (Except ε' α)} (h : Waiting D inv good label p)
    (d : Database ι Label S W α) :
    SessionSafe D inv good id (transaction report id label p) d := by
  intro d' _ hinv
  refine ⟨trivial, ?_⟩
  intro r d'' hexec
  obtain rfl : d'' = d'.finish id := hexec
  exact ⟨hinv.finish id, .refl _, fun other hne => Database.finish_leaves (hne trivial),
    waiting_safe hkeeps p Database.finish_self h⟩

/-- A commit is labelled by its transaction. -/
theorem Holding.labelled {P : Label → Prop} (hlabel : P label) (p : Prog Sql Out (Except ε' α))
    {c : S} {t : Session W} (h : Holding D good label p c t) :
    Holding D (fun c => good c ∧ P c.label) label p c t := by
  induction p generalizing t with
  | ret a =>
    cases a with
    | error e => trivial
    | ok a =>
      intro hvalid
      obtain ⟨hgood, hlock⟩ := h hvalid
      exact ⟨⟨hgood, hlabel⟩, hlock⟩
  | call q k ih => exact fun r ws l hact => ih r (h r ws l hact)

theorem Waiting.labelled {P : Label → Prop} (hlabel : P label) (p : Prog Sql Out (Except ε' α))
    (h : Waiting D inv good label p) :
    Waiting D inv (fun c => good c ∧ P c.label) label p := by
  induction p with
  | ret a =>
    cases a with
    | error e => trivial
    | ok a => exact fun c hc => ⟨h c hc, hlabel⟩
  | call q k ih =>
    intro c hc r ws l hact
    obtain ⟨hfree, hlocked⟩ := h c hc r ws l hact
    refine ⟨fun hl => ⟨(hfree hl).1, ih r (hfree hl).2⟩, fun hl => ?_⟩
    exact (hlocked hl).labelled hlabel

/-- The clients of a configuration and their database, under any schedule. -/
def SessionsKept (D : RowStore S W Sql ε Out) (inv : S → Prop)
    (good : Committed Label S α → Prop)
    (c : Config (Database ι Label S W α)
      (ι × Prog (ι × Request Sql Label α) (fun c => c.2.Reply ε Out) (Except ε' α))) : Prop :=
  Kept (Database.exec D False) True (Database.Inv inv) (Database.Serially good)
    Database.Leaves (fun _ _ _ => True) (fun _ _ => True) c

/-- **Every schedule is serial.** Where every client is a transaction that passed its
check, the history a schedule adds is one transaction after another, each on the rows the
one before it left. -/
theorem steps_serial
    {entry : ι → Prog (ι × Request Sql Label α) (fun c => c.2.Reply ε Out) (Except ε' α) →
      Prop}
    (hentry : ∀ id p, entry id p → ∀ d, d.Inv inv → SessionSafe D inv good id p d)
    {c c' : Config (Database ι Label S W α)
      (ι × Prog (ι × Request Sql Label α) (fun c => c.2.Reply ε Out) (Except ε' α))}
    (hsteps : NamedSteps (Database.exec D False) entry True c c')
    (h : SessionsKept D inv good c) :
    SessionsKept D inv good c' ∧ c.shared.Serially good c'.shared :=
  namedSteps_kept Database.Serially.refl (fun _ _ _ => .trans) Database.Leaves.refl
    (fun _ _ _ _ => .trans) (fun _ _ _ _ _ => trivial) hentry hsteps h

end

/-! ## One transaction after another

The schedules in which every transaction runs to its end before the next begins.
-/

section

variable {ι Label S W Sql ε ε' α : Type} {Out : Sql → Type} [DecidableEq ι]
variable (D : RowStore S W Sql ε Out)

/-- The answer and the writes of a transaction that runs alone on the rows `c`. -/
def alone (answer : (q : Sql) → S → Except ε (Out q × List W × Lock)) :
    Prog Sql Out (Except ε' α) → S → Session W → Option (α × Session W)
  | .ret (.ok a), _, t => some (a, t)
  | .ret (.error _), _, _ => none
  | .call q k, c, t =>
    match answer q (D.over c t.writes) with
    | .ok (r, ws, l) => alone answer (k r) c (t.extend l ws)
    | .error _ => none

variable {D} {answer : (q : Sql) → S → Except ε (Out q × List W × Lock)}
variable {quiet exclusive : Prop} {report : Option Sql → ε → ε'} {label : Label}
variable {entry : ι → Prog (ι × Request Sql Label α) (fun c => c.2.Reply ε Out) (Except ε' α) →
  Prop}

variable {id : ι} {d : Database ι Label S W α}

/-- The first client makes its next request. -/
theorem first_step {d' : Database ι Label S W α} (request : Request Sql Label α)
    (r : request.Reply ε Out) (k : request.Reply ε Out →
      Prog (ι × Request Sql Label α) (fun c => c.2.Reply ε Out) (Except ε' α))
    (h : Database.exec D quiet (id, request) d r d')
    (ps : List (ι × Prog (ι × Request Sql Label α) (fun c => c.2.Reply ε Out)
      (Except ε' α))) :
    NamedStep (Database.exec D quiet) entry exclusive
      ⟨d, (id, .call (id, request) k) :: ps⟩ ⟨d', (id, k r) :: ps⟩ :=
  @NamedStep.run _ _ _ _ _ (Database.exec D quiet) entry exclusive d d' [] ps id (id, request)
    k r h

omit [DecidableEq ι] in
theorem grants_alone {l : Lock}
    (h : ∀ other, other ≠ id → d.sessions other = .idle) : d.Grants id l := by
  intro other hne
  rw [h other hne]
  cases (d.sessions id).lock.join l <;> rfl

theorem alone_steps (hanswer : ∀ q s r ws l, answer q s = .ok (r, ws, l) →
      D.act q s (.ok r) ws l) (p : Prog Sql Out (Except ε' α))
    {a : α} {t : Session W} (hothers : ∀ other, other ≠ id → d.sessions other = .idle)
    (h : alone D answer p d.committed (d.sessions id) = some (a, t))
    (hvalid : D.valid (D.over d.committed t.writes))
    (ps : List (ι × Prog (ι × Request Sql Label α) (fun c => c.2.Reply ε Out)
      (Except ε' α))) :
    NamedSteps (Database.exec D quiet) entry exclusive
      ⟨d, (id, running report id label p) :: ps⟩
      ⟨{ committed := D.over d.committed t.writes
         sessions := fun _ => .idle
         history := d.history ++ [⟨label, a, d.committed, D.over d.committed t.writes⟩] },
        (id, .ret (.ok a)) :: ps⟩ := by
  induction p generalizing d with
  | ret b =>
    cases b with
    | error e => cases h
    | ok b =>
      cases h
      have hsessions : Function.update d.sessions id .idle = fun _ => .idle := by
        funext other
        by_cases hother : other = id
        · rw [hother, Function.update_self]
        · rw [Function.update_of_ne hother, hothers other hother]
      rw [← hsessions]
      have hcommit : Database.exec D quiet (id, Request.commit label a) d
          (Except.ok () : Except ε Unit) (d.publish D id label a) := ⟨hvalid, rfl⟩
      unfold running
      exact .single (first_step (.commit label a) (Except.ok () : Except ε Unit) _ hcommit ps)
  | call q k ih =>
    unfold alone at h
    split at h
    · rename_i r ws l hr
      have hstep : NamedStep (Database.exec D quiet) entry exclusive
          ⟨d, (id, running report id label (.call q k)) :: ps⟩
          ⟨d.extend id l ws, (id, running report id label (k r)) :: ps⟩ := by
        have hsql : Database.exec D quiet (id, Request.sql q) d (Except.ok r : Except ε (Out q))
            (d.extend id l ws) := ⟨ws, l, hanswer q _ r ws l hr, grants_alone hothers, rfl⟩
        rw [running_call]
        exact first_step (.sql q) (Except.ok r : Except ε (Out q)) _ hsql ps
      refine .head hstep (ih r (d := d.extend id l ws) ?_ ?_ hvalid)
      · intro other hne
        show Function.update d.sessions id _ other = .idle
        rw [Function.update_of_ne hne]
        exact hothers other hne
      · rw [Database.extend_self]
        exact h
    · cases h

/-- A transaction that starts while no other is open, and runs to its commit. -/
theorem alone_transaction (hanswer : ∀ q s r ws l, answer q s = .ok (r, ws, l) →
      D.act q s (.ok r) ws l) {p : Prog Sql Out (Except ε' α)} {c : S}
    {history : List (Committed Label S α)} {a : α} {t : Session W}
    (hentry : entry id (transaction report id label p))
    (h : alone D answer p c .idle = some (a, t)) (hvalid : D.valid (D.over c t.writes))
    {ps : List (ι × Prog (ι × Request Sql Label α) (fun c => c.2.Reply ε Out)
      (Except ε' α))} (hps : ∀ q ∈ ps, ¬q.2.Live) :
    NamedSteps (Database.exec D quiet) entry exclusive ⟨⟨c, fun _ => .idle, history⟩, ps⟩
      ⟨{ committed := D.over c t.writes
         sessions := fun _ => .idle
         history := history ++ [⟨label, a, c, D.over c t.writes⟩] },
        (id, .ret (.ok a)) :: ps⟩ := by
  refine .head (.start hentry fun _ q hq _ => hps q hq) ?_
  have hbegin : NamedStep (Database.exec D quiet) entry exclusive
      ⟨⟨c, fun _ => .idle, history⟩, (id, transaction report id label p) :: ps⟩
      ⟨⟨c, fun _ => .idle, history⟩, (id, running report id label p) :: ps⟩ := by
    refine first_step .begin () _ ?_ ps
    show (⟨c, fun _ => .idle, history⟩ : Database ι Label S W α) = Database.finish _ id
    unfold Database.finish
    rw [Function.update_eq_self id (fun _ : ι => (Session.idle : Session W))]
  exact .head hbegin (alone_steps hanswer p (fun _ _ => rfl) h hvalid ps)

end

/-! ## Nothing but conflicts stops a transaction

In a quiet schedule without newcomers, a transaction that would commit alone is kept from it
only by another commit.
-/

section

variable {ι Label S W Sql ε ε' α : Type} {Out : Sql → Type}

/-- Alone on the rows `c`, the rest of a transaction commits. -/
def Commits (D : RowStore S W Sql ε Out) : Prog Sql Out (Except ε' α) → S → Session W → Prop
  | .ret (.ok _), c, t => D.valid (D.over c t.writes)
  | .ret (.error _), _, _ => False
  | .call q k, c, t => ∀ r ws l, D.act q (D.over c t.writes) r ws l →
      ∃ r', r = .ok r' ∧ Commits D (k r') c (t.extend l ws)

/-- A client makes its requests in one session. -/
def Within (id : ι) :
    Prog (ι × Request Sql Label α) (fun c => c.2.Reply ε Out) (Except ε' α) → Prop
  | .ret _ => True
  | .call c k => c.1 = id ∧ ∀ r, Within id (k r)

variable {report : Option Sql → ε → ε'} {label : Label}

theorem running_within (id : ι) (p : Prog Sql Out (Except ε' α)) :
    Within id (running report id label p) := by
  induction p with
  | ret a =>
    cases a with
    | error e => exact ⟨rfl, fun _ => trivial⟩
    | ok a =>
      refine ⟨rfl, ?_⟩
      intro r
      cases (r : Except ε Unit) with
      | ok u => trivial
      | error e => trivial
  | call q k ih =>
    unfold running
    refine ⟨rfl, ?_⟩
    intro r
    cases (r : Except ε (Out q)) with
    | ok r => exact ih r
    | error e => trivial

theorem transaction_within (id : ι) (p : Prog Sql Out (Except ε' α)) :
    Within id (transaction report id label p) :=
  ⟨rfl, fun _ => running_within id p⟩

variable [DecidableEq ι] {D : RowStore S W Sql ε Out}

/-- What a client still to commit looks like. -/
def Committing (D : RowStore S W Sql ε Out) (report : Option Sql → ε → ε') (id : ι)
    (label : Label) (c : S)
    (p : Prog (ι × Request Sql Label α) (fun c => c.2.Reply ε Out) (Except ε' α))
    (d : Database ι Label S W α) : Prop :=
  (∃ q, p = transaction report id label q ∧ Commits D q c .idle)
    ∨ ∃ q, p = running report id label q ∧ Commits D q c (d.sessions id)

/-- What a quiet schedule keeps until somebody commits. -/
structure Undisturbed (D : RowStore S W Sql ε Out) (report : Option Sql → ε → ε') (id : ι)
    (label : Label) (start : Database ι Label S W α)
    (c : Config (Database ι Label S W α)
      (ι × Prog (ι × Request Sql Label α) (fun c => c.2.Reply ε Out) (Except ε' α))) :
    Prop where
  names : c.clients.Pairwise fun p q => p.1 ≠ q.1
  within : ∀ p ∈ c.clients, Within p.1 p.2
  pending : start.history.length < c.shared.history.length
    ∨ (c.shared.history.length = start.history.length ∧ c.shared.committed = start.committed
      ∧ ∀ p ∈ c.clients, p.1 = id →
        Committing D report id label start.committed p.2 c.shared)

/-- A quiet schedule is one of the schedules. -/
theorem exec_quiet (c : ι × Request Sql Label α) (d : Database ι Label S W α)
    (r : c.2.Reply ε Out) (d' : Database ι Label S W α) (h : Database.exec D True c d r d') :
    Database.exec D False c d r d' := by
  obtain ⟨id, request⟩ := c
  cases request with
  | begin => exact h
  | rollback => exact h
  | sql q =>
    cases (r : Except ε (Out q)) with
    | ok r => exact h
    | error e => exact ⟨h.1, Or.inl not_false⟩
  | commit label a =>
    cases (r : Except ε Unit) with
    | ok u => exact h
    | error e =>
      rcases h with ⟨he, -⟩ | ⟨hquiet, -⟩
      · exact Or.inl ⟨he, Or.inl not_false⟩
      · exact absurd trivial hquiet

variable {d : Database ι Label S W α} {id : ι}

/-- A request leaves the history alone or adds to it. -/
theorem exec_history {quiet : Prop} {request : Request Sql Label α}
    {d' : Database ι Label S W α} {r : request.Reply ε Out}
    (h : Database.exec D quiet (id, request) d r d') :
    d.history.length < d'.history.length
      ∨ (d'.history.length = d.history.length ∧ d'.committed = d.committed
        ∧ ∀ other, other ≠ id → d'.sessions other = d.sessions other) := by
  have hfinish : d' = d.finish id → d.history.length < d'.history.length
      ∨ (d'.history.length = d.history.length ∧ d'.committed = d.committed
        ∧ ∀ other, other ≠ id → d'.sessions other = d.sessions other) := by
    intro he
    subst he
    exact Or.inr ⟨rfl, rfl, fun other hne => Database.finish_other hne⟩
  have hpublish : ∀ label a, d' = d.publish D id label a →
      d.history.length < d'.history.length := by
    intro label a he
    subst he
    show d.history.length < (d.history ++ [_]).length
    rw [List.length_append]
    exact Nat.lt_succ_self _
  cases request with
  | begin => exact hfinish h
  | rollback => exact hfinish h
  | sql q =>
    cases (r : Except ε (Out q)) with
    | ok r =>
      obtain ⟨ws, l, -, -, rfl⟩ := h
      exact Or.inr ⟨rfl, rfl, fun other hne => Function.update_of_ne hne ..⟩
    | error e => exact hfinish h.1
  | commit label a =>
    cases (r : Except ε Unit) with
    | ok u => exact Or.inl (hpublish label a h.2)
    | error e =>
      rcases h with ⟨he, -⟩ | ⟨-, -, he⟩
      · exact hfinish he
      · exact Or.inl (hpublish label a he)

/-- The next request of a client still to commit, on the rows it would commit on. -/
theorem committing_exec {c : ι × Request Sql Label α}
    {k : c.2.Reply ε Out → Prog (ι × Request Sql Label α) (fun c => c.2.Reply ε Out)
      (Except ε' α)} {d' : Database ι Label S W α} {r : c.2.Reply ε Out}
    (hcommitting : Committing D report id label d.committed (.call c k) d)
    (hexec : Database.exec D True c d r d') :
    d.history.length < d'.history.length
      ∨ Committing D report id label d.committed (k r) d' := by
  rcases hcommitting with ⟨q, hq, hcommits⟩ | ⟨q, hq, hcommits⟩
  · unfold transaction at hq
    cases hq
    obtain rfl : d' = d.finish id := hexec
    refine Or.inr (Or.inr ⟨q, rfl, ?_⟩)
    rw [Database.finish_self]
    exact hcommits
  · cases q with
    | ret a =>
      cases a with
      | error e => exact hcommits.elim
      | ok a =>
        unfold running at hq
        cases hq
        have hvalid : D.valid (d.view D id) := hcommits
        cases (r : Except ε Unit) with
        | ok u =>
          obtain ⟨-, rfl⟩ := hexec
          left
          show d.history.length < (d.history ++ [_]).length
          rw [List.length_append]
          exact Nat.lt_succ_self _
        | error e =>
          rcases hexec with ⟨-, hquiet | hinvalid⟩ | ⟨hquiet, -⟩
          · exact absurd trivial hquiet
          · exact absurd hvalid hinvalid
          · exact absurd trivial hquiet
    | call q k' =>
      unfold running at hq
      cases hq
      cases (r : Except ε (Out q)) with
      | ok r =>
        obtain ⟨ws, l, hact, -, rfl⟩ := hexec
        obtain ⟨r', hr', hrest⟩ := hcommits _ ws l hact
        cases hr'
        refine Or.inr (Or.inr ⟨k' r, rfl, ?_⟩)
        rw [Database.extend_self]
        exact hrest
      | error e =>
        obtain ⟨-, hquiet | ⟨ws, l, hact, -⟩⟩ := hexec
        · exact absurd trivial hquiet
        · obtain ⟨r', hr', -⟩ := hcommits _ ws l hact
          cases hr'

/-- What one move of a quiet schedule keeps. -/
theorem undisturbed_step {start : Database ι Label S W α} {c c' : Config (Database ι Label S W α)
      (ι × Prog (ι × Request Sql Label α) (fun c => c.2.Reply ε Out) (Except ε' α))}
    (hstep : NamedStep (Database.exec D True) (fun _ _ => False) True c c')
    (h : Undisturbed D report id label start c) :
    Undisturbed D report id label start c' := by
  cases hstep with
  | start hp hfree => exact hp.elim
  | @crash s ps₁ ps₂ p hlive =>
    have hsub : ∀ q ∈ ps₁ ++ ps₂, q ∈ ps₁ ++ p :: ps₂ := by
      intro q hq
      rcases List.mem_append.mp hq with hq | hq
      · exact List.mem_append_left _ hq
      · exact List.mem_append_right _ (List.mem_cons_of_mem _ hq)
    refine ⟨?_, fun q hq => h.within q (hsub q hq), ?_⟩
    · exact h.names.sublist (List.Sublist.append_left (List.sublist_cons_self ..) _)
    · rcases h.pending with hgrown | ⟨hlength, hcommitted, hpending⟩
      · exact Or.inl hgrown
      · exact Or.inr ⟨hlength, hcommitted, fun q hq => hpending q (hsub q hq)⟩
  | @run s s' ps₁ ps₂ name call k r hexec =>
    have hself : (name, Prog.call call k) ∈ ps₁ ++ (name, Prog.call call k) :: ps₂ :=
      List.mem_append_right _ (List.mem_cons_self ..)
    have hothers : ∀ q ∈ ps₁ ++ ps₂,
        q ∈ ps₁ ++ (name, Prog.call call k) :: ps₂ ∧ q.1 ≠ name := by
      have hnames := h.names
      rw [List.pairwise_append, List.pairwise_cons] at hnames
      obtain ⟨-, ⟨hafter, -⟩, hbefore⟩ := hnames
      intro q hq
      rcases List.mem_append.mp hq with hq | hq
      · exact ⟨List.mem_append_left _ hq, hbefore q hq _ (List.mem_cons_self ..)⟩
      · exact ⟨List.mem_append_right _ (List.mem_cons_of_mem _ hq),
          Ne.symm (hafter q hq)⟩
    obtain ⟨hname, hrest⟩ := h.within _ hself
    obtain ⟨session, request⟩ := call
    obtain rfl : session = name := hname
    refine ⟨?_, ?_, ?_⟩
    · have hnames := h.names
      rw [List.pairwise_append, List.pairwise_cons] at hnames ⊢
      obtain ⟨hps₁, ⟨hafter, hps₂⟩, hbefore⟩ := hnames
      refine ⟨hps₁, ⟨fun q hq => hafter q hq, hps₂⟩, ?_⟩
      intro a ha b hb
      rcases List.mem_cons.mp hb with rfl | hb
      · exact hbefore a ha (session, .call (session, request) k) (List.mem_cons_self ..)
      · exact hbefore a ha b (List.mem_cons_of_mem _ hb)
    · intro q hq
      rcases List.mem_append.mp hq with hq | hq
      · exact h.within q (hothers q (List.mem_append_left _ hq)).1
      · rcases List.mem_cons.mp hq with rfl | hq
        · exact hrest r
        · exact h.within q (hothers q (List.mem_append_right _ hq)).1
    · rcases exec_history hexec with hgrows | ⟨hlength, hsame, hsessions⟩
      · rcases h.pending with hgrown | ⟨hstart, -⟩
        · exact Or.inl (Nat.lt_trans hgrown hgrows)
        · exact Or.inl (hstart ▸ hgrows)
      · rcases h.pending with hgrown | ⟨hstart, hcommitted, hpending⟩
        · exact Or.inl (hlength.symm ▸ hgrown)
        · -- the client that moved, or one whose session the move left alone
          have hcommitted' : s'.committed = start.committed := hsame.trans hcommitted
          by_cases hid : session = id
          · subst hid
            have hthis := hpending _ hself rfl
            rw [← show s.committed = start.committed from hcommitted] at hthis
            rcases committing_exec hthis hexec with hgrows | hnext
            · rw [hlength] at hgrows
              exact absurd hgrows (Nat.lt_irrefl _)
            · refine Or.inr ⟨hlength.trans hstart, hcommitted', ?_⟩
              intro q hq hqid
              rcases List.mem_append.mp hq with hq | hq
              · exact absurd hqid (hothers q (List.mem_append_left _ hq)).2
              · rcases List.mem_cons.mp hq with rfl | hq
                · rw [← show s.committed = start.committed from hcommitted]
                  exact hnext
                · exact absurd hqid (hothers q (List.mem_append_right _ hq)).2
          · refine Or.inr ⟨hlength.trans hstart, hcommitted', ?_⟩
            have hother : ∀ q ∈ ps₁ ++ ps₂, q.1 = id →
                Committing D report id label start.committed q.2 s' := by
              intro q hq hqid
              have hq' := hpending q (hothers q hq).1 hqid
              unfold Committing at hq' ⊢
              rw [hsessions id (Ne.symm hid)]
              exact hq'
            intro q hq hqid
            rcases List.mem_append.mp hq with hq | hq
            · exact hother q (List.mem_append_left _ hq) hqid
            · rcases List.mem_cons.mp hq with rfl | hq
              · exact absurd hqid hid
              · exact hother q (List.mem_append_right _ hq) hqid

/-- A transaction that would commit alone and has returned saw a commit, its own or
another's. -/
theorem quiet_commits {ps : List (ι × Prog (ι × Request Sql Label α) (fun c => c.2.Reply ε Out)
      (Except ε' α))}
    {c : Config (Database ι Label S W α)
      (ι × Prog (ι × Request Sql Label α) (fun c => c.2.Reply ε Out) (Except ε' α))}
    (hnames : ps.Pairwise fun p q => p.1 ≠ q.1) (hwithin : ∀ p ∈ ps, Within p.1 p.2)
    (hpending : ∀ p ∈ ps, p.1 = id → Committing D report id label d.committed p.2 d)
    (hsteps : NamedSteps (Database.exec D True) (fun _ _ => False) True ⟨d, ps⟩ c)
    {a : Except ε' α} (hreturned : (id, .ret a) ∈ c.clients) :
    d.history.length < c.shared.history.length := by
  have hkept : Undisturbed D report id label d c := by
    refine Relation.ReflTransGen.head_induction_on
      (motive := fun b _ => Undisturbed D report id label d b →
        Undisturbed D report id label d c) hsteps (fun h => h) ?_
      ⟨hnames, hwithin, Or.inr ⟨rfl, rfl, hpending⟩⟩
    intro b b' hstep _ ih hb
    exact ih (undisturbed_step hstep hb)
  rcases hkept.pending with hgrown | ⟨-, -, hclients⟩
  · exact hgrown
  · rcases hclients _ hreturned rfl with ⟨q, hq, -⟩ | ⟨q, hq, -⟩
    · cases hq
    · cases q with
      | ret a =>
        cases a with
        | ok a => cases hq
        | error e => cases hq
      | call q k =>
        unfold running at hq
        cases hq

end

end ControlAssurance.Lib
