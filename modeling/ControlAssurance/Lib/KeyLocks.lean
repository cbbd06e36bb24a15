import ControlAssurance.Lib.RowLocks

/-!
# Transactions that hold many locks

`RowLocks.lean` has one lock that every transaction of interest takes first. Here a
transaction takes as many as it likes, each the only holder of its key: advisory locks, the
rows it locks or deletes, the keys it inserts. It keeps them until it ends. The server has a
clock that never goes back, every transaction knows when it began, and `aside` is what no
rollback undoes (a sequence, for one).

A statement sees the committed rows of its own moment with the transaction's writes over them,
and knows which keys others hold (for `SKIP LOCKED`). It waits while one it needs is held. Any
statement may also be cut off, and the answer to a commit may be lost; then the transaction is
over. Entries of `writes` that change no row are allowed: they are how an invariant can speak
about what an open transaction has seen.

The rule: where every statement a transaction makes is one that its own entries permit, and
statements so permitted and commits keep the invariant, every schedule keeps it.
-/

namespace ControlAssurance.Lib

/-- An open transaction: when it began, the keys it has locked, what it has done. -/
structure Txn (κ W : Type) where
  startedAt : Int
  locks : List κ
  writes : List W

/-- Nothing locked, nothing written. -/
def Txn.begun {κ W : Type} (t : Int) : Txn κ W := ⟨t, [], []⟩

def Txn.extend {κ W : Type} (t : Txn κ W) (ks : List κ) (ws : List W) : Txn κ W :=
  ⟨t.startedAt, t.locks ++ ks, t.writes ++ ws⟩

structure Server (ι κ S N W : Type) where
  now : Int
  lastCommit : Int
  committed : S
  aside : N
  txns : ι → Txn κ W

/-- What a statement runs on: the rows it sees, the clock, the start of its transaction, the
keys that others hold, and what no rollback undoes. -/
structure Scene (κ S N : Type) where
  view : S
  now : Int
  startedAt : Int
  held : κ → Prop
  aside : N

structure Engine (κ S N W Sql : Type) (Out : Sql → Type) where
  /-- the rows with the entries of a transaction over them -/
  overlay : S → List W → S
  /-- a statement that goes through: its answer, its entries, the keys it locks, what it
  leaves aside -/
  act : (q : Sql) → Scene κ S N → Out q → List W → List κ → N → Prop

section

variable {ι κ S N W Sql Label ε ε' α : Type} {Out : Sql → Type} [DecidableEq ι]

namespace Server

variable (d : Server ι κ S N W) (id : ι)

/-- The clock has moved on. -/
def later (t : Int) : Server ι κ S N W := { d with now := t }

/-- The transaction of a session is over, or a new one begins. -/
def reset : Server ι κ S N W :=
  { d with txns := Function.update d.txns id (.begun d.now) }

def extend (ks : List κ) (ws : List W) (n : N) : Server ι κ S N W :=
  { d with aside := n, txns := Function.update d.txns id ((d.txns id).extend ks ws) }

/-- Another session holds the key. -/
def held (k : κ) : Prop := ∃ other, other ≠ id ∧ k ∈ (d.txns other).locks

variable (E : Engine κ S N W Sql Out)

def scene : Scene κ S N :=
  ⟨E.overlay d.committed (d.txns id).writes, d.now, (d.txns id).startedAt, d.held id, d.aside⟩

def publish : Server ι κ S N W :=
  { d with
    committed := E.overlay d.committed (d.txns id).writes
    lastCommit := d.now
    txns := Function.update d.txns id (.begun d.now) }

variable (allowed : Server ι κ S N W → ι → Prop)

/-- One request at a given moment. `allowed` is asked of the state a commit finds. -/
def execAt : (c : ι × Request Sql Label α) → Server ι κ S N W → c.2.Reply ε Out →
    Server ι κ S N W → Prop
  | (id, .begin), d, _, d' => d' = d.reset id
  | (id, .rollback), d, _, d' => d' = d.reset id
  | (id, .sql q), d, .ok r, d' => ∃ ws ks n, E.act q (d.scene id E) r ws ks n
      ∧ (∀ k ∈ ks, ¬d.held id k) ∧ d' = d.extend id ks ws n
  | (id, .sql _), d, .error _, d' => d' = d.reset id
  | (id, .commit _ _), d, .ok _, d' => allowed d id ∧ d' = d.publish id E
  | (id, .commit _ _), d, .error _, d' => d' = d.reset id
      ∨ (allowed d id ∧ d' = d.publish id E)

/-- Time passes before a request takes effect. -/
def exec (c : ι × Request Sql Label α) (d : Server ι κ S N W) (r : c.2.Reply ε Out)
    (d' : Server ι κ S N W) : Prop :=
  ∃ t, d.now ≤ t ∧ execAt E allowed c (d.later t) r d'

/-- No key has two holders. -/
def Apart : Prop :=
  ∀ id other k, id ≠ other → k ∈ (d.txns id).locks → k ∉ (d.txns other).locks

end Server

/-- What the others leave to a session: its own transaction. -/
def Server.Left (id : ι) (d d' : Server ι κ S N W) : Prop :=
  d'.txns id = d.txns id

/-- The bookkeeping of a server: no key has two holders, nothing happened in the future. -/
structure Server.Sound (d : Server ι κ S N W) : Prop where
  apart : d.Apart
  begun : ∀ id, (d.txns id).startedAt ≤ d.now
  past : d.lastCommit ≤ d.now

variable (E : Engine κ S N W Sql Out) (allowed : Server ι κ S N W → ι → Prop)
variable (inv : Server ι κ S N W → Prop) (order : Server ι κ S N W → Server ι κ S N W → Prop)
variable (may : (q : Sql) → Txn κ W → Prop)
variable (fin : Except ε' α → Txn κ W → Prop) (post : Except ε' α → Server ι κ S N W → Prop)

/-- What has to be shown of the moves of a server, whoever makes them. -/
structure Keeping : Prop where
  later : ∀ d t, d.Sound → inv d → d.now ≤ t → inv (d.later t) ∧ order d (d.later t)
  reset : ∀ d id, d.Sound → inv d → inv (d.reset id) ∧ order d (d.reset id)
  sql : ∀ d id q r ws ks n, d.Sound → inv d → may q (d.txns id) →
    E.act q (d.scene id E) r ws ks n → (∀ k ∈ ks, ¬d.held id k) →
    inv (d.extend id ks ws n) ∧ order d (d.extend id ks ws n)
  commit : ∀ d id, d.Sound → inv d → allowed d id →
    inv (d.publish id E) ∧ order d (d.publish id E)
  done : ∀ d id a, d.Sound → inv d → allowed d id → fin (.ok a) (d.txns id) →
    post (.ok a) (d.publish id E)
  raised : ∀ d id e, d.Sound → inv d → fin (.error e) (d.txns id) →
    post (.error e) (d.reset id)

/-- Every statement of the program is permitted by what its transaction has done by then, and
so is its answer. -/
def Permitted (id : ι) : Prog Sql Out (Except ε' α) → Txn κ W → Prop
  | .ret a, t => fin a t
  | .call q k, t => may q t ∧ ∀ d, d.Sound → inv d → d.txns id = t → ∀ r ws ks n,
      E.act q (d.scene id E) r ws ks n → (∀ key ∈ ks, ¬d.held id key) →
      Permitted id (k r) (t.extend ks ws)

end

/-! ## What a request does -/

section

variable {ι κ S N W Sql Label ε ε' α : Type} {Out : Sql → Type} [DecidableEq ι]

namespace Server

variable {d : Server ι κ S N W} {id : ι} {E : Engine κ S N W Sql Out}

@[simp] theorem reset_self : (d.reset id).txns id = .begun d.now :=
  Function.update_self ..

variable {other : ι} {n : N} {ws : List W} {ks : List κ}

theorem reset_other (h : other ≠ id) : (d.reset id).txns other = d.txns other :=
  Function.update_of_ne h ..

@[simp] theorem extend_own : (d.extend id ks ws n).txns id = (d.txns id).extend ks ws :=
  Function.update_self ..

theorem extend_other (h : other ≠ id) : (d.extend id ks ws n).txns other = d.txns other :=
  Function.update_of_ne h ..

@[simp] theorem publish_self : (d.publish id E).txns id = .begun d.now :=
  Function.update_self ..

theorem publish_other (h : other ≠ id) : (d.publish id E).txns other = d.txns other :=
  Function.update_of_ne h ..

/-- Keys stay apart when one session's are replaced by some that no other holds. -/
theorem apart_replaced {d' : Server ι κ S N W} (h : d.Apart)
    (hother : ∀ other, other ≠ id → d'.txns other = d.txns other)
    (hself : ∀ k ∈ (d'.txns id).locks, ¬d.held id k) : d'.Apart := by
  intro i j k hne hi hj
  by_cases hid : i = id
  · subst hid
    rw [hother j hne.symm] at hj
    exact hself k hi ⟨j, hne.symm, hj⟩
  · rw [hother i hid] at hi
    by_cases hjd : j = id
    · subst hjd
      exact hself k hj ⟨i, hid, hi⟩
    · rw [hother j hjd] at hj
      exact h i j k hne hi hj

omit [DecidableEq ι] in
/-- Nobody else holds what a session holds. -/
theorem Apart.not_held (h : d.Apart) {k : κ} (hk : k ∈ (d.txns id).locks) : ¬d.held id k := by
  rintro ⟨other, hne, hother⟩
  exact h id other k hne.symm hk hother

omit [DecidableEq ι] in
theorem Sound.later (h : d.Sound) {t : Int} (ht : d.now ≤ t) : (d.later t).Sound :=
  ⟨h.apart, fun id => Int.le_trans (h.begun id) ht, Int.le_trans h.past ht⟩

theorem Sound.reset (h : d.Sound) : (d.reset id).Sound := by
  refine ⟨apart_replaced h.apart (fun _ hne => reset_other hne) ?_, ?_, h.past⟩
  · intro k hk
    rw [reset_self] at hk
    cases hk
  · intro other
    by_cases hne : other = id
    · subst hne
      rw [reset_self]
      exact Int.le_refl _
    · rw [reset_other hne]
      exact h.begun other

theorem Sound.extend (h : d.Sound)
    (hks : ∀ k ∈ ks, ¬d.held id k) : (d.extend id ks ws n).Sound := by
  refine ⟨apart_replaced h.apart (fun _ hne => extend_other hne) ?_, ?_, h.past⟩
  · intro k hk
    rw [extend_own] at hk
    rcases List.mem_append.mp hk with hk | hk
    · exact h.apart.not_held hk
    · exact hks k hk
  · intro other
    by_cases hne : other = id
    · subst hne
      rw [extend_own]
      exact h.begun other
    · rw [extend_other hne]
      exact h.begun other

theorem Sound.publish (h : d.Sound) : (d.publish id E).Sound := by
  refine ⟨apart_replaced h.apart (fun _ hne => publish_other hne) ?_, ?_, Int.le_refl _⟩
  · intro k hk
    rw [publish_self] at hk
    cases hk
  · intro other
    by_cases hne : other = id
    · subst hne
      rw [publish_self]
      exact Int.le_refl _
    · rw [publish_other hne]
      exact h.begun other

end Server

/-! ## The rule -/

variable {E : Engine κ S N W Sql Out} {allowed : Server ι κ S N W → ι → Prop}
variable {inv : Server ι κ S N W → Prop}
variable {order : Server ι κ S N W → Server ι κ S N W → Prop}
variable {may : (q : Sql) → Txn κ W → Prop}
variable {fin : Except ε' α → Txn κ W → Prop}
variable {post : Except ε' α → Server ι κ S N W → Prop}
variable {report : Option Sql → ε → ε'} {label : Label}

variable (E allowed inv order post) in
/-- A client of the server that keeps what the others rely on. -/
def ServerSafe (id : ι)
    (p : Prog (ι × Request Sql Label α) (fun c => c.2.Reply ε Out) (Except ε' α))
    (d : Server ι κ S N W) : Prop :=
  NamedSafe (Server.exec E allowed) True (fun d => d.Sound ∧ inv d) order
    Server.Left (fun _ _ _ => True) post id p d

/-- A request is safe when it keeps bookkeeping, invariant and order at its own moment, leaves
the transactions of the others alone, and is followed by safe requests. -/
theorem request_safe (hkeep : Keeping E allowed inv order may fin post)
    (horder : ∀ a b c, order a b → order b c → order a c) {id : ι} {q : Request Sql Label α}
    {k : q.Reply ε Out → Prog (ι × Request Sql Label α) (fun c => c.2.Reply ε Out) (Except ε' α)}
    {t : Txn κ W} {d : Server ι κ S N W} (hd : d.txns id = t)
    (h : ∀ d : Server ι κ S N W, d.Sound → inv d → d.txns id = t →
      ∀ (r : q.Reply ε Out) d', Server.execAt E allowed (id, q) d r d' →
        d'.Sound ∧ inv d' ∧ order d d'
          ∧ (∀ other, other ≠ id → d'.txns other = d.txns other)
          ∧ ServerSafe E allowed inv order post id (k r) d') :
    ServerSafe E allowed inv order post id (.call (id, q) k) d := by
  intro d₁ hrely ⟨hsound, hinv⟩
  refine ⟨trivial, ?_⟩
  intro r d' ⟨t', ht', hexec⟩
  obtain ⟨hinv', horder'⟩ := hkeep.later d₁ t' hsound hinv ht'
  have htxn : (d₁.later t').txns id = t := hrely.trans hd
  obtain ⟨hs, hi, ho, hothers, hk⟩ := h _ (hsound.later ht') hinv' htxn r d' hexec
  exact ⟨⟨hs, hi⟩, horder _ _ _ horder' ho, fun other hne => hothers other (hne trivial), hk⟩

theorem reset_keeps (hkeep : Keeping E allowed inv order may fin post)
    {d : Server ι κ S N W} (id : ι) (hsound : d.Sound) (hinv : inv d) :
    (d.reset id).Sound ∧ inv (d.reset id) ∧ order d (d.reset id)
      ∧ ∀ other, other ≠ id → (d.reset id).txns other = d.txns other := by
  obtain ⟨hinv', horder'⟩ := hkeep.reset d id hsound hinv
  exact ⟨hsound.reset, hinv', horder', fun _ hne => Server.reset_other hne⟩

theorem publish_kept (hkeep : Keeping E allowed inv order may fin post)
    {d : Server ι κ S N W} {id : ι} (hsound : d.Sound) (hinv : inv d) (hallowed : allowed d id) :
    (d.publish id E).Sound ∧ inv (d.publish id E) ∧ order d (d.publish id E)
      ∧ ∀ other, other ≠ id → (d.publish id E).txns other = d.txns other := by
  obtain ⟨hinv', horder'⟩ := hkeep.commit d id hsound hinv hallowed
  exact ⟨hsound.publish, hinv', horder', fun _ hne => Server.publish_other hne⟩

/-- A program whose statements are permitted is safe to its commit. -/
theorem running_serverSafe (hkeep : Keeping E allowed inv order may fin post)
    (horder : ∀ a b c, order a b → order b c → order a c)
    (hcut : ∀ q e d, post (.error (report q e)) d) {id : ι} {p : Prog Sql Out (Except ε' α)}
    {t : Txn κ W} (hp : Permitted E inv may fin id p t) {d : Server ι κ S N W}
    (hd : d.txns id = t) :
    ServerSafe E allowed inv order post id (running report id label p) d := by
  induction p generalizing t d with
  | ret a =>
    cases a with
    | error e =>
      unfold running
      apply request_safe hkeep horder hd
      intro d hsound hinv htxn r d' hexec
      obtain ⟨hs, hi, ho, hothers⟩ := reset_keeps hkeep id hsound hinv
      have hd' : d' = d.reset id := hexec
      subst hd'
      exact ⟨hs, hi, ho, hothers, hkeep.raised d id e hsound hinv (htxn ▸ hp)⟩
    | ok a =>
      unfold running
      apply request_safe hkeep horder hd
      intro d hsound hinv htxn r d' hexec
      cases r with
      | ok _ =>
        obtain ⟨hallowed, rfl⟩ := hexec
        obtain ⟨hs, hi, ho, hothers⟩ := publish_kept hkeep hsound hinv hallowed
        exact ⟨hs, hi, ho, hothers, hkeep.done d id a hsound hinv hallowed (htxn ▸ hp)⟩
      | error e =>
        rcases hexec with rfl | ⟨hallowed, rfl⟩
        · obtain ⟨hs, hi, ho, hothers⟩ := reset_keeps hkeep id hsound hinv
          exact ⟨hs, hi, ho, hothers, hcut none e _⟩
        · obtain ⟨hs, hi, ho, hothers⟩ := publish_kept hkeep hsound hinv hallowed
          exact ⟨hs, hi, ho, hothers, hcut none e _⟩
  | call q k ih =>
    rw [running_call]
    apply request_safe hkeep horder hd
    intro d hsound hinv htxn r d' hexec
    cases r with
    | ok r =>
      obtain ⟨ws, ks, n, hact, hgrants, rfl⟩ := hexec
      obtain ⟨hinv', horder'⟩ :=
        hkeep.sql d id q r ws ks n hsound hinv (htxn ▸ hp.1) hact hgrants
      refine ⟨hsound.extend hgrants, hinv', horder', fun _ hne => Server.extend_other hne, ?_⟩
      apply ih r (hp.2 d hsound hinv htxn r ws ks n hact hgrants)
      rw [Server.extend_own, htxn]
    | error e =>
      have hd' : d' = d.reset id := hexec
      subst hd'
      obtain ⟨hs, hi, ho, hothers⟩ := reset_keeps hkeep id hsound hinv
      exact ⟨hs, hi, ho, hothers, hcut (some q) e _⟩

/-- A transaction is safe when its body is permitted, whenever it begins. -/
theorem transaction_serverSafe (hkeep : Keeping E allowed inv order may fin post)
    (horder : ∀ a b c, order a b → order b c → order a c)
    (hcut : ∀ q e d, post (.error (report q e)) d) {id : ι} {p : Prog Sql Out (Except ε' α)}
    (hp : ∀ t, Permitted E inv may fin id p (.begun t)) (d : Server ι κ S N W) :
    ServerSafe E allowed inv order post id (transaction report id label p) d := by
  unfold transaction
  apply request_safe hkeep horder rfl
  intro d hsound hinv _ r d' hexec
  have hd' : d' = d.reset id := hexec
  subst hd'
  obtain ⟨hs, hi, ho, hothers⟩ := reset_keeps hkeep id hsound hinv
  exact ⟨hs, hi, ho, hothers,
    running_serverSafe hkeep horder hcut (hp d.now) Server.reset_self⟩

/-- **The rule.** Where every client is a transaction whose statements are permitted, every
schedule keeps the bookkeeping and the invariant, and every answer given is as `post` says. -/
theorem server_kept {entry : ι → Prog (ι × Request Sql Label α)
      (fun c => c.2.Reply ε Out) (Except ε' α) → Prop}
    (hkeep : Keeping E allowed inv order may fin post) (hrefl : ∀ d, order d d)
    (horder : ∀ a b c, order a b → order b c → order a c)
    (hpost : ∀ a d d', post a d → order d d' → post a d')
    (hcut : ∀ q e d, post (.error (report q e)) d)
    (hentry : ∀ id p, entry id p → ∃ label body, p = transaction report id label body
      ∧ ∀ t, Permitted E inv may fin id body (.begun t))
    {d d' : Config (Server ι κ S N W) (ι × Prog (ι × Request Sql Label α)
      (fun c => c.2.Reply ε Out) (Except ε' α))}
    (hsteps : NamedSteps (Server.exec E allowed) entry True d d')
    (h : Kept (Server.exec E allowed) True (fun d => d.Sound ∧ inv d) order
      Server.Left (fun _ _ _ => True) post d) :
    Kept (Server.exec E allowed) True (fun d => d.Sound ∧ inv d) order
      Server.Left (fun _ _ _ => True) post d'
      ∧ order d.shared d'.shared := by
  have hleft : ∀ (id : ι) (s : Server ι κ S N W), Server.Left id s s := fun _ _ => rfl
  refine namedSteps_kept hrefl horder hleft ?_ hpost ?_ hsteps h
  · intro id a b c hab hbc
    exact hbc.trans hab
  · intro id p hp s _
    obtain ⟨label, body, rfl, hbody⟩ := hentry id p hp
    exact transaction_serverSafe hkeep horder hcut hbody s

end

end ControlAssurance.Lib
