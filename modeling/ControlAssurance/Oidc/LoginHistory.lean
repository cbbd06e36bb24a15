import ControlAssurance.Lib.Grown
import ControlAssurance.Oidc.Grants

/-!
# The history of logins

`LoginAllowed` says when an event may follow a history. A consume succeeds only for a transaction
that was begun, with its state and within its lifetime, and only if every consume of it so far
was turned away for lack of burn capacity; the store turns a consume away before it takes the
transaction out. A session is stored once for a transaction that was consumed, and as a token of
its nonce grants it. A session is read only within its lifetime, and not after it was revoked.

`LoginWorld.Inv` ties the store to the history. Its parts about the store are about what is no
longer there: a transaction that was taken out, a session that was revoked. They do not come
back, because digests come from handles, handles are fresh and the digests of two handles
differ.
-/

namespace ControlAssurance.Oidc

open Lib ControlPlane

/-- The handle an event used up. -/
def LoginEvent.handle : LoginEvent → Option Handle
  | .begun h _ _ => some h
  | .stored h _ _ _ _ => some h
  | _ => none

def handles (log : List LoginEvent) : List Handle := log.filterMap (·.handle)

section

variable (runtime : OidcRuntime) (sha : Text → Digest) (configuration : OIDCConfiguration)

/-- When an event may follow a history. -/
def LoginAllowed (log : List LoginEvent) : LoginEvent → Prop
  | .begun h n t => t.transactionDigest = sha (b64url h) ∧ t.nonceDigest = sha (b64url n)
      ∧ ∀ h' n' t', .begun h' n' t' ∈ log → t'.transactionDigest ≠ t.transactionDigest
  | .consumed _ d stateDigest at_ (.ok t) => t.transactionDigest = d
      ∧ t.stateDigest = stateDigest ∧ t.createdAt ≤ at_ ∧ at_ ≤ t.expiresAt
      ∧ (∃ h n, .begun h n t ∈ log)
      ∧ ∀ h n c stateDigest' at' r,
        Before log (.begun h n t) (.consumed c d stateDigest' at' r) → r = .error unavailable
  | .stored h t token jwks session => session.sessionIdDigest = sha (b64url h)
      ∧ (∃ h₀ n c stateDigest, Before log (.begun h₀ n t)
          (.consumed c t.transactionDigest stateDigest session.issuedAt (.ok t))
        ∧ ∃ parts exp, SessionGranted runtime configuration token jwks (b64url n) session parts exp)
      ∧ ∀ h' token' jwks' session', .stored h' t token' jwks' session' ∉ log
  | .read d at_ (.ok session) => session.sessionIdDigest = d
      ∧ session.issuedAt ≤ at_ ∧ at_ < session.expiresAt
      ∧ ∃ h t token jwks, .stored h t token jwks session ∈ log
        ∧ ∀ r, ¬Before log (.stored h t token jwks session) (.revoked d r)
  | _ => True

/-- The store and the history. -/
structure LoginWorld.Inv (s : LoginWorld) : Prop where
  drawn : (s.drawn.map (·.1)).Nodup
  free : ∀ u ∈ s.texts, ∀ v ∈ s.texts, sha u = sha v → u = v
  grown : Grown (LoginAllowed runtime sha configuration) s.log
  fresh : (handles s.log).Nodup
  hashed : ∀ h ∈ handles s.log, h ∈ s.drawn.map (·.1) ∧ b64url h ∈ s.texts
  nonces : ∀ h n t, .begun h n t ∈ s.log → b64url n ∈ s.texts
  begun : ∀ t ∈ s.store.transactions, (∃ h n, .begun h n t ∈ s.log)
    ∧ ∃ c, (t.transactionDigest, c) ∈ s.store.burnCapacities
  /-- A transaction leaves the store with the first consume that is not turned away. -/
  burned : ∀ h n t c stateDigest at_ r,
    Before s.log (.begun h n t) (.consumed c t.transactionDigest stateDigest at_ r) →
    r ≠ .error unavailable → ∀ x ∈ s.store.transactions,
      x.transactionDigest ≠ t.transactionDigest
  stored : ∀ x ∈ s.store.sessions, ∃ h t token jwks, .stored h t token jwks x ∈ s.log
  /-- A session leaves the store when it is revoked. -/
  revoked : ∀ h t token jwks x r,
    Before s.log (.stored h t token jwks x) (.revoked x.sessionIdDigest r) →
    ∀ y ∈ s.store.sessions, y.sessionIdDigest ≠ x.sessionIdDigest

end

/-! ## Handles and digests -/

theorem sextets_inj : ∀ {k m n : Nat}, m < 64 ^ k → n < 64 ^ k → sextets k m = sextets k n → m = n
  | 0, m, n, hm, hn, _ => by
    have : (64 : Nat) ^ 0 = 1 := rfl
    omega
  | k + 1, m, n, hm, hn, h => by
    obtain ⟨hlow, hhigh⟩ := List.cons.inj h
    have hpow : 64 ^ (k + 1) = 64 * 64 ^ k := Nat.pow_succ'
    have heq : m / 64 = n / 64 := by
      refine sextets_inj ?_ ?_ hhigh
      · exact Nat.div_lt_of_lt_mul (by omega)
      · exact Nat.div_lt_of_lt_mul (by omega)
    omega

theorem sextets_lt : ∀ {k n x : Nat}, x ∈ sextets k n → x < 64
  | k + 1, n, x, h => by
    rcases List.mem_cons.mp h with rfl | h
    · exact Nat.mod_lt _ (by decide)
    · exact sextets_lt h

theorem b64urlChar_inj : ∀ i < 64, ∀ j < 64, b64urlChar i = b64urlChar j → i = j := by
  decide

theorem map_inj_of {α β : Type} {f : α → β} : ∀ {l l' : List α},
    (∀ a ∈ l, ∀ b ∈ l', f a = f b → a = b) → l.map f = l'.map f → l = l'
  | [], [], _, _ => rfl
  | [], b :: l', _, h => by cases h
  | a :: l, [], _, h => by cases h
  | a :: l, b :: l', hinj, h => by
    obtain ⟨hab, hrest⟩ := List.cons.inj h
    rw [hinj a (List.mem_cons_self ..) b (List.mem_cons_self ..) hab,
      map_inj_of (fun x hx y hy => hinj x (List.mem_cons_of_mem _ hx) y (List.mem_cons_of_mem _ hy))
        hrest]

/-- Different handles have different texts. -/
theorem b64url_inj {h h' : Handle} (heq : b64url h = b64url h') : h = h' := by
  unfold b64url at heq
  have hdigits : (sextets 43 (h.toNat * 4)).reverse = (sextets 43 (h'.toNat * 4)).reverse := by
    refine map_inj_of ?_ heq
    intro a ha b hb
    exact b64urlChar_inj a (sextets_lt (List.mem_reverse.mp ha)) b (sextets_lt (List.mem_reverse.mp hb))
  have hbound : ∀ x : Handle, x.toNat * 4 < 64 ^ 43 := by
    intro x
    have hx := x.isLt
    have hpow : (64 : Nat) ^ 43 = 2 ^ 256 * 4 := by decide
    omega
  have hnat := sextets_inj (hbound h) (hbound h') (List.reverse_injective hdigits)
  exact BitVec.eq_of_toNat_eq (by omega)

/-! ## Reading a history -/

section

variable {runtime : OidcRuntime} {sha : Text → Digest} {configuration : OIDCConfiguration}
variable {log : List LoginEvent}

/-- A transaction is begun once. -/
theorem begun_unique (h : Grown (LoginAllowed runtime sha configuration) log)
    {h₁ n₁ h₂ n₂ : Handle} {t₁ t₂ : AuthorizationTransaction} (h₁mem : .begun h₁ n₁ t₁ ∈ log)
    (h₂mem : .begun h₂ n₂ t₂ ∈ log) (hdigest : t₁.transactionDigest = t₂.transactionDigest) :
    t₁ = t₂ ∧ n₁ = n₂ := by
  rcases before_or_before h₁mem h₂mem with heq | hbefore | hbefore
  · cases heq
    exact ⟨rfl, rfl⟩
  · obtain ⟨pre, post, -, hmem, -, hallowed⟩ := h.before hbefore
    exact absurd hdigest (hallowed.2.2 _ _ _ hmem)
  · obtain ⟨pre, post, -, hmem, -, hallowed⟩ := h.before hbefore
    exact absurd hdigest.symm (hallowed.2.2 _ _ _ hmem)

/-- A transaction that was consumed was begun before. -/
theorem begun_before_consumed (h : Grown (LoginAllowed runtime sha configuration) log) {c : Nat}
    {d stateDigest : Digest} {at_ : Micros} {t : AuthorizationTransaction}
    (hmem : .consumed c d stateDigest at_ (.ok t) ∈ log) :
    t.transactionDigest = d
      ∧ ∃ h n, Before log (.begun h n t) (.consumed c d stateDigest at_ (.ok t)) := by
  obtain ⟨pre, post, rfl, -, hallowed⟩ := h.mem hmem
  obtain ⟨hdigest, -, -, -, ⟨h₀, n, hbegun⟩, -⟩ := hallowed
  exact ⟨hdigest, h₀, n, before_of_mem hbegun⟩

/-- A transaction is consumed once. -/
theorem consumed_unique (h : Grown (LoginAllowed runtime sha configuration) log) {c₁ c₂ : Nat}
    {d s₁ s₂ : Digest} {a₁ a₂ : Micros} {t₁ t₂ : AuthorizationTransaction}
    (h₁ : .consumed c₁ d s₁ a₁ (.ok t₁) ∈ log) (h₂ : .consumed c₂ d s₂ a₂ (.ok t₂) ∈ log) :
    c₁ = c₂ := by
  -- the later one would have to find every earlier consume turned away
  have hlater : ∀ {c c' : Nat} {s s' : Digest} {a a' : Micros} {t t' : AuthorizationTransaction},
      ¬Before log (.consumed c d s a (.ok t)) (.consumed c' d s' a' (.ok t')) := by
    intro c c' s s' a a' t t' hbefore
    obtain ⟨pre, post, rfl, hmem, hpre, hallowed⟩ := h.before hbefore
    obtain ⟨hdigest', -, -, -, ⟨h₀, n, hbegun⟩, hturned⟩ := hallowed
    obtain ⟨hdigest, h₀', n', hfirst⟩ := begun_before_consumed hpre hmem
    obtain ⟨rfl, rfl⟩ := begun_unique hpre hfirst.left hbegun (hdigest.trans hdigest'.symm)
    exact nomatch hturned _ _ _ _ _ _ hfirst
  rcases before_or_before h₁ h₂ with heq | hbefore | hbefore
  · cases heq
    rfl
  · exact absurd hbefore hlater
  · exact absurd hbefore hlater

end

/-! ## The store's methods -/

/-- A store with no transaction and no session that was not there before. -/
structure OIDCStateStore.Shrunk (a b : OIDCStateStore) : Prop where
  transactions : ∀ t ∈ b.transactions, t ∈ a.transactions
  capacities : ∀ t ∈ b.transactions, ∀ c, (t.transactionDigest, c) ∈ a.burnCapacities →
    (t.transactionDigest, c) ∈ b.burnCapacities
  sessions : ∀ x ∈ b.sessions, x ∈ a.sessions

theorem OIDCStateStore.Shrunk.refl (a : OIDCStateStore) : a.Shrunk a :=
  ⟨fun _ h => h, fun _ _ _ h => h, fun _ h => h⟩

section

variable {store : OIDCStateStore}

/-- Pruning drops the entries of expired transactions, and of no other one. -/
theorem pruned_shrunk
    (hunique : ∀ x ∈ store.transactions, ∀ y ∈ store.transactions,
      x.transactionDigest = y.transactionDigest → x = y) (now : Micros) :
    store.Shrunk (store.pruned now) := by
  refine ⟨fun t ht => List.mem_of_mem_filter ht, ?_, fun _ h => h⟩
  intro t ht c hc
  refine List.mem_filter.mpr ⟨hc, decide_eq_true ?_⟩
  intro hexpired
  obtain ⟨x, hx, hdigest⟩ := List.mem_map.mp hexpired
  obtain ⟨hxmem, hxold⟩ := List.mem_filter.mp hx
  obtain ⟨htmem, htlive⟩ := List.mem_filter.mp ht
  obtain rfl := hunique x hxmem t htmem hdigest
  exact absurd (of_decide_eq_true htlive) (Int.not_lt.mpr (of_decide_eq_true hxold))

/-- A transaction is refused, or added under a digest that is not in the store. -/
theorem createTransaction_cases (store : OIDCStateStore) (t : AuthorizationTransaction)
    (source : String) (policy : OIDCLoginAdmissionPolicy) :
    (∃ e, (store.createTransaction t source policy).1 = .error e
      ∧ ((store.createTransaction t source policy).2 = store
        ∨ (store.createTransaction t source policy).2 = store.pruned t.createdAt))
      ∨ store.createTransaction t source policy
        = (.ok (), (store.pruned t.createdAt).add t source policy.burnCapacity) := by
  unfold OIDCStateStore.createTransaction
  dsimp only
  split
  · exact Or.inl ⟨_, rfl, Or.inl rfl⟩
  · split
    · exact Or.inl ⟨_, rfl, Or.inr rfl⟩
    · split
      · exact Or.inl ⟨_, rfl, Or.inr rfl⟩
      · split
        · exact Or.inl ⟨_, rfl, Or.inr rfl⟩
        · split
          · exact Or.inl ⟨_, rfl, Or.inr rfl⟩
          · exact Or.inr rfl

/-- What a consume did. -/
inductive Consumption (store : OIDCStateStore) (d stateDigest : Digest) (at_ : Micros) :
    Except Failure AuthorizationTransaction → OIDCStateStore → Prop
  | absent (h : ∀ t ∈ store.transactions, t.transactionDigest ≠ d) :
      Consumption store d stateDigest at_ (.error (.oidc "invalid_transaction")) store
  | broken (t : AuthorizationTransaction) (ht : t ∈ store.transactions)
      (hd : t.transactionDigest = d) (h : ∀ e ∈ store.burnCapacities, e.1 ≠ d) :
      Consumption store d stateDigest at_ (.error (.other "KeyError"))
        { store with usedTransactions := store.unburned at_ }
  | turnedAway : Consumption store d stateDigest at_ (.error unavailable)
        { store with usedTransactions := store.unburned at_ }
  | burned (t : AuthorizationTransaction) :
      Consumption store d stateDigest at_ (.error (.oidc "invalid_transaction"))
        ({ store with usedTransactions := store.unburned at_ }.burn t d)
  | taken (t : AuthorizationTransaction) (ht : t ∈ store.transactions)
      (hd : t.transactionDigest = d) (hstate : t.stateDigest = stateDigest)
      (hfrom : t.createdAt ≤ at_) (hto : at_ ≤ t.expiresAt) :
      Consumption store d stateDigest at_ (.ok t)
        ({ store with usedTransactions := store.unburned at_ }.burn t d)

theorem consumption (store : OIDCStateStore) (d stateDigest : Digest) (at_ : Micros) :
    Consumption store d stateDigest at_ (store.consumeTransaction d stateDigest at_).1
      (store.consumeTransaction d stateDigest at_).2 := by
  unfold OIDCStateStore.consumeTransaction
  split
  · rename_i hnone
    refine .absent fun t ht hd => ?_
    exact List.find?_eq_none.mp hnone t ht (decide_eq_true hd)
  · rename_i t hfind
    have ht := List.mem_of_find?_eq_some hfind
    have hd : t.transactionDigest = d := by
      have hp := List.find?_some hfind
      exact of_decide_eq_true hp
    dsimp only
    split
    · rename_i hnone
      refine .broken t ht hd fun e he hkey => ?_
      exact List.find?_eq_none.mp hnone e he (decide_eq_true hkey)
    · split
      · exact .turnedAway
      · split
        · exact .burned t
        · rename_i hgood
          have hgood' := not_or.mp hgood
          have hrest := not_or.mp hgood'.2
          exact .taken t ht hd (not_not.mp hrest.2) (Int.not_lt.mp hgood'.1)
            (Int.not_lt.mp hrest.1)

theorem burn_shrunk (t : AuthorizationTransaction) (d : Digest)
    (used : List (Digest × Micros)) :
    store.Shrunk ({ store with usedTransactions := used }.burn t d) := by
  refine ⟨fun x hx => List.mem_of_mem_filter hx, ?_, fun _ h => h⟩
  intro x hx c hc
  obtain ⟨-, hne⟩ := List.mem_filter.mp hx
  exact List.mem_filter.mpr ⟨hc, hne⟩

/-- After a consume that was not turned away, the digest is not in the store. -/
theorem Consumption.gone {d stateDigest : Digest} {at_ : Micros}
    {r : Except Failure AuthorizationTransaction} {store' : OIDCStateStore}
    (h : Consumption store d stateDigest at_ r store')
    (hkeys : ∀ t ∈ store.transactions, ∃ c, (t.transactionDigest, c) ∈ store.burnCapacities)
    (hr : r ≠ .error unavailable) : ∀ x ∈ store'.transactions, x.transactionDigest ≠ d := by
  cases h with
  | absent h => exact h
  | broken t ht hd hbroken =>
    obtain ⟨c, hc⟩ := hkeys t ht
    exact absurd hd (hbroken _ hc)
  | turnedAway => exact absurd rfl hr
  | burned t =>
    intro x hx
    exact of_decide_eq_true (List.mem_filter.mp hx).2
  | taken t ht hd hstate hfrom hto =>
    intro x hx
    exact of_decide_eq_true (List.mem_filter.mp hx).2

theorem Consumption.shrunk {d stateDigest : Digest} {at_ : Micros}
    {r : Except Failure AuthorizationTransaction} {store' : OIDCStateStore}
    (h : Consumption store d stateDigest at_ r store') : store.Shrunk store' := by
  cases h with
  | absent h => exact .refl _
  | broken t ht hd hbroken => exact ⟨fun _ h => h, fun _ _ _ h => h, fun _ h => h⟩
  | turnedAway => exact ⟨fun _ h => h, fun _ _ _ h => h, fun _ h => h⟩
  | burned t => exact burn_shrunk t d _
  | taken t ht hd hstate hfrom hto => exact burn_shrunk t d _

theorem dropSession_shrunk (d : Digest) : store.Shrunk (store.dropSession d) :=
  ⟨fun _ h => h, fun _ _ _ h => h, fun _ h => List.mem_of_mem_filter h⟩

theorem dropSession_gone (d : Digest) :
    ∀ x ∈ (store.dropSession d).sessions, x.sessionIdDigest ≠ d := by
  intro x hx
  exact of_decide_eq_true (List.mem_filter.mp hx).2

/-- A session is read within its lifetime, or the store has one less. -/
theorem readSession_cases (store : OIDCStateStore) (d : Digest) (at_ : Micros) :
    store.Shrunk (store.readSession d at_).2
      ∧ ∀ x, (store.readSession d at_).1 = .ok x → x ∈ store.sessions
        ∧ x.sessionIdDigest = d ∧ x.issuedAt ≤ at_ ∧ at_ < x.expiresAt := by
  unfold OIDCStateStore.readSession
  split
  · exact ⟨.refl _, fun x hx => nomatch hx⟩
  · rename_i session hfind
    have hd : session.sessionIdDigest = d := by
      have hp := List.find?_some hfind
      exact of_decide_eq_true hp
    split
    · exact ⟨dropSession_shrunk d, fun x hx => nomatch hx⟩
    · rename_i hlive
      refine ⟨.refl _, fun x hx => ?_⟩
      obtain rfl := Except.ok.inj hx
      obtain ⟨hfrom, hto⟩ := not_or.mp hlive
      exact ⟨List.mem_of_find?_eq_some hfind, hd, Int.not_lt.mp hfrom, Int.not_le.mp hto⟩

theorem createSession_cases (store : OIDCStateStore) (session : SessionRecord) :
    (∃ e, (store.createSession session).1 = .error e
      ∧ store.Shrunk (store.createSession session).2)
      ∨ ((store.createSession session).1 = .ok ()
        ∧ ∃ live, (∀ x ∈ live, x ∈ store.sessions)
          ∧ (store.createSession session).2 = { store with sessions := live ++ [session] }) := by
  unfold OIDCStateStore.createSession
  dsimp only
  split
  · exact Or.inl ⟨_, rfl, fun _ h => h, fun _ _ _ h => h, fun _ h => List.mem_of_mem_filter h⟩
  · exact Or.inr ⟨rfl, _, fun _ h => List.mem_of_mem_filter h, rfl⟩

end

end ControlAssurance.Oidc
