import ControlAssurance.Oidc.LoginHistory

/-!
# What a store call keeps

One lemma for each kind of event: it is allowed by the history before it, and the store after it
fits the history with it. Each call that uses up a handle is made by the client that drew the
handle, and a session is stored by the client that consumed its transaction; `Rely` is what
follows for the other clients.
-/

namespace ControlAssurance.Oidc

open Lib ControlPlane

/-- No session was stored for a transaction. -/
def Unstored (log : List LoginEvent) (t : AuthorizationTransaction) : Prop :=
  ∀ h token jwks session, .stored h t token jwks session ∉ log

/-- The history goes on. -/
def LoginWorld.Order (s s' : LoginWorld) : Prop := s.log <+: s'.log

/-- What the others keep for the client `id`: the handles it drew stay its own, and nobody else
stores a session for a transaction it consumed. -/
structure LoginWorld.Rely (id : Nat) (s s' : LoginWorld) : Prop where
  log : s.log <+: s'.log
  texts : ∀ u ∈ s.texts, u ∈ s'.texts
  drawn : ∀ h, (h, id) ∈ s.drawn → (h, id) ∈ s'.drawn
  unused : ∀ h, (h, id) ∈ s.drawn → h ∉ handles s.log → h ∉ handles s'.log
  unstored : ∀ d stateDigest at_ t, .consumed id d stateDigest at_ (.ok t) ∈ s.log →
    Unstored s.log t → Unstored s'.log t

theorem LoginWorld.Rely.refl (id : Nat) (s : LoginWorld) : s.Rely id s :=
  ⟨List.prefix_rfl, fun _ h => h, fun _ h => h, fun _ _ h => h, fun _ _ _ _ _ h => h⟩

theorem LoginWorld.Rely.trans {id : Nat} {s₁ s₂ s₃ : LoginWorld} (h₁ : s₁.Rely id s₂)
    (h₂ : s₂.Rely id s₃) : s₁.Rely id s₃ := by
  refine ⟨h₁.log.trans h₂.log, fun u hu => h₂.texts u (h₁.texts u hu),
    fun h hh => h₂.drawn h (h₁.drawn h hh), ?_, ?_⟩
  · intro h hh hunused
    exact h₂.unused h (h₁.drawn h hh) (h₁.unused h hh hunused)
  · intro d stateDigest at_ t hmem hunstored
    exact h₂.unstored d stateDigest at_ t (h₁.log.subset hmem)
      (h₁.unstored d stateDigest at_ t hmem hunstored)

theorem handles_append (log : List LoginEvent) (e : LoginEvent) :
    handles (log ++ [e]) = handles log ++ e.handle.toList := by
  unfold handles
  rw [List.filterMap_append]
  cases he : e.handle with
  | none => simp [he]
  | some h => simp [he]

theorem mem_handles {log : List LoginEvent} {e : LoginEvent} {h : Handle} (he : e ∈ log)
    (hh : e.handle = some h) : h ∈ handles log :=
  List.mem_filterMap.mpr ⟨e, he, hh⟩

section

variable {runtime : OidcRuntime} {sha : Text → Digest} {configuration : OIDCConfiguration}
variable {s : LoginWorld}

theorem LoginWorld.Inv.unique (h : s.Inv runtime sha configuration) :
    ∀ x ∈ s.store.transactions, ∀ y ∈ s.store.transactions,
      x.transactionDigest = y.transactionDigest → x = y := by
  intro x hx y hy hdigest
  obtain ⟨⟨h₁, n₁, hx'⟩, -⟩ := h.begun x hx
  obtain ⟨⟨h₂, n₂, hy'⟩, -⟩ := h.begun y hy
  exact (begun_unique h.grown hx' hy' hdigest).1

variable {a : Handle} {e : LoginEvent}

/-- Two handles that were used up are equal if their digests are. -/
theorem LoginWorld.Inv.handle_of_digest (h : s.Inv runtime sha configuration) {b : Handle}
    (ha : a ∈ handles s.log) (hb : b64url b ∈ s.texts)
    (hdigest : sha (b64url a) = sha (b64url b)) : a = b :=
  b64url_inj (h.free _ (h.hashed a ha).2 _ hb hdigest)

/-- The digest of a handle that was not used up yet is not that of an event. -/
theorem LoginWorld.Inv.new_digest (h : s.Inv runtime sha configuration) {b : Handle}
    (hb : b64url b ∈ s.texts) (hunused : b ∉ handles s.log)
    (he : e ∈ s.log) (hhandle : e.handle = some a) : sha (b64url a) ≠ sha (b64url b) := by
  intro hdigest
  have ha := mem_handles he hhandle
  rw [h.handle_of_digest ha hb hdigest] at ha
  exact hunused ha

/-- Handing out a random value. -/
theorem LoginWorld.Inv.draw (h : s.Inv runtime sha configuration) {id : Nat}
    (hnew : a ∉ s.drawn.map (·.1)) :
    LoginWorld.Inv runtime sha configuration { s with drawn := (a, id) :: s.drawn } := by
  refine ⟨List.nodup_cons.mpr ⟨hnew, h.drawn⟩, h.free, h.grown, h.fresh, ?_, h.nonces, h.begun,
    h.burned, h.stored, h.revoked⟩
  intro b hb
  exact ⟨List.mem_cons_of_mem _ (h.hashed b hb).1, (h.hashed b hb).2⟩

theorem draw_rely (a : Handle) (id other : Nat) :
    s.Rely other { s with drawn := (a, id) :: s.drawn } :=
  ⟨List.prefix_rfl, fun _ h => h, fun _ h => List.mem_cons_of_mem _ h, fun _ _ h => h,
    fun _ _ _ _ _ h => h⟩

/-- Hashing a text. -/
theorem LoginWorld.Inv.hash (h : s.Inv runtime sha configuration) {text : Text}
    (hfree : ∀ u ∈ s.texts, sha u = sha text → u = text) :
    LoginWorld.Inv runtime sha configuration { s with texts := text :: s.texts } := by
  refine ⟨h.drawn, ?_, h.grown, h.fresh, ?_, ?_, h.begun, h.burned, h.stored, h.revoked⟩
  · intro u hu v hv huv
    rcases List.mem_cons.mp hu with hut | hold
    · rcases List.mem_cons.mp hv with hvt | hold'
      · exact hut.trans hvt.symm
      · rw [hut] at huv ⊢
        exact (hfree v hold' huv.symm).symm
    · rcases List.mem_cons.mp hv with hvt | hold'
      · rw [hvt] at huv ⊢
        exact hfree u hold huv
      · exact h.free u hold v hold' huv
  · intro b hb
    exact ⟨(h.hashed b hb).1, List.mem_cons_of_mem _ (h.hashed b hb).2⟩
  · intro a n t hmem
    exact List.mem_cons_of_mem _ (h.nonces a n t hmem)

theorem hash_rely (text : Text) (other : Nat) :
    s.Rely other { s with texts := text :: s.texts } :=
  ⟨List.prefix_rfl, fun _ h => List.mem_cons_of_mem _ h, fun _ h => h, fun _ _ h => h,
    fun _ _ _ _ _ h => h⟩

/-! ## Calls that leave less in the store -/

/-- The store lost entries, and the history says nothing. -/
theorem LoginWorld.Inv.shrink (h : s.Inv runtime sha configuration) {store : OIDCStateStore}
    (hshrunk : s.store.Shrunk store) :
    LoginWorld.Inv runtime sha configuration { s with store := store } := by
  refine ⟨h.drawn, h.free, h.grown, h.fresh, h.hashed, h.nonces, ?_, ?_, ?_, ?_⟩
  · intro t ht
    obtain ⟨hbegun, c, hc⟩ := h.begun t (hshrunk.transactions t ht)
    exact ⟨hbegun, c, hshrunk.capacities t ht c hc⟩
  · intro a n t c d at_ r hbefore hr x hx
    exact h.burned a n t c d at_ r hbefore hr x (hshrunk.transactions x hx)
  · exact fun x hx => h.stored x (hshrunk.sessions x hx)
  · intro a t token jwks x r hbefore y hy
    exact h.revoked a t token jwks x r hbefore y (hshrunk.sessions y hy)

/-- An event that uses up no handle. -/
theorem LoginWorld.Inv.snoc (h : s.Inv runtime sha configuration)
    (hallowed : LoginAllowed runtime sha configuration s.log e) (hhandle : e.handle = none)
    (hburned : ∀ a n t c d at_ r, .begun a n t ∈ s.log →
      e = .consumed c t.transactionDigest d at_ r → r ≠ .error unavailable →
      ∀ x ∈ s.store.transactions, x.transactionDigest ≠ t.transactionDigest)
    (hrevoked : ∀ d r, e = .revoked d r → ∀ y ∈ s.store.sessions, y.sessionIdDigest ≠ d) :
    LoginWorld.Inv runtime sha configuration { s with log := s.log ++ [e] } := by
  have hhandles : handles (s.log ++ [e]) = handles s.log := by
    rw [handles_append, hhandle]
    exact List.append_nil _
  refine ⟨h.drawn, h.free, .snoc h.grown hallowed, ?_, ?_, ?_, ?_, ?_, ?_, ?_⟩
  · show (handles (s.log ++ [e])).Nodup
    rw [hhandles]
    exact h.fresh
  · intro a ha
    have ha' : a ∈ handles (s.log ++ [e]) := ha
    rw [hhandles] at ha'
    exact h.hashed a ha'
  · intro a n t hmem
    rcases List.mem_append.mp hmem with hmem | hmem
    · exact h.nonces a n t hmem
    · rw [← List.mem_singleton.mp hmem] at hhandle
      cases hhandle
  · intro t ht
    obtain ⟨⟨a, n, hmem⟩, hc⟩ := h.begun t ht
    exact ⟨⟨a, n, List.mem_append_left _ hmem⟩, hc⟩
  · intro a n t c d at_ r hbefore hr
    rcases before_snoc.mp hbefore with hbefore | ⟨hmem, heq⟩
    · exact h.burned a n t c d at_ r hbefore hr
    · exact hburned a n t c d at_ r hmem heq.symm hr
  · intro x hx
    obtain ⟨a, t, token, jwks, hmem⟩ := h.stored x hx
    exact ⟨a, t, token, jwks, List.mem_append_left _ hmem⟩
  · intro a t token jwks x r hbefore
    rcases before_snoc.mp hbefore with hbefore | ⟨-, heq⟩
    · exact h.revoked a t token jwks x r hbefore
    · exact hrevoked _ r heq.symm

theorem snoc_rely (hhandle : e.handle = none) (store : OIDCStateStore)
    (other : Nat) : s.Rely other (s.after store [e]) := by
  refine ⟨List.prefix_append _ _, fun _ h => h, fun _ h => h, ?_, ?_⟩
  · intro a _ hunused
    show a ∉ handles (s.log ++ [e])
    rw [handles_append, hhandle]
    simpa using hunused
  · intro d stateDigest at_ t _ hunstored a token jwks session hmem
    rcases List.mem_append.mp hmem with hmem | hmem
    · exact hunstored a token jwks session hmem
    · rw [← List.mem_singleton.mp hmem] at hhandle
      cases hhandle

/-- `consume_transaction` -/
theorem LoginWorld.Inv.consume (h : s.Inv runtime sha configuration) (client : Nat)
    (d stateDigest : Digest) (at_ : Micros) :
    LoginWorld.Inv runtime sha configuration
      (s.after (s.store.consumeTransaction d stateDigest at_).2
        [.consumed client d stateDigest at_ (s.store.consumeTransaction d stateDigest at_).1]) := by
  have hconsumed := consumption s.store d stateDigest at_
  generalize (s.store.consumeTransaction d stateDigest at_).1 = r at hconsumed ⊢
  generalize (s.store.consumeTransaction d stateDigest at_).2 = store at hconsumed ⊢
  refine (h.shrink hconsumed.shrunk).snoc ?_ rfl ?_ (fun _ _ heq => nomatch heq)
  · cases hconsumed with
    | absent _ => exact trivial
    | broken _ _ _ _ => exact trivial
    | turnedAway => exact trivial
    | burned _ => exact trivial
    | taken t ht hd hstate hfrom hto =>
      obtain ⟨⟨a, n, hbegun⟩, -⟩ := h.begun t ht
      refine ⟨hd, hstate, hfrom, hto, ⟨a, n, hbegun⟩, ?_⟩
      intro a' n' c stateDigest' at' r hbefore
      by_contra hr
      rw [← hd] at hbefore
      exact h.burned a' n' t c stateDigest' at' r hbefore hr t ht rfl
  · intro a n t c d' at' r' _ heq hr
    cases heq
    exact hconsumed.gone (fun t ht => (h.begun t ht).2) hr

/-- `read_session` -/
theorem LoginWorld.Inv.read (h : s.Inv runtime sha configuration) (d : Digest) (at_ : Micros) :
    LoginWorld.Inv runtime sha configuration
      (s.after (s.store.readSession d at_).2 [.read d at_ (s.store.readSession d at_).1]) := by
  obtain ⟨hshrunk, hread⟩ := readSession_cases s.store d at_
  generalize (s.store.readSession d at_).1 = r at hread ⊢
  generalize (s.store.readSession d at_).2 = store at hshrunk ⊢
  refine (h.shrink hshrunk).snoc ?_ rfl (fun _ _ _ _ _ _ _ _ heq => nomatch heq)
    (fun _ _ heq => nomatch heq)
  cases r with
  | error e => exact trivial
  | ok x =>
    obtain ⟨hx, hd, hfrom, hto⟩ := hread x rfl
    obtain ⟨a, t, token, jwks, hmem⟩ := h.stored x hx
    refine ⟨hd, hfrom, hto, a, t, token, jwks, hmem, ?_⟩
    intro r hbefore
    rw [← hd] at hbefore
    exact h.revoked a t token jwks x r hbefore x hx rfl

/-- `revoke_session` -/
theorem LoginWorld.Inv.revoke (h : s.Inv runtime sha configuration) (d : Digest) (r : Bool) :
    LoginWorld.Inv runtime sha configuration (s.after (s.store.dropSession d) [.revoked d r]) := by
  refine (h.shrink (dropSession_shrunk d)).snoc trivial rfl
    (fun _ _ _ _ _ _ _ _ heq => nomatch heq) ?_
  intro d' r' heq
  cases heq
  exact dropSession_gone d

/-! ## Calls that use up a handle -/

/-- What the histories with a new handle share. -/
theorem LoginWorld.Inv.handles_snoc (h : s.Inv runtime sha configuration)
    (hhandle : e.handle = some a) (hdrawn : a ∈ s.drawn.map (·.1))
    (htext : b64url a ∈ s.texts) (hunused : a ∉ handles s.log) : (handles (s.log ++ [e])).Nodup
      ∧ ∀ b ∈ handles (s.log ++ [e]), b ∈ s.drawn.map (·.1) ∧ b64url b ∈ s.texts := by
  rw [handles_append, hhandle]
  constructor
  · refine List.nodup_append.mpr ⟨h.fresh, List.nodup_singleton _, ?_⟩
    intro x hx y hy hxy
    rw [List.mem_singleton.mp hy] at hxy
    rw [hxy] at hx
    exact hunused hx
  · intro b hb
    rcases List.mem_append.mp hb with hb | hb
    · exact h.hashed b hb
    · rw [List.mem_singleton.mp hb]
      exact ⟨hdrawn, htext⟩

/-- A transaction is added to the store. -/
theorem LoginWorld.Inv.add (h : s.Inv runtime sha configuration) {n : Handle}
    {t : AuthorizationTransaction} {source : String} {capacity : Nat}
    (hdigest : t.transactionDigest = sha (b64url a)) (hnonce : t.nonceDigest = sha (b64url n))
    (hdrawn : a ∈ s.drawn.map (·.1)) (htext : b64url a ∈ s.texts) (hntext : b64url n ∈ s.texts)
    (hunused : a ∉ handles s.log) :
    LoginWorld.Inv runtime sha configuration
      (s.after (s.store.add t source capacity) [.begun a n t]) := by
  -- the digest is not that of a transaction begun before
  have hnew : ∀ a' n' t', .begun a' n' t' ∈ s.log →
      t'.transactionDigest ≠ t.transactionDigest := by
    intro a' n' t' hmem
    obtain ⟨pre, post, -, -, hallowed⟩ := h.grown.mem hmem
    rw [hallowed.1, hdigest]
    exact h.new_digest htext hunused hmem rfl
  obtain ⟨hfresh, hhashed⟩ := h.handles_snoc (e := .begun a n t) rfl hdrawn htext hunused
  refine ⟨h.drawn, h.free, .snoc h.grown ⟨hdigest, hnonce, hnew⟩, hfresh, hhashed, ?_, ?_, ?_, ?_,
    ?_⟩
  · intro a' n' t' hmem
    rcases List.mem_append.mp hmem with hmem | hmem
    · exact h.nonces a' n' t' hmem
    · cases List.mem_singleton.mp hmem
      exact hntext
  · intro x hx
    rcases List.mem_append.mp hx with hx | hx
    · obtain ⟨⟨a', n', hmem⟩, c, hc⟩ := h.begun x hx
      exact ⟨⟨a', n', List.mem_append_left _ hmem⟩, c, List.mem_append_left _ hc⟩
    · rw [List.mem_singleton.mp hx]
      exact ⟨⟨a, n, List.mem_append_right _ (List.mem_singleton.mpr rfl)⟩, capacity,
        List.mem_append_right _ (List.mem_singleton.mpr rfl)⟩
  · intro a' n' t' c d at_ r hbefore hr x hx
    rcases before_snoc.mp hbefore with hbefore | ⟨-, heq⟩
    · rcases List.mem_append.mp hx with hx | hx
      · exact h.burned a' n' t' c d at_ r hbefore hr x hx
      · rw [List.mem_singleton.mp hx]
        exact Ne.symm (hnew a' n' t' hbefore.left)
    · cases heq
  · intro x hx
    obtain ⟨a', t', token, jwks, hmem⟩ := h.stored x hx
    exact ⟨a', t', token, jwks, List.mem_append_left _ hmem⟩
  · intro a' t' token jwks x r hbefore y hy
    rcases before_snoc.mp hbefore with hbefore | ⟨-, heq⟩
    · exact h.revoked a' t' token jwks x r hbefore y hy
    · cases heq

/-- A session is added to the store. -/
theorem LoginWorld.Inv.open (h : s.Inv runtime sha configuration)
    {t : AuthorizationTransaction} {token : String} {jwks : Bytes} {session : SessionRecord}
    {live : List SessionRecord} (hlive : ∀ x ∈ live, x ∈ s.store.sessions)
    (hallowed : LoginAllowed runtime sha configuration s.log (.stored a t token jwks session))
    (hdrawn : a ∈ s.drawn.map (·.1)) (htext : b64url a ∈ s.texts) (hunused : a ∉ handles s.log) :
    LoginWorld.Inv runtime sha configuration (s.after { s.store with sessions := live ++ [session] }
        [.stored a t token jwks session]) := by
  obtain ⟨hfresh, hhashed⟩ :=
    h.handles_snoc (e := .stored a t token jwks session) rfl hdrawn htext hunused
  refine ⟨h.drawn, h.free, .snoc h.grown hallowed, hfresh, hhashed, ?_, ?_, ?_, ?_, ?_⟩
  · intro a' n' t' hmem
    rcases List.mem_append.mp hmem with hmem | hmem
    · exact h.nonces a' n' t' hmem
    · cases List.mem_singleton.mp hmem
  · intro x hx
    obtain ⟨⟨a', n', hmem⟩, hc⟩ := h.begun x hx
    exact ⟨⟨a', n', List.mem_append_left _ hmem⟩, hc⟩
  · intro a' n' t' c d at_ r hbefore hr x hx
    rcases before_snoc.mp hbefore with hbefore | ⟨-, heq⟩
    · exact h.burned a' n' t' c d at_ r hbefore hr x hx
    · cases heq
  · intro x hx
    rcases List.mem_append.mp hx with hx | hx
    · obtain ⟨a', t', token', jwks', hmem⟩ := h.stored x (hlive x hx)
      exact ⟨a', t', token', jwks', List.mem_append_left _ hmem⟩
    · rw [List.mem_singleton.mp hx]
      exact ⟨a, t, token, jwks, List.mem_append_right _ (List.mem_singleton.mpr rfl)⟩
  · intro a' t' token' jwks' x r hbefore y hy
    rcases before_snoc.mp hbefore with hbefore | ⟨-, heq⟩
    · rcases List.mem_append.mp hy with hy | hy
      · exact h.revoked a' t' token' jwks' x r hbefore y (hlive y hy)
      · -- the new session has a new digest
        rw [List.mem_singleton.mp hy, hallowed.1]
        obtain ⟨pre, post, -, -, hold⟩ := h.grown.mem hbefore.left
        rw [hold.1]
        exact Ne.symm (h.new_digest htext hunused hbefore.left rfl)
    · cases heq

/-- The other clients do not own the handle that is used up, and did not consume the transaction
of a session that is stored. -/
theorem used_rely (h : s.Inv runtime sha configuration) {id : Nat}
    (hhandle : e.handle = some a) (hdrawn : (a, id) ∈ s.drawn)
    (hconsumed : ∀ t token jwks session, e = .stored a t token jwks session →
      ∃ d stateDigest at_, .consumed id d stateDigest at_ (.ok t) ∈ s.log)
    (store : OIDCStateStore) {other : Nat} (hne : other ≠ id) :
    s.Rely other (s.after store [e]) := by
  refine ⟨List.prefix_append _ _, fun _ h => h, fun _ h => h, ?_, ?_⟩
  · intro b hb hunused
    show b ∉ handles (s.log ++ [e])
    rw [handles_append, hhandle]
    intro hmem
    rcases List.mem_append.mp hmem with hmem | hmem
    · exact hunused hmem
    · -- a handle has one owner
      rw [List.mem_singleton.mp hmem] at hb
      have heq := List.inj_on_of_nodup_map h.drawn hb hdrawn rfl
      exact hne (congrArg Prod.snd heq)
  · intro d stateDigest at_ t hmem hunstored b token jwks session hstored
    rcases List.mem_append.mp hstored with hstored | hstored
    · exact hunstored b token jwks session hstored
    · have he := List.mem_singleton.mp hstored
      obtain rfl : b = a := by
        rw [← he] at hhandle
        exact Option.some.inj hhandle
      obtain ⟨d', stateDigest', at', hown⟩ := hconsumed t token jwks session he.symm
      obtain ⟨rfl, -⟩ := begun_before_consumed h.grown hmem
      obtain ⟨rfl, -⟩ := begun_before_consumed h.grown hown
      exact hne (consumed_unique h.grown hmem hown)

end

end ControlAssurance.Oidc
