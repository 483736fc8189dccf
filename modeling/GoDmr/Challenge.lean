/-
**The challenge of an incoming login.**

A repeater logs in to the master with `RPTL`; the master draws a 4-byte nonce, sets the peer's
token to `UpdateToken(nonce)` and answers `RPTACK‖nonce`; the repeater proves it holds the key by
sending `RPTK‖id‖token`, 40 bytes, and the master authenticates it only when the token matches.
This module proves that the endpoint keeps to this over every run: an incoming peer is
authenticated only after the repeater at its address answered the last nonce it was sent with the
token of that nonce, and a peer waiting for the key holds the token of the last nonce.

The statement is about the history of the run, `GoDmr.trace`: what the endpoint received from an
address and what it wrote to it.  Nothing else can authenticate an incoming peer — not the
keepalive tick, not the branches of outgoing peers, not a configuration or a ping, not the
registration of an unknown address — provided the host only links peers that have not logged in.

Main definitions:

* `GoDmr.NonceReply`, `GoDmr.KeyFrom` — an event answers an `RPTL` with a nonce, an event is a
  40-byte `RPTK` with a given token;
* `GoDmr.LastNonce`, `GoDmr.KeyAfterLastNonce` — what a history shows of the challenge at an
  address;
* `GoDmr.Moves` — what one event may do to the login state of an incoming peer;
* `GoDmr.Touches` — a call changes the login state of the peer objects of a set only, keeps
  every object's address, role and key, and registers no peer;
* `GoDmr.LoginInv` — the invariant of a run.

Main results:

* `GoDmr.Homebrew.moves_handlePeer` — **one datagram** moves an incoming peer only as the
  challenge allows;
* `GoDmr.loginStep_step` — every operation keeps the registry consistent and moves each incoming
  peer it registers or finds registered as `Moves` allows;
* `GoDmr.loginInv_run` — every run from the empty registry keeps the invariant;
* `GoDmr.incoming_done_requires_key` — **the challenge is sound**.
-/

import GoDmr.Table

set_option relaxedAutoImplicit false
set_option autoImplicit false

namespace GoDmr

open Homebrew

/-! ### What a history shows of the challenge -/

/-- The event answers an `RPTL` from `a` with `RPTACK‖n`. -/
def NonceReply (a : Addr) (n : List UInt8) : Op × Out → Prop
  | (.recv _ r msg, o) => r = a ∧ msg.take 4 = RepeaterLogin ∧ (a, RepeaterACK ++ n) ∈ o.sent
  | _ => False

/-- The event answers no `RPTL` from `a` with a nonce. -/
def NoNonce (a : Addr) (e : Op × Out) : Prop := ∀ n, ¬ NonceReply a n e

/-- The event is a 40-byte `RPTK` from `a` whose bytes 8..39 are `tok`. -/
def KeyFrom (a : Addr) (tok : List UInt8) : Op × Out → Prop
  | (.recv _ r msg, _) => r = a ∧ msg.length = 40 ∧ msg.take 4 = RepeaterKey ∧ msg.drop 8 = tok
  | _ => False

/-- In the history `tr`, the last nonce the endpoint answered to `a` is `n`. -/
def LastNonce (a : Addr) (n : List UInt8) (tr : List (Op × Out)) : Prop :=
  ∃ pre e post, tr = pre ++ e :: post ∧ NonceReply a n e ∧ ∀ e' ∈ post, NoNonce a e'

/-- In the history `tr`, the endpoint received from `a` a 40-byte `RPTK` carrying the token that
`UpdateToken` derives from `key` and the last nonce answered to `a` before it, and answered no
nonce to `a` from then on. -/
def KeyAfterLastNonce (X : Ext) (a : Addr) (key : List UInt8) (tr : List (Op × Out)) : Prop :=
  ∃ pre k post n, tr = pre ++ k :: post ∧ LastNonce a n pre ∧ KeyFrom a (X.updateToken key n) k ∧
    NoNonce a k ∧ ∀ e ∈ post, NoNonce a e

theorem noNonce_of_sent {a : Addr} {op : Op} {o : Out} (ho : o.sent = []) : NoNonce a (op, o) := by
  intro n hn
  cases op <;> simp_all [NonceReply]

theorem noNonce_of_ne {a r : Addr} (hr : r ≠ a) (env : Env) (msg : List UInt8) (o : Out) :
    NoNonce a (.recv env r msg, o) :=
  fun _ hn => hr hn.1

theorem noNonce_of_not_login {a r : Addr} {msg : List UInt8} (hm : msg.take 4 ≠ RepeaterLogin)
    (env : Env) (o : Out) : NoNonce a (.recv env r msg, o) :=
  fun _ hn => hm hn.2.1

theorem LastNonce.snoc {a : Addr} {n : List UInt8} {tr : List (Op × Out)} {e : Op × Out}
    (h : LastNonce a n tr) (he : NoNonce a e) : LastNonce a n (tr ++ [e]) := by
  obtain ⟨pre, e₀, post, rfl, h₀, hpost⟩ := h
  refine ⟨pre, e₀, post ++ [e], by simp, h₀, fun e' he' => ?_⟩
  rcases List.mem_append.1 he' with he' | he'
  exacts [hpost e' he', List.mem_singleton.1 he' ▸ he]

theorem LastNonce.reply {a : Addr} {n : List UInt8} (tr : List (Op × Out)) {e : Op × Out}
    (he : NonceReply a n e) : LastNonce a n (tr ++ [e]) :=
  ⟨tr, e, [], rfl, he, by simp⟩

theorem KeyAfterLastNonce.snoc {X : Ext} {a : Addr} {key : List UInt8} {tr : List (Op × Out)}
    {e : Op × Out} (h : KeyAfterLastNonce X a key tr) (he : NoNonce a e) :
    KeyAfterLastNonce X a key (tr ++ [e]) := by
  obtain ⟨pre, k, post, n, rfl, hl, hk, hkn, hpost⟩ := h
  refine ⟨pre, k, post ++ [e], n, by simp, hl, hk, hkn, fun e' he' => ?_⟩
  rcases List.mem_append.1 he' with he' | he'
  exacts [hpost e' he', List.mem_singleton.1 he' ▸ he]

theorem KeyAfterLastNonce.key {X : Ext} {a : Addr} {key n : List UInt8} {tr : List (Op × Out)}
    {e : Op × Out} (hl : LastNonce a n tr) (hk : KeyFrom a (X.updateToken key n) e)
    (he : NoNonce a e) : KeyAfterLastNonce X a key (tr ++ [e]) :=
  ⟨tr, e, [], n, rfl, hl, hk, he, by simp⟩

/-! ### The login state of an incoming peer -/

/-- What the history must show of the incoming peer `q` registered at `a`: waiting for the key,
it holds the token of the last nonce answered to `a`; authenticated, it sent the key for the last
nonce. -/
structure Challenged (X : Ext) (a : Addr) (q : Peer) (tr : List (Op × Out)) : Prop where
  begin : q.status = .authBegin → ∃ n, LastNonce a n tr ∧ q.token = X.updateToken q.authKey n
  done : q.status = .authDone → KeyAfterLastNonce X a q.authKey tr

theorem Challenged.of_authNone {X : Ext} {a : Addr} {q : Peer} (hq : q.status = .authNone)
    (tr : List (Op × Out)) : Challenged X a q tr :=
  ⟨fun h => absurd (hq.symm.trans h) (by decide), fun h => absurd (hq.symm.trans h) (by decide)⟩

/-- What one event `e` may do to the login state of an incoming peer at `a`: its role and key stay;
it waits for the key only if it did and no nonce was answered, or the event answered a nonce and
the token is that nonce's; it is authenticated only if it was and no nonce was answered, or it was
waiting and the event is the `RPTK` with its token. -/
structure Moves (X : Ext) (a : Addr) (e : Op × Out) (q q' : Peer) : Prop where
  incoming : q'.incoming = q.incoming
  authKey : q'.authKey = q.authKey
  begin : q'.status = .authBegin →
    (q.status = .authBegin ∧ q'.token = q.token ∧ NoNonce a e) ∨
      ∃ n, NonceReply a n e ∧ q'.token = X.updateToken q.authKey n
  done : q'.status = .authDone →
    (q.status = .authDone ∧ NoNonce a e) ∨ (q.status = .authBegin ∧ KeyFrom a q.token e ∧ NoNonce a e)

theorem Challenged.of_moves {X : Ext} {a : Addr} {q q' : Peer} {tr : List (Op × Out)}
    {e : Op × Out} (hc : Challenged X a q tr) (hm : Moves X a e q q') :
    Challenged X a q' (tr ++ [e]) where
  begin hb := by
    rcases hm.begin hb with ⟨hq, ht, he⟩ | ⟨n, hn, ht⟩
    · obtain ⟨n, hl, hn⟩ := hc.begin hq
      exact ⟨n, hl.snoc he, by rw [ht, hn, hm.authKey]⟩
    · exact ⟨n, .reply tr hn, by rw [ht, hm.authKey]⟩
  done hd := by
    rcases hm.done hd with ⟨hq, he⟩ | ⟨hq, hk, he⟩
    · exact hm.authKey ▸ (hc.done hq).snoc he
    · obtain ⟨n, hl, hn⟩ := hc.begin hq
      exact .key hl (by rw [hm.authKey, ← hn]; exact hk) he

/-- What no call changes of a peer object: its address, role and key. -/
def Peer.ident (q : Peer) : Option Addr × Bool × List UInt8 := (q.addr, q.incoming, q.authKey)

/-- What the login changes of a peer object. -/
def Peer.login (q : Peer) : AuthStatus × List UInt8 := (q.status, q.token)

theorem Moves.stay {X : Ext} {a : Addr} {e : Op × Out} {q q' : Peer} (hi : q'.ident = q.ident)
    (hl : q'.login = q.login) (he : NoNonce a e) : Moves X a e q q' := by
  simp only [Peer.ident, Peer.login, Prod.mk.injEq] at hi hl
  exact ⟨hi.2.1, hi.2.2, fun h => .inl ⟨hl.1 ▸ h, hl.2, he⟩, fun h => .inl ⟨hl.1 ▸ h, he⟩⟩

/-- A `Moves` reads the peer before only through its role, key, status and token. -/
theorem Moves.of_ident_login {X : Ext} {a : Addr} {e : Op × Out} {q₀ q q' : Peer}
    (hi : q₀.ident = q.ident) (hl : q₀.login = q.login) (hm : Moves X a e q₀ q') :
    Moves X a e q q' := by
  simp only [Peer.ident, Peer.login, Prod.mk.injEq] at hi hl
  obtain ⟨h₁, h₂, h₃, h₄⟩ := hm
  exact ⟨h₁.trans hi.2.1, h₂.trans hi.2.2, by rwa [← hl.1, ← hl.2, ← hi.2.2],
    by rwa [← hl.1, ← hl.2]⟩

/-- A `Moves` reads of the event only the operation and what was written. -/
theorem Moves.of_sent {X : Ext} {a : Addr} {op : Op} {o o' : Out} {q q' : Peer}
    (hs : o'.sent = o.sent) (hm : Moves X a (op, o') q q') : Moves X a (op, o) q q' := by
  have hn : ∀ n, NonceReply a n (op, o') ↔ NonceReply a n (op, o) := fun n => by
    cases op <;> simp [NonceReply, hs]
  have hk : ∀ t, KeyFrom a t (op, o') ↔ KeyFrom a t (op, o) := fun t => by cases op <;> rfl
  obtain ⟨h₁, h₂, h₃, h₄⟩ := hm
  refine ⟨h₁, h₂, fun h => ?_, fun h => ?_⟩
  · rcases h₃ h with ⟨a₁, a₂, a₃⟩ | ⟨n, a₁, a₂⟩
    exacts [.inl ⟨a₁, a₂, fun n => by rw [← hn]; exact a₃ n⟩, .inr ⟨n, (hn n).1 a₁, a₂⟩]
  · rcases h₄ h with ⟨a₁, a₂⟩ | ⟨a₁, a₂, a₃⟩
    exacts [.inl ⟨a₁, fun n => by rw [← hn]; exact a₂ n⟩,
      .inr ⟨a₁, (hk _).1 a₂, fun n => by rw [← hn]; exact a₃ n⟩]

theorem Peer.addrString_eq_of_ident {q q' : Peer} (h : q'.ident = q.ident) :
    q'.addrString = q.addrString := by
  simp only [Peer.ident, Prod.mk.injEq] at h
  simp [Peer.addrString, h.1]

/-- A peer that ends neither waiting for the key nor authenticated moved as the challenge
allows, whatever the event. -/
theorem Moves.idle {X : Ext} {a : Addr} {e : Op × Out} {q q' : Peer} (hi : q'.ident = q.ident)
    (hb : q'.status ≠ .authBegin) (hd : q'.status ≠ .authDone) : Moves X a e q q' := by
  simp only [Peer.ident, Prod.mk.injEq] at hi
  exact ⟨hi.2.1, hi.2.2, fun h => absurd h hb, fun h => absurd h hd⟩

/-! ### What a call may change -/

/-- `h'` keeps the allocator and every peer object's address, role and key, registers no peer that
`h` did not register at the same address, and changes the login state of no object outside
`S`. -/
structure Touches (S : Ptr → Prop) (h h' : Homebrew) : Prop where
  next : h'.next = h.next
  ident : ∀ q, (h'.heap q).ident = (h.heap q).ident
  registry : ∀ a x, h'.getPeerByAddr a = some x → h.getPeerByAddr a = some x
  login : ∀ q, ¬ S q → (h'.heap q).login = (h.heap q).login

namespace Touches

variable {S S' : Ptr → Prop} {h h' h'' : Homebrew}

theorem refl (S : Ptr → Prop) (h : Homebrew) : Touches S h h :=
  ⟨rfl, fun _ => rfl, fun _ _ hx => hx, fun _ _ => rfl⟩

theorem trans (h₁ : Touches S h h') (h₂ : Touches S h' h'') : Touches S h h'' :=
  ⟨h₂.next.trans h₁.next, fun q => (h₂.ident q).trans (h₁.ident q),
    fun a x hx => h₁.registry a x (h₂.registry a x hx),
    fun q hq => (h₂.login q hq).trans (h₁.login q hq)⟩

theorem mono (ht : Touches S h h') (hS : ∀ q, S q → S' q) : Touches S' h h' :=
  ⟨ht.next, ht.ident, ht.registry, fun q hq => ht.login q fun h => hq (hS q h)⟩

/-- A change of the endpoint's own fields touches no peer object. -/
theorem of_heap (S : Ptr → Prop) (hh : h'.heap = h.heap) (hp : h'.peer = h.peer)
    (hn : h'.next = h.next) : Touches S h h' :=
  ⟨hn, fun q => by rw [hh], fun a x hx => by simpa [getPeerByAddr, hp] using hx,
    fun q _ => by rw [hh]⟩

end Touches

namespace Homebrew

theorem OnlyStamps.touches {h h' : Homebrew} (hs : OnlyStamps h h') (S : Ptr → Prop) :
    Touches S h h' :=
  ⟨hs.2.2.1, fun q => (congrArg Peer.ident (hs.heap_eq q) :),
    fun a x hx => by simpa [getPeerByAddr, hs.1] using hx,
    fun q _ => (congrArg Peer.login (hs.heap_eq q) :)⟩

theorem touches_modify (h : Homebrew) (p : Ptr) {f : Peer → Peer}
    (hf : ∀ q, (f q).ident = q.ident) : Touches (· = p) h (h.modify p f) := by
  refine ⟨rfl, fun q => ?_, fun a x hx => hx, fun q hq => ?_⟩
  · by_cases hq : q = p
    · subst hq; simp [hf]
    · simp [heap_modify_of_ne _ _ hq]
  · simp [heap_modify_of_ne _ _ hq]

theorem touches_setStatus (h : Homebrew) (p : Ptr) (s : AuthStatus) :
    Touches (· = p) h (h.setStatus p s) :=
  touches_modify h p fun _ => rfl

theorem touches_unlink (S : Ptr → Prop) (h : Homebrew) (i : UInt32) :
    Touches S h (unlink h i).h := by
  refine ⟨?_, fun q => by simp, fun a x hx => ?_, fun q _ => by simp⟩
  · unfold unlink; split <;> rfl
  · unfold unlink at hx; split at hx
    · exact hx
    · rename_i p _
      simp only [getPeerByAddr] at hx ⊢
      by_cases ha : a = (h.heap p).addrString
      · subst ha; simp at hx
      · rwa [AList.lookup_erase_ne ha] at hx

/-- A change of one peer object that keeps its login state touches no object's. -/
theorem touches_modify_of_login (S : Ptr → Prop) (h : Homebrew) (p : Ptr) {f : Peer → Peer}
    (hf : ∀ q, (f q).ident = q.ident ∧ (f q).login = q.login) : Touches S h (h.modify p f) := by
  refine ⟨rfl, fun q => ?_, fun a x hx => hx, fun q _ => ?_⟩ <;>
  · by_cases hq : q = p
    · subst hq; simp [hf]
    · simp [heap_modify_of_ne _ _ hq]

variable (X : Ext) (env : Env)

theorem touches_handlePacket (S : Ptr → Prop) (h : Homebrew) (p : Packet) (peer : Ptr) :
    Touches S h (handlePacket X env h p peer).h := by
  unfold handlePacket
  rcases hq : (h.heap peer).packetReceived with _ | f
  · rcases hf : h.pf with _ | f
    · simp only [hq, hf]
      split_ifs
      · unfold sendTG
        have h₁ : Touches S h { h with pf := none, last := env.now } := .of_heap S rfl rfl rfl
        refine h₁.trans (Touches.trans (touches_modify_of_login S _ peer ?_)
          ((onlyStamps_writeEach env _ _ _ _).touches S))
        exact fun _ => ⟨rfl, rfl⟩
      · exact .of_heap S rfl rfl rfl
    · simp only [hq, hf]; exact .of_heap S rfl rfl rfl
  · simp only [hq]; exact .of_heap S rfl rfl rfl

section Branches

variable (S : Ptr → Prop) (g : Homebrew) (p : Ptr) (d : Datagram)

theorem touches_dispatch : Touches S g (dispatch X env g p d).h := by
  unfold dispatch; split
  exacts [.refl S g, touches_handlePacket X env S _ _ _]

theorem touches_handleIncomingDone : Touches S g (handleIncomingDone X env g p d).h := by
  unfold handleIncomingDone pong
  split_ifs
  · exact touches_dispatch X env S g p d
  · exact .refl S g
  · exact ((onlyStamps_stamp g p _).trans (onlyStamps_writeToPeer env _ p _)).touches S
  · exact ((onlyStamps_stamp g p _).trans (onlyStamps_writeToPeer env _ p _)).touches S
  · split
    · dsimp only
      refine touches_modify_of_login S g p ?_
      exact fun _ => ⟨rfl, rfl⟩
    · refine (touches_modify_of_login S g p ?_).trans ((onlyStamps_writeToPeer env _ p _).touches S)
      exact fun _ => ⟨rfl, rfl⟩
  · exact .refl S g

theorem touches_handleIncomingAuth : Touches (· = p) g (handleIncomingAuth X env g p d).h := by
  unfold handleIncomingAuth
  split
  · split_ifs
    · split
      · exact (onlyStamps_writeToPeer env g p _).touches _
      · refine (touches_modify g p ?_).trans ((onlyStamps_writeToPeer env _ p _).touches _)
        exact fun _ => rfl
    · exact .refl _ g
  · split_ifs
    · exact (touches_setStatus g p _).trans ((onlyStamps_writeToPeer env _ p _).touches _)
    · exact (touches_setStatus g p _).trans ((onlyStamps_writeToPeer env _ p _).touches _)
    · exact (touches_setStatus g p _).trans (((onlyStamps_stamp _ p _).trans
        (onlyStamps_writeToPeer env _ p _)).touches _)
    · exact .refl _ g
  · exact .refl _ g

theorem touches_refuseLogin : Touches (· = p) g (refuseLogin g p).h := by
  unfold refuseLogin; dsimp only; split_ifs
  exacts [(touches_setStatus g p _).trans (touches_unlink _ _ _), touches_setStatus g p _]

theorem touches_acceptLogin : Touches (· = p) g (acceptLogin X env g p).h := by
  unfold acceptLogin
  set g₁ := (g.setStatus p .authDone).stamp p fun l =>
    { l with pingSent := env.now, pongReceived := env.now }
  have h₁ : Touches (· = p) g g₁ :=
    (touches_setStatus g p _).trans ((onlyStamps_stamp _ p _).touches _)
  have h₂ : Touches (· = p) g₁ { g₁ with config := (buildConfigData X.dmr g₁.config).1 } :=
    .of_heap _ rfl rfl rfl
  exact h₁.trans (h₂.trans ((onlyStamps_writeToPeer env _ p _).touches _))

theorem touches_handleOutgoingAuth : Touches (· = p) g (handleOutgoingAuth X env g p d).h := by
  unfold handleOutgoingAuth
  split
  · split_ifs
    · refine (touches_modify g p ?_).trans ((onlyStamps_handleAuth env _ p).touches _)
      exact fun _ => rfl
    · exact touches_refuseLogin g p
    · exact .refl _ g
  · split_ifs
    · exact touches_acceptLogin X env g p
    · exact touches_refuseLogin g p
    · exact touches_acceptLogin X env g p
    · exact .refl _ g
  · exact .refl _ g

theorem touches_handleOutgoingDone : Touches (· = p) g (handleOutgoingDone X env g p d).h := by
  have hping : Touches (· = p) g (ackPing X env g p d).h := by
    unfold ackPing; split_ifs
    exacts [.refl _ g, ((onlyStamps_stamp g p _).trans (onlyStamps_writeToPeer env _ p _)).touches _]
  unfold handleOutgoingDone
  split_ifs
  · exact touches_dispatch X env _ g p d
  · exact hping
  · exact .refl _ g
  · exact (touches_setStatus g p _).trans ((onlyStamps_handleAuth env _ p).touches _)
  · exact hping
  · exact (onlyStamps_pongReceived X env g p d).touches _
  · exact (onlyStamps_pongReceived X env g p d).touches _
  · exact .refl _ g

end Branches

/-- `handlePeer` changes the login state of the peer it runs for only. -/
theorem touches_handlePeer (h : Homebrew) (p : Ptr) (d : Datagram) :
    Touches (· = p) h (handlePeer X env h (some p) d).h := by
  unfold handlePeer
  by_cases hn : d.n < 8
  · simp only [hn, if_true]; exact .refl _ h
  simp only [hn, if_false]
  have hg := (onlyStamps_stamp h p fun l => { l with packetReceived := env.now }).touches (· = p)
  split_ifs
  · exact hg
  · exact hg.trans (touches_handleIncomingAuth X env _ p d)
  · exact hg.trans (touches_handleOutgoingAuth X env _ p d)
  · exact hg.trans (touches_handleIncomingDone X env _ _ p d)
  · exact hg.trans (touches_handleOutgoingDone X env _ p d)

/-- A keepalive tick leaves the login state of every incoming peer alone. -/
theorem touches_keepalivePeer (h : Homebrew) (p : Ptr) :
    Touches (fun q => (h.heap q).incoming = false) h (keepalivePeer env h p).h := by
  unfold keepalivePeer
  dsimp only
  split
  · exact .refl _ h
  rename_i hi
  refine Touches.mono ?_ fun q (hq : q = p) => by simpa [hq] using hi
  split
  · split_ifs
    · exact (touches_setStatus h p _).trans ((onlyStamps_handleAuth env _ p).touches _)
    · exact .refl _ h
  · split_ifs
    exacts [touches_setStatus h p _, .refl _ h]
  · split_ifs
    exacts [touches_setStatus h p _, .refl _ h]
  · split_ifs
    · exact (touches_setStatus h p _).trans (((onlyStamps_writeToPeer env _ p _).touches _).trans
        ((onlyStamps_handleAuth env _ p).touches _))
    · exact ((onlyStamps_stamp h p _).trans (onlyStamps_writeToPeer env _ p _)).touches _
    · exact .refl _ h

theorem touches_keepaliveLoop : ∀ (ps : List Ptr) (h : Homebrew),
    Touches (fun q => (h.heap q).incoming = false) h (keepaliveLoop env ps h).h
  | [], h => .refl _ h
  | p :: ps, h => by
    have h₁ := touches_keepalivePeer env h p
    refine h₁.trans ((touches_keepaliveLoop ps _).mono fun q hq => ?_)
    have := h₁.ident q
    simp only [Peer.ident, Prod.mk.injEq] at this
    rwa [← this.2.1]

/-! ### One datagram to an incoming peer -/

section Incoming

variable (g : Homebrew) (p : Ptr) (buf : Datagram) (msg : List UInt8)

/-- Up to the length, the first bytes of the buffer are those of the datagram just read. -/
theorem head_read {k : ℕ} (hk : k ≤ (buf.read msg).n) : (buf.read msg).head k = msg.take k := by
  rw [Datagram.head_eq_bytes _ hk, Datagram.read_bytes, List.take_take]
  congr 1
  simp only [Datagram.read_n] at hk
  omega

theorem sent_handleIncomingDone_of_login (hn : 8 ≤ (buf.read msg).n)
    (hl : msg.take 4 = RepeaterLogin) : (handleIncomingDone X env g p (buf.read msg)).sent = [] := by
  have h6 : msg.take 6 = RepeaterLogin ++ (msg.drop 4).take 2 := by rw [← hl, ← List.take_add]
  have h7 : msg.take 7 = RepeaterLogin ++ (msg.drop 4).take 3 := by rw [← hl, ← List.take_add]
  unfold handleIncomingDone
  simp [head_read buf msg (show 4 ≤ _ by omega), head_read buf msg (show 6 ≤ _ by omega),
    head_read buf msg (show 7 ≤ _ by omega), hl, h6, h7, verb_bytes]

/-- One datagram to an incoming peer that is not authenticated: an `RPTL` to a peer in `AuthNone`
answers a nonce and keeps its token; the 40-byte `RPTK` with the token authenticates a peer in
`AuthBegin`; nothing else leaves the peer waiting for the key or authenticated. -/
theorem moves_handleIncomingAuth (hn : 8 ≤ (buf.read msg).n) :
    Moves X (g.heap p).addrString
      (.recv env (g.heap p).addrString msg, handleIncomingAuth X env g p (buf.read msg))
      (g.heap p) ((handleIncomingAuth X env g p (buf.read msg)).h.heap p) := by
  unfold handleIncomingAuth
  rw [head_read buf msg (show 4 ≤ _ by omega)]
  rcases hst : (g.heap p).status
  · simp only
    split_ifs with hl
    · rcases hnc : env.nonce with _ | nonce
      · exact .idle (by simp [Peer.ident]) (by simp [hst]) (by simp [hst])
      · refine ⟨by simp, by simp, fun _ => .inr ⟨nonce.1, ⟨rfl, hl, ?_⟩, by simp⟩,
          fun h => by simp at h⟩
        simp [Peer.addrString]
    · exact .stay rfl rfl (noNonce_of_sent rfl)
  · simp only
    split_ifs with hk h40 htok
    · exact .idle (by simp [Peer.ident]) (by simp) (by simp)
    · exact .idle (by simp [Peer.ident]) (by simp) (by simp)
    · have hlen : msg.length = 40 := by simp only [Datagram.read_n] at h40; omega
      have hbytes : (buf.read msg).bytes = msg := by
        rw [Datagram.read_bytes, List.take_of_length_le (by omega)]
      refine ⟨by simp, by simp, fun h => by simp at h, fun _ => .inr ⟨hst, ?_, ?_⟩⟩
      · exact ⟨rfl, hlen, hk, by simpa [hbytes] using htok⟩
      · exact noNonce_of_not_login (by rw [hk]; decide) _ _
    · exact .stay rfl rfl (noNonce_of_sent rfl)
  · exact .stay rfl rfl (noNonce_of_sent rfl)
  · exact .stay rfl rfl (noNonce_of_sent rfl)

end Incoming

/-- **One datagram moves an incoming peer only as the challenge allows.** -/
theorem moves_handlePeer (h : Homebrew) (p : Ptr) (buf : Datagram) (msg : List UInt8)
    (hi : (h.heap p).incoming = true) :
    Moves X (h.heap p).addrString
      (.recv env (h.heap p).addrString msg, handlePeer X env h (some p) (buf.read msg))
      (h.heap p) ((handlePeer X env h (some p) (buf.read msg)).h.heap p) := by
  unfold handlePeer
  by_cases hn : (buf.read msg).n < 8
  · simp only [hn, if_true]; exact .stay rfl rfl (noNonce_of_sent rfl)
  simp only [hn, if_false]
  set g := h.stamp p fun l => { l with packetReceived := env.now }
  have hgi : (g.heap p).ident = (h.heap p).ident := by simp [g, Peer.ident]
  have hgl : (g.heap p).login = (h.heap p).login := by simp [g, Peer.login]
  have hgin : (g.heap p).incoming = true := by simpa [g] using hi
  rw [← Peer.addrString_eq_of_ident hgi]
  refine Moves.of_ident_login hgi hgl ?_
  simp only [hgin, if_true]
  split_ifs
  · exact .stay rfl rfl (noNonce_of_sent rfl)
  · exact moves_handleIncomingAuth X env g p buf msg (by omega)
  · have ht := touches_handleIncomingDone X env (fun _ => False) g p (buf.read msg)
    refine .stay (ht.ident p) (ht.login p not_false) ?_
    by_cases hl : msg.take 4 = RepeaterLogin
    · exact noNonce_of_sent (sent_handleIncomingDone_of_login X env g p buf msg (by omega) hl)
    · exact noNonce_of_not_login hl _ _

/-! ### Registration -/

/-- `h'` is `h` with at most the object `p` registered at its own address: no allocation, and no
object's address, role, key or login state changed. -/
structure Registers (p : Ptr) (h h' : Homebrew) : Prop where
  next : h'.next = h.next
  heap : ∀ q, (h'.heap q).ident = (h.heap q).ident ∧ (h'.heap q).login = (h.heap q).login
  registry : ∀ a x, h'.getPeerByAddr a = some x →
    h.getPeerByAddr a = some x ∨ x = p ∧ a = (h.heap p).addrString

theorem Registers.onlyStamps {p : Ptr} {h h' h'' : Homebrew} (hr : Registers p h h')
    (hs : OnlyStamps h' h'') : Registers p h h'' :=
  have ht := hs.touches fun _ => False
  ⟨ht.next.trans hr.next, fun q => ⟨(ht.ident q).trans (hr.heap q).1,
    (ht.login q not_false).trans (hr.heap q).2⟩, fun a x hx => hr.registry a x (ht.registry a x hx)⟩

/-- `Link` registers the linked object at its address, and changes nothing else that the login
reads. -/
theorem registers_link (h : Homebrew) (p : Ptr) : Registers p h (link env h p).h := by
  unfold link
  dsimp only
  set h₁ := h.stamp p fun l =>
    { l with packetSent := 0, packetReceived := 0, pingSent := 0, pongReceived := 0 }
  have hr : Registers p h
      { h₁ with peer := h₁.peer.insert (h.heap p).addrString p,
                peerID := h₁.peerID.insert (h.heap p).id p } := by
    refine ⟨rfl, fun q => by simp [h₁, Peer.ident, Peer.login], fun a x hx => ?_⟩
    simp only [getPeerByAddr] at hx ⊢
    by_cases ha : a = (h.heap p).addrString
    · subst ha; simp at hx; exact .inr ⟨hx.symm, rfl⟩
    · rw [AList.lookup_insert_ne ha] at hx; exact .inl hx
  split_ifs
  · exact ⟨rfl, fun _ => ⟨rfl, rfl⟩, fun _ _ hx => .inl hx⟩
  · exact ⟨rfl, fun _ => ⟨rfl, rfl⟩, fun _ _ hx => .inl hx⟩
  · exact hr
  · exact hr.onlyStamps (onlyStamps_handleAuth env _ p)

@[simp] theorem heap_alloc (h : Homebrew) (q : Peer) (x : Ptr) :
    (h.alloc q).1.heap x = if x = h.next then q else h.heap x := by
  simp [alloc, Function.update_apply]

end Homebrew

/-- Every peer of the `Peer` map is registered under its own address and was allocated. -/
def AddrConsistent (h : Homebrew) : Prop :=
  ∀ a p, h.getPeerByAddr a = some p → (h.heap p).addrString = a ∧ p < h.next

theorem addrConsistent_new (c : RepeaterConfiguration) : AddrConsistent (Homebrew.new c) :=
  fun a p hp => by simp [Homebrew.new, getPeerByAddr] at hp

theorem AddrConsistent.touches {S : Ptr → Prop} {h h' : Homebrew} (hc : AddrConsistent h)
    (ht : Touches S h h') : AddrConsistent h' := fun a p hp => by
  obtain ⟨ha, hn⟩ := hc a p (ht.registry a p hp)
  exact ⟨(Peer.addrString_eq_of_ident (ht.ident p)).trans ha, ht.next ▸ hn⟩

section Registration

variable (env : Env) {h : Homebrew} (hc : AddrConsistent h) (q : Peer)
include hc

/-- The host's `Link` of a new object, and the registration of an unknown sender, register the
new object at its address and leave every other object as it was. -/
theorem AddrConsistent.alloc_link :
    AddrConsistent (link env (h.alloc q).1 h.next).h ∧
      ∀ a x, (link env (h.alloc q).1 h.next).h.getPeerByAddr a = some x →
        (h.getPeerByAddr a = some x ∧ x < h.next) ∨ (x = h.next ∧ a = q.addrString) := by
  have hr := registers_link env (h.alloc q).1 h.next
  have hreg : ∀ a x, (link env (h.alloc q).1 h.next).h.getPeerByAddr a = some x →
      (h.getPeerByAddr a = some x ∧ x < h.next) ∨ (x = h.next ∧ a = q.addrString) := by
    intro a x hx
    rcases hr.registry a x hx with hx | ⟨rfl, rfl⟩
    · exact .inl ⟨hx, (hc a x hx).2⟩
    · exact .inr ⟨rfl, by simp⟩
  refine ⟨fun a x hx => ?_, hreg⟩
  have hid : ((link env (h.alloc q).1 h.next).h.heap x).addrString = ((h.alloc q).1.heap x).addrString :=
    Peer.addrString_eq_of_ident (hr.heap x).1
  rw [hid, hr.next]
  rcases hreg a x hx with ⟨hx, hlt⟩ | ⟨rfl, rfl⟩
  · simpa [hlt.ne] using ⟨(hc a x hx).1, Nat.lt_succ_of_lt hlt⟩
  · simp [alloc]

end Registration

/-! ### A step of a run -/

/-- The host links only peer objects that have not logged in. -/
def Op.LinksFresh : Op → Prop
  | .link _ q => q.status = .authNone
  | _ => True

/-- The event `e` took the endpoint from `h` to `h'` as the challenge allows: every incoming peer
registered at an address `a` afterwards was registered there before, or is a new object that
started in `AuthNone`, and it moved as `Moves` allows. -/
def LoginStep (X : Ext) (h h' : Homebrew) (e : Op × Out) : Prop :=
  ∀ a p, h'.getPeerByAddr a = some p → (h'.heap p).incoming = true →
    ∃ q : Peer, (h.getPeerByAddr a = some p ∧ q = h.heap p ∨ q.status = .authNone) ∧
      Moves X a e q (h'.heap p)

/-- A call that registers no peer, changes the login state of outgoing peers only and answers no
nonce is a step of the challenge. -/
theorem loginStep_of_touches {X : Ext} {S : Ptr → Prop} {h h' : Homebrew} {e : Op × Out}
    (ht : Touches S h h') (hS : ∀ q, S q → (h.heap q).incoming = false)
    (he : ∀ a, NoNonce a e) : LoginStep X h h' e := by
  intro a p hp hi
  have hid := ht.ident p
  have hin : (h.heap p).incoming = true := by
    simp only [Peer.ident, Prod.mk.injEq] at hid; rw [← hid.2.1, hi]
  exact ⟨h.heap p, .inl ⟨ht.registry a p hp, rfl⟩,
    .stay hid (ht.login p fun hSp => by simp [hS p hSp] at hin) (he a)⟩

/-- Linking a new object `q` is a step of the challenge when `q` has not logged in. -/
theorem loginStep_alloc_link (X : Ext) (env : Env) {h : Homebrew} (hc : AddrConsistent h)
    {q : Peer} (hq : q.status = .authNone) {e : Op × Out} (he : ∀ a, NoNonce a e) :
    LoginStep X h (link env (h.alloc q).1 h.next).h e := by
  intro a p hp _
  have hr := (registers_link env (h.alloc q).1 h.next).heap p
  rcases (hc.alloc_link env q).2 a p hp with ⟨hpa, hlt⟩ | ⟨rfl, -⟩
  · rw [heap_alloc, if_neg hlt.ne] at hr
    exact ⟨h.heap p, .inl ⟨hpa, rfl⟩, .stay hr.1 hr.2 (he a)⟩
  · rw [heap_alloc, if_pos rfl] at hr
    exact ⟨q, .inr hq, .stay hr.1 hr.2 (he a)⟩

/-- A datagram from the address of a registered peer is a step of the challenge. -/
theorem loginStep_handlePeer (X : Ext) (env : Env) {h : Homebrew} (hc : AddrConsistent h)
    (remote : Addr) (p₀ : Ptr) (hp₀ : h.getPeerByAddr remote = some p₀) (buf : Datagram)
    (msg : List UInt8) :
    LoginStep X h (handlePeer X env h (some p₀) (buf.read msg)).h
        (.recv env remote msg, handlePeer X env h (some p₀) (buf.read msg)) ∧
      AddrConsistent (handlePeer X env h (some p₀) (buf.read msg)).h := by
  have ht := touches_handlePeer X env h p₀ (buf.read msg)
  refine ⟨fun a p hp hi => ?_, hc.touches ht⟩
  have hpa := ht.registry a p hp
  by_cases hpp : p = p₀
  · subst hpp
    have hin : (h.heap p).incoming = true := by
      have := ht.ident p
      simp only [Peer.ident, Prod.mk.injEq] at this; rw [← this.2.1, hi]
    have hm := moves_handlePeer X env h p buf msg hin
    rw [(hc remote p hp₀).1] at hm
    obtain rfl : a = remote := ((hc a p hpa).1).symm.trans (hc remote p hp₀).1
    exact ⟨h.heap p, .inl ⟨hpa, rfl⟩, hm⟩
  · refine ⟨h.heap p, .inl ⟨hpa, rfl⟩, .stay (ht.ident p) (ht.login p hpp)
      (noNonce_of_ne (fun hra => hpp ?_) _ _ _)⟩
    subst hra
    exact Option.some.inj (hpa.symm.trans hp₀)

/-- The login of an unknown address, which registers a fresh object for it, is a step of the
challenge. -/
theorem loginStep_register (X : Ext) (env : Env) {h : Homebrew} (hc : AddrConsistent h)
    (remote : Addr) (hp₀ : h.getPeerByAddr remote = none) (buf : Datagram) (msg : List UInt8)
    (i : UInt32) :
    LoginStep X h ((link env (h.alloc (loginPeer remote i)).1 h.next).seq fun h =>
          handlePeer X env h (h.getPeerByAddr remote) (buf.read msg)).h
        (.recv env remote msg, (link env (h.alloc (loginPeer remote i)).1 h.next).seq fun h =>
          handlePeer X env h (h.getPeerByAddr remote) (buf.read msg)) ∧
      AddrConsistent ((link env (h.alloc (loginPeer remote i)).1 h.next).seq fun h =>
          handlePeer X env h (h.getPeerByAddr remote) (buf.read msg)).h := by
  obtain ⟨hc₂, hreg⟩ := hc.alloc_link env (loginPeer remote i)
  obtain ⟨hsent, -, hl₂, hs₂, hi₂⟩ := link_loginPeer env h remote i
  have hr := (registers_link env (h.alloc (loginPeer remote i)).1 h.next).heap
  set o₂ := link env (h.alloc (loginPeer remote i)).1 h.next
  have hos : (o₂.seq fun h => handlePeer X env h (h.getPeerByAddr remote) (buf.read msg)).sent =
      (handlePeer X env o₂.h (some h.next) (buf.read msg)).sent := by simp [hl₂, hsent]
  simp only [Out.seq_h, hl₂]
  have ht := touches_handlePeer X env o₂.h h.next (buf.read msg)
  refine ⟨fun a p hp hi => ?_, hc₂.touches ht⟩
  rcases hreg a p (ht.registry a p hp) with ⟨hpa, hlt⟩ | ⟨rfl, rfl⟩
  · have hp := hr p
    rw [heap_alloc, if_neg hlt.ne] at hp
    refine ⟨h.heap p, .inl ⟨hpa, rfl⟩, .stay ((ht.ident p).trans hp.1)
      ((ht.login p hlt.ne).trans hp.2) (noNonce_of_ne ?_ _ _ _)⟩
    rintro rfl
    rw [hp₀] at hpa; cases hpa
  · have hm := moves_handlePeer X env o₂.h h.next buf msg hi₂
    have hp := hr h.next
    rw [heap_alloc, if_pos rfl] at hp
    rw [Peer.addrString_eq_of_ident hp.1] at hm
    exact ⟨o₂.h.heap h.next, .inr hs₂, hm.of_sent hos.symm⟩

/-- **A datagram is a step of the challenge.** -/
theorem loginStep_handle (X : Ext) (env : Env) {h : Homebrew} (hc : AddrConsistent h)
    (remote : Addr) (buf : Datagram) (msg : List UInt8) :
    LoginStep X h (handle X env h remote (buf.read msg)).h
        (.recv env remote msg, handle X env h remote (buf.read msg)) ∧
      AddrConsistent (handle X env h remote (buf.read msg)).h := by
  have hnil (r : Ret) : LoginStep X h h (.recv env remote msg, ⟨h, [], r⟩) ∧ AddrConsistent h :=
    ⟨loginStep_of_touches (.refl (fun _ => False) h) (fun _ => False.elim)
      fun _ => noNonce_of_sent rfl, hc⟩
  unfold handle
  rcases hp₀ : h.getPeerByAddr remote with _ | p₀
  · simp only
    split_ifs
    · split
      · exact hnil .panic
      · exact loginStep_register X env hc remote hp₀ buf msg _
    · exact hnil .ok
  · exact loginStep_handlePeer X env hc remote p₀ hp₀ buf msg

/-- **Every operation is a step of the challenge**, and keeps the registry consistent. -/
theorem loginStep_step (X : Ext) (s : State) (op : Op) (hop : op.LinksFresh)
    (hc : AddrConsistent s.h) :
    LoginStep X s.h (step X s op).1.h (op, (step X s op).2) ∧ AddrConsistent (step X s op).1.h := by
  cases op with
  | recv env remote msg => exact loginStep_handle X env hc remote s.buf msg
  | tick env =>
    have ht := touches_keepaliveLoop env s.h.getPeers s.h
    exact ⟨loginStep_of_touches ht (fun _ hq => hq) fun _ _ hn => hn, hc.touches ht⟩
  | link env peer =>
    exact ⟨loginStep_alloc_link X env hc hop fun _ _ hn => hn, (hc.alloc_link env peer).1⟩
  | unlink i =>
    have ht := touches_unlink (fun _ => False) s.h i
    exact ⟨loginStep_of_touches ht (fun _ => False.elim) fun _ _ hn => hn, hc.touches ht⟩
  | send env p =>
    have ht := (onlyStamps_writeEach env (fun _ _ => true) (buildData X.dmr p s.h.config.id)
      s.h.getPeers s.h).touches fun _ => False
    exact ⟨loginStep_of_touches ht (fun _ => False.elim) fun _ _ hn => hn, hc.touches ht⟩

/-! ### Runs -/

/-- The invariant of a run: the registry is consistent, and the history shows the challenge of
every incoming peer registered at an address. -/
structure LoginInv (X : Ext) (h : Homebrew) (tr : List (Op × Out)) : Prop where
  addr : AddrConsistent h
  challenged : ∀ a p, h.getPeerByAddr a = some p → (h.heap p).incoming = true →
    Challenged X a (h.heap p) tr

theorem LoginInv.of_step {X : Ext} {h h' : Homebrew} {tr : List (Op × Out)} {e : Op × Out}
    (hi : LoginInv X h tr) (hs : LoginStep X h h' e) (ha : AddrConsistent h') :
    LoginInv X h' (tr ++ [e]) := by
  refine ⟨ha, fun a p hp hin => ?_⟩
  obtain ⟨q, ⟨hp₀, rfl⟩ | hq, hm⟩ := hs a p hp hin
  · exact (hi.challenged a p hp₀ (hm.incoming ▸ hin)).of_moves hm
  · exact (Challenged.of_authNone hq tr).of_moves hm

/-- **Every run from the empty registry keeps the invariant.** -/
theorem loginInv_run (X : Ext) (c : RepeaterConfiguration) (ops : List Op)
    (hops : ∀ op ∈ ops, op.LinksFresh) :
    LoginInv X (run X (State.init c) ops).h (trace X (State.init c) ops) := by
  induction ops using List.reverseRecOn with
  | nil => exact ⟨addrConsistent_new c, fun a p hp => by simp [State.init, Homebrew.new,
      getPeerByAddr] at hp⟩
  | append_singleton ops op ih =>
    have hi := ih fun o ho => hops o (List.mem_append_left _ ho)
    obtain ⟨hs, ha⟩ := loginStep_step X (run X (State.init c) ops) op
      (hops op (List.mem_append_right _ (List.mem_singleton_self op))) hi.addr
    simpa [run_append, trace_append, trace] using hi.of_step hs ha

/-- **The challenge is sound.**  After any run from the empty registry in which the host links
only peers that have not logged in: an authenticated incoming peer registered at `a` sent, after the
last nonce answered to `a`, the 40-byte `RPTK` with that nonce's token, and one waiting for the key
holds the token of the last nonce.  And the next operation, whatever it is, authenticates an
incoming peer only if it was registered at that address and already authenticated, or was waiting
for the key and the operation is its `RPTK` from that address with its token. -/
theorem incoming_done_requires_key (X : Ext) (c : RepeaterConfiguration) (ops : List Op)
    (hops : ∀ op ∈ ops, op.LinksFresh) (op : Op) (hop : op.LinksFresh) :
    (let s := run X (State.init c) ops
    let tr := trace X (State.init c) ops
    (∀ a p, s.h.getPeerByAddr a = some p → (s.h.heap p).incoming = true →
      ((s.h.heap p).status = .authDone → KeyAfterLastNonce X a (s.h.heap p).authKey tr) ∧
      ((s.h.heap p).status = .authBegin →
        ∃ n, LastNonce a n tr ∧ (s.h.heap p).token = X.updateToken (s.h.heap p).authKey n)) ∧
    ∀ a p, (step X s op).1.h.getPeerByAddr a = some p →
      ((step X s op).1.h.heap p).incoming = true → ((step X s op).1.h.heap p).status = .authDone →
      s.h.getPeerByAddr a = some p ∧ ((s.h.heap p).status = .authDone ∨
        (s.h.heap p).status = .authBegin ∧ KeyFrom a (s.h.heap p).token (op, (step X s op).2))) := by
  have hi := loginInv_run X c ops hops
  refine ⟨fun a p hp hin => ⟨(hi.challenged a p hp hin).done, (hi.challenged a p hp hin).begin⟩,
    fun a p hp hin hd => ?_⟩
  obtain ⟨q, hq, hm⟩ := (loginStep_step X _ op hop hi.addr).1 a p hp hin
  rcases hm.done hd with ⟨hqd, -⟩ | ⟨hqb, hk, -⟩
  · rcases hq with ⟨hp₀, rfl⟩ | hq
    · exact ⟨hp₀, .inl hqd⟩
    · exact absurd (hq.symm.trans hqd) (by decide)
  · rcases hq with ⟨hp₀, rfl⟩ | hq
    · exact ⟨hp₀, .inr ⟨hqb, hk⟩⟩
    · exact absurd (hq.symm.trans hqb) (by decide)

/-- A repeater at `A` logs in with id `2`. -/
def loginFromA : List Op := [.recv sampleEnv "A" (RepeaterLogin ++ packRepeaterID 2)]

/-- Its answer to the nonce `1 2 3 4` of `sampleEnv`, with the token of `sampleExt`. -/
def keyFromA : Op :=
  .recv sampleEnv "A" (RepeaterKey ++ packRepeaterID 2 ++ List.replicate 28 0 ++ [1, 2, 3, 4])

theorem incoming_done_requires_key_on_login :
    ((∀ op ∈ loginFromA, op.LinksFresh) ∧ keyFromA.LinksFresh) ∧
    (let s := run sampleExt (State.init sampleConfig) loginFromA
    let tr := trace sampleExt (State.init sampleConfig) loginFromA
    (∀ a p, s.h.getPeerByAddr a = some p → (s.h.heap p).incoming = true →
      ((s.h.heap p).status = .authDone → KeyAfterLastNonce sampleExt a (s.h.heap p).authKey tr) ∧
      ((s.h.heap p).status = .authBegin → ∃ n, LastNonce a n tr ∧
        (s.h.heap p).token = sampleExt.updateToken (s.h.heap p).authKey n)) ∧
    ∀ a p, (step sampleExt s keyFromA).1.h.getPeerByAddr a = some p →
      ((step sampleExt s keyFromA).1.h.heap p).incoming = true →
      ((step sampleExt s keyFromA).1.h.heap p).status = .authDone →
      s.h.getPeerByAddr a = some p ∧ ((s.h.heap p).status = .authDone ∨
        (s.h.heap p).status = .authBegin ∧
          KeyFrom a (s.h.heap p).token (keyFromA, (step sampleExt s keyFromA).2))) :=
  ⟨⟨by simp [loginFromA, Op.LinksFresh], trivial⟩,
    incoming_done_requires_key sampleExt sampleConfig loginFromA
      (by simp [loginFromA, Op.LinksFresh]) keyFromA trivial⟩

/-- A history that ends in a nonce answered to `a` shows no key after the last nonce. -/
theorem not_keyAfterLastNonce_of_reply {X : Ext} {a : Addr} {key n : List UInt8}
    (tr : List (Op × Out)) {e : Op × Out} (he : NonceReply a n e) :
    ¬ KeyAfterLastNonce X a key (tr ++ [e]) := by
  rintro ⟨pre, k, post, m, htr, -, -, hk, hpost⟩
  have hmem : e ∈ k :: post := by
    have hl : (tr ++ [e]).getLast? = some e := by simp
    rw [htr, List.getLast?_append_of_ne_nil _ (List.cons_ne_nil _ _)] at hl
    exact List.mem_of_getLast?_eq_some hl
  rcases List.mem_cons.1 hmem with rfl | hp
  · exact hk n he
  · exact hpost e hp n he

/-- The host links a second incoming peer at `A`, with id `2`, after the first has logged in, and
`A` logs in again. -/
def relinkA : List Op :=
  [.link sampleEnv (loginPeer "A" 1), .recv sampleEnv "A" (RepeaterLogin ++ packRepeaterID 1),
    .recv sampleEnv "A" (RepeaterKey ++ packRepeaterID 1 ++ List.replicate 28 0 ++ [1, 2, 3, 4]),
    .link sampleEnv (loginPeer "A" 2), .recv sampleEnv "A" (RepeaterLogin ++ packRepeaterID 2)]

theorem displaced_peer_stays_done :
    (let s := run sampleExt (State.init sampleConfig) relinkA
    s.h.getPeer 1 = some 0 ∧ s.h.getPeerByAddr "A" = some 1 ∧ (s.h.heap 0).incoming = true ∧
      (s.h.heap 0).status = .authDone ∧ (s.h.heap 0).addrString = "A" ∧
      ¬ KeyAfterLastNonce sampleExt "A" (s.h.heap 0).authKey
        (trace sampleExt (State.init sampleConfig) relinkA)) := by
  refine ⟨by decide, by decide, by decide, by decide, by decide, ?_⟩
  rw [show relinkA = relinkA.take 4 ++ [relinkA.getLast (by simp [relinkA])] from rfl, trace_append]
  exact not_keyAfterLastNonce_of_reply (n := [1, 2, 3, 4]) _ ⟨rfl, by decide, by decide⟩

end GoDmr
