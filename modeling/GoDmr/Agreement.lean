/-
**The repeater logs in only once its master has let it in.**

A repeater and its master, on a network that loses and reorders datagrams, with both keepalive
timers ticking: in every state of every run, if the repeater holds its master authenticated, the
master holds the repeater authenticated.

The repeater moves its link to `AuthDone` on any `RPTACK` while it waits in `AuthBegin`; it does
not read what follows the verb.  So the property rests on which `RPTACK`s can reach it.  Until the
master authenticates the repeater, its only `RPTACK` is the answer to a login, with the nonce it
draws; it draws a nonce once, since the repeater's key for it is always the right one (the token is
32 bytes, as `sha256` gives); and the answer is on the wire at most once, and consumed by the
repeater's move to `AuthBegin`.  Every other datagram of the login leaves the repeater where it is
or fails it.  Once the master has authenticated the repeater, nothing takes it out of `AuthDone`.

Main definitions:

* `GoDmr.Homebrew.OnlyLogin` — a call that changes only the login state and the timestamps of
  peers;
* `GoDmr.Homebrew.Linked` — the repeater's link to its master;
* `GoDmr.Homebrew.LoginAnswer` — the master's answer to a login, as the nonce drawn decides it;
* `GoDmr.Joint.Flight`, `GoDmr.Joint.Pending` — the login before the master authenticates the
  repeater: the datagrams in flight, and the state of both ends;
* `GoDmr.Joint.Agree` — the invariant of every run.

Main results:

* `GoDmr.Joint.Pending.step` — every event keeps the login pending or ends it with the master
  authenticating the repeater;
* `GoDmr.Joint.agree_reach` — every run keeps the invariant;
* `GoDmr.Joint.repeater_done_only_if_master_done` — **the repeater is never authenticated ahead
  of its master**.
-/

import GoDmr.Runs
import GoDmr.Session

set_option relaxedAutoImplicit false
set_option autoImplicit false

namespace GoDmr

open Homebrew

namespace Homebrew

/-! ### Calls that change only the login -/

/-- `h'` differs from `h` at most in the login state and the timestamps of its peer objects: the
`Peer` map, our id, and every other field of every peer object are the same. -/
def OnlyLogin (h h' : Homebrew) : Prop :=
  h'.peer = h.peer ∧ h'.id = h.id ∧
    ∀ q, { h'.heap q with
      status := (h.heap q).status, token := (h.heap q).token, last := (h.heap q).last } = h.heap q

namespace OnlyLogin

variable {h h' h'' : Homebrew}

theorem refl (h : Homebrew) : OnlyLogin h h := ⟨rfl, rfl, fun _ => rfl⟩

theorem trans (h₁ : OnlyLogin h h') (h₂ : OnlyLogin h' h'') : OnlyLogin h h'' := by
  refine ⟨h₂.1.trans h₁.1, h₂.2.1.trans h₁.2.1, fun q => ?_⟩
  rw [← h₁.2.2 q, ← h₂.2.2 q]

theorem of_onlyStamps (hs : OnlyStamps h h') : OnlyLogin h h' := by
  refine ⟨hs.1, hs.2.2.2.1, fun q => ?_⟩
  rw [← hs.status_eq q, ← hs.token_eq q]
  exact hs.heap_eq q

theorem incoming_eq (hs : OnlyLogin h h') (q : Ptr) :
    (h'.heap q).incoming = (h.heap q).incoming := by
  have := congrArg Peer.incoming (hs.2.2 q); exact this

theorem addrString_eq (hs : OnlyLogin h h') (q : Ptr) :
    (h'.heap q).addrString = (h.heap q).addrString := by
  have := congrArg Peer.addrString (hs.2.2 q); exact this

theorem authKey_eq (hs : OnlyLogin h h') (q : Ptr) :
    (h'.heap q).authKey = (h.heap q).authKey := by
  have := congrArg Peer.authKey (hs.2.2 q); exact this

theorem keep_eq (hs : OnlyLogin h h') (q : Ptr) :
    (h'.heap q).unlinkOnAuthFailure = (h.heap q).unlinkOnAuthFailure :=
  by have := congrArg Peer.unlinkOnAuthFailure (hs.2.2 q); exact this

end OnlyLogin

theorem onlyLogin_modify (h : Homebrew) (p : Ptr) {f : Peer → Peer}
    (hf : ∀ q, { f q with status := q.status, token := q.token, last := q.last } = q) :
    OnlyLogin h (h.modify p f) := by
  refine ⟨rfl, rfl, fun q => ?_⟩
  by_cases hq : q = p
  · subst hq; simpa using hf (h.heap q)
  · simp [heap_modify_of_ne _ _ hq]

theorem onlyLogin_setStatus (h : Homebrew) (p : Ptr) (s : AuthStatus) :
    OnlyLogin h (h.setStatus p s) :=
  onlyLogin_modify h p fun _ => rfl

theorem onlyLogin_config (h : Homebrew) (c : RepeaterConfiguration) :
    OnlyLogin h { h with config := c } :=
  ⟨rfl, rfl, fun _ => rfl⟩

variable (X : Ext) (env : Env)

theorem onlyLogin_handleAuth (h : Homebrew) (p : Ptr) : OnlyLogin h (handleAuth env h p).h :=
  .of_onlyStamps (onlyStamps_handleAuth env h p)

/-- The branch of an outgoing peer that has not logged in changes only the login, unless the peer
asks to be unlinked when refused. -/
theorem onlyLogin_handleOutgoingAuth (g : Homebrew) (p : Ptr) (d : Datagram)
    (hk : (g.heap p).unlinkOnAuthFailure = false) :
    OnlyLogin g (handleOutgoingAuth X env g p d).h := by
  have hr : OnlyLogin g (refuseLogin g p).h := by
    simpa [refuseLogin, hk] using onlyLogin_setStatus g p .authFailed
  have ha : OnlyLogin g (acceptLogin X env g p).h := by
    simp only [acceptLogin, writeToPeer_h]
    exact ((onlyLogin_setStatus g p _).trans (.of_onlyStamps (onlyStamps_stamp _ p _))).trans
      ((onlyLogin_config _ _).trans (.of_onlyStamps (onlyStamps_stamp _ p _)))
  unfold handleOutgoingAuth
  split
  · dsimp only
    split_ifs
    · refine (onlyLogin_modify g p ?_).trans (onlyLogin_handleAuth env _ p)
      exact fun _ => rfl
    · exact hr
    · exact .refl g
  · split_ifs
    exacts [ha, hr, ha, .refl g]
  · exact .refl g

/-- A datagram to an outgoing peer that has not logged in, and stays linked when refused, changes
only the login. -/
theorem onlyLogin_handle_of_outgoing (h : Homebrew) (a : Addr) (p : Ptr)
    (hp : h.getPeerByAddr a = some p) (hi : (h.heap p).incoming = false)
    (hs : (h.heap p).status ≠ .authDone) (hk : (h.heap p).unlinkOnAuthFailure = false)
    (d : Datagram) : OnlyLogin h (handle X env h a d).h := by
  simp only [handle, hp]
  by_cases hn : d.n < 8
  · rw [handlePeer_of_short X env h _ d hn]; exact .refl h
  by_cases hd : d.head 4 = DMRData
  · simpa [handlePeer, hn, hs, hd] using
      OnlyLogin.of_onlyStamps (onlyStamps_stamp h p fun l => { l with packetReceived := env.now })
  rw [handlePeer_of_unauth X env h p d (by omega) hs hd, if_neg (by simp [hi])]
  exact (OnlyLogin.of_onlyStamps (onlyStamps_stamp h p _)).trans
    (onlyLogin_handleOutgoingAuth X env _ p d (by simpa using hk))

/-- One peer's part of a keepalive tick changes only the login. -/
theorem onlyLogin_keepalivePeer (h : Homebrew) (p : Ptr) : OnlyLogin h (keepalivePeer env h p).h := by
  unfold keepalivePeer
  dsimp only
  split
  · exact .refl h
  split
  · split
    · exact (onlyLogin_setStatus h p _).trans (onlyLogin_handleAuth env _ p)
    · exact .refl h
  · split
    · exact onlyLogin_setStatus h p _
    · exact .refl h
  · split
    · exact onlyLogin_setStatus h p _
    · exact .refl h
  · split_ifs
    · exact ((onlyLogin_setStatus h p _).trans
        (.of_onlyStamps (onlyStamps_writeToPeer env _ p _))).trans (onlyLogin_handleAuth env _ p)
    · exact .of_onlyStamps ((onlyStamps_stamp h p _).trans (onlyStamps_writeToPeer env _ p _))
    · exact .refl h

/-- The keepalive tick of an endpoint with one peer changes only the login. -/
theorem onlyLogin_keepalive (h : Homebrew) (p : Ptr) (hps : h.getPeers = [p]) :
    OnlyLogin h (keepalive env h).h := by
  simpa [keepalive, hps, keepaliveLoop] using onlyLogin_keepalivePeer env h p

/-! ### The repeater's side -/

/-- The repeater's link to its master at `a`: the one peer `p` of the endpoint `h`, outgoing, with
the default key, and kept when the master refuses it; our id is the repeater id `i`. -/
structure Linked (h : Homebrew) (a : Addr) (p : Ptr) (i : UInt32) : Prop where
  peers : h.getPeers = [p]
  peer : h.getPeerByAddr a = some p
  addr : (h.heap p).addrString = a
  incoming : (h.heap p).incoming = false
  authKey : (h.heap p).authKey = ascii "passw0rd"
  keep : (h.heap p).unlinkOnAuthFailure = false
  id : h.id = packRepeaterID i

theorem Linked.onlyLogin {h h' : Homebrew} {a : Addr} {p : Ptr} {i : UInt32}
    (hl : Linked h a p i) (hs : OnlyLogin h h') : Linked h' a p i :=
  ⟨by simp only [getPeers, hs.1, hl.peers.symm], by rw [getPeerByAddr, hs.1]; exact hl.peer,
    (hs.addrString_eq p).trans hl.addr, (hs.incoming_eq p).trans hl.incoming,
    (hs.authKey_eq p).trans hl.authKey, (hs.keep_eq p).trans hl.keep, hs.2.1.trans hl.id⟩

/-- A reply that does not let the repeater's link on — `MSTNAK` while it logs in, or anything once it
has failed — fails it, and nothing is written. -/
theorem handle_of_refused (h : Homebrew) (a : Addr) (p : Ptr) (i : UInt32) (hl : Linked h a p i)
    (buf : Datagram) (msg : List UInt8) (hn : 8 ≤ msg.length) (hm : msg.length ≤ 302)
    (hd : msg.take 4 ≠ DMRData)
    (hs : (h.heap p).status = .authFailed ∨
      ((h.heap p).status = .authNone ∨ (h.heap p).status = .authBegin) ∧ msg.take 6 = MasterNAK) :
    (handle X env h a (buf.read msg)).sent = [] ∧
      ((handle X env h a (buf.read msg)).h.heap p).status = .authFailed := by
  have h4 := Datagram.head_read_of_le buf hm (show 4 ≤ msg.length by omega)
  have h6 := Datagram.head_read_of_le buf hm (show 6 ≤ msg.length by omega)
  have hnd : (h.heap p).status ≠ .authDone := by rcases hs with hs | ⟨hs | hs, -⟩ <;> simp [hs]
  simp only [handle, hl.peer]
  rw [handlePeer_of_unauth X env h p _ (by simp [hm, hn]) hnd (by rw [h4]; exact hd),
    if_neg (by simp [hl.incoming])]
  rcases hs with hs | ⟨hs | hs, hnak⟩
  · simp [handleOutgoingAuth, hs]
  all_goals simp [handleOutgoingAuth, hs, h6, hnak, refuseLogin, hl.keep, verb_ne]

/-- The keepalive tick of the repeater before its link logs in: a link in `AuthBegin` waits or
fails, one in `AuthNone` or `AuthFailed` stays in either, and at most a new login is written. -/
theorem keepalive_of_login (h : Homebrew) (a : Addr) (p : Ptr) (i : UInt32) (hl : Linked h a p i)
    (hs : (h.heap p).status ≠ .authDone) :
    OnlyLogin h (keepalive env h).h ∧
      ((keepalive env h).sent = [] ∨ (keepalive env h).sent = [(a, RepeaterLogin ++ h.id)]) ∧
      (((keepalive env h).h.heap p).status = .authNone ∨
        ((keepalive env h).h.heap p).status = .authFailed ∨
        ((keepalive env h).h.heap p).status = .authBegin ∧ (h.heap p).status = .authBegin) := by
  refine ⟨onlyLogin_keepalive env h p hl.peers, ?_⟩
  obtain ⟨hps, -, rfl, hi, -, -, -⟩ := hl
  simp only [keepalive, hps, keepaliveLoop, Out.seq_h, Out.seq_sent, List.append_nil]
  unfold keepalivePeer
  rcases hst : (h.heap p).status <;>
    first
    | exact absurd hst hs
    | simp only [hi, hst, Bool.false_eq_true, if_false]; split_ifs <;>
        simp [handleAuth, hi, hst, Peer.addrString]

/-! ### The master's side -/

/-- The master's answer to a login from `a` whose peer `q` waits in `AuthNone`: with the nonce
`rand.Read` draws, `RPTACK‖nonce`, the peer waiting for the key of the default key and the nonce;
when the draw fails, `MSTNAK` with our id, the peer still in `AuthNone`.  Our id stays. -/
def LoginAnswer (h : Homebrew) (a : Addr) (q : Ptr) (o : Out) : Prop :=
  o.h.id = h.id ∧
    match env.nonce with
    | none => o.sent = [(a, MasterNAK ++ h.id)] ∧ PeerAt o.h a q true .authNone ∧
        (o.h.heap q).authKey = ascii "passw0rd"
    | some n => o.sent = [(a, RepeaterACK ++ n.1)] ∧ PeerAt o.h a q true .authBegin ∧
        (o.h.heap q).token = X.updateToken (ascii "passw0rd") n.1

/-- A login to an incoming peer in `AuthNone` with the default key is answered. -/
theorem loginAnswer_handlePeer (g : Homebrew) (a : Addr) (q : Ptr) (hq : PeerAt g a q true .authNone)
    (hk : (g.heap q).authKey = ascii "passw0rd") (d : Datagram) (hn : 8 ≤ d.n)
    (h4 : d.head 4 = RepeaterLogin) : LoginAnswer X env g a q (handlePeer X env g (some q) d) := by
  rw [handlePeer_of_unauth X env g q d hn (by simp [hq.status]) (by rw [h4]; decide),
    if_pos hq.incoming]
  simp only [LoginAnswer, handleIncomingAuth, heap_stamp, if_true, hq.status, h4]
  rcases env.nonce with _ | n
  · refine ⟨rfl, ?_, hq.onlyStamps ((onlyStamps_stamp _ q _).trans (onlyStamps_writeToPeer _ _ q _)),
      by simpa using hk⟩
    simp [← hq.addr, Peer.addrString]
  · refine ⟨rfl, ?_, hq.of_ident ?_ ?_ _ ?_, ?_⟩ <;> simp [← hq.addr, hk, Peer.ident, Peer.addrString]

/-- A login from the address of an incoming peer in `AuthNone` with the default key is answered. -/
theorem handle_login_of_authNone (h : Homebrew) (a : Addr) (q : Ptr)
    (hq : PeerAt h a q true .authNone) (hk : (h.heap q).authKey = ascii "passw0rd")
    (buf : Datagram) (i : UInt32) :
    LoginAnswer X env h a q (handle X env h a (buf.read (RepeaterLogin ++ packRepeaterID i))) := by
  have hm : (RepeaterLogin ++ packRepeaterID i).length ≤ 302 := by simp [verb_bytes]
  simp only [handle, hq.peer]
  exact loginAnswer_handlePeer X env h a q hq hk _ (by simp [hm, verb_bytes])
    ((Datagram.head_read_of_le buf hm (by simp [verb_bytes])).trans (List.take_left' rfl))

/-- A login from an unknown address registers a peer for it in `AuthNone` with the default key,
and is answered. -/
theorem handle_login_of_unknown_answer (h : Homebrew) (a : Addr) (hp : h.getPeerByAddr a = none)
    (buf : Datagram) (i : UInt32) :
    LoginAnswer X env h a h.next (handle X env h a (buf.read (RepeaterLogin ++ packRepeaterID i))) := by
  have hm : (RepeaterLogin ++ packRepeaterID i).length ≤ 302 := by simp [verb_bytes]
  have h4 : (buf.read (RepeaterLogin ++ packRepeaterID i)).head 4 = RepeaterLogin :=
    (Datagram.head_read_of_le buf hm (by simp [verb_bytes])).trans (List.take_left' rfl)
  have hu : (buf.read (RepeaterLogin ++ packRepeaterID i)).sliceFrom 4 >>= unpackRepeaterID =
      some i := by
    simpa [Datagram.sliceFrom, verb_bytes] using unpackRepeaterID_packRepeaterID i []
  obtain ⟨hs₁, -, hp₁, hst₁, hi₁⟩ := link_loginPeer env h a i
  have hg : ((link env (h.alloc (loginPeer a i)).1 h.next).h.heap h.next).authKey =
      ascii "passw0rd" ∧ ((link env (h.alloc (loginPeer a i)).1 h.next).h.heap h.next).addrString = a ∧
      (link env (h.alloc (loginPeer a i)).1 h.next).h.id = h.id := by
    simp [link, alloc, loginPeer, Peer.addrString, ascii]
  have ho := loginAnswer_handlePeer X env _ a h.next ⟨hp₁, hg.2.1, hi₁, hst₁⟩ hg.1 _
    (by simp [hm, verb_bytes]) h4
  simp only [handle, hp, h4, if_true, hu, show (h.alloc (loginPeer a i)).2 = h.next from rfl,
    LoginAnswer, Out.seq_h, Out.seq_sent, hs₁, List.nil_append, hp₁]
  simpa only [LoginAnswer, hg.2.2] using ho

/-- A login from the address of an incoming peer waiting for the key is dropped: only timestamps
change. -/
theorem handle_login_of_authBegin (h : Homebrew) (a : Addr) (p : Ptr)
    (hh : PeerAt h a p true .authBegin) (buf : Datagram) (msg : List UInt8)
    (hl : msg.take 4 = RepeaterLogin) :
    (handle X env h a (buf.read msg)).sent = [] ∧ OnlyStamps h (handle X env h a (buf.read msg)).h := by
  simp only [handle, hh.peer]
  by_cases hn : (buf.read msg).n < 8
  · rw [handlePeer_of_short X env h _ _ hn]; exact ⟨rfl, .refl h⟩
  have h4 := head_read buf msg (show 4 ≤ _ by omega)
  rw [handlePeer_of_unauth X env h p _ (by omega) (by simp [hh.status])
    (by rw [h4, hl]; decide), if_pos hh.incoming]
  simp only [handleIncomingAuth, heap_stamp, hh.status, h4, hl, verb_bytes]
  exact ⟨rfl, onlyStamps_stamp h p _⟩

/-- The keepalive tick of an endpoint whose peers are all incoming does nothing. -/
theorem keepalive_of_serving (h : Homebrew) (hs : Serving h) : keepalive env h = ⟨h, [], .ok⟩ :=
  keepaliveLoop_of_incoming env _ h fun p hp => by
    obtain ⟨a, hpa⟩ := mem_getPeers.1 hp
    exact hs.incoming a p hpa

end Homebrew

/-! ### The login on the wire -/

namespace Joint

section Agreement

variable (X : Ext) (rAddr mAddr : Addr) (i j : UInt32)

/-- A datagram of the login of the repeater `i` at `rAddr` to the master `j` at `mAddr` before the
master authenticates it, the master holding the nonce `ch` if any: the repeater's login, or its key
for `ch`; the master's refusal, or its answer with `ch`. -/
def Flight (ch : Option { n : List UInt8 // n.length = 4 }) (msg : Msg) : Prop :=
  msg = ⟨rAddr, mAddr, RepeaterLogin ++ packRepeaterID i⟩ ∨
    msg = ⟨mAddr, rAddr, MasterNAK ++ packRepeaterID j⟩ ∨
    ∃ n, ch = some n ∧
      (msg = ⟨rAddr, mAddr, RepeaterKey ++ packRepeaterID i ++ X.updateToken (ascii "passw0rd") n.1⟩ ∨
        msg = ⟨mAddr, rAddr, RepeaterACK ++ n.1⟩)

/-- The master's side of the login before it authenticates the repeater at `rAddr`: with no nonce
drawn, no peer for the repeater, or one in `AuthNone` with the default key; with the nonce `n`, the
peer waiting for the key of the default key and `n`. -/
def MPhase (h : Homebrew) : Option { n : List UInt8 // n.length = 4 } → Prop
  | none => h.getPeerByAddr rAddr = none ∨
      ∃ q, PeerAt h rAddr q true .authNone ∧ (h.heap q).authKey = ascii "passw0rd"
  | some n => ∃ q, PeerAt h rAddr q true .authBegin ∧
      (h.heap q).token = X.updateToken (ascii "passw0rd") n.1

/-- The login before the master authenticates the repeater, the master holding the nonce `ch` if
any.  The repeater's link `pR` has not logged in, and waits in `AuthBegin` only once the master's
answer with `ch` is off the wire; the master is in the phase of `ch`; every datagram in flight is
one of the login's, and the master's answer is in flight at most once. -/
structure Pending (pR : Ptr) (ch : Option { n : List UInt8 // n.length = 4 }) (J : Joint) :
    Prop where
  r_link : Linked J.r.h mAddr pR i
  r_status : (J.r.h.heap pR).status = .authNone ∨ (J.r.h.heap pR).status = .authFailed ∨
    (J.r.h.heap pR).status = .authBegin ∧
      ∃ n, ch = some n ∧ ⟨mAddr, rAddr, RepeaterACK ++ n.1⟩ ∉ J.net
  m_id : J.m.h.id = packRepeaterID j
  m_phase : MPhase X rAddr J.m.h ch
  net : ∀ msg ∈ J.net, Flight X rAddr mAddr i j ch msg
  acks : ∀ n, ch = some n → J.net.count ⟨mAddr, rAddr, RepeaterACK ++ n.1⟩ ≤ 1

/-- The master holds the repeater authenticated. -/
def MasterDone (J : Joint) : Prop :=
  ∃ q, J.m.h.getPeerByAddr rAddr = some q ∧ (J.m.h.heap q).status = .authDone

/-- The invariant of every run: the master keeps a master's registry, and it has authenticated the
repeater or the login is pending. -/
structure Agree (pR : Ptr) (J : Joint) : Prop where
  serving : Serving J.m.h
  phase : MasterDone rAddr J ∨ ∃ ch, Pending X rAddr mAddr i j pR ch J

variable {X rAddr mAddr i j}

/-! #### The wire -/

theorem Flight.of_none {ch : Option { n : List UInt8 // n.length = 4 }} {msg : Msg}
    (hf : Flight X rAddr mAddr i j none msg) : Flight X rAddr mAddr i j ch msg := by
  rcases hf with h | h | ⟨_, h, -⟩
  exacts [.inl h, .inr (.inl h), by cases h]

/-- Before the master draws a nonce, no answer with one is in flight. -/
theorem Flight.ne_ack (hne : rAddr ≠ mAddr) {msg : Msg} (hf : Flight X rAddr mAddr i j none msg)
    (n : List UInt8) : msg ≠ ⟨mAddr, rAddr, RepeaterACK ++ n⟩ := by
  rcases hf with rfl | rfl | ⟨_, h, -⟩
  · simp [hne]
  · intro h
    have := congrArg (fun m : Msg => m.bytes.take 6) h
    simp [verb_bytes] at this
  · cases h

theorem sublist_rest {net pre post : List Msg} {msg : Msg} (hnet : net = pre ++ msg :: post) :
    (pre ++ post).Sublist net :=
  hnet ▸ (List.Sublist.refl pre).append (List.sublist_cons_self msg post)

theorem count_rest {net pre post : List Msg} {msg : Msg} (hnet : net = pre ++ msg :: post) :
    net.count msg = (pre ++ post).count msg + 1 := by
  subst hnet; simp only [List.count_append, List.count_cons_self]; omega

/-! #### Events that keep the login pending -/

theorem MPhase.onlyStamps {h h' : Homebrew} {ch : Option { n : List UInt8 // n.length = 4 }}
    (hm : MPhase X rAddr h ch) (hs : OnlyStamps h h') : MPhase X rAddr h' ch := by
  cases ch with
  | none =>
    rcases hm with hm | ⟨q, hq, hk⟩
    · exact .inl (by rwa [getPeerByAddr, hs.1])
    · exact .inr ⟨q, hq.onlyStamps hs, (hs.authKey_eq q).trans hk⟩
  | some n =>
    obtain ⟨q, hq, ht⟩ := hm
    exact ⟨q, hq.onlyStamps hs, (hs.token_eq q).trans ht⟩

/-- Taking datagrams off the wire while the master only stamps times keeps the login pending. -/
theorem Pending.quiet_master {pR : Ptr} {ch : Option { n : List UInt8 // n.length = 4 }}
    {J : Joint} (hp : Pending X rAddr mAddr i j pR ch J) {h' : Homebrew} (hs : OnlyStamps J.m.h h')
    (buf : Datagram) {net : List Msg} (hsub : net.Sublist J.net) (t : ℕ) :
    Pending X rAddr mAddr i j pR ch ⟨J.r, ⟨h', buf⟩, net, t⟩ :=
  ⟨hp.r_link, hp.r_status.imp_right (Or.imp_right fun ⟨hb, n, hn, ha⟩ =>
      ⟨hb, n, hn, fun h => ha (hsub.subset h)⟩),
    hs.2.2.2.1.trans hp.m_id, hp.m_phase.onlyStamps hs, fun m hm => hp.net m (hsub.subset hm),
    fun n hn => (hsub.count_le _).trans (hp.acks n hn)⟩

/-- Taking datagrams off the wire while the repeater's link fails keeps the login pending. -/
theorem Pending.repeater_fails {pR : Ptr} {ch : Option { n : List UInt8 // n.length = 4 }}
    {J : Joint} (hp : Pending X rAddr mAddr i j pR ch J) {h' : Homebrew} (hl : OnlyLogin J.r.h h')
    (hf : (h'.heap pR).status = .authFailed) (buf : Datagram) {net : List Msg}
    (hsub : net.Sublist J.net) (t : ℕ) :
    Pending X rAddr mAddr i j pR ch ⟨⟨h', buf⟩, J.m, net, t⟩ :=
  ⟨hp.r_link.onlyLogin hl, .inr (.inl hf), hp.m_id, hp.m_phase,
    fun m hm => hp.net m (hsub.subset hm), fun n hn => (hsub.count_le _).trans (hp.acks n hn)⟩

/-- The master answers the repeater's first login, or a login after its draw failed. -/
theorem Pending.answer (hne : rAddr ≠ mAddr) {pR : Ptr} {J : Joint}
    (hp : Pending X rAddr mAddr i j pR none J) {pre post : List Msg} {msg : Msg}
    (hnet : J.net = pre ++ msg :: post) (env : Env) {q : Ptr} {o : Out}
    (ho : LoginAnswer X env J.m.h rAddr q o) (buf : Datagram) :
    ∃ ch, Pending X rAddr mAddr i j pR ch ⟨J.r, ⟨o.h, buf⟩, pre ++ post ++ wire mAddr o, env.now⟩ := by
  obtain ⟨hid, ho⟩ := ho
  have hr : (J.r.h.heap pR).status = .authNone ∨ (J.r.h.heap pR).status = .authFailed := by
    rcases hp.r_status with h | h | ⟨-, n, hn, -⟩
    exacts [.inl h, .inr h, by cases hn]
  have hrest : ∀ x ∈ pre ++ post, Flight X rAddr mAddr i j none x :=
    fun x hx => hp.net x ((sublist_rest hnet).subset hx)
  rcases hn : env.nonce with _ | n <;> rw [hn] at ho
  · obtain ⟨hs, hq, hk⟩ := ho
    refine ⟨none, hp.r_link, hr.imp_right .inl, hid.trans hp.m_id, .inr ⟨q, hq, hk⟩, ?_,
      fun n hn => by cases hn⟩
    intro x hx
    rcases List.mem_append.1 hx with hx | hx
    · exact hrest x hx
    · simp only [wire, hs, List.map_cons, List.map_nil, List.mem_singleton] at hx
      exact .inr (.inl (by rw [hx, hp.m_id]))
  · obtain ⟨hs, hq, ht⟩ := ho
    have h0 : (pre ++ post).count ⟨mAddr, rAddr, RepeaterACK ++ n.1⟩ = 0 :=
      List.count_eq_zero.2 fun hx => (hrest _ hx).ne_ack hne n.1 rfl
    refine ⟨some n, hp.r_link, hr.imp_right .inl, hid.trans hp.m_id, ⟨q, hq, ht⟩, ?_, ?_⟩
    · intro x hx
      rcases List.mem_append.1 hx with hx | hx
      · exact (hrest x hx).of_none
      · simp only [wire, hs, List.map_cons, List.map_nil, List.mem_singleton] at hx
        exact .inr (.inr ⟨n, rfl, .inr hx⟩)
    · rintro n' ⟨⟩
      rw [List.count_append, h0]
      simp [wire, hs]

/-- The master's answer reaches the repeater: a link in `AuthNone` sends the key for it and waits,
a failed one drops it. -/
theorem Pending.recv_ack (hne : rAddr ≠ mAddr) {pR : Ptr} {n : { n : List UInt8 // n.length = 4 }}
    {J : Joint} (hp : Pending X rAddr mAddr i j pR (some n) J) {pre post : List Msg}
    (hnet : J.net = pre ++ ⟨mAddr, rAddr, RepeaterACK ++ n.1⟩ :: post) (env : Env) :
    Pending X rAddr mAddr i j pR (some n)
      (J.recv X rAddr mAddr ⟨mAddr, rAddr, RepeaterACK ++ n.1⟩ env (pre ++ post)) := by
  rw [recv_to_repeater hne]
  have hl := hp.r_link
  have hmem : (⟨mAddr, rAddr, RepeaterACK ++ n.1⟩ : Msg) ∈ J.net := by rw [hnet]; simp
  rcases hp.r_status with hs | hs | ⟨-, n', hn', hna⟩
  · obtain ⟨hsent, hpa, -⟩ := handle_ack_of_authNone X env J.r.h mAddr pR
      ⟨hl.peer, hl.addr, hl.incoming, hs⟩ J.r.buf n.1 n.2
    have ho := onlyLogin_handle_of_outgoing X env J.r.h mAddr pR hl.peer hl.incoming (by simp [hs])
      hl.keep (J.r.buf.read (RepeaterACK ++ n.1))
    have h0 : (pre ++ post).count ⟨mAddr, rAddr, RepeaterACK ++ n.1⟩ = 0 := by
      have h₁ := count_rest hnet
      have h₂ := hp.acks n rfl
      omega
    have hw : wire rAddr (handle X env J.r.h mAddr (J.r.buf.read (RepeaterACK ++ n.1))) =
        [⟨rAddr, mAddr, RepeaterKey ++ packRepeaterID i ++ X.updateToken (ascii "passw0rd") n.1⟩] := by
      simp [wire, hsent, hl.id, hl.authKey]
    refine ⟨hl.onlyLogin ho, .inr (.inr ⟨hpa.status, n, rfl, ?_⟩), hp.m_id, hp.m_phase, ?_, ?_⟩
    · rw [← List.count_eq_zero, List.count_append, h0, hw]
      simp [hne]
    · intro x hx
      rcases List.mem_append.1 hx with hx | hx
      · exact hp.net x ((sublist_rest hnet).subset hx)
      · rw [hw, List.mem_singleton] at hx
        exact .inr (.inr ⟨n, rfl, .inl hx⟩)
    · rintro n' ⟨⟩
      rw [List.count_append, h0, hw]
      simp [hne]
  · obtain ⟨hsent, hf⟩ := handle_of_refused X env J.r.h mAddr pR i hl J.r.buf (RepeaterACK ++ n.1)
      (by simp [verb_bytes, n.2]) (by simp [verb_bytes, n.2]) (by simp [verb_bytes]) (.inl hs)
    exact hp.repeater_fails (onlyLogin_handle_of_outgoing X env J.r.h mAddr pR hl.peer hl.incoming
      (by simp [hs]) hl.keep _) hf _ (by simpa [wire, hsent] using sublist_rest hnet) _
  · cases hn'
    exact absurd hmem hna

/-- The master's refusal reaches the repeater: its link fails. -/
theorem Pending.recv_nak (hne : rAddr ≠ mAddr) {pR : Ptr}
    {ch : Option { n : List UInt8 // n.length = 4 }} {J : Joint}
    (hp : Pending X rAddr mAddr i j pR ch J) {pre post : List Msg}
    (hnet : J.net = pre ++ ⟨mAddr, rAddr, MasterNAK ++ packRepeaterID j⟩ :: post) (env : Env) :
    Pending X rAddr mAddr i j pR ch
      (J.recv X rAddr mAddr ⟨mAddr, rAddr, MasterNAK ++ packRepeaterID j⟩ env (pre ++ post)) := by
  rw [recv_to_repeater hne]
  have hl := hp.r_link
  have h6 : (MasterNAK ++ packRepeaterID j).take 6 = MasterNAK := List.take_left' rfl
  have hs : (J.r.h.heap pR).status = .authFailed ∨ ((J.r.h.heap pR).status = .authNone ∨
      (J.r.h.heap pR).status = .authBegin) ∧ (MasterNAK ++ packRepeaterID j).take 6 = MasterNAK := by
    rcases hp.r_status with h | h | ⟨h, -⟩
    exacts [.inr ⟨.inl h, h6⟩, .inl h, .inr ⟨.inr h, h6⟩]
  obtain ⟨hsent, hf⟩ := handle_of_refused X env J.r.h mAddr pR i hl J.r.buf
    (MasterNAK ++ packRepeaterID j) (by simp [verb_bytes]) (by simp [verb_bytes])
    (by simp [verb_bytes]) hs
  exact hp.repeater_fails (onlyLogin_handle_of_outgoing X env J.r.h mAddr pR hl.peer hl.incoming
    (by rcases hs with h | ⟨h | h, -⟩ <;> simp [h]) hl.keep _) hf _
    (by simpa [wire, hsent] using sublist_rest hnet) _

/-- The repeater's key for the nonce the master holds reaches the master: it authenticates the
repeater. -/
theorem Pending.recv_key (htok : ∀ k m, (X.updateToken k m).length = 32) {pR : Ptr}
    {n : { n : List UInt8 // n.length = 4 }} {J : Joint}
    (hp : Pending X rAddr mAddr i j pR (some n) J) (env : Env) (net : List Msg) :
    MasterDone rAddr (J.recv X rAddr mAddr
      ⟨rAddr, mAddr, RepeaterKey ++ packRepeaterID i ++ X.updateToken (ascii "passw0rd") n.1⟩
      env net) := by
  obtain ⟨q, hq, ht⟩ := hp.m_phase
  rw [recv_to_master, ← ht]
  obtain ⟨-, hd, -⟩ := handle_key_of_authBegin X env J.m.h rAddr q hq J.m.buf _
    (packRepeaterID_length i) (by rw [ht]; exact htok _ _)
  exact ⟨q, hd.peer, hd.status⟩

/-- The repeater's login reaches the master: it answers it with no nonce drawn yet, and drops it
while it waits for the key. -/
theorem Pending.recv_login (hne : rAddr ≠ mAddr) {pR : Ptr}
    {ch : Option { n : List UInt8 // n.length = 4 }} {J : Joint}
    (hp : Pending X rAddr mAddr i j pR ch J) {pre post : List Msg}
    (hnet : J.net = pre ++ ⟨rAddr, mAddr, RepeaterLogin ++ packRepeaterID i⟩ :: post) (env : Env) :
    ∃ ch', Pending X rAddr mAddr i j pR ch'
      (J.recv X rAddr mAddr ⟨rAddr, mAddr, RepeaterLogin ++ packRepeaterID i⟩ env (pre ++ post)) := by
  rw [recv_to_master]
  cases ch with
  | none =>
    rcases hp.m_phase with hm | ⟨q, hq, hk⟩
    · exact hp.answer hne hnet env (handle_login_of_unknown_answer X env J.m.h rAddr hm J.m.buf i) _
    · exact hp.answer hne hnet env (handle_login_of_authNone X env J.m.h rAddr q hq hk J.m.buf i) _
  | some n =>
    obtain ⟨q, hq, -⟩ := hp.m_phase
    obtain ⟨hsent, hs⟩ := handle_login_of_authBegin X env J.m.h rAddr q hq J.m.buf _
      (List.take_left' rfl)
    exact ⟨some n, hp.quiet_master hs _ (by simpa [wire, hsent] using sublist_rest hnet) _⟩

/-- The repeater's keepalive tick keeps the login pending: its link waits, fails or logs in again. -/
theorem Pending.tickR (hne : rAddr ≠ mAddr) {pR : Ptr}
    {ch : Option { n : List UInt8 // n.length = 4 }} {J : Joint}
    (hp : Pending X rAddr mAddr i j pR ch J) (env : Env) :
    Pending X rAddr mAddr i j pR ch (J.tickR X rAddr env) := by
  rw [tickR_eq]
  have hl := hp.r_link
  have hnd : (J.r.h.heap pR).status ≠ .authDone := by
    rcases hp.r_status with h | h | ⟨h, -⟩ <;> simp [h]
  obtain ⟨ho, hsent, hst⟩ := keepalive_of_login env J.r.h mAddr pR i hl hnd
  have hw : ∀ x ∈ wire rAddr (keepalive env J.r.h),
      x = ⟨rAddr, mAddr, RepeaterLogin ++ packRepeaterID i⟩ := by
    rcases hsent with h | h <;> simp [wire, h, hl.id]
  have hack : ∀ n : List UInt8,
      (wire rAddr (keepalive env J.r.h)).count ⟨mAddr, rAddr, RepeaterACK ++ n⟩ = 0 :=
    fun n => List.count_eq_zero.2 fun hx => by simpa [hne.symm] using hw _ hx
  refine ⟨hl.onlyLogin ho, ?_, hp.m_id, hp.m_phase, fun x hx => ?_, fun n hn => ?_⟩
  · rcases hst with h | h | ⟨h, hb⟩
    · exact .inl h
    · exact .inr (.inl h)
    · rcases hp.r_status with h' | h' | ⟨-, n, hn, hna⟩
      · rw [hb] at h'; cases h'
      · rw [hb] at h'; cases h'
      · refine .inr (.inr ⟨h, n, hn, ?_⟩)
        rw [← List.count_eq_zero, List.count_append, hack, List.count_eq_zero.2 hna]
  · rcases List.mem_append.1 hx with hx | hx
    · exact hp.net x hx
    · exact .inl (hw x hx)
  · rw [List.count_append, hack, Nat.add_zero]
    exact hp.acks n hn

/-- **Every event keeps the login pending, or ends it with the master authenticating the
repeater**: a delivery, in any order, a loss, or a tick of either end. -/
theorem Pending.step (hne : rAddr ≠ mAddr) (htok : ∀ k m, (X.updateToken k m).length = 32)
    {lossy : Bool} {pR : Ptr} {ch : Option { n : List UInt8 // n.length = 4 }} {J J' : Joint}
    (hp : Pending X rAddr mAddr i j pR ch J) (hs : Serving J.m.h)
    (h : Step X rAddr mAddr lossy J J') :
    MasterDone rAddr J' ∨ ∃ ch', Pending X rAddr mAddr i j pR ch' J' := by
  cases h with
  | deliver pre post msg env hnet ht =>
    rcases hp.net msg (by rw [hnet]; simp) with rfl | rfl | ⟨n, rfl, rfl | rfl⟩
    · exact .inr (hp.recv_login hne hnet env)
    · exact .inr ⟨ch, hp.recv_nak hne hnet env⟩
    · exact .inl (hp.recv_key htok env _)
    · exact .inr ⟨_, hp.recv_ack hne hnet env⟩
  | lose pre post msg hnet hl =>
    exact .inr ⟨ch, hp.quiet_master (.refl _) J.m.buf (sublist_rest hnet) J.clock⟩
  | tickR env ht => exact .inr ⟨ch, hp.tickR hne env⟩
  | tickM env ht =>
    have hk := keepalive_of_serving env J.m.h hs
    refine .inr ⟨ch, ?_⟩
    simpa [Joint.tickM, GoDmr.step, wire, hk] using
      hp.quiet_master (.refl _) J.m.buf (List.Sublist.refl _) env.now

/-! #### Every run -/

/-- The master moves only by its own operations, and those only serve. -/
theorem Step.master {lossy : Bool} {J J' : Joint} (h : Step X rAddr mAddr lossy J J') :
    J'.m = J.m ∨ ∃ op : Op, op.Serves ∧ J'.m = (GoDmr.step X J.m op).1 := by
  cases h with
  | deliver pre post msg env hnet ht =>
    unfold recv
    split_ifs
    · exact .inr ⟨.recv env msg.src msg.bytes, trivial, rfl⟩
    all_goals exact .inl rfl
  | lose => exact .inl rfl
  | tickR => exact .inl rfl
  | tickM env ht => exact .inr ⟨.tick env, trivial, rfl⟩

/-- Every event keeps the master's registry, and every peer it holds authenticated. -/
theorem Step.serving {lossy : Bool} {J J' : Joint} (h : Step X rAddr mAddr lossy J J')
    (hs : Serving J.m.h) : Serving J'.m.h ∧ Keeps J.m.h J'.m.h := by
  rcases h.master with he | ⟨op, hop, he⟩
  · rw [he]; exact ⟨hs, .refl _⟩
  · rw [he]; exact serving_step X J.m op hop hs

theorem Agree.step (hne : rAddr ≠ mAddr) (htok : ∀ k m, (X.updateToken k m).length = 32)
    {lossy : Bool} {pR : Ptr} {J J' : Joint} (ha : Agree X rAddr mAddr i j pR J)
    (h : Step X rAddr mAddr lossy J J') : Agree X rAddr mAddr i j pR J' := by
  obtain ⟨hs, hk⟩ := h.serving ha.serving
  refine ⟨hs, ?_⟩
  rcases ha.phase with ⟨q, hq, hd⟩ | ⟨ch, hp⟩
  · exact .inl ⟨q, hk.peer _ _ hq, hk.done _ _ hq hd⟩
  · exact hp.step hne htok ha.serving h

/-- Every run keeps the invariant. -/
theorem agree_reach (hne : rAddr ≠ mAddr) (htok : ∀ k m, (X.updateToken k m).length = 32)
    {lossy : Bool} {pR : Ptr} {J J' : Joint} (ha : Agree X rAddr mAddr i j pR J)
    (h : Reach X rAddr mAddr lossy J J') : Agree X rAddr mAddr i j pR J' := by
  induction h with
  | refl => exact ha
  | tail _ hst ih => exact ih.step hne htok hst

variable (X rAddr mAddr)

/-- The start: the repeater has linked its master and sent its first login, and the master has no
peer. -/
theorem agree_init (cR cM : RepeaterConfiguration) (env : Env) :
    Agree X rAddr mAddr cR.id cM.id (Homebrew.new cR).next (init X rAddr mAddr cR cM env) := by
  obtain ⟨hs, hpa, hpeer, hk, hid, -⟩ := link_outgoing env (Homebrew.new cR)
    (masterPeer mAddr cM.id) mAddr rfl (by simp [masterPeer, loginPeer, ascii]) rfl rfl
  set o := link env ((Homebrew.new cR).alloc (masterPeer mAddr cM.id)).1 (Homebrew.new cR).next
  have hinit : init X rAddr mAddr cR cM env =
      ⟨⟨o.h, Datagram.fresh⟩, State.init cM, wire rAddr o, env.now⟩ := rfl
  rw [hinit]
  refine ⟨serving_new cM, .inr ⟨none, ⟨?_, hpa.peer, hpa.addr, hpa.incoming, hk, ?_, hid⟩,
    .inl hpa.status, rfl, .inl (AList.lookup_empty rAddr), ?_, fun n hn => by cases hn⟩⟩
  · simp [getPeers, hpeer, Homebrew.new, AList.insert_entries, AList.empty_entries]
  · simp [o, link, alloc, handleAuth, masterPeer, loginPeer, ascii]
  · simp [wire, hs, Flight, Homebrew.new]

/-- **The repeater is never authenticated ahead of its master.**  On every run of a repeater and
its master over a network that loses and reorders datagrams, with both keepalive timers ticking,
whenever the repeater holds its link to the master in `AuthDone`, the master holds its peer for
the repeater in `AuthDone`.  The token the key carries is 32 bytes, as `sha256` makes it. -/
theorem repeater_done_only_if_master_done (cR cM : RepeaterConfiguration) (env : Env)
    (lossy : Bool) (hne : rAddr ≠ mAddr) (htok : ∀ k m, (X.updateToken k m).length = 32)
    (J : Joint) (hJ : Reach X rAddr mAddr lossy (init X rAddr mAddr cR cM env) J) (p : Ptr)
    (hp : J.r.h.getPeerByAddr mAddr = some p) (hd : (J.r.h.heap p).status = .authDone) :
    ∃ q, J.m.h.getPeerByAddr rAddr = some q ∧ (J.m.h.heap q).status = .authDone := by
  rcases (agree_reach hne htok (agree_init X rAddr mAddr cR cM env) hJ).phase with hm | ⟨ch, hpd⟩
  · exact hm
  · obtain rfl := Option.some.inj (hp.symm.trans hpd.r_link.peer)
    rcases hpd.r_status with h | h | ⟨h, -⟩ <;> rw [hd] at h <;> cases h

/-- The login of the examples, on a network that may lose datagrams, delivered in order: the
repeater ends authenticated, and so does the master. -/
theorem repeater_done_only_if_master_done_after_login :
    let J := (((((init tokenExt "R" "M" sampleConfig masterConfig sampleEnv).recv tokenExt "R" "M"
      ⟨"R", "M", RepeaterLogin ++ packRepeaterID 1⟩ sampleEnv []).recv tokenExt "R" "M"
      ⟨"M", "R", RepeaterACK ++ [1, 2, 3, 4]⟩ sampleEnv []).recv tokenExt "R" "M"
      ⟨"R", "M", RepeaterKey ++ packRepeaterID 1 ++
        tokenExt.updateToken (ascii "passw0rd") [1, 2, 3, 4]⟩ sampleEnv []).recv tokenExt "R" "M"
      ⟨"M", "R", RepeaterACK ++ packRepeaterID 2⟩ sampleEnv [])
    (("R" : Addr) ≠ "M" ∧ (∀ k m, (tokenExt.updateToken k m).length = 32) ∧
      Reach tokenExt "R" "M" true (init tokenExt "R" "M" sampleConfig masterConfig sampleEnv) J ∧
      J.r.h.getPeerByAddr "M" = some 0 ∧ (J.r.h.heap 0).status = .authDone) ∧
    ∃ q, J.m.h.getPeerByAddr "R" = some q ∧ (J.m.h.heap q).status = .authDone := by
  intro J
  have hJ : Reach tokenExt "R" "M" true
      (init tokenExt "R" "M" sampleConfig masterConfig sampleEnv) J :=
    .tail (.tail (.tail (.single (.deliver_one rfl (by decide) rfl)) (.deliver_one rfl (by decide) rfl))
      (.deliver_one rfl (by decide) rfl)) (.deliver_one rfl (by decide) rfl)
  exact ⟨⟨by decide, length_tokenExt_updateToken, hJ, by decide, by decide⟩,
    repeater_done_only_if_master_done tokenExt "R" "M" sampleConfig masterConfig sampleEnv true
      (by decide) length_tokenExt_updateToken J hJ 0 (by decide) (by decide)⟩

end Agreement

end Joint

end GoDmr
