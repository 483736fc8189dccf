/-
**The login of a repeater and a master over a network that loses nothing.**

`GoDmr.Pair` shows that one lost datagram can leave the login of a repeater and a master stuck for
ever.  This module proves the other half: the two roles of the code do interoperate.  Each
message of the login, as one endpoint writes it, is accepted by the other endpoint's branch for it:
the nonce of the master's `RPTACK` is the one the repeater hashes, the repeater's `RPTK` has the
40 bytes and the token the master checks, and the master's `RPTACK` authenticates the repeater,
whose configuration frame the master then decodes and stores.

Main definitions:

* `GoDmr.Homebrew.PeerAt` — the endpoint holds a peer object under its address, in a role and a
  status;
* `GoDmr.Joint.Accepted` — the state the master's acceptance leaves, before the repeater reads it;
* `GoDmr.Joint.LoggedIn` — the state the login leaves.

Main results:

* `GoDmr.Homebrew.handle_login_of_unknown`, `GoDmr.Homebrew.handle_ack_of_authNone`,
  `GoDmr.Homebrew.handle_key_of_authBegin`, `GoDmr.Homebrew.handle_ack_of_authBegin`,
  `GoDmr.Homebrew.handle_config_of_authDone` — each message of the login, on any endpoint that
  holds the peer in the status it is for;
* `GoDmr.Joint.accepted_from`, `GoDmr.Joint.login_from`, `GoDmr.Joint.login_run` — the first
  three and all five deliveries of the login, from any state in which the repeater waits to log in
  to a master that does not know it, and from the repeater's `Link`;
* `GoDmr.Joint.login_completes_without_loss` — **without loss, every login completes**: from the
  repeater's `Link`, five deliveries authenticate both ends and leave with the master the record
  the repeater's configuration frame decodes to.
-/

import GoDmr.Pair

set_option relaxedAutoImplicit false
set_option autoImplicit false

namespace GoDmr

open Homebrew

/-! ### A datagram that fits the buffer -/

namespace Datagram

variable (buf : Datagram) {msg : List UInt8} (hm : msg.length ≤ 302)
include hm

@[simp] theorem read_n_of_le : (buf.read msg).n = msg.length := by simp [hm]

@[simp] theorem read_bytes_of_le : (buf.read msg).bytes = msg := by
  simp [List.take_of_length_le hm]

theorem head_read_of_le {k : ℕ} (hk : k ≤ msg.length) : (buf.read msg).head k = msg.take k := by
  rw [head_eq_bytes _ (by simpa [hm] using hk), read_bytes_of_le buf hm]

theorem slice_read_of_le {lo hi : ℕ} (hk : hi ≤ msg.length) :
    (buf.read msg).slice lo hi = (msg.take hi).drop lo := by
  rw [slice_eq_bytes _ (by simpa [hm] using hk), read_bytes_of_le buf hm]

end Datagram

namespace Homebrew

/-! ### A peer under its address -/

/-- The endpoint `h` holds the peer object `p` under the address `a`, which is the object's own,
in the role `inc` (incoming or not) and in the status `st`. -/
structure PeerAt (h : Homebrew) (a : Addr) (p : Ptr) (inc : Bool) (st : AuthStatus) : Prop where
  peer : h.getPeerByAddr a = some p
  addr : (h.heap p).addrString = a
  incoming : (h.heap p).incoming = inc
  status : (h.heap p).status = st

/-- A call that keeps the `Peer` map and an object's address, role and key keeps the object under
its address, in the status it leaves it in. -/
theorem PeerAt.of_ident {h h' : Homebrew} {a : Addr} {p : Ptr} {inc : Bool} {st : AuthStatus}
    (hh : PeerAt h a p inc st) (hpeer : h'.peer = h.peer)
    (hid : (h'.heap p).ident = (h.heap p).ident) (st' : AuthStatus)
    (hs : (h'.heap p).status = st') : PeerAt h' a p inc st' :=
  ⟨by rw [getPeerByAddr, hpeer]; exact hh.peer, (Peer.addrString_eq_of_ident hid).trans hh.addr,
    (show (h'.heap p).incoming = _ from congrArg (fun x => x.2.1) hid).trans hh.incoming, hs⟩

variable (X : Ext) (env : Env)

/-- `Link` of a new outgoing object that has not logged in: the object stands under its address in
`AuthNone`, and the one datagram written is `RPTL` with our id. -/
theorem link_outgoing (h : Homebrew) (q : Peer) (a : Addr) (ha : q.addr = some a)
    (hk : q.authKey ≠ []) (hi : q.incoming = false) (hs : q.status = .authNone) :
    let o := link env (h.alloc q).1 h.next
    o.sent = [(a, RepeaterLogin ++ h.id)] ∧ PeerAt o.h a h.next false .authNone ∧
      o.h.peer = h.peer.insert a h.next ∧ (o.h.heap h.next).authKey = q.authKey ∧ o.h.id = h.id ∧
      o.h.config = h.config := by
  simp only
  refine ⟨?_, ⟨?_, ?_, ?_, ?_⟩, ?_, ?_, ?_, ?_⟩ <;>
    simp [link, alloc, handleAuth, ha, hk, hi, hs, getPeerByAddr, Peer.addrString]

/-- An unknown address logs in: the master registers a new incoming object for it, draws the nonce,
answers `RPTACK‖nonce`, and waits for the key, holding the token of its default key and the nonce. -/
theorem handle_login_of_unknown (h : Homebrew) (a : Addr) (hp : h.getPeerByAddr a = none)
    (i : UInt32) (buf : Datagram) (n : { n : List UInt8 // n.length = 4 })
    (hn : env.nonce = some n) :
    let o := handle X env h a (buf.read (RepeaterLogin ++ packRepeaterID i))
    o.sent = [(a, RepeaterACK ++ n.1)] ∧ PeerAt o.h a h.next true .authBegin ∧
      (o.h.heap h.next).token = X.updateToken (ascii "passw0rd") n.1 ∧ o.h.id = h.id := by
  have hm : (RepeaterLogin ++ packRepeaterID i).length ≤ 302 := by simp [verb_bytes]
  have h4 : (buf.read (RepeaterLogin ++ packRepeaterID i)).head 4 = RepeaterLogin :=
    (Datagram.head_read_of_le buf hm (by simp [verb_bytes])).trans (List.take_left' rfl)
  have hu : (buf.read (RepeaterLogin ++ packRepeaterID i)).sliceFrom 4 >>= unpackRepeaterID =
      some i := by
    simpa [Datagram.sliceFrom, verb_bytes] using unpackRepeaterID_packRepeaterID i []
  obtain ⟨hs₁, -, hp₁, hst₁, hi₁⟩ := link_loginPeer env h a i
  have hg : ((link env (h.alloc (loginPeer a i)).1 h.next).h.heap h.next).authKey =
      ascii "passw0rd" ∧ ((link env (h.alloc (loginPeer a i)).1 h.next).h.heap h.next).addrString = a ∧
      (link env (h.alloc (loginPeer a i)).1 h.next).h.id = h.id := by
    simp [link, alloc, loginPeer, Peer.addrString, ascii]
  simp only
  simp only [handle, hp, h4, if_true, hu,
    show (h.alloc (loginPeer a i)).2 = h.next from rfl, Out.seq_sent, Out.seq_h, hs₁, hp₁,
    List.nil_append]
  generalize (link env (h.alloc (loginPeer a i)).1 h.next).h = g at hp₁ hst₁ hi₁ hg ⊢
  have hg₀ : PeerAt g a h.next true .authNone := ⟨hp₁, hg.2.1, hi₁, hst₁⟩
  rw [handlePeer_of_unauth X env g _ _ (by simp [hm, verb_bytes]) (by simp [hst₁])
    (by rw [h4]; decide)]
  simp only [hi₁, handleIncomingAuth, hst₁, h4, hn, if_true, heap_stamp]
  refine ⟨?_, hg₀.of_ident ?_ ?_ _ ?_, ?_, ?_⟩ <;> simp [hg, Peer.ident, Peer.addrString, ← hg₀.addr]

/-- `RPTACK‖nonce` to an outgoing peer in `AuthNone`: it hashes the nonce into its token, waits
for the master's answer, and sends `RPTK` with our id and the token. -/
theorem handle_ack_of_authNone (h : Homebrew) (a : Addr) (p : Ptr)
    (hh : PeerAt h a p false .authNone) (buf : Datagram) (nonce : List UInt8)
    (hn : nonce.length = 4) :
    let o := handle X env h a (buf.read (RepeaterACK ++ nonce))
    o.sent = [(a, RepeaterKey ++ h.id ++ X.updateToken (h.heap p).authKey nonce)] ∧
      PeerAt o.h a p false .authBegin ∧ o.h.peer = h.peer ∧ o.h.id = h.id ∧
      o.h.config = h.config := by
  have hm : (RepeaterACK ++ nonce).length ≤ 302 := by simp [verb_bytes, hn]
  have h6 : (buf.read (RepeaterACK ++ nonce)).head 6 = RepeaterACK :=
    (Datagram.head_read_of_le buf hm (by simp [verb_bytes])).trans (List.take_left' rfl)
  have hsl : (buf.read (RepeaterACK ++ nonce)).slice 6 10 = nonce := by
    rw [Datagram.slice_read_of_le buf hm (by simp [verb_bytes, hn]),
      List.take_of_length_le (by simp [verb_bytes, hn])]
    exact List.drop_left' rfl
  simp only [handle, hh.peer]
  rw [handlePeer_of_unauth X env h p _ (by simp [hm, hn, verb_bytes]) (by simp [hh.status])
    (by rw [Datagram.head_of_head 4 (by omega) h6]; decide)]
  simp only [hh.incoming, handleOutgoingAuth, heap_stamp, hh.status, h6, if_true, hsl]
  refine ⟨?_, hh.of_ident ?_ ?_ _ ?_, ?_, ?_, ?_⟩ <;>
    simp [handleAuth, hh.incoming, Peer.ident, Peer.addrString, ← hh.addr]

/-- The 40-byte `RPTK` with the token to an incoming peer waiting for the key: it is authenticated,
and the master answers `RPTACK` with its id. -/
theorem handle_key_of_authBegin (h : Homebrew) (a : Addr) (p : Ptr)
    (hh : PeerAt h a p true .authBegin) (buf : Datagram) (rid : List UInt8) (hr : rid.length = 4)
    (ht : (h.heap p).token.length = 32) :
    let o := handle X env h a (buf.read (RepeaterKey ++ rid ++ (h.heap p).token))
    o.sent = [(a, RepeaterACK ++ h.id)] ∧ PeerAt o.h a p true .authDone ∧ o.h.id = h.id := by
  have hm : (RepeaterKey ++ rid ++ (h.heap p).token).length ≤ 302 := by simp [verb_bytes, hr, ht]
  have h4 : (buf.read (RepeaterKey ++ rid ++ (h.heap p).token)).head 4 = RepeaterKey :=
    (Datagram.head_read_of_le buf hm (by simp [verb_bytes])).trans
      (by rw [List.append_assoc]; exact List.take_left' rfl)
  have hd : (RepeaterKey ++ rid ++ (h.heap p).token).drop 8 = (h.heap p).token :=
    List.drop_left' (by simp [verb_bytes, hr])
  simp only [handle, hh.peer]
  rw [handlePeer_of_unauth X env h p _ (by simp [hm, hr, ht, verb_bytes]) (by simp [hh.status])
    (by rw [h4]; decide)]
  simp only [hh.incoming, handleIncomingAuth, heap_stamp, hh.status, h4, if_true,
    Datagram.read_n_of_le buf hm, Datagram.read_bytes_of_le buf hm, hd]
  refine ⟨?_, hh.of_ident ?_ ?_ _ ?_, ?_⟩ <;>
    simp [verb_bytes, hr, ht, Peer.ident, Peer.addrString, ← hh.addr]

/-- `RPTACK` to an outgoing peer waiting for the master's answer: it is authenticated, and the
repeater stamps its ping timers, clamps its configuration and sends the frame of it. -/
theorem handle_ack_of_authBegin (h : Homebrew) (a : Addr) (p : Ptr)
    (hh : PeerAt h a p false .authBegin) (buf : Datagram) (mid : List UInt8)
    (hid : mid.length = 4) :
    let o := handle X env h a (buf.read (RepeaterACK ++ mid))
    o.sent = [(a, (buildConfigData X.dmr h.config).2)] ∧ PeerAt o.h a p false .authDone ∧
      o.h.peer = h.peer ∧ o.h.id = h.id ∧ o.h.config = (buildConfigData X.dmr h.config).1 ∧
      (o.h.heap p).last.pingSent = env.now ∧ (o.h.heap p).last.pongReceived = env.now := by
  have hm : (RepeaterACK ++ mid).length ≤ 302 := by simp [verb_bytes, hid]
  have h6 : (buf.read (RepeaterACK ++ mid)).head 6 = RepeaterACK :=
    (Datagram.head_read_of_le buf hm (by simp [verb_bytes])).trans (List.take_left' rfl)
  simp only [handle, hh.peer]
  rw [handlePeer_of_unauth X env h p _ (by simp [hm, hid, verb_bytes]) (by simp [hh.status])
    (by rw [Datagram.head_of_head 4 (by omega) h6]; decide)]
  simp only [hh.incoming, handleOutgoingAuth, heap_stamp, hh.status, h6, verb_ne, if_true,
    if_false]
  refine ⟨?_, hh.of_ident ?_ ?_ _ ?_, ?_, ?_, ?_, ?_, ?_⟩ <;>
    simp [acceptLogin, Peer.ident, Peer.addrString, ← hh.addr]

/-- A configuration frame to an authenticated incoming peer: the master stores the record it decodes
and answers `RPTACK` with its id. -/
theorem handle_config_of_authDone (h : Homebrew) (a : Addr) (p : Ptr)
    (hh : PeerAt h a p true .authDone) (buf : Datagram) (frame : List UInt8)
    (hf : frame.length = 302) (ht : frame.take 4 = RepeaterConfig) :
    let o := handle X env h a (buf.read frame)
    o.sent = [(a, RepeaterACK ++ h.id)] ∧ PeerAt o.h a p true .authDone ∧
      (o.h.heap p).config = (parseConfigData frame).toOption := by
  have hm : frame.length ≤ 302 := hf.le
  have h4 : (buf.read frame).head 4 = RepeaterConfig :=
    (Datagram.head_read_of_le buf hm (by omega)).trans ht
  obtain ⟨c, hc⟩ : ∃ c, parseConfigData frame = .ok c := ⟨_, by rw [parseConfigData, if_neg (by simp [hf])]⟩
  simp only [handle, hh.peer]
  rw [handlePeer_of_done X env h p _ (by simp [hm, hf]) hh.status]
  simp only [hh.incoming, handleIncomingDone, heap_stamp, h4, Datagram.read_n_of_le buf hm, hf,
    Datagram.read_bytes_of_le buf hm, hc, if_true]
  refine ⟨?_, hh.of_ident ?_ ?_ _ ?_, ?_⟩ <;>
    simp [verb_bytes, Peer.ident, Peer.addrString, ← hh.addr, hh.status, Except.toOption]

end Homebrew

/-! ### The login on the wire -/

namespace Joint

variable {X : Ext} {rAddr mAddr : Addr}

/-- A datagram to the master, delivered. -/
theorem recv_to_master (J : Joint) (src : Addr) (bytes : List UInt8) (env : Env)
    (net : List Msg) :
    J.recv X rAddr mAddr ⟨src, mAddr, bytes⟩ env net =
      ⟨J.r, ⟨(handle X env J.m.h src (J.m.buf.read bytes)).h, J.m.buf.read bytes⟩,
        net ++ wire mAddr (handle X env J.m.h src (J.m.buf.read bytes)), env.now⟩ := by
  simp [recv, GoDmr.step]

/-- A datagram to the repeater, delivered. -/
theorem recv_to_repeater (hne : rAddr ≠ mAddr) (J : Joint) (src : Addr) (bytes : List UInt8)
    (env : Env) (net : List Msg) :
    J.recv X rAddr mAddr ⟨src, rAddr, bytes⟩ env net =
      ⟨⟨(handle X env J.r.h src (J.r.buf.read bytes)).h, J.r.buf.read bytes⟩, J.m,
        net ++ wire rAddr (handle X env J.r.h src (J.r.buf.read bytes)), env.now⟩ := by
  simp [recv, hne, GoDmr.step]

/-- The only datagram in flight, delivered at the time of the last event. -/
theorem Step.deliver_one {lossy : Bool} {J J' : Joint} {msg : Msg} {env : Env}
    (h : J.recv X rAddr mAddr msg env [] = J') (hnet : J.net = [msg]) (ht : J.clock = env.now) :
    Step X rAddr mAddr lossy J J' :=
  h ▸ .deliver [] [] msg env hnet ht.le

/-- The state the login leaves: both ends hold each other authenticated, the repeater as the only
peer of its own, with its ping timers just stamped and its configuration clamped, the master with
the record the repeater's frame decodes to, and the master's last `RPTACK` in flight. -/
structure LoggedIn (X : Ext) (rAddr mAddr : Addr) (cR cM : RepeaterConfiguration) (now : ℕ)
    (pR pM : Ptr) (J : Joint) : Prop where
  r_peer : PeerAt J.r.h mAddr pR false .authDone
  r_peers : J.r.h.getPeers = [pR]
  r_id : J.r.h.id = packRepeaterID cR.id
  r_pingSent : (J.r.h.heap pR).last.pingSent = now
  r_pongReceived : (J.r.h.heap pR).last.pongReceived = now
  r_config : J.r.h.config = clampConfig X.dmr cR
  m_peer : PeerAt J.m.h rAddr pM true .authDone
  m_config : (J.m.h.heap pM).config = (parseConfigData (buildConfigData X.dmr cR).2).toOption
  net : J.net = [⟨mAddr, rAddr, RepeaterACK ++ packRepeaterID cM.id⟩]
  clock : J.clock = now

/-- The state the master's acceptance leaves: the master holds the repeater authenticated, with
its own id; the repeater, waiting for the verdict in `AuthBegin`, is the only peer of its own, with
its id and configuration; and the master's `RPTACK` with its id is the only datagram in flight. -/
structure Accepted (rAddr mAddr : Addr) (cR cM : RepeaterConfiguration) (now : ℕ) (pR pM : Ptr)
    (J : Joint) : Prop where
  r_peer : PeerAt J.r.h mAddr pR false .authBegin
  r_peers : J.r.h.getPeers = [pR]
  r_id : J.r.h.id = packRepeaterID cR.id
  r_config : J.r.h.config = cR
  m_peer : PeerAt J.m.h rAddr pM true .authDone
  m_id : J.m.h.id = packRepeaterID cM.id
  net : J.net = [⟨mAddr, rAddr, RepeaterACK ++ packRepeaterID cM.id⟩]
  clock : J.clock = now

/-- The login from a state in which the repeater's one peer `pR`, for the master, waits in
`AuthNone` with the master's default key, its `RPTL` is the only datagram in flight, and the master
has no peer for the repeater's address: three deliveries at the time of the last event reach an
`Accepted` state. -/
theorem accepted_from (X : Ext) (rAddr mAddr : Addr) (cR cM : RepeaterConfiguration) (env : Env)
    (n : { n : List UInt8 // n.length = 4 }) (hne : rAddr ≠ mAddr)
    (htok : ∀ k m, (X.updateToken k m).length = 32) (hn : env.nonce = some n) (J : Joint)
    (pR : Ptr) (hr : PeerAt J.r.h mAddr pR false .authNone) (hps : J.r.h.getPeers = [pR])
    (hk : (J.r.h.heap pR).authKey = ascii "passw0rd") (hid : J.r.h.id = packRepeaterID cR.id)
    (hc : J.r.h.config = cR) (hm : J.m.h.getPeerByAddr rAddr = none)
    (hmid : J.m.h.id = packRepeaterID cM.id)
    (hnet : J.net = [⟨rAddr, mAddr, RepeaterLogin ++ packRepeaterID cR.id⟩])
    (hclock : J.clock = env.now) :
    ∃ J' pM, Reach X rAddr mAddr false J J' ∧ Accepted rAddr mAddr cR cM env.now pR pM J' := by
  -- 1. the master registers the repeater and answers a nonce
  obtain ⟨hs₁, hm₁, ht₁, hid₁⟩ := handle_login_of_unknown X env J.m.h rAddr hm cR.id J.m.buf n hn
  set b₁ := J.m.buf.read (RepeaterLogin ++ packRepeaterID cR.id)
  set m₁ := handle X env J.m.h rAddr b₁
  set J₁ : Joint := ⟨J.r, ⟨m₁.h, b₁⟩, [⟨mAddr, rAddr, RepeaterACK ++ n.1⟩], env.now⟩
  have e₁ : J.recv X rAddr mAddr ⟨rAddr, mAddr, RepeaterLogin ++ packRepeaterID cR.id⟩ env [] =
      J₁ := by
    rw [recv_to_master]
    show (⟨J.r, ⟨m₁.h, b₁⟩, [] ++ wire mAddr m₁, env.now⟩ : Joint) = _
    simp [wire, hs₁, J₁]
  clear_value m₁ b₁
  -- 2. the repeater hashes the nonce into its token and sends the key
  set tok := X.updateToken (ascii "passw0rd") n.1
  obtain ⟨hs₂, hr₂, hp₂, hid₂, hc₂⟩ := handle_ack_of_authNone X env J.r.h mAddr _ hr J.r.buf n.1 n.2
  set b₂ := J.r.buf.read (RepeaterACK ++ n.1)
  set r₂ := handle X env J.r.h mAddr b₂
  set J₂ : Joint := ⟨⟨r₂.h, b₂⟩, J₁.m, [⟨rAddr, mAddr, RepeaterKey ++ packRepeaterID cR.id ++ tok⟩],
    env.now⟩
  have e₂ : J₁.recv X rAddr mAddr ⟨mAddr, rAddr, RepeaterACK ++ n.1⟩ env [] = J₂ := by
    rw [recv_to_repeater hne]
    show (⟨⟨r₂.h, b₂⟩, J₁.m, [] ++ wire rAddr r₂, env.now⟩ : Joint) = _
    simp only [wire, hs₂, hk, hid, List.map_cons, List.map_nil, List.nil_append]
  clear_value r₂ b₂
  -- 3. the master checks the key and authenticates the repeater
  obtain ⟨hs₃, hm₃, hid₃⟩ := handle_key_of_authBegin X env m₁.h rAddr _ hm₁ b₁ (packRepeaterID cR.id)
    rfl (by rw [ht₁]; exact htok _ _)
  rw [ht₁] at hs₃ hm₃ hid₃
  set b₃ := b₁.read (RepeaterKey ++ packRepeaterID cR.id ++ tok)
  set m₃ := handle X env m₁.h rAddr b₃
  set J₃ : Joint := ⟨J₂.r, ⟨m₃.h, b₃⟩, [⟨mAddr, rAddr, RepeaterACK ++ packRepeaterID cM.id⟩], env.now⟩
  have e₃ : J₂.recv X rAddr mAddr ⟨rAddr, mAddr, RepeaterKey ++ packRepeaterID cR.id ++ tok⟩ env [] =
      J₃ := by
    rw [recv_to_master]
    show (⟨J₂.r, ⟨m₃.h, b₃⟩, [] ++ wire mAddr m₃, env.now⟩ : Joint) = _
    simp [wire, hs₃, J₃, hid₁, hmid]
  clear_value m₃ b₃
  refine ⟨J₃, _, .tail (.tail (.single (Step.deliver_one e₁ hnet hclock))
    (Step.deliver_one e₂ rfl rfl)) (Step.deliver_one e₃ rfl rfl),
    ⟨hr₂, by rw [getPeers, hp₂]; exact hps, hid₂.trans hid, hc₂.trans hc, hm₃,
      hid₃.trans (hid₁.trans hmid), rfl, rfl⟩⟩

/-- The login from the same state: after the master's acceptance, two more deliveries at the time
of the last event reach a `LoggedIn` state. -/
theorem login_from (X : Ext) (rAddr mAddr : Addr) (cR cM : RepeaterConfiguration) (env : Env)
    (n : { n : List UInt8 // n.length = 4 }) (hne : rAddr ≠ mAddr)
    (htok : ∀ k m, (X.updateToken k m).length = 32) (hn : env.nonce = some n) (J : Joint)
    (pR : Ptr) (hr : PeerAt J.r.h mAddr pR false .authNone) (hps : J.r.h.getPeers = [pR])
    (hk : (J.r.h.heap pR).authKey = ascii "passw0rd") (hid : J.r.h.id = packRepeaterID cR.id)
    (hc : J.r.h.config = cR) (hm : J.m.h.getPeerByAddr rAddr = none)
    (hmid : J.m.h.id = packRepeaterID cM.id)
    (hnet : J.net = [⟨rAddr, mAddr, RepeaterLogin ++ packRepeaterID cR.id⟩])
    (hclock : J.clock = env.now) :
    ∃ J' pM, Reach X rAddr mAddr false J J' ∧ LoggedIn X rAddr mAddr cR cM env.now pR pM J' := by
  obtain ⟨J₃, pM, hJ, ha⟩ := accepted_from X rAddr mAddr cR cM env n hne htok hn J pR hr hps hk hid
    hc hm hmid hnet hclock
  -- 4. the repeater is authenticated and sends the frame of its configuration
  set frame := (buildConfigData X.dmr cR).2
  obtain ⟨hs₄, hr₄, hp₄, hid₄, hc₄, hpi₄, hpo₄⟩ := handle_ack_of_authBegin X env J₃.r.h mAddr _
    ha.r_peer J₃.r.buf (packRepeaterID cM.id) rfl
  set b₄ := J₃.r.buf.read (RepeaterACK ++ packRepeaterID cM.id)
  set r₄ := handle X env J₃.r.h mAddr b₄
  set J₄ : Joint := ⟨⟨r₄.h, b₄⟩, J₃.m, [⟨rAddr, mAddr, frame⟩], env.now⟩
  have e₄ : J₃.recv X rAddr mAddr ⟨mAddr, rAddr, RepeaterACK ++ packRepeaterID cM.id⟩ env [] =
      J₄ := by
    rw [recv_to_repeater hne]
    show (⟨⟨r₄.h, b₄⟩, J₃.m, [] ++ wire rAddr r₄, env.now⟩ : Joint) = _
    simp [wire, hs₄, J₄, ha.r_config, frame]
  clear_value r₄ b₄
  -- 5. the master stores the record it decodes from the frame
  obtain ⟨hs₅, hm₅, hc₅⟩ := handle_config_of_authDone X env J₃.m.h rAddr _ ha.m_peer J₃.m.buf frame
    (length_buildConfigData _ _) (take_four_buildConfigData _ _)
  set b₅ := J₃.m.buf.read frame
  set m₅ := handle X env J₃.m.h rAddr b₅
  set J₅ : Joint := ⟨J₄.r, ⟨m₅.h, b₅⟩, [⟨mAddr, rAddr, RepeaterACK ++ packRepeaterID cM.id⟩], env.now⟩
  have e₅ : J₄.recv X rAddr mAddr ⟨rAddr, mAddr, frame⟩ env [] = J₅ := by
    rw [recv_to_master]
    show (⟨J₄.r, ⟨m₅.h, b₅⟩, [] ++ wire mAddr m₅, env.now⟩ : Joint) = _
    simp [wire, hs₅, J₅, ha.m_id]
  clear_value m₅ b₅
  refine ⟨J₅, _, hJ.trans (.tail (.single (Step.deliver_one e₄ ha.net ha.clock))
    (Step.deliver_one e₅ rfl rfl)), ⟨hr₄, ?_, ?_, hpi₄, hpo₄, ?_, hm₅, hc₅, rfl, rfl⟩⟩
  · show getPeers r₄.h = _
    rw [getPeers, hp₄]; exact ha.r_peers
  · show r₄.h.id = _
    rw [hid₄, ha.r_id]
  · show r₄.h.config = _
    rw [hc₄, ha.r_config, buildConfigData_fst]

/-- The repeater's `Link` from `New`: its one peer, for the master, waits in `AuthNone` with the
master's default key, its `RPTL` is the only datagram in flight, and the master is fresh. -/
theorem init_spec (X : Ext) (rAddr mAddr : Addr) (cR cM : RepeaterConfiguration) (env : Env) :
    let J := init X rAddr mAddr cR cM env
    PeerAt J.r.h mAddr (Homebrew.new cR).next false .authNone ∧
      J.r.h.getPeers = [(Homebrew.new cR).next] ∧
      (J.r.h.heap (Homebrew.new cR).next).authKey = ascii "passw0rd" ∧
      J.r.h.id = packRepeaterID cR.id ∧ J.r.h.config = cR ∧ J.m = State.init cM ∧
      J.net = [⟨rAddr, mAddr, RepeaterLogin ++ packRepeaterID cR.id⟩] ∧ J.clock = env.now := by
  obtain ⟨hs₀, hr₀, hp₀, hk₀, hid₀, hc₀⟩ := link_outgoing env (Homebrew.new cR)
    (masterPeer mAddr cM.id) mAddr rfl (by simp [masterPeer, loginPeer, ascii]) rfl rfl
  set r₀ := link env ((Homebrew.new cR).alloc (masterPeer mAddr cM.id)).1 (Homebrew.new cR).next
  have e₀ : init X rAddr mAddr cR cM env = ⟨⟨r₀.h, .fresh⟩, State.init cM,
      [⟨rAddr, mAddr, RepeaterLogin ++ packRepeaterID cR.id⟩], env.now⟩ := by
    simp only [init, GoDmr.step]
    simp only [wire, hs₀, List.map_cons, List.map_nil]; rfl
  rw [e₀]
  exact ⟨hr₀, by rw [getPeers, hp₀]; rfl, hk₀, hid₀, hc₀, rfl, rfl, rfl⟩

/-- The login run: from the repeater's `Link`, five deliveries at the time of the link reach a
`LoggedIn` state. -/
theorem login_run (X : Ext) (rAddr mAddr : Addr) (cR cM : RepeaterConfiguration) (env : Env)
    (n : { n : List UInt8 // n.length = 4 }) (hne : rAddr ≠ mAddr)
    (htok : ∀ k m, (X.updateToken k m).length = 32) (hn : env.nonce = some n) :
    ∃ J pR pM, Reach X rAddr mAddr false (init X rAddr mAddr cR cM env) J ∧
      LoggedIn X rAddr mAddr cR cM env.now pR pM J := by
  obtain ⟨hr, hps, hk, hid, hc, hm, hnet, hclock⟩ := init_spec X rAddr mAddr cR cM env
  obtain ⟨J, pM, hJ, hl⟩ := login_from X rAddr mAddr cR cM env n hne htok hn _ _ hr hps hk hid hc
    (by rw [hm]; exact AList.lookup_empty rAddr) (by rw [hm]; rfl) hnet hclock
  exact ⟨J, _, pM, hJ, hl⟩

/-- **Without loss, every login completes.**  Whatever the two configurations and addresses, and
whatever `UpdateToken` hashes into its 32 bytes: once the repeater links its peer for the master,
five deliveries — the `RPTL`, the master's nonce, the key, the master's `RPTACK` and the
repeater's configuration frame — authenticate both ends.  The repeater then holds its clamped
configuration, the master the record the repeater's frame decodes to, and the master's last
`RPTACK` is in flight. -/
theorem login_completes_without_loss (X : Ext) (rAddr mAddr : Addr)
    (cR cM : RepeaterConfiguration) (env : Env) (n : { n : List UInt8 // n.length = 4 })
    (hne : rAddr ≠ mAddr) (htok : ∀ k m, (X.updateToken k m).length = 32)
    (hn : env.nonce = some n) :
    ∃ J, Reach X rAddr mAddr false (init X rAddr mAddr cR cM env) J ∧ J.BothDone rAddr mAddr ∧
      J.r.h.config = clampConfig X.dmr cR ∧
      (∃ q, J.m.h.getPeerByAddr rAddr = some q ∧
        (J.m.h.heap q).config = (parseConfigData (buildConfigData X.dmr cR).2).toOption) ∧
      J.net = [⟨mAddr, rAddr, RepeaterACK ++ packRepeaterID cM.id⟩] := by
  obtain ⟨J, pR, pM, hJ, hl⟩ := login_run X rAddr mAddr cR cM env n hne htok hn
  exact ⟨J, hJ, ⟨pR, pM, hl.r_peer.peer, hl.r_peer.status, hl.m_peer.peer, hl.m_peer.status⟩,
    hl.r_config, ⟨pM, hl.m_peer.peer, hl.m_config⟩, hl.net⟩

/-- An `UpdateToken` that always hashes into 32 bytes, as SHA-256 does. -/
def tokenExt : Ext :=
  ⟨⟨10, 1, [], []⟩, fun _ nonce => (nonce ++ List.replicate 32 0).take 32, fun _ _ => false⟩

theorem length_tokenExt_updateToken (k m : List UInt8) : (tokenExt.updateToken k m).length = 32 := by
  simp [tokenExt]

-- it tells apart the nonces an 8-byte `RPTACK` leaves behind after different datagrams
example : tokenExt.updateToken (ascii "passw0rd") [0, 0, 0, 0] ≠
    tokenExt.updateToken (ascii "passw0rd") [0, 0, 3, 4] := by
  decide

theorem login_completes_on_sample :
    ("R" : Addr) ≠ "M" ∧ (∀ k m, (tokenExt.updateToken k m).length = 32) ∧
      sampleEnv.nonce = some ⟨[1, 2, 3, 4], rfl⟩ ∧
      ∃ J, Reach tokenExt "R" "M" false (init tokenExt "R" "M" sampleConfig masterConfig sampleEnv) J ∧
        J.BothDone "R" "M" ∧ J.r.h.config = clampConfig tokenExt.dmr sampleConfig ∧
        (∃ q, J.m.h.getPeerByAddr "R" = some q ∧ (J.m.h.heap q).config =
          (parseConfigData (buildConfigData tokenExt.dmr sampleConfig).2).toOption) ∧
        J.net = [⟨"M", "R", RepeaterACK ++ packRepeaterID masterConfig.id⟩] :=
  ⟨by decide, length_tokenExt_updateToken, rfl,
    login_completes_without_loss tokenExt "R" "M" sampleConfig masterConfig sampleEnv _ (by decide)
      length_tokenExt_updateToken rfl⟩

end Joint

end GoDmr
