/-
**An authenticated session stays up over a network that loses nothing.**

Once a repeater and its master are logged in, the repeater's keepalive tick pings the master
(`RPTPING` with the repeater's id) when its last ping is more than `PingInterval` old, and gives the
login up when no pong came for more than `PingTimeout`.  The master answers a ping with `MSTPONG`
and the ping's payload, which is the repeater's own id; the repeater takes the pong only when that
id is its own, as `bytes.EqualFold` compares, and then records it.  The master's last `RPTACK` of
the login carries the master's id: the repeater pings at once when it takes that id for its own,
and the master answers `MSTPING` with `RPTPONG`.

So the two ends interoperate here too: every ping is answered by a pong the repeater accepts.  And
the timers fit: when the repeater ticks at most `PingTimeout - PingInterval` after the last event
(the code ticks every second) and the network returns each ping's pong within `PingInterval` of
the tick, no tick ever finds the last pong older than `PingTimeout`, and the session is up for
ever.  A round of the schedule carries its round trip; a round trip of `0` is the network that
delivers at once.

When a tick does find it older, the repeater writes `RPTCL` with its id before it logs in again
(`GoDmr.Homebrew.keepalive_of_timeout`); what that does to the master is the subject of
`GoDmr.Closing`.

Main definitions:

* `GoDmr.Joint.round`, `GoDmr.Joint.session` — the keepalive schedule: a tick of the repeater, and
  the deliveries it causes a round trip later, for each of a list of gaps and round trips;
* `GoDmr.Joint.Up` — the session is up: both ends authenticated, nothing in flight, the last ping
  answered and at most `PingInterval` old.

Main results:

* `GoDmr.Homebrew.keepalive_of_done`, `GoDmr.Homebrew.handle_ping_of_authDone`,
  `GoDmr.Homebrew.handle_pong_of_authDone`, `GoDmr.Homebrew.handle_ack_of_authDone` — the tick, the
  ping, the pong and the master's last `RPTACK`;
* `GoDmr.Joint.up_round` — one round keeps the session up;
* `GoDmr.Joint.session_stays_up` — **an authenticated session stays up** for every schedule of
  ticks at most 10 s after the last event and round trips of at most 5 s.
-/

import GoDmr.Login

set_option relaxedAutoImplicit false
set_option autoImplicit false

namespace GoDmr

open Homebrew

namespace Homebrew

theorem PeerAt.onlyStamps {h h' : Homebrew} {a : Addr} {p : Ptr} {inc : Bool} {st : AuthStatus}
    (hh : PeerAt h a p inc st) (hs : OnlyStamps h h') : PeerAt h' a p inc st :=
  ⟨by rw [getPeerByAddr, hs.1]; exact hh.peer, (hs.addrString_eq p).trans hh.addr,
    (hs.incoming_eq p).trans hh.incoming, (hs.status_eq p).trans hh.status⟩

variable (X : Ext) (env : Env)

/-- The keepalive tick of a repeater whose one peer is an authenticated master that answered within
`PingTimeout`: a ping when the last one is more than `PingInterval` old, and nothing otherwise; only
timestamps change. -/
theorem keepalive_of_done (h : Homebrew) (p : Ptr) (hps : h.getPeers = [p])
    (hi : (h.heap p).incoming = false) (hd : (h.heap p).status = .authDone)
    (hpong : env.now - (h.heap p).last.pongReceived ≤ PingTimeout) :
    OnlyStamps h (keepalive env h).h ∧
      ((keepalive env h).h.heap p).last.pongReceived = (h.heap p).last.pongReceived ∧
      (PingInterval < env.now - (h.heap p).last.pingSent →
        (keepalive env h).sent = [((h.heap p).addrString, RepeaterPing ++ h.id)] ∧
          ((keepalive env h).h.heap p).last.pingSent = env.now) ∧
      (env.now - (h.heap p).last.pingSent ≤ PingInterval →
        (keepalive env h).sent = [] ∧ (keepalive env h).h = h) := by
  simp only [keepalive, hps, keepaliveLoop, Out.seq_h, Out.seq_sent, List.append_nil]
  unfold keepalivePeer
  simp only [hi, hd, Bool.false_eq_true, if_false, gt_iff_lt, not_lt.2 hpong]
  split_ifs with hping
  · exact ⟨(onlyStamps_stamp h p _).trans (onlyStamps_writeToPeer env _ p _), by simp,
      fun _ => by simp [Peer.addrString], fun h' => absurd hping (not_lt.2 h')⟩
  · exact ⟨.refl h, rfl, fun h' => absurd h' hping, fun _ => ⟨rfl, rfl⟩⟩

/-- A ping with an id to an authenticated incoming peer, `RPTPING` or `MSTPING`: the master answers
the matching pong with that id, and only timestamps change. -/
theorem handle_ping_of_authDone (h : Homebrew) (a : Addr) (p : Ptr)
    (hh : PeerAt h a p true .authDone) (buf : Datagram) (ping pong : List UInt8)
    (hpp : ping = RepeaterPing ∧ pong = MasterPong ∨ ping = MasterPing ∧ pong = RepeaterPong)
    (rid : List UInt8) (hr : rid.length = 4) :
    let o := handle X env h a (buf.read (ping ++ rid))
    o.sent = [(a, pong ++ rid)] ∧ OnlyStamps h o.h := by
  have hl : ping.length = 7 := by rcases hpp with ⟨rfl, -⟩ | ⟨rfl, -⟩ <;> simp [verb_bytes]
  have hm : (ping ++ rid).length ≤ 302 := by simp [hl, hr]
  have h7 : (buf.read (ping ++ rid)).head 7 = ping :=
    (Datagram.head_read_of_le buf hm (by simp [hl])).trans (List.take_left' hl)
  have hn : (buf.read (ping ++ rid)).n = 11 := by simp [hm, hl, hr]
  simp only [handle, hh.peer]
  rw [handlePeer_of_done X env h p _ (by omega) hh.status, if_pos (by simpa using hh.incoming)]
  refine ⟨?_, ?_⟩ <;> rcases hpp with ⟨rfl, rfl⟩ | ⟨rfl, rfl⟩ <;>
    simp only [handleIncomingDone, Datagram.head_of_head 4 (by omega) h7, h7, hn,
      Datagram.read_bytes_of_le buf hm, pong]
  all_goals first
    | exact ((onlyStamps_stamp h p _).trans (onlyStamps_stamp _ p _)).trans
        (onlyStamps_writeToPeer env _ p _)
    | simp [verb_bytes, Peer.addrString, ← hh.addr]

/-- A pong with our id to an authenticated outgoing peer, `MSTPONG` or `RPTPONG`: the repeater
takes its own id for its own and records the pong; it writes nothing, and only timestamps
change. -/
theorem handle_pong_of_authDone (h : Homebrew) (a : Addr) (p : Ptr)
    (hh : PeerAt h a p false .authDone) (buf : Datagram) (pong : List UInt8)
    (hpong : pong = MasterPong ∨ pong = RepeaterPong) (hid : h.id.length = 4) :
    let o := handle X env h a (buf.read (pong ++ h.id))
    o.sent = [] ∧ OnlyStamps h o.h ∧ (o.h.heap p).last.pongReceived = env.now ∧
      (o.h.heap p).last.pingSent = (h.heap p).last.pingSent := by
  have hl : pong.length = 7 := by rcases hpong with rfl | rfl <;> simp [verb_bytes]
  have hm : (pong ++ h.id).length ≤ 302 := by simp [hl, hid]
  have h7 : (buf.read (pong ++ h.id)).head 7 = pong :=
    (Datagram.head_read_of_le buf hm (by simp [hl])).trans (List.take_left' hl)
  have hn : (buf.read (pong ++ h.id)).n = 11 := by simp [hm, hl, hid]
  have hsl : (buf.read (pong ++ h.id)).slice 7 11 = h.id := by
    rw [Datagram.slice_read_of_le buf hm (by simp [hl, hid]),
      List.take_of_length_le (by simp [hl, hid])]
    exact List.drop_left' hl
  simp only [handle, hh.peer]
  rw [handlePeer_of_done X env h p _ (by omega) hh.status, if_neg (by simp [hh.incoming])]
  rcases hpong with rfl | rfl <;>
  · simp only [handleOutgoingDone, Datagram.head_of_head 4 (by omega) h7, h7, hn, pongReceived,
      hsl, checkRepeaterID, id_stamp, equalFold_self]
    refine ⟨by simp [verb_bytes], (onlyStamps_stamp h p _).trans (onlyStamps_stamp _ p _), ?_, ?_⟩ <;>
      simp [verb_bytes]

/-- The master's `RPTACK` with an id to an authenticated outgoing peer: the repeater pings the master
when `checkRepeaterID` takes the id for its own, and writes nothing otherwise; only timestamps
change, and the pong timer does not. -/
theorem handle_ack_of_authDone (h : Homebrew) (a : Addr) (p : Ptr)
    (hh : PeerAt h a p false .authDone) (buf : Datagram) (mid : List UInt8) (hmid : mid.length = 4) :
    let o := handle X env h a (buf.read (RepeaterACK ++ mid))
    OnlyStamps h o.h ∧ (o.h.heap p).last.pongReceived = (h.heap p).last.pongReceived ∧
      (checkRepeaterID X h mid = true →
        o.sent = [(a, MasterPing ++ h.id)] ∧ (o.h.heap p).last.pingSent = env.now) ∧
      (checkRepeaterID X h mid = false →
        o.sent = [] ∧ (o.h.heap p).last.pingSent = (h.heap p).last.pingSent) := by
  have hm : (RepeaterACK ++ mid).length ≤ 302 := by simp [verb_bytes, hmid]
  have h6 : (buf.read (RepeaterACK ++ mid)).head 6 = RepeaterACK :=
    (Datagram.head_read_of_le buf hm (by simp [verb_bytes])).trans (List.take_left' rfl)
  have h4 : (buf.read (RepeaterACK ++ mid)).head 4 ≠ DMRData := by
    rw [Datagram.head_of_head 4 (by omega) h6]; decide
  have hn : (buf.read (RepeaterACK ++ mid)).n = 10 := by simp [hm, verb_bytes, hmid]
  have hsl : (buf.read (RepeaterACK ++ mid)).slice 6 10 = mid := by
    rw [Datagram.slice_read_of_le buf hm (by simp [verb_bytes, hmid]),
      List.take_of_length_le (by simp [verb_bytes, hmid])]
    exact List.drop_left' rfl
  simp only [handle, hh.peer]
  rw [handlePeer_of_done X env h p _ (by omega) hh.status, if_neg (by simp [hh.incoming])]
  simp only [handleOutgoingDone, h4, h6, hn, verb_ne, ackPing,
    hsl, checkRepeaterID, id_stamp, true_and, and_false, if_false, if_true]
  cases hc : equalFold X.foldsTo mid h.id
  · exact ⟨onlyStamps_stamp h p _, by simp, fun h' => absurd h' (by simp),
      fun _ => ⟨rfl, by simp⟩⟩
  · refine ⟨((onlyStamps_stamp h p _).trans (onlyStamps_stamp _ p _)).trans
      (onlyStamps_writeToPeer env _ p _), by simp, fun _ => ⟨?_, by simp⟩, fun h' => absurd h' (by simp)⟩
    simp [Peer.addrString, ← hh.addr]

/-- The keepalive tick of a repeater whose one peer is an authenticated master that has not answered
within `PingTimeout`: the repeater gives the login up, writes `RPTCL` with its id, and logs in again
with `RPTL`. -/
theorem keepalive_of_timeout (h : Homebrew) (p : Ptr) (hps : h.getPeers = [p])
    (hi : (h.heap p).incoming = false) (hd : (h.heap p).status = .authDone)
    (hlate : PingTimeout < env.now - (h.heap p).last.pongReceived) :
    (keepalive env h).sent = [((h.heap p).addrString, RepeaterClosing ++ h.id),
        ((h.heap p).addrString, RepeaterLogin ++ h.id)] ∧
      ((keepalive env h).h.heap p).status = .authNone := by
  simp only [keepalive, hps, keepaliveLoop, Out.seq_h, Out.seq_sent, List.append_nil]
  unfold keepalivePeer
  simp only [hi, hd, Bool.false_eq_true, if_false, gt_iff_lt, if_pos hlate]
  simp [handleAuth, hi, Peer.addrString]

/-- `RPTCL` with a 4-byte id to an authenticated incoming peer: its first four bytes are `RPTC`, so
the master takes it for a configuration frame, `parseConfigData` rejects its 9 bytes, and
`printConfig` dereferences the nil record. -/
theorem handle_closing_of_authDone (h : Homebrew) (a : Addr) (p : Ptr)
    (hh : PeerAt h a p true .authDone) (buf : Datagram) (rid : List UInt8) (hr : rid.length = 4) :
    (handle X env h a (buf.read (RepeaterClosing ++ rid))).ret = .panic := by
  have hc : RepeaterClosing = [82, 80, 84, 67, 76] := rfl
  have hm : (RepeaterClosing ++ rid).length ≤ 302 := by simp [hc, hr]
  have hn : (buf.read (RepeaterClosing ++ rid)).n = 9 := by simp [hm, hc, hr]
  have h4 : (buf.read (RepeaterClosing ++ rid)).head 4 = RepeaterConfig :=
    (Datagram.head_read_of_le buf hm (by simp [hc])).trans (by simp [hc, verb_bytes])
  obtain ⟨e, hp⟩ : ∃ e, parseConfigData (RepeaterClosing ++ rid) = .error e :=
    ⟨_, by rw [parseConfigData, if_pos (by simp [hc, hr])]⟩
  simp only [handle, hh.peer]
  rw [handlePeer_of_done X env h p _ (by omega) hh.status, if_pos (by simpa using hh.incoming)]
  simp only [handleIncomingDone, h4, hn, Datagram.read_bytes_of_le buf hm, hp]
  simp [verb_bytes]

end Homebrew

/-! ### The keepalive schedule -/

namespace Joint

section Schedule

variable (X : Ext) (rAddr mAddr : Addr)

/-- The network delivers the datagrams in flight as they come, at most `k` of them, all at
`env.now`. -/
def flush (env : Env) : ℕ → Joint → Joint
  | 0, J => J
  | k + 1, J =>
    match J.net with
    | [] => J
    | msg :: rest => flush env k (J.recv X rAddr mAddr msg env rest)

/-- One round of the keepalive schedule, `gd = (g, d)`: the repeater ticks `g` after the last
event, and the network delivers the ping the tick may send, and the master's answer to it, `d`
after the tick — `d` is the round trip. -/
def round (J : Joint) (gd : ℕ × ℕ) : Joint :=
  flush X rAddr mAddr ⟨J.clock + gd.1 + gd.2, none, fun _ => none⟩ 2
    (J.tickR X rAddr ⟨J.clock + gd.1, none, fun _ => none⟩)

/-- A round whose tick comes at most `PingTimeout - PingInterval` after the last event, and whose
round trip is at most `PingInterval`. -/
def Paced (gd : ℕ × ℕ) : Prop := gd.1 ≤ PingTimeout - PingInterval ∧ gd.2 ≤ PingInterval

/-- The keepalive schedule: its rounds in turn. -/
def session (J : Joint) (sched : List (ℕ × ℕ)) : Joint := sched.foldl (round X rAddr mAddr) J

variable {X rAddr mAddr}

theorem flush_of_net_nil (env : Env) (k : ℕ) {J : Joint} (h : J.net = []) :
    flush X rAddr mAddr env k J = J := by
  cases k <;> simp [flush, h]

theorem flush_succ_of_net_cons (env : Env) (k : ℕ) {J : Joint} {msg : Msg} {rest : List Msg}
    (h : J.net = msg :: rest) :
    flush X rAddr mAddr env (k + 1) J = flush X rAddr mAddr env k (J.recv X rAddr mAddr msg env rest) := by
  simp [flush, h]

theorem clock_recv (J : Joint) (msg : Msg) (env : Env) (net : List Msg) :
    (J.recv X rAddr mAddr msg env net).clock = env.now := by
  unfold recv; split_ifs <;> rfl

theorem clock_flush (env : Env) : ∀ k (J : Joint), J.clock = env.now →
    (flush X rAddr mAddr env k J).clock = env.now
  | 0, _, h => h
  | k + 1, J, h => by
    cases hn : J.net with
    | nil => rwa [flush_of_net_nil env _ hn]
    | cons msg rest => rw [flush_succ_of_net_cons env k hn]; exact clock_flush env k _ (clock_recv ..)

/-- Delivering at once is a run of the network. -/
theorem reach_flush {lossy : Bool} (env : Env) : ∀ k (J : Joint), J.clock ≤ env.now →
    Reach X rAddr mAddr lossy J (flush X rAddr mAddr env k J)
  | 0, _, _ => .refl
  | k + 1, J, h => by
    cases hn : J.net with
    | nil => rw [flush_of_net_nil env _ hn]; exact .refl
    | cons msg rest =>
      rw [flush_succ_of_net_cons env k hn]
      exact .head (.deliver [] rest msg env hn h) (reach_flush env k _ (clock_recv ..).le)

theorem reach_round {lossy : Bool} (J : Joint) (gd : ℕ × ℕ) :
    Reach X rAddr mAddr lossy J (round X rAddr mAddr J gd) :=
  .head (.tickR _ (Nat.le_add_right _ _)) (reach_flush _ 2 _ (Nat.le_add_right _ _))

/-- The repeater's keepalive tick. -/
theorem tickR_eq (J : Joint) (env : Env) :
    J.tickR X rAddr env =
      ⟨⟨(keepalive env J.r.h).h, J.r.buf⟩, J.m, J.net ++ wire rAddr (keepalive env J.r.h), env.now⟩ :=
  rfl

end Schedule

/-! ### The session is up -/

variable {X : Ext} {rAddr mAddr : Addr}

/-- The session of the repeater's peer `pR` for the master and the master's peer `pM` for the
repeater is up: both are authenticated, the master is the repeater's only peer, nothing is in
flight, and the repeater's last ping was answered and is at most `PingInterval` old at the time of
the last event. -/
structure Up (rAddr mAddr : Addr) (pR pM : Ptr) (J : Joint) : Prop where
  r_peer : PeerAt J.r.h mAddr pR false .authDone
  r_peers : J.r.h.getPeers = [pR]
  r_id : J.r.h.id.length = 4
  m_peer : PeerAt J.m.h rAddr pM true .authDone
  net : J.net = []
  answered : (J.r.h.heap pR).last.pingSent ≤ (J.r.h.heap pR).last.pongReceived
  recent : J.clock ≤ (J.r.h.heap pR).last.pingSent + PingInterval

theorem Up.bothDone {pR pM : Ptr} {J : Joint} (hu : Up rAddr mAddr pR pM J) :
    J.BothDone rAddr mAddr :=
  ⟨pR, pM, hu.r_peer.peer, hu.r_peer.status, hu.m_peer.peer, hu.m_peer.status⟩

/-- A ping of the repeater in flight, `RPTPING` or `MSTPING` with its id, delivered with its answer
at `env.now`, at most `PingInterval` after it was sent: the master answers it, the repeater takes
the pong, and the session is up. -/
theorem up_of_ping (hne : rAddr ≠ mAddr) {pR pM : Ptr} {J : Joint} {ping pong : List UInt8}
    (hpp : ping = RepeaterPing ∧ pong = MasterPong ∨ ping = MasterPing ∧ pong = RepeaterPong)
    (hr : PeerAt J.r.h mAddr pR false .authDone) (hps : J.r.h.getPeers = [pR])
    (hid : J.r.h.id.length = 4) (hm : PeerAt J.m.h rAddr pM true .authDone)
    (hnet : J.net = [⟨rAddr, mAddr, ping ++ J.r.h.id⟩]) (env : Env)
    (hsent : (J.r.h.heap pR).last.pingSent ≤ env.now)
    (hrtt : env.now ≤ (J.r.h.heap pR).last.pingSent + PingInterval) :
    Up rAddr mAddr pR pM (flush X rAddr mAddr env 2 J) := by
  obtain ⟨hs₂, hm₂⟩ := handle_ping_of_authDone X env J.m.h rAddr pM hm J.m.buf ping pong hpp
    J.r.h.id hid
  obtain ⟨hs₃, hr₃, hpr₃, hps₃⟩ := handle_pong_of_authDone X env J.r.h mAddr pR hr J.r.buf pong
    (by rcases hpp with ⟨-, rfl⟩ | ⟨-, rfl⟩ <;> simp) hid
  set m₂ := handle X env J.m.h rAddr (J.m.buf.read (ping ++ J.r.h.id))
  set r₃ := handle X env J.r.h mAddr (J.r.buf.read (pong ++ J.r.h.id))
  have e₂ : J.recv X rAddr mAddr ⟨rAddr, mAddr, ping ++ J.r.h.id⟩ env [] =
      ⟨J.r, ⟨m₂.h, J.m.buf.read (ping ++ J.r.h.id)⟩, [⟨mAddr, rAddr, pong ++ J.r.h.id⟩], env.now⟩ := by
    rw [recv_to_master]
    show (⟨J.r, ⟨m₂.h, _⟩, [] ++ wire mAddr m₂, env.now⟩ : Joint) = _
    simp [wire, hs₂]
  have e₃ : (⟨J.r, ⟨m₂.h, J.m.buf.read (ping ++ J.r.h.id)⟩, [⟨mAddr, rAddr, pong ++ J.r.h.id⟩],
      env.now⟩ : Joint).recv X rAddr mAddr ⟨mAddr, rAddr, pong ++ J.r.h.id⟩ env [] =
      ⟨⟨r₃.h, J.r.buf.read (pong ++ J.r.h.id)⟩, ⟨m₂.h, J.m.buf.read (ping ++ J.r.h.id)⟩, [],
        env.now⟩ := by
    rw [recv_to_repeater hne]
    show (⟨⟨r₃.h, _⟩, _, [] ++ wire rAddr r₃, env.now⟩ : Joint) = _
    simp [wire, hs₃]
  rw [flush_succ_of_net_cons env 1 hnet, e₂, flush_succ_of_net_cons env 0 rfl, e₃, flush]
  exact ⟨hr.onlyStamps hr₃, by rw [getPeers, hr₃.1]; exact hps, by rw [hr₃.2.2.2.1]; exact hid,
    hm.onlyStamps hm₂, rfl, by rw [hpr₃, hps₃]; exact hsent, by rw [hps₃]; exact hrtt⟩

/-- One round keeps the session up: the repeater ticks at most `PingTimeout - PingInterval` after
the last event, and the ping it may send is answered within `PingInterval`. -/
theorem up_round (hne : rAddr ≠ mAddr) {pR pM : Ptr} {J : Joint} (hu : Up rAddr mAddr pR pM J)
    (gd : ℕ × ℕ) (hp : Paced gd) : Up rAddr mAddr pR pM (round X rAddr mAddr J gd) := by
  have hI : PingInterval ≤ PingTimeout := by unfold PingInterval PingTimeout; omega
  have hpong : J.clock + gd.1 - (J.r.h.heap pR).last.pongReceived ≤ PingTimeout := by
    have := hu.answered; have := hu.recent; have := hp.1; omega
  let env : Env := ⟨J.clock + gd.1, none, fun _ => none⟩
  obtain ⟨hos, -, hping, hquiet⟩ := keepalive_of_done env J.r.h pR hu.r_peers
    hu.r_peer.incoming hu.r_peer.status hpong
  unfold round
  rw [tickR_eq]
  by_cases hpi : PingInterval < env.now - (J.r.h.heap pR).last.pingSent
  case pos =>
    -- the tick pings, and the master's pong is taken a round trip later
    obtain ⟨hs₁, hpi₁⟩ := hping hpi
    apply up_of_ping hne (.inl ⟨rfl, rfl⟩)
    · exact hu.r_peer.onlyStamps hos
    · rw [getPeers, hos.1]; exact hu.r_peers
    · exact hos.2.2.2.1 ▸ hu.r_id
    · exact hu.m_peer
    · simp [wire, hs₁, hu.net, hu.r_peer.addr, hos.2.2.2.1]
    · rw [hpi₁]; exact Nat.le_add_right _ _
    · rw [hpi₁]; exact Nat.add_le_add_left hp.2 _
  case neg =>
    -- a quiet tick: only the clock moves
    obtain ⟨hs₁, hh₁⟩ := hquiet (not_lt.1 hpi)
    rw [flush_of_net_nil _ _ (by simp [wire, hs₁, hu.net]), hh₁]
    exact ⟨hu.r_peer, hu.r_peers, hu.r_id, hu.m_peer, by simp [wire, hs₁, hu.net], hu.answered,
      by show env.now ≤ (J.r.h.heap pR).last.pingSent + PingInterval; omega⟩

/-- A session that is up stays up, and the schedule is a run of the network, for every schedule of
paced rounds. -/
theorem up_session (hne : rAddr ≠ mAddr) {pR pM : Ptr} :
    ∀ (sched : List (ℕ × ℕ)) (J : Joint), Up rAddr mAddr pR pM J → (∀ gd ∈ sched, Paced gd) →
      Reach X rAddr mAddr false J (session X rAddr mAddr J sched) ∧
        Up rAddr mAddr pR pM (session X rAddr mAddr J sched)
  | [], _, hu, _ => ⟨.refl, hu⟩
  | gd :: sched, J, hu, hp => by
    have ih := up_session hne sched (round X rAddr mAddr J gd)
      (up_round hne hu gd (hp gd (List.mem_cons_self _ _))) fun x hx => hp x (List.mem_cons_of_mem _ hx)
    exact ⟨(reach_round J gd).trans ih.1, ih.2⟩

/-- The master's last `RPTACK` of the login, delivered at once with the ping it may cause and the
pong to that, brings the session up. -/
theorem up_of_loggedIn (hne : rAddr ≠ mAddr) {cR cM : RepeaterConfiguration} {now : ℕ} {pR pM : Ptr}
    {J : Joint} (hl : LoggedIn X rAddr mAddr cR cM now pR pM J) :
    Up rAddr mAddr pR pM (flush X rAddr mAddr ⟨now, none, fun _ => none⟩ 3 J) := by
  let env : Env := ⟨now, none, fun _ => none⟩
  obtain ⟨hos, hpo, htrue, hfalse⟩ := handle_ack_of_authDone X env J.r.h mAddr pR hl.r_peer J.r.buf
    (packRepeaterID cM.id) rfl
  have hid : J.r.h.id.length = 4 := by rw [hl.r_id]; rfl
  have hps : (handle X env J.r.h mAddr (J.r.buf.read (RepeaterACK ++ packRepeaterID cM.id))).h.getPeers =
      [pR] := by rw [getPeers, hos.1]; exact hl.r_peers
  rw [flush_succ_of_net_cons env 2 hl.net, recv_to_repeater hne]
  cases hc : checkRepeaterID X J.r.h (packRepeaterID cM.id)
  case true =>
    -- the repeater takes the master's id for its own and pings
    obtain ⟨hs₁, hpi₁⟩ := htrue hc
    apply up_of_ping hne (.inr ⟨rfl, rfl⟩)
    · exact hl.r_peer.onlyStamps hos
    · exact hps
    · exact hos.2.2.2.1 ▸ hid
    · exact hl.m_peer
    · simp [wire, hs₁, hl.r_peer.addr, hos.2.2.2.1]
    · exact hpi₁.le
    · rw [hpi₁]; exact Nat.le_add_right _ _
  case false =>
    -- it does not, and the timers the login stamped keep the session up
    obtain ⟨hs₁, hpi₁⟩ := hfalse hc
    rw [flush_of_net_nil _ _ (by simp [wire, hs₁])]
    exact ⟨hl.r_peer.onlyStamps hos, hps, hos.2.2.2.1 ▸ hid, hl.m_peer, by simp [wire, hs₁],
      by rw [hpi₁, hpo, hl.r_pingSent, hl.r_pongReceived],
      by rw [hpi₁, hl.r_pingSent]; exact Nat.le_add_right _ _⟩

end Joint

end GoDmr
