/-
**A repeater and a master on a lossy network.**

Two endpoints run this code: a repeater, which links an outgoing peer for the master, and the
master, which registers the repeater on its first `RPTL`, as an incoming peer with the key the
repeater uses.  The datagrams between them travel over UDP: each is delivered in any order, or
lost; both endpoints tick their keepalive at times that never go back.

The login does not survive every loss.  When the master's `RPTACK‖nonce` is lost, the master's
peer waits for the key in `AuthBegin`, and an incoming peer is never timed out; the repeater times
out, fails, and logs in again with `RPTL`, which the master drops while it waits for the key.  From
there no run, with or without loss, authenticates both ends.

Main definitions:

* `GoDmr.Msg`, `GoDmr.Joint` — a datagram on the wire, and the state of the two endpoints and
  the wire;
* `GoDmr.Joint.Step`, `GoDmr.Joint.Reach` — one event of the network, and the runs;
* `GoDmr.Joint.BothDone` — both ends authenticated;
* `GoDmr.Joint.Stuck` — the master waits for a key the repeater will not send.

Main results:

* `GoDmr.Joint.Stuck.step` — every event, loss included, keeps a stuck login stuck;
* `GoDmr.Joint.stuck_login_never_completes` — **a stuck login never completes**;
* `GoDmr.Joint.login_stuck_after_lost_ack` — one lost datagram, the master's first answer, gets
  the login stuck.
-/

import GoDmr.Challenge

set_option relaxedAutoImplicit false
set_option autoImplicit false

namespace GoDmr

open Homebrew

/-! ### What the endpoints do while the master waits for a key -/

namespace Homebrew

variable (X : Ext) (env : Env)

/-- A login from the address of an incoming peer that waits for the key is dropped. -/
theorem handle_login_of_begin (h : Homebrew) (a : Addr) (p : Ptr)
    (hp : h.getPeerByAddr a = some p) (hb : (h.heap p).status = .authBegin)
    (hi : (h.heap p).incoming = true) (buf : Datagram) (msg : List UInt8)
    (hl : msg.take 4 = RepeaterLogin) :
    (handle X env h a (buf.read msg)).sent = [] ∧ (handle X env h a (buf.read msg)).h.peer = h.peer ∧
      ((handle X env h a (buf.read msg)).h.heap p).status = .authBegin ∧
      ((handle X env h a (buf.read msg)).h.heap p).incoming = true := by
  simp only [handle, hp]
  unfold handlePeer
  by_cases hn : (buf.read msg).n < 8
  · rw [if_pos hn]
    exact ⟨rfl, rfl, hb, hi⟩
  have h4 := head_read buf msg (show 4 ≤ _ by omega)
  simp only [hn, if_false]
  simp [hb, hi, handleIncomingAuth, h4, hl, verb_bytes]

/-- The keepalive tick of an endpoint whose only peer is incoming does nothing. -/
theorem keepalive_of_incoming (h : Homebrew) (p : Ptr) (hps : h.getPeers = [p])
    (hi : (h.heap p).incoming = true) : keepalive env h = ⟨h, [], .ok⟩ := by
  simp [keepalive, hps, keepaliveLoop, keepalivePeer, hi, Out.seq]

/-- The keepalive tick of an endpoint whose only peer is outgoing and has not logged in: the peer
stays in `AuthNone` or `AuthFailed`, and the only datagram written is a new login to it. -/
theorem keepalive_of_unauth (h : Homebrew) (p : Ptr) (hps : h.getPeers = [p])
    (hi : (h.heap p).incoming = false)
    (hs : (h.heap p).status = .authNone ∨ (h.heap p).status = .authFailed) :
    (keepalive env h).h.peer = h.peer ∧ ((keepalive env h).h.heap p).incoming = false ∧
      ((keepalive env h).h.heap p).addrString = (h.heap p).addrString ∧
      (((keepalive env h).h.heap p).status = .authNone ∨
        ((keepalive env h).h.heap p).status = .authFailed) ∧
      ∀ x ∈ (keepalive env h).sent, x.1 = (h.heap p).addrString ∧ x.2.take 4 = RepeaterLogin := by
  simp only [keepalive, hps, keepaliveLoop, Out.seq_h, Out.seq_sent, List.append_nil]
  unfold keepalivePeer
  rcases hs with hs | hs <;> simp only [hi, hs, Bool.false_eq_true, if_false] <;> split_ifs <;>
    simp [hi, hs, handleAuth, Peer.addrString, RepeaterLogin, ascii]

end Homebrew

/-! ### Two endpoints and the wire -/

/-- A datagram on the wire. -/
structure Msg where
  src : Addr
  dst : Addr
  bytes : List UInt8
  deriving DecidableEq

/-- A repeater and a master on one network: the repeater's run `r`, the master's run `m`, the
datagrams in flight, and the time of the last event. -/
structure Joint where
  r : State
  m : State
  net : List Msg
  clock : ℕ

namespace Joint

variable (X : Ext) (rAddr mAddr : Addr)

/-- What an endpoint at `self` wrote, on the wire. -/
def wire (self : Addr) (o : Out) : List Msg := o.sent.map fun x => ⟨self, x.1, x.2⟩

/-- The endpoint at the destination of `msg` reads it at `env.now`; `net` is the rest of the
wire.  A datagram to neither address is dropped. -/
def recv (J : Joint) (msg : Msg) (env : Env) (net : List Msg) : Joint :=
  if msg.dst = mAddr then
    let s := step X J.m (.recv env msg.src msg.bytes)
    ⟨J.r, s.1, net ++ wire mAddr s.2, env.now⟩
  else if msg.dst = rAddr then
    let s := step X J.r (.recv env msg.src msg.bytes)
    ⟨s.1, J.m, net ++ wire rAddr s.2, env.now⟩
  else ⟨J.r, J.m, net, env.now⟩

/-- The repeater's keepalive tick at `env.now`. -/
def tickR (J : Joint) (env : Env) : Joint :=
  let s := step X J.r (.tick env)
  ⟨s.1, J.m, J.net ++ wire rAddr s.2, env.now⟩

/-- The master's keepalive tick at `env.now`. -/
def tickM (J : Joint) (env : Env) : Joint :=
  let s := step X J.m (.tick env)
  ⟨J.r, s.1, J.net ++ wire mAddr s.2, env.now⟩

/-- One event of the network: a datagram in flight, any of them, is delivered or — when `lossy`
— lost, or an endpoint ticks; time never goes back. -/
inductive Step (lossy : Bool) : Joint → Joint → Prop
  | deliver {J : Joint} (pre post : List Msg) (msg : Msg) (env : Env)
      (hnet : J.net = pre ++ msg :: post) (ht : J.clock ≤ env.now) :
      Step lossy J (J.recv X rAddr mAddr msg env (pre ++ post))
  | lose {J : Joint} (pre post : List Msg) (msg : Msg) (hnet : J.net = pre ++ msg :: post)
      (hl : lossy = true) : Step lossy J { J with net := pre ++ post }
  | tickR {J : Joint} (env : Env) (ht : J.clock ≤ env.now) : Step lossy J (J.tickR X rAddr env)
  | tickM {J : Joint} (env : Env) (ht : J.clock ≤ env.now) : Step lossy J (J.tickM X mAddr env)

/-- The runs of the network, with loss when `lossy`. -/
def Reach (lossy : Bool) : Joint → Joint → Prop := Relation.ReflTransGen (Step X rAddr mAddr lossy)

/-- Both ends authenticated: the repeater's peer for the master and the master's peer for the
repeater are in `AuthDone`. -/
def BothDone (J : Joint) : Prop :=
  ∃ p q, J.r.h.getPeerByAddr mAddr = some p ∧ (J.r.h.heap p).status = .authDone ∧
    J.m.h.getPeerByAddr rAddr = some q ∧ (J.m.h.heap q).status = .authDone

/-- The repeater's peer for the master at `mAddr`, whose id is `id`: outgoing, with the key the
master gives the peers it registers. -/
def masterPeer (id : UInt32) : Peer := { loginPeer mAddr id with incoming := false }

/-- The repeater, at `rAddr`, links its peer for the master, which sends the first `RPTL`; the
master has no peer yet. -/
def init (cR cM : RepeaterConfiguration) (env : Env) : Joint :=
  let s := step X (State.init cR) (.link env (masterPeer mAddr cM.id))
  ⟨s.1, State.init cM, wire rAddr s.2, env.now⟩

/-! ### A login that cannot complete -/

/-- The login is stuck: the master holds the repeater's peer `pM`, its only peer, waiting for the
key; the repeater's only peer `pR` is for the master and has not logged in; and every datagram in
flight is a login from the repeater to the master. -/
structure Stuck (pR pM : Ptr) (J : Joint) : Prop where
  addr_ne : mAddr ≠ rAddr
  m_peer : J.m.h.getPeerByAddr rAddr = some pM
  m_peers : J.m.h.getPeers = [pM]
  m_begin : (J.m.h.heap pM).status = .authBegin
  m_incoming : (J.m.h.heap pM).incoming = true
  r_peers : J.r.h.getPeers = [pR]
  r_outgoing : (J.r.h.heap pR).incoming = false
  r_addr : (J.r.h.heap pR).addrString = mAddr
  r_status : (J.r.h.heap pR).status = .authNone ∨ (J.r.h.heap pR).status = .authFailed
  net : ∀ msg ∈ J.net, msg.src = rAddr ∧ msg.dst = mAddr ∧ msg.bytes.take 4 = RepeaterLogin

variable {X rAddr mAddr}

theorem Stuck.not_bothDone {pR pM : Ptr} {J : Joint} (hs : Stuck rAddr mAddr pR pM J) :
    ¬ J.BothDone rAddr mAddr := by
  rintro ⟨p, q, -, -, hq, hd⟩
  rw [hs.m_peer, Option.some.injEq] at hq
  subst hq
  rw [hs.m_begin] at hd
  cases hd

/-- **Every event keeps a stuck login stuck**, a loss among them. -/
theorem Stuck.step {pR pM : Ptr} {lossy : Bool} {J J' : Joint} (hs : Stuck rAddr mAddr pR pM J)
    (h : Step X rAddr mAddr lossy J J') : Stuck rAddr mAddr pR pM J' := by
  cases h with
  | deliver pre post msg env hnet ht =>
    obtain ⟨hsrc, hdst, hl⟩ := hs.net msg (by simp [hnet])
    obtain ⟨hsent, hpeer, hb, hi⟩ := handle_login_of_begin X env J.m.h rAddr pM
      hs.m_peer hs.m_begin hs.m_incoming J.m.buf msg.bytes hl
    simp only [recv, hdst, if_true, GoDmr.step, hsrc]
    refine ⟨hs.addr_ne, ?_, ?_, hb, hi, hs.r_peers, hs.r_outgoing, hs.r_addr, hs.r_status, ?_⟩
    · simpa [getPeerByAddr, hpeer] using hs.m_peer
    · simpa [getPeers, hpeer] using hs.m_peers
    · intro m hm
      simp only [wire, hsent, List.map_nil, List.append_nil] at hm
      exact hs.net m (by rw [hnet]; simp at hm ⊢; tauto)
  | lose pre post msg hnet hl =>
    exact { hs with net := fun m hm => hs.net m (by rw [hnet]; simp at hm ⊢; tauto) }
  | tickR env ht =>
    obtain ⟨hpeer, hi, ha, hst, hsent⟩ := keepalive_of_unauth env J.r.h pR hs.r_peers
      hs.r_outgoing hs.r_status
    refine ⟨hs.addr_ne, hs.m_peer, hs.m_peers, hs.m_begin, hs.m_incoming, ?_, hi,
      ha.trans hs.r_addr, hst, ?_⟩
    · simpa [tickR, GoDmr.step, getPeers, hpeer] using hs.r_peers
    · intro m hm
      simp only [tickR, GoDmr.step, wire, List.mem_append, List.mem_map] at hm
      rcases hm with hm | ⟨x, hx, rfl⟩
      · exact hs.net m hm
      · obtain ⟨h₁, h₂⟩ := hsent x hx
        exact ⟨rfl, h₁.trans hs.r_addr, h₂⟩
  | tickM env ht =>
    have hk := keepalive_of_incoming env J.m.h pM hs.m_peers hs.m_incoming
    simp only [tickM, GoDmr.step, wire, hk, List.map_nil, List.append_nil]
    exact { hs with }

theorem Stuck.reach {pR pM : Ptr} {lossy : Bool} {J J' : Joint} (hs : Stuck rAddr mAddr pR pM J)
    (h : Reach X rAddr mAddr lossy J J') : Stuck rAddr mAddr pR pM J' := by
  induction h with
  | refl => exact hs
  | tail _ hst ih => exact ih.step hst

/-- **A stuck login never completes**: from a stuck state, no run — with loss or without —
authenticates both ends; the login stays stuck. -/
theorem stuck_login_never_completes (X : Ext) (rAddr mAddr : Addr) (pR pM : Ptr) (lossy : Bool)
    (J J' : Joint) (hs : Stuck rAddr mAddr pR pM J) (h : Reach X rAddr mAddr lossy J J') :
    Stuck rAddr mAddr pR pM J' ∧ ¬ J'.BothDone rAddr mAddr :=
  ⟨hs.reach h, (hs.reach h).not_bothDone⟩

/-! ### One lost datagram -/

/-- The master in the examples: the sample configuration under the repeater ID `2`. -/
def masterConfig : RepeaterConfiguration := { sampleConfig with id := 2 }

/-- The network after the master answered the repeater's first login and its answer
`RPTACK‖nonce` was lost. -/
def lostAck : Joint :=
  { (init sampleExt "R" "M" sampleConfig masterConfig sampleEnv).recv sampleExt "R" "M"
      ⟨"R", "M", RepeaterLogin ++ packRepeaterID 1⟩ sampleEnv [] with net := [] }

theorem stuck_lostAck : Stuck "R" "M" 0 0 lostAck :=
  ⟨by decide, by decide, by decide, by decide, by decide, by decide, by decide, by decide,
    .inl (by decide), fun m hm => absurd hm (List.not_mem_nil m)⟩

theorem reach_lostAck :
    Reach sampleExt "R" "M" true (init sampleExt "R" "M" sampleConfig masterConfig sampleEnv)
      lostAck :=
  .tail (.single (.deliver [] [] ⟨"R", "M", RepeaterLogin ++ packRepeaterID 1⟩ sampleEnv
    (by decide) le_rfl)) (.lose [] [] ⟨"M", "R", RepeaterACK ++ [1, 2, 3, 4]⟩ (by decide) rfl)

/-- Losing the master's first answer gets the login stuck: from there no run without loss
authenticates both ends. -/
theorem login_stuck_after_lost_ack :
    ∃ J, Reach sampleExt "R" "M" true (init sampleExt "R" "M" sampleConfig masterConfig sampleEnv) J ∧
      ∀ J', Reach sampleExt "R" "M" false J J' → ¬ J'.BothDone "R" "M" :=
  ⟨lostAck, reach_lostAck, fun _ h => (stuck_lostAck.reach h).not_bothDone⟩

/-- A stuck state, and the run that stays in it. -/
theorem stuck_login_never_completes_on_lost_ack :
    (Stuck "R" "M" 0 0 lostAck ∧ Reach sampleExt "R" "M" false lostAck lostAck) ∧
      Stuck "R" "M" 0 0 lostAck ∧ ¬ lostAck.BothDone "R" "M" :=
  ⟨⟨stuck_lostAck, .refl⟩,
    stuck_login_never_completes sampleExt "R" "M" 0 0 false lostAck lostAck stuck_lostAck .refl⟩

/-- Without loss, the same start authenticates both ends after four deliveries. -/
example : ∃ J, Reach sampleExt "R" "M" false
    (init sampleExt "R" "M" sampleConfig masterConfig sampleEnv) J ∧ J.BothDone "R" "M" := by
  refine ⟨_, .tail (.tail (.tail (.single
    (.deliver [] [] ⟨"R", "M", RepeaterLogin ++ packRepeaterID 1⟩ sampleEnv (by decide) le_rfl))
    (.deliver [] [] ⟨"M", "R", RepeaterACK ++ [1, 2, 3, 4]⟩ sampleEnv (by decide) le_rfl))
    (.deliver [] [] ⟨"R", "M", RepeaterKey ++ packRepeaterID 1 ++ List.replicate 28 0 ++
      [1, 2, 3, 4]⟩ sampleEnv (by decide) le_rfl))
    (.deliver [] [] ⟨"M", "R", RepeaterACK ++ packRepeaterID 2⟩ sampleEnv (by decide) le_rfl),
    0, 0, by decide, by decide, by decide, by decide⟩

end Joint

end GoDmr
