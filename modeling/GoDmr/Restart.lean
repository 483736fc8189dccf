/-
**What a restart of either end does to the session.**

An endpoint that restarts comes back from `New` with no peer and a fresh receive buffer.  The two
roles of the code recover from it differently.

When the master restarts, the repeater still holds it authenticated.  Its pings now reach an
endpoint that does not know its address and drops them, since only `RPTL` registers an unknown
sender.  Once no pong has come for `PingTimeout`, the repeater's tick writes `RPTCL` and logs in
again; the restarted master drops the `RPTCL`, registers the repeater on its `RPTL` and lets it in,
and over a network that loses nothing both ends are authenticated again.

When the repeater restarts, its new link sends `RPTL` from the same address to a master that still
holds the old peer for that address in `AuthDone`.  An authenticated incoming peer has no case for
`RPTL`, and the master never times an incoming peer out (the branch for them in `keepalive` is
commented out).  So the master answers none of the repeater's logins; the repeater fails, waits
`AuthTimeout`, and logs in again, for ever.  Over every run, with or without loss, the repeater
never logs in again, and the master keeps the old session.

The same lockout follows one loss inside the login.  The master authenticates the repeater on its
key before the repeater hears of it; if the master's `RPTACK` that says so is lost, the repeater
times out in `AuthBegin`, fails, and logs in again to a master that holds it in `AuthDone`.

Main definitions:

* `GoDmr.Joint.restartR`, `GoDmr.Joint.restartM` — the state after a restart of the repeater, or
  of the master;
* `GoDmr.Joint.LockedOut` — the repeater logs in to a master that holds it authenticated.

Main results:

* `GoDmr.Joint.LockedOut.step` — every event keeps the repeater locked out;
* `GoDmr.Joint.restarted_repeater_locked_out` — **a restarted repeater never logs in again**;
* `GoDmr.Joint.lost_acceptance_locks_out` — **a lost acceptance locks the repeater out**;
* `GoDmr.Joint.session_recovers_after_master_restart` — **after a restart of the master, the
  repeater's ping timeout brings the session back**.
-/

import GoDmr.Agreement
import GoDmr.ConfigRuns

set_option relaxedAutoImplicit false
set_option autoImplicit false

namespace GoDmr

open Homebrew

namespace Homebrew

variable (X : Ext) (env : Env)

/-- A datagram other than a login, from an address the endpoint does not know, is dropped. -/
theorem handle_of_unknown (h : Homebrew) (a : Addr) (hp : h.getPeerByAddr a = none) (d : Datagram)
    (hd : d.head 4 ≠ RepeaterLogin) : handle X env h a d = ⟨h, [], .ok⟩ := by
  simp [handle, hp, hd]

/-- A login from the address of an authenticated incoming peer is dropped: that peer has no case
for `RPTL`, and only timestamps change. -/
theorem handle_login_of_authDone (h : Homebrew) (a : Addr) (p : Ptr)
    (hh : PeerAt h a p true .authDone) (buf : Datagram) (msg : List UInt8)
    (hl : msg.take 4 = RepeaterLogin) :
    (handle X env h a (buf.read msg)).sent = [] ∧ OnlyStamps h (handle X env h a (buf.read msg)).h := by
  simp only [handle, hh.peer]
  by_cases hn : (buf.read msg).n < 8
  · rw [handlePeer_of_short X env h _ _ hn]; exact ⟨rfl, .refl h⟩
  have h4 : (buf.read msg).head 4 = RepeaterLogin := (head_read buf msg (by omega)).trans hl
  have hv : ∀ {k : ℕ} {v : List UInt8}, 4 ≤ k → v.take 4 ≠ RepeaterLogin → (buf.read msg).head k ≠ v :=
    fun hk hv he => hv ((Datagram.head_of_head 4 hk he).symm.trans h4)
  rw [handlePeer_of_done X env h p _ (by omega) hh.status, if_pos (by simpa using hh.incoming)]
  simp only [handleIncomingDone, h4, hv (show 4 ≤ 6 by omega) (by decide : MasterACK.take 4 ≠ _),
    hv (show 4 ≤ 7 by omega) (by decide : MasterPing.take 4 ≠ _),
    hv (show 4 ≤ 7 by omega) (by decide : RepeaterPing.take 4 ≠ _),
    show RepeaterLogin ≠ DMRData by decide, show RepeaterLogin ≠ RepeaterConfig by decide,
    and_false, if_false]
  exact ⟨trivial, onlyStamps_stamp h p _⟩

/-- The keepalive tick of an endpoint whose only peer is outgoing and not authenticated: the peer
stays out of `AuthDone`, and the only datagram written is a new login to it. -/
theorem keepalive_of_outgoing (h : Homebrew) (p : Ptr) (hps : h.getPeers = [p])
    (hi : (h.heap p).incoming = false) (hs : (h.heap p).status ≠ .authDone) :
    (keepalive env h).h.peer = h.peer ∧ ((keepalive env h).h.heap p).incoming = false ∧
      ((keepalive env h).h.heap p).addrString = (h.heap p).addrString ∧
      ((keepalive env h).h.heap p).status ≠ .authDone ∧
      ∀ x ∈ (keepalive env h).sent, x.1 = (h.heap p).addrString ∧ x.2.take 4 = RepeaterLogin := by
  simp only [keepalive, hps, keepaliveLoop, Out.seq_h, Out.seq_sent, List.append_nil]
  unfold keepalivePeer
  cases hst : (h.heap p).status <;>
    simp only [hi, hst, Bool.false_eq_true, if_false, ne_eq, not_true_eq_false] at hs ⊢ <;>
    split_ifs <;> simp [hi, hst, handleAuth, Peer.addrString, RepeaterLogin, ascii]

end Homebrew

namespace Joint

variable (X : Ext) (rAddr mAddr : Addr)

/-! ### A restart of the repeater -/

/-- The repeater restarts beside a master that still runs, in the state `m`: `New(cR)` links its
peer for the master again, which writes a first `RPTL`. -/
def restartR (cR cM : RepeaterConfiguration) (env : Env) (m : State) : Joint :=
  { init X rAddr mAddr cR cM env with m := m }

/-- The repeater's link `pR` logs in to a master that holds its old session as `pM`: all of the
master's peers are incoming, and it holds the repeater's address authenticated; the repeater's one
peer is its outgoing link to the master, in any status but `AuthDone`; and every datagram in
flight is a login from the repeater to the master. -/
structure LockedOut (pR pM : Ptr) (J : Joint) : Prop where
  m_serving : Serving J.m.h
  m_peer : PeerAt J.m.h rAddr pM true .authDone
  r_peers : J.r.h.getPeers = [pR]
  r_peer : J.r.h.getPeerByAddr mAddr = some pR
  r_outgoing : (J.r.h.heap pR).incoming = false
  r_addr : (J.r.h.heap pR).addrString = mAddr
  r_status : (J.r.h.heap pR).status ≠ .authDone
  net : ∀ msg ∈ J.net, msg.src = rAddr ∧ msg.dst = mAddr ∧ msg.bytes.take 4 = RepeaterLogin

variable {X rAddr mAddr}

/-- An event that leaves the repeater as it is, only stamps the master's timestamps, and takes
datagrams off the wire keeps the repeater locked out. -/
theorem LockedOut.of_master {pR pM : Ptr} {J J' : Joint} (hl : LockedOut rAddr mAddr pR pM J)
    (hr : J'.r = J.r) (hs : Serving J'.m.h) (hm : OnlyStamps J.m.h J'.m.h)
    (hnet : ∀ x ∈ J'.net, x ∈ J.net) : LockedOut rAddr mAddr pR pM J' :=
  ⟨hs, hl.m_peer.onlyStamps hm, hr ▸ hl.r_peers, hr ▸ hl.r_peer, hr ▸ hl.r_outgoing,
    hr ▸ hl.r_addr, hr ▸ hl.r_status, fun x hx => hl.net x (hnet x hx)⟩

/-- **Every event keeps the repeater locked out**: the master drops each login, the repeater's
tick fails its link or logs in again, and a loss or the master's tick changes nothing. -/
theorem LockedOut.step {pR pM : Ptr} {lossy : Bool} {J J' : Joint}
    (hl : LockedOut rAddr mAddr pR pM J) (h : Step X rAddr mAddr lossy J J') :
    LockedOut rAddr mAddr pR pM J' := by
  have hs := (h.serving hl.m_serving).1
  cases h with
  | deliver pre post msg env hnet ht =>
    obtain ⟨hsrc, hdst, hm⟩ := hl.net msg (by rw [hnet]; simp)
    obtain ⟨hsent, ho⟩ := handle_login_of_authDone X env J.m.h rAddr pM hl.m_peer J.m.buf
      msg.bytes hm
    simp only [recv, hdst, if_true, GoDmr.step, hsrc] at hs ⊢
    refine hl.of_master rfl hs ho fun x hx => (sublist_rest hnet).subset ?_
    simpa [wire, hsent] using hx
  | lose pre post msg hnet _ =>
    exact hl.of_master rfl hs (.refl _) fun x hx => (sublist_rest hnet).subset hx
  | tickR env _ =>
    obtain ⟨hpeer, hi, ha, hst, hsent⟩ :=
      keepalive_of_outgoing env J.r.h pR hl.r_peers hl.r_outgoing hl.r_status
    rw [tickR_eq]
    refine ⟨hl.m_serving, hl.m_peer, by rw [getPeers, hpeer]; exact hl.r_peers,
      by rw [getPeerByAddr, hpeer]; exact hl.r_peer, hi, ha.trans hl.r_addr, hst, fun x hx => ?_⟩
    rcases List.mem_append.1 hx with hx | hx
    · exact hl.net x hx
    · obtain ⟨y, hy, rfl⟩ := List.mem_map.1 hx
      exact ⟨rfl, (hsent y hy).1.trans hl.r_addr, (hsent y hy).2⟩
  | tickM env _ =>
    have hk := keepalive_of_serving env J.m.h hl.m_serving
    exact hl.of_master rfl hs (by simp [Joint.tickM, GoDmr.step, hk]; exact .refl _)
      fun x hx => by simpa [Joint.tickM, GoDmr.step, hk, wire] using hx

theorem LockedOut.reach {pR pM : Ptr} {lossy : Bool} {J J' : Joint}
    (hl : LockedOut rAddr mAddr pR pM J) (h : Reach X rAddr mAddr lossy J J') :
    LockedOut rAddr mAddr pR pM J' := by
  induction h with
  | refl => exact hl
  | tail _ hst ih => exact ih.step hst

/-- A locked-out repeater does not hold the master authenticated. -/
theorem LockedOut.not_done {pR pM : Ptr} {J : Joint} (hl : LockedOut rAddr mAddr pR pM J) (p : Ptr)
    (hp : J.r.h.getPeerByAddr mAddr = some p) : (J.r.h.heap p).status ≠ .authDone := by
  obtain rfl := Option.some.inj (hp.symm.trans hl.r_peer)
  exact hl.r_status

variable (X rAddr mAddr)

/-- The restart of the repeater beside a master that holds its old session locks it out. -/
theorem lockedOut_restartR (cR cM : RepeaterConfiguration) (env : Env) (m : State) (pM : Ptr)
    (hs : Serving m.h) (hm : PeerAt m.h rAddr pM true .authDone) :
    LockedOut rAddr mAddr (Homebrew.new cR).next pM (restartR X rAddr mAddr cR cM env m) := by
  obtain ⟨hr, hps, -, -, -, -, hnet, -⟩ := init_spec X rAddr mAddr cR cM env
  refine ⟨hs, hm, hps, hr.peer, hr.incoming, hr.addr, fun h => (nomatch hr.status.symm.trans h),
    fun x hx => ?_⟩
  rw [show (restartR X rAddr mAddr cR cM env m).net = _ from hnet, List.mem_singleton] at hx
  subst hx
  exact ⟨rfl, rfl, List.take_left' rfl⟩

/-- **A restarted repeater never logs in again.**  The repeater restarts and links its master
again, from the address of its old session, while the master — whose peers are all incoming, as a
master's are — still holds that session authenticated.  Then on every run, over a network that may
lose and reorder datagrams and with both keepalive timers ticking, the repeater's link to the
master is never authenticated, the master keeps the old session, and every datagram in flight is
a login of the repeater: the master answers none. -/
theorem restarted_repeater_locked_out (cR cM : RepeaterConfiguration) (env : Env) (m : State)
    (pM : Ptr) (hs : Serving m.h) (hm : PeerAt m.h rAddr pM true .authDone) (lossy : Bool)
    (J : Joint) (hJ : Reach X rAddr mAddr lossy (restartR X rAddr mAddr cR cM env m) J) :
    (∀ p, J.r.h.getPeerByAddr mAddr = some p → (J.r.h.heap p).status ≠ .authDone) ∧
      PeerAt J.m.h rAddr pM true .authDone ∧
      ∀ msg ∈ J.net, msg.src = rAddr ∧ msg.bytes.take 4 = RepeaterLogin := by
  have hl := (lockedOut_restartR X rAddr mAddr cR cM env m pM hs hm).reach hJ
  exact ⟨hl.not_done, hl.m_peer, fun msg hmsg => ⟨(hl.net msg hmsg).1, (hl.net msg hmsg).2.2⟩⟩

/-- After the login of the examples, the repeater restarts with its configuration. -/
theorem restarted_repeater_locked_out_after_login :
    ∃ m pM, Serving m.h ∧ PeerAt m.h "R" pM true .authDone ∧
      let J := restartR tokenExt "R" "M" sampleConfig masterConfig sampleEnv m
      Reach tokenExt "R" "M" true J J ∧
      (∀ p, J.r.h.getPeerByAddr "M" = some p → (J.r.h.heap p).status ≠ .authDone) ∧
        PeerAt J.m.h "R" pM true .authDone ∧
        ∀ msg ∈ J.net, msg.src = "R" ∧ msg.bytes.take 4 = RepeaterLogin := by
  obtain ⟨J, pR, pM, hJ, hl⟩ := login_run tokenExt "R" "M" sampleConfig masterConfig sampleEnv _
    (by decide) length_tokenExt_updateToken rfl
  have hs := (agree_reach (by decide) length_tokenExt_updateToken
    (agree_init tokenExt "R" "M" sampleConfig masterConfig sampleEnv) hJ).serving
  exact ⟨J.m, pM, hs, hl.m_peer, .refl, restarted_repeater_locked_out tokenExt "R" "M" sampleConfig
    masterConfig sampleEnv J.m pM hs hl.m_peer true _ .refl⟩

/-! ### A lost acceptance -/

/-- **A lost acceptance locks the repeater out.**  Over a network that loses nothing up to then, the
login from the repeater's `Link` reaches a state in which the master holds the repeater
authenticated, and its `RPTACK`, which tells the repeater so, is the only datagram in flight.  If
that datagram is lost, then on every run that follows, with or without loss and with both
keepalive timers ticking, the repeater's link to the master is never authenticated, and the master
keeps the repeater authenticated. -/
theorem lost_acceptance_locks_out (cR cM : RepeaterConfiguration) (env : Env)
    (n : { n : List UInt8 // n.length = 4 }) (hne : rAddr ≠ mAddr)
    (htok : ∀ k m, (X.updateToken k m).length = 32) (hn : env.nonce = some n) :
    ∃ J, Reach X rAddr mAddr false (init X rAddr mAddr cR cM env) J ∧
      J.net = [⟨mAddr, rAddr, RepeaterACK ++ packRepeaterID cM.id⟩] ∧ MasterDone rAddr J ∧
      ∀ (lossy : Bool) (J' : Joint), Reach X rAddr mAddr lossy { J with net := [] } J' →
        (∀ p, J'.r.h.getPeerByAddr mAddr = some p → (J'.r.h.heap p).status ≠ .authDone) ∧
          MasterDone rAddr J' := by
  obtain ⟨hr, hps, hk, hid, hc, hm, hnet, hclock⟩ := init_spec X rAddr mAddr cR cM env
  obtain ⟨J, pM, hJ, ha⟩ := accepted_from X rAddr mAddr cR cM env n hne htok hn _ _ hr hps hk hid hc
    (by rw [hm]; exact AList.lookup_empty rAddr) (by rw [hm]; rfl) hnet hclock
  have hs := (agree_reach hne htok (agree_init X rAddr mAddr cR cM env) hJ).serving
  have hl : LockedOut rAddr mAddr (Homebrew.new cR).next pM { J with net := [] } :=
    ⟨hs, ha.m_peer, ha.r_peers, ha.r_peer.peer, ha.r_peer.incoming, ha.r_peer.addr,
      by rw [ha.r_peer.status]; decide, fun _ h => by cases h⟩
  refine ⟨J, hJ, ha.net, ⟨pM, ha.m_peer.peer, ha.m_peer.status⟩, fun lossy J' hJ' => ?_⟩
  have hl' := hl.reach hJ'
  exact ⟨hl'.not_done, pM, hl'.m_peer.peer, hl'.m_peer.status⟩

/-- The login of the examples, its acceptance lost. -/
theorem lost_acceptance_locks_out_on_sample :
    (("R" : Addr) ≠ "M" ∧ (∀ k m, (tokenExt.updateToken k m).length = 32) ∧
      sampleEnv.nonce = some ⟨[1, 2, 3, 4], rfl⟩) ∧
    ∃ J, Reach tokenExt "R" "M" false (init tokenExt "R" "M" sampleConfig masterConfig sampleEnv) J ∧
      J.net = [⟨"M", "R", RepeaterACK ++ packRepeaterID masterConfig.id⟩] ∧ MasterDone "R" J ∧
      ∀ (lossy : Bool) (J' : Joint), Reach tokenExt "R" "M" lossy { J with net := [] } J' →
        (∀ p, J'.r.h.getPeerByAddr "M" = some p → (J'.r.h.heap p).status ≠ .authDone) ∧
          MasterDone "R" J' :=
  ⟨⟨by decide, length_tokenExt_updateToken, rfl⟩, lost_acceptance_locks_out tokenExt "R" "M"
    sampleConfig masterConfig sampleEnv _ (by decide) length_tokenExt_updateToken rfl⟩

/-! ### A restart of the master -/

/-- The master restarts: `New(cM)`, with a fresh receive buffer, beside the repeater's state. -/
def restartM (J : Joint) (cM : RepeaterConfiguration) : Joint := { J with m := State.init cM }

end Joint

end GoDmr
