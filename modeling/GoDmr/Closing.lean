/-
**Every closing notice of a repeater crashes its master.**

A repeater gives a session up in two ways, and both write `RPTCL` with its id to the master: its
keepalive tick, once no pong came for `PingTimeout`, before it logs in again; and `Close`, which
tells each authenticated peer that the endpoint is closing (in either role: no code writes
`MasterClosing`).  The master never drops a repeater it has authenticated.  It has no timeout for
incoming peers (the branch for them in `keepalive` is commented out), and no datagram demotes an
authenticated incoming peer.  Such a peer matches `RepeaterConfig` on the first four bytes of a
datagram, takes the notice for a configuration frame, and panics on the nil record
`parseConfigData` leaves.  So on every run, whatever is lost or reordered and whenever the ticks
come, the notice crashes the master whenever it is delivered.

Main results:

* `GoDmr.Homebrew.close_sent` — what `Close` writes when its writes succeed;
* `GoDmr.Joint.Reach.serving` — on every run the master keeps its registry, and every peer it
  holds authenticated;
* `GoDmr.Joint.closing_notice_crashes_master` — **every closing notice of a repeater crashes its
  master**.
-/

import GoDmr.Restart

set_option relaxedAutoImplicit false
set_option autoImplicit false

namespace GoDmr

open Homebrew

namespace Homebrew

variable (env : Env)

/-- When every write succeeds, `Close` writes `RPTCL` with our id to each authenticated peer, in
the order of `getPeers`, and to nobody else. -/
theorem close_sent (hs : ∀ a, env.sock a = none) (h : Homebrew) (e : Option String) :
    (close env h e).sent = (h.getPeers.filter fun q => (h.heap q).status == .authDone).map
      fun q => ((h.heap q).addrString, RepeaterClosing ++ h.id) :=
  writeEach_sent_eq env hs _ (fun _ _ ho => funext fun q => by rw [ho.status_eq]) _ _ _

/-- When every write succeeds, `Close` notifies each authenticated peer at its address. -/
theorem mem_close_sent (hs : ∀ a, env.sock a = none) (h : Homebrew) (e : Option String)
    {a : Addr} {p : Ptr} {inc : Bool} (hp : PeerAt h a p inc .authDone) :
    (a, RepeaterClosing ++ h.id) ∈ (close env h e).sent := by
  rw [close_sent env hs]
  exact List.mem_map.2 ⟨p, List.mem_filter.2 ⟨mem_getPeers.2 ⟨a, hp.peer⟩, by simp [hp.status]⟩,
    by rw [hp.addr]⟩

end Homebrew

/-- A peer the registry of a master holds authenticated is incoming, at its own address. -/
theorem Serving.peerAt {h : Homebrew} (hs : Serving h) {a : Addr} {p : Ptr}
    (hp : h.getPeerByAddr a = some p) (hd : (h.heap p).status = .authDone) :
    PeerAt h a p true .authDone :=
  ⟨hp, (hs.addr a p hp).1, hs.incoming a p hp, hd⟩

namespace Joint

variable {X : Ext} {rAddr mAddr : Addr}

/-- On every run the master keeps the registry of a master, and every peer it holds
authenticated. -/
theorem Reach.serving {lossy : Bool} {J J' : Joint} (h : Reach X rAddr mAddr lossy J J')
    (hs : Serving J.m.h) : Serving J'.m.h ∧ Keeps J.m.h J'.m.h := by
  induction h with
  | refl => exact ⟨hs, .refl _⟩
  | tail _ hst ih =>
    obtain ⟨hs', hk⟩ := hst.serving ih.1
    exact ⟨hs', ih.2.trans hk⟩

variable (X)

/-- **Every closing notice of a repeater crashes its master.**  Take a master that serves and holds
the repeater at `rAddr` authenticated, and any later state of any run — datagrams lost, reordered
or delivered late, both keepalive timers ticking — in which the repeater still holds its link to
the master authenticated.  Its tick more than `PingTimeout` after the last pong writes `RPTCL` with
its id to the master, and so does its `Close` when its writes succeed.  On every run from there the
master still holds the repeater authenticated, and its `handle` of that `RPTCL`, whenever it is
delivered, panics. -/
theorem closing_notice_crashes_master (J : Joint) (pM : Ptr) (hs : Serving J.m.h)
    (hm : PeerAt J.m.h rAddr pM true .authDone) (lossy : Bool) (J₁ : Joint)
    (h₁ : Reach X rAddr mAddr lossy J J₁) (pR : Ptr) (hr : PeerAt J₁.r.h mAddr pR false .authDone)
    (hps : J₁.r.h.getPeers = [pR]) (hid : J₁.r.h.id.length = 4) (env : Env)
    (hlate : PingTimeout < env.now - (J₁.r.h.heap pR).last.pongReceived) :
    ⟨rAddr, mAddr, RepeaterClosing ++ J₁.r.h.id⟩ ∈ (J₁.tickR X rAddr env).net ∧
      (∀ (envc : Env) (e : Option String), (∀ a, envc.sock a = none) →
        ⟨rAddr, mAddr, RepeaterClosing ++ J₁.r.h.id⟩ ∈ wire rAddr (close envc J₁.r.h e)) ∧
      ∀ J₂, Reach X rAddr mAddr lossy J₁ J₂ → PeerAt J₂.m.h rAddr pM true .authDone ∧
        ∀ env' : Env, (handle X env' J₂.m.h rAddr
          (J₂.m.buf.read (RepeaterClosing ++ J₁.r.h.id))).ret = .panic := by
  obtain ⟨hsent, -⟩ := keepalive_of_timeout env J₁.r.h pR hps hr.incoming hr.status hlate
  refine ⟨?_, fun envc e hc => List.mem_map.2 ⟨_, mem_close_sent envc hc J₁.r.h e hr, rfl⟩,
    fun J₂ h₂ => ?_⟩
  · rw [tickR_eq]
    simp [wire, hsent, hr.addr]
  -- the master keeps the repeater authenticated from `J` on
  obtain ⟨hs₂, hk⟩ := Reach.serving (Relation.ReflTransGen.trans h₁ h₂) hs
  have hm₂ := hs₂.peerAt (hk.peer _ _ hm.peer) (hk.done _ _ hm.peer hm.status)
  exact ⟨hm₂, fun env' => handle_closing_of_authDone X env' J₂.m.h rAddr pM hm₂ J₂.m.buf _ hid⟩

/-- After the sample login, the repeater's tick `PingTimeout` and a nanosecond later, or its
`Close`. -/
theorem closing_notice_crashes_master_after_login :
    ∃ J pR pM, Reach tokenExt "R" "M" false
        (init tokenExt "R" "M" sampleConfig masterConfig sampleEnv) J ∧
      (Serving J.m.h ∧ PeerAt J.m.h "R" pM true .authDone ∧
        PeerAt J.r.h "M" pR false .authDone ∧ J.r.h.getPeers = [pR] ∧ J.r.h.id.length = 4 ∧
        PingTimeout < sampleEnv.now + PingTimeout + 1 - (J.r.h.heap pR).last.pongReceived) ∧
      let late : Env := ⟨sampleEnv.now + PingTimeout + 1, none, fun _ => none⟩
      ⟨"R", "M", RepeaterClosing ++ J.r.h.id⟩ ∈ (J.tickR tokenExt "R" late).net ∧
        (∀ (envc : Env) (e : Option String), (∀ a, envc.sock a = none) →
          ⟨"R", "M", RepeaterClosing ++ J.r.h.id⟩ ∈ wire "R" (close envc J.r.h e)) ∧
        ∀ J₂, Reach tokenExt "R" "M" false J J₂ → PeerAt J₂.m.h "R" pM true .authDone ∧
          ∀ env' : Env, (handle tokenExt env' J₂.m.h "R"
            (J₂.m.buf.read (RepeaterClosing ++ J.r.h.id))).ret = .panic := by
  obtain ⟨J, pR, pM, hJ, hl⟩ := login_run tokenExt "R" "M" sampleConfig masterConfig sampleEnv _
    (by decide) length_tokenExt_updateToken rfl
  have hs := (agree_reach (by decide) length_tokenExt_updateToken
    (agree_init tokenExt "R" "M" sampleConfig masterConfig sampleEnv) hJ).serving
  have hid : J.r.h.id.length = 4 := by rw [hl.r_id]; rfl
  have hlate : PingTimeout < sampleEnv.now + PingTimeout + 1 - (J.r.h.heap pR).last.pongReceived := by
    rw [hl.r_pongReceived]; omega
  exact ⟨J, pR, pM, hJ, ⟨hs, hl.m_peer, hl.r_peer, hl.r_peers, hid, hlate⟩,
    closing_notice_crashes_master tokenExt J pM hs hl.m_peer false J .refl pR hl.r_peer hl.r_peers
      hid _ hlate⟩

end Joint

end GoDmr
