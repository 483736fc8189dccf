/-
**What every run of one endpoint keeps.**

A master registers its peers itself: `handle` links a new incoming peer for every unknown address
that sends `RPTL`.  Nothing it does afterwards takes one out again.  `Unlink` is the host's, and
the one call of it inside the package is for an outgoing peer refused by its master; the keepalive
skips incoming peers (their branch is commented out in the source); and no datagram moves an
authenticated incoming peer out of `AuthDone`.  So on a master whose host only serves —
receives, ticks and sends, and links or unlinks nothing itself — a peer once registered stays
registered at its address for the rest of the run, and a peer once authenticated stays
authenticated, whatever it and everyone else send.

Main definitions:

* `GoDmr.Keeps` — one endpoint keeps every registered peer of another at its address, and every
  authenticated one authenticated;
* `GoDmr.Serving` — the registry of a master: consistent, and every registered peer incoming;
* `GoDmr.Op.Serves` — the operations of a host that only serves.

Main results:

* `GoDmr.Homebrew.keeps_handle` — a datagram keeps the registry of a master;
* `GoDmr.served_peers_stay` — **a master never drops a peer**: on every run of a host that only
  serves, a registered peer stays registered, and an authenticated one authenticated, for the rest
  of the run.
-/

import GoDmr.Timers
import GoDmr.Registry

set_option relaxedAutoImplicit false
set_option autoImplicit false

namespace GoDmr

open Homebrew

/-! ### Keeping registered peers -/

/-- `h'` keeps every peer registered in `h` at its address, and every authenticated one
authenticated. -/
structure Keeps (h h' : Homebrew) : Prop where
  peer : ∀ a p, h.getPeerByAddr a = some p → h'.getPeerByAddr a = some p
  done : ∀ a p, h.getPeerByAddr a = some p → (h.heap p).status = .authDone →
    (h'.heap p).status = .authDone

namespace Keeps

variable {h h' h'' : Homebrew}

theorem refl (h : Homebrew) : Keeps h h := ⟨fun _ _ hp => hp, fun _ _ _ hd => hd⟩

theorem trans (h₁ : Keeps h h') (h₂ : Keeps h' h'') : Keeps h h'' :=
  ⟨fun a p hp => h₂.peer a p (h₁.peer a p hp),
    fun a p hp hd => h₂.done a p (h₁.peer a p hp) (h₁.done a p hp hd)⟩

/-- A call that keeps the `Peer` map and the status of every registered peer keeps them. -/
theorem of_peer (hp : h'.peer = h.peer)
    (hs : ∀ a p, h.getPeerByAddr a = some p → (h'.heap p).status = (h.heap p).status) :
    Keeps h h' :=
  ⟨fun a p ha => by rwa [getPeerByAddr, hp], fun a p ha hd => (hs a p ha).trans hd⟩

theorem of_onlyStamps (hs : OnlyStamps h h') : Keeps h h' := of_peer hs.1 fun _ p _ => hs.status_eq p

end Keeps

/-- The registry of a master: consistent, and every registered peer incoming. -/
structure Serving (h : Homebrew) : Prop where
  addr : AddrConsistent h
  incoming : ∀ a p, h.getPeerByAddr a = some p → (h.heap p).incoming = true

/-! ### A datagram to an incoming peer -/

namespace Homebrew

variable (X : Ext) (env : Env)

theorem peer_handlePacket (g : Homebrew) (pk : Packet) (p : Ptr) :
    (handlePacket X env g pk p).h.peer = g.peer := by
  unfold handlePacket
  rcases hq : (g.heap p).packetReceived with _ | f
  · rcases hf : g.pf with _ | f
    · simp only [hq, hf]
      split_ifs
      exacts [(onlyStamps_writeEach env _ _ _ _).1, rfl]
    · simp only [hq, hf]
  · simp only [hq]

section Branches

variable (g : Homebrew) (p : Ptr) (d : Datagram)

theorem peer_handleIncomingAuth : (handleIncomingAuth X env g p d).h.peer = g.peer := by
  unfold handleIncomingAuth
  split <;> (try split_ifs) <;> (try split) <;> rfl

theorem peer_handleIncomingDone : (handleIncomingDone X env g p d).h.peer = g.peer := by
  unfold handleIncomingDone dispatch pong
  split_ifs <;> (try split) <;> first | rfl | exact peer_handlePacket X env _ _ _

/-- The branch of an authenticated incoming peer changes no peer's status. -/
theorem status_handleIncomingDone (q : Ptr) :
    ((handleIncomingDone X env g p d).h.heap q).status = (g.heap q).status := by
  unfold handleIncomingDone pong
  split_ifs <;> (try split) <;> by_cases hq : q = p <;> simp [hq, heap_modify_of_ne]

end Branches

/-- A datagram to a registered incoming peer keeps the `Peer` map and the status of every other
peer, and leaves the peer authenticated if it was. -/
theorem keeps_handlePeer (h : Homebrew) (p : Ptr) (d : Datagram)
    (hi : (h.heap p).incoming = true) :
    (handlePeer X env h (some p) d).h.peer = h.peer ∧ Keeps h (handlePeer X env h (some p) d).h := by
  have hmap : (handlePeer X env h (some p) d).h.peer = h.peer := by
    by_cases hn : d.n < 8
    · rw [handlePeer_of_short X env h _ d hn]
    by_cases hs : (h.heap p).status = .authDone
    · rw [handlePeer_of_done X env h p d (by omega) hs, if_pos hi]
      exact peer_handleIncomingDone X env _ p d
    by_cases hd : d.head 4 = DMRData
    · simp [handlePeer, hn, hs, hd]
    · rw [handlePeer_of_unauth X env h p d (by omega) hs hd, if_pos hi]
      exact peer_handleIncomingAuth X env _ p d
  have ht := touches_handlePeer X env h p d
  refine ⟨hmap, ⟨fun a q hq => by rwa [getPeerByAddr, hmap], fun a q _ hd => ?_⟩⟩
  by_cases hqp : q = p
  · subst hqp
    by_cases hn : d.n < 8
    · rwa [handlePeer_of_short X env h _ d hn]
    rw [handlePeer_of_done X env h q d (by omega) hd, if_pos hi, status_handleIncomingDone]
    simpa using hd
  · exact (congrArg Prod.fst (ht.login q hqp)).trans hd

/-- Registering an unknown address keeps every peer registered before, and its status. -/
theorem keeps_register (h : Homebrew) (hc : AddrConsistent h) (remote : Addr)
    (hp : h.getPeerByAddr remote = none) (i : UInt32) :
    Keeps h (link env (h.alloc (loginPeer remote i)).1 h.next).h := by
  obtain ⟨hpeer, -, -⟩ := link_maps env (h.alloc (loginPeer remote i)).1 h.next
    (by simp [alloc, loginPeer]) (by simp [alloc, loginPeer, ascii])
  refine ⟨fun a q hq => ?_, fun a q hq hd => ?_⟩
  · have ha : a ≠ ((h.alloc (loginPeer remote i)).1.heap h.next).addrString := by
      rintro rfl
      simp [alloc, loginPeer, Peer.addrString, hp] at hq
    rw [getPeerByAddr, hpeer, AList.lookup_insert_ne ha]
    exact hq
  · have hlt := (hc a q hq).2
    rw [heap_link_of_ne env _ hlt.ne, heap_alloc, if_neg hlt.ne]
    exact hd

/-- **A datagram keeps the registry of a master**: every peer registered afterwards is incoming,
and every peer registered before stays at its address, authenticated if it was. -/
theorem keeps_handle (h : Homebrew) (hs : Serving h) (remote : Addr) (d : Datagram) :
    (∀ a p, (handle X env h remote d).h.getPeerByAddr a = some p →
      ((handle X env h remote d).h.heap p).incoming = true) ∧
      Keeps h (handle X env h remote d).h := by
  unfold handle
  rcases hp : h.getPeerByAddr remote with _ | p
  · simp only
    split_ifs
    · split
      · exact ⟨hs.incoming, .refl h⟩
      · rename_i i _
        obtain ⟨-, -, hl, -, hi⟩ := link_loginPeer env h remote i
        have hr := registers_link env (h.alloc (loginPeer remote i)).1 h.next
        simp only [show (h.alloc (loginPeer remote i)).2 = h.next from rfl, Out.seq_h, hl]
        obtain ⟨hmap, hk⟩ := keeps_handlePeer X env _ h.next d hi
        have ht := touches_handlePeer X env (link env (h.alloc (loginPeer remote i)).1 h.next).h
          h.next d
        refine ⟨fun a q hq => ?_, (keeps_register env h hs.addr remote hp i).trans hk⟩
        rw [getPeerByAddr, hmap] at hq
        rw [Peer.incoming_eq_of_ident (ht.ident q)]
        rcases hr.registry a q hq with hq | ⟨rfl, -⟩
        · have hlt := (hs.addr a q hq).2
          rw [Peer.incoming_eq_of_ident (hr.heap q).1, heap_alloc, if_neg hlt.ne]
          exact hs.incoming a q hq
        · exact hi
    · exact ⟨hs.incoming, .refl h⟩
  · have ht := touches_handlePeer X env h p d
    obtain ⟨hmap, hk⟩ := keeps_handlePeer X env h p d (hs.incoming _ _ hp)
    refine ⟨fun a q hq => ?_, hk⟩
    rw [getPeerByAddr, hmap] at hq
    exact (Peer.incoming_eq_of_ident (ht.ident q)).trans (hs.incoming a q hq)

/-- The keepalive tick of an endpoint whose peers are all incoming does nothing. -/
theorem keepaliveLoop_of_incoming : ∀ (ps : List Ptr) (h : Homebrew),
    (∀ p ∈ ps, (h.heap p).incoming = true) → keepaliveLoop env ps h = ⟨h, [], .ok⟩
  | [], _, _ => rfl
  | p :: ps, h, hps => by
    rw [keepaliveLoop, keepalivePeer_of_incoming env h p (hps p (List.mem_cons_self _ _)),
      Out.seq, keepaliveLoop_of_incoming ps h fun q hq => hps q (List.mem_cons_of_mem _ hq)]
    rfl

end Homebrew

/-! ### Runs of a master -/

/-- The operations of a host that only serves: it receives, ticks and sends, and links or unlinks
no peer itself. -/
def Op.Serves : Op → Prop
  | .recv _ _ _ => True
  | .tick _ => True
  | .send _ _ => True
  | .link _ _ => False
  | .unlink _ => False

theorem serving_new (c : RepeaterConfiguration) : Serving (Homebrew.new c) :=
  ⟨addrConsistent_new c, fun a p hp => by simp [Homebrew.new, getPeerByAddr] at hp⟩

/-- Every operation of a host that only serves keeps the registry of a master. -/
theorem serving_step (X : Ext) (s : State) (op : Op) (hop : op.Serves) (hs : Serving s.h) :
    Serving (step X s op).1.h ∧ Keeps s.h (step X s op).1.h := by
  have ha := addrConsistent_step X s op hs.addr
  cases op with
  | recv env remote msg =>
    obtain ⟨hi, hk⟩ := keeps_handle X env s.h hs remote (s.buf.read msg)
    exact ⟨⟨ha, hi⟩, hk⟩
  | tick env =>
    have hk : keepalive env s.h = ⟨s.h, [], .ok⟩ :=
      keepaliveLoop_of_incoming env _ s.h fun p hp => by
        obtain ⟨a, hpa⟩ := mem_getPeers.1 hp
        exact hs.incoming a p hpa
    simp only [GoDmr.step, hk]
    exact ⟨hs, .refl _⟩
  | send env pk =>
    have ho := onlyStamps_writeEach env (fun _ _ => true) (buildData X.dmr pk s.h.config.id)
      s.h.getPeers s.h
    refine ⟨⟨ha, fun a q hq => (ho.incoming_eq q).trans (hs.incoming a q ?_)⟩, .of_onlyStamps ho⟩
    rwa [getPeerByAddr, ← ho.1]
  | link env peer => exact hop.elim
  | unlink i => exact hop.elim

theorem serving_run (X : Ext) (ops : List Op) (hops : ∀ op ∈ ops, op.Serves) :
    ∀ s, Serving s.h → Serving (run X s ops).h ∧ Keeps s.h (run X s ops).h := by
  induction ops with
  | nil => exact fun s hs => ⟨hs, .refl _⟩
  | cons op ops ih =>
    intro s hs
    obtain ⟨hs₁, hk₁⟩ := serving_step X s op (hops op (List.mem_cons_self _ _)) hs
    obtain ⟨hs₂, hk₂⟩ := ih (fun o ho => hops o (List.mem_cons_of_mem _ ho)) _ hs₁
    exact ⟨hs₂, hk₁.trans hk₂⟩

/-- **A master never drops a peer.**  On every run from `New` of a host that only serves —
receives, ticks and sends, and links or unlinks nothing itself — a peer registered at an address
stays registered there, incoming, for the rest of the run, and stays authenticated once it is:
whatever the datagrams, the times of the ticks, and the peers that log in after it. -/
theorem served_peers_stay (X : Ext) (c : RepeaterConfiguration) (ops ops' : List Op)
    (hops : ∀ op ∈ ops ++ ops', op.Serves) (a : Addr) (p : Ptr)
    (hp : (run X (State.init c) ops).h.getPeerByAddr a = some p) :
    (run X (State.init c) (ops ++ ops')).h.getPeerByAddr a = some p ∧
      ((run X (State.init c) (ops ++ ops')).h.heap p).incoming = true ∧
      (((run X (State.init c) ops).h.heap p).status = .authDone →
        ((run X (State.init c) (ops ++ ops')).h.heap p).status = .authDone) := by
  obtain ⟨hs, -⟩ := serving_run X ops (fun op ho => hops op (List.mem_append_left _ ho))
    (State.init c) (serving_new c)
  obtain ⟨hs', hk⟩ := serving_run X ops' (fun op ho => hops op (List.mem_append_right _ ho)) _ hs
  rw [run_append]
  exact ⟨hk.peer a p hp, hs'.incoming a p (hk.peer a p hp), hk.done a p hp⟩

/-- Repeater `2` logs in from `A` and is authenticated; a minute later, after a tick and a second
login with the same id from `B`, `A` is still registered and authenticated. -/
theorem served_peers_stay_after_login :
    let ops : List Op := [.recv sampleEnv "A" (RepeaterLogin ++ packRepeaterID 2),
      .recv sampleEnv "A" (RepeaterKey ++ packRepeaterID 2 ++ List.replicate 28 0 ++ [1, 2, 3, 4])]
    let ops' : List Op := [.tick ⟨60 * second, none, fun _ => none⟩,
      .recv sampleEnv "B" (RepeaterLogin ++ packRepeaterID 2)]
    ((∀ op ∈ ops ++ ops', op.Serves) ∧
      (run sampleExt (State.init sampleConfig) ops).h.getPeerByAddr "A" = some 0) ∧
    (run sampleExt (State.init sampleConfig) (ops ++ ops')).h.getPeerByAddr "A" = some 0 ∧
      ((run sampleExt (State.init sampleConfig) (ops ++ ops')).h.heap 0).incoming = true ∧
      (((run sampleExt (State.init sampleConfig) ops).h.heap 0).status = .authDone →
        ((run sampleExt (State.init sampleConfig) (ops ++ ops')).h.heap 0).status = .authDone) :=
  ⟨⟨by simp [Op.Serves], by decide⟩,
    served_peers_stay _ _ _ _ (by simp [Op.Serves]) _ _ (by decide)⟩

example : ((run sampleExt (State.init sampleConfig)
    [.recv sampleEnv "A" (RepeaterLogin ++ packRepeaterID 2),
      .recv sampleEnv "A" (RepeaterKey ++ packRepeaterID 2 ++ List.replicate 28 0 ++ [1, 2, 3, 4])]).h.heap 0).status = .authDone := by
  decide

end GoDmr
