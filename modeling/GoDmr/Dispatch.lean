/-
**Where data frames go.**

The endpoint writes two kinds of datagrams: protocol messages, each starting with its verb
(`MSTNAK`, `RPTACK`, `RPTL`, `RPTK`, `RPTC`, `MSTPING`, `RPTPONG`, ...), and `DMRD` data frames,
which only `Send` and the group relay write, through the loop over the peer snapshot.  Neither
consults a peer's status: a data frame goes to whichever registered peer the loop selects.

Main definitions:

* `GoDmr.Control` — a list of writes holds no data frame;
* `GoDmr.DataTo` — every data frame of a list of writes goes to a peer registered in an endpoint.

Main results:

* `GoDmr.Homebrew.control_handlePeer_of_ne_done` — a peer that is not authenticated is only
  answered with protocol messages;
* `GoDmr.Homebrew.writeEach_sent_eq` — what the loop of `Send` and `SendTG` writes when its writes
  succeed;
* `GoDmr.dataFrames_go_to_registered_peers` — every data frame any operation writes goes to a
  peer registered when the operation starts, and `Send` and `SendTG` write to every peer they
  pick, whatever that peer's status.
-/

import GoDmr.Run

set_option relaxedAutoImplicit false
set_option autoImplicit false

namespace GoDmr

open Homebrew

/-- No write of `sent` is a data frame. -/
def Control (sent : List (Addr × List UInt8)) : Prop := ∀ x ∈ sent, x.2.take 4 ≠ DMRData

/-- Every data frame of `sent` goes to the address of a peer of `h`'s snapshot. -/
def DataTo (h : Homebrew) (sent : List (Addr × List UInt8)) : Prop :=
  ∀ x ∈ sent, x.2.take 4 = DMRData → ∃ q ∈ h.getPeers, (h.heap q).addrString = x.1

theorem Control.nil : Control [] := fun _ hx => absurd hx (List.not_mem_nil _)

theorem Control.append {s t : List (Addr × List UInt8)} (hs : Control s) (ht : Control t) :
    Control (s ++ t) := by
  intro x hx
  rcases List.mem_append.1 hx with hx | hx
  exacts [hs x hx, ht x hx]

/-- A message that starts with a verb other than `DMRD` is a protocol message. -/
theorem Control.verb (a : Addr) {v : List UInt8} (hv : 4 ≤ v.length ∧ v.take 4 ≠ DMRData)
    (l : List UInt8) : Control [(a, v ++ l)] := by
  simpa [Control, List.take_append_of_le_length hv.1] using hv.2

theorem Control.dataTo {sent : List (Addr × List UInt8)} (hc : Control sent) (h : Homebrew) :
    DataTo h sent :=
  fun x hx hd => absurd hd (hc x hx)

theorem DataTo.append {h : Homebrew} {s t : List (Addr × List UInt8)} (hs : DataTo h s)
    (ht : DataTo h t) : DataTo h (s ++ t) := by
  intro x hx
  rcases List.mem_append.1 hx with hx | hx
  exacts [hs x hx, ht x hx]

theorem DataTo.of_stamp {h : Homebrew} {p : Ptr} {f : Last → Last} {s : List (Addr × List UInt8)}
    (hd : DataTo (h.stamp p f) s) : DataTo h s := by
  intro x hx hdx
  obtain ⟨q, hq, he⟩ := hd x hx hdx
  exact ⟨q, by simpa [getPeers] using hq, by simpa [Peer.addrString] using he⟩

theorem take_four_buildConfigData (D : Dmr) (c : RepeaterConfiguration) :
    (buildConfigData D c).2.take 4 = RepeaterConfig := by
  simp [buildConfigData, List.append_assoc, RepeaterConfig, ascii]

namespace Homebrew

variable (X : Ext) (env : Env)

theorem control_writeToPeer_verb (h : Homebrew) (p : Ptr) {v : List UInt8}
    (hv : 4 ≤ v.length ∧ v.take 4 ≠ DMRData) (l : List UInt8) :
    Control (writeToPeer env h p (v ++ l)).sent :=
  Control.verb _ hv l

theorem control_handleAuth (h : Homebrew) (p : Ptr) : Control (handleAuth env h p).sent := by
  unfold handleAuth
  split_ifs
  · exact .nil
  · dsimp only
    split
    · exact control_writeToPeer_verb env _ _ (by decide) _
    · rw [List.append_assoc]; exact control_writeToPeer_verb env _ _ (by decide) _
    · exact .nil

section Branches

variable (h : Homebrew) (peer : Ptr) (data : Datagram)

theorem control_handleIncomingAuth : Control (handleIncomingAuth X env h peer data).sent := by
  unfold handleIncomingAuth
  split
  · split_ifs
    · split <;> exact control_writeToPeer_verb env _ _ (by decide) _
    · exact .nil
  · split_ifs
    · exact control_writeToPeer_verb env _ _ (by decide) _
    · exact control_writeToPeer_verb env _ _ (by decide) _
    · exact control_writeToPeer_verb env _ _ (by decide) _
    · exact .nil
  · exact .nil

theorem control_refuseLogin : Control (refuseLogin h peer).sent := by
  simpa using Control.nil

theorem control_acceptLogin : Control (acceptLogin X env h peer).sent := by
  simp only [Control, acceptLogin, writeToPeer_sent, List.mem_singleton, forall_eq,
    take_four_buildConfigData]
  decide

theorem control_handleOutgoingAuth : Control (handleOutgoingAuth X env h peer data).sent := by
  unfold handleOutgoingAuth
  split
  · split_ifs
    · exact control_handleAuth env _ _
    · exact control_refuseLogin _ _
    · exact .nil
  · split_ifs
    · exact control_acceptLogin X env _ _
    · exact control_refuseLogin _ _
    · exact control_acceptLogin X env _ _
    · exact .nil
  · exact .nil

theorem control_pong (verb : List UInt8) (hv : 4 ≤ verb.length ∧ verb.take 4 ≠ DMRData) :
    Control (pong env h peer data verb).sent :=
  control_writeToPeer_verb env _ _ hv _

theorem control_ackPing : Control (ackPing X env h peer data).sent := by
  unfold ackPing
  split_ifs
  · exact .nil
  · exact control_writeToPeer_verb env _ _ (by decide) _

theorem control_pongReceived : Control (pongReceived X env h peer data).sent := by
  unfold pongReceived; split_ifs <;> exact .nil

end Branches

/-- The loop of `Send` and `SendTG` writes only to peers of the list it walks, at their
addresses. -/
theorem writeEach_sent (pick : Homebrew → Ptr → Bool) (data : List UInt8) :
    ∀ qs h, ∀ x ∈ (writeEach env pick data qs h).sent, ∃ q ∈ qs, (h.heap q).addrString = x.1
  | [], h => by simp [writeEach]
  | q :: qs, h => by
    unfold writeEach
    split_ifs
    · unfold Out.bind
      split_ifs
      · simp only [List.mem_append, writeToPeer_sent, List.mem_singleton]
        rintro x (rfl | hx)
        · exact ⟨q, List.mem_cons_self _ _, rfl⟩
        · obtain ⟨q', hq', he⟩ := writeEach_sent pick data qs _ x hx
          exact ⟨q', List.mem_cons_of_mem _ hq', by simpa [Peer.addrString] using he⟩
      · simp
    · intro x hx
      obtain ⟨q', hq', he⟩ := writeEach_sent pick data qs h x hx
      exact ⟨q', List.mem_cons_of_mem _ hq', he⟩

/-- When every write succeeds, the loop of `Send` and `SendTG` writes `data` once to each peer it
picks, in the order of the list, provided what it picks by is kept by the writes. -/
theorem writeEach_sent_eq (hs : ∀ a, env.sock a = none) (pick : Homebrew → Ptr → Bool)
    (hpick : ∀ h h', OnlyStamps h h' → pick h' = pick h) (data : List UInt8) :
    ∀ qs h, (writeEach env pick data qs h).sent =
      (qs.filter (pick h)).map fun q => ((h.heap q).addrString, data)
  | [], h => rfl
  | q :: qs, h => by
    unfold writeEach
    split_ifs with hq
    · have hw := onlyStamps_writeToPeer env h q data
      rw [Out.bind_of_ok _ (by simp [hs]), Out.seq_sent, writeEach_sent_eq hs pick hpick data qs,
        hpick _ _ hw, List.filter_cons_of_pos hq, writeToPeer_sent, List.map_cons]
      simp only [List.singleton_append, hw.addrString_eq]
    · rw [writeEach_sent_eq hs pick hpick data qs, List.filter_cons_of_neg hq]

theorem dataTo_writeEach_getPeers (h : Homebrew) (pick : Homebrew → Ptr → Bool)
    (data : List UInt8) : DataTo h (writeEach env pick data h.getPeers h).sent :=
  fun x hx _ => writeEach_sent env pick data _ h x hx

theorem dataTo_handlePacket (h : Homebrew) (p : Packet) (peer : Ptr) :
    DataTo h (handlePacket X env h p peer).sent := by
  unfold handlePacket
  rcases hq : (h.heap peer).packetReceived with _ | f
  · rcases hf : h.pf with _ | f
    · simp only [hq, hf]
      split_ifs
      · intro x hx _
        obtain ⟨q, hq, he⟩ := writeEach_sent env _ _ _ _ x hx
        refine ⟨q, by simpa [getPeers, modify] using hq, ?_⟩
        by_cases hqp : q = peer
        · subst hqp; simpa [modify, Peer.addrString] using he
        · simpa [modify, hqp] using he
      · exact Control.nil.dataTo h
    · simp only [hq, hf]; exact Control.nil.dataTo h
  · simp only [hq]; exact Control.nil.dataTo h

theorem dataTo_dispatch (h : Homebrew) (peer : Ptr) (data : Datagram) :
    DataTo h (dispatch X env h peer data).sent := by
  unfold dispatch
  split
  · exact Control.nil.dataTo h
  · exact dataTo_handlePacket X env h _ peer

theorem dataTo_handleIncomingDone (h : Homebrew) (peer : Ptr) (data : Datagram) :
    DataTo h (handleIncomingDone X env h peer data).sent := by
  unfold handleIncomingDone
  split_ifs
  · exact dataTo_dispatch X env h peer data
  · exact Control.nil.dataTo h
  · exact (control_pong env h peer data _ (by decide)).dataTo h
  · exact (control_pong env h peer data _ (by decide)).dataTo h
  · split
    · exact Control.nil.dataTo h
    · exact (control_writeToPeer_verb env _ _ (by decide) _).dataTo h
  · exact Control.nil.dataTo h

theorem dataTo_handleOutgoingDone (h : Homebrew) (peer : Ptr) (data : Datagram) :
    DataTo h (handleOutgoingDone X env h peer data).sent := by
  unfold handleOutgoingDone
  split_ifs
  · exact dataTo_dispatch X env h peer data
  · exact (control_ackPing X env h peer data).dataTo h
  · exact Control.nil.dataTo h
  · exact (control_handleAuth env _ peer).dataTo h
  · exact (control_ackPing X env h peer data).dataTo h
  · exact (control_pongReceived X env h peer data).dataTo h
  · exact (control_pongReceived X env h peer data).dataTo h
  · exact Control.nil.dataTo h

/-- A peer that is not authenticated is answered with protocol messages only. -/
theorem control_handlePeer_of_ne_done (h : Homebrew) (p : Ptr) (data : Datagram)
    (hs : (h.heap p).status ≠ .authDone) : Control (handlePeer X env h (some p) data).sent := by
  unfold handlePeer
  by_cases hn : data.n < 8
  · simp only [hn, if_true]; exact .nil
  simp only [hn, if_false, heap_stamp, if_true, hs, ne_eq, not_false_eq_true]
  split_ifs
  · exact .nil
  · exact control_handleIncomingAuth X env _ p data
  · exact control_handleOutgoingAuth X env _ p data

theorem dataTo_handlePeer (h : Homebrew) (peer : Option Ptr) (data : Datagram) :
    DataTo h (handlePeer X env h peer data).sent := by
  rcases peer with _ | p
  · unfold handlePeer; split_ifs <;> exact Control.nil.dataTo h
  by_cases hs : (h.heap p).status = .authDone
  · unfold handlePeer
    by_cases hn : data.n < 8
    · simp only [hn, if_true]; exact Control.nil.dataTo h
    simp only [hn, if_false, heap_stamp, if_true, hs, ne_eq, not_true_eq_false]
    split_ifs
    · exact (dataTo_handleIncomingDone X env _ p data).of_stamp
    · exact (dataTo_handleOutgoingDone X env _ p data).of_stamp
  · exact (control_handlePeer_of_ne_done X env h p data hs).dataTo h

theorem dataTo_handle (h : Homebrew) (remote : Addr) (data : Datagram) :
    DataTo h (handle X env h remote data).sent := by
  unfold handle
  rcases hp : h.getPeerByAddr remote with _ | p
  · simp only
    split_ifs
    · split
      · exact Control.nil.dataTo h
      · rename_i id _
        obtain ⟨hsent, -, hl', hs', -⟩ := link_loginPeer env h remote id
        simp only [alloc] at hsent hl' hs' ⊢
        rw [Out.seq_sent, hsent, List.nil_append, hl']
        exact (control_handlePeer_of_ne_done X env _ _ data (by rw [hs']; decide)).dataTo h
    · exact Control.nil.dataTo h
  · exact dataTo_handlePeer X env h (some p) data

theorem control_keepalivePeer (h : Homebrew) (p : Ptr) : Control (keepalivePeer env h p).sent := by
  unfold keepalivePeer
  dsimp only
  split
  · exact .nil
  split
  · split_ifs
    · exact control_handleAuth env _ p
    · exact .nil
  · split_ifs <;> exact .nil
  · split_ifs <;> exact .nil
  · split_ifs
    · exact (control_writeToPeer_verb env _ _ (by decide) _).append (control_handleAuth env _ p)
    · exact control_writeToPeer_verb env _ _ (by decide) _
    · exact .nil

theorem control_keepaliveLoop : ∀ (ps : List Ptr) (h : Homebrew), Control (keepaliveLoop env ps h).sent
  | [], _ => .nil
  | p :: ps, h => (control_keepalivePeer env h p).append (control_keepaliveLoop ps _)

theorem control_link (h : Homebrew) (p : Ptr) : Control (link env h p).sent := by
  unfold link
  dsimp only
  split_ifs
  · exact .nil
  · exact .nil
  · exact .nil
  · exact control_handleAuth env _ p

theorem control_unlink (h : Homebrew) (i : UInt32) : Control (unlink h i).sent := by
  simpa using Control.nil

end Homebrew

/-- **Data frames go to registered peers, whatever their status.**  Every `DMRD` frame an
operation writes — a relayed group call or a `Send` — goes to the address of a peer of the
registry as the operation found it.  And when its writes succeed, `Send` writes the frame once to
every peer of the snapshot, and `SendTG` to every peer of the packet's talk group whose id is not
the origin's: neither loop looks at a peer's status. -/
theorem dataFrames_go_to_registered_peers (X : Ext) (s : State) (op : Op) :
    DataTo s.h (step X s op).2.sent ∧
      ∀ env : Env, (∀ a, env.sock a = none) → ∀ p : Packet,
        (step X s (.send env p)).2.sent =
            s.h.getPeers.map (fun q => ((s.h.heap q).addrString, buildData X.dmr p s.h.config.id)) ∧
          ∀ o : Ptr, (sendTG X env s.h p o).sent =
            (s.h.getPeers.filter fun q =>
                (s.h.heap q).id != (s.h.heap o).id && (s.h.heap q).tgid == p.dstID).map
              fun q => ((s.h.heap q).addrString, buildData X.dmr p s.h.config.id) := by
  refine ⟨?_, fun env hs p => ⟨?_, fun o => ?_⟩⟩
  · cases op with
    | recv env remote msg => exact dataTo_handle X env s.h remote _
    | tick env => exact (control_keepaliveLoop env _ s.h).dataTo s.h
    | link env peer => exact (control_link env _ _).dataTo s.h
    | unlink i => exact (control_unlink s.h i).dataTo s.h
    | send env p => exact dataTo_writeEach_getPeers env s.h _ _
  · simpa using writeEach_sent_eq env hs (fun _ _ => true) (fun _ _ _ => rfl) _ s.h.getPeers s.h
  · exact writeEach_sent_eq env hs _ (fun _ _ hh => by funext q; simp only [hh.id_eq, hh.tgid_eq])
      _ _ _

/-- A group call to talk group 446 from repeater 7. -/
def groupCall : Packet := ⟨0, 7, 446, 1, 0, 1, 0, 0, 0, 0, List.replicate 33 0⟩

/-- From the empty registry, an `RPTL` from a new address leaves its peer in `AuthBegin`, and the
host's `Send` then writes the data frame to it. -/
theorem send_reaches_unauthenticated_peer :
    let s := run sampleExt (State.init sampleConfig)
      [.recv sampleEnv "B" (RepeaterLogin ++ packRepeaterID 2)]
    s.h.getPeerByAddr "B" = some 0 ∧ (s.h.heap 0).status = .authBegin ∧
      (step sampleExt s (.send sampleEnv groupCall)).2.sent =
        [("B", buildData sampleExt.dmr groupCall 1)] := by
  decide

end GoDmr
