/-
**The registry: the `Peer` and `PeerID` maps.**

`Link` writes a peer into both maps, `Unlink(id)` deletes the entry of `id` and the entry of that
peer's address, and `handle` links a new incoming peer for every unknown address that sends
`RPTL`.  None of them looks at what the maps already hold under the other key, so a second peer
with a registered id, or at a registered address, leaves the first one in one map only.

Main definitions:

* `GoDmr.Homebrew.IdConsistent` — the two maps agree: every peer of the `Peer` map is the one
  `PeerID` holds under its id.

Main results:

* `GoDmr.Homebrew.link_maps`, `GoDmr.Homebrew.unlink_maps` — what `Link` and `Unlink` do to the
  two maps;
* `GoDmr.Homebrew.IdConsistent.link` — a `Link` keeps the maps in agreement when no peer at
  another address holds the new peer's id;
* `GoDmr.Homebrew.link_takes_id` — when one does, `Link` gives the id to the new peer and leaves
  the other one in the `Peer` map, where `Unlink` of its id no longer reaches it
  (`GoDmr.Homebrew.getPeerByAddr_unlink_of_ne`);
* `GoDmr.registry_splits_on_shared_id` — two remotes that log in with one id, from the empty
  registry, leave the first peer in the `Peer` map but not under its id in `PeerID`, and in every
  registry a `Link` of a peer whose id is taken splits the maps so;
* `GoDmr.Homebrew.sendTG_sent_filters_by_id` — what `SendTG` writes when every write succeeds:
  the frame once to each registered peer of the talk group whose *id* differs from the origin's,
  so a second peer with the origin's id gets nothing.
-/

import GoDmr.Dispatch

set_option relaxedAutoImplicit false
set_option autoImplicit false

namespace GoDmr

open Homebrew

namespace Homebrew

variable (env : Env)

/-! ### `Link` and `Unlink` on the maps -/

/-- A `Link` that passes its checks registers the peer under its address and its id, and changes
no peer's id. -/
theorem link_maps (h : Homebrew) (p : Ptr) (ha : (h.heap p).addr ≠ none)
    (hk : (h.heap p).authKey ≠ []) :
    (link env h p).h.peer = h.peer.insert (h.heap p).addrString p ∧
      (link env h p).h.peerID = h.peerID.insert (h.heap p).id p ∧
      ∀ q, ((link env h p).h.heap q).id = (h.heap q).id := by
  unfold link
  rw [if_neg ha, if_neg hk]
  have hs := onlyStamps_stamp h p fun l =>
    { l with packetSent := 0, packetReceived := 0, pingSent := 0, pongReceived := 0 }
  split_ifs
  · exact ⟨rfl, rfl, hs.id_eq⟩
  · have hs' := onlyStamps_handleAuth env { h.stamp p fun l =>
      { l with packetSent := 0, packetReceived := 0, pingSent := 0, pongReceived := 0 } with
        peer := h.peer.insert (h.heap p).addrString p, peerID := h.peerID.insert (h.heap p).id p } p
    exact ⟨hs'.1, hs'.2.1, fun q => (hs'.id_eq q).trans (hs.id_eq q)⟩

/-- `Link` moves no peer to another address. -/
theorem addrString_link (h : Homebrew) (p q : Ptr) :
    ((link env h p).h.heap q).addrString = (h.heap q).addrString := by
  have hs := onlyStamps_stamp h p fun l =>
    { l with packetSent := 0, packetReceived := 0, pingSent := 0, pongReceived := 0 }
  unfold link
  dsimp only
  split_ifs
  · rfl
  · rfl
  · exact hs.addrString_eq q
  · exact ((onlyStamps_handleAuth env _ p).addrString_eq q).trans (hs.addrString_eq q)

/-- `Unlink(id)` of a registered id removes the address of the peer registered under it, and the
id. -/
theorem unlink_maps (h : Homebrew) (i : UInt32) (p : Ptr) (hp : h.getPeer i = some p) :
    (unlink h i).h.peer = h.peer.erase (h.heap p).addrString ∧
      (unlink h i).h.peerID = h.peerID.erase i := by
  unfold unlink
  rw [show h.peerID.lookup i = some p from hp]
  exact ⟨rfl, rfl⟩

/-- **`Unlink` reaches one address only**: the address of the peer `PeerID` holds under the id.
A peer at another address stays where it was. -/
theorem getPeerByAddr_unlink_of_ne (h : Homebrew) (i : UInt32) (p : Ptr) (hp : h.getPeer i = some p)
    (a : Addr) (ha : a ≠ (h.heap p).addrString) :
    (unlink h i).h.getPeerByAddr a = h.getPeerByAddr a := by
  rw [getPeerByAddr, (unlink_maps h i p hp).1, AList.lookup_erase_ne ha, getPeerByAddr]

/-! ### Agreement of the two maps -/

/-- The two maps agree: every peer of the `Peer` map is the peer `PeerID` holds under its id. -/
def IdConsistent (h : Homebrew) : Prop :=
  ∀ a r, h.getPeerByAddr a = some r → h.getPeer (h.heap r).id = some r

/-- A `Link` keeps the maps in agreement when no peer at another address holds the new peer's
id. -/
theorem IdConsistent.link {h : Homebrew} (hc : h.IdConsistent) (p : Ptr)
    (ha : (h.heap p).addr ≠ none) (hk : (h.heap p).authKey ≠ [])
    (hfree : ∀ a r, h.getPeerByAddr a = some r → a ≠ (h.heap p).addrString →
      (h.heap r).id ≠ (h.heap p).id) :
    (Homebrew.link env h p).h.IdConsistent := by
  obtain ⟨hpeer, hid, hheap⟩ := link_maps env h p ha hk
  intro a r hr
  rw [getPeer, hid, hheap]
  rw [getPeerByAddr, hpeer] at hr
  by_cases hap : a = (h.heap p).addrString
  · rw [hap, AList.lookup_insert, Option.some.injEq] at hr
    subst hr
    exact AList.lookup_insert _
  · rw [AList.lookup_insert_ne hap] at hr
    rw [AList.lookup_insert_ne (hfree a r hr hap)]
    exact hc a r hr

/-- **`Link` takes the id from the peer that held it.**  When a peer `r` at another address holds
the new peer's id, `Link` leaves `r` in the `Peer` map and registers the new peer under the id:
the maps no longer agree. -/
theorem link_takes_id (h : Homebrew) (p r : Ptr) (a : Addr) (ha : (h.heap p).addr ≠ none)
    (hk : (h.heap p).authKey ≠ []) (hr : h.getPeerByAddr a = some r)
    (hap : a ≠ (h.heap p).addrString) (hrp : r ≠ p) (hid : (h.heap r).id = (h.heap p).id) :
    (Homebrew.link env h p).h.getPeerByAddr a = some r ∧
      (Homebrew.link env h p).h.getPeer (h.heap p).id = some p ∧
      ¬ (Homebrew.link env h p).h.IdConsistent := by
  obtain ⟨hpeer, hidm, hheap⟩ := link_maps env h p ha hk
  have hr' : (Homebrew.link env h p).h.getPeerByAddr a = some r := by
    rw [getPeerByAddr, hpeer, AList.lookup_insert_ne hap]
    exact hr
  have hp' : (Homebrew.link env h p).h.getPeer (h.heap p).id = some p := by
    rw [getPeer, hidm]
    exact AList.lookup_insert _
  refine ⟨hr', hp', fun hc => hrp ?_⟩
  have := hc a r hr'
  rw [hheap, hid, hp', Option.some.injEq] at this
  exact this.symm

end Homebrew

/-! ### Two logins with one id -/

/-- Two `RPTL`s with the repeater id `1`, from the addresses `A` and `B`: the peer registered at
`A` has id `1`, but `PeerID[1]` is the peer of `B`; `Unlink(1)` then removes the peer of `B` only,
and the peer of `A` stays in the `Peer` map with no entry in `PeerID`.  In every registry, a `Link`
of a peer whose id a peer at another address holds splits the maps the same way. -/
theorem registry_splits_on_shared_id :
    (let s := run sampleExt (State.init sampleConfig)
      [.recv sampleEnv "A" (RepeaterLogin ++ packRepeaterID 1),
        .recv sampleEnv "B" (RepeaterLogin ++ packRepeaterID 1)]
    s.h.getPeerByAddr "A" = some 0 ∧ (s.h.heap 0).id = 1 ∧ s.h.getPeer 1 = some 1 ∧
      (unlink s.h 1).h.getPeerByAddr "A" = some 0 ∧ (unlink s.h 1).h.getPeerByAddr "B" = none ∧
      (unlink s.h 1).h.getPeer 1 = none) ∧
    ∀ (env : Env) (h : Homebrew) (p r : Ptr) (a : Addr), (h.heap p).addr ≠ none →
      (h.heap p).authKey ≠ [] → h.getPeerByAddr a = some r → a ≠ (h.heap p).addrString → r ≠ p →
      (h.heap r).id = (h.heap p).id →
      (link env h p).h.getPeerByAddr a = some r ∧ (link env h p).h.getPeer (h.heap p).id = some p ∧
        ¬ (link env h p).h.IdConsistent ∧
        (unlink (link env h p).h (h.heap p).id).h.getPeerByAddr a = some r := by
  refine ⟨by decide, fun env h p r a ha hk hr hap hrp hid => ?_⟩
  obtain ⟨hr', hp', hc⟩ := link_takes_id env h p r a ha hk hr hap hrp hid
  refine ⟨hr', hp', hc, (getPeerByAddr_unlink_of_ne _ _ p hp' a ?_).trans hr'⟩
  rwa [addrString_link]

/-! ### `SendTG` and a shared id -/

namespace Homebrew

variable (X : Ext) (env : Env)

/-- **`SendTG` skips by id, not by peer.**  When every write succeeds, `SendTG(p, o)` writes the
frame of `p` once to each registered peer of the talk group `p.DstID` whose id differs from the
id of `o`, in the order of `getPeers`, and to nobody else. -/
theorem sendTG_sent_filters_by_id (hs : ∀ a, env.sock a = none) (h : Homebrew) (p : Packet)
    (o : Ptr) :
    (sendTG X env h p o).sent =
      (h.getPeers.filter fun q => (h.heap q).id != (h.heap o).id && (h.heap q).tgid == p.dstID).map
        fun q => ((h.heap q).addrString, buildData X.dmr p h.config.id) :=
  writeEach_sent_eq env hs _ (fun _ _ hh => by funext q; simp only [hh.id_eq, hh.tgid_eq]) _ _ _

end Homebrew

/-- After two logins with the id `1`, from `A` and then `B`, the peer of `B` is registered and
joined to talk group `446`, but a group call from the peer of `A` to `446` is written to nobody. -/
theorem sendTG_skips_second_login_of_id :
    let s := run sampleExt (State.init sampleConfig)
      [.recv sampleEnv "A" (RepeaterLogin ++ packRepeaterID 1),
        .recv sampleEnv "B" (RepeaterLogin ++ packRepeaterID 1)]
    let p : Packet := ⟨0, 7, 446, 0, 0, 1, 9, 11, 0, 0, List.replicate 33 0⟩
    (∀ a, sampleEnv.sock a = none) ∧ s.h.getPeerByAddr "B" = some 1 ∧ (s.h.heap 1).tgid = 446 ∧
      (sendTG sampleExt sampleEnv s.h p 0).sent = [] :=
  ⟨fun _ => rfl, by decide, by decide,
    (Homebrew.sendTG_sent_filters_by_id _ _ (fun _ => rfl) _ _ _).trans (by decide)⟩

end GoDmr
