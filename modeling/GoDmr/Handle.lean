/-
**`handle`: the endpoint's reaction to one datagram.**

`ListenAndServe` hands every datagram to `handle` as `data[:n]` of its one 302-byte receive buffer
(`GoDmr.Datagram`).  `handle` looks the sender up by address; an unknown address is registered
on the spot when the datagram starts with `RPTL`, as an incoming peer with the key `passw0rd` and
talk group `446`.  Datagrams shorter than 8 bytes are then dropped, and the rest go to the
authentication state machine of the peer, by its role (`Incoming`) and status.  An authenticated
peer's `DMRD` frames are decoded and handed to `handlePacket`, which relays group calls to the
peers of the talk group through `SendTG`.

The branches of `handle` are written as separate definitions, in the order of the Go `switch`es,
so that each can be checked against its lines; `handle` and `handlePeer` only select one.

Main definitions:

* `GoDmr.Homebrew.writeEach` — the loop `Send` and `SendTG` share; `GoDmr.Homebrew.send`,
  `GoDmr.Homebrew.sendTG`;
* `GoDmr.Homebrew.handlePacket` — the callbacks, or the group relay;
* `GoDmr.Homebrew.handle` — the reaction to one datagram.

Main results:

* `GoDmr.Homebrew.handle_ret_panic_iff` — **where `handle` panics**: an unknown sender whose
  datagram starts with `RPTL` but is shorter than 8 bytes, and an authenticated incoming peer
  whose datagram starts with `RPTC` but is not a 302-byte configuration;
* `GoDmr.Homebrew.handle_ret_error` — **where `handle` returns an error** when no write, nonce
  draw or callback fails: a `DMRD` frame of an authenticated peer that `parseData` rejects.
-/

import GoDmr.Endpoint

set_option relaxedAutoImplicit false
set_option autoImplicit false

namespace GoDmr

namespace Homebrew

variable (X : Ext) (env : Env)

/-! ### Sending to the registered peers -/

/-- The loop `Send` and `SendTG` share: over the peer snapshot, write `data` to each peer `pick`
selects, and return at the first write that fails. -/
def writeEach (pick : Homebrew → Ptr → Bool) (data : List UInt8) : List Ptr → Homebrew → Out
  | [], h => ⟨h, [], .ok⟩
  | q :: qs, h =>
    if pick h q then (writeToPeer env h q data).bind (writeEach pick data qs)
    else writeEach pick data qs h

/-- `Send(p)`: broadcast the frame of `p` to every registered peer. -/
def send (h : Homebrew) (p : Packet) : Out :=
  writeEach env (fun _ _ => true) (buildData X.dmr p h.config.id) h.getPeers h

/-- `SendTG(p, peer)`: the frame of `p` to every registered peer of the talk group `p.DstID`,
skipping the peers with the id of `peer`. -/
def sendTG (h : Homebrew) (p : Packet) (peer : Ptr) : Out :=
  writeEach env (fun h q => (h.heap q).id != (h.heap peer).id && (h.heap q).tgid == p.dstID)
    (buildData X.dmr p h.config.id) h.getPeers h

/-- `Close()` of an active endpoint: tell each authenticated peer that we are closing, with
`RepeaterClosing` and our id, until a write fails (`break closing`), then stop the keepalive and
close the socket, whose error `closeErr` is what `Close` returns; the error of a failed write is
dropped.  The model has no `closed` flag: the endpoint is active, and a second `Close`, which
returns at once, is not modelled. -/
def close (h : Homebrew) (closeErr : Option String) : Out :=
  let o := writeEach env (fun h q => (h.heap q).status == .authDone) (RepeaterClosing ++ h.id)
    h.getPeers h
  ⟨o.h, o.sent, .ofError closeErr⟩

/-- `handlePacket(p, peer)`: stamp `h.last`, then the peer's callback, or the endpoint's, or —
with neither — relay a group call to the talk group it names, which the origin joins. -/
def handlePacket (h : Homebrew) (p : Packet) (peer : Ptr) : Out :=
  let h := { h with last := env.now }
  match (h.heap peer).packetReceived with
  | some f => ⟨h, [], .ofError (f p)⟩
  | none =>
    match h.pf with
    | some f => ⟨h, [], .ofError (f p)⟩
    | none =>
      if p.callType = X.dmr.callTypeGroup then
        let h := h.modify peer fun q =>
          { q with tgid := p.dstID, last := { q.last with tgSubscribed := env.now } }
        sendTG X env h p peer
      else ⟨h, [], .ok⟩

/-! ### The branches of `handle` -/

section Branches

variable (h : Homebrew) (peer : Ptr) (data : Datagram)

/-- The `DMRData` case of an authenticated peer: `parseData(data)`, then `handlePacket`. -/
def dispatch : Out :=
  match parseData X.dmr data.bytes with
  | .error e => ⟨h, [], .error e⟩
  | .ok p => handlePacket X env h p peer

/-- An incoming peer that is not authenticated: `RPTL` draws a nonce and answers `RPTACK‖nonce`,
and in `AuthBegin` the 40-byte `RPTK` is checked against the token.  The result of
`peer.CheckRepeaterID(data[4:8])` is only logged. -/
def handleIncomingAuth : Out :=
  match (h.heap peer).status with
  | .authNone =>
    if data.head 4 = RepeaterLogin then
      match env.nonce with
      | none => writeToPeer env h peer (MasterNAK ++ h.id)
      | some nonce =>
        let h := h.modify peer fun q =>
          { q with token := X.updateToken q.authKey nonce.1, status := .authBegin }
        writeToPeer env h peer (RepeaterACK ++ nonce.1)
    else ⟨h, [], .ok⟩
  | .authBegin =>
    if data.head 4 = RepeaterKey then
      if data.n ≠ 40 then writeToPeer env (h.setStatus peer .authNone) peer (MasterNAK ++ h.id)
      else if data.bytes.drop 8 ≠ (h.heap peer).token then
        writeToPeer env (h.setStatus peer .authNone) peer (MasterNAK ++ h.id)
      else
        let h := (h.setStatus peer .authDone).stamp peer fun l =>
          { l with pingReceived := env.now, pongReceived := env.now }
        writeToPeer env h peer (RepeaterACK ++ h.id)
    else ⟨h, [], .ok⟩
  | _ => ⟨h, [], .ok⟩

/-- `MasterNAK` to an outgoing peer logging in: `AuthFailed`, and `Unlink(peer.ID)` if the peer
asks for it (its error ignored). -/
def refuseLogin : Out :=
  let h := h.setStatus peer .authFailed
  if (h.heap peer).unlinkOnAuthFailure then ⟨(unlink h (h.heap peer).id).h, [], .ok⟩
  else ⟨h, [], .ok⟩

/-- `MasterACK` or `RepeaterACK` to an outgoing peer in `AuthBegin`: `AuthDone`, the ping timers
stamped, and our configuration sent (`buildConfigData` clamps `h.Config` in place). -/
def acceptLogin : Out :=
  let h := (h.setStatus peer .authDone).stamp peer fun l =>
    { l with pingSent := env.now, pongReceived := env.now }
  let cb := buildConfigData X.dmr h.config
  writeToPeer env { h with config := cb.1 } peer cb.2

/-- An outgoing peer that is not authenticated.  The nonce is `data[6:10]`, which Go slices up to
the buffer's capacity; the result of `checkRepeaterID(data[6:10])` is only logged. -/
def handleOutgoingAuth : Out :=
  match (h.heap peer).status with
  | .authNone =>
    if data.head 6 = RepeaterACK then
      let h := h.modify peer fun q =>
        { q with status := .authBegin, token := X.updateToken q.authKey (data.slice 6 10) }
      handleAuth env h peer
    else if data.head 6 = MasterNAK then refuseLogin h peer
    else ⟨h, [], .ok⟩
  | .authBegin =>
    if data.head 6 = MasterACK then acceptLogin X env h peer
    else if data.head 6 = MasterNAK then refuseLogin h peer
    else if data.head 6 = RepeaterACK then acceptLogin X env h peer
    else ⟨h, [], .ok⟩
  | _ => ⟨h, [], .ok⟩

/-- `MasterPing` or `RepeaterPing` to an authenticated incoming peer: answer `verb` with the
ping's payload `data[7:]`. -/
def pong (verb : List UInt8) : Out :=
  writeToPeer env (h.stamp peer fun l => { l with pingReceived := env.now }) peer
    (verb ++ data.bytes.drop 7)

/-- An authenticated incoming peer.  `RepeaterConfig` is matched on its first 4 bytes only; when
`parseConfigData` rejects the frame, `printConfig` dereferences the nil configuration. -/
def handleIncomingDone : Out :=
  if data.head 4 = DMRData then dispatch X env h peer data
  else if data.n = 10 ∧ data.head 6 = MasterACK then ⟨h, [], .ok⟩
  else if data.n = 11 ∧ data.head 7 = MasterPing then pong env h peer data RepeaterPong
  else if data.n = 11 ∧ data.head 7 = RepeaterPing then pong env h peer data MasterPong
  else if data.head 4 = RepeaterConfig then
    match parseConfigData data.bytes with
    | .error _ => ⟨h.modify peer fun q => { q with config := none }, [], .panic⟩
    | .ok c => writeToPeer env (h.modify peer fun q => { q with config := some c }) peer
        (RepeaterACK ++ h.id)
  else ⟨h, [], .ok⟩

/-- `MasterACK` or `RepeaterACK` with our id to an authenticated outgoing peer: ping the master. -/
def ackPing : Out :=
  if !checkRepeaterID X h (data.slice 6 10) then ⟨h, [], .ok⟩
  else writeToPeer env (h.stamp peer fun l => { l with pingSent := env.now }) peer
    (MasterPing ++ h.id)

/-- `MasterPong` or `RepeaterPong` with our id to an authenticated outgoing peer. -/
def pongReceived : Out :=
  if !checkRepeaterID X h (data.slice 7 11) then ⟨h, [], .ok⟩
  else ⟨h.stamp peer fun l => { l with pongReceived := env.now }, [], .ok⟩

/-- An authenticated outgoing peer. -/
def handleOutgoingDone : Out :=
  if data.head 4 = DMRData then dispatch X env h peer data
  else if data.n = 10 ∧ data.head 6 = MasterACK then ackPing X env h peer data
  else if data.n = 10 ∧ data.head 6 = MasterNAK then
    if !checkRepeaterID X h (data.slice 6 10) then ⟨h, [], .ok⟩
    else handleAuth env (h.setStatus peer .authFailed) peer
  else if data.n = 10 ∧ data.head 6 = RepeaterACK then ackPing X env h peer data
  else if data.n = 11 ∧ data.head 7 = MasterPong then pongReceived X env h peer data
  else if data.n = 11 ∧ data.head 7 = RepeaterPong then pongReceived X env h peer data
  else ⟨h, [], .ok⟩

end Branches

/-- `handle` once the sender's peer is looked up: drop short datagrams, stamp
`Last.PacketReceived`, and run the state machine of the peer's role and status.  A nil peer
past the length check is dereferenced. -/
def handlePeer (h : Homebrew) (peer : Option Ptr) (data : Datagram) : Out :=
  if data.n < 8 then ⟨h, [], .ok⟩ else
  match peer with
  | none => ⟨h, [], .panic⟩
  | some p =>
    let h := h.stamp p fun l => { l with packetReceived := env.now }
    if (h.heap p).status ≠ .authDone then
      if data.head 4 = DMRData then ⟨h, [], .ok⟩
      else if (h.heap p).incoming then handleIncomingAuth X env h p data
      else handleOutgoingAuth X env h p data
    else if (h.heap p).incoming then handleIncomingDone X env h p data
    else handleOutgoingDone X env h p data

/-- The peer object `handle` creates for an unknown address that sends `RepeaterLogin`. -/
def loginPeer (remote : Addr) (repeaterID : UInt32) : Peer where
  id := repeaterID
  addr := some remote
  authKey := ascii "passw0rd"
  incoming := true
  unlinkOnAuthFailure := false
  status := .authNone
  token := []
  tgid := 446
  config := none
  last := Last.zero
  packetReceived := none

/-- `handle(remote, data)`.  For an unknown sender, `data[:4]` may read past the datagram (Go
slices up to the capacity), while `data[4:]` and the indexing in `unpackRepeaterID` panic past
its length.  The error of `Link` is ignored. -/
def handle (h : Homebrew) (remote : Addr) (data : Datagram) : Out :=
  match h.getPeerByAddr remote with
  | some p => handlePeer X env h (some p) data
  | none =>
    if data.head 4 = RepeaterLogin then
      match data.sliceFrom 4 >>= unpackRepeaterID with
      | none => ⟨h, [], .panic⟩
      | some repeaterID =>
        let (h, q) := h.alloc (loginPeer remote repeaterID)
        (link env h q).seq fun h => handlePeer X env h (h.getPeerByAddr remote) data
    else ⟨h, [], .ok⟩

/-! ### The branch `handlePeer` takes -/

/-- `handlePeer` of a datagram of 8 bytes or more, no data frame, to a peer that has not logged in:
the branch of its role. -/
theorem handlePeer_of_unauth (g : Homebrew) (p : Ptr) (d : Datagram) (hn : 8 ≤ d.n)
    (hs : (g.heap p).status ≠ .authDone) (hd : d.head 4 ≠ DMRData) :
    handlePeer X env g (some p) d =
      if (g.heap p).incoming then
        handleIncomingAuth X env (g.stamp p fun l => { l with packetReceived := env.now }) p d
      else handleOutgoingAuth X env (g.stamp p fun l => { l with packetReceived := env.now }) p d := by
  simp [handlePeer, hs, hd, show ¬ d.n < 8 by omega]

/-- `handlePeer` of a datagram of 8 bytes or more to an authenticated peer: the branch of its
role. -/
theorem handlePeer_of_done (g : Homebrew) (p : Ptr) (d : Datagram) (hn : 8 ≤ d.n)
    (hs : (g.heap p).status = .authDone) :
    handlePeer X env g (some p) d =
      if (g.heap p).incoming then
        handleIncomingDone X env (g.stamp p fun l => { l with packetReceived := env.now }) p d
      else handleOutgoingDone X env (g.stamp p fun l => { l with packetReceived := env.now }) p d := by
  simp [handlePeer, hs, show ¬ d.n < 8 by omega]

/-- `handlePeer` drops a datagram shorter than 8 bytes. -/
theorem handlePeer_of_short (g : Homebrew) (p : Option Ptr) (d : Datagram) (hn : d.n < 8) :
    handlePeer X env g p d = ⟨g, [], .ok⟩ := by
  simp [handlePeer, hn]

/-! ### Where `handle` panics -/

theorem handleAuth_ret_ne_panic (h : Homebrew) (p : Ptr) : (handleAuth env h p).ret ≠ .panic := by
  unfold handleAuth
  split_ifs
  · simp
  · dsimp only; split <;> simp

theorem writeEach_ret_ne_panic (pick : Homebrew → Ptr → Bool) (data : List UInt8) :
    ∀ qs h, (writeEach env pick data qs h).ret ≠ .panic
  | [], h => by simp [writeEach]
  | q :: qs, h => by
    unfold writeEach Out.bind
    split_ifs
    · exact writeEach_ret_ne_panic pick data qs _
    · simp
    · exact writeEach_ret_ne_panic pick data qs h

theorem handlePacket_ret_ne_panic (h : Homebrew) (p : Packet) (peer : Ptr) :
    (handlePacket X env h p peer).ret ≠ .panic := by
  unfold handlePacket
  rcases hq : (h.heap peer).packetReceived with _ | f
  · rcases hf : h.pf with _ | f
    · simp only [hq, hf]
      split_ifs
      · exact writeEach_ret_ne_panic _ _ _ _ _
      · simp
    · simp [hq, hf]
  · simp [hq]

theorem dispatch_ret_ne_panic (h : Homebrew) (peer : Ptr) (data : Datagram) :
    (dispatch X env h peer data).ret ≠ .panic := by
  unfold dispatch
  split
  · simp
  · exact handlePacket_ret_ne_panic X env _ _ _


section Branches
variable (h : Homebrew) (peer : Ptr) (data : Datagram)

theorem handleIncomingAuth_ret_ne_panic : (handleIncomingAuth X env h peer data).ret ≠ .panic := by
  unfold handleIncomingAuth
  split
  · split_ifs
    · split <;> simp
    · simp
  · split_ifs <;> simp
  · simp

theorem refuseLogin_ret : (refuseLogin h peer).ret = .ok := by
  unfold refuseLogin; dsimp only; split_ifs <;> rfl

@[simp] theorem refuseLogin_sent : (refuseLogin h peer).sent = [] := by
  unfold refuseLogin; dsimp only; split_ifs <;> rfl

@[simp] theorem heap_refuseLogin :
    (refuseLogin h peer).h.heap = (h.setStatus peer .authFailed).heap := by
  unfold refuseLogin; dsimp only; split_ifs <;> simp

theorem handleOutgoingAuth_ret_ne_panic : (handleOutgoingAuth X env h peer data).ret ≠ .panic := by
  unfold handleOutgoingAuth
  split
  · split_ifs
    · exact handleAuth_ret_ne_panic env _ _
    · simp [refuseLogin_ret]
    · simp
  · split_ifs <;> simp [acceptLogin, refuseLogin_ret]
  · simp

theorem ackPing_ret_ne_panic : (ackPing X env h peer data).ret ≠ .panic := by
  unfold ackPing; split_ifs <;> simp

theorem pongReceived_ret : (pongReceived X env h peer data).ret = .ok := by
  unfold pongReceived; split_ifs <;> rfl

theorem handleOutgoingDone_ret_ne_panic : (handleOutgoingDone X env h peer data).ret ≠ .panic := by
  unfold handleOutgoingDone
  split_ifs <;> simp [dispatch_ret_ne_panic, ackPing_ret_ne_panic, handleAuth_ret_ne_panic,
    pongReceived_ret]

theorem handleIncomingDone_ret_panic_iff :
    (handleIncomingDone X env h peer data).ret = .panic ↔
      data.head 4 = RepeaterConfig ∧ data.n ≠ 302 := by
  unfold handleIncomingDone
  split_ifs with h1 h2 h3 h4 h5
  · simp [h1, dispatch_ret_ne_panic, show DMRData ≠ RepeaterConfig by decide]
  · simp [Datagram.head_of_head 4 (by norm_num) h2.2, show MasterACK.take 4 ≠ RepeaterConfig by decide]
  · simp [pong, Datagram.head_of_head 4 (by norm_num) h3.2,
      show MasterPing.take 4 ≠ RepeaterConfig by decide]
  · simp [pong, Datagram.head_of_head 4 (by norm_num) h4.2,
      show RepeaterPing.take 4 ≠ RepeaterConfig by decide]
  · have := parseConfigData_isOk data.bytes
    split <;> simp_all [Except.isOk, Except.toBool]
  · simp [h5]

end Branches

theorem handlePeer_ret_panic_iff (h : Homebrew) (peer : Option Ptr) (data : Datagram) :
    (handlePeer X env h peer data).ret = .panic ↔ 8 ≤ data.n ∧ (peer = none ∨ ∃ p, peer = some p ∧
      (h.heap p).status = .authDone ∧ (h.heap p).incoming = true ∧
      data.head 4 = RepeaterConfig ∧ data.n ≠ 302) := by
  unfold handlePeer
  by_cases hn : data.n < 8
  · simp [hn]
  rcases peer with _ | p
  · simp [hn]; omega
  simp only [hn, if_false, heap_stamp, if_true, Option.some.injEq, exists_eq_left', reduceCtorEq,
    false_or]
  by_cases hs : (h.heap p).status = .authDone
  · by_cases hi : (h.heap p).incoming = true
    · simp [hs, hi, handleIncomingDone_ret_panic_iff]; omega
    · simp [hs, hi, handleOutgoingDone_ret_ne_panic]
  · simp only [hs, ne_eq, not_false_eq_true, if_true, false_and, and_false]
    split_ifs <;> simp [handleIncomingAuth_ret_ne_panic, handleOutgoingAuth_ret_ne_panic]


/-- Registering an unknown sender: the new peer stands under the sender's address, incoming and in
`AuthNone`, and nothing is written. -/
theorem link_loginPeer (h : Homebrew) (remote : Addr) (id : UInt32) :
    let o := link env (h.alloc (loginPeer remote id)).1 h.next
    o.sent = [] ∧ o.ret = .ok ∧ o.h.getPeerByAddr remote = some h.next ∧
      (o.h.heap h.next).status = .authNone ∧ (o.h.heap h.next).incoming = true := by
  simp [link, alloc, loginPeer, getPeerByAddr, Peer.addrString, ascii]

theorem handle_ret_panic_iff (h : Homebrew) (remote : Addr) (data : Datagram) :
    (handle X env h remote data).ret = .panic ↔
      (h.getPeerByAddr remote = none ∧ data.head 4 = RepeaterLogin ∧ data.n < 8) ∨
      ∃ p, h.getPeerByAddr remote = some p ∧ 8 ≤ data.n ∧ (h.heap p).status = .authDone ∧
        (h.heap p).incoming = true ∧ data.head 4 = RepeaterConfig ∧ data.n ≠ 302 := by
  unfold handle
  rcases hp : h.getPeerByAddr remote with _ | p
  · by_cases hl : data.head 4 = RepeaterLogin
    · rcases hu : data.sliceFrom 4 >>= unpackRepeaterID with _ | id
      · simp [hl, hu, (Datagram.sliceFrom_bind_unpack_eq_none data).1 hu]
      · have h8 : ¬ data.n < 8 := (Datagram.sliceFrom_bind_unpack_eq_none data).not.1 (by simp [hu])
        obtain ⟨-, -, hl', hs, -⟩ := link_loginPeer env h remote id
        simp only [alloc] at hl' hs
        simp [hl, hu, h8, alloc, handlePeer_ret_panic_iff, hl', hs]
    · simp [hl]
  · simp [handlePeer_ret_panic_iff]


/-- Two datagrams a remote can send that crash the endpoint: the 4-byte `RPTL` from an unknown
address, whose `data[4:]` has no id to unpack, and `RPTCL‖id` from an authenticated incoming peer,
which matches `RepeaterConfig` on its first 4 bytes; whatever the buffer held before.  They are
instances of the two ways `handle` panics on any state and datagram. -/
theorem handle_panics_on_remote_datagrams (X : Ext) (env : Env) (c : RepeaterConfiguration)
    (d : Datagram) :
    (handle X env (Homebrew.new c) "A" (d.read RepeaterLogin)).ret = .panic ∧
      (handle X env (link env ((Homebrew.new c).alloc
          { loginPeer "A" 1 with status := .authDone }).1 0).h "A"
        (d.read (RepeaterClosing ++ packRepeaterID 1))).ret = .panic ∧
      ∀ (h : Homebrew) (remote : Addr) (data : Datagram),
        (handle X env h remote data).ret = .panic ↔
          (h.getPeerByAddr remote = none ∧ data.head 4 = RepeaterLogin ∧ data.n < 8) ∨
          ∃ p, h.getPeerByAddr remote = some p ∧ 8 ≤ data.n ∧ (h.heap p).status = .authDone ∧
            (h.heap p).incoming = true ∧ data.head 4 = RepeaterConfig ∧ data.n ≠ 302 :=
  ⟨rfl, rfl, handle_ret_panic_iff X env⟩

/-! ### Errors -/

/-- Every packet callback of the endpoint returns `nil`. -/
def CallbacksSucceed (h : Homebrew) : Prop :=
  (∀ f ∈ h.pf, ∀ p, f p = none) ∧ ∀ q, ∀ f ∈ (h.heap q).packetReceived, ∀ p, f p = none

theorem CallbacksSucceed.stamp {h : Homebrew} (hc : CallbacksSucceed h) (p : Ptr) (f : Last → Last) :
    CallbacksSucceed (h.stamp p f) :=
  ⟨hc.1, fun q => by simpa using hc.2 q⟩

theorem CallbacksSucceed.link_loginPeer {h : Homebrew} (hc : CallbacksSucceed h) (remote : Addr)
    (id : UInt32) : CallbacksSucceed (link env (h.alloc (loginPeer remote id)).1 h.next).h := by
  refine ⟨by simpa [link, alloc, loginPeer, ascii] using hc.1, fun q => ?_⟩
  by_cases hq : q = h.next
  · subst hq; simp [link, alloc, loginPeer, ascii]
  · simpa [link, alloc, loginPeer, ascii, hq] using hc.2 q

section Sock

variable (hs : ∀ a, env.sock a = none)
include hs

theorem writeEach_ret_ok (pick : Homebrew → Ptr → Bool) (data : List UInt8) :
    ∀ qs h, (writeEach env pick data qs h).ret = .ok
  | [], h => rfl
  | q :: qs, h => by
    unfold writeEach
    split_ifs
    · rw [Out.bind_of_ok _ (by simp [hs])]; exact writeEach_ret_ok pick data qs _
    · exact writeEach_ret_ok pick data qs h

theorem handleAuth_ret_ok (h : Homebrew) (p : Ptr) : (handleAuth env h p).ret = .ok := by
  unfold handleAuth
  split_ifs
  · rfl
  · dsimp only; split <;> simp [hs]

theorem handlePacket_ret_ok {h : Homebrew} (hc : CallbacksSucceed h) (p : Packet) (peer : Ptr) :
    (handlePacket X env h p peer).ret = .ok := by
  unfold handlePacket
  rcases hq : (h.heap peer).packetReceived with _ | f
  · rcases hf : h.pf with _ | f
    · simp only [hq, hf]
      split_ifs
      · exact writeEach_ret_ok env hs _ _ _ _
      · rfl
    · simp [hq, hf, hc.1 f hf p]
  · simp [hq, hc.2 peer f hq p]

section Branches
variable {h : Homebrew} (peer : Ptr) (data : Datagram)

theorem dispatch_ret_error (hc : CallbacksSucceed h) (e : String) :
    (dispatch X env h peer data).ret = .error e ↔ parseData X.dmr data.bytes = .error e := by
  unfold dispatch
  split <;> simp_all [handlePacket_ret_ok X env hs hc]

theorem handleIncomingAuth_ret_ok : (handleIncomingAuth X env h peer data).ret = .ok := by
  unfold handleIncomingAuth
  split
  · split_ifs
    · split <;> simp [hs]
    · rfl
  · split_ifs <;> simp [hs]
  · rfl

theorem handleOutgoingAuth_ret_ok : (handleOutgoingAuth X env h peer data).ret = .ok := by
  unfold handleOutgoingAuth
  split
  · split_ifs
    · exact handleAuth_ret_ok env hs _ _
    · exact refuseLogin_ret _ _
    · rfl
  · split_ifs <;> simp [acceptLogin, refuseLogin_ret, hs]
  · rfl

theorem handleIncomingDone_ret_error (hc : CallbacksSucceed h) (e : String) :
    (handleIncomingDone X env h peer data).ret = .error e ↔
      data.head 4 = DMRData ∧ parseData X.dmr data.bytes = .error e := by
  unfold handleIncomingDone
  split_ifs with h1 h2 h3 h4 h5
  · simp [h1, dispatch_ret_error X env hs _ _ hc]
  · simp [h1]
  · simp [h1, pong, hs]
  · simp [h1, pong, hs]
  · split <;> simp [h1, hs]
  · simp [h1]

theorem handleOutgoingDone_ret_error (hc : CallbacksSucceed h) (e : String) :
    (handleOutgoingDone X env h peer data).ret = .error e ↔
      data.head 4 = DMRData ∧ parseData X.dmr data.bytes = .error e := by
  unfold handleOutgoingDone
  split_ifs with h1
  · simp [h1, dispatch_ret_error X env hs _ _ hc]
  all_goals simp [h1, ackPing, pongReceived, hs, handleAuth_ret_ok env hs]
  all_goals split_ifs <;> simp [hs]

end Branches

theorem handlePeer_ret_error {h : Homebrew} (hc : CallbacksSucceed h) (peer : Option Ptr)
    (data : Datagram) (e : String) :
    (handlePeer X env h peer data).ret = .error e ↔ 8 ≤ data.n ∧ ∃ p, peer = some p ∧
      (h.heap p).status = .authDone ∧ data.head 4 = DMRData ∧
      parseData X.dmr data.bytes = .error e := by
  unfold handlePeer
  by_cases hn : data.n < 8
  · simp [hn]
  rcases peer with _ | p
  · simp [hn]
  simp only [hn, if_false, heap_stamp, if_true, Option.some.injEq, exists_eq_left']
  by_cases hst : (h.heap p).status = .authDone
  · by_cases hi : (h.heap p).incoming = true
    · simp [hst, hi, handleIncomingDone_ret_error X env hs _ _ (hc.stamp _ _)]; omega
    · simp [hst, hi, handleOutgoingDone_ret_error X env hs _ _ (hc.stamp _ _)]; omega
  · simp only [hst, ne_eq, not_false_eq_true, if_true, false_and, and_false]
    split_ifs <;> simp [handleIncomingAuth_ret_ok X env hs, handleOutgoingAuth_ret_ok X env hs]

theorem handle_ret_error {h : Homebrew} (hc : CallbacksSucceed h) (remote : Addr)
    (data : Datagram) (e : String) :
    (handle X env h remote data).ret = .error e ↔ ∃ p, h.getPeerByAddr remote = some p ∧
      8 ≤ data.n ∧ (h.heap p).status = .authDone ∧ data.head 4 = DMRData ∧
      parseData X.dmr data.bytes = .error e := by
  unfold handle
  rcases hp : h.getPeerByAddr remote with _ | p
  · by_cases hl : data.head 4 = RepeaterLogin
    · rcases hu : data.sliceFrom 4 >>= unpackRepeaterID with _ | id
      · simp [hl, hu]
      · obtain ⟨-, -, hl', hs', -⟩ := link_loginPeer env h remote id
        have hc' := hc.link_loginPeer env remote id
        simp only [alloc] at hl' hs' hc'
        simp [hl, hu, alloc, handlePeer_ret_error X env hs hc', hl', hs']
    · simp [hl]
  · simp [handlePeer_ret_error X env hs hc]

end Sock

/-- An authenticated incoming peer's 8-byte `DMRD` datagram makes `handle` return the error of
`parseData`, although every write, nonce draw and callback succeeds; and when they all succeed,
such frames are the only datagrams on which `handle` returns an error. -/
theorem handle_errors_on_short_data_frame (X : Ext) (now : ℕ)
    (nonce : Option { n : List UInt8 // n.length = 4 }) (c : RepeaterConfiguration)
    (d : Datagram) :
    (handle X ⟨now, nonce, fun _ => none⟩ (link ⟨now, nonce, fun _ => none⟩
        ((Homebrew.new c).alloc { loginPeer "A" 1 with status := .authDone }).1 0).h "A"
      (d.read (DMRData ++ [0, 0, 0, 0]))).ret = .error "homebrew: expected 55 data bytes, got 8" ∧
    ∀ (env : Env) (h : Homebrew), (∀ a, env.sock a = none) → CallbacksSucceed h →
      ∀ (remote : Addr) (data : Datagram) (e : String),
        (handle X env h remote data).ret = .error e ↔ ∃ p, h.getPeerByAddr remote = some p ∧
          8 ≤ data.n ∧ (h.heap p).status = .authDone ∧ data.head 4 = DMRData ∧
          parseData X.dmr data.bytes = .error e :=
  ⟨(rfl : _ = Ret.error ("homebrew: expected 55 data bytes, got " ++ toString 8)).trans (by decide),
    fun env _ hs hc => handle_ret_error X env hs hc⟩

/-! ### Stale bytes of the receive buffer -/

/-- An 8-byte `RPTACK` to an outgoing peer logging in: the nonce `data[6:10]` takes its last two
bytes from whatever the buffer held, so the same datagram read after different ones is answered
with the tokens of different nonces, and with different replies whenever the token derivation
tells those nonces apart. -/
theorem handle_reads_stale_nonce (X : Ext) (env : Env) (c : RepeaterConfiguration) :
    let h := (link env ((Homebrew.new c).alloc { loginPeer "M" 1 with incoming := false }).1 0).h
    let d₁ := Datagram.fresh.read (RepeaterACK ++ [0, 0])
    let d₂ := (Datagram.fresh.read (RepeaterACK ++ [0, 0, 3, 4])).read (RepeaterACK ++ [0, 0])
    d₁.bytes = d₂.bytes ∧
      (handle X env h "M" d₁).sent =
        [("M", RepeaterKey ++ packRepeaterID c.id ++ X.updateToken (ascii "passw0rd") [0, 0, 0, 0])] ∧
      (handle X env h "M" d₂).sent =
        [("M", RepeaterKey ++ packRepeaterID c.id ++ X.updateToken (ascii "passw0rd") [0, 0, 3, 4])] ∧
      (X.updateToken (ascii "passw0rd") [0, 0, 0, 0] ≠ X.updateToken (ascii "passw0rd") [0, 0, 3, 4] →
        (handle X env h "M" d₁).sent ≠ (handle X env h "M" d₂).sent) := by
  intro h d₁ d₂
  have h₁ : (handle X env h "M" d₁).sent =
      [("M", RepeaterKey ++ packRepeaterID c.id ++ X.updateToken (ascii "passw0rd") [0, 0, 0, 0])] :=
    rfl
  have h₂ : (handle X env h "M" d₂).sent =
      [("M", RepeaterKey ++ packRepeaterID c.id ++ X.updateToken (ascii "passw0rd") [0, 0, 3, 4])] :=
    rfl
  refine ⟨by decide, h₁, h₂, fun hne heq => hne ?_⟩
  rw [h₁, h₂] at heq
  simpa using heq

end Homebrew

end GoDmr
