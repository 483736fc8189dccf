/-
**A repeater with a key the master does not hold can end up authenticated alone.**

`GoDmr.Joint.repeater_done_only_if_master_done` rests on the key.  There the repeater links its
master with `passw0rd`, the key the master gives every repeater it registers, so the master's
challenge always succeeds and the master draws one nonce.  With another key, the master refuses the
repeater's `RPTK`, falls back to `AuthNone`, and answers the next `RPTL` with a new nonce.  The
repeater waits in `AuthBegin` for the master's verdict and takes any `RPTACK` for an acceptance,
without reading what follows the verb.  So if a login the repeater retried reaches the master after
the refused key, and the nonce answer to it reaches the repeater before the refusal, the
repeater's link ends in `AuthDone` while the master still waits for a key.  The network need lose
nothing, only reorder.

Main definitions:

* `GoDmr.Joint.initWithKey` — the repeater links its master with a key of its own.

Main results:

* `GoDmr.Homebrew.handle_key_of_authBegin_ne` — the master refuses a key with another token;
* `GoDmr.Joint.retry_run` — the repeater's login goes unanswered, and it logs in again;
* `GoDmr.Joint.lone_login` — the deliveries that take the repeater alone to `AuthDone`;
* `GoDmr.Joint.repeater_done_alone_with_other_key` — **with another key, the repeater can end
  authenticated alone**.
-/

import GoDmr.Closing

set_option relaxedAutoImplicit false
set_option autoImplicit false

namespace GoDmr

open Homebrew

namespace Homebrew

variable (X : Ext) (env : Env)

/-- The peer the login of an unknown address registers holds the master's default key. -/
theorem authKey_handle_login_of_unknown (h : Homebrew) (a : Addr) (hp : h.getPeerByAddr a = none)
    (buf : Datagram) (i : UInt32) :
    ((handle X env h a (buf.read (RepeaterLogin ++ packRepeaterID i))).h.heap h.next).authKey =
      ascii "passw0rd" := by
  have hm : (RepeaterLogin ++ packRepeaterID i).length ≤ 302 := by simp [verb_bytes]
  have h4 : (buf.read (RepeaterLogin ++ packRepeaterID i)).head 4 = RepeaterLogin :=
    (Datagram.head_read_of_le buf hm (by simp [verb_bytes])).trans (List.take_left' rfl)
  have hu : (buf.read (RepeaterLogin ++ packRepeaterID i)).sliceFrom 4 >>= unpackRepeaterID =
      some i := by
    simpa [Datagram.sliceFrom, verb_bytes] using unpackRepeaterID_packRepeaterID i []
  obtain ⟨-, -, hp₁, -, -⟩ := link_loginPeer env h a i
  simp only [handle, hp, h4, if_true, hu, show (h.alloc (loginPeer a i)).2 = h.next from rfl,
    Out.seq_h, hp₁]
  have hi := congrArg (fun x => x.2.2) ((touches_handlePeer X env
    (link env (h.alloc (loginPeer a i)).1 h.next).h h.next
    (buf.read (RepeaterLogin ++ packRepeaterID i))).ident h.next)
  simp only [Peer.ident] at hi
  rw [hi]
  simp [link, alloc, loginPeer, ascii]

/-- A 40-byte `RPTK` whose token is not the one an incoming peer waiting for the key holds: the
peer falls back to `AuthNone`, keeping its key, and the master answers `MSTNAK` with its id. -/
theorem handle_key_of_authBegin_ne (h : Homebrew) (a : Addr) (p : Ptr)
    (hh : PeerAt h a p true .authBegin) (buf : Datagram) (rid tok : List UInt8)
    (hr : rid.length = 4) (ht : tok.length = 32) (hne : tok ≠ (h.heap p).token) :
    let o := handle X env h a (buf.read (RepeaterKey ++ rid ++ tok))
    o.sent = [(a, MasterNAK ++ h.id)] ∧ PeerAt o.h a p true .authNone ∧
      (o.h.heap p).authKey = (h.heap p).authKey ∧ o.h.id = h.id := by
  have hm : (RepeaterKey ++ rid ++ tok).length ≤ 302 := by simp [verb_bytes, hr, ht]
  have h4 : (buf.read (RepeaterKey ++ rid ++ tok)).head 4 = RepeaterKey :=
    (Datagram.head_read_of_le buf hm (by simp [verb_bytes])).trans
      (by rw [List.append_assoc]; exact List.take_left' rfl)
  have hd : (RepeaterKey ++ rid ++ tok).drop 8 = tok := List.drop_left' (by simp [verb_bytes, hr])
  simp only [handle, hh.peer]
  rw [handlePeer_of_unauth X env h p _ (by simp [hm, hr, ht, verb_bytes]) (by simp [hh.status])
    (by rw [h4]; decide)]
  simp only [hh.incoming, handleIncomingAuth, heap_stamp, hh.status, h4, if_true,
    Datagram.read_n_of_le buf hm, Datagram.read_bytes_of_le buf hm, hd]
  refine ⟨?_, hh.of_ident ?_ ?_ _ ?_, ?_, ?_⟩ <;>
    simp [verb_bytes, hr, ht, hne, Peer.ident, Peer.addrString, ← hh.addr]

end Homebrew

namespace Joint

variable (X : Ext) (rAddr mAddr : Addr)

/-- The repeater, at `rAddr`, links its peer for the master with the key `k`; the master, which
registers an unknown repeater with its default key `passw0rd`, has no peer yet.  With `k` that
key, this is `GoDmr.Joint.init`. -/
def initWithKey (cR cM : RepeaterConfiguration) (env : Env) (k : List UInt8) : Joint :=
  let s := step X (State.init cR) (.link env { masterPeer mAddr cM.id with authKey := k })
  ⟨s.1, State.init cM, wire rAddr s.2, env.now⟩

/-- The repeater's login goes unanswered: its tick `AuthTimeout` after the login fails the link, and
a tick `AuthTimeout` after that logs in again.  Two logins are then in flight, the repeater waits
in `AuthNone`, and the master has not moved. -/
theorem retry_run (cR cM : RepeaterConfiguration) (env : Env) (k : List UInt8) (hk : k ≠ [])
    (env' : Env) (ht : env.now + 2 * (AuthTimeout + 1) ≤ env'.now) :
    ∃ J, Reach X rAddr mAddr false (initWithKey X rAddr mAddr cR cM env k) J ∧
      PeerAt J.r.h mAddr (Homebrew.new cR).next false .authNone ∧
      (J.r.h.heap (Homebrew.new cR).next).authKey = k ∧ J.r.h.id = packRepeaterID cR.id ∧
      J.m = State.init cM ∧
      J.net = [⟨rAddr, mAddr, RepeaterLogin ++ packRepeaterID cR.id⟩,
        ⟨rAddr, mAddr, RepeaterLogin ++ packRepeaterID cR.id⟩] ∧ J.clock = env'.now := by
  obtain ⟨hs₀, hr₀, hp₀, hk₀, hid₀, -⟩ := link_outgoing env (Homebrew.new cR)
    { masterPeer mAddr cM.id with authKey := k } mAddr rfl hk rfl rfl
  set p := (Homebrew.new cR).next
  set o₀ := link env ((Homebrew.new cR).alloc { masterPeer mAddr cM.id with authKey := k }).1 p
  have hl₀ : (o₀.h.heap p).last.packetReceived = env.now ∧ (o₀.h.heap p).last.authSent = env.now := by
    simp [o₀, link, alloc, handleAuth, masterPeer, loginPeer, hk]
  have hps₀ : o₀.h.getPeers = [p] := by rw [getPeers, hp₀]; rfl
  have e₀ : initWithKey X rAddr mAddr cR cM env k = ⟨⟨o₀.h, .fresh⟩, State.init cM,
      [⟨rAddr, mAddr, RepeaterLogin ++ packRepeaterID cR.id⟩], env.now⟩ := by
    show (⟨⟨o₀.h, .fresh⟩, State.init cM, wire rAddr o₀, env.now⟩ : Joint) = _
    simp only [wire, hs₀, List.map_cons, List.map_nil]; rfl
  -- the first tick fails the link
  set e₁ : Env := ⟨env.now + AuthTimeout + 1, none, fun _ => none⟩
  have k₁ : keepalive e₁ o₀.h = ⟨o₀.h.setStatus p .authFailed, [], .ok⟩ := by
    have hlate : AuthTimeout < e₁.now - env.now := by simp only [e₁]; omega
    simp [keepalive, hps₀, keepaliveLoop, keepalivePeer, hr₀.incoming, hr₀.status, hl₀, hlate, Out.seq]
  -- the second tick logs in again
  set r₁ := o₀.h.setStatus p .authFailed
  have hlate : AuthTimeout < env'.now - env.now := by omega
  have k₂ : (keepalive env' r₁).sent = [(mAddr, RepeaterLogin ++ packRepeaterID cR.id)] ∧
      PeerAt (keepalive env' r₁).h mAddr p false .authNone ∧
      ((keepalive env' r₁).h.heap p).authKey = k ∧ (keepalive env' r₁).h.id = packRepeaterID cR.id := by
    have hps₁ : r₁.getPeers = [p] := by rw [getPeers, peer_setStatus]; exact hps₀
    refine ⟨?_, hr₀.of_ident ?_ ?_ _ ?_, ?_, ?_⟩ <;>
      simp [r₁, keepalive, hps₁, keepaliveLoop, keepalivePeer, hr₀.incoming, hl₀, hlate, Out.seq,
        handleAuth, Peer.ident, Peer.addrString, ← hr₀.addr, hk₀, hid₀, Homebrew.new]
  obtain ⟨hs₂, hr₂, hk₂, hid₂⟩ := k₂
  set L : Msg := ⟨rAddr, mAddr, RepeaterLogin ++ packRepeaterID cR.id⟩
  have h₁ : (⟨⟨o₀.h, .fresh⟩, State.init cM, [L], env.now⟩ : Joint).tickR X rAddr e₁ =
      ⟨⟨r₁, .fresh⟩, State.init cM, [L], e₁.now⟩ := by
    rw [tickR_eq, k₁]; rfl
  have h₂ : (⟨⟨r₁, .fresh⟩, State.init cM, [L], e₁.now⟩ : Joint).tickR X rAddr env' =
      ⟨⟨(keepalive env' r₁).h, .fresh⟩, State.init cM, [L, L], env'.now⟩ := by
    rw [tickR_eq]; simp [wire, hs₂, L]
  refine ⟨⟨⟨(keepalive env' r₁).h, .fresh⟩, State.init cM, [L, L], env'.now⟩, ?_, hr₂, hk₂, hid₂,
    rfl, rfl, rfl⟩
  have s₁ : Step X rAddr mAddr false ⟨⟨o₀.h, .fresh⟩, State.init cM, [L], env.now⟩
      ⟨⟨r₁, .fresh⟩, State.init cM, [L], e₁.now⟩ := by
    rw [← h₁]; exact .tickR e₁ (by simp only [e₁]; omega)
  have s₂ : Step X rAddr mAddr false ⟨⟨r₁, .fresh⟩, State.init cM, [L], e₁.now⟩
      ⟨⟨(keepalive env' r₁).h, .fresh⟩, State.init cM, [L, L], env'.now⟩ := by
    rw [← h₂]; exact .tickR env' (by simp only [e₁]; omega)
  rw [e₀]
  exact .tail (.single s₁) s₂

/-- A delivery from anywhere in the network, at the time of the last event or later. -/
theorem Step.deliver_at {lossy : Bool} {J J' : Joint} {pre post : List Msg} {msg : Msg} {env : Env}
    (h : J.recv X rAddr mAddr msg env (pre ++ post) = J') (hnet : J.net = pre ++ msg :: post)
    (ht : J.clock ≤ env.now) : Step X rAddr mAddr lossy J J' :=
  h ▸ .deliver pre post msg env hnet ht

/-- The repeater waits in `AuthNone` with a key `k`, two of its logins in flight, and the master
has no peer for it.  If the token `k` hashes the nonce into differs from the token of the master's
default key, five deliveries at a time with a nonce end with the repeater authenticated and the
master waiting for a key: the master answers the first login, the repeater sends its key, the
master refuses it and answers the second login with the same nonce, and that answer reaches the
repeater before the refusal. -/
theorem lone_login (cR : RepeaterConfiguration) (env : Env) (n : { n : List UInt8 // n.length = 4 })
    (hne : rAddr ≠ mAddr) (htok : ∀ k m, (X.updateToken k m).length = 32) (hn : env.nonce = some n)
    (k : List UInt8) (hkey : X.updateToken k n.1 ≠ X.updateToken (ascii "passw0rd") n.1) (J : Joint)
    (pR : Ptr) (hr : PeerAt J.r.h mAddr pR false .authNone) (hk : (J.r.h.heap pR).authKey = k)
    (hid : J.r.h.id = packRepeaterID cR.id) (hm : J.m.h.getPeerByAddr rAddr = none)
    (hnet : J.net = [⟨rAddr, mAddr, RepeaterLogin ++ packRepeaterID cR.id⟩,
      ⟨rAddr, mAddr, RepeaterLogin ++ packRepeaterID cR.id⟩]) (hclock : J.clock ≤ env.now) :
    ∃ J', Reach X rAddr mAddr false J J' ∧ PeerAt J'.r.h mAddr pR false .authDone ∧
      PeerAt J'.m.h rAddr J.m.h.next true .authBegin := by
  -- 1. the master answers the first login with a nonce
  obtain ⟨hs₁, hm₁, ht₁, hid₁⟩ := handle_login_of_unknown X env J.m.h rAddr hm cR.id J.m.buf n hn
  have hk₁ := authKey_handle_login_of_unknown X env J.m.h rAddr hm J.m.buf cR.id
  set b₁ := J.m.buf.read (RepeaterLogin ++ packRepeaterID cR.id)
  set m₁ := handle X env J.m.h rAddr b₁
  set J₁ : Joint := ⟨J.r, ⟨m₁.h, b₁⟩, [⟨rAddr, mAddr, RepeaterLogin ++ packRepeaterID cR.id⟩,
    ⟨mAddr, rAddr, RepeaterACK ++ n.1⟩], env.now⟩
  have e₁ : J.recv X rAddr mAddr ⟨rAddr, mAddr, RepeaterLogin ++ packRepeaterID cR.id⟩ env
      ([] ++ [⟨rAddr, mAddr, RepeaterLogin ++ packRepeaterID cR.id⟩]) = J₁ := by
    rw [recv_to_master]
    show (⟨J.r, ⟨m₁.h, b₁⟩, _ ++ wire mAddr m₁, env.now⟩ : Joint) = _
    simp [wire, hs₁, J₁]
  clear_value m₁ b₁
  -- 2. the repeater sends the token of its own key
  set tok := X.updateToken k n.1
  obtain ⟨hs₂, hr₂, -, -, -⟩ := handle_ack_of_authNone X env J.r.h mAddr pR hr J.r.buf n.1 n.2
  set b₂ := J.r.buf.read (RepeaterACK ++ n.1)
  set r₂ := handle X env J.r.h mAddr b₂
  set J₂ : Joint := ⟨⟨r₂.h, b₂⟩, J₁.m, [⟨rAddr, mAddr, RepeaterLogin ++ packRepeaterID cR.id⟩,
    ⟨rAddr, mAddr, RepeaterKey ++ packRepeaterID cR.id ++ tok⟩], env.now⟩
  have e₂ : J₁.recv X rAddr mAddr ⟨mAddr, rAddr, RepeaterACK ++ n.1⟩ env
      ([⟨rAddr, mAddr, RepeaterLogin ++ packRepeaterID cR.id⟩] ++ []) = J₂ := by
    rw [recv_to_repeater hne]
    show (⟨⟨r₂.h, b₂⟩, J₁.m, _ ++ wire rAddr r₂, env.now⟩ : Joint) = _
    simp only [wire, hs₂, hk, hid, List.map_cons, List.map_nil, List.append_nil, List.singleton_append]
  clear_value r₂ b₂
  -- 3. the master refuses the token and waits for a login again
  obtain ⟨hs₃, hm₃, hk₃, hid₃⟩ := handle_key_of_authBegin_ne X env m₁.h rAddr J.m.h.next hm₁ b₁
    (packRepeaterID cR.id) tok rfl (htok _ _) (by rw [ht₁]; exact hkey)
  set b₃ := b₁.read (RepeaterKey ++ packRepeaterID cR.id ++ tok)
  set m₃ := handle X env m₁.h rAddr b₃
  set J₃ : Joint := ⟨J₂.r, ⟨m₃.h, b₃⟩, [⟨rAddr, mAddr, RepeaterLogin ++ packRepeaterID cR.id⟩,
    ⟨mAddr, rAddr, MasterNAK ++ m₁.h.id⟩], env.now⟩
  have e₃ : J₂.recv X rAddr mAddr ⟨rAddr, mAddr, RepeaterKey ++ packRepeaterID cR.id ++ tok⟩ env
      ([⟨rAddr, mAddr, RepeaterLogin ++ packRepeaterID cR.id⟩] ++ []) = J₃ := by
    rw [recv_to_master]
    show (⟨J₂.r, ⟨m₃.h, b₃⟩, _ ++ wire mAddr m₃, env.now⟩ : Joint) = _
    simp [wire, hs₃, J₃]
  clear_value m₃ b₃
  -- 4. the second login reaches the master, which answers it with the same nonce
  have hA := handle_login_of_authNone X env m₃.h rAddr J.m.h.next hm₃ (hk₃.trans hk₁) b₃ cR.id
  rw [LoginAnswer, hn] at hA
  obtain ⟨-, hs₄, hm₄, -⟩ := hA
  set b₄ := b₃.read (RepeaterLogin ++ packRepeaterID cR.id)
  set m₄ := handle X env m₃.h rAddr b₄
  set J₄ : Joint := ⟨J₃.r, ⟨m₄.h, b₄⟩, [⟨mAddr, rAddr, MasterNAK ++ m₁.h.id⟩,
    ⟨mAddr, rAddr, RepeaterACK ++ n.1⟩], env.now⟩
  have e₄ : J₃.recv X rAddr mAddr ⟨rAddr, mAddr, RepeaterLogin ++ packRepeaterID cR.id⟩ env
      ([] ++ [⟨mAddr, rAddr, MasterNAK ++ m₁.h.id⟩]) = J₄ := by
    rw [recv_to_master]
    show (⟨J₃.r, ⟨m₄.h, b₄⟩, _ ++ wire mAddr m₄, env.now⟩ : Joint) = _
    simp [wire, hs₄, J₄]
  clear_value m₄ b₄
  -- 5. that answer overtakes the refusal, and the repeater takes it for acceptance
  obtain ⟨-, hr₅, -⟩ := handle_ack_of_authBegin X env r₂.h mAddr pR hr₂ b₂ n.1 n.2
  set b₅ := b₂.read (RepeaterACK ++ n.1)
  set r₅ := handle X env r₂.h mAddr b₅
  have e₅ : J₄.recv X rAddr mAddr ⟨mAddr, rAddr, RepeaterACK ++ n.1⟩ env
      ([⟨mAddr, rAddr, MasterNAK ++ m₁.h.id⟩] ++ []) =
        ⟨⟨r₅.h, b₅⟩, J₄.m, [⟨mAddr, rAddr, MasterNAK ++ m₁.h.id⟩] ++ wire rAddr r₅, env.now⟩ := by
    rw [recv_to_repeater hne]; rfl
  exact ⟨_, .tail (.tail (.tail (.tail (.single (Step.deliver_at X rAddr mAddr e₁ hnet hclock))
    (Step.deliver_at X rAddr mAddr e₂ rfl le_rfl)) (Step.deliver_at X rAddr mAddr e₃ rfl le_rfl))
    (Step.deliver_at X rAddr mAddr e₄ rfl le_rfl)) (Step.deliver_at X rAddr mAddr e₅ rfl le_rfl),
    hr₅, hm₄⟩

/-- **With another key, the repeater can end authenticated alone.**  The repeater links its master
with a key `k` whose token differs from that of the master's default key.  Its first login goes
unanswered long enough for it to fail the link and log in again; then, with no datagram lost and
at a time the master draws a nonce, the run reaches a state where the repeater holds the master in
`AuthDone` and the master holds the repeater in `AuthBegin`, waiting for a key. -/
theorem repeater_done_alone_with_other_key (cR cM : RepeaterConfiguration) (env : Env)
    (k : List UInt8) (hk : k ≠ []) (env' : Env) (ht : env.now + 2 * (AuthTimeout + 1) ≤ env'.now)
    (n : { n : List UInt8 // n.length = 4 }) (hn : env'.nonce = some n) (hne : rAddr ≠ mAddr)
    (htok : ∀ k m, (X.updateToken k m).length = 32)
    (hkey : X.updateToken k n.1 ≠ X.updateToken (ascii "passw0rd") n.1) :
    ∃ J, Reach X rAddr mAddr false (initWithKey X rAddr mAddr cR cM env k) J ∧
      (∃ p, J.r.h.getPeerByAddr mAddr = some p ∧ (J.r.h.heap p).status = .authDone) ∧
      ∃ q, J.m.h.getPeerByAddr rAddr = some q ∧ (J.m.h.heap q).status = .authBegin := by
  obtain ⟨J, hJ, hr, hk', hid, hm, hnet, hclock⟩ := retry_run X rAddr mAddr cR cM env k hk env' ht
  obtain ⟨J', hJ', hr', hm'⟩ := lone_login X rAddr mAddr cR env' n hne htok hn k hkey J _ hr hk' hid
    (by rw [hm]; exact AList.lookup_empty rAddr) hnet hclock.le
  exact ⟨J', Relation.ReflTransGen.trans hJ hJ', ⟨_, hr'.peer, hr'.status⟩, ⟨_, hm'.peer, hm'.status⟩⟩

/-- A hash that keeps the key: the first 32 bytes of the key, the nonce and zeros. -/
def keyExt : Ext :=
  ⟨⟨10, 1, [], []⟩, fun key nonce => (key ++ nonce ++ List.replicate 32 0).take 32, fun _ _ => false⟩

theorem length_keyExt_updateToken (k m : List UInt8) : (keyExt.updateToken k m).length = 32 := by
  simp [keyExt]; omega

/-- The repeater of the examples links its master with the one-byte key `[1]`, and the master draws
the nonce of the examples after the repeater's second login. -/
theorem repeater_done_alone_on_sample :
    let late : Env := { sampleEnv with now := sampleEnv.now + 2 * (AuthTimeout + 1) }
    (([1] : List UInt8) ≠ [] ∧ sampleEnv.now + 2 * (AuthTimeout + 1) ≤ late.now ∧
      late.nonce = some ⟨[1, 2, 3, 4], rfl⟩ ∧ ("R" : Addr) ≠ "M" ∧
      (∀ k m, (keyExt.updateToken k m).length = 32) ∧
      keyExt.updateToken [1] [1, 2, 3, 4] ≠ keyExt.updateToken (ascii "passw0rd") [1, 2, 3, 4]) ∧
    ∃ J, Reach keyExt "R" "M" false (initWithKey keyExt "R" "M" sampleConfig masterConfig sampleEnv [1])
        J ∧
      (∃ p, J.r.h.getPeerByAddr "M" = some p ∧ (J.r.h.heap p).status = .authDone) ∧
      ∃ q, J.m.h.getPeerByAddr "R" = some q ∧ (J.m.h.heap q).status = .authBegin := by
  intro late
  have hkey : keyExt.updateToken [1] [1, 2, 3, 4] ≠ keyExt.updateToken (ascii "passw0rd") [1, 2, 3, 4] := by
    decide
  exact ⟨⟨by decide, le_rfl, rfl, by decide, length_keyExt_updateToken, hkey⟩,
    repeater_done_alone_with_other_key keyExt "R" "M" sampleConfig masterConfig sampleEnv [1]
      (by decide) late le_rfl ⟨[1, 2, 3, 4], rfl⟩ rfl (by decide) length_keyExt_updateToken hkey⟩

end Joint

end GoDmr
