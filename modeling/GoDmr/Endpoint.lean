/-
**The homebrew endpoint: peers, the registry, and writing to a peer.**

A `Homebrew` endpoint keeps its peers in two Go maps, `Peer` keyed by the string of the peer's UDP
address and `PeerID` keyed by its numeric id.  Both hold *pointers*: a peer object is shared by the
two maps, and the state machine mutates it through either.  The model keeps the peer objects in a
heap `Ptr → Peer` with a bump allocator, and the two maps as association lists of pointers, so
that which object a map entry denotes is explicit.

Every operation returns an `Out`: the endpoint after it, the datagrams it wrote (address and
bytes, in order, whether or not the socket then reported an error), and how it ended — normally,
with a Go `error`, or with a panic.

The inputs a call draws from outside the program are an `Env`: the clock, what `crypto/rand`
yields, and which socket writes fail.  What the code takes from code outside this repository's
files is an `Ext`: the `dmr` module's constants, the peer object's `UpdateToken`, and the Unicode
folding orbits `bytes.EqualFold` walks.

Main definitions:

* `GoDmr.AuthStatus`, `GoDmr.Peer`, `GoDmr.Homebrew` — the data model;
* `GoDmr.Homebrew.writeToPeer`, `GoDmr.Homebrew.handleAuth` — `WriteToPeer` and `handleAuth`;
* `GoDmr.Homebrew.link`, `GoDmr.Homebrew.unlink` — `Link` and `Unlink`;
* `GoDmr.Homebrew.getPeers` — the snapshot `getPeers` copies out of the `Peer` map.

Main results:

* `GoDmr.Homebrew.OnlyStamps` — two endpoints that differ at most in timestamps, with
  `GoDmr.Homebrew.onlyStamps_writeToPeer` and `GoDmr.Homebrew.onlyStamps_handleAuth`: writing and
  the authentication step change nothing else;
* `GoDmr.Homebrew.sent_handleAuth_of_incoming` — the authentication step of an incoming peer does
  nothing.
-/

import GoDmr.ConfigFrame
import Mathlib.Data.List.AList

set_option relaxedAutoImplicit false
set_option autoImplicit false

namespace GoDmr

/-! ### The data model -/

/-- `AuthStatus`: how far a peer is through the login exchange. -/
inductive AuthStatus
  | authNone | authBegin | authDone | authFailed
  deriving DecidableEq, Repr

/-- The string `UDPAddr.String()` gives for an address; the `Peer` map is keyed by it. -/
abbrev Addr := String

/-- A reference to a peer object. -/
abbrev Ptr := ℕ

/-- A packet callback, `dmr.PacketFunc`: the error it returns, if any.  What else a host's
callback does is not modelled. -/
abbrev Callback := Packet → Option String

/-- The timestamps `peer.Last` records, in nanoseconds; `0` is Go's zero `time.Time{}`. -/
structure Last where
  packetSent : ℕ
  packetReceived : ℕ
  pingSent : ℕ
  pingReceived : ℕ
  pongReceived : ℕ
  authSent : ℕ
  tgSubscribed : ℕ

/-- `Peer`, with the fields the homebrew code reads and writes. -/
structure Peer where
  id : UInt32
  /-- `peer.Addr`; Go's `nil` is `none`. -/
  addr : Option Addr
  authKey : List UInt8
  /-- Whether the remote end initiated the link (we are its master). -/
  incoming : Bool
  unlinkOnAuthFailure : Bool
  status : AuthStatus
  token : List UInt8
  tgid : UInt32
  config : Option RepeaterConfiguration
  last : Last
  /-- `peer.PacketReceived`, the per-peer callback. -/
  packetReceived : Option Callback

/-- `peer.Addr.String()`; the `String` method of a nil `*UDPAddr` gives `"<nil>"`. -/
def Peer.addrString (p : Peer) : Addr := p.addr.getD "<nil>"

/-- What the code takes from code that is not part of this repository's files. -/
structure Ext where
  /-- The `dmr` module's constants. -/
  dmr : Dmr
  /-- `peer.UpdateToken(nonce)` sets the peer's token to `updateToken peer.AuthKey nonce`. -/
  updateToken : List UInt8 → List UInt8 → List UInt8
  /-- The orbits of `unicode.SimpleFold`, as `bytes.EqualFold` walks them. -/
  foldsTo : UInt32 → UInt32 → Bool

/-- What one call draws from the world outside the program. -/
structure Env where
  /-- `time.Now()`, in nanoseconds. -/
  now : ℕ
  /-- What `rand.Read` puts in a 4-byte nonce, or `none` when it fails. -/
  nonce : Option { n : List UInt8 // n.length = 4 }
  /-- The error `conn.WriteTo` returns for a datagram to an address, if any. -/
  sock : Addr → Option String

/-- `Homebrew`, with the fields the homebrew code reads and writes. -/
structure Homebrew where
  /-- `h.Config`, the endpoint's own configuration. -/
  config : RepeaterConfiguration
  /-- `h.Peer`: peers by the string of their address. -/
  peer : AList fun _ : Addr => Ptr
  /-- `h.PeerID`: peers by their id. -/
  peerID : AList fun _ : UInt32 => Ptr
  /-- The peer objects. -/
  heap : Ptr → Peer
  /-- The first pointer not yet allocated. -/
  next : Ptr
  /-- `h.pf`, the endpoint's packet callback. -/
  pf : Option Callback
  /-- `h.id`, `packRepeaterID(config.ID)`. -/
  id : List UInt8
  /-- `h.last`, when a data packet was last received. -/
  last : ℕ

/-- How a Go call ended. -/
inductive Ret
  | ok
  | error (msg : String)
  | panic
  deriving DecidableEq, Repr

/-- The `error` a socket write returns, as a `Ret`. -/
def Ret.ofError : Option String → Ret
  | none => .ok
  | some e => .error e

@[simp] theorem Ret.ofError_none : Ret.ofError none = .ok := rfl
@[simp] theorem Ret.ofError_some (e : String) : Ret.ofError (some e) = .error e := rfl

@[simp] theorem Ret.ofError_ne_panic (e : Option String) : Ret.ofError e ≠ .panic := by
  cases e <;> simp [Ret.ofError]

@[simp] theorem Ret.ofError_eq_ok (e : Option String) : Ret.ofError e = .ok ↔ e = none := by
  cases e <;> simp [Ret.ofError]

/-- The result of a call: the endpoint after it, the datagrams it wrote, and how it ended. -/
structure Out where
  h : Homebrew
  sent : List (Addr × List UInt8)
  ret : Ret

namespace Out

/-- `if err := f(); err != nil { return err }` and then the rest: `k` runs on the endpoint `o`
left, only when `o` ended normally. -/
def bind (o : Out) (k : Homebrew → Out) : Out :=
  if o.ret = .ok then let o' := k o.h; ⟨o'.h, o.sent ++ o'.sent, o'.ret⟩ else o

/-- A call whose `error` the code ignores, and then the rest. -/
def seq (o : Out) (k : Homebrew → Out) : Out := let o' := k o.h; ⟨o'.h, o.sent ++ o'.sent, o'.ret⟩

@[simp] theorem seq_h (o : Out) (k : Homebrew → Out) : (o.seq k).h = (k o.h).h := rfl
@[simp] theorem seq_sent (o : Out) (k : Homebrew → Out) : (o.seq k).sent = o.sent ++ (k o.h).sent :=
  rfl
@[simp] theorem seq_ret (o : Out) (k : Homebrew → Out) : (o.seq k).ret = (k o.h).ret := rfl

theorem bind_of_ok {o : Out} (k : Homebrew → Out) (ho : o.ret = .ok) : o.bind k = o.seq k := by
  simp [bind, seq, ho]

end Out

/-- The zero `Last`: every timestamp is Go's zero `time.Time{}`. -/
def Last.zero : Last := ⟨0, 0, 0, 0, 0, 0, 0⟩

/-- The value of a pointer no `&Peer{...}` has allocated yet; no map refers to it. -/
def Peer.blank : Peer :=
  ⟨0, none, [], false, false, .authNone, [], 0, none, Last.zero, none⟩

/-- `New(config, addr)`: an endpoint with no peers.  The socket it opens is not modelled. -/
def Homebrew.new (config : RepeaterConfiguration) : Homebrew :=
  ⟨config, ∅, ∅, fun _ => Peer.blank, 0, none, packRepeaterID config.id, 0⟩

/-! ### Timeouts

The package variables `AuthTimeout`, `PingInterval` and `PingTimeout`, in nanoseconds. -/

def second : ℕ := 1000000000
def AuthTimeout : ℕ := 15 * second
def PingInterval : ℕ := 5 * second
def PingTimeout : ℕ := 15 * second

namespace Homebrew

variable (X : Ext) (env : Env) (h : Homebrew)

/-! ### The heap and the maps -/

/-- Update the peer object at `p`. -/
def modify (p : Ptr) (f : Peer → Peer) : Homebrew :=
  { h with heap := Function.update h.heap p (f (h.heap p)) }

@[simp] theorem heap_modify_self (p : Ptr) (f : Peer → Peer) :
    (h.modify p f).heap p = f (h.heap p) := by simp [modify]

theorem heap_modify_of_ne {p q : Ptr} (f : Peer → Peer) (hq : q ≠ p) :
    (h.modify p f).heap q = h.heap q := by simp [modify, hq]

@[simp] theorem peer_modify (p : Ptr) (f : Peer → Peer) : (h.modify p f).peer = h.peer := rfl
@[simp] theorem peerID_modify (p : Ptr) (f : Peer → Peer) : (h.modify p f).peerID = h.peerID := rfl
@[simp] theorem next_modify (p : Ptr) (f : Peer → Peer) : (h.modify p f).next = h.next := rfl
@[simp] theorem id_modify (p : Ptr) (f : Peer → Peer) : (h.modify p f).id = h.id := rfl
@[simp] theorem config_modify (p : Ptr) (f : Peer → Peer) :
    (h.modify p f).config = h.config := rfl

/-- Set the timestamps of the peer object at `p`. -/
def stamp (p : Ptr) (f : Last → Last) : Homebrew := h.modify p fun q => { q with last := f q.last }

@[simp] theorem heap_stamp (p q : Ptr) (f : Last → Last) :
    (h.stamp p f).heap q =
      { h.heap q with last := if q = p then f (h.heap q).last else (h.heap q).last } := by
  by_cases hq : q = p
  · subst hq; simp [stamp]
  · simp [stamp, heap_modify_of_ne _ _ hq, hq]

@[simp] theorem peer_stamp (p : Ptr) (f : Last → Last) : (h.stamp p f).peer = h.peer := rfl
@[simp] theorem peerID_stamp (p : Ptr) (f : Last → Last) : (h.stamp p f).peerID = h.peerID := rfl
@[simp] theorem id_stamp (p : Ptr) (f : Last → Last) : (h.stamp p f).id = h.id := rfl
@[simp] theorem config_stamp (p : Ptr) (f : Last → Last) : (h.stamp p f).config = h.config := rfl

/-- Set the status of the peer object at `p`. -/
def setStatus (p : Ptr) (s : AuthStatus) : Homebrew := h.modify p fun q => { q with status := s }

@[simp] theorem heap_setStatus (p q : Ptr) (s : AuthStatus) :
    (h.setStatus p s).heap q = if q = p then { h.heap q with status := s } else h.heap q := by
  by_cases hq : q = p
  · subst hq; simp [setStatus]
  · simp [setStatus, heap_modify_of_ne _ _ hq, hq]

@[simp] theorem peer_setStatus (p : Ptr) (s : AuthStatus) : (h.setStatus p s).peer = h.peer := rfl
@[simp] theorem peerID_setStatus (p : Ptr) (s : AuthStatus) :
    (h.setStatus p s).peerID = h.peerID := rfl
@[simp] theorem id_setStatus (p : Ptr) (s : AuthStatus) : (h.setStatus p s).id = h.id := rfl
@[simp] theorem config_setStatus (p : Ptr) (s : AuthStatus) :
    (h.setStatus p s).config = h.config := rfl

/-- `&Peer{...}`: a new peer object, at a pointer no map holds yet. -/
def alloc (q : Peer) : Homebrew × Ptr :=
  ({ h with heap := Function.update h.heap h.next q, next := h.next + 1 }, h.next)

/-- `getPeerByAddr`. -/
def getPeerByAddr (addr : Addr) : Option Ptr := h.peer.lookup addr

/-- `getPeer`. -/
def getPeer (id : UInt32) : Option Ptr := h.peerID.lookup id

/-- `getPeers`: the peers of the `Peer` map, copied out.  Go's map iteration order is unspecified;
the model takes the order of the association list. -/
def getPeers : List Ptr := h.peer.entries.map Sigma.snd

/-! ### Writing -/

/-- `WriteToPeer(b, peer)`: stamp `Last.PacketSent`, then write `b` to the peer's address. -/
def writeToPeer (p : Ptr) (b : List UInt8) : Out :=
  let h' := h.stamp p fun l => { l with packetSent := env.now }
  ⟨h', [((h.heap p).addrString, b)], .ofError (env.sock (h.heap p).addrString)⟩

@[simp] theorem writeToPeer_h (p : Ptr) (b : List UInt8) :
    (writeToPeer env h p b).h = h.stamp p fun l => { l with packetSent := env.now } := rfl
@[simp] theorem writeToPeer_sent (p : Ptr) (b : List UInt8) :
    (writeToPeer env h p b).sent = [((h.heap p).addrString, b)] := rfl
@[simp] theorem writeToPeer_ret (p : Ptr) (b : List UInt8) :
    (writeToPeer env h p b).ret = .ofError (env.sock (h.heap p).addrString) := rfl

/-- `WriteToPeerWithID(b, id)`: a write to the peer registered under `id`, or an error. -/
def writeToPeerWithID (b : List UInt8) (id : UInt32) : Out :=
  match h.getPeer id with
  | none => ⟨h, [], .error "homebrew: can't write to nil peer"⟩
  | some p => writeToPeer env h p b

/-- `handleAuth`: for an outgoing peer, the next message of the login — `RPTL` with our id from
`AuthNone`, the key exchange `RPTK` with our id and the token from `AuthBegin`. -/
def handleAuth (p : Ptr) : Out :=
  if (h.heap p).incoming then ⟨h, [], .ok⟩ else
  let h := h.stamp p fun l => { l with packetReceived := env.now }
  match (h.heap p).status with
  | .authNone =>
    let h := h.stamp p fun l => { l with authSent := env.now }
    writeToPeer env h p (RepeaterLogin ++ h.id)
  | .authBegin => writeToPeer env h p (RepeaterKey ++ h.id ++ (h.heap p).token)
  | _ => ⟨h, [], .ok⟩

/-! ### Linking -/

/-- `Link(peer)`: check the peer, reset its timestamps, register it in both maps, and start the
login of an outgoing peer. -/
def link (p : Ptr) : Out :=
  let q := h.heap p
  if q.addr = none then ⟨h, [], .error "homebrew: peer Addr can't be nil"⟩
  else if q.authKey = [] then ⟨h, [], .error "homebrew: peer AuthKey can't be nil"⟩
  else
    let h := h.stamp p fun l =>
      { l with packetSent := 0, packetReceived := 0, pingSent := 0, pongReceived := 0 }
    let h := { h with peer := h.peer.insert q.addrString p, peerID := h.peerID.insert q.id p }
    if q.incoming then ⟨h, [], .ok⟩ else handleAuth env h p

/-- `Unlink(id)`: remove the peer registered under `id` from both maps. -/
def unlink (id : UInt32) : Out :=
  match h.peerID.lookup id with
  | none => ⟨h, [], .error ("homebrew: peer " ++ toString id.toNat ++ " not linked")⟩
  | some p => ⟨{ h with peer := h.peer.erase (h.heap p).addrString, peerID := h.peerID.erase id },
      [], .ok⟩

@[simp] theorem heap_unlink (i : UInt32) : (unlink h i).h.heap = h.heap := by
  unfold unlink; split <;> rfl

@[simp] theorem sent_unlink (i : UInt32) : (unlink h i).sent = [] := by
  unfold unlink; split <;> rfl

/-- `checkRepeaterID(id)`: whether `id` is our own id up to case, as `bytes.EqualFold` compares.
The `id != nil` test always holds: the code passes a subslice of the datagram. -/
def checkRepeaterID (id : List UInt8) : Bool := equalFold X.foldsTo id h.id

/-- **`checkRepeaterID` accepts ids that are not ours.**  `bytes.EqualFold` compares the binary
id as text: an ASCII id equal to ours up to the case of its letters passes, and so does an id that
differs from ours in one byte after an ASCII prefix when both bytes are invalid UTF-8 leading bytes,
since both decode as `RuneError`.  Neither needs the Unicode folding table. -/
theorem checkRepeaterID_accepts_other_ids :
    (∀ x, List.Forall₂ (fun a b => a < 0x80 ∧ b < 0x80 ∧ asciiFoldEq a.toUInt32 b.toUInt32) x
      h.id → checkRepeaterID X h x = true) ∧
    (∀ pre post a b, (∀ c ∈ pre, c < 0x80) → 0x80 ≤ a → a < 0xC2 → 0x80 ≤ b → b < 0xC2 →
      h.id = pre ++ b :: post → checkRepeaterID X h (pre ++ a :: post) = true) := by
  refine ⟨fun x hx => equalFold_of_asciiFoldEq _ hx, fun pre post a b hpre ha ha' hb hb' hid => ?_⟩
  rw [checkRepeaterID, hid, equalFold_ascii_append _ hpre, equalFold_invalid_lead _ _ ha ha' hb hb']

/-- Repeater `0x41424344` (`ABCD`) takes `abcd` for its id, and repeater `2041234` takes
`2041235`: the low bytes `0x92` and `0x93` are both invalid UTF-8. -/
theorem checkRepeaterID_accepts_lower_case :
    let X : Ext := ⟨⟨10, 1, [], []⟩, fun _ n => n, fun _ _ => false⟩
    let c : RepeaterConfiguration := ⟨0, [], 0, 0, 0, 1, 0, 0, 0, [], [], 1, [], [], []⟩
    (Homebrew.new { c with id := 0x41424344 }).id = [0x41, 0x42, 0x43, 0x44] ∧
      checkRepeaterID X (Homebrew.new { c with id := 0x41424344 }) [0x61, 0x62, 0x63, 0x64] ∧
      (Homebrew.new { c with id := 2041234 }).id = [0x00, 0x1F, 0x25, 0x92] ∧
      checkRepeaterID X (Homebrew.new { c with id := 2041234 }) [0x00, 0x1F, 0x25, 0x93] :=
  ⟨rfl, (checkRepeaterID_accepts_other_ids _ _).1 _ (by decide), rfl,
    (checkRepeaterID_accepts_other_ids _ _).2 [0x00, 0x1F, 0x25] [] _ _ (by decide) (by decide)
      (by decide) (by decide) (by decide) rfl⟩

/-! ### Calls that only stamp times -/

/-- `h'` differs from `h` at most in timestamps: the maps, the allocator, the configuration and
every field of every peer but `last` are the same. -/
def OnlyStamps (h h' : Homebrew) : Prop :=
  h'.peer = h.peer ∧ h'.peerID = h.peerID ∧ h'.next = h.next ∧ h'.id = h.id ∧
    h'.config = h.config ∧ h'.pf = h.pf ∧ ∀ q, { h'.heap q with last := (h.heap q).last } = h.heap q

namespace OnlyStamps

variable {h h' h'' : Homebrew}

theorem refl (h : Homebrew) : OnlyStamps h h := ⟨rfl, rfl, rfl, rfl, rfl, rfl, fun _ => rfl⟩

theorem trans (h₁ : OnlyStamps h h') (h₂ : OnlyStamps h' h'') : OnlyStamps h h'' := by
  obtain ⟨a₁, b₁, c₁, d₁, e₁, f₁, g₁⟩ := h₁
  obtain ⟨a₂, b₂, c₂, d₂, e₂, f₂, g₂⟩ := h₂
  refine ⟨a₂.trans a₁, b₂.trans b₁, c₂.trans c₁, d₂.trans d₁, e₂.trans e₁, f₂.trans f₁, fun q => ?_⟩
  rw [← g₁ q, ← g₂ q]

/-- Each field of a peer but its timestamps is unchanged. -/
theorem heap_eq (hs : OnlyStamps h h') (q : Ptr) :
    { h'.heap q with last := (h.heap q).last } = h.heap q := hs.2.2.2.2.2.2 q

theorem status_eq (hs : OnlyStamps h h') (q : Ptr) : (h'.heap q).status = (h.heap q).status := by
  have := congrArg Peer.status (hs.heap_eq q); exact this

theorem token_eq (hs : OnlyStamps h h') (q : Ptr) : (h'.heap q).token = (h.heap q).token := by
  have := congrArg Peer.token (hs.heap_eq q); exact this

theorem incoming_eq (hs : OnlyStamps h h') (q : Ptr) :
    (h'.heap q).incoming = (h.heap q).incoming := by
  have := congrArg Peer.incoming (hs.heap_eq q); exact this

theorem tgid_eq (hs : OnlyStamps h h') (q : Ptr) : (h'.heap q).tgid = (h.heap q).tgid := by
  have := congrArg Peer.tgid (hs.heap_eq q); exact this

theorem id_eq (hs : OnlyStamps h h') (q : Ptr) : (h'.heap q).id = (h.heap q).id := by
  have := congrArg Peer.id (hs.heap_eq q); exact this

theorem addrString_eq (hs : OnlyStamps h h') (q : Ptr) :
    (h'.heap q).addrString = (h.heap q).addrString := by
  have := congrArg Peer.addrString (hs.heap_eq q); exact this

theorem authKey_eq (hs : OnlyStamps h h') (q : Ptr) :
    (h'.heap q).authKey = (h.heap q).authKey := by
  have := congrArg Peer.authKey (hs.heap_eq q); exact this

end OnlyStamps

/-- Setting the timestamps of one peer only stamps times. -/
theorem onlyStamps_stamp (p : Ptr) (f : Last → Last) : OnlyStamps h (h.stamp p f) :=
  ⟨rfl, rfl, rfl, rfl, rfl, rfl, fun q => by simp⟩

theorem onlyStamps_writeToPeer (p : Ptr) (b : List UInt8) :
    OnlyStamps h (writeToPeer env h p b).h :=
  onlyStamps_stamp h p _

theorem onlyStamps_handleAuth (p : Ptr) : OnlyStamps h (handleAuth env h p).h := by
  unfold handleAuth
  split_ifs
  · exact .refl h
  · have h₁ := onlyStamps_stamp h p fun l => { l with packetReceived := env.now }
    dsimp only
    split
    · exact h₁.trans ((onlyStamps_stamp _ p _).trans (onlyStamps_writeToPeer _ _ _ _))
    · exact h₁.trans (onlyStamps_writeToPeer _ _ _ _)
    · exact h₁

@[simp] theorem sent_handleAuth_of_incoming (p : Ptr) (hp : (h.heap p).incoming = true) :
    handleAuth env h p = ⟨h, [], .ok⟩ := by
  simp [handleAuth, hp]

end Homebrew

end GoDmr
