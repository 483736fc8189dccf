/-
**The transition table of a registered peer.**

`handle` runs the login and liveness state machine of a peer through chains of prefix tests on
the receive buffer.  This module states the machine the other way round, as a table: for a peer
of either role and each status, the row a datagram selects by the verb it starts with and its
length, and what the row prescribes — drop the datagram, move to a status and answer, or decode
and dispatch a data frame.  It then proves that `handle` does what the table says, for every
datagram of a registered address and every state of the endpoint.

The table is read off the behaviour the code is built for.  Three inputs have no row, because the
code reads them by accident rather than by design: an `RPTACK` to an outgoing login shorter than
the nonce it carries (its nonce is read partly from stale bytes of the receive buffer), a 10-byte
`MSTACK‖nonce` to an outgoing login (ignored, where the design accepts it as `RPTACK‖nonce`), and a
frame starting with `RPTC` from an authenticated incoming peer that is not a 302-byte
configuration (`handle` panics).  `GoDmr.table_eq_none` shows that these are the only ones, and
the main theorem says what `handle` does with each.

Main definitions:

* `GoDmr.Row` — what a row prescribes;
* `GoDmr.table` — the row a datagram selects, by role, status, verb and length;
* `GoDmr.Row.Realizes` — a call of `handle` did what a row prescribes.

Main results:

* `GoDmr.Homebrew.realizes_handlePeer` — `handlePeer` follows the table, one lemma per branch of
  the code (`realizes_handleIncomingAuth` and its three siblings) assembled by role and status;
* `GoDmr.Homebrew.realizes_unlisted_login` — what `handle` does with the two datagrams to an
  outgoing login that have no row;
* `GoDmr.handle_follows_table` — **`handle` follows the table** for every registered address, and
  on the inputs it has no row for it does what the module header says.
-/

import GoDmr.Dispatch

set_option relaxedAutoImplicit false
set_option autoImplicit false

namespace GoDmr

open Homebrew

/-- What the transition table prescribes for one datagram. -/
inductive Row
  /-- Drop it: the status stays and nothing is written. -/
  | drop
  /-- The status becomes `next`, and `reply`, if there is one, is written to the peer. -/
  | move (next : AuthStatus) (reply : Option (List UInt8))
  /-- Decode and dispatch a data frame: the status stays and only data frames are written. -/
  | dispatch
  deriving DecidableEq, Repr

/-- **The transition table.**  The row the datagram `bytes` selects for the registered peer `q` of
the endpoint `h`: by `q`'s role and status, then by the verb `bytes` starts with and its length;
`none` where the code departs from any table (see the module header).  The nonce comes from
`env`, and the ids compared and sent are the endpoint's own. -/
def table (X : Ext) (env : Env) (h : Homebrew) (q : Peer) (bytes : List UInt8) : Option Row :=
  let n := bytes.length
  if n < 8 then some .drop
  else if q.incoming then
    match q.status with
    | .authNone =>
      if bytes.take 4 = RepeaterLogin then
        match env.nonce with
        | some nonce => some (.move .authBegin (some (RepeaterACK ++ nonce.1)))
        | none => some (.move .authNone (some (MasterNAK ++ h.id)))
      else some .drop
    | .authBegin =>
      if bytes.take 4 = RepeaterKey then
        if n = 40 ∧ bytes.drop 8 = q.token then some (.move .authDone (some (RepeaterACK ++ h.id)))
        else some (.move .authNone (some (MasterNAK ++ h.id)))
      else some .drop
    | .authDone =>
      if bytes.take 4 = DMRData then (if n = 55 then some .dispatch else some .drop)
      else if n = 11 ∧ bytes.take 7 = MasterPing then
        some (.move .authDone (some (RepeaterPong ++ bytes.drop 7)))
      else if n = 11 ∧ bytes.take 7 = RepeaterPing then
        some (.move .authDone (some (MasterPong ++ bytes.drop 7)))
      else if bytes.take 4 = RepeaterConfig then
        if n = 302 then some (.move .authDone (some (RepeaterACK ++ h.id))) else none
      else some .drop
    | .authFailed => some .drop
  else
    match q.status with
    | .authNone =>
      if bytes.take 6 = RepeaterACK then
        if 10 ≤ n then
          some (.move .authBegin
            (some (RepeaterKey ++ h.id ++ X.updateToken q.authKey ((bytes.take 10).drop 6))))
        else none
      else if bytes.take 6 = MasterNAK then some (.move .authFailed none)
      else if n = 10 ∧ bytes.take 6 = MasterACK then none
      else some .drop
    | .authBegin =>
      if bytes.take 6 = MasterACK ∨ bytes.take 6 = RepeaterACK then
        some (.move .authDone (some (buildConfigData X.dmr h.config).2))
      else if bytes.take 6 = MasterNAK then some (.move .authFailed none)
      else some .drop
    | .authDone =>
      if bytes.take 4 = DMRData then (if n = 55 then some .dispatch else some .drop)
      else if n = 10 ∧ (bytes.take 6 = MasterACK ∨ bytes.take 6 = RepeaterACK) ∧
          checkRepeaterID X h ((bytes.take 10).drop 6) then
        some (.move .authDone (some (MasterPing ++ h.id)))
      else if n = 10 ∧ bytes.take 6 = MasterNAK ∧ checkRepeaterID X h ((bytes.take 10).drop 6) then
        some (.move .authFailed none)
      else some .drop
    | .authFailed => some .drop

/-- Every write of `sent` is a data frame. -/
def DataFrames (sent : List (Addr × List UInt8)) : Prop := ∀ x ∈ sent, x.2.take 4 = DMRData

/-- The call that ended in `o` did to the peer object `p`, whose state was `q`, what the row
prescribes: the status it leaves and what it wrote. -/
def Row.Realizes (q : Peer) (p : Ptr) (o : Out) : Row → Prop
  | .drop => (o.h.heap p).status = q.status ∧ o.sent = []
  | .move next reply =>
    (o.h.heap p).status = next ∧ o.sent = reply.toList.map fun b => (q.addrString, b)
  | .dispatch => (o.h.heap p).status = q.status ∧ DataFrames o.sent

/-- A row reads only the status and the address of the peer it is about. -/
theorem Row.realizes_congr {q q' : Peer} (hs : q'.status = q.status)
    (ha : q'.addrString = q.addrString) {p : Ptr} {o : Out} (row : Row) :
    row.Realizes q' p o ↔ row.Realizes q p o := by
  cases row <;> simp [Row.Realizes, hs, ha]

/-- The table reads no timestamp. -/
theorem table_stamp (X : Ext) (env : Env) (h : Homebrew) (p : Ptr) (f : Last → Last)
    (bytes : List UInt8) :
    table X env (h.stamp p f) ((h.stamp p f).heap p) bytes = table X env h (h.heap p) bytes := by
  simp only [heap_stamp, if_true]; rfl

/-- The inputs the table has no row for: an `RPTACK` shorter than the nonce it carries and a
10-byte `MSTACK` to an outgoing login, and a frame starting with `RPTC` that is not 302 bytes long
from an authenticated incoming peer. -/
theorem table_eq_none {X : Ext} {env : Env} {h : Homebrew} {q : Peer} {bytes : List UInt8}
    (hnone : table X env h q bytes = none) :
    8 ≤ bytes.length ∧
      ((q.incoming = false ∧ q.status = .authNone ∧
          ((bytes.length < 10 ∧ bytes.take 6 = RepeaterACK) ∨
            (bytes.length = 10 ∧ bytes.take 6 = MasterACK))) ∨
        (q.incoming = true ∧ q.status = .authDone ∧ bytes.take 4 = RepeaterConfig ∧
          bytes.length ≠ 302)) := by
  unfold table at hnone
  dsimp only at hnone
  have h8 : 8 ≤ bytes.length := by
    by_contra hl
    rw [if_pos (by omega)] at hnone
    cases hnone
  rw [if_neg (by omega)] at hnone
  refine ⟨h8, ?_⟩
  cases hi : q.incoming <;> rcases hs : q.status <;>
    simp only [hi, hs, if_true, Bool.false_eq_true, if_false] at hnone <;>
    repeat' split at hnone
  all_goals try cases hnone
  all_goals simp_all

namespace Homebrew

variable (X : Ext) (env : Env)

/-! ### Dispatch writes data frames and keeps every status -/

theorem onlyStamps_writeEach (pick : Homebrew → Ptr → Bool) (data : List UInt8) :
    ∀ qs h, OnlyStamps h (writeEach env pick data qs h).h
  | [], h => .refl h
  | q :: qs, h => by
    unfold writeEach Out.bind
    split_ifs
    · exact (onlyStamps_writeToPeer env h q data).trans (onlyStamps_writeEach pick data qs _)
    · exact onlyStamps_writeToPeer env h q data
    · exact onlyStamps_writeEach pick data qs h

theorem writeEach_sent_data (pick : Homebrew → Ptr → Bool) (data : List UInt8) :
    ∀ qs h, ∀ x ∈ (writeEach env pick data qs h).sent, x.2 = data
  | [], h => by simp [writeEach]
  | q :: qs, h => by
    unfold writeEach Out.bind
    split_ifs
    · simp only [List.mem_append, writeToPeer_sent, List.mem_singleton]
      rintro x (rfl | hx)
      exacts [rfl, writeEach_sent_data pick data qs _ x hx]
    · simp
    · exact writeEach_sent_data pick data qs h

@[simp] theorem status_handlePacket (h : Homebrew) (p : Packet) (peer q : Ptr) :
    ((handlePacket X env h p peer).h.heap q).status = (h.heap q).status := by
  unfold handlePacket
  rcases hq : (h.heap peer).packetReceived with _ | f
  · rcases hf : h.pf with _ | f
    · simp only [hq, hf]
      split_ifs
      · unfold sendTG
        rw [(onlyStamps_writeEach env _ _ _ _).status_eq]
        by_cases hqp : q = peer
        · subst hqp; simp
        · simp [heap_modify_of_ne _ _ hqp]
      · rfl
    · simp [hq, hf]
  · simp [hq]

theorem dataFrames_handlePacket (h : Homebrew) (p : Packet) (peer : Ptr) :
    DataFrames (handlePacket X env h p peer).sent := by
  unfold handlePacket
  rcases hq : (h.heap peer).packetReceived with _ | f
  · rcases hf : h.pf with _ | f
    · simp only [hq, hf]
      split_ifs
      · intro x hx
        rw [writeEach_sent_data env _ _ _ _ x hx, take_four_buildData]
      · simp [DataFrames]
    · simp [DataFrames, hq, hf]
  · simp [DataFrames, hq]

section Branches

variable (h : Homebrew) (peer : Ptr) (data : Datagram)

@[simp] theorem status_dispatch (q : Ptr) :
    ((dispatch X env h peer data).h.heap q).status = (h.heap q).status := by
  unfold dispatch; split
  · rfl
  · exact status_handlePacket X env _ _ _ _

@[simp] theorem dataFrames_dispatch : DataFrames (dispatch X env h peer data).sent := by
  unfold dispatch; split
  · simp [DataFrames]
  · exact dataFrames_handlePacket X env _ _ _

/-- `parseData` rejects every frame that is not 55 bytes long, before it dispatches anything. -/
@[simp] theorem sent_dispatch_of_ne (hn : data.n ≠ 55) : (dispatch X env h peer data).sent = [] := by
  simp [dispatch, parseData, hn]

theorem onlyStamps_pongReceived : OnlyStamps h (pongReceived X env h peer data).h := by
  unfold pongReceived; split_ifs
  exacts [.refl h, onlyStamps_stamp h peer _]

@[simp] theorem sent_pongReceived : (pongReceived X env h peer data).sent = [] := by
  unfold pongReceived; split_ifs <;> rfl

end Branches

/-! ### Each branch of `handle` follows the table -/

section Branches

variable (g : Homebrew) (p : Ptr) (d : Datagram)

/-- The three six-byte answers to a login are distinct. -/
theorem verb_ne : MasterACK ≠ MasterNAK ∧ MasterNAK ≠ MasterACK ∧ MasterACK ≠ RepeaterACK ∧
    RepeaterACK ≠ MasterACK ∧ MasterNAK ≠ RepeaterACK ∧ RepeaterACK ≠ MasterNAK := by
  decide

theorem realizes_handleIncomingAuth (hi : (g.heap p).incoming = true)
    (hs : (g.heap p).status ≠ .authDone) (hn : 8 ≤ d.n) :
    ∀ row ∈ table X env g (g.heap p) d.bytes,
      row.Realizes (g.heap p) p (handleIncomingAuth X env g p d) := by
  simp only [table, Datagram.length_bytes, hi, if_true, show ¬ d.n < 8 by omega, if_false]
  unfold handleIncomingAuth
  rw [d.head_eq_bytes (show 4 ≤ d.n by omega)]
  rcases hst : (g.heap p).status
  · simp only
    split_ifs
    · rcases env.nonce with _ | nonce <;> simp [Row.Realizes, Peer.addrString, hst]
    · simp [Row.Realizes]
  · simp only
    split_ifs <;> simp_all [Row.Realizes, Peer.addrString]
  · exact absurd hst hs
  · simp [Row.Realizes]

theorem realizes_handleOutgoingAuth (hi : (g.heap p).incoming = false)
    (hs : (g.heap p).status ≠ .authDone) (hn : 8 ≤ d.n) :
    ∀ row ∈ table X env g (g.heap p) d.bytes,
      row.Realizes (g.heap p) p (handleOutgoingAuth X env g p d) := by
  simp only [table, Datagram.length_bytes, hi, Bool.false_eq_true, show ¬ d.n < 8 by omega,
    if_false]
  unfold handleOutgoingAuth
  rw [d.head_eq_bytes (show 6 ≤ d.n by omega)]
  rcases hst : (g.heap p).status
  · simp only
    split_ifs <;> simp_all [verb_ne, Row.Realizes, Peer.addrString, handleAuth,
      Datagram.slice_eq_bytes]
  · simp only
    split_ifs <;> simp_all [verb_ne, Row.Realizes, Peer.addrString, acceptLogin]
  · exact absurd hst hs
  · simp [Row.Realizes]

theorem realizes_handleIncomingDone (hi : (g.heap p).incoming = true)
    (hs : (g.heap p).status = .authDone) (hn : 8 ≤ d.n) :
    ∀ row ∈ table X env g (g.heap p) d.bytes,
      row.Realizes (g.heap p) p (handleIncomingDone X env g p d) := by
  simp only [table, Datagram.length_bytes, hi, hs, if_true, show ¬ d.n < 8 by omega, if_false]
  unfold handleIncomingDone
  rw [d.head_eq_bytes (show 4 ≤ d.n by omega), d.head_eq_bytes (show 6 ≤ d.n by omega),
    d.head_eq_bytes (show 7 ≤ d.n by omega)]
  have hc := parseConfigData_isOk d.bytes
  rcases hpc : parseConfigData d.bytes with _ | c <;> repeat' split
  all_goals simp_all [Row.Realizes, Peer.addrString, pong, Except.isOk, Except.toBool]

theorem realizes_handleOutgoingDone (hi : (g.heap p).incoming = false)
    (hs : (g.heap p).status = .authDone) (hn : 8 ≤ d.n) :
    ∀ row ∈ table X env g (g.heap p) d.bytes,
      row.Realizes (g.heap p) p (handleOutgoingDone X env g p d) := by
  simp only [table, Datagram.length_bytes, hi, hs, Bool.false_eq_true, show ¬ d.n < 8 by omega,
    if_false]
  unfold handleOutgoingDone
  rw [d.head_eq_bytes (show 4 ≤ d.n by omega), d.head_eq_bytes (show 6 ≤ d.n by omega),
    d.head_eq_bytes (show 7 ≤ d.n by omega)]
  repeat' split
  all_goals simp_all [verb_ne, Row.Realizes, Peer.addrString, ackPing, handleAuth,
    (onlyStamps_pongReceived X env g p d).status_eq, Datagram.slice_eq_bytes]

end Branches

/-- **`handlePeer` follows the table**: drop what is shorter than 8 bytes, stamp the peer, and
run the branch of its role and status; a data frame of a peer that is not authenticated is
dropped, which is what the table says of a verb it has no row for. -/
theorem realizes_handlePeer (h : Homebrew) (p : Ptr) (d : Datagram) :
    ∀ row ∈ table X env h (h.heap p) d.bytes,
      row.Realizes (h.heap p) p (handlePeer X env h (some p) d) := by
  by_cases hn : d.n < 8
  · simp [table, hn, handlePeer, Row.Realizes]
  intro row hrow
  unfold handlePeer
  simp only [hn, if_false]
  set g := h.stamp p fun l => { l with packetReceived := env.now } with hg
  replace hrow : row ∈ table X env g (g.heap p) d.bytes := by rwa [hg, table_stamp]
  rw [← Row.realizes_congr (show (g.heap p).status = _ by simp [hg])
    (show (g.heap p).addrString = _ by simp [hg, Peer.addrString])]
  by_cases hs : (g.heap p).status = .authDone
  · simp only [hs, ne_eq, not_true_eq_false, if_false]
    cases hi : (g.heap p).incoming
    · exact realizes_handleOutgoingDone X env g p d hi hs (by omega) row hrow
    · exact realizes_handleIncomingDone X env g p d hi hs (by omega) row hrow
  simp only [hs, ne_eq, not_false_eq_true, if_true]
  split_ifs with hD hi
  · -- a data frame from a peer that is not authenticated starts with no verb of its table
    rw [d.head_eq_bytes (show 4 ≤ d.n by omega)] at hD
    have h6 : d.bytes.take 6 = DMRData ++ (d.bytes.drop 4).take 2 := by rw [← hD, ← List.take_add]
    have hdrop : table X env g (g.heap p) d.bytes = some .drop := by
      simp only [table, Datagram.length_bytes, hn, if_false]
      rcases hst : (g.heap p).status <;> cases (g.heap p).incoming <;> simp_all [verb_bytes]
    obtain rfl : row = .drop := Option.some.inj (hrow.symm.trans hdrop)
    exact ⟨rfl, rfl⟩
  · exact realizes_handleIncomingAuth X env g p d hi hs (by omega) row hrow
  · exact realizes_handleOutgoingAuth X env g p d (by simpa using hi) hs (by omega) row hrow

/-- What `handle` does with the two datagrams to an outgoing login that the table leaves out: an
`RPTACK` of 8 or 9 bytes moves the peer to `AuthBegin` and answers with the token of the nonce
`data[6:10]`, whose last bytes are stale, and a 10-byte `MSTACK‖nonce` is dropped. -/
theorem realizes_unlisted_login (h : Homebrew) (remote : Addr) (p : Ptr)
    (hp : h.getPeerByAddr remote = some p) (d : Datagram) (hi : (h.heap p).incoming = false)
    (hs : (h.heap p).status = .authNone) :
    (8 ≤ d.n → d.n < 10 → d.bytes.take 6 = RepeaterACK →
      (Row.move .authBegin (some (RepeaterKey ++ h.id ++
        X.updateToken (h.heap p).authKey (d.slice 6 10)))).Realizes (h.heap p) p
        (handle X env h remote d)) ∧
      (d.n = 10 → d.bytes.take 6 = MasterACK →
        Row.drop.Realizes (h.heap p) p (handle X env h remote d)) := by
  have h4 : ∀ v, d.bytes.take 6 = v → d.bytes.take 4 = v.take 4 := fun v hv => by
    rw [← hv, List.take_take]; rfl
  refine ⟨fun hn _ hack => ?_, fun hn hack => ?_⟩ <;>
  simp only [handle, hp, handlePeer, show ¬ d.n < 8 by omega, if_false, heap_stamp, if_true, hs, hi,
    ne_eq, reduceCtorEq, not_false_eq_true, Bool.false_eq_true, d.head_eq_bytes (show 4 ≤ d.n by omega),
    h4 _ hack, verb_bytes, handleOutgoingAuth, d.head_eq_bytes (show 6 ≤ d.n by omega), hack]
  · simp [Row.Realizes, handleAuth, Peer.addrString, hi, verb_bytes]
  · simp [verb_ne, Row.Realizes]

end Homebrew

/-- **`handle` follows the transition table.**  For every state of the endpoint, every datagram
from the address of a registered peer, and every row the table gives that datagram, `handle`
leaves the peer in the row's status and writes exactly the row's answer to the peer's address —
or, for a data frame, keeps the status and writes data frames only.  A datagram with no row is one
of three: an `RPTACK` of 8 or 9 bytes to an outgoing login, which moves it to `AuthBegin` with the
token of a nonce read partly from stale buffer bytes; a 10-byte `MSTACK` to an outgoing login,
which is dropped; or a frame starting with `RPTC` that is not 302 bytes long from an authenticated
incoming peer, on which `handle` panics. -/
theorem handle_follows_table (X : Ext) (env : Env) (h : Homebrew) (remote : Addr) (p : Ptr)
    (hp : h.getPeerByAddr remote = some p) (d : Datagram) :
    (∀ row, table X env h (h.heap p) d.bytes = some row →
      row.Realizes (h.heap p) p (handle X env h remote d)) ∧
    (table X env h (h.heap p) d.bytes = none →
      ((h.heap p).incoming = false ∧ (h.heap p).status = .authNone ∧
          ((8 ≤ d.n ∧ d.n < 10 ∧ d.bytes.take 6 = RepeaterACK ∧
              (Row.move .authBegin (some (RepeaterKey ++ h.id ++
                X.updateToken (h.heap p).authKey (d.slice 6 10)))).Realizes (h.heap p) p
                (handle X env h remote d)) ∨
            (d.n = 10 ∧ d.bytes.take 6 = MasterACK ∧
              Row.drop.Realizes (h.heap p) p (handle X env h remote d)))) ∨
        ((h.heap p).incoming = true ∧ (h.heap p).status = .authDone ∧ 8 ≤ d.n ∧
          d.bytes.take 4 = RepeaterConfig ∧ d.n ≠ 302 ∧ (handle X env h remote d).ret = .panic)) := by
  refine ⟨fun row hrow => ?_, fun hnone => ?_⟩
  · simp only [handle, hp]
    exact realizes_handlePeer X env h p d row hrow
  have hlogin := realizes_unlisted_login X env h remote p hp d
  obtain ⟨h8, ⟨hi, hs, ⟨hn, hack⟩ | ⟨hn, hack⟩⟩ | ⟨hi, hs, hc, hn⟩⟩ := table_eq_none hnone <;>
    rw [Datagram.length_bytes] at h8 hn
  · exact .inl ⟨hi, hs, .inl ⟨h8, hn, hack, (hlogin hi hs).1 h8 hn hack⟩⟩
  · exact .inl ⟨hi, hs, .inr ⟨hn, hack, (hlogin hi hs).2 hn hack⟩⟩
  · -- the configuration branch finds no record to read
    refine .inr ⟨hi, hs, h8, hc, hn, (handle_ret_panic_iff X env h remote d).2 (.inr ⟨p, hp, h8, hs, hi, ?_, hn⟩)⟩
    rwa [d.head_eq_bytes (by omega)]

/-- The host linked an incoming peer at `A` that is in `AuthBegin` and holds the token
`5 5 … 5`. -/
def keyAwaited : Homebrew :=
  (link sampleEnv ((Homebrew.new sampleConfig).alloc
    { loginPeer "A" 1 with status := .authBegin, token := List.replicate 32 5 }).1 0).h

/-- The matching `RPTK` selects the row that authenticates the peer and acknowledges with our
id, and `handle` follows it. -/
theorem handle_follows_table_on_key :
    (keyAwaited.getPeerByAddr "A" = some 0 ∧
      table sampleExt sampleEnv keyAwaited (keyAwaited.heap 0)
        (Datagram.fresh.read (RepeaterKey ++ packRepeaterID 1 ++ List.replicate 32 5)).bytes =
        some (.move .authDone (some (RepeaterACK ++ packRepeaterID 1)))) ∧
      (Row.move .authDone (some (RepeaterACK ++ packRepeaterID 1))).Realizes (keyAwaited.heap 0) 0
        (handle sampleExt sampleEnv keyAwaited "A"
          (Datagram.fresh.read (RepeaterKey ++ packRepeaterID 1 ++ List.replicate 32 5))) :=
  ⟨⟨by decide, by decide⟩, (handle_follows_table _ _ _ _ _ (by decide) _).1 _ (by decide)⟩

/-- The host linked an outgoing peer at `M` that has completed its login. -/
def loggedIn : Homebrew :=
  (link sampleEnv ((Homebrew.new sampleConfig).alloc
    { loginPeer "M" 1 with incoming := false, status := .authDone }).1 0).h

/-- `RPTACK` with our id, 10 bytes, to an authenticated outgoing peer: a datagram with no row of
the authenticated state but `MSTACK‖id`, which `handle` answers with a ping all the same. -/
theorem handle_pings_on_repeaterACK :
    (handle sampleExt sampleEnv loggedIn "M"
      (Datagram.fresh.read (RepeaterACK ++ packRepeaterID 1))).sent =
      [("M", MasterPing ++ packRepeaterID 1)] := by
  decide

end GoDmr
