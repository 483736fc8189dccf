/-
**How often an outgoing peer logs in and pings.**

An outgoing peer sends the login request `RPTL` from `handleAuth` in `AuthNone`: once when the
host links it, and then only when the keepalive tick restarts the login — after `AuthTimeout` in
`AuthFailed`, or, in `AuthDone`, after `PingTimeout` without a pong.  It sends the keepalive
`RPTPING` only from the tick, `PingInterval` after its last ping.  This module proves that these
timeouts space out the requests written to the peer's address over every run: any two `RPTL`s
are more than `AuthTimeout` apart, and any two `RPTPING`s more than `PingInterval`, however the
master answers, refuses or stays silent, and whatever else the registry holds.  Incoming peers
write neither request, and every other outgoing peer writes them to its own address only.  The
restart after a lost pong is the delicate case; it is spaced because a peer authenticates only
after its last `RPTL`, and `PingTimeout` is `AuthTimeout`.

Main definitions:

* `GoDmr.IsLogin`, `GoDmr.IsPing`, `GoDmr.sentTo` — a write is an `RPTL`, an `RPTPING`, and is
  to a given address;
* `GoDmr.Sound`, `GoDmr.Timed` — the timers of one peer object are consistent, and what one
  call at time `now` may do to them and write to an address;
* `GoDmr.Aside` — what a call on another outgoing peer may do;
* `GoDmr.Spaced` — the invariant of a run;
* `GoDmr.writeTimes` — when each write of a kind was made in a run.

Main results:

* `GoDmr.Homebrew.timed_keepalivePeer`, `GoDmr.Homebrew.timed_handlePeer_self` — **one call**:
  the tick and a datagram keep the timers of a peer as `Timed` says;
* `GoDmr.Homebrew.aside_keepalivePeer`, `GoDmr.Homebrew.aside_handlePeer_of_outgoing` — the
  calls on another outgoing peer stay aside;
* `GoDmr.timed_step` — every tick and datagram keeps the timers of the peer;
* `GoDmr.addrConsistent_run` — every run keeps each peer of the `Peer` map under its own address;
* `GoDmr.spaced_run` — every such run after the link of an outgoing peer keeps the invariant;
* `GoDmr.logins_and_pings_spaced` — **the spacing of `RPTL` and `RPTPING`**, from any registry a
  run leads to.
-/

import GoDmr.Challenge

set_option relaxedAutoImplicit false
set_option autoImplicit false

namespace GoDmr

open Homebrew

/-! ### The writes counted -/

/-- A write of the login request `RPTL`. -/
def IsLogin (x : Addr × List UInt8) : Bool := x.2.take 4 == RepeaterLogin

/-- A write of the keepalive `RPTPING`. -/
def IsPing (x : Addr × List UInt8) : Bool := x.2.take 7 == RepeaterPing

theorem isLogin_verb (a : Addr) {v : List UInt8} (hv : 4 ≤ v.length) (l : List UInt8) :
    IsLogin (a, v ++ l) = (v.take 4 == RepeaterLogin) := by
  rw [IsLogin, List.take_append_of_le_length hv]

theorem isPing_verb (a : Addr) {v : List UInt8} (hv : 7 ≤ v.length) (l : List UInt8) :
    IsPing (a, v ++ l) = (v.take 7 == RepeaterPing) := by
  rw [IsPing, List.take_append_of_le_length hv]

/-- A write whose first four bytes are not those of `RPTPING` is no keepalive. -/
theorem isPing_of_take_four {x : Addr × List UInt8} (h : x.2.take 4 ≠ RepeaterPing.take 4) :
    IsPing x = false := by
  simp only [IsPing, beq_eq_false_iff_ne]
  rintro he
  exact h (by rw [← he, List.take_take]; rfl)

/-- No write of `sent` is an `RPTL` or an `RPTPING`. -/
def Quiet (sent : List (Addr × List UInt8)) : Prop :=
  ∀ x ∈ sent, IsLogin x = false ∧ IsPing x = false

theorem Quiet.nil : Quiet [] := fun _ hx => absurd hx (List.not_mem_nil _)

theorem Quiet.countP_login {s : List (Addr × List UInt8)} (hs : Quiet s) : s.countP IsLogin = 0 :=
  List.countP_eq_zero.2 fun x hx => by simp [(hs x hx).1]

theorem Quiet.countP_ping {s : List (Addr × List UInt8)} (hs : Quiet s) : s.countP IsPing = 0 :=
  List.countP_eq_zero.2 fun x hx => by simp [(hs x hx).2]

/-- A message whose first four bytes are neither `RPTL` nor those of `RPTPING`. -/
theorem Quiet.single {a : Addr} {m : List UInt8} (hl : m.take 4 ≠ RepeaterLogin)
    (hp : m.take 4 ≠ RepeaterPing.take 4) : Quiet [(a, m)] := by
  simp only [Quiet, List.mem_singleton, forall_eq, IsLogin, beq_eq_false_iff_ne]
  exact ⟨hl, isPing_of_take_four hp⟩

/-- A message that starts with a verb other than `RPTL` and `RPTPING` is neither. -/
theorem Quiet.verb (a : Addr) {v : List UInt8}
    (hv : 4 ≤ v.length ∧ v.take 4 ≠ RepeaterLogin ∧
      (v.take 4 ≠ RepeaterPing.take 4 ∨ 7 ≤ v.length ∧ v.take 7 ≠ RepeaterPing))
    (l : List UInt8) : Quiet [(a, v ++ l)] := by
  simp only [Quiet, List.mem_singleton, forall_eq, isLogin_verb a hv.1, beq_eq_false_iff_ne]
  refine ⟨hv.2.1, ?_⟩
  rcases hv.2.2 with hp | ⟨h7, hp⟩
  · exact isPing_of_take_four (by rwa [List.take_append_of_le_length hv.1])
  · simpa [isPing_verb a h7] using hp

/-- Every write of `sent` is the same data frame. -/
theorem Quiet.of_data {sent : List (Addr × List UInt8)} {data : List UInt8}
    (hd : data.take 4 = DMRData) (hs : ∀ x ∈ sent, x.2 = data) : Quiet sent := fun x hx =>
  Quiet.single (a := x.1) (by rw [hs x hx, hd]; decide) (by rw [hs x hx, hd]; decide) x
    (List.mem_singleton.2 rfl)

/-- A write to `a` that `pred` counts. -/
def sentTo (a : Addr) (pred : Addr × List UInt8 → Bool) (x : Addr × List UInt8) : Bool :=
  x.1 == a && pred x

theorem countP_sentTo_le (a : Addr) (pred : Addr × List UInt8 → Bool)
    (s : List (Addr × List UInt8)) : s.countP (sentTo a pred) ≤ s.countP pred :=
  List.countP_mono_left fun x _ hx => by
    simp only [sentTo, Bool.and_eq_true] at hx
    exact hx.2

theorem countP_sentTo_self (a : Addr) (pred : Addr × List UInt8 → Bool) (v : List UInt8) :
    [(a, v)].countP (sentTo a pred) = [(a, v)].countP pred := by
  simp only [List.countP_cons, List.countP_nil, sentTo, beq_self_eq_true, Bool.true_and]

/-- No write of `sent` to `a` is an `RPTL` or an `RPTPING`. -/
def QuietAt (a : Addr) (sent : List (Addr × List UInt8)) : Prop :=
  ∀ x ∈ sent, x.1 = a → IsLogin x = false ∧ IsPing x = false

theorem Quiet.quietAt {s : List (Addr × List UInt8)} (hs : Quiet s) (a : Addr) : QuietAt a s :=
  fun x hx _ => hs x hx

namespace QuietAt

variable {a : Addr} {s t : List (Addr × List UInt8)}

theorem nil : QuietAt a [] := Quiet.nil.quietAt a

theorem append (hs : QuietAt a s) (ht : QuietAt a t) : QuietAt a (s ++ t) := fun x hx =>
  (List.mem_append.1 hx).elim (hs x) (ht x)

theorem countP_login (hs : QuietAt a s) : s.countP (sentTo a IsLogin) = 0 :=
  List.countP_eq_zero.2 fun x hx hc => by
    simp only [sentTo, Bool.and_eq_true, beq_iff_eq] at hc
    simp [(hs x hx hc.1).1] at hc

theorem countP_ping (hs : QuietAt a s) : s.countP (sentTo a IsPing) = 0 :=
  List.countP_eq_zero.2 fun x hx hc => by
    simp only [sentTo, Bool.and_eq_true, beq_iff_eq] at hc
    simp [(hs x hx hc.1).2] at hc

end QuietAt

/-! ### The timers of a peer -/

/-- What the login and the keepalive of a peer read and set: its status, and when it last sent
`RPTL`, last got a pong and last pinged. -/
def Peer.timers (q : Peer) : AuthStatus × ℕ × ℕ × ℕ :=
  (q.status, q.last.authSent, q.last.pongReceived, q.last.pingSent)

/-- The timers of a peer at time `now`: the last `RPTL` and the last ping are not in the future,
and an authenticated peer got its last pong no earlier than its last `RPTL`. -/
structure Sound (now : ℕ) (q : Peer) : Prop where
  authSent : q.last.authSent ≤ now
  pingSent : q.last.pingSent ≤ now
  done : q.status = .authDone → q.last.authSent ≤ q.last.pongReceived

theorem Sound.mono {t now : ℕ} {q : Peer} (hs : Sound t q) (hle : t ≤ now) : Sound now q :=
  ⟨hs.authSent.trans hle, hs.pingSent.trans hle, hs.done⟩

theorem Sound.of_timers {now : ℕ} {q q' : Peer} (ht : q'.timers = q.timers) (hs : Sound now q) :
    Sound now q' := by
  simp only [Peer.timers, Prod.mk.injEq] at ht
  obtain ⟨hst, ha, hpo, hpi⟩ := ht
  exact ⟨ha ▸ hs.authSent, hpi ▸ hs.pingSent, fun hd => by rw [ha, hpo]; exact hs.done (hst ▸ hd)⟩

/-- What a call at time `now` may do to one timer stamped at each request of a kind, spaced by
`gap`, while writing `n` such requests: none, the timer kept or moved to `now`; or one, more than
`gap` after the timer, which it stamps. -/
def Gap (gap now n last last' : ℕ) : Prop :=
  n = 0 ∧ (last' = last ∨ last' = now) ∨ n = 1 ∧ last + gap < now ∧ last' = now

theorem Gap.trans {gap now n₁ n₂ a b c : ℕ} (h₁ : Gap gap now n₁ a b) (h₂ : Gap gap now n₂ b c) :
    Gap gap now (n₁ + n₂) a c := by
  unfold Gap at *; omega

/-- A call that stamps the timer now, more than `gap` after it, and writes at most one request. -/
theorem Gap.stamp {gap now n last last' : ℕ} (hn : n ≤ 1) (hgap : last + gap < now)
    (hl : last' = now) : Gap gap now n last last' := by
  unfold Gap; omega

/-- What one call at time `now` did to the timers of the object `p`, writing `sent`, counting the
writes to the address `a`: from sound timers it leaves sound ones, and it wrote to `a` at most one
`RPTL`, more than `AuthTimeout` after the last, and at most one `RPTPING`, more than
`PingInterval` after the last ping. -/
def Timed (a : Addr) (now : ℕ) (p : Ptr) (h h' : Homebrew) (sent : List (Addr × List UInt8)) :
    Prop :=
  Sound now (h.heap p) → Sound now (h'.heap p) ∧
    Gap AuthTimeout now (sent.countP (sentTo a IsLogin)) (h.heap p).last.authSent
      (h'.heap p).last.authSent ∧
    Gap PingInterval now (sent.countP (sentTo a IsPing)) (h.heap p).last.pingSent
      (h'.heap p).last.pingSent

namespace Timed

variable {a : Addr} {now : ℕ} {p : Ptr} {h h₁ h₂ : Homebrew} {s₁ s₂ : List (Addr × List UInt8)}

theorem trans (t₁ : Timed a now p h h₁ s₁) (t₂ : Timed a now p h₁ h₂ s₂) :
    Timed a now p h h₂ (s₁ ++ s₂) :=
  fun hs =>
    let ⟨hs₁, hl₁, hp₁⟩ := t₁ hs
    let ⟨hs₂, hl₂, hp₂⟩ := t₂ hs₁
    ⟨hs₂, by simpa only [List.countP_append] using hl₁.trans hl₂,
      by simpa only [List.countP_append] using hp₁.trans hp₂⟩

/-- A call that writes nothing counted, keeps the time of the last `RPTL`, keeps the time of the
last ping or moves it to `now`, and keeps the timers sound. -/
theorem quiet (hq : QuietAt a s₁) (ha : (h₁.heap p).last.authSent = (h.heap p).last.authSent)
    (hp : (h₁.heap p).last.pingSent = (h.heap p).last.pingSent ∨ (h₁.heap p).last.pingSent = now)
    (hs : Sound now (h.heap p) → Sound now (h₁.heap p)) : Timed a now p h h₁ s₁ :=
  fun hs₀ => ⟨hs hs₀, .inl ⟨hq.countP_login, .inl ha⟩, .inl ⟨hq.countP_ping, hp⟩⟩

theorem of_timers (ht : (h₁.heap p).timers = (h.heap p).timers) (hq : QuietAt a s₁) :
    Timed a now p h h₁ s₁ := by
  have ht' := ht
  simp only [Peer.timers, Prod.mk.injEq] at ht'
  exact quiet hq ht'.2.1 (.inl ht'.2.2.2) (Sound.of_timers ht)

theorem refl (now : ℕ) (p : Ptr) (h : Homebrew) : Timed a now p h h [] := of_timers rfl .nil

/-- A change of status away from `AuthDone` that keeps the times. -/
theorem pre (t₁ : Timed a now p h h₁ []) (t₂ : Timed a now p h₁ h₂ s₂) : Timed a now p h h₂ s₂ := by
  simpa using t₁.trans t₂

theorem status (hst : (h₁.heap p).status ≠ .authDone)
    (ha : (h₁.heap p).last.authSent = (h.heap p).last.authSent)
    (hp : (h₁.heap p).last.pingSent = (h.heap p).last.pingSent) : Timed a now p h h₁ [] :=
  quiet .nil ha (.inl hp) fun hs => ⟨ha ▸ hs.authSent, hp ▸ hs.pingSent, fun hd => absurd hd hst⟩

end Timed

/-! ### Calls that leave the timers of other objects alone -/

/-- The call `o` from `h` changes the timers of the objects of `S` only, and writes no `RPTL` and
no `RPTPING`. -/
def Silent (S : Ptr → Prop) (h : Homebrew) (o : Out) : Prop :=
  (∀ r, ¬ S r → (o.h.heap r).timers = (h.heap r).timers) ∧ Quiet o.sent

namespace Silent

variable {S : Ptr → Prop} {h g : Homebrew} {o : Out}

theorem nil (S : Ptr → Prop) (h : Homebrew) (ret : Ret) : Silent S h ⟨h, [], ret⟩ :=
  ⟨fun _ _ => rfl, .nil⟩

theorem pre (hg : ∀ r, ¬ S r → (g.heap r).timers = (h.heap r).timers) (ho : Silent S g o) :
    Silent S h o :=
  ⟨fun r hr => (ho.1 r hr).trans (hg r hr), ho.2⟩

/-- Away from `S`, a silent call is timed for every address and clock. -/
theorem timed (ho : Silent S h o) {p : Ptr} (hp : ¬ S p) {a : Addr} (now : ℕ) :
    Timed a now p h o.h o.sent :=
  .of_timers (ho.1 p hp) (ho.2.quietAt a)

end Silent

/-- The call `o` from `h` changes the timers of the object `r` only, and writes its `RPTL`s and
`RPTPING`s to the address of `r` only: what a call on another outgoing peer may do. -/
def Aside (r : Ptr) (h : Homebrew) (o : Out) : Prop :=
  (∀ q, q ≠ r → (o.h.heap q).timers = (h.heap q).timers) ∧
    ∀ x ∈ o.sent, x.1 = (h.heap r).addrString ∨ IsLogin x = false ∧ IsPing x = false

namespace Aside

variable {r : Ptr} {h g : Homebrew} {o : Out}

theorem nil (r : Ptr) (h : Homebrew) (ret : Ret) : Aside r h ⟨h, [], ret⟩ :=
  ⟨fun _ _ => rfl, fun _ hx => absurd hx (List.not_mem_nil _)⟩

theorem of_silent (ho : Silent (· = r) h o) : Aside r h o := ⟨ho.1, fun x hx => .inr (ho.2 x hx)⟩

/-- A call after a change of `r` alone that keeps its address. -/
theorem pre (hg : ∀ q, q ≠ r → (g.heap q).timers = (h.heap q).timers)
    (ha : (g.heap r).addrString = (h.heap r).addrString) (ho : Aside r g o) : Aside r h o :=
  ⟨fun q hq => (ho.1 q hq).trans (hg q hq), fun x hx => ha ▸ ho.2 x hx⟩

theorem seq {k : Homebrew → Out} (h₁ : Aside r h o) (h₂ : Aside r o.h (k o.h))
    (ha : (o.h.heap r).addrString = (h.heap r).addrString) : Aside r h (o.seq k) :=
  ⟨fun q hq => (h₂.1 q hq).trans (h₁.1 q hq), fun x hx =>
    (List.mem_append.1 hx).elim (h₁.2 x) fun hx => ha ▸ h₂.2 x hx⟩

theorem quietAt (ho : Aside r h o) {a : Addr} (ha : a ≠ (h.heap r).addrString) :
    QuietAt a o.sent :=
  fun x hx hxa => (ho.2 x hx).resolve_left (hxa ▸ ha)

/-- Away from `r` and its address, a call on `r` is timed for every clock. -/
theorem timed (ho : Aside r h o) {p : Ptr} (hp : p ≠ r) {a : Addr}
    (ha : a ≠ (h.heap r).addrString) (now : ℕ) : Timed a now p h o.h o.sent :=
  .of_timers (ho.1 p hp) (ho.quietAt ha)

end Aside

namespace Homebrew

theorem timers_modify_of_ne (h : Homebrew) {q r : Ptr} (f : Peer → Peer) (hr : ¬ r = q) :
    ((h.modify q f).heap r).timers = (h.heap r).timers := by
  rw [heap_modify_of_ne _ _ hr]

theorem timers_modify (h : Homebrew) (q r : Ptr) {f : Peer → Peer}
    (hf : ∀ x, (f x).timers = x.timers) : ((h.modify q f).heap r).timers = (h.heap r).timers := by
  by_cases hr : r = q
  · subst hr; simp [hf]
  · exact timers_modify_of_ne h f hr

/-- Stamping a time the login does not read keeps every timer. -/
theorem timers_stamp (h : Homebrew) (q r : Ptr) {f : Last → Last}
    (hf : ∀ l, (f l).authSent = l.authSent ∧ (f l).pongReceived = l.pongReceived ∧
      (f l).pingSent = l.pingSent) : ((h.stamp q f).heap r).timers = (h.heap r).timers :=
  timers_modify h q r fun x => by simp [Peer.timers, hf]

variable (X : Ext) (env : Env) {a : Addr}

@[simp] theorem timers_writeToPeer (h : Homebrew) (q r : Ptr) (b : List UInt8) :
    ((writeToPeer env h q b).h.heap r).timers = (h.heap r).timers :=
  timers_stamp h q r (f := fun l => { l with packetSent := env.now }) fun _ => ⟨rfl, rfl, rfl⟩

theorem silent_writeToPeer (S : Ptr → Prop) (h : Homebrew) (q : Ptr) {v : List UInt8}
    (hv : 4 ≤ v.length ∧ v.take 4 ≠ RepeaterLogin ∧
      (v.take 4 ≠ RepeaterPing.take 4 ∨ 7 ≤ v.length ∧ v.take 7 ≠ RepeaterPing))
    (l : List UInt8) : Silent S h (writeToPeer env h q (v ++ l)) :=
  ⟨fun r _ => timers_writeToPeer env h q r _, Quiet.verb _ hv l⟩

theorem timers_writeEach (pick : Homebrew → Ptr → Bool) (data : List UInt8) :
    ∀ qs h r, ((writeEach env pick data qs h).h.heap r).timers = (h.heap r).timers
  | [], _, _ => rfl
  | q :: qs, h, r => by
    unfold writeEach Out.bind
    split_ifs
    · rw [timers_writeEach pick data qs, timers_writeToPeer]
    · exact timers_writeToPeer env h q r data
    · exact timers_writeEach pick data qs h r

/-- The relay writes data frames and changes no timer. -/
theorem silent_handlePacket (S : Ptr → Prop) (h : Homebrew) (p : Packet) (peer : Ptr) :
    Silent S h (handlePacket X env h p peer) := by
  unfold handlePacket
  rcases hq : (h.heap peer).packetReceived with _ | f
  · rcases hf : h.pf with _ | f
    · simp only [hq, hf]
      split_ifs
      · refine ⟨fun r _ => ?_, .of_data (take_four_buildData _ _ _) (writeEach_sent_data env _ _ _ _)⟩
        refine (timers_writeEach env _ _ _ _ r).trans (timers_modify _ _ _ ?_)
        exact fun _ => rfl
      · exact .nil S _ _
    · simp only [hq, hf]; exact .nil S _ _
  · simp only [hq]; exact .nil S _ _

theorem silent_dispatch (S : Ptr → Prop) (h : Homebrew) (peer : Ptr) (d : Datagram) :
    Silent S h (dispatch X env h peer d) := by
  unfold dispatch; split
  exacts [.nil S h _, silent_handlePacket X env S h _ peer]

section Branches

variable (h : Homebrew) (q : Ptr) (d : Datagram)

theorem silent_handleIncomingAuth : Silent (· = q) h (handleIncomingAuth X env h q d) := by
  have hm (f : Peer → Peer) : ∀ r, ¬ r = q → ((h.modify q f).heap r).timers = (h.heap r).timers :=
    fun r hr => timers_modify_of_ne h f hr
  unfold handleIncomingAuth
  split
  · split_ifs
    · split
      · exact silent_writeToPeer env _ h q (by decide) _
      · exact .pre (hm _) (silent_writeToPeer env _ _ q (by decide) _)
    · exact .nil _ h _
  · split_ifs
    · exact .pre (hm _) (silent_writeToPeer env _ _ q (by decide) _)
    · exact .pre (hm _) (silent_writeToPeer env _ _ q (by decide) _)
    · refine .pre (fun r hr => ?_) (silent_writeToPeer env _ _ q (by decide) _)
      exact (timers_modify_of_ne _ _ hr).trans (hm _ r hr)
    · exact .nil _ h _
  · exact .nil _ h _

theorem silent_handleIncomingDone : Silent (· = q) h (handleIncomingDone X env h q d) := by
  have hm (f : Peer → Peer) : ∀ r, ¬ r = q → ((h.modify q f).heap r).timers = (h.heap r).timers :=
    fun r hr => timers_modify_of_ne h f hr
  unfold handleIncomingDone pong
  split_ifs
  · exact silent_dispatch X env _ h q d
  · exact .nil _ h _
  · exact .pre (hm _) (silent_writeToPeer env _ _ q (by decide) _)
  · exact .pre (hm _) (silent_writeToPeer env _ _ q (by decide) _)
  · split
    · exact .pre (hm _) (.nil _ _ _)
    · exact .pre (hm _) (silent_writeToPeer env _ _ q (by decide) _)
  · exact .nil _ h _

end Branches

/-- A datagram of an incoming peer changes the timers of that peer only, and is answered with
neither an `RPTL` nor an `RPTPING`. -/
theorem silent_handlePeer_of_incoming (h : Homebrew) (q : Ptr) (d : Datagram)
    (hq : (h.heap q).incoming = true) : Silent (· = q) h (handlePeer X env h (some q) d) := by
  have hs : ∀ r, ¬ r = q → ((h.stamp q fun l => { l with packetReceived := env.now }).heap r).timers =
      (h.heap r).timers := fun r _ => timers_stamp h q r fun _ => ⟨rfl, rfl, rfl⟩
  unfold handlePeer
  by_cases hn : d.n < 8
  · simp only [hn, if_true]; exact .nil _ h _
  simp only [hn, if_false]
  split_ifs with _ _ hi hi
  · exact .pre hs (.nil _ _ _)
  · exact .pre hs (silent_handleIncomingAuth X env _ q d)
  · simp [hq] at hi
  · exact .pre hs (silent_handleIncomingDone X env _ q d)
  · simp [hq] at hi

/-! ### The calls of an outgoing peer -/

/-- An `RPTL` is a login request and no keepalive. -/
theorem countP_login (a : Addr) (l : List UInt8) :
    [(a, RepeaterLogin ++ l)].countP IsLogin = 1 ∧ [(a, RepeaterLogin ++ l)].countP IsPing = 0 := by
  have h₁ : IsLogin (a, RepeaterLogin ++ l) = true := by
    rw [isLogin_verb a (v := RepeaterLogin) (by decide)]; decide
  have h₂ : IsPing (a, RepeaterLogin ++ l) = false :=
    isPing_of_take_four (by rw [List.take_append_of_le_length (by decide)]; decide)
  simp [h₁, h₂]

/-- An `RPTPING` is a keepalive and no login request. -/
theorem countP_ping (a : Addr) (l : List UInt8) :
    [(a, RepeaterPing ++ l)].countP IsLogin = 0 ∧ [(a, RepeaterPing ++ l)].countP IsPing = 1 := by
  have h₁ : IsLogin (a, RepeaterPing ++ l) = false := by
    rw [isLogin_verb a (v := RepeaterPing) (by decide)]; decide
  have h₂ : IsPing (a, RepeaterPing ++ l) = true := by
    rw [isPing_verb a (v := RepeaterPing) (by decide)]; decide
  simp [h₁, h₂]

/-- An `RPTL` to `b` is at most one login request to `a`, and no keepalive. -/
theorem countP_sentTo_login (a b : Addr) (l : List UInt8) :
    [(b, RepeaterLogin ++ l)].countP (sentTo a IsLogin) ≤ 1 ∧
      [(b, RepeaterLogin ++ l)].countP (sentTo a IsPing) = 0 :=
  ⟨(countP_login b l).1 ▸ countP_sentTo_le a _ _,
    Nat.eq_zero_of_le_zero ((countP_login b l).2 ▸ countP_sentTo_le a _ _)⟩

/-- An `RPTPING` to `b` is no login request to `a`, and at most one keepalive. -/
theorem countP_sentTo_ping (a b : Addr) (l : List UInt8) :
    [(b, RepeaterPing ++ l)].countP (sentTo a IsLogin) = 0 ∧
      [(b, RepeaterPing ++ l)].countP (sentTo a IsPing) ≤ 1 :=
  ⟨Nat.eq_zero_of_le_zero ((countP_ping b l).1 ▸ countP_sentTo_le a _ _),
    (countP_ping b l).2 ▸ countP_sentTo_le a _ _⟩

/-- `handleAuth` of an outgoing peer in `AuthNone` writes `RPTL` with our id and stamps the time. -/
theorem handleAuth_of_authNone (g : Homebrew) (p : Ptr) (hi : (g.heap p).incoming = false)
    (hs : (g.heap p).status = .authNone) :
    (handleAuth env g p).sent = [((g.heap p).addrString, RepeaterLogin ++ g.id)] ∧
      ((handleAuth env g p).h.heap p).status = .authNone ∧
      ((handleAuth env g p).h.heap p).last.authSent = env.now ∧
      ((handleAuth env g p).h.heap p).last.pingSent = (g.heap p).last.pingSent := by
  simp [handleAuth, hi, hs, Peer.addrString]

/-- **`handleAuth`** writes an `RPTL` only in `AuthNone`, where the caller spaces it. -/
theorem timed_handleAuth (g : Homebrew) (p : Ptr)
    (hgap : (g.heap p).status = .authNone → (g.heap p).incoming = false →
      (g.heap p).last.authSent + AuthTimeout < env.now) :
    Timed a env.now p g (handleAuth env g p).h (handleAuth env g p).sent := by
  by_cases hi : (g.heap p).incoming = true
  · rw [sent_handleAuth_of_incoming env g p hi]; exact .refl _ _ _
  have hi' : (g.heap p).incoming = false := by simpa using hi
  by_cases hn : (g.heap p).status = .authNone
  · obtain ⟨hsent, hst, ha, hp⟩ := handleAuth_of_authNone env g p hi' hn
    obtain ⟨hl, hg⟩ := countP_sentTo_login a (g.heap p).addrString g.id
    intro hs
    refine ⟨⟨ha.le, hp ▸ hs.pingSent, fun hd => absurd (hst.symm.trans hd) (by decide)⟩,
      Gap.stamp (by rw [hsent]; exact hl) (hgap hn hi') ha, .inl ⟨by rw [hsent, hg], .inl hp⟩⟩
  have hst (r : Ptr) : ((g.stamp p fun l => { l with packetReceived := env.now }).heap r).timers =
      (g.heap r).timers := timers_stamp g p r fun _ => ⟨rfl, rfl, rfl⟩
  unfold handleAuth
  rw [if_neg hi]
  dsimp only
  split
  · rename_i heq; simp at heq; exact absurd heq hn
  · rw [List.append_assoc]
    exact (Silent.pre (fun r _ => hst r)
      (silent_writeToPeer env (fun _ => False) _ p (by decide) _)).timed not_false _
  · exact .of_timers (hst p) .nil

theorem timed_refuseLogin (g : Homebrew) (p : Ptr) (now : ℕ) :
    Timed a now p g (refuseLogin g p).h (refuseLogin g p).sent := by
  rw [refuseLogin_sent]; exact .status (by simp) (by simp) (by simp)

/-- Authentication stamps the last pong and the last ping now, after the last `RPTL`. -/
theorem timed_acceptLogin (g : Homebrew) (p : Ptr) :
    Timed a env.now p g (acceptLogin X env g p).h (acceptLogin X env g p).sent := by
  have hq : Quiet (acceptLogin X env g p).sent := by
    simp only [acceptLogin, writeToPeer_sent]
    exact .single (by rw [take_four_buildConfigData]; decide)
      (by rw [take_four_buildConfigData]; decide)
  refine .quiet (hq.quietAt a) (by simp [acceptLogin]) (.inr (by simp [acceptLogin])) fun hs => ?_
  exact ⟨by simpa [acceptLogin] using hs.authSent, by simp [acceptLogin],
    fun _ => by simpa [acceptLogin] using hs.authSent⟩

theorem timed_ackPing (g : Homebrew) (p : Ptr) (d : Datagram) :
    Timed a env.now p g (ackPing X env g p d).h (ackPing X env g p d).sent := by
  unfold ackPing
  split_ifs
  · exact .refl _ _ _
  · refine .quiet ((Quiet.verb _ (v := MasterPing) (by decide) _).quietAt a) (by simp)
      (.inr (by simp)) fun hs => ?_
    exact ⟨by simpa using hs.authSent, by simp, by simpa using hs.done⟩

theorem timed_pongReceived (g : Homebrew) (p : Ptr) (d : Datagram) :
    Timed a env.now p g (pongReceived X env g p d).h (pongReceived X env g p d).sent := by
  unfold pongReceived
  split_ifs
  · exact .refl _ _ _
  · refine .quiet .nil (by simp) (.inl (by simp)) fun hs => ?_
    exact ⟨by simpa using hs.authSent, by simpa using hs.pingSent, fun _ => by simpa using hs.authSent⟩

theorem timed_handleOutgoingAuth (g : Homebrew) (p : Ptr) (d : Datagram) :
    Timed a env.now p g (handleOutgoingAuth X env g p d).h (handleOutgoingAuth X env g p d).sent := by
  unfold handleOutgoingAuth
  split
  · split_ifs
    · exact .pre (.status (by simp) (by simp) (by simp))
        (timed_handleAuth env _ p fun hn => by simp at hn)
    · exact timed_refuseLogin g p _
    · exact .refl _ _ _
  · split_ifs
    · exact timed_acceptLogin X env g p
    · exact timed_refuseLogin g p _
    · exact timed_acceptLogin X env g p
    · exact .refl _ _ _
  · exact .refl _ _ _

theorem timed_handleOutgoingDone (g : Homebrew) (p : Ptr) (d : Datagram) :
    Timed a env.now p g (handleOutgoingDone X env g p d).h (handleOutgoingDone X env g p d).sent := by
  unfold handleOutgoingDone
  split_ifs
  · exact (silent_dispatch X env (fun _ => False) g p d).timed not_false _
  · exact timed_ackPing X env g p d
  · exact .refl _ _ _
  · exact .pre (.status (by simp) (by simp) (by simp))
      (timed_handleAuth env _ p fun hn => by simp at hn)
  · exact timed_ackPing X env g p d
  · exact timed_pongReceived X env g p d
  · exact timed_pongReceived X env g p d
  · exact .refl _ _ _

/-- **A datagram to an outgoing peer** keeps its timers as `Timed` says. -/
theorem timed_handlePeer_self (h : Homebrew) (p : Ptr) (d : Datagram)
    (hp : (h.heap p).incoming = false) :
    Timed a env.now p h (handlePeer X env h (some p) d).h (handlePeer X env h (some p) d).sent := by
  have hs : Timed a env.now p h (h.stamp p fun l => { l with packetReceived := env.now }) [] :=
    .of_timers (timers_stamp h p p fun _ => ⟨rfl, rfl, rfl⟩) .nil
  unfold handlePeer
  by_cases hn : d.n < 8
  · simp only [hn, if_true]; exact .refl _ _ _
  simp only [hn, if_false]
  split_ifs with _ _ hi hi
  · exact hs
  · simp [hp] at hi
  · exact hs.pre (timed_handleOutgoingAuth X env _ p d)
  · simp [hp] at hi
  · exact hs.pre (timed_handleOutgoingDone X env _ p d)

/-! ### The keepalive tick -/

/-- **A tick** keeps the timers of a peer as `Timed` says: it restarts the login of an outgoing
peer more than `AuthTimeout` after the last `RPTL` — in `AuthFailed` by its own test, in
`AuthDone` because the last pong came after the last `RPTL` — and pings more than `PingInterval`
after the last ping. -/
theorem timed_keepalivePeer (h : Homebrew) (p : Ptr) :
    Timed a env.now p h (keepalivePeer env h p).h (keepalivePeer env h p).sent := by
  unfold keepalivePeer
  dsimp only
  split
  · exact .refl _ _ _
  split
  · -- `AuthFailed`: the login restarts `AuthTimeout` after the last `RPTL`
    split_ifs with hgap
    · exact .pre (.status (by simp) (by simp) (by simp))
        (timed_handleAuth env _ p fun _ _ => by simp only [heap_setStatus, if_true]; omega)
    · exact .refl _ _ _
  · split_ifs; exacts [.status (by simp) (by simp) (by simp), .refl _ _ _]
  · split_ifs; exacts [.status (by simp) (by simp) (by simp), .refl _ _ _]
  -- `AuthDone`: the restart after a lost pong, and the ping
  rename_i hd
  split_ifs with hpong hping
  · intro hs
    have hgap : (h.heap p).last.authSent + AuthTimeout < env.now := by
      have := hs.done hd
      simp only [PingTimeout, AuthTimeout] at hpong ⊢; omega
    simp only [Out.seq_h, Out.seq_sent]
    exact (Timed.pre (.status (by simp) (by simp) (by simp)) (Timed.trans
      ((silent_writeToPeer env (fun _ => False) _ p (by decide) _).timed not_false _)
      (timed_handleAuth env _ p fun _ _ => by simpa using hgap))) hs
  · obtain ⟨hl, hg⟩ := countP_sentTo_ping a ((h.heap p).addrString) h.id
    intro hs
    refine ⟨⟨by simpa using hs.authSent, by simp, by simpa using hs.done⟩,
      .inl ⟨by simpa using hl, .inl (by simp)⟩, Gap.stamp (by simpa using hg) (by omega) (by simp)⟩
  · exact .refl _ _ _

theorem keepalivePeer_of_incoming (h : Homebrew) (p : Ptr) (hp : (h.heap p).incoming = true) :
    keepalivePeer env h p = ⟨h, [], .ok⟩ := by
  simp [keepalivePeer, hp]

theorem Peer.incoming_eq_of_ident {q q' : Peer} (h : q'.ident = q.ident) : q'.incoming = q.incoming :=
  congrArg (fun i => i.2.1) h

theorem heap_handleAuth_of_ne (g : Homebrew) {q r : Ptr} (hr : r ≠ q) :
    (handleAuth env g q).h.heap r = g.heap r := by
  unfold handleAuth
  split_ifs
  · rfl
  · dsimp only; split <;> simp [hr]

/-- Linking a peer changes no other peer object. -/
theorem heap_link_of_ne (g : Homebrew) {q r : Ptr} (hr : r ≠ q) : (link env g q).h.heap r = g.heap r := by
  unfold link
  dsimp only
  split_ifs <;> simp [hr, heap_handleAuth_of_ne env _ hr]

/-! ### The calls of another outgoing peer -/

section Aside

variable (g : Homebrew) (r : Ptr) (d : Datagram)

/-- A change of the fields of `r` other than its address and the timers of other objects. -/
theorem timers_modify_aside {f : Peer → Peer} (hf : (f (g.heap r)).addr = (g.heap r).addr) :
    (∀ q, q ≠ r → ((g.modify r f).heap q).timers = (g.heap q).timers) ∧
      ((g.modify r f).heap r).addrString = (g.heap r).addrString :=
  ⟨fun _ hq => timers_modify_of_ne g f hq, by simp [Peer.addrString, hf]⟩

theorem aside_writeToPeer (v : List UInt8) : Aside r g (writeToPeer env g r v) :=
  ⟨fun q _ => timers_writeToPeer env g r q v, fun x hx => .inl (by simp_all)⟩

theorem aside_handleAuth : Aside r g (handleAuth env g r) := by
  refine ⟨fun q hq => by rw [heap_handleAuth_of_ne env g hq], fun x hx => .inl ?_⟩
  unfold handleAuth at hx
  split_ifs at hx
  · simp at hx
  · dsimp only at hx
    split at hx <;> simp_all [Peer.addrString]

theorem aside_acceptLogin : Aside r g (acceptLogin X env g r) :=
  .pre (fun q hq => by simp [hq]) (by simp [Peer.addrString]) (aside_writeToPeer env _ r _)

theorem aside_refuseLogin : Aside r g (refuseLogin g r) :=
  ⟨fun q hq => by simp [hq], by simp⟩

theorem aside_handleOutgoingAuth : Aside r g (handleOutgoingAuth X env g r d) := by
  unfold handleOutgoingAuth
  split
  · split_ifs
    · obtain ⟨ht, ha⟩ := timers_modify_aside g r (f := fun q =>
        { q with status := .authBegin, token := X.updateToken q.authKey (d.slice 6 10) }) rfl
      exact .pre ht ha (aside_handleAuth env _ r)
    · exact aside_refuseLogin g r
    · exact .nil r g _
  · split_ifs
    exacts [aside_acceptLogin X env g r, aside_refuseLogin g r, aside_acceptLogin X env g r,
      .nil r g _]
  · exact .nil r g _

theorem aside_ackPing : Aside r g (ackPing X env g r d) := by
  unfold ackPing
  split_ifs
  · exact .nil r g _
  · exact .pre (fun q hq => by simp [hq]) (by simp [Peer.addrString]) (aside_writeToPeer env _ r _)

theorem aside_pongReceived : Aside r g (pongReceived X env g r d) := by
  unfold pongReceived
  split_ifs
  · exact .nil r g _
  · exact ⟨fun q hq => by simp [hq], by simp⟩

theorem aside_handleOutgoingDone : Aside r g (handleOutgoingDone X env g r d) := by
  unfold handleOutgoingDone
  split_ifs
  · exact .of_silent (silent_dispatch X env _ g r d)
  · exact aside_ackPing X env g r d
  · exact .nil r g _
  · exact .pre (fun q hq => by simp [hq]) (by simp [Peer.addrString]) (aside_handleAuth env _ r)
  · exact aside_ackPing X env g r d
  · exact aside_pongReceived X env g r d
  · exact aside_pongReceived X env g r d
  · exact .nil r g _

/-- **A datagram of another outgoing peer** changes that peer's timers only, and is answered with
`RPTL`s and `RPTPING`s to that peer's address only. -/
theorem aside_handlePeer_of_outgoing (hr : (g.heap r).incoming = false) :
    Aside r g (handlePeer X env g (some r) d) := by
  unfold handlePeer
  by_cases hn : d.n < 8
  · simp only [hn, if_true]; exact .nil r g _
  simp only [hn, if_false]
  have hst {o : Out} : Aside r (g.stamp r fun l => { l with packetReceived := env.now }) o →
      Aside r g o :=
    .pre (fun q hq => by simp [hq]) (by simp [Peer.addrString])
  split_ifs with _ _ hi hi
  · exact hst (.nil r _ _)
  · simp [hr] at hi
  · exact hst (aside_handleOutgoingAuth X env _ r d)
  · simp [hr] at hi
  · exact hst (aside_handleOutgoingDone X env _ r d)

/-- **A tick of another peer** changes that peer's timers only, and writes `RPTL`s and `RPTPING`s
to that peer's address only. -/
theorem aside_keepalivePeer : Aside r g (keepalivePeer env g r) := by
  have hset (s : AuthStatus) : Aside r (g.setStatus r s) (handleAuth env (g.setStatus r s) r) →
      Aside r g (handleAuth env (g.setStatus r s) r) :=
    .pre (fun q hq => by simp [hq]) (by simp [Peer.addrString])
  unfold keepalivePeer
  dsimp only
  split
  · exact .nil r g _
  split
  · split_ifs
    exacts [hset _ (aside_handleAuth env _ r), .nil r g _]
  · split_ifs
    exacts [⟨fun q hq => by simp [hq], by simp⟩, .nil r g _]
  · split_ifs
    exacts [⟨fun q hq => by simp [hq], by simp⟩, .nil r g _]
  split_ifs
  · refine .seq (.pre (fun q hq => by simp [hq]) (by simp [Peer.addrString])
      (aside_writeToPeer env _ r _)) (aside_handleAuth env _ r) (by simp [Peer.addrString])
  · exact .pre (fun q hq => by simp [hq]) (by simp [Peer.addrString]) (aside_writeToPeer env _ r _)
  · exact .nil r g _

end Aside

/-- A tick keeps the timers of `p` as `Timed` says, counting the writes to `a`, when every other
peer it visits is incoming or at another address; and when `p` is not among them, it writes no
`RPTL` or `RPTPING` to `a`. -/
theorem timed_keepaliveLoop (p : Ptr) (a : Addr) : ∀ (ps : List Ptr) (h : Homebrew),
    (∀ r ∈ ps, r ≠ p → (h.heap r).incoming = true ∨ a ≠ (h.heap r).addrString) →
    Timed a env.now p h (keepaliveLoop env ps h).h (keepaliveLoop env ps h).sent ∧
      (p ∉ ps → QuietAt a (keepaliveLoop env ps h).sent)
  | [], h, _ => ⟨.refl _ _ _, fun _ => .nil⟩
  | r :: ps, h, hps => by
    have ht := touches_keepalivePeer env h r
    obtain ⟨hl, hq⟩ := timed_keepaliveLoop p a ps _ fun r' hr' hne => by
      rw [Peer.incoming_eq_of_ident (ht.ident r'), Peer.addrString_eq_of_ident (ht.ident r')]
      exact hps r' (List.mem_cons_of_mem r hr') hne
    simp only [keepaliveLoop, Out.seq_h, Out.seq_sent]
    by_cases hr : r = p
    · subst hr
      exact ⟨(timed_keepalivePeer env h r).trans hl, fun hn => absurd (List.mem_cons_self _ _) hn⟩
    -- another peer: incoming, so left alone, or outgoing at another address
    have hr' : Timed a env.now p h (keepalivePeer env h r).h (keepalivePeer env h r).sent ∧
        QuietAt a (keepalivePeer env h r).sent := by
      rcases hps r (List.mem_cons_self _ _) hr with hi | ha
      · rw [keepalivePeer_of_incoming env h r hi]; exact ⟨.refl _ _ _, .nil⟩
      · have ho := aside_keepalivePeer env h r
        exact ⟨ho.timed (Ne.symm hr) ha _, ho.quietAt ha⟩
    exact ⟨hr'.1.trans hl,
      fun hn => hr'.2.append (hq fun h' => hn (List.mem_cons_of_mem _ h'))⟩

end Homebrew

/-! ### The registry around the peer -/

/-- The peers of the endpoint around the object `p`, whose requests to the address `a` are
counted: the registry is consistent, `p` is an outgoing peer that was allocated, and every other
registered peer is incoming or at another address. -/
structure Shape (a : Addr) (p : Ptr) (h : Homebrew) : Prop where
  addr : AddrConsistent h
  outgoing : (h.heap p).incoming = false
  others : ∀ b r, h.getPeerByAddr b = some r → r ≠ p →
    (h.heap r).incoming = true ∨ a ≠ (h.heap r).addrString
  fresh : p < h.next

/-- The object `p` is registered at some address. -/
def Registered (p : Ptr) (h : Homebrew) : Prop := ∃ a, h.getPeerByAddr a = some p

/-- The snapshot of `getPeers` holds the registered objects. -/
theorem mem_getPeers {h : Homebrew} {r : Ptr} : r ∈ h.getPeers ↔ Registered r h := by
  simp only [getPeers, List.mem_map, Registered, getPeerByAddr]
  constructor
  · rintro ⟨⟨a, r⟩, hs, rfl⟩; exact ⟨a, AList.mem_lookup_iff.2 hs⟩
  · rintro ⟨a, ha⟩; exact ⟨⟨a, r⟩, AList.mem_lookup_iff.1 ha, rfl⟩

section Touch

variable {S : Ptr → Prop} {a : Addr} {p : Ptr} {h h' : Homebrew}

theorem Shape.touches (hs : Shape a p h) (ht : Touches S h h') : Shape a p h' :=
  ⟨hs.addr.touches ht, (Peer.incoming_eq_of_ident (ht.ident p)).trans hs.outgoing,
    fun b r hr hne => by
      rw [Peer.incoming_eq_of_ident (ht.ident r), Peer.addrString_eq_of_ident (ht.ident r)]
      exact hs.others b r (ht.registry b r hr) hne, ht.next ▸ hs.fresh⟩

theorem Registered.of_touches (ht : Touches S h h') : Registered p h' → Registered p h :=
  fun ⟨a, ha⟩ => ⟨a, ht.registry a p ha⟩

end Touch

/-- Registering an unknown sender keeps the registry around `p`, registers no `p`, and changes
only the new object. -/
theorem Shape.register {a : Addr} {p : Ptr} {h : Homebrew} (hs : Shape a p h) (env : Env)
    (remote : Addr) (i : UInt32) :
    Shape a p (link env (h.alloc (loginPeer remote i)).1 h.next).h ∧
      (Registered p (link env (h.alloc (loginPeer remote i)).1 h.next).h → Registered p h) ∧
      ∀ r, r ≠ h.next → (link env (h.alloc (loginPeer remote i)).1 h.next).h.heap r = h.heap r := by
  obtain ⟨hc₂, hreg⟩ := hs.addr.alloc_link env (loginPeer remote i)
  have hheap (r : Ptr) (hr : r ≠ h.next) :
      (link env (h.alloc (loginPeer remote i)).1 h.next).h.heap r = h.heap r := by
    rw [heap_link_of_ne env _ hr, heap_alloc, if_neg hr]
  have hnext : (link env (h.alloc (loginPeer remote i)).1 h.next).h.next = h.next + 1 := by
    rw [(registers_link env _ _).next]; rfl
  refine ⟨⟨hc₂, by rw [hheap p hs.fresh.ne, hs.outgoing], fun b r hr hne => ?_,
    by rw [hnext]; exact Nat.lt_succ_of_lt hs.fresh⟩, fun ⟨b, hb⟩ => ?_, hheap⟩
  · rcases hreg b r hr with ⟨hrb, hlt⟩ | ⟨rfl, -⟩
    · rw [hheap r hlt.ne]; exact hs.others b r hrb hne
    · exact .inl (link_loginPeer env h remote i).2.2.2.2
  · rcases hreg b p hb with ⟨hpb, -⟩ | ⟨hp, -⟩
    exacts [⟨b, hpb⟩, absurd hp hs.fresh.ne]

namespace Homebrew

variable (X : Ext) (env : Env) {a : Addr}

/-- **A datagram**, from any address, keeps the registry around an outgoing peer `p` and its
timers as `Timed` says, and while `p` is not registered it stays so and nothing counted is
written. -/
theorem timed_handle (h : Homebrew) (p : Ptr) (hs : Shape a p h) (remote : Addr) (d : Datagram) :
    Shape a p (handle X env h remote d).h ∧
      Timed a env.now p h (handle X env h remote d).h (handle X env h remote d).sent ∧
      (¬ Registered p h → ¬ Registered p (handle X env h remote d).h ∧
        QuietAt a (handle X env h remote d).sent) := by
  have hnil : Shape a p h ∧ Timed a env.now p h h [] ∧
      (¬ Registered p h → ¬ Registered p h ∧ QuietAt a []) :=
    ⟨hs, .refl _ _ _, fun hn => ⟨hn, .nil⟩⟩
  unfold handle
  rcases hp₀ : h.getPeerByAddr remote with _ | q
  · simp only
    split_ifs
    · split
      · exact hnil
      · rename_i i _
        obtain ⟨hsent, -, hl₂, -, hi₂⟩ := link_loginPeer env h remote i
        obtain ⟨hs₂, hreg₂, hheap₂⟩ := hs.register env remote i
        simp only [show (h.alloc (loginPeer remote i)).2 = h.next from rfl, Out.seq_h, Out.seq_sent,
          hl₂, hsent, List.nil_append]
        have ht := touches_handlePeer X env (link env (h.alloc (loginPeer remote i)).1 h.next).h h.next d
        have hsil := silent_handlePeer_of_incoming X env _ h.next d hi₂
        refine ⟨hs₂.touches ht, Timed.pre (.of_timers (by rw [hheap₂ p hs.fresh.ne]) .nil)
          (hsil.timed hs.fresh.ne _), fun hn => ⟨fun hr => hn (hreg₂ (hr.of_touches ht)),
            hsil.2.quietAt a⟩⟩
    · exact hnil
  have ht := touches_handlePeer X env h q d
  by_cases hq : q = p
  · subst hq
    exact ⟨hs.touches ht, timed_handlePeer_self X env h q d hs.outgoing,
      fun hn => absurd ⟨remote, hp₀⟩ hn⟩
  -- another peer: incoming, or outgoing at another address
  refine ⟨hs.touches ht, ?_⟩
  cases hi : (h.heap q).incoming
  · have ha := (hs.others remote q hp₀ hq).resolve_left (by simp [hi])
    have ho := aside_handlePeer_of_outgoing X env h q d hi
    exact ⟨ho.timed (Ne.symm hq) ha _, fun hn => ⟨fun hr => hn (hr.of_touches ht), ho.quietAt ha⟩⟩
  · have hsil := silent_handlePeer_of_incoming X env h q d hi
    exact ⟨hsil.timed (Ne.symm hq) _,
      fun hn => ⟨fun hr => hn (hr.of_touches ht), hsil.2.quietAt a⟩⟩

/-- **A tick** keeps the registry around an outgoing peer `p` and its timers as `Timed` says, and
while `p` is not registered it stays so and nothing counted is written. -/
theorem timed_keepalive (h : Homebrew) (p : Ptr) (hs : Shape a p h) :
    Shape a p (keepalive env h).h ∧
      Timed a env.now p h (keepalive env h).h (keepalive env h).sent ∧
      (¬ Registered p h → ¬ Registered p (keepalive env h).h ∧
        QuietAt a (keepalive env h).sent) := by
  have ht := touches_keepaliveLoop env h.getPeers h
  obtain ⟨htm, hq⟩ := timed_keepaliveLoop env p a h.getPeers h fun r hr hne => by
    obtain ⟨b, hb⟩ := mem_getPeers.1 hr
    exact hs.others b r hb hne
  exact ⟨hs.touches ht, htm,
    fun hn => ⟨fun hr => hn (hr.of_touches ht), hq fun hp => hn (mem_getPeers.1 hp)⟩⟩

end Homebrew

/-! ### Runs -/

/-- The clock an operation reads; `Unlink` reads none. -/
def Op.clock : Op → ℕ
  | .recv env _ _ => env.now
  | .tick env => env.now
  | .link env _ => env.now
  | .unlink _ => 0
  | .send env _ => env.now

/-- A keepalive tick or a datagram. -/
def Op.TickOrRecv : Op → Prop
  | .recv .. => True
  | .tick _ => True
  | _ => False

/-- **Every tick and datagram** keeps the registry around an outgoing peer `p` and its timers as
`Timed` says, and while `p` is not registered it stays so and nothing counted is written. -/
theorem timed_step (X : Ext) (s : State) {a : Addr} (p : Ptr) (op : Op) (hop : op.TickOrRecv)
    (hs : Shape a p s.h) :
    Shape a p (step X s op).1.h ∧
      Timed a op.clock p s.h (step X s op).1.h (step X s op).2.sent ∧
      (¬ Registered p s.h → ¬ Registered p (step X s op).1.h ∧ QuietAt a (step X s op).2.sent) := by
  cases op with
  | recv env remote msg => exact timed_handle X env s.h p hs remote _
  | tick env => exact timed_keepalive env s.h p hs
  | link _ _ => exact hop.elim
  | unlink _ => exact hop.elim
  | send _ _ => exact hop.elim

/-- Every operation keeps every peer of the `Peer` map under its own address. -/
theorem addrConsistent_step (X : Ext) (s : State) (op : Op) (hc : AddrConsistent s.h) :
    AddrConsistent (step X s op).1.h := by
  cases op with
  | recv env remote msg => exact (loginStep_handle X env hc remote s.buf msg).2
  | tick env => exact hc.touches (touches_keepaliveLoop env s.h.getPeers s.h)
  | link env peer => exact (hc.alloc_link env peer).1
  | unlink i => exact hc.touches (touches_unlink (fun _ => False) s.h i)
  | send env p => exact hc.touches ((onlyStamps_writeEach env _ _ _ _).touches fun _ => False)

/-- Every run from `New` keeps every peer of the `Peer` map under its own address. -/
theorem addrConsistent_run (X : Ext) (c : RepeaterConfiguration) (ops : List Op) :
    AddrConsistent (run X (State.init c) ops).h := by
  suffices ∀ s, AddrConsistent s.h → AddrConsistent (run X s ops).h from
    this _ (addrConsistent_new c)
  induction ops with
  | nil => exact fun _ hc => hc
  | cons op ops ih => exact fun s hc => ih _ (addrConsistent_step X s op hc)

/-- The times of the writes of a run that satisfy `pred`, in order: each operation contributes its
clock once for each such write it made. -/
def writeTimes (pred : Addr × List UInt8 → Bool) (tr : List (Op × Out)) : List ℕ :=
  tr.flatMap fun e => List.replicate (e.2.sent.countP pred) e.1.clock

@[simp] theorem writeTimes_append (pred : Addr × List UInt8 → Bool) (tr tr' : List (Op × Out)) :
    writeTimes pred (tr ++ tr') = writeTimes pred tr ++ writeTimes pred tr' :=
  List.flatMap_append _ _ _

@[simp] theorem writeTimes_singleton (pred : Addr × List UInt8 → Bool) (e : Op × Out) :
    writeTimes pred [e] = List.replicate (e.2.sent.countP pred) e.1.clock := by
  simp [writeTimes]

/-- The invariant of a run around the outgoing peer `p`, at time `clock`, with `logins` and
`pings` the times of the `RPTL`s and `RPTPING`s written to `a` so far: both are spaced, and the
timers of `p` are sound and no earlier than any of them — unless `p` is not registered. -/
structure Spaced (a : Addr) (p : Ptr) (h : Homebrew) (clock : ℕ) (logins pings : List ℕ) :
    Prop where
  shape : Shape a p h
  loginGaps : logins.Pairwise fun s t => s + AuthTimeout < t
  pingGaps : pings.Pairwise fun s t => s + PingInterval < t
  timers : (Sound clock (h.heap p) ∧ (∀ t ∈ logins, t ≤ (h.heap p).last.authSent) ∧
      ∀ t ∈ pings, t ≤ (h.heap p).last.pingSent) ∨ ¬ Registered p h

/-- The times of one kind of request stay spaced when a call moves their timer as `Gap` says. -/
theorem spaced_append_gap {gap now n last last' : ℕ} {ts : List ℕ}
    (hts : ts.Pairwise fun s t => s + gap < t) (hb : ∀ t ∈ ts, t ≤ last) (hl : last ≤ now)
    (hg : Gap gap now n last last') :
    (ts ++ List.replicate n now).Pairwise (fun s t => s + gap < t) ∧
      ∀ t ∈ ts ++ List.replicate n now, t ≤ last' := by
  rcases hg with ⟨rfl, hl'⟩ | ⟨rfl, hgap, rfl⟩
  · simp only [List.replicate_zero, List.append_nil]
    exact ⟨hts, fun t ht => by have := hb t ht; omega⟩
  · refine ⟨List.pairwise_append.2 ⟨hts, List.pairwise_singleton _ _, fun a ha b hb' => ?_⟩,
      fun t ht => ?_⟩
    · rw [List.replicate_one, List.mem_singleton] at hb'
      have := hb a ha; omega
    · rcases List.mem_append.1 ht with ht | ht
      · exact (hb t ht).trans hl
      · exact (List.eq_of_mem_replicate ht).le

/-- **The step of the invariant**: a call at time `now`, no earlier than the clock, that keeps
the timers of `p` as `Timed` says appends its requests to both lists. -/
theorem Spaced.step {a : Addr} {p : Ptr} {h h' : Homebrew} {clock now : ℕ} {L P : List ℕ}
    {sent : List (Addr × List UInt8)} (hsp : Spaced a p h clock L P) (hle : clock ≤ now)
    (hsh : Shape a p h') (ht : Timed a now p h h' sent)
    (hq : ¬ Registered p h → ¬ Registered p h' ∧ QuietAt a sent) :
    Spaced a p h' now (L ++ List.replicate (sent.countP (sentTo a IsLogin)) now)
      (P ++ List.replicate (sent.countP (sentTo a IsPing)) now) := by
  rcases hsp.timers with ⟨hs, hL, hP⟩ | hn
  · obtain ⟨hs', hl, hp⟩ := ht (hs.mono hle)
    obtain ⟨hL₁, hL₂⟩ := spaced_append_gap hsp.loginGaps hL (hs.authSent.trans hle) hl
    obtain ⟨hP₁, hP₂⟩ := spaced_append_gap hsp.pingGaps hP (hs.pingSent.trans hle) hp
    exact ⟨hsh, hL₁, hP₁, .inl ⟨hs', hL₂, hP₂⟩⟩
  · obtain ⟨hn', hq'⟩ := hq hn
    rw [hq'.countP_login, hq'.countP_ping, List.replicate_zero, List.append_nil, List.append_nil]
    exact ⟨hsh, hsp.loginGaps, hsp.pingGaps, .inr hn'⟩

/-- **The link** of an outgoing peer in `AuthNone`, into an endpoint whose registry is consistent,
starts the invariant at the peer's address: the peer is registered and has sent one `RPTL`, now;
or the link failed and nothing was registered.  The link succeeds, or no outgoing peer is
registered at that address. -/
theorem spaced_link (X : Ext) (s : State) (hc : AddrConsistent s.h) (env₀ : Env) (q : Peer)
    (hq : q.incoming = false) (hst : q.status = .authNone)
    (hlink : (q.addr ≠ none ∧ q.authKey ≠ []) ∨
      ∀ r, s.h.getPeerByAddr q.addrString = some r → (s.h.heap r).incoming = true) :
    Spaced q.addrString s.h.next (step X s (.link env₀ q)).1.h env₀.now
      (List.replicate ((step X s (.link env₀ q)).2.sent.countP (sentTo q.addrString IsLogin))
        env₀.now)
      (List.replicate ((step X s (.link env₀ q)).2.sent.countP (sentTo q.addrString IsPing))
        env₀.now) := by
  change Spaced q.addrString s.h.next (link env₀ (s.h.alloc q).1 s.h.next).h env₀.now
    (List.replicate ((link env₀ (s.h.alloc q).1 s.h.next).sent.countP
      (sentTo q.addrString IsLogin)) env₀.now)
    (List.replicate ((link env₀ (s.h.alloc q).1 s.h.next).sent.countP
      (sentTo q.addrString IsPing)) env₀.now)
  set h₁ := (s.h.alloc q).1
  set p := s.h.next
  have h0 : h₁.heap p = q := by simp [h₁, p]
  obtain ⟨hc₂, hreg⟩ := hc.alloc_link env₀ q
  have hr := registers_link env₀ h₁ p
  have hn₁ : ¬ Registered p h₁ := fun ⟨b, hb⟩ => (hc b p hb).2.false
  -- the link fails and registers nothing, or registers `p` at its address and sends `RPTL`
  have hcases : ((link env₀ h₁ p).h = h₁ ∧ (link env₀ h₁ p).sent = [] ∧
        (q.addr = none ∨ q.authKey = [])) ∨
      ((link env₀ h₁ p).h.getPeerByAddr q.addrString = some p ∧
        (link env₀ h₁ p).sent = [(q.addrString, RepeaterLogin ++ h₁.id)] ∧
        ((link env₀ h₁ p).h.heap p).status = .authNone ∧
        ((link env₀ h₁ p).h.heap p).last.authSent = env₀.now ∧
        ((link env₀ h₁ p).h.heap p).last.pingSent = 0) := by
    simp only [link, h0]
    split_ifs with ha hk hi
    · exact .inl ⟨rfl, rfl, .inl ha⟩
    · exact .inl ⟨rfl, rfl, .inr hk⟩
    · simp [hq] at hi
    · exact .inr (by simp [handleAuth, h0, hq, hst, Peer.addrString, getPeerByAddr])
  have hsh : Shape q.addrString p (link env₀ h₁ p).h := by
    refine ⟨hc₂, ?_, fun b r hrb hne => ?_, by rw [hr.next]; simp [h₁, p, alloc]⟩
    · rw [Peer.incoming_eq_of_ident (hr.heap p).1, h0, hq]
    rcases hreg b r hrb with ⟨hrb₀, hlt⟩ | ⟨rfl, -⟩
    · rw [Peer.incoming_eq_of_ident (hr.heap r).1, Peer.addrString_eq_of_ident (hr.heap r).1,
        show h₁.heap r = s.h.heap r by simp [h₁, p, hlt.ne], (hc b r hrb₀).1]
      by_cases hb : b = q.addrString
      · subst hb
        rcases hcases with ⟨hh, -, hfail⟩ | ⟨hp, -⟩
        · exact .inl (hlink.resolve_left (fun ⟨ha, hk⟩ => hfail.elim ha hk) r hrb₀)
        · exact absurd (Option.some.inj (hp.symm.trans hrb)) (Ne.symm hne)
      · exact .inr (Ne.symm hb)
    · exact absurd rfl hne
  rcases hcases with ⟨hh, hsent, -⟩ | ⟨-, hsent, hst', ha, hp⟩
  · simp only [hsent, List.countP_nil, List.replicate_zero]
    exact ⟨hsh, .nil, .nil, .inr (by rwa [hh])⟩
  · obtain ⟨hl, hg⟩ := countP_login q.addrString h₁.id
    simp only [hsent, countP_sentTo_self, hl, hg, List.replicate_one, List.replicate_zero]
    refine ⟨hsh, List.pairwise_singleton _ _, .nil, .inl ⟨⟨ha.le, by rw [hp]; exact Nat.zero_le _,
      fun hd => absurd (hst'.symm.trans hd) (by decide)⟩, by simp [ha], by simp⟩⟩

/-- **Every run** of ticks and datagrams after the link of an outgoing peer in `AuthNone` into an
endpoint with a consistent registry, at non-decreasing times, keeps the invariant at the peer's
address and the time of its last operation. -/
theorem spaced_run (X : Ext) (s : State) (hc : AddrConsistent s.h) (env₀ : Env) (q : Peer)
    (hq : q.incoming = false) (hst : q.status = .authNone)
    (hlink : (q.addr ≠ none ∧ q.authKey ≠ []) ∨
      ∀ r, s.h.getPeerByAddr q.addrString = some r → (s.h.heap r).incoming = true)
    (ops : List Op) (hops : ∀ op ∈ ops, op.TickOrRecv)
    (hmono : ((Op.link env₀ q :: ops).map Op.clock).Pairwise (· ≤ ·)) :
    Spaced q.addrString s.h.next (run X s (.link env₀ q :: ops)).h
      ((Op.link env₀ q :: ops).getLast (List.cons_ne_nil _ _)).clock
      (writeTimes (sentTo q.addrString IsLogin) (trace X s (.link env₀ q :: ops)))
      (writeTimes (sentTo q.addrString IsPing) (trace X s (.link env₀ q :: ops))) := by
  induction ops using List.reverseRecOn with
  | nil => simpa [trace] using spaced_link X s hc env₀ q hq hst hlink
  | append_singleton ops op ih =>
    rw [← List.cons_append, List.map_append, List.pairwise_append] at hmono
    have hsp := ih (fun o ho => hops o (List.mem_append_left _ ho)) hmono.1
    have hle : ((Op.link env₀ q :: ops).getLast (List.cons_ne_nil _ _)).clock ≤ op.clock :=
      hmono.2.2 _ (List.mem_map_of_mem _ (List.getLast_mem _)) _ (List.mem_singleton_self _)
    obtain ⟨hsh, ht, hn⟩ := timed_step X (run X s (.link env₀ q :: ops)) s.h.next op
      (hops op (List.mem_append_right _ (List.mem_singleton_self _))) hsp.shape
    simp only [← List.cons_append, run_append, trace_append, List.getLast_concat, writeTimes_append]
    simpa [trace] using hsp.step hle hsh ht hn

/-- **The spacing of `RPTL` and `RPTPING`.**  Take any registry a run from `New` leads to, and
link an outgoing peer in `AuthNone` into it; the link succeeds, or no outgoing peer is registered
at the peer's address.  The endpoint then handles keepalive ticks and datagrams, from its master or
from anyone, at non-decreasing times.  Then any two `RPTL` login requests the endpoint writes to
the peer's address are more than `AuthTimeout` apart, and any two `RPTPING` keepalives more than
`PingInterval` apart. -/
theorem logins_and_pings_spaced (X : Ext) (c : RepeaterConfiguration) (pre : List Op)
    (env₀ : Env) (q : Peer) (hq : q.incoming = false) (hst : q.status = .authNone)
    (hlink : (q.addr ≠ none ∧ q.authKey ≠ []) ∨
      ∀ r, (run X (State.init c) pre).h.getPeerByAddr q.addrString = some r →
        ((run X (State.init c) pre).h.heap r).incoming = true)
    (ops : List Op) (hops : ∀ op ∈ ops, op.TickOrRecv)
    (hmono : ((Op.link env₀ q :: ops).map Op.clock).Pairwise (· ≤ ·)) :
    (writeTimes (sentTo q.addrString IsLogin)
        (trace X (run X (State.init c) pre) (.link env₀ q :: ops))).Pairwise
        (fun s t => s + AuthTimeout < t) ∧
      (writeTimes (sentTo q.addrString IsPing)
        (trace X (run X (State.init c) pre) (.link env₀ q :: ops))).Pairwise
        (fun s t => s + PingInterval < t) :=
  have hs := spaced_run X _ (addrConsistent_run X c pre) env₀ q hq hst hlink ops hops hmono
  ⟨hs.loginGaps, hs.pingGaps⟩

/-- A repeater that already links a master at `N` links a second master `M` at time `100` and
hears nothing back: the tick at 16 s gives the login up, and the tick at 32 s, more than
`AuthTimeout` after the first `RPTL`, sends the second; the logins to `N` are not counted. -/
theorem logins_and_pings_spaced_on_silent_master :
    let pre : List Op := [.link sampleEnv { loginPeer "N" 2 with incoming := false }]
    let q : Peer := { loginPeer "M" 1 with incoming := false }
    let ops : List Op := [.tick ⟨16 * second, none, fun _ => none⟩,
      .tick ⟨32 * second, none, fun _ => none⟩]
    (q.incoming = false ∧ q.status = .authNone ∧
      ((q.addr ≠ none ∧ q.authKey ≠ []) ∨
        ∀ r, (run sampleExt (State.init sampleConfig) pre).h.getPeerByAddr q.addrString = some r →
          ((run sampleExt (State.init sampleConfig) pre).h.heap r).incoming = true) ∧
      (∀ op ∈ ops, op.TickOrRecv) ∧ ((Op.link sampleEnv q :: ops).map Op.clock).Pairwise (· ≤ ·)) ∧
    (writeTimes (sentTo q.addrString IsLogin)
        (trace sampleExt (run sampleExt (State.init sampleConfig) pre) (.link sampleEnv q :: ops))).Pairwise
        (fun s t => s + AuthTimeout < t) ∧
      (writeTimes (sentTo q.addrString IsPing)
        (trace sampleExt (run sampleExt (State.init sampleConfig) pre) (.link sampleEnv q :: ops))).Pairwise
        (fun s t => s + PingInterval < t) :=
  ⟨⟨rfl, rfl, .inl ⟨by decide, by decide⟩, by simp [Op.TickOrRecv], by decide⟩,
    logins_and_pings_spaced _ _ _ _ _ rfl rfl (.inl ⟨by decide, by decide⟩) _
      (by simp [Op.TickOrRecv]) (by decide)⟩

example : writeTimes (sentTo "M" IsLogin) (trace sampleExt (State.init sampleConfig)
    [.link sampleEnv { loginPeer "M" 1 with incoming := false },
      .tick ⟨16 * second, none, fun _ => none⟩, .tick ⟨32 * second, none, fun _ => none⟩]) =
    [100, 32 * second] := by decide

end GoDmr
