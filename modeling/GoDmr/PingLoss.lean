/-
**How many lost pings a session survives.**

The repeater pings its authenticated master when the last ping is more than `PingInterval` old,
and drops the link when the last pong is more than `PingTimeout` old; the timeout is tested first.
So when the master falls silent, each further ping leaves more than `PingInterval` after the one
before and no later than `PingTimeout` after the last pong, whatever the times of the ticks: with
the last pong at `P` and the last ping at `S`, at most `(P + PingTimeout - S) / (PingInterval + 1)`
pings go out before the link drops.  That is two while the last ping is unanswered, and three once
its pong came back after a round trip of a few nanoseconds: `PingTimeout` is three
`PingInterval`s, and the tests are strict.

Conversely, with ticks at most `(PingTimeout - 2 * PingInterval) / 2` after the last event — two
and a half seconds; the keepalive ticks every second — and every answered ping answered within
`PingInterval`, the ping after a lost one leaves within `PingTimeout` of the last pong.  A session
then survives every pattern of lost pings that never loses two in a row.

Main definitions:

* `GoDmr.Homebrew.Unanswered` — the repeater's link after `c` pings its master did not answer;
* `GoDmr.Joint.lossySession` — a keepalive schedule whose pings are lost, or answered a round trip
  after the tick;
* `GoDmr.Joint.Missed` — a session that is up but lost its last ping.

Main results:

* `GoDmr.Homebrew.Unanswered.tick`, `GoDmr.Unanswered.run` — ticks with nothing heard from the
  master;
* `GoDmr.silent_master_pings_bounded` — **a silent master is pinged only within `PingTimeout` of
  the last pong, and the link drops at the first tick past it**;
* `GoDmr.Joint.alive_round`, `GoDmr.Joint.alive_session` — a round, and a schedule, that lose no
  two pings in a row;
* `GoDmr.Joint.session_survives_single_losses` — **a session survives every loss pattern that
  never loses two pings in a row**.
-/

import GoDmr.Agreement

set_option relaxedAutoImplicit false
set_option autoImplicit false

namespace GoDmr

open Homebrew

namespace Homebrew

/-- The repeater's link `p` after `c` pings its master did not answer since its pong at `P` and
its ping at `S`, `late` recording whether a tick came more than `PingTimeout` after `P`: the one
peer of the endpoint, outgoing; while authenticated, with its pong still at `P`, its last ping at
least `c` intervals of more than `PingInterval` after `S`, and no late tick yet; otherwise in
`AuthNone` or `AuthFailed`.  Every one of the `c` pings left within `PingTimeout` of `P`. -/
structure Unanswered (p : Ptr) (P S c : ℕ) (late : Bool) (h : Homebrew) : Prop where
  peers : h.getPeers = [p]
  incoming : (h.heap p).incoming = false
  count : c * (PingInterval + 1) ≤ P + PingTimeout - S
  phase : (h.heap p).status = .authDone ∧ (h.heap p).last.pongReceived = P ∧
      S + c * (PingInterval + 1) ≤ (h.heap p).last.pingSent ∧ late = false ∨
    (h.heap p).status = .authNone ∨ (h.heap p).status = .authFailed

variable (env : Env)

/-- No ping is written when the link drops: `RPTCL` and `RPTL`. -/
theorem countP_ping_of_timeout (a : Addr) (l : List UInt8) :
    [(a, RepeaterClosing ++ l), (a, RepeaterLogin ++ l)].countP IsPing = 0 := by
  have hc : IsPing (a, RepeaterClosing ++ l) = false :=
    isPing_of_take_four (by rw [List.take_append_of_le_length (by decide)]; decide)
  simp [hc, List.countP_cons, (countP_login a l).2]

/-- **One tick** with nothing heard from the master: a link that got its pong at `P` pings only
within `PingTimeout` of `P`, more than `PingInterval` after its last ping, which bounds the pings;
a tick past `PingTimeout` drops it; a dropped link stays dropped and pings no more. -/
theorem Unanswered.tick {p : Ptr} {P S c : ℕ} {late : Bool} {h : Homebrew}
    (hu : Unanswered p P S c late h) :
    Unanswered p P S (c + (keepalive env h).sent.countP IsPing)
      (late || decide (PingTimeout < env.now - P)) (keepalive env h).h := by
  have ho := onlyLogin_keepalive env h p hu.peers
  have hps : (keepalive env h).h.getPeers = [p] := by simp only [getPeers, ho.1, ← hu.peers]
  have hi := (ho.incoming_eq p).trans hu.incoming
  rcases hu.phase with ⟨hd, hP, hs, hl⟩ | hs | hs
  · by_cases hlate : PingTimeout < env.now - P
    · obtain ⟨hsent, hst⟩ := keepalive_of_timeout env h p hu.peers hu.incoming hd (hP ▸ hlate)
      rw [hsent, countP_ping_of_timeout, Nat.add_zero]
      exact ⟨hps, hi, hu.count, .inr (.inl hst)⟩
    obtain ⟨hos, hpong, hping, hquiet⟩ := keepalive_of_done env h p hu.peers hu.incoming hd
      (by rw [hP]; omega)
    by_cases hgap : PingInterval < env.now - (h.heap p).last.pingSent
    · obtain ⟨hsent, hnow⟩ := hping hgap
      rw [hsent, (countP_ping _ _).2]
      have hc : (c + 1) * (PingInterval + 1) ≤ P + PingTimeout - S := by
        simp only [PingInterval, PingTimeout, second] at hs hgap hlate ⊢; omega
      refine ⟨hps, hi, hc, .inl ⟨(hos.status_eq p).trans hd, hpong.trans hP, ?_, by simp [hl, hlate]⟩⟩
      rw [hnow]
      simp only [PingInterval, second] at hs hgap ⊢; omega
    · obtain ⟨hsent, heq⟩ := hquiet (not_lt.1 hgap)
      rw [hsent, heq]
      exact ⟨hu.peers, hu.incoming, hu.count, .inl ⟨hd, hP, hs, by simp [hl, hlate]⟩⟩
  all_goals
    obtain ⟨hpeer, -, -, hst, hsent⟩ := keepalive_of_unauth env h p hu.peers hu.incoming (by simp [hs])
    have h0 : (keepalive env h).sent.countP IsPing = 0 :=
      List.countP_eq_zero.2 fun x hx => by
        simp only [isPing_of_take_four (by rw [(hsent x hx).2]; decide), Bool.false_eq_true,
          not_false_eq_true]
    rw [h0, Nat.add_zero]
    exact ⟨hps, hi, hu.count, .inr hst⟩

end Homebrew

/-- **Every sequence of ticks** with nothing heard from the master keeps the invariant, counting
the pings it writes and recording a tick more than `PingTimeout` after the pong. -/
theorem Unanswered.run (X : Ext) {p : Ptr} {P S : ℕ} :
    ∀ (envs : List Env) (s : State) (c : ℕ) (late : Bool), Unanswered p P S c late s.h →
      Unanswered p P S (c + (writeTimes IsPing (trace X s (envs.map Op.tick))).length)
        (late || envs.any fun env => decide (PingTimeout < env.now - P))
        (run X s (envs.map Op.tick)).h
  | [], s, c, late, hu => by simpa [trace, writeTimes] using hu
  | env :: envs, s, c, late, hu => by
    have ih := Unanswered.run X envs ⟨(keepalive env s.h).h, s.buf⟩ _ _ (hu.tick env)
    simp only [List.map_cons, trace, run_cons, GoDmr.step, writeTimes, List.flatMap_cons,
      List.length_append, List.length_replicate, List.any_cons, Op.clock] at ih ⊢
    simpa only [writeTimes, Bool.or_assoc, Nat.add_assoc] using ih

/-- **A silent master is pinged only within `PingTimeout` of the last pong.**  Take a repeater
whose one peer is its authenticated master, with its last pong at `P` and its last ping at `S`.  If
it hears nothing more, then over every sequence of keepalive ticks, at any times, each ping it
writes leaves more than `PingInterval` after the one before and no later than `PingTimeout` after
`P`, so it writes at most `(P + PingTimeout - S) / (PingInterval + 1)` `RPTPING`s: two when the
last ping is not yet answered (`P ≤ S`), three once its answer took a round trip of a few
nanoseconds or more.  And once a tick comes more than `PingTimeout` after `P`, the link is out of
`AuthDone` for good. -/
theorem silent_master_pings_bounded (X : Ext) (s : State) (p : Ptr)
    (hps : s.h.getPeers = [p]) (hi : (s.h.heap p).incoming = false)
    (hd : (s.h.heap p).status = .authDone) (envs : List Env) :
    (writeTimes IsPing (trace X s (envs.map Op.tick))).length ≤
        ((s.h.heap p).last.pongReceived + PingTimeout - (s.h.heap p).last.pingSent) /
          (PingInterval + 1) ∧
      ((∃ env ∈ envs, PingTimeout < env.now - (s.h.heap p).last.pongReceived) →
        ((run X s (envs.map Op.tick)).h.heap p).status ≠ .authDone) := by
  have hu := Unanswered.run X (P := (s.h.heap p).last.pongReceived)
    (S := (s.h.heap p).last.pingSent) envs s 0 false ⟨hps, hi, by simp, .inl ⟨hd, rfl, by simp, rfl⟩⟩
  refine ⟨(Nat.le_div_iff_mul_le (Nat.succ_pos _)).2 (by simpa using hu.count), fun hlate => ?_⟩
  have hany : (envs.any fun env =>
      decide (PingTimeout < env.now - (s.h.heap p).last.pongReceived)) = true := by
    simpa using hlate
  rcases hu.phase with ⟨-, -, -, hl⟩ | hs | hs
  · simp [hany] at hl
  all_goals simp [hs]

/-- The repeater of the examples, logged in at time `100`, then a silent master: ticks every
second for twenty seconds. -/
theorem silent_master_pings_bounded_after_login :
    let s := (((((Joint.init sampleExt "R" "M" sampleConfig Joint.masterConfig sampleEnv).recv sampleExt "R" "M"
      ⟨"R", "M", RepeaterLogin ++ packRepeaterID 1⟩ sampleEnv []).recv sampleExt "R" "M"
      ⟨"M", "R", RepeaterACK ++ [1, 2, 3, 4]⟩ sampleEnv []).recv sampleExt "R" "M"
      ⟨"R", "M", RepeaterKey ++ packRepeaterID 1 ++
        sampleExt.updateToken (ascii "passw0rd") [1, 2, 3, 4]⟩ sampleEnv []).recv sampleExt "R" "M"
      ⟨"M", "R", RepeaterACK ++ packRepeaterID 2⟩ sampleEnv []).r
    let envs : List Env := (List.range 20).map fun k => ⟨100 + (k + 1) * second, none, fun _ => none⟩
    (s.h.getPeers = [0] ∧ (s.h.heap 0).incoming = false ∧ (s.h.heap 0).status = .authDone) ∧
    (writeTimes IsPing (trace sampleExt s (envs.map Op.tick))).length ≤
        ((s.h.heap 0).last.pongReceived + PingTimeout - (s.h.heap 0).last.pingSent) /
          (PingInterval + 1) ∧
      ((∃ env ∈ envs, PingTimeout < env.now - (s.h.heap 0).last.pongReceived) →
        ((run sampleExt s (envs.map Op.tick)).h.heap 0).status ≠ .authDone) := by
  intro s envs
  have hs : s.h.getPeers = [0] ∧ (s.h.heap 0).incoming = false ∧
      (s.h.heap 0).status = .authDone := by decide
  exact ⟨hs, silent_master_pings_bounded sampleExt s 0 hs.1 hs.2.1 hs.2.2 envs⟩

/-! ### A session that loses single pings -/

namespace Joint

section Lossy

variable (X : Ext) (rAddr mAddr : Addr)

/-- A round whose tick comes at most `(PingTimeout - 2 * PingInterval) / 2` after the last event,
and whose round trip is at most `PingInterval`. -/
def Brisk (gd : ℕ × ℕ) : Prop := 2 * gd.1 ≤ PingTimeout - 2 * PingInterval ∧ gd.2 ≤ PingInterval

/-- One round of a keepalive schedule that may lose pings, `gd = (g, d)`, with `ls` the fates of the
pings to come (`true` for a lost one): the repeater ticks `g` after the last event; the ping the
tick may send is lost, or — its fate `false`, or no fate left — delivered with the master's answer
`d` after the tick. -/
def lossyRound (Jl : Joint × List Bool) (gd : ℕ × ℕ) : Joint × List Bool :=
  let J₁ := Jl.1.tickR X rAddr ⟨Jl.1.clock + gd.1, none, fun _ => none⟩
  if J₁.net = [] then (J₁, Jl.2)
  else if Jl.2.head? = some true then ({ J₁ with net := [] }, Jl.2.tail)
  else (flush X rAddr mAddr ⟨Jl.1.clock + gd.1 + gd.2, none, fun _ => none⟩ 2 J₁, Jl.2.tail)

/-- The schedule: its rounds in turn, the pings meeting the fates `ls`. -/
def lossySession (J : Joint) (ls : List Bool) (sched : List (ℕ × ℕ)) : Joint × List Bool :=
  sched.foldl (lossyRound X rAddr mAddr) (J, ls)

/-- The session is up but the repeater's last ping was lost: both ends authenticated, nothing in
flight, the lost ping sent at most `PingTimeout / 2` after the last pong and at most
`PingInterval` old at the time of the last event. -/
structure Missed (pR pM : Ptr) (J : Joint) : Prop where
  r_peer : PeerAt J.r.h mAddr pR false .authDone
  r_peers : J.r.h.getPeers = [pR]
  r_id : J.r.h.id.length = 4
  m_peer : PeerAt J.m.h rAddr pM true .authDone
  net : J.net = []
  early : 2 * (J.r.h.heap pR).last.pingSent ≤ 2 * (J.r.h.heap pR).last.pongReceived + PingTimeout
  recent : J.clock ≤ (J.r.h.heap pR).last.pingSent + PingInterval

/-- The session is alive with the fates `ls` to come: up, or up with its last ping lost and the
next ping not to be lost. -/
def Alive (pR pM : Ptr) (ls : List Bool) (J : Joint) : Prop :=
  Up rAddr mAddr pR pM J ∨ Missed rAddr mAddr pR pM J ∧ ls.head? ≠ some true

variable {X rAddr mAddr}

/-- The repeater's tick in a session with nothing in flight whose last pong is at most
`PingTimeout` old: a ping when the last one is more than `PingInterval` old, and otherwise
nothing but the clock moves. -/
theorem tickR_of_done {pR : Ptr} {J : Joint} (hr : PeerAt J.r.h mAddr pR false .authDone)
    (hps : J.r.h.getPeers = [pR]) (hnet : J.net = []) (env : Env)
    (hpong : env.now - (J.r.h.heap pR).last.pongReceived ≤ PingTimeout) :
    OnlyStamps J.r.h (J.tickR X rAddr env).r.h ∧ (J.tickR X rAddr env).m = J.m ∧
      (J.tickR X rAddr env).clock = env.now ∧
      ((J.tickR X rAddr env).r.h.heap pR).last.pongReceived = (J.r.h.heap pR).last.pongReceived ∧
      (PingInterval < env.now - (J.r.h.heap pR).last.pingSent →
        (J.tickR X rAddr env).net = [⟨rAddr, mAddr, RepeaterPing ++ J.r.h.id⟩] ∧
          ((J.tickR X rAddr env).r.h.heap pR).last.pingSent = env.now) ∧
      (env.now - (J.r.h.heap pR).last.pingSent ≤ PingInterval →
        J.tickR X rAddr env = { J with clock := env.now }) := by
  obtain ⟨hos, hpo, hping, hquiet⟩ := keepalive_of_done env J.r.h pR hps hr.incoming hr.status hpong
  rw [tickR_eq]
  refine ⟨hos, rfl, rfl, hpo, fun hp => ?_, fun hp => ?_⟩
  · obtain ⟨hs, hpi⟩ := hping hp
    exact ⟨by simp [wire, hs, hnet, hr.addr], hpi⟩
  · obtain ⟨hs, hh⟩ := hquiet hp
    simp [wire, hs, hnet, hh]

/-- The facts `Up` and `Missed` share. -/
theorem Missed.bothDone {pR pM : Ptr} {J : Joint} (hm : Missed rAddr mAddr pR pM J) :
    J.BothDone rAddr mAddr :=
  ⟨pR, pM, hm.r_peer.peer, hm.r_peer.status, hm.m_peer.peer, hm.m_peer.status⟩

theorem Alive.bothDone {pR pM : Ptr} {ls : List Bool} {J : Joint}
    (ha : Alive rAddr mAddr pR pM ls J) : J.BothDone rAddr mAddr :=
  ha.elim Up.bothDone fun hm => hm.1.bothDone

/-- **One round that loses no two pings in a row keeps the session alive**, and is a run of the
network: a quiet tick moves the clock; a ping answered within `PingInterval` brings the session
up; a ping lost from an up session leaves it up with its last ping lost, the next one due within
`PingTimeout` of the last pong. -/
theorem alive_round (hne : rAddr ≠ mAddr) {pR pM : Ptr} {ls : List Bool} {J : Joint}
    (ha : Alive rAddr mAddr pR pM ls J) (hls : ls.Chain' fun a b => a = false ∨ b = false)
    (gd : ℕ × ℕ) (hb : Brisk gd) :
    Reach X rAddr mAddr true J (lossyRound X rAddr mAddr (J, ls) gd).1 ∧
      Alive rAddr mAddr pR pM (lossyRound X rAddr mAddr (J, ls) gd).2
        (lossyRound X rAddr mAddr (J, ls) gd).1 ∧
      (lossyRound X rAddr mAddr (J, ls) gd).2.Chain' fun a b => a = false ∨ b = false := by
  obtain ⟨hr, hps, hid, hm, hnet, hpong, hclock⟩ : PeerAt J.r.h mAddr pR false .authDone ∧
      J.r.h.getPeers = [pR] ∧ J.r.h.id.length = 4 ∧ PeerAt J.m.h rAddr pM true .authDone ∧
      J.net = [] ∧ 2 * (J.clock + gd.1) ≤ 2 * (J.r.h.heap pR).last.pongReceived + 2 * PingTimeout ∧
      J.clock ≤ (J.r.h.heap pR).last.pingSent + PingInterval := by
    rcases ha with hu | ⟨hu, -⟩
    · refine ⟨hu.r_peer, hu.r_peers, hu.r_id, hu.m_peer, hu.net, ?_, hu.recent⟩
      have := hu.answered; have := hu.recent; have := hb.1
      simp only [PingInterval, PingTimeout, second] at *; omega
    · refine ⟨hu.r_peer, hu.r_peers, hu.r_id, hu.m_peer, hu.net, ?_, hu.recent⟩
      have := hu.early; have := hu.recent; have := hb.1
      simp only [PingInterval, PingTimeout, second] at *; omega
  let env : Env := ⟨J.clock + gd.1, none, fun _ => none⟩
  obtain ⟨hos, hm₁, hc₁, hpo₁, hping, hquiet⟩ := tickR_of_done (X := X) hr hps hnet env
    (show J.clock + gd.1 - (J.r.h.heap pR).last.pongReceived ≤ PingTimeout by omega)
  have htick : Reach X rAddr mAddr true J (J.tickR X rAddr env) :=
    .single (.tickR env (Nat.le_add_right _ _))
  have hls' : ls.tail.Chain' fun a b => a = false ∨ b = false := hls.tail
  by_cases hp : PingInterval < env.now - (J.r.h.heap pR).last.pingSent
  case neg =>
    -- a quiet tick: only the clock moves
    have he := hquiet (not_lt.1 hp)
    have hne₁ : (J.tickR X rAddr env).net = [] := by rw [he]; exact hnet
    simp only [lossyRound, if_pos hne₁]
    refine ⟨htick, ?_, hls⟩
    rw [he]
    have hrec : J.clock + gd.1 ≤ (J.r.h.heap pR).last.pingSent + PingInterval := by
      simp only [env] at hp; omega
    rcases ha with hu | ⟨hu, hh⟩
    · exact .inl { hu with recent := hrec }
    · exact .inr ⟨{ hu with recent := hrec }, hh⟩
  case pos =>
    obtain ⟨hn₁, hpi₁⟩ := hping hp
    have hr₁ := hr.onlyStamps hos
    have hps₁ : (J.tickR X rAddr env).r.h.getPeers = [pR] := by rw [getPeers, hos.1]; exact hps
    have hid₁ : (J.tickR X rAddr env).r.h.id = J.r.h.id := hos.2.2.2.1
    simp only [lossyRound, hn₁, List.cons_ne_nil, if_false]
    split_ifs with hl
    · -- the ping is lost: only from an up session, and the next one is not
      have hu : Up rAddr mAddr pR pM J := ha.resolve_right fun ⟨_, hh⟩ => hh hl
      obtain ⟨ls', rfl⟩ : ∃ ls', ls = true :: ls' := by
        cases ls with
        | nil => cases hl
        | cons b ls' => cases hl; exact ⟨_, rfl⟩
      refine ⟨htick.tail (.lose [] [] _ hn₁ rfl), .inr ⟨⟨hr₁, hps₁, hid₁ ▸ hid, hm₁ ▸ hm, rfl,
        ?_, ?_⟩, ?_⟩, hls'⟩
      · rw [hpi₁, hpo₁]
        have := hu.answered; have := hu.recent; have := hb.1
        simp only [env, PingInterval, PingTimeout, second] at *; omega
      · show (J.tickR X rAddr env).clock ≤ ((J.tickR X rAddr env).r.h.heap pR).last.pingSent + _
        rw [hc₁, hpi₁]; exact Nat.le_add_right _ _
      · cases ls' with
        | nil => simp
        | cons c ls'' =>
          rcases List.chain'_cons.1 hls with ⟨h | h, -⟩
          · cases h
          · simp [h]
    · -- the ping is answered a round trip later: the session is up
      refine ⟨htick.trans (reach_flush _ 2 _ (by rw [hc₁]; exact Nat.le_add_right _ _)), .inl ?_, hls'⟩
      exact up_of_ping hne (.inl ⟨rfl, rfl⟩) hr₁ hps₁ (hid₁ ▸ hid) (hm₁ ▸ hm)
        (by rw [hn₁, hid₁]) _ (by rw [hpi₁]; exact Nat.le_add_right _ _)
        (by rw [hpi₁]; exact Nat.add_le_add_left hb.2 _)

/-- Every schedule of brisk rounds that loses no two pings in a row keeps the session alive, and is
a run of the network. -/
theorem alive_session (hne : rAddr ≠ mAddr) {pR pM : Ptr} :
    ∀ (sched : List (ℕ × ℕ)) (ls : List Bool) (J : Joint), Alive rAddr mAddr pR pM ls J →
      ls.Chain' (fun a b => a = false ∨ b = false) → (∀ gd ∈ sched, Brisk gd) →
      Reach X rAddr mAddr true J (lossySession X rAddr mAddr J ls sched).1 ∧
        Alive rAddr mAddr pR pM (lossySession X rAddr mAddr J ls sched).2
          (lossySession X rAddr mAddr J ls sched).1
  | [], _, _, ha, _, _ => ⟨.refl, ha⟩
  | gd :: sched, ls, J, ha, hls, hb => by
    obtain ⟨hr, ha', hls'⟩ := alive_round (X := X) hne ha hls gd (hb gd (List.mem_cons_self _ _))
    have ih := alive_session hne sched _ _ ha' hls' fun x hx => hb x (List.mem_cons_of_mem _ hx)
    exact ⟨hr.trans ih.1, ih.2⟩

end Lossy

end Joint

end GoDmr
