/-
**Every login sends the same configuration frame.**

`buildConfigData` clamps the endpoint's configuration in place before it writes the frame, so the
record an endpoint holds changes at its first accepted login.  The clamps are idempotent: from then
on the record is the initial configuration, clamped, and every later login writes the same 302
bytes as the first.

The master takes a datagram for a configuration frame by its first four bytes, `RPTC`.  Of all an
endpoint ever writes, only two kinds of datagram start so: the frame of its configuration, and
`RPTCL` with its id, which keepalive writes when it gives a login up (and which crashes the master,
`GoDmr.Joint.closing_notice_crashes_master`).

Main definitions:

* `GoDmr.Homebrew.KeepsFrame` — what one call may do to the endpoint's configuration and id, and
  what it writes that starts with `RPTC`.

Main results:

* `GoDmr.clampConfig_idem` — the clamps are idempotent;
* `GoDmr.Homebrew.keepsFrame_handle`, `GoDmr.Homebrew.keepsFrame_keepalive`,
  `GoDmr.Homebrew.keepsFrame_link`, `GoDmr.Homebrew.keepsFrame_send` — each call of the endpoint;
* `GoDmr.config_frames_stable` — **every login sends the same configuration frame**: over every
  run, the configuration is the initial one or that clamped, and each datagram written that starts
  with `RPTC` is the frame of the initial configuration or `RPTCL` with the endpoint's id.
-/

import GoDmr.Table

set_option relaxedAutoImplicit false
set_option autoImplicit false

namespace GoDmr

open Homebrew

/-! ### The clamps -/

/-- The default of a field is written once: defaulting a defaulted field changes nothing. -/
theorem default_idem (a d : List UInt8) :
    (if (if a = [] then d else a) = [] then d else if a = [] then d else a) =
      if a = [] then d else a := by
  split_ifs <;> simp_all

/-- The clamps and defaults of `buildConfigData` are idempotent. -/
theorem clampConfig_idem (D : Dmr) (c : RepeaterConfiguration) :
    clampConfig D (clampConfig D c) = clampConfig D c := by
  obtain ⟨⟨h1, h2, h3, h4, h5, h6, h7, h8, h9, h10⟩, hcc, htp, hsl, hsw, hpk⟩ :=
    clampConfig_spec D (clampConfig D c)
  obtain ⟨-, hcc', htp', hsl', hsw', hpk'⟩ := clampConfig_spec D c
  generalize clampConfig D (clampConfig D c) = a at *
  generalize clampConfig D c = b at *
  cases a; cases b
  simp only [RepeaterConfiguration.mk.injEq] at *
  refine ⟨h1, h2, h3, h4, UInt8.toNat.inj (by omega), UInt8.toNat.inj (by omega), h5, h6, h7, h8,
    h9, UInt8.toNat.inj (by omega), h10, ?_, ?_⟩
  · rw [hsw, hsw']; exact default_idem _ _
  · rw [hpk, hpk']; exact default_idem _ _

/-- The configuration after a login is the configuration before it, or that clamped. -/
def Reclamped (D : Dmr) (c c' : RepeaterConfiguration) : Prop := c' = c ∨ c' = clampConfig D c

theorem Reclamped.trans {D : Dmr} {c c' c'' : RepeaterConfiguration} (h₁ : Reclamped D c c')
    (h₂ : Reclamped D c' c'') : Reclamped D c c'' := by
  rcases h₂ with h | h <;> rw [h]
  · exact h₁
  · rcases h₁ with h' | h' <;> rw [h']
    · exact .inr rfl
    · exact .inr (clampConfig_idem D c)

/-- A configuration and its clamps have one frame. -/
theorem Reclamped.frame_eq {D : Dmr} {c c' : RepeaterConfiguration} (hc : Reclamped D c c') :
    (buildConfigData D c').2 = (buildConfigData D c).2 := by
  rcases hc with h | h <;> rw [h]
  simp only [buildConfigData, clampConfig_idem]

namespace Homebrew

/-! ### One call -/

/-- What the call `o` may do to an endpoint with the configuration `c` and the id `rid`: it keeps
the configuration or clamps it, keeps the id, and each datagram it writes that starts with `RPTC`
is the frame of the configuration or `RPTCL` with the id. -/
structure KeepsFrame (D : Dmr) (o : Out) (c : RepeaterConfiguration) (rid : List UInt8) :
    Prop where
  config : Reclamped D c o.h.config
  id : o.h.id = rid
  sent : ∀ x ∈ o.sent, x.2.take 4 = RepeaterConfig →
    x.2 = (buildConfigData D c).2 ∨ x.2 = RepeaterClosing ++ rid

namespace KeepsFrame

variable {D : Dmr} {c : RepeaterConfiguration} {rid : List UInt8}

/-- A call that keeps the configuration and the id, and writes nothing that starts with `RPTC`. -/
theorem of_quiet {o : Out} (hc : o.h.config = c) (hi : o.h.id = rid)
    (hs : ∀ x ∈ o.sent, x.2.take 4 ≠ RepeaterConfig) : KeepsFrame D o c rid :=
  ⟨.inl hc, hi, fun x hx ht => absurd ht (hs x hx)⟩

theorem nil {h' : Homebrew} (r : Ret) (hc : h'.config = c) (hi : h'.id = rid) :
    KeepsFrame D ⟨h', [], r⟩ c rid :=
  of_quiet hc hi (by simp)

theorem seq {o : Out} {k : Homebrew → Out} (h₁ : KeepsFrame D o c rid)
    (h₂ : KeepsFrame D (k o.h) o.h.config o.h.id) : KeepsFrame D (o.seq k) c rid := by
  refine ⟨h₁.config.trans h₂.config, h₂.id.trans h₁.id, fun x hx ht => ?_⟩
  rcases List.mem_append.1 (Out.seq_sent o k ▸ hx) with hx | hx
  · exact h₁.sent x hx ht
  · rw [← h₁.config.frame_eq, ← h₁.id]; exact h₂.sent x hx ht

theorem bind {o : Out} {k : Homebrew → Out} (h₁ : KeepsFrame D o c rid)
    (h₂ : KeepsFrame D (k o.h) o.h.config o.h.id) : KeepsFrame D (o.bind k) c rid := by
  unfold Out.bind
  split_ifs
  exacts [h₁.seq h₂, h₁]

end KeepsFrame

variable (X : Ext) (env : Env) {D : Dmr}

@[simp] theorem config_unlink (h : Homebrew) (i : UInt32) : (unlink h i).h.config = h.config := by
  unfold unlink; split <;> rfl

@[simp] theorem id_unlink (h : Homebrew) (i : UInt32) : (unlink h i).h.id = h.id := by
  unfold unlink; split <;> rfl

/-- A write that does not start with `RPTC`. -/
theorem keepsFrame_writeToPeer (h : Homebrew) (p : Ptr) {b : List UInt8}
    (hb : b.take 4 ≠ RepeaterConfig) : KeepsFrame D (writeToPeer env h p b) h.config h.id :=
  .of_quiet rfl rfl (by simpa using hb)

/-- A protocol message whose verb does not start with `RPTC`. -/
theorem keepsFrame_writeToPeer_verb (h : Homebrew) (p : Ptr) {v : List UInt8}
    (hv : 4 ≤ v.length ∧ v.take 4 ≠ RepeaterConfig) (l : List UInt8) :
    KeepsFrame D (writeToPeer env h p (v ++ l)) h.config h.id :=
  keepsFrame_writeToPeer env h p (by rw [List.take_append_of_le_length hv.1]; exact hv.2)

/-- `RPTCL` with the id. -/
theorem keepsFrame_writeToPeer_closing (h : Homebrew) (p : Ptr) :
    KeepsFrame D (writeToPeer env h p (RepeaterClosing ++ h.id)) h.config h.id :=
  ⟨.inl rfl, rfl, by simp⟩

theorem keepsFrame_handleAuth (h : Homebrew) (p : Ptr) :
    KeepsFrame D (handleAuth env h p) h.config h.id := by
  unfold handleAuth
  split_ifs
  · exact .nil _ rfl rfl
  · dsimp only
    split
    · exact keepsFrame_writeToPeer_verb env _ _ (v := RepeaterLogin) (by decide) _
    · rw [List.append_assoc]
      exact keepsFrame_writeToPeer_verb env _ _ (v := RepeaterKey) (by decide) _
    · exact .nil _ rfl rfl

theorem keepsFrame_link (h : Homebrew) (p : Ptr) : KeepsFrame D (link env h p) h.config h.id := by
  unfold link
  dsimp only
  split_ifs
  · exact .nil _ rfl rfl
  · exact .nil _ rfl rfl
  · exact .nil _ rfl rfl
  · exact keepsFrame_handleAuth env _ p

/-- The loop of `Send` and `SendTG`, with data that does not start with `RPTC`. -/
theorem keepsFrame_writeEach (pick : Homebrew → Ptr → Bool) {data : List UInt8}
    (hd : data.take 4 ≠ RepeaterConfig) :
    ∀ qs h, KeepsFrame D (writeEach env pick data qs h) h.config h.id
  | [], _ => .nil _ rfl rfl
  | q :: qs, h => by
    unfold writeEach
    split_ifs
    · exact (keepsFrame_writeToPeer env h q hd).bind (keepsFrame_writeEach pick hd qs _)
    · exact keepsFrame_writeEach pick hd qs h

theorem take_four_buildData_ne (D' : Dmr) (p : Packet) (rid : UInt32) :
    (buildData D' p rid).take 4 ≠ RepeaterConfig := by
  rw [take_four_buildData]; decide

theorem keepsFrame_send (h : Homebrew) (p : Packet) :
    KeepsFrame D (send X env h p) h.config h.id :=
  keepsFrame_writeEach env _ (take_four_buildData_ne _ _ _) _ h

theorem keepsFrame_handlePacket (h : Homebrew) (p : Packet) (peer : Ptr) :
    KeepsFrame D (handlePacket X env h p peer) h.config h.id := by
  unfold handlePacket sendTG
  dsimp only
  split
  · exact .nil _ rfl rfl
  · split
    · exact .nil _ rfl rfl
    · split_ifs
      · exact keepsFrame_writeEach env _ (take_four_buildData_ne _ _ _) _ _
      · exact .nil _ rfl rfl

section Branches

variable (h : Homebrew) (peer : Ptr) (data : Datagram)

theorem keepsFrame_dispatch : KeepsFrame D (dispatch X env h peer data) h.config h.id := by
  unfold dispatch
  split
  · exact .nil _ rfl rfl
  · exact keepsFrame_handlePacket X env h _ peer

theorem keepsFrame_handleIncomingAuth :
    KeepsFrame D (handleIncomingAuth X env h peer data) h.config h.id := by
  unfold handleIncomingAuth
  split
  · split_ifs
    · split
      · exact keepsFrame_writeToPeer_verb env _ _ (v := MasterNAK) (by decide) _
      · exact keepsFrame_writeToPeer_verb env _ _ (v := RepeaterACK) (by decide) _
    · exact .nil _ rfl rfl
  · split_ifs
    · exact keepsFrame_writeToPeer_verb env _ _ (v := MasterNAK) (by decide) _
    · exact keepsFrame_writeToPeer_verb env _ _ (v := MasterNAK) (by decide) _
    · exact keepsFrame_writeToPeer_verb env _ _ (v := RepeaterACK) (by decide) _
    · exact .nil _ rfl rfl
  · exact .nil _ rfl rfl

theorem keepsFrame_refuseLogin : KeepsFrame D (refuseLogin h peer) h.config h.id := by
  unfold refuseLogin
  dsimp only
  split_ifs <;> exact .nil _ (by simp) (by simp)

/-- The one call that writes the configuration frame, and clamps the configuration. -/
theorem keepsFrame_acceptLogin : KeepsFrame X.dmr (acceptLogin X env h peer) h.config h.id := by
  refine ⟨.inr ?_, ?_, ?_⟩ <;> simp [acceptLogin, buildConfigData_fst]

theorem keepsFrame_handleOutgoingAuth :
    KeepsFrame X.dmr (handleOutgoingAuth X env h peer data) h.config h.id := by
  unfold handleOutgoingAuth
  split
  · split_ifs
    · exact keepsFrame_handleAuth env _ peer
    · exact keepsFrame_refuseLogin h peer
    · exact .nil _ rfl rfl
  · split_ifs
    · exact keepsFrame_acceptLogin X env h peer
    · exact keepsFrame_refuseLogin h peer
    · exact keepsFrame_acceptLogin X env h peer
    · exact .nil _ rfl rfl
  · exact .nil _ rfl rfl

theorem keepsFrame_ackPing : KeepsFrame D (ackPing X env h peer data) h.config h.id := by
  unfold ackPing
  split_ifs
  · exact .nil _ rfl rfl
  · exact keepsFrame_writeToPeer_verb env _ _ (v := MasterPing) (by decide) _

theorem keepsFrame_pongReceived : KeepsFrame D (pongReceived X env h peer data) h.config h.id := by
  unfold pongReceived
  split_ifs <;> exact .nil _ rfl rfl

theorem keepsFrame_handleIncomingDone :
    KeepsFrame D (handleIncomingDone X env h peer data) h.config h.id := by
  unfold handleIncomingDone pong
  split_ifs
  · exact keepsFrame_dispatch X env h peer data
  · exact .nil _ rfl rfl
  · exact keepsFrame_writeToPeer_verb env _ _ (v := RepeaterPong) (by decide) _
  · exact keepsFrame_writeToPeer_verb env _ _ (v := MasterPong) (by decide) _
  · split
    · exact .nil _ rfl rfl
    · exact keepsFrame_writeToPeer_verb env _ _ (v := RepeaterACK) (by decide) _
  · exact .nil _ rfl rfl

theorem keepsFrame_handleOutgoingDone :
    KeepsFrame D (handleOutgoingDone X env h peer data) h.config h.id := by
  unfold handleOutgoingDone
  split_ifs
  · exact keepsFrame_dispatch X env h peer data
  · exact keepsFrame_ackPing X env h peer data
  · exact .nil _ rfl rfl
  · exact keepsFrame_handleAuth env _ peer
  · exact keepsFrame_ackPing X env h peer data
  · exact keepsFrame_pongReceived X env h peer data
  · exact keepsFrame_pongReceived X env h peer data
  · exact .nil _ rfl rfl

end Branches

theorem keepsFrame_handlePeer (h : Homebrew) (peer : Option Ptr) (data : Datagram) :
    KeepsFrame X.dmr (handlePeer X env h peer data) h.config h.id := by
  unfold handlePeer
  split
  · exact .nil _ rfl rfl
  split
  · exact .nil _ rfl rfl
  dsimp only
  split_ifs
  · exact .nil _ rfl rfl
  · exact keepsFrame_handleIncomingAuth X env _ _ data
  · exact keepsFrame_handleOutgoingAuth X env _ _ data
  · exact keepsFrame_handleIncomingDone X env _ _ data
  · exact keepsFrame_handleOutgoingDone X env _ _ data

theorem keepsFrame_handle (h : Homebrew) (remote : Addr) (data : Datagram) :
    KeepsFrame X.dmr (handle X env h remote data) h.config h.id := by
  unfold handle
  split
  · exact keepsFrame_handlePeer X env h _ data
  · split_ifs
    · split
      · exact .nil _ rfl rfl
      · exact (keepsFrame_link env _ _).seq (keepsFrame_handlePeer X env _ _ data)
    · exact .nil _ rfl rfl

theorem keepsFrame_unlink (h : Homebrew) (i : UInt32) : KeepsFrame D (unlink h i) h.config h.id := by
  unfold unlink; split <;> exact .nil _ rfl rfl

theorem keepsFrame_keepalivePeer (h : Homebrew) (p : Ptr) :
    KeepsFrame D (keepalivePeer env h p) h.config h.id := by
  unfold keepalivePeer
  dsimp only
  split
  · exact .nil _ rfl rfl
  split
  · split_ifs
    · exact keepsFrame_handleAuth env _ p
    · exact .nil _ rfl rfl
  · split_ifs <;> exact .nil _ rfl rfl
  · split_ifs <;> exact .nil _ rfl rfl
  · split_ifs
    · exact (keepsFrame_writeToPeer_closing env _ p).seq (keepsFrame_handleAuth env _ p)
    · exact keepsFrame_writeToPeer_verb env _ _ (v := RepeaterPing) (by decide) _
    · exact .nil _ rfl rfl

theorem keepsFrame_keepaliveLoop : ∀ (ps : List Ptr) (h : Homebrew),
    KeepsFrame D (keepaliveLoop env ps h) h.config h.id
  | [], _ => .nil _ rfl rfl
  | p :: ps, h => (keepsFrame_keepalivePeer env h p).seq (keepsFrame_keepaliveLoop ps _)

theorem keepsFrame_keepalive (h : Homebrew) : KeepsFrame D (keepalive env h) h.config h.id :=
  keepsFrame_keepaliveLoop env _ h

end Homebrew

/-! ### Runs -/

theorem keepsFrame_step (X : Ext) (s : State) (op : Op) :
    KeepsFrame X.dmr (step X s op).2 s.h.config s.h.id := by
  cases op with
  | recv env remote msg => exact keepsFrame_handle X env _ _ _
  | tick env => exact keepsFrame_keepalive env _
  | link env peer => exact keepsFrame_link env _ _
  | unlink i => exact keepsFrame_unlink _ i
  | send env p => exact keepsFrame_send X env _ _

theorem step_h (X : Ext) (s : State) (op : Op) : (step X s op).1.h = (step X s op).2.h := by
  cases op <;> rfl

/-- **Every login sends the same configuration frame.**  Over every run of an endpoint from
`New(c)`, its configuration is `c` or `c` clamped, and every datagram it writes that the master
would take for a configuration frame by its first four bytes is the frame of `c` — the one all its
logins send — or `RPTCL` with its id. -/
theorem config_frames_stable (X : Ext) (c : RepeaterConfiguration) (ops : List Op) :
    Reclamped X.dmr c (run X (State.init c) ops).h.config ∧
      ∀ e ∈ trace X (State.init c) ops, ∀ x ∈ e.2.sent, x.2.take 4 = RepeaterConfig →
        x.2 = (buildConfigData X.dmr c).2 ∨ x.2 = RepeaterClosing ++ packRepeaterID c.id := by
  suffices h : ∀ ops s, Reclamped X.dmr c s.h.config → s.h.id = packRepeaterID c.id →
      Reclamped X.dmr c (run X s ops).h.config ∧
        ∀ e ∈ trace X s ops, ∀ x ∈ e.2.sent, x.2.take 4 = RepeaterConfig →
          x.2 = (buildConfigData X.dmr c).2 ∨ x.2 = RepeaterClosing ++ packRepeaterID c.id from
    h ops _ (.inl rfl) rfl
  intro ops
  induction ops with
  | nil => exact fun s hc _ => ⟨hc, by simp [trace]⟩
  | cons op ops ih =>
    intro s hc hi
    have hk := keepsFrame_step X s op
    obtain ⟨ihc, iht⟩ := ih (step X s op).1 (step_h X s op ▸ hc.trans hk.config)
      (by rw [step_h, hk.id, hi])
    refine ⟨ihc, fun e he => ?_⟩
    rcases List.mem_cons.1 he with rfl | he
    · intro x hx ht
      rw [← hc.frame_eq, ← hi]
      exact hk.sent x hx ht
    · exact iht e he

end GoDmr
