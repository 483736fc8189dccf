/-
**The Homebrew DMR data frame: `buildData` and `parseData`.**

A `DMRD` frame is 55 bytes: the tag, the sequence number, 24-bit source and destination ids, the
32-bit repeater id, a packed byte 15, the 32-bit stream id, 33 bytes of burst payload, BER and RSSI.
Byte 15 carries the timeslot (bit 7), the call type (bit 6), a frame kind (bits 5..4) and a low
nibble: kind `01` is voice burst A, kind `00` bursts B–F with the nibble counting from A, kind `10`
a data-sync burst whose nibble is the data type itself, and kind `11` is rejected.

The data-type and call-type constants come from the `dmr` module, which is not among this
repository's files: `GoDmr.Dmr` takes them as parameters, with only the order of the bursts fixed
(`VoiceBurstB` … `VoiceBurstF` follow `VoiceBurstA`, as the module's `iota` block declares them).

Main definitions:

* `GoDmr.Dmr`, `GoDmr.Packet` — the `dmr` module's constants and packet;
* the frame tags `GoDmr.DMRData`, `GoDmr.RepeaterLogin`, … of `homebrew.go`;
* `GoDmr.buildData`, `GoDmr.parseData` — the encoder and the decoder, as the source writes them.

Main results:

* `GoDmr.parseData_buildData` — **round trip**: every packet with 24-bit ids, one-bit timeslot and
  call type, 33 payload bytes and a voice-burst or 4-bit data type decodes back to itself, with
  the repeater id of the frame;
* `GoDmr.buildData_of_parseData` — re-encoding a decoded frame changes at most byte 15;
* `GoDmr.buildData_parseData` — **the other round trip**: a frame whose byte 15 is in the form
  `buildData` writes is rebuilt byte for byte from the packet it decodes to, while a data-sync
  frame whose nibble is a voice burst decodes to the packet of that burst's voice frame and is
  rebuilt as the voice frame (`GoDmr.dataSync_frame_rebuilt_as_burstA` is the case of burst A);
* `GoDmr.parseData_map_dataType` — the data type of a 55-byte frame is decided by byte 15 alone;
* `GoDmr.relay_changes_dataType` — re-encoding a decoded frame does not always give back its data
  type.
-/

import GoDmr.Bytes
import Mathlib.Data.UInt
import Mathlib.Tactic.IntervalCases

set_option relaxedAutoImplicit false
set_option autoImplicit false

namespace GoDmr

/-! ### What the `dmr` module provides -/

/-- The constants the homebrew code takes from the `dmr` module. -/
structure Dmr where
  /-- `dmr.VoiceBurstA`, the data type of the first burst of a voice superframe. -/
  voiceBurstA : UInt8
  /-- `dmr.CallTypeGroup`. -/
  callTypeGroup : UInt8
  /-- `dmr.SoftwareID` and `dmr.PackageID`, the defaults of the configuration record. -/
  softwareID : List UInt8
  packageID : List UInt8

namespace Dmr

variable (D : Dmr)

/-- `dmr.VoiceBurstB` … `dmr.VoiceBurstF`, declared right after `VoiceBurstA`. -/
def voiceBurstB : UInt8 := D.voiceBurstA + 1
def voiceBurstC : UInt8 := D.voiceBurstA + 2
def voiceBurstD : UInt8 := D.voiceBurstA + 3
def voiceBurstE : UInt8 := D.voiceBurstA + 4
def voiceBurstF : UInt8 := D.voiceBurstA + 5

/-- The bursts `buildData` encodes with kind `00`. -/
def burstsBF : List UInt8 := [D.voiceBurstB, D.voiceBurstC, D.voiceBurstD, D.voiceBurstE, D.voiceBurstF]

/-- All six voice bursts. -/
def bursts : List UInt8 := D.voiceBurstA :: D.burstsBF

end Dmr

/-- `dmr.Packet`, with the fields the homebrew code reads and writes. -/
structure Packet where
  sequence : UInt8
  srcID : UInt32
  dstID : UInt32
  repeaterID : UInt32
  /-- `0` is timeslot 1, `1` timeslot 2. -/
  timeslot : UInt8
  callType : UInt8
  streamID : UInt32
  dataType : UInt8
  ber : UInt8
  rssi : UInt8
  /-- The 33 bytes of burst payload. -/
  data : List UInt8
  deriving DecidableEq, Repr

/-! ### Frame tags

"Messages as documented by DL5DI, G4KLX and DG1HT" in `homebrew.go`. -/

def DMRData : List UInt8 := ascii "DMRD"
def MasterNAK : List UInt8 := ascii "MSTNAK"
def MasterACK : List UInt8 := ascii "MSTACK"
def RepeaterACK : List UInt8 := ascii "RPTACK"
def RepeaterLogin : List UInt8 := ascii "RPTL"
def RepeaterKey : List UInt8 := ascii "RPTK"
def RepeaterConfig : List UInt8 := ascii "RPTC"
def MasterPing : List UInt8 := ascii "MSTPING"
def MasterPong : List UInt8 := ascii "MSTPONG"
def RepeaterPing : List UInt8 := ascii "RPTPING"
def RepeaterPong : List UInt8 := ascii "RPTPONG"
def MasterClosing : List UInt8 := ascii "MSTCL"
def RepeaterClosing : List UInt8 := ascii "RPTCL"

/-- The verbs the endpoint dispatches on, as the bytes they are: with them `simp` tells two verbs
apart. -/
theorem verb_bytes : DMRData = [68, 77, 82, 68] ∧ RepeaterLogin = [82, 80, 84, 76] ∧
    RepeaterKey = [82, 80, 84, 75] ∧ RepeaterConfig = [82, 80, 84, 67] ∧
    MasterACK = [77, 83, 84, 65, 67, 75] ∧ MasterNAK = [77, 83, 84, 78, 65, 75] ∧
    RepeaterACK = [82, 80, 84, 65, 67, 75] ∧ MasterPing = [77, 83, 84, 80, 73, 78, 71] ∧
    RepeaterPing = [82, 80, 84, 80, 73, 78, 71] ∧ MasterPong = [77, 83, 84, 80, 79, 78, 71] ∧
    RepeaterPong = [82, 80, 84, 80, 79, 78, 71] :=
  ⟨rfl, rfl, rfl, rfl, rfl, rfl, rfl, rfl, rfl, rfl, rfl⟩

/-! ### The encoder -/

/-- Byte 15 as `buildData` leaves it: timeslot and call type, then what the switch on
`p.DataType` ors in.  The data-sync branch ors in the data type unmasked. -/
def packedByte (D : Dmr) (p : Packet) : UInt8 :=
  let b := ((p.timeslot &&& 0x01) <<< 7) ||| ((p.callType &&& 0x01) <<< 6)
  if p.dataType ∈ D.burstsBF then (b ||| ((0x00 : UInt8) <<< 4)) ||| (p.dataType - D.voiceBurstA)
  else if p.dataType = D.voiceBurstA then b ||| ((0x01 : UInt8) <<< 4)
  else (b ||| ((0x02 : UInt8) <<< 4)) ||| p.dataType

/-- `buildData`: the 55-byte Homebrew frame of a DMR packet, sent with the repeater id
`repeaterID`.  The payload is `copy(data[20:53], p.Data)`. -/
def buildData (D : Dmr) (p : Packet) (repeaterID : UInt32) : List UInt8 :=
  DMRData ++
    [p.sequence,
      (p.srcID >>> 16).toUInt8, (p.srcID >>> 8).toUInt8, p.srcID.toUInt8,
      (p.dstID >>> 16).toUInt8, (p.dstID >>> 8).toUInt8, p.dstID.toUInt8,
      (repeaterID >>> 24).toUInt8, (repeaterID >>> 16).toUInt8, (repeaterID >>> 8).toUInt8,
      repeaterID.toUInt8,
      packedByte D p,
      (p.streamID >>> 24).toUInt8, (p.streamID >>> 16).toUInt8, (p.streamID >>> 8).toUInt8,
      p.streamID.toUInt8] ++
    copyInto 33 p.data ++ [p.ber, p.rssi]

@[simp] theorem length_buildData (D : Dmr) (p : Packet) (rid : UInt32) :
    (buildData D p rid).length = 55 := by
  simp [buildData, DMRData, ascii]

theorem take_four_buildData (D : Dmr) (p : Packet) (rid : UInt32) :
    (buildData D p rid).take 4 = DMRData := by
  simp [buildData, DMRData, ascii]

/-! ### The decoder -/

/-- The switch of `parseData` on the frame kind `(data[15] >> 4) & 0x03`: voice (`00`, `01`)
counts the nibble from burst A, data sync (`10`) takes the nibble itself, and `11` is an error. -/
def decodeDataType (D : Dmr) (kind nib : UInt8) : Except String UInt8 :=
  if kind = 0x00 ∨ kind = 0x01 then .ok (D.voiceBurstA + nib)
  else if kind = 0x02 then .ok nib
  else .error "homebrew: unexpected frame type 0b11"

/-- `parseData`: the packet in a Homebrew frame, or the decoder's error. -/
def parseData (D : Dmr) (data : List UInt8) : Except String Packet :=
  if data.length ≠ 55 then
    .error ("homebrew: expected 55 data bytes, got " ++ toString data.length)
  else
    let b : ℕ → UInt8 := fun i => data.getD i 0
    (decodeDataType D ((b 15 >>> 4) &&& 0x03) (b 15 &&& 0x0f)).map fun dataType =>
      { sequence := b 4
        srcID := (b 5).toUInt32 <<< 16 ||| (b 6).toUInt32 <<< 8 ||| (b 7).toUInt32
        dstID := (b 8).toUInt32 <<< 16 ||| (b 9).toUInt32 <<< 8 ||| (b 10).toUInt32
        repeaterID := (b 11).toUInt32 <<< 24 ||| (b 12).toUInt32 <<< 16 |||
          (b 13).toUInt32 <<< 8 ||| (b 14).toUInt32
        timeslot := (b 15 >>> 7) &&& 0x01
        callType := (b 15 >>> 6) &&& 0x01
        streamID := (b 16).toUInt32 <<< 24 ||| (b 17).toUInt32 <<< 16 |||
          (b 18).toUInt32 <<< 8 ||| (b 19).toUInt32
        dataType := dataType
        ber := b 53
        rssi := b 54
        data := (data.drop 20).take 33 }

/-! ### Byte 15 -/

/-- The fields of byte 15 for every timeslot and call-type bit, the three kinds `buildData` writes
and every nibble; checked over the `2 * 2 * 3 * 16` cases. -/
theorem flags_fields_fin : ∀ ts ct : Fin 2, ∀ kind : Fin 3, ∀ nib : Fin 16,
    let b : UInt8 := ((UInt8.ofNat ts &&& 0x01) <<< 7 ||| (UInt8.ofNat ct &&& 0x01) <<< 6 |||
      UInt8.ofNat kind <<< 4) ||| UInt8.ofNat nib
    (b >>> 7) &&& 0x01 = UInt8.ofNat ts ∧ (b >>> 6) &&& 0x01 = UInt8.ofNat ct ∧
      (b >>> 4) &&& 0x03 = UInt8.ofNat kind ∧ b &&& 0x0f = UInt8.ofNat nib := by
  decide

theorem UInt8.eq_ofNat_toNat (x : UInt8) : x = UInt8.ofNat x.toNat :=
  UInt8.toNat.inj (UInt8.toNat_ofNat_of_lt x.toNat_lt_size).symm

/-- Reading the timeslot, the call type, the kind and the nibble back out of a byte 15. -/
theorem flags_fields (ts ct kind nib : UInt8) (hts : ts.toNat < 2) (hct : ct.toNat < 2)
    (hk : kind.toNat < 3) (hn : nib.toNat < 16) :
    let b : UInt8 := ((ts &&& 0x01) <<< 7 ||| (ct &&& 0x01) <<< 6 ||| kind <<< 4) ||| nib
    (b >>> 7) &&& 0x01 = ts ∧ (b >>> 6) &&& 0x01 = ct ∧ (b >>> 4) &&& 0x03 = kind ∧
      b &&& 0x0f = nib := by
  rw [UInt8.eq_ofNat_toNat ts, UInt8.eq_ofNat_toNat ct, UInt8.eq_ofNat_toNat kind,
    UInt8.eq_ofNat_toNat nib]
  exact flags_fields_fin ⟨_, hts⟩ ⟨_, hct⟩ ⟨_, hk⟩ ⟨_, hn⟩

/-- A voice burst's byte 15 as `buildData` writes it: timeslot, call type, a voice kind (`00` or
`01`) and a nibble from which `parseData` recovers the burst. -/
theorem packedByte_of_burst (D : Dmr) (p : Packet) (hdt : p.dataType ∈ D.bursts) :
    ∃ kind nib : UInt8, (kind = 0x00 ∨ kind = 0x01) ∧ nib.toNat < 16 ∧
      packedByte D p = ((p.timeslot &&& 0x01) <<< 7 ||| (p.callType &&& 0x01) <<< 6 |||
        kind <<< 4) ||| nib ∧ decodeDataType D kind nib = .ok p.dataType := by
  unfold packedByte
  split_ifs with hBF hA
  · -- bursts B–F: kind `00`, the nibble counts from burst A
    refine ⟨0x00, p.dataType - D.voiceBurstA, .inl rfl, ?_, rfl, ?_⟩
    · simp only [Dmr.burstsBF, Dmr.voiceBurstB, Dmr.voiceBurstC, Dmr.voiceBurstD, Dmr.voiceBurstE,
        Dmr.voiceBurstF, List.mem_cons, List.mem_singleton, List.not_mem_nil, or_false] at hBF
      rcases hBF with h | h | h | h | h <;> rw [h, add_sub_cancel_left] <;> decide
    · simp [decodeDataType]
  · -- burst A: kind `01`, nibble `0`
    refine ⟨0x01, 0, .inr rfl, by decide, ?_, by simp [decodeDataType, hA]⟩
    exact (UInt8.eq_of_toBitVec_eq BitVec.or_zero).symm
  · exact absurd hdt (by simp [Dmr.bursts, hA, hBF])

/-- What `buildData` puts in byte 15: timeslot, call type, and a kind and nibble from which
`parseData` recovers the data type. -/
theorem packedByte_spec (D : Dmr) (p : Packet) (hdt : p.dataType ∈ D.bursts ∨ p.dataType < 16) :
    ∃ kind nib : UInt8, kind.toNat < 3 ∧ nib.toNat < 16 ∧
      packedByte D p = ((p.timeslot &&& 0x01) <<< 7 ||| (p.callType &&& 0x01) <<< 6 |||
        kind <<< 4) ||| nib ∧ decodeDataType D kind nib = .ok p.dataType := by
  by_cases hb : p.dataType ∈ D.bursts
  · obtain ⟨kind, nib, hk, hrest⟩ := packedByte_of_burst D p hb
    exact ⟨kind, nib, by rcases hk with rfl | rfl <;> decide, hrest⟩
  · -- data sync: kind `10`, the nibble is the data type, below 16 by `hdt`
    have hA : p.dataType ≠ D.voiceBurstA := fun h => hb (h ▸ List.mem_cons_self _ _)
    have hBF : p.dataType ∉ D.burstsBF := fun h => hb (List.mem_cons_of_mem _ h)
    rw [packedByte, if_neg hBF, if_neg hA]
    exact ⟨0x02, p.dataType, by decide, hdt.resolve_left hb, rfl, by simp [decodeDataType]⟩

/-! ### The round trip -/

/-- The positions of a 55-byte frame made of a 20-byte header, 33 payload bytes, BER and RSSI. -/
theorem getD_frame (h20 : List UInt8) {pay : List UInt8} (a b : UInt8) (hh : h20.length = 20)
    (hp : pay.length = 33) :
    (h20 ++ pay ++ [a, b]).getD 53 0 = a ∧ (h20 ++ pay ++ [a, b]).getD 54 0 = b ∧
      ((h20 ++ pay ++ [a, b]).drop 20).take 33 = pay ∧
      ∀ i < 20, (h20 ++ pay ++ [a, b]).getD i 0 = h20.getD i 0 := by
  refine ⟨?_, ?_, ?_, fun i hi => ?_⟩
  · rw [List.getD_append_right _ _ _ _ (by simp [hh, hp])]; simp [hh, hp]
  · rw [List.getD_append_right _ _ _ _ (by simp [hh, hp])]; simp [hh, hp]
  · simp [List.drop_append_eq_append_drop, hh, hp]
  · rw [List.append_assoc, List.getD_append _ _ _ _ (by omega)]

theorem DMRData_eq : DMRData = [68, 77, 82, 68] := rfl

theorem toNat_lt_two {x : UInt8} (h : x ≤ 1) : x.toNat < 2 := by
  have : x.toNat ≤ 1 := h
  omega

/-- **Round trip of the data frame.**  A packet with 24-bit source and destination ids, a one-bit
timeslot and call type, 33 payload bytes, and a data type that is a voice burst or below 16 is
decoded from its frame unchanged, except for the repeater id, which is the frame's. -/
theorem parseData_buildData (D : Dmr) (p : Packet) (rid : UInt32)
    (hsrc : p.srcID.toNat < 2 ^ 24) (hdst : p.dstID.toNat < 2 ^ 24)
    (hts : p.timeslot ≤ 1) (hct : p.callType ≤ 1) (hdata : p.data.length = 33)
    (hdt : p.dataType ∈ D.bursts ∨ p.dataType < 16) :
    parseData D (buildData D p rid) = .ok { p with repeaterID := rid } := by
  obtain ⟨h53, h54, hpay, hhead⟩ := getD_frame (DMRData ++ [p.sequence,
      (p.srcID >>> 16).toUInt8, (p.srcID >>> 8).toUInt8, p.srcID.toUInt8,
      (p.dstID >>> 16).toUInt8, (p.dstID >>> 8).toUInt8, p.dstID.toUInt8,
      (rid >>> 24).toUInt8, (rid >>> 16).toUInt8, (rid >>> 8).toUInt8, rid.toUInt8,
      packedByte D p,
      (p.streamID >>> 24).toUInt8, (p.streamID >>> 16).toUInt8, (p.streamID >>> 8).toUInt8,
      p.streamID.toUInt8]) p.ber p.rssi rfl hdata
  obtain ⟨kind, nib, hk, hn, hb, hdec⟩ := packedByte_spec D p hdt
  obtain ⟨hts', hct', hkind, hnib⟩ :=
    flags_fields _ _ kind nib (toNat_lt_two hts) (toNat_lt_two hct) hk hn
  rw [parseData, if_neg (by simp)]
  simp only [buildData, copyInto_of_length hdata]
  rw [h53, h54, hpay]
  simp only [hhead _ (by decide : 4 < 20), DMRData_eq, List.getD_cons_succ, List.getD_cons_zero,
    List.cons_append, List.nil_append, be24_bytes _ hsrc, be24_bytes _ hdst, be32_bytes]
  rw [hb, hts', hct', hkind, hnib, hdec]
  rfl

/-- Burst B of a group call on timeslot 2, with `VoiceBurstA = 10`. -/
theorem parseData_buildData_burstB :
    let p : Packet :=
      ⟨1, 7, 446, 0, 1, 1, 9, 11, 0, 0, List.replicate 33 0⟩
    (p.srcID.toNat < 2 ^ 24 ∧ p.dstID.toNat < 2 ^ 24 ∧ p.timeslot ≤ 1 ∧ p.callType ≤ 1 ∧
      p.data.length = 33 ∧ (p.dataType ∈ Dmr.bursts ⟨10, 1, [], []⟩ ∨ p.dataType < 16)) ∧
      parseData ⟨10, 1, [], []⟩ (buildData ⟨10, 1, [], []⟩ p 1) = .ok { p with repeaterID := 1 } :=
  ⟨by decide, parseData_buildData _ _ _ (by decide) (by decide) (by decide) (by decide) rfl
    (by decide)⟩

set_option maxRecDepth 2000 in
/-- Every byte is its timeslot, call-type, kind and nibble fields put back together. -/
theorem byte15_fields_fin : ∀ b : Fin 256, let x := UInt8.ofNat b
    x = (((x >>> 7) &&& 0x01) &&& 0x01) <<< 7 ||| (((x >>> 6) &&& 0x01) &&& 0x01) <<< 6 |||
      ((x >>> 4) &&& 0x03) <<< 4 ||| (x &&& 0x0f) := by
  decide

theorem voiceBurstA_not_mem_burstsBF (D : Dmr) : D.voiceBurstA ∉ D.burstsBF := by
  simp [Dmr.burstsBF, Dmr.voiceBurstB, Dmr.voiceBurstC, Dmr.voiceBurstD, Dmr.voiceBurstE,
    Dmr.voiceBurstF]


theorem byte15_fields (x : UInt8) :
    x = (((x >>> 7) &&& 0x01) &&& 0x01) <<< 7 ||| (((x >>> 6) &&& 0x01) &&& 0x01) <<< 6 |||
      ((x >>> 4) &&& 0x03) <<< 4 ||| (x &&& 0x0f) := by
  have := byte15_fields_fin ⟨x.toNat, x.toNat_lt_size⟩
  rwa [← UInt8.eq_ofNat_toNat] at this

theorem nib_cases {n : UInt8} (h1 : 1 ≤ n) (h5 : n ≤ 5) : n = 1 ∨ n = 2 ∨ n = 3 ∨ n = 4 ∨ n = 5 := by
  have h1' : 1 ≤ n.toNat := (UInt8.le_def.trans BitVec.le_def).mp h1
  have h5' : n.toNat ≤ 5 := (UInt8.le_def.trans BitVec.le_def).mp h5
  rw [UInt8.eq_ofNat_toNat n]
  interval_cases n.toNat <;> decide

/-- **Byte 15 round trip.**  A canonical byte 15 decodes to a data type from which `buildData`,
given back the timeslot and call-type bits, writes the same byte. -/
theorem packedByte_of_canonical (D : Dmr) (b : UInt8)
    (hcanon : ((b >>> 4) &&& 0x03 = 0x01 ∧ b &&& 0x0f = 0) ∨
      ((b >>> 4) &&& 0x03 = 0x00 ∧ 1 ≤ b &&& 0x0f ∧ b &&& 0x0f ≤ 5) ∨
      ((b >>> 4) &&& 0x03 = 0x02 ∧ b &&& 0x0f ∉ D.bursts)) :
    ∃ dt, decodeDataType D ((b >>> 4) &&& 0x03) (b &&& 0x0f) = .ok dt ∧
      ∀ p : Packet, p.timeslot = (b >>> 7) &&& 0x01 → p.callType = (b >>> 6) &&& 0x01 →
        p.dataType = dt → packedByte D p = b := by
  conv in packedByte D _ = b => rw [byte15_fields b]
  rcases hcanon with ⟨hk, hn⟩ | ⟨hk, hn1, hn5⟩ | ⟨hk, hn⟩
  · -- burst A
    refine ⟨D.voiceBurstA, by simp [decodeDataType, hk, hn], fun p hts hct hdt => ?_⟩
    rw [packedByte, if_neg (hdt ▸ voiceBurstA_not_mem_burstsBF D), if_pos hdt, hts, hct, hk, hn]
    exact (UInt8.eq_of_toBitVec_eq BitVec.or_zero).symm
  · -- bursts B to F
    refine ⟨D.voiceBurstA + (b &&& 0x0f), by simp [decodeDataType, hk], fun p hts hct hdt => ?_⟩
    have hBF : p.dataType ∈ D.burstsBF := by
      rw [hdt]
      rcases nib_cases hn1 hn5 with h | h | h | h | h <;>
        simp [h, Dmr.burstsBF, Dmr.voiceBurstB, Dmr.voiceBurstC, Dmr.voiceBurstD, Dmr.voiceBurstE,
          Dmr.voiceBurstF]
    rw [packedByte, if_pos hBF, hts, hct, hk, hdt, add_sub_cancel_left]
  · -- data sync
    refine ⟨b &&& 0x0f, by simp [decodeDataType, hk], fun p hts hct hdt => ?_⟩
    have hA : p.dataType ≠ D.voiceBurstA := fun h => hn (hdt ▸ h ▸ List.mem_cons_self _ _)
    have hBF : p.dataType ∉ D.burstsBF := fun h => hn (hdt ▸ List.mem_cons_of_mem _ h)
    rw [packedByte, if_neg hBF, if_neg hA, hts, hct, hk, hdt]

/-! ### Decoding then encoding -/

theorem getD_buildData_15 (D : Dmr) (p : Packet) (rid : UInt32) :
    (buildData D p rid).getD 15 0 = packedByte D p := by
  rw [buildData, List.getD_append _ _ _ _ (by simp [DMRData_eq]),
    List.getD_append _ _ _ _ (by simp [DMRData_eq])]
  rfl

/-- The data type of a 55-byte frame is decided by byte 15 alone. -/
theorem parseData_map_dataType (D : Dmr) (data : List UInt8) (hl : data.length = 55) :
    (parseData D data).map Packet.dataType =
      decodeDataType D ((data.getD 15 0 >>> 4) &&& 0x03) (data.getD 15 0 &&& 0x0f) := by
  rw [parseData, if_neg (by omega)]
  dsimp only
  cases decodeDataType D ((data.getD 15 0 >>> 4) &&& 0x03) (data.getD 15 0 &&& 0x0f) <;> rfl

/-- What a decoded packet keeps of byte 15: the timeslot and call-type bits, and the data type
its kind and nibble decode to. -/
theorem parseData_ok_fields {D : Dmr} {f : List UInt8} {p : Packet} (hp : parseData D f = .ok p) :
    p.timeslot = (f.getD 15 0 >>> 7) &&& 0x01 ∧ p.callType = (f.getD 15 0 >>> 6) &&& 0x01 ∧
      decodeDataType D ((f.getD 15 0 >>> 4) &&& 0x03) (f.getD 15 0 &&& 0x0f) = .ok p.dataType := by
  unfold parseData at hp
  split_ifs at hp
  cases hd : decodeDataType D ((f.getD 15 0 >>> 4) &&& 0x03) (f.getD 15 0 &&& 0x0f) with
  | error e => simp only [hd, Except.map, reduceCtorEq] at hp
  | ok dt =>
    simp only [hd, Except.map, Except.ok.injEq] at hp
    subst hp
    exact ⟨rfl, rfl, rfl⟩

/-- A 55-byte frame whose byte 15 decodes is accepted. -/
theorem parseData_ok_of_decode {D : Dmr} {f : List UInt8} (hl : f.length = 55) {dt : UInt8}
    (hdec : decodeDataType D ((f.getD 15 0 >>> 4) &&& 0x03) (f.getD 15 0 &&& 0x0f) = .ok dt) :
    ∃ p, parseData D f = .ok p := by
  have h := parseData_map_dataType D f hl
  cases hp : parseData D f with
  | error e => rw [hp, hdec] at h; cases h
  | ok p => exact ⟨p, rfl⟩

/-- **Re-encoding a decoded frame changes at most byte 15.**  `buildData`, given the packet a
`DMRD` frame decodes to and the frame's repeater id, writes the frame back with byte 15 replaced
by the byte it packs. -/
theorem buildData_of_parseData (D : Dmr) (f : List UInt8) (hl : f.length = 55)
    (htag : f.take 4 = DMRData) {p : Packet} (hp : parseData D f = .ok p) :
    buildData D p p.repeaterID = f.set 15 (packedByte D p) := by
  -- the frame as the tag, sixteen header bytes, the payload and two trailing bytes
  obtain ⟨hdr, pay, tl, rfl, hh, hpay, ht⟩ : ∃ hdr pay tl, f = DMRData ++ hdr ++ pay ++ tl ∧
      hdr.length = 16 ∧ pay.length = 33 ∧ tl.length = 2 :=
    ⟨(f.drop 4).take 16, (f.drop 20).take 33, f.drop 53, by
      conv_lhs => rw [← List.take_append_drop 4 f, htag, ← List.take_append_drop 16 (f.drop 4),
        List.drop_drop, ← List.take_append_drop 33 (f.drop 20), List.drop_drop]
      simp only [List.append_assoc], by simp [hl], by simp [hl], by simp [hl]⟩
  match hdr, hh, tl, ht with
  | [a4, a5, a6, a7, a8, a9, a10, a11, a12, a13, a14, a15, a16, a17, a18, a19], _, [a53, a54], _ =>
  rw [parseData, if_neg (by simp [hpay, DMRData_eq])] at hp
  simp only [DMRData_eq, List.cons_append, List.nil_append, List.getD_cons_succ,
    List.getD_cons_zero] at hp ⊢
  cases hd : decodeDataType D ((a15 >>> 4) &&& 0x03) (a15 &&& 0x0f) with
  | error e => simp only [hd, Except.map, reduceCtorEq] at hp
  | ok dt =>
  simp only [hd, Except.map, Except.ok.injEq] at hp
  subst hp
  obtain ⟨h5, h6, h7, -⟩ := bytes_be24 a5 a6 a7
  obtain ⟨h8, h9, h10, -⟩ := bytes_be24 a8 a9 a10
  obtain ⟨h11, h12, h13, h14⟩ := bytes_be32 a11 a12 a13 a14
  obtain ⟨h16, h17, h18, h19⟩ := bytes_be32 a16 a17 a18 a19
  simp only [buildData, DMRData_eq, h5, h6, h7, h8, h9, h10, h11, h12, h13,
    h14, h16, h17, h18, h19, List.drop, List.take_left' hpay, copyInto_of_length hpay,
    List.getD_append_right pay _ _ 33 hpay.le, List.getD_append_right pay _ _ 34 (by omega), hpay]
  simp

/-- Replacing byte 15 of a frame by one with the same timeslot and call-type bits that decodes to
the same data type leaves the decoded packet as it was. -/
theorem parseData_set_15 {D : Dmr} {f : List UInt8} {p : Packet} (hp : parseData D f = .ok p)
    (c : UInt8) (hts : (c >>> 7) &&& 0x01 = p.timeslot) (hct : (c >>> 6) &&& 0x01 = p.callType)
    (hdec : decodeDataType D ((c >>> 4) &&& 0x03) (c &&& 0x0f) = .ok p.dataType) :
    parseData D (f.set 15 c) = .ok p := by
  unfold parseData at hp ⊢
  split_ifs at hp with hl
  have h15 : (f.set 15 c).getD 15 0 = c := by simp [not_not.1 hl]
  rw [if_neg (by simpa using hl)]
  dsimp only
  rw [h15, hdec]
  cases hd : decodeDataType D ((f.getD 15 0 >>> 4) &&& 0x03) (f.getD 15 0 &&& 0x0f) with
  | error e => simp only [hd, Except.map, reduceCtorEq] at hp
  | ok dt =>
    simp only [hd, Except.map, Except.ok.injEq] at hp
    subst hp
    simp [Except.map, List.getElem?_set, List.drop_set_of_lt, hts, hct]

theorem set_getD_self {l : List UInt8} {i : ℕ} (h : i < l.length) : l.set i (l.getD i 0) = l :=
  List.ext_getElem? fun j => by
    by_cases hij : i = j
    · subst hij; simp [h]
    · rw [List.getElem?_set_ne hij]

theorem toNat_and_one_lt (x : UInt8) : (x &&& 0x01).toNat < 2 := by
  have : (x &&& 0x01).toNat ≤ 1 := by rw [UInt8.and_toNat]; exact Nat.and_le_right
  omega

/-- **Decoding then encoding gives the frame back**, for every 55-byte `DMRD` frame whose byte 15
is in a form `buildData` writes: kind `01` with nibble `0`, kind `00` with nibble `1 … 5`, or kind
`10` with a nibble that is none of the voice bursts; the repeater id is the frame's own.  A
data-sync frame whose nibble is a voice burst is decoded as that burst: the packet is the one of
the frame with byte 15 in the voice form `buildData` gives the burst, and `buildData` rebuilds
that voice frame. -/
theorem buildData_parseData (D : Dmr) (f : List UInt8) (hl : f.length = 55)
    (htag : f.take 4 = DMRData) :
    let kind := (f.getD 15 0 >>> 4) &&& 0x03
    let nib := f.getD 15 0 &&& 0x0f
    ((kind = 0x01 ∧ nib = 0) ∨ (kind = 0x00 ∧ 1 ≤ nib ∧ nib ≤ 5) ∨ (kind = 0x02 ∧ nib ∉ D.bursts) →
      ∃ p, parseData D f = .ok p ∧ buildData D p p.repeaterID = f) ∧
    (kind = 0x02 → nib ∈ D.bursts →
      ∃ p, parseData D f = .ok p ∧ p.dataType = nib ∧
        parseData D (f.set 15 (packedByte D p)) = .ok p ∧
        buildData D p p.repeaterID = f.set 15 (packedByte D p) ∧
        ((packedByte D p >>> 4) &&& 0x03 = 0x00 ∨ (packedByte D p >>> 4) &&& 0x03 = 0x01)) := by
  intro kind nib
  refine ⟨fun hcanon => ?_, fun hk hn => ?_⟩
  · -- canonical: `buildData` packs byte 15 back as it was
    obtain ⟨dt, hdec, hbyte⟩ := packedByte_of_canonical D _ hcanon
    obtain ⟨p, hp⟩ := parseData_ok_of_decode hl hdec
    obtain ⟨hts, hct, hdt⟩ := parseData_ok_fields hp
    refine ⟨p, hp, ?_⟩
    rw [buildData_of_parseData D f hl htag hp,
      hbyte p hts hct (Except.ok.inj (hdt.symm.trans hdec)), set_getD_self (by omega)]
  · -- data sync on a voice burst: `buildData` packs the burst's voice byte
    have hdec : decodeDataType D kind nib = .ok nib := by simp [decodeDataType, hk]
    obtain ⟨p, hp⟩ := parseData_ok_of_decode hl hdec
    obtain ⟨hts, hct, hdt⟩ := parseData_ok_fields hp
    have hpdt : p.dataType = nib := Except.ok.inj (hdt.symm.trans hdec)
    obtain ⟨kind', nib', hk', hn', hc, hdec'⟩ := packedByte_of_burst D p (hpdt ▸ hn)
    have hk'3 : kind'.toNat < 3 := by rcases hk' with rfl | rfl <;> decide
    obtain ⟨hts', hct', hkind', hnib'⟩ := flags_fields _ _ kind' nib'
      (hts ▸ toNat_and_one_lt _) (hct ▸ toNat_and_one_lt _) hk'3 hn'
    refine ⟨p, hp, hpdt, ?_, buildData_of_parseData D f hl htag hp, by rwa [hc, hkind']⟩
    exact parseData_set_15 hp _ (by rw [hc, hts']) (by rw [hc, hct'])
      (by rw [hc, hkind', hnib', hdec'])

/-- Burst B of a voice superframe, with `VoiceBurstA = 10`. -/
theorem buildData_parseData_burstB :
    let D : Dmr := ⟨10, 0, [], []⟩
    let f : List UInt8 := DMRData ++ List.replicate 11 0 ++ [0x01] ++ List.replicate 39 0
    (f.length = 55 ∧ f.take 4 = DMRData) ∧
      let kind := (f.getD 15 0 >>> 4) &&& 0x03
      let nib := f.getD 15 0 &&& 0x0f
      ((kind = 0x01 ∧ nib = 0) ∨ (kind = 0x00 ∧ 1 ≤ nib ∧ nib ≤ 5) ∨
          (kind = 0x02 ∧ nib ∉ D.bursts) →
        ∃ p, parseData D f = .ok p ∧ buildData D p p.repeaterID = f) ∧
      (kind = 0x02 → nib ∈ D.bursts →
        ∃ p, parseData D f = .ok p ∧ p.dataType = nib ∧
          parseData D (f.set 15 (packedByte D p)) = .ok p ∧
          buildData D p p.repeaterID = f.set 15 (packedByte D p) ∧
          ((packedByte D p >>> 4) &&& 0x03 = 0x00 ∨ (packedByte D p >>> 4) &&& 0x03 = 0x01)) :=
  ⟨by decide, buildData_parseData _ _ (by decide) (by decide)⟩

/-- A data-sync frame whose nibble is `VoiceBurstA = 10`: `parseData` decodes it to the same packet
as the burst-A voice frame, and `buildData` rebuilds that voice frame. -/
theorem dataSync_frame_rebuilt_as_burstA :
    let D : Dmr := ⟨10, 0, [], []⟩
    let f : List UInt8 := DMRData ++ List.replicate 11 0 ++ [0x2A] ++ List.replicate 39 0
    let g : List UInt8 := DMRData ++ List.replicate 11 0 ++ [0x10] ++ List.replicate 39 0
    f.length = 55 ∧ f.take 4 = DMRData ∧ (f.getD 15 0 >>> 4) &&& 0x03 = 0x02 ∧ f ≠ g ∧
      ∃ p, parseData D f = .ok p ∧ parseData D g = .ok p ∧ buildData D p p.repeaterID = g :=
  ⟨by decide, by decide, by decide, by decide,
    ⟨0, 0, 0, 0, 0, 0, 0, 10, 0, 0, List.replicate 33 0⟩, rfl, rfl, by decide⟩

/-! ### Relaying a decoded frame -/

set_option maxRecDepth 4000 in
/-- For every `VoiceBurstA` in `1 … 240`, the data type `VoiceBurstA + 15`, or-ed unmasked into a
byte 15 of kind `10`, decodes to an error or to another data type. -/
theorem relay_byte_fin : ∀ a : Fin 256, 1 ≤ a.val → a.val ≤ 240 →
    let x := UInt8.ofNat a + 15
    let b : UInt8 :=
      (((0 : UInt8) &&& 0x01) <<< 7 ||| ((0 : UInt8) &&& 0x01) <<< 6 ||| (0x02 : UInt8) <<< 4) ||| x
    (decodeDataType ⟨UInt8.ofNat a, 0, [], []⟩ ((b >>> 4) &&& 0x03) (b &&& 0x0f)).toOption ≠
      some x := by
  decide

/-- A voice frame of kind `00` whose nibble `15` runs past burst F; every other byte after the tag
is zero. -/
def voiceFrame15 : List UInt8 := DMRData ++ List.replicate 11 0 ++ [0x0F] ++ List.replicate 39 0

/-- The packet `parseData` finds in `voiceFrame15`. -/
def voicePacket15 (D : Dmr) : Packet :=
  { sequence := 0, srcID := 0, dstID := 0, repeaterID := 0, timeslot := 0, callType := 0,
    streamID := 0, dataType := D.voiceBurstA + 15, ber := 0, rssi := 0, data := List.replicate 33 0 }

/-- **Relaying does not preserve what the decoder accepts.**  For every value of `VoiceBurstA`
from 1 to 240, `parseData` accepts `voiceFrame15`, but the frame `buildData` makes of the decoded
packet, whatever the repeater id, is rejected or decodes to another data type: the data type
`VoiceBurstA + 15` is past burst F, so the data-sync branch ors it into byte 15 unmasked. -/
theorem relay_changes_dataType (D : Dmr) (hA : 1 ≤ D.voiceBurstA.toNat)
    (hA' : D.voiceBurstA.toNat ≤ 240) :
    ∃ p, parseData D voiceFrame15 = .ok p ∧
      ∀ rid, (parseData D (buildData D p rid)).map Packet.dataType ≠ .ok p.dataType := by
  refine ⟨voicePacket15 D, rfl, fun rid h => ?_⟩
  rw [parseData_map_dataType D _ (length_buildData ..), getD_buildData_15] at h
  have hp : packedByte D (voicePacket15 D) = (((0 : UInt8) &&& 0x01) <<< 7 |||
      ((0 : UInt8) &&& 0x01) <<< 6 ||| (0x02 : UInt8) <<< 4) ||| (D.voiceBurstA + 15) := by
    unfold packedByte
    rw [if_neg, if_neg]
    · rfl
    · simp [voicePacket15]
    · simp [voicePacket15, Dmr.burstsBF, Dmr.voiceBurstB, Dmr.voiceBurstC, Dmr.voiceBurstD,
        Dmr.voiceBurstE, Dmr.voiceBurstF]
  rw [hp] at h
  have hfin := relay_byte_fin ⟨_, D.voiceBurstA.toNat_lt_size⟩ hA hA'
  rw [← UInt8.eq_ofNat_toNat] at hfin
  have hD : decodeDataType D = decodeDataType ⟨D.voiceBurstA, 0, [], []⟩ := rfl
  exact hfin (by rw [← hD, h]; rfl)

/-- With the `dmr` module's `VoiceBurstA = 10`. -/
theorem relay_changes_dataType_ten :
    (1 ≤ (10 : UInt8).toNat ∧ (10 : UInt8).toNat ≤ 240) ∧
      ∃ p, parseData ⟨10, 0, [], []⟩ voiceFrame15 = .ok p ∧
        ∀ rid, (parseData ⟨10, 0, [], []⟩ (buildData ⟨10, 0, [], []⟩ p rid)).map Packet.dataType ≠
          .ok p.dataType :=
  ⟨by decide, relay_changes_dataType ⟨10, 0, [], []⟩ (by decide) (by decide)⟩

end GoDmr
