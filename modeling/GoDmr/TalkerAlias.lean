/-
**Talker alias PDUs: `lc/talkeralias.go`.**

A talker alias header PDU is 7 bytes: two bits of data format, five bits of length, one reserved
bit, and 49 bits of payload; a block PDU is 7 bytes of payload.  In the 7-bit format the payload is
seven 7-bit characters, which `ParseTalkerAliasHeaderPDU` unpacks and `Bytes` packs again with a
loop of `movebit` calls, one per payload bit.

The code does not do what this says.  `movebit` writes a clear bit as
`dst[dstByte] &= 0 << uint8(dstBit)`, which clears the *whole* destination byte, so the decoder
keeps of each character only the ones after its last zero bit.  The encoder's first step writes
`out[7/8 - 1]`, that is `out[-1]`, so `Bytes` panics on every 7-bit header; on the other formats
the decoder keeps five payload bytes, `data[1:6]`, and `Bytes` reads the sixth.  The block PDU
keeps six of its seven bytes.

Go slices are modelled as lists with `GoDmr.Lc.index` for indexing, which panics (`none`) below
zero or past the length; Go's shifts, which shift every bit out from a count of 8 on, are
`GoDmr.Lc.shr` and `GoDmr.Lc.shl`.  The loop variables are `int`s; Go's `/` and `%` truncate, and
Lean's agree with them on the nonnegative operands of these loops.

Main definitions:

* `GoDmr.Lc.movebit`, `GoDmr.Lc.forUpTo` — one bit moved, and a `for` loop of them;
* `GoDmr.Lc.parseTalkerAliasHeaderPDU`, `GoDmr.Lc.TalkerAliasHeaderPDU.bytes` — the header codec;
* `GoDmr.Lc.parseTalkerAliasBlockPDU`, `GoDmr.Lc.TalkerAliasBlockPDU.bytes` — the block codec;
* `GoDmr.Lc.streamBit` — bit `i` of a PDU, counted from the top bit of its first byte.

Main results:

* `GoDmr.Lc.bytes_panics_of_format7Bit` — **`Bytes` panics on every 7-bit header**;
* `GoDmr.Lc.talkerAlias_bytes_break_round_trip` — no 7-byte PDU, header or block, comes back
  from `Bytes` of its decoding;
* `GoDmr.Lc.parse_keeps_trailing_ones` — **what the 7-bit decoder computes**: bit `6 - j` of a
  character is set exactly when the stream bits `j … 6` of that character all are.
-/

import Mathlib.Data.UInt
import Mathlib.Tactic.IntervalCases

set_option relaxedAutoImplicit false
set_option autoImplicit false

namespace GoDmr

namespace Lc

/-! ### Go slices, shifts and conversions -/

/-- `s[i]` for an `int` index `i`: an index below zero or past the length panics (`none`). -/
def index (s : List UInt8) (i : ℤ) : Option UInt8 :=
  if 0 ≤ i then s.get? i.toNat else none

/-- `uint8(k)` of an `int`: its low eight bits. -/
def toUInt8 (k : ℤ) : UInt8 := UInt8.ofNat (k % 256).toNat

/-- `x >> k` on a byte.  Go shifts every bit out when `k ≥ 8`, where Lean's `>>>` would take `k`
modulo 8. -/
def shr (x k : UInt8) : UInt8 := if k < 8 then x >>> k else 0

/-- `x << k` on a byte, likewise. -/
def shl (x k : UInt8) : UInt8 := if k < 8 then x <<< k else 0

/-- The `dmr` module's byte masks, which it names by their bits. -/
def B00000001 : UInt8 := 0x01
def B00111110 : UInt8 := 0x3E
def B11000000 : UInt8 := 0xC0

/-! ### The PDUs -/

/-- The data formats of ETSI TS 102 361-2 7.2.18, numbered from `0` by `iota`. -/
def Format7Bit : UInt8 := 0
def FormatISO8Bit : UInt8 := 1
def FormatUTF8 : UInt8 := 2
def FormatUTF16BE : UInt8 := 3

/-- `TalkerAliasHeaderPDU`. -/
structure TalkerAliasHeaderPDU where
  dataFormat : UInt8
  length : UInt8
  data : List UInt8
  deriving DecidableEq, Repr

/-- `TalkerAliasBlockPDU`. -/
structure TalkerAliasBlockPDU where
  data : List UInt8
  deriving DecidableEq, Repr

/-- `movebit(src, srcByte, srcBit, dst, dstByte, dstBit)`: bit `srcBit` of `src[srcByte]` is
written to bit `dstBit` of `dst[dstByte]`.  A set bit is or-ed in; a clear bit is written as
`dst[dstByte] &= 0 << uint8(dstBit)`, which clears the whole byte. -/
def movebit (src : List UInt8) (srcByte srcBit : ℤ) (dst : List UInt8) (dstByte dstBit : ℤ) :
    Option (List UInt8) := do
  let bit := shr (← index src srcByte) (toUInt8 srcBit) &&& B00000001
  let d ← index dst dstByte
  if bit ≥ 1 then pure (dst.set dstByte.toNat (d ||| shl 1 (toUInt8 dstBit)))
  else pure (dst.set dstByte.toNat (d &&& shl 0 (toUInt8 dstBit)))

/-- `for i := lo; i < lo + n; i++ { body(i) }` over the slice the body writes, ending at the first
panic. -/
def forUpTo (body : ℤ → List UInt8 → Option (List UInt8)) (lo : ℤ) :
    ℕ → List UInt8 → Option (List UInt8)
  | 0, s => some s
  | n + 1, s => (body lo s).bind (forUpTo body (lo + 1) n)

/-- The loop of `ParseTalkerAliasHeaderPDU` for the 7-bit format: bit `7 - i % 8` of `data[i / 8]`
to bit `6 - i % 7` of `out[(i - 7) / 7]`, for `7 ≤ i < 56`. -/
def unpack7 (data : List UInt8) : Option (List UInt8) :=
  forUpTo (fun i out => movebit data (i / 8) (7 - i % 8) out ((i - 7) / 7) (6 - i % 7)) 7 49
    (List.replicate 7 0)

/-- `ParseTalkerAliasHeaderPDU(data)`: an error unless `data` is 7 bytes; a panic is `none`.  A
format other than 7-bit keeps `data[1:6]`. -/
def parseTalkerAliasHeaderPDU (data : List UInt8) : Option (Except String TalkerAliasHeaderPDU) :=
  if data.length ≠ 7 then
    some (.error ("dmr/lc/talkeralias: expected 7 bytes, got " ++ toString data.length))
  else do
    let b0 := data.getD 0 0
    let dataFormat := (b0 &&& B11000000) >>> 6
    let out ← if dataFormat = Format7Bit then unpack7 data else some ((data.drop 1).take 5)
    pure (.ok { dataFormat := dataFormat, length := (b0 &&& B00111110) >>> 1, data := out })

/-- The loop of `Bytes` for the 7-bit format: bit `6 - i % 7` of `Data[(i - 7) / 7]` to bit
`7 - i % 8` of `out[i / 8 - 1]`, for `7 ≤ i < 56`. -/
def pack7 (data : List UInt8) : Option (List UInt8) :=
  forUpTo (fun i out => movebit data ((i - 7) / 7) (6 - i % 7) out (i / 8 - 1) (7 - i % 8)) 7 49
    (List.replicate 6 0)

/-- `(*TalkerAliasHeaderPDU).Bytes()`: the format, the length and the reserved bit `bit49`, then
`out[0] … out[5]`; a panic is `none`. -/
def TalkerAliasHeaderPDU.bytes (t : TalkerAliasHeaderPDU) : Option (List UInt8) := do
  let bit49 : UInt8 := 0
  let out ← if t.dataFormat = Format7Bit then pack7 t.data else some t.data
  pure [((t.dataFormat <<< 6) &&& B11000000) ||| ((t.length <<< 1) &&& B00111110) |||
      (bit49 &&& B00000001),
    ← index out 0, ← index out 1, ← index out 2, ← index out 3, ← index out 4, ← index out 5]

/-- `ParseTalkerAliasBlockPDU(data)`: an error unless `data` is 7 bytes; it keeps `data[0:6]`. -/
def parseTalkerAliasBlockPDU (data : List UInt8) : Except String TalkerAliasBlockPDU :=
  if data.length ≠ 7 then
    .error ("dmr/lc/talkeralias: expected 7 bytes, got " ++ toString data.length)
  else .ok ⟨data.take 6⟩

/-- `(*TalkerAliasBlockPDU).Bytes()`. -/
def TalkerAliasBlockPDU.bytes (t : TalkerAliasBlockPDU) : List UInt8 := t.data

/-- Stream bit `i` of a PDU: bit `7 - i % 8` of byte `i / 8`, so that bit 0 is the top bit of the
first byte. -/
def streamBit (b : List UInt8) (i : ℕ) : Bool := (b.getD (i / 8) 0).toNat.testBit (7 - i % 8)

/-! ### Bytes as numbers -/

theorem toNat_shiftRight8 (a b : UInt8) : (a >>> b).toNat = a.toNat >>> (b.toNat % 8) := by
  show (a.toBitVec >>> (b % 8).toBitVec).toNat = _
  simp [BitVec.toNat_ushiftRight]; rfl

theorem toNat_ofNat8 (n : ℕ) (h : n < 256) : (UInt8.ofNat n).toNat = n :=
  UInt8.toNat_ofNat_of_lt h

theorem index_natCast (s : List UInt8) (n : ℕ) (h : n < s.length) :
    index s n = some (s.getD n 0) := by
  simp [index, h, Int.natCast_nonneg]

theorem toUInt8_natCast (n : ℕ) (h : n < 256) : toUInt8 n = UInt8.ofNat n := by
  rw [toUInt8, Int.emod_eq_of_lt (by omega) (by omega), Int.toNat_natCast]

/-- The bit `movebit` reads is the bit of the byte. -/
theorem shr_bit (x : UInt8) (r : ℕ) (hr : r < 8) :
    shr x (UInt8.ofNat r) &&& B00000001 ≥ 1 ↔ x.toNat.testBit r = true := by
  have hr' := toNat_ofNat8 r (by omega)
  have h8 : UInt8.ofNat r < 8 := by rw [UInt8.lt_def, BitVec.lt_def]; exact hr'.trans_lt hr
  rw [shr, if_pos h8, ge_iff_le, UInt8.le_def, BitVec.le_def]
  change 1 ≤ (x >>> UInt8.ofNat r &&& 1).toNat ↔ _
  rw [UInt8.and_toNat, toNat_shiftRight8, hr', Nat.mod_eq_of_lt hr, Nat.testBit_to_div_mod,
    Nat.shiftRight_eq_div_pow, show (1 : UInt8).toNat = 1 from rfl, Nat.and_one_is_mod,
    decide_eq_true_eq]
  omega

/-- A first byte below `0x40` has the format bits `00`. -/
theorem format_of_lt (x : UInt8) (h : x < 0x40) : (x &&& B11000000) >>> 6 = Format7Bit := by
  have key : ∀ a : Fin 64, (UInt8.ofNat a &&& B11000000) >>> 6 = Format7Bit := by decide
  have hx : x.toNat < 64 := by rw [UInt8.lt_def, BitVec.lt_def] at h; exact h
  have := key ⟨x.toNat, hx⟩
  rwa [show UInt8.ofNat x.toNat = x from
    UInt8.toNat.inj (UInt8.toNat_ofNat_of_lt x.toNat_lt_size)] at this

/-! ### Loops -/

/-- A loop whose step at `lo + j` takes `f j` to `f (j + 1)` ends in `f n`. -/
theorem forUpTo_of_step (body : ℤ → List UInt8 → Option (List UInt8)) :
    ∀ (n : ℕ) (lo : ℤ) (f : ℕ → List UInt8),
      (∀ j < n, body (lo + j) (f j) = some (f (j + 1))) → forUpTo body lo n (f 0) = some (f n)
  | 0, _, _, _ => rfl
  | n + 1, lo, f, h => by
    have h0 : body lo (f 0) = some (f 1) := by simpa using h 0 (by omega)
    rw [forUpTo, h0, Option.some_bind]
    refine forUpTo_of_step body n (lo + 1) (fun j => f (j + 1)) fun j hj => ?_
    rw [show lo + 1 + (j : ℤ) = lo + ((j + 1 : ℕ) : ℤ) by omega]
    exact h (j + 1) (by omega)

/-! ### The 7-bit decoder

Step `n` of the decoder's loop (`i = 7 + n`) moves stream bit `7 + n` to bit `6 - n % 7` of
character `n / 7`.  `decodeChar data k m` is character `k` after `m` of its steps, and
`unpackState data n` the whole output after `n` steps. -/

/-- What one `movebit` of the decoder does to its output byte: or in bit `6 - j`, or — for a
clear bit — clear the byte. -/
def decodeBit (d : UInt8) (bit : Bool) (j : ℕ) : UInt8 :=
  if bit then d ||| shl 1 (UInt8.ofNat (6 - j)) else d &&& shl 0 (UInt8.ofNat (6 - j))

/-- Character `k` of the decoder's output after `m` of its seven steps. -/
def decodeChar (data : List UInt8) (k : ℕ) : ℕ → UInt8
  | 0 => 0
  | m + 1 => decodeBit (decodeChar data k m) (streamBit data (7 + 7 * k + m)) m

/-- The decoder's output after `n` steps: character `k` has had `n - 7k` of them, at most seven. -/
def unpackState (data : List UInt8) (n : ℕ) : List UInt8 :=
  List.ofFn fun k : Fin 7 => decodeChar data k (min 7 (n - 7 * k))

@[simp] theorem length_unpackState (data : List UInt8) (n : ℕ) : (unpackState data n).length = 7 :=
  List.length_ofFn _

/-- One `movebit` call of the decoder, on a 7-byte input and output. -/
theorem unpackStep (data out : List UInt8) (hd : data.length = 7) (ho : out.length = 7) (n : ℕ)
    (hn : n < 49) :
    movebit data ((7 + (n : ℤ)) / 8) (7 - (7 + (n : ℤ)) % 8) out ((7 + (n : ℤ) - 7) / 7)
        (6 - (7 + (n : ℤ)) % 7) =
      some (out.set (n / 7) (decodeBit (out.getD (n / 7) 0) (streamBit data (7 + n)) (n % 7))) := by
  have e1 : (7 + (n : ℤ)) / 8 = ((7 + n) / 8 : ℕ) := by omega
  have e2 : 7 - (7 + (n : ℤ)) % 8 = ((7 - (7 + n) % 8 : ℕ) : ℤ) := by omega
  have e3 : (7 + (n : ℤ) - 7) / 7 = ((n / 7 : ℕ) : ℤ) := by omega
  have e4 : 6 - (7 + (n : ℤ)) % 7 = ((6 - n % 7 : ℕ) : ℤ) := by omega
  rw [e1, e2, e3, e4, movebit, index_natCast _ _ (by omega), index_natCast _ _ (by omega),
    toUInt8_natCast _ (by omega), toUInt8_natCast _ (by omega)]
  simp only [Option.pure_def, Option.bind_eq_bind, Option.some_bind, Int.toNat_natCast]
  have hb := shr_bit (data.getD ((7 + n) / 8) 0) (7 - (7 + n) % 8) (by omega)
  have e5 : 6 - n % 7 = 6 - (7 + n) % 7 := by omega
  by_cases hs : streamBit data (7 + n) = true
  · rw [if_pos (hb.mpr hs), decodeBit, if_pos hs, e5]
  · rw [if_neg (fun h => hs (hb.mp h)), decodeBit, if_neg hs, e5]

theorem unpackState_step (data : List UInt8) (hd : data.length = 7) (n : ℕ) (hn : n < 49) :
    movebit data ((7 + (n : ℤ)) / 8) (7 - (7 + (n : ℤ)) % 8) (unpackState data n)
        ((7 + (n : ℤ) - 7) / 7) (6 - (7 + (n : ℤ)) % 7) = some (unpackState data (n + 1)) := by
  rw [unpackStep data _ hd (length_unpackState data n) n hn]
  have hk : n / 7 < 7 := by omega
  have hget : (unpackState data n).getD (n / 7) 0 = decodeChar data (n / 7) (n % 7) := by
    rw [List.getD_eq_getElem?_getD, List.getElem?_eq_getElem (by rwa [length_unpackState]),
      Option.getD_some]
    simp only [unpackState, List.getElem_ofFn]
    congr 1; omega
  have hbit : decodeBit (decodeChar data (n / 7) (n % 7)) (streamBit data (7 + n)) (n % 7) =
      decodeChar data (n / 7) (n % 7 + 1) := by
    rw [decodeChar, show 7 + 7 * (n / 7) + n % 7 = 7 + n by omega]
  rw [hget, hbit, Option.some_inj]
  refine List.ext_getElem (by rw [List.length_set, length_unpackState, length_unpackState])
    fun i h₁ h₂ => ?_
  simp only [unpackState, List.getElem_set, List.getElem_ofFn]
  split_ifs with hi
  · subst hi; congr 1; omega
  · congr 1; omega

/-- The decoder's loop never panics on 7 bytes, and ends with every character after its seven
steps. -/
theorem unpack7_eq (data : List UInt8) (hd : data.length = 7) :
    unpack7 data = some (List.ofFn fun k : Fin 7 => decodeChar data k 7) := by
  have h := forUpTo_of_step
    (fun i out => movebit data (i / 8) (7 - i % 8) out ((i - 7) / 7) (6 - i % 7)) 49 7
    (unpackState data) fun n hn => unpackState_step data hd n hn
  rw [show unpackState data 0 = List.replicate 7 0 from rfl] at h
  rw [unpack7, h, Option.some_inj]
  refine List.ext_getElem (by rw [length_unpackState, List.length_ofFn]) fun i h₁ h₂ => ?_
  simp only [unpackState, List.getElem_ofFn]
  congr 1; rw [List.length_ofFn] at h₂; omega

/-- Seven `decodeBit` steps from `0`, for every seven bits: bit `6 - j` is set exactly when bits
`j … 6` all are, and bit 7 never is.  A finite check over the seven bits. -/
theorem decodeBits_spec : ∀ s0 s1 s2 s3 s4 s5 s6 : Bool,
    let r := decodeBit (decodeBit (decodeBit (decodeBit (decodeBit (decodeBit (decodeBit 0
      s0 0) s1 1) s2 2) s3 3) s4 4) s5 5) s6 6
    r.toNat.testBit 7 = false ∧ ∀ j < 7, r.toNat.testBit (6 - j) =
      decide (∀ j' : ℕ, j' < 7 → j ≤ j' → [s0, s1, s2, s3, s4, s5, s6].getD j' false = true) := by
  decide

theorem decodeChar_bits (data : List UInt8) (k : ℕ) :
    (decodeChar data k 7).toNat.testBit 7 = false ∧ ∀ j < 7,
      (decodeChar data k 7).toNat.testBit (6 - j) =
        decide (∀ j' : ℕ, j' < 7 → j ≤ j' → streamBit data (7 + 7 * k + j') = true) := by
  obtain ⟨h7, hj⟩ := decodeBits_spec (streamBit data (7 + 7 * k + 0))
    (streamBit data (7 + 7 * k + 1)) (streamBit data (7 + 7 * k + 2))
    (streamBit data (7 + 7 * k + 3)) (streamBit data (7 + 7 * k + 4))
    (streamBit data (7 + 7 * k + 5)) (streamBit data (7 + 7 * k + 6))
  refine ⟨h7, fun j hj7 => (hj j hj7).trans (decide_eq_decide.mpr (forall_congr' fun j' => ?_))⟩
  refine imp_congr_right fun hj' => imp_congr_right fun _ => ?_
  interval_cases j' <;> rfl

/-- **What the 7-bit decoder computes.**  For every 7-byte PDU in the 7-bit format,
`ParseTalkerAliasHeaderPDU` returns seven characters, none with bit 7 set, and bit `6 - j` of
character `k` is set exactly when the stream bits `7 + 7k + j … 7 + 7k + 6` all are: a clear bit
clears what came before it, so each character keeps only its trailing ones. -/
theorem parse_keeps_trailing_ones (b : List UInt8) (hb : b.length = 7) (hf : b.getD 0 0 < 0x40) :
    ∃ t, parseTalkerAliasHeaderPDU b = some (.ok t) ∧ t.dataFormat = Format7Bit ∧
      t.data.length = 7 ∧ ∀ k < 7, (t.data.getD k 0).toNat.testBit 7 = false ∧ ∀ j < 7,
        (t.data.getD k 0).toNat.testBit (6 - j) =
          decide (∀ j' : ℕ, j' < 7 → j ≤ j' → streamBit b (7 + 7 * k + j') = true) := by
  refine ⟨⟨Format7Bit, (b.getD 0 0 &&& B00111110) >>> 1,
    List.ofFn fun k : Fin 7 => decodeChar b k 7⟩, ?_, rfl, by simp, fun k hk => ?_⟩
  · rw [parseTalkerAliasHeaderPDU, if_neg (by omega)]
    simp only [format_of_lt _ hf, if_true, unpack7_eq b hb]
    rfl
  · rw [List.getD_eq_getElem?_getD, List.getElem?_eq_getElem (by simpa using hk),
      Option.getD_some, List.getElem_ofFn]
    exact decodeChar_bits b k

/-- The PDU whose only set payload bit is stream bit 7, the top bit of its first character:
the character decodes to `0`, where the unpacking the format specifies gives `0x40`. -/
theorem parse_keeps_trailing_ones_on_first_bit :
    ([1, 0, 0, 0, 0, 0, 0] : List UInt8).length = 7 ∧ ([1, 0, 0, 0, 0, 0, 0] : List UInt8).getD 0 0 < 0x40 ∧
      ∃ t, parseTalkerAliasHeaderPDU [1, 0, 0, 0, 0, 0, 0] = some (.ok t) ∧
        t.dataFormat = Format7Bit ∧ t.data.length = 7 ∧ ∀ k < 7,
          (t.data.getD k 0).toNat.testBit 7 = false ∧ ∀ j < 7,
            (t.data.getD k 0).toNat.testBit (6 - j) = decide (∀ j' : ℕ, j' < 7 → j ≤ j' →
              streamBit [1, 0, 0, 0, 0, 0, 0] (7 + 7 * k + j') = true) :=
  ⟨rfl, by decide, parse_keeps_trailing_ones _ rfl (by decide)⟩

example : parseTalkerAliasHeaderPDU [1, 0, 0, 0, 0, 0, 0] =
    some (.ok ⟨0, 0, [0, 0, 0, 0, 0, 0, 0]⟩) := rfl

/-! ### The encoder -/

/-- The encoder's loop panics at once: its first step writes `out[7 / 8 - 1]`. -/
theorem pack7_eq_none (data : List UInt8) : pack7 data = none := by
  cases data <;> rfl

/-- **`Bytes` panics on every 7-bit header**, whatever its length and characters. -/
theorem bytes_panics_of_format7Bit (t : TalkerAliasHeaderPDU) (h7 : t.dataFormat = Format7Bit) :
    t.bytes = none := by
  rw [TalkerAliasHeaderPDU.bytes, if_pos h7, pack7_eq_none]
  rfl

/-- The alias `PD0ABCD` in the 7-bit format. -/
theorem bytes_panics_on_alias :
    (TalkerAliasHeaderPDU.mk Format7Bit 7 [80, 68, 48, 65, 66, 67, 68]).dataFormat = Format7Bit ∧
      (TalkerAliasHeaderPDU.mk Format7Bit 7 [80, 68, 48, 65, 66, 67, 68]).bytes = none :=
  ⟨rfl, bytes_panics_of_format7Bit _ rfl⟩

/-! ### No round trip -/

/-- **No PDU comes back from `Bytes` of its decoding.**  For every 7-byte input both decoders
succeed; `Bytes` of the header panics — on the 7-bit format in its loop, on the others at
`out[5]`, since the decoder kept the five bytes `data[1:6]` — and `Bytes` of the block returns the
six bytes `data[0:6]`. -/
theorem talkerAlias_bytes_break_round_trip (b : List UInt8) (hb : b.length = 7) :
    (∃ t, parseTalkerAliasHeaderPDU b = some (.ok t) ∧ t.bytes = none) ∧
      ∃ t, parseTalkerAliasBlockPDU b = .ok t ∧ t.bytes = b.take 6 ∧ t.bytes ≠ b := by
  refine ⟨?_, ⟨b.take 6⟩, by simp [parseTalkerAliasBlockPDU, hb], rfl, fun h => ?_⟩
  · by_cases hf : (b.getD 0 0 &&& B11000000) >>> 6 = Format7Bit
    · -- the 7-bit format: the decoder succeeds and the encoder's loop panics
      refine ⟨⟨(b.getD 0 0 &&& B11000000) >>> 6, (b.getD 0 0 &&& B00111110) >>> 1,
        List.ofFn fun k : Fin 7 => decodeChar b k 7⟩, ?_, ?_⟩
      · rw [parseTalkerAliasHeaderPDU, if_neg (by omega)]
        simp only [hf, if_true, unpack7_eq b hb]
        rfl
      · rw [TalkerAliasHeaderPDU.bytes, if_pos hf, pack7_eq_none]
        rfl
    · -- the other formats: five payload bytes, and `Bytes` reads a sixth
      refine ⟨⟨(b.getD 0 0 &&& B11000000) >>> 6, (b.getD 0 0 &&& B00111110) >>> 1,
        (b.drop 1).take 5⟩, ?_, ?_⟩
      · rw [parseTalkerAliasHeaderPDU, if_neg (by omega)]
        simp only [hf, if_false]
        rfl
      · rw [TalkerAliasHeaderPDU.bytes, if_neg hf]
        simp [index, List.getElem?_eq_none, hb]
  · have := congrArg List.length h
    simp [TalkerAliasBlockPDU.bytes, hb] at this

/-- The PDU `A` followed by six zero bytes. -/
theorem talkerAlias_bytes_break_round_trip_on_A :
    ([0x41, 0, 0, 0, 0, 0, 0] : List UInt8).length = 7 ∧
      (∃ t, parseTalkerAliasHeaderPDU [0x41, 0, 0, 0, 0, 0, 0] = some (.ok t) ∧ t.bytes = none) ∧
      ∃ t, parseTalkerAliasBlockPDU [0x41, 0, 0, 0, 0, 0, 0] = .ok t ∧
        t.bytes = ([0x41, 0, 0, 0, 0, 0, 0] : List UInt8).take 6 ∧ t.bytes ≠ [0x41, 0, 0, 0, 0, 0, 0] :=
  ⟨rfl, talkerAlias_bytes_break_round_trip _ rfl⟩

end Lc

end GoDmr
