/-
**The repeater configuration record: `buildConfigData` and `parseConfigData`.**

An `RPTC` frame is 302 bytes of fixed-width ASCII fields: the tag, the 32-bit id, the callsign,
the receive and transmit frequencies, power, colour code, latitude, longitude, height, location,
description, slot count, URL and the software and package identifiers.  `buildConfigData` clamps
the colour code, power and slot count and fills in the default identifiers *in the record it is
given* (the Go function writes through the pointer), so the model returns the updated record with
the frame.  `parseConfigData` tolerates every malformed field: the code ignores the errors of
`strconv`, so a field falls back to what `strconv` returns with its error.

Main definitions:

* `GoDmr.RepeaterConfiguration` — the record;
* `GoDmr.parseConfigData`, `GoDmr.buildConfigData` — the decoder and the encoder.

Main results:

* `GoDmr.parseConfigData_isOk` — the decoder accepts exactly the 302-byte frames;
* `GoDmr.length_buildConfigData` — the encoder always produces 302 bytes;
* `GoDmr.parseConfigData_buildConfigData` — decoding an encoded record gives back its id,
  frequencies and height, the clamped power, colour code and slots, and each string cut to its
  field and trimmed.
-/

import GoDmr.DataFrame
import GoDmr.GoLib

set_option relaxedAutoImplicit false
set_option autoImplicit false

namespace GoDmr

/-- `RepeaterConfiguration`.  Go strings are byte sequences; the `float32` coordinates are kept as
the exact value of their decimal field. -/
structure RepeaterConfiguration where
  id : UInt32
  callsign : List UInt8
  rxFreq : UInt32
  txFreq : UInt32
  txPower : UInt8
  colorCode : UInt8
  latitude : ℚ
  longitude : ℚ
  height : UInt16
  location : List UInt8
  description : List UInt8
  slots : UInt8
  url : List UInt8
  softwareID : List UInt8
  packageID : List UInt8

/-- The `w` bytes of `data` from offset `lo`, `config[lo:lo+w]`. -/
def field (data : List UInt8) (lo w : ℕ) : List UInt8 := (data.drop lo).take w

theorem field_append_left {a rest : List UInt8} {lo w : ℕ} (h : a.length ≤ lo) :
    field (a ++ rest) lo w = field rest (lo - a.length) w := by
  simp [field, List.drop_append_eq_append_drop, List.drop_eq_nil_of_le h]

theorem field_append_here {a rest : List UInt8} {w : ℕ} (h : a.length = w) :
    field (a ++ rest) 0 w = a := by
  simp [field, ← h]

theorem field_self {a : List UInt8} {w : ℕ} (h : a.length = w) : field a 0 w = a := by
  simp [field, ← h]

/-- `parseConfigData`: the record in a configuration frame.  Every numeric field is what
`strconv` returns, error or not, cut to the field's Go type. -/
def parseConfigData (data : List UInt8) : Except String RepeaterConfiguration :=
  if data.length ≠ 302 then
    .error ("homebrew: expected 302 data bytes, got " ++ toString data.length)
  else
    let config := data
    let b : ℕ → UInt8 := fun i => config.getD i 0
    let height := parseUint (field config 55 3) 32
    let rx := parseUint (field config 16 9) 32
    let tx := parseUint (field config 25 9) 32
    let power := parseUint (field config 34 2) 8
    let color := parseUint (field config 36 2) 8
    let lat := (parseFloat (field config 38 8)).getD 0
    let lon := (parseFloat (field config 46 9)).getD 0
    let slots := parseUint (field config 97 1) 8
    .ok { id := (b 4).toUInt32 <<< 24 ||| (b 5).toUInt32 <<< 16 ||| (b 6).toUInt32 <<< 8 |||
            (b 7).toUInt32
          callsign := trimSpace (field config 8 8)
          rxFreq := UInt32.ofNat rx
          txFreq := UInt32.ofNat tx
          txPower := UInt8.ofNat power
          colorCode := UInt8.ofNat color
          latitude := lat
          longitude := lon
          height := UInt16.ofNat height
          location := trimSpace (field config 58 20)
          description := trimSpace (field config 78 19)
          slots := UInt8.ofNat slots
          url := trimSpace (field config 98 124)
          softwareID := trimSpace (field config 222 40)
          packageID := trimSpace (field config 262 40) }

/-- The clamps and defaults `buildConfigData` applies to the record before writing it. -/
def clampConfig (D : Dmr) (c : RepeaterConfiguration) : RepeaterConfiguration :=
  let c := if c.colorCode < 1 then { c with colorCode := 1 } else c
  let c := if c.colorCode > 15 then { c with colorCode := 15 } else c
  let c := if c.txPower > 99 then { c with txPower := 99 } else c
  let c := if c.slots > 4 then { c with slots := 4 } else c
  let c := if c.softwareID = [] then { c with softwareID := D.softwareID } else c
  if c.packageID = [] then { c with packageID := D.packageID } else c

/-- What the clamps leave of each field the decoder reads back: the five they touch are clamped or
defaulted, the others are kept. -/
theorem clampConfig_spec (D : Dmr) (c : RepeaterConfiguration) :
    let c' := clampConfig D c
    (c'.id = c.id ∧ c'.callsign = c.callsign ∧ c'.rxFreq = c.rxFreq ∧ c'.txFreq = c.txFreq ∧
      c'.latitude = c.latitude ∧ c'.longitude = c.longitude ∧ c'.height = c.height ∧
      c'.location = c.location ∧ c'.description = c.description ∧ c'.url = c.url) ∧
    c'.colorCode.toNat = max 1 (min c.colorCode.toNat 15) ∧
    c'.txPower.toNat = min c.txPower.toNat 99 ∧ c'.slots.toNat = min c.slots.toNat 4 ∧
    c'.softwareID = (if c.softwareID = [] then D.softwareID else c.softwareID) ∧
    c'.packageID = (if c.packageID = [] then D.packageID else c.packageID) := by
  simp only [clampConfig, apply_ite RepeaterConfiguration.id,
    apply_ite RepeaterConfiguration.callsign, apply_ite RepeaterConfiguration.rxFreq,
    apply_ite RepeaterConfiguration.txFreq, apply_ite RepeaterConfiguration.latitude,
    apply_ite RepeaterConfiguration.longitude, apply_ite RepeaterConfiguration.height,
    apply_ite RepeaterConfiguration.location, apply_ite RepeaterConfiguration.description,
    apply_ite RepeaterConfiguration.url, apply_ite RepeaterConfiguration.txPower,
    apply_ite RepeaterConfiguration.colorCode, apply_ite RepeaterConfiguration.slots,
    apply_ite RepeaterConfiguration.softwareID, apply_ite RepeaterConfiguration.packageID,
    ite_self, and_self, true_and, and_true]
  refine ⟨?_, ?_, ?_⟩ <;> split_ifs <;>
    simp only [gt_iff_lt, lt_iff_toNat_lt8, UInt8.reduceToNat] at * <;> omega

/-- `buildConfigData`: the record after its clamps and defaults, and the 302-byte frame of it.
Each field is `copy(data[lo:lo+w], []byte(fmt.Sprintf(...)))` into the zeroed frame; the
coordinates are `%-08f` and `%-09f`, cut to their width. -/
def buildConfigData (D : Dmr) (c : RepeaterConfiguration) : RepeaterConfiguration × List UInt8 :=
  let c := clampConfig D c
  let lat := (fmtPadRight 8 (fmtFloat6 c.latitude)).take 8
  let lon := (fmtPadRight 9 (fmtFloat6 c.longitude)).take 9
  (c, RepeaterConfig ++ packRepeaterID c.id ++
    copyInto 8 (fmtPadRight 8 c.callsign) ++
    copyInto 9 (fmtZeroPad 9 c.rxFreq.toNat) ++
    copyInto 9 (fmtZeroPad 9 c.txFreq.toNat) ++
    copyInto 2 (fmtZeroPad 2 c.txPower.toNat) ++
    copyInto 2 (fmtZeroPad 2 c.colorCode.toNat) ++
    copyInto 8 lat ++
    copyInto 9 lon ++
    copyInto 3 (fmtZeroPad 3 c.height.toNat) ++
    copyInto 20 (fmtPadRight 20 c.location) ++
    copyInto 19 (fmtPadRight 19 c.description) ++
    copyInto 1 (fmtZeroPad 1 c.slots.toNat) ++
    copyInto 124 (fmtPadRight 124 c.url) ++
    copyInto 40 (fmtPadRight 40 c.softwareID) ++
    copyInto 40 (fmtPadRight 40 c.packageID))

/-- The record `buildConfigData` leaves behind is the clamped one. -/
theorem buildConfigData_fst (D : Dmr) (c : RepeaterConfiguration) :
    (buildConfigData D c).1 = clampConfig D c := by
  simp only [buildConfigData]

@[simp] theorem length_buildConfigData (D : Dmr) (c : RepeaterConfiguration) :
    (buildConfigData D c).2.length = 302 := by
  simp [buildConfigData, RepeaterConfig, ascii]

/-- The decoder accepts exactly the 302-byte frames. -/
theorem parseConfigData_isOk (data : List UInt8) :
    (parseConfigData data).isOk = true ↔ data.length = 302 := by
  unfold parseConfigData
  by_cases h : data.length = 302 <;> simp [h, Except.isOk, Except.toBool]

/-! ### Decoding an encoded record -/

theorem length_RepeaterConfig : RepeaterConfig.length = 4 := rfl

/-- **The decoder reads back what the encoder wrote**, for frequencies of at most nine digits and
a height of at most three: the id, frequencies and height unchanged, the power, colour code and
slots as clamped, and each string cut to its field width and trimmed of spaces.  No string needs
to be ASCII: `%-Ns` pads by runes, and a rune is at least a byte, so every string field is filled
up to its width either way. -/
theorem parseConfigData_buildConfigData (D : Dmr) (c : RepeaterConfiguration)
    (hrx : c.rxFreq.toNat < 10 ^ 9) (htx : c.txFreq.toNat < 10 ^ 9) (hh : c.height.toNat < 1000) :
    ∃ r, parseConfigData (buildConfigData D c).2 = .ok r ∧
      r.id = c.id ∧ r.rxFreq = c.rxFreq ∧ r.txFreq = c.txFreq ∧ r.height = c.height ∧
      r.txPower.toNat = min c.txPower.toNat 99 ∧
      r.colorCode.toNat = max 1 (min c.colorCode.toNat 15) ∧
      r.slots.toNat = min c.slots.toNat 4 ∧
      r.callsign = trimSpace (c.callsign.take 8) ∧ r.location = trimSpace (c.location.take 20) ∧
      r.description = trimSpace (c.description.take 19) ∧ r.url = trimSpace (c.url.take 124) ∧
      r.softwareID =
        trimSpace ((if c.softwareID = [] then D.softwareID else c.softwareID).take 40) ∧
      r.packageID =
        trimSpace ((if c.packageID = [] then D.packageID else c.packageID).take 40) := by
  obtain ⟨⟨hid, hcs, hrx', htx', -, -, hh', hloc, hdesc, hurl⟩, hcc, htp, hsl, hsw, hpk⟩ :=
    clampConfig_spec D c
  rw [parseConfigData, if_neg (by simp)]
  refine ⟨_, rfl, ?_⟩
  -- each field of the frame, at the offset and width the decoder reads it
  simp only [buildConfigData, List.append_assoc]
  simp (disch := simp [length_RepeaterConfig]) only [field_append_left, field_append_here,
    field_self, length_copyInto, packRepeaterID_length, length_RepeaterConfig,
    trimSpace_copyInto_fmtPadRight, List.length_append, Nat.reduceSub]
  simp only [hid, hcs, hrx', htx', hh', hloc, hdesc, hurl, hsw, hpk, and_true]
  have htp' := (clampConfig D c).txPower.toNat_lt_size
  have hcc' := (clampConfig D c).colorCode.toNat_lt_size
  have hsl' := (clampConfig D c).slots.toNat_lt_size
  rw [parseUint_copyInto_fmtZeroPad hrx (by decide) c.rxFreq.toNat_lt_size,
    parseUint_copyInto_fmtZeroPad htx (by decide) c.txFreq.toNat_lt_size,
    parseUint_copyInto_fmtZeroPad hh (by decide) (by omega),
    parseUint_copyInto_fmtZeroPad (w := 2) (by omega) (by decide) (by omega),
    parseUint_copyInto_fmtZeroPad (w := 2) (n := (clampConfig D c).colorCode.toNat) (by omega)
      (by decide) (by omega),
    parseUint_copyInto_fmtZeroPad (w := 1) (by omega) (by decide) (by omega)]
  -- the id bytes after the tag
  rw [show RepeaterConfig = [82, 80, 84, 67] from rfl]
  simp only [packRepeaterID, List.cons_append, List.nil_append, List.getD_cons_succ,
    List.getD_cons_zero, be32_bytes, true_and]
  exact ⟨UInt32.toNat.inj (UInt32.toNat_ofNat_of_lt c.rxFreq.toNat_lt_size),
    UInt32.toNat.inj (UInt32.toNat_ofNat_of_lt c.txFreq.toNat_lt_size),
    UInt16.toNat.inj (UInt16.toNat_ofNat_of_lt c.height.toNat_lt_size),
    (UInt8.toNat_ofNat_of_lt htp').trans htp, (UInt8.toNat_ofNat_of_lt hcc').trans hcc,
    (UInt8.toNat_ofNat_of_lt hsl').trans hsl⟩

/-- A record with out-of-range power, colour code and slots and no identifiers. -/
theorem parseConfigData_buildConfigData_clamped :
    let c : RepeaterConfiguration :=
      ⟨0x00030D41, ascii "PD0ABC", 438500000, 430900000, 120, 0, 52, 5, 12, ascii "Amsterdam",
        [], 9, [], [], []⟩
    let D : Dmr := ⟨10, 1, ascii "go-dmr", ascii "1.0"⟩
    (c.rxFreq.toNat < 10 ^ 9 ∧ c.txFreq.toNat < 10 ^ 9 ∧ c.height.toNat < 1000) ∧
    ∃ r, parseConfigData (buildConfigData D c).2 = .ok r ∧
      r.id = c.id ∧ r.rxFreq = c.rxFreq ∧ r.txFreq = c.txFreq ∧ r.height = c.height ∧
      r.txPower.toNat = min c.txPower.toNat 99 ∧
      r.colorCode.toNat = max 1 (min c.colorCode.toNat 15) ∧
      r.slots.toNat = min c.slots.toNat 4 ∧
      r.callsign = trimSpace (c.callsign.take 8) ∧ r.location = trimSpace (c.location.take 20) ∧
      r.description = trimSpace (c.description.take 19) ∧ r.url = trimSpace (c.url.take 124) ∧
      r.softwareID =
        trimSpace ((if c.softwareID = [] then D.softwareID else c.softwareID).take 40) ∧
      r.packageID =
        trimSpace ((if c.packageID = [] then D.packageID else c.packageID).take 40) :=
  ⟨by decide, parseConfigData_buildConfigData _ _ (by decide) (by decide) (by decide)⟩

/-! ### The longitude field -/

/-- `%-09f` of a longitude in `[0, 9.9999995)`: its eight characters and a space. -/
theorem fmtPadRight_fmtFloat6_of_one_digit {x : ℚ} (h0 : 0 ≤ x) (h1 : x < 19999999 / 2000000) :
    fmtPadRight 9 (fmtFloat6 x) = fmtFloat6 x ++ [0x20] := by
  obtain ⟨d, t, hx, hd, ht, htd⟩ := fmtFloat6_of_one_digit h0 h1
  have h48 : UInt8.ofNat (48 + d) < 0x80 := by interval_cases d <;> decide
  have hascii : ∀ b ∈ fmtFloat6 x, b < 0x80 := by
    rw [hx]
    rintro b (_ | ⟨_, _ | ⟨_, hb⟩⟩)
    · exact h48
    · decide
    · exact lt_of_digitVal_isSome (htd b hb)
  rw [fmtPadRight, runeCount_of_ascii hascii, hx]
  simp [ht]

/-- **A longitude with one integer digit reads back as `0`.**  `%-09f` writes its eight
characters and pads the ninth byte with a space, which `strconv.ParseFloat` rejects; the code
ignores the error and keeps the `0` it returns. -/
theorem parseConfigData_drops_one_digit_longitude (D : Dmr) (c : RepeaterConfiguration)
    (h0 : 0 ≤ c.longitude) (h1 : c.longitude < 19999999 / 2000000) :
    ∃ r, parseConfigData (buildConfigData D c).2 = .ok r ∧ r.longitude = 0 := by
  obtain ⟨⟨-, -, -, -, -, hlon, -⟩, -⟩ := clampConfig_spec D c
  rw [parseConfigData, if_neg (by simp)]
  refine ⟨_, rfl, ?_⟩
  simp only [buildConfigData, List.append_assoc]
  simp (disch := simp [length_RepeaterConfig]) only [field_append_left, field_append_here,
    length_copyInto, packRepeaterID_length, length_RepeaterConfig, List.length_append,
    Nat.reduceSub]
  rw [hlon, fmtPadRight_fmtFloat6_of_one_digit h0 h1]
  obtain ⟨d, t, hx, -, ht, -⟩ := fmtFloat6_of_one_digit h0 h1
  have hlen : (fmtFloat6 c.longitude ++ [0x20]).length = 9 := by simp [hx, ht]
  rw [List.take_of_length_le hlen.le, copyInto_of_length hlen,
    parseFloat_append_space]
  rfl

/-- A repeater in Amsterdam, at longitude `4.89`, reads back at longitude `0`. -/
theorem parseConfigData_drops_longitude_of_amsterdam :
    let c : RepeaterConfiguration :=
      ⟨0x00030D41, ascii "PD0ABC", 438500000, 430900000, 25, 1, 5237 / 100, 489 / 100, 12,
        ascii "Amsterdam", [], 1, [], [], []⟩
    (0 ≤ c.longitude ∧ c.longitude < 19999999 / 2000000) ∧
      ∃ r, parseConfigData (buildConfigData ⟨10, 1, [], []⟩ c).2 = .ok r ∧ r.longitude = 0 :=
  ⟨by norm_num, parseConfigData_drops_one_digit_longitude _ _ (by norm_num) (by norm_num)⟩

end GoDmr
