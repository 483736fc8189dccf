/-
**The Go library calls of the homebrew code.**

The configuration record is read and written through `strconv`, `strings` and `fmt`, and the
repeater-id check through `bytes.EqualFold`.  Each function here follows the Go standard library
on the inputs the homebrew code gives it: Go strings are byte sequences, so everything works on
`List UInt8`.

* `GoDmr.decodeRune` is `utf8.DecodeRune`, with its table of first bytes and accepted second-byte
  ranges; `GoDmr.runeCount` counts what it decodes, as `utf8.RuneCount` does.
* `GoDmr.equalFold` is `bytes.EqualFold`: an ASCII fast path, then rune by rune.  The Unicode
  simple-folding orbits it walks (`unicode.SimpleFold`) are a table outside this repository and are
  taken as a parameter.
* `GoDmr.parseUint` is the value `strconv.ParseUint(s, 10, bitSize)` returns (the code ignores the
  error): `0` on a syntax error, the largest value on overflow, which it detects digit by digit.
* `GoDmr.trimSpace` is `strings.Trim(s, " ")`.
* `GoDmr.fmtZeroPad`, `GoDmr.fmtPadRight` and `GoDmr.fmtFloat6` are the verbs `%0Nd`, `%-Ns` (width
  counted in runes) and `%f` (six decimals, ties to even).
* `GoDmr.parseFloat` is `strconv.ParseFloat` on decimal syntax, returning the exact value the
  digits denote; the binary rounding to `float64` and then `float32` is not modelled, and neither
  are the hexadecimal, infinity and NaN spellings, which it treats as syntax errors.
-/

import GoDmr.Bytes
import Mathlib.Data.Nat.Digits
import Mathlib.Data.Rat.Floor
import Mathlib.Tactic.IntervalCases

set_option relaxedAutoImplicit false
set_option autoImplicit false

namespace GoDmr

/-! ### UTF-8 -/

/-- `utf8.RuneError`. -/
def runeError : UInt32 := 0xFFFD

/-- The `(size, lo, hi)` `utf8.DecodeRune` reads off a leading byte `0x80` or above: the length of
the sequence and the range its second byte must lie in; size `0` marks an invalid leading byte. -/
def leadInfo (b : UInt8) : ℕ × UInt8 × UInt8 :=
  if b < 0xC2 then (0, 0, 0)
  else if b < 0xE0 then (2, 0x80, 0xBF)
  else if b = 0xE0 then (3, 0xA0, 0xBF)
  else if b = 0xED then (3, 0x80, 0x9F)
  else if b < 0xF0 then (3, 0x80, 0xBF)
  else if b = 0xF0 then (4, 0x90, 0xBF)
  else if b < 0xF4 then (4, 0x80, 0xBF)
  else if b = 0xF4 then (4, 0x80, 0x8F)
  else (0, 0, 0)

/-- A continuation byte, `locb <= b <= hicb`. -/
def isCont (b : UInt8) : Bool := 0x80 ≤ b && b ≤ 0xBF

/-- `utf8.DecodeRune`: the first rune of `p` and its width; an invalid or truncated sequence is
`(RuneError, 1)`, and the empty slice `(RuneError, 0)`. -/
def decodeRune : List UInt8 → UInt32 × ℕ
  | [] => (runeError, 0)
  | p0 :: rest =>
    if p0 < 0x80 then (p0.toUInt32, 1) else
    let (sz, lo, hi) := leadInfo p0
    if sz = 0 ∨ rest.length + 1 < sz then (runeError, 1) else
    match rest with
    | b1 :: rest =>
      if b1 < lo ∨ hi < b1 then (runeError, 1)
      else if sz ≤ 2 then (((p0 &&& 0x1F).toUInt32 <<< 6) ||| (b1 &&& 0x3F).toUInt32, 2) else
      match rest with
      | b2 :: rest =>
        if !isCont b2 then (runeError, 1)
        else if sz ≤ 3 then
          (((p0 &&& 0x0F).toUInt32 <<< 12) ||| ((b1 &&& 0x3F).toUInt32 <<< 6) |||
            (b2 &&& 0x3F).toUInt32, 3) else
        match rest with
        | b3 :: _ =>
          if !isCont b3 then (runeError, 1)
          else (((p0 &&& 0x07).toUInt32 <<< 18) ||| ((b1 &&& 0x3F).toUInt32 <<< 12) |||
            ((b2 &&& 0x3F).toUInt32 <<< 6) ||| (b3 &&& 0x3F).toUInt32, 4)
        | [] => (runeError, 1)
      | [] => (runeError, 1)
    | [] => (runeError, 1)

/-- Bytes below `0x80` are ASCII, and or-ing two of them stays ASCII. -/
theorem or_lt_0x80 {a b : UInt8} (ha : a < 0x80) (hb : b < 0x80) : a ||| b < 0x80 := by
  rw [lt_iff_toNat_lt8] at ha hb ⊢
  rw [toNat_or8]
  exact Nat.or_lt_two_pow (n := 7) ha hb

theorem le_or_of_le_0x80 {a : UInt8} (b : UInt8) (ha : 0x80 ≤ a) : 0x80 ≤ a ||| b := by
  have ha' : 128 ≤ a.toNat := (UInt8.le_def.trans BitVec.le_def).mp ha
  have hlt : a.toNat < 256 := a.toNat_lt_size
  refine (UInt8.le_def.trans BitVec.le_def).mpr (show 128 ≤ (a ||| b).toNat from ?_)
  rw [toNat_or8]
  apply Nat.testBit_implies_ge (i := 7)
  rw [Nat.testBit_or, Bool.or_eq_true]
  left
  rw [Nat.testBit_to_div_mod, decide_eq_true_eq]
  omega

/-- A byte that cannot start a UTF-8 sequence decodes as `RuneError`, one byte wide. -/
theorem decodeRune_of_invalid_lead {p0 : UInt8} (rest : List UInt8) (h1 : 0x80 ≤ p0)
    (h2 : p0 < 0xC2) : decodeRune (p0 :: rest) = (runeError, 1) := by
  have : ¬ p0 < 0x80 := UInt8.not_lt.mpr h1
  simp [decodeRune, leadInfo, this, h2]

/-- A nonempty slice decodes to a width between 1 and its length. -/
theorem decodeRune_size (p0 : UInt8) (rest : List UInt8) :
    1 ≤ (decodeRune (p0 :: rest)).2 ∧ (decodeRune (p0 :: rest)).2 ≤ rest.length + 1 := by
  simp only [decodeRune]
  repeat' split
  all_goals simp_all

/-- The loop of `utf8.RuneCount`, run for at most `fuel` runes: each rune `decodeRune` reads off
`p` counts one, an invalid byte too.  Every rune is at least a byte, so `fuel = len(p)` runs the
loop to the end (`runeCount`). -/
def runeCountF : ℕ → List UInt8 → ℕ
  | 0, _ => 0
  | _ + 1, [] => 0
  | fuel + 1, p0 :: rest => 1 + runeCountF fuel ((p0 :: rest).drop (decodeRune (p0 :: rest)).2)

/-- `utf8.RuneCount`. -/
def runeCount (p : List UInt8) : ℕ := runeCountF p.length p

/-- A string of ASCII bytes has one rune per byte. -/
theorem runeCount_of_ascii {p : List UInt8} (h : ∀ b ∈ p, b < 0x80) : runeCount p = p.length := by
  suffices ∀ fuel, p.length ≤ fuel → runeCountF fuel p = p.length from this _ le_rfl
  induction p with
  | nil => intro fuel _; cases fuel <;> rfl
  | cons b p ih =>
    intro fuel hf
    obtain ⟨fuel, rfl⟩ : ∃ k, fuel = k + 1 := ⟨fuel - 1, by simp at hf; omega⟩
    have hb : b < 0x80 := h b (List.mem_cons_self _ _)
    rw [runeCountF, show (decodeRune (b :: p)).2 = 1 by simp [decodeRune, hb], List.drop_one,
      List.tail_cons, ih (fun c hc => h c (List.mem_cons_of_mem _ hc)) fuel (by simp at hf; omega)]
    simp [Nat.add_comm]

/-- Every rune is at least a byte. -/
theorem runeCount_le_length (p : List UInt8) : runeCount p ≤ p.length := by
  suffices ∀ fuel p, runeCountF fuel p ≤ p.length from this _ p
  intro fuel
  induction fuel with
  | zero => intro p; exact Nat.zero_le _
  | succ fuel ih =>
    rintro (_ | ⟨p0, rest⟩)
    · exact Nat.zero_le _
    · have := decodeRune_size p0 rest
      have := ih ((p0 :: rest).drop (decodeRune (p0 :: rest)).2)
      simp only [runeCountF, List.length_drop, List.length_cons] at this ⊢
      omega

/-! ### `bytes.EqualFold` -/

/-- `s` and `t`, both ASCII letters or not, are one letter in two cases (`tr == sr+'a'-'A'`
after ordering them). -/
def asciiFoldEq (sr tr : UInt32) : Bool :=
  let (lo, hi) := if tr < sr then (tr, sr) else (sr, tr)
  lo == hi || (0x41 ≤ lo && lo ≤ 0x5A && hi == lo + 0x20)

/-- The rune-by-rune loop of `bytes.EqualFold`, after the first non-ASCII byte, run for at most
`fuel` runes (`len(s)` is enough).  `foldsTo sr tr` is the `unicode.SimpleFold` loop: whether
`tr`, above `sr`, is in the folding orbit of `sr`. -/
def equalFoldRunes (foldsTo : UInt32 → UInt32 → Bool) : ℕ → List UInt8 → List UInt8 → Bool
  | 0, s, t => s.length == t.length
  | _ + 1, [], t => t.isEmpty
  | _ + 1, s, [] => s.isEmpty
  | fuel + 1, s0 :: s', t0 :: t' =>
    let sr := (decodeRune (s0 :: s')).1
    let tr := (decodeRune (t0 :: t')).1
    let (lo, hi) := if tr < sr then (tr, sr) else (sr, tr)
    let same := lo == hi ||
      (if hi < 0x80 then 0x41 ≤ lo && lo ≤ 0x5A && hi == lo + 0x20 else foldsTo lo hi)
    same && equalFoldRunes foldsTo fuel ((s0 :: s').drop (decodeRune (s0 :: s')).2)
      ((t0 :: t').drop (decodeRune (t0 :: t')).2)

/-- `bytes.EqualFold`: the ASCII fast path compares byte by byte until a byte `0x80` or above,
then hands over to `equalFoldRunes`. -/
def equalFold (foldsTo : UInt32 → UInt32 → Bool) : List UInt8 → List UInt8 → Bool
  | [], t => t.isEmpty
  | s, [] => s.isEmpty
  | s0 :: s', t0 :: t' =>
    if 0x80 ≤ (s0 ||| t0) then equalFoldRunes foldsTo (s'.length + 1) (s0 :: s') (t0 :: t')
    else asciiFoldEq s0.toUInt32 t0.toUInt32 && equalFold foldsTo s' t'

/-- Every string is equal to itself rune by rune. -/
theorem equalFoldRunes_self (f : UInt32 → UInt32 → Bool) :
    ∀ fuel s, equalFoldRunes f fuel s s = true
  | 0, s => by simp [equalFoldRunes]
  | _ + 1, [] => rfl
  | fuel + 1, s0 :: s' => by
    simp [equalFoldRunes, equalFoldRunes_self f fuel]

/-- Every string is equal to itself under `bytes.EqualFold`, on the fast path and after it. -/
theorem equalFold_self (f : UInt32 → UInt32 → Bool) : ∀ s, equalFold f s s = true
  | [] => rfl
  | s0 :: s' => by
    rw [equalFold]
    split_ifs
    · exact equalFoldRunes_self f _ _
    · simp [asciiFoldEq, equalFold_self f s']

/-- Two ASCII strings equal up to the case of their letters are equal under `bytes.EqualFold`,
whatever the folding table: the ASCII fast path never consults it. -/
theorem equalFold_of_asciiFoldEq (f : UInt32 → UInt32 → Bool) {x y : List UInt8}
    (h : List.Forall₂ (fun a b => a < 0x80 ∧ b < 0x80 ∧ asciiFoldEq a.toUInt32 b.toUInt32) x y) :
    equalFold f x y = true := by
  induction h with
  | nil => rfl
  | cons hab _ ih =>
    obtain ⟨ha, hb, hfold⟩ := hab
    rw [equalFold, if_neg (UInt8.not_le.mpr (or_lt_0x80 ha hb)), hfold, ih]
    rfl

/-- An ASCII prefix common to both strings is passed over by the fast path. -/
theorem equalFold_ascii_append (f : UInt32 → UInt32 → Bool) {pre : List UInt8}
    (hpre : ∀ c ∈ pre, c < 0x80) (x y : List UInt8) :
    equalFold f (pre ++ x) (pre ++ y) = equalFold f x y := by
  induction pre with
  | nil => rfl
  | cons c pre ih =>
    have hc := hpre c (List.mem_cons_self _ _)
    rw [List.cons_append, List.cons_append, equalFold, if_neg (UInt8.not_le.mpr (or_lt_0x80 hc hc)),
      ih fun c h => hpre c (List.mem_cons_of_mem _ h)]
    simp [asciiFoldEq]

/-- Two bytes that cannot start a UTF-8 sequence both decode as `RuneError`, so `bytes.EqualFold`
takes them for the same rune. -/
theorem equalFold_invalid_lead (f : UInt32 → UInt32 → Bool) {a b : UInt8} (post : List UInt8)
    (ha : 0x80 ≤ a) (ha' : a < 0xC2) (hb : 0x80 ≤ b) (hb' : b < 0xC2) :
    equalFold f (a :: post) (b :: post) = true := by
  rw [equalFold, if_pos (le_or_of_le_0x80 b ha), equalFoldRunes,
    decodeRune_of_invalid_lead post ha ha', decodeRune_of_invalid_lead post hb hb']
  simp [equalFoldRunes_self]

/-! ### `strconv.ParseUint` -/

/-- The decimal digit a byte stands for, if it is one. -/
def digitVal (c : UInt8) : Option ℕ :=
  if 0x30 ≤ c ∧ c ≤ 0x39 then some (c - 0x30).toNat else none

theorem lt_of_digitVal_isSome {c : UInt8} (h : (digitVal c).isSome) : c < 0x80 := by
  unfold digitVal at h
  split_ifs at h with hc
  · have : c.toNat ≤ 57 := (UInt8.le_def.trans BitVec.le_def).mp hc.2
    exact lt_iff_toNat_lt8.mpr (by show c.toNat < 128; omega)
  · simp at h

/-- The digit loop of `strconv.ParseUint` in base 10, from the value `n` read so far: a byte that
is not a digit is a syntax error (`0`), and a value above `maxVal` a range error (`maxVal`). -/
def parseUintLoop (maxVal : ℕ) : ℕ → List UInt8 → ℕ
  | n, [] => n
  | n, c :: cs =>
    match digitVal c with
    | none => 0
    | some d => if maxVal < n * 10 + d then maxVal else parseUintLoop maxVal (n * 10 + d) cs

/-- The value `strconv.ParseUint(s, 10, bitSize)` returns: the empty string is a syntax error. -/
def parseUint (s : List UInt8) (bitSize : ℕ) : ℕ :=
  if s = [] then 0 else parseUintLoop (2 ^ bitSize - 1) 0 s

/-! ### `strings.Trim` -/

/-- `strings.Trim(s, " ")`: the spaces at both ends removed. -/
def trimSpace (s : List UInt8) : List UInt8 :=
  ((s.dropWhile (· == 0x20)).reverse.dropWhile (· == 0x20)).reverse

/-- Trailing spaces are trimmed away. -/
theorem trimSpace_append_spaces (s : List UInt8) (k : ℕ) :
    trimSpace (s ++ List.replicate k 0x20) = trimSpace s := by
  have hsp : ∀ a ∈ List.replicate k (0x20 : UInt8), (a == 0x20) = true := by
    intro a ha; simp [List.eq_of_mem_replicate ha]
  simp only [trimSpace, List.dropWhile_append]
  split_ifs with h
  · rw [List.isEmpty_iff.mp h]; simp [List.dropWhile_replicate]
  · rw [List.reverse_append, List.reverse_replicate, List.dropWhile_append_of_pos hsp]

/-! ### `fmt` -/

/-- The decimal digits of `n`, as `fmt` writes `%d`. -/
def decimal (n : ℕ) : List UInt8 := (Nat.toDigits 10 n).map fun c => c.toNat.toUInt8

/-- `%0Nd`: the decimal digits of `n`, padded with zeros on the left to `w` bytes. -/
def fmtZeroPad (w n : ℕ) : List UInt8 :=
  List.replicate (w - (decimal n).length) 0x30 ++ decimal n

/-- `%-Ns`: `s`, padded with spaces on the right to `w` runes; a longer `s` is left whole. -/
def fmtPadRight (w : ℕ) (s : List UInt8) : List UInt8 :=
  s ++ List.replicate (w - runeCount s) 0x20

/-- The nearest natural number to a nonnegative `q`, ties to even. -/
def roundHalfEven (q : ℚ) : ℕ :=
  let n := ⌊q⌋.toNat
  let r := q - n
  if r < 1 / 2 then n else if 1 / 2 < r then n + 1 else if n % 2 = 0 then n else n + 1

/-- Rounding a value below `n + 1/2` gives at most `n`, whichever way a tie goes. -/
theorem roundHalfEven_le {q : ℚ} {n : ℕ} (hq : 0 ≤ q) (h : q < n + 1 / 2) : roundHalfEven q ≤ n := by
  have hfl : (⌊q⌋.toNat : ℚ) = ⌊q⌋ := by
    rw [← Int.cast_natCast, Int.toNat_of_nonneg (Int.floor_nonneg.mpr hq)]
  have hlt : ⌊q⌋.toNat < n + 1 := by
    have : (⌊q⌋.toNat : ℚ) < n + 1 := by linarith [Int.floor_le q]
    exact_mod_cast this
  -- unless the fraction is below a half, the integer part is below `n`
  have key : ¬ q - ⌊q⌋.toNat < 1 / 2 → ⌊q⌋.toNat < n := fun hr => by
    have : (⌊q⌋.toNat : ℚ) < n := by linarith [not_lt.mp hr]
    exact_mod_cast this
  unfold roundHalfEven
  dsimp only
  split_ifs with ha
  · omega
  all_goals have := key ha; omega

/-- `%f`: a `-` for a negative value, the integer part, a point and six decimals, rounded to the
nearest, ties to even. -/
def fmtFloat6 (x : ℚ) : List UInt8 :=
  let m := roundHalfEven (|x| * 10 ^ 6)
  (if x < 0 then [0x2D] else []) ++ decimal (m / 10 ^ 6) ++ [0x2E] ++ fmtZeroPad 6 (m % 10 ^ 6)

/-! ### `strconv.ParseFloat` on decimal syntax -/

/-- The digits and underscores at the front of `s`, and the rest. -/
def spanDigits (s : List UInt8) : List UInt8 × List UInt8 :=
  (s.takeWhile fun c => (digitVal c).isSome || c == 0x5F, s.dropWhile fun c => (digitVal c).isSome || c == 0x5F)

/-- The number the decimal digits of `ds` denote, underscores skipped. -/
def digitsValue (ds : List UInt8) : ℕ :=
  ds.foldl (fun n c => match digitVal c with | some d => n * 10 + d | none => n) 0

/-- The number of decimal digits in `ds`. -/
def digitCount (ds : List UInt8) : ℕ := (ds.filter fun c => (digitVal c).isSome).length

/-- `underscoreOK`: every underscore stands between two digits. -/
def underscoreOK (ds : List UInt8) : Bool :=
  let rec go : Bool → List UInt8 → Bool
    | prevDigit, [] => prevDigit || !(ds.contains 0x5F)
    | prevDigit, c :: cs =>
      if c == 0x5F then prevDigit && (match cs with | d :: _ => (digitVal d).isSome | [] => false)
        && go false cs
      else go (digitVal c).isSome cs
  go false ds

/-- `strconv.ParseFloat(s, 64)` on decimal syntax: an optional sign, digits with at most one
point (at least one digit), and an optional exponent `e`/`E` with an optional sign and digits.
Anything else, including a trailing space, is a syntax error (`none`). -/
def parseFloat (s : List UInt8) : Option ℚ :=
  let (neg, s) := match s with
    | 0x2D :: s => (true, s)
    | 0x2B :: s => (false, s)
    | s => (false, s)
  let (intDs, s) := spanDigits s
  let (fracDs, s) := match s with
    | 0x2E :: s => spanDigits s
    | s => ([], s)
  let expPart : Option ℤ := match s with
    | [] => some 0
    | e :: s =>
      if e == 0x65 || e == 0x45 then
        let (eneg, s) := match s with
          | 0x2D :: s => (true, s)
          | 0x2B :: s => (false, s)
          | s => (false, s)
        let (eDs, s) := spanDigits s
        if s = [] ∧ digitCount eDs ≠ 0 ∧ underscoreOK eDs then
          some (if eneg then -(digitsValue eDs : ℤ) else digitsValue eDs)
        else none
      else none
  match expPart with
  | none => none
  | some ex =>
    if digitCount intDs + digitCount fracDs = 0 ∨ ¬ underscoreOK (intDs ++ fracDs) then none else
    let mant : ℚ := (digitsValue (intDs ++ fracDs) : ℚ) / 10 ^ digitCount fracDs
    let v := mant * (10 : ℚ) ^ ex
    some (if neg then -v else v)

/-! ### A trailing space

Every stage of `parseFloat` consumes a sign, a point, an exponent letter or digits and
underscores, never a space; so a space at the end is never consumed, and the exponent stage,
which must reach the end of the string, rejects it. -/

theorem dropWhile_append_of_neg {p : UInt8 → Bool} (l : List UInt8) {x : UInt8} (hx : p x = false) :
    (l ++ [x]).dropWhile p = l.dropWhile p ++ [x] := by
  rw [List.dropWhile_append]
  split_ifs with h
  · rw [List.isEmpty_iff.mp h]; simp [List.dropWhile_cons, hx]
  · rfl

theorem spanDigits_snd_append_space (t : List UInt8) :
    (spanDigits (t ++ [0x20])).2 = (spanDigits t).2 ++ [0x20] :=
  dropWhile_append_of_neg t rfl

theorem spanDigits_append_space (t : List UInt8) :
    spanDigits (t ++ [0x20]) = ((spanDigits (t ++ [0x20])).1, (spanDigits t).2 ++ [0x20]) :=
  Prod.ext rfl (spanDigits_snd_append_space t)

/-- Dropping a first byte other than the space keeps the space at the end. -/
theorem tail_append_space {t s : List UInt8} {a : UInt8} (h : t ++ [0x20] = a :: s) (ha : a ≠ 0x20) :
    ∃ t', s = t' ++ [0x20] := by
  cases t with
  | nil => simp at h; exact absurd h.1.symm ha
  | cons b t => simp at h; exact ⟨t, h.2.symm⟩

/-- **`strconv.ParseFloat` rejects a trailing space.** -/
theorem parseFloat_append_space (s : List UInt8) : parseFloat (s ++ [0x20]) = none := by
  unfold parseFloat
  split
  rename_i neg s1 heq
  obtain ⟨t1, rfl⟩ : ∃ t, s1 = t ++ [0x20] := by
    split at heq <;> simp only [Prod.mk.injEq] at heq <;> rename_i s' heq' <;> obtain ⟨-, rfl⟩ := heq
    · exact tail_append_space heq' (by decide)
    · exact tail_append_space heq' (by decide)
    · exact ⟨s, rfl⟩
  rw [spanDigits_append_space]
  split
  rename_i intDs s2 heq
  obtain ⟨-, rfl⟩ := Prod.mk.injEq _ _ _ _ ▸ heq
  split
  rename_i fracDs s3 heq
  obtain ⟨t3, rfl⟩ : ∃ t, s3 = t ++ [0x20] := by
    split at heq
    · rename_i s' heq'
      obtain ⟨t', rfl⟩ := tail_append_space heq' (by decide)
      rw [spanDigits_append_space, Prod.mk.injEq] at heq
      exact ⟨_, heq.2.symm⟩
    · exact ⟨_, (Prod.mk.injEq _ _ _ _ ▸ heq).2.symm⟩
  dsimp only
  split
  · rfl
  rename_i ex hex
  split at hex
  · simp at *
  rename_i e s4 heq4
  split_ifs at hex with he h0 <;>
  · obtain ⟨t4, rfl⟩ := tail_append_space heq4 (by rintro rfl; simp at he)
    have := h0.1
    split at this
    all_goals first
      | (rename_i s' heq'
         obtain ⟨t', rfl⟩ := tail_append_space heq' (by decide)
         simp [spanDigits_snd_append_space] at this)
      | simp [spanDigits_snd_append_space] at this


/-! ### Reading back what `fmt` writes -/

theorem toDigitsCore_append (b : ℕ) : ∀ (f n : ℕ) (ds : List Char),
    Nat.toDigitsCore b f n ds = Nat.toDigitsCore b f n [] ++ ds
  | 0, _, _ => rfl
  | f + 1, n, ds => by
    simp only [Nat.toDigitsCore]
    split_ifs
    · rfl
    · rw [toDigitsCore_append b f _ (_ :: ds), toDigitsCore_append b f _ [_]]
      simp

/-- Any fuel above `n` gives the same digits. -/
theorem toDigitsCore_fuel (b : ℕ) (hb : 2 ≤ b) : ∀ (f g n : ℕ), n < f → n < g →
    Nat.toDigitsCore b f n [] = Nat.toDigitsCore b g n []
  | 0, _, _, h, _ => absurd h (Nat.not_lt_zero _)
  | _, 0, _, _, h => absurd h (Nat.not_lt_zero _)
  | f + 1, g + 1, n, hf, hg => by
    simp only [Nat.toDigitsCore]
    split_ifs with h0
    · rfl
    · have : n / b < n := Nat.div_lt_self (Nat.pos_of_ne_zero fun h => h0 (by simp [h])) hb
      rw [toDigitsCore_append b f, toDigitsCore_append b g,
        toDigitsCore_fuel b hb f g (n / b) (by omega) (by omega)]

theorem digitChar_byte {d : ℕ} (h : d < 10) :
    (Nat.digitChar d).toNat.toUInt8 = UInt8.ofNat (48 + d) := by
  interval_cases d <;> rfl

theorem digitVal_byte {d : ℕ} (h : d < 10) : digitVal (UInt8.ofNat (48 + d)) = some d := by
  interval_cases d <;> rfl

/-- `%d` writes the last digit at the end, after the digits of `n / 10`. -/
theorem decimal_eq (n : ℕ) :
    decimal n = (if n < 10 then [] else decimal (n / 10)) ++ [UInt8.ofNat (48 + n % 10)] := by
  rw [← digitChar_byte (Nat.mod_lt n (by decide))]
  split_ifs with h
  · simp [decimal, Nat.toDigits, Nat.toDigitsCore, Nat.div_eq_of_lt h]
  · simp only [decimal, Nat.toDigits, Nat.toDigitsCore, show n / 10 ≠ 0 by omega, if_false]
    rw [toDigitsCore_append, toDigitsCore_fuel 10 (by decide) n (n / 10 + 1) (n / 10) (by omega)
      (by omega), List.map_append]
    rfl

theorem length_decimal_le {n k : ℕ} (h : n < 10 ^ k) (hk : 0 < k) : (decimal n).length ≤ k := by
  simpa [decimal, Nat.toDigits] using Nat.toDigitsCore_length 10 (by decide) _ n k h hk

theorem digitsValue_snoc (xs : List UInt8) {c : UInt8} {d : ℕ} (hc : digitVal c = some d) :
    digitsValue (xs ++ [c]) = digitsValue xs * 10 + d := by
  simp [digitsValue, List.foldl_append, hc]

/-- The leading digit of a digit string weighs `10 ^ (digits after it)`. -/
theorem digitsValue_cons {c : UInt8} {d : ℕ} (hc : digitVal c = some d) (cs : List UInt8)
    (hcs : ∀ c ∈ cs, (digitVal c).isSome) :
    digitsValue (c :: cs) = d * 10 ^ cs.length + digitsValue cs := by
  induction cs using List.reverseRecOn with
  | nil => simp [digitsValue, hc]
  | append_singleton cs e ih =>
    obtain ⟨f, he⟩ := Option.isSome_iff_exists.mp (hcs e (by simp))
    rw [← List.cons_append, digitsValue_snoc _ he, digitsValue_snoc _ he,
      ih fun c h => hcs c (by simp [h])]
    simp [pow_succ]; ring

/-- `%d` writes a digit string that denotes `n`. -/
theorem decimal_digits (n : ℕ) :
    (∀ c ∈ decimal n, (digitVal c).isSome) ∧ digitsValue (decimal n) = n := by
  induction n using Nat.strong_induction_on with
  | _ n ih =>
    have hd := digitVal_byte (Nat.mod_lt n (show 10 > 0 by decide))
    rw [decimal_eq]
    split_ifs with h
    · rw [Nat.mod_eq_of_lt h] at hd ⊢
      simp [digitsValue, hd]
    · obtain ⟨ih1, ih2⟩ := ih (n / 10) (by omega)
      refine ⟨fun c hc => ?_, by rw [digitsValue_snoc _ hd, ih2]; omega⟩
      rcases List.mem_append.mp hc with hc | hc
      · exact ih1 c hc
      · simp_all

/-- The digit loop reads a digit string whose value fits without a range error. -/
theorem parseUintLoop_digits (m : ℕ) : ∀ (a : ℕ) (xs : List UInt8),
    (∀ c ∈ xs, (digitVal c).isSome) → a * 10 ^ xs.length + digitsValue xs ≤ m →
    parseUintLoop m a xs = a * 10 ^ xs.length + digitsValue xs
  | a, [], _, _ => by simp [parseUintLoop, digitsValue]
  | a, c :: cs, hxs, hm => by
    obtain ⟨d, hd⟩ := Option.isSome_iff_exists.mp (hxs c (List.mem_cons_self _ _))
    have hcs : ∀ c ∈ cs, (digitVal c).isSome := fun c h => hxs c (List.mem_cons_of_mem _ h)
    have hv : (a * 10 + d) * 10 ^ cs.length + digitsValue cs =
        a * 10 ^ (c :: cs).length + digitsValue (c :: cs) := by
      rw [digitsValue_cons hd cs hcs, List.length_cons, pow_succ]; ring
    have hle : a * 10 + d ≤ (a * 10 + d) * 10 ^ cs.length :=
      Nat.le_mul_of_pos_right _ (by positivity)
    simp only [parseUintLoop, hd]
    rw [if_neg (by omega), parseUintLoop_digits m _ cs hcs (by omega), hv]

/-- `%0Nd` writes a digit string that denotes `n`: the zeros in front add nothing. -/
theorem fmtZeroPad_digits (w n : ℕ) :
    (∀ c ∈ fmtZeroPad w n, (digitVal c).isSome) ∧ digitsValue (fmtZeroPad w n) = n := by
  obtain ⟨h1, h2⟩ := decimal_digits n
  have hall : ∀ k, ∀ c ∈ List.replicate k 0x30 ++ decimal n, (digitVal c).isSome := by
    intro k c hc
    rcases List.mem_append.mp hc with hc | hc
    · rw [List.eq_of_mem_replicate hc]; rfl
    · exact h1 c hc
  refine ⟨hall _, ?_⟩
  rw [fmtZeroPad]
  generalize w - (decimal n).length = k
  induction k with
  | zero => simpa using h2
  | succ k ih =>
    rw [List.replicate_succ, List.cons_append,
      digitsValue_cons (show digitVal 0x30 = some 0 from rfl) _ (hall k), ih]
    simp

theorem length_fmtZeroPad {w n : ℕ} (h : n < 10 ^ w) (hw : 0 < w) :
    (fmtZeroPad w n).length = w := by
  have := length_decimal_le h hw
  simp [fmtZeroPad]; omega

/-- **`ParseUint` reads back what `%0Nd` wrote**, for a value of at most `w` digits that fits
`bitSize` bits. -/
theorem parseUint_fmtZeroPad {w n bitSize : ℕ} (h : n < 10 ^ w) (hw : 0 < w)
    (hb : n < 2 ^ bitSize) : parseUint (fmtZeroPad w n) bitSize = n := by
  obtain ⟨h1, h2⟩ := fmtZeroPad_digits w n
  have hne : fmtZeroPad w n ≠ [] := by
    rw [← List.length_pos, length_fmtZeroPad h hw]; exact hw
  rw [parseUint, if_neg hne, parseUintLoop_digits _ 0 _ h1 (by omega), h2]
  simp

/-- The same through the `copy` into a zeroed field of width `w`, which `%0Nd` fills exactly. -/
theorem parseUint_copyInto_fmtZeroPad {w n bitSize : ℕ} (h : n < 10 ^ w) (hw : 0 < w)
    (hb : n < 2 ^ bitSize) : parseUint (copyInto w (fmtZeroPad w n)) bitSize = n := by
  rw [copyInto_of_length (length_fmtZeroPad h hw), parseUint_fmtZeroPad h hw hb]

/-- `%f` of a value in `[0, 9.9999995)`: one integer digit, the point, six decimals. -/
theorem fmtFloat6_of_one_digit {x : ℚ} (h0 : 0 ≤ x) (h1 : x < 19999999 / 2000000) :
    ∃ d t, fmtFloat6 x = UInt8.ofNat (48 + d) :: 0x2E :: t ∧ d < 10 ∧ t.length = 6 ∧
      ∀ c ∈ t, (digitVal c).isSome := by
  have hm : roundHalfEven (|x| * 10 ^ 6) ≤ 9999999 :=
    roundHalfEven_le (by rw [abs_of_nonneg h0]; positivity) (by rw [abs_of_nonneg h0]; push_cast; linarith)
  have hd : roundHalfEven (|x| * 10 ^ 6) / 10 ^ 6 < 10 := by omega
  refine ⟨_, fmtZeroPad 6 (roundHalfEven (|x| * 10 ^ 6) % 10 ^ 6), ?_, hd,
    length_fmtZeroPad (Nat.mod_lt _ (by norm_num)) (by decide), (fmtZeroPad_digits _ _).1⟩
  rw [fmtFloat6, if_neg (not_lt.mpr h0), decimal_eq, if_pos hd, Nat.mod_eq_of_lt hd]
  rfl

/-- `%-Ns` cut to `N` bytes: the first `N` bytes of `s`, then spaces.  Every rune is at least a
byte, so the padding reaches `N` bytes whatever `s` holds. -/
theorem copyInto_fmtPadRight (w : ℕ) (s : List UInt8) :
    copyInto w (fmtPadRight w s) = s.take w ++ List.replicate (w - s.length) 0x20 := by
  have := runeCount_le_length s
  simp only [copyInto, fmtPadRight, List.take_append_eq_append_take, List.take_replicate,
    List.length_append, List.length_replicate, List.append_assoc]
  rw [show min (w - s.length) (w - runeCount s) = w - s.length by omega,
    show w - (s.length + (w - runeCount s)) = 0 by omega]
  simp

/-- **`strings.Trim` reads back what `%-Ns` wrote** into an `N`-byte field: the first `N` bytes,
trimmed. -/
theorem trimSpace_copyInto_fmtPadRight (w : ℕ) (s : List UInt8) :
    trimSpace (copyInto w (fmtPadRight w s)) = trimSpace (s.take w) := by
  rw [copyInto_fmtPadRight, trimSpace_append_spaces]

end GoDmr
