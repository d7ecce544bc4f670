import Cobra.Metadata

/-!
# The Timestamp Codec

Every ROI carries its capture time in the metadata values `timestamp0` to `timestamp6`, each
12 bits held in a 16-bit word shifted left by `MD_SHIFT`: the nanoseconds in the low 32 bits
of the 84, the seconds in the next 52. `RtdMetadata::getTimestamp` reads the legacy 64-bit
value, the low 60 bits; `getTimestamps` packs all 84 bits into three 32-bit words; and the
static `adjustTimestamp` adds a whole-second offset to the seconds in place, reading and
writing the raw words `timestamp2` to `timestamp6`.

The masks, shifts and ors of the codec are turned into arithmetic by `and_mask`,
`or_mul_pow` and the shift lemmas of `Nat`; `omega` then does the carrying. No intermediate
value of `getTimestamps` exceeds 32 bits, so its `uint32_t` arithmetic is the arithmetic of
`Nat`; the sum in `adjustTimestamp` wraps at `2 ^ 64`.

## Main results

* `timestamp_codec`: for every row and every 64-bit offset, `getTimestamp` is the first word
  of `getTimestamps` plus `2 ^ 32` times the low 28 bits of the second; `adjustTimestamp`
  keeps the first word and turns the 52-bit seconds `w1 + 2 ^ 32 * w2` into
  `(w1 + 2 ^ 32 * w2 + off) % 2 ^ 52`; it changes no word outside `timestamp2` to
  `timestamp6` and keeps bits 4 to 11 of `timestamp2`; and with offset `0` it changes nothing.
-/

namespace Cobra

/-! ### Bits as arithmetic -/

/-- An or with a multiple of `2 ^ k` of a value below `2 ^ k` is their sum. -/
theorem or_mul_pow {a c k : Nat} (ha : a < 2 ^ k) : a ||| c * 2 ^ k = a + c * 2 ^ k := by
  rw [Nat.lor_comm, Nat.mul_comm, ← Nat.mul_add_lt_is_or ha, Nat.add_comm]

/-- A mask of `m` bits from bit `k` on. -/
theorem and_mask (x m k : Nat) : x &&& (2 ^ m - 1) <<< k = x / 2 ^ k % 2 ^ m * 2 ^ k := by
  rw [← Nat.shiftRight_eq_div_pow, ← Nat.and_pow_two_sub_one_eq_mod, ← Nat.shiftLeft_eq]
  refine Nat.eq_of_testBit_eq fun i => ?_
  simp only [Nat.testBit_and, Nat.testBit_shiftLeft, Nat.testBit_shiftRight,
    Nat.testBit_two_pow_sub_one]
  by_cases h : k ≤ i
  · simp [h, Nat.add_sub_cancel' h]
  · simp [h]

theorem toNat_toUInt16 (v : Nat) : v.toUInt16.toNat = v % 2 ^ 16 := rfl

theorem mod_split (x k : Nat) : x % 2 ^ (k + 12) = x % 2 ^ k + x / 2 ^ k % 2 ^ 12 * 2 ^ k := by
  rw [Nat.pow_add, Nat.mod_mul, Nat.mul_comm]

/-- The low 52 bits are the low four bits and four 12-bit fields. -/
theorem mod_two_pow_52 (x : Nat) :
    x % 2 ^ 4 + x / 2 ^ 4 % 2 ^ 12 * 2 ^ 4 + x / 2 ^ 16 % 2 ^ 12 * 2 ^ 16 +
      x / 2 ^ 28 % 2 ^ 12 * 2 ^ 28 + x / 2 ^ 40 % 2 ^ 12 * 2 ^ 40 = x % 2 ^ 52 := by
  rw [mod_split x 40, mod_split x 28, mod_split x 16, mod_split x 4]

namespace RtdMetadata

/-! ### The codec -/

/-- The row with the raw word `v`, cut to 16 bits, at word `off`. -/
def setWord (m : RtdMetadata) (off v : Nat) : RtdMetadata :=
  ⟨fun i => if i = off then v.toUInt16 else m.word i⟩

@[simp] theorem word_setWord (m : RtdMetadata) (off v i : Nat) :
    (m.setWord off v).word i = if i = off then v.toUInt16 else m.word i := rfl

/-- The first half of `adjustTimestamp`: the 52 seconds bits gathered from the raw words. -/
def readSeconds (m : RtdMetadata) : Nat :=
  let ts := fun k => (m.word (timestampOff k)).toNat
  ts 2 >>> 12 ||| ts 3 &&& 0xfff0 ||| (ts 4 &&& 0xfff0) <<< 12 ||| (ts 5 &&& 0xfff0) <<< 24 |||
    (ts 6 &&& 0xfff0) <<< 36

/-- The second half of `adjustTimestamp`: the seconds written back into the raw words,
`timestamp2` keeping its bits 4 to 11. -/
def writeSeconds (m : RtdMetadata) (secs : Nat) : RtdMetadata :=
  ((((m.setWord (timestampOff 2)
      ((m.word (timestampOff 2)).toNat &&& 0xff0 ||| (secs &&& 0xf) <<< 12)).setWord
    (timestampOff 3) (secs &&& 0xfff0)).setWord
    (timestampOff 4) ((secs &&& 0xfff0000) >>> 12)).setWord
    (timestampOff 5) ((secs &&& 0xfff0000000) >>> 24)).setWord
    (timestampOff 6) ((secs &&& 0xfff0000000000) >>> 36)

/-- `adjustTimestamp`: add `offset` seconds, in `uint64_t` arithmetic, when it is not zero. -/
def adjustTimestamp (m : RtdMetadata) (offset : UInt64) : RtdMetadata :=
  if offset ≠ 0 then m.writeSeconds ((m.readSeconds + offset.toNat) % 2 ^ 64) else m

/-! ### The codec in arithmetic -/

theorem word_lt (m : RtdMetadata) (off : Nat) : (m.word off).toNat < 2 ^ 16 :=
  (m.word off).val.isLt

theorem getmd_eq (m : RtdMetadata) (off : Nat) : m.getmd off = (m.word off).toNat / 2 ^ 4 := by
  simp [getmd, mdShift, Nat.shiftRight_eq_div_pow]

/-- The nanoseconds of the layout: `timestamp0`, `timestamp1` and the low 8 bits of
`timestamp2`. -/
def nanos (m : RtdMetadata) : Nat :=
  m.getmd (timestampOff 0) + m.getmd (timestampOff 1) * 2 ^ 12 +
    m.getmd (timestampOff 2) % 2 ^ 8 * 2 ^ 24

/-- The three words of `getTimestamps`, from the seven values. -/
theorem getTimestamps_eq (m : RtdMetadata) :
    m.getTimestamps =
      [m.nanos,
        m.getmd (timestampOff 2) / 2 ^ 8 + m.getmd (timestampOff 3) * 2 ^ 4 +
          m.getmd (timestampOff 4) * 2 ^ 16 + m.getmd (timestampOff 5) % 2 ^ 4 * 2 ^ 28,
        m.getmd (timestampOff 5) / 2 ^ 4 + m.getmd (timestampOff 6) * 2 ^ 8] := by
  have h0 := m.getmd_lt (timestampOff 0)
  have h1 := m.getmd_lt (timestampOff 1)
  have h2 := m.getmd_lt (timestampOff 2)
  have h3 := m.getmd_lt (timestampOff 3)
  have h4 := m.getmd_lt (timestampOff 4)
  have h5 := m.getmd_lt (timestampOff 5)
  rw [getTimestamps, nanos, show (0xff : Nat) = 2 ^ 8 - 1 from rfl,
    show (0xf : Nat) = 2 ^ 4 - 1 from rfl]
  simp only [Nat.and_pow_two_sub_one_eq_mod, Nat.shiftLeft_eq, Nat.shiftRight_eq_div_pow]
  simp (disch := omega) only [or_mul_pow]

/-- The legacy timestamp is the nanoseconds and the low 28 bits of the second word. -/
theorem getTimestamp_eq (m : RtdMetadata) :
    m.getTimestamp = m.nanos + 2 ^ 32 * ((m.getmd (timestampOff 2) / 2 ^ 8 +
      m.getmd (timestampOff 3) * 2 ^ 4 + m.getmd (timestampOff 4) * 2 ^ 16 +
      m.getmd (timestampOff 5) % 2 ^ 4 * 2 ^ 28) % 2 ^ 28) := by
  have h2 := m.getmd_lt (timestampOff 2)
  have h3 := m.getmd_lt (timestampOff 3)
  have h4 := m.getmd_lt (timestampOff 4)
  simp only [getTimestamp, nanos, Nat.shiftLeft_eq]
  omega

/-- The seconds `adjustTimestamp` reads are the top four bits of `timestamp2` and the values
of `timestamp3` to `timestamp6`. -/
theorem readSeconds_eq (m : RtdMetadata) :
    m.readSeconds = m.getmd (timestampOff 2) / 2 ^ 8 + m.getmd (timestampOff 3) * 2 ^ 4 +
      m.getmd (timestampOff 4) * 2 ^ 16 + m.getmd (timestampOff 5) * 2 ^ 28 +
      m.getmd (timestampOff 6) * 2 ^ 40 := by
  have h2 := m.word_lt (timestampOff 2)
  have h3 := m.word_lt (timestampOff 3)
  have h4 := m.word_lt (timestampOff 4)
  have h5 := m.word_lt (timestampOff 5)
  have h6 := m.word_lt (timestampOff 6)
  rw [readSeconds, show (0xfff0 : Nat) = (2 ^ 12 - 1) <<< 4 from rfl]
  simp only [and_mask]
  simp only [Nat.shiftLeft_eq, Nat.shiftRight_eq_div_pow, Nat.mul_assoc, ← Nat.pow_add,
    Nat.reduceAdd]
  simp (disch := omega) only [or_mul_pow, getmd_eq]
  omega

/-- The second and third words of `getTimestamps` hold the seconds `adjustTimestamp`
reads. -/
theorem seconds_getTimestamps (m : RtdMetadata) :
    m.getmd (timestampOff 2) / 2 ^ 8 + m.getmd (timestampOff 3) * 2 ^ 4 +
        m.getmd (timestampOff 4) * 2 ^ 16 + m.getmd (timestampOff 5) % 2 ^ 4 * 2 ^ 28 +
      2 ^ 32 * (m.getmd (timestampOff 5) / 2 ^ 4 + m.getmd (timestampOff 6) * 2 ^ 8) =
    m.readSeconds := by
  rw [readSeconds_eq]
  omega

/-- The values `writeSeconds` leaves in `timestamp2` to `timestamp6`. -/
theorem getmd_writeSeconds (m : RtdMetadata) (secs : Nat) :
    (m.writeSeconds secs).getmd (timestampOff 2) =
        m.getmd (timestampOff 2) % 2 ^ 8 + secs % 2 ^ 4 * 2 ^ 8 ∧
      (m.writeSeconds secs).getmd (timestampOff 3) = secs / 2 ^ 4 % 2 ^ 12 ∧
      (m.writeSeconds secs).getmd (timestampOff 4) = secs / 2 ^ 16 % 2 ^ 12 ∧
      (m.writeSeconds secs).getmd (timestampOff 5) = secs / 2 ^ 28 % 2 ^ 12 ∧
      (m.writeSeconds secs).getmd (timestampOff 6) = secs / 2 ^ 40 % 2 ^ 12 := by
  have h2 := m.word_lt 26
  simp only [getmd_eq, writeSeconds, word_setWord]
  simp only [timestampOff, Nat.reduceAdd, Nat.reduceEqDiff, ite_true, ite_false, toNat_toUInt16]
  rw [show (0xff0 : Nat) = (2 ^ 8 - 1) <<< 4 from rfl, show (0xf : Nat) = 2 ^ 4 - 1 from rfl,
    show (0xfff0 : Nat) = (2 ^ 12 - 1) <<< 4 from rfl,
    show (0xfff0000 : Nat) = (2 ^ 12 - 1) <<< 16 from rfl,
    show (0xfff0000000 : Nat) = (2 ^ 12 - 1) <<< 28 from rfl,
    show (0xfff0000000000 : Nat) = (2 ^ 12 - 1) <<< 40 from rfl]
  simp only [and_mask, Nat.and_pow_two_sub_one_eq_mod]
  simp only [Nat.shiftLeft_eq, Nat.shiftRight_eq_div_pow]
  simp (disch := omega) only [or_mul_pow]
  omega

/-- Reading back what `writeSeconds` wrote gives its low 52 bits. -/
theorem readSeconds_writeSeconds (m : RtdMetadata) (secs : Nat) :
    (m.writeSeconds secs).readSeconds = secs % 2 ^ 52 := by
  obtain ⟨e2, e3, e4, e5, e6⟩ := getmd_writeSeconds m secs
  have h2 := m.getmd_lt (timestampOff 2)
  have hlow : (m.getmd (timestampOff 2) % 2 ^ 8 + secs % 2 ^ 4 * 2 ^ 8) / 2 ^ 8 = secs % 2 ^ 4 := by
    omega
  rw [readSeconds_eq, e2, e3, e4, e5, e6, hlow, ← mod_two_pow_52]

/-- **`adjustTimestamp` adds the offset to the seconds, modulo `2 ^ 52`.** -/
theorem readSeconds_adjustTimestamp (m : RtdMetadata) (off : UInt64) :
    (m.adjustTimestamp off).readSeconds = (m.readSeconds + off.toNat) % 2 ^ 52 := by
  unfold adjustTimestamp
  split
  · rw [readSeconds_writeSeconds, Nat.mod_mod_of_dvd _ (by decide)]
  · have h2 := m.getmd_lt (timestampOff 2)
    have h3 := m.getmd_lt (timestampOff 3)
    have h4 := m.getmd_lt (timestampOff 4)
    have h5 := m.getmd_lt (timestampOff 5)
    have h6 := m.getmd_lt (timestampOff 6)
    rename_i h
    rw [not_not.1 h, UInt64.toNat_zero, Nat.add_zero, Nat.mod_eq_of_lt (by rw [readSeconds_eq]; omega)]

/-- `adjustTimestamp` writes no word outside `timestamp2` to `timestamp6`. -/
theorem word_adjustTimestamp (m : RtdMetadata) (off : UInt64) {i : Nat}
    (hi : i < timestampOff 2 ∨ timestampOff 6 < i) : (m.adjustTimestamp off).word i = m.word i := by
  unfold adjustTimestamp
  split
  · simp only [writeSeconds, word_setWord, timestampOff] at hi ⊢
    split_ifs <;> first | rfl | omega
  · rfl

theorem getmd_adjustTimestamp (m : RtdMetadata) (off : UInt64) {i : Nat}
    (hi : i < timestampOff 2 ∨ timestampOff 6 < i) : (m.adjustTimestamp off).getmd i = m.getmd i := by
  simp only [getmd, word_adjustTimestamp m off hi]

/-- `adjustTimestamp` keeps bits 4 to 11 of `timestamp2`, the value's bits of the
nanoseconds. -/
theorem bits_adjustTimestamp (m : RtdMetadata) (off : UInt64) :
    ((m.adjustTimestamp off).word (timestampOff 2)).toNat &&& 0xff0 =
      (m.word (timestampOff 2)).toNat &&& 0xff0 := by
  unfold adjustTimestamp
  split
  · have h2 := m.word_lt 26
    simp only [writeSeconds, word_setWord, timestampOff, Nat.reduceAdd, Nat.reduceEqDiff, ite_true,
      ite_false, toNat_toUInt16]
    rw [show (0xff0 : Nat) = (2 ^ 8 - 1) <<< 4 from rfl, show (0xf : Nat) = 2 ^ 4 - 1 from rfl]
    simp only [and_mask, Nat.and_pow_two_sub_one_eq_mod]
    simp only [Nat.shiftLeft_eq]
    simp (disch := omega) only [or_mul_pow]
    omega
  · rfl

theorem nanos_adjustTimestamp (m : RtdMetadata) (off : UInt64) :
    (m.adjustTimestamp off).nanos = m.nanos := by
  have hb := bits_adjustTimestamp m off
  rw [show (0xff0 : Nat) = (2 ^ 8 - 1) <<< 4 from rfl, and_mask, and_mask] at hb
  simp only [nanos, getmd_adjustTimestamp m off (by simp [timestampOff] : timestampOff 0 < _ ∨ _),
    getmd_adjustTimestamp m off (by simp [timestampOff] : timestampOff 1 < _ ∨ _), getmd_eq]
  omega

/-- **The timestamp codec.** For every metadata row and every 64-bit offset, with
`[w0, w1, w2] = getTimestamps()`: `getTimestamp() = w0 + 2 ^ 32 * (w1 % 2 ^ 28)`; after
`adjustTimestamp(row, off)` the first word is still `w0` and the 52-bit seconds
`w1 + 2 ^ 32 * w2` have become `(w1 + 2 ^ 32 * w2 + off) % 2 ^ 52`; no word outside
`timestamp2` to `timestamp6` has changed, nor bits 4 to 11 of `timestamp2`; and an offset of
`0` leaves the row as it is. -/
theorem timestamp_codec (m : RtdMetadata) (off : UInt64) :
    ∃ w0 w1 w2 w1' w2', m.getTimestamps = [w0, w1, w2] ∧
      m.getTimestamp = w0 + 2 ^ 32 * (w1 % 2 ^ 28) ∧
      (m.adjustTimestamp off).getTimestamps = [w0, w1', w2'] ∧
      w1' + 2 ^ 32 * w2' = (w1 + 2 ^ 32 * w2 + off.toNat) % 2 ^ 52 ∧
      (∀ i, i < timestampOff 2 ∨ timestampOff 6 < i → (m.adjustTimestamp off).word i = m.word i) ∧
      ((m.adjustTimestamp off).word (timestampOff 2)).toNat &&& 0xff0 =
        (m.word (timestampOff 2)).toNat &&& 0xff0 ∧
      (off = 0 → m.adjustTimestamp off = m) := by
  refine ⟨m.nanos, _, _, _, _, getTimestamps_eq m, getTimestamp_eq m,
    by rw [getTimestamps_eq, nanos_adjustTimestamp], ?_, fun i hi => word_adjustTimestamp m off hi,
    bits_adjustTimestamp m off, fun h => by simp [adjustTimestamp, h]⟩
  rw [seconds_getTimestamps, seconds_getTimestamps, readSeconds_adjustTimestamp]

end RtdMetadata

end Cobra
