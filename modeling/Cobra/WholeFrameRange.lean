import Mathlib

/-!
# Two-Frequency Dealiasing

`RawToDepthDsp::computeWholeFrameRange` turns the smoothed and the corrected phases of the
two modulation frequencies into a range and a period-count frame. Each phase is the
fraction of a cycle that the round trip adds at its frequency; the two together fix the
range up to the maximum unambiguous range `MUR = c / (2 G)` of the pair, `G` being their
greatest common frequency. `RawToDepth::realloc` sets `_fsInt` to the frequencies as
multiples of `G`, and `validateMetadataValues` admits only adjacent frequency indices, whose
multiples are `n0` and `n0 + 1`.

## Arithmetic convention

The `float_t` values are taken as exact values of an ordered field with a floor: the
definitions compute over `ℚ`, and the theorems hold in every such field, `ℝ` among them.
`roundf` rounds halves away from zero, as C's does. The loop over pixels is pointwise, each
iteration reading and writing index `idx` only, so the frames are functions on `Fin n`.

## Main results

* `roundf_intCast_add`: `roundf` is exact on an integer moved by less than a half.
* `floor_succ_mul`: the period counts of adjacent multiples differ by the phase mask.
* `pairRangeAt_dealias`: with ideal corrected phases and smoothed phases off by a small
  noise, the pixel's period count and range are off by exactly the change of the mask.
* `computeWholeFrameRange_dealiases`: at every pixel of the frames `computeWholeFrameRange`
  writes, exact phases give back every range in `[0, MUR)`, and noisy smoothed phases give it
  back up to one `MUR`, exactly when the mask flips.
-/

namespace Cobra

namespace RawToDepthDsp

section Model

variable {α : Type*} [LinearOrderedField α] [FloorRing α]

/-- C's `roundf`: to the nearest integer, halves away from zero. -/
def roundf (x : α) : ℤ := if 0 ≤ x then ⌊x + 1 / 2⌋ else -⌊-x + 1 / 2⌋

/-- `maskNegatives`: `1` when the smoothed phase of F1 is below that of F0. -/
def maskNegatives (phaseSmoothed0 phaseSmoothed1 : α) : ℤ :=
  if phaseSmoothed1 < phaseSmoothed0 then 1 else 0

/-- What one iteration of `computeWholeFrameRange` computes: the value written to `mFrame`,
and the range before its clamp at `0`. -/
structure RangeAt (α : Type*) where
  m : α
  range : α

/-- The loop body of `computeWholeFrameRange` at one pixel. -/
def wholeFrameRangeAt (phaseSmoothed0 phaseSmoothed1 phase0 phase1 : α) (freqs fsInt : α × α)
    (cMps : α) : RangeAt α :=
  let aFloat := 1 / 2 * cMps / (2 * freqs.2)
  let cFloat := 1 / 2 * cMps / (2 * freqs.1)
  let mask : α := maskNegatives phaseSmoothed0 phaseSmoothed1
  let mRawTmp := fsInt.1 * phaseSmoothed1 - fsInt.2 * phaseSmoothed0 + fsInt.1 * mask
  let mRawFloat : α := roundf mRawTmp
  { m := mRawFloat + mRawFloat + mask
    range := aFloat * (mRawFloat + phase1 + mask) + cFloat * (mRawFloat + phase0) }

/-- The clamp of the range at `0`. -/
def clampRange (range : α) : α := if range < 0 then 0 else range

/-- `computeWholeFrameRange(fSmoothedPhases0, fSmoothedPhases1, fCorrectedPhases0,
fCorrectedPhases1, fRanges, freqs, fsInt, cMps, mFrame)`: the frames `fRanges` and `mFrame`
it writes. -/
def computeWholeFrameRange {n : ℕ} (fSmoothedPhases0 fSmoothedPhases1 fCorrectedPhases0
    fCorrectedPhases1 : Fin n → α) (freqs fsInt : α × α) (cMps : α) :
    (Fin n → α) × (Fin n → α) :=
  let px := fun idx => wholeFrameRangeAt (fSmoothedPhases0 idx) (fSmoothedPhases1 idx)
    (fCorrectedPhases0 idx) (fCorrectedPhases1 idx) freqs fsInt cMps
  (fun idx => clampRange (px idx).range, fun idx => (px idx).m)

/-- Each pixel of the frames is the loop body at that pixel, its range clamped at `0`. -/
@[simp] theorem computeWholeFrameRange_apply {n : ℕ} (s0 s1 p0 p1 : Fin n → α)
    (freqs fsInt : α × α) (cMps : α) (idx : Fin n) :
    (computeWholeFrameRange s0 s1 p0 p1 freqs fsInt cMps).1 idx =
        clampRange (wholeFrameRangeAt (s0 idx) (s1 idx) (p0 idx) (p1 idx) freqs fsInt cMps).range ∧
      (computeWholeFrameRange s0 s1 p0 p1 freqs fsInt cMps).2 idx =
        (wholeFrameRangeAt (s0 idx) (s1 idx) (p0 idx) (p1 idx) freqs fsInt cMps).m :=
  ⟨rfl, rfl⟩

omit [FloorRing α] in
theorem clampRange_of_nonneg {range : α} (h : 0 ≤ range) : clampRange range = range :=
  if_neg (not_lt.2 h)

/-- `_fsInt` as `realloc` sets it: each frequency over the greatest common frequency,
rounded. -/
def reallocFsInt (fs : α × α) (gcf : α) : α × α :=
  ((roundf (fs.1 / gcf) : α), (roundf (fs.2 / gcf) : α))

/-! ### The pair of adjacent frequencies -/

/-- The maximum unambiguous range `c / (2 G)` of a pair with greatest common frequency `G`. -/
def maxUnambiguousRange (c G : α) : α := c / (2 * G)

/-- One pixel of `computeWholeFrameRange` for the frequencies `n0 G` and `(n0 + 1) G`, with
`_fsInt` set by `realloc`. -/
def pairRangeAt (n0 : ℕ) (G c phaseSmoothed0 phaseSmoothed1 phase0 phase1 : α) : RangeAt α :=
  let fs : α × α := (n0 * G, (n0 + 1) * G)
  wholeFrameRangeAt phaseSmoothed0 phaseSmoothed1 phase0 phase1 fs (reallocFsInt fs G) c

/-! ### Rounding and period counts -/

/-- `roundf` is exact on an integer moved by less than a half. -/
theorem roundf_intCast_add (k : ℤ) {δ : α} (h : |δ| < 1 / 2) : roundf ((k : α) + δ) = k := by
  rw [abs_lt] at h
  unfold roundf
  split_ifs
  · rw [Int.floor_eq_iff]
    constructor <;> linarith
  · rw [neg_eq_iff_eq_neg, Int.floor_eq_iff]
    push_cast
    constructor <;> linarith

theorem roundf_intCast (k : ℤ) : roundf (k : α) = k := by
  simpa using roundf_intCast_add (α := α) k (δ := 0) (by norm_num)

/-- `realloc` recovers the multiples `n0` and `n0 + 1`. -/
theorem reallocFsInt_pair (n0 : ℕ) {G : α} (hG : G ≠ 0) :
    reallocFsInt ((n0 : α) * G, ((n0 : α) + 1) * G) G = ((n0 : α), (n0 : α) + 1) := by
  simp only [reallocFsInt, mul_div_cancel_right₀ _ hG]
  rw [show ((n0 : α) + 1) = ((n0 + 1 : ℤ) : α) by push_cast; ring,
    show (n0 : α) = ((n0 : ℤ) : α) by simp, roundf_intCast, roundf_intCast]

/-- **The period counts of adjacent multiples differ by the mask.** For `0 ≤ x < 1`, the
multiple `(n + 1) x` has passed one more whole period than `n x` exactly when its phase is
below that of `n x`. -/
theorem floor_succ_mul (n : ℕ) {x : α} (hx0 : 0 ≤ x) (hx1 : x < 1) :
    ⌊((n : α) + 1) * x⌋ =
      ⌊(n : α) * x⌋ + maskNegatives (Int.fract ((n : α) * x)) (Int.fract (((n : α) + 1) * x)) := by
  obtain ⟨d, hd⟩ : ∃ d : ℤ, ⌊((n : α) + 1) * x⌋ = ⌊(n : α) * x⌋ + d := ⟨_, (add_sub_cancel _ _).symm⟩
  have hdx : (d : α) = x + Int.fract ((n : α) * x) - Int.fract (((n : α) + 1) * x) := by
    simp only [Int.fract, hd]
    push_cast
    ring
  have f0 := Int.fract_nonneg ((n : α) * x)
  have f0' := Int.fract_lt_one ((n : α) * x)
  have f1 := Int.fract_nonneg (((n : α) + 1) * x)
  have f1' := Int.fract_lt_one (((n : α) + 1) * x)
  rw [hd, maskNegatives]
  split_ifs with h
  · -- the phase fell back: one more period, `0 < d < 2`
    have hlo : (0 : α) < d := by linarith
    have hhi : (d : α) < 2 := by linarith
    have : 0 < d := by exact_mod_cast hlo
    have : d < 2 := by exact_mod_cast hhi
    omega
  · -- the phase went on: the same period, `-1 < d < 1`
    have hlo : (-1 : α) < d := by linarith
    have hhi : (d : α) < 1 := by linarith
    have : -1 < d := by exact_mod_cast hlo
    have : d < 1 := by exact_mod_cast hhi
    omega

/-! ### Dealiasing -/

/-- **One pixel of dealiasing.** Let the corrected phases be the ideal phases `frac (n0 x)`
and `frac ((n0 + 1) x)` of a point `0 ≤ x < 1` of the unambiguous interval, and let the
smoothed phases differ from them by a noise whose combination
`n0 (s1 - φ1) - (n0 + 1) (s0 - φ0)` is below a half. With `j` the change of the mask
between the ideal and the smoothed phases, the period count is `⌊n0 x⌋ + n0 j` and the range
is `(x + j) MUR`. -/
theorem pairRangeAt_dealias {n0 : ℕ} (hn0 : 0 < n0) {G c x : α} (s0 s1 : α) (hG : G ≠ 0)
    (hx0 : 0 ≤ x) (hx1 : x < 1)
    (hδ : |n0 * (s1 - Int.fract (((n0 : α) + 1) * x)) - (n0 + 1) * (s0 - Int.fract (n0 * x))|
      < 1 / 2) :
    let j := maskNegatives s0 s1 - maskNegatives (Int.fract ((n0 : α) * x))
      (Int.fract (((n0 : α) + 1) * x))
    (pairRangeAt n0 G c s0 s1 (Int.fract (n0 * x)) (Int.fract ((n0 + 1) * x))).range =
        (x + j) * maxUnambiguousRange c G ∧
      (pairRangeAt n0 G c s0 s1 (Int.fract (n0 * x)) (Int.fract ((n0 + 1) * x))).m =
        2 * (⌊(n0 : α) * x⌋ + n0 * j : ℤ) + maskNegatives s0 s1 := by
  intro j
  obtain ⟨k0, hk0⟩ : ∃ k0, ⌊(n0 : α) * x⌋ = k0 := ⟨_, rfl⟩
  obtain ⟨μ, hμ⟩ : ∃ μ, maskNegatives (Int.fract ((n0 : α) * x))
      (Int.fract (((n0 : α) + 1) * x)) = μ := ⟨_, rfl⟩
  have hj : j = maskNegatives s0 s1 - μ := by simp only [j, hμ]
  have hφ0 : Int.fract ((n0 : α) * x) = n0 * x - k0 := by rw [← hk0]; rfl
  have hφ1 : Int.fract (((n0 : α) + 1) * x) = (n0 + 1) * x - (k0 + μ : ℤ) := by
    rw [← hk0, ← hμ, ← floor_succ_mul n0 hx0 hx1]; rfl
  -- the smoothed phases put `mRawTmp` within a half of the integer `k0 + n0 j`
  have htmp : (n0 : α) * s1 - (n0 + 1) * s0 + n0 * (maskNegatives s0 s1 : α) =
      ((k0 + n0 * j : ℤ) : α) +
        (n0 * (s1 - Int.fract (((n0 : α) + 1) * x)) - (n0 + 1) * (s0 - Int.fract (n0 * x))) := by
    rw [hj, hφ0, hφ1]
    push_cast
    ring
  have hn : (n0 : α) ≠ 0 := by exact_mod_cast hn0.ne'
  have hn1 : (n0 : α) + 1 ≠ 0 := by positivity
  simp only [pairRangeAt, wholeFrameRangeAt, reallocFsInt_pair n0 hG, htmp,
    roundf_intCast_add _ hδ, maxUnambiguousRange, hk0]
  constructor
  · rw [hj, hφ0, hφ1]
    field_simp
    ring
  · push_cast
    ring

/-- At a pixel of the adjacent pair `n0 G`, `(n0 + 1) G`, with `_fsInt` set by `realloc`,
the frames `computeWholeFrameRange` writes are the clamped range and the period count of
`pairRangeAt`. -/
theorem computeWholeFrameRange_pair {n : ℕ} (n0 : ℕ) (G c : α) (s0 s1 p0 p1 : Fin n → α)
    (idx : Fin n) :
    let fs : α × α := (n0 * G, (n0 + 1) * G)
    (computeWholeFrameRange s0 s1 p0 p1 fs (reallocFsInt fs G) c).1 idx =
        clampRange (pairRangeAt n0 G c (s0 idx) (s1 idx) (p0 idx) (p1 idx)).range ∧
      (computeWholeFrameRange s0 s1 p0 p1 fs (reallocFsInt fs G) c).2 idx =
        (pairRangeAt n0 G c (s0 idx) (s1 idx) (p0 idx) (p1 idx)).m :=
  computeWholeFrameRange_apply s0 s1 p0 p1 _ _ c idx

/-- **Exact dealiasing** of a target at range `r` by the frequencies `n0 G` and
`(n0 + 1) G`, at any pixel `idx` of frames handed to `computeWholeFrameRange`. Let
`x = r / MUR` and `φi = frac (ni x)`. When the pixel's smoothed and corrected phases are
both `(φ0, φ1)`, the range frame holds `r` and the period-count frame
`⌊n0 x⌋ + ⌊(n0 + 1) x⌋`. When its corrected phases are `(φ0, φ1)` and its smoothed phases
`(φ0 + e0, φ1 + e1)` with `|n0 e1 - (n0 + 1) e0| < 1 / 2`, the range frame holds
`r + j MUR` clamped at `0`, for some `j ∈ {-1, 0, 1}` with `j = 0` whenever the mask is the
same as for the exact phases. -/
structure Dealiases (n0 : ℕ) (G c r : α) : Prop where
  exact : ∀ {n : ℕ} (s0 s1 p0 p1 : Fin n → α) (idx : Fin n),
    let x := r / maxUnambiguousRange c G
    let φ0 := Int.fract ((n0 : α) * x)
    let φ1 := Int.fract (((n0 : α) + 1) * x)
    let fs : α × α := (n0 * G, (n0 + 1) * G)
    s0 idx = φ0 → s1 idx = φ1 → p0 idx = φ0 → p1 idx = φ1 →
    (computeWholeFrameRange s0 s1 p0 p1 fs (reallocFsInt fs G) c).1 idx = r ∧
      (computeWholeFrameRange s0 s1 p0 p1 fs (reallocFsInt fs G) c).2 idx =
        (⌊(n0 : α) * x⌋ + ⌊((n0 : α) + 1) * x⌋ : ℤ)
  perturbed : ∀ {n : ℕ} (s0 s1 p0 p1 : Fin n → α) (idx : Fin n) (e0 e1 : α),
    |n0 * e1 - (n0 + 1) * e0| < 1 / 2 →
    let x := r / maxUnambiguousRange c G
    let φ0 := Int.fract ((n0 : α) * x)
    let φ1 := Int.fract (((n0 : α) + 1) * x)
    let fs : α × α := (n0 * G, (n0 + 1) * G)
    s0 idx = φ0 + e0 → s1 idx = φ1 + e1 → p0 idx = φ0 → p1 idx = φ1 →
    ∃ j : ℤ, -1 ≤ j ∧ j ≤ 1 ∧
      (computeWholeFrameRange s0 s1 p0 p1 fs (reallocFsInt fs G) c).1 idx =
        clampRange (r + j * maxUnambiguousRange c G) ∧
      (maskNegatives (φ0 + e0) (φ1 + e1) = maskNegatives φ0 φ1 → j = 0)

/-- **Two-frequency dealiasing is exact** for every range in `[0, MUR)` and every adjacent
pair of frequencies. -/
theorem computeWholeFrameRange_dealiases {n0 : ℕ} (hn0 : 0 < n0) {G c r : α} (hr0 : 0 ≤ r)
    (hr : r < maxUnambiguousRange c G) : Dealiases n0 G c r := by
  have hM : 0 < maxUnambiguousRange c G := hr0.trans_lt hr
  have hG : G ≠ 0 := by
    rintro rfl
    simp [maxUnambiguousRange] at hM
  have hx0 : 0 ≤ r / maxUnambiguousRange c G := div_nonneg hr0 hM.le
  have hx1 : r / maxUnambiguousRange c G < 1 := (div_lt_one hM).2 hr
  have hxr : r / maxUnambiguousRange c G * maxUnambiguousRange c G = r :=
    div_mul_cancel₀ _ hM.ne'
  constructor
  · intro n s0 s1 p0 p1 idx x φ0 φ1 fs h0 h1 h2 h3
    obtain ⟨hrange, hm⟩ := pairRangeAt_dealias (c := c) hn0 φ0 φ1 hG hx0 hx1 (by simp)
    obtain ⟨e1, e2⟩ := computeWholeFrameRange_pair n0 G c s0 s1 p0 p1 idx
    have hr' : (pairRangeAt n0 G c φ0 φ1 φ0 φ1).range = r := by simpa [hxr] using hrange
    rw [e1, e2, h0, h1, h2, h3, hr', clampRange_of_nonneg hr0]
    refine ⟨rfl, ?_⟩
    rw [hm, floor_succ_mul n0 hx0 hx1]
    push_cast
    ring
  · intro n s0 s1 p0 p1 idx e0 e1 he x φ0 φ1 fs h0 h1 h2 h3
    obtain ⟨hrange, -⟩ := pairRangeAt_dealias (c := c) hn0 (φ0 + e0) (φ1 + e1) hG hx0 hx1
      (by simpa using he)
    obtain ⟨e1, -⟩ := computeWholeFrameRange_pair n0 G c s0 s1 p0 p1 idx
    rw [e1, h0, h1, h2, h3]
    refine ⟨_, ?_, ?_, by rw [hrange, add_mul, hxr], fun h => by rw [h, sub_self]⟩ <;>
      simp only [maskNegatives] <;> split_ifs <;> decide

/-- The hypotheses of `computeWholeFrameRange_dealiases` hold for the pair `3`, `4` at a
half of the unambiguous range. -/
theorem computeWholeFrameRange_dealiases_half :
    0 < 3 ∧ (0 : ℚ) ≤ 1 / 2 ∧ (1 / 2 : ℚ) < maxUnambiguousRange 2 1 ∧
      Dealiases (α := ℚ) 3 1 2 (1 / 2) :=
  ⟨by decide, by norm_num, by norm_num [maxUnambiguousRange],
    computeWholeFrameRange_dealiases (by decide) (by norm_num) (by norm_num [maxUnambiguousRange])⟩

end Model

end RawToDepthDsp

end Cobra
