import Cobra.WholeFrameRange
import Cobra.WindowFilter

/-!
# The Output Conversions

The last step of `localProcessFrame` converts the floating-point frames of the whole-frame DSP
into the 16-bit frames of the `FovSegment` handed to the network.

* Before `getRange`, every range is moved by the temperature offset, clamped at `0` and
  wrapped with `fmod` into the maximum unambiguous range (`offsetRange`).
* `RawToDepthCommon::getRange` masks a range to `0` where the min-max filter marked the
  pixel, where the SNR sum is below twice the threshold, where the calibration's pixel mask
  excludes the pixel, or where the range exceeds the range limit, unless masking is disabled,
  and scales the rest to `1 / RANGE_NETWORK_SCALE` metres a step.
* `getSignal`, `getBackground` and `getSnr` run one loop (`convertFrame`): `getSignal` halves
  its frame, rounds and clips at `65535`; `getBackground` clips before it rounds; `getSnr`
  halves and rounds, and does not clip.
* `RawToDepthV2_float::getRoiIndices` looks up, for every output pixel, the index of the ROI
  that acquired it, and fills the pixels no ROI acquired with the last index it found.

## Conventions

Values are exact values of an ordered field with a floor, `roundf` is `Cobra.RawToDepthDsp.roundf`,
and `operator[]` goes through `readAt` and `writeAt`. The conversion `(uint16_t)` of a float is
defined only when its value fits in `uint16_t` (`Fits16`): the model keeps the rounded value as
an `Int`, and the theorems below say when it fits. The conversions of `int32_t` values to
`uint16_t` in `getRoiIndices` wrap (`u16`), and so does the `uint32_t` count of `getSnr` (`u32`).
At `_size[1] = 0` the source divides by zero; the model takes Lean's `n / 0 = 0`.

## Main results

* `getRange_eq`: `getRange` returns, without a fault, the masked and scaled range of every
  pixel.
* `getRange_fits`: on ranges that went through `offsetRange`, every value fits in `uint16_t`
  once `RANGE_NETWORK_SCALE` times the maximum unambiguous range is at most `65535`, masked or
  not.
* `getSignal_fits_iff`, `getBackground_fits_iff`, `getSnr_fits_iff`: each conversion returns one
  value a pixel, and all of them fit exactly when every input lies above `-1` (`-1 / 2` for the
  background); the SNR sums must also lie below `131071`, since `getSnr` does not clip.
* `getRoiIndices_eq`: every output pixel holds the last nonnegative ROI index read at or before
  it, or `0`.
-/

namespace Cobra

open RawToDepthDsp

namespace RawToDepthCommon

section Code

variable {α : Type} [LinearOrderedField α] [FloorRing α]

/-- `RANGE_NETWORK_SCALE`. -/
def rangeNetworkScale : α := 1024

/-- C's `fmod(x, y)`: `x` less `y` times the quotient truncated toward zero. -/
def fmod (x y : α) : α := x - y * ((if 0 ≤ x / y then ⌊x / y⌋ else ⌈x / y⌉ : Int) : α)

/-- The lambda `localProcessFrame` runs on every range before `getRange`: subtract the
temperature offset, clamp at `0`, and wrap into the maximum unambiguous range. -/
def offsetRange (rangeOffsetTemperature maxUnambiguousRange range : α) : α :=
  let range := range - rangeOffsetTemperature
  let range := if range < 0 then 0 else range
  fmod range maxUnambiguousRange

/-- The index into `_pixelMask` of output pixel `idx`, in `uint32_t`. -/
def pixelMaskIndex (sensorFovStart sensorFovStep : Nat × Nat) (pixelMaskStride W idx : Nat) :
    Nat :=
  let rangeX := idx % W
  let rangeY := idx / W
  let pixelMaskX := u32 (sensorFovStart.2 + rangeX * sensorFovStep.2)
  let pixelMaskY := u32 (sensorFovStart.1 + rangeY * sensorFovStep.1)
  u32 (pixelMaskX + pixelMaskStride * pixelMaskY)

/-- One pixel of `getRange`. -/
def getRangeStep (fRanges fMinMaxMask : List α) (pixelMask : List Nat) (fSnr : List α)
    (sensorFovStart sensorFovStep : Nat × Nat) (pixelMaskStride : Nat) (size : Nat × Nat)
    (disableRangeMasking : Bool) (snrThresh rangeLimit : α) (idx : Nat) (ranges : List Int) :
    Except Fault (List Int) := do
  let pixelMaskIdx := pixelMaskIndex sensorFovStart sensorFovStep pixelMaskStride size.2 idx
  let minMaxMask := decide (1 / 2 < (← readAt .fMinMaxMask fMinMaxMask idx))
  let pixelMasked := decide (pixelMaskIdx < pixelMask.length) && pixelMask.getD pixelMaskIdx 0 == 0
  let snr ← readAt .fSnr fSnr idx
  let iRange ← readAt .fRanges fRanges idx
  let iRange := if !disableRangeMasking && (minMaxMask || decide (snr < 2 * snrThresh) ||
    pixelMasked || decide (rangeLimit < iRange)) then 0 else iRange
  writeAt .ranges ranges idx (roundf (rangeNetworkScale * iRange))

/-- `getRange(_fRanges, _fMinMaxMask, _pixelMask, _fSnr, _sensorFovStart, _sensorFovStep,
pixelMaskStride, _size, _disableRangeMasking, _snrThresh, rangeOffsetTemperature, rangeLimit,
maxUnambiguousRange)`; `rangeOffsetTemperature` and `maxUnambiguousRange` are not read. -/
def getRange (fRanges fMinMaxMask : List α) (pixelMask : List Nat) (fSnr : List α)
    (sensorFovStart sensorFovStep : Nat × Nat) (pixelMaskStride : Nat) (size : Nat × Nat)
    (disableRangeMasking : Bool) (snrThresh rangeLimit : α) : Except Fault (List Int) :=
  forLoop fRanges.length (getRangeStep fRanges fMinMaxMask pixelMask fSnr sensorFovStart
    sensorFovStep pixelMaskStride size disableRangeMasking snrThresh rangeLimit)
    (List.replicate fRanges.length 0)

/-- The loop of `getSignal`, `getBackground` and `getSnr`: a fresh vector of `n` zeros, and
for every `idx < n` the conversion of `frame[idx]` written at `idx`. -/
def convertFrame (src dst : Buf) (convert : α → Int) (frame : List α) (n : Nat) :
    Except Fault (List Int) :=
  forLoop n (fun idx out => do writeAt dst out idx (convert (← readAt src frame idx)))
    (List.replicate n 0)

/-- `getSignal(_fSignals)`: half the sum of the two frequencies' signals, rounded and clipped at
`65535`. -/
def getSignal (fSignals : List α) : Except Fault (List Int) :=
  convertFrame .fSignals .signal (fun signal =>
    let avgSignal := roundf (1 / 2 * signal)
    if ((avgSignal : Int) : α) > 65535 then 65535 else avgSignal) fSignals fSignals.length

/-- `getBackground(_fBackground)`: the background, clipped at `65535`, else rounded. -/
def getBackground (fBackground : List α) : Except Fault (List Int) :=
  convertFrame .fBackground .background (fun avgBg => if avgBg > 65535 then 65535 else roundf avgBg)
    fBackground fBackground.length

/-- `getSnr(_fSnr)`: half the sum of the two frequencies' SNRs, rounded; the count is the
`uint32_t` value of `_fSnr.size()`. -/
def getSnr (fSnr : List α) : Except Fault (List Int) :=
  convertFrame .fSnr .snrs (fun snr => roundf (1 / 2 * snr)) fSnr (u32 fSnr.length)

end Code

/-! ### What the conversions return -/

section Spec

variable {α : Type} [LinearOrderedField α] [FloorRing α]

/-- The value fits in `uint16_t`, so that the source's conversion is defined. -/
def Fits16 (v : Int) : Prop := 0 ≤ v ∧ v ≤ 65535

instance : DecidablePred Fits16 := fun v => inferInstanceAs (Decidable (0 ≤ v ∧ v ≤ 65535))

/-- Whether `getRange` masks pixel `idx` of range `r`: the min-max mask marks it, its SNR sum is
below twice the threshold, the pixel mask holds `0` for it, or the range exceeds the limit. -/
def RangeMasked (fMinMaxMask fSnr : List α) (pixelMask : List Nat)
    (sensorFovStart sensorFovStep : Nat × Nat) (pixelMaskStride W : Nat) (snrThresh rangeLimit r : α)
    (idx : Nat) : Prop :=
  1 / 2 < fMinMaxMask.getD idx 0 ∨ fSnr.getD idx 0 < 2 * snrThresh ∨
    (pixelMaskIndex sensorFovStart sensorFovStep pixelMaskStride W idx < pixelMask.length ∧
      pixelMask.getD (pixelMaskIndex sensorFovStart sensorFovStep pixelMaskStride W idx) 0 = 0) ∨
    rangeLimit < r

instance (fMinMaxMask fSnr : List α) (pixelMask : List Nat) (s t : Nat × Nat) (p W : Nat)
    (snrThresh rangeLimit r : α) (idx : Nat) :
    Decidable (RangeMasked fMinMaxMask fSnr pixelMask s t p W snrThresh rangeLimit r idx) := by
  unfold RangeMasked; infer_instance

/-- The range `getRange` sends for pixel `idx`, before the `uint16_t` conversion. -/
def networkRange (fRanges fMinMaxMask : List α) (pixelMask : List Nat) (fSnr : List α)
    (sensorFovStart sensorFovStep : Nat × Nat) (pixelMaskStride W : Nat)
    (disableRangeMasking : Bool) (snrThresh rangeLimit : α) (idx : Nat) : Int :=
  roundf (rangeNetworkScale * if disableRangeMasking = false ∧ RangeMasked fMinMaxMask fSnr
      pixelMask sensorFovStart sensorFovStep pixelMaskStride W snrThresh rangeLimit
      (fRanges.getD idx 0) idx then 0 else fRanges.getD idx 0)

@[simp] theorem roundf_zero : roundf (0 : α) = 0 := by
  simpa using roundf_intCast (α := α) 0

/-- `roundf` is nonnegative exactly above `-1 / 2`. -/
theorem roundf_nonneg_iff {x : α} : 0 ≤ roundf x ↔ -(1 / 2) < x := by
  unfold roundf
  split_ifs with h
  · exact ⟨fun _ => by linarith, fun _ => Int.floor_nonneg.2 (by linarith)⟩
  · rw [Left.nonneg_neg_iff, Int.floor_le_iff]
    push_cast
    constructor <;> intro <;> linarith

/-- `roundf` stays at most a nonnegative `n` exactly below `n + 1 / 2`. -/
theorem roundf_le_iff {x : α} {n : Int} (hn : 0 ≤ n) : roundf x ≤ n ↔ x < n + 1 / 2 := by
  have hn' : (0 : α) ≤ n := Int.cast_nonneg.2 hn
  unfold roundf
  split_ifs with h
  · rw [Int.floor_le_iff]
    constructor <;> intro <;> linarith
  · have : 0 ≤ ⌊-x + 1 / 2⌋ := Int.floor_nonneg.2 (by linarith)
    exact ⟨fun _ => by linarith, fun _ => by omega⟩

theorem roundf_fits_iff {x : α} : Fits16 (roundf x) ↔ -(1 / 2) < x ∧ x < 65535 + 1 / 2 := by
  rw [Fits16, roundf_nonneg_iff, roundf_le_iff (by norm_num)]
  norm_num

/-- `offsetRange` lands in `[0, maxUnambiguousRange)`. -/
theorem offsetRange_mem (o : α) {m : α} (hm : 0 < m) (r : α) :
    0 ≤ offsetRange o m r ∧ offsetRange o m r < m := by
  have hx : (0 : α) ≤ if r - o < 0 then 0 else r - o := by split_ifs <;> linarith
  have hq : offsetRange o m r = m * Int.fract ((if r - o < 0 then 0 else r - o) / m) := by
    rw [offsetRange, fmod, if_pos (div_nonneg hx hm.le), Int.fract, mul_sub,
      mul_div_cancel₀ _ hm.ne']
  rw [hq]
  exact ⟨mul_nonneg hm.le (Int.fract_nonneg _), mul_lt_of_lt_one_right hm (Int.fract_lt_one _)⟩

/-- A nonnegative range below `65535.5 / RANGE_NETWORK_SCALE` is sent as a `uint16_t`, whether
`getRange` masks it or not. -/
theorem networkRange_fits {fRanges fMinMaxMask fSnr : List α} {pixelMask : List Nat}
    {sensorFovStart sensorFovStep : Nat × Nat} {pixelMaskStride W : Nat}
    {disableRangeMasking : Bool} {snrThresh rangeLimit : α} {idx : Nat}
    (h0 : 0 ≤ fRanges.getD idx 0) (h : rangeNetworkScale * fRanges.getD idx 0 < 65535 + 1 / 2) :
    Fits16 (networkRange fRanges fMinMaxMask pixelMask fSnr sensorFovStart sensorFovStep
      pixelMaskStride W disableRangeMasking snrThresh rangeLimit idx) := by
  unfold networkRange
  split_ifs
  · rw [mul_zero, roundf_zero]; decide
  · refine roundf_fits_iff.2 ⟨?_, h⟩
    have : (0 : α) ≤ rangeNetworkScale * fRanges.getD idx 0 :=
      mul_nonneg (by norm_num [rangeNetworkScale]) h0
    linarith

end Spec

section Run

variable {α : Type} [LinearOrderedField α] [FloorRing α]

/-- **What `getRange` returns.** With a min-max mask and an SNR frame at least as long as the
range frame, `getRange` returns without a fault `networkRange` at every pixel. -/
theorem getRange_eq {fRanges fMinMaxMask fSnr : List α} {pixelMask : List Nat}
    {sensorFovStart sensorFovStep : Nat × Nat} {pixelMaskStride : Nat} {size : Nat × Nat}
    {disableRangeMasking : Bool} {snrThresh rangeLimit : α}
    (hm : fRanges.length ≤ fMinMaxMask.length) (hs : fRanges.length ≤ fSnr.length) :
    getRange fRanges fMinMaxMask pixelMask fSnr sensorFovStart sensorFovStep pixelMaskStride size
        disableRangeMasking snrThresh rangeLimit =
      .ok ((List.range fRanges.length).map (networkRange fRanges fMinMaxMask pixelMask fSnr
        sensorFovStart sensorFovStep pixelMaskStride size.2 disableRangeMasking snrThresh
        rangeLimit)) := by
  refine forLoop_set_all _ (fun idx hidx t ht => ?_) (List.length_replicate _ _)
  simp only [getRangeStep, readAt_eq_getD 0 (show idx < fMinMaxMask.length by omega),
    readAt_eq_getD 0 (show idx < fSnr.length by omega), readAt_eq_getD 0 hidx, ok_bind]
  rw [writeAt_of_lt (by omega)]
  congr 3
  simp only [RangeMasked, Bool.and_eq_true, Bool.not_eq_true', Bool.or_eq_true,
    decide_eq_true_eq, beq_iff_eq, or_assoc]

/-- **Every range fits in `uint16_t`.** On ranges that went through `offsetRange`, with a
positive maximum unambiguous range that `RANGE_NETWORK_SCALE` scales to at most `65535`,
`getRange` sends one `uint16_t` value a pixel, whatever it masks. -/
theorem getRange_fits {fRanges fMinMaxMask fSnr : List α} {pixelMask : List Nat}
    {sensorFovStart sensorFovStep : Nat × Nat} {pixelMaskStride : Nat} {size : Nat × Nat}
    {disableRangeMasking : Bool} {snrThresh rangeLimit rangeOffsetTemperature : α}
    {maxUnambiguousRange : α} (hm : fRanges.length ≤ fMinMaxMask.length)
    (hs : fRanges.length ≤ fSnr.length) (hU : 0 < maxUnambiguousRange)
    (hscale : rangeNetworkScale * maxUnambiguousRange ≤ 65535) :
    ∃ ranges, getRange (fRanges.map (offsetRange rangeOffsetTemperature maxUnambiguousRange))
        fMinMaxMask pixelMask fSnr sensorFovStart sensorFovStep pixelMaskStride size
        disableRangeMasking snrThresh rangeLimit = .ok ranges ∧
      ranges.length = fRanges.length ∧ ∀ v ∈ ranges, Fits16 v := by
  refine ⟨_, getRange_eq (by simpa using hm) (by simpa using hs), by simp, ?_⟩
  simp only [List.mem_map, List.mem_range, List.length_map]
  rintro _ ⟨idx, hidx, rfl⟩
  obtain ⟨h0, hlt⟩ := offsetRange_mem rangeOffsetTemperature hU fRanges[idx]
  have hr : (fRanges.map (offsetRange rangeOffsetTemperature maxUnambiguousRange)).getD idx 0 =
      offsetRange rangeOffsetTemperature maxUnambiguousRange fRanges[idx] := by
    rw [List.getD_eq_getElem _ _ (by simpa using hidx), List.getElem_map]
  have hscaled : rangeNetworkScale * offsetRange rangeOffsetTemperature maxUnambiguousRange
      fRanges[idx] < rangeNetworkScale * maxUnambiguousRange :=
    mul_lt_mul_of_pos_left hlt (by norm_num [rangeNetworkScale])
  exact networkRange_fits (hr ▸ h0) (by rw [hr]; linarith)

/-- `getRange` on two ranges wrapped into a maximum unambiguous range of `60` metres. -/
theorem getRange_fits_twoPixels :
    ∃ ranges, getRange ([(1 : ℚ), 70].map (offsetRange 0 60)) [0, 1] [] [10, 10] (0, 0) (1, 1) 2
        (1, 2) false 1 100 = .ok ranges ∧ ranges.length = [(1 : ℚ), 70].length ∧
      ∀ v ∈ ranges, Fits16 v :=
  getRange_fits (by decide) (by decide) (by norm_num) (by norm_num [rangeNetworkScale])

omit [FloorRing α] in
/-- The loop of the three conversions converts the first `n` values of its frame. -/
theorem convertFrame_eq {src dst : Buf} {convert : α → Int} {frame : List α} {n : Nat}
    (h : n ≤ frame.length) :
    convertFrame src dst convert frame n = .ok ((frame.take n).map convert) := by
  rw [convertFrame, forLoop_set_all (fun k => convert (frame.getD k 0)) (fun idx hidx t ht => by
    rw [readAt_eq_getD 0 (by omega), ok_bind, writeAt_of_lt (by omega)]) (List.length_replicate _ _)]
  refine congrArg _ (List.ext_getElem (by simp [h]) fun i h1 _ => ?_)
  rw [List.length_map, List.length_range] at h1
  rw [List.getElem_map, List.getElem_range, List.getElem_map, List.getElem_take,
    List.getD_eq_getElem _ _ (by omega)]

/-- **`getSignal` fits.** One value a pixel, and all of them fit in `uint16_t` exactly when every
signal sum lies above `-1`: the clip keeps every value at most `65535`. -/
theorem getSignal_fits_iff (fSignals : List α) :
    ∃ signal, getSignal fSignals = .ok signal ∧ signal.length = fSignals.length ∧
      ((∀ v ∈ signal, Fits16 v) ↔ ∀ x ∈ fSignals, -1 < x) := by
  refine ⟨_, convertFrame_eq le_rfl, by simp, ?_⟩
  rw [List.take_length, List.forall_mem_map]
  refine forall₂_congr fun x _ => ?_
  dsimp only
  split_ifs with hc
  · have : (0 : Int) ≤ roundf (1 / 2 * x) := by exact_mod_cast (by norm_num : (0 : α) ≤ 65535).trans hc.le
    rw [roundf_nonneg_iff] at this
    exact ⟨fun _ => by linarith, fun _ => by decide⟩
  · have : roundf (1 / 2 * x) ≤ 65535 := by exact_mod_cast not_lt.1 hc
    rw [Fits16, roundf_nonneg_iff]
    exact ⟨fun h => by linarith [h.1], fun h => ⟨by linarith, this⟩⟩

/-- **`getBackground` fits.** One value a pixel, and all of them fit in `uint16_t` exactly when
every background lies above `-1 / 2`: the clip comes before the rounding. -/
theorem getBackground_fits_iff (fBackground : List α) :
    ∃ background, getBackground fBackground = .ok background ∧
      background.length = fBackground.length ∧
      ((∀ v ∈ background, Fits16 v) ↔ ∀ x ∈ fBackground, -(1 / 2) < x) := by
  refine ⟨_, convertFrame_eq le_rfl, by simp, ?_⟩
  rw [List.take_length, List.forall_mem_map]
  refine forall₂_congr fun x _ => ?_
  split_ifs with hc
  · exact ⟨fun _ => by linarith, fun _ => by decide⟩
  · rw [roundf_fits_iff]
    exact ⟨And.left, fun h => ⟨h, by linarith [not_lt.1 hc]⟩⟩

/-- **`getSnr` does not clip.** One value for each of the first `uint32_t(_fSnr.size())` SNR
sums, and all of them fit in `uint16_t` exactly when each of those sums lies in
`(-1, 131071)`. -/
theorem getSnr_fits_iff (fSnr : List α) :
    ∃ snrs, getSnr fSnr = .ok snrs ∧ snrs.length = u32 fSnr.length ∧
      ((∀ v ∈ snrs, Fits16 v) ↔ ∀ x ∈ fSnr.take (u32 fSnr.length), -1 < x ∧ x < 131071) := by
  refine ⟨_, convertFrame_eq (u32_natCast_le _), by simp [u32_natCast_le], ?_⟩
  rw [List.forall_mem_map]
  refine forall₂_congr fun x _ => ?_
  rw [roundf_fits_iff]
  constructor <;> rintro ⟨h1, h2⟩ <;> constructor <;> linarith

end Run

end RawToDepthCommon

namespace Grid

open RawToDepthCommon

section Code

/-- One pixel of `getRoiIndices`, on the state `(lastGood, roiIndicesFov)`: a negative index is
replaced by `lastGood`, any other becomes the new `lastGood`. -/
def getRoiIndicesStep (roiIndices : List Int) (fovStart fovStep fovSize size : Nat × Nat)
    (idx : Nat) (s : Nat × List Nat) : Except Fault (Nat × List Nat) := do
  let roiIndex ← readAt .roiIndices roiIndices (pixelMaskIndex fovStart fovStep fovSize.2 size.2 idx)
  if roiIndex < 0 then
    return (s.1, ← writeAt .roiIndicesFov s.2 idx (u16 (s.1 : Int)))
  else
    return (u16 roiIndex, ← writeAt .roiIndicesFov s.2 idx (u16 roiIndex))

/-- `RawToDepthV2_float::getRoiIndices(roiIndices, fovStart, fovStep, fovSize, size)`. -/
def getRoiIndices (roiIndices : List Int) (fovStart fovStep fovSize size : Nat × Nat) :
    Except Fault (List Nat) :=
  let n := u32 (size.1 * size.2 : Nat)
  Prod.snd <$> forLoop n (getRoiIndicesStep roiIndices fovStart fovStep fovSize size)
    (0, List.replicate n 0)

end Code

section Spec

/-- `lastGood` once the loop has read the indices `xs`: the last nonnegative one, as `uint16_t`,
or `0` before the first. -/
def lastGoodIndex (xs : List Int) : Nat :=
  match xs.reverse.find? fun x => decide (0 ≤ x) with
  | some x => u16 x
  | none => 0

/-- The ROI index read for output pixel `k`. -/
def roiIndexAt (roiIndices : List Int) (fovStart fovStep fovSize size : Nat × Nat) (k : Nat) :
    Int :=
  roiIndices.getD (pixelMaskIndex fovStart fovStep fovSize.2 size.2 k) (-1)

theorem lastGoodIndex_lt (xs : List Int) : lastGoodIndex xs < 2 ^ 16 := by
  unfold lastGoodIndex
  split
  · exact u16_lt _
  · norm_num

theorem lastGoodIndex_append (xs : List Int) (x : Int) :
    lastGoodIndex (xs ++ [x]) = if x < 0 then lastGoodIndex xs else u16 x := by
  unfold lastGoodIndex
  rw [List.reverse_append, List.reverse_singleton, List.singleton_append, List.find?_cons]
  by_cases h : x < 0
  · rw [if_pos h, decide_eq_false (not_le.2 h)]
  · rw [if_neg h, decide_eq_true (not_lt.1 h)]

end Spec

section Run

variable {roiIndices : List Int} {fovStart fovStep fovSize size : Nat × Nat}

theorem getRoiIndicesStep_eq {idx : Nat} {s : Nat × List Nat}
    (hidx : pixelMaskIndex fovStart fovStep fovSize.2 size.2 idx < roiIndices.length)
    (hl : idx < s.2.length) (hs : s.1 < 2 ^ 16) :
    let v := if roiIndexAt roiIndices fovStart fovStep fovSize size idx < 0 then s.1
      else u16 (roiIndexAt roiIndices fovStart fovStep fovSize size idx)
    getRoiIndicesStep roiIndices fovStart fovStep fovSize size idx s = .ok (v, s.2.set idx v) := by
  unfold getRoiIndicesStep roiIndexAt
  rw [readAt_eq_getD (-1) hidx, ok_bind]
  split_ifs <;> simp [writeAt_of_lt hl, u16_natCast hs]

/-- **What `getRoiIndices` returns.** On an FOV of fewer than `2 ^ 32` pixels whose ROI indices
all lie in the buffer, pixel `k` holds the last nonnegative index read at pixels `0, ..., k`, or
`0`. -/
theorem getRoiIndices_eq (hsize : size.1 * size.2 < 2 ^ 32)
    (hidx : ∀ k < size.1 * size.2,
      pixelMaskIndex fovStart fovStep fovSize.2 size.2 k < roiIndices.length) :
    getRoiIndices roiIndices fovStart fovStep fovSize size =
      .ok ((List.range (size.1 * size.2)).map fun k =>
        lastGoodIndex ((List.range (k + 1)).map (roiIndexAt roiIndices fovStart fovStep fovSize size))) := by
  let f := roiIndexAt roiIndices fovStart fovStep fovSize size
  let w k := lastGoodIndex ((List.range (k + 1)).map f)
  let P i (s : Nat × List Nat) := s.1 = lastGoodIndex ((List.range i).map f) ∧
    Updates (· < i) w (List.replicate (size.1 * size.2) 0) s.2
  have hstep : ∀ i < size.1 * size.2, ∀ s, P i s → ∃ s',
      getRoiIndicesStep roiIndices fovStart fovStep fovSize size i s = .ok s' ∧ P (i + 1) s' := by
    rintro i hi ⟨lg, out⟩ ⟨rfl, hu⟩
    have hl : i < out.length := by rw [hu.length, List.length_replicate]; exact hi
    have hw : (if f i < 0 then lastGoodIndex ((List.range i).map f) else u16 (f i)) = w i := by
      show _ = lastGoodIndex ((List.range (i + 1)).map f)
      rw [List.range_succ, List.map_append, List.map_singleton, lastGoodIndex_append]
    refine ⟨_, getRoiIndicesStep_eq (hidx i hi) hl (lastGoodIndex_lt _), ?_⟩
    dsimp only
    rw [hw]
    exact ⟨rfl, (hu.trans (set_updates hl)).of_iff fun k => by omega⟩
  obtain ⟨s, hrun, -, hu⟩ := forLoop_ok P hstep (0, List.replicate (size.1 * size.2) 0)
    ⟨rfl, rfl, fun k _ h => absurd h (Nat.not_lt_zero k), fun _ _ => rfl⟩
  rw [getRoiIndices, u32_natCast hsize, hrun]
  show Except.ok s.2 = _
  rw [hu.eq_map_range (by simp), List.drop_eq_nil_of_le (by simp), List.append_nil]

example : getRoiIndices [-1, 2, -1, -1, 5, -1] (0, 0) (1, 1) (2, 3) (2, 3) =
    .ok [0, 2, 2, 2, 5, 5] := by rfl

/-- `getRoiIndices` on an FOV of two rows of three pixels, two of them acquired. -/
theorem getRoiIndices_eq_twoRows :
    getRoiIndices [-1, 2, -1, -1, 5, -1] (0, 0) (1, 1) (2, 3) (2, 3) =
      .ok ((List.range (2 * 3)).map fun k => lastGoodIndex ((List.range (k + 1)).map
        (roiIndexAt [-1, 2, -1, -1, 5, -1] (0, 0) (1, 1) (2, 3) (2, 3)))) :=
  getRoiIndices_eq (by norm_num) (by decide)

end Run

end Grid

end Cobra
