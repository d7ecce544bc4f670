import Cobra.Engine.Base

/-!
# The Stripe Engine

`RawToDepthStripe_float`, where every ROI is a whole FOV of one row of output: the HDR stage,
the `reset` that runs on every ROI (from the ROI just received, not from the delayed one the
HDR stage hands back), the stripe check of `saveTimestamp`, tap rotation, the choice of the
collapse window in `windowFactory`, the SNR weights of `computeSnrSquaredWeights`, and the
weighted collapse of `collapseRawRoi`. `processWholeFrame` publishes synchronously; the model
keeps its decision.

Window weights and SNR weights are `float`s whose values steer no index: the model keeps them
as `Float`. The squared SNR that `sqrtf` receives is the exact one of `computeSnrSquared`,
converted. What comes after the collapse (binning of the collapsed row, phase, range, the
min-max mask) reads only buffers sized from the binned width and is left out, with the
per-column output buffers that `realloc` sizes for it.

## Main results

* `windowFactory_gaussian8`: without a rectangular match or SNR weighting, any height other
  than six gets the eight-entry Gaussian window.
* `collapseRawRoi_error_of_window`: a window shorter than the ROI faults at its end.
* `processRoi_reads_past_gaussian8`: an accepted stripe ROI of nine rows or more on the
  Gaussian path faults reading the window at index `8`.
-/

namespace Cobra

open RawToDepthDsp

/-- A squared SNR as the `float` that `sqrtf` receives. -/
def Snr.toFloat : Snr → Float
  | .fin q => Float.ofInt q.num / Float.ofNat q.den
  | .inf => 1 / 0
  | .nan => 0 / 0

namespace RawToDepthDsp

/-! ### Windows -/

/-- The collapse windows of `RawToDepthDsp` and their sums. -/
def gaussian6 : List Float :=
  [0.4578333497, 0.7548395991, 0.9692332149, 0.9692332149, 0.7548395991, 0.4578333497]
def gaussian6NumberOfSums : Float := 4.363812447
def gaussian8 : List Float :=
  [0.2162651718, 0.4578333497, 0.7548395991, 0.9692332149, 0.9692332149, 0.7548395991,
   0.4578333497, 0.2162651718]
def gaussian8NumberOfSums : Float := 4.79634285
def rect8 : List Float := [1, 1, 1, 1, 1, 1, 1, 1]
def rect8NumberOfSums : Float := 8
def rect6 : List Float := [1, 1, 1, 1, 1, 1]
def rect6NumberOfSums : Float := 6

@[simp] theorem length_gaussian6 : gaussian6.length = 6 := rfl
@[simp] theorem length_gaussian8 : gaussian8.length = 8 := rfl
@[simp] theorem length_rect6 : rect6.length = 6 := rfl
@[simp] theorem length_rect8 : rect8.length = 8 := rfl

/-! ### SNR weights -/

/-- One pixel of `computeSnrSquaredWeights`: the summed root SNR of both frequencies, written
to the pixel's three phases. -/
def snrWeightStep (rawRoi0 rawRoi1 : List Nat) (roiWidth rowOffset idx : Nat)
    (w : List Float) : Except Fault (List Float) := do
  let snr0 ← computeSnrSquared rawRoi0 (idx + rowOffset * roiWidth)
  let snr1 ← computeSnrSquared rawRoi1 (idx + rowOffset * roiWidth)
  let snr := snr0.toFloat.sqrt + snr1.toFloat.sqrt
  let w ← writeAt .snrWeights w (numGpixelPhases * idx) snr
  let w ← writeAt .snrWeights w (numGpixelPhases * idx + 1) snr
  writeAt .snrWeights w (numGpixelPhases * idx + 2) snr

/-- One column of the normalisation in `computeSnrSquaredWeights`: the column's largest weight
over rows `rowOffset ..< roiHeight`, then each of its weights divided by it, on all three
phases. -/
def normaliseColumn (roiHeight roiWidth rowOffset c : Nat) (w : List Float) :
    Except Fault (List Float) := do
  let colIdx := numGpixelPhases * c
  let stride := roiWidth * numGpixelPhases
  let columnMax ← forLoop (roiHeight - rowOffset) (fun k (m : Float) => do
      let v ← readAt .snrWeights w (colIdx + (rowOffset + k) * stride)
      return if v > m then v else m) 0
  forLoop (roiHeight - rowOffset) (fun k w => do
      let rowIdx := rowOffset + k
      let newWeight := (← readAt .snrWeights w (colIdx + rowIdx * stride)) / columnMax
      let w ← writeAt .snrWeights w (colIdx + 0 + rowIdx * stride) newWeight
      let w ← writeAt .snrWeights w (colIdx + 1 + rowIdx * stride) newWeight
      writeAt .snrWeights w (colIdx + 2 + rowIdx * stride) newWeight) w

/-- `computeSnrSquaredWeights`: the SNR weights of every pixel, normalised per column, and the
sum that goes with them (the Gaussian sum of the matching height). -/
def computeSnrSquaredWeights (rawRoi0 rawRoi1 : List Nat) (snrWeights : List Float)
    (roiHeight roiWidth rowOffset : Nat) : Except Fault (List Float × Float) := do
  let numberOfSums :=
    if roiHeight = gaussian6.length then gaussian6NumberOfSums else gaussian8NumberOfSums
  let w ← forLoop (roiHeight * roiWidth) (snrWeightStep rawRoi0 rawRoi1 roiWidth rowOffset)
    snrWeights
  let w ← forLoop roiWidth (normaliseColumn roiHeight roiWidth rowOffset) w
  return (w, numberOfSums)

/-! ### Collapse -/

/-- One sample of `collapseRawRoi`: add the raw sample times its weight to the column. The
weight index is the row, unless the weights are as long as the raw ROI (SNR weights), where
it is the raw index. The column index stays below the collapsed row's `3 * roiWidth`. -/
def collapseStep (rawRoi : List Nat) (weights : List Float) (roiWidth rowIdx colIdx : Nat)
    (v : List Float) : Except Fault (List Float) := do
  let rawRoiIdx := colIdx + numGpixelPhases * roiWidth * rowIdx
  let weightsIdx := if weights.length = rawRoi.length then rawRoiIdx else rowIdx
  let x ← readAt .rotatedRoi rawRoi rawRoiIdx
  let wt ← readAt .window weights weightsIdx
  return v.set colIdx (v.getD colIdx 0 + Float.ofNat x * wt)

/-- `collapseRawRoi` up to the binning of the collapsed row: the weighted sum over the rows
`rowOffset ..< roiHeight` of every raw column. -/
def collapseRawRoi (rawRoi : List Nat) (weights : List Float) (roiHeight roiWidth rowOffset : Nat) :
    Except Fault (List Float) :=
  forLoop (roiHeight - rowOffset)
    (fun k v => forLoop (numGpixelPhases * roiWidth) (collapseStep rawRoi weights roiWidth
      (rowOffset + k)) v)
    (List.replicate (numGpixelPhases * roiWidth) 0)

/-- A window of `len` entries, shorter than the ROI's `roiHeight` rows and not as long as the
raw ROI, faults when row `len` reads its weight. -/
theorem collapseRawRoi_error_of_window {rawRoi : List Nat} {weights : List Float}
    {roiHeight roiWidth : Nat} (hw : weights.length < roiHeight)
    (hr : numGpixelPhases * roiWidth * roiHeight ≤ rawRoi.length)
    (hne : weights.length ≠ rawRoi.length) (h0 : 0 < roiWidth) :
    collapseRawRoi rawRoi weights roiHeight roiWidth 0 =
      .error ⟨.window, weights.length, weights.length⟩ := by
  have hm : ∀ k, k < roiHeight → ∀ c < numGpixelPhases * roiWidth,
      c + numGpixelPhases * roiWidth * k < rawRoi.length := fun k hk c hc =>
    calc c + numGpixelPhases * roiWidth * k
        < numGpixelPhases * roiWidth * (k + 1) := by rw [Nat.mul_succ]; omega
      _ ≤ numGpixelPhases * roiWidth * roiHeight := Nat.mul_le_mul_left _ hk
      _ ≤ rawRoi.length := hr
  refine @forLoop_error_at (List Float) (roiHeight - 0) weights.length _ _ (fun _ _ => True)
    (by omega) (fun k hk v _ => ?_) (fun v _ => ?_) _ trivial
  · -- rows above the window's end read inside it
    obtain ⟨v', hv', -⟩ := @forLoop_ok (List Float) (numGpixelPhases * roiWidth)
      (collapseStep rawRoi weights roiWidth (0 + k)) (fun _ _ => True)
      (fun c hc u _ => by
        simp only [collapseStep, hne, if_false, Nat.zero_add,
          readAt_of_lt (hm k (by omega) c hc), readAt_of_lt hk, ok_bind]
        exact ⟨_, rfl, trivial⟩) v trivial
    exact ⟨v', hv', trivial⟩
  · -- the first sample of row `len` reads the weight past the end
    have hl : numGpixelPhases * roiWidth * weights.length < rawRoi.length := by
      simpa using hm weights.length hw 0 (by simp [numGpixelPhases]; omega)
    refine forLoop_error_of_first (by simp [numGpixelPhases]; omega) ?_
    simp only [collapseStep, hne, if_false, Nat.zero_add, readAt_of_lt hl,
      readAt_of_le (Nat.le_refl weights.length), ok_bind, error_bind]

end RawToDepthDsp

/-! ### The engine -/

/-- The state of one stripe engine: the base class, the SNR weights and the ROI geometry
`processWholeFrame` reads. -/
structure Stripe extends RawToDepth where
  snrWeights : List Float
  snrWeightsNumberOfSums : Float
  roiStartRow : Nat
  binnedRoiWidth : Nat

namespace Stripe

/-- `RawToDepthStripe_float::realloc`: size the SNR weights for the ROI's raw samples. -/
def realloc (s : Stripe) (m : RtdMetadata) : Stripe :=
  { s with snrWeights :=
      (makeVector s.snrWeights (numGpixelPhases * m.getRoiNumRows * roiNumColumns) 0).1 }

/-- `RawToDepthStripe_float::reset`: the base `reset`, then this class's `realloc`. -/
def reset (s : Stripe) (m : RtdMetadata) : Except Fault Stripe := do
  let b ← s.toRawToDepth.reset m
  return ({ s with toRawToDepth := b } : Stripe).realloc m

/-- The member initialisers of `RawToDepthStripe_float` over a constructed base. -/
def initial (b : RawToDepth) : Stripe where
  toRawToDepth := b
  snrWeights := []
  snrWeightsNumberOfSums := 4
  roiStartRow := 0
  binnedRoiWidth := imageWidth

/-- The constructor: the base constructor, then the member initialisers. -/
def create (fovIdx : Nat) : Except Fault Stripe := do
  return initial (← RawToDepth.create fovIdx)

/-- `RawToDepthStripe_float::saveTimestamp`: the base checks, then exactly one ROI per FOV. -/
def saveTimestamp (s : Stripe) (m : RtdMetadata) : Bool × Stripe :=
  let (ok, b) := s.toRawToDepth.saveTimestamp m
  let s := { s with toRawToDepth := b }
  if !ok then (false, s)
  else if 1 ≠ s.expectedNumRois then (false, { s with incompleteFov := true })
  else (true, s)

/-- `windowFactory`: a rectangular window of matching height when the rectangular sum is
selected, else the SNR weights when they are selected, else the six-row Gaussian for six
rows, and the eight-row Gaussian for every other height. -/
def windowFactory (s : Stripe) (mdat : RtdMetadata) (rawRoi0 rawRoi1 : List Nat)
    (rowOffset : Nat) : Except Fault ((List Float × Float) × Stripe) := do
  let i := s.fovIdx
  let rows := mdat.getRoiNumRows
  if mdat.getStripeModeRectSum i ∧ rect6.length = rows then return ((rect6, rect6NumberOfSums), s)
  if mdat.getStripeModeRectSum i ∧ rect8.length = rows then return ((rect8, rect8NumberOfSums), s)
  if mdat.getStripeModeSnrWeightedSum i then
    let (w, n) ← computeSnrSquaredWeights rawRoi0 rawRoi1 s.snrWeights rows roiNumColumns rowOffset
    return ((w, n), { s with snrWeights := w, snrWeightsNumberOfSums := n })
  if gaussian6.length = rows then return ((gaussian6, gaussian6NumberOfSums), s)
  return ((gaussian8, gaussian8NumberOfSums), s)

/-- `RawToDepthStripe_float::processRoi` up to the collapse: validate, pass the ROI through
the HDR stage, `reset` from the ROI received, and unless HDR holds the ROI back or
`saveTimestamp` skips it, rotate the taps of the delayed ROI, pick the window and collapse
both frequencies. -/
def processRoi (s : Stripe) (r : RoiBuffer) : Except Fault Stripe := do
  if !s.toRawToDepth.validateMetadata r then return s
  let hdr ← s.hdr.submit r (!s.veryFirstRoiReceived) inputRawShift
  let mdat := hdr.getMetadata
  let s := { s with hdr, veryFirstRoiReceived := true }
  let s ← s.reset r.md
  if hdr.skip then return s
  let (ok, s) := s.saveTimestamp mdat
  if !ok then return s
  let s := { s with roiStartRow := mdat.getRoiStartRow,
                    binnedRoiWidth := roiNumColumns / s.binning.2 }
  let rows := mdat.getRoiNumRows
  let frame := List.replicate (numGpixelPhases * rows * roiNumColumns) 0
  let roi0 ← tapRotation hdr.getRoi frame 0 rows roiNumColumns numGpixelPhases
    mdat.getDoTapAccumulation
  let roi1 ← tapRotation hdr.getRoi frame 1 rows roiNumColumns numGpixelPhases
    mdat.getDoTapAccumulation
  let ((window, _), s) ← s.windowFactory mdat roi0 roi1 0
  let _ ← collapseRawRoi roi0 window rows roiNumColumns 0
  let _ ← collapseRawRoi roi1 window rows roiNumColumns 0
  return s

/-- `processWholeFrame`: stripe mode publishes its one-ROI FOV at once, when RTD is enabled,
no ROI was skipped, and the FOV holds exactly one ROI, received as the last. -/
def processWholeFrame (s : Stripe) : Bool :=
  !s.disableRtd && !s.incompleteFov && s.expectedNumRois == 1 && s.currentRoiIdx == 0 &&
    s.lastRoiReceived

/-! ### What a stripe ROI does -/

/-- **Every height but six gets the eight-row Gaussian** when no rectangular window matches
and SNR weighting is off. -/
theorem windowFactory_gaussian8 {s : Stripe} {mdat : RtdMetadata} {rawRoi0 rawRoi1 : List Nat}
    {rowOffset : Nat} (hw : mdat.getStripeModeSnrWeightedSum s.fovIdx = false)
    (h6 : mdat.getRoiNumRows ≠ 6) (h8 : mdat.getRoiNumRows ≠ 8) :
    s.windowFactory mdat rawRoi0 rawRoi1 rowOffset = .ok ((gaussian8, gaussian8NumberOfSums), s) := by
  simp [windowFactory, hw, Ne.symm h6, Ne.symm h8]

/-- **The Gaussian path reads past its window.** An accepted stripe ROI with HDR disabled,
valid adjacent modulation indices, RTD enabled and the announced data, whose height is nine
rows or more and which does not select SNR weighting, is collapsed with the eight-row
Gaussian window, and row `8` of the collapse reads `_gaussian8[8]`. -/
theorem processRoi_reads_past_gaussian8 {s : Stripe} {r : RoiBuffer}
    (hv : s.toRawToDepth.validateMetadata r = true) (hd : r.md.isHdrDisabled = true)
    (hs : r.md.getStripeModeEnabled s.fovIdx = true)
    (hw : r.md.getStripeModeSnrWeightedSum s.fovIdx = false)
    (hf1 : 3 ≤ r.md.getF1ModulationIndex) (hf0 : r.md.getF0ModulationIndex < 11)
    (hrtd : r.md.getDisableRtd s.fovIdx = false) (hrows : 9 ≤ r.md.getRoiNumRows)
    (hdata : r.data.length = RawToDepth.announcedShorts r.md) :
    s.processRoi r = .error ⟨.window, 8, 8⟩ := by
  -- the HDR stage passes the ROI through and `reset` configures the one-ROI FOV
  obtain ⟨-, -, hadj⟩ := RawToDepth.validateMetadata_values hv
  obtain ⟨hdr, hsub, hmd, hroi, hskip⟩ :=
    @Hdr.submit_disabled_emits s.hdr r (!s.veryFirstRoiReceived) inputRawShift hd
  obtain ⟨g, hg, hg0⟩ := GPixel.getGcf_adjacent hf1 (by omega)
  rw [← hadj] at hg
  obtain ⟨b, hb, bc, bi, -, -, -, bfov, -, -, -⟩ :=
    RawToDepth.realloc_configured hf0 (by omega) hg hg0
      { s.toRawToDepth with hdr, veryFirstRoiReceived := true, prevRoiWasLast := false }
  simp only at bfov hb
  have hone : r.md.getFovNumRois s.fovIdx = 1 := by simp [RtdMetadata.getFovNumRois, hs]
  -- `saveTimestamp` accepts it as the FOV's only ROI
  obtain ⟨ok, -, -, -, -⟩ := @RawToDepth.saveTimestamp_first r.md b (by rw [bfov]; exact hrtd) bi
    (by rw [bc.timestamps, bfov, hone]; decide)
  obtain ⟨-, f3, -, -, -, n3⟩ := @RawToDepth.saveTimestamp_frameCompleted r.md b
  -- tap rotation runs, and the window is the eight-row Gaussian
  obtain ⟨roi0, h0r, l0⟩ := @RawToDepth.tapRotation_announced
    (sh2f r.data inputRawShift rawPixelMask) r.md 0 (by decide) (by simpa using hdata)
  obtain ⟨roi1, h1r, -⟩ := @RawToDepth.tapRotation_announced
    (sh2f r.data inputRawShift rawPixelMask) r.md 1 (by decide) (by simpa using hdata)
  have hwin : ∀ t : Stripe, t.fovIdx = s.fovIdx →
      t.windowFactory r.md roi0 roi1 0 = .ok ((gaussian8, gaussian8NumberOfSums), t) :=
    fun t ht => windowFactory_gaussian8 (by rw [ht]; exact hw) (by omega) (by omega)
  have hcol := @collapseRawRoi_error_of_window roi0 gaussian8 r.md.getRoiNumRows roiNumColumns
    (by simp only [length_gaussian8]; omega) (by rw [l0, Nat.mul_right_comm])
    (by simp only [length_gaussian8, l0, numGpixelPhases, roiNumColumns, imageWidth]; omega)
    (by decide)
  simp only [processRoi, hv, hsub, hmd, hskip, reset, RawToDepth.reset, hb, saveTimestamp,
    realloc, ok, n3, bc.expectedNumRois, bfov, hone, hroi, h0r, h1r, ok_bind,
    pure_eq_ok, Bool.not_true, Bool.false_eq_true, if_false, ne_eq, not_true_eq_false]
  rw [hwin _ (by simp only [f3, bfov]), ok_bind, hcol, error_bind, length_gaussian8]

/-- A ten-row stripe ROI for FOV `0` (a height of the ingest mode table) on the Gaussian path:
`DEFAULT_METADATA` with ten rows and stripe mode, carrying the announced data (three phases of
ten rows of 640 pixels, for two frequencies and three tap permutations). -/
def tenRowRoi : RoiBuffer :=
  ⟨(RtdMetadata.defaultMetadata.set RtdMetadata.roiNumRowsOff 10).set
    (RtdMetadata.perFovOff 0 6) 1, List.replicate 115200 0⟩

theorem processRoi_reads_past_gaussian8_tenRows :
    (initial (RawToDepth.initial 0 0 (0, 0))).processRoi tenRowRoi = .error ⟨.window, 8, 8⟩ :=
  have hl : tenRowRoi.data.length = 115200 := List.length_replicate 115200 0
  processRoi_reads_past_gaussian8
    (by rw [RawToDepth.validateMetadata, RoiBuffer.numBytes, hl]; decide)
    (by decide) (by decide) (by decide) (by decide) (by decide) (by decide) (by decide)
    (by rw [hl]; decide)

end Stripe

end Cobra
