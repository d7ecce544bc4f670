import Cobra.Hdr

/-!
# The Base Engine

`RawToDepth`, the base class of the grid and stripe engines, as far as their per-ROI paths
read and write it: the checks of `validateMetadata`, the FOV geometry, tags and modulation
frequencies that `realloc` takes from a first ROI, the timestamp bookkeeping and the skip
conditions of `saveTimestamp`, and the sticky flag behind `lastRoiReceived`.

`realloc` is not virtual in the source: `RawToDepth::reset` calls the base `realloc`, and each
engine's own `reset` then calls its own. `bufferSizesChanged` and `saveTimestamp` are
virtual; the engines call the base versions first, as here.

Fields that only the whole-frame DSP or the output reads (mapping-table geometry, range
limit, SNR threshold, sensor id, user tag, temperature calibration, the pixel mask) are left
out.

## Main results

* `bufferSizesChanged_ok`, `realloc_ok`: with modulation indices inside the frequency table,
  the table reads of `bufferSizesChanged` and `realloc` stay in bounds.
* `saveTimestamp_frameCompleted`: whatever the verdict, `saveTimestamp` latches the ROI's
  frame-completed bit into the flag that `lastRoiReceived` reads.
* `realloc_configured`, `bufferSizesChanged_of_configured`: `realloc` installs the FOV a first
  ROI describes (`Configured`), against which `bufferSizesChanged` finds no change.
-/

namespace Cobra

open RawToDepthDsp

/-- `ROI_NUM_COLUMNS`, `ROI_START_COLUMN` and the static `getFovNumColumns`. -/
def roiNumColumns : Nat := imageWidth
def fovStartColumn : Nat := 0
def fovNumColumns : Nat := imageWidth

/-- The state of the `RawToDepth` base class of one FOV slot. -/
structure RawToDepth where
  fovIdx : Nat
  timestamps : List Nat
  timestampsVec : List (List Nat)
  roiStartRows : List Nat
  fovStartRow : Nat
  hdr : Hdr
  disableRtd : Bool
  binning : Nat × Nat
  size : Nat × Nat
  sensorFovStart : Nat × Nat
  sensorFovSize : Nat × Nat
  sensorFovStep : Nat × Nat
  expectedNumRois : Nat
  expectedScanTableTag : Nat
  expectedFovTag : Nat
  gcf : Nat
  fs : ℚ × ℚ
  prevRoiWasLast : Bool
  veryFirstRoiReceived : Bool
  currentRoiIdx : Int
  incompleteFov : Bool

namespace RawToDepth

/-! ### Input checks -/

/-- `chkBufMetadata`: the buffer holds `Metadata_t`. -/
def chkBufMetadata (numBytes : Nat) : Bool := metadataBytes ≤ numBytes

/-- The bytes of raw data the metadata announces. -/
def expectedRoiBytes (m : RtdMetadata) : Nat :=
  2 * m.getRoiNumRows * roiNumColumns * numGpixelPhases * m.getNumModulationFrequencies *
    m.getNumPermutations

/-- `chkBufDataOnly`: the data after the metadata row holds the announced raw data. -/
def chkBufDataOnly (m : RtdMetadata) (numBytesImagesOnly : Nat) : Bool :=
  expectedRoiBytes m ≤ numBytesImagesOnly

/-- `validateMetadataValues`: DMFD, two frequencies, and `f0 - f1 == 1` as `int`s. -/
def validateMetadataValues (m : RtdMetadata) : Bool :=
  m.getSensorMode == 0 && m.getNumModulationFrequencies == 2 &&
    (m.getF0ModulationIndex : Int) - m.getF1ModulationIndex == 1

/-- `validateMetadata`: the buffer checks, the value checks, and until the very first ROI has
been received, only a first ROI that is no HDR retake. -/
def validateMetadata (s : RawToDepth) (r : RoiBuffer) : Bool :=
  chkBufMetadata r.numBytes && chkBufDataOnly r.md (r.numBytes - 2 * mdRowShorts) &&
    validateMetadataValues r.md &&
    !(!s.veryFirstRoiReceived && !r.md.getFirstRoi s.fovIdx) &&
    !(!s.veryFirstRoiReceived && r.md.wasPreviousRoiSaturated)

/-- What an accepted ROI's metadata satisfies: DMFD, two frequencies, adjacent indices. -/
theorem validateMetadata_values {s : RawToDepth} {r : RoiBuffer}
    (h : s.validateMetadata r = true) :
    r.md.getSensorMode = 0 ∧ r.md.getNumModulationFrequencies = 2 ∧
      r.md.getF0ModulationIndex = r.md.getF1ModulationIndex + 1 := by
  simp only [validateMetadata, validateMetadataValues, Bool.and_eq_true, beq_iff_eq] at h
  omega

/-! ### Buffer sizing -/

/-- `RawToDepth::bufferSizesChanged`, its `||` chain evaluated left to right. -/
def bufferSizesChanged (s : RawToDepth) (m : RtdMetadata) : Except Fault Bool := do
  let i := s.fovIdx
  if m.getFullImageHeight i ≠ s.size.1 ∨ m.getFullImageWidth i ≠ s.size.2 ∨
      m.getBinningY i ≠ s.binning.1 ∨ m.getBinningX i ≠ s.binning.2 ∨
      m.getFovStartRow i ≠ s.sensorFovStart.1 ∨ fovStartColumn ≠ s.sensorFovStart.2 ∨
      m.getFovNumRows i ≠ s.sensorFovSize.1 ∨ fovNumColumns ≠ s.sensorFovSize.2 ∨
      m.getFovNumRois i ≠ s.timestamps.length then return true
  if s.fs.1 ≠ (← readAt .idxToFrqLut GPixel.idxToFrqLut m.getF0ModulationIndex) then return true
  if s.fs.2 ≠ (← readAt .idxToFrqLut GPixel.idxToFrqLut m.getF1ModulationIndex) then return true
  if s.gcf ≠ (← GPixel.getGcf m.getF0ModulationIndex m.getF1ModulationIndex) then return true
  return s.fovStartRow ≠ m.getFovStartRow i

/-- `RawToDepth::realloc`: take the FOV geometry, tags and modulation frequencies of a first
ROI, and size the timestamp vectors. An invalid index pair (`getGcf` is zero) returns early,
after `_disableRtd`, `_incompleteFov` and `_gcf` are set. -/
def realloc (s : RawToDepth) (m : RtdMetadata) : Except Fault RawToDepth := do
  let i := s.fovIdx
  let gcf ← GPixel.getGcf m.getF0ModulationIndex m.getF1ModulationIndex
  let s := { s with disableRtd := m.getDisableRtd i, incompleteFov := false, gcf }
  if gcf = 0 then return s
  let f0 ← readAt .idxToFrqLut GPixel.idxToFrqLut m.getF0ModulationIndex
  let f1 ← readAt .idxToFrqLut GPixel.idxToFrqLut m.getF1ModulationIndex
  return { s with
    size := (m.getFullImageHeight i, m.getFullImageWidth i)
    binning := (m.getBinningY i, m.getBinningX i)
    sensorFovStart := (m.getFovStartRow i, fovStartColumn)
    sensorFovSize := (m.getFovNumRows i, fovNumColumns)
    sensorFovStep := (m.getBinningY i, m.getBinningX i)
    expectedNumRois := m.getFovNumRois i
    expectedScanTableTag := m.getScanTableTag
    expectedFovTag := m.getRandomFovTag i
    fs := (f0, f1)
    fovStartRow := m.getFovStartRow i
    currentRoiIdx := -1
    timestamps := (makeVector s.timestamps (m.getFovNumRois i) 0).1
    timestampsVec := (makeVector s.timestampsVec (m.getFovNumRois i) []).1
    roiStartRows := [] }

/-- `RawToDepth::reset`: clear the sticky last-ROI flag and run the base `realloc`. -/
def reset (s : RawToDepth) (m : RtdMetadata) : Except Fault RawToDepth :=
  ({ s with prevRoiWasLast := false } : RawToDepth).realloc m

/-- The member initialisers of `RawToDepth`, with the `_gcf` and `_fs` of the default
modulation indices `7` and `8`. -/
def initial (fovIdx gcf : Nat) (fs : ℚ × ℚ) : RawToDepth where
  fovIdx := fovIdx
  timestamps := []
  timestampsVec := []
  roiStartRows := []
  fovStartRow := 0
  hdr := {}
  disableRtd := false
  binning := (2, 2)
  size := (240, 320)
  sensorFovStart := (0, 0)
  sensorFovSize := (240, 320)
  sensorFovStep := (2, 2)
  expectedNumRois := 0
  expectedScanTableTag := 0
  expectedFovTag := 0
  gcf := gcf
  fs := fs
  prevRoiWasLast := false
  veryFirstRoiReceived := false
  currentRoiIdx := 0
  incompleteFov := false

/-- The base constructor: the member initialisers, then `realloc` on `DEFAULT_METADATA`. -/
def create (fovIdx : Nat) : Except Fault RawToDepth := do
  let gcf ← GPixel.getGcf 7 8
  let f7 ← readAt .idxToFrqLut GPixel.idxToFrqLut 7
  let f8 ← readAt .idxToFrqLut GPixel.idxToFrqLut 8
  (initial fovIdx gcf (f7, f8)).realloc RtdMetadata.defaultMetadata

/-! ### Per-ROI bookkeeping -/

/-- `RawToDepth::saveTimestamp`: record whether the ROI completes the FOV, skip it when RTD
is disabled or more ROIs arrived than the FOV holds, else store its timestamps. The flag is
`false` for a skipped ROI, which also marks the FOV incomplete. -/
def saveTimestamp (s : RawToDepth) (m : RtdMetadata) : Bool × RawToDepth :=
  let s := { s with prevRoiWasLast := m.getFrameCompleted s.fovIdx }
  if m.getDisableRtd s.fovIdx then (false, { s with incompleteFov := true }) else
  let s := { s with currentRoiIdx := s.currentRoiIdx + 1 }
  if s.timestamps.length ≤ sizeT s.currentRoiIdx then (false, { s with incompleteFov := true })
  else if 0 ≤ s.currentRoiIdx then
    (true, { s with timestamps := s.timestamps.set s.currentRoiIdx.toNat m.getTimestamp,
                    timestampsVec := s.timestampsVec.set s.currentRoiIdx.toNat m.getTimestamps })
  else (true, s)

/-- `lastRoiReceived()`: the sticky flag `_prevRoiWasLast`. -/
def lastRoiReceived (s : RawToDepth) : Bool := s.prevRoiWasLast

/-! ### What the base steps can do -/

variable {m : RtdMetadata}

/-- In-range modulation indices keep every table read of `bufferSizesChanged` in bounds. -/
theorem bufferSizesChanged_ok (h0 : m.getF0ModulationIndex < 11)
    (h1 : m.getF1ModulationIndex < 11) (s : RawToDepth) :
    ∃ b, s.bufferSizesChanged m = .ok b := by
  obtain ⟨g, hg⟩ := GPixel.getGcf_ok h0 h1
  simp only [bufferSizesChanged, hg,
    readAt_of_lt (show m.getF0ModulationIndex < GPixel.idxToFrqLut.length by simpa using h0),
    readAt_of_lt (show m.getF1ModulationIndex < GPixel.idxToFrqLut.length by simpa using h1),
    ok_bind]
  split_ifs <;> exact ⟨_, rfl⟩

/-- `realloc` succeeds on in-range indices; it leaves the slot's identity, HDR stage and
flags alone. -/
theorem realloc_ok (h0 : m.getF0ModulationIndex < 11) (h1 : m.getF1ModulationIndex < 11)
    (s : RawToDepth) :
    ∃ s', s.realloc m = .ok s' ∧ s'.fovIdx = s.fovIdx ∧ s'.hdr = s.hdr ∧
      s'.veryFirstRoiReceived = s.veryFirstRoiReceived ∧
      s'.prevRoiWasLast = s.prevRoiWasLast := by
  obtain ⟨g, hg⟩ := GPixel.getGcf_ok h0 h1
  simp only [realloc, hg, ok_bind]
  split_ifs
  · exact ⟨_, rfl, rfl, rfl, rfl, rfl⟩
  · simp only [ok_bind, pure_eq_ok,
      readAt_of_lt (show m.getF0ModulationIndex < GPixel.idxToFrqLut.length by simpa using h0),
      readAt_of_lt (show m.getF1ModulationIndex < GPixel.idxToFrqLut.length by simpa using h1)]
    exact ⟨_, rfl, rfl, rfl, rfl, rfl⟩

/-- Whatever path `reset` takes, it keeps the slot's identity. -/
theorem reset_fovIdx {s b : RawToDepth} (h : s.reset m = .ok b) : b.fovIdx = s.fovIdx := by
  obtain ⟨g, -, h⟩ := bind_eq_ok.1 h
  split at h
  · cases h; rfl
  · simp only [bind_eq_ok, pure_eq_ok] at h
    obtain ⟨_, -, _, -, _, -, h⟩ := h
    cases h; rfl

/-- Whatever it decides, `saveTimestamp` latches the frame-completed bit and leaves the
slot's identity, HDR stage, first-ROI flag, RTD flag and FOV configuration alone. -/
theorem saveTimestamp_frameCompleted (s : RawToDepth) :
    (s.saveTimestamp m).2.prevRoiWasLast = m.getFrameCompleted s.fovIdx ∧
      (s.saveTimestamp m).2.fovIdx = s.fovIdx ∧ (s.saveTimestamp m).2.hdr = s.hdr ∧
      (s.saveTimestamp m).2.veryFirstRoiReceived = s.veryFirstRoiReceived ∧
      (s.saveTimestamp m).2.disableRtd = s.disableRtd ∧
      (s.saveTimestamp m).2.expectedNumRois = s.expectedNumRois := by
  dsimp only [saveTimestamp]
  split_ifs <;> exact ⟨rfl, rfl, rfl, rfl, rfl, rfl⟩

/-! ### The announced data -/

/-- The raw data of an ROI as the metadata announces it: three phases of every pixel, for
both frequencies and every tap permutation. -/
def announcedShorts (m : RtdMetadata) : Nat :=
  numGpixelPhases * m.getRoiNumRows * roiNumColumns * 2 * m.getNumPermutations

/-- An ROI vector of the announced length passes both tap rotations: the permutation count
and the tap-sum switch come from the same reduce-mode word. -/
theorem tapRotation_announced {roiVector : List Nat} {m : RtdMetadata} {f : Nat} (hf : f < 2)
    (h : roiVector.length = announcedShorts m) :
    ∃ frame', tapRotation roiVector
        (List.replicate (numGpixelPhases * m.getRoiNumRows * roiNumColumns) 0) f
        m.getRoiNumRows roiNumColumns numGpixelPhases m.getDoTapAccumulation = .ok frame' ∧
      frame'.length = numGpixelPhases * m.getRoiNumRows * roiNumColumns := by
  have hp : m.getNumPermutations = 3 ∨ m.getNumPermutations = 1 := by
    unfold RtdMetadata.getNumPermutations; split_ifs <;> simp
  simp only [announcedShorts, numGpixelPhases, roiNumColumns, imageWidth] at h ⊢
  obtain ⟨fr, hfr, hl⟩ := @tapRotation_ok roiVector
    (List.replicate (3 * m.getRoiNumRows * 640) 0) f m.getRoiNumRows 640
    m.getDoTapAccumulation (by simp [numGpixelPhases]; omega)
    (by simp only [numGpixelPhases]; rcases hp with hp | hp <;> rw [hp] at h <;>
      interval_cases f <;> omega)
  exact ⟨fr, hfr, by simpa using hl⟩

/-! ### The configuration of an FOV -/

/-- The engine holds the FOV configuration `m` describes: what `realloc` takes from a first
ROI, and what `bufferSizesChanged` compares against. -/
structure Configured (s : RawToDepth) (m : RtdMetadata) : Prop where
  size : s.size = (m.getFullImageHeight s.fovIdx, m.getFullImageWidth s.fovIdx)
  binning : s.binning = (m.getBinningY s.fovIdx, m.getBinningX s.fovIdx)
  sensorFovStart : s.sensorFovStart = (m.getFovStartRow s.fovIdx, fovStartColumn)
  sensorFovSize : s.sensorFovSize = (m.getFovNumRows s.fovIdx, fovNumColumns)
  sensorFovStep : s.sensorFovStep = (m.getBinningY s.fovIdx, m.getBinningX s.fovIdx)
  expectedNumRois : s.expectedNumRois = m.getFovNumRois s.fovIdx
  expectedScanTableTag : s.expectedScanTableTag = m.getScanTableTag
  expectedFovTag : s.expectedFovTag = m.getRandomFovTag s.fovIdx
  timestamps : s.timestamps.length = m.getFovNumRois s.fovIdx
  fs0 : readAt .idxToFrqLut GPixel.idxToFrqLut m.getF0ModulationIndex = .ok s.fs.1
  fs1 : readAt .idxToFrqLut GPixel.idxToFrqLut m.getF1ModulationIndex = .ok s.fs.2
  gcf : GPixel.getGcf m.getF0ModulationIndex m.getF1ModulationIndex = .ok s.gcf
  fovStartRow : s.fovStartRow = m.getFovStartRow s.fovIdx

/-- A configured engine finds no size change. -/
theorem bufferSizesChanged_of_configured {s : RawToDepth} (h : s.Configured m) :
    s.bufferSizesChanged m = .ok false := by
  simp [bufferSizesChanged, h.size, h.binning, h.sensorFovStart, h.sensorFovSize, h.timestamps,
    h.fs0, h.fs1, h.gcf, h.fovStartRow]

/-- **`realloc` configures the engine.** On modulation indices inside the table with a
nonzero GCF, `realloc` installs the FOV that `m` describes, starts a new ROI count, and
leaves the slot's identity, HDR stage and flags alone. -/
theorem realloc_configured {g : Nat} (h0 : m.getF0ModulationIndex < 11)
    (h1 : m.getF1ModulationIndex < 11)
    (hg : GPixel.getGcf m.getF0ModulationIndex m.getF1ModulationIndex = .ok g) (hg0 : 0 < g)
    (s : RawToDepth) :
    ∃ s', s.realloc m = .ok s' ∧ s'.Configured m ∧ s'.currentRoiIdx = -1 ∧
      s'.roiStartRows = [] ∧ s'.disableRtd = m.getDisableRtd s.fovIdx ∧
      s'.incompleteFov = false ∧ s'.fovIdx = s.fovIdx ∧ s'.hdr = s.hdr ∧
      s'.veryFirstRoiReceived = s.veryFirstRoiReceived ∧
      s'.prevRoiWasLast = s.prevRoiWasLast := by
  have r0 := @readAt_of_lt _ .idxToFrqLut _ _
    (show m.getF0ModulationIndex < GPixel.idxToFrqLut.length by simpa using h0)
  have r1 := @readAt_of_lt _ .idxToFrqLut _ _
    (show m.getF1ModulationIndex < GPixel.idxToFrqLut.length by simpa using h1)
  simp only [realloc, hg, r0, r1, ok_bind, pure_eq_ok, Nat.pos_iff_ne_zero.1 hg0, if_false]
  exact ⟨_, rfl, ⟨rfl, rfl, rfl, rfl, rfl, rfl, rfl, rfl, by simp, r0, r1, hg, rfl⟩, rfl, rfl,
    rfl, rfl, rfl, rfl, rfl, rfl⟩

/-- `saveTimestamp` keeps the FOV configuration: it only counts the ROI and stores its
timestamps. -/
theorem Configured.saveTimestamp {s : RawToDepth} (h : s.Configured m) (m' : RtdMetadata) :
    (s.saveTimestamp m').2.Configured m := by
  dsimp only [RawToDepth.saveTimestamp]
  split_ifs
  · exact { h with }
  · exact { h with }
  · exact { h with timestamps := by simp [h.timestamps] }
  · exact { h with }

/-- The configuration reads only the FOV's block, the modulation indices and the scan-table
tag of the metadata. -/
theorem Configured.of_agree {s : RawToDepth} {m' : RtdMetadata} (h : s.Configured m)
    (hfov : ∀ k, m.getsmd s.fovIdx k = m'.getsmd s.fovIdx k)
    (h0 : m.getF0ModulationIndex = m'.getF0ModulationIndex)
    (h1 : m.getF1ModulationIndex = m'.getF1ModulationIndex)
    (htag : m.getScanTableTag = m'.getScanTableTag) : s.Configured m' := by
  obtain ⟨e1, e2, e3, e4, e5, e6, e7, e8, e9, e10, e11, e12, e13⟩ := h
  simp only [RtdMetadata.getFullImageHeight, RtdMetadata.getFullImageWidth,
    RtdMetadata.getBinningY, RtdMetadata.getBinningX, RtdMetadata.getBinModeX,
    RtdMetadata.getFovNumRows, RtdMetadata.getFovStartRow, RtdMetadata.getFovNumRois,
    RtdMetadata.getStripeModeEnabled, RtdMetadata.getRtdAlgorithmCommon,
    RtdMetadata.getRandomFovTag, hfov, h0, h1, htag] at *
  exact ⟨e1, e2, e3, e4, e5, e6, e7, e8, e9, e10, e11, e12, e13⟩

/-- **The first ROI after `realloc` is counted.** With RTD enabled, a freshly reset ROI count
and room for at least one ROI, `saveTimestamp` accepts the ROI as ROI `0` and latches its
frame-completed bit. -/
theorem saveTimestamp_first {s : RawToDepth} (hd : m.getDisableRtd s.fovIdx = false)
    (hc : s.currentRoiIdx = -1) (ht : 0 < s.timestamps.length) :
    (s.saveTimestamp m).1 = true ∧ (s.saveTimestamp m).2.currentRoiIdx = 0 ∧
      (s.saveTimestamp m).2.prevRoiWasLast = m.getFrameCompleted s.fovIdx ∧
      (s.saveTimestamp m).2.incompleteFov = s.incompleteFov ∧
      (s.saveTimestamp m).2.timestamps.length = s.timestamps.length := by
  have h0 : sizeT 0 = 0 := rfl
  simp [saveTimestamp, hd, hc, h0, Nat.not_le.2 ht]

end RawToDepth

end Cobra
