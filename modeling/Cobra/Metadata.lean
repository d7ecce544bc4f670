import Mathlib.Algebra.Order.Floor
import Mathlib.Data.Rat.Floor
import Mathlib.Tactic.IntervalCases
import Cobra.Buffer

/-!
# The Metadata Row

Every ROI the sensor head delivers starts with one image row of metadata: `Metadata_t` of
`RtdMetadata.h`, 16-bit words each holding a 12-bit value shifted left by `MD_SHIFT`, with
eight 32-word blocks of per-FOV values from word `PER_FOV_METADATA_OFFSET` on. `RtdMetadata`
is the row as a function from word index to raw word, and its getters are those of the class
`RtdMetadata`: shift the word right by four and test or combine the bits the source names.
Every getter therefore yields a value below `2 ^ 12` (`getmd_lt`), whatever the row holds.

The second half of the module is `GPixel`: the two lookup tables from a modulation index to
a modulation frequency and from an index pair to their greatest common frequency, and
`getGcf`, which reads them through `readAt`. The table entries are kept as the exact
rationals the `float` initialisers denote.
-/

namespace Cobra

/-! ### Constants of `RtdMetadata.h` -/

/-- `MD_SHIFT`: the right shift that recovers a metadata value from its word. -/
def mdShift : Nat := 4
/-- `IMAGE_WIDTH`, also `ROI_NUM_COLUMNS` and the width of every FOV. -/
def imageWidth : Nat := 640
/-- `MAX_IMAGE_HEIGHT`. -/
def maxImageHeight : Nat := 480
/-- `NUM_GPIXEL_PHASES`: the three taps of a raw pixel. -/
def numGpixelPhases : Nat := 3
/-- `MD_ROW_SHORTS`: the words of the metadata row. -/
def mdRowShorts : Nat := imageWidth * numGpixelPhases
/-- `sizeof(Metadata_t)` in bytes: 200 leading words and eight per-FOV blocks of 32. -/
def metadataBytes : Nat := 2 * (200 + 8 * 32)
/-- `MAX_ACTIVE_FOVS`. -/
def maxActiveFovs : Nat := 8
/-- `SATURATION_THRESHOLD`: the threshold value that disables HDR. -/
def saturationThreshold : Nat := 4095
/-- `RAW_PIXEL_MASK`: the active bits of a raw data word. -/
def rawPixelMask : Nat := 0xfffc
/-- `INPUT_RAW_SHIFT`. -/
def inputRawShift : Nat := 1

/-! ### The row and its fields -/

/-- One metadata row: the raw 16-bit words of `Metadata_t`, by word index. -/
structure RtdMetadata where
  word : Nat → UInt16

namespace RtdMetadata

/-- The row whose words are all zero (a value-initialised `std::vector<uint16_t>`). -/
def zero : RtdMetadata := ⟨fun _ => 0⟩

/-- The row with the value `v` stored, shifted, at word `off`. -/
def set (m : RtdMetadata) (off v : Nat) : RtdMetadata :=
  ⟨fun i => if i = off then (v <<< mdShift).toUInt16 else m.word i⟩

/-- `getmd`: the 12-bit value held by word `off`. -/
def getmd (m : RtdMetadata) (off : Nat) : Nat := (m.word off).toNat >>> mdShift

/-- Word offsets of the leading fields of `Metadata_t`. -/
def sensorModeOff : Nat := 0
def roiStartRowOff : Nat := 1
def roiNumRowsOff : Nat := 2
def f0ModulationIndexOff : Nat := 3
def f1ModulationIndexOff : Nat := 4
def activeStreamBitmaskOff : Nat := 14
def startStopFlagsOff (i : Nat) : Nat := 15 + i
def timestampOff (k : Nat) : Nat := 24 + k
def reduceModeOff : Nat := 49
def saturationThresholdOff : Nat := 54
def randomScanTableTagOff : Nat := 73

/-- Word `k` of the per-FOV block of FOV `i` (`perFovMetadata[i]`). -/
def perFovOff (i k : Nat) : Nat := 200 + 32 * i + k

/-- `getsmd(field, i)` for the field at position `k` of `PerFovMetadata_t`. -/
def getsmd (m : RtdMetadata) (i k : Nat) : Nat := m.getmd (perFovOff i k)

theorem getmd_lt (m : RtdMetadata) (off : Nat) : m.getmd off < 2 ^ 12 := by
  have h : (m.word off).toNat < 2 ^ 16 := (m.word off).val.isLt
  simp only [getmd, mdShift, Nat.shiftRight_eq_div_pow]
  omega

@[simp] theorem getmd_set_self (m : RtdMetadata) (off v : Nat) (hv : v < 2 ^ 12) :
    (m.set off v).getmd off = v := by
  simp only [getmd, set, if_pos rfl, mdShift, Nat.toUInt16, UInt16.toNat, UInt16.ofNat,
    Fin.ofNat, Nat.shiftLeft_eq, Nat.shiftRight_eq_div_pow]
  show (v * 2 ^ 4 % 65536) / 2 ^ 4 = v
  omega

@[simp] theorem getmd_set_ne (m : RtdMetadata) {off off' : Nat} (v : Nat) (h : off' ≠ off) :
    (m.set off v).getmd off' = m.getmd off' := by
  simp [getmd, set, h]

/-! ### Getters of `RtdMetadata` -/

/-- The mode bits of the sensor: only DMFD (`0`) is supported. -/
def getSensorMode (m : RtdMetadata) : Nat := m.getmd sensorModeOff &&& 0x07

def getRoiStartRow (m : RtdMetadata) : Nat := m.getmd roiStartRowOff
def getRoiNumRows (m : RtdMetadata) : Nat := m.getmd roiNumRowsOff
def getF0ModulationIndex (m : RtdMetadata) : Nat := m.getmd f0ModulationIndexOff
def getF1ModulationIndex (m : RtdMetadata) : Nat := m.getmd f1ModulationIndexOff
def getScanTableTag (m : RtdMetadata) : Nat := m.getmd randomScanTableTagOff
def getStartStopFlags (m : RtdMetadata) (i : Nat) : Nat := m.getmd (startStopFlagsOff i)
def getUserTag (m : RtdMetadata) (i : Nat) : Nat := m.getsmd i 0
def getBinModeX (m : RtdMetadata) (i : Nat) : Nat := m.getsmd i 1
def getFovStartRow (m : RtdMetadata) (i : Nat) : Nat := m.getsmd i 3
def getFovNumRows (m : RtdMetadata) (i : Nat) : Nat := m.getsmd i 4
def getRtdAlgorithmCommon (m : RtdMetadata) (i : Nat) : Nat := m.getsmd i 6
def getRandomFovTag (m : RtdMetadata) (i : Nat) : Nat := m.getsmd i 10
def getRtdAlgorithmGrid (m : RtdMetadata) (i : Nat) : Nat := m.getsmd i 11
def getRtdAlgorithmStripe (m : RtdMetadata) (i : Nat) : Nat := m.getsmd i 12

/-- `RTD_ALG_COMMON_STRIPE_MODE` set in the common algorithm word. -/
def getStripeModeEnabled (m : RtdMetadata) (i : Nat) : Bool :=
  m.getRtdAlgorithmCommon i &&& 0x01 != 0
def getGridModeEnabled (m : RtdMetadata) (i : Nat) : Bool :=
  m.getRtdAlgorithmCommon i &&& 0x01 == 0
/-- `RTD_ALG_COMMON_DISABLE_RTD`. -/
def getDisableRtd (m : RtdMetadata) (i : Nat) : Bool :=
  m.getRtdAlgorithmCommon i &&& 0x800 != 0

/-- The last ROI of an FOV; every ROI is one in stripe mode. -/
def getFrameCompleted (m : RtdMetadata) (i : Nat) : Bool :=
  m.getStripeModeEnabled i || m.getStartStopFlags i &&& 0x02 != 0
/-- The first ROI of an FOV; every ROI is one in stripe mode. -/
def getFirstRoi (m : RtdMetadata) (i : Nat) : Bool :=
  m.getStripeModeEnabled i || m.getStartStopFlags i &&& 0x01 != 0

/-- `REDUCE_MODE_RTD`: the engine, not the FPGA, sums the tap permutations. -/
def getDoTapAccumulation (m : RtdMetadata) : Bool := m.getmd reduceModeOff == 0
def getNumPermutations (m : RtdMetadata) : Nat := if m.getmd reduceModeOff = 0 then 3 else 1

/-- Modulation frequencies per mode: none for image mode, one for SMFD, two otherwise. -/
def getNumModulationFrequencies (m : RtdMetadata) : Nat :=
  match m.getSensorMode with
  | 2 => 0
  | 1 => 1
  | _ => 2

/-- Binning is one value for both directions; a zero bin mode means no binning. -/
def getBinningX (m : RtdMetadata) (i : Nat) : Nat :=
  if m.getBinModeX i = 0 then 1 else m.getBinModeX i
def getBinningY (m : RtdMetadata) (i : Nat) : Nat := m.getBinningX i

/-- The binned output width and height of FOV `i`. -/
def getFullImageWidth (m : RtdMetadata) (i : Nat) : Nat := imageWidth / m.getBinningX i
def getFullImageHeight (m : RtdMetadata) (i : Nat) : Nat := m.getFovNumRows i / m.getBinningY i

/-- The ROIs of FOV `i`: one in stripe mode, the declared count otherwise. -/
def getFovNumRois (m : RtdMetadata) (i : Nat) : Nat :=
  if m.getStripeModeEnabled i then 1 else m.getsmd i 5

/-- `isFovActive`: bit `i` of the active-stream bitmask. -/
def getIsFovActive (m : RtdMetadata) (i : Nat) : Bool :=
  (m.getmd activeStreamBitmaskOff >>> i) &&& 0x01 != 0

/-- The active FOV slots, in increasing order. -/
def getActiveFovs (m : RtdMetadata) : List Nat :=
  (List.range maxActiveFovs).filter m.getIsFovActive

/-- `SENSOR_MODE_HDR_RETRY`: this ROI retakes a saturated predecessor. -/
def wasPreviousRoiSaturated (m : RtdMetadata) : Bool := m.getmd sensorModeOff &&& 0x10 != 0
/-- A saturation threshold of `4095` disables HDR. -/
def isHdrDisabled (m : RtdMetadata) : Bool :=
  m.getmd saturationThresholdOff == saturationThreshold

/-- The threshold in raw input units: tripled when the FPGA summed the taps, doubled for the
FPGA scale, truncated to `uint16_t`. -/
def getSaturationThreshold (m : RtdMetadata) : Nat :=
  let t := m.getmd saturationThresholdOff
  let t := if m.getDoTapAccumulation then t else t * 3
  t * 2 % 2 ^ 16

/-- Stripe window selectors of `rtdAlgorithmStripe`. -/
def getStripeModeSnrWeightedSum (m : RtdMetadata) (i : Nat) : Bool :=
  m.getRtdAlgorithmStripe i &&& 0x01 != 0
def getStripeModeRectSum (m : RtdMetadata) (i : Nat) : Bool :=
  m.getRtdAlgorithmStripe i &&& 0x02 != 0
def getStripeModeGaussianSum (m : RtdMetadata) (i : Nat) : Bool :=
  m.getRtdAlgorithmStripe i &&& 0x04 != 0

/-- `DEFAULT_METADATA`, the row the engines' constructors size their buffers from: DMFD,
modulation indices 8 and 7, HDR disabled, and in every per-FOV block a single 480-row ROI
of bin mode 1. Words the model never reads (timestamps, ADC values, range calibration,
sensor id) are left zero. -/
def defaultMetadata : RtdMetadata :=
  let perFov := fun (m : RtdMetadata) (i : Nat) =>
    (((((m.set (perFovOff i 0) 0xbf).set (perFovOff i 1) 1).set (perFovOff i 2) 1).set
      (perFovOff i 4) 480).set (perFovOff i 5) 1).set (perFovOff i 9) 0xf
  (List.range maxActiveFovs).foldl perFov
    ((((((zero.set roiNumRowsOff 480).set f0ModulationIndexOff 8).set f1ModulationIndexOff 7).set
      activeStreamBitmaskOff 1).set (startStopFlagsOff 0) 3).set saturationThresholdOff 0xfff)

/-- The legacy 64-bit timestamp: the low 60 bits of the seven 12-bit timestamp words. -/
def getTimestamp (m : RtdMetadata) : Nat :=
  m.getmd (timestampOff 0) + m.getmd (timestampOff 1) <<< 12 +
    m.getmd (timestampOff 2) <<< 24 + m.getmd (timestampOff 3) <<< 36 +
    m.getmd (timestampOff 4) <<< 48

/-- The three-word timestamp: nanoseconds in the first word, seconds in the other two. -/
def getTimestamps (m : RtdMetadata) : List Nat :=
  let t := fun k => m.getmd (timestampOff k)
  [t 0 ||| t 1 <<< 12 ||| (t 2 &&& 0xff) <<< 24,
   t 2 >>> 8 ||| t 3 <<< 4 ||| t 4 <<< 16 ||| (t 5 &&& 0xf) <<< 28,
   t 5 >>> 4 ||| t 6 <<< 8]

end RtdMetadata

/-! ### `GPixel`: modulation frequency tables -/

namespace GPixel

/-- `IDX_TO_FRQ_LUT`: the modulation frequency of index `k`, `1e9 / (3 k)` Hz for `3 ≤ k`. -/
def idxToFrqLut : List ℚ :=
  [0, 0, 0, 1e9 / (3 * 3), 1e9 / (3 * 4), 1e9 / (3 * 5), 1e9 / (3 * 6), 1e9 / (3 * 7),
   1e9 / (3 * 8), 1e9 / (3 * 9), 1e9 / (3 * 10)]

/-- The greatest common frequencies `GCF34` .. `GCF90` of adjacent index pairs. -/
def gcf34 : ℚ := 1e9 / (3 * 12)
def gcf45 : ℚ := 1e9 / (3 * 20)
def gcf56 : ℚ := 1e9 / (3 * 30)
def gcf67 : ℚ := 1e9 / (3 * 42)
def gcf78 : ℚ := 1e9 / (3 * 56)
def gcf89 : ℚ := 1e9 / (3 * 72)
def gcf90 : ℚ := 1e9 / (3 * 90)

/-- `IDX_TO_GCF_LUT`, row by row as the source lays it out (rows `0` to `2` have ten
entries, the others eleven). -/
def idxToGcfLut : List (List ℚ) :=
  [[0, 0, 0, 0, 0, 0, 0, 0, 0, 0],
   [0, 0, 0, 0, 0, 0, 0, 0, 0, 0],
   [0, 0, 0, 0, 0, 0, 0, 0, 0, 0],
   [0, 0, 0, 0, gcf34, 0, 0, 0, 0, 0, 0],
   [0, 0, 0, gcf34, 0, gcf45, 0, 0, 0, 0, 0],
   [0, 0, 0, 0, gcf45, 0, gcf56, 0, 0, 0, 0],
   [0, 0, 0, 0, 0, gcf56, 0, gcf67, 0, 0, 0],
   [0, 0, 0, 0, 0, 0, gcf67, 0, gcf78, 0, 0],
   [0, 0, 0, 0, 0, 0, 0, gcf78, 0, gcf89, 0],
   [0, 0, 0, 0, 0, 0, 0, 0, gcf89, 0, gcf90],
   [0, 0, 0, 0, 0, 0, 0, 0, 0, gcf90, 0]]

@[simp] theorem length_idxToFrqLut : idxToFrqLut.length = 11 := rfl

/-- `GPixel::getGcf`: zero for an undefined frequency index or a non-adjacent pair,
otherwise the rounded greatest common frequency. The frequency reads short-circuit as in
the source. -/
def getGcf (f0 f1 : Nat) : Except Fault Nat := do
  let a ← readAt .idxToFrqLut idxToFrqLut f0
  if a = 0 then return 0
  let b ← readAt .idxToFrqLut idxToFrqLut f1
  if b = 0 then return 0
  let row ← readAt .idxToGcfLut idxToGcfLut f0
  let gcf ← readAt .idxToGcfLut row f1
  if gcf = 0 then return 0
  return (round gcf).toNat

/-- Indices `0` to `2` name no modulation frequency. -/
theorem idxToFrqLut_low : ∀ k < 3, ∀ h : k < idxToFrqLut.length, idxToFrqLut[k] = 0 := by
  decide

/-- Every row of the GCF table has ten entries, and the rows of defined frequencies eleven. -/
theorem length_idxToGcfLut_row : ∀ k, ∀ h : k < idxToGcfLut.length,
    10 ≤ idxToGcfLut[k].length ∧ (3 ≤ k → idxToGcfLut[k].length = 11) := by
  decide

/-- **In range, `getGcf` is safe.** For indices up to `10` every table read is in bounds:
a row of ten entries is only reached through an index whose frequency is zero, where the
code has already returned. -/
theorem getGcf_ok {f0 f1 : Nat} (h0 : f0 < 11) (h1 : f1 < 11) : ∃ g, getGcf f0 f1 = .ok g := by
  have hl0 : f0 < idxToFrqLut.length := by simpa using h0
  have hl1 : f1 < idxToFrqLut.length := by simpa using h1
  simp only [getGcf, readAt_of_lt hl0, ok_bind]
  split_ifs with ha
  · exact ⟨0, rfl⟩
  have h3 : 3 ≤ f0 := by
    by_contra h
    exact ha (idxToFrqLut_low f0 (by omega) hl0)
  simp only [readAt_of_lt hl1, ok_bind]
  split_ifs with hb
  · exact ⟨0, rfl⟩
  have hr : f0 < idxToGcfLut.length := by simp [idxToGcfLut]; omega
  have hc : f1 < idxToGcfLut[f0].length := by
    rw [(length_idxToGcfLut_row f0 hr).2 h3]; exact h1
  simp only [readAt_of_lt hr, readAt_of_lt hc, ok_bind]
  split_ifs <;> exact ⟨_, rfl⟩

private theorem round_pos_of_one_le {x : ℚ} (h : 1 ≤ x) : 0 < round x := by
  rw [round_eq, Int.floor_pos]; linarith

/-- **Adjacent defined indices have a GCF.** For `3 ≤ f1 < 10`, the pair `(f1 + 1, f1)` that
`validateMetadataValues` accepts has a positive greatest common frequency. -/
theorem getGcf_adjacent {f1 : Nat} (h3 : 3 ≤ f1) (h : f1 < 10) :
    ∃ g, getGcf (f1 + 1) f1 = .ok g ∧ 0 < g := by
  interval_cases f1 <;>
    norm_num [getGcf, readAt, idxToFrqLut, idxToGcfLut, gcf34, gcf45, gcf56, gcf67, gcf78,
      gcf89, gcf90] <;>
    exact round_pos_of_one_le (by norm_num)

/-- The frequency table holds indices `0` to `10` only. -/
theorem getGcf_of_eleven_le {f0 : Nat} (f1 : Nat) (h : 11 ≤ f0) :
    getGcf f0 f1 = .error ⟨.idxToFrqLut, f0, 11⟩ := by
  rw [getGcf, readAt_of_le (show idxToFrqLut.length ≤ f0 by simpa using h)]
  rfl

end GPixel

end Cobra
