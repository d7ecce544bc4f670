import Mathlib.Data.List.Sort
import Mathlib.Data.List.Rotate
import Mathlib.Algebra.Order.Ring.Rat
import Cobra.Metadata

/-!
# Temperature Calibration

`TemperatureCalibration` turns the ADC readings every ROI's metadata carries into the range
offset `localProcessFrame` subtracts from the ranges of an FOV. `saveTimestamp` hands it every
ROI it sees, through `setAdcValues(mdat, _fovIdx)`. With temperature adjustment enabled, the
first ROI of an FOV latches the ADC calibration, the range calibration of the F0 modulation
index and the constants of the system type; every ROI then has its calibration checked against
the latched one, a mismatch clearing the FIFOs and disabling the compensation, and otherwise
records its laser-thermistor and VLDA readings in two FIFOs of `DEFAULT_FIFO_LENGTH` slots,
`_fifoIndex` at the latest. The last ROI of an FOV runs `compute`, which reads the FIFOs by the
technique, `MEDIAN` unless `setTechnique` chose another, and sets the offset.

## Modelling

Values are exact rationals: the metadata fields are integers times powers of two, which the
`float`s hold exactly, and `1.0e-3F` is `1 / 1000`. The conversion of the thermistor's voltage
to a temperature, the divider's resistance followed by `steinhart_eq` with its `log` and `pow`,
is the parameter `thermistorCelsius`, `none` standing for a NaN. `std::sort` is
`List.insertionSort`: a sorted permutation is unique. The fields only the debugging getters
(`getTempAdcValue` and the like) read are left out.

What the FIFOs should hold is read off the calls, not off the FIFOs: `readingsAfter` follows a
run call by call and collects, the latest first, the pair of ADC readings (`adcReadings`) of
every `setAdcValues` call that passes its checks on the calibration it is made on, starting
afresh at every call that finds the calibration changed (`recorded`).

## Main results

* `IsRing.perm`, `fifoReading_ring`: a FIFO holding a window in ring order is a permutation of
  it, and each technique reads it as it reads the window.
* `Inv.setAdcValues`: `setAdcValues` never faults, and takes FIFOs that are the rings of the
  windows of some readings to the rings of the windows of the readings `recorded` adds.
* `run_fifo_window`: after any sequence of calls, reading either FIFO gives the latest, the mean
  or the median of the last `DEFAULT_FIFO_LENGTH` ADC readings of the calls that passed their
  checks since the last mismatch.
* `setAdcValues_misses_enable_flag`: the enable flag is never compared between the ROIs of an
  FOV, so an FOV whose first ROI disables the adjustment and whose last enables it gets the
  offset `compute` derives, checked against the calibration an earlier FOV latched.
-/

namespace Cobra

/-! ### Calibration fields of the metadata row -/

namespace RtdMetadata

/-- Word offsets of `adc[k]`, `system_type`, `adc_cal_gain` and `adc_cal_offset`. -/
def adcOff (k : Nat) : Nat := 31 + k
def systemTypeOff : Nat := 55
def adcCalGainOff : Nat := 71
def adcCalOffsetOff : Nat := 72

/-- `MOD_IDX_8`: the modulation index whose range calibration is the `_0807` block. -/
def modIdx8 : Nat := 8

/-- `getAdc(idx)`: ADC channel `idx` of the sensor head. -/
def getAdc (m : RtdMetadata) (idx : Nat) : Nat := m.getmd (adcOff idx)

/-- `SYSTEM_TYPE_M20`, with `SYSTEM_TYPE_UNSPECIFIED` taken as one. -/
def isM20 (m : RtdMetadata) : Bool := m.getmd systemTypeOff == 1 || m.getmd systemTypeOff == 0
def isM25 (m : RtdMetadata) : Bool := m.getmd systemTypeOff == 2
def isM30 (m : RtdMetadata) : Bool := m.getmd systemTypeOff == 3

/-- `RTD_ALG_COMMON_ENABLE_TEMP_RANGE_ADJ` set in the common algorithm word of FOV `i`. -/
def getEnableRangeTempRangeAdjustment (m : RtdMetadata) (i : Nat) : Bool :=
  m.getRtdAlgorithmCommon i &&& 0x08 != 0

/-- `getAdcCalGain()`: the unsigned 12-bit gain, scaled by `2 ^ -19`. -/
def getAdcCalGain (m : RtdMetadata) : ℚ := (m.getmd adcCalGainOff : ℚ) * (2 ^ 19)⁻¹

/-- `getAdcCalOffset()`: the signed 12-bit offset, shifted into the top of an `int16_t` and
scaled by `2 ^ -18`. -/
def getAdcCalOffset (m : RtdMetadata) : ℚ :=
  let adcCalOffset := m.getmd adcCalOffsetOff <<< 4
  let adcCalOffsetSigned : Int := if adcCalOffset < 2 ^ 15 then adcCalOffset else adcCalOffset - 2 ^ 16
  (adcCalOffsetSigned : ℚ) * (2 ^ (4 + 14))⁻¹

/-- `s16(valA, valB)`: the low 12 bits of `valA` under the low 4 bits of `valB`, as an
`int16_t`. -/
def s16 (valA valB : Nat) : Int :=
  let tmpC := valA &&& 0xfff ||| (valB &&& 0xf) <<< 12
  if tmpC < 2 ^ 15 then tmpC else (tmpC : Int) - 2 ^ 16

/-- The `lo` and `hi` words of a range-calibration field: those of its `_0807` copy at
`off0807` for `MOD_IDX_8`, those of its `_0908` copy at `off0908` for any other index. -/
def rangeCalWords (m : RtdMetadata) (modIdx off0807 off0908 : Nat) : Nat × Nat :=
  let off := if modIdx = modIdx8 then off0807 else off0908
  (m.getmd off, m.getmd (off + 1))

/-- `getRangeCalOffsetMm(modIdx)`: signed, 5 fractional bits. -/
def getRangeCalOffsetMm (m : RtdMetadata) (modIdx : Nat) : ℚ :=
  let (offsetLo, offsetHi) := m.rangeCalWords modIdx 59 65
  (s16 offsetLo offsetHi : ℚ) / 2 ^ 5

/-- `getRangeCalMmPerVolt(modIdx)`: signed, 12 fractional bits. -/
def getRangeCalMmPerVolt (m : RtdMetadata) (modIdx : Nat) : ℚ :=
  let (mmPerVLo, mmPerVHi) := m.rangeCalWords modIdx 61 67
  (s16 mmPerVLo mmPerVHi : ℚ) * (2 ^ 12)⁻¹

/-- `getRangeCalMmPerCelsius(modIdx)`: unsigned, 7 fractional bits. -/
def getRangeCalMmPerCelsius (m : RtdMetadata) (modIdx : Nat) : ℚ :=
  let (mmPerCLo, mmPerCHi) := m.rangeCalWords modIdx 63 69
  ((mmPerCHi &&& 0xf) <<< 12 ||| mmPerCLo &&& 0xfff : Nat) / 2 ^ 7

end RtdMetadata

/-! ### The calibration -/

/-- `TECHNIQUE`: how `compute` reads a FIFO. -/
inductive Technique where
  | latest | mean | median
  deriving DecidableEq, Repr

/-- `DEFAULT_FIFO_LENGTH`, the length `_fifoLength` of the FIFOs, which nothing changes. -/
def defaultFifoLength : Nat := 100

/-- The constants of a system type: `REF_RESISTANCE`, `EXTERNAL_VREF`, `VLDA_SCALE`,
`VLDA_ADC_IDX` and `LASER_THERM_ADC_IDX`. -/
structure SystemConstants where
  refResistance : ℚ
  externalVref : ℚ
  vldaScale : ℚ
  vldaAdcIdx : Nat
  laserThermAdcIdx : Nat

/-- The `M20_`, `M25_` and `M30_` constants. -/
def m20Constants : SystemConstants := ⟨41200, 2.5, 29.70 * 0.5, 3, 4⟩
def m25Constants : SystemConstants := ⟨7150, 1.22, 25.85, 6, 2⟩
def m30Constants : SystemConstants := ⟨7150, 1.22, 25.85, 6, 2⟩

/-- The members of `TemperatureCalibration` that `setAdcValues`, `compute` and
`getRangeOffsetTemperature` read. -/
structure TemperatureCalibration where
  disable : Bool
  fifoIndex : Nat
  technique : Technique
  consts : SystemConstants
  rangeOffsetTemperatureMeters : ℚ
  adcCalGain : ℚ
  adcCalOffset : ℚ
  mmPerCelsius : ℚ
  mmPerVolt : ℚ
  fixedOffsetMm : ℚ
  laserThermMetadataValues : List ℚ
  vldaMetadataValues : List ℚ

namespace TemperatureCalibration

/-- The calibration as constructed: the member initialisers. -/
def init : TemperatureCalibration :=
  ⟨false, 0, .median, m30Constants, 0, 0, 0, 0, 0, 0, [], []⟩

/-- `MIN_VLDA_VOLTAGE`, `MAX_VLDA_VOLTAGE` and `M_PER_MM`. -/
def minVldaVoltage : ℚ := 10
def maxVldaVoltage : ℚ := 25
def mPerMm : ℚ := 1 / 1000

/-- `getLaserThermAdcMetadataValue()` and `getVldaMetadataValue()`, which differ only in the FIFO
they read: `LATEST` reads the slot `_fifoIndex`, `MEAN` averages the FIFO, and `MEDIAN` reads the
middle of a sorted copy. -/
def fifoReading (fifoBuf sortedBuf : Buf) (technique : Technique) (fifo : List ℚ)
    (fifoIndex : Nat) : Except Fault ℚ :=
  match technique with
  | .latest => readAt fifoBuf fifo fifoIndex
  | .mean => pure (fifo.sum / fifo.length)
  | .median => readAt sortedBuf (fifo.insertionSort (· ≤ ·)) (fifo.length / 2)

def getLaserThermAdcMetadataValue (s : TemperatureCalibration) : Except Fault ℚ :=
  fifoReading .laserThermMetadataValues .laserThermValuesSorted s.technique
    s.laserThermMetadataValues s.fifoIndex

def getVldaMetadataValue (s : TemperatureCalibration) : Except Fault ℚ :=
  fifoReading .vldaMetadataValues .vldaValuesSorted s.technique s.vldaMetadataValues s.fifoIndex

section Code

variable (thermistorCelsius : ℚ → ℚ → ℚ → Option ℚ)

/-- `compute()`: the range offset from the FIFO readings, `0` when compensation is disabled, a
FIFO is empty, the temperature is NaN or the VLDA voltage lies outside its range. -/
def compute (s : TemperatureCalibration) : Except Fault TemperatureCalibration := do
  let s := { s with rangeOffsetTemperatureMeters := 0 }
  if s.disable || s.vldaMetadataValues.isEmpty || s.laserThermMetadataValues.isEmpty then
    return s
  let adcLaserThermMetadata ← s.getLaserThermAdcMetadataValue
  let vldaMetadataValue ← s.getVldaMetadataValue
  let laserThermAdcVoltage := s.adcCalGain * adcLaserThermMetadata + s.adcCalOffset
  match thermistorCelsius s.consts.refResistance s.consts.externalVref laserThermAdcVoltage with
  | none => return s
  | some tempCelsius =>
    let vldaAdcVoltage := s.adcCalGain * vldaMetadataValue + s.adcCalOffset
    let vldaVoltage := vldaAdcVoltage * s.consts.vldaScale
    if vldaVoltage < minVldaVoltage || maxVldaVoltage < vldaVoltage then return s
    let vldaRangeOffsetMm := s.mmPerVolt * vldaVoltage
    let tempRangeOffsetMm := s.mmPerCelsius * tempCelsius
    let rangeOffsetTemperatureMm := s.fixedOffsetMm + tempRangeOffsetMm - vldaRangeOffsetMm
    return { s with rangeOffsetTemperatureMeters := mPerMm * rangeOffsetTemperatureMm }

/-- The latched calibration differs from the ROI's, or its gain is `0`. -/
def calibrationChanged (s : TemperatureCalibration) (mdat : RtdMetadata) : Bool :=
  let modIdx := mdat.getF0ModulationIndex
  s.adcCalGain != mdat.getAdcCalGain || s.adcCalOffset != mdat.getAdcCalOffset ||
    s.mmPerCelsius != mdat.getRangeCalMmPerCelsius modIdx ||
    s.mmPerVolt != mdat.getRangeCalMmPerVolt modIdx ||
    s.fixedOffsetMm != mdat.getRangeCalOffsetMm modIdx || 0 == s.adcCalGain

/-- The first ROI of an FOV on an M25 or M30 head: enable compensation and latch the
calibration, then the constants of the system type. -/
def latch (s : TemperatureCalibration) (mdat : RtdMetadata) : TemperatureCalibration :=
  let modIdx := mdat.getF0ModulationIndex
  let s := { s with
    disable := false
    adcCalGain := mdat.getAdcCalGain
    adcCalOffset := mdat.getAdcCalOffset
    mmPerCelsius := mdat.getRangeCalMmPerCelsius modIdx
    mmPerVolt := mdat.getRangeCalMmPerVolt modIdx
    fixedOffsetMm := mdat.getRangeCalOffsetMm modIdx }
  let s := if mdat.isM25 then { s with consts := m25Constants } else s
  if mdat.isM30 then { s with consts := m30Constants } else s

/-- The end of `setAdcValues` before `compute`: the ROI's readings fill the FIFOs when they are
empty, `_fifoIndex` moves on, and the readings are written there. -/
def recordReadings (s : TemperatureCalibration) (mdat : RtdMetadata) :
    Except Fault TemperatureCalibration := do
  let mut s := s
  let laserThermMetadataVal : ℚ := mdat.getAdc s.consts.laserThermAdcIdx
  let vldaMetadataVal : ℚ := mdat.getAdc s.consts.vldaAdcIdx
  if s.laserThermMetadataValues.isEmpty || s.vldaMetadataValues.isEmpty then
    s := { s with
      laserThermMetadataValues := List.replicate defaultFifoLength laserThermMetadataVal
      vldaMetadataValues := List.replicate defaultFifoLength vldaMetadataVal }
  s := { s with fifoIndex := (s.fifoIndex + 1) % defaultFifoLength }
  let laserThermMetadataValues ← writeAt .laserThermMetadataValues s.laserThermMetadataValues
    s.fifoIndex laserThermMetadataVal
  let vldaMetadataValues ← writeAt .vldaMetadataValues s.vldaMetadataValues s.fifoIndex
    vldaMetadataVal
  return { s with laserThermMetadataValues, vldaMetadataValues }

/-- The end of `setAdcValues`, from the check of `_disable` on: nothing more while compensation
is disabled; a change of calibration clears the FIFOs and disables it; otherwise the readings are
recorded, and `compute` runs on the last ROI of the FOV. -/
def checkAndRecord (s : TemperatureCalibration) (mdat : RtdMetadata) (fovIdx : Nat) :
    Except Fault TemperatureCalibration := do
  if s.disable then
    return s
  if s.calibrationChanged mdat then
    return { s with
      rangeOffsetTemperatureMeters := 0
      laserThermMetadataValues := []
      vldaMetadataValues := []
      disable := true }
  let s ← s.recordReadings mdat
  if mdat.getFrameCompleted fovIdx then compute thermistorCelsius s else return s

/-- `setAdcValues(mdat, fovIdx)`. -/
def setAdcValues (s : TemperatureCalibration) (mdat : RtdMetadata) (fovIdx : Nat) :
    Except Fault TemperatureCalibration := do
  if !mdat.getEnableRangeTempRangeAdjustment fovIdx then
    return { s with rangeOffsetTemperatureMeters := 0 }
  let mut s := s
  if mdat.getFirstRoi fovIdx then
    if mdat.isM20 then
      return { s with consts := m20Constants, disable := true, rangeOffsetTemperatureMeters := 0 }
    s := s.latch mdat
  s.checkAndRecord thermistorCelsius mdat fovIdx

/-- `getRangeOffsetTemperature()`. -/
def getRangeOffsetTemperature (s : TemperatureCalibration) : ℚ :=
  if s.disable then 0 else s.rangeOffsetTemperatureMeters

/-- The calls a client makes: `saveTimestamp`'s `setAdcValues`, and `setTechnique`. -/
inductive Call where
  | setAdcValues (mdat : RtdMetadata) (fovIdx : Nat)
  | setTechnique (technique : Technique)

def step (s : TemperatureCalibration) : Call → Except Fault TemperatureCalibration
  | .setAdcValues mdat fovIdx => s.setAdcValues thermistorCelsius mdat fovIdx
  | .setTechnique technique => pure { s with technique }

/-- The calibration after the calls `cs`, from its construction. -/
def run (cs : List Call) : Except Fault TemperatureCalibration :=
  cs.foldlM (step thermistorCelsius) init

end Code

/-! ### The readings a run records -/

/-- The pair of readings `recordReadings` takes from an ROI: the ADC channels of the laser
thermistor and of the VLDA of the head's system type. -/
def adcReadings (consts : SystemConstants) (mdat : RtdMetadata) : ℚ × ℚ :=
  (mdat.getAdc consts.laserThermAdcIdx, mdat.getAdc consts.vldaAdcIdx)

/-- The readings the FIFOs stand for, the latest first, after a call of `setAdcValues` on
calibration `s`, from `samples`. The call passes its checks when adjustment is enabled, the
ROI is no first ROI of an M20 head, and compensation is not disabled on the calibration as a
first ROI latches it; it then adds its readings, unless the calibration changed, which starts
afresh with none. -/
def recorded (s : TemperatureCalibration) (mdat : RtdMetadata) (fovIdx : Nat)
    (samples : List (ℚ × ℚ)) : List (ℚ × ℚ) :=
  if !mdat.getEnableRangeTempRangeAdjustment fovIdx || mdat.getFirstRoi fovIdx && mdat.isM20 then
    samples
  else
    let s := if mdat.getFirstRoi fovIdx then s.latch mdat else s
    if s.disable then samples
    else if s.calibrationChanged mdat then []
    else adcReadings s.consts mdat :: samples

section Readings

variable (thermistorCelsius : ℚ → ℚ → ℚ → Option ℚ)

/-- The readings the FIFOs stand for after the calls `cs` from calibration `s`, from
`samples`: each `setAdcValues` is judged by `recorded` on the calibration the run has reached. -/
def readingsAfter : TemperatureCalibration → List (ℚ × ℚ) → List Call → List (ℚ × ℚ)
  | _, samples, [] => samples
  | s, samples, c :: cs =>
    let samples := match c with
      | .setAdcValues mdat fovIdx => recorded s mdat fovIdx samples
      | .setTechnique _ => samples
    match step thermistorCelsius s c with
    | .ok s' => readingsAfter s' samples cs
    | .error _ => samples

end Readings

/-! ### The window a FIFO stands for -/

/-- The window a FIFO stands for once it has recorded `samples`, the latest first: the last
`DEFAULT_FIFO_LENGTH` of them, the first one filling the slots that were only written when the
FIFO was filled with it. -/
def window (samples : List ℚ) : List ℚ :=
  (samples ++ List.replicate defaultFifoLength (samples.getLastD 0)).take defaultFifoLength

/-- What a technique reads off the readings `samples`, the latest first: the latest, or the
mean or the median of their window. -/
def windowReading : Technique → List ℚ → ℚ
  | .latest, samples => samples.headD 0
  | .mean, samples => (window samples).sum / defaultFifoLength
  | .median, samples => ((window samples).insertionSort (· ≤ ·)).getD (defaultFifoLength / 2) 0

/-- `fifo` holds the window `w` in ring order from `fifoIndex`: its slot
`(fifoIndex + len - j) % len` holds the `j`-th latest entry of `w`. -/
def IsRing (fifo : List ℚ) (fifoIndex : Nat) (w : List ℚ) : Prop :=
  fifo.length = defaultFifoLength ∧ w.length = defaultFifoLength ∧
    ∀ j < defaultFifoLength,
      fifo[(fifoIndex + defaultFifoLength - j) % defaultFifoLength]? = w[j]?

@[simp] theorem length_window (samples : List ℚ) : (window samples).length = defaultFifoLength := by
  simp [window]

theorem window_singleton (v : ℚ) : window [v] = List.replicate defaultFifoLength v := by
  simp [window, defaultFifoLength, List.replicate_succ]

theorem window_cons {samples : List ℚ} (h : samples ≠ []) (v : ℚ) :
    window (v :: samples) = (v :: window samples).take defaultFifoLength := by
  simp only [window, List.getLastD_eq_getLast?, List.getLast?_cons, Option.getD_some,
    List.cons_append, List.take_cons (by decide : 0 < defaultFifoLength), List.take_take]
  cases samples with
  | nil => exact absurd rfl h
  | cons a samples => simp [List.getLast?_eq_getLast, defaultFifoLength]

/-- A run of one reading is read as that reading by every technique. -/
theorem windowReading_replicate (t : Technique) {k : Nat} (hk : 0 < k) (v : ℚ) :
    windowReading t (List.replicate k v) = v := by
  have hw : window (List.replicate k v) = List.replicate defaultFifoLength v := by
    obtain ⟨k, rfl⟩ := Nat.exists_eq_add_of_lt hk
    rw [window, List.getLastD_eq_getLast?, List.getLast?_replicate, if_neg (by omega),
      Option.getD_some, List.append_replicate_replicate, List.take_replicate]
    congr 1
  cases t with
  | latest =>
    obtain ⟨k, rfl⟩ := Nat.exists_eq_add_of_lt hk
    rfl
  | mean =>
    rw [windowReading, hw, List.sum_replicate, nsmul_eq_mul]
    norm_num [defaultFifoLength]
  | median =>
    rw [windowReading, hw, List.Sorted.insertionSort_eq (List.pairwise_replicate.2 (.inr le_rfl))]
    simp [defaultFifoLength]

/-- **A ring is its window reversed and rotated.** -/
theorem IsRing.eq_rotate {fifo w : List ℚ} {i : Nat} (hr : IsRing fifo i w)
    (hi : i < defaultFifoLength) :
    w = fifo.reverse.rotate (defaultFifoLength - 1 - i) := by
  obtain ⟨hf, hw, hj⟩ := hr
  refine List.ext_getElem (by simp [hf, hw]) fun j h1 h2 => ?_
  rw [List.getElem_rotate, List.getElem_reverse]
  have hj' := hj j (hw ▸ h1)
  rw [List.getElem?_eq_getElem h1, List.getElem?_eq_getElem (by rw [hf]; exact Nat.mod_lt _ (by decide))] at hj'
  simp only [List.length_reverse, hf] at *
  rw [← Option.some.inj hj']
  congr 1
  simp only [defaultFifoLength] at *
  omega

theorem IsRing.perm {fifo w : List ℚ} {i : Nat} (hr : IsRing fifo i w)
    (hi : i < defaultFifoLength) : w.Perm fifo := by
  rw [hr.eq_rotate hi]
  exact (List.rotate_perm _ _).trans (List.reverse_perm _)

/-- **A push is the window's cons.** Moving `fifoIndex` on and writing `v` at it takes the
ring of `w` to the ring of `v` followed by `w`, its oldest entry dropped. -/
theorem IsRing.push {fifo w : List ℚ} {i : Nat} (hr : IsRing fifo i w) (v : ℚ) :
    IsRing (fifo.set ((i + 1) % defaultFifoLength) v) ((i + 1) % defaultFifoLength)
      ((v :: w).take defaultFifoLength) := by
  obtain ⟨hf, hw, hj⟩ := hr
  refine ⟨by simp [hf], by simp [hw, defaultFifoLength], fun j hj100 => ?_⟩
  rw [List.getElem?_set, List.getElem?_take, if_pos hj100]
  simp only [defaultFifoLength] at *
  rcases j with _ | j
  · simp [hf]; omega
  · rw [if_neg (by omega), List.getElem?_cons_succ, ← hj j (by omega)]
    congr 1
    omega

theorem isRing_replicate (v : ℚ) (k i : Nat) :
    IsRing ((List.replicate defaultFifoLength v).set k v) i (List.replicate defaultFifoLength v) := by
  refine ⟨by simp, by simp, fun j hj => ?_⟩
  simp only [List.set_replicate_self, List.getElem?_replicate, if_pos hj,
    if_pos (Nat.mod_lt _ (by decide : 0 < defaultFifoLength))]

/-- **A ring is read as its window.** Each technique reads a FIFO holding the window of
`samples` in ring order as it reads the window. -/
theorem fifoReading_ring {fifo : List ℚ} {i : Nat} {samples : List ℚ} (fb sb : Buf)
    (technique : Technique) (hr : IsRing fifo i (window samples)) (hi : i < defaultFifoLength)
    (hs : samples ≠ []) :
    fifoReading fb sb technique fifo i = .ok (windowReading technique samples) := by
  have hp := hr.perm hi
  obtain ⟨hf, -, hj⟩ := hr
  cases technique with
  | latest =>
    have h0 := hj 0 (by decide)
    rw [Nat.sub_zero, Nat.add_mod_right, Nat.mod_eq_of_lt hi,
      List.getElem?_eq_getElem (by omega)] at h0
    cases samples with
    | nil => exact absurd rfl hs
    | cons a samples =>
      simp only [window, List.cons_append, List.take_cons (by decide : 0 < defaultFifoLength),
        List.getElem?_cons_zero, Option.some.injEq] at h0
      rw [fifoReading, readAt_of_lt (by omega), h0]
      rfl
  | mean => simp [fifoReading, windowReading, hp.sum_eq, hf]
  | median =>
    have hsort : fifo.insertionSort (· ≤ ·) = (window samples).insertionSort (· ≤ ·) :=
      List.eq_of_perm_of_sorted
        ((List.perm_insertionSort _ _).trans (hp.symm.trans (List.perm_insertionSort _ _).symm))
        (List.sorted_insertionSort _ _) (List.sorted_insertionSort _ _)
    rw [fifoReading, hsort, hf, readAt_of_lt (by simp [defaultFifoLength]), windowReading,
      List.getD_eq_getElem]

/-! ### The FIFOs over a run -/

/-- The FIFOs are both empty with no readings, or each holds, in ring order from `fifoIndex`,
the window of its readings. -/
def Fifos (fifoIndex : Nat) (laserTherm vlda : List ℚ) (samples : List (ℚ × ℚ)) : Prop :=
  fifoIndex < defaultFifoLength ∧
    ((samples = [] ∧ laserTherm = [] ∧ vlda = []) ∨
      (samples ≠ [] ∧ IsRing laserTherm fifoIndex (window (samples.map Prod.fst)) ∧
        IsRing vlda fifoIndex (window (samples.map Prod.snd))))

/-- The invariant of a calibration whose FIFOs stand for the readings `samples`. -/
def Inv (s : TemperatureCalibration) (samples : List (ℚ × ℚ)) : Prop :=
  Fifos s.fifoIndex s.laserThermMetadataValues s.vldaMetadataValues samples

theorem inv_init : init.Inv [] := ⟨by decide, .inl ⟨rfl, rfl, rfl⟩⟩

variable {samples : List (ℚ × ℚ)}

theorem inv_latch {s : TemperatureCalibration} (mdat : RtdMetadata) :
    (s.latch mdat).Inv samples ↔ s.Inv samples := by
  unfold latch; split_ifs <;> exact Iff.rfl

/-- **Recording a reading pushes it on both windows.** `recordReadings` writes inside the
FIFOs, takes them to the rings of the windows with the ROI's readings in front, and touches
nothing but the index and the FIFOs. -/
theorem Inv.recordReadings {s : TemperatureCalibration} (h : s.Inv samples) (mdat : RtdMetadata) :
    ∃ s', s.recordReadings mdat = .ok s' ∧ s'.Inv (adcReadings s.consts mdat :: samples) ∧
      s' = { s with
        fifoIndex := s'.fifoIndex
        laserThermMetadataValues := s'.laserThermMetadataValues
        vldaMetadataValues := s'.vldaMetadataValues } := by
  obtain ⟨hi, hf⟩ := h
  set a : ℚ := (mdat.getAdc s.consts.laserThermAdcIdx : ℚ)
  set b : ℚ := (mdat.getAdc s.consts.vldaAdcIdx : ℚ)
  have hab : adcReadings s.consts mdat = (a, b) := rfl
  have hk : (s.fifoIndex + 1) % defaultFifoLength < defaultFifoLength := Nat.mod_lt _ (by decide)
  rw [hab]
  rcases hf with ⟨rfl, hl, hv⟩ | ⟨hs, hl, hv⟩
  · refine ⟨{ s with
      fifoIndex := (s.fifoIndex + 1) % defaultFifoLength
      laserThermMetadataValues := List.replicate defaultFifoLength a
      vldaMetadataValues := List.replicate defaultFifoLength b }, ?_,
      ⟨hk, .inr ⟨List.cons_ne_nil _ _, ?_, ?_⟩⟩, rfl⟩
    · unfold TemperatureCalibration.recordReadings
      simp [hl, hv, writeAt_of_lt, hk, a, b]
    · simpa [window_singleton] using isRing_replicate a 0 _
    · simpa [window_singleton] using isRing_replicate b 0 _
  · have hl0 := hl.1
    have hv0 := hv.1
    have hne : ¬(s.laserThermMetadataValues.isEmpty || s.vldaMetadataValues.isEmpty) := by
      simp [← List.length_eq_zero, hl0, hv0, defaultFifoLength]
    refine ⟨{ s with
      fifoIndex := (s.fifoIndex + 1) % defaultFifoLength
      laserThermMetadataValues := s.laserThermMetadataValues.set ((s.fifoIndex + 1) % defaultFifoLength) a
      vldaMetadataValues := s.vldaMetadataValues.set ((s.fifoIndex + 1) % defaultFifoLength) b }, ?_,
      ⟨hk, .inr ⟨List.cons_ne_nil _ _, ?_, ?_⟩⟩, rfl⟩
    · unfold TemperatureCalibration.recordReadings
      have hl1 : (s.fifoIndex + 1) % defaultFifoLength < s.laserThermMetadataValues.length := by
        rw [hl0]; exact hk
      have hv1 : (s.fifoIndex + 1) % defaultFifoLength < s.vldaMetadataValues.length := by
        rw [hv0]; exact hk
      simp [hne, writeAt_of_lt hl1, writeAt_of_lt hv1, a, b]
    · rw [List.map_cons, window_cons (by simpa using hs)]
      exact hl.push a
    · rw [List.map_cons, window_cons (by simpa using hs)]
      exact hv.push b

section Run

variable (thermistorCelsius : ℚ → ℚ → ℚ → Option ℚ)

/-- **`compute` sets the offset and nothing else.** From the invariant, its readings stay inside
the FIFOs. -/
theorem Inv.compute {s : TemperatureCalibration} (h : s.Inv samples) :
    ∃ r, compute thermistorCelsius s = .ok { s with rangeOffsetTemperatureMeters := r } := by
  obtain ⟨hi, hf⟩ := h
  rcases hf with ⟨-, hl, -⟩ | ⟨hs, hl, hv⟩
  · exact ⟨0, by simp [TemperatureCalibration.compute, hl]⟩
  · have e1 := fifoReading_ring .laserThermMetadataValues .laserThermValuesSorted s.technique hl hi
      (by simpa using hs)
    have e2 := fifoReading_ring .vldaMetadataValues .vldaValuesSorted s.technique hv hi
      (by simpa using hs)
    simp only [TemperatureCalibration.compute, getLaserThermAdcMetadataValue,
      getVldaMetadataValue, e1, e2, ok_bind]
    repeat' split
    all_goals exact ⟨_, rfl⟩

/-- The end of `setAdcValues` never faults: a disabled compensation keeps the readings, a
changed calibration clears them, and otherwise the ROI's readings are added. -/
theorem Inv.checkAndRecord {s : TemperatureCalibration} (h : s.Inv samples) (mdat : RtdMetadata)
    (fovIdx : Nat) : ∃ s', s.checkAndRecord thermistorCelsius mdat fovIdx = .ok s' ∧
      s'.Inv (if s.disable then samples else if s.calibrationChanged mdat then []
        else adcReadings s.consts mdat :: samples) := by
  unfold TemperatureCalibration.checkAndRecord
  by_cases h1 : s.disable = true
  · exact ⟨s, by simp [h1], by simpa [h1] using h⟩
  by_cases h2 : s.calibrationChanged mdat = true
  · refine ⟨_, by simp [h1, h2]; rfl, ?_⟩
    rw [if_neg h1, if_pos h2]
    exact ⟨h.1, .inl ⟨rfl, rfl, rfl⟩⟩
  obtain ⟨r, hr, hri, -⟩ := h.recordReadings mdat
  simp only [h1, h2, if_false, Bool.false_eq_true, hr, ok_bind]
  split
  · obtain ⟨x, hx⟩ := hri.compute thermistorCelsius
    exact ⟨_, hx, hri⟩
  · exact ⟨r, rfl, hri⟩

/-- **One call of `setAdcValues`.** From FIFOs that stand for `samples` it never faults, and
leaves FIFOs that stand for the readings `recorded` says. -/
theorem Inv.setAdcValues {s : TemperatureCalibration} (h : s.Inv samples) (mdat : RtdMetadata)
    (fovIdx : Nat) : ∃ s', s.setAdcValues thermistorCelsius mdat fovIdx = .ok s' ∧
      s'.Inv (recorded s mdat fovIdx samples) := by
  unfold TemperatureCalibration.setAdcValues recorded
  by_cases h1 : mdat.getEnableRangeTempRangeAdjustment fovIdx = true
  · simp only [h1, Bool.not_true, Bool.false_eq_true, if_false, pure_bind, Bool.false_or]
    by_cases h2 : mdat.getFirstRoi fovIdx = true
    · by_cases h3 : mdat.isM20 = true
      · exact ⟨_, by simp [h2, h3]; rfl, by simpa [h2, h3] using h⟩
      · simp only [h2, h3, if_true, if_false, Bool.false_eq_true, pure_bind, Bool.and_false]
        exact ((inv_latch mdat).2 h).checkAndRecord thermistorCelsius mdat fovIdx
    · simp only [h2, if_false, Bool.false_eq_true, pure_bind, Bool.false_and]
      exact h.checkAndRecord thermistorCelsius mdat fovIdx
  · exact ⟨_, by simp [h1]; rfl, by simpa [h1] using h⟩

theorem Inv.call {s : TemperatureCalibration} (h : s.Inv samples) (c : Call) :
    ∃ s', step thermistorCelsius s c = .ok s' ∧
      s'.Inv (match c with
        | .setAdcValues mdat fovIdx => recorded s mdat fovIdx samples
        | .setTechnique _ => samples) :=
  match c with
  | .setAdcValues mdat fovIdx => h.setAdcValues thermistorCelsius mdat fovIdx
  | .setTechnique _ => ⟨_, rfl, h⟩

/-- **Run lemma.** From FIFOs that stand for `samples`, any calls run without a fault and leave
FIFOs that stand for the readings the calls record on top of them. -/
theorem Inv.calls : ∀ {s : TemperatureCalibration} {samples : List (ℚ × ℚ)}, s.Inv samples →
    ∀ cs : List Call, ∃ s', cs.foldlM (step thermistorCelsius) s = .ok s' ∧
      s'.Inv (readingsAfter thermistorCelsius s samples cs)
  | s, _, h, [] => ⟨s, rfl, h⟩
  | s, _, h, c :: cs => by
    obtain ⟨s1, h1, hi⟩ := h.call thermistorCelsius c
    simp only [List.foldlM_cons, h1, ok_bind, readingsAfter]
    exact hi.calls cs

/-- **The FIFOs hold the last readings.** After any sequence of calls none has faulted, and of
the ADC readings of the `setAdcValues` calls that passed their checks since the last change of
calibration (`readingsAfter`), either there is none and both FIFOs are empty, or each technique
reads either FIFO as it reads the window of those readings: the latest one, or the mean or the
median of the last `DEFAULT_FIFO_LENGTH`, whichever slot the ring has reached. -/
theorem run_fifo_window (cs : List Call) :
    ∃ s, run thermistorCelsius cs = .ok s ∧
      let samples := readingsAfter thermistorCelsius init [] cs
      ((samples = [] ∧ s.laserThermMetadataValues = [] ∧ s.vldaMetadataValues = []) ∨
        (samples ≠ [] ∧
          s.getLaserThermAdcMetadataValue =
            .ok (windowReading s.technique (samples.map Prod.fst)) ∧
          s.getVldaMetadataValue = .ok (windowReading s.technique (samples.map Prod.snd)))) := by
  obtain ⟨s, hs, hi, hf⟩ := inv_init.calls thermistorCelsius cs
  refine ⟨s, hs, hf.imp_right fun ⟨hne, hl, hv⟩ => ⟨hne, ?_, ?_⟩⟩
  · exact fifoReading_ring _ _ _ hl hi (by simpa using hne)
  · exact fifoReading_ring _ _ _ hv hi (by simpa using hne)

/-- `recordReadings` does not read the offset. -/
theorem recordReadings_offset (s : TemperatureCalibration) (m : RtdMetadata) (x : ℚ) :
    ({ s with rangeOffsetTemperatureMeters := x }).recordReadings m =
      (fun r => { r with rangeOffsetTemperatureMeters := x }) <$> s.recordReadings m := by
  cases h : (s.laserThermMetadataValues.isEmpty || s.vldaMetadataValues.isEmpty) <;>
    simp only [recordReadings, h, if_true, if_false, Bool.false_eq_true] <;>
    cases writeAt .laserThermMetadataValues _ _ _ <;> cases writeAt .vldaMetadataValues _ _ _ <;> rfl

/-- `compute` overwrites the offset before it reads anything. -/
theorem compute_offset (s : TemperatureCalibration) (x : ℚ) :
    compute thermistorCelsius { s with rangeOffsetTemperatureMeters := x } =
      compute thermistorCelsius s := rfl

/-- **The enable flag is never compared across an FOV.** A first ROI with temperature
adjustment disabled only zeroes the offset: it neither latches the calibration nor disables the
compensation. A later ROI of the FOV that enables the adjustment is then checked against the
calibration an earlier FOV latched, and as the FOV's last it records its readings and runs
`compute`, exactly as in an FOV whose ROIs all enable it. -/
theorem setAdcValues_misses_enable_flag {s : TemperatureCalibration} {m1 m2 : RtdMetadata}
    {i : Nat} (hd : s.disable = false) (h1 : m1.getEnableRangeTempRangeAdjustment i = false)
    (h2 : m2.getEnableRangeTempRangeAdjustment i = true) (hf : m2.getFirstRoi i = false)
    (hl : m2.getFrameCompleted i = true) (hc : s.calibrationChanged m2 = false) :
    (s.setAdcValues thermistorCelsius m1 i >>= fun t => t.setAdcValues thermistorCelsius m2 i) =
      (s.recordReadings m2 >>= compute thermistorCelsius) := by
  have e1 : s.setAdcValues thermistorCelsius m1 i =
      .ok { s with rangeOffsetTemperatureMeters := 0 } := by
    simp [setAdcValues, h1]
  have e2 : ({ s with rangeOffsetTemperatureMeters := 0 } : TemperatureCalibration).setAdcValues
      thermistorCelsius m2 i = ({ s with rangeOffsetTemperatureMeters := 0 } :
        TemperatureCalibration).recordReadings m2 >>= compute thermistorCelsius := by
    simp only [setAdcValues, checkAndRecord, h2, hf, hl, Bool.not_true, Bool.false_eq_true,
      if_false, if_true, pure_bind]
    rw [if_neg (by simpa using hd), if_neg (by exact hc ▸ Bool.false_ne_true)]
  rw [e1, ok_bind, e2, recordReadings_offset]
  cases s.recordReadings m2 <;> rfl

end Run

/-- An M30 ROI of FOV `0`: `DEFAULT_METADATA` with system type `3`, ADC gain field `4095`, a VLDA
reading of `100`, and a fixed range offset of `1` mm for `MOD_IDX_8`. -/
def m30Base : RtdMetadata :=
  (((RtdMetadata.defaultMetadata.set RtdMetadata.systemTypeOff 3).set
    RtdMetadata.adcCalGainOff 4095).set (RtdMetadata.adcOff 6) 100).set 59 32

/-- The M30 ROI with start/stop flags `flags` and common algorithm word `common`; `8` enables
the temperature adjustment. -/
def m30Roi (flags common : Nat) : RtdMetadata :=
  (m30Base.set (RtdMetadata.perFovOff 0 6) common).set (RtdMetadata.startStopFlagsOff 0) flags

theorem m30Roi_getmd (flags common : Nat) {off : Nat} (h1 : off ≠ RtdMetadata.startStopFlagsOff 0)
    (h2 : off ≠ RtdMetadata.perFovOff 0 6) : (m30Roi flags common).getmd off = m30Base.getmd off := by
  simp only [m30Roi, RtdMetadata.getmd_set_ne _ _ h1, RtdMetadata.getmd_set_ne _ _ h2]

/-- The calibration every such ROI carries, whatever its flags. -/
theorem m30Roi_calibration (flags common : Nat) :
    (m30Roi flags common).getF0ModulationIndex = 8 ∧
      (m30Roi flags common).getAdcCalGain = 4095 / 2 ^ 19 ∧
      (m30Roi flags common).getAdcCalOffset = 0 ∧
      (m30Roi flags common).getRangeCalMmPerCelsius 8 = 0 ∧
      (m30Roi flags common).getRangeCalMmPerVolt 8 = 0 ∧
      (m30Roi flags common).getRangeCalOffsetMm 8 = 1 ∧
      (m30Roi flags common).isM20 = false ∧ (m30Roi flags common).isM25 = false ∧
      (m30Roi flags common).isM30 = true ∧ (m30Roi flags common).getAdc 2 = 0 ∧
      (m30Roi flags common).getAdc 6 = 100 := by
  simp (disch := decide) only [RtdMetadata.getF0ModulationIndex, RtdMetadata.getAdcCalGain,
    RtdMetadata.getAdcCalOffset, RtdMetadata.getRangeCalMmPerCelsius,
    RtdMetadata.getRangeCalMmPerVolt, RtdMetadata.getRangeCalOffsetMm, RtdMetadata.rangeCalWords,
    RtdMetadata.isM20, RtdMetadata.isM25, RtdMetadata.isM30, RtdMetadata.getAdc, m30Roi_getmd]
  have g : m30Base.getmd RtdMetadata.adcCalGainOff = 4095 := by decide
  have o : m30Base.getmd RtdMetadata.adcCalOffsetOff = 0 := by decide
  have c : (m30Base.getmd 64 &&& 15) <<< 12 ||| m30Base.getmd 63 &&& 4095 = 0 := by decide
  have v : RtdMetadata.s16 (m30Base.getmd 61) (m30Base.getmd 62) = 0 := by decide
  have f : RtdMetadata.s16 (m30Base.getmd 59) (m30Base.getmd 60) = 32 := by decide
  simp only [RtdMetadata.modIdx8, if_true, Nat.reduceAdd, g, o, c, v, f]
  refine ⟨by decide, by norm_num, by norm_num, by norm_num, by norm_num, by norm_num, by decide,
    by decide, by decide, by decide, by decide⟩

theorem setAdcValues_misses_enable_flag_twoFovs :
    ∃ s, run (fun _ _ _ => some 0) [.setAdcValues (m30Roi 3 8) 0, .setAdcValues (m30Roi 1 0) 0,
        .setAdcValues (m30Roi 2 8) 0] = .ok s ∧
      (m30Roi 1 0).getEnableRangeTempRangeAdjustment 0 = false ∧
      (m30Roi 2 8).getEnableRangeTempRangeAdjustment 0 = true ∧
      s.getRangeOffsetTemperature = 1 / 1000 := by
  obtain ⟨f0, gain, off, mmC, mmV, fix, -, m25, m30, lt, vl⟩ := m30Roi_calibration 3 8
  obtain ⟨f0', gain', off', mmC', mmV', fix', -, -, -, lt', vl'⟩ := m30Roi_calibration 2 8
  -- the first FOV, a single ROI, latches the calibration and computes
  have hl : init.latch (m30Roi 3 8) = { init with
      disable := false, adcCalGain := 4095 / 2 ^ 19, adcCalOffset := 0, mmPerCelsius := 0,
      mmPerVolt := 0, fixedOffsetMm := 1, consts := m30Constants } := by
    simp only [latch, f0, gain, off, mmC, mmV, fix, m25, m30, if_true, if_false, Bool.false_eq_true]
  obtain ⟨r1, hr1, i1, e1⟩ := ((inv_latch (m30Roi 3 8)).2 inv_init).recordReadings (m30Roi 3 8)
  obtain ⟨x, hx⟩ := i1.compute (fun _ _ _ => some 0)
  have hc : (init.latch (m30Roi 3 8)).calibrationChanged (m30Roi 3 8) = false := by
    rw [hl]; norm_num [calibrationChanged, f0, gain, off, mmC, mmV, fix]
  have h1 : init.setAdcValues (fun _ _ _ => some 0) (m30Roi 3 8) 0 =
      .ok { r1 with rangeOffsetTemperatureMeters := x } := by
    have hd : (init.latch (m30Roi 3 8)).disable = false := by rw [hl]
    simp only [setAdcValues, checkAndRecord, hd, hc, hr1, hx,
      show (m30Roi 3 8).getEnableRangeTempRangeAdjustment 0 = true by decide,
      show (m30Roi 3 8).getFirstRoi 0 = true by decide,
      show (m30Roi 3 8).getFrameCompleted 0 = true by decide,
      show (m30Roi 3 8).isM20 = false by decide, Bool.not_true, Bool.false_eq_true, if_true,
      if_false, pure_bind, ok_bind]
  have c1 : r1.disable = false ∧ r1.technique = .median ∧ r1.consts = m30Constants ∧
      r1.adcCalGain = 4095 / 2 ^ 19 ∧ r1.adcCalOffset = 0 ∧ r1.mmPerCelsius = 0 ∧
      r1.mmPerVolt = 0 ∧ r1.fixedOffsetMm = 1 := by
    rw [e1, hl]; exact ⟨rfl, rfl, rfl, rfl, rfl, rfl, rfl, rfl⟩
  -- the second FOV: its first ROI disables the adjustment, its last enables it again
  have h23 := setAdcValues_misses_enable_flag (fun _ _ _ => some 0)
    (show ({ r1 with rangeOffsetTemperatureMeters := x } : TemperatureCalibration).disable = false
      from c1.1)
    (show (m30Roi 1 0).getEnableRangeTempRangeAdjustment 0 = false by decide)
    (show (m30Roi 2 8).getEnableRangeTempRangeAdjustment 0 = true by decide)
    (show (m30Roi 2 8).getFirstRoi 0 = false by decide)
    (show (m30Roi 2 8).getFrameCompleted 0 = true by decide)
    (by norm_num [calibrationChanged, c1, f0', gain', off', mmC', mmV', fix'])
  obtain ⟨r2, hr2, i2, e2⟩ := (show ({ r1 with rangeOffsetTemperatureMeters := x } :
    TemperatureCalibration).Inv _ from i1).recordReadings (m30Roi 2 8)
  have c2 : r2.disable = false ∧ r2.technique = .median ∧ r2.consts = m30Constants ∧
      r2.adcCalGain = 4095 / 2 ^ 19 ∧ r2.adcCalOffset = 0 ∧ r2.mmPerCelsius = 0 ∧
      r2.mmPerVolt = 0 ∧ r2.fixedOffsetMm = 1 := by
    rw [e2]; exact c1
  -- both FIFOs hold the same reading twice, which `compute` reads back
  have hsamp : adcReadings ({ r1 with rangeOffsetTemperatureMeters := x } :
      TemperatureCalibration).consts (m30Roi 2 8) ::
      [adcReadings (init.latch (m30Roi 3 8)).consts (m30Roi 3 8)] = List.replicate 2 (0, 100) := by
    simp only [adcReadings, hl, c1.2.2.1, m30Constants, lt, vl, lt', vl', Nat.cast_zero,
      Nat.cast_ofNat]
    rfl
  rw [hsamp] at i2
  obtain ⟨hi2, ⟨h, -⟩ | ⟨-, hl2, hv2⟩⟩ := i2
  · exact absurd h (by simp)
  have el := fifoReading_ring .laserThermMetadataValues .laserThermValuesSorted r2.technique hl2 hi2
    (by simp)
  have ev := fifoReading_ring .vldaMetadataValues .vldaValuesSorted r2.technique hv2 hi2 (by simp)
  rw [List.map_replicate, windowReading_replicate _ (by decide), c2.2.1] at el ev
  have hne : ¬(r2.vldaMetadataValues.isEmpty || r2.laserThermMetadataValues.isEmpty) := by
    simp [← List.length_eq_zero, hl2.1, hv2.1, defaultFifoLength]
  have hcomp : compute (fun _ _ _ => some 0) r2 =
      .ok { r2 with rangeOffsetTemperatureMeters := 1 / 1000 } := by
    simp only [compute, getLaserThermAdcMetadataValue, getVldaMetadataValue, c2, el, ev, hne,
      ok_bind, Bool.false_or, if_false]
    norm_num [m30Constants, minVldaVoltage, maxVldaVoltage, mPerMm]
  refine ⟨{ r2 with rangeOffsetTemperatureMeters := 1 / 1000 }, ?_, by decide, by decide,
    by simp [getRangeOffsetTemperature, c2.1]⟩
  simp only [run, List.foldlM_cons, List.foldlM_nil, step, h1, ok_bind, bind_pure]
  rw [h23, hr2, ok_bind, hcomp]

end TemperatureCalibration

end Cobra
