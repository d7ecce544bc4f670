import Cobra.Smooth.Accelerated

/-!
# The Wrapped Loop Bounds of `smoothRaw7x15`

`smoothRaw7x15` filters `numRows = paddedSize[0] - VKERNEL_SIZE - 1` samples down each column
and `numCols = paddedSize[1] - HKERNEL_SIZE - 1` along each row, both computed in `uint32_t`.
`smoothSummedData` runs it for the kernel pair `(3, 6)` on every frame that has at least as
many rows as the column kernel has taps and at least as many columns as the row kernel, and
the routine asserts no more. On a frame of exactly `15` rows, or of exactly `7` columns, one
of the two subtractions wraps to `2 ^ 32 - 1`, and its filter loop reads past the end of its
source in the first line it filters.

The faults are proved from what every iteration can do: a filter pixel faults only on its
source when its destination is as long (`filterTriple_error_buf`), and a loop with an
iteration that faults from every state cannot finish (`forLoop_error_of_body`). Which
iteration faults first is not needed.

## Main results

* `filterLoop_wraps`: a filter loop of `2 ^ 32 - 1` pixels a line over a frame of fewer than
  `2 ^ 32` samples faults, on its source.
* `smoothRaw7x15_rows_fault`, `smoothRaw7x15_cols_fault`: the column filter faults on a frame
  of `15` rows, and the row filter on a frame of `7` columns and at least `16` rows.
* `smoothSummedData_7x15_faults`: `smoothSummedData` with the kernel pair `(3, 6)` and the
  accelerated routines faults on every such frame.
-/

namespace Cobra

namespace RawToDepthDsp

section Wrap

variable {α : Type} [Field α] {src dst : List α} {X Y : Nat}

/-- **A wrapped filter loop faults.** A filter loop over the `Y` lines of a frame of `X` pixels
a line that runs `2 ^ 32 - 1` pixels from `first` on reads past the end of the frame in its
first line, and faults on its source. -/
theorem filterLoop_wraps (first : Nat) (srcBuf dstBuf : Buf) (idx : Nat → Nat → Nat)
    (hidx : ∀ i j, idx i j = pix X i (first + j) 0) {n : Nat} {k : List α} (hk : k.length = n)
    (hn : 0 < n) (hlo : n / 2 ≤ first) (hY : 0 < Y) (hsrc : src.length = 3 * (Y * X))
    (hdst : dst.length = 3 * (Y * X)) (hsize : 3 * (Y * X) < 2 ^ 32) :
    ∃ e, forLoop Y (fun i => forLoop (2 ^ 32 - 1) fun j =>
        filterTriple srcBuf dstBuf n src k (idx i j)) dst = .error e ∧ e.buf = srcBuf := by
  obtain ⟨e, he, hbuf⟩ := @forLoop_error_of_body (List α) (2 ^ 32 - 1) (Y * X)
    (fun j => filterTriple srcBuf dstBuf n src k (idx 0 j)) (fun t => src.length ≤ t.length)
    (fun e => e.buf = srcBuf) (fun _ _ _ _ hs h => hs.trans_eq (writeTriple_length h).symm)
    (fun j _ _ _ hs h => filterTriple_error_buf hn hk.ge (by rw [hidx]; unfold pix; omega) hs h)
    (by omega) (fun _ => filterTriple_error hn hk.ge (by rw [hidx, hsrc]; unfold pix; omega)) dst
    (show src.length ≤ dst.length by omega)
  exact ⟨e, forLoop_error_of_first hY he, hbuf⟩

end Wrap

section Routine

variable {α : Type} [Field α] {roi out : List α} {H W : Nat}

theorem numRows_plan7x15_of_eq (hH : H = 15) : plan7x15.numRows H = 2 ^ 32 - 1 := by
  subst hH; rfl

theorem numCols_plan7x15_of_eq (hW : W = 7) : plan7x15.numCols W = 2 ^ 32 - 1 := by
  subst hW; rfl

/-- **`smoothRaw7x15` on a frame of `15` rows.** The column filter runs `2 ^ 32 - 1` rows and
faults on the transposed frame. -/
theorem smoothRaw7x15_rows_fault (hH : H = 15) (hW : 0 < W) (hsize : 3 * (H * W) < 2 ^ 32)
    (hroi : roi.length = 3 * (H * W)) (scratch : Scratch α (u32 (H * numGpixelPhases * W))) :
    ∃ e, smoothRaw7x15 roi out (H, W) scratch = .error e ∧ e.buf = .transposedRoi := by
  have hn := u32_frame hsize
  have hT := scratch.length_transposedRoi.trans hn
  have hV := (scratch.length_vSmoothedTransposedRoi.trans hn).trans (by rw [Nat.mul_comm H])
  have hk : (fKernels.getD plan7x15.vKernelIdx [] : List α).length = plan7x15.vTaps := rfl
  obtain ⟨v1, hv1, hu1⟩ := copyBlock .transposedRoi .vSmoothedTransposedRoi (a := 0)
    (B := plan7x15.topRows) (fun i j => i * (H * numGpixelPhases) + 3 * j)
    (fun i j => by simp only [pix, numGpixelPhases]; ring) (by simp only [plan7x15]; omega)
    (length_frame (f := fun c r ch => sample roi W r c ch)) hV
  obtain ⟨v2, hv2, hu2⟩ := copyBlock .transposedRoi .vSmoothedTransposedRoi
    (a := H - plan7x15.bottomRows) (B := plan7x15.bottomRows)
    (fun i j => numGpixelPhases * (H - plan7x15.bottomRows) + i * (H * numGpixelPhases) + 3 * j)
    (fun i j => by simp only [pix, numGpixelPhases]; ring) (by simp only [plan7x15]; omega)
    (length_frame (f := fun c r ch => sample roi W r c ch)) (hu1.length.trans hV)
  obtain ⟨e, he, hbuf⟩ := filterLoop_wraps plan7x15.firstRow .transposedRoi
    .vSmoothedTransposedRoi
    (fun i j => numGpixelPhases * plan7x15.firstRow + i * (H * numGpixelPhases) + 3 * j)
    (fun i j => by simp only [pix, numGpixelPhases]; ring) hk (by decide) (by decide) hW
    (length_frame (f := fun c r ch => sample roi W r c ch))
    (hu2.length.trans (hu1.length.trans hV)) (by rwa [Nat.mul_comm W])
  refine ⟨e, ?_, hbuf⟩
  dsimp only [smoothRaw7x15, smoothAccelerated]
  rw [transposeRaw_eq hroi hT, ok_bind, hv1, ok_bind, hv2, ok_bind, readAt_fKernels (show plan7x15.vKernelIdx < 7 by decide), ok_bind,
    numRows_plan7x15_of_eq hH, he, error_bind]

/-- **`smoothRaw7x15` on a frame of `7` columns.** The column pass runs, and the row filter
runs `2 ^ 32 - 1` columns and faults on the vertically smoothed frame. -/
theorem smoothRaw7x15_cols_fault (hH : 16 ≤ H) (hW : W = 7) (hsize : 3 * (H * W) < 2 ^ 32)
    (hroi : roi.length = 3 * (H * W)) (hout : out.length = 3 * (H * W))
    (scratch : Scratch α (u32 (H * numGpixelPhases * W))) :
    ∃ e, smoothRaw7x15 roi out (H, W) scratch = .error e ∧ e.buf = .vSmoothedRoi := by
  have hn := u32_frame hsize
  have hWH : 3 * (H * W) = 3 * (W * H) := by rw [Nat.mul_comm H]
  have hT := scratch.length_transposedRoi.trans hn
  have hV := (scratch.length_vSmoothedTransposedRoi.trans hn).trans hWH
  have hS := (scratch.length_vSmoothedRoi.trans hn).trans hWH
  have hH' : H < 2 ^ 32 := by rw [hW] at hsize; omega
  have hrows : plan7x15.numRows H = H - 16 := by simp only [plan7x15, u32]; omega
  have hkv : (fKernels.getD plan7x15.vKernelIdx [] : List α).length = plan7x15.vTaps := rfl
  have hkh : (fKernels.getD plan7x15.hKernelIdx [] : List α).length = plan7x15.hTaps := rfl
  -- the pass down the columns runs to its end
  obtain ⟨v1, hv1, hu1⟩ := copyBlock .transposedRoi .vSmoothedTransposedRoi (a := 0)
    (B := plan7x15.topRows) (fun i j => i * (H * numGpixelPhases) + 3 * j)
    (fun i j => by simp only [pix, numGpixelPhases]; ring) (by simp only [plan7x15]; omega)
    (length_frame (f := fun c r ch => sample roi W r c ch)) hV
  obtain ⟨v2, hv2, hu2⟩ := copyBlock .transposedRoi .vSmoothedTransposedRoi
    (a := H - plan7x15.bottomRows) (B := plan7x15.bottomRows)
    (fun i j => numGpixelPhases * (H - plan7x15.bottomRows) + i * (H * numGpixelPhases) + 3 * j)
    (fun i j => by simp only [pix, numGpixelPhases]; ring) (by simp only [plan7x15]; omega)
    (length_frame (f := fun c r ch => sample roi W r c ch)) (hu1.length.trans hV)
  obtain ⟨v3, hv3, hu3⟩ := filterBlock .transposedRoi .vSmoothedTransposedRoi
    (a := plan7x15.firstRow) (B := plan7x15.numRows H)
    (fun i j => numGpixelPhases * plan7x15.firstRow + i * (H * numGpixelPhases) + 3 * j)
    (fun i j => by simp only [pix, numGpixelPhases]; ring) hkv (by decide) (by decide)
    (by rw [hrows]; simp only [plan7x15]; omega)
    (length_frame (f := fun c r ch => sample roi W r c ch)) (hu2.length.trans (hu1.length.trans hV))
  have hV3 : v3.length = 3 * (W * H) := hu3.length.trans (hu2.length.trans (hu1.length.trans hV))
  -- the row filter wraps
  obtain ⟨s1, hs1, hw1⟩ := copyBlock .vSmoothedRoi .smoothedRoi (a := 0)
    (B := plan7x15.leftCols) (fun i j => i * (W * numGpixelPhases) + 3 * j)
    (fun i j => by simp only [pix, numGpixelPhases]; ring) (by simp only [plan7x15]; omega)
    (length_frame (f := fun r c ch => sample v3 H c r ch)) hout
  obtain ⟨s2, hs2, hw2⟩ := copyBlock .vSmoothedRoi .smoothedRoi
    (a := W - plan7x15.rightCols) (B := plan7x15.rightCols)
    (fun i j => numGpixelPhases * (W - plan7x15.rightCols) + i * (W * numGpixelPhases) + 3 * j)
    (fun i j => by simp only [pix, numGpixelPhases]; ring) (by simp only [plan7x15]; omega)
    (length_frame (f := fun r c ch => sample v3 H c r ch)) (hw1.length.trans hout)
  obtain ⟨e, he, hbuf⟩ := filterLoop_wraps plan7x15.firstCol .vSmoothedRoi
    .smoothedRoi
    (fun i j => numGpixelPhases * plan7x15.firstCol + i * (W * numGpixelPhases) + 3 * j)
    (fun i j => by simp only [pix, numGpixelPhases]; ring) hkh (by decide) (by decide) (by omega)
    (length_frame (f := fun r c ch => sample v3 H c r ch))
    (hw2.length.trans (hw1.length.trans hout)) hsize
  refine ⟨e, ?_, hbuf⟩
  dsimp only [smoothRaw7x15, smoothAccelerated]
  rw [transposeRaw_eq hroi hT, ok_bind, hv1, ok_bind, hv2, ok_bind, readAt_fKernels (show plan7x15.vKernelIdx < 7 by decide), ok_bind,
    hv3, ok_bind, transposeRaw_eq hV3 hS, ok_bind, hs1, ok_bind, hs2, ok_bind,
    readAt_fKernels (show plan7x15.hKernelIdx < 7 by decide), ok_bind, numCols_plan7x15_of_eq hW,
    he]

/-- **`smoothSummedData` faults at the edge of `smoothRaw7x15`.** With the kernel pair `(3, 6)`
and the accelerated routines, on every frame of fewer than `2 ^ 32` samples with at least `15`
rows and `7` columns and exactly `15` rows or `7` columns, `smoothSummedData` faults: on the
transposed frame when it has `15` rows, and on the vertically smoothed frame otherwise. -/
theorem smoothSummedData_7x15_faults (hH : 15 ≤ H) (hW : 7 ≤ W) (hedge : H = 15 ∨ W = 7)
    (hsize : 3 * (H * W) < 2 ^ 32) (hroi : roi.length = 3 * (H * W))
    (hout : out.length = 3 * (H * W)) (scratch : Scratch α (u32 (H * numGpixelPhases * W))) :
    ∃ e, smoothSummedData roi out (H, W) 3 6 true scratch = .error e ∧
      e.buf = if H = 15 then .transposedRoi else .vSmoothedRoi := by
  have hcopy : ¬ ((3 = 0 ∧ 6 = 0) ∨ (W < kernelTaps.getD 3 0 ∨ H < kernelTaps.getD 6 0)) := by
    simp only [kernelTaps, List.getD_cons_succ, List.getD_cons_zero]; omega
  simp only [smoothSummedData, readAt_fKernels (show 3 < 7 by decide),
    readAt_fKernels (show 6 < 7 by decide), ok_bind, pure_eq_ok, bind_ok, length_fKernels_getD]
  rw [if_neg hcopy, if_neg (by decide), if_pos ⟨rfl, rfl, trivial⟩]
  by_cases h15 : H = 15
  · rw [if_pos h15]
    exact smoothRaw7x15_rows_fault h15 (by omega) hsize hroi scratch
  · rw [if_neg h15]
    exact smoothRaw7x15_cols_fault (by omega) (hedge.resolve_left h15) hsize hroi
      (by rw [List.length_replicate, hout]) scratch

/-- `smoothSummedData` with the kernel pair `(3, 6)` on a frame of `15 × 7` pixels. -/
theorem smoothSummedData_7x15_faults_fifteenBySeven :
    ∃ e, smoothSummedData (List.replicate 315 (1 : ℚ)) (List.replicate 315 0) (15, 7) 3 6 true
        (Scratch.zeros _) = .error e ∧
      e.buf = if 15 = 15 then .transposedRoi else .vSmoothedRoi :=
  smoothSummedData_7x15_faults (H := 15) (W := 7) le_rfl le_rfl (.inl rfl) (by norm_num)
    (List.length_replicate _ _) (List.length_replicate _ _) _

end Routine

end RawToDepthDsp

end Cobra
