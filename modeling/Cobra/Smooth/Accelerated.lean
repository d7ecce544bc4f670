import Cobra.Smooth.Writes

/-!
# Smoothing of the Summed Raw Data: the Accelerated Routines

`smoothRaw5x7` and `smoothRaw7x15` transpose the frame, copy its border rows, filter the rows
between them down each column, transpose back, copy the border columns and filter the columns
between them along each row. For every plan whose kernels and loops fit the frame
(`AccelPlan.Fits`), `smoothAccelerated_eq` says what such a routine returns: `accelSmooth`,
which along each line is `accelLine`, the convolution where the filter loop runs, the line
itself where a border copy runs, and the destination's old sample anywhere else.

## Main results

* `transposeRaw_eq`: `transposeRaw` transposes a frame.
* `smoothAccelerated_eq`: an accelerated routine computes `accelSmooth`.
* `accelSmooth_plan5x7`: the loops of `smoothRaw5x7` cover every row and every column, so it
  computes the separable smoothing.
* `accelSmooth_plan7x15_cols`, `accelSmooth_plan7x15_rows`: the loops of `smoothRaw7x15` leave
  columns `W - 5` and `W - 4` to the destination's old samples, and rows `H - 9` and `H - 8`
  to what the pool left in its vertically smoothed frame.
-/

namespace Cobra

namespace RawToDepthDsp

/-! ### The kernels -/

/-- The number of taps of each kernel of `_fKernels`. -/
def kernelTaps : List Nat := [3, 3, 5, 7, 9, 11, 15]

section Kernels

variable {α : Type} [Field α]

theorem length_fKernels_getD (i : Nat) :
    ((fKernels : List (List α)).getD i []).length = kernelTaps.getD i 0 := by
  rcases i with _ | _ | _ | _ | _ | _ | _ | i <;> simp [fKernels, kernelTaps]

theorem readAt_fKernels {b : Buf} {i : Nat} (hi : i < 7) :
    readAt b (fKernels : List (List α)) i = .ok (fKernels.getD i []) :=
  readAt_eq_getD [] hi

end Kernels

/-- Every kernel of `_fKernels` has an odd number of taps, at least three. -/
theorem kernelTaps_odd {i : Nat} (hi : i < 7) :
    kernelTaps.getD i 0 % 2 = 1 ∧ 3 ≤ kernelTaps.getD i 0 := by
  interval_cases i <;> decide

/-- The kernels of five, seven and fifteen taps are kernels `2`, `3` and `6`. -/
theorem kernelTaps_eq_iff {i : Nat} (hi : i < 7) :
    (kernelTaps.getD i 0 = 5 ↔ i = 2) ∧ (kernelTaps.getD i 0 = 7 ↔ i = 3) ∧
      (kernelTaps.getD i 0 = 15 ↔ i = 6) := by
  interval_cases i <;> decide

theorem u32_sub {H c : Nat} (h : c ≤ H) (hH : H < 2 ^ 32) : u32 ((H : Int) - c) = H - c := by
  rw [u32_of_lt (by omega) (by omega)]; omega

/-- The size `paddedSize[0]*NUM_GPIXEL_PHASES*paddedSize[1]` of the pool vectors. -/
theorem u32_frame {H W : Nat} (h : 3 * (H * W) < 2 ^ 32) :
    u32 (H * numGpixelPhases * W) = 3 * (H * W) := by
  have : (H : Int) * numGpixelPhases * W = ((3 * (H * W) : Nat) : Int) := by
    simp only [numGpixelPhases]; push_cast; ring
  rw [this, u32_of_lt (by omega) (by omega)]; omega

/-! ### Transposition -/

section Transpose

variable {α : Type} [Field α] {roi roiT : List α} {H W : Nat}

/-- **`transposeRaw` transposes.** Given a frame of `H × W` pixels and a destination of its
size, `transposeRaw` returns the frame of `W × H` pixels whose pixel `(c, r)` is pixel `(r, c)`
of the source. -/
theorem transposeRaw_eq (hroi : roi.length = 3 * (H * W)) (hT : roiT.length = 3 * (H * W)) :
    transposeRaw roi roiT (H, W) = .ok (frame W H fun c r ch => sample roi W r c ch) := by
  have hstep : ∀ r < H, ∀ c < W, ∀ t : List α, t.length = 3 * (H * W) → ∃ t',
      transposeStep roi (H, W) r c t = .ok t' ∧
        Updates (fun k => pix H c r 0 ≤ k ∧ k < pix H c r 0 + 3)
          (frameAt H fun c r ch => sample roi W r c ch) t t' := by
    intro r hr c hc t ht
    have hout : 3 * r + c * (H * 3) = pix H c r 0 := by unfold pix; ring
    have hin : ∀ j, r * (W * 3) + 3 * c + j = pix W r c j := fun j => by unfold pix; ring
    simp only [transposeStep, hout, hin]
    refine writeTriple_updates ?_ fun j hj => ?_
    · rw [pix_zero_add, ht, Nat.mul_comm H]; exact pix_lt hc hr (by decide)
    · rw [readAt_eq_getD 0 (hroi ▸ pix_lt hr hc hj), pix_zero_add, frameAt_pix hr hj]; rfl
  obtain ⟨t, ht, hu⟩ :=
    forLoop_updates (fun r hr _ ht => forLoop_updates (fun c hc u hu => hstep r hr c hc u hu) ht) hT
  simp only [transposeRaw]
  rw [ht]
  refine congrArg _ (eq_frame (hu.length.trans (by rw [hT, Nat.mul_comm H])) fun c hc r hr ch hch => ?_)
  rw [hu.written _ (by rw [hT, Nat.mul_comm H]; exact pix_lt hc hr hch)
    ⟨r, hr, c, hc, by unfold pix; omega, by unfold pix; omega⟩, frameAt_pix hr hch]

end Transpose

/-! ### What an accelerated routine computes -/

/-- The conditions under which an accelerated routine works inside a frame of `H × W` pixels:
its kernels are kernels of `_fKernels` with the taps it sums, its border copies fit in the
frame, and its filter loops read only inside it. -/
structure AccelPlan.Fits (plan : AccelPlan) (H W : Nat) : Prop where
  vKernelIdx : plan.vKernelIdx < 7
  vTaps : kernelTaps.getD plan.vKernelIdx 0 = plan.vTaps
  topRows : plan.topRows ≤ H
  bottomRows : plan.bottomRows ≤ H
  firstRow : plan.vTaps / 2 ≤ plan.firstRow
  numRows : plan.firstRow + plan.numRows H + plan.vTaps / 2 ≤ H
  hKernelIdx : plan.hKernelIdx < 7
  hTaps : kernelTaps.getD plan.hKernelIdx 0 = plan.hTaps
  leftCols : plan.leftCols ≤ W
  rightCols : plan.rightCols ≤ W
  firstCol : plan.hTaps / 2 ≤ plan.firstCol
  numCols : plan.firstCol + plan.numCols W + plan.hTaps / 2 ≤ W

section Spec

variable {α : Type} [Field α]

/-- What one pass of an accelerated routine leaves at place `y` of a line `g` of `X` samples:
the convolution with `k` where its filter loop runs, the line where its copy of the last
`nLast` or of the first `nFirst` places runs, and the destination's old sample `old y` anywhere
else. Of two loops that write a place, the later one decides. -/
def accelLine (first num nFirst nLast X : Nat) (k : List α) (g old : Nat → α) (y : Nat) : α :=
  if first ≤ y ∧ y < first + num then convolve k g y
  else if X - nLast ≤ y then g y
  else if y < nFirst then g y
  else old y

/-- What an accelerated routine leaves at sample `ch` of pixel `(r, c)` of a frame of `H × W`
pixels: its pass along the rows of its pass down the columns, where `vOld` is what the pool left
in the vertically smoothed (transposed) frame and `out` the destination. -/
def accelSmooth (plan : AccelPlan) (H W : Nat) (roi vOld out : List α) (r c ch : Nat) : α :=
  accelLine plan.firstCol (plan.numCols W) plan.leftCols plan.rightCols W
    (fKernels.getD plan.hKernelIdx [])
    (fun c' => accelLine plan.firstRow (plan.numRows H) plan.topRows plan.bottomRows H
      (fKernels.getD plan.vKernelIdx []) (fun r' => sample roi W r' c' ch)
      (fun r' => sample vOld H c' r' ch) r)
    (fun c' => sample out W r c' ch) c

/-- A pass whose loops meet, with the copies as wide as the kernel's half, is the smoothing of
the line with its borders copied. -/
theorem accelLine_cover {h num X : Nat} {k : List α} {g old : Nat → α} {y : Nat}
    (hnum : h + num = X - h) :
    accelLine h num h h X k g old y = if y < h ∨ X - h ≤ y then g y else convolve k g y := by
  unfold accelLine
  by_cases h1 : y < h ∨ X - h ≤ y
  · rw [if_pos h1, if_neg (by omega)]
    split_ifs <;> first | rfl | omega
  · rw [if_neg h1, if_pos (by omega)]

end Spec

/-! ### The loops of one pass -/

section Passes

variable {α : Type} [Field α] {src dst : List α} {X Y a B : Nat}

/-- A block of pixel copies, pixel `(i, a + j)` of `src` to `dst` for `i < Y` and `j < B`. -/
theorem copyBlock (srcBuf dstBuf : Buf) (idx : Nat → Nat → Nat) (hidx : ∀ i j, idx i j = pix X i (a + j) 0)
    (hB : a + B ≤ X) (hsrc : src.length = 3 * (Y * X)) (hdst : dst.length = 3 * (Y * X)) :
    ∃ t, forLoop Y (fun i => forLoop B fun j => copyTriple srcBuf dstBuf src (idx i j)) dst =
      .ok t ∧ Updates (Block X Y a B) (src.getD · 0) dst t :=
  forLoop_block (fun i hi j hj t ht => by
    rw [hidx]
    refine writeTriple_updates ?_ fun ch hch => readAt_eq_getD 0 ?_
    · rw [pix_zero_add, ht]; exact pix_lt hi (by omega) (by decide)
    · rw [pix_zero_add, hsrc]; exact pix_lt hi (by omega) hch) hdst

/-- A block of tap sums of `n` taps, around pixel `(i, a + j)` of `src` into `dst`, for
`i < Y` and `j < B`, each inside the line of its pixel. -/
theorem filterBlock (srcBuf dstBuf : Buf) (idx : Nat → Nat → Nat) (hidx : ∀ i j, idx i j = pix X i (a + j) 0)
    {n : Nat} {k : List α} (hk : k.length = n) (hn : 0 < n) (hlo : n / 2 ≤ a)
    (hhi : a + B + n / 2 ≤ X) (hsrc : src.length = 3 * (Y * X))
    (hdst : dst.length = 3 * (Y * X)) :
    ∃ t, forLoop Y (fun i => forLoop B fun j =>
        filterTriple srcBuf dstBuf n src k (idx i j)) dst = .ok t ∧
      Updates (Block X Y a B) (tapSum n src · k) dst t :=
  forLoop_block (fun i hi j hj t ht => by
    rw [hidx]
    refine writeTriple_updates ?_ fun ch hch => sumTaps_eq hn ?_ hk.ge
    · rw [pix_zero_add, ht]; exact pix_lt hi (by omega) (by decide)
    · rw [pix_zero_add, hsrc, show pix X i (a + j) ch - 3 * (n / 2) + 3 * (n - 1) =
        pix X i (a + j + (n - 1) - n / 2) ch by unfold pix; omega]
      exact pix_lt hi (by omega) hch) hdst

/-- **One pass of an accelerated routine.** A copy of the first `nFirst` pixels of every line,
a copy of its last `nLast` pixels and a filter of `num` pixels from `first` on leave
`accelLine` at every pixel. -/
theorem pass_pix {t0 t1 t2 t3 k : List α} {first num nFirst nLast n : Nat}
    {g : Nat → Nat → Nat → α}
    (hsrc : ∀ i < Y, ∀ y < X, ∀ ch < 3, src.getD (pix X i y ch) 0 = g i y ch)
    (hk : k.length = n) (hFirst : nFirst ≤ X) (hLast : nLast ≤ X) (hlo : n / 2 ≤ first)
    (hhi : first + num + n / 2 ≤ X) (ht0 : t0.length = 3 * (Y * X))
    (h1 : Updates (Block X Y 0 nFirst) (src.getD · 0) t0 t1)
    (h2 : Updates (Block X Y (X - nLast) nLast) (src.getD · 0) t1 t2)
    (h3 : Updates (Block X Y first num) (tapSum n src · k) t2 t3)
    {i y ch : Nat} (hi : i < Y) (hy : y < X) (hch : ch < 3) :
    t3[pix X i y ch]? = some (accelLine first num nFirst nLast X k (fun y' => g i y' ch)
      (fun y' => t0.getD (pix X i y' ch) 0) y) := by
  have hk0 : pix X i y ch < t0.length := ht0 ▸ pix_lt hi hy hch
  rw [h3.pix_block (by omega) hi hy hch (by rw [h2.length, h1.length]; exact hk0),
    h2.pix_block (by omega) hi hy hch (by rw [h1.length]; exact hk0),
    h1.pix_block (by omega) hi hy hch hk0, Nat.sub_add_cancel hLast]
  unfold accelLine
  simp only [Nat.zero_le, true_and, Nat.zero_add, hy, and_true]
  split_ifs
  · rw [tapSum_pix hk (by omega)]
    exact congrArg some (convolve_congr fun m hm => hsrc i hi _ (by omega) ch hch)
  all_goals first | exact congrArg some (hsrc i hi y hy ch hch) | exact getElem?_eq_some_getD 0 hk0

end Passes

/-! ### The routines -/

section Routine

variable {α : Type} [Field α] {plan : AccelPlan} {roi out : List α} {H W : Nat}

/-- **What an accelerated routine computes.** For a plan that fits a frame of `H × W` pixels,
the routine returns `accelSmooth` at every pixel. -/
theorem smoothAccelerated_eq (hfit : plan.Fits H W) (hsize : 3 * (H * W) < 2 ^ 32)
    (hroi : roi.length = 3 * (H * W)) (hout : out.length = 3 * (H * W))
    (scratch : Scratch α (u32 (H * numGpixelPhases * W))) :
    smoothAccelerated plan roi out (H, W) scratch =
      .ok (frame H W (accelSmooth plan H W roi scratch.vSmoothedTransposedRoi out)) := by
  have hn := u32_frame hsize
  have hWH : 3 * (H * W) = 3 * (W * H) := by rw [Nat.mul_comm H]
  have hT := scratch.length_transposedRoi.trans hn
  have hV := (scratch.length_vSmoothedTransposedRoi.trans hn).trans hWH
  have hS := (scratch.length_vSmoothedRoi.trans hn).trans hWH
  have hk := length_fKernels_getD (α := α)
  -- the pass down the columns, on the transposed frame
  obtain ⟨v1, hv1, hu1⟩ := copyBlock .transposedRoi
    .vSmoothedTransposedRoi (a := 0) (B := plan.topRows)
    (fun i j => i * (H * numGpixelPhases) + 3 * j)
    (fun i j => by simp only [pix, numGpixelPhases]; ring) (by simpa using hfit.topRows)
    (length_frame (f := fun c r ch => sample roi W r c ch)) hV
  obtain ⟨v2, hv2, hu2⟩ := copyBlock .transposedRoi
    .vSmoothedTransposedRoi (a := H - plan.bottomRows) (B := plan.bottomRows)
    (fun i j => numGpixelPhases * (H - plan.bottomRows) + i * (H * numGpixelPhases) + 3 * j)
    (fun i j => by simp only [pix, numGpixelPhases]; ring) (by have := hfit.bottomRows; omega)
    (length_frame (f := fun c r ch => sample roi W r c ch)) (hu1.length.trans hV)
  obtain ⟨v3, hv3, hu3⟩ := filterBlock .transposedRoi
    .vSmoothedTransposedRoi (a := plan.firstRow) (B := plan.numRows H)
    (fun i j => numGpixelPhases * plan.firstRow + i * (H * numGpixelPhases) + 3 * j)
    (fun i j => by simp only [pix, numGpixelPhases]; ring) ((hk _).trans hfit.vTaps)
    (by have := kernelTaps_odd hfit.vKernelIdx; have := hfit.vTaps; omega) hfit.firstRow hfit.numRows
    (length_frame (f := fun c r ch => sample roi W r c ch)) (hu2.length.trans (hu1.length.trans hV))
  have hv3eq : v3 = frame W H fun c r ch => accelLine plan.firstRow (plan.numRows H)
      plan.topRows plan.bottomRows H (fKernels.getD plan.vKernelIdx [])
      (fun r' => sample roi W r' c ch) (fun r' => sample scratch.vSmoothedTransposedRoi H c r' ch) r :=
    eq_frame (hu3.length.trans (hu2.length.trans (hu1.length.trans hV)))
      fun c hc r hr ch hch => pass_pix (fun c hc r hr ch hch => sample_frame hc hr hch)
        ((hk _).trans hfit.vTaps) hfit.topRows hfit.bottomRows hfit.firstRow hfit.numRows hV
        hu1 hu2 hu3 hc hr hch
  -- the pass along the rows
  have hV3 : v3.length = 3 * (W * H) := by rw [hv3eq, length_frame]
  obtain ⟨s1, hs1, hw1⟩ := copyBlock .vSmoothedRoi .smoothedRoi
    (a := 0) (B := plan.leftCols) (fun i j => i * (W * numGpixelPhases) + 3 * j)
    (fun i j => by simp only [pix, numGpixelPhases]; ring) (by simpa using hfit.leftCols)
    (length_frame (f := fun r c ch => sample v3 H c r ch)) hout
  obtain ⟨s2, hs2, hw2⟩ := copyBlock .vSmoothedRoi .smoothedRoi
    (a := W - plan.rightCols) (B := plan.rightCols) (fun i j => numGpixelPhases * (W - plan.rightCols) + i * (W * numGpixelPhases) + 3 * j)
    (fun i j => by simp only [pix, numGpixelPhases]; ring) (by have := hfit.rightCols; omega)
    (length_frame (f := fun r c ch => sample v3 H c r ch)) (hw1.length.trans hout)
  obtain ⟨s3, hs3, hw3⟩ := filterBlock .vSmoothedRoi .smoothedRoi
    (a := plan.firstCol) (B := plan.numCols W) (fun i j => numGpixelPhases * plan.firstCol + i * (W * numGpixelPhases) + 3 * j)
    (fun i j => by simp only [pix, numGpixelPhases]; ring) ((hk _).trans hfit.hTaps)
    (by have := kernelTaps_odd hfit.hKernelIdx; have := hfit.hTaps; omega) hfit.firstCol hfit.numCols
    (length_frame (f := fun r c ch => sample v3 H c r ch)) (hw2.length.trans (hw1.length.trans hout))
  have hs3eq : s3 = frame H W (accelSmooth plan H W roi scratch.vSmoothedTransposedRoi out) :=
    eq_frame (hw3.length.trans (hw2.length.trans (hw1.length.trans hout)))
      fun r hr c hc ch hch => pass_pix (g := fun r c ch => accelLine plan.firstRow
          (plan.numRows H) plan.topRows plan.bottomRows H (fKernels.getD plan.vKernelIdx [])
          (fun r' => sample roi W r' c ch)
          (fun r' => sample scratch.vSmoothedTransposedRoi H c r' ch) r)
        (fun r hr c hc ch hch => by rw [← sample, sample_frame hr hc hch, hv3eq, sample_frame hc hr hch])
        ((hk _).trans hfit.hTaps) hfit.leftCols hfit.rightCols hfit.firstCol hfit.numCols hout
        hw1 hw2 hw3 hr hc hch
  simp only [smoothAccelerated, transposeRaw_eq hroi hT, ok_bind]
  rw [hv1, ok_bind, hv2, ok_bind, readAt_fKernels hfit.vKernelIdx, ok_bind, hv3, ok_bind,
    transposeRaw_eq hV3 hS, ok_bind, hs1, ok_bind, hs2, ok_bind,
    readAt_fKernels hfit.hKernelIdx, ok_bind, hs3, hs3eq]

end Routine

/-! ### The two plans -/

section Plans

variable {α : Type} [Field α] {roi vOld out : List α} {H W r c ch : Nat}

theorem plan5x7_fits (hH : 7 ≤ H) (hW : 5 ≤ W) (hH' : H < 2 ^ 32) (hW' : W < 2 ^ 32) :
    plan5x7.Fits H W where
  vKernelIdx := by decide
  vTaps := rfl
  topRows := by simp only [plan5x7]; omega
  bottomRows := by simp only [plan5x7]; omega
  firstRow := by simp only [plan5x7]; omega
  numRows := by simp only [plan5x7, u32]; omega
  hKernelIdx := by decide
  hTaps := rfl
  leftCols := by simp only [plan5x7]; omega
  rightCols := by simp only [plan5x7]; omega
  firstCol := by simp only [plan5x7]; omega
  numCols := by simp only [plan5x7, u32]; omega

theorem plan7x15_fits (hH : 16 ≤ H) (hW : 8 ≤ W) (hH' : H < 2 ^ 32) (hW' : W < 2 ^ 32) :
    plan7x15.Fits H W where
  vKernelIdx := by decide
  vTaps := rfl
  topRows := by simp only [plan7x15]; omega
  bottomRows := by simp only [plan7x15]; omega
  firstRow := by simp only [plan7x15]; omega
  numRows := by simp only [plan7x15, u32]; omega
  hKernelIdx := by decide
  hTaps := rfl
  leftCols := by simp only [plan7x15]; omega
  rightCols := by simp only [plan7x15]; omega
  firstCol := by simp only [plan7x15]; omega
  numCols := by simp only [plan7x15, u32]; omega

theorem length_fKernels_two : ((fKernels : List (List α)).getD 2 []).length = 5 := rfl
theorem length_fKernels_three : ((fKernels : List (List α)).getD 3 []).length = 7 := rfl
theorem length_fKernels_six : ((fKernels : List (List α)).getD 6 []).length = 15 := rfl

/-- **`smoothRaw5x7` smooths.** Its loops meet, its copies are as wide as the halves of its
kernels, so on every frame of at least `7 × 5` pixels it computes the separable smoothing with
kernel `2` along the rows and kernel `3` down the columns, whatever the pool and the
destination held. -/
theorem accelSmooth_plan5x7 (hH : 7 ≤ H) (hW : 5 ≤ W) (hH' : H < 2 ^ 32) (hW' : W < 2 ^ 32) :
    accelSmooth plan5x7 H W roi vOld out r c ch =
      separableSmooth (fKernels.getD 2 []) (fKernels.getD 3 []) H W roi r c ch := by
  have hrows : plan5x7.numRows H = H - 6 := by simp only [plan5x7, u32]; omega
  have hcols : plan5x7.numCols W = W - 4 := by simp only [plan5x7, u32]; omega
  unfold accelSmooth separableSmooth smoothRows smoothColumns
  rw [hrows, hcols, length_fKernels_two, length_fKernels_three]
  simp only [plan5x7, accelLine_cover (show 3 + (H - 6) = H - 3 by omega),
    accelLine_cover (show 2 + (W - 4) = W - 2 by omega)]

/-- The loops of `smoothRaw7x15` along the rows stop two columns short: columns `W - 5` and
`W - 4` keep the destination's old samples. -/
theorem accelSmooth_plan7x15_cols (hW : 8 ≤ W) (hW' : W < 2 ^ 32) (hc : W - 5 ≤ c)
    (hc' : c < W - 3) : accelSmooth plan7x15 H W roi vOld out r c ch = sample out W r c ch := by
  have hcols : plan7x15.numCols W = W - 8 := by simp only [plan7x15, u32]; omega
  unfold accelSmooth accelLine
  rw [hcols]
  simp only [plan7x15]
  rw [if_neg (by omega), if_neg (by omega), if_neg (by omega)]

/-- The loops of `smoothRaw7x15` down the columns stop two rows short: along rows `H - 9` and
`H - 8` the pass along the rows smooths what the pool left in the vertically smoothed frame,
whatever the input. -/
theorem accelSmooth_plan7x15_rows (hH : 16 ≤ H) (hH' : H < 2 ^ 32) (hr : H - 9 ≤ r)
    (hr' : r < H - 7) :
    accelSmooth plan7x15 H W roi vOld out r c ch =
      accelLine plan7x15.firstCol (plan7x15.numCols W) plan7x15.leftCols plan7x15.rightCols W
        (fKernels.getD plan7x15.hKernelIdx []) (fun c' => sample vOld H c' r ch)
        (fun c' => sample out W r c' ch) c := by
  have hrows : plan7x15.numRows H = H - 16 := by simp only [plan7x15, u32]; omega
  unfold accelSmooth
  congr 1
  funext c'
  unfold accelLine
  rw [hrows]
  simp only [plan7x15]
  rw [if_neg (by omega), if_neg (by omega), if_neg (by omega)]

end Plans

end RawToDepthDsp

end Cobra
