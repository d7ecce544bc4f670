import Mathlib
import Cobra.Buffer
import Cobra.Metadata

/-!
# Smoothing of the Summed Raw Data: the Code

`RawToDepthDsp::smoothSummedData` smooths a frame of raw triples, `H` rows of `W` pixels of
three samples each, with a column kernel and a row kernel of `_fKernels`. The general path
`smoothRaw` convolves each column and then each row, copying the border rows and columns it
cannot convolve. For the kernel pairs `5 × 7` and `7 × 15` the accelerated routines
`smoothRaw5x7` and `smoothRaw7x15` do the same work on a transposed copy of the frame, border
by border and loop by loop. They differ from each other only in their constants, so both are
`smoothAccelerated` applied to their own `AccelPlan`.

## Conventions

Sample values are exact values of a field: the definitions compute over `ℚ`, and `_fKernels`
holds the exact decimals of its initialisers. Every `operator[]` goes through `readAt` and
`writeAt`. Indices are computed in `Nat`, except where the code mixes signed and unsigned
operands; there `u32` takes the `uint32_t` value, and so do the loop bounds that can wrap. The
running indices of the loops, such as `rowIdx++`, are written in closed form.
`SCOPED_VEC_F` hands out a pool vector of the requested size with whatever the pool held in
it. `smoothRaw` fills its vector with zeros; the accelerated routines do not, so their three
pool vectors are arguments (`Scratch`), of the size `paddedSize[0]*NUM_GPIXEL_PHASES*paddedSize[1]`
the routines ask for, computed in `uint32_t`. The asserts are not modelled. `_fKernels[VKERNEL_IDX]`
is read before the border copies in `smoothRaw5x7` and after them in `smoothRaw7x15`; the read
is always in range and changes no state, so `smoothAccelerated` reads it after them.
-/

namespace Cobra

namespace RawToDepthDsp

section Model

variable {α : Type} [Field α]

/-- `_fKernels`: the smoothing kernels, of `3`, `3`, `5`, `7`, `9`, `11` and `15` taps; kernel `0`
is the identity. -/
def fKernels : List (List α) :=
  [[0.0000000e+00, 1.0000000e+00, 0.0000000e+00],
   [1.9684139e-01, 6.0631722e-01, 1.9684139e-01],
   [6.646033000e-03, 1.942255544e-01, 5.982568252e-01, 1.942255544e-01, 6.646033000e-03],
   [4.433048175e-03, 5.400558262e-02, 2.420362294e-01, 3.990502797e-01, 2.420362294e-01,
    5.400558262e-02, 4.433048175e-03],
   [3.325727091e-03, 2.381792204e-02, 9.719199228e-02, 2.259781525e-01, 2.993724122e-01,
    2.259781525e-01, 9.719199228e-02, 2.381792204e-02, 3.325727091e-03],
   [2.661264666e-03, 1.344761071e-02, 4.740849576e-02, 1.166060837e-01, 2.000968398e-01,
    2.395594109e-01, 2.000968398e-01, 1.166060837e-01, 4.740849576e-02, 1.344761071e-02,
    2.661264666e-03],
   [1.901645579e-03, 6.275148539e-03, 1.723257069e-02, 3.938290545e-02, 7.490262923e-02,
    1.185544877e-01, 1.561602730e-01, 1.711806797e-01, 1.561602730e-01, 1.185544877e-01,
    7.490262923e-02, 3.938290545e-02, 1.723257069e-02, 6.275148539e-03, 1.901645579e-03]]

/-- The index of sample `ch` of pixel `(r, c)` in a frame of `W` columns. -/
def pix (W r c ch : Nat) : Nat := 3 * (r * W + c) + ch

/-! ### Building blocks -/

/-- Three consecutive samples written from `idx` on, sample `j` computed by `val j` just
before its write, as `transposeRaw` and the accelerated loops write a pixel. -/
def writeTriple (b : Buf) (dst : List α) (idx : Nat) (val : Nat → Except Fault α) :
    Except Fault (List α) := do
  let dst ← writeAt b dst idx (← val 0)
  let dst ← writeAt b dst (idx + 1) (← val 1)
  writeAt b dst (idx + 2) (← val 2)

/-- One pixel copied from `src` to `dst` at `idx`. -/
def copyTriple (srcBuf dstBuf : Buf) (src : List α) (idx : Nat) (dst : List α) :
    Except Fault (List α) :=
  writeTriple dstBuf dst idx fun j => readAt srcBuf src (idx + j)

/-- The macros `sum5`, `sum7` and `sum15`, on `n` taps: the samples of `roi` three apart
around `idx`, weighted by the kernel `k` and summed in order from the first. Every call site
has `idx` at least `3 (n / 2)`. -/
def sumTaps (b : Buf) (n : Nat) (roi : List α) (idx : Nat) (k : List α) : Except Fault α := do
  let base := idx - 3 * (n / 2)
  let first := (← readAt b roi base) * (← readAt .kernel k 0)
  forLoop (n - 1) (fun m sum => do
    return sum + (← readAt b roi (base + 3 * (m + 1))) * (← readAt .kernel k (m + 1))) first

def sum5 (b : Buf) (roi : List α) (idx : Nat) (k : List α) : Except Fault α := sumTaps b 5 roi idx k
def sum7 (b : Buf) (roi : List α) (idx : Nat) (k : List α) : Except Fault α := sumTaps b 7 roi idx k
def sum15 (b : Buf) (roi : List α) (idx : Nat) (k : List α) : Except Fault α :=
  sumTaps b 15 roi idx k

/-- One pixel of a filter loop: sample `j` is the tap sum at `idx + j`. -/
def filterTriple (srcBuf dstBuf : Buf) (n : Nat) (src k : List α) (idx : Nat) (dst : List α) :
    Except Fault (List α) :=
  writeTriple dstBuf dst idx fun j => sumTaps srcBuf n src (idx + j) k

/-- One pixel of `transposeRaw`: pixel `(rowIdx, colIdx)` of a frame of `size.1` rows and
`size.2` columns goes to row `colIdx`, column `rowIdx` of the transposed frame. -/
def transposeStep (roi : List α) (size : Nat × Nat) (rowIdx colIdx : Nat) (roiT : List α) :
    Except Fault (List α) :=
  let inIdx := rowIdx * (size.2 * 3) + 3 * colIdx
  let outIdx := 3 * rowIdx + colIdx * (size.1 * 3)
  writeTriple .roiT roiT outIdx fun j => readAt .roi roi (inIdx + j)

/-- `transposeRaw(roi, roi_t, size)`. -/
def transposeRaw (roi roiT : List α) (size : Nat × Nat) : Except Fault (List α) :=
  forLoop size.1 (fun rowIdx => forLoop size.2 (transposeStep roi size rowIdx)) roiT

/-! ### The general path -/

/-- One kernel tap of a convolution of `smoothRaw`: the three samples at `base + j` and the
tap's offset, each weighted by tap `j`. -/
def kernelTap (srcBuf : Buf) (src kernel : List α) (base : Nat) (offset : Int) (j : Nat)
    (prods : α × α × α) : Except Fault (α × α × α) := do
  let p0 := prods.1 + (← readAt .kernel kernel j) * (← readAt srcBuf src (u32 (base + 0 + offset)))
  let p1 := prods.2.1 + (← readAt .kernel kernel j) * (← readAt srcBuf src (u32 (base + 1 + offset)))
  let p2 := prods.2.2 + (← readAt .kernel kernel j) * (← readAt srcBuf src (u32 (base + 2 + offset)))
  return (p0, p1, p2)

/-- One pixel of the column pass of `smoothRaw` (axis 0): a pixel of the first or last `half`
rows is copied, any other is convolved down its column; the row counter moves on after the
last pixel of a row. -/
def columnPassStep (roiSummed columnKernel : List α) (numRows numCols : Nat) (half evenComp : Int)
    (pixelIndex : Nat) (st : List α × Nat) : Except Fault (List α × Nat) := do
  let (temp, currentrowIdx) := st
  let prods ← if (currentrowIdx : Int) < half ∨ u32 (numRows - half) ≤ currentrowIdx then
      pure (← readAt .roiSummed roiSummed (3 * pixelIndex),
        ← readAt .roiSummed roiSummed (3 * pixelIndex + 1),
        ← readAt .roiSummed roiSummed (3 * pixelIndex + 2))
    else (forLoop (2 * half + 1 + evenComp).toNat
      (fun (j : Nat) => kernelTap .roiSummed roiSummed columnKernel (3 * pixelIndex)
        (3 * ((j : Int) - half) * numCols) j) (0, 0, 0))
  let temp ← writeAt .roiSmoothedTemp temp (3 * pixelIndex) prods.1
  let temp ← writeAt .roiSmoothedTemp temp (3 * pixelIndex + 1) prods.2.1
  let temp ← writeAt .roiSmoothedTemp temp (3 * pixelIndex + 2) prods.2.2
  return (temp, if numCols - 1 ≤ pixelIndex % numCols then currentrowIdx + 1 else currentrowIdx)

/-- One pixel of the row pass of `smoothRaw` (axis 1): a pixel of the first or last `half`
columns is copied, any other is convolved along its row. -/
def rowPassStep (temp rowKernel : List α) (numCols : Nat) (half evenComp : Int)
    (pixelIndex : Nat) (roiSmoothed : List α) : Except Fault (List α) := do
  let realPixelIndexInRow : Int := pixelIndex % numCols
  let prods ← if realPixelIndexInRow < half ∨ (u32 (numCols - half) : Int) ≤ realPixelIndexInRow
    then
      pure (← readAt .roiSmoothedTemp temp (3 * pixelIndex),
        ← readAt .roiSmoothedTemp temp (3 * pixelIndex + 1),
        ← readAt .roiSmoothedTemp temp (3 * pixelIndex + 2))
    else (forLoop (2 * half + 1 + evenComp).toNat
      (fun (j : Nat) => kernelTap .roiSmoothedTemp temp rowKernel (3 * pixelIndex)
        (3 * ((j : Int) - half)) j) (0, 0, 0))
  let roiSmoothed ← writeAt .roiSmoothed roiSmoothed (3 * pixelIndex) prods.1
  let roiSmoothed ← writeAt .roiSmoothed roiSmoothed (3 * pixelIndex + 1) prods.2.1
  writeAt .roiSmoothed roiSmoothed (3 * pixelIndex + 2) prods.2.2

/-- `smoothRaw(roiSummed, roiSmoothed, size, _rowKernelIdx, _columnKernelIdx)`. -/
def smoothRaw (roiSummed roiSmoothed : List α) (size : Nat × Nat)
    (rowKernelIdx columnKernelIdx : Nat) : Except Fault (List α) := do
  let numRows := size.1
  let numCols := size.2
  let numPixels := numRows * numCols
  let roiSmoothed := List.replicate roiSmoothed.length (0 : α)
  let rowKernel ← readAt .fKernels fKernels rowKernelIdx
  let columnKernel ← readAt .fKernels fKernels columnKernelIdx
  let rowKernelSize : Int := rowKernel.length
  let columnKernelSize : Int := columnKernel.length
  let temp := List.replicate roiSummed.length (0 : α)
  let rowKernelEvenComp : Int := if rowKernelSize % 2 = 0 then -1 else 0
  let rowKernelHalfSize : Int :=
    if rowKernelSize % 2 = 0 then rowKernelSize / 2 + 1 else (rowKernelSize - 1) / 2
  let columnKernelEvenComp : Int := if columnKernelSize % 2 = 0 then -1 else 0
  let columnKernelHalfSize : Int :=
    if columnKernelSize % 2 = 0 then columnKernelSize / 2 else (columnKernelSize - 1) / 2
  let (temp, _) ← forLoop numPixels
    (columnPassStep roiSummed columnKernel numRows numCols columnKernelHalfSize
      columnKernelEvenComp) (temp, 0)
  forLoop numPixels (rowPassStep temp rowKernel numCols rowKernelHalfSize rowKernelEvenComp)
    roiSmoothed

/-! ### The accelerated paths -/

/-- The constants of an accelerated smoothing routine: its two kernels and their taps, how
many border rows and columns it copies, and where and how far its two filter loops run. -/
structure AccelPlan where
  vKernelIdx : Nat
  vTaps : Nat
  topRows : Nat
  bottomRows : Nat
  firstRow : Nat
  numRows : Nat → Nat
  hKernelIdx : Nat
  hTaps : Nat
  leftCols : Nat
  rightCols : Nat
  firstCol : Nat
  numCols : Nat → Nat

/-- The three pool vectors an accelerated routine takes with `SCOPED_VEC_F`, each of the `n`
samples it asks for and holding whatever the pool left in it. -/
structure Scratch (α : Type) (n : Nat) where
  transposedRoi : List α
  vSmoothedTransposedRoi : List α
  vSmoothedRoi : List α
  length_transposedRoi : transposedRoi.length = n
  length_vSmoothedTransposedRoi : vSmoothedTransposedRoi.length = n
  length_vSmoothedRoi : vSmoothedRoi.length = n

/-- A pool whose three vectors hold zeros. -/
def Scratch.zeros (n : Nat) : Scratch α n :=
  ⟨List.replicate n 0, List.replicate n 0, List.replicate n 0, List.length_replicate _ _,
    List.length_replicate _ _, List.length_replicate _ _⟩

/-- An accelerated smoothing routine: transpose, copy the top and bottom rows, filter down the
columns, transpose back, copy the left and right columns, and filter along the rows. -/
def smoothAccelerated (plan : AccelPlan) (roi smoothedRoi : List α) (size : Nat × Nat)
    (scratch : Scratch α (u32 (size.1 * numGpixelPhases * size.2))) : Except Fault (List α) := do
  let transposedRoi ← transposeRaw roi scratch.transposedRoi size
  let rowPitch := size.1 * numGpixelPhases
  let v ← forLoop size.2 (fun colIdx => forLoop plan.topRows fun rowCount =>
      copyTriple .transposedRoi .vSmoothedTransposedRoi transposedRoi
        (colIdx * rowPitch + 3 * rowCount)) scratch.vSmoothedTransposedRoi
  let v ← forLoop size.2 (fun colIdx => forLoop plan.bottomRows fun rowCount =>
      copyTriple .transposedRoi .vSmoothedTransposedRoi transposedRoi
        (numGpixelPhases * (size.1 - plan.bottomRows) + colIdx * rowPitch + 3 * rowCount)) v
  let vKernel ← readAt .fKernels fKernels plan.vKernelIdx
  let v ← forLoop size.2 (fun colIdx => forLoop (plan.numRows size.1) fun rowCount =>
      filterTriple .transposedRoi .vSmoothedTransposedRoi plan.vTaps transposedRoi vKernel
        (numGpixelPhases * plan.firstRow + colIdx * rowPitch + 3 * rowCount)) v
  let vSmoothedRoi ← transposeRaw v scratch.vSmoothedRoi (size.2, size.1)
  let colPitch := size.2 * numGpixelPhases
  let s ← forLoop size.1 (fun rowIdx => forLoop plan.leftCols fun colCount =>
      copyTriple .vSmoothedRoi .smoothedRoi vSmoothedRoi (rowIdx * colPitch + 3 * colCount))
    smoothedRoi
  let s ← forLoop size.1 (fun rowIdx => forLoop plan.rightCols fun colCount =>
      copyTriple .vSmoothedRoi .smoothedRoi vSmoothedRoi
        (numGpixelPhases * (size.2 - plan.rightCols) + rowIdx * colPitch + 3 * colCount)) s
  let hKernel ← readAt .fKernels fKernels plan.hKernelIdx
  forLoop size.1 (fun rowIdx => forLoop (plan.numCols size.2) fun colCount =>
      filterTriple .vSmoothedRoi .smoothedRoi plan.hTaps vSmoothedRoi hKernel
        (numGpixelPhases * plan.firstCol + rowIdx * colPitch + 3 * colCount)) s

/-- The constants of `smoothRaw5x7`: kernel `3` down the columns and kernel `2` along the
rows, three border rows and two border columns, `H - 6` rows and `W - 4` columns filtered. -/
def plan5x7 : AccelPlan where
  vKernelIdx := 3
  vTaps := 7
  topRows := 7 / 2
  bottomRows := 3
  firstRow := 3
  numRows H := u32 (H - 6)
  hKernelIdx := 2
  hTaps := 5
  leftCols := 2
  rightCols := 2
  firstCol := 2
  numCols W := u32 (W - 4)

/-- The constants of `smoothRaw7x15`: kernel `6` down the columns and kernel `3` along the
rows, seven border rows and three border columns, `H - 15 - 1` rows and `W - 7 - 1` columns
filtered. -/
def plan7x15 : AccelPlan where
  vKernelIdx := 6
  vTaps := 15
  topRows := 7
  bottomRows := 7
  firstRow := 15 / 2
  numRows H := u32 (H - 15 - 1)
  hKernelIdx := 3
  hTaps := 7
  leftCols := 3
  rightCols := 7 / 2
  firstCol := 7 / 2
  numCols W := u32 (W - 7 - 1)

/-- `smoothRaw5x7(roi, smoothedRoi, size)`. -/
def smoothRaw5x7 (roi smoothedRoi : List α) (size : Nat × Nat)
    (scratch : Scratch α (u32 (size.1 * numGpixelPhases * size.2))) : Except Fault (List α) :=
  smoothAccelerated plan5x7 roi smoothedRoi size scratch

/-- `smoothRaw7x15(roi, smoothedRoi, size)`. -/
def smoothRaw7x15 (roi smoothedRoi : List α) (size : Nat × Nat)
    (scratch : Scratch α (u32 (size.1 * numGpixelPhases * size.2))) : Except Fault (List α) :=
  smoothAccelerated plan7x15 roi smoothedRoi size scratch

/-! ### The entry point -/

/-- `std::copy(roiSummed.begin(), roiSummed.end(), roiSmoothed.begin())`. -/
def copySummed (roiSummed roiSmoothed : List α) : Except Fault (List α) :=
  forLoop roiSummed.length (fun i dst => do
    writeAt .roiSmoothed dst i (← readAt .roiSummed roiSummed i)) roiSmoothed

/-- `smoothSummedData(roiSummed, roiSmoothed, size, _rowKernelIdx, _columnKernelIdx,
doAcceleratedVersion)`, the pool vectors of the accelerated routines given. -/
def smoothSummedData (roiSummed roiSmoothed : List α) (size : Nat × Nat)
    (rowKernelIdx columnKernelIdx : Nat) (doAcceleratedVersion : Bool)
    (scratch : Scratch α (u32 (size.1 * numGpixelPhases * size.2))) : Except Fault (List α) := do
  let roiSmoothed := List.replicate roiSmoothed.length (0 : α)
  let rowKernel ← readAt .fKernels (fKernels : List (List α)) rowKernelIdx
  let columnKernel ← readAt .fKernels (fKernels : List (List α)) columnKernelIdx
  if (rowKernelIdx = 0 ∧ columnKernelIdx = 0) ∨
      (size.2 < rowKernel.length ∨ size.1 < columnKernel.length) then
    return ← copySummed roiSummed roiSmoothed
  if rowKernel.length = 5 ∧ columnKernel.length = 7 ∧ doAcceleratedVersion then
    return ← smoothRaw5x7 roiSummed roiSmoothed size scratch
  if rowKernel.length = 7 ∧ columnKernel.length = 15 ∧ doAcceleratedVersion then
    return ← smoothRaw7x15 roiSummed roiSmoothed size scratch
  smoothRaw roiSummed roiSmoothed size rowKernelIdx columnKernelIdx

end Model

/-! ### What the smoothing is for -/

section Spec

variable {α : Type} [Field α]

/-- The convolution of `f` with the kernel `k`, centred on `x`: tap `m` weighs `f` at
`x + m - k.length / 2`. -/
def convolve (k : List α) (f : Nat → α) (x : Nat) : α :=
  ((List.range k.length).map fun m => k.getD m 0 * f (x + m - k.length / 2)).sum

/-- The column pass of the separable smoothing: the first and last `k.length / 2` rows are
copied, every other row is convolved down its column. -/
def smoothColumns (k : List α) (H : Nat) (f : Nat → Nat → Nat → α) (r c ch : Nat) : α :=
  if r < k.length / 2 ∨ H - k.length / 2 ≤ r then f r c ch
  else convolve k (fun r' => f r' c ch) r

/-- The row pass of the separable smoothing: the first and last `k.length / 2` columns are
copied, every other column is convolved along its row. -/
def smoothRows (k : List α) (W : Nat) (f : Nat → Nat → Nat → α) (r c ch : Nat) : α :=
  if c < k.length / 2 ∨ W - k.length / 2 ≤ c then f r c ch
  else convolve k (fun c' => f r c' ch) c

/-- The sample `(r, c, ch)` of a frame of `W` columns, `0` past its end. -/
def sample (src : List α) (W r c ch : Nat) : α := src.getD (pix W r c ch) 0

/-- **The separable smoothing** of a frame of `H × W` pixels with the row kernel `rk` and the
column kernel `ck`, border rows and columns copied. -/
def separableSmooth (rk ck : List α) (H W : Nat) (src : List α) (r c ch : Nat) : α :=
  smoothRows rk W (smoothColumns ck H (sample src W)) r c ch

end Spec

end RawToDepthDsp

end Cobra
