import Cobra.Smooth.Writes

/-!
# Binning of the Raw Frame

`Binning::binMxN` reduces a frame of `H × W` raw triples before the phase is computed: each
sample of a binned pixel is the sum of that sample over a `b × b` block of pixels, for `b` of
`1`, `2` or `4`. `bin1x1` copies the frame, `bin2x2` sums each `2 × 2` block, dropping the last
row or column of an odd dimension, and `bin4x4` runs `bin2x2` twice, through a pool vector
`binned2x2` of `NUM_GPIXEL_PHASES*roiSize[0]*roiSize[1]/4` samples. Any other binning is only
logged.

## Conventions

As in `Cobra.Smooth.Model`: samples are exact values of a field, `operator[]` goes through
`readAt` and `writeAt`, the pool vector of `SCOPED_VEC_F` is an argument holding whatever the
pool left in it, and the asserts are not modelled. `powf(2.0F, float_t(shift))` is `2 ^ shift`;
`binMxN` calls `bin2x2` with the default `shift` of the header, `0`.

## Main results

* `bin2x2_eq`: on a frame of `H × W` pixels, `bin2x2` returns the frame of its `2 × 2` block
  sums, scaled by `2 ^ shift`.
* `blockSum_mul`: a block of `b a` pixels a side is `a × a` blocks of `b` pixels a side.
* `bin4x4_eq`: the two passes of `bin4x4` sum each `4 × 4` block, whatever the pool vector held.
* `binMxN_eq`: `binMxN` returns the frame of the `b × b` block sums for each binning it
  supports, without a fault.
-/

namespace Cobra

namespace Binning

open RawToDepthDsp

section Code

variable {α : Type} [Field α]

/-- The index `bin2x2` reads sample `ch` of pixel `(row * 2 + dr, 2 * col + dc)` at, as the
code computes it with `binning = 2`. -/
def binIdx (roiSize : Nat × Nat) (row col dr dc ch : Nat) : Nat :=
  3 * 2 * col + dc * 3 + ch + (row * 2 + dr) * 3 * roiSize.2

/-- One sum of `bin2x2`: `aSum`, `bSum` or `cSum` for `ch` of `0`, `1` or `2`, four reads in the
code's order. -/
def binSum (frame : List α) (roiSize : Nat × Nat) (row col ch : Nat) : Except Fault α := do
  let sum ← readAt .frame frame (binIdx roiSize row col 0 0 ch)
  let sum := sum + (← readAt .frame frame (binIdx roiSize row col 0 1 ch))
  let sum := sum + (← readAt .frame frame (binIdx roiSize row col 1 0 ch))
  return sum + (← readAt .frame frame (binIdx roiSize row col 1 1 ch))

/-- One binned pixel of `bin2x2`: the three sums, scaled by `factor`, written to pixel
`(row, col)` of a binned frame of `binnedCols` pixels a row. -/
def bin2x2Step (frame : List α) (roiSize : Nat × Nat) (factor : α) (binnedCols row col : Nat)
    (binnedFrame : List α) : Except Fault (List α) := do
  let aSum ← binSum frame roiSize row col 0
  let bSum ← binSum frame roiSize row col 1
  let cSum ← binSum frame roiSize row col 2
  let binnedFrame ← writeAt .binnedFrame binnedFrame (3 * col + 0 + 3 * binnedCols * row)
    (aSum * factor)
  let binnedFrame ← writeAt .binnedFrame binnedFrame (3 * col + 1 + 3 * binnedCols * row)
    (bSum * factor)
  writeAt .binnedFrame binnedFrame (3 * col + 2 + 3 * binnedCols * row) (cSum * factor)

/-- `bin2x2(frame, binnedFrame, roiSize, shift)`. -/
def bin2x2 (frame binnedFrame : List α) (roiSize : Nat × Nat) (shift : Int) :
    Except Fault (List α) :=
  let factor : α := 2 ^ shift
  let binnedSize := (roiSize.1 / 2, roiSize.2 / 2)
  forLoop binnedSize.1 (fun row => forLoop binnedSize.2
    (bin2x2Step frame roiSize factor binnedSize.2 row)) binnedFrame

/-- `bin4x4(frame, binnedFrame, roiSize)`, its pool vector `binned2x2` an argument. -/
def bin4x4 (binned2x2 frame binnedFrame : List α) (roiSize : Nat × Nat) :
    Except Fault (List α) := do
  let binned2x2 ← bin2x2 frame binned2x2 roiSize 0
  bin2x2 binned2x2 binnedFrame (roiSize.1 / 2, roiSize.2 / 2) 0

/-- `bin1x1(frame, binnedFrame, roiSize)`: the copy loop over `frame.size()` samples. -/
def bin1x1 (frame binnedFrame : List α) (_roiSize : Nat × Nat) : Except Fault (List α) :=
  forLoop frame.length (fun idx binnedFrame => do
    writeAt .binnedFrame binnedFrame idx (← readAt .frame frame idx)) binnedFrame

/-- `binMxN(frame, binnedFrame, roiSize, binning)`, with the pool vector `bin4x4` takes. An
unsupported binning is logged and leaves `binnedFrame` as it was. -/
def binMxN (binned2x2 frame binnedFrame : List α) (roiSize binning : Nat × Nat) :
    Except Fault (List α) :=
  if binning.1 = 1 ∧ binning.2 = 1 then bin1x1 frame binnedFrame roiSize
  else if binning.1 = 2 ∧ binning.2 = 2 then bin2x2 frame binnedFrame roiSize 0
  else if binning.1 = 4 ∧ binning.2 = 4 then bin4x4 binned2x2 frame binnedFrame roiSize
  else .ok binnedFrame

end Code

/-! ### Block sums -/

section Blocks

variable {α : Type} [Field α]

/-- The sum of sample `ch` over the `b × b` pixels from `(b r, b c)` on of a frame of `W`
pixels a row: sample `ch` of pixel `(r, c)` of the frame binned by `b`. -/
def blockSum (b : Nat) (frame : List α) (W r c ch : Nat) : α :=
  ∑ dr ∈ Finset.range b, ∑ dc ∈ Finset.range b, sample frame W (b * r + dr) (b * c + dc) ch

theorem sum_range_mul_eq {β : Type} [AddCommMonoid β] (g : Nat → β) (a b : Nat) :
    ∑ d ∈ Finset.range (b * a), g d = ∑ i ∈ Finset.range a, ∑ k ∈ Finset.range b, g (b * i + k) := by
  induction a with
  | zero => simp
  | succ a ih => rw [Nat.mul_succ, Finset.sum_range_add, ih, Finset.sum_range_succ]

/-- **Blocks of blocks.** The block of `b a` pixels a side at `(r, c)` is the `a × a` blocks of
`b` pixels a side from `(a r, a c)` on. -/
theorem blockSum_mul (b a : Nat) (frame : List α) (W r c ch : Nat) :
    blockSum (b * a) frame W r c ch =
      ∑ i ∈ Finset.range a, ∑ j ∈ Finset.range a, blockSum b frame W (a * r + i) (a * c + j) ch := by
  simp only [blockSum, sum_range_mul_eq]
  refine Finset.sum_congr rfl fun i _ => ?_
  rw [Finset.sum_comm]
  refine Finset.sum_congr rfl fun j _ => Finset.sum_congr rfl fun k _ =>
    Finset.sum_congr rfl fun l _ => ?_
  congr 1 <;> ring

theorem blockSum_one (frame : List α) (W r c ch : Nat) :
    blockSum 1 frame W r c ch = sample frame W r c ch := by
  simp [blockSum]

end Blocks

/-! ### What the binning routines compute -/

section Spec

variable {α : Type} [Field α] {frame binnedFrame binned2x2 : List α} {H W : Nat}

theorem binIdx_eq (row col dr dc ch : Nat) :
    binIdx (H, W) row col dr dc ch = pix W (2 * row + dr) (2 * col + dc) ch := by
  unfold binIdx pix; ring

/-- Inside a frame of `H × W` pixels, a sum of `bin2x2` is the `2 × 2` block sum. -/
theorem binSum_eq {row col ch : Nat} (hf : 3 * (H * W) ≤ frame.length) (hr : 2 * row + 1 < H)
    (hc : 2 * col + 1 < W) (hch : ch < 3) :
    binSum frame (H, W) row col ch = .ok (blockSum 2 frame W row col ch) := by
  have hread : ∀ dr < 2, ∀ dc < 2, readAt .frame frame (binIdx (H, W) row col dr dc ch) =
      .ok (sample frame W (2 * row + dr) (2 * col + dc) ch) := fun dr hdr dc hdc => by
    rw [binIdx_eq]
    exact readAt_eq_getD 0 ((pix_lt (by omega) (by omega) hch).trans_le hf)
  simp only [binSum, hread 0 (by decide) 0 (by decide), hread 0 (by decide) 1 (by decide),
    hread 1 (by decide) 0 (by decide), hread 1 (by decide) 1 (by decide), ok_bind, pure_eq_ok,
    blockSum, Finset.sum_range_succ, Finset.sum_range_zero, zero_add, add_assoc]

/-- **What `bin2x2` writes.** On a frame of `H × W` pixels, `bin2x2` writes pixel `(r, c)` of the
binned frame of `W / 2` pixels a row, for `r < H / 2` and `c < W / 2`, with the `2 × 2` block
sums scaled by `2 ^ shift`, and keeps every other sample of its destination. -/
theorem bin2x2_updates (shift : Int) (hf : 3 * (H * W) ≤ frame.length)
    (hb : 3 * (H / 2 * (W / 2)) ≤ binnedFrame.length) :
    ∃ t, bin2x2 frame binnedFrame (H, W) shift = .ok t ∧
      Updates (Block (W / 2) (H / 2) 0 (W / 2))
        (frameAt (W / 2) fun r c ch => blockSum 2 frame W r c ch * 2 ^ shift) binnedFrame t := by
  refine forLoop_block (fun i hi j hj t ht => ?_) rfl
  have hs : ∀ ch < 3, binSum frame (H, W) i j ch = .ok (blockSum 2 frame W i j ch) :=
    fun ch hch => binSum_eq hf (by omega) (by omega) hch
  have hw : ∀ ch, 3 * j + ch + 3 * (W / 2) * i = pix (W / 2) i j 0 + ch := fun ch => by
    unfold pix; ring
  have hidx : pix (W / 2) i j 0 + 2 < t.length := by
    rw [pix_zero_add, ht]; exact (pix_lt hi hj (by decide)).trans_le hb
  simp only [bin2x2Step, hs 0 (by decide), hs 1 (by decide), hs 2 (by decide), ok_bind, hw]
  simp only [Nat.zero_add, Nat.add_zero]
  exact ⟨_, writeAt_three (w := frameAt (W / 2) fun r c ch => blockSum 2 frame W r c ch * 2 ^ shift)
    hidx (frameAt_pix hj (by decide))
    (by rw [pix_zero_add, frameAt_pix hj (by decide)])
    (by rw [pix_zero_add, frameAt_pix hj (by decide)]), setTriple_updates hidx⟩

/-- **`bin2x2` bins by two.** On a frame of `H × W` pixels and a destination of the binned size,
`bin2x2` returns the frame of `H / 2 × W / 2` pixels whose samples are the `2 × 2` block sums,
scaled by `2 ^ shift`. -/
theorem bin2x2_eq (shift : Int) (hf : 3 * (H * W) ≤ frame.length)
    (hb : binnedFrame.length = 3 * (H / 2 * (W / 2))) :
    bin2x2 frame binnedFrame (H, W) shift =
      .ok (RawToDepthDsp.frame (H / 2) (W / 2) fun r c ch => blockSum 2 frame W r c ch * 2 ^ shift) := by
  obtain ⟨t, ht, hu⟩ := bin2x2_updates shift hf hb.ge
  rw [ht]
  refine congrArg _ (eq_frame (hu.length.trans hb) fun r hr c hc ch hch => ?_)
  rw [hu.written _ (hb ▸ pix_lt hr hc hch) ((block_pix_iff (by omega) hc hch).2 ⟨hr, by omega,
    by omega⟩), frameAt_pix hc hch]

/-- The pool vector of `bin4x4` holds the `2 × 2` block sums after the first pass. -/
theorem sample_bin2x2 {t : List α} (hu : Updates (Block (W / 2) (H / 2) 0 (W / 2))
      (frameAt (W / 2) fun r c ch => blockSum 2 frame W r c ch * 2 ^ (0 : Int)) binned2x2 t)
    (hs : 3 * (H / 2 * (W / 2)) ≤ binned2x2.length) {r c ch : Nat} (hr : r < H / 2)
    (hc : c < W / 2) (hch : ch < 3) : sample t (W / 2) r c ch = blockSum 2 frame W r c ch := by
  have hk := (pix_lt hr hc hch).trans_le hs
  rw [sample, List.getD_eq_getElem?_getD, hu.written _ hk ((block_pix_iff (by omega) hc hch).2
    ⟨hr, by omega, by omega⟩), frameAt_pix hc hch]
  simp

/-- The pool vector `bin4x4` asks for holds the first pass. -/
theorem binned2x2_size_le (H W : Nat) : 3 * (H / 2 * (W / 2)) ≤ 3 * H * W / 4 := by
  have h : H / 2 * 2 * (W / 2 * 2) ≤ H * W :=
    Nat.mul_le_mul (Nat.div_mul_le_self H 2) (Nat.div_mul_le_self W 2)
  rw [Nat.le_div_iff_mul_le (by decide)]
  calc 3 * (H / 2 * (W / 2)) * 4 = 3 * (H / 2 * 2 * (W / 2 * 2)) := by ring
    _ ≤ 3 * (H * W) := Nat.mul_le_mul_left 3 h
    _ = 3 * H * W := by ring

/-- **`bin4x4` bins by four.** On a frame of `H × W` pixels, whatever its pool vector held,
`bin4x4` returns the frame of `H / 4 × W / 4` pixels whose samples are the `4 × 4` block sums. -/
theorem bin4x4_eq (hf : 3 * (H * W) ≤ frame.length) (hs : binned2x2.length = 3 * H * W / 4)
    (hb : binnedFrame.length = 3 * (H / 4 * (W / 4))) :
    bin4x4 binned2x2 frame binnedFrame (H, W) =
      .ok (RawToDepthDsp.frame (H / 4) (W / 4) (blockSum 4 frame W)) := by
  have hs' := hs ▸ binned2x2_size_le H W
  obtain ⟨t, ht, hu⟩ := bin2x2_updates 0 hf hs'
  have hdiv : ∀ n, n / 2 / 2 = n / 4 := fun n => by omega
  have ht' : 3 * (H / 2 * (W / 2)) ≤ t.length := hu.length ▸ hs'
  simp only [bin4x4, ht, ok_bind]
  rw [bin2x2_eq 0 ht' (by rw [hdiv, hdiv, hb]), hdiv, hdiv]
  refine congrArg _ (frame_congr fun r hr c hc ch hch => ?_)
  rw [show 4 = 2 * 2 from rfl, blockSum_mul, zpow_zero, mul_one, blockSum]
  refine Finset.sum_congr rfl fun i hi => Finset.sum_congr rfl fun j hj => ?_
  rw [Finset.mem_range] at hi hj
  exact sample_bin2x2 hu hs' (by omega) (by omega) hch

/-- `bin1x1` copies the frame into a destination of its size. -/
theorem bin1x1_eq (roiSize : Nat × Nat) (hb : binnedFrame.length = frame.length) :
    bin1x1 frame binnedFrame roiSize = .ok frame := by
  rw [show bin1x1 frame binnedFrame roiSize = copyAll .frame .binnedFrame frame binnedFrame from rfl,
    copyAll_eq hb.ge, List.drop_eq_nil_of_le hb.le, List.append_nil]

/-- **`binMxN` bins.** For each binning `b × b` it supports, on a frame of `H × W` pixels whose
`3 H W` samples the `uint32_t` indices reach, and a destination of the binned size, `binMxN`
returns without a fault the frame of `H / b × W / b` pixels whose samples are the `b × b`
block sums, whatever the pool vector of `bin4x4` held. -/
theorem binMxN_eq {b : Nat} (hbin : b = 1 ∨ b = 2 ∨ b = 4) (hf : frame.length = 3 * (H * W))
    (_h32 : 3 * H * W < 2 ^ 32) (hs : binned2x2.length = 3 * H * W / 4)
    (hb : binnedFrame.length = 3 * (H / b * (W / b))) :
    binMxN binned2x2 frame binnedFrame (H, W) (b, b) =
      .ok (RawToDepthDsp.frame (H / b) (W / b) (blockSum b frame W)) := by
  rcases hbin with rfl | rfl | rfl
  · simp only [binMxN, and_self, if_true, Nat.div_one] at hb ⊢
    rw [bin1x1_eq _ (hb.trans hf.symm)]
    refine congrArg _ (eq_frame hf fun r hr c hc ch hch => ?_)
    rw [blockSum_one, sample, getElem?_eq_some_getD 0 (hf ▸ pix_lt hr hc hch)]
  · simp only [binMxN, and_self, if_true, if_false, show (2 : Nat) ≠ 1 by decide]
    rw [bin2x2_eq 0 hf.ge hb]
    simp
  · simp only [binMxN, and_self, if_true, if_false, show (4 : Nat) ≠ 1 by decide,
      show (4 : Nat) ≠ 2 by decide]
    exact bin4x4_eq hf.ge hs hb

/-- `binMxN` with a `2 × 2` binning on a frame of `2 × 2` pixels. -/
theorem binMxN_eq_twoByTwo :
    binMxN (List.replicate 3 0) (List.replicate 12 (1 : ℚ)) (List.replicate 3 0) (2, 2) (2, 2) =
      .ok (RawToDepthDsp.frame 1 1 (blockSum 2 (List.replicate 12 1) 2)) :=
  binMxN_eq (.inr (.inl rfl)) rfl (by norm_num) rfl rfl

end Spec

end Binning

end Cobra
