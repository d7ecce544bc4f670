import Cobra.Smooth.Accelerated
import Cobra.WindowFilter

/-!
# The Plus-Shaped Median Filter

`RawToDepthDsp::medianFilterPlus` removes the ghosts of the range frame. It copies the input
frame to the output, and when `performGhostMedian` is set it replaces each pixel a plus-shaped
window fits around by the median of the window: the line of `hFilterSize` pixels through it and
the column of `vFilterSize` pixels through it, the sizes those of the smoothing kernels, made odd.
The window's offsets come from `getMedianOffsets`; the points are gathered into a pool vector and
`median` sorts them and takes the middle one. Every window is read from the input, so the
filter is not recursive.

## Conventions

As in `Cobra.MinMax`: values are exact values of an ordered field, `operator[]` goes through
`readAt` and `writeAt`, and the running index is `centerIdx`. The index `idx + pointOffsets[i]`
is an `int` converted to `size_t` (`sizeT`). `std::sort` is `List.insertionSort`, which sorts
the same multiset the same way. The tables `getMedianOffsets` fills are the lists its loops fill
(`medianOffsets`); the pool vector `points` is an argument holding whatever the pool left in it.

## Main results

* `medianValue_spec`: the median of a nonempty list is one of its values with at most half of
  them below it and at most half above it.
* `medianValue_of_majority`: a value held by more than half of the points is their median.
* `medianFilterPlus_eq`: what the filter returns, pixel by pixel, without a fault.
* `medianFilterPlus_majority`: a pixel whose window holds one value at more than half of its
  points takes that value, and a pixel the window does not fit around keeps its own.
-/

namespace Cobra

namespace RawToDepthDsp

section Code

variable {α : Type} [LinearOrderedField α]

/-- The table of `getMedianOffsets`: the offsets of the plus-shaped window of `vFilterSize`
pixels down and `hFilterSize` across, in the order its three loops fill it: the line through
the center from left to right, then the pixels above it from the top, then those below. -/
def medianOffsets (vFilterSize hFilterSize rowPitch : Nat) : List Int :=
  ((List.range hFilterSize).map fun (j : Nat) => (j : Int) - (hFilterSize / 2 : Nat)) ++
    ((List.range (vFilterSize / 2)).map fun (i : Nat) =>
      ((i : Int) - (vFilterSize / 2 : Nat)) * rowPitch) ++
    ((List.range (vFilterSize / 2)).map fun (i : Nat) => ((i : Int) + 1) * rowPitch)

/-- The filter sizes of `getMedianOffsets` and `medianFilterPlus`: the sizes of the kernels
`_fKernels[kernelIndices[0]]` across and `_fKernels[kernelIndices[1]]` down, made odd. -/
def medianFilterSizes (kernelIndices : Nat × Nat) : Except Fault (Nat × Nat) := do
  let hFilterSize := (← readAt .fKernels (fKernels : List (List α)) kernelIndices.1).length ||| 1
  let vFilterSize := (← readAt .fKernels (fKernels : List (List α)) kernelIndices.2).length ||| 1
  return (hFilterSize, vFilterSize)

/-- `getMedianOffsets(frameSize, kernelIndices)`. -/
def getMedianOffsets (frameSize : Nat × Nat) (kernelIndices : Nat × Nat) :
    Except Fault (List Int) := do
  let (hFilterSize, vFilterSize) ← medianFilterSizes (α := α) kernelIndices
  return medianOffsets vFilterSize hFilterSize frameSize.2

/-- `median(points)`: sorts `points` in place and returns its middle element. -/
def median (points : List α) : Except Fault (α × List α) := do
  let points := points.insertionSort (· ≤ ·)
  return (← readAt .points points (points.length / 2), points)

/-- One visit of `medianFilterPlus`: gather the window's points, write their median. -/
def medianVisit (inFrame : List α) (pointOffsets : List Int) (idx : Nat)
    (s : List α × List α) : Except Fault (List α × List α) := do
  let (outFrame, points) := s
  let points ← forLoop pointOffsets.length (fun pointIdx points => do
    let offset ← readAt .pointOffsets pointOffsets pointIdx
    writeAt .points points pointIdx (← readAt .inFrame inFrame (sizeT (idx + offset)))) points
  let (val, points) ← median points
  let outFrame ← writeAt .outFrame outFrame idx val
  return (outFrame, points)

/-- `medianFilterPlus(inFrame, outFrame, kernelIndices, frameSize, performGhostMedian)`, with the
pool vector `points`. -/
def medianFilterPlus (inFrame outFrame : List α) (kernelIndices : Nat × Nat)
    (frameSize : Nat × Nat) (performGhostMedian : Bool) (points : List α) :
    Except Fault (List α) := do
  let outFrame ← copyAll .inFrame .outFrame inFrame outFrame
  if !performGhostMedian then return outFrame
  let (hFilterSize, vFilterSize) ← medianFilterSizes (α := α) kernelIndices
  let pointOffsets ← getMedianOffsets (α := α) frameSize kernelIndices
  let rowPitch := frameSize.2
  let numRows : Int := (frameSize.1 : Int) - vFilterSize + 1
  let numColumns : Int := (frameSize.2 : Int) - hFilterSize + 1
  if numRows ≤ 0 ∨ numColumns ≤ 0 then return outFrame
  let (outFrame, _) ← forLoop numRows.toNat (fun rowIdx => forLoop numColumns.toNat fun colIdx =>
    medianVisit inFrame pointOffsets (centerIdx rowPitch vFilterSize hFilterSize rowIdx colIdx))
    (outFrame, points)
  return outFrame

end Code

/-! ### The median of a list -/

section Median

variable {α : Type} [LinearOrder α] [Zero α]

/-- The median the code computes, as a value: the middle of the sorted points. -/
def medianValue (points : List α) : α :=
  (points.insertionSort (· ≤ ·)).getD (points.length / 2) 0

/-- **The median is a median.** The median of a nonempty list is one of its values, with at
most half of the values strictly below it and at most half strictly above it. -/
theorem medianValue_spec {points : List α} (hne : points ≠ []) :
    medianValue points ∈ points ∧
      points.countP (fun x => decide (x < medianValue points)) ≤ points.length / 2 ∧
      points.countP (fun x => decide (medianValue points < x)) ≤ points.length / 2 := by
  set s := points.insertionSort (· ≤ ·)
  have hperm : s.Perm points := List.perm_insertionSort _ _
  have hsort : s.Sorted (· ≤ ·) := List.sorted_insertionSort _ _
  have hlen : s.length = points.length := hperm.length_eq
  have hk : points.length / 2 < s.length := by
    rw [hlen]; exact Nat.div_lt_self (List.length_pos.2 hne) (by decide)
  have hm : medianValue points = s[points.length / 2] := by
    rw [medianValue, List.getD_eq_getElem _ _ hk]
  rw [← hperm.countP_eq, ← hperm.countP_eq, hm]
  set m := s[points.length / 2]
  have hsplit := List.take_append_drop (points.length / 2) s
  rw [List.drop_eq_getElem_cons hk] at hsplit
  have hsort' := hsplit ▸ hsort
  rw [List.Sorted, List.pairwise_append, List.pairwise_cons] at hsort'
  obtain ⟨-, ⟨hrest, -⟩, hcross⟩ := hsort'
  have hbefore : ∀ x ∈ s.take (points.length / 2), x ≤ m :=
    fun x hx => hcross x hx m (List.mem_cons_self _ _)
  refine ⟨hperm.subset (List.getElem_mem _), ?_, ?_⟩
  · have h0 : (s.drop (points.length / 2 + 1)).countP (fun x => decide (x < m)) = 0 :=
      List.countP_eq_zero.2 fun x hx => by simpa using hrest x hx
    rw [← hsplit, List.countP_append, List.countP_cons, if_neg (by simp), h0]
    calc _ ≤ (s.take (points.length / 2)).length := List.countP_le_length _
      _ ≤ points.length / 2 := List.length_take_le _ _
  · have h0 : (s.take (points.length / 2)).countP (fun x => decide (m < x)) = 0 :=
      List.countP_eq_zero.2 fun x hx => by simpa using hbefore x hx
    rw [← hsplit, List.countP_append, List.countP_cons, if_neg (by simp), h0, Nat.zero_add,
      Nat.add_zero]
    calc _ ≤ (s.drop (points.length / 2 + 1)).length := List.countP_le_length _
      _ ≤ points.length / 2 := by rw [List.length_drop, hlen]; omega

/-- **A majority is the median.** A value held by more than half of the points is their
median. -/
theorem medianValue_of_majority {points : List α} {x : α}
    (hx : points.length < 2 * points.count x) : medianValue points = x := by
  have hne : points ≠ [] := by rintro rfl; simp at hx
  obtain ⟨-, hlt, hgt⟩ := medianValue_spec hne
  have hcount : ∀ p : α → Bool, p x → points.count x ≤ points.countP p := fun p hp => by
    rw [List.count_eq_countP]
    exact List.countP_mono_left fun y _ hy => by rwa [beq_iff_eq.1 hy]
  rcases lt_trichotomy x (medianValue points) with h | h | h
  · have := hcount (fun y => decide (y < medianValue points)) (decide_eq_true h); omega
  · exact h.symm
  · have := hcount (fun y => decide (medianValue points < y)) (decide_eq_true h); omega

end Median

/-! ### What the filter computes -/

section Filter

variable {α : Type} [LinearOrderedField α] {H W v h r c : Nat}

/-- The pixels of the plus-shaped window of the pixel `medianFilterPlus` visits at `(r, c)` of
its loops, in the order of `getMedianOffsets`: the line through it, the pixels above it and the
pixels below it. -/
def plusWindow (W v h r c : Nat) : List Nat :=
  ((List.range h).map fun j => (v / 2 + r) * W + (c + j)) ++
    ((List.range (v / 2)).map fun i => (r + i) * W + (h / 2 + c)) ++
    ((List.range (v / 2)).map fun i => (v / 2 + r + 1 + i) * W + (h / 2 + c))

theorem length_medianOffsets (v h W : Nat) :
    (medianOffsets v h W).length = h + 2 * (v / 2) := by
  simp [medianOffsets]; omega

/-- The window's pixels lie in the frame. -/
theorem plusWindow_lt {q : Nat} (hv : v % 2 = 1) (hh : h % 2 = 1) (hr : r + v ≤ H) (hc : c + h ≤ W)
    (hq : q ∈ plusWindow W v h r c) : q < H * W := by
  simp only [plusWindow, List.mem_append, List.mem_map, List.mem_range] at hq
  rcases hq with (⟨j, hj, rfl⟩ | ⟨i, hi, rfl⟩) | ⟨i, hi, rfl⟩ <;>
    exact pixel_lt (by omega) (by omega)

/-- The table of `getMedianOffsets` points, from the pixel `medianFilterPlus` visits at `(r, c)`,
at the pixels of the plus-shaped window, in a frame addressable in `uint32_t`. -/
theorem medianOffsets_map (hv : v % 2 = 1) (hh : h % 2 = 1) (hr : r + v ≤ H) (hc : c + h ≤ W)
    (hHW : H * W ≤ 2 ^ 32) :
    (medianOffsets v h W).map (fun off => sizeT (centerIdx W v h r c + off)) =
      plusWindow W v h r c := by
  have hb : ∀ (off : Int) (row col : Nat), (centerIdx W v h r c : Int) + off = row * W + col →
      row < H → col < W → sizeT (centerIdx W v h r c + off) = row * W + col :=
    fun off row col he hrow hcol => by
      have := pixel_lt hrow hcol
      rw [he, show (row : Int) * W + col = ((row * W + col : Nat) : Int) by push_cast; rfl,
        sizeT_of_lt (by positivity) (by omega)]
      rfl
  simp only [medianOffsets, plusWindow, List.map_append, List.map_map]
  congr 1; congr 1
  · refine List.map_congr_left fun j hj => hb _ _ _ ?_ (by omega) (by simp at hj; omega)
    rw [centerIdx_eq]; push_cast; ring
  · refine List.map_congr_left fun i hi => hb _ _ _ ?_ (by simp at hi; omega) (by omega)
    rw [centerIdx_eq]; push_cast; ring
  · refine List.map_congr_left fun i hi => hb _ _ _ ?_ (by simp at hi; omega) (by omega)
    rw [centerIdx_eq]; push_cast; ring

theorem medianFilterSizes_eq {i j : Nat} (hi : i < 7) (hj : j < 7) :
    medianFilterSizes (α := α) (i, j) = .ok (kernelTaps.getD i 0, kernelTaps.getD j 0) := by
  simp only [medianFilterSizes, readAt_fKernels hi, readAt_fKernels hj, ok_bind,
    length_fKernels_getD, lor_one_of_odd (kernelTaps_odd hi).1, lor_one_of_odd (kernelTaps_odd hj).1]
  rfl

theorem median_eq {points : List α} (hne : points ≠ []) :
    median points = .ok (medianValue points, points.insertionSort (· ≤ ·)) := by
  have hlen := (List.perm_insertionSort (· ≤ ·) points).length_eq
  have hk : points.length / 2 < (points.insertionSort (· ≤ ·)).length := by
    rw [hlen]; exact Nat.div_lt_self (List.length_pos.2 hne) (by decide)
  simp only [median, hlen]
  rw [readAt_eq_getD 0 hk]
  rfl

/-- The gathering loop of a visit reads the window's values into the pool vector. -/
theorem gather_eq {inFrame points : List α} {pointOffsets : List Int} {idx : Nat}
    (hpts : points.length = pointOffsets.length)
    (hread : ∀ off ∈ pointOffsets, sizeT (idx + off) < inFrame.length) :
    forLoop pointOffsets.length (fun pointIdx points => do
      let offset ← readAt .pointOffsets pointOffsets pointIdx
      writeAt .points points pointIdx (← readAt .inFrame inFrame (sizeT (idx + offset)))) points =
      .ok ((pointOffsets.map fun off => sizeT (idx + off)).map fun q => inFrame.getD q 0) := by
  rw [List.map_map, ← map_getD_range pointOffsets 0]
  refine forLoop_set_all _ (fun n hn t ht => ?_) hpts
  have hmem : pointOffsets.getD n 0 ∈ pointOffsets := by
    rw [List.getD_eq_getElem _ _ hn]; exact List.getElem_mem _
  rw [readAt_eq_getD 0 hn, ok_bind, readAt_eq_getD 0 (hread _ hmem), ok_bind,
    writeAt_of_lt (ht ▸ hn)]
  rfl

/-- One visit of `medianFilterPlus` writes the median of its window's values in the input. -/
theorem medianVisit_eq {inFrame t points : List α} (hv : v % 2 = 1) (hh : h % 2 = 1)
    (hr : r + v ≤ H) (hc : c + h ≤ W) (hHW : H * W ≤ 2 ^ 32) (hin : inFrame.length = H * W)
    (ht : t.length = H * W) (hpts : points.length = (medianOffsets v h W).length) :
    medianVisit inFrame (medianOffsets v h W) (centerIdx W v h r c) (t, points) =
      .ok (t.set (centerIdx W v h r c)
          (medianValue ((plusWindow W v h r c).map fun q => inFrame.getD q 0)),
        ((plusWindow W v h r c).map fun q => inFrame.getD q 0).insertionSort (· ≤ ·)) := by
  have hmap := medianOffsets_map hv hh hr hc hHW
  have hread : ∀ off ∈ medianOffsets v h W, sizeT (centerIdx W v h r c + off) < inFrame.length :=
    fun off hoff => by
      have := plusWindow_lt hv hh hr hc (hmap ▸ List.mem_map_of_mem _ hoff); omega
  have hne : (plusWindow W v h r c).map (fun q => inFrame.getD q 0) ≠ [] := by
    simp [plusWindow, List.range_eq_nil]; omega
  simp only [medianVisit, gather_eq hpts hread, hmap, ok_bind, median_eq hne]
  rw [writeAt_of_lt (by rw [ht]; exact centerIdx_lt (by omega) (by omega) hr hc)]
  rfl

/-- The value `medianFilterPlus` writes at a pixel it visits, read from the pixel itself. -/
def plusMedianAt (inFrame : List α) (W v h k : Nat) : α :=
  medianValue ((plusWindow W v h (k / W - v / 2) (k % W - h / 2)).map fun q => inFrame.getD q 0)

theorem plusMedianAt_centerIdx (inFrame : List α) (hc : h / 2 + c < W) :
    plusMedianAt inFrame W v h (centerIdx W v h r c) =
      medianValue ((plusWindow W v h r c).map fun q => inFrame.getD q 0) := by
  obtain ⟨h1, h2⟩ := centerIdx_decode (v := v) (r := r) hc
  rw [plusMedianAt, h1, h2, Nat.add_sub_cancel_left, Nat.add_sub_cancel_left]

/-- A visit sets its pixel to the median at it, and leaves a pool vector of the window's size. -/
theorem medianVisit_step {inFrame t points : List α} (hv : v % 2 = 1) (hh : h % 2 = 1)
    (hr : r + v ≤ H) (hc : c + h ≤ W) (hHW : H * W ≤ 2 ^ 32) (hin : inFrame.length = H * W)
    (ht : t.length = H * W) (hpts : points.length = (medianOffsets v h W).length) :
    ∃ points', medianVisit inFrame (medianOffsets v h W) (centerIdx W v h r c) (t, points) =
      .ok (t.set (centerIdx W v h r c) (plusMedianAt inFrame W v h (centerIdx W v h r c)),
        points') ∧ points'.length = (medianOffsets v h W).length := by
  refine ⟨((plusWindow W v h r c).map fun q => inFrame.getD q 0).insertionSort (· ≤ ·), ?_, ?_⟩
  · rw [medianVisit_eq hv hh hr hc hHW hin ht hpts, plusMedianAt_centerIdx _ (by omega)]
  · rw [List.length_insertionSort, List.length_map, ← medianOffsets_map hv hh hr hc hHW,
      List.length_map]

/-- What `medianFilterPlus` writes: the median at every pixel the window fits around. -/
theorem medianFilterPlus_updates {inFrame outFrame points : List α} {i j : Nat} (hi : i < 7)
    (hj : j < 7) (hvj : kernelTaps.getD j 0 = v) (hhi : kernelTaps.getD i 0 = h)
    (hin : inFrame.length = H * W) (hout : outFrame.length = H * W) (hHW : H * W ≤ 2 ^ 32)
    (hpts : points.length = v + h - 1) :
    ∃ out, medianFilterPlus inFrame outFrame (i, j) (H, W) true points = .ok out ∧
      Updates (fun k => ∃ r < H + 1 - v, ∃ c < W + 1 - h, k = centerIdx W v h r c)
        (plusMedianAt inFrame W v h) inFrame out := by
  obtain ⟨hvodd, hv3⟩ := kernelTaps_odd hj
  obtain ⟨hhodd, hh3⟩ := kernelTaps_odd hi
  rw [hvj] at hvodd hv3
  rw [hhi] at hhodd hh3
  have hcopy : copyAll .inFrame .outFrame inFrame outFrame = .ok inFrame := by
    rw [copyAll_eq (by omega), List.drop_eq_nil_of_le (by omega), List.append_nil]
  simp only [medianFilterPlus, getMedianOffsets, hcopy, medianFilterSizes_eq (α := α) hi hj, hvj,
    hhi, ok_bind, Bool.not_true, Bool.false_eq_true, if_false, pure_eq_ok]
  by_cases hfit : (H : Int) - v + 1 ≤ 0 ∨ (W : Int) - h + 1 ≤ 0
  · rw [if_pos hfit]
    exact ⟨inFrame, rfl, rfl, fun _ _ ⟨r, hr, c, hc, _⟩ => by omega, fun _ _ => rfl⟩
  rw [if_neg hfit, show ((H : Int) - v + 1).toNat = H + 1 - v by omega,
    show ((W : Int) - h + 1).toNat = W + 1 - h by omega]
  obtain ⟨t, pts, hrun, -, hu⟩ := @forLoop_visits α (List α) W v h (H * W) (H + 1 - v)
    (W + 1 - h) (plusMedianAt inFrame W v h)
    (fun pts => pts.length = (medianOffsets v h W).length) _
    (fun r hr c hc => centerIdx_lt (by omega) (by omega) (by omega) (by omega))
    (fun r hr c hc t pts ht hpts => medianVisit_step hvodd hhodd (by omega) (by omega) hHW hin ht
      hpts) inFrame points hin (by show points.length = _; rw [hpts, length_medianOffsets]; omega)
  rw [hrun]
  exact ⟨t, rfl, hu⟩

/-- **What `medianFilterPlus` computes.** On a frame of `H × W` values that the `int` index
`idx` reaches, with kernels `v = kernelTaps[kernelIndices[1]]` down and
`h = kernelTaps[kernelIndices[0]]` across of `_fKernels` and a pool vector of the
`vFilterSize + hFilterSize - 1` points of the window, `medianFilterPlus` with
`performGhostMedian` set returns without a fault a frame of the same size holding the median of
the plus-shaped window's values in the input at every pixel the window fits around, and the
input's value everywhere else. -/
theorem medianFilterPlus_eq {inFrame outFrame points : List α} {i j : Nat} (hi : i < 7)
    (hj : j < 7) (hvj : kernelTaps.getD j 0 = v) (hhi : kernelTaps.getD i 0 = h)
    (hin : inFrame.length = H * W) (hout : outFrame.length = H * W) (hHW : H * W ≤ 2 ^ 31)
    (hpts : points.length = v + h - 1) :
    ∃ out, medianFilterPlus inFrame outFrame (i, j) (H, W) true points = .ok out ∧
      out.length = H * W ∧
      (∀ r < H + 1 - v, ∀ c < W + 1 - h, out.getD (centerIdx W v h r c) 0 =
        medianValue ((plusWindow W v h r c).map fun q => inFrame.getD q 0)) ∧
      ∀ k, (∀ r < H + 1 - v, ∀ c < W + 1 - h, k ≠ centerIdx W v h r c) →
        out.getD k 0 = inFrame.getD k 0 := by
  obtain ⟨out, hrun, hu⟩ :=
    medianFilterPlus_updates hi hj hvj hhi hin hout (hHW.trans (by norm_num)) hpts
  have hv3 := hvj ▸ (kernelTaps_odd hj).2
  have hh3 := hhi ▸ (kernelTaps_odd hi).2
  refine ⟨out, hrun, hu.length.trans hin, fun r hr c hc => ?_,
    fun k hk => hu.getD_kept fun ⟨r, hr, c, hc, he⟩ => hk r hr c hc he⟩
  rw [hu.getD_written (hin ▸ centerIdx_lt (by omega) (by omega) (by omega) (by omega))
    ⟨r, hr, c, hc, rfl⟩, plusMedianAt_centerIdx _ (by omega)]

/-- `medianFilterPlus` on a frame of `3 × 3` values with the kernels of three taps. -/
theorem medianFilterPlus_eq_threeByThree :
    ∃ out, medianFilterPlus [(1 : ℚ), 2, 1, 3, 9, 1, 1, 4, 1] (List.replicate 9 0) (1, 1) (3, 3)
        true (List.replicate 5 0) = .ok out ∧ out.length = 3 * 3 ∧
      (∀ r < 3 + 1 - 3, ∀ c < 3 + 1 - 3, out.getD (centerIdx 3 3 3 r c) 0 =
        medianValue ((plusWindow 3 3 3 r c).map fun q =>
          [(1 : ℚ), 2, 1, 3, 9, 1, 1, 4, 1].getD q 0)) ∧
      ∀ k, (∀ r < 3 + 1 - 3, ∀ c < 3 + 1 - 3, k ≠ centerIdx 3 3 3 r c) →
        out.getD k 0 = [(1 : ℚ), 2, 1, 3, 9, 1, 1, 4, 1].getD k 0 :=
  medianFilterPlus_eq (by decide) (by decide) rfl rfl rfl rfl (by norm_num) rfl

/-- **The filter removes ghosts.** With `performGhostMedian` set, on such a frame, a pixel whose
plus-shaped window holds one value at more than half of its points takes that value, and a
pixel the window does not fit around keeps its own. -/
theorem medianFilterPlus_majority {inFrame outFrame points : List α} {i j : Nat} (hi : i < 7)
    (hj : j < 7) (hvj : kernelTaps.getD j 0 = v) (hhi : kernelTaps.getD i 0 = h)
    (hin : inFrame.length = H * W) (hout : outFrame.length = H * W) (hHW : H * W ≤ 2 ^ 31)
    (hpts : points.length = v + h - 1) :
    ∃ out, medianFilterPlus inFrame outFrame (i, j) (H, W) true points = .ok out ∧
      (∀ r < H + 1 - v, ∀ c < W + 1 - h, ∀ x : α,
        (plusWindow W v h r c).length < 2 * ((plusWindow W v h r c).map fun q => inFrame.getD q 0).count x →
          out.getD (centerIdx W v h r c) 0 = x) ∧
      ∀ k, (∀ r < H + 1 - v, ∀ c < W + 1 - h, k ≠ centerIdx W v h r c) →
        out.getD k 0 = inFrame.getD k 0 := by
  obtain ⟨out, hrun, hu⟩ :=
    medianFilterPlus_updates hi hj hvj hhi hin hout (hHW.trans (by norm_num)) hpts
  have hv3 := hvj ▸ (kernelTaps_odd hj).2
  have hh3 := hhi ▸ (kernelTaps_odd hi).2
  refine ⟨out, hrun, fun r hr c hc x hx => ?_,
    fun k hk => hu.getD_kept fun ⟨r, hr, c, hc, he⟩ => hk r hr c hc he⟩
  rw [hu.getD_written (hin ▸ centerIdx_lt (by omega) (by omega) (by omega) (by omega))
    ⟨r, hr, c, hc, rfl⟩, plusMedianAt_centerIdx _ (by omega)]
  exact medianValue_of_majority (by rwa [List.length_map])

/-- The ghost-removal property of `medianFilterPlus` on a frame of `3 × 3` values. -/
theorem medianFilterPlus_majority_threeByThree :
    ∃ out, medianFilterPlus [(1 : ℚ), 1, 1, 1, 9, 1, 1, 1, 1] (List.replicate 9 0) (1, 1) (3, 3)
        true (List.replicate 5 0) = .ok out ∧
      (∀ r < 3 + 1 - 3, ∀ c < 3 + 1 - 3, ∀ x : ℚ,
        (plusWindow 3 3 3 r c).length < 2 * ((plusWindow 3 3 3 r c).map fun q =>
            [(1 : ℚ), 1, 1, 1, 9, 1, 1, 1, 1].getD q 0).count x →
          out.getD (centerIdx 3 3 3 r c) 0 = x) ∧
      ∀ k, (∀ r < 3 + 1 - 3, ∀ c < 3 + 1 - 3, k ≠ centerIdx 3 3 3 r c) →
        out.getD k 0 = [(1 : ℚ), 1, 1, 1, 9, 1, 1, 1, 1].getD k 0 :=
  medianFilterPlus_majority (by decide) (by decide) rfl rfl rfl rfl (by norm_num) rfl

/-- Without `performGhostMedian`, `medianFilterPlus` copies its input. -/
theorem medianFilterPlus_of_not {inFrame outFrame points : List α}
    {kernelIndices frameSize : Nat × Nat} (hout : inFrame.length = outFrame.length) :
    medianFilterPlus inFrame outFrame kernelIndices frameSize false points = .ok inFrame := by
  simp only [medianFilterPlus, copyAll_eq hout.le, List.drop_eq_nil_of_le hout.ge, List.append_nil,
    ok_bind, Bool.not_false, if_true, pure_eq_ok]

end Filter

end RawToDepthDsp

end Cobra
