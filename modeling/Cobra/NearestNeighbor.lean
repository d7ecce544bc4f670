import Cobra.WindowFilter

/-!
# The Nearest-Neighbour Filter

`NearestNeighbor::removeOutliers` clears the isolated ranges of the filtered range frame. At
filter level `1` to `5` it takes a window of `_lutWindowSize[filterLevel]` pixels a side, a
tolerance of `1 / 1024` plus `_flutRangeToleranceFrac[filterLevel]` of the range, and a count
`_lutNeighborCountTolerance[filterLevel]`. Every pixel the window fits around, with the window
starting `halfWin` pixels above and to the left of it, keeps its range when at least that many
ranges of its window, itself included, lie within the tolerance of it, and is cleared to `0`
otherwise (`countNeighbors`). The windows are read from a copy of the frame, so the filter is
not recursive. Filter level `0`, or a frame of fewer than `_lutNeighborCountTolerance.back()`
lines or columns, leaves the frame as it is; a level above `MAX_NEAREST_NEIGHBOR_IDX` is clamped.

## Conventions

As in `Cobra.MinMax`: ranges are exact values of an ordered field, `operator[]` goes through
`readAt` and `writeAt`, and the running indices `pixIdx` and `winIdx` are written in closed
form: `pixIdx` is `centerIdx` of a square window, `winIdx` the pixel `(yIdx, xIdx)`. The pool
vector `franges` is an argument holding whatever the pool left in it.

## Main results

* `countNeighbors_eq`: a window counts its ranges within the tolerance of the center's.
* `removeOutliers_eq`: what the filter returns, pixel by pixel, without a fault.
* `removeOutliers_keeps_or_clears`: every range the filter returns is its input or `0`, and a
  pixel the window does not fit around keeps its range.
-/

namespace Cobra

namespace NearestNeighbor

open RawToDepthDsp

section Code

variable {α : Type} [LinearOrderedField α]

/-- `MAX_NEAREST_NEIGHBOR_IDX`. -/
def maxNearestNeighborIdx : Nat := 5

/-- `_lutNeighborCountTolerance`: the count of close ranges a pixel needs, itself included. -/
def lutNeighborCountTolerance : List Nat := [0, 3, 5, 5, 7, 11]

/-- `_lutWindowSize`: the side of the window. -/
def lutWindowSize : List Nat := [0, 3, 5, 6, 7, 9]

/-- `_flutRangeToleranceFrac`: the tolerance, as a fraction of the range. -/
def flutRangeToleranceFrac : List α := [0, 1 / 16, 1 / 16, 1 / 16, 1 / 16, 1 / 16]

/-- `countNeighbors(val, rangeTol, minNeighborCount, ranges, startIdx, winSize, stride)`: the
window of `winSize` lines of `winSize` pixels from `startIdx` on, in a frame of `stride` pixels
a line. -/
def countNeighbors (val rangeTol : α) (minNeighborCount : Nat) (ranges : List α)
    (startIdx winSize stride : Nat) : Except Fault α := do
  let numNeighbors ← forLoop winSize (fun rowIdx => forLoop winSize fun j numNeighbors => do
    let winVal ← readAt .franges ranges (startIdx + rowIdx * stride + j)
    return numNeighbors + if rangeTol ≥ |winVal - val| then 1 else 0) 0
  return if numNeighbors < minNeighborCount then 0 else val

/-- One pixel of `removeOutliers`. -/
def removeOutliersVisit (franges : List α) (winSize minNeighborCount stride : Nat)
    (rangeTolFrac : α) (yIdx xIdx : Nat) (ffilteredRanges : List α) : Except Fault (List α) := do
  let pixIdx := centerIdx stride winSize winSize yIdx xIdx
  let val ← readAt .franges franges pixIdx
  let rangeTol := 1 / 1024 + val * rangeTolFrac
  writeAt .ffilteredRanges ffilteredRanges pixIdx
    (← countNeighbors val rangeTol minNeighborCount franges (yIdx * stride + xIdx) winSize stride)

/-- `removeOutliers(ffilteredRanges, filterLevel, size)`, with the pool vector `franges`. -/
def removeOutliers (ffilteredRanges : List α) (filterLevel : Nat) (size : Nat × Nat)
    (franges : List α) : Except Fault (List α) := do
  if size.1 < lutNeighborCountTolerance.getLastD 0 ∨ size.2 < lutNeighborCountTolerance.getLastD 0
  then return ffilteredRanges
  if filterLevel = 0 then return ffilteredRanges
  let filterLevel := if filterLevel > maxNearestNeighborIdx then maxNearestNeighborIdx
    else filterLevel
  let franges ← copyAll .ffilteredRanges .franges ffilteredRanges franges
  let winSize ← readAt .lutWindowSize lutWindowSize filterLevel
  let halfWin := winSize / 2
  let rangeTolFrac ← readAt .flutRangeToleranceFrac (flutRangeToleranceFrac : List α) filterLevel
  let minNeighborCount ← readAt .lutNeighborCountTolerance lutNeighborCountTolerance filterLevel
  let imh := u32 ((size.1 : Int) - 2 * halfWin)
  let imw := u32 ((size.2 : Int) - 2 * halfWin)
  let stride := size.2
  forLoop imh (fun yIdx => forLoop imw
    (removeOutliersVisit franges winSize minNeighborCount stride rangeTolFrac yIdx))
    ffilteredRanges

end Code

/-! ### What the filter computes -/

section Spec

variable {α : Type} [LinearOrderedField α]

/-- The number of ranges of the `winSize × winSize` window from `(y, x)` on, in a frame of `W`
pixels a line, that lie within `rangeTol` of `val`. -/
def closeCount (ranges : List α) (val rangeTol : α) (W winSize y x : Nat) : Nat :=
  ((windowPixels W winSize winSize y x).map fun q => ranges.getD q 0).countP
    fun winVal => decide (|winVal - val| ≤ rangeTol)

/-- What `removeOutliers` leaves at the pixel it visits at `(y, x)`: its range when at least
`minNeighborCount` ranges of its window lie within the tolerance of it, and `0` otherwise. -/
def keptRange (ranges : List α) (rangeTolFrac : α) (minNeighborCount W winSize y x : Nat) : α :=
  if closeCount ranges (ranges.getD (centerIdx W winSize winSize y x) 0)
      (1 / 1024 + ranges.getD (centerIdx W winSize winSize y x) 0 * rangeTolFrac) W winSize y x <
    minNeighborCount then 0 else ranges.getD (centerIdx W winSize winSize y x) 0

theorem sum_indicator_eq_countP {β : Type} (g : Nat → β) (p : β → Bool) (n : Nat) :
    ((List.range n).map fun j => if p (g j) then 1 else 0).sum = ((List.range n).map g).countP p := by
  induction n with
  | zero => rfl
  | succ n ih => simp [List.range_succ, ih, List.countP_append, List.countP_cons]

/-- **One window.** When the window lies in the frame, `countNeighbors` keeps the center's range
exactly when enough ranges of the window lie within the tolerance of it. -/
theorem countNeighbors_eq {ranges : List α} {val rangeTol : α} {n H W winSize y x : Nat}
    (hr : ranges.length = H * W) (hy : y + winSize ≤ H) (hx : x + winSize ≤ W) :
    countNeighbors val rangeTol n ranges (y * W + x) winSize W =
      .ok (if closeCount ranges val rangeTol W winSize y x < n then 0 else val) := by
  have hinner : ∀ i < winSize, ∀ s, forLoop winSize (fun j numNeighbors => do
      let winVal ← readAt .franges ranges (y * W + x + i * W + j)
      return numNeighbors + if rangeTol ≥ |winVal - val| then 1 else 0) s =
        .ok (s + ((List.range winSize).map fun j =>
          if decide (|ranges.getD ((y + i) * W + (x + j)) 0 - val| ≤ rangeTol) then 1 else 0).sum) :=
    fun i hi s => forLoop_add _ (fun j hj s => by
      rw [show y * W + x + i * W + j = (y + i) * W + (x + j) by ring,
        readAt_eq_getD 0 (hr ▸ pixel_lt (by omega) (by omega)), ok_bind]
      simp only [pure_eq_ok, decide_eq_true_eq, ge_iff_le]) s
  simp only [countNeighbors]
  rw [forLoop_add _ hinner 0, ok_bind, Nat.zero_add, closeCount, windowPixels, List.map_flatMap,
    List.countP_flatMap]
  congr 3
  refine congrArg _ (List.map_congr_left fun i _ => ?_)
  rw [Function.comp, List.map_map, ← sum_indicator_eq_countP]
  rfl

/-- The filter level after the clamp of `removeOutliers`. -/
theorem clampLevel_eq (filterLevel : Nat) :
    (if filterLevel > maxNearestNeighborIdx then maxNearestNeighborIdx else filterLevel) =
      min filterLevel 5 := by
  unfold maxNearestNeighborIdx; split_ifs <;> omega

/-- The tables of every filter level from `1` on: a window of three to nine pixels a side and a
tolerance of a sixteenth. -/
theorem tables_of_level {lvl : Nat} (h1 : 1 ≤ lvl) (h5 : lvl ≤ 5) :
    3 ≤ lutWindowSize.getD lvl 0 ∧ lutWindowSize.getD lvl 0 ≤ 9 ∧
      (flutRangeToleranceFrac : List α).getD lvl 0 = 1 / 16 := by
  interval_cases lvl <;> simp [lutWindowSize, flutRangeToleranceFrac]

variable {ffilteredRanges franges : List α} {filterLevel H W winSize n : Nat}

/-- A visit of `removeOutliers` sets its pixel to what the filter leaves there. -/
theorem removeOutliersVisit_eq {t : List α} {y x : Nat} (hl : ffilteredRanges.length = H * W)
    (ht : t.length = H * W) (h3 : 3 ≤ winSize) (hy : y < H - 2 * (winSize / 2))
    (hx : x < W - 2 * (winSize / 2)) :
    removeOutliersVisit ffilteredRanges winSize n W (1 / 16) y x t =
      .ok (t.set (centerIdx W winSize winSize y x)
        (keptRange ffilteredRanges (1 / 16) n W winSize y x)) := by
  have hk : centerIdx W winSize winSize y x < H * W :=
    centerIdx_lt (by omega) (by omega) (by omega) (by omega)
  simp only [removeOutliersVisit, readAt_eq_getD 0 (hl ▸ hk), ok_bind,
    countNeighbors_eq hl (show y + winSize ≤ H by omega) (show x + winSize ≤ W by omega)]
  rw [writeAt_of_lt (ht ▸ hk)]
  rfl

/-- What `removeOutliers` leaves at pixel `k` when it visits it: `keptRange` of the window that
has `k` at its center. -/
def keptAt (ranges : List α) (rangeTolFrac : α) (minNeighborCount W winSize k : Nat) : α :=
  keptRange ranges rangeTolFrac minNeighborCount W winSize (k / W - winSize / 2) (k % W - winSize / 2)

theorem keptAt_centerIdx {ranges : List α} {rangeTolFrac : α} {y x : Nat}
    (hx : x < W - 2 * (winSize / 2)) :
    keptAt ranges rangeTolFrac n W winSize (centerIdx W winSize winSize y x) =
      keptRange ranges rangeTolFrac n W winSize y x := by
  obtain ⟨h1, h2⟩ := centerIdx_decode (W := W) (v := winSize) (r := y)
    (show winSize / 2 + x < W by omega)
  simp only [keptAt, h1, h2, Nat.add_sub_cancel_left]

/-- What `removeOutliers` writes at a filter level `1` or above: `keptAt` at every pixel the
window fits around. -/
theorem removeOutliers_updates (hH : 11 ≤ H) (hW : 11 ≤ W) (hHW : H * W < 2 ^ 32)
    (hl : ffilteredRanges.length = H * W) (hf : franges.length = H * W) (hlevel : 0 < filterLevel)
    (hws : lutWindowSize.getD (min filterLevel 5) 0 = winSize)
    (hn : lutNeighborCountTolerance.getD (min filterLevel 5) 0 = n) :
    ∃ out, removeOutliers ffilteredRanges filterLevel (H, W) franges = .ok out ∧
      Updates (fun k => ∃ y < H - 2 * (winSize / 2), ∃ x < W - 2 * (winSize / 2),
          k = centerIdx W winSize winSize y x)
        (keptAt ffilteredRanges (1 / 16) n W winSize) ffilteredRanges out := by
  obtain ⟨h3, h9, htol⟩ := @tables_of_level α _ (min filterLevel 5) (by omega) (by omega)
  rw [hws] at h3 h9
  have hH' : H ≤ H * W := Nat.le_mul_of_pos_right H (by omega)
  have hW' : W ≤ H * W := Nat.le_mul_of_pos_left W (by omega)
  have hcopy : copyAll .ffilteredRanges .franges ffilteredRanges franges = .ok ffilteredRanges := by
    rw [copyAll_eq (by omega), List.drop_eq_nil_of_le (by omega), List.append_nil]
  have himh : u32 ((H : Int) - 2 * (winSize / 2 : Nat)) = H - 2 * (winSize / 2) := by
    rw [u32_of_lt (by omega) (by omega)]; omega
  have himw : u32 ((W : Int) - 2 * (winSize / 2 : Nat)) = W - 2 * (winSize / 2) := by
    rw [u32_of_lt (by omega) (by omega)]; omega
  have hlen : min filterLevel 5 < 6 := by omega
  simp only [removeOutliers, show lutNeighborCountTolerance.getLastD 0 = 11 from rfl,
    show ¬ (H < 11 ∨ W < 11) by omega, if_false, Nat.pos_iff_ne_zero.1 hlevel, clampLevel_eq,
    hcopy, ok_bind, readAt_eq_getD 0 (show min filterLevel 5 < lutWindowSize.length from hlen),
    readAt_eq_getD 0 (show min filterLevel 5 < (flutRangeToleranceFrac : List α).length from hlen),
    readAt_eq_getD 0 (show min filterLevel 5 < lutNeighborCountTolerance.length from hlen),
    hws, hn, htol, Nat.cast_ofNat, himh, himw]
  refine forLoop_updates (fun y hy t ht => forLoop_updates (fun x hx u hu => ?_) ht) hl
  refine ⟨_, removeOutliersVisit_eq hl hu h3 hy hx, ?_⟩
  rw [← keptAt_centerIdx hx]
  exact set_updates (hu ▸ centerIdx_lt (H := H) (by omega) (by omega) (by omega) (by omega))

/-- **What `removeOutliers` computes.** At a filter level `1` or above, with the window of
`winSize = _lutWindowSize[level]` pixels a side and the count `_lutNeighborCountTolerance[level]`
of the clamped level, on a frame of `H × W` ranges of at least `11` lines and columns whose
pixels the `uint32_t` indices `pixIdx` and `winIdx` reach, and a pool vector of its size,
`removeOutliers` returns without a fault a frame of the same size that holds at every pixel the
window fits around what the filter leaves there (`keptRange`), and the input's range everywhere
else. -/
theorem removeOutliers_eq (hH : 11 ≤ H) (hW : 11 ≤ W) (hHW : H * W < 2 ^ 32)
    (hl : ffilteredRanges.length = H * W) (hf : franges.length = H * W) (hlevel : 0 < filterLevel)
    (hws : lutWindowSize.getD (min filterLevel 5) 0 = winSize)
    (hn : lutNeighborCountTolerance.getD (min filterLevel 5) 0 = n) :
    ∃ out, removeOutliers ffilteredRanges filterLevel (H, W) franges = .ok out ∧
      out.length = H * W ∧
      (∀ y < H - 2 * (winSize / 2), ∀ x < W - 2 * (winSize / 2),
        out.getD (centerIdx W winSize winSize y x) 0 =
          keptRange ffilteredRanges (1 / 16) n W winSize y x) ∧
      ∀ k, (∀ y < H - 2 * (winSize / 2), ∀ x < W - 2 * (winSize / 2),
        k ≠ centerIdx W winSize winSize y x) → out.getD k 0 = ffilteredRanges.getD k 0 := by
  obtain ⟨out, hrun, hu⟩ := removeOutliers_updates hH hW hHW hl hf hlevel hws hn
  have h3 := hws ▸ (@tables_of_level α _ (min filterLevel 5) (by omega) (by omega)).1
  refine ⟨out, hrun, hu.length.trans hl, fun y hy x hx => ?_,
    fun k hk => hu.getD_kept fun ⟨y, hy, x, hx, he⟩ => hk y hy x hx he⟩
  rw [hu.getD_written (hl ▸ centerIdx_lt (by omega) (by omega) (by omega) (by omega))
    ⟨y, hy, x, hx, rfl⟩, keptAt_centerIdx hx]

/-- `removeOutliers` at filter level `1` on a frame of `11 × 11` ranges of `1` with an outlier
of `50` at its center. -/
theorem removeOutliers_eq_levelOne :
    ∃ out, removeOutliers ((List.replicate 121 (1 : ℚ)).set 60 50) 1 (11, 11)
        (List.replicate 121 0) = .ok out ∧ out.length = 11 * 11 ∧
      (∀ y < 11 - 2 * (3 / 2), ∀ x < 11 - 2 * (3 / 2), out.getD (centerIdx 11 3 3 y x) 0 =
        keptRange ((List.replicate 121 (1 : ℚ)).set 60 50) (1 / 16) 3 11 3 y x) ∧
      ∀ k, (∀ y < 11 - 2 * (3 / 2), ∀ x < 11 - 2 * (3 / 2), k ≠ centerIdx 11 3 3 y x) →
        out.getD k 0 = ((List.replicate 121 (1 : ℚ)).set 60 50).getD k 0 :=
  removeOutliers_eq le_rfl le_rfl (by norm_num) rfl rfl (by decide) rfl rfl

/-- **The filter only clears.** On a frame of `H × W` ranges that the `uint32_t` indices reach
and a pool vector of its size, at every filter level, `removeOutliers` returns without a fault a
frame of the same size each of whose ranges is the input's range at that pixel or `0`. -/
theorem removeOutliers_keeps_or_clears (hHW : H * W < 2 ^ 32)
    (hl : ffilteredRanges.length = H * W) (hf : franges.length = H * W) :
    ∃ out, removeOutliers ffilteredRanges filterLevel (H, W) franges = .ok out ∧
      out.length = H * W ∧ ∀ k, out.getD k 0 = ffilteredRanges.getD k 0 ∨ out.getD k 0 = 0 := by
  by_cases hsmall : H < 11 ∨ W < 11
  · refine ⟨ffilteredRanges, ?_, hl, fun k => .inl rfl⟩
    simp only [removeOutliers, show lutNeighborCountTolerance.getLastD 0 = 11 from rfl,
      if_pos hsmall, pure_eq_ok]
  rcases Nat.eq_zero_or_pos filterLevel with h0 | hpos
  · refine ⟨ffilteredRanges, ?_, hl, fun k => .inl rfl⟩
    simp only [removeOutliers, show lutNeighborCountTolerance.getLastD 0 = 11 from rfl,
      if_neg hsmall, h0, if_true, pure_eq_ok, ok_bind]
  obtain ⟨out, hrun, hu⟩ := removeOutliers_updates (by omega) (by omega) hHW hl hf hpos rfl rfl
  refine ⟨out, hrun, hu.length.trans hl, fun k => ?_⟩
  by_cases hv : ∃ y < H - 2 * (lutWindowSize.getD (min filterLevel 5) 0 / 2),
      ∃ x < W - 2 * (lutWindowSize.getD (min filterLevel 5) 0 / 2),
        k = centerIdx W (lutWindowSize.getD (min filterLevel 5) 0)
          (lutWindowSize.getD (min filterLevel 5) 0) y x
  · have h3 := (@tables_of_level α _ (min filterLevel 5) (by omega) (by omega)).1
    obtain ⟨y, hy, x, hx, rfl⟩ := hv
    rw [hu.getD_written (hl ▸ centerIdx_lt (by omega) (by omega) (by omega) (by omega))
      ⟨y, hy, x, hx, rfl⟩, keptAt_centerIdx hx, keptRange]
    split_ifs
    exacts [.inr rfl, .inl rfl]
  · exact .inl (hu.getD_kept hv)

/-- The only-clears property of `removeOutliers` at filter level `2` on a frame of `11 × 11`
ranges of `1` with an outlier of `50` at its center. -/
theorem removeOutliers_keeps_or_clears_levelTwo :
    ∃ out, removeOutliers ((List.replicate 121 (1 : ℚ)).set 60 50) 2 (11, 11)
        (List.replicate 121 0) = .ok out ∧ out.length = 11 * 11 ∧
      ∀ k, out.getD k 0 = ((List.replicate 121 (1 : ℚ)).set 60 50).getD k 0 ∨ out.getD k 0 = 0 :=
  removeOutliers_keeps_or_clears (by norm_num) rfl rfl

end Spec

end NearestNeighbor

end Cobra
