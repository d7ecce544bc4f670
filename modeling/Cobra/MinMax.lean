import Cobra.WindowFilter

/-!
# The Min-Max Filter

`RawToDepthDsp::minMaxRecursive` marks the pixels of a frame of `H × W` values around which the
values spread over more than a threshold: `processWholeFrame` runs it on the frame `mFrame` of
`computeWholeFrameRange`, and `getRange` drops the ranges of the pixels it marks. One pass,
`minMaxIntra`, visits in row-major order the pixels a `v × h` window fits around and marks a
pixel when the values of its window spread over more than the threshold. It counts only the
values of the pixels it has not marked yet, so the pass is recursive: a pixel marked earlier no
longer counts in the windows of the pixels after it. `minMaxRecursive` makes one pass over the
frame and one over the reversed frame, and keeps the pixels both passes marked.

## Conventions

Values are exact values of an ordered field; `std::numeric_limits<float_t>::max()` and
`lowest()` are the exact values of the largest finite float and of its negation. `operator[]`
goes through `readAt` and `writeAt`. Indices are computed in `Nat`, except `idx + offset`,
the sum of a `uint32_t` index and an `int32_t` offset, which is `u32` of the `Int` sum, and the
loop bounds `frameSize[0] - vFilterSize + 1` and `frameSize[1] - hFilterSize + 1`, computed
in `uint32_t`. The running indices `idx` and `idxStart` are written in closed form
(`centerIdx`), and the offsets table is the list its two loops fill (`minMaxOffsets`).

## Main results

* `outOfRangeIntra_eq`: a window decides whether the values it counts spread over more than
  the threshold (`SpreadExceeds`).
* `IsMinMaxPass`: what one pass computes, entry by entry: each visited pixel is marked exactly
  when the values of its window at pixels not marked before it spread over the threshold, and
  every other entry is clear.
* `minMaxIntra_pass`: `minMaxIntra` computes such a mask, without a fault, on every frame the
  window fits in.
* `minMaxRecursive_eq`: `minMaxRecursive` is the product of the pass over the frame and of the
  reversed pass over the reversed frame.
* `minMaxRecursive_sound`: a pixel is marked only where the window fits around it and two
  values of its window differ by more than the threshold.
-/

namespace Cobra

namespace RawToDepthDsp

section Code

variable {α : Type} [LinearOrderedField α]

/-- `std::numeric_limits<float_t>::max()`. -/
def fltMax : α := 340282346638528859811704183484516925440

/-- `std::numeric_limits<float_t>::lowest()`. -/
def fltLowest : α := -fltMax

/-- The lookup table of `minMaxIntra`, in the order its loops fill it: the offsets of the pixels
of the `vFilterSize × hFilterSize` window from its center, row by row, in a frame of `rowPitch`
pixels a row. -/
def minMaxOffsets (vFilterSize hFilterSize rowPitch : Nat) : List Int :=
  (List.range vFilterSize).flatMap fun (rowIdx : Nat) => (List.range hFilterSize).map
    fun (colIdx : Nat) =>
    (rowPitch : Int) * ((rowIdx : Int) - (vFilterSize / 2 : Nat)) +
      ((colIdx : Int) - (hFilterSize / 2 : Nat))

/-- One value of the window of `outOfRangeIntra`: it lowers `minVal` or raises `maxVal` only
where the mask is clear. -/
def minMaxUpdate (acc : α × α) (mask val : α) : α × α :=
  (if val < acc.1 ∧ 0 = mask then val else acc.1, if val > acc.2 ∧ 0 = mask then val else acc.2)

/-- `outOfRangeIntra(frame, minMaxMask, idx, offsets, thresh)`. -/
def outOfRangeIntra (frame minMaxMask : List α) (idx : Nat) (offsets : List Int) (thresh : α) :
    Except Fault Bool := do
  let (minVal, maxVal) ← offsets.foldlM (fun acc offset => do
      let mask ← readAt .minMaxMask minMaxMask (u32 (idx + offset))
      let val ← readAt .frame frame (u32 (idx + offset))
      return minMaxUpdate acc mask val) (fltMax, fltLowest)
  if minVal = fltMax ∨ maxVal = fltLowest then return false
  return decide (maxVal - minVal > thresh)

/-- `minMaxIntra(frame, minMaxMask, filterSize, frameSize, minMaxThresh)`. -/
def minMaxIntra (frame minMaxMask : List α) (filterSize : List Nat) (frameSize : Nat × Nat)
    (minMaxThresh : α) : Except Fault (List α) :=
  let minMaxMask := minMaxMask.map fun _ => (0 : α)
  if filterSize.length ≠ 2 then .ok minMaxMask else
  let vFilterSize := filterSize.getD 0 0 ||| 1
  let hFilterSize := filterSize.getD 1 0 ||| 1
  let rowPitch := frameSize.2
  let offsets := minMaxOffsets vFilterSize hFilterSize rowPitch
  let numRows := u32 ((frameSize.1 : Int) - vFilterSize + 1)
  let numColumns := u32 ((frameSize.2 : Int) - hFilterSize + 1)
  forLoop numRows (fun rowIdx => forLoop numColumns fun colIdx minMaxMask => do
    let idx := centerIdx rowPitch vFilterSize hFilterSize rowIdx colIdx
    if (← outOfRangeIntra frame minMaxMask idx offsets minMaxThresh) then
      writeAt .minMaxMask minMaxMask idx 1
    else return minMaxMask) minMaxMask

/-- The last loop of `minMaxRecursive`: `minMaxMask[idx] = minMaxMask[idx] * minMaxMaskReversed[idx]`. -/
def maskProduct (minMaxMaskReversed minMaxMask : List α) : Except Fault (List α) :=
  forLoop minMaxMask.length (fun idx minMaxMask => do
    let m ← readAt .minMaxMask minMaxMask idx
    let r ← readAt .minMaxMaskReversed minMaxMaskReversed idx
    writeAt .minMaxMask minMaxMask idx (m * r)) minMaxMask

/-- `minMaxRecursive(frame, minMaxMask, filterSize, frameSize, minMaxThresh)`. -/
def minMaxRecursive (frame minMaxMask : List α) (filterSize : List Nat) (frameSize : Nat × Nat)
    (minMaxThresh : α) : Except Fault (List α) := do
  let minMaxMask := minMaxMask.map fun _ => (0 : α)
  if filterSize.length ≠ 2 then return minMaxMask
  if frameSize.1 < filterSize.getD 0 0 ∨ frameSize.2 < filterSize.getD 1 0 then
    return minMaxMask
  let minMaxMask ← minMaxIntra frame minMaxMask filterSize frameSize minMaxThresh
  let frameReversed := frame.reverse
  let minMaxMaskReversed ← minMaxIntra frameReversed (List.replicate frame.length 0) filterSize
    frameSize minMaxThresh
  maskProduct minMaxMaskReversed.reverse minMaxMask

end Code

/-! ### One window -/

section Window

variable {α : Type} [LinearOrderedField α]

/-- Some two of `vals` differ by more than `thresh`. -/
def SpreadExceeds (vals : List α) (thresh : α) : Prop := ∃ x ∈ vals, ∃ y ∈ vals, thresh < x - y

instance (vals : List α) (thresh : α) : Decidable (SpreadExceeds vals thresh) :=
  inferInstanceAs (Decidable (∃ x ∈ vals, ∃ y ∈ vals, thresh < x - y))

theorem spreadExceeds_mono {vals vals' : List α} {thresh : α} (h : vals ⊆ vals')
    (hs : SpreadExceeds vals thresh) : SpreadExceeds vals' thresh :=
  let ⟨x, hx, y, hy, hxy⟩ := hs
  ⟨x, h hx, y, h hy, hxy⟩

/-- The fold of `outOfRangeIntra` runs a minimum and a maximum side by side. -/
theorem foldl_minMaxUpdate {β : Type} (mask val : β → α) (l : List β) (a b : α) :
    l.foldl (fun acc q => minMaxUpdate acc (mask q) (val q)) (a, b) =
      (l.foldl (fun m q => if val q < m ∧ 0 = mask q then val q else m) a,
        l.foldl (fun m q => if val q > m ∧ 0 = mask q then val q else m) b) := by
  induction l generalizing a b with
  | nil => rfl
  | cons q l ih => exact ih _ _

section Fold

variable {β : Type} (mask val : β → α)

theorem filter_map_cons_of_clear {l : List β} {q : β} (hm : mask q = 0) :
    ((q :: l).filter fun q => mask q = 0).map val = val q :: (l.filter fun q => mask q = 0).map val := by
  simp [hm]

theorem filter_map_cons_of_set {l : List β} {q : β} (hm : ¬ mask q = 0) :
    ((q :: l).filter fun q => mask q = 0).map val = (l.filter fun q => mask q = 0).map val := by
  simp [hm]

/-- The running minimum of `outOfRangeIntra` ends at its start or at a value whose mask is clear,
below all of them. -/
theorem foldl_minVal (l : List β) (a : α) :
    let r := l.foldl (fun m q => if val q < m ∧ 0 = mask q then val q else m) a
    (r = a ∨ r ∈ (l.filter fun q => mask q = 0).map val) ∧
      (∀ x ∈ (l.filter fun q => mask q = 0).map val, r ≤ x) ∧ r ≤ a := by
  induction l generalizing a with
  | nil => simp
  | cons q l ih =>
    obtain ⟨h1, h2, h3⟩ := ih (if val q < a ∧ 0 = mask q then val q else a)
    simp only [List.foldl_cons]
    by_cases hm : mask q = 0
    · rw [filter_map_cons_of_clear mask val hm, List.forall_mem_cons]
      simp only [hm, and_true] at h1 h2 h3 ⊢
      split_ifs at h1 h2 h3 ⊢ with ha
      · refine ⟨.inr ?_, ⟨h3, h2⟩, h3.trans ha.le⟩
        rcases h1 with h1 | h1
        exacts [by rw [h1]; exact List.mem_cons_self _ _, List.mem_cons_of_mem _ h1]
      · exact ⟨h1.imp_right (List.mem_cons_of_mem _), ⟨h3.trans (not_lt.1 ha), h2⟩, h3⟩
    · rw [filter_map_cons_of_set mask val hm]
      simp only [Ne.symm hm, and_false, if_false] at h1 h2 h3 ⊢
      exact ⟨h1, h2, h3⟩

/-- The running maximum of `outOfRangeIntra` ends at its start or at a value whose mask is clear,
above all of them. -/
theorem foldl_maxVal (l : List β) (b : α) :
    let r := l.foldl (fun m q => if val q > m ∧ 0 = mask q then val q else m) b
    (r = b ∨ r ∈ (l.filter fun q => mask q = 0).map val) ∧
      (∀ x ∈ (l.filter fun q => mask q = 0).map val, x ≤ r) ∧ b ≤ r := by
  induction l generalizing b with
  | nil => simp
  | cons q l ih =>
    obtain ⟨h1, h2, h3⟩ := ih (if val q > b ∧ 0 = mask q then val q else b)
    simp only [List.foldl_cons]
    by_cases hm : mask q = 0
    · rw [filter_map_cons_of_clear mask val hm, List.forall_mem_cons]
      simp only [hm, and_true] at h1 h2 h3 ⊢
      split_ifs at h1 h2 h3 ⊢ with hb
      · refine ⟨.inr ?_, ⟨h3, h2⟩, hb.le.trans h3⟩
        rcases h1 with h1 | h1
        exacts [by rw [h1]; exact List.mem_cons_self _ _, List.mem_cons_of_mem _ h1]
      · exact ⟨h1.imp_right (List.mem_cons_of_mem _), ⟨(not_lt.1 hb).trans h3, h2⟩, h3⟩
    · rw [filter_map_cons_of_set mask val hm]
      simp only [Ne.symm hm, and_false, if_false] at h1 h2 h3 ⊢
      exact ⟨h1, h2, h3⟩

end Fold

/-- The reads of the fold of `outOfRangeIntra`, at positions in range. -/
theorem foldlM_reads {frame m : List α} (ps : List Nat)
    (hps : ∀ q ∈ ps, q < m.length ∧ q < frame.length) (acc : α × α) :
    ps.foldlM (fun acc q => do
        let mask ← readAt .minMaxMask m q
        let val ← readAt .frame frame q
        return minMaxUpdate acc mask val) acc =
      .ok (ps.foldl (fun acc q => minMaxUpdate acc (m.getD q 0) (frame.getD q 0)) acc) := by
  induction ps generalizing acc with
  | nil => rfl
  | cons q ps ih =>
    obtain ⟨hm, hf⟩ := hps q (List.mem_cons_self _ _)
    rw [List.foldlM_cons, readAt_eq_getD 0 hm, ok_bind, readAt_eq_getD 0 hf, ok_bind, pure_eq_ok,
      ok_bind, List.foldl_cons]
    exact ih (fun q hq => hps q (List.mem_cons_of_mem _ hq)) _

/-- **One window.** When the frame holds only values strictly between the float limits,
`outOfRangeIntra` decides whether the values at the window's positions whose mask is clear
spread over more than the threshold. -/
theorem outOfRangeIntra_eq {frame m : List α} {idx : Nat} {offsets : List Int} {thresh : α}
    (hread : ∀ q ∈ offsets.map (fun off => u32 (idx + off)), q < m.length ∧ q < frame.length)
    (hval : ∀ x ∈ frame, fltLowest < x ∧ x < fltMax) :
    outOfRangeIntra frame m idx offsets thresh = .ok (decide (SpreadExceeds
      (((offsets.map fun off => u32 (idx + off)).filter fun q => m.getD q 0 = 0).map
        fun q => frame.getD q 0) thresh)) := by
  have hfold := foldlM_reads _ hread (fltMax, fltLowest)
  rw [List.foldlM_map] at hfold
  simp only [outOfRangeIntra, hfold, ok_bind, foldl_minMaxUpdate]
  obtain ⟨a1, a2, -⟩ := foldl_minVal (fun q => m.getD q 0) (fun q => frame.getD q 0)
    (offsets.map fun off => u32 (idx + off)) fltMax
  obtain ⟨b1, b2, -⟩ := foldl_maxVal (fun q => m.getD q 0) (fun q => frame.getD q 0)
    (offsets.map fun off => u32 (idx + off)) fltLowest
  have hU : ∀ x ∈ ((offsets.map fun off => u32 (idx + off)).filter fun q => m.getD q 0 = 0).map
      (fun q => frame.getD q 0), fltLowest < x ∧ x < fltMax := by
    intro x hx
    obtain ⟨q, hq, rfl⟩ := List.mem_map.1 hx
    have hq := (List.mem_filter.1 hq).1
    rw [List.getD_eq_getElem _ _ (hread q hq).2]
    exact hval _ (List.getElem_mem _)
  generalize (((offsets.map fun off => u32 (idx + off)).filter fun q => m.getD q 0 = 0).map
    fun q => frame.getD q 0) = U at a1 a2 b1 b2 hU ⊢
  by_cases hne : U = []
  · subst hne
    rw [a1.resolve_right (List.not_mem_nil _), if_pos (.inl rfl)]
    simp [SpreadExceeds]
  · obtain ⟨x, hx⟩ := List.exists_mem_of_ne_nil U hne
    have h1 := ((a2 x hx).trans_lt (hU x hx).2).ne
    have h2 := ((hU x hx).1.trans_le (b2 x hx)).ne'
    rw [if_neg (not_or.2 ⟨h1, h2⟩), pure_eq_ok]
    refine congrArg _ (decide_eq_decide.2 ⟨fun h => ⟨_, b1.resolve_left h2, _, a1.resolve_left h1, h⟩,
      fun ⟨x, hx, y, hy, hxy⟩ => ?_⟩)
    linarith [b2 x hx, a2 y hy]

end Window

/-! ### One pass -/

section Geometry

variable {H W v h : Nat}

/-- The table of offsets of `minMaxIntra` points, from the pixel it visits at `(r, c)`, at the
pixels of the window, when the window lies in a frame addressable in `uint32_t`. -/
theorem minMaxOffsets_map {r c : Nat} (hr : r + v ≤ H) (hc : c + h ≤ W) (hHW : H * W ≤ 2 ^ 32) :
    (minMaxOffsets v h W).map (fun off => u32 (centerIdx W v h r c + off)) =
      windowPixels W v h r c := by
  simp only [minMaxOffsets, windowPixels, List.map_flatMap, List.map_map]
  refine List.flatMap_congr fun i hi => List.map_congr_left fun j hj => ?_
  rw [List.mem_range] at hi hj
  have hlt := pixel_lt (show r + i < H by omega) (show c + j < W by omega)
  have he : (centerIdx W v h r c : Int) + ((W : Int) * ((i : Int) - (v / 2 : Nat)) +
      ((j : Int) - (h / 2 : Nat))) = (((r + i) * W + (c + j) : Nat) : Int) := by
    rw [centerIdx_eq]; push_cast; ring
  simp only [Function.comp, he]
  rw [u32_of_lt (by positivity) (by omega)]
  rfl

end Geometry

section Pass

variable {α : Type} [LinearOrderedField α] (frame : List α) (thresh : α) (W v h : Nat)

/-- The values `minMaxIntra` counts at the pixel it visits at `(r, c)`, when the mask holds `m`:
those of the window's pixels the pass has not marked before it. -/
def unmarkedValues (m : List α) (r c : Nat) : List α :=
  ((windowPixels W v h r c).filter fun q => ¬ (q < centerIdx W v h r c ∧ m.getD q 0 = 1)).map
    fun q => frame.getD q 0

/-- **What one pass computes**, over `nR` lines of `nC` visits. A visited pixel is marked, with
`1`, exactly when the values of its window at the pixels not marked before it spread over more
than the threshold; every other entry of the mask is clear. -/
structure IsMinMaxPass (nR nC : Nat) (m : List α) : Prop where
  visited : ∀ r < nR, ∀ c < nC, m.getD (centerIdx W v h r c) 0 =
    if SpreadExceeds (unmarkedValues frame W v h m r c) thresh then 1 else 0
  other : ∀ k, (∀ r < nR, ∀ c < nC, k ≠ centerIdx W v h r c) → m.getD k 0 = 0

/-- The mask of a pass that has made every visit before the pixel `k`. -/
structure Decided (nR nC L k : Nat) (m : List α) : Prop where
  length : m.length = L
  ahead : ∀ q, k ≤ q → m.getD q 0 = 0
  visited : ∀ r < nR, ∀ c < nC, centerIdx W v h r c < k → m.getD (centerIdx W v h r c) 0 =
    if SpreadExceeds (unmarkedValues frame W v h m r c) thresh then 1 else 0
  other : ∀ q < k, (∀ r < nR, ∀ c < nC, q ≠ centerIdx W v h r c) → m.getD q 0 = 0

variable {frame thresh W v h} {nR nC L k : Nat} {m : List α}

theorem unmarkedValues_congr {m' : List α} {r c : Nat}
    (hm : ∀ q < centerIdx W v h r c, m.getD q 0 = m'.getD q 0) :
    unmarkedValues frame W v h m r c = unmarkedValues frame W v h m' r c := by
  unfold unmarkedValues
  congr 1
  refine List.filter_congr fun q _ => ?_
  by_cases hq : q < centerIdx W v h r c
  · rw [hm q hq]
  · simp [hq]

/-- Every entry of a mask in the making is clear or marked. -/
theorem Decided.zero_or_one (hd : Decided frame thresh W v h nR nC L k m) (q : Nat) :
    m.getD q 0 = 0 ∨ m.getD q 0 = 1 := by
  by_cases hk : k ≤ q
  · exact .inl (hd.ahead q hk)
  by_cases hv : ∃ r < nR, ∃ c < nC, q = centerIdx W v h r c
  · obtain ⟨r, hr, c, hc, rfl⟩ := hv
    rw [hd.visited r hr c hc (by omega)]
    split_ifs <;> simp
  · push_neg at hv
    exact .inl (hd.other q (by omega) hv)

theorem decided_zero (hL : m.length = L) (hm : ∀ q, m.getD q 0 = 0) :
    Decided frame thresh W v h nR nC L 0 m :=
  ⟨hL, fun q _ => hm q, fun _ _ _ _ h => absurd h (Nat.not_lt_zero _),
    fun _ h => absurd h (Nat.not_lt_zero _)⟩

/-- A mask in the making has made the visits up to any pixel with no visit in between. -/
theorem Decided.extend {k' : Nat} (hd : Decided frame thresh W v h nR nC L k m) (hk : k ≤ k')
    (hgap : ∀ q, k ≤ q → q < k' → ∀ r < nR, ∀ c < nC, q ≠ centerIdx W v h r c) :
    Decided frame thresh W v h nR nC L k' m where
  length := hd.length
  ahead q hq := hd.ahead q (hk.trans hq)
  visited r hr c hc hlt := by
    refine hd.visited r hr c hc (Nat.lt_of_not_le fun hle => ?_)
    exact hgap _ hle hlt r hr c hc rfl
  other q hq hv := by
    rcases Nat.lt_or_ge q k with hqk | hqk
    exacts [hd.other q hqk hv, hd.ahead q hqk]

/-- **One visit.** The visit at `(r, c)` decides its pixel from the values of its window at the
pixels not marked before it, and the mask has then made every visit up to the next pixel. -/
theorem Decided.visit {r c : Nat} (hd : Decided frame thresh W v h nR nC L (centerIdx W v h r c) m)
    (hr : r < nR) (hc : c < nC) (hnC : h / 2 + nC ≤ W) (hk : centerIdx W v h r c < L)
    (hread : ∀ q ∈ windowPixels W v h r c, q < L ∧ q < frame.length)
    (hofs : (minMaxOffsets v h W).map (fun off => u32 (centerIdx W v h r c + off)) =
      windowPixels W v h r c)
    (hval : ∀ x ∈ frame, fltLowest < x ∧ x < fltMax) :
    ∃ m', (do
        if (← outOfRangeIntra frame m (centerIdx W v h r c) (minMaxOffsets v h W) thresh) then
          writeAt .minMaxMask m (centerIdx W v h r c) 1
        else return m) = .ok m' ∧
      Decided frame thresh W v h nR nC L (centerIdx W v h r c + 1) m' := by
  set k := centerIdx W v h r c with hkdef
  have hclear : ∀ q ∈ windowPixels W v h r c,
      decide (m.getD q 0 = 0) = decide (¬ (q < k ∧ m.getD q 0 = 1)) := fun q _ => by
    rcases Nat.lt_or_ge q k with hq | hq
    · rcases hd.zero_or_one q with h0 | h0 <;> rw [h0] <;> simp [hq]
    · rw [hd.ahead q hq]; simp [Nat.not_lt.2 hq]
  have hdec := @outOfRangeIntra_eq α _ frame m k (minMaxOffsets v h W) thresh (hofs ▸ fun q hq =>
    hd.length ▸ hread q hq) hval
  rw [hofs, List.filter_congr hclear] at hdec
  set S := SpreadExceeds (unmarkedValues frame W v h m r c) thresh
  have hdec : outOfRangeIntra frame m k (minMaxOffsets v h W) thresh = .ok (decide S) := hdec
  have hm' : ∃ m', (do
        if (← outOfRangeIntra frame m k (minMaxOffsets v h W) thresh) then
          writeAt .minMaxMask m k 1
        else return m) = .ok m' ∧ m'.length = L ∧
      ∀ q, m'.getD q 0 = if q = k then (if S then 1 else 0) else m.getD q 0 := by
    rw [hdec, ok_bind]
    by_cases hS : S
    · refine ⟨m.set k 1, ?_, by rw [List.length_set, hd.length], fun q => ?_⟩
      · rw [decide_eq_true hS]; exact writeAt_of_lt (hd.length ▸ hk)
      · rw [getD_set_eq m 1 (hd.length ▸ hk), if_pos hS]
    · refine ⟨m, by rw [decide_eq_false hS]; rfl, hd.length, fun q => ?_⟩
      split_ifs with hq
      · rw [hq, hd.ahead k le_rfl]
      · rfl
  obtain ⟨m', hrun, hlen, hget⟩ := hm'
  have hbelow : ∀ q < k, m'.getD q 0 = m.getD q 0 := fun q hq => by
    rw [hget, if_neg (Nat.ne_of_lt hq)]
  refine ⟨m', hrun, hlen, fun q hq => ?_, fun r' hr' c' hc' hlt => ?_, fun q hq hv => ?_⟩
  · rw [hget, if_neg (by omega), hd.ahead q (by omega)]
  · rw [unmarkedValues_congr fun q hq => hbelow q (by omega)]
    rcases Nat.lt_or_ge (centerIdx W v h r' c') k with hlt' | hge
    · rw [hbelow _ hlt', hd.visited r' hr' c' hc' hlt']
    · obtain ⟨rfl, rfl⟩ := centerIdx_inj (by omega) (by omega) (show centerIdx W v h r' c' = k by omega)
      rw [hget, if_pos rfl]
  · have hqk : q ≠ k := fun he => hv r hr c hc he
    rw [hget, if_neg hqk, hd.other q (by omega) hv]

/-- **`minMaxIntra` makes one pass.** On a frame of `H × W` values strictly between the float
limits, addressable in `uint32_t`, with a filter of at most `H × W` pixels, `minMaxIntra`
returns without a fault a mask of the frame's size that is one pass of the window
`(filterSize[0] | 1) × (filterSize[1] | 1)` over the `H + 1 - v` lines of `W + 1 - h` pixels
it fits around. -/
theorem minMaxIntra_pass {minMaxMask : List α} {H fv fh : Nat} (hf : frame.length = H * W)
    (hm : minMaxMask.length = H * W) (hv : fv ≤ H) (hh : fh ≤ W) (hH : H < 2 ^ 32)
    (hW : W < 2 ^ 32) (hHW : H * W ≤ 2 ^ 32) (hval : ∀ x ∈ frame, fltLowest < x ∧ x < fltMax) :
    ∃ m, minMaxIntra frame minMaxMask [fv, fh] (H, W) thresh = .ok m ∧ m.length = H * W ∧
      IsMinMaxPass frame thresh W (fv ||| 1) (fh ||| 1) (H + 1 - (fv ||| 1)) (W + 1 - (fh ||| 1))
        m := by
  have ev := lor_one_eq fv
  have eh := lor_one_eq fh
  set v := fv ||| 1
  set h := fh ||| 1
  set nR := H + 1 - v
  set nC := W + 1 - h
  have hnR : u32 ((H : Int) - (v : Nat) + 1) = nR := by rw [u32_of_lt (by omega) (by omega)]; omega
  have hnC : u32 ((W : Int) - (h : Nat) + 1) = nC := by rw [u32_of_lt (by omega) (by omega)]; omega
  simp only [minMaxIntra, List.length_cons, List.length_nil, ne_eq, not_true_eq_false, if_false,
    List.getD_cons_zero, List.getD_cons_succ, hnR, hnC]
  have hwidth : h / 2 + nC ≤ W := by omega
  have hvisit : ∀ r < nR, ∀ c < nC, ∀ m, Decided frame thresh W v h nR nC (H * W)
      (centerIdx W v h r c) m → ∃ m', (do
        if (← outOfRangeIntra frame m (centerIdx W v h r c) (minMaxOffsets v h W) thresh) then
          writeAt .minMaxMask m (centerIdx W v h r c) 1
        else return m) = .ok m' ∧
        Decided frame thresh W v h nR nC (H * W) (centerIdx W v h r (c + 1)) m' := by
    intro r hr c hc m hd
    have hr' : r + v ≤ H := by omega
    have hc' : c + h ≤ W := by omega
    refine hd.visit hr hc hwidth ?_ (fun q hq => ?_) (minMaxOffsets_map hr' hc' hHW) hval
    · rw [centerIdx_eq]; exact pixel_lt (by omega) (by omega)
    · have := windowPixels_lt hr' hc' hq; omega
  have hrow : ∀ r < nR, ∀ m, Decided frame thresh W v h nR nC (H * W) (centerIdx W v h r 0) m →
      ∃ m', forLoop nC (fun colIdx minMaxMask => do
        if (← outOfRangeIntra frame minMaxMask (centerIdx W v h r colIdx) (minMaxOffsets v h W)
            thresh) then writeAt .minMaxMask minMaxMask (centerIdx W v h r colIdx) 1
        else return minMaxMask) m = .ok m' ∧
        Decided frame thresh W v h nR nC (H * W) (centerIdx W v h (r + 1) 0) m' := by
    intro r hr m hd
    obtain ⟨m', hrun, hd'⟩ := forLoop_ok (fun c m => Decided frame thresh W v h nR nC (H * W)
      (centerIdx W v h r c) m) (fun c hc m hd => hvisit r hr c hc m hd) m hd
    refine ⟨m', hrun, hd'.extend ?_ fun q h1 h2 r' _ c' hc' => centerIdx_gap h1 h2 r' c' hc'⟩
    rw [centerIdx_eq, centerIdx_eq, Nat.add_succ, Nat.succ_mul]; omega
  have h0 : Decided frame thresh W v h nR nC (H * W) (centerIdx W v h 0 0)
      (minMaxMask.map fun _ => (0 : α)) :=
    (decided_zero (by rw [List.length_map, hm]) (getD_map_zero minMaxMask)).extend (Nat.zero_le _)
      fun q _ hq r _ c _ he => absurd (he ▸ hq) (Nat.not_lt.2 (centerIdx_zero_le r c))
  obtain ⟨m, hrun, hd⟩ := forLoop_ok (fun r m => Decided frame thresh W v h nR nC (H * W)
    (centerIdx W v h r 0) m) hrow _ h0
  refine ⟨m, hrun, hd.length, fun r hr c hc => hd.visited r hr c hc
    (centerIdx_lt_succ hwidth hc nR hr), fun k hk => ?_⟩
  rcases Nat.lt_or_ge k (centerIdx W v h nR 0) with hlt | hge
  exacts [hd.other k hlt hk, hd.ahead k hge]

/-- Every entry of a pass is clear or marked. -/
theorem IsMinMaxPass.zero_or_one {nR nC : Nat} (hp : IsMinMaxPass frame thresh W v h nR nC m)
    (k : Nat) : m.getD k 0 = 0 ∨ m.getD k 0 = 1 := by
  by_cases hv : ∃ r < nR, ∃ c < nC, k = centerIdx W v h r c
  · obtain ⟨r, hr, c, hc, rfl⟩ := hv
    rw [hp.visited r hr c hc]
    split_ifs <;> simp
  · push_neg at hv
    exact .inl (hp.other k hv)

/-- A pixel a pass marks is one it visits, and two values of its window differ by more than the
threshold. -/
theorem IsMinMaxPass.marked {nR nC k : Nat} (hp : IsMinMaxPass frame thresh W v h nR nC m)
    (hk : m.getD k 0 = 1) : ∃ r < nR, ∃ c < nC, k = centerIdx W v h r c ∧
      SpreadExceeds ((windowPixels W v h r c).map fun q => frame.getD q 0) thresh := by
  by_cases hv : ∃ r < nR, ∃ c < nC, k = centerIdx W v h r c
  · obtain ⟨r, hr, c, hc, rfl⟩ := hv
    rw [hp.visited r hr c hc] at hk
    split_ifs at hk with hS
    · exact ⟨r, hr, c, hc, rfl, spreadExceeds_mono (List.map_subset _ (List.filter_sublist _).subset) hS⟩
    · exact absurd hk zero_ne_one
  · push_neg at hv
    exact absurd ((hp.other k hv).symm.trans hk) zero_ne_one

end Pass

/-! ### Both passes -/

section Recursive

variable {α : Type} [LinearOrderedField α]

theorem getD_zipWith_mul {m r : List α} (hl : m.length = r.length) (k : Nat) :
    (List.zipWith (· * ·) m r).getD k 0 = m.getD k 0 * r.getD k 0 := by
  simp only [List.getD_eq_getElem?_getD, List.getElem?_zipWith]
  rcases Nat.lt_or_ge k m.length with hk | hk
  · rw [List.getElem?_eq_getElem hk, List.getElem?_eq_getElem (hl ▸ hk)]; rfl
  · rw [List.getElem?_eq_none hk, List.getElem?_eq_none (hl ▸ hk)]; simp

/-- The last loop of `minMaxRecursive` multiplies the two masks entry by entry. -/
theorem maskProduct_eq {r m : List α} (hl : r.length = m.length) :
    maskProduct r m = .ok (List.zipWith (· * ·) m r) := by
  obtain ⟨t, ht, hlen, hget⟩ := @forLoop_ok (List α) m.length (fun idx minMaxMask => do
      let a ← readAt .minMaxMask minMaxMask idx
      let b ← readAt .minMaxMaskReversed r idx
      writeAt .minMaxMask minMaxMask idx (a * b)) (fun i t => t.length = m.length ∧
      ∀ k, t.getD k 0 = if k < i then m.getD k 0 * r.getD k 0 else m.getD k 0)
    (fun i hi t ⟨hlen, hget⟩ => by
      have hti : t.getD i 0 = m.getD i 0 := by rw [hget, if_neg (lt_irrefl i)]
      refine ⟨t.set i (m.getD i 0 * r.getD i 0), ?_, by rw [List.length_set, hlen], fun k => ?_⟩
      · beta_reduce
        rw [readAt_eq_getD 0 (hlen ▸ hi), ok_bind, readAt_eq_getD 0 (hl ▸ hi), ok_bind, hti,
          writeAt_of_lt (hlen ▸ hi)]
      · rw [getD_set_eq t _ (hlen ▸ hi), hget]
        split_ifs <;> first | rfl | omega | (subst_vars; rfl))
    m ⟨rfl, fun k => by rw [if_neg (Nat.not_lt_zero k)]⟩
  rw [maskProduct, ht]
  refine congrArg _ (List.ext_getElem (by rw [hlen, List.length_zipWith, hl, min_self])
    fun k hk _ => ?_)
  have h1 := hget k
  rw [if_pos (hlen ▸ hk), ← getD_zipWith_mul hl.symm, List.getD_eq_getElem _ _ hk,
    List.getD_eq_getElem _ _ (by rw [List.length_zipWith, hl, min_self]; exact hlen ▸ hk)] at h1
  exact h1

variable {frame minMaxMask : List α} {thresh : α} {H W fv fh : Nat}

/-- Once both passes return, `minMaxRecursive` returns their product, entry by entry, the second
pass reversed. -/
theorem minMaxRecursive_of_passes {m₁ m₂ : List α} (hv : fv ≤ H) (hh : fh ≤ W)
    (h₁ : minMaxIntra frame (minMaxMask.map fun _ => 0) [fv, fh] (H, W) thresh = .ok m₁)
    (h₂ : minMaxIntra frame.reverse (List.replicate frame.length 0) [fv, fh] (H, W) thresh =
      .ok m₂) (hl : m₂.length = m₁.length) :
    minMaxRecursive frame minMaxMask [fv, fh] (H, W) thresh =
      .ok (List.zipWith (· * ·) m₁ m₂.reverse) := by
  simp only [minMaxRecursive, List.length_cons, List.length_nil, ne_eq, not_true_eq_false,
    if_false, List.getD_cons_zero, List.getD_cons_succ, pure_eq_ok, ok_bind]
  rw [if_neg (by omega), h₁, ok_bind, h₂, ok_bind, maskProduct_eq (by rw [List.length_reverse, hl])]

section Passes

variable (hf : frame.length = H * W) (hm : minMaxMask.length = H * W) (hv : fv ≤ H) (hh : fh ≤ W)
  (hH : H < 2 ^ 32) (hW : W < 2 ^ 32) (hHW : H * W ≤ 2 ^ 32)
  (hval : ∀ x ∈ frame, fltLowest < x ∧ x < fltMax)
include hf hm hv hh hH hW hHW hval

/-- The first pass of `minMaxRecursive`, over the frame with a cleared mask. -/
theorem minMaxRecursive_forward_pass :
    ∃ m, minMaxIntra frame (minMaxMask.map fun _ => 0) [fv, fh] (H, W) thresh = .ok m ∧
      m.length = H * W ∧
      IsMinMaxPass frame thresh W (fv ||| 1) (fh ||| 1) (H + 1 - (fv ||| 1)) (W + 1 - (fh ||| 1))
        m :=
  @minMaxIntra_pass α _ frame thresh W _ H fv fh hf (by rw [List.length_map, hm]) hv hh hH hW hHW
    hval

omit hm in
/-- The second pass of `minMaxRecursive`, over the reversed frame with a cleared mask. -/
theorem minMaxRecursive_reverse_pass :
    ∃ m, minMaxIntra frame.reverse (List.replicate frame.length 0) [fv, fh] (H, W) thresh =
        .ok m ∧ m.length = H * W ∧
      IsMinMaxPass frame.reverse thresh W (fv ||| 1) (fh ||| 1) (H + 1 - (fv ||| 1))
        (W + 1 - (fh ||| 1)) m :=
  @minMaxIntra_pass α _ frame.reverse thresh W _ H fv fh (by rw [List.length_reverse, hf])
    (by rw [List.length_replicate, hf]) hv hh hH hW hHW fun x hx => hval x (List.mem_reverse.1 hx)

end Passes

/-- **`minMaxRecursive` is the product of two passes.** On a frame of `H × W` values strictly
between the float limits, addressable in `uint32_t`, with a filter of at most `H × W` pixels,
`minMaxRecursive` returns without a fault the product, entry by entry, of a pass over the frame
and of the reverse of a pass over the reversed frame. -/
theorem minMaxRecursive_eq (hf : frame.length = H * W) (hm : minMaxMask.length = H * W)
    (hv : fv ≤ H) (hh : fh ≤ W) (hH : H < 2 ^ 32) (hW : W < 2 ^ 32) (hHW : H * W ≤ 2 ^ 32)
    (hval : ∀ x ∈ frame, fltLowest < x ∧ x < fltMax) :
    ∃ m₁ m₂, m₁.length = H * W ∧
      IsMinMaxPass frame thresh W (fv ||| 1) (fh ||| 1) (H + 1 - (fv ||| 1)) (W + 1 - (fh ||| 1))
        m₁ ∧ m₂.length = H * W ∧
      IsMinMaxPass frame.reverse thresh W (fv ||| 1) (fh ||| 1) (H + 1 - (fv ||| 1))
        (W + 1 - (fh ||| 1)) m₂ ∧
      minMaxRecursive frame minMaxMask [fv, fh] (H, W) thresh =
        .ok (List.zipWith (· * ·) m₁ m₂.reverse) := by
  obtain ⟨m₁, h₁, hl₁, hp₁⟩ := minMaxRecursive_forward_pass hf hm hv hh hH hW hHW hval
  obtain ⟨m₂, h₂, hl₂, hp₂⟩ := minMaxRecursive_reverse_pass hf hv hh hH hW hHW hval
  exact ⟨m₁, m₂, hl₁, hp₁, hl₂, hp₂, minMaxRecursive_of_passes hv hh h₁ h₂ (hl₂.trans hl₁.symm)⟩

/-- `minMaxRecursive` on a frame of `3 × 3` values with a spike of `5` at its center and a
filter of three by three. -/
theorem minMaxRecursive_eq_threeByThree :
    ∃ m₁ m₂ : List ℚ, m₁.length = 3 * 3 ∧
      IsMinMaxPass [0, 0, 0, 0, 5, 0, 0, 0, 0] 1 3 (3 ||| 1) (3 ||| 1) (3 + 1 - (3 ||| 1))
        (3 + 1 - (3 ||| 1)) m₁ ∧ m₂.length = 3 * 3 ∧
      IsMinMaxPass [0, 0, 0, 0, 5, 0, 0, 0, 0].reverse 1 3 (3 ||| 1) (3 ||| 1) (3 + 1 - (3 ||| 1))
        (3 + 1 - (3 ||| 1)) m₂ ∧
      minMaxRecursive [0, 0, 0, 0, 5, 0, 0, 0, 0] (List.replicate 9 0) [3, 3] (3, 3) 1 =
        .ok (List.zipWith (· * ·) m₁ m₂.reverse) :=
  minMaxRecursive_eq rfl rfl le_rfl le_rfl (by norm_num) (by norm_num) (by norm_num)
    (by norm_num [fltLowest, fltMax])

/-- **The min-max mask is sound.** On such a frame, `minMaxRecursive` returns without a fault a
mask of `0` and `1` of the frame's size, and marks a pixel only where the window fits around it
and two values of its window differ by more than the threshold. So on a frame whose windows all
spread over at most the threshold, it marks nothing. -/
theorem minMaxRecursive_sound (hf : frame.length = H * W) (hm : minMaxMask.length = H * W)
    (hv : fv ≤ H) (hh : fh ≤ W) (hH : H < 2 ^ 32) (hW : W < 2 ^ 32) (hHW : H * W ≤ 2 ^ 32)
    (hval : ∀ x ∈ frame, fltLowest < x ∧ x < fltMax) :
    ∃ mask, minMaxRecursive frame minMaxMask [fv, fh] (H, W) thresh = .ok mask ∧
      mask.length = H * W ∧ ∀ k, (mask.getD k 0 = 0 ∨ mask.getD k 0 = 1) ∧
        (mask.getD k 0 = 1 → ∃ r < H + 1 - (fv ||| 1), ∃ c < W + 1 - (fh ||| 1),
          k = centerIdx W (fv ||| 1) (fh ||| 1) r c ∧ SpreadExceeds
            ((windowPixels W (fv ||| 1) (fh ||| 1) r c).map fun q => frame.getD q 0) thresh) := by
  obtain ⟨m₁, h₁, hl₁, hp₁⟩ := minMaxRecursive_forward_pass hf hm hv hh hH hW hHW hval
  obtain ⟨m₂, h₂, hl₂, hp₂⟩ := minMaxRecursive_reverse_pass hf hv hh hH hW hHW hval
  have hl : m₁.length = m₂.reverse.length := by rw [List.length_reverse, hl₁, hl₂]
  refine ⟨_, minMaxRecursive_of_passes hv hh h₁ h₂ (hl₂.trans hl₁.symm),
    by rw [List.length_zipWith, ← hl, min_self, hl₁], fun k => ?_⟩
  rw [getD_zipWith_mul hl]
  have h₂ : m₂.reverse.getD k 0 = 0 ∨ m₂.reverse.getD k 0 = 1 := by
    rcases Nat.lt_or_ge k m₂.length with hk | hk
    · rw [List.getD_eq_getElem?_getD, List.getElem?_reverse hk, ← List.getD_eq_getElem?_getD]
      exact hp₂.zero_or_one _
    · rw [List.getD_eq_getElem?_getD, List.getElem?_eq_none (by rw [List.length_reverse]; omega)]
      exact .inl rfl
  rcases hp₁.zero_or_one k with h0 | h1
  · rw [h0, zero_mul]
    exact ⟨.inl rfl, fun h => absurd h zero_ne_one⟩
  · rw [h1, one_mul]
    exact ⟨h₂, fun _ => hp₁.marked h1⟩

/-- The soundness of `minMaxRecursive` on a frame of `3 × 3` values with a spike of `5` at its
center and a filter of three by three. -/
theorem minMaxRecursive_sound_threeByThree :
    ∃ mask, minMaxRecursive [(0 : ℚ), 0, 0, 0, 5, 0, 0, 0, 0] (List.replicate 9 0) [3, 3] (3, 3) 1 =
        .ok mask ∧ mask.length = 3 * 3 ∧ ∀ k, (mask.getD k 0 = 0 ∨ mask.getD k 0 = 1) ∧
        (mask.getD k 0 = 1 → ∃ r < 3 + 1 - (3 ||| 1), ∃ c < 3 + 1 - (3 ||| 1),
          k = centerIdx 3 (3 ||| 1) (3 ||| 1) r c ∧ SpreadExceeds
            ((windowPixels 3 (3 ||| 1) (3 ||| 1) r c).map fun q =>
              [(0 : ℚ), 0, 0, 0, 5, 0, 0, 0, 0].getD q 0) 1) :=
  minMaxRecursive_sound rfl rfl le_rfl le_rfl (by norm_num) (by norm_num) (by norm_num)
    (by norm_num [fltLowest, fltMax])

end Recursive

end RawToDepthDsp

end Cobra
