import Cobra.Smooth.Writes

/-!
# Filling the Missing Rows

A scan may leave rows of the raw frame unacquired; `activeRows` says which rows it acquired.
`RawToDepthDsp::fillMissingRows` copies the first and the last row of the frame, and fills
every other row from its neighbours: an inactive row between two active rows gets their mean,
an inactive row next to one active row a copy of it, and any other row keeps the input. A
frame of fewer than three rows is copied as it is. `localProcessFrame` runs it on both raw
frames before binning.

## Conventions

As in `Cobra.Smooth.Writes`: samples are exact values of a field, `operator[]` of the frames
and of `activeRows` goes through `readAt` and `writeAt`, and `std::copy` is `copyAll`. Index
arithmetic follows the source's types: the row pitch and the sample indices of the interior
rows are `uint32_t` (`u32`), the index of the bottom row is the `int` value of a `uint32_t`
product (`int32OfU32`) and an `int` index is converted to `size_t` (`sizeT`). The output
vector is the pool vector `f0RawFilled` or `f1RawFilled`, as long as the input and holding
whatever the pool left in it.

## Main results

* `filledSample`: what the routine leaves at each sample, stated by rows.
* `fillMissingRows_eq`: on a frame of at least three rows, of fewer than `2 ^ 31` samples, with
  a flag for every row, the routine returns without a fault `filledSample` at every sample of
  the frame and the output vector's old values after it.
* `fillMissingRows_of_lt`: a frame of fewer than three rows is copied.
-/

namespace Cobra

namespace RawToDepthDsp

section Code

variable {α : Type} [Field α]

/-- One sample of an interior row of `fillMissingRows`, at column `col` of row `row`, the
row's flag and its neighbours' read. -/
def fillStep (inFrame : List α) (rowPitch row : Nat)
    (thisRowActive upRowActive downRowActive : Bool) (col : Nat) (outFrame : List α) :
    Except Fault (List α) := do
  let idx := u32 (col + row * rowPitch)
  let upidx := u32 (idx - rowPitch)
  let downidx := u32 (idx + rowPitch)
  let downval ← readAt .inFrame inFrame downidx
  let upval ← readAt .inFrame inFrame upidx
  let val ← readAt .inFrame inFrame idx
  if !thisRowActive && upRowActive && downRowActive then
    writeAt .outFrame outFrame idx (1 / 2 * (upval + downval))
  else if !thisRowActive && upRowActive then writeAt .outFrame outFrame idx upval
  else if !thisRowActive && downRowActive then writeAt .outFrame outFrame idx downval
  else writeAt .outFrame outFrame idx val

/-- `fillMissingRows(inFrame, outFrame, frameSize, activeRows)`. -/
def fillMissingRows (inFrame outFrame : List α) (frameSize : Nat × Nat) (activeRows : List Bool) :
    Except Fault (List α) := do
  if frameSize.1 < 3 then
    return ← copyAll .inFrame .outFrame inFrame outFrame
  let rowPitch := u32 (frameSize.2 * numGpixelPhases)
  let idxBottomRow := int32OfU32 (u32 (((frameSize.1 : Int) - 1) * frameSize.2 * numGpixelPhases))
  let outFrame ← forLoop rowPitch (fun col outFrame => do
    let outFrame ← writeAt .outFrame outFrame col (← readAt .inFrame inFrame col)
    writeAt .outFrame outFrame (sizeT (idxBottomRow + col))
      (← readAt .inFrame inFrame (sizeT (idxBottomRow + col)))) outFrame
  forLoop (frameSize.1 - 2) (fun r outFrame => do
    let row := r + 1
    let thisRowActive ← readAt .activeRows activeRows row
    let upRowActive ← readAt .activeRows activeRows (row - 1)
    let downRowActive ← readAt .activeRows activeRows (row + 1)
    forLoop rowPitch (fillStep inFrame rowPitch row thisRowActive upRowActive downRowActive)
      outFrame) outFrame

end Code

section Spec

variable {α : Type} [Field α] {inFrame outFrame : List α} {activeRows : List Bool}
  {H P W : Nat}

/-- What `fillMissingRows` leaves at sample `k` of a frame of `H` rows of `P` samples. A sample
of the first or the last row, or of an active row, is the input's. A sample of an inactive row
is the mean of the samples above and below when both rows are active, the sample of the one
active neighbour when only one is, and the input's when neither is. -/
def filledSample (inFrame : List α) (activeRows : List Bool) (H P k : Nat) : α :=
  let row := k / P
  let active := fun r => activeRows.getD r false
  let sampleAt := fun r => inFrame.getD (r * P + k % P) 0
  if row = 0 ∨ row = H - 1 ∨ active row then sampleAt row
  else if active (row - 1) ∧ active (row + 1) then 1 / 2 * (sampleAt (row - 1) + sampleAt (row + 1))
  else if active (row - 1) then sampleAt (row - 1)
  else if active (row + 1) then sampleAt (row + 1)
  else sampleAt row

/-- The row and the column of sample `row * P + col`. -/
theorem div_mod_row {col row : Nat} (hc : col < P) :
    (row * P + col) / P = row ∧ (row * P + col) % P = col := by
  rw [Nat.add_comm, Nat.add_mul_div_right _ _ (by omega), Nat.div_eq_of_lt hc, Nat.zero_add,
    Nat.add_mul_mod_self_right, Nat.mod_eq_of_lt hc]
  exact ⟨rfl, rfl⟩

theorem filledSample_edge {col row : Nat} (hc : col < P) (hrow : row = 0 ∨ row = H - 1) :
    filledSample inFrame activeRows H P (row * P + col) = inFrame.getD (row * P + col) 0 := by
  simp only [filledSample, (div_mod_row hc).1, (div_mod_row hc).2]
  rw [if_pos (hrow.imp id .inl)]

/-- An interior sample, with the branches in the order the code tests them. -/
theorem filledSample_interior {col row : Nat} (hc : col < P) (h1 : 1 ≤ row) (h2 : row + 1 < H) :
    filledSample inFrame activeRows H P (row * P + col) =
      let a := fun r => activeRows.getD r false
      let v := fun r => inFrame.getD (r * P + col) 0
      if !a row && a (row - 1) && a (row + 1) then 1 / 2 * (v (row - 1) + v (row + 1))
      else if !a row && a (row - 1) then v (row - 1)
      else if !a row && a (row + 1) then v (row + 1)
      else v row := by
  simp only [filledSample, (div_mod_row hc).1, (div_mod_row hc).2, show row ≠ 0 by omega,
    show row ≠ H - 1 by omega, false_or]
  cases activeRows.getD row false <;> cases activeRows.getD (row - 1) false <;>
    cases activeRows.getD (row + 1) false <;> rfl

/-- A sample of an edge row or of an active row is the input's. -/
theorem filledSample_of_kept {k : Nat}
    (h : k / P = 0 ∨ k / P = H - 1 ∨ activeRows.getD (k / P) false) :
    filledSample inFrame activeRows H P k = inFrame.getD k 0 := by
  simp only [filledSample, if_pos h, Nat.div_add_mod']

end Spec

section Rows

variable {H : Nat}

/-- A sample of a frame of `H` rows of `P` samples lies in one of its rows. -/
theorem exists_row {P k : Nat} (hk : k < H * P) : ∃ r < H, r * P ≤ k ∧ k < r * P + P := by
  have hP : 0 < P := Nat.pos_of_ne_zero fun h => by simp [h] at hk
  have := Nat.div_add_mod' k P
  have := Nat.mod_lt k hP
  exact ⟨k / P, Nat.div_lt_of_lt_mul (by rwa [Nat.mul_comm]), by omega, by omega⟩

/-- The samples the two loops write: the two edge rows and the rows between them. -/
theorem fill_positions_iff {P k : Nat} (hH : 3 ≤ H) :
    ((∃ col < P, k = col ∨ k = (H - 1) * P + col) ∨
      ∃ r < H - 2, (r + 1) * P ≤ k ∧ k < (r + 1) * P + P) ↔ k < H * P := by
  have hlast : (H - 1) * P + P = H * P := by
    rw [Nat.sub_one_mul, Nat.sub_add_cancel (Nat.le_mul_of_pos_left P (by omega))]
  constructor
  · rintro (⟨col, hc, rfl | rfl⟩ | ⟨r, hr, -, h2⟩)
    · have := Nat.le_mul_of_pos_left P (show 0 < H by omega); omega
    · omega
    · have := Nat.mul_le_mul_right P (show r + 1 + 1 ≤ H by omega)
      rw [Nat.succ_mul (r + 1)] at this; omega
  · intro hk
    obtain ⟨r, hr, h1, h2⟩ := exists_row hk
    by_cases h0 : r = 0
    · subst h0; exact .inl ⟨k, by simpa using h2, .inl rfl⟩
    by_cases hH1 : r = H - 1
    · subst hH1; exact .inl ⟨k - (H - 1) * P, by omega, .inr (by omega)⟩
    · exact .inr ⟨r - 1, by omega, by rwa [Nat.sub_add_cancel (by omega)],
        by rwa [Nat.sub_add_cancel (by omega)]⟩

end Rows

section Run

variable {α : Type} [Field α] {inFrame outFrame : List α} {activeRows : List Bool} {H W : Nat}

/-- The first loop: both edge rows copied. -/
theorem fillEdges_updates {B : Int} (hB : B = ((H - 1) * (3 * W) : Nat)) (hH : 3 ≤ H)
    (hin : H * (3 * W) ≤ inFrame.length) (hout : H * (3 * W) ≤ outFrame.length)
    (hsize : H * (3 * W) < 2 ^ 31) :
    ∃ t, forLoop (3 * W) (fun col outFrame => do
        let outFrame ← writeAt .outFrame outFrame col (← readAt .inFrame inFrame col)
        writeAt .outFrame outFrame (sizeT (B + col))
          (← readAt .inFrame inFrame (sizeT (B + col)))) outFrame = .ok t ∧
      Updates (fun k => ∃ col < 3 * W, k = col ∨ k = (H - 1) * (3 * W) + col)
        (filledSample inFrame activeRows H (3 * W)) outFrame t := by
  have hrow : (H - 1) * (3 * W) + 3 * W = H * (3 * W) := by
    rw [← Nat.succ_mul, Nat.succ_eq_add_one, Nat.sub_add_cancel (by omega)]
  refine forLoop_updates (fun col hc t ht => ?_) rfl
  have hc' : col < H * (3 * W) := by
    have := Nat.mul_le_mul_right (3 * W) (show 1 ≤ H by omega); omega
  have htop := @filledSample_edge α _ inFrame activeRows H (3 * W) col 0 hc (.inl rfl)
  have hbot := @filledSample_edge α _ inFrame activeRows H (3 * W) col (H - 1) hc (.inr rfl)
  rw [Nat.zero_mul, Nat.zero_add] at htop
  have hs : sizeT (B + col) = (H - 1) * (3 * W) + col := by
    rw [hB, ← Nat.cast_add, sizeT_of_lt (by omega) (by omega)]; rfl
  rw [hs]
  refine ⟨_, ?_, ((set_updates (by omega)).trans (set_updates
    (by rw [List.length_set]; omega))).of_iff fun k => Iff.rfl⟩
  rw [readAt_eq_getD 0 (by omega), ok_bind, writeAt_of_lt (by omega), ok_bind,
    readAt_eq_getD 0 (by omega), ok_bind, writeAt_of_lt (by rw [List.length_set]; omega), htop, hbot]

/-- One interior sample sets its position to `filledSample`. -/
theorem fillStep_eq {row col : Nat} (hc : col < 3 * W) (h1 : 1 ≤ row) (h2 : row + 1 < H)
    (hin : H * (3 * W) ≤ inFrame.length) (hsize : H * (3 * W) < 2 ^ 31) {t : List α}
    (ht : H * (3 * W) ≤ t.length) :
    fillStep inFrame (3 * W) row (activeRows.getD row false) (activeRows.getD (row - 1) false)
        (activeRows.getD (row + 1) false) col t =
      .ok (t.set (row * (3 * W) + col)
        (filledSample inFrame activeRows H (3 * W) (row * (3 * W) + col))) := by
  have hlt : ∀ r, r < H → r * (3 * W) + col < H * (3 * W) := fun r hr => by
    have := Nat.mul_le_mul_right (3 * W) (show r + 1 ≤ H by omega)
    rw [Nat.succ_mul] at this; omega
  have hup : (row - 1) * (3 * W) + col + 3 * W = row * (3 * W) + col := by
    rw [Nat.sub_one_mul]; have := Nat.le_mul_of_pos_left (3 * W) (show 0 < row by omega); omega
  have hidx : u32 ((col : Int) + (row : Int) * ((3 * W : Nat) : Int)) = row * (3 * W) + col := by
    rw [show (col : Int) + (row : Int) * ((3 * W : Nat) : Int) = ((row * (3 * W) + col : Nat) : Int)
      by push_cast; ring, u32_natCast (by have := hlt row (by omega); omega)]
  have hupidx : u32 (((row * (3 * W) + col : Nat) : Int) - ((3 * W : Nat) : Int)) =
      (row - 1) * (3 * W) + col := by
    rw [← hup, show (((row - 1) * (3 * W) + col + 3 * W : Nat) : Int) - ((3 * W : Nat) : Int) =
      (((row - 1) * (3 * W) + col : Nat) : Int) by push_cast; ring,
      u32_natCast (by have := hlt (row - 1) (by omega); omega)]
  have hdownidx : u32 (((row * (3 * W) + col : Nat) : Int) + ((3 * W : Nat) : Int)) =
      (row + 1) * (3 * W) + col := by
    rw [show (((row * (3 * W) + col : Nat) : Int) + ((3 * W : Nat) : Int)) =
      (((row + 1) * (3 * W) + col : Nat) : Int) by push_cast; ring,
      u32_natCast (by have := hlt (row + 1) (by omega); omega)]
  rw [filledSample_interior hc h1 h2]
  simp only [fillStep, hidx, hupidx, hdownidx]
  rw [readAt_eq_getD 0 (by have := hlt (row + 1) (by omega); omega), ok_bind,
    readAt_eq_getD 0 (by have := hlt (row - 1) (by omega); omega), ok_bind,
    readAt_eq_getD 0 (by have := hlt row (by omega); omega), ok_bind]
  have hk : row * (3 * W) + col < t.length := by have := hlt row (by omega); omega
  split_ifs <;> rw [writeAt_of_lt hk]

/-- **What `fillMissingRows` computes.** On a frame of `H ≥ 3` rows of `W` pixels, of fewer
than `2 ^ 31` samples, with an output vector at least as long and a flag for every row,
`fillMissingRows` returns without a fault `filledSample` at every sample of the frame, and
the output vector's old values after them. -/
theorem fillMissingRows_eq (hH : 3 ≤ H) (hin : H * (3 * W) ≤ inFrame.length)
    (hout : H * (3 * W) ≤ outFrame.length) (ha : H ≤ activeRows.length)
    (hsize : H * (3 * W) < 2 ^ 31) :
    fillMissingRows inFrame outFrame (H, W) activeRows =
      .ok ((List.range (H * (3 * W))).map (filledSample inFrame activeRows H (3 * W)) ++
        outFrame.drop (H * (3 * W))) := by
  have hW : 3 * W < 2 ^ 31 := by
    have := Nat.le_mul_of_pos_left (3 * W) (show 0 < H by omega); omega
  have hpitch : u32 ((W : Int) * (numGpixelPhases : Nat)) = 3 * W := by
    rw [show (W : Int) * (numGpixelPhases : Nat) = ((3 * W : Nat) : Int) by
      simp only [numGpixelPhases]; push_cast; ring, u32_natCast (by omega)]
  have hbot : int32OfU32 (u32 (((H : Int) - 1) * W * (numGpixelPhases : Nat))) =
      (((H - 1) * (3 * W) : Nat) : Int) := by
    have : (H - 1) * (3 * W) < 2 ^ 31 := by
      have := Nat.mul_le_mul_right (3 * W) (show H - 1 ≤ H by omega); omega
    rw [show ((H : Int) - 1) * W * (numGpixelPhases : Nat) = (((H - 1) * (3 * W) : Nat) : Int) by
      simp only [numGpixelPhases]; push_cast [Nat.cast_sub (show 1 ≤ H by omega)]; ring,
      u32_natCast (by omega), int32OfU32, if_pos this]
  simp only [fillMissingRows, if_neg (show ¬ H < 3 by omega), hpitch, pure_eq_ok, ok_bind]
  obtain ⟨t1, ht1, hu1⟩ := @fillEdges_updates α _ inFrame outFrame activeRows H W _ hbot hH hin hout hsize
  rw [ht1, ok_bind]
  refine forLoop_updates_eq (w := filledSample inFrame activeRows H (3 * W))
    (P := fun r k => (r + 1) * (3 * W) ≤ k ∧ k < (r + 1) * (3 * W) + 3 * W)
    (fun r hr t ht => ?_) hu1.length fun t2 hu2 =>
      Updates.eq_map_range ((hu1.trans hu2).of_iff fun k => fill_positions_iff hH) hout
  have hrow : (r + 1) * (3 * W) + 3 * W ≤ H * (3 * W) := by
    have := Nat.mul_le_mul_right (3 * W) (show r + 1 + 1 ≤ H by omega)
    rwa [Nat.succ_mul (r + 1)] at this
  beta_reduce
  rw [readAt_eq_getD false (by omega), ok_bind, readAt_eq_getD false (by omega), ok_bind,
    readAt_eq_getD false (by omega), ok_bind]
  obtain ⟨t', ht', hu⟩ := forLoop_updates (P := fun col k => k = (r + 1) * (3 * W) + col)
    (fun col hc u hu => ⟨_, fillStep_eq hc (by omega) (by omega) hin hsize (by omega),
      set_updates (by omega)⟩) ht
  exact ⟨t', ht', hu.of_iff fun k => ⟨fun ⟨col, hc, he⟩ => by omega,
    fun h => ⟨k - (r + 1) * (3 * W), by omega, by omega⟩⟩⟩

/-- `fillMissingRows` on a frame of three rows of one pixel whose middle row is missing. -/
theorem fillMissingRows_eq_threeRows :
    fillMissingRows [1, 1, 1, 0, 0, 0, 3, 3, 3] (List.replicate 9 (0 : ℚ)) (3, 1)
        [true, false, true] =
      .ok ((List.range (3 * (3 * 1))).map
          (filledSample [1, 1, 1, 0, 0, 0, 3, 3, 3] [true, false, true] 3 (3 * 1)) ++
        (List.replicate 9 (0 : ℚ)).drop (3 * (3 * 1))) :=
  fillMissingRows_eq le_rfl (by decide) (by decide) le_rfl (by norm_num)

/-- A frame of fewer than three rows is copied. -/
theorem fillMissingRows_of_lt (hH : H < 3) (hl : inFrame.length ≤ outFrame.length) :
    fillMissingRows inFrame outFrame (H, W) activeRows =
      .ok (inFrame ++ outFrame.drop inFrame.length) := by
  simp only [fillMissingRows, if_pos hH, copyAll_eq hl, ok_bind, pure_eq_ok]

end Run

end RawToDepthDsp

end Cobra
