import Mathlib.Data.Rat.Defs
import Cobra.Metadata

/-!
# Per-ROI Signal Processing

The static routines of `RawToDepthDsp` that the grid engine runs on every ROI: `sh2f`, which
masks and shifts raw words into sample values, `tapRotation`, which sums the three tap
permutations of one modulation frequency, and `snrVoteV2`, which keeps, pixel by pixel, the
raw triple of higher squared SNR in the FOV-sized buffers.

Sample values are the exact integers the `float`s hold: raw words are below `2 ^ 16` and tap
sums below `2 ^ 18`, well inside the 24-bit mantissa. The squared SNR is a quotient, so it is
computed in `ℚ`, and its division by zero follows IEEE 754: a positive numerator over zero
is `+∞`, zero over zero is NaN, and NaN compares false (`Snr`).

## Main results

* `computeSnrSquared_ok`: the SNR of a triple inside the buffer is computed without fault.
* `snrVoteV2_error_of_offset`: the first SNR comparison of `snrVoteV2` reads the FOV SNR buffer
  at the offset itself, so an offset past the buffer faults as soon as the ROI has a pixel.
* `tapRotation_ok`: tap rotation never faults unless the ROI vector ends inside the third
  permutation image, past its size guard.
* `tapRotation_sums`: once the ROI vector holds the third permutation image, the frame is the
  cyclic sums of the three permutations, with or without tap rotation.
* `tapRotation_copies`: without tap rotation the frequency's image is copied through, as long
  as the ROI vector ends before the size guard of the sums.
* `tapRotation_past_guard`: past the guard, tap rotation faults or sums, whatever the tap
  switch.
* `snrVoteV2_ok`: SNR voting never faults when the FOV buffers cover the ROI's pixels at the
  offset.
-/

namespace Cobra

/-! ### Squared SNR values -/

/-- A `float` squared SNR: finite, `+∞`, or NaN. -/
inductive Snr where
  | fin (q : ℚ)
  | inf
  | nan
  deriving DecidableEq, Repr

namespace Snr

/-- IEEE addition of two squared SNRs, which are never `-∞`. -/
def add : Snr → Snr → Snr
  | nan, _ | _, nan => nan
  | inf, _ | _, inf => inf
  | fin a, fin b => fin (a + b)

/-- IEEE `a > b`: false whenever NaN is involved, and `+∞` is above every finite value. -/
def gt : Snr → Snr → Bool
  | nan, _ | _, nan => false
  | inf, inf => false
  | inf, fin _ => true
  | fin _, inf => false
  | fin a, fin b => decide (b < a)

end Snr

namespace RawToDepthDsp

/-- One raw word as `sh2f` converts it: `float_t(uint32_t(src & rawMask) >> shiftr)`. -/
def rawValue (shiftr mask : Nat) (x : UInt16) : Nat := (x.toNat &&& mask) >>> shiftr

/-- `sh2f`: convert the raw words of an ROI into sample values. -/
def sh2f (src : List UInt16) (shiftr mask : Nat) : List Nat := src.map (rawValue shiftr mask)

@[simp] theorem length_sh2f (src : List UInt16) (shiftr mask : Nat) :
    (sh2f src shiftr mask).length = src.length := List.length_map _ _

/-- The squared SNR `(a + b - 2 c) ^ 2 / (2 c)` of a triple whose smallest element is `c`. -/
def snrOf (a b c : Nat) : Snr :=
  let num : ℚ := (a : ℚ) + b - 2 * c
  if c = 0 then (if num = 0 then .nan else .inf) else .fin (num * num / (2 * c))

/-- `computeSnrSquared`: rotate the triple at pixel `idx` until its smallest element is last,
then take its squared SNR. -/
def computeSnrSquared (rawRoi : List Nat) (idx : Nat) : Except Fault Snr := do
  let aIdx := idx * numGpixelPhases
  let rawA ← readAt .rotatedRoi rawRoi aIdx
  let rawB ← readAt .rotatedRoi rawRoi (aIdx + 1)
  let rawC ← readAt .rotatedRoi rawRoi (aIdx + 2)
  if rawA ≤ rawB ∧ rawA ≤ rawC then return snrOf rawB rawC rawA
  else if rawB ≤ rawC ∧ rawB < rawA then return snrOf rawC rawA rawB
  else return snrOf rawA rawB rawC

theorem computeSnrSquared_ok {rawRoi : List Nat} {idx : Nat}
    (h : numGpixelPhases * (idx + 1) ≤ rawRoi.length) :
    ∃ v, computeSnrSquared rawRoi idx = .ok v := by
  simp only [numGpixelPhases] at h
  simp only [computeSnrSquared, numGpixelPhases, readAt_of_lt (show idx * 3 < rawRoi.length by omega),
    readAt_of_lt (show idx * 3 + 1 < rawRoi.length by omega),
    readAt_of_lt (show idx * 3 + 2 < rawRoi.length by omega), ok_bind]
  split_ifs <;> exact ⟨_, rfl⟩

/-- The state `snrVoteV2` updates: the two frequency buffers of one ping/pong side and the
FOV-sized squared SNR buffer. -/
structure Vote where
  rawFov : Fin 2 → List Nat
  snrSquaredFov : List Snr

/-- One iteration of `snrVoteV2`: compare the pixel's summed squared SNR with the stored one
and, when it is higher, copy both raw triples into the FOV at `fovOffset` and store it. All
index arithmetic is `uint32_t`. -/
def snrVoteStep (roi0 roi1 : List Nat) (fovOffset idx : Nat) (v : Vote) : Except Fault Vote := do
  let snr0 ← computeSnrSquared roi0 idx
  let snr1 ← computeSnrSquared roi1 idx
  let snr := snr0.add snr1
  let cur ← readAt .fovSnrV2 v.snrSquaredFov ((idx + fovOffset) % 2 ^ 32)
  if snr.gt cur then
    let aIdx := idx * numGpixelPhases
    let offset := numGpixelPhases * fovOffset
    let copy := fun (fov roi : List Nat) => do
      let fov ← writeAt .fRawFrames fov ((aIdx + offset) % 2 ^ 32) (← readAt .rotatedRoi roi aIdx)
      let fov ← writeAt .fRawFrames fov ((aIdx + offset + 1) % 2 ^ 32)
        (← readAt .rotatedRoi roi (aIdx + 1))
      writeAt .fRawFrames fov ((aIdx + offset + 2) % 2 ^ 32) (← readAt .rotatedRoi roi (aIdx + 2))
    let fov0 ← copy (v.rawFov 0) roi0
    let fov1 ← copy (v.rawFov 1) roi1
    let snrFov ← writeAt .fovSnrV2 v.snrSquaredFov ((idx + fovOffset) % 2 ^ 32) snr
    return ⟨fun i => if i = 0 then fov0 else fov1, snrFov⟩
  else return v

/-- `snrVoteV2(roi0, roi1, rawFov, snrSquaredFov, fovOffset)`: one vote per raw triple of the
rotated ROIs. -/
def snrVoteV2 (roi0 roi1 : List Nat) (v : Vote) (fovOffset : Nat) : Except Fault Vote :=
  forLoop (roi0.length / numGpixelPhases) (snrVoteStep roi0 roi1 fovOffset) v

/-- **The vote reads the SNR buffer at the offset first.** When the rotated ROIs hold at least
one pixel and the offset lies past the end of the SNR buffer, `snrVoteV2` faults there. -/
theorem snrVoteV2_error_of_offset {roi0 roi1 : List Nat} {v : Vote} {fovOffset : Nat}
    (h0 : numGpixelPhases ≤ roi0.length) (h1 : numGpixelPhases ≤ roi1.length)
    (hoff : fovOffset < 2 ^ 32) (hlen : v.snrSquaredFov.length ≤ fovOffset) :
    snrVoteV2 roi0 roi1 v fovOffset =
      .error ⟨.fovSnrV2, fovOffset, v.snrSquaredFov.length⟩ := by
  obtain ⟨a, ha⟩ := @computeSnrSquared_ok roi0 0 (by simpa using h0)
  obtain ⟨b, hb⟩ := @computeSnrSquared_ok roi1 0 (by simpa using h1)
  refine forLoop_error_of_first (Nat.div_pos h0 (by decide)) ?_
  simp only [snrVoteStep, ha, hb, ok_bind, Nat.zero_add, Nat.mod_eq_of_lt hoff,
    readAt_of_le hlen, error_bind]

/-! ### Tap rotation -/

/-- The tap-sum loop of `tapRotation`: pixel `idx` of the frame is the sum of the three
permutations of its taps, read at `abc1`, `abc2` and `abc3`. -/
def tapSumStep (roiVector : List Nat) (abc1 abc2 abc3 idx : Nat) (frame : List Nat) :
    Except Fault (List Nat) := do
  let rawA1 ← readAt .roiVector roiVector (abc1 + 3 * idx)
  let rawB1 ← readAt .roiVector roiVector (abc1 + 3 * idx + 1)
  let rawC1 ← readAt .roiVector roiVector (abc1 + 3 * idx + 2)
  let rawA2 ← readAt .roiVector roiVector (abc2 + 3 * idx)
  let rawB2 ← readAt .roiVector roiVector (abc2 + 3 * idx + 1)
  let rawC2 ← readAt .roiVector roiVector (abc2 + 3 * idx + 2)
  let rawA3 ← readAt .roiVector roiVector (abc3 + 3 * idx)
  let rawB3 ← readAt .roiVector roiVector (abc3 + 3 * idx + 1)
  let rawC3 ← readAt .roiVector roiVector (abc3 + 3 * idx + 2)
  let frame ← writeAt .rotatedRoi frame (3 * idx) (rawA1 + rawB2 + rawC3)
  let frame ← writeAt .rotatedRoi frame (3 * idx + 1) (rawB1 + rawC2 + rawA3)
  writeAt .rotatedRoi frame (3 * idx + 2) (rawC1 + rawA2 + rawB3)

/-- The copy loop of `tapRotation` without tap rotation: `frame[idx] = roiVector[start + idx]`. -/
def tapCopyStep (roiVector : List Nat) (start idx : Nat) (frame : List Nat) :
    Except Fault (List Nat) := do
  writeAt .rotatedRoi frame idx (← readAt .roiVector roiVector (start + idx))

/-- `tapRotation(roiVector, frame, freqIdx, {roiHeight, roiNumColumns}, numGpixelPhases,
doTapRotation)`. Without tap rotation the frequency's image is copied into the frame, and
the code then goes on to the tap sums exactly as with it: only the size guard before the sums
stops it. -/
def tapRotation (roiVector frame : List Nat) (freqIdx roiHeight roiNumColumns numPhases : Nat)
    (doTapRotation : Bool) : Except Fault (List Nat) := do
  let roiRowStride := roiNumColumns * numPhases
  let roiImageStride := roiRowStride * roiHeight
  let frame ← if doTapRotation then pure frame
    else if freqIdx * roiImageStride + frame.length > roiVector.length then
      -- buffer mis-sized: the copy and the sums are both skipped
      return frame
    else forLoop frame.length (tapCopyStep roiVector (freqIdx * roiImageStride)) frame
  if roiVector.length < (4 + freqIdx) * roiImageStride + roiHeight * roiNumColumns then
    return frame
  forLoop (roiHeight * roiNumColumns)
    (tapSumStep roiVector (freqIdx * roiImageStride) ((2 + freqIdx) * roiImageStride)
      ((4 + freqIdx) * roiImageStride)) frame

/-! ### Safety of the per-ROI routines -/

theorem tapSumStep_ok {roiVector frame : List Nat} {abc1 abc2 abc3 idx : Nat}
    (h1 : abc1 + 3 * idx + 2 < roiVector.length) (h2 : abc2 + 3 * idx + 2 < roiVector.length)
    (h3 : abc3 + 3 * idx + 2 < roiVector.length) (hf : 3 * idx + 2 < frame.length) :
    ∃ frame', tapSumStep roiVector abc1 abc2 abc3 idx frame = .ok frame' ∧
      frame'.length = frame.length := by
  simp (disch := (try simp only [List.length_set]); omega) only [tapSumStep, readAt_of_lt,
    writeAt_of_lt, ok_bind]
  exact ⟨_, rfl, by simp⟩

theorem tapCopyStep_ok {roiVector frame : List Nat} {start idx : Nat}
    (h : start + idx < roiVector.length) (hf : idx < frame.length) :
    ∃ frame', tapCopyStep roiVector start idx frame = .ok frame' ∧
      frame'.length = frame.length := by
  simp only [tapCopyStep, readAt_of_lt h, writeAt_of_lt hf, ok_bind]
  exact ⟨_, rfl, by simp⟩

/-- The tap-sum loop runs without fault when all three permutation images and the frame
hold the `n` triples it visits. -/
theorem tapSums_ok {roiVector frame : List Nat} {a1 a2 a3 n : Nat}
    (h1 : a1 + 3 * n ≤ roiVector.length) (h2 : a2 + 3 * n ≤ roiVector.length)
    (h3 : a3 + 3 * n ≤ roiVector.length) (hf : 3 * n ≤ frame.length) :
    ∃ frame', forLoop n (tapSumStep roiVector a1 a2 a3) frame = .ok frame' ∧
      frame'.length = frame.length :=
  forLoop_ok (fun _ t => t.length = frame.length)
    (fun i hi t ht => by
      obtain ⟨t', h, hl⟩ := @tapSumStep_ok roiVector t a1 a2 a3 i (by omega) (by omega)
        (by omega) (by omega)
      exact ⟨t', h, hl.trans ht⟩) frame rfl

/-- The copy loop runs without fault when the image it copies lies inside `roiVector`. -/
theorem tapCopy_ok {roiVector frame : List Nat} {start : Nat}
    (h : start + frame.length ≤ roiVector.length) :
    ∃ frame', forLoop frame.length (tapCopyStep roiVector start) frame = .ok frame' ∧
      frame'.length = frame.length :=
  forLoop_ok (fun _ t => t.length = frame.length)
    (fun i hi t ht => by
      obtain ⟨t', h, hl⟩ := @tapCopyStep_ok roiVector t start i (by omega) (by omega)
      exact ⟨t', h, hl.trans ht⟩) frame rfl

/-- **Tap rotation is safe** unless `roiVector` ends between the end of the size guard and
the end of the third permutation image: the guard checks `h * w` samples of the third image
where the sums read `3 * h * w`. -/
theorem tapRotation_ok {roiVector frame : List Nat} {f h w : Nat} {doTap : Bool}
    (hframe : frame.length = numGpixelPhases * (h * w))
    (hlen : roiVector.length < (4 + f) * (w * numGpixelPhases * h) + h * w ∨
      (4 + f) * (w * numGpixelPhases * h) + numGpixelPhases * (h * w) ≤ roiVector.length) :
    ∃ frame', tapRotation roiVector frame f h w numGpixelPhases doTap = .ok frame' ∧
      frame'.length = frame.length := by
  simp only [tapRotation, numGpixelPhases] at hframe hlen ⊢
  generalize hS : w * 3 * h = S at hlen ⊢
  have hS3 : S = 3 * (h * w) := by
    rw [← hS, Nat.mul_comm w, Nat.mul_assoc, Nat.mul_comm w h]
  have m1 : f * S ≤ (4 + f) * S := Nat.mul_le_mul_right _ (by omega)
  have m2 : (2 + f) * S ≤ (4 + f) * S := Nat.mul_le_mul_right _ (by omega)
  have m3 : f * S + S ≤ (4 + f) * S := by
    rw [← Nat.succ_mul]; exact Nat.mul_le_mul_right _ (by omega)
  -- past the size guard, the sums read inside `roiVector`
  have sums : ∀ fr : List Nat, fr.length = frame.length →
      ¬ roiVector.length < (4 + f) * S + h * w →
      ∃ fr', forLoop (h * w) (tapSumStep roiVector (f * S) ((2 + f) * S) ((4 + f) * S)) fr =
        .ok fr' ∧ fr'.length = frame.length := by
    intro fr hfr hg
    obtain ⟨fr', hr, hl⟩ := @tapSums_ok roiVector fr (f * S) ((2 + f) * S) ((4 + f) * S) (h * w)
      (by omega) (by omega) (by omega) (by omega)
    exact ⟨fr', hr, hl.trans hfr⟩
  cases doTap
  · simp only [Bool.false_eq_true, if_false]
    split_ifs with hc hg
    · exact ⟨frame, rfl, rfl⟩
    all_goals
      obtain ⟨fr, hc1, hl⟩ := @tapCopy_ok roiVector frame (f * S) (by omega)
      simp only [hc1, ok_bind]
    · exact ⟨fr, rfl, hl⟩
    · exact sums fr hl hg
  · simp only [if_true, pure_eq_ok, ok_bind]
    split_ifs with hg
    · exact ⟨frame, rfl, rfl⟩
    · exact sums frame rfl hg

/-- Tap rotation returns a frame of the length it was given, whatever path it takes. -/
theorem tapRotation_length {roiVector frame frame' : List Nat} {f h w p : Nat} {doTap : Bool}
    (hr : tapRotation roiVector frame f h w p doTap = .ok frame') :
    frame'.length = frame.length := by
  have hc : ∀ {t : List Nat}, forLoop frame.length (tapCopyStep roiVector (f * (w * p * h)))
      frame = .ok t → t.length = frame.length :=
    forLoop_inv (fun u : List Nat => u.length = frame.length) (fun i _ t t' ht h => by
      obtain ⟨_, -, h⟩ := bind_eq_ok.1 h
      exact (writeAt_length h).trans ht) rfl
  have hs : ∀ {t t' : List Nat}, t.length = frame.length → forLoop (h * w)
      (tapSumStep roiVector (f * (w * p * h)) ((2 + f) * (w * p * h)) ((4 + f) * (w * p * h)))
      t = .ok t' → t'.length = frame.length :=
    forLoop_inv (fun u : List Nat => u.length = frame.length) (fun i _ t t' ht h => by
      simp only [tapSumStep, bind_eq_ok] at h
      obtain ⟨_, _, _, _, _, _, _, _, _, _, _, _, _, _, _, _, _, _, u, hu, v, hv, h⟩ := h
      exact (writeAt_length h).trans ((writeAt_length hv).trans ((writeAt_length hu).trans ht)))
  unfold tapRotation at hr
  dsimp only at hr
  split_ifs at hr <;> simp only [pure_eq_ok, ok_bind, bind_eq_ok, bind_ok] at hr
  · cases hr; rfl
  · exact hs rfl hr
  · cases hr; rfl
  · exact hc hr
  · obtain ⟨t, ht, hr⟩ := hr
    exact hs (hc ht) hr

/-! ### What tap rotation computes -/

/-- A write just past a written prefix, over the rest of the old frame, extends the prefix. -/
theorem set_append_drop {α : Type} {p xs : List α} {k j : Nat} (x : α) (hp : p.length = k)
    (h : k < xs.length) (hk : k + 1 = j) :
    (p ++ xs.drop k).set k x = (p ++ [x]) ++ xs.drop j := by
  subst hp hk
  rw [List.set_append_right _ _ le_rfl, Nat.sub_self, List.drop_eq_getElem_cons h]
  simp only [List.set_cons_zero, List.append_assoc, List.singleton_append]

/-- The output triple of pixel `idx` as the specification gives it: with `X_p` the tap `X`
of permutation `p`, read at `abc_p + 3 idx`, it is `A_0 + B_1 + C_2`, `B_0 + C_1 + A_2` and
`C_0 + A_1 + B_2`. -/
def cyclicSum (roiVector : List Nat) (abc1 abc2 abc3 idx : Nat) : List Nat :=
  let tap := fun abc k => roiVector.getD (abc + 3 * idx + k) 0
  [tap abc1 0 + tap abc2 1 + tap abc3 2, tap abc1 1 + tap abc2 2 + tap abc3 0,
    tap abc1 2 + tap abc2 0 + tap abc3 1]

/-- The frame of tap rotation as the specification gives it: the cyclic sums of every pixel,
permutation `p` of frequency `f` stored at offset `(2 p + f) S` with `S = 3 h w`. -/
def tapRotated (roiVector : List Nat) (f h w : Nat) : List Nat :=
  let S := numGpixelPhases * (h * w)
  (List.range (h * w)).flatMap (cyclicSum roiVector (f * S) ((2 + f) * S) ((4 + f) * S))

theorem length_flatMap_cyclicSum (roiVector : List Nat) (abc1 abc2 abc3 n : Nat) :
    ((List.range n).flatMap (cyclicSum roiVector abc1 abc2 abc3)).length = 3 * n := by
  induction n with
  | zero => rfl
  | succ n ih => simp [List.range_succ, List.flatMap_append, ih, cyclicSum]; omega

/-- Sample `k` of pixel `idx` of the cyclic sums of `n` pixels is sample `k` of pixel `idx`'s
sums. -/
theorem getD_flatMap_cyclicSum (roiVector : List Nat) (abc1 abc2 abc3 : Nat) {n idx k : Nat}
    (hidx : idx < n) (hk : k < 3) :
    ((List.range n).flatMap (cyclicSum roiVector abc1 abc2 abc3)).getD (3 * idx + k) 0 =
      (cyclicSum roiVector abc1 abc2 abc3 idx).getD k 0 := by
  induction n with
  | zero => omega
  | succ n ih =>
    rw [List.range_succ, List.flatMap_append]
    rcases Nat.lt_succ_iff_lt_or_eq.1 hidx with h | rfl
    · rw [List.getD_append _ _ _ _ (by rw [length_flatMap_cyclicSum]; omega), ih h]
    · rw [List.getD_append_right _ _ _ _ (by rw [length_flatMap_cyclicSum]; omega),
        length_flatMap_cyclicSum, Nat.add_sub_cancel_left]
      simp

/-- One tap-sum iteration appends the pixel's cyclic sums to the part of the frame already
written. -/
theorem tapSumStep_eq {roiVector frame p : List Nat} {abc1 abc2 abc3 idx : Nat}
    (hp : p.length = 3 * idx) (h1 : abc1 + 3 * idx + 2 < roiVector.length)
    (h2 : abc2 + 3 * idx + 2 < roiVector.length) (h3 : abc3 + 3 * idx + 2 < roiVector.length)
    (hf : 3 * idx + 2 < frame.length) :
    tapSumStep roiVector abc1 abc2 abc3 idx (p ++ frame.drop (3 * idx)) =
      .ok (p ++ cyclicSum roiVector abc1 abc2 abc3 idx ++ frame.drop (3 * (idx + 1))) := by
  have hl : (p ++ frame.drop (3 * idx)).length = frame.length := by simp; omega
  simp (disch := (try simp only [List.length_set, hl]); omega) only [tapSumStep, readAt_of_lt,
    writeAt_of_lt, ok_bind]
  rw [set_append_drop _ hp (show 3 * idx < frame.length by omega) rfl,
    set_append_drop (j := 3 * idx + 2) _ (by simp [hp]) (show 3 * idx + 1 < frame.length by omega)
      rfl,
    set_append_drop (j := 3 * (idx + 1)) _ (by simp [hp]) (show 3 * idx + 2 < frame.length by omega)
      (by omega)]
  simp (disch := omega) only [cyclicSum, List.getD_eq_getElem?_getD, List.getElem?_eq_getElem,
    Option.getD_some, Nat.add_zero, List.append_assoc, List.singleton_append, List.cons_append,
    List.nil_append]

/-- **The tap-sum loop writes the cyclic sums** of all `n` pixels over a frame of `3 n`
samples, when all three permutation images lie inside `roiVector`. -/
theorem tapSums_eq {roiVector frame : List Nat} {a1 a2 a3 n : Nat}
    (h1 : a1 + 3 * n ≤ roiVector.length) (h2 : a2 + 3 * n ≤ roiVector.length)
    (h3 : a3 + 3 * n ≤ roiVector.length) (hf : frame.length = 3 * n) :
    forLoop n (tapSumStep roiVector a1 a2 a3) frame =
      .ok ((List.range n).flatMap (cyclicSum roiVector a1 a2 a3)) := by
  obtain ⟨t, ht, rfl⟩ := @forLoop_ok _ n (tapSumStep roiVector a1 a2 a3)
    (fun i t => t = (List.range i).flatMap (cyclicSum roiVector a1 a2 a3) ++ frame.drop (3 * i))
    (fun i hi t ht => by
      subst ht
      exact ⟨_, tapSumStep_eq (length_flatMap_cyclicSum _ _ _ _ _) (by omega) (by omega)
        (by omega) (by omega), by simp [List.range_succ, List.flatMap_append]⟩)
    frame (by simp)
  rw [ht, List.drop_of_length_le (by omega), List.append_nil]

/-- One copy iteration appends the copied sample to the part of the frame already written. -/
theorem tapCopyStep_eq {roiVector frame p : List Nat} {start idx : Nat} (hp : p.length = idx)
    (h : start + idx < roiVector.length) (hf : idx < frame.length) :
    tapCopyStep roiVector start idx (p ++ frame.drop idx) =
      .ok (p ++ [roiVector[start + idx]] ++ frame.drop (idx + 1)) := by
  have hl : (p ++ frame.drop idx).length = frame.length := by simp; omega
  simp only [tapCopyStep, readAt_of_lt h, writeAt_of_lt (hl ▸ hf : idx < _), ok_bind,
    set_append_drop _ hp hf rfl]

/-- **The copy loop copies the image** that starts at `start`. -/
theorem tapCopy_eq {roiVector frame : List Nat} {start : Nat}
    (h : start + frame.length ≤ roiVector.length) :
    forLoop frame.length (tapCopyStep roiVector start) frame =
      .ok ((roiVector.drop start).take frame.length) := by
  obtain ⟨t, ht, rfl⟩ := @forLoop_ok _ frame.length (tapCopyStep roiVector start)
    (fun i t => t = (roiVector.drop start).take i ++ frame.drop i)
    (fun i hi t ht => by
      subst ht
      exact ⟨_, tapCopyStep_eq (by simp; omega) (by omega) hi, by
        simp (disch := omega) [List.take_succ, List.getElem?_eq_getElem]⟩)
    frame (by simp)
  rw [ht, List.drop_length, List.append_nil]

theorem roiImageStride_eq (h w : Nat) : w * numGpixelPhases * h = numGpixelPhases * (h * w) := by
  rw [Nat.mul_comm w, Nat.mul_assoc, Nat.mul_comm w h]

section TapRotation

variable {roiVector frame : List Nat} {f h w : Nat}

/-- **Tap rotation sums the three permutations**: once `roiVector` holds the third
permutation image of the frequency, the frame is the cyclic sums of every pixel, whether the
tap sums were asked for or not. -/
theorem tapRotation_sums (doTap : Bool) (hframe : frame.length = numGpixelPhases * (h * w))
    (hlen : (5 + f) * (numGpixelPhases * (h * w)) ≤ roiVector.length) :
    tapRotation roiVector frame f h w numGpixelPhases doTap = .ok (tapRotated roiVector f h w) := by
  have m1 : f * (numGpixelPhases * (h * w)) + numGpixelPhases * (h * w) ≤ roiVector.length := by
    rw [← Nat.succ_mul]; exact le_trans (Nat.mul_le_mul_right _ (by omega)) hlen
  have m2 : (2 + f) * (numGpixelPhases * (h * w)) + numGpixelPhases * (h * w) ≤
      roiVector.length := by
    rw [← Nat.succ_mul]; exact le_trans (Nat.mul_le_mul_right _ (by omega)) hlen
  have m3 : (4 + f) * (numGpixelPhases * (h * w)) + numGpixelPhases * (h * w) ≤
      roiVector.length := by
    rw [← Nat.succ_mul]; exact le_trans (Nat.mul_le_mul_right _ (by omega)) hlen
  -- the sums run from any frame of the right length
  have sums : ∀ fr : List Nat, fr.length = frame.length →
      (if roiVector.length < (4 + f) * (numGpixelPhases * (h * w)) + h * w then Except.ok fr
        else forLoop (h * w) (tapSumStep roiVector (f * (numGpixelPhases * (h * w)))
          ((2 + f) * (numGpixelPhases * (h * w))) ((4 + f) * (numGpixelPhases * (h * w)))) fr) =
        .ok (tapRotated roiVector f h w) := fun fr hfr => by
    simp only [numGpixelPhases] at m1 m2 m3 hframe hfr ⊢
    rw [if_neg (by omega)]
    exact tapSums_eq (by omega) (by omega) (by omega) (by omega)
  simp only [tapRotation, roiImageStride_eq]
  cases doTap
  · simp only [Bool.false_eq_true, if_false]
    rw [if_neg (by omega), tapCopy_eq (by omega), ok_bind]
    exact sums _ (by simp [hframe]; omega)
  · exact sums frame rfl

/-- Positive raw samples give positive tap sums. -/
theorem tapRotated_pos (hv : ∀ x ∈ roiVector, 0 < x)
    (hlen : (5 + f) * (numGpixelPhases * (h * w)) ≤ roiVector.length) :
    ∀ x ∈ tapRotated roiVector f h w, 0 < x := by
  intro x hx
  simp only [tapRotated, List.mem_flatMap, List.mem_range, cyclicSum, List.mem_cons,
    List.mem_singleton, List.not_mem_nil, or_false] at hx
  obtain ⟨idx, hidx, hx⟩ := hx
  have pos : ∀ k < roiVector.length, 0 < roiVector.getD k 0 := fun k hk => by
    rw [List.getD_eq_getElem _ _ hk]; exact hv _ (List.getElem_mem _)
  have hS : f * (numGpixelPhases * (h * w)) + 3 * idx + 2 < roiVector.length := by
    have : (f + 1) * (numGpixelPhases * (h * w)) ≤ (5 + f) * (numGpixelPhases * (h * w)) :=
      Nat.mul_le_mul_right _ (by omega)
    simp only [numGpixelPhases, Nat.succ_mul] at this hlen ⊢
    omega
  have p0 := pos _ (show f * (numGpixelPhases * (h * w)) + 3 * idx + 0 < _ by omega)
  have p1 := pos _ (show f * (numGpixelPhases * (h * w)) + 3 * idx + 1 < _ by omega)
  have p2 := pos _ (show f * (numGpixelPhases * (h * w)) + 3 * idx + 2 < _ by omega)
  rcases hx with rfl | rfl | rfl <;> omega

/-- **Without tap rotation the image is copied through** when `roiVector` holds the
frequency's image and ends before the size guard of the tap sums. -/
theorem tapRotation_copies (hframe : frame.length = numGpixelPhases * (h * w))
    (hcopy : (f + 1) * (numGpixelPhases * (h * w)) ≤ roiVector.length)
    (hguard : roiVector.length < (4 + f) * (numGpixelPhases * (h * w)) + h * w) :
    tapRotation roiVector frame f h w numGpixelPhases false =
      .ok ((roiVector.drop (f * (numGpixelPhases * (h * w)))).take
        (numGpixelPhases * (h * w))) := by
  rw [Nat.succ_mul] at hcopy
  simp only [tapRotation, roiImageStride_eq, Bool.false_eq_true, if_false]
  rw [if_neg (by omega), tapCopy_eq (by omega), ok_bind, hframe, if_pos hguard, pure_eq_ok]

/-- **The size guard of the tap sums is too short.** When `roiVector` ends between the guard
`(4 + f) S + h w` and the end `(5 + f) S` of the third permutation image, tap rotation reads
`roiVector` at its length. -/
theorem tapRotation_reads_past_end (doTap : Bool)
    (hframe : frame.length = numGpixelPhases * (h * w))
    (hlo : (4 + f) * (numGpixelPhases * (h * w)) + h * w ≤ roiVector.length)
    (hhi : roiVector.length < (5 + f) * (numGpixelPhases * (h * w))) :
    tapRotation roiVector frame f h w numGpixelPhases doTap =
      .error ⟨.roiVector, roiVector.length, roiVector.length⟩ := by
  simp only [numGpixelPhases] at hframe hlo hhi
  generalize hS : 3 * (h * w) = S at hframe hlo hhi
  have hm : (5 + f) * S = (4 + f) * S + S := by rw [show 5 + f = 4 + f + 1 by omega, Nat.succ_mul]
  have m2 : (2 + f) * S + S ≤ (4 + f) * S := by
    rw [← Nat.succ_mul]; exact Nat.mul_le_mul_right _ (by omega)
  have m1 : f * S + S ≤ (4 + f) * S := by
    rw [← Nat.succ_mul]; exact Nat.mul_le_mul_right _ (by omega)
  -- the read past the end is tap `t % 3` of pixel `t / 3`, with `t` the samples of the
  -- third image that `roiVector` holds
  obtain ⟨t, ht⟩ : ∃ t, roiVector.length = (4 + f) * S + t := ⟨_, (Nat.add_sub_cancel' (by omega)).symm⟩
  have sums : ∀ fr : List Nat, fr.length = S →
      (if roiVector.length < (4 + f) * S + h * w then Except.ok fr
        else forLoop (h * w) (tapSumStep roiVector (f * S) ((2 + f) * S) ((4 + f) * S)) fr) =
        .error ⟨.roiVector, roiVector.length, roiVector.length⟩ := fun fr hfr => by
    rw [if_neg (by omega)]
    refine forLoop_error_at (fun _ u => u.length = S) (k := t / 3) (by omega)
      (fun i hi u hu => ?_) (fun u hu => ?_) fr hfr
    · obtain ⟨u', h', hl⟩ := @tapSumStep_ok roiVector u (f * S) ((2 + f) * S) ((4 + f) * S) i
        (by omega) (by omega) (by omega) (by omega)
      exact ⟨u', h', hl.trans hu⟩
    · rcases (by omega : t % 3 = 0 ∨ t % 3 = 1 ∨ t % 3 = 2) with h0 | h0 | h0 <;>
        simp (disch := omega) only [tapSumStep, readAt_of_lt, readAt_of_le, ok_bind,
          error_bind] <;>
        congr 2 <;> omega
  simp only [tapRotation, roiImageStride_eq]
  simp only [numGpixelPhases, hS]
  cases doTap
  · simp only [Bool.false_eq_true, if_false]
    obtain ⟨fr, hfr, hl⟩ := @tapCopy_ok roiVector frame (f * S) (by omega)
    rw [if_neg (by omega)]
    rw [hfr, ok_bind]
    exact sums fr (hl.trans hframe)
  · exact sums frame hframe

/-- **Past its size guard, tap rotation ignores the tap switch and the copy.** Once
`roiVector` reaches the guard `(4 + f) S + h w`, tap rotation, with or without tap sums, reads
`roiVector` at its length unless `roiVector` holds the whole third permutation image
`(5 + f) S`, and returns the cyclic sums when it does. -/
theorem tapRotation_past_guard (doTap : Bool) (hframe : frame.length = numGpixelPhases * (h * w))
    (hlo : (4 + f) * (numGpixelPhases * (h * w)) + h * w ≤ roiVector.length) :
    tapRotation roiVector frame f h w numGpixelPhases doTap =
      if roiVector.length < (5 + f) * (numGpixelPhases * (h * w)) then
        .error ⟨.roiVector, roiVector.length, roiVector.length⟩
      else .ok (tapRotated roiVector f h w) := by
  split_ifs with hhi
  · exact tapRotation_reads_past_end doTap hframe hlo hhi
  · exact tapRotation_sums doTap hframe (Nat.le_of_not_lt hhi)

/-- An eight-row ROI of `640` columns whose vector ends at the guard, `66560` samples, faults
reading sample `66560`. -/
theorem tapRotation_past_guard_eightRows :
    (List.replicate 15360 0).length = numGpixelPhases * (8 * 640) ∧
      (4 + 0) * (numGpixelPhases * (8 * 640)) + 8 * 640 ≤ (List.replicate 66560 0).length ∧
      tapRotation (List.replicate 66560 0) (List.replicate 15360 0) 0 8 640 numGpixelPhases true =
        .error ⟨.roiVector, 66560, 66560⟩ := by
  have h1 : (List.replicate 15360 0).length = numGpixelPhases * (8 * 640) :=
    List.length_replicate _ _
  have h2 : (4 + 0) * (numGpixelPhases * (8 * 640)) + 8 * 640 ≤ (List.replicate 66560 0).length := by
    rw [List.length_replicate]; decide
  refine ⟨h1, h2, ?_⟩
  rw [@tapRotation_past_guard (List.replicate 66560 0) (List.replicate 15360 0) 0 8 640 true h1 h2,
    if_pos (by rw [List.length_replicate]; decide), List.length_replicate]

end TapRotation

/-- One vote is safe when the pixel's triples lie inside both rotated ROIs and the FOV
buffers reach past the pixel's FOV position, which the `uint32_t` index arithmetic does not
wrap. -/
theorem snrVoteStep_ok {roi0 roi1 : List Nat} {off idx : Nat} {v : Vote}
    (h0 : numGpixelPhases * (idx + 1) ≤ roi0.length)
    (h1 : numGpixelPhases * (idx + 1) ≤ roi1.length)
    (hs : idx + off < v.snrSquaredFov.length)
    (hf : ∀ i, numGpixelPhases * (idx + off + 1) ≤ (v.rawFov i).length)
    (hw : numGpixelPhases * (idx + off + 1) ≤ 2 ^ 32) :
    ∃ v', snrVoteStep roi0 roi1 off idx v = .ok v' ∧
      v'.snrSquaredFov.length = v.snrSquaredFov.length ∧
      ∀ i, (v'.rawFov i).length = (v.rawFov i).length := by
  obtain ⟨a, ha⟩ := computeSnrSquared_ok h0
  obtain ⟨b, hb⟩ := computeSnrSquared_ok h1
  have hf0 := hf 0
  have hf1 := hf 1
  simp only [numGpixelPhases] at h0 h1 hf0 hf1 hw
  simp (disch := (try simp only [List.length_set]); omega) only [snrVoteStep, ha, hb, ok_bind,
    Nat.mod_eq_of_lt, readAt_of_lt, writeAt_of_lt, numGpixelPhases]
  split_ifs
  · refine ⟨_, rfl, by simp, fun i => ?_⟩
    revert i
    exact Fin.forall_fin_two.2 ⟨by simp, by simp⟩
  · exact ⟨v, rfl, rfl, fun _ => rfl⟩

/-- **SNR voting is safe** when the rotated ROIs hold `n` pixels and the FOV buffers reach
`n` pixels past the offset. -/
theorem snrVoteV2_ok {roi0 roi1 : List Nat} {v : Vote} {off n : Nat}
    (h0 : roi0.length = numGpixelPhases * n) (h1 : roi1.length = numGpixelPhases * n)
    (hs : off + n ≤ v.snrSquaredFov.length)
    (hf : ∀ i, numGpixelPhases * (off + n) ≤ (v.rawFov i).length)
    (hw : numGpixelPhases * (off + n) ≤ 2 ^ 32) :
    ∃ v', snrVoteV2 roi0 roi1 v off = .ok v' ∧
      v'.snrSquaredFov.length = v.snrSquaredFov.length ∧
      ∀ i, (v'.rawFov i).length = (v.rawFov i).length := by
  have hn : roi0.length / numGpixelPhases = n := by rw [h0]; simp [numGpixelPhases]
  rw [snrVoteV2, hn]
  refine forLoop_ok (fun _ u => u.snrSquaredFov.length = v.snrSquaredFov.length ∧
      ∀ i, (u.rawFov i).length = (v.rawFov i).length) (fun idx hi u ⟨hu, hu'⟩ => ?_) v
    ⟨rfl, fun _ => rfl⟩
  simp only [numGpixelPhases] at h0 h1 hf hw
  obtain ⟨u', hs', hl, hl'⟩ := @snrVoteStep_ok roi0 roi1 off idx u
    (by simp only [numGpixelPhases]; omega) (by simp only [numGpixelPhases]; omega) (by omega)
    (fun i => by have := hf i; rw [hu' i]; simp only [numGpixelPhases]; omega)
    (by simp only [numGpixelPhases]; omega)
  exact ⟨u', hs', hl.trans hu, fun i => (hl' i).trans (hu' i)⟩
end RawToDepthDsp

end Cobra
