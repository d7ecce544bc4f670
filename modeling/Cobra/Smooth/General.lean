import Cobra.Smooth.Accelerated

/-!
# Smoothing of the Summed Raw Data: the General Path

`smoothRaw` convolves the frame down its columns into `roiSmoothedTemp_s`, copying its first and
last rows, and then along its rows into `roiSmoothed`, copying its first and last columns. Its
indices are `uint32_t`; where they stay below `2 ^ 32`, that is on frames of fewer than `2 ^ 32`
samples, each pass is one iteration per pixel that writes the pixel's three samples
(`columnPassStep_eq`, `rowPassStep_eq`), and `smoothRaw` computes the separable smoothing.
The row counter of the column pass is the row of the pixel the loop is at.

## Main results

* `smoothRaw_eq`: `smoothRaw` computes `separableSmooth` for every pair of kernels.
* `smoothSummedData_general`: so does `smoothSummedData` without the accelerated routines,
  wherever it does not copy the frame.
* `smoothSummedData_5x7`: with the kernels of `smoothRaw5x7`, the accelerated and the general
  paths return the same frame.
-/

namespace Cobra

namespace RawToDepthDsp

/-! ### Index arithmetic -/

/-- The border test of a pass, once its `uint32_t` wrap is accounted for, is the spec's. -/
theorem border_iff {r h H : Nat} (hr : r < H) (hH : H < 2 ^ 32) :
    ((r : Int) < h ∨ u32 ((H : Int) - h) ≤ r) ↔ (r < h ∨ H - h ≤ r) := by
  unfold u32; omega

/-- The row counter of the column pass moves on after the last pixel of a row. -/
theorem succ_div_eq {W r c : Nat} (hc : c < W) :
    (r * W + c + 1) / W = if W - 1 ≤ c then r + 1 else r := by
  split_ifs with h
  · rw [show r * W + c + 1 = (r + 1) * W + 0 by rw [Nat.succ_mul]; omega]
    exact (div_mul_add (by omega)).1
  · exact (div_mul_add (show c + 1 < W by omega)).1

/-- The sample read by tap `j` of the column convolution at pixel `(r, c)`. -/
theorem u32_columnTap {H W r c ch j h : Nat} (hc : c < W) (hch : ch < 3) (hlo : h ≤ r + j)
    (hhi : r + j - h < H) (hsize : 3 * (H * W) < 2 ^ 32) :
    u32 (((3 * (r * W + c) : Nat) : Int) + ch + 3 * ((j : Int) - h) * W) =
      pix W (r + j - h) c ch := by
  have : ((3 * (r * W + c) : Nat) : Int) + ch + 3 * ((j : Int) - h) * W =
      ((pix W (r + j - h) c ch : Nat) : Int) := by
    unfold pix; push_cast [Nat.cast_sub hlo]; ring
  rw [this, u32_of_lt (by omega) (by have := pix_lt hhi hc hch; omega)]; omega

/-- The sample read by tap `j` of the row convolution at pixel `(r, c)`. -/
theorem u32_rowTap {H W r c ch j h : Nat} (hr : r < H) (hch : ch < 3) (hlo : h ≤ c + j)
    (hhi : c + j - h < W) (hsize : 3 * (H * W) < 2 ^ 32) :
    u32 (((3 * (r * W + c) : Nat) : Int) + ch + 3 * ((j : Int) - h)) = pix W r (c + j - h) ch := by
  have : ((3 * (r * W + c) : Nat) : Int) + ch + 3 * ((j : Int) - h) =
      ((pix W r (c + j - h) ch : Nat) : Int) := by
    unfold pix; push_cast [Nat.cast_sub hlo]; ring
  rw [this, u32_of_lt (by omega) (by have := pix_lt hr hhi hch; omega)]; omega

/-- The half size and the tap count of an odd kernel as `smoothRaw` computes them. -/
theorem oddKernel_half {n : Nat} (hn : n % 2 = 1) :
    ((n : Int) - 1) / 2 = ((n / 2 : Nat) : Int) ∧ (2 * ((n / 2 : Nat) : Int) + 1 + 0).toNat = n := by
  omega

/-! ### The convolution loops -/

section Taps

variable {α : Type} [Field α] {b : Buf} {src k : List α} {base : Nat}

theorem sum_map_triple (l : List Nat) (f : Nat → Nat → α) :
    (l.map fun j => (f j 0, f j 1, f j 2)).sum =
      ((l.map (f · 0)).sum, (l.map (f · 1)).sum, (l.map (f · 2)).sum) := by
  induction l with
  | nil => rfl
  | cons j l ih => simp only [List.map_cons, List.sum_cons, ih]; rfl

/-- One tap of a convolution: inside the kernel and the source, it adds the tap times each of the
three samples it reads. -/
theorem kernelTap_eq {off : Int} {j : Nat} (idx : Nat → Nat)
    (hidx : ∀ ch : Nat, ch < 3 → u32 ((base : Int) + (ch : Int) + off) = idx ch) (hj : j < k.length)
    (hsrc : ∀ ch < 3, idx ch < src.length) (x : α × α × α) :
    kernelTap b src k base off j x = .ok (x + (k.getD j 0 * src.getD (idx 0) 0,
      k.getD j 0 * src.getD (idx 1) 0, k.getD j 0 * src.getD (idx 2) 0)) := by
  have h0 := hidx 0 (by decide)
  have h1 := hidx 1 (by decide)
  have h2 := hidx 2 (by decide)
  simp only [Nat.cast_zero, Nat.cast_one, Nat.cast_ofNat] at h0 h1 h2
  simp only [kernelTap, h0, h1, h2, readAt_eq_getD 0 hj, readAt_eq_getD 0 (hsrc 0 (by decide)),
    readAt_eq_getD 0 (hsrc 1 (by decide)), readAt_eq_getD 0 (hsrc 2 (by decide)), ok_bind,
    pure_eq_ok]
  rfl

/-- A convolution loop adds up its taps, sample by sample. -/
theorem forLoop_kernelTap {n : Nat} {off : Nat → Int} (f : Nat → Nat → α)
    (h : ∀ j < n, ∀ x : α × α × α, kernelTap b src k base (off j) j x = .ok (x + (f j 0, f j 1, f j 2))) :
    forLoop n (fun j => kernelTap b src k base (off j) j) (0, 0, 0) =
      .ok (((List.range n).map (f · 0)).sum, ((List.range n).map (f · 1)).sum,
        ((List.range n).map (f · 2)).sum) := by
  rw [forLoop_add (fun j => (f j 0, f j 1, f j 2)) h, sum_map_triple]
  simp only [Prod.mk_add_mk, zero_add]

end Taps

/-! ### The two passes -/

section Passes

variable {α : Type} [Field α] {roi temp k t : List α} {H W r c : Nat}

/-- **One pixel of the column pass.** At pixel `(r, c)`, with the row counter at `r`, the column
pass writes the pixel's samples of `smoothColumns` and moves the counter on after the last
column. -/
theorem columnPassStep_eq (hodd : k.length % 2 = 1) (hroi : roi.length = 3 * (H * W))
    (hsize : 3 * (H * W) < 2 ^ 32) (hr : r < H) (hc : c < W) (ht : t.length = 3 * (H * W)) :
    columnPassStep roi k H W ((k.length / 2 : Nat) : Int) 0 (r * W + c) (t, r) =
      .ok (setTriple t (pix W r c 0) (frameAt W (smoothColumns k H (sample roi W))),
        if W - 1 ≤ c then r + 1 else r) := by
  have hH : H < 2 ^ 32 := by have := Nat.mul_le_mul_left H (show 1 ≤ W by omega); omega
  have hi : ∀ ch < 3, 3 * (r * W + c) + ch < roi.length := fun ch hch => hroi ▸ pix_lt hr hc hch
  have hv : ∀ ch < 3, frameAt W (smoothColumns k H (sample roi W)) (pix W r c ch) =
      smoothColumns k H (sample roi W) r c ch := fun ch hch => frameAt_pix hc hch
  have hlen : 3 * (r * W + c) + 2 < t.length := ht ▸ pix_lt hr hc (show 2 < 3 by decide)
  simp only [columnPassStep, (div_mul_add hc).2]
  by_cases hb' : r < k.length / 2 ∨ H - k.length / 2 ≤ r
  · rw [if_pos ((border_iff hr hH).2 hb')]
    simp only [readAt_eq_getD 0 (show 3 * (r * W + c) < roi.length from hi 0 (by decide)),
      readAt_eq_getD 0 (hi 1 (by decide)), readAt_eq_getD 0 (hi 2 (by decide)), ok_bind,
      pure_eq_ok]
    exact writeAt_three_bind _ hlen
      ((hv 0 (by decide)).trans (by rw [smoothColumns, if_pos hb']; rfl))
      ((hv 1 (by decide)).trans (by rw [smoothColumns, if_pos hb']; rfl))
      ((hv 2 (by decide)).trans (by rw [smoothColumns, if_pos hb']; rfl))
  · rw [if_neg (mt (border_iff hr hH).1 hb'), (oddKernel_half hodd).2, forLoop_kernelTap
      (fun j ch => k.getD j 0 * sample roi W (r + j - k.length / 2) c ch)
      fun j hj x => kernelTap_eq (fun ch => pix W (r + j - k.length / 2) c ch)
        (fun ch hch => u32_columnTap hc hch (by omega) (by omega) hsize) hj
        (fun ch hch => hroi ▸ pix_lt (by omega) hc hch) x, ok_bind]
    exact writeAt_three_bind _ hlen
      ((hv 0 (by decide)).trans (by rw [smoothColumns, if_neg hb']; rfl))
      ((hv 1 (by decide)).trans (by rw [smoothColumns, if_neg hb']; rfl))
      ((hv 2 (by decide)).trans (by rw [smoothColumns, if_neg hb']; rfl))

/-- **The column pass.** From a zero-filled `roiSmoothedTemp_s` and the row counter at `0`, the
column pass leaves `smoothColumns` in `roiSmoothedTemp_s`. -/
theorem columnPass_eq (hodd : k.length % 2 = 1) (hroi : roi.length = 3 * (H * W))
    (hsize : 3 * (H * W) < 2 ^ 32) :
    forLoop (H * W) (columnPassStep roi k H W ((k.length / 2 : Nat) : Int) 0)
      (List.replicate roi.length 0, 0) =
      .ok (frame H W (smoothColumns k H (sample roi W)), H * W / W) := by
  have hlen : (List.replicate roi.length (0 : α)).length = 3 * (H * W) := by
    rw [List.length_replicate, hroi]
  have key : ∃ st, forLoop (H * W) (columnPassStep roi k H W ((k.length / 2 : Nat) : Int) 0)
      (List.replicate roi.length 0, 0) = .ok st ∧ st.2 = H * W / W ∧
      Updates (· < 3 * (H * W)) (frameAt W (smoothColumns k H (sample roi W)))
        (List.replicate roi.length 0) st.1 := by
    refine forLoop_ok (fun p (st : List α × Nat) => st.2 = p / W ∧ Updates (· < 3 * p)
      (frameAt W (smoothColumns k H (sample roi W))) (List.replicate roi.length 0) st.1) ?_ _
      ⟨(Nat.zero_div W).symm, rfl, fun _ _ h => absurd h (by omega), fun _ _ => rfl⟩
    rintro p hp ⟨t, n⟩ ⟨hn, hu⟩
    obtain ⟨r, hr, c, hc, rfl⟩ := exists_pixel hp
    dsimp only at hn hu
    rw [(div_mul_add hc).1] at hn
    subst hn
    have ht := hu.length.trans hlen
    exact ⟨_, columnPassStep_eq hodd hroi hsize hr hc ht, (succ_div_eq hc).symm,
      (hu.trans (setTriple_updates (by rw [pix_zero_add, ht]; exact pix_lt hr hc (by decide)))).of_iff
        fun x => by unfold pix; omega⟩
  obtain ⟨⟨t, n⟩, hloop, hn, hu⟩ := key
  rw [hloop, show n = H * W / W from hn]
  exact congrArg (fun t => Except.ok (t, H * W / W)) (eq_frame (hu.length.trans hlen)
    fun r hr c hc ch hch => by
      rw [hu.written _ (hlen ▸ pix_lt hr hc hch) (pix_lt hr hc hch), frameAt_pix hc hch])

/-- **One pixel of the row pass.** At pixel `(r, c)` the row pass writes the pixel's samples of
`smoothRows` of `temp`. -/
theorem rowPassStep_eq {out : List α} (hodd : k.length % 2 = 1) (htemp : temp.length = 3 * (H * W))
    (hsize : 3 * (H * W) < 2 ^ 32) (hr : r < H) (hc : c < W) (hout : out.length = 3 * (H * W)) :
    rowPassStep temp k W ((k.length / 2 : Nat) : Int) 0 (r * W + c) out =
      .ok (setTriple out (pix W r c 0) (frameAt W (smoothRows k W (sample temp W)))) := by
  have hW : W < 2 ^ 32 := by have := Nat.mul_le_mul_right W (show 1 ≤ H by omega); omega
  have hi : ∀ ch < 3, 3 * (r * W + c) + ch < temp.length := fun ch hch => htemp ▸ pix_lt hr hc hch
  have hv : ∀ ch < 3, frameAt W (smoothRows k W (sample temp W)) (pix W r c ch) =
      smoothRows k W (sample temp W) r c ch := fun ch hch => frameAt_pix hc hch
  have hlen : 3 * (r * W + c) + 2 < out.length := hout ▸ pix_lt hr hc (show 2 < 3 by decide)
  have hmod : ((r * W + c : Nat) : Int) % (W : Int) = (c : Int) := by
    rw [← Int.ofNat_emod, (div_mul_add hc).2]
  simp only [rowPassStep, hmod, Int.ofNat_le]
  by_cases hb' : c < k.length / 2 ∨ W - k.length / 2 ≤ c
  · rw [if_pos ((border_iff hc hW).2 hb')]
    simp only [readAt_eq_getD 0 (show 3 * (r * W + c) < temp.length from hi 0 (by decide)),
      readAt_eq_getD 0 (hi 1 (by decide)), readAt_eq_getD 0 (hi 2 (by decide)), ok_bind,
      pure_eq_ok]
    exact writeAt_three hlen
      ((hv 0 (by decide)).trans (by rw [smoothRows, if_pos hb']; rfl))
      ((hv 1 (by decide)).trans (by rw [smoothRows, if_pos hb']; rfl))
      ((hv 2 (by decide)).trans (by rw [smoothRows, if_pos hb']; rfl))
  · rw [if_neg (mt (border_iff hc hW).1 hb'), (oddKernel_half hodd).2, forLoop_kernelTap
      (fun j ch => k.getD j 0 * sample temp W r (c + j - k.length / 2) ch)
      fun j hj x => kernelTap_eq (fun ch => pix W r (c + j - k.length / 2) ch)
        (fun ch hch => u32_rowTap hr hch (by omega) (by omega) hsize) hj
        (fun ch hch => htemp ▸ pix_lt hr (by omega) hch) x, ok_bind]
    exact writeAt_three hlen
      ((hv 0 (by decide)).trans (by rw [smoothRows, if_neg hb']; rfl))
      ((hv 1 (by decide)).trans (by rw [smoothRows, if_neg hb']; rfl))
      ((hv 2 (by decide)).trans (by rw [smoothRows, if_neg hb']; rfl))

/-- **The row pass** leaves `smoothRows` of `temp` in `roiSmoothed`. -/
theorem rowPass_eq {out : List α} (hodd : k.length % 2 = 1) (htemp : temp.length = 3 * (H * W))
    (hsize : 3 * (H * W) < 2 ^ 32) (hout : out.length = 3 * (H * W)) :
    forLoop (H * W) (rowPassStep temp k W ((k.length / 2 : Nat) : Int) 0) out =
      .ok (frame H W (smoothRows k W (sample temp W))) := by
  have key : ∃ t, forLoop (H * W) (rowPassStep temp k W ((k.length / 2 : Nat) : Int) 0) out =
      .ok t ∧ Updates (fun x => ∃ p < H * W, 3 * p ≤ x ∧ x < 3 * p + 3)
        (frameAt W (smoothRows k W (sample temp W))) out t :=
    forLoop_updates (fun p hp u hu => by
      obtain ⟨r, hr, c, hc, rfl⟩ := exists_pixel hp
      exact ⟨_, rowPassStep_eq hodd htemp hsize hr hc hu,
        setTriple_updates (by rw [hu]; exact pix_lt hr hc (show 2 < 3 by decide))⟩) hout
  obtain ⟨t, hloop, hu⟩ := key
  rw [hloop]
  refine congrArg _ (eq_frame (hu.length.trans hout) fun r hr c hc ch hch => ?_)
  rw [hu.written _ (by rw [hout]; exact pix_lt hr hc hch) ⟨r * W + c, pixel_lt hr hc,
    by unfold pix; omega, by unfold pix; omega⟩, frameAt_pix hc hch]

end Passes

/-! ### `smoothRaw` and the entry point -/

section Routine

variable {α : Type} [Field α] {roi out : List α} {H W ri ci : Nat}

theorem fKernels_odd {i : Nat} (hi : i < 7) : ((fKernels : List (List α)).getD i []).length % 2 = 1 := by
  rw [length_fKernels_getD]; exact (kernelTaps_odd hi).1

/-- **`smoothRaw` smooths.** For every pair of kernels of `_fKernels` and every frame of fewer
than `2 ^ 32` samples, `smoothRaw` returns the separable smoothing of the frame. -/
theorem smoothRaw_eq (hri : ri < 7) (hci : ci < 7) (hsize : 3 * (H * W) < 2 ^ 32)
    (hroi : roi.length = 3 * (H * W)) (hout : out.length = 3 * (H * W)) :
    smoothRaw roi out (H, W) ri ci =
      .ok (frame H W (separableSmooth (fKernels.getD ri []) (fKernels.getD ci []) H W roi)) := by
  have hr := fKernels_odd (α := α) hri
  have hc := fKernels_odd (α := α) hci
  have hr2 : ¬ (((fKernels : List (List α)).getD ri []).length : Int) % 2 = 0 := by omega
  have hc2 : ¬ (((fKernels : List (List α)).getD ci []).length : Int) % 2 = 0 := by omega
  simp only [smoothRaw, readAt_fKernels hri, readAt_fKernels hci, ok_bind, hr2, hc2, if_false,
    (oddKernel_half hr).1, (oddKernel_half hc).1]
  rw [columnPass_eq hc hroi hsize, ok_bind]
  rw [rowPass_eq hr length_frame hsize (by rw [List.length_replicate, hout])]
  refine congrArg _ (frame_congr fun r hr' c hc' ch hch => ?_)
  unfold separableSmooth smoothRows
  split_ifs
  · exact sample_frame hr' hc' hch
  · exact convolve_congr fun m hm => sample_frame hr' (by omega) hch

/-- `std::copy` copies the frame into a destination of its size. -/
theorem copySummed_eq (hout : out.length = roi.length) : copySummed roi out = .ok roi := by
  have key : ∃ t, copySummed roi out = .ok t ∧
      Updates (fun x => ∃ i < roi.length, x = i) (roi.getD · 0) out t :=
    forLoop_updates (fun i hi t ht => ⟨t.set i (roi.getD i 0),
      by rw [readAt_eq_getD 0 hi, ok_bind, writeAt_of_lt (by omega)],
      by simp, fun x hx h => by simp [h, ht ▸ hi], fun x h => List.getElem?_set_ne (Ne.symm h)⟩) hout
  obtain ⟨t, ht, hu⟩ := key
  rw [ht]
  refine congrArg _ (List.ext_getElem? fun x => ?_)
  by_cases hx : x < roi.length
  · rw [hu.written x (hout ▸ hx) ⟨x, hx, rfl⟩, getElem?_eq_some_getD 0 hx]
  · rw [List.getElem?_eq_none (by rw [hu.length, hout]; omega), List.getElem?_eq_none (by omega)]

/-- Whether `smoothSummedData` copies the frame instead of smoothing it. -/
def copiesFrame (H W ri ci : Nat) : Prop :=
  (ri = 0 ∧ ci = 0) ∨ (W < kernelTaps.getD ri 0 ∨ H < kernelTaps.getD ci 0)

instance (H W ri ci : Nat) : Decidable (copiesFrame H W ri ci) :=
  inferInstanceAs (Decidable ((ri = 0 ∧ ci = 0) ∨ (W < kernelTaps.getD ri 0 ∨ H < kernelTaps.getD ci 0)))

/-- **The general path of `smoothSummedData`.** Without the accelerated routines,
`smoothSummedData` returns the frame where its kernels are disabled or larger than the frame,
and the separable smoothing otherwise. -/
theorem smoothSummedData_general (hri : ri < 7) (hci : ci < 7) (hsize : 3 * (H * W) < 2 ^ 32)
    (hroi : roi.length = 3 * (H * W)) (hout : out.length = 3 * (H * W))
    (scratch : Scratch α (u32 (H * numGpixelPhases * W))) :
    smoothSummedData roi out (H, W) ri ci false scratch =
      .ok (if copiesFrame H W ri ci then roi
        else frame H W (separableSmooth (fKernels.getD ri []) (fKernels.getD ci []) H W roi)) := by
  simp only [smoothSummedData, readAt_fKernels hri, readAt_fKernels hci, ok_bind,
    length_fKernels_getD, Bool.false_eq_true, and_false, if_false, bind_pure]
  unfold copiesFrame
  split_ifs
  · apply copySummed_eq; rw [List.length_replicate, hout, hroi]
  · apply smoothRaw_eq hri hci hsize hroi; rw [List.length_replicate, hout]

end Routine

/-! ### The accelerated routines against the general path -/

section Accelerated

variable {α : Type} [Field α] {roi out : List α} {H W ri ci : Nat}
  {scratch : Scratch α (u32 (H * numGpixelPhases * W))}

/-- Outside the kernel pairs of the accelerated routines, the flag `doAcceleratedVersion` changes
nothing. -/
theorem smoothSummedData_flag (b : Bool) (h23 : ¬ (ri = 2 ∧ ci = 3)) (h36 : ¬ (ri = 3 ∧ ci = 6)) :
    smoothSummedData roi out (H, W) ri ci b scratch =
      smoothSummedData roi out (H, W) ri ci false scratch := by
  unfold smoothSummedData
  rcases Nat.lt_or_ge ri 7 with hri | hri
  · rcases Nat.lt_or_ge ci 7 with hci | hci
    · have n23 : ∀ b : Bool, ¬ (kernelTaps.getD ri 0 = 5 ∧ kernelTaps.getD ci 0 = 7 ∧ b = true) :=
        fun _ h => h23 ⟨(kernelTaps_eq_iff hri).1.1 h.1, (kernelTaps_eq_iff hci).2.1.1 h.2.1⟩
      have n36 : ∀ b : Bool, ¬ (kernelTaps.getD ri 0 = 7 ∧ kernelTaps.getD ci 0 = 15 ∧ b = true) :=
        fun _ h => h36 ⟨(kernelTaps_eq_iff hri).2.1.1 h.1, (kernelTaps_eq_iff hci).2.2.1 h.2.1⟩
      simp only [readAt_fKernels hri, readAt_fKernels hci, ok_bind, length_fKernels_getD, n23,
        n36, if_false]
    · simp only [readAt_fKernels hri, ok_bind,
        readAt_of_le (show (fKernels : List (List α)).length ≤ ci from hci), error_bind]
  · simp only [readAt_of_le (show (fKernels : List (List α)).length ≤ ri from hri), error_bind]

/-- **`smoothSummedData` with the kernels of `smoothRaw5x7`**: the accelerated and the general
paths return the same frame. -/
theorem smoothSummedData_5x7 (hsize : 3 * (H * W) < 2 ^ 32) (hroi : roi.length = 3 * (H * W))
    (hout : out.length = 3 * (H * W)) :
    smoothSummedData roi out (H, W) 2 3 true scratch =
      smoothSummedData roi out (H, W) 2 3 false scratch := by
  rw [smoothSummedData_general (by decide) (by decide) hsize hroi hout]
  simp only [smoothSummedData, readAt_fKernels (show 2 < 7 by decide),
    readAt_fKernels (show 3 < 7 by decide), ok_bind, pure_eq_ok, bind_ok, length_fKernels_getD]
  by_cases hcopy : copiesFrame H W 2 3
  · unfold copiesFrame at hcopy ⊢
    rw [if_pos hcopy, if_pos hcopy]
    apply copySummed_eq; rw [List.length_replicate, hout, hroi]
  · have hHW : 7 ≤ H ∧ 5 ≤ W := by
      simp only [copiesFrame, kernelTaps, List.getD_cons_succ, List.getD_cons_zero] at hcopy; omega
    have hH' : H < 2 ^ 32 := by have := Nat.mul_le_mul_left H (show 1 ≤ W by omega); omega
    have hW' : W < 2 ^ 32 := by have := Nat.mul_le_mul_right W (show 1 ≤ H by omega); omega
    unfold copiesFrame at hcopy ⊢
    rw [if_neg hcopy, if_neg hcopy, if_pos ⟨rfl, rfl, trivial⟩, smoothRaw5x7,
      smoothAccelerated_eq (plan5x7_fits hHW.1 hHW.2 hH' hW') hsize hroi
        (by rw [List.length_replicate, hout])]
    exact congrArg _ (frame_congr fun r _ c _ ch _ => accelSmooth_plan5x7 hHW.1 hHW.2 hH' hW')

/-- `smoothSummedData` with the kernels of `smoothRaw7x15` and the accelerated routines runs
`smoothRaw7x15` on every frame of at least `16 × 8` pixels. -/
theorem smoothSummedData_7x15 (hH : 16 ≤ H) (hW : 8 ≤ W) (hsize : 3 * (H * W) < 2 ^ 32)
    (hroi : roi.length = 3 * (H * W)) (hout : out.length = 3 * (H * W)) :
    smoothSummedData roi out (H, W) 3 6 true scratch =
      .ok (frame H W (accelSmooth plan7x15 H W roi scratch.vSmoothedTransposedRoi
        (List.replicate out.length 0))) := by
  have hH' : H < 2 ^ 32 := by have := Nat.mul_le_mul_left H (show 1 ≤ W by omega); omega
  have hW' : W < 2 ^ 32 := by have := Nat.mul_le_mul_right W (show 1 ≤ H by omega); omega
  have hcopy : ¬ copiesFrame H W 3 6 := by
    simp only [copiesFrame, kernelTaps, List.getD_cons_succ, List.getD_cons_zero]; omega
  simp only [smoothSummedData, readAt_fKernels (show 3 < 7 by decide),
    readAt_fKernels (show 6 < 7 by decide), ok_bind, pure_eq_ok, bind_ok, length_fKernels_getD]
  unfold copiesFrame at hcopy
  rw [if_neg hcopy, if_neg (by decide), if_pos ⟨rfl, rfl, trivial⟩, smoothRaw7x15,
    smoothAccelerated_eq (plan7x15_fits hH hW hH' hW') hsize hroi
      (by rw [List.length_replicate, hout])]

/-- **The accelerated routines against the general path.** On every frame of fewer than `2 ^ 32`
samples, `smoothSummedData` returns the same with and without its accelerated routines for
every pair of kernel indices but `(3, 6)`, the pair of `smoothRaw7x15`. For that pair, on every
frame of at least `16 × 8` pixels, the general path returns the separable smoothing, while the
accelerated one returns zeros in columns `W - 5` and `W - 4`. -/
theorem smoothSummedData_accelerated (hsize : 3 * (H * W) < 2 ^ 32)
    (hroi : roi.length = 3 * (H * W)) (hout : out.length = 3 * (H * W))
    (scratch : Scratch α (u32 (H * numGpixelPhases * W))) :
    (∀ ri ci, (ri, ci) ≠ (3, 6) → smoothSummedData roi out (H, W) ri ci true scratch =
      smoothSummedData roi out (H, W) ri ci false scratch) ∧
    (16 ≤ H → 8 ≤ W →
      smoothSummedData roi out (H, W) 3 6 false scratch =
        .ok (frame H W (separableSmooth (fKernels.getD 3 []) (fKernels.getD 6 []) H W roi)) ∧
      ∃ acc, smoothSummedData roi out (H, W) 3 6 true scratch = .ok acc ∧
        ∀ r < H, ∀ ch < 3, acc.getD (pix W r (W - 5) ch) 0 = 0 ∧
          acc.getD (pix W r (W - 4) ch) 0 = 0) := by
  refine ⟨fun ri ci hne => ?_, fun hH hW => ⟨?_, _, smoothSummedData_7x15 hH hW hsize hroi hout,
    fun r hr ch hch => ?_⟩⟩
  · by_cases h23 : ri = 2 ∧ ci = 3
    · obtain ⟨rfl, rfl⟩ := h23
      exact smoothSummedData_5x7 hsize hroi hout
    · exact smoothSummedData_flag true h23 fun h => hne (by rw [h.1, h.2])
  · rw [smoothSummedData_general (by decide) (by decide) hsize hroi hout, if_neg]
    simp only [copiesFrame, kernelTaps, List.getD_cons_succ, List.getD_cons_zero]
    omega
  · have hW' : W < 2 ^ 32 := by have := Nat.mul_le_mul_right W (show 1 ≤ H by omega); omega
    have hzero : ∀ c, sample (List.replicate out.length (0 : α)) W r c ch = 0 := fun c => by
      rw [sample, List.getD_eq_getElem?_getD]; exact List.getElem?_getD_replicate_default_eq _ _ _
    exact ⟨(sample_frame hr (by omega) hch).trans
        ((accelSmooth_plan7x15_cols hW hW' le_rfl (by omega)).trans (hzero _)),
      (sample_frame hr (by omega) hch).trans
        ((accelSmooth_plan7x15_cols hW hW' (by omega) (by omega)).trans (hzero _))⟩

/-- On a frame of `16 × 8` pixels of ones, pixel `(0, 3)` of the accelerated result is `0`, and
of the general result the sum of the taps of kernel `3`. -/
theorem smoothSummedData_accelerated_ones :
    ∃ acc gen, smoothSummedData (List.replicate 384 (1 : ℚ)) (List.replicate 384 0) (16, 8) 3 6
        true (Scratch.zeros _) = .ok acc ∧
      smoothSummedData (List.replicate 384 (1 : ℚ)) (List.replicate 384 0) (16, 8) 3 6 false
        (Scratch.zeros _) = .ok gen ∧
      acc.getD (pix 8 0 3 0) 0 = 0 ∧ gen.getD (pix 8 0 3 0) 0 ≠ 0 := by
  obtain ⟨-, h⟩ := smoothSummedData_accelerated (α := ℚ) (H := 16) (W := 8) (by norm_num)
    (List.length_replicate _ _) (List.length_replicate _ _) (Scratch.zeros _)
  obtain ⟨hgen, acc, hacc, hcols⟩ := h (by decide) (by decide)
  refine ⟨acc, _, hacc, hgen, (hcols 0 (by decide) 0 (by decide)).1, ?_⟩
  rw [← sample, sample_frame (by decide) (by decide) (by decide)]
  unfold separableSmooth smoothRows
  rw [length_fKernels_three, if_neg (by decide), convolve, length_fKernels_three]
  unfold smoothColumns
  rw [length_fKernels_six]
  simp only [List.range_succ, List.range_zero, List.nil_append, List.map_cons, List.map_nil,
    List.sum_cons, List.sum_nil]
  norm_num [sample, pix, fKernels]

end Accelerated

end RawToDepthDsp

end Cobra
