import Cobra.Smooth.Model

/-!
# Smoothing of the Summed Raw Data: Loops that Write Buffers

Every loop of the smoothing routines writes a buffer it does not read, at positions fixed by
its counters, with values read from other buffers. `Updates P w t t'` says what such a loop
does: `t'` holds `w k` at every position `k` of `P` and keeps `t` everywhere else. Loops and
sequences of loops compose `Updates` (`forLoop_updates`, `Updates.trans`), and a frame is then
read back pixel by pixel through `pix`, whose arithmetic is proved here once.

## Main results

* `exists_pix`, `pix_inj`: every sample of an `H × W` frame has one pixel index.
* `forLoop_updates`: a loop whose iterations update positions with one value function
  updates their union.
* `eq_frame`: a buffer is the frame of its pixel values (`frame`).
* `forLoop_block`, `Updates.pix_block`: a double loop over lines and pixels updates a block,
  and what it leaves at each pixel.
* `sumTaps_eq`, `tapSum_pix`: the tap-sum macros convolve a line with their kernel.
-/

namespace Cobra

namespace RawToDepthDsp

/-! ### Pixel indices -/

theorem pixel_lt {H W r c : Nat} (hr : r < H) (hc : c < W) : r * W + c < H * W :=
  calc r * W + c < (r + 1) * W := by rw [Nat.succ_mul]; omega
    _ ≤ H * W := Nat.mul_le_mul_right _ hr

theorem pix_lt {H W r c ch : Nat} (hr : r < H) (hc : c < W) (hch : ch < 3) :
    pix W r c ch < 3 * (H * W) := by
  have := pixel_lt hr hc; unfold pix; omega

theorem div_mul_add {W r c : Nat} (hc : c < W) : (r * W + c) / W = r ∧ (r * W + c) % W = c := by
  have hW : 0 < W := by omega
  rw [Nat.add_comm, Nat.add_mul_div_right _ _ hW, Nat.add_mul_mod_self_right,
    Nat.div_eq_of_lt hc, Nat.mod_eq_of_lt hc, Nat.zero_add]
  exact ⟨rfl, rfl⟩

/-- A pixel index determines its pixel and its sample. -/
theorem pix_inj {W r c ch r' c' ch' : Nat} (hc : c < W) (hc' : c' < W) (hch : ch < 3)
    (hch' : ch' < 3) (h : pix W r c ch = pix W r' c' ch') : r = r' ∧ c = c' ∧ ch = ch' := by
  unfold pix at h
  have h1 : r * W + c = r' * W + c' := by omega
  have hr : r = r' := by rw [← (div_mul_add (r := r) hc).1, h1, (div_mul_add hc').1]
  subst hr
  exact ⟨rfl, by omega, by omega⟩

/-- The pixel and the sample a pixel index encodes. -/
theorem pix_decode {W r c ch : Nat} (hc : c < W) (hch : ch < 3) :
    pix W r c ch / 3 / W = r ∧ pix W r c ch / 3 % W = c ∧ pix W r c ch % 3 = ch := by
  have h3 : pix W r c ch / 3 = r * W + c := by unfold pix; omega
  rw [h3]
  exact ⟨(div_mul_add hc).1, (div_mul_add hc).2, by unfold pix; omega⟩

@[simp] theorem pix_zero_add (W r c ch : Nat) : pix W r c 0 + ch = pix W r c ch := by
  unfold pix; omega

/-- Every pixel of an `H × W` frame, in row-major order, has a row and a column. -/
theorem exists_pixel {H W p : Nat} (hp : p < H * W) : ∃ r < H, ∃ c < W, p = r * W + c := by
  have hW : 0 < W := Nat.pos_of_ne_zero fun h => by simp [h] at hp
  refine ⟨p / W, (Nat.div_lt_iff_lt_mul hW).2 hp, p % W, Nat.mod_lt _ hW, ?_⟩
  rw [Nat.mul_comm]; exact (Nat.div_add_mod p W).symm

/-- Every sample of an `H × W` frame has a pixel index. -/
theorem exists_pix {H W k : Nat} (hk : k < 3 * (H * W)) :
    ∃ r < H, ∃ c < W, ∃ ch < 3, k = pix W r c ch := by
  have hW : 0 < W := Nat.pos_of_ne_zero fun h => by simp [h] at hk
  refine ⟨k / 3 / W, ?_, k / 3 % W, Nat.mod_lt _ hW, k % 3, Nat.mod_lt _ (by decide), ?_⟩
  · rw [Nat.div_lt_iff_lt_mul hW]; omega
  · unfold pix
    rw [Nat.mul_comm (k / 3 / W), Nat.div_add_mod]
    omega

/-- Two frames of `H × W` pixels that agree at every pixel are equal. -/
theorem ext_pix {α : Type} {s t : List α} {H W : Nat} (hs : s.length = 3 * (H * W))
    (ht : t.length = 3 * (H * W))
    (h : ∀ r < H, ∀ c < W, ∀ ch < 3, s[pix W r c ch]? = t[pix W r c ch]?) : s = t := by
  refine List.ext_getElem? fun k => ?_
  by_cases hk : k < 3 * (H * W)
  · obtain ⟨r, hr, c, hc, ch, hch, rfl⟩ := exists_pix hk
    exact h r hr c hc ch hch
  · rw [List.getElem?_eq_none (by omega), List.getElem?_eq_none (by omega)]

/-! ### Frames -/

section Frames

variable {α : Type} {Y X i y ch : Nat} {f : Nat → Nat → Nat → α}

/-- The sample at index `k` of a frame of `X` pixels a line whose sample `ch` of pixel `(i, y)`
is `f i y ch`. -/
def frameAt (X : Nat) (f : Nat → Nat → Nat → α) (k : Nat) : α := f (k / 3 / X) (k / 3 % X) (k % 3)

/-- The frame of `Y` lines of `X` pixels whose sample `ch` of pixel `(i, y)` is `f i y ch`. -/
def frame (Y X : Nat) (f : Nat → Nat → Nat → α) : List α :=
  (List.range (3 * (Y * X))).map (frameAt X f)

@[simp] theorem length_frame : (frame Y X f).length = 3 * (Y * X) := by simp [frame]

theorem frameAt_pix (hy : y < X) (hch : ch < 3) : frameAt X f (pix X i y ch) = f i y ch := by
  obtain ⟨h1, h2, h3⟩ := pix_decode (r := i) hy hch
  rw [frameAt, h1, h2, h3]

theorem frame_pix (hi : i < Y) (hy : y < X) (hch : ch < 3) :
    (frame Y X f)[pix X i y ch]? = some (f i y ch) := by
  simp [frame, List.getElem?_range (pix_lt hi hy hch), frameAt_pix hy hch]

/-- A buffer of `Y × X` pixels is the frame of what it holds at each pixel. -/
theorem eq_frame {t : List α} (ht : t.length = 3 * (Y * X))
    (h : ∀ i < Y, ∀ y < X, ∀ ch < 3, t[pix X i y ch]? = some (f i y ch)) : t = frame Y X f :=
  ext_pix ht length_frame fun i hi y hy ch hch => (h i hi y hy ch hch).trans (frame_pix hi hy hch).symm

theorem frame_congr {g : Nat → Nat → Nat → α}
    (h : ∀ i < Y, ∀ y < X, ∀ ch < 3, f i y ch = g i y ch) : frame Y X f = frame Y X g :=
  eq_frame length_frame fun i hi y hy ch hch => (frame_pix hi hy hch).trans (congrArg _ (h i hi y hy ch hch))

theorem getElem?_eq_some_getD {t : List α} {k : Nat} (d : α) (h : k < t.length) :
    t[k]? = some (t.getD k d) := by
  rw [List.getD_eq_getElem?_getD, List.getElem?_eq_getElem h]; rfl

end Frames

theorem sample_frame {α : Type} [Field α] {Y X i y ch : Nat} {f : Nat → Nat → Nat → α}
    (hi : i < Y) (hy : y < X) (hch : ch < 3) : sample (frame Y X f) X i y ch = f i y ch := by
  rw [sample, List.getD_eq_getElem?_getD, frame_pix hi hy hch]; rfl

/-! ### Updates -/

section Updates

variable {α : Type} {P Q : Nat → Prop} {w : Nat → α} {s t u : List α}

/-- `t'` is `t` with `w k` at every position `k` of `P` below its length. -/
structure Updates (P : Nat → Prop) (w : Nat → α) (t t' : List α) : Prop where
  length : t'.length = t.length
  written : ∀ k < t.length, P k → t'[k]? = some (w k)
  kept : ∀ k, ¬ P k → t'[k]? = t[k]?

theorem Updates.of_iff (h : Updates P w s t) (hPQ : ∀ k, P k ↔ Q k) : Updates Q w s t :=
  ⟨h.length, fun k hk hq => h.written k hk ((hPQ k).2 hq), fun k hq => h.kept k (hq ∘ (hPQ k).1)⟩

theorem Updates.trans (h1 : Updates P w s t) (h2 : Updates Q w t u) :
    Updates (fun k => P k ∨ Q k) w s u where
  length := h2.length.trans h1.length
  written k hk hpq := by
    by_cases hq : Q k
    · exact h2.written k (h1.length ▸ hk) hq
    · rw [h2.kept k hq]; exact h1.written k hk (hpq.resolve_right hq)
  kept k h := by rw [h2.kept k fun hq => h (.inr hq), h1.kept k fun hp => h (.inl hp)]

/-- What a loop leaves at a position no iteration writes. -/
theorem Updates.of_not {k : Nat} (h : Updates P w s t) (hk : ¬ P k) : t[k]? = s[k]? :=
  h.kept k hk

/-- The samples of the pixels `(i, y0 + j)`, `i < A`, `j < B`, of a frame of `X` pixels a
line: the positions a double loop over `A` lines and `B` pixels from `y0` on writes. -/
def Block (X A y0 B k : Nat) : Prop :=
  ∃ i < A, ∃ j < B, pix X i (y0 + j) 0 ≤ k ∧ k < pix X i (y0 + j) 0 + 3

/-- A pixel of the frame lies in a block exactly when its line and its place in the line do. -/
theorem block_pix_iff {X A y0 B x y ch : Nat} (hB : y0 + B ≤ X) (hy : y < X) (hch : ch < 3) :
    Block X A y0 B (pix X x y ch) ↔ x < A ∧ y0 ≤ y ∧ y < y0 + B := by
  constructor
  · rintro ⟨i, hi, j, hj, h1, h2⟩
    have := @pix_inj X x y ch i (y0 + j) (pix X x y ch - pix X i (y0 + j) 0) hy
      (show y0 + j < X by omega) hch (by omega) (by unfold pix at h1 h2 ⊢; omega)
    exact ⟨this.1 ▸ hi, by omega, by omega⟩
  · rintro ⟨hx, h1, h2⟩
    exact ⟨x, hx, y - y0, by omega, by unfold pix; omega, by unfold pix; omega⟩

/-- What a block loop leaves at a pixel of one of its lines: its value inside the block, the old
sample outside. -/
theorem Updates.pix_block {X A y0 B x y ch : Nat} (h : Updates (Block X A y0 B) w s t)
    (hB : y0 + B ≤ X) (hx : x < A) (hy : y < X) (hch : ch < 3) (hk : pix X x y ch < s.length) :
    t[pix X x y ch]? = if y0 ≤ y ∧ y < y0 + B then some (w (pix X x y ch)) else s[pix X x y ch]? := by
  split_ifs with hb
  · exact h.written _ hk ((block_pix_iff hB hy hch).2 ⟨hx, hb⟩)
  · exact h.kept _ fun hb' => hb ((block_pix_iff hB hy hch).1 hb').2

/-- One write updates its position. -/
theorem set_updates {dst : List α} {idx : Nat} (hidx : idx < dst.length) :
    Updates (fun k => k = idx) w dst (dst.set idx (w idx)) :=
  ⟨List.length_set .., by rintro k - rfl; exact List.getElem?_set_self hidx,
    fun _ hk => List.getElem?_set_ne (Ne.symm hk)⟩

/-- `dst` with `w` written at `idx`, `idx + 1` and `idx + 2`, in that order. -/
def setTriple (dst : List α) (idx : Nat) (w : Nat → α) : List α :=
  ((dst.set idx (w idx)).set (idx + 1) (w (idx + 1))).set (idx + 2) (w (idx + 2))

theorem setTriple_updates {dst : List α} {idx : Nat} (hidx : idx + 2 < dst.length) :
    Updates (fun k => idx ≤ k ∧ k < idx + 3) w dst (setTriple dst idx w) where
  length := by simp [setTriple]
  written k hk hP := by
    simp only [setTriple, List.getElem?_set, List.length_set]
    rcases (by omega : k = idx ∨ k = idx + 1 ∨ k = idx + 2) with rfl | rfl | rfl <;> simp [hk]
  kept k hP := by
    simp only [setTriple, List.getElem?_set]
    rw [if_neg (by omega), if_neg (by omega), if_neg (by omega)]

/-- Three writes in range, of `w` at `idx`, `idx + 1` and `idx + 2`. -/
theorem writeAt_three {b : Buf} {dst : List α} {idx : Nat} {x0 x1 x2 : α}
    (hidx : idx + 2 < dst.length) (h0 : w idx = x0) (h1 : w (idx + 1) = x1)
    (h2 : w (idx + 2) = x2) :
    (do let dst ← writeAt b dst idx x0
        let dst ← writeAt b dst (idx + 1) x1
        writeAt b dst (idx + 2) x2) = .ok (setTriple dst idx w) := by
  rw [← h0, ← h1, ← h2]
  simp (disch := (try simp only [List.length_set]); omega) only [writeAt_of_lt, ok_bind]
  rfl

/-- Three writes in range, of `w` at `idx`, `idx + 1` and `idx + 2`, and what comes after. -/
theorem writeAt_three_bind {β : Type} {b : Buf} {dst : List α} {idx : Nat} {x0 x1 x2 : α}
    (g : List α → Except Fault β) (hidx : idx + 2 < dst.length) (h0 : w idx = x0)
    (h1 : w (idx + 1) = x1) (h2 : w (idx + 2) = x2) :
    (do let dst ← writeAt b dst idx x0
        let dst ← writeAt b dst (idx + 1) x1
        let dst ← writeAt b dst (idx + 2) x2
        g dst) = g (setTriple dst idx w) := by
  rw [← h0, ← h1, ← h2]
  simp (disch := (try simp only [List.length_set]); omega) only [writeAt_of_lt, ok_bind]
  rfl

/-- Writing three samples updates the three positions. -/
theorem writeTriple_updates {b : Buf} {dst : List α} {idx : Nat} {val : Nat → Except Fault α}
    (hidx : idx + 2 < dst.length) (hval : ∀ j < 3, val j = .ok (w (idx + j))) :
    ∃ dst', writeTriple b dst idx val = .ok dst' ∧
      Updates (fun k => idx ≤ k ∧ k < idx + 3) w dst dst' := by
  refine ⟨setTriple dst idx w, ?_, setTriple_updates hidx⟩
  simp only [writeTriple, hval 0 (by decide), hval 1 (by decide), hval 2 (by decide), ok_bind,
    Nat.add_zero]
  exact writeAt_three hidx rfl rfl rfl

/-- **A loop of updates.** When every iteration updates its positions with the same values,
the loop updates their union. -/
theorem forLoop_updates {n L : Nat} {body : Nat → List α → Except Fault (List α)}
    {P : Nat → Nat → Prop}
    (hstep : ∀ i < n, ∀ t : List α, t.length = L → ∃ t', body i t = .ok t' ∧ Updates (P i) w t t')
    (hs : s.length = L) :
    ∃ t, forLoop n body s = .ok t ∧ Updates (fun k => ∃ i < n, P i k) w s t := by
  induction n with
  | zero =>
    exact ⟨s, rfl, rfl, fun _ _ ⟨_, h, _⟩ => absurd h (Nat.not_lt_zero _), fun _ _ => rfl⟩
  | succ n ih =>
    obtain ⟨t, ht, hu⟩ := ih fun i hi => hstep i (by omega)
    obtain ⟨t', ht', hu'⟩ := hstep n (by omega) t (hu.length.trans hs)
    refine ⟨t', by rw [forLoop_succ, ht, ok_bind, ht'], (hu.trans hu').of_iff fun k => ?_⟩
    constructor
    · rintro (⟨i, hi, h⟩ | h)
      exacts [⟨i, by omega, h⟩, ⟨n, by omega, h⟩]
    · rintro ⟨i, hi, h⟩
      rcases Nat.lt_succ_iff_lt_or_eq.1 hi with hi | rfl
      exacts [.inl ⟨i, hi, h⟩, .inr h]

/-- **A block loop.** A double loop whose iteration `(i, j)` updates pixel `(i, y0 + j)` of a
frame of `X` pixels a line updates the block. -/
theorem forLoop_block {A B X y0 L : Nat} {body : Nat → Nat → List α → Except Fault (List α)}
    (hstep : ∀ i < A, ∀ j < B, ∀ t : List α, t.length = L → ∃ t', body i j t = .ok t' ∧
      Updates (fun k => pix X i (y0 + j) 0 ≤ k ∧ k < pix X i (y0 + j) 0 + 3) w t t')
    (hs : s.length = L) :
    ∃ t, forLoop A (fun i => forLoop B (body i)) s = .ok t ∧ Updates (Block X A y0 B) w s t :=
  forLoop_updates (fun i hi _ ht => forLoop_updates (fun j hj u hu => hstep i hi j hj u hu) ht) hs

/-- A list updated at every position below `n` is the updates followed by the rest. -/
theorem Updates.eq_map_range {n : Nat}
    (hu : Updates (fun k => k < n) w s t) (hn : n ≤ s.length) :
    t = (List.range n).map w ++ s.drop n := by
  refine List.ext_getElem? fun k => ?_
  by_cases hk : k < n
  · rw [hu.written k (by omega) hk, List.getElem?_append_left (by simpa using hk),
      List.getElem?_map, List.getElem?_range hk]
    rfl
  · rw [hu.kept k hk, List.getElem?_append_right (by simpa using hk), List.getElem?_drop,
      List.length_map, List.length_range, Nat.add_sub_cancel' (by omega)]

/-- A loop of updates returns the one list its updates determine. -/
theorem forLoop_updates_eq {n L : Nat} {body : Nat → List α → Except Fault (List α)}
    {P : Nat → Nat → Prop} {R : List α}
    (hstep : ∀ i < n, ∀ t : List α, t.length = L → ∃ t', body i t = .ok t' ∧ Updates (P i) w t t')
    (hs : s.length = L) (hR : ∀ t, Updates (fun k => ∃ i < n, P i k) w s t → t = R) :
    forLoop n body s = .ok R := by
  obtain ⟨t, ht, hu⟩ := forLoop_updates hstep hs
  rw [ht, hR t hu]

end Updates


/-! ### Tap sums -/

/-- A loop that adds `f m` at iteration `m` adds their sum. -/
theorem forLoop_add {β : Type} [AddMonoid β] {n : Nat} {body : Nat → β → Except Fault β}
    (f : Nat → β) (h : ∀ m < n, ∀ s, body m s = .ok (s + f m)) (s : β) :
    forLoop n body s = .ok (s + ((List.range n).map f).sum) := by
  induction n with
  | zero => simp
  | succ n ih =>
    rw [forLoop_succ, ih fun m hm => h m (by omega), ok_bind, h n (by omega), List.range_succ,
      List.map_append, List.sum_append]
    simp [add_assoc]

section Copy

variable {α : Type} [Zero α] {srcBuf dstBuf : Buf} {src dst : List α}

/-- `std::copy(src.begin(), src.end(), dst.begin())`, element by element. -/
def copyAll (srcBuf dstBuf : Buf) (src dst : List α) : Except Fault (List α) :=
  forLoop src.length (fun idx dst => do writeAt dstBuf dst idx (← readAt srcBuf src idx)) dst

/-- A copy into a destination at least as long overwrites its front. -/
theorem copyAll_eq (h : src.length ≤ dst.length) :
    copyAll srcBuf dstBuf src dst = .ok (src ++ dst.drop src.length) := by
  have hstep : ∀ i < src.length, ∀ t : List α, t.length = dst.length → ∃ t',
      (do writeAt dstBuf t i (← readAt srcBuf src i)) = .ok t' ∧
        Updates (fun k => k = i) (fun k => src.getD k 0) t t' := fun i hi t ht =>
    ⟨_, by rw [readAt_eq_getD 0 hi, ok_bind, writeAt_of_lt (by omega)], set_updates (by omega)⟩
  obtain ⟨t, ht, hu⟩ := forLoop_updates hstep rfl
  refine ht.trans (congrArg _ (List.ext_getElem? fun k => ?_))
  by_cases hk : k < src.length
  · rw [hu.written k (by omega) ⟨k, hk, rfl⟩, List.getElem?_append_left hk,
      getElem?_eq_some_getD 0 hk]
  · rw [hu.kept k fun ⟨i, hi, he⟩ => hk (he ▸ hi), List.getElem?_append_right (by omega),
      List.getElem?_drop, Nat.add_sub_cancel' (by omega)]

end Copy

section Taps

variable {α : Type} [Field α]

/-- The value of a tap sum of `n` taps around `idx`: the samples `idx - 3 (n / 2) + 3 m`, each
weighted by tap `m`. -/
def tapSum (n : Nat) (roi : List α) (idx : Nat) (k : List α) : α :=
  ((List.range n).map fun m => roi.getD (idx - 3 * (n / 2) + 3 * m) 0 * k.getD m 0).sum

/-- **The tap-sum macros.** Inside its source and its kernel, a tap sum computes `tapSum`. -/
theorem sumTaps_eq {b : Buf} {n : Nat} {roi k : List α} {idx : Nat} (hn : 0 < n)
    (hroi : idx - 3 * (n / 2) + 3 * (n - 1) < roi.length) (hk : n ≤ k.length) :
    sumTaps b n roi idx k = .ok (tapSum n roi idx k) := by
  simp only [sumTaps, readAt_eq_getD 0 (show idx - 3 * (n / 2) < roi.length by omega),
    readAt_eq_getD 0 (show 0 < k.length by omega), ok_bind]
  refine (forLoop_add (fun m => roi.getD (idx - 3 * (n / 2) + 3 * (m + 1)) 0 * k.getD (m + 1) 0)
    (fun m hm s => ?_) _).trans ?_
  · simp only [readAt_eq_getD 0 (show idx - 3 * (n / 2) + 3 * (m + 1) < roi.length by omega),
      readAt_eq_getD 0 (show m + 1 < k.length by omega), ok_bind]
    rfl
  · obtain ⟨n, rfl⟩ : ∃ n', n = n' + 1 := ⟨n - 1, by omega⟩
    simp [tapSum, List.range_succ_eq_map, Function.comp_def]

theorem convolve_congr {k : List α} {f g : Nat → α} {x : Nat}
    (h : ∀ m < k.length, f (x + m - k.length / 2) = g (x + m - k.length / 2)) :
    convolve k f x = convolve k g x := by
  unfold convolve
  congr 1
  exact List.map_congr_left fun m hm => by rw [h m (List.mem_range.1 hm)]

/-- A tap sum around a sample of a line is the convolution of the line with the kernel. -/
theorem tapSum_pix {n X i y ch : Nat} {src k : List α} (hn : k.length = n) (hy : n / 2 ≤ y) :
    tapSum n src (pix X i y ch) k = convolve k (fun y' => src.getD (pix X i y' ch) 0) y := by
  unfold tapSum convolve
  subst hn
  congr 1
  refine List.map_congr_left fun m _ => ?_
  rw [mul_comm, show pix X i y ch - 3 * (k.length / 2) + 3 * m =
    pix X i (y + m - k.length / 2) ch by unfold pix; omega]

end Taps

/-! ### Faults of the filter pixels -/

section Faults

variable {α : Type} {b srcBuf dstBuf : Buf} {n idx : Nat} {roi src k dst : List α} {e : Fault}

theorem writeTriple_length {val : Nat → Except Fault α} {t : List α}
    (h : writeTriple b dst idx val = .ok t) : t.length = dst.length := by
  simp only [writeTriple, bind_eq_ok] at h
  obtain ⟨_, -, d0, h0, _, -, d1, h1, _, -, h2⟩ := h
  rw [writeAt_length h2, writeAt_length h1, writeAt_length h0]

/-- A pixel write whose writes lie inside the destination whenever their samples are computed
faults only with the faults of its samples. -/
theorem writeTriple_error_buf {val : Nat → Except Fault α} (Q : Fault → Prop)
    (hval : ∀ j < 3, ∀ e, val j = .error e → Q e)
    (hwrite : ∀ j < 3, ∀ v, val j = .ok v → idx + j < dst.length)
    (h : writeTriple b dst idx val = .error e) : Q e := by
  unfold writeTriple at h
  rcases h0 : val 0 with e0 | v0
  · rw [h0, error_bind] at h; cases h; exact hval 0 (by decide) _ h0
  rw [h0, ok_bind, writeAt_of_lt (i := idx) (hwrite 0 (by decide) v0 h0), ok_bind] at h
  rcases h1 : val 1 with e1 | v1
  · rw [h1, error_bind] at h; cases h; exact hval 1 (by decide) _ h1
  rw [h1, ok_bind, writeAt_of_lt (by rw [List.length_set]; exact hwrite 1 (by decide) v1 h1),
    ok_bind] at h
  rcases h2 : val 2 with e2 | v2
  · rw [h2, error_bind] at h; cases h; exact hval 2 (by decide) _ h2
  rw [h2, ok_bind, writeAt_of_lt (by simp only [List.length_set]; exact hwrite 2 (by decide) v2 h2)]
    at h
  cases h

variable [Field α]

/-- A tap sum faults only on its source, its kernel holding the taps it reads. -/
theorem sumTaps_error_buf (hn : 0 < n) (hk : n ≤ k.length) (h : sumTaps b n roi idx k = .error e) :
    e.buf = b := by
  dsimp only [sumTaps] at h
  rcases h0 : readAt b roi (idx - 3 * (n / 2)) with e0 | x0
  · rw [h0, error_bind] at h; cases h; rw [(readAt_error h0).1]
  rw [h0, ok_bind, readAt_eq_getD 0 (show 0 < k.length by omega), ok_bind] at h
  refine forLoop_error_inv (fun _ => True) (fun e => e.buf = b) (fun _ _ _ _ _ _ => trivial)
    (fun m hm s e _ hb => ?_) trivial h
  beta_reduce at hb
  rcases hr : readAt b roi (idx - 3 * (n / 2) + 3 * (m + 1)) with er | x
  · rw [hr, error_bind] at hb; cases hb; rw [(readAt_error hr).1]
  · rw [hr, ok_bind, readAt_eq_getD 0 (show m + 1 < k.length by omega), ok_bind] at hb
    cases hb

/-- A tap sum that succeeds reads its last tap inside its source. -/
theorem sumTaps_ok_lt {v : α} (hn : 0 < n) (hk : n ≤ k.length) (h : sumTaps b n roi idx k = .ok v) :
    idx - 3 * (n / 2) + 3 * (n - 1) < roi.length := by
  dsimp only [sumTaps] at h
  rcases h0 : readAt b roi (idx - 3 * (n / 2)) with e0 | x0
  · rw [h0, error_bind] at h; cases h
  rw [h0, ok_bind, readAt_eq_getD 0 (show 0 < k.length by omega), ok_bind] at h
  rcases Nat.lt_or_ge n 2 with hn2 | hn2
  · have := readAt_ok_lt h0; omega
  obtain ⟨u, u', hu⟩ := forLoop_body_ok (show n - 2 < n - 1 by omega) h
  rcases hr : readAt b roi (idx - 3 * (n / 2) + 3 * (n - 2 + 1)) with er | x
  · rw [hr, error_bind] at hu; cases hu
  · have := readAt_ok_lt hr; omega

/-- A filter pixel faults only on its source, the destination being as long as the source. -/
theorem filterTriple_error_buf (hn : 0 < n) (hk : n ≤ k.length) (hidx : 3 * (n / 2) ≤ idx)
    (hlen : src.length ≤ dst.length) (h : filterTriple srcBuf dstBuf n src k idx dst = .error e) :
    e.buf = srcBuf :=
  writeTriple_error_buf (fun e => e.buf = srcBuf) (fun _ _ _ he => sumTaps_error_buf hn hk he)
    (fun j _ _ hv => by have := sumTaps_ok_lt hn hk hv; omega) h

/-- A filter pixel whose first tap sum reaches past the end of its source faults. -/
theorem filterTriple_error (hn : 0 < n) (hk : n ≤ k.length)
    (hsrc : src.length ≤ idx - 3 * (n / 2) + 3 * (n - 1)) :
    ∃ e, filterTriple srcBuf dstBuf n src k idx dst = .error e := by
  rcases h : sumTaps srcBuf n src (idx + 0) k with e | v
  · exact ⟨e, by simp only [filterTriple, writeTriple, h, error_bind]⟩
  · exact absurd (sumTaps_ok_lt hn hk h) (by omega)

end Faults

end RawToDepthDsp

end Cobra
