import Cobra.Smooth.Writes

/-!
# The Loops of the Window Filters

`minMaxIntra`, `medianFilterPlus` and `NearestNeighbor::removeOutliers` visit, line by line, the
pixels of a frame of `W` pixels a line that a window fits around, with a running index `idx`
that starts each line at `idxStart` and steps by one (`centerIdx`). This module proves the
arithmetic of that index once: distinct visits are at distinct pixels, no pixel between two
lines is visited, and every visit lies in the frame. A filter that writes only the pixel it
visits, with a value of that pixel, updates exactly the visited pixels (`forLoop_visits`).

## Main results

* `centerIdx_inj`, `centerIdx_decode`: a visited pixel determines its visit.
* `forLoop_visits`: the double loop of a filter that sets the pixel it visits updates the
  visited pixels, whatever scratch state it carries.
-/

namespace Cobra

namespace RawToDepthDsp

/-- The pixel a window filter visits at row `rowIdx` and column `colIdx` of its loops, in a frame
of `rowPitch` pixels a row, for a window of `vFilterSize × hFilterSize` pixels: the running index
`idx`, from `idxStart = rowStart * rowPitch + colStart` on. -/
def centerIdx (rowPitch vFilterSize hFilterSize rowIdx colIdx : Nat) : Nat :=
  (vFilterSize / 2 + rowIdx) * rowPitch + hFilterSize / 2 + colIdx

/-- A filter size made odd, `size | 1U`. -/
theorem lor_one_eq (n : Nat) : n ||| 1 = 2 * (n / 2) + 1 := by
  apply Nat.eq_of_testBit_eq
  intro i
  rw [Nat.testBit_lor]
  rcases i with _ | i
  · simp [Nat.testBit_zero]; omega
  · rw [Nat.testBit_succ, Nat.testBit_succ, Nat.testBit_succ,
      show (2 * (n / 2) + 1) / 2 = n / 2 by omega]
    simp

theorem lor_one_of_odd {n : Nat} (h : n % 2 = 1) : n ||| 1 = n := by
  rw [lor_one_eq]; omega

section Geometry

variable {H W v h : Nat}

theorem centerIdx_eq (W v h r c : Nat) : centerIdx W v h r c = (v / 2 + r) * W + (h / 2 + c) := by
  unfold centerIdx; omega

theorem centerIdx_succ (W v h r c : Nat) : centerIdx W v h r (c + 1) = centerIdx W v h r c + 1 := rfl

/-- Distinct visits are at distinct pixels. -/
theorem centerIdx_inj {r c r' c' : Nat} (hc : h / 2 + c < W) (hc' : h / 2 + c' < W)
    (he : centerIdx W v h r c = centerIdx W v h r' c') : r = r' ∧ c = c' := by
  rw [centerIdx_eq, centerIdx_eq] at he
  have h1 := div_mul_add (r := v / 2 + r) hc
  have h2 := div_mul_add (r := v / 2 + r') hc'
  rw [he] at h1
  omega

/-- No pixel is visited between the end of a line of visits and the start of the next. -/
theorem centerIdx_gap {nC r q : Nat} (h1 : centerIdx W v h r nC ≤ q)
    (h2 : q < centerIdx W v h (r + 1) 0) : ∀ r', ∀ c' < nC, q ≠ centerIdx W v h r' c' := by
  rintro r' c' hc' rfl
  rw [centerIdx_eq, centerIdx_eq] at h1 h2
  rcases Nat.lt_or_ge r r' with hr | hr
  · have := Nat.mul_le_mul_right W (show v / 2 + (r + 1) ≤ v / 2 + r' by omega)
    omega
  · have := Nat.mul_le_mul_right W (show v / 2 + r' ≤ v / 2 + r by omega)
    omega

/-- The first visit comes after every pixel it does not reach. -/
theorem centerIdx_zero_le (r c : Nat) : centerIdx W v h 0 0 ≤ centerIdx W v h r c := by
  rw [centerIdx_eq, centerIdx_eq]
  have := Nat.mul_le_mul_right W (show v / 2 + 0 ≤ v / 2 + r by omega)
  omega

/-- Every visit of a line of `nC` comes before the start of the next line. -/
theorem centerIdx_lt_succ {nC r c : Nat} (hnC : h / 2 + nC ≤ W) (hc : c < nC) (r' : Nat)
    (hr : r < r') : centerIdx W v h r c < centerIdx W v h r' 0 := by
  rw [centerIdx_eq, centerIdx_eq]
  have := Nat.mul_le_mul_right W (show v / 2 + r + 1 ≤ v / 2 + r' by omega)
  rw [Nat.succ_mul] at this
  omega

/-- The pixels of the `v × h` window whose top left pixel is `(r, c)`, row by row, in a frame of
`W` pixels a row: the window `minMaxIntra` reads at its visit `(r, c)`, and the window of
`removeOutliers` for `v = h`. -/
def windowPixels (W v h r c : Nat) : List Nat :=
  (List.range v).flatMap fun i => (List.range h).map fun j => (r + i) * W + (c + j)

/-- The window's pixels lie in the frame. -/
theorem windowPixels_lt {r c q : Nat} (hr : r + v ≤ H) (hc : c + h ≤ W)
    (hq : q ∈ windowPixels W v h r c) : q < H * W := by
  simp only [windowPixels, List.mem_flatMap, List.mem_map, List.mem_range] at hq
  obtain ⟨i, hi, j, hj, rfl⟩ := hq
  exact pixel_lt (by omega) (by omega)

/-- A visit whose window fits in a frame of `H` lines lies in the frame. -/
theorem centerIdx_lt {r c : Nat} (hv : 0 < v) (hh : 0 < h) (hr : r + v ≤ H) (hc : c + h ≤ W) :
    centerIdx W v h r c < H * W := by
  rw [centerIdx_eq]; exact pixel_lt (by omega) (by omega)

/-- The line and the place in the line of a visited pixel. -/
theorem centerIdx_decode {r c : Nat} (hc : h / 2 + c < W) :
    centerIdx W v h r c / W = v / 2 + r ∧ centerIdx W v h r c % W = h / 2 + c := by
  rw [centerIdx_eq]; exact div_mul_add hc

end Geometry

section Lists

variable {α : Type} [Zero α]

theorem getD_set_eq (m : List α) {k : Nat} (x : α) (hk : k < m.length) (q : Nat) :
    (m.set k x).getD q 0 = if q = k then x else m.getD q 0 := by
  simp only [List.getD_eq_getElem?_getD, List.getElem?_set]
  split_ifs with h1 h2 h2
  · rfl
  · exact absurd h1.symm h2
  · exact absurd h2.symm h1
  · rfl

theorem getD_map_zero (m : List α) (q : Nat) : (m.map fun _ => (0 : α)).getD q 0 = 0 := by
  rw [List.getD_eq_getElem?_getD, List.getElem?_map]
  cases m[q]? <;> rfl

theorem Updates.getD_written {P : Nat → Prop} {w : Nat → α} {s t : List α} {k : Nat}
    (hu : Updates P w s t) (hk : k < s.length) (hP : P k) : t.getD k 0 = w k := by
  rw [List.getD_eq_getElem?_getD, hu.written k hk hP]; rfl

theorem Updates.getD_kept {P : Nat → Prop} {w : Nat → α} {s t : List α} {k : Nat}
    (hu : Updates P w s t) (hP : ¬ P k) : t.getD k 0 = s.getD k 0 := by
  rw [List.getD_eq_getElem?_getD, List.getD_eq_getElem?_getD, hu.kept k hP]

end Lists

section Fills

variable {α : Type}

/-- A loop that sets entry `i` of a buffer of its length to `g i` makes the buffer `g`. -/
theorem forLoop_set_all {n : Nat} {body : Nat → List α → Except Fault (List α)} (g : Nat → α)
    (hbody : ∀ i < n, ∀ t : List α, t.length = n → body i t = .ok (t.set i (g i)))
    {t : List α} (ht : t.length = n) : forLoop n body t = .ok ((List.range n).map g) := by
  obtain ⟨t', hrun, hu⟩ := forLoop_updates (P := fun i k => k = i) (w := g)
    (fun i hi u hu => ⟨_, hbody i hi u hu, set_updates (by omega)⟩) ht
  refine hrun.trans (congrArg _ (List.ext_getElem? fun k => ?_))
  by_cases hk : k < n
  · rw [hu.written k (by omega) ⟨k, hk, rfl⟩, List.getElem?_map, List.getElem?_range hk]; rfl
  · rw [List.getElem?_eq_none (by rw [hu.length]; omega),
      List.getElem?_eq_none (by rw [List.length_map, List.length_range]; omega)]

theorem map_getD_range {β : Type} (l : List β) (d : β) (f : β → α) :
    (List.range l.length).map (fun i => f (l.getD i d)) = l.map f :=
  List.ext_getElem (by simp) fun i h1 h2 => by
    rw [List.getElem_map, List.getElem_map, List.getElem_range, List.getD_eq_getElem _ _ (by simpa using h1)]

end Fills

section Visits

variable {α β : Type} {W v h L nR nC : Nat} {w : Nat → α}

/-- **The visits of a window filter.** A double loop over `nR` lines of `nC` visits, whose visit
`(r, c)` sets the pixel it visits to `w` of that pixel and keeps an invariant `Q` of the scratch
state it carries, updates the visited pixels with `w`. -/
theorem forLoop_visits (Q : β → Prop) {body : Nat → Nat → List α × β → Except Fault (List α × β)}
    (hk : ∀ r < nR, ∀ c < nC, centerIdx W v h r c < L)
    (hstep : ∀ r < nR, ∀ c < nC, ∀ t b, t.length = L → Q b → ∃ b',
      body r c (t, b) = .ok (t.set (centerIdx W v h r c) (w (centerIdx W v h r c)), b') ∧ Q b')
    {t : List α} {b : β} (ht : t.length = L) (hb : Q b) :
    ∃ t' b', forLoop nR (fun r => forLoop nC (body r)) (t, b) = .ok (t', b') ∧ Q b' ∧
      Updates (fun k => ∃ r < nR, ∃ c < nC, k = centerIdx W v h r c) w t t' := by
  have hline : ∀ r < nR, ∀ s : List α × β, (Q s.2 ∧ Updates (fun k => ∃ r' < r, ∃ c < nC,
      k = centerIdx W v h r' c) w t s.1) → ∃ s', forLoop nC (body r) s = .ok s' ∧
        Q s'.2 ∧ Updates (fun k => ∃ r' < r + 1, ∃ c < nC, k = centerIdx W v h r' c) w t s'.1 := by
    intro r hr s hs
    obtain ⟨s', hrun, hQ, hu⟩ := forLoop_ok (fun c (s : List α × β) => Q s.2 ∧
        Updates (fun k => (∃ r' < r, ∃ c < nC, k = centerIdx W v h r' c) ∨
          ∃ c' < c, k = centerIdx W v h r c') w t s.1)
      (fun c hc s ⟨hQ, hu⟩ => by
        obtain ⟨b', hbody, hQ'⟩ := hstep r hr c hc s.1 s.2 (hu.length.trans ht) hQ
        refine ⟨_, hbody, hQ', (hu.trans (set_updates (by rw [hu.length, ht]; exact hk r hr c hc))).of_iff
          fun k => ?_⟩
        simp only [Nat.lt_succ_iff_lt_or_eq, or_and_right, exists_or, exists_eq_left, or_assoc])
      s ⟨hs.1, hs.2.of_iff fun k => by simp⟩
    refine ⟨s', hrun, hQ, hu.of_iff fun k => ?_⟩
    simp only [Nat.lt_succ_iff_lt_or_eq, or_and_right, exists_or, exists_eq_left]
  obtain ⟨s, hrun, hQ, hu⟩ := forLoop_ok (fun r (s : List α × β) => Q s.2 ∧ Updates
    (fun k => ∃ r' < r, ∃ c < nC, k = centerIdx W v h r' c) w t s.1) hline (t, b)
    ⟨hb, ⟨rfl, fun _ _ ⟨_, h, _⟩ => absurd h (Nat.not_lt_zero _), fun _ _ => rfl⟩⟩
  exact ⟨s.1, s.2, hrun, hQ, hu⟩

end Visits

end RawToDepthDsp

end Cobra
