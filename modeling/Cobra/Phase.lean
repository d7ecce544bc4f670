import Mathlib

/-!
# The Phase Estimator

`RawToDepthDsp::calculatePhase` turns every raw triple of a binned frame into the phase of the
returning light, the fraction of a modulation cycle by which it lags, and adds the pixel's
signal, SNR and background to three accumulators, which `localProcessFrame` clears before its
two calls, one per modulation frequency. `calculatePhaseSmooth` computes the phase of the
smoothed triple the same way and uses it to correct the raw phase by a whole cycle.

Both rotate the triple so that its smallest tap comes last (`rotateTaps`): the smallest tap is
the background, each of the three rotations stands for a third of a cycle, and the phase
within the third is where the second tap lies between the background and the sum. The three
branches break ties with `≤` and `<`, so each triple takes exactly one of them.

## Arithmetic convention

As in `Cobra.WholeFrameRange`, `float_t` values are exact values of an ordered field, and the
constants `1.0F/3.0F` and `2.0F/3.0F` are `1 / 3` and `2 / 3`. `sqrtf` only enters the SNR,
which is a parameter of the model: the phase, the signal and the background do not depend on
it. The frames are functions on `Fin n`, the loop being pointwise: iteration `idx` reads the
triple at `3 * idx` and writes index `idx` of each output.

## Main results

* `rotateTaps_cases`: each triple takes the branch of its smallest tap, ties included.
* `phasePixel_signal`, `phasePixel_phase_mem`: the signal is the taps' rise above three times
  the smallest, positive unless the three taps are equal, and the phase then lies in `(0, 1]`.
* `calculatePhase_rotate`: rotating every triple adds a third of a cycle to its phase, modulo
  one, and leaves the signal, SNR and background accumulators as they are.
* `calculatePhaseSmooth_corrects`: the smoothed phase is `calculatePhase`'s phase of the
  smoothed triple, and a raw phase in `[0, 1]` is corrected by at most one cycle to within half
  a cycle of it.
-/

namespace Cobra

namespace RawToDepthDsp

section Estimator

variable {α : Type*} [LinearOrderedField α]

/-- The tap rotation shared by `calculatePhase` and `calculatePhaseSmooth`: the triple
`(rawA, rawB, rawC)` after the swaps of the branch it takes, and `frac`, the third of a cycle
the branch stands for. -/
def rotateTaps (rawA rawB rawC : α) : α × α × α × α :=
  if rawA ≤ rawB ∧ rawA ≤ rawC then (rawB, rawC, rawA, 1 / 3)
  else if rawB ≤ rawC ∧ rawB < rawA then (rawC, rawA, rawB, 2 / 3)
  else (rawA, rawB, rawC, 0)

/-- `clip`, the least background `calculatePhase` divides by. -/
def backgroundClip : α := 1 / 65535

/-- What one iteration of `calculatePhase` computes: the phase it writes, and the signal, SNR
and background it adds to the accumulators, the signal and the background before their
division by `numberOfSummedValues`. -/
structure PhasePixel (α : Type*) where
  phase : α
  signal : α
  snr : α
  background : α

/-- The loop body of `calculatePhase` at one pixel. -/
def phasePixel (sqrtf : α → α) (rawA rawB rawC : α) : PhasePixel α :=
  let (a, b, c, frac) := rotateTaps rawA rawB rawC
  let signal := a + b - 2 * c
  if signal ≤ 0 then ⟨0, 0, 0, 0⟩
  else
    let part1 := b - c
    let part2 := 1 / 3 * (part1 / signal) + frac
    let c := if c < backgroundClip then backgroundClip else c
    ⟨part2, signal, signal / sqrtf (2 * c), c⟩

/-- The frames `calculatePhase` writes or accumulates into. -/
structure PhaseRoi (n : ℕ) (α : Type*) where
  phaseRoi : Fin n → α
  signalRoi : Fin n → α
  snrRoi : Fin n → α
  backgroundRoi : Fin n → α

/-- `calculatePhase(rawRoi, phaseRoi, signalRoi, snrRoi, backgroundRoi, numberOfSummedValues)`
on a frame of `n` pixels, `rawRoi` given by its triples: it overwrites the phases and adds to
the three accumulators of `acc`. -/
def calculatePhase (sqrtf : α → α) {n : ℕ} (rawRoi : Fin n → α × α × α) (acc : PhaseRoi n α)
    (numberOfSummedValues : α) : PhaseRoi n α :=
  let px := fun idx => phasePixel sqrtf (rawRoi idx).1 (rawRoi idx).2.1 (rawRoi idx).2.2
  { phaseRoi := fun idx => (px idx).phase
    signalRoi := fun idx => acc.signalRoi idx + (px idx).signal / numberOfSummedValues
    snrRoi := fun idx => acc.snrRoi idx + (px idx).snr
    backgroundRoi := fun idx => acc.backgroundRoi idx + (px idx).background / numberOfSummedValues }

/-- `MAX_PHASE_ERROR`. -/
def maxPhaseError : α := 1 / 2

/-- The loop body of `calculatePhaseSmooth` at one pixel: the smoothed phase and the corrected
phase it writes, from the smoothed triple and the raw phase `phaseFrame[idx]`. -/
def phaseSmoothPixel (rawA rawB rawC phase : α) : α × α :=
  let (a, b, c, frac) := rotateTaps rawA rawB rawC
  let signal := a + b - 2 * c
  let (iPhaseSmoothed, iPhase) :=
    if 0 < signal then (1 / 3 * ((b - c) / signal) + frac, phase) else (0, 0)
  let phaseErr := iPhase - iPhaseSmoothed
  let corrected := if maxPhaseError < phaseErr then iPhase - 1 else iPhase
  (iPhaseSmoothed, if phaseErr < -maxPhaseError then corrected + 1 else corrected)

/-- `calculatePhaseSmooth(frameSmoothed, phaseSmoothedFrame, phaseFrame, correctedPhaseFrame,
frqIdx)` on a frame of `n` pixels: the smoothed and the corrected phase frames it writes.
`frqIdx` is not read. -/
def calculatePhaseSmooth {n : ℕ} (frameSmoothed : Fin n → α × α × α) (phaseFrame : Fin n → α) :
    (Fin n → α) × (Fin n → α) :=
  let px := fun idx =>
    phaseSmoothPixel (frameSmoothed idx).1 (frameSmoothed idx).2.1 (frameSmoothed idx).2.2
      (phaseFrame idx)
  (fun idx => (px idx).1, fun idx => (px idx).2)

/-! ### Which branch a triple takes -/

/-- **Each triple takes the branch of its smallest tap.** The first branch takes a smallest
`rawA`, ties included; the second a smallest `rawB` strictly below `rawA`; the third a strictly
smallest `rawC`. -/
theorem rotateTaps_cases (a b c : α) :
    (a ≤ b ∧ a ≤ c ∧ rotateTaps a b c = (b, c, a, 1 / 3)) ∨
      (b ≤ c ∧ b < a ∧ rotateTaps a b c = (c, a, b, 2 / 3)) ∨
      (c < a ∧ c < b ∧ rotateTaps a b c = (a, b, c, 0)) := by
  unfold rotateTaps
  split_ifs with h1 h2
  · exact .inl ⟨h1.1, h1.2, rfl⟩
  · exact .inr (.inl ⟨h2.1, h2.2, rfl⟩)
  · simp only [not_and_or, not_le, not_lt] at h1 h2
    refine .inr (.inr ⟨?_, ?_, rfl⟩) <;> rcases h1 with h1 | h1 <;> rcases h2 with h2 | h2 <;>
      linarith

/-- The signal of a triple: how far its taps rise above three times the smallest. -/
def tapSignal (a b c : α) : α := a + b + c - 3 * min a (min b c)

theorem min3_of_left {a b c : α} (hb : a ≤ b) (hc : a ≤ c) : min a (min b c) = a :=
  min_eq_left (le_min hb hc)

theorem min3_of_mid {a b c : α} (ha : b ≤ a) (hc : b ≤ c) : min a (min b c) = b := by
  rw [min_eq_left hc, min_eq_right ha]

theorem min3_of_right {a b c : α} (ha : c ≤ a) (hb : c ≤ b) : min a (min b c) = c := by
  rw [min_eq_right hb, min_eq_right ha]

theorem tapSignal_nonneg (a b c : α) : 0 ≤ tapSignal a b c := by
  rcases rotateTaps_cases a b c with ⟨hb, hc, -⟩ | ⟨hc, ha, -⟩ | ⟨ha, hb, -⟩
  · rw [tapSignal, min3_of_left hb hc]; linarith
  · rw [tapSignal, min3_of_mid ha.le hc]; linarith
  · rw [tapSignal, min3_of_right ha.le hb.le]; linarith

/-- The signal is positive unless the three taps are equal. -/
theorem tapSignal_pos {a b c : α} (h : ¬(a = b ∧ b = c)) : 0 < tapSignal a b c := by
  refine (tapSignal_nonneg a b c).lt_of_ne fun h0 => h ?_
  rcases rotateTaps_cases a b c with ⟨hb, hc, -⟩ | ⟨hc, ha, -⟩ | ⟨ha, hb, -⟩
  · rw [tapSignal, min3_of_left hb hc] at h0; constructor <;> linarith
  · rw [tapSignal, min3_of_mid ha.le hc] at h0; constructor <;> linarith
  · rw [tapSignal, min3_of_right ha.le hb.le] at h0; constructor <;> linarith

theorem tapSignal_self (a : α) : tapSignal a a a = 0 := by
  rw [tapSignal, min3_of_left le_rfl le_rfl]; ring

theorem tapSignal_rotate (a b c : α) : tapSignal c a b = tapSignal a b c := by
  rw [tapSignal, tapSignal, min_comm c, min_assoc]
  ring

/-- The rotated triple's signal `a + b - 2 c` is `tapSignal`, and its last tap the smallest. -/
theorem rotateTaps_signal {a b c A B C f : α} (e : rotateTaps a b c = (A, B, C, f)) :
    A + B - 2 * C = tapSignal a b c ∧ C = min a (min b c) := by
  rcases rotateTaps_cases a b c with ⟨hb, hc, h⟩ | ⟨hc, ha, h⟩ | ⟨ha, hb, h⟩ <;>
    rw [h] at e <;> simp only [Prod.mk.injEq] at e <;> obtain ⟨rfl, rfl, rfl, rfl⟩ := e
  · rw [tapSignal, min3_of_left hb hc]; constructor <;> ring
  · rw [tapSignal, min3_of_mid ha.le hc]; constructor <;> ring
  · rw [tapSignal, min3_of_right ha.le hb.le]; constructor <;> ring

/-! ### What a pixel's phase is -/

variable (sqrtf : α → α)

/-- The loop body once the branch is known. -/
theorem phasePixel_eq_of {a b c A B C f : α} (e : rotateTaps a b c = (A, B, C, f)) :
    phasePixel sqrtf a b c =
      if tapSignal a b c ≤ 0 then ⟨0, 0, 0, 0⟩
      else
        let c' := if C < backgroundClip then backgroundClip else C
        ⟨1 / 3 * ((B - C) / tapSignal a b c) + f, tapSignal a b c,
          tapSignal a b c / sqrtf (2 * c'), c'⟩ := by
  rw [← (rotateTaps_signal e).1]
  simp only [phasePixel, e]

/-- **Signal and background.** `calculatePhase` adds `tapSignal` and the smallest tap, clipped
at `clip`, when the taps differ, and nothing when they are equal. -/
theorem phasePixel_signal (a b c : α) :
    (phasePixel sqrtf a b c).signal = tapSignal a b c ∧
      (phasePixel sqrtf a b c).background =
        if a = b ∧ b = c then 0 else max (min a (min b c)) backgroundClip := by
  rcases e : rotateTaps a b c with ⟨A, B, C, f⟩
  rw [phasePixel_eq_of sqrtf e, ← (rotateTaps_signal e).2]
  by_cases he : a = b ∧ b = c
  · obtain ⟨rfl, rfl⟩ := he
    simp [tapSignal_self]
  · rw [if_neg (not_le.2 (tapSignal_pos he)), if_neg he]
    refine ⟨rfl, ?_⟩
    dsimp only
    split_ifs with hc
    · exact (max_eq_right hc.le).symm
    · exact (max_eq_left (not_lt.1 hc)).symm

/-- The phase of a pixel whose taps are equal is `0`. -/
theorem phasePixel_phase_of_eq (a : α) : (phasePixel sqrtf a a a).phase = 0 := by
  rcases e : rotateTaps a a a with ⟨A, B, C, f⟩
  simp [phasePixel_eq_of sqrtf e, tapSignal_self]

/-- A pixel's phase, by branch: a third of a cycle per rotation, plus where the second rotated
tap lies between the background and the signal. -/
theorem phasePixel_phase_cases {a b c : α} (h : ¬(a = b ∧ b = c)) :
    (a ≤ b ∧ a ≤ c ∧
        (phasePixel sqrtf a b c).phase = 1 / 3 * ((c - a) / tapSignal a b c) + 1 / 3) ∨
      (b ≤ c ∧ b < a ∧
        (phasePixel sqrtf a b c).phase = 1 / 3 * ((a - b) / tapSignal a b c) + 2 / 3) ∨
      (c < a ∧ c < b ∧ (phasePixel sqrtf a b c).phase = 1 / 3 * ((b - c) / tapSignal a b c)) := by
  have hp := not_le.2 (tapSignal_pos h)
  rcases rotateTaps_cases a b c with ⟨hb, hc, e⟩ | ⟨hc, ha, e⟩ | ⟨ha, hb, e⟩ <;>
    rw [phasePixel_eq_of sqrtf e, if_neg hp]
  · exact .inl ⟨hb, hc, rfl⟩
  · exact .inr (.inl ⟨hc, ha, rfl⟩)
  · exact .inr (.inr ⟨ha, hb, add_zero _⟩)

theorem div_mem_unit {x s : α} (hs : 0 < s) (h0 : 0 ≤ x) (h1 : x ≤ s) : 0 ≤ x / s ∧ x / s ≤ 1 :=
  ⟨div_nonneg h0 hs.le, (div_le_one hs).2 h1⟩

/-- **The phase of a pixel lies in `(0, 1]`** once its taps differ. -/
theorem phasePixel_phase_mem {a b c : α} (h : ¬(a = b ∧ b = c)) :
    0 < (phasePixel sqrtf a b c).phase ∧ (phasePixel sqrtf a b c).phase ≤ 1 := by
  have hs := tapSignal_pos h
  rcases phasePixel_phase_cases sqrtf h with ⟨hb, hc, e⟩ | ⟨hc, ha, e⟩ | ⟨ha, hb, e⟩ <;>
    rw [e]
  · obtain ⟨q0, q1⟩ := div_mem_unit hs (sub_nonneg.2 hc)
      (by rw [tapSignal, min3_of_left hb hc]; linarith only [hb])
    constructor <;> linarith only [q0, q1]
  · obtain ⟨q0, q1⟩ := div_mem_unit hs (sub_nonneg.2 ha.le)
      (by rw [tapSignal, min3_of_mid ha.le hc]; linarith only [hc])
    constructor <;> linarith only [q0, q1]
  · obtain ⟨-, q1⟩ := div_mem_unit hs (sub_nonneg.2 hb.le)
      (by rw [tapSignal, min3_of_right ha.le hb.le]; linarith only [ha])
    have q0 := div_pos (sub_pos.2 hb) hs
    constructor <;> linarith only [q0, q1]

/-! ### Rotation equivariance -/

/-- **Rotating the taps adds a third of a cycle.** The pixel `(c, a, b)` has the signal, SNR and
background of `(a, b, c)`, and the phase a third of a cycle later, taken back into `(0, 1]`. -/
theorem phasePixel_rotate {a b c : α} (h : ¬(a = b ∧ b = c)) :
    (phasePixel sqrtf c a b).phase =
      if (phasePixel sqrtf a b c).phase ≤ 2 / 3 then (phasePixel sqrtf a b c).phase + 1 / 3
      else (phasePixel sqrtf a b c).phase - 2 / 3 := by
  have h' : ¬(c = a ∧ a = b) := fun ⟨h1, h2⟩ => h ⟨h2, h2 ▸ h1.symm⟩
  have hs := tapSignal_pos h
  obtain ⟨m0, m1⟩ := phasePixel_phase_mem sqrtf h
  obtain ⟨r0, r1⟩ := phasePixel_phase_mem sqrtf h'
  rcases phasePixel_phase_cases sqrtf h with ⟨hb, hc, e⟩ | ⟨hc, ha, e⟩ | ⟨ha, hb, e⟩ <;>
    rcases phasePixel_phase_cases sqrtf h' with ⟨hb', hc', e'⟩ | ⟨hc', ha', e'⟩ | ⟨ha', hb', e'⟩ <;>
    rw [tapSignal_rotate] at e'
  · -- the smallest tap is `a = c`
    obtain rfl : a = c := le_antisymm hc hb'
    have hv : tapSignal a b a = b - a := by rw [tapSignal, min3_of_left hb hc]; ring
    rw [hv] at e e' hs
    rw [e', e, sub_self, zero_div, div_self hs.ne', if_pos (by norm_num)]; norm_num
  · rw [if_pos (by linarith), e', e]; ring
  · exact (hb'.not_le hb).elim
  · -- the smallest tap is `b = c`
    obtain rfl : b = c := le_antisymm hc hc'
    have hv : tapSignal a b b = a - b := by rw [tapSignal, min3_of_mid ha.le hc]; ring
    rw [hv] at e e' hs
    rw [e', e, sub_self, zero_div, div_self hs.ne', if_neg (by norm_num)]; norm_num
  · exact (ha.not_le hc').elim
  · rw [if_neg (by linarith), e', e]; ring
  · rw [if_pos (by linarith), e', e]
  · exact (lt_asymm ha ha').elim
  · exact (lt_asymm hb ha').elim

/-- Rotating the taps keeps the signal, the SNR and the background. -/
theorem phasePixel_rotate_signal (a b c : α) :
    (phasePixel sqrtf c a b).signal = (phasePixel sqrtf a b c).signal ∧
      (phasePixel sqrtf c a b).snr = (phasePixel sqrtf a b c).snr ∧
      (phasePixel sqrtf c a b).background = (phasePixel sqrtf a b c).background := by
  rcases e : rotateTaps a b c with ⟨A, B, C, f⟩
  rcases e' : rotateTaps c a b with ⟨A', B', C', f'⟩
  have hC : C' = C := by
    rw [(rotateTaps_signal e').2, (rotateTaps_signal e).2, min_comm c, min_assoc]
  rw [phasePixel_eq_of sqrtf e, phasePixel_eq_of sqrtf e', tapSignal_rotate, hC]
  split_ifs <;> exact ⟨rfl, rfl, rfl⟩

/-- The triples of a frame, each rotated by one tap. -/
def rotateFrame {n : ℕ} (rawRoi : Fin n → α × α × α) : Fin n → α × α × α :=
  fun idx => ((rawRoi idx).2.2, (rawRoi idx).1, (rawRoi idx).2.1)

/-- Every phase `calculatePhase` writes lies in `[0, 1]`. -/
theorem calculatePhase_phase_mem {n : ℕ} (rawRoi : Fin n → α × α × α) (acc : PhaseRoi n α)
    (numberOfSummedValues : α) (idx : Fin n) :
    0 ≤ (calculatePhase sqrtf rawRoi acc numberOfSummedValues).phaseRoi idx ∧
      (calculatePhase sqrtf rawRoi acc numberOfSummedValues).phaseRoi idx ≤ 1 := by
  simp only [calculatePhase]
  rcases rawRoi idx with ⟨a, b, c⟩
  by_cases he : a = b ∧ b = c
  · obtain ⟨rfl, rfl⟩ := he
    rw [phasePixel_phase_of_eq]
    exact ⟨le_rfl, zero_le_one⟩
  · exact (phasePixel_phase_mem sqrtf he).imp_left le_of_lt

/-- **`calculatePhase` is rotation-equivariant.** On every frame, each phase lies in `[0, 1]`;
rotating every triple by one tap leaves the three accumulators as they are and moves every
phase a third of a cycle on, modulo one, keeping the phase `0` of a pixel without signal. -/
theorem calculatePhase_rotate {n : ℕ} (rawRoi : Fin n → α × α × α) (acc : PhaseRoi n α)
    (numberOfSummedValues : α) :
    let p := calculatePhase sqrtf rawRoi acc numberOfSummedValues
    let q := calculatePhase sqrtf (rotateFrame rawRoi) acc numberOfSummedValues
    q.signalRoi = p.signalRoi ∧ q.snrRoi = p.snrRoi ∧ q.backgroundRoi = p.backgroundRoi ∧
      ∀ idx, 0 ≤ p.phaseRoi idx ∧ p.phaseRoi idx ≤ 1 ∧
        q.phaseRoi idx =
          if p.phaseRoi idx = 0 then 0
          else if p.phaseRoi idx ≤ 2 / 3 then p.phaseRoi idx + 1 / 3
          else p.phaseRoi idx - 2 / 3 := by
  intro p q
  refine ⟨funext fun idx => ?_, funext fun idx => ?_, funext fun idx => ?_, fun idx => ?_⟩
  iterate 3 simp only [p, q, calculatePhase, rotateFrame, phasePixel_rotate_signal]
  simp only [p, q, calculatePhase, rotateFrame]
  rcases rawRoi idx with ⟨a, b, c⟩
  by_cases he : a = b ∧ b = c
  · obtain ⟨rfl, rfl⟩ := he
    simp [phasePixel_phase_of_eq]
  · obtain ⟨m0, m1⟩ := phasePixel_phase_mem sqrtf he
    rw [if_neg m0.ne', phasePixel_rotate sqrtf he]
    exact ⟨m0.le, m1, rfl⟩

/-! ### Phase correction -/

/-- The loop body of `calculatePhaseSmooth` where the smoothed taps differ: the smoothed phase
is `calculatePhase`'s, and the raw phase is corrected against it. -/
theorem phaseSmoothPixel_of_ne {a b c : α} (he : ¬(a = b ∧ b = c)) (p : α) :
    phaseSmoothPixel a b c p =
      let iPhaseSmoothed := (phasePixel sqrtf a b c).phase
      let corrected := if maxPhaseError < p - iPhaseSmoothed then p - 1 else p
      (iPhaseSmoothed,
        if p - iPhaseSmoothed < -maxPhaseError then corrected + 1 else corrected) := by
  rcases e : rotateTaps a b c with ⟨A, B, C, f⟩
  have hp := tapSignal_pos he
  simp only [phaseSmoothPixel, e, (rotateTaps_signal e).1, if_pos hp, phasePixel_eq_of sqrtf e,
    if_neg (not_le.2 hp)]

theorem phaseSmoothPixel_of_eq (a p : α) : phaseSmoothPixel a a a p = (0, 0) := by
  rcases e : rotateTaps a a a with ⟨A, B, C, f⟩
  norm_num [phaseSmoothPixel, e, (rotateTaps_signal e).1, tapSignal_self, maxPhaseError]

/-- **One pixel of `calculatePhaseSmooth`.** A pixel whose smoothed taps differ moves a raw phase
in `[0, 1]` by at most one cycle, to within half a cycle of the smoothed phase. -/
theorem phaseSmoothPixel_corrects {a b c p : α} (he : ¬(a = b ∧ b = c)) (p0 : 0 ≤ p)
    (p1 : p ≤ 1) :
    ((phaseSmoothPixel a b c p).2 - p = -1 ∨ (phaseSmoothPixel a b c p).2 - p = 0 ∨
        (phaseSmoothPixel a b c p).2 - p = 1) ∧
      |(phaseSmoothPixel a b c p).2 - (phaseSmoothPixel a b c p).1| ≤ 1 / 2 := by
  -- the phase does not depend on the square root, so any will do
  obtain ⟨m0, m1⟩ := phasePixel_phase_mem id he
  rw [phaseSmoothPixel_of_ne id he]
  generalize (phasePixel id a b c).phase = φ at m0 m1
  simp only [maxPhaseError]
  split_ifs with h1 h2 h2
  · exact ⟨.inr (.inl (by ring)), abs_le.2 ⟨by linarith, by linarith⟩⟩
  · exact ⟨.inr (.inr (by ring)), abs_le.2 ⟨by linarith, by linarith⟩⟩
  · exact ⟨.inl (by ring), abs_le.2 ⟨by linarith, by linarith⟩⟩
  · exact ⟨.inr (.inl (by ring)), abs_le.2 ⟨by linarith, by linarith⟩⟩

/-- **`calculatePhaseSmooth` corrects by whole cycles.** Given the raw phases `calculatePhase`
writes for a frame, the smoothed phases are those `calculatePhase` computes from the smoothed
frame, and at every pixel either the smoothed taps are equal and both phases written are `0`,
or the smoothed phase is positive and the corrected phase differs from the raw one by `-1`, `0`
or `1` and from the smoothed one by at most a half. -/
theorem calculatePhaseSmooth_corrects {n : ℕ} (rawFrame frameSmoothed : Fin n → α × α × α)
    (acc : PhaseRoi n α) (numberOfSummedValues : α) :
    let phaseFrame := (calculatePhase sqrtf rawFrame acc numberOfSummedValues).phaseRoi
    let sm := calculatePhaseSmooth frameSmoothed phaseFrame
    sm.1 = (calculatePhase sqrtf frameSmoothed acc numberOfSummedValues).phaseRoi ∧
      ∀ idx, (sm.1 idx = 0 ∧ sm.2 idx = 0) ∨
        (0 < sm.1 idx ∧
          (sm.2 idx - phaseFrame idx = -1 ∨ sm.2 idx - phaseFrame idx = 0 ∨
            sm.2 idx - phaseFrame idx = 1) ∧
          |sm.2 idx - sm.1 idx| ≤ 1 / 2) := by
  intro phaseFrame sm
  have hraw : ∀ idx, 0 ≤ phaseFrame idx ∧ phaseFrame idx ≤ 1 :=
    calculatePhase_phase_mem sqrtf rawFrame acc numberOfSummedValues
  have hsm : sm.1 = (calculatePhase sqrtf frameSmoothed acc numberOfSummedValues).phaseRoi := by
    funext idx
    simp only [sm, calculatePhaseSmooth, calculatePhase]
    rcases frameSmoothed idx with ⟨a, b, c⟩
    by_cases he : a = b ∧ b = c
    · obtain ⟨rfl, rfl⟩ := he
      rw [phaseSmoothPixel_of_eq, phasePixel_phase_of_eq]
    · rw [phaseSmoothPixel_of_ne sqrtf he]
  refine ⟨hsm, fun idx => ?_⟩
  simp only [sm, calculatePhaseSmooth]
  rcases frameSmoothed idx with ⟨a, b, c⟩
  by_cases he : a = b ∧ b = c
  · obtain ⟨rfl, rfl⟩ := he
    rw [phaseSmoothPixel_of_eq]
    exact .inl ⟨rfl, rfl⟩
  · have hc := phaseSmoothPixel_corrects he (hraw idx).1 (hraw idx).2
    rw [phaseSmoothPixel_of_ne sqrtf he] at hc ⊢
    exact .inr ⟨(phasePixel_phase_mem sqrtf he).1, hc⟩

/-- **The estimator is consistent and rotation-equivariant at every pixel of positive signal.**
There `calculatePhase` and the smoothed-phase computation of `calculatePhaseSmooth` give the
same phase, in `[0, 1]`; rotating the triple adds a third of a cycle to it, modulo one, and
leaves the signal, SNR and background accumulated as they are; and a raw phase in `[0, 1]` is
corrected by at most one cycle, to within half a cycle of the smoothed phase. -/
theorem calculatePhase_consistent {n : ℕ} (frame : Fin n → α × α × α) (phaseFrame : Fin n → α)
    (acc : PhaseRoi n α) (numberOfSummedValues : α) (idx : Fin n)
    (hs : 0 < (phasePixel sqrtf (frame idx).1 (frame idx).2.1 (frame idx).2.2).signal) :
    let p := calculatePhase sqrtf frame acc numberOfSummedValues
    let q := calculatePhase sqrtf (rotateFrame frame) acc numberOfSummedValues
    let sm := calculatePhaseSmooth frame phaseFrame
    sm.1 idx = p.phaseRoi idx ∧ 0 ≤ p.phaseRoi idx ∧ p.phaseRoi idx ≤ 1 ∧
      (∃ k : ℤ, q.phaseRoi idx = p.phaseRoi idx + 1 / 3 + k) ∧
      q.signalRoi idx = p.signalRoi idx ∧ q.snrRoi idx = p.snrRoi idx ∧
      q.backgroundRoi idx = p.backgroundRoi idx ∧
      (0 ≤ phaseFrame idx → phaseFrame idx ≤ 1 →
        (sm.2 idx - phaseFrame idx = -1 ∨ sm.2 idx - phaseFrame idx = 0 ∨
          sm.2 idx - phaseFrame idx = 1) ∧ |sm.2 idx - sm.1 idx| ≤ 1 / 2) := by
  intro p q sm
  simp only [p, q, sm, calculatePhase, calculatePhaseSmooth, rotateFrame]
  revert hs
  rcases frame idx with ⟨a, b, c⟩
  intro hs
  have he : ¬(a = b ∧ b = c) := by
    rintro ⟨rfl, rfl⟩
    rw [(phasePixel_signal sqrtf a a a).1, tapSignal_self] at hs
    exact lt_irrefl _ hs
  obtain ⟨m0, m1⟩ := phasePixel_phase_mem sqrtf he
  obtain ⟨es, en, eb⟩ := phasePixel_rotate_signal sqrtf a b c
  refine ⟨by rw [phaseSmoothPixel_of_ne sqrtf he], m0.le, m1, ?_, by rw [es], by rw [en],
    by rw [eb], fun p0 p1 => ?_⟩
  · rw [phasePixel_rotate sqrtf he]
    split_ifs
    · exact ⟨0, by push_cast; ring⟩
    · exact ⟨-1, by push_cast; ring⟩
  · have hc := phaseSmoothPixel_corrects he p0 p1
    rwa [phaseSmoothPixel_of_ne sqrtf he] at hc ⊢

/-- A pixel of taps `(3, 1, 0)`. -/
theorem calculatePhase_consistent_threeOneZero :
    0 < (phasePixel id (3 : ℚ) 1 0).signal ∧
      let frame : Fin 1 → ℚ × ℚ × ℚ := fun _ => (3, 1, 0)
      let acc : PhaseRoi 1 ℚ := ⟨fun _ => 0, fun _ => 0, fun _ => 0, fun _ => 0⟩
      let p := calculatePhase id frame acc 1
      let q := calculatePhase id (rotateFrame frame) acc 1
      let sm := calculatePhaseSmooth frame fun _ => 1
      sm.1 0 = p.phaseRoi 0 ∧ 0 ≤ p.phaseRoi 0 ∧ p.phaseRoi 0 ≤ 1 ∧
        (∃ k : ℤ, q.phaseRoi 0 = p.phaseRoi 0 + 1 / 3 + k) ∧
        q.signalRoi 0 = p.signalRoi 0 ∧ q.snrRoi 0 = p.snrRoi 0 ∧
        q.backgroundRoi 0 = p.backgroundRoi 0 ∧
        ((0 : ℚ) ≤ 1 → (1 : ℚ) ≤ 1 →
          (sm.2 0 - 1 = -1 ∨ sm.2 0 - 1 = 0 ∨ sm.2 0 - 1 = 1) ∧ |sm.2 0 - sm.1 0| ≤ 1 / 2) := by
  have hs : 0 < (phasePixel id (3 : ℚ) 1 0).signal := by
    rw [(phasePixel_signal id (3 : ℚ) 1 0).1]; norm_num [tapSignal]
  exact ⟨hs, calculatePhase_consistent id (fun _ => ((3 : ℚ), (1 : ℚ), (0 : ℚ))) (fun _ => 1)
    ⟨fun _ => 0, fun _ => 0, fun _ => 0, fun _ => 0⟩ 1 0 hs⟩

end Estimator

end RawToDepthDsp

end Cobra
