import Mathlib.Algebra.Order.Ring.Rat
import Mathlib.Tactic.Ring
import Cobra.Dsp

/-!
# The SNR Vote

`snrVoteV2` merges one ROI into the FOV: at every pixel the ROI covers, its summed squared SNR
over the two modulation frequencies replaces the stored one when it is higher, and the ROI's
two raw triples come with it. This module says what a whole sequence of votes computes, from
the zeroed buffers the first ROI of an FOV starts from, in exact arithmetic on positive
samples.

A `Ballot` is one call: the two rotated ROIs and the FOV pixel of their first pixel. Its score
at a pixel is `snrValue` of the pixel's two triples, the closed form of `computeSnrSquared`
(`computeSnrSquared_eq`: each rotation puts the smallest sample last). Over a list of ballots,
`bestScore` is `max 0` of the covering ballots' scores and `winner` the earliest covering
ballot that attains it, when it is positive; `votedFov` is the pair of FOV buffers they
describe.

## Main results

* `Ballot.snrVoteV2_voteUpTo`: one call updates exactly the pixels the ballot covers where its
  score beats the stored one, by induction over the vote loop (`Ballot.snrVoteStep_voteUpTo`).
* `votedFov_append`: that update takes the buffers of `bs` to those of `bs ++ [b]`.
* `snrVote_foldlM`: voting ballots in order from zeroed buffers gives `votedFov`.
* `votedFov_perm`: the result does not depend on the order of the ballots when each pixel's
  best score is attained by one ballot only.
-/

namespace Cobra
namespace RawToDepthDsp

/-! ### The squared SNR of a triple -/

/-- The squared SNR of a triple of positive samples: the smallest sample `m` is the
background, and the signal is what the three rise above it, `a + b + c - 3 m`. -/
def snrValue (a b c : Nat) : ℚ :=
  ((a : ℚ) + b + c - 3 * (min a (min b c) : Nat)) ^ 2 / (2 * (min a (min b c) : Nat))

/-- The three rotations of `computeSnrSquared` all put the smallest sample last. -/
theorem snrOf_rotated {a b c : Nat} (ha : 0 < a) (hb : 0 < b) (hc : 0 < c) :
    (if a ≤ b ∧ a ≤ c then snrOf b c a else if b ≤ c ∧ b < a then snrOf c a b
      else snrOf a b c) = .fin (snrValue a b c) := by
  have key : ∀ x y z : Nat, 0 < z → min a (min b c) = z → (x : ℚ) + y + z = a + b + c →
      snrOf x y z = .fin (snrValue a b c) := by
    intro x y z hz hm hs
    rw [snrOf, if_neg hz.ne', snrValue, hm, ← hs]
    congr 1
    ring
  split_ifs with h1 h2
  · exact key b c a ha (by omega) (by ring)
  · exact key c a b hb (by omega) (by ring)
  · exact key a b c hc (by omega) (by ring)

/-- The squared SNR of triple `i` of a rotated ROI. -/
def tripleScore (roi : List Nat) (i : Nat) : ℚ :=
  snrValue (roi.getD (numGpixelPhases * i) 0) (roi.getD (numGpixelPhases * i + 1) 0)
    (roi.getD (numGpixelPhases * i + 2) 0)

/-- The squared SNR of pixel `idx` of a tap-rotated ROI is that of the pixel's three cyclic
tap sums. -/
theorem tripleScore_tapRotated {roiVector : List Nat} {f h w idx : Nat} (hidx : idx < h * w) :
    tripleScore (tapRotated roiVector f h w) idx =
      let c := cyclicSum roiVector (f * (numGpixelPhases * (h * w)))
        ((2 + f) * (numGpixelPhases * (h * w))) ((4 + f) * (numGpixelPhases * (h * w))) idx
      snrValue (c.getD 0 0) (c.getD 1 0) (c.getD 2 0) := by
  have h0 := @getD_flatMap_cyclicSum roiVector (f * (numGpixelPhases * (h * w)))
    ((2 + f) * (numGpixelPhases * (h * w))) ((4 + f) * (numGpixelPhases * (h * w))) _ _ 0 hidx
    (by decide)
  rw [Nat.add_zero] at h0
  simp only [tripleScore, tapRotated, numGpixelPhases] at h0 ⊢
  rw [h0, getD_flatMap_cyclicSum _ _ _ _ hidx (by decide),
    getD_flatMap_cyclicSum _ _ _ _ hidx (by decide)]

/-- On a triple of positive samples `computeSnrSquared` is its finite `tripleScore`. -/
theorem computeSnrSquared_eq {rawRoi : List Nat} {idx : Nat}
    (h : numGpixelPhases * (idx + 1) ≤ rawRoi.length)
    (hpos : ∀ ch < numGpixelPhases, 0 < rawRoi.getD (numGpixelPhases * idx + ch) 0) :
    computeSnrSquared rawRoi idx = .ok (.fin (tripleScore rawRoi idx)) := by
  simp only [numGpixelPhases] at h hpos
  have hr : ∀ ch < 3, readAt .rotatedRoi rawRoi (idx * 3 + ch) =
      .ok (rawRoi.getD (3 * idx + ch) 0) := fun ch hch => by
    rw [readAt_of_lt (by omega), List.getD_eq_getElem _ _ (by omega)]
    simp only [Nat.mul_comm]
  have hr0 := hr 0 (by omega)
  simp only [Nat.add_zero] at hr0
  simp only [computeSnrSquared, tripleScore, numGpixelPhases, hr0, hr 1 (by omega),
    hr 2 (by omega), ok_bind]
  have h0 := hpos 0 (by omega)
  rw [Nat.add_zero] at h0
  rw [← snrOf_rotated h0 (hpos 1 (by omega)) (hpos 2 (by omega))]
  split_ifs <;> rfl

/-! ### Ballots -/

/-- One call of `snrVoteV2`: the rotated ROIs of modulation frequencies `F0` and `F1`, and
the FOV pixel their first pixel lands on. -/
structure Ballot where
  offset : Nat
  roi0 : List Nat
  roi1 : List Nat

namespace Ballot

/-- The rotated ROI of frequency `f`, the one copied into `rawFov f`. -/
def roi (b : Ballot) (f : Fin 2) : List Nat := if f = 0 then b.roi0 else b.roi1

/-- The pixels the vote loop visits. -/
def numPixels (b : Ballot) : Nat := b.roi0.length / numGpixelPhases

/-- The ballot reaches FOV pixel `p`. -/
def Covers (b : Ballot) (p : Nat) : Prop := b.offset ≤ p ∧ p < b.offset + b.numPixels

instance (b : Ballot) (p : Nat) : Decidable (b.Covers p) := inferInstanceAs (Decidable (_ ∧ _))

/-- The ballot's summed squared SNR at FOV pixel `p`. -/
def score (b : Ballot) (p : Nat) : ℚ :=
  tripleScore b.roi0 (p - b.offset) + tripleScore b.roi1 (p - b.offset)

/-- Channel `ch` of the frequency-`f` triple the ballot holds for FOV pixel `p`. -/
def sample (b : Ballot) (f : Fin 2) (p ch : Nat) : Nat :=
  (b.roi f).getD (numGpixelPhases * (p - b.offset) + ch) 0

/-- Every triple the vote loop reads has a positive minimum. -/
def Positive (b : Ballot) : Prop :=
  ∀ f i, i < b.numPixels → ∀ ch < numGpixelPhases, 0 < (b.roi f).getD (numGpixelPhases * i + ch) 0

/-- A ballot that FOV buffers of `N` pixels take without fault: the `F1` ROI is as long as the
`F0` one the loop is sized by, and a ballot with pixels lands inside the FOV. -/
structure Fits (b : Ballot) (N : Nat) : Prop where
  roi1 : numGpixelPhases * b.numPixels ≤ b.roi1.length
  inside : 0 < b.numPixels → b.offset + b.numPixels ≤ N
  pos : b.Positive

/-- Among its first `i` pixels, the ballot beats the stored score `snr` at FOV pixel `p`. -/
def Wins (b : Ballot) (snr : Nat → ℚ) (i p : Nat) : Prop :=
  b.offset ≤ p ∧ p < b.offset + i ∧ snr p < b.score p

instance (b : Ballot) (snr : Nat → ℚ) (i p : Nat) : Decidable (b.Wins snr i p) :=
  inferInstanceAs (Decidable (_ ∧ _ ∧ _))

/-- The buffers of `N` pixels holding `raw` and `snr` once the ballot has voted its first `i`
pixels: the loop invariant of `snrVoteV2`. -/
def voteUpTo (b : Ballot) (N : Nat) (raw : Fin 2 → Nat → Nat) (snr : Nat → ℚ) (i : Nat) :
    Vote where
  rawFov f := (List.range (numGpixelPhases * N)).map fun k =>
    if b.Wins snr i (k / numGpixelPhases) then
      b.sample f (k / numGpixelPhases) (k % numGpixelPhases) else raw f k
  snrSquaredFov := (List.range N).map fun p => .fin (if b.Wins snr i p then b.score p else snr p)

theorem wins_succ {b : Ballot} {snr : Nat → ℚ} {i p : Nat} :
    b.Wins snr (i + 1) p ↔ b.Wins snr i p ∨ (p = b.offset + i ∧ snr p < b.score p) := by
  unfold Wins
  constructor
  · rintro ⟨h1, h2, h3⟩
    by_cases hp : p = b.offset + i
    · exact .inr ⟨hp, h3⟩
    · exact .inl ⟨h1, by omega, h3⟩
  · rintro (⟨h1, h2, h3⟩ | ⟨rfl, h3⟩)
    · exact ⟨h1, by omega, h3⟩
    · exact ⟨by omega, by omega, h3⟩

theorem voteUpTo_succ_of_not_lt {b : Ballot} {N : Nat} {raw : Fin 2 → Nat → Nat}
    {snr : Nat → ℚ} {i : Nat} (h : ¬ snr (b.offset + i) < b.score (b.offset + i)) :
    b.voteUpTo N raw snr (i + 1) = b.voteUpTo N raw snr i := by
  have key : ∀ p, b.Wins snr (i + 1) p ↔ b.Wins snr i p := fun p => by
    rw [wins_succ]
    exact or_iff_left (by rintro ⟨rfl, hp⟩; exact h hp)
  simp only [voteUpTo, key]

theorem voteUpTo_succ_rawFov {b : Ballot} {N : Nat} {raw : Fin 2 → Nat → Nat}
    {snr : Nat → ℚ} {i : Nat} (h : snr (b.offset + i) < b.score (b.offset + i)) (f : Fin 2) :
    (b.voteUpTo N raw snr (i + 1)).rawFov f =
      ((((b.voteUpTo N raw snr i).rawFov f).set (i * 3 + 3 * b.offset)
        ((b.roi f).getD (i * 3) 0)).set (i * 3 + 3 * b.offset + 1)
        ((b.roi f).getD (i * 3 + 1) 0)).set (i * 3 + 3 * b.offset + 2)
        ((b.roi f).getD (i * 3 + 2) 0) := by
  simp only [voteUpTo, set_map_range]
  congr 1
  funext k
  simp only [Function.update_apply, wins_succ, numGpixelPhases]
  by_cases hq : k / 3 = b.offset + i
  · rw [if_pos (.inr ⟨hq, hq ▸ h⟩), hq, sample, Nat.add_sub_cancel_left, numGpixelPhases]
    have : k % 3 = 0 ∨ k % 3 = 1 ∨ k % 3 = 2 := by omega
    rcases this with h3 | h3 | h3 <;> simp only [h3] <;> split_ifs <;>
      first | omega | (congr 1; omega)
  · rw [if_neg (show ¬k = i * 3 + 3 * b.offset + 2 by omega),
      if_neg (show ¬k = i * 3 + 3 * b.offset + 1 by omega),
      if_neg (show ¬k = i * 3 + 3 * b.offset by omega)]
    simp only [hq, false_and, or_false]

theorem voteUpTo_succ_snr {b : Ballot} {N : Nat} {raw : Fin 2 → Nat → Nat}
    {snr : Nat → ℚ} {i : Nat} (h : snr (b.offset + i) < b.score (b.offset + i)) :
    (b.voteUpTo N raw snr (i + 1)).snrSquaredFov =
      (b.voteUpTo N raw snr i).snrSquaredFov.set (i + b.offset) (.fin (b.score (b.offset + i))) := by
  simp only [voteUpTo, set_map_range]
  congr 1
  funext p
  simp only [Function.update_apply, wins_succ]
  by_cases hq : p = b.offset + i
  · rw [if_pos (show p = i + b.offset by omega), if_pos (.inr ⟨hq, hq ▸ h⟩), hq]
  · rw [if_neg (show ¬p = i + b.offset by omega)]
    simp only [hq, false_and, or_false]

/-- **One pixel of the vote.** -/
theorem snrVoteStep_voteUpTo {b : Ballot} {N : Nat} {raw : Fin 2 → Nat → Nat} {snr : Nat → ℚ}
    {i : Nat} (hb : b.Fits N) (hN : numGpixelPhases * N ≤ 2 ^ 32) (hi : i < b.numPixels) :
    snrVoteStep b.roi0 b.roi1 b.offset i (b.voteUpTo N raw snr i) =
      .ok (b.voteUpTo N raw snr (i + 1)) := by
  have hl0 : numGpixelPhases * (i + 1) ≤ b.roi0.length := by
    have := Nat.div_mul_le_self b.roi0.length numGpixelPhases
    unfold numPixels at hi; simp only [numGpixelPhases] at *; omega
  have hl1 : numGpixelPhases * (i + 1) ≤ b.roi1.length := by
    have := hb.roi1; simp only [numGpixelPhases] at *; omega
  have hp : i + b.offset < N := by have := hb.inside (by omega); omega
  have hw : numGpixelPhases * (i + b.offset) + 2 < 2 ^ 32 := by simp only [numGpixelPhases] at *; omega
  have hlt : i + b.offset < (b.voteUpTo N raw snr i).snrSquaredFov.length := by
    simp [voteUpTo]; omega
  have hs : (b.voteUpTo N raw snr i).snrSquaredFov[i + b.offset] = .fin (snr (b.offset + i)) := by
    simp [voteUpTo, Wins, Nat.add_comm i]
  have hscore : tripleScore b.roi0 i + tripleScore b.roi1 i = b.score (b.offset + i) := by
    simp [score]
  rw [snrVoteStep, computeSnrSquared_eq hl0 (hb.pos 0 i hi),
    computeSnrSquared_eq hl1 (hb.pos 1 i hi), ok_bind, ok_bind,
    Nat.mod_eq_of_lt (by simp only [numGpixelPhases] at *; omega), readAt_of_lt hlt, ok_bind, hs]
  simp only [Snr.add, Snr.gt, hscore, decide_eq_true_eq]
  by_cases hwin : snr (b.offset + i) < b.score (b.offset + i)
  · simp only [numGpixelPhases] at hl0 hl1 hw hN
    have hr : ∀ roi : List Nat, 3 * (i + 1) ≤ roi.length → ∀ ch < 3,
        readAt .rotatedRoi roi (i * 3 + ch) = .ok (roi.getD (i * 3 + ch) 0) :=
      fun roi hl ch hch => by rw [readAt_of_lt (by omega), List.getD_eq_getElem]
    have hr0 : ∀ roi : List Nat, 3 * (i + 1) ≤ roi.length →
        readAt .rotatedRoi roi (i * 3) = .ok (roi.getD (i * 3) 0) := fun roi hl => hr roi hl 0 (by omega)
    have hlen : ∀ f, ((b.voteUpTo N raw snr i).rawFov f).length = 3 * N := by
      simp [voteUpTo, numGpixelPhases]
    have h0 := @voteUpTo_succ_rawFov b N raw snr i hwin 0
    have h1 := @voteUpTo_succ_rawFov b N raw snr i hwin 1
    simp (disch := (try simp only [List.length_set, hlen]); omega) only [numGpixelPhases,
      if_pos hwin, hr0 _ hl0, hr0 _ hl1, hr _ hl0 1 (by omega), hr _ hl0 2 (by omega),
      hr _ hl1 1 (by omega), hr _ hl1 2 (by omega), ok_bind, Nat.mod_eq_of_lt, writeAt_of_lt]
    rw [pure_eq_ok, ← voteUpTo_succ_snr hwin]
    congr 2
    funext j
    fin_cases j
    · exact h0.symm
    · exact h1.symm
  · rw [if_neg hwin, voteUpTo_succ_of_not_lt hwin]
    rfl

/-- **One vote**: `snrVoteV2` updates the pixels where the ballot wins, and nothing else. -/
theorem snrVoteV2_voteUpTo {b : Ballot} {N : Nat} (raw : Fin 2 → Nat → Nat) (snr : Nat → ℚ)
    (hb : b.Fits N) (hN : numGpixelPhases * N ≤ 2 ^ 32) :
    snrVoteV2 b.roi0 b.roi1 (b.voteUpTo N raw snr 0) b.offset =
      .ok (b.voteUpTo N raw snr b.numPixels) := by
  obtain ⟨v, hv, rfl⟩ := forLoop_ok (n := b.numPixels) (fun i v => v = b.voteUpTo N raw snr i)
    (fun i hi v hv => ⟨_, hv ▸ snrVoteStep_voteUpTo hb hN hi, rfl⟩) _ rfl
  exact hv

end Ballot

/-! ### What a sequence of votes leaves -/

/-- The ballots that cover FOV pixel `p`, in voting order. -/
def covering (bs : List Ballot) (p : Nat) : List Ballot := bs.filter fun b => decide (b.Covers p)

/-- `max(0, max over the covering ballots of their scores)`. -/
def bestScore (bs : List Ballot) (p : Nat) : ℚ := ((covering bs p).map (·.score p)).foldl max 0

/-- The earliest covering ballot that attains the best score, when that score is positive. -/
def winner (bs : List Ballot) (p : Nat) : Option Ballot :=
  if 0 < bestScore bs p then
    (covering bs p).find? fun b => decide (b.score p = bestScore bs p)
  else none

/-- Sample `k` of the frequency-`f` FOV buffer: the winner's, zero where there is none. -/
def votedRaw (bs : List Ballot) (f : Fin 2) (k : Nat) : Nat :=
  (winner bs (k / numGpixelPhases)).elim 0 fun b =>
    b.sample f (k / numGpixelPhases) (k % numGpixelPhases)

/-- The FOV buffers of `N` pixels after the ballots `bs`. -/
def votedFov (bs : List Ballot) (N : Nat) : Vote where
  rawFov f := (List.range (numGpixelPhases * N)).map (votedRaw bs f)
  snrSquaredFov := (List.range N).map fun p => .fin (bestScore bs p)

@[simp] theorem length_votedFov_rawFov (bs : List Ballot) (N : Nat) (f : Fin 2) :
    ((votedFov bs N).rawFov f).length = numGpixelPhases * N := by
  simp [votedFov]

@[simp] theorem length_votedFov_snrSquaredFov (bs : List Ballot) (N : Nat) :
    (votedFov bs N).snrSquaredFov.length = N := by
  simp [votedFov]

theorem foldl_max_le_iff {l : List ℚ} {a c : ℚ} :
    l.foldl max a ≤ c ↔ a ≤ c ∧ ∀ x ∈ l, x ≤ c := by
  induction l generalizing a with
  | nil => simp
  | cons x l ih => simp only [List.foldl_cons, ih, max_le_iff, List.forall_mem_cons, and_assoc]

theorem foldl_max_mem (l : List ℚ) (a : ℚ) : l.foldl max a = a ∨ l.foldl max a ∈ l := by
  induction l generalizing a with
  | nil => exact .inl rfl
  | cons x l ih =>
    rcases ih (max a x) with h | h
    · rw [List.foldl_cons, h]
      rcases max_choice a x with h' | h' <;> simp [h']
    · exact .inr (List.mem_cons_of_mem _ h)

theorem covering_append (bs : List Ballot) (b : Ballot) (p : Nat) :
    covering (bs ++ [b]) p = covering bs p ++ if b.Covers p then [b] else [] := by
  simp only [covering, List.filter_append, List.filter_cons, List.filter_nil]
  split_ifs <;> simp_all

theorem bestScore_nonneg (bs : List Ballot) (p : Nat) : 0 ≤ bestScore bs p :=
  (foldl_max_le_iff.1 le_rfl).1

theorem score_le_bestScore {bs : List Ballot} {p : Nat} {b : Ballot} (hb : b ∈ covering bs p) :
    b.score p ≤ bestScore bs p :=
  (foldl_max_le_iff.1 le_rfl).2 _ (List.mem_map_of_mem _ hb)

theorem exists_score_eq_bestScore {bs : List Ballot} {p : Nat} (h : 0 < bestScore bs p) :
    ∃ b ∈ covering bs p, b.score p = bestScore bs p := by
  rcases foldl_max_mem ((covering bs p).map (·.score p)) 0 with h' | h'
  · exact absurd h' h.ne'
  · exact List.mem_map.1 h'

theorem bestScore_append (bs : List Ballot) (b : Ballot) (p : Nat) :
    bestScore (bs ++ [b]) p = if b.Covers p then max (bestScore bs p) (b.score p) else bestScore bs p := by
  unfold bestScore
  rw [covering_append]
  split_ifs <;> simp [List.foldl_append]

/-- A new ballot wins a pixel exactly when it covers it and beats the best score so far. -/
theorem winner_append (bs : List Ballot) (b : Ballot) (p : Nat) :
    winner (bs ++ [b]) p =
      if b.Covers p ∧ bestScore bs p < b.score p then some b else winner bs p := by
  by_cases hc : b.Covers p
  · by_cases hlt : bestScore bs p < b.score p
    · have hnone : (covering bs p).find? (fun w => decide (w.score p = b.score p)) = none :=
        List.find?_eq_none.2 fun w hw => by
          simpa using ((score_le_bestScore hw).trans_lt hlt).ne
      simp [winner, bestScore_append, covering_append, hc, max_eq_right hlt.le, hlt,
        (bestScore_nonneg bs p).trans_lt hlt, hnone]
    · have hle := not_lt.1 hlt
      simp only [winner, bestScore_append, covering_append, if_pos hc, max_eq_left hle,
        if_neg (fun h : _ ∧ _ => hlt h.2)]
      split_ifs with hpos
      · rw [List.find?_append, Option.or_of_isSome]
        obtain ⟨w, hw, hs⟩ := exists_score_eq_bestScore hpos
        exact List.find?_isSome.2 ⟨w, hw, by simpa using hs⟩
      · rfl
  · simp only [winner, bestScore_append, covering_append, if_neg hc, List.append_nil,
      if_neg (fun h : _ ∧ _ => hc h.1)]

theorem Ballot.voteUpTo_zero (b : Ballot) (N : Nat) (raw : Fin 2 → Nat → Nat) (snr : Nat → ℚ) :
    b.voteUpTo N raw snr 0 = ⟨fun f => (List.range (numGpixelPhases * N)).map (raw f),
      (List.range N).map fun p => .fin (snr p)⟩ := by
  have : ∀ p, ¬ b.Wins snr 0 p := fun p h => by unfold Ballot.Wins at h; omega
  simp only [Ballot.voteUpTo, this, if_false]

theorem votedFov_append (bs : List Ballot) (b : Ballot) (N : Nat) :
    votedFov (bs ++ [b]) N = b.voteUpTo N (votedRaw bs) (bestScore bs) b.numPixels := by
  have hwins : ∀ p, b.Wins (bestScore bs) b.numPixels p ↔ b.Covers p ∧ bestScore bs p < b.score p :=
    fun p => by simp only [Ballot.Wins, Ballot.Covers, and_assoc]
  simp only [votedFov, Ballot.voteUpTo, hwins]
  congr 1
  · funext f
    congr 1
    funext k
    simp only [votedRaw, winner_append]
    split_ifs <;> rfl
  · congr 1
    funext p
    rw [bestScore_append]
    split_ifs with h1 h2 h2
    · exact congrArg _ (max_eq_right h2.2.le)
    · exact congrArg _ (max_eq_left (not_lt.1 fun h => h2 ⟨h1, h⟩))
    · exact absurd h2.1 h1
    · rfl

/-- One more ballot voted into the buffers of `bs` gives those of `bs ++ [b]`. -/
theorem snrVoteV2_votedFov {b : Ballot} {N : Nat} (bs : List Ballot) (hb : b.Fits N)
    (hN : numGpixelPhases * N ≤ 2 ^ 32) :
    snrVoteV2 b.roi0 b.roi1 (votedFov bs N) b.offset = .ok (votedFov (bs ++ [b]) N) := by
  have := Ballot.snrVoteV2_voteUpTo (votedRaw bs) (bestScore bs) hb hN
  rwa [Ballot.voteUpTo_zero, ← votedFov_append] at this

/-- **SNR voting is a per-pixel argmax**: the ballots voted in order from zeroed buffers
leave the best score at every pixel and the earliest best ballot's triples. -/
theorem snrVote_foldlM {N : Nat} (hN : numGpixelPhases * N ≤ 2 ^ 32) (bs : List Ballot)
    (hbs : ∀ b ∈ bs, b.Fits N) :
    bs.foldlM (fun v b => snrVoteV2 b.roi0 b.roi1 v b.offset) (votedFov [] N) =
      .ok (votedFov bs N) := by
  induction bs using List.reverseRecOn with
  | nil => rfl
  | append_singleton bs b ih =>
    rw [List.foldlM_append, ih fun w hw => hbs w (List.mem_append_left _ hw), ok_bind,
      List.foldlM_cons]
    simp only [List.foldlM_nil, pure_eq_ok, bind_ok]
    exact snrVoteV2_votedFov bs (hbs b (List.mem_append_right _ (List.mem_singleton_self b))) hN

theorem votedFov_nil (N : Nat) :
    votedFov [] N = ⟨fun _ => List.replicate (numGpixelPhases * N) 0, List.replicate N (.fin 0)⟩ := by
  have h0 : ∀ f, votedRaw [] f = fun _ => 0 := fun f => funext fun k => by
    simp [votedRaw, winner, bestScore, covering]
  simp [votedFov, h0, bestScore, covering]

/-- Each pixel's best score is attained by one ballot only. -/
def UniqueMaxima (bs : List Ballot) : Prop :=
  ∀ p, ∀ b ∈ covering bs p, ∀ b' ∈ covering bs p,
    b.score p = bestScore bs p → b'.score p = bestScore bs p → b = b'

theorem find?_eq_of_perm {l l' : List α} {q : α → Bool} (h : l'.Perm l)
    (hu : ∀ x ∈ l, ∀ y ∈ l, q x → q y → x = y) : l'.find? q = l.find? q := by
  cases hf : l.find? q with
  | none => exact List.find?_eq_none.2 fun x hx => List.find?_eq_none.1 hf x (h.mem_iff.1 hx)
  | some x =>
    obtain ⟨y, hy⟩ := Option.isSome_iff_exists.1 (List.find?_isSome.2
      ⟨x, h.mem_iff.2 (List.mem_of_find?_eq_some hf), List.find?_some hf⟩)
    rw [hy, hu y (h.mem_iff.1 (List.mem_of_find?_eq_some hy)) x (List.mem_of_find?_eq_some hf)
      (List.find?_some hy) (List.find?_some hf)]

/-- **Voting order does not matter** when the maxima are attained uniquely. -/
theorem votedFov_perm {bs bs' : List Ballot} (h : bs'.Perm bs) (hu : UniqueMaxima bs) (N : Nat) :
    votedFov bs' N = votedFov bs N := by
  have hc : ∀ p, (covering bs' p).Perm (covering bs p) := fun p => h.filter _
  have hb : ∀ p, bestScore bs' p = bestScore bs p := fun p =>
    ((hc p).map _).foldl_eq' (fun x _ y _ z => by rw [max_assoc, max_comm x y, ← max_assoc]) 0
  have hw : ∀ p, winner bs' p = winner bs p := fun p => by
    simp only [winner, hb]
    split_ifs
    · exact find?_eq_of_perm (hc p) fun x hx y hy hqx hqy =>
        hu p x hx y hy (by simpa using hqx) (by simpa using hqy)
    · rfl
  have hr : votedRaw bs' = votedRaw bs := by
    funext f k
    simp only [votedRaw, hw]
  simp only [votedFov, hr, hb]

end RawToDepthDsp
end Cobra
