import Cobra.Engine.Grid

/-!
# The SNR Vote of an FOV

What the ping/pong side and the FOV SNR buffer hold once `processOneRoi` has handled the ROIs of
one FOV, from the reset at its first ROI on. Every accepted ROI is voted as its `Ballot`, and
`processRois_snrVote` shows the two buffers are `votedFov` of those ballots: the best squared
SNR at each FOV pixel, and the triples of the earliest ROI that reaches it (`SnrVote`).

The proof follows the engine step by step. One inversion lemma per step says what it can do to
the vote buffers (`saveTimestamp_inv`, `reset_inv`, `castBallot_inv`), and
`processOneRoiTraced_inv` collects them for a whole call. `Voted` is the invariant of an open
FOV: the buffers hold the vote of the ballots so far, all of which fit the FOV. The first ROI
establishes it (`processOneRoiTraced_opens`: the reset zeroes the SNR buffer and the first-ROI
flag clears the side), and every later call keeps it (`processOneRoiTraced_voted`): it neither
resets nor resizes, since `saveTimestamp` accepts only ROIs of the FOV's height, and its ballot
lands inside the FOV, since the vote would fault otherwise (`ballot_fits`).

## Main results

* `processOneRoiTraced_voted`: one call keeps the invariant, adding its ballot.
* `processRoisTraced_voted`: so does a whole run.
* `processRois_snrVote`: **SNR voting is a per-pixel argmax over the FOV**, and the buffers do
  not depend on the order of the ROIs when each pixel's best score is attained once.
-/

namespace Cobra

open Function RawToDepthDsp

namespace Grid

/-! ### What each step does to the vote buffers -/

/-- `t` holds the raw frames, row buffers, SNR buffer, ping/pong index and FOV index of `s`. -/
structure VoteFrame (s t : Grid) : Prop where
  fRawFrames : t.fRawFrames = s.fRawFrames
  activeRows : t.activeRows = s.activeRows
  fovSnrV2 : t.fovSnrV2 = s.fovSnrV2
  rawPingOrPong : t.rawPingOrPong = s.rawPingOrPong
  fovIdx : t.fovIdx = s.fovIdx

/-- A size check that finds nothing changed saw an SNR buffer and row buffers of the FOV's
height. -/
theorem bufferSizesChanged_false {s : Grid} {m : RtdMetadata}
    (h : s.bufferSizesChanged m = .ok false) :
    s.fovSnrV2.length = fovNumColumns * m.getFovNumRows s.fovIdx ∧
      ∀ q, (s.activeRows q).length = m.getFovNumRows s.fovIdx := by
  unfold bufferSizesChanged at h
  obtain ⟨c, -, h⟩ := bind_eq_ok.1 h
  split at h
  · cases h
  · simp only [pure_bind, ok_bind, pure_eq_ok, Except.ok.injEq, Bool.or_eq_false_iff,
      decide_eq_false_iff_not, not_not] at h
    exact ⟨h.2, Fin.forall_fin_two.2 ⟨h.1.1.1.1, h.1.1.1.2⟩⟩

/-- **What `saveTimestamp` can do**: it keeps the vote buffers, and it accepts an ROI only when
the SNR buffer has the FOV's height and the ROI's rows end inside the FOV. -/
theorem saveTimestamp_inv {s s' : Grid} {m : RtdMetadata} {ok : Bool}
    (h : s.saveTimestamp m = .ok (ok, s')) :
    VoteFrame s s' ∧
      (ok = true → s.fovSnrV2.length = fovNumColumns * m.getFovNumRows s.fovIdx ∧
        (m.getRoiStartRow : Int) - m.getFovStartRow s.fovIdx + m.getRoiNumRows ≤
          m.getFovNumRows s.fovIdx) := by
  rcases hb : s.toRawToDepth.saveTimestamp m with ⟨ok0, b⟩
  have hi : b.fovIdx = s.fovIdx := by
    simpa [hb] using (RawToDepth.saveTimestamp_frameCompleted (m := m) s.toRawToDepth).2.1
  unfold saveTimestamp at h
  rw [hb] at h
  dsimp only at h
  have done : ∀ {x : Grid} {c : Bool}, (pure (c, x) : Except Fault (Bool × Grid)) = .ok (ok, s') →
      VoteFrame s x → (c = true → s.fovSnrV2.length = fovNumColumns * m.getFovNumRows s.fovIdx ∧
        (m.getRoiStartRow : Int) - m.getFovStartRow s.fovIdx + m.getRoiNumRows ≤
          m.getFovNumRows s.fovIdx) →
      VoteFrame s s' ∧ (ok = true → s.fovSnrV2.length = fovNumColumns * m.getFovNumRows s.fovIdx ∧
        (m.getRoiStartRow : Int) - m.getFovStartRow s.fovIdx + m.getRoiNumRows ≤
          m.getFovNumRows s.fovIdx) := by
    intro x c h hx hc
    cases h
    exact ⟨hx, hc⟩
  simp only [pure_bind] at h
  split at h
  · exact done h ⟨rfl, rfl, rfl, rfl, hi⟩ nofun
  split at h
  · exact done h ⟨rfl, rfl, rfl, rfl, hi⟩ nofun
  split at h
  · exact done h ⟨rfl, rfl, rfl, rfl, hi⟩ nofun
  split at h
  · exact done h ⟨rfl, rfl, rfl, rfl, hi⟩ nofun
  obtain ⟨c, hc, h⟩ := bind_eq_ok.1 h
  split at h
  · exact done h ⟨rfl, rfl, rfl, rfl, hi⟩ nofun
  rename_i c5
  have hsnr := (bufferSizesChanged_false (Bool.eq_false_iff.2 c5 ▸ hc)).1
  split at h
  · exact done h ⟨rfl, rfl, rfl, rfl, hi⟩ nofun
  rename_i c6
  rw [hi] at hsnr c6
  have fin : ∀ {x : Grid}, (pure (true, x) : Except Fault (Bool × Grid)) = .ok (ok, s') →
      VoteFrame s x → _ := fun h hx => done h hx fun _ => ⟨hsnr, Int.not_lt.1 c6⟩
  split at h
  · exact done h ⟨rfl, rfl, rfl, rfl, by simp [hi]⟩ nofun
  split at h
  · exact done h ⟨rfl, rfl, rfl, rfl, by simp [hi]⟩ nofun
  split at h
  · exact fin h ⟨rfl, rfl, rfl, rfl, by simp [hi]⟩
  · exact fin h ⟨rfl, rfl, rfl, rfl, by simp [hi]⟩

/-- `realloc` ends in the same sizing whichever path it takes. -/
theorem realloc_eq {s s' : Grid} {m : RtdMetadata} (h : s.realloc m = .ok s') :
    s' = { s with
      fRawFrames := fun q => (resize2 (s.fRawFrames q)
        (numGpixelPhases * fovNumColumns * m.getFovNumRows s.fovIdx) 0).1
      activeRows := fun q => (makeVector (s.activeRows q) (m.getFovNumRows s.fovIdx) false).1
      roiIndexFrames := fun q => (makeVector (s.roiIndexFrames q) (maxImageHeight * imageWidth) 0).1
      fovSnrV2 := List.replicate (fovNumColumns * m.getFovNumRows s.fovIdx) (.fin 0) } := by
  unfold realloc at h
  dsimp only at h
  split at h
  · obtain ⟨_, -, h⟩ := bind_eq_ok.1 h
    cases h; rfl
  · cases h; rfl

/-- **What `reset` does to the vote buffers**: a zeroed SNR buffer and both sides sized for
the FOV of the metadata. -/
theorem reset_inv {s s' : Grid} {m : RtdMetadata} (h : s.reset m = .ok s') :
    s'.fovIdx = s.fovIdx ∧ s'.rawPingOrPong = s.rawPingOrPong ∧
      s'.fovSnrV2 = List.replicate (fovNumColumns * m.getFovNumRows s.fovIdx) (.fin 0) ∧
      (∀ q f, (s'.fRawFrames q f).length =
        numGpixelPhases * fovNumColumns * m.getFovNumRows s.fovIdx) ∧
      ∀ q, (s'.activeRows q).length = m.getFovNumRows s.fovIdx := by
  obtain ⟨b, hb, h⟩ := bind_eq_ok.1 h
  have hi := RawToDepth.reset_fovIdx hb
  rw [realloc_eq h]
  simp [hi]

/-- The row bookkeeping writes only the row and ROI-index buffers, at their lengths. -/
theorem rowStep_inv {pp : Fin 2} {a c i : Nat} {s t : Grid} (h : rowStep pp a c i s = .ok t) :
    t.fRawFrames = s.fRawFrames ∧ t.fovSnrV2 = s.fovSnrV2 ∧ t.toRawToDepth = s.toRawToDepth ∧
      t.rawPingOrPong = s.rawPingOrPong ∧ (t.activeRows pp).length = (s.activeRows pp).length := by
  obtain ⟨act, hact, h⟩ := bind_eq_ok.1 h
  obtain ⟨_, -, h⟩ := bind_eq_ok.1 h
  cases h
  exact ⟨rfl, rfl, rfl, rfl, by simpa using writeAt_length hact⟩

theorem rowSteps_inv {pp : Fin 2} {a c n : Nat} {s t : Grid}
    (h : forLoop n (rowStep pp a c) s = .ok t) :
    t.fRawFrames = s.fRawFrames ∧ t.fovSnrV2 = s.fovSnrV2 ∧ t.toRawToDepth = s.toRawToDepth ∧
      t.rawPingOrPong = s.rawPingOrPong ∧ (t.activeRows pp).length = (s.activeRows pp).length :=
  forLoop_inv (fun u : Grid => u.fRawFrames = s.fRawFrames ∧ u.fovSnrV2 = s.fovSnrV2 ∧
      u.toRawToDepth = s.toRawToDepth ∧ u.rawPingOrPong = s.rawPingOrPong ∧
      (u.activeRows pp).length = (s.activeRows pp).length)
    (fun _ _ u u' ⟨h1, h2, h3, h4, h5⟩ hu => by
      obtain ⟨e1, e2, e3, e4, e5⟩ := rowStep_inv hu
      exact ⟨e1.trans h1, e2.trans h2, e3.trans h3, e4.trans h4, e5.trans h5⟩)
    ⟨rfl, rfl, rfl, rfl, rfl⟩ h

/-- On a first ROI `prepareSide` clears the current side to zeros. -/
theorem prepareSide_first {s : Grid} {mdat : RtdMetadata} (hf : mdat.getFirstRoi s.fovIdx = true) :
    (s.prepareSide mdat).fRawFrames s.rawPingOrPong =
      (fun _ => List.replicate (numGpixelPhases * mdat.getFovNumRows s.fovIdx * fovNumColumns) 0) := by
  simp [prepareSide, hf]

/-- Otherwise it keeps a side already sized for the FOV. -/
theorem prepareSide_kept {s : Grid} {mdat : RtdMetadata} (hf : mdat.getFirstRoi s.fovIdx = false)
    (hraw : ∀ f, (s.fRawFrames s.rawPingOrPong f).length =
      numGpixelPhases * mdat.getFovNumRows s.fovIdx * fovNumColumns)
    (hact : (s.activeRows s.rawPingOrPong).length = mdat.getFovNumRows s.fovIdx) :
    (s.prepareSide mdat).fRawFrames s.rawPingOrPong = s.fRawFrames s.rawPingOrPong ∧
      (s.prepareSide mdat).activeRows s.rawPingOrPong = s.activeRows s.rawPingOrPong := by
  simp [prepareSide, hf, resize2_of_length 0 hraw, makeVector_of_length false hact]

/-- The ballot's offset is the code's, and both rotated ROIs have the frame's length. -/
theorem ballotOf_inv {i : Nat} {mdat : RtdMetadata} {v : List Nat} {b : Ballot}
    (h : ballotOf i mdat v = .ok b) :
    b.offset = u32 (((mdat.getRoiStartRow : Int) - mdat.getFovStartRow i) * roiNumColumns) ∧
      b.roi0.length = numGpixelPhases * mdat.getRoiNumRows * roiNumColumns ∧
      b.roi1.length = numGpixelPhases * mdat.getRoiNumRows * roiNumColumns := by
  obtain ⟨roi0, h0, h⟩ := bind_eq_ok.1 h
  obtain ⟨roi1, h1, h⟩ := bind_eq_ok.1 h
  cases h
  exact ⟨rfl, by simpa using tapRotation_length h0, by simpa using tapRotation_length h1⟩

/-- **What `castBallot` can do**: vote the ballot into the prepared side and the SNR buffer,
and keep everything else of the vote. -/
theorem castBallot_inv {s t : Grid} {mdat : RtdMetadata} {b : Ballot}
    (h : s.castBallot mdat b = .ok t) :
    ∃ v, snrVoteV2 b.roi0 b.roi1 ⟨(s.prepareSide mdat).fRawFrames s.rawPingOrPong, s.fovSnrV2⟩
        b.offset = .ok v ∧
      t.fRawFrames s.rawPingOrPong = v.rawFov ∧ t.fovSnrV2 = v.snrSquaredFov ∧
      t.toRawToDepth = s.toRawToDepth ∧ t.rawPingOrPong = s.rawPingOrPong ∧
      (t.activeRows s.rawPingOrPong).length = mdat.getFovNumRows s.fovIdx := by
  obtain ⟨pb, ppp, psnr, -, -, pact, -⟩ := prepareSide_spec s mdat
  obtain ⟨v, hv, h⟩ := bind_eq_ok.1 h
  rw [ppp, psnr] at hv
  obtain ⟨e1, e2, e3, e4, e5⟩ := rowSteps_inv h
  refine ⟨v, hv, ?_, e2, e3.trans pb, e4.trans ppp, ?_⟩
  · rw [e1]; exact ppp ▸ update_same _ _ _
  · rw [← ppp, e5]; simpa [ppp] using pact

/-- **What one call can do**: fail validation and change nothing, or pass the ROI through
the HDR stage, reset on a first ROI, and then hold it back, skip it in `saveTimestamp`, or
vote it. -/
theorem processOneRoiTraced_inv {s t : Grid} {r : RoiBuffer} {a : Admission}
    (h : s.processOneRoiTraced r = .ok (t, a)) :
    (a = .invalid ∧ t = s) ∨
    ∃ hdr s2, s.hdr.submit r (!s.veryFirstRoiReceived) inputRawShift = .ok hdr ∧
      ((hdr.getMetadata.getFirstRoi s.fovIdx = true ∧
          ({ s with hdr, veryFirstRoiReceived := true } : Grid).reset hdr.getMetadata = .ok s2) ∨
        (hdr.getMetadata.getFirstRoi s.fovIdx = false ∧
          s2 = { s with hdr, veryFirstRoiReceived := true })) ∧
      ((a = .held hdr.getMetadata ∧ (t = s2 ∨ s2.saveTimestamp hdr.getMetadata = .ok (false, t))) ∨
        ∃ s3 b, a = .voted hdr.getMetadata b ∧ s2.saveTimestamp hdr.getMetadata = .ok (true, s3) ∧
          ballotOf s3.fovIdx hdr.getMetadata hdr.getRoi = .ok b ∧
          s3.castBallot hdr.getMetadata b = .ok t) := by
  unfold processOneRoiTraced at h
  split at h
  · cases h; exact .inl ⟨rfl, rfl⟩
  rw [pure_bind] at h
  obtain ⟨hdr, hh, h⟩ := bind_eq_ok.1 h
  refine .inr ⟨hdr, ?_⟩
  dsimp only at h
  have rest : ∀ s2 : Grid, (if hdr.skip = true then pure (s2, Admission.held hdr.getMetadata) else do
      let p ← s2.saveTimestamp hdr.getMetadata
      if (!p.1) = true then pure (p.2, Admission.held hdr.getMetadata) else do
        let b ← ballotOf p.2.fovIdx hdr.getMetadata hdr.getRoi
        let s ← p.2.castBallot hdr.getMetadata b
        pure (s, Admission.voted hdr.getMetadata b)) = .ok (t, a) →
      ((a = .held hdr.getMetadata ∧ (t = s2 ∨ s2.saveTimestamp hdr.getMetadata = .ok (false, t))) ∨
        ∃ s3 b, a = .voted hdr.getMetadata b ∧ s2.saveTimestamp hdr.getMetadata = .ok (true, s3) ∧
          ballotOf s3.fovIdx hdr.getMetadata hdr.getRoi = .ok b ∧
          s3.castBallot hdr.getMetadata b = .ok t) := by
    intro s2 hr
    split at hr
    · cases hr; exact .inl ⟨rfl, .inl rfl⟩
    obtain ⟨⟨ok, s3⟩, hs3, hr⟩ := bind_eq_ok.1 hr
    cases ok
    · cases hr; exact .inl ⟨rfl, .inr hs3⟩
    obtain ⟨b, hb, hr⟩ := bind_eq_ok.1 hr
    obtain ⟨t', ht, hr⟩ := bind_eq_ok.1 hr
    cases hr
    exact .inr ⟨s3, b, rfl, hs3, hb, ht⟩
  split at h
  · rename_i hf
    obtain ⟨s2, hs2, h⟩ := bind_eq_ok.1 h
    exact ⟨s2, hh, .inl ⟨hf, hs2⟩, rest s2 h⟩
  · rename_i hf
    exact ⟨_, hh, .inr ⟨by simpa using hf, rfl⟩, rest _ h⟩

/-! ### The ballot of an accepted ROI -/

/-- A `uint32_t` offset `(a - c) * 640` below an FOV of fewer than `2 ^ 12` rows did not wrap. -/
theorem u32_offset_of_lt {a c R : Nat} (ha : a < 2 ^ 12) (hc : c < 2 ^ 12) (hR : R < 2 ^ 12)
    (h : u32 (((a : Int) - c) * 640) < 640 * R) :
    c ≤ a ∧ u32 (((a : Int) - c) * 640) = (a - c) * 640 := by
  unfold u32 at h ⊢
  by_cases hca : c ≤ a
  · rw [Int.emod_eq_of_lt (by omega) (by omega)]
    omega
  · have e : ((a : Int) - c) * 640 % 2 ^ 32 = ((a : Int) - c) * 640 + 2 ^ 32 := by
      rw [← Int.add_mul_emod_self (b := 1), Int.emod_eq_of_lt (by omega) (by omega)]; ring
    rw [e] at h
    omega

/-- **An accepted ROI's ballot fits the FOV.** Its rows end inside the FOV (`saveTimestamp`),
and it starts at or below the FOV's first row, since a vote from above would read the SNR
buffer past its end and fault. -/
theorem ballot_fits {s : Grid} {mdat : RtdMetadata} {v : List Nat} {b : Ballot} {u : Vote} {R : Nat}
    (hR : R < 2 ^ 12)
    (hspan : (mdat.getRoiStartRow : Int) - mdat.getFovStartRow s.fovIdx + mdat.getRoiNumRows ≤ R)
    (hball : ballotOf s.fovIdx mdat v = .ok b) (hpos : b.Positive) {w : Vote}
    (hw : w.snrSquaredFov.length = fovNumColumns * R)
    (hu : snrVoteV2 b.roi0 b.roi1 w b.offset = .ok u) : b.Fits (fovNumColumns * R) := by
  obtain ⟨hoff, hl0, hl1⟩ := ballotOf_inv hball
  have hnp : b.numPixels = mdat.getRoiNumRows * 640 := by
    simp only [Ballot.numPixels, hl0, numGpixelPhases, roiNumColumns, imageWidth]; omega
  refine ⟨by rw [hl1, hnp]; simp [numGpixelPhases, roiNumColumns, imageWidth]; omega,
    fun hpix => ?_, hpos⟩
  have hr0 : mdat.getRoiStartRow < 2 ^ 12 := mdat.getmd_lt _
  have hf0 : mdat.getFovStartRow s.fovIdx < 2 ^ 12 := mdat.getmd_lt _
  have hlt : b.offset < fovNumColumns * R := by
    by_contra hge
    have hb32 : b.offset < 2 ^ 32 := by rw [hoff, u32]; omega
    rw [snrVoteV2_error_of_offset (by rw [hl0]; simp [numGpixelPhases, roiNumColumns, imageWidth] at hnp hpix ⊢; omega)
      (by rw [hl1]; simp [numGpixelPhases, roiNumColumns, imageWidth] at hnp hpix ⊢; omega) hb32 (by omega)] at hu
    cases hu
  simp only [hoff, roiNumColumns, imageWidth, fovNumColumns, Nat.cast_ofNat] at hlt
  obtain ⟨hle, e⟩ := u32_offset_of_lt hr0 hf0 hR hlt
  simp only [hoff, roiNumColumns, imageWidth, fovNumColumns, Nat.cast_ofNat, hnp, e]
  omega

/-- Metadata that asks for the tap sums announces all three permutation images. -/
theorem numPermutations_of_tapAccumulation {mdat : RtdMetadata}
    (hd : mdat.getDoTapAccumulation = true) : mdat.getNumPermutations = 3 := by
  simpa [RtdMetadata.getNumPermutations, RtdMetadata.getDoTapAccumulation] using hd

/-- An ROI vector of the announced length whose metadata asks for the tap sums holds all three
permutation images of both frequencies. -/
theorem announcedShorts_permutations {mdat : RtdMetadata} {v : List Nat}
    (hd : mdat.getDoTapAccumulation = true) (hlen : v.length = RawToDepth.announcedShorts mdat)
    {f : Nat} (hf : f < 2) :
    (5 + f) * (numGpixelPhases * (mdat.getRoiNumRows * roiNumColumns)) ≤ v.length := by
  rw [hlen, RawToDepth.announcedShorts, numPermutations_of_tapAccumulation hd]
  simp only [numGpixelPhases, roiNumColumns, imageWidth]
  interval_cases f <;> omega

/-- **The ballot of a tap-summed ROI**: both frequencies tap-rotated, at the ROI's offset in
the FOV. -/
theorem ballotOf_eq {i : Nat} {mdat : RtdMetadata} {v : List Nat}
    (hd : mdat.getDoTapAccumulation = true) (hlen : v.length = RawToDepth.announcedShorts mdat) :
    ballotOf i mdat v =
      .ok ⟨u32 (((mdat.getRoiStartRow : Int) - mdat.getFovStartRow i) * roiNumColumns),
        tapRotated v 0 mdat.getRoiNumRows roiNumColumns,
        tapRotated v 1 mdat.getRoiNumRows roiNumColumns⟩ := by
  have hframe : (List.replicate (numGpixelPhases * mdat.getRoiNumRows * roiNumColumns) 0).length =
      numGpixelPhases * (mdat.getRoiNumRows * roiNumColumns) := by
    rw [List.length_replicate, Nat.mul_assoc]
  simp only [ballotOf, tapRotation_sums _ hframe (announcedShorts_permutations hd hlen
    (show 0 < 2 by decide)), tapRotation_sums _ hframe (announcedShorts_permutations hd hlen
    (show 1 < 2 by decide)), ok_bind, pure_eq_ok]

/-- Positive raw taps give positive rotated triples. -/
theorem ballotOf_positive {i : Nat} {mdat : RtdMetadata} {v : List Nat} {b : Ballot}
    (h : ballotOf i mdat v = .ok b) (hd : mdat.getDoTapAccumulation = true)
    (hv : ∀ x ∈ v, 0 < x) (hlen : v.length = RawToDepth.announcedShorts mdat) : b.Positive := by
  rw [ballotOf_eq hd hlen] at h
  cases h
  intro f k hk ch hch
  have hl : ∀ g, (tapRotated v g mdat.getRoiNumRows roiNumColumns).length =
      numGpixelPhases * (mdat.getRoiNumRows * roiNumColumns) := fun g =>
    length_flatMap_cyclicSum _ _ _ _ _
  simp only [Ballot.numPixels, hl, numGpixelPhases] at hk hch
  have hk' : numGpixelPhases * k + ch < numGpixelPhases * (mdat.getRoiNumRows * roiNumColumns) := by
    simp only [numGpixelPhases]; omega
  have key : ∀ g < 2, 0 < (tapRotated v g mdat.getRoiNumRows roiNumColumns).getD
      (numGpixelPhases * k + ch) 0 := fun g hg => by
    rw [List.getD_eq_getElem _ _ (by rwa [hl])]
    exact tapRotated_pos hv (announcedShorts_permutations hd hlen hg) _ (List.getElem_mem _)
  unfold Ballot.roi
  split
  · exact key 0 (by omega)
  · exact key 1 (by omega)

/-! ### The invariant of an open FOV -/

/-- **The vote invariant.** The engine of FOV `i` has an open FOV of `R` rows on side `pp`,
and its buffers hold the vote of the ballots `bs`, all of which fit the FOV. -/
structure Voted (i : Nat) (pp : Fin 2) (R : Nat) (bs : List Ballot) (s : Grid) : Prop where
  fovIdx : s.fovIdx = i
  rawPingOrPong : s.rawPingOrPong = pp
  rows : R < 2 ^ 12
  fits : ∀ b ∈ bs, b.Fits (fovNumColumns * R)
  raw : s.fRawFrames pp = (votedFov bs (fovNumColumns * R)).rawFov
  snr : s.fovSnrV2 = (votedFov bs (fovNumColumns * R)).snrSquaredFov
  activeRows : (s.activeRows pp).length = R

/-- The invariant only reads what `VoteFrame` keeps. -/
theorem Voted.of_frame {i : Nat} {pp : Fin 2} {R : Nat} {bs : List Ballot} {s t : Grid}
    (hV : Voted i pp R bs s) (h : VoteFrame s t) : Voted i pp R bs t :=
  ⟨h.fovIdx.trans hV.fovIdx, h.rawPingOrPong.trans hV.rawPingOrPong, hV.rows, hV.fits,
    h.fRawFrames ▸ hV.raw, h.fovSnrV2 ▸ hV.snr, h.activeRows ▸ hV.activeRows⟩

/-- Casting the ballot of an accepted ROI into a side that holds the vote of `bs` leaves the
vote of `bs ++ [b]`. -/
theorem castBallot_voted {s t : Grid} {mdat : RtdMetadata} {v : List Nat} {b : Ballot}
    {bs : List Ballot} {R : Nat} (hR : R < 2 ^ 12) (hrows : mdat.getFovNumRows s.fovIdx = R)
    (hspan : (mdat.getRoiStartRow : Int) - mdat.getFovStartRow s.fovIdx + mdat.getRoiNumRows ≤ R)
    (hfits : ∀ b ∈ bs, b.Fits (fovNumColumns * R))
    (hprep : (s.prepareSide mdat).fRawFrames s.rawPingOrPong =
      (votedFov bs (fovNumColumns * R)).rawFov)
    (hsnr : s.fovSnrV2 = (votedFov bs (fovNumColumns * R)).snrSquaredFov)
    (hball : ballotOf s.fovIdx mdat v = .ok b) (hpos : b.Positive)
    (hcast : s.castBallot mdat b = .ok t) :
    Voted s.fovIdx s.rawPingOrPong R (bs ++ [b]) t := by
  obtain ⟨u, hu, traw, tsnr, tbase, tpp, tact⟩ := castBallot_inv hcast
  rw [hprep, hsnr] at hu
  have hfit := ballot_fits hR hspan hball hpos (by simp) hu
  rw [snrVoteV2_votedFov bs hfit (by simp only [numGpixelPhases, fovNumColumns, imageWidth]; omega)] at hu
  cases hu
  exact ⟨congrArg RawToDepth.fovIdx tbase, tpp, hR, fun b' hb' => (List.mem_append.1 hb').elim
    (hfits b') fun h => List.mem_singleton.1 h ▸ hfit, traw, tsnr, tact.trans hrows⟩

/-- **A later call keeps the invariant**, adding its ballot if it voted one. -/
theorem processOneRoiTraced_voted {s t : Grid} {r : RoiBuffer} {a : Admission} {i : Nat}
    {pp : Fin 2} {R : Nat} {bs : List Ballot} (hV : Voted i pp R bs s)
    (h : s.processOneRoiTraced r = .ok (t, a))
    (hopen : ∀ m, a.metadata = some m → m.getFirstRoi i = false)
    (hpos : ∀ b, a.ballot = some b → b.Positive) :
    Voted i pp R (bs ++ a.ballot.toList) t := by
  rcases processOneRoiTraced_inv h with ⟨rfl, rfl⟩ | ⟨hdr, s2, -, hs2, hrest⟩
  · simpa [Admission.ballot] using hV
  have hf : hdr.getMetadata.getFirstRoi s.fovIdx = false := by
    rw [hV.fovIdx]
    exact hopen _ (by rcases hrest with ⟨rfl, -⟩ | ⟨_, _, rfl, -⟩ <;> rfl)
  have e2 : s2 = { s with hdr, veryFirstRoiReceived := true } := by
    rcases hs2 with ⟨hf', -⟩ | ⟨-, e⟩
    · simp [hf] at hf'
    · exact e
  subst e2
  have hV2 : Voted i pp R bs { s with hdr, veryFirstRoiReceived := true } :=
    hV.of_frame ⟨rfl, rfl, rfl, rfl, rfl⟩
  rcases hrest with ⟨rfl, rfl | ht⟩ | ⟨s3, b, rfl, hs3, hb, hc⟩
  · simpa [Admission.ballot] using hV2
  · simpa [Admission.ballot] using hV2.of_frame (saveTimestamp_inv ht).1
  obtain ⟨hF, hok⟩ := saveTimestamp_inv hs3
  have hV3 := hV2.of_frame hF
  have e5 := hF.fovIdx
  obtain ⟨hlen, hspan⟩ := hok rfl
  rw [hV2.snr, length_votedFov_snrSquaredFov] at hlen
  dsimp only at hlen hspan e5
  rw [← e5] at hlen hspan
  have hrows : hdr.getMetadata.getFovNumRows s3.fovIdx = R := by
    simp only [fovNumColumns, imageWidth] at hlen; omega
  obtain ⟨kraw, -⟩ := @prepareSide_kept s3 hdr.getMetadata (by rw [e5]; exact hf)
    (fun f => by rw [hV3.rawPingOrPong, hV3.raw, hrows]; simp [numGpixelPhases, fovNumColumns, imageWidth]; ring)
    (by rw [hV3.rawPingOrPong, hV3.activeRows, hrows])
  have := castBallot_voted hV.rows hrows (by rwa [hrows] at hspan) hV3.fits
    (by rw [kraw, hV3.rawPingOrPong, hV3.raw]) hV3.snr hb (hpos b rfl) hc
  rwa [hV3.fovIdx, hV3.rawPingOrPong] at this

/-- **The first ROI opens the FOV**: its reset and the cleared side make it the only ballot. -/
theorem processOneRoiTraced_opens {s t : Grid} {r : RoiBuffer} {m : RtdMetadata} {b : Ballot}
    (h : s.processOneRoiTraced r = .ok (t, .voted m b)) (hf : m.getFirstRoi s.fovIdx = true)
    (hpos : b.Positive) : Voted s.fovIdx s.rawPingOrPong (m.getFovNumRows s.fovIdx) [b] t := by
  rcases processOneRoiTraced_inv h with ⟨h, -⟩ | ⟨hdr, s2, -, hs2, hrest⟩
  · cases h
  rcases hrest with ⟨h, -⟩ | ⟨s3, b', he, hs3, hb, hc⟩
  · cases h
  cases he
  have hreset : ({ s with hdr, veryFirstRoiReceived := true } : Grid).reset hdr.getMetadata =
      .ok s2 := by
    rcases hs2 with ⟨-, e⟩ | ⟨hf', -⟩
    · exact e
    · simp [hf] at hf'
  obtain ⟨f2, p2, snr2, -, -⟩ := reset_inv hreset
  obtain ⟨⟨-, -, e3, e4, e5⟩, hok⟩ := saveTimestamp_inv hs3
  obtain ⟨-, hspan⟩ := hok rfl
  dsimp only at f2 snr2
  rw [f2] at hspan e5
  have hR : hdr.getMetadata.getFovNumRows s.fovIdx < 2 ^ 12 := hdr.getMetadata.getmd_lt _
  have := @castBallot_voted _ _ _ _ _ [] _ hR (by rw [e5]) (by rwa [e5]) (by simp)
    (by rw [prepareSide_first (by rw [e5]; exact hf), votedFov_nil, e5]
        funext f; congr 1; simp only [numGpixelPhases]; ring)
    (by rw [e3, snr2, votedFov_nil]) hb hpos hc
  rwa [e5, e4, p2] at this

theorem filterMap_cons_toList {α β : Type} (f : α → Option β) (a : α) (l : List α) :
    (a :: l).filterMap f = (f a).toList ++ l.filterMap f := by
  cases h : f a <;> simp [List.filterMap_cons, h]

/-- **A run keeps the invariant**, adding the ballots it voted. -/
theorem processRoisTraced_voted {i : Nat} {pp : Fin 2} {R : Nat} :
    ∀ {rs : List RoiBuffer} {s t : Grid} {bs : List Ballot} {as : List Admission},
      Voted i pp R bs s → processRoisTraced s rs = .ok (t, as) →
      (∀ a ∈ as, ∀ m, a.metadata = some m → m.getFirstRoi i = false) →
      (∀ a ∈ as, ∀ b, a.ballot = some b → b.Positive) →
      Voted i pp R (bs ++ as.filterMap Admission.ballot) t
  | [], s, t, bs, as, hV, h, _, _ => by
    cases h
    simpa using hV
  | r :: rs, s, t, bs, as, hV, h, hopen, hpos => by
    obtain ⟨⟨t1, a⟩, h1, h⟩ := bind_eq_ok.1 h
    obtain ⟨⟨u, as'⟩, h2, h⟩ := bind_eq_ok.1 h
    cases h
    have hV1 := processOneRoiTraced_voted hV h1 (hopen a (List.mem_cons_self _ _))
      (hpos a (List.mem_cons_self _ _))
    have := processRoisTraced_voted hV1 h2 (fun a' ha' => hopen a' (List.mem_cons_of_mem _ ha'))
      (fun a' ha' => hpos a' (List.mem_cons_of_mem _ ha'))
    rwa [List.append_assoc, ← filterMap_cons_toList] at this

/-! ### The whole FOV -/

/-- **SNR voting is a per-pixel argmax.** Run `processOneRoi` over ROIs from the first ROI of
an FOV, which resets it and is voted as ballot `b`, with no later call resetting, every voted
triple having a positive minimum. Then the run is the fold of `processOneRoi`; the current
side and the SNR buffer are `votedFov` of the ballots in arrival order: at each FOV pixel the
best score, `max 0` over the covering ballots, and the triples of the earliest ballot reaching
it, zeros if none does; and when each pixel's best score is attained by one ballot only, the
ballots voted in any other order from the reset buffers give the same buffers. -/
theorem processRois_snrVote {s t : Grid} {r : RoiBuffer} {rs : List RoiBuffer} {m : RtdMetadata}
    {b : Ballot} {as : List Admission}
    (hrun : processRoisTraced s (r :: rs) = .ok (t, .voted m b :: as))
    (hfirst : m.getFirstRoi s.fovIdx = true)
    (hopen : ∀ a ∈ as, ∀ m', a.metadata = some m' → m'.getFirstRoi s.fovIdx = false)
    (hpos : ∀ b' ∈ b :: as.filterMap Admission.ballot, b'.Positive) :
    (r :: rs).foldlM processOneRoi s = .ok t ∧
      (⟨t.fRawFrames t.rawPingOrPong, t.fovSnrV2⟩ : Vote) =
        votedFov (b :: as.filterMap Admission.ballot) (fovNumColumns * m.getFovNumRows s.fovIdx) ∧
      ∀ bs : List Ballot, bs.Perm (b :: as.filterMap Admission.ballot) →
        UniqueMaxima (b :: as.filterMap Admission.ballot) →
        bs.foldlM (fun v b => snrVoteV2 b.roi0 b.roi1 v b.offset)
          (votedFov [] (fovNumColumns * m.getFovNumRows s.fovIdx)) =
          .ok ⟨t.fRawFrames t.rawPingOrPong, t.fovSnrV2⟩ := by
  obtain ⟨⟨t1, a⟩, h1, h⟩ := bind_eq_ok.1 hrun
  obtain ⟨⟨u, as'⟩, h2, h⟩ := bind_eq_ok.1 h
  cases h
  have hV := processRoisTraced_voted (processOneRoiTraced_opens h1 hfirst
    (hpos b (List.mem_cons_self _ _))) h2 hopen
    (fun a' ha' b' hb' => hpos b' (List.mem_cons_of_mem _ (List.mem_filterMap.2 ⟨a', ha', hb'⟩)))
  have hvote : (⟨t.fRawFrames t.rawPingOrPong, t.fovSnrV2⟩ : Vote) =
      votedFov (b :: as.filterMap Admission.ballot) (fovNumColumns * m.getFovNumRows s.fovIdx) := by
    rw [hV.rawPingOrPong, hV.raw, hV.snr]; rfl
  refine ⟨by rw [← processRoisTraced_fst, hrun]; rfl, hvote, fun bs hbs hu => ?_⟩
  rw [hvote, ← votedFov_perm hbs hu]
  exact snrVote_foldlM (by simp only [numGpixelPhases, fovNumColumns, imageWidth]; have := hV.rows; omega)
    bs fun b' hb' => hV.fits b' (hbs.mem_iff.1 hb')

/-- The metadata of an FOV of eight rows taken as two ROIs over the same eight rows:
`DEFAULT_METADATA` with its FOV `0` shrunk to 8 rows and 2 ROIs, and start/stop flags
`flags`. -/
def twoRoiMetadata (flags : Nat) : RtdMetadata :=
  (((RtdMetadata.defaultMetadata.set RtdMetadata.roiNumRowsOff 8).set
    (RtdMetadata.perFovOff 0 4) 8).set (RtdMetadata.perFovOff 0 5) 2).set
    (RtdMetadata.startStopFlagsOff 0) flags

/-- The raw words of an eight-row ROI: all `4`, a sample of `2`, but word `30721`, tap `B` of
pixel `0` in the second permutation image of `F0`, which is `w`. -/
def twoRoiData (w : UInt16) : List UInt16 := (List.replicate 92160 4).set 30721 w

/-- The first ROI, flagged first: its `F0` sums at pixel `0` are `(8, 6, 6)`. -/
def firstOfTwo : RoiBuffer := ⟨twoRoiMetadata 1, twoRoiData 8⟩

/-- The last ROI, over the same rows and flagged last: its `F0` sums at pixel `0` are
`(10, 6, 6)`. -/
def lastOfTwo : RoiBuffer := ⟨twoRoiMetadata 2, twoRoiData 12⟩

theorem twoRoiMetadata_getmd (flags : Nat) {off : Nat}
    (h : off ≠ RtdMetadata.startStopFlagsOff 0) :
    (twoRoiMetadata flags).getmd off = (twoRoiMetadata 0).getmd off := by
  rw [twoRoiMetadata, twoRoiMetadata, RtdMetadata.getmd_set_ne _ _ h,
    RtdMetadata.getmd_set_ne _ _ h]

theorem length_twoRoiData (w : UInt16) : (twoRoiData w).length = 92160 :=
  (List.length_set _ _ _).trans (List.length_replicate _ _)

theorem getD_twoRoiData (w : UInt16) {k : Nat} (hk : k < 92160) :
    (sh2f (twoRoiData w) inputRawShift rawPixelMask).getD k 0 =
      if k = 30721 then rawValue inputRawShift rawPixelMask w else 2 := by
  rw [List.getD_eq_getElem?_getD, sh2f, List.getElem?_map, twoRoiData, List.getElem?_set,
    List.length_replicate, List.getElem?_replicate]
  by_cases h : k = 30721
  · subst h; rfl
  · rw [if_neg (Ne.symm h), if_neg h, if_pos hk]; rfl

/-- The ballot of such data, as an eight-row ROI at the top of FOV `0`, covers FOV pixel `0`
and scores there the squared SNR of its `F0` sums `(x + 4, 6, 6)`, `x` the sample of `w`; its
`F1` sums `(6, 6, 6)` score zero. -/
theorem ballotOf_twoRoiData {md : RtdMetadata} (w : UInt16) (hd : md.getDoTapAccumulation = true)
    (hrows : md.getRoiNumRows = 8) (hstart : md.getRoiStartRow = 0)
    (hfov : md.getFovStartRow 0 = 0) (hw : 0 < rawValue inputRawShift rawPixelMask w) :
    ∃ b, ballotOf 0 md (sh2f (twoRoiData w) inputRawShift rawPixelMask) = .ok b ∧ b.Positive ∧
      b.Covers 0 ∧ b.score 0 = snrValue (rawValue inputRawShift rawPixelMask w + 4) 6 6 := by
  have hlen : (sh2f (twoRoiData w) inputRawShift rawPixelMask).length =
      RawToDepth.announcedShorts md := by
    rw [length_sh2f, length_twoRoiData, RawToDepth.announcedShorts,
      numPermutations_of_tapAccumulation hd, hrows]; rfl
  have hoff : u32 (((md.getRoiStartRow : Int) - md.getFovStartRow 0) * roiNumColumns) = 0 := by
    rw [hstart, hfov]; rfl
  refine ⟨_, ballotOf_eq hd hlen, ballotOf_positive (ballotOf_eq hd hlen) hd (fun x hx => ?_) hlen,
    ?_, ?_⟩
  · obtain ⟨y, hy, rfl⟩ := List.mem_map.1 hx
    rcases List.mem_or_eq_of_mem_set hy with h | rfl
    · rw [List.eq_of_mem_replicate h]; decide
    · exact hw
  · simp only [Ballot.Covers, Ballot.numPixels, hoff, tapRotated, length_flatMap_cyclicSum, hrows]
    decide
  · have e : 2 + rawValue inputRawShift rawPixelMask w + 2 =
        rawValue inputRawShift rawPixelMask w + 4 := by omega
    simp only [Ballot.score, hoff, Nat.sub_self]
    rw [tripleScore_tapRotated (by rw [hrows]; decide),
      tripleScore_tapRotated (by rw [hrows]; decide)]
    simp (disch := omega) only [cyclicSum, hrows, roiNumColumns, imageWidth, numGpixelPhases,
      List.getD_cons_zero, List.getD_cons_succ, getD_twoRoiData]
    norm_num [e, snrValue]

theorem processRois_snrVote_twoRois :
    ∃ g t bA bB, create 0 = .ok g ∧
      g.processRoisTraced [firstOfTwo, lastOfTwo] =
        .ok (t, [.voted firstOfTwo.md bA, .voted lastOfTwo.md bB]) ∧
      bA.Covers 0 ∧ bB.Covers 0 ∧ bA.score 0 = 1 / 3 ∧ bB.score 0 = 4 / 3 ∧
      (⟨t.fRawFrames t.rawPingOrPong, t.fovSnrV2⟩ : Vote) =
        votedFov [bA, bB] (fovNumColumns * 8) ∧ bestScore [bA, bB] 0 = 4 / 3 := by
  have hA : firstOfTwo.data.length = 92160 := length_twoRoiData 8
  have hB : lastOfTwo.data.length = 92160 := length_twoRoiData 12
  obtain ⟨g, hg, hfov, -, hvf, -, -⟩ := create_ok 0
  -- the first ROI opens the FOV
  obtain ⟨t1, bA, h1, hbA, f1, -, v1, -, c1, -, -, r1, R1⟩ := @processOneRoiTraced_first g firstOfTwo
    (by rw [RawToDepth.validateMetadata, RoiBuffer.numBytes, hA, hvf, hfov]; decide)
    (by decide) (by rw [hfov]; decide) (by decide) (by decide) (by rw [hfov]; decide)
    (by rw [hfov]; decide) (by rw [hfov]; decide) (by rw [hfov]; decide)
    (by rw [hfov]; decide) (by decide) (by rw [hA]; decide)
  rw [hfov] at f1 hbA
  -- the second, flagged last only, is voted into the open FOV
  have hagree : ∀ off, off ≠ RtdMetadata.startStopFlagsOff 0 →
      firstOfTwo.md.getmd off = lastOfTwo.md.getmd off := fun off h =>
    (twoRoiMetadata_getmd 1 h).trans (twoRoiMetadata_getmd 2 h).symm
  have R2 : t1.Ready lastOfTwo.md := R1.of_agree (fun k => hagree _ (by
      rw [f1]; simp only [RtdMetadata.perFovOff, RtdMetadata.startStopFlagsOff]; omega))
    (hagree _ (by decide)) (hagree _ (by decide)) (hagree _ (by decide))
  obtain ⟨t, bB, h2, hbB, -⟩ := @processOneRoiTraced_next t1 lastOfTwo
    (by rw [RawToDepth.validateMetadata, RoiBuffer.numBytes, hB, v1, f1]; decide)
    (by decide) (by rw [f1]; decide) R2 (by rw [f1]; decide) (by rw [c1]; decide)
    (by rw [c1, R2.configured.timestamps, f1]; decide) (.inl (by rw [r1]; decide))
    (by rw [f1]; decide) (by rw [f1]; decide) (by decide) (by rw [hB]; decide)
  rw [f1] at hbB
  have hrun := processRoisTraced_cons h1
    (processRoisTraced_cons h2 (show processRoisTraced t [] = .ok (t, []) from rfl))
  -- the two ballots
  obtain ⟨bA', hA', pA, cA, sA⟩ := ballotOf_twoRoiData 8
    (show firstOfTwo.md.getDoTapAccumulation = true by decide) (by decide) (by decide) (by decide)
    (by decide)
  obtain ⟨bB', hB', pB, cB, sB⟩ := ballotOf_twoRoiData 12
    (show lastOfTwo.md.getDoTapAccumulation = true by decide) (by decide) (by decide) (by decide)
    (by decide)
  obtain rfl := Except.ok.inj (hbA.symm.trans hA')
  obtain rfl := Except.ok.inj (hbB.symm.trans hB')
  have sA' : bA.score 0 = 1 / 3 := by
    rw [sA, show rawValue inputRawShift rawPixelMask 8 = 4 by decide]; norm_num [snrValue]
  have sB' : bB.score 0 = 4 / 3 := by
    rw [sB, show rawValue inputRawShift rawPixelMask 12 = 6 by decide]; norm_num [snrValue]
  refine ⟨g, t, bA, bB, hg, hrun, cA, cB, sA', sB', ?_, ?_⟩
  · have := (processRois_snrVote hrun (by rw [hfov]; decide)
      (fun a ha m hm => by
        simp only [List.mem_singleton] at ha
        subst ha
        cases hm
        rw [hfov]; decide)
      (fun b hb => by
        simp only [List.filterMap_cons, List.filterMap_nil, Admission.ballot, Option.toList,
          List.mem_cons, List.mem_singleton, List.not_mem_nil, or_false] at hb
        rcases hb with rfl | rfl <;> assumption)).2.1
    rwa [hfov, show firstOfTwo.md.getFovNumRows 0 = 8 by decide] at this
  · simp only [bestScore, covering, List.filter_cons, cA, cB, decide_True, if_true,
      List.filter_nil, List.map_cons, List.map_nil, List.foldl_cons, List.foldl_nil, sA', sB']
    norm_num

end Grid

end Cobra
