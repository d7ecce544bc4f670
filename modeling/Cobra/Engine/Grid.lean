import Cobra.Engine.Base
import Cobra.SnrVote

/-!
# The Grid Engine

`RawToDepthV2_float`, as far as its per-ROI path reads and writes it: the HDR stage, `reset`
and the two `realloc`s on the first ROI of an FOV, the consistency checks of
`saveTimestamp`, tap rotation, SNR voting into the ping/pong buffers, and the row and
ROI-index bookkeeping of `processOneRoi`. `processWholeFrame` is modelled on the ROI thread's
side: it toggles the ping/pong index and hands the worker a `Job`.

Every buffer access goes through `readAt` and `writeAt`, so an index the code computes out of
range is a `Fault` of the model. Fields that only the whole-frame DSP reads (filter kernels,
ghost-filter flags) are left out. The outer vector of `_fRawFrames[q]` starts empty in the
source; the model starts it as two empty frequency buffers, which `MAKE_VECTOR2` treats alike
for every size the constructor can request.

## Main results

* `validateMetadata_false`: an ROI that fails `validateMetadata` leaves the engine unchanged.
* `realloc_ok`: `RawToDepthV2_float::realloc` sizes both ping/pong sides for the new FOV and
  touches nothing else.
* `processOneRoi_error_of_f0`: a first ROI whose `f0` index is past the frequency table, with
  HDR disabled, faults in `getGcf`.
* `voteRoi_ok`: the data path never faults on an ROI of the announced size whose rows lie in
  the FOV and the image, and writes only the current ping/pong side.
* `processOneRoi_first`: what a first ROI leaves behind: a fresh FOV with one ROI counted and
  both ping/pong sides sized for the FOV.
* `processOneRoiTraced_first`, `processOneRoiTraced_next`: a first ROI leaves its FOV `Ready`
  for the checks of `saveTimestamp` (`saveTimestamp_accepts`), and a later ROI of a ready FOV
  is voted and keeps it ready. Both end in `saveTimestamp_voted`: an accepted ROI of a ready
  FOV is voted as its ballot and the FOV stays ready.
* `processRoisTraced_fst`: `processRoisTraced`, which records what each call did (its
  `Admission`), returns what folding `processOneRoi` returns; `voteRoi_eq` cuts the data path
  at the ballot it votes.
-/

namespace Cobra

open Function RawToDepthDsp

/-- What the ROI thread hands the worker in `processWholeFrame`: the ping/pong side it will
read, and the fields `localProcessFrame` checks before it publishes a `FovSegment`. -/
structure Job where
  side : Fin 2
  disableRtd : Bool
  incompleteFov : Bool
  fovNumRois : Nat
  lastRoiIdx : Int
  lastRoiReceived : Bool
  deriving DecidableEq, Repr

/-- The checks at the top of `localProcessFrame`: it publishes exactly when they pass. -/
def Job.publishes (j : Job) : Bool :=
  !j.disableRtd && !j.incompleteFov && (j.fovNumRois : Int) == j.lastRoiIdx + 1 &&
    j.lastRoiReceived

/-- The state of one grid engine: the base class and the ping/pong buffers. -/
structure Grid extends RawToDepth where
  /-- `_fRawFrames[pingPong][frequency]`. -/
  fRawFrames : Fin 2 → Fin 2 → List Nat
  activeRows : Fin 2 → List Bool
  roiIndexFrames : Fin 2 → List Int
  fovSnrV2 : List Snr
  rawPingOrPong : Fin 2

namespace Grid

/-! ### Buffer sizing -/

/-- `RawToDepthV2_float::bufferSizesChanged`: the base checks, then the ping/pong buffers. -/
def bufferSizesChanged (s : Grid) (m : RtdMetadata) : Except Fault Bool := do
  if ← s.toRawToDepth.bufferSizesChanged m then return true
  let rows := m.getFovNumRows s.fovIdx
  return (s.activeRows 0).length ≠ rows || (s.activeRows 1).length ≠ rows ||
    (s.roiIndexFrames 0).length ≠ maxImageHeight * imageWidth ||
    (s.roiIndexFrames 1).length ≠ maxImageHeight * imageWidth ||
    s.fovSnrV2.length ≠ fovNumColumns * rows

/-- `RawToDepthV2_float::realloc`: `MAKE_VECTOR2` on both ping/pong sides of the raw frames,
`MAKE_VECTOR` on both sides of the row and ROI-index buffers, a zeroed FOV SNR buffer. When
nothing was resized, `bufferSizesChanged` still runs (to decide a pool flush the model has no
use for), with its table reads. -/
def realloc (s : Grid) (m : RtdMetadata) : Except Fault Grid := do
  let rows := m.getFovNumRows s.fovIdx
  let raw := fun q => resize2 (s.fRawFrames q) (numGpixelPhases * fovNumColumns * rows) 0
  let act := fun q => makeVector (s.activeRows q) rows false
  let idx := fun q => makeVector (s.roiIndexFrames q) (maxImageHeight * imageWidth) 0
  let snr := makeVector s.fovSnrV2 (fovNumColumns * rows) (.fin 0)
  let changed := (raw 0).2 || (raw 1).2 || (act 0).2 || (act 1).2 || (idx 0).2 || (idx 1).2 ||
    snr.2
  let s := { s with
    fRawFrames := fun q => (raw q).1
    activeRows := fun q => (act q).1
    roiIndexFrames := fun q => (idx q).1
    fovSnrV2 := List.replicate (fovNumColumns * rows) (.fin 0) }
  if !changed then
    let _ ← s.bufferSizesChanged m
  return s

/-- `RawToDepthV2_float::reset`, called on the first ROI of an FOV: the base `reset`, then
this class's `realloc`. -/
def reset (s : Grid) (m : RtdMetadata) : Except Fault Grid := do
  let b ← s.toRawToDepth.reset m
  ({ s with toRawToDepth := b } : Grid).realloc m

/-- The constructor: the base constructor, empty ping/pong buffers, then `realloc` on
`DEFAULT_METADATA`. -/
def create (fovIdx : Nat) : Except Fault Grid := do
  let b ← RawToDepth.create fovIdx
  ({ toRawToDepth := b, fRawFrames := fun _ _ => [], activeRows := fun _ => [],
     roiIndexFrames := fun _ => [], fovSnrV2 := [], rawPingOrPong := 0 } : Grid).realloc
    RtdMetadata.defaultMetadata

/-! ### Per-ROI processing -/

/-- `RawToDepthV2_float::saveTimestamp`: the base checks, then the tags, the FOV geometry,
the buffer sizes, the ROI's span, the FOV start row and the ROI start rows seen so far. -/
def saveTimestamp (s : Grid) (m : RtdMetadata) : Except Fault (Bool × Grid) := do
  let (ok, b) := s.toRawToDepth.saveTimestamp m
  let s := { s with toRawToDepth := b }
  if !ok then return (false, s)
  let skip : Bool × Grid := (false, { s with incompleteFov := true })
  let i := s.fovIdx
  if m.getScanTableTag ≠ s.expectedScanTableTag then return skip
  if m.getRandomFovTag i ≠ s.expectedFovTag then return skip
  if m.getFovNumRois i ≠ s.expectedNumRois ∨
      s.sensorFovStart ≠ (m.getFovStartRow i, fovStartColumn) ∨
      s.sensorFovSize ≠ (m.getFovNumRows i, fovNumColumns) ∨
      s.sensorFovStep ≠ (m.getBinningY i, m.getBinningX i) then return skip
  if ← s.bufferSizesChanged m then return skip
  if (m.getRoiStartRow : Int) - m.getFovStartRow i + m.getRoiNumRows > m.getFovNumRows i then
    return skip
  if s.fovStartRow ≠ m.getFovStartRow i then return skip
  if m.getRoiStartRow ∉ s.roiStartRows ∧ m.getFovNumRows i ≤ s.roiStartRows.length then
    return skip
  if m.getRoiStartRow ∈ s.roiStartRows then return (true, s)
  return (true, { s with roiStartRows := s.roiStartRows ++ [m.getRoiStartRow] })

/-- The inner loop of `processOneRoi`: mark row `rowIdx` of the FOV active and stamp its 640
pixels of the ROI-index frame with the ROI's index. -/
def rowStep (pp : Fin 2) (roiStartRow fovStartRow : Nat) (rowIdx : Nat) (s : Grid) :
    Except Fault Grid := do
  let act ← writeAt .activeRows (s.activeRows pp)
    (sizeT ((roiStartRow : Int) - fovStartRow + rowIdx)) true
  let idx ← forLoop roiNumColumns (fun colIdx frame =>
      writeAt .roiIndexFrames frame
        (u32 (((roiStartRow + rowIdx) * imageWidth + fovStartColumn + colIdx : Nat) : Int))
        s.currentRoiIdx)
    (s.roiIndexFrames pp)
  return { s with activeRows := update s.activeRows pp act,
                  roiIndexFrames := update s.roiIndexFrames pp idx }

/-- The sizing of the current ping/pong side in `processOneRoi`: `MAKE_VECTOR2` on its raw
frames and `MAKE_VECTOR` on its row buffer, then, after a resize or on a first ROI, the fills
that clear the side (the ROI-index frame to `-1`). -/
def prepareSide (s : Grid) (mdat : RtdMetadata) : Grid :=
  let i := s.fovIdx
  let pp := s.rawPingOrPong
  let raw := resize2 (s.fRawFrames pp) (numGpixelPhases * mdat.getFovNumRows i * fovNumColumns) 0
  let act := makeVector (s.activeRows pp) (mdat.getFovNumRows i) false
  if raw.2 || act.2 || mdat.getFirstRoi i then
    { s with
      fRawFrames := update s.fRawFrames pp fun f => List.replicate (raw.1 f).length 0
      activeRows := update s.activeRows pp (List.replicate act.1.length false)
      roiIndexFrames := update s.roiIndexFrames pp
        (List.replicate (s.roiIndexFrames pp).length (-1)) }
  else { s with fRawFrames := update s.fRawFrames pp raw.1,
                activeRows := update s.activeRows pp act.1 }

/-- The data path of `processOneRoi` once the ROI is accepted: rotate the taps of both
frequencies, prepare the current ping/pong side, SNR-vote the ROI into it, and mark its
rows. -/
def voteRoi (s : Grid) (mdat : RtdMetadata) (roiVector : List Nat) : Except Fault Grid := do
  let i := s.fovIdx
  let rows := mdat.getRoiNumRows
  let frame := List.replicate (numGpixelPhases * rows * roiNumColumns) 0
  let roi0 ← tapRotation roiVector frame 0 rows roiNumColumns numGpixelPhases
    mdat.getDoTapAccumulation
  let roi1 ← tapRotation roiVector frame 1 rows roiNumColumns numGpixelPhases
    mdat.getDoTapAccumulation
  let s := s.prepareSide mdat
  let pp := s.rawPingOrPong
  let v ← snrVoteV2 roi0 roi1 ⟨s.fRawFrames pp, s.fovSnrV2⟩
    (u32 (((mdat.getRoiStartRow : Int) - mdat.getFovStartRow i) * roiNumColumns))
  let s := { s with fRawFrames := update s.fRawFrames pp v.rawFov, fovSnrV2 := v.snrSquaredFov }
  forLoop rows (rowStep pp mdat.getRoiStartRow (mdat.getFovStartRow i)) s

/-- The ballot `voteRoi` casts for an ROI: the two tap-rotated frequencies, and the FOV pixel
of the ROI's first pixel, `(roiStartRow - fovStartRow) * 640` as a `uint32_t`. -/
def ballotOf (i : Nat) (mdat : RtdMetadata) (roiVector : List Nat) : Except Fault Ballot := do
  let rows := mdat.getRoiNumRows
  let frame := List.replicate (numGpixelPhases * rows * roiNumColumns) 0
  let roi0 ← tapRotation roiVector frame 0 rows roiNumColumns numGpixelPhases
    mdat.getDoTapAccumulation
  let roi1 ← tapRotation roiVector frame 1 rows roiNumColumns numGpixelPhases
    mdat.getDoTapAccumulation
  return ⟨u32 (((mdat.getRoiStartRow : Int) - mdat.getFovStartRow i) * roiNumColumns), roi0, roi1⟩

/-- The rest of `voteRoi` once the ballot is cast: prepare the current side, vote the ballot
into it, and mark the ROI's rows. -/
def castBallot (s : Grid) (mdat : RtdMetadata) (b : Ballot) : Except Fault Grid := do
  let i := s.fovIdx
  let s := s.prepareSide mdat
  let pp := s.rawPingOrPong
  let v ← snrVoteV2 b.roi0 b.roi1 ⟨s.fRawFrames pp, s.fovSnrV2⟩ b.offset
  let s := { s with fRawFrames := update s.fRawFrames pp v.rawFov, fovSnrV2 := v.snrSquaredFov }
  forLoop mdat.getRoiNumRows (rowStep pp mdat.getRoiStartRow (mdat.getFovStartRow i)) s

/-- `RawToDepthV2_float::processOneRoi`: validate, pass the ROI through the HDR stage, reset
on the first ROI of an FOV (from the delayed metadata), and unless HDR holds the ROI back or
`saveTimestamp` skips it, run the data path on the delayed ROI. -/
def processOneRoi (s : Grid) (r : RoiBuffer) : Except Fault Grid := do
  if !s.toRawToDepth.validateMetadata r then return s
  let hdr ← s.hdr.submit r (!s.veryFirstRoiReceived) inputRawShift
  let mdat := hdr.getMetadata
  let s := { s with hdr, veryFirstRoiReceived := true }
  let s ← if mdat.getFirstRoi s.fovIdx then s.reset mdat else pure s
  if hdr.skip then return s
  let (ok, s) ← s.saveTimestamp mdat
  if !ok then return s
  s.voteRoi mdat hdr.getRoi

/-- What `processOneRoi` made of one ROI, as far as the SNR vote is concerned. -/
inductive Admission where
  /-- The ROI failed `validateMetadata`. -/
  | invalid
  /-- The HDR stage released metadata `mdat`, and no ROI was voted: HDR held it back, or
  `saveTimestamp` skipped it. -/
  | held (mdat : RtdMetadata)
  /-- The ROI the HDR stage released with metadata `mdat` was voted as `b`. -/
  | voted (mdat : RtdMetadata) (b : Ballot)

/-- The delayed metadata the HDR stage released, if the ROI got that far. -/
def Admission.metadata : Admission → Option RtdMetadata
  | invalid => none
  | held m | voted m _ => some m

/-- The ballot voted, if any. -/
def Admission.ballot : Admission → Option Ballot
  | voted _ b => some b
  | _ => none

/-- `processOneRoi` with what it did recorded: the same steps, with `voteRoi` split at its
ballot (`voteRoi_eq`). -/
def processOneRoiTraced (s : Grid) (r : RoiBuffer) : Except Fault (Grid × Admission) := do
  if !s.toRawToDepth.validateMetadata r then return (s, .invalid)
  let hdr ← s.hdr.submit r (!s.veryFirstRoiReceived) inputRawShift
  let mdat := hdr.getMetadata
  let s := { s with hdr, veryFirstRoiReceived := true }
  let s ← if mdat.getFirstRoi s.fovIdx then s.reset mdat else pure s
  if hdr.skip then return (s, .held mdat)
  let (ok, s) ← s.saveTimestamp mdat
  if !ok then return (s, .held mdat)
  let b ← ballotOf s.fovIdx mdat hdr.getRoi
  let s ← s.castBallot mdat b
  return (s, .voted mdat b)

/-- ROIs handed to `processOneRoi` one after another, with what each call did. -/
def processRoisTraced : Grid → List RoiBuffer → Except Fault (Grid × List Admission)
  | s, [] => pure (s, [])
  | s, r :: rs => do
    let (t, a) ← s.processOneRoiTraced r
    let (u, as) ← processRoisTraced t rs
    return (u, a :: as)

/-- `processWholeFrame` on the ROI thread: hand the current ping/pong side and a copy of the
checked fields to the worker, and toggle `_rawPingOrPong` for the next FOV. -/
def processWholeFrame (s : Grid) : Grid × Job :=
  ({ s with rawPingOrPong := toggle s.rawPingOrPong },
   { side := s.rawPingOrPong, disableRtd := s.disableRtd, incompleteFov := s.incompleteFov,
     fovNumRois := s.expectedNumRois, lastRoiIdx := s.currentRoiIdx,
     lastRoiReceived := s.lastRoiReceived })

/-! ### What a step of the engine can do -/

theorem voteRoi_eq (s : Grid) (mdat : RtdMetadata) (roiVector : List Nat) :
    s.voteRoi mdat roiVector = ballotOf s.fovIdx mdat roiVector >>= s.castBallot mdat := by
  simp only [voteRoi, ballotOf, castBallot, bind_assoc, pure_bind]

/-- The traced step computes what `processOneRoi` computes. -/
theorem processOneRoiTraced_fst (s : Grid) (r : RoiBuffer) :
    Prod.fst <$> s.processOneRoiTraced r = s.processOneRoi r := by
  simp only [processOneRoiTraced, processOneRoi, voteRoi_eq]
  split_ifs
  · rfl
  cases s.hdr.submit r (!s.veryFirstRoiReceived) inputRawShift with
  | error e => rfl
  | ok hdr => simp only [ok_bind, map_bind, map_pure, bind_pure, apply_ite (Functor.map Prod.fst)]

/-- **The traced run refines the engine**: it returns what folding `processOneRoi` over the
ROIs returns. -/
theorem processRoisTraced_fst (s : Grid) (rs : List RoiBuffer) :
    Prod.fst <$> processRoisTraced s rs = rs.foldlM processOneRoi s := by
  induction rs generalizing s with
  | nil => rfl
  | cons r rs ih =>
    rw [List.foldlM_cons, ← processOneRoiTraced_fst, processRoisTraced]
    simp only [map_bind, bind_map_left, ← ih, map_pure, bind_pure_comp, Functor.map_map]

/-- A run is its first call followed by the run of the rest. -/
theorem processRoisTraced_cons {s t u : Grid} {r : RoiBuffer} {rs : List RoiBuffer} {a : Admission}
    {as : List Admission} (h : s.processOneRoiTraced r = .ok (t, a))
    (hs : processRoisTraced t rs = .ok (u, as)) :
    processRoisTraced s (r :: rs) = .ok (u, a :: as) := by
  simp only [processRoisTraced, h, hs, ok_bind, pure_eq_ok]

/-- **An ROI that fails `validateMetadata` changes nothing.** -/
theorem validateMetadata_false {s : Grid} {r : RoiBuffer}
    (h : s.toRawToDepth.validateMetadata r = false) : s.processOneRoi r = .ok s := by
  simp [processOneRoi, h]

variable {m : RtdMetadata}

theorem bufferSizesChanged_ok (h0 : m.getF0ModulationIndex < 11)
    (h1 : m.getF1ModulationIndex < 11) (s : Grid) : ∃ b, s.bufferSizesChanged m = .ok b := by
  obtain ⟨b, hb⟩ := s.toRawToDepth.bufferSizesChanged_ok h0 h1
  simp only [bufferSizesChanged, hb, ok_bind]
  split_ifs <;> exact ⟨_, rfl⟩

/-- **`realloc` sizes both sides.** On in-range indices it succeeds, gives both frequency
buffers of both ping/pong sides three samples per FOV pixel and both row buffers one entry
per FOV row, and leaves the base class and the ping/pong index alone. -/
theorem realloc_ok (h0 : m.getF0ModulationIndex < 11) (h1 : m.getF1ModulationIndex < 11)
    (s : Grid) :
    ∃ s', s.realloc m = .ok s' ∧ s'.toRawToDepth = s.toRawToDepth ∧
      s'.rawPingOrPong = s.rawPingOrPong ∧
      (∀ q f, (s'.fRawFrames q f).length =
        numGpixelPhases * fovNumColumns * m.getFovNumRows s.fovIdx) ∧
      (∀ q, (s'.activeRows q).length = m.getFovNumRows s.fovIdx) ∧
      (∀ q, (s'.roiIndexFrames q).length = maxImageHeight * imageWidth) ∧
      s'.fovSnrV2.length = fovNumColumns * m.getFovNumRows s.fovIdx := by
  choose f hf using bufferSizesChanged_ok h0 h1
  simp only [realloc]
  split_ifs <;> simp only [hf, ok_bind, pure_eq_ok] <;>
    exact ⟨_, rfl, rfl, by simp, by simp, by simp, by simp⟩

/-- **The constructor never faults**, and leaves a fresh engine: no ROI received yet, an
empty HDR stage, ping/pong side `0`. -/
theorem create_ok (fovIdx : Nat) :
    ∃ g, create fovIdx = .ok g ∧ g.fovIdx = fovIdx ∧ g.hdr = {} ∧
      g.veryFirstRoiReceived = false ∧ g.rawPingOrPong = 0 ∧ g.prevRoiWasLast = false := by
  have hf0 : RtdMetadata.defaultMetadata.getF0ModulationIndex < 11 := by decide
  have hf1 : RtdMetadata.defaultMetadata.getF1ModulationIndex < 11 := by decide
  obtain ⟨gcf, hgcf⟩ := @GPixel.getGcf_ok 7 8 (by decide) (by decide)
  obtain ⟨b, hb, e1⟩ := RawToDepth.realloc_ok hf0 hf1
    (RawToDepth.initial fovIdx gcf (GPixel.idxToFrqLut[7], GPixel.idxToFrqLut[8]))
  obtain ⟨g, hg, e2, e3, -⟩ := realloc_ok hf0 hf1
    { toRawToDepth := b, fRawFrames := fun _ _ => [], activeRows := fun _ => [],
      roiIndexFrames := fun _ => [], fovSnrV2 := [], rawPingOrPong := 0 }
  refine ⟨g, ?_, ?_⟩
  · simp only [create, RawToDepth.create, hgcf,
      readAt_of_lt (show 7 < GPixel.idxToFrqLut.length by decide),
      readAt_of_lt (show 8 < GPixel.idxToFrqLut.length by decide), ok_bind, hb, hg]
  · simp_all [RawToDepth.initial]

/-- A first ROI whose `f0` index lies past the frequency table reaches `getGcf` through
`reset` and faults reading `IDX_TO_FRQ_LUT[f0]`; with HDR disabled the ROI is processed in
the call that delivers it. -/
theorem processOneRoi_error_of_f0 {s : Grid} {r : RoiBuffer}
    (hv : s.toRawToDepth.validateMetadata r = true) (hd : r.md.isHdrDisabled = true)
    (hf : r.md.getFirstRoi s.fovIdx = true) (h11 : 11 ≤ r.md.getF0ModulationIndex) :
    s.processOneRoi r = .error ⟨.idxToFrqLut, r.md.getF0ModulationIndex, 11⟩ := by
  simp [processOneRoi, hv, Hdr.submit_disabled hd, Hdr.getMetadata, hf, reset,
    RawToDepth.reset, RawToDepth.realloc, GPixel.getGcf_of_eleven_le _ h11]

/-! ### The data path -/

/-- The engine holds FOV `m`'s configuration, and both ping/pong sides, the ROI-index frames
and the SNR buffer are sized for it: what `saveTimestamp` compares an ROI against before it
accepts it, and what the data path writes into. -/
structure Ready (s : Grid) (m : RtdMetadata) : Prop where
  configured : s.toRawToDepth.Configured m
  fRawFrames : ∀ q f, (s.fRawFrames q f).length =
    numGpixelPhases * fovNumColumns * m.getFovNumRows s.fovIdx
  activeRows : ∀ q, (s.activeRows q).length = m.getFovNumRows s.fovIdx
  roiIndexFrames : ∀ q, (s.roiIndexFrames q).length = maxImageHeight * imageWidth
  fovSnrV2 : s.fovSnrV2.length = fovNumColumns * m.getFovNumRows s.fovIdx

/-- Readiness reads only the FOV's block, the modulation indices and the scan-table tag of the
metadata. -/
theorem Ready.of_agree {s : Grid} {m' : RtdMetadata} (h : s.Ready m)
    (hfov : ∀ k, m.getsmd s.fovIdx k = m'.getsmd s.fovIdx k)
    (h0 : m.getF0ModulationIndex = m'.getF0ModulationIndex)
    (h1 : m.getF1ModulationIndex = m'.getF1ModulationIndex)
    (htag : m.getScanTableTag = m'.getScanTableTag) : s.Ready m' := by
  have hr : m.getFovNumRows s.fovIdx = m'.getFovNumRows s.fovIdx := hfov 4
  exact ⟨h.configured.of_agree hfov h0 h1 htag, hr ▸ h.fRawFrames, hr ▸ h.activeRows,
    h.roiIndexFrames, hr ▸ h.fovSnrV2⟩

/-- Counting an ROI and recording start rows keeps the FOV ready. -/
theorem Ready.saveTimestamp {s : Grid} (h : s.Ready m) (m' : RtdMetadata) (rs : List Nat) :
    ({ s with toRawToDepth :=
      { (s.toRawToDepth.saveTimestamp m').2 with roiStartRows := rs } } : Grid).Ready m := by
  have hf : (s.toRawToDepth.saveTimestamp m').2.fovIdx = s.fovIdx :=
    (RawToDepth.saveTimestamp_frameCompleted s.toRawToDepth).2.1
  refine ⟨{ h.configured.saveTimestamp m' with }, ?_, ?_, h.roiIndexFrames, ?_⟩ <;>
    dsimp only <;> rw [hf]
  exacts [h.fRawFrames, h.activeRows, h.fovSnrV2]

/-- **`saveTimestamp` accepts an ROI of a ready FOV** whose rows fit the FOV, while the FOV has
room for it: a timestamp slot for its index, and its start row seen before or room for one
more. It counts the ROI and records its start row if the row is new. -/
theorem saveTimestamp_accepts {s : Grid} (h : s.Ready m)
    (hd : m.getDisableRtd s.fovIdx = false) (hc : -1 ≤ s.currentRoiIdx)
    (ht : sizeT (s.currentRoiIdx + 1) < s.timestamps.length)
    (hroom : m.getRoiStartRow ∈ s.roiStartRows ∨ s.roiStartRows.length < m.getFovNumRows s.fovIdx)
    (hspan : (m.getRoiStartRow : Int) - m.getFovStartRow s.fovIdx + m.getRoiNumRows ≤
      m.getFovNumRows s.fovIdx) :
    s.saveTimestamp m = .ok (true, { s with toRawToDepth :=
      { (s.toRawToDepth.saveTimestamp m).2 with roiStartRows :=
        if m.getRoiStartRow ∈ s.roiStartRows then s.roiStartRows
        else s.roiStartRows ++ [m.getRoiStartRow] } }) := by
  have hb := h.configured
  have hc' : 0 ≤ s.currentRoiIdx + 1 := by omega
  have ht' : ¬ m.getFovNumRois s.fovIdx ≤ sizeT (s.currentRoiIdx + 1) := by
    rw [← hb.timestamps]; omega
  have hroom' : m.getRoiStartRow ∉ s.roiStartRows →
      ¬ m.getFovNumRows s.fovIdx ≤ s.roiStartRows.length := fun hm => by
    have := hroom.resolve_left hm; omega
  by_cases hm : m.getRoiStartRow ∈ s.roiStartRows <;>
    simp [saveTimestamp, RawToDepth.saveTimestamp, hd, hc', ht', hb.expectedScanTableTag,
      hb.expectedFovTag, hb.expectedNumRois, hb.sensorFovStart, hb.sensorFovSize,
      hb.sensorFovStep, bufferSizesChanged, RawToDepth.bufferSizesChanged, hb.size, hb.binning,
      hb.fs0, hb.fs1, hb.gcf, hb.fovStartRow, hb.timestamps, h.activeRows, h.roiIndexFrames,
      h.fovSnrV2, Int.not_lt.2 hspan, hm, hroom']

/-- `s'` is `s` with only the contents of ping/pong side `pp` and of the FOV SNR buffer
rewritten: the base class, the ping/pong index and the other side are untouched, and every
buffer keeps its length. -/
structure SideWrite (pp : Fin 2) (s s' : Grid) : Prop where
  base : s'.toRawToDepth = s.toRawToDepth
  rawPingOrPong : s'.rawPingOrPong = s.rawPingOrPong
  other : ∀ q, q ≠ pp → s'.fRawFrames q = s.fRawFrames q ∧ s'.activeRows q = s.activeRows q ∧
    s'.roiIndexFrames q = s.roiIndexFrames q
  rawLength : ∀ q f, (s'.fRawFrames q f).length = (s.fRawFrames q f).length
  activeLength : ∀ q, (s'.activeRows q).length = (s.activeRows q).length
  indexLength : ∀ q, (s'.roiIndexFrames q).length = (s.roiIndexFrames q).length
  snrLength : s'.fovSnrV2.length = s.fovSnrV2.length

theorem SideWrite.refl (pp : Fin 2) (s : Grid) : SideWrite pp s s :=
  ⟨rfl, rfl, fun _ _ => ⟨rfl, rfl, rfl⟩, fun _ _ => rfl, fun _ => rfl, fun _ => rfl, rfl⟩

theorem SideWrite.trans {pp : Fin 2} {s t u : Grid} (h : SideWrite pp s t)
    (h' : SideWrite pp t u) : SideWrite pp s u where
  base := h'.base.trans h.base
  rawPingOrPong := h'.rawPingOrPong.trans h.rawPingOrPong
  other q hq := by
    obtain ⟨a, b, c⟩ := h.other q hq
    obtain ⟨a', b', c'⟩ := h'.other q hq
    exact ⟨a'.trans a, b'.trans b, c'.trans c⟩
  rawLength q f := (h'.rawLength q f).trans (h.rawLength q f)
  activeLength q := (h'.activeLength q).trans (h.activeLength q)
  indexLength q := (h'.indexLength q).trans (h.indexLength q)
  snrLength := h'.snrLength.trans h.snrLength

@[simp] theorem length_update_self {α : Type} (f : Fin 2 → List α) (pp : Fin 2) (l : List α)
    (q : Fin 2) (h : l.length = (f pp).length) : (update f pp l q).length = (f q).length := by
  by_cases hq : q = pp
  · subst hq; simp [h]
  · simp [hq]

/-- **One row of bookkeeping is safe** when the row lies inside side `pp`'s row buffer and
its 640 ROI-index entries inside the ROI-index frame. -/
theorem rowStep_ok {pp : Fin 2} {roiStartRow fovStartRow rowIdx : Nat} {s : Grid}
    (h0 : fovStartRow ≤ roiStartRow)
    (hr : roiStartRow - fovStartRow + rowIdx < (s.activeRows pp).length)
    (hi : (roiStartRow + rowIdx + 1) * imageWidth ≤ (s.roiIndexFrames pp).length)
    (hw : (roiStartRow + rowIdx + 1) * imageWidth ≤ 2 ^ 32) :
    ∃ s', rowStep pp roiStartRow fovStartRow rowIdx s = .ok s' ∧ SideWrite pp s s' := by
  simp only [imageWidth] at hi hw
  have ha : sizeT ((roiStartRow : Int) - fovStartRow + rowIdx) =
      roiStartRow - fovStartRow + rowIdx := by
    rw [sizeT_of_lt (by omega) (by omega)]; omega
  obtain ⟨idx, hidx, hl⟩ := @forLoop_ok (List Int) roiNumColumns
    (fun colIdx frame => writeAt .roiIndexFrames frame
        (u32 (((roiStartRow + rowIdx) * imageWidth + fovStartColumn + colIdx : Nat) : Int))
        s.currentRoiIdx)
    (fun _ t => t.length = (s.roiIndexFrames pp).length)
    (fun c hc t ht => by
      simp only [roiNumColumns, imageWidth] at hc
      have e : u32 (((roiStartRow + rowIdx) * imageWidth + fovStartColumn + c : Nat) : Int) =
          (roiStartRow + rowIdx) * 640 + c := by
        rw [u32_of_lt (by omega) (by simp only [imageWidth, fovStartColumn]; omega)]
        simp only [imageWidth, fovStartColumn]
        omega
      dsimp only at ht ⊢
      rw [e, writeAt_of_lt (by rw [ht]; omega)]
      exact ⟨_, rfl, by simp [ht]⟩) (s.roiIndexFrames pp) rfl
  simp only [rowStep, ha, writeAt_of_lt hr, hidx, ok_bind, pure_eq_ok]
  refine ⟨_, rfl, rfl, rfl, fun q hq => by simp [hq], fun _ _ => rfl, fun q => ?_,
    fun q => ?_, rfl⟩
  · exact length_update_self _ _ _ _ (by simp)
  · exact length_update_self _ _ _ _ hl

/-- `prepareSide` sizes the current side for the FOV and touches nothing else. -/
theorem prepareSide_spec (s : Grid) (mdat : RtdMetadata) :
    (s.prepareSide mdat).toRawToDepth = s.toRawToDepth ∧
      (s.prepareSide mdat).rawPingOrPong = s.rawPingOrPong ∧
      (s.prepareSide mdat).fovSnrV2 = s.fovSnrV2 ∧
      (∀ q, q ≠ s.rawPingOrPong → (s.prepareSide mdat).fRawFrames q = s.fRawFrames q ∧
        (s.prepareSide mdat).activeRows q = s.activeRows q ∧
        (s.prepareSide mdat).roiIndexFrames q = s.roiIndexFrames q) ∧
      (∀ f, ((s.prepareSide mdat).fRawFrames s.rawPingOrPong f).length =
        numGpixelPhases * mdat.getFovNumRows s.fovIdx * fovNumColumns) ∧
      ((s.prepareSide mdat).activeRows s.rawPingOrPong).length = mdat.getFovNumRows s.fovIdx ∧
      ((s.prepareSide mdat).roiIndexFrames s.rawPingOrPong).length =
        (s.roiIndexFrames s.rawPingOrPong).length := by
  dsimp only [prepareSide]
  split_ifs <;> exact ⟨rfl, rfl, rfl, fun q hq => by simp [hq], by simp, by simp, by simp⟩

/-- **The data path is safe, and writes only the current side.** For an ROI vector of the
announced length whose rows lie inside the FOV (from its start row on) and inside the image,
`voteRoi` runs without fault. It sizes ping/pong side `pp` for the FOV, keeps the base class,
the ping/pong index and the other side, and keeps the lengths of the ROI-index frame and the
SNR buffer. -/
theorem voteRoi_ok {s : Grid} {mdat : RtdMetadata} {roiVector : List Nat}
    (hdata : roiVector.length = RawToDepth.announcedShorts mdat)
    (h0 : mdat.getFovStartRow s.fovIdx ≤ mdat.getRoiStartRow)
    (hspan : mdat.getRoiStartRow - mdat.getFovStartRow s.fovIdx + mdat.getRoiNumRows ≤
      mdat.getFovNumRows s.fovIdx)
    (himg : mdat.getRoiStartRow + mdat.getRoiNumRows ≤ maxImageHeight)
    (hsnr : s.fovSnrV2.length = fovNumColumns * mdat.getFovNumRows s.fovIdx)
    (hidx : (s.roiIndexFrames s.rawPingOrPong).length = maxImageHeight * imageWidth) :
    ∃ s', s.voteRoi mdat roiVector = .ok s' ∧ s'.toRawToDepth = s.toRawToDepth ∧
      s'.rawPingOrPong = s.rawPingOrPong ∧
      (∀ q, q ≠ s.rawPingOrPong → s'.fRawFrames q = s.fRawFrames q ∧
        s'.activeRows q = s.activeRows q ∧ s'.roiIndexFrames q = s.roiIndexFrames q) ∧
      (∀ f, (s'.fRawFrames s.rawPingOrPong f).length =
        numGpixelPhases * mdat.getFovNumRows s.fovIdx * fovNumColumns) ∧
      (s'.activeRows s.rawPingOrPong).length = mdat.getFovNumRows s.fovIdx ∧
      (s'.roiIndexFrames s.rawPingOrPong).length = maxImageHeight * imageWidth ∧
      s'.fovSnrV2.length = s.fovSnrV2.length := by
  obtain ⟨roi0, h0r, l0⟩ := @RawToDepth.tapRotation_announced roiVector mdat 0 (by decide) hdata
  obtain ⟨roi1, h1r, l1⟩ := @RawToDepth.tapRotation_announced roiVector mdat 1 (by decide) hdata
  obtain ⟨pb, ppp, psnr, pother, praw, pact, pidx⟩ := prepareSide_spec s mdat
  set s1 := s.prepareSide mdat
  have hfov : mdat.getFovNumRows s.fovIdx < 2 ^ 12 := mdat.getmd_lt _
  have hoff : u32 (((mdat.getRoiStartRow : Int) - mdat.getFovStartRow s.fovIdx) *
      roiNumColumns) = (mdat.getRoiStartRow - mdat.getFovStartRow s.fovIdx) * 640 := by
    simp only [roiNumColumns, imageWidth]
    rw [u32_of_lt (by omega) (by omega)]; omega
  simp only [numGpixelPhases, roiNumColumns, imageWidth, fovNumColumns, maxImageHeight]
    at l0 l1 praw pact hsnr hidx himg ⊢
  -- the vote keeps every length of the prepared side
  obtain ⟨v, hv, vs, vr⟩ := @snrVoteV2_ok roi0 roi1 ⟨s1.fRawFrames s1.rawPingOrPong, s1.fovSnrV2⟩
    ((mdat.getRoiStartRow - mdat.getFovStartRow s.fovIdx) * 640) (mdat.getRoiNumRows * 640)
    (by simp only [numGpixelPhases]; omega) (by simp only [numGpixelPhases]; omega)
    (by simp only [psnr]; omega)
    (fun f => by simp only [numGpixelPhases, ppp, praw]; omega)
    (by simp only [numGpixelPhases]; omega)
  -- the row loop writes side `pp` only, inside its buffers
  obtain ⟨t, ht, hw⟩ := @forLoop_ok Grid mdat.getRoiNumRows
    (rowStep s1.rawPingOrPong mdat.getRoiStartRow (mdat.getFovStartRow s.fovIdx))
    (fun _ t => SideWrite s1.rawPingOrPong
      ({ s1 with fRawFrames := update s1.fRawFrames s1.rawPingOrPong v.rawFov,
                 fovSnrV2 := v.snrSquaredFov }) t)
    (fun r hr t ht => by
      obtain ⟨t', h1, h2⟩ := @rowStep_ok s1.rawPingOrPong _ _ r t h0
        (by rw [ht.activeLength]; simp [ppp, pact]; omega)
        (by rw [ht.indexLength]; simp [ppp, pidx, hidx, imageWidth]; omega)
        (by simp only [imageWidth]; omega)
      exact ⟨t', h1, ht.trans h2⟩) _ (SideWrite.refl _ _)
  refine ⟨t, by simp only [voteRoi, h0r, h1r, ok_bind, hoff, hv]; exact ht,
    hw.base.trans pb, hw.rawPingOrPong.trans ppp, fun q hq => ?_, fun f => ?_, ?_, ?_, ?_⟩
  · obtain ⟨a, b, c⟩ := hw.other q (ppp ▸ hq)
    obtain ⟨a', b', c'⟩ := pother q hq
    refine ⟨a.trans ?_, b.trans b', c.trans c'⟩
    simp [ppp, hq, a']
  · rw [← ppp, hw.rawLength]; simp [vr, ppp, praw]
  · rw [← ppp, hw.activeLength]; simp [ppp, pact]
  · rw [← ppp, hw.indexLength]; simp [ppp, pidx, hidx]
  · rw [hw.snrLength]; simp [vs, psnr]

/-- **The data path keeps a ready FOV ready**: on an ROI vector of the announced length whose
rows lie inside the FOV and the image, `voteRoi` writes only the current side, at the sizes it
had. -/
theorem voteRoi_ready {s : Grid} {mdat : RtdMetadata} {roiVector : List Nat} (hR : s.Ready mdat)
    (hdata : roiVector.length = RawToDepth.announcedShorts mdat)
    (h0 : mdat.getFovStartRow s.fovIdx ≤ mdat.getRoiStartRow)
    (hspan : mdat.getRoiStartRow - mdat.getFovStartRow s.fovIdx + mdat.getRoiNumRows ≤
      mdat.getFovNumRows s.fovIdx)
    (himg : mdat.getRoiStartRow + mdat.getRoiNumRows ≤ maxImageHeight) :
    ∃ s', s.voteRoi mdat roiVector = .ok s' ∧ s'.toRawToDepth = s.toRawToDepth ∧
      s'.rawPingOrPong = s.rawPingOrPong ∧ s'.Ready mdat := by
  obtain ⟨s', hs', e, p, o, raw, act, idx, snr⟩ :=
    voteRoi_ok hdata h0 hspan himg hR.fovSnrV2 (hR.roiIndexFrames _)
  have hf : s'.fovIdx = s.fovIdx := congrArg RawToDepth.fovIdx e
  refine ⟨s', hs', e, p, ⟨e ▸ hR.configured, fun q f => ?_, fun q => ?_, fun q => ?_, ?_⟩⟩
  · rcases eq_or_ne q s.rawPingOrPong with rfl | hq
    · rw [raw, hf, Nat.mul_right_comm]
    · rw [(o q hq).1, hR.fRawFrames, hf]
  · rcases eq_or_ne q s.rawPingOrPong with rfl | hq
    · rw [act, hf]
    · rw [(o q hq).2.1, hR.activeRows, hf]
  · rcases eq_or_ne q s.rawPingOrPong with rfl | hq
    · exact idx
    · rw [(o q hq).2.2, hR.roiIndexFrames]
  · rw [snr, hR.fovSnrV2, hf]

/-- **An accepted ROI of a ready FOV is voted**, and the FOV stays ready: `saveTimestamp`
counts the ROI into `t`, and the data path casts the ballot its data gives onto the current
side. -/
theorem saveTimestamp_voted {s : Grid} {m : RtdMetadata} {v : List Nat} (h : s.Ready m)
    (hd : m.getDisableRtd s.fovIdx = false) (hc : -1 ≤ s.currentRoiIdx)
    (ht : sizeT (s.currentRoiIdx + 1) < s.timestamps.length)
    (hroom : m.getRoiStartRow ∈ s.roiStartRows ∨ s.roiStartRows.length < m.getFovNumRows s.fovIdx)
    (hdata : v.length = RawToDepth.announcedShorts m)
    (h0 : m.getFovStartRow s.fovIdx ≤ m.getRoiStartRow)
    (hspan : m.getRoiStartRow - m.getFovStartRow s.fovIdx + m.getRoiNumRows ≤
      m.getFovNumRows s.fovIdx)
    (himg : m.getRoiStartRow + m.getRoiNumRows ≤ maxImageHeight) :
    ∃ t u b, s.saveTimestamp m = .ok (true, t) ∧ ballotOf s.fovIdx m v = .ok b ∧
      t.castBallot m b = .ok u ∧
      t = { s with toRawToDepth := { (s.toRawToDepth.saveTimestamp m).2 with roiStartRows :=
        if m.getRoiStartRow ∈ s.roiStartRows then s.roiStartRows
        else s.roiStartRows ++ [m.getRoiStartRow] } } ∧
      t.fovIdx = s.fovIdx ∧ u.toRawToDepth = t.toRawToDepth ∧ u.rawPingOrPong = s.rawPingOrPong ∧
      u.Ready m := by
  have hf := (RawToDepth.saveTimestamp_frameCompleted (m := m) s.toRawToDepth).2.1
  obtain ⟨u, hu, e, p, R⟩ := voteRoi_ready (h.saveTimestamp m (if m.getRoiStartRow ∈ s.roiStartRows then s.roiStartRows
    else s.roiStartRows ++ [m.getRoiStartRow])) hdata (by exact hf ▸ h0)
    (by exact hf ▸ hspan) himg
  rw [voteRoi_eq] at hu
  obtain ⟨b, hb, hcast⟩ := bind_eq_ok.1 hu
  exact ⟨_, u, b, saveTimestamp_accepts h hd hc ht hroom (by omega), hf ▸ hb, hcast, rfl, hf, e,
    p, R⟩

/-- The traced form of `processOneRoi_first`: the first ROI is voted, as the ballot its data
gives, and leaves the FOV ready with its start row recorded. -/
theorem processOneRoiTraced_first {s : Grid} {r : RoiBuffer}
    (hv : s.toRawToDepth.validateMetadata r = true) (hd : r.md.isHdrDisabled = true)
    (hf : r.md.getFirstRoi s.fovIdx = true)
    (hf1 : 3 ≤ r.md.getF1ModulationIndex) (hf0 : r.md.getF0ModulationIndex < 11)
    (hrtd : r.md.getDisableRtd s.fovIdx = false)
    (hn : 0 < r.md.getFovNumRois s.fovIdx) (hrows : 0 < r.md.getFovNumRows s.fovIdx)
    (h0 : r.md.getFovStartRow s.fovIdx ≤ r.md.getRoiStartRow)
    (hspan : r.md.getRoiStartRow - r.md.getFovStartRow s.fovIdx + r.md.getRoiNumRows ≤
      r.md.getFovNumRows s.fovIdx)
    (himg : r.md.getRoiStartRow + r.md.getRoiNumRows ≤ maxImageHeight)
    (hdata : r.data.length = RawToDepth.announcedShorts r.md) :
    ∃ s' b, s.processOneRoiTraced r = .ok (s', .voted r.md b) ∧
      ballotOf s.fovIdx r.md (sh2f r.data inputRawShift rawPixelMask) = .ok b ∧
      s'.fovIdx = s.fovIdx ∧
      s'.rawPingOrPong = s.rawPingOrPong ∧ s'.veryFirstRoiReceived = true ∧
      s'.prevRoiWasLast = r.md.getFrameCompleted s.fovIdx ∧ s'.currentRoiIdx = 0 ∧
      s'.incompleteFov = false ∧ s'.disableRtd = false ∧
      s'.roiStartRows = [r.md.getRoiStartRow] ∧ s'.Ready r.md := by
  -- the HDR stage passes the ROI through; `reset` configures the FOV and sizes both sides
  obtain ⟨-, -, hadj⟩ := RawToDepth.validateMetadata_values hv
  obtain ⟨hdr, hsub, hmd, hroi, hskip⟩ :=
    @Hdr.submit_disabled_emits s.hdr r (!s.veryFirstRoiReceived) inputRawShift hd
  obtain ⟨g, hg, hg0⟩ := GPixel.getGcf_adjacent hf1 (by omega)
  rw [← hadj] at hg
  obtain ⟨b, hb, bc, bi, br, bd, binc, bfov, -, bvf, -⟩ :=
    RawToDepth.realloc_configured hf0 (by omega) hg hg0
      { s.toRawToDepth with hdr, veryFirstRoiReceived := true, prevRoiWasLast := false }
  obtain ⟨s2, hs2, e2, p2, raw2, act2, idx2, snr2⟩ :=
    realloc_ok hf0 (by omega) { s with toRawToDepth := b }
  simp only at bd bfov bvf hb
  have e2f : s2.fovIdx = s.fovIdx := by rw [← bfov]; exact congrArg RawToDepth.fovIdx e2
  simp only [bfov, ← e2f] at raw2 act2 snr2
  have R2 : s2.Ready r.md := ⟨e2 ▸ bc, raw2, act2, idx2, snr2⟩
  -- `saveTimestamp` accepts the ROI as the FOV's first, and the data path votes it
  have hr2 : s2.roiStartRows = [] := by rw [e2]; exact br
  obtain ⟨s3, s4, bal, hst, hbal, hcast, hs3, hbf, e4, p4, R4⟩ :=
    saveTimestamp_voted (v := sh2f r.data inputRawShift rawPixelMask) R2
      (by rw [e2f]; exact hrtd) (by rw [e2, bi]) (by rw [e2, bi, bc.timestamps, bfov]; exact hn)
      (.inr (by rw [hr2, e2f]; exact hrows)) (by simpa using hdata) (by rw [e2f]; exact h0)
      (by rw [e2f]; omega) himg
  obtain ⟨-, c3, l3, i3, -⟩ := RawToDepth.saveTimestamp_first (by rw [e2f]; exact hrtd)
    (by rw [e2]; exact bi) (by rw [e2, bc.timestamps, bfov]; exact hn)
  obtain ⟨-, f3, -, v3, d3, -⟩ := @RawToDepth.saveTimestamp_frameCompleted r.md s2.toRawToDepth
  rw [e2f] at hbal
  refine ⟨s4, bal, ?_, hbal, ?_⟩
  · simp only [processOneRoiTraced, hv, hsub, hmd, hskip, hf, reset, RawToDepth.reset, ok_bind,
      Bool.not_true, Bool.false_eq_true, if_false, if_true, hb, hs2, hst, pure_eq_ok, hroi]
    rw [hbf, e2f, hbal, ok_bind, hcast, ok_bind]
  subst hs3
  rw [e2] at f3 v3 d3 l3 c3 i3
  refine ⟨?_, p4.trans p2, ?_, ?_, ?_, ?_, ?_, ?_, R4⟩ <;> rw [e4] <;>
    simp only [f3, v3, l3, c3, i3, d3, e2, bvf, binc, bd, hrtd, bfov, br, List.not_mem_nil,
      if_false, List.nil_append]

/-- **A first ROI opens its FOV.** An accepted first ROI with HDR disabled, valid adjacent
modulation indices, RTD enabled, and rows that fit the FOV and the image, carrying exactly the
announced data, is processed without fault: it is ROI `0` of a fresh, complete FOV that
expects the declared number of ROIs, its frame-completed bit is latched, and both ping/pong
sides are sized for the FOV it declares. -/
theorem processOneRoi_first {s : Grid} {r : RoiBuffer}
    (hv : s.toRawToDepth.validateMetadata r = true) (hd : r.md.isHdrDisabled = true)
    (hf : r.md.getFirstRoi s.fovIdx = true)
    (hf1 : 3 ≤ r.md.getF1ModulationIndex) (hf0 : r.md.getF0ModulationIndex < 11)
    (hrtd : r.md.getDisableRtd s.fovIdx = false)
    (hn : 0 < r.md.getFovNumRois s.fovIdx) (hrows : 0 < r.md.getFovNumRows s.fovIdx)
    (h0 : r.md.getFovStartRow s.fovIdx ≤ r.md.getRoiStartRow)
    (hspan : r.md.getRoiStartRow - r.md.getFovStartRow s.fovIdx + r.md.getRoiNumRows ≤
      r.md.getFovNumRows s.fovIdx)
    (himg : r.md.getRoiStartRow + r.md.getRoiNumRows ≤ maxImageHeight)
    (hdata : r.data.length = RawToDepth.announcedShorts r.md) :
    ∃ s', s.processOneRoi r = .ok s' ∧ s'.fovIdx = s.fovIdx ∧
      s'.rawPingOrPong = s.rawPingOrPong ∧ s'.veryFirstRoiReceived = true ∧
      s'.prevRoiWasLast = r.md.getFrameCompleted s.fovIdx ∧ s'.currentRoiIdx = 0 ∧
      s'.incompleteFov = false ∧ s'.disableRtd = false ∧
      s'.expectedNumRois = r.md.getFovNumRois s.fovIdx ∧
      ∀ q f, (s'.fRawFrames q f).length =
        numGpixelPhases * fovNumColumns * r.md.getFovNumRows s.fovIdx := by
  obtain ⟨s', _, h, -, e1, e2, e3, e4, e5, e6, e7, -, hR⟩ :=
    processOneRoiTraced_first hv hd hf hf1 hf0 hrtd hn hrows h0 hspan himg hdata
  refine ⟨s', by rw [← processOneRoiTraced_fst, h]; rfl, e1, e2, e3, e4, e5, e6, e7, ?_,
    fun q f => ?_⟩
  · rw [hR.configured.expectedNumRois, e1]
  · rw [hR.fRawFrames, e1]

/-- **A later ROI of a ready FOV is voted.** An accepted ROI with HDR disabled that is not
its FOV's first, arriving while the FOV has a timestamp slot for it and its start row is known
or fits, and carrying the announced data over rows inside the FOV and the image, is voted as
the ballot its data gives. The FOV stays ready; the ROI is counted and its start row
recorded. -/
theorem processOneRoiTraced_next {s : Grid} {r : RoiBuffer}
    (hv : s.toRawToDepth.validateMetadata r = true) (hd : r.md.isHdrDisabled = true)
    (hf : r.md.getFirstRoi s.fovIdx = false) (hR : s.Ready r.md)
    (hrtd : r.md.getDisableRtd s.fovIdx = false) (hc : -1 ≤ s.currentRoiIdx)
    (ht : sizeT (s.currentRoiIdx + 1) < s.timestamps.length)
    (hroom : r.md.getRoiStartRow ∈ s.roiStartRows ∨
      s.roiStartRows.length < r.md.getFovNumRows s.fovIdx)
    (h0 : r.md.getFovStartRow s.fovIdx ≤ r.md.getRoiStartRow)
    (hspan : r.md.getRoiStartRow - r.md.getFovStartRow s.fovIdx + r.md.getRoiNumRows ≤
      r.md.getFovNumRows s.fovIdx)
    (himg : r.md.getRoiStartRow + r.md.getRoiNumRows ≤ maxImageHeight)
    (hdata : r.data.length = RawToDepth.announcedShorts r.md) :
    ∃ s' b, s.processOneRoiTraced r = .ok (s', .voted r.md b) ∧
      ballotOf s.fovIdx r.md (sh2f r.data inputRawShift rawPixelMask) = .ok b ∧
      s'.fovIdx = s.fovIdx ∧ s'.rawPingOrPong = s.rawPingOrPong ∧
      s'.currentRoiIdx = s.currentRoiIdx + 1 ∧
      s'.roiStartRows = (if r.md.getRoiStartRow ∈ s.roiStartRows then s.roiStartRows
        else s.roiStartRows ++ [r.md.getRoiStartRow]) ∧ s'.Ready r.md := by
  obtain ⟨hdr, hsub, hmd, hroi, hskip⟩ :=
    @Hdr.submit_disabled_emits s.hdr r (!s.veryFirstRoiReceived) inputRawShift hd
  -- no reset; `saveTimestamp` accepts the ROI into the open FOV, and the data path votes it
  have R1 : ({ s with hdr, veryFirstRoiReceived := true } : Grid).Ready r.md :=
    ⟨{ hR.configured with }, hR.fRawFrames, hR.activeRows, hR.roiIndexFrames, hR.fovSnrV2⟩
  obtain ⟨s3, s4, bal, hst, hbal, hcast, hs3, hbf, e4, p4, R4⟩ :=
    saveTimestamp_voted (v := sh2f r.data inputRawShift rawPixelMask) R1 hrtd hc ht hroom
      (by simpa using hdata) h0 hspan himg
  refine ⟨s4, bal, ?_, hbal, ?_⟩
  · simp only [processOneRoiTraced, hv, hsub, hmd, hskip, hf, ok_bind, Bool.not_true,
      Bool.false_eq_true, if_false, hst, pure_eq_ok, hroi, pure_bind]
    rw [hbf, hbal, ok_bind, hcast, ok_bind]
  subst hs3
  refine ⟨?_, p4, ?_, ?_, R4⟩ <;> rw [e4]
  · exact hbf
  · simp [RawToDepth.saveTimestamp, hrtd, Nat.not_le.2 ht, show 0 ≤ s.currentRoiIdx + 1 by omega]

end Grid

end Cobra
