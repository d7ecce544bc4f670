import Cobra.Engine.Grid
import Cobra.Engine.Stripe

/-!
# Dispatching ROIs to the FOV Engines

`RawToFovs`, the entry point of the raw-to-depth library: every ROI goes to the engine of each
FOV slot its metadata marks active, `RawToDepthFactory::create` first replacing the slot's
engine when the slot changes between grid and stripe mode. After the engine has processed the
ROI, `processWholeFrame` runs whenever `lastRoiReceived()` holds: a grid engine hands its
worker a `Job`, a stripe engine publishes at once.

The trigger is the sticky flag `_prevRoiWasLast`, which only `saveTimestamp` sets and only
`reset` clears. An ROI that the engine drops before `saveTimestamp` therefore leaves the flag
of the FOV before it standing, and `processWholeFrame` runs again on the finished FOV.

## Main results

* `processRoi_reads_past_frequency_table`: the first ROI of a fresh slot with modulation
  indices `11` and `10`, which `validateMetadataValues` accepts, faults reading the
  frequency table.
* `processRoi_republishes_rejected`: after a grid FOV has been handed to the worker, an ROI the
  engine rejects hands the worker the same FOV again, on the other ping/pong side.
* `run_publishes_single_roi_fov_twice`: a one-ROI FOV followed by a rejected ROI is published
  twice.
-/

namespace Cobra

open Function

/-- The engine of one FOV slot. -/
inductive Engine where
  | grid (g : Grid)
  | stripe (s : Stripe)

/-- What `processWholeFrame` hands on for a slot: a job for the grid worker, or a stripe FOV
published at once. -/
inductive Output where
  | gridJob (fovIdx : Nat) (job : Job)
  | stripeFov (fovIdx : Nat)
  deriving DecidableEq, Repr

/-- An output that reaches `setFovSegment`: a grid job whose checks pass, or a stripe FOV. -/
def Output.publishes : Output → Bool
  | .gridJob _ j => j.publishes
  | .stripeFov _ => true

namespace Engine

/-- `processRoi` of the slot's engine. -/
def processRoi : Engine → RoiBuffer → Except Fault Engine
  | .grid g, r => return .grid (← g.processOneRoi r)
  | .stripe s, r => return .stripe (← s.processRoi r)

/-- `lastRoiReceived()` of the slot's engine. -/
def lastRoiReceived : Engine → Bool
  | .grid g => g.lastRoiReceived
  | .stripe s => s.lastRoiReceived

/-- `processWholeFrame` of the slot's engine. -/
def processWholeFrame (idx : Nat) : Engine → Engine × List Output
  | .grid g => (.grid g.processWholeFrame.1, [.gridJob idx g.processWholeFrame.2])
  | .stripe s => (.stripe s, if s.processWholeFrame then [.stripeFov idx] else [])

end Engine

/-- The engines of the `MAX_ACTIVE_FOVS` slots; a slot without an engine is `none`. -/
structure RawToFovs where
  rtds : Nat → Option Engine

namespace RawToFovs

/-- The constructor: every slot empty. -/
def initial : RawToFovs := ⟨fun _ => none⟩

/-- `RawToDepthFactory::create`: a stripe engine for a slot in stripe mode, a grid engine for a
slot in grid mode, each kept when the slot already holds one of its kind. -/
def createEngine (rtd : Option Engine) (m : RtdMetadata) (idx : Nat) :
    Except Fault (Option Engine) :=
  if m.getStripeModeEnabled idx then
    match rtd with
    | some (.stripe s) => return some (.stripe s)
    | some (.grid _) | none => return some (.stripe (← Stripe.create idx))
  else if m.getGridModeEnabled idx then
    match rtd with
    | some (.grid g) => return some (.grid g)
    | some (.stripe _) | none => return some (.grid (← Grid.create idx))
  else return rtd

/-- One active slot of `RawToFovs::processRoi`: create or keep the engine, let it process the
ROI, and run `processWholeFrame` when it reports the last ROI received. -/
def processSlot (r : RoiBuffer) (acc : RawToFovs × List Output) (idx : Nat) :
    Except Fault (RawToFovs × List Output) := do
  let (F, out) := acc
  match ← createEngine (F.rtds idx) r.md idx with
  | none => return (F, out)
  | some e =>
    let e ← e.processRoi r
    let (e, o) := if e.lastRoiReceived then e.processWholeFrame idx else (e, [])
    return (⟨update F.rtds idx (some e)⟩, out ++ o)

/-- `RawToFovs::processRoi`: the ROI goes to every active slot in turn. -/
def processRoi (F : RawToFovs) (r : RoiBuffer) : Except Fault (RawToFovs × List Output) :=
  r.md.getActiveFovs.foldlM (processSlot r) (F, [])

/-- A stream of ROIs, one `processRoi` call each, with everything handed on. -/
def run (F : RawToFovs) : List RoiBuffer → Except Fault (RawToFovs × List Output)
  | [] => .ok (F, [])
  | r :: rs => do
    let (F, o) ← F.processRoi r
    let (F, o') ← F.run rs
    return (F, o ++ o')

/-! ### Creating the engine of a grid slot -/

theorem gridMode_of_not_stripe {m : RtdMetadata} {i : Nat}
    (h : m.getStripeModeEnabled i = false) : m.getGridModeEnabled i = true := by
  simpa [RtdMetadata.getGridModeEnabled, RtdMetadata.getStripeModeEnabled] using h

section GridSlot

variable {m : RtdMetadata} {idx : Nat} (hs : m.getStripeModeEnabled idx = false)
include hs

/-- A slot in grid mode keeps the grid engine it holds. -/
theorem createEngine_grid (g : Grid) : createEngine (some (.grid g)) m idx = .ok (some (.grid g)) := by
  simp [createEngine, hs, gridMode_of_not_stripe hs]

/-- An empty slot in grid mode gets a newly constructed grid engine. -/
theorem createEngine_none {g : Grid} (hg : Grid.create idx = .ok g) :
    createEngine none m idx = .ok (some (.grid g)) := by
  simp [createEngine, hs, gridMode_of_not_stripe hs, hg]

end GridSlot

/-- **One ROI for one grid slot.** When the ROI activates slot `idx` alone and the slot's grid
engine processes it, the engine goes back into the slot, handed to the worker first when it
reports the last ROI received. -/
theorem processRoi_grid_slot {F : RawToFovs} {r : RoiBuffer} {idx : Nat} {g g' : Grid}
    (hact : r.md.getActiveFovs = [idx])
    (hc : createEngine (F.rtds idx) r.md idx = .ok (some (.grid g)))
    (hp : g.processOneRoi r = .ok g') :
    F.processRoi r = .ok (if g'.lastRoiReceived then
      (⟨update F.rtds idx (some (.grid g'.processWholeFrame.1))⟩,
        [.gridJob idx g'.processWholeFrame.2])
      else (⟨update F.rtds idx (some (.grid g'))⟩, [])) := by
  simp only [processRoi, hact, List.foldlM_cons, List.foldlM_nil, processSlot, hc,
    Engine.processRoi, hp, ok_bind, bind_pure]
  split <;> simp_all [Engine.lastRoiReceived, Engine.processWholeFrame]

/-! ### A modulation index past the frequency table -/

/-- **An `f0` index past `IDX_TO_FRQ_LUT` is read.** `validateMetadataValues` checks only that
the indices are adjacent, so a pair `(f0, f0 - 1)` with `f0 ≥ 11` is accepted; on the first ROI
of an empty grid slot, with HDR disabled, the new engine's `reset` reads `IDX_TO_FRQ_LUT[f0]`
of a table of eleven entries. -/
theorem processRoi_reads_past_frequency_table {F : RawToFovs} {r : RoiBuffer} {idx : Nat}
    (hslot : F.rtds idx = none) (hact : r.md.getActiveFovs = [idx])
    (hs : r.md.getStripeModeEnabled idx = false)
    (hbuf : RawToDepth.chkBufMetadata r.numBytes = true)
    (hdata : RawToDepth.chkBufDataOnly r.md (r.numBytes - 2 * mdRowShorts) = true)
    (hval : RawToDepth.validateMetadataValues r.md = true)
    (hf : r.md.getFirstRoi idx = true) (hsat : r.md.wasPreviousRoiSaturated = false)
    (hd : r.md.isHdrDisabled = true) (h11 : 11 ≤ r.md.getF0ModulationIndex) :
    F.processRoi r = .error ⟨.idxToFrqLut, r.md.getF0ModulationIndex, 11⟩ := by
  obtain ⟨g, hg, hfov, -, hvf, -, -⟩ := Grid.create_ok idx
  have hv : g.toRawToDepth.validateMetadata r = true := by
    simp [RawToDepth.validateMetadata, hbuf, hdata, hval, hvf, hfov, hf, hsat]
  have he := Grid.processOneRoi_error_of_f0 hv hd (hfov ▸ hf) h11
  simp [processRoi, hact, processSlot, hslot, createEngine_none hs hg, Engine.processRoi, he]

/-- The first ROI of an FOV with modulation indices `11` and `10`: `DEFAULT_METADATA` (grid
mode, FOV `0` active, first and last ROI, HDR disabled) with eight rows of announced data. -/
def f0ElevenRoi : RoiBuffer :=
  ⟨((RtdMetadata.defaultMetadata.set RtdMetadata.roiNumRowsOff 8).set
    RtdMetadata.f0ModulationIndexOff 11).set RtdMetadata.f1ModulationIndexOff 10,
    List.replicate 92160 0⟩

theorem processRoi_reads_past_frequency_table_eleven :
    initial.processRoi f0ElevenRoi = .error ⟨.idxToFrqLut, 11, 11⟩ :=
  have hl : f0ElevenRoi.data.length = 92160 := List.length_replicate 92160 0
  have h11 : f0ElevenRoi.md.getF0ModulationIndex = 11 := by decide
  h11 ▸ @processRoi_reads_past_frequency_table initial f0ElevenRoi 0 rfl (by decide)
    (by decide) (by rw [RoiBuffer.numBytes, hl]; decide) (by rw [RoiBuffer.numBytes, hl]; decide)
    (by decide) (by decide) (by decide) (by decide) (by rw [h11])

/-! ### A finished FOV is handed on again -/

/-- **A rejected ROI re-finalizes the FOV before it.** Let slot `idx` hold a grid engine just
after `processWholeFrame` handed its FOV to the worker, with `lastRoiReceived` set. An ROI for
that slot alone, still in grid mode, that the engine rejects in `validateMetadata`, leaves
the engine unchanged, so `processWholeFrame` runs again: the worker receives the same job,
for the other ping/pong side. -/
theorem processRoi_republishes_rejected {F : RawToFovs} {g : Grid} {r : RoiBuffer} {idx : Nat}
    (hslot : F.rtds idx = some (.grid g.processWholeFrame.1))
    (hact : r.md.getActiveFovs = [idx]) (hs : r.md.getStripeModeEnabled idx = false)
    (hlast : g.lastRoiReceived = true)
    (hrej : g.toRawToDepth.validateMetadata r = false) :
    ∃ F', F.processRoi r = .ok (F', [.gridJob idx
      { g.processWholeFrame.2 with side := toggle g.processWholeFrame.2.side }]) := by
  have hkeep := @Grid.validateMetadata_false g.processWholeFrame.1 r hrej
  have hlast' : g.processWholeFrame.1.lastRoiReceived = true := hlast
  rw [processRoi_grid_slot hact (hslot ▸ createEngine_grid hs _) hkeep, if_pos hlast']
  exact ⟨_, rfl⟩

/-- The one ROI of a one-ROI FOV: `DEFAULT_METADATA` with eight rows of announced data. -/
def singleRoiFov : RoiBuffer :=
  ⟨RtdMetadata.defaultMetadata.set RtdMetadata.roiNumRowsOff 8, List.replicate 92160 0⟩

/-- `DEFAULT_METADATA` without its raw data, which `chkBufDataOnly` rejects. -/
def truncatedRoi : RoiBuffer := ⟨RtdMetadata.defaultMetadata, []⟩

theorem run_publishes_single_roi_fov_twice :
    ∃ F j, initial.run [singleRoiFov, truncatedRoi] =
      .ok (F, [.gridJob 0 j, .gridJob 0 { j with side := toggle j.side }]) ∧
      j.publishes = true := by
  have hl : singleRoiFov.data.length = 92160 := List.length_replicate 92160 0
  obtain ⟨g, hg, hfov, -, hvf, -, -⟩ := Grid.create_ok 0
  obtain ⟨g1, h1, f1, -, -, l1, c1, i1, d1, n1, -⟩ := @Grid.processOneRoi_first g singleRoiFov
    (by rw [RawToDepth.validateMetadata, RoiBuffer.numBytes, hl, hvf, hfov]; decide)
    (by decide) (by rw [hfov]; decide) (by decide) (by decide) (by rw [hfov]; decide)
    (by rw [hfov]; decide) (by rw [hfov]; decide) (by rw [hfov]; decide) (by rw [hfov]; decide)
    (by decide) (by rw [hl]; decide)
  rw [hfov] at l1 n1
  have hlast : g1.lastRoiReceived = true := by
    rw [RawToDepth.lastRoiReceived, l1]; decide
  have hrej : g1.toRawToDepth.validateMetadata truncatedRoi = false := by
    have hd : RawToDepth.chkBufDataOnly truncatedRoi.md
        (truncatedRoi.numBytes - 2 * mdRowShorts) = false := by decide
    simp [RawToDepth.validateMetadata, hd]
  obtain ⟨F2, h2⟩ := @processRoi_republishes_rejected
    ⟨update initial.rtds 0 (some (.grid g1.processWholeFrame.1))⟩ g1 truncatedRoi 0
    (by simp) (by decide) (by decide) hlast hrej
  have hs : singleRoiFov.md.getStripeModeEnabled 0 = false := by decide
  have ha : singleRoiFov.md.getActiveFovs = [0] := by decide
  have hF1 := @processRoi_grid_slot initial _ _ _ _ ha (createEngine_none hs hg) h1
  rw [if_pos hlast] at hF1
  refine ⟨F2, g1.processWholeFrame.2, ?_, ?_⟩
  · simp [run, hF1, h2]
  · simp only [Job.publishes, Grid.processWholeFrame, c1, i1, d1, n1, hlast]
    decide

end RawToFovs

end Cobra
