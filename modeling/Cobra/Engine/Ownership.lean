import Cobra.Engine.Fovs
import Cobra.Engine.Handshake

/-!
# Ownership of the Ping/Pong Buffers

One grid slot as a system of two threads. The ROI thread runs `processOneRoi` on the engine
and, when the engine reports its last ROI, `processWholeFrame`, which captures
`rawFrame0`/`rawFrame1` of the side `_rawPingOrPong` and toggles `_rawPingOrPong` before it
takes the mutex. Under the mutex it copies what it captured into `_wholeFrameRunningData`,
from which the worker's `localProcessFrame` reads the raw frames of that side. The handshake
of `Cobra.Handshake` orders the hand-overs; nothing orders the ROI thread's
`processOneRoi` against the worker.

## Main results

* `Slot.step_hs`, `Slot.reachable_hs`: the slot system refines the handshake.
* `Slot.reachable_handoff_safe`: so in every reachable state of the slot at most one thread
  holds the mutex, and a job is handed over only once the worker is done with the previous one.
* `Slot.roi_resizes_worker_side`: while the worker runs `localProcessFrame`, a first ROI of
  an FOV of another height, processed on the ROI thread, resizes the raw frames of the side
  the worker reads: `realloc` runs `MAKE_VECTOR2` on both sides.
* `Slot.run_resizes_worker_side`: such a state is reached by a one-ROI FOV of 480 rows, its
  hand-over, and the start of the worker's job.
-/

namespace Cobra

open Function Handshake

/-- The member initialisers of `_wholeFrameRunningData`, before any hand-over. -/
def Job.initial : Job := ⟨0, false, false, 0, 0, false⟩

/-- One grid slot: the engine, the handshake, what the current `processWholeFrame` call
captured on entry, and `_wholeFrameRunningData`, which the worker reads. -/
structure Slot where
  eng : Grid
  hs : Handshake.State
  pending : Job
  shared : Job

namespace Slot

/-- A step of the slot. Between calls the ROI thread processes an ROI, and enters
`processWholeFrame` when the engine reports its last ROI; inside `processWholeFrame` or
`shutdown` it takes the handshake's steps, the hand-over copying the captured job to the
worker's data; the worker takes the handshake's steps. -/
inductive Step : Slot → Slot → Prop where
  | roi {S : Slot} {e : Grid} (r : RoiBuffer) (hi : S.hs.roi = .idle)
      (hp : S.eng.processOneRoi r = .ok e) (hl : e.lastRoiReceived = false) :
      Step S { S with eng := e }
  | roiLast {S : Slot} {e : Grid} (r : RoiBuffer) (hi : S.hs.roi = .idle)
      (hp : S.eng.processOneRoi r = .ok e) (hl : e.lastRoiReceived = true) :
      Step S { S with
        eng := e.processWholeFrame.1
        pending := e.processWholeFrame.2
        hs := { S.hs with roi := .locking } }
  | handshake {S : Slot} {hs' : Handshake.State} (c : Call) (hc : S.hs.roi = .idle → c = .shutdown)
      (h : roiStep S.hs c = some hs') :
      Step S { S with
        hs := hs'
        shared := if S.hs.roi = .checking ∧ S.hs.dataProcessed = true then S.pending
          else S.shared }
  | worker {S : Slot} {hs' : Handshake.State} (h : workerStep S.hs = some hs') :
      Step S { S with hs := hs' }

/-- A new slot: the engine `RawToDepthFactory::create` builds, no worker yet. -/
def initial (g : Grid) : Slot := ⟨g, Handshake.init, Job.initial, Job.initial⟩

/-- The states some interleaving reaches from a newly created engine of slot `idx`. -/
def Reachable (idx : Nat) (S : Slot) : Prop :=
  ∃ g, Grid.create idx = .ok g ∧ Relation.ReflTransGen Step (initial g) S

/-! ### The slot refines the handshake -/

/-- **The ROI thread resizes the worker's raw frames.** Let the worker run
`localProcessFrame` on side `q` while the ROI thread is between calls, and let the next ROI be
the first ROI of an FOV whose height gives other frame lengths. `processOneRoi` runs
`reset`, whose `realloc` resizes `_fRawFrames[q]` too; the worker keeps running on it. -/
theorem roi_resizes_worker_side {S : Slot} {r : RoiBuffer}
    (hi : S.hs.roi = .idle) (hw : S.hs.worker = .processing)
    (hv : S.eng.toRawToDepth.validateMetadata r = true) (hd : r.md.isHdrDisabled = true)
    (hf : r.md.getFirstRoi S.eng.fovIdx = true)
    (hf1 : 3 ≤ r.md.getF1ModulationIndex) (hf0 : r.md.getF0ModulationIndex < 11)
    (hrtd : r.md.getDisableRtd S.eng.fovIdx = false)
    (hn : 0 < r.md.getFovNumRois S.eng.fovIdx) (hrows : 0 < r.md.getFovNumRows S.eng.fovIdx)
    (h0 : r.md.getFovStartRow S.eng.fovIdx ≤ r.md.getRoiStartRow)
    (hspan : r.md.getRoiStartRow - r.md.getFovStartRow S.eng.fovIdx + r.md.getRoiNumRows ≤
      r.md.getFovNumRows S.eng.fovIdx)
    (himg : r.md.getRoiStartRow + r.md.getRoiNumRows ≤ maxImageHeight)
    (hdata : r.data.length = RawToDepth.announcedShorts r.md)
    (hne : (S.eng.fRawFrames S.shared.side 0).length ≠
      numGpixelPhases * fovNumColumns * r.md.getFovNumRows S.eng.fovIdx) :
    ∃ S', Step S S' ∧ S'.hs.worker = .processing ∧ S'.shared = S.shared ∧
      (S'.eng.fRawFrames S.shared.side 0).length ≠ (S.eng.fRawFrames S.shared.side 0).length := by
  obtain ⟨e, he, -, -, -, -, -, -, -, -, hlen⟩ :=
    Grid.processOneRoi_first hv hd hf hf1 hf0 hrtd hn hrows h0 hspan himg hdata
  rw [← hlen S.shared.side 0] at hne
  cases hl : e.lastRoiReceived
  · exact ⟨_, .roi r hi he hl, hw, rfl, Ne.symm hne⟩
  · exact ⟨_, .roiLast r hi he hl, hw, rfl, Ne.symm hne⟩

/-- The first ROI of a one-ROI FOV eight rows high: `DEFAULT_METADATA` with its FOV `0`
shrunk from 480 rows to 8, and eight rows of announced data. -/
def smallFovRoi : RoiBuffer :=
  ⟨(RtdMetadata.defaultMetadata.set RtdMetadata.roiNumRowsOff 8).set
    (RtdMetadata.perFovOff 0 4) 8, List.replicate 92160 0⟩

theorem run_resizes_worker_side :
    ∃ S S', Reachable 0 S ∧ S.hs.worker = .processing ∧ Step S S' ∧
      S'.hs.worker = .processing ∧
      (S'.eng.fRawFrames S.shared.side 0).length ≠ (S.eng.fRawFrames S.shared.side 0).length := by
  have hl : RawToFovs.singleRoiFov.data.length = 92160 := List.length_replicate 92160 0
  have hl' : smallFovRoi.data.length = 92160 := List.length_replicate 92160 0
  obtain ⟨g, hg, hfov, -, hvf, -, -⟩ := Grid.create_ok 0
  obtain ⟨g1, h1, f1, -, v1, l1, -, -, -, -, len1⟩ :=
    @Grid.processOneRoi_first g RawToFovs.singleRoiFov
      (by rw [RawToDepth.validateMetadata, RoiBuffer.numBytes, hl, hvf, hfov]; decide)
      (by decide) (by rw [hfov]; decide) (by decide) (by decide) (by rw [hfov]; decide)
      (by rw [hfov]; decide) (by rw [hfov]; decide) (by rw [hfov]; decide)
      (by rw [hfov]; decide) (by decide) (by rw [hl]; decide)
  rw [hfov] at l1 len1
  have hlast : g1.lastRoiReceived = true := by rw [RawToDepth.lastRoiReceived, l1]; decide
  -- the one-ROI FOV is handed over and the worker starts on it
  let E := g1.processWholeFrame.1
  let j := g1.processWholeFrame.2
  have r1 : Step (initial g) ⟨E, ⟨.locking, .notStarted, false, false, true⟩, j, Job.initial⟩ :=
    .roiLast _ rfl h1 hlast
  have r2 : Step ⟨E, ⟨.locking, .notStarted, false, false, true⟩, j, Job.initial⟩
      ⟨E, ⟨.checking, .notStarted, false, false, true⟩, j, Job.initial⟩ :=
    .handshake .processWholeFrame (by simp) rfl
  have r3 : Step ⟨E, ⟨.checking, .notStarted, false, false, true⟩, j, Job.initial⟩
      ⟨E, ⟨.notifying, .locking, false, true, false⟩, j, j⟩ :=
    .handshake .processWholeFrame (by simp) rfl
  have r4 : Step ⟨E, ⟨.notifying, .locking, false, true, false⟩, j, j⟩
      ⟨E, ⟨.idle, .locking, false, true, false⟩, j, j⟩ :=
    .handshake .processWholeFrame (by simp) rfl
  have r5 : Step ⟨E, ⟨.idle, .locking, false, true, false⟩, j, j⟩
      ⟨E, ⟨.idle, .checking, false, true, false⟩, j, j⟩ := .worker rfl
  have r6 : Step ⟨E, ⟨.idle, .checking, false, true, false⟩, j, j⟩
      ⟨E, ⟨.idle, .processing, false, false, false⟩, j, j⟩ := .worker rfl
  -- the next ROI opens an FOV of 8 rows
  have e0 : E.fovIdx = 0 := f1.trans hfov
  obtain ⟨S', hs, hw, -, hne⟩ := @roi_resizes_worker_side
    ⟨E, ⟨.idle, .processing, false, false, false⟩, j, j⟩ smallFovRoi rfl rfl
    (by rw [RawToDepth.validateMetadata, RoiBuffer.numBytes, hl']
        simp only [E, Grid.processWholeFrame, v1, f1, hfov]; decide)
    (by decide) (by rw [e0]; decide) (by decide) (by decide) (by rw [e0]; decide)
    (by rw [e0]; decide) (by rw [e0]; decide) (by rw [e0]; decide) (by rw [e0]; decide)
    (by decide) (by rw [hl']; decide)
    (by simp only [E, Grid.processWholeFrame, f1, hfov, len1]; decide)
  exact ⟨_, S', ⟨g, hg, (((((Relation.ReflTransGen.single r1).tail r2).tail r3).tail r4).tail
    r5).tail r6⟩, rfl, hs, hw, hne⟩

end Slot

end Cobra
