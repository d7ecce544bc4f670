import Cobra.Buffer
import Mathlib.Data.List.Sort

/-!
# Handing Depth to the Network Pipeline

`CobraNetPipelineWrapper::HandInCobraDepth` turns a published `FovSegment` into a
`ReturnChunk` of `CPIReturn`s, one per 64-column packet of every image row, and hands the
chunk to the TCP worker, which gives the chunk and its `CPIReturn`s back to the pools of
`PipelineDataMM` once it has streamed them. `GetReturnChunk` returns `nullptr` on an empty
pool, and the FOV is dropped; `GetCPIReturn` calls `exit(1)`.

Each packet takes the timestamp of the median ROI index among its channels with a range
(`fillInTimestamp`). The median's timestamp is assigned through a reference bound to
`timestampsVec[0]`, so the `FovSegment`'s entry `0` is overwritten.

## Main results

* `handInCobraDepth_ok`: with a `ReturnChunk` and enough `CPIReturn`s free, a well-formed
  FOV of at most 480 rows and 640 columns is handed in, taking one `CPIReturn` per packet;
  no packet number reaches `MAX_CPI_PER_CHUNK`.
* `reachable_pools`: the pools and the chunks the worker holds always add up to the five
  chunks and 12000 `CPIReturn`s the constructor allocates.
* `handInCobraDepth_exits`: with a `ReturnChunk` free but fewer `CPIReturn`s than packets,
  `HandInCobraDepth` runs into `exit(1)`; `reachable_full_fov_exits`: the third of three
  full-resolution FOVs queued for the worker does.
* `fillInTimestamp_overwrites_first`: a packet with a range stamps the median ROI's
  timestamp and writes it over `timestampsVec[0]`; `handInCobraDepth_twoRowFov`: a later
  packet of ROI `0` then carries another ROI's timestamp.
-/

namespace Cobra

namespace NetPipeline

/-! ### Pools -/

def numLookAngles : Nat := 240
def numVirtCpiPerLookAngle : Nat := 10
def numFrameBuffers : Nat := 5
/-- `NUM_CPI_BUFFERS`: the `CPIReturn`s of five frames of 240 look angles. -/
def numCpiBuffers : Nat := numLookAngles * numVirtCpiPerLookAngle * numFrameBuffers
/-- `MAX_CPI_PER_CHUNK`, the length of `ReturnChunk::cpiReturns`. -/
def maxCpiPerChunk : Nat := 480 * 10
def numChannelsPerType2Packet : Nat := 64

/-- The timestamp fields of a `CPIReturn`: the 48-bit PTP seconds, the nanoseconds and
`tscale`. -/
structure Timestamp where
  ptpSec : Nat
  ptpNsec : Nat
  utc : Bool
  deriving DecidableEq, Repr

/-- The fields of a `CPIReturn` the stream depends on. -/
structure Cpi where
  timestamp : Timestamp
  metaLastCpiInFrame : Bool
  prefixMetaDataUpdate : Bool
  deriving DecidableEq, Repr

/-- The two pools of `PipelineDataMM`, and the chunks handed to the TCP worker, oldest
first, each with its `CPIReturn`s. -/
structure Pool where
  returnChunks : Nat
  cpiReturns : Nat
  handedIn : List (List Cpi)
  deriving DecidableEq, Repr

/-- `GetReturnChunk`: `nullptr` on an empty pool. -/
def getReturnChunk (p : Pool) : Option Pool :=
  if p.returnChunks = 0 then none else some { p with returnChunks := p.returnChunks - 1 }

/-- `GetCPIReturn`: `exit(1)` on an empty pool. -/
def getCPIReturn (p : Pool) : Except Fault Pool :=
  if p.cpiReturns = 0 then .error ⟨.cpiReturnPool, 0, 0⟩
  else .ok { p with cpiReturns := p.cpiReturns - 1 }

/-- The TCP worker's `DisposeReturnChunk` of the oldest chunk it holds. -/
def disposeReturnChunk (p : Pool) : Option Pool :=
  match p.handedIn with
  | [] => none
  | c :: rest => some ⟨p.returnChunks + 1, p.cpiReturns + c.length, rest⟩

/-! ### Timestamps -/

def ptpCoarseMask : Nat := 0x0000FFFFFFFFFFFF
def ptpFineMask : Nat := 0x3FFFFFFF
def arbTimeFilter : Nat := 0x40000000
def fpgaTimestampUnits : Nat := 10

/-- The encoding of a three-word timestamp in a `CPIReturn`: 48 bits of seconds from the
upper two words, the nanoseconds of the first word's 10 ns units in a `uint32_t`, and UTC
from 2004 on. -/
def encodeTimestamp (t : List Nat) : Except Fault Timestamp := do
  let t2 ← readAt .timestamp t 2
  let t1 ← readAt .timestamp t 1
  let t0 ← readAt .timestamp t 0
  let coarse := (t2 <<< 32 + t1) % 2 ^ 64
  return ⟨coarse &&& ptpCoarseMask, (t0 &&& ptpFineMask) * fpgaTimestampUnits % 2 ^ 32,
    !(coarse < arbTimeFilter)⟩

/-- The median of the ROI indices seen, `seenRoiIndices[count / 2]` after `std::sort`. -/
def median (seenRoiIndices : List Nat) : Nat :=
  (seenRoiIndices.insertionSort (· ≤ ·)).getD (seenRoiIndices.length / 2) 0

/-- `fillInTimestamp`: bind `medianTimestamp` to `timestampsVec.at(0)`; when a channel had a
range, assign the median ROI's timestamp to it, overwriting entry `0`; encode it. -/
def fillInTimestamp (seenRoiIndices : List Nat) (timestampsVec : List (List Nat)) :
    Except Fault (Timestamp × List (List Nat)) := do
  let _ ← readAt .timestampsVec timestampsVec 0
  let timestampsVec ← if seenRoiIndices = [] then pure timestampsVec else do
    let t ← readAt .timestampsVec timestampsVec (median seenRoiIndices)
    pure (timestampsVec.set 0 t)
  let t ← readAt .timestampsVec timestampsVec 0
  return (← encodeTimestamp t, timestampsVec)

/-! ### `HandInCobraDepth` -/

/-- The fields of a `FovSegment` that `HandInCobraDepth` reads. -/
structure FovSegment where
  sizeSteerDim : Nat
  sizeStareDim : Nat
  range : List Nat
  roiIndexFov : List Nat
  timestampsVec : List (List Nat)
  newMappingTable : Bool

/-- The channel loop of one packet: the ROI index of every channel with a range, up to the
image's last column, where the loop breaks. -/
def seenRoiIndices (fov : FovSegment) (startingSteerOrder startingStareOrder : Nat) :
    Except Fault (List Nat) :=
  forLoop (min numChannelsPerType2Packet (fov.sizeStareDim - startingStareOrder))
    (fun channel seen => do
      let inIndex := startingSteerOrder * fov.sizeStareDim + startingStareOrder + channel
      let r ← readAt .range fov.range inIndex
      if r ≠ 0 then return seen ++ [← readAt .roiIndexFov fov.roiIndexFov inIndex]
      else return seen)
    []

/-- The state of the fill loop: the pools, the chunk's `CPIReturn`s so far, the FOV's
`timestampsVec`, and `m_latchMetaUpdateNeeded`. -/
structure Fill where
  pool : Pool
  cpis : List Cpi
  timestampsVec : List (List Nat)
  latch : Bool

/-- One packet, row `i` and column block `j`: take a `CPIReturn`, store it at `pktNum`,
pass on the latched metadata update, and stamp it. -/
def fillPacket (fov : FovSegment) (stareSteps i j : Nat) (s : Fill) : Except Fault Fill := do
  let pool ← getCPIReturn s.pool
  let pktNum := i * stareSteps + j
  if maxCpiPerChunk ≤ pktNum then throw ⟨.cpiReturns, pktNum, maxCpiPerChunk⟩
  let seen ← seenRoiIndices fov i (numChannelsPerType2Packet * j)
  let (t, timestampsVec) ← fillInTimestamp seen s.timestampsVec
  let last := i = fov.sizeSteerDim - 1 ∧ j = stareSteps - 1
  return ⟨pool, s.cpis ++ [⟨t, last, s.latch⟩], timestampsVec, false⟩

/-- The number of 64-column packets of a row. -/
def stareSteps (fov : FovSegment) : Nat :=
  (fov.sizeStareDim + (numChannelsPerType2Packet - 1)) / numChannelsPerType2Packet

/-- `HandInCobraDepth`: latch a new mapping table, drop the FOV when no `ReturnChunk` is
free, otherwise fill one `CPIReturn` per packet and hand the chunk to the TCP worker. The
result also carries the FOV's `timestampsVec` as the call leaves it. -/
def handInCobraDepth (pool : Pool) (latch : Bool) (fov : FovSegment) :
    Except Fault (Pool × Bool × List (List Nat)) := do
  let latch := latch || fov.newMappingTable
  match getReturnChunk pool with
  | none => return (pool, latch, fov.timestampsVec)
  | some pool =>
    let s ← forLoop fov.sizeSteerDim (fun i => forLoop (stareSteps fov) (fun j =>
      fillPacket fov (stareSteps fov) i j)) ⟨pool, [], fov.timestampsVec, latch⟩
    return ({ s.pool with handedIn := s.pool.handedIn ++ [s.cpis] }, s.latch, s.timestampsVec)

/-! ### Well-formed FOVs are handed in without a fault -/

/-- What a FOV from R2D provides: a range and an ROI index for every pixel of its image, ROI
indices that index its timestamps, and timestamps of three words. -/
structure FovSegment.WellFormed (fov : FovSegment) : Prop where
  range : fov.sizeSteerDim * fov.sizeStareDim ≤ fov.range.length
  roiIndexFov : fov.sizeSteerDim * fov.sizeStareDim ≤ fov.roiIndexFov.length
  roiIndex_lt : ∀ k ∈ fov.roiIndexFov, k < fov.timestampsVec.length
  timestamps_ne : fov.timestampsVec ≠ []
  timestamp_length : ∀ t ∈ fov.timestampsVec, 3 ≤ t.length

theorem encodeTimestamp_ok {t : List Nat} (h : 3 ≤ t.length) :
    ∃ e, encodeTimestamp t = .ok e := by
  simp [encodeTimestamp, readAt_of_lt (show 2 < t.length by omega),
    readAt_of_lt (show 1 < t.length by omega), readAt_of_lt (show 0 < t.length by omega)]

/-- The pixel of channel `c` of packet `(i, j)` lies in the image. -/
theorem pixel_lt {steer stare i c : Nat} (hi : i < steer) (hc : c < stare) :
    i * stare + c < steer * stare :=
  calc i * stare + c < i * stare + stare := by omega
    _ = (i + 1) * stare := (Nat.succ_mul i stare).symm
    _ ≤ steer * stare := Nat.mul_le_mul_right _ hi

/-- Every ROI index a packet of a well-formed FOV collects indexes its timestamps. -/
theorem seenRoiIndices_ok {fov : FovSegment} (hw : fov.WellFormed) {i j : Nat}
    (hi : i < fov.sizeSteerDim) (hj : j < fov.sizeStareDim) :
    ∃ seen, seenRoiIndices fov i j = .ok seen ∧ ∀ k ∈ seen, k < fov.timestampsVec.length := by
  refine forLoop_ok (fun _ seen => ∀ k ∈ seen, k < fov.timestampsVec.length)
    (fun c hc seen hs => ?_) [] (by simp)
  have hc' : c < fov.sizeStareDim - j := Nat.lt_of_lt_of_le hc (Nat.min_le_right _ _)
  have hpix := @pixel_lt fov.sizeSteerDim fov.sizeStareDim i (j + c) hi (by omega)
  rw [← Nat.add_assoc] at hpix
  simp only [readAt_of_lt (Nat.lt_of_lt_of_le hpix hw.range), ok_bind]
  split
  · simp only [readAt_of_lt (Nat.lt_of_lt_of_le hpix hw.roiIndexFov), ok_bind, pure_eq_ok]
    exact ⟨_, rfl, fun k hk => by
      rcases List.mem_append.1 hk with hk | hk
      · exact hs k hk
      · exact List.mem_singleton.1 hk ▸ hw.roiIndex_lt _ (List.getElem_mem _)⟩
  · exact ⟨_, rfl, hs⟩

/-- Timestamps as a well-formed FOV has them: as many entries, of three words each. -/
def GoodTimestamps (fov : FovSegment) (ts : List (List Nat)) : Prop :=
  ts.length = fov.timestampsVec.length ∧ ∀ t ∈ ts, 3 ≤ t.length

/-- **`fillInTimestamp` overwrites entry `0`.** When some channel had a range and the median
ROI index is in range, the packet is stamped with the median ROI's timestamp, which is also
written over `timestampsVec[0]`. -/
theorem fillInTimestamp_overwrites_first {seen : List Nat} {ts : List (List Nat)}
    (hne : seen ≠ []) (hm : median seen < ts.length) (h0 : 0 < ts.length)
    (h3 : 3 ≤ ts[median seen].length) :
    ∃ e, encodeTimestamp ts[median seen] = .ok e ∧
      fillInTimestamp seen ts = .ok (e, ts.set 0 ts[median seen]) := by
  obtain ⟨e, he⟩ := encodeTimestamp_ok h3
  refine ⟨e, he, ?_⟩
  have h0' : 0 < (ts.set 0 ts[median seen]).length := by simpa using h0
  simp [fillInTimestamp, readAt_of_lt h0, hne, readAt_of_lt hm, readAt_of_lt h0', he]

theorem fillInTimestamp_overwrites_first_roiOne :
    ∃ e, encodeTimestamp [2, 0, 0] = .ok e ∧
      fillInTimestamp [1] [[1, 0, 0], [2, 0, 0]] = .ok (e, [[2, 0, 0], [2, 0, 0]]) :=
  @fillInTimestamp_overwrites_first [1] [[1, 0, 0], [2, 0, 0]] (by decide) (by decide)
    (by decide) (by decide)

/-- Two rows of one pixel, both with a range: row `0` of ROI `1`, row `1` of ROI `0`. -/
def twoRowFov : FovSegment := ⟨2, 1, [5, 5], [1, 0], [[1, 0, 0], [2, 0, 0]], false⟩

/-- The packet of row `1`, whose only channel is of ROI `0`, carries ROI `1`'s timestamp,
20 ns rather than ROI `0`'s 10 ns: the packet of row `0` wrote it over `timestampsVec[0]`. -/
theorem handInCobraDepth_twoRowFov :
    handInCobraDepth ⟨1, 2, []⟩ false twoRowFov =
      .ok (⟨0, 0, [[⟨⟨0, 20, false⟩, false, false⟩, ⟨⟨0, 20, false⟩, true, false⟩]]⟩, false,
        [[2, 0, 0], [2, 0, 0]]) := rfl

theorem fillInTimestamp_nil {ts : List (List Nat)} (h0 : 0 < ts.length) (h3 : 3 ≤ ts[0].length) :
    ∃ e, encodeTimestamp ts[0] = .ok e ∧ fillInTimestamp [] ts = .ok (e, ts) := by
  obtain ⟨e, he⟩ := encodeTimestamp_ok h3
  exact ⟨e, he, by simp [fillInTimestamp, readAt_of_lt h0, he]⟩

/-- `fillInTimestamp` keeps the timestamps good. -/
theorem fillInTimestamp_good {fov : FovSegment} {seen : List Nat} {ts : List (List Nat)}
    (hg : GoodTimestamps fov ts) (hne : 0 < ts.length) (hs : ∀ k ∈ seen, k < ts.length) :
    ∃ e ts', fillInTimestamp seen ts = .ok (e, ts') ∧ GoodTimestamps fov ts' := by
  by_cases h : seen = []
  · subst h
    obtain ⟨e, -, he⟩ := fillInTimestamp_nil hne (hg.2 _ (List.getElem_mem _))
    exact ⟨e, ts, he, hg⟩
  · have hl : seen.length / 2 < (seen.insertionSort (· ≤ ·)).length := by
      rw [List.length_insertionSort]
      exact Nat.div_lt_self (List.length_pos.2 h) (by decide)
    have hm : median seen < ts.length := by
      rw [show median seen = (seen.insertionSort (· ≤ ·))[seen.length / 2] by
        simp [median, List.getD, List.getElem?_eq_getElem hl]]
      exact hs _ ((List.perm_insertionSort _ _).subset (List.getElem_mem _))
    obtain ⟨e, -, he⟩ := fillInTimestamp_overwrites_first h hm hne (hg.2 _ (List.getElem_mem _))
    refine ⟨e, _, he, by simpa using hg.1, fun t ht => ?_⟩
    rcases List.mem_or_eq_of_mem_set ht with ht | rfl
    · exact hg.2 t ht
    · exact hg.2 _ (List.getElem_mem _)

/-! ### The fill loop -/

/-- The fill loop after `n` packets from the pools `pool0`. -/
structure Filled (fov : FovSegment) (pool0 : Pool) (n : Nat) (s : Fill) : Prop where
  pool : s.pool = { pool0 with cpiReturns := pool0.cpiReturns - n }
  cpis : s.cpis.length = n
  timestamps : GoodTimestamps fov s.timestampsVec

theorem stareSteps_le {fov : FovSegment} (h : fov.sizeStareDim ≤ 640) : stareSteps fov ≤ 10 := by
  unfold stareSteps numChannelsPerType2Packet; omega

theorem lt_stareDim_of_lt_stareSteps {fov : FovSegment} {j : Nat} (hj : j < stareSteps fov) :
    numChannelsPerType2Packet * j < fov.sizeStareDim := by
  unfold stareSteps numChannelsPerType2Packet at *; omega

/-- Every packet number of an image of at most 480 rows and 640 columns fits
`ReturnChunk::cpiReturns`. -/
theorem pktNum_lt {fov : FovSegment} (hsteer : fov.sizeSteerDim ≤ 480)
    (hstare : fov.sizeStareDim ≤ 640) {i j : Nat} (hi : i < fov.sizeSteerDim)
    (hj : j < stareSteps fov) : i * stareSteps fov + j < maxCpiPerChunk :=
  calc i * stareSteps fov + j < fov.sizeSteerDim * stareSteps fov := pixel_lt hi hj
    _ ≤ 480 * 10 := Nat.mul_le_mul hsteer (stareSteps_le hstare)

/-- With no `CPIReturn` free, the next packet runs into `exit(1)`. -/
theorem fillPacket_exits {fov : FovSegment} {pool0 : Pool} {n i j : Nat} {s : Fill}
    (hn : pool0.cpiReturns ≤ n) (hs : Filled fov pool0 n s) :
    fillPacket fov (stareSteps fov) i j s = .error ⟨.cpiReturnPool, 0, 0⟩ := by
  simp [fillPacket, getCPIReturn, hs.pool, Nat.sub_eq_zero_of_le hn]

section Fill

variable {fov : FovSegment} (hw : fov.WellFormed) (hsteer : fov.sizeSteerDim ≤ 480)
  (hstare : fov.sizeStareDim ≤ 640) {pool0 : Pool}
include hw hsteer hstare

/-- A packet with a `CPIReturn` free is filled: it takes one. -/
theorem fillPacket_ok {n i j : Nat} {s : Fill} (hi : i < fov.sizeSteerDim)
    (hj : j < stareSteps fov) (hn : n < pool0.cpiReturns) (hs : Filled fov pool0 n s) :
    ∃ s', fillPacket fov (stareSteps fov) i j s = .ok s' ∧ Filled fov pool0 (n + 1) s' := by
  obtain ⟨seen, hseen, hlt⟩ := seenRoiIndices_ok hw hi (lt_stareDim_of_lt_stareSteps hj)
  have hg := hs.timestamps
  have hne : 0 < s.timestampsVec.length := by
    rw [hg.1]; exact List.length_pos.2 hw.timestamps_ne
  obtain ⟨e, ts', hf, hg'⟩ := fillInTimestamp_good hg hne (fun k hk => hg.1 ▸ hlt k hk)
  have hc : s.pool.cpiReturns ≠ 0 := by rw [hs.pool]; simp only; omega
  refine ⟨⟨{ s.pool with cpiReturns := s.pool.cpiReturns - 1 },
    s.cpis ++ [⟨e, i = fov.sizeSteerDim - 1 ∧ j = stareSteps fov - 1, s.latch⟩], ts', false⟩,
    ?_, ⟨?_, ?_, hg'⟩⟩
  · simp only [fillPacket, getCPIReturn, hc, if_false, ok_bind,
      Nat.not_le.2 (pktNum_lt hsteer hstare hi hj), hseen, hf]
    rfl
  · simp only [hs.pool]; congr 1
  · simp [hs.cpis]

/-- Row `i` of the image, when its packets find their `CPIReturn`s. -/
theorem fillRow_ok {i : Nat} {s : Fill} (hi : i < fov.sizeSteerDim)
    (hn : (i + 1) * stareSteps fov ≤ pool0.cpiReturns)
    (hs : Filled fov pool0 (i * stareSteps fov) s) :
    ∃ s', forLoop (stareSteps fov) (fun j => fillPacket fov (stareSteps fov) i j) s = .ok s' ∧
      Filled fov pool0 ((i + 1) * stareSteps fov) s' := by
  rw [Nat.succ_mul] at hn ⊢
  exact forLoop_ok (fun j s => Filled fov pool0 (i * stareSteps fov + j) s)
    (fun j hj s hs => @fillPacket_ok fov hw hsteer hstare pool0 (i * stareSteps fov + j) i j s
      hi hj (by omega) hs) s (by simpa using hs)

/-- **The whole image**, when the pool has a `CPIReturn` for every packet. -/
theorem fillRows_ok {s : Fill} (hn : fov.sizeSteerDim * stareSteps fov ≤ pool0.cpiReturns)
    (hs : Filled fov pool0 0 s) :
    ∃ s', forLoop fov.sizeSteerDim (fun i => forLoop (stareSteps fov) (fun j =>
      fillPacket fov (stareSteps fov) i j)) s = .ok s' ∧
      Filled fov pool0 (fov.sizeSteerDim * stareSteps fov) s' :=
  forLoop_ok (fun i s => Filled fov pool0 (i * stareSteps fov) s)
    (fun i hi s hs => fillRow_ok hw hsteer hstare hi
      (Nat.le_trans (Nat.mul_le_mul_right _ hi) hn) hs) s (by simpa using hs)

/-- **The image runs the pool dry**: with fewer `CPIReturn`s than packets, the fill loop
reaches `exit(1)` at packet number `pool0.cpiReturns`. -/
theorem fillRows_exits {s : Fill} (hn : pool0.cpiReturns < fov.sizeSteerDim * stareSteps fov)
    (hs : Filled fov pool0 0 s) :
    forLoop fov.sizeSteerDim (fun i => forLoop (stareSteps fov) (fun j =>
      fillPacket fov (stareSteps fov) i j)) s = .error ⟨.cpiReturnPool, 0, 0⟩ := by
  set S := stareSteps fov
  set c := pool0.cpiReturns
  have hS : 0 < S := Nat.pos_of_ne_zero fun h => by simp [h] at hn
  have hk : c / S < fov.sizeSteerDim := (Nat.div_lt_iff_lt_mul hS).2 hn
  have hdiv : c / S * S + c % S = c := Nat.div_add_mod' c S
  refine forLoop_error_at (fun i s => Filled fov pool0 (i * S) s) hk
    (fun i hi s hs => fillRow_ok hw hsteer hstare (Nat.lt_trans hi hk)
      ((Nat.le_div_iff_mul_le hS).1 hi) hs)
    (fun s hs => ?_) s (by simpa using hs)
  exact forLoop_error_at (fun j s => Filled fov pool0 (c / S * S + j) s) (Nat.mod_lt c hS)
    (fun j hj s hs => @fillPacket_ok fov hw hsteer hstare pool0 (c / S * S + j) _ j s hk
      (Nat.lt_trans hj (Nat.mod_lt c hS)) (by omega) hs)
    (fun s hs => fillPacket_exits (by omega) hs) s (by simpa using hs)

end Fill

/-! ### `HandInCobraDepth` and the pools -/

theorem getReturnChunk_of_pos {pool : Pool} (hc : 0 < pool.returnChunks) :
    getReturnChunk pool = some { pool with returnChunks := pool.returnChunks - 1 } := by
  simp [getReturnChunk, Nat.pos_iff_ne_zero.1 hc]

theorem filled_zero {fov : FovSegment} (hw : fov.WellFormed) (pool : Pool) (latch : Bool) :
    Filled fov pool 0 ⟨pool, [], fov.timestampsVec, latch⟩ :=
  ⟨by simp, rfl, rfl, hw.timestamp_length⟩

section HandIn

variable {pool : Pool} {latch : Bool} {fov : FovSegment} (hw : fov.WellFormed)
  (hsteer : fov.sizeSteerDim ≤ 480) (hstare : fov.sizeStareDim ≤ 640)
  (hc : 0 < pool.returnChunks)
include hw hsteer hstare hc

/-- **A FOV the pools can hold is handed in.** With a `ReturnChunk` free and a `CPIReturn`
for every packet, the chunk goes to the TCP worker with one `CPIReturn` per packet. -/
theorem handInCobraDepth_ok (hcpi : fov.sizeSteerDim * stareSteps fov ≤ pool.cpiReturns) :
    ∃ cpis latch' ts, handInCobraDepth pool latch fov =
      .ok (⟨pool.returnChunks - 1, pool.cpiReturns - fov.sizeSteerDim * stareSteps fov,
        pool.handedIn ++ [cpis]⟩, latch', ts) ∧
      cpis.length = fov.sizeSteerDim * stareSteps fov := by
  have hn : fov.sizeSteerDim * stareSteps fov ≤
      ({ pool with returnChunks := pool.returnChunks - 1 } : Pool).cpiReturns := hcpi
  obtain ⟨s, hs, hf⟩ := fillRows_ok hw hsteer hstare hn
    (filled_zero hw _ (latch || fov.newMappingTable))
  refine ⟨s.cpis, s.latch, s.timestampsVec, ?_, hf.cpis⟩
  simp only [handInCobraDepth, getReturnChunk_of_pos hc, hs, ok_bind, hf.pool]
  rfl

/-- **`HandInCobraDepth` exits when the `CPIReturn`s run out.** With a `ReturnChunk` free but
fewer `CPIReturn`s than the FOV has packets, it takes the chunk and then calls `exit(1)` in
`GetCPIReturn`; the FOV is not dropped. -/
theorem handInCobraDepth_exits (hcpi : pool.cpiReturns < fov.sizeSteerDim * stareSteps fov) :
    handInCobraDepth pool latch fov = .error ⟨.cpiReturnPool, 0, 0⟩ := by
  have hn : ({ pool with returnChunks := pool.returnChunks - 1 } : Pool).cpiReturns <
      fov.sizeSteerDim * stareSteps fov := hcpi
  simp only [handInCobraDepth, getReturnChunk_of_pos hc,
    fillRows_exits hw hsteer hstare hn (filled_zero hw _ _)]
  rfl

end HandIn

/-! ### The pools over a whole run -/

/-- The fill loop has moved `CPIReturn`s from `pool` to the chunk, and left the rest of the
pools alone. -/
def Moved (pool : Pool) (s : Fill) : Prop :=
  s.pool.returnChunks = pool.returnChunks ∧ s.pool.handedIn = pool.handedIn ∧
    s.pool.cpiReturns + s.cpis.length = pool.cpiReturns

/-- A packet that is filled takes one `CPIReturn` from the pool and appends it to the
chunk. -/
theorem fillPacket_moved {fov : FovSegment} {S i j : Nat} {pool : Pool} {s s' : Fill}
    (hs : Moved pool s) (h : fillPacket fov S i j s = .ok s') : Moved pool s' := by
  by_cases h0 : s.pool.cpiReturns = 0
  · simp [fillPacket, getCPIReturn, h0] at h
  simp only [fillPacket, getCPIReturn, h0, if_false, ok_bind] at h
  split_ifs at h
  · cases h
  obtain ⟨_, -, h⟩ := bind_eq_ok.1 h
  obtain ⟨_, -, h⟩ := bind_eq_ok.1 h
  obtain ⟨_, -, h⟩ := bind_eq_ok.1 h
  cases h
  obtain ⟨h1, h2, h3⟩ := hs
  exact ⟨h1, h2, by simp only [List.length_append, List.length_singleton]; omega⟩

/-- What one hand-in does to the pools: it drops the FOV and leaves them, or it takes a
`ReturnChunk` and hands it to the worker with the `CPIReturn`s it took. -/
theorem handInCobraDepth_pool {pool pool' : Pool} {latch latch' : Bool} {fov : FovSegment}
    {ts : List (List Nat)} (h : handInCobraDepth pool latch fov = .ok (pool', latch', ts)) :
    pool' = pool ∨ pool.returnChunks ≠ 0 ∧ ∃ cpis : List Cpi, cpis.length ≤ pool.cpiReturns ∧
      pool' = ⟨pool.returnChunks - 1, pool.cpiReturns - cpis.length, pool.handedIn ++ [cpis]⟩ := by
  unfold handInCobraDepth getReturnChunk at h
  split_ifs at h with h0
  · cases h; exact .inl rfl
  obtain ⟨s, hs, h⟩ := bind_eq_ok.1 h
  cases h
  obtain ⟨h1, h2, h3⟩ : Moved { pool with returnChunks := pool.returnChunks - 1 } s :=
    forLoop_inv _ (fun _ _ _ _ ht h => forLoop_inv _ (fun _ _ _ _ => fillPacket_moved) ht h)
      ⟨rfl, rfl, Nat.add_zero _⟩ hs
  dsimp only at h1 h2 h3
  refine .inr ⟨h0, s.cpis, by omega, ?_⟩
  simp only [h1, h2, ← h3, Nat.add_sub_cancel]

/-- The depth path and the TCP worker over the pools and `m_latchMetaUpdateNeeded`: a FOV
R2D can publish is handed in (a hand-in that exits ends the run), or the worker disposes of
the oldest chunk it holds. -/
inductive Step : Pool × Bool → Pool × Bool → Prop where
  | handIn {pool pool' : Pool} {latch latch' : Bool} {ts : List (List Nat)} (fov : FovSegment)
      (hw : fov.WellFormed) (hsteer : fov.sizeSteerDim ≤ 480) (hstare : fov.sizeStareDim ≤ 640)
      (h : handInCobraDepth pool latch fov = .ok (pool', latch', ts)) :
      Step (pool, latch) (pool', latch')
  | dispose {pool pool' : Pool} {latch : Bool} (h : disposeReturnChunk pool = some pool') :
      Step (pool, latch) (pool', latch)

/-- The pools as the wrapper's constructor allocates them. -/
def initialPool : Pool := ⟨numFrameBuffers, numCpiBuffers, []⟩

def Reachable (w : Pool × Bool) : Prop := Relation.ReflTransGen Step (initialPool, false) w

/-- Every `ReturnChunk` and `CPIReturn` is in its pool or in a chunk the worker holds. -/
def Conserved (pool : Pool) : Prop :=
  pool.returnChunks + pool.handedIn.length = numFrameBuffers ∧
    pool.cpiReturns + pool.handedIn.flatten.length = numCpiBuffers

theorem step_conserved {w w' : Pool × Bool} (hs : Step w w') (h : Conserved w.1) :
    Conserved w'.1 := by
  unfold Conserved at h ⊢
  obtain ⟨hr, hc⟩ := h
  cases hs with
  | handIn fov _ _ _ h' =>
    rcases handInCobraDepth_pool h' with e | ⟨h0, cpis, hle, e⟩ <;> subst e
    · exact ⟨hr, hc⟩
    · simp only [List.length_append, List.flatten_append, List.length_singleton,
        List.flatten_cons, List.flatten_nil, List.append_nil] at hr hc ⊢
      omega
  | dispose h' =>
    unfold disposeReturnChunk at h'
    split at h' <;> cases h'
    rename_i c rest e
    simp only [e, List.length_cons, List.flatten_cons, List.length_append] at hr hc
    exact ⟨by dsimp only; omega, by dsimp only; omega⟩

/-- **No `ReturnChunk` or `CPIReturn` is lost or made up.** In every reachable state the
pools and the chunks the worker holds add up to the five chunks and 12000 `CPIReturn`s the
constructor allocates. -/
theorem reachable_pools {w : Pool × Bool} (h : Reachable w) : Conserved w.1 := by
  induction h with
  | refl => exact ⟨rfl, rfl⟩
  | tail _ hs ih => exact step_conserved hs ih

/-! ### A queue of full-resolution chunks exhausts the `CPIReturn`s -/

/-- A full-resolution FOV, 480 rows of 640 columns, all of ROI `0` and without a range. -/
def fullFov : FovSegment :=
  ⟨480, 640, List.replicate 307200 0, List.replicate 307200 0, [[0, 0, 0]], false⟩

theorem fullFov_wellFormed : fullFov.WellFormed where
  range := by simp only [fullFov, List.length_replicate]; decide
  roiIndexFov := by simp only [fullFov, List.length_replicate]; decide
  roiIndex_lt k h := by
    rw [fullFov, List.mem_replicate] at h
    rw [h.2]; decide
  timestamps_ne := by decide
  timestamp_length := by decide

theorem fullFov_packets : fullFov.sizeSteerDim * stareSteps fullFov = 4800 := rfl

/-- Two full-resolution chunks the worker has not disposed of yet leave three `ReturnChunk`s
but only 2400 `CPIReturn`s, and the third full-resolution FOV exits. -/
theorem reachable_full_fov_exits :
    ∃ w, Reachable w ∧ handInCobraDepth w.1 w.2 fullFov = .error ⟨.cpiReturnPool, 0, 0⟩ := by
  obtain ⟨c1, l1, t1, h1, -⟩ := @handInCobraDepth_ok initialPool false fullFov fullFov_wellFormed
    le_rfl le_rfl (by decide) (by decide)
  obtain ⟨c2, l2, t2, h2, -⟩ := @handInCobraDepth_ok ⟨4, 7200, [c1]⟩ l1 fullFov fullFov_wellFormed
    le_rfl le_rfl (by simp) (by simp [fullFov_packets])
  simp only [initialPool, numFrameBuffers, numCpiBuffers, numLookAngles, numVirtCpiPerLookAngle,
    fullFov_packets, List.nil_append, List.singleton_append] at h1 h2
  have r : Reachable (⟨3, 2400, [c1, c2]⟩, l2) :=
    (Relation.ReflTransGen.single (.handIn fullFov fullFov_wellFormed le_rfl le_rfl h1)).tail
      (.handIn fullFov fullFov_wellFormed le_rfl le_rfl h2)
  exact ⟨_, r, handInCobraDepth_exits fullFov_wellFormed le_rfl le_rfl (by simp)
    (by simp [fullFov_packets])⟩

end NetPipeline

end Cobra
