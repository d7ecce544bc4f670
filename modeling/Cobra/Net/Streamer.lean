import Mathlib.Data.List.Chain
import Cobra.Metadata
import Cobra.Net.Pipeline

/-!
# Sequence Numbers and Scene Markers of the TCP Streamer

`NetworkStreamer` numbers every packet it builds with `m_seq`, a `uint32_t` it advances for
every packet, whether or not a client is connected. `WorkOnCPIChunk` builds one Type D packet
per streamed `CPIReturn` and keeps the scene markers: the first CPI of a chunk, and the CPI
after one with `metaLastCpiInFrame`, opens a scene, which moves the current scene's first and
last numbers to the last scene's. `UpdateClientMeta` sends the mapping table as a burst of
Type C packets once a full calibration is cached. `TCPWrappedStreamer` serves one client: a
connection waiting on the listening socket replaces the current one at every `StartROISend`,
and is sent the mapping table at once; a send that fails with `ECONNRESET` or `EPIPE` closes
the connection, and any other failure is logged and loses the packet.

The model runs the streaming thread against an environment that answers its `accept` and
`send` calls in order (`Streamer.accepts`, `Streamer.sends`). It records what each connection
receives (`Streamer.wire`), how many packets were numbered and how many send errors were
logged.

## Main results

* `Streamer.reachable_streams_ok`: while fewer than `2^32` packets have been numbered and no
  send error has been logged, every connection receives consecutive numbers, every Type D
  header orders its scene markers, and the current scene's end is marked exactly on the
  packets of a frame's last CPI, with the packet's own number.
* `Streamer.reachable_seq_breaks`: the `2^32`-nd packet wraps `m_seq` to `0`, on a connection
  and in the current scene's start; and a logged send error leaves a gap on its connection.
-/

namespace Cobra

namespace NetStreamer

/-- `m_seq` and the scene numbers are `uint32_t`. -/
def seqModulus : Nat := 2 ^ 32

/-- `MAPPING_TABLE_WIDTH` and `MAPPING_TABLE_HEIGHT`. -/
def mappingTableWidth : Nat := imageWidth * 2 - 1
def mappingTableHeight : Nat := maxImageHeight * 2 - 1
def typeCPointsPerPacketMax : Nat := 64

/-- The Type C packets of one row of the mapping table, one for every `payloadU` from `0` in
steps of `TYPE_C_POINTS_PER_PACKET_MAX` below the width. -/
def typeCPacketsPerRow : Nat :=
  (mappingTableWidth + typeCPointsPerPacketMax - 1) / typeCPointsPerPacketMax

/-- What `send` does with a whole framed packet. -/
inductive SendResult
  | sent
  /-- `ECONNRESET` or `EPIPE`. -/
  | connReset
  | otherError
  deriving DecidableEq, Repr

/-- The fields of a `CPIReturn` that `WorkOnCPIChunk` decides on; it copies the others into
the packet. `calibration` says that `calibrationX`, `calibrationY`, `calibrationTheta` and
`calibrationPhi` are all set. -/
structure CpiReturn where
  metaSupressStream : Bool
  calibration : Bool
  prefixMetaDataUpdate : Bool
  metaLastCpiInFrame : Bool
  deriving DecidableEq, Repr

/-- The scene fields of a `TypeDHeader`: the four `TypeDAOSeqFlags` and the four numbers,
zero where the code leaves them unset. -/
structure TypeDHeader where
  lastSceneBeginSequenceValid : Bool
  lastSceneEndSequenceValid : Bool
  currentSceneBeginSequenceValid : Bool
  currentSceneEndSequenceValid : Bool
  aolsstartSeq : Nat
  aolsendSeq : Nat
  aocsstartSeq : Nat
  aocsendSeq : Nat
  deriving DecidableEq, Repr

/-- A packet as its client receives it: the global header's `seq`, and for a Type D packet
its scene fields and the `CPIReturn` it carries. -/
inductive Packet
  | typeC (seq : Nat)
  | typeD (seq : Nat) (tDh : TypeDHeader) (cpir : CpiReturn)
  deriving DecidableEq, Repr

def Packet.seq : Packet → Nat
  | .typeC q => q
  | .typeD q _ _ => q

/-- The streaming thread: `m_seq`, the scene fields, whether a full calibration is cached,
and `m_clientfd` as the number of the connection it holds; then the environment: the answers
still to come from `accept` and `send`, what the connections have received, and the numbers
of packets numbered and of send errors logged so far. -/
structure Streamer where
  seq : Nat
  lastSceneSeqsValid : Bool
  thisSceneSeqsValid : Bool
  lastSceneBeginSeq : Nat
  lastSceneEndSeq : Nat
  thisSceneBeginSeq : Nat
  thisSceneLastSeq : Nat
  calibrated : Bool
  clientfd : Option Nat
  conns : Nat
  accepts : List Bool
  sends : List SendResult
  wire : List (Nat × Packet)
  numbered : Nat
  sendErrors : Nat
  deriving DecidableEq, Repr

namespace Streamer

/-- `m_seq++`. -/
def bumpSeq (s : Streamer) : Streamer :=
  { s with seq := (s.seq + 1) % seqModulus, numbered := s.numbered + 1 }

/-- `TCPWrappedStreamer::NetworkSend`: nothing without a client; otherwise the client receives
the packet, or `ECONNRESET`/`EPIPE` closes the connection, or the error is logged. -/
def networkSend (s : Streamer) (p : Packet) : Streamer :=
  match s.clientfd with
  | none => s
  | some c =>
    match s.sends.headD .sent with
    | .sent => { s with sends := s.sends.tail, wire := s.wire ++ [(c, p)] }
    | .connReset => { s with sends := s.sends.tail, clientfd := none }
    | .otherError => { s with sends := s.sends.tail, sendErrors := s.sendErrors + 1 }

/-- Number a packet with `m_seq`, advance `m_seq`, and send the packet. -/
def emit (s : Streamer) (p : Nat → Packet) : Streamer :=
  s.bumpSeq.networkSend (p s.seq)

/-- One Type C packet of the mapping table. -/
def sendTypeC (s : Streamer) : Streamer := s.emit .typeC

/-- The two loops of `UpdateClientMeta` over the mapping table, one Type C packet each. -/
def typeCBurst (s : Streamer) : Streamer :=
  sendTypeC^[mappingTableHeight * typeCPacketsPerRow] s

/-- A new connection replaces the current one, which `CloseConnection` closes. -/
def openConnection (s : Streamer) : Streamer :=
  { s with clientfd := some s.conns, conns := s.conns + 1 }

mutual

/-- `TCPWrappedStreamer::AcceptNewConnection`, which `StartROISend` calls: a waiting
connection replaces the current one and, the output being processed data, is sent the
mapping table. -/
def acceptNewConnection (s : Streamer) : Streamer :=
  match _h : s.accepts with
  | [] => s
  | false :: rest => { s with accepts := rest }
  | true :: rest => updateClientMeta (openConnection { s with accepts := rest })
termination_by (s.accepts.length, 0)
decreasing_by simp only [openConnection, _h, List.length_cons]; omega

/-- `NetworkStreamer::UpdateClientMeta`: nothing without a full calibration; otherwise
`StartROISend`, which may accept yet another connection, and the mapping table. -/
def updateClientMeta (s : Streamer) : Streamer :=
  if s.calibrated then typeCBurst (acceptNewConnection s) else s
termination_by (s.accepts.length, 1)

end

/-- The scene fields of the header of a Type D packet built in state `s`. -/
def typeDHeader (s : Streamer) (cpir : CpiReturn) : TypeDHeader where
  lastSceneBeginSequenceValid := s.lastSceneSeqsValid
  lastSceneEndSequenceValid := s.lastSceneSeqsValid
  currentSceneBeginSequenceValid := s.thisSceneSeqsValid
  currentSceneEndSequenceValid := s.thisSceneSeqsValid && cpir.metaLastCpiInFrame
  aolsstartSeq := if s.lastSceneSeqsValid then s.lastSceneBeginSeq else 0
  aolsendSeq := if s.lastSceneSeqsValid then s.lastSceneEndSeq else 0
  aocsstartSeq := if s.thisSceneSeqsValid then s.thisSceneBeginSeq else 0
  aocsendSeq := if s.thisSceneSeqsValid && cpir.metaLastCpiInFrame then s.seq else 0

/-- Scene management of a CPI that opens a scene: last scene ← this scene, this scene ← a
fresh one beginning at `m_seq`. -/
def openScene (s : Streamer) : Streamer :=
  { s with
    lastSceneSeqsValid := s.thisSceneSeqsValid
    lastSceneBeginSeq := s.thisSceneBeginSeq
    lastSceneEndSeq := s.thisSceneLastSeq
    thisSceneSeqsValid := true
    thisSceneBeginSeq := s.seq }

/-- The Type D packet of a `CPIReturn`; it becomes the last packet of this scene. -/
def sendTypeD (s : Streamer) (cpir : CpiReturn) : Streamer :=
  { s with thisSceneLastSeq := s.seq }.emit (fun q => .typeD q (s.typeDHeader cpir) cpir)

/-- One iteration of `WorkOnCPIChunk`'s loop, with its local `newScene`. A suppressed CPI is
skipped; otherwise a full calibration is cached, a latched metadata update sends the mapping
table, and the packet is sent, opening a scene first if `newScene` is set. -/
def workOnCpi (st : Bool × Streamer) (cpir : CpiReturn) : Bool × Streamer :=
  if cpir.metaSupressStream then st else
    let s := if cpir.calibration then { st.2 with calibrated := true } else st.2
    let s := if cpir.prefixMetaDataUpdate then updateClientMeta s else s
    let s := if st.1 then openScene s else s
    (cpir.metaLastCpiInFrame, s.sendTypeD cpir)

/-- `NetworkStreamer::WorkOnCPIChunk`: every chunk opens a scene. -/
def workOnCPIChunk (s : Streamer) (chunk : List CpiReturn) : Streamer :=
  (chunk.foldl workOnCpi (true, s)).2

/-- `WorkOnSingleChunk` for processed data: `StartROISend`, then the chunk. (`FinishROISend`
only counts debug frames.) -/
def workOnSingleChunk (s : Streamer) (chunk : List CpiReturn) : Streamer :=
  s.acceptNewConnection.workOnCPIChunk chunk

/-- A new streamer, before its first chunk, in a given environment. -/
def init (accepts : List Bool) (sends : List SendResult) : Streamer :=
  ⟨0, false, false, 0, 0, 0, 0, false, none, 0, accepts, sends, [], 0, 0⟩

/-- The streaming thread takes one chunk the depth path handed in. -/
inductive Step : Streamer → Streamer → Prop
  | chunk {s : Streamer} (chunk : List CpiReturn) (h : chunk.length ≤ NetPipeline.maxCpiPerChunk) :
      Step s (s.workOnSingleChunk chunk)

/-- The states of a run in some environment. -/
def Reachable (s : Streamer) : Prop :=
  ∃ accepts sends, Relation.ReflTransGen Step (init accepts sends) s

/-! ### What a client should receive -/

/-- What connection `c` has received, in order. -/
def received (w : List (Nat × Packet)) (c : Nat) : List Packet :=
  (w.filter (fun x => x.1 == c)).map Prod.snd

/-- Every connection receives consecutive numbers. -/
def SeqConsecutive (s : Streamer) : Prop :=
  ∀ c, (received s.wire c).Chain' (fun p q => q.seq = p.seq + 1)

end Streamer

/-- The scene markers of a Type D header numbered `seq` are ordered: the last scene's begin
and end are marked together, with the current scene's begin, and
`lastSceneBegin ≤ lastSceneEnd < currentSceneBegin ≤ seq`. -/
def TypeDHeader.Ordered (h : TypeDHeader) (seq : Nat) : Prop :=
  (h.lastSceneBeginSequenceValid = true → h.lastSceneEndSequenceValid = true ∧
    h.currentSceneBeginSequenceValid = true ∧ h.aolsstartSeq ≤ h.aolsendSeq ∧
    h.aolsendSeq < h.aocsstartSeq) ∧
  (h.currentSceneBeginSequenceValid = true → h.aocsstartSeq ≤ seq)

/-- The current scene's end is marked exactly on the packet of a frame's last CPI, with the
packet's own number. -/
def TypeDHeader.EndMarked (h : TypeDHeader) (seq : Nat) (cpir : CpiReturn) : Prop :=
  h.currentSceneEndSequenceValid = cpir.metaLastCpiInFrame ∧
    (h.currentSceneEndSequenceValid = true → h.aocsendSeq = seq)

def Packet.Marked : Packet → Prop
  | .typeC _ => True
  | .typeD q h cpir => h.Ordered q ∧ h.EndMarked q cpir

namespace Streamer

/-- Every Type D packet received carries ordered scene markers and marks the scene's end
on the packet of the frame's last CPI. -/
def ScenesMarked (s : Streamer) : Prop := ∀ x ∈ s.wire, x.2.Marked

/-! ### The invariant -/

/-- `t` has numbered and logged at least what `s` had. -/
def Le (s t : Streamer) : Prop := s.numbered ≤ t.numbered ∧ s.sendErrors ≤ t.sendErrors

/-- Fewer than `2^32` packets numbered, so `m_seq` has not wrapped, and no send error
logged. -/
def Good (s : Streamer) : Prop := s.numbered < seqModulus ∧ s.sendErrors = 0

theorem Good.of_le {s t : Streamer} (h : t.Good) (hl : Le s t) : s.Good :=
  ⟨lt_of_le_of_lt hl.1 h.1, Nat.eq_zero_of_le_zero (h.2 ▸ hl.2)⟩

/-- What the connections have received: consecutive numbers, the current connection's last
packet numbered just below `m_seq`, and marked scenes. -/
structure WireInv (s : Streamer) : Prop where
  seq : s.seq = s.numbered
  client : ∀ c, s.clientfd = some c → c < s.conns
  wire : ∀ x ∈ s.wire, x.1 < s.conns
  consecutive : s.SeqConsecutive
  last : ∀ c, s.clientfd = some c → ∀ p ∈ (received s.wire c).getLast?, p.seq + 1 = s.numbered
  marked : s.ScenesMarked

theorem WireInv.congr {s t : Streamer} (h : s.WireInv) (hseq : t.seq = s.seq)
    (hn : t.numbered = s.numbered) (hc : t.clientfd = s.clientfd) (hk : t.conns = s.conns)
    (hw : t.wire = s.wire) : t.WireInv := by
  obtain ⟨h1, h2, h3, h4, h5, h6⟩ := h
  refine ⟨?_, ?_, ?_, ?_, ?_, ?_⟩ <;> simp only [hseq, hn, hc, hk, hw, SeqConsecutive, ScenesMarked] <;>
    assumption

/-- The scene fields: a scene's begin is at most its last packet, the last scene ends before
this one begins, and both lie below `m_seq`. -/
structure SceneInv (s : Streamer) : Prop where
  thisScene : s.thisSceneSeqsValid = true →
    s.thisSceneBeginSeq ≤ s.thisSceneLastSeq ∧ s.thisSceneLastSeq < s.numbered
  lastScene : s.lastSceneSeqsValid = true → s.thisSceneSeqsValid = true ∧
    s.lastSceneBeginSeq ≤ s.lastSceneEndSeq ∧ s.lastSceneEndSeq < s.thisSceneBeginSeq

def Inv (s : Streamer) : Prop := s.WireInv ∧ s.SceneInv

/-- Going from `s` to `t` numbers and logs no less, and keeps the invariant as long as the
run stays good. -/
def Keeps (s t : Streamer) : Prop := Le s t ∧ (s.Inv → t.Good → t.Inv)

theorem Keeps.refl (s : Streamer) : Keeps s s := ⟨⟨le_rfl, le_rfl⟩, fun h _ => h⟩

theorem Keeps.trans {s t u : Streamer} (h₁ : Keeps s t) (h₂ : Keeps t u) : Keeps s u :=
  ⟨⟨h₁.1.1.trans h₂.1.1, h₁.1.2.trans h₂.1.2⟩, fun hs hu => h₂.2 (h₁.2 hs (hu.of_le h₂.1)) hu⟩

/-! ### Sending a packet -/

theorem received_append (w : List (Nat × Packet)) (d c : Nat) (p : Packet) :
    received (w ++ [(d, p)]) c = if d = c then received w c ++ [p] else received w c := by
  by_cases h : d = c <;> simp [received, h]

theorem received_fresh {w : List (Nat × Packet)} {n : Nat} (h : ∀ x ∈ w, x.1 < n) :
    received w n = [] := by
  simp only [received, List.map_eq_nil_iff, List.filter_eq_nil_iff, beq_iff_eq]
  exact fun x hx he => (h x hx).ne he

/-- `NetworkSend` changes only the connection, the send answers, what the client received and
the error log, which only grows. -/
theorem networkSend_frame (s : Streamer) (p : Packet) : ∃ cl se w e,
    s.networkSend p = { s with clientfd := cl, sends := se, wire := w, sendErrors := e } ∧
      s.sendErrors ≤ e := by
  unfold networkSend
  split
  · exact ⟨_, _, _, _, rfl, le_rfl⟩
  · split
    · exact ⟨_, _, _, _, rfl, le_rfl⟩
    · exact ⟨_, _, _, _, rfl, le_rfl⟩
    · exact ⟨_, _, _, _, rfl, Nat.le_succ _⟩

@[simp] theorem numbered_emit (s : Streamer) (p : Nat → Packet) :
    (s.emit p).numbered = s.numbered + 1 := by
  obtain ⟨_, _, _, _, he, -⟩ := networkSend_frame s.bumpSeq (p s.seq)
  rw [emit, he]
  rfl

@[simp] theorem thisSceneSeqsValid_emit (s : Streamer) (p : Nat → Packet) :
    (s.emit p).thisSceneSeqsValid = s.thisSceneSeqsValid := by
  obtain ⟨_, _, _, _, he, -⟩ := networkSend_frame s.bumpSeq (p s.seq)
  rw [emit, he]
  rfl

theorem le_emit (s : Streamer) (p : Nat → Packet) : Le s (s.emit p) := by
  obtain ⟨_, _, _, _, he, hl⟩ := networkSend_frame s.bumpSeq (p s.seq)
  rw [emit, he]
  exact ⟨Nat.le_succ _, hl⟩

/-- Numbering and sending a packet keeps what the connections received consistent, the packet
carrying the current number. -/
theorem WireInv.emit {s : Streamer} {p : Nat → Packet} (h : s.WireInv)
    (hp : (p s.seq).seq = s.seq) (hm : (p s.seq).Marked) (hg : (s.emit p).Good) :
    (s.emit p).WireInv := by
  obtain ⟨hseq, hcl, hw, hcons, hlast, hmk⟩ := h
  obtain ⟨hn, he⟩ := hg
  have hq : (s.seq + 1) % seqModulus = s.numbered + 1 := by
    rw [hseq, Nat.mod_eq_of_lt (numbered_emit s p ▸ hn)]
  simp only [Streamer.emit, networkSend, bumpSeq] at he ⊢
  rcases hc : s.clientfd with _ | c
  · simp only [hc] at he ⊢
    exact ⟨hq, by simp, hw, hcons, by simp, hmk⟩
  · simp only [hc] at he ⊢
    cases hr : s.sends.headD .sent <;> simp only [hr] at he ⊢
    · refine ⟨hq, fun c' h' => hcl c' (hc.trans h'), ?_, fun c' => ?_, fun c' h' x hx => ?_, ?_⟩
      · simp only [List.mem_append, List.mem_singleton]
        rintro x (hx | rfl)
        exacts [hw x hx, hcl c hc]
      · rw [received_append]
        split_ifs with hcc
        · refine List.chain'_append.2 ⟨hcons c', List.chain'_singleton _, ?_⟩
          intro x hx y hy
          cases hy
          rw [hp, hseq, ← hlast c (hcc ▸ hc) x (hcc ▸ hx)]
        · exact hcons c'
      · cases h'
        rw [received_append, if_pos rfl, List.getLast?_concat] at hx
        cases hx
        rw [hp, hseq]
      · simp only [ScenesMarked, List.mem_append, List.mem_singleton]
        rintro x (hx | rfl)
        exacts [hmk x hx, hm]
    · exact ⟨hq, by simp, hw, hcons, by simp, hmk⟩
    · omega

/-- Numbering and sending a packet leaves the scene fields. -/
theorem SceneInv.emit {s : Streamer} (h : s.SceneInv) (p : Nat → Packet) :
    (s.emit p).SceneInv := by
  obtain ⟨_, _, _, _, he, -⟩ := networkSend_frame s.bumpSeq (p s.seq)
  rw [Streamer.emit, he]
  exact ⟨fun hv => (h.thisScene hv).imp_right (Nat.lt_succ_of_lt), h.lastScene⟩

theorem keeps_sendTypeC (s : Streamer) : Keeps s s.sendTypeC :=
  ⟨le_emit s _, fun hs hg => ⟨hs.1.emit rfl trivial hg, hs.2.emit _⟩⟩

/-! ### Connections -/

theorem acceptNewConnection_of_false {s : Streamer} {rest : List Bool}
    (h : s.accepts = false :: rest) : s.acceptNewConnection = { s with accepts := rest } := by
  unfold acceptNewConnection
  split <;> simp_all

theorem acceptNewConnection_of_true {s : Streamer} {rest : List Bool}
    (h : s.accepts = true :: rest) :
    s.acceptNewConnection = (openConnection { s with accepts := rest }).updateClientMeta := by
  unfold acceptNewConnection
  split <;> simp_all

theorem updateClientMeta_of_not_calibrated {s : Streamer} (h : s.calibrated = false) :
    s.updateClientMeta = s := by
  rw [updateClientMeta, if_neg (by simp [h])]

/-- **Induction over `AcceptNewConnection` and `UpdateClientMeta`.** A relation that holds of
every way these calls change the state, and composes, holds of both calls: a call finds no
waiting connection, a waiting connection is opened (and `UpdateClientMeta` accepts again, on
fewer answers), and a Type C packet is sent. -/
theorem connect_induction (R : Streamer → Streamer → Prop) (refl : ∀ s, R s s)
    (trans : ∀ {s t u}, R s t → R t u → R s u)
    (skip : ∀ s rest, R s { s with accepts := rest })
    (conn : ∀ s rest, R s (openConnection { s with accepts := rest }))
    (send : ∀ s, R s s.sendTypeC) (s : Streamer) :
    R s s.acceptNewConnection ∧ R s s.updateClientMeta := by
  have burst (s : Streamer) : R s s.typeCBurst := by
    unfold typeCBurst
    induction mappingTableHeight * typeCPacketsPerRow with
    | zero => exact refl s
    | succ n ih => rw [Function.iterate_succ_apply']; exact trans ih (send _)
  obtain ⟨n, h⟩ : ∃ n, s.accepts.length = n := ⟨_, rfl⟩
  induction n using Nat.strong_induction_on generalizing s with
  | _ n ih =>
    have hacc : R s s.acceptNewConnection := by
      unfold acceptNewConnection
      split
      · exact refl s
      · exact skip s _
      · rename_i rest hr
        refine trans (conn s rest) (ih rest.length ?_ _ rfl).2
        rw [← h, hr, List.length_cons]
        exact Nat.lt_succ_self _
    refine ⟨hacc, ?_⟩
    unfold updateClientMeta
    split
    · exact trans hacc (burst _)
    · exact refl s

theorem keeps_openConnection (s : Streamer) (rest : List Bool) :
    Keeps s (openConnection { s with accepts := rest }) := by
  refine ⟨⟨le_rfl, le_rfl⟩, fun ⟨⟨hseq, _, hw, hcons, _, hmk⟩, hsc⟩ _ =>
    ⟨⟨hseq, ?_, ?_, hcons, ?_, hmk⟩, hsc.1, hsc.2⟩⟩
  · intro c hc
    cases hc
    exact Nat.lt_succ_self _
  · exact fun x hx => Nat.lt_succ_of_lt (hw x hx)
  · intro c hc
    cases hc
    simp only [openConnection, received_fresh hw, List.getLast?_nil]
    exact fun _ h => nomatch h

theorem keeps_connect (s : Streamer) :
    Keeps s s.acceptNewConnection ∧ Keeps s s.updateClientMeta :=
  connect_induction Keeps Keeps.refl Keeps.trans
    (fun _ _ => ⟨⟨le_rfl, le_rfl⟩, fun h _ => ⟨h.1.congr rfl rfl rfl rfl rfl, h.2.1, h.2.2⟩⟩)
    keeps_openConnection keeps_sendTypeC s

/-- The calls leave the current scene open or closed. -/
theorem thisSceneSeqsValid_connect (s : Streamer) :
    s.acceptNewConnection.thisSceneSeqsValid = s.thisSceneSeqsValid ∧
      s.updateClientMeta.thisSceneSeqsValid = s.thisSceneSeqsValid :=
  connect_induction (fun s t => t.thisSceneSeqsValid = s.thisSceneSeqsValid)
    (fun _ => rfl) (fun h₁ h₂ => h₂.trans h₁) (fun _ _ => rfl) (fun _ _ => rfl)
    (fun s => thisSceneSeqsValid_emit s _) s

/-! ### Type D packets and the scenes -/

theorem sendTypeD_frame (s : Streamer) (cpir : CpiReturn) : ∃ cl se w e,
    s.sendTypeD cpir = { s with
      thisSceneLastSeq := s.seq, seq := (s.seq + 1) % seqModulus, numbered := s.numbered + 1,
      clientfd := cl, sends := se, wire := w, sendErrors := e } := by
  obtain ⟨cl, se, w, e, he, -⟩ := networkSend_frame { s with thisSceneLastSeq := s.seq }.bumpSeq
    (.typeD s.seq (s.typeDHeader cpir) cpir)
  exact ⟨cl, se, w, e, by rw [sendTypeD, Streamer.emit, he]; rfl⟩

/-- A Type D packet built while the current scene is open and begins at most at `m_seq`, the
last scene ending before it: its header is marked, and it becomes the scene's last packet. -/
theorem inv_sendTypeD {u : Streamer} (cpir : CpiReturn) (hw : u.WireInv)
    (hv : u.thisSceneSeqsValid = true) (hb : u.thisSceneBeginSeq ≤ u.seq)
    (hl : u.lastSceneSeqsValid = true →
      u.lastSceneBeginSeq ≤ u.lastSceneEndSeq ∧ u.lastSceneEndSeq < u.thisSceneBeginSeq)
    (hg : (u.sendTypeD cpir).Good) : (u.sendTypeD cpir).Inv := by
  have hm : (Packet.typeD u.seq (u.typeDHeader cpir) cpir).Marked := by
    refine ⟨⟨fun h => ⟨h, hv, ?_⟩, fun _ => ?_⟩, ?_, fun _ => ?_⟩ <;> simp_all [typeDHeader]
  refine ⟨(hw.congr (t := { u with thisSceneLastSeq := u.seq }) rfl rfl rfl rfl rfl).emit rfl hm hg, ?_⟩
  obtain ⟨_, _, _, _, he⟩ := sendTypeD_frame u cpir
  rw [he]
  exact ⟨fun _ => ⟨hb, hw.seq ▸ Nat.lt_succ_self _⟩, fun h => ⟨hv, hl h⟩⟩

theorem thisSceneSeqsValid_sendTypeD (s : Streamer) (cpir : CpiReturn) :
    (s.sendTypeD cpir).thisSceneSeqsValid = s.thisSceneSeqsValid :=
  thisSceneSeqsValid_emit _ _

theorem le_sendTypeD (s : Streamer) (cpir : CpiReturn) : Le s (s.sendTypeD cpir) :=
  le_emit { s with thisSceneLastSeq := s.seq } _

/-- **One streamed CPI's packet.** Opening a scene first, or sending inside an open one, keeps
the invariant. -/
theorem keeps_sendTypeD {s : Streamer} {b : Bool} (cpir : CpiReturn)
    (hv : b = true ∨ s.thisSceneSeqsValid = true) :
    Keeps s ((if b then s.openScene else s).sendTypeD cpir) := by
  cases b with
  | false =>
    show Keeps s (s.sendTypeD cpir)
    refine ⟨le_sendTypeD s cpir, fun ⟨hw, hthis, hlast⟩ hg => ?_⟩
    have hv' := hv.resolve_left Bool.false_ne_true
    obtain ⟨h1, h2⟩ := hthis hv'
    exact inv_sendTypeD cpir hw hv' (by rw [hw.seq]; omega) (fun h => (hlast h).2) hg
  | true =>
    show Keeps s (s.openScene.sendTypeD cpir)
    refine ⟨le_sendTypeD s.openScene cpir, fun ⟨hw, hthis, _⟩ hg => ?_⟩
    refine inv_sendTypeD cpir (hw.congr rfl rfl rfl rfl rfl) rfl le_rfl (fun h => ?_) hg
    obtain ⟨h1, h2⟩ := hthis h
    exact ⟨h1, show s.thisSceneLastSeq < s.seq from hw.seq ▸ h2⟩

/-! ### Chunks and runs -/

/-- The loop of `WorkOnCPIChunk` from `s₀`: the invariant is kept, and once a packet has been
sent in the chunk, the current scene is open. -/
def LoopInv (s₀ : Streamer) (st : Bool × Streamer) : Prop :=
  Keeps s₀ st.2 ∧ (st.1 = false → st.2.thisSceneSeqsValid = true)

theorem loopInv_workOnCpi {s₀ : Streamer} {st : Bool × Streamer} (cpir : CpiReturn)
    (h : LoopInv s₀ st) : LoopInv s₀ (workOnCpi st cpir) := by
  obtain ⟨b, s⟩ := st
  obtain ⟨hk, hv⟩ := h
  by_cases hsup : cpir.metaSupressStream = true
  · rw [workOnCpi, if_pos hsup]
    exact ⟨hk, hv⟩
  -- caching a calibration, then the mapping table, keep the invariant and the open scene
  set s₁ : Streamer := if cpir.calibration then { s with calibrated := true } else s with hs₁
  set s₂ := if cpir.prefixMetaDataUpdate then s₁.updateClientMeta else s₁ with hs₂
  have hw : workOnCpi (b, s) cpir =
      (cpir.metaLastCpiInFrame, (if b then s₂.openScene else s₂).sendTypeD cpir) := by
    rw [workOnCpi, if_neg hsup]
  have hk₁ : Keeps s s₁ := by
    rw [hs₁]
    split_ifs
    · exact ⟨⟨le_rfl, le_rfl⟩, fun h _ => ⟨h.1.congr rfl rfl rfl rfl rfl, h.2.1, h.2.2⟩⟩
    · exact Keeps.refl s
  have hk₂ : Keeps s₁ s₂ := by
    rw [hs₂]
    split_ifs
    · exact (keeps_connect s₁).2
    · exact Keeps.refl s₁
  have hv₂ : s₂.thisSceneSeqsValid = s.thisSceneSeqsValid := by
    have : s₁.thisSceneSeqsValid = s.thisSceneSeqsValid := by rw [hs₁]; split_ifs <;> rfl
    rw [← this, hs₂]
    split_ifs
    · exact (thisSceneSeqsValid_connect s₁).2
    · rfl
  have hopen : b = true ∨ s₂.thisSceneSeqsValid = true := by
    cases b
    · exact .inr (hv₂.trans (hv rfl))
    · exact .inl rfl
  rw [hw]
  refine ⟨hk.trans (hk₁.trans (hk₂.trans (keeps_sendTypeD cpir hopen))), fun _ => ?_⟩
  rw [thisSceneSeqsValid_sendTypeD]
  cases b
  · exact hopen.resolve_left Bool.false_ne_true
  · rfl

theorem keeps_workOnCPIChunk (s : Streamer) (chunk : List CpiReturn) :
    Keeps s (s.workOnCPIChunk chunk) := by
  suffices ∀ st, LoopInv s st → LoopInv s (chunk.foldl workOnCpi st) from
    (this (true, s) ⟨Keeps.refl s, nofun⟩).1
  induction chunk with
  | nil => exact fun _ h => h
  | cons cpir rest ih => exact fun st h => ih _ (loopInv_workOnCpi cpir h)

theorem keeps_step {s t : Streamer} (h : Step s t) : Keeps s t := by
  cases h with
  | chunk chunk _ => exact (keeps_connect s).1.trans (keeps_workOnCPIChunk _ chunk)

theorem keeps_run {s t : Streamer} (h : Relation.ReflTransGen Step s t) : Keeps s t := by
  induction h with
  | refl => exact Keeps.refl _
  | tail _ hst ih => exact ih.trans (keeps_step hst)

theorem inv_init (accepts : List Bool) (sends : List SendResult) : (init accepts sends).Inv :=
  ⟨⟨rfl, nofun, nofun, fun _ => List.chain'_nil, nofun, nofun⟩, nofun, nofun⟩

/-- **Sequence numbers and scene markers, while `m_seq` has not wrapped and no send failed
but by a reset.** In every run in which fewer than `2^32` packets have been numbered and no
send error has been logged, every connection has received consecutive numbers, and every
Type D packet received orders its scene markers
(`lastSceneBegin ≤ lastSceneEnd < currentSceneBegin ≤ seq`) and marks the current scene's
end exactly on a frame's last CPI, with its own number. -/
theorem reachable_streams_ok {s : Streamer} (h : s.Reachable) (hn : s.numbered < seqModulus)
    (he : s.sendErrors = 0) : s.SeqConsecutive ∧ s.ScenesMarked := by
  obtain ⟨accepts, sends, hr⟩ := h
  obtain ⟨hw, -⟩ := (keeps_run hr).2 (inv_init accepts sends) ⟨hn, he⟩
  exact ⟨hw.consecutive, hw.marked⟩

/-- A client connects before the first chunk, which holds a frame of two CPIs and the first
CPI of the next frame. -/
def twoScenes : Streamer :=
  (init [true] []).workOnSingleChunk
    [⟨false, false, false, false⟩, ⟨false, false, false, true⟩, ⟨false, false, false, false⟩]

theorem reachable_streams_ok_twoScenes :
    twoScenes.numbered < seqModulus ∧ twoScenes.sendErrors = 0 ∧
      (twoScenes.SeqConsecutive ∧ twoScenes.ScenesMarked) := by
  have hn : twoScenes.numbered < seqModulus := by
    rw [twoScenes, workOnSingleChunk, acceptNewConnection_of_true rfl,
      updateClientMeta_of_not_calibrated rfl]
    decide
  have he : twoScenes.sendErrors = 0 := by
    rw [twoScenes, workOnSingleChunk, acceptNewConnection_of_true rfl,
      updateClientMeta_of_not_calibrated rfl]
    decide
  exact ⟨hn, he, reachable_streams_ok ⟨[true], [], .single (.chunk _ (by decide))⟩ hn he⟩

/-! ### Wrapping, and a lost packet -/

/-- A CPI that is streamed, and neither caches a calibration, latches a metadata update nor
ends a frame. -/
def plainCpi : CpiReturn := ⟨false, false, false, false⟩

/-- A streamer without a client or a calibration that has sent nothing, at number `q`, with
`a` the answers `accept` has still to give. -/
def Idle (s : Streamer) (q : Nat) (a : List Bool) : Prop :=
  s.seq = q ∧ s.accepts = a ∧ s.clientfd = none ∧ s.calibrated = false ∧ s.conns = 0 ∧
    s.sends = [] ∧ s.wire = []

theorem idle_plainChunk {s : Streamer} {q : Nat} {a : List Bool} (h : s.Idle q (false :: a)) :
    (s.workOnSingleChunk [plainCpi]).Idle ((q + 1) % seqModulus) a := by
  obtain ⟨hq, ha, hc, hcal, hk, hs, hw⟩ := h
  rw [workOnSingleChunk, acceptNewConnection_of_false ha]
  simp [Idle, workOnCPIChunk, workOnCpi, plainCpi, sendTypeD, Streamer.emit, bumpSeq, networkSend,
    openScene, hq, hc, hcal, hk, hs, hw]

/-- Chunks of one CPI each, while no client connects, only advance `m_seq`. -/
theorem idle_run {q : Nat} (hq : q < seqModulus) (n : Nat) {s : Streamer} {a : List Bool}
    (h : s.Idle q (List.replicate n false ++ a)) :
    ∃ t, Relation.ReflTransGen Step s t ∧ t.Idle ((q + n) % seqModulus) a := by
  induction n generalizing q s with
  | zero => exact ⟨s, .refl, by rwa [Nat.add_zero, Nat.mod_eq_of_lt hq]⟩
  | succ n ih =>
    obtain ⟨t, ht, hi⟩ := ih (Nat.mod_lt _ (by decide)) (idle_plainChunk h)
    refine ⟨t, .head (.chunk [plainCpi] (by decide)) ht, ?_⟩
    rwa [Nat.mod_add_mod, Nat.add_right_comm] at hi

/-- The chunk after `2^32 - 1` numbered packets: a client connects and receives packet
`2^32 - 1`, then packet `0`, whose header has the current scene begin at `2^32 - 1`. -/
theorem idle_wraps {t : Streamer} (h : t.Idle (seqModulus - 1) [true]) :
    ¬ (t.workOnSingleChunk [plainCpi, plainCpi]).SeqConsecutive ∧
      ¬ (t.workOnSingleChunk [plainCpi, plainCpi]).ScenesMarked := by
  obtain ⟨_, lv, tv, lb, le, tb, tl, _, _, _, _, _, _, num, se⟩ := t
  obtain ⟨hq, ha, hc, hcal, hk, hs, hw⟩ := h
  simp only at hq ha hc hcal hk hs hw
  subst hq ha hc hcal hk hs hw
  have hu : (Streamer.mk (seqModulus - 1) lv tv lb le tb tl false none 0 [true] [] [] num se
      |>.workOnSingleChunk [plainCpi, plainCpi]).wire =
      [(0, .typeD (seqModulus - 1) ((Streamer.mk (seqModulus - 1) lv tv lb le tb tl false (some 0) 1
          [] [] [] num se).openScene.typeDHeader plainCpi) plainCpi),
        (0, .typeD 0 ⟨tv, tv, true, false, if tv then tb else 0, if tv then tl else 0,
          seqModulus - 1, 0⟩ plainCpi)] := by
    rw [workOnSingleChunk, acceptNewConnection_of_true rfl, updateClientMeta_of_not_calibrated rfl]
    simp [workOnCPIChunk, workOnCpi, plainCpi, sendTypeD, Streamer.emit, bumpSeq, networkSend,
      openConnection, openScene, typeDHeader, seqModulus]
  constructor
  · intro h
    have h0 := h 0
    rw [hu] at h0
    simp [received, Packet.seq, seqModulus] at h0
  · intro h
    have h1 := h _ (hu ▸ List.mem_cons_of_mem _ (List.mem_singleton_self _))
    simp [Packet.Marked, TypeDHeader.Ordered, seqModulus] at h1

/-- **Sequence numbers can break.** The `2^32`-nd packet numbered wraps `m_seq`: after
`2^32 - 1` chunks of one CPI with no client, a client connects and receives packet
`2^32 - 1` and then packet `0`, and packet `0`'s header puts the current scene's begin after
its own number. And a send that fails with an error other than a reset loses its packet but
keeps the connection: the client receives packets `0` and `2`. -/
theorem reachable_seq_breaks :
    (∃ s : Streamer, s.Reachable ∧ ¬ s.SeqConsecutive ∧ ¬ s.ScenesMarked) ∧
      ∃ s : Streamer, s.Reachable ∧ s.numbered < seqModulus ∧ ¬ s.SeqConsecutive := by
  constructor
  · obtain ⟨t, ht, hi⟩ := @idle_run 0 (by decide) (seqModulus - 1)
      (init (List.replicate (seqModulus - 1) false ++ [true]) []) _
      ⟨rfl, rfl, rfl, rfl, rfl, rfl, rfl⟩
    rw [Nat.zero_add, Nat.mod_eq_of_lt (Nat.sub_lt (by decide) Nat.one_pos)] at hi
    exact ⟨_, ⟨_, _, ht.tail (.chunk _ (by decide))⟩, idle_wraps hi⟩
  · have he : (init [true] [.sent, .otherError]).workOnSingleChunk [plainCpi, plainCpi, plainCpi] =
        (openConnection { init [true] [.sent, .otherError] with accepts := [] }).workOnCPIChunk
          [plainCpi, plainCpi, plainCpi] := by
      rw [workOnSingleChunk, acceptNewConnection_of_true rfl, updateClientMeta_of_not_calibrated rfl]
    refine ⟨_, ⟨_, _, .single (.chunk [plainCpi, plainCpi, plainCpi] (by decide))⟩,
      by rw [he]; decide, fun h => ?_⟩
    have hr : (received ((init [true] [.sent, .otherError]).workOnSingleChunk
        [plainCpi, plainCpi, plainCpi]).wire 0).map Packet.seq = [0, 2] := by
      rw [he]
      decide
    have h0 := (List.chain'_map (R := fun a b : Nat => b = a + 1) Packet.seq).2 (h 0)
    rw [hr] at h0
    simp at h0

end Streamer

end NetStreamer

end Cobra
