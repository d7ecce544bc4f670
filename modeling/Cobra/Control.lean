import Mathlib.Logic.Relation
import Mathlib.Tactic.Common

/-!
# The Control Socket Pair

The main thread drives each sensor-head thread through a `SOCK_SEQPACKET` socket pair: it
writes command bytes on `m_trigFd` and reads the head's bytes from it; the head reads
commands from `m_waitFd` and writes its bytes there. `handleControlByte` sends one command
and waits at most `THR_CONTROL_ACK_TIMEOUT_MS` for one byte, which it accepts when it equals
the command. The head acknowledges a command with `ackControlByte` (the command byte
itself) and announces its end with `notifyShutdown` (the byte `0`). In between commands the
event loop reads any byte that arrives on `m_trigFd` in `handleThreadEvent`, and marks the
head stopped.

The model has the main thread, one head (`V4LSensorHeadThread` or `MockSensorHeadThread`)
and the two queues of the socket pair. A ghost tag on every queued byte records which
command it belongs to and who wrote it.

## Main results

* `reachable_accepts_other_ack`: when the head may acknowledge after the timeout, the main
  thread accepts the acknowledgement of an earlier command as that of a later one, and
  marks a running head stopped on a late acknowledgement.
* `patient_reachable_ok`: when a call times out only if no acknowledgement of its command
  can still come, every byte a call accepts is the head's acknowledgement of that call, or
  the shutdown byte `0` when the command is `0`, and a head is marked stopped only after it
  has shut down.
-/

namespace Cobra

namespace Control

/-! ### Command bytes -/

def commandMask : Nat := 0xf0
def paramMask : Nat := 0x0f
def startStreaming : Nat := 0x00
def startStreamingWithReload : Nat := 0x10
def reloadCalData : Nat := 0xf1
def exitThread : Nat := 0xf2
def nothingHappened : Nat := 0xf3

/-- The byte `handleControlByte` sends: a start-streaming command becomes a start with
reload while the calibration is not loaded. -/
def controlByteToSend (calLoaded : Bool) (controlByte : Nat) : Nat :=
  if controlByte &&& commandMask = startStreaming ∧ !calLoaded then
    startStreamingWithReload ||| (controlByte &&& paramMask)
  else controlByte

/-- The commands after which `receiveNotification` reloads the calibration. -/
def reloads (note : Nat) : Bool :=
  note = reloadCalData || note &&& commandMask = startStreamingWithReload

/-- The two kinds of sensor-head thread. -/
inductive HeadKind where
  | v4l
  | mock
  deriving DecidableEq, Repr

/-- The notes a head acknowledges: `V4LSensorHeadThread::handleNotification` every note but
`THR_NOTIFY_EXIT_THREAD`; `MockSensorHeadThread::run` also skips
`THR_NOTIFY_NOTHING_HAPPENED`. -/
def HeadKind.acks : HeadKind → Nat → Bool
  | .v4l, note => note ≠ exitThread
  | .mock, note => note ≠ exitThread && note ≠ nothingHappened

/-! ### The protocol -/

/-- Who wrote a byte on the head's side: `ackControlByte` for the `n`-th byte the main
thread sent, or `notifyShutdown`. -/
inductive Origin where
  | ack (n : Nat)
  | shutdown
  deriving DecidableEq, Repr

/-- A byte on its way to the main thread, with its ghost origin. -/
structure Msg where
  byte : Nat
  origin : Origin
  deriving DecidableEq, Repr

/-- The main thread: in its event loop, or inside `handleControlByte` for the `n`-th byte it
sent, `byte`. -/
inductive MainPc where
  | idle
  | awaiting (n byte : Nat)
  deriving DecidableEq, Repr

/-- The head thread: in its loop, between reading note `note` (the `n`-th byte sent) and
acknowledging it, or gone after `notifyShutdown`. -/
inductive HeadPc where
  | ready
  | handling (n note : Nat)
  | exited
  deriving DecidableEq, Repr

/-- The protocol state: both threads, the queue to the head (each byte with its ghost
number), the queue to the main thread, the count of bytes sent, `m_calLoaded` and
`m_stopped`. -/
structure Ctl where
  main : MainPc
  head : HeadPc
  toHead : List (Nat × Nat)
  toMain : List Msg
  sent : Nat
  calLoaded : Bool
  stopped : Bool
  deriving DecidableEq, Repr

/-- A new head: the mock head reloads its calibration as its first action. -/
def init (k : HeadKind) : Ctl := ⟨.idle, .ready, [], [], 0, k = .mock, false⟩

/-- The atomic actions of both threads. -/
inductive Action where
  /-- `handleAccept` calls `handleControlByte`, which sends its command. -/
  | call (controlByte : Nat)
  /-- `handleControlByte` reads the byte that has arrived. -/
  | recv
  /-- `handleControlByte` gives up after `THR_CONTROL_ACK_TIMEOUT_MS` without a byte. -/
  | timeout
  /-- The event loop finds `m_trigFd` readable: `handleThreadEvent`. -/
  | threadEvent
  /-- The signal handler's `exitThread`. -/
  | signal
  /-- The head's `receiveNotification` and the start of `handleNotification`. -/
  | read
  /-- The head's `ackControlByte`. -/
  | ack
  /-- The head ends on an error (`openDevice`, `select`, a bad mock file). -/
  | die
  deriving DecidableEq, Repr

/-- The head reads note `note`, the `n`-th byte: reload the calibration if asked, shut down
on `THR_NOTIFY_EXIT_THREAD`, otherwise go on to acknowledge the note if its kind does. -/
def receive (k : HeadKind) (s : Ctl) (n note : Nat) : Ctl :=
  let s := { s with calLoaded := s.calLoaded || reloads note }
  if note = exitThread then
    { s with head := .exited, toMain := s.toMain ++ [⟨0, .shutdown⟩] }
  else if k.acks note then { s with head := .handling n note }
  else s

/-- One action, `none` when it is not enabled. -/
def next (k : HeadKind) (s : Ctl) : Action → Option Ctl
  | .call b =>
    match s.main with
    | .idle =>
      let b := controlByteToSend s.calLoaded b
      some { s with main := .awaiting s.sent b, toHead := s.toHead ++ [(s.sent, b)],
                    sent := s.sent + 1 }
    | _ => none
  | .recv =>
    match s.main, s.toMain with
    | .awaiting _ _, _ :: rest => some { s with main := .idle, toMain := rest }
    | _, _ => none
  | .timeout =>
    match s.main, s.toMain with
    | .awaiting _ _, [] => some { s with main := .idle }
    | _, _ => none
  | .threadEvent =>
    match s.main, s.toMain with
    | .idle, _ :: rest => some { s with toMain := rest, stopped := true }
    | _, _ => none
  | .signal =>
    match s.main with
    | .idle => some { s with toHead := s.toHead ++ [(s.sent, exitThread)], sent := s.sent + 1 }
    | _ => none
  | .read =>
    match s.head, s.toHead with
    | .ready, (n, note) :: rest => some (receive k { s with toHead := rest } n note)
    | _, _ => none
  | .ack =>
    match s.head with
    | .handling n note =>
      some { s with head := .ready, toMain := s.toMain ++ [⟨note, .ack n⟩] }
    | _ => none
  | .die =>
    match s.head with
    | .ready => some { s with head := .exited, toMain := s.toMain ++ [⟨0, .shutdown⟩] }
    | _ => none

/-- No acknowledgement of the `n`-th byte can still come: it is not queued as a note the head
acknowledges, and the head is not about to acknowledge it. -/
def NoAckPending (k : HeadKind) (s : Ctl) (n : Nat) : Prop :=
  (∀ p ∈ s.toHead, p.1 = n → k.acks p.2 = false) ∧ ∀ note, s.head ≠ .handling n note

/-- A step of the protocol. A patient main thread times out only when no acknowledgement of
its command can still come. -/
inductive Step (k : HeadKind) (patient : Bool) : Ctl → Ctl → Prop where
  | mk {s s' : Ctl} (a : Action) (h : next k s a = some s')
      (hp : patient = true → a = .timeout → ∀ n b, s.main = .awaiting n b → NoAckPending k s n) :
      Step k patient s s'

/-- The states some interleaving reaches from a new head. -/
def Reachable (k : HeadKind) (patient : Bool) (s : Ctl) : Prop :=
  Relation.ReflTransGen (Step k patient) (init k) s

/-- Acknowledgements are matched in a state: a byte that the waiting call would accept is the head's
acknowledgement of that call, or the shutdown byte when the command is `0`. -/
def AcceptsOwnAck (s : Ctl) : Prop :=
  ∀ n b m rest, s.main = .awaiting n b → s.toMain = m :: rest → m.byte = b →
    m.origin = .ack n ∨ (b = 0 ∧ m.origin = .shutdown)

/-- Stops are genuine in a state: the head is marked stopped only once it has shut down. -/
def StoppedOnlyExited (s : Ctl) : Prop := s.stopped = true → s.head = .exited

/-! ### Without patience -/

/-- A schedule of actions, run in order. -/
def run (k : HeadKind) : Ctl → List Action → Option Ctl
  | s, [] => some s
  | s, a :: rest => (next k s a).bind (run k · rest)

/-- A schedule that `run` completes is a run of the model; with patience, one without a
timeout. -/
theorem run_reach {k : HeadKind} {patient : Bool} {s t : Ctl} {l : List Action}
    (hl : patient = true → Action.timeout ∉ l) (h : run k s l = some t) :
    Relation.ReflTransGen (Step k patient) s t := by
  induction l generalizing s with
  | nil => cases h; exact .refl
  | cons a l ih =>
    cases hs : next k s a with
    | none => simp [run, hs] at h
    | some s1 =>
      simp only [run, hs, Option.bind_some] at h
      exact .head (.mk a hs fun hp ha => absurd (ha ▸ List.mem_cons_self a l) (hl hp))
        (ih (fun hp h' => hl hp (List.mem_cons_of_mem a h')) h)

/-- A V4L head takes the stop command `THR_NOTIFY_STOP_STREAMING` and acknowledges it only
after the call has timed out; a second stop command is then sent, and its call reads the
first acknowledgement. -/
def lateAck : List Action :=
  [.call 0xf0, .read, .timeout, .call 0xf0, .ack]

/-- After `lateAck` the second call accepts the first acknowledgement, and the head
acknowledges the second command after that call is over, which the event loop takes for a
shutdown. -/
def lateAckStopped : List Action := lateAck ++ [.recv, .read, .ack, .threadEvent]

/-- **A late acknowledgement is misread.** Without patience, a call accepts the
acknowledgement of the command before it, and the event loop marks a running head stopped
when the acknowledgement of a finished call arrives. -/
theorem reachable_accepts_other_ack :
    (∃ s, Reachable .v4l false s ∧ ¬ AcceptsOwnAck s) ∧
      ∃ s, Reachable .v4l false s ∧ ¬ StoppedOnlyExited s := by
  have h1 : run .v4l (init .v4l) lateAck =
      some ⟨.awaiting 1 0xf0, .ready, [(1, 0xf0)], [⟨0xf0, .ack 0⟩], 2, false, false⟩ := by
    decide
  have h2 : run .v4l (init .v4l) lateAckStopped =
      some ⟨.idle, .ready, [], [], 2, false, true⟩ := by
    decide
  refine ⟨⟨_, run_reach nofun h1, fun h => ?_⟩, _, run_reach nofun h2, fun h => ?_⟩
  · simpa using h 1 0xf0 _ _ rfl rfl rfl
  · simpa using h rfl

/-! ### With patience -/

/-- The acknowledgement written by the head for the `n`-th byte, as the pair of `n` and the
byte. -/
def ackOf (m : Msg) : Option (Nat × Nat) :=
  match m.origin with
  | .ack n => some (n, m.byte)
  | .shutdown => none

/-- The acknowledgements a head still owes: those of the queued notes it acknowledges, and of
the note it is handling; none once it has shut down. -/
def HeadPc.owes (head : HeadPc) (k : HeadKind) (toHead : List (Nat × Nat)) :
    List (Nat × Nat) :=
  match head with
  | .ready => toHead.filter fun p => k.acks p.2
  | .handling n note => (toHead.filter fun p => k.acks p.2) ++ [(n, note)]
  | .exited => []

/-- What the head still owes or has written and the main thread not yet read: the queued
notes a live head will acknowledge, the note it is handling, and the acknowledgements in
flight. -/
def owed (k : HeadKind) (s : Ctl) : List (Nat × Nat) :=
  s.head.owes k s.toHead ++ s.toMain.filterMap ackOf

/-- What every state a patient main thread reaches satisfies: whatever the head owes
answers the call in progress, and is at most one byte; the shutdown byte is `0`, comes
from a head that has shut down, and is the last byte it writes; and only a head that has
shut down is marked stopped. -/
structure Inv (k : HeadKind) (s : Ctl) : Prop where
  owed_awaited : ∀ x ∈ owed k s, s.main = .awaiting x.1 x.2
  owed_single : (owed k s).length ≤ 1
  shutdown : ∀ m ∈ s.toMain, m.origin = .shutdown → m.byte = 0 ∧ s.head = .exited
  shutdown_last : ∀ m ∈ s.toMain.dropLast, m.origin ≠ .shutdown
  stopped : s.stopped = true → s.head = .exited

theorem inv_init (k : HeadKind) : Inv k (init k) :=
  ⟨by simp [owed, init, HeadPc.owes], by simp [owed, init, HeadPc.owes], by simp [init],
    by simp [init], by simp [init]⟩

/-- The main thread between calls is owed nothing. -/
theorem Inv.owed_idle {k : HeadKind} {s : Ctl} (hi : Inv k s) (h : s.main = .idle) :
    owed k s = [] :=
  List.eq_nil_iff_forall_not_mem.2 fun x hx => by simpa [h] using hi.owed_awaited x hx

theorem acks_exitThread (k : HeadKind) : k.acks exitThread = false := by
  cases k <;> rfl

theorem owes_append_of_acks_false (head : HeadPc) {k : HeadKind} {l : List (Nat × Nat)}
    {p : Nat × Nat} (h : k.acks p.2 = false) : head.owes k (l ++ [p]) = head.owes k l := by
  cases head <;> simp [HeadPc.owes, List.filter_append, h]

/-- Appending a note to the queue adds at most that note to what the head owes. -/
theorem owes_append_sub (head : HeadPc) (k : HeadKind) (l : List (Nat × Nat))
    (p : Nat × Nat) : ∀ x ∈ head.owes k (l ++ [p]), x ∈ head.owes k l ∨ x = p := by
  cases head <;> simp [HeadPc.owes, List.filter_append] <;> intros <;> tauto

theorem length_owes_append (head : HeadPc) (k : HeadKind) (l : List (Nat × Nat))
    (p : Nat × Nat) : (head.owes k (l ++ [p])).length ≤ (head.owes k l).length + 1 := by
  cases head <;> simp [HeadPc.owes, List.filter_append, List.filter_cons] <;> split <;> simp

theorem mem_dropLast_cons {m : Msg} {rest : List Msg} :
    ∀ m' ∈ rest.dropLast, m' ∈ (m :: rest).dropLast := fun m' h' => by
  rw [List.dropLast_cons_of_ne_nil (List.ne_nil_of_mem (List.dropLast_subset _ h'))]
  exact List.mem_cons_of_mem _ h'

/-- While the head runs, no shutdown byte is queued. -/
theorem Inv.no_shutdown {k : HeadKind} {s : Ctl} (hi : Inv k s) (h : s.head ≠ .exited) :
    ∀ m ∈ s.toMain, m.origin ≠ .shutdown :=
  fun m hm ho => h (hi.shutdown m hm ho).2

/-- A step that keeps the main thread where it is and owes a sub-multiset of what was owed
keeps the first two parts of the invariant. -/
theorem Inv.of_owed {k : HeadKind} {s s' : Ctl} (hi : Inv k s) (hm : s'.main = s.main)
    (hmem : ∀ x ∈ owed k s', x ∈ owed k s) (hlen : (owed k s').length ≤ (owed k s).length)
    (hsd : ∀ m ∈ s'.toMain, m.origin = .shutdown → m.byte = 0 ∧ s'.head = .exited)
    (hlast : ∀ m ∈ s'.toMain.dropLast, m.origin ≠ .shutdown)
    (hst : s'.stopped = true → s'.head = .exited) : Inv k s' :=
  ⟨fun x hx => hm ▸ hi.owed_awaited x (hmem x hx), Nat.le_trans hlen hi.owed_single, hsd, hlast,
    hst⟩

theorem Inv.of_perm {k : HeadKind} {s s' : Ctl} (hi : Inv k s) (hm : s'.main = s.main)
    (hp : (owed k s').Perm (owed k s))
    (hsd : ∀ m ∈ s'.toMain, m.origin = .shutdown → m.byte = 0 ∧ s'.head = .exited)
    (hlast : ∀ m ∈ s'.toMain.dropLast, m.origin ≠ .shutdown)
    (hst : s'.stopped = true → s'.head = .exited) : Inv k s' :=
  hi.of_owed hm (fun _ hx => hp.mem_iff.1 hx) (Nat.le_of_eq hp.length_eq) hsd hlast hst

section Actions

variable {k : HeadKind} {s : Ctl} (hi : Inv k s)
include hi

/-- `handleControlByte` sends its command: the head owes at most its acknowledgement. -/
theorem inv_call {b : Nat} (h : s.main = .idle) :
    Inv k { s with main := .awaiting s.sent b, toHead := s.toHead ++ [(s.sent, b)],
                   sent := s.sent + 1 } := by
  have h0 := hi.owed_idle h
  simp only [owed, List.append_eq_nil] at h0
  refine ⟨fun x hx => ?_, ?_, hi.shutdown, hi.shutdown_last, hi.stopped⟩
  · simp only [owed, List.mem_append, h0.2, List.not_mem_nil, or_false] at hx
    rcases owes_append_sub _ _ _ _ x hx with hx | rfl
    · simp [h0.1] at hx
    · rfl
  · simpa [owed, h0.1, h0.2] using length_owes_append s.head k s.toHead (s.sent, b)

/-- `handleControlByte` reads a byte: it was the one thing owed, or the shutdown byte after
which nothing is owed. -/
theorem inv_recv {m : Msg} {rest : List Msg} (ht : s.toMain = m :: rest) : Inv k { s with main := .idle, toMain := rest } := by
  have hsub : ∀ m' ∈ rest, m' ∈ s.toMain := fun m' h' => by simp [ht, h']
  have hlast : ∀ m' ∈ rest.dropLast, m' ∈ s.toMain.dropLast := ht ▸ mem_dropLast_cons
  have hnil : owed k { s with main := .idle, toMain := rest } = [] := by
    have hl := hi.owed_single
    cases ho : m.origin with
    | ack n' =>
      have : ackOf m = some (n', m.byte) := by simp [ackOf, ho]
      simp only [owed, ht, List.filterMap_cons, this, List.length_append, List.length_cons] at hl
      simp only [owed]
      rw [← List.length_eq_zero, List.length_append]
      omega
    | shutdown =>
      have he := (hi.shutdown m (by simp [ht]) ho).2
      have hr : rest = [] := by
        by_contra hr
        exact hi.shutdown_last m (by simp [ht, List.dropLast_cons_of_ne_nil hr]) ho
      simp [owed, he, hr, HeadPc.owes]
  refine ⟨by simp [hnil], by simp [hnil], fun m' h' => hi.shutdown m' (hsub m' h'),
    fun m' h' => hi.shutdown_last m' (hlast m' h'), hi.stopped⟩

/-- A patient call times out only when nothing is owed. -/
theorem inv_timeout {n b : Nat} (hm : s.main = .awaiting n b) (ht : s.toMain = [])
    (hn : NoAckPending k s n) : Inv k { s with main := .idle } := by
  have hnil : owed k s = [] := by
    refine List.eq_nil_iff_forall_not_mem.2 fun x hx => ?_
    have hx1 : x.1 = n := (by simpa [hm] using (hi.owed_awaited x hx).symm : x.1 = n ∧ x.2 = b).1
    simp only [owed, ht, List.filterMap_nil, List.append_nil] at hx
    obtain ⟨hq, hh⟩ := hn
    cases hs : s.head <;>
      simp only [hs, HeadPc.owes, List.mem_append, List.mem_filter, List.mem_singleton] at hx
    · simp_all [hq x hx.1 hx1]
    · rcases hx with hx | rfl
      · simp_all [hq x hx.1 hx1]
      · exact hh _ (by rw [← hx1]; exact hs)
    · simp at hx
  have he : owed k { s with main := .idle } = owed k s := rfl
  exact ⟨by simp [he, hnil], by simp [he, hnil], hi.shutdown, hi.shutdown_last, hi.stopped⟩

/-- The event loop reads a byte between calls: it can only be the shutdown byte. -/
theorem inv_threadEvent {m : Msg} {rest : List Msg} (hm : s.main = .idle)
    (ht : s.toMain = m :: rest) : Inv k { s with toMain := rest, stopped := true } := by
  have h0 := hi.owed_idle hm
  have hno : ackOf m = none := by
    simp only [owed, ht, List.filterMap_cons, List.append_eq_nil] at h0
    cases h : ackOf m <;> simp_all
  have he : s.head = .exited := (hi.shutdown m (by simp [ht]) (by
    cases ho : m.origin <;> simp_all [ackOf])).2
  refine hi.of_owed rfl (fun x hx => ?_) ?_ (fun m' h' => hi.shutdown m' (by simp [ht, h']))
    (fun m' h' => ?_) (fun _ => he)
  · simp [owed, ht, hno, he, HeadPc.owes] at hx ⊢; exact hx
  · simp [owed, ht, hno]
  · exact hi.shutdown_last m' (ht ▸ mem_dropLast_cons m' h')

/-- `exitThread` queues a note no head acknowledges. -/
theorem inv_signal :
    Inv k { s with toHead := s.toHead ++ [(s.sent, exitThread)], sent := s.sent + 1 } :=
  hi.of_perm rfl (by
    rw [owed, @owes_append_of_acks_false s.head k s.toHead _ (acks_exitThread k)]
    rfl) hi.shutdown hi.shutdown_last hi.stopped

/-- The head reads a note: the exit note ends it and queues the shutdown byte, a note it
acknowledges moves from the queue into its hands, any other note is dropped. -/
theorem inv_read {n note : Nat} {rest : List (Nat × Nat)} (hh : s.head = .ready)
    (ht : s.toHead = (n, note) :: rest) : Inv k (receive k { s with toHead := rest } n note) := by
  have hno := hi.no_shutdown (by simp [hh])
  have hst : s.stopped = false := by
    cases h : s.stopped
    · rfl
    · simpa [hh] using hi.stopped h
  have hlast : ∀ m ∈ s.toMain.dropLast, m.origin ≠ .shutdown :=
    fun m hm => hno m (List.dropLast_subset _ hm)
  unfold receive
  dsimp only
  split_ifs with hx ha
  · refine hi.of_owed rfl (fun x hx' => ?_) ?_ ?_ ?_ (by simp [hst])
    · simp [owed, HeadPc.owes, ackOf] at hx' ⊢; exact .inr hx'
    · simp [owed, HeadPc.owes, ackOf]
    · intro m hm ho
      simp only [List.mem_append, List.mem_singleton] at hm
      rcases hm with hm | rfl
      · exact absurd ho (hno m hm)
      · exact ⟨rfl, rfl⟩
    · simpa using hno
  · refine hi.of_perm rfl ?_ (fun m hm ho => absurd ho (hno m hm)) hlast (by simp [hst])
    simp only [owed, hh, ht, HeadPc.owes, List.filter_cons, ha, if_true]
    exact (List.perm_append_comm.append_right _).trans (by rfl)
  · refine hi.of_perm rfl ?_ (fun m hm ho => absurd ho (hno m hm)) hlast (by simp [hst])
    simp [owed, hh, ht, HeadPc.owes, List.filter_cons, ha]

/-- The head acknowledges the note it handles: the acknowledgement moves from its hands into
the queue to the main thread. -/
theorem inv_ack {n note : Nat} (hh : s.head = .handling n note) :
    Inv k { s with head := .ready, toMain := s.toMain ++ [⟨note, .ack n⟩] } := by
  have hno := hi.no_shutdown (by simp [hh])
  refine hi.of_perm rfl ?_ ?_ (by simpa using hno) (fun h => by simpa [hh] using hi.stopped h)
  · simp only [owed, hh, HeadPc.owes, List.filterMap_append, ackOf, List.filterMap_cons,
      List.filterMap_nil, List.append_assoc]
    exact List.Perm.append_left _ List.perm_append_comm
  · intro m hm ho
    simp only [List.mem_append, List.mem_singleton] at hm
    rcases hm with hm | rfl
    · exact absurd ho (hno m hm)
    · cases ho

/-- The head ends on an error: it owes nothing more and queues the shutdown byte. -/
theorem inv_die (hh : s.head = .ready) :
    Inv k { s with head := .exited, toMain := s.toMain ++ [⟨0, .shutdown⟩] } := by
  have hno := hi.no_shutdown (by simp [hh])
  refine hi.of_owed rfl (fun x hx => ?_) ?_ ?_ (by simpa using hno) (fun _ => rfl)
  · simp [owed, HeadPc.owes, ackOf] at hx ⊢; exact .inr hx
  · simp [owed, HeadPc.owes, ackOf]
  · intro m hm ho
    simp only [List.mem_append, List.mem_singleton] at hm
    rcases hm with hm | rfl
    · exact absurd ho (hno m hm)
    · exact ⟨rfl, rfl⟩

end Actions

/-- **A patient step keeps the invariant.** -/
theorem next_inv {k : HeadKind} {s s' : Ctl} {a : Action} (hi : Inv k s)
    (h : next k s a = some s')
    (hp : a = .timeout → ∀ n b, s.main = .awaiting n b → NoAckPending k s n) : Inv k s' := by
  cases a <;> simp only [next] at h <;> split at h <;>
    simp only [Option.some.injEq, reduceCtorEq] at h <;> subst h
  case call.h_1 hm => exact inv_call hi hm
  case recv.h_1 _ _ _ _ _ ht => exact inv_recv hi ht
  case timeout.h_1 n b hm ht => exact inv_timeout hi hm ht (hp rfl n b hm)
  case threadEvent.h_1 _ _ hm ht => exact inv_threadEvent hi hm ht
  case signal.h_1 => exact inv_signal hi
  case read.h_1 _ _ _ hh ht => exact inv_read hi hh ht
  case ack.h_1 _ _ hh => exact inv_ack hi hh
  case die.h_1 hh => exact inv_die hi hh

theorem reachable_inv {k : HeadKind} {s : Ctl} (h : Reachable k true s) : Inv k s := by
  induction h with
  | refl => exact inv_init k
  | tail _ hst ih =>
    obtain ⟨a, h, hp⟩ := hst
    exact next_inv ih h (hp rfl)

/-- **Acknowledgements match their commands when every call is patient.** If a call times
out only when no acknowledgement of its command can still come, then in every reachable
state a byte the waiting call accepts is the head's acknowledgement of that very call, or
the shutdown byte `0` of a head that has shut down when the command itself is `0`; and the
head is marked stopped only after it has shut down. -/
theorem patient_reachable_ok {k : HeadKind} {s : Ctl} (h : Reachable k true s) :
    AcceptsOwnAck s ∧ StoppedOnlyExited s := by
  have hi := reachable_inv h
  refine ⟨fun n b m rest hm ht hb => ?_, hi.stopped⟩
  cases ho : m.origin with
  | ack n' =>
    have hx : (n', m.byte) ∈ owed k s := by simp [owed, ht, ackOf, ho]
    have := hi.owed_awaited _ hx
    simp only [hm, MainPc.awaiting.injEq] at this
    exact .inl (by rw [this.1])
  | shutdown =>
    exact .inr ⟨hb ▸ (hi.shutdown m (by simp [ht]) ho).1, rfl⟩

/-- A V4L head acknowledges `THR_NOTIFY_STOP_STREAMING` in time, twice. -/
def stopTwice : List Action := [.call 0xf0, .read, .ack, .recv, .call 0xf0, .read, .ack]

theorem patient_reachable_ok_stopTwice :
    AcceptsOwnAck ⟨.awaiting 1 0xf0, .ready, [], [⟨0xf0, .ack 1⟩], 2, false, false⟩ ∧
      StoppedOnlyExited ⟨.awaiting 1 0xf0, .ready, [], [⟨0xf0, .ack 1⟩], 2, false, false⟩ :=
  patient_reachable_ok (run_reach (fun _ => by decide) (by decide : run .v4l (init .v4l) stopTwice = _))

end Control

end Cobra
