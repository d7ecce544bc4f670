import Mathlib.Logic.Relation
import Mathlib.Tactic.Common

/-!
# The Whole-Frame Handshake

A grid engine hands every finished FOV to a worker thread. `processWholeFrame` on the ROI
thread, the worker loop `processWholeFrameEventLoop` and `shutdown` share one mutex, one
condition variable and the flags `quitNow`, `dataReady` and `dataProcessed` of
`LocalProcessFrameInfo` (initially `false`, `false`, `true`). The worker is started by the
first `processWholeFrame` call.

The two threads are modelled by program counters, one step per atomic action: taking the
mutex, an evaluation of a wait predicate under it, `wait` (release the mutex and join the
wait set), `notify_one` (wake the other thread if it is in the wait set, otherwise nothing),
the worker's `localProcessFrame`, taken to terminate, and the worker's write of
`dataProcessed`, which it makes after leaving its locked block. A thread holds the mutex
exactly in the program counters between taking it and releasing it, so the mutex needs no
state of its own. Wake-ups are only those of `notify_one`.

## Main results

* `reachable_inv`: in every reachable state at most one thread holds the mutex, and a job is
  never handed over while the worker is still processing the previous one.
* `stuck_of_waiting`: with both threads in the wait set no step is possible.
* `lost_wakeup_deadlock`: the worker can set `dataProcessed` and notify between the ROI
  thread's predicate check and its `wait`; the notification is lost, and both threads wait
  for ever, the ROI thread inside `processWholeFrame`.
-/

namespace Cobra

namespace Handshake

/-- Where the ROI thread is: between calls, inside `processWholeFrame`, or inside
`shutdown`. -/
inductive RoiPc where
  /-- Between calls. -/
  | idle
  /-- `processWholeFrame`: taking the mutex. -/
  | locking
  /-- Holding the mutex, evaluating `dataProcessed`. -/
  | checking
  /-- Holding the mutex, the predicate false, about to `wait`. -/
  | blocking
  /-- In the wait set of the condition variable. -/
  | waiting
  /-- Notified, taking the mutex again to re-evaluate the predicate. -/
  | woken
  /-- The job is handed over and the mutex released; `notify_one` is next. -/
  | notifying
  /-- `shutdown`: taking the mutex to set `dataReady` and `quitNow`. -/
  | shutLocking
  /-- `shutdown`: the flags are set, `notify_one` is next. -/
  | shutNotifying
  /-- `shutdown`: waiting on the worker's future. -/
  | joining
  /-- `shutdown` has returned. -/
  | finished
  deriving DecidableEq, Repr

/-- Where the worker is in `processWholeFrameEventLoop`. -/
inductive WorkerPc where
  /-- No `processWholeFrame` call has started the thread yet. -/
  | notStarted
  /-- Taking the mutex at the top of the loop. -/
  | locking
  /-- Holding the mutex, evaluating `dataReady || quitNow`. -/
  | checking
  /-- Holding the mutex, the predicate false, about to `wait`. -/
  | blocking
  /-- In the wait set of the condition variable. -/
  | waiting
  /-- Notified, taking the mutex again to re-evaluate the predicate. -/
  | woken
  /-- Running `localProcessFrame` on the job, holding the mutex. -/
  | processing
  /-- Out of the locked block; `dataProcessed = true` is next. -/
  | unlocked
  /-- `dataProcessed` is set; `notify_one` is next. -/
  | notifying
  /-- The loop has returned on `quitNow`. -/
  | quit
  deriving DecidableEq, Repr

/-- The program counters of both threads and the flags of `LocalProcessFrameInfo`. -/
structure State where
  roi : RoiPc
  worker : WorkerPc
  quitNow : Bool
  dataReady : Bool
  dataProcessed : Bool
  deriving DecidableEq, Repr

/-- The state at construction: no worker, the member initialisers of the flags. -/
def init : State := ⟨.idle, .notStarted, false, false, true⟩

/-- The ROI thread holds the mutex between taking it and `wait` or the end of its block. -/
def RoiPc.holdsMutex : RoiPc → Bool
  | .checking | .blocking => true
  | _ => false

/-- The worker holds the mutex between taking it and `wait`, `return` or the end of its
block, which encloses `localProcessFrame`. -/
def WorkerPc.holdsMutex : WorkerPc → Bool
  | .checking | .blocking | .processing => true
  | _ => false

/-- A notification moves a thread out of the wait set and leaves any other place alone. -/
def RoiPc.wake : RoiPc → RoiPc
  | .waiting => .woken
  | pc => pc

def WorkerPc.wake : WorkerPc → WorkerPc
  | .waiting => .woken
  | pc => pc

/-- `notify_one` from the ROI thread: wake the worker if it waits. -/
def State.notifyWorker (s : State) : State := { s with worker := s.worker.wake }

/-- `notify_one` from the worker: wake the ROI thread if it waits. -/
def State.notifyRoi (s : State) : State := { s with roi := s.roi.wake }

/-- The call the ROI thread makes when it is between calls. -/
inductive Call where
  | processWholeFrame
  | shutdown
  deriving DecidableEq, Repr

/-- One atomic step of the ROI thread, `none` when it is blocked. The job is handed over,
and the worker started on the first call, under the mutex once `dataProcessed` holds. -/
def roiStep (s : State) (c : Call) : Option State :=
  match s.roi with
  | .idle =>
    match c with
    | .processWholeFrame => some { s with roi := .locking }
    | .shutdown =>
      some { s with roi := if s.worker = .notStarted then .finished else .shutLocking }
  | .locking | .woken => if s.worker.holdsMutex then none else some { s with roi := .checking }
  | .checking =>
    if s.dataProcessed then
      some { s with roi := .notifying, quitNow := false, dataReady := true,
                    dataProcessed := false,
                    worker := if s.worker = .notStarted then .locking else s.worker }
    else some { s with roi := .blocking }
  | .blocking => some { s with roi := .waiting }
  | .waiting => none
  | .notifying => some { s with roi := .idle }.notifyWorker
  | .shutLocking =>
    if s.worker.holdsMutex then none
    else some { s with roi := .shutNotifying, dataReady := true, quitNow := true }
  | .shutNotifying => some { s with roi := .joining }.notifyWorker
  | .joining => if s.worker = .quit then some { s with roi := .finished } else none
  | .finished => none

/-- One atomic step of the worker, `none` when it is blocked or gone. -/
def workerStep (s : State) : Option State :=
  match s.worker with
  | .notStarted | .waiting | .quit => none
  | .locking | .woken => if s.roi.holdsMutex then none else some { s with worker := .checking }
  | .checking =>
    if s.quitNow then some { s with worker := .quit }
    else if s.dataReady then some { s with worker := .processing, dataReady := false }
    else some { s with worker := .blocking }
  | .blocking => some { s with worker := .waiting }
  | .processing => some { s with worker := .unlocked }
  | .unlocked => some { s with worker := .notifying, dataProcessed := true }
  | .notifying => some { s with worker := .locking }.notifyRoi

/-- A step of either thread. -/
inductive Step : State → State → Prop where
  | roi {s s' : State} (c : Call) : roiStep s c = some s' → Step s s'
  | worker {s s' : State} : workerStep s = some s' → Step s s'

/-- The states some interleaving reaches from `init`. -/
def Reachable (s : State) : Prop := Relation.ReflTransGen Step init s

/-! ### Mutual exclusion and the hand-over -/

/-- What every reachable state satisfies: at most one thread holds the mutex; a job waiting
for the worker has `dataProcessed` down; and while the worker processes a job or has just
left its block, `dataProcessed` is down and no other job is waiting. -/
structure Inv (s : State) : Prop where
  mutex : !(s.roi.holdsMutex && s.worker.holdsMutex)
  ready : s.dataReady = true → s.quitNow = false → s.dataProcessed = false
  busy : s.worker = .processing ∨ s.worker = .unlocked →
    s.dataProcessed = false ∧ (s.dataReady = true → s.quitNow = true)

theorem inv_init : Inv init := ⟨rfl, by simp [init], by simp [init]⟩

/-- A woken thread takes the mutex again before it runs, so waking gives it no mutex and no
job. -/
@[simp] theorem RoiPc.holdsMutex_wake (pc : RoiPc) : pc.wake.holdsMutex = pc.holdsMutex := by
  cases pc <;> rfl

@[simp] theorem WorkerPc.holdsMutex_wake (pc : WorkerPc) :
    pc.wake.holdsMutex = pc.holdsMutex := by
  cases pc <;> rfl

@[simp] theorem WorkerPc.wake_busy (pc : WorkerPc) :
    (pc.wake = .processing ∨ pc.wake = .unlocked) ↔ (pc = .processing ∨ pc = .unlocked) := by
  cases pc <;> simp [WorkerPc.wake]

theorem roiStep_inv {s s' : State} {c : Call} (hi : Inv s) (h : roiStep s c = some s') :
    Inv s' := by
  obtain ⟨hm, hr, hb⟩ := hi
  obtain ⟨roi, worker, q, r, p⟩ := s
  cases roi <;> cases c <;> simp only [roiStep] at h <;> (try split_ifs at h) <;> cases h <;>
    constructor <;>
    simp_all [RoiPc.holdsMutex, WorkerPc.holdsMutex, State.notifyWorker]

theorem workerStep_inv {s s' : State} (hi : Inv s) (h : workerStep s = some s') : Inv s' := by
  obtain ⟨hm, hr, hb⟩ := hi
  obtain ⟨roi, worker, q, r, p⟩ := s
  cases worker <;> simp only [workerStep] at h <;> (try split_ifs at h) <;> cases h <;>
    constructor <;> simp_all [RoiPc.holdsMutex, WorkerPc.holdsMutex, State.notifyRoi]

theorem step_inv {s s' : State} (hi : Inv s) : Step s s' → Inv s'
  | .roi _ h => roiStep_inv hi h
  | .worker h => workerStep_inv hi h

theorem reachable_inv {s : State} (h : Reachable s) : Inv s := by
  induction h with
  | refl => exact inv_init
  | tail _ hst ih => exact step_inv ih hst

/-! ### The lost wake-up -/

/-- **Both threads waiting is a deadlock.** Nothing but a notification leaves the wait set,
and only a thread outside it notifies. -/
theorem stuck_of_waiting {s : State} (hr : s.roi = .waiting) (hw : s.worker = .waiting) :
    ∀ s', ¬ Step s s' := by
  intro s' hs
  cases hs with
  | roi c h => simp [roiStep, hr] at h
  | worker h => simp [workerStep, hw] at h

/-- A schedule: `some c` is a step of the ROI thread (`c` used when it is between calls),
`none` a step of the worker. -/
def run : State → List (Option Call) → Option State
  | s, [] => some s
  | s, some c :: rest => (roiStep s c).bind (run · rest)
  | s, none :: rest => (workerStep s).bind (run · rest)

theorem run_reach {s t : State} :
    ∀ {l : List (Option Call)}, run s l = some t → Relation.ReflTransGen Step s t := by
  intro l
  induction l generalizing s with
  | nil => intro h; cases h; exact .refl
  | cons a l ih =>
    intro h
    cases a with
    | none =>
      cases hs : workerStep s with
      | none => simp [run, hs] at h
      | some s1 => simp only [run, hs, Option.bind_some] at h; exact .head (.worker hs) (ih h)
    | some c =>
      cases hs : roiStep s c with
      | none => simp [run, hs] at h
      | some s1 => simp only [run, hs, Option.bind_some] at h; exact .head (.roi c hs) (ih h)

/-- Two `processWholeFrame` calls. The first hands a job to the new worker. The second takes
the mutex the moment the worker leaves `localProcessFrame`, finds `dataProcessed` still
down, and is about to `wait` when the worker sets the flag and notifies nobody. -/
def lostWakeup : List (Option Call) :=
  [some .processWholeFrame, some .processWholeFrame, some .processWholeFrame,
   some .processWholeFrame, none, none, some .processWholeFrame, none,
   some .processWholeFrame, some .processWholeFrame, none, none,
   some .processWholeFrame, none, none, none]

/-- The state `lostWakeup` ends in: both threads in the wait set, `dataProcessed` up. -/
def deadlocked : State := ⟨.waiting, .waiting, false, false, true⟩

theorem run_lostWakeup : run init lostWakeup = some deadlocked := by decide

/-- **The handshake deadlocks.** Some interleaving of two `processWholeFrame` calls with the
worker leaves the ROI thread waiting inside the second call with no step left to either
thread, although the worker has finished the first job. -/
theorem lost_wakeup_deadlock :
    ∃ s, Reachable s ∧ s.roi = .waiting ∧ s.dataProcessed = true ∧ ∀ s', ¬ Step s s' :=
  ⟨deadlocked, run_reach run_lostWakeup, rfl, rfl, stuck_of_waiting rfl rfl⟩

end Handshake

end Cobra
