import Mathlib.Logic.Function.Iterate
import Mathlib.Logic.Relation
import Mathlib.Tactic.Common
import Cobra.Net.Pipeline

/-!
# The Chunk Queue of a Pipeline Module

A `PipelineModule` owns a ring of `ReturnChunk` pointers, the array `m_ownedChunks` of
`RETURNCHUNK_MAX_CIRCULAR_BUFFER_SIZE` slots of which the first `ownedChunks_len` are used,
with a read and a write index, one mutex `m_ownedChunksMut` and one condition variable
`m_newChunkSig`. `HandChunkIn` stores a chunk at the write index, moves the index on (or
calls `exit(1)` when that would reach the read index), signals and unlocks. The worker thread
starts in `ThreadEntry`, which assigns `PTHREAD_MUTEX_INITIALIZER` and
`PTHREAD_COND_INITIALIZER` to the mutex and the condition variable, and then loops in
`PumpPipeline`: it waits while the indices are equal, takes the chunk at the read index,
moves that index on, unlocks and calls `WorkOnSingleChunk`.

The model interleaves the worker with any number of `HandChunkIn` calls, one step per
access to the shared members. A call or the worker holds the mutex from the step that takes
it to the step that releases it; the mutex itself is the flag `locked`, which taking it
needs down and sets, and which the re-initialisation puts down whoever holds it.
`pthread_cond_signal` wakes the worker when it waits and is lost otherwise; spurious
wake-ups are not modelled. Ghost lists record the chunks whose calls moved the write index
(`handedIn`), those of them not yet taken (`queue`) and the arguments of
`WorkOnSingleChunk` (`delivered`). The callers may start a call only while fewer than
`len - 1` chunks are outstanding, which `CobraNetPipelineWrapper` ensures with its
`NUM_FRAME_BUFFERS` chunks and `len = NUM_FRAME_BUFFERS + 1`.

## Main results

* `reachable_early_call_breaks`: a call that starts before `ThreadEntry` has run shares the
  critical section with another call or with the worker; two such calls store their chunks
  in one slot, and the worker passes one chunk and `nullptr` to `WorkOnSingleChunk`; one
  such call signals before the worker waits, which then sleeps with the chunk in the ring.
* `reachable_delivers_in_order`: when calls start only after `ThreadEntry` has run, at most
  one thread is ever in the critical section, `exit(1)` is never reached, the slot written
  next never holds an unread chunk, the chunks reach `WorkOnSingleChunk` in the order they
  were handed in, each once, and from a state with no call in progress the run can go on to
  deliver every chunk handed in.
-/

namespace Cobra

namespace ChunkQueue

/-! ### The ring -/

/-- `RETURNCHUNK_MAX_CIRCULAR_BUFFER_SIZE`, the number of slots of `m_ownedChunks`. -/
def maxCircularBufferSize : Nat := 100

/-- `m_ownedChunks_len`: `0` until `SetCircularBufferSize` accepts a size, and never more
than the array holds. -/
structure BufferLen where
  val : Nat
  le_max : val ≤ maxCircularBufferSize

/-- The constructor's `m_ownedChunks_len = 0`. -/
def BufferLen.unset : BufferLen := ⟨0, Nat.zero_le _⟩

/-- `SetCircularBufferSize`: refused while the module runs and for a size outside
`1 ..= RETURNCHUNK_MAX_CIRCULAR_BUFFER_SIZE`. -/
def BufferLen.setCircularBufferSize (m : BufferLen) (running : Bool) (requestedSize : Nat) :
    Bool × BufferLen :=
  if h : running = false ∧ 0 < requestedSize ∧ requestedSize ≤ maxCircularBufferSize then
    (true, ⟨requestedSize, h.2.2⟩)
  else (false, m)

/-- `ownedChunks_len` in `HandChunkIn` and `PumpPipeline`: the whole array while no size is
set. -/
def BufferLen.ownedChunksLen (m : BufferLen) : Nat :=
  if m.val ≠ 0 then m.val else maxCircularBufferSize

theorem BufferLen.ownedChunksLen_pos (m : BufferLen) : 0 < m.ownedChunksLen := by
  unfold ownedChunksLen maxCircularBufferSize
  split <;> omega

theorem BufferLen.ownedChunksLen_le (m : BufferLen) :
    m.ownedChunksLen ≤ maxCircularBufferSize := by
  have := m.le_max
  unfold ownedChunksLen
  split <;> omega

/-- The size `CobraNetPipelineWrapper` sets before `StartModule`: `NUM_FRAME_BUFFERS + 1`. -/
def wrapperLen : BufferLen := ⟨NetPipeline.numFrameBuffers + 1, by decide⟩

example : BufferLen.unset.setCircularBufferSize false (NetPipeline.numFrameBuffers + 1) =
    (true, wrapperLen) := rfl

/-- `m_ownedChunks_readIdx++` and `next_m_ownedChunks_writeIdx`: one slot on, back to `0` at
the end of the ring. -/
def wrapIncr (len i : Nat) : Nat := if i + 1 ≥ len then 0 else i + 1

theorem wrapIncr_lt {len : Nat} (i : Nat) (h : 0 < len) : wrapIncr len i < len := by
  unfold wrapIncr
  split <;> omega

/-- Fewer than `len` increments from inside the ring wrap at most once. -/
theorem iterate_wrapIncr {len r : Nat} (hr : r < len) :
    ∀ {k : Nat}, k < len → (wrapIncr len)^[k] r = if r + k < len then r + k else r + k - len
  | 0, _ => by simp [hr]
  | k + 1, hk => by
    rw [Function.iterate_succ_apply', iterate_wrapIncr hr (by omega : k < len)]
    unfold wrapIncr
    split_ifs <;> omega

theorem iterate_wrapIncr_lt {len r k : Nat} (hr : r < len) (hk : k < len) :
    (wrapIncr len)^[k] r < len := by
  rw [iterate_wrapIncr hr hk]
  split <;> omega

/-- The first `len` positions from a slot are distinct. -/
theorem iterate_wrapIncr_inj {len r i j : Nat} (hr : r < len) (hi : i < len) (hj : j < len)
    (h : (wrapIncr len)^[i] r = (wrapIncr len)^[j] r) : i = j := by
  rw [iterate_wrapIncr hr hi, iterate_wrapIncr hr hj] at h
  split_ifs at h <;> omega

/-- The contents of `n` slots from `r` on, in the order `PumpPipeline` takes them. -/
def ringFrom (len : Nat) (slots : List (Option Nat)) : Nat → Nat → List (Option Nat)
  | _, 0 => []
  | r, n + 1 => slots.getD r none :: ringFrom len slots (wrapIncr len r) n

theorem ringFrom_succ' (len : Nat) (slots : List (Option Nat)) :
    ∀ r n : Nat, ringFrom len slots r (n + 1) =
      ringFrom len slots r n ++ [slots.getD ((wrapIncr len)^[n] r) none]
  | _, 0 => rfl
  | r, n + 1 => by
    rw [ringFrom, ringFrom_succ' len slots (wrapIncr len r) n, Function.iterate_succ_apply]
    rfl

/-- A store outside the positions read leaves the contents alone. -/
theorem ringFrom_set {len p : Nat} {slots : List (Option Nat)} {v : Option Nat} :
    ∀ {r n : Nat}, (∀ i < n, (wrapIncr len)^[i] r ≠ p) →
      ringFrom len (slots.set p v) r n = ringFrom len slots r n
  | _, 0, _ => rfl
  | r, n + 1, h => by
    have hr : p ≠ r := (h 0 n.succ_pos).symm
    simp only [ringFrom, List.getD_eq_getElem?_getD, List.getElem?_set_ne hr]
    rw [ringFrom_set fun i hi => by simpa using h (i + 1) (by omega)]

/-! ### Threads and steps -/

/-- Where a `HandChunkIn` call with chunk `c` is. -/
inductive ProdPc where
  /-- Taking `m_ownedChunksMut`. -/
  | locking (c : Nat)
  /-- Storing the chunk at `m_ownedChunks_writeIdx`. -/
  | writing (c : Nat)
  /-- The full check, then the write index moves on or `exit(1)`. -/
  | advancing (c : Nat)
  /-- `pthread_cond_signal`. -/
  | signaling
  /-- `pthread_mutex_unlock`. -/
  | unlocking
  /-- The call has returned. -/
  | done
  deriving DecidableEq, Repr

/-- Where the worker thread is: in `ThreadEntry`, then in the loop of `PumpPipeline`. -/
inductive WorkerPc where
  /-- Started by `StartModule`; the re-initialisation of `ThreadEntry` is next. -/
  | entry
  /-- Taking the mutex at the top of the loop. -/
  | locking
  /-- Holding it, comparing the read and the write index. -/
  | checking
  /-- Holding it, the indices equal; `pthread_cond_wait` is next. -/
  | blocking
  /-- In the wait set of `m_newChunkSig`. -/
  | waiting
  /-- Signalled; `pthread_cond_wait` takes the mutex again before it returns. -/
  | woken
  /-- Holding it, the indices different: taking the chunk at the read index, storing
  `nullptr` there and moving the index on. -/
  | taking
  /-- Holding it with the chunk taken; `pthread_mutex_unlock` is next. -/
  | unlocking (c : Option Nat)
  /-- `WorkOnSingleChunk` on the taken chunk, then passing it on or disposing of it. -/
  | working (c : Option Nat)
  deriving DecidableEq, Repr

/-- The members of `PipelineModule` the threads share, the program counters of the worker
and of every `HandChunkIn` call so far, whether `exit(1)` has run, and the ghost lists. A
chunk is a number, `nullptr` is `none`. -/
structure State where
  calls : List ProdPc
  worker : WorkerPc
  locked : Bool
  slots : List (Option Nat)
  readIdx : Nat
  writeIdx : Nat
  exited : Bool
  handedIn : List Nat
  queue : List Nat
  delivered : List (Option Nat)
  deriving DecidableEq, Repr

/-- The module once `StartModule` has returned: the constructor's members, the mutex free,
the worker not yet in `ThreadEntry`, no call. -/
def init : State :=
  ⟨[], .entry, false, List.replicate maxCircularBufferSize none, 0, 0, false, [], [], []⟩

/-- `pthread_cond_signal`: the worker leaves the wait set, if it is there. -/
def WorkerPc.wake : WorkerPc → WorkerPc
  | .waiting => .woken
  | pc => pc

/-- One step of the `i`-th call of `HandChunkIn`, which is at `pc`. -/
def callStep (m : BufferLen) (s : State) (i : Nat) : ProdPc → Option State
  | .locking c =>
    if s.locked then none else some { s with calls := s.calls.set i (.writing c), locked := true }
  | .writing c =>
    some { s with calls := s.calls.set i (.advancing c),
                  slots := s.slots.set s.writeIdx (some c) }
  | .advancing c =>
    if wrapIncr m.ownedChunksLen s.writeIdx ≠ s.readIdx then
      some { s with calls := s.calls.set i .signaling,
                    writeIdx := wrapIncr m.ownedChunksLen s.writeIdx,
                    handedIn := s.handedIn ++ [c], queue := s.queue ++ [c] }
    else some { s with exited := true }
  | .signaling => some { s with calls := s.calls.set i .unlocking, worker := s.worker.wake }
  | .unlocking => some { s with calls := s.calls.set i .done, locked := false }
  | .done => none

/-- One step of the worker. -/
def workerStep (m : BufferLen) (s : State) : Option State :=
  match s.worker with
  | .entry => some { s with worker := .locking, locked := false }
  | .locking | .woken =>
    if s.locked then none else some { s with worker := .checking, locked := true }
  | .checking =>
    some { s with worker := if s.readIdx = s.writeIdx then .blocking else .taking }
  | .blocking => some { s with worker := .waiting, locked := false }
  | .waiting => none
  | .taking =>
    some { s with worker := .unlocking (s.slots.getD s.readIdx none),
                  slots := s.slots.set s.readIdx none,
                  readIdx := wrapIncr m.ownedChunksLen s.readIdx, queue := s.queue.tail }
  | .unlocking c => some { s with worker := .working c, locked := false }
  | .working c => some { s with worker := .locking, delivered := s.delivered ++ [c] }

/-- What can happen next. -/
inductive Action where
  /-- A producer calls `HandChunkIn` with chunk `c`. -/
  | start (c : Nat)
  /-- The `i`-th call so far takes a step. -/
  | call (i : Nat)
  /-- The worker takes a step. -/
  | worker
  deriving DecidableEq, Repr

/-- One action, `none` when it is not enabled; nothing runs after `exit(1)`. -/
def next (m : BufferLen) (s : State) (a : Action) : Option State :=
  if s.exited then none
  else
    match a with
    | .start c => some { s with calls := s.calls ++ [.locking c] }
    | .call i => s.calls[i]?.bind (callStep m s i)
    | .worker => workerStep m s

/-- A call holds the mutex from taking it to releasing it. -/
def ProdPc.holds : ProdPc → Bool
  | .writing _ | .advancing _ | .signaling | .unlocking => true
  | _ => false

/-- A call whose chunk is not yet in the ring. -/
def ProdPc.pending : ProdPc → Bool
  | .locking _ | .writing _ | .advancing _ => true
  | _ => false

/-- The worker holds the mutex from taking it to `wait` or to releasing it. -/
def WorkerPc.holds : WorkerPc → Bool
  | .checking | .blocking | .taking | .unlocking _ => true
  | _ => false

/-- The chunk the worker has taken and not yet passed to `WorkOnSingleChunk`. -/
def WorkerPc.inflight : WorkerPc → List (Option Nat)
  | .unlocking c | .working c => [c]
  | _ => []

/-- The number of threads in the critical section, which encloses every access to the
indices and the slots. -/
def holders (s : State) : Nat := s.calls.countP ProdPc.holds + s.worker.holds.toNat

/-- The chunks handed to `HandChunkIn` and not yet taken by the worker. -/
def outstanding (s : State) : Nat := s.queue.length + s.calls.countP ProdPc.pending

/-- The callers' side: a call starts only while fewer than `len - 1` chunks are outstanding,
and, with `afterEntry`, only once `ThreadEntry` has run. -/
def admits (m : BufferLen) (afterEntry : Bool) (s : State) : Action → Bool
  | .start _ =>
    decide (outstanding s + 1 < m.ownedChunksLen) && !(afterEntry && s.worker == .entry)
  | _ => true

/-- A step of the module. -/
inductive Step (m : BufferLen) (afterEntry : Bool) : State → State → Prop where
  | mk {s t : State} (a : Action) (ha : admits m afterEntry s a = true)
      (h : next m s a = some t) : Step m afterEntry s t

/-- The states some interleaving reaches once `StartModule` has returned. -/
def Reachable (m : BufferLen) (afterEntry : Bool) (s : State) : Prop :=
  Relation.ReflTransGen (Step m afterEntry) init s

/-- A schedule of actions, run in order. -/
def run (m : BufferLen) (afterEntry : Bool) : State → List Action → Option State
  | s, [] => some s
  | s, a :: rest => if admits m afterEntry s a then (next m s a).bind (run m afterEntry · rest)
    else none

theorem run_reach {m : BufferLen} {afterEntry : Bool} {s t : State} {l : List Action}
    (h : run m afterEntry s l = some t) : Relation.ReflTransGen (Step m afterEntry) s t := by
  induction l generalizing s with
  | nil => cases h; exact .refl
  | cons a l ih =>
    by_cases ha : admits m afterEntry s a = true
    · cases hs : next m s a with
      | none => simp [run, ha, hs] at h
      | some s1 =>
        simp only [run, ha, hs, if_true, Option.bind_some] at h
        exact .head (.mk a ha hs) (ih h)
    · simp [run, ha] at h

/-! ### A call before `ThreadEntry` -/

/-- Two calls start before the worker runs. The first takes the mutex, `ThreadEntry` frees
it, the second takes it too; both store their chunk in slot `0` and move the write index,
and the worker then takes the second chunk and the `nullptr` of slot `1`. -/
def twoEarlyCalls : List Action :=
  [.start 1, .start 2, .call 0, .worker, .call 1, .call 0, .call 1, .call 0, .call 1,
   .call 0, .call 0, .call 1, .call 1, .worker, .worker, .worker, .worker, .worker,
   .worker, .worker, .worker, .worker, .worker]

/-- One call starts before the worker runs and takes the mutex; `ThreadEntry` frees it, the
worker takes it, finds the ring empty, and waits only after the call has signalled. -/
def lostSignal : List Action :=
  [.start 1, .call 0, .worker, .worker, .worker, .call 0, .call 0, .call 0, .call 0, .worker]

/-- **Calls before `ThreadEntry` break the queue.** With the wrapper's ring length, an
interleaving of two calls that start as soon as `StartModule` has returned puts both in the
critical section, and the worker passes the second chunk and then `nullptr` to
`WorkOnSingleChunk`, never the first. With one such call, the worker can end waiting with
the chunk in the ring, no call in progress, and no step left but a new call. -/
theorem reachable_early_call_breaks :
    (∃ s, Reachable wrapperLen false s ∧ 2 ≤ holders s) ∧
    (∃ s, Reachable wrapperLen false s ∧ s.handedIn = [1, 2] ∧
      s.delivered = [some 2, none]) ∧
    ∃ s, Reachable wrapperLen false s ∧ (∀ p ∈ s.calls, p = .done) ∧ s.handedIn = [1] ∧
      s.delivered = [] ∧ ∀ t, Step wrapperLen false s t → ∃ c, t.calls = s.calls ++ [.locking c] := by
  obtain ⟨s1, h1, hs1⟩ : ∃ s, run wrapperLen false init (twoEarlyCalls.take 5) = some s ∧
      holders s = 2 := ⟨_, rfl, by decide⟩
  obtain ⟨s2, h2, hs2⟩ : ∃ s, run wrapperLen false init twoEarlyCalls = some s ∧
      s.handedIn = [1, 2] ∧ s.delivered = [some 2, none] := ⟨_, rfl, by decide⟩
  have h3 : run wrapperLen false init lostSignal =
      some ⟨[.done], .waiting, false, (List.replicate maxCircularBufferSize none).set 0 (some 1),
        0, 1, false, [1], [1], []⟩ := by decide
  refine ⟨⟨s1, run_reach h1, hs1.ge⟩, ⟨s2, run_reach h2, hs2⟩, _, run_reach h3, by simp,
    rfl, rfl, fun t ht => ?_⟩
  obtain ⟨a, -, h⟩ := ht
  cases a with
  | start c => exact ⟨c, by cases h; rfl⟩
  | call i =>
    rcases i with _ | i
    · simp [next, callStep] at h
    · simp [next] at h
  | worker => simp [next, workerStep] at h

/-! ### Calls after `ThreadEntry` -/

section Lists

variable {α : Type*} {l : List α} {i : Nat} {a b x : α}

/-- An entry of a list with one place replaced is the new entry or is still there when the
place is replaced by anything else. -/
theorem mem_set_cases (c : α) (h : x ∈ l.set i b) : x = b ∨ x ∈ l.set i c := by
  obtain ⟨j, hj⟩ := List.mem_iff_getElem?.1 h
  by_cases hij : i = j
  · subst hij
    simp only [List.getElem?_set, if_true] at hj
    split at hj <;> simp_all
  · exact .inr (List.mem_iff_getElem?.2 ⟨j, by rwa [List.getElem?_set_ne hij] at hj ⊢⟩)

theorem mem_set_of_ne (c : α) (h : x ∈ l) (hi : l[i]? = some a) (hx : x ≠ a) :
    x ∈ l.set i c := by
  obtain ⟨j, hj⟩ := List.mem_iff_getElem?.1 h
  have hij : i ≠ j := by
    rintro rfl
    exact hx (Option.some.inj (hj.symm.trans hi))
  exact List.mem_iff_getElem?.2 ⟨j, by rw [List.getElem?_set_ne hij]; exact hj⟩

theorem countP_set_add (p : α → Bool) (hi : l[i]? = some a) (b : α) :
    (l.set i b).countP p + (p a).toNat = l.countP p + (p b).toNat := by
  obtain ⟨hl, rfl⟩ := List.getElem?_eq_some.1 hi
  rw [List.countP_set _ _ _ _ hl]
  cases h : p l[i]
  · cases p b <;> simp
  · have := List.countP_pos_iff.2 ⟨_, List.getElem_mem hl, h⟩
    cases p b <;> simp <;> omega

end Lists

/-- A thread outside the critical section is at no place inside it. -/
theorem WorkerPc.ne_of_holds {w pc : WorkerPc} (hw : w.holds = false) (hpc : pc.holds = true) :
    w ≠ pc := by
  rintro rfl
  rw [hw] at hpc
  cases hpc

theorem WorkerPc.eq_of_wake_eq {w pc : WorkerPc} (h : w.wake = pc) (hpc : pc ≠ .woken) :
    w = pc := by
  cases w <;> simp_all [WorkerPc.wake]

theorem WorkerPc.wake_ne_waiting (w : WorkerPc) : w.wake ≠ .waiting := by
  cases w <;> simp [WorkerPc.wake]

@[simp] theorem WorkerPc.holds_wake (pc : WorkerPc) : pc.wake.holds = pc.holds := by
  cases pc <;> rfl

@[simp] theorem WorkerPc.inflight_wake (pc : WorkerPc) : pc.wake.inflight = pc.inflight := by
  cases pc <;> rfl

/-- What every state satisfies when calls start only after `ThreadEntry`: nothing has
exited; the mutex is taken exactly when one thread is in the critical section, and only
after `ThreadEntry` is there a call; the ring holds the queue from the read index on and
ends at the write index; fewer than `len` chunks are outstanding; the chunks handed in are
those delivered, the one in the worker's hands and the queue, in this order; a call about to
move the write index has stored its chunk there; and the worker waits or is about to only
on an empty ring, unless the call that filled it has still to signal. -/
structure Inv (m : BufferLen) (s : State) : Prop where
  running : s.exited = false
  mutex : holders s = s.locked.toNat
  entry : s.worker = .entry → s.calls = []
  size : s.slots.length = maxCircularBufferSize
  read_lt : s.readIdx < m.ownedChunksLen
  ring : ringFrom m.ownedChunksLen s.slots s.readIdx s.queue.length = s.queue.map some
  write : (wrapIncr m.ownedChunksLen)^[s.queue.length] s.readIdx = s.writeIdx
  bound : outstanding s < m.ownedChunksLen
  order : s.handedIn.map some = s.delivered ++ s.worker.inflight ++ s.queue.map some
  written : ∀ c, .advancing c ∈ s.calls → s.slots.getD s.writeIdx none = some c
  blocking : s.worker = .blocking → s.queue = []
  waiting : s.worker = .waiting → s.queue = [] ∨ .signaling ∈ s.calls
  taking : s.worker = .taking → s.queue ≠ []

theorem inv_init (m : BufferLen) : Inv m init where
  running := rfl
  mutex := rfl
  entry _ := rfl
  size := rfl
  read_lt := m.ownedChunksLen_pos
  ring := rfl
  write := rfl
  bound := m.ownedChunksLen_pos
  order := rfl
  written := by simp [init]
  blocking := nofun
  waiting := nofun
  taking := nofun

section Steps

variable {m : BufferLen} {s : State} (hi : Inv m s)
include hi

theorem Inv.queue_lt : s.queue.length < m.ownedChunksLen := by
  have := hi.bound
  unfold outstanding at this
  omega

/-- The write index is not the place of an unread chunk. -/
theorem Inv.not_unread {j : Nat} (hj : j < s.queue.length) :
    (wrapIncr m.ownedChunksLen)^[j] s.readIdx ≠ s.writeIdx := fun h =>
  Nat.ne_of_lt hj
    (iterate_wrapIncr_inj hi.read_lt (hj.trans hi.queue_lt) hi.queue_lt (h.trans hi.write.symm))

theorem Inv.write_lt : s.writeIdx < m.ownedChunksLen :=
  hi.write ▸ iterate_wrapIncr_lt hi.read_lt hi.queue_lt

/-- The indices are equal exactly when the ring is empty. -/
theorem Inv.eq_iff : s.readIdx = s.writeIdx ↔ s.queue = [] := by
  rw [← hi.write, ← List.length_eq_zero]
  exact ⟨fun h => (iterate_wrapIncr_inj hi.read_lt m.ownedChunksLen_pos hi.queue_lt h).symm,
    fun h => by rw [h]; rfl⟩

/-- While the mutex is free no thread is in the critical section. -/
theorem Inv.free (hl : s.locked = false) :
    (∀ x ∈ s.calls, x.holds = false) ∧ s.worker.holds = false := by
  have h := hi.mutex
  simp only [holders, hl, Bool.toNat_false] at h
  exact ⟨fun x hx => by simpa using List.countP_eq_zero.1 (by omega) x hx,
    by cases hw : s.worker.holds <;> simp_all⟩

/-- A call in the critical section is alone there, and the mutex is taken. -/
theorem Inv.call_holds {i : Nat} {a : ProdPc} (hc : s.calls[i]? = some a) (ha : a.holds = true) :
    (∀ x ∈ s.calls.set i .done, x.holds = false) ∧ s.worker.holds = false ∧ s.locked = true := by
  have h := hi.mutex
  have hs := countP_set_add ProdPc.holds hc .done
  rw [ha] at hs
  change _ + 1 = _ + 0 at hs
  simp only [holders] at h
  have key : (s.calls.set i .done).countP ProdPc.holds = 0 ∧ s.worker.holds = false ∧
      s.locked = true := by
    cases hl : s.locked <;> cases hw : s.worker.holds <;>
      simp only [hl, hw, Bool.toNat_true, Bool.toNat_false, and_true, and_false,
        Bool.false_eq_true] at h ⊢ <;> omega
  exact ⟨fun x hx => by simpa using List.countP_eq_zero.1 key.1 x hx, key.2⟩

/-- The worker in the critical section is alone there, and the mutex is taken. -/
theorem Inv.worker_holds (hw : s.worker.holds = true) :
    (∀ x ∈ s.calls, x.holds = false) ∧ s.locked = true := by
  have h := hi.mutex
  simp only [holders, hw, Bool.toNat_true] at h
  have key : s.calls.countP ProdPc.holds = 0 ∧ s.locked = true := by
    cases hl : s.locked <;> simp only [hl, Bool.toNat_true, Bool.toNat_false, and_true,
      and_false, Bool.false_eq_true] at h ⊢ <;> omega
  exact ⟨fun x hx => by simpa using List.countP_eq_zero.1 key.1 x hx, key.2⟩

/-- The full check never fails: the call's chunk is among the outstanding ones, so the ring
has a free slot besides the one the call writes. -/
theorem Inv.not_full {i c : Nat} (hc : s.calls[i]? = some (.advancing c)) :
    wrapIncr m.ownedChunksLen s.writeIdx ≠ s.readIdx := by
  have hp : 0 < s.calls.countP ProdPc.pending :=
    List.countP_pos_iff.2 ⟨_, List.mem_iff_getElem?.2 ⟨i, hc⟩, rfl⟩
  have hb := hi.bound
  unfold outstanding at hb
  rw [← hi.write, ← Function.iterate_succ_apply' (wrapIncr _)]
  exact fun h => Nat.succ_ne_zero _
    (iterate_wrapIncr_inj hi.read_lt (by omega) m.ownedChunksLen_pos h)

theorem Inv.entry_set {i : Nat} {a b : ProdPc} (hc : s.calls[i]? = some a) :
    s.worker = .entry → s.calls.set i b = [] := fun h => by
  simp [hi.entry h] at hc

theorem inv_start (c : Nat) (hb : outstanding s + 1 < m.ownedChunksLen)
    (he : s.worker ≠ .entry) : Inv m { s with calls := s.calls ++ [.locking c] } :=
  { hi with
    mutex := by simpa [holders, List.countP_append, ProdPc.holds] using hi.mutex
    entry := fun h => absurd h he
    bound := by simpa [outstanding, List.countP_append, ProdPc.pending] using hb
    written := fun c' h => hi.written c' (by simpa using h)
    waiting := fun h => (hi.waiting h).imp_right (List.mem_append_left _) }

theorem inv_lock {i c : Nat} (hc : s.calls[i]? = some (.locking c)) (hl : s.locked = false) :
    Inv m { s with calls := s.calls.set i (.writing c), locked := true } := by
  obtain ⟨hcalls, hw⟩ := hi.free hl
  have hs := countP_set_add ProdPc.holds hc (.writing c)
  have hp := countP_set_add ProdPc.pending hc (.writing c)
  have h0 : s.calls.countP ProdPc.holds = 0 :=
    List.countP_eq_zero.2 fun x hx => by simp [hcalls x hx]
  exact { hi with
    mutex := by
      change _ + 0 = _ + 1 at hs
      simp only [holders, hw, Bool.toNat_false, Bool.toNat_true]
      omega
    entry := hi.entry_set hc
    bound := by
      change _ + 1 = _ + 1 at hp
      have := hi.bound
      simp only [outstanding] at this ⊢
      omega
    written := fun c' h => absurd (hcalls _ ((List.mem_or_eq_of_mem_set h).resolve_right nofun))
      (by simp [ProdPc.holds])
    blocking := fun h => absurd h (WorkerPc.ne_of_holds hw rfl)
    waiting := fun h => .inl ((hi.waiting h).resolve_right fun h' =>
      absurd (hcalls _ h') (by simp [ProdPc.holds]))
    taking := fun h => absurd h (WorkerPc.ne_of_holds hw rfl) }

theorem inv_write {i c : Nat} (hc : s.calls[i]? = some (.writing c)) :
    Inv m { s with calls := s.calls.set i (.advancing c),
                   slots := s.slots.set s.writeIdx (some c) } := by
  obtain ⟨hothers, hw, -⟩ := hi.call_holds hc rfl
  have hs := countP_set_add ProdPc.holds hc (.advancing c)
  have hp := countP_set_add ProdPc.pending hc (.advancing c)
  have hwl : s.writeIdx < s.slots.length :=
    hi.size ▸ lt_of_lt_of_le hi.write_lt m.ownedChunksLen_le
  exact { hi with
    mutex := by
      change _ + 1 = _ + 1 at hs
      have := hi.mutex
      simp only [holders] at this ⊢
      omega
    entry := hi.entry_set hc
    size := by simp [hi.size]
    ring := by rw [ringFrom_set fun j hj => hi.not_unread hj, hi.ring]
    bound := by
      change _ + 1 = _ + 1 at hp
      have := hi.bound
      simp only [outstanding] at this ⊢
      omega
    written := fun c' h => by
      rcases mem_set_cases .done h with h | h
      · cases h
        simp [List.getElem?_set_self hwl]
      · exact absurd (hothers _ h) (by simp [ProdPc.holds])
    blocking := fun h => absurd h (WorkerPc.ne_of_holds hw rfl)
    waiting := fun h => (hi.waiting h).imp_right fun h' => mem_set_of_ne _ h' hc nofun
    taking := fun h => absurd h (WorkerPc.ne_of_holds hw rfl) }

theorem inv_advance {i c : Nat} (hc : s.calls[i]? = some (.advancing c)) :
    Inv m { s with calls := s.calls.set i .signaling,
                   writeIdx := wrapIncr m.ownedChunksLen s.writeIdx,
                   handedIn := s.handedIn ++ [c], queue := s.queue ++ [c] } := by
  obtain ⟨hothers, hw, -⟩ := hi.call_holds hc rfl
  have hs := countP_set_add ProdPc.holds hc .signaling
  have hp := countP_set_add ProdPc.pending hc .signaling
  exact { hi with
    mutex := by
      change _ + 1 = _ + 1 at hs
      have := hi.mutex
      simp only [holders] at this ⊢
      omega
    entry := hi.entry_set hc
    ring := by
      rw [List.length_append, List.length_singleton, ringFrom_succ', hi.ring, hi.write,
        hi.written c (List.mem_iff_getElem?.2 ⟨i, hc⟩), List.map_append]
      rfl
    write := by
      rw [List.length_append, List.length_singleton, Function.iterate_succ_apply', hi.write]
    bound := by
      change _ + 1 = _ + 0 at hp
      have := hi.bound
      simp only [outstanding, List.length_append, List.length_singleton] at this ⊢
      omega
    order := by simp [hi.order]
    written := fun c' h => absurd (hothers _ ((mem_set_cases .done h).resolve_left nofun))
      (by simp [ProdPc.holds])
    blocking := fun h => absurd h (WorkerPc.ne_of_holds hw rfl)
    waiting := fun _ => .inr (List.mem_set _ _ (List.getElem?_eq_some.1 hc).1 _)
    taking := fun h => absurd h (WorkerPc.ne_of_holds hw rfl) }

theorem inv_signal {i : Nat} (hc : s.calls[i]? = some .signaling) :
    Inv m { s with calls := s.calls.set i .unlocking, worker := s.worker.wake } := by
  obtain ⟨hothers, hw, -⟩ := hi.call_holds hc rfl
  have hs := countP_set_add ProdPc.holds hc .unlocking
  have hp := countP_set_add ProdPc.pending hc .unlocking
  exact { hi with
    mutex := by
      change _ + 1 = _ + 1 at hs
      have := hi.mutex
      simp only [holders, WorkerPc.holds_wake] at this ⊢
      omega
    entry := fun h => hi.entry_set hc (WorkerPc.eq_of_wake_eq h nofun)
    bound := by
      change _ + 0 = _ + 0 at hp
      have := hi.bound
      simp only [outstanding] at this ⊢
      omega
    order := by simpa using hi.order
    written := fun c' h => absurd (hothers _ ((mem_set_cases .done h).resolve_left nofun))
      (by simp [ProdPc.holds])
    blocking := fun h => absurd (WorkerPc.eq_of_wake_eq h nofun) (WorkerPc.ne_of_holds hw rfl)
    waiting := fun h => absurd h (WorkerPc.wake_ne_waiting _)
    taking := fun h => absurd (WorkerPc.eq_of_wake_eq h nofun) (WorkerPc.ne_of_holds hw rfl) }

theorem inv_unlock {i : Nat} (hc : s.calls[i]? = some .unlocking) :
    Inv m { s with calls := s.calls.set i .done, locked := false } := by
  obtain ⟨hothers, hw, -⟩ := hi.call_holds hc rfl
  have hp := countP_set_add ProdPc.pending hc .done
  exact { hi with
    mutex := by
      simp only [holders, hw, Bool.toNat_false, Nat.add_zero]
      exact List.countP_eq_zero.2 fun x hx => by simp [hothers x hx]
    entry := hi.entry_set hc
    bound := by
      change _ + 0 = _ + 0 at hp
      have := hi.bound
      simp only [outstanding] at this ⊢
      omega
    written := fun c' h => absurd (hothers _ h) (by simp [ProdPc.holds])
    blocking := fun h => absurd h (WorkerPc.ne_of_holds hw rfl)
    waiting := fun h => .inl ((hi.waiting h).resolve_right fun h' =>
      absurd (hothers _ (mem_set_of_ne _ h' hc nofun)) (by simp [ProdPc.holds]))
    taking := fun h => absurd h (WorkerPc.ne_of_holds hw rfl) }

/-- `ThreadEntry` re-initialises the mutex while no call has started. -/
theorem inv_reinit (hw : s.worker = .entry) :
    Inv m { s with worker := .locking, locked := false } :=
  { hi with
    mutex := by simp [holders, hi.entry hw, WorkerPc.holds]
    entry := nofun
    order := by simpa [hw, WorkerPc.inflight] using hi.order
    blocking := nofun
    waiting := nofun
    taking := nofun }

theorem inv_lockWorker (hw : s.worker = .locking ∨ s.worker = .woken) (hl : s.locked = false) :
    Inv m { s with worker := .checking, locked := true } := by
  obtain ⟨hcalls, -⟩ := hi.free hl
  have h0 : s.calls.countP ProdPc.holds = 0 :=
    List.countP_eq_zero.2 fun x hx => by simp [hcalls x hx]
  exact { hi with
    mutex := by simp [holders, h0, WorkerPc.holds]
    entry := nofun
    order := by rcases hw with hw | hw <;> simpa [hw, WorkerPc.inflight] using hi.order
    blocking := nofun
    waiting := nofun
    taking := nofun }

theorem inv_checkEmpty (hw : s.worker = .checking) (h : s.readIdx = s.writeIdx) :
    Inv m { s with worker := .blocking } :=
  { hi with
    mutex := by simpa [holders, hw, WorkerPc.holds] using hi.mutex
    entry := nofun
    order := by simpa [hw, WorkerPc.inflight] using hi.order
    blocking := fun _ => hi.eq_iff.1 h
    waiting := nofun
    taking := nofun }

theorem inv_checkFull (hw : s.worker = .checking) (h : s.readIdx ≠ s.writeIdx) :
    Inv m { s with worker := .taking } :=
  { hi with
    mutex := by simpa [holders, hw, WorkerPc.holds] using hi.mutex
    entry := nofun
    order := by simpa [hw, WorkerPc.inflight] using hi.order
    blocking := nofun
    waiting := nofun
    taking := fun _ => mt hi.eq_iff.2 h }

theorem inv_wait (hw : s.worker = .blocking) :
    Inv m { s with worker := .waiting, locked := false } := by
  obtain ⟨hcalls, -⟩ := hi.worker_holds (by rw [hw]; rfl)
  exact { hi with
    mutex := by
      simp only [holders, Bool.toNat_false]
      exact List.countP_eq_zero.2 fun x hx => by simp [hcalls x hx]
    entry := nofun
    order := by simpa [hw, WorkerPc.inflight] using hi.order
    blocking := nofun
    waiting := fun _ => .inl (hi.blocking hw)
    taking := nofun }

/-- The worker takes the head of the queue from the read index and clears the slot, which is
not among those still to be read. -/
theorem inv_take (hw : s.worker = .taking) :
    Inv m { s with worker := .unlocking (s.slots.getD s.readIdx none),
                   slots := s.slots.set s.readIdx none,
                   readIdx := wrapIncr m.ownedChunksLen s.readIdx, queue := s.queue.tail } := by
  obtain ⟨hcalls, -⟩ := hi.worker_holds (by rw [hw]; rfl)
  obtain ⟨x, rest, hq⟩ := List.exists_cons_of_ne_nil (hi.taking hw)
  have hring := hi.ring
  have hwrite := hi.write
  have hlt := hi.queue_lt
  rw [hq] at hring hwrite hlt
  simp only [List.length_cons, ringFrom, List.map_cons, List.cons.injEq] at hring hlt
  have hx : s.slots[s.readIdx]?.getD none = some x := by simpa using hring.1
  have hfar : ∀ j < rest.length,
      (wrapIncr m.ownedChunksLen)^[j] (wrapIncr m.ownedChunksLen s.readIdx) ≠ s.readIdx :=
    fun j hj h => Nat.succ_ne_zero j
      (iterate_wrapIncr_inj hi.read_lt (by omega) m.ownedChunksLen_pos h)
  exact { hi with
    mutex := by simpa [holders, hw, WorkerPc.holds] using hi.mutex
    entry := nofun
    size := by simp [hi.size]
    read_lt := wrapIncr_lt _ m.ownedChunksLen_pos
    ring := by simpa [hq, ringFrom_set hfar] using hring.2
    write := by
      show (wrapIncr _)^[s.queue.tail.length] (wrapIncr _ s.readIdx) = s.writeIdx
      rw [hq, List.tail_cons, ← Function.iterate_succ_apply]
      exact hwrite
    bound := by
      have := hi.bound
      simp only [outstanding, hq, List.length_cons, List.tail_cons] at this ⊢
      omega
    order := by simpa [hq, hw, WorkerPc.inflight, hx] using hi.order
    written := fun c h => absurd (hcalls _ h) (by simp [ProdPc.holds])
    blocking := nofun
    waiting := nofun
    taking := nofun }

theorem inv_release {c : Option Nat} (hw : s.worker = .unlocking c) :
    Inv m { s with worker := .working c, locked := false } := by
  obtain ⟨hcalls, -⟩ := hi.worker_holds (by rw [hw]; rfl)
  exact { hi with
    mutex := by
      simp only [holders, Bool.toNat_false]
      exact List.countP_eq_zero.2 fun x hx => by simp [hcalls x hx]
    entry := nofun
    order := by simpa [hw, WorkerPc.inflight] using hi.order
    blocking := nofun
    waiting := nofun
    taking := nofun }

/-- `WorkOnSingleChunk` receives the chunk in the worker's hands. -/
theorem inv_work {c : Option Nat} (hw : s.worker = .working c) :
    Inv m { s with worker := .locking, delivered := s.delivered ++ [c] } :=
  { hi with
    mutex := by simpa [holders, hw, WorkerPc.holds] using hi.mutex
    entry := nofun
    order := by simpa [hw, WorkerPc.inflight] using hi.order
    blocking := nofun
    waiting := nofun
    taking := nofun }

theorem callStep_inv {i : Nat} {a : ProdPc} {t : State} (hc : s.calls[i]? = some a)
    (h : callStep m s i a = some t) : Inv m t := by
  cases a with
  | locking c =>
    simp only [callStep] at h
    split_ifs at h with hl
    cases h
    exact inv_lock hi hc (by simpa using hl)
  | writing c => cases h; exact inv_write hi hc
  | advancing c =>
    simp only [callStep] at h
    split_ifs at h with hf
    · cases h; exact inv_advance hi hc
    · exact absurd (not_not.1 hf) (hi.not_full hc)
  | signaling => cases h; exact inv_signal hi hc
  | unlocking => cases h; exact inv_unlock hi hc
  | done => cases h

theorem workerStep_inv {t : State} (h : workerStep m s = some t) : Inv m t := by
  cases hw : s.worker <;> simp only [workerStep, hw, reduceCtorEq] at h
  case entry => cases h; exact inv_reinit hi hw
  case locking | woken =>
    split_ifs at h with hl
    cases h
    exact inv_lockWorker hi (by simp [hw]) (by simpa using hl)
  case checking =>
    split at h <;> cases h
    · exact inv_checkEmpty hi hw ‹_›
    · exact inv_checkFull hi hw ‹_›
  case blocking => cases h; exact inv_wait hi hw
  case taking => cases h; exact inv_take hi hw
  case unlocking => cases h; exact inv_release hi hw
  case working => cases h; exact inv_work hi hw

/-- **A step keeps the invariant** when calls start after `ThreadEntry`. -/
theorem next_inv {a : Action} {t : State} (ha : admits m true s a = true)
    (h : next m s a = some t) : Inv m t := by
  rw [next.eq_def, if_neg (by simp [hi.running])] at h
  cases a with
  | start c =>
    simp [admits] at ha
    cases h
    exact inv_start hi c ha.1 ha.2
  | call i =>
    obtain ⟨a, hc, h⟩ := Option.bind_eq_some.1 h
    exact callStep_inv hi hc h
  | worker => exact workerStep_inv hi h

end Steps

theorem reachable_inv {m : BufferLen} {s : State} (h : Reachable m true s) : Inv m s := by
  induction h with
  | refl => exact inv_init m
  | tail _ hst ih =>
    obtain ⟨a, ha, h⟩ := hst
    exact next_inv ih ha h

/-! ### The worker drains the ring -/

/-- No `HandChunkIn` call is in progress. -/
def Quiet (s : State) : Prop := ∀ p ∈ s.calls, p = .done

/-- How far the worker is from the top of its loop's next round. -/
def WorkerPc.rank : WorkerPc → Nat
  | .entry => 5
  | .locking | .woken => 4
  | .checking => 3
  | .taking => 2
  | .unlocking _ => 1
  | _ => 0

theorem step_worker {m : BufferLen} {e : Bool} {s t : State} (hx : s.exited = false)
    (h : workerStep m s = some t) : Step m e s t :=
  .mk .worker rfl (by rw [next.eq_def, if_neg (by simp [hx])]; exact h)

/-- **With no call in progress the worker alone delivers every chunk handed in.** Each
worker step lowers five times the chunks in the ring or in its hands plus its `rank`, until
the ring and its hands are empty. -/
theorem Inv.drain {m : BufferLen} (k : Nat) : ∀ {s : State}, Inv m s → Quiet s →
    5 * (s.queue.length + s.worker.inflight.length) + s.worker.rank = k →
    ∃ t, Relation.ReflTransGen (Step m true) s t ∧ t.delivered = s.handedIn.map some := by
  induction k using Nat.strong_induction_on with
  | _ k ih =>
  intro s hi hq hk
  by_cases hdone : s.queue = [] ∧ s.worker.inflight = []
  · exact ⟨s, .refl, by simpa [hdone.1, hdone.2] using hi.order.symm⟩
  have go : ∀ {t : State}, workerStep m s = some t → Inv m t →
      5 * (t.queue.length + t.worker.inflight.length) + t.worker.rank < k →
      t.calls = s.calls → t.handedIn = s.handedIn →
      ∃ u, Relation.ReflTransGen (Step m true) s u ∧ u.delivered = s.handedIn.map some :=
    fun h hi' hlt hc hh =>
      let ⟨u, hu, hd⟩ := ih _ hlt hi' (fun p hp => hq p (hc ▸ hp)) rfl
      ⟨u, .head (step_worker hi.running h) hu, hh ▸ hd⟩
  have h0 : s.calls.countP ProdPc.holds = 0 :=
    List.countP_eq_zero.2 fun x hx => by rw [hq x hx]; decide
  cases hw : s.worker with
  | entry =>
    exact go (by simp [workerStep, hw]) (inv_reinit hi hw)
      (by simp [← hk, hw, WorkerPc.rank, WorkerPc.inflight]) rfl rfl
  | locking | woken =>
    have hl : s.locked = false := by
      have h := hi.mutex
      simp only [holders, h0, hw] at h
      cases hl : s.locked <;> simp_all [WorkerPc.holds]
    exact go (by simp [workerStep, hw, hl]) (inv_lockWorker hi (by simp [hw]) hl)
      (by simp [← hk, hw, WorkerPc.rank, WorkerPc.inflight]) rfl rfl
  | checking =>
    have hne : s.readIdx ≠ s.writeIdx :=
      mt hi.eq_iff.1 fun h => hdone ⟨h, by simp [hw, WorkerPc.inflight]⟩
    exact go (by simp [workerStep, hw, hne]) (inv_checkFull hi hw hne)
      (by simp [← hk, hw, WorkerPc.rank, WorkerPc.inflight]) rfl rfl
  | blocking => exact absurd ⟨hi.blocking hw, by simp [hw, WorkerPc.inflight]⟩ hdone
  | waiting =>
    refine (hi.waiting hw).elim (fun h => absurd ⟨h, by simp [hw, WorkerPc.inflight]⟩ hdone)
      fun h => ?_
    cases hq _ h
  | taking =>
    have hpos := List.length_pos.2 (hi.taking hw)
    exact go (by simp [workerStep, hw]) (inv_take hi hw)
      (by simp [← hk, hw, WorkerPc.rank, WorkerPc.inflight]; omega) rfl rfl
  | unlocking c =>
    exact go (by simp [workerStep, hw]) (inv_release hi hw)
      (by simp [← hk, hw, WorkerPc.rank, WorkerPc.inflight]) rfl rfl
  | working c =>
    exact go (by simp [workerStep, hw]) (inv_work hi hw)
      (by simp [← hk, hw, WorkerPc.rank, WorkerPc.inflight]; omega) rfl rfl

/-- The queue delivers correctly in a state: at most one thread in the critical section; no `exit(1)`; the ring
holds the unread chunks from the read index on, and the write index is the place of none of
them; `WorkOnSingleChunk` has received the chunks handed in, in order, each once, up to
those not yet taken; and with no call in progress the run can go on to deliver the rest. -/
structure Delivery (m : BufferLen) (s : State) : Prop where
  exclusive : holders s ≤ 1
  running : s.exited = false
  unread : ringFrom m.ownedChunksLen s.slots s.readIdx s.queue.length = s.queue.map some
  not_overwritten : ∀ j < s.queue.length,
    (wrapIncr m.ownedChunksLen)^[j] s.readIdx ≠ s.writeIdx
  ordered : s.delivered <+: s.handedIn.map some
  drains : Quiet s →
    ∃ t, Relation.ReflTransGen (Step m true) s t ∧ t.delivered = s.handedIn.map some

/-- **The queue delivers in order, exactly once, when calls start after `ThreadEntry`.** For
every ring length, in every state an interleaving of any number of `HandChunkIn` calls with
the worker reaches, when no call starts before `ThreadEntry` has run and fewer than `len - 1`
chunks are outstanding at each start, it delivers correctly. -/
theorem reachable_delivers_in_order {m : BufferLen} {s : State} (h : Reachable m true s) :
    Delivery m s := by
  have hi := reachable_inv h
  refine ⟨?_, hi.running, hi.ring, fun j hj => hi.not_unread hj,
    ⟨s.worker.inflight ++ s.queue.map some, by rw [hi.order, List.append_assoc]⟩,
    fun hq => hi.drain _ hq rfl⟩
  have := hi.mutex
  cases hl : s.locked <;> simp only [hl, Bool.toNat_false, Bool.toNat_true] at this <;> omega

/-- One chunk handed in after `ThreadEntry`, not yet taken. -/
def oneChunk : State :=
  ⟨[.done], .locking, false, (List.replicate maxCircularBufferSize none).set 0 (some 7), 0, 1,
    false, [7], [7], []⟩

theorem reachable_delivers_in_order_oneChunk : Delivery wrapperLen oneChunk :=
  reachable_delivers_in_order (run_reach (l := [.worker, .start 7, .call 0, .call 0, .call 0,
    .call 0, .call 0]) (by decide))

end ChunkQueue

end Cobra
