import Mathlib.Algebra.Order.Floor
import Mathlib.Data.List.Basic

/-!
# Checked Buffers

The C++ sources index `std::vector`s and lookup tables with the unchecked `operator[]`. The
model reads and writes through `readAt` and `writeAt`, which fail with a `Fault` naming the
buffer, the index and the buffer's length whenever the index is out of range: an
out-of-bounds access of the code is an `Except.error` of the model, and the first such access
of a run is the error the run returns.

The machine conversions that the code applies while computing an index are explicit: `u32`
is the wrap-around of `uint32_t` arithmetic and `sizeT` the conversion of an `int` to the
`size_t` parameter of `operator[]`, which sends a negative index far past the end of every
buffer. `makeVector` and `makeVector2` are the `MAKE_VECTOR` and `MAKE_VECTOR2` macros of
`RtdVec.h`, and `forLoop` is a counted `for` loop whose body may fault.

## Main results

* `forLoop_ok`: a loop whose body keeps an invariant and never faults under it runs to the
  end and keeps the invariant.
* `forLoop_error_at`: a loop returns the fault of its first faulting iteration.
-/

namespace Cobra

/-- The buffers and tables whose indexing the model checks, named after the source. -/
inductive Buf where
  | idxToFrqLut | idxToGcfLut
  | hdrRois | roiInput
  | roiVector | rotatedRoi
  | fRawFrames | fovSnrV2 | activeRows | roiIndexFrames
  | window | snrWeights
  | range | roiIndexFov | timestampsVec | timestamp
  | cpiReturnPool | cpiReturns
  | fKernels | kernel | roiSummed | roiSmoothedTemp | roiSmoothed
  | roi | roiT | transposedRoi | vSmoothedTransposedRoi | vSmoothedRoi | smoothedRoi
  | laserThermMetadataValues | vldaMetadataValues | laserThermValuesSorted | vldaValuesSorted
  | frame | binnedFrame | minMaxMask | minMaxMaskReversed
  | inFrame | outFrame | points | pointOffsets | franges | ffilteredRanges
  | lutWindowSize | flutRangeToleranceFrac | lutNeighborCountTolerance
  | fRanges | fMinMaxMask | fSnr | fSignals | fBackground | ranges | signal | background | snrs
  | roiIndices | roiIndicesFov
  | calibrationTheta | calibrationPhi | mappingTableEntry
  deriving DecidableEq, Repr

/-- An out-of-bounds access: the code indexes `buf` at `idx` while its length is `size`. For
`cpiReturnPool` it is a take from the empty pool, where the code calls `exit(1)`. -/
structure Fault where
  buf : Buf
  idx : Nat
  size : Nat
  deriving DecidableEq, Repr

variable {α σ : Type}

/-! ### The `Except` monad -/

@[simp] theorem pure_eq_ok (a : α) : (pure a : Except Fault α) = .ok a := rfl

@[simp] theorem ok_bind {β : Type} (a : α) (f : α → Except Fault β) :
    ((.ok a : Except Fault α) >>= f) = f a := rfl

@[simp] theorem bind_ok (x : Except Fault α) : (x >>= fun a => .ok a) = x := by
  cases x <;> rfl

@[simp] theorem error_bind {β : Type} (e : Fault) (f : α → Except Fault β) :
    ((.error e : Except Fault α) >>= f) = .error e := rfl

/-- A computation followed by another succeeds exactly when both steps do. -/
theorem bind_eq_ok {β : Type} {x : Except Fault α} {f : α → Except Fault β} {b : β} :
    x >>= f = .ok b ↔ ∃ a, x = .ok a ∧ f a = .ok b := by
  cases x <;> simp [bind, Except.bind]

/-- A computation followed by another faults exactly when the first does or the second does
after the first succeeds. -/
theorem bind_eq_error {β : Type} {x : Except Fault α} {f : α → Except Fault β} {e : Fault} :
    x >>= f = .error e ↔ x = .error e ∨ ∃ a, x = .ok a ∧ f a = .error e := by
  cases x <;> simp [bind, Except.bind]

/-! ### Reads and writes -/

/-- `xs[i]` as the code reads it: the element, or the fault of an index past the end. -/
def readAt (b : Buf) (xs : List α) (i : Nat) : Except Fault α :=
  if h : i < xs.length then .ok xs[i] else .error ⟨b, i, xs.length⟩

/-- `xs[i] = x` as the code writes it. -/
def writeAt (b : Buf) (xs : List α) (i : Nat) (x : α) : Except Fault (List α) :=
  if i < xs.length then .ok (xs.set i x) else .error ⟨b, i, xs.length⟩

theorem readAt_of_lt {b : Buf} {xs : List α} {i : Nat} (h : i < xs.length) :
    readAt b xs i = .ok xs[i] := by
  simp [readAt, h]

theorem readAt_eq_getD {b : Buf} {xs : List α} {i : Nat} (d : α) (h : i < xs.length) :
    readAt b xs i = .ok (xs.getD i d) := by
  rw [readAt_of_lt h, List.getD_eq_getElem?_getD, List.getElem?_eq_getElem h]
  rfl

theorem readAt_of_le {b : Buf} {xs : List α} {i : Nat} (h : xs.length ≤ i) :
    readAt b xs i = .error ⟨b, i, xs.length⟩ := by
  simp [readAt, Nat.not_lt.2 h]

theorem writeAt_of_lt {b : Buf} {xs : List α} {i : Nat} {x : α} (h : i < xs.length) :
    writeAt b xs i x = .ok (xs.set i x) := by
  simp [writeAt, h]

theorem writeAt_of_le {b : Buf} {xs : List α} {i : Nat} {x : α} (h : xs.length ≤ i) :
    writeAt b xs i x = .error ⟨b, i, xs.length⟩ := by
  simp [writeAt, Nat.not_lt.2 h]

/-- A read that succeeds is inside the buffer. -/
theorem readAt_ok_lt {b : Buf} {xs : List α} {i : Nat} {x : α} (h : readAt b xs i = .ok x) :
    i < xs.length := by
  unfold readAt at h
  split at h
  · assumption
  · cases h

/-- A failed read names the buffer it was made on. -/
theorem readAt_error {b : Buf} {xs : List α} {i : Nat} {f : Fault}
    (h : readAt b xs i = .error f) : f = ⟨b, i, xs.length⟩ ∧ xs.length ≤ i := by
  unfold readAt at h
  split at h
  · cases h
  · cases h; exact ⟨rfl, by omega⟩

/-- A failed write names the buffer it was made on. -/
theorem writeAt_error {b : Buf} {xs : List α} {i : Nat} {x : α} {f : Fault}
    (h : writeAt b xs i x = .error f) : f = ⟨b, i, xs.length⟩ ∧ xs.length ≤ i := by
  unfold writeAt at h
  split at h
  · cases h
  · cases h; exact ⟨rfl, by omega⟩

/-- A write that succeeds keeps the buffer's length. -/
theorem writeAt_length {b : Buf} {xs ys : List α} {i : Nat} {x : α}
    (h : writeAt b xs i x = .ok ys) : ys.length = xs.length := by
  unfold writeAt at h
  split at h
  · cases h; exact List.length_set _ _ _
  · cases h

/-- The `std::vector::resize` of a list: keep the first `n` elements and append
value-initialised ones up to length `n`. -/
def resize (xs : List α) (n : Nat) (d : α) : List α :=
  xs.take n ++ List.replicate (n - xs.length) d

@[simp] theorem length_resize (xs : List α) (n : Nat) (d : α) :
    (resize xs n d).length = n := by
  simp only [resize, List.length_append, List.length_take, List.length_replicate]
  omega

/-- `MAKE_VECTOR(a, t, n)`: resize `a` to `n` elements when its length differs; the flag is
the macro's assignment to `changed`. -/
def makeVector (xs : List α) (n : Nat) (d : α) : List α × Bool :=
  if xs.length = n then (xs, false) else (resize xs n d, true)

@[simp] theorem length_makeVector (xs : List α) (n : Nat) (d : α) :
    (makeVector xs n d).1.length = n := by
  unfold makeVector; split <;> simp_all

/-- `MAKE_VECTOR` leaves a vector of the requested length untouched. -/
theorem makeVector_of_length {xs : List α} {n : Nat} (d : α) (h : xs.length = n) :
    makeVector xs n d = (xs, false) := by
  simp [makeVector, h]

/-- `MAKE_VECTOR2` on a vector of two vectors that is already allocated: resize both to `n`
when either has another length. -/
def resize2 (a : Fin 2 → List α) (n : Nat) (d : α) : (Fin 2 → List α) × Bool :=
  if (a 0).length ≠ n ∨ (a 1).length ≠ n then (fun i => resize (a i) n d, true) else (a, false)

/-- `MAKE_VECTOR2(a, t, n)` on a `std::vector<std::vector<t>>` that is empty (`none`) or holds
two vectors: allocate both, or resize both when either length differs. -/
def makeVector2 (a : Option (Fin 2 → List α)) (n : Nat) (d : α) : (Fin 2 → List α) × Bool :=
  match a with
  | none => (fun _ => List.replicate n d, true)
  | some a => resize2 a n d

@[simp] theorem length_resize2 (a : Fin 2 → List α) (n : Nat) (d : α) (i : Fin 2) :
    ((resize2 a n d).1 i).length = n := by
  unfold resize2
  split
  · simp
  · rename_i h
    simp only [not_or, not_not] at h
    revert i
    exact Fin.forall_fin_two.2 h

@[simp] theorem length_makeVector2 (a : Option (Fin 2 → List α)) (n : Nat) (d : α) (i : Fin 2) :
    ((makeVector2 a n d).1 i).length = n := by
  cases a <;> simp [makeVector2]

/-- `MAKE_VECTOR2` leaves a pair of vectors of the requested length untouched. -/
theorem resize2_of_length {a : Fin 2 → List α} {n : Nat} (d : α) (h : ∀ i, (a i).length = n) :
    resize2 a n d = (a, false) := by
  simp [resize2, h]

/-! ### Loops -/

/-- `for (idx = 0; idx < n; idx++) body`, where each iteration may fault. -/
def forLoop (n : Nat) (body : Nat → σ → Except Fault σ) (s : σ) : Except Fault σ :=
  (List.range n).foldlM (fun s i => body i s) s

@[simp] theorem forLoop_zero (body : Nat → σ → Except Fault σ) (s : σ) :
    forLoop 0 body s = .ok s := rfl

theorem forLoop_succ (n : Nat) (body : Nat → σ → Except Fault σ) (s : σ) :
    forLoop (n + 1) body s = forLoop n body s >>= body n := by
  simp [forLoop, List.range_succ, List.foldlM_append, -pure_eq_ok]

/-- **Loop invariant.** If every iteration `i` below `n` takes a state satisfying `P i` to one
satisfying `P (i + 1)` without fault, the loop runs to the end and `P n` holds after it. -/
theorem forLoop_ok {n : Nat} {body : Nat → σ → Except Fault σ} (P : Nat → σ → Prop)
    (hstep : ∀ i < n, ∀ s, P i s → ∃ s', body i s = .ok s' ∧ P (i + 1) s') (s : σ)
    (hs : P 0 s) : ∃ s', forLoop n body s = .ok s' ∧ P n s' := by
  induction n with
  | zero => exact ⟨s, rfl, hs⟩
  | succ n ih =>
    obtain ⟨t, ht, hPt⟩ := ih fun i hi => hstep i (by omega)
    obtain ⟨t', ht', hPt'⟩ := hstep n (by omega) t hPt
    exact ⟨t', by rw [forLoop_succ, ht, ok_bind, ht'], hPt'⟩

/-- **The first faulting iteration.** If iterations below `k` keep an invariant without
fault and iteration `k` faults from every state satisfying it, a loop of more than `k`
iterations returns that fault. -/
theorem forLoop_error_at {n k : Nat} {body : Nat → σ → Except Fault σ} {f : Fault}
    (P : Nat → σ → Prop) (hk : k < n)
    (hstep : ∀ i < k, ∀ s, P i s → ∃ s', body i s = .ok s' ∧ P (i + 1) s')
    (hfail : ∀ s, P k s → body k s = .error f) (s : σ) (hs : P 0 s) :
    forLoop n body s = .error f := by
  induction n with
  | zero => omega
  | succ n ih =>
    rw [forLoop_succ]
    rcases Nat.lt_or_eq_of_le (Nat.le_of_lt_succ hk) with hk' | rfl
    · rw [ih hk', error_bind]
    · obtain ⟨t, ht, hPt⟩ := forLoop_ok P hstep s hs
      rw [ht, ok_bind, hfail t hPt]

/-- **Invariant of a successful loop.** A property every successful iteration keeps holds
after a loop that succeeds. -/
theorem forLoop_inv {n : Nat} {body : Nat → σ → Except Fault σ} (P : σ → Prop)
    (hstep : ∀ i < n, ∀ s s', P s → body i s = .ok s' → P s') {s s' : σ} (hs : P s)
    (h : forLoop n body s = .ok s') : P s' := by
  induction n generalizing s' with
  | zero => cases h; exact hs
  | succ n ih =>
    rw [forLoop_succ, bind_eq_ok] at h
    obtain ⟨t, ht, h'⟩ := h
    exact hstep n (Nat.lt_succ_self n) t s' (ih (fun i hi => hstep i (by omega)) ht) h'

/-- Every iteration of a loop that succeeds succeeds from the state it runs in. -/
theorem forLoop_body_ok {n k : Nat} {body : Nat → σ → Except Fault σ} {s t : σ} (hk : k < n)
    (h : forLoop n body s = .ok t) : ∃ u u', body k u = .ok u' := by
  induction n generalizing t with
  | zero => omega
  | succ n ih =>
    rw [forLoop_succ, bind_eq_ok] at h
    obtain ⟨u, hu, h'⟩ := h
    rcases Nat.lt_succ_iff_lt_or_eq.1 hk with hk | rfl
    exacts [ih hk hu, ⟨u, t, h'⟩]

/-- **Faults of a loop.** If every iteration keeps `P` when it succeeds and faults only with
faults of `Q` from a state of `P`, a loop started in `P` faults only with a fault of `Q`. -/
theorem forLoop_error_inv {n : Nat} {body : Nat → σ → Except Fault σ} (P : σ → Prop)
    (Q : Fault → Prop) (hok : ∀ i < n, ∀ s s', P s → body i s = .ok s' → P s')
    (herr : ∀ i < n, ∀ s e, P s → body i s = .error e → Q e) {s : σ} {e : Fault} (hs : P s)
    (h : forLoop n body s = .error e) : Q e := by
  induction n with
  | zero => cases h
  | succ n ih =>
    rw [forLoop_succ, bind_eq_error] at h
    rcases h with h | ⟨t, ht, h⟩
    · exact ih (fun i hi => hok i (by omega)) (fun i hi => herr i (by omega)) h
    · exact herr n (by omega) t e (forLoop_inv P (fun i hi => hok i (by omega)) hs ht) h

/-- **A loop that cannot finish.** If iteration `k` faults from every state, the loop faults, and
with a fault of `Q` when every iteration faults only with faults of `Q` from a state of `P`. -/
theorem forLoop_error_of_body {n k : Nat} {body : Nat → σ → Except Fault σ} (P : σ → Prop)
    (Q : Fault → Prop) (hok : ∀ i < n, ∀ s s', P s → body i s = .ok s' → P s')
    (herr : ∀ i < n, ∀ s e, P s → body i s = .error e → Q e) (hk : k < n)
    (hfail : ∀ u, ∃ e, body k u = .error e) {s : σ} (hs : P s) :
    ∃ e, forLoop n body s = .error e ∧ Q e := by
  cases h : forLoop n body s with
  | error e => exact ⟨e, rfl, forLoop_error_inv P Q hok herr hs h⟩
  | ok t =>
    obtain ⟨u, u', hu⟩ := forLoop_body_ok hk h
    obtain ⟨e, he⟩ := hfail u
    rw [he] at hu
    cases hu

/-- A loop whose first iteration faults returns that fault. -/
theorem forLoop_error_of_first {n : Nat} {body : Nat → σ → Except Fault σ} {s : σ} {f : Fault}
    (hn : 0 < n) (h : body 0 s = .error f) : forLoop n body s = .error f :=
  forLoop_error_at (fun _ t => t = s) hn (fun _ hi => absurd hi (Nat.not_lt_zero _))
    (fun _ ht => ht ▸ h) s rfl

theorem set_map_range (g : Nat → α) (n k : Nat) (x : α) :
    ((List.range n).map g).set k x = (List.range n).map (Function.update g k x) := by
  refine List.ext_getElem (by simp) fun j h1 h2 => ?_
  simp only [List.getElem_set, List.getElem_map, List.getElem_range, Function.update_apply]
  split_ifs <;> first | rfl | omega

/-! ### Machine integers -/

/-- The value of an `int` index converted to `uint32_t` (arithmetic modulo `2 ^ 32`). -/
def u32 (v : Int) : Nat := (v % 2 ^ 32).toNat

/-- The value of an `int` index converted to `size_t` (modulo `2 ^ 64`). -/
def sizeT (v : Int) : Nat := (v % 2 ^ 64).toNat

theorem u32_of_lt {v : Int} (h0 : 0 ≤ v) (h : v < 2 ^ 32) : u32 v = v.toNat := by
  unfold u32; omega

theorem u32_natCast {n : Nat} (h : n < 2 ^ 32) : u32 (n : Int) = n := by
  unfold u32; omega

theorem u32_natCast_le (n : Nat) : u32 (n : Int) ≤ n := by
  unfold u32; omega

/-- The value of an `int` converted to `uint16_t` (modulo `2 ^ 16`). -/
def u16 (v : Int) : Nat := (v % 2 ^ 16).toNat

theorem u16_lt (v : Int) : u16 v < 2 ^ 16 := by
  unfold u16; omega

theorem u16_natCast {n : Nat} (h : n < 2 ^ 16) : u16 (n : Int) = n := by
  unfold u16; omega

/-- `int(v)` of a `uint32_t` value `v`, in two's complement. -/
def int32OfU32 (v : Nat) : Int := if v < 2 ^ 31 then v else (v : Int) - 2 ^ 32

/-- Reinterpreting an `int32_t` as `uint32_t` and back gives it back. -/
theorem int32OfU32_u32 {v : Int} (h0 : -2 ^ 31 ≤ v) (h : v < 2 ^ 31) : int32OfU32 (u32 v) = v := by
  unfold int32OfU32 u32
  split_ifs <;> omega

theorem sizeT_of_lt {v : Int} (h0 : 0 ≤ v) (h : v < 2 ^ 64) : sizeT v = v.toNat := by
  unfold sizeT; omega

/-- A small negative `int` index lands past `2 ^ 63` once converted to `size_t`. -/
theorem sizeT_of_neg {v : Int} (h0 : v < 0) (h : -2 ^ 63 ≤ v) : 2 ^ 63 ≤ sizeT v := by
  unfold sizeT; omega

end Cobra
