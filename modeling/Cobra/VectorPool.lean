import Mathlib.Data.List.Perm.Basic
import Mathlib.Data.List.Nodup
import Mathlib.Logic.Relation
import Mathlib.Tactic.Common

/-!
# The Float-Vector Pool

`FloatVectorPool` keeps every `std::vector<float_t>` it has made in `_vectors`, with the
parallel flags `_inUse`. `get(n)` hands out the first vector of size `n` that is not in use
and sets its flag, or appends a new vector of size `n` in use; `release(v)` clears the flag
of the first vector at `v`'s address, and logs an error when there is none; `clear()` keeps
only the vectors in use. Each runs under the pool's lock, so the model takes them one at a
time.

A vector is its address (`shared_ptr::get`) and its size. The new vector of `get` has an
address no live vector has. The `ScopedVector`s alive are the ghost list `held` of the
addresses they hold: `get` adds one, and `release` is called only on one of them, which it
removes.

## Main results

* `reachable_handles_exclusive`: in every state `_vectors` and `_inUse` have equal length,
  `numBusy` is the number of outstanding handles, and no two of them are the same vector;
  `get(n)` returns a vector of size `n` that no outstanding handle holds; and `release` of an
  outstanding handle finds its vector, also after a `clear`, and leaves a vector of its size
  free for a later `get`.
-/

namespace Cobra

namespace FloatVectorPool

/-- A `std::vector<float_t>` of the pool: its address and its size. -/
structure Vec where
  addr : Nat
  size : Nat
  deriving DecidableEq, Repr

/-- The members `_vectors` and `_inUse` of the pool instance. -/
structure Pool where
  vectors : List Vec
  inUse : List Bool
  deriving DecidableEq, Repr

/-- `find`: the index of the first vector of the size asked for that is not in use. -/
def find (size : Nat) : List Vec → List Bool → Option Nat
  | v :: vs, b :: bs =>
    if v.size = size ∧ b = false then some 0 else (find size vs bs).map (· + 1)
  | _, _ => none

/-- `get`: the address of the vector `find` picks, now in use, or of a new vector of the size,
appended in use, whose address `make_shared` gives as `addr`. -/
def get (size addr : Nat) (p : Pool) : Nat × Pool :=
  match find size p.vectors p.inUse with
  | some idx => ((p.vectors.getD idx ⟨addr, size⟩).addr, { p with inUse := p.inUse.set idx true })
  | none => (addr, ⟨p.vectors ++ [⟨addr, size⟩], p.inUse ++ [true]⟩)

/-- The loop of `release`: the index of the first vector at an address. -/
def indexOf (addr : Nat) : List Vec → Option Nat
  | [] => none
  | v :: vs => if v.addr = addr then some 0 else (indexOf addr vs).map (· + 1)

/-- `release`: clear the flag of the vector at the handle's address. The flag is `false` when
the loop finds none, where the code logs `Could not find vector` and changes nothing. -/
def release (addr : Nat) (p : Pool) : Bool × Pool :=
  match indexOf addr p.vectors with
  | some idx => (true, { p with inUse := p.inUse.set idx false })
  | none => (false, p)

/-- The loop of `clear` over `_inUse`: the vectors in use, with their flags. -/
def keepInUse : List Vec → List Bool → List Vec × List Bool
  | v :: vs, b :: bs =>
    if b then (v :: (keepInUse vs bs).1, b :: (keepInUse vs bs).2) else keepInUse vs bs
  | _, _ => ([], [])

/-- `clear`: only the vectors in use stay. -/
def clear (p : Pool) : Pool := ⟨(keepInUse p.vectors p.inUse).1, (keepInUse p.vectors p.inUse).2⟩

/-- `numBusy`: the flags that are set. -/
def numBusy (p : Pool) : Nat := p.inUse.count true

/-- The size of the vector at an address, the first as `release` finds it. -/
def Pool.sizeAt (p : Pool) (addr : Nat) : Option Nat :=
  (indexOf addr p.vectors).bind fun i => p.vectors[i]?.map Vec.size

/-! ### Runs of the pool -/

/-- The pool and the addresses of the outstanding handles. -/
structure State where
  pool : Pool
  held : List Nat
  deriving DecidableEq, Repr

/-- The pool `getInst` makes on first use. -/
def init : State := ⟨⟨[], []⟩, []⟩

/-- A call on the pool. -/
inductive Op where
  | get (size addr : Nat)
  | release (addr : Nat)
  | clear
  deriving DecidableEq, Repr

/-- One call under the pool's lock. -/
def apply (s : State) : Op → State
  | .get size addr => ⟨(get size addr s.pool).2, s.held ++ [(get size addr s.pool).1]⟩
  | .release addr => ⟨(release addr s.pool).2, s.held.erase addr⟩
  | .clear => ⟨clear s.pool, s.held⟩

/-- The callers' side: `make_shared` gives an address no live vector has, and `release` is
called by the `ScopedVector` of an outstanding handle. -/
def allowed (s : State) : Op → Bool
  | .get _ addr => decide (addr ∉ s.pool.vectors.map Vec.addr ∧ addr ∉ s.held)
  | .release addr => decide (addr ∈ s.held)
  | .clear => true

inductive Step : State → State → Prop where
  | mk {s : State} (o : Op) (h : allowed s o = true) : Step s (apply s o)

/-- The states some sequence of calls reaches. -/
def Reachable (s : State) : Prop := Relation.ReflTransGen Step init s

/-- A sequence of calls, run in order. -/
def run : State → List Op → Option State
  | s, [] => some s
  | s, o :: os => if allowed s o then run (apply s o) os else none

theorem run_reach {s t : State} {l : List Op} (h : run s l = some t) :
    Relation.ReflTransGen Step s t := by
  induction l generalizing s with
  | nil => cases h; exact .refl
  | cons o l ih =>
    by_cases ho : allowed s o = true
    · simp only [run, ho, if_true] at h
      exact .head (.mk o ho) (ih h)
    · simp [run, ho] at h

/-! ### The loops -/

theorem find_spec {size i : Nat} :
    ∀ {vs : List Vec} {bs : List Bool}, find size vs bs = some i →
      ∃ v, vs[i]? = some v ∧ v.size = size ∧ bs[i]? = some false
  | [], _, h | _ :: _, [], h => by simp [find] at h
  | v :: vs, b :: bs, h => by
    simp only [find] at h
    split_ifs at h with hv
    · cases h
      exact ⟨v, by simp, hv.1, by simp [hv.2]⟩
    · obtain ⟨j, hj, rfl⟩ := Option.map_eq_some'.1 h
      simpa using find_spec hj

theorem find_ne_none {v : Vec} :
    ∀ {i : Nat} {vs : List Vec} {bs : List Bool}, vs[i]? = some v → bs[i]? = some false →
      find v.size vs bs ≠ none
  | _, [], _, hv, _ | _, _ :: _, [], _, hb => by simp_all
  | 0, w :: vs, b :: bs, hv, hb => by
    simp only [List.getElem?_cons_zero, Option.some.injEq] at hv hb
    subst hv hb
    simp [find]
  | i + 1, w :: vs, b :: bs, hv, hb => by
    simp only [List.getElem?_cons_succ] at hv hb
    simp only [find]
    split_ifs <;> simp [find_ne_none hv hb]

theorem indexOf_spec {addr i : Nat} :
    ∀ {vs : List Vec}, indexOf addr vs = some i → ∃ v, vs[i]? = some v ∧ v.addr = addr
  | [], h => by simp [indexOf] at h
  | v :: vs, h => by
    simp only [indexOf] at h
    split_ifs at h with hv
    · cases h
      exact ⟨v, by simp, hv⟩
    · obtain ⟨j, hj, rfl⟩ := Option.map_eq_some'.1 h
      simpa using indexOf_spec hj

theorem indexOf_isSome {addr : Nat} :
    ∀ {vs : List Vec}, addr ∈ vs.map Vec.addr → ∃ i, indexOf addr vs = some i
  | [], h => by simp at h
  | v :: vs, h => by
    simp only [indexOf]
    split_ifs with hv
    · exact ⟨0, rfl⟩
    · have hm : addr ∈ vs.map Vec.addr := by
        simp only [List.map_cons, List.mem_cons] at h
        exact h.resolve_left (Ne.symm hv)
      obtain ⟨i, hi⟩ := indexOf_isSome hm
      exact ⟨i + 1, by simp [hi]⟩

/-- With distinct addresses, `release` finds a vector where it is. -/
theorem indexOf_getElem? {v : Vec} :
    ∀ {i : Nat} {vs : List Vec}, (vs.map Vec.addr).Nodup → vs[i]? = some v →
      indexOf v.addr vs = some i
  | _, [], _, hv => by simp at hv
  | 0, w :: vs, _, hv => by
    simp only [List.getElem?_cons_zero, Option.some.injEq] at hv
    subst hv
    simp [indexOf]
  | i + 1, w :: vs, hd, hv => by
    simp only [List.getElem?_cons_succ] at hv
    simp only [List.map_cons, List.nodup_cons] at hd
    have hne : w.addr ≠ v.addr := fun h =>
      hd.1 (h ▸ List.mem_map_of_mem Vec.addr (List.mem_iff_getElem?.2 ⟨_, hv⟩))
    simp [indexOf, hne, indexOf_getElem? hd.2 hv]

theorem Pool.sizeAt_of_getElem? {p : Pool} {i : Nat} {v : Vec}
    (hd : (p.vectors.map Vec.addr).Nodup) (hv : p.vectors[i]? = some v) :
    p.sizeAt v.addr = some v.size := by
  simp [Pool.sizeAt, indexOf_getElem? hd hv, hv]

theorem set_of_getElem? {α : Type} {l : List α} {i : Nat} {a : α} (h : l[i]? = some a) :
    l.set i a = l :=
  List.ext_getElem? fun j => by
    by_cases hij : i = j
    · subst hij
      rw [List.getElem?_set_self (List.getElem?_eq_some.1 h).1, h]
    · rw [List.getElem?_set_ne hij]

/-- The addresses of the vectors in use, in pool order. -/
def busyAddrs : List Vec → List Bool → List Nat
  | v :: vs, b :: bs => if b then v.addr :: busyAddrs vs bs else busyAddrs vs bs
  | _, _ => []

theorem busyAddrs_sublist :
    ∀ (vs : List Vec) (bs : List Bool), (busyAddrs vs bs).Sublist (vs.map Vec.addr)
  | [], _ | _ :: _, [] => by simp [busyAddrs]
  | v :: vs, b :: bs => by
    cases b
    · exact (busyAddrs_sublist vs bs).cons _
    · exact (busyAddrs_sublist vs bs).cons₂ _

theorem length_busyAddrs :
    ∀ {vs : List Vec} {bs : List Bool}, vs.length = bs.length →
      (busyAddrs vs bs).length = bs.count true
  | [], [], _ => rfl
  | v :: vs, b :: bs, h => by
    cases b <;> simp [busyAddrs, length_busyAddrs (Nat.succ.inj h)]

/-- Setting one flag adds that vector's address to those in use. -/
theorem busyAddrs_set {v : Vec} :
    ∀ {i : Nat} {vs : List Vec} {bs : List Bool}, vs[i]? = some v → i < bs.length →
      (busyAddrs vs (bs.set i true)).Perm (v.addr :: busyAddrs vs (bs.set i false))
  | _, [], _, hv, _ | _, _ :: _, [], _, hb => by simp_all
  | 0, w :: vs, b :: bs, hv, _ => by
    simp only [List.getElem?_cons_zero, Option.some.injEq] at hv
    subst hv
    simp [busyAddrs]
  | i + 1, w :: vs, b :: bs, hv, hb => by
    simp only [List.getElem?_cons_succ] at hv
    have ih := busyAddrs_set hv (Nat.lt_of_succ_lt_succ hb)
    cases b
    · simpa [busyAddrs] using ih
    · simpa [busyAddrs] using (ih.cons w.addr).trans (.swap _ _ _)

theorem busyAddrs_append :
    ∀ {vs : List Vec} {bs : List Bool} (v : Vec), vs.length = bs.length →
      busyAddrs (vs ++ [v]) (bs ++ [true]) = busyAddrs vs bs ++ [v.addr]
  | [], [], _, _ => rfl
  | w :: vs, b :: bs, v, h => by
    cases b <;> simp [busyAddrs, busyAddrs_append v (Nat.succ.inj h)]

theorem keepInUse_length :
    ∀ (vs : List Vec) (bs : List Bool), (keepInUse vs bs).1.length = (keepInUse vs bs).2.length
  | [], _ | _ :: _, [] => rfl
  | v :: vs, b :: bs => by cases b <;> simp [keepInUse, keepInUse_length vs bs]

theorem keepInUse_sublist :
    ∀ (vs : List Vec) (bs : List Bool),
      ((keepInUse vs bs).1.map Vec.addr).Sublist (vs.map Vec.addr)
  | [], _ | _ :: _, [] => by simp [keepInUse]
  | v :: vs, b :: bs => by
    cases b
    · exact (keepInUse_sublist vs bs).cons _
    · exact (keepInUse_sublist vs bs).cons₂ _

/-- `clear` keeps every vector in use. -/
theorem busyAddrs_keepInUse :
    ∀ (vs : List Vec) (bs : List Bool),
      busyAddrs (keepInUse vs bs).1 (keepInUse vs bs).2 = busyAddrs vs bs
  | [], _ | _ :: _, [] => by simp [keepInUse, busyAddrs]
  | v :: vs, b :: bs => by cases b <;> simp [keepInUse, busyAddrs, busyAddrs_keepInUse vs bs]

/-! ### The invariant -/

/-- What every reached state satisfies: the members are parallel, the pool's vectors have
distinct addresses, and the outstanding handles are, in some order, the vectors in use. -/
structure Inv (s : State) : Prop where
  parallel : s.pool.vectors.length = s.pool.inUse.length
  distinct : (s.pool.vectors.map Vec.addr).Nodup
  held : s.held.Perm (busyAddrs s.pool.vectors s.pool.inUse)

theorem inv_init : Inv init := ⟨rfl, List.nodup_nil, .nil⟩

section Calls

variable {s : State} (hi : Inv s)
include hi

theorem Inv.busy_nodup : (busyAddrs s.pool.vectors s.pool.inUse).Nodup :=
  hi.distinct.sublist (busyAddrs_sublist _ _)

/-- A vector `find` picks is not held: its flag is down, and no other vector has its
address. -/
theorem Inv.not_held_of_find {size i : Nat} (h : find size s.pool.vectors s.pool.inUse = some i) :
    ∃ v, s.pool.vectors[i]? = some v ∧ v.size = size ∧ s.pool.inUse[i]? = some false ∧
      v.addr ∉ s.held := by
  obtain ⟨v, hv, hs, hb⟩ := find_spec h
  have hp := busyAddrs_set hv (List.getElem?_eq_some.1 hb).1
  rw [set_of_getElem? hb] at hp
  refine ⟨v, hv, hs, hb, fun hh => ?_⟩
  have := (hp.nodup_iff.1 (hi.distinct.sublist (busyAddrs_sublist _ _)))
  exact (List.nodup_cons.1 this).1 (hi.held.subset hh)

theorem inv_get {size addr : Nat} (ha : addr ∉ s.pool.vectors.map Vec.addr) :
    Inv (apply s (.get size addr)) := by
  cases hf : find size s.pool.vectors s.pool.inUse with
  | some i =>
    obtain ⟨v, hv, -, hb, -⟩ := hi.not_held_of_find hf
    have hp := busyAddrs_set hv (List.getElem?_eq_some.1 hb).1
    rw [set_of_getElem? hb] at hp
    refine ⟨by simp [apply, get, hf, hi.parallel], by simpa [apply, get, hf] using hi.distinct, ?_⟩
    simp only [apply, get, hf, List.getD_eq_getElem?_getD, hv, Option.getD_some]
    exact (List.perm_append_singleton _ _).trans ((hi.held.cons _).trans hp.symm)
  | none =>
    refine ⟨by simp [apply, get, hf, hi.parallel], ?_, ?_⟩
    · simp only [apply, get, hf, List.map_append, List.map_singleton]
      exact List.nodup_append.2 ⟨hi.distinct, List.nodup_singleton _, List.disjoint_singleton.2 ha⟩
    · simp only [apply, get, hf, busyAddrs_append _ hi.parallel]
      exact hi.held.append_right _

theorem inv_release {addr : Nat} (ha : addr ∈ s.held) : Inv (apply s (.release addr)) := by
  obtain ⟨i, hidx⟩ := indexOf_isSome ((busyAddrs_sublist _ _).subset (hi.held.subset ha))
  obtain ⟨v, hv, rfl⟩ := indexOf_spec hidx
  have hlt : i < s.pool.inUse.length := hi.parallel ▸ (List.getElem?_eq_some.1 hv).1
  have hp := busyAddrs_set hv hlt
  obtain ⟨b, hb⟩ : ∃ b, s.pool.inUse[i]? = some b := ⟨_, List.getElem?_eq_getElem hlt⟩
  cases b
  · rw [set_of_getElem? hb] at hp
    exact absurd (hi.held.subset ha) (List.nodup_cons.1 (hp.nodup_iff.1 (hi.distinct.sublist
      (busyAddrs_sublist _ _)))).1
  · rw [set_of_getElem? hb] at hp
    refine ⟨by simp [apply, release, hidx, hi.parallel], by simpa [apply, release, hidx] using
      hi.distinct, ?_⟩
    simp only [apply, release, hidx]
    simpa using (hi.held.trans hp).erase v.addr

theorem inv_clear : Inv (apply s .clear) :=
  ⟨keepInUse_length _ _, hi.distinct.sublist (keepInUse_sublist _ _),
    by simpa [apply, clear, busyAddrs_keepInUse] using hi.held⟩

theorem step_inv {t : State} (h : Step s t) : Inv t := by
  obtain ⟨o, ho⟩ := h
  cases o with
  | get size addr =>
    simp only [allowed, decide_eq_true_eq] at ho
    exact inv_get hi ho.1
  | release addr => exact inv_release hi (by simpa [allowed] using ho)
  | clear => exact inv_clear hi

end Calls

theorem reachable_inv {s : State} (h : Reachable s) : Inv s := by
  induction h with
  | refl => exact inv_init
  | tail _ hst ih => exact step_inv ih hst

/-- The handles are exclusive in a state: the members have equal length; `numBusy` counts the outstanding
handles, which are distinct; `get` of any size returns a vector of that size that no
outstanding handle holds; and `release` of an outstanding handle finds its vector, after
which the vector is in the pool with its flag down, so that a `get` of its size is served from
the pool. -/
structure Exclusive (s : State) : Prop where
  parallel : s.pool.vectors.length = s.pool.inUse.length
  busy : numBusy s.pool = s.held.length
  distinct : s.held.Nodup
  get_fresh : ∀ size addr, allowed s (.get size addr) = true →
    (get size addr s.pool).1 ∉ s.held ∧
      (get size addr s.pool).2.sizeAt (get size addr s.pool).1 = some size
  release_found : ∀ addr ∈ s.held, (release addr s.pool).1 = true ∧
    ∃ (i : Nat) (v : Vec), s.pool.vectors[i]? = some v ∧ v.addr = addr ∧
      (release addr s.pool).2.vectors[i]? = some v ∧
      (release addr s.pool).2.inUse[i]? = some false ∧
      find v.size (release addr s.pool).2.vectors (release addr s.pool).2.inUse ≠ none

theorem reachable_handles_exclusive {s : State} (h : Reachable s) : Exclusive s := by
  have hi := reachable_inv h
  refine ⟨hi.parallel, ?_, hi.held.nodup_iff.2 hi.busy_nodup, fun size addr ha => ?_,
    fun addr ha => ?_⟩
  · rw [numBusy, ← length_busyAddrs hi.parallel, hi.held.length_eq]
  · simp only [allowed, decide_eq_true_eq] at ha
    have hi' := @inv_get s hi size addr ha.1
    cases hf : find size s.pool.vectors s.pool.inUse with
    | some i =>
      obtain ⟨v, hv, hs, -, hn⟩ := hi.not_held_of_find hf
      simp only [get, hf, List.getD_eq_getElem?_getD, hv, Option.getD_some]
      exact ⟨hn, hs ▸ Pool.sizeAt_of_getElem? hi.distinct hv⟩
    | none =>
      have hd := hi'.distinct
      simp only [apply, get, hf] at hd ⊢
      exact ⟨ha.2, Pool.sizeAt_of_getElem? (i := s.pool.vectors.length) (v := ⟨addr, size⟩) hd
        (by simp)⟩
  · obtain ⟨i, hidx⟩ := indexOf_isSome ((busyAddrs_sublist _ _).subset (hi.held.subset ha))
    obtain ⟨v, hv, rfl⟩ := indexOf_spec hidx
    have hlt : i < s.pool.inUse.length := hi.parallel ▸ (List.getElem?_eq_some.1 hv).1
    have hb : (s.pool.inUse.set i false)[i]? = some false := List.getElem?_set_self (by simpa)
    have hr : release v.addr s.pool = (true, { s.pool with inUse := s.pool.inUse.set i false }) := by
      simp [release, hidx]
    rw [hr]
    exact ⟨rfl, i, v, hv, rfl, hv, hb, find_ne_none hv hb⟩

/-- Two vectors of size 4 handed out, the first released, and the pool cleared. -/
theorem reachable_handles_exclusive_cleared :
    Exclusive ⟨⟨[⟨200, 4⟩], [true]⟩, [200]⟩ :=
  reachable_handles_exclusive (run_reach (l := [.get 4 100, .get 4 200, .release 100, .clear])
    (by decide))

end FloatVectorPool

end Cobra
