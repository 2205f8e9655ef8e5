import Mathlib.Logic.Function.Basic
import Mathlib.Data.List.Basic
/-!
**The FPU register buffers of the RISC-V tasks: `arch_specific_new_task_setup` and
`arch_specific_free_task`.**

A RISC-V task keeps its FPU registers in a buffer of the kernel heap, `arch->fpu_regs`, of
`arch->fpu_regs_size` bytes.  `switch_to_task` saves and restores them there (`Tilck.Sched`
keeps only whether the buffer exists, `Tilck.Task.fpuRegs`).  The buffer is handed out and taken
back by two hooks: `arch_specific_new_task_setup`, run on a task that was just forked (with its
parent) or that is about to run a new program (without one), and `arch_specific_free_task`.
Which of them allocates depends on the build option `FORK_NO_COW`, kept as the parameter
`noCow`.

The hooks run against a few routines outside the sources, modelled by their contracts:
`kzmalloc` hands out a block that is not allocated (`Tilck.KHeap.fresh`), or nothing when out of
memory; `kfree2(ptr, size)` frees a block allocated with `size` bytes, and `bzero` stays inside a
block; a call that breaks these rules corrupts the heap (`Tilck.KHeap.corrupted`).  A forked
task's `struct task` starts as a copy of its parent's, the arch fields included; this is what the
comment in `arch_specific_new_task_setup` answers ("we're forking a task and we must NOT preserve
the arch fields").

Main definitions:

* `Tilck.archSpecificNewTaskSetup`, `Tilck.archSpecificFreeTask` — the two hooks;
* `Tilck.ArchOp`, `Tilck.ArchOp.step`, `Tilck.ArchOp.run` — fork, `execve`, exit, the other
  callers of `allocate_fpu_regs` and the FPU context saves, in any order;
* `Tilck.ArchState.Owned` — every buffer held by one task only, allocated with the size the task
  records, no allocated buffer held by none, and the heap never corrupted.

Main results:

* `Tilck.ArchOp.run_owned` — **the ownership of the FPU buffers holds over every run**;
* `Tilck.ArchOp.step_zero_context` — a forked task, or a task that starts a new program, never
  starts with FPU contents it did not write.
-/

set_option relaxedAutoImplicit false
set_option autoImplicit false

namespace Tilck

/-! ### The state the hooks see -/

/-- `arch_task_members_t`, as far as the hooks read and write it: the FPU register buffer,
`NULL` as `none`, and its size. -/
structure ArchFields where
  fpuRegs : Option Nat
  fpuRegsSize : Nat
  deriving DecidableEq, Repr

/-- The arch fields after `bzero(arch, sizeof(*arch))`. -/
def ArchFields.zero : ArchFields := ⟨none, 0⟩

/-- A task, as far as the hooks see it: its arch fields, and `is_kernel_thread(ti)`. -/
structure ArchTask where
  arch : ArchFields
  isKernelThread : Bool
  deriving DecidableEq, Repr

/-- The blocks of the kernel heap that hold FPU contexts, with their bytes (`none` where no block
is allocated), and whether the heap was ever handed a block a call does not fit. -/
structure KHeap where
  blocks : Nat → Option (List UInt8)
  corrupted : Bool

/-- `kzmalloc`'s contract: the block it returns is not allocated. -/
def KHeap.fresh (h : KHeap) : Option Nat → Bool
  | none => true
  | some p => (h.blocks p).isNone

/-- `kfree2(ptr, size)`: frees the block at `ptr`, and nothing for `NULL`.  A block that is not
allocated, or was allocated with another size, corrupts the heap. -/
def kfree2 (ptr : Option Nat) (size : Nat) (h : KHeap) : KHeap :=
  match ptr with
  | none => h
  | some p =>
    if (h.blocks p).map List.length = some size then
      { h with blocks := Function.update h.blocks p none }
    else { h with corrupted := true }

/-- `bzero(p, size)` on the block at `p`; past its end, or on a block that is not allocated, it
corrupts the heap. -/
def bzero (p size : Nat) (h : KHeap) : KHeap :=
  match h.blocks p with
  | some d =>
    if size ≤ d.length then
      { h with blocks := Function.update h.blocks p (some (List.replicate size 0 ++ d.drop size)) }
    else { h with corrupted := true }
  | none => { h with corrupted := true }

/-- `bytes` written over the whole block at `p`, as `save_current_fpu_regs` writes a context into
a task's buffer; a block of another size, or none, corrupts the heap. -/
def KHeap.write (p : Nat) (bytes : List UInt8) (h : KHeap) : KHeap :=
  if (h.blocks p).map List.length = some bytes.length then
    { h with blocks := Function.update h.blocks p (some bytes) }
  else { h with corrupted := true }

/-! ### The hooks -/

section Hooks

variable (noCow : Bool) (ctxSize : Nat) (blk : Option Nat)

/-- `allocate_fpu_regs(arch)`, whose body is outside the sources, by its contract: the block
`blk` that `kzmalloc(fpu_context_size)` returns (`none` when out of memory), all zero, recorded
with its size.  It returns whether it allocated. -/
def allocateFpuRegs (a : ArchFields) (h : KHeap) : Bool × ArchFields × KHeap :=
  match blk with
  | none => (false, a, h)
  | some p =>
    (true, { a with fpuRegs := some p, fpuRegsSize := ctxSize },
      { h with blocks := Function.update h.blocks p (some (List.replicate ctxSize 0)) })

/-- `arch_specific_free_task(ti)`, on the task's arch fields. -/
def archSpecificFreeTask (a : ArchFields) (h : KHeap) : ArchFields × KHeap :=
  let h := kfree2 a.fpuRegs a.fpuRegsSize h
  ({ a with fpuRegs := none, fpuRegsSize := 0 }, h)

/-- `arch_specific_new_task_setup(ti, parent)`, with `FORK_NO_COW` as `noCow`: the result, the
task's new arch fields and the heap. -/
def archSpecificNewTaskSetup (t : ArchTask) (parent : Option Nat) (h : KHeap) :
    Bool × ArchFields × KHeap :=
  if noCow then
    let a := if parent.isSome then ArchFields.zero else t.arch
    match a.fpuRegs with
    | some p => (true, a, bzero p a.fpuRegsSize h)
    | none =>
      if !t.isKernelThread then allocateFpuRegs ctxSize blk a h
      else (true, a, h)
  else if parent.isSome then (true, ArchFields.zero, h)
  else
    let (a, h) := archSpecificFreeTask t.arch h
    (true, a, h)

end Hooks

/-! ### Runs -/

/-- The tasks, by id, and the heap. -/
structure ArchState where
  tasks : Nat → Option ArchTask
  heap : KHeap

/-- What happens around the hooks, outside the sources. -/
inductive ArchOp where
  /-- `child` forked from `parent`: a copy of the parent's task, on which the hook runs with the
  parent; when it fails, the child is freed through `arch_specific_free_task` and dropped.
  `blk` is what `kzmalloc` returns if the hook allocates. -/
  | fork (parent child : Nat) (blk : Option Nat)
  /-- `execve` in the task `ti`: the hook runs without a parent. -/
  | exec (ti : Nat) (blk : Option Nat)
  /-- The task `ti` freed through `arch_specific_free_task`, and dropped. -/
  | free (ti : Nat)
  /-- Another caller of `allocate_fpu_regs`, on a task without a buffer. -/
  | allocFpu (ti : Nat) (blk : Option Nat)
  /-- `save_current_fpu_regs`: the FPU registers of the task `ti`, `fpu_context_size` bytes,
  saved into its buffer. -/
  | save (ti : Nat) (regs : List UInt8)
  deriving DecidableEq, Repr

section Runs

variable (noCow : Bool) (ctxSize : Nat)

/-- One event, with `fpu_context_size` as `ctxSize`; `none` where it cannot happen: a fork from a
task that does not exist or into one that does, an event on a task that does not exist, an
allocator that breaks its contract, a save into no buffer or of another size than a context. -/
def ArchOp.step : ArchOp → ArchState → Option ArchState
  | .fork parent child blk, s =>
    match s.tasks parent, s.tasks child with
    | some tp, none =>
      if s.heap.fresh blk then
        let (ok, a, h) := archSpecificNewTaskSetup noCow ctxSize blk tp (some parent) s.heap
        if ok then some ⟨Function.update s.tasks child (some { tp with arch := a }), h⟩
        else some { s with heap := (archSpecificFreeTask a h).2 }
      else none
    | _, _ => none
  | .exec ti blk, s =>
    match s.tasks ti with
    | some t =>
      if s.heap.fresh blk then
        let (_, a, h) := archSpecificNewTaskSetup noCow ctxSize blk t none s.heap
        some ⟨Function.update s.tasks ti (some { t with arch := a }), h⟩
      else none
    | none => none
  | .free ti, s =>
    match s.tasks ti with
    | some t => some ⟨Function.update s.tasks ti none, (archSpecificFreeTask t.arch s.heap).2⟩
    | none => none
  | .allocFpu ti blk, s =>
    match s.tasks ti with
    | some t =>
      if t.arch.fpuRegs = none ∧ s.heap.fresh blk then
        let (_, a, h) := allocateFpuRegs ctxSize blk t.arch s.heap
        some ⟨Function.update s.tasks ti (some { t with arch := a }), h⟩
      else none
    | none => none
  | .save ti regs, s =>
    match s.tasks ti with
    | some t =>
      match t.arch.fpuRegs with
      | some p => if regs.length = ctxSize then some { s with heap := s.heap.write p regs } else none
      | none => none
    | none => none

/-- The events `ops`, one after the other. -/
def ArchOp.run : List ArchOp → ArchState → Option ArchState
  | [], s => some s
  | op :: ops, s => (op.step noCow ctxSize s).bind (ArchOp.run ops)

end Runs

/-! ### The heap routines on a block that fits -/

section HeapSteps

variable {h : KHeap} {p : Nat}

theorem kfree2_of_length {n : Nat} (hn : (h.blocks p).map List.length = some n) :
    kfree2 (some p) n h = { h with blocks := Function.update h.blocks p none } := if_pos hn

theorem bzero_of_length {n : Nat} (hn : (h.blocks p).map List.length = some n) :
    bzero p n h = { h with blocks := Function.update h.blocks p (some (List.replicate n 0)) } := by
  obtain ⟨d, hd, rfl⟩ := Option.map_eq_some'.1 hn
  simp [bzero, hd]

theorem KHeap.write_of_length {bytes : List UInt8}
    (hn : (h.blocks p).map List.length = some bytes.length) :
    h.write p bytes = { h with blocks := Function.update h.blocks p (some bytes) } := if_pos hn

theorem KHeap.blocks_of_fresh (hf : h.fresh (some p) = true) : h.blocks p = none :=
  Option.isNone_iff_eq_none.1 hf

end HeapSteps

/-! ### What the setup hook can do -/

section SetupCases

variable (noCow : Bool) (ctxSize : Nat) (blk : Option Nat) (t : ArchTask) (parent : Option Nat)
  (h : KHeap)

/-- **The four outcomes of `arch_specific_new_task_setup`**: the task ends up with no buffer and
the heap as it was; or with the block just allocated, all zero; or, starting a new program, with
its own buffer zeroed (`FORK_NO_COW`) or freed (otherwise).  Only the first outcome can fail, and
the first two only where the task held no buffer or is a forked child. -/
theorem archSpecificNewTaskSetup_cases :
    ((archSpecificNewTaskSetup noCow ctxSize blk t parent h).2.1.fpuRegs = none ∧
        (archSpecificNewTaskSetup noCow ctxSize blk t parent h).2.2 = h ∧
        (parent.isSome ∨ t.arch.fpuRegs = none)) ∨
      (∃ p, blk = some p ∧ (parent.isSome ∨ t.arch.fpuRegs = none) ∧
        archSpecificNewTaskSetup noCow ctxSize blk t parent h = (true, ⟨some p, ctxSize⟩,
          { h with blocks := Function.update h.blocks p (some (List.replicate ctxSize 0)) })) ∨
      (∃ p, parent = none ∧ t.arch.fpuRegs = some p ∧
        archSpecificNewTaskSetup noCow ctxSize blk t parent h =
          (true, t.arch, bzero p t.arch.fpuRegsSize h)) ∨
      (∃ p, parent = none ∧ t.arch.fpuRegs = some p ∧
        archSpecificNewTaskSetup noCow ctxSize blk t parent h =
          (true, ⟨none, 0⟩, kfree2 (some p) t.arch.fpuRegsSize h)) := by
  obtain ⟨⟨_ | q, n⟩, _ | _⟩ := t <;> cases noCow <;> cases parent <;> cases blk <;>
    simp [archSpecificNewTaskSetup, allocateFpuRegs, archSpecificFreeTask, kfree2, ArchFields.zero]

end SetupCases

/-! ### Ownership -/

/-- The task `ti` holds the buffer `p`. -/
def ArchState.Holds (s : ArchState) (ti p : Nat) : Prop :=
  ∃ t, s.tasks ti = some t ∧ t.arch.fpuRegs = some p

/-- **The ownership of the FPU buffers**, for contexts of `ctxSize` bytes. -/
structure ArchState.Owned (ctxSize : Nat) (s : ArchState) : Prop where
  /-- No call ever handed the heap a block it does not fit. -/
  intact : s.heap.corrupted = false
  /-- A task's buffer is allocated, one context big, and the task records that size. -/
  held : ∀ ti t p, s.tasks ti = some t → t.arch.fpuRegs = some p →
    t.arch.fpuRegsSize = ctxSize ∧ (s.heap.blocks p).map List.length = some ctxSize
  /-- No two tasks hold the same buffer. -/
  exclusive : ∀ ti tj p, s.Holds ti p → s.Holds tj p → ti = tj
  /-- Every allocated buffer is held by a task. -/
  noLeak : ∀ p d, s.heap.blocks p = some d → ∃ ti, s.Holds ti p

section Owned

variable {ctxSize : Nat} {s : ArchState} {ti p : Nat}

/-- A state with no buffer at all, the heap intact. -/
theorem ArchState.owned_of_no_buffers (hb : ∀ ti t, s.tasks ti = some t → t.arch.fpuRegs = none)
    (hh : ∀ p, s.heap.blocks p = none) (hc : s.heap.corrupted = false) : s.Owned ctxSize where
  intact := hc
  held ti t p ht hp := by simp [hb ti t ht] at hp
  exclusive ti _ p := fun ⟨t, ht, hp⟩ => by simp [hb ti t ht] at hp
  noLeak p d hd := by simp [hh p] at hd

theorem ArchState.Holds.update_ne {r : Option ArchTask} {h : KHeap} {tj : Nat} (hj : tj ≠ ti) :
    ArchState.Holds ⟨Function.update s.tasks ti r, h⟩ tj p ↔ s.Holds tj p := by
  simp only [ArchState.Holds, Function.update_noteq hj]

/-- Where the task `ti` was replaced by one that holds nothing, or dropped, a task that holds a
buffer is another one, which held it before. -/
theorem ArchState.Holds.of_update_none {r : Option ArchTask}
    (hr : ∀ x, r = some x → x.arch.fpuRegs = none) {h : KHeap} {tj : Nat}
    (hj : ArchState.Holds ⟨Function.update s.tasks ti r, h⟩ tj p) : tj ≠ ti ∧ s.Holds tj p := by
  obtain ⟨t, ht, hq⟩ := hj
  by_cases e : tj = ti
  · subst e
    simp [hr t (by simpa using ht)] at hq
  · exact ⟨e, t, by simpa [e] using ht, hq⟩

/-- The task `ti` holds nothing, or does not exist. -/
def ArchState.HoldsNone (s : ArchState) (ti : Nat) : Prop :=
  ∀ t, s.tasks ti = some t → t.arch.fpuRegs = none

theorem ArchState.HoldsNone.ne (hn : s.HoldsNone ti) {tj : Nat} (hj : s.Holds tj p) : tj ≠ ti := by
  rintro rfl
  obtain ⟨t, ht, hp⟩ := hj
  simp [hn t ht] at hp

/-- A task that holds nothing replaced by one that holds nothing, or dropped. -/
theorem ArchState.Owned.setTask_of_none (hs : s.Owned ctxSize) (hn : s.HoldsNone ti)
    {r : Option ArchTask} (hr : ∀ x, r = some x → x.arch.fpuRegs = none) :
    ArchState.Owned ctxSize ⟨Function.update s.tasks ti r, s.heap⟩ where
  intact := hs.intact
  held tj t q ht hq := by
    have hj := (ArchState.Holds.of_update_none hr ⟨t, ht, hq⟩).1
    exact hs.held tj t q (by simpa [hj] using ht) hq
  exclusive tj tk q hj hk :=
    hs.exclusive tj tk q (ArchState.Holds.of_update_none hr hj).2
      (ArchState.Holds.of_update_none hr hk).2
  noLeak q d hd := by
    obtain ⟨tj, hj⟩ := hs.noLeak q d hd
    exact ⟨tj, (ArchState.Holds.update_ne (hn.ne hj)).2 hj⟩

/-- A held buffer rewritten with a whole context. -/
theorem ArchState.Owned.rewrite (hs : s.Owned ctxSize) (hp : (s.heap.blocks p).isSome)
    {bytes : List UInt8} (hlen : bytes.length = ctxSize) :
    ArchState.Owned ctxSize
      ⟨s.tasks, { s.heap with blocks := Function.update s.heap.blocks p (some bytes) }⟩ where
  intact := hs.intact
  held tj t q ht hq := by
    refine ⟨(hs.held tj t q ht hq).1, ?_⟩
    by_cases e : q = p
    · subst e; simp [hlen]
    · simpa [e] using (hs.held tj t q ht hq).2
  exclusive := hs.exclusive
  noLeak q d hd := by
    by_cases e : q = p
    · subst e
      obtain ⟨d, hd⟩ := Option.isSome_iff_exists.1 hp
      exact hs.noLeak q d hd
    · exact hs.noLeak q d (by simpa [e] using hd)

/-- A fresh block of one context handed to a task that held nothing. -/
theorem ArchState.Owned.give (hs : s.Owned ctxSize) (hn : s.HoldsNone ti)
    (hf : s.heap.blocks p = none) {x : ArchTask} (hx : x.arch = ⟨some p, ctxSize⟩)
    {bytes : List UInt8} (hlen : bytes.length = ctxSize) :
    ArchState.Owned ctxSize ⟨Function.update s.tasks ti (some x),
      { s.heap with blocks := Function.update s.heap.blocks p (some bytes) }⟩ where
  intact := hs.intact
  held tj t q ht hq := by
    by_cases hj : tj = ti
    · subst hj
      obtain rfl : x = t := by simpa using ht
      rw [hx] at hq ⊢
      obtain rfl : p = q := by simpa using hq
      simp [hlen]
    · have ht' : s.tasks tj = some t := by simpa [hj] using ht
      have hq' : q ≠ p := by
        rintro rfl
        simpa [hf] using (hs.held tj t q ht' hq).2
      simpa [hq'] using hs.held tj t q ht' hq
  exclusive tj tk q hj hk := by
    -- a task other than `ti` holding `q` holds an allocated block, so not `p`
    have other : ∀ tl, tl ≠ ti → ArchState.Holds ⟨Function.update s.tasks ti (some x),
        { s.heap with blocks := Function.update s.heap.blocks p (some bytes) }⟩ tl q →
        s.Holds tl q ∧ q ≠ p := by
      intro tl hl ⟨t, ht, hq⟩
      have ht' : s.tasks tl = some t := by simpa [hl] using ht
      refine ⟨⟨t, ht', hq⟩, ?_⟩
      rintro rfl
      simpa [hf] using (hs.held tl t q ht' hq).2
    have mine : ArchState.Holds ⟨Function.update s.tasks ti (some x),
        { s.heap with blocks := Function.update s.heap.blocks p (some bytes) }⟩ ti q → q = p := by
      rintro ⟨t, ht, hq⟩
      obtain rfl : x = t := by simpa using ht
      simpa [hx] using hq.symm
    by_cases hj' : tj = ti <;> by_cases hk' : tk = ti
    · rw [hj', hk']
    · exact absurd (mine (hj' ▸ hj)) (other tk hk' hk).2
    · exact absurd (mine (hk' ▸ hk)) (other tj hj' hj).2
    · exact hs.exclusive tj tk q (other tj hj' hj).1 (other tk hk' hk).1
  noLeak q d hd := by
    by_cases e : q = p
    · exact ⟨ti, x, by simp, by rw [hx, e]⟩
    · obtain ⟨tj, hj⟩ := hs.noLeak q d (by simpa [e] using hd)
      refine ⟨tj, ?_⟩
      obtain ⟨t, ht, hq⟩ := hj
      exact ⟨t, by simpa [hn.ne ⟨t, ht, hq⟩] using ht, hq⟩

/-- The buffer of a task freed, and the task left with none, or dropped. -/
theorem ArchState.Owned.release (hs : s.Owned ctxSize) {t : ArchTask} (ht : s.tasks ti = some t)
    (hp : t.arch.fpuRegs = some p) {r : Option ArchTask}
    (hr : ∀ x, r = some x → x.arch.fpuRegs = none) :
    ArchState.Owned ctxSize ⟨Function.update s.tasks ti r,
      { s.heap with blocks := Function.update s.heap.blocks p none }⟩ where
  intact := hs.intact
  held tj t' q ht' hq := by
    obtain ⟨hj, hold⟩ := ArchState.Holds.of_update_none hr ⟨t', ht', hq⟩
    have hq' : q ≠ p := by
      rintro rfl
      exact hj (hs.exclusive tj ti q hold ⟨t, ht, hp⟩)
    simpa [hq'] using hs.held tj t' q (by simpa [hj] using ht') hq
  exclusive tj tk q hj hk :=
    hs.exclusive tj tk q (ArchState.Holds.of_update_none hr hj).2
      (ArchState.Holds.of_update_none hr hk).2
  noLeak q d hd := by
    have hq : q ≠ p := by rintro rfl; simp at hd
    obtain ⟨tj, hj⟩ := hs.noLeak q d (by simpa [hq] using hd)
    have hj' : tj ≠ ti := by
      rintro rfl
      obtain ⟨t', ht', hq'⟩ := hj
      rw [ht] at ht'
      cases ht'
      exact hq (Option.some.inj (hq'.symm.trans hp))
    exact ⟨tj, (ArchState.Holds.update_ne hj').2 hj⟩

end Owned

/-! ### Every step keeps the ownership -/

section Steps

variable {noCow : Bool} {ctxSize : Nat} {s s' : ArchState}

theorem ArchState.HoldsNone.of_none {ti : Nat} (h : s.tasks ti = none) : s.HoldsNone ti :=
  fun _ ht => by simp [h] at ht

theorem ArchState.HoldsNone.of_some {ti : Nat} {t : ArchTask} (h : s.tasks ti = some t)
    (hn : t.arch.fpuRegs = none) : s.HoldsNone ti :=
  fun _ ht => by rw [h] at ht; cases ht; exact hn

/-- **The setup hook keeps the ownership**, on a forked child not yet in the table or on a task
starting a new program, with the task's new arch fields recorded, whatever its outcome. -/
theorem ArchState.Owned.setup (hs : s.Owned ctxSize) {ti : Nat} {t : ArchTask}
    {parent blk : Option Nat}
    (ht : (s.tasks ti = none ∧ parent.isSome) ∨ (s.tasks ti = some t ∧ parent = none))
    (hf : s.heap.fresh blk = true) :
    ArchState.Owned ctxSize ⟨Function.update s.tasks ti
      (some { t with arch := (archSpecificNewTaskSetup noCow ctxSize blk t parent s.heap).2.1 }),
      (archSpecificNewTaskSetup noCow ctxSize blk t parent s.heap).2.2⟩ := by
  have hc := archSpecificNewTaskSetup_cases noCow ctxSize blk t parent s.heap
  generalize archSpecificNewTaskSetup noCow ctxSize blk t parent s.heap = r at hc ⊢
  -- the task holds nothing before, unless it starts a new program with a buffer
  have hn : parent.isSome ∨ t.arch.fpuRegs = none → s.HoldsNone ti := by
    rintro hpn
    rcases ht with ⟨h0, -⟩ | ⟨h1, rfl⟩
    · exact .of_none h0
    · exact .of_some h1 (by simpa using hpn)
  rcases hc with ⟨ha, hk, hpn⟩ | ⟨q, rfl, hpn, rfl⟩ | ⟨q, rfl, hq, rfl⟩ | ⟨q, rfl, hq, rfl⟩
  · rw [hk]
    exact hs.setTask_of_none (hn hpn) (fun x hx => by cases hx; exact ha)
  · exact hs.give (hn hpn) (KHeap.blocks_of_fresh hf) rfl (by simp)
  · -- `FORK_NO_COW`, a new program: the task keeps its buffer, zeroed
    have h1 := (ht.resolve_left (by simp)).1
    obtain ⟨hsz, hlen⟩ := hs.held ti t q h1 hq
    have e : Function.update s.tasks ti (some { t with arch := t.arch }) = s.tasks :=
      Function.update_eq_self_iff.2 h1.symm
    dsimp only
    rw [e, hsz, bzero_of_length hlen]
    obtain ⟨d, hd, -⟩ := Option.map_eq_some'.1 hlen
    exact hs.rewrite (by simp [hd]) (by simp)
  · -- a new program otherwise: the buffer freed
    have h1 := (ht.resolve_left (by simp)).1
    obtain ⟨hsz, hlen⟩ := hs.held ti t q h1 hq
    dsimp only
    rw [hsz, kfree2_of_length hlen]
    exact hs.release h1 hq (fun x hx => by cases hx; rfl)

section Inversion

variable {parent child ti : Nat} {blk : Option Nat}

/-- What a fork can do: the hook runs on a copy of the parent, and the child is recorded with
the arch fields it leaves, or, when the hook fails, the heap it leaves is kept, the child's
buffer freed. -/
theorem ArchOp.step_fork (h : (ArchOp.fork parent child blk).step noCow ctxSize s = some s') :
    ∃ tp, s.tasks parent = some tp ∧ s.tasks child = none ∧ s.heap.fresh blk = true ∧
      ((archSpecificNewTaskSetup noCow ctxSize blk tp (some parent) s.heap).1 = true ∧
          s' = ⟨Function.update s.tasks child (some { tp with
              arch := (archSpecificNewTaskSetup noCow ctxSize blk tp (some parent) s.heap).2.1 }),
            (archSpecificNewTaskSetup noCow ctxSize blk tp (some parent) s.heap).2.2⟩ ∨
        (archSpecificNewTaskSetup noCow ctxSize blk tp (some parent) s.heap).1 = false ∧
          s' = { s with heap := (archSpecificFreeTask
            (archSpecificNewTaskSetup noCow ctxSize blk tp (some parent) s.heap).2.1
            (archSpecificNewTaskSetup noCow ctxSize blk tp (some parent) s.heap).2.2).2 }) := by
  simp only [ArchOp.step] at h
  split at h
  next _ _ tp htp hc =>
    split_ifs at h with hf hok
    · exact ⟨tp, htp, hc, hf, .inl ⟨hok, (Option.some.inj h).symm⟩⟩
    · exact ⟨tp, htp, hc, hf, .inr ⟨by simpa using hok, (Option.some.inj h).symm⟩⟩
  next => cases h

/-- What an `execve` can do: the hook runs without a parent, and the task is recorded with the
arch fields it leaves. -/
theorem ArchOp.step_exec (h : (ArchOp.exec ti blk).step noCow ctxSize s = some s') :
    ∃ t, s.tasks ti = some t ∧ s.heap.fresh blk = true ∧
      s' = ⟨Function.update s.tasks ti (some { t with
          arch := (archSpecificNewTaskSetup noCow ctxSize blk t none s.heap).2.1 }),
        (archSpecificNewTaskSetup noCow ctxSize blk t none s.heap).2.2⟩ := by
  simp only [ArchOp.step] at h
  split at h
  next t ht =>
    split_ifs at h with hf
    exact ⟨t, ht, hf, (Option.some.inj h).symm⟩
  next => cases h

end Inversion

/-- **Every event keeps the ownership of the FPU buffers.** -/
theorem ArchOp.step_owned {op : ArchOp} (hs : s.Owned ctxSize)
    (h : op.step noCow ctxSize s = some s') : s'.Owned ctxSize := by
  cases op with
  | fork parent child blk =>
    obtain ⟨tp, -, hc, hf, ⟨-, rfl⟩ | ⟨hok, rfl⟩⟩ := ArchOp.step_fork h
    · exact hs.setup (.inl ⟨hc, rfl⟩) hf
    · -- the hook failed: the child, which holds nothing, is freed and dropped
      obtain ⟨ha, hk, -⟩ | ⟨_, -, -, he⟩ | ⟨_, he, -⟩ | ⟨_, he, -⟩ :=
        archSpecificNewTaskSetup_cases noCow ctxSize blk tp (some parent) s.heap
      · simpa only [archSpecificFreeTask, ha, kfree2, hk] using hs
      · simp [he] at hok
      all_goals cases he
  | exec ti blk =>
    obtain ⟨t, ht, hf, rfl⟩ := ArchOp.step_exec h
    exact hs.setup (.inr ⟨ht, rfl⟩) hf
  | free ti =>
    simp only [ArchOp.step] at h
    split at h
    next t ht =>
      cases h
      cases hq : t.arch.fpuRegs with
      | none =>
        simp only [archSpecificFreeTask, kfree2, hq]
        exact hs.setTask_of_none (.of_some ht hq) (fun _ hx => by cases hx)
      | some q =>
        obtain ⟨hsz, hlen⟩ := hs.held ti t q ht hq
        simp only [archSpecificFreeTask, hq, hsz, kfree2_of_length hlen]
        exact hs.release ht hq (fun _ hx => by cases hx)
    next => cases h
  | allocFpu ti blk =>
    simp only [ArchOp.step] at h
    split at h
    next t ht =>
      split_ifs at h with hc
      cases h
      cases blk with
      | none => exact hs.setTask_of_none (.of_some ht hc.1) (fun _ hx => by cases hx; exact hc.1)
      | some q => exact hs.give (.of_some ht hc.1) (KHeap.blocks_of_fresh hc.2) rfl (by simp)
    next => cases h
  | save ti regs =>
    simp only [ArchOp.step] at h
    split at h
    next t ht =>
      split at h
      next q hq =>
        split_ifs at h with hlen
        cases h
        obtain ⟨-, hb⟩ := hs.held ti t q ht hq
        obtain ⟨d, hd, -⟩ := Option.map_eq_some'.1 hb
        rw [KHeap.write_of_length (hb.trans (congrArg some hlen.symm))]
        exact hs.rewrite (by simp [hd]) hlen
      next => cases h
    next => cases h

/-- **The ownership of the FPU buffers holds over every run**: from a state where it holds, after
any sequence of forks, `execve`s, exits, allocations and context saves, every buffer is held by
one task only, allocated one context big, no allocated buffer is held by none, and no `kfree2`,
`bzero` or save was ever handed a block it does not fit. -/
theorem ArchOp.run_owned {ops : List ArchOp} (hs : s.Owned ctxSize)
    (h : ArchOp.run noCow ctxSize ops s = some s') : s'.Owned ctxSize := by
  induction ops generalizing s with
  | nil => cases h; exact hs
  | cons op ops ih =>
    obtain ⟨s₁, h₁, h₂⟩ := Option.bind_eq_some.1 h
    exact ih (ArchOp.step_owned hs h₁) h₂

/-- One user task without an FPU buffer, and nothing allocated. -/
def oneUserTask : ArchState :=
  ⟨fun ti => if ti = 1 then some ⟨ArchFields.zero, false⟩ else none, ⟨fun _ => none, false⟩⟩

theorem oneUserTask_owned : oneUserTask.Owned 4 :=
  ArchState.owned_of_no_buffers
    (fun ti t ht => by by_cases e : ti = 1 <;> simp [oneUserTask, e] at ht; rw [← ht]; rfl)
    (fun _ => rfl) rfl

/-- The task 1 is given a buffer and forks the task 2, which saves its FPU registers, runs a new
program and exits. -/
def forkSaveExecExit : List ArchOp :=
  [.allocFpu 1 (some 100), .fork 1 2 (some 200), .save 2 [1, 2, 3, 4], .exec 2 none, .free 2]

theorem run_owned_forkSaveExecExit :
    oneUserTask.Owned 4 ∧ ∃ s', ArchOp.run true 4 forkSaveExecExit oneUserTask = some s' ∧
      s'.Owned 4 :=
  have hr : ArchOp.run true 4 forkSaveExecExit oneUserTask = some _ := rfl
  ⟨oneUserTask_owned, _, hr, ArchOp.run_owned oneUserTask_owned hr⟩

/-- The buffer the setup hook leaves a task, if any, is all zero, where the task's own buffer
was one context big. -/
theorem archSpecificNewTaskSetup_zero {noCow : Bool} {ctxSize : Nat} {blk parent : Option Nat}
    {t : ArchTask} {h : KHeap} (hheld : ∀ q, t.arch.fpuRegs = some q →
      t.arch.fpuRegsSize = ctxSize ∧ (h.blocks q).map List.length = some ctxSize) {p : Nat}
    (hp : (archSpecificNewTaskSetup noCow ctxSize blk t parent h).2.1.fpuRegs = some p) :
    (archSpecificNewTaskSetup noCow ctxSize blk t parent h).2.2.blocks p =
      some (List.replicate ctxSize 0) := by
  rcases archSpecificNewTaskSetup_cases noCow ctxSize blk t parent h with
    ⟨ha, -, -⟩ | ⟨q, -, -, he⟩ | ⟨q, -, hq, he⟩ | ⟨q, -, -, he⟩
  · simp [ha] at hp
  · rw [he] at hp ⊢
    cases hp
    simp
  · -- the buffer kept, zeroed
    obtain ⟨hsz, hlen⟩ := hheld q hq
    rw [he] at hp ⊢
    rw [hq] at hp
    cases hp
    rw [hsz, bzero_of_length hlen]
    simp
  · rw [he] at hp
    cases hp

/-- **A forked task, or a task starting a new program, starts with a zeroed FPU context**: after
either event, the buffer the task holds, if any, is all zero, so it never sees the registers of
its parent or of the program it replaced. -/
theorem ArchOp.step_zero_context {op : ArchOp} {ti p : Nat} {t : ArchTask}
    (hs : s.Owned ctxSize) (hop : (∃ parent blk, op = .fork parent ti blk) ∨ ∃ blk, op = .exec ti blk)
    (h : op.step noCow ctxSize s = some s') (ht : s'.tasks ti = some t)
    (hp : t.arch.fpuRegs = some p) : s'.heap.blocks p = some (List.replicate ctxSize 0) := by
  rcases hop with ⟨parent, blk, rfl⟩ | ⟨blk, rfl⟩
  · obtain ⟨tp, htp, hc, -, ⟨-, rfl⟩ | ⟨-, rfl⟩⟩ := ArchOp.step_fork h
    · obtain rfl : _ = t := by simpa using ht
      exact archSpecificNewTaskSetup_zero (fun q hq => hs.held parent tp q htp hq) hp
    · simp [hc] at ht
  · obtain ⟨t₀, ht₀, -, rfl⟩ := ArchOp.step_exec h
    obtain rfl : _ = t := by simpa using ht
    exact archSpecificNewTaskSetup_zero (fun q hq => hs.held ti t₀ q ht₀ hq) hp

/-- The task 1 holds a buffer with its saved registers. -/
def savedTask : ArchState :=
  ⟨fun ti => if ti = 1 then some ⟨⟨some 100, 4⟩, false⟩ else none,
    ⟨fun p => if p = 100 then some [1, 2, 3, 4] else none, false⟩⟩

theorem savedTask_owned : savedTask.Owned 4 where
  intact := rfl
  held ti t p ht hp := by
    by_cases e : ti = 1 <;> simp [savedTask, e] at ht
    subst ht
    cases hp
    simp [savedTask]
  exclusive ti tj p := by
    rintro ⟨t, ht, -⟩ ⟨t', ht', -⟩
    by_cases e : ti = 1 <;> by_cases e' : tj = 1 <;> simp_all [savedTask]
  noLeak p d hd := by
    by_cases e : p = 100 <;> simp [savedTask, e] at hd
    exact ⟨1, _, rfl, by rw [e]⟩

theorem step_zero_context_exec_saved :
    savedTask.Owned 4 ∧ ∃ s' t, ArchOp.step true 4 (.exec 1 none) savedTask = some s' ∧
      s'.tasks 1 = some t ∧ t.arch.fpuRegs = some 100 ∧
      s'.heap.blocks 100 = some (List.replicate 4 0) :=
  have hr : ArchOp.step true 4 (.exec 1 none) savedTask = some _ := rfl
  ⟨savedTask_owned, _, _, hr, rfl, rfl,
    ArchOp.step_zero_context savedTask_owned (.inr ⟨none, rfl⟩) hr rfl rfl⟩

end Steps

end Tilck
