import Tilck.PendingSet
/-!
**The kernel state and the outcome of a call.**

This module fixes what a call of the modelled C code can see and do.  The state
(`Tilck.Kernel`) holds the tasks and processes, indexed by thread id and process id, the current
task, the preemption-disable counter, the current page directory, the user memory the copy
routines read and write, and a trace of the side effects that leave no other mark (trace
points, wake-ups, `printk`, FPU saves).  A call ends in one of two ways (`Tilck.Outcome`): it
returns a value to its caller, or it never returns — `terminate_process`, `context_switch`,
`panic`, a failed `ASSERT`, or a `NOT_IMPLEMENTED()` entry point — and the state it leaves
behind is kept in both cases.  `Tilck.KM` is the monad of such calls, so that the modelled
functions read as their C bodies, statement after statement.

The routines the modelled functions call but that live outside the sources (`get_task`,
`task_change_state`, `wake_up_tasks_waiting_on`, `copy_from_user`, ...) are given here as the
primitives of the monad, each with the effect the code relies on.

Main definitions:

* `Tilck.Task`, `Tilck.Process`, `Tilck.UserMem`, `Tilck.Kernel` — the state;
* `Tilck.Exit`, `Tilck.Outcome`, `Tilck.KM` — how a call ends, and the monad of calls;
* the primitives `Tilck.disablePreemption`, `Tilck.enablePreemption`, `Tilck.getTask`,
  `Tilck.taskChangeState`, `Tilck.wakeUpTasksWaitingOn`, `Tilck.copyFromUser`,
  `Tilck.copyToUser`, `Tilck.terminateProcess`, ... and one `@[simp]` equation for each.
-/

set_option relaxedAutoImplicit false
set_option autoImplicit false

namespace Tilck

/-! ### Tasks and processes -/

/-- `enum task_state`. -/
inductive TaskState where
  | invalid
  | runnable
  | running
  | sleeping
  | zombie
  deriving DecidableEq, Repr

/-- The kinds of wait object (`WOBJ_*`) a sleeping task can wait on. -/
inductive WObjType where
  | none
  | kmutex
  | kcond
  | task
  | timer
  | sem
  | mwoWaiter
  | mwoElem
  deriving DecidableEq, Repr

/-- A task's `wobj`: the kind of object it waits on and the object, a thread id for
`WOBJ_TASK`. -/
structure WaitObj where
  type : WObjType
  ptr : Nat
  deriving DecidableEq, Repr

/-- The fields of `regs_t` that the code sets or reads; the others stay zero, as in a C
designated initializer. -/
structure Regs where
  kernelResumePc : Nat := 0
  sepc : Nat := 0
  sstatus : Nat := 0
  a0 : Nat := 0
  ra : Nat := 0
  sp : Nat := 0
  usersp : Nat := 0
  deriving DecidableEq, Repr

/-- The fields of `struct task` the modelled functions read or write. -/
structure Task (cfg : Config) where
  /-- `ti->pi->pid`: the process the task belongs to. -/
  pid : Nat
  state : TaskState
  /-- `*ti->state_regs`: the saved register context. -/
  stateRegs : Regs
  runningInKernel : Bool
  stopped : Bool
  vforkStopped : Bool
  wobj : WaitObj
  wstatus : Nat
  /-- `pending_signums`. -/
  pending : Words cfg
  /-- `ticks.timeslice`. -/
  timeslice : Nat
  timerReady : Bool
  /-- Whether the task has an FPU register buffer (`arch->fpu_regs != NULL`). -/
  fpuRegs : Bool
  /-- The top of the task's kernel stack, where `state_regs` points after a reset. -/
  kernelStack : Nat
  kthreadName : String
  workerThread : Nat

/-- `is_kernel_thread`: the task belongs to the kernel process, whose pid is 0. -/
def Task.isKernelThread {cfg : Config} (t : Task cfg) : Bool := t.pid == 0

/-- The fields of `struct process` the modelled functions read or write. -/
structure Process (cfg : Config) where
  /-- `sa_handlers`: the handler of signal `s` is at index `s - 1`. -/
  saHandlers : Nat → Nat
  /-- `sa_mask`: the blocked signals. -/
  saMask : Words cfg
  pdir : Nat
  /-- The bytes of `struct process` that follow `sa_mask`, which a copy of more than
  `sizeof(sa_mask)` bytes from `sa_mask` reads. -/
  bytesAfterMask : Nat → UInt8

/-- The user memory the copy routines see: the byte at each address, `none` where nothing is
mapped, and whether the address may be written. -/
structure UserMem where
  byte : Nat → Option UInt8
  writable : Nat → Bool

/-- The reason passed to `wake_up_tasks_waiting_on`. -/
inductive WakeReason where
  | taskStopped
  | taskContinued
  deriving DecidableEq, Repr

/-- The side effects that leave no other mark on the state. -/
inductive Event where
  /-- `trace_signal_delivered(tid, sig)`. -/
  | signalDelivered (tid sig : Nat)
  /-- `wake_up_tasks_waiting_on(ti, r)`. -/
  | wakeUp (tid : Nat) (r : WakeReason)
  /-- The warning `action_ignore` prints for a signal sent to pid 1. -/
  | ignoredByInit (sig : Nat)
  /-- `kernel_yield_preempt_disabled()`. -/
  | yield
  /-- `save_current_fpu_regs` and `restore_fpu_regs`. -/
  | fpuSave (tid : Nat)
  | fpuRestore (tid : Nat)
  deriving DecidableEq, Repr

/-- The state of the kernel. -/
structure Kernel (cfg : Config) where
  tasks : Nat → Option (Task cfg)
  procs : Nat → Option (Process cfg)
  /-- `get_curr_task()`. -/
  curr : Option Nat
  /-- The preemption-disable counter: preemption is enabled when it is zero. -/
  preemptDepth : Nat
  /-- `get_curr_pdir()`. -/
  currPdir : Nat
  mem : UserMem
  /-- The kernel bytes from `zero_page` on: zero over the page, whatever follows past it. -/
  zeroPage : Nat → UInt8
  zeroPage_zero : ∀ i < PAGE_SIZE, zeroPage i = 0
  /-- The side effects so far, the latest first. -/
  trace : List Event

/-- A user task of the process `pid`, runnable, in user mode, with nothing pending. -/
def Task.ofPid {cfg : Config} (pid : Nat) : Task cfg :=
  { pid, state := .runnable, stateRegs := {}, runningInKernel := false, stopped := false,
    vforkStopped := false, wobj := ⟨.none, 0⟩, wstatus := 0, pending := fun _ => 0, timeslice := 0,
    timerReady := false, fpuRegs := false, kernelStack := 0, kthreadName := "", workerThread := 0 }

/-- A process with every handler `SIG_DFL` and nothing blocked. -/
def Process.dfl {cfg : Config} : Process cfg :=
  { saHandlers := fun _ => 0, saMask := fun _ => 0, pdir := 0, bytesAfterMask := fun _ => 0 }

/-- A state with no task, no process and no user memory. -/
def Kernel.empty {cfg : Config} : Kernel cfg :=
  { tasks := fun _ => none, procs := fun _ => none, curr := none, preemptDepth := 0, currPdir := 0,
    mem := ⟨fun _ => none, fun _ => false⟩, zeroPage := fun _ => 0, zeroPage_zero := fun _ _ => rfl,
    trace := [] }

/-- The state with the one user task `tid`, the main thread of process `tid`, runnable and not
current, with every handler `SIG_DFL`. -/
def Kernel.withTask {cfg : Config} (tid : Nat) : Kernel cfg :=
  { (Kernel.empty : Kernel cfg) with
    tasks := fun u => if u = tid then some (Task.ofPid tid) else none
    procs := fun q => if q = tid then some Process.dfl else none }

/-! ### How a call ends -/

/-- The ways a call can end without returning to its caller. -/
inductive Exit where
  /-- `terminate_process(exit_code, term_sig)`. -/
  | terminateProcess (exitCode termSig : Int)
  /-- `context_switch(regs)`: control moves into the saved context. -/
  | contextSwitch (regs : Regs)
  | panic (msg : String)
  /-- A failed `ASSERT`, which halts the kernel. -/
  | assertionFailed
  /-- `NOT_IMPLEMENTED()`. -/
  | notImplemented
  /-- A task or process pointer with nothing behind it in the model's state. -/
  | badPointer
  deriving DecidableEq, Repr

/-- How a call ends: it returns `a` with the state `s`, or it never returns, leaving `s`. -/
inductive Outcome (cfg : Config) (α : Type) where
  | ret (a : α) (s : Kernel cfg)
  | exit (e : Exit) (s : Kernel cfg)

variable {cfg : Config} {α β : Type}

/-- The state a call leaves, whether it returns or not. -/
def Outcome.state : Outcome cfg α → Kernel cfg
  | .ret _ s => s
  | .exit _ s => s

/-- Continue with `f` after a call that returns. -/
def Outcome.bind : Outcome cfg α → (α → Kernel cfg → Outcome cfg β) → Outcome cfg β
  | .ret a s, f => f a s
  | .exit e s, _ => .exit e s

@[simp] theorem Outcome.bind_ret (a : α) (s : Kernel cfg) (f : α → Kernel cfg → Outcome cfg β) :
    (Outcome.ret a s).bind f = f a s := rfl

@[simp] theorem Outcome.bind_exit (e : Exit) (s : Kernel cfg)
    (f : α → Kernel cfg → Outcome cfg β) : (Outcome.exit e s).bind f = .exit e s := rfl

@[simp] theorem Outcome.state_ret (a : α) (s : Kernel cfg) : (Outcome.ret a s).state = s := rfl

@[simp] theorem Outcome.state_exit (e : Exit) (s : Kernel cfg) :
    (Outcome.exit e s : Outcome cfg α).state = s := rfl

/-- A call of the kernel's C code. -/
def KM (cfg : Config) (α : Type) := Kernel cfg → Outcome cfg α

instance : Monad (KM cfg) where
  pure a s := .ret a s
  bind x f s := (x s).bind f

@[simp] theorem KM.pure_apply (a : α) (s : Kernel cfg) : (pure a : KM cfg α) s = .ret a s := rfl

@[simp] theorem KM.bind_apply (x : KM cfg α) (f : α → KM cfg β) (s : Kernel cfg) :
    (x >>= f) s = (x s).bind f := rfl

@[simp] theorem KM.pure_bind (a : α) (f : α → KM cfg β) : (pure a >>= f : KM cfg β) = f a := rfl

theorem Outcome.bind_eq_ret {o : Outcome cfg α} {f : α → Kernel cfg → Outcome cfg β} {b : β}
    {s' : Kernel cfg} (h : o.bind f = .ret b s') : ∃ a s₁, o = .ret a s₁ ∧ f a s₁ = .ret b s' := by
  cases o with
  | ret a s₁ => exact ⟨a, s₁, rfl, h⟩
  | exit e s₁ => cases h

theorem Outcome.bind_eq_exit {o : Outcome cfg α} {f : α → Kernel cfg → Outcome cfg β} {e : Exit}
    {s' : Kernel cfg} (h : o.bind f = .exit e s') :
    o = .exit e s' ∨ ∃ a s₁, o = .ret a s₁ ∧ f a s₁ = .exit e s' := by
  cases o with
  | ret a s₁ => exact .inr ⟨a, s₁, rfl, h⟩
  | exit e₁ s₁ => exact .inl (by simpa using h)

/-! ### Primitives -/

/-- `ASSERT(p)`: halts the kernel when `p` fails. -/
def assert (p : Prop) [Decidable p] : KM cfg Unit := fun s =>
  if p then .ret () s else .exit .assertionFailed s

/-- `terminate_process(exit_code, term_sig)`, which never returns. -/
def terminateProcess (exitCode termSig : Int) : KM cfg α := fun s =>
  .exit (.terminateProcess exitCode termSig) s

/-- `context_switch(regs)`, which never returns. -/
def contextSwitch (regs : Regs) : KM cfg α := fun s => .exit (.contextSwitch regs) s

/-- `panic(msg)`. -/
def panic (msg : String) : KM cfg α := fun s => .exit (.panic msg) s

def disablePreemption : KM cfg Unit := fun s =>
  .ret () { s with preemptDepth := s.preemptDepth + 1 }

def enablePreemption : KM cfg Unit := fun s =>
  .ret () { s with preemptDepth := s.preemptDepth - 1 }

/-- `enable_preemption_nosched()`: the counter drops without a reschedule. -/
def enablePreemptionNosched : KM cfg Unit := enablePreemption

def isPreemptionEnabled : KM cfg Bool := fun s => .ret (s.preemptDepth == 0) s

def getCurrTask : KM cfg (Option Nat) := fun s => .ret s.curr s

def setCurrTask (tid : Nat) : KM cfg Unit := fun s => .ret () { s with curr := some tid }

/-- `get_curr_task()` on the paths that dereference it. -/
def currTask : KM cfg Nat := fun s =>
  match s.curr with
  | some c => .ret c s
  | none => .exit .badPointer s

/-- `get_task(tid)`: the task with that thread id, if any. -/
def getTask (tid : Int) : KM cfg (Option (Task cfg)) := fun s =>
  .ret (if 0 ≤ tid then s.tasks tid.toNat else none) s

/-- The task a `struct task *` points to. -/
def task (tid : Nat) : KM cfg (Task cfg) := fun s =>
  match s.tasks tid with
  | some t => .ret t s
  | none => .exit .badPointer s

/-- The process a `struct process *` points to. -/
def proc (pid : Nat) : KM cfg (Process cfg) := fun s =>
  match s.procs pid with
  | some p => .ret p s
  | none => .exit .badPointer s

/-- `get_curr_proc()`, or `curr->pi`: the process of the current task. -/
def getCurrProc : KM cfg (Process cfg) := do
  proc (← task (← currTask)).pid

/-- A write through a `struct task *`. -/
def modifyTask (tid : Nat) (f : Task cfg → Task cfg) : KM cfg Unit := fun s =>
  match s.tasks tid with
  | some t => .ret () { s with tasks := Function.update s.tasks tid (some (f t)) }
  | none => .exit .badPointer s

/-- A write through a `struct process *`. -/
def modifyProc (pid : Nat) (f : Process cfg → Process cfg) : KM cfg Unit := fun s =>
  match s.procs pid with
  | some p => .ret () { s with procs := Function.update s.procs pid (some (f p)) }
  | none => .exit .badPointer s

/-- Record a side effect. -/
def emit (e : Event) : KM cfg Unit := fun s => .ret () { s with trace := e :: s.trace }

/-- `task_change_state(ti, st)`. -/
def taskChangeState (tid : Nat) (st : TaskState) : KM cfg Unit :=
  modifyTask tid fun t => { t with state := st }

/-- `task_change_state_idempotent(ti, st)`: `task_change_state` unless the task is already in
`st`. -/
def taskChangeStateIdempotent (tid : Nat) (st : TaskState) : KM cfg Unit := do
  if (← task tid).state ≠ st then taskChangeState tid st

/-- A task sleeping on a `WOBJ_TASK` wait object for `tid` made runnable, and every other field
kept. -/
def Task.wake (tid : Nat) (t : Task cfg) : Task cfg :=
  if t.state = .sleeping ∧ t.wobj = ⟨.task, tid⟩ then { t with state := .runnable } else t

/-- The tasks with every task sleeping on a `WOBJ_TASK` wait object for `tid` made runnable. -/
def wakeWaiters (tasks : Nat → Option (Task cfg)) (tid : Nat) : Nat → Option (Task cfg) :=
  fun u => (tasks u).map (Task.wake tid)

/-- Modelled from the spec: `wake_up_tasks_waiting_on(ti, r)`, whose definition is outside the
sources, "wakes any waiter" observing the stop or the continuation of `ti`: every task asleep on a
`WOBJ_TASK` wait object for `ti` becomes `RUNNABLE`.  The spec says nothing else about a woken
task; the model changes nothing else, and no result of this development reads the wait object of a
task this call has woken. -/
def wakeUpTasksWaitingOn (tid : Nat) (r : WakeReason) : KM cfg Unit := fun s =>
  .ret () { s with tasks := wakeWaiters s.tasks tid, trace := .wakeUp tid r :: s.trace }

def getCurrPdir : KM cfg Nat := fun s => .ret s.currPdir s

def setCurrPdir (pdir : Nat) : KM cfg Unit := fun s => .ret () { s with currPdir := pdir }

/-- The `n` bytes at `addr`, or `none` when one of them is not mapped. -/
def UserMem.read (m : UserMem) (addr n : Nat) : Option (List UInt8) :=
  (List.range n).mapM fun i => m.byte (addr + i)

/-- Whether the `n` bytes at `addr` may all be written. -/
def UserMem.canWrite (m : UserMem) (addr n : Nat) : Bool :=
  (List.range n).all fun i => m.writable (addr + i)

/-- The memory with `bytes` written at `addr`. -/
def UserMem.write (m : UserMem) (addr : Nat) (bytes : List UInt8) : UserMem :=
  { m with
    byte := fun a => if addr ≤ a ∧ a < addr + bytes.length then bytes[a - addr]? else m.byte a }

/-- `copy_from_user(dst, addr, n)`: the bytes read, or `none` when the copy faults. -/
def copyFromUser (addr n : Nat) : KM cfg (Option (List UInt8)) := fun s =>
  .ret (s.mem.read addr n) s

/-- `copy_to_user(addr, src, n)`: writes the bytes when all of them may be written, and reports
whether it did. -/
def copyToUser (addr : Nat) (bytes : List UInt8) : KM cfg Bool := fun s =>
  if s.mem.canWrite addr bytes.length then .ret true { s with mem := s.mem.write addr bytes }
  else .ret false s

/-! ### The equations of the primitives -/

section Equations

variable (s : Kernel cfg)

@[simp] theorem assert_apply (p : Prop) [Decidable p] :
    assert p s = if p then .ret () s else .exit .assertionFailed s := rfl

@[simp] theorem terminateProcess_apply (c t : Int) :
    (terminateProcess c t : KM cfg α) s = .exit (.terminateProcess c t) s := rfl

@[simp] theorem contextSwitch_apply (r : Regs) :
    (contextSwitch r : KM cfg α) s = .exit (.contextSwitch r) s := rfl

@[simp] theorem panic_apply (msg : String) : (panic msg : KM cfg α) s = .exit (.panic msg) s :=
  rfl

@[simp] theorem disablePreemption_apply :
    disablePreemption s = .ret () { s with preemptDepth := s.preemptDepth + 1 } := rfl

@[simp] theorem enablePreemption_apply :
    enablePreemption s = .ret () { s with preemptDepth := s.preemptDepth - 1 } := rfl

@[simp] theorem enablePreemptionNosched_apply :
    enablePreemptionNosched s = .ret () { s with preemptDepth := s.preemptDepth - 1 } := rfl

@[simp] theorem isPreemptionEnabled_apply :
    isPreemptionEnabled s = .ret (s.preemptDepth == 0) s := rfl

@[simp] theorem getCurrTask_apply : getCurrTask s = .ret s.curr s := rfl

@[simp] theorem setCurrTask_apply (tid : Nat) :
    setCurrTask tid s = .ret () { s with curr := some tid } := rfl

@[simp] theorem getTask_apply (tid : Int) :
    getTask tid s = .ret (if 0 ≤ tid then s.tasks tid.toNat else none) s := rfl

@[simp] theorem emit_apply (e : Event) : emit e s = .ret () { s with trace := e :: s.trace } :=
  rfl

@[simp] theorem getCurrPdir_apply : getCurrPdir s = .ret s.currPdir s := rfl

@[simp] theorem setCurrPdir_apply (pdir : Nat) :
    setCurrPdir pdir s = .ret () { s with currPdir := pdir } := rfl

@[simp] theorem wakeUpTasksWaitingOn_apply (tid : Nat) (r : WakeReason) :
    wakeUpTasksWaitingOn tid r s =
      .ret () { s with tasks := wakeWaiters s.tasks tid, trace := .wakeUp tid r :: s.trace } := rfl

variable {s}

@[simp] theorem copyFromUser_apply (addr n : Nat) :
    copyFromUser addr n s = .ret (s.mem.read addr n) s := rfl

@[simp] theorem copyToUser_apply (addr : Nat) (bytes : List UInt8) :
    copyToUser addr bytes s =
      if s.mem.canWrite addr bytes.length then .ret true { s with mem := s.mem.write addr bytes }
      else .ret false s := rfl

theorem currTask_of_some {c : Nat} (h : s.curr = some c) : currTask s = .ret c s := by
  simp [currTask, h]

theorem task_of_some {tid : Nat} {t : Task cfg} (h : s.tasks tid = some t) :
    task tid s = .ret t s := by simp [task, h]

theorem task_of_none {tid : Nat} (h : s.tasks tid = none) : task tid s = .exit .badPointer s := by
  simp [task, h]

theorem proc_of_some {pid : Nat} {p : Process cfg} (h : s.procs pid = some p) :
    proc pid s = .ret p s := by simp [proc, h]

theorem modifyTask_of_some {tid : Nat} {t : Task cfg} (h : s.tasks tid = some t)
    (f : Task cfg → Task cfg) :
    modifyTask tid f s = .ret () { s with tasks := Function.update s.tasks tid (some (f t)) } := by
  simp [modifyTask, h]

theorem modifyTask_ret {tid : Nat} {f : Task cfg → Task cfg} {s' : Kernel cfg}
    (h : modifyTask tid f s = .ret () s') :
    ∃ t, s.tasks tid = some t ∧
      s' = { s with tasks := Function.update s.tasks tid (some (f t)) } := by
  cases ht : s.tasks tid with
  | none => simp [modifyTask, ht] at h
  | some t =>
    rw [modifyTask_of_some ht] at h
    exact ⟨t, rfl, (Outcome.ret.inj h).2.symm⟩

theorem taskChangeStateIdempotent_of_some {tid : Nat} {t : Task cfg} (h : s.tasks tid = some t)
    (st : TaskState) :
    taskChangeStateIdempotent tid st s =
      .ret () { s with tasks := Function.update s.tasks tid (some { t with state := st }) } := by
  by_cases hs : t.state = st
  · subst hs
    show _ = Outcome.ret () { s with tasks := Function.update s.tasks tid (some t) }
    rw [← h, Function.update_eq_self]
    simp [taskChangeStateIdempotent, task, h]
  · simp [taskChangeStateIdempotent, task, h, hs, taskChangeState, modifyTask]

theorem modifyProc_of_some {pid : Nat} {p : Process cfg} (h : s.procs pid = some p)
    (f : Process cfg → Process cfg) :
    modifyProc pid f s = .ret () { s with procs := Function.update s.procs pid (some (f p)) } := by
  simp [modifyProc, h]

/-- The current task is `t`, of the process `p`. -/
def Kernel.CurrProc (s : Kernel cfg) (t : Task cfg) (p : Process cfg) : Prop :=
  ∃ c, s.curr = some c ∧ s.tasks c = some t ∧ s.procs t.pid = some p

/-- `get_curr_proc()` reads the current task's process, and changes nothing. -/
theorem getCurrProc_ret {p : Process cfg} {s' : Kernel cfg} (h : getCurrProc s = .ret p s') :
    s' = s ∧ ∃ t, s.CurrProc t p := by
  cases hc : s.curr with
  | none => simp [getCurrProc, currTask, hc] at h
  | some c =>
    cases ht : s.tasks c with
    | none => simp [getCurrProc, currTask, task, hc, ht] at h
    | some t =>
      cases hp : s.procs t.pid with
      | none => simp [getCurrProc, currTask, task, proc, hc, ht, hp] at h
      | some p' =>
        simp only [getCurrProc, KM.bind_apply, currTask, hc, Outcome.bind_ret, task_of_some ht,
          proc_of_some hp, Outcome.ret.injEq] at h
        obtain ⟨rfl, rfl⟩ := h
        exact ⟨rfl, t, c, hc, ht, hp⟩

/-- There is one current task, and it has one process. -/
theorem Kernel.CurrProc.unique {t t' : Task cfg} {p p' : Process cfg} (h : s.CurrProc t p)
    (h' : s.CurrProc t' p') : t' = t ∧ p' = p := by
  obtain ⟨c, hc, ht, hp⟩ := h
  obtain ⟨c', hc', ht', hp'⟩ := h'
  obtain rfl : c' = c := Option.some_inj.1 (hc'.symm.trans hc)
  obtain rfl : t' = t := Option.some_inj.1 (ht'.symm.trans ht)
  exact ⟨rfl, Option.some_inj.1 (hp'.symm.trans hp)⟩

end Equations

end Tilck
