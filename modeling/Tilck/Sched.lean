import Tilck.Signal
/-!
**Kernel threads, the context switch and the fault handlers.**

The RISC-V part of the process code: `kthread_create2`, which builds a new kernel thread's
registers and publishes it with preemption disabled; `switch_to_task`, which marks the target
running, saves and restores FPU state lazily, switches the address space, checks the pending
signals on the way to user mode and ends in `context_switch`; and the three fault handlers,
which panic in a kernel context and otherwise send the fault's signal to the current task.

The external calls of `kthread_create2` — `create_new_kernel_tid()` and `allocate_new_thread()`
— are arguments of the model: the thread id the first returns (negative when the ids are
exhausted) and the kernel stack of the thread the second allocates (`none` for `NULL`).  The
interrupt bookkeeping at the end of `switch_to_task` (`disable_interrupts_forced`, the nested
interrupt counters, the kernel stack reset) touches no state the model keeps.

Main definitions:

* `Tilck.allocateNewThread`, `Tilck.kthreadCreate2`;
* `Tilck.isFpuEnabledForTask`, `Tilck.switchToTask`;
* `Tilck.handleFatalError`, `Tilck.handleFault` and the three handlers
  `Tilck.handleGenericFaultInt`, `Tilck.handleInstIllegalFaultInt`, `Tilck.handleBusFaultInt`;
* `Tilck.setupUsermodeTaskRegs`.
-/

set_option relaxedAutoImplicit false
set_option autoImplicit false

namespace Tilck

variable {cfg : Config}

/-! ### Kernel threads -/

/-- Modelled from the spec: `allocate_new_thread(pi, tid, alloc_bufs)`, declared outside the
sources, "allocates task and optional buffer storage": a task of the process `pid` with nothing
pending, not stopped, not yet in any state, whose kernel stack is `kstack`, or `NULL` when the
allocation fails. -/
def allocateNewThread (pid : Nat) (kstack : Option Nat) : Option (Task cfg) :=
  kstack.map fun k =>
    { pid, state := .invalid, stateRegs := {}, runningInKernel := false, stopped := false,
      vforkStopped := false, wobj := ⟨.none, 0⟩, wstatus := 0, pending := fun _ => 0,
      timeslice := 0, timerReady := false, fpuRegs := false, kernelStack := k,
      kthreadName := "", workerThread := 0 }

/-- `add_task(ti)`: the task becomes visible under its thread id. -/
def addTask (tid : Nat) (t : Task cfg) : KM cfg Unit := fun s =>
  .ret () { s with tasks := Function.update s.tasks tid (some t) }

/-- `kthread_create2(func, name, fl, arg)`, where `newTid` is what `create_new_kernel_tid()`
returns and `kstack` what `allocate_new_thread()` allocates.  Both error paths jump to `end:`,
which follows `enable_preemption()`. -/
def kthreadCreate2 (func : Nat) (name : String) (fl arg : Nat) (newTid : Int)
    (kstack : Option Nat) : KM cfg Int := do
  let r : Regs :=
    { kernelResumePc := cfg.asmTrapEntryResume, sepc := func,
      sstatus := SR_SPIE ||| SR_SPP ||| SR_SIE ||| SR_SUM }
  disablePreemption
  if newTid < 0 then
    pure (-EAGAIN)
  else
    match (allocateNewThread 0 kstack : Option (Task cfg)) with
    | none => pure (-ENOMEM)
    | some t =>
      assert t.isKernelThread
      let name := if name.front = '&' then name.drop 1 else name
      let r := { r with a0 := arg, ra := cfg.kthreadExit, sp := t.kernelStack }
      let t := { t with kthreadName := name, state := .runnable, runningInKernel := true }
      let t := { t with stateRegs := r }
      let t := if fl &&& KTH_WORKER_THREAD != 0 then { t with workerThread := arg } else t
      addTask newTid.toNat t
      enablePreemption
      pure newTid

/-- `setup_usermode_task_regs`: the registers of a user task about to enter user mode. -/
def setupUsermodeTaskRegs (entry stackAddr : Nat) (cfg : Config) : Regs :=
  { kernelResumePc := cfg.asmTrapEntryResume, sepc := entry, sp := 0, usersp := stackAddr,
    sstatus := SR_SPIE ||| SR_SUM }

/-! ### What `kthread_create2` does -/

section Kthread

variable {s s' : Kernel cfg} {func fl arg : Nat} {name : String} {newTid rc : Int}
  {kstack : Option Nat}

/-- **What `kthread_create2` does when it returns**: on an error path, a negative error with the
preemption counter one higher than at entry; otherwise the new thread id, with a runnable kernel
thread published under it, with nothing pending, and the counter as at entry. -/
theorem kthreadCreate2_ret_task
    (h : kthreadCreate2 func name fl arg newTid kstack s = .ret rc s') :
    rc < 0 ∧ s' = { s with preemptDepth := s.preemptDepth + 1 } ∨
      0 ≤ newTid ∧ rc = newTid ∧ ∃ t : Task cfg, t.state = .runnable ∧ t.isKernelThread ∧
        t.pending = (fun _ => 0) ∧
        s' = { s with tasks := Function.update s.tasks newTid.toNat (some t) } := by
  by_cases hn : newTid < 0
  · simp only [kthreadCreate2, KM.bind_apply, disablePreemption_apply, Outcome.bind_ret, hn,
      ite_true, KM.pure_apply, Outcome.ret.injEq] at h
    exact .inl ⟨by simp [← h.1, EAGAIN], h.2.symm⟩
  cases kstack with
  | none =>
    simp only [kthreadCreate2, KM.bind_apply, disablePreemption_apply, Outcome.bind_ret, hn,
      ite_false, allocateNewThread, Option.map_none', KM.pure_apply, Outcome.ret.injEq] at h
    exact .inl ⟨by simp [← h.1, ENOMEM], h.2.symm⟩
  | some k =>
    simp only [kthreadCreate2, KM.bind_apply, disablePreemption_apply, Outcome.bind_ret, hn,
      ite_false, allocateNewThread, Option.map_some', assert_apply, Task.isKernelThread,
      beq_self_eq_true, ite_true, addTask, enablePreemption_apply, KM.pure_apply,
      Nat.add_sub_cancel, Outcome.ret.injEq] at h
    refine .inr ⟨not_lt.1 hn, h.1.symm, _, ?_, ?_, ?_, h.2.symm⟩ <;> split_ifs <;> rfl

/-- The same, without what the new thread has pending. -/
theorem kthreadCreate2_ret (h : kthreadCreate2 func name fl arg newTid kstack s = .ret rc s') :
    rc < 0 ∧ s' = { s with preemptDepth := s.preemptDepth + 1 } ∨
      0 ≤ newTid ∧ rc = newTid ∧ ∃ t : Task cfg, t.state = .runnable ∧ t.isKernelThread ∧
        s' = { s with tasks := Function.update s.tasks newTid.toNat (some t) } :=
  (kthreadCreate2_ret_task h).imp id fun ⟨h0, hrc, t, hst, hk, _, hs⟩ => ⟨h0, hrc, t, hst, hk, hs⟩

/-- **The error paths of `kthread_create2` leave preemption disabled**: when the thread ids are
exhausted (`create_new_kernel_tid()` returns `-1`) or the thread cannot be allocated, the call
returns its error with the preemption counter one higher than at entry, from any state. -/
theorem kthreadCreate2_error_keeps_preemption_disabled (func fl arg tid : Nat) (name : String)
    (kstack : Option Nat) (s : Kernel cfg) :
    kthreadCreate2 func name fl arg (-1) kstack s =
        .ret (-EAGAIN) { s with preemptDepth := s.preemptDepth + 1 } ∧
      kthreadCreate2 func name fl arg tid none s =
        .ret (-ENOMEM) { s with preemptDepth := s.preemptDepth + 1 } := by
  constructor <;> simp [kthreadCreate2, allocateNewThread, (Int.natCast_nonneg tid).not_lt]

/-- A successful `kthread_create2` with a kernel stack `k` publishes, under the thread id it
returns, a runnable kernel thread whose saved registers enter `func` with `arg`, return to
`kthread_exit` and use the stack `k`, in supervisor mode. -/
theorem kthreadCreate2_success_regs {k : Nat}
    (h : kthreadCreate2 func name fl arg newTid (some k) s = .ret rc s') (hrc : 0 ≤ rc) :
    rc = newTid ∧ ∃ t : Task cfg, t.state = .runnable ∧ t.isKernelThread ∧
      t.stateRegs =
        { kernelResumePc := cfg.asmTrapEntryResume
          sepc := func
          sstatus := SR_SPIE ||| SR_SPP ||| SR_SIE ||| SR_SUM
          a0 := arg
          ra := cfg.kthreadExit
          sp := k } ∧
      s' = { s with tasks := Function.update s.tasks newTid.toNat (some t) } := by
  by_cases hn : newTid < 0
  · simp only [kthreadCreate2, KM.bind_apply, disablePreemption_apply, Outcome.bind_ret, hn,
      ite_true, KM.pure_apply, Outcome.ret.injEq] at h
    simp [← h.1, EAGAIN] at hrc
  simp only [kthreadCreate2, KM.bind_apply, disablePreemption_apply, Outcome.bind_ret, hn,
    ite_false, allocateNewThread, Option.map_some', assert_apply, Task.isKernelThread,
    beq_self_eq_true, ite_true, addTask, enablePreemption_apply, KM.pure_apply,
    Nat.add_sub_cancel, Outcome.ret.injEq] at h
  refine ⟨h.1.symm, _, ?_, ?_, ?_, h.2.symm⟩ <;> split_ifs <;> rfl

end Kthread

/-! ### The context switch -/

/-- `is_fpu_enabled_for_task`: the task has an FPU buffer and its saved `sstatus` has `SR_FS`. -/
def isFpuEnabledForTask (t : Task cfg) : Bool := t.fpuRegs && t.stateRegs.sstatus &&& SR_FS != 0

/-- `save_curr_fpu_ctx_if_enabled`. -/
def saveCurrFpuCtxIfEnabled : KM cfg Unit := do
  let curr ← currTask
  if isFpuEnabledForTask (← task curr) then
    emit (.fpuSave curr)

/-- The block of `switch_to_task` that runs for a user task `t` only, where `state` holds `ti`'s
saved registers: the address-space switch, the signal check on the way back to user mode, and the
FPU restore. -/
def switchToUserTask (ti : Nat) (t : Task cfg) (state : Regs) : KM cfg Unit := do
  let pdir := (← proc t.pid).pdir
  (if (← getCurrPdir) ≠ pdir then setCurrPdir pdir else pure ())
  (if ¬ t.runningInKernel ∧ state.sstatus &&& SR_SPP = 0 then do
      let _ ← processSignals
      pure ()
    else pure ())
  (if isFpuEnabledForTask (← task ti) then emit (.fpuRestore ti) else pure ())

/-- The end of `switch_to_task`, "as fast as possible": preemption is enabled again without a
reschedule, `ti` becomes the current task, and control moves into its saved registers `state`. -/
def switchToTaskFinish (ti : Nat) (state : Regs) : KM cfg Unit := do
  enablePreemptionNosched
  assert (← isPreemptionEnabled)
  setCurrTask ti
  modifyTask ti fun t => { t with timerReady := false }
  contextSwitch state

/-- `switch_to_task(ti)`.  The signal check calls `process_signals` of `kernel/signal.c`, which
reads the current task; `set_curr_task(ti)` comes only later. -/
def switchToTask (ti : Nat) : KM cfg Unit := do
  let state := (← task ti).stateRegs
  assert ((← getCurrTask) ≠ none)
  let curr ← currTask
  (if ti ≠ curr then do
      assert ((← task curr).state ≠ .running)
      assert ((← task ti).state = .runnable)
    else pure ())
  assert (¬ (← isPreemptionEnabled))
  taskChangeStateIdempotent ti .running
  modifyTask ti fun t => { t with timeslice := 0 }
  let c ← task curr
  (if ¬ c.isKernelThread ∧ c.state ≠ .zombie then saveCurrFpuCtxIfEnabled else pure ())
  let t ← task ti
  (if ¬ t.isKernelThread then switchToUserTask ti t state else pure ())
  switchToTaskFinish ti state

/-! ### What the context switch does -/

/-- The part of the state a returning block of `switch_to_task` leaves alone. -/
def Kernel.SameSched (s s' : Kernel cfg) : Prop :=
  s'.tasks = s.tasks ∧ s'.curr = s.curr ∧ s'.preemptDepth = s.preemptDepth ∧ s'.procs = s.procs

section Switch

variable {s s' : Kernel cfg} {ti : Nat} {t : Task cfg} {state : Regs} {e : Exit}

/-- The state the FPU-save step of `switch_to_task` leaves, when its condition is `P` and the
current task is `c`, that is `tc`. -/
def fpuSaved (P : Prop) [Decidable P] (c : Nat) (tc : Task cfg) (s : Kernel cfg) : Kernel cfg :=
  if P ∧ isFpuEnabledForTask tc then { s with trace := .fpuSave c :: s.trace } else s

@[simp] theorem fpuSaved_tasks (P : Prop) [Decidable P] (c : Nat) (tc : Task cfg) :
    (fpuSaved P c tc s).tasks = s.tasks := by
  unfold fpuSaved; split_ifs <;> rfl

@[simp] theorem fpuSaved_curr (P : Prop) [Decidable P] (c : Nat) (tc : Task cfg) :
    (fpuSaved P c tc s).curr = s.curr := by
  unfold fpuSaved; split_ifs <;> rfl

@[simp] theorem fpuSaved_preemptDepth (P : Prop) [Decidable P] (c : Nat) (tc : Task cfg) :
    (fpuSaved P c tc s).preemptDepth = s.preemptDepth := by
  unfold fpuSaved; split_ifs <;> rfl

@[simp] theorem fpuSaved_procs (P : Prop) [Decidable P] (c : Nat) (tc : Task cfg) :
    (fpuSaved P c tc s).procs = s.procs := by
  unfold fpuSaved; split_ifs <;> rfl

theorem ite_saveCurrFpuCtxIfEnabled (P : Prop) [Decidable P] {c : Nat} {tc : Task cfg}
    (hc : s.curr = some c) (htc : s.tasks c = some tc) :
    (if P then saveCurrFpuCtxIfEnabled else pure ()) s = .ret () (fpuSaved P c tc s) := by
  by_cases hP : P <;> by_cases hf : isFpuEnabledForTask tc <;>
    simp [saveCurrFpuCtxIfEnabled, currTask_of_some hc, task_of_some htc, hP, hf, fpuSaved]

/-- The user-task block of `switch_to_task`, once the task's process `p` and the target `t'` are
known: the address space becomes `p`'s, the signal check may run, and the FPU state may be
restored. -/
theorem switchToUserTask_eq {p : Process cfg} {t' : Task cfg} (hp : s.procs t.pid = some p)
    (ht : s.tasks ti = some t') :
    switchToUserTask ti t state s =
      (if ¬ t.runningInKernel ∧ state.sstatus &&& SR_SPP = 0 then
          processSignals { s with currPdir := p.pdir }
        else .ret false { s with currPdir := p.pdir }).bind fun _ s₂ =>
        .ret () (if isFpuEnabledForTask t' then { s₂ with trace := .fpuRestore ti :: s₂.trace }
          else s₂) := by
  have hpdir : (if s.currPdir ≠ p.pdir then setCurrPdir p.pdir else pure ()) s =
      (.ret () { s with currPdir := p.pdir } : Outcome cfg Unit) := by
    split_ifs with h
    · rfl
    · rw [not_not] at h
      rw [← h]
      rfl
  simp only [switchToUserTask, KM.bind_apply, proc_of_some hp, Outcome.bind_ret, getCurrPdir_apply,
    hpdir]
  by_cases hc : ¬ t.runningInKernel ∧ state.sstatus &&& SR_SPP = 0
  · simp only [if_pos hc]
    rcases hps : processSignals { s with currPdir := p.pdir } with ⟨b, s₂⟩ | ⟨e, s₂⟩
    · obtain ⟨-, rfl, -⟩ := processSignals_ret hps
      by_cases hf : isFpuEnabledForTask t' <;> simp [task, ht, hf, hps]
    · simp [hps]
  · simp only [if_neg hc]
    by_cases hf : isFpuEnabledForTask t' <;> simp [task, ht, hf]

/-- `process_signals` ends otherwise than by a failed assertion or a missing task only past its
assertion and its lookup of the current task. -/
theorem processSignals_guards {s' : Kernel cfg} (h : processSignals s = .exit e s')
    (ha : e ≠ .assertionFailed) (hb : e ≠ .badPointer) :
    ∃ c tc, s.curr = some c ∧ s.tasks c = some tc ∧ s.preemptDepth ≠ 0 := by
  have hd : s.preemptDepth ≠ 0 := fun hd => by simp [processSignals, hd, ha.symm] at h
  obtain ⟨c, hc⟩ : ∃ c, s.curr = some c := Option.ne_none_iff_exists'.1 fun hc => by
    simp [processSignals, currTask, hc, hd, hb.symm] at h
  obtain ⟨tc, htc⟩ : ∃ tc, s.tasks c = some tc := Option.ne_none_iff_exists'.1 fun htc => by
    simp [processSignals, currTask, task, hc, htc, hd, hb.symm] at h
  exact ⟨c, tc, hc, htc, hd⟩

theorem processSignals_exit {s' : Kernel cfg} (h : processSignals s = .exit e s') (r : Regs) :
    e ≠ .contextSwitch r := by
  rintro rfl
  obtain ⟨c, tc, hc, htc, hd⟩ := processSignals_guards h (by simp) (by simp)
  rw [processSignals_eq hc htc hd] at h
  split_ifs at h
  cases h

/-- **`process_signals` terminates a process only for the first signal the current task has
pending**, with exit code `0`. -/
theorem processSignals_terminateProcess {s' : Kernel cfg} {code sig : Int}
    (h : processSignals s = .exit (.terminateProcess code sig) s') :
    code = 0 ∧ ∃ c tc, s.curr = some c ∧ s.tasks c = some tc ∧
      sig = getFirstPendingSig tc.pending ∧ 0 < sig := by
  obtain ⟨c, tc, hc, htc, hd⟩ := processSignals_guards h (by simp) (by simp)
  rw [processSignals_eq hc htc hd] at h
  split_ifs at h with hsig
  obtain ⟨⟨⟩, -⟩ := Outcome.exit.inj h
  exact ⟨rfl, c, tc, hc, htc, rfl, hsig⟩

/-- The state `process_signals` terminates a process in has the tasks and the current task it
found. -/
theorem processSignals_terminateProcess_state {s' : Kernel cfg} {code sig : Int}
    (h : processSignals s = .exit (.terminateProcess code sig) s') :
    s'.tasks = s.tasks ∧ s'.curr = s.curr := by
  obtain ⟨c, tc, hc, htc, hd⟩ := processSignals_guards h (by simp) (by simp)
  rw [processSignals_eq hc htc hd] at h
  split_ifs at h
  obtain ⟨-, rfl⟩ := Outcome.exit.inj h
  exact ⟨rfl, rfl⟩

/-- The user-task block of `switch_to_task` terminates a process only in its signal check. -/
theorem switchToUserTask_terminateProcess {t' : Task cfg} {code sig : Int}
    (ht : s.tasks ti = some t')
    (h : switchToUserTask ti t state s = .exit (.terminateProcess code sig) s') :
    ∃ p : Process cfg,
      processSignals { s with currPdir := p.pdir } = .exit (.terminateProcess code sig) s' := by
  cases hp : s.procs t.pid with
  | none => simp [switchToUserTask, proc, hp] at h
  | some p =>
  rw [switchToUserTask_eq hp ht] at h
  rcases Outcome.bind_eq_exit h with h | ⟨_, _, -, h⟩
  · split_ifs at h
    exact ⟨p, h⟩
  · simp at h

/-- **What the user-task block of `switch_to_task` can do**: return with the tasks, the current
task and the preemption counter unchanged, or end in another way than `context_switch`. -/
theorem switchToUserTask_cases {t' : Task cfg} (ht : s.tasks ti = some t') :
    (∃ s', switchToUserTask ti t state s = .ret () s' ∧ s.SameSched s') ∨
      ∃ e s', switchToUserTask ti t state s = .exit e s' ∧ ∀ r, e ≠ .contextSwitch r := by
  cases hp : s.procs t.pid with
  | none =>
    exact .inr ⟨.badPointer, s, by simp [switchToUserTask, proc, hp], fun r h => by cases h⟩
  | some p =>
  rw [switchToUserTask_eq hp ht]
  by_cases hc : ¬ t.runningInKernel ∧ state.sstatus &&& SR_SPP = 0
  · simp only [if_pos hc]
    rcases hps : processSignals { s with currPdir := p.pdir } with ⟨b, s₂⟩ | ⟨e, s₂⟩
    · obtain ⟨-, rfl, -⟩ := processSignals_ret hps
      refine .inl ⟨_, rfl, ?_⟩
      split_ifs <;> exact ⟨rfl, rfl, rfl, rfl⟩
    · exact .inr ⟨e, s₂, rfl, processSignals_exit hps⟩
  · simp only [if_neg hc]
    refine .inl ⟨_, rfl, ?_⟩
    split_ifs <;> exact ⟨rfl, rfl, rfl, rfl⟩

theorem switchToTaskFinish_eq (ht : s.tasks ti = some t) :
    switchToTaskFinish ti state s =
      if s.preemptDepth - 1 = 0 then
        .exit (.contextSwitch state)
          { s with preemptDepth := 0, curr := some ti,
                   tasks := Function.update s.tasks ti (some { t with timerReady := false }) }
      else .exit .assertionFailed { s with preemptDepth := s.preemptDepth - 1 } := by
  by_cases hd : s.preemptDepth - 1 = 0 <;> simp [switchToTaskFinish, hd, modifyTask, ht]

/-- The checks `switch_to_task` makes on the outgoing and the incoming task pass where they
hold. -/
theorem switchToTask_checks_pass {c : Nat} {tc : Task cfg} (htc : s.tasks c = some tc)
    (ht : s.tasks ti = some t) (hrun : ti ≠ c → tc.state ≠ .running ∧ t.state = .runnable) :
    (if ¬ ti = c then (do
      assert (¬ (← task c).state = .running)
      assert ((← task ti).state = .runnable)) else pure () : KM cfg Unit) s = .ret () s := by
  by_cases hic : ti = c
  · simp [hic]
  · simp [hic, task, htc, ht, hrun hic]

/-- **`switch_to_task` past its assertions**: with `ti` marked running and its timeslice reset, the
FPU state of the current task possibly saved, it runs the user-task block for a user task and then
the end of the switch. -/
theorem switchToTask_eq {c : Nat} {tc : Task cfg} (hc : s.curr = some c) (htc : s.tasks c = some tc)
    (ht : s.tasks ti = some t) (hrun : ti ≠ c → tc.state ≠ .running ∧ t.state = .runnable)
    (hd : s.preemptDepth ≠ 0) :
    ∃ s₂ : Kernel cfg, switchToTask ti s =
        ((if ¬ t.isKernelThread then
            switchToUserTask ti { t with state := .running, timeslice := 0 } t.stateRegs
          else pure ()) s₂).bind (fun _ => switchToTaskFinish ti t.stateRegs) ∧
      s₂.tasks = Function.update s.tasks ti (some { t with state := .running, timeslice := 0 }) ∧
      s₂.curr = s.curr ∧ s₂.preemptDepth = s.preemptDepth ∧ s₂.procs = s.procs := by
  have hpass := switchToTask_checks_pass htc ht hrun
  have htc₁ : Function.update s.tasks ti (some { t with state := .running, timeslice := 0 }) c =
      some (if c = ti then { t with state := .running, timeslice := 0 } else tc) := by
    by_cases hic : c = ti
    · subst hic
      simp
    · simp [Function.update_noteq hic, htc, hic]
  simp only [switchToTask, KM.bind_apply, task, ht, Outcome.bind_ret, getCurrTask_apply, hc,
    currTask_of_some hc, assert_apply, hpass, isPreemptionEnabled_apply, hd, ne_eq, reduceCtorEq,
    not_false_eq_true, ite_true, beq_iff_eq, Bool.false_eq_true, ite_false,
    taskChangeStateIdempotent_of_some ht, modifyTask, Function.update_same, Function.update_idem,
    htc₁]
  rw [ite_saveCurrFpuCtxIfEnabled _ rfl htc₁]
  simp only [Outcome.bind_ret, KM.bind_apply, task, fpuSaved_tasks, Function.update_same]
  exact ⟨_, rfl, by simp, by simp [hc], by simp, by simp⟩

/-- The task `c` after `ti` is marked running: its pending signals are as before. -/
theorem pending_after_running {c : Nat} {tc : Task cfg} (htc : s.tasks c = some tc)
    (ht : s.tasks ti = some t) :
    ∃ tc₁ : Task cfg, Function.update s.tasks ti
        (some { t with state := .running, timeslice := 0 }) c = some tc₁ ∧
      tc₁.pending = tc.pending := by
  by_cases hic : c = ti
  · subst hic
    obtain rfl := Option.some_inj.1 (htc.symm.trans ht)
    exact ⟨_, Function.update_same _ _ _, rfl⟩
  · exact ⟨tc, by rw [Function.update_noteq hic, htc], rfl⟩

/-- **The assertions of `switch_to_task`**: a switch that ends otherwise than by a failed
assertion or a missing task found the current task `c`, the outgoing task not running and the
target runnable unless the two are the same, and preemption disabled. -/
theorem switchToTask_guards (h : switchToTask ti s = .exit e s') (ha : e ≠ .assertionFailed)
    (hb : e ≠ .badPointer) :
    ∃ c tc t, s.curr = some c ∧ s.tasks c = some tc ∧ s.tasks ti = some t ∧
      (ti ≠ c → tc.state ≠ .running ∧ t.state = .runnable) ∧ s.preemptDepth ≠ 0 := by
  obtain ⟨t, ht⟩ : ∃ t, s.tasks ti = some t := Option.ne_none_iff_exists'.1 fun ht => by
    simp only [switchToTask, KM.bind_apply, task_of_none ht, Outcome.bind_exit] at h
    cases h; exact hb rfl
  obtain ⟨c, hc⟩ : ∃ c, s.curr = some c := Option.ne_none_iff_exists'.1 fun hc => by
    simp only [switchToTask, KM.bind_apply, task_of_some ht, Outcome.bind_ret, getCurrTask_apply,
      hc, assert_apply, ne_eq, not_true_eq_false, ite_false, Outcome.bind_exit] at h
    cases h; exact ha rfl
  -- past the lookup of the target and of the current task
  simp only [switchToTask, KM.bind_apply, task_of_some ht, Outcome.bind_ret, getCurrTask_apply,
    hc, assert_apply, ne_eq, reduceCtorEq, not_false_eq_true, ite_true, currTask_of_some hc] at h
  obtain ⟨tc, htc⟩ : ∃ tc, s.tasks c = some tc := Option.ne_none_iff_exists'.1 fun htc => by
    by_cases hic : ti = c
    · subst hic; simp [ht] at htc
    · simp only [hic, not_false_eq_true, ite_true, KM.bind_apply, task_of_none htc,
        Outcome.bind_exit] at h
      cases h; exact hb rfl
  have hrun : ti ≠ c → tc.state ≠ .running ∧ t.state = .runnable := fun hic => by
    by_contra hn
    by_cases h₁ : tc.state = .running
    · simp only [hic, not_false_eq_true, ite_true, KM.bind_apply, task_of_some htc, h₁,
        Outcome.bind_ret, assert_apply, ne_eq, not_true_eq_false, ite_false,
        Outcome.bind_exit] at h
      cases h; exact ha rfl
    · simp only [hic, not_false_eq_true, ite_true, KM.bind_apply, task_of_some htc,
        task_of_some ht, h₁, Outcome.bind_ret, assert_apply, ne_eq,
        show ¬ t.state = .runnable from fun h₂ => hn ⟨h₁, h₂⟩, ite_false, Outcome.bind_exit] at h
      cases h; exact ha rfl
  refine ⟨c, tc, t, hc, htc, ht, hrun, fun hd => ?_⟩
  simp only [switchToTask_checks_pass htc ht hrun, Outcome.bind_ret, KM.bind_apply,
    isPreemptionEnabled_apply, hd, beq_self_eq_true, assert_apply, not_true_eq_false, ite_false,
    Outcome.bind_exit] at h
  cases h; exact ha rfl

/-- **What a `switch_to_task` that ends in `context_switch` did**: it found the current task `c`
not running unless it is the target, and it made the target `ti` the current task, running with a
fresh timeslice, and moved into the registers `ti` had saved; the processes are as they were. -/
theorem switchToTask_contextSwitch {r : Regs}
    (h : switchToTask ti s = .exit (.contextSwitch r) s') :
    ∃ c tc t, s.curr = some c ∧ s.tasks c = some tc ∧ s.tasks ti = some t ∧
      (ti ≠ c → tc.state ≠ .running) ∧ r = t.stateRegs ∧ s'.curr = some ti ∧
      s'.tasks = Function.update s.tasks ti
        (some { t with state := .running, timeslice := 0, timerReady := false }) ∧
      s'.procs = s.procs := by
  obtain ⟨c, tc, t, hc, htc, ht, hrun, hd⟩ := switchToTask_guards h (by simp) (by simp)
  refine ⟨c, tc, t, hc, htc, ht, fun hic => (hrun hic).1, ?_⟩
  obtain ⟨s₂, heq, ht₂, -, -, hp₂⟩ := switchToTask_eq hc htc ht hrun hd
  have ht₂' : s₂.tasks ti = some { t with state := .running, timeslice := 0 } := by simp [ht₂]
  -- the user-task block returns with the tasks unchanged, or does not end in `context_switch`
  obtain ⟨s₃, h₃, e₃⟩ : ∃ s₃, (if ¬ t.isKernelThread then
      switchToUserTask ti { t with state := .running, timeslice := 0 } t.stateRegs
      else pure ()) s₂ = .ret () s₃ ∧ s₂.SameSched s₃ := by
    by_cases hk : t.isKernelThread
    · rw [if_neg (by simp [hk])]
      exact ⟨s₂, rfl, rfl, rfl, rfl, rfl⟩
    · rw [if_pos hk]
      refine (switchToUserTask_cases ht₂').elim id fun ⟨e, s₃, h₃, hne⟩ => ?_
      rw [heq, if_pos hk, h₃] at h
      exact absurd (Outcome.exit.inj h).1 (hne r)
  rw [heq, h₃, Outcome.bind_ret, switchToTaskFinish_eq (e₃.1 ▸ ht₂')] at h
  split_ifs at h
  · obtain ⟨⟨rfl⟩, rfl⟩ := Outcome.exit.inj h
    exact ⟨rfl, rfl, by simp [e₃.1, ht₂], e₃.2.2.2.trans hp₂⟩
  · cases h

/-- The end of `switch_to_task` never terminates a process. -/
theorem switchToTaskFinish_ne_terminateProcess {code sig : Int} :
    switchToTaskFinish ti state s ≠ .exit (.terminateProcess code sig) s' := fun h => by
  cases ht : s.tasks ti with
  | none =>
    by_cases hd : s.preemptDepth - 1 = 0 <;> simp [switchToTaskFinish, modifyTask, ht, hd] at h
  | some t =>
    rw [switchToTaskFinish_eq ht] at h
    split_ifs at h <;> cases h

/-- A switch ends in `terminate_process` only in its signal check: `process_signals`, run where
the target is marked running and the current task is the one the switch found. -/
theorem switchToTask_terminateProcess_check {code sig : Int}
    (h : switchToTask ti s = .exit (.terminateProcess code sig) s') :
    ∃ c tc t s₂, s.curr = some c ∧ s.tasks c = some tc ∧ s.tasks ti = some t ∧
      s₂.curr = s.curr ∧
      s₂.tasks = Function.update s.tasks ti (some { t with state := .running, timeslice := 0 }) ∧
      processSignals s₂ = .exit (.terminateProcess code sig) s' := by
  obtain ⟨c, tc, t, hc, htc, ht, hrun, hd⟩ := switchToTask_guards h (by simp) (by simp)
  obtain ⟨s₂, heq, ht₂, hc₂, -, -⟩ := switchToTask_eq hc htc ht hrun hd
  rw [heq] at h
  rcases Outcome.bind_eq_exit h with hu | ⟨_, _, -, hf⟩
  · -- the user-task block ended the switch, in its signal check
    split_ifs at hu
    obtain ⟨p, hps⟩ := switchToUserTask_terminateProcess
      (show s₂.tasks ti = some { t with state := .running, timeslice := 0 } by simp [ht₂]) hu
    exact ⟨c, tc, t, { s₂ with currPdir := p.pdir }, hc, htc, ht, hc₂, ht₂, hps⟩
  · exact absurd hf switchToTaskFinish_ne_terminateProcess

/-- **A switch terminates a process only for the first signal the outgoing task has pending**:
`switch_to_task` reaches `terminate_process` only through `process_signals`, which reads the
current task, and exits with code `0`. -/
theorem switchToTask_terminateProcess {code sig : Int}
    (h : switchToTask ti s = .exit (.terminateProcess code sig) s') :
    code = 0 ∧ ∃ c tc, s.curr = some c ∧ s.tasks c = some tc ∧
      sig = getFirstPendingSig tc.pending ∧ 0 < sig := by
  obtain ⟨c, tc, t, s₂, hc, htc, ht, hc₂, ht₂, hps⟩ := switchToTask_terminateProcess_check h
  obtain ⟨rfl, c', tc₁, hc', htc₁, rfl, hsig⟩ := processSignals_terminateProcess hps
  obtain rfl : c' = c := Option.some_inj.1 (hc'.symm.trans (hc₂.trans hc))
  obtain ⟨tc₂, htc₂, hpend⟩ := pending_after_running htc ht
  obtain rfl : tc₁ = tc₂ := Option.some_inj.1 (htc₁.symm.trans (by rw [ht₂]; exact htc₂))
  exact ⟨rfl, c', tc, hc, htc, by rw [hpend], hsig⟩

/-- A switch that its signal check ends leaves the target marked running, and the current task as
it was: the check comes before `set_curr_task(ti)`. -/
theorem switchToTask_terminateProcess_tasks {code sig : Int}
    (h : switchToTask ti s = .exit (.terminateProcess code sig) s') :
    ∃ t, s.tasks ti = some t ∧ s'.curr = s.curr ∧
      s'.tasks = Function.update s.tasks ti
        (some { t with state := .running, timeslice := 0 }) := by
  obtain ⟨_, _, t, s₂, -, -, ht, hc₂, ht₂, hps⟩ := switchToTask_terminateProcess_check h
  obtain ⟨htasks, hcurr⟩ := processSignals_terminateProcess_state hps
  exact ⟨t, ht, hcurr.trans hc₂, htasks.trans ht₂⟩

/-- **The signal check of `switch_to_task` reads the outgoing task.**  Switching into a user task
`ti` on its way back to user mode, the switch terminates the current process exactly when the
current task `c` has a signal pending, with `c`'s first signal, and otherwise reaches
`context_switch` into `ti`'s saved registers, whatever `ti` has pending. -/
theorem switchToTask_checks_outgoing_task {c : Nat} {tc : Task cfg} {p : Process cfg}
    (hc : s.curr = some c) (htc : s.tasks c = some tc) (ht : s.tasks ti = some t)
    (hrun : ti ≠ c → tc.state ≠ .running ∧ t.state = .runnable) (hd : s.preemptDepth = 1)
    (hp : s.procs t.pid = some p) (huser : t.isKernelThread = false)
    (hk : t.runningInKernel = false) (hspp : t.stateRegs.sstatus &&& SR_SPP = 0) :
    (0 < getFirstPendingSig tc.pending → ∃ s',
      switchToTask ti s = .exit (.terminateProcess 0 (getFirstPendingSig tc.pending)) s') ∧
    (getFirstPendingSig tc.pending ≤ 0 → ∃ s',
      switchToTask ti s = .exit (.contextSwitch t.stateRegs) s') := by
  obtain ⟨s₂, heq, ht₂, hc₂, hd₂, hp₂⟩ := switchToTask_eq hc htc ht hrun (by omega)
  obtain ⟨tc₁, htc₁, hpend⟩ := pending_after_running htc ht
  rw [heq, if_pos (by simp [huser]), switchToUserTask_eq (by rw [hp₂]; exact hp)
      (show s₂.tasks ti = some { t with state := .running, timeslice := 0 } by simp [ht₂]),
    if_pos ⟨by simp [hk], hspp⟩,
    processSignals_eq (c := c) (t := tc₁) (by simp [hc₂, hc]) (by simp [ht₂, htc₁])
      (by simp [hd₂, hd]), hpend]
  refine ⟨fun hsig => ⟨_, by rw [if_pos hsig]; rfl⟩, fun hsig => ?_⟩
  rw [if_neg (not_lt.2 hsig), Outcome.bind_ret, Outcome.bind_ret,
    switchToTaskFinish_eq (t := { t with state := .running, timeslice := 0 })
      (by split_ifs <;> simp [ht₂])]
  exact ⟨_, by rw [if_pos (by split_ifs <;> simp [hd₂, hd])]⟩

/-- The outgoing task of the example switch: task 1, asleep, with nothing pending. -/
def sleeper : Task ilp32 := { (Task.ofPid 1 : Task ilp32) with state := .sleeping }

/-- The incoming task of the example switch: task 2, the main thread of process 2, runnable on
its way back to user mode, with `SIGTERM` pending. -/
def signalled : Task ilp32 :=
  { (Task.ofPid 2 : Task ilp32) with pending := addPendingSig (fun _ => 0) SIGTERM }

/-- The current task 1 is about to switch to task 2, with preemption disabled once. -/
def switchIntoSignalled : Kernel ilp32 :=
  { (Kernel.empty : Kernel ilp32) with
    tasks := fun u => if u = 1 then some sleeper else if u = 2 then some signalled else none
    procs := fun q => if q = 1 ∨ q = 2 then some Process.dfl else none
    curr := some 1
    preemptDepth := 1 }

/-- The switch into task 2, which has `SIGTERM` pending, reaches `context_switch`. -/
theorem switchToTask_checks_outgoing_task_into_signalled :
    switchIntoSignalled.curr = some 1 ∧ switchIntoSignalled.tasks 1 = some sleeper ∧
      switchIntoSignalled.tasks 2 = some signalled ∧
      (2 ≠ 1 → sleeper.state ≠ .running ∧ signalled.state = .runnable) ∧
      switchIntoSignalled.preemptDepth = 1 ∧
      switchIntoSignalled.procs signalled.pid = some Process.dfl ∧
      signalled.isKernelThread = false ∧ signalled.runningInKernel = false ∧
      signalled.stateRegs.sstatus &&& SR_SPP = 0 ∧
      ((0 < getFirstPendingSig sleeper.pending → ∃ s', switchToTask 2 switchIntoSignalled =
          .exit (.terminateProcess 0 (getFirstPendingSig sleeper.pending)) s') ∧
        (getFirstPendingSig sleeper.pending ≤ 0 → ∃ s', switchToTask 2 switchIntoSignalled =
          .exit (.contextSwitch signalled.stateRegs) s')) ∧
      getFirstPendingSig signalled.pending = SIGTERM ∧ getFirstPendingSig sleeper.pending = -1 :=
  ⟨rfl, rfl, rfl, fun _ => ⟨by decide, rfl⟩, rfl, rfl, rfl, rfl, rfl,
    switchToTask_checks_outgoing_task rfl rfl rfl (fun _ => ⟨by decide, rfl⟩) rfl rfl rfl rfl rfl,
    by decide, by decide⟩

/-! ### The first switch into a new kernel thread -/

/-- **A kernel thread that `kthread_create2` creates starts in its function.**  After a successful
`kthread_create2(func, name, fl, arg)`, which leaves the preemption counter as it found it, a
`switch_to_task` into the new thread, from a current task that is not running and with preemption
disabled once, skips the signal check (the thread is a kernel thread) and ends in `context_switch`
into registers that enter `func` with `arg`, return to `kthread_exit`, use the thread's own kernel
stack and stay in supervisor mode; the new thread is then the current task. -/
theorem kthreadCreate2_starts_in_func {func fl arg c k : Nat} {name : String} {newTid rc : Int}
    {tc : Task cfg}
    (h : kthreadCreate2 func name fl arg newTid (some k) s = .ret rc s') (hrc : 0 ≤ rc)
    (hc : s.curr = some c) (htc : s.tasks c = some tc) (hnr : tc.state ≠ .running)
    (hfresh : newTid.toNat ≠ c) (hd : s.preemptDepth = 1) :
    s'.preemptDepth = s.preemptDepth ∧
      ∃ r s₂, switchToTask rc.toNat s' = .exit (.contextSwitch r) s₂ ∧
        r.sepc = func ∧ r.a0 = arg ∧ r.ra = cfg.kthreadExit ∧ r.sp = k ∧
        r.sstatus &&& SR_SPP = SR_SPP ∧ s₂.curr = some rc.toNat := by
  obtain ⟨rfl, t, hst, hk, hregs, rfl⟩ := kthreadCreate2_success_regs h hrc
  have ht : (Function.update s.tasks rc.toNat (some t)) rc.toNat = some t := by simp
  obtain ⟨s₂, heq, ht₂, -, hd₂, -⟩ :=
    switchToTask_eq (s := { s with tasks := Function.update s.tasks rc.toNat (some t) }) hc
    (by simp [Function.update_noteq hfresh.symm, htc]) ht (fun _ => ⟨hnr, hst⟩) (by simp [hd])
  rw [heq, if_neg (by simp [hk]), KM.pure_apply, Outcome.bind_ret,
    switchToTaskFinish_eq (t := { t with state := .running, timeslice := 0 }) (by simp [ht₂]),
    if_pos (by simp [hd₂, hd])]
  refine ⟨rfl, t.stateRegs, _, rfl, ?_⟩
  rw [hregs]
  exact ⟨rfl, rfl, rfl, rfl,
    (by decide : (SR_SPIE ||| SR_SPP ||| SR_SIE ||| SR_SUM) &&& SR_SPP = SR_SPP), rfl⟩

/-- Task 1 of process 1, runnable and current, with preemption disabled once. -/
def creatorCurrent : Kernel ilp32 :=
  { (Kernel.withTask 1 : Kernel ilp32) with curr := some 1, preemptDepth := 1 }

/-- The state after `kthread_create2(0x100, "worker", 0, 7)` from `creatorCurrent`, with thread id
5 and a kernel stack at `0x8000`. -/
def workerCreated : Kernel ilp32 :=
  (kthreadCreate2 0x100 "worker" 0 7 5 (some 0x8000) creatorCurrent).state

theorem kthreadCreate2_starts_in_func_worker :
    kthreadCreate2 0x100 "worker" 0 7 5 (some 0x8000) creatorCurrent = .ret 5 workerCreated ∧
      (0 : Int) ≤ 5 ∧ creatorCurrent.curr = some 1 ∧
      creatorCurrent.tasks 1 = some (Task.ofPid 1) ∧ (Task.ofPid 1 : Task ilp32).state ≠ .running ∧
      (5 : Int).toNat ≠ 1 ∧ creatorCurrent.preemptDepth = 1 ∧
      (workerCreated.preemptDepth = creatorCurrent.preemptDepth ∧
        ∃ r s₂, switchToTask (5 : Int).toNat workerCreated = .exit (.contextSwitch r) s₂ ∧
          r.sepc = 0x100 ∧ r.a0 = 7 ∧ r.ra = ilp32.kthreadExit ∧ r.sp = 0x8000 ∧
          r.sstatus &&& SR_SPP = SR_SPP ∧ s₂.curr = some (5 : Int).toNat) :=
  have h : kthreadCreate2 0x100 "worker" 0 7 5 (some 0x8000) creatorCurrent =
      .ret 5 workerCreated := rfl
  ⟨h, by decide, rfl, rfl, by decide, by decide, rfl,
    kthreadCreate2_starts_in_func h (by decide) rfl rfl (by decide) (by decide) rfl⟩

end Switch

/-! ### Faults -/

/-- `handle_fatal_error`: the fault's signal goes to the current task, process-wide and tagged as
a fault. -/
def handleFatalError (signum : Nat) : KM cfg Unit := do
  let _ ← sendSignal (← currTask) signum (SIG_FL_PROCESS ||| SIG_FL_FAULT)

/-- The body the three fault handlers share: a fault with no current task or in a kernel thread
is fatal; otherwise it becomes the signal `signum`. -/
def handleFault (signum : Nat) (faultName : String) : KM cfg Unit := do
  let inKernel ← match ← getCurrTask with
    | none => pure true
    | some c => pure (← task c).isKernelThread
  if inKernel then
    panic ("FAULT. Error: " ++ faultName ++ "\n")
  else
    handleFatalError signum

section Faults

variable {s : Kernel cfg} {c : Nat} {t : Task cfg} {p : Process cfg} {signum : Nat}
  {faultName : String}

/-- In a user task `c`, a fault is `send_signal2(c, c, signum, true)`. -/
theorem handleFault_of_user (hc : s.curr = some c) (ht : s.tasks c = some t)
    (huser : t.isKernelThread = false) :
    handleFault signum faultName s = (do let _ ← sendSignal2 c c signum true; pure ()) s := by
  simp [handleFault, hc, task_of_some ht, huser, handleFatalError, currTask_of_some hc, sendSignal,
    SIG_FL_PROCESS, SIG_FL_FAULT]

/-- **A fault in a user task whose signal has the default disposition terminates the process**:
in the main thread of its process, with preemption enabled, a fault whose signal's default action
is `action_terminate` never returns; the current process is terminated with that signal. -/
theorem handleFault_of_dfl (hc : s.curr = some c) (ht : s.tasks c = some t)
    (huser : t.isKernelThread = false) (hmain : t.pid = c) (hz : t.state ≠ .zombie)
    (hp : s.procs c = some p) (hd : s.preemptDepth = 0) (hsig : 0 < signum)
    (hn : signum < cfg.nsig) (hdfl : p.saHandlers (signum - 1) = SIG_DFL)
    (hact : signalDefaultActions signum = some .terminate) :
    handleFault signum faultName s = .exit (.terminateProcess 0 signum) s := by
  have hr : SendReaches s c c signum true t :=
    ⟨by omega, by simpa using ht, huser, fun _ => by simp [hmain], by simp [hmain], by omega, hz⟩
  rw [handleFault_of_user hc ht huser, KM.bind_apply, sendSignal2_of_reaches hr, KM.bind_apply,
    doSendSignal_eq (t := t) (p := p) (by omega) (by omega) (by simpa using ht)
      (by simpa [hmain] using hp)]
  have hres : resolveAction (p.saHandlers (signum - 1)) signum = some .terminate := by
    simp [resolveAction, hdfl, hact, SIG_DFL, SIG_IGN]
  simp only [Int.toNat_natCast, hres, Action.run]
  rw [actionTerminate_eq (by simpa using ht)]
  simp only [hd, huser, hc, zero_add, one_ne_zero, Bool.false_eq_true, or_self, ite_false,
    ite_true, Outcome.bind_exit]
  rw [← hd, ← hc]

/-- `handle_generic_fault_int`: an access fault is `SIGSEGV`. -/
def handleGenericFaultInt (faultName : String) : KM cfg Unit := handleFault SIGSEGV faultName

/-- `handle_inst_illegal_fault_int`: an illegal instruction is `SIGILL`. -/
def handleInstIllegalFaultInt (faultName : String) : KM cfg Unit := handleFault SIGILL faultName

/-- `handle_bus_fault_int`: a misaligned access is `SIGBUS`. -/
def handleBusFaultInt (faultName : String) : KM cfg Unit := handleFault SIGBUS faultName

/-- **A fault in a user task ends its process when the fault's signal has its default
disposition.**  In the main thread of its process, with preemption enabled, an access fault
terminates the current process with `SIGSEGV`, an illegal instruction with `SIGILL` and a
misaligned access with `SIGBUS`, whenever the process's handler of that signal is `SIG_DFL`. -/
theorem faultHandlers_terminate_with_default_disposition (hc : s.curr = some c)
    (ht : s.tasks c = some t) (huser : t.isKernelThread = false) (hmain : t.pid = c)
    (hz : t.state ≠ .zombie) (hp : s.procs c = some p) (hd : s.preemptDepth = 0) :
    (p.saHandlers (SIGSEGV - 1) = SIG_DFL →
      handleGenericFaultInt faultName s = .exit (.terminateProcess 0 SIGSEGV) s) ∧
    (p.saHandlers (SIGILL - 1) = SIG_DFL →
      handleInstIllegalFaultInt faultName s = .exit (.terminateProcess 0 SIGILL) s) ∧
    (p.saHandlers (SIGBUS - 1) = SIG_DFL →
      handleBusFaultInt faultName s = .exit (.terminateProcess 0 SIGBUS) s) :=
  have hn : ∀ n, n ≤ 31 → n < cfg.nsig := fun _ h => lt_of_le_of_lt h cfg.nsig_gt
  ⟨fun h => handleFault_of_dfl hc ht huser hmain hz hp hd (by decide) (hn _ (by decide)) h rfl,
    fun h => handleFault_of_dfl hc ht huser hmain hz hp hd (by decide) (hn _ (by decide)) h rfl,
    fun h => handleFault_of_dfl hc ht huser hmain hz hp hd (by decide) (hn _ (by decide)) h rfl⟩

/-- A process whose handlers are all `SIG_DFL` but the one of `SIGSEGV`, which is `h`. -/
def segvHandler (h : Nat) : Process ilp32 :=
  { (Process.dfl : Process ilp32) with
    saHandlers := fun i => if i = SIGSEGV - 1 then h else SIG_DFL }

/-- The current task 2, the main thread of process 2, runs with preemption enabled; the process's
handler of `SIGSEGV` is `h`. -/
def faultingTask (h : Nat) : Kernel ilp32 :=
  { (Kernel.empty : Kernel ilp32) with
    tasks := fun u => if u = 2 then some (Task.ofPid 2) else none
    procs := fun q => if q = 2 then some (segvHandler h) else none
    curr := some 2 }

theorem faultHandlers_terminate_with_default_disposition_dfl :
    (faultingTask SIG_DFL).curr = some 2 ∧ (faultingTask SIG_DFL).tasks 2 = some (Task.ofPid 2) ∧
      (Task.ofPid 2 : Task ilp32).isKernelThread = false ∧ (Task.ofPid 2 : Task ilp32).pid = 2 ∧
      (Task.ofPid 2 : Task ilp32).state ≠ .zombie ∧
      (faultingTask SIG_DFL).procs 2 = some (segvHandler SIG_DFL) ∧
      (faultingTask SIG_DFL).preemptDepth = 0 ∧
      (((segvHandler SIG_DFL).saHandlers (SIGSEGV - 1) = SIG_DFL →
          handleGenericFaultInt "Load access fault" (faultingTask SIG_DFL) =
          .exit (.terminateProcess 0 SIGSEGV) (faultingTask SIG_DFL)) ∧
        ((segvHandler SIG_DFL).saHandlers (SIGILL - 1) = SIG_DFL →
          handleInstIllegalFaultInt "Load access fault" (faultingTask SIG_DFL) =
          .exit (.terminateProcess 0 SIGILL) (faultingTask SIG_DFL)) ∧
        ((segvHandler SIG_DFL).saHandlers (SIGBUS - 1) = SIG_DFL →
          handleBusFaultInt "Load access fault" (faultingTask SIG_DFL) =
          .exit (.terminateProcess 0 SIGBUS) (faultingTask SIG_DFL))) :=
  ⟨rfl, rfl, rfl, rfl, by decide, rfl, rfl,
    faultHandlers_terminate_with_default_disposition (t := Task.ofPid 2) rfl rfl rfl rfl
      (by decide) rfl rfl⟩

/-- With `SIG_IGN` installed for `SIGSEGV`, an access fault in a user task returns. -/
theorem handleGenericFaultInt_returns_when_ignored :
    ∃ s', handleGenericFaultInt "Load access fault" (faultingTask SIG_IGN) = .ret () s' :=
  ⟨_, rfl⟩

/-- **A fault whose signal is ignored or caught returns to the faulting code**: in a user task,
when the process's handler of the fault's signal is not `SIG_DFL`, the fault handler returns. -/
theorem handleFault_returns_of_handler (hc : s.curr = some c) (ht : s.tasks c = some t)
    (huser : t.isKernelThread = false) (hp : s.procs t.pid = some p) (hsig : 0 < signum)
    (hn : signum < cfg.nsig) (hh : p.saHandlers (signum - 1) ≠ SIG_DFL) :
    ∃ s', handleFault signum faultName s = .ret () s' := by
  rw [handleFault_of_user hc ht huser, KM.bind_apply]
  by_cases hr : ∃ t', SendReaches s c c signum true t'
  · obtain ⟨t', hr⟩ := hr
    obtain rfl : t = t' := Option.some_inj.1 (by simpa [ht] using hr.2.1)
    rw [sendSignal2_of_reaches hr, KM.bind_apply,
      doSendSignal_eq (s := { s with preemptDepth := s.preemptDepth + 1 }) (p := p) (by omega)
        (by omega) (by simpa using ht) hp]
    simp only [Int.toNat_natCast]
    by_cases hi : p.saHandlers (signum - 1) = SIG_IGN
    · simp [resolveAction, hi, Action.run, actionIgnore_eq]
    · simp [resolveAction, hi, hh]
  · obtain ⟨rc, -, h⟩ := sendSignal2_of_not_reaches (not_exists.1 hr)
    simp [h]

theorem handleFault_returns_of_handler_ignored :
    (faultingTask SIG_IGN).curr = some 2 ∧ (faultingTask SIG_IGN).tasks 2 = some (Task.ofPid 2) ∧
      (Task.ofPid 2 : Task ilp32).isKernelThread = false ∧
      (faultingTask SIG_IGN).procs (Task.ofPid 2 : Task ilp32).pid = some (segvHandler SIG_IGN) ∧
      0 < SIGSEGV ∧ SIGSEGV < ilp32.nsig ∧
      (segvHandler SIG_IGN).saHandlers (SIGSEGV - 1) ≠ SIG_DFL ∧
      ∃ s', handleFault SIGSEGV "Load access fault" (faultingTask SIG_IGN) = .ret () s' :=
  ⟨rfl, rfl, rfl, rfl, by decide, by decide, by decide,
    handleFault_returns_of_handler rfl rfl rfl rfl (by decide) (by decide) (by decide)⟩

end Faults

end Tilck
