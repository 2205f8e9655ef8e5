import Tilck.Syscalls
import Tilck.Sched
/-!
**Runs of the signal and scheduling core.**

The entry points of the other modules are called one after another, interleaved with the events
of the kernel around them that the sources here do not contain: the scheduler moving the current
task out of `RUNNING`, `vfork` setting and clearing a parent's `vfork_stopped`, and user code
writing its own memory.  `Tilck.Op` lists what can happen next and `Tilck.Op.step` is the state it
leaves when it completes: a call when it returns to its caller, a `switch_to_task` when it ends
in `context_switch`.  Any other ending (a terminated process, a panic, a failed `ASSERT`) ends the
run, so a run that completes has met every assertion of every call in it.

Every fact about whole runs is proved in the same way: one lemma says what a single step can do
to the part of the state the fact reads, and `Tilck.run_invariant` carries it along the run.

Main definitions:

* `Tilck.Op`, `Tilck.Op.step`, `Tilck.run` — the operations, one step, and a run;
* `Tilck.Kernel.RunningIsCurrent` — every `RUNNING` task is the current task.

Main results:

* `Tilck.run_invariant` — a property every step keeps holds after every run;
* `Tilck.Op.step_handlers` — a step changes at most one handler, through `sys_rt_sigaction`;
* `Tilck.Op.step_runningIsCurrent`, `Tilck.run_running_is_current` — at most one task is
  `RUNNING`, and it is the current task, after every run from a state where that holds;
* `Tilck.switch_terminated_leaves_target_running` — but a switch that its signal check ends in
  `terminate_process` leaves its target `RUNNING` while the outgoing task is still current.
-/

set_option relaxedAutoImplicit false
set_option autoImplicit false

namespace Tilck

variable {cfg : Config}

/-! ### Operations and runs -/

/-- What can happen next: a call of one of the modelled entry points, or one of the events of the
kernel around them. -/
inductive Op where
  /-- `sys_rt_sigaction(signum, user_act, user_oldact, sigsetsize)` from the current task. -/
  | sigaction (signum : Int) (userAct userOldact sigsetsize : Nat)
  /-- `sys_rt_sigprocmask(how, user_set, user_oldset, sigsetsize)` from the current task. -/
  | sigprocmask (how : Int) (userSet userOldset sigsetsize : Nat)
  /-- `send_signal2(pid, tid, signum, whole_process)`. -/
  | send (pid tid signum : Int) (wholeProcess : Bool)
  /-- `kthread_create2(func, name, fl, arg)`, with the thread id `create_new_kernel_tid()` returns
  and the kernel stack `allocate_new_thread()` allocates. -/
  | kthreadCreate (func : Nat) (name : String) (fl arg : Nat) (newTid : Int) (kstack : Option Nat)
  /-- `switch_to_task(ti)`. -/
  | switchTo (ti : Nat)
  /-- `disable_preemption()` and `enable_preemption()`, as the scheduler calls them. -/
  | preemptOff
  | preemptOn
  /-- The scheduler moves the current task out of `RUNNING`, into the state `st`. -/
  | leaveRunning (st : TaskState)
  /-- `vfork_stopped` of the task `tid` is set, by `vfork`, or cleared, when the child execs or
  exits. -/
  | setVforkStopped (tid : Nat) (b : Bool)
  /-- User code writes its memory. -/
  | userWrite (mem : UserMem)

section Outcomes

variable {α : Type}

/-- The state a call leaves when it returns to its caller. -/
def Outcome.returned : Outcome cfg α → Option (Kernel cfg)
  | .ret _ s => some s
  | .exit _ _ => none

/-- The state a call leaves when it ends in `context_switch`. -/
def Outcome.switched : Outcome cfg α → Option (Kernel cfg)
  | .exit (.contextSwitch _) s => some s
  | _ => none

variable {o : Outcome cfg α} {s : Kernel cfg}

theorem Outcome.returned_eq_some : o.returned = some s ↔ ∃ a, o = .ret a s := by
  cases o <;> simp [Outcome.returned, eq_comm]

theorem Outcome.switched_eq_some : o.switched = some s ↔ ∃ r, o = .exit (.contextSwitch r) s := by
  rcases o with _ | ⟨_ | _ | _ | _ | _ | _, _⟩ <;> simp [Outcome.switched, eq_comm]

end Outcomes

/-- The state after `op`, when it completes. -/
def Op.step (op : Op) (s : Kernel cfg) : Option (Kernel cfg) :=
  match op with
  | .sigaction signum userAct userOldact sigsetsize =>
    (sysRtSigaction signum userAct userOldact sigsetsize s).returned
  | .sigprocmask how userSet userOldset sigsetsize =>
    (sysRtSigprocmask how userSet userOldset sigsetsize s).returned
  | .send pid tid signum wholeProcess => (sendSignal2 pid tid signum wholeProcess s).returned
  | .kthreadCreate func name fl arg newTid kstack =>
    (kthreadCreate2 func name fl arg newTid kstack s).returned
  | .switchTo ti => (switchToTask ti s).switched
  | .preemptOff => (disablePreemption s).returned
  | .preemptOn => (enablePreemption s).returned
  | .leaveRunning st =>
    match s.curr with
    | some c => if st = .running then none else (taskChangeState c st s).returned
    | none => none
  | .setVforkStopped tid b => (modifyTask tid (fun t => { t with vforkStopped := b }) s).returned
  | .userWrite mem => some { s with mem }

/-- The state after the operations `ops`, one after another from `s`, when each completes. -/
def run : Kernel cfg → List Op → Option (Kernel cfg)
  | s, [] => some s
  | s, op :: ops => (op.step s).bind fun s₁ => run s₁ ops

@[simp] theorem run_nil (s : Kernel cfg) : run s [] = some s := rfl

@[simp] theorem run_cons (s : Kernel cfg) (op : Op) (ops : List Op) :
    run s (op :: ops) = (op.step s).bind fun s₁ => run s₁ ops := rfl

/-- **A property every step keeps holds after the whole run.** -/
theorem run_invariant (P : Kernel cfg → Prop) {s s' : Kernel cfg} {ops : List Op}
    (hstep : ∀ op ∈ ops, ∀ s₁ s₂, op.step s₁ = some s₂ → P s₁ → P s₂)
    (h : run s ops = some s') (hs : P s) : P s' := by
  induction ops generalizing s with
  | nil => exact Option.some_inj.1 h ▸ hs
  | cons op ops ih =>
    obtain ⟨s₁, h₁, h⟩ := Option.bind_eq_some.1 h
    exact ih (fun o ho => hstep o (List.mem_cons_of_mem _ ho)) h
      (hstep op (List.mem_cons_self _ _) _ _ h₁ hs)

/-! ### The environment's steps -/

section Environment

variable {s s' : Kernel cfg}

theorem Op.step_leaveRunning {st : TaskState} (h : (Op.leaveRunning st).step s = some s') :
    st ≠ .running ∧ ∃ c t, s.curr = some c ∧ s.tasks c = some t ∧
      s' = { s with tasks := Function.update s.tasks c (some { t with state := st }) } := by
  obtain ⟨c, hc⟩ : ∃ c, s.curr = some c := Option.ne_none_iff_exists'.1 fun hc => by
    simp [Op.step, hc] at h
  simp only [Op.step, hc] at h
  split_ifs at h with hst
  obtain ⟨_, h⟩ := Outcome.returned_eq_some.1 h
  obtain ⟨t, ht, rfl⟩ := modifyTask_ret h
  exact ⟨hst, c, t, hc, ht, rfl⟩

theorem Op.step_setVforkStopped {tid : Nat} {b : Bool}
    (h : (Op.setVforkStopped tid b).step s = some s') :
    ∃ t, s.tasks tid = some t ∧
      s' = { s with tasks := Function.update s.tasks tid (some { t with vforkStopped := b }) } := by
  obtain ⟨_, h⟩ := Outcome.returned_eq_some.1 h
  exact modifyTask_ret h

theorem Op.step_preemptOff (h : Op.preemptOff.step s = some s') :
    s' = { s with preemptDepth := s.preemptDepth + 1 } :=
  (Option.some_inj.1 h).symm

theorem Op.step_preemptOn (h : Op.preemptOn.step s = some s') :
    s' = { s with preemptDepth := s.preemptDepth - 1 } :=
  (Option.some_inj.1 h).symm

end Environment

/-- The task the table `tasks` holds at `u` once `tid` is set to `t₁`: `t₁` at `tid`, and what it
held before elsewhere. -/
theorem update_tasks_eq_some {tasks : Nat → Option (Task cfg)} {tid u : Nat} {t₁ t' : Task cfg}
    (h : Function.update tasks tid (some t₁) u = some t') :
    u = tid ∧ t' = t₁ ∨ u ≠ tid ∧ tasks u = some t' := by
  by_cases hu : u = tid
  · subst hu
    exact .inl ⟨rfl, (Option.some_inj.1 (by simpa using h)).symm⟩
  · exact .inr ⟨hu, by rwa [Function.update_noteq hu] at h⟩

/-! ### The handler tables -/

section Handlers

variable {s s' : Kernel cfg}

theorem Kernel.handlers_eq_of_procs (h : s'.procs = s.procs) : s'.handlers = s.handlers := by
  unfold Kernel.handlers
  rw [h]

/-- **A step changes at most one handler**: every step but a `sys_rt_sigaction` leaves the handler
tables alone, and a `sys_rt_sigaction` changes at most the handler of its `signum`, in the
current process, when its arguments pass the checks and `user_act` is not `NULL`. -/
theorem Op.step_handlers {op : Op} (h : op.step s = some s') :
    s'.handlers = s.handlers ∨ ∃ signum userAct userOldact sigsetsize t p hnew,
      op = .sigaction signum userAct userOldact sigsetsize ∧
      SigactionArgsOk cfg signum sigsetsize ∧ userAct ≠ 0 ∧ s.CurrProc t p ∧
      s'.handlers = Function.update s.handlers t.pid
        (some (Function.update p.saHandlers (signum.toNat - 1) hnew)) := by
  cases op with
  | sigaction signum userAct userOldact sigsetsize =>
    obtain ⟨rc, h⟩ := Outcome.returned_eq_some.1 h
    rcases sysRtSigaction_handlers h with hs | ⟨hok, ha, t, p, hnew, hcp, hs⟩
    · exact .inl hs
    · exact .inr ⟨_, _, _, _, t, p, hnew, rfl, hok, ha, hcp, hs⟩
  | sigprocmask =>
    obtain ⟨rc, h⟩ := Outcome.returned_eq_some.1 h
    exact .inl (sysRtSigprocmask_frame h).2.2.2
  | send =>
    obtain ⟨rc, h⟩ := Outcome.returned_eq_some.1 h
    rcases sendSignal2_ret h with rfl | ⟨_, _, _, -, -, -, -, -, rfl⟩
    · exact .inl rfl
    · exact .inl (Kernel.handlers_eq_of_procs (Action.effect_procs _))
  | kthreadCreate =>
    obtain ⟨rc, h⟩ := Outcome.returned_eq_some.1 h
    rcases kthreadCreate2_ret h with ⟨-, rfl⟩ | ⟨-, -, _, -, -, rfl⟩ <;> exact .inl rfl
  | switchTo =>
    obtain ⟨r, h⟩ := Outcome.switched_eq_some.1 h
    obtain ⟨-, -, -, -, -, -, -, -, -, -, hp⟩ := switchToTask_contextSwitch h
    exact .inl (Kernel.handlers_eq_of_procs hp)
  | preemptOff => exact .inl (by rw [Op.step_preemptOff h]; rfl)
  | preemptOn => exact .inl (by rw [Op.step_preemptOn h]; rfl)
  | leaveRunning =>
    obtain ⟨-, -, -, -, -, rfl⟩ := Op.step_leaveRunning h
    exact .inl rfl
  | setVforkStopped =>
    obtain ⟨-, -, rfl⟩ := Op.step_setVforkStopped h
    exact .inl rfl
  | userWrite => exact .inl (by rw [← Option.some_inj.1 h]; rfl)

end Handlers

/-! ### The running task -/

/-- Every task that is `RUNNING` is the current task. -/
def Kernel.RunningIsCurrent (s : Kernel cfg) : Prop :=
  ∀ u t, s.tasks u = some t → t.state = .running → s.curr = some u

section Running

variable {s s' : Kernel cfg}

/-- Where every running task is the current task, at most one task is running. -/
theorem Kernel.RunningIsCurrent.unique (h : s.RunningIsCurrent) {u v : Nat} {tu tv : Task cfg}
    (hu : s.tasks u = some tu) (hv : s.tasks v = some tv) (hru : tu.state = .running)
    (hrv : tv.state = .running) : u = v :=
  Option.some_inj.1 ((h u tu hu hru).symm.trans (h v tv hv hrv))

/-- A step that keeps the current task and makes no task running keeps the invariant. -/
theorem Kernel.RunningIsCurrent.of_running_before (h : s.RunningIsCurrent) (hc : s'.curr = s.curr)
    (hrun : ∀ u t', s'.tasks u = some t' → t'.state = .running →
      ∃ t, s.tasks u = some t ∧ t.state = .running) :
    s'.RunningIsCurrent := fun u t' ht' hr => by
  obtain ⟨t, ht, hr'⟩ := hrun u t' ht' hr
  rw [hc]
  exact h u t ht hr'

/-- A step that keeps the tasks and the current task keeps the invariant. -/
theorem Kernel.RunningIsCurrent.of_same (h : s.RunningIsCurrent) (ht : s'.tasks = s.tasks)
    (hc : s'.curr = s.curr) : s'.RunningIsCurrent :=
  h.of_running_before hc fun _ t' h' hr => ⟨t', ht ▸ h', hr⟩

/-- Setting one task to `t₁`, not running, keeps the invariant. -/
theorem Kernel.RunningIsCurrent.update (h : s.RunningIsCurrent) {tid : Nat} {t₁ : Task cfg}
    (hr : t₁.state ≠ .running) :
    ({ s with tasks := Function.update s.tasks tid (some t₁) } : Kernel cfg).RunningIsCurrent :=
  h.of_running_before rfl fun _ t' h' hr' => by
    rcases update_tasks_eq_some h' with ⟨-, rfl⟩ | ⟨-, h'⟩
    · exact absurd hr' hr
    · exact ⟨t', h', hr'⟩

/-- **Every step keeps the running task current.**  A signal's action makes no task running (it
wakes sleepers into `RUNNABLE`), a new kernel thread is `RUNNABLE`, the scheduler takes the current
task out of `RUNNING`, and a switch marks its target running only as it makes it current, after
asserting that the task it leaves is not running. -/
theorem Op.step_runningIsCurrent {op : Op} (h : op.step s = some s') (hs : s.RunningIsCurrent) :
    s'.RunningIsCurrent := by
  cases op with
  | sigaction =>
    obtain ⟨rc, h⟩ := Outcome.returned_eq_some.1 h
    obtain ⟨ht, hc, -⟩ := sysRtSigaction_frame h
    exact hs.of_same ht hc
  | sigprocmask =>
    obtain ⟨rc, h⟩ := Outcome.returned_eq_some.1 h
    obtain ⟨ht, hc, -⟩ := sysRtSigprocmask_frame h
    exact hs.of_same ht hc
  | send =>
    obtain ⟨rc, h⟩ := Outcome.returned_eq_some.1 h
    rcases sendSignal2_ret h with rfl | ⟨t, p, a, hr, -, -, -, -, rfl⟩
    · exact hs
    refine hs.of_running_before (by simp) fun u t' h' hru => ?_
    rw [Action.effect_tasks hr.2.1] at h'
    obtain ⟨t₀, h₀, rfl⟩ := Option.map_eq_some'.1 h'
    exact ⟨t₀, h₀, a.onTask_running t₀ u hru⟩
  | kthreadCreate =>
    obtain ⟨rc, h⟩ := Outcome.returned_eq_some.1 h
    rcases kthreadCreate2_ret h with ⟨-, rfl⟩ | ⟨-, -, t, hrun, -, rfl⟩
    · exact hs
    · exact hs.update (by simp [hrun])
  | switchTo ti =>
    obtain ⟨r, h⟩ := Outcome.switched_eq_some.1 h
    obtain ⟨c, tc, t, hc, htc, -, hnr, -, hc', ht', -⟩ := switchToTask_contextSwitch h
    intro u t' h' hr
    rw [ht'] at h'
    rcases update_tasks_eq_some h' with ⟨rfl, -⟩ | ⟨hu, h'⟩
    · exact hc'
    -- a running task other than the target was the current task, which the switch asserted is not
    -- running
    obtain rfl : c = u := Option.some_inj.1 (hc.symm.trans (hs u t' h' hr))
    obtain rfl : tc = t' := Option.some_inj.1 (htc.symm.trans h')
    exact absurd hr (hnr (Ne.symm hu))
  | preemptOff => exact Op.step_preemptOff h ▸ hs
  | preemptOn => exact Op.step_preemptOn h ▸ hs
  | leaveRunning =>
    obtain ⟨hst, c, t, -, -, rfl⟩ := Op.step_leaveRunning h
    exact hs.update hst
  | setVforkStopped =>
    obtain ⟨t, ht, rfl⟩ := Op.step_setVforkStopped h
    refine hs.of_running_before rfl fun u t' h' hr => ?_
    rcases update_tasks_eq_some h' with ⟨rfl, rfl⟩ | ⟨-, h'⟩
    · exact ⟨t, ht, hr⟩
    · exact ⟨t', h', hr⟩
  | userWrite => exact Option.some_inj.1 h ▸ hs

/-- **At most one task is running, and it is the current task, at the end of every run** that
starts where every running task is the current one: any mix of completed switches, the scheduler
taking the current task out of `RUNNING`, thread creations, signals and the other calls. -/
theorem run_running_is_current {ops : List Op} (hs : s.RunningIsCurrent)
    (h : run s ops = some s') :
    s'.RunningIsCurrent ∧ ∀ u v tu tv, s'.tasks u = some tu → s'.tasks v = some tv →
      tu.state = .running → tv.state = .running → u = v :=
  have hs' := run_invariant _ (fun _ _ _ _ h₁ => Op.step_runningIsCurrent h₁) h hs
  ⟨hs', fun _ _ _ _ hu hv hru hrv => hs'.unique hu hv hru hrv⟩

/-- Task 1 of process 1 runs as the current task, with preemption enabled; task 2 of process 2 is
runnable. -/
def twoTasks : Kernel ilp32 :=
  { (Kernel.empty : Kernel ilp32) with
    tasks := fun u => if u = 1 then some { (Task.ofPid 1 : Task ilp32) with state := .running }
      else if u = 2 then some (Task.ofPid 2) else none
    procs := fun q => if q = 1 ∨ q = 2 then some Process.dfl else none
    curr := some 1 }

/-- The scheduler disables preemption, puts task 1 back to `RUNNABLE` and switches to task 2. -/
def switchToSecond : List Op := [.preemptOff, .leaveRunning .runnable, .switchTo 2]

theorem twoTasks_runningIsCurrent : twoTasks.RunningIsCurrent := fun u t h hr => by
  simp only [twoTasks] at h
  split_ifs at h with h1
  · rw [h1]
    rfl
  · cases Option.some_inj.1 h
    cases hr

/-- **A switch that its signal check ends leaves a running task that is not the current one.**
From a state where every running task is the current task `c`, a `switch_to_task(ti)` into
another task that ends in `terminate_process` (the signal check of `process_signals`, which comes
before `set_curr_task(ti)`) leaves `ti` marked `RUNNING` and `c` current: `ti` is then the only
running task, and it is not the current one. -/
theorem switch_terminated_leaves_target_running {c ti : Nat} {code sig : Int}
    (hs : s.RunningIsCurrent) (hc : s.curr = some c) (hti : ti ≠ c)
    (h : switchToTask ti s = .exit (.terminateProcess code sig) s') :
    s'.curr = some c ∧ (∃ t, s'.tasks ti = some t ∧ t.state = .running) ∧
      (∀ u tu, s'.tasks u = some tu → tu.state = .running → u = ti) ∧ ¬ s'.RunningIsCurrent := by
  obtain ⟨t, -, hcurr, htasks⟩ := switchToTask_terminateProcess_tasks h
  obtain ⟨c', tc, _, hc', htc, -, hrun, -⟩ := switchToTask_guards h (by simp) (by simp)
  obtain rfl : c = c' := Option.some_inj.1 (hc.symm.trans hc')
  have hcurr' : s'.curr = some c := hcurr.trans hc
  have hti' : s'.tasks ti = some { t with state := .running, timeslice := 0 } := by simp [htasks]
  have honly : ∀ u tu, s'.tasks u = some tu → tu.state = .running → u = ti := by
    intro u tu hu hru
    rw [htasks] at hu
    rcases update_tasks_eq_some hu with ⟨rfl, -⟩ | ⟨-, hu⟩
    · rfl
    -- another running task was the current task `c`, which the switch asserted is not running
    obtain rfl : c = u := Option.some_inj.1 (hc.symm.trans (hs u tu hu hru))
    obtain rfl : tc = tu := Option.some_inj.1 (htc.symm.trans hu)
    exact absurd hru (hrun hti).1
  exact ⟨hcurr', ⟨_, hti', rfl⟩, honly,
    fun hri => hti (Option.some_inj.1 ((hri ti _ hti' rfl).symm.trans hcurr'))⟩

/-- Task 2 is sent `SIGTERM` while task 1 runs; the scheduler then switches to task 2, and takes it
out of `RUNNING` again. -/
def termThenSwitch : List Op :=
  [.send 2 2 SIGTERM false, .preemptOff, .leaveRunning .runnable, .switchTo 2, .preemptOff,
    .leaveRunning .runnable]

/-- The state `termThenSwitch` reaches from `twoTasks`: task 2 current, not running, with
`SIGTERM` pending, and preemption disabled once. -/
def termSwitched : Kernel ilp32 := (run twoTasks termThenSwitch).getD twoTasks

/-- Switching back to task 1 from `termSwitched`: the signal check reads task 2's `SIGTERM`. -/
theorem switch_terminated_leaves_target_running_back :
    termSwitched.RunningIsCurrent ∧ termSwitched.curr = some 2 ∧ (1 : Nat) ≠ 2 ∧
      switchToTask 1 termSwitched =
        .exit (.terminateProcess 0 15) (switchToTask 1 termSwitched).state ∧
      ((switchToTask 1 termSwitched).state.curr = some 2 ∧
        (∃ t, (switchToTask 1 termSwitched).state.tasks 1 = some t ∧ t.state = .running) ∧
        (∀ u tu, (switchToTask 1 termSwitched).state.tasks u = some tu → tu.state = .running →
          u = 1) ∧
        ¬ (switchToTask 1 termSwitched).state.RunningIsCurrent) :=
  have hrun : run twoTasks termThenSwitch = some termSwitched := rfl
  have hs : termSwitched.RunningIsCurrent :=
    (run_running_is_current twoTasks_runningIsCurrent hrun).1
  have h : switchToTask 1 termSwitched =
      .exit (.terminateProcess 0 15) (switchToTask 1 termSwitched).state := rfl
  ⟨hs, rfl, by decide, h, switch_terminated_leaves_target_running hs rfl (by decide) h⟩

end Running

end Tilck
