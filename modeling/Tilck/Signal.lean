import Tilck.Kernel
/-!
**Signal delivery: `kernel/signal.c`.**

The delivery half of `kernel/signal.c`: the four default actions, the table that maps a signal
number to its default action, `do_send_signal`, which resolves the disposition the process has
installed, `send_signal2`, the entry point that checks the target and holds the preemption gate
around the delivery, and `process_signals`, the check made on the way back to user mode.  The
fault handlers reach `send_signal2` through `send_signal`, a helper declared outside the sources,
which is modelled from the spec.

The default-action table holds function pointers in the C code; here it holds the four actions
as the constructors of `Tilck.Action`, and `Tilck.Action.run` is the indirect call.

Main definitions:

* `Tilck.actionTerminate`, `Tilck.actionIgnore`, `Tilck.actionStop`, `Tilck.actionContinue`;
* `Tilck.signalDefaultActions` — `signal_default_actions`, `none` for a `NULL` entry;
* `Tilck.doSendSignal`, `Tilck.sendSignal2`, `Tilck.processSignals`, `Tilck.sendSignal`;
* `Tilck.resolveAction` — the action `do_send_signal` runs under a given handler.
-/

set_option relaxedAutoImplicit false
set_option autoImplicit false

namespace Tilck

variable {cfg : Config}

/-! ### The default actions -/

/-- `action_terminate`: the current task's process is terminated at once; any other task gets
the signal pending and, unless it is `vfork_stopped`, is woken from a sleep that is not on a
mutex or a semaphore and loses its stop. -/
def actionTerminate (ti signum : Nat) : KM cfg Unit := do
  assert (¬ (← isPreemptionEnabled))
  assert (¬ (← task ti).isKernelThread)
  if (← getCurrTask) = some ti then
    enablePreemption
    assert (← isPreemptionEnabled)
    terminateProcess 0 signum
  else
    modifyTask ti fun t => { t with pending := addPendingSig t.pending signum }
    let t ← task ti
    if ¬ t.vforkStopped then
      if t.state = .sleeping then
        if t.wobj.type ≠ .kmutex ∧ t.wobj.type ≠ .sem then
          taskChangeState ti .runnable
      modifyTask ti fun t => { t with stopped := false }

/-- `action_ignore`: nothing, but a warning when the target is pid 1. -/
def actionIgnore (ti signum : Nat) : KM cfg Unit := do
  if ti = 1 then
    emit (.ignoredByInit signum)

/-- `action_stop`: the task is stopped, its waiters are told, and the current task yields. -/
def actionStop (ti signum : Nat) : KM cfg Unit := do
  assert (¬ (← task ti).isKernelThread)
  emit (.signalDelivered ti signum)
  modifyTask ti fun t => { t with stopped := true, wstatus := STOPCODE signum }
  wakeUpTasksWaitingOn ti .taskStopped
  if (← getCurrTask) = some ti then
    emit .yield

/-- `action_continue`: unless the task is `vfork_stopped`, it is continued and its waiters are
told. -/
def actionContinue (ti signum : Nat) : KM cfg Unit := do
  let t ← task ti
  assert (¬ t.isKernelThread)
  if ¬ t.vforkStopped then
    emit (.signalDelivered ti signum)
    modifyTask ti fun t => { t with stopped := false, wstatus := CONTINUED }
    wakeUpTasksWaitingOn ti .taskContinued

/-- The functions the default-action table points to. -/
inductive Action where
  | terminate
  | ignore
  | stop
  | cont
  deriving DecidableEq, Repr

/-- The indirect call `action_func(ti, signum)`. -/
def Action.run : Action → Nat → Nat → KM cfg Unit
  | .terminate => actionTerminate
  | .ignore => actionIgnore
  | .stop => actionStop
  | .cont => actionContinue

/-- `signal_default_actions`: the entry of a signal number, `none` where the table has none. -/
def signalDefaultActions (signum : Nat) : Option Action :=
  [(SIGHUP, Action.terminate), (SIGINT, .terminate), (SIGQUIT, .terminate),
    (SIGILL, .terminate), (SIGABRT, .terminate), (SIGFPE, .terminate), (SIGKILL, .terminate),
    (SIGSEGV, .terminate), (SIGPIPE, .terminate), (SIGALRM, .terminate), (SIGTERM, .terminate),
    (SIGUSR1, .terminate), (SIGUSR2, .terminate),
    (SIGCHLD, .ignore), (SIGCONT, .cont), (SIGSTOP, .stop), (SIGTSTP, .stop),
    (SIGTTIN, .stop), (SIGTTOU, .stop),
    (SIGBUS, .terminate), (SIGPOLL, .terminate), (SIGPROF, .terminate), (SIGSYS, .terminate),
    (SIGTRAP, .terminate),
    (SIGURG, .ignore),
    (SIGVTALRM, .terminate), (SIGXCPU, .terminate), (SIGXFSZ, .terminate)].lookup signum

/-! ### Sending a signal -/

/-- `do_send_signal`: signal 0 does nothing; otherwise the process's handler decides, `SIG_IGN`
running the ignore action, a custom handler doing nothing, and `SIG_DFL` running the table's
action, or `action_terminate` where the table has none.  The code's last test,
`if (!action_func) return;`, never fires, since the action is never `NULL` by then. -/
def doSendSignal (ti : Nat) (signum : Int) : KM cfg Unit := do
  assert (0 ≤ signum ∧ signum < cfg.nsig)
  if signum = 0 then
    pure ()
  else
    let h := (← proc (← task ti).pid).saHandlers (signum.toNat - 1)
    if h = SIG_IGN then
      actionIgnore ti signum.toNat
    else if h ≠ SIG_DFL then
      pure ()
    else
      assert (h = SIG_DFL)
      let actionFunc := (signalDefaultActions signum.toNat).getD .terminate
      actionFunc.run ti signum.toNat

/-- `send_signal2`: with preemption disabled, find the target, refuse a kernel thread, a pid that
does not match, or a `whole_process` send to a thread that is not its process's main thread
(`-ESRCH`); then probe (`signum == 0`), skip a zombie, or deliver (`0`). -/
def sendSignal2 (pid tid signum : Int) (wholeProcess : Bool) : KM cfg Int := do
  disablePreemption
  let rc ← do
    match ← getTask tid with
    | none => pure (-ESRCH)
    | some t =>
      if t.isKernelThread then pure (-ESRCH)
      else if wholeProcess ∧ (t.pid : Int) ≠ tid then pure (-ESRCH)
      else if (t.pid : Int) ≠ pid then pure (-ESRCH)
      else if signum = 0 then pure 0
      else if t.state = .zombie then pure 0
      else do
        doSendSignal tid.toNat signum
        pure 0
  enablePreemption
  pure rc

/-- `process_signals`: the first pending signal of the *current* task, if any, terminates its
process.  This is the version in `kernel/signal.c`, which takes no argument: the caller in
`switch_to_task` passes the incoming task, but the function reads `get_curr_task()`. -/
def processSignals : KM cfg Bool := do
  assert (¬ (← isPreemptionEnabled))
  let curr ← currTask
  let sig := getFirstPendingSig (← task curr).pending
  if sig > 0 then
    emit (.signalDelivered curr sig.toNat)
    enablePreemption
    terminateProcess 0 sig
  else
    pure false

/-- Modelled from the spec: `send_signal(tid, signum, flags)`, which the fault handlers call and
whose definition is outside the sources, delivers `signum` "to the current task's thread id,
tagged as process-wide and fault-originated, via the Signal Delivery Engine's send path": it is
`send_signal2` to the thread `tid` of the process `tid`, process-wide when `SIG_FL_PROCESS` is
set.  `SIG_FL_FAULT` reaches no further, since `send_signal2` has no parameter for it. -/
def sendSignal (tid signum : Int) (flags : Nat) : KM cfg Int :=
  sendSignal2 tid tid signum (flags &&& SIG_FL_PROCESS != 0)

/-- The action `do_send_signal` runs for signal `signum` under the handler `h`: `none` for a
custom handler, which it treats as ignored. -/
def resolveAction (h signum : Nat) : Option Action :=
  if h = SIG_IGN then some .ignore
  else if h ≠ SIG_DFL then none
  else some ((signalDefaultActions signum).getD .terminate)

/-! ### What the actions do -/

/-- What `action_terminate` does to a task other than the current one. -/
def Task.terminated (t : Task cfg) (signum : Nat) : Task cfg :=
  if t.vforkStopped then { t with pending := addPendingSig t.pending signum }
  else { t with
    pending := addPendingSig t.pending signum
    state := if t.state = .sleeping ∧ t.wobj.type ≠ .kmutex ∧ t.wobj.type ≠ .sem then .runnable
      else t.state
    stopped := false }

section Equations

variable {s : Kernel cfg} {ti signum : Nat} {t : Task cfg}

theorem actionTerminate_eq (h : s.tasks ti = some t) :
    actionTerminate ti signum s =
      if s.preemptDepth = 0 ∨ t.isKernelThread then .exit .assertionFailed s
      else if s.curr = some ti then
        if s.preemptDepth = 1 then .exit (.terminateProcess 0 signum) { s with preemptDepth := 0 }
        else .exit .assertionFailed { s with preemptDepth := s.preemptDepth - 1 }
      else .ret () { s with tasks := Function.update s.tasks ti (some (t.terminated signum)) } := by
  by_cases hd : s.preemptDepth = 0
  · simp [actionTerminate, hd]
  by_cases hk : t.isKernelThread
  · simp [actionTerminate, hd, hk, h, task]
  by_cases hc : s.curr = some ti
  · by_cases h1 : s.preemptDepth = 1
    · simp [actionTerminate, hd, hk, hc, h1, h, task]
    · have h1' : s.preemptDepth - 1 ≠ 0 := by omega
      simp [actionTerminate, hd, hk, hc, h1, h1', h, task]
  by_cases hv : t.vforkStopped
  · simp [actionTerminate, hd, hk, hc, h, hv, task, modifyTask, Task.terminated]
  by_cases hs : t.state = .sleeping
  · by_cases hw : t.wobj.type ≠ .kmutex ∧ t.wobj.type ≠ .sem <;>
      simp [actionTerminate, hd, hk, hc, h, hv, hs, hw, task, modifyTask, taskChangeState,
        Task.terminated]
  · simp [actionTerminate, hd, hk, hc, h, hv, hs, task, modifyTask, Task.terminated]

theorem actionIgnore_eq :
    actionIgnore ti signum s =
      .ret () (if ti = 1 then { s with trace := .ignoredByInit signum :: s.trace } else s) := by
  by_cases h1 : ti = 1 <;> simp [actionIgnore, h1]

theorem actionStop_eq (h : s.tasks ti = some t) :
    actionStop ti signum s =
      if t.isKernelThread then .exit .assertionFailed s
      else .ret () { s with
        tasks := wakeWaiters (Function.update s.tasks ti
          (some { t with stopped := true, wstatus := STOPCODE signum })) ti
        trace := (if s.curr = some ti then [.yield] else []) ++
          .wakeUp ti .taskStopped :: .signalDelivered ti signum :: s.trace } := by
  by_cases hk : t.isKernelThread
  · simp [actionStop, hk, h, task]
  · by_cases hc : s.curr = some ti <;> simp [actionStop, hk, hc, h, task, modifyTask]

theorem actionContinue_eq (h : s.tasks ti = some t) :
    actionContinue ti signum s =
      if t.isKernelThread then .exit .assertionFailed s
      else if t.vforkStopped then .ret () s
      else .ret () { s with
        tasks := wakeWaiters (Function.update s.tasks ti
          (some { t with stopped := false, wstatus := CONTINUED })) ti
        trace := .wakeUp ti .taskContinued :: .signalDelivered ti signum :: s.trace } := by
  by_cases hk : t.isKernelThread
  · simp [actionContinue, hk, h, task]
  · by_cases hv : t.vforkStopped <;> simp [actionContinue, hk, hv, h, task, modifyTask]

/-- The state an action leaves when it returns on the target `t`. -/
def Action.effect (s : Kernel cfg) (ti signum : Nat) (t : Task cfg) : Action → Kernel cfg
  | .terminate => { s with tasks := Function.update s.tasks ti (some (t.terminated signum)) }
  | .ignore => if ti = 1 then { s with trace := .ignoredByInit signum :: s.trace } else s
  | .stop => { s with
      tasks := wakeWaiters (Function.update s.tasks ti
        (some { t with stopped := true, wstatus := STOPCODE signum })) ti
      trace := (if s.curr = some ti then [.yield] else []) ++
        .wakeUp ti .taskStopped :: .signalDelivered ti signum :: s.trace }
  | .cont =>
      if t.vforkStopped then s
      else { s with
        tasks := wakeWaiters (Function.update s.tasks ti
          (some { t with stopped := false, wstatus := CONTINUED })) ti
        trace := .wakeUp ti .taskContinued :: .signalDelivered ti signum :: s.trace }

/-- **What an action does when it returns**: its target is not a kernel thread (the ignore
action does not look), a terminated target is not the current task, and the state is the
action's effect. -/
theorem Action.run_ret {a : Action} {s' : Kernel cfg} (ht : s.tasks ti = some t)
    (h : a.run ti signum s = .ret () s') :
    (a = .ignore ∨ t.isKernelThread = false) ∧ (a = .terminate → s.curr ≠ some ti) ∧
      s' = Action.effect s ti signum t a := by
  cases a with
  | terminate =>
      rw [Action.run, actionTerminate_eq ht] at h
      split_ifs at h with h₁ h₂
      cases h
      exact ⟨.inr (by simpa using (not_or.1 h₁).2), fun _ => h₂, rfl⟩
  | ignore =>
      rw [Action.run, actionIgnore_eq] at h
      cases h
      exact ⟨.inl rfl, nofun, rfl⟩
  | stop =>
      rw [Action.run, actionStop_eq ht] at h
      by_cases h₁ : t.isKernelThread
      · simp [h₁] at h
      · rw [if_neg h₁] at h
        cases h
        exact ⟨.inr (by simpa using h₁), nofun, rfl⟩
  | cont =>
      rw [Action.run, actionContinue_eq ht] at h
      by_cases h₁ : t.isKernelThread
      · simp [h₁] at h
      · rw [if_neg h₁] at h
        split_ifs at h with h₂ <;> cases h <;>
          exact ⟨.inr (by simpa using h₁), nofun, by simp [Action.effect, h₂]⟩

theorem doSendSignal_zero : doSendSignal ti 0 s = .ret () s := by
  simp [doSendSignal, Int.ofNat_pos.2 (Nat.lt_of_lt_of_le (by decide) cfg.nsig_gt)]

/-- `do_send_signal` runs the action its handler resolves to. -/
theorem doSendSignal_eq {signum : Int} {p : Process cfg} (h0 : 0 < signum)
    (hn : signum < cfg.nsig) (h : s.tasks ti = some t) (hp : s.procs t.pid = some p) :
    doSendSignal ti signum s =
      match resolveAction (p.saHandlers (signum.toNat - 1)) signum.toNat with
      | some a => a.run ti signum.toNat s
      | none => .ret () s := by
  have hs : signum ≠ 0 := by omega
  by_cases hi : p.saHandlers (signum.toNat - 1) = SIG_IGN
  · simp [doSendSignal, h0.le, hn, hs, h, hp, task, proc, resolveAction, hi, Action.run]
  · have hdi : SIG_DFL ≠ SIG_IGN := by decide
    by_cases hd : p.saHandlers (signum.toNat - 1) = SIG_DFL <;>
      simp [doSendSignal, h0.le, hn, hs, h, hp, task, proc, resolveAction, hi, hd, hdi]

/-- **What `do_send_signal` does when it returns**: nothing, or the effect of the action the
target's handler resolves to. -/
theorem doSendSignal_ret {signum : Int} {s' : Kernel cfg}
    (h : doSendSignal ti signum s = .ret () s') :
    s' = s ∨ ∃ t p a, 0 < signum ∧ signum < cfg.nsig ∧ s.tasks ti = some t ∧
      s.procs t.pid = some p ∧
      resolveAction (p.saHandlers (signum.toNat - 1)) signum.toNat = some a ∧
      (a = .ignore ∨ t.isKernelThread = false) ∧ (a = .terminate → s.curr ≠ some ti) ∧
      s' = Action.effect s ti signum.toNat t a := by
  by_cases h0 : signum = 0
  · subst h0
    rw [doSendSignal_zero] at h
    cases h
    exact .inl rfl
  by_cases hr : 0 ≤ signum ∧ signum < cfg.nsig
  swap
  · simp [doSendSignal, hr] at h
  cases ht : s.tasks ti with
  | none => simp [doSendSignal, hr, h0, ht, task] at h
  | some t =>
    cases hp : s.procs t.pid with
    | none => simp [doSendSignal, hr, h0, ht, hp, task, proc] at h
    | some p =>
      rw [doSendSignal_eq (by omega) hr.2 ht hp] at h
      cases ha : resolveAction (p.saHandlers (signum.toNat - 1)) signum.toNat with
      | none =>
          rw [ha] at h
          cases h
          exact .inl rfl
      | some a =>
          rw [ha] at h
          exact .inr ⟨t, p, a, by omega, hr.2, rfl, hp, ha, Action.run_ret ht h⟩

/-- An action's effect does not look at the preemption counter. -/
theorem Action.effect_preemptDepth (a : Action) (d : Nat) :
    Action.effect { s with preemptDepth := d } ti signum t a =
      { Action.effect s ti signum t a with preemptDepth := d } := by
  cases a <;> simp only [Action.effect] <;> split_ifs <;> rfl

/-- An action's effect with the preemption counter it found: the effect itself. -/
theorem Action.effect_restore (a : Action) :
    { Action.effect s ti signum t a with preemptDepth := s.preemptDepth } =
      Action.effect s ti signum t a := by
  cases a <;> simp only [Action.effect] <;> (try split_ifs) <;> rfl

@[simp] theorem Action.effect_procs (a : Action) :
    (Action.effect s ti signum t a).procs = s.procs := by
  cases a <;> simp only [Action.effect] <;> split_ifs <;> rfl

@[simp] theorem Action.effect_curr (a : Action) :
    (Action.effect s ti signum t a).curr = s.curr := by
  cases a <;> simp only [Action.effect] <;> split_ifs <;> rfl

@[simp] theorem Action.effect_preemptDepth' (a : Action) :
    (Action.effect s ti signum t a).preemptDepth = s.preemptDepth := by
  cases a <;> simp only [Action.effect] <;> split_ifs <;> rfl

@[simp] theorem Action.effect_mem (a : Action) :
    (Action.effect s ti signum t a).mem = s.mem := by
  cases a <;> simp only [Action.effect] <;> split_ifs <;> rfl

/-- What an action on the target `ti`, which is `t`, does to the task `u`, which is `t₀`. -/
def Action.onTask (ti signum : Nat) (t : Task cfg) (u : Nat) (t₀ : Task cfg) : Action → Task cfg
  | .terminate => if u = ti then t₀.terminated signum else t₀
  | .ignore => t₀
  | .stop =>
    Task.wake ti (if u = ti then { t₀ with stopped := true, wstatus := STOPCODE signum } else t₀)
  | .cont =>
    if t.vforkStopped then t₀
    else Task.wake ti (if u = ti then { t₀ with stopped := false, wstatus := CONTINUED } else t₀)

/-- An action changes the tasks one by one. -/
theorem Action.effect_tasks (ht : s.tasks ti = some t) (a : Action) (u : Nat) :
    (Action.effect s ti signum t a).tasks u = (s.tasks u).map (a.onTask ti signum t u ·) := by
  by_cases hu : u = ti
  · subst hu
    cases a <;> simp only [Action.effect, Action.onTask] <;> (try split_ifs) <;>
      simp [wakeWaiters, ht]
  · cases a <;> simp only [Action.effect, Action.onTask] <;> (try split_ifs) <;>
      simp [wakeWaiters, Function.update_noteq hu, hu]

@[simp] theorem Action.onTask_pid (a : Action) (t₀ : Task cfg) (u : Nat) :
    (a.onTask ti signum t u t₀).pid = t₀.pid := by
  cases a <;> simp only [Action.onTask, Task.wake, Task.terminated] <;> split_ifs <;> rfl

@[simp] theorem Action.onTask_vforkStopped (a : Action) (t₀ : Task cfg) (u : Nat) :
    (a.onTask ti signum t u t₀).vforkStopped = t₀.vforkStopped := by
  cases a <;> simp only [Action.onTask, Task.wake, Task.terminated] <;> split_ifs <;> rfl

/-- Only `action_terminate` marks a signal pending, and only on its target. -/
theorem Action.onTask_pending (a : Action) (t₀ : Task cfg) (u : Nat) :
    (a.onTask ti signum t u t₀).pending =
      if a = .terminate ∧ u = ti then addPendingSig t₀.pending signum else t₀.pending := by
  cases a <;> simp only [Action.onTask, Task.wake, Task.terminated] <;> split_ifs <;> simp_all

/-- An action makes no task running. -/
theorem Action.onTask_running (a : Action) (t₀ : Task cfg) (u : Nat)
    (h : (a.onTask ti signum t u t₀).state = .running) : t₀.state = .running := by
  cases a <;> simp only [Action.onTask, Task.wake, Task.terminated] at h <;>
    (try split_ifs at h) <;>
    simp_all

/-- `stopped` of the target after an action, from the target `t` before. -/
def Action.stoppedAfter (t : Task cfg) : Action → Bool
  | .terminate | .cont => if t.vforkStopped then t.stopped else false
  | .ignore => t.stopped
  | .stop => true

@[simp] theorem Action.onTask_stopped_target (a : Action) :
    (a.onTask ti signum t ti t).stopped = a.stoppedAfter t := by
  cases a <;> simp only [Action.onTask, Task.wake, Task.terminated, Action.stoppedAfter] <;>
    split_ifs <;> rfl

theorem Action.onTask_stopped_other (a : Action) {u : Nat} (hu : u ≠ ti) (t₀ : Task cfg) :
    (a.onTask ti signum t u t₀).stopped = t₀.stopped := by
  cases a <;> simp only [Action.onTask, Task.wake, hu, ite_false] <;> split_ifs <;> rfl

end Equations

/-! ### What `send_signal2` does -/

/-- `send_signal2(pid, tid, signum, whole_process)` gets as far as `do_send_signal`, with the
target `t`. -/
def SendReaches (s : Kernel cfg) (pid tid signum : Int) (wholeProcess : Bool) (t : Task cfg) :
    Prop :=
  0 ≤ tid ∧ s.tasks tid.toNat = some t ∧ t.isKernelThread = false ∧
    (wholeProcess = true → (t.pid : Int) = tid) ∧ (t.pid : Int) = pid ∧ signum ≠ 0 ∧
    t.state ≠ .zombie

section Send

variable {s : Kernel cfg} {pid tid signum : Int} {wp : Bool} {t : Task cfg}

/-- A send that reaches `do_send_signal` is that call with preemption disabled around it. -/
theorem sendSignal2_of_reaches (h : SendReaches s pid tid signum wp t) :
    sendSignal2 pid tid signum wp s =
      (do doSendSignal tid.toNat signum; enablePreemption; pure 0)
        { s with preemptDepth := s.preemptDepth + 1 } := by
  obtain ⟨h0, ht, hk, hw, rfl, hs, hz⟩ := h
  by_cases hwp : wp = true
  · obtain rfl := hw hwp
    rw [Int.toNat_natCast] at ht
    simp [sendSignal2, h0, ht, hk, hwp, hs, hz]
  · simp [sendSignal2, h0, ht, hk, hwp, hs, hz]

/-- A send that does not reach `do_send_signal` returns `0` or `-ESRCH` and changes nothing. -/
theorem sendSignal2_of_not_reaches (h : ∀ t, ¬ SendReaches s pid tid signum wp t) :
    ∃ rc, (rc = 0 ∨ rc = -ESRCH) ∧ sendSignal2 pid tid signum wp s = .ret rc s := by
  by_cases h0 : 0 ≤ tid
  · cases ht : s.tasks tid.toNat with
    | none => exact ⟨_, .inr rfl, by simp [sendSignal2, h0, ht]⟩
    | some t =>
      have hn := h t
      simp only [SendReaches, h0, ht, true_and, not_and] at hn
      simp only [sendSignal2, KM.bind_apply, disablePreemption_apply, Outcome.bind_ret,
        getTask_apply, h0, ite_true, ht]
      -- three refusals with `-ESRCH`, the probe, the zombie, and then the branch that reaches
      -- `do_send_signal`, which `h` excludes
      split
      · exact ⟨_, .inr rfl, rfl⟩
      split
      · exact ⟨_, .inr rfl, rfl⟩
      split
      · exact ⟨_, .inr rfl, rfl⟩
      split
      · exact ⟨_, .inl rfl, rfl⟩
      split
      · exact ⟨_, .inl rfl, rfl⟩
      next h₁ h₂ h₃ h₄ h₅ =>
        exact absurd h₅ (hn (by simpa using h₁) (fun hw => not_not.1 fun hne => h₂ ⟨hw, hne⟩)
          (not_not.1 h₃) h₄)
  · exact ⟨_, .inr rfl, by simp [sendSignal2, h0]⟩

/-- **What `send_signal2` does when it returns**: nothing, or the effect of the action the
target's handler resolves to, on a target it reaches. -/
theorem sendSignal2_ret {rc : Int} {s' : Kernel cfg}
    (h : sendSignal2 pid tid signum wp s = .ret rc s') :
    s' = s ∨ ∃ t p a, SendReaches s pid tid signum wp t ∧ signum < cfg.nsig ∧
      s.procs t.pid = some p ∧
      resolveAction (p.saHandlers (signum.toNat - 1)) signum.toNat = some a ∧
      (a = .terminate → s.curr ≠ some tid.toNat) ∧
      s' = Action.effect s tid.toNat signum.toNat t a := by
  by_cases hr : ∃ t, SendReaches s pid tid signum wp t
  · obtain ⟨t, ht⟩ := hr
    rw [sendSignal2_of_reaches ht] at h
    obtain ⟨_, s₁, hd, hrest⟩ := Outcome.bind_eq_ret h
    simp only [KM.bind_apply, enablePreemption_apply, Outcome.bind_ret, KM.pure_apply,
      Outcome.ret.injEq] at hrest
    obtain ⟨-, rfl⟩ := hrest
    rcases doSendSignal_ret hd with rfl | ⟨t', p, a, -, hn, ht', hp, ha, -, hc, rfl⟩
    · exact .inl (by simp)
    · have htt : t' = t := by
        have := ht.2.1
        simp only at ht'
        rw [this] at ht'
        exact (Option.some_inj.1 ht').symm
      subst htt
      refine .inr ⟨t', p, a, ht, hn, hp, ha, hc, ?_⟩
      rw [Action.effect_preemptDepth, Nat.add_sub_cancel, Action.effect_restore]
  · obtain ⟨rc, -, hs⟩ := sendSignal2_of_not_reaches (not_exists.1 hr)
    rw [hs] at h
    cases h
    exact .inl rfl

/-- A send that reaches its target and returns passed the assertion of `do_send_signal` on the
signal number, which `send_signal2` itself does not check. -/
theorem sendSignal2_signum_range {rc : Int} {s' : Kernel cfg}
    (hr : SendReaches s pid tid signum wp t) (h : sendSignal2 pid tid signum wp s = .ret rc s') :
    0 < signum ∧ signum < cfg.nsig := by
  rw [sendSignal2_of_reaches hr] at h
  obtain ⟨_, s₁, hd, -⟩ := Outcome.bind_eq_ret h
  by_contra hn
  have hn' : ¬ (0 ≤ signum ∧ signum < cfg.nsig) := fun h' =>
    hn ⟨by have := hr.2.2.2.2.2.1; omega, h'.2⟩
  simp [doSendSignal, hn'] at hd

/-- **A send that reaches its target and returns has run the action its handler resolves to.** -/
theorem sendSignal2_effect {p : Process cfg} {a : Action} {rc : Int} {s' : Kernel cfg}
    (hr : SendReaches s pid tid signum wp t) (hp : s.procs t.pid = some p)
    (ha : resolveAction (p.saHandlers (signum.toNat - 1)) signum.toNat = some a)
    (h : sendSignal2 pid tid signum wp s = .ret rc s') :
    s' = Action.effect s tid.toNat signum.toNat t a := by
  have hsig := sendSignal2_signum_range hr h
  rw [sendSignal2_of_reaches hr] at h
  obtain ⟨_, s₁, hd, hrest⟩ := Outcome.bind_eq_ret h
  simp only [KM.bind_apply, enablePreemption_apply, Outcome.bind_ret, KM.pure_apply,
    Outcome.ret.injEq] at hrest
  obtain ⟨-, rfl⟩ := hrest
  rw [doSendSignal_eq (s := { s with preemptDepth := s.preemptDepth + 1 }) hsig.1 hsig.2 hr.2.1 hp,
    ha] at hd
  dsimp only at hd
  obtain ⟨-, -, rfl⟩ :=
    Action.run_ret (s := { s with preemptDepth := s.preemptDepth + 1 }) hr.2.1 hd
  rw [Action.effect_preemptDepth, Nat.add_sub_cancel, Action.effect_restore]

/-- **`process_signals` returns only when the current task has nothing pending**, and then it
changes nothing and returns `false`. -/
theorem processSignals_ret {b : Bool} {s' : Kernel cfg} (h : processSignals s = .ret b s') :
    b = false ∧ s' = s ∧ ∃ c t, s.curr = some c ∧ s.tasks c = some t ∧
      getFirstPendingSig t.pending ≤ 0 := by
  by_cases hd : s.preemptDepth = 0
  · simp [processSignals, hd] at h
  obtain ⟨c, hc⟩ : ∃ c, s.curr = some c := Option.ne_none_iff_exists'.1 fun hc => by
    simp [processSignals, currTask, hc, hd] at h
  obtain ⟨t, ht⟩ : ∃ t, s.tasks c = some t := Option.ne_none_iff_exists'.1 fun ht => by
    simp [processSignals, currTask, task, hc, ht, hd] at h
  by_cases hsig : 0 < getFirstPendingSig t.pending
  · simp [processSignals, hd, currTask_of_some hc, task_of_some ht, hsig] at h
  · simp only [processSignals, KM.bind_apply, isPreemptionEnabled_apply, hd, assert_apply,
      currTask_of_some hc, task_of_some ht, Outcome.bind_ret, gt_iff_lt, hsig, ite_false,
      KM.pure_apply, Outcome.ret.injEq, beq_iff_eq, Bool.not_eq_true', decide_eq_false_iff_not,
      not_false_eq_true, ite_true] at h
    exact ⟨h.1.symm, h.2.symm, c, t, hc, ht, not_lt.1 hsig⟩

/-- With preemption disabled, `process_signals` terminates the current process with its first
pending signal, after re-enabling preemption, or returns `false`. -/
theorem processSignals_eq {c : Nat} (hc : s.curr = some c) (ht : s.tasks c = some t)
    (hd : s.preemptDepth ≠ 0) :
    processSignals s =
      if 0 < getFirstPendingSig t.pending then
        .exit (.terminateProcess 0 (getFirstPendingSig t.pending))
          { s with trace := .signalDelivered c (getFirstPendingSig t.pending).toNat :: s.trace,
                   preemptDepth := s.preemptDepth - 1 }
      else .ret false s := by
  by_cases hsig : 0 < getFirstPendingSig t.pending <;>
    simp [processSignals, hd, currTask_of_some hc, task_of_some ht, hsig]

/-- **What `process_signals` does, by the pending set of the current task.**  With preemption
disabled, it returns `false` and changes nothing, the preemption counter included, exactly when
no bit of the current task's pending words is set; otherwise it terminates the current process
with the signal of the lowest set position, after recording the delivery and re-enabling
preemption. -/
theorem processSignals_first_pending {c : Nat} (hc : s.curr = some c) (ht : s.tasks c = some t)
    (hd : s.preemptDepth ≠ 0) :
    ((∀ p, t.pending.bit p = false) ∧ processSignals s = .ret false s) ∨
    ∃ p : Nat, t.pending.bit p = true ∧ (∀ q < p, t.pending.bit q = false) ∧
      processSignals s = .exit (.terminateProcess 0 (p + 1))
        { s with trace := .signalDelivered c (p + 1) :: s.trace,
                 preemptDepth := s.preemptDepth - 1 } := by
  rw [processSignals_eq hc ht hd]
  rcases getFirstPendingSig_spec t.pending with ⟨h, hall⟩ | ⟨p, h, hset, hclear⟩
  · exact .inl ⟨hall, by rw [h, if_neg (by decide)]⟩
  · refine .inr ⟨p, hset, hclear, ?_⟩
    rw [h, if_pos (by omega)]
    rfl

/-- The current task 2, with nothing pending, and preemption disabled once. -/
def idleCurrent : Kernel ilp32 :=
  { (Kernel.withTask 2 : Kernel ilp32) with curr := some 2, preemptDepth := 1 }

theorem processSignals_first_pending_idle :
    idleCurrent.curr = some 2 ∧ idleCurrent.tasks 2 = some (Task.ofPid 2) ∧
      idleCurrent.preemptDepth ≠ 0 ∧
      (((∀ p, (Task.ofPid 2 : Task ilp32).pending.bit p = false) ∧
          processSignals idleCurrent = .ret false idleCurrent) ∨
        ∃ p : Nat, (Task.ofPid 2 : Task ilp32).pending.bit p = true ∧
          (∀ q < p, (Task.ofPid 2 : Task ilp32).pending.bit q = false) ∧
          processSignals idleCurrent = .exit (.terminateProcess 0 (p + 1))
            { idleCurrent with trace := .signalDelivered 2 (p + 1) :: idleCurrent.trace,
                               preemptDepth := idleCurrent.preemptDepth - 1 }) :=
  ⟨rfl, rfl, by decide, processSignals_first_pending (t := Task.ofPid 2) rfl rfl (by decide)⟩

/-- **`send_signal2` leaves the preemption counter as it found it** on every path that returns. -/
theorem sendSignal2_keeps_preemptDepth {rc : Int} {s' : Kernel cfg}
    (h : sendSignal2 pid tid signum wp s = .ret rc s') : s'.preemptDepth = s.preemptDepth := by
  rcases sendSignal2_ret h with rfl | ⟨t, p, a, -, -, -, -, -, rfl⟩
  · rfl
  · simp

theorem sendSignal2_keeps_preemptDepth_stop :
    sendSignal2 2 2 SIGSTOP false (Kernel.withTask 2 : Kernel ilp32) =
        .ret 0 (sendSignal2 2 2 SIGSTOP false (Kernel.withTask 2 : Kernel ilp32)).state ∧
      (sendSignal2 2 2 SIGSTOP false (Kernel.withTask 2 : Kernel ilp32)).state.preemptDepth =
        (Kernel.withTask 2 : Kernel ilp32).preemptDepth :=
  have h : sendSignal2 2 2 SIGSTOP false (Kernel.withTask 2 : Kernel ilp32) =
      .ret 0 (sendSignal2 2 2 SIGSTOP false (Kernel.withTask 2 : Kernel ilp32)).state := rfl
  ⟨h, sendSignal2_keeps_preemptDepth h⟩

end Send

end Tilck
