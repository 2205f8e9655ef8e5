import Tilck.System
/-!
**Job control along runs: when a task is stopped.**

A task's `stopped` is set by `action_stop` and cleared by `action_terminate` and
`action_continue`; nothing else in the modelled code writes it.  The three actions treat a
`vfork_stopped` task differently: `action_stop` does not look at `vfork_stopped`, while the other
two leave a `vfork_stopped` task's `stopped` as it is.  This module follows `stopped` of one task
along runs.

Two orderings show what does not hold.  A stop-class signal that arrives after a terminating one
is pending stops the task all the same; and a `SIGCONT` that arrives while the task is
`vfork_stopped` is dropped, so the task is still stopped once `vfork_stopped` is cleared.  What
holds: once a terminating signal or a `SIGCONT` reaches the task while it is not `vfork_stopped`,
the task is not stopped in any later state, up to the next signal that reaches it and resolves to
`action_stop`.

Main definitions:

* `Tilck.Kernel.Unstopped` — a task, of a given process with a given handler table, is not
  stopped;
* `Tilck.Op.leavesUnstopped` — an operation that cannot stop that task.

Main results:

* `Tilck.run_unstopped` — runs of such operations keep the task unstopped;
* `Tilck.terminate_unstops_until_stop`, `Tilck.continue_unstops_until_stop` — a terminating
  signal, or a `SIGCONT`, reaching a task that is not `vfork_stopped` leaves it unstopped until a
  signal that stops it reaches it;
* `Tilck.sigcont_dropped_while_vfork_stopped` — a `SIGCONT` reaching a `vfork_stopped` task changes
  nothing at all, so a task stopped during a `vfork` stays stopped after it.
-/

set_option relaxedAutoImplicit false
set_option autoImplicit false

namespace Tilck

variable {cfg : Config}

/-! ### Staying unstopped -/

/-- The task `tid`, of the process `pid`, whose handler table is `hs`, is not stopped. -/
def Kernel.Unstopped (s : Kernel cfg) (tid pid : Nat) (hs : Nat → Nat) : Prop :=
  (∃ t, s.tasks tid = some t ∧ t.pid = pid ∧ t.stopped = false) ∧ s.handlers pid = some hs

/-- `op` cannot stop the task `tid` of a process whose handler table is `hs`: it is neither a
`sys_rt_sigaction`, which could change `hs`, nor a `kthread_create2`, which could put another task
under `tid`, nor a send to `tid` of a signal that `hs` resolves to `action_stop`. -/
def Op.leavesUnstopped (tid : Int) (hs : Nat → Nat) : Op → Bool
  | .sigaction .. | .kthreadCreate .. => false
  | .send _ tid' signum _ =>
    !(tid' = tid && resolveAction (hs (signum.toNat - 1)) signum.toNat = some .stop)
  | _ => true

section Unstopped

variable {s s' : Kernel cfg} {tid pid : Nat} {hs : Nat → Nat}

/-- A step that sets one task to `t₂`, with the process and `stopped` of the task `t₁` it
replaces, keeps a task unstopped. -/
theorem Kernel.Unstopped.of_update (h : s.Unstopped tid pid hs) {u : Nat} {t₁ t₂ : Task cfg}
    (ht₁ : s.tasks u = some t₁) (ht : s'.tasks = Function.update s.tasks u (some t₂))
    (hh : s'.handlers = s.handlers) (hpid : t₂.pid = t₁.pid) (hstop : t₂.stopped = t₁.stopped) :
    s'.Unstopped tid pid hs := by
  obtain ⟨⟨t, hT, hp, hst⟩, hhs⟩ := h
  refine ⟨?_, hh ▸ hhs⟩
  rw [ht]
  by_cases hu : tid = u
  · subst hu
    obtain rfl := Option.some_inj.1 (hT.symm.trans ht₁)
    exact ⟨t₂, Function.update_same _ _ _, hpid ▸ hp, hstop ▸ hst⟩
  · exact ⟨t, by rw [Function.update_noteq hu, hT], hp, hst⟩

/-- An action run on a target that it does not stop keeps every task unstopped. -/
theorem Kernel.Unstopped.effect (h : s.Unstopped tid pid hs) {ti signum : Nat} {t' : Task cfg}
    {a : Action} (ht' : s.tasks ti = some t') (hstop : ti = tid → a.stoppedAfter t' = false) :
    (Action.effect s ti signum t' a).Unstopped tid pid hs := by
  obtain ⟨⟨t, hT, hp, hst⟩, hhs⟩ := h
  refine ⟨⟨a.onTask ti signum t' tid t, by simp [Action.effect_tasks ht', hT], by simp [hp], ?_⟩,
    by rw [Kernel.handlers_eq_of_procs (Action.effect_procs a), hhs]⟩
  by_cases hu : tid = ti
  · subst hu
    obtain rfl := Option.some_inj.1 (hT.symm.trans ht')
    rw [Action.onTask_stopped_target, hstop rfl]
  · rw [Action.onTask_stopped_other a hu, hst]

/-- An action other than `action_stop` leaves its target unstopped when it was. -/
theorem Action.stoppedAfter_of_ne_stop {a : Action} {t : Task cfg} (ha : a ≠ .stop)
    (hst : t.stopped = false) : a.stoppedAfter t = false := by
  cases a <;> simp_all [Action.stoppedAfter]

/-- **A step that cannot stop the task keeps it unstopped.** -/
theorem Op.step_unstopped {op : Op} (hop : op.leavesUnstopped tid hs = true)
    (h : op.step s = some s') (hu : s.Unstopped tid pid hs) : s'.Unstopped tid pid hs := by
  cases op with
  | sigaction => cases hop
  | kthreadCreate => cases hop
  | sigprocmask =>
    obtain ⟨rc, h⟩ := Outcome.returned_eq_some.1 h
    obtain ⟨ht, -, -, hh⟩ := sysRtSigprocmask_frame h
    exact ⟨ht ▸ hu.1, hh ▸ hu.2⟩
  | send pid' tid' signum' wp' =>
    obtain ⟨rc, h⟩ := Outcome.returned_eq_some.1 h
    rcases sendSignal2_ret h with rfl | ⟨t', p', a, hr, -, hp', ha, -, rfl⟩
    · exact hu
    refine hu.effect hr.2.1 fun htid => Action.stoppedAfter_of_ne_stop (fun hstop => ?_) ?_
    · -- the send reaches the task `tid`, and its handler table is `hs`: it is not a stop
      obtain ⟨⟨t, hT, hp, -⟩, hhs⟩ := hu
      obtain rfl := Option.some_inj.1 (hT.symm.trans (htid ▸ hr.2.1))
      rw [hp] at hp'
      have hp'' : p'.saHandlers = hs := by
        simpa [Kernel.handlers, hp'] using hhs
      have htid' : tid' = tid := by have := hr.1; omega
      simp [Op.leavesUnstopped, htid', ← hp'', ha, hstop] at hop
    · obtain ⟨⟨t, hT, -, hst⟩, -⟩ := hu
      obtain rfl := Option.some_inj.1 (hT.symm.trans (htid ▸ hr.2.1))
      exact hst
  | switchTo =>
    obtain ⟨r, h⟩ := Outcome.switched_eq_some.1 h
    obtain ⟨-, -, t₁, -, -, ht₁, -, -, -, ht, hp⟩ := switchToTask_contextSwitch h
    exact hu.of_update ht₁ ht (Kernel.handlers_eq_of_procs hp) rfl rfl
  | preemptOff => exact Op.step_preemptOff h ▸ hu
  | preemptOn => exact Op.step_preemptOn h ▸ hu
  | leaveRunning =>
    obtain ⟨-, c, t₁, -, ht₁, rfl⟩ := Op.step_leaveRunning h
    exact hu.of_update ht₁ rfl rfl rfl rfl
  | setVforkStopped =>
    obtain ⟨t₁, ht₁, rfl⟩ := Op.step_setVforkStopped h
    exact hu.of_update ht₁ rfl rfl rfl rfl
  | userWrite => exact Option.some_inj.1 h ▸ hu

/-- **A run of operations that cannot stop the task keeps it unstopped.** -/
theorem run_unstopped {ops : List Op} (hops : ∀ op ∈ ops, op.leavesUnstopped tid hs = true)
    (h : run s ops = some s') (hu : s.Unstopped tid pid hs) : s'.Unstopped tid pid hs :=
  run_invariant _ (fun op hop _ _ h₁ => Op.step_unstopped (hops op hop) h₁) h hu

/-- An action that leaves its target `t` unstopped makes it unstopped, whatever it was before. -/
theorem Kernel.unstopped_effect_target {ti signum : Nat} {t : Task cfg} {a : Action}
    (ht : s.tasks ti = some t) (hh : s.handlers t.pid = some hs)
    (hstop : a.stoppedAfter t = false) :
    (Action.effect s ti signum t a).Unstopped ti t.pid hs :=
  ⟨⟨a.onTask ti signum t ti t, by simp [Action.effect_tasks ht, ht], by simp, by simp [hstop]⟩,
    by rw [Kernel.handlers_eq_of_procs (Action.effect_procs a), hh]⟩

end Unstopped

/-! ### After a signal that unstops its target -/

section AfterSend

variable {s s₁ s₂ : Kernel cfg} {pid tid signum rc : Int} {wp : Bool} {t : Task cfg}
  {p : Process cfg} {ops : List Op}

/-- A send that reaches the task `t` and runs an action leaving it unstopped is followed, over any
run of operations that cannot stop it, by states where it is not stopped. -/
theorem unstopped_after_send {a : Action} (hr : SendReaches s pid tid signum wp t)
    (hp : s.procs t.pid = some p)
    (ha : resolveAction (p.saHandlers (signum.toNat - 1)) signum.toNat = some a)
    (hstop : a.stoppedAfter t = false) (h : sendSignal2 pid tid signum wp s = .ret rc s₁)
    (hops : ∀ op ∈ ops, op.leavesUnstopped tid p.saHandlers = true) (hrun : run s₁ ops = some s₂) :
    ∃ t₂, s₂.tasks tid.toNat = some t₂ ∧ t₂.stopped = false := by
  have hu : s₁.Unstopped tid.toNat t.pid p.saHandlers := sendSignal2_effect hr hp ha h ▸
    Kernel.unstopped_effect_target hr.2.1 (by simp [Kernel.handlers, hp]) hstop
  obtain ⟨⟨t₂, ht₂, -, hst⟩, -⟩ := run_unstopped (by rwa [Int.toNat_of_nonneg hr.1]) hrun hu
  exact ⟨t₂, ht₂, hst⟩

/-- **A terminating signal leaves its target unstopped until a signal stops it.**  When a
`send_signal2` reaches a task that is not `vfork_stopped` with a signal its process's handler
resolves to `action_terminate`, and returns, the task is not stopped, and it stays so over every
later run of operations that cannot stop it: in particular of sends of any signal to any task, but
one to this task that resolves to `action_stop`. -/
theorem terminate_unstops_until_stop (hr : SendReaches s pid tid signum wp t)
    (hp : s.procs t.pid = some p)
    (ha : resolveAction (p.saHandlers (signum.toNat - 1)) signum.toNat = some .terminate)
    (hv : t.vforkStopped = false) (h : sendSignal2 pid tid signum wp s = .ret rc s₁)
    (hops : ∀ op ∈ ops, op.leavesUnstopped tid p.saHandlers = true) (hrun : run s₁ ops = some s₂) :
    ∃ t₂, s₂.tasks tid.toNat = some t₂ ∧ t₂.stopped = false :=
  unstopped_after_send hr hp ha (by simp [Action.stoppedAfter, hv]) h hops hrun

/-- **A continue signal that reaches a task outside `vfork` leaves it unstopped until a signal
stops it.**  When a `send_signal2` reaches a task that is not `vfork_stopped` with a signal its
process's handler resolves to `action_continue`, and returns, the task is not stopped, and it
stays so over every later run of operations that cannot stop it, `vfork_stopped` being set and
cleared in any way. -/
theorem continue_unstops_until_stop (hr : SendReaches s pid tid signum wp t)
    (hp : s.procs t.pid = some p)
    (ha : resolveAction (p.saHandlers (signum.toNat - 1)) signum.toNat = some .cont)
    (hv : t.vforkStopped = false) (h : sendSignal2 pid tid signum wp s = .ret rc s₁)
    (hops : ∀ op ∈ ops, op.leavesUnstopped tid p.saHandlers = true) (hrun : run s₁ ops = some s₂) :
    ∃ t₂, s₂.tasks tid.toNat = some t₂ ∧ t₂.stopped = false :=
  unstopped_after_send hr hp ha (by simp [Action.stoppedAfter, hv]) h hops hrun

end AfterSend

/-! ### A `SIGCONT` during `vfork` -/

/-- **A `SIGCONT` sent while its target is `vfork_stopped` is dropped, not deferred.**  When a
`send_signal2` reaches a task that is `vfork_stopped` with `SIGCONT` under its default disposition,
`action_continue` returns at once: the send returns `0` and leaves the whole state as it was.  The
task keeps its `stopped` flag and nothing is left pending, so nothing continues it once
`vfork_stopped` is cleared; `action_terminate`, in the same case, records its signal as pending. -/
theorem sigcont_dropped_while_vfork_stopped {s : Kernel cfg} {pid tid : Int} {wp : Bool}
    {t : Task cfg} {p : Process cfg} (hr : SendReaches s pid tid SIGCONT wp t)
    (hp : s.procs t.pid = some p) (hdfl : p.saHandlers (SIGCONT - 1) = SIG_DFL)
    (hv : t.vforkStopped = true) :
    sendSignal2 pid tid SIGCONT wp s = .ret 0 s := by
  have hn : ((SIGCONT : Nat) : Int) < cfg.nsig := by
    have := cfg.nsig_gt
    simp only [SIGCONT]
    omega
  have ha : resolveAction (p.saHandlers (((SIGCONT : Nat) : Int).toNat - 1))
      ((SIGCONT : Nat) : Int).toNat = some .cont := by
    rw [Int.toNat_natCast, hdfl]
    rfl
  rw [sendSignal2_of_reaches hr, KM.bind_apply,
    doSendSignal_eq (s := { s with preemptDepth := s.preemptDepth + 1 }) (by decide) hn hr.2.1 hp,
    ha]
  simp only [Action.run, actionContinue_eq (s := { s with preemptDepth := s.preemptDepth + 1 })
    hr.2.1, hr.2.2.1, hv, Bool.false_eq_true, ite_false, ite_true, Outcome.bind_ret, KM.bind_apply,
    enablePreemption_apply, KM.pure_apply, Nat.add_sub_cancel]

/-! ### The two orderings -/

/-- Task 2 of process 2, a user task with every handler `SIG_DFL`, while task 1 is current. -/
def jobTarget : Kernel ilp32 := { (Kernel.withTask 2 : Kernel ilp32) with curr := some 1 }

/-- `SIGTERM` and then `SIGSTOP` sent to task 2: it ends stopped, with `SIGTERM` pending. -/
theorem stop_after_pending_terminate :
    ∃ s₁ s₂, sendSignal2 2 2 SIGTERM false jobTarget = .ret 0 s₁ ∧
      sendSignal2 2 2 SIGSTOP false s₁ = .ret 0 s₂ ∧
      (s₁.tasks 2).map (fun t => (isPendingSig t.pending SIGTERM, t.stopped)) = some (true, false) ∧
      (s₂.tasks 2).map (fun t => (isPendingSig t.pending SIGTERM, t.stopped)) = some (true, true) :=
  ⟨_, _, rfl, rfl, rfl, rfl⟩

/-- `jobTarget` once `vfork_stopped` is set on task 2 and `SIGSTOP` is sent to it. -/
def stoppedInVfork : Kernel ilp32 :=
  (run jobTarget [.setVforkStopped 2 true, .send 2 2 SIGSTOP false]).getD Kernel.empty

/-- Task 2 of `stoppedInVfork`: stopped by `SIGSTOP` while `vfork_stopped`. -/
def vforkJob : Task ilp32 :=
  { (Task.ofPid 2 : Task ilp32) with
    stopped := true
    vforkStopped := true
    wstatus := STOPCODE SIGSTOP }

/-- The `SIGCONT` sent while task 2 is `vfork_stopped` and stopped changes nothing: once
`vfork_stopped` is cleared, the task is still stopped. -/
theorem cont_dropped_in_vfork :
    run jobTarget [.setVforkStopped 2 true, .send 2 2 SIGSTOP false] = some stoppedInVfork ∧
      stoppedInVfork.tasks 2 = some vforkJob ∧ vforkJob.stopped = true ∧
      SendReaches stoppedInVfork 2 2 SIGCONT false vforkJob ∧
      stoppedInVfork.procs vforkJob.pid = some Process.dfl ∧
      (Process.dfl : Process ilp32).saHandlers (SIGCONT - 1) = SIG_DFL ∧
      vforkJob.vforkStopped = true ∧
      sendSignal2 2 2 SIGCONT false stoppedInVfork = .ret 0 stoppedInVfork ∧
      ((run stoppedInVfork [.send 2 2 SIGCONT false, .setVforkStopped 2 false]).bind
        (·.tasks 2)).map (·.stopped) = some true :=
  have hr : SendReaches stoppedInVfork 2 2 SIGCONT false vforkJob :=
    ⟨by decide, rfl, rfl, fun _ => rfl, rfl, by decide, by decide⟩
  ⟨rfl, rfl, rfl, hr, rfl, rfl, rfl, sigcont_dropped_while_vfork_stopped hr rfl rfl rfl, rfl⟩

/-- Task 2 of `jobTarget`, stopped. -/
def stoppedJob : Task ilp32 := { (Task.ofPid 2 : Task ilp32) with stopped := true }

/-- `jobTarget` with task 2 stopped. -/
def stoppedTarget : Kernel ilp32 :=
  { jobTarget with tasks := fun u => if u = 2 then some stoppedJob else none }

/-- The state after `SIGTERM` is sent to task 2 of `stoppedTarget`. -/
def termSent : Kernel ilp32 := (sendSignal2 2 2 SIGTERM false stoppedTarget).state

/-- `SIGCHLD`, which is ignored, `vfork_stopped` set, and `SIGCONT`, to task 2. -/
def ignoreThenCont : List Op :=
  [.send 2 2 SIGCHLD false, .setVforkStopped 2 true, .send 2 2 SIGCONT false]

theorem terminate_unstops_until_stop_stopped :
    SendReaches stoppedTarget 2 2 SIGTERM false stoppedJob ∧
      stoppedTarget.procs stoppedJob.pid = some Process.dfl ∧
      resolveAction ((Process.dfl : Process ilp32).saHandlers ((SIGTERM : Int).toNat - 1))
        (SIGTERM : Int).toNat =
        some .terminate ∧
      stoppedJob.vforkStopped = false ∧
      sendSignal2 2 2 SIGTERM false stoppedTarget = .ret 0 termSent ∧
      (∀ op ∈ ignoreThenCont,
        op.leavesUnstopped 2 (Process.dfl : Process ilp32).saHandlers = true) ∧
      run termSent ignoreThenCont = some ((run termSent ignoreThenCont).getD Kernel.empty) ∧
      ∃ t₂, ((run termSent ignoreThenCont).getD Kernel.empty).tasks (2 : Int).toNat = some t₂ ∧
        t₂.stopped = false :=
  have hr : SendReaches stoppedTarget 2 2 SIGTERM false stoppedJob :=
    ⟨by decide, rfl, rfl, fun _ => rfl, rfl, by decide, by decide⟩
  have hops : ∀ op ∈ ignoreThenCont,
      op.leavesUnstopped 2 (Process.dfl : Process ilp32).saHandlers = true := by
    decide
  ⟨hr, rfl, rfl, rfl, rfl, hops, rfl,
    terminate_unstops_until_stop hr rfl rfl rfl rfl hops rfl⟩

/-- The state after `SIGCONT` is sent to task 2 of `stoppedTarget`. -/
def contSent : Kernel ilp32 := (sendSignal2 2 2 SIGCONT false stoppedTarget).state

/-- `vfork_stopped` set on task 2, `SIGCONT` again, and `vfork_stopped` cleared. -/
def vforkAfterCont : List Op :=
  [.setVforkStopped 2 true, .send 2 2 SIGCONT false, .setVforkStopped 2 false]

theorem continue_unstops_until_stop_stopped :
    SendReaches stoppedTarget 2 2 SIGCONT false stoppedJob ∧
      stoppedTarget.procs stoppedJob.pid = some Process.dfl ∧
      resolveAction ((Process.dfl : Process ilp32).saHandlers ((SIGCONT : Int).toNat - 1))
        (SIGCONT : Int).toNat =
        some .cont ∧
      stoppedJob.vforkStopped = false ∧
      sendSignal2 2 2 SIGCONT false stoppedTarget = .ret 0 contSent ∧
      (∀ op ∈ vforkAfterCont,
        op.leavesUnstopped 2 (Process.dfl : Process ilp32).saHandlers = true) ∧
      run contSent vforkAfterCont = some ((run contSent vforkAfterCont).getD Kernel.empty) ∧
      ∃ t₂, ((run contSent vforkAfterCont).getD Kernel.empty).tasks (2 : Int).toNat = some t₂ ∧
        t₂.stopped = false :=
  have hr : SendReaches stoppedTarget 2 2 SIGCONT false stoppedJob :=
    ⟨by decide, rfl, rfl, fun _ => rfl, rfl, by decide, by decide⟩
  have hops : ∀ op ∈ vforkAfterCont,
      op.leavesUnstopped 2 (Process.dfl : Process ilp32).saHandlers = true := by
    decide
  ⟨hr, rfl, rfl, rfl, rfl, hops, rfl,
    continue_unstops_until_stop hr rfl rfl rfl rfl hops rfl⟩

end Tilck
