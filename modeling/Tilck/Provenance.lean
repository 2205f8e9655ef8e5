import Tilck.System
/-!
**Where pending signals come from, over whole runs.**

`kernel/signal.c` marks a signal pending in one place only, `action_terminate` on a task other
than the current one, and it never clears one: `del_pending_sig` has no caller, and
`process_signals` terminates the process instead of consuming the signal.  Around it, the
scheduler and the other entry points copy a task's pending words along whenever they rewrite the
task, and `kthread_create2` publishes a new thread with nothing pending.

This module follows the pending words through every run of `Tilck.run`.  `Tilck.Op.step_pending`
says once what one step can do to them; the run-level results carry it along with
`Tilck.run_invariant`.

Main definitions:

* `Tilck.PendingFrom` — every signal pending in a state was pending at the start of the run, or
  was sent to its thread by one of the run's operations.

Main results:

* `Tilck.Op.step_pending` — a step keeps a task's pending words, clears them by publishing a new
  kernel thread under its id, or adds the one signal a `send_signal2` sent to that thread;
* `Tilck.run_pending_never_cleared` — no run clears a pending bit, in any build, unless a new
  kernel thread takes the thread id;
* `Tilck.run_pending_from_sends` — with a 32-bit `ulong`, every signal pending at the end of a run
  was pending at its start or sent to that very thread during it;
* `Tilck.run_switch_terminates_for_sent_signal` — with a 32-bit `ulong`, a context switch after a
  run terminates a process only for a signal sent to the current thread.
-/

set_option relaxedAutoImplicit false
set_option autoImplicit false

namespace Tilck

variable {cfg : Config}

/-! ### One step -/

section Step

variable {s s' : Kernel cfg}

/-- Setting the task `tid`, that was `t`, to a task with the same pending words leaves every task's
pending words as they were. -/
theorem pending_of_update {tasks : Nat → Option (Task cfg)} {tid u : Nat} {t t₁ t' : Task cfg}
    (ht : tasks tid = some t) (h : Function.update tasks tid (some t₁) u = some t')
    (hp : t₁.pending = t.pending) :
    ∃ t₀, tasks u = some t₀ ∧ t'.pending = t₀.pending := by
  rcases update_tasks_eq_some h with ⟨rfl, rfl⟩ | ⟨-, h⟩
  · exact ⟨t, ht, hp⟩
  · exact ⟨t', h, rfl⟩

/-- **What a step does to the pending words of the task `u`**: it keeps them, or it publishes a
new kernel thread under `u`, with nothing pending, or it is a `send_signal2` to the thread `u`
whose action marked its (positive) signal pending. -/
theorem Op.step_pending {op : Op} (h : op.step s = some s') {u : Nat} {t' : Task cfg}
    (ht' : s'.tasks u = some t') :
    (∃ t, s.tasks u = some t ∧ t'.pending = t.pending) ∨
      (∃ func name fl arg newTid k, op = .kthreadCreate func name fl arg newTid k ∧
        newTid.toNat = u ∧ t'.pending = fun _ => 0) ∨
      ∃ pid signum wp t, op = .send pid u signum wp ∧ 0 < signum ∧ s.tasks u = some t ∧
        t'.pending = addPendingSig t.pending signum.toNat := by
  cases op with
  | sigaction =>
    obtain ⟨rc, h⟩ := Outcome.returned_eq_some.1 h
    exact .inl ⟨t', (sysRtSigaction_frame h).1 ▸ ht', rfl⟩
  | sigprocmask =>
    obtain ⟨rc, h⟩ := Outcome.returned_eq_some.1 h
    exact .inl ⟨t', (sysRtSigprocmask_frame h).1 ▸ ht', rfl⟩
  | send pid tid signum wp =>
    obtain ⟨rc, h⟩ := Outcome.returned_eq_some.1 h
    rcases sendSignal2_ret h with rfl | ⟨t, p, a, hr, -, -, -, -, rfl⟩
    · exact .inl ⟨t', ht', rfl⟩
    rw [Action.effect_tasks hr.2.1] at ht'
    obtain ⟨t₀, h₀, rfl⟩ := Option.map_eq_some'.1 ht'
    rw [Action.onTask_pending]
    split_ifs with hta
    · -- `action_terminate` on the target: the send went to the thread `u`
      refine .inr (.inr ⟨pid, signum, wp, t₀, ?_, (sendSignal2_signum_range hr h).1, h₀, rfl⟩)
      rw [hta.2, Int.toNat_of_nonneg hr.1]
    · exact .inl ⟨t₀, h₀, rfl⟩
  | kthreadCreate =>
    obtain ⟨rc, h⟩ := Outcome.returned_eq_some.1 h
    rcases kthreadCreate2_ret_task h with ⟨-, rfl⟩ | ⟨-, -, t, -, -, hp, rfl⟩
    · exact .inl ⟨t', ht', rfl⟩
    rcases update_tasks_eq_some ht' with ⟨rfl, rfl⟩ | ⟨-, h'⟩
    · exact .inr (.inl ⟨_, _, _, _, _, _, rfl, rfl, hp⟩)
    · exact .inl ⟨t', h', rfl⟩
  | switchTo =>
    obtain ⟨r, h⟩ := Outcome.switched_eq_some.1 h
    obtain ⟨-, -, t, -, -, ht, -, -, -, hts, -⟩ := switchToTask_contextSwitch h
    rw [hts] at ht'
    exact .inl (pending_of_update ht ht' rfl)
  | preemptOff => exact .inl ⟨t', by rwa [Op.step_preemptOff h] at ht', rfl⟩
  | preemptOn => exact .inl ⟨t', by rwa [Op.step_preemptOn h] at ht', rfl⟩
  | leaveRunning =>
    obtain ⟨-, _, t, -, ht, rfl⟩ := Op.step_leaveRunning h
    exact .inl (pending_of_update ht ht' rfl)
  | setVforkStopped =>
    obtain ⟨t, ht, rfl⟩ := Op.step_setVforkStopped h
    exact .inl (pending_of_update ht ht' rfl)
  | userWrite => exact .inl ⟨t', by rwa [← Option.some_inj.1 h] at ht', rfl⟩

end Step

/-! ### Pending bits are never cleared -/

section NeverCleared

variable {s s' : Kernel cfg} {ops : List Op}

/-- **No run clears a pending signal**, in either build: a bit set in the pending words of the task
`u` at the start of a run is still set at its end, unless the run publishes a new kernel thread
under `u`.  `process_signals` terminates the process instead of consuming the signal, and nothing
calls `del_pending_sig`. -/
theorem run_pending_never_cleared (h : run s ops = some s') {u : Nat}
    (hu : ∀ func name fl arg newTid k,
      Op.kthreadCreate func name fl arg newTid k ∈ ops → newTid.toNat ≠ u)
    {t t' : Task cfg} (ht : s.tasks u = some t) (ht' : s'.tasks u = some t')
    (i : Fin cfg.maskWords) (j : Nat) (hb : (t.pending i).getLsbD j = true) :
    (t'.pending i).getLsbD j = true := by
  refine run_invariant (fun s₁ => ∀ t₁, s₁.tasks u = some t₁ → (t₁.pending i).getLsbD j = true)
    (fun op hop s₁ s₂ h₁ hs t₂ ht₂ => ?_) h (fun t₁ h₁ => Option.some_inj.1 (ht.symm.trans h₁) ▸ hb)
    t' ht'
  rcases Op.step_pending h₁ ht₂ with ⟨t₁, ht₁, hp⟩ | ⟨_, _, _, _, _, _, rfl, hn, -⟩ |
    ⟨_, _, _, t₁, -, -, ht₁, hp⟩
  · exact hp ▸ hs t₁ ht₁
  · exact absurd hn (hu _ _ _ _ _ _ hop)
  · rw [hp, getLsbD_addPendingSig, hs t₁ ht₁, Bool.true_or]

/-- `twoTasks` with `SIGTERM` pending for task 2. -/
def termPending : Kernel ilp32 :=
  { twoTasks with
    tasks := Function.update twoTasks.tasks 2
      (some { (Task.ofPid 2 : Task ilp32) with pending := addPendingSig (fun _ => 0) SIGTERM }) }

theorem run_pending_never_cleared_switch :
    ∃ (s' : Kernel ilp32) (t t' : Task ilp32), run termPending switchToSecond = some s' ∧
      (∀ func name fl arg newTid k,
        Op.kthreadCreate func name fl arg newTid k ∈ switchToSecond → newTid.toNat ≠ 2) ∧
      termPending.tasks 2 = some t ∧ s'.tasks 2 = some t' ∧
      (t.pending ⟨0, by decide⟩).getLsbD 14 = true ∧ (t'.pending ⟨0, by decide⟩).getLsbD 14 = true :=
  have h : run termPending switchToSecond =
      some ((run termPending switchToSecond).getD termPending) := rfl
  have hu : ∀ func name fl arg newTid k,
      Op.kthreadCreate func name fl arg newTid k ∈ switchToSecond → newTid.toNat ≠ 2 := by
    simp [switchToSecond]
  have hb : (({ (Task.ofPid 2 : Task ilp32) with
      pending := addPendingSig (fun _ => 0) SIGTERM } : Task ilp32).pending ⟨0, by decide⟩).getLsbD 14 =
      true := by decide
  ⟨_, _, _, h, hu, rfl, rfl, hb, run_pending_never_cleared h hu rfl rfl _ _ hb⟩

end NeverCleared

/-! ### Every pending signal was sent -/

/-- Every signal position pending for a thread of `s'` was pending for that thread in `s`, or was
sent to it by one of `ops`. -/
def PendingFrom (s : Kernel cfg) (ops : List Op) (s' : Kernel cfg) : Prop :=
  ∀ u t' p, s'.tasks u = some t' → t'.pending.bit p = true →
    (∃ t, s.tasks u = some t ∧ t.pending.bit p = true) ∨ ∃ pid wp, Op.send pid u (p + 1) wp ∈ ops

section Sent

variable {s s' s₁ s₂ : Kernel cfg} {ops : List Op}

theorem PendingFrom.refl (s : Kernel cfg) (ops : List Op) : PendingFrom s ops s :=
  fun _ t _ ht hp => .inl ⟨t, ht, hp⟩

/-- With a 32-bit `ulong`, a step of the run `ops` keeps the invariant: the one bit a send adds is
the bit of the signal it sent. -/
theorem Op.step_pendingFrom (h32 : cfg.nbits = 32) {op : Op} (hop : op ∈ ops)
    (h : op.step s₁ = some s₂) (hs : PendingFrom s ops s₁) : PendingFrom s ops s₂ := by
  intro u t₂ p ht₂ hp
  rcases Op.step_pending h ht₂ with ⟨t₁, ht₁, hpend⟩ | ⟨-, -, -, -, -, -, -, -, hpend⟩ |
    ⟨pid, signum, wp, t₁, rfl, hpos, ht₁, hpend⟩
  · exact hs u t₁ p ht₁ (hpend ▸ hp)
  · simp [hpend, Words.bit] at hp
  · rw [hpend, bit_addPendingSig (maskExact_of_nbits_32 h32 _)] at hp
    by_cases hps : p = signum.toNat - 1
    · exact .inr ⟨pid, wp, by rwa [show (p : Int) + 1 = signum by omega]⟩
    · simp only [hps, decide_False, Bool.false_and, Bool.or_false] at hp
      exact hs u t₁ p ht₁ hp

/-- **Every signal pending at the end of a run was pending at its start or sent during it**, with a
32-bit `ulong`: a bit set in the pending words of the thread `u` is the bit of a signal `u` had
pending when the run started, or of a signal `p + 1` that a `send_signal2` of the run sent to the
thread `u` itself.  No switch, new thread, handler or mask call sets a pending bit, and a send sets
no bit of another thread and no bit of another signal. -/
theorem run_pending_from_sends (h32 : cfg.nbits = 32) (h : run s ops = some s') {u p : Nat}
    {t' : Task cfg} (ht' : s'.tasks u = some t') (hp : t'.pending.bit p = true) :
    (∃ t, s.tasks u = some t ∧ t.pending.bit p = true) ∨ ∃ pid wp, Op.send pid u (p + 1) wp ∈ ops :=
  run_invariant _ (fun _ hop _ _ => Op.step_pendingFrom h32 hop) h (PendingFrom.refl s ops)
    u t' p ht' hp

theorem run_pending_from_sends_sigterm :
    ∃ (s' : Kernel ilp32) (t' : Task ilp32), run twoTasks termThenSwitch = some s' ∧
      s'.tasks 2 = some t' ∧ t'.pending.bit 14 = true ∧
      ((∃ t, twoTasks.tasks 2 = some t ∧ t.pending.bit 14 = true) ∨
        ∃ pid wp, Op.send pid (2 : Nat) (14 + 1) wp ∈ termThenSwitch) :=
  have h : run twoTasks termThenSwitch =
      some ((run twoTasks termThenSwitch).getD twoTasks) := rfl
  have hp : ((((run twoTasks termThenSwitch).getD twoTasks).tasks 2).getD (Task.ofPid 2)).pending.bit
      14 = true := by decide
  ⟨_, _, h, rfl, hp, run_pending_from_sends rfl h rfl hp⟩

/-- **A context switch terminates a process only for a signal sent to its current thread**, with a
32-bit `ulong`: when the `switch_to_task` that follows a run terminates a process, it exits with
code `0` and a signal `sig` that the current thread `c` had pending when the run started, or that a
`send_signal2` of the run sent to `c` itself.  The signal check reads the outgoing thread, not the
one the switch enters. -/
theorem run_switch_terminates_for_sent_signal (h32 : cfg.nbits = 32) (h : run s ops = some s₁)
    {ti : Nat} {code sig : Int} (hsw : switchToTask ti s₁ = .exit (.terminateProcess code sig) s₂) :
    code = 0 ∧ 0 < sig ∧ ∃ c, s₁.curr = some c ∧
      ((∃ t, s.tasks c = some t ∧ isPendingSig t.pending sig.toNat = true) ∨
        ∃ pid wp, Op.send pid c sig wp ∈ ops) := by
  obtain ⟨rfl, c, tc, hc, htc, rfl, hsig⟩ := switchToTask_terminateProcess hsw
  refine ⟨rfl, hsig, c, hc, ?_⟩
  rcases run_invariant _ (fun _ hop _ _ => Op.step_pendingFrom h32 hop) h (PendingFrom.refl s ops)
      c tc _ htc (bit_getFirstPendingSig hsig) with ⟨t, ht, hp⟩ | ⟨pid, wp, hmem⟩
  · exact .inl ⟨t, ht, by rwa [isPendingSig_of_exact (maskExact_of_nbits_32 h32 _)]⟩
  · exact .inr ⟨pid, wp, by rwa [show ((getFirstPendingSig tc.pending).toNat - 1 : Nat) + 1 =
      getFirstPendingSig tc.pending by omega] at hmem⟩

theorem run_switch_terminates_for_sent_signal_sigterm :
    ∃ s₁ s₂ : Kernel ilp32, run twoTasks termThenSwitch = some s₁ ∧
      switchToTask 1 s₁ = .exit (.terminateProcess 0 15) s₂ ∧
      ((0 : Int) = 0 ∧ (0 : Int) < 15 ∧ ∃ c, s₁.curr = some c ∧
        ((∃ t, twoTasks.tasks c = some t ∧ isPendingSig t.pending (15 : Int).toNat = true) ∨
          ∃ pid wp, Op.send pid c 15 wp ∈ termThenSwitch)) :=
  have h : run twoTasks termThenSwitch =
      some ((run twoTasks termThenSwitch).getD twoTasks) := rfl
  have hsw : switchToTask 1 ((run twoTasks termThenSwitch).getD twoTasks) =
      .exit (.terminateProcess 0 15)
        (switchToTask 1 ((run twoTasks termThenSwitch).getD twoTasks)).state := rfl
  ⟨_, _, h, hsw, run_switch_terminates_for_sent_signal rfl h hsw⟩

end Sent

end Tilck
