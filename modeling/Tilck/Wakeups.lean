import Tilck.System
/-!
**Which tasks a signal wakes.**

Of the code `send_signal2` runs, two places write a task's state.  `action_terminate` makes its
target `RUNNABLE` when it sleeps on a wait object that is neither a mutex nor a semaphore, unless
the target is `vfork_stopped`, and it never gets there for the current task, whose process it
terminates instead.  `action_stop` and `action_continue` call `wake_up_tasks_waiting_on`, which
makes `RUNNABLE` every task asleep on a `WOBJ_TASK` wait object for the target.  So a send changes
a state only from `SLEEPING` to `RUNNABLE`, and never that of a task asleep on a mutex or a
semaphore; and the target itself is woken only by `action_terminate`, or by its own stop or
continue when it waits on itself, which `action_stop` does not guard against.  A task waits on a
`WOBJ_TASK` object for another task; nothing in the sources makes a task wait on itself, and the
main result is stated for a target that does not.

Main definitions:

* `Tilck.Task.WokenOrSame` — a task keeps its state and wait object, or is woken from a sleep on
  neither a mutex nor a semaphore;
* `Tilck.Task.SleepsOnLock` — a task sleeps on a mutex or a semaphore;
* `Tilck.Op.isSend` — an operation is a `send_signal2`.

Main results:

* `Tilck.sendSignal2_wokenOrSame` — a send changes each task at most by waking it;
* `Tilck.sendSignal2_target_woken` — when it wakes its target;
* `Tilck.signals_never_wake_mutex_sleepers` — both, and a run of sends leaves every task that
  sleeps on a mutex or a semaphore asleep.
-/

set_option relaxedAutoImplicit false
set_option autoImplicit false

namespace Tilck

variable {cfg : Config}

/-! ### What a send does to a task's state -/

/-- `t'` has the state and the wait object of `t`, or `t` slept on a wait object that is neither
`WOBJ_KMUTEX` nor `WOBJ_SEM` and `t'` is `RUNNABLE`. -/
def Task.WokenOrSame (t t' : Task cfg) : Prop :=
  t'.state = t.state ∧ t'.wobj = t.wobj ∨
    t.state = .sleeping ∧ t'.state = .runnable ∧ t.wobj.type ≠ .kmutex ∧ t.wobj.type ≠ .sem

/-- The task sleeps on a mutex or a semaphore. -/
def Task.SleepsOnLock (t : Task cfg) : Prop :=
  t.state = .sleeping ∧ (t.wobj.type = .kmutex ∨ t.wobj.type = .sem)

theorem Task.WokenOrSame.refl (t : Task cfg) : t.WokenOrSame t := .inl ⟨rfl, rfl⟩

/-- A task woken or left as it was still sleeps on the same mutex or semaphore. -/
theorem Task.WokenOrSame.sleepsOnLock {t t' : Task cfg} (h : t.WokenOrSame t')
    (hs : t.SleepsOnLock) : t'.SleepsOnLock ∧ t'.wobj = t.wobj := by
  rcases h with ⟨hst, hw⟩ | ⟨-, -, hm, hsem⟩
  · exact ⟨⟨hst.trans hs.1, hw ▸ hs.2⟩, hw⟩
  · exact absurd hs.2 (by simp [hm, hsem])

/-- **Each action changes a task at most by waking it.** -/
theorem Action.onTask_wokenOrSame {ti signum : Nat} {t : Task cfg} (a : Action) (u : Nat)
    (t₀ : Task cfg) : t₀.WokenOrSame (a.onTask ti signum t u t₀) := by
  have hwake : ∀ t₁ : Task cfg, t₁.wobj = t₀.wobj → t₁.state = t₀.state →
      t₀.WokenOrSame (Task.wake ti t₁) := fun t₁ hw hs => by
    unfold Task.wake
    split_ifs with h
    · exact .inr ⟨hs ▸ h.1, rfl, by simp [← hw, h.2], by simp [← hw, h.2]⟩
    · exact .inl ⟨hs, hw⟩
  cases a with
  | terminate =>
    simp only [Action.onTask, Task.terminated]
    split_ifs with hu hv h <;> first
      | exact .refl _
      | exact .inl ⟨rfl, rfl⟩
      | exact .inr ⟨h.1, rfl, h.2⟩
  | ignore => exact .refl _
  | stop => simp only [Action.onTask]; split_ifs <;> exact hwake _ rfl rfl
  | cont => simp only [Action.onTask]; split_ifs <;> first | exact .refl _ | exact hwake _ rfl rfl

/-- The target's state changes only under `action_terminate` on a target that is not
`vfork_stopped`, or when the target waits on itself. -/
theorem Action.onTask_target_state {ti signum : Nat} {t : Task cfg} (a : Action)
    (h : (a.onTask ti signum t ti t).state ≠ t.state) :
    a = .terminate ∧ t.vforkStopped = false ∨ t.wobj = ⟨.task, ti⟩ := by
  have hwake : ∀ t₁ : Task cfg, (Task.wake ti t₁).state ≠ t.state → t₁.wobj = t.wobj →
      t₁.state = t.state → t.wobj = ⟨.task, ti⟩ := fun t₁ hne hw hs => by
    unfold Task.wake at hne
    split_ifs at hne with hc
    · exact hw ▸ hc.2
    · exact absurd hs hne
  cases a with
  | terminate =>
    simp only [Action.onTask, ite_true, Task.terminated] at h
    split_ifs at h with hv hc
    · exact absurd rfl h
    · exact .inl ⟨rfl, by simpa using hv⟩
    · exact absurd rfl h
  | ignore => exact absurd rfl h
  | stop =>
    simp only [Action.onTask, ite_true] at h
    exact .inr (hwake _ h rfl rfl)
  | cont =>
    simp only [Action.onTask, ite_true] at h
    split_ifs at h with hv
    · exact absurd rfl h
    · exact .inr (hwake _ h rfl rfl)

section Send

variable {s s' : Kernel cfg} {pid tid signum rc : Int} {wp : Bool}

/-- **A send changes each task at most by waking it.** -/
theorem sendSignal2_wokenOrSame (h : sendSignal2 pid tid signum wp s = .ret rc s') {u : Nat}
    {t₀ : Task cfg} (ht : s.tasks u = some t₀) :
    ∃ t₁, s'.tasks u = some t₁ ∧ t₀.WokenOrSame t₁ := by
  rcases sendSignal2_ret h with rfl | ⟨t, p, a, hr, -, -, -, -, rfl⟩
  · exact ⟨t₀, ht, .refl t₀⟩
  · exact ⟨_, by rw [Action.effect_tasks hr.2.1, ht]; rfl, Action.onTask_wokenOrSame ..⟩

/-- **A send wakes a target that does not wait on itself only when the target is neither the
current task nor `vfork_stopped`.** -/
theorem sendSignal2_target_woken (h : sendSignal2 pid tid signum wp s = .ret rc s')
    {t t' : Task cfg} (ht : s.tasks tid.toNat = some t) (hself : t.wobj ≠ ⟨.task, tid.toNat⟩)
    (ht' : s'.tasks tid.toNat = some t') (hne : t'.state ≠ t.state) :
    s.curr ≠ some tid.toNat ∧ t.vforkStopped = false := by
  rcases sendSignal2_ret h with rfl | ⟨t₁, p, a, hr, -, -, -, hc, rfl⟩
  · exact absurd (by rw [ht] at ht'; rw [Option.some_inj.1 ht']) hne
  · obtain rfl : t₁ = t := Option.some_inj.1 (hr.2.1.symm.trans ht)
    rw [Action.effect_tasks ht, ht] at ht'
    obtain rfl := Option.some_inj.1 ht'
    rcases Action.onTask_target_state a hne with ⟨rfl, hv⟩ | hw
    · exact ⟨hc rfl, hv⟩
    · exact absurd hw hself

end Send

/-! ### Runs of sends -/

/-- `op` is a `send_signal2`. -/
def Op.isSend : Op → Bool
  | .send .. => true
  | _ => false

/-- A run of sends keeps a task asleep on its mutex or semaphore. -/
theorem run_sends_keep_lock_sleeper {s s' : Kernel cfg} {ops : List Op}
    (hops : ∀ op ∈ ops, op.isSend) (h : run s ops = some s') {u : Nat} {t : Task cfg}
    (ht : s.tasks u = some t) (hs : t.SleepsOnLock) :
    ∃ t', s'.tasks u = some t' ∧ t'.SleepsOnLock ∧ t'.wobj = t.wobj := by
  refine run_invariant (fun s₁ => ∃ t', s₁.tasks u = some t' ∧ t'.SleepsOnLock ∧ t'.wobj = t.wobj)
    (fun op hop s₁ s₂ h₁ ⟨t₁, ht₁, hs₁, hw₁⟩ => ?_) h ⟨t, ht, hs, rfl⟩
  cases op with
  | send pid tid signum wp =>
    obtain ⟨rc, h₁⟩ := Outcome.returned_eq_some.1 h₁
    obtain ⟨t₂, ht₂, hwo⟩ := sendSignal2_wokenOrSame h₁ ht₁
    obtain ⟨hs₂, hw₂⟩ := hwo.sleepsOnLock hs₁
    exact ⟨t₂, ht₂, hs₂, hw₂.trans hw₁⟩
  | _ => cases hops _ hop

/-- **Signals never wake mutex or semaphore sleepers.**  A `send_signal2` that returns changes a
task's state only from `SLEEPING` to `RUNNABLE`, on a wait object that is neither `WOBJ_KMUTEX`
nor `WOBJ_SEM`, and leaves the state and the wait object of every other task as they were; a
target that does not sleep on a `WOBJ_TASK` wait object for itself has its state changed only
when it is neither the current task nor `vfork_stopped`; and a run of sends leaves every task
asleep on a mutex or a semaphore asleep on it. -/
theorem signals_never_wake_mutex_sleepers :
    (∀ {s s' : Kernel cfg} {pid tid signum rc : Int} {wp : Bool},
      sendSignal2 pid tid signum wp s = .ret rc s' →
      (∀ u t, s.tasks u = some t → ∃ t', s'.tasks u = some t' ∧ t.WokenOrSame t') ∧
      ∀ t t', s.tasks tid.toNat = some t → t.wobj ≠ ⟨.task, tid.toNat⟩ →
        s'.tasks tid.toNat = some t' → t'.state ≠ t.state →
        t.state = .sleeping ∧ t'.state = .runnable ∧ s.curr ≠ some tid.toNat ∧
          t.vforkStopped = false ∧ t.wobj.type ≠ .kmutex ∧ t.wobj.type ≠ .sem) ∧
    ∀ {s s' : Kernel cfg} {ops : List Op}, (∀ op ∈ ops, op.isSend) → run s ops = some s' →
      ∀ u t, s.tasks u = some t → t.SleepsOnLock →
        ∃ t', s'.tasks u = some t' ∧ t'.SleepsOnLock ∧ t'.wobj = t.wobj := by
  refine ⟨fun h => ⟨fun _ _ ht => sendSignal2_wokenOrSame h ht, fun t t' ht hself ht' hne => ?_⟩,
    fun hops h _ _ ht hs => run_sends_keep_lock_sleeper hops h ht hs⟩
  obtain ⟨t₁, ht₁, hwo⟩ := sendSignal2_wokenOrSame h ht
  obtain rfl := Option.some_inj.1 (ht₁.symm.trans ht')
  obtain ⟨hc, hv⟩ := sendSignal2_target_woken h ht hself ht₁ hne
  rcases hwo with ⟨hst, -⟩ | ⟨hsl, hru, hm, hsem⟩
  · exact absurd hst hne
  · exact ⟨hsl, hru, hc, hv, hm, hsem⟩

/-- Task 2 of process 2 asleep on a condition variable, while task 1 is current. -/
def condSleeper : Kernel ilp32 :=
  { (Kernel.withTask 2 : Kernel ilp32) with
    tasks := fun u => if u = 2 then
      some { Task.ofPid 2 with state := .sleeping, wobj := ⟨.kcond, 7⟩ } else none
    curr := some 1 }

/-- `SIGTERM` to the sleeping task 2: `action_terminate` wakes it. -/
theorem signals_never_wake_mutex_sleepers_cond_sleeper :
    ∃ s', sendSignal2 2 2 SIGTERM false condSleeper = .ret 0 s' ∧
      (∀ u t, condSleeper.tasks u = some t → ∃ t', s'.tasks u = some t' ∧ t.WokenOrSame t') ∧
      ∀ t t', condSleeper.tasks (2 : Int).toNat = some t → t.wobj ≠ ⟨.task, (2 : Int).toNat⟩ →
        s'.tasks (2 : Int).toNat = some t' → t'.state ≠ t.state →
        t.state = .sleeping ∧ t'.state = .runnable ∧ condSleeper.curr ≠ some (2 : Int).toNat ∧
          t.vforkStopped = false ∧ t.wobj.type ≠ .kmutex ∧ t.wobj.type ≠ .sem :=
  have h : sendSignal2 2 2 SIGTERM false condSleeper =
      .ret 0 (sendSignal2 2 2 SIGTERM false condSleeper).state := rfl
  ⟨_, h, signals_never_wake_mutex_sleepers.1 h⟩

end Tilck
