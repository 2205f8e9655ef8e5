import Mathlib.Data.BitVec
import Mathlib.Logic.Function.Basic
/-!
**The build parameters and the ABI constants of the signal and scheduling core.**

The code in `kernel/signal.c` and in the RISC-V part of the process code is written against a
handful of constants that are declared in headers outside the sources modelled here.  Three of
them change from one build to the next and are kept as parameters, collected in
`Tilck.Config`: `NBITS`, the width of `ulong` (32 or 64), `K_SIGACTION_MASK_WORDS`, the number
of `ulong` words of a signal set, and `_NSIG`, the size of the per-process handler table; the
link-time addresses the code stores in a new thread's registers are kept there too.  The
others are fixed by the ABI the kernel implements and are written out with their values: the
generic signal numbers, the `errno` values the code returns, the `sa_flags` bits, the
`sigprocmask` modes, the two special handlers `SIG_DFL` and `SIG_IGN`, the wait-status codes and
the RISC-V `sstatus` bits that `switch_to_task` and `kthread_create2` read and write.

Main definitions:

* `Tilck.Config` — the three build parameters, with `NBITS ∈ {32, 64}` carried as a field;
* `Tilck.Words` — an array of `K_SIGACTION_MASK_WORDS` words of `NBITS` bits: the type of a
  task's pending signals and of a process's blocked mask;
* `Tilck.wordBytes`, `Tilck.saMaskSize`, `Tilck.kSigactionSize` — `sizeof(ulong)`,
  `sizeof(sa_mask)` and `sizeof(struct k_sigaction)`.
-/

set_option relaxedAutoImplicit false
set_option autoImplicit false

namespace Tilck

/-! ### Build parameters -/

/-- The build parameters the code depends on. -/
structure Config where
  /-- `NBITS`: the width of `ulong`. -/
  nbits : Nat
  nbits_cases : nbits = 32 ∨ nbits = 64
  /-- `K_SIGACTION_MASK_WORDS`: the number of `ulong` words of a signal set. -/
  maskWords : Nat
  /-- `_NSIG`: the size of the handler table `sa_handlers`. -/
  nsig : Nat
  /-- The default-action table `signal_default_actions[_NSIG]` has an entry for `SIGSYS`, 31. -/
  nsig_gt : 31 < nsig
  /-- The link-time addresses of `asm_trap_entry_resume` and `kthread_exit`. -/
  asmTrapEntryResume : Nat := 0
  kthreadExit : Nat := 0

/-- An array of `K_SIGACTION_MASK_WORDS` words of `NBITS` bits, as `pending_signums` and
`sa_mask` are. -/
abbrev Words (cfg : Config) := Fin cfg.maskWords → BitVec cfg.nbits

/-- `sizeof(ulong)`. -/
def wordBytes (cfg : Config) : Nat := cfg.nbits / 8

/-- `sizeof(sa_mask)`, the only `sigsetsize` that `sys_rt_sigaction` accepts. -/
def saMaskSize (cfg : Config) : Nat := cfg.maskWords * wordBytes cfg

/-- `sizeof(struct k_sigaction)`: the handler, `sa_flags`, the restorer and `sa_mask`, each
field a whole number of `ulong` words. -/
def kSigactionSize (cfg : Config) : Nat := (3 + cfg.maskWords) * wordBytes cfg

theorem wordBytes_pos (cfg : Config) : 0 < wordBytes cfg := by
  rcases cfg.nbits_cases with h | h <;> simp [wordBytes, h]

theorem nbits_pos (cfg : Config) : 0 < cfg.nbits := by
  rcases cfg.nbits_cases with h | h <;> omega

theorem nbits_ge (cfg : Config) : 32 ≤ cfg.nbits := by
  rcases cfg.nbits_cases with h | h <;> omega

/-! ### Signal numbers -/

/-- The signals named in the default-action table, with their generic numbers. -/
def SIGHUP : Nat := 1
def SIGINT : Nat := 2
def SIGQUIT : Nat := 3
def SIGILL : Nat := 4
def SIGTRAP : Nat := 5
def SIGABRT : Nat := 6
def SIGBUS : Nat := 7
def SIGFPE : Nat := 8
def SIGKILL : Nat := 9
def SIGUSR1 : Nat := 10
def SIGSEGV : Nat := 11
def SIGUSR2 : Nat := 12
def SIGPIPE : Nat := 13
def SIGALRM : Nat := 14
def SIGTERM : Nat := 15
def SIGCHLD : Nat := 17
def SIGCONT : Nat := 18
def SIGSTOP : Nat := 19
def SIGTSTP : Nat := 20
def SIGTTIN : Nat := 21
def SIGTTOU : Nat := 22
def SIGURG : Nat := 23
def SIGXCPU : Nat := 24
def SIGXFSZ : Nat := 25
def SIGVTALRM : Nat := 26
def SIGPROF : Nat := 27
def SIGPOLL : Nat := 29
def SIGSYS : Nat := 31

/-- The special handler values: `SIG_DFL` is the null handler, `SIG_IGN` is `1`. -/
def SIG_DFL : Nat := 0
def SIG_IGN : Nat := 1

/-! ### Errors, flags and modes -/

def ESRCH : Int := 3
def EAGAIN : Int := 11
def ENOMEM : Int := 12
def EFAULT : Int := 14
def EINVAL : Int := 22

/-- The `sa_flags` bits that `sigaction_int` tests. -/
def SA_NOCLDSTOP : Nat := 0x1
def SA_NOCLDWAIT : Nat := 0x2
def SA_SIGINFO : Nat := 0x4
def SA_ONSTACK : Nat := 0x08000000
def SA_RESTART : Nat := 0x10000000
def SA_NODEFER : Nat := 0x40000000
def SA_RESETHAND : Nat := 0x80000000

/-- The `how` argument of `sys_rt_sigprocmask`. -/
def SIG_BLOCK : Int := 0
def SIG_UNBLOCK : Int := 1
def SIG_SETMASK : Int := 2

/-- The flags of `kthread_create2`. -/
def KTH_ALLOC_BUFS : Nat := 0x1
def KTH_WORKER_THREAD : Nat := 0x2

/-- The flags the fault handlers pass to `send_signal`. -/
def SIG_FL_PROCESS : Nat := 0x1
def SIG_FL_FAULT : Nat := 0x2

/-- The wait status of a task stopped by `sig`, and of a continued task. -/
def STOPCODE (sig : Nat) : Nat := sig <<< 8 ||| 0x7f
def CONTINUED : Nat := 0xffff

/-- The size of `zero_page`. -/
def PAGE_SIZE : Nat := 4096

/-! ### RISC-V `sstatus` bits -/

def SR_SIE : Nat := 0x2
def SR_SPIE : Nat := 0x20
def SR_SPP : Nat := 0x100
def SR_FS : Nat := 0x6000
def SR_SUM : Nat := 0x40000

end Tilck
