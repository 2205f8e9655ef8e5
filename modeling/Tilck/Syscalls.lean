import Tilck.Signal
/-!
**The signal system calls: `sys_rt_sigaction` and `sys_rt_sigprocmask`.**

The syscall half of `kernel/signal.c`.  `sys_rt_sigaction` validates the signal number and the
set size, reads the old disposition with preemption disabled, installs the new one through
`sigaction_int`, which copies the user's `struct k_sigaction` and refuses four `sa_flags`, and
copies the old disposition out last.  `sys_rt_sigprocmask` copies the blocked mask out to
`user_oldset`, padded with the bytes from `zero_page` on, and then reads `user_set` word by word,
applying each word to the mask as soon as it is read.  The three legacy entry points are
`NOT_IMPLEMENTED()`.

User structures are read and written as the bytes of their little-endian layout, since the copy
routines deal in bytes and `sys_rt_sigprocmask` copies a caller-chosen number of them.

Main definitions:

* `Tilck.KSigaction` — `struct k_sigaction`, with `Tilck.KSigaction.ofBytes` and
  `Tilck.KSigaction.toBytes`;
* `Tilck.sigactionInt`, `Tilck.sysRtSigaction`;
* `Tilck.sigprocmaskHow`, `Tilck.sigprocmaskLoop`, `Tilck.sysRtSigprocmask`;
* `Tilck.sysSigprocmask`, `Tilck.sysSigaction`, `Tilck.sysSignal`.

Main results:

* `Tilck.sysRtSigaction_ret`, `Tilck.sysRtSigaction_handlers` — what `sys_rt_sigaction` does when
  it returns;
* `Tilck.sysRtSigaction_error_handlers`, `Tilck.sysRtSigaction_faulting_oldact_installs` — a
  failing call keeps the handler table unless the copy to `user_oldact` faults, which it does
  after the new handler is installed;
* `Tilck.sysRtSigprocmask_ret`, `Tilck.sysRtSigprocmask_error_updates_prefix`,
  `Tilck.sysRtSigprocmask_success_updates_all` — the words of `user_set` applied to the mask.
-/

set_option relaxedAutoImplicit false
set_option autoImplicit false

namespace Tilck

variable {cfg : Config}

/-! ### Bytes -/

/-- The value of little-endian bytes. -/
def leValue (bs : List UInt8) : Nat := bs.foldr (fun b acc => b.toNat + 256 * acc) 0

/-- The `n` little-endian bytes of `v`. -/
def leBytes (n v : Nat) : List UInt8 := (List.range n).map fun i => UInt8.ofNat (v / 256 ^ i)

/-- The bytes of a word array as it lies in memory. -/
def Words.bytes (P : Words cfg) : List UInt8 :=
  (List.finRange cfg.maskWords).flatMap fun i => leBytes (wordBytes cfg) (P i).toNat

/-- `struct k_sigaction`: the handler, `sa_flags`, the restorer and `sa_mask`. -/
structure KSigaction (cfg : Config) where
  handler : Nat
  saFlags : Nat
  restorer : Nat
  saMask : Words cfg

/-- The word at word offset `k` of a byte image. -/
def wordAt (cfg : Config) (bs : List UInt8) (k : Nat) : Nat :=
  leValue ((bs.drop (k * wordBytes cfg)).take (wordBytes cfg))

/-- A `struct k_sigaction` read from its bytes. -/
def KSigaction.ofBytes (bs : List UInt8) : KSigaction cfg where
  handler := wordAt cfg bs 0
  saFlags := wordAt cfg bs 1
  restorer := wordAt cfg bs 2
  saMask := fun i => BitVec.ofNat _ (wordAt cfg bs (3 + i))

/-- The bytes of a `struct k_sigaction`. -/
def KSigaction.toBytes (a : KSigaction cfg) : List UInt8 :=
  leBytes (wordBytes cfg) a.handler ++ leBytes (wordBytes cfg) a.saFlags ++
    leBytes (wordBytes cfg) a.restorer ++ a.saMask.bytes

/-! ### `sys_rt_sigaction` -/

/-- The `sa_flags` bits that `sigaction_int` refuses with `-EINVAL`, in the order it tests
them. -/
def unsupportedSaFlags : List Nat := [SA_NOCLDSTOP, SA_NOCLDWAIT, SA_SIGINFO, SA_ONSTACK]

/-- `sigaction_int`: copy the user's `struct k_sigaction`, refuse the unsupported flags, and
install the handler at index `signum - 1`.  `SA_RESETHAND`, `SA_NODEFER` and `SA_RESTART` are
accepted and have no effect. -/
def sigactionInt (signum : Int) (userAct : Nat) : KM cfg Int := do
  let curr ← currTask
  match ← copyFromUser userAct (kSigactionSize cfg) with
  | none => pure (-EFAULT)
  | some bytes =>
    let act : KSigaction cfg := .ofBytes bytes
    if unsupportedSaFlags.any fun f => act.saFlags &&& f != 0 then
      pure (-EINVAL)
    else
      modifyProc (← task curr).pid fun p =>
        { p with saHandlers := Function.update p.saHandlers (signum.toNat - 1) act.handler }
      pure 0

/-- The `oldact` that `sys_rt_sigaction` fills: the handler of `signum`, no flags, no restorer,
and the blocked mask. -/
def oldKSigaction (p : Process cfg) (signum : Int) : KSigaction cfg :=
  { handler := p.saHandlers (signum.toNat - 1), saFlags := 0, restorer := 0, saMask := p.saMask }

/-- `sys_rt_sigaction`: the old disposition is read before the new one is installed, both with
preemption disabled, and copied out afterwards, only when the installation succeeded. -/
def sysRtSigaction (signum : Int) (userAct userOldact sigsetsize : Nat) : KM cfg Int := do
  if ¬ (1 ≤ signum ∧ signum < cfg.nsig) then
    pure (-EINVAL)
  else if signum = SIGKILL ∨ signum = SIGSTOP then
    pure (-EINVAL)
  else if sigsetsize ≠ saMaskSize cfg then
    pure (-EINVAL)
  else
    disablePreemption
    let oldact ← (if userOldact ≠ 0 then do pure (some (oldKSigaction (← getCurrProc) signum))
      else pure none)
    let rc ← (if userAct ≠ 0 then sigactionInt signum userAct else pure 0)
    enablePreemption
    match oldact with
    | some a =>
      if rc = 0 then
        if ← copyToUser userOldact a.toBytes then pure rc else pure (-EFAULT)
      else pure rc
    | none => pure rc

/-! ### What `sys_rt_sigaction` does -/

/-- `sys_rt_sigaction` gets past its three argument checks. -/
def SigactionArgsOk (cfg : Config) (signum : Int) (sigsetsize : Nat) : Prop :=
  (1 ≤ signum ∧ signum < cfg.nsig) ∧ ¬ (signum = SIGKILL ∨ signum = SIGSTOP) ∧
    sigsetsize = saMaskSize cfg

/-- The process with the handler at index `i` set to `h`. -/
def Process.setHandler (p : Process cfg) (i h : Nat) : Process cfg :=
  { p with saHandlers := Function.update p.saHandlers i h }

/-- The state with the process `pid`, which is `p`, given the handler `h` at index `i`. -/
def Kernel.setHandler (s : Kernel cfg) (pid : Nat) (p : Process cfg) (i h : Nat) : Kernel cfg :=
  { s with procs := Function.update s.procs pid (some (p.setHandler i h)) }

/-- The handler tables: `sa_handlers` of each process there is. -/
def Kernel.handlers (s : Kernel cfg) (pid : Nat) : Option (Nat → Nat) :=
  (s.procs pid).map Process.saHandlers

theorem Kernel.handlers_setHandler (s : Kernel cfg) (pid : Nat) (p : Process cfg) (i h : Nat) :
    (s.setHandler pid p i h).handlers =
      Function.update s.handlers pid (some (Function.update p.saHandlers i h)) := by
  funext q
  by_cases hq : q = pid
  · subst hq
    simp [Kernel.handlers, Kernel.setHandler, Process.setHandler]
  · simp [Kernel.handlers, Kernel.setHandler, hq]

section Sigaction

variable {s s' : Kernel cfg} {signum rc : Int} {userAct userOldact sigsetsize : Nat}

/-- **What `sigaction_int` does when it returns**: it fails with nothing changed, or it returns `0`
having set the current process's handler of `signum` to the one read from `user_act`. -/
theorem sigactionInt_ret (h : sigactionInt signum userAct s = .ret rc s') :
    rc ≠ 0 ∧ s' = s ∨ rc = 0 ∧ ∃ t p bytes, s.CurrProc t p ∧
      s.mem.read userAct (kSigactionSize cfg) = some bytes ∧
      s' = s.setHandler t.pid p (signum.toNat - 1)
        (KSigaction.ofBytes bytes : KSigaction cfg).handler := by
  cases hc : s.curr with
  | none => simp [sigactionInt, currTask, hc] at h
  | some c =>
    cases hb : s.mem.read userAct (kSigactionSize cfg) with
    | none =>
      simp only [sigactionInt, currTask, hc, KM.bind_apply, Outcome.bind_ret, copyFromUser_apply,
        hb, KM.pure_apply, Outcome.ret.injEq] at h
      exact .inl ⟨by simp [← h.1, EFAULT], h.2.symm⟩
    | some bytes =>
      by_cases hf : unsupportedSaFlags.any fun f =>
          (KSigaction.ofBytes bytes : KSigaction cfg).saFlags &&& f != 0
      · simp only [sigactionInt, currTask, hc, KM.bind_apply, Outcome.bind_ret, copyFromUser_apply,
          hb, hf, ite_true, KM.pure_apply, Outcome.ret.injEq] at h
        exact .inl ⟨by simp [← h.1, EINVAL], h.2.symm⟩
      · simp only [sigactionInt, currTask, hc, KM.bind_apply, Outcome.bind_ret, copyFromUser_apply,
          hb, hf, Bool.false_eq_true, ite_false] at h
        cases ht : s.tasks c with
        | none => simp [task, ht] at h
        | some t =>
          cases hp : s.procs t.pid with
          | none => simp [task, ht, hp, modifyProc] at h
          | some p =>
            simp only [task_of_some ht, KM.bind_apply, modifyProc_of_some hp, Outcome.bind_ret,
              KM.pure_apply, Outcome.ret.injEq] at h
            exact .inr ⟨h.1.symm, t, p, bytes, ⟨c, hc, ht, hp⟩, rfl, h.2.symm⟩

theorem sysRtSigaction_of_not_ok (h : ¬ SigactionArgsOk cfg signum sigsetsize) :
    sysRtSigaction signum userAct userOldact sigsetsize s = .ret (-EINVAL) s := by
  unfold sysRtSigaction
  by_cases h₁ : 1 ≤ signum ∧ signum < cfg.nsig
  · by_cases h₂ : signum = SIGKILL ∨ signum = SIGSTOP
    · rw [if_neg (not_not.2 h₁), if_pos h₂]; rfl
    · rw [if_neg (not_not.2 h₁), if_neg h₂, if_pos fun h₃ => h ⟨h₁, h₂, h₃⟩]; rfl
  · rw [if_pos h₁]; rfl

/-- **What `sys_rt_sigaction` does when it returns**: it fails having changed nothing, or, past its
argument checks, it sets the handler of `signum` read from `user_act` when `user_act` is not
`NULL`, and then writes the old disposition to `user_oldact` when that is not `NULL` and the
call has succeeded so far. -/
theorem sysRtSigaction_ret
    (h : sysRtSigaction signum userAct userOldact sigsetsize s = .ret rc s') :
    rc ≠ 0 ∧ s' = s ∨ SigactionArgsOk cfg signum sigsetsize ∧ ∃ s₁,
      (userAct = 0 ∧ s₁ = s ∨ userAct ≠ 0 ∧ ∃ t p bytes, s.CurrProc t p ∧
        s.mem.read userAct (kSigactionSize cfg) = some bytes ∧
        s₁ = s.setHandler t.pid p (signum.toNat - 1)
          (KSigaction.ofBytes bytes : KSigaction cfg).handler) ∧
      ((userOldact = 0 ∧ rc = 0 ∨ userOldact ≠ 0 ∧ rc = -EFAULT ∧ ∃ t p, s.CurrProc t p ∧
          ¬ s.mem.canWrite userOldact (oldKSigaction p signum).toBytes.length) ∧ s' = s₁ ∨
        userOldact ≠ 0 ∧ rc = 0 ∧ ∃ t p, s.CurrProc t p ∧
          s' = { s₁ with mem := s.mem.write userOldact (oldKSigaction p signum).toBytes }) := by
  by_cases hok : SigactionArgsOk cfg signum sigsetsize
  swap
  · rw [sysRtSigaction_of_not_ok hok] at h
    cases h
    exact .inl ⟨by simp [EINVAL], rfl⟩
  obtain ⟨hr, hks, hn⟩ := hok
  rw [sysRtSigaction, if_neg (not_not.2 hr), if_neg hks, if_neg (not_not.2 hn)] at h
  simp only [KM.bind_apply, disablePreemption_apply, Outcome.bind_ret] at h
  obtain ⟨oldact, s₁, hold, h⟩ := Outcome.bind_eq_ret h
  obtain ⟨rc₀, s₂, hrc, h⟩ := Outcome.bind_eq_ret h
  simp only [KM.bind_apply, enablePreemption_apply, Outcome.bind_ret] at h
  -- the old disposition is read without a change
  have hold' : s₁ = { s with preemptDepth := s.preemptDepth + 1 } ∧
      (userOldact = 0 ∧ oldact = none ∨
        userOldact ≠ 0 ∧ ∃ t p, s.CurrProc t p ∧ oldact = some (oldKSigaction p signum)) := by
    by_cases ho : userOldact = 0
    · simp only [ho, ne_eq, not_true, ite_false, KM.pure_apply, Outcome.ret.injEq] at hold
      exact ⟨hold.2.symm, .inl ⟨ho, hold.1.symm⟩⟩
    · simp only [ho, ne_eq, not_false_eq_true, ite_true, KM.bind_apply] at hold
      obtain ⟨p, s₀, hp, hold⟩ := Outcome.bind_eq_ret hold
      obtain ⟨rfl, t, hcp⟩ := getCurrProc_ret hp
      simp only [KM.pure_apply, Outcome.ret.injEq] at hold
      exact ⟨hold.2.symm, .inr ⟨ho, t, p, hcp, hold.1.symm⟩⟩
  obtain ⟨rfl, hold'⟩ := hold'
  -- the new disposition is installed, or nothing changes
  have hrc' : rc₀ ≠ 0 ∧ s₂ = { s with preemptDepth := s.preemptDepth + 1 } ∨ rc₀ = 0 ∧ ∃ x,
      (userAct = 0 ∧ x = s ∨ userAct ≠ 0 ∧ ∃ t p bytes, s.CurrProc t p ∧
        s.mem.read userAct (kSigactionSize cfg) = some bytes ∧
        x = s.setHandler t.pid p (signum.toNat - 1)
          (KSigaction.ofBytes bytes : KSigaction cfg).handler) ∧
      s₂ = { x with preemptDepth := s.preemptDepth + 1 } := by
    by_cases ha : userAct = 0
    · simp only [ha, ne_eq, not_true, ite_false, KM.pure_apply, Outcome.ret.injEq] at hrc
      exact .inr ⟨hrc.1.symm, s, .inl ⟨ha, rfl⟩, hrc.2.symm⟩
    · simp only [ha, ne_eq, not_false_eq_true, ite_true] at hrc
      rcases sigactionInt_ret hrc with hf | ⟨h0, t, p, bytes, hcp, hb, rfl⟩
      · exact .inl hf
      · exact .inr ⟨h0, _, .inr ⟨ha, t, p, bytes, hcp, hb, rfl⟩, rfl⟩
  rcases hrc' with ⟨hne, rfl⟩ | ⟨rfl, x, hx, rfl⟩
  · -- a failed installation: nothing is copied out
    rcases hold' with ⟨-, rfl⟩ | ⟨-, t, p, -, rfl⟩ <;>
      simp only [KM.pure_apply, hne, ite_false, Outcome.ret.injEq, Nat.add_sub_cancel] at h <;>
      exact .inl ⟨h.1 ▸ hne, h.2.symm⟩
  · refine .inr ⟨⟨hr, hks, hn⟩, x, hx, ?_⟩
    have hx' : x.mem = s.mem ∧ x.preemptDepth = s.preemptDepth := by
      rcases hx with ⟨-, rfl⟩ | ⟨-, _, _, _, -, -, rfl⟩ <;> exact ⟨rfl, rfl⟩
    simp only [Nat.add_sub_cancel, ← hx'.2] at h
    rcases hold' with ⟨ho, rfl⟩ | ⟨ho, t, p, hcp, rfl⟩
    · simp only [KM.pure_apply, Outcome.ret.injEq] at h
      exact .inl ⟨.inl ⟨ho, h.1.symm⟩, h.2.symm⟩
    · simp only [ite_true, KM.bind_apply, copyToUser_apply] at h
      split_ifs at h with hw <;> simp only [Outcome.bind_ret, ite_true, Bool.false_eq_true,
        ite_false, KM.pure_apply, Outcome.ret.injEq] at h
      · exact .inr ⟨ho, h.1.symm, t, p, hcp, hx'.1 ▸ h.2.symm⟩
      · exact .inl ⟨.inr ⟨ho, h.1.symm, t, p, hcp, hx'.1 ▸ hw⟩, h.2.symm⟩

/-- `sys_rt_sigaction` leaves the tasks, the current task and the preemption counter alone. -/
theorem sysRtSigaction_frame
    (h : sysRtSigaction signum userAct userOldact sigsetsize s = .ret rc s') :
    s'.tasks = s.tasks ∧ s'.curr = s.curr ∧ s'.preemptDepth = s.preemptDepth := by
  rcases sysRtSigaction_ret h with ⟨-, rfl⟩ | ⟨-, s₁, hs₁, h'⟩
  · exact ⟨rfl, rfl, rfl⟩
  · have : s₁.tasks = s.tasks ∧ s₁.curr = s.curr ∧ s₁.preemptDepth = s.preemptDepth := by
      rcases hs₁ with ⟨-, rfl⟩ | ⟨-, _, _, _, -, -, rfl⟩ <;> exact ⟨rfl, rfl, rfl⟩
    rcases h' with ⟨-, rfl⟩ | ⟨-, -, _, _, -, rfl⟩ <;> exact this

/-- **`sys_rt_sigaction` changes at most one handler**: the one of `signum` in the current
process, when the arguments pass the checks and `user_act` is not `NULL`. -/
theorem sysRtSigaction_handlers
    (h : sysRtSigaction signum userAct userOldact sigsetsize s = .ret rc s') :
    s'.handlers = s.handlers ∨ SigactionArgsOk cfg signum sigsetsize ∧ userAct ≠ 0 ∧
      ∃ t p hnew, s.CurrProc t p ∧ s'.handlers =
        Function.update s.handlers t.pid
          (some (Function.update p.saHandlers (signum.toNat - 1) hnew)) := by
  rcases sysRtSigaction_ret h with ⟨-, rfl⟩ | ⟨hok, s₁, hs₁, h'⟩
  · exact .inl rfl
  have hs' : s'.handlers = s₁.handlers := by
    rcases h' with ⟨-, rfl⟩ | ⟨-, -, _, _, -, rfl⟩ <;> rfl
  rw [hs']
  rcases hs₁ with ⟨-, rfl⟩ | ⟨ha, t, p, _, hcp, -, rfl⟩
  · exact .inl rfl
  · exact .inr ⟨hok, ha, t, p, _, hcp, Kernel.handlers_setHandler ..⟩

/-- **A failing `sys_rt_sigaction` keeps the handler table, except when the copy to `user_oldact`
faults.**  The argument checks, the copy of `user_act` and the flag checks of `sigaction_int` fail
before anything is written; the copy to `user_oldact` comes after `sigaction_int` has installed the
handler read from `user_act`, and its fault returns `-EFAULT` with that handler installed. -/
theorem sysRtSigaction_error_handlers
    (h : sysRtSigaction signum userAct userOldact sigsetsize s = .ret rc s') (hrc : rc ≠ 0) :
    s'.handlers = s.handlers ∨ rc = -EFAULT ∧ SigactionArgsOk cfg signum sigsetsize ∧
      userAct ≠ 0 ∧ userOldact ≠ 0 ∧ ∃ t p bytes, s.CurrProc t p ∧
        s.mem.read userAct (kSigactionSize cfg) = some bytes ∧
        ¬ s.mem.canWrite userOldact (oldKSigaction p signum).toBytes.length ∧
        s'.handlers = Function.update s.handlers t.pid (some (Function.update p.saHandlers
          (signum.toNat - 1) (KSigaction.ofBytes bytes : KSigaction cfg).handler)) := by
  rcases sysRtSigaction_ret h with ⟨-, rfl⟩ | ⟨hok, s₁, hs₁, h'⟩
  · exact .inl rfl
  rcases h' with ⟨⟨-, h0⟩ | ⟨ho, hef, t', p', hcp', hw⟩, rfl⟩ | ⟨-, h0, -⟩
  · exact absurd h0 hrc
  · rcases hs₁ with ⟨-, rfl⟩ | ⟨ha, t, p, bytes, hcp, hb, rfl⟩
    · exact .inl rfl
    · obtain ⟨-, rfl⟩ := hcp'.unique hcp
      exact .inr ⟨hef, hok, ha, ho, t, p, bytes, hcp, hb, hw, Kernel.handlers_setHandler ..⟩
  · exact absurd h0 hrc

/-- The current task 2 of process 2, whose handlers are all `SIG_DFL`, with a `struct k_sigaction`
at `0x2000` whose handler is `SIG_IGN`, and no user memory that may be written. -/
def readOnlyUser : Kernel ilp32 :=
  { (Kernel.withTask 2 : Kernel ilp32) with
    curr := some 2
    mem := ⟨fun a =>
      if a = 0x2000 then some 1 else if 0x2000 < a ∧ a < 0x2014 then some 0 else none,
      fun _ => false⟩ }

theorem sysRtSigaction_error_handlers_read_only :
    sysRtSigaction SIGUSR1 0x2000 0x3000 (saMaskSize ilp32) readOnlyUser = .ret (-EFAULT)
        (sysRtSigaction SIGUSR1 0x2000 0x3000 (saMaskSize ilp32) readOnlyUser).state ∧
      (-EFAULT : Int) ≠ 0 ∧
      ((sysRtSigaction SIGUSR1 0x2000 0x3000 (saMaskSize ilp32) readOnlyUser).state.handlers =
          readOnlyUser.handlers ∨
        -EFAULT = -EFAULT ∧ SigactionArgsOk ilp32 SIGUSR1 (saMaskSize ilp32) ∧
        (0x2000 : Nat) ≠ 0 ∧ (0x3000 : Nat) ≠ 0 ∧ ∃ t p bytes, readOnlyUser.CurrProc t p ∧
          readOnlyUser.mem.read 0x2000 (kSigactionSize ilp32) = some bytes ∧
          ¬ readOnlyUser.mem.canWrite 0x3000 (oldKSigaction p SIGUSR1).toBytes.length ∧
          (sysRtSigaction SIGUSR1 0x2000 0x3000 (saMaskSize ilp32) readOnlyUser).state.handlers =
            Function.update readOnlyUser.handlers t.pid (some (Function.update p.saHandlers
              ((SIGUSR1 : Int).toNat - 1)
              (KSigaction.ofBytes bytes : KSigaction ilp32).handler))) :=
  have h : sysRtSigaction SIGUSR1 0x2000 0x3000 (saMaskSize ilp32) readOnlyUser =
      .ret (-EFAULT) (sysRtSigaction SIGUSR1 0x2000 0x3000 (saMaskSize ilp32) readOnlyUser).state :=
    rfl
  have hrc : (-EFAULT : Int) ≠ 0 := by decide
  ⟨h, hrc, sysRtSigaction_error_handlers h hrc⟩

/-- From `readOnlyUser`, `sys_rt_sigaction(SIGUSR1, 0x2000, 0x3000, sizeof(sa_mask))` returns
`-EFAULT`, the copy to `user_oldact` having faulted, and `SIGUSR1`, `SIG_DFL` before the call, is
`SIG_IGN` after it. -/
theorem sysRtSigaction_faulting_oldact_installs :
    ∃ s', sysRtSigaction SIGUSR1 0x2000 0x3000 (saMaskSize ilp32) readOnlyUser = .ret (-EFAULT) s' ∧
      (readOnlyUser.handlers 2).map (· (SIGUSR1 - 1)) = some SIG_DFL ∧
      (s'.handlers 2).map (· (SIGUSR1 - 1)) = some SIG_IGN :=
  ⟨_, rfl, rfl, rfl⟩

/-- **`sys_rt_sigaction` leaves the preemption counter as it found it** on every path that
returns. -/
theorem sysRtSigaction_keeps_preemptDepth
    (h : sysRtSigaction signum userAct userOldact sigsetsize s = .ret rc s') :
    s'.preemptDepth = s.preemptDepth :=
  (sysRtSigaction_frame h).2.2

theorem sysRtSigaction_keeps_preemptDepth_query :
    sysRtSigaction 2 0 0 (saMaskSize ilp32) (Kernel.withTask 2 : Kernel ilp32) =
        .ret 0 (sysRtSigaction 2 0 0 (saMaskSize ilp32) (Kernel.withTask 2 : Kernel ilp32)).state ∧
      (sysRtSigaction 2 0 0 (saMaskSize ilp32)
          (Kernel.withTask 2 : Kernel ilp32)).state.preemptDepth =
        (Kernel.withTask 2 : Kernel ilp32).preemptDepth :=
  have h : sysRtSigaction 2 0 0 (saMaskSize ilp32) (Kernel.withTask 2 : Kernel ilp32) =
      .ret 0 (sysRtSigaction 2 0 0 (saMaskSize ilp32) (Kernel.withTask 2 : Kernel ilp32)).state :=
    rfl
  ⟨h, sysRtSigaction_keeps_preemptDepth h⟩

end Sigaction

/-! ### `sys_rt_sigprocmask` -/

/-- The first `n` bytes of `struct process` from `sa_mask` on. -/
def Process.bytesFromMask (p : Process cfg) (n : Nat) : List UInt8 :=
  (p.saMask.bytes ++ (List.range (n - saMaskSize cfg)).map p.bytesAfterMask).take n

/-- The `switch (how)` on one word: the new word, or `none` for an invalid mode. -/
def sigprocmaskHow (how : Int) (m w : BitVec cfg.nbits) : Option (BitVec cfg.nbits) :=
  if how = SIG_BLOCK then some (m ||| w)
  else if how = SIG_UNBLOCK then some (m &&& ~~~w)
  else if how = SIG_SETMASK then some w
  else none

/-- The loop of `sys_rt_sigprocmask` over the words `is` of `user_set`: each word is read and
applied to the mask before the next one is read. -/
def sigprocmaskLoop (how : Int) (userSet pid : Nat) : List (Fin cfg.maskWords) → KM cfg Int
  | [] => pure 0
  | i :: is => do
    match ← copyFromUser (userSet + i * wordBytes cfg) (wordBytes cfg) with
    | none => pure (-EFAULT)
    | some bytes =>
      match sigprocmaskHow how ((← proc pid).saMask i) (BitVec.ofNat _ (leValue bytes)) with
      | none => pure (-EINVAL)
      | some m =>
        modifyProc pid fun p => { p with saMask := Function.update p.saMask i m }
        sigprocmaskLoop how userSet pid is

/-- The first `n` bytes from `zero_page` on. -/
def readZeroPage (n : Nat) : KM cfg (List UInt8) := fun s => .ret ((List.range n).map s.zeroPage) s

/-- The copy of the old mask to `user_oldset`: `sigsetsize` bytes from `sa_mask`, then, past
`sizeof(sa_mask)`, as many bytes from `zero_page`; `false` when a copy faults. -/
def sigprocmaskCopyOld (pid userOldset sigsetsize : Nat) : KM cfg Bool := do
  if ← copyToUser userOldset ((← proc pid).bytesFromMask sigsetsize) then
    if sigsetsize > saMaskSize cfg then
      copyToUser (userOldset + saMaskSize cfg) (← readZeroPage (sigsetsize - saMaskSize cfg))
    else pure true
  else pure false

/-- `sys_rt_sigprocmask`. -/
def sysRtSigprocmask (how : Int) (userSet userOldset sigsetsize : Nat) : KM cfg Int := do
  let pid := (← task (← currTask)).pid
  let ok ← (if userOldset ≠ 0 then sigprocmaskCopyOld pid userOldset sigsetsize else pure true)
  if ¬ ok then
    pure (-EFAULT)
  else if userSet ≠ 0 then
    sigprocmaskLoop how userSet pid (List.finRange cfg.maskWords)
  else
    pure 0

/-! ### What `sys_rt_sigprocmask` does -/

/-- The `how` values the `switch` of `sys_rt_sigprocmask` accepts. -/
def SigprocmaskHowValid (how : Int) : Prop :=
  how = SIG_BLOCK ∨ how = SIG_UNBLOCK ∨ how = SIG_SETMASK

theorem sigprocmaskHow_eq_none {how : Int} {m w : BitVec cfg.nbits} :
    sigprocmaskHow how m w = none ↔ ¬ SigprocmaskHowValid how := by
  unfold sigprocmaskHow SigprocmaskHowValid
  split_ifs <;> simp_all

/-- The word `i` of the set at `user_set`, as the loop of `sys_rt_sigprocmask` reads it. -/
def userSetWord (mem : UserMem) (userSet : Nat) (i : Fin cfg.maskWords) :
    Option (BitVec cfg.nbits) :=
  (mem.read (userSet + i * wordBytes cfg) (wordBytes cfg)).map fun bs => BitVec.ofNat _ (leValue bs)

/-- The mask `m` is the mask `old` with each word in `done` updated under `how` from the word of
the user's set, and every other word unchanged. -/
def MaskUpdated (how : Int) (mem : UserMem) (userSet : Nat) (old : Words cfg)
    (done : List (Fin cfg.maskWords)) (m : Words cfg) : Prop :=
  ∀ i, (i ∈ done → ∃ w, userSetWord mem userSet i = some w ∧
    sigprocmaskHow how (old i) w = some (m i)) ∧
    (i ∉ done → m i = old i)

theorem maskUpdated_nil (how : Int) (mem : UserMem) (userSet : Nat) (old : Words cfg) :
    MaskUpdated how mem userSet old [] old :=
  fun _ => ⟨nofun, fun _ => rfl⟩

theorem mem_take_finRange {n k : Nat} {i : Fin n} : i ∈ (List.finRange n).take k ↔ i.val < k := by
  rw [List.mem_iff_getElem]
  constructor
  · rintro ⟨j, hj, rfl⟩
    simp only [List.length_take, List.length_finRange, lt_min_iff] at hj
    simpa using hj.1
  · intro h
    exact ⟨i, by simp [h, i.2], by simp⟩

section Sigprocmask

variable {s s' : Kernel cfg} {how rc : Int} {userSet pid : Nat}

theorem procs_update_self {p : Process cfg} (hp : s.procs pid = some p) :
    s = { s with procs := Function.update s.procs pid (some { p with saMask := p.saMask }) } := by
  show s = { s with procs := Function.update s.procs pid (some p) }
  rw [← hp, Function.update_eq_self]

/-- **The loop of `sys_rt_sigprocmask`**: it has applied the words of a prefix of `is`, all of them
when it returns `0`, none when it returns `-EINVAL`, which it does only for an invalid `how`. -/
theorem sigprocmaskLoop_ret {p : Process cfg} {is : List (Fin cfg.maskWords)} (hnd : is.Nodup)
    (hp : s.procs pid = some p) (h : sigprocmaskLoop how userSet pid is s = .ret rc s') :
    ∃ k m, (rc = 0 → k = is.length) ∧ (rc ≠ 0 → k < is.length) ∧
      (rc = -EINVAL → k = 0 ∧ ¬ SigprocmaskHowValid how) ∧
      MaskUpdated how s.mem userSet p.saMask (is.take k) m ∧
      s' = { s with procs := Function.update s.procs pid (some { p with saMask := m }) } := by
  induction is generalizing s p with
  | nil =>
    simp only [sigprocmaskLoop, KM.pure_apply, Outcome.ret.injEq] at h
    obtain ⟨rfl, rfl⟩ := h
    exact ⟨0, p.saMask, fun _ => rfl, fun h => absurd rfl h, by simp [EINVAL],
      maskUpdated_nil _ _ _ _, procs_update_self hp⟩
  | cons i is ih =>
    cases hb : s.mem.read (userSet + i * wordBytes cfg) (wordBytes cfg) with
    | none =>
      simp only [sigprocmaskLoop, KM.bind_apply, copyFromUser_apply, hb, Outcome.bind_ret,
        KM.pure_apply, Outcome.ret.injEq] at h
      obtain ⟨rfl, rfl⟩ := h
      exact ⟨0, p.saMask, by simp [EFAULT], fun _ => by simp, by simp [EFAULT, EINVAL],
        maskUpdated_nil _ _ _ _, procs_update_self hp⟩
    | some bytes =>
      simp only [sigprocmaskLoop, KM.bind_apply, copyFromUser_apply, hb, Outcome.bind_ret,
        proc_of_some hp] at h
      cases hm : sigprocmaskHow how (p.saMask i) (BitVec.ofNat _ (leValue bytes)) with
      | none =>
        simp only [hm, KM.pure_apply, Outcome.ret.injEq] at h
        obtain ⟨rfl, rfl⟩ := h
        exact ⟨0, p.saMask, by simp [EINVAL], fun _ => by simp,
          fun _ => ⟨rfl, sigprocmaskHow_eq_none.1 hm⟩, maskUpdated_nil _ _ _ _,
          procs_update_self hp⟩
      | some mi =>
        simp only [hm, KM.bind_apply, modifyProc_of_some hp, Outcome.bind_ret] at h
        have hnd' := List.nodup_cons.1 hnd
        obtain ⟨k, m, h0, hne, hinv, hupd, hs'⟩ :=
          ih (p := { p with saMask := Function.update p.saMask i mi }) hnd'.2 (by simp) h
        refine ⟨k + 1, m, fun h => by simp [h0 h], fun h => by simpa using hne h,
          fun h => (by rw [sigprocmaskHow_eq_none.2 (hinv h).2] at hm; cases hm), fun j => ?_, ?_⟩
        · by_cases hji : j = i
          · subst hji
            have hmj := (hupd j).2 fun hm => hnd'.1 (List.mem_of_mem_take hm)
            simp only [Function.update_same] at hmj
            exact ⟨fun _ => ⟨_, by simp [userSetWord, hb], hmj ▸ hm⟩, fun hj => absurd (by simp) hj⟩
          · simpa [List.take_succ_cons, hji, Function.update_noteq hji] using hupd j
        · simp [hs', Function.update_idem]

theorem sigprocmaskLoop_of_none {is : List (Fin cfg.maskWords)} (hp : s.procs pid = none)
    (h : sigprocmaskLoop how userSet pid is s = .ret rc s') : s' = s := by
  cases is with
  | nil =>
    simp only [sigprocmaskLoop, KM.pure_apply, Outcome.ret.injEq] at h
    exact h.2.symm
  | cons i is =>
    cases hb : s.mem.read (userSet + i * wordBytes cfg) (wordBytes cfg) with
    | none =>
      simp only [sigprocmaskLoop, KM.bind_apply, copyFromUser_apply, hb, Outcome.bind_ret,
        KM.pure_apply, Outcome.ret.injEq] at h
      exact h.2.symm
    | some bytes => simp [sigprocmaskLoop, hb, proc, hp] at h

/-- The copy of the old mask reads the process and writes only user memory. -/
theorem sigprocmaskCopyOld_ret {userOldset sigsetsize : Nat} {ok : Bool}
    (h : sigprocmaskCopyOld pid userOldset sigsetsize s = .ret ok s') :
    (∃ p, s.procs pid = some p) ∧ ∃ mem, s' = { s with mem } := by
  cases hp : s.procs pid with
  | none => simp [sigprocmaskCopyOld, proc, hp] at h
  | some p =>
    refine ⟨⟨p, rfl⟩, ?_⟩
    simp only [sigprocmaskCopyOld, KM.bind_apply, proc_of_some hp, Outcome.bind_ret,
      copyToUser_apply] at h
    split_ifs at h <;>
      simp only [Outcome.bind_ret, ite_true, Bool.false_eq_true, ite_false, KM.pure_apply,
        KM.bind_apply, readZeroPage, copyToUser_apply, Outcome.ret.injEq] at h
    all_goals first
      | exact ⟨_, h.2.symm⟩
      | split_ifs at h <;> exact ⟨_, (Outcome.ret.inj h).2.symm⟩

/-- **What `sys_rt_sigprocmask` does when it returns**: it writes user memory, and past the copy of
the old mask it has applied the first `k` words of `user_set` to the current process's mask, all
of them when it returns `0` with a `user_set`, none when it fails with `-EINVAL` or before the
loop, and fewer than all when the loop fails. -/
theorem sysRtSigprocmask_ret {userOldset sigsetsize : Nat}
    (h : sysRtSigprocmask how userSet userOldset sigsetsize s = .ret rc s') :
    ∃ t mem, (∃ c, s.curr = some c ∧ s.tasks c = some t) ∧
      (s.procs t.pid = none ∧ s' = s ∨ ∃ p k m, s.procs t.pid = some p ∧
        MaskUpdated how mem userSet p.saMask ((List.finRange cfg.maskWords).take k) m ∧
        (rc = 0 → userSet ≠ 0 → k = cfg.maskWords) ∧ (rc ≠ 0 → k < cfg.maskWords ∨ k = 0) ∧
        (rc = -EINVAL → k = 0) ∧ (userSet = 0 → k = 0) ∧
        s' = { s with mem,
                      procs := Function.update s.procs t.pid (some { p with saMask := m }) }) := by
  obtain ⟨c, hc⟩ : ∃ c, s.curr = some c := Option.ne_none_iff_exists'.1 fun hc => by
    simp [sysRtSigprocmask, currTask, hc] at h
  obtain ⟨t, ht⟩ : ∃ t, s.tasks c = some t := Option.ne_none_iff_exists'.1 fun ht => by
    simp [sysRtSigprocmask, currTask, task, hc, ht] at h
  simp only [sysRtSigprocmask, KM.bind_apply, currTask, hc, Outcome.bind_ret, task_of_some ht] at h
  obtain ⟨ok, s₁, hok, h⟩ := Outcome.bind_eq_ret h
  -- the copy of the old mask writes only user memory, and reads the process
  have hs₁ : (userOldset ≠ 0 → ∃ p, s.procs t.pid = some p) ∧
      (userOldset = 0 → ok = true ∧ s₁ = s) ∧
      ∃ mem, s₁ = { s with mem } := by
    by_cases ho : userOldset = 0
    · simp only [ho, ne_eq, not_true, ite_false, KM.pure_apply, Outcome.ret.injEq] at hok
      exact ⟨fun h => absurd ho h, fun _ => ⟨hok.1.symm, hok.2.symm⟩, s.mem, hok.2.symm⟩
    · simp only [ho, ne_eq, not_false_eq_true, ite_true] at hok
      have := sigprocmaskCopyOld_ret hok
      exact ⟨fun _ => this.1, fun h => absurd h ho, this.2⟩
  obtain ⟨hproc, hzero, mem, rfl⟩ := hs₁
  refine ⟨t, mem, ⟨c, hc, ht⟩, ?_⟩
  cases hp : s.procs t.pid with
  | none =>
    have ho : userOldset = 0 := by by_contra ho; simpa [hp] using hproc ho
    obtain ⟨rfl, hs⟩ := hzero ho
    rw [hs, if_neg (by simp)] at h
    refine .inl ⟨rfl, ?_⟩
    split_ifs at h
    · exact sigprocmaskLoop_of_none hp h
    · exact (Outcome.ret.inj h).2.symm
  | some p =>
  refine .inr ⟨p, ?_⟩
  cases ok with
  | false =>
    simp only [Bool.false_eq_true, not_false_eq_true, ite_true, KM.pure_apply,
      Outcome.ret.injEq] at h
    obtain ⟨rfl, rfl⟩ := h
    exact ⟨0, p.saMask, rfl, maskUpdated_nil _ _ _ _, by simp [EFAULT], fun _ => .inr rfl,
      fun _ => rfl, fun _ => rfl, procs_update_self (s := { s with mem }) hp⟩
  | true =>
  rw [if_neg (by simp)] at h
  split_ifs at h with hu
  · obtain ⟨k, m, h0, hne, hinv, hupd, rfl⟩ :=
      sigprocmaskLoop_ret (s := { s with mem }) (List.nodup_finRange _) hp h
    simp only [List.length_finRange] at h0 hne
    exact ⟨k, m, rfl, hupd, fun h _ => h0 h, fun h => .inl (hne h), fun h => (hinv h).1,
      fun h => absurd h hu, rfl⟩
  · simp only [KM.pure_apply, Outcome.ret.injEq] at h
    obtain ⟨rfl, rfl⟩ := h
    exact ⟨0, p.saMask, rfl, maskUpdated_nil _ _ _ _, fun _ h => absurd h hu, fun h => absurd rfl h,
      fun _ => rfl, fun _ => rfl, procs_update_self (s := { s with mem }) hp⟩

/-- `sys_rt_sigprocmask` writes user memory and masks only: the tasks, the current task, the
preemption counter and the handlers are left alone. -/
theorem sysRtSigprocmask_frame {userOldset sigsetsize : Nat}
    (h : sysRtSigprocmask how userSet userOldset sigsetsize s = .ret rc s') :
    s'.tasks = s.tasks ∧ s'.curr = s.curr ∧ s'.preemptDepth = s.preemptDepth ∧
      s'.handlers = s.handlers := by
  obtain ⟨t, mem, -, ⟨-, rfl⟩ | ⟨p, -, m, hp, -, -, -, -, -, rfl⟩⟩ := sysRtSigprocmask_ret h
  · exact ⟨rfl, rfl, rfl, rfl⟩
  refine ⟨rfl, rfl, rfl, funext fun q => ?_⟩
  by_cases hq : q = t.pid
  · subst hq
    simp [Kernel.handlers, hp]
  · simp [Kernel.handlers, hq]

end Sigprocmask

/-- `sys_rt_sigprocmask` from the current task `t`, of the process `p`: it has applied the first
`k` words of `user_set` to `p`'s mask, and written user memory. -/
theorem sysRtSigprocmask_ret_of_currProc {s s' : Kernel cfg} {how rc : Int}
    {userSet userOldset sigsetsize : Nat} {t : Task cfg} {p : Process cfg} (hcp : s.CurrProc t p)
    (h : sysRtSigprocmask how userSet userOldset sigsetsize s = .ret rc s') :
    ∃ mem k m, MaskUpdated how mem userSet p.saMask ((List.finRange cfg.maskWords).take k) m ∧
      (rc = 0 → userSet ≠ 0 → k = cfg.maskWords) ∧ (rc ≠ 0 → k < cfg.maskWords ∨ k = 0) ∧
      (rc = -EINVAL → k = 0) ∧
      s' = { s with mem,
                    procs := Function.update s.procs t.pid (some { p with saMask := m }) } := by
  obtain ⟨t', mem, ⟨c, hc, ht⟩, hr⟩ := sysRtSigprocmask_ret h
  obtain ⟨c₀, hc₀, ht₀, hp⟩ := hcp
  obtain rfl : c = c₀ := Option.some_inj.1 (hc.symm.trans hc₀)
  obtain rfl : t' = t := Option.some_inj.1 (ht.symm.trans ht₀)
  rcases hr with ⟨hn, -⟩ | ⟨p₀, k, m, hp₀, hupd, hall, hne, hinv, -, rfl⟩
  · simp [hp] at hn
  obtain rfl := Option.some_inj.1 (hp.symm.trans hp₀)
  exact ⟨mem, k, m, hupd, hall, hne, hinv, rfl⟩

/-- **A failed `sys_rt_sigprocmask` has updated a prefix of the mask**: the words below some `k`
hold `how` applied to their old value and the word of `user_set`, the others their old value;
`k` is `0` for `-EINVAL`, and short of the whole mask otherwise. -/
theorem sysRtSigprocmask_error_updates_prefix {s s' : Kernel cfg} {how rc : Int}
    {userSet userOldset sigsetsize : Nat} {t : Task cfg} {p : Process cfg} (hcp : s.CurrProc t p)
    (h : sysRtSigprocmask how userSet userOldset sigsetsize s = .ret rc s') (hrc : rc ≠ 0) :
    ∃ k, (k = 0 ∨ k < cfg.maskWords) ∧ (rc = -EINVAL → k = 0) ∧ ∃ p', s'.procs t.pid = some p' ∧
      ∀ i : Fin cfg.maskWords, (k ≤ i.val → p'.saMask i = p.saMask i) ∧
        (i.val < k → ∃ w, userSetWord s'.mem userSet i = some w ∧
          sigprocmaskHow how (p.saMask i) w = some (p'.saMask i)) := by
  obtain ⟨mem, k, m, hupd, -, hne, hinv, rfl⟩ := sysRtSigprocmask_ret_of_currProc hcp h
  refine ⟨k, (hne hrc).symm, hinv, { p with saMask := m }, by simp,
    fun i => ⟨fun hk => ?_, fun hk => ?_⟩⟩
  · exact (hupd i).2 (by simpa [mem_take_finRange] using hk)
  · exact (hupd i).1 (mem_take_finRange.2 hk)

/-- A state of the 32-bit build, with two mask words: the current task 1, of process 1, and a
user set at `0x1000` whose first word, `1`, is mapped and whose second is not. -/
def halfMappedSet : Kernel ilp32 :=
  { (Kernel.empty : Kernel ilp32) with
    tasks := fun u => if u = 1 then some (Task.ofPid 1) else none
    procs := fun q => if q = 1 then some Process.dfl else none
    curr := some 1
    mem := ⟨fun a =>
      if a = 0x1000 then some 1 else if 0x1000 < a ∧ a < 0x1004 then some 0 else none,
      fun _ => false⟩ }

/-- `SIG_BLOCK` of that set fails with `-EFAULT` on the second word, having blocked signal 1 in
the first. -/
theorem sysRtSigprocmask_partial_update :
    ∃ s', sysRtSigprocmask SIG_BLOCK 0x1000 0 8 halfMappedSet = .ret (-EFAULT) s' ∧
      (halfMappedSet.procs 1).map (·.saMask ⟨0, by decide⟩) = some 0 ∧
      (s'.procs 1).map (·.saMask ⟨0, by decide⟩) = some 1 :=
  ⟨_, rfl, rfl, rfl⟩

theorem sysRtSigprocmask_error_updates_prefix_half_mapped :
    halfMappedSet.CurrProc (Task.ofPid 1) Process.dfl ∧
      sysRtSigprocmask SIG_BLOCK 0x1000 0 8 halfMappedSet =
        .ret (-EFAULT) (sysRtSigprocmask SIG_BLOCK 0x1000 0 8 halfMappedSet).state ∧
      (-EFAULT : Int) ≠ 0 ∧
      ∃ k, (k = 0 ∨ k < ilp32.maskWords) ∧ (-EFAULT = -EINVAL → k = 0) ∧
        ∃ p', (sysRtSigprocmask SIG_BLOCK 0x1000 0 8 halfMappedSet).state.procs 1 = some p' ∧
          ∀ i : Fin ilp32.maskWords, (k ≤ i.val → p'.saMask i = Process.dfl.saMask i) ∧
            (i.val < k → ∃ w,
              userSetWord (sysRtSigprocmask SIG_BLOCK 0x1000 0 8 halfMappedSet).state.mem 0x1000 i =
                some w ∧
              sigprocmaskHow SIG_BLOCK (Process.dfl.saMask i) w = some (p'.saMask i)) :=
  have hcp : halfMappedSet.CurrProc (Task.ofPid 1) Process.dfl := ⟨1, rfl, rfl, rfl⟩
  have h : sysRtSigprocmask SIG_BLOCK 0x1000 0 8 halfMappedSet =
      .ret (-EFAULT) (sysRtSigprocmask SIG_BLOCK 0x1000 0 8 halfMappedSet).state := rfl
  have hrc : (-EFAULT : Int) ≠ 0 := by decide
  ⟨hcp, h, hrc, sysRtSigprocmask_error_updates_prefix hcp h hrc⟩

/-- **A successful `sys_rt_sigprocmask` with a `user_set` has applied `how` to every word of the
mask**, each with the word of `user_set` as it is in memory afterwards. -/
theorem sysRtSigprocmask_success_updates_all {s s' : Kernel cfg} {how : Int}
    {userSet userOldset sigsetsize : Nat} {t : Task cfg} {p : Process cfg} (hcp : s.CurrProc t p)
    (h : sysRtSigprocmask how userSet userOldset sigsetsize s = .ret 0 s') (hset : userSet ≠ 0) :
    ∃ p', s'.procs t.pid = some p' ∧ ∀ i : Fin cfg.maskWords, ∃ w,
      userSetWord s'.mem userSet i = some w ∧
      sigprocmaskHow how (p.saMask i) w = some (p'.saMask i) := by
  obtain ⟨mem, k, m, hupd, hall, -, -, rfl⟩ := sysRtSigprocmask_ret_of_currProc hcp h
  obtain rfl := hall rfl hset
  exact ⟨{ p with saMask := m }, by simp, fun i => (hupd i).1 (mem_take_finRange.2 (by simp))⟩

/-- `halfMappedSet` with the whole set at `0x1000` mapped: the words `1` and `2`. -/
def mappedSet : Kernel ilp32 :=
  { halfMappedSet with
    mem := ⟨fun a => if a = 0x1000 then some 1 else if a = 0x1004 then some 2
      else if 0x1000 < a ∧ a < 0x1008 then some 0 else none, fun _ => false⟩ }

theorem sysRtSigprocmask_success_updates_all_mapped :
    mappedSet.CurrProc (Task.ofPid 1) Process.dfl ∧
      sysRtSigprocmask SIG_BLOCK 0x1000 0 8 mappedSet =
        .ret 0 (sysRtSigprocmask SIG_BLOCK 0x1000 0 8 mappedSet).state ∧ (0x1000 : Nat) ≠ 0 ∧
      ∃ p', (sysRtSigprocmask SIG_BLOCK 0x1000 0 8 mappedSet).state.procs 1 = some p' ∧
        ∀ i : Fin ilp32.maskWords, ∃ w,
          userSetWord (sysRtSigprocmask SIG_BLOCK 0x1000 0 8 mappedSet).state.mem 0x1000 i =
            some w ∧
          sigprocmaskHow SIG_BLOCK (Process.dfl.saMask i) w = some (p'.saMask i) :=
  have hcp : mappedSet.CurrProc (Task.ofPid 1) Process.dfl := ⟨1, rfl, rfl, rfl⟩
  have h : sysRtSigprocmask SIG_BLOCK 0x1000 0 8 mappedSet =
      .ret 0 (sysRtSigprocmask SIG_BLOCK 0x1000 0 8 mappedSet).state := rfl
  ⟨hcp, h, by decide, sysRtSigprocmask_success_updates_all hcp h (by decide)⟩

/-! ### The legacy entry points -/

/-- `sys_sigprocmask`, `sys_sigaction` and `sys_signal`: deprecated, `NOT_IMPLEMENTED()`. -/
def sysSigprocmask (_a1 _a2 _a3 : Nat) : KM cfg Int := fun s => .exit .notImplemented s
def sysSigaction (_a1 _a2 _a3 : Nat) : KM cfg Int := fun s => .exit .notImplemented s
def sysSignal (_signum : Int) (_handler : Nat) : KM cfg Nat := fun s => .exit .notImplemented s

end Tilck
