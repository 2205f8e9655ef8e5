import Tilck.Kernel
/-!
**The frame of a user signal handler: `setup_sig_handler`.**

To run a user handler, the RISC-V code rewrites the registers the task returns to user mode
with: the handler `user_func` as the resumed instruction, the signal number as its argument, the
return address `post_sig_handler_user_vaddr` (a trampoline in the vDSO that returns to the
kernel), and a user stack `SIG_HANDLER_ALIGN_ADJUST + sizeof(ulong)` bytes lower.  Only for the
outermost handler (`nested_sig_handlers == 0`) are the registers of the interrupted code first
saved on the user stack, by `save_regs_on_user_stack`, whose body is outside the sources and is a
parameter here; a system call the signal interrupted then returns `-EINTR`.  The frame ends with
an `ASSERT` that the user stack is aligned to `USERMODE_STACK_ALIGN`.

The three constants are defined outside the sources and kept in `Tilck.SigFrameConsts`; the
alignment is a power of two, as the mask `USERMODE_STACK_ALIGN - 1` in the `ASSERT` takes it to
be.

Main definitions:

* `Tilck.setupSigHandler` — `setup_sig_handler`;
* `Tilck.NestedSignal`, `Tilck.setupSigHandlers` — a signal that arrives while a handler runs,
  with what the running handler has made of the registers by then, and the handlers of such
  signals set up one after the other.

Main results:

* `Tilck.setupSigHandler_nested` — a nested frame saves nothing and lowers the stack by
  `SIG_HANDLER_ALIGN_ADJUST + sizeof(ulong)`;
* `Tilck.setupSigHandlers_after_outermost` — once the outermost frame is set up, where
  `SIG_HANDLER_ALIGN_ADJUST + sizeof(ulong)` is a whole number of alignment units, no nested frame
  ever fails while the running handlers keep their user stacks aligned.
-/

set_option relaxedAutoImplicit false
set_option autoImplicit false

namespace Tilck

/-- `EINTR`. -/
def EINTR : Int := 4

/-- A C integer converted to `ulong`. -/
def ulong (cfg : Config) (v : Int) : Nat := (v % 2 ^ cfg.nbits).toNat

/-- The constants `setup_sig_handler` is written against, defined outside the sources. -/
structure SigFrameConsts (cfg : Config) where
  /-- `SIG_HANDLER_ALIGN_ADJUST`. -/
  alignAdjust : Nat
  /-- `USERMODE_STACK_ALIGN` is `2 ^ alignBits`, a power of two no wider than `ulong`. -/
  alignBits : Nat
  alignBits_le : alignBits ≤ cfg.nbits
  /-- `post_sig_handler_user_vaddr`. -/
  postSigHandler : Nat

/-- `USERMODE_STACK_ALIGN`. -/
def SigFrameConsts.stackAlign {cfg : Config} (K : SigFrameConsts cfg) : Nat := 2 ^ K.alignBits

/-- A signal that arrives while a handler runs: `run` is what the running handler has made of the
registers its frame gave it when the signal arrives, the registers `setup_sig_handler` then gets;
`preSyscall` is `sig_state == sig_pre_syscall`, and `userFunc` the handler of `signum`. -/
structure NestedSignal where
  run : Regs → Regs
  preSyscall : Bool
  userFunc : Nat
  signum : Nat

section Frame

variable (cfg : Config) (K : SigFrameConsts cfg) (save : Regs → Int × Regs)

/-- `setup_sig_handler(ti, sig_state, r, user_func, signum)` on the task's `nested_sig_handlers`
and the registers `r`, with `preSyscall` for `sig_state == sig_pre_syscall` and `save` for
`save_regs_on_user_stack(r)`, its result and the registers it leaves: the result, the new
`nested_sig_handlers` and registers; `none` where the `ASSERT` fails. -/
def setupSigHandler (preSyscall : Bool) (nested : Nat) (r : Regs) (userFunc signum : Nat) :
    Option (Int × Nat × Regs) :=
  let (rc, r) : Int × Regs :=
    if nested = 0 then save (if preSyscall then { r with a0 := ulong cfg (-EINTR) } else r)
    else (0, r)
  if rc < 0 then some (rc, nested, r)
  else
    let r := { r with sepc := userFunc }
    let r := { r with usersp := ulong cfg (r.usersp - K.alignAdjust - wordBytes cfg) }
    let r := { r with a0 := signum }
    let r := { r with ra := K.postSigHandler }
    if r.usersp &&& (K.stackAlign - 1) = 0 then some (0, nested + 1, r) else none

/-- The registers a nested frame builds on `r`: the handler `f`, with the signal `sig` as its
argument and `post_sig_handler_user_vaddr` as its return address, on a user stack
`SIG_HANDLER_ALIGN_ADJUST + sizeof(ulong)` bytes lower. -/
def nestedFrame (r : Regs) (f sig : Nat) : Regs :=
  { r with
    sepc := f
    usersp := ulong cfg (r.usersp - K.alignAdjust - wordBytes cfg)
    a0 := sig
    ra := K.postSigHandler }

/-- The handlers of `hs` set up one after the other on the same task: each signal arrives while the
handler before it runs, and its frame is built on the registers that handler has by then; `none`
where a frame fails. -/
def setupSigHandlers : List NestedSignal → Nat × Regs → Option (Nat × Regs)
  | [], st => some st
  | n :: hs, (nested, r) =>
    match setupSigHandler cfg K save n.preSyscall nested (n.run r) n.userFunc n.signum with
    | some (0, nested, r) => setupSigHandlers hs (nested, r)
    | _ => none

end Frame

/-! ### `ulong` arithmetic on the user stack -/

section Ulong

variable {cfg : Config}

theorem two_pow_nbits_pos (cfg : Config) : (0 : Int) < 2 ^ cfg.nbits := by
  have := Nat.two_pow_pos cfg.nbits
  exact_mod_cast this

theorem natCast_ulong (v : Int) : (ulong cfg v : Int) = v % 2 ^ cfg.nbits :=
  Int.toNat_of_nonneg (Int.emod_nonneg v (Int.ne_of_gt (two_pow_nbits_pos cfg)))

theorem ulong_lt (v : Int) : ulong cfg v < 2 ^ cfg.nbits := by
  have h := Int.emod_lt_of_pos v (two_pow_nbits_pos cfg)
  rw [← natCast_ulong] at h
  exact_mod_cast h

theorem ulong_of_lt {x : Nat} (hx : x < 2 ^ cfg.nbits) : ulong cfg x = x := by
  have h : ((ulong cfg x : Nat) : Int) = x := by
    rw [natCast_ulong, Int.emod_eq_of_lt (Int.natCast_nonneg x) (by exact_mod_cast hx)]
  exact_mod_cast h

/-- Subtracting from a value already converted to `ulong` is subtracting from the value. -/
theorem ulong_ulong_sub (v c : Int) : ulong cfg (ulong cfg v - c) = ulong cfg (v - c) := by
  show (((ulong cfg v : Int) - c) % 2 ^ cfg.nbits).toNat = _
  rw [natCast_ulong, Int.sub_emod, Int.emod_emod, ← Int.sub_emod]
  rfl

/-- Lowering an aligned value by a whole number of alignment units keeps it aligned. -/
theorem ulong_sub_aligned (K : SigFrameConsts cfg) {x c : Nat} (hx : x % K.stackAlign = 0)
    (hc : c % K.stackAlign = 0) : ulong cfg (x - c) % K.stackAlign = 0 := by
  have hA : (K.stackAlign : Int) ∣ 2 ^ cfg.nbits := by
    have := Int.natCast_dvd_natCast.2 (Nat.pow_dvd_pow 2 K.alignBits_le)
    simpa only [SigFrameConsts.stackAlign, Int.natCast_pow, Nat.cast_ofNat] using this
  have hxc : (K.stackAlign : Int) ∣ x - c :=
    Int.dvd_sub (Int.natCast_dvd_natCast.2 (Nat.dvd_of_mod_eq_zero hx))
      (Int.natCast_dvd_natCast.2 (Nat.dvd_of_mod_eq_zero hc))
  apply Nat.mod_eq_zero_of_dvd
  rw [← Int.natCast_dvd_natCast, natCast_ulong, Int.emod_def]
  exact Int.dvd_sub hxc (Int.dvd_trans hA (Int.dvd_mul_right _ _))

end Ulong

/-! ### Nested frames -/

section Nested

variable {cfg : Config} (K : SigFrameConsts cfg) (save : Regs → Int × Regs)

/-- The mask of the `ASSERT` reads the alignment of the user stack. -/
theorem SigFrameConsts.mask_eq_mod (x : Nat) : x &&& (K.stackAlign - 1) = x % K.stackAlign :=
  Nat.and_pow_two_sub_one_eq_mod x K.alignBits

/-- **A nested frame**: on a task already running a handler, `setup_sig_handler` saves nothing and
builds the frame on the registers as they are, the user stack
`SIG_HANDLER_ALIGN_ADJUST + sizeof(ulong)` bytes lower, and it fails only at its `ASSERT`. -/
theorem setupSigHandler_nested {nested : Nat} (hn : nested ≠ 0) (pre : Bool) (r : Regs)
    (f sig : Nat) :
    setupSigHandler cfg K save pre nested r f sig =
      if ulong cfg (r.usersp - K.alignAdjust - wordBytes cfg) % K.stackAlign = 0 then
        some (0, nested + 1, nestedFrame cfg K r f sig)
      else none := by
  simp only [setupSigHandler, hn, if_false, Int.lt_irrefl, K.mask_eq_mod, nestedFrame]

/-- A frame set up without error passed its `ASSERT`: the user stack it leaves is aligned, and
one more handler is counted. -/
theorem setupSigHandler_aligned {pre : Bool} {nested n' f sig : Nat} {r r' : Regs}
    (h : setupSigHandler cfg K save pre nested r f sig = some (0, n', r')) :
    r'.usersp % K.stackAlign = 0 ∧ r'.usersp < 2 ^ cfg.nbits ∧ n' = nested + 1 := by
  unfold setupSigHandler at h
  generalize (if nested = 0 then
    save (if pre then { r with a0 := ulong cfg (-EINTR) } else r) else (0, r)) = saved at h
  obtain ⟨rc, r₀⟩ := saved
  dsimp only at h
  split_ifs at h with hrc hm
  · cases h
    exact absurd hrc (Int.lt_irrefl 0)
  · cases h
    exact ⟨by rwa [K.mask_eq_mod] at hm, ulong_lt _, rfl⟩

/-- A running handler keeps its user stack aligned: it reaches registers with an aligned user
stack from registers with one, as the calling convention has it. -/
def NestedSignal.KeepsAligned {cfg : Config} (K : SigFrameConsts cfg) (n : NestedSignal) : Prop :=
  ∀ r : Regs, r.usersp % K.stackAlign = 0 → r.usersp < 2 ^ cfg.nbits →
    (n.run r).usersp % K.stackAlign = 0 ∧ (n.run r).usersp < 2 ^ cfg.nbits

/-- A nested frame on an aligned user stack is aligned. -/
theorem nestedFrame_aligned (hK : (K.alignAdjust + wordBytes cfg) % K.stackAlign = 0) {r : Regs}
    (hr : r.usersp % K.stackAlign = 0) :
    ulong cfg (r.usersp - K.alignAdjust - wordBytes cfg) % K.stackAlign = 0 := by
  have := ulong_sub_aligned K hr hK
  rwa [Nat.cast_add, ← Int.sub_sub] at this

/-- Nested frames one after the other, each on the registers of a handler that keeps its user
stack aligned: none fails, each counts one more handler, and each is the nested frame of the
registers it finds. -/
theorem setupSigHandlers_nested (hK : (K.alignAdjust + wordBytes cfg) % K.stackAlign = 0)
    (hs : List NestedSignal) (hrun : ∀ n ∈ hs, n.KeepsAligned K) {nested : Nat} (hn : nested ≠ 0)
    {r : Regs} (hr : r.usersp % K.stackAlign = 0) (hlt : r.usersp < 2 ^ cfg.nbits) :
    setupSigHandlers cfg K save hs (nested, r) = some (nested + hs.length,
      hs.foldl (fun r n => nestedFrame cfg K (n.run r) n.userFunc n.signum) r) ∧
      (hs.foldl (fun r n => nestedFrame cfg K (n.run r) n.userFunc n.signum) r).usersp %
        K.stackAlign = 0 := by
  induction hs generalizing nested r with
  | nil => exact ⟨rfl, hr⟩
  | cons n hs ih =>
    -- the handler keeps its stack aligned, so the frame built on it is aligned too
    obtain ⟨hR, hRlt⟩ := hrun n (List.mem_cons_self _ _) r hr hlt
    have hsp := nestedFrame_aligned K hK hR
    obtain ⟨h, hal⟩ := ih (fun m hm => hrun m (List.mem_cons_of_mem _ hm)) (Nat.succ_ne_zero nested)
      (r := nestedFrame cfg K (n.run r) n.userFunc n.signum) hsp (ulong_lt _)
    refine ⟨?_, hal⟩
    rw [setupSigHandlers, setupSigHandler_nested K save hn, if_pos hsp]
    simpa [Nat.add_right_comm, Nat.add_assoc] using h

/-- **Once the outermost handler frame is set up, no nested frame fails**, where
`SIG_HANDLER_ALIGN_ADJUST + sizeof(ulong)` is a whole number of `USERMODE_STACK_ALIGN` units, and
whatever the running handlers do to the registers between two signals, as long as each keeps its
user stack aligned: `save_regs_on_user_stack` is not called again, the `ASSERT` holds at every
frame, `nested_sig_handlers` counts the frames, and each frame is built
`SIG_HANDLER_ALIGN_ADJUST + sizeof(ulong)` bytes below the user stack of the handler it
interrupts. -/
theorem setupSigHandlers_after_outermost
    (hK : (K.alignAdjust + wordBytes cfg) % K.stackAlign = 0) {pre : Bool} {f sig : Nat}
    {r r₁ : Regs} (h₁ : setupSigHandler cfg K save pre 0 r f sig = some (0, 1, r₁))
    (hs : List NestedSignal) (hrun : ∀ n ∈ hs, n.KeepsAligned K) :
    setupSigHandlers cfg K save hs (1, r₁) = some (1 + hs.length,
      hs.foldl (fun r n => nestedFrame cfg K (n.run r) n.userFunc n.signum) r₁) ∧
      (hs.foldl (fun r n => nestedFrame cfg K (n.run r) n.userFunc n.signum) r₁).usersp %
        K.stackAlign = 0 := by
  obtain ⟨hal, hlt, -⟩ := setupSigHandler_aligned K save h₁
  exact setupSigHandlers_nested K save hK hs hrun one_ne_zero hal hlt

/-- A 32-bit build whose frame adjustment and word make one 16-byte unit. -/
def frames32 : SigFrameConsts ilp32 := ⟨12, 4, by decide, 4096⟩

/-- A `save_regs_on_user_stack` that pushes 64 bytes. -/
def push64 (r : Regs) : Int × Regs := (0, { r with usersp := r.usersp - 64 })

/-- Two signals: the first arrives once its handler has pushed 32 bytes, the second at the first
instruction of the handler before it. -/
def twoNested : List NestedSignal :=
  [⟨fun r => { r with usersp := r.usersp - 32, a0 := 7 }, false, 200, 11⟩, ⟨id, true, 300, 12⟩]

theorem setupSigHandlers_after_outermost_two :
    (frames32.alignAdjust + wordBytes ilp32) % frames32.stackAlign = 0 ∧
    ∃ r₁, setupSigHandler ilp32 frames32 push64 true 0 { usersp := 8192 } 100 10 =
        some (0, 1, r₁) ∧ (∀ n ∈ twoNested, n.KeepsAligned frames32) ∧
      setupSigHandlers ilp32 frames32 push64 twoNested (1, r₁) = some (1 + twoNested.length,
        twoNested.foldl (fun r n => nestedFrame ilp32 frames32 (n.run r) n.userFunc n.signum) r₁) ∧
      (twoNested.foldl (fun r n => nestedFrame ilp32 frames32 (n.run r) n.userFunc n.signum)
        r₁).usersp % frames32.stackAlign = 0 :=
  have hK : (frames32.alignAdjust + wordBytes ilp32) % frames32.stackAlign = 0 := by decide
  have h₁ : setupSigHandler ilp32 frames32 push64 true 0 { usersp := 8192 } 100 10 =
      some (0, 1, _) := rfl
  have hrun : ∀ n ∈ twoNested, n.KeepsAligned frames32 := by
    simp only [twoNested, List.mem_cons, List.mem_singleton, List.not_mem_nil, or_false]
    rintro n (rfl | rfl) r h₁ h₂
    · simp only [SigFrameConsts.stackAlign, frames32] at h₁ ⊢
      omega
    · exact ⟨h₁, h₂⟩
  ⟨hK, _, h₁, hrun, setupSigHandlers_after_outermost frames32 push64 hK h₁ _ hrun⟩

end Nested

end Tilck
