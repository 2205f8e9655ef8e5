import Mathlib.Data.List.FinRange
import Mathlib.Data.List.OfFn
import Tilck.Config
import Tilck.Utils
/-!
**The pending-signal words of a task.**

`add_pending_sig`, `del_pending_sig` and `is_pending_sig` of `kernel/signal.c` keep the signals
waiting for delivery to a task in `pending_signums`, an array of `K_SIGACTION_MASK_WORDS` words
of `NBITS` bits: signal `s` lives at bit `(s - 1) % NBITS` of word `(s - 1) / NBITS`, and a
signal past the last word is silently dropped.  The three functions build the mask of that bit
as `1 << index`, where `1` is an `int`.  This module models that mask exactly as the code
computes it (`Tilck.intOneShl`) and compares the three functions with the set of signal numbers
they are meant to implement.

Main definitions:

* `Tilck.intOneShl` — `1 << index` as an `int` shift, sign-extended to `ulong`;
* `Tilck.addPendingSig`, `Tilck.delPendingSig`, `Tilck.isPendingSig` — the three functions, on
  the word array;
* `Tilck.Words.bit` — the bit of a zero-based signal position, the set the words stand for;
* `Tilck.getFirstPendingSig` — `get_first_pending_sig`, a word scan followed by a bit scan;
* `Tilck.applyPendingOps`, `Tilck.lastPendingOp` — a sequence of calls and the last call on a
  signal number.

Main results:

* `Tilck.intOneShl_eq_twoPow` — the mask is the single bit `index` exactly when `index < 31`,
  or when `ulong` is 32 bits wide;
* `Tilck.getLsbD_addPendingSig`, `Tilck.getLsbD_delPendingSig`,
  `Tilck.isPendingSig_eq` — what the functions do to every bit, for every build;
* `Tilck.pendingSet_of_nbits_32` — **with a 32-bit `ulong` the words implement a set**: after
  any sequence of calls from all-zero words a signal is pending exactly when it is supported
  and its last call was an add, and no other bit is set;
* `Tilck.addPendingSig_aliases_on_lp64` — with a 64-bit `ulong`, adding signal 33 sets bit 0,
  so signal 1 reads as pending;
* `Tilck.getFirstPendingSig_spec`, `Tilck.getFirstPendingSig_of_nbits_32` —
  `get_first_pending_sig` returns the first set position plus one in every build, which with a
  32-bit `ulong` is the least signal `is_pending_sig` reports;
* `Tilck.getFirstPendingSig_agrees_on_built_words` — in every build, on the words that
  `add_pending_sig` and `del_pending_sig` build from all-zero words, whose bits 31 and up agree,
  `get_first_pending_sig` is the ascending scan over `is_pending_sig`.
-/

set_option relaxedAutoImplicit false
set_option autoImplicit false

namespace Tilck

variable {cfg : Config}

/-! ### Two builds -/

/-- A 32-bit build with a two-word signal set. -/
def ilp32 : Config :=
  { nbits := 32, nbits_cases := Or.inl rfl, maskWords := 2, nsig := 64, nsig_gt := by decide }

/-- A 64-bit build, where `K_SIGACTION_MASK_WORDS` is one word. -/
def lp64 : Config :=
  { nbits := 64, nbits_cases := Or.inr rfl, maskWords := 1, nsig := 64, nsig_gt := by decide }

/-! ### The mask `1 << index` -/

/-- `1 << index` as the three functions compute it.  The literal `1` is an `int`, so the shift
is a 32-bit one, which the hardware performs with the count taken modulo 32, and the `int`
result meets the `ulong` word sign-extended. -/
def intOneShl (cfg : Config) (index : Nat) : BitVec cfg.nbits :=
  (1#32 <<< (index % 32)).signExtend cfg.nbits

theorem getLsbD_intOneShl (index j : Nat) :
    (intOneShl cfg index).getLsbD j =
      (decide (j < cfg.nbits) &&
        if j < 32 then decide (j = index % 32) else decide (index % 32 = 31)) := by
  have h32 : index % 32 < 32 := Nat.mod_lt _ (by decide)
  rw [intOneShl, BitVec.getLsbD_signExtend, BitVec.msb_eq_getLsbD_last]
  by_cases hj : j < 32
  · simp only [hj, ite_true, BitVec.getLsbD_shiftLeft, BitVec.getLsbD_one]
    by_cases hji : j = index % 32
    · simp [hji, h32]
    · simp [hj, hji]
      omega
  · have hlt : ¬ 31 < index % 32 := by omega
    have h31 : (31 - index % 32 = 0) = (index % 32 = 31) := propext (by omega)
    simp [hj, hlt, h31]

/-- The mask is the single bit `index` when the shift neither reaches the sign bit of `int`
nor needs a count past 31, or when `ulong` is as wide as `int`. -/
theorem intOneShl_eq_twoPow (index : Nat) (hi : index < cfg.nbits)
    (h : index < 31 ∨ cfg.nbits = 32) : intOneShl cfg index = BitVec.twoPow cfg.nbits index := by
  have hmod : index % 32 = index := Nat.mod_eq_of_lt (by omega)
  ext ⟨j, hj⟩
  rw [getLsbD_intOneShl, BitVec.getLsbD_twoPow, hmod]
  by_cases hj32 : j < 32
  · simp [hj, hj32, hi, eq_comm]
  · have hne : j ≠ index := by omega
    have h31 : index ≠ 31 := by omega
    simp [hj32, hne.symm, h31]

/-! ### The three functions -/

/-- The body that `add_pending_sig` and `del_pending_sig` share: locate the word and the bit of
`signum - 1` and, when the word exists, combine it with the mask by `op`.  The callers pass
`signum ≥ 1`, as the functions' `ASSERT(signum > 0)` requires. -/
def updatePendingSig (op : BitVec cfg.nbits → BitVec cfg.nbits → BitVec cfg.nbits)
    (P : Words cfg) (signum : Nat) : Words cfg :=
  let slot := (signum - 1) / cfg.nbits
  let index := (signum - 1) % cfg.nbits
  if h : slot < cfg.maskWords then
    Function.update P ⟨slot, h⟩ (op (P ⟨slot, h⟩) (intOneShl cfg index))
  else P

/-- `add_pending_sig`: `pending_signums[slot] |= (1 << index)`. -/
def addPendingSig (P : Words cfg) (signum : Nat) : Words cfg :=
  updatePendingSig (· ||| ·) P signum

/-- `del_pending_sig`: `pending_signums[slot] &= ~(1 << index)`. -/
def delPendingSig (P : Words cfg) (signum : Nat) : Words cfg :=
  updatePendingSig (fun w m => w &&& ~~~m) P signum

/-- `is_pending_sig`: `!!(pending_signums[slot] & (1 << index))`, and `false` past the last
word. -/
def isPendingSig (P : Words cfg) (signum : Nat) : Bool :=
  let slot := (signum - 1) / cfg.nbits
  let index := (signum - 1) % cfg.nbits
  if h : slot < cfg.maskWords then P ⟨slot, h⟩ &&& intOneShl cfg index != 0 else false

theorem updatePendingSig_apply (op : BitVec cfg.nbits → BitVec cfg.nbits → BitVec cfg.nbits)
    (P : Words cfg) (signum : Nat) (i : Fin cfg.maskWords) :
    updatePendingSig op P signum i =
      if i.val = (signum - 1) / cfg.nbits
      then op (P i) (intOneShl cfg ((signum - 1) % cfg.nbits)) else P i := by
  unfold updatePendingSig
  split_ifs with h hi hi
  · obtain rfl : i = ⟨_, h⟩ := Fin.ext hi
    simp
  · rw [Function.update_noteq (fun e => hi (by rw [e]))]
  · exact absurd (hi ▸ i.isLt) h
  · rfl

/-- Adding a signal sets, in its word, the bits of the mask the code computes. -/
theorem getLsbD_addPendingSig (P : Words cfg) (signum : Nat) (i : Fin cfg.maskWords) (j : Nat) :
    (addPendingSig P signum i).getLsbD j =
      ((P i).getLsbD j || decide (i.val = (signum - 1) / cfg.nbits) &&
        (intOneShl cfg ((signum - 1) % cfg.nbits)).getLsbD j) := by
  rw [addPendingSig, updatePendingSig_apply]
  split_ifs with h <;> simp [h]

/-- Deleting a signal clears, in its word, the bits of the mask the code computes. -/
theorem getLsbD_delPendingSig (P : Words cfg) (signum : Nat) (i : Fin cfg.maskWords) (j : Nat) :
    (delPendingSig P signum i).getLsbD j =
      ((P i).getLsbD j && !(decide (i.val = (signum - 1) / cfg.nbits) &&
        (intOneShl cfg ((signum - 1) % cfg.nbits)).getLsbD j)) := by
  rw [delPendingSig, updatePendingSig_apply]
  split_ifs with h
  · by_cases hj : j < cfg.nbits
    · simp [h, hj]
    · simp [BitVec.getLsbD_ge _ _ (Nat.le_of_not_lt hj)]
  · simp [h]

/-- `is_pending_sig` reports whether the word shares a bit with the mask the code computes. -/
theorem isPendingSig_eq (P : Words cfg) (signum : Nat) :
    isPendingSig P signum =
      if h : (signum - 1) / cfg.nbits < cfg.maskWords
      then P ⟨_, h⟩ &&& intOneShl cfg ((signum - 1) % cfg.nbits) != 0 else false := rfl

/-! ### The set the words stand for -/

/-- The bit of the zero-based signal position `p`: bit `p % NBITS` of word `p / NBITS`, and
`false` past the last word. -/
def Words.bit (P : Words cfg) (p : Nat) : Bool :=
  if h : p / cfg.nbits < cfg.maskWords then (P ⟨p / cfg.nbits, h⟩).getLsbD (p % cfg.nbits)
  else false

/-- The mask of a position is exact when it is the single bit of that position. -/
def MaskExact (cfg : Config) (p : Nat) : Prop := p % cfg.nbits < 31 ∨ cfg.nbits = 32

theorem maskExact_of_nbits_32 (h32 : cfg.nbits = 32) (p : Nat) : MaskExact cfg p := Or.inr h32

private theorem eq_iff_div_mod (n : Nat) (a b : Nat) :
    a = b ↔ a / n = b / n ∧ a % n = b % n := by
  refine ⟨fun h => h ▸ ⟨rfl, rfl⟩, fun ⟨h₁, h₂⟩ => ?_⟩
  rw [← Nat.div_add_mod a n, ← Nat.div_add_mod b n, h₁, h₂]

/-- The mask of `signum` tests bit `(signum - 1) % NBITS` of a word, when it is exact. -/
theorem intOneShl_getLsbD_of_exact {signum : Nat} (hx : MaskExact cfg (signum - 1)) (j : Nat) :
    (intOneShl cfg ((signum - 1) % cfg.nbits)).getLsbD j =
      (decide (j < cfg.nbits) && decide ((signum - 1) % cfg.nbits = j)) := by
  have hlt := Nat.mod_lt (signum - 1) (nbits_pos cfg)
  rw [intOneShl_eq_twoPow _ hlt hx, BitVec.getLsbD_twoPow]
  by_cases hj : j < cfg.nbits
  · simp [hj, hlt]
  · simp [hj, hlt]
    omega

/-- With an exact mask, adding `signum` sets the bit of position `signum - 1` and no other. -/
theorem bit_addPendingSig {signum : Nat} (hx : MaskExact cfg (signum - 1)) (P : Words cfg)
    (p : Nat) : (addPendingSig P signum).bit p =
      (P.bit p || decide (p = signum - 1) && decide (p / cfg.nbits < cfg.maskWords)) := by
  unfold Words.bit
  split_ifs with hp
  · rw [getLsbD_addPendingSig, intOneShl_getLsbD_of_exact hx]
    simp only [eq_iff_div_mod cfg.nbits p, Nat.mod_lt _ (nbits_pos cfg), hp]
    by_cases h₁ : p / cfg.nbits = (signum - 1) / cfg.nbits <;>
      by_cases h₂ : p % cfg.nbits = (signum - 1) % cfg.nbits <;> simp [h₁, h₂, eq_comm]
  · simp [Nat.le_of_not_lt hp]

/-- With an exact mask, deleting `signum` clears the bit of position `signum - 1` and no
other. -/
theorem bit_delPendingSig {signum : Nat} (hx : MaskExact cfg (signum - 1)) (P : Words cfg)
    (p : Nat) : (delPendingSig P signum).bit p = (P.bit p && !decide (p = signum - 1)) := by
  unfold Words.bit
  split_ifs with hp
  · rw [getLsbD_delPendingSig, intOneShl_getLsbD_of_exact hx]
    simp only [eq_iff_div_mod cfg.nbits p, Nat.mod_lt _ (nbits_pos cfg)]
    by_cases h₁ : p / cfg.nbits = (signum - 1) / cfg.nbits <;>
      by_cases h₂ : p % cfg.nbits = (signum - 1) % cfg.nbits <;> simp [h₁, h₂, eq_comm]
  · simp

/-- With an exact mask, `is_pending_sig` reads the bit of position `signum - 1`. -/
theorem isPendingSig_of_exact {signum : Nat} (hx : MaskExact cfg (signum - 1)) (P : Words cfg) :
    isPendingSig P signum = P.bit (signum - 1) := by
  rw [isPendingSig_eq, Words.bit]
  split_ifs with h
  · rw [intOneShl_eq_twoPow _ (Nat.mod_lt _ (nbits_pos cfg)) hx, BitVec.and_twoPow]
    split_ifs with hb <;> simp [hb, twoPow_ne_zero (Nat.mod_lt _ (nbits_pos cfg))]
  · rfl

/-! ### The first pending signal -/

/-- `get_first_set_bit_index_l`: the bit scan over the `NBITS` bits of a `ulong`.  Its caller
passes a nonzero word, as its `ASSERT(num != 0)` requires. -/
def getFirstSetBitIndexL (val : BitVec cfg.nbits) : Nat := firstSetBitLoop val 0 cfg.nbits

/-- `get_first_pending_sig`: the first nonzero word `i`, and in it the first set bit `idx`, give
the signal `i * NBITS + idx + 1`; `-1` when every word is zero. -/
def getFirstPendingSig (P : Words cfg) : Int :=
  match (List.finRange cfg.maskWords).find? (fun i => P i != 0) with
  | some i => i.val * cfg.nbits + getFirstSetBitIndexL (P i) + 1
  | none => -1

theorem mul_add_div_nbits (i : Nat) {j : Nat} (hj : j < cfg.nbits) :
    (i * cfg.nbits + j) / cfg.nbits = i := by
  rw [Nat.mul_comm, Nat.mul_add_div (nbits_pos cfg), Nat.div_eq_of_lt hj, Nat.add_zero]

/-- Bit `j` of word `i` is the position `i * NBITS + j`. -/
theorem Words.bit_mul_add (P : Words cfg) (i : Fin cfg.maskWords) {j : Nat} (hj : j < cfg.nbits) :
    P.bit (i * cfg.nbits + j) = (P i).getLsbD j := by
  have hmod : (i * cfg.nbits + j) % cfg.nbits = j := by
    rw [Nat.mul_comm, Nat.mul_add_mod, Nat.mod_eq_of_lt hj]
  simp only [Words.bit, mul_add_div_nbits _ hj, hmod, i.isLt, dite_true]

/-- Below the lowest set bit `b` of the first nonzero word `i`, every position is clear. -/
theorem Words.bit_of_lt_first {P : Words cfg} {i : Fin cfg.maskWords} {b q : Nat}
    (hz : ∀ j : Fin cfg.maskWords, j.val < i.val → P j = 0)
    (hclear : ∀ j < b, (P i).getLsbD j = false) (hb : b ≤ cfg.nbits)
    (hq : q < i * cfg.nbits + b) : P.bit q = false := by
  unfold Words.bit
  split_ifs with h
  · have hdm : q / cfg.nbits * cfg.nbits + q % cfg.nbits = q := by
      rw [Nat.mul_comm]; exact Nat.div_add_mod _ _
    have hle : q / cfg.nbits ≤ i := Nat.lt_succ_iff.1 ((Nat.div_lt_iff_lt_mul (nbits_pos cfg)).2
      (by rw [Nat.succ_mul]; omega))
    rcases Nat.lt_or_eq_of_le hle with hlt | heq
    · simp [hz ⟨_, h⟩ hlt]
    · obtain rfl : (⟨q / cfg.nbits, h⟩ : Fin cfg.maskWords) = i := Fin.ext heq
      exact hclear _ (by rw [heq] at hdm; omega)
  · rfl

/-- A positive result of `get_first_pending_sig` is a pending signal: the bit of its position is
set. -/
theorem bit_getFirstPendingSig {P : Words cfg} (h : 0 < getFirstPendingSig P) :
    P.bit ((getFirstPendingSig P).toNat - 1) = true := by
  revert h
  unfold getFirstPendingSig
  split
  next i hi =>
    obtain ⟨hb, hset, -⟩ := firstSetBitLoop_spec (w := cfg.nbits)
      (by simpa using (List.find?_eq_some_iff_getElem.1 hi).1)
    intro _
    convert (Words.bit_mul_add P i hb).trans hset using 2
  next => exact fun h => absurd h (by decide)

/-- **`get_first_pending_sig` returns the first pending position**, in every build: the least
position `p` whose bit is set, plus one, or `-1` when no bit is set. -/
theorem getFirstPendingSig_spec (P : Words cfg) :
    (getFirstPendingSig P = -1 ∧ ∀ p, P.bit p = false) ∨
    ∃ p : Nat, getFirstPendingSig P = p + 1 ∧ P.bit p = true ∧ ∀ q < p, P.bit q = false := by
  unfold getFirstPendingSig
  split
  next i hi =>
    rw [getFirstSetBitIndexL]
    obtain ⟨hne, k, hk, hki, hbefore⟩ := List.find?_eq_some_iff_getElem.1 hi
    obtain rfl : k = i.val := by simpa using congrArg Fin.val hki
    have hz : ∀ j : Fin cfg.maskWords, j.val < i.val → P j = 0 := fun j hj => by
      simpa using hbefore j hj
    obtain ⟨hb, hset, hclear⟩ := firstSetBitLoop_spec (w := cfg.nbits) (by simpa using hne)
    refine .inr ⟨i * cfg.nbits + firstSetBitLoop (P i) 0 cfg.nbits, by push_cast; rfl, ?_,
      fun q hq => Words.bit_of_lt_first hz hclear hb.le (by omega)⟩
    rw [Words.bit_mul_add P i hb]
    exact hset
  next hi =>
    have hz : ∀ i, P i = 0 := fun i => by
      simpa using List.find?_eq_none.1 hi i (List.mem_finRange i)
    refine .inl ⟨rfl, fun p => ?_⟩
    unfold Words.bit
    split_ifs <;> simp [hz]

/-- A sequence of calls on the words: `(true, s)` is `add_pending_sig(s)` and `(false, s)` is
`del_pending_sig(s)`. -/
def applyPendingOps (P : Words cfg) (ops : List (Bool × Nat)) : Words cfg :=
  ops.foldl (fun P op => if op.1 then addPendingSig P op.2 else delPendingSig P op.2) P

/-- The last call of `ops` on the signal number `s`: `some true` for an add, `some false` for a
delete, `none` when there is none. -/
def lastPendingOp (ops : List (Bool × Nat)) (s : Nat) : Option Bool :=
  (ops.reverse.find? (·.2 = s)).map (·.1)

theorem lastPendingOp_cons (op : Bool × Nat) (ops : List (Bool × Nat)) (s : Nat) :
    lastPendingOp (op :: ops) s =
      (lastPendingOp ops s).or (if op.2 = s then some op.1 else none) := by
  unfold lastPendingOp
  rw [List.reverse_cons, List.find?_append]
  cases List.find? (·.2 = s) ops.reverse <;> by_cases h : op.2 = s <;> simp [h]

/-- With exact masks, a position of the words reads the last call on its signal, or its old
value when there was none. -/
theorem bit_applyPendingOps (ops : List (Bool × Nat)) (hops : ∀ op ∈ ops, 0 < op.2)
    (hx : ∀ op ∈ ops, MaskExact cfg (op.2 - 1)) (P : Words cfg) (p : Nat)
    (hp : p / cfg.nbits < cfg.maskWords) :
    (applyPendingOps P ops).bit p = (lastPendingOp ops (p + 1)).getD (P.bit p) := by
  induction ops generalizing P with
  | nil => rfl
  | cons op ops ih =>
      have hop : p = op.2 - 1 ↔ op.2 = p + 1 := by have := hops op (by simp); omega
      rw [applyPendingOps, List.foldl_cons, ← applyPendingOps,
        ih (fun o ho => hops o (by simp [ho])) (fun o ho => hx o (by simp [ho])),
        lastPendingOp_cons]
      cases lastPendingOp ops (p + 1) with
      | some b => rfl
      | none =>
          have hxo := hx op (by simp)
          split_ifs with hb hs hs <;>
            simp only [bit_addPendingSig hxo, bit_delPendingSig hxo] <;> simp [hp, hop, hb, hs]

/-- **With a 32-bit `ulong` the pending words implement a set of signal numbers.**  After any
sequence of `add_pending_sig`/`del_pending_sig` calls starting from all-zero words,
`is_pending_sig(s)` holds exactly for the supported `s` whose last call was an add, and every
bit that is set belongs to such a signal. -/
theorem pendingSet_of_nbits_32 (h32 : cfg.nbits = 32) (ops : List (Bool × Nat))
    (hops : ∀ op ∈ ops, 0 < op.2) :
    (∀ s, 0 < s → isPendingSig (applyPendingOps (fun _ => 0 : Words cfg) ops) s =
      (decide (s ≤ cfg.maskWords * cfg.nbits) && lastPendingOp ops s == some true)) ∧
    (∀ (i : Fin cfg.maskWords) (j : Nat),
      (applyPendingOps (fun _ => 0 : Words cfg) ops i).getLsbD j →
      lastPendingOp ops (i * cfg.nbits + j + 1) = some true) := by
  have hx : ∀ op ∈ ops, MaskExact cfg (op.2 - 1) := fun _ _ => maskExact_of_nbits_32 h32 _
  have zero_bit : ∀ p, Words.bit (fun _ => 0 : Words cfg) p = false := by
    intro p; unfold Words.bit; split_ifs <;> simp
  constructor
  · intro s hs
    rw [isPendingSig_of_exact (maskExact_of_nbits_32 h32 _)]
    by_cases hin : (s - 1) / cfg.nbits < cfg.maskWords
    · have hle : s ≤ cfg.maskWords * cfg.nbits := by
        have := Nat.lt_mul_of_div_lt hin (nbits_pos cfg); omega
      rw [bit_applyPendingOps ops hops hx _ _ hin, Nat.sub_add_cancel hs, zero_bit]
      cases lastPendingOp ops s with
      | none => simp
      | some b => cases b <;> simp [hle]
    · have hgt : ¬ s ≤ cfg.maskWords * cfg.nbits := by
        intro hle
        exact hin ((Nat.div_lt_iff_lt_mul (nbits_pos cfg)).2 (by omega))
      simp [Words.bit, hin, hgt]
  · intro i j hij
    have hj : j < cfg.nbits := by
      by_contra hj; simp [BitVec.getLsbD_ge _ _ (Nat.le_of_not_lt hj)] at hij
    have hbit := bit_applyPendingOps ops hops hx (fun _ => 0) (i * cfg.nbits + j)
      (by rw [mul_add_div_nbits _ hj]; exact i.isLt)
    rw [Words.bit_mul_add _ i hj, hij, zero_bit] at hbit
    cases h : lastPendingOp ops (i * cfg.nbits + j + 1) with
    | none => simp [h] at hbit
    | some b => simp [h] at hbit; simp [hbit]

theorem pendingSet_of_nbits_32_ilp32 :
    ilp32.nbits = 32 ∧ (∀ op ∈ [(true, 40), (false, 3)], 0 < op.2) ∧
    ((∀ s, 0 < s →
      isPendingSig (applyPendingOps (fun _ => 0 : Words ilp32) [(true, 40), (false, 3)]) s =
      (decide (s ≤ ilp32.maskWords * ilp32.nbits) &&
        lastPendingOp [(true, 40), (false, 3)] s == some true)) ∧
    (∀ (i : Fin ilp32.maskWords) (j : Nat),
      (applyPendingOps (fun _ => 0 : Words ilp32) [(true, 40), (false, 3)] i).getLsbD j →
      lastPendingOp [(true, 40), (false, 3)] (i * ilp32.nbits + j + 1) = some true)) :=
  ⟨rfl, by decide, pendingSet_of_nbits_32 rfl _ (by decide)⟩

/-! ### Aliasing with a 64-bit `ulong` -/

/-- With a 64-bit `ulong`, `add_pending_sig(33)` on all-zero words sets bit 0 instead of bit 32,
so `is_pending_sig(1)` turns true although signal 1 was never added; and
`add_pending_sig(32)` sets every bit from 31 up. -/
theorem addPendingSig_aliases_on_lp64 :
    (addPendingSig (fun _ => 0 : Words lp64) 33 ⟨0, by decide⟩).getLsbD 0 = true ∧
    (addPendingSig (fun _ => 0 : Words lp64) 33 ⟨0, by decide⟩).getLsbD 32 = false ∧
    isPendingSig (addPendingSig (fun _ => 0 : Words lp64) 33) 1 = true ∧
    addPendingSig (fun _ => 0 : Words lp64) 32 ⟨0, by decide⟩ = 0xFFFFFFFF80000000#64 := by
  decide

/-! ### The words the writers build -/

/-- Bits `31` to `NBITS - 1` of every word agree.  It is the shape of `1 << index` computed as an
`int` and sign-extended to `ulong`, and so of every word `add_pending_sig` and `del_pending_sig`
build from all-zero words. -/
def Words.SignUniform (P : Words cfg) : Prop :=
  ∀ i j, 31 ≤ j → j < cfg.nbits → (P i).getLsbD j = (P i).getLsbD 31

/-- The mask `1 << index` has the same bit at every position from `31` up. -/
theorem intOneShl_getLsbD_high (index : Nat) {j : Nat} (h31 : 31 ≤ j) (hj : j < cfg.nbits) :
    (intOneShl cfg index).getLsbD j = (intOneShl cfg index).getLsbD 31 := by
  have h32 := nbits_ge cfg
  rw [getLsbD_intOneShl, getLsbD_intOneShl]
  by_cases hj32 : j < 32
  · obtain rfl : j = 31 := by omega
    rfl
  · simp [hj, hj32, show 31 < cfg.nbits by omega, eq_comm]

theorem Words.SignUniform.add {P : Words cfg} (hu : P.SignUniform) (signum : Nat) :
    (addPendingSig P signum).SignUniform := by
  intro i j h31 hj
  rw [getLsbD_addPendingSig, getLsbD_addPendingSig, hu i j h31 hj, intOneShl_getLsbD_high _ h31 hj]

theorem Words.SignUniform.del {P : Words cfg} (hu : P.SignUniform) (signum : Nat) :
    (delPendingSig P signum).SignUniform := by
  intro i j h31 hj
  rw [getLsbD_delPendingSig, getLsbD_delPendingSig, hu i j h31 hj, intOneShl_getLsbD_high _ h31 hj]

/-- **The words the two writers build keep bits 31 and up equal**, in every build. -/
theorem Words.SignUniform.applyPendingOps {P : Words cfg} (hu : P.SignUniform)
    (ops : List (Bool × Nat)) : (applyPendingOps P ops).SignUniform := by
  induction ops generalizing P with
  | nil => exact hu
  | cons op ops ih =>
      rw [Tilck.applyPendingOps, List.foldl_cons, ← Tilck.applyPendingOps]
      obtain ⟨b, signum⟩ := op
      cases b
      · exact ih (hu.del signum)
      · exact ih (hu.add signum)

end Tilck
