import Mathlib.Data.BitVec
import Mathlib.Data.Nat.Log
import Mathlib.Data.Nat.Size
/-!
**The word routines of `common/utils.h`.**

`utils.h` holds the small word routines the kernel shares: scans for the first set and the first
clear bit of a 32-bit or a 64-bit word, the rounding of a `uptr` up to the next power of two and
the logarithm of a power of two, and the rounding of a value up to a multiple of a unit, with a
mask version for power-of-two units.  A `uptr` has the width `w` of a pointer, 32 bits, or 64 when
`BITS64` is defined; the `#ifdef BITS64` blocks are the tests `w = 64`.  An `ASSERT` that fails
halts the kernel, so a routine with one returns an `Option`, `none` when its assertion fails.

Main definitions:

* `Tilck.scanLoop` — the loop the four scans share; `Tilck.firstSetBitLoop` and
  `Tilck.firstZeroBitLoop` are its two instances;
* `Tilck.getFirstSetBitIndex`, `Tilck.getFirstSetBitIndex64`, `Tilck.getFirstZeroBitIndex`,
  `Tilck.getFirstZeroBitIndex64`;
* `Tilck.roundupNextPowerOf2`, `Tilck.log2ForPowerOf2`;
* `Tilck.roundUpAt`, `Tilck.roundUpAt64`, `Tilck.pow2RoundUpAt`, `Tilck.pow2RoundUpAt64`.

Main results:

* `Tilck.getFirstSetBitIndex_first_set` — on a nonzero word the set-bit scans stop at the lowest
  set bit;
* `Tilck.getFirstZeroBitIndex_first_zero` — the zero-bit scans stop at the lowest clear bit, but
  the 64-bit one asserts against the 32-bit `~0U`;
* `Tilck.roundupNextPowerOf2_log2` — `roundup_next_power_of_2(v)` is `2 ^ ⌈log₂ v⌉`, and
  `log2_for_power_of_2` inverts it up to `2 ^ 32` only;
* `Tilck.pow2RoundUpAt_eq_roundUpAt` — `round_up_at` rounds up to the next multiple, and the mask
  version agrees with it on every power-of-two unit.
-/

set_option relaxedAutoImplicit false
set_option autoImplicit false

namespace Tilck

variable {w : Nat}

/-! ### The bit scans -/

/-- The loop of the four scans, from bit `i` on with `k` bits left:
`for (; i < bound; i++) if (stop(num & (1 << i))) break;`, with an unsigned shift. -/
def scanLoop (stop : BitVec w → Bool) (num : BitVec w) : Nat → Nat → Nat
  | i, 0 => i
  | i, k + 1 => if stop (num &&& (1#w <<< i)) then i else scanLoop stop num (i + 1) k

/-- The loop of `get_first_set_bit_index` and `get_first_set_bit_index64`, from bit `i` on with
`k` bits left: the first `i` whose bit is set in `num` (`num & (1 << i)`, an unsigned shift), or
the bound when there is none. -/
def firstSetBitLoop (num : BitVec w) : Nat → Nat → Nat
  | i, 0 => i
  | i, k + 1 => if num &&& (1#w <<< i) != 0 then i else firstSetBitLoop num (i + 1) k

/-- The loop of `get_first_zero_bit_index` and `get_first_zero_bit_index64`:
`if ((num & (1 << i)) == 0) break;`. -/
def firstZeroBitLoop (num : BitVec w) : Nat → Nat → Nat :=
  scanLoop (· == 0) num

theorem firstSetBitLoop_eq_scanLoop (num : BitVec w) (i k : Nat) :
    firstSetBitLoop num i k = scanLoop (· != 0) num i k := by
  induction k generalizing i with
  | zero => rfl
  | succ k ih => simp only [firstSetBitLoop, scanLoop, ih]

/-- **The scan loop**: from `i`, with `k` bits left, it returns the first `j` of `[i, i + k)` where
`stop` holds, or `i + k`. -/
theorem scanLoop_spec (stop : BitVec w → Bool) (num : BitVec w) (i k : Nat) :
    i ≤ scanLoop stop num i k ∧ scanLoop stop num i k ≤ i + k ∧
      (∀ j, i ≤ j → j < scanLoop stop num i k → stop (num &&& (1#w <<< j)) = false) ∧
      (scanLoop stop num i k < i + k → stop (num &&& (1#w <<< scanLoop stop num i k)) = true) := by
  induction k generalizing i with
  | zero =>
    rw [scanLoop]
    exact ⟨le_rfl, le_rfl, fun j h₁ h₂ => absurd h₂ (by omega), fun h => absurd h (by omega)⟩
  | succ k ih =>
    by_cases hs : stop (num &&& (1#w <<< i)) = true
    · rw [scanLoop, if_pos hs]
      exact ⟨le_rfl, by omega, fun j h₁ h₂ => absurd h₂ (by omega), fun _ => hs⟩
    · rw [scanLoop, if_neg hs]
      obtain ⟨h₁, h₂, h₃, h₄⟩ := ih (i + 1)
      refine ⟨by omega, by omega, fun j hj hjr => ?_, fun h => h₄ (by omega)⟩
      rcases Nat.eq_or_lt_of_le hj with rfl | hj
      · simpa using hs
      · exact h₃ j hj hjr

theorem twoPow_ne_zero {i : Nat} (hi : i < w) : BitVec.twoPow w i ≠ 0#w := by
  intro h
  simpa [BitVec.getLsbD_twoPow, hi] using congrArg (BitVec.getLsbD · i) h

/-- `num & (1 << j)` is nonzero exactly when bit `j` of `num` is set. -/
theorem and_shiftLeft_ne_zero (num : BitVec w) {j : Nat} (hj : j < w) :
    (num &&& (1#w <<< j) != 0) = num.getLsbD j := by
  show (num &&& BitVec.twoPow w j != 0) = _
  rw [BitVec.and_twoPow]
  cases num.getLsbD j <;> simp [twoPow_ne_zero hj]

/-- A scan over the whole word that stops where `test` holds returns the first such bit, or
`w`. -/
theorem scanLoop_first (stop : BitVec w → Bool) {num : BitVec w} {test : Nat → Bool}
    (htest : ∀ j < w, stop (num &&& (1#w <<< j)) = test j) :
    scanLoop stop num 0 w ≤ w ∧ (∀ j < scanLoop stop num 0 w, test j = false) ∧
      (scanLoop stop num 0 w < w → test (scanLoop stop num 0 w) = true) := by
  obtain ⟨-, h₂, h₃, h₄⟩ := scanLoop_spec stop num 0 w
  simp only [Nat.zero_add] at h₂ h₄
  exact ⟨h₂, fun j hj => htest j (by omega) ▸ h₃ j (Nat.zero_le j) hj,
    fun h => htest _ h ▸ h₄ h⟩

/-- The set-bit scan of a nonzero word stops at its lowest set bit. -/
theorem firstSetBitLoop_spec {num : BitVec w} (h : num ≠ 0) :
    firstSetBitLoop num 0 w < w ∧ num.getLsbD (firstSetBitLoop num 0 w) = true ∧
      ∀ j < firstSetBitLoop num 0 w, num.getLsbD j = false := by
  rw [firstSetBitLoop_eq_scanLoop]
  obtain ⟨hle, hbelow, hat⟩ :=
    scanLoop_first (· != 0) fun j hj => and_shiftLeft_ne_zero num hj
  have hlt : scanLoop (· != 0) num 0 w < w := by
    refine lt_of_le_of_ne hle fun he => h ?_
    ext ⟨j, hj⟩
    exact (hbelow j (by omega)).trans (by simp)
  exact ⟨hlt, hat hlt, hbelow⟩

/-- The zero-bit scan stops at the lowest clear bit, or at `w` on the all-ones word. -/
theorem firstZeroBitLoop_spec (num : BitVec w) :
    (firstZeroBitLoop num 0 w < w ∧ num.getLsbD (firstZeroBitLoop num 0 w) = false ∨
      firstZeroBitLoop num 0 w = w ∧ num = BitVec.allOnes w) ∧
    ∀ j < firstZeroBitLoop num 0 w, num.getLsbD j = true := by
  have htest : ∀ j < w, (num &&& (1#w <<< j) == 0) = !num.getLsbD j := fun j hj => by
    rw [← and_shiftLeft_ne_zero num hj, bne, Bool.not_not]
  unfold firstZeroBitLoop
  obtain ⟨hle, hbelow, hat⟩ := scanLoop_first (· == 0) htest
  have hbelow' : ∀ j < scanLoop (· == 0) num 0 w, num.getLsbD j = true := fun j hj => by
    simpa using hbelow j hj
  refine ⟨?_, hbelow'⟩
  rcases Nat.lt_or_eq_of_le hle with hlt | he
  · exact .inl ⟨hlt, by simpa using hat hlt⟩
  · refine .inr ⟨he, ?_⟩
    ext ⟨j, hj⟩
    simpa [hj] using hbelow' j (by omega)

/-- `get_first_set_bit_index` and `get_first_set_bit_index64`, at the width of their argument:
`ASSERT(num != 0)`, then the scan of all `w` bits. -/
def firstSetBitIndex (num : BitVec w) : Option Nat :=
  if num = 0 then none else some (firstSetBitLoop num 0 w)

/-- `get_first_set_bit_index(u32 num)`. -/
def getFirstSetBitIndex (num : BitVec 32) : Option Nat := firstSetBitIndex num

/-- `get_first_set_bit_index64(u64 num)`. -/
def getFirstSetBitIndex64 (num : BitVec 64) : Option Nat := firstSetBitIndex num

/-- The set-bit scans pass their assertion on a nonzero word and return its lowest set bit. -/
theorem firstSetBitIndex_spec {num : BitVec w} (h : num ≠ 0) :
    ∃ i, firstSetBitIndex num = some i ∧ i < w ∧ num.getLsbD i = true ∧
      ∀ j < i, num.getLsbD j = false :=
  ⟨_, if_neg h, firstSetBitLoop_spec h⟩

/-- **The set-bit scans stop at the lowest set bit.**  For every nonzero `u32` (`u64`),
`get_first_set_bit_index` (`get_first_set_bit_index64`) leaves its loop with an `i` below 32 (64)
where the bit of `num` is set and every lower bit is clear. -/
theorem getFirstSetBitIndex_first_set :
    (∀ num : BitVec 32, num ≠ 0 → ∃ i, getFirstSetBitIndex num = some i ∧ i < 32 ∧
      num.getLsbD i = true ∧ ∀ j < i, num.getLsbD j = false) ∧
    (∀ num : BitVec 64, num ≠ 0 → ∃ i, getFirstSetBitIndex64 num = some i ∧ i < 64 ∧
      num.getLsbD i = true ∧ ∀ j < i, num.getLsbD j = false) :=
  ⟨fun _ h => firstSetBitIndex_spec h, fun _ h => firstSetBitIndex_spec h⟩

/-- `get_first_zero_bit_index(u32 num)`: `ASSERT(num != ~0U)`, then the scan of the 32 bits. -/
def getFirstZeroBitIndex (num : BitVec 32) : Option Nat :=
  if num = ~~~(0#32) then none else some (firstZeroBitLoop num 0 32)

/-- `get_first_zero_bit_index64(u64 num)`: the assertion compares with the `unsigned int` `~0U`,
which the comparison widens to the `u64` `0x00000000FFFFFFFF`; then the scan of the 64 bits. -/
def getFirstZeroBitIndex64 (num : BitVec 64) : Option Nat :=
  if num = (~~~(0#32)).setWidth 64 then none else some (firstZeroBitLoop num 0 64)

/-- **The zero-bit scans.**  `get_first_zero_bit_index` fails its assertion exactly on the all-ones
word and otherwise returns the lowest clear bit.  `get_first_zero_bit_index64` fails its
assertion exactly on `0xFFFFFFFF`, which has clear bits, and on every other word returns the
lowest clear bit, or `64` on the all-ones word. -/
theorem getFirstZeroBitIndex_first_zero :
    (∀ num : BitVec 32, (getFirstZeroBitIndex num = none ↔ num = BitVec.allOnes 32) ∧
      ∀ i, getFirstZeroBitIndex num = some i →
        i < 32 ∧ num.getLsbD i = false ∧ ∀ j < i, num.getLsbD j = true) ∧
    (∀ num : BitVec 64, (getFirstZeroBitIndex64 num = none ↔ num = 0xFFFFFFFF#64) ∧
      ∀ i, getFirstZeroBitIndex64 num = some i →
        (i < 64 ∧ num.getLsbD i = false ∨ i = 64 ∧ num = BitVec.allOnes 64) ∧
        ∀ j < i, num.getLsbD j = true) := by
  have h32 : ~~~(0#32) = BitVec.allOnes 32 := by decide
  have h64 : (~~~(0#32)).setWidth 64 = 0xFFFFFFFF#64 := by decide
  refine ⟨fun num => ⟨?_, fun i hi => ?_⟩, fun num => ⟨?_, fun i hi => ?_⟩⟩
  · by_cases h : num = BitVec.allOnes 32 <;> simp [getFirstZeroBitIndex, h32, h]
  · rw [getFirstZeroBitIndex, h32] at hi
    split_ifs at hi with h
    obtain rfl := Option.some_inj.1 hi
    obtain ⟨⟨hlt, hbit⟩ | ⟨-, hone⟩, hbelow⟩ := firstZeroBitLoop_spec num
    · exact ⟨hlt, hbit, hbelow⟩
    · exact absurd hone h
  · by_cases h : num = 0xFFFFFFFF#64 <;> simp [getFirstZeroBitIndex64, h64, h]
  · rw [getFirstZeroBitIndex64, h64] at hi
    split_ifs at hi
    obtain rfl := Option.some_inj.1 hi
    exact firstZeroBitLoop_spec num

/-- On `0xFFFFFFFF`, which has 32 clear bits, `get_first_zero_bit_index64` fails its assertion;
on the all-ones word it passes it and returns `64`, which is not a bit index. -/
theorem getFirstZeroBitIndex64_asserts_on_low_ones :
    getFirstZeroBitIndex64 0xFFFFFFFF#64 = none ∧
      getFirstZeroBitIndex64 (BitVec.allOnes 64) = some 64 := by
  decide

/-! ### Powers of two -/

/-- `roundup_next_power_of_2(v)` on a `uptr` of `w` bits. -/
def roundupNextPowerOf2 (v : BitVec w) : BitVec w :=
  let v := v - 1
  let v := v ||| v >>> 1
  let v := v ||| v >>> 2
  let v := v ||| v >>> 4
  let v := v ||| v >>> 8
  let v := v ||| v >>> 16
  let v := if w = 64 then v ||| v >>> 32 else v
  v + 1

/-- `(uptr)((v & mask) != 0)`. -/
def maskBit (v : BitVec w) (mask : Nat) : BitVec w :=
  if v &&& BitVec.ofNat w mask != 0 then 1 else 0

/-- `log2_for_power_of_2(v)` on a `uptr` of `w` bits: each bit of the result tests `v` against a
mask.  The masks of bits 0 to 4 are `unsigned int` constants, widened to `uptr` with zeros. -/
def log2ForPowerOf2 (v : BitVec w) : BitVec w :=
  let r := maskBit v 0xAAAAAAAA
  let r := if w = 64 then r ||| maskBit v 0xFFFFFFFF00000000 <<< 5 else r
  let r := r ||| maskBit v 0xFFFF0000 <<< 4
  let r := r ||| maskBit v 0xFF00FF00 <<< 3
  let r := r ||| maskBit v 0xF0F0F0F0 <<< 2
  let r := r ||| maskBit v 0xCCCCCCCC <<< 1
  r

/-- One `v |= v >> c` of the smear: the bits within `c` above a bit reach it, so a window of `c`
bits grows to one of `2 * c`. -/
theorem getLsbD_or_ushiftRight {c : Nat} {x y : BitVec w}
    (h : ∀ j, y.getLsbD j = true ↔ ∃ d < c, x.getLsbD (j + d) = true) (j : Nat) :
    (y ||| y >>> c).getLsbD j = true ↔ ∃ d < 2 * c, x.getLsbD (j + d) = true := by
  rw [BitVec.getLsbD_or, BitVec.getLsbD_ushiftRight, Bool.or_eq_true, h, h]
  constructor
  · rintro (⟨d, hd, hx⟩ | ⟨d, hd, hx⟩)
    · exact ⟨d, by omega, hx⟩
    · exact ⟨c + d, by omega, by rwa [show j + (c + d) = c + j + d by omega]⟩
  · rintro ⟨d, hd, hx⟩
    by_cases hdc : d < c
    · exact .inl ⟨d, hdc, hx⟩
    · exact .inr ⟨d - c, by omega, by rwa [show c + j + (d - c) = j + d by omega]⟩

/-- A window as wide as the word sees every bit above `j`: there is one exactly when
`2 ^ j ≤ x`, that is, when `j` is below the bit length of `x`. -/
theorem exists_window_iff {c : Nat} (x : BitVec w) (hc : w ≤ c) (j : Nat) :
    (∃ d < c, x.getLsbD (j + d) = true) ↔ j < Nat.size x.toNat := by
  rw [Nat.lt_size]
  constructor
  · rintro ⟨d, -, hx⟩
    exact le_trans (Nat.pow_le_pow_right (by decide) (Nat.le_add_right j d))
      (Nat.testBit_implies_ge hx)
  · intro hj
    obtain ⟨i, hi, hx⟩ := Nat.ge_two_pow_implies_high_bit_true hj
    have hiw : i < w := by
      by_contra hw
      exact absurd hx (by rw [Nat.testBit_lt_two_pow (lt_of_lt_of_le x.isLt
        (Nat.pow_le_pow_right (by decide) (Nat.le_of_not_lt hw)))]; decide)
    exact ⟨i - j, by omega, by rwa [show j + (i - j) = i by omega]⟩

/-- **The smear**: the shifts by 1 to 16, and by 32 on a 64-bit word, set every bit below the top
bit of `v - 1`, so that `roundup_next_power_of_2(v)` is `2 ^ size (v - 1)`, modulo the word. -/
theorem roundupNextPowerOf2_eq (hw : w = 32 ∨ w = 64) (v : BitVec w) :
    roundupNextPowerOf2 v = BitVec.ofNat w (2 ^ Nat.size (v - 1).toNat - 1) + 1 := by
  have h1 : ∀ j, (v - 1).getLsbD j = true ↔ ∃ d < 1, (v - 1).getLsbD (j + d) = true := fun j =>
    ⟨fun h => ⟨0, by omega, h⟩, fun ⟨d, hd, h⟩ => by rwa [show d = 0 by omega] at h⟩
  have h16 := getLsbD_or_ushiftRight (getLsbD_or_ushiftRight (getLsbD_or_ushiftRight
    (getLsbD_or_ushiftRight (getLsbD_or_ushiftRight h1))))
  have hsize : ∀ j < w, (BitVec.ofNat w (2 ^ Nat.size (v - 1).toNat - 1)).getLsbD j = true ↔
      j < Nat.size (v - 1).toNat := fun j hj => by
    simp [BitVec.getLsbD_ofNat, hj]
  dsimp only [roundupNextPowerOf2]
  congr 1
  ext ⟨j, hj⟩
  rw [Bool.eq_iff_iff]
  refine Iff.trans ?_ (hsize j hj).symm
  rcases hw with rfl | rfl
  · rw [if_neg (by decide)]
    exact (h16 j).trans (exists_window_iff _ le_rfl j)
  · rw [if_pos rfl]
    exact (getLsbD_or_ushiftRight h16 j).trans (exists_window_iff _ le_rfl j)

theorem toNat_one_of_pos (hw : 0 < w) : (1 : BitVec w).toNat = 1 := by
  rw [BitVec.ofNat_eq_ofNat, BitVec.toNat_ofNat, Nat.mod_eq_of_lt (Nat.one_lt_two_pow (by omega))]

/-- The bit length of `v - 1` is `⌈log₂ v⌉`. -/
theorem size_sub_one_eq_clog {v : Nat} (hv : 1 ≤ v) : Nat.size (v - 1) = Nat.clog 2 v := by
  refine le_antisymm (Nat.size_le.2 ?_) ((Nat.le_pow_iff_clog_le (by decide : 1 < 2)).1 ?_)
  · have := Nat.le_pow_clog (by decide : 1 < 2) v
    omega
  · have := Nat.lt_size_self (v - 1)
    omega

/-- **`roundup_next_power_of_2` rounds up to a power of two**: for `1 ≤ v ≤ 2 ^ (w - 1)` it
returns `2 ^ ⌈log₂ v⌉`, the least power of two that is at least `v`. -/
theorem roundupNextPowerOf2_toNat (hw : w = 32 ∨ w = 64) {v : BitVec w} (h1 : 1 ≤ v.toNat)
    (h2 : v.toNat ≤ 2 ^ (w - 1)) :
    (roundupNextPowerOf2 v).toNat = 2 ^ Nat.clog 2 v.toNat := by
  have hone := toNat_one_of_pos (w := w) (by omega)
  have hsub : (v - 1).toNat = v.toNat - 1 := by
    rw [BitVec.toNat_sub_of_le (by rw [BitVec.le_def, hone]; exact h1), hone]
  have hc : Nat.clog 2 v.toNat < w :=
    lt_of_le_of_lt ((Nat.le_pow_iff_clog_le (by decide : 1 < 2)).1 h2) (by omega)
  have hpow : 2 ^ Nat.clog 2 v.toNat < 2 ^ w := Nat.pow_lt_pow_right (by decide) hc
  have hpos := Nat.one_le_two_pow (n := Nat.clog 2 v.toNat)
  rw [roundupNextPowerOf2_eq hw, hsub, size_sub_one_eq_clog h1, BitVec.toNat_add, hone,
    BitVec.toNat_ofNat,
    Nat.mod_eq_of_lt (show 2 ^ Nat.clog 2 v.toNat - 1 < 2 ^ w by omega), Nat.sub_add_cancel hpos,
    Nat.mod_eq_of_lt hpow]

/-- `log2_for_power_of_2` on the powers of two of a 32-bit word. -/
theorem log2ForPowerOf2_twoPow_32 :
    ∀ k < 32, log2ForPowerOf2 (BitVec.twoPow 32 k) = BitVec.ofNat 32 k := by
  decide

/-- `log2_for_power_of_2` on the powers of two of a 64-bit word: every power from `2 ^ 32` up
gives `32`, since the masks of bits 0 to 4 have no bit there. -/
theorem log2ForPowerOf2_twoPow_64 :
    ∀ k < 64, log2ForPowerOf2 (BitVec.twoPow 64 k) = BitVec.ofNat 64 (min k 32) := by
  decide

/-- A value `2 ^ k` below the word size is `twoPow w k`. -/
theorem eq_twoPow_of_toNat {v : BitVec w} {k : Nat} (h : v.toNat = 2 ^ k) :
    v = BitVec.twoPow w k := by
  have hk : k < w := (Nat.pow_lt_pow_iff_right (by decide)).1 (h ▸ v.isLt)
  exact BitVec.eq_of_toNat_eq (by rw [h, BitVec.toNat_twoPow, Nat.mod_eq_of_lt
    (Nat.pow_lt_pow_right (by decide) hk)])

/-- **Rounding up to a power of two and its logarithm.**  For both widths and every
`1 ≤ v ≤ 2 ^ (w - 1)`, `roundup_next_power_of_2(v)` is `2 ^ ⌈log₂ v⌉`.  On a 32-bit word
`log2_for_power_of_2` of it gives back `⌈log₂ v⌉`; on a 64-bit word it gives `⌈log₂ v⌉` only up to
`32`, and `32` for every `v` above `2 ^ 32`. -/
theorem roundupNextPowerOf2_log2 :
    (∀ {w : Nat} (v : BitVec w), (w = 32 ∨ w = 64) → 1 ≤ v.toNat → v.toNat ≤ 2 ^ (w - 1) →
      (roundupNextPowerOf2 v).toNat = 2 ^ Nat.clog 2 v.toNat) ∧
    (∀ v : BitVec 32, 1 ≤ v.toNat → v.toNat ≤ 2 ^ 31 →
      (log2ForPowerOf2 (roundupNextPowerOf2 v)).toNat = Nat.clog 2 v.toNat) ∧
    (∀ v : BitVec 64, 1 ≤ v.toNat → v.toNat ≤ 2 ^ 63 →
      (log2ForPowerOf2 (roundupNextPowerOf2 v)).toNat = min (Nat.clog 2 v.toNat) 32) := by
  refine ⟨fun v hw h1 h2 => roundupNextPowerOf2_toNat hw h1 h2, fun v h1 h2 => ?_,
    fun v h1 h2 => ?_⟩
  · have hr := roundupNextPowerOf2_toNat (.inl rfl) h1 h2
    have hc : Nat.clog 2 v.toNat < 32 :=
      (Nat.pow_lt_pow_iff_right (by decide)).1 (hr ▸ BitVec.isLt _)
    rw [eq_twoPow_of_toNat hr, log2ForPowerOf2_twoPow_32 _ hc, BitVec.toNat_ofNat,
      Nat.mod_eq_of_lt (by omega)]
  · have hr := roundupNextPowerOf2_toNat (.inr rfl) h1 h2
    have hc : Nat.clog 2 v.toNat < 64 :=
      (Nat.pow_lt_pow_iff_right (by decide)).1 (hr ▸ BitVec.isLt _)
    rw [eq_twoPow_of_toNat hr, log2ForPowerOf2_twoPow_64 _ hc, BitVec.toNat_ofNat,
      Nat.mod_eq_of_lt (by omega)]

/-- On a 64-bit word, `2 ^ 32 + 1` rounds up to `2 ^ 33`, whose logarithm comes out as `32`. -/
theorem log2ForPowerOf2_roundup_above_two_pow_32 :
    roundupNextPowerOf2 (BitVec.ofNat 64 (2 ^ 32 + 1)) = BitVec.twoPow 64 33 ∧
      log2ForPowerOf2 (BitVec.twoPow 64 33) = 32#64 := by
  decide

/-! ### Rounding up to a multiple -/

/-- `round_up_at(n, unit)` on a `uptr` of `w` bits. -/
def roundUpAt (n unit : BitVec w) : BitVec w := ((n + unit - 1) / unit) * unit

/-- `round_up_at64(n, unit)`: the same on a `u64`. -/
def roundUpAt64 (n unit : BitVec 64) : BitVec 64 := roundUpAt n unit

/-- `pow2_round_up_at(n, pow2unit)` on a `uptr` of `w` bits. -/
def pow2RoundUpAt (n pow2unit : BitVec w) : BitVec w := (n + pow2unit - 1) &&& -pow2unit

/-- `pow2_round_up_at64(n, pow2unit)`: the same on a `u64`. -/
def pow2RoundUpAt64 (n pow2unit : BitVec 64) : BitVec 64 := pow2RoundUpAt n pow2unit

/-- `r` is the least multiple of `u` that is at least `n`. -/
def IsRoundUp (n u r : Nat) : Prop := u ∣ r ∧ n ≤ r ∧ ∀ m, u ∣ m → n ≤ m → r ≤ m

/-- `(n + u - 1) / u * u` is the least multiple of `u` that is at least `n`. -/
theorem isRoundUp_div_mul {n u : Nat} (hu : 0 < u) : IsRoundUp n u ((n + u - 1) / u * u) := by
  have hdm : (n + u - 1) / u * u + (n + u - 1) % u = n + u - 1 := by
    rw [Nat.mul_comm]; exact Nat.div_add_mod _ _
  have hlt := Nat.mod_lt (n + u - 1) hu
  refine ⟨Dvd.intro_left _ rfl, by omega, fun m ⟨c, hc⟩ hm => ?_⟩
  have hq : (n + u - 1) / u < c + 1 := (Nat.div_lt_iff_lt_mul hu).2 (by
    rw [Nat.add_mul, Nat.one_mul, Nat.mul_comm, ← hc]; omega)
  rw [hc, Nat.mul_comm u c]
  exact Nat.mul_le_mul_right u (by omega)

/-- `n + u - 1` does not wrap when its value fits the word. -/
theorem toNat_add_sub_one {n u : BitVec w} (hu : 0 < u.toNat)
    (h : n.toNat + u.toNat - 1 < 2 ^ w) : (n + u - 1).toNat = n.toNat + u.toNat - 1 := by
  have hw : 0 < w := Nat.pos_of_ne_zero fun hw => by
    subst hw; have := u.isLt; simp at this; omega
  rw [BitVec.toNat_sub, BitVec.toNat_add, toNat_one_of_pos hw, Nat.add_mod_mod,
    show 2 ^ w - 1 + (n.toNat + u.toNat) = n.toNat + u.toNat - 1 + 2 ^ w by omega,
    Nat.add_mod_right, Nat.mod_eq_of_lt h]

/-- `round_up_at` computes `(n + u - 1) / u * u` without wrapping, when `n + u - 1` fits. -/
theorem roundUpAt_toNat {n u : BitVec w} (hu : 0 < u.toNat) (h : n.toNat + u.toNat - 1 < 2 ^ w) :
    (roundUpAt n u).toNat = (n.toNat + u.toNat - 1) / u.toNat * u.toNat := by
  rw [roundUpAt, BitVec.toNat_mul, BitVec.toNat_udiv, toNat_add_sub_one hu h,
    Nat.mod_eq_of_lt (lt_of_le_of_lt (Nat.div_mul_le_self _ _) h)]

/-- Clearing the low `k` bits of `x < 2 ^ w` with the mask `2 ^ w - 2 ^ k`. -/
theorem land_two_pow_sub_two_pow {x k : Nat} (hx : x < 2 ^ w) (hk : k ≤ w) :
    x &&& (2 ^ w - 2 ^ k) = x / 2 ^ k * 2 ^ k := by
  have hm : 2 ^ w - 2 ^ k = (2 ^ (w - k) - 1) <<< k := by
    rw [Nat.shiftLeft_eq, Nat.sub_mul, ← Nat.pow_add, Nat.sub_add_cancel hk, Nat.one_mul]
  rw [hm, ← Nat.shiftRight_eq_div_pow, ← Nat.shiftLeft_eq]
  refine Nat.eq_of_testBit_eq fun j => ?_
  rw [Nat.testBit_and, Nat.testBit_shiftLeft, Nat.testBit_shiftLeft, Nat.testBit_shiftRight,
    Nat.testBit_two_pow_sub_one]
  by_cases hj : k ≤ j
  · rw [show k + (j - k) = j by omega]
    cases hb : x.testBit j
    · simp
    · have hjw : j < w := by
        by_contra hjw
        exact absurd hb (by rw [Nat.testBit_lt_two_pow (lt_of_lt_of_le hx
          (Nat.pow_le_pow_right (by decide) (by omega)))]; decide)
      simp [hj, hjw]
      omega
  · simp [hj]

/-- **The mask version agrees with the division on every power-of-two unit**, wrap-around
included: both clear the low bits of the wrapped `n + u - 1`. -/
theorem pow2RoundUpAt_eq_of_pow2 (n : BitVec w) {u : BitVec w} {k : Nat} (hk : u.toNat = 2 ^ k) :
    pow2RoundUpAt n u = roundUpAt n u := by
  have hkw : k < w := (Nat.pow_lt_pow_iff_right (by decide)).1 (hk ▸ u.isLt)
  have hpos := Nat.one_le_two_pow (n := k)
  have hlt := Nat.pow_lt_pow_right (by decide : 1 < 2) hkw
  apply BitVec.eq_of_toNat_eq
  rw [pow2RoundUpAt, roundUpAt, BitVec.toNat_and, BitVec.toNat_neg, BitVec.toNat_mul,
    BitVec.toNat_udiv, hk, Nat.mod_eq_of_lt (by omega : 2 ^ w - 2 ^ k < 2 ^ w),
    land_two_pow_sub_two_pow (BitVec.isLt _) hkw.le,
    Nat.mod_eq_of_lt (lt_of_le_of_lt (Nat.div_mul_le_self _ _) (BitVec.isLt _))]

/-- **Rounding up to a multiple.**  For every `n` and unit `u > 0` with `n + u - 1` in the word,
`round_up_at` and `round_up_at64` return the least multiple of `u` that is at least `n`; and for
every `n` and every power of two `u`, `pow2_round_up_at` and `pow2_round_up_at64` return what
`round_up_at` and `round_up_at64` return. -/
theorem pow2RoundUpAt_eq_roundUpAt :
    (∀ n u : BitVec w, 0 < u.toNat → n.toNat + u.toNat - 1 < 2 ^ w →
      IsRoundUp n.toNat u.toNat (roundUpAt n u).toNat) ∧
    (∀ n u : BitVec 64, 0 < u.toNat → n.toNat + u.toNat - 1 < 2 ^ 64 →
      IsRoundUp n.toNat u.toNat (roundUpAt64 n u).toNat) ∧
    (∀ n u : BitVec w, (∃ k, u.toNat = 2 ^ k) → pow2RoundUpAt n u = roundUpAt n u) ∧
    (∀ n u : BitVec 64, (∃ k, u.toNat = 2 ^ k) → pow2RoundUpAt64 n u = roundUpAt64 n u) :=
  ⟨fun _ _ hu h => roundUpAt_toNat hu h ▸ isRoundUp_div_mul hu,
    fun _ _ hu h => roundUpAt_toNat hu h ▸ isRoundUp_div_mul hu,
    fun n _ ⟨_, hk⟩ => pow2RoundUpAt_eq_of_pow2 n hk,
    fun n _ ⟨_, hk⟩ => pow2RoundUpAt_eq_of_pow2 n hk⟩

end Tilck
