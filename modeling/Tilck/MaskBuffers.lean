import Tilck.Syscalls
/-!
**The user buffers of `sys_rt_sigprocmask`.**

`sys_rt_sigprocmask` copies `sigsetsize` bytes from `sa_mask` on to `user_oldset`, then, past
`sizeof(sa_mask)`, as many bytes from `zero_page`, and reads `user_set` as `K_SIGACTION_MASK_WORDS`
whole words, whatever `sigsetsize` is.  This module computes the call as a function of the bytes it
reads and writes: the words of `user_set` go through a fold (`Tilck.sigprocmaskWords`) that the
monadic loop refines, and the copy of the old mask leaves the image `Tilck.oldsetImage`.  From
that: the query-and-restore round trip, which needs `user_set` apart from `user_oldset` and a
padding no longer than `zero_page`; the padding taken from past `zero_page` when it is longer; and
which bytes of `user_set` the result depends on.

Main definitions:

* `Tilck.sigprocmaskWords`, `Tilck.sigprocmaskResult` — the loop, and the call past the copy of
  the old mask, on the words of `user_set`;
* `Tilck.oldsetCopied`, `Tilck.oldsetImage` — the user memory after the copy of the old mask, and
  the bytes it leaves at `user_oldset`;
* `Tilck.UserMem.DifferFrom` — two user memories that may differ only from an address on.

Main results:

* `Tilck.sysRtSigprocmask_eq` — the call, when the copy of the old mask does not fault;
* `Tilck.sysRtSigprocmask_query_restore` — the old mask comes out followed by zeros, every word is
  updated, and `SIG_SETMASK` with the old set restores the mask;
* `Tilck.sysRtSigprocmask_pads_past_zero_page` — a padding longer than `zero_page` copies the
  kernel bytes that follow it;
* `Tilck.sysRtSigprocmask_reads_within_sigsetsize`, `Tilck.sysRtSigprocmask_reads_past_sigsetsize` —
  with `sigsetsize` at least `sizeof(sa_mask)` the bytes past `user_set + sigsetsize` do not
  matter; with a shorter one they do.
-/

set_option relaxedAutoImplicit false
set_option autoImplicit false

namespace Tilck

variable {cfg : Config}

/-! ### Reading and writing user memory -/

section Bytes

variable {α : Type}

theorem mapM_range_succ (f : Nat → Option α) (n : Nat) :
    (List.range (n + 1)).mapM f =
      ((List.range n).mapM f).bind fun xs => (f n).map fun b => xs ++ [b] := by
  rw [List.range_succ, List.mapM_append, List.mapM_cons, List.mapM_nil]
  cases (List.range n).mapM f <;> cases f n <;> rfl

theorem mapM_range_congr {f g : Nat → Option α} {n : Nat} (h : ∀ i < n, f i = g i) :
    (List.range n).mapM f = (List.range n).mapM g := by
  induction n with
  | zero => rfl
  | succ n ih =>
    rw [mapM_range_succ, mapM_range_succ, ih fun i hi => h i (by omega), h n (by omega)]

theorem mapM_range_getElem? (l : List α) {n : Nat} (hn : n ≤ l.length) :
    (List.range n).mapM (fun i => l[i]?) = some (l.take n) := by
  induction n with
  | zero => rfl
  | succ n ih =>
    rw [mapM_range_succ, ih (by omega), List.take_succ, List.getElem?_eq_getElem (by omega)]
    rfl

end Bytes

/-- A read sees only the bytes it covers. -/
theorem UserMem.read_congr {m₁ m₂ : UserMem} {a n : Nat}
    (h : ∀ i < n, m₁.byte (a + i) = m₂.byte (a + i)) : m₁.read a n = m₂.read a n :=
  mapM_range_congr h

/-- A read inside written bytes returns them. -/
theorem UserMem.read_write_window (m : UserMem) (a : Nat) (bs : List UInt8) {k n : Nat}
    (h : k + n ≤ bs.length) : (m.write a bs).read (a + k) n = some ((bs.drop k).take n) := by
  rw [← mapM_range_getElem? (bs.drop k) (by simp; omega)]
  refine mapM_range_congr fun i hi => ?_
  simp only [UserMem.write, List.getElem?_drop]
  rw [if_pos (by omega), show a + k + i - a = k + i by omega]

theorem UserMem.canWrite_iff {m : UserMem} {a n : Nat} :
    m.canWrite a n = true ↔ ∀ i < n, m.writable (a + i) = true := by
  simp [UserMem.canWrite]

@[simp] theorem UserMem.write_writable (m : UserMem) (a : Nat) (bs : List UInt8) :
    (m.write a bs).writable = m.writable := rfl

/-- A write inside an earlier one, ending where it ends, is one write. -/
theorem UserMem.write_write_inside (m : UserMem) (a : Nat) (bs cs : List UInt8) {k : Nat}
    (hk : k + cs.length = bs.length) :
    (m.write a bs).write (a + k) cs = m.write a (bs.take k ++ cs) := by
  have hlen : (bs.take k ++ cs).length = bs.length := by simp; omega
  simp only [UserMem.write, UserMem.mk.injEq, and_true, hlen]
  funext b
  by_cases hin : a + k ≤ b ∧ b < a + k + cs.length
  · rw [if_pos hin, if_pos (by omega), List.getElem?_append_right (by simp; omega)]
    congr 1
    simp; omega
  · rw [if_neg hin]
    split_ifs with h
    · rw [List.getElem?_append_left (by simp; omega), List.getElem?_take_of_lt (by omega)]
    · rfl

/-! ### The layout of a word array -/

section Layout

variable {α β : Type}

theorem length_flatMap_const (l : List α) {f : α → List β} {c : Nat}
    (hf : ∀ x, (f x).length = c) : (l.flatMap f).length = l.length * c := by
  induction l with
  | nil => simp
  | cons x xs ih =>
    rw [List.flatMap_cons, List.length_append, ih, hf, List.length_cons, Nat.succ_mul,
      Nat.add_comm]

/-- In a concatenation of chunks of length `c`, chunk `i` starts at `i * c`. -/
theorem flatMap_chunk (l : List α) {f : α → List β} {c : Nat} (hf : ∀ x, (f x).length = c)
    {i : Nat} (hi : i < l.length) : ((l.flatMap f).drop (i * c)).take c = f l[i] := by
  induction l generalizing i with
  | nil => simp at hi
  | cons x xs ih =>
    rw [List.flatMap_cons]
    cases i with
    | zero => rw [Nat.zero_mul, List.drop_zero, List.take_left' (hf x)]; rfl
    | succ i =>
      rw [Nat.succ_mul, Nat.add_comm, ← List.drop_drop, List.drop_left' (hf x)]
      exact ih (by simpa using hi)

end Layout

@[simp] theorem length_leBytes (n v : Nat) : (leBytes n v).length = n := by simp [leBytes]

theorem leBytes_succ (n v : Nat) : leBytes (n + 1) v = UInt8.ofNat v :: leBytes n (v / 256) := by
  simp only [leBytes, List.range_succ_eq_map, List.map_cons, List.map_map, pow_zero, Nat.div_one]
  congr 1
  refine List.map_congr_left fun i _ => ?_
  simp [Function.comp, pow_succ, Nat.div_div_eq_div_mul, Nat.mul_comm]

/-- Little-endian bytes read back give the value modulo their range. -/
theorem leValue_leBytes (n v : Nat) : leValue (leBytes n v) = v % 256 ^ n := by
  induction n generalizing v with
  | zero => simp [leValue, leBytes, Nat.mod_one]
  | succ n ih =>
    have hb : (UInt8.ofNat v).toNat = v % 256 := rfl
    rw [leBytes_succ, leValue, List.foldr_cons, ← leValue, ih, hb, Nat.pow_succ', Nat.mod_mul]

theorem pow_wordBytes (cfg : Config) : 256 ^ wordBytes cfg = 2 ^ cfg.nbits := by
  rcases cfg.nbits_cases with h | h <;> simp [wordBytes, h]

theorem Words.length_bytes (P : Words cfg) : P.bytes.length = saMaskSize cfg := by
  rw [Words.bytes, length_flatMap_const _ fun _ => length_leBytes _ _, List.length_finRange,
    saMaskSize]

/-- Word `i` lies at byte `i * sizeof(ulong)` of the array. -/
theorem Words.bytes_chunk (P : Words cfg) (i : Fin cfg.maskWords) :
    (P.bytes.drop (i * wordBytes cfg)).take (wordBytes cfg) =
      leBytes (wordBytes cfg) (P i).toNat := by
  rw [Words.bytes, flatMap_chunk _ (fun _ => length_leBytes _ _) (by simp)]
  simp

/-- A word read from the bytes of a word array is the word. -/
theorem userSetWord_of_read {mem : UserMem} {a : Nat} {P : Words cfg} (i : Fin cfg.maskWords)
    (h : mem.read (a + i * wordBytes cfg) (wordBytes cfg) =
      some (leBytes (wordBytes cfg) (P i).toNat)) : userSetWord mem a i = some (P i) := by
  rw [userSetWord, h, Option.map_some', leValue_leBytes, pow_wordBytes, ← BitVec.toNat_mod_cancel]
  simp

/-! ### The loop as a fold -/

/-- The loop of `sys_rt_sigprocmask` as a fold over the words `is`, `word i` being word `i` of
`user_set`, or `none` where it cannot be read: the return code, and the mask as it is when the
loop stops. -/
def sigprocmaskWords (how : Int) (word : Fin cfg.maskWords → Option (BitVec cfg.nbits)) :
    List (Fin cfg.maskWords) → Words cfg → Int × Words cfg
  | [], m => (0, m)
  | i :: is, m =>
    match word i with
    | none => (-EFAULT, m)
    | some w =>
      match sigprocmaskHow how (m i) w with
      | none => (-EINVAL, m)
      | some mi => sigprocmaskWords how word is (Function.update m i mi)

/-- **The loop refines the fold**: it returns what the fold returns and leaves the fold's mask. -/
theorem sigprocmaskLoop_eq {s : Kernel cfg} {how : Int} {userSet pid : Nat} {p : Process cfg}
    (hp : s.procs pid = some p) (is : List (Fin cfg.maskWords)) :
    sigprocmaskLoop how userSet pid is s =
      .ret (sigprocmaskWords how (userSetWord s.mem userSet) is p.saMask).1
        { s with procs := Function.update s.procs pid (some { p with
          saMask := (sigprocmaskWords how (userSetWord s.mem userSet) is p.saMask).2 }) } := by
  induction is generalizing s p with
  | nil => exact congrArg _ (procs_update_self hp)
  | cons i is ih =>
    cases hb : s.mem.read (userSet + i * wordBytes cfg) (wordBytes cfg) with
    | none =>
      have hw : userSetWord s.mem userSet i = none := by simp [userSetWord, hb]
      simp only [sigprocmaskLoop, sigprocmaskWords, KM.bind_apply, copyFromUser_apply, hb, hw,
        Outcome.bind_ret, KM.pure_apply]
      exact congrArg _ (procs_update_self hp)
    | some bytes =>
      have hw : userSetWord s.mem userSet i = some (BitVec.ofNat _ (leValue bytes)) := by
        simp [userSetWord, hb]
      simp only [sigprocmaskLoop, sigprocmaskWords, KM.bind_apply, copyFromUser_apply, hb, hw,
        Outcome.bind_ret, proc_of_some hp]
      cases hm : sigprocmaskHow how (p.saMask i) (BitVec.ofNat _ (leValue bytes)) with
      | none => exact congrArg _ (procs_update_self hp)
      | some mi =>
        simp only [KM.bind_apply, modifyProc_of_some hp, Outcome.bind_ret]
        rw [ih (p := { p with saMask := Function.update p.saMask i mi }) (by simp)]
        simp [Function.update_idem]

/-- With every word readable and a valid `how`, the fold returns `0` having applied `how` to each
word of `is` and left the others. -/
theorem sigprocmaskWords_of_valid {how : Int} {word : Fin cfg.maskWords → Option (BitVec cfg.nbits)}
    {w : Words cfg} (hv : SigprocmaskHowValid how) (hw : ∀ i, word i = some (w i))
    {is : List (Fin cfg.maskWords)} (hnd : is.Nodup) (m : Words cfg) :
    (sigprocmaskWords how word is m).1 = 0 ∧ ∀ i,
      (i ∈ is → sigprocmaskHow how (m i) (w i) = some ((sigprocmaskWords how word is m).2 i)) ∧
      (i ∉ is → (sigprocmaskWords how word is m).2 i = m i) := by
  induction is generalizing m with
  | nil => exact ⟨rfl, fun _ => ⟨nofun, fun _ => rfl⟩⟩
  | cons j is ih =>
    obtain ⟨mj, hmj⟩ : ∃ mj, sigprocmaskHow how (m j) (w j) = some mj :=
      Option.ne_none_iff_exists'.1 (mt sigprocmaskHow_eq_none.1 (not_not.2 hv))
    obtain ⟨hj, hnd⟩ := List.nodup_cons.1 hnd
    simp only [sigprocmaskWords, hw, hmj]
    obtain ⟨h0, hr⟩ := ih hnd (Function.update m j mj)
    refine ⟨h0, fun i => ⟨fun hi => ?_, fun hi => ?_⟩⟩
    · by_cases hij : i = j
      · subst hij
        rw [(hr i).2 hj, Function.update_same, hmj]
      · rw [← Function.update_noteq hij mj m]
        exact (hr i).1 ((List.mem_cons.1 hi).resolve_left hij)
    · rw [(hr i).2 (mt (List.mem_cons_of_mem j) hi),
        Function.update_noteq fun (h : i = j) => hi (h ▸ List.mem_cons_self j is)]

/-! ### The copy of the old mask -/

/-- The `sigsetsize` bytes the copy of the old mask leaves at `user_oldset`: those of `sa_mask`,
then those from `zero_page` on. -/
def oldsetImage (s : Kernel cfg) (p : Process cfg) (sigsetsize : Nat) : List UInt8 :=
  (p.saMask.bytes ++ (List.range (sigsetsize - saMaskSize cfg)).map s.zeroPage).take sigsetsize

@[simp] theorem length_oldsetImage (s : Kernel cfg) (p : Process cfg) (n : Nat) :
    (oldsetImage s p n).length = n := by
  simp [oldsetImage, Words.length_bytes]; omega

@[simp] theorem length_bytesFromMask (p : Process cfg) (n : Nat) :
    (p.bytesFromMask n).length = n := by
  simp [Process.bytesFromMask, Words.length_bytes]; omega

/-- **The copy of the old mask** writes the image of the old mask when all of `user_oldset` may be
written, and nothing otherwise: the first copy's bytes past `sa_mask` are all overwritten by the
second's. -/
theorem sigprocmaskCopyOld_eq {s : Kernel cfg} {pid userOldset sigsetsize : Nat} {p : Process cfg}
    (hp : s.procs pid = some p) :
    sigprocmaskCopyOld pid userOldset sigsetsize s =
      if s.mem.canWrite userOldset sigsetsize then
        .ret true { s with mem := s.mem.write userOldset (oldsetImage s p sigsetsize) }
      else .ret false s := by
  simp only [sigprocmaskCopyOld, KM.bind_apply, proc_of_some hp, Outcome.bind_ret, copyToUser_apply,
    length_bytesFromMask]
  by_cases hw : s.mem.canWrite userOldset sigsetsize
  · simp only [hw, ite_true, Outcome.bind_ret]
    have hbytes := Words.length_bytes p.saMask
    split_ifs with hbig
    · have hw' : (s.mem.write userOldset (p.bytesFromMask sigsetsize)).canWrite
          (userOldset + saMaskSize cfg) (sigsetsize - saMaskSize cfg) = true :=
        UserMem.canWrite_iff.2 fun i hi => by
          rw [UserMem.write_writable, Nat.add_assoc]; exact UserMem.canWrite_iff.1 hw _ (by omega)
      simp only [KM.bind_apply, readZeroPage, Outcome.bind_ret, copyToUser_apply,
        List.length_map, List.length_range, hw', ite_true]
      rw [UserMem.write_write_inside _ _ _ _ (by simp; omega)]
      congr 3
      rw [oldsetImage, Process.bytesFromMask, List.take_take, min_eq_left (by omega),
        List.take_left' hbytes, List.take_of_length_le (by simp; omega)]
    · rw [KM.pure_apply, oldsetImage, Process.bytesFromMask,
        List.take_append_of_le_length (by omega), List.take_append_of_le_length (by omega)]
  · simp [hw]

/-! ### The whole call -/

/-- The user memory past a copy of the old mask that did not fault. -/
def oldsetCopied (s : Kernel cfg) (p : Process cfg) (userOldset sigsetsize : Nat) : UserMem :=
  if userOldset ≠ 0 then s.mem.write userOldset (oldsetImage s p sigsetsize) else s.mem

@[simp] theorem oldsetCopied_zero (s : Kernel cfg) (p : Process cfg) (sigsetsize : Nat) :
    oldsetCopied s p 0 sigsetsize = s.mem :=
  if_neg (not_not.2 rfl)

/-- The return code and the mask of `sys_rt_sigprocmask` past a copy of the old mask that did not
fault, `mem` being the user memory then. -/
def sigprocmaskResult (how : Int) (userSet : Nat) (mem : UserMem) (m : Words cfg) :
    Int × Words cfg :=
  if userSet ≠ 0 then sigprocmaskWords how (userSetWord mem userSet) (List.finRange cfg.maskWords) m
  else (0, m)

section Call

variable {s : Kernel cfg} {how : Int} {userSet userOldset sigsetsize : Nat} {t : Task cfg}
  {p : Process cfg}

/-- From the current task, the call is the copy of the old mask followed by the loop. -/
theorem sysRtSigprocmask_of_currProc (hcp : s.CurrProc t p) :
    sysRtSigprocmask how userSet userOldset sigsetsize s =
      ((if userOldset ≠ 0 then sigprocmaskCopyOld t.pid userOldset sigsetsize else pure true) >>=
        fun ok => if ¬ ok = true then pure (-EFAULT)
          else if userSet ≠ 0 then sigprocmaskLoop how userSet t.pid (List.finRange cfg.maskWords)
          else pure 0) s := by
  obtain ⟨c, hc, ht, -⟩ := hcp
  simp only [sysRtSigprocmask, KM.bind_apply, currTask_of_some hc, Outcome.bind_ret,
    task_of_some ht]

/-- **`sys_rt_sigprocmask` faults, changing nothing, when `user_oldset` may not all be written.** -/
theorem sysRtSigprocmask_of_oldset_fault (hcp : s.CurrProc t p) (ho : userOldset ≠ 0)
    (hw : s.mem.canWrite userOldset sigsetsize = false) :
    sysRtSigprocmask how userSet userOldset sigsetsize s = .ret (-EFAULT) s := by
  have ⟨_, _, _, hp⟩ := hcp
  rw [sysRtSigprocmask_of_currProc hcp, if_pos ho, KM.bind_apply, sigprocmaskCopyOld_eq hp, hw]
  rfl

/-- **What `sys_rt_sigprocmask` computes when the copy of the old mask does not fault**: the user
memory `oldsetCopied`, and the fold of the words of `user_set` read from it. -/
theorem sysRtSigprocmask_eq (hcp : s.CurrProc t p)
    (hok : userOldset = 0 ∨ s.mem.canWrite userOldset sigsetsize = true) :
    sysRtSigprocmask how userSet userOldset sigsetsize s =
      .ret (sigprocmaskResult how userSet (oldsetCopied s p userOldset sigsetsize) p.saMask).1
        { s with mem := oldsetCopied s p userOldset sigsetsize,
                 procs := Function.update s.procs t.pid (some { p with saMask :=
                   (sigprocmaskResult how userSet (oldsetCopied s p userOldset sigsetsize)
                     p.saMask).2 }) } := by
  have ⟨_, _, _, hp⟩ := hcp
  have hcopy : (if userOldset ≠ 0 then sigprocmaskCopyOld t.pid userOldset sigsetsize
      else pure true) s = .ret true { s with mem := oldsetCopied s p userOldset sigsetsize } := by
    by_cases ho : userOldset = 0
    · simp [ho, oldsetCopied]
    · rw [if_pos ho, sigprocmaskCopyOld_eq hp, if_pos (hok.resolve_left ho), oldsetCopied,
        if_pos ho]
  rw [sysRtSigprocmask_of_currProc hcp, KM.bind_apply, hcopy, Outcome.bind_ret, if_neg (by simp),
    sigprocmaskResult]
  split_ifs with hset
  · exact sigprocmaskLoop_eq (s := { s with mem := oldsetCopied s p userOldset sigsetsize }) hp _
  · exact congrArg _
      (procs_update_self (s := { s with mem := oldsetCopied s p userOldset sigsetsize }) hp)

end Call

/-! ### The bytes the call leaves and reads -/

/-- Word `i` of a set ends within `sizeof(sa_mask)`. -/
theorem word_end_le (i : Fin cfg.maskWords) :
    i * wordBytes cfg + wordBytes cfg ≤ saMaskSize cfg := by
  rw [saMaskSize, ← Nat.succ_mul]
  exact Nat.mul_le_mul_right _ i.2

/-- A write that misses the words of `user_set` leaves them as they were. -/
theorem userSetWord_write_of_disjoint {m : UserMem} {a userSet : Nat} {bs : List UInt8}
    (hd : userSet + saMaskSize cfg ≤ a ∨ a + bs.length ≤ userSet) :
    (userSetWord (m.write a bs) userSet : Fin cfg.maskWords → _) = userSetWord m userSet := by
  funext i
  have := word_end_le i
  unfold userSetWord
  congr 1
  exact UserMem.read_congr fun j hj => if_neg (by omega)

/-- The words of a mask written at `a`, whatever follows them, read back from `a`. -/
theorem userSetWord_write_bytes (m : UserMem) (a : Nat) (P : Words cfg) (rest : List UInt8)
    (i : Fin cfg.maskWords) : userSetWord (m.write a (P.bytes ++ rest)) a i = some (P i) := by
  have hi := word_end_le i
  have hb := Words.length_bytes P
  refine userSetWord_of_read i ?_
  rw [UserMem.read_write_window _ _ _ (by simp; omega), List.drop_append_of_le_length (by omega),
    List.take_append_of_le_length (by simp; omega), Words.bytes_chunk]

/-- With a padding no longer than `zero_page`, the image is the mask followed by zeros. -/
theorem oldsetImage_of_le_page {s : Kernel cfg} {p : Process cfg} {n : Nat}
    (hsz : saMaskSize cfg ≤ n) (hpad : n - saMaskSize cfg ≤ PAGE_SIZE) :
    oldsetImage s p n = p.saMask.bytes ++ List.replicate (n - saMaskSize cfg) 0 := by
  have hz : (List.range (n - saMaskSize cfg)).map s.zeroPage =
      List.replicate (n - saMaskSize cfg) 0 := by
    refine List.eq_replicate_iff.2 ⟨by simp, ?_⟩
    simp only [List.mem_map, List.mem_range]
    rintro _ ⟨i, hi, rfl⟩
    exact s.zeroPage_zero i (by omega)
  rw [oldsetImage, hz, List.take_of_length_le (by simp [Words.length_bytes]; omega)]

/-- Byte `j` of the padding is byte `j` from `zero_page` on. -/
theorem oldsetImage_getElem?_pad {s : Kernel cfg} {p : Process cfg} {n j : Nat}
    (hj : saMaskSize cfg + j < n) :
    (oldsetImage s p n)[saMaskSize cfg + j]? = some (s.zeroPage j) := by
  rw [oldsetImage, List.getElem?_take_of_lt hj,
    List.getElem?_append_right (by simp [Words.length_bytes])]
  simp [Words.length_bytes, List.getElem?_range (show j < n - saMaskSize cfg by omega)]

section Padding

variable {s : Kernel cfg} {how : Int} {userSet userOldset sigsetsize : Nat} {t : Task cfg}
  {p : Process cfg}

/-- **The padding past `sizeof(sa_mask)` is copied from `zero_page` on, however long**: byte `j` of
it is byte `j` from `zero_page` on, past the page as well. -/
theorem sysRtSigprocmask_pads_past_zero_page (hcp : s.CurrProc t p) (ho : userOldset ≠ 0)
    (hw : s.mem.canWrite userOldset sigsetsize = true) :
    ∃ rc s', sysRtSigprocmask how userSet userOldset sigsetsize s = .ret rc s' ∧
      ∀ j, saMaskSize cfg + j < sigsetsize →
        s'.mem.byte (userOldset + saMaskSize cfg + j) = some (s.zeroPage j) := by
  refine ⟨_, _, sysRtSigprocmask_eq hcp (.inr hw), fun j hj => ?_⟩
  simp only [oldsetCopied, if_pos ho, UserMem.write, length_oldsetImage]
  rw [if_pos (by omega), show userOldset + saMaskSize cfg + j - userOldset = saMaskSize cfg + j by
    omega, oldsetImage_getElem?_pad hj]

end Padding

/-! ### Query and restore -/

/-- The word `how` leaves, for each of the three modes. -/
theorem sigprocmaskHow_cases {how : Int} {m w r : BitVec cfg.nbits}
    (h : sigprocmaskHow how m w = some r) :
    (how = SIG_BLOCK → r = m ||| w) ∧ (how = SIG_UNBLOCK → r = m &&& ~~~w) ∧
      (how = SIG_SETMASK → r = w) := by
  unfold sigprocmaskHow at h
  refine ⟨fun hb => ?_, fun hu => ?_, fun hs => ?_⟩ <;> subst how <;>
    simp_all [SIG_BLOCK, SIG_UNBLOCK, SIG_SETMASK]

/-- With a `user_set` all of whose words can be read and a valid `how`, the call returns `0`
having applied `how` to every word. -/
theorem sigprocmaskResult_of_valid {how : Int} {userSet : Nat} {mem : UserMem} {w : Words cfg}
    (hv : SigprocmaskHowValid how) (hset : userSet ≠ 0)
    (hw : ∀ i, userSetWord mem userSet i = some (w i)) (m : Words cfg) :
    (sigprocmaskResult how userSet mem m).1 = 0 ∧
      ∀ i, sigprocmaskHow how (m i) (w i) = some ((sigprocmaskResult how userSet mem m).2 i) := by
  obtain ⟨h0, hr⟩ := sigprocmaskWords_of_valid hv hw (List.nodup_finRange _) m
  rw [sigprocmaskResult, if_pos hset]
  exact ⟨h0, fun i => (hr i).1 (List.mem_finRange i)⟩

/-- Writing the user memory and the current process keeps the current task. -/
theorem Kernel.CurrProc.setProc {s : Kernel cfg} {t : Task cfg} {p : Process cfg}
    (hcp : s.CurrProc t p) (mem : UserMem) (p' : Process cfg) :
    ({ s with mem, procs := Function.update s.procs t.pid (some p') } : Kernel cfg).CurrProc t
      p' := by
  obtain ⟨c, hc, ht, -⟩ := hcp
  exact ⟨c, hc, ht, by simp⟩

section RoundTrip

variable {s : Kernel cfg} {how : Int} {userSet userOldset sigsetsize : Nat} {t : Task cfg}
  {p : Process cfg}

/-- `SIG_SETMASK` from a set all of whose words can be read, with no `user_oldset`, installs it. -/
theorem sysRtSigprocmask_setmask (hcp : s.CurrProc t p) (hset : userSet ≠ 0) {m : Words cfg}
    (hw : ∀ i, userSetWord s.mem userSet i = some (m i)) :
    ∃ s', sysRtSigprocmask SIG_SETMASK userSet 0 sigsetsize s = .ret 0 s' ∧
      s'.CurrProc t { p with saMask := m } := by
  obtain ⟨h0, hr⟩ := sigprocmaskResult_of_valid (.inr (.inr rfl)) hset hw p.saMask
  have hm : (sigprocmaskResult SIG_SETMASK userSet s.mem p.saMask).2 = m :=
    funext fun i => (sigprocmaskHow_cases (hr i)).2.2 rfl
  refine ⟨_, by rw [sysRtSigprocmask_eq hcp (.inl rfl), oldsetCopied_zero, h0], ?_⟩
  rw [← hm]
  exact hcp.setProc _ _

/-- **Query and restore.**  With a readable `user_set` apart from a writable `user_oldset`, and a
`sigsetsize` from `sizeof(sa_mask)` to `sizeof(sa_mask) + PAGE_SIZE`, `sys_rt_sigprocmask` returns
`0`, leaves the old mask followed by zeros at `user_oldset` and `how` applied to every word of the
mask; `SIG_SETMASK` from `user_oldset` then puts the old mask back. -/
theorem sysRtSigprocmask_query_restore {w : Words cfg} (hcp : s.CurrProc t p)
    (hv : SigprocmaskHowValid how) (hset : userSet ≠ 0)
    (hw : ∀ i, userSetWord s.mem userSet i = some (w i)) (ho : userOldset ≠ 0)
    (hwr : s.mem.canWrite userOldset sigsetsize = true) (hsz : saMaskSize cfg ≤ sigsetsize)
    (hpad : sigsetsize - saMaskSize cfg ≤ PAGE_SIZE)
    (hd : userSet + saMaskSize cfg ≤ userOldset ∨ userOldset + sigsetsize ≤ userSet) :
    ∃ s' p', sysRtSigprocmask how userSet userOldset sigsetsize s = .ret 0 s' ∧
      s'.mem.read userOldset sigsetsize =
        some (p.saMask.bytes ++ List.replicate (sigsetsize - saMaskSize cfg) 0) ∧
      s'.CurrProc t p' ∧
      (∀ i, (how = SIG_BLOCK → p'.saMask i = p.saMask i ||| w i) ∧
        (how = SIG_UNBLOCK → p'.saMask i = p.saMask i &&& ~~~w i) ∧
        (how = SIG_SETMASK → p'.saMask i = w i)) ∧
      ∃ s'', sysRtSigprocmask SIG_SETMASK userOldset 0 sigsetsize s' = .ret 0 s'' ∧
        s''.CurrProc t { p' with saMask := p.saMask } := by
  have hmem : oldsetCopied s p userOldset sigsetsize = s.mem.write userOldset
      (p.saMask.bytes ++ List.replicate (sigsetsize - saMaskSize cfg) 0) := by
    rw [oldsetCopied, if_pos ho, oldsetImage_of_le_page hsz hpad]
  have hw₁ : ∀ i, userSetWord (oldsetCopied s p userOldset sigsetsize) userSet i = some (w i) := by
    rw [hmem, userSetWord_write_of_disjoint (by simp [Words.length_bytes]; omega)]
    exact hw
  obtain ⟨h0, hr⟩ := sigprocmaskResult_of_valid hv hset hw₁ p.saMask
  have hcp' := hcp.setProc (oldsetCopied s p userOldset sigsetsize)
    { p with saMask := (sigprocmaskResult how userSet (oldsetCopied s p userOldset sigsetsize)
      p.saMask).2 }
  refine ⟨_, _, by rw [sysRtSigprocmask_eq hcp (.inr hwr), h0], ?_, hcp',
    fun i => sigprocmaskHow_cases (hr i), sysRtSigprocmask_setmask hcp' ho fun i => ?_⟩
  · have hlen : (p.saMask.bytes ++ List.replicate (sigsetsize - saMaskSize cfg) 0).length =
        sigsetsize := by simp [Words.length_bytes]; omega
    have h := UserMem.read_write_window s.mem userOldset
      (p.saMask.bytes ++ List.replicate (sigsetsize - saMaskSize cfg) 0) (k := 0) (n := sigsetsize)
      (by omega)
    rwa [Nat.add_zero, List.drop_zero, List.take_of_length_le hlen.le, ← hmem] at h
  · exact hmem ▸ userSetWord_write_bytes _ _ _ _ i

end RoundTrip

/-- A state of the 32-bit build: the current task 1, of process 1, every byte of user memory mapped
and writable, the words `1` and `2` at `0x1000`, and every byte past `zero_page` `0xAA`. -/
def writableSet : Kernel ilp32 :=
  { halfMappedSet with
    mem := ⟨fun a => if a = 0x1000 then some 1 else if a = 0x1004 then some 2 else some 0,
      fun _ => true⟩
    zeroPage := fun i => if i < PAGE_SIZE then 0 else 0xAA
    zeroPage_zero := fun _ h => if_pos h }

theorem sysRtSigprocmask_pads_past_zero_page_writable :
    writableSet.CurrProc (Task.ofPid 1) Process.dfl ∧ (0x2000 : Nat) ≠ 0 ∧
      writableSet.mem.canWrite 0x2000 (saMaskSize ilp32 + PAGE_SIZE + 1) = true ∧
      (∃ rc s', sysRtSigprocmask SIG_BLOCK 0 0x2000 (saMaskSize ilp32 + PAGE_SIZE + 1) writableSet =
          .ret rc s' ∧
        ∀ j, saMaskSize ilp32 + j < saMaskSize ilp32 + PAGE_SIZE + 1 →
          s'.mem.byte (0x2000 + saMaskSize ilp32 + j) = some (writableSet.zeroPage j)) ∧
      writableSet.zeroPage PAGE_SIZE = 0xAA :=
  have hcp : writableSet.CurrProc (Task.ofPid 1) Process.dfl := ⟨1, rfl, rfl, rfl⟩
  have hw : writableSet.mem.canWrite 0x2000 (saMaskSize ilp32 + PAGE_SIZE + 1) = true := by
    simp [UserMem.canWrite, writableSet]
  ⟨hcp, by decide, hw, sysRtSigprocmask_pads_past_zero_page hcp (by decide) hw, rfl⟩

/-- The words `1` and `2` of the set at `0x1000` in `writableSet`. -/
def setWords : Words ilp32 := fun i => if i.val = 0 then 1 else 2

theorem sysRtSigprocmask_query_restore_writable :
    writableSet.CurrProc (Task.ofPid 1) Process.dfl ∧ SigprocmaskHowValid SIG_BLOCK ∧
      (0x1000 : Nat) ≠ 0 ∧ (∀ i, userSetWord writableSet.mem 0x1000 i = some (setWords i)) ∧
      (0x2000 : Nat) ≠ 0 ∧ writableSet.mem.canWrite 0x2000 (saMaskSize ilp32) = true ∧
      saMaskSize ilp32 ≤ saMaskSize ilp32 ∧ saMaskSize ilp32 - saMaskSize ilp32 ≤ PAGE_SIZE ∧
      (0x1000 + saMaskSize ilp32 ≤ 0x2000 ∨ 0x2000 + saMaskSize ilp32 ≤ 0x1000) ∧
      ∃ s' p', sysRtSigprocmask SIG_BLOCK 0x1000 0x2000 (saMaskSize ilp32) writableSet = .ret 0 s' ∧
        s'.mem.read 0x2000 (saMaskSize ilp32) = some ((Process.dfl : Process ilp32).saMask.bytes ++
          List.replicate (saMaskSize ilp32 - saMaskSize ilp32) 0) ∧
        s'.CurrProc (Task.ofPid 1) p' ∧
        (∀ i, (SIG_BLOCK = SIG_BLOCK →
            p'.saMask i = (Process.dfl : Process ilp32).saMask i ||| setWords i) ∧
          (SIG_BLOCK = SIG_UNBLOCK →
            p'.saMask i = (Process.dfl : Process ilp32).saMask i &&& ~~~setWords i) ∧
          (SIG_BLOCK = SIG_SETMASK → p'.saMask i = setWords i)) ∧
        ∃ s'', sysRtSigprocmask SIG_SETMASK 0x2000 0 (saMaskSize ilp32) s' = .ret 0 s'' ∧
          s''.CurrProc (Task.ofPid 1) { p' with saMask := (Process.dfl : Process ilp32).saMask } :=
  have hcp : writableSet.CurrProc (Task.ofPid 1) Process.dfl := ⟨1, rfl, rfl, rfl⟩
  have hv : SigprocmaskHowValid SIG_BLOCK := .inl rfl
  have hw : ∀ i, userSetWord writableSet.mem 0x1000 i = some (setWords i) := by decide
  have hwr : writableSet.mem.canWrite 0x2000 (saMaskSize ilp32) = true := rfl
  ⟨hcp, hv, by decide, hw, by decide, hwr, le_rfl, by decide, by decide,
    sysRtSigprocmask_query_restore hcp hv (by decide) hw (by decide) hwr le_rfl (by decide)
      (by decide)⟩

/-! ### Which bytes of `user_set` the call reads -/

/-- The user memories `m₁` and `m₂` differ at most in the contents of readable bytes from `bound`
on: the same bytes are mapped and writable, and those below `bound` hold the same values. -/
def UserMem.DifferFrom (bound : Nat) (m₁ m₂ : UserMem) : Prop :=
  m₁.writable = m₂.writable ∧
    ∀ a, (m₁.byte a).isSome = (m₂.byte a).isSome ∧ (a < bound → m₁.byte a = m₂.byte a)

theorem UserMem.canWrite_congr {m₁ m₂ : UserMem} (h : m₁.writable = m₂.writable) (a n : Nat) :
    m₁.canWrite a n = m₂.canWrite a n := by
  simp only [UserMem.canWrite, h]

/-- The copy of the old mask keeps a byte on which two memories agree. -/
theorem oldsetCopied_byte_congr {s : Kernel cfg} {mem₂ : UserMem} {a : Nat}
    (h : s.mem.byte a = mem₂.byte a) (p : Process cfg) (userOldset sigsetsize : Nat) :
    (oldsetCopied s p userOldset sigsetsize).byte a =
      (oldsetCopied { s with mem := mem₂ } p userOldset sigsetsize).byte a := by
  have himg : oldsetImage { s with mem := mem₂ } p sigsetsize = oldsetImage s p sigsetsize := rfl
  unfold oldsetCopied
  split_ifs
  · simp only [UserMem.write, himg]
    split_ifs
    · rfl
    · exact h
  · exact h

/-- The copy of the old mask keeps the words of `user_set` on which two memories agree. -/
theorem userSetWord_oldsetCopied_congr {s : Kernel cfg} {mem₂ : UserMem} {userSet : Nat}
    (h : ∀ a < userSet + saMaskSize cfg, s.mem.byte a = mem₂.byte a) (p : Process cfg)
    (userOldset sigsetsize : Nat) :
    (userSetWord (oldsetCopied s p userOldset sigsetsize) userSet : Fin cfg.maskWords → _) =
      userSetWord (oldsetCopied { s with mem := mem₂ } p userOldset sigsetsize) userSet := by
  funext i
  have := word_end_le i
  unfold userSetWord
  congr 1
  exact UserMem.read_congr fun j hj => oldsetCopied_byte_congr (h _ (by omega)) p _ _

section Reads

variable {s : Kernel cfg} {how : Int} {userSet userOldset sigsetsize : Nat} {t : Task cfg}
  {p : Process cfg}

/-- **With `sigsetsize` at least `sizeof(sa_mask)`, the call reads no byte from
`user_set + sigsetsize` on**: two runs from memories that differ only there return the same code
and leave the same masks. -/
theorem sysRtSigprocmask_reads_within_sigsetsize (hcp : s.CurrProc t p)
    (hsz : saMaskSize cfg ≤ sigsetsize) {mem₂ : UserMem}
    (hd : s.mem.DifferFrom (userSet + sigsetsize) mem₂) :
    ∃ rc s₁ s₂, sysRtSigprocmask how userSet userOldset sigsetsize s = .ret rc s₁ ∧
      sysRtSigprocmask how userSet userOldset sigsetsize { s with mem := mem₂ } = .ret rc s₂ ∧
      s₁.procs = s₂.procs := by
  have hcp₂ : ({ s with mem := mem₂ } : Kernel cfg).CurrProc t p := hcp
  have hcw := UserMem.canWrite_congr hd.1 userOldset sigsetsize
  by_cases hf : userOldset ≠ 0 ∧ s.mem.canWrite userOldset sigsetsize = false
  · exact ⟨_, _, _, sysRtSigprocmask_of_oldset_fault hcp hf.1 hf.2,
      sysRtSigprocmask_of_oldset_fault hcp₂ hf.1 (hcw ▸ hf.2), rfl⟩
  have hok : userOldset = 0 ∨ s.mem.canWrite userOldset sigsetsize = true := by
    simpa [or_iff_not_imp_left] using hf
  have hres : sigprocmaskResult how userSet
      (oldsetCopied { s with mem := mem₂ } p userOldset sigsetsize) p.saMask =
      sigprocmaskResult how userSet (oldsetCopied s p userOldset sigsetsize) p.saMask := by
    rw [sigprocmaskResult, sigprocmaskResult,
      userSetWord_oldsetCopied_congr (fun a ha => (hd.2 a).2 (by omega)) p]
  rw [sysRtSigprocmask_eq hcp hok, sysRtSigprocmask_eq hcp₂ (hcw ▸ hok), hres]
  exact ⟨_, _, _, rfl, rfl, rfl⟩

end Reads

/-- `writableSet`'s memory with the byte just past the set at `0x1000` changed. -/
def pastSetMem : UserMem :=
  ⟨fun a => if a = 0x1008 then some 7 else writableSet.mem.byte a, fun _ => true⟩

theorem sysRtSigprocmask_reads_within_sigsetsize_writable :
    writableSet.CurrProc (Task.ofPid 1) Process.dfl ∧ saMaskSize ilp32 ≤ saMaskSize ilp32 ∧
      writableSet.mem.DifferFrom (0x1000 + saMaskSize ilp32) pastSetMem ∧
      ∃ rc s₁ s₂,
        sysRtSigprocmask SIG_BLOCK 0x1000 0 (saMaskSize ilp32) writableSet = .ret rc s₁ ∧
        sysRtSigprocmask SIG_BLOCK 0x1000 0 (saMaskSize ilp32)
          { writableSet with mem := pastSetMem } = .ret rc s₂ ∧ s₁.procs = s₂.procs :=
  have hcp : writableSet.CurrProc (Task.ofPid 1) Process.dfl := ⟨1, rfl, rfl, rfl⟩
  have hd : writableSet.mem.DifferFrom (0x1000 + saMaskSize ilp32) pastSetMem :=
    ⟨rfl, fun a => ⟨by simp only [pastSetMem, writableSet]; split_ifs <;> rfl,
      fun ha => (if_neg (by rintro rfl; exact absurd ha (by decide))).symm⟩⟩
  ⟨hcp, le_rfl, hd, sysRtSigprocmask_reads_within_sigsetsize hcp le_rfl hd⟩

/-- `mappedSet` with word `1` of the set at `0x1000` changed from `2` to `3`. -/
def highWordMem : UserMem :=
  ⟨fun a => if a = 0x1004 then some 3 else mappedSet.mem.byte a, mappedSet.mem.writable⟩

/-- With `sigsetsize` 4, half of `sizeof(sa_mask)` in the 32-bit build, memories that differ only
in word `1` of the set, past `user_set + sigsetsize`, give `SIG_SETMASK` different masks. -/
theorem sysRtSigprocmask_reads_past_sigsetsize :
    mappedSet.mem.DifferFrom (0x1000 + 4) highWordMem ∧
      ∃ s₁ s₂, sysRtSigprocmask SIG_SETMASK 0x1000 0 4 mappedSet = .ret 0 s₁ ∧
        sysRtSigprocmask SIG_SETMASK 0x1000 0 4 { mappedSet with mem := highWordMem } =
          .ret 0 s₂ ∧
        (s₁.procs 1).map (·.saMask ⟨1, by decide⟩) = some 2 ∧
        (s₂.procs 1).map (·.saMask ⟨1, by decide⟩) = some 3 :=
  ⟨⟨rfl, fun a => if h : a = 0x1004 then by subst h; decide else by simp [highWordMem, h]⟩,
    _, _, rfl, rfl, rfl, rfl⟩

end Tilck
