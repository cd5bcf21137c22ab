import HostServices.Wait.Waiter

/-!
# The layout of a status word

A status word has four fields: a mark of seven bits, the core flag, a byte for the exit code or the
signal that stopped the child, and 16 bits that tell nothing here. `Layout` is a word by its fields,
and every word is the word of one (`word_ofWord`); `Posix` has the system's own macros, bit by bit.
The predicates and numbers that are read off a word with its sign depend on its fields alone, so
what a word tells is a case distinction over the mark (`decode?_word`).
-/

namespace HostServices.Wait

/-! ### Fields -/

/-- The fields of a status word, the highest first. -/
structure Layout where
  above : BitVec 16
  code : BitVec 8
  core : Bool
  mark : BitVec 7
  deriving DecidableEq

namespace Layout

def word (l : Layout) : BitVec 32 := l.above ++ l.code ++ BitVec.ofBool l.core ++ l.mark

def ofWord (w : BitVec 32) : Layout :=
  ⟨w.extractLsb' 16 16, w.extractLsb' 8 8, w.getLsbD 7, w.extractLsb' 0 7⟩

theorem toNat_word (l : Layout) : l.word.toNat =
    65536 * l.above.toNat + 256 * l.code.toNat + 128 * l.core.toNat + l.mark.toNat := by
  have hc := l.code.isLt
  have hk : l.core.toNat < 2 ^ 1 := l.core.toNat_lt
  have hm := l.mark.isLt
  unfold word
  rw [BitVec.toNat_append, BitVec.toNat_append, BitVec.toNat_append, BitVec.toNat_ofBool,
    ← Nat.shiftLeft_add_eq_or_of_lt hc, ← Nat.shiftLeft_add_eq_or_of_lt hk,
    ← Nat.shiftLeft_add_eq_or_of_lt hm]
  simp only [Nat.shiftLeft_eq]
  omega

theorem word_ofWord (w : BitVec 32) : (ofWord w).word = w := by
  apply BitVec.eq_of_toNat_eq
  rw [toNat_word, ofWord]
  simp only [BitVec.extractLsb'_toNat, BitVec.getLsbD, Nat.toNat_testBit,
    Nat.shiftRight_eq_div_pow]
  have := w.isLt
  omega

/-- Only what lies above the code can make a word negative. -/
theorem exists_toInt_word (l : Layout) : ∃ k : Int, l.word.toInt =
    65536 * k + 256 * l.code.toNat + 128 * l.core.toNat + l.mark.toNat := by
  have h := l.toNat_word
  rw [BitVec.toInt_eq_toNat_cond, h]
  split
  · exact ⟨l.above.toNat, by omega⟩
  · exact ⟨l.above.toNat - 65536, by omega⟩

theorem mark_eq_iff (l : Layout) (n : Nat) (hn : n < 128) :
    l.mark = BitVec.ofNat 7 n ↔ l.mark.toNat = n := by
  rw [← BitVec.toNat_inj, BitVec.toNat_ofNat, Nat.mod_eq_of_lt hn]

end Layout

/-! ### Reading the fields -/

section

variable (l : Layout)

theorem lowBits_word : lowBits l.word.toInt = l.mark.toNat := by
  obtain ⟨k, hk⟩ := l.exists_toInt_word
  have hm := l.mark.isLt
  rw [lowBits, hk]
  omega

theorem highBits_word : highBits l.word.toInt = l.code.toNat := by
  obtain ⟨k, hk⟩ := l.exists_toInt_word
  have hc := l.code.isLt
  have hb := l.core.toNat_lt
  have hm := l.mark.isLt
  rw [highBits, hk]
  omega

theorem lowByte_word : l.word.toInt % 256 = 128 * l.core.toNat + l.mark.toNat := by
  obtain ⟨k, hk⟩ := l.exists_toInt_word
  have hb := l.core.toNat_lt
  have hm := l.mark.isLt
  rw [hk]
  omega

theorem isExited_word : isExited l.word.toInt = true ↔ l.mark = 0#7 := by
  rw [isExited, lowBits_word, decide_eq_true_iff, l.mark_eq_iff 0 (by decide)]
  omega

theorem isSignaled_word : isSignaled l.word.toInt = true ↔ l.mark ≠ 0#7 ∧ l.mark ≠ 127#7 := by
  rw [isSignaled, lowBits_word, Bool.and_eq_true, bne_iff_ne, bne_iff_ne, ne_eq, ne_eq, ne_eq,
    ne_eq, l.mark_eq_iff 0 (by decide), l.mark_eq_iff 127 (by decide)]
  omega

theorem isStopped_word : isStopped l.word.toInt = true ↔ l.core = false ∧ l.mark = 127#7 := by
  have hm := l.mark.isLt
  rw [isStopped_eq, lowByte_word, decide_eq_true_iff, l.mark_eq_iff 127 (by decide)]
  cases l.core with
  | false => simp; omega
  | true => simp; omega

theorem isCoreDumped_word : isCoreDumped l.word.toInt = (isSignaled l.word.toInt && l.core) := by
  have h := lowByte_word l
  have hm := l.mark.isLt
  have hb : l.word.toInt / 128 % 2 = l.core.toNat := by
    have := l.core.toNat_lt
    omega
  rw [isCoreDumped, hb]
  cases l.core <;> rfl

/-- The low byte of a word is all ones. -/
theorem extractLsb'_word :
    l.word.extractLsb' 0 8 = 0xff#8 ↔ l.core = true ∧ l.mark = 127#7 := by
  have h := l.toNat_word
  have hm := l.mark.isLt
  rw [← BitVec.toNat_inj, BitVec.extractLsb'_toNat, l.mark_eq_iff 127 (by decide), h]
  cases l.core with
  | false => simp; omega
  | true => simp; omega

theorem isContinued_word (h : isContinued l.word.toInt = true) :
    l.core = true ∧ l.mark = 127#7 := by
  have hl := lowByte_word l
  have hm := l.mark.isLt
  rw [isContinued, decide_eq_true_iff] at h
  rw [h] at hl
  rw [l.mark_eq_iff 127 (by decide)]
  cases hc : l.core with
  | false => rw [hc] at hl; simp at hl; omega
  | true => rw [hc] at hl; simp at hl; exact ⟨rfl, by omega⟩

/-- What a word tells is told by its mark and, where that marks a stopped child, by the core
flag. -/
theorem decode?_word : ChildStatus.decode? l.word.toInt =
    if l.mark = 0#7 then some (.exited l.code.toNat)
    else if l.mark = 127#7 then if l.core then none else some (.stopped l.code.toNat)
    else some (.signaled l.mark.toNat) := by
  have he := isExited_word l
  have hs := isSignaled_word l
  have ht := isStopped_word l
  simp only [ChildStatus.decode?, he, hs, ht, exitStatus, termSignal, stopSignal, highBits_word,
    lowBits_word]
  split
  · rfl
  · next h0 =>
    by_cases h1 : l.mark = 127#7
    · cases l.core <;> simp [h1]
    · simp [h0, h1]

end

/-! ### The system's macros -/

namespace Posix

/-- Macro `WTERMSIG`. -/
def termSig (w : BitVec 32) : BitVec 32 := w &&& 0x7f#32

/-- Macro `WEXITSTATUS`. -/
def exitStatus (w : BitVec 32) : BitVec 32 := (w &&& 0xff00#32).sshiftRight 8

/-- Macro `WSTOPSIG`. -/
def stopSig (w : BitVec 32) : BitVec 32 := exitStatus w

/-- Macro `WIFEXITED`. -/
def ifExited (w : BitVec 32) : Bool := termSig w == 0#32

/-- Macro `WIFSIGNALED`: one more than the mark, as a signed byte, is positive when halved. -/
def ifSignaled (w : BitVec 32) : Bool :=
  (0#8).slt (((termSig w + 1#32).setWidth 8).sshiftRight 1)

/-- Macro `WIFSTOPPED`. -/
def ifStopped (w : BitVec 32) : Bool := w &&& 0xff#32 == 0x7f#32

/-- Macro `WIFCONTINUED`. -/
def ifContinued (w : BitVec 32) : Bool := w == 0xffff#32

variable (w : BitVec 32)

theorem toNat_termSig : (termSig w).toNat = w.toNat % 128 :=
  Nat.and_two_pow_sub_one_eq_mod w.toNat 7

theorem lowBits_toInt : lowBits w.toInt = (termSig w).toNat := by
  rw [toNat_termSig, lowBits, BitVec.toInt_eq_toNat_cond]
  split <;> omega

theorem toInt_termSig : (termSig w).toInt = termSignal w.toInt := by
  have h := toNat_termSig w
  rw [termSignal, lowBits_toInt, BitVec.toInt_eq_toNat_of_lt]
  omega

theorem toInt_exitStatus : (exitStatus w).toInt = Wait.exitStatus w.toInt := by
  have hm : (w &&& 0xff00#32).msb = false := by
    rw [BitVec.msb_and, show (0xff00#32).msb = false by decide, Bool.and_false]
  have h : (exitStatus w).toNat = w.toNat / 256 % 256 := by
    rw [exitStatus, BitVec.sshiftRight_eq_of_msb_false hm, BitVec.toNat_ushiftRight,
      BitVec.toNat_and, Nat.shiftRight_and_distrib, Nat.shiftRight_eq_div_pow]
    exact Nat.and_two_pow_sub_one_eq_mod _ 8
  have := w.isLt
  rw [Wait.exitStatus, highBits, BitVec.toInt_eq_toNat_cond, BitVec.toInt_eq_toNat_cond, h]
  split <;> split <;> omega

theorem ifExited_eq : ifExited w = isExited w.toInt := by
  rw [Bool.eq_iff_iff, ifExited, beq_iff_eq, ← BitVec.toInt_inj, toInt_termSig, isExited,
    decide_eq_true_iff]
  rfl

theorem ifSignaled_eq : ifSignaled w = isSignaled w.toInt := by
  have ht := toNat_termSig w
  have hn : ((termSig w + 1#32).setWidth 8).toNat = (termSig w).toNat + 1 := by
    rw [BitVec.toNat_setWidth, BitVec.toNat_add, BitVec.toNat_ofNat]
    omega
  have hz : (0#8).toInt = 0 := by decide
  rw [Bool.eq_iff_iff, ifSignaled, BitVec.slt_iff_toInt_lt, hz, BitVec.toInt_sshiftRight,
    Int.shiftRight_eq_div_pow, BitVec.toInt_eq_toNat_cond, hn, isSignaled, lowBits_toInt,
    Bool.and_eq_true, bne_iff_ne, bne_iff_ne]
  split <;> omega

theorem ifStopped_eq : ifStopped w = isStopped w.toInt := by
  have h : (w &&& 0xff#32).toNat = w.toNat % 256 := Nat.and_two_pow_sub_one_eq_mod w.toNat 8
  rw [Bool.eq_iff_iff, ifStopped, beq_iff_eq, ← BitVec.toNat_inj, h, isStopped_eq, decide_eq_true_iff,
    BitVec.toInt_eq_toNat_cond]
  simp only [BitVec.toNat_ofNat]
  split <;> omega

theorem ifContinued_eq : ifContinued w = isContinued w.toInt := by
  rw [Bool.eq_iff_iff, ifContinued, beq_iff_eq, ← BitVec.toInt_inj, isContinued,
    decide_eq_true_iff]
  rfl

end Posix

/-! ### What a word comes to -/

/-- The outcome tells of a child and its status: one of the three slots is filled, that of the
status, and the exit code is the child's own or 128 and its signal. -/
structure Outcome.TellsOf (o : Outcome) (pid : Int) (status : ChildStatus) : Prop where
  child : o.pid? = some pid
  slots : ∃ slots, o.slots? = some slots ∧ slots.pid = pid ∧
    (∀ n, slots.exitCode = some n ↔ status = .exited n) ∧
    (∀ n, slots.termSignal = some n ↔ status = .signaled n) ∧
    ∀ n, slots.stopSignal = some n ↔ status = .stopped n
  exitCode : ∀ n, o.exitCode? = some n ↔
    status = .exited n ∨ ∃ signal, status = .signaled signal ∧ n = 128 + signal

theorem Outcome.tellsOf_ofStatus (pid : Int) (status : ChildStatus) :
    (ofStatus pid status).TellsOf pid status := by
  cases status with
  | exited code =>
    refine ⟨rfl, ⟨_, rfl, rfl, ?_, ?_, ?_⟩, ?_⟩ <;> simp [ofStatus, exitCode?]
  | signaled signal =>
    refine ⟨rfl, ⟨_, rfl, rfl, ?_, ?_, ?_⟩, ?_⟩ <;> simp [ofStatus, exitCode?, eq_comm]
  | stopped signal =>
    refine ⟨rfl, ⟨_, rfl, rfl, ?_, ?_, ?_⟩, ?_⟩ <;> simp [ofStatus, exitCode?]

/-- A word is of one of four kinds. -/
theorem count_kinds (w : BitVec 32) :
    [isExited w.toInt, isSignaled w.toInt, isStopped w.toInt,
      w.extractLsb' 0 8 == 0xff#8].count true = 1 := by
  rw [← Layout.word_ofWord w]
  generalize Layout.ofWord w = l
  have he : isExited l.word.toInt = decide (l.mark = 0#7) := by
    rw [Bool.eq_iff_iff, isExited_word, decide_eq_true_iff]
  have hs : isSignaled l.word.toInt = decide (l.mark ≠ 0#7 ∧ l.mark ≠ 127#7) := by
    rw [Bool.eq_iff_iff, isSignaled_word, decide_eq_true_iff]
  have ht : isStopped l.word.toInt = decide (l.core = false ∧ l.mark = 127#7) := by
    rw [Bool.eq_iff_iff, isStopped_word, decide_eq_true_iff]
  have hn : (l.word.extractLsb' 0 8 == 0xff#8) = decide (l.core = true ∧ l.mark = 127#7) := by
    rw [Bool.eq_iff_iff, beq_iff_eq, extractLsb'_word, decide_eq_true_iff]
  rw [he, hs, ht, hn]
  by_cases h0 : l.mark = 0#7
  · simp [h0]
  · by_cases h1 : l.mark = 127#7
    · cases l.core <;> simp [h1]
    · simp [h0, h1]

theorem decode?_eq_some_iff (w : BitVec 32) (status : ChildStatus) :
    ChildStatus.decode? w.toInt = some status ↔
      isExited w.toInt = true ∧ status = .exited (exitStatus w.toInt) ∨
      isSignaled w.toInt = true ∧ status = .signaled (termSignal w.toInt) ∨
      isStopped w.toInt = true ∧ status = .stopped (stopSignal w.toInt) := by
  have h := count_kinds w
  revert h
  rw [ChildStatus.decode?, @eq_comm _ _ (some status)]
  -- of the kinds that tell something, a word is of one at most
  cases isExited w.toInt <;> cases isSignaled w.toInt <;> cases isStopped w.toInt <;> simp

theorem decode?_eq_none_iff (w : BitVec 32) :
    ChildStatus.decode? w.toInt = none ↔ w.extractLsb' 0 8 = 0xff#8 := by
  rw [← Layout.word_ofWord w, decode?_word, extractLsb'_word]
  generalize Layout.ofWord w = l
  split
  · next h => simp [h]
  · next h0 =>
    split
    · next h1 => cases l.core <;> simp [h1]
    · next h1 => simp [h1]

/-- The numbers that words tell. -/
def ChildStatus.InRange : ChildStatus → Prop
  | .exited n | .stopped n => 0 ≤ n ∧ n ≤ 255
  | .signaled n => 1 ≤ n ∧ n ≤ 126

theorem decode?_inRange {w : BitVec 32} {status : ChildStatus}
    (h : ChildStatus.decode? w.toInt = some status) : status.InRange := by
  rw [← Layout.word_ofWord w, decode?_word] at h
  generalize Layout.ofWord w = l at h
  have hc := l.code.isLt
  have hm := l.mark.isLt
  split at h
  · cases h
    exact ⟨by omega, by omega⟩
  · next h0 =>
    split at h
    · split at h
      · cases h
      · cases h
        exact ⟨by omega, by omega⟩
    · next h1 =>
      rw [l.mark_eq_iff 0 (by decide)] at h0
      rw [l.mark_eq_iff 127 (by decide)] at h1
      cases h
      exact ⟨by omega, by omega⟩

theorem Outcome.TellsOf.exitCode_le {o : Outcome} {pid : Int} {status : ChildStatus}
    (h : o.TellsOf pid status) (hr : status.InRange) {n : Int} (hn : o.exitCode? = some n) :
    0 ≤ n ∧ n ≤ 255 := by
  rcases (h.exitCode n).mp hn with rfl | ⟨signal, rfl, rfl⟩
  · exact hr
  · have : 1 ≤ signal ∧ signal ≤ 126 := hr
    omega

/-- Every word of 32 bits tells what the system's macros say. It is of one of four kinds, and the
kind with a low byte of ones, to which the word of a continued child belongs, tells nothing; the
others give the number of their macro, in its range. Whatever is put into the fields of a word is
read back, whatever stands above them. An outcome made of a word tells of the child and that
number, and an exit code made of it fits a byte. -/
theorem word_decodes (w : BitVec 32) (pid : Int) :
    (isExited w.toInt = Posix.ifExited w ∧ isSignaled w.toInt = Posix.ifSignaled w ∧
      isStopped w.toInt = Posix.ifStopped w ∧ isContinued w.toInt = Posix.ifContinued w ∧
      exitStatus w.toInt = (Posix.exitStatus w).toInt ∧
      termSignal w.toInt = (Posix.termSig w).toInt ∧
      stopSignal w.toInt = (Posix.stopSig w).toInt ∧
      isCoreDumped w.toInt = (isSignaled w.toInt && w.getLsbD 7)) ∧
    [isExited w.toInt, isSignaled w.toInt, isStopped w.toInt,
      w.extractLsb' 0 8 == 0xff#8].count true = 1 ∧
    (isContinued w.toInt = true → w.extractLsb' 0 8 = 0xff#8) ∧
    (∀ status, ChildStatus.decode? w.toInt = some status ↔
      isExited w.toInt = true ∧ status = .exited (exitStatus w.toInt) ∨
      isSignaled w.toInt = true ∧ status = .signaled (termSignal w.toInt) ∨
      isStopped w.toInt = true ∧ status = .stopped (stopSignal w.toInt)) ∧
    (ChildStatus.decode? w.toInt = none ↔ w.extractLsb' 0 8 = 0xff#8) ∧
    (∀ above code core, ChildStatus.decode? (Layout.word ⟨above, code, core, 0#7⟩).toInt =
      some (.exited code.toNat)) ∧
    (∀ above code core mark, mark ≠ 0#7 → mark ≠ 127#7 →
      ChildStatus.decode? (Layout.word ⟨above, code, core, mark⟩).toInt =
        some (.signaled mark.toNat) ∧
      isCoreDumped (Layout.word ⟨above, code, core, mark⟩).toInt = core) ∧
    (∀ above code, ChildStatus.decode? (Layout.word ⟨above, code, false, 127#7⟩).toInt =
      some (.stopped code.toNat)) ∧
    ∀ status, ChildStatus.decode? w.toInt = some status → status.InRange ∧
      ∃ o, (Reply.changed pid w.toInt).result = .returned o ∧ o.TellsOf pid status ∧
        ∀ n, o.exitCode? = some n → 0 ≤ n ∧ n ≤ 255 := by
  refine ⟨⟨(Posix.ifExited_eq w).symm, (Posix.ifSignaled_eq w).symm, (Posix.ifStopped_eq w).symm,
    (Posix.ifContinued_eq w).symm, (Posix.toInt_exitStatus w).symm, (Posix.toInt_termSig w).symm,
    (Posix.toInt_exitStatus w).symm, ?_⟩, count_kinds w, fun h => ?_, decode?_eq_some_iff w,
    decode?_eq_none_iff w, fun above code core => ?_, fun above code core mark h0 h1 => ⟨?_, ?_⟩,
    fun above code => ?_, fun status hst => ⟨decode?_inRange hst, .ofStatus pid status, ?_, ?_, ?_⟩⟩
  · have h := isCoreDumped_word (.ofWord w)
    rwa [Layout.word_ofWord] at h
  · rw [← Layout.word_ofWord w] at h ⊢
    exact (extractLsb'_word _).mpr (isContinued_word _ h)
  · rw [decode?_word, if_pos rfl]
  · rw [decode?_word, if_neg h0, if_neg h1]
  · rw [isCoreDumped_word, (isSignaled_word _).mpr ⟨h0, h1⟩, Bool.true_and]
  · rw [decode?_word, if_neg (by decide : (127#7 : BitVec 7) ≠ 0#7), if_pos rfl]
    rfl
  · simp only [Reply.result, hst]
  · exact Outcome.tellsOf_ofStatus pid status
  · intro n hn
    exact (Outcome.tellsOf_ofStatus pid status).exitCode_le (decode?_inRange hst) hn

/-- The word of a child that a signal ended with a core dump, negative and with a code beside the
signal. -/
theorem exists_negative_word_decoded :
    ∃ (w : BitVec 32) (o : Outcome), w.toInt < 0 ∧ highBits w.toInt = 255 ∧
      isCoreDumped w.toInt = true ∧ (Reply.changed 7 w.toInt).result = .returned o ∧
      o.TellsOf 7 (.signaled 126) ∧ ∀ n, o.exitCode? = some n → 0 ≤ n ∧ n ≤ 255 := by
  have h := word_decodes 0x8000fffe#32 7
  obtain ⟨-, -, -, -, -, -, -, -, h⟩ := h
  obtain ⟨-, o, ho⟩ := h (.signaled 126) (by decide)
  exact ⟨_, o, by decide, by decide, by decide, ho⟩

end HostServices.Wait
