import BadCpu.BmiOperations
import BadCpu.EffectiveAddress
import BadCpu.MandatoryPrefixes

/-!
# Writes to a part of a register

An operand of sixteen bits leaves the rest of its destination alone, and one of
thirty-two bits clears the upper half.  The counting handlers overwrite the
whole register with a small number, and the 16-bit merge of MOVBE masks with a
32-bit constant, which clears the upper half on the way.  A prefix 66 which the
decoder does not record makes the handlers write thirty-two bits for sixteen.
-/

namespace BadCpu

open ByteMemory

/-! ## The architectural rule -/

/-- A narrow result is written as its operand size asks for. -/
structure WritesPart (ip : Code) (old new : Word) : Prop where
  word : archLength ip = 2 → ∀ bit ≥ 16, new.getLsbD bit = old.getLsbD bit
  double : archLength ip = 4 → ∀ bit ≥ 32, new.getLsbD bit = false

/-- The destination is written so, whatever an undefined builtin returns. -/
def PartWritten
    (ip : Code) (features : CpuFeatures) (machine : Machine) : Prop :=
  ∀ zero, ∃ state,
    emulate zero ip features machine = some (.success, state) ∧
      WritesPart ip
        (regValue machine.gregs (decodeInstruction ip).reg)
        (regValue state.machine.gregs (decodeInstruction ip).reg)

/-- POPCNT, LZCNT, TZCNT and the loads and register forms of MOVBE. -/
structure WritesRegister
    (ip : Code) (features : CpuFeatures) (handler : Handler) : Prop where
  accepted : selectHandler (decodeInstruction ip) features = some handler
  legacy : (decodeInstruction ip).isVex = false
  movbe :
    handler = .movbe →
      opcodeByte ip = 0xF0#8 ∨
        (decodeModrm (decodeInstruction ip).modrm).mod = 3#8

/-- The bits of a register from a position on are clear. -/
def ClearFrom (position : ℕ) (value : Word) : Prop :=
  ∀ bit ≥ position, value.getLsbD bit = false

/-- Bits 31..16 of the destination are the first operand bytes, reversed. -/
def UpperWordInPlace (inst : DecodedInstruction) (machine : Machine) : Prop :=
  (regValue machine.gregs inst.reg).extractLsb' 16 16 =
    byteSwap 2 (movbeSource inst machine 2)

/-- When the overwritten bits have the values which they should keep. -/
def PartHarmless (ip : Code) (machine : Machine) : Handler → Prop
  | .popcnt =>
      archLength ip = 2 →
        ClearFrom 16 (regValue machine.gregs (decodeInstruction ip).reg)
  | .movbe =>
      archLength ip = 2 →
        UpperHalfZero (regValue machine.gregs (decodeInstruction ip).reg) ∧
          -- Behind a fourth prefix the 66 is lost, and four bytes are loaded.
          (0x66#8 ∉ recordedPrefixes ip →
            UpperWordInPlace (decodeInstruction ip) machine)
  | .lzcntTzcnt _ =>
      (archLength ip = 2 →
          ClearFrom 16 (regValue machine.gregs (decodeInstruction ip).reg)) ∧
        (archLength ip ≠ 8 →
          rmValue (decodeInstruction ip) machine.gregs = 0#64 ∨
            lowBytes (operandLength (decodeInstruction ip))
                (rmValue (decodeInstruction ip) machine.gregs) ≠
              0#(8 * operandLength (decodeInstruction ip)))
  | .bmi _ => True

/-! ## The width of the handlers -/

/-- The handlers take the prefix 66 from the recorded prefixes. -/
theorem widthInBytes_of_word
    {ip : Code} (legacy : (opcodeForm ip).isVex = false)
    (word : archLength ip = 2) :
    0x66#8 ∈ recordedPrefixes ip ∧ widthInBytes (decodeInstruction ip) = 2 ∨
      0x66#8 ∉ recordedPrefixes ip ∧
        widthInBytes (decodeInstruction ip) = 4 := by
  have flag := (decode_flags legacy).1
  have narrow := ((archLength_eq_two_iff ip).mp word).2
  by_cases recorded : 0x66#8 ∈ recordedPrefixes ip
  · refine .inl ⟨recorded, ?_⟩
    simp [widthInBytes, is64Bit, flag.mpr recorded, narrow]
  · refine .inr ⟨recorded, ?_⟩
    have clear := eq_false_of_ne_true (mt flag.mp recorded)
    simp [widthInBytes, is64Bit, clear, narrow]

theorem widthInBytes_of_double
    {ip : Code} (legacy : (opcodeForm ip).isVex = false)
    (double : archLength ip = 4) :
    widthInBytes (decodeInstruction ip) = 4 := by
  rcases (archLength_eq_four_iff ip).mp double with ⟨absent, narrow⟩
  have clear : (decodeInstruction ip).has66 = false := by
    by_contra set
    have recorded := (decode_flags legacy).1.mp (eq_true_of_ne_false set)
    exact absent (legacyPrefixes_of_recorded recorded)
  simp [widthInBytes, is64Bit, clear, narrow]

/-! ## Small numbers -/

/-- A small number has no bits from some position on. -/
theorem clearFrom_ofNat {number position : ℕ} (small : number < 2 ^ position) :
    ClearFrom position (BitVec.ofNat 64 number) := by
  intro bit upper
  have bound : number < 2 ^ bit :=
    small.trans_le (Nat.pow_le_pow_right (by decide) upper)
  rw [BitVec.getLsbD_ofNat, Nat.testBit_lt_two_pow bound, Bool.and_false]

/-- A count has no bits from the sixteenth on. -/
theorem clearFrom_count {count : ℕ} (small : count ≤ 64) :
    ClearFrom 16 (BitVec.ofNat 64 count) :=
  clearFrom_ofNat (small.trans_lt (by decide))

/-- A write of sixteen bits keeps the others. -/
theorem writesPart_word_iff
    {ip : Code} (word : archLength ip = 2) (old new : Word) :
    WritesPart ip old new ↔
      ∀ bit ≥ 16, new.getLsbD bit = old.getLsbD bit := by
  constructor
  · intro written
    exact written.word word
  · intro kept
    exact ⟨fun _ => kept, fun double => by omega⟩

/-- A small result is right exactly when the old bits were clear. -/
theorem writesPart_small_iff
    {ip : Code} {old new : Word} (small : ClearFrom 16 new) :
    WritesPart ip old new ↔ (archLength ip = 2 → ClearFrom 16 old) := by
  constructor
  · rintro ⟨word, -⟩ size bit upper
    rw [← word size bit upper, small bit upper]
  · intro clear
    constructor
    · intro size bit upper
      rw [clear size bit upper, small bit upper]
    · intro _ bit upper
      exact small bit (by omega)

/-! ## Counts -/

/-- The counts of LZCNT and TZCNT are small, unless the builtin is undefined. -/
theorem clearFrom_zeroCount
    (zero : ZeroCounts) (inst : DecodedInstruction) (isLzcnt : Bool)
    {source : Word}
    (defined :
      source = 0#64 ∨
        lowBytes (widthInBytes inst) source ≠ 0#(8 * widthInBytes inst)) :
    ClearFrom 16 (zeroCountValue zero inst isLzcnt source) := by
  rcases defined with rfl | nonzero
  · rw [zeroCountValue_zero]
    exact clearFrom_count (widthInBytes_le inst)
  · rw [zeroCountValue_eq zero inst isLzcnt nonzero]
    exact clearFrom_count
      ((zeroBits_le isLzcnt nonzero).trans (widthInBytes_le inst))

/-- An undefined count of zero is sign-extended from some 32-bit number. -/
theorem undefinedCount_topBit
    (inst : DecodedInstruction) (isLzcnt isSet : Bool) :
    ∃ zero, (undefinedCount zero inst isLzcnt).getLsbD 63 = isSet := by
  refine
    ⟨if isSet then ⟨0x80000010#32, 0#32, 0x80000000#32, 0#32⟩
      else ⟨16#32, 0#32, 0#32, 0#32⟩, ?_⟩
  simp only [undefinedCount]
  cases inst.has66 <;> revert isLzcnt isSet <;> decide

/-- Undefined counts cannot all be written to a part of the destination. -/
theorem not_writesPart_undefined
    {ip : Code} (narrow : archLength ip ≠ 8) (inst : DecodedInstruction)
    (isLzcnt : Bool) {old source : Word} (word : source ≠ 0#64)
    (empty :
      lowBytes (widthInBytes inst) source = 0#(8 * widthInBytes inst)) :
    ¬ ∀ zero, WritesPart ip old (zeroCountValue zero inst isLzcnt source) := by
  intro written
  have value (zero : ZeroCounts) :=
    zeroCountValue_undefined zero inst isLzcnt word empty
  rcases (archLength_cases ip).resolve_left narrow with size | size
  · rcases undefinedCount_topBit inst isLzcnt (!old.getLsbD 63) with
      ⟨zero, top⟩
    have kept := (written zero).word size 63 (by decide)
    rw [value zero, top] at kept
    exact Bool.not_ne_self _ kept
  · rcases undefinedCount_topBit inst isLzcnt true with ⟨zero, top⟩
    have clear := (written zero).double size 63 (by decide)
    rw [value zero, top] at clear
    exact Bool.false_ne_true clear.symm

section Handlers

variable {ip : Code} (machine : Machine)

theorem zeroCount_writesPart_iff (isLzcnt : Bool) :
    (∀ zero,
        WritesPart ip (regValue machine.gregs (decodeInstruction ip).reg)
          ((Handler.lzcntTzcnt isLzcnt).value zero (decodeInstruction ip)
            machine)) ↔
      PartHarmless ip machine (.lzcntTzcnt isLzcnt) := by
  simp only [Handler.value, PartHarmless]
  rw [operandLength_decode]
  by_cases defined :
      rmValue (decodeInstruction ip) machine.gregs = 0#64 ∨
        lowBytes (widthInBytes (decodeInstruction ip))
            (rmValue (decodeInstruction ip) machine.gregs) ≠
          0#(8 * widthInBytes (decodeInstruction ip))
  · have small (zero : ZeroCounts) :=
      clearFrom_zeroCount zero (decodeInstruction ip) isLzcnt defined
    constructor
    · intro written
      exact ⟨(writesPart_small_iff (small default)).mp (written default),
        fun _ => defined⟩
    · rintro ⟨clear, -⟩ zero
      exact (writesPart_small_iff (small zero)).mpr clear
  · rcases not_or.mp defined with ⟨word, filled⟩
    by_cases wide : archLength ip = 8
    · refine iff_of_true (fun zero => ?_) ⟨?_, absurd wide⟩
      · constructor
        · intro size
          omega
        · intro size
          omega
      · intro size
        omega
    · constructor
      · intro written
        exact absurd written
          (not_writesPart_undefined wide _ isLzcnt word (not_not.mp filled))
      · rintro ⟨-, harmless⟩
        exact absurd (harmless wide) defined

theorem popcnt_writesPart_iff (zero : ZeroCounts) :
    WritesPart ip (regValue machine.gregs (decodeInstruction ip).reg)
        (Handler.popcnt.value zero (decodeInstruction ip) machine) ↔
      PartHarmless ip machine .popcnt := by
  have small :
      ClearFrom 16
        (Handler.popcnt.value zero (decodeInstruction ip) machine) := by
    rw [Handler.value, popcntCount_eq]
    exact clearFrom_count
      ((BitVec.toNat_cpop_le _).trans (widthInBytes_le _))
  exact writesPart_small_iff small

end Handlers

/-! ## MOVBE -/

/-- The merge keeps the second half-word and clears the upper half. -/
theorem merge16_keeps_iff (old : Word) (value : BitVec 16) :
    (∀ bit ≥ 16, (merge16 old value).getLsbD bit = old.getLsbD bit) ↔
      UpperHalfZero old := by
  constructor
  · intro kept bit upper
    rw [← kept bit (by omega), getLsbD_merge16, if_neg (by omega),
      decide_eq_false (by omega), Bool.false_and]
  · intro clear bit upper
    rw [getLsbD_merge16, if_neg (by omega)]
    by_cases half : bit < 32
    · simp [half]
    · rw [clear bit (by omega), Bool.and_false]

/-- A 32-bit write replaces the second half-word, too. -/
theorem setWidth_keeps_iff (old : Word) (value : BitVec 32) :
    (∀ bit ≥ 16, (value.setWidth 64).getLsbD bit = old.getLsbD bit) ↔
      UpperHalfZero old ∧
        old.extractLsb' 16 16 = value.extractLsb' 16 16 := by
  constructor
  · intro kept
    constructor
    · intro bit upper
      rw [← kept bit (by omega), BitVec.getLsbD_setWidth,
        BitVec.getLsbD_of_ge value bit upper, Bool.and_false]
    · apply BitVec.eq_of_getLsbD_eq
      intro bit bound
      rw [BitVec.getLsbD_extractLsb', BitVec.getLsbD_extractLsb',
        ← kept (16 + bit) (by omega), BitVec.getLsbD_setWidth,
        decide_eq_true (show 16 + bit < 64 by omega), Bool.true_and]
  · rintro ⟨clear, same⟩ bit upper
    rw [BitVec.getLsbD_setWidth]
    by_cases half : bit < 32
    · have middle := congrArg (fun word => word.getLsbD (bit - 16)) same
      simp only [BitVec.getLsbD_extractLsb',
        show bit - 16 < 16 by omega, show 16 + (bit - 16) = bit by omega,
        decide_true, Bool.true_and] at middle
      rw [decide_eq_true (show bit < 64 by omega), Bool.true_and, middle]
    · rw [clear bit (by omega), BitVec.getLsbD_of_ge value bit (by omega),
        Bool.and_false]

/-- The half-words of a reversed operand are in the opposite order. -/
theorem byteSwap_movbeSource_upper
    (inst : DecodedInstruction) (machine : Machine) :
    (byteSwap 4 (movbeSource inst machine 4)).extractLsb' 16 16 =
      byteSwap 2 (movbeSource inst machine 2) := by
  have first :
      (movbeSource inst machine 4).setWidth 16 =
        movbeSource inst machine 2 := by
    rw [movbeSource, movbeSource]
    split_ifs
    · exact BitVec.setWidth_setWidth_of_le _ (by decide)
    · exact setWidth_load (by decide : 2 ≤ 4) _ _
  rw [← first]
  exact extractLsb'_byteSwap (by decide : 2 ≤ 4) _

/-- The merge needs a clear upper half; a 32-bit write needs its own bytes. -/
theorem movbe_writesPart_iff
    {ip : Code} (legacy : (opcodeForm ip).isVex = false)
    (zero : ZeroCounts) (machine : Machine) :
    WritesPart ip (regValue machine.gregs (decodeInstruction ip).reg)
        (Handler.movbe.value zero (decodeInstruction ip) machine) ↔
      PartHarmless ip machine .movbe := by
  simp only [Handler.value, PartHarmless, UpperWordInPlace]
  generalize regValue machine.gregs (decodeInstruction ip).reg = old
  rcases archLength_cases ip with wide | word | double
  · constructor
    · intro _ size
      omega
    · intro _
      exact ⟨fun size => by omega, fun size => by omega⟩
  · rw [writesPart_word_iff word, forall_prop_of_true word]
    rcases widthInBytes_of_word legacy word with
      ⟨recorded, width⟩ | ⟨lost, width⟩
    · rw [movbeValue_word old _ width, merge16_keeps_iff]
      exact (and_iff_left fun lost => absurd recorded lost).symm
    · rw [movbeValue_double old _ width, setWidth_keeps_iff,
        byteSwap_movbeSource_upper, forall_prop_of_true lost]
  · have width := widthInBytes_of_double legacy double
    rw [movbeValue_double old _ width]
    refine iff_of_true ⟨fun size => by omega, ?_⟩ fun size => by omega
    intro _ bit upper
    rw [BitVec.getLsbD_setWidth, BitVec.getLsbD_of_ge _ bit upper,
      Bool.and_false]

/-! ## Exactly when the rest of the register is right -/

/--
The rest of the destination is right exactly when the bits which are
overwritten have the values they should keep, and no builtin is called with
zero.
-/
theorem partWritten_iff
    {ip : Code} {features : CpuFeatures} {handler : Handler}
    (writes : WritesRegister ip features handler) (machine : Machine) :
    PartWritten ip features machine ↔ PartHarmless ip machine handler := by
  have selected := writes.accepted
  have legacy := writes.legacy
  rw [selectHandler_decode] at selected
  rw [decode_isVex] at legacy
  have values :
      PartWritten ip features machine ↔
        ∀ zero,
          WritesPart ip (regValue machine.gregs (decodeInstruction ip).reg)
            (handler.value zero (decodeInstruction ip) machine) := by
    apply forall_congr'
    intro zero
    rcases emulate_committed zero machine selected with ⟨after, run, committed⟩
    rw [exists_success_iff run, committed.destination]
  rw [values]
  cases handler with
  | popcnt =>
      simp only [popcnt_writesPart_iff]
      exact forall_const ZeroCounts
  | movbe =>
      simp only [movbe_writesPart_iff legacy]
      exact forall_const ZeroCounts
  | lzcntTzcnt isLzcnt => exact zeroCount_writesPart_iff machine isLzcnt
  | bmi op3 =>
      have vex := (selectedHandler_eq_some_iff.mp selected).2.2.2
      rw [vex] at legacy
      exact absurd legacy (by decide)

/-- `popcnt cx, ax`, with nothing above the sixteenth bit of `rcx` -/
theorem partWritten_popcnt :
    PartWritten (codeOfBytes [0x66#8, 0xF3#8, 0x0F#8, 0xB8#8, 0xC8#8]) {}
      ⟨fun greg => if greg = .rcx then 0xABCD#64 else 0x123456789ABCDEF#64,
        fun address => address.setWidth 8⟩ := by
  have writes :
      WritesRegister (codeOfBytes [0x66#8, 0xF3#8, 0x0F#8, 0xB8#8, 0xC8#8]) {}
        .popcnt :=
    { accepted := by decide
      legacy := by decide
      movbe := fun other => by simp at other }
  refine (partWritten_iff writes _).mpr fun _ => ?_
  have destination :
      regValue
          (fun greg =>
            if greg = .rcx then 0xABCD#64 else 0x123456789ABCDEF#64)
          (decodeInstruction
            (codeOfBytes [0x66#8, 0xF3#8, 0x0F#8, 0xB8#8, 0xC8#8])).reg =
        0xABCD#64 := by
    decide
  rw [destination]
  exact clearFrom_ofNat (by decide)

/-- `movbe cx, [rax]` clears the upper half of `rcx`. -/
theorem movbe_clearsUpperHalf :
    WritesRegister (codeOfBytes [0x66#8, 0x0F#8, 0x38#8, 0xF0#8, 0x08#8]) {}
        .movbe ∧
      ¬ PartWritten (codeOfBytes [0x66#8, 0x0F#8, 0x38#8, 0xF0#8, 0x08#8]) {}
        ⟨fun _ => 0x100000000#64, fun _ => 0#8⟩ := by
  constructor
  · exact
      { accepted := by decide
        legacy := by decide
        movbe := fun _ => .inl (by decide) }
  · intro written
    have selected :
        selectedHandler
            (codeOfBytes [0x66#8, 0x0F#8, 0x38#8, 0xF0#8, 0x08#8]) {} =
          some .movbe := by
      decide
    rcases emulate_committed default
        ⟨fun _ => 0x100000000#64, fun _ => 0#8⟩ selected with
      ⟨after, run, committed⟩
    have part := (exists_success_iff run _).mp (written _)
    have kept := part.word (by decide) 32 (by decide)
    rw [committed.destination] at kept
    exact absurd kept (by decide)

end BadCpu
