import BadCpu.BmiOperations
import BadCpu.ZeroCounting

/-!
# The status flags of BMI instructions

The BMI handler derives the zero flag and the sign flag from its result and
clears the other status flags.  The carry flag is one of them: the handler does
not report whether the operand of BLSI, BLSMSK and BLSR was zero.
-/

namespace BadCpu

open BitKernels

/-! ## The flags -/

def signFlag (flags : Word) : Bool :=
  flags.getLsbD 7

def overflowFlag (flags : Word) : Bool :=
  flags.getLsbD 11

/-- The positions of CF, PF, AF, ZF, SF and OF. -/
def statusBits : List ℕ :=
  [0, 2, 4, 6, 7, 11]

/-- The flags which belong to a result, for a given carry. -/
structure BmiStatus
    {width : ℕ} (carry : Bool) (y : BitVec width) (before after : Word) :
    Prop where
  zero : zeroFlag after = true ↔ y = 0#(width)
  sign : signFlag after = y.getLsbD (width - 1)
  overflow : overflowFlag after = false
  carryFlag : carryFlag after = carry
  others : ∀ bit ∉ statusBits, after.getLsbD bit = before.getLsbD bit

/-- The carry which an operation reports about its operand. -/
def bmiCarry {width : ℕ} (op3 : Byte) (x : BitVec width) : Bool :=
  if op3 = 0xF3#8 then x != 0#(width)
  else if op3 = 0xF1#8 ∨ op3 = 0xF4#8 then x == 0#(width)
  else false

/-! ## The flags of the handler -/

theorem getLsbD_statusMask (bit : ℕ) :
    statusMask.getLsbD bit = decide (bit ∈ statusBits) := by
  by_cases bound : bit < 64
  · revert bit
    decide
  · have beyond : bit ∉ statusBits := by
      simp [statusBits]
      omega
    rw [BitVec.getLsbD_of_ge _ bit (by omega), decide_eq_false beyond]

/-- A clear flag is set on a condition, and the other flags are kept. -/
theorem getLsbD_setFlag
    {position : ℕ} (inside : position < 64) {flags : Word}
    (clear : flags.getLsbD position = false)
    (condition : Prop) [Decidable condition] (bit : ℕ) :
    (if condition then flags ||| BitVec.twoPow 64 position
      else flags).getLsbD bit =
      if bit = position then decide condition else flags.getLsbD bit := by
  by_cases here : bit = position
  · rw [here, if_pos rfl]
    split_ifs with set
    · rw [BitVec.getLsbD_or, BitVec.getLsbD_twoPow, clear]
      simp [set, inside]
    · rw [clear, decide_eq_false set]
  · rw [if_neg here]
    split_ifs
    · have other : ¬ position = bit := Ne.symm here
      rw [BitVec.getLsbD_or, BitVec.getLsbD_twoPow, decide_eq_false other,
        Bool.and_false, Bool.or_false]
    · rfl

theorem getLsbD_cleared (flags : Word) (bit : ℕ) :
    (flags &&& ~~~statusMask).getLsbD bit =
      (flags.getLsbD bit && !decide (bit ∈ statusBits)) := by
  rw [BitVec.getLsbD_and, BitVec.getLsbD_not, getLsbD_statusMask]
  by_cases bound : bit < 64
  · simp [bound]
  · simp [BitVec.getLsbD_of_ge flags bit (by omega)]

/-- The zero flag is set or cleared, and the other status flags are cleared. -/
theorem getLsbD_zeroFlags (flags : Word) (isZero : Bool) (bit : ℕ) :
    (zeroFlags flags isZero).getLsbD bit =
      if bit = 6 then isZero
      else flags.getLsbD bit && !decide (bit ∈ statusBits) := by
  have clear : (flags &&& ~~~statusMask).getLsbD 6 = false := by
    rw [getLsbD_cleared]
    simp [statusBits]
  have zero :=
    getLsbD_setFlag (by decide) clear (isZero = true) bit
  rw [getLsbD_cleared, Bool.decide_eq_true] at zero
  exact zero

/-- The sign of a result is its highest bit at the operand width. -/
theorem sign_ne_zero_iff (inst : DecodedInstruction) (result : Word) :
    result &&& (if is64Bit inst then 1#64 <<< 63 else 1#64 <<< 31) ≠ 0#64 ↔
      result.getLsbD (8 * bmiLength inst - 1) = true := by
  rw [bmiLength]
  split_ifs
  · exact and_bit_ne_zero_iff result (by decide)
  · exact and_bit_ne_zero_iff result (by decide)

/-- Every flag of the handler, bit by bit. -/
theorem getLsbD_bmiFlags
    (inst : DecodedInstruction) (flags result : Word) (bit : ℕ) :
    (bmiFlags inst flags result).getLsbD bit =
      if bit = 6 then result == 0#64
      else if bit = 7 then result.getLsbD (8 * bmiLength inst - 1)
      else flags.getLsbD bit && !decide (bit ∈ statusBits) := by
  have clear :
      (zeroFlags flags (result == 0#64)).getLsbD 7 = false := by
    rw [getLsbD_zeroFlags, if_neg (by decide)]
    simp [statusBits]
  have set :=
    getLsbD_setFlag (by decide) clear
      (result.getLsbD (8 * bmiLength inst - 1) = true) bit
  rw [getLsbD_zeroFlags, Bool.decide_eq_true] at set
  simp only [bmiFlags, sign_ne_zero_iff]
  refine set.trans ?_
  by_cases here : bit = 7
  · subst here
    rfl
  · rw [if_neg here, if_neg here]

/-! ## Exactly which flags are right -/

/-- The flags of a run, for the result at the operand width. -/
theorem bmiFlags_status
    (inst : DecodedInstruction) (flags : Word)
    (y : BitVec (8 * bmiLength inst)) :
    BmiStatus false y flags (bmiFlags inst flags (y.setWidth 64)) := by
  have wide := bmiLength_le inst
  constructor
  case zero =>
    rw [zeroFlag, getLsbD_bmiFlags, if_pos rfl, beq_iff_eq,
      ← setWidth_eq_iff wide y 0#_]
    simp
  case sign =>
    have inside : 8 * bmiLength inst - 1 < 64 := by omega
    rw [signFlag, getLsbD_bmiFlags, if_neg (by decide : ¬ 7 = 6),
      if_pos (rfl : 7 = 7),
      BitVec.getLsbD_setWidth, decide_eq_true inside, Bool.true_and]
  case overflow =>
    rw [overflowFlag, getLsbD_bmiFlags]
    simp [statusBits]
  case carryFlag =>
    rw [carryFlag, getLsbD_bmiFlags]
    simp [statusBits]
  case others =>
    intro bit outside
    have notZero : bit ≠ 6 := by
      rintro rfl
      exact outside (by decide)
    have notSign : bit ≠ 7 := by
      rintro rfl
      exact outside (by decide)
    rw [getLsbD_bmiFlags, if_neg notZero, if_neg notSign,
      decide_eq_false outside, Bool.not_false, Bool.and_true]

/--
After a successful run the zero flag and the sign flag tell about the result,
and the other status flags are clear.
-/
theorem bmiStatus_carryClear
    {op3 : Byte} {inst : DecodedInstruction} {state after : EmuState}
    (run : (emulateBmi op3 inst).run state = some (.success, after)) :
    BmiStatus false
      (lowBytes (bmiLength inst) (regValue after.machine.gregs inst.reg))
      (state.machine.gregs .efl) (after.machine.gregs .efl) := by
  rcases emulateBmi_success run with ⟨destination, flags⟩
  have cut (value : Word) :
      lowBytes (bmiLength inst) (truncateResult inst value) =
        lowBytes (bmiLength inst) value := by
    rw [truncateResult_eq, lowBytes,
      BitVec.setWidth_setWidth_of_le _ (bmiLength_le inst), BitVec.setWidth_eq]
  rw [destination, flags, bmiWritten, cut, truncateResult_eq]
  exact bmiFlags_status inst _ _

/-- `blsi ebx, ecx`, as it is decoded -/
def decodedBlsi : DecodedInstruction :=
  decodeInstruction (codeOfBytes [0xC4#8, 0xE2#8, 0x60#8, 0xF3#8, 0xD9#8])

/-- With the operand six both flags of the result are clear. -/
theorem bmiStatus_blsi :
    ∃ after,
      (emulateBmi 0xF3#8 decodedBlsi).run
            { machine := ⟨fun _ => 6#64, fun _ => 0#8⟩, calls := [] } =
          some (.success, after) ∧
        BmiStatus false
          (lowBytes (bmiLength decodedBlsi)
            (regValue after.machine.gregs decodedBlsi.reg))
          6#64 (after.machine.gregs .efl) := by
  have run :
      (emulateBmi 0xF3#8 decodedBlsi).run
          { machine := ⟨fun _ => 6#64, fun _ => 0#8⟩, calls := [] } =
        some (.success, _) :=
    rfl
  exact ⟨_, run, bmiStatus_carryClear run⟩

/-- But the operand is not zero, which the carry flag should report. -/
theorem bmiCarry_dropped :
    ∃ after,
      (emulateBmi 0xF3#8 decodedBlsi).run
            { machine := ⟨fun _ => 6#64, fun _ => 0#8⟩, calls := [] } =
          some (.success, after) ∧
        ¬ BmiStatus
          (bmiCarry 0xF3#8
            (lowBytes (bmiLength decodedBlsi)
              (rmValue decodedBlsi fun _ => 6#64)))
          (lowBytes (bmiLength decodedBlsi)
            (regValue after.machine.gregs decodedBlsi.reg))
          6#64 (after.machine.gregs .efl) := by
  refine ⟨_, rfl, ?_⟩
  intro status
  exact absurd status.carryFlag (by decide)

end BadCpu
