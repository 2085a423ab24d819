import BadCpu.BitKernels
import BadCpu.EmulatorRuns
import BadCpu.InstructionLayout

/-!
# Operand widths

A handler works on the low two, four or eight bytes of a register.  Its results
are described at that width: the value merged into a register, the number of
set bits and the numbers of leading and trailing zeros.
-/

namespace BadCpu

open BitKernels ByteMemory

/-! ## Operand widths -/

/-- The three widths of an operand. -/
theorem width_cases (inst : DecodedInstruction) :
    is64Bit inst = true ∧ inst.has66 = false ∧ widthInBytes inst = 8 ∨
      is64Bit inst = false ∧ inst.has66 = true ∧ widthInBytes inst = 2 ∨
      is64Bit inst = false ∧ inst.has66 = false ∧ widthInBytes inst = 4 := by
  rw [widthInBytes, is64Bit]
  cases inst.has66 <;> cases inst.rex &&& 0x08#8 != 0#8 <;> simp

theorem widthInBytes_le (inst : DecodedInstruction) :
    8 * widthInBytes inst ≤ 64 := by
  rcases width_cases inst with ⟨-, -, bytes⟩ | ⟨-, -, bytes⟩ | ⟨-, -, bytes⟩ <;>
    omega

/-- The number of bytes of the decoded operand size. -/
def operandLength (inst : DecodedInstruction) : ℕ :=
  inst.operandSize / 8

/-- The decoded operand size is the width which the handlers use. -/
theorem decode_operandSize (ip : Code) :
    (decodeInstruction ip).operandSize =
      8 * widthInBytes (decodeInstruction ip) := by
  have size :
      (decodeInstruction ip).operandSize =
        if (decodeInstruction ip).rex &&& 0x08#8 ≠ 0#8 ∧
            ¬ (decodeInstruction ip).has66 then 64
        else if (decodeInstruction ip).has66 then 16
        else 32 := by
    simp only [decodeInstruction_eq]
    rfl
  rw [size, widthInBytes, is64Bit]
  cases (decodeInstruction ip).has66 <;>
    by_cases wide : (decodeInstruction ip).rex &&& 0x08#8 = 0#8 <;>
    simp [wide]

/-- The handlers use as many bytes as the decoder reports. -/
theorem operandLength_decode (ip : Code) :
    operandLength (decodeInstruction ip) =
      widthInBytes (decodeInstruction ip) := by
  rw [operandLength, decode_operandSize]
  exact Nat.mul_div_cancel_left _ (by decide)

/-- The number of operand bytes: REX.W takes precedence over the prefix 66. -/
def archLength (ip : Code) : ℕ :=
  if (decodeInstruction ip).rex &&& 0x08#8 ≠ 0#8 then 8
  else if (legacyPrefixes ip).contains 0x66#8 then 2
  else 4

/-- An operand of two bytes is one with the prefix 66 and without REX.W. -/
theorem archLength_eq_two_iff (ip : Code) :
    archLength ip = 2 ↔
      0x66#8 ∈ legacyPrefixes ip ∧
        (decodeInstruction ip).rex &&& 0x08#8 = 0#8 := by
  rw [archLength]
  by_cases wide : (decodeInstruction ip).rex &&& 0x08#8 = 0#8 <;>
    by_cases size : 0x66#8 ∈ legacyPrefixes ip <;>
    simp [wide, size]

theorem archLength_eq_four_iff (ip : Code) :
    archLength ip = 4 ↔
      0x66#8 ∉ legacyPrefixes ip ∧
        (decodeInstruction ip).rex &&& 0x08#8 = 0#8 := by
  rw [archLength]
  by_cases wide : (decodeInstruction ip).rex &&& 0x08#8 = 0#8 <;>
    by_cases size : 0x66#8 ∈ legacyPrefixes ip <;>
    simp [wide, size]

theorem archLength_cases (ip : Code) :
    archLength ip = 8 ∨ archLength ip = 2 ∨ archLength ip = 4 := by
  rw [archLength]
  split_ifs <;> simp

/-- The low bits of a register, at the width of an operand. -/
def lowBytes (n : ℕ) (value : Word) : BitVec (8 * n) :=
  value.setWidth (8 * n)

theorem lowBytes_eight (value : Word) : lowBytes 8 value = value :=
  BitVec.setWidth_eq _

/-- A register with a set bit in its low bytes is not zero. -/
theorem ne_zero_of_lowBytes
    {n : ℕ} {value : Word} (nonzero : lowBytes n value ≠ 0#(8 * n)) :
    value ≠ 0#64 := by
  rintro rfl
  exact nonzero (by simp [lowBytes])

/-! ## Partial register writes -/

/-- A 16-bit write also clears the upper half of the register. -/
theorem getLsbD_merge16 (old : Word) (value : BitVec 16) (bit : ℕ) :
    (merge16 old value).getLsbD bit =
      if bit < 16 then value.getLsbD bit
      else decide (bit < 32) && old.getLsbD bit := by
  have ones : (0xFFFF#32).getLsbD bit = decide (bit < 16) := by
    have literal : 0xFFFF#32 = (BitVec.allOnes 16).setWidth 32 := rfl
    rw [literal, BitVec.getLsbD_setWidth, BitVec.getLsbD_allOnes]
    by_cases low : bit < 16
    · simp [low, show bit < 32 by omega]
    · simp [low]
  simp only [merge16, BitVec.getLsbD_or, BitVec.getLsbD_and,
    BitVec.getLsbD_setWidth, BitVec.getLsbD_not, ones]
  by_cases low : bit < 16
  · have word : bit < 64 := by omega
    simp [low, word]
  · have beyond : value.getLsbD bit = false :=
      BitVec.getLsbD_of_ge value bit (by omega)
    by_cases half : bit < 32
    · have word : bit < 64 := by omega
      simp [low, half, word, beyond, Bool.and_comm]
    · simp [low, half, beyond]

theorem merge16_setWidth (old : Word) (value : BitVec 16) :
    (merge16 old value).setWidth 16 = value := by
  apply BitVec.eq_of_getLsbD_eq
  intro bit bound
  simp [getLsbD_merge16, bound]

/-- The upper half of a register is zero. -/
def UpperHalfZero (value : Word) : Prop :=
  ∀ bit ≥ 32, value.getLsbD bit = false

theorem merge16_eq_self_iff (old : Word) (value : BitVec 16) :
    merge16 old value = old ↔
      value = old.setWidth 16 ∧ UpperHalfZero old := by
  constructor
  · intro unchanged
    constructor
    · rw [← unchanged, merge16_setWidth]
    · intro bit upper
      rw [← unchanged, getLsbD_merge16]
      have notLow : ¬ bit < 16 := by omega
      have notHalf : ¬ bit < 32 := by omega
      simp [notLow, notHalf]
  · rintro ⟨rfl, upper⟩
    apply BitVec.eq_of_getLsbD_eq
    intro bit bound
    rw [getLsbD_merge16]
    split_ifs with low
    · simp [low]
    · by_cases half : bit < 32
      · simp [half]
      · simp [half, upper bit (by omega)]

theorem setWidth_eq_self_iff (old : Word) (value : BitVec 32) :
    value.setWidth 64 = old ↔
      value = old.setWidth 32 ∧ UpperHalfZero old := by
  constructor
  · rintro rfl
    refine ⟨by simp, fun bit upper => ?_⟩
    simp [BitVec.getLsbD_of_ge value bit upper]
  · rintro ⟨rfl, upper⟩
    apply BitVec.eq_of_getLsbD_eq
    intro bit bound
    by_cases half : bit < 32
    · simp [half, bound]
    · simp [half, upper bit (by omega)]

section MovbeValue

variable {inst : DecodedInstruction} (old : Word)
  (source : (n : ℕ) → BitVec (8 * n))

theorem movbeValue_wide (width : widthInBytes inst = 8) :
    movbeValue inst old source = byteSwap 8 (source 8) := by
  rcases width_cases inst with
    ⟨wide, -, -⟩ | ⟨-, -, bytes⟩ | ⟨-, -, bytes⟩
  · simp [movbeValue, wide]
  · omega
  · omega

/-- A 16-bit MOVBE merges its operand into the lower half of the register. -/
theorem movbeValue_word (width : widthInBytes inst = 2) :
    movbeValue inst old source = merge16 old (byteSwap 2 (source 2)) := by
  rcases width_cases inst with
    ⟨-, -, bytes⟩ | ⟨wide, narrow, -⟩ | ⟨-, -, bytes⟩
  · omega
  · simp [movbeValue, wide, narrow]
  · omega

/-- A 32-bit MOVBE clears the upper half. -/
theorem movbeValue_double (width : widthInBytes inst = 4) :
    movbeValue inst old source =
      (byteSwap 4 (source 4) : BitVec 32).setWidth 64 := by
  rcases width_cases inst with
    ⟨-, -, bytes⟩ | ⟨-, -, bytes⟩ | ⟨wide, narrow, -⟩
  · omega
  · omega
  · simp [movbeValue, wide, narrow]

end MovbeValue

/-- MOVBE writes the reversed source into the low bytes. -/
theorem lowBytes_movbeValue
    (inst : DecodedInstruction) (old : Word)
    (source : (n : ℕ) → BitVec (8 * n)) :
    lowBytes (widthInBytes inst) (movbeValue inst old source) =
      byteSwap (widthInBytes inst) (source (widthInBytes inst)) := by
  rcases width_cases inst with ⟨-, -, bytes⟩ | ⟨-, -, bytes⟩ | ⟨-, -, bytes⟩
  · rw [bytes, movbeValue_wide old source bytes]
    exact BitVec.setWidth_eq _
  · rw [bytes, movbeValue_word old source bytes]
    exact merge16_setWidth _ _
  · rw [bytes, movbeValue_double old source bytes]
    have narrower : 8 * 4 ≤ 64 := by decide
    exact
      (BitVec.setWidth_setWidth_of_le _ narrower).trans (BitVec.setWidth_eq _)

/-! ## Bit counts -/

/-- The number of set bits of an operand. -/
def population (n : ℕ) (value : Word) : ℕ :=
  (lowBytes n value).cpop.toNat

/-- The number of leading or trailing zeros of an operand. -/
def zeroBits (isLzcnt : Bool) (n : ℕ) (value : Word) : ℕ :=
  if isLzcnt then (lowBytes n value).clz.toNat
  else (lowBytes n value).ctz.toNat

theorem zeroBits_le
    (isLzcnt : Bool) {n : ℕ} {value : Word}
    (nonzero : lowBytes n value ≠ 0#(8 * n)) :
    zeroBits isLzcnt n value ≤ 8 * n := by
  cases isLzcnt with
  | true => exact (clz_lt nonzero).le
  | false => exact (ctz_lt nonzero).le

/-- Counts of at most sixty-four are told apart by the destination. -/
theorem ofNat_count_inj {left right : ℕ} (leftBound : left ≤ 64)
    (rightBound : right ≤ 64) :
    BitVec.ofNat 64 left = BitVec.ofNat 64 right ↔ left = right := by
  constructor
  · intro equal
    have values := congrArg BitVec.toNat equal
    rwa [BitVec.toNat_ofNat, BitVec.toNat_ofNat,
      Nat.mod_eq_of_lt (by omega), Nat.mod_eq_of_lt (by omega)] at values
  · rintro rfl
    rfl

/-- POPCNT returns the number of set bits. -/
theorem popcntCount_eq (inst : DecodedInstruction) (src : Word) :
    popcntCount inst src =
      BitVec.ofNat 64 (population (widthInBytes inst) src) := by
  have count {n : ℕ} (word : BitVec n) :
      word.cpop.setWidth 64 = BitVec.ofNat 64 word.cpop.toNat :=
    (BitVec.ofNat_toNat 64 word.cpop).symm
  rcases width_cases inst with
    ⟨wide, narrow, bytes⟩ | ⟨wide, narrow, bytes⟩ | ⟨wide, narrow, bytes⟩
  · rw [bytes, population, lowBytes_eight, ← count, BitVec.setWidth_eq]
    simp [popcntCount, wide, narrow]
  · rw [bytes, population, ← count]
    simp only [popcntCount, narrow, if_true]
    rfl
  · rw [bytes, population, ← count]
    simp [popcntCount, wide, narrow]
    rfl

/-- A small count survives the conversion from `int` to `uint64_t`. -/
theorem signExtend_count {count : BitVec 32} (small : count.toNat ≤ 64) :
    count.signExtend 64 = BitVec.ofNat 64 count.toNat := by
  have positive : count.msb = false := by
    rw [BitVec.msb_eq_false_iff_two_mul_lt]
    omega
  rw [BitVec.signExtend_eq_setWidth_of_msb_false positive,
    BitVec.ofNat_toNat]

theorem signExtend_wideCount {count : Word} (small : count.toNat ≤ 64) :
    (count.setWidth 32).signExtend 64 = BitVec.ofNat 64 count.toNat := by
  have kept : (count.setWidth 32).toNat = count.toNat := by
    rw [BitVec.toNat_setWidth]
    exact Nat.mod_eq_of_lt (by omega)
  rw [signExtend_count (by omega), kept]

/-- LZCNT at each width, for an operand with a set bit. -/
theorem lzcntValue_eq
    (zero : ZeroCounts) (inst : DecodedInstruction) {src : Word}
    (nonzero : lowBytes (widthInBytes inst) src ≠ 0#(8 * widthInBytes inst)) :
    zeroCountValue zero inst true src =
      BitVec.ofNat 64 (lowBytes (widthInBytes inst) src).clz.toNat := by
  have word := ne_zero_of_lowBytes nonzero
  have bound := clz_lt nonzero
  rcases width_cases inst with
    ⟨wide, narrow, bytes⟩ | ⟨wide, narrow, bytes⟩ | ⟨wide, narrow, bytes⟩
  · rw [bytes, lowBytes_eight] at bound ⊢
    simp only [zeroCountValue, word, wide, if_true, if_false]
    exact signExtend_wideCount (by omega)
  · rw [bytes] at nonzero bound ⊢
    have extended : (lowBytes 2 src).setWidth 32 ≠ 0#32 :=
      setWidth_ne_zero (by decide) nonzero
    have count := clz_setWidth (by decide : 8 * 2 ≤ 32) nonzero
    have difference :
        (((lowBytes 2 src).setWidth 32).clz - 16#32).toNat =
          (lowBytes 2 src).clz.toNat := by
      rw [BitVec.toNat_sub_of_le (by rw [BitVec.le_def]; simp; omega), count]
      simp
    have value :
        zeroCountValue zero inst true src =
          (((lowBytes 2 src).setWidth 32).clz - 16#32).signExtend 64 := by
      have operand :
          (src.setWidth 16).setWidth 32 = (lowBytes 2 src).setWidth 32 := rfl
      simp [zeroCountValue, word, wide, narrow, operand, extended]
    rw [value, signExtend_count (by omega), difference]
  · rw [bytes] at nonzero bound ⊢
    have value :
        zeroCountValue zero inst true src =
          (lowBytes 4 src).clz.signExtend 64 := by
      have operand : src.setWidth 32 = lowBytes 4 src := rfl
      simp only [zeroCountValue, word, wide, narrow, operand]
      simp [nonzero]
    rw [value, signExtend_count (by omega)]

/-- TZCNT at each width, for an operand with a set bit. -/
theorem tzcntValue_eq
    (zero : ZeroCounts) (inst : DecodedInstruction) {src : Word}
    (nonzero : lowBytes (widthInBytes inst) src ≠ 0#(8 * widthInBytes inst)) :
    zeroCountValue zero inst false src =
      BitVec.ofNat 64 (lowBytes (widthInBytes inst) src).ctz.toNat := by
  have word := ne_zero_of_lowBytes nonzero
  have bound := ctz_lt nonzero
  rcases width_cases inst with
    ⟨wide, narrow, bytes⟩ | ⟨wide, narrow, bytes⟩ | ⟨wide, narrow, bytes⟩
  · rw [bytes, lowBytes_eight] at bound ⊢
    simp only [zeroCountValue, word, wide, if_true, if_false]
    exact signExtend_wideCount (by omega)
  · rw [bytes] at nonzero bound ⊢
    have extended : (lowBytes 2 src).setWidth 32 ≠ 0#32 :=
      setWidth_ne_zero (by decide) nonzero
    have count := ctz_setWidth (by decide : 8 * 2 ≤ 32) nonzero
    have value :
        zeroCountValue zero inst false src =
          ((lowBytes 2 src).setWidth 32).ctz.signExtend 64 := by
      have operand :
          (src.setWidth 16).setWidth 32 = (lowBytes 2 src).setWidth 32 := rfl
      simp [zeroCountValue, word, wide, narrow, operand, extended]
    rw [value, signExtend_count (by omega), count]
  · rw [bytes] at nonzero bound ⊢
    have value :
        zeroCountValue zero inst false src =
          (lowBytes 4 src).ctz.signExtend 64 := by
      have operand : src.setWidth 32 = lowBytes 4 src := rfl
      simp only [zeroCountValue, word, wide, narrow, operand]
      simp [nonzero]
    rw [value, signExtend_count (by omega)]

/-- LZCNT and TZCNT return a number of zeros when the operand has a set bit. -/
theorem zeroCountValue_eq
    (zero : ZeroCounts) (inst : DecodedInstruction) (isLzcnt : Bool)
    {src : Word}
    (nonzero : lowBytes (widthInBytes inst) src ≠ 0#(8 * widthInBytes inst)) :
    zeroCountValue zero inst isLzcnt src =
      BitVec.ofNat 64 (zeroBits isLzcnt (widthInBytes inst) src) := by
  cases isLzcnt with
  | true => exact lzcntValue_eq zero inst nonzero
  | false => exact tzcntValue_eq zero inst nonzero

/-- The count of a zero source is the operand size. -/
theorem zeroCountValue_zero
    (zero : ZeroCounts) (inst : DecodedInstruction) (isLzcnt : Bool) :
    zeroCountValue zero inst isLzcnt 0#64 =
      BitVec.ofNat 64 (8 * widthInBytes inst) := by
  rcases width_cases inst with
    ⟨wide, narrow, bytes⟩ | ⟨wide, narrow, bytes⟩ | ⟨wide, narrow, bytes⟩ <;>
    simp [zeroCountValue, operandWidth, wide, narrow, bytes]

/--
The result for an operand without a set bit which is cut out of a nonzero
source: it depends on what the builtin returns for zero.
-/
def undefinedCount
    (zero : ZeroCounts) (inst : DecodedInstruction) (isLzcnt : Bool) : Word :=
  if isLzcnt then
    if inst.has66 then (zero.clz - 16#32).signExtend 64
    else zero.clz.signExtend 64
  else zero.ctz.signExtend 64

theorem zeroCountValue_undefined
    (zero : ZeroCounts) (inst : DecodedInstruction) (isLzcnt : Bool)
    {src : Word} (word : src ≠ 0#64)
    (empty : lowBytes (widthInBytes inst) src = 0#(8 * widthInBytes inst)) :
    zeroCountValue zero inst isLzcnt src =
      undefinedCount zero inst isLzcnt := by
  rcases width_cases inst with
    ⟨wide, narrow, bytes⟩ | ⟨wide, narrow, bytes⟩ | ⟨wide, narrow, bytes⟩
  · rw [bytes, lowBytes_eight] at empty
    exact absurd empty word
  · rw [bytes] at empty
    have operand : (src.setWidth 16).setWidth 32 = 0#32 := by
      have cut : src.setWidth 16 = 0#16 := empty
      rw [cut]
      rfl
    cases isLzcnt <;>
      simp [zeroCountValue, undefinedCount, word, wide, narrow, operand]
  · rw [bytes] at empty
    have operand : src.setWidth 32 = 0#32 := empty
    cases isLzcnt <;>
      simp [zeroCountValue, undefinedCount, word, wide, narrow, operand]

end BadCpu
