import BadCpu.BmiOperations
import BadCpu.EffectiveAddress

/-!
# Memory operands and register operands

POPCNT, LZCNT, TZCNT and the BMI instructions compute their result from one
source operand.  `get_rm_value` returns the operand itself in the register form
and the address of the operand in the memory form, and the handlers use either
as the operand.  The two forms therefore agree exactly when the address cannot
be told from the operand by the instruction at hand.
-/

namespace BadCpu

open BitKernels ByteMemory

/-! ## Results as functions of the source -/

/-- The handlers whose result is a function of a source operand. -/
inductive SourceHandler where
  | popcnt
  | lzcntTzcnt (isLzcnt : Bool)
  | bmi (op3 : Byte)
  deriving DecidableEq, Repr

namespace SourceHandler

def handler : SourceHandler → Handler
  | .popcnt => .popcnt
  | .lzcntTzcnt isLzcnt => .lzcntTzcnt isLzcnt
  | .bmi op3 => .bmi op3

/-- The width of the source operand in bytes. -/
def sourceLength (inst : DecodedInstruction) : SourceHandler → ℕ
  | .bmi _ => bmiLength inst
  | _ => widthInBytes inst

/-- The destination value for a source operand. -/
def valueAt
    (zero : ZeroCounts) (inst : DecodedInstruction) (src1 src : Word) :
    SourceHandler → Word
  | .popcnt => popcntCount inst src
  | .lzcntTzcnt isLzcnt => zeroCountValue zero inst isLzcnt src
  | .bmi op3 => truncateResult inst ((bmiOperation op3 src1 src).getD 0#64)

/-- The flags for a source operand. -/
def flagsAt
    (zero : ZeroCounts) (inst : DecodedInstruction)
    (flags src1 src : Word) (source : SourceHandler) : Word :=
  match source with
  | .popcnt => zeroFlags flags (popcntCount inst src == 0#64)
  | .lzcntTzcnt _ => zeroFlags flags (src == 0#64)
  | .bmi _ => bmiFlags inst flags (source.valueAt zero inst src1 src)

theorem value_handler
    (zero : ZeroCounts) (inst : DecodedInstruction) (machine : Machine)
    (source : SourceHandler) :
    source.handler.value zero inst machine =
      source.valueAt zero inst (regValue machine.gregs inst.reg)
        (rmValue inst machine.gregs) := by
  cases source <;> rfl

theorem flags_handler
    (zero : ZeroCounts) (inst : DecodedInstruction) (machine : Machine)
    (source : SourceHandler) :
    source.handler.flags zero inst machine =
      source.flagsAt zero inst (machine.gregs .efl)
        (regValue machine.gregs inst.reg) (rmValue inst machine.gregs) := by
  cases source <;> rfl

/-- Only the width of the instruction matters. -/
theorem valueAt_congr
    (zero : ZeroCounts) {inst inst' : DecodedInstruction}
    (wide : is64Bit inst' = is64Bit inst) (narrow : inst'.has66 = inst.has66)
    (src1 src : Word) (source : SourceHandler) :
    source.valueAt zero inst' src1 src = source.valueAt zero inst src1 src := by
  cases source with
  | popcnt => simp only [valueAt, popcntCount, wide, narrow]
  | lzcntTzcnt isLzcnt =>
      simp only [valueAt, zeroCountValue, operandWidth, wide, narrow]
  | bmi op3 => simp only [valueAt, truncateResult, wide]

theorem flagsAt_congr
    (zero : ZeroCounts) {inst inst' : DecodedInstruction}
    (wide : is64Bit inst' = is64Bit inst) (narrow : inst'.has66 = inst.has66)
    (flags src1 src : Word) (source : SourceHandler) :
    source.flagsAt zero inst' flags src1 src =
      source.flagsAt zero inst flags src1 src := by
  have value := valueAt_congr zero wide narrow src1 src source
  cases source with
  | popcnt => simp only [flagsAt, popcntCount, wide, narrow]
  | lzcntTzcnt isLzcnt => rfl
  | bmi op3 => simp only [flagsAt, value, bmiFlags, wide]

end SourceHandler

/-! ## Indistinguishable operands -/

/-- A POPCNT source is counted at its width. -/
def SamePopulation (inst : DecodedInstruction) (left right : Word) : Prop :=
  population (widthInBytes inst) left = population (widthInBytes inst) right

/--
A source of LZCNT or TZCNT counts as zero only if all of its bits are clear.
Otherwise its zeros are counted at the operand width, and the builtin decides
what the count is when no bit is left there.
-/
def SameZeroCount
    (zero : ZeroCounts) (inst : DecodedInstruction) (isLzcnt : Bool)
    (left right : Word) : Prop :=
  left = 0#64 ∧ right = 0#64 ∨
    left ≠ 0#64 ∧ right ≠ 0#64 ∧
      (lowBytes (widthInBytes inst) left ≠ 0#(8 * widthInBytes inst) ∧
          zeroBits isLzcnt (widthInBytes inst) left =
            zeroBits isLzcnt (widthInBytes inst) right ∨
        lowBytes (widthInBytes inst) left = 0#(8 * widthInBytes inst) ∧
          undefinedCount zero inst isLzcnt =
            BitVec.ofNat 64 (zeroBits isLzcnt (widthInBytes inst) right))

/-- Whether a bit is the lowest set bit of a word. -/
def IsLowestBit (word : Word) (bit : ℕ) : Prop :=
  word.getLsbD bit = true ∧ ClearBelow word bit

/-- Whether a bit is set, but not the lowest set bit of a word. -/
def IsHigherBit (word : Word) (bit : ℕ) : Prop :=
  word.getLsbD bit = true ∧ ¬ ClearBelow word bit

/--
ANDN sees its source where the first operand is set; the other operations see
the position of the lowest set bit or the bits above it.
-/
def SameBmiSource
    (op3 : Byte) (width : ℕ) (src1 left right : Word) : Prop :=
  ∀ bit < width,
    if op3 = 0xF2#8 then
      src1.getLsbD bit = true → left.getLsbD bit = right.getLsbD bit
    else if op3 = 0xF3#8 then IsLowestBit left bit ↔ IsLowestBit right bit
    else if op3 = 0xF1#8 then ClearBelow left bit ↔ ClearBelow right bit
    else IsHigherBit left bit ↔ IsHigherBit right bit

/-- The instruction cannot tell two source operands apart. -/
def SameOperand
    (zero : ZeroCounts) (inst : DecodedInstruction) (src1 left right : Word)
    (source : SourceHandler) : Prop :=
  match source with
  | .popcnt => SamePopulation inst left right
  | .lzcntTzcnt isLzcnt => SameZeroCount zero inst isLzcnt left right
  | .bmi op3 =>
      SameBmiSource op3 (8 * source.sourceLength inst) src1 left right

/-! ## Equal results -/

theorem popcntCount_eq_iff
    (inst : DecodedInstruction) (left right : Word) :
    popcntCount inst left = popcntCount inst right ↔
      SamePopulation inst left right := by
  have width := widthInBytes_le inst
  have bound (value : Word) : population (widthInBytes inst) value ≤ 64 :=
    (BitVec.toNat_cpop_le _).trans width
  rw [popcntCount_eq, popcntCount_eq,
    ofNat_count_inj (bound left) (bound right)]
  rfl

/-- The zero flag tells whether the source was zero. -/
theorem zeroFlags_inj (flags : Word) (left right : Bool) :
    zeroFlags flags left = zeroFlags flags right ↔ left = right := by
  have zf (isZero : Bool) : (zeroFlags flags isZero).getLsbD 6 = isZero := by
    cases isZero <;> simp [zeroFlags, statusMask]
  constructor
  · intro equal
    rw [← zf left, equal, zf right]
  · rintro rfl
    rfl

/-- Equal results of LZCNT and TZCNT, for a right source without upper bits. -/
theorem zeroCount_agrees_iff
    (zero : ZeroCounts) (inst : DecodedInstruction) (isLzcnt : Bool)
    (flags : Word) {left right : Word}
    (narrow :
      right ≠ 0#64 →
        lowBytes (widthInBytes inst) right ≠ 0#(8 * widthInBytes inst)) :
    zeroCountValue zero inst isLzcnt left =
          zeroCountValue zero inst isLzcnt right ∧
        zeroFlags flags (left == 0#64) = zeroFlags flags (right == 0#64) ↔
      SameZeroCount zero inst isLzcnt left right := by
  rw [zeroFlags_inj, SameZeroCount]
  have width := widthInBytes_le inst
  by_cases leftZero : left = 0#64
  · by_cases rightZero : right = 0#64
    · simp [leftZero, rightZero]
    · simp [leftZero, rightZero]
  by_cases rightZero : right = 0#64
  · simp [leftZero, rightZero]
  have rightLow := narrow rightZero
  have rightBound := zeroBits_le isLzcnt rightLow
  rw [zeroCountValue_eq zero inst isLzcnt rightLow]
  by_cases empty :
      lowBytes (widthInBytes inst) left = 0#(8 * widthInBytes inst)
  · rw [zeroCountValue_undefined zero inst isLzcnt leftZero empty]
    simp [leftZero, rightZero, empty]
  · have leftBound := zeroBits_le isLzcnt empty
    rw [zeroCountValue_eq zero inst isLzcnt empty,
      ofNat_count_inj (by omega) (by omega)]
    simp [leftZero, rightZero, empty]

/-- Truncation keeps the bits below the width. -/
theorem getLsbD_truncateResult
    (inst : DecodedInstruction) (result : Word) (bit : ℕ) :
    (truncateResult inst result).getLsbD bit =
      (decide (bit < 8 * bmiLength inst) && result.getLsbD bit) := by
  rw [truncateResult_eq, lowBytes, BitVec.getLsbD_setWidth,
    BitVec.getLsbD_setWidth]
  by_cases word : bit < 64
  · rw [decide_eq_true word, Bool.true_and]
  · rw [BitVec.getLsbD_of_ge result bit (not_lt.mp word), Bool.and_false,
      Bool.and_false]

theorem truncateResult_eq_iff
    (inst : DecodedInstruction) (left right : Word) :
    truncateResult inst left = truncateResult inst right ↔
      ∀ bit < 8 * bmiLength inst, left.getLsbD bit = right.getLsbD bit := by
  constructor
  · intro equal bit bound
    have bits := congrArg (fun word => word.getLsbD bit) equal
    simpa [getLsbD_truncateResult inst, bound] using bits
  · intro bits
    apply BitVec.eq_of_getLsbD_eq
    intro bit _
    rw [getLsbD_truncateResult inst, getLsbD_truncateResult inst]
    by_cases bound : bit < 8 * bmiLength inst
    · rw [bits bit bound]
    · simp [bound]

/-- The bits of every BMI operation. -/
theorem bmiOperation_bit_eq_iff
    {op3 : Byte} (supported : isBmiOpcode op3 = true)
    (src1 left right : Word) {bit : ℕ} (bound : bit < 64) :
    ((bmiOperation op3 src1 left).getD 0#64).getLsbD bit =
        ((bmiOperation op3 src1 right).getD 0#64).getLsbD bit ↔
      if op3 = 0xF2#8 then
        src1.getLsbD bit = true → left.getLsbD bit = right.getLsbD bit
      else if op3 = 0xF3#8 then IsLowestBit left bit ↔ IsLowestBit right bit
      else if op3 = 0xF1#8 then ClearBelow left bit ↔ ClearBelow right bit
      else IsHigherBit left bit ↔ IsHigherBit right bit := by
  have opcodes :
      ((op3 = 0xF2#8 ∨ op3 = 0xF3#8) ∨ op3 = 0xF1#8) ∨ op3 = 0xF4#8 := by
    simpa [isBmiOpcode] using supported
  rcases opcodes with ((rfl | rfl) | rfl) | rfl
  · simp only [bmiOperation, if_true, Option.getD_some, BitVec.getLsbD_and,
      BitVec.getLsbD_not, bound, decide_true, Bool.true_and]
    cases src1.getLsbD bit <;> simp
  · change (isolate left).getLsbD bit = (isolate right).getLsbD bit ↔
      (IsLowestBit left bit ↔ IsLowestBit right bit)
    rw [getLsbD_isolate, getLsbD_isolate, Bool.eq_iff_iff]
    simp [IsLowestBit]
  · change (maskThrough left).getLsbD bit = (maskThrough right).getLsbD bit ↔
      (ClearBelow left bit ↔ ClearBelow right bit)
    rw [getLsbD_maskThrough, getLsbD_maskThrough, Bool.eq_iff_iff]
    simp [bound]
  · change (clear left).getLsbD bit = (clear right).getLsbD bit ↔
      (IsHigherBit left bit ↔ IsHigherBit right bit)
    rw [getLsbD_clear, getLsbD_clear, Bool.eq_iff_iff]
    simp [IsHigherBit]

theorem bmi_agrees_iff
    (zero : ZeroCounts) (inst : DecodedInstruction) {op3 : Byte}
    (supported : isBmiOpcode op3 = true) (flags src1 left right : Word) :
    (SourceHandler.bmi op3).valueAt zero inst src1 left =
          (SourceHandler.bmi op3).valueAt zero inst src1 right ∧
        (SourceHandler.bmi op3).flagsAt zero inst flags src1 left =
          (SourceHandler.bmi op3).flagsAt zero inst flags src1 right ↔
      SameBmiSource op3 (8 * bmiLength inst) src1 left right := by
  have width := bmiLength_le inst
  have value :
      (SourceHandler.bmi op3).valueAt zero inst src1 left =
          (SourceHandler.bmi op3).valueAt zero inst src1 right ↔
        SameBmiSource op3 (8 * bmiLength inst) src1 left right := by
    rw [SourceHandler.valueAt, SourceHandler.valueAt,
      truncateResult_eq_iff inst, SameBmiSource]
    apply forall₂_congr
    intro bit bound
    exact bmiOperation_bit_eq_iff supported src1 left right (by omega)
  rw [← value]
  constructor
  · exact And.left
  · intro equal
    exact ⟨equal, by simp only [SourceHandler.flagsAt, equal]⟩

/-! ## The two forms of an instruction -/

/-- The operand in memory, zero-extended to a register. -/
def memoryOperand
    (inst : DecodedInstruction) (source : SourceHandler) (machine : Machine) :
    Word :=
  (load machine.memory (rmValue inst machine.gregs)
    (source.sourceLength inst)).setWidth 64

/--
A memory form and a register form of one instruction, with the operand of the
memory form in the source register.
-/
structure RegisterCounterpart
    (ip ip' : Code) (features : CpuFeatures) (source : SourceHandler)
    (machine machine' : Machine) : Prop where
  handler :
    selectHandler (decodeInstruction ip) features = some source.handler
  handler' :
    selectHandler (decodeInstruction ip') features = some source.handler
  memoryForm : (decodeModrm (decodeInstruction ip).modrm).mod ≠ 3#8
  registerForm : (decodeModrm (decodeInstruction ip').modrm).mod = 3#8
  wide : is64Bit (decodeInstruction ip') = is64Bit (decodeInstruction ip)
  narrow : (decodeInstruction ip').has66 = (decodeInstruction ip).has66
  reg : (decodeInstruction ip').reg = (decodeInstruction ip).reg
  operand :
    regValue machine'.gregs (decodeInstruction ip').rm =
      memoryOperand (decodeInstruction ip) source machine
  destination :
    regValue machine'.gregs (decodeInstruction ip).reg =
      regValue machine.gregs (decodeInstruction ip).reg
  flags : machine'.gregs .efl = machine.gregs .efl

/-- Both forms leave the same destination value and the same flags. -/
def FormsAgree
    (zero : ZeroCounts) (ip ip' : Code) (features : CpuFeatures)
    (machine machine' : Machine) : Prop :=
  ∃ state state',
    emulate zero ip features machine = some (.success, state) ∧
      emulate zero ip' features machine' = some (.success, state') ∧
      regValue state.machine.gregs (decodeInstruction ip).reg =
        regValue state'.machine.gregs (decodeInstruction ip).reg ∧
      state.machine.gregs .efl = state'.machine.gregs .efl

/-- One emulation of a handler with a source operand. -/
theorem emulate_source
    (zero : ZeroCounts) {ip : Code} {features : CpuFeatures}
    (machine : Machine) {source : SourceHandler}
    (selected :
      selectHandler (decodeInstruction ip) features = some source.handler) :
    ∃ state,
      emulate zero ip features machine = some (.success, state) ∧
        regValue state.machine.gregs (decodeInstruction ip).reg =
          source.valueAt zero (decodeInstruction ip)
            (regValue machine.gregs (decodeInstruction ip).reg)
            (rmValue (decodeInstruction ip) machine.gregs) ∧
        state.machine.gregs .efl =
          source.flagsAt zero (decodeInstruction ip) (machine.gregs .efl)
            (regValue machine.gregs (decodeInstruction ip).reg)
            (rmValue (decodeInstruction ip) machine.gregs) := by
  rw [selectHandler_decode] at selected
  rcases emulate_committed zero machine selected with ⟨state, run, committed⟩
  refine ⟨state, run, ?_, ?_⟩
  · rw [committed.destination, source.value_handler]
  · rw [committed.flags, source.flags_handler]

/-- A zero-extended operand has no bits beyond its width. -/
theorem lowBytes_setWidth_ne_zero
    {n : ℕ} {word : BitVec (8 * n)} (fits : 8 * n ≤ 64)
    (nonzero : word.setWidth 64 ≠ 0#64) :
    lowBytes n (word.setWidth 64) ≠ 0#(8 * n) := by
  have back : lowBytes n (word.setWidth 64) = word := by
    rw [lowBytes, BitVec.setWidth_setWidth_of_le _ fits, BitVec.setWidth_eq]
  rw [back]
  rintro rfl
  exact nonzero (by simp)

/-- The results agree exactly when the sources cannot be told apart. -/
theorem sourceResults_agree_iff
    (zero : ZeroCounts) (inst : DecodedInstruction) (source : SourceHandler)
    (supported : source.handler.Supported) (flags src1 left : Word)
    (operand : BitVec (8 * source.sourceLength inst)) :
    source.valueAt zero inst src1 left =
          source.valueAt zero inst src1 (operand.setWidth 64) ∧
        source.flagsAt zero inst flags src1 left =
          source.flagsAt zero inst flags src1 (operand.setWidth 64) ↔
      SameOperand zero inst src1 left (operand.setWidth 64) source := by
  cases source with
  | popcnt =>
      rw [SameOperand, ← popcntCount_eq_iff]
      constructor
      · exact And.left
      · intro equal
        exact ⟨equal, by simp only [SourceHandler.flagsAt, equal]⟩
  | lzcntTzcnt isLzcnt =>
      exact zeroCount_agrees_iff zero inst isLzcnt flags
        (lowBytes_setWidth_ne_zero (widthInBytes_le inst))
  | bmi op3 => exact bmi_agrees_iff zero inst supported flags src1 left _

/--
The memory form agrees with the register form exactly when the instruction
cannot tell the address from the operand stored there.
-/
theorem formsAgree_iff
    (zero : ZeroCounts) {ip ip' : Code} {features : CpuFeatures}
    {source : SourceHandler} {machine machine' : Machine}
    (counterpart :
      RegisterCounterpart ip ip' features source machine machine') :
    FormsAgree zero ip ip' features machine machine' ↔
      SameOperand zero (decodeInstruction ip)
        (regValue machine.gregs (decodeInstruction ip).reg)
        (rmValue (decodeInstruction ip) machine.gregs)
        (memoryOperand (decodeInstruction ip) source machine) source := by
  rcases emulate_source zero machine counterpart.handler with
    ⟨state, run, value, flags⟩
  rcases emulate_source zero machine' counterpart.handler' with
    ⟨state', run', value', flags'⟩
  have source' :
      rmValue (decodeInstruction ip') machine'.gregs =
        memoryOperand (decodeInstruction ip) source machine := by
    rw [rmValue_register counterpart.registerForm]
    exact counterpart.operand
  rw [source.valueAt_congr zero counterpart.wide counterpart.narrow,
    counterpart.reg, counterpart.destination, source'] at value'
  rw [source.flagsAt_congr zero counterpart.wide counterpart.narrow,
    counterpart.reg, counterpart.destination, counterpart.flags, source']
    at flags'
  have supported : source.handler.Supported := by
    have selected := counterpart.handler
    rw [selectHandler_decode] at selected
    exact selectedHandler_supported selected
  have agree :=
    sourceResults_agree_iff zero (decodeInstruction ip) source supported
      (machine.gregs .efl) (regValue machine.gregs (decodeInstruction ip).reg)
      (rmValue (decodeInstruction ip) machine.gregs)
      (load machine.memory (rmValue (decodeInstruction ip) machine.gregs)
        (source.sourceLength (decodeInstruction ip)))
  rw [memoryOperand, ← agree, ← memoryOperand, ← value, ← value', ← flags,
    ← flags']
  constructor
  · rintro ⟨after, after', success, success', sameValue, sameFlags⟩
    rw [run, Option.some.injEq, Prod.mk.injEq] at success
    rw [run', Option.some.injEq, Prod.mk.injEq] at success'
    rcases success with ⟨-, rfl⟩
    rcases success' with ⟨-, rfl⟩
    exact ⟨sameValue, sameFlags⟩
  · rintro ⟨sameValue, sameFlags⟩
    exact ⟨state, state', run, run', sameValue, sameFlags⟩

/-- The register `rax` points to the value of all other registers. -/
def pointerMachine : Machine where
  gregs greg := if greg = .rax then 0x3000#64 else 0x41#64
  memory address := if address = 0x3000#64 then 0x41#8 else 0#8

/-- The address has as many bits as the operand of `popcnt eax, [rax]`. -/
theorem popcntForms_agree :
    FormsAgree default
      (codeOfBytes [0xF3#8, 0x0F#8, 0xB8#8, 0x00#8])
      (codeOfBytes [0xF3#8, 0x0F#8, 0xB8#8, 0xC1#8]) {}
      pointerMachine pointerMachine := by
  have counterpart :
      RegisterCounterpart (codeOfBytes [0xF3#8, 0x0F#8, 0xB8#8, 0x00#8])
        (codeOfBytes [0xF3#8, 0x0F#8, 0xB8#8, 0xC1#8]) {} .popcnt
        pointerMachine pointerMachine :=
    { handler := by decide
      handler' := by decide
      memoryForm := by decide
      registerForm := by decide
      wide := by decide
      narrow := by decide
      reg := by decide
      operand := by decide
      destination := by decide
      flags := by decide }
  refine (formsAgree_iff _ counterpart).mpr ?_
  change population _ _ = population _ _
  decide

/--
With the address three in `rax`, `popcnt eax, [rax]` counts the bits of the
address, and not those of the empty memory behind it.
-/
theorem popcntForms_disagree :
    RegisterCounterpart (codeOfBytes [0xF3#8, 0x0F#8, 0xB8#8, 0x00#8])
        (codeOfBytes [0xF3#8, 0x0F#8, 0xB8#8, 0xC1#8]) {} .popcnt
        ⟨fun greg => if greg = .rax then 3#64 else 0#64, fun _ => 0#8⟩
        ⟨fun greg => if greg = .rax then 3#64 else 0#64, fun _ => 0#8⟩ ∧
      ¬ FormsAgree default
        (codeOfBytes [0xF3#8, 0x0F#8, 0xB8#8, 0x00#8])
        (codeOfBytes [0xF3#8, 0x0F#8, 0xB8#8, 0xC1#8]) {}
        ⟨fun greg => if greg = .rax then 3#64 else 0#64, fun _ => 0#8⟩
        ⟨fun greg => if greg = .rax then 3#64 else 0#64, fun _ => 0#8⟩ := by
  have counterpart :
      RegisterCounterpart (codeOfBytes [0xF3#8, 0x0F#8, 0xB8#8, 0x00#8])
        (codeOfBytes [0xF3#8, 0x0F#8, 0xB8#8, 0xC1#8]) {} .popcnt
        ⟨fun greg => if greg = .rax then 3#64 else 0#64, fun _ => 0#8⟩
        ⟨fun greg => if greg = .rax then 3#64 else 0#64, fun _ => 0#8⟩ :=
    { handler := by decide
      handler' := by decide
      memoryForm := by decide
      registerForm := by decide
      wide := by decide
      narrow := by decide
      reg := by decide
      operand := by decide
      destination := by decide
      flags := by decide }
  refine ⟨counterpart, ?_⟩
  rintro ⟨state, state', success, success', sameValue, -⟩
  rcases emulate_source default _ counterpart.handler with
    ⟨after, run, value, -⟩
  rcases emulate_source default _ counterpart.handler' with
    ⟨after', run', value', -⟩
  rw [run, Option.some.injEq, Prod.mk.injEq] at success
  rw [run', Option.some.injEq, Prod.mk.injEq] at success'
  rcases success with ⟨-, rfl⟩
  rcases success' with ⟨-, rfl⟩
  rw [counterpart.reg] at value'
  rw [value, value'] at sameValue
  revert sameValue
  decide

end BadCpu
