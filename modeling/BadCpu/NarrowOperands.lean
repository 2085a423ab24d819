import BadCpu.BmiOperations
import BadCpu.ZeroCounting

/-!
# The upper bits of a narrow operand

Two runs of a register form from contexts which differ only in the upper bits
of the source register.  Values and flags are functions of the low bytes of the
operands, with one exception: LZCNT and TZCNT ask whether the whole source is
zero.
-/

namespace BadCpu

open BitKernels ByteMemory

/-! ## Two contexts -/

/-- The operand width of a handler in bytes. -/
def Handler.length (inst : DecodedInstruction) : Handler → ℕ
  | .bmi _ => bmiLength inst
  | .popcnt | .movbe | .lzcntTzcnt _ => widthInBytes inst

/-- The machines differ at most in the upper bits of the source register. -/
structure DiffersAbove
    (inst : DecodedInstruction) (n : ℕ) (left right : Machine) : Prop where
  source :
    lowBytes n (regValue left.gregs inst.rm) =
      lowBytes n (regValue right.gregs inst.rm)
  others :
    ∀ greg, gregOf inst.rm ≠ some greg → left.gregs greg = right.gregs greg
  memory : left.memory = right.memory

/-- Two runs end alike, as far as the operand width goes. -/
structure SameNarrowResult
    (inst : DecodedInstruction) (n : ℕ) (left right : EmuState) : Prop where
  destination :
    lowBytes n (regValue left.machine.gregs inst.reg) =
      lowBytes n (regValue right.machine.gregs inst.reg)
  flags : left.machine.gregs .efl = right.machine.gregs .efl
  rip : left.machine.gregs .rip = right.machine.gregs .rip

/--
The emulations of two machines end alike, whatever an undefined builtin returns
in either of them.
-/
def UpperBitsIgnored
    (ip : Code) (features : CpuFeatures) (n : ℕ) (left right : Machine) :
    Prop :=
  ∀ zero zero', ∃ result state state',
    emulate zero ip features left = some (result, state) ∧
      emulate zero' ip features right = some (result, state') ∧
      SameNarrowResult (decodeInstruction ip) n state state'

namespace DiffersAbove

variable {inst : DecodedInstruction} {n : ℕ} {left right : Machine}

/-- Every register agrees in its low bytes. -/
theorem low (differs : DiffersAbove inst n left right) (reg : Byte) :
    lowBytes n (regValue left.gregs reg) =
      lowBytes n (regValue right.gregs reg) := by
  by_cases same : gregOf reg = gregOf inst.rm
  · have source := differs.source
    simp only [regValue, same] at source ⊢
    exact source
  · cases found : gregOf reg with
    | none => simp only [regValue, found]
    | some p =>
        have other : gregOf inst.rm ≠ some p := by
          rw [← found]
          exact Ne.symm same
        simp only [regValue, found, differs.others p other]

theorem efl (differs : DiffersAbove inst n left right) :
    left.gregs .efl = right.gregs .efl :=
  differs.others .efl fun valid => (gregOf_general valid).1 rfl

theorem rip (differs : DiffersAbove inst n left right) :
    left.gregs .rip = right.gregs .rip :=
  differs.others .rip fun valid => (gregOf_general valid).2 rfl

end DiffersAbove

/-! ## Results of one handler -/

section Results

variable {inst : DecodedInstruction} {left right : Machine}
  (register : (decodeModrm inst.modrm).mod = 3#8) (zero zero' : ZeroCounts)

include register

theorem popcnt_narrow
    (differs : DiffersAbove inst (widthInBytes inst) left right) :
    Handler.popcnt.value zero inst left =
      Handler.popcnt.value zero' inst right := by
  have low := differs.source
  simp only [Handler.value, popcntCount_eq, rmValue_register register,
    population, low]

theorem bmi_narrow
    {op3 : Byte} (supported : isBmiOpcode op3 = true)
    (differs : DiffersAbove inst (bmiLength inst) left right) :
    (Handler.bmi op3).value zero inst left =
      (Handler.bmi op3).value zero' inst right := by
  rw [bmiValue_eq zero inst left supported,
    bmiValue_eq zero' inst right supported, rmValue_register register,
    rmValue_register register, differs.source, differs.low inst.reg]

/-- MOVBE keeps upper bits of its destination, but its low bytes agree. -/
theorem movbe_narrow
    (differs : DiffersAbove inst (widthInBytes inst) left right) :
    lowBytes (widthInBytes inst) (Handler.movbe.value zero inst left) =
      lowBytes (widthInBytes inst) (Handler.movbe.value zero' inst right) := by
  have form : inst.modrm >>> 6 = 3#8 := by
    rw [← decodeModrm_mod]
    exact register
  have source (machine : Machine) :
      movbeSource inst machine (widthInBytes inst) =
        lowBytes (widthInBytes inst) (regValue machine.gregs inst.rm) :=
    if_pos form
  rw [Handler.value, Handler.value, lowBytes_movbeValue, lowBytes_movbeValue,
    source, source, differs.source]

/-- LZCNT and TZCNT agree on an operand with a set bit, and on zero. -/
theorem zeroCount_narrow
    (isLzcnt : Bool)
    (differs : DiffersAbove inst (widthInBytes inst) left right)
    (harmless :
      lowBytes (widthInBytes inst) (regValue left.gregs inst.rm) =
          0#(8 * widthInBytes inst) →
        regValue left.gregs inst.rm = 0#64 ∧
          regValue right.gregs inst.rm = 0#64) :
    (Handler.lzcntTzcnt isLzcnt).value zero inst left =
        (Handler.lzcntTzcnt isLzcnt).value zero' inst right ∧
      (regValue left.gregs inst.rm == 0#64) =
        (regValue right.gregs inst.rm == 0#64) := by
  simp only [Handler.value, rmValue_register register]
  by_cases empty :
      lowBytes (widthInBytes inst) (regValue left.gregs inst.rm) =
        0#(8 * widthInBytes inst)
  · rcases harmless empty with ⟨leftZero, rightZero⟩
    simp [leftZero, rightZero, zeroCountValue]
  · have low := differs.source
    have filled :
        lowBytes (widthInBytes inst) (regValue right.gregs inst.rm) ≠
          0#(8 * widthInBytes inst) := by
      rw [← low]
      exact empty
    constructor
    · rw [zeroCountValue_eq zero inst isLzcnt empty,
        zeroCountValue_eq zero' inst isLzcnt filled, zeroBits, zeroBits, low]
    · rw [beq_eq_false_iff_ne.mpr (ne_zero_of_lowBytes empty),
        beq_eq_false_iff_ne.mpr (ne_zero_of_lowBytes filled)]

/-- Low bytes and flags agree for every handler. -/
theorem handler_narrow
    {handler : Handler} (supported : handler.Supported)
    (differs : DiffersAbove inst (handler.length inst) left right)
    (harmless :
      ∀ isLzcnt, handler = .lzcntTzcnt isLzcnt →
        lowBytes (handler.length inst) (regValue left.gregs inst.rm) =
            0#(8 * handler.length inst) →
          regValue left.gregs inst.rm = 0#64 ∧
            regValue right.gregs inst.rm = 0#64) :
    lowBytes (handler.length inst) (handler.value zero inst left) =
        lowBytes (handler.length inst) (handler.value zero' inst right) ∧
      handler.flags zero inst left = handler.flags zero' inst right := by
  cases handler with
  | popcnt =>
      have value := popcnt_narrow register zero zero' differs
      refine ⟨by rw [value], ?_⟩
      simp only [Handler.value] at value
      simp only [Handler.flags, value, differs.efl]
  | movbe => exact ⟨movbe_narrow register zero zero' differs, differs.efl⟩
  | lzcntTzcnt isLzcnt =>
      rcases zeroCount_narrow register zero zero' isLzcnt differs
        (harmless isLzcnt rfl) with ⟨value, isZero⟩
      refine ⟨by rw [value], ?_⟩
      simp only [Handler.flags, rmValue_register register, isZero, differs.efl]
  | bmi op3 =>
      have value := bmi_narrow register zero zero' supported differs
      refine ⟨by rw [value], ?_⟩
      simp only [Handler.flags, value, differs.efl]

end Results

/-- Results of one handler under different builtins differ where they may. -/
theorem undefinedCount_low_ne
    {inst : DecodedInstruction} (isLzcnt : Bool)
    (narrow : is64Bit inst = false) :
    lowBytes (widthInBytes inst)
        (undefinedCount default inst isLzcnt) ≠
      lowBytes (widthInBytes inst)
        (undefinedCount ⟨1#32, 1#32, 1#32, 1#32⟩ inst isLzcnt) := by
  cases word : inst.has66 with
  | true =>
      have bytes : widthInBytes inst = 2 := by
        simp [widthInBytes, narrow, word]
      rw [bytes]
      simp only [undefinedCount, word]
      revert isLzcnt
      decide
  | false =>
      have bytes : widthInBytes inst = 4 := by
        simp [widthInBytes, narrow, word]
      rw [bytes]
      simp only [undefinedCount, word]
      revert isLzcnt
      decide

/-- If all builtins are to agree on an empty operand, both sources are zero. -/
theorem zeroCount_sources
    {inst : DecodedInstruction} {left right : Machine} {after after' : EmuState}
    (register : (decodeModrm inst.modrm).mod = 3#8) (isLzcnt : Bool)
    (differs : DiffersAbove inst (widthInBytes inst) left right)
    (empty :
      lowBytes (widthInBytes inst) (regValue left.gregs inst.rm) =
        0#(8 * widthInBytes inst))
    (committed :
      Committed default inst left (.lzcntTzcnt isLzcnt) after)
    (committed' :
      Committed ⟨1#32, 1#32, 1#32, 1#32⟩ inst right (.lzcntTzcnt isLzcnt)
        after')
    (same : SameNarrowResult inst (widthInBytes inst) after after') :
    regValue left.gregs inst.rm = 0#64 ∧
      regValue right.gregs inst.rm = 0#64 := by
  have empty' := empty
  rw [differs.source] at empty'
  have flags := congrArg zeroFlag same.flags
  rw [committed.flags, committed'.flags] at flags
  simp only [Handler.flags, zeroFlag_zeroFlags, rmValue_register register]
    at flags
  by_cases leftZero : regValue left.gregs inst.rm = 0#64
  · simp only [leftZero, BEq.rfl] at flags
    exact ⟨leftZero, beq_iff_eq.mp flags.symm⟩
  · have rightZero : regValue right.gregs inst.rm ≠ 0#64 := by
      simpa [leftZero] using flags
    have narrow : is64Bit inst = false := by
      rcases width_cases inst with ⟨-, -, bytes⟩ | ⟨wide, -⟩ | ⟨wide, -⟩
      · rw [bytes, lowBytes_eight] at empty
        exact absurd empty leftZero
      · exact wide
      · exact wide
    have value := same.destination
    rw [committed.destination, committed'.destination] at value
    simp only [Handler.value, rmValue_register register] at value
    rw [zeroCountValue_undefined _ inst isLzcnt leftZero empty,
      zeroCountValue_undefined _ inst isLzcnt rightZero empty'] at value
    exact absurd value (undefinedCount_low_ne isLzcnt narrow)

/-! ## Exactly when the upper bits are ignored -/

/--
The upper bits are ignored exactly when the handler does not count zeros, or
the operand has a set bit, or both sources are zero.
-/
theorem upperBitsIgnored_iff
    {ip : Code} {features : CpuFeatures} {handler : Handler}
    {left right : Machine}
    (selected : selectHandler (decodeInstruction ip) features = some handler)
    (register : (decodeModrm (decodeInstruction ip).modrm).mod = 3#8)
    (differs :
      DiffersAbove (decodeInstruction ip)
        (handler.length (decodeInstruction ip)) left right) :
    UpperBitsIgnored ip features (handler.length (decodeInstruction ip)) left
        right ↔
      ∀ isLzcnt, handler = .lzcntTzcnt isLzcnt →
        lowBytes (handler.length (decodeInstruction ip))
            (regValue left.gregs (decodeInstruction ip).rm) =
          0#(8 * handler.length (decodeInstruction ip)) →
        regValue left.gregs (decodeInstruction ip).rm = 0#64 ∧
          regValue right.gregs (decodeInstruction ip).rm = 0#64 := by
  rw [selectHandler_decode] at selected
  constructor
  · rintro ignored isLzcnt rfl empty
    rcases ignored default ⟨1#32, 1#32, 1#32, 1#32⟩ with
      ⟨result, state, state', run, run', same⟩
    rcases
        emulate_committed default left selected with
      ⟨after, success, committed⟩
    rcases
        emulate_committed ⟨1#32, 1#32, 1#32, 1#32⟩ right selected with
      ⟨after', success', committed'⟩
    rw [success, Option.some.injEq, Prod.mk.injEq] at run
    rw [success', Option.some.injEq, Prod.mk.injEq] at run'
    rcases run with ⟨-, rfl⟩
    rcases run' with ⟨-, rfl⟩
    exact zeroCount_sources register isLzcnt differs empty committed committed'
      same
  · intro harmless zero zero'
    rcases emulate_committed zero left selected with ⟨after, run, committed⟩
    rcases emulate_committed zero' right selected with
      ⟨after', run', committed'⟩
    refine ⟨_, after, after', run, run', ?_⟩
    rcases
        handler_narrow register zero zero' (selectedHandler_supported selected)
          differs harmless with
      ⟨value, flags⟩
    constructor
    · rw [committed.destination, committed'.destination, value]
    · rw [committed.flags, committed'.flags, flags]
    · rw [committed.rip, committed'.rip, differs.rip]

/-- The two machines below differ in the upper half of `rcx`. -/
theorem differsAbove_rcx
    {inst : DecodedInstruction} (rm : gregOf inst.rm = some .rcx) :
    DiffersAbove inst 4 ⟨fun _ => 0#64, fun _ => 0#8⟩
      ⟨fun greg => if greg = .rcx then 0x100000000#64 else 0#64,
        fun _ => 0#8⟩ where
  source := by
    simp only [regValue, rm]
    decide
  others := by
    intro greg other
    rw [rm] at other
    have notSource : greg ≠ .rcx := fun same => other (by rw [same])
    simp [notSource]
  memory := rfl

/-- `popcnt eax, ecx` ignores the upper half of `rcx`. -/
theorem upperBitsIgnored_popcnt :
    UpperBitsIgnored (codeOfBytes [0xF3#8, 0x0F#8, 0xB8#8, 0xC1#8]) {} 4
      ⟨fun _ => 0#64, fun _ => 0#8⟩
      ⟨fun greg => if greg = .rcx then 0x100000000#64 else 0#64,
        fun _ => 0#8⟩ := by
  have selected :
      selectHandler
          (decodeInstruction
            (codeOfBytes [0xF3#8, 0x0F#8, 0xB8#8, 0xC1#8])) {} =
        some .popcnt := by
    decide
  refine
    (upperBitsIgnored_iff selected (by decide)
      (differsAbove_rcx (by decide))).mpr ?_
  intro isLzcnt other
  simp at other

/-- `tzcnt eax, ecx` does not. -/
theorem upperBits_changeTzcnt :
    DiffersAbove
        (decodeInstruction (codeOfBytes [0xF3#8, 0x0F#8, 0xBC#8, 0xC1#8])) 4
        ⟨fun _ => 0#64, fun _ => 0#8⟩
        ⟨fun greg => if greg = .rcx then 0x100000000#64 else 0#64,
          fun _ => 0#8⟩ ∧
      ¬ UpperBitsIgnored (codeOfBytes [0xF3#8, 0x0F#8, 0xBC#8, 0xC1#8]) {} 4
        ⟨fun _ => 0#64, fun _ => 0#8⟩
        ⟨fun greg => if greg = .rcx then 0x100000000#64 else 0#64,
          fun _ => 0#8⟩ := by
  have selected :
      selectedHandler (codeOfBytes [0xF3#8, 0x0F#8, 0xBC#8, 0xC1#8]) {} =
        some (.lzcntTzcnt false) := by
    decide
  refine ⟨differsAbove_rcx (by decide), fun ignored => ?_⟩
  rcases ignored default default with
    ⟨result, state, state', run, run', same⟩
  rcases emulate_committed _ _ selected with ⟨after, success, committed⟩
  rcases emulate_committed _ _ selected with ⟨after', success', committed'⟩
  rw [success, Option.some.injEq, Prod.mk.injEq] at run
  rw [success', Option.some.injEq, Prod.mk.injEq] at run'
  rcases run with ⟨-, rfl⟩
  rcases run' with ⟨-, rfl⟩
  have flags := same.flags
  rw [committed.flags, committed'.flags] at flags
  exact absurd flags (by decide)

end BadCpu
