import BadCpu.MandatoryPrefixes
import BadCpu.HeaderEncoding
import BadCpu.OperandWidth

/-!
# REX.W and the operand-size prefix

An operand of an instruction with REX.W has 64 bits, and a prefix 66 in front
of it has no effect.  The decoder and every handler let 66 take precedence
instead: they work on 16 bits as soon as it is inserted.
-/

namespace BadCpu

/-! ## Inserting the prefix -/

/-- A legacy instruction with REX.W and room for one more recorded prefix. -/
structure WideInstruction where
  before : List Byte
  after : List Byte
  legacy : ∀ b ∈ before ++ after, isLegacyPrefix b = true
  few : (before ++ after).length < 4
  rex : Byte
  rex_pattern : isRex rex = true
  wide : rex &&& 0x08#8 ≠ 0#8
  rest : Code
  notVex : rest.get 0 ≠ 0xC4#8 ∧ rest.get 0 ≠ 0xC5#8

namespace WideInstruction

def stream (code : WideInstruction) : Code :=
  (code.before ++ code.after ++ [code.rex]) ++ₛ code.rest

/-- The stream with a prefix 66 between its prefixes. -/
def inserted (code : WideInstruction) : Code :=
  (code.before ++ 0x66#8 :: code.after ++ [code.rex]) ++ₛ code.rest

end WideInstruction

/-- Two outcomes which differ in one more byte of the instruction pointer. -/
structure SameResult (after after' : EmuState) : Prop where
  memory : after'.machine.memory = after.machine.memory
  rip : after'.machine.gregs .rip = after.machine.gregs .rip + 1#64
  others :
    ∀ greg, greg ≠ .rip →
      after'.machine.gregs greg = after.machine.gregs greg

/-- Inserting 66 keeps the operand size and the result of an emulation. -/
structure OverrideKept
    (code : WideInstruction) (features : CpuFeatures) (zero : ZeroCounts)
    (machine : Machine) : Prop where
  operandSize : (decodeInstruction code.inserted).operandSize = 64
  emulated :
    ∀ after,
      emulate zero code.stream features machine = some (.success, after) →
        ∃ after',
          emulate zero code.inserted features machine =
              some (.success, after') ∧
            SameResult after after'

/-! ## The inserted prefix takes precedence -/

namespace WideInstruction

/-- The inserted prefix belongs to the header of the stream. -/
theorem isHeader_inserted (code : WideInstruction) :
    IsHeader (code.before ++ 0x66#8 :: code.after) (some code.rex)
      code.rest := by
  have few := code.few
  rw [List.length_append] at few
  have legacy : ∀ b ∈ code.before ++ 0x66#8 :: code.after,
      isLegacyPrefix b = true := by
    intro b member
    rw [List.mem_append, List.mem_cons] at member
    rcases member with old | rfl | old
    · exact code.legacy b (List.mem_append_left _ old)
    · decide
    · exact code.legacy b (List.mem_append_right _ old)
  have short : (code.before ++ 0x66#8 :: code.after).length < 15 := by
    simp
    omega
  exact IsHeader.ofRex legacy code.rex_pattern short code.rest

/-- Every prefix of the longer header is recorded. -/
theorem recorded_inserted (code : WideInstruction) :
    0x66#8 ∈ recordedPrefixes code.inserted := by
  have few := code.few
  rw [List.length_append] at few
  have run :
      legacyPrefixes code.inserted = code.before ++ 0x66#8 :: code.after :=
    code.isHeader_inserted.decoded.1
  have short : (code.before ++ 0x66#8 :: code.after).length ≤ 4 := by
    simp
    omega
  rw [recordedPrefixes, run, List.take_of_length_le short]
  simp

/-- No VEX prefix follows the REX byte. -/
theorem opcodeForm_inserted (code : WideInstruction) :
    (opcodeForm code.inserted).isVex = false := by
  have byte (offset : ℕ) :
      headerByte code.inserted offset = code.rest.get offset :=
    code.isHeader_inserted.headerByte_eq offset
  rw [opcodeForm, byte, if_neg code.notVex.1, if_neg code.notVex.2]
  split_ifs <;> rfl

theorem has66_inserted (code : WideInstruction) :
    (decodeInstruction code.inserted).has66 = true :=
  (decode_flags code.opcodeForm_inserted).1.mpr code.recorded_inserted

/-- The decoder and the handlers work on two bytes. -/
theorem operandSize_inserted (code : WideInstruction) :
    (decodeInstruction code.inserted).operandSize = 16 := by
  rcases width_cases (decodeInstruction code.inserted) with
    ⟨-, clear, -⟩ | ⟨-, -, bytes⟩ | ⟨-, clear, -⟩
  · exact absurd (clear.symm.trans code.has66_inserted) (by decide)
  · rw [decode_operandSize, bytes]
  · exact absurd (clear.symm.trans code.has66_inserted) (by decide)

end WideInstruction

/-- REX.W never overrides an inserted prefix. -/
theorem not_overrideKept
    (code : WideInstruction) (features : CpuFeatures) (zero : ZeroCounts)
    (machine : Machine) :
    ¬ OverrideKept code features zero machine := by
  intro kept
  have size := kept.operandSize
  rw [code.operandSize_inserted] at size
  exact absurd size (by decide)

/-- Behind 66, `popcnt rax, rcx` does not see the highest bit of `rcx`. -/
theorem overrideLost_popcnt :
    ¬ OverrideKept
      { before := []
        after := [0xF3#8]
        legacy := by decide
        few := by decide
        rex := 0x48#8
        rex_pattern := by decide
        wide := by decide
        rest := codeOfBytes [0x0F#8, 0xB8#8, 0xC1#8]
        notVex := by decide }
      {} default
      ⟨fun _ => 0x8000000000000000#64, fun _ => 0#8⟩ := by
  intro kept
  have wide :
      (emulate default
            (codeOfBytes [0xF3#8, 0x48#8, 0x0F#8, 0xB8#8, 0xC1#8]) {}
            ⟨fun _ => 0x8000000000000000#64, fun _ => 0#8⟩).map
          (fun outcome => outcome.2.machine.gregs .rax) =
        some 1#64 := by
    decide
  have narrow :
      (emulate default
            (codeOfBytes [0x66#8, 0xF3#8, 0x48#8, 0x0F#8, 0xB8#8, 0xC1#8]) {}
            ⟨fun _ => 0x8000000000000000#64, fun _ => 0#8⟩).map
          (fun outcome => outcome.2.machine.gregs .rax) =
        some 0#64 := by
    decide
  have selected :
      selectedHandler
          (codeOfBytes [0xF3#8, 0x48#8, 0x0F#8, 0xB8#8, 0xC1#8]) {} =
        some .popcnt := by
    decide
  rcases emulate_committed default
      ⟨fun _ => 0x8000000000000000#64, fun _ => 0#8⟩ selected with
    ⟨after, run, -⟩
  rcases kept.emulated after run with ⟨after', run', same⟩
  have one : after.machine.gregs .rax = 1#64 := by
    rw [run] at wide
    exact Option.some.inj wide
  have zero : after'.machine.gregs .rax = 0#64 :=
    Option.some.inj ((congrArg (Option.map _) run').symm.trans narrow)
  rw [same.others .rax (by decide), one] at zero
  exact absurd zero (by decide)

end BadCpu
