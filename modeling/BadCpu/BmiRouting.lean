import BadCpu.BmiOperations
import BadCpu.EffectiveAddress
import BadCpu.VexDecoding

/-!
# The operands of BMI instructions

ANDN takes its inverted operand from the register in VEX.vvvv, and BLSR, BLSMSK
and BLSI write to that register.  The handler does not know VEX.vvvv: it inverts
the ModRM operand of ANDN, and it emulates all three others as BLSI with the
ModRM register as destination.  The contexts in which this goes unnoticed are
listed exactly.
-/

namespace BadCpu

open BitKernels

/-! ## The instructions -/

/-- The instructions of BMI1 with the opcodes F2 and F3. -/
inductive BmiInstruction where
  | andn
  | blsr
  | blsmsk
  | blsi
  deriving DecidableEq, Repr

namespace BmiInstruction

def opcode : BmiInstruction → Byte
  | .andn => 0xF2#8
  | .blsr | .blsmsk | .blsi => 0xF3#8

/-- The ModRM field which distinguishes the instructions of one opcode. -/
def extension : BmiInstruction → Option Byte
  | .andn => none
  | .blsr => some 1#8
  | .blsmsk => some 2#8
  | .blsi => some 3#8

/-- The result for the register in VEX.vvvv and the ModRM operand. -/
def result {width : ℕ} (named source : BitVec width) :
    BmiInstruction → BitVec width
  | .andn => ~~~named &&& source
  | .blsr => source &&& (source - 1#(width))
  | .blsmsk => source ^^^ (source - 1#(width))
  | .blsi => source &&& -source

end BmiInstruction

/-- A valid encoding with a register operand. -/
structure BmiEncoding where
  prefixes : List Byte
  prefixes_legacy : ∀ b ∈ prefixes, isLegacyPrefix b = true
  prefixes_plain : NoImpliedPrefix prefixes
  short : prefixes.length + 5 ≤ 15
  w : BitVec 1
  r : BitVec 1
  x : BitVec 1
  b : BitVec 1
  vvvv : BitVec 4
  instruction : BmiInstruction
  modrm : Byte
  register : (decodeModrm modrm).mod = 3#8
  selected :
    ∀ field ∈ instruction.extension, (decodeModrm modrm).reg = field

namespace BmiEncoding

/-- The head of the encoding: L and pp are clear. -/
def vex (code : BmiEncoding) : VexInstruction where
  prefixes := code.prefixes
  prefixes_legacy := code.prefixes_legacy
  payload := ⟨code.w, code.r, code.x, code.b, code.vvvv, 0#2⟩
  l := 0#1
  map := .map0F38
  op := code.instruction.opcode

def stream (code : BmiEncoding) (tail : Code) : Code :=
  code.vex.stream ([code.modrm] ++ₛ tail)

/-- The number of operand bytes. -/
def length (code : BmiEncoding) : ℕ :=
  if code.w = 1#1 then 8 else 4

/-- The register number in ModRM.reg, extended by the inverted R. -/
def regNumber (code : BmiEncoding) : Byte :=
  (~~~code.r ++ code.modrm.extractLsb' 3 3).setWidth 8

/-- The register number in ModRM.rm, extended by the inverted B. -/
def rmNumber (code : BmiEncoding) : Byte :=
  (~~~code.b ++ code.modrm.extractLsb' 0 3).setWidth 8

/-- The register number in the inverted VEX.vvvv. -/
def vvvvNumber (code : BmiEncoding) : Byte :=
  (~~~code.vvvv).setWidth 8

/-- The register to which the instruction writes. -/
def destination (code : BmiEncoding) : Byte :=
  match code.instruction with
  | .andn => code.regNumber
  | .blsr | .blsmsk | .blsi => code.vvvvNumber

/-- A register at the operand width. -/
def operand (code : BmiEncoding) (gregs : Greg → Word) (number : Byte) :
    BitVec (8 * code.length) :=
  lowBytes code.length (regValue gregs number)

/-- The result of the instruction, zero-extended. -/
def result (code : BmiEncoding) (gregs : Greg → Word) : Word :=
  (code.instruction.result (code.operand gregs code.vvvvNumber)
    (code.operand gregs code.rmNumber)).setWidth 64

end BmiEncoding

/-- A register holds a value, and no other general register has changed. -/
structure RegisterWritten
    (number : Byte) (value : Word) (before after : Greg → Word) : Prop where
  value : regValue after number = value
  others :
    ∀ greg, greg ≠ .efl → greg ≠ .rip → gregOf number ≠ some greg →
      after greg = before greg

/-- The instruction is emulated with its own operands and operation. -/
def BmiRouted
    (code : BmiEncoding) (tail : Code) (features : CpuFeatures)
    (zero : ZeroCounts) (machine : Machine) : Prop :=
  ∃ state,
    emulate zero (code.stream tail) features machine =
        some (.success, state) ∧
      RegisterWritten code.destination (code.result machine.gregs)
        machine.gregs state.machine.gregs

/--
When the operands of the handler make no difference.  For ANDN the bits of the
three registers form a chain.  For the others the destinations coincide and the
operation is BLSI or looks like it, or the lowest set bit and the result are in
their registers beforehand.
-/
def BmiHarmless (code : BmiEncoding) (gregs : Greg → Word) : Prop :=
  let source := code.operand gregs code.rmNumber
  match code.instruction with
  | .andn =>
      ∀ bit < 8 * code.length,
        ((code.operand gregs code.regNumber).getLsbD bit = true →
            source.getLsbD bit = true) ∧
          (source.getLsbD bit = true →
            (code.operand gregs code.vvvvNumber).getLsbD bit = true)
  | instruction =>
      if code.vvvvNumber = code.regNumber then
        instruction = .blsi ∨
          instruction = .blsr ∧ source = 0#(8 * code.length) ∨
          instruction = .blsmsk ∧ source.getLsbD 0 = true
      else
        regValue gregs code.regNumber = (isolate source).setWidth 64 ∧
          regValue gregs code.vvvvNumber = code.result gregs

/-! ## The decoded operands -/

/-- A bit in front of a ModRM field is an extension of the field. -/
theorem field_extended (bit : BitVec 1) (modrm : Byte) :
    (decodeModrm modrm).reg ||| (bit.setWidth 8 <<< 3) =
        (bit ++ modrm.extractLsb' 3 3).setWidth 8 ∧
      (decodeModrm modrm).rm ||| (bit.setWidth 8 <<< 3) =
        (bit ++ modrm.extractLsb' 0 3).setWidth 8 := by
  decide +revert +kernel

/-- The extension bits of a VEX payload as bits of `rex`. -/
theorem rexNibble_bits (payload : VexPayload) :
    (payload.rexNibble.setWidth 8 >>> 2) &&& 1#8 =
        (~~~payload.r).setWidth 8 ∧
      (payload.rexNibble.setWidth 8 >>> 0) &&& 1#8 =
        (~~~payload.b).setWidth 8 ∧
      (payload.rexNibble.setWidth 8 &&& 0x08#8 != 0#8) =
        (payload.w == 1#1) := by
  rcases payload with ⟨w, r, x, b, vvvv, pp⟩
  simp only [VexPayload.rexNibble]
  decide +revert +kernel

/-- The decoder extends the ModRM fields by the inverted payload bits. -/
theorem extendField_rexNibble (payload : VexPayload) (modrm : Byte) :
    extendField (decodeModrm modrm).reg (payload.rexNibble.setWidth 8) 2 =
        (~~~payload.r ++ modrm.extractLsb' 3 3).setWidth 8 ∧
      extendField (decodeModrm modrm).rm (payload.rexNibble.setWidth 8) 0 =
        (~~~payload.b ++ modrm.extractLsb' 0 3).setWidth 8 := by
  rcases rexNibble_bits payload with ⟨regBit, rmBit, -⟩
  rw [extendField, extendField, regBit, rmBit]
  exact ⟨(field_extended _ modrm).1, (field_extended _ modrm).2⟩

namespace BmiEncoding

variable (code : BmiEncoding) (tail : Code)

theorem fits : code.vex.encode.length ≤ 15 := by
  have short := code.short
  have length : code.vex.encode.length = code.prefixes.length + 4 :=
    code.vex.encode_length
  omega

theorem opcode_stream :
    opcodeForm (code.stream tail) = .vex3 ∧
      opcodeMap (code.stream tail) = .map0F38 ∧
      opcodeByte (code.stream tail) = code.instruction.opcode ∧
      modrmIndex (code.stream tail) = code.vex.encode.length := by
  have form := code.vex.opcodeForm_stream ([code.modrm] ++ₛ tail) code.fits
  exact ⟨form, code.vex.opcode_stream ([code.modrm] ++ₛ tail) code.fits⟩

theorem selectedHandler_stream (features : CpuFeatures) :
    selectedHandler (code.stream tail) features =
      some (.bmi code.instruction.opcode) := by
  rcases code.opcode_stream tail with ⟨form, map, op, -⟩
  rw [selectedHandler_eq_some_iff, map, op, form]
  refine ⟨rfl, rfl, ?_, rfl⟩
  cases code.instruction <;> rfl

theorem modrmPresent_stream : modrmPresent (code.stream tail) = true := by
  rcases code.opcode_stream tail with ⟨-, map, -, index⟩
  have short := code.short
  have length : code.vex.encode.length = code.prefixes.length + 4 :=
    code.vex.encode_length
  have room : modrmIndex (code.stream tail) < 15 := by omega
  rw [modrmPresent, map]
  simpa [OpcodeMap.takesModrm] using room

/-- The decoder finds the ModRM registers, but not the one in VEX.vvvv. -/
theorem decode_registers :
    let inst := decodeInstruction (code.stream tail)
    inst.modrm = code.modrm ∧ inst.reg = code.regNumber ∧
      inst.rm = code.rmNumber := by
  have byte : (code.stream tail).get (modrmIndex (code.stream tail)) =
      code.modrm :=
    code.vex.get_tail ([code.modrm] ++ₛ tail) code.fits 0
  rcases decode_operands (code.modrmPresent_stream tail) with
    ⟨-, modrm, reg, rm, -⟩
  have rex : (decodeInstruction (code.stream tail)).rex =
      code.vex.payload.rexNibble.setWidth 8 :=
    (decode_payload code.prefixes_plain code.fits _).1
  rcases extendField_rexNibble code.vex.payload code.modrm with
    ⟨regField, rmField⟩
  rw [byte] at modrm reg rm
  rw [rex] at reg rm
  exact ⟨modrm, reg.trans regField, rm.trans rmField⟩

theorem bmiLength_stream :
    bmiLength (decodeInstruction (code.stream tail)) = code.length := by
  have payload := decode_payload code.prefixes_plain code.fits
    ([code.modrm] ++ₛ tail)
  rcases payload with ⟨rex, has66, -⟩
  have narrow :
      (decodeInstruction (code.stream tail)).has66 = false := by
    rw [Bool.eq_false_iff, ne_eq]
    intro set
    exact absurd (has66.mp set) (by decide : ¬ 0#2 = 1#2)
  have wide :
      is64Bit (decodeInstruction (code.stream tail)) = (code.w == 1#1) := by
    change (decodeInstruction (code.stream tail)).rex = _ at rex
    rw [is64Bit, rex, narrow, (rexNibble_bits code.vex.payload).2.2]
    exact Bool.and_true _
  rw [bmiLength, wide, length]
  simp

end BmiEncoding

/-! ## One register written -/

/-- Registers are numbered in the order of their declaration. -/
theorem toNat_of_gregOf
    {number : Byte} {p : Greg} (valid : gregOf number = some p) :
    number.toNat = p.ctorIdx := by
  decide +revert +kernel

/-- Register numbers are different names. -/
theorem gregOf_injective
    {number number' : Byte} {p : Greg} (valid : gregOf number = some p)
    (valid' : gregOf number' = some p) :
    number = number' := by
  apply BitVec.eq_of_toNat_eq
  rw [toNat_of_gregOf valid, toNat_of_gregOf valid']

namespace RegisterWritten

variable {number number' : Byte} {value value' : Word}
  {before after : Greg → Word}

/-- The register which was written holds one value. -/
theorem same_iff (written : RegisterWritten number value before after) :
    RegisterWritten number value' before after ↔ value = value' := by
  constructor
  · intro written'
    exact written.value.symm.trans written'.value
  · rintro rfl
    exact written

/--
Another register was written only if both registers already held their values.
-/
theorem other_iff (written : RegisterWritten number value before after)
    (bound : number ≤ 15#8) (bound' : number' ≤ 15#8)
    (other : number' ≠ number) :
    RegisterWritten number' value' before after ↔
      regValue before number = value ∧ regValue before number' = value' := by
  rcases exists_gregOf bound with ⟨p, valid⟩
  rcases exists_gregOf bound' with ⟨p', valid'⟩
  rcases gregOf_general valid with ⟨notEfl, notRip⟩
  rcases gregOf_general valid' with ⟨notEfl', notRip'⟩
  have apart : gregOf number ≠ some p' := by
    intro equal
    exact other (gregOf_injective valid' equal)
  have apart' : gregOf number' ≠ some p := by
    intro equal
    exact other (gregOf_injective equal valid)
  have unchanged := written.others p' notEfl' notRip' apart
  have stored := written.value
  simp only [regValue, valid] at stored
  simp only [regValue, valid, valid']
  constructor
  · intro written'
    have kept := written'.others p notEfl notRip apart'
    have result := written'.value
    simp only [regValue, valid'] at result
    exact ⟨kept.symm.trans stored, unchanged.symm.trans result⟩
  · rintro ⟨held, held'⟩
    constructor
    · simp only [regValue, valid']
      exact unchanged.trans held'
    · intro greg greg_efl greg_rip elsewhere
      by_cases here : greg = p
      · rw [here, stored, held]
      · apply written.others greg greg_efl greg_rip
        intro equal
        exact here (Option.some.inj (equal.symm.trans valid))

end RegisterWritten

/-! ## The effect of the handler -/

namespace BmiEncoding

variable (code : BmiEncoding)

theorem regNumber_le : code.regNumber ≤ 15#8 := by
  rw [regNumber]
  generalize ~~~code.r ++ code.modrm.extractLsb' 3 3 = number
  decide +revert

theorem vvvvNumber_le : code.vvvvNumber ≤ 15#8 := by
  rw [vvvvNumber]
  generalize ~~~code.vvvv = number
  decide +revert

theorem width_le : 8 * code.length ≤ 64 := by
  rw [length]
  split_ifs <;> decide

theorem width_pos : 0 < 8 * code.length := by
  rw [length]
  split_ifs <;> decide

/-- The value which the handler writes to the ModRM register. -/
def handlerValue (gregs : Greg → Word) : Word :=
  (bmiAt code.instruction.opcode (code.operand gregs code.regNumber)
    (code.operand gregs code.rmNumber)).setWidth 64

theorem emulate_stream (tail : Code) (features : CpuFeatures)
    (zero : ZeroCounts) (machine : Machine) :
    ∃ state,
      emulate zero (code.stream tail) features machine =
          some (.success, state) ∧
        RegisterWritten code.regNumber (code.handlerValue machine.gregs)
          machine.gregs state.machine.gregs := by
  rcases emulate_committed zero machine
      (code.selectedHandler_stream tail features) with
    ⟨state, run, committed⟩
  rcases code.decode_registers tail with ⟨modrm, reg, rm⟩
  have supported : isBmiOpcode code.instruction.opcode = true := by
    cases code.instruction <;> rfl
  have register :
      (decodeModrm (decodeInstruction (code.stream tail)).modrm).mod =
        3#8 := by
    rw [modrm, code.register]
  refine ⟨state, run, ?_⟩
  constructor
  · have destination := committed.destination
    rw [bmiValue_eq zero _ machine supported, rmValue_register register, reg,
      rm, code.bmiLength_stream tail] at destination
    exact destination
  · intro greg notEfl notRip elsewhere
    rw [← reg] at elsewhere
    exact committed.general greg notEfl notRip elsewhere

theorem bmiRouted_iff_written (tail : Code) (features : CpuFeatures)
    (zero : ZeroCounts) (machine : Machine) :
    BmiRouted code tail features zero machine ↔
      if code.destination = code.regNumber then
        code.handlerValue machine.gregs = code.result machine.gregs
      else
        regValue machine.gregs code.regNumber =
            code.handlerValue machine.gregs ∧
          regValue machine.gregs code.destination =
            code.result machine.gregs := by
  rcases code.emulate_stream tail features zero machine with
    ⟨state, run, written⟩
  have bound : code.destination ≤ 15#8 := by
    rw [destination]
    cases code.instruction with
    | andn => exact code.regNumber_le
    | blsr | blsmsk | blsi => exact code.vvvvNumber_le
  rw [BmiRouted, exists_success_iff run]
  split_ifs with same
  · rw [same]
    exact written.same_iff
  · exact written.other_iff code.regNumber_le bound same

/-- ANDN inverts the wrong operand. -/
theorem andn_result_iff (andn : code.instruction = .andn)
    (gregs : Greg → Word) :
    code.handlerValue gregs = code.result gregs ↔
      ∀ bit < 8 * code.length,
        ((code.operand gregs code.regNumber).getLsbD bit = true →
            (code.operand gregs code.rmNumber).getLsbD bit = true) ∧
          ((code.operand gregs code.rmNumber).getLsbD bit = true →
            (code.operand gregs code.vvvvNumber).getLsbD bit = true) := by
  rw [handlerValue, result, andn, setWidth_eq_iff code.width_le]
  exact and_not_eq_not_and_iff _ _ _

/-- The other instructions are all computed as BLSI. -/
theorem handlerValue_isolate (other : code.instruction ≠ .andn)
    (gregs : Greg → Word) :
    code.handlerValue gregs =
      (isolate (code.operand gregs code.rmNumber)).setWidth 64 := by
  rw [handlerValue]
  cases instruction : code.instruction with
  | andn => exact absurd instruction other
  | blsr | blsmsk | blsi => rfl

theorem isolate_result_iff (other : code.instruction ≠ .andn)
    (gregs : Greg → Word) :
    code.handlerValue gregs = code.result gregs ↔
      code.instruction = .blsi ∨
        code.instruction = .blsr ∧
          code.operand gregs code.rmNumber = 0#(8 * code.length) ∨
        code.instruction = .blsmsk ∧
          (code.operand gregs code.rmNumber).getLsbD 0 = true := by
  rw [code.handlerValue_isolate other, result, setWidth_eq_iff code.width_le]
  cases instruction : code.instruction with
  | andn => exact absurd instruction other
  | blsr =>
      change isolate _ = clear _ ↔ _
      rw [isolate_eq_clear_iff]
      simp
  | blsmsk =>
      change isolate _ = maskThrough _ ↔ _
      rw [isolate_eq_maskThrough_iff _ code.width_pos]
      simp
  | blsi =>
      change isolate _ = isolate _ ↔ _
      simp

end BmiEncoding

/--
A register form of BMI1 is emulated with its own operands and operation exactly
when the handler's operands make no difference.
-/
theorem bmiRouted_iff
    (code : BmiEncoding) (tail : Code) (features : CpuFeatures)
    (zero : ZeroCounts) (machine : Machine) :
    BmiRouted code tail features zero machine ↔
      BmiHarmless code machine.gregs := by
  rw [code.bmiRouted_iff_written, BmiHarmless, BmiEncoding.destination]
  cases instruction : code.instruction with
  | andn =>
      rw [if_pos rfl]
      exact code.andn_result_iff instruction machine.gregs
  | blsr | blsmsk | blsi =>
      have other : code.instruction ≠ .andn := by
        rw [instruction]
        decide
      have result := code.isolate_result_iff other machine.gregs
      have value := code.handlerValue_isolate other machine.gregs
      rw [instruction] at result
      dsimp only
      by_cases same : code.vvvvNumber = code.regNumber
      · rw [if_pos same, if_pos same]
        exact result
      · rw [if_neg same, if_neg same, value]

/-- `blsi ebx, ecx` happens to name the register of its ModRM field. -/
theorem bmiRouted_blsi :
    BmiRouted
      { prefixes := []
        prefixes_legacy := by simp
        prefixes_plain := by decide
        short := by decide
        w := 0#1
        r := 1#1
        x := 1#1
        b := 1#1
        vvvv := 12#4
        instruction := .blsi
        modrm := 0xD9#8
        register := by decide
        selected := by decide }
      (Stream'.const 0x90#8) {} default
      ⟨fun _ => 6#64, fun _ => 0#8⟩ := by
  refine (bmiRouted_iff _ _ _ _ _).mpr ?_
  simp only [BmiHarmless]
  rw [if_pos (by decide)]
  exact .inl trivial

/-- `andn eax, ecx, edx` inverts `edx` instead of `ecx`. -/
theorem bmiMisrouted_andn :
    ¬ BmiRouted
      { prefixes := []
        prefixes_legacy := by simp
        prefixes_plain := by decide
        short := by decide
        w := 0#1
        r := 1#1
        x := 1#1
        b := 1#1
        vvvv := 14#4
        instruction := .andn
        modrm := 0xC2#8
        register := by decide
        selected := by decide }
      (Stream'.const 0x90#8) {} default
      ⟨fun greg => if greg = .rdx then 1#64 else 0#64, fun _ => 0#8⟩ := by
  rw [BmiEncoding.bmiRouted_iff_written]
  decide

end BadCpu
