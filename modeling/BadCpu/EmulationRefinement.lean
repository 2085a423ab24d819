import BadCpu.EmulationExactness
import BadCpu.TrapAndEmulate

/-!
# Emulation refines the architecture

A CPU which lacks the emulated instructions, together with the handler, against
a CPU which has them.  As long as the program keeps to operands which the
handlers get right, every run of the first is a run of the second, whatever the
other instructions do.
-/

namespace BadCpu

open BitKernels ByteMemory TrapAndEmulate
open SharedCell (Run)

/-! ## Operands which the handlers get right -/

/-- The emulated address is the architectural one. -/
def AddressHarmless (inst : DecodedInstruction) (gregs : Greg → Word) : Prop :=
  if IsRipRelative inst then RipHarmless inst gregs
  else (decodeModrm inst.modrm).rm ≠ 4#8 ∨ rexB inst = 0#8

/-- A counting instruction on a register. -/
def CountHarmless (isLzcnt : Bool) (ip : Code) (machine : Machine) : Prop :=
  let source := regValue machine.gregs (decodeInstruction ip).rm
  (decodeModrm (decodeInstruction ip).modrm).mod = 3#8 ∧
    lowBytes (archLength ip) source ≠ 0#(8 * archLength ip) ∧
    ¬ StartsWithSetBit isLzcnt (archLength ip) source ∧
    (archLength ip = 2 →
      ClearFrom 16 (regValue machine.gregs (decodeInstruction ip).reg))

namespace ArchInstruction

/-- The operands with which an instruction is emulated as it is meant. -/
def Harmless (ip : Code) (machine : Machine) : ArchInstruction → Prop
  | .popcnt =>
      (decodeModrm (decodeInstruction ip).modrm).mod = 3#8 ∧
        (archLength ip = 2 →
          ClearFrom 16 (regValue machine.gregs (decodeInstruction ip).reg))
  | .lzcnt => CountHarmless true ip machine
  | .tzcnt => CountHarmless false ip machine
  | .movbe =>
      AddressHarmless (decodeInstruction ip) machine.gregs ∧
        (archLength ip = 2 →
          UpperHalfZero (regValue machine.gregs (decodeInstruction ip).reg))

end ArchInstruction

/-- A store which would change nothing. -/
def StoreHarmless (ip : Code) (machine : Machine) : Prop :=
  AddressHarmless (decodeInstruction ip) machine.gregs ∧
    load machine.memory (archAddress (decodeInstruction ip) machine.gregs)
        (archLength ip) =
      byteSwap (archLength ip)
        (lowBytes (archLength ip)
          (regValue machine.gregs (decodeInstruction ip).reg)) ∧
    (archLength ip = 8 ∨
      UpperHalfZero (regValue machine.gregs (decodeInstruction ip).reg))

/-- The instruction at the instruction pointer is emulated as it is meant. -/
inductive Harmless (features : CpuFeatures) (machine : Machine) : Prop
  | compute (instruction : ArchInstruction) :
      instruction.Encoded machine.code →
        instruction.Harmless machine.code machine →
          (instruction = .popcnt → features.hasPopcnt = false) →
            Harmless features machine
  | store :
      Encodes machine.code .movbe → opcodeByte machine.code = 0xF1#8 →
        StoreHarmless machine.code machine → Harmless features machine

/-- A legacy instruction with harmless prefixes and operands. -/
structure FaithfulLegacy (features : CpuFeatures) (machine : Machine) : Prop
    extends LegacyDecoded machine.code where
  harmless : Harmless features machine

namespace BmiEncoding

/-- The handler writes the right register, or both registers are in place. -/
def Placed (code : BmiEncoding) (gregs : Greg → Word) : Prop :=
  code.vvvvNumber = code.regNumber ∨
    regValue gregs code.regNumber = code.result gregs ∧
      regValue gregs code.vvvvNumber = code.result gregs

/-- The operands with which neither the operands nor the carry are missed. -/
def Harmless (code : BmiEncoding) (gregs : Greg → Word) : Prop :=
  let source := code.operand gregs code.rmNumber
  match code.instruction with
  | .andn =>
      ∀ bit < 8 * code.length,
        ((code.operand gregs code.regNumber).getLsbD bit = true →
            source.getLsbD bit = true) ∧
          (source.getLsbD bit = true →
            (code.operand gregs code.vvvvNumber).getLsbD bit = true)
  | .blsi => source = 0#(8 * code.length) ∧ code.Placed gregs
  | .blsmsk => source.getLsbD 0 = true ∧ code.Placed gregs
  -- BLSI instead of BLSR is right for zero only, and then the carry is not.
  | .blsr => False

end BmiEncoding

/-- An instruction which the CPU lacks, and which is emulated as it is meant. -/
inductive FaithfulFault (features : CpuFeatures) (machine : Machine) : Prop
  | legacy : FaithfulLegacy features machine → FaithfulFault features machine
  | bmi (code : BmiEncoding) (tail : Code) :
      machine.code = code.stream tail → code.Harmless machine.gregs →
        FaithfulFault features machine

/-! ## Addresses -/

/-- A field which is neither four nor five does not become so by REX.B. -/
theorem rm_ne_of_field_ne
    {ip : Code} (present : modrmPresent ip = true) {field : Byte}
    (special : field = 4#8 ∨ field = 5#8)
    (other : (decodeModrm (decodeInstruction ip).modrm).rm ≠ field) :
    (decodeInstruction ip).rm ≠ field := by
  rcases decode_operands present with ⟨-, modrm, -, rm, -⟩
  rw [← modrm] at rm
  rw [rm]
  rcases rexBit_cases (decodeInstruction ip).rex 0 with clear | set
  · rw [extendField_clear clear]
    exact other
  · rw [extendField_set set]
    generalize (decodeInstruction ip).modrm = byte
    revert byte
    rcases special with rfl | rfl
    · decide +kernel
    · decide +kernel

/-- Without REX.B in front of a SIB byte the address is the architectural one. -/
theorem rmValue_eq_archAddress
    {ip : Code} (decoded : ArchDecoded ip)
    (memory : (decodeModrm (decodeInstruction ip).modrm).mod ≠ 3#8)
    {gregs : Greg → Word}
    (harmless : AddressHarmless (decodeInstruction ip) gregs) :
    rmValue (decodeInstruction ip) gregs =
      archAddress (decodeInstruction ip) gregs := by
  rw [AddressHarmless] at harmless
  rw [archAddress]
  split_ifs at harmless ⊢ with relative
  · have operand : RipRelativeOperand ip :=
      { complete := decoded.complete
        noBase := relative.1
        field := relative.2
        addressSize := decoded.addressSize
        segment := decoded.segment }
    rw [rmValue_ripRelative operand]
    rw [RipHarmless] at harmless
    split_ifs at harmless ⊢ with clear
    · rw [ripRelativeAddress, harmless, BitVec.zero_add]
    · exact harmless
  · have plain : PlainMemoryOperand ip :=
      { complete := decoded.complete
        memory := memory
        addressSize := decoded.addressSize
        segment := decoded.segment
        notRipRelative := relative }
    rw [rmValue_plain plain]
    by_cases field : (decodeModrm (decodeInstruction ip).modrm).rm = 4#8
    · have clear := harmless.resolve_left (not_not.mpr field)
      rw [addressBaseValue_sib plain gregs field clear,
        effectiveAddress_sib plain gregs field]
    · have present := modrmPresent_of_plain plain
      have notSib := rm_ne_of_field_ne present (.inl rfl) field
      have notFive
          (mod0 : (decodeModrm (decodeInstruction ip).modrm).mod = 0#8) :
          (decodeInstruction ip).rm ≠ 5#8 :=
        rm_ne_of_field_ne present (.inr rfl) fun five =>
          relative ⟨mod0, five⟩
      rw [addressBaseValue_register gregs notSib notFive,
        effectiveAddress_register plain gregs field]

/-! ## Harmless operands are exact -/

/-- In the register form the handlers take the source which is meant. -/
theorem lowBytes_rmValue_register
    {ip : Code} (register : (decodeModrm (decodeInstruction ip).modrm).mod = 3#8)
    (machine : Machine) (n : ℕ) :
    lowBytes n (rmValue (decodeInstruction ip) machine.gregs) =
      archSource (decodeInstruction ip) machine n := by
  rw [rmValue_register register, archSource, if_pos register]

section Exact

variable {ip : Code} {machine : Machine}

theorem CountHarmless.toExact
    (isLzcnt : Bool) (harmless : CountHarmless isLzcnt ip machine) :
    (zeroInstruction isLzcnt).Exact ip machine := by
  rcases harmless with ⟨register, nonzero, notStart, clear⟩
  have source := handlerSource_zeroInstruction isLzcnt ip machine
  have same := lowBytes_rmValue_register register machine (archLength ip)
  constructor
  case result => rw [source, same]
  case counted =>
    intro _
    rw [source, rmValue_register register]
    refine ⟨nonzero, fun none => notStart ?_⟩
    rw [← zeroBits_eq_zero_iff isLzcnt nonzero,
      ← toNat_result_zeroInstruction, none]
    rfl
  case cleared =>
    rw [clearedFrom_zeroInstruction]
    exact clear

theorem ArchInstruction.Harmless.toExact
    {instruction : ArchInstruction} (decoded : ArchDecoded ip)
    (encoded : instruction.Encoded ip)
    (harmless : instruction.Harmless ip machine) :
    instruction.Exact ip machine := by
  cases instruction with
  | popcnt =>
      rcases harmless with ⟨register, clear⟩
      exact
        { result :=
            congrArg BitVec.cpop (lowBytes_rmValue_register register _ _)
          counted := False.elim
          cleared := clear }
  | lzcnt => exact CountHarmless.toExact true harmless
  | tzcnt => exact CountHarmless.toExact false harmless
  | movbe =>
      rcases harmless with ⟨address, clear⟩
      have memory := movbe_memory encoded.1
      constructor
      case result =>
        rw [handlerSource, rmValue_eq_archAddress decoded memory address,
          archSource, if_neg memory]
      case counted => exact False.elim
      case cleared => exact clear

theorem StoreHarmless.toExact
    (decoded : ArchDecoded ip) (encoded : Encodes ip .movbe)
    (harmless : StoreHarmless ip machine) :
    StoreExact ip machine := by
  rcases harmless with ⟨address, stored, clear⟩
  exact
    { stored := stored
      loaded := by
        rw [rmValue_eq_archAddress decoded (movbe_memory encoded) address]
        exact stored
      cleared := clear }

end Exact

namespace FaithfulLegacy

variable {features : CpuFeatures} {machine : Machine}
  (faithful : FaithfulLegacy features machine)

include faithful

theorem lacking : Lacking features machine.code := by
  rcases faithful.harmless with
    ⟨instruction, encoded, -, lacking⟩ | ⟨encoded, stores, -⟩
  · exact .compute instruction encoded lacking
  · exact .store encoded stores

theorem toExact : EmulatedExactly machine := by
  have decoded := faithful.decoded
  rcases faithful.harmless with
    ⟨instruction, encoded, harmless, -⟩ | ⟨encoded, stores, harmless⟩
  · exact .compute instruction encoded (harmless.toExact decoded encoded)
  · exact .store encoded stores (harmless.toExact decoded encoded)

end FaithfulLegacy

/-! ### BMI1 -/

/-- The flags of a BMI instruction, for a result at its width. -/
theorem bmiFlags_status_of_length
    {inst : DecodedInstruction} {n : ℕ} (length : bmiLength inst = n)
    (flags : Word) (y : BitVec (8 * n)) :
    BmiStatus false y flags (bmiFlags inst flags (y.setWidth 64)) := by
  subst length
  exact bmiFlags_status inst flags y

namespace BmiEncoding

variable {code : BmiEncoding} {tail : Code} {zero : ZeroCounts}
  {machine : Machine} {after : EmuState}

/-- The value which the handler writes into the ModRM register. -/
theorem handler_value (code : BmiEncoding) (tail : Code) (zero : ZeroCounts)
    (machine : Machine) :
    (Handler.bmi code.instruction.opcode).value zero
        (decodeInstruction (code.stream tail)) machine =
      code.handlerValue machine.gregs := by
  rcases code.decode_registers tail with ⟨modrm, reg, rm⟩
  have supported : isBmiOpcode code.instruction.opcode = true := by
    cases code.instruction <;> rfl
  have register :
      (decodeModrm (decodeInstruction (code.stream tail)).modrm).mod =
        3#8 := by
    rw [modrm, code.register]
  rw [bmiValue_eq zero _ machine supported, rmValue_register register, reg,
    rm, code.bmiLength_stream tail]
  rfl

/-- With harmless operands the result is the right one. -/
theorem handlerValue_eq_result
    {gregs : Greg → Word} (harmless : code.Harmless gregs) :
    code.handlerValue gregs = code.result gregs := by
  rw [Harmless] at harmless
  cases instruction : code.instruction with
  | andn =>
      rw [instruction] at harmless
      exact (code.andn_result_iff instruction gregs).mpr harmless
  | blsr =>
      rw [instruction] at harmless
      exact absurd harmless not_false
  | blsi =>
      rw [instruction] at harmless
      refine (code.isolate_result_iff ?_ gregs).mpr (.inl instruction)
      rw [instruction]
      decide
  | blsmsk =>
      rw [instruction] at harmless
      refine (code.isolate_result_iff ?_ gregs).mpr
        (.inr (.inr ⟨instruction, harmless.1⟩))
      rw [instruction]
      decide

/-- The carry flag is clear, as the handler leaves it. -/
theorem carry_eq_false
    {gregs : Greg → Word} (harmless : code.Harmless gregs) :
    code.instruction.carry (code.operand gregs code.rmNumber) = false := by
  rw [Harmless] at harmless
  cases instruction : code.instruction with
  | andn => rfl
  | blsr =>
      rw [instruction] at harmless
      exact absurd harmless not_false
  | blsi =>
      rw [instruction] at harmless
      rw [BmiInstruction.carry, harmless.1, bne_self_eq_false]
  | blsmsk =>
      rw [instruction] at harmless
      rw [BmiInstruction.carry, beq_eq_false_iff_ne]
      intro empty
      have set := harmless.1
      rw [empty] at set
      simp at set

/-- The right register is written, or it makes no difference. -/
theorem destination_cases
    {gregs : Greg → Word} (harmless : code.Harmless gregs) :
    code.destination = code.regNumber ∨
      regValue gregs code.regNumber = code.result gregs ∧
        regValue gregs code.destination = code.result gregs := by
  rw [Harmless] at harmless
  rw [destination]
  cases instruction : code.instruction with
  | andn => exact .inl rfl
  | blsr =>
      rw [instruction] at harmless
      exact absurd harmless not_false
  | blsi | blsmsk =>
      rw [instruction] at harmless
      exact harmless.2

theorem archBmi_of_committed
    (harmless : code.Harmless machine.gregs)
    (committed :
      Committed zero (decodeInstruction (code.stream tail)) machine
        (.bmi code.instruction.opcode) after) :
    ArchBmi code tail machine after.machine := by
  rcases code.decode_registers tail with ⟨-, reg, -⟩
  have value := code.handler_value tail zero machine
  rw [handlerValue_eq_result harmless] at value
  have written :
      RegisterWritten code.regNumber (code.result machine.gregs)
        machine.gregs after.machine.gregs :=
    { value := by rw [← reg, committed.destination, value]
      others := by
        rw [← reg]
        exact committed.general }
  constructor
  case written =>
    rcases destination_cases harmless with same | ⟨held, held'⟩
    · rw [same]
      exact written
    · by_cases same : code.destination = code.regNumber
      · rw [same]
        exact written
      · have bound : code.destination ≤ 15#8 := by
          rw [destination]
          cases code.instruction with
          | andn => exact code.regNumber_le
          | blsr | blsmsk | blsi => exact code.vvvvNumber_le
        exact (written.other_iff code.regNumber_le bound same).mpr
          ⟨held, held'⟩
  case status =>
    rw [carry_eq_false harmless, committed.flags, Handler.flags, value]
    exact bmiFlags_status_of_length (code.bmiLength_stream tail) _ _
  case rip => exact committed.rip
  case memory => exact committed.memory

end BmiEncoding

/-! ## Faults -/

/-- A fault which the handler takes as it is meant. -/
def HandledFault (features : CpuFeatures) (machine after : Machine) : Prop :=
  FaithfulFault features machine ∧
    ∃ inst, FaultStep features machine inst after

/-- The handler does only what the lacking instruction may do. -/
theorem handledFault_sound (features : CpuFeatures) :
    Sound (HandledFault features) ArchStep := by
  rintro machine after ⟨faithful, inst, step⟩
  rcases faithful with faithful | ⟨code, tail, bytes, harmless⟩
  · exact (archStep_forall_iff faithful.toLegacyDecoded faithful.lacking).mpr
      faithful.toExact inst after step
  · rcases faultStep_iff.mp step with
      ⟨rfl, zero, handler, state, selected, committed, rfl, -⟩
    rw [bytes, code.selectedHandler_stream, Option.some.injEq] at selected
    subst selected
    rw [bytes] at committed
    exact .bmi code tail bytes (code.archBmi_of_committed harmless committed)

/-- A faithful fault is at a recognised instruction. -/
theorem FaithfulFault.accepted
    {features : CpuFeatures} {machine : Machine}
    (faithful : FaithfulFault features machine) :
    (selectedHandler machine.code features).isSome = true := by
  rcases faithful with faithful | ⟨code, tail, bytes, -⟩
  · exact faithful.toLegacyDecoded.accepted faithful.lacking
  · rw [bytes, code.selectedHandler_stream]
    rfl

/-- So it is survived. -/
theorem exists_handledFault
    {features : CpuFeatures} {machine : Machine}
    (faithful : FaithfulFault features machine) :
    ∃ after, HandledFault features machine after := by
  rcases exists_faultStep faithful.accepted with ⟨after, step⟩
  exact ⟨after, faithful, _, step⟩

/-! ## Runs -/

/--
Whatever the other instructions do: a run with the handler is a run of a CPU
which has the instructions, and it does not end at a faithful fault.
-/
theorem emulation_refines
    {features : CpuFeatures} {native : Machine → Machine → Prop}
    {machine after : Machine} {origins : List Origin}
    (run :
      Run (Completed native (HandledFault features)) machine origins after) :
    Run (Completed native ArchStep) machine origins after ∧
      (FaithfulFault features after →
        ∃ next,
          Completed native (HandledFault features) after .lacking next) := by
  refine ⟨run_refines (handledFault_sound features) run, fun faithful => ?_⟩
  rcases exists_handledFault faithful with ⟨next, handled⟩
  exact ⟨next, .lacking handled⟩

/-! ## A run on an old CPU -/

/-- `popcnt eax, ecx`, `nop` and `tzcnt ebx, ecx`, with six in `ecx` -/
def mixedMachine : Machine :=
  codeMachine
    [0xF3#8, 0x0F#8, 0xB8#8, 0xC1#8, 0x90#8, 0xF3#8, 0x0F#8, 0xBC#8, 0xD9#8]
    0#64

/-- NOP moves on by one byte. -/
def NopStep (machine next : Machine) : Prop :=
  machine.code.get 0 = 0x90#8 ∧
    next =
      { machine with
        gregs :=
          Function.update machine.gregs .rip (machine.gregs .rip + 1#64) }

theorem legacyDecoded_mixed :
    ∀ address ∈ [0#64, 5#64],
      LegacyDecoded (fetch mixedMachine.memory address) := by
  intro address member
  simp only [List.mem_cons, List.not_mem_nil, or_false] at member
  rcases member with rfl | rfl
  all_goals
    exact
      { decoded :=
          { complete := ⟨by decide, by decide⟩
            within := by decide
            addressSize := by decide
            segment := by decide }
        recorded := by decide
        size := by decide }

section Mixed

variable {features : CpuFeatures}

/-- POPCNT is faithful on a CPU without it. -/
theorem faithfulFault_popcnt (lacking : features.hasPopcnt = false) :
    FaithfulFault features mixedMachine := by
  have encoded : ArchInstruction.popcnt.Encoded mixedMachine.code :=
    ⟨⟨by decide, by decide, by decide⟩, fun movbe => absurd movbe (by decide)⟩
  have register :
      ArchInstruction.popcnt.Harmless mixedMachine.code mixedMachine :=
    ⟨by decide, fun word => absurd word (by decide)⟩
  exact .legacy
    { legacyDecoded_mixed 0#64 (by decide) with
      harmless := .compute .popcnt encoded register fun _ => lacking }

/-- TZCNT is faithful for six, which is even. -/
theorem faithfulFault_tzcnt
    {machine : Machine} (memory : machine.memory = mixedMachine.memory)
    (rip : machine.gregs .rip = 5#64) (source : machine.gregs .rcx = 6#64) :
    FaithfulFault features machine := by
  have code : machine.code = fetch mixedMachine.memory 5#64 := by
    rw [Machine.code, memory, rip]
  have encoded : ArchInstruction.tzcnt.Encoded machine.code := by
    rw [code]
    exact ⟨⟨by decide, by decide, by decide⟩,
      fun movbe => absurd movbe (by decide)⟩
  have operand :
      regValue machine.gregs (decodeInstruction machine.code).rm = 6#64 := by
    rw [code]
    exact source
  have harmless : ArchInstruction.tzcnt.Harmless machine.code machine := by
    rw [ArchInstruction.Harmless, CountHarmless, operand, code]
    exact ⟨by decide, by decide, by decide, fun word => absurd word (by decide)⟩
  have legacy := legacyDecoded_mixed 5#64 (by decide)
  rw [← code] at legacy
  exact .legacy
    { legacy with
      harmless :=
        .compute .tzcnt encoded harmless fun popcnt =>
          absurd popcnt (by decide) }

/-- Both faults are survived, with a native instruction in between. -/
theorem exists_mixedRun (lacking : features.hasPopcnt = false) :
    ∃ first second last,
      HandledFault features mixedMachine first ∧ NopStep first second ∧
        HandledFault features second last := by
  rcases exists_handledFault (faithfulFault_popcnt lacking) with
    ⟨first, faithful, inst, step⟩
  rcases step.frame with ⟨frame, memory⟩
  have rip : first.gregs .rip = 4#64 := by
    rw [step.rip, step.1]
    decide
  have source : first.gregs .rcx = 6#64 := by
    refine frame.general .rcx (by decide) (by decide) ?_
    rw [step.1]
    decide
  have nop : first.code.get 0 = 0x90#8 := by
    rw [Machine.code, memory, rip]
    decide
  have behind :
      FaithfulFault features
        { first with gregs := Function.update first.gregs .rip 5#64 } :=
    faithfulFault_tzcnt memory rfl source
  rcases exists_handledFault behind with ⟨last, handled⟩
  refine ⟨first, _, last, ⟨faithful, inst, step⟩, ⟨nop, ?_⟩, handled⟩
  rw [rip]
  rfl

end Mixed

/-- The whole run is one of a CPU with POPCNT and TZCNT. -/
theorem emulation_refines_mixed :
    ∃ after,
      Run (Completed NopStep ArchStep) mixedMachine
        [.lacking, .known, .lacking] after := by
  have lacking : ({} : CpuFeatures).hasPopcnt = false := rfl
  rcases exists_mixedRun lacking with ⟨first, second, last, head, nop, final⟩
  exact ⟨last,
    (emulation_refines
      (.cons (.lacking head)
        (.cons (.known nop) (.cons (.lacking final) (.nil last))))).1⟩

end BadCpu
