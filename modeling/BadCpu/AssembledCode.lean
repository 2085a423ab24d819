import BadCpu.FaultRuns
import BadCpu.InstructionGrammar
import BadCpu.TextCodes

/-!
# Assembled code

Programs are lists of encoded instructions, one behind the other in memory.  The
decoder takes a program apart again, and the handler carries a thread through
it, instruction by instruction, up to the first one which it does not emulate.
-/

namespace BadCpu

open SharedCell TextCodes

/-! ## One instruction in front of anything -/

theorem drop_fetch (memory : Word → Byte) (address : Word) (count : ℕ) :
    (fetch memory address).drop count =
      fetch memory (address + BitVec.ofNat 64 count) := by
  apply Stream'.ext
  intro index
  rw [Stream'.get_drop, get_fetch, get_fetch, BitVec.ofNat_add,
    BitVec.add_assoc]

namespace InstructionEncoding

variable (code : InstructionEncoding)

/-- No encoding is the beginning of another one. -/
theorem encode_prefixFree : PrefixFree encode := by
  rintro code code' ⟨rest, same⟩
  have streams :
      code.stream (codeOfBytes rest) = code'.stream (codeOfBytes []) := by
    rw [stream, stream, ← same, Stream'.append_append_stream]
    rfl
  exact stream_unambiguous streams

/-- The instruction as the decoder reports it. -/
def decoded : DecodedInstruction :=
  decodeInstruction (codeOfBytes code.encode)

/-- The dispatcher finds a handler for the instruction. -/
def emulated (features : CpuFeatures) : Bool :=
  (selectedHandler (codeOfBytes code.encode) features).isSome

theorem opcodeForm_stream (tail : Code) :
    opcodeForm (code.stream tail) ≠ .oneByte := by
  rw [OpcodeEncoding.opcodeForm_of_append (code.drop_headerEnd tail)]
  rcases code.opcode with (_ | _ | _) | _ | _ <;> exact OpcodeForm.noConfusion

theorem len_stream (tail : Code) :
    (decodeInstruction (code.stream tail)).len.toNat = code.encode.length := by
  rw [decode_len, code.decodedEnd_stream]

theorem decoded_len : code.decoded.len.toNat = code.encode.length :=
  code.len_stream _

/-- The bytes behind an instruction have no influence on it. -/
theorem stream_agree (tail : Code) (features : CpuFeatures) :
    decodeInstruction (code.stream tail) = code.decoded ∧
      (selectedHandler (code.stream tail) features).isSome =
        code.emulated features := by
  have escaped := code.opcodeForm_stream tail
  have agree :
      ∀ index < code.encode.length,
        (code.stream tail).get index =
          (codeOfBytes code.encode).get index := by
    intro index within
    rw [stream, codeOfBytes, Stream'.get_append_left _ _ _ within,
      Stream'.get_append_left _ _ _ within]
  constructor
  · apply decodeInstruction_congr escaped
    rw [code.len_stream]
    exact agree
  · rw [emulated, selectedHandler_congr features fun index before => ?_]
    apply agree
    rw [← code.decodedEnd_stream tail]
    exact before.trans_lt (opcodeIndex_lt_decodedEnd escaped)

end InstructionEncoding

/-! ## Programs in memory -/

/-- The bytes of a program. -/
def assemble (program : List InstructionEncoding) : List Byte :=
  program.flatMap InstructionEncoding.encode

/-- A program stands in memory, with other bytes behind it. -/
def ProgramAt
    (memory : Word → Byte) (address : Word)
    (program : List InstructionEncoding) (tail : Code) : Prop :=
  fetch memory address = assemble program ++ₛ tail

section Programs

variable {memory : Word → Byte} {address : Word} {code : InstructionEncoding}
  {program program' : List InstructionEncoding} {tail tail' : Code}

/-- Behind an instruction stands what was put behind it. -/
theorem fetch_behind (first : fetch memory address = code.stream tail) :
    fetch memory (address + BitVec.ofNat 64 code.encode.length) = tail := by
  rw [← drop_fetch, first]
  exact Stream'.drop_append_stream _ _

/-- The first instruction, and the program behind it. -/
theorem programAt_cons_iff :
    ProgramAt memory address (code :: program) tail ↔
      (∃ rest, fetch memory address = code.stream rest) ∧
        ProgramAt memory (address + BitVec.ofNat 64 code.encode.length) program
          tail := by
  have bytes :
      assemble (code :: program) ++ₛ tail =
        code.stream (assemble program ++ₛ tail) :=
    Stream'.append_append_stream _ _ _
  rw [ProgramAt, ProgramAt, bytes]
  constructor
  · intro first
    exact ⟨⟨_, first⟩, fetch_behind first⟩
  · rintro ⟨⟨rest, first⟩, behind⟩
    rw [first, ← behind, fetch_behind first]

theorem ProgramAt.drop
    (placed : ProgramAt memory address (program ++ program') tail) :
    ProgramAt memory (address + BitVec.ofNat 64 (assemble program).length)
      program' tail := by
  rw [ProgramAt, assemble, List.flatMap_append,
    Stream'.append_append_stream] at placed
  rw [ProgramAt, ← drop_fetch, placed]
  exact Stream'.drop_append_stream _ _

/-- Only one program of a given number of instructions is in place. -/
theorem ProgramAt.unique
    (placed : ProgramAt memory address program tail)
    (placed' : ProgramAt memory address program' tail')
    (length : program.length = program'.length) :
    program = program' :=
  InstructionEncoding.encode_prefixFree.flatMap_inj length
    (placed.symm.trans placed')

/-- The decoder takes a program apart. -/
theorem ProgramAt.sweep
    (placed : ProgramAt memory address program tail) :
    sweep memory address program.length =
      program.map InstructionEncoding.decoded := by
  induction program generalizing address with
  | nil => rfl
  | cons code program ih =>
      rcases programAt_cons_iff.mp placed with ⟨⟨_, first⟩, rest⟩
      have decoded : decodeInstruction (fetch memory address) = code.decoded := by
        rw [first]
        exact (code.stream_agree _ {}).1
      rw [List.length_cons, BadCpu.sweep, List.map_cons]
      simp only [decoded, code.decoded_len]
      rw [ih rest]

/-- Well-formed instructions behind one another are a program. -/
theorem exists_programAt
    {count : ℕ}
    (wellFormed : ∀ inst ∈ sweep memory address count, WellFormed inst) :
    ∃ program tail,
      program.length = count ∧ ProgramAt memory address program tail := by
  induction count generalizing address with
  | zero => exact ⟨[], fetch memory address, rfl, rfl⟩
  | succ count ih =>
      rw [sweep, List.forall_mem_cons] at wellFormed
      rcases wellFormed.1.exists_encoding with ⟨code, first⟩
      have length :
          (decodeInstruction (fetch memory address)).len.toNat =
            code.encode.length := by
        rw [first]
        exact code.len_stream _
      rcases ih wellFormed.2 with ⟨program, tail, rfl, rest⟩
      refine ⟨code :: program, tail, rfl, programAt_cons_iff.mpr ⟨⟨_, first⟩, ?_⟩⟩
      rw [← length]
      exact rest

/--
The instructions from an address on are well formed exactly where a program is
in place, and there is only one program of this length.
-/
theorem sweep_wellFormed_iff_existsUnique
    (memory : Word → Byte) (address : Word) (count : ℕ) :
    (∀ inst ∈ sweep memory address count, WellFormed inst) ↔
      ∃! program : List InstructionEncoding,
        program.length = count ∧
          ∃ tail, ProgramAt memory address program tail := by
  constructor
  · intro wellFormed
    rcases exists_programAt wellFormed with ⟨program, tail, length, placed⟩
    refine ⟨program, ⟨length, tail, placed⟩, ?_⟩
    rintro other ⟨length', tail', placed'⟩
    exact placed'.unique placed (length'.trans length.symm)
  · rintro ⟨program, ⟨rfl, tail, placed⟩, -⟩
    rw [placed.sweep, List.forall_mem_map]
    exact fun code _ => code.wellFormed_stream _

end Programs

/-! ## Programs which are emulated -/

section Runs

variable {features : CpuFeatures} {machine after : Machine}
  {program rest : List InstructionEncoding} {tail : Code}

/-- The bytes which a program occupies. -/
theorem codeLength_decoded (program : List InstructionEncoding) :
    codeLength (program.map InstructionEncoding.decoded) =
      (assemble program).length := by
  rw [codeLength, assemble, List.length_flatMap, List.map_map]
  exact congrArg List.sum
    (List.map_congr_left fun code _ => code.decoded_len)

/-- A program is recognised as far as its instructions are emulated. -/
theorem recognised_iff
    {memory : Word → Byte} {address : Word}
    (placed : ProgramAt memory address program tail) :
    Recognised features memory address
        (program.map InstructionEncoding.decoded) ↔
      ∀ code ∈ program, code.emulated features = true := by
  induction program generalizing address with
  | nil => exact iff_of_true trivial (List.forall_mem_nil _)
  | cons code program ih =>
      rcases programAt_cons_iff.mp placed with ⟨⟨following, first⟩, behind⟩
      have agree := code.stream_agree following features
      rw [← first] at agree
      rw [List.map_cons, Recognised, agree.1, agree.2, code.decoded_len,
        ih behind, List.forall_mem_cons]
      exact and_congr_right fun _ => and_iff_right rfl

/-- A run through a program ends behind it. -/
theorem code_after_program
    (placed :
      ProgramAt machine.memory (machine.gregs .rip) (program ++ rest) tail)
    (run :
      Run (FaultStep features) machine
        (program.map InstructionEncoding.decoded) after) :
    ProgramAt after.memory (after.gregs .rip) rest tail := by
  have line := StraightLine.of_run run
  rw [line.memory, line.rip, codeLength_decoded]
  exact placed.drop

end Runs

/-- The instructions up to the first one without a handler. -/
def emulatedFront (features : CpuFeatures)
    (program : List InstructionEncoding) : List InstructionEncoding :=
  program.takeWhile fun code => code.emulated features

/-- The first instruction without a handler, and those behind it. -/
def refusedRest (features : CpuFeatures)
    (program : List InstructionEncoding) : List InstructionEncoding :=
  program.dropWhile fun code => code.emulated features

/-- How far a thread gets in a program of which the CPU knows nothing. -/
structure ProgramOutcome
    (features : CpuFeatures) (machine : Machine)
    (program : List InstructionEncoding) (tail : Code) : Prop where
  executed :
    ∃ after,
      Run (FaultStep features) machine
        ((emulatedFront features program).map InstructionEncoding.decoded)
        after
  longest :
    ∀ insts after, Run (FaultStep features) machine insts after →
      insts.length ≤ program.length →
        insts <+:
          (emulatedFront features program).map InstructionEncoding.decoded
  stands :
    ∀ after,
      Run (FaultStep features) machine
          ((emulatedFront features program).map InstructionEncoding.decoded)
          after →
        ProgramAt after.memory (after.gregs .rip) (refusedRest features program)
          tail
  refused :
    ∀ after,
      Run (FaultStep features) machine
          ((emulatedFront features program).map InstructionEncoding.decoded)
          after →
        ∀ code ∈ (refusedRest features program).head?, ∀ zero,
          ∃ text,
            sigillHandler zero SIGILL features after =
                some (.exited 132 text) ∧
              code.encode <+: reportedBytes text

section Outcome

variable {features : CpuFeatures} {machine : Machine}
  {program : List InstructionEncoding} {tail : Code}

theorem emulatedFront_append (features : CpuFeatures)
    (program : List InstructionEncoding) :
    emulatedFront features program ++ refusedRest features program = program :=
  List.takeWhile_append_dropWhile

/-- A run within a program is through emulated instructions. -/
theorem run_prefix_emulatedFront
    (placed : ProgramAt machine.memory (machine.gregs .rip) program tail)
    {insts : List DecodedInstruction} {after : Machine}
    (run : Run (FaultStep features) machine insts after)
    (within : insts.length ≤ program.length) :
    insts <+:
      (emulatedFront features program).map InstructionEncoding.decoded := by
  have front :
      ProgramAt machine.memory (machine.gregs .rip)
        (program.take insts.length)
        (assemble (program.drop insts.length) ++ₛ tail) := by
    rw [ProgramAt, ← Stream'.append_append_stream, assemble, assemble,
      ← List.flatMap_append, List.take_append_drop]
    exact placed
  have swept := front.sweep
  rw [List.length_take_of_le within, ← (StraightLine.of_run run).swept]
    at swept
  have recognised := exists_faultRun_iff.mp ⟨after, run⟩
  rw [swept, recognised_iff front] at recognised
  have initial :
      program.take insts.length <+: emulatedFront features program := by
    rw [emulatedFront]
    conv_rhs => rw [← List.take_append_drop insts.length program]
    rw [List.takeWhile_append_of_pos recognised]
    exact List.prefix_append _ _
  rw [swept]
  exact initial.map _

/-- The first instruction without a handler ends the process. -/
theorem refused_of_programAt
    {code : InstructionEncoding} {rest : List InstructionEncoding}
    (placed : ProgramAt machine.memory (machine.gregs .rip) (code :: rest) tail)
    (refused : code.emulated features = false) (zero : ZeroCounts) :
    ∃ text,
      sigillHandler zero SIGILL features machine = some (.exited 132 text) ∧
        code.encode <+: reportedBytes text := by
  rcases programAt_cons_iff.mp placed with ⟨⟨following, first⟩, -⟩
  change machine.code = code.stream following at first
  have none : selectedHandler machine.code features = none := by
    rw [← Option.not_isSome_iff_eq_none, first,
      (code.stream_agree following features).2, refused]
    exact Bool.false_ne_true
  refine ⟨_, sigillHandler_none zero none, ?_⟩
  have short : code.encode.length ≤ 16 :=
    code.encode_length_le.trans (Nat.le_succ 15)
  rw [reportedBytes_unrecognized, first, InstructionEncoding.stream,
    List.prefix_iff_eq_take, Stream'.take_take, min_eq_right short,
    take_append_length]

/--
A thread gets through exactly those instructions of a program which are emulated
up to the first one which is not, and the report names that one in full.
-/
theorem programOutcome
    (placed : ProgramAt machine.memory (machine.gregs .rip) program tail) :
    ProgramOutcome features machine program tail := by
  rw [← emulatedFront_append features program] at placed
  constructor
  case executed =>
    have front := placed
    rw [ProgramAt, assemble, List.flatMap_append,
      Stream'.append_append_stream] at front
    rw [exists_faultRun_iff, recognised_iff front]
    intro code member
    exact List.mem_takeWhile_imp
      (p := fun code : InstructionEncoding => code.emulated features) member
  case longest =>
    intro insts after run within
    rw [emulatedFront_append] at placed
    exact run_prefix_emulatedFront placed run within
  case stands =>
    exact fun after run => code_after_program placed run
  case refused =>
    intro after run code first zero
    have behind := code_after_program placed run
    rcases List.head?_eq_some_iff.mp first with ⟨rest, split⟩
    rw [refusedRest, Option.mem_def, ← List.find?_not_eq_head?_dropWhile]
      at first
    have refused : code.emulated features = false := by
      simpa using List.find?_some first
    rw [split] at behind
    exact refused_of_programAt behind refused zero

end Outcome

/-! ### An example -/

/-- A machine in front of a program, with zero bytes behind it. -/
def programMachine (program : List InstructionEncoding) : Machine where
  gregs _ := 0#64
  memory address := (codeOfBytes (assemble program)).get address.toNat

theorem programAt_programMachine
    {program : List InstructionEncoding}
    (fits : (assemble program).length ≤ 2 ^ 64) :
    ∃ tail, ProgramAt (programMachine program).memory 0#64 program tail := by
  refine ⟨_, (Stream'.append_take_drop (assemble program).length _).symm.trans
    (congrArg (· ++ₛ _) ?_)⟩
  apply List.ext_getElem (Stream'.length_take _ _)
  intro index _ within
  have byte :
      (fetch (programMachine program).memory 0#64).get index =
        (codeOfBytes (assemble program)).get index := by
    rw [get_fetch, BitVec.zero_add, programMachine]
    dsimp only
    rw [BitVec.toNat_ofNat, Nat.mod_eq_of_lt (within.trans_le fits)]
  rw [Stream'.take_get, byte, codeOfBytes,
    Stream'.get_append_left _ _ _ within]

/-- `popcnt eax, ecx` and `nop [rax]` -/
def nopProgram : List InstructionEncoding :=
  [{ prefixes := [0xF3#8]
     prefixes_legacy := by decide
     rex := none
     rex_pattern := by decide
     opcode := .escape (.map0F 0xB8#8 (by decide) (by decide))
     operands :=
       { modrm := 0xC1#8
         sib := none
         sib_called := by decide
         displacement := []
         displacement_called := by decide }
     fits := by decide },
   { prefixes := []
     prefixes_legacy := by decide
     rex := none
     rex_pattern := by decide
     opcode := .escape (.map0F 0x1F#8 (by decide) (by decide))
     operands :=
       { modrm := 0x00#8
         sib := none
         sib_called := by decide
         displacement := []
         displacement_called := by decide }
     fits := by decide }]

/-- The thread gets through POPCNT and ends at NOP. -/
theorem programOutcome_nop :
    (emulatedFront {} nopProgram).length = 1 ∧
      ∃ tail, ProgramOutcome {} (programMachine nopProgram) nopProgram tail := by
  refine ⟨by decide, ?_⟩
  have fits : (assemble nopProgram).length ≤ 2 ^ 64 := by decide
  rcases programAt_programMachine fits with ⟨tail, placed⟩
  exact ⟨tail, programOutcome placed⟩

end BadCpu
