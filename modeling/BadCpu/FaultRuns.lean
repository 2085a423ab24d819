import BadCpu.EmulationFrame
import BadCpu.FaultReports
import BadCpu.InstructionBoundary

/-!
# Runs of faults

Code which the CPU does not know faults instruction after instruction, and the
handler carries the thread from each one to the next.  Such a run is a walk
along the code.  How far it goes is decided by the bytes alone: neither the
registers nor the position of the code matter.
-/

namespace BadCpu

open SharedCell

/-! ## One fault -/

/-- A fault from which the handler returns, behind the decoded instruction. -/
def FaultStep
    (features : CpuFeatures) (machine : Machine) (inst : DecodedInstruction)
    (after : Machine) : Prop :=
  inst = decodeInstruction machine.code ∧
    ∃ zero, sigillHandler zero SIGILL features machine = some (.returned after)

/-- The handler returns exactly from recognised instructions. -/
theorem faultStep_iff
    {features : CpuFeatures} {machine after : Machine}
    {inst : DecodedInstruction} :
    FaultStep features machine inst after ↔
      inst = decodeInstruction machine.code ∧
        ∃ zero handler state,
          selectedHandler machine.code features = some handler ∧
            Committed zero inst machine handler state ∧
              state.machine = after ∧
                sigillHandler zero SIGILL features machine =
                  some (.returned after) := by
  constructor
  · rintro ⟨rfl, zero, returned⟩
    refine ⟨rfl, zero, ?_⟩
    cases selected : selectedHandler machine.code features with
    | none =>
        rw [sigillHandler_none zero selected] at returned
        exact absurd (Option.some.inj returned) HandlerOutcome.noConfusion
    | some handler =>
        rcases sigillHandler_some zero selected with ⟨state, run, committed⟩
        have same : state.machine = after := by
          rw [run] at returned
          exact HandlerOutcome.returned.inj (Option.some.inj returned)
        exact ⟨handler, state, rfl, committed, same, returned⟩
  · rintro ⟨decoded, zero, -, -, -, -, -, returned⟩
    exact ⟨decoded, zero, returned⟩

namespace FaultStep

variable {features : CpuFeatures} {machine after : Machine}
  {inst : DecodedInstruction}

theorem accepted (step : FaultStep features machine inst after) :
    (selectedHandler machine.code features).isSome = true := by
  rcases faultStep_iff.mp step with ⟨-, -, handler, -, selected, -⟩
  rw [selected]
  rfl

/-- A fault stays within the frame of its instruction. -/
theorem frame (step : FaultStep features machine inst after) :
    CommitFrame inst features machine after ∧ after.memory = machine.memory := by
  rcases faultStep_iff.mp step with
    ⟨rfl, zero, handler, state, selected, committed, rfl, -⟩
  exact ⟨commitFrame_of_committed selected committed, committed.memory⟩

/-- Four to nineteen bytes are left behind. -/
theorem len_bounds (step : FaultStep features machine inst after) :
    4 ≤ inst.len.toNat ∧ inst.len.toNat ≤ 19 := by
  refine ⟨step.frame.1.len, ?_⟩
  rw [step.1, decode_len]
  exact decodedEnd_le machine.code

theorem rip (step : FaultStep features machine inst after) :
    after.gregs .rip =
      machine.gregs .rip + BitVec.ofNat 64 inst.len.toNat := by
  rw [BitVec.ofNat_toNat]
  exact step.frame.1.rip

end FaultStep

/-- A fault at a recognised instruction is survived. -/
theorem exists_faultStep
    {features : CpuFeatures} {machine : Machine}
    (accepted : (selectedHandler machine.code features).isSome = true) :
    ∃ after,
      FaultStep features machine (decodeInstruction machine.code) after := by
  rcases Option.isSome_iff_exists.mp accepted with ⟨handler, selected⟩
  rcases sigillHandler_some default selected with
    ⟨state, returned, -⟩
  exact ⟨state.machine, rfl, _, returned⟩

/-! ## Walking along the code -/

/-- The bytes which decoded instructions occupy. -/
def codeLength (insts : List DecodedInstruction) : ℕ :=
  (insts.map fun inst => inst.len.toNat).sum

@[simp]
theorem codeLength_cons
    (inst : DecodedInstruction) (insts : List DecodedInstruction) :
    codeLength (inst :: insts) = inst.len.toNat + codeLength insts := by
  simp only [codeLength, List.map_cons, List.sum_cons]

/-- The instructions from an address on, each one behind the one before. -/
def sweep (memory : Word → Byte) (address : Word) :
    ℕ → List DecodedInstruction
  | 0 => []
  | count + 1 =>
      let inst := decodeInstruction (fetch memory address)
      inst :: sweep memory (address + BitVec.ofNat 64 inst.len.toNat) count

/-! ## How far a run goes -/

/-- The instructions stand behind one another, and each one is recognised. -/
def Recognised (features : CpuFeatures) (memory : Word → Byte) :
    Word → List DecodedInstruction → Prop
  | _, [] => True
  | address, inst :: insts =>
      (selectedHandler (fetch memory address) features).isSome = true ∧
        inst = decodeInstruction (fetch memory address) ∧
          Recognised features memory
            (address + BitVec.ofNat 64 inst.len.toNat) insts

/-- The registers have no influence on which instructions a run takes. -/
theorem exists_faultRun_iff
    {features : CpuFeatures} {machine : Machine}
    {insts : List DecodedInstruction} :
    (∃ after, Run (FaultStep features) machine insts after) ↔
      Recognised features machine.memory (machine.gregs .rip) insts := by
  induction insts generalizing machine with
  | nil => exact ⟨fun _ => trivial, fun _ => ⟨machine, .nil machine⟩⟩
  | cons inst insts ih =>
      constructor
      · rintro ⟨last, run⟩
        rcases run with _ | ⟨step, rest⟩
        have behind := ih.mp ⟨last, rest⟩
        rw [step.frame.2, step.rip] at behind
        exact ⟨step.accepted, step.1, behind⟩
      · rintro ⟨accepted, rfl, behind⟩
        have stepped :
            ∃ next,
              FaultStep features machine (decodeInstruction machine.code)
                next :=
          exists_faultStep accepted
        rcases stepped with ⟨next, step⟩
        have rest :
            Recognised features next.memory (next.gregs .rip) insts := by
          rw [step.frame.2, step.rip]
          exact behind
        rcases ih.mpr rest with ⟨last, run⟩
        exact ⟨last, .cons step run⟩

/-- Some code at an address, with sixes in the other registers. -/
def codeMachine (bytes : List Byte) (base : Word) : Machine where
  gregs greg := if greg = .rip then base else 6#64
  memory address := (codeOfBytes bytes).get (address - base).toNat

/-- `popcnt eax, ecx` and `tzcnt ebx, ecx` at an address. -/
def countingMachine (base : Word) : Machine :=
  codeMachine
    [0xF3#8, 0x0F#8, 0xB8#8, 0xC1#8, 0xF3#8, 0x0F#8, 0xBC#8, 0xD9#8] base

/-- The two instructions. -/
def countingInsts : List DecodedInstruction :=
  sweep (countingMachine 0#64).memory 0#64 2

theorem recognised_counting :
    Recognised {} (countingMachine 0#64).memory 0#64 countingInsts :=
  ⟨by decide, rfl, by decide, rfl, trivial⟩

theorem exists_countingRun :
    ∃ after, Run (FaultStep {}) (countingMachine 0#64) countingInsts after :=
  exists_faultRun_iff.mpr recognised_counting

/-! ## What a run leaves behind -/

/-- What a run of faults leaves behind. -/
structure StraightLine
    (machine : Machine) (insts : List DecodedInstruction) (after : Machine) :
    Prop where
  memory : after.memory = machine.memory
  swept : insts = sweep machine.memory (machine.gregs .rip) insts.length
  rip :
    after.gregs .rip =
      machine.gregs .rip + BitVec.ofNat 64 (codeLength insts)
  lengths : ∀ inst ∈ insts, 4 ≤ inst.len.toNat ∧ inst.len.toNat ≤ 19
  bounds :
    4 * insts.length ≤ codeLength insts ∧
      codeLength insts ≤ 19 * insts.length
  general :
    ∀ greg, greg ≠ .efl → greg ≠ .rip →
      (∀ inst ∈ insts, gregOf inst.reg ≠ some greg) →
        after.gregs greg = machine.gregs greg
  flags :
    after.gregs .efl &&& ~~~statusMask = machine.gregs .efl &&& ~~~statusMask

namespace StraightLine

theorem nil (machine : Machine) : StraightLine machine [] machine where
  memory := rfl
  swept := rfl
  rip := (BitVec.add_zero _).symm
  lengths := fun _ member => absurd member List.not_mem_nil
  bounds := ⟨le_rfl, le_rfl⟩
  general := fun _ _ _ _ => rfl
  flags := rfl

/-- One more fault in front of a straight line. -/
theorem cons
    {features : CpuFeatures} {machine next last : Machine}
    {inst : DecodedInstruction} {insts : List DecodedInstruction}
    (step : FaultStep features machine inst next)
    (line : StraightLine next insts last) :
    StraightLine machine (inst :: insts) last := by
  rcases step.frame with ⟨frame, memory⟩
  have advance := step.rip
  constructor
  case memory => exact line.memory.trans memory
  case swept =>
    have rest := line.swept
    rw [memory, advance] at rest
    rw [List.length_cons, sweep]
    have first : decodeInstruction
        (fetch machine.memory (machine.gregs .rip)) = inst := step.1.symm
    rw [first, ← rest]
  case rip =>
    rw [line.rip, advance, codeLength_cons, BitVec.ofNat_add,
      BitVec.add_assoc]
  case lengths =>
    exact List.forall_mem_cons.mpr ⟨step.len_bounds, line.lengths⟩
  case bounds =>
    have one := step.len_bounds
    have rest := line.bounds
    rw [codeLength_cons, List.length_cons]
    omega
  case general =>
    intro greg notEfl notRip others
    rw [List.forall_mem_cons] at others
    rw [line.general greg notEfl notRip others.2,
      frame.general greg notEfl notRip others.1]
  case flags => exact line.flags.trans frame.flags

theorem of_run
    {features : CpuFeatures} {machine after : Machine}
    {insts : List DecodedInstruction}
    (run : Run (FaultStep features) machine insts after) :
    StraightLine machine insts after := by
  induction run with
  | nil machine => exact .nil machine
  | cons step _ ih => exact .cons step ih

end StraightLine

/--
A run of faults walks along the code and changes nothing but destination
registers, status flags and the instruction pointer.
-/
theorem faultRun_straightLine
    {features : CpuFeatures} {machine after : Machine}
    {insts : List DecodedInstruction}
    (run : Run (FaultStep features) machine insts after) :
    StraightLine machine insts after :=
  .of_run run

/-- Two faults are a straight line. -/
theorem faultRun_straightLine_counting :
    ∃ after, StraightLine (countingMachine 0#64) countingInsts after := by
  rcases exists_countingRun with ⟨after, run⟩
  exact ⟨after, faultRun_straightLine run⟩

/-! ## Code at another place -/

/-- The only feature which the dispatcher asks for is POPCNT. -/
theorem selectedHandler_features
    {features features' : CpuFeatures}
    (popcnt : features.hasPopcnt = features'.hasPopcnt) (ip : Code) :
    selectedHandler ip features = selectedHandler ip features' := by
  simp only [selectedHandler, mapHandler, popcnt]

/-- An opcode behind an escape is counted in the length. -/
theorem opcodeIndex_lt_decodedEnd
    {ip : Code} (escaped : opcodeForm ip ≠ .oneByte) :
    opcodeIndex ip < decodedEnd ip := by
  have behind := modrmIndex_escaped escaped
  rw [decodedEnd]
  split_ifs
  · have modrm := modrm_lt_operandEnd ip (modrmIndex ip)
    omega
  · omega

/-- Recognition looks at no byte behind the instruction. -/
theorem recognised_congr
    {left right : Code} {features : CpuFeatures}
    (accepted : (selectedHandler left features).isSome = true)
    (agree :
      ∀ index < (decodeInstruction left).len.toNat,
        left.get index = right.get index) :
    selectedHandler left features = selectedHandler right features ∧
      decodeInstruction left = decodeInstruction right := by
  rcases Option.isSome_iff_exists.mp accepted with ⟨handler, selected⟩
  have escaped := escaped_of_selected selected
  refine ⟨?_, decodeInstruction_congr escaped agree⟩
  apply selectedHandler_congr
  intro index before
  apply agree
  rw [decode_len]
  exact before.trans_lt (opcodeIndex_lt_decodedEnd escaped)

/-- Equal bytes behind different addresses. -/
def SameBytes
    (memory memory' : Word → Byte) (address address' : Word) (count : ℕ) :
    Prop :=
  ∀ offset < count,
    memory (address + BitVec.ofNat 64 offset) =
      memory' (address' + BitVec.ofNat 64 offset)

instance
    (memory memory' : Word → Byte) (address address' : Word) (count : ℕ) :
    Decidable (SameBytes memory memory' address address' count) :=
  inferInstanceAs (Decidable (∀ offset < count, _))

/-- The bytes behind the first ones are equal, too. -/
theorem SameBytes.drop
    {memory memory' : Word → Byte} {address address' : Word}
    {first rest : ℕ}
    (same : SameBytes memory memory' address address' (first + rest)) :
    SameBytes memory memory' (address + BitVec.ofNat 64 first)
      (address' + BitVec.ofNat 64 first) rest := by
  intro offset bound
  have shifted := same (first + offset) (by omega)
  rwa [BitVec.ofNat_add, ← BitVec.add_assoc, ← BitVec.add_assoc] at shifted

/-- The same bytes are recognised at any other address. -/
theorem Recognised.relocate
    {features features' : CpuFeatures} {memory memory' : Word → Byte}
    {insts : List DecodedInstruction}
    (popcnt : features.hasPopcnt = features'.hasPopcnt) :
    ∀ {address address' : Word},
      Recognised features memory address insts →
        SameBytes memory memory' address address' (codeLength insts) →
          Recognised features' memory' address' insts := by
  induction insts with
  | nil => exact fun _ _ => trivial
  | cons inst insts ih =>
      rintro address address' ⟨accepted, rfl, behind⟩ same
      rw [codeLength_cons] at same
      have agree :
          ∀ index <
              (decodeInstruction (fetch memory address)).len.toNat,
            (fetch memory address).get index =
              (fetch memory' address').get index :=
        fun index within => same index (by omega)
      rcases recognised_congr accepted agree with ⟨selected, decoded⟩
      refine ⟨?_, decoded, ih behind same.drop⟩
      rw [← selectedHandler_features popcnt, ← selected]
      exact accepted

/--
A run of faults depends on the bytes of its instructions, and on no register
and no address: wherever the same bytes stand, there is a run through the same
instructions.
-/
theorem faultRun_relocated
    {features features' : CpuFeatures} {machine machine' after : Machine}
    {insts : List DecodedInstruction}
    (run : Run (FaultStep features) machine insts after)
    (popcnt : features.hasPopcnt = features'.hasPopcnt)
    (same :
      SameBytes machine.memory machine'.memory (machine.gregs .rip)
        (machine'.gregs .rip) (codeLength insts)) :
    ∃ after', Run (FaultStep features') machine' insts after' :=
  exists_faultRun_iff.mpr
    ((exists_faultRun_iff.mp ⟨after, run⟩).relocate popcnt same)

/-- The two instructions are also emulated at another address. -/
theorem faultRun_relocated_counting :
    ∃ after',
      Run (FaultStep {}) (countingMachine 0x1000#64) countingInsts after' := by
  rcases exists_countingRun with ⟨after, run⟩
  exact faultRun_relocated run rfl (by decide)

/-! ## Runs within a region -/

/-- The offset of the instruction pointer in a region. -/
def regionOffset (base : Word) (machine : Machine) : ℕ :=
  (machine.gregs .rip - base).toNat

/-- A fault at an instruction which starts in a region. -/
def RegionStep
    (features : CpuFeatures) (base : Word) (size : ℕ) (machine : Machine)
    (inst : DecodedInstruction) (after : Machine) : Prop :=
  regionOffset base machine < size ∧ FaultStep features machine inst after

/-- In a region which does not wrap around, an offset only grows. -/
theorem RegionStep.offset
    {features : CpuFeatures} {base : Word} {size : ℕ}
    {machine after : Machine} {inst : DecodedInstruction}
    (step : RegionStep features base size machine inst after)
    (small : size + 19 ≤ 2 ^ 64) :
    regionOffset base machine + 4 ≤ regionOffset base after := by
  rcases step with ⟨within, step⟩
  have bounds := step.len_bounds
  have shifted :
      after.gregs .rip - base =
        machine.gregs .rip - base + BitVec.ofNat 64 inst.len.toNat := by
    rw [step.rip]
    bv_omega
  have length :
      (BitVec.ofNat 64 inst.len.toNat).toNat = inst.len.toNat := by
    rw [BitVec.toNat_ofNat, Nat.mod_eq_of_lt (by omega)]
  rw [regionOffset] at within
  rw [regionOffset, regionOffset, shifted, BitVec.toNat_add, length,
    Nat.mod_eq_of_lt (by omega)]
  omega

/--
The handler cannot keep a thread within a region: after one fault for every
four bytes, rounded up, the thread has left the region or the process has ended.
-/
theorem faultRun_bounded
    {features : CpuFeatures} {base : Word} {size : ℕ}
    {machine after : Machine} {insts : List DecodedInstruction}
    (run : Run (RegionStep features base size) machine insts after)
    (small : size + 19 ≤ 2 ^ 64) :
    4 * insts.length ≤ size + 3 := by
  have general :
      insts = [] ∨
        regionOffset base machine + 4 * insts.length ≤ size + 3 := by
    induction run with
    | nil => exact .inl rfl
    | cons step _ ih =>
        right
        have within := step.1
        have grown := step.offset small
        rw [List.length_cons]
        rcases ih with rfl | rest
        · simp only [List.length_nil]
          omega
        · omega
  rcases general with rfl | bound
  · exact Nat.zero_le _
  · omega

/-- Two faults fit into eight bytes. -/
theorem faultRun_bounded_counting : 4 * countingInsts.length ≤ 8 + 3 := by
  rcases exists_countingRun with ⟨after, run⟩
  cases run with
  | @cons _ next _ _ _ first rest =>
      cases rest with
      | @cons _ last _ _ _ second rest =>
          have inside : regionOffset 0#64 next < 8 := by
            rw [regionOffset, first.rip]
            decide
          have run :
              Run (RegionStep {} 0#64 8) (countingMachine 0#64) countingInsts
                last :=
            .cons ⟨by decide, first⟩ (.cons ⟨inside, second⟩ (.nil last))
          exact faultRun_bounded run (by decide)

end BadCpu
