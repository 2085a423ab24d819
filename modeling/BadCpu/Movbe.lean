import BadCpu.EffectiveAddress
import BadCpu.OperandWidth
import BadCpu.Recogniser

/-!
# MOVBE between registers and memory

A MOVBE with a memory operand either loads or stores, depending on its opcode.
The emulator loads in both cases.  A store is therefore emulated correctly only
if it is invisible: the reversed register is in memory already, and loading it
again does not clear the upper half of the register.
-/

namespace BadCpu

open ByteMemory

/-! ## The value written -/

/-- When the value which MOVBE writes is the old one. -/
theorem movbeValue_eq_self_iff
    (inst : DecodedInstruction) (old : Word)
    (source : (n : ℕ) → BitVec (8 * n)) :
    movbeValue inst old source = old ↔
      byteSwap (widthInBytes inst) (source (widthInBytes inst)) =
          lowBytes (widthInBytes inst) old ∧
        (widthInBytes inst = 8 ∨ UpperHalfZero old) := by
  rcases width_cases inst with ⟨-, -, bytes⟩ | ⟨-, -, bytes⟩ | ⟨-, -, bytes⟩
  · have all : lowBytes 8 old = old := BitVec.setWidth_eq _
    rw [movbeValue_wide old source bytes, bytes, all]
    exact (and_iff_left (.inl rfl)).symm
  · have number : ¬ (2 = 8) := by decide
    rw [movbeValue_word old source bytes, bytes]
    simp only [number, false_or]
    exact merge16_eq_self_iff _ _
  · have number : ¬ (4 = 8) := by decide
    rw [movbeValue_double old source bytes, bytes]
    simp only [number, false_or]
    exact setWidth_eq_self_iff _ _

/-! ## One emulation of MOVBE -/

theorem selectedHandler_movbe
    {ip : Code} (encoded : Encodes ip .movbe) (features : CpuFeatures) :
    selectedHandler ip features = some .movbe := by
  rcases encoded with ⟨form, opcode, -⟩
  have map : opcodeMap ip = .map0F38 := by simp [opcodeMap, form]
  have legacy : (opcodeForm ip).isVex = false := by
    simp [form, OpcodeForm.isVex]
  exact selectedHandler_eq_some_iff.mpr
    ⟨map, opcode.imp_right fun store => ⟨store, legacy⟩⟩

/-- An encoded MOVBE has a memory operand. -/
theorem movbeSource_memory
    {ip : Code} (encoded : Encodes ip .movbe) (machine : Machine) (n : ℕ) :
    movbeSource (decodeInstruction ip) machine n =
      load machine.memory (rmValue (decodeInstruction ip) machine.gregs) n := by
  have selected := selectedHandler_movbe encoded {}
  rcases encoded with ⟨-, -, -, room, memory⟩
  have present : modrmPresent ip = true := by
    simp [modrmPresent_of_selected selected, room]
  rcases decode_operands present with ⟨-, modrm, -⟩
  have notRegister : (decodeInstruction ip).modrm >>> 6 ≠ 3#8 := by
    rw [← decodeModrm_mod, modrm]
    simpa [isMemoryForm] using memory
  rw [movbeSource, if_neg notRegister]

/-- The low bytes of the destination hold the reversed memory operand. -/
structure MovbeLoads
    (inst : DecodedInstruction) (before after : Machine) : Prop where
  register :
    lowBytes (operandLength inst) (regValue after.gregs inst.reg) =
      byteSwap (operandLength inst)
        (load before.memory (rmValue inst before.gregs) (operandLength inst))
  memory : after.memory = before.memory

/-- The memory operand holds the reversed low bytes of the register. -/
structure MovbeStores
    (inst : DecodedInstruction) (before after : Machine) : Prop where
  memory :
    after.memory =
      store before.memory (rmValue inst before.gregs) (operandLength inst)
        (byteSwap (operandLength inst)
          (lowBytes (operandLength inst) (regValue before.gregs inst.reg)))
  registers :
    ∀ greg, greg ≠ .efl → greg ≠ .rip →
      after.gregs greg = before.gregs greg

/--
Storing the same register at the same address restores the memory from which
it was loaded.
-/
def MovbeRoundTrips
    (zero : ZeroCounts) (ip : Code) (features : CpuFeatures)
    (before after : Machine) : Prop :=
  ∀ back, Encodes back .movbe → opcodeByte back = 0xF1#8 →
    (decodeInstruction back).reg = (decodeInstruction ip).reg →
    operandLength (decodeInstruction back) =
      operandLength (decodeInstruction ip) →
    rmValue (decodeInstruction back) after.gregs =
      rmValue (decodeInstruction ip) before.gregs →
    ∃ final,
      emulate zero back features after = some (.success, final) ∧
        final.machine.memory = before.memory

/-- MOVBE is emulated as the architecture defines it. -/
def MovbeCorrect
    (zero : ZeroCounts) (ip : Code) (features : CpuFeatures)
    (machine : Machine) : Prop :=
  ∃ state,
    emulate zero ip features machine = some (.success, state) ∧
      (opcodeByte ip = 0xF0#8 →
        MovbeLoads (decodeInstruction ip) machine state.machine ∧
          MovbeRoundTrips zero ip features machine state.machine) ∧
      (opcodeByte ip = 0xF1#8 →
        MovbeStores (decodeInstruction ip) machine state.machine)

/-- A store which changes neither memory nor the register. -/
def StoreInvisible (inst : DecodedInstruction) (machine : Machine) : Prop :=
  load machine.memory (rmValue inst machine.gregs) (operandLength inst) =
      byteSwap (operandLength inst)
        (lowBytes (operandLength inst) (regValue machine.gregs inst.reg)) ∧
    (operandLength inst = 8 ∨
      UpperHalfZero (regValue machine.gregs inst.reg))

section Commit

variable {zero : ZeroCounts} {ip : Code} {machine : Machine} {after : EmuState}
  (committed : Committed zero (decodeInstruction ip) machine .movbe after)

include committed

/-- The value which MOVBE leaves in its destination. -/
theorem movbe_destination (encoded : Encodes ip .movbe) :
    regValue after.machine.gregs (decodeInstruction ip).reg =
      movbeValue (decodeInstruction ip)
        (regValue machine.gregs (decodeInstruction ip).reg)
        (load machine.memory
          (rmValue (decodeInstruction ip) machine.gregs)) := by
  have source :
      movbeSource (decodeInstruction ip) machine =
        load machine.memory
          (rmValue (decodeInstruction ip) machine.gregs) := by
    funext n
    exact movbeSource_memory encoded machine n
  rw [committed.destination, Handler.value, source]

/-- Both opcodes load. -/
theorem movbeLoads_committed (encoded : Encodes ip .movbe) :
    MovbeLoads (decodeInstruction ip) machine after.machine where
  register := by
    rw [operandLength_decode, movbe_destination committed encoded,
      lowBytes_movbeValue]
  memory := committed.memory

/-- A store is emulated as a load, so it has to be invisible. -/
theorem movbeStores_committed_iff (encoded : Encodes ip .movbe) :
    MovbeStores (decodeInstruction ip) machine after.machine ↔
      StoreInvisible (decodeInstruction ip) machine := by
  rcases exists_gregOf (decode_registers_le ip).1 with ⟨p, valid⟩
  rcases gregOf_general valid with ⟨notEfl, notRip⟩
  have destination := movbe_destination committed encoded
  have fits : operandLength (decodeInstruction ip) ≤ 2 ^ 64 := by
    rw [operandLength_decode, widthInBytes]
    split_ifs <;> decide
  have unchanged :=
    movbeValue_eq_self_iff (decodeInstruction ip)
      (regValue machine.gregs (decodeInstruction ip).reg)
      (load machine.memory (rmValue (decodeInstruction ip) machine.gregs))
  rw [← destination, ← operandLength_decode, byteSwap_eq_iff] at unchanged
  rw [StoreInvisible]
  constructor
  · rintro ⟨memory, registers⟩
    rw [committed.memory] at memory
    refine ⟨(store_eq_self_iff _ _ _ fits).mp memory.symm, ?_⟩
    have kept := registers p notEfl notRip
    have same :
        regValue after.machine.gregs (decodeInstruction ip).reg =
          regValue machine.gregs (decodeInstruction ip).reg := by
      simp only [regValue, valid, kept]
    exact (unchanged.mp same).2
  · rintro ⟨loaded, upper⟩
    constructor
    · rw [committed.memory]
      exact ((store_eq_self_iff _ _ _ fits).mpr loaded).symm
    · intro greg notFlags notPointer
      by_cases here : greg = p
      · have same := unchanged.mpr ⟨loaded, upper⟩
        simp only [regValue, valid] at same
        rw [here, same]
      · apply committed.general greg notFlags notPointer
        intro equal
        exact here (Option.some.inj (equal.symm.trans valid))

theorem movbeRoundTrips_committed (features : CpuFeatures) :
    MovbeRoundTrips zero ip features machine after.machine := by
  intro back encoded _ _ _ _
  rcases
      emulate_committed zero after.machine
        (selectedHandler_movbe encoded features) with
    ⟨final, run, committed'⟩
  exact ⟨final, run, committed'.memory.trans committed.memory⟩

end Commit

/--
MOVBE is emulated correctly exactly when it is a load, or a store which would
change nothing.
-/
theorem movbeCorrect_iff
    (zero : ZeroCounts) {ip : Code} (encoded : Encodes ip .movbe)
    (features : CpuFeatures) (machine : Machine) :
    MovbeCorrect zero ip features machine ↔
      opcodeByte ip = 0xF0#8 ∨
        StoreInvisible (decodeInstruction ip) machine := by
  rcases
      emulate_committed zero machine (selectedHandler_movbe encoded features)
    with ⟨after, run, committed⟩
  have stores := movbeStores_committed_iff committed encoded
  rw [MovbeCorrect, exists_success_iff run]
  constructor
  · rintro ⟨-, stored⟩
    rcases encoded.2.1 with loads | storeOpcode
    · exact .inl loads
    · exact .inr (stores.mp (stored storeOpcode))
  · intro harmless
    refine ⟨fun _ => ⟨?_, ?_⟩, fun storeOpcode => ?_⟩
    · exact movbeLoads_committed committed encoded
    · exact movbeRoundTrips_committed committed features
    · rcases harmless with loads | invisible
      · exact absurd (loads.symm.trans storeOpcode) (by decide)
      · exact stores.mpr invisible

/-- `movbe eax, [rcx]` replaces what was in `rax`. -/
theorem movbeCorrect_load :
    MovbeCorrect default
      (codeOfBytes [0x0F#8, 0x38#8, 0xF0#8, 0x01#8]) {}
      ⟨fun greg => if greg = .rcx then 0x3000#64 else 0x123456789ABCDEF#64,
        fun address => address.setWidth 8 + 1#8⟩ := by
  refine (movbeCorrect_iff _ ?_ _ _).mpr (.inl (by decide))
  exact ⟨by decide, by decide, by decide, by decide, by decide⟩

/-- `movbe [rcx], eax` does not store one. -/
theorem movbeIncorrect_store :
    Encodes (codeOfBytes [0x0F#8, 0x38#8, 0xF1#8, 0x01#8]) .movbe ∧
      ¬ MovbeCorrect default
        (codeOfBytes [0x0F#8, 0x38#8, 0xF1#8, 0x01#8]) {}
        ⟨fun greg => if greg = .rax then 1#64 else 0#64, fun _ => 0#8⟩ := by
  have encoded :
      Encodes (codeOfBytes [0x0F#8, 0x38#8, 0xF1#8, 0x01#8]) .movbe :=
    ⟨by decide, by decide, by decide, by decide, by decide⟩
  refine ⟨encoded, ?_⟩
  rcases
      emulate_committed default
        ⟨fun greg => if greg = .rax then 1#64 else 0#64, fun _ => 0#8⟩
        (selectedHandler_movbe encoded {}) with
    ⟨after, run, committed⟩
  rw [MovbeCorrect, exists_success_iff run]
  rintro ⟨-, stored⟩
  have invisible :=
    (movbeStores_committed_iff committed encoded).mp (stored (by decide))
  exact absurd invisible.1 (by decide)

end BadCpu
