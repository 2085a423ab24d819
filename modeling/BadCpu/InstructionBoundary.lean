import BadCpu.Dispatch

/-!
# The end of an emulated instruction

Two laws about the last byte of an instruction.  Bytes behind the reported end
never influence a successful emulation, because every opcode which has a
handler is counted in the length.  An instruction whose ModRM byte or
displacement crosses the length limit, on the other hand, is emulated with
default operands, because the dispatcher does not ask whether the decoder found
all of them.
-/

namespace BadCpu

open AdaptiveQuery

/-! ## Bytes behind the end -/

/-- Unless the opcode is a single byte, every byte read is counted. -/
theorem mem_bytesRead
    {ip : Code} (escaped : opcodeForm ip ≠ .oneByte) {index : ℕ}
    (member : index ∈ bytesRead ip) :
    index < decodedEnd ip := by
  rw [bytesRead_eq, List.mem_append] at member
  rcases member with head | operands
  · have opcode := mem_decodeHead_asked head
    have behind := modrmIndex_escaped escaped
    rw [decodedEnd]
    split_ifs
    · have modrm := modrm_lt_operandEnd ip (modrmIndex ip)
      omega
    · omega
  · rcases mem_operandBytes_asked operands with ⟨present, within, -⟩
    have found : modrmPresent ip = true := by
      simpa [modrmPresent] using present
    rw [decodedEnd, if_pos found]
    exact within

/-- Agreement up to the reported length determines the decoded instruction. -/
theorem decodeInstruction_congr
    {left right : Code} (escaped : opcodeForm left ≠ .oneByte)
    (agree :
      ∀ index < (decodeInstruction left).len.toNat,
        left.get index = right.get index) :
    decodeInstruction left = decodeInstruction right := by
  apply Query.run_congr decodeProgram
  intro index member
  apply agree
  rw [decode_len]
  exact mem_bytesRead escaped member

/--
A successful emulation depends only on the bytes of its instruction.
-/
theorem emulate_selfDelimiting
    (zero : ZeroCounts) (left right : Code) (features : CpuFeatures)
    (machine : Machine) {state : EmuState}
    (success :
      emulate zero left features machine = some (.success, state))
    (agree :
      ∀ index < (decodeInstruction left).len.toNat,
        left.get index = right.get index) :
    decodeInstruction right = decodeInstruction left ∧
      emulate zero right features machine = some (.success, state) := by
  rcases
      (emulate_success_iff zero left features machine).mp ⟨state, success⟩ with
    ⟨handler, selected⟩
  have decoded :=
    decodeInstruction_congr (escaped_of_selected selected) agree
  refine ⟨decoded.symm, ?_⟩
  rw [← success]
  simp only [emulate, emulateInstruction, decoded]

/-- POPCNT is emulated alike whatever follows its four bytes. -/
theorem popcnt_selfDelimiting :
    ∃ state,
      emulate default
          (codeOfBytes [0xF3#8, 0x0F#8, 0xB8#8, 0xC1#8]) {}
          ⟨fun _ => 0#64, fun _ => 0#8⟩ =
        some (.success, state) ∧
      emulate default
          (codeOfBytes [0xF3#8, 0x0F#8, 0xB8#8, 0xC1#8, 0x90#8]) {}
          ⟨fun _ => 0#64, fun _ => 0#8⟩ =
        some (.success, state) := by
  obtain ⟨state, success⟩ :=
    (emulate_success_iff default
      (codeOfBytes [0xF3#8, 0x0F#8, 0xB8#8, 0xC1#8]) {}
      ⟨fun _ => 0#64, fun _ => 0#8⟩).mpr ⟨.popcnt, by decide⟩
  have delimited :=
    emulate_selfDelimiting _ _
      (codeOfBytes [0xF3#8, 0x0F#8, 0xB8#8, 0xC1#8, 0x90#8]) _ _ success
      (by decide)
  exact ⟨state, success, delimited.2⟩

/-! ## Truncated instructions -/

/-- The operand bytes which an instruction calls for were found. -/
structure DecodeComplete (inst : DecodedInstruction) : Prop where
  modrm : inst.hasModrm = true
  displacement :
    displacementLength inst.modrm inst.sib ≠ 0 → inst.hasDisplacement = true

/-- The ModRM byte or the displacement lies beyond the length limit. -/
def CrossesLimit (ip : Code) : Prop :=
  15 ≤ modrmIndex ip ∨
    displacementSizeAt ip (modrmIndex ip) ≠ 0 ∧
      15 < displacementIndex ip (modrmIndex ip) +
        displacementSizeAt ip (modrmIndex ip)

/-- The displacement length depends on a SIB byte only if there is one. -/
theorem displacementLength_sib (modrm sib : Byte) :
    displacementLength modrm (if needsSib modrm then sib else 0#8) =
      displacementLength modrm sib := by
  cases needed : needsSib modrm with
  | true => rfl
  | false =>
      have shape :
          (decodeModrm modrm).mod = 0#8 → (decodeModrm modrm).rm ≠ 4#8 := by
        intro mod0 rm4
        simp [needsSib, isMemoryForm, mod0, rm4] at needed
      simp only [displacementLength]
      by_cases mod0 : (decodeModrm modrm).mod = 0#8
      · simp [mod0, shape mod0]
      · simp [mod0]

theorem decode_displacementLength
    {ip : Code} (present : modrmPresent ip = true) :
    displacementLength (decodeInstruction ip).modrm
        (decodeInstruction ip).sib =
      displacementSizeAt ip (modrmIndex ip) := by
  rcases decode_operands present with ⟨-, modrm, -, -, -, sib, -⟩
  rw [modrm, sib, displacementLength_sib, displacementSizeAt]

/-- For an opcode with ModRM, completeness is staying within the limit. -/
theorem decodeComplete_iff
    {ip : Code}
    (takes : (opcodeMap ip).takesModrm (opcodeByte ip) = true) :
    DecodeComplete (decodeInstruction ip) ↔ ¬ CrossesLimit ip := by
  rw [CrossesLimit]
  cases present : modrmPresent ip with
  | false =>
      have beyond : 15 ≤ modrmIndex ip := by
        simpa [modrmPresent, takes] using present
      have missing := (decode_noOperands present).1
      constructor
      · intro complete
        have found := complete.modrm
        simp [missing] at found
      · intro within
        exact absurd (.inl beyond) within
  | true =>
      have room : modrmIndex ip < 15 := by
        simpa [modrmPresent, takes] using present
      have size := decode_displacementLength present
      rcases decode_operands present with
        ⟨modrm, -, -, -, -, -, displacement, -⟩
      constructor
      · rintro complete (beyond | ⟨called, beyond⟩)
        · omega
        · have found := complete.displacement (by rw [size]; exact called)
          rw [displacement, decide_eq_true_iff] at found
          have within := found.2
          omega
      · intro within
        refine ⟨modrm, fun called => ?_⟩
        rw [size] at called
        rw [displacement, decide_eq_true_iff]
        refine ⟨called, ?_⟩
        by_contra beyond
        exact within (.inr ⟨called, by omega⟩)

/-- A truncated instruction is reported and never emulated. -/
structure TruncationRejected (ip : Code) (features : CpuFeatures) :
    Prop where
  complete :
    ∀ zero machine state,
      emulate zero ip features machine = some (.success, state) →
        DecodeComplete (decodeInstruction ip)
  rejected :
    CrossesLimit ip → ∀ zero machine, ∃ state,
      emulate zero ip features machine =
          some (.unrecognizedInstruction, state) ∧
        state.machine = machine

/--
Truncated instructions are rejected exactly as long as their opcode has no
handler.
-/
theorem truncationRejected_iff (ip : Code) (features : CpuFeatures) :
    TruncationRejected ip features ↔
      ¬ (OpcodeHandled ip features ∧ CrossesLimit ip) := by
  rw [opcodeHandled_iff]
  constructor
  · rintro rejects ⟨⟨handler, selected⟩, crosses⟩
    rcases
        (emulate_success_iff default ip features
          ⟨fun _ => 0#64, fun _ => 0#8⟩).mpr ⟨handler, selected⟩ with
      ⟨state, success⟩
    have complete := rejects.complete _ _ state success
    rw [decodeComplete_iff (takesModrm_of_selected selected)] at complete
    exact complete crosses
  · intro within
    constructor
    · intro zero machine state success
      rcases
          (emulate_success_iff zero ip features machine).mp ⟨state, success⟩ with
        ⟨handler, selected⟩
      rw [decodeComplete_iff (takesModrm_of_selected selected)]
      exact fun crosses => within ⟨⟨handler, selected⟩, crosses⟩
    · intro crosses zero machine
      cases selected : selectedHandler ip features with
      | none => exact ⟨_, emulate_none zero machine selected, rfl⟩
      | some handler => exact absurd ⟨⟨handler, selected⟩, crosses⟩ within

/--
Thirteen F3 prefixes push the ModRM byte of TZCNT beyond the limit, and the
instruction is emulated nevertheless.
-/
theorem longTzcnt_notRejected :
    ¬ TruncationRejected
      (codeOfBytes (List.replicate 13 0xF3#8 ++ [0x0F#8, 0xBC#8])) {} := by
  intro rejects
  obtain ⟨state, success⟩ :=
    (emulate_success_iff default
      (codeOfBytes (List.replicate 13 0xF3#8 ++ [0x0F#8, 0xBC#8])) {}
      ⟨fun _ => 0#64, fun _ => 0#8⟩).mpr ⟨.lzcntTzcnt false, by decide⟩
  have found := (rejects.complete _ _ state success).modrm
  exact absurd found (by decide)

end BadCpu
