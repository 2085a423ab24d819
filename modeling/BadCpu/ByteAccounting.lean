import BadCpu.InstructionLayout

/-!
# Byte accounting and the length limit

Two laws about the positions of the decoder.  Every consumed byte should belong
to exactly one part of the instruction, and no byte beyond the fifteenth should
be touched.  Both are characterised exactly: the first fails for the one-byte
opcode map, where the position is left on the opcode; the second fails when the
opcode or a SIB byte crosses the limit, because only some of the reads are
guarded.
-/

namespace BadCpu

open AdaptiveQuery

/-! ## The parts of an instruction -/

/-- The number of bytes of a VEX prefix. -/
def vexLength (ip : Code) : ℕ :=
  if headerByte ip 0 = 0xC4#8 then 3
  else if headerByte ip 0 = 0xC5#8 then 2
  else 0

/-- The number of opcode bytes which are not part of a VEX prefix. -/
def opcodeBytesLength (inst : DecodedInstruction) : ℕ :=
  if inst.isVex then 1 else inst.opcodeLen

/-- The number of displacement bytes of a decoded instruction. -/
def displacementBytes (inst : DecodedInstruction) : ℕ :=
  if inst.hasDisplacement then
    if (decodeModrm inst.modrm).mod = 1#8 then 1 else 4
  else 0

/-- The index behind the last opcode byte, counted part by part. -/
def opcodeEnd (ip : Code) : ℕ :=
  (legacyPrefixes ip).length + rexLength ip + vexLength ip +
    opcodeBytesLength (decodeInstruction ip)

/-- Every consumed byte belongs to exactly one part of the instruction. -/
structure BytesAccounted (ip : Code) : Prop where
  length :
    (decodeInstruction ip).len.toNat =
      opcodeEnd ip + (decodeInstruction ip).hasModrm.toNat +
        (decodeInstruction ip).hasSib.toNat +
        displacementBytes (decodeInstruction ip)
  modrm :
    (decodeInstruction ip).hasModrm = true →
      (decodeInstruction ip).modrm = ip.get (opcodeEnd ip)

theorem displacementSizeAt_eq
    {ip : Code} {pos : ℕ} (called : displacementSizeAt ip pos ≠ 0) :
    displacementSizeAt ip pos =
      if (decodeModrm (ip.get pos)).mod = 1#8 then 1 else 4 := by
  rw [displacementSizeAt, displacementLength] at called ⊢
  split_ifs at called ⊢ <;> first | rfl | exact absurd rfl called

/-- Behind the ModRM index the accounting is always right. -/
theorem decodedEnd_eq (ip : Code) :
    decodedEnd ip =
      modrmIndex ip + (decodeInstruction ip).hasModrm.toNat +
        (decodeInstruction ip).hasSib.toNat +
        displacementBytes (decodeInstruction ip) := by
  cases present : modrmPresent ip with
  | false =>
      rcases decode_noOperands present with
        ⟨modrm, -, -, -, sib, -, displacement, -⟩
      simp [decodedEnd, present, displacementBytes, modrm, sib, displacement]
  | true =>
      rcases decode_operands present with
        ⟨modrm, byte, -, -, sib, -, displacement, -⟩
      simp only [decodedEnd, present, if_true, displacementBytes, modrm, byte,
        sib, displacement, operandEnd]
      by_cases fits :
          displacementFits (displacementIndex ip (modrmIndex ip))
            (displacementSizeAt ip (modrmIndex ip))
      · simp only [fits, if_true, decide_true]
        rw [displacementSizeAt_eq fits.1]
        rfl
      · simp only [fits, if_false, decide_false, Bool.false_eq_true]
        rfl

/-- The opcode parts end behind the opcode byte. -/
theorem opcodeEnd_eq (ip : Code) : opcodeEnd ip = opcodeIndex ip + 1 := by
  have parts :
      vexLength ip + opcodeBytesLength (decodeInstruction ip) =
        (opcodeForm ip).opcodeOffset + 1 := by
    simp only [opcodeBytesLength, decode_isVex, decode_opcodeLen]
    rw [vexLength, opcodeMap, opcodeForm]
    split_ifs <;> simp_all [OpcodeForm.isVex]
  rw [opcodeEnd, opcodeIndex, headerEnd, Nat.add_assoc, parts]
  rfl

/--
The accounting is right exactly when the opcode is not a legacy one-byte
opcode.
-/
theorem bytesAccounted_iff (ip : Code) :
    BytesAccounted ip ↔
      headerByte ip 0 = 0x0F#8 ∨ headerByte ip 0 = 0xC4#8 ∨
        headerByte ip 0 = 0xC5#8 := by
  rw [← not_iff_not, ← opcodeForm_eq_oneByte_iff]
  constructor
  · intro unaccounted
    by_contra escaped
    have index := modrmIndex_escaped escaped
    apply unaccounted
    constructor
    · rw [decode_len, decodedEnd_eq, opcodeEnd_eq, index]
    · intro modrm
      rw [decode_hasModrm] at modrm
      rw [(decode_operands modrm).2.1, opcodeEnd_eq, index]
  · intro oneByte accounted
    have index := modrmIndex_oneByte oneByte
    have length := accounted.length
    rw [decode_len, decodedEnd_eq, opcodeEnd_eq, index] at length
    omega

/-- The repository's own test of `ADD` loses the opcode byte. -/
theorem add_notAccounted :
    (decodeInstruction (codeOfBytes [0x48#8, 0x01#8, 0xD8#8])).len = 2#8 ∧
      ¬ BytesAccounted (codeOfBytes [0x48#8, 0x01#8, 0xD8#8]) := by
  refine ⟨by decide, fun accounted => ?_⟩
  exact absurd accounted.length (by decide)

/-! ## The length limit -/

/-- The decoder reads at indices `0` to `14` and reports at most fifteen bytes. -/
def WithinLengthLimit (ip : Code) : Prop :=
  (∀ index ∈ bytesRead ip, index < 15) ∧
    (decodeInstruction ip).len.toNat ≤ 15

/-- Whether the byte at the ModRM index is a ModRM byte which needs a SIB byte. -/
def callsForSib (ip : Code) : Bool :=
  (opcodeMap ip).takesModrm (opcodeByte ip) &&
    needsSib (ip.get (modrmIndex ip))

theorem operandEnd_le
    {ip : Code} {pos : ℕ} (room : displacementIndex ip pos ≤ 15) :
    operandEnd ip pos ≤ 15 := by
  rw [operandEnd]
  split_ifs with fits
  · exact fits.2
  · exact room

/--
The limit is respected exactly when the opcode ends within fifteen bytes and no
SIB byte is called for at index fifteen.
-/
theorem withinLengthLimit_iff (ip : Code) :
    WithinLengthLimit ip ↔
      opcodeIndex ip < 15 ∧ ¬ (modrmIndex ip = 14 ∧ callsForSib ip = true) := by
  have headIndex : modrmIndex ip ≤ opcodeIndex ip + 1 := by
    by_cases oneByte : opcodeForm ip = .oneByte
    · rw [modrmIndex_oneByte oneByte]
      omega
    · rw [modrmIndex_escaped oneByte]
  constructor
  · rintro ⟨reads, -⟩
    rw [bytesRead_eq] at reads
    constructor
    · exact reads _
        (List.mem_append_left _ (opcodeIndex_mem_decodeHead_asked ip))
    · rintro ⟨last, calls⟩
      rcases Bool.and_eq_true_iff.mp calls with ⟨takes, needed⟩
      have beyond :=
        reads _
          (List.mem_append_right _
            (sib_mem_operandBytes_asked (opcodeInstruction ip)
              ⟨takes, by omega⟩ needed))
      omega
  · rintro ⟨opcode, noSib⟩
    constructor
    · intro index member
      rw [bytesRead_eq, List.mem_append] at member
      rcases member with inHead | inOperands
      · have bound := mem_decodeHead_asked inHead
        omega
      · rcases mem_operandBytes_asked inOperands with ⟨⟨takes, room⟩, -, beyond⟩
        by_contra tooFar
        rcases beyond (by omega) with ⟨needed, place⟩
        exact noSib ⟨by omega, by simp [callsForSib, takes, needed]⟩
    · rw [decode_len]
      rw [decodedEnd]
      split_ifs with present
      · rcases Bool.and_eq_true_iff.mp present with ⟨takes, room⟩
        have index : modrmIndex ip < 15 := of_decide_eq_true room
        apply operandEnd_le
        rw [displacementIndex, sibLength]
        cases needed : needsSib (ip.get (modrmIndex ip)) with
        | false =>
            simp only [Bool.toNat_false]
            omega
        | true =>
            have notLast : modrmIndex ip ≠ 14 := fun last =>
              noSib ⟨last, by simp [callsForSib, takes, needed]⟩
            simp only [Bool.toNat_true]
            omega
      · omega

/-- Fifteen prefixes push the opcode, and with it the length, over the limit. -/
theorem prefixRun_notWithinLengthLimit :
    ¬ WithinLengthLimit
      (codeOfBytes (List.replicate 15 0x66#8 ++ [0x0F#8, 0xB8#8])) := by
  rintro ⟨-, length⟩
  exact absurd length (by decide)

end BadCpu
