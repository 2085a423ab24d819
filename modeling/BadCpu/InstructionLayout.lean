import BadCpu.OpcodeLayout

/-!
# The operands and the whole instruction

ModRM, SIB and displacement are described by the ModRM byte and the SIB byte
alone, in the architecture's own terms: which bytes are called for, and how
many displacement bytes follow.  Together with the header and the opcode this
gives a closed description of `decode_instruction`, field by field, and of the
bytes it reads.
-/

namespace BadCpu

open AdaptiveQuery

/-! ## What a ModRM byte calls for -/

/-- Whether a ModRM byte denotes a memory operand. -/
def isMemoryForm (modrm : Byte) : Bool :=
  (decodeModrm modrm).mod != 3#8

/-- Whether a ModRM byte is followed by a SIB byte. -/
def needsSib (modrm : Byte) : Bool :=
  isMemoryForm modrm && (decodeModrm modrm).rm == 4#8

def sibLength (modrm : Byte) : ℕ :=
  (needsSib modrm).toNat

/-- The number of displacement bytes behind ModRM and SIB. -/
def displacementLength (modrm sib : Byte) : ℕ :=
  if (decodeModrm modrm).mod = 1#8 then 1
  else if (decodeModrm modrm).mod = 2#8 then 4
  else if (decodeModrm modrm).mod = 0#8 ∧
      ((decodeModrm modrm).rm = 5#8 ∨
        (decodeModrm modrm).rm = 4#8 ∧ (decodeSib sib).base = 5#8) then 4
  else 0

/-- The source's size computation without SIB is the architectural one. -/
theorem displacementSize_eq
    {modrm : Byte} (noSib : (decodeModrm modrm).rm ≠ 4#8) (sib : Byte) :
    displacementSize (decodeModrm modrm).mod (decodeModrm modrm).rm false =
      displacementLength modrm sib := by
  rw [displacementSize, displacementLength]
  by_cases mod0 : (decodeModrm modrm).mod = 0#8
  · by_cases rm5 : (decodeModrm modrm).rm = 5#8 <;>
      simp [mod0, rm5, noSib]
  · by_cases mod1 : (decodeModrm modrm).mod = 1#8 <;>
      by_cases mod2 : (decodeModrm modrm).mod = 2#8 <;>
      simp [mod0, mod1, mod2]

/-- The source's size computation with SIB is the architectural one. -/
theorem displacementSizeWithSib_eq
    {modrm : Byte} (withSib : (decodeModrm modrm).rm = 4#8) (sib : Byte) :
    displacementSizeWithSib (decodeModrm modrm).mod (decodeSib sib).base =
      displacementLength modrm sib := by
  rw [displacementSizeWithSib, displacementLength]
  by_cases mod0 : (decodeModrm modrm).mod = 0#8
  · by_cases base5 : (decodeSib sib).base = 5#8 <;>
      simp [mod0, base5, withSib]
  · by_cases mod1 : (decodeModrm modrm).mod = 1#8 <;>
      by_cases mod2 : (decodeModrm modrm).mod = 2#8 <;>
      simp [mod0, mod1, mod2]

theorem displacementLength_register
    {modrm : Byte} (register : isMemoryForm modrm = false) (sib : Byte) :
    displacementLength modrm sib = 0 := by
  have mod3 : (decodeModrm modrm).mod = 3#8 := by
    simpa [isMemoryForm] using register
  simp [displacementLength, mod3]

/-! ## The displacement stage -/

/-- The value of a displacement of the given size, sign-extended. -/
def displacementValue (ip : Code) (index size : ℕ) : BitVec 32 :=
  if size = 4 then
    ip.get (index + 3) ++ ip.get (index + 2) ++ ip.get (index + 1) ++
      ip.get index
  else
    (ip.get index).signExtend 32

/-- Whether a displacement is called for and ends within fifteen bytes. -/
def displacementFits (index size : ℕ) : Prop :=
  size ≠ 0 ∧ index + size ≤ 15

instance (index size : ℕ) : Decidable (displacementFits index size) :=
  inferInstanceAs (Decidable (_ ∧ _))

theorem readDisplacement_run
    (ip : Code) (inst : DecodedInstruction) (pos size : ℕ) :
    (readDisplacement inst pos size).run ip.get =
      if displacementFits pos size then
        ({ inst with
            hasDisplacement := true
            displacement := displacementValue ip pos size },
          pos + size)
      else
        (inst, pos) := by
  have fits :
      ((size : Int) > 0 ∧ (pos : Int) + size ≤ 15) ↔
        displacementFits pos size := by
    rw [displacementFits]
    omega
  rw [readDisplacement]
  by_cases within : displacementFits pos size
  · rw [if_pos (fits.mpr within), if_pos within]
    by_cases four : size = 4
    · subst four
      simp [displacementValue]
    · have notFour : (size : Int) ≠ 4 := by omega
      simp [displacementValue, four, notFour]
  · rw [if_neg (mt fits.mp within), if_neg within]
    simp

/-- The displacement stage stays within fifteen bytes. -/
theorem mem_readDisplacement_asked
    {ip : Code} {inst : DecodedInstruction} {pos size index : ℕ}
    (member : index ∈ (readDisplacement inst pos size).asked ip.get) :
    displacementFits pos size ∧ index < pos + size := by
  rw [readDisplacement] at member
  split_ifs at member with fits four
  · have four' : size = 4 := by omega
    subst four'
    simp at member
    rw [displacementFits]
    omega
  · simp at member
    rw [displacementFits]
    omega
  · simp at member

/-! ## The operand stage -/

/-- The SIB byte position is directly behind ModRM. -/
def displacementIndex (ip : Code) (pos : ℕ) : ℕ :=
  pos + 1 + sibLength (ip.get pos)

/-- The number of displacement bytes called for behind a ModRM position. -/
def displacementSizeAt (ip : Code) (pos : ℕ) : ℕ :=
  displacementLength (ip.get pos) (ip.get (pos + 1))

/-- The first index behind the operand bytes which the decoder consumes. -/
def operandEnd (ip : Code) (pos : ℕ) : ℕ :=
  if displacementFits (displacementIndex ip pos) (displacementSizeAt ip pos) then
    displacementIndex ip pos + displacementSizeAt ip pos
  else
    displacementIndex ip pos

theorem displacementIndex_le_operandEnd (ip : Code) (pos : ℕ) :
    displacementIndex ip pos ≤ operandEnd ip pos := by
  rw [operandEnd]
  split_ifs
  · exact Nat.le_add_right _ _
  · exact Nat.le_refl _

theorem modrm_lt_operandEnd (ip : Code) (pos : ℕ) :
    pos < operandEnd ip pos := by
  have behind := displacementIndex_le_operandEnd ip pos
  rw [displacementIndex] at behind
  omega

/-- A displacement within the limit is consumed. -/
theorem operandEnd_of_fits
    {ip : Code} {pos : ℕ}
    (fits :
      displacementFits (displacementIndex ip pos) (displacementSizeAt ip pos)) :
    operandEnd ip pos =
      displacementIndex ip pos + displacementSizeAt ip pos :=
  if_pos fits

/-- The register number `REX bit : three-bit field`. -/
def extendField (field rex : Byte) (bit : ℕ) : Byte :=
  field ||| (((rex >>> bit) &&& 1#8) <<< 3)

/-- The instruction with the operand bytes at a ModRM position. -/
def withOperands (inst : DecodedInstruction) (ip : Code) (pos : ℕ) :
    DecodedInstruction :=
  let modrm := ip.get pos
  let fits :=
    displacementFits (displacementIndex ip pos) (displacementSizeAt ip pos)
  { inst with
    modrm := modrm
    reg := extendField (decodeModrm modrm).reg inst.rex 2
    rm := extendField (decodeModrm modrm).rm inst.rex 0
    hasModrm := true
    sib := if needsSib modrm then ip.get (pos + 1) else inst.sib
    hasSib := needsSib modrm || inst.hasSib
    hasDisplacement := fits || inst.hasDisplacement
    displacement :=
      if fits then
        displacementValue ip (displacementIndex ip pos)
          (displacementSizeAt ip pos)
      else inst.displacement }

theorem operandBytes_run
    (ip : Code) (needs : Bool) (inst : DecodedInstruction) (pos : ℕ) :
    (operandBytes needs inst pos).run ip.get =
      if needs ∧ pos < 15 then (withOperands inst ip pos, operandEnd ip pos)
      else (inst, pos) := by
  rw [operandBytes]
  split_ifs with present
  · simp only [Query.run_bind, Query.run_read]
    by_cases memory : (decodeModrm (ip.get pos)).mod ≠ 3#8
    · by_cases sib : (decodeModrm (ip.get pos)).rm = 4#8
      · have needed : needsSib (ip.get pos) = true := by
          simp [needsSib, isMemoryForm, memory, sib]
        rw [if_pos memory, if_pos sib]
        simp only [Query.run_bind, Query.run_read,
          displacementSizeWithSib_eq sib, readDisplacement_run]
        by_cases fits :
            displacementFits (pos + 2)
              (displacementLength (ip.get pos) (ip.get (pos + 1)))
        · simp [withOperands, operandEnd, displacementIndex,
            displacementSizeAt, sibLength, needed, fits, extendField]
        · simp [withOperands, operandEnd, displacementIndex,
            displacementSizeAt, sibLength, needed, fits, extendField]
      · have notNeeded : needsSib (ip.get pos) = false := by
          simp [needsSib, sib]
        rw [if_pos memory, if_neg sib,
          displacementSize_eq sib (ip.get (pos + 1)), readDisplacement_run]
        by_cases fits :
            displacementFits (pos + 1)
              (displacementLength (ip.get pos) (ip.get (pos + 1)))
        · simp [withOperands, operandEnd, displacementIndex,
            displacementSizeAt, sibLength, notNeeded, fits, extendField]
        · simp [withOperands, operandEnd, displacementIndex,
            displacementSizeAt, sibLength, notNeeded, fits, extendField]
    · have register : isMemoryForm (ip.get pos) = false := by
        simpa [isMemoryForm] using memory
      have notNeeded : needsSib (ip.get pos) = false := by
        simp [needsSib, register]
      rw [if_neg memory]
      simp [withOperands, operandEnd, displacementIndex, displacementSizeAt,
        sibLength, notNeeded, displacementLength_register register,
        displacementFits, extendField]
  · simp

/--
The operand stage reads only bytes it consumes.  The one byte which may lie
beyond the length limit is a SIB byte.
-/
theorem mem_operandBytes_asked
    {ip : Code} {needs : Bool} {inst : DecodedInstruction} {pos index : ℕ}
    (member : index ∈ (operandBytes needs inst pos).asked ip.get) :
    (needs = true ∧ pos < 15) ∧ index < operandEnd ip pos ∧
      (15 ≤ index → needsSib (ip.get pos) = true ∧ index = pos + 1) := by
  have consumed := displacementIndex_le_operandEnd ip pos
  rw [operandBytes] at member
  split_ifs at member with present
  · refine ⟨present, ?_⟩
    simp only [Query.asked_bind, Query.run_read, Query.asked_read,
      List.singleton_append, List.mem_cons] at member
    rcases member with modrm | member
    · have behind := modrm_lt_operandEnd ip pos
      omega
    · split_ifs at member with memory sib
      · have needed : needsSib (ip.get pos) = true := by
          simp [needsSib, isMemoryForm, memory, sib]
        have place : displacementIndex ip pos = pos + 2 := by
          simp [displacementIndex, sibLength, needed]
        simp only [Query.asked_bind, Query.run_read, Query.asked_read,
          List.singleton_append, List.mem_cons,
          displacementSizeWithSib_eq sib] at member
        rcases member with sibByte | displacement
        · exact ⟨by omega, fun _ => ⟨needed, sibByte⟩⟩
        · have bounds := mem_readDisplacement_asked displacement
          have exact := operandEnd_of_fits (by rw [place]; exact bounds.1)
          have within := bounds.1.2
          rw [displacementSizeAt] at exact
          omega
      · rw [displacementSize_eq sib (ip.get (pos + 1))] at member
        have bounds := mem_readDisplacement_asked member
        have place : displacementIndex ip pos = pos + 1 := by
          simp [displacementIndex, sibLength, needsSib, sib]
        have exact := operandEnd_of_fits (by rw [place]; exact bounds.1)
        have within := bounds.1.2
        rw [displacementSizeAt] at exact
        omega
      · simp at member
  · simp at member

/-- A SIB byte which is called for is read, wherever it lies. -/
theorem sib_mem_operandBytes_asked
    {ip : Code} {needs : Bool} (inst : DecodedInstruction) {pos : ℕ}
    (present : needs = true ∧ pos < 15)
    (needed : needsSib (ip.get pos) = true) :
    pos + 1 ∈ (operandBytes needs inst pos).asked ip.get := by
  have shape :
      (decodeModrm (ip.get pos)).mod ≠ 3#8 ∧
        (decodeModrm (ip.get pos)).rm = 4#8 := by
    simpa [needsSib, isMemoryForm] using needed
  rw [operandBytes]
  rw [if_pos present]
  simp [shape]

/-! ## The whole instruction -/

/-- Whether the decoder finds a ModRM byte. -/
def modrmPresent (ip : Code) : Bool :=
  (opcodeMap ip).takesModrm (opcodeByte ip) && decide (modrmIndex ip < 15)

/-- The instruction before its operand bytes. -/
def opcodeInstruction (ip : Code) : DecodedInstruction :=
  { withOpcode (prefixedInstruction ip) (opcodeMap ip) (opcodeByte ip) with
    isSimd := (opcodeMap ip).isSimd (opcodeByte ip) }

/-- The instruction before its size and its length. -/
def operandInstruction (ip : Code) : DecodedInstruction :=
  if modrmPresent ip then
    withOperands (opcodeInstruction ip) ip (modrmIndex ip)
  else
    opcodeInstruction ip

/-- The number of bytes which the decoder consumes. -/
def decodedEnd (ip : Code) : ℕ :=
  if modrmPresent ip then operandEnd ip (modrmIndex ip) else modrmIndex ip

/-- The decoder computes what the layout of the stream describes. -/
theorem decodeInstruction_eq (ip : Code) :
    decodeInstruction ip =
      finishDecode (operandInstruction ip) (decodedEnd ip) := by
  have present :
      ((opcodeMap ip).takesModrm (opcodeByte ip) = true ∧
        (layoutHead ip).pos < 15) ↔ modrmPresent ip = true := by
    simp [modrmPresent, layoutHead]
  simp only [decodeInstruction, decodeProgram, Query.run_bind,
    (decodeHead_spec ip).1, operandBytes_run, Query.run_pure,
    needsModrm_layoutHead, isSimdOpcode_layoutHead, present,
    operandInstruction, decodedEnd]
  split_ifs
  · rfl
  · rfl

/-- The bytes which the decoder reads. -/
theorem bytesRead_eq (ip : Code) :
    bytesRead ip =
      decodeHead.asked ip.get ++
        (operandBytes ((opcodeMap ip).takesModrm (opcodeByte ip))
          (opcodeInstruction ip) (modrmIndex ip)).asked ip.get := by
  simp only [bytesRead, decodeProgram, Query.asked_bind,
    (decodeHead_spec ip).1, Query.asked_pure, List.append_nil,
    needsModrm_layoutHead, isSimdOpcode_layoutHead]
  rfl

/-! ## Fields of the decoded instruction -/

theorem decodedEnd_le (ip : Code) : decodedEnd ip ≤ 19 := by
  have index := modrmIndex_le ip
  rw [decodedEnd]
  split_ifs with present
  · have room : modrmIndex ip < 15 := by
      simpa [modrmPresent] using (Bool.and_eq_true_iff.mp present).2
    have sib : sibLength (ip.get (modrmIndex ip)) ≤ 1 := Bool.toNat_le _
    rw [operandEnd]
    split_ifs with fits
    · have within := fits.2
      omega
    · rw [displacementIndex]
      omega
  · exact index

/-- The reported length is the number of consumed bytes. -/
theorem decode_len (ip : Code) :
    (decodeInstruction ip).len.toNat = decodedEnd ip := by
  have bound := decodedEnd_le ip
  rw [decodeInstruction_eq]
  exact Nat.mod_eq_of_lt (by omega)

theorem decode_isVex (ip : Code) :
    (decodeInstruction ip).isVex = (opcodeForm ip).isVex := by
  rw [decodeInstruction_eq, ← prefixedInstruction_isVex]
  simp only [finishDecode, operandInstruction]
  split_ifs <;> rfl

theorem decode_opcode (ip : Code) :
    (decodeInstruction ip).opcode =
      (opcodeMap ip).opcode (opcodeByte ip) := by
  rw [decodeInstruction_eq]
  simp only [finishDecode, operandInstruction]
  split_ifs <;> rfl

theorem decode_opcodeLen (ip : Code) :
    (decodeInstruction ip).opcodeLen = (opcodeMap ip).opcodeLen := by
  rw [decodeInstruction_eq]
  simp only [finishDecode, operandInstruction]
  split_ifs <;> rfl

/-- Operand bytes leave REX and the prefix flags alone. -/
theorem decode_prefixes (ip : Code) :
    (decodeInstruction ip).rex = (prefixedInstruction ip).rex ∧
      (decodeInstruction ip).has66 = (prefixedInstruction ip).has66 ∧
      (decodeInstruction ip).hasF2 = (prefixedInstruction ip).hasF2 ∧
      (decodeInstruction ip).hasF3 = (prefixedInstruction ip).hasF3 := by
  rw [decodeInstruction_eq]
  simp only [finishDecode, operandInstruction]
  split_ifs <;> exact ⟨rfl, rfl, rfl, rfl⟩

/-- Before its operand bytes an instruction has none of their fields. -/
theorem opcodeInstruction_blank (ip : Code) :
    opcodeInstruction ip =
      { opcodeInstruction ip with
        modrm := 0#8
        sib := 0#8
        displacement := 0#32
        reg := 0#8
        rm := 0#8
        hasModrm := false
        hasSib := false
        hasDisplacement := false } := by
  rw [opcodeInstruction, prefixedInstruction]
  cases opcodeForm ip <;> rfl

/-- The operand fields, when the decoder finds a ModRM byte. -/
theorem decode_operands
    {ip : Code} (present : modrmPresent ip = true) :
    let inst := decodeInstruction ip
    let pos := modrmIndex ip
    inst.hasModrm = true ∧
      inst.modrm = ip.get pos ∧
      inst.reg = extendField (decodeModrm (ip.get pos)).reg inst.rex 2 ∧
      inst.rm = extendField (decodeModrm (ip.get pos)).rm inst.rex 0 ∧
      inst.hasSib = needsSib (ip.get pos) ∧
      inst.sib = (if needsSib (ip.get pos) then ip.get (pos + 1) else 0#8) ∧
      inst.hasDisplacement =
        decide (displacementFits (displacementIndex ip pos)
          (displacementSizeAt ip pos)) ∧
      inst.displacement =
        if displacementFits (displacementIndex ip pos)
            (displacementSizeAt ip pos) then
          displacementValue ip (displacementIndex ip pos)
            (displacementSizeAt ip pos)
        else 0#32 := by
  have blank := opcodeInstruction_blank ip
  simp only [decodeInstruction_eq, finishDecode, operandInstruction, present,
    if_true]
  rw [blank]
  simp [withOperands]

/-- Without a ModRM byte the operand fields keep their defaults. -/
theorem decode_noOperands
    {ip : Code} (absent : modrmPresent ip = false) :
    let inst := decodeInstruction ip
    inst.hasModrm = false ∧
      inst.modrm = 0#8 ∧ inst.reg = 0#8 ∧ inst.rm = 0#8 ∧
      inst.hasSib = false ∧ inst.sib = 0#8 ∧
      inst.hasDisplacement = false ∧ inst.displacement = 0#32 := by
  have blank := opcodeInstruction_blank ip
  simp only [decodeInstruction_eq, finishDecode, operandInstruction, absent]
  rw [if_neg Bool.false_ne_true, blank]
  simp

theorem decode_hasModrm (ip : Code) :
    (decodeInstruction ip).hasModrm = modrmPresent ip := by
  cases present : modrmPresent ip with
  | true => exact (decode_operands present).1
  | false => exact (decode_noOperands present).1

end BadCpu
