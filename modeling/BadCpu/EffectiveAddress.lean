import BadCpu.InstructionBoundary

/-!
# Effective addresses

The address of a memory operand as the architecture defines it, from the raw
three-bit fields and the REX bits, compared with the address which
`get_rm_value` computes from the extended register numbers.  The two agree
unless REX.B is set in front of a SIB byte: then the extended number of the
ModRM field is twelve, and the emulator takes it for a plain register.
-/

namespace BadCpu

/-! ## The architectural address -/

/-- The extension bit of the register field of ModRM and SIB. -/
def rexB (inst : DecodedInstruction) : Byte :=
  (inst.rex >>> 0) &&& 1#8

/-- The index register of a SIB byte, scaled. -/
def scaledIndex (inst : DecodedInstruction) (gregs : Greg → Word) : Word :=
  (if sibIndexNumber inst = 4#8 then 0#64
    else regValue gregs (sibIndexNumber inst)) <<<
      (decodeSib inst.sib).scale.toNat

/-- Without a base register a SIB byte is followed by a 32-bit displacement. -/
def lacksBase (inst : DecodedInstruction) : Prop :=
  (decodeModrm inst.modrm).mod = 0#8 ∧ (decodeSib inst.sib).base = 5#8

instance (inst : DecodedInstruction) : Decidable (lacksBase inst) :=
  inferInstanceAs (Decidable (_ ∧ _))

/-- The base register of a SIB byte. -/
def sibBase (inst : DecodedInstruction) (gregs : Greg → Word) : Word :=
  if lacksBase inst then 0#64 else regValue gregs (sibBaseNumber inst)

/-- The displacement, sign-extended to the width of an address. -/
def signedDisplacement (inst : DecodedInstruction) : Word :=
  inst.displacement.signExtend 64

/-- The effective address of a memory operand which is not relative to RIP. -/
def effectiveAddress (inst : DecodedInstruction) (gregs : Greg → Word) :
    Word :=
  if (decodeModrm inst.modrm).rm = 4#8 then
    sibBase inst gregs + scaledIndex inst gregs + signedDisplacement inst
  else
    regValue gregs (extendField (decodeModrm inst.modrm).rm inst.rex 0) +
      signedDisplacement inst

/-- The instructions to which this address applies. -/
structure PlainMemoryOperand (ip : Code) : Prop where
  complete : DecodeComplete (decodeInstruction ip)
  memory : (decodeModrm (decodeInstruction ip).modrm).mod ≠ 3#8
  addressSize : 0x67#8 ∉ legacyPrefixes ip
  segment : 0x64#8 ∉ legacyPrefixes ip ∧ 0x65#8 ∉ legacyPrefixes ip
  notRipRelative :
    ¬ ((decodeModrm (decodeInstruction ip).modrm).mod = 0#8 ∧
      (decodeModrm (decodeInstruction ip).modrm).rm = 5#8)

/-! ## Decoded fields of a memory operand -/

theorem decodeModrm_mod (modrm : Byte) :
    (decodeModrm modrm).mod = modrm >>> 6 := by
  decide +revert +kernel

/-- In the register form the handler reads the source register. -/
theorem rmValue_register
    {inst : DecodedInstruction} (register : (decodeModrm inst.modrm).mod = 3#8)
    (gregs : Greg → Word) :
    rmValue inst gregs = regValue gregs inst.rm := by
  rw [rmValue, ← decodeModrm_mod, if_pos register]

/-- One bit of a REX byte. -/
theorem rexBit_cases (rex : Byte) (bit : ℕ) :
    (rex >>> bit) &&& 1#8 = 0#8 ∨ (rex >>> bit) &&& 1#8 = 1#8 := by
  generalize rex >>> bit = shifted
  decide +revert +kernel

/-- A clear REX bit does not extend the field. -/
theorem extendField_clear
    {field rex : Byte} {bit : ℕ} (clear : (rex >>> bit) &&& 1#8 = 0#8) :
    extendField field rex bit = field := by
  simp [extendField, clear]

/-- A set REX bit selects one of the upper eight registers. -/
theorem extendField_set
    {field rex : Byte} {bit : ℕ} (set : (rex >>> bit) &&& 1#8 = 1#8) :
    extendField field rex bit = field ||| 8#8 := by
  rw [extendField, set]
  rfl

/-- A byte displacement is sign-extended once and for all. -/
theorem signExtend_byte (b : Byte) :
    ((b.signExtend 32).setWidth 8).signExtend 64 =
      (b.signExtend 32).signExtend 64 := by
  decide +revert +kernel

theorem modrmPresent_of_plain
    {ip : Code} (plain : PlainMemoryOperand ip) :
    modrmPresent ip = true := by
  rw [← decode_hasModrm]
  exact plain.complete.modrm

/-- A memory operand has a SIB byte exactly when its field is four. -/
theorem hasSib_iff
    {ip : Code} (plain : PlainMemoryOperand ip) :
    (decodeInstruction ip).hasSib = true ↔
      (decodeModrm (decodeInstruction ip).modrm).rm = 4#8 := by
  rcases decode_operands (modrmPresent_of_plain plain) with
    ⟨-, modrm, -, -, sib, -⟩
  have memory := plain.memory
  rw [modrm] at memory ⊢
  simp [sib, needsSib, isMemoryForm, memory]

/-- A byte displacement may be cut to its byte before the extension. -/
theorem signedDisplacement_byte
    {ip : Code} (present : modrmPresent ip = true)
    (mod1 : (decodeModrm (decodeInstruction ip).modrm).mod = 1#8) :
    ((decodeInstruction ip).displacement.setWidth 8).signExtend 64 =
      signedDisplacement (decodeInstruction ip) := by
  rcases decode_operands present with ⟨-, modrm, -, -, -, -, -, displacement⟩
  rw [modrm] at mod1
  have size : displacementSizeAt ip (modrmIndex ip) = 1 := by
    simp [displacementSizeAt, displacementLength, mod1]
  rw [signedDisplacement, displacement, size]
  split_ifs
  · exact signExtend_byte _
  · rfl

/-- Without a displacement its field is zero. -/
theorem signedDisplacement_zero
    {ip : Code} (plain : PlainMemoryOperand ip)
    (mod0 : (decodeModrm (decodeInstruction ip).modrm).mod = 0#8)
    (noDisplacement :
      (decodeModrm (decodeInstruction ip).modrm).rm = 4#8 →
        ¬ lacksBase (decodeInstruction ip)) :
    signedDisplacement (decodeInstruction ip) = 0#64 := by
  have present := modrmPresent_of_plain plain
  have size := decode_displacementLength present
  have empty :
      displacementLength (decodeInstruction ip).modrm
        (decodeInstruction ip).sib = 0 := by
    have notRip := plain.notRipRelative
    simp only [mod0, true_and] at notRip
    have based (sib : (decodeModrm (decodeInstruction ip).modrm).rm = 4#8) :
        (decodeSib (decodeInstruction ip).sib).base ≠ 5#8 := fun base =>
      noDisplacement sib ⟨mod0, base⟩
    simp only [displacementLength, mod0]
    simp [notRip]
    exact based
  rcases decode_operands present with ⟨-, -, -, -, -, -, -, displacement⟩
  have unfit :
      ¬ displacementFits (displacementIndex ip (modrmIndex ip))
        (displacementSizeAt ip (modrmIndex ip)) := by
    rw [← size, empty]
    exact fun fits => fits.1 rfl
  rw [signedDisplacement, displacement, if_neg unfit]
  rfl

/-! ## The address of the emulator -/

theorem decodeModrm_mod_cases (modrm : Byte) :
    (decodeModrm modrm).mod = 0#8 ∨ (decodeModrm modrm).mod = 1#8 ∨
      (decodeModrm modrm).mod = 2#8 ∨ (decodeModrm modrm).mod = 3#8 := by
  decide +revert +kernel

/-- The displacement which is added behind the address computation. -/
def lateDisplacement (inst : DecodedInstruction) : Word :=
  if (decodeModrm inst.modrm).mod = 0#8 then 0#64 else signedDisplacement inst

/-- The displacement of `mod` 1 and 2 is added at the end. -/
theorem rmValue_plain
    {ip : Code} (plain : PlainMemoryOperand ip) (gregs : Greg → Word) :
    rmValue (decodeInstruction ip) gregs =
      addressBaseValue (decodeInstruction ip) gregs +
        lateDisplacement (decodeInstruction ip) := by
  have byte := signedDisplacement_byte (modrmPresent_of_plain plain)
  have memory := plain.memory
  rw [rmValue, lateDisplacement]
  rw [← decodeModrm_mod]
  rcases decodeModrm_mod_cases (decodeInstruction ip).modrm with
    mod | mod | mod | mod
  · simp [mod]
  · simp [mod, byte mod]
  · simp [mod, signedDisplacement]
  · exact absurd mod memory

/-- A SIB operand, with the displacement in place of a missing base. -/
def scaledAddress (inst : DecodedInstruction) (gregs : Greg → Word) : Word :=
  (if lacksBase inst then signedDisplacement inst
    else regValue gregs (sibBaseNumber inst)) + scaledIndex inst gregs

/-- With REX.B clear the emulator reads the SIB byte. -/
theorem addressBaseValue_sib
    {ip : Code} (plain : PlainMemoryOperand ip) (gregs : Greg → Word)
    (field : (decodeModrm (decodeInstruction ip).modrm).rm = 4#8)
    (clear : rexB (decodeInstruction ip) = 0#8) :
    addressBaseValue (decodeInstruction ip) gregs =
      scaledAddress (decodeInstruction ip) gregs := by
  have sib := (hasSib_iff plain).mpr field
  rcases decode_operands (modrmPresent_of_plain plain) with ⟨-, modrm, -, rm, -⟩
  rw [← modrm, extendField_clear clear] at rm
  have base :
      sibBaseNumber (decodeInstruction ip) =
        (decodeSib (decodeInstruction ip).sib).base :=
    extendField_clear clear
  have lacks :
      (sibBaseNumber (decodeInstruction ip) = 5#8 ∧
          (decodeInstruction ip).modrm >>> 6 = 0#8) ↔
        lacksBase (decodeInstruction ip) := by
    rw [base, lacksBase, decodeModrm_mod]
    exact and_comm
  simp only [addressBaseValue, rm, field, sib, true_and, if_true, lacks]
  rfl

/-- Otherwise the emulator reads the extended register. -/
theorem addressBaseValue_register
    {inst : DecodedInstruction} (gregs : Greg → Word)
    (notSib : inst.rm ≠ 4#8)
    (notFive : (decodeModrm inst.modrm).mod = 0#8 → inst.rm ≠ 5#8) :
    addressBaseValue inst gregs = regValue gregs inst.rm := by
  rw [decodeModrm_mod] at notFive
  simp only [addressBaseValue, notSib, false_and, if_false]
  exact if_neg fun absolute => notFive absolute.2 absolute.1

/-- The architectural address of a SIB operand. -/
theorem effectiveAddress_sib
    {ip : Code} (plain : PlainMemoryOperand ip) (gregs : Greg → Word)
    (field : (decodeModrm (decodeInstruction ip).modrm).rm = 4#8) :
    effectiveAddress (decodeInstruction ip) gregs =
      scaledAddress (decodeInstruction ip) gregs +
        lateDisplacement (decodeInstruction ip) := by
  rw [effectiveAddress, scaledAddress, sibBase, lateDisplacement]
  rw [if_pos field]
  by_cases lacks : lacksBase (decodeInstruction ip)
  · rw [if_pos lacks, if_pos lacks, if_pos lacks.1, BitVec.zero_add,
      BitVec.add_zero, BitVec.add_comm]
  · rw [if_neg lacks, if_neg lacks]
    split_ifs with mod0
    · rw [signedDisplacement_zero plain mod0 fun _ => lacks]
    · rfl

/-- The architectural address of a register operand. -/
theorem effectiveAddress_register
    {ip : Code} (plain : PlainMemoryOperand ip) (gregs : Greg → Word)
    (field : (decodeModrm (decodeInstruction ip).modrm).rm ≠ 4#8) :
    effectiveAddress (decodeInstruction ip) gregs =
      regValue gregs (decodeInstruction ip).rm +
        lateDisplacement (decodeInstruction ip) := by
  rcases decode_operands (modrmPresent_of_plain plain) with ⟨-, modrm, -, rm, -⟩
  rw [← modrm] at rm
  rw [effectiveAddress, lateDisplacement]
  rw [if_neg field, ← rm]
  split_ifs with mod0
  · rw [signedDisplacement_zero plain mod0 fun sib => absurd sib field]
  · rfl

/-- The emulator computes the architectural address. -/
def AddressCorrect (ip : Code) (state : EmuState) : Prop :=
  ∃ after,
    (getRmValue (decodeInstruction ip)).run state =
      some (effectiveAddress (decodeInstruction ip) state.machine.gregs, after)

theorem addressCorrect_iff_rmValue (ip : Code) (state : EmuState) :
    AddressCorrect ip state ↔
      rmValue (decodeInstruction ip) state.machine.gregs =
        effectiveAddress (decodeInstruction ip) state.machine.gregs := by
  simp [AddressCorrect]

/--
The address is the architectural one exactly when REX.B is clear, or there is
no SIB byte, or the twelfth register happens to hold the scaled address.
-/
theorem addressCorrect_iff
    {ip : Code} (plain : PlainMemoryOperand ip) (state : EmuState) :
    AddressCorrect ip state ↔
      (decodeModrm (decodeInstruction ip).modrm).rm ≠ 4#8 ∨
        rexB (decodeInstruction ip) = 0#8 ∨
        state.machine.gregs .r12 =
          scaledAddress (decodeInstruction ip) state.machine.gregs := by
  rw [addressCorrect_iff_rmValue, rmValue_plain plain]
  rcases decode_operands (modrmPresent_of_plain plain) with ⟨-, modrm, -, rm, -⟩
  rw [← modrm] at rm
  by_cases field : (decodeModrm (decodeInstruction ip).modrm).rm = 4#8
  · rw [effectiveAddress_sib plain _ field, BitVec.add_left_inj]
    rcases rexBit_cases (decodeInstruction ip).rex 0 with clear | set
    · rw [addressBaseValue_sib plain _ field clear]
      exact ⟨fun _ => .inr (.inl clear), fun _ => rfl⟩
    · have twelve : (decodeInstruction ip).rm = 12#8 := by
        rw [rm, field, extendField_set set]
        rfl
      rw [addressBaseValue_register _ (by rw [twelve]; decide)
        fun _ => by rw [twelve]; decide, twelve]
      constructor
      · exact fun equal => .inr (.inr equal)
      · rintro (noSib | clear | equal)
        · exact absurd field noSib
        · exact absurd (clear.symm.trans set) (by decide)
        · exact equal
  · have notRip := plain.notRipRelative
    have extended :
        (decodeInstruction ip).rm ≠ 4#8 ∧
          ((decodeModrm (decodeInstruction ip).modrm).rm ≠ 5#8 →
            (decodeInstruction ip).rm ≠ 5#8) := by
      rw [rm]
      generalize (decodeInstruction ip).modrm = byte at field ⊢
      rcases rexBit_cases (decodeInstruction ip).rex 0 with clear | set
      · rw [extendField_clear clear]
        exact ⟨field, id⟩
      · rw [extendField_set set]
        revert byte
        decide +kernel
    rw [effectiveAddress_register plain _ field,
      addressBaseValue_register _ extended.1 fun mod0 =>
        extended.2 fun rm5 => notRip ⟨mod0, rm5⟩]
    exact ⟨fun _ => .inl field, fun _ => rfl⟩

/-- `popcnt rax, [rax + 8]` reads the architectural address. -/
theorem addressCorrect_popcnt :
    AddressCorrect (codeOfBytes [0xF3#8, 0x0F#8, 0xB8#8, 0x40#8, 0x08#8])
      { machine := ⟨fun _ => 1#64, fun _ => 0#8⟩, calls := [] } := by
  refine (addressCorrect_iff ?_ _).mpr (.inl (by decide))
  exact
    { complete := ⟨by decide, by decide⟩
      memory := by decide
      addressSize := by decide
      segment := by decide
      notRipRelative := by decide }

/-- `popcnt rax, [r8 + rcx]` reads the address in `r12`. -/
theorem addressIncorrect_extendedBase :
    PlainMemoryOperand
        (codeOfBytes [0xF3#8, 0x41#8, 0x0F#8, 0xB8#8, 0x04#8, 0x08#8]) ∧
      ¬ AddressCorrect
        (codeOfBytes [0xF3#8, 0x41#8, 0x0F#8, 0xB8#8, 0x04#8, 0x08#8])
        { machine :=
            ⟨fun greg => if greg = .r8 then 1#64 else 0#64, fun _ => 0#8⟩
          calls := [] } := by
  constructor
  · exact
      { complete := ⟨by decide, by decide⟩
        memory := by decide
        addressSize := by decide
        segment := by decide
        notRipRelative := by decide }
  · rw [addressCorrect_iff_rmValue]
    decide

end BadCpu
