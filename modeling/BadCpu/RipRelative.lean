import BadCpu.EffectiveAddress

/-!
# Addresses relative to the instruction pointer

With `mod` 0 and the ModRM field 5 an address is relative to the end of the
instruction, whatever REX.B is.  The emulator never reads the instruction
pointer for an address: with REX.B clear it takes the displacement alone, and
with REX.B set it takes the thirteenth register.
-/

namespace BadCpu

/-! ## The architectural address -/

/-- The instructions whose memory operand is relative to RIP. -/
structure RipRelativeOperand (ip : Code) : Prop where
  complete : DecodeComplete (decodeInstruction ip)
  noBase : (decodeModrm (decodeInstruction ip).modrm).mod = 0#8
  field : (decodeModrm (decodeInstruction ip).modrm).rm = 5#8
  addressSize : 0x67#8 ∉ legacyPrefixes ip
  segment : 0x64#8 ∉ legacyPrefixes ip ∧ 0x65#8 ∉ legacyPrefixes ip

/-- The address behind the instruction, plus the displacement. -/
def ripRelativeAddress (inst : DecodedInstruction) (gregs : Greg → Word) :
    Word :=
  gregs .rip + inst.len.setWidth 64 + signedDisplacement inst

/-- `get_rm_value` returns an address. -/
def ReturnsAddress
    (inst : DecodedInstruction) (state : EmuState) (address : Word) : Prop :=
  ∃ after, (getRmValue inst).run state = some (address, after)

/--
The address of both contexts is the architectural one, and it moves along with
the instruction pointer.
-/
structure RipRelativeCorrect (ip : Code) (state state' : EmuState) : Prop where
  address :
    ReturnsAddress (decodeInstruction ip) state
      (ripRelativeAddress (decodeInstruction ip) state.machine.gregs)
  address' :
    ReturnsAddress (decodeInstruction ip) state'
      (ripRelativeAddress (decodeInstruction ip) state'.machine.gregs)
  shift :
    ∀ distance,
      state'.machine.gregs =
          Function.update state.machine.gregs .rip
            (state.machine.gregs .rip + distance) →
        ∀ returned, ReturnsAddress (decodeInstruction ip) state returned →
          ReturnsAddress (decodeInstruction ip) state' (returned + distance)

/-- When the instruction pointer makes no difference to the address. -/
def RipHarmless (inst : DecodedInstruction) (gregs : Greg → Word) : Prop :=
  if rexB inst = 0#8 then gregs .rip + inst.len.setWidth 64 = 0#64
  else gregs .r13 = ripRelativeAddress inst gregs

instance (inst : DecodedInstruction) (gregs : Greg → Word) :
    Decidable (RipHarmless inst gregs) :=
  inferInstanceAs
    (Decidable
      (if rexB inst = 0#8 then gregs .rip + inst.len.setWidth 64 = 0#64
        else gregs .r13 = ripRelativeAddress inst gregs))

/-! ## The address of the emulator -/

theorem returnsAddress_iff
    (inst : DecodedInstruction) (state : EmuState) (address : Word) :
    ReturnsAddress inst state address ↔
      rmValue inst state.machine.gregs = address := by
  simp [ReturnsAddress]

/-- The emulator takes the displacement or the thirteenth register. -/
theorem rmValue_ripRelative
    {ip : Code} (relative : RipRelativeOperand ip) (gregs : Greg → Word) :
    rmValue (decodeInstruction ip) gregs =
      if rexB (decodeInstruction ip) = 0#8 then
        signedDisplacement (decodeInstruction ip)
      else gregs .r13 := by
  have present : modrmPresent ip = true := by
    rw [← decode_hasModrm]
    exact relative.complete.modrm
  rcases decode_operands present with ⟨-, modrm, -, rm, -⟩
  rw [← modrm, relative.field] at rm
  have mod := relative.noBase
  have form : (decodeInstruction ip).modrm >>> 6 = 0#8 := by
    rw [← decodeModrm_mod]
    exact mod
  have base :
      rmValue (decodeInstruction ip) gregs =
        addressBaseValue (decodeInstruction ip) gregs := by
    simp [rmValue, form, mod]
  rw [base]
  rcases rexBit_cases (decodeInstruction ip).rex 0 with clear | set
  · have notSet : rexB (decodeInstruction ip) = 0#8 := clear
    rw [extendField_clear clear] at rm
    rw [if_pos notSet]
    simp only [addressBaseValue, rm, form]
    rfl
  · have notClear : rexB (decodeInstruction ip) ≠ 0#8 := by
      intro clear
      exact absurd (clear.symm.trans set) (by decide)
    rw [extendField_set set] at rm
    have thirteen : (decodeInstruction ip).rm = 13#8 := rm
    rw [if_neg notClear,
      addressBaseValue_register gregs (by rw [thirteen]; decide)
        fun _ => by rw [thirteen]; decide, thirteen]
    rfl

/-- One context is right exactly when its instruction pointer is harmless. -/
theorem returnsAddress_ripRelative_iff
    {ip : Code} (relative : RipRelativeOperand ip) (state : EmuState) :
    ReturnsAddress (decodeInstruction ip) state
        (ripRelativeAddress (decodeInstruction ip) state.machine.gregs) ↔
      RipHarmless (decodeInstruction ip) state.machine.gregs := by
  rw [returnsAddress_iff, rmValue_ripRelative relative, RipHarmless]
  split_ifs
  · rw [ripRelativeAddress]
    exact BitVec.self_eq_add_left
  · rfl

/--
The address is relative to RIP exactly when RIP makes no difference: with REX.B
clear the instruction ends at address zero, and with REX.B set `r13` happens to
hold the address.
-/
theorem ripRelativeCorrect_iff
    {ip : Code} (relative : RipRelativeOperand ip) (state state' : EmuState) :
    RipRelativeCorrect ip state state' ↔
      RipHarmless (decodeInstruction ip) state.machine.gregs ∧
        RipHarmless (decodeInstruction ip) state'.machine.gregs := by
  rw [← returnsAddress_ripRelative_iff relative state,
    ← returnsAddress_ripRelative_iff relative state']
  constructor
  · intro correct
    exact ⟨correct.address, correct.address'⟩
  · rintro ⟨address, address'⟩
    refine ⟨address, address', ?_⟩
    intro distance moved returned returns
    rw [returnsAddress_iff] at address address' returns ⊢
    rw [address', ← returns, address, ripRelativeAddress,
      ripRelativeAddress, moved, Function.update_self]
    ac_rfl

/-- `popcnt eax, [rip + 8]` at the top of the address space. -/
theorem ripRelativeCorrect_wrap :
    RipRelativeCorrect
      (codeOfBytes [0xF3#8, 0x0F#8, 0xB8#8, 0x05#8, 0x08#8, 0#8, 0#8, 0#8])
      { machine := ⟨fun _ => -8#64, fun _ => 0#8⟩, calls := [] }
      { machine := ⟨fun _ => -8#64, fun _ => 0#8⟩, calls := [] } := by
  refine (ripRelativeCorrect_iff ?_ _ _).mpr ⟨?_, ?_⟩
  · exact
      { complete := ⟨by decide, by decide⟩
        noBase := by decide
        field := by decide
        addressSize := by decide
        segment := by decide }
  · decide
  · decide

/-- Elsewhere it is emulated with an absolute address. -/
theorem ripRelativeIncorrect_absolute :
    RipRelativeOperand
        (codeOfBytes [0xF3#8, 0x0F#8, 0xB8#8, 0x05#8, 0x08#8, 0#8, 0#8, 0#8]) ∧
      ¬ RipRelativeCorrect
        (codeOfBytes [0xF3#8, 0x0F#8, 0xB8#8, 0x05#8, 0x08#8, 0#8, 0#8, 0#8])
        { machine := ⟨fun _ => 0x400000#64, fun _ => 0#8⟩, calls := [] }
        { machine := ⟨fun _ => 0x400001#64, fun _ => 0#8⟩, calls := [] } := by
  constructor
  · exact
      { complete := ⟨by decide, by decide⟩
        noBase := by decide
        field := by decide
        addressSize := by decide
        segment := by decide }
  · intro correct
    have address := (returnsAddress_iff _ _ _).mp correct.address
    exact absurd address (by decide)

end BadCpu
