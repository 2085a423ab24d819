import BadCpu.EffectiveAddress
import BadCpu.OperandWidth
import BadCpu.Recogniser

/-!
# LZCNT and TZCNT

The register forms of the two counting instructions against their meaning at
the operand width.  The handler asks whether the whole register is zero, clears
the carry flag and derives the zero flag from the source.  It is therefore
right for an operand which has a set bit, and whose count is not zero.
-/

namespace BadCpu

open BitKernels

/-! ## What the instructions mean -/

def carryFlag (flags : Word) : Bool :=
  flags.getLsbD 0

def zeroFlag (flags : Word) : Bool :=
  flags.getLsbD 6

/-- The counting builtins are defined for nonzero arguments only. -/
def Call.Defined : Call → Prop
  | .builtinClz x | .builtinCtz x => x ≠ 0#32
  | .builtinClzll x | .builtinCtzll x => x ≠ 0#64
  | .getRegPtr _ | .memcpy _ _ => True

/-- The bytes at `ip` encode LZCNT or TZCNT with a register operand. -/
structure RegisterCount (ip : Code) (isLzcnt : Bool) : Prop where
  encoded : Encodes ip (.lzcntTzcnt isLzcnt)
  register : ModrmSatisfies ip (isMemoryForm · = false)

/-- The zeros of the operand are counted and the flags tell about both. -/
structure CountsZeros
    (isLzcnt : Bool) (inst : DecodedInstruction) (source : Word)
    (after : EmuState) : Prop where
  count :
    (lowBytes (operandLength inst)
        (regValue after.machine.gregs inst.reg)).toNat =
      zeroBits isLzcnt (operandLength inst) source
  carry :
    carryFlag (after.machine.gregs .efl) = true ↔
      lowBytes (operandLength inst) source = 0#(8 * operandLength inst)
  zero :
    zeroFlag (after.machine.gregs .efl) = true ↔
      lowBytes (operandLength inst) (regValue after.machine.gregs inst.reg) =
        0#(8 * operandLength inst)
  builtins : ∀ call ∈ after.calls, call.Defined

/-- The instruction at `ip` is emulated as the architecture defines it. -/
def ZerosCounted
    (zero : ZeroCounts) (ip : Code) (isLzcnt : Bool) (features : CpuFeatures)
    (machine : Machine) : Prop :=
  ∃ state,
    emulate zero ip features machine = some (.success, state) ∧
      CountsZeros isLzcnt (decodeInstruction ip)
        (regValue machine.gregs (decodeInstruction ip).rm) state

/-- The bit at which the count starts is set. -/
def StartsWithSetBit (isLzcnt : Bool) (n : ℕ) (source : Word) : Prop :=
  if isLzcnt then (lowBytes n source).msb = true
  else source.getLsbD 0 = true

instance (isLzcnt : Bool) (n : ℕ) (source : Word) :
    Decidable (StartsWithSetBit isLzcnt n source) :=
  inferInstanceAs
    (Decidable
      (if isLzcnt then (lowBytes n source).msb = true
        else source.getLsbD 0 = true))

/-! ## The count -/

/-- The count is zero exactly when it starts at a set bit. -/
theorem zeroBits_eq_zero_iff
    (isLzcnt : Bool) {n : ℕ} {source : Word}
    (nonzero : lowBytes n source ≠ 0#(8 * n)) :
    zeroBits isLzcnt n source = 0 ↔ StartsWithSetBit isLzcnt n source := by
  have positive : 0 < 8 * n := by
    have bound := clz_lt nonzero
    omega
  cases isLzcnt with
  | true =>
      simp only [zeroBits, StartsWithSetBit, if_true]
      rw [BitVec.clz_eq_zero_iff positive, BitVec.msb_eq_decide,
        decide_eq_true_iff]
  | false =>
      have below : ClearBelow (lowBytes n source) 0 := fun lower none =>
        absurd none (Nat.not_lt_zero lower)
      simp only [zeroBits, StartsWithSetBit, Bool.false_eq_true, if_false]
      rw [ctz_eq_iff nonzero, and_iff_left below, lowBytes,
        BitVec.getLsbD_setWidth]
      simp [positive]

/-- The low bytes of a count are the count. -/
theorem lowBytes_count
    (inst : DecodedInstruction) {count : ℕ}
    (bound : count ≤ 8 * widthInBytes inst) :
    (lowBytes (widthInBytes inst) (BitVec.ofNat 64 count)).toNat = count := by
  have width := widthInBytes_le inst
  have large : 8 * widthInBytes inst < 2 ^ (8 * widthInBytes inst) :=
    Nat.lt_two_pow_self
  rw [lowBytes, BitVec.toNat_setWidth, BitVec.toNat_ofNat,
    Nat.mod_eq_of_lt (by omega : count < 2 ^ 64),
    Nat.mod_eq_of_lt (by omega)]

/-! ## The flags -/

/-- The status mask clears the carry flag. -/
theorem carryFlag_zeroFlags (flags : Word) (isZero : Bool) :
    carryFlag (zeroFlags flags isZero) = false := by
  cases isZero <;> simp [carryFlag, zeroFlags, statusMask]

theorem zeroFlag_zeroFlags (flags : Word) (isZero : Bool) :
    zeroFlag (zeroFlags flags isZero) = isZero := by
  cases isZero <;> simp [zeroFlag, zeroFlags, statusMask]

/-! ## The calls -/

/-- Looking up registers is always defined. -/
theorem rmCalls_defined (inst : DecodedInstruction) :
    ∀ call ∈ rmCalls inst, call.Defined := by
  rw [rmCalls, addressBaseCalls]
  split_ifs <;> simp [Call.Defined]

/-- With a set bit in the operand the builtins are called in their domain. -/
theorem zeroCountCalls_defined
    (inst : DecodedInstruction) (isLzcnt : Bool) {source : Word}
    (nonzero :
      lowBytes (widthInBytes inst) source ≠ 0#(8 * widthInBytes inst)) :
    ∀ call ∈ zeroCountCalls inst isLzcnt source, call.Defined := by
  have word := ne_zero_of_lowBytes nonzero
  rw [zeroCountCalls, if_neg word]
  rcases width_cases inst with
    ⟨wide, narrow, bytes⟩ | ⟨wide, narrow, bytes⟩ | ⟨wide, narrow, bytes⟩
  · cases isLzcnt <;> simpa [wide, Call.Defined] using word
  · rw [bytes] at nonzero
    have operand : (source.setWidth 16).setWidth 32 ≠ 0#32 :=
      setWidth_ne_zero (by decide) nonzero
    cases isLzcnt <;> simpa [wide, narrow, Call.Defined] using operand
  · rw [bytes] at nonzero
    have operand : source.setWidth 32 ≠ 0#32 := nonzero
    cases isLzcnt <;> simpa [wide, narrow, Call.Defined] using operand

/-! ## Exactly when the instructions are right -/

theorem encodes_zeroCount_iff (ip : Code) (isLzcnt : Bool) :
    Encodes ip (.lzcntTzcnt isLzcnt) ↔
      RepeatEncoded ip (if isLzcnt then 0xBD#8 else 0xBC#8) := by
  cases isLzcnt with
  | true => exact Iff.rfl
  | false => exact Iff.rfl

/-- An encoded LZCNT or TZCNT is recognised by its recorded F3 prefix. -/
theorem selectedHandler_zeroCount
    {ip : Code} {isLzcnt : Bool} (encoded : Encodes ip (.lzcntTzcnt isLzcnt))
    (features : CpuFeatures) :
    selectedHandler ip features =
      if 0xF3#8 ∈ recordedPrefixes ip then some (.lzcntTzcnt isLzcnt)
      else none := by
  rcases (encodes_zeroCount_iff ip isLzcnt).mp encoded with ⟨form, opcode, -⟩
  have map : opcodeMap ip = .map0F := by simp [opcodeMap, form]
  have flag :
      (prefixedInstruction ip).hasF3 = true ↔
        0xF3#8 ∈ recordedPrefixes ip := by
    simp [hasF3_iff, RepeatFlagged, form, OpcodeForm.isVex]
  simp only [selectedHandler, mapHandler, map, opcode, flag]
  cases isLzcnt <;> simp

theorem RegisterCount.decode_mod
    {ip : Code} {isLzcnt : Bool} (counts : RegisterCount ip isLzcnt) :
    (decodeModrm (decodeInstruction ip).modrm).mod = 3#8 := by
  rcases (encodes_zeroCount_iff ip isLzcnt).mp counts.encoded with
    ⟨form, opcode, -⟩
  have takes : (opcodeMap ip).takesModrm (opcodeByte ip) = true := by
    have map : opcodeMap ip = .map0F := by simp [opcodeMap, form]
    rw [map, opcode]
    cases isLzcnt <;> decide
  have present : modrmPresent ip = true := by
    simp [modrmPresent, takes, counts.register.1]
  rw [(decode_operands present).2.1]
  simpa [isMemoryForm] using counts.register.2

/-! ### The effect of the handler -/

section Effect

variable {inst : DecodedInstruction} {source flags : Word} {after : EmuState}
  (status : after.machine.gregs .efl = zeroFlags flags (source == 0#64))

include status

/-- Without a set bit in the operand the carry flag should be set. -/
theorem filled_of_countsZeros
    {isLzcnt : Bool} (counts : CountsZeros isLzcnt inst source after) :
    lowBytes (operandLength inst) source ≠ 0#(8 * operandLength inst) := by
  intro empty
  have carry := counts.carry.mpr empty
  rw [status, carryFlag_zeroFlags] at carry
  exact Bool.false_ne_true carry

/-- With a set bit in the operand only the zero flag can be wrong. -/
theorem countsZeros_filled_iff
    (width : operandLength inst = widthInBytes inst)
    (zero : ZeroCounts) (isLzcnt : Bool)
    (value :
      regValue after.machine.gregs inst.reg =
        zeroCountValue zero inst isLzcnt source)
    (calls :
      after.calls =
        rmCalls inst ++ zeroCountCalls inst isLzcnt source ++
          [.getRegPtr inst.reg])
    (nonzero :
      lowBytes (operandLength inst) source ≠ 0#(8 * operandLength inst)) :
    CountsZeros isLzcnt inst source after ↔
      ¬ StartsWithSetBit isLzcnt (operandLength inst) source := by
  have word : (source == 0#64) = false :=
    beq_eq_false_iff_ne.mpr (ne_zero_of_lowBytes nonzero)
  have count :
      (lowBytes (operandLength inst)
          (regValue after.machine.gregs inst.reg)).toNat =
        zeroBits isLzcnt (operandLength inst) source := by
    rw [width] at nonzero ⊢
    rw [value, zeroCountValue_eq zero inst isLzcnt nonzero]
    exact lowBytes_count inst (zeroBits_le isLzcnt nonzero)
  have result :
      lowBytes (operandLength inst) (regValue after.machine.gregs inst.reg) =
          0#(8 * operandLength inst) ↔
        StartsWithSetBit isLzcnt (operandLength inst) source := by
    rw [← zeroBits_eq_zero_iff isLzcnt nonzero, ← count, BitVec.toNat_eq,
      BitVec.toNat_ofNat, Nat.zero_mod]
  rw [word] at status
  constructor
  · intro counts starts
    have isZero := counts.zero.mpr (result.mpr starts)
    rw [status, zeroFlag_zeroFlags] at isZero
    exact Bool.false_ne_true isZero
  · intro notStart
    constructor
    case count => exact count
    case carry =>
      rw [status, carryFlag_zeroFlags]
      simp [nonzero]
    case zero =>
      rw [status, zeroFlag_zeroFlags, result]
      simp [notStart]
    case builtins =>
      intro call member
      rw [calls, List.mem_append, List.mem_append,
        List.mem_singleton] at member
      rcases member with (lookup | builtin) | rfl
      · exact rmCalls_defined inst call lookup
      · rw [width] at nonzero
        exact zeroCountCalls_defined inst isLzcnt nonzero call builtin
      · trivial

/-- The handler, for any instruction and source. -/
theorem countsZeros_iff
    (width : operandLength inst = widthInBytes inst)
    (zero : ZeroCounts) (isLzcnt : Bool)
    (value :
      regValue after.machine.gregs inst.reg =
        zeroCountValue zero inst isLzcnt source)
    (calls :
      after.calls =
        rmCalls inst ++ zeroCountCalls inst isLzcnt source ++
          [.getRegPtr inst.reg]) :
    CountsZeros isLzcnt inst source after ↔
      lowBytes (operandLength inst) source ≠ 0#(8 * operandLength inst) ∧
        ¬ StartsWithSetBit isLzcnt (operandLength inst) source := by
  constructor
  · intro counts
    have nonzero := filled_of_countsZeros status counts
    exact ⟨nonzero,
      (countsZeros_filled_iff status width zero isLzcnt value calls
        nonzero).mp counts⟩
  · rintro ⟨nonzero, notStart⟩
    exact (countsZeros_filled_iff status width zero isLzcnt value calls
      nonzero).mpr notStart

end Effect

/--
LZCNT and TZCNT are right exactly when the F3 prefix is recorded, the operand
has a set bit and the count does not start at it.
-/
theorem zerosCounted_iff
    (zero : ZeroCounts) {ip : Code} {isLzcnt : Bool}
    (counts : RegisterCount ip isLzcnt) (features : CpuFeatures)
    (machine : Machine) :
    ZerosCounted zero ip isLzcnt features machine ↔
      0xF3#8 ∈ recordedPrefixes ip ∧
        lowBytes (operandLength (decodeInstruction ip))
            (regValue machine.gregs (decodeInstruction ip).rm) ≠
          0#(8 * operandLength (decodeInstruction ip)) ∧
        ¬ StartsWithSetBit isLzcnt (operandLength (decodeInstruction ip))
          (regValue machine.gregs (decodeInstruction ip).rm) := by
  have selects := selectedHandler_zeroCount counts.encoded features
  by_cases recorded : 0xF3#8 ∈ recordedPrefixes ip
  · rw [if_pos recorded] at selects
    rcases emulate_committed zero machine selects with ⟨after, run, committed⟩
    have source := rmValue_register counts.decode_mod machine.gregs
    have value := committed.destination
    have flags := committed.flags
    have calls := committed.calls
    simp only [Handler.value, Handler.flags, Handler.calls, source]
      at value flags calls
    rw [ZerosCounted, exists_success_iff run,
      countsZeros_iff flags (operandLength_decode ip) zero isLzcnt value calls]
    simp [recorded]
  · rw [if_neg recorded] at selects
    constructor
    · rintro ⟨state, success, -⟩
      exact absurd success (not_success_of_none selects)
    · rintro ⟨found, -⟩
      exact absurd found recorded

/-- `tzcnt eax, ecx` counts the zeros of two. -/
theorem zerosCounted_two :
    ZerosCounted default
      (codeOfBytes [0xF3#8, 0x0F#8, 0xBC#8, 0xC1#8]) false {}
      ⟨fun _ => 2#64, fun _ => 0#8⟩ := by
  have counts :
      RegisterCount (codeOfBytes [0xF3#8, 0x0F#8, 0xBC#8, 0xC1#8]) false :=
    ⟨⟨by decide, by decide, by decide⟩, by decide, by decide⟩
  refine (zerosCounted_iff _ counts _ _).mpr ⟨by decide, by decide, ?_⟩
  decide

/--
With the upper half of the source set, `tzcnt eax, ecx` calls the builtin with
zero, and it never sets the carry flag.
-/
theorem zerosCounted_upperHalf :
    RegisterCount (codeOfBytes [0xF3#8, 0x0F#8, 0xBC#8, 0xC1#8]) false ∧
      ¬ ZerosCounted default
        (codeOfBytes [0xF3#8, 0x0F#8, 0xBC#8, 0xC1#8]) false {}
        ⟨fun _ => 0x100000000#64, fun _ => 0#8⟩ := by
  have counts :
      RegisterCount (codeOfBytes [0xF3#8, 0x0F#8, 0xBC#8, 0xC1#8]) false :=
    ⟨⟨by decide, by decide, by decide⟩, by decide, by decide⟩
  refine ⟨counts, ?_⟩
  have selected :
      selectedHandler (codeOfBytes [0xF3#8, 0x0F#8, 0xBC#8, 0xC1#8]) {} =
        some (.lzcntTzcnt false) := by
    decide
  rcases
      emulate_committed default
        ⟨fun _ => 0x100000000#64, fun _ => 0#8⟩ selected with
    ⟨after, run, committed⟩
  rw [ZerosCounted, exists_success_iff run]
  intro counted
  have called : Call.builtinCtz 0#32 ∈ after.calls := by
    rw [committed.calls]
    decide
  exact counted.builtins _ called rfl

end BadCpu
