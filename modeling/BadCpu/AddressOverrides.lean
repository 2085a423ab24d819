import BadCpu.EncodingEquivalence
import BadCpu.RipRelative

/-!
# Address-size and segment overrides

The decoder consumes the prefixes 67, 64 and 65, but nothing of them reaches the
computation of an address.  An instruction behind such a prefix succeeds with
the address which it has without the prefix, and this is right only where the
prefix makes no difference.
-/

namespace BadCpu

/-! ## The overridden address -/

/-- The prefixes which override an address. -/
def isAddressOverride (b : Byte) : Bool :=
  b == 0x67#8 || b == 0x64#8 || b == 0x65#8

/-- The bases of the segments FS and GS. -/
structure SegmentBases where
  fs : Word
  gs : Word

/-- The base of the segment which the last segment prefix selects. -/
def segmentBase (bases : SegmentBases) (prefixes : List Byte) : Word :=
  match (prefixes.filter fun b => b == 0x64#8 || b == 0x65#8).getLast? with
  | none => 0#64
  | some b => if b = 0x64#8 then bases.fs else bases.gs

/-- The address of an offset behind prefixes. -/
def overriddenAddress
    (bases : SegmentBases) (prefixes : List Byte) (offset : Word) : Word :=
  segmentBase bases prefixes +
    if 0x67#8 ∈ prefixes then (offset.setWidth 32).setWidth 64 else offset

/-- A memory operand whose address is overridden. -/
structure OverriddenOperand (ip : Code) : Prop where
  overridden : ∃ b ∈ legacyPrefixes ip, isAddressOverride b = true
  memory : (decodeModrm (decodeInstruction ip).modrm).mod ≠ 3#8

/-- The same instruction without the overriding prefixes. -/
def withoutOverrides (ip : Code) : Code :=
  ((legacyPrefixes ip).filter fun b => !isAddressOverride b) ++ₛ
    ip.drop (legacyPrefixes ip).length

/-! ## The instruction without its overrides -/

/-- Two instructions with the same operand. -/
structure SameFields (inst inst' : DecodedInstruction) : Prop where
  modrm : inst.modrm = inst'.modrm
  sib : inst.sib = inst'.sib
  displacement : inst.displacement = inst'.displacement
  rm : inst.rm = inst'.rm
  hasSib : inst.hasSib = inst'.hasSib
  rex : inst.rex = inst'.rex

namespace SameFields

variable {inst inst' : DecodedInstruction}

theorem rmValue_eq (same : SameFields inst inst') (gregs : Greg → Word) :
    rmValue inst gregs = rmValue inst' gregs := by
  rcases inst
  rcases inst'
  rcases same with ⟨rfl, rfl, rfl, rfl, rfl, rfl⟩
  rfl

theorem withOperands (same : SameFields inst inst') (tail : Code) (pos : ℕ) :
    SameFields (BadCpu.withOperands inst tail pos)
      (BadCpu.withOperands inst' tail pos) := by
  constructor
  case modrm => rfl
  case sib => simp only [BadCpu.withOperands, same.sib]
  case displacement => simp only [BadCpu.withOperands, same.displacement]
  case rm => simp only [BadCpu.withOperands, same.rex]
  case hasSib => simp only [BadCpu.withOperands, same.hasSib]
  case rex => exact same.rex

/-- Operands which fit are read alike behind the same opcode. -/
theorem appendOperands (same : SameFields inst inst') (map : OpcodeMap)
    (op : Byte) (tail : Code) :
    SameFields (BadCpu.appendOperands inst map op tail)
      (BadCpu.appendOperands inst' map op tail) := by
  rw [BadCpu.appendOperands, BadCpu.appendOperands]
  split_ifs
  · exact same.withOperands tail 0
  · exact same

end SameFields

section Rest

variable {ip ip' : Code}
  (rest :
    ip.drop (legacyPrefixes ip).length = ip'.drop (legacyPrefixes ip').length)
  (rex : rexByte? ip = rexByte? ip')

include rest rex

/-- The instruction in front of its operands has the same REX bits. -/
theorem sameFields_opcodeInstruction :
    SameFields (opcodeInstruction ip) (opcodeInstruction ip') := by
  have byte := headerByte_eq_of_rest rest rex
  have form := (opcode_eq_of_rest rest rex).1
  have bits :
      (prefixedInstruction ip).rex = (prefixedInstruction ip').rex := by
    rw [prefixedInstruction, prefixedInstruction, ← form]
    cases opcodeForm ip <;> simp only [applyVex, header, byte, rex]
  rw [opcodeInstruction_blank ip, opcodeInstruction_blank ip']
  constructor
  case rex => exact bits
  all_goals rfl

theorem operandStream_eq_of_rest : operandStream ip = operandStream ip' := by
  have form := (opcode_eq_of_rest rest rex).1
  have behind (stream : Code) :
      operandStream stream =
        (stream.drop (legacyPrefixes stream).length).drop
          (rexLength stream + (opcodeForm stream).headLength) := by
    rw [operandStream, modrmIndex, headerEnd, Stream'.drop_drop,
      Nat.add_assoc]
  rw [behind, behind, rest, rexLength, rexLength, rex, form]

/-- Instructions which differ in their prefixes have the same operand. -/
theorem sameFields_decode (fits : OperandsFit ip) (fits' : OperandsFit ip') :
    SameFields (decodeInstruction ip) (decodeInstruction ip') := by
  rcases opcode_eq_of_rest rest rex with ⟨-, map, op⟩
  have start := sameFields_opcodeInstruction rest rex
  rw [decode_of_operandsFit fits, decode_of_operandsFit fits', ← map, ← op,
    ← operandStream_eq_of_rest rest rex]
  have operands :=
    start.appendOperands (opcodeMap ip) (opcodeByte ip) (operandStream ip)
  exact
    { modrm := operands.modrm
      sib := operands.sib
      displacement := operands.displacement
      rm := operands.rm
      hasSib := operands.hasSib
      rex := operands.rex }

end Rest

section WithoutOverrides

variable {ip : Code}

theorem legacyPrefixes_withoutOverrides
    (room : (legacyPrefixes ip).length < 15) :
    legacyPrefixes (withoutOverrides ip) =
      (legacyPrefixes ip).filter fun b => !isAddressOverride b := by
  apply legacyPrefixes_append
  · intro b member
    exact List.mem_takeWhile_imp (List.mem_filter.mp member).1
  · exact (List.length_filter_le _ _).trans room.le
  · rw [Stream'.get_drop, Nat.add_zero]
    exact legacyPrefixes_ends room

/-- Behind the prefixes stands the same instruction. -/
theorem withoutOverrides_drop (room : (legacyPrefixes ip).length < 15) :
    (withoutOverrides ip).drop (legacyPrefixes (withoutOverrides ip)).length =
      ip.drop (legacyPrefixes ip).length := by
  rw [legacyPrefixes_withoutOverrides room, withoutOverrides,
    Stream'.drop_append_stream]

/--
The emulated address does not depend on the overrides, as long as the operands
are within the limit.
-/
theorem rmValue_withoutOverrides
    (room : (legacyPrefixes ip).length < 15) (fits : OperandsFit ip)
    (gregs : Greg → Word) :
    rmValue (decodeInstruction ip) gregs =
      rmValue (decodeInstruction (withoutOverrides ip)) gregs := by
  have fewer :
      (legacyPrefixes (withoutOverrides ip)).length ≤
        (legacyPrefixes ip).length := by
    rw [legacyPrefixes_withoutOverrides room]
    exact List.length_filter_le _ _
  have rest := (withoutOverrides_drop room).symm
  have rex := rexByte?_eq_of_rest rest room (fewer.trans_lt room)
  rcases opcode_eq_of_rest rest rex with ⟨form, map, op⟩
  have stream := operandStream_eq_of_rest rest rex
  have length : rexLength ip = rexLength (withoutOverrides ip) := by
    rw [rexLength, rexLength, rex]
  have fits' : OperandsFit (withoutOverrides ip) := by
    rw [OperandsFit, modrmIndex, headerEnd] at fits ⊢
    rw [← form, ← map, ← op, ← stream, ← length]
    omega
  exact (sameFields_decode rest rex fits fits').rmValue_eq gregs

end WithoutOverrides

/-! ## What an emulation does with the address -/

/-- An emulation computes an address and accesses no other one. -/
structure UsesAddress
    (ip : Code) (machine : Machine) (after : EmuState) (address : Word) :
    Prop where
  computed :
    ReturnsAddress (decodeInstruction ip) { machine, calls := [] } address
  accesses :
    ∀ accessed size, Call.memcpy accessed size ∈ after.calls →
      accessed = address

/--
An override is refused, or the emulation uses the overridden address.  It uses
the address of the instruction without the prefixes only if that is the same.
-/
structure OverrideHonoured
    (ip : Code) (features : CpuFeatures) (bases : SegmentBases)
    (zero : ZeroCounts) (machine : Machine) : Prop where
  outcome :
    (∃ state,
        emulate zero ip features machine =
            some (.unrecognizedInstruction, state) ∧
          state.machine = machine) ∨
      ∃ state,
        emulate zero ip features machine = some (.success, state) ∧
          UsesAddress ip machine state
            (overriddenAddress bases (legacyPrefixes ip)
              (rmValue (decodeInstruction ip) machine.gregs))
  notIgnored :
    ∀ state address,
      emulate zero ip features machine = some (.success, state) →
        UsesAddress ip machine state address →
          ReturnsAddress (decodeInstruction (withoutOverrides ip))
              { machine, calls := [] } address →
            address =
              overriddenAddress bases (legacyPrefixes ip)
                (rmValue (decodeInstruction ip) machine.gregs)

/-- When an override does not change an offset. -/
def OverrideHarmless
    (bases : SegmentBases) (prefixes : List Byte) (offset : Word) : Prop :=
  segmentBase bases prefixes =
    if 0x67#8 ∈ prefixes then (offset >>> 32) <<< 32 else 0#64

instance (bases : SegmentBases) (prefixes : List Byte) (offset : Word) :
    Decidable (OverrideHarmless bases prefixes offset) :=
  inferInstanceAs (Decidable (_ = _))

/-- A word is its upper half plus its lower half. -/
theorem upper_add_lower (offset : Word) :
    (offset >>> 32) <<< 32 + (offset.setWidth 32).setWidth 64 = offset := by
  have apart :
      (offset >>> 32) <<< 32 &&& (offset.setWidth 32).setWidth 64 = 0#64 := by
    apply BitVec.eq_of_getLsbD_eq
    intro bit bound
    by_cases low : bit < 32 <;> simp [low]
  rw [BitVec.add_eq_or_of_and_eq_zero _ _ apart]
  apply BitVec.eq_of_getLsbD_eq
  intro bit bound
  by_cases low : bit < 32
  · simp [low, bound]
  · have split : 32 + (bit - 32) = bit := by omega
    simp [low, bound, split]

theorem overriddenAddress_eq_self_iff
    (bases : SegmentBases) (prefixes : List Byte) (offset : Word) :
    overriddenAddress bases prefixes offset = offset ↔
      OverrideHarmless bases prefixes offset := by
  rw [overriddenAddress, OverrideHarmless]
  split_ifs
  · nth_rewrite 2 [← upper_add_lower offset]
    exact BitVec.add_left_inj _
  · exact eq_comm.trans BitVec.self_eq_add_left

/-! ## The address of the emulator -/

theorem memcpy_not_mem_rmCalls
    (inst : DecodedInstruction) (address : Word) (size : ℕ) :
    Call.memcpy address size ∉ rmCalls inst := by
  rw [rmCalls, addressBaseCalls]
  split_ifs <;> simp

/-- A handler accesses memory at the address of its operand only. -/
theorem Handler.memcpy_address
    {inst : DecodedInstruction} {machine : Machine} {handler : Handler}
    {address : Word} {size : ℕ}
    (member : Call.memcpy address size ∈ handler.calls inst machine) :
    address = rmValue inst machine.gregs := by
  have elsewhere := memcpy_not_mem_rmCalls inst address size
  cases handler with
  | popcnt | bmi => simp [Handler.calls, elsewhere] at member
  | lzcntTzcnt isLzcnt =>
      simp only [Handler.calls, zeroCountCalls, List.mem_append, elsewhere,
        false_or] at member
      split_ifs at member <;> simp at member
  | movbe =>
      simp only [Handler.calls, movbeCalls, List.mem_append, elsewhere,
        false_or] at member
      rcases member with access | lookup
      · split_ifs at access
        · simp at access
        · simp only [List.mem_singleton, Call.memcpy.injEq] at access
          exact access.1
      · split_ifs at lookup <;> simp at lookup

/-- A successful emulation uses exactly the address of its operand. -/
theorem usesAddress_iff
    {ip : Code} {features : CpuFeatures} {zero : ZeroCounts}
    {machine : Machine} {after : EmuState}
    (run : emulate zero ip features machine = some (.success, after))
    (address : Word) :
    UsesAddress ip machine after address ↔
      rmValue (decodeInstruction ip) machine.gregs = address := by
  rcases committed_of_success run with ⟨handler, committed⟩
  constructor
  · intro uses
    have computed := uses.computed
    rwa [returnsAddress_iff] at computed
  · rintro rfl
    constructor
    · rw [returnsAddress_iff]
    · intro accessed size member
      rw [committed.calls] at member
      exact Handler.memcpy_address member

/--
Overrides are honoured exactly when the opcode has no handler, or when they
change nothing.
-/
theorem overrideHonoured_iff
    (ip : Code) (features : CpuFeatures) (bases : SegmentBases)
    (zero : ZeroCounts) (machine : Machine) :
    OverrideHonoured ip features bases zero machine ↔
      ¬ OpcodeHandled ip features ∨
        OverrideHarmless bases (legacyPrefixes ip)
          (rmValue (decodeInstruction ip) machine.gregs) := by
  rw [opcodeHandled_iff, ← overriddenAddress_eq_self_iff]
  constructor
  · intro honoured
    rw [or_iff_not_imp_left, not_not]
    rintro ⟨handler, selected⟩
    rcases emulate_committed zero machine selected with ⟨after, run, -⟩
    rcases honoured.outcome with ⟨state, refused, -⟩ | ⟨state, success, uses⟩
    · rw [run] at refused
      simp at refused
    · exact ((usesAddress_iff success _).mp uses).symm
  · intro harmless
    cases selected : selectedHandler ip features with
    | none =>
        refine ⟨.inl ⟨_, emulate_none zero machine selected, rfl⟩, ?_⟩
        intro state address success
        exact absurd success (not_success_of_none selected)
    | some handler =>
        have same := harmless.resolve_left fun unhandled =>
          unhandled ⟨handler, selected⟩
        rcases emulate_committed zero machine selected with ⟨after, run, -⟩
        constructor
        case outcome =>
          exact .inr ⟨after, run, (usesAddress_iff run _).mpr same.symm⟩
        case notIgnored =>
          intro state address success uses _
          rw [same]
          exact ((usesAddress_iff success address).mp uses).symm

/-- `movbe ecx, fs:[rax]` reads from `rax` itself. -/
theorem overrideIgnored_fs :
    OverriddenOperand
        (codeOfBytes [0x64#8, 0x0F#8, 0x38#8, 0xF0#8, 0x08#8]) ∧
      ¬ OverrideHonoured
        (codeOfBytes [0x64#8, 0x0F#8, 0x38#8, 0xF0#8, 0x08#8]) {}
        ⟨0x1000#64, 0#64⟩ default
        ⟨fun _ => 0x400000#64, fun _ => 0#8⟩ := by
  constructor
  · exact
      { overridden := by decide
        memory := by decide }
  · intro honoured
    have selected :
        selectedHandler
            (codeOfBytes [0x64#8, 0x0F#8, 0x38#8, 0xF0#8, 0x08#8]) {} =
          some .movbe := by
      decide
    rcases emulate_committed default
        ⟨fun _ => 0x400000#64, fun _ => 0#8⟩ selected with
      ⟨after, run, -⟩
    rcases honoured.outcome with ⟨state, refused, -⟩ | ⟨state, success, uses⟩
    · rw [run] at refused
      simp at refused
    · have address := (usesAddress_iff success _).mp uses
      exact absurd address (by decide)

end BadCpu
