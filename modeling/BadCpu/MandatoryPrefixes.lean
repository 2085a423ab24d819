import BadCpu.Dispatch
import BadCpu.HeaderEncoding

/-!
# Mandatory prefixes

The prefix loop consumes up to fifteen bytes but records only four of them, and
the flags for 66, F2 and F3 are derived from the recorded ones.  A mandatory
prefix behind the fourth is not seen.  As long as every mandatory prefix is
recorded, neither the order of the prefixes nor redundant segment prefixes make
a difference, unless they push the opcode out of the first fifteen bytes.
-/

namespace BadCpu

/-! ## The flags and the recognised instruction -/

/-- The flags report which mandatory prefixes were consumed. -/
structure MandatorySeen (ip : Code) : Prop where
  has66 : (decodeInstruction ip).has66 = true ↔ 0x66#8 ∈ legacyPrefixes ip
  hasF2 : (decodeInstruction ip).hasF2 = true ↔ 0xF2#8 ∈ legacyPrefixes ip
  hasF3 : (decodeInstruction ip).hasF3 = true ↔ 0xF3#8 ∈ legacyPrefixes ip

def isSegmentPrefix (b : Byte) : Bool :=
  b == 0x26#8 || b == 0x2E#8 || b == 0x36#8 || b == 0x3E#8 ||
  b == 0x64#8 || b == 0x65#8

/-- Segment prefixes are inserted somewhere in front of an F3 prefix. -/
def AddsSegments (prefixes prefixes' : List Byte) : Prop :=
  ∃ before segments after,
    prefixes = before ++ after ∧ prefixes' = before ++ segments ++ after ∧
      0xF3#8 ∈ after ∧ ∀ b ∈ segments, isSegmentPrefix b = true

/-- The same instruction with other prefixes in front of it. -/
structure PrefixVariant (ip ip' : Code) : Prop where
  rest :
    ip.drop (legacyPrefixes ip).length = ip'.drop (legacyPrefixes ip').length
  prefixes :
    (legacyPrefixes ip).Perm (legacyPrefixes ip') ∨
      AddsSegments (legacyPrefixes ip) (legacyPrefixes ip')

/--
Mandatory prefixes are seen wherever they stand, and variants of the prefixes
are recognised as the same instruction.
-/
structure PrefixesTransparent
    (ip ip' : Code) (features : CpuFeatures) : Prop where
  seen : MandatorySeen ip
  seen' : MandatorySeen ip'
  stable :
    PrefixVariant ip ip' →
      selectHandler (decodeInstruction ip) features =
        selectHandler (decodeInstruction ip') features

/-- Every mandatory prefix is among the first four. -/
def MandatoryRecorded (ip : Code) : Prop :=
  ∀ b ∈ [0x66#8, 0xF2#8, 0xF3#8],
    b ∈ legacyPrefixes ip → b ∈ recordedPrefixes ip

instance (ip : Code) : Decidable (MandatoryRecorded ip) :=
  inferInstanceAs
    (Decidable
      (∀ b ∈ [0x66#8, 0xF2#8, 0xF3#8],
        b ∈ legacyPrefixes ip → b ∈ recordedPrefixes ip))

/--
The REX byte of one stream, or the ModRM byte of POPCNT, falls behind the
fifteenth byte of the other.
-/
def Displaced (ip ip' : Code) : Prop :=
  (rexByte? ip).isSome = true ∧ (legacyPrefixes ip').length = 15 ∨
    opcodeMap ip = .map0F ∧ opcodeByte ip = 0xB8#8 ∧ 15 ≤ modrmIndex ip'

/-- A handled instruction is no longer found behind the longer prefixes. -/
def PushedOut (ip ip' : Code) (features : CpuFeatures) : Prop :=
  OpcodeHandled ip features ∧ Displaced ip ip'

/-! ## The flags -/

/-- Without VEX the flags report the recorded prefixes. -/
theorem decode_flags
    {ip : Code} (legacy : (opcodeForm ip).isVex = false) :
    ((decodeInstruction ip).has66 = true ↔ 0x66#8 ∈ recordedPrefixes ip) ∧
      ((decodeInstruction ip).hasF2 = true ↔ 0xF2#8 ∈ recordedPrefixes ip) ∧
      ((decodeInstruction ip).hasF3 = true ↔ 0xF3#8 ∈ recordedPrefixes ip) := by
  rcases decode_prefixes ip with ⟨-, has66, hasF2, hasF3⟩
  rw [has66, hasF2, hasF3, prefixedInstruction]
  cases form : opcodeForm ip with
  | vex3 | vex2 =>
      rw [form] at legacy
      exact absurd legacy (by decide)
  | oneByte | escape0F | escape0F38 | escape0F3A =>
      simp [header]

/-- The flags are right exactly when every mandatory prefix is recorded. -/
theorem mandatorySeen_iff
    {ip : Code} (legacy : (opcodeForm ip).isVex = false) :
    MandatorySeen ip ↔ MandatoryRecorded ip := by
  rcases decode_flags legacy with ⟨has66, hasF2, hasF3⟩
  constructor
  · intro seen b mandatory consumed
    simp only [List.mem_cons, List.not_mem_nil, or_false] at mandatory
    rcases mandatory with rfl | rfl | rfl
    · exact has66.mp (seen.has66.mpr consumed)
    · exact hasF2.mp (seen.hasF2.mpr consumed)
    · exact hasF3.mp (seen.hasF3.mpr consumed)
  · intro recorded
    have both {b : Byte} (mandatory : b ∈ [0x66#8, 0xF2#8, 0xF3#8]) :
        b ∈ recordedPrefixes ip ↔ b ∈ legacyPrefixes ip :=
      ⟨legacyPrefixes_of_recorded, recorded b mandatory⟩
    constructor
    · exact has66.trans (both (by decide))
    · exact hasF2.trans (both (by decide))
    · exact hasF3.trans (both (by decide))

/-! ## Variants of the prefixes -/

namespace PrefixVariant

variable {ip ip' : Code}

theorem length_le (variant : PrefixVariant ip ip') :
    (legacyPrefixes ip).length ≤ (legacyPrefixes ip').length := by
  rcases variant.prefixes with perm | ⟨before, segments, after, old, new, -⟩
  · exact perm.length_eq.le
  · rw [old, new]
    simp

/-- Variants have an F3 prefix in common. -/
theorem repeat_iff (variant : PrefixVariant ip ip') :
    0xF3#8 ∈ legacyPrefixes ip ↔ 0xF3#8 ∈ legacyPrefixes ip' := by
  rcases variant.prefixes with
    perm | ⟨before, segments, after, old, new, behind, -⟩
  · exact perm.mem_iff
  · rw [old, new]
    simp [behind]

/-- The REX byte is the same, unless it is pushed out. -/
theorem rexByte?_eq (variant : PrefixVariant ip ip')
    (within :
      ¬ ((rexByte? ip).isSome = true ∧ (legacyPrefixes ip').length = 15)) :
    rexByte? ip = rexByte? ip' := by
  have longer := variant.length_le
  have bound := legacyPrefixes_length_le ip'
  rw [rexByte?_drop ip] at within ⊢
  rw [rexByte?_drop ip', ← variant.rest]
  generalize (ip.drop (legacyPrefixes ip).length).get 0 = first at within ⊢
  by_cases rex : isRex first = true
  · by_cases room : (legacyPrefixes ip).length < 15
    · have room' : (legacyPrefixes ip').length < 15 := by
        have notFull : (legacyPrefixes ip').length ≠ 15 := by
          intro full
          exact within ⟨by simp [room, rex], full⟩
        omega
      simp [room, room']
    · have full : ¬ (legacyPrefixes ip').length < 15 := by omega
      simp [room, full]
  · simp [rex]

/-- A displaced instruction is not recognised. -/
theorem selectedHandler_none (variant : PrefixVariant ip ip')
    (features : CpuFeatures) (displaced : Displaced ip ip') :
    selectedHandler ip' features = none := by
  by_cases lost :
      (rexByte? ip).isSome = true ∧ (legacyPrefixes ip').length = 15
  · -- The REX byte is taken for a one-byte opcode.
    have rex : isRex (headerByte ip' 0) = true := by
      have none : rexLength ip' = 0 := by
        rw [rexLength, rexByte?_drop, lost.2]
        rfl
      have some := lost.1
      rw [rexByte?_drop] at some
      rw [headerByte_drop, none, ← variant.rest]
      split_ifs at some with pattern
      · exact pattern.2
      · exact absurd some (by decide)
    have oneByte : opcodeForm ip' = .oneByte := by
      rw [opcodeForm_eq_oneByte_iff]
      rintro (escape | vex3 | vex2)
      · rw [escape] at rex
        exact absurd rex (by decide)
      · rw [vex3] at rex
        exact absurd rex (by decide)
      · rw [vex2] at rex
        exact absurd rex (by decide)
    simp [selectedHandler, opcodeMap, oneByte, mapHandler]
  · rcases opcode_eq_of_rest variant.rest (variant.rexByte?_eq lost) with
      ⟨-, map, op⟩
    rcases displaced with gone | ⟨map0F, popcnt, beyond⟩
    · exact absurd gone lost
    · have absent : modrmPresent ip' = false := by
        simp [modrmPresent, beyond]
      rw [selectedHandler, ← map, ← op, map0F, popcnt, absent]
      simp [mapHandler]

end PrefixVariant

/-- Only POPCNT asks for a ModRM byte. -/
theorem mapHandler_modrm
    {map : OpcodeMap} {op : Byte} (isVex hasF3 : Bool)
    {hasModrm hasModrm' : Bool} (features : CpuFeatures)
    (same : map = .map0F → op = 0xB8#8 → hasModrm = hasModrm') :
    mapHandler map op isVex hasModrm hasF3 features =
      mapHandler map op isVex hasModrm' hasF3 features := by
  cases map with
  | oneByte | map0F38 | map0F3A => rfl
  | map0F =>
      by_cases popcnt : op = 0xB8#8
      · rw [same rfl popcnt]
      · simp only [mapHandler, popcnt, false_and, if_false]

/-- Variants are recognised alike, unless they are displaced. -/
theorem PrefixVariant.selectedHandler_eq
    {ip ip' : Code} (variant : PrefixVariant ip ip') (features : CpuFeatures)
    (repeated :
      (prefixedInstruction ip).hasF3 = (prefixedInstruction ip').hasF3)
    (within : ¬ Displaced ip ip') :
    selectedHandler ip features = selectedHandler ip' features := by
  have rex := variant.rexByte?_eq fun lost => within (.inl lost)
  rcases opcode_eq_of_rest variant.rest rex with ⟨form, map, op⟩
  have longer : modrmIndex ip ≤ modrmIndex ip' := by
    have prefixes := variant.length_le
    rw [modrmIndex, modrmIndex, headerEnd, headerEnd, rexLength, rexLength,
      rex, form]
    omega
  rw [selectedHandler, selectedHandler, ← form, ← map, ← op, ← repeated]
  apply mapHandler_modrm
  intro map0F popcnt
  have room : modrmIndex ip' < 15 := by
    by_contra beyond
    exact within (.inr ⟨map0F, popcnt, not_lt.mp beyond⟩)
  have room' : modrmIndex ip < 15 := by omega
  rw [modrmPresent, modrmPresent, ← map, ← op]
  simp [room, room']

/-- Variants whose mandatory prefixes are recorded differ only by displacement. -/
theorem PrefixVariant.selectedHandler_eq_iff
    {ip ip' : Code} (variant : PrefixVariant ip ip') (features : CpuFeatures)
    (seen : MandatorySeen ip) (seen' : MandatorySeen ip') :
    selectedHandler ip features = selectedHandler ip' features ↔
      ¬ PushedOut ip ip' features := by
  by_cases displaced : Displaced ip ip'
  · rw [variant.selectedHandler_none features displaced, PushedOut,
      opcodeHandled_iff]
    cases selectedHandler ip features <;> simp [displaced]
  · have repeated :
        (prefixedInstruction ip).hasF3 = (prefixedInstruction ip').hasF3 := by
      rw [← (decode_prefixes ip).2.2.2, ← (decode_prefixes ip').2.2.2,
        Bool.eq_iff_iff, seen.hasF3, seen'.hasF3, variant.repeat_iff]
    have same := variant.selectedHandler_eq features repeated displaced
    simp [same, PushedOut, displaced]

/-! ## When the prefixes are transparent -/

/--
Mandatory prefixes are seen wherever they stand exactly when they are among the
first four, and then a variant is recognised alike exactly when it leaves the
opcode within fifteen bytes.
-/
theorem prefixesTransparent_iff
    (ip ip' : Code) (features : CpuFeatures)
    (legacy : (opcodeForm ip).isVex = false)
    (legacy' : (opcodeForm ip').isVex = false) :
    PrefixesTransparent ip ip' features ↔
      MandatoryRecorded ip ∧ MandatoryRecorded ip' ∧
        (PrefixVariant ip ip' → ¬ PushedOut ip ip' features) := by
  rw [← mandatorySeen_iff legacy, ← mandatorySeen_iff legacy']
  constructor
  · intro transparent
    refine ⟨transparent.seen, transparent.seen', ?_⟩
    intro variant
    have stable := transparent.stable variant
    rw [selectHandler_decode, selectHandler_decode] at stable
    exact (variant.selectedHandler_eq_iff features transparent.seen
      transparent.seen').mp stable
  · rintro ⟨seen, seen', within⟩
    refine ⟨seen, seen', ?_⟩
    intro variant
    rw [selectHandler_decode, selectHandler_decode]
    exact (variant.selectedHandler_eq_iff features seen seen').mpr
      (within variant)

/-- `popcnt eax, ecx` with its prefixes in both orders -/
theorem prefixesTransparent_popcnt :
    PrefixesTransparent
      (codeOfBytes [0x2E#8, 0xF3#8, 0x0F#8, 0xB8#8, 0xC1#8])
      (codeOfBytes [0xF3#8, 0x2E#8, 0x0F#8, 0xB8#8, 0xC1#8]) {} := by
  refine (prefixesTransparent_iff _ _ _ (by decide) (by decide)).mpr
    ⟨by decide, by decide, ?_⟩
  rintro - ⟨-, rex | popcnt⟩
  · exact absurd rex (by decide)
  · exact absurd popcnt.2.2 (by decide)

/-- Behind four segment prefixes it is not recognised. -/
theorem prefixesOpaque_popcnt :
    ¬ PrefixesTransparent
      (codeOfBytes [0xF3#8, 0x0F#8, 0xB8#8, 0xC1#8])
      (codeOfBytes
        [0x2E#8, 0x2E#8, 0x2E#8, 0x2E#8, 0xF3#8, 0x0F#8, 0xB8#8, 0xC1#8])
      {} := by
  intro transparent
  have stable :
      selectHandler
          (decodeInstruction
            (codeOfBytes [0xF3#8, 0x0F#8, 0xB8#8, 0xC1#8])) {} =
        selectHandler
          (decodeInstruction
            (codeOfBytes
              [0x2E#8, 0x2E#8, 0x2E#8, 0x2E#8, 0xF3#8, 0x0F#8, 0xB8#8,
                0xC1#8])) {} := by
    apply transparent.stable
    constructor
    · rfl
    · right
      exact ⟨[], [0x2E#8, 0x2E#8, 0x2E#8, 0x2E#8], [0xF3#8], by decide,
        by decide, by decide, by decide⟩
  exact absurd stable (by decide)

end BadCpu
