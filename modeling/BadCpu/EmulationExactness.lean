import BadCpu.Architecture
import BadCpu.MandatoryPrefixes
import BadCpu.Movbe
import BadCpu.PartialWrites
import BadCpu.UndefinedCounts

/-!
# Where the emulation is exact

A handler leaves what the architecture asks for under exact conditions on its
operands: the operand which it works on counts like the one which is meant, no
count is zero or undefined, and a 16-bit destination holds nothing which the
handler would clear.  They are necessary, too, as far as a handler has to be
right whatever an undefined builtin returns.
-/

namespace BadCpu

open BitKernels ByteMemory

/-! ## Instructions which reach their handler -/

/-- A legacy instruction of which the decoder keeps everything. -/
structure LegacyDecoded (ip : Code) : Prop where
  decoded : ArchDecoded ip
  /-- The decoder records four prefixes. -/
  recorded : (legacyPrefixes ip).length ≤ 4
  /-- The prefix 66 would take precedence over REX.W. -/
  size :
    (decodeInstruction ip).rex &&& 0x08#8 ≠ 0#8 → 0x66#8 ∉ legacyPrefixes ip

/-- One of the instructions with a legacy encoding, which the CPU lacks. -/
inductive Lacking (features : CpuFeatures) (ip : Code) : Prop
  | compute (instruction : ArchInstruction) :
      instruction.Encoded ip →
        (instruction = .popcnt → features.hasPopcnt = false) →
          Lacking features ip
  | store :
      Encodes ip .movbe → opcodeByte ip = 0xF1#8 → Lacking features ip

namespace ArchInstruction

/-- The last byte of the opcode. -/
def opcode : ArchInstruction → Byte
  | .popcnt => 0xB8#8
  | .lzcnt => 0xBD#8
  | .tzcnt => 0xBC#8
  | .movbe => 0xF0#8

theorem opcode_injective
    {instruction instruction' : ArchInstruction}
    (same : instruction.opcode = instruction'.opcode) :
    instruction = instruction' := by
  revert same
  cases instruction <;> cases instruction' <;> decide

namespace Encoded

variable {ip : Code} {instruction instruction' : ArchInstruction}

theorem head (encoded : instruction.Encoded ip) :
    (opcodeForm ip).isVex = false ∧ opcodeByte ip = instruction.opcode := by
  rcases encoded with ⟨encoded, loads⟩
  cases instruction with
  | popcnt | lzcnt | tzcnt =>
      have form : opcodeForm ip = .escape0F := encoded.1
      rw [form]
      exact ⟨rfl, encoded.2.1⟩
  | movbe =>
      rw [encoded.1]
      exact ⟨rfl, loads rfl⟩

/-- The bytes encode one of the instructions only. -/
theorem unique
    (encoded : instruction.Encoded ip) (encoded' : instruction'.Encoded ip) :
    instruction = instruction' :=
  opcode_injective (encoded.head.2.symm.trans encoded'.head.2)

theorem not_store (encoded : instruction.Encoded ip) :
    opcodeByte ip ≠ 0xF1#8 := by
  rw [encoded.head.2]
  cases instruction <;> decide

end Encoded

end ArchInstruction

theorem Lacking.legacy
    {features : CpuFeatures} {ip : Code} (lacking : Lacking features ip) :
    (opcodeForm ip).isVex = false := by
  rcases lacking with ⟨instruction, encoded, -⟩ | ⟨encoded, -⟩
  · exact encoded.head.1
  · rw [encoded.1]
    rfl

namespace LegacyDecoded

variable {ip : Code} (legacy : LegacyDecoded ip)

include legacy

theorem recordedPrefixes_eq : recordedPrefixes ip = legacyPrefixes ip :=
  List.take_of_length_le legacy.recorded

/-- The handlers work at the architectural width. -/
theorem width (form : (opcodeForm ip).isVex = false) :
    widthInBytes (decodeInstruction ip) = archLength ip := by
  have narrow := (decode_flags form).1
  rw [legacy.recordedPrefixes_eq] at narrow
  rw [widthInBytes, archLength, is64Bit]
  by_cases wide : (decodeInstruction ip).rex &&& 0x08#8 = 0#8
  · simp [wide, narrow]
  · have absent : (decodeInstruction ip).has66 = false := by
      rw [Bool.eq_false_iff, ne_eq, narrow]
      exact legacy.size wide
    simp [wide, absent]

/-- The dispatcher finds the handler of an encoded instruction. -/
theorem selectedHandler_eq
    {features : CpuFeatures} {instruction : ArchInstruction}
    (encoded : instruction.Encoded ip)
    (lacking : instruction = .popcnt → features.hasPopcnt = false) :
    selectedHandler ip features = some instruction.handler := by
  have counted {isLzcnt : Bool} (counts : Encodes ip (.lzcntTzcnt isLzcnt)) :
      selectedHandler ip features = some (.lzcntTzcnt isLzcnt) := by
    rw [selectedHandler_zeroCount counts, if_pos]
    rw [legacy.recordedPrefixes_eq]
    exact ((encodes_zeroCount_iff _ _).mp counts).2.2
  cases instruction with
  | popcnt =>
      rcases encoded.1 with ⟨form, opcode, repeated⟩
      rw [← legacy.recordedPrefixes_eq] at repeated
      have map : opcodeMap ip = .map0F := by
        simp [opcodeMap, form]
      have present : modrmPresent ip = true := by
        rw [← decode_hasModrm]
        exact legacy.decoded.complete.modrm
      have flag : (prefixedInstruction ip).hasF3 = true := by
        rw [hasF3_iff, RepeatFlagged, form]
        simpa [OpcodeForm.isVex, legacy.recordedPrefixes_eq] using repeated
      exact selectedHandler_eq_some_iff.mpr
        ⟨map, opcode, present, flag, lacking rfl⟩
  | lzcnt => exact counted encoded.1
  | tzcnt => exact counted encoded.1
  | movbe => exact selectedHandler_movbe encoded.1 features

theorem accepted
    {features : CpuFeatures} (lacking : Lacking features ip) :
    (selectedHandler ip features).isSome = true := by
  rcases lacking with ⟨instruction, encoded, lacking⟩ | ⟨encoded, -⟩
  · rw [legacy.selectedHandler_eq encoded lacking]
    rfl
  · rw [selectedHandler_movbe encoded]
    rfl

end LegacyDecoded

/-! ## Values in their destination -/

theorem archLength_bounds (ip : Code) :
    0 < archLength ip ∧ archLength ip ≤ 8 := by
  rw [archLength]
  split_ifs <;> decide

/-- The bits of a register after an architectural write. -/
theorem getLsbD_archWrite
    {n : ℕ} (old : Word) (value : BitVec (8 * n)) (bit : ℕ) :
    (archWrite n old value).getLsbD bit =
      if n = 2 ∧ 16 ≤ bit then old.getLsbD bit
      else decide (bit < 64) && value.getLsbD bit := by
  have ones : (0xFFFF#64).getLsbD bit = decide (bit < 16) := by
    have literal : 0xFFFF#64 = (BitVec.allOnes 16).setWidth 64 := rfl
    rw [literal, BitVec.getLsbD_setWidth, BitVec.getLsbD_allOnes]
    by_cases low : bit < 16
    · simp [low, show bit < 64 by omega]
    · simp [low]
  rw [archWrite]
  by_cases word : n = 2
  · subst word
    simp only [if_true, BitVec.getLsbD_or, BitVec.getLsbD_and,
      BitVec.getLsbD_not, BitVec.getLsbD_setWidth, ones, true_and]
    by_cases low : bit < 16
    · simp [low, show bit < 64 by omega, show ¬ 16 ≤ bit by omega]
    · have beyond : value.getLsbD bit = false :=
        BitVec.getLsbD_of_ge value bit (by omega)
      by_cases inside : bit < 64
      · simp [low, inside, show 16 ≤ bit by omega]
      · have outside : old.getLsbD bit = false :=
          BitVec.getLsbD_of_ge old bit (by omega)
        simp [inside, beyond, outside]
  · simp [word]

/-- The low bytes after an architectural write are the ones written. -/
theorem lowBytes_archWrite
    {n : ℕ} (fits : 8 * n ≤ 64) (old : Word) (value : BitVec (8 * n)) :
    lowBytes n (archWrite n old value) = value := by
  apply BitVec.eq_of_getLsbD_eq
  intro bit bound
  have low : ¬ (n = 2 ∧ 16 ≤ bit) := by omega
  rw [lowBytes, BitVec.getLsbD_setWidth, getLsbD_archWrite, if_neg low]
  simp [bound, show bit < 64 by omega]

section Values

variable {inst : DecodedInstruction} {n : ℕ} (width : widthInBytes inst = n)

include width

theorem fits_of_width : 8 * n ≤ 64 := by
  rw [← width]
  exact widthInBytes_le inst

/--
A count in the whole register is an architectural write exactly if it is the
right one, and a 16-bit write does not have to keep anything.
-/
theorem ofNat_eq_archWrite_iff
    {count : ℕ} (bound : count ≤ 8 * n) (old : Word)
    (value : BitVec (8 * n)) :
    BitVec.ofNat 64 count = archWrite n old value ↔
      count = value.toNat ∧ (n = 2 → ClearFrom 16 old) := by
  have fits := fits_of_width width
  constructor
  · intro written
    constructor
    · have low := congrArg (lowBytes n) written
      rw [lowBytes_archWrite fits] at low
      subst width
      rw [← low, lowBytes_count inst bound]
    · intro word bit upper
      have small := clearFrom_count (bound.trans fits) bit upper
      rwa [written, getLsbD_archWrite, if_pos ⟨word, upper⟩] at small
  · rintro ⟨rfl, clear⟩
    rw [BitVec.ofNat_toNat]
    apply BitVec.eq_of_getLsbD_eq
    intro bit inside
    rw [getLsbD_archWrite, BitVec.getLsbD_setWidth]
    split_ifs with upper
    · have beyond : value.getLsbD bit = false :=
        BitVec.getLsbD_of_ge value bit (by omega)
      rw [clear upper.1 bit upper.2, beyond, Bool.and_false]
    · rfl

/--
The value of MOVBE is an architectural write exactly if the right bytes are
reversed, and a 16-bit write does not have to keep an upper half.
-/
theorem movbeValue_eq_archWrite_iff
    (old : Word) (source : (n : ℕ) → BitVec (8 * n)) (value : BitVec (8 * n)) :
    movbeValue inst old source = archWrite n old (byteSwap n value) ↔
      source n = value ∧ (n = 2 → UpperHalfZero old) := by
  have low := lowBytes_movbeValue inst old source
  rw [width] at low
  constructor
  · intro written
    constructor
    · rw [written, lowBytes_archWrite (fits_of_width width), eq_comm,
        byteSwap_eq_iff, byteSwap_byteSwap] at low
      exact low
    · intro word bit upper
      have kept :
          (movbeValue inst old source).getLsbD bit =
            (archWrite n old (byteSwap n value)).getLsbD bit := by
        rw [written]
      rw [movbeValue_word old source (width.trans word), getLsbD_merge16,
        if_neg (by omega), decide_eq_false (by omega), Bool.false_and,
        getLsbD_archWrite, if_pos ⟨word, by omega⟩] at kept
      exact kept.symm
  · rintro ⟨rfl, clear⟩
    by_cases word : n = 2
    · have half := clear word
      rw [movbeValue_word old source (width.trans word)]
      subst word
      apply BitVec.eq_of_getLsbD_eq
      intro bit bound
      rw [getLsbD_merge16, getLsbD_archWrite]
      by_cases lower : bit < 16
      · simp [lower, bound, show ¬ 16 ≤ bit by omega]
      · by_cases inside : bit < 32
        · simp [lower, inside, show 16 ≤ bit by omega]
        · simp [lower, inside, show 16 ≤ bit by omega,
            half bit (by omega)]
    · rw [archWrite, if_neg word]
      rcases width_cases inst with
        ⟨-, -, bytes⟩ | ⟨-, -, bytes⟩ | ⟨-, -, bytes⟩
      · obtain rfl := width.symm.trans bytes
        rw [movbeValue_wide old source bytes]
        exact (BitVec.setWidth_eq _).symm
      · exact absurd (width.symm.trans bytes) word
      · obtain rfl := width.symm.trans bytes
        exact movbeValue_double old source bytes

end Values

/-! ## Exact operands -/

namespace ArchInstruction

/-- What the handler takes for the source: of a memory operand, the address. -/
def handlerSource (ip : Code) (machine : Machine) :
    ArchInstruction → BitVec (8 * archLength ip)
  | .popcnt | .lzcnt | .tzcnt =>
      lowBytes (archLength ip) (rmValue (decodeInstruction ip) machine.gregs)
  | .movbe =>
      load machine.memory (rmValue (decodeInstruction ip) machine.gregs)
        (archLength ip)

def CountsZeros : ArchInstruction → Prop
  | .lzcnt | .tzcnt => True
  | .popcnt | .movbe => False

/-- The bits of a 16-bit destination which the handler clears. -/
def clearedFrom : ArchInstruction → ℕ
  | .popcnt | .lzcnt | .tzcnt => 16
  | .movbe => 32

/-- The operands with which an instruction is emulated exactly. -/
structure Exact
    (ip : Code) (machine : Machine) (instruction : ArchInstruction) :
    Prop where
  result :
    instruction.result (archLength ip) (instruction.handlerSource ip machine) =
      instruction.result (archLength ip)
        (archSource (decodeInstruction ip) machine (archLength ip))
  /-- Neither a zero operand nor a zero count is reported by the flags. -/
  counted :
    instruction.CountsZeros →
      instruction.handlerSource ip machine ≠ 0#(8 * archLength ip) ∧
        instruction.result (archLength ip)
            (instruction.handlerSource ip machine) ≠
          0#(8 * archLength ip)
  cleared :
    archLength ip = 2 →
      ClearFrom instruction.clearedFrom
        (regValue machine.gregs (decodeInstruction ip).reg)

end ArchInstruction

/-- The operands with which a store of MOVBE changes nothing. -/
structure StoreExact (ip : Code) (machine : Machine) : Prop where
  stored :
    load machine.memory (archAddress (decodeInstruction ip) machine.gregs)
        (archLength ip) =
      byteSwap (archLength ip)
        (lowBytes (archLength ip)
          (regValue machine.gregs (decodeInstruction ip).reg))
  /-- What is loaded instead leaves the register alone. -/
  loaded :
    load machine.memory (rmValue (decodeInstruction ip) machine.gregs)
        (archLength ip) =
      byteSwap (archLength ip)
        (lowBytes (archLength ip)
          (regValue machine.gregs (decodeInstruction ip).reg))
  cleared :
    archLength ip = 8 ∨
      UpperHalfZero (regValue machine.gregs (decodeInstruction ip).reg)

/-! ## One effect -/

/-- A committed handler moves on and keeps the other registers. -/
theorem archAdvances_of_committed
    {zero : ZeroCounts} {inst : DecodedInstruction} {machine : Machine}
    {handler : Handler} {after : EmuState}
    (committed : Committed zero inst machine handler after) :
    ArchAdvances inst machine after.machine where
  rip := committed.rip
  others := committed.general

/-- Only ZF changes, apart from the cleared status flags. -/
theorem getLsbD_zeroFlags_kept
    {bit : ℕ} (outside : bit ∉ statusBits) (flags : Word) (isZero : Bool) :
    (zeroFlags flags isZero).getLsbD bit = flags.getLsbD bit := by
  have other : bit ≠ 6 := by
    rintro rfl
    exact outside (by decide)
  rw [getLsbD_zeroFlags, if_neg other, decide_eq_false outside,
    Bool.not_false, Bool.and_true]

section Effect

variable {zero : ZeroCounts} {machine : Machine} {after : EmuState}
  (width :
    widthInBytes (decodeInstruction machine.code) = archLength machine.code)

include width

/-- The count of POPCNT, at the architectural width. -/
theorem popcntCount_archLength (src : Word) :
    popcntCount (decodeInstruction machine.code) src =
      BitVec.ofNat 64 (lowBytes (archLength machine.code) src).cpop.toNat := by
  rw [popcntCount_eq, width]
  rfl

theorem archEffect_popcnt_iff
    (committed :
      Committed zero (decodeInstruction machine.code) machine .popcnt after) :
    ArchEffect machine.code .popcnt machine after.machine ↔
      ArchInstruction.popcnt.Exact machine.code machine := by
  have destination := committed.destination
  have flags := committed.flags
  rw [Handler.value, popcntCount_archLength width] at destination
  rw [Handler.flags, popcntCount_archLength width] at flags
  have written :=
    ofNat_eq_archWrite_iff width
      (BitVec.toNat_cpop_le
        (ArchInstruction.popcnt.handlerSource machine.code machine))
      (regValue machine.gregs (decodeInstruction machine.code).reg)
      (archSource (decodeInstruction machine.code) machine
        (archLength machine.code)).cpop
  constructor
  · intro effect
    rcases written.mp (destination.symm.trans effect.destination) with
      ⟨same, cleared⟩
    exact
      { result := BitVec.eq_of_toNat_eq same
        counted := False.elim
        cleared := cleared }
  · rintro ⟨same, -, cleared⟩
    have count := congrArg BitVec.toNat same
    constructor
    case destination =>
      exact destination.trans (written.mpr ⟨count, cleared⟩)
    case flags =>
      rw [flags]
      refine ⟨?_, fun bit status other => ?_⟩
      · have small := (BitVec.toNat_cpop_le
          (ArchInstruction.popcnt.handlerSource machine.code machine)).trans
            (fits_of_width width)
        rw [zeroFlag_zeroFlags, beq_iff_eq]
        exact (ofNat_count_inj small (Nat.zero_le 64)).trans
          ((Eq.congr_left count).trans (cpop_eq_zero_iff _))
      · rw [getLsbD_zeroFlags, if_neg other]
        simp [status]
    case keptFlags =>
      intro bit outside
      rw [flags, getLsbD_zeroFlags_kept outside]
    case advances => exact archAdvances_of_committed committed
    case memory => exact committed.memory

end Effect

/-! ### Counts of zeros -/

/-- The instructions which count zeros. -/
def zeroInstruction (isLzcnt : Bool) : ArchInstruction :=
  if isLzcnt then .lzcnt else .tzcnt

theorem toNat_result_zeroInstruction
    (isLzcnt : Bool) (n : ℕ) (src : Word) :
    ((zeroInstruction isLzcnt).result n (lowBytes n src)).toNat =
      zeroBits isLzcnt n src := by
  cases isLzcnt <;> rfl

/-- An operand has fewer zeros than bits unless it is zero. -/
theorem result_lt_iff
    (isLzcnt : Bool) {n : ℕ} (source : BitVec (8 * n)) :
    ((zeroInstruction isLzcnt).result n source).toNat < 8 * n ↔
      source ≠ 0#(8 * n) := by
  cases isLzcnt with
  | true =>
      rw [← BitVec.clz_lt_iff_ne_zero]
      simp [zeroInstruction, ArchInstruction.result, BitVec.lt_def]
  | false =>
      rw [← BitVec.ctz_lt_iff_ne_zero]
      simp [zeroInstruction, ArchInstruction.result, BitVec.lt_def]

section ZeroInstruction

variable (isLzcnt : Bool)

theorem handlerSource_zeroInstruction (ip : Code) (machine : Machine) :
    (zeroInstruction isLzcnt).handlerSource ip machine =
      lowBytes (archLength ip)
        (rmValue (decodeInstruction ip) machine.gregs) := by
  cases isLzcnt <;> rfl

theorem setsFlags_zeroInstruction
    {n : ℕ} (source result : BitVec (8 * n)) (flags : Word) :
    (zeroInstruction isLzcnt).SetsFlags source result flags ↔
      (carryFlag flags = true ↔ source = 0#(8 * n)) ∧
        (zeroFlag flags = true ↔ result = 0#(8 * n)) := by
  cases isLzcnt <;> exact Iff.rfl

theorem keepsFlag_zeroInstruction (bit : ℕ) :
    (zeroInstruction isLzcnt).KeepsFlag bit ↔ bit ∉ statusBits := by
  cases isLzcnt <;> exact Iff.rfl

theorem clearedFrom_zeroInstruction :
    (zeroInstruction isLzcnt).clearedFrom = 16 := by
  cases isLzcnt <;> rfl

theorem countsZeros_zeroInstruction :
    (zeroInstruction isLzcnt).CountsZeros := by
  cases isLzcnt <;> trivial

end ZeroInstruction

section ZeroCount

variable {zero : ZeroCounts} {machine : Machine} {after : EmuState}
  (isLzcnt : Bool)
  (width :
    widthInBytes (decodeInstruction machine.code) = archLength machine.code)

include width

/-- The count of a nonzero operand, at the architectural width. -/
theorem zeroCountValue_archLength
    (zero : ZeroCounts) {src : Word}
    (filled :
      lowBytes (archLength machine.code) src ≠
        0#(8 * archLength machine.code)) :
    zeroCountValue zero (decodeInstruction machine.code) isLzcnt src =
      BitVec.ofNat 64
        ((zeroInstruction isLzcnt).result (archLength machine.code)
          (lowBytes (archLength machine.code) src)).toNat := by
  rw [← width] at filled
  rw [zeroCountValue_eq zero _ isLzcnt filled, width,
    toNat_result_zeroInstruction]

theorem archEffect_zeroCount_iff
    (filled :
      lowBytes (archLength machine.code)
          (rmValue (decodeInstruction machine.code) machine.gregs) ≠
        0#(8 * archLength machine.code))
    (committed :
      Committed zero (decodeInstruction machine.code) machine
        (.lzcntTzcnt isLzcnt) after) :
    ArchEffect machine.code (zeroInstruction isLzcnt) machine after.machine ↔
      (zeroInstruction isLzcnt).Exact machine.code machine := by
  have source := handlerSource_zeroInstruction isLzcnt machine.code machine
  have destination := committed.destination
  have flags := committed.flags
  have nonzero := beq_eq_false_iff_ne.mpr (ne_zero_of_lowBytes filled)
  rw [Handler.value, zeroCountValue_archLength isLzcnt width zero filled, ← source]
    at destination
  rw [Handler.flags, nonzero] at flags
  rw [← source, ← result_lt_iff isLzcnt] at filled
  have written :=
    ofNat_eq_archWrite_iff width filled.le
      (regValue machine.gregs (decodeInstruction machine.code).reg)
      ((zeroInstruction isLzcnt).result (archLength machine.code)
        (archSource (decodeInstruction machine.code) machine
          (archLength machine.code)))
  constructor
  · intro effect
    rcases written.mp (destination.symm.trans effect.destination) with
      ⟨count, cleared⟩
    have same := BitVec.eq_of_toNat_eq count
    constructor
    case result => exact same
    case counted =>
      intro _
      refine ⟨(result_lt_iff isLzcnt _).mp filled, fun none => ?_⟩
      have unset :=
        ((setsFlags_zeroInstruction isLzcnt _ _ _).mp effect.flags).2.mpr
          (same.symm.trans none)
      rw [flags, zeroFlag_zeroFlags] at unset
      exact Bool.false_ne_true unset
    case cleared =>
      rw [clearedFrom_zeroInstruction]
      exact cleared
  · rintro ⟨same, counted, cleared⟩
    rw [clearedFrom_zeroInstruction] at cleared
    have count := congrArg BitVec.toNat same
    have positive := (counted (countsZeros_zeroInstruction isLzcnt)).2
    constructor
    case destination =>
      exact destination.trans (written.mpr ⟨count, cleared⟩)
    case flags =>
      rw [setsFlags_zeroInstruction, flags, carryFlag_zeroFlags,
        zeroFlag_zeroFlags]
      rw [count] at filled
      rw [same] at positive
      exact ⟨iff_of_false Bool.false_ne_true
          ((result_lt_iff isLzcnt _).mp filled),
        iff_of_false Bool.false_ne_true positive⟩
    case keptFlags =>
      intro bit kept
      rw [keepsFlag_zeroInstruction] at kept
      rw [flags, getLsbD_zeroFlags_kept kept]
    case advances => exact archAdvances_of_committed committed
    case memory => exact committed.memory

/-- Without a set bit in the operand, some count is not the right one. -/
theorem exists_not_archEffect
    (empty :
      lowBytes (archLength machine.code)
          (rmValue (decodeInstruction machine.code) machine.gregs) =
        0#(8 * archLength machine.code)) :
    ∃ zero, ∀ after,
      Committed zero (decodeInstruction machine.code) machine
          (.lzcntTzcnt isLzcnt) after →
        ¬ ArchEffect machine.code (zeroInstruction isLzcnt) machine
          after.machine := by
  by_cases word :
      rmValue (decodeInstruction machine.code) machine.gregs = 0#64
  · -- A zero source sets ZF, although the count is the operand size.
    refine ⟨default, fun after committed effect => ?_⟩
    have destination := committed.destination
    have flags := committed.flags
    rw [Handler.value, word, zeroCountValue_zero, width] at destination
    rw [Handler.flags, word, beq_self_eq_true] at flags
    have zero :=
      ((setsFlags_zeroInstruction isLzcnt _ _ _).mp effect.flags).2.mp
        (by rw [flags, zeroFlag_zeroFlags])
    have count :=
      ((ofNat_eq_archWrite_iff width le_rfl _ _).mp
        (destination.symm.trans effect.destination)).1
    rw [zero] at count
    have positive := (archLength_bounds machine.code).1
    rw [BitVec.toNat_ofNat, Nat.zero_mod] at count
    omega
  · -- An undefined builtin may return what the destination must not hold.
    rcases undefinedCount_topBit (decodeInstruction machine.code) isLzcnt
        (!(archWrite (archLength machine.code)
          (regValue machine.gregs (decodeInstruction machine.code).reg)
          ((zeroInstruction isLzcnt).result (archLength machine.code)
            (archSource (decodeInstruction machine.code) machine
              (archLength machine.code)))).getLsbD 63) with ⟨zero, top⟩
    refine ⟨zero, fun after committed effect => ?_⟩
    have destination := committed.destination
    rw [← width] at empty
    rw [Handler.value, zeroCountValue_undefined zero _ isLzcnt word empty,
      effect.destination] at destination
    rw [← destination] at top
    exact Bool.not_ne_self _ top.symm

end ZeroCount

/-! ### MOVBE -/

/-- An encoded MOVBE has a memory operand. -/
theorem movbe_memory {ip : Code} (encoded : Encodes ip .movbe) :
    (decodeModrm (decodeInstruction ip).modrm).mod ≠ 3#8 := by
  have selected := selectedHandler_movbe encoded {}
  rcases encoded with ⟨-, -, -, room, memory⟩
  have present : modrmPresent ip = true := by
    simp [modrmPresent_of_selected selected, room]
  rw [(decode_operands present).2.1]
  simpa [isMemoryForm] using memory

section Movbe

variable {zero : ZeroCounts} {machine : Machine} {after : EmuState}
  (width :
    widthInBytes (decodeInstruction machine.code) = archLength machine.code)
  (encoded : Encodes machine.code .movbe)
  (committed :
    Committed zero (decodeInstruction machine.code) machine .movbe after)

include width encoded committed

theorem archEffect_movbe_iff :
    ArchEffect machine.code .movbe machine after.machine ↔
      ArchInstruction.movbe.Exact machine.code machine := by
  have destination := movbe_destination committed encoded
  have written :=
    movbeValue_eq_archWrite_iff width
      (regValue machine.gregs (decodeInstruction machine.code).reg)
      (load machine.memory
        (rmValue (decodeInstruction machine.code) machine.gregs))
      (archSource (decodeInstruction machine.code) machine
        (archLength machine.code))
  constructor
  · intro effect
    rcases written.mp (destination.symm.trans effect.destination) with
      ⟨same, cleared⟩
    exact
      { result := congrArg (byteSwap _) same
        counted := False.elim
        cleared := cleared }
  · rintro ⟨same, -, cleared⟩
    have loaded := (byteSwap_eq_iff _ _).mp same
    rw [ArchInstruction.result, byteSwap_byteSwap] at loaded
    exact
      { destination := destination.trans (written.mpr ⟨loaded, cleared⟩)
        flags := trivial
        keptFlags := fun bit _ => by rw [committed.flags, Handler.flags]
        advances := archAdvances_of_committed committed
        memory := committed.memory }

/-- A load stands for a store only if neither of them changes anything. -/
theorem archStore_iff :
    ArchStore machine.code machine after.machine ↔
      StoreExact machine.code machine := by
  have destination := movbe_destination committed encoded
  have fits : archLength machine.code ≤ 2 ^ 64 :=
    (archLength_bounds machine.code).2.trans (by decide)
  have kept :=
    movbeValue_eq_self_iff (decodeInstruction machine.code)
      (regValue machine.gregs (decodeInstruction machine.code).reg)
      (load machine.memory
        (rmValue (decodeInstruction machine.code) machine.gregs))
  rw [width, byteSwap_eq_iff] at kept
  constructor
  · intro effect
    rcases kept.mp (destination.symm.trans effect.destination) with
      ⟨loaded, cleared⟩
    have invisible := effect.memory.symm.trans committed.memory
    exact
      { stored := (store_eq_self_iff _ _ _ fits).mp invisible
        loaded := loaded
        cleared := cleared }
  · rintro ⟨stored, loaded, cleared⟩
    have invisible := (store_eq_self_iff _ _ _ fits).mpr stored
    exact
      { memory := committed.memory.trans invisible.symm
        flags := by rw [committed.flags, Handler.flags]
        advances := archAdvances_of_committed committed
        destination := destination.trans (kept.mpr ⟨loaded, cleared⟩) }

end Movbe

/-! ## Faults -/

section Faults

variable {features : CpuFeatures} {machine : Machine}

/-- What holds of every outcome of a fault holds of every commit. -/
theorem faultStep_forall_iff
    {handler : Handler}
    (selected : selectedHandler machine.code features = some handler)
    {holds : Machine → Prop} :
    (∀ inst after, FaultStep features machine inst after → holds after) ↔
      ∀ zero state,
        Committed zero (decodeInstruction machine.code) machine handler state →
          holds state.machine := by
  constructor
  · intro outcomes zero state committed
    rcases sigillHandler_some zero selected with ⟨returned, run, committed'⟩
    rw [committed.machine_eq committed' rfl]
    exact outcomes _ _ ⟨rfl, zero, run⟩
  · rintro commits inst after step
    rcases faultStep_iff.mp step with
      ⟨rfl, zero, other, state, selected', committed, rfl, -⟩
    obtain rfl := Option.some.inj (selected.symm.trans selected')
    exact commits zero state committed

/-- There is a commit for whatever the builtins return. -/
theorem exists_committed
    {handler : Handler}
    (selected : selectedHandler machine.code features = some handler)
    (zero : ZeroCounts) :
    ∃ state,
      Committed zero (decodeInstruction machine.code) machine handler state := by
  rcases sigillHandler_some zero selected with ⟨state, -, committed⟩
  exact ⟨state, committed⟩

/-- A condition which fits every commit fits all outcomes of a fault. -/
theorem faultStep_forall_iff_of_each
    {handler : Handler}
    (selected : selectedHandler machine.code features = some handler)
    {holds : Machine → Prop} {condition : Prop}
    (each :
      ∀ zero state,
        Committed zero (decodeInstruction machine.code) machine handler state →
          (holds state.machine ↔ condition)) :
    (∀ inst after, FaultStep features machine inst after → holds after) ↔
      condition := by
  rw [faultStep_forall_iff selected]
  constructor
  · intro outcomes
    rcases exists_committed selected default with
      ⟨state, committed⟩
    exact (each _ state committed).mp (outcomes _ state committed)
  · intro met zero state committed
    exact (each zero state committed).mpr met

/-- Only an operand with a set bit is counted right in every outcome. -/
theorem archEffect_forall_zeroCount_iff
    (isLzcnt : Bool)
    (width :
      widthInBytes (decodeInstruction machine.code) = archLength machine.code)
    (selected :
      selectedHandler machine.code features = some (.lzcntTzcnt isLzcnt)) :
    (∀ inst after, FaultStep features machine inst after →
        ArchEffect machine.code (zeroInstruction isLzcnt) machine after) ↔
      (zeroInstruction isLzcnt).Exact machine.code machine := by
  by_cases empty :
      lowBytes (archLength machine.code)
          (rmValue (decodeInstruction machine.code) machine.gregs) =
        0#(8 * archLength machine.code)
  · rw [faultStep_forall_iff selected]
    constructor
    · intro outcomes
      rcases exists_not_archEffect isLzcnt width empty with
        ⟨zero, wrong⟩
      rcases exists_committed selected zero with ⟨state, committed⟩
      exact absurd (outcomes zero state committed) (wrong state committed)
    · intro met
      have filled := (met.counted (countsZeros_zeroInstruction isLzcnt)).1
      rw [handlerSource_zeroInstruction] at filled
      exact absurd empty filled
  · exact faultStep_forall_iff_of_each selected fun zero state committed =>
      archEffect_zeroCount_iff isLzcnt width empty committed

theorem archEffect_forall_iff
    (legacy : LegacyDecoded machine.code)
    {instruction : ArchInstruction} (encoded : instruction.Encoded machine.code)
    (lacking : instruction = .popcnt → features.hasPopcnt = false) :
    (∀ inst after, FaultStep features machine inst after →
        ArchEffect machine.code instruction machine after) ↔
      instruction.Exact machine.code machine := by
  have width := legacy.width encoded.head.1
  have selected := legacy.selectedHandler_eq encoded lacking
  cases instruction with
  | popcnt =>
      exact faultStep_forall_iff_of_each selected fun _ _ committed =>
        archEffect_popcnt_iff width committed
  | lzcnt => exact archEffect_forall_zeroCount_iff true width selected
  | tzcnt => exact archEffect_forall_zeroCount_iff false width selected
  | movbe =>
      exact faultStep_forall_iff_of_each selected fun _ _ committed =>
        archEffect_movbe_iff width encoded.1 committed

theorem archStore_forall_iff
    (legacy : LegacyDecoded machine.code)
    (encoded : Encodes machine.code .movbe)
    (stores : opcodeByte machine.code = 0xF1#8) :
    (∀ inst after, FaultStep features machine inst after →
        ArchStore machine.code machine after) ↔
      StoreExact machine.code machine := by
  have lacking : Lacking features machine.code := .store encoded stores
  have width := legacy.width lacking.legacy
  exact faultStep_forall_iff_of_each (selectedHandler_movbe encoded features)
    fun _ _ committed => archStore_iff width encoded committed

end Faults

/-! ## Exactness -/

/-- The instruction at the instruction pointer is emulated exactly. -/
inductive EmulatedExactly (machine : Machine) : Prop
  | compute (instruction : ArchInstruction) :
      instruction.Encoded machine.code →
        instruction.Exact machine.code machine → EmulatedExactly machine
  | store :
      Encodes machine.code .movbe → opcodeByte machine.code = 0xF1#8 →
        StoreExact machine.code machine → EmulatedExactly machine

section Exactness

variable {machine after : Machine}

/-- The architecture leaves no choice of the instruction. -/
theorem archStep_compute_iff
    (decoded : ArchDecoded machine.code) {instruction : ArchInstruction}
    (encoded : instruction.Encoded machine.code) :
    ArchStep machine after ↔
      ArchEffect machine.code instruction machine after := by
  constructor
  · rintro (⟨other, -, encoded', effect⟩ | ⟨-, -, stores, -⟩ |
      ⟨code, tail, bytes, -⟩)
    · rw [encoded.unique encoded']
      exact effect
    · exact absurd stores encoded.not_store
    · have form := encoded.head.1
      rw [bytes, (code.opcode_stream tail).1] at form
      exact absurd form (by decide)
  · exact .compute instruction decoded encoded

theorem archStep_store_iff
    (decoded : ArchDecoded machine.code) (encoded : Encodes machine.code .movbe)
    (stores : opcodeByte machine.code = 0xF1#8) :
    ArchStep machine after ↔ ArchStore machine.code machine after := by
  constructor
  · rintro (⟨other, -, encoded', -⟩ | ⟨-, -, -, effect⟩ |
      ⟨code, tail, bytes, -⟩)
    · exact absurd stores encoded'.not_store
    · exact effect
    · have form := encoded.1
      rw [bytes, (code.opcode_stream tail).1] at form
      exact absurd form (by decide)
  · exact .store decoded encoded stores

theorem emulatedExactly_compute_iff
    {instruction : ArchInstruction}
    (encoded : instruction.Encoded machine.code) :
    EmulatedExactly machine ↔ instruction.Exact machine.code machine := by
  constructor
  · rintro (⟨other, encoded', met⟩ | ⟨-, stores, -⟩)
    · rw [encoded.unique encoded']
      exact met
    · exact absurd stores encoded.not_store
  · exact .compute instruction encoded

theorem emulatedExactly_store_iff
    (encoded : Encodes machine.code .movbe)
    (stores : opcodeByte machine.code = 0xF1#8) :
    EmulatedExactly machine ↔ StoreExact machine.code machine := by
  constructor
  · rintro (⟨other, encoded', -⟩ | ⟨-, -, met⟩)
    · exact absurd stores encoded'.not_store
    · exact met
  · exact .store encoded stores

/-- The architecture allows every outcome exactly for exact operands. -/
theorem archStep_forall_iff
    {features : CpuFeatures} (legacy : LegacyDecoded machine.code)
    (lacking : Lacking features machine.code) :
    (∀ inst after, FaultStep features machine inst after →
        ArchStep machine after) ↔
      EmulatedExactly machine := by
  rcases lacking with ⟨instruction, encoded, lacking⟩ | ⟨encoded, stores⟩
  · simp only [archStep_compute_iff legacy.decoded encoded,
      emulatedExactly_compute_iff encoded]
    exact archEffect_forall_iff legacy encoded lacking
  · simp only [archStep_store_iff legacy.decoded encoded stores,
      emulatedExactly_store_iff encoded stores]
    exact archStore_forall_iff legacy encoded stores

/--
A fault at one of the instructions is survived, and the architecture allows each
of its outcomes exactly if the operands are exact.
-/
theorem emulation_exact
    {features : CpuFeatures} (legacy : LegacyDecoded machine.code)
    (lacking : Lacking features machine.code) :
    (∃ inst after, FaultStep features machine inst after) ∧
      ((∀ inst after, FaultStep features machine inst after →
          ArchStep machine after) ↔
        EmulatedExactly machine) := by
  refine ⟨?_, archStep_forall_iff legacy lacking⟩
  rcases exists_faultStep (legacy.accepted lacking) with ⟨after, step⟩
  exact ⟨_, after, step⟩

end Exactness

theorem legacyDecoded_counting :
    LegacyDecoded (countingMachine 0#64).code where
  decoded :=
    { complete := ⟨by decide, by decide⟩
      within := by decide
      addressSize := by decide
      segment := by decide }
  recorded := by decide
  size := by decide

theorem encoded_counting :
    ArchInstruction.popcnt.Encoded (countingMachine 0#64).code :=
  ⟨⟨by decide, by decide, by decide⟩, fun movbe => absurd movbe (by decide)⟩

/-- `popcnt eax, ecx` is emulated exactly. -/
theorem emulation_exact_counting :
    ∃ inst after,
      FaultStep {} (countingMachine 0#64) inst after ∧
        ArchStep (countingMachine 0#64) after := by
  have exactly : EmulatedExactly (countingMachine 0#64) :=
    .compute .popcnt encoded_counting
      { result := by decide
        counted := False.elim
        cleared := fun word => absurd word (by decide) }
  have lacking : Lacking {} (countingMachine 0#64).code :=
    .compute .popcnt encoded_counting fun _ => rfl
  rcases emulation_exact legacyDecoded_counting lacking with
    ⟨⟨inst, after, step⟩, sound⟩
  exact ⟨inst, after, step, sound.mpr exactly inst after step⟩

end BadCpu
