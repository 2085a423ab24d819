import BadCpu.BmiFlags
import BadCpu.BmiRouting
import BadCpu.FaultHandler
import BadCpu.PartialWrites
import BadCpu.Recogniser
import BadCpu.RipRelative
import BadCpu.ZeroCounting

/-!
# What the emulated instructions mean

POPCNT, LZCNT, TZCNT, MOVBE and the register forms of BMI1 on a CPU which has
them: an operand is taken at its width, the result is written into a part of a
register or into memory, and the flags are set.  Nothing here depends on the
handlers.
-/

namespace BadCpu

open ByteMemory

/-! ## Operands -/

/-- The memory operand is relative to the instruction pointer. -/
def IsRipRelative (inst : DecodedInstruction) : Prop :=
  (decodeModrm inst.modrm).mod = 0#8 ∧ (decodeModrm inst.modrm).rm = 5#8

instance (inst : DecodedInstruction) : Decidable (IsRipRelative inst) :=
  inferInstanceAs (Decidable (_ ∧ _))

/-- The address of a memory operand without overrides. -/
def archAddress (inst : DecodedInstruction) (gregs : Greg → Word) : Word :=
  if IsRipRelative inst then ripRelativeAddress inst gregs
  else effectiveAddress inst gregs

/-- The source operand, from a register or from memory. -/
def archSource (inst : DecodedInstruction) (machine : Machine) (n : ℕ) :
    BitVec (8 * n) :=
  if (decodeModrm inst.modrm).mod = 3#8 then
    lowBytes n (regValue machine.gregs inst.rm)
  else load machine.memory (archAddress inst machine.gregs) n

/-- A register after a write: a 16-bit write keeps the other bits. -/
def archWrite (n : ℕ) (old : Word) (value : BitVec (8 * n)) : Word :=
  if n = 2 then (old &&& ~~~0xFFFF#64) ||| value.setWidth 64
  else value.setWidth 64

/-! ## Instructions -/

/-- The instructions with a register destination. -/
inductive ArchInstruction where
  | popcnt
  | lzcnt
  | tzcnt
  | movbe
  deriving DecidableEq, Repr

namespace ArchInstruction

/-- The handler which is meant for the instruction. -/
def handler : ArchInstruction → Handler
  | .popcnt => .popcnt
  | .lzcnt => .lzcntTzcnt true
  | .tzcnt => .lzcntTzcnt false
  | .movbe => .movbe

/-- The bytes at `ip` encode the instruction; MOVBE loads with opcode F0. -/
def Encoded (ip : Code) (instruction : ArchInstruction) : Prop :=
  Encodes ip instruction.handler ∧
    (instruction = .movbe → opcodeByte ip = 0xF0#8)

def result (n : ℕ) (source : BitVec (8 * n)) :
    ArchInstruction → BitVec (8 * n)
  | .popcnt => source.cpop
  | .lzcnt => source.clz
  | .tzcnt => source.ctz
  | .movbe => byteSwap n source

/-- The flags which an instruction defines. -/
def SetsFlags
    {n : ℕ} (source result : BitVec (8 * n)) (flags : Word) :
    ArchInstruction → Prop
  | .popcnt =>
      (zeroFlag flags = true ↔ source = 0#(8 * n)) ∧
        ∀ bit ∈ statusBits, bit ≠ 6 → flags.getLsbD bit = false
  | .lzcnt | .tzcnt =>
      (carryFlag flags = true ↔ source = 0#(8 * n)) ∧
        (zeroFlag flags = true ↔ result = 0#(8 * n))
  | .movbe => True

/-- The flags which an instruction leaves alone. -/
def KeepsFlag (bit : ℕ) : ArchInstruction → Prop
  | .movbe => True
  | .popcnt | .lzcnt | .tzcnt => bit ∉ statusBits

end ArchInstruction

/-! ## Steps -/

/-- An instruction within the length limit, without address overrides. -/
structure ArchDecoded (ip : Code) : Prop where
  complete : DecodeComplete (decodeInstruction ip)
  within : (decodeInstruction ip).len.toNat ≤ 15
  addressSize : 0x67#8 ∉ legacyPrefixes ip
  segment : 0x64#8 ∉ legacyPrefixes ip ∧ 0x65#8 ∉ legacyPrefixes ip

/-- The instruction pointer moves on, and other registers are kept. -/
structure ArchAdvances
    (inst : DecodedInstruction) (machine after : Machine) : Prop where
  rip : after.gregs .rip = machine.gregs .rip + inst.len.setWidth 64
  others :
    ∀ greg, greg ≠ .efl → greg ≠ .rip → gregOf inst.reg ≠ some greg →
      after.gregs greg = machine.gregs greg

/-- The effect of an instruction with a register destination. -/
structure ArchEffect
    (ip : Code) (instruction : ArchInstruction) (machine after : Machine) :
    Prop where
  destination :
    regValue after.gregs (decodeInstruction ip).reg =
      archWrite (archLength ip)
        (regValue machine.gregs (decodeInstruction ip).reg)
        (instruction.result (archLength ip)
          (archSource (decodeInstruction ip) machine (archLength ip)))
  flags :
    instruction.SetsFlags
      (archSource (decodeInstruction ip) machine (archLength ip))
      (instruction.result (archLength ip)
        (archSource (decodeInstruction ip) machine (archLength ip)))
      (after.gregs .efl)
  keptFlags :
    ∀ bit, instruction.KeepsFlag bit →
      (after.gregs .efl).getLsbD bit = (machine.gregs .efl).getLsbD bit
  advances : ArchAdvances (decodeInstruction ip) machine after
  memory : after.memory = machine.memory

/-- The effect of a store with MOVBE. -/
structure ArchStore (ip : Code) (machine after : Machine) : Prop where
  memory :
    after.memory =
      store machine.memory (archAddress (decodeInstruction ip) machine.gregs)
        (archLength ip)
        (byteSwap (archLength ip)
          (lowBytes (archLength ip)
            (regValue machine.gregs (decodeInstruction ip).reg)))
  flags : after.gregs .efl = machine.gregs .efl
  advances : ArchAdvances (decodeInstruction ip) machine after
  destination :
    regValue after.gregs (decodeInstruction ip).reg =
      regValue machine.gregs (decodeInstruction ip).reg

namespace BmiInstruction

/-- The carry flag of an instruction, for its ModRM operand. -/
def carry {width : ℕ} (source : BitVec width) : BmiInstruction → Bool
  | .andn => false
  | .blsi => source != 0#(width)
  | .blsr | .blsmsk => source == 0#(width)

end BmiInstruction

/-- The effect of a register form of BMI1. -/
structure ArchBmi (code : BmiEncoding) (tail : Code) (machine after : Machine) :
    Prop where
  written :
    RegisterWritten code.destination (code.result machine.gregs) machine.gregs
      after.gregs
  status :
    BmiStatus
      (code.instruction.carry (code.operand machine.gregs code.rmNumber))
      (code.instruction.result (code.operand machine.gregs code.vvvvNumber)
        (code.operand machine.gregs code.rmNumber))
      (machine.gregs .efl) (after.gregs .efl)
  rip :
    after.gregs .rip =
      machine.gregs .rip +
        (decodeInstruction (code.stream tail)).len.setWidth 64
  memory : after.memory = machine.memory

/-- One of the instructions on a CPU which has it. -/
inductive ArchStep : Machine → Machine → Prop
  | compute {machine after : Machine} (instruction : ArchInstruction) :
      ArchDecoded machine.code → instruction.Encoded machine.code →
        ArchEffect machine.code instruction machine after →
          ArchStep machine after
  | store {machine after : Machine} :
      ArchDecoded machine.code → Encodes machine.code .movbe →
        opcodeByte machine.code = 0xF1#8 →
          ArchStore machine.code machine after →
            ArchStep machine after
  | bmi {machine after : Machine} (code : BmiEncoding) (tail : Code) :
      machine.code = code.stream tail → ArchBmi code tail machine after →
        ArchStep machine after

end BadCpu
