import BadCpu.AdaptiveQuery
import BadCpu.Instruction

/-!
# The instruction decoder

`decode_instruction` of `decoder.cpp`.  Every `ip[i]` of the source is a
question about the instruction stream, so a run of the decoder determines both
its result and the indices it dereferences.  The stages follow the comments of
the source, and a pair of an instruction and a position stands for the local
variables `inst` and `pos`.
-/

namespace BadCpu

open AdaptiveQuery

/-- A stage of the decoder. -/
abbrev Decode (α : Type) := Query ℕ Byte α

/-! ## Field extraction -/

/-- The three fields of a ModRM byte. -/
structure ModrmFields where
  mod : Byte
  reg : Byte
  rm : Byte
  deriving DecidableEq, Repr

def decodeModrm (modrm : Byte) : ModrmFields where
  mod := (modrm >>> 6) &&& 0x03#8
  reg := (modrm >>> 3) &&& 0x07#8
  rm := modrm &&& 0x07#8

/-- The three fields of a SIB byte. -/
structure SibFields where
  scale : Byte
  index : Byte
  base : Byte
  deriving DecidableEq, Repr

def decodeSib (sib : Byte) : SibFields where
  scale := (sib >>> 6) &&& 0x03#8
  index := (sib >>> 3) &&& 0x07#8
  base := sib &&& 0x07#8

def displacementSize (mod rm : Byte) (hasSibByte : Bool) : Int :=
  if mod = 0#8 then
    if rm = 5#8 ∧ ¬ hasSibByte then 4
    else if rm = 4#8 ∧ hasSibByte then -1
    else 0
  else if mod = 1#8 then 1
  else if mod = 2#8 then 4
  else 0

def displacementSizeWithSib (mod base : Byte) : Int :=
  if mod = 0#8 ∧ base = 5#8 then 4
  else if mod = 1#8 then 1
  else if mod = 2#8 then 4
  else 0

/-! ## Legacy prefixes and REX -/

/-- The ten bytes which the prefix loop consumes. -/
def isLegacyPrefix (b : Byte) : Bool :=
  b == 0x66#8 || b == 0x67#8 || b == 0xF2#8 || b == 0xF3#8 ||
  b == 0x26#8 || b == 0x2E#8 || b == 0x36#8 || b == 0x3E#8 ||
  b == 0x64#8 || b == 0x65#8

/-- Store a prefix byte, as long as one of the four slots is free. -/
def recordPrefix (inst : DecodedInstruction) (b : Byte) :
    DecodedInstruction :=
  if free : inst.prefixCount < 4 then
    { inst with
      prefixes := inst.prefixes.set inst.prefixCount b
      prefixCount := inst.prefixCount + 1 }
  else
    inst

/--
The loop `while (pos < 15)` over legacy prefixes.  The first argument is the
number of remaining positions `15 - pos`.
-/
def legacyPrefixLoop :
    ℕ → DecodedInstruction → ℕ → Decode (DecodedInstruction × ℕ)
  | 0, inst, pos => pure (inst, pos)
  | remaining + 1, inst, pos => do
      let b ← Query.read pos
      if isLegacyPrefix b then
        legacyPrefixLoop remaining (recordPrefix inst b) (pos + 1)
      else
        pure (inst, pos)

/-- The bit pattern `0100WRXB` of a REX prefix. -/
def isRex (b : Byte) : Bool :=
  b &&& 0xF0#8 == 0x40#8

def rexPrefix (inst : DecodedInstruction) (pos : ℕ) :
    Decode (DecodedInstruction × ℕ) :=
  if pos < 15 then do
    let b ← Query.read pos
    if isRex b then
      pure ({ inst with rex := b, hasRex := true }, pos + 1)
    else
      pure (inst, pos)
  else
    pure (inst, pos)

/-- One iteration of the loop which derives the prefix flags. -/
def flagPrefix (inst : DecodedInstruction) (b : Byte) :
    DecodedInstruction :=
  { inst with
    has66 := inst.has66 || b == 0x66#8
    hasF2 := inst.hasF2 || b == 0xF2#8
    hasF3 := inst.hasF3 || b == 0xF3#8 }

/-- The loop over the recorded prefixes. -/
def prefixFlags (inst : DecodedInstruction) : DecodedInstruction :=
  (inst.prefixes.toList.take inst.prefixCount).foldl flagPrefix inst

/-! ## VEX prefix and opcode bytes -/

/-- The values `0`, `1`, `2` and `3` of the local variable `opcode_map`. -/
inductive OpcodeMap where
  | oneByte
  | map0F
  | map0F38
  | map0F3A
  deriving DecidableEq, Repr

/-- The local variables carried from one opcode stage to the next. -/
structure Head where
  inst : DecodedInstruction
  pos : ℕ
  firstByte : Byte
  opcodeMap : OpcodeMap := .oneByte
  deriving DecidableEq, Repr

/-- The opcode map selected by the field `vex_m`. -/
def vexOpcodeMap (vexM : Byte) : OpcodeMap :=
  if vexM = 1#8 then .map0F
  else if vexM = 2#8 then .map0F38
  else if vexM = 3#8 then .map0F3A
  else .oneByte

/-- Fold the extension bits and the implied prefix of a VEX payload into `inst`. -/
def applyVex (inst : DecodedInstruction) (vexW vexR vexX vexB vexPp : Byte) :
    DecodedInstruction :=
  { inst with
    isVex := true
    rex :=
      (vexW <<< 3) ||| ((~~~vexR &&& 1#8) <<< 2) |||
        ((~~~vexX &&& 1#8) <<< 1) ||| ((~~~vexB &&& 1#8) <<< 0)
    hasRex := true
    has66 := inst.has66 || vexPp == 1#8
    hasF2 := inst.hasF2 || vexPp == 2#8
    hasF3 := inst.hasF3 || vexPp == 3#8
    isSimd := true }

def vexPrefix (head : Head) : Decode Head :=
  if head.firstByte = 0xC4#8 then do
    let b1 ← Query.read (head.pos + 1)
    let b2 ← Query.read (head.pos + 2)
    let opcodeByte ← Query.read (head.pos + 3)
    pure
      { inst := applyVex head.inst ((b2 >>> 7) &&& 1#8)
          ((b1 >>> 7) &&& 1#8) ((b1 >>> 6) &&& 1#8) ((b1 >>> 5) &&& 1#8)
          (b2 &&& 0x03#8)
        pos := head.pos + 4
        firstByte := opcodeByte
        opcodeMap := vexOpcodeMap (b1 &&& 0x1F#8) }
  else if head.firstByte = 0xC5#8 then do
    let b1 ← Query.read (head.pos + 1)
    let opcodeByte ← Query.read (head.pos + 2)
    -- `vex_w`, `vex_x`, `vex_b` and `vex_m` keep their initial values here.
    pure
      { inst := applyVex head.inst 0#8 ((b1 >>> 7) &&& 1#8) 0#8 0#8 (b1 &&& 0x03#8)
        pos := head.pos + 3
        firstByte := opcodeByte
        opcodeMap := vexOpcodeMap 1#8 }
  else
    pure head

/--
Parse the opcode bytes.  The array `opcode` is still zero when this stage
starts.  In the last branch the position is left on the opcode byte.
-/
def opcodeBytes (head : Head) : Decode Head :=
  if ¬ head.inst.isVex ∧ head.firstByte = 0x0F#8 then do
    let op2 ← Query.read (head.pos + 1)
    if op2 = 0x38#8 ∨ op2 = 0x3A#8 then do
      let op3 ← Query.read (head.pos + 2)
      pure
        { head with
          inst := { head.inst with
            opcode := opcodeArray 0x0F#8 op2 op3
            opcodeLen := 3 }
          pos := head.pos + 3
          opcodeMap := if op2 = 0x38#8 then .map0F38 else .map0F3A }
    else
      pure
        { head with
          inst := { head.inst with
            opcode := opcodeArray 0x0F#8 op2 0#8
            opcodeLen := 2 }
          pos := head.pos + 2
          opcodeMap := .map0F }
  else if head.inst.isVex then
    pure
      { head with
        inst :=
          match head.opcodeMap with
          | .map0F =>
              { head.inst with
                opcode := opcodeArray 0x0F#8 head.firstByte 0#8
                opcodeLen := 2 }
          | .map0F38 =>
              { head.inst with
                opcode := opcodeArray 0x0F#8 0x38#8 head.firstByte
                opcodeLen := 3 }
          | .map0F3A =>
              { head.inst with
                opcode := opcodeArray 0x0F#8 0x3A#8 head.firstByte
                opcodeLen := 3 }
          | .oneByte =>
              { head.inst with
                opcode := opcodeArray head.firstByte 0#8 0#8
                opcodeLen := 1 } }
  else
    pure
      { head with
        inst := { head.inst with
          opcode := opcodeArray head.firstByte 0#8 0#8
          opcodeLen := 1 } }

/-! ## Opcode tables -/

/-- Which opcodes of the `0F` map take a ModRM byte. -/
def twoByteModrm (op2 : Byte) : Bool :=
  op2 < 0x06#8 || (op2 ≥ 0x10#8 && op2 ≤ 0x73#8) ||
  (op2 ≥ 0x7C#8 && op2 ≤ 0x7F#8) ||
  (op2 ≥ 0x90#8 && op2 ≤ 0x9F#8) ||
  (op2 ≥ 0xA3#8 && op2 ≤ 0xAF#8) ||
  (op2 ≥ 0xB0#8 && op2 ≤ 0xBF#8) ||
  (op2 ≥ 0xC0#8 && op2 ≤ 0xCF#8) ||
  (op2 ≥ 0xD0#8 && op2 ≤ 0xDF#8) ||
  (op2 ≥ 0xE0#8 && op2 ≤ 0xEF#8) ||
  op2 ≥ 0xF0#8

/-- Which opcodes of the `0F` map are classified as SIMD. -/
def twoByteSimd (op2 : Byte) : Bool :=
  (op2 ≥ 0x10#8 && op2 ≤ 0x7F#8) ||
  (op2 ≥ 0x90#8 && op2 != 0xA0#8 && op2 != 0xA1#8 && op2 != 0xA2#8 &&
    op2 != 0xA8#8 && op2 != 0xA9#8 && op2 != 0xB0#8 && op2 != 0xB1#8) ||
  (op2 ≥ 0xC4#8 && op2 ≤ 0xCF#8) ||
  (op2 ≥ 0xD0#8 && op2 ≤ 0xDF#8) ||
  (op2 ≥ 0xE0#8 && op2 ≤ 0xEF#8)

/-- The table `one_byte_modrm`, sixteen opcodes to a row. -/
def oneByteModrmTable : List (List ℕ) := [
  [1,1,1,1, 0,0,0,0, 1,1,1,1, 0,0,0,0],
  [1,1,1,1, 0,0,0,0, 1,1,1,1, 0,0,0,0],
  [1,1,1,1, 0,0,0,0, 1,1,1,1, 0,0,0,0],
  [1,1,1,1, 0,0,0,0, 1,1,1,1, 0,0,0,0],
  [0,0,0,0, 0,0,0,0, 0,0,0,0, 0,0,0,0],
  [0,0,0,0, 0,0,0,0, 0,0,0,0, 0,0,0,0],
  [0,0,1,1, 0,0,0,0, 0,1,0,1, 0,0,0,0],
  [0,0,0,0, 0,0,0,0, 0,0,0,0, 0,0,0,0],
  [1,1,1,1, 1,1,1,1, 1,1,1,1, 1,1,1,1],
  [0,0,0,0, 0,0,0,0, 0,0,0,0, 0,0,0,0],
  [0,0,0,0, 0,0,0,0, 0,0,0,0, 0,0,0,0],
  [0,0,0,0, 0,0,0,0, 0,0,0,0, 0,0,0,0],
  [1,1,0,0, 1,1,1,1, 0,0,0,0, 0,0,0,0],
  [1,1,1,1, 0,0,0,0, 1,1,1,1, 1,1,1,1],
  [0,0,0,0, 0,0,0,0, 0,0,0,0, 0,0,0,0],
  [0,0,0,0, 0,0,1,1, 0,0,0,0, 0,0,1,1]]

/-- Which one-byte opcodes take a ModRM byte. -/
def oneByteModrm (firstByte : Byte) : Bool :=
  (oneByteModrmTable.flatten.getD firstByte.toNat 0) == 1

/-- The local variable `needs_modrm`. -/
def needsModrm (head : Head) : Bool :=
  match head.opcodeMap with
  | .map0F => twoByteModrm head.inst.op2
  | .map0F38 | .map0F3A => true
  | .oneByte => oneByteModrm head.firstByte

/-- The local variable `is_simd`. -/
def isSimdOpcode (head : Head) : Bool :=
  match head.opcodeMap with
  | .map0F => twoByteSimd head.inst.op2
  | .map0F38 | .map0F3A => true
  | .oneByte => false

/-! ## ModRM, SIB and displacement -/

/-- Read `dispSize` displacement bytes, unless they cross the length limit. -/
def readDisplacement (inst : DecodedInstruction) (pos : ℕ) (dispSize : Int) :
    Decode (DecodedInstruction × ℕ) :=
  if dispSize > 0 ∧ pos + dispSize ≤ 15 then
    if dispSize = 4 then do
      let d0 ← Query.read pos
      let d1 ← Query.read (pos + 1)
      let d2 ← Query.read (pos + 2)
      let d3 ← Query.read (pos + 3)
      pure
        ({ inst with
            hasDisplacement := true
            displacement := d3 ++ d2 ++ d1 ++ d0 },
          pos + dispSize.toNat)
    else do
      let d ← Query.read pos
      pure
        ({ inst with
            hasDisplacement := true
            displacement := d.signExtend 32 },
          pos + dispSize.toNat)
  else
    pure (inst, pos)

/-- Parse ModRM, SIB and displacement. -/
def operandBytes (needsModrm : Bool) (inst : DecodedInstruction) (pos : ℕ) :
    Decode (DecodedInstruction × ℕ) :=
  if needsModrm ∧ pos < 15 then do
    let modrmByte ← Query.read pos
    let fields := decodeModrm modrmByte
    let inst := { inst with
      modrm := modrmByte
      reg := fields.reg ||| (((inst.rex >>> 2) &&& 1#8) <<< 3)
      rm := fields.rm ||| (((inst.rex >>> 0) &&& 1#8) <<< 3)
      hasModrm := true }
    if fields.mod ≠ 3#8 then
      if fields.rm = 4#8 then do
        let sibByte ← Query.read (pos + 1)
        readDisplacement { inst with sib := sibByte, hasSib := true } (pos + 2)
          (displacementSizeWithSib fields.mod (decodeSib sibByte).base)
      else
        readDisplacement inst (pos + 1)
          (displacementSize fields.mod fields.rm false)
    else
      pure (inst, pos + 1)
  else
    pure (inst, pos)

/-! ## The decoder -/

/-- The operand size and the length, once every byte is consumed. -/
def finishDecode (inst : DecodedInstruction) (pos : ℕ) : DecodedInstruction :=
  { inst with
    operandSize :=
      if inst.rex &&& 0x08#8 ≠ 0#8 ∧ ¬ inst.has66 then 64
      else if inst.has66 then 16
      else 32
    len := BitVec.ofNat 8 pos }

/-- The stages before the first opcode byte: legacy prefixes, REX and flags. -/
def decodeHeader : Decode (DecodedInstruction × ℕ) := do
  let (inst, pos) ← legacyPrefixLoop 15 {} 0
  let (inst, pos) ← rexPrefix inst pos
  pure (prefixFlags inst, pos)

/-- The stages before ModRM: header, VEX and opcode. -/
def decodeHead : Decode Head := do
  let (inst, pos) ← decodeHeader
  let firstByte ← Query.read pos
  let head ← vexPrefix { inst, pos, firstByte }
  opcodeBytes head

/-- `decode_instruction` as a program over the instruction stream. -/
def decodeProgram : Decode DecodedInstruction := do
  let head ← decodeHead
  let (inst, pos) ←
    operandBytes (needsModrm head)
      { head.inst with isSimd := isSimdOpcode head } head.pos
  pure (finishDecode inst pos)

def decodeInstruction (ip : Code) : DecodedInstruction :=
  decodeProgram.run ip.get

/-- The indices of `ip` which `decode_instruction` dereferences, in order. -/
def bytesRead (ip : Code) : List ℕ :=
  decodeProgram.asked ip.get

end BadCpu
