import Mathlib.Data.Stream.Init

/-!
# The public data of libbadcpu

The decoded instruction, the feature words and the emulation results of
`badcpu.h`.  Fixed-width fields are bit vectors; the small counters
`prefix_count`, `opcode_len` and `operand_size`, which never leave the range of
their C type, are natural numbers.  `X86Register` is not used by any function
and is left out.
-/

namespace BadCpu

/-- A byte of the instruction stream or of memory. -/
abbrev Byte := BitVec 8

/-- A general-purpose register or address. -/
abbrev Word := BitVec 64

/-- The bytes reachable from an instruction pointer. -/
abbrev Code := Stream' Byte

/-- A list of bytes, followed by zero bytes for ever. -/
def codeOfBytes (bytes : List Byte) : Code :=
  bytes ++ₛ Stream'.const 0#8

/-- The processor vendors told apart by feature detection. -/
inductive CpuVendor where
  | intel
  | amd
  | hygon
  | unknown
  deriving DecidableEq, Repr

/-- The feature words recorded at start-up. -/
structure CpuFeatures where
  vendor : CpuVendor := .unknown
  maxStandardLeaf : BitVec 32 := 0#32
  featureEcx : BitVec 32 := 0#32
  featureEdx : BitVec 32 := 0#32
  maxExtendedLeaf : BitVec 32 := 0#32
  extFeatureEcx : BitVec 32 := 0#32
  extFeatureEdx : BitVec 32 := 0#32
  deriving DecidableEq, Repr

namespace CpuFeatures

def hasSse3 (features : CpuFeatures) : Bool :=
  features.featureEcx &&& (1#32 <<< 0) != 0#32

def hasSsse3 (features : CpuFeatures) : Bool :=
  features.featureEcx &&& (1#32 <<< 9) != 0#32

def hasSse41 (features : CpuFeatures) : Bool :=
  features.featureEcx &&& (1#32 <<< 19) != 0#32

def hasSse42 (features : CpuFeatures) : Bool :=
  features.featureEcx &&& (1#32 <<< 20) != 0#32

/-- The POPCNT bit of the standard feature word. -/
def hasPopcnt (features : CpuFeatures) : Bool :=
  features.featureEcx &&& (1#32 <<< 23) != 0#32

def hasAvx (features : CpuFeatures) : Bool :=
  features.featureEcx &&& (1#32 <<< 28) != 0#32

def hasFma (features : CpuFeatures) : Bool :=
  features.featureEcx &&& (1#32 <<< 12) != 0#32

def hasAvx2 (features : CpuFeatures) : Bool :=
  features.extFeatureEcx &&& (1#32 <<< 5) != 0#32

def hasBmi1 (features : CpuFeatures) : Bool :=
  features.extFeatureEcx &&& (1#32 <<< 3) != 0#32

def hasBmi2 (features : CpuFeatures) : Bool :=
  features.extFeatureEcx &&& (1#32 <<< 8) != 0#32

end CpuFeatures

/-- The contents of an array of three opcode bytes. -/
abbrev opcodeArray (b0 b1 b2 : Byte) : Vector Byte 3 :=
  #v[b0, b1, b2]

/-- What the decoder reports about one instruction. -/
structure DecodedInstruction where
  len : Byte := 0#8
  prefixCount : Nat := 0
  prefixes : Vector Byte 4 := .replicate 4 0#8
  opcode : Vector Byte 3 := opcodeArray 0#8 0#8 0#8
  opcodeLen : Nat := 0
  modrm : Byte := 0#8
  sib : Byte := 0#8
  displacement : BitVec 32 := 0#32
  reg : Byte := 0#8
  rm : Byte := 0#8
  operandSize : Nat := 32
  hasModrm : Bool := false
  hasSib : Bool := false
  hasDisplacement : Bool := false
  isSimd : Bool := false
  isVex : Bool := false
  has66 : Bool := false
  hasF2 : Bool := false
  hasF3 : Bool := false
  rex : Byte := 0#8
  hasRex : Bool := false
  vexVvvv : Byte := 0#8
  vexW : Bool := false
  deriving DecidableEq, Repr

namespace DecodedInstruction

-- The source calls `opcode[1]` and `opcode[2]` `op2` and `op3`.

@[simp]
def op1 (inst : DecodedInstruction) : Byte :=
  inst.opcode[0]

@[simp]
def op2 (inst : DecodedInstruction) : Byte :=
  inst.opcode[1]

@[simp]
def op3 (inst : DecodedInstruction) : Byte :=
  inst.opcode[2]

end DecodedInstruction

/-- The outcomes of `emulate_instruction`. -/
inductive EmulationResult where
  | success
  | unrecognizedInstruction
  | unsupportedCpu
  | handlerError
  deriving DecidableEq, Repr

end BadCpu
