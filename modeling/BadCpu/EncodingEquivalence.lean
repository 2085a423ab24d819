import BadCpu.VexDecoding

/-!
# Equivalence of the two instruction heads

The same opcode can stand behind a REX prefix and escape bytes, or behind a
three-byte VEX prefix.  The two parsers hand the same state to the operand
stage, at different positions of the stream.  As long as the operands fit, a
position makes no difference to them, and both encodings are decoded alike.
-/

namespace BadCpu

/-! ## Operands which fit -/

/-- The number of operand bytes which an opcode calls for in front of `tail`. -/
def calledLength (map : OpcodeMap) (op : Byte) (tail : Code) : ℕ :=
  if map.takesModrm op then
    1 + sibLength (tail.get 0) + displacementLength (tail.get 0) (tail.get 1)
  else 0

/-- The stream behind the opcode. -/
def operandStream (ip : Code) : Code :=
  ip.drop (modrmIndex ip)

/-- The bytes which the opcode calls for end within fifteen bytes. -/
def OperandsFit (ip : Code) : Prop :=
  modrmIndex ip +
      calledLength (opcodeMap ip) (opcodeByte ip) (operandStream ip) ≤ 15

theorem displacementValue_drop (ip : Code) (pos index size : ℕ) :
    displacementValue (ip.drop pos) index size =
      displacementValue ip (pos + index) size := by
  simp [displacementValue, Stream'.get_drop, Nat.add_assoc]

theorem displacementIndex_drop (ip : Code) (pos : ℕ) :
    pos + displacementIndex (ip.drop pos) 0 = displacementIndex ip pos := by
  simp only [displacementIndex, Stream'.get_drop, Nat.add_zero]
  omega

theorem displacementSizeAt_drop (ip : Code) (pos : ℕ) :
    displacementSizeAt (ip.drop pos) 0 = displacementSizeAt ip pos := by
  simp only [displacementSizeAt, Stream'.get_drop, Nat.add_zero, Nat.zero_add]

/-- Operands which fit do not depend on their position. -/
theorem withOperands_drop
    (inst : DecodedInstruction) {ip : Code} {pos : ℕ}
    (fits : displacementIndex ip pos + displacementSizeAt ip pos ≤ 15) :
    withOperands inst ip pos = withOperands inst (ip.drop pos) 0 := by
  have index := displacementIndex_drop ip pos
  have present :
      displacementFits (displacementIndex (ip.drop pos) 0)
          (displacementSizeAt ip pos) ↔
        displacementFits (displacementIndex ip pos)
          (displacementSizeAt ip pos) := by
    rw [displacementFits, displacementFits]
    omega
  simp only [withOperands, displacementSizeAt_drop, present,
    displacementValue_drop, index, Stream'.get_drop, Nat.add_zero,
    Nat.zero_add]

/-- The end of operands which fit. -/
theorem operandEnd_fits
    {ip : Code} {pos : ℕ}
    (fits : displacementIndex ip pos + displacementSizeAt ip pos ≤ 15) :
    operandEnd ip pos =
      displacementIndex ip pos + displacementSizeAt ip pos := by
  rw [operandEnd]
  split_ifs with present
  · rfl
  · rw [displacementFits] at present
    omega

/-- An instruction with its operands at the start of a stream. -/
def appendOperands
    (inst : DecodedInstruction) (map : OpcodeMap) (op : Byte) (tail : Code) :
    DecodedInstruction :=
  if map.takesModrm op then withOperands inst tail 0 else inst

/--
An instruction whose operands fit is determined by what stands before and behind
its opcode.
-/
theorem decode_of_operandsFit {ip : Code} (fits : OperandsFit ip) :
    decodeInstruction ip =
      finishDecode
        (appendOperands (opcodeInstruction ip) (opcodeMap ip) (opcodeByte ip)
          (operandStream ip))
        (modrmIndex ip +
          calledLength (opcodeMap ip) (opcodeByte ip) (operandStream ip)) := by
  rw [OperandsFit] at fits
  rw [decodeInstruction_eq, operandInstruction, decodedEnd, appendOperands]
  cases takes : (opcodeMap ip).takesModrm (opcodeByte ip) with
  | false =>
      simp [modrmPresent, calledLength, takes]
  | true =>
      have called :
          modrmIndex ip +
              calledLength (opcodeMap ip) (opcodeByte ip) (operandStream ip) =
            displacementIndex ip (modrmIndex ip) +
              displacementSizeAt ip (modrmIndex ip) := by
        simp only [calledLength, takes, if_true, operandStream,
          Stream'.get_drop, Nat.add_zero, displacementIndex,
          displacementSizeAt]
        omega
      rw [called] at fits ⊢
      have room : modrmIndex ip < 15 := by
        rw [displacementIndex] at fits
        omega
      have present : modrmPresent ip = true := by
        simpa [modrmPresent, takes] using room
      rw [if_pos present, if_pos present, if_pos rfl,
        withOperands_drop _ fits, operandEnd_fits fits]
      rfl

theorem decode_len_of_operandsFit {ip : Code} (fits : OperandsFit ip) :
    (decodeInstruction ip).len.toNat =
      modrmIndex ip +
        calledLength (opcodeMap ip) (opcodeByte ip) (operandStream ip) := by
  rw [OperandsFit] at fits
  rw [decode_of_operandsFit fits]
  exact Nat.mod_eq_of_lt (by omega)

/-! ## Instructions with the same meaning -/

/--
Two instructions which agree in everything but their length, the upper half of
`rex` and the way their opcode is encoded.
-/
structure SameInstruction (inst inst' : DecodedInstruction) : Prop where
  opcode : inst.opcode = inst'.opcode
  opcodeLen : inst.opcodeLen = inst'.opcodeLen
  rex : inst.rex &&& 0x0F#8 = inst'.rex &&& 0x0F#8
  modrm : inst.modrm = inst'.modrm
  sib : inst.sib = inst'.sib
  displacement : inst.displacement = inst'.displacement
  reg : inst.reg = inst'.reg
  rm : inst.rm = inst'.rm
  hasModrm : inst.hasModrm = inst'.hasModrm
  hasSib : inst.hasSib = inst'.hasSib
  hasDisplacement : inst.hasDisplacement = inst'.hasDisplacement
  has66 : inst.has66 = inst'.has66
  hasF2 : inst.hasF2 = inst'.hasF2
  hasF3 : inst.hasF3 = inst'.hasF3
  isSimd : inst.isSimd = inst'.isSimd
  operandSize : inst.operandSize = inst'.operandSize

/-- The extension bits are in the lower half of `rex`. -/
theorem rexBits_low (rex : Byte) :
    (rex >>> 2) &&& 1#8 = ((rex &&& 0x0F#8) >>> 2) &&& 1#8 ∧
      (rex >>> 0) &&& 1#8 = ((rex &&& 0x0F#8) >>> 0) &&& 1#8 ∧
      rex &&& 0x08#8 = (rex &&& 0x0F#8) &&& 0x08#8 := by
  decide +revert +kernel

namespace SameInstruction

variable {inst inst' : DecodedInstruction}

/-- The operand stage keeps the agreement. -/
theorem withOperands (same : SameInstruction inst inst') (tail : Code)
    (pos : ℕ) :
    SameInstruction (BadCpu.withOperands inst tail pos)
      (BadCpu.withOperands inst' tail pos) := by
  rcases rexBits_low inst.rex with ⟨regBit, rmBit, -⟩
  rcases rexBits_low inst'.rex with ⟨regBit', rmBit', -⟩
  refine
    { same with
      modrm := rfl
      sib := ?sib
      displacement := ?displacement
      reg := ?reg
      rm := ?rm
      hasModrm := rfl
      hasSib := ?hasSib
      hasDisplacement := ?hasDisplacement }
  case sib => simp only [BadCpu.withOperands, same.sib]
  case displacement => simp only [BadCpu.withOperands, same.displacement]
  case reg =>
    simp only [BadCpu.withOperands, extendField]
    rw [regBit, regBit', same.rex]
  case rm =>
    simp only [BadCpu.withOperands, extendField]
    rw [rmBit, rmBit', same.rex]
  case hasSib => simp only [BadCpu.withOperands, same.hasSib]
  case hasDisplacement =>
    simp only [BadCpu.withOperands, same.hasDisplacement]

/-- So does the computation of the operand size. -/
theorem finishDecode (same : SameInstruction inst inst') (pos pos' : ℕ) :
    SameInstruction (BadCpu.finishDecode inst pos)
      (BadCpu.finishDecode inst' pos') := by
  rcases rexBits_low inst.rex with ⟨-, -, wide⟩
  rcases rexBits_low inst'.rex with ⟨-, -, wide'⟩
  refine { same with operandSize := ?_ }
  simp only [BadCpu.finishDecode]
  rw [wide, wide', same.rex, same.has66]

theorem appendOperands (same : SameInstruction inst inst') (map : OpcodeMap)
    (op : Byte) (tail : Code) :
    SameInstruction (BadCpu.appendOperands inst map op tail)
      (BadCpu.appendOperands inst' map op tail) := by
  rw [BadCpu.appendOperands, BadCpu.appendOperands]
  split_ifs
  · exact same.withOperands tail 0
  · exact same

end SameInstruction

/-! ## The two encodings of a head -/

namespace EscapedMap

/-- The bytes in front of an opcode of the map. -/
def escape : EscapedMap → List Byte
  | .map0F => [0x0F#8]
  | .map0F38 => [0x0F#8, 0x38#8]
  | .map0F3A => [0x0F#8, 0x3A#8]

def form : EscapedMap → OpcodeForm
  | .map0F => .escape0F
  | .map0F38 => .escape0F38
  | .map0F3A => .escape0F3A

end EscapedMap

/-- The head of an instruction, with the extension bits as they are meant. -/
structure InstructionHead where
  prefixes : List Byte
  prefixes_legacy : ∀ b ∈ prefixes, isLegacyPrefix b = true
  w : BitVec 1
  r : BitVec 1
  x : BitVec 1
  b : BitVec 1
  map : EscapedMap
  op : Byte
  notEscape : map = .map0F → op ≠ 0x38#8 ∧ op ≠ 0x3A#8

namespace InstructionHead

def rex (head : InstructionHead) : Byte :=
  4#4 ++ head.w ++ head.r ++ head.x ++ head.b

/-- The encoding with REX and escape bytes. -/
def legacyEncode (head : InstructionHead) : List Byte :=
  (head.prefixes ++ [head.rex]) ++ (head.map.escape ++ [head.op])

/-- The encoding with VEX, for any register number and any vector length. -/
def vex (head : InstructionHead) (vvvv : BitVec 4) (l : BitVec 1) :
    VexInstruction where
  prefixes := head.prefixes
  prefixes_legacy := head.prefixes_legacy
  payload := ⟨head.w, ~~~head.r, ~~~head.x, ~~~head.b, vvvv, 0#2⟩
  l := l
  map := head.map
  op := head.op

end InstructionHead

/-- Both encodings of a head are decoded alike in front of the same bytes. -/
structure EncodingsAgree
    (head : InstructionHead) (vvvv : BitVec 4) (l : BitVec 1)
    (tail : Code) : Prop where
  same :
    SameInstruction (decodeInstruction (head.legacyEncode ++ₛ tail))
      (decodeInstruction ((head.vex vvvv l).encode ++ₛ tail))
  len :
    ((decodeInstruction (head.legacyEncode ++ₛ tail)).len.toNat : ℤ) -
        (decodeInstruction ((head.vex vvvv l).encode ++ₛ tail)).len.toNat =
      (head.legacyEncode.length : ℤ) - (head.vex vvvv l).encode.length

/-- The number of bytes which an encoding and its operands take. -/
def InstructionHead.fullLength
    (head : InstructionHead) (encoding : List Byte) (tail : Code) : ℕ :=
  encoding.length + calledLength head.map.toOpcodeMap head.op tail

/-! ## The layout of the legacy encoding -/

namespace InstructionHead

variable (head : InstructionHead) (tail : Code)

/-- The stream behind the REX byte. -/
def body : Code :=
  (head.map.escape ++ [head.op]) ++ₛ tail

theorem legacyEncode_stream :
    head.legacyEncode ++ₛ tail =
      (head.prefixes ++ (some head.rex).toList) ++ₛ head.body tail :=
  Stream'.append_append_stream _ _ _

theorem rex_isRex : isRex head.rex = true := by
  rw [rex]
  generalize head.w = w, head.r = r, head.x = x, head.b = b
  decide +revert

theorem isHeader (fits : head.legacyEncode.length ≤ 15) :
    IsHeader head.prefixes (some head.rex) (head.body tail) := by
  have short : head.prefixes.length < 15 := by
    simp [legacyEncode] at fits
    omega
  exact IsHeader.ofRex head.prefixes_legacy head.rex_isRex short _

theorem header_legacy (fits : head.legacyEncode.length ≤ 15) :
    legacyPrefixes (head.legacyEncode ++ₛ tail) = head.prefixes ∧
      rexByte? (head.legacyEncode ++ₛ tail) = some head.rex := by
  rw [legacyEncode_stream]
  exact (head.isHeader tail fits).decoded

theorem headerByte_legacy (fits : head.legacyEncode.length ≤ 15)
    (offset : ℕ) :
    headerByte (head.legacyEncode ++ₛ tail) offset =
      (head.body tail).get offset := by
  rw [legacyEncode_stream]
  exact (head.isHeader tail fits).headerByte_eq offset

theorem headerEnd_legacy (fits : head.legacyEncode.length ≤ 15) :
    headerEnd (head.legacyEncode ++ₛ tail) = head.prefixes.length + 1 := by
  rw [legacyEncode_stream, (head.isHeader tail fits).headerEnd_eq]
  simp

theorem opcodeForm_legacy (fits : head.legacyEncode.length ≤ 15) :
    opcodeForm (head.legacyEncode ++ₛ tail) = head.map.form := by
  have notEscape := head.notEscape
  simp only [opcodeForm, head.headerByte_legacy tail fits, body]
  cases map : head.map with
  | map0F =>
      rcases notEscape map with ⟨not38, not3A⟩
      simp [EscapedMap.escape, EscapedMap.form, Stream'.cons_append_stream,
        not38, not3A]
  | map0F38 | map0F3A =>
      simp [EscapedMap.escape, EscapedMap.form, Stream'.cons_append_stream]

theorem opcode_legacy (fits : head.legacyEncode.length ≤ 15) :
    opcodeMap (head.legacyEncode ++ₛ tail) = head.map.toOpcodeMap ∧
      opcodeByte (head.legacyEncode ++ₛ tail) = head.op ∧
      modrmIndex (head.legacyEncode ++ₛ tail) = head.legacyEncode.length := by
  have length :
      head.legacyEncode.length =
        head.prefixes.length + 1 + (head.map.escape.length + 1) := by
    simp only [legacyEncode, List.length_append, List.length_singleton]
  simp only [opcodeMap, opcodeByte, modrmIndex,
    head.opcodeForm_legacy tail fits, head.headerByte_legacy tail fits,
    head.headerEnd_legacy tail fits, length, body]
  cases head.map <;>
    simp [EscapedMap.escape, EscapedMap.form, EscapedMap.toOpcodeMap,
      Stream'.cons_append_stream]

theorem prefixedInstruction_legacy (fits : head.legacyEncode.length ≤ 15) :
    prefixedInstruction (head.legacyEncode ++ₛ tail) =
      BadCpu.header (head.legacyEncode ++ₛ tail) := by
  rw [prefixedInstruction, head.opcodeForm_legacy tail fits]
  cases head.map <;> rfl

end InstructionHead

/-! ## Both encodings are decoded alike -/

/-- A VEX prefix which implies nothing only sets the extension bits. -/
theorem rexNibble_vex (head : InstructionHead) (vvvv : BitVec 4)
    (l : BitVec 1) :
    head.rex &&& 0x0F#8 =
      (head.vex vvvv l).payload.rexNibble.setWidth 8 &&& 0x0F#8 := by
  change (4#4 ++ head.w ++ head.r ++ head.x ++ head.b) &&& 0x0F#8 =
    (head.w ++ ~~~~~~head.r ++ ~~~~~~head.x ++ ~~~~~~head.b).setWidth 8 &&&
      0x0F#8
  generalize head.w = w, head.r = r, head.x = x, head.b = b
  decide +revert

/-- The flags of a header are those of its first four prefixes. -/
theorem header_eq_flags
    {ip : Code} {prefixes : List Byte} (run : legacyPrefixes ip = prefixes) :
    (header ip).has66 = (prefixes.take 4).contains 0x66#8 ∧
      (header ip).hasF2 = (prefixes.take 4).contains 0xF2#8 ∧
      (header ip).hasF3 = (prefixes.take 4).contains 0xF3#8 := by
  rw [header, recordedPrefixes, run]
  exact ⟨rfl, rfl, rfl⟩

/-- The two heads hand the same instruction to the operand stage. -/
theorem sameInstruction_head
    (head : InstructionHead) (vvvv : BitVec 4) (l : BitVec 1) (tail : Code)
    (fits : head.legacyEncode.length ≤ 15)
    (fits' : (head.vex vvvv l).encode.length ≤ 15) :
    SameInstruction (opcodeInstruction (head.legacyEncode ++ₛ tail))
      (opcodeInstruction ((head.vex vvvv l).stream tail)) := by
  rcases head.header_legacy tail fits with ⟨run, rexByte⟩
  rcases head.opcode_legacy tail fits with ⟨map, op, -⟩
  have run' : legacyPrefixes ((head.vex vvvv l).stream tail) = head.prefixes :=
    ((head.vex vvvv l).header_stream tail fits').1
  have map' :
      opcodeMap ((head.vex vvvv l).stream tail) = head.map.toOpcodeMap :=
    ((head.vex vvvv l).opcode_stream tail fits').1
  have op' : opcodeByte ((head.vex vvvv l).stream tail) = head.op :=
    ((head.vex vvvv l).opcode_stream tail fits').2.1
  have implied : (head.vex vvvv l).payload.pp.setWidth 8 = 0#8 := rfl
  rcases header_eq_flags run with ⟨has66, hasF2, hasF3⟩
  rcases header_eq_flags run' with ⟨has66', hasF2', hasF3'⟩
  rw [opcodeInstruction, opcodeInstruction, map, map', op, op',
    head.prefixedInstruction_legacy tail fits,
    (head.vex vvvv l).prefixedInstruction_stream tail fits', implied]
  constructor
  case rex =>
    simp only [withOpcode]
    rw [applyVex_rex, header, rexByte]
    exact rexNibble_vex head vvvv l
  case has66 => simp [withOpcode, applyVex, has66, has66']
  case hasF2 => simp [withOpcode, applyVex, hasF2, hasF2']
  case hasF3 => simp [withOpcode, applyVex, hasF3, hasF3']
  all_goals rfl

/-- The position of a stream's operands is the end of its encoding. -/
theorem operandStream_append
    {encoding : List Byte} {tail : Code}
    (index : modrmIndex (encoding ++ₛ tail) = encoding.length) :
    operandStream (encoding ++ₛ tail) = tail := by
  rw [operandStream, index]
  exact Stream'.drop_append_stream encoding tail

/--
As long as both encodings fit into fifteen bytes, VEX and legacy decoding agree
on the rest of the instruction.
-/
theorem encodingsAgree
    (head : InstructionHead) (vvvv : BitVec 4) (l : BitVec 1) (tail : Code)
    (fits : head.fullLength head.legacyEncode tail ≤ 15)
    (fits' : head.fullLength (head.vex vvvv l).encode tail ≤ 15) :
    EncodingsAgree head vvvv l tail := by
  rw [InstructionHead.fullLength] at fits fits'
  have short : head.legacyEncode.length ≤ 15 := by omega
  have short' : (head.vex vvvv l).encode.length ≤ 15 := by omega
  rcases head.opcode_legacy tail short with ⟨map, op, index⟩
  have map' : opcodeMap ((head.vex vvvv l).encode ++ₛ tail) =
      head.map.toOpcodeMap :=
    ((head.vex vvvv l).opcode_stream tail short').1
  have op' : opcodeByte ((head.vex vvvv l).encode ++ₛ tail) = head.op :=
    ((head.vex vvvv l).opcode_stream tail short').2.1
  have index' : modrmIndex ((head.vex vvvv l).encode ++ₛ tail) =
      (head.vex vvvv l).encode.length :=
    ((head.vex vvvv l).opcode_stream tail short').2.2
  have legacy : OperandsFit (head.legacyEncode ++ₛ tail) := by
    rwa [OperandsFit, map, op, index, operandStream_append index]
  have vex : OperandsFit ((head.vex vvvv l).encode ++ₛ tail) := by
    rwa [OperandsFit, map', op', index', operandStream_append index']
  have operands := operandStream_append index
  have operands' := operandStream_append index'
  constructor
  case same =>
    have start := sameInstruction_head head vvvv l tail short short'
    rw [decode_of_operandsFit legacy, decode_of_operandsFit vex, map, map',
      op, op', operands, operands']
    exact (start.appendOperands _ _ _).finishDecode _ _
  case len =>
    rw [decode_len_of_operandsFit legacy, decode_len_of_operandsFit vex, map,
      map', op, op', operands, operands', index, index']
    omega

/-- The head of `movbe r8, [r9 + 8]` behind an address-size prefix. -/
theorem encodingsAgree_movbe :
    EncodingsAgree
      { prefixes := [0x67#8]
        prefixes_legacy := by decide
        w := 1#1
        r := 1#1
        x := 0#1
        b := 1#1
        map := .map0F38
        op := 0xF0#8
        notEscape := by simp }
      15#4 0#1 (codeOfBytes [0x41#8, 0x08#8]) :=
  encodingsAgree _ _ _ _ (by decide) (by decide)

end BadCpu
