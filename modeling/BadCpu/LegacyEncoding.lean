import BadCpu.ByteMemory
import BadCpu.EffectiveAddress
import BadCpu.HeaderEncoding

/-!
# Encoding and decoding of legacy instructions

A legacy instruction of the escaped opcode maps is a list of prefixes, an
optional REX byte, an opcode, a ModRM byte and the SIB and displacement bytes
which ModRM calls for.  Decoding its encoding, in front of any further bytes,
recovers every part of it, as long as the encoding fits into fifteen bytes.
-/

namespace BadCpu

open ByteMemory

/-! ## Instructions and their encoding -/

/-- An opcode of one of the escaped maps which takes a ModRM byte. -/
inductive EscapedOpcode where
  | map0F (op2 : Byte) (notEscape : op2 ≠ 0x38#8 ∧ op2 ≠ 0x3A#8)
      (takesModrm : twoByteModrm op2 = true)
  | map0F38 (op3 : Byte)
  | map0F3A (op3 : Byte)

/-- The opcode bytes, escapes included. -/
def EscapedOpcode.bytes : EscapedOpcode → List Byte
  | .map0F op2 _ _ => [0x0F#8, op2]
  | .map0F38 op3 => [0x0F#8, 0x38#8, op3]
  | .map0F3A op3 => [0x0F#8, 0x3A#8, op3]

/--
A well-formed instruction: the SIB byte and the displacement bytes are exactly
those which ModRM and SIB call for.
-/
structure LegacyInstruction where
  prefixes : List Byte
  prefixes_legacy : ∀ b ∈ prefixes, isLegacyPrefix b = true
  rex : Option Byte
  rex_pattern : ∀ b ∈ rex, isRex b = true
  opcode : EscapedOpcode
  modrm : Byte
  sib : Option Byte
  sib_called : sib.isSome = needsSib modrm
  displacement : List Byte
  displacement_called :
    displacement.length = displacementLength modrm (sib.getD 0#8)

namespace LegacyInstruction

def headerBytes (code : LegacyInstruction) : List Byte :=
  code.prefixes ++ code.rex.toList

/-- The bytes behind the opcode. -/
def operands (code : LegacyInstruction) : List Byte :=
  code.modrm :: (code.sib.toList ++ code.displacement)

def encode (code : LegacyInstruction) : List Byte :=
  code.headerBytes ++ (code.opcode.bytes ++ code.operands)

/-- The displacement as a signed little-endian number. -/
def signedDisplacement (code : LegacyInstruction) : BitVec 32 :=
  (ofBytes code.displacement.length
    fun i => code.displacement.getD i 0#8).signExtend 32

end LegacyInstruction

/-- A decoded instruction has exactly the parts of an encoded one. -/
structure DecodedAs
    (code : LegacyInstruction) (inst : DecodedInstruction) : Prop where
  len : inst.len.toNat = code.encode.length
  opcode : inst.opcode.toList.take inst.opcodeLen = code.opcode.bytes
  opcodeLen : inst.opcodeLen = code.opcode.bytes.length
  modrm : inst.modrm = code.modrm
  sib : ∀ b ∈ code.sib, inst.sib = b
  hasModrm : inst.hasModrm = true
  hasSib : inst.hasSib = code.sib.isSome
  hasDisplacement : inst.hasDisplacement = !code.displacement.isEmpty
  displacement : inst.displacement = code.signedDisplacement
  reg :
    inst.reg =
      extendField (decodeModrm code.modrm).reg (code.rex.getD 0#8) 2
  rm :
    inst.rm =
      extendField (decodeModrm code.modrm).rm (code.rex.getD 0#8) 0

/-! ## The header -/

namespace LegacyInstruction

variable (code : LegacyInstruction) (tail : Code)

/-- The stream behind the header. -/
def body : Code :=
  code.opcode.bytes ++ₛ (code.operands ++ₛ tail)

/-- The stream of an instruction and the bytes behind it. -/
def stream : Code :=
  code.encode ++ₛ tail

theorem stream_eq :
    code.stream tail = code.headerBytes ++ₛ code.body tail := by
  simp only [stream, encode, body, Stream'.append_append_stream]

theorem opcode_head : ∃ rest, code.opcode.bytes = 0x0F#8 :: rest := by
  cases code.opcode <;> exact ⟨_, rfl⟩

theorem encode_length :
    code.encode.length =
      code.headerBytes.length + code.opcode.bytes.length +
        code.operands.length := by
  simp only [encode, List.length_append, Nat.add_assoc]

theorem prefixes_short (fits : code.encode.length ≤ 15) :
    code.prefixes.length + code.rex.toList.length + 3 ≤ 15 := by
  have header : code.headerBytes.length =
      code.prefixes.length + code.rex.toList.length := by
    simp [headerBytes]
  have opcode : 2 ≤ code.opcode.bytes.length := by
    cases code.opcode <;> simp [EscapedOpcode.bytes]
  have operands : 1 ≤ code.operands.length := by simp [operands]
  rw [encode_length] at fits
  omega

/-- The prefixes and the REX byte are a header of the stream. -/
theorem isHeader (fits : code.encode.length ≤ 15) :
    IsHeader code.prefixes code.rex (code.body tail) := by
  have short := code.prefixes_short fits
  rcases code.opcode_head with ⟨opcodeRest, opcode⟩
  have head : (code.body tail).get 0 = 0x0F#8 := by
    rw [body, opcode]
    rfl
  constructor
  · exact code.prefixes_legacy
  · exact code.rex_pattern
  · omega
  · intro _
    rw [head]
    decide
  · intro _
    rw [head]
    decide

theorem header_stream (fits : code.encode.length ≤ 15) :
    legacyPrefixes (code.stream tail) = code.prefixes ∧
      rexByte? (code.stream tail) = code.rex := by
  rw [stream_eq]
  exact (code.isHeader tail fits).decoded

theorem headerEnd_stream (fits : code.encode.length ≤ 15) :
    headerEnd (code.stream tail) = code.headerBytes.length := by
  rw [stream_eq]
  exact (code.isHeader tail fits).headerEnd_eq

theorem headerByte_stream (fits : code.encode.length ≤ 15) (offset : ℕ) :
    headerByte (code.stream tail) offset = (code.body tail).get offset := by
  rw [stream_eq]
  exact (code.isHeader tail fits).headerByte_eq offset

/-! ## The opcode -/

/-- The opcode map of an encoded opcode. -/
def map : OpcodeMap :=
  match code.opcode with
  | .map0F _ _ _ => .map0F
  | .map0F38 _ => .map0F38
  | .map0F3A _ => .map0F3A

/-- The last byte of an encoded opcode. -/
def op : Byte :=
  match code.opcode with
  | .map0F op2 _ _ => op2
  | .map0F38 op3 | .map0F3A op3 => op3

/-- The form of an encoded opcode. -/
def form : OpcodeForm :=
  match code.opcode with
  | .map0F _ _ _ => .escape0F
  | .map0F38 _ => .escape0F38
  | .map0F3A _ => .escape0F3A

theorem opcodeForm_stream (fits : code.encode.length ≤ 15) :
    opcodeForm (code.stream tail) = code.form := by
  have byte := code.headerByte_stream tail fits
  simp only [opcodeForm, byte, body, form]
  cases shape : code.opcode with
  | map0F op2 notEscape takesModrm =>
      simp [EscapedOpcode.bytes, Stream'.cons_append_stream, notEscape]
  | map0F38 op3 | map0F3A op3 =>
      simp [EscapedOpcode.bytes, Stream'.cons_append_stream]

theorem opcode_stream (fits : code.encode.length ≤ 15) :
    opcodeMap (code.stream tail) = code.map ∧
      opcodeByte (code.stream tail) = code.op ∧
      modrmIndex (code.stream tail) =
        code.headerBytes.length + code.opcode.bytes.length := by
  have byte := code.headerByte_stream tail fits
  have shape := code.opcodeForm_stream tail fits
  simp only [opcodeMap, opcodeByte, modrmIndex, shape, byte,
    code.headerEnd_stream tail fits, body, form, map, op]
  cases code.opcode with
  | map0F op2 notEscape takesModrm =>
      simp [EscapedOpcode.bytes, Stream'.cons_append_stream]
  | map0F38 op3 | map0F3A op3 =>
      simp [EscapedOpcode.bytes, Stream'.cons_append_stream]

theorem map_takesModrm : code.map.takesModrm code.op = true := by
  rw [map, op]
  cases code.opcode with
  | map0F op2 notEscape takesModrm => exact takesModrm
  | map0F38 op3 | map0F3A op3 => rfl

/-! ## The operands -/

/-- The bytes from the ModRM index on. -/
theorem get_operands (fits : code.encode.length ≤ 15) (offset : ℕ) :
    (code.stream tail).get (modrmIndex (code.stream tail) + offset) =
      (code.operands ++ₛ tail).get offset := by
  rw [(code.opcode_stream tail fits).2.2, stream_eq, body, Nat.add_assoc,
    Stream'.get_append_right, Stream'.get_append_right]

theorem modrmPresent_stream (fits : code.encode.length ≤ 15) :
    modrmPresent (code.stream tail) = true := by
  rcases code.opcode_stream tail fits with ⟨map, op, index⟩
  have room : modrmIndex (code.stream tail) < 15 := by
    have operands : 1 ≤ code.operands.length := by simp [operands]
    rw [encode_length] at fits
    omega
  rw [modrmPresent, map, op, code.map_takesModrm]
  simpa using room

theorem modrm_stream (fits : code.encode.length ≤ 15) :
    (code.stream tail).get (modrmIndex (code.stream tail)) = code.modrm := by
  rw [← Nat.add_zero (modrmIndex _), code.get_operands tail fits]
  rfl

theorem sib_stream (fits : code.encode.length ≤ 15) {b : Byte}
    (present : code.sib = some b) :
    (code.stream tail).get (modrmIndex (code.stream tail) + 1) = b := by
  rw [code.get_operands tail fits, operands, present]
  rfl

theorem sibLength_modrm : sibLength code.modrm = code.sib.toList.length := by
  rw [sibLength, ← code.sib_called]
  cases code.sib <;> rfl

/-- The displacement bytes stand behind ModRM and SIB. -/
theorem displacement_stream (fits : code.encode.length ≤ 15) (offset : ℕ) :
    (code.stream tail).get
        (displacementIndex (code.stream tail)
          (modrmIndex (code.stream tail)) + offset) =
      (code.displacement ++ₛ tail).get offset := by
  have position :
      displacementIndex (code.stream tail) (modrmIndex (code.stream tail)) +
          offset =
        modrmIndex (code.stream tail) +
          ((code.sib.toList.length + offset) + 1) := by
    rw [displacementIndex, code.modrm_stream tail fits, sibLength_modrm]
    omega
  rw [position, code.get_operands tail fits, operands,
    Stream'.cons_append_stream, Stream'.get_succ_cons,
    Stream'.append_append_stream, Stream'.get_append_right]

/-- As many displacement bytes are called for as were encoded. -/
theorem displacementSizeAt_stream (fits : code.encode.length ≤ 15) :
    displacementSizeAt (code.stream tail) (modrmIndex (code.stream tail)) =
      code.displacement.length := by
  rw [displacementSizeAt, code.modrm_stream tail fits,
    code.displacement_called]
  cases present : code.sib with
  | some b => rw [code.sib_stream tail fits present, Option.getD_some]
  | none =>
      have notNeeded : needsSib code.modrm = false := by
        rw [← code.sib_called, present]
        rfl
      rw [← displacementLength_sib, notNeeded]
      rfl

theorem operandEnd_stream (fits : code.encode.length ≤ 15) :
    displacementIndex (code.stream tail) (modrmIndex (code.stream tail)) +
        code.displacement.length =
      code.encode.length := by
  rw [displacementIndex, code.modrm_stream tail fits, sibLength_modrm,
    (code.opcode_stream tail fits).2.2, encode_length, operands]
  simp
  omega

theorem displacementFits_stream (fits : code.encode.length ≤ 15) :
    displacementFits
        (displacementIndex (code.stream tail) (modrmIndex (code.stream tail)))
        (displacementSizeAt (code.stream tail)
          (modrmIndex (code.stream tail))) ↔
      code.displacement ≠ [] := by
  have last := code.operandEnd_stream tail fits
  rw [displacementFits, code.displacementSizeAt_stream tail fits, last,
    ← List.length_pos_iff]
  omega

/-- The value of one or four displacement bytes. -/
theorem displacementValue_bytes
    {ip : Code} {index : ℕ} {bytes : List Byte}
    (size : bytes.length = 1 ∨ bytes.length = 4)
    (read : ∀ offset < bytes.length,
      ip.get (index + offset) = bytes.getD offset 0#8) :
    displacementValue ip index bytes.length =
      (ofBytes bytes.length fun i => bytes.getD i 0#8).signExtend 32 := by
  have first (b : Byte) : 0#0 ++ b = b :=
    BitVec.zero_width_append 0#0 b
  rcases size with one | four
  · rcases List.length_eq_one_iff.mp one with ⟨d, rfl⟩
    have byte := read 0 (by simp)
    simp only [Nat.add_zero] at byte
    simp [displacementValue, byte, ofBytes, first]
  · obtain ⟨d0, d1, d2, d3, rfl⟩ : ∃ d0 d1 d2 d3, bytes = [d0, d1, d2, d3] :=
      List.length_eq_four.mp four
    have byte0 := read 0 (by simp)
    have byte1 := read 1 (by simp)
    have byte2 := read 2 (by simp)
    have byte3 := read 3 (by simp)
    simp only [Nat.add_zero] at byte0
    simp [displacementValue, byte0, byte1, byte2, byte3, ofBytes, first]

/-- The sign-extended displacement of an encoding is decoded. -/
theorem displacementValue_stream (fits : code.encode.length ≤ 15)
    (present : code.displacement ≠ []) :
    displacementValue (code.stream tail)
        (displacementIndex (code.stream tail)
          (modrmIndex (code.stream tail)))
        code.displacement.length =
      code.signedDisplacement := by
  have size :
      code.displacement.length = 1 ∨ code.displacement.length = 4 := by
    have nonempty := List.length_pos_iff.mpr present
    rw [code.displacement_called] at nonempty ⊢
    rw [displacementLength] at nonempty ⊢
    split_ifs at nonempty ⊢ <;> omega
  apply displacementValue_bytes size
  intro offset bound
  rw [code.displacement_stream tail fits, Stream'.get_append_left _ _ _ bound]
  simp [bound]

theorem rex_stream (fits : code.encode.length ≤ 15) :
    (decodeInstruction (code.stream tail)).rex = code.rex.getD 0#8 := by
  have legacy :
      prefixedInstruction (code.stream tail) = header (code.stream tail) := by
    rw [prefixedInstruction, code.opcodeForm_stream tail fits, form]
    cases code.opcode <;> rfl
  rw [(decode_prefixes _).1, legacy, header,
    (code.header_stream tail fits).2]

end LegacyInstruction

/-! ## The round trip -/

/-- The decoder recovers every part of an encoded instruction. -/
theorem decode_encode
    (code : LegacyInstruction) (tail : Code)
    (fits : code.encode.length ≤ 15) :
    DecodedAs code (decodeInstruction (code.encode ++ₛ tail)) := by
  change DecodedAs code (decodeInstruction (code.stream tail))
  have present := code.modrmPresent_stream tail fits
  have displaced := code.displacementFits_stream tail fits
  have size := code.displacementSizeAt_stream tail fits
  rcases code.opcode_stream tail fits with ⟨map, op, -⟩
  rcases decode_operands present with
    ⟨hasModrm, modrm, reg, rm, hasSib, sib, hasDisplacement, displacement⟩
  rw [code.modrm_stream tail fits] at modrm reg rm hasSib sib
  rw [code.rex_stream tail fits] at reg rm
  constructor
  case len =>
    rw [decode_len, decodedEnd, if_pos present, operandEnd, size,
      ← code.operandEnd_stream tail fits]
    split_ifs with consumed
    · rfl
    · have empty : code.displacement = [] := by
        rw [size] at displaced
        exact not_not.mp fun nonempty => consumed (displaced.mpr nonempty)
      rw [empty]
      rfl
  case opcode =>
    rw [decode_opcode, decode_opcodeLen, map, op, LegacyInstruction.map,
      LegacyInstruction.op]
    cases code.opcode <;> rfl
  case opcodeLen =>
    rw [decode_opcodeLen, map, LegacyInstruction.map]
    cases code.opcode <;> rfl
  case modrm => exact modrm
  case sib =>
    intro b member
    have needed : needsSib code.modrm = true := by
      rw [← code.sib_called, member]
      rfl
    rw [sib, if_pos needed]
    exact code.sib_stream tail fits member
  case hasModrm => exact hasModrm
  case hasSib => rw [hasSib, code.sib_called]
  case hasDisplacement =>
    rw [hasDisplacement, Bool.eq_iff_iff, decide_eq_true_iff, displaced]
    simp
  case displacement =>
    rw [displacement]
    split_ifs with consumed
    · rw [size]
      exact code.displacementValue_stream tail fits (displaced.mp consumed)
    · have empty : code.displacement = [] :=
        not_not.mp fun nonempty => consumed (displaced.mpr nonempty)
      rw [LegacyInstruction.signedDisplacement, empty]
      rfl
  case reg => exact reg
  case rm => exact rm

/-- `movbe rax, [rsi + 8]` is decoded in front of any byte. -/
theorem decode_encode_movbe :
    DecodedAs
      { prefixes := []
        prefixes_legacy := by simp
        rex := some 0x48#8
        rex_pattern := by decide
        opcode := .map0F38 0xF0#8
        modrm := 0x46#8
        sib := none
        sib_called := by decide
        displacement := [0x08#8]
        displacement_called := by decide }
      (decodeInstruction
        ([0x48#8, 0x0F#8, 0x38#8, 0xF0#8, 0x46#8, 0x08#8] ++ₛ
          Stream'.const 0x90#8)) :=
  decode_encode _ _ (by decide)

end BadCpu
