import BadCpu.HeaderEncoding
import BadCpu.InstructionLayout

/-!
# Encoding and decoding of VEX payloads

A three-byte VEX prefix packs the bits W, R, X and B, a register number, an
opcode map and an implied prefix into two bytes.  The decoder finds the opcode
and its map behind every such payload, and the extension bits in `rex`.  It
keeps neither the register number nor W itself, and it confuses two of the
implied prefixes.
-/

namespace BadCpu

/-! ## Payloads and their encoding -/

/-- The fields of a payload, as they are stored. -/
structure VexPayload where
  w : BitVec 1
  r : BitVec 1
  x : BitVec 1
  b : BitVec 1
  vvvv : BitVec 4
  pp : BitVec 2
  deriving DecidableEq, Repr

/-- The opcode maps which have an escape sequence. -/
inductive EscapedMap where
  | map0F
  | map0F38
  | map0F3A
  deriving DecidableEq, Repr

namespace EscapedMap

def toOpcodeMap : EscapedMap → OpcodeMap
  | .map0F => .map0F
  | .map0F38 => .map0F38
  | .map0F3A => .map0F3A

/-- The number of a map in a VEX payload. -/
def field : EscapedMap → BitVec 5
  | .map0F => 1#5
  | .map0F38 => 2#5
  | .map0F3A => 3#5

theorem vexOpcodeMap_field (map : EscapedMap) :
    vexOpcodeMap (map.field.setWidth 8) = map.toOpcodeMap := by
  cases map <;> rfl

end EscapedMap

/-- The head of an instruction with a three-byte VEX prefix. -/
structure VexInstruction where
  prefixes : List Byte
  prefixes_legacy : ∀ b ∈ prefixes, isLegacyPrefix b = true
  payload : VexPayload
  l : BitVec 1
  map : EscapedMap
  op : Byte

/-- The head of an instruction with a two-byte VEX prefix. -/
structure ShortVexInstruction where
  prefixes : List Byte
  prefixes_legacy : ∀ b ∈ prefixes, isLegacyPrefix b = true
  r : BitVec 1
  vvvv : BitVec 4
  l : BitVec 1
  pp : BitVec 2
  op : Byte

namespace VexInstruction

def byte1 (code : VexInstruction) : Byte :=
  code.payload.r ++ code.payload.x ++ code.payload.b ++ code.map.field

def byte2 (code : VexInstruction) : Byte :=
  code.payload.w ++ code.payload.vvvv ++ code.l ++ code.payload.pp

def encode (code : VexInstruction) : List Byte :=
  code.prefixes ++ [0xC4#8, code.byte1, code.byte2, code.op]

/-- The stream of an instruction and the bytes behind its opcode. -/
def stream (code : VexInstruction) (tail : Code) : Code :=
  code.encode ++ₛ tail

end VexInstruction

namespace ShortVexInstruction

def byte1 (code : ShortVexInstruction) : Byte :=
  code.r ++ code.vvvv ++ code.l ++ code.pp

def encode (code : ShortVexInstruction) : List Byte :=
  code.prefixes ++ [0xC5#8, code.byte1, code.op]

def stream (code : ShortVexInstruction) (tail : Code) : Code :=
  code.encode ++ₛ tail

end ShortVexInstruction

/-! ## The fields of a payload byte -/

/-- The extension bits above the low five bits of a payload byte. -/
theorem payload_extension (r x b : BitVec 1) (low : BitVec 5) :
    let byte : Byte := r ++ x ++ b ++ low
    (byte >>> 7) &&& 1#8 = r.setWidth 8 ∧
      (byte >>> 6) &&& 1#8 = x.setWidth 8 ∧
      (byte >>> 5) &&& 1#8 = b.setWidth 8 ∧
      byte &&& 0x1F#8 = low.setWidth 8 := by
  decide +revert +kernel

/-- The highest bit and the implied prefix of a payload byte. -/
theorem payload_pp (high : BitVec 1) (vvvv : BitVec 4) (l : BitVec 1)
    (pp : BitVec 2) :
    let byte : Byte := high ++ vvvv ++ l ++ pp
    (byte >>> 7) &&& 1#8 = high.setWidth 8 ∧
      byte &&& 0x03#8 = pp.setWidth 8 := by
  decide +revert +kernel

/-! ## Fields which no VEX prefix sets -/

/-- The decoder never writes the two VEX fields of its result. -/
theorem decode_vexFields (ip : Code) :
    (decodeInstruction ip).vexW = false ∧
      (decodeInstruction ip).vexVvvv = 0#8 := by
  rw [decodeInstruction_eq]
  simp only [finishDecode, operandInstruction, opcodeInstruction,
    prefixedInstruction]
  split_ifs <;> cases opcodeForm ip <;> exact ⟨rfl, rfl⟩

/-! ## Three-byte prefixes -/

namespace VexInstruction

variable (code : VexInstruction) (tail : Code)

/-- The stream behind the legacy prefixes. -/
def body : Code :=
  [0xC4#8, code.byte1, code.byte2, code.op] ++ₛ tail

theorem stream_eq :
    code.stream tail =
      (code.prefixes ++ (none : Option Byte).toList) ++ₛ code.body tail := by
  rw [stream, encode, body, Option.toList_none, List.append_nil,
    Stream'.append_append_stream]

theorem encode_length : code.encode.length = code.prefixes.length + 4 := by
  simp [encode]

/-- The prefixes in front of VEX are a header of the stream. -/
theorem isHeader (fits : code.encode.length ≤ 15) :
    IsHeader code.prefixes none (code.body tail) := by
  rw [encode_length] at fits
  exact IsHeader.ofVex code.prefixes_legacy (by omega) (.inl rfl)

theorem header_stream (fits : code.encode.length ≤ 15) :
    legacyPrefixes (code.stream tail) = code.prefixes ∧
      rexByte? (code.stream tail) = none := by
  rw [stream_eq]
  exact (code.isHeader tail fits).decoded

theorem headerByte_stream (fits : code.encode.length ≤ 15) (offset : ℕ) :
    headerByte (code.stream tail) offset = (code.body tail).get offset := by
  rw [stream_eq]
  exact (code.isHeader tail fits).headerByte_eq offset

theorem headerEnd_stream (fits : code.encode.length ≤ 15) :
    headerEnd (code.stream tail) = code.prefixes.length := by
  rw [stream_eq, (code.isHeader tail fits).headerEnd_eq, Option.toList_none,
    List.append_nil]

theorem opcodeForm_stream (fits : code.encode.length ≤ 15) :
    opcodeForm (code.stream tail) = .vex3 := by
  have first : headerByte (code.stream tail) 0 = 0xC4#8 :=
    code.headerByte_stream tail fits 0
  rw [opcodeForm, if_pos first]

/-- The opcode stands in its map, behind the payload. -/
theorem opcode_stream (fits : code.encode.length ≤ 15) :
    opcodeMap (code.stream tail) = code.map.toOpcodeMap ∧
      opcodeByte (code.stream tail) = code.op ∧
      modrmIndex (code.stream tail) = code.encode.length := by
  have byte1 : headerByte (code.stream tail) 1 = code.byte1 :=
    code.headerByte_stream tail fits 1
  have op : headerByte (code.stream tail) 3 = code.op :=
    code.headerByte_stream tail fits 3
  have field : code.byte1 &&& 0x1F#8 = code.map.field.setWidth 8 :=
    (payload_extension _ _ _ _).2.2.2
  rw [opcodeMap, opcodeByte, modrmIndex, code.opcodeForm_stream tail fits,
    code.headerEnd_stream tail fits, code.encode_length]
  refine ⟨?_, op, rfl⟩
  dsimp only
  rw [byte1, field, code.map.vexOpcodeMap_field]

/-- The bytes behind the opcode. -/
theorem get_tail (fits : code.encode.length ≤ 15) (offset : ℕ) :
    (code.stream tail).get (modrmIndex (code.stream tail) + offset) =
      tail.get offset := by
  rw [(code.opcode_stream tail fits).2.2, stream, Stream'.get_append_right]

/-- The effect of a VEX prefix, in terms of its fields. -/
theorem prefixedInstruction_stream (fits : code.encode.length ≤ 15) :
    prefixedInstruction (code.stream tail) =
      applyVex (header (code.stream tail)) (code.payload.w.setWidth 8)
        (code.payload.r.setWidth 8) (code.payload.x.setWidth 8)
        (code.payload.b.setWidth 8) (code.payload.pp.setWidth 8) := by
  have byte1 : headerByte (code.stream tail) 1 = code.byte1 :=
    code.headerByte_stream tail fits 1
  have byte2 : headerByte (code.stream tail) 2 = code.byte2 :=
    code.headerByte_stream tail fits 2
  rcases payload_extension code.payload.r code.payload.x code.payload.b
    code.map.field with ⟨r, x, b, -⟩
  rcases payload_pp code.payload.w code.payload.vvvv code.l code.payload.pp
    with ⟨w, pp⟩
  change (code.byte1 >>> 7) &&& 1#8 = _ at r
  change (code.byte1 >>> 6) &&& 1#8 = _ at x
  change (code.byte1 >>> 5) &&& 1#8 = _ at b
  change (code.byte2 >>> 7) &&& 1#8 = _ at w
  change code.byte2 &&& 0x03#8 = _ at pp
  rw [prefixedInstruction, code.opcodeForm_stream tail fits]
  dsimp only
  rw [byte1, byte2, r, x, b, w, pp]

end VexInstruction

/-! ## Two-byte prefixes -/

namespace ShortVexInstruction

variable (code : ShortVexInstruction) (tail : Code)

/-- The stream behind the legacy prefixes. -/
def body : Code :=
  [0xC5#8, code.byte1, code.op] ++ₛ tail

theorem stream_eq :
    code.stream tail =
      (code.prefixes ++ (none : Option Byte).toList) ++ₛ code.body tail := by
  rw [stream, encode, body, Option.toList_none, List.append_nil,
    Stream'.append_append_stream]

theorem encode_length : code.encode.length = code.prefixes.length + 3 := by
  simp [encode]

theorem isHeader (fits : code.encode.length ≤ 15) :
    IsHeader code.prefixes none (code.body tail) := by
  rw [encode_length] at fits
  exact IsHeader.ofVex code.prefixes_legacy (by omega) (.inr rfl)

theorem headerByte_stream (fits : code.encode.length ≤ 15) (offset : ℕ) :
    headerByte (code.stream tail) offset = (code.body tail).get offset := by
  rw [stream_eq]
  exact (code.isHeader tail fits).headerByte_eq offset

theorem opcodeForm_stream (fits : code.encode.length ≤ 15) :
    opcodeForm (code.stream tail) = .vex2 := by
  have first : headerByte (code.stream tail) 0 = 0xC5#8 :=
    code.headerByte_stream tail fits 0
  have notLong : headerByte (code.stream tail) 0 ≠ 0xC4#8 := by
    rw [first]
    decide
  rw [opcodeForm, if_neg notLong, if_pos first]

theorem prefixedInstruction_stream (fits : code.encode.length ≤ 15) :
    prefixedInstruction (code.stream tail) =
      applyVex (header (code.stream tail)) 0#8 (code.r.setWidth 8) 0#8 0#8
        (code.pp.setWidth 8) := by
  have byte1 : headerByte (code.stream tail) 1 = code.byte1 :=
    code.headerByte_stream tail fits 1
  rcases payload_pp code.r code.vvvv code.l code.pp with ⟨r, pp⟩
  change (code.byte1 >>> 7) &&& 1#8 = _ at r
  change code.byte1 &&& 0x03#8 = _ at pp
  rw [prefixedInstruction, code.opcodeForm_stream tail fits]
  dsimp only
  rw [byte1, r, pp]

end ShortVexInstruction

end BadCpu
