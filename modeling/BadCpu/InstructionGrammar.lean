import BadCpu.LegacyEncoding

/-!
# The grammar of instructions

The encodings of instructions with an escape or with a VEX prefix are an
unambiguous grammar of byte strings, and the decoder is its parser: it finds a
complete instruction of an escaped opcode map within fifteen bytes exactly where
one is encoded, and there is only one way to encode the bytes in front of it.
-/

namespace BadCpu

/-! ## Streams in pieces -/

section Pieces

variable {α : Type}

/-- A stream is a number of its elements in front of the others. -/
theorem drop_eq_take_append (stream : Stream' α) (first count : ℕ) :
    stream.drop first =
      (stream.drop first).take count ++ₛ stream.drop (first + count) := by
  rw [← Stream'.drop_drop, Stream'.append_take_drop]

theorem drop_eq_cons (stream : Stream' α) (first : ℕ) :
    stream.drop first = [stream.get first] ++ₛ stream.drop (first + 1) := by
  rw [← Stream'.head_drop, ← Stream'.tail_drop']
  exact (Stream'.append_stream_head_tail _).symm

/-- The elements in front of the others are found again. -/
theorem take_append_length (front : List α) (rest : Stream' α) :
    (front ++ₛ rest).take front.length = front := by
  simpa using take_append_stream front rest 0

theorem drop_add_of_append
    {stream rest : Stream' α} {front : List α} {first : ℕ}
    (placed : stream.drop first = front ++ₛ rest) :
    stream.drop (first + front.length) = rest := by
  rw [← Stream'.drop_drop, placed, Stream'.drop_append_stream]

end Pieces

/-! ## Operands -/

/-- A ModRM byte with the SIB and displacement bytes which it calls for. -/
structure OperandEncoding where
  modrm : Byte
  sib : Option Byte
  sib_called : sib.isSome = needsSib modrm
  displacement : List Byte
  displacement_called :
    displacement.length = displacementLength modrm (sib.getD 0#8)

namespace OperandEncoding

def bytes (operands : OperandEncoding) : List Byte :=
  operands.modrm :: (operands.sib.toList ++ operands.displacement)

theorem sibLength_modrm (operands : OperandEncoding) :
    sibLength operands.modrm = operands.sib.toList.length := by
  rw [sibLength, ← operands.sib_called]
  cases operands.sib <;> rfl

end OperandEncoding

section Operands

variable (ip : Code) (pos : ℕ)

/-- The SIB byte which ModRM calls for. -/
def sibAt : Option Byte :=
  if needsSib (ip.get pos) then some (ip.get (pos + 1)) else none

/-- The displacement bytes behind ModRM and SIB. -/
def displacementAt : List Byte :=
  (ip.drop (displacementIndex ip pos)).take (displacementSizeAt ip pos)

theorem sibAt_isSome : (sibAt ip pos).isSome = needsSib (ip.get pos) := by
  rw [sibAt]
  split_ifs with needed
  · exact needed.symm
  · exact (eq_false_of_ne_true needed).symm

/-- A missing SIB byte has no influence on the displacement. -/
theorem displacementLength_sibAt :
    displacementLength (ip.get pos) ((sibAt ip pos).getD 0#8) =
      displacementSizeAt ip pos := by
  have sib :
      (sibAt ip pos).getD 0#8 =
        if needsSib (ip.get pos) then ip.get (pos + 1) else 0#8 := by
    rw [sibAt]
    split_ifs <;> rfl
  rw [sib, displacementLength_sib, displacementSizeAt]

/-- The operand bytes from an index on. -/
def operandsAt : OperandEncoding where
  modrm := ip.get pos
  sib := sibAt ip pos
  sib_called := sibAt_isSome ip pos
  displacement := displacementAt ip pos
  displacement_called := by
    rw [displacementAt, Stream'.length_take, displacementLength_sibAt]

theorem sibLength_sibAt :
    sibLength (ip.get pos) = (sibAt ip pos).toList.length :=
  (operandsAt ip pos).sibLength_modrm

theorem drop_sibAt :
    ip.drop (pos + 1) =
      (sibAt ip pos).toList ++ₛ ip.drop (displacementIndex ip pos) := by
  rw [displacementIndex, sibLength_sibAt, sibAt]
  split_ifs
  · exact drop_eq_cons ip _
  · rfl

/-- ModRM, SIB and displacement stand in front of the rest. -/
theorem drop_operandsAt :
    ip.drop pos =
      (operandsAt ip pos).bytes ++ₛ
        ip.drop (displacementIndex ip pos + displacementSizeAt ip pos) := by
  rw [drop_eq_cons, drop_sibAt,
    drop_eq_take_append ip _ (displacementSizeAt ip pos),
    ← Stream'.append_append_stream, ← Stream'.append_append_stream]
  rfl

theorem operandsAt_length :
    pos + (operandsAt ip pos).bytes.length =
      displacementIndex ip pos + displacementSizeAt ip pos := by
  have displacement :
      (displacementAt ip pos).length = displacementSizeAt ip pos :=
    Stream'.length_take _ _
  rw [displacementIndex, sibLength_sibAt, ← displacement]
  change pos +
    (ip.get pos :: ((sibAt ip pos).toList ++ displacementAt ip pos)).length = _
  rw [List.length_cons, List.length_append]
  omega

/-- Operand bytes in front of others are found as such. -/
theorem operandsAt_of_append
    {operands : OperandEncoding} {tail : Code}
    (placed : ip.drop pos = operands.bytes ++ₛ tail) :
    operandsAt ip pos = operands := by
  have modrm : ip.get pos = operands.modrm := by
    rw [← Stream'.head_drop, placed]
    rfl
  have behind :
      ip.drop (pos + 1) =
        operands.sib.toList ++ₛ (operands.displacement ++ₛ tail) := by
    rw [← Stream'.tail_drop', placed, ← Stream'.append_append_stream]
    rfl
  have sib : sibAt ip pos = operands.sib := by
    rw [sibAt, modrm, ← operands.sib_called]
    cases present : operands.sib with
    | none => rfl
    | some b =>
        have byte : ip.get (pos + 1) = b := by
          rw [← Stream'.head_drop, behind, present]
          rfl
        rw [byte]
        rfl
  have displacement : displacementAt ip pos = operands.displacement := by
    have size :
        displacementSizeAt ip pos = operands.displacement.length := by
      rw [← displacementLength_sibAt, modrm, sib,
        operands.displacement_called]
    have index :
        displacementIndex ip pos = pos + 1 + operands.sib.toList.length := by
      rw [displacementIndex, modrm, operands.sibLength_modrm]
    rw [displacementAt, size, index, drop_add_of_append behind,
      take_append_length]
  rcases operands
  rw [operandsAt, OperandEncoding.mk.injEq]
  exact ⟨modrm, sib, displacement⟩

end Operands

/-! ## Opcodes -/

/-- An opcode with ModRM, behind an escape or a VEX prefix. -/
inductive OpcodeEncoding where
  | escape (opcode : EscapedOpcode)
  | vex3 (byte1 byte2 op : Byte)
      (escaped : vexOpcodeMap (byte1 &&& 0x1F#8) ≠ .oneByte)
      (takesModrm : (vexOpcodeMap (byte1 &&& 0x1F#8)).takesModrm op = true)
  | vex2 (byte1 op : Byte) (takesModrm : twoByteModrm op = true)

namespace OpcodeEncoding

/-- The bytes between the header and ModRM. -/
def bytes : OpcodeEncoding → List Byte
  | .escape opcode => opcode.bytes
  | .vex3 byte1 byte2 op _ _ => [0xC4#8, byte1, byte2, op]
  | .vex2 byte1 op _ => [0xC5#8, byte1, op]

def form : OpcodeEncoding → OpcodeForm
  | .escape (.map0F _ _ _) => .escape0F
  | .escape (.map0F38 _) => .escape0F38
  | .escape (.map0F3A _) => .escape0F3A
  | .vex3 _ _ _ _ _ => .vex3
  | .vex2 _ _ _ => .vex2

def map : OpcodeEncoding → OpcodeMap
  | .escape (.map0F _ _ _) | .vex2 _ _ _ => .map0F
  | .escape (.map0F38 _) => .map0F38
  | .escape (.map0F3A _) => .map0F3A
  | .vex3 byte1 _ _ _ _ => vexOpcodeMap (byte1 &&& 0x1F#8)

def op : OpcodeEncoding → Byte
  | .escape (.map0F op _ _) | .escape (.map0F38 op) | .escape (.map0F3A op) =>
      op
  | .vex3 _ _ op _ _ | .vex2 _ op _ => op

variable (opcode : OpcodeEncoding)

theorem headLength_form : opcode.form.headLength = opcode.bytes.length := by
  rcases opcode with (_ | _ | _) | _ | _ <;> rfl

theorem map_escaped : opcode.map ≠ .oneByte := by
  rcases opcode with (_ | _ | _) | ⟨_, _, _, escaped, _⟩ | _
  · exact OpcodeMap.noConfusion
  · exact OpcodeMap.noConfusion
  · exact OpcodeMap.noConfusion
  · exact escaped
  · exact OpcodeMap.noConfusion

theorem map_takesModrm : opcode.map.takesModrm opcode.op = true := by
  rcases opcode with
    (⟨_, _, takesModrm⟩ | _ | _) | ⟨_, _, _, _, takesModrm⟩ |
    ⟨_, _, takesModrm⟩
  · exact takesModrm
  · rfl
  · rfl
  · exact takesModrm
  · exact takesModrm

/-- An opcode neither prolongs the prefixes nor starts with a REX byte. -/
theorem head_cases :
    ∃ first rest, opcode.bytes = first :: rest ∧
      isLegacyPrefix first = false ∧ isRex first = false := by
  rcases opcode with (_ | _ | _) | _ | _ <;>
    exact ⟨_, _, rfl, by decide, by decide⟩

/-- The bytes determine the opcode. -/
theorem bytes_injective
    {opcode opcode' : OpcodeEncoding} (same : opcode.bytes = opcode'.bytes) :
    opcode = opcode' := by
  rcases opcode with (_ | _ | _) | _ | _ <;>
    rcases opcode' with (_ | _ | _) | _ | _ <;>
    simp_all [bytes, EscapedOpcode.bytes]

section Decoded

variable {opcode} {ip rest : Code}
  (placed : ip.drop (headerEnd ip) = opcode.bytes ++ₛ rest)

include placed

theorem headerByte_of_append (offset : ℕ) :
    headerByte ip offset = (opcode.bytes ++ₛ rest).get offset := by
  rw [headerByte, ← Stream'.get_drop, placed]

/-- The decoder finds an opcode behind the header. -/
theorem opcodeForm_of_append : opcodeForm ip = opcode.form := by
  have byte := headerByte_of_append placed
  simp only [opcodeForm, byte]
  rcases opcode with (⟨op, notEscape, _⟩ | _ | _) | _ | _
  · simp [bytes, form, EscapedOpcode.bytes, Stream'.cons_append_stream,
      notEscape]
  · rfl
  · rfl
  · rfl
  · rfl

theorem opcode_of_append :
    opcodeMap ip = opcode.map ∧ opcodeByte ip = opcode.op ∧
      modrmIndex ip = headerEnd ip + opcode.bytes.length := by
  have byte := headerByte_of_append placed
  simp only [opcodeMap, opcodeByte, modrmIndex, opcodeForm_of_append placed,
    headLength_form, byte]
  rcases opcode with (_ | _ | _) | _ | _ <;> exact ⟨rfl, rfl, trivial⟩

end Decoded

/-- There is only one opcode behind a header. -/
theorem eq_of_append
    {opcode opcode' : OpcodeEncoding} {ip rest rest' : Code}
    (placed : ip.drop (headerEnd ip) = opcode.bytes ++ₛ rest)
    (placed' : ip.drop (headerEnd ip) = opcode'.bytes ++ₛ rest') :
    opcode = opcode' := by
  have form := (opcodeForm_of_append placed).symm.trans
    (opcodeForm_of_append placed')
  have length : opcode.bytes.length = opcode'.bytes.length := by
    rw [← headLength_form, ← headLength_form, form]
  apply bytes_injective
  rw [← take_append_length opcode.bytes rest, ← placed, length, placed',
    take_append_length]

end OpcodeEncoding

/-! ## Encodings -/

/-- A well-formed instruction of an escaped opcode map. -/
structure InstructionEncoding where
  prefixes : List Byte
  prefixes_legacy : ∀ b ∈ prefixes, isLegacyPrefix b = true
  rex : Option Byte
  rex_pattern : ∀ b ∈ rex, isRex b = true
  opcode : OpcodeEncoding
  operands : OperandEncoding
  /-- No instruction is longer than fifteen bytes. -/
  fits :
    prefixes.length + rex.toList.length + opcode.bytes.length +
      operands.bytes.length ≤ 15

namespace InstructionEncoding

variable (code : InstructionEncoding) (tail : Code)

def headerBytes : List Byte :=
  code.prefixes ++ code.rex.toList

def encode : List Byte :=
  code.headerBytes ++ (code.opcode.bytes ++ code.operands.bytes)

/-- The stream of an instruction and the bytes behind it. -/
def stream : Code :=
  code.encode ++ₛ tail

theorem stream_eq :
    code.stream tail =
      code.headerBytes ++ₛ
        (code.opcode.bytes ++ₛ (code.operands.bytes ++ₛ tail)) := by
  simp only [stream, encode, Stream'.append_append_stream]

theorem encode_length :
    code.encode.length =
      code.headerBytes.length + code.opcode.bytes.length +
        code.operands.bytes.length := by
  simp only [encode, List.length_append, Nat.add_assoc]

theorem encode_length_le : code.encode.length ≤ 15 := by
  have fits := code.fits
  rw [encode_length, headerBytes, List.length_append]
  exact fits

theorem isHeader :
    IsHeader code.prefixes code.rex
      (code.opcode.bytes ++ₛ (code.operands.bytes ++ₛ tail)) := by
  have fits := code.fits
  rcases code.opcode.head_cases with ⟨first, rest, bytes, notPrefix, notRex⟩
  constructor
  · exact code.prefixes_legacy
  · exact code.rex_pattern
  · omega
  · intro _
    rw [bytes]
    exact notPrefix
  · intro _
    rw [bytes]
    exact notRex

theorem header_stream :
    legacyPrefixes (code.stream tail) = code.prefixes ∧
      rexByte? (code.stream tail) = code.rex := by
  rw [stream_eq]
  exact (code.isHeader tail).decoded

theorem headerEnd_stream :
    headerEnd (code.stream tail) = code.headerBytes.length := by
  rw [stream_eq]
  exact (code.isHeader tail).headerEnd_eq

/-- The opcode stands behind the header. -/
theorem drop_headerEnd :
    (code.stream tail).drop (headerEnd (code.stream tail)) =
      code.opcode.bytes ++ₛ (code.operands.bytes ++ₛ tail) := by
  rw [headerEnd_stream, stream_eq, Stream'.drop_append_stream]

/-- The operands stand behind the opcode. -/
theorem drop_modrmIndex :
    (code.stream tail).drop (modrmIndex (code.stream tail)) =
      code.operands.bytes ++ₛ tail := by
  have placed := code.drop_headerEnd tail
  rw [(OpcodeEncoding.opcode_of_append placed).2.2]
  exact drop_add_of_append placed

/-- The bytes of a stream are the encoding of one instruction only. -/
theorem stream_unambiguous
    {code code' : InstructionEncoding} {tail tail' : Code}
    (same : code.stream tail = code'.stream tail') :
    code = code' := by
  rcases code.header_stream tail with ⟨prefixes, rex⟩
  have opcode := code.drop_headerEnd tail
  have operands := operandsAt_of_append _ _ (code.drop_modrmIndex tail)
  rw [same] at prefixes rex opcode operands
  rcases code'.header_stream tail' with ⟨prefixes', rex'⟩
  have opcode' := code'.drop_headerEnd tail'
  have operands' := operandsAt_of_append _ _ (code'.drop_modrmIndex tail')
  have sameOpcode := OpcodeEncoding.eq_of_append opcode opcode'
  rcases code
  rcases code'
  rw [mk.injEq]
  exact ⟨prefixes.symm.trans prefixes', rex.symm.trans rex', sameOpcode,
    operands.symm.trans operands'⟩

end InstructionEncoding

/-! ## Well-formed instructions -/

/-- A complete instruction of an escaped opcode map, within the limit. -/
structure WellFormed (inst : DecodedInstruction) : Prop where
  escaped : 2 ≤ inst.opcodeLen
  complete : DecodeComplete inst
  within : inst.len.toNat ≤ 15

/-- The header stands in front of the opcode. -/
theorem eq_header_append (ip : Code) :
    ip =
      (legacyPrefixes ip ++ (rexByte? ip).toList) ++ₛ ip.drop (headerEnd ip) := by
  have run : legacyPrefixes ip = ip.take (legacyPrefixes ip).length := by
    have initial : legacyPrefixes ip <+: ip.take 15 :=
      List.takeWhile_prefix isLegacyPrefix
    conv_lhs => rw [List.prefix_iff_eq_take.mp initial]
    rw [Stream'.take_take, min_eq_right (legacyPrefixes_length_le ip)]
  have rex :
      ip.drop (legacyPrefixes ip).length =
        (rexByte? ip).toList ++ₛ ip.drop (headerEnd ip) := by
    rw [headerEnd, rexLength]
    simp only [rexByte?]
    split_ifs
    · exact drop_eq_cons ip _
    · rfl
  conv_lhs => rw [← Stream'.append_take_drop (legacyPrefixes ip).length ip, rex]
  rw [← run, Stream'.append_append_stream]

/-- The escape bytes of each form. -/
theorem escape_bytes (ip : Code) :
    match opcodeForm ip with
    | .escape0F =>
        headerByte ip 0 = 0x0F#8 ∧ headerByte ip 1 ≠ 0x38#8 ∧
          headerByte ip 1 ≠ 0x3A#8
    | .escape0F38 => headerByte ip 0 = 0x0F#8 ∧ headerByte ip 1 = 0x38#8
    | .escape0F3A => headerByte ip 0 = 0x0F#8 ∧ headerByte ip 1 = 0x3A#8
    | .oneByte => True
    | .vex3 => headerByte ip 0 = 0xC4#8
    | .vex2 => headerByte ip 0 = 0xC5#8 := by
  rw [opcodeForm]
  split_ifs with vex3 vex2 escape op38 op3A
  · exact vex3
  · exact vex2
  · exact ⟨escape, op38⟩
  · exact ⟨escape, op3A⟩
  · exact ⟨escape, op38, op3A⟩
  · trivial

/-- The bytes of the head are the first ones behind the header. -/
theorem take_headerEnd (ip : Code) (count : ℕ) :
    (ip.drop (headerEnd ip)).take count =
      (List.range count).map (headerByte ip) := by
  induction count with
  | zero => rfl
  | succ count ih =>
      rw [Stream'.take_succ', ih, List.range_succ, List.map_append,
        Stream'.get_drop]
      rfl

namespace WellFormed

variable {ip : Code} (wellFormed : WellFormed (decodeInstruction ip))

include wellFormed

theorem modrmPresent : modrmPresent ip = true := by
  rw [← decode_hasModrm]
  exact wellFormed.complete.modrm

theorem takesModrm : (opcodeMap ip).takesModrm (opcodeByte ip) = true := by
  have present := wellFormed.modrmPresent
  rw [BadCpu.modrmPresent, Bool.and_eq_true] at present
  exact present.1

theorem map_escaped : opcodeMap ip ≠ .oneByte := by
  have escaped := wellFormed.escaped
  rw [decode_opcodeLen] at escaped
  intro oneByte
  rw [oneByte] at escaped
  exact absurd (show 2 ≤ 1 from escaped) (by decide)

/-- The opcode bytes stand between the header and ModRM. -/
theorem exists_opcode :
    ∃ opcode : OpcodeEncoding,
      ip.drop (headerEnd ip) = opcode.bytes ++ₛ ip.drop (modrmIndex ip) := by
  have takes := wellFormed.takesModrm
  have escaped := wellFormed.map_escaped
  have bytes := escape_bytes ip
  have split :=
    drop_eq_take_append ip (headerEnd ip) (opcodeForm ip).headLength
  rw [take_headerEnd] at split
  simp only [modrmIndex, opcodeMap, opcodeByte] at takes escaped ⊢
  rw [split]
  cases form : opcodeForm ip with
  | oneByte =>
      rw [form] at escaped
      exact absurd rfl escaped
  | escape0F =>
      rw [form] at takes bytes
      rcases bytes with ⟨escape, other⟩
      refine ⟨.escape (.map0F (headerByte ip 1) other takes), ?_⟩
      simp [List.range_succ, escape, OpcodeEncoding.bytes, EscapedOpcode.bytes]
  | escape0F38 =>
      rw [form] at bytes
      refine ⟨.escape (.map0F38 (headerByte ip 2)), ?_⟩
      simp [List.range_succ, bytes, OpcodeEncoding.bytes, EscapedOpcode.bytes]
  | escape0F3A =>
      rw [form] at bytes
      refine ⟨.escape (.map0F3A (headerByte ip 2)), ?_⟩
      simp [List.range_succ, bytes, OpcodeEncoding.bytes, EscapedOpcode.bytes]
  | vex3 =>
      rw [form] at takes escaped bytes
      refine ⟨.vex3 (headerByte ip 1) (headerByte ip 2) (headerByte ip 3)
        escaped takes, ?_⟩
      simp [List.range_succ, bytes, OpcodeEncoding.bytes]
  | vex2 =>
      rw [form] at takes bytes
      refine ⟨.vex2 (headerByte ip 1) (headerByte ip 2) takes, ?_⟩
      simp [List.range_succ, bytes, OpcodeEncoding.bytes]

/-- The instruction ends behind its operands. -/
theorem decodedEnd_eq :
    decodedEnd ip =
      modrmIndex ip + (operandsAt ip (modrmIndex ip)).bytes.length := by
  have complete :=
    (decodeComplete_iff wellFormed.takesModrm).mp wellFormed.complete
  rw [decodedEnd, if_pos wellFormed.modrmPresent, operandEnd,
    operandsAt_length]
  split_ifs with fits
  · rfl
  · rw [displacementFits] at fits
    rw [CrossesLimit] at complete
    omega

/-- The bytes of a well-formed instruction are an encoding. -/
theorem exists_encoding :
    ∃ code : InstructionEncoding, ip = code.stream (ip.drop (decodedEnd ip)) := by
  rcases wellFormed.exists_opcode with ⟨opcode, placed⟩
  have within := wellFormed.within
  have header : headerEnd ip =
      (legacyPrefixes ip).length + (rexByte? ip).toList.length := rfl
  rw [decode_len, wellFormed.decodedEnd_eq,
    (OpcodeEncoding.opcode_of_append placed).2.2] at within
  refine
    ⟨{ prefixes := legacyPrefixes ip
       prefixes_legacy := fun b member => List.mem_takeWhile_imp member
       rex := rexByte? ip
       rex_pattern := ?_
       opcode := opcode
       operands := operandsAt ip (modrmIndex ip)
       fits := ?_ }, ?_⟩
  · intro b member
    simp only [rexByte?] at member
    split_ifs at member with rex
    · obtain rfl := Option.some.inj member
      exact rex.2
    · exact absurd member.symm (Option.some_ne_none b)
  · rw [(OpcodeEncoding.opcode_of_append placed).2.2]
    omega
  · rw [InstructionEncoding.stream_eq, wellFormed.decodedEnd_eq,
      operandsAt_length, ← drop_operandsAt, ← placed]
    exact eq_header_append ip

end WellFormed

namespace InstructionEncoding

variable (code : InstructionEncoding) (tail : Code)

/-- The opcode is found in its map. -/
theorem opcode_stream :
    opcodeMap (code.stream tail) = code.opcode.map ∧
      (opcodeMap (code.stream tail)).takesModrm
        (opcodeByte (code.stream tail)) = true := by
  rcases OpcodeEncoding.opcode_of_append (code.drop_headerEnd tail) with
    ⟨map, op, -⟩
  rw [map, op]
  exact ⟨rfl, code.opcode.map_takesModrm⟩

/-- Behind ModRM the operands reach to the end of the instruction. -/
theorem operandEnd_stream :
    modrmIndex (code.stream tail) < code.encode.length ∧
      displacementIndex (code.stream tail) (modrmIndex (code.stream tail)) +
          displacementSizeAt (code.stream tail)
            (modrmIndex (code.stream tail)) =
        code.encode.length := by
  rw [← operandsAt_length,
    operandsAt_of_append _ _ (code.drop_modrmIndex tail),
    (OpcodeEncoding.opcode_of_append (code.drop_headerEnd tail)).2.2,
    code.headerEnd_stream tail, code.encode_length]
  refine ⟨Nat.lt_add_of_pos_right ?_, rfl⟩
  rw [OperandEncoding.bytes]
  exact Nat.succ_pos _

/-- The decoder consumes the encoding and nothing behind it. -/
theorem decodedEnd_stream :
    decodedEnd (code.stream tail) = code.encode.length := by
  have limit := code.encode_length_le
  have operands := code.operandEnd_stream tail
  have present : modrmPresent (code.stream tail) = true := by
    rw [modrmPresent, (code.opcode_stream tail).2, Bool.true_and,
      decide_eq_true_iff]
    omega
  rw [decodedEnd, if_pos present, operandEnd]
  split_ifs with fits
  · exact operands.2
  · rw [displacementFits] at fits
    omega

/-- An encoding in front of other bytes is decoded as a whole. -/
theorem wellFormed_stream :
    WellFormed (decodeInstruction (code.stream tail)) := by
  have limit := code.encode_length_le
  rcases code.opcode_stream tail with ⟨map, takes⟩
  constructor
  case escaped =>
    rw [decode_opcodeLen, map]
    have escaped := code.opcode.map_escaped
    cases form : code.opcode.map with
    | oneByte => exact absurd form escaped
    | map0F => exact Nat.le_refl 2
    | map0F38 | map0F3A => exact Nat.le_succ 2
  case complete =>
    have operands := code.operandEnd_stream tail
    rw [decodeComplete_iff takes, CrossesLimit]
    omega
  case within =>
    rw [decode_len, code.decodedEnd_stream]
    exact limit

end InstructionEncoding

/--
The decoder finds a complete instruction of an escaped map within the limit
exactly where one is encoded, and there is only one way to encode it.
-/
theorem wellFormed_iff_existsUnique (ip : Code) :
    WellFormed (decodeInstruction ip) ↔
      ∃! code : InstructionEncoding, ∃ tail, ip = code.encode ++ₛ tail := by
  constructor
  · intro wellFormed
    rcases wellFormed.exists_encoding with ⟨code, bytes⟩
    refine ⟨code, ⟨_, bytes⟩, ?_⟩
    rintro other ⟨tail, bytes'⟩
    exact InstructionEncoding.stream_unambiguous (bytes'.symm.trans bytes)
  · rintro ⟨code, ⟨tail, rfl⟩, -⟩
    exact code.wellFormed_stream tail

end BadCpu
