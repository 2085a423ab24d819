import BadCpu.HeaderLayout

/-!
# The opcode of an instruction

Behind the header the decoder distinguishes six shapes of an opcode: a single
byte, the three legacy escapes and the two VEX prefixes.  Each shape fixes the
opcode map, the index of the opcode byte and the index at which the decoder
continues.
-/

namespace BadCpu

open AdaptiveQuery

/-! ## Shapes of opcodes -/

/-- How the opcode behind the header is written. -/
inductive OpcodeForm where
  | oneByte
  | escape0F
  | escape0F38
  | escape0F3A
  | vex3
  | vex2
  deriving DecidableEq, Repr

/-- The byte at a distance behind the header. -/
def headerByte (ip : Code) (offset : ℕ) : Byte :=
  ip.get (headerEnd ip + offset)

theorem get_headerEnd (ip : Code) :
    ip.get (headerEnd ip) = headerByte ip 0 := by
  rw [headerByte, Nat.add_zero]

theorem get_headerEnd_add (ip : Code) (offset : ℕ) :
    ip.get (headerEnd ip + offset) = headerByte ip offset := by
  rw [headerByte]

def opcodeForm (ip : Code) : OpcodeForm :=
  if headerByte ip 0 = 0xC4#8 then .vex3
  else if headerByte ip 0 = 0xC5#8 then .vex2
  else if headerByte ip 0 = 0x0F#8 then
    if headerByte ip 1 = 0x38#8 then .escape0F38
    else if headerByte ip 1 = 0x3A#8 then .escape0F3A
    else .escape0F
  else .oneByte

theorem opcodeForm_eq_oneByte_iff (ip : Code) :
    opcodeForm ip = .oneByte ↔
      ¬ (headerByte ip 0 = 0x0F#8 ∨ headerByte ip 0 = 0xC4#8 ∨
        headerByte ip 0 = 0xC5#8) := by
  rw [opcodeForm]
  split_ifs <;> simp_all

namespace OpcodeForm

/-- The number of bytes before the last opcode byte. -/
@[simp]
def opcodeOffset : OpcodeForm → ℕ
  | .oneByte => 0
  | .escape0F => 1
  | .escape0F38 | .escape0F3A => 2
  | .vex3 => 3
  | .vex2 => 2

/--
The number of bytes which the decoder skips before it looks for ModRM.  It
does not skip the opcode byte of the one-byte map.
-/
@[simp]
def headLength : OpcodeForm → ℕ
  | .oneByte => 0
  | form => form.opcodeOffset + 1

def isVex : OpcodeForm → Bool
  | .vex3 | .vex2 => true
  | _ => false

theorem headLength_le (form : OpcodeForm) : form.headLength ≤ 4 := by
  cases form <;> decide

theorem headLength_escaped
    {form : OpcodeForm} (escaped : form ≠ .oneByte) :
    form.headLength = form.opcodeOffset + 1 := by
  cases form with
  | oneByte => exact absurd rfl escaped
  | escape0F | escape0F38 | escape0F3A | vex3 | vex2 => rfl

end OpcodeForm

/-- The map to which the opcode belongs. -/
def opcodeMap (ip : Code) : OpcodeMap :=
  match opcodeForm ip with
  | .oneByte => .oneByte
  | .escape0F | .vex2 => .map0F
  | .escape0F38 => .map0F38
  | .escape0F3A => .map0F3A
  | .vex3 => vexOpcodeMap (headerByte ip 1 &&& 0x1F#8)

/-- The index of the last byte of the opcode. -/
def opcodeIndex (ip : Code) : ℕ :=
  headerEnd ip + (opcodeForm ip).opcodeOffset

/-- The last byte of the opcode. -/
def opcodeByte (ip : Code) : Byte :=
  headerByte ip (opcodeForm ip).opcodeOffset

/-- The index at which the decoder looks for ModRM. -/
def modrmIndex (ip : Code) : ℕ :=
  headerEnd ip + (opcodeForm ip).headLength

theorem modrmIndex_oneByte
    {ip : Code} (oneByte : opcodeForm ip = .oneByte) :
    modrmIndex ip = opcodeIndex ip := by
  rw [modrmIndex, opcodeIndex, oneByte]
  rfl

theorem modrmIndex_escaped
    {ip : Code} (escaped : opcodeForm ip ≠ .oneByte) :
    modrmIndex ip = opcodeIndex ip + 1 := by
  rw [modrmIndex, opcodeIndex, OpcodeForm.headLength_escaped escaped,
    Nat.add_assoc]

theorem modrmIndex_le (ip : Code) : modrmIndex ip ≤ 19 := by
  have header := headerEnd_le ip
  have head := (opcodeForm ip).headLength_le
  rw [modrmIndex]
  omega

/-! ## The instruction before ModRM -/

namespace OpcodeMap

/-- The array `opcode` of an opcode byte in a map. -/
@[simp]
def opcode (map : OpcodeMap) (op : Byte) : Vector Byte 3 :=
  match map with
  | .oneByte => opcodeArray op 0#8 0#8
  | .map0F => opcodeArray 0x0F#8 op 0#8
  | .map0F38 => opcodeArray 0x0F#8 0x38#8 op
  | .map0F3A => opcodeArray 0x0F#8 0x3A#8 op

@[simp]
def opcodeLen : OpcodeMap → ℕ
  | .oneByte => 1
  | .map0F => 2
  | .map0F38 | .map0F3A => 3

/-- Whether an opcode of the map takes a ModRM byte. -/
def takesModrm (map : OpcodeMap) (op : Byte) : Bool :=
  match map with
  | .oneByte => oneByteModrm op
  | .map0F => twoByteModrm op
  | .map0F38 | .map0F3A => true

/-- Whether an opcode of the map is classified as SIMD. -/
def isSimd (map : OpcodeMap) (op : Byte) : Bool :=
  match map with
  | .oneByte => false
  | .map0F => twoByteSimd op
  | .map0F38 | .map0F3A => true

end OpcodeMap

/-- Store an opcode byte together with the escape bytes of its map. -/
def withOpcode (inst : DecodedInstruction) (map : OpcodeMap) (op : Byte) :
    DecodedInstruction :=
  { inst with
    opcode := map.opcode op
    opcodeLen := map.opcodeLen }

/-- The instruction with the effect of a VEX prefix, if there is one. -/
def prefixedInstruction (ip : Code) : DecodedInstruction :=
  match opcodeForm ip with
  | .vex3 =>
      applyVex (header ip) ((headerByte ip 2 >>> 7) &&& 1#8)
        ((headerByte ip 1 >>> 7) &&& 1#8) ((headerByte ip 1 >>> 6) &&& 1#8)
        ((headerByte ip 1 >>> 5) &&& 1#8) (headerByte ip 2 &&& 0x03#8)
  | .vex2 =>
      applyVex (header ip) 0#8 ((headerByte ip 1 >>> 7) &&& 1#8) 0#8 0#8
        (headerByte ip 1 &&& 0x03#8)
  | _ => header ip

theorem prefixedInstruction_isVex (ip : Code) :
    (prefixedInstruction ip).isVex = (opcodeForm ip).isVex := by
  rw [prefixedInstruction]
  cases opcodeForm ip <;> rfl

/-! ## VEX fields and prefix flags -/

/-- The VEX payload byte which holds L and pp. -/
def vexPayload (ip : Code) : Byte :=
  match opcodeForm ip with
  | .vex3 => headerByte ip 2
  | _ => headerByte ip 1

def vexL (ip : Code) : Byte :=
  (vexPayload ip >>> 2) &&& 1#8

def vexPp (ip : Code) : Byte :=
  vexPayload ip &&& 0x03#8

/-- Whether the decoder sets its F3 flag. -/
def RepeatFlagged (ip : Code) : Prop :=
  0xF3#8 ∈ recordedPrefixes ip ∨ (opcodeForm ip).isVex = true ∧ vexPp ip = 3#8

theorem hasF3_iff (ip : Code) :
    (prefixedInstruction ip).hasF3 = true ↔ RepeatFlagged ip := by
  rw [prefixedInstruction, RepeatFlagged, vexPp, vexPayload]
  cases opcodeForm ip <;>
    simp [header, applyVex, OpcodeForm.isVex]

theorem legacyPrefixes_of_recorded
    {ip : Code} {b : Byte} (recorded : b ∈ recordedPrefixes ip) :
    b ∈ legacyPrefixes ip :=
  List.mem_of_mem_take recorded

/-! ## The decoder follows the layout -/

/-- The local variable `first_byte` behind the opcode stages. -/
def headFirstByte (ip : Code) : Byte :=
  match opcodeForm ip with
  | .vex3 | .vex2 => opcodeByte ip
  | _ => headerByte ip 0

/-- Behind a VEX prefix the opcode byte is already read. -/
theorem opcodeBytes_vex (ip : Code) (head : Head)
    (vex : head.inst.isVex = true) :
    (opcodeBytes head).run ip.get =
        { head with
          inst := withOpcode head.inst head.opcodeMap head.firstByte } ∧
      (opcodeBytes head).asked ip.get = [] := by
  rcases head with ⟨inst, pos, byte, map⟩
  change inst.isVex = true at vex
  cases map <;> simp [opcodeBytes, vex, withOpcode]

/-- A one-byte opcode is already read, too, but it is not skipped. -/
theorem opcodeBytes_legacy (ip : Code) (head : Head)
    (legacy : head.inst.isVex = false) (oneByte : head.firstByte ≠ 0x0F#8) :
    (opcodeBytes head).run ip.get =
        { head with inst := withOpcode head.inst .oneByte head.firstByte } ∧
      (opcodeBytes head).asked ip.get = [] := by
  simp [opcodeBytes, legacy, oneByte, withOpcode]

theorem opcodeBytes_escape0F (ip : Code) (head : Head)
    (legacy : head.inst.isVex = false) (escape : head.firstByte = 0x0F#8)
    (map38 : ip.get (head.pos + 1) ≠ 0x38#8)
    (map3A : ip.get (head.pos + 1) ≠ 0x3A#8) :
    (opcodeBytes head).run ip.get =
        { head with
          inst := withOpcode head.inst .map0F (ip.get (head.pos + 1))
          pos := head.pos + 2
          opcodeMap := .map0F } ∧
      (opcodeBytes head).asked ip.get = [head.pos + 1] := by
  simp [opcodeBytes, legacy, escape, map38, map3A, withOpcode]

theorem opcodeBytes_escape0F38 (ip : Code) (head : Head)
    (legacy : head.inst.isVex = false) (escape : head.firstByte = 0x0F#8)
    (map38 : ip.get (head.pos + 1) = 0x38#8) :
    (opcodeBytes head).run ip.get =
        { head with
          inst := withOpcode head.inst .map0F38 (ip.get (head.pos + 2))
          pos := head.pos + 3
          opcodeMap := .map0F38 } ∧
      (opcodeBytes head).asked ip.get = [head.pos + 1, head.pos + 2] := by
  simp [opcodeBytes, legacy, escape, map38, withOpcode]

theorem opcodeBytes_escape0F3A (ip : Code) (head : Head)
    (legacy : head.inst.isVex = false) (escape : head.firstByte = 0x0F#8)
    (map3A : ip.get (head.pos + 1) = 0x3A#8) :
    (opcodeBytes head).run ip.get =
        { head with
          inst := withOpcode head.inst .map0F3A (ip.get (head.pos + 2))
          pos := head.pos + 3
          opcodeMap := .map0F3A } ∧
      (opcodeBytes head).asked ip.get = [head.pos + 1, head.pos + 2] := by
  simp [opcodeBytes, legacy, escape, map3A, withOpcode]

/-- The head as the layout describes it. -/
def layoutHead (ip : Code) : Head where
  inst := withOpcode (prefixedInstruction ip) (opcodeMap ip) (opcodeByte ip)
  pos := modrmIndex ip
  firstByte := headFirstByte ip
  opcodeMap := opcodeMap ip

/--
The head stages compute the layout of the opcode, and read every byte from the
end of the header to the opcode byte.
-/
theorem decodeHead_spec (ip : Code) :
    decodeHead.run ip.get = layoutHead ip ∧
      decodeHead.asked ip.get =
        decodeHeader.asked ip.get ++
          List.range' (headerEnd ip) ((opcodeForm ip).opcodeOffset + 1) := by
  have legacy : (header ip).isVex = false := rfl
  simp only [decodeHead, Query.run_bind, Query.asked_bind, decodeHeader_run,
    Query.run_read, Query.asked_read, vexPrefix, Query.run_ite,
    Query.asked_ite, Query.run_pure, Query.asked_pure, get_headerEnd,
    get_headerEnd_add, List.append_cancel_left_eq]
  by_cases vex3 : headerByte ip 0 = 0xC4#8
  · have form : opcodeForm ip = .vex3 := by simp [opcodeForm, vex3]
    constructor
    · rw [if_pos vex3, (opcodeBytes_vex ip _ rfl).1]
      simp [layoutHead, headFirstByte, modrmIndex, opcodeMap, opcodeByte,
        prefixedInstruction, form]
    · rw [if_pos vex3, if_pos vex3, (opcodeBytes_vex ip _ rfl).2]
      simp [form, List.range'_succ]
  by_cases vex2 : headerByte ip 0 = 0xC5#8
  · have form : opcodeForm ip = .vex2 := by simp [opcodeForm, vex2]
    constructor
    · rw [if_neg vex3, if_pos vex2, (opcodeBytes_vex ip _ rfl).1]
      simp [layoutHead, headFirstByte, modrmIndex, opcodeMap, opcodeByte,
        prefixedInstruction, form, vexOpcodeMap]
    · rw [if_neg vex3, if_neg vex3, if_pos vex2, if_pos vex2,
        (opcodeBytes_vex ip _ rfl).2]
      simp [form, List.range'_succ]
  rw [if_neg vex3, if_neg vex2, if_neg vex3, if_neg vex2]
  by_cases escape : headerByte ip 0 = 0x0F#8
  · by_cases map38 : headerByte ip 1 = 0x38#8
    · have form : opcodeForm ip = .escape0F38 := by
        simp [opcodeForm, escape, map38]
      rcases
          opcodeBytes_escape0F38 ip
            { inst := header ip, pos := headerEnd ip,
              firstByte := headerByte ip 0 } legacy escape map38 with
        ⟨run, asked⟩
      rw [run, asked]
      simp [layoutHead, headFirstByte, modrmIndex, opcodeMap, opcodeByte,
        prefixedInstruction, form, List.range'_succ, headerByte]
    by_cases map3A : headerByte ip 1 = 0x3A#8
    · have form : opcodeForm ip = .escape0F3A := by
        simp [opcodeForm, escape, map3A]
      rcases
          opcodeBytes_escape0F3A ip
            { inst := header ip, pos := headerEnd ip,
              firstByte := headerByte ip 0 } legacy escape map3A with
        ⟨run, asked⟩
      rw [run, asked]
      simp [layoutHead, headFirstByte, modrmIndex, opcodeMap, opcodeByte,
        prefixedInstruction, form, List.range'_succ, headerByte]
    · have form : opcodeForm ip = .escape0F := by
        simp [opcodeForm, escape, map38, map3A]
      rcases
          opcodeBytes_escape0F ip
            { inst := header ip, pos := headerEnd ip,
              firstByte := headerByte ip 0 } legacy escape map38 map3A with
        ⟨run, asked⟩
      rw [run, asked]
      simp [layoutHead, headFirstByte, modrmIndex, opcodeMap, opcodeByte,
        prefixedInstruction, form, List.range'_succ, headerByte]
  · have form : opcodeForm ip = .oneByte := by
      simp [opcodeForm, vex3, vex2, escape]
    rcases
        opcodeBytes_legacy ip
          { inst := header ip, pos := headerEnd ip,
            firstByte := headerByte ip 0 } legacy escape with
      ⟨run, asked⟩
    rw [run, asked]
    simp [layoutHead, headFirstByte, modrmIndex, opcodeMap, opcodeByte,
      prefixedInstruction, form]

/-- The head stages look no further than the opcode byte. -/
theorem mem_decodeHead_asked
    {ip : Code} {index : ℕ} (member : index ∈ decodeHead.asked ip.get) :
    index ≤ opcodeIndex ip := by
  rw [(decodeHead_spec ip).2, List.mem_append, List.mem_range'_1] at member
  rw [opcodeIndex]
  rcases member with inHeader | inOpcode
  · have bounds := mem_decodeHeader_asked inHeader
    omega
  · omega

theorem opcodeIndex_mem_decodeHead_asked (ip : Code) :
    opcodeIndex ip ∈ decodeHead.asked ip.get := by
  rw [(decodeHead_spec ip).2, List.mem_append, List.mem_range'_1, opcodeIndex]
  omega

/-- The tables are consulted at the opcode byte of the map. -/
theorem needsModrm_withOpcode
    (inst : DecodedInstruction) (pos : ℕ) (first op : Byte) (map : OpcodeMap)
    (oneByte : map = .oneByte → first = op) :
    needsModrm
        { inst := withOpcode inst map op, pos, firstByte := first,
          opcodeMap := map } =
      map.takesModrm op := by
  cases map with
  | oneByte => simp [needsModrm, OpcodeMap.takesModrm, oneByte]
  | map0F => rfl
  | map0F38 | map0F3A => rfl

theorem isSimdOpcode_withOpcode
    (inst : DecodedInstruction) (pos : ℕ) (first op : Byte) (map : OpcodeMap) :
    isSimdOpcode
        { inst := withOpcode inst map op, pos, firstByte := first,
          opcodeMap := map } =
      map.isSimd op := by
  cases map <;> rfl

theorem headFirstByte_oneByte
    {ip : Code} (oneByte : opcodeMap ip = .oneByte) :
    headFirstByte ip = opcodeByte ip := by
  rw [headFirstByte, opcodeByte]
  cases form : opcodeForm ip <;> simp_all [opcodeMap]

theorem needsModrm_layoutHead (ip : Code) :
    needsModrm (layoutHead ip) =
      (opcodeMap ip).takesModrm (opcodeByte ip) :=
  needsModrm_withOpcode _ _ _ _ _ headFirstByte_oneByte

theorem isSimdOpcode_layoutHead (ip : Code) :
    isSimdOpcode (layoutHead ip) =
      (opcodeMap ip).isSimd (opcodeByte ip) :=
  isSimdOpcode_withOpcode _ _ _ _ _

end BadCpu
