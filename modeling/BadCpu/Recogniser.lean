import BadCpu.Dispatch

/-!
# Which streams are recognised

The streams which encode a supported instruction are described by their bytes
alone.  The dispatcher accepts more: it tests the opcode array and the prefix
flags, but neither the VEX bit behind them, nor VEX.L and VEX.pp, nor the form
of the operand.  The streams it misreads are listed exactly.
-/

namespace BadCpu

/-! ## Legacy forms of the opcode maps -/

/-- A legacy opcode of the `0F` map is written with the escape byte alone. -/
theorem opcodeForm_of_map0F
    {ip : Code} (legacy : (opcodeForm ip).isVex = false)
    (map : opcodeMap ip = .map0F) :
    opcodeForm ip = .escape0F := by
  rw [opcodeMap] at map
  cases form : opcodeForm ip <;> simp_all [OpcodeForm.isVex]

theorem opcodeForm_of_map0F38
    {ip : Code} (legacy : (opcodeForm ip).isVex = false)
    (map : opcodeMap ip = .map0F38) :
    opcodeForm ip = .escape0F38 := by
  rw [opcodeMap] at map
  cases form : opcodeForm ip <;> simp_all [OpcodeForm.isVex]

/-! ## Supported instructions -/

/-- The legacy encoding `F3 0F op`. -/
def RepeatEncoded (ip : Code) (op : Byte) : Prop :=
  opcodeForm ip = .escape0F ∧ opcodeByte ip = op ∧ 0xF3#8 ∈ legacyPrefixes ip

/-- A ModRM byte within the length limit has the given property. -/
def ModrmSatisfies (ip : Code) (shape : Byte → Prop) : Prop :=
  modrmIndex ip < 15 ∧ shape (ip.get (modrmIndex ip))

/-- The extension field of `VEX.0F38 F3` which selects BLSR, BLSMSK or BLSI. -/
def IsBlsExtension (modrm : Byte) : Prop :=
  1#8 ≤ (decodeModrm modrm).reg ∧ (decodeModrm modrm).reg ≤ 3#8

/-- The bytes at `ip` encode an instruction for which a handler is meant. -/
def Encodes (ip : Code) : Handler → Prop
  | .popcnt => RepeatEncoded ip 0xB8#8
  | .lzcntTzcnt false => RepeatEncoded ip 0xBC#8
  | .lzcntTzcnt true => RepeatEncoded ip 0xBD#8
  | .movbe =>
      opcodeForm ip = .escape0F38 ∧
        (opcodeByte ip = 0xF0#8 ∨ opcodeByte ip = 0xF1#8) ∧
        0xF2#8 ∉ legacyPrefixes ip ∧
        ModrmSatisfies ip (isMemoryForm · = true)
  | .bmi op3 =>
      (opcodeForm ip).isVex = true ∧ opcodeMap ip = .map0F38 ∧
        opcodeByte ip = op3 ∧ vexL ip = 0#8 ∧ vexPp ip = 0#8 ∧
        (op3 = 0xF2#8 ∨ op3 = 0xF3#8 ∧ ModrmSatisfies ip IsBlsExtension)

/--
An emulation succeeds only through the handler of the encoded instruction, and
everything else is unrecognised.
-/
structure RecogniserSound (ip : Code) (features : CpuFeatures) : Prop where
  handled :
    ∀ zero machine state,
      emulate zero ip features machine = some (.success, state) →
        ∃ handler,
          selectHandler (decodeInstruction ip) features = some handler ∧
            Encodes ip handler
  others :
    (∀ handler, ¬ Encodes ip handler) →
      ∀ zero machine, ∃ state,
        emulate zero ip features machine =
          some (.unrecognizedInstruction, state)

theorem recogniserSound_iff_selected (ip : Code) (features : CpuFeatures) :
    RecogniserSound ip features ↔
      ∀ handler, selectedHandler ip features = some handler →
        Encodes ip handler := by
  constructor
  · intro sound handler selected
    rcases
        (emulate_success_iff default ip features
          ⟨fun _ => 0#64, fun _ => 0#8⟩).mpr ⟨handler, selected⟩ with
      ⟨state, success⟩
    rcases sound.handled _ _ state success with ⟨ran, chosen, encoded⟩
    rw [selectHandler_decode, selected, Option.some.injEq] at chosen
    rw [chosen]
    exact encoded
  · intro encoded
    constructor
    · intro zero machine state success
      rcases
          (emulate_success_iff zero ip features machine).mp ⟨state, success⟩ with
        ⟨handler, selected⟩
      exact ⟨handler, (selectHandler_decode ip features).trans selected,
        encoded handler selected⟩
    · intro nothing zero machine
      cases selected : selectedHandler ip features with
      | none => exact ⟨_, emulate_none zero machine selected⟩
      | some handler =>
          exact absurd (encoded handler selected) (nothing handler)

/-! ## Misread streams -/

/-- VEX-encoded `0F B8`, `0F BC` and `0F BD` with an F3 flag. -/
def MisreadVex0F (ip : Code) (features : CpuFeatures) : Prop :=
  RepeatFlagged ip ∧
    (opcodeByte ip = 0xBC#8 ∨ opcodeByte ip = 0xBD#8 ∨
      opcodeByte ip = 0xB8#8 ∧ modrmIndex ip < 15 ∧
        features.hasPopcnt = false)

/--
VEX-encoded `0F38 F0`, `F1`, `F4` and repeated `F5`, and `F2` or `F3` in a form
which is not ANDN, BLSR, BLSMSK or BLSI.
-/
def MisreadVex0F38 (ip : Code) : Prop :=
  opcodeByte ip = 0xF0#8 ∨ opcodeByte ip = 0xF1#8 ∨ opcodeByte ip = 0xF4#8 ∨
    opcodeByte ip = 0xF5#8 ∧ RepeatFlagged ip ∨
    (opcodeByte ip = 0xF2#8 ∨ opcodeByte ip = 0xF3#8) ∧
      ¬ (vexL ip = 0#8 ∧ vexPp ip = 0#8) ∨
    opcodeByte ip = 0xF3#8 ∧ ¬ ModrmSatisfies ip IsBlsExtension

/-- Legacy `F3 0F38 F5`, CRC32, and `0F38 F0` or `F1` without a memory operand. -/
def MisreadLegacy0F38 (ip : Code) : Prop :=
  opcodeByte ip = 0xF5#8 ∧ 0xF3#8 ∈ recordedPrefixes ip ∨
    (opcodeByte ip = 0xF0#8 ∨ opcodeByte ip = 0xF1#8) ∧
      (0xF2#8 ∈ legacyPrefixes ip ∨
        ¬ ModrmSatisfies ip (isMemoryForm · = true))

/-- The streams which are emulated as an instruction they do not encode. -/
def Misread (ip : Code) (features : CpuFeatures) : Prop :=
  match opcodeMap ip, (opcodeForm ip).isVex with
  | .map0F, true => MisreadVex0F ip features
  | .map0F38, true => MisreadVex0F38 ip
  | .map0F38, false => MisreadLegacy0F38 ip
  | _, _ => False

/-! ### One opcode map at a time -/

/-- The handlers selected for a stream are the ones it encodes. -/
def SelectsEncoded (ip : Code) (features : CpuFeatures) : Prop :=
  ∀ handler, selectedHandler ip features = some handler → Encodes ip handler

theorem not_encodes_of_vex
    {ip : Code} (vex : (opcodeForm ip).isVex = true) {handler : Handler}
    (notBmi : ∀ op3, handler ≠ .bmi op3) :
    ¬ Encodes ip handler := by
  intro encoded
  have form : opcodeForm ip = .escape0F ∨ opcodeForm ip = .escape0F38 := by
    cases handler with
    | popcnt => exact .inl encoded.1
    | movbe => exact .inr encoded.1
    | lzcntTzcnt isLzcnt =>
        cases isLzcnt with
        | false => exact .inl encoded.1
        | true => exact .inl encoded.1
    | bmi op3 => exact absurd rfl (notBmi op3)
  rcases form with form | form <;> simp [form, OpcodeForm.isVex] at vex

theorem selectsEncoded_vex0F
    {ip : Code} (vex : (opcodeForm ip).isVex = true)
    (map : opcodeMap ip = .map0F) (features : CpuFeatures) :
    SelectsEncoded ip features ↔ ¬ MisreadVex0F ip features := by
  constructor
  · rintro encoded ⟨repeated, opcode⟩
    have flag := (hasF3_iff ip).mpr repeated
    rcases opcode with tzcnt | lzcnt | ⟨popcnt, room, unsupported⟩
    · refine not_encodes_of_vex vex (by simp) (encoded (.lzcntTzcnt false) ?_)
      exact selectedHandler_eq_some_iff.mpr ⟨map, tzcnt, flag⟩
    · refine not_encodes_of_vex vex (by simp) (encoded (.lzcntTzcnt true) ?_)
      exact selectedHandler_eq_some_iff.mpr ⟨.inl ⟨map, lzcnt⟩, flag⟩
    · refine not_encodes_of_vex vex (by simp) (encoded .popcnt ?_)
      have present : modrmPresent ip = true := by
        simp [modrmPresent, map, popcnt, room, OpcodeMap.takesModrm]
        decide
      exact selectedHandler_eq_some_iff.mpr
        ⟨map, popcnt, present, flag, unsupported⟩
  · intro read handler selected
    rcases selected_of_map0F map selected with ⟨flag, opcode⟩
    have repeated := (hasF3_iff ip).mp flag
    exfalso
    apply read
    rcases opcode with
      ⟨-, tzcnt⟩ | ⟨-, lzcnt⟩ | ⟨-, popcnt, present, unsupported⟩
    · exact ⟨repeated, .inl tzcnt⟩
    · exact ⟨repeated, .inr (.inl lzcnt)⟩
    · have room : modrmIndex ip < 15 := by
        simpa using (Bool.and_eq_true_iff.mp present).2
      exact ⟨repeated, .inr (.inr ⟨popcnt, room, unsupported⟩)⟩

/-- Legacy opcodes of the `0F` map are never misread. -/
theorem selectsEncoded_legacy0F
    {ip : Code} (legacy : (opcodeForm ip).isVex = false)
    (map : opcodeMap ip = .map0F) (features : CpuFeatures) :
    SelectsEncoded ip features := by
  intro handler selected
  have form := opcodeForm_of_map0F legacy map
  rcases selected_of_map0F map selected with ⟨flag, opcode⟩
  have repeated : 0xF3#8 ∈ legacyPrefixes ip := by
    rcases (hasF3_iff ip).mp flag with recorded | ⟨vex, -⟩
    · exact legacyPrefixes_of_recorded recorded
    · simp [legacy] at vex
  rcases opcode with ⟨rfl, tzcnt⟩ | ⟨rfl, lzcnt⟩ | ⟨rfl, popcnt, -⟩
  · exact ⟨form, tzcnt, repeated⟩
  · exact ⟨form, lzcnt, repeated⟩
  · exact ⟨form, popcnt, repeated⟩

theorem selectsEncoded_vex0F38
    {ip : Code} (vex : (opcodeForm ip).isVex = true)
    (map : opcodeMap ip = .map0F38) (features : CpuFeatures) :
    SelectsEncoded ip features ↔ ¬ MisreadVex0F38 ip := by
  have bmi {op3 : Byte} (opcode : opcodeByte ip = op3)
      (supported : isBmiOpcode op3 = true) :
      selectedHandler ip features = some (.bmi op3) := by
    subst opcode
    exact selectedHandler_eq_some_iff.mpr ⟨map, rfl, supported, vex⟩
  constructor
  · intro encoded misread
    rcases misread with movbe | blsmsk | blsr | ⟨lzcnt, repeated⟩ |
      ⟨opcode, fields⟩ | ⟨bls, extension⟩
    · refine not_encodes_of_vex vex (by simp) (encoded .movbe ?_)
      exact selectedHandler_eq_some_iff.mpr ⟨map, .inl movbe⟩
    · obtain ⟨-, -, -, -, -, other | ⟨other, -⟩⟩ :=
        encoded _ (bmi blsmsk (by decide))
      · exact absurd other (by decide)
      · exact absurd other (by decide)
    · obtain ⟨-, -, -, -, -, other | ⟨other, -⟩⟩ :=
        encoded _ (bmi blsr (by decide))
      · exact absurd other (by decide)
      · exact absurd other (by decide)
    · refine not_encodes_of_vex vex (by simp) (encoded (.lzcntTzcnt true) ?_)
      exact selectedHandler_eq_some_iff.mpr
        ⟨.inr ⟨map, lzcnt⟩, (hasF3_iff ip).mpr repeated⟩
    · rcases opcode with andn | bls
      · rcases encoded _ (bmi andn (by decide)) with ⟨-, -, -, length, pp, -⟩
        exact fields ⟨length, pp⟩
      · rcases encoded _ (bmi bls (by decide)) with ⟨-, -, -, length, pp, -⟩
        exact fields ⟨length, pp⟩
    · obtain ⟨-, -, -, -, -, other | ⟨-, within⟩⟩ :=
        encoded _ (bmi bls (by decide))
      · exact absurd other (by decide)
      · exact extension within
  · intro read handler selected
    rcases selected_of_map0F38 map selected with
      ⟨-, movbe | ⟨-, legacy⟩⟩ | ⟨-, lzcnt, flag⟩ | ⟨rfl, supported, -⟩
    · exact absurd (.inl movbe) read
    · simp [vex] at legacy
    · have repeated := (hasF3_iff ip).mp flag
      exact absurd (.inr (.inr (.inr (.inl ⟨lzcnt, repeated⟩)))) read
    · simp only [MisreadVex0F38, not_or] at read
      rcases read with ⟨-, notBlsmsk, notBlsr, -, fields, extension⟩
      have opcode : opcodeByte ip = 0xF2#8 ∨ opcodeByte ip = 0xF3#8 := by
        simpa [isBmiOpcode, notBlsmsk, notBlsr] using supported
      have zeroFields : vexL ip = 0#8 ∧ vexPp ip = 0#8 :=
        not_not.mp fun nonzero => fields ⟨opcode, nonzero⟩
      refine ⟨vex, map, rfl, zeroFields.1, zeroFields.2, ?_⟩
      exact opcode.imp_right fun bls =>
        ⟨bls, not_not.mp fun outside => extension ⟨bls, outside⟩⟩

theorem selectsEncoded_legacy0F38
    {ip : Code} (legacy : (opcodeForm ip).isVex = false)
    (map : opcodeMap ip = .map0F38) (features : CpuFeatures) :
    SelectsEncoded ip features ↔ ¬ MisreadLegacy0F38 ip := by
  have form := opcodeForm_of_map0F38 legacy map
  have flag_iff :
      (prefixedInstruction ip).hasF3 = true ↔
        0xF3#8 ∈ recordedPrefixes ip := by
    simp [hasF3_iff, RepeatFlagged, legacy]
  constructor
  · rintro encoded (⟨lzcnt, recorded⟩ | ⟨opcode, wrong⟩)
    · rcases encoded (.lzcntTzcnt true)
        (selectedHandler_eq_some_iff.mpr
          ⟨.inr ⟨map, lzcnt⟩, flag_iff.mpr recorded⟩) with
        ⟨other, -⟩
      simp [form] at other
    · rcases encoded .movbe
        (selectedHandler_eq_some_iff.mpr
          ⟨map, opcode.imp_right fun op => ⟨op, legacy⟩⟩) with
        ⟨-, -, notCrc, memory⟩
      rcases wrong with crc | notMemory
      · exact notCrc crc
      · exact notMemory memory
  · intro read handler selected
    rcases selected_of_map0F38 map selected with
      ⟨rfl, movbe⟩ | ⟨-, lzcnt, flag⟩ | ⟨-, -, vex⟩
    · have opcode : opcodeByte ip = 0xF0#8 ∨ opcodeByte ip = 0xF1#8 :=
        movbe.imp_right And.left
      refine ⟨form, opcode, fun crc => ?_, not_not.mp fun notMemory => ?_⟩
      · exact read (.inr ⟨opcode, .inl crc⟩)
      · exact read (.inr ⟨opcode, .inr notMemory⟩)
    · exact absurd (.inl ⟨lzcnt, flag_iff.mp flag⟩) read
    · exact absurd (legacy.symm.trans vex) (by decide)

/-- The other maps select no handler. -/
theorem selectsEncoded_other
    {ip : Code} (features : CpuFeatures)
    (other : opcodeMap ip = .oneByte ∨ opcodeMap ip = .map0F3A) :
    SelectsEncoded ip features := by
  intro handler selected
  rcases other with map | map <;>
    simp [selectedHandler, mapHandler, map] at selected

/-- The recogniser is sound exactly on the streams which are not misread. -/
theorem recogniserSound_iff (ip : Code) (features : CpuFeatures) :
    RecogniserSound ip features ↔ ¬ Misread ip features := by
  rw [recogniserSound_iff_selected]
  change SelectsEncoded ip features ↔ _
  rw [Misread]
  cases map : opcodeMap ip with
  | oneByte => simp [selectsEncoded_other features (.inl map)]
  | map0F3A => simp [selectsEncoded_other features (.inr map)]
  | map0F =>
      cases vex : (opcodeForm ip).isVex with
      | true => exact selectsEncoded_vex0F vex map features
      | false => simp [selectsEncoded_legacy0F vex map features]
  | map0F38 =>
      cases vex : (opcodeForm ip).isVex with
      | true => exact selectsEncoded_vex0F38 vex map features
      | false => exact selectsEncoded_legacy0F38 vex map features

/-- `F2 0F 38 F0 C1` is CRC32, and it is emulated as MOVBE. -/
theorem crc32_misread :
    ¬ RecogniserSound
      (codeOfBytes [0xF2#8, 0x0F#8, 0x38#8, 0xF0#8, 0xC1#8]) {} := by
  rw [recogniserSound_iff_selected]
  intro encoded
  have selected :
      selectedHandler
          (codeOfBytes [0xF2#8, 0x0F#8, 0x38#8, 0xF0#8, 0xC1#8]) {} =
        some .movbe := by
    decide
  rcases encoded .movbe selected with ⟨-, -, notCrc, -⟩
  exact notCrc (by decide)

end BadCpu
