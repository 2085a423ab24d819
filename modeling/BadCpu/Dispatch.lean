import BadCpu.EmulatorRuns
import BadCpu.InstructionLayout

/-!
# What one emulation does

The dispatcher is described by the opcode map and the opcode byte of the
stream, and one emulation by its only two outcomes: nothing happens, or one
handler commits a destination value, flags and a new instruction pointer.
Every later property of the emulator is derived from these two descriptions.
-/

namespace BadCpu

/-! ## Register numbers -/

/-- Extending a three-bit field by one bit stays below sixteen. -/
theorem extendField_le (field rex : Byte) (bit : ℕ) (narrow : field ≤ 7#8) :
    extendField field rex bit ≤ 15#8 := by
  have low : field.toNat < 2 ^ 4 := by
    have bound : field.toNat ≤ 7 := narrow
    omega
  have single : ((rex >>> bit) &&& 1#8).toNat ≤ 1 := by
    rw [BitVec.toNat_and]
    exact Nat.and_le_right
  have high : (((rex >>> bit) &&& 1#8) <<< 3).toNat < 2 ^ 4 := by
    rw [BitVec.toNat_shiftLeft, Nat.shiftLeft_eq]
    omega
  have union : (extendField field rex bit).toNat < 2 ^ 4 := by
    rw [extendField, BitVec.toNat_or]
    exact Nat.or_lt_two_pow low high
  have bound : (extendField field rex bit).toNat ≤ 15 := by omega
  exact bound

theorem decodeModrm_le (modrm : Byte) :
    (decodeModrm modrm).reg ≤ 7#8 ∧ (decodeModrm modrm).rm ≤ 7#8 := by
  decide +revert +kernel

theorem decodeSib_le (sib : Byte) :
    (decodeSib sib).index ≤ 7#8 ∧ (decodeSib sib).base ≤ 7#8 := by
  decide +revert +kernel

theorem sibIndexNumber_le (inst : DecodedInstruction) :
    sibIndexNumber inst ≤ 15#8 :=
  extendField_le _ inst.rex 1 (decodeSib_le inst.sib).1

theorem sibBaseNumber_le (inst : DecodedInstruction) :
    sibBaseNumber inst ≤ 15#8 :=
  extendField_le _ inst.rex 0 (decodeSib_le inst.sib).2

/-- The decoder only produces register numbers which exist. -/
theorem decode_registers_le (ip : Code) :
    (decodeInstruction ip).reg ≤ 15#8 ∧ (decodeInstruction ip).rm ≤ 15#8 := by
  cases present : modrmPresent ip with
  | true =>
      rcases decode_operands present with ⟨-, -, reg, rm, -⟩
      have fields := decodeModrm_le (ip.get (modrmIndex ip))
      rw [reg, rm]
      exact ⟨extendField_le _ _ _ fields.1, extendField_le _ _ _ fields.2⟩
  | false =>
      rcases decode_noOperands present with ⟨-, -, reg, rm, -⟩
      rw [reg, rm]
      decide

theorem exists_gregOf {reg : Byte} (bound : reg ≤ 15#8) :
    ∃ p, gregOf reg = some p :=
  Option.isSome_iff_exists.mp ((gregOf_isSome_iff reg).mpr bound)

theorem addressBaseCalls_le
    {inst : DecodedInstruction} (bound : inst.rm ≤ 15#8) {reg : Byte}
    (member : Call.getRegPtr reg ∈ addressBaseCalls inst) :
    reg ≤ 15#8 := by
  rw [addressBaseCalls] at member
  split_ifs at member with sib base index index absolute
  · simp at member
  · obtain rfl : reg = sibIndexNumber inst := by simpa using member
    exact sibIndexNumber_le inst
  · obtain rfl : reg = sibBaseNumber inst := by simpa using member
    exact sibBaseNumber_le inst
  · have either : reg = sibBaseNumber inst ∨ reg = sibIndexNumber inst := by
      simpa using member
    rcases either with rfl | rfl
    · exact sibBaseNumber_le inst
    · exact sibIndexNumber_le inst
  · simp at member
  · obtain rfl : reg = inst.rm := by simpa using member
    exact bound

/-- Address computations look up existing registers only. -/
theorem rmCalls_le
    {inst : DecodedInstruction} (bound : inst.rm ≤ 15#8) {reg : Byte}
    (member : Call.getRegPtr reg ∈ rmCalls inst) :
    reg ≤ 15#8 := by
  rw [rmCalls] at member
  split_ifs at member
  · obtain rfl : reg = inst.rm := by simpa using member
    exact bound
  · exact addressBaseCalls_le bound member

/-! ## The handler of an opcode -/

/-- The opcodes in the switch of `emulate_bmi`. -/
def isBmiOpcode (op : Byte) : Bool :=
  op == 0xF2#8 || op == 0xF3#8 || op == 0xF1#8 || op == 0xF4#8

/-- The dispatcher, by opcode map and opcode byte. -/
def mapHandler
    (map : OpcodeMap) (op : Byte) (isVex hasModrm hasF3 : Bool)
    (features : CpuFeatures) : Option Handler :=
  match map with
  | .map0F =>
      if op = 0xB8#8 ∧ hasModrm ∧ hasF3 ∧ ¬ features.hasPopcnt then
        some .popcnt
      else if op = 0xBC#8 ∧ hasF3 then some (.lzcntTzcnt false)
      else if op = 0xBD#8 ∧ hasF3 then some (.lzcntTzcnt true)
      else none
  | .map0F38 =>
      if isVex ∧ isBmiOpcode op then some (.bmi op)
      else if op = 0xF0#8 ∨ op = 0xF1#8 then some .movbe
      else if op = 0xF5#8 ∧ hasF3 then some (.lzcntTzcnt true)
      else none
  | .oneByte | .map0F3A => none

/-- The cascade of tests on the opcode array is a choice by opcode map. -/
theorem selectHandler_eq
    {inst : DecodedInstruction} {map : OpcodeMap} {op : Byte}
    (features : CpuFeatures) (opcode : inst.opcode = map.opcode op) :
    selectHandler inst features =
      mapHandler map op inst.isVex inst.hasModrm inst.hasF3 features := by
  cases map with
  | oneByte | map0F3A =>
      simp [selectHandler, selectVexHandler, selectLegacyHandler, opcode,
        mapHandler]
  | map0F =>
      simp [selectHandler, selectVexHandler, selectLegacyHandler, opcode,
        mapHandler]
  | map0F38 =>
      have vex :
          selectVexHandler inst =
            if inst.isVex ∧ isBmiOpcode op then some (.bmi op) else none := by
        simp [selectVexHandler, opcode, isBmiOpcode, or_assoc]
      have legacy :
          selectLegacyHandler inst features =
            if op = 0xF0#8 ∨ op = 0xF1#8 then some .movbe
            else if op = 0xF5#8 ∧ inst.hasF3 then some (.lzcntTzcnt true)
            else none := by
        simp [selectLegacyHandler, opcode]
      simp only [selectHandler, vex, legacy, mapHandler]
      by_cases bmi : inst.isVex ∧ isBmiOpcode op
      · simp only [if_pos bmi]
        rfl
      · simp only [if_neg bmi]
        rfl

/-- The handler selected for a stream. -/
def selectedHandler (ip : Code) (features : CpuFeatures) : Option Handler :=
  mapHandler (opcodeMap ip) (opcodeByte ip) (opcodeForm ip).isVex
    (modrmPresent ip) (prefixedInstruction ip).hasF3 features

theorem selectHandler_decode (ip : Code) (features : CpuFeatures) :
    selectHandler (decodeInstruction ip) features =
      selectedHandler ip features := by
  rw [selectHandler_eq features (decode_opcode ip), decode_isVex,
    decode_hasModrm, (decode_prefixes ip).2.2.2]
  rfl

/-- The condition under which a handler is selected. -/
def SelectedBy
    (map : OpcodeMap) (op : Byte) (isVex hasModrm hasF3 : Bool)
    (features : CpuFeatures) : Handler → Prop
  | .popcnt =>
      map = .map0F ∧ op = 0xB8#8 ∧ hasModrm = true ∧ hasF3 = true ∧
        features.hasPopcnt = false
  | .lzcntTzcnt false => map = .map0F ∧ op = 0xBC#8 ∧ hasF3 = true
  | .lzcntTzcnt true =>
      (map = .map0F ∧ op = 0xBD#8 ∨ map = .map0F38 ∧ op = 0xF5#8) ∧
        hasF3 = true
  | .movbe =>
      map = .map0F38 ∧ (op = 0xF0#8 ∨ op = 0xF1#8 ∧ isVex = false)
  | .bmi op3 =>
      map = .map0F38 ∧ op3 = op ∧ isBmiOpcode op = true ∧ isVex = true

theorem selectedBy_of_mapHandler
    {map : OpcodeMap} {op : Byte} {isVex hasModrm hasF3 : Bool}
    {features : CpuFeatures} {handler : Handler}
    (selected :
      mapHandler map op isVex hasModrm hasF3 features = some handler) :
    SelectedBy map op isVex hasModrm hasF3 features handler := by
  cases map with
  | oneByte | map0F3A => simp [mapHandler] at selected
  | map0F =>
      simp only [mapHandler] at selected
      split_ifs at selected with popcnt tzcnt lzcnt
      · obtain rfl : .popcnt = handler := by simpa using selected
        simpa [SelectedBy] using popcnt
      · obtain rfl : .lzcntTzcnt false = handler := by simpa using selected
        exact ⟨rfl, tzcnt⟩
      · obtain rfl : .lzcntTzcnt true = handler := by simpa using selected
        exact ⟨.inl ⟨rfl, lzcnt.1⟩, lzcnt.2⟩
  | map0F38 =>
      simp only [mapHandler] at selected
      split_ifs at selected with bmi movbe lzcnt
      · obtain rfl : .bmi op = handler := by simpa using selected
        exact ⟨rfl, rfl, bmi.2, bmi.1⟩
      · obtain rfl : .movbe = handler := by simpa using selected
        refine ⟨rfl, movbe.imp_right fun op => ⟨op, ?_⟩⟩
        subst op
        simpa [isBmiOpcode] using bmi
      · obtain rfl : .lzcntTzcnt true = handler := by simpa using selected
        exact ⟨.inr ⟨rfl, lzcnt.1⟩, lzcnt.2⟩

theorem mapHandler_of_selectedBy
    {map : OpcodeMap} {op : Byte} {isVex hasModrm hasF3 : Bool}
    {features : CpuFeatures} {handler : Handler}
    (shape : SelectedBy map op isVex hasModrm hasF3 features handler) :
    mapHandler map op isVex hasModrm hasF3 features = some handler := by
  cases handler with
  | popcnt =>
      rcases shape with ⟨rfl, rfl, rfl, rfl, popcnt⟩
      simp [mapHandler, popcnt]
  | movbe =>
      obtain ⟨rfl, rfl | ⟨rfl, rfl⟩⟩ := shape <;>
        simp [mapHandler, isBmiOpcode]
  | lzcntTzcnt isLzcnt =>
      cases isLzcnt with
      | false =>
          rcases shape with ⟨rfl, rfl, rfl⟩
          simp [mapHandler]
      | true =>
          obtain ⟨⟨rfl, rfl⟩ | ⟨rfl, rfl⟩, rfl⟩ := shape <;>
            simp [mapHandler, isBmiOpcode]
  | bmi op3 =>
      rcases shape with ⟨rfl, rfl, bmi, rfl⟩
      simp [mapHandler, bmi]

/-- A stream selects a handler exactly under the handler's condition. -/
theorem selectedHandler_eq_some_iff
    {ip : Code} {features : CpuFeatures} {handler : Handler} :
    selectedHandler ip features = some handler ↔
      SelectedBy (opcodeMap ip) (opcodeByte ip) (opcodeForm ip).isVex
        (modrmPresent ip) (prefixedInstruction ip).hasF3 features handler :=
  ⟨selectedBy_of_mapHandler, mapHandler_of_selectedBy⟩

/-- The handlers of the `0F` map ask for F3. -/
theorem selected_of_map0F
    {ip : Code} {features : CpuFeatures} {handler : Handler}
    (map : opcodeMap ip = .map0F)
    (selected : selectedHandler ip features = some handler) :
    (prefixedInstruction ip).hasF3 = true ∧
      (handler = .lzcntTzcnt false ∧ opcodeByte ip = 0xBC#8 ∨
        handler = .lzcntTzcnt true ∧ opcodeByte ip = 0xBD#8 ∨
        handler = .popcnt ∧ opcodeByte ip = 0xB8#8 ∧
          modrmPresent ip = true ∧ features.hasPopcnt = false) := by
  have shape := selectedHandler_eq_some_iff.mp selected
  cases handler with
  | popcnt =>
      rcases shape with ⟨-, opcode, present, flag, unsupported⟩
      exact ⟨flag, .inr (.inr ⟨rfl, opcode, present, unsupported⟩)⟩
  | lzcntTzcnt isLzcnt =>
      cases isLzcnt with
      | false => exact ⟨shape.2.2, .inl ⟨rfl, shape.2.1⟩⟩
      | true =>
          rcases shape with ⟨⟨-, opcode⟩ | ⟨other, -⟩, flag⟩
          · exact ⟨flag, .inr (.inl ⟨rfl, opcode⟩)⟩
          · exact absurd (map.symm.trans other) (by decide)
  | movbe | bmi => exact absurd (map.symm.trans shape.1) (by decide)

/-- The handlers of the `0F38` map, with and without VEX. -/
theorem selected_of_map0F38
    {ip : Code} {features : CpuFeatures} {handler : Handler}
    (map : opcodeMap ip = .map0F38)
    (selected : selectedHandler ip features = some handler) :
    handler = .movbe ∧
        (opcodeByte ip = 0xF0#8 ∨
          opcodeByte ip = 0xF1#8 ∧ (opcodeForm ip).isVex = false) ∨
      handler = .lzcntTzcnt true ∧ opcodeByte ip = 0xF5#8 ∧
        (prefixedInstruction ip).hasF3 = true ∨
      handler = .bmi (opcodeByte ip) ∧ isBmiOpcode (opcodeByte ip) = true ∧
        (opcodeForm ip).isVex = true := by
  have shape := selectedHandler_eq_some_iff.mp selected
  cases handler with
  | popcnt => exact absurd (map.symm.trans shape.1) (by decide)
  | movbe => exact .inl ⟨rfl, shape.2⟩
  | lzcntTzcnt isLzcnt =>
      cases isLzcnt with
      | false => exact absurd (map.symm.trans shape.1) (by decide)
      | true =>
          rcases shape with ⟨⟨other, -⟩ | ⟨-, opcode⟩, flag⟩
          · exact absurd (map.symm.trans other) (by decide)
          · exact .inr (.inl ⟨rfl, opcode, flag⟩)
  | bmi op3 =>
      rcases shape with ⟨-, rfl, supported, vex⟩
      exact .inr (.inr ⟨rfl, supported, vex⟩)

/-- The opcodes for which the dispatcher has a handler. -/
def OpcodeHandled (ip : Code) (features : CpuFeatures) : Prop :=
  match opcodeMap ip with
  | .map0F =>
      RepeatFlagged ip ∧
        (opcodeByte ip = 0xBC#8 ∨ opcodeByte ip = 0xBD#8 ∨
          opcodeByte ip = 0xB8#8 ∧ features.hasPopcnt = false ∧
            modrmIndex ip < 15)
  | .map0F38 =>
      opcodeByte ip = 0xF0#8 ∨ opcodeByte ip = 0xF1#8 ∨
        opcodeByte ip = 0xF5#8 ∧ RepeatFlagged ip ∨
        (opcodeForm ip).isVex = true ∧ isBmiOpcode (opcodeByte ip) = true
  | .oneByte | .map0F3A => False

theorem opcodeHandled_iff (ip : Code) (features : CpuFeatures) :
    OpcodeHandled ip features ↔
      ∃ handler, selectedHandler ip features = some handler := by
  have flag := hasF3_iff ip
  rw [← Option.isSome_iff_exists]
  simp only [OpcodeHandled, selectedHandler, mapHandler]
  cases map : opcodeMap ip with
  | oneByte | map0F3A => simp
  | map0F =>
      have present :
          opcodeByte ip = 0xB8#8 →
            (modrmPresent ip = true ↔ modrmIndex ip < 15) := by
        intro popcnt
        have takes : twoByteModrm 0xB8#8 = true := by decide
        simp [modrmPresent, map, popcnt, OpcodeMap.takesModrm, takes]
      rw [← flag]
      dsimp only
      split_ifs with popcnt tzcnt lzcnt
      · have room := (present popcnt.1).mp popcnt.2.1
        simp [popcnt, room]
      · simp [tzcnt]
      · simp [lzcnt]
      · simp only [Option.isSome_none, Bool.false_eq_true, iff_false]
        rintro ⟨repeated, tz | lz | ⟨pop, unsupported, room⟩⟩
        · exact tzcnt ⟨tz, repeated⟩
        · exact lzcnt ⟨lz, repeated⟩
        · exact popcnt
            ⟨pop, (present pop).mpr room, repeated, by simp [unsupported]⟩
  | map0F38 =>
      rw [← flag]
      dsimp only
      split_ifs with bmi movbe lzcnt
      · simp [bmi]
      · simp [← or_assoc, movbe]
      · simp [lzcnt]
      · simp only [Option.isSome_none, Bool.false_eq_true, iff_false]
        rintro (load | store | repeated | vex)
        · exact movbe (.inl load)
        · exact movbe (.inr store)
        · exact lzcnt repeated
        · exact bmi vex

/-! ## The layout of a selected instruction -/

/-- One-byte opcodes have no handler. -/
theorem escaped_of_selected
    {ip : Code} {features : CpuFeatures} {handler : Handler}
    (selected : selectedHandler ip features = some handler) :
    opcodeForm ip ≠ .oneByte := by
  intro oneByte
  simp [selectedHandler, opcodeMap, oneByte, mapHandler] at selected

/-- Every opcode with a handler takes a ModRM byte. -/
theorem takesModrm_of_selected
    {ip : Code} {features : CpuFeatures} {handler : Handler}
    (selected : selectedHandler ip features = some handler) :
    (opcodeMap ip).takesModrm (opcodeByte ip) = true := by
  have shape := selectedHandler_eq_some_iff.mp selected
  cases handler with
  | popcnt =>
      rw [shape.1, shape.2.1]
      decide
  | movbe =>
      rw [shape.1]
      rfl
  | lzcntTzcnt isLzcnt =>
      cases isLzcnt with
      | false =>
          rw [shape.1, shape.2.1]
          decide
      | true =>
          rcases shape with ⟨⟨map, opcode⟩ | ⟨map, -⟩, -⟩
          · rw [map, opcode]
            decide
          · rw [map]
            rfl
  | bmi op3 =>
      rw [shape.1]
      rfl

/-- A selected instruction lacks its ModRM byte only at the length limit. -/
theorem modrmPresent_of_selected
    {ip : Code} {features : CpuFeatures} {handler : Handler}
    (selected : selectedHandler ip features = some handler) :
    modrmPresent ip = decide (modrmIndex ip < 15) := by
  rw [modrmPresent, takesModrm_of_selected selected, Bool.true_and]

/-- Three bytes or more precede the ModRM byte of a selected instruction. -/
theorem three_le_modrmIndex
    {ip : Code} {features : CpuFeatures} {handler : Handler}
    (selected : selectedHandler ip features = some handler) :
    3 ≤ modrmIndex ip := by
  have escaped := escaped_of_selected selected
  cases form : opcodeForm ip with
  | oneByte => exact absurd form escaped
  | escape0F38 | escape0F3A | vex3 | vex2 =>
      simp [modrmIndex, form]
  | escape0F =>
      -- The escape is preceded by the F3 prefix which selects the handler.
      have map : opcodeMap ip = .map0F := by simp [opcodeMap, form]
      have flag := (selected_of_map0F map selected).1
      have recorded : 0xF3#8 ∈ recordedPrefixes ip := by
        simpa [prefixedInstruction, form, header] using flag
      have nonempty : 0 < (legacyPrefixes ip).length :=
        List.length_pos_of_mem (List.mem_of_mem_take recorded)
      simp [modrmIndex, form, headerEnd]
      omega

theorem four_le_decodedEnd
    {ip : Code} {features : CpuFeatures} {handler : Handler}
    (selected : selectedHandler ip features = some handler) :
    4 ≤ decodedEnd ip := by
  have before := three_le_modrmIndex selected
  have present := modrmPresent_of_selected selected
  rw [decodedEnd]
  split_ifs with found
  · have modrm := modrm_lt_operandEnd ip (modrmIndex ip)
    omega
  · have beyond : ¬ modrmIndex ip < 15 := by simpa [present] using found
    omega

/-! ## The effect of a handler -/

namespace Handler

/-- The value which a handler writes to its destination. -/
def value
    (zero : ZeroCounts) (inst : DecodedInstruction) (machine : Machine) :
    Handler → Word
  | .popcnt => popcntCount inst (rmValue inst machine.gregs)
  | .movbe =>
      movbeValue inst (regValue machine.gregs inst.reg)
        (movbeSource inst machine)
  | .lzcntTzcnt isLzcnt =>
      zeroCountValue zero inst isLzcnt (rmValue inst machine.gregs)
  | .bmi op3 =>
      truncateResult inst
        ((bmiOperation op3 (regValue machine.gregs inst.reg)
          (rmValue inst machine.gregs)).getD 0#64)

/-- The flags which a handler leaves. -/
def flags
    (zero : ZeroCounts) (inst : DecodedInstruction) (machine : Machine)
    (handler : Handler) : Word :=
  match handler with
  | .popcnt =>
      zeroFlags (machine.gregs .efl)
        (popcntCount inst (rmValue inst machine.gregs) == 0#64)
  | .movbe => machine.gregs .efl
  | .lzcntTzcnt _ =>
      zeroFlags (machine.gregs .efl) (rmValue inst machine.gregs == 0#64)
  | .bmi _ =>
      bmiFlags inst (machine.gregs .efl) (handler.value zero inst machine)

/-- The calls which a handler makes. -/
def calls (inst : DecodedInstruction) (machine : Machine) :
    Handler → List Call
  | .popcnt => rmCalls inst ++ [.getRegPtr inst.reg]
  | .movbe => movbeCalls inst machine
  | .lzcntTzcnt isLzcnt =>
      rmCalls inst ++
        zeroCountCalls inst isLzcnt (rmValue inst machine.gregs) ++
        [.getRegPtr inst.reg]
  | .bmi _ => .getRegPtr inst.reg :: rmCalls inst ++ [.getRegPtr inst.reg]

/-- The BMI handler is only selected for the four opcodes of its switch. -/
def Supported : Handler → Prop
  | .bmi op3 => isBmiOpcode op3 = true
  | _ => True

theorem bmiOperation_supported
    {op3 : Byte} (supported : (Handler.bmi op3).Supported)
    (src1 src2 : Word) :
    bmiOperation op3 src1 src2 =
      some ((bmiOperation op3 src1 src2).getD 0#64) := by
  have opcodes :
      ((op3 = 0xF2#8 ∨ op3 = 0xF3#8) ∨ op3 = 0xF1#8) ∨ op3 = 0xF4#8 := by
    simpa [Supported, isBmiOpcode] using supported
  rcases opcodes with ((rfl | rfl) | rfl) | rfl <;> rfl

/-- A handler with an existing destination commits its value and flags. -/
theorem run_eq
    (zero : ZeroCounts) {inst : DecodedInstruction} {handler : Handler}
    (supported : handler.Supported) {p : Greg}
    (valid : gregOf inst.reg = some p) (machine : Machine) :
    (handler.run zero inst).run { machine, calls := [] } =
      some (.success,
        { machine :=
            { machine with
              gregs :=
                commit machine.gregs inst p (handler.value zero inst machine)
                  (handler.flags zero inst machine) }
          calls := handler.calls inst machine }) := by
  have destination : regValue machine.gregs inst.reg = machine.gregs p := by
    simp only [regValue, valid]
  cases handler with
  | popcnt =>
      simp only [Handler.run, emulatePopcnt_run valid]
      rfl
  | movbe =>
      simp only [Handler.run, emulateMovbe_run valid, value, destination]
      rfl
  | lzcntTzcnt isLzcnt =>
      simp only [Handler.run, emulateLzcntTzcnt_run zero isLzcnt valid]
      rfl
  | bmi op3 =>
      simp only [Handler.run,
        emulateBmi_run valid { machine, calls := [] }
          (bmiOperation_supported supported _ _)]
      rfl

end Handler

/-! ## The two outcomes -/

/-- The machine after a handler has committed. -/
def Handler.commitMachine
    (zero : ZeroCounts) (inst : DecodedInstruction) (machine : Machine)
    (destination : Greg) (handler : Handler) : Machine :=
  { machine with
    gregs :=
      commit machine.gregs inst destination (handler.value zero inst machine)
        (handler.flags zero inst machine) }

namespace Handler

@[simp]
theorem commitMachine_rip
    (zero : ZeroCounts) (inst : DecodedInstruction) (machine : Machine)
    (destination : Greg) (handler : Handler) :
    (handler.commitMachine zero inst machine destination).gregs .rip =
      machine.gregs .rip + inst.len.setWidth 64 := by
  simp only [commitMachine, commit_rip]

@[simp]
theorem commitMachine_efl
    (zero : ZeroCounts) (inst : DecodedInstruction) (machine : Machine)
    (destination : Greg) (handler : Handler) :
    (handler.commitMachine zero inst machine destination).gregs .efl =
      handler.flags zero inst machine := by
  simp only [commitMachine, commit_efl]

theorem commitMachine_destination
    (zero : ZeroCounts) {inst : DecodedInstruction} (machine : Machine)
    {p : Greg} (valid : gregOf inst.reg = some p) (handler : Handler) :
    (handler.commitMachine zero inst machine p).gregs p =
      handler.value zero inst machine :=
  commit_destination valid _ _

theorem commitMachine_other
    (zero : ZeroCounts) (inst : DecodedInstruction) (machine : Machine)
    {destination greg : Greg} (handler : Handler) (notEfl : greg ≠ .efl)
    (notRip : greg ≠ .rip) (other : greg ≠ destination) :
    (handler.commitMachine zero inst machine destination).gregs greg =
      machine.gregs greg :=
  commit_other inst _ _ notEfl notRip other

end Handler

theorem selectedHandler_supported
    {ip : Code} {features : CpuFeatures} {handler : Handler}
    (selected : selectedHandler ip features = some handler) :
    handler.Supported := by
  have shape := selectedHandler_eq_some_iff.mp selected
  cases handler with
  | bmi op3 =>
      rcases shape with ⟨-, rfl, bmi, -⟩
      exact bmi
  | popcnt | movbe | lzcntTzcnt => trivial

/-- Without a handler nothing happens at all. -/
theorem emulate_none
    (zero : ZeroCounts) {ip : Code} {features : CpuFeatures}
    (machine : Machine) (none : selectedHandler ip features = none) :
    emulate zero ip features machine =
      some (.unrecognizedInstruction, { machine, calls := [] }) := by
  simp [emulate, emulateInstruction, dispatch, selectHandler_decode, none]

/-- A selected handler always succeeds and commits. -/
theorem emulate_some
    (zero : ZeroCounts) {ip : Code} {features : CpuFeatures}
    (machine : Machine) {handler : Handler}
    (selected : selectedHandler ip features = some handler) :
    ∃ p, gregOf (decodeInstruction ip).reg = some p ∧
      emulate zero ip features machine =
        some (.success,
          { machine :=
              handler.commitMachine zero (decodeInstruction ip) machine p
            calls := handler.calls (decodeInstruction ip) machine }) := by
  rcases exists_gregOf (decode_registers_le ip).1 with ⟨p, valid⟩
  refine ⟨p, valid, ?_⟩
  have run :=
    handler.run_eq zero (selectedHandler_supported selected) valid machine
  simp only [emulate, emulateInstruction, dispatch, selectHandler_decode,
    selected]
  exact run

/-- An emulation succeeds exactly when a handler is selected. -/
theorem emulate_success_iff
    (zero : ZeroCounts) (ip : Code) (features : CpuFeatures)
    (machine : Machine) :
    (∃ state, emulate zero ip features machine = some (.success, state)) ↔
      ∃ handler, selectedHandler ip features = some handler := by
  constructor
  · rintro ⟨state, success⟩
    cases selected : selectedHandler ip features with
    | none => simp [emulate_none zero machine selected] at success
    | some handler => exact ⟨handler, rfl⟩
  · rintro ⟨handler, selected⟩
    rcases emulate_some zero machine selected with ⟨p, -, run⟩
    exact ⟨_, run⟩

/-! ## The effect of an emulation -/

/-- Everything which a handler leaves behind. -/
structure Committed
    (zero : ZeroCounts) (inst : DecodedInstruction) (before : Machine)
    (handler : Handler) (after : EmuState) : Prop where
  destination :
    regValue after.machine.gregs inst.reg = handler.value zero inst before
  flags : after.machine.gregs .efl = handler.flags zero inst before
  rip :
    after.machine.gregs .rip = before.gregs .rip + inst.len.setWidth 64
  general :
    ∀ greg, greg ≠ .efl → greg ≠ .rip → gregOf inst.reg ≠ some greg →
      after.machine.gregs greg = before.gregs greg
  memory : after.machine.memory = before.memory
  calls : after.calls = handler.calls inst before

/-- A selected handler runs and commits. -/
theorem emulate_committed
    (zero : ZeroCounts) {ip : Code} {features : CpuFeatures}
    (machine : Machine) {handler : Handler}
    (selected : selectedHandler ip features = some handler) :
    ∃ state,
      emulate zero ip features machine = some (.success, state) ∧
        Committed zero (decodeInstruction ip) machine handler state := by
  rcases emulate_some zero machine selected with ⟨p, valid, run⟩
  refine ⟨_, run, ?_⟩
  constructor
  · rw [regValue, valid]
    exact Handler.commitMachine_destination zero machine valid handler
  · exact Handler.commitMachine_efl zero _ machine p handler
  · exact Handler.commitMachine_rip zero _ machine p handler
  · intro greg notEfl notRip notDestination
    have other : greg ≠ p := by
      rintro rfl
      exact notDestination valid
    exact Handler.commitMachine_other zero _ machine handler notEfl notRip other
  · rfl
  · rfl

/-- The end of a known run is the only one. -/
theorem exists_success_iff
    {zero : ZeroCounts} {ip : Code} {features : CpuFeatures}
    {machine : Machine} {after : EmuState}
    (run : emulate zero ip features machine = some (.success, after))
    (property : EmuState → Prop) :
    (∃ state,
      emulate zero ip features machine = some (.success, state) ∧
        property state) ↔
      property after := by
  constructor
  · rintro ⟨state, success, holds⟩
    rw [run, Option.some.injEq, Prod.mk.injEq] at success
    rcases success with ⟨-, rfl⟩
    exact holds
  · intro holds
    exact ⟨after, run, holds⟩

/-- Every successful emulation is that of a handler. -/
theorem committed_of_success
    {zero : ZeroCounts} {ip : Code} {features : CpuFeatures}
    {machine : Machine} {after : EmuState}
    (run : emulate zero ip features machine = some (.success, after)) :
    ∃ handler, Committed zero (decodeInstruction ip) machine handler after := by
  rcases (emulate_success_iff zero ip features machine).mp ⟨after, run⟩ with
    ⟨handler, selected⟩
  exact ⟨handler,
    (exists_success_iff run _).mp (emulate_committed zero machine selected)⟩

/-- Without a handler no emulation succeeds. -/
theorem not_success_of_none
    {zero : ZeroCounts} {ip : Code} {features : CpuFeatures}
    {machine : Machine} {state : EmuState}
    (none : selectedHandler ip features = none) :
    emulate zero ip features machine ≠ some (.success, state) := by
  rw [emulate_none zero machine none]
  simp

end BadCpu
