import BadCpu.Dispatch

/-!
# The frame of an emulation

Whatever the stream and the machine, an emulation either leaves the whole
machine alone, or changes one general register, the status flags and the
instruction pointer.  Every register number it looks up exists, so no null
pointer is dereferenced.
-/

namespace BadCpu

/-! ## Flags outside a mask -/

/-- Setting bits inside a mask is invisible outside of it. -/
theorem or_and_not_of_subset
    {width : ℕ} {flags bits mask : BitVec width}
    (inside : bits &&& ~~~mask = 0#(width)) :
    (flags ||| bits) &&& ~~~mask = flags &&& ~~~mask := by
  rw [BitVec.and_or_distrib_right, inside, BitVec.or_zero]

theorem zeroFlags_outside (flags : Word) (isZero : Bool) :
    zeroFlags flags isZero &&& ~~~statusMask = flags &&& ~~~statusMask := by
  rw [zeroFlags]
  split_ifs
  · rw [or_and_not_of_subset (by decide), BitVec.and_assoc, BitVec.and_self]
  · rw [BitVec.and_assoc, BitVec.and_self]

theorem bmiFlags_outside
    (inst : DecodedInstruction) (flags result : Word) :
    bmiFlags inst flags result &&& ~~~statusMask =
      flags &&& ~~~statusMask := by
  have zero := zeroFlags_outside flags (result == 0#64)
  simp only [bmiFlags]
  split_ifs
  · rw [or_and_not_of_subset (by decide), zero]
  · exact zero
  · rw [or_and_not_of_subset (by decide), zero]
  · exact zero

/-- Every handler leaves the flags outside the status mask alone. -/
theorem Handler.flags_outside
    (zero : ZeroCounts) (inst : DecodedInstruction) (machine : Machine)
    (handler : Handler) :
    handler.flags zero inst machine &&& ~~~statusMask =
      machine.gregs .efl &&& ~~~statusMask := by
  cases handler with
  | popcnt => exact zeroFlags_outside _ _
  | movbe => rfl
  | lzcntTzcnt isLzcnt => exact zeroFlags_outside _ _
  | bmi op3 => exact bmiFlags_outside _ _ _

/-! ## Register lookups -/

theorem movbeCalls_le
    {inst : DecodedInstruction} (regBound : inst.reg ≤ 15#8)
    (rmBound : inst.rm ≤ 15#8) (machine : Machine) {reg : Byte}
    (member : Call.getRegPtr reg ∈ movbeCalls inst machine) :
    reg ≤ 15#8 := by
  rw [movbeCalls] at member
  rw [List.mem_append, List.mem_append] at member
  rcases member with (address | source) | destination
  · exact rmCalls_le rmBound address
  · split_ifs at source
    · obtain rfl : reg = inst.rm := by simpa using source
      exact rmBound
    · simp at source
  · have destination : reg = inst.reg := by
      split_ifs at destination <;> simpa using destination
    rw [destination]
    exact regBound

theorem not_mem_zeroCountCalls
    (inst : DecodedInstruction) (isLzcnt : Bool) (src : Word) (reg : Byte) :
    Call.getRegPtr reg ∉ zeroCountCalls inst isLzcnt src := by
  rw [zeroCountCalls]
  split_ifs <;> simp

/-- Every handler looks up existing registers only. -/
theorem Handler.calls_le
    {inst : DecodedInstruction} (regBound : inst.reg ≤ 15#8)
    (rmBound : inst.rm ≤ 15#8) {machine : Machine} {handler : Handler}
    {reg : Byte}
    (member : Call.getRegPtr reg ∈ handler.calls inst machine) :
    reg ≤ 15#8 := by
  cases handler with
  | popcnt =>
      simp only [Handler.calls, List.mem_append, List.mem_singleton,
        Call.getRegPtr.injEq] at member
      rcases member with address | rfl
      · exact rmCalls_le rmBound address
      · exact regBound
  | movbe => exact movbeCalls_le regBound rmBound machine member
  | lzcntTzcnt isLzcnt =>
      simp only [Handler.calls, List.mem_append, List.mem_singleton,
        Call.getRegPtr.injEq, not_mem_zeroCountCalls, or_false] at member
      rcases member with address | rfl
      · exact rmCalls_le rmBound address
      · exact regBound
  | bmi op3 =>
      simp only [Handler.calls, List.cons_append, List.mem_cons,
        List.mem_append, Call.getRegPtr.injEq, List.not_mem_nil,
        or_false] at member
      rcases member with rfl | address | rfl
      · exact regBound
      · exact rmCalls_le rmBound address
      · exact regBound

/-! ## The frame -/

/-- What a successful emulation may change. -/
structure CommitFrame
    (inst : DecodedInstruction) (features : CpuFeatures)
    (before after : Machine) : Prop where
  rip : after.gregs .rip = before.gregs .rip + inst.len.setWidth 64
  len : 4 ≤ inst.len.toNat
  general :
    ∀ greg, greg ≠ .efl → greg ≠ .rip → gregOf inst.reg ≠ some greg →
      after.gregs greg = before.gregs greg
  flags :
    after.gregs .efl &&& ~~~0x8D5#64 = before.gregs .efl &&& ~~~0x8D5#64
  movbeFlags :
    selectHandler inst features = some .movbe →
      after.gregs .efl = before.gregs .efl
  memory :
    inst.opcode ≠ opcodeArray 0x0F#8 0x38#8 0xF1#8 →
      after.memory = before.memory

/-- The register numbers of an instruction exist. -/
structure RegistersExist (inst : DecodedInstruction) : Prop where
  reg : inst.reg ≤ 15#8
  rm : inst.rm ≤ 15#8
  sibIndex : sibIndexNumber inst ≤ 15#8
  sibBase : sibBaseNumber inst ≤ 15#8

/-- An emulation is atomic and keeps its frame. -/
structure Framed
    (ip : Code) (features : CpuFeatures) (machine : Machine)
    (result : EmulationResult) (state : EmuState) : Prop where
  atomic : result ≠ .success → state.machine = machine
  commits :
    result = .success →
      CommitFrame (decodeInstruction ip) features machine state.machine
  registers : RegistersExist (decodeInstruction ip)
  lookups : ∀ reg, Call.getRegPtr reg ∈ state.calls → reg ≤ 15#8

theorem registersExist_decode (ip : Code) :
    RegistersExist (decodeInstruction ip) where
  reg := (decode_registers_le ip).1
  rm := (decode_registers_le ip).2
  sibIndex := sibIndexNumber_le _
  sibBase := sibBaseNumber_le _

/-- The commit of a selected handler stays within the frame. -/
theorem commitFrame_of_committed
    {zero : ZeroCounts} {ip : Code} {features : CpuFeatures}
    {machine : Machine} {handler : Handler} {after : EmuState}
    (selected : selectedHandler ip features = some handler)
    (committed :
      Committed zero (decodeInstruction ip) machine handler after) :
    CommitFrame (decodeInstruction ip) features machine after.machine where
  rip := committed.rip
  len := by
    rw [decode_len]
    exact four_le_decodedEnd selected
  general := committed.general
  flags := by
    rw [committed.flags]
    exact handler.flags_outside zero (decodeInstruction ip) machine
  movbeFlags := by
    intro movbe
    rw [selectHandler_decode, selected, Option.some.injEq] at movbe
    subst movbe
    exact committed.flags
  memory := fun _ => committed.memory

/--
Every emulation ends without a null dereference, leaves the machine alone
unless it succeeds, and keeps its frame if it succeeds.
-/
theorem emulate_framed
    (zero : ZeroCounts) (ip : Code) (features : CpuFeatures)
    (machine : Machine) :
    ∃ result state,
      emulate zero ip features machine = some (result, state) ∧
        Framed ip features machine result state := by
  cases selected : selectedHandler ip features with
  | none =>
      refine ⟨_, _, emulate_none zero machine selected, ?_⟩
      exact
        { atomic := fun _ => rfl
          commits := fun success => by simp at success
          registers := registersExist_decode ip
          lookups := fun reg member => by simp at member }
  | some handler =>
      rcases emulate_committed zero machine selected with
        ⟨state, run, committed⟩
      have registers := registersExist_decode ip
      refine ⟨_, _, run, ?_⟩
      constructor
      case atomic => exact fun failed => absurd rfl failed
      case commits =>
        exact fun _ => commitFrame_of_committed selected committed
      case registers => exact registers
      case lookups =>
        intro reg member
        rw [committed.calls] at member
        exact Handler.calls_le registers.reg registers.rm member

end BadCpu
