import BadCpu.Emulator

/-!
# Runs of the emulator

Every primitive, every address computation and every handler is described by
the state in which it ends.  The description of a handler needs one assumption
only, that the destination register exists.
-/

namespace BadCpu

open ByteMemory

/-! ## Primitives -/

/-- The state with further recorded calls. -/
def EmuState.record (state : EmuState) (calls : List Call) : EmuState :=
  { state with calls := state.calls ++ calls }

/-- The state with a register file in place of the old one. -/
def EmuState.withGregs (state : EmuState) (gregs : Greg → Word) : EmuState :=
  { state with machine := { state.machine with gregs } }

@[simp]
theorem EmuState.record_machine (state : EmuState) (calls : List Call) :
    (state.record calls).machine = state.machine :=
  rfl

@[simp]
theorem EmuState.record_record (state : EmuState) (first second : List Call) :
    (state.record first).record second = state.record (first ++ second) := by
  simp [EmuState.record]

@[simp]
theorem EmuState.withGregs_machine (state : EmuState) (gregs : Greg → Word) :
    (state.withGregs gregs).machine =
      { state.machine with gregs } :=
  rfl

@[simp]
theorem EmuState.withGregs_record
    (state : EmuState) (gregs : Greg → Word) (calls : List Call) :
    (state.withGregs gregs).record calls =
      (state.record calls).withGregs gregs :=
  rfl

@[simp]
theorem EmuState.withGregs_withGregs
    (state : EmuState) (first second : Greg → Word) :
    (state.withGregs first).withGregs second = state.withGregs second :=
  rfl

namespace Emu

@[simp]
theorem call_run (c : Call) (state : EmuState) :
    (call c).run state = some ((), state.record [c]) :=
  rfl

@[simp]
theorem readGreg_run (greg : Greg) (state : EmuState) :
    (readGreg greg).run state = some (state.machine.gregs greg, state) :=
  rfl

@[simp]
theorem writeGreg_run (greg : Greg) (value : Word) (state : EmuState) :
    (writeGreg greg value).run state =
      some ((),
        state.withGregs (Function.update state.machine.gregs greg value)) :=
  rfl

@[simp]
theorem memcpy_run (address : Word) (size : ℕ) (state : EmuState) :
    (memcpy address size).run state =
      some (load state.machine.memory address size,
        state.record [.memcpy address size]) :=
  rfl

@[simp]
theorem builtinClz_run
    (zero : ZeroCounts) (x : BitVec 32) (state : EmuState) :
    (builtinClz zero x).run state =
      some (if x = 0#32 then zero.clz else x.clz,
        state.record [.builtinClz x]) :=
  rfl

@[simp]
theorem builtinClzll_run
    (zero : ZeroCounts) (x : BitVec 64) (state : EmuState) :
    (builtinClzll zero x).run state =
      some (if x = 0#64 then zero.clzll else x.clz.setWidth 32,
        state.record [.builtinClzll x]) :=
  rfl

@[simp]
theorem builtinCtz_run
    (zero : ZeroCounts) (x : BitVec 32) (state : EmuState) :
    (builtinCtz zero x).run state =
      some (if x = 0#32 then zero.ctz else x.ctz,
        state.record [.builtinCtz x]) :=
  rfl

@[simp]
theorem builtinCtzll_run
    (zero : ZeroCounts) (x : BitVec 64) (state : EmuState) :
    (builtinCtzll zero x).run state =
      some (if x = 0#64 then zero.ctzll else x.ctz.setWidth 32,
        state.record [.builtinCtzll x]) :=
  rfl

end Emu

/-! ## Registers -/

/-- The value which `get_reg` returns. -/
def regValue (gregs : Greg → Word) (reg : Byte) : Word :=
  match gregOf reg with
  | some p => gregs p
  | none => 0#64

@[simp]
theorem getReg_run (reg : Byte) (state : EmuState) :
    (getReg reg).run state =
      some (regValue state.machine.gregs reg,
        state.record [.getRegPtr reg]) := by
  simp only [getReg, getRegPtr, StateT.run_bind, Emu.call_run,
    Option.bind_eq_bind, Option.bind_some, StateT.run_pure]
  rw [regValue]
  cases gregOf reg <;> rfl

theorem derefReg_run
    {reg : Byte} {p : Greg} (valid : gregOf reg = some p) (state : EmuState) :
    (derefReg reg).run state =
      some (state.machine.gregs p, state.record [.getRegPtr reg]) := by
  simp [derefReg, getRegPtr, valid]

theorem assignReg_run
    {reg : Byte} {p : Greg} (valid : gregOf reg = some p) (value : Word)
    (state : EmuState) :
    (assignReg reg value).run state =
      some ((),
        (state.record [.getRegPtr reg]).withGregs
          (Function.update state.machine.gregs p value)) := by
  simp [assignReg, getRegPtr, valid]

@[simp]
theorem advanceRip_run (inst : DecodedInstruction) (state : EmuState) :
    (advanceRip inst).run state =
      some ((),
        state.withGregs
          (Function.update state.machine.gregs .rip
            (state.machine.gregs .rip + inst.len.setWidth 64))) := by
  simp [advanceRip]

/-- A register number is valid exactly when it is below sixteen. -/
theorem gregOf_isSome_iff (reg : Byte) :
    (gregOf reg).isSome = true ↔ reg ≤ 15#8 := by
  decide +revert +kernel

/-- General registers are neither the flags nor the instruction pointer. -/
theorem gregOf_general
    {reg : Byte} {p : Greg} (valid : gregOf reg = some p) :
    p ≠ .efl ∧ p ≠ .rip := by
  decide +revert +kernel

/-! ## Operand addresses -/

/-- The value which `get_rm_value` starts from. -/
def addressBaseValue (inst : DecodedInstruction) (gregs : Greg → Word) :
    Word :=
  if inst.rm = 4#8 ∧ inst.hasSib then
    (if sibBaseNumber inst = 5#8 ∧ inst.modrm >>> 6 = 0#8 then
        inst.displacement.signExtend 64
      else regValue gregs (sibBaseNumber inst)) +
      ((if sibIndexNumber inst = 4#8 then 0#64
        else regValue gregs (sibIndexNumber inst)) <<<
          (decodeSib inst.sib).scale.toNat)
  else if inst.rm = 5#8 ∧ inst.modrm >>> 6 = 0#8 then
    inst.displacement.signExtend 64
  else
    regValue gregs inst.rm

/-- The registers which `get_rm_value` looks up for an address. -/
def addressBaseCalls (inst : DecodedInstruction) : List Call :=
  if inst.rm = 4#8 ∧ inst.hasSib then
    (if sibBaseNumber inst = 5#8 ∧ inst.modrm >>> 6 = 0#8 then []
      else [.getRegPtr (sibBaseNumber inst)]) ++
      (if sibIndexNumber inst = 4#8 then []
        else [.getRegPtr (sibIndexNumber inst)])
  else if inst.rm = 5#8 ∧ inst.modrm >>> 6 = 0#8 then []
  else [.getRegPtr inst.rm]

theorem addressBase_run (inst : DecodedInstruction) (state : EmuState) :
    (addressBase inst).run state =
      some (addressBaseValue inst state.machine.gregs,
        state.record (addressBaseCalls inst)) := by
  rw [addressBase, addressBaseValue, addressBaseCalls]
  split_ifs <;> simp [EmuState.record]

/-- The value of `get_rm_value`. -/
def rmValue (inst : DecodedInstruction) (gregs : Greg → Word) : Word :=
  if inst.modrm >>> 6 = 3#8 then regValue gregs inst.rm
  else if (decodeModrm inst.modrm).mod = 1#8 then
    addressBaseValue inst gregs +
      (inst.displacement.setWidth 8).signExtend 64
  else if (decodeModrm inst.modrm).mod = 2#8 then
    addressBaseValue inst gregs + inst.displacement.signExtend 64
  else addressBaseValue inst gregs

def rmCalls (inst : DecodedInstruction) : List Call :=
  if inst.modrm >>> 6 = 3#8 then [.getRegPtr inst.rm]
  else addressBaseCalls inst

@[simp]
theorem getRmValue_run (inst : DecodedInstruction) (state : EmuState) :
    (getRmValue inst).run state =
      some (rmValue inst state.machine.gregs,
        state.record (rmCalls inst)) := by
  rw [getRmValue, rmValue, rmCalls]
  split_ifs with register mod1 mod2
  · exact getReg_run inst.rm state
  all_goals
    simp only [StateT.run_bind, addressBase_run, Option.bind_eq_bind,
      Option.bind_some, mod1, if_true, if_false]
  · rfl
  · simp only [mod2, if_true]
    rfl
  · simp only [mod2, if_false]
    rfl

/-! ## Handlers -/

/--
The register file after a handler: the destination and the flags have new
values and the instruction pointer is behind the instruction.
-/
def commit
    (gregs : Greg → Word) (inst : DecodedInstruction) (destination : Greg)
    (value flags : Word) : Greg → Word :=
  Function.update
    (Function.update (Function.update gregs destination value) .efl flags)
    .rip (gregs .rip + inst.len.setWidth 64)

@[simp]
theorem commit_rip
    (gregs : Greg → Word) (inst : DecodedInstruction) (destination : Greg)
    (value flags : Word) :
    commit gregs inst destination value flags .rip =
      gregs .rip + inst.len.setWidth 64 := by
  simp [commit]

@[simp]
theorem commit_efl
    (gregs : Greg → Word) (inst : DecodedInstruction) (destination : Greg)
    (value flags : Word) :
    commit gregs inst destination value flags .efl = flags := by
  simp [commit]

theorem commit_destination
    {gregs : Greg → Word} {inst : DecodedInstruction} {p : Greg}
    (valid : gregOf inst.reg = some p) (value flags : Word) :
    commit gregs inst p value flags p = value := by
  rcases gregOf_general valid with ⟨notEfl, notRip⟩
  simp [commit, notEfl, notRip]

theorem commit_other
    {gregs : Greg → Word} (inst : DecodedInstruction) {destination greg : Greg}
    (value flags : Word) (notEfl : greg ≠ .efl) (notRip : greg ≠ .rip)
    (other : greg ≠ destination) :
    commit gregs inst destination value flags greg = gregs greg := by
  simp [commit, notEfl, notRip, other]

/-- The flags of POPCNT, LZCNT and TZCNT. -/
def zeroFlags (flags : Word) (isZero : Bool) : Word :=
  if isZero then (flags &&& ~~~statusMask) ||| 0x40#64
  else flags &&& ~~~statusMask

theorem emulatePopcnt_run
    {inst : DecodedInstruction} {p : Greg} (valid : gregOf inst.reg = some p)
    (state : EmuState) :
    (emulatePopcnt inst).run state =
      let gregs := state.machine.gregs
      let count := popcntCount inst (rmValue inst gregs)
      some (.success,
        (state.record (rmCalls inst ++ [.getRegPtr inst.reg])).withGregs
          (commit gregs inst p count
            (zeroFlags (gregs .efl) (count == 0#64)))) := by
  rcases gregOf_general valid with ⟨notEfl, notRip⟩
  simp [emulatePopcnt, assignReg_run valid, commit, zeroFlags, notEfl.symm,
    notRip.symm]

/-- The merge of a 16-bit value into a register. -/
def merge16 (old : Word) (value : BitVec 16) : Word :=
  (old &&& (~~~0xFFFF#32).setWidth 64) ||| value.setWidth 64

theorem assignReg16_run
    {reg : Byte} {p : Greg} (valid : gregOf reg = some p) (value : BitVec 16)
    (state : EmuState) :
    (assignReg16 reg value).run state =
      some ((),
        (state.record [.getRegPtr reg, .getRegPtr reg]).withGregs
          (Function.update state.machine.gregs p
            (merge16 (state.machine.gregs p) value))) := by
  simp [assignReg16, derefReg_run valid, assignReg_run valid, merge16]

/-- The operand width of a handler in bytes. -/
def widthInBytes (inst : DecodedInstruction) : ℕ :=
  if is64Bit inst then 8 else if inst.has66 then 2 else 4

/-- The destination value of MOVBE, for a source given at every width. -/
def movbeValue
    (inst : DecodedInstruction) (old : Word)
    (source : (n : ℕ) → BitVec (8 * n)) : Word :=
  if is64Bit inst then byteSwap 8 (source 8)
  else if inst.has66 then merge16 old (byteSwap 2 (source 2))
  else (byteSwap 4 (source 4) : BitVec 32).setWidth 64

/-- The source of MOVBE. -/
def movbeSource (inst : DecodedInstruction) (machine : Machine) (n : ℕ) :
    BitVec (8 * n) :=
  if inst.modrm >>> 6 = 3#8 then
    (regValue machine.gregs inst.rm).setWidth (8 * n)
  else
    load machine.memory (rmValue inst machine.gregs) n

def movbeCalls (inst : DecodedInstruction) (machine : Machine) : List Call :=
  rmCalls inst ++
    (if inst.modrm >>> 6 = 3#8 then [.getRegPtr inst.rm]
      else [.memcpy (rmValue inst machine.gregs) (widthInBytes inst)]) ++
    (if is64Bit inst = false ∧ inst.has66 = true then
      [.getRegPtr inst.reg, .getRegPtr inst.reg]
    else [.getRegPtr inst.reg])

theorem emulateMovbe_run
    {inst : DecodedInstruction} {p : Greg} (valid : gregOf inst.reg = some p)
    (state : EmuState) :
    (emulateMovbe inst).run state =
      let machine := state.machine
      some (.success,
        (state.record (movbeCalls inst machine)).withGregs
          (commit machine.gregs inst p
            (movbeValue inst (machine.gregs p) (movbeSource inst machine))
            (machine.gregs .efl))) := by
  rcases gregOf_general valid with ⟨notEfl, notRip⟩
  have flags (value : Word) :
      Function.update (Function.update state.machine.gregs p value) .efl
          (state.machine.gregs .efl) =
        Function.update state.machine.gregs p value := by
    rw [Function.update_eq_self_iff, Function.update_of_ne notEfl.symm]
  simp only [commit, flags]
  by_cases register : inst.modrm >>> 6 = 3#8
  · by_cases wide : is64Bit inst
    · simp [emulateMovbe, register, wide, assignReg_run valid, notRip.symm,
        movbeValue, movbeSource, movbeCalls]
    by_cases narrow : inst.has66
    · simp [emulateMovbe, register, wide, narrow, assignReg16_run valid,
        notRip.symm, movbeValue, movbeSource, movbeCalls]
    · simp [emulateMovbe, register, wide, narrow, assignReg_run valid,
        notRip.symm, movbeValue, movbeSource, movbeCalls]
  -- The width `8 * n` of a copied word must not be normalised away here.
  · by_cases wide : is64Bit inst
    · simp [-Nat.reduceMul, emulateMovbe, register, wide, assignReg_run valid,
        notRip.symm, movbeValue, movbeSource, movbeCalls, widthInBytes]
    by_cases narrow : inst.has66
    · simp [-Nat.reduceMul, emulateMovbe, register, wide, narrow,
        assignReg16_run valid, notRip.symm, movbeValue, movbeSource,
        movbeCalls, widthInBytes]
    · simp [-Nat.reduceMul, emulateMovbe, register, wide, narrow,
        assignReg_run valid, notRip.symm, movbeValue, movbeSource,
        movbeCalls, widthInBytes]

/-! ### Bit counts -/

/-- The result of LZCNT and TZCNT. -/
def zeroCountValue
    (zero : ZeroCounts) (inst : DecodedInstruction) (isLzcnt : Bool)
    (src : Word) : Word :=
  if src = 0#64 then operandWidth inst
  else if is64Bit inst then
    if isLzcnt then (src.clz.setWidth 32).signExtend 64
    else (src.ctz.setWidth 32).signExtend 64
  else
    let x : BitVec 32 :=
      if inst.has66 then (src.setWidth 16).setWidth 32 else src.setWidth 32
    let count : BitVec 32 :=
      if isLzcnt then (if x = 0#32 then zero.clz else x.clz)
      else (if x = 0#32 then zero.ctz else x.ctz)
    if isLzcnt ∧ inst.has66 then (count - 16#32).signExtend 64
    else count.signExtend 64

/-- The builtin which LZCNT and TZCNT call. -/
def zeroCountCalls
    (inst : DecodedInstruction) (isLzcnt : Bool) (src : Word) : List Call :=
  if src = 0#64 then []
  else if is64Bit inst then
    if isLzcnt then [.builtinClzll src] else [.builtinCtzll src]
  else
    let x : BitVec 32 :=
      if inst.has66 then (src.setWidth 16).setWidth 32 else src.setWidth 32
    if isLzcnt then [.builtinClz x] else [.builtinCtz x]

theorem zeroCount_run
    (zero : ZeroCounts) (inst : DecodedInstruction) (isLzcnt : Bool)
    (src : Word) (state : EmuState) :
    (zeroCount zero inst isLzcnt src).run state =
      some (zeroCountValue zero inst isLzcnt src,
        state.record (zeroCountCalls inst isLzcnt src)) := by
  rw [zeroCount, zeroCountValue, zeroCountCalls]
  by_cases empty : src = 0#64
  · simp [empty, EmuState.record]
  by_cases wide : is64Bit inst
  · cases isLzcnt <;> simp [empty, wide]
  by_cases narrow : inst.has66
  · cases isLzcnt <;> simp [empty, wide, narrow]
  · cases isLzcnt <;> simp [empty, wide, narrow]

theorem emulateLzcntTzcnt_run
    (zero : ZeroCounts) {inst : DecodedInstruction} (isLzcnt : Bool)
    {p : Greg} (valid : gregOf inst.reg = some p) (state : EmuState) :
    (emulateLzcntTzcnt zero inst isLzcnt).run state =
      let gregs := state.machine.gregs
      let src := rmValue inst gregs
      some (.success,
        (state.record
            (rmCalls inst ++ zeroCountCalls inst isLzcnt src ++
              [.getRegPtr inst.reg])).withGregs
          (commit gregs inst p (zeroCountValue zero inst isLzcnt src)
            (zeroFlags (gregs .efl) (src == 0#64)))) := by
  rcases gregOf_general valid with ⟨notEfl, notRip⟩
  have clear (flags : Word) :
      flags &&& ~~~0x8D1#64 &&& ~~~statusMask = flags &&& ~~~statusMask := by
    rw [BitVec.and_assoc]
    rfl
  have order (value flags : Word) :
      Function.update (Function.update state.machine.gregs .efl flags) p
          value =
        Function.update (Function.update state.machine.gregs p value) .efl
          flags :=
    Function.update_comm notEfl.symm _ _ _
  simp [-BitVec.reduceNot, emulateLzcntTzcnt, zeroCount_run,
    assignReg_run valid, commit, zeroFlags, clear, order, notRip.symm]

/-! ### BMI -/

/-- The flags of the BMI instructions. -/
def bmiFlags (inst : DecodedInstruction) (flags result : Word) : Word :=
  let flags := zeroFlags flags (result == 0#64)
  let sign := if is64Bit inst then 1#64 <<< 63 else 1#64 <<< 31
  if result &&& sign ≠ 0#64 then flags ||| 0x80#64 else flags

theorem emulateBmi_run
    {op3 : Byte} {inst : DecodedInstruction} {p : Greg}
    (valid : gregOf inst.reg = some p) (state : EmuState) {result : Word}
    (selected :
      bmiOperation op3 (regValue state.machine.gregs inst.reg)
          (rmValue inst state.machine.gregs) = some result) :
    (emulateBmi op3 inst).run state =
      let gregs := state.machine.gregs
      let written := truncateResult inst result
      some (.success,
        (state.record
            (.getRegPtr inst.reg :: rmCalls inst ++
              [.getRegPtr inst.reg])).withGregs
          (commit gregs inst p written
            (bmiFlags inst (gregs .efl) written))) := by
  rcases gregOf_general valid with ⟨notEfl, notRip⟩
  simp [emulateBmi, selected, assignReg_run valid, commit, bmiFlags,
    zeroFlags, notEfl.symm, notRip.symm]

end BadCpu
