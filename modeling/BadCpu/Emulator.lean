import BadCpu.ByteMemory
import BadCpu.Decoder

/-!
# The instruction emulator

The handlers of `emulator.cpp` and their dispatcher.  A handler acts on the
registers of the signal context and on data memory.  Dereferencing the null
result of `get_reg_ptr` ends the run.  Besides the machine the state carries
the calls whose arguments matter: the register numbers handed to
`get_reg_ptr`, the memory ranges copied and the arguments of the counting
builtins.
-/

namespace BadCpu

open ByteMemory

/-! ## Registers and memory -/

/-- The entries of `uc_mcontext.gregs` which the emulator uses. -/
inductive Greg where
  | rax | rcx | rdx | rbx | rsp | rbp | rsi | rdi
  | r8 | r9 | r10 | r11 | r12 | r13 | r14 | r15
  | efl | rip
  deriving DecidableEq, Repr

/-- The signal context and the data memory. -/
structure Machine where
  gregs : Greg → Word
  memory : Word → Byte

/-- The calls recorded by a run. -/
inductive Call where
  | getRegPtr (reg : Byte)
  | memcpy (address : Word) (size : ℕ)
  | builtinClz (x : BitVec 32)
  | builtinClzll (x : BitVec 64)
  | builtinCtz (x : BitVec 32)
  | builtinCtzll (x : BitVec 64)
  deriving DecidableEq, Repr

structure EmuState where
  machine : Machine
  calls : List Call

/-- A step of the emulator; `none` is the dereference of a null pointer. -/
abbrev Emu (α : Type) := StateT EmuState Option α

/--
The values which the counting builtins return for a zero argument, where their
result is undefined.
-/
structure ZeroCounts where
  clz : BitVec 32
  clzll : BitVec 32
  ctz : BitVec 32
  ctzll : BitVec 32

/-- Builtins which return zero, where any others would do. -/
instance : Inhabited ZeroCounts :=
  ⟨⟨0#32, 0#32, 0#32, 0#32⟩⟩

namespace Emu

def call (c : Call) : Emu Unit :=
  modify fun state => { state with calls := state.calls ++ [c] }

def readGreg (greg : Greg) : Emu Word := do
  return (← get).machine.gregs greg

def writeGreg (greg : Greg) (value : Word) : Emu Unit :=
  modify fun state =>
    { state with
      machine := { state.machine with
        gregs := Function.update state.machine.gregs greg value } }

/-- Copy `size` bytes at an address into a local variable. -/
def memcpy (address : Word) (size : ℕ) : Emu (BitVec (8 * size)) := do
  call (.memcpy address size)
  return load (← get).machine.memory address size

def builtinClz (zero : ZeroCounts) (x : BitVec 32) : Emu (BitVec 32) := do
  call (.builtinClz x)
  return if x = 0#32 then zero.clz else x.clz

def builtinClzll (zero : ZeroCounts) (x : BitVec 64) : Emu (BitVec 32) := do
  call (.builtinClzll x)
  return if x = 0#64 then zero.clzll else x.clz.setWidth 32

def builtinCtz (zero : ZeroCounts) (x : BitVec 32) : Emu (BitVec 32) := do
  call (.builtinCtz x)
  return if x = 0#32 then zero.ctz else x.ctz

def builtinCtzll (zero : ZeroCounts) (x : BitVec 64) : Emu (BitVec 32) := do
  call (.builtinCtzll x)
  return if x = 0#64 then zero.ctzll else x.ctz.setWidth 32

end Emu

/-! ## Register access -/

/-- The switch of `get_reg_ptr`. -/
def gregOf (reg : Byte) : Option Greg :=
  match reg.toNat with
  | 0 => some .rax
  | 1 => some .rcx
  | 2 => some .rdx
  | 3 => some .rbx
  | 4 => some .rsp
  | 5 => some .rbp
  | 6 => some .rsi
  | 7 => some .rdi
  | 8 => some .r8
  | 9 => some .r9
  | 10 => some .r10
  | 11 => some .r11
  | 12 => some .r12
  | 13 => some .r13
  | 14 => some .r14
  | 15 => some .r15
  | _ => none

def getRegPtr (reg : Byte) : Emu (Option Greg) := do
  Emu.call (.getRegPtr reg)
  return gregOf reg

def getReg (reg : Byte) : Emu Word := do
  match ← getRegPtr reg with
  | some p => Emu.readGreg p
  | none => return 0#64

/-- The expression `*get_reg_ptr(ctx, reg)`. -/
def derefReg (reg : Byte) : Emu Word := do
  match ← getRegPtr reg with
  | some p => Emu.readGreg p
  | none => failure

/-- The assignment `*get_reg_ptr(ctx, reg) = value`. -/
def assignReg (reg : Byte) (value : Word) : Emu Unit := do
  match ← getRegPtr reg with
  | some p => Emu.writeGreg p value
  | none => failure

/-- The assignment `gregs[REG_RIP] += inst.len`. -/
def advanceRip (inst : DecodedInstruction) : Emu Unit := do
  let rip ← Emu.readGreg .rip
  Emu.writeGreg .rip (rip + inst.len.setWidth 64)

/-! ## Operand addresses -/

/-- The SIB index number, extended by REX.X. -/
def sibIndexNumber (inst : DecodedInstruction) : Byte :=
  (decodeSib inst.sib).index ||| (((inst.rex >>> 1) &&& 1#8) <<< 3)

/-- The SIB base number, extended by REX.B. -/
def sibBaseNumber (inst : DecodedInstruction) : Byte :=
  (decodeSib inst.sib).base ||| (((inst.rex >>> 0) &&& 1#8) <<< 3)

/-- The part of an address before the displacement of `mod` 1 and 2 is added. -/
def addressBase (inst : DecodedInstruction) : Emu Word :=
  if inst.rm = 4#8 ∧ inst.hasSib then do
    let baseVal ←
      if sibBaseNumber inst = 5#8 ∧ inst.modrm >>> 6 = 0#8 then
        pure (inst.displacement.signExtend 64)
      else getReg (sibBaseNumber inst)
    let indexVal ←
      if sibIndexNumber inst = 4#8 then pure 0#64
      else getReg (sibIndexNumber inst)
    return baseVal + (indexVal <<< (decodeSib inst.sib).scale.toNat)
  else if inst.rm = 5#8 ∧ inst.modrm >>> 6 = 0#8 then
    pure (inst.displacement.signExtend 64)
  else
    getReg inst.rm

/-- The register value for `mod` 3, the effective address otherwise. -/
def getRmValue (inst : DecodedInstruction) : Emu Word :=
  if inst.modrm >>> 6 = 3#8 then
    getReg inst.rm
  else do
    let addr ← addressBase inst
    let mod := (decodeModrm inst.modrm).mod
    if mod = 1#8 then
      return addr + (inst.displacement.setWidth 8).signExtend 64
    else if mod = 2#8 then
      return addr + inst.displacement.signExtend 64
    else
      return addr

/-! ## Handlers -/

/-- The local variable `is_64bit` of every handler. -/
def is64Bit (inst : DecodedInstruction) : Bool :=
  inst.rex &&& 0x08#8 != 0#8 && !inst.has66

/-- The mask of CF, PF, AF, ZF, SF and OF. -/
def statusMask : Word := 0x8D5#64

/-- `__builtin_popcount` of the operand at its width. -/
def popcntCount (inst : DecodedInstruction) (src : Word) : Word :=
  if inst.has66 then (src.setWidth 16).cpop.setWidth 64
  else if is64Bit inst then src.cpop
  else (src.setWidth 32).cpop.setWidth 64

def emulatePopcnt (inst : DecodedInstruction) : Emu EmulationResult := do
  let src ← getRmValue inst
  let count := popcntCount inst src
  assignReg inst.reg count
  let flags ← Emu.readGreg .efl
  let flags := flags &&& ~~~statusMask
  Emu.writeGreg .efl (if count = 0#64 then flags ||| 0x40#64 else flags)
  advanceRip inst
  return .success

/-- The merge `(*get_reg_ptr(ctx, reg) & ~0xFFFFu) | value` of 16-bit writes. -/
def assignReg16 (reg : Byte) (value : BitVec 16) : Emu Unit := do
  let old ← derefReg reg
  -- The mask is computed in 32 bits and zero-extended.
  assignReg reg
    ((old &&& (~~~0xFFFF#32).setWidth 64) ||| value.setWidth 64)

def emulateMovbe (inst : DecodedInstruction) : Emu EmulationResult := do
  let addr ← getRmValue inst
  if inst.modrm >>> 6 = 3#8 then do
    let val ← getReg inst.rm
    if is64Bit inst then
      assignReg inst.reg (byteSwap 8 val)
    else if inst.has66 then
      assignReg16 inst.reg (byteSwap 2 (val.setWidth 16))
    else
      assignReg inst.reg
        ((byteSwap 4 (val.setWidth 32) : BitVec 32).setWidth 64)
  else
    if is64Bit inst then do
      let val ← Emu.memcpy addr 8
      assignReg inst.reg (byteSwap 8 val)
    else if inst.has66 then do
      let val ← Emu.memcpy addr 2
      assignReg16 inst.reg (byteSwap 2 val)
    else do
      let val ← Emu.memcpy addr 4
      assignReg inst.reg ((byteSwap 4 val : BitVec 32).setWidth 64)
  advanceRip inst
  return .success

/-- The operand width as a count. -/
def operandWidth (inst : DecodedInstruction) : Word :=
  if is64Bit inst then 64#64 else if inst.has66 then 16#64 else 32#64

/-- The local variable `result` of `emulate_lzcnt_tzcnt`. -/
def zeroCount
    (zero : ZeroCounts) (inst : DecodedInstruction) (isLzcnt : Bool)
    (src : Word) : Emu Word :=
  if isLzcnt then
    if src = 0#64 then
      return operandWidth inst
    else if is64Bit inst then do
      let count ← Emu.builtinClzll zero src
      return count.signExtend 64
    else if inst.has66 then do
      let count ← Emu.builtinClz zero ((src.setWidth 16).setWidth 32)
      return (count - 16#32).signExtend 64
    else do
      let count ← Emu.builtinClz zero (src.setWidth 32)
      return count.signExtend 64
  else
    if src = 0#64 then
      return operandWidth inst
    else if is64Bit inst then do
      let count ← Emu.builtinCtzll zero src
      return count.signExtend 64
    else if inst.has66 then do
      let count ← Emu.builtinCtz zero ((src.setWidth 16).setWidth 32)
      return count.signExtend 64
    else do
      let count ← Emu.builtinCtz zero (src.setWidth 32)
      return count.signExtend 64

def emulateLzcntTzcnt
    (zero : ZeroCounts) (inst : DecodedInstruction) (isLzcnt : Bool) :
    Emu EmulationResult := do
  let src ← getRmValue inst
  let result ← zeroCount zero inst isLzcnt src
  let flags ← Emu.readGreg .efl
  let flags := flags &&& ~~~0x8D1#64
  let flags := flags &&& ~~~statusMask
  Emu.writeGreg .efl (if src = 0#64 then flags ||| 0x40#64 else flags)
  assignReg inst.reg result
  advanceRip inst
  return .success

/-- The switch of `emulate_bmi`, in 64 bits. -/
def bmiOperation (op3 : Byte) (src1 src2 : Word) : Option Word :=
  if op3 = 0xF2#8 then some (src1 &&& ~~~src2)
  else if op3 = 0xF3#8 then some (src2 &&& -src2)
  else if op3 = 0xF1#8 then some (src2 ^^^ (src2 - 1#64))
  else if op3 = 0xF4#8 then some (src2 &&& (src2 - 1#64))
  else none

/-- The truncation of a result for the 32-bit form. -/
def truncateResult (inst : DecodedInstruction) (result : Word) : Word :=
  if is64Bit inst then result else result &&& 0xFFFFFFFF#64

def emulateBmi (op3 : Byte) (inst : DecodedInstruction) :
    Emu EmulationResult := do
  let src1 ← getReg inst.reg
  let src2 ← getRmValue inst
  match bmiOperation op3 src1 src2 with
  | none => return .unrecognizedInstruction
  | some result => do
    let result := truncateResult inst result
    assignReg inst.reg result
    let flags ← Emu.readGreg .efl
    let flags := flags &&& ~~~statusMask
    let flags := if result = 0#64 then flags ||| 0x40#64 else flags
    let sign := if is64Bit inst then 1#64 <<< 63 else 1#64 <<< 31
    Emu.writeGreg .efl
      (if result &&& sign ≠ 0#64 then flags ||| 0x80#64 else flags)
    advanceRip inst
    return .success

/-! ## The dispatcher -/

/-- The handler calls of `emulate_instruction`. -/
inductive Handler where
  | popcnt
  | movbe
  | lzcntTzcnt (isLzcnt : Bool)
  | bmi (op3 : Byte)
  deriving DecidableEq, Repr

def Handler.run
    (zero : ZeroCounts) (inst : DecodedInstruction) :
    Handler → Emu EmulationResult
  | .popcnt => emulatePopcnt inst
  | .movbe => emulateMovbe inst
  | .lzcntTzcnt isLzcnt => emulateLzcntTzcnt zero inst isLzcnt
  | .bmi op3 => emulateBmi op3 inst

/-- The block `if (inst.is_vex)`. -/
def selectVexHandler (inst : DecodedInstruction) : Option Handler :=
  if inst.isVex ∧ inst.op1 = 0x0F#8 ∧ inst.op2 = 0x38#8 ∧
      (inst.op3 = 0xF2#8 ∨ inst.op3 = 0xF3#8 ∨ inst.op3 = 0xF1#8 ∨
        inst.op3 = 0xF4#8) then
    some (.bmi inst.op3)
  else
    none

/-- The block `if (inst.opcode[0] == 0x0F)`. -/
def selectLegacyHandler
    (inst : DecodedInstruction) (features : CpuFeatures) : Option Handler :=
  if inst.op1 = 0x0F#8 then
    if inst.op2 = 0xB8#8 ∧ inst.hasModrm ∧ inst.hasF3 ∧
        ¬ features.hasPopcnt then
      some .popcnt
    else if inst.op2 = 0x38#8 ∧ (inst.op3 = 0xF0#8 ∨ inst.op3 = 0xF1#8) then
      some .movbe
    else if inst.op2 = 0x38#8 ∧ inst.op3 = 0xF5#8 ∧ inst.hasF3 then
      some (.lzcntTzcnt true)
    else if inst.op2 = 0xBC#8 ∧ inst.hasF3 then
      some (.lzcntTzcnt false)
    else if inst.op2 = 0xBD#8 ∧ inst.hasF3 then
      some (.lzcntTzcnt true)
    else
      none
  else
    none

/-- The handler which `emulate_instruction` calls, if it calls one. -/
def selectHandler
    (inst : DecodedInstruction) (features : CpuFeatures) : Option Handler :=
  selectVexHandler inst <|> selectLegacyHandler inst features

/-- The body of `emulate_instruction` behind the decoder. -/
def dispatch
    (zero : ZeroCounts) (inst : DecodedInstruction) (features : CpuFeatures) :
    Emu EmulationResult :=
  match selectHandler inst features with
  | some handler => handler.run zero inst
  | none => return .unrecognizedInstruction

def emulateInstruction
    (zero : ZeroCounts) (ip : Code) (features : CpuFeatures) :
    Emu EmulationResult :=
  dispatch zero (decodeInstruction ip) features

/-- The outcome of emulating the instruction at `ip` on a machine. -/
def emulate
    (zero : ZeroCounts) (ip : Code) (features : CpuFeatures)
    (machine : Machine) : Option (EmulationResult × EmuState) :=
  (emulateInstruction zero ip features).run { machine, calls := [] }

end BadCpu
