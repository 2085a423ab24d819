import BadCpu.FaultRuns
import BadCpu.OperandWidth

/-!
# The footprint of a fault

A handler reads the flags, the instruction pointer, the registers which it
looks up, the bytes of its instruction and the bytes which it copies.  Nothing
else in the machine has any influence on a run of faults, and nothing else is
changed by it.
-/

namespace BadCpu

open ByteMemory SharedCell

/-! ## Agreement -/

/-- Two machines with the same contents in some registers and addresses. -/
structure AgreeOn
    (registers : Set Greg) (addresses : Set Word) (machine machine' : Machine) :
    Prop where
  gregs : ∀ greg ∈ registers, machine.gregs greg = machine'.gregs greg
  memory :
    ∀ address ∈ addresses, machine.memory address = machine'.memory address

theorem regValue_congr
    {gregs gregs' : Greg → Word} {reg : Byte}
    (agree : ∀ greg, gregOf reg = some greg → gregs greg = gregs' greg) :
    regValue gregs reg = regValue gregs' reg := by
  rw [regValue, regValue]
  cases found : gregOf reg with
  | none => rfl
  | some greg => exact agree greg found

theorem load_congr
    {memory memory' : Word → Byte} {address : Word} {size : ℕ}
    (agree :
      ∀ offset < size,
        memory (address + BitVec.ofNat 64 offset) =
          memory' (address + BitVec.ofNat 64 offset)) :
    load memory address size = load memory' address size :=
  ofBytes_congr agree

/-! ## What the handlers read -/

section Reads

variable {inst : DecodedInstruction} {gregs gregs' : Greg → Word}

theorem addressBaseValue_congr
    (agree :
      ∀ reg, .getRegPtr reg ∈ addressBaseCalls inst →
        regValue gregs reg = regValue gregs' reg) :
    addressBaseValue inst gregs = addressBaseValue inst gregs' := by
  rw [addressBaseCalls] at agree
  rw [addressBaseValue, addressBaseValue]
  split_ifs at agree ⊢ with sib base index index absolute
  · rfl
  · rw [agree (sibIndexNumber inst) (by simp)]
  · rw [agree (sibBaseNumber inst) (by simp)]
  · rw [agree (sibBaseNumber inst) (by simp),
      agree (sibIndexNumber inst) (by simp)]
  · rfl
  · exact agree inst.rm (by simp)

/-- An operand is determined by the registers which are looked up for it. -/
theorem rmValue_congr
    (agree :
      ∀ reg, .getRegPtr reg ∈ rmCalls inst →
        regValue gregs reg = regValue gregs' reg) :
    rmValue inst gregs = rmValue inst gregs' := by
  rw [rmCalls] at agree
  rw [rmValue, rmValue]
  split_ifs at agree ⊢ with register
  · exact agree inst.rm (by simp)
  all_goals rw [addressBaseValue_congr agree]

/-- MOVBE takes its source at the operand width. -/
theorem movbeValue_congr
    (old : Word) {source source' : (n : ℕ) → BitVec (8 * n)}
    (agree : source (widthInBytes inst) = source' (widthInBytes inst)) :
    movbeValue inst old source = movbeValue inst old source' := by
  rcases width_cases inst with ⟨-, -, bytes⟩ | ⟨-, -, bytes⟩ | ⟨-, -, bytes⟩
  all_goals rw [bytes] at agree
  · rw [movbeValue_wide old source bytes, movbeValue_wide old source' bytes,
      agree]
  · rw [movbeValue_word old source bytes, movbeValue_word old source' bytes,
      agree]
  · rw [movbeValue_double old source bytes, movbeValue_double old source' bytes,
      agree]

end Reads

namespace Handler

/-- Every handler looks up its destination. -/
theorem destination_mem_calls
    {inst : DecodedInstruction} (machine : Machine) (handler : Handler) :
    .getRegPtr inst.reg ∈ handler.calls inst machine := by
  cases handler with
  | popcnt | lzcntTzcnt isLzcnt | bmi op3 => simp [calls]
  | movbe =>
      rw [calls, movbeCalls]
      split_ifs <;> simp

variable {inst : DecodedInstruction} {machine machine' : Machine}
  {handler : Handler}
  (registers :
    ∀ reg, .getRegPtr reg ∈ handler.calls inst machine →
      regValue machine.gregs reg = regValue machine'.gregs reg)

include registers

/-- Every handler evaluates its operand. -/
theorem rmValue_eq :
    rmValue inst machine.gregs = rmValue inst machine'.gregs := by
  apply rmValue_congr
  intro reg member
  apply registers
  cases handler with
  | popcnt => exact List.mem_append_left _ member
  | movbe =>
      exact List.mem_append_left _ (List.mem_append_left _ member)
  | lzcntTzcnt isLzcnt =>
      exact List.mem_append_left _ (List.mem_append_left _ member)
  | bmi op3 =>
      exact List.mem_cons_of_mem _ (List.mem_append_left _ member)

theorem regValue_eq :
    regValue machine.gregs inst.reg = regValue machine'.gregs inst.reg :=
  registers inst.reg (handler.destination_mem_calls machine)

theorem calls_eq : handler.calls inst machine = handler.calls inst machine' := by
  have operand := rmValue_eq registers
  cases handler with
  | popcnt => rfl
  | movbe => simp only [calls, movbeCalls, operand]
  | lzcntTzcnt isLzcnt => simp only [calls, operand]
  | bmi op3 => rfl

theorem movbeSource_eq
    (loads :
      ∀ address size, .memcpy address size ∈ Handler.movbe.calls inst machine →
        load machine.memory address size = load machine'.memory address size)
    (isMovbe : handler = .movbe) :
    movbeSource inst machine (widthInBytes inst) =
      movbeSource inst machine' (widthInBytes inst) := by
  have operand := rmValue_eq registers
  subst isMovbe
  rw [movbeSource, movbeSource]
  split_ifs with register
  · have source := registers inst.rm (by simp [calls, movbeCalls, register])
    rw [source]
  · rw [← operand]
    exact loads _ _ (by simp [calls, movbeCalls, register])

/-- The value is determined by what the handler reads. -/
theorem value_eq
    (loads :
      ∀ address size, .memcpy address size ∈ handler.calls inst machine →
        load machine.memory address size = load machine'.memory address size)
    (zero : ZeroCounts) :
    handler.value zero inst machine = handler.value zero inst machine' := by
  have operand := rmValue_eq registers
  have old := regValue_eq registers
  cases handler with
  | popcnt => simp only [value, operand]
  | movbe =>
      rw [value, value, old]
      exact movbeValue_congr _ (movbeSource_eq registers loads rfl)
  | lzcntTzcnt isLzcnt => simp only [value, operand]
  | bmi op3 => simp only [value, operand, old]

/-- So are the flags. -/
theorem flags_eq
    (loads :
      ∀ address size, .memcpy address size ∈ handler.calls inst machine →
        load machine.memory address size = load machine'.memory address size)
    (efl : machine.gregs .efl = machine'.gregs .efl) (zero : ZeroCounts) :
    handler.flags zero inst machine = handler.flags zero inst machine' := by
  have operand := rmValue_eq registers
  have result := value_eq registers loads zero
  cases handler with
  | popcnt => simp only [flags, operand, efl]
  | movbe => exact efl
  | lzcntTzcnt isLzcnt => simp only [flags, operand, efl]
  | bmi op3 => simp only [flags, result, efl]

end Handler

/-! ## The footprint -/

/-- The calls of the handler for the instruction of a machine. -/
def faultCalls (features : CpuFeatures) (machine : Machine) : List Call :=
  match selectedHandler machine.code features with
  | some handler => handler.calls (decodeInstruction machine.code) machine
  | none => []

/-- The flags, the instruction pointer and the registers which are looked up. -/
def touchedGregs (features : CpuFeatures) (machine : Machine) : Set Greg :=
  { greg | greg = .efl ∨ greg = .rip ∨
      ∃ reg, .getRegPtr reg ∈ faultCalls features machine ∧
        gregOf reg = some greg }

/-- The bytes of the instruction and those which are copied. -/
def touchedBytes (features : CpuFeatures) (machine : Machine) : Set Word :=
  { address |
      (∃ offset < (decodeInstruction machine.code).len.toNat,
        address = machine.gregs .rip + BitVec.ofNat 64 offset) ∨
      ∃ source size, .memcpy source size ∈ faultCalls features machine ∧
        ∃ offset < size, address = source + BitVec.ofNat 64 offset }

/-- A fault whose footprint lies in some registers and addresses. -/
structure ConfinedStep
    (features : CpuFeatures) (registers : Set Greg) (addresses : Set Word)
    (machine : Machine) (inst : DecodedInstruction) (after : Machine) :
    Prop where
  step : FaultStep features machine inst after
  gregs : touchedGregs features machine ⊆ registers
  bytes : touchedBytes features machine ⊆ addresses

section Agree

variable {features : CpuFeatures} {registers : Set Greg}
  {addresses : Set Word} {machine machine' after : Machine}
  {inst : DecodedInstruction}

/-- Machines which agree on the footprint have the same instruction. -/
theorem ConfinedStep.decoded
    (confined : ConfinedStep features registers addresses machine inst after)
    (agree : AgreeOn registers addresses machine machine') :
    machine.gregs .rip = machine'.gregs .rip ∧
      selectedHandler machine.code features =
          selectedHandler machine'.code features ∧
        decodeInstruction machine.code = decodeInstruction machine'.code := by
  have rip : machine.gregs .rip = machine'.gregs .rip :=
    agree.gregs _ (confined.gregs (.inr (.inl rfl)))
  refine ⟨rip, recognised_congr confined.step.accepted ?_⟩
  intro index within
  rw [Machine.code, Machine.code, get_fetch, get_fetch, ← rip]
  exact agree.memory _ (confined.bytes (.inl ⟨index, within, rfl⟩))

/-- What the handler looks up and copies is the same in both machines. -/
theorem ConfinedStep.reads
    (confined : ConfinedStep features registers addresses machine inst after)
    (agree : AgreeOn registers addresses machine machine') :
    (∀ reg, .getRegPtr reg ∈ faultCalls features machine →
        regValue machine.gregs reg = regValue machine'.gregs reg) ∧
      ∀ address size, .memcpy address size ∈ faultCalls features machine →
        load machine.memory address size =
          load machine'.memory address size := by
  constructor
  · intro reg member
    apply regValue_congr
    intro greg found
    exact agree.gregs _ (confined.gregs (.inr (.inr ⟨reg, member, found⟩)))
  · intro address size member
    apply load_congr
    intro offset within
    exact agree.memory _
      (confined.bytes (.inr ⟨address, size, member, offset, within, rfl⟩))

end Agree

/-- Everything outside of some registers is as before. -/
structure Untouched
    (registers : Set Greg) (before after : Machine) : Prop where
  gregs : ∀ greg ∉ registers, after.gregs greg = before.gregs greg
  memory : after.memory = before.memory

theorem Untouched.trans
    {registers : Set Greg} {first second third : Machine}
    (left : Untouched registers first second)
    (right : Untouched registers second third) :
    Untouched registers first third where
  gregs greg outside := (right.gregs greg outside).trans (left.gregs greg outside)
  memory := right.memory.trans left.memory

/-- The destination belongs to the footprint. -/
theorem ConfinedStep.untouched
    {features : CpuFeatures} {registers : Set Greg} {addresses : Set Word}
    {machine after : Machine} {inst : DecodedInstruction}
    (confined : ConfinedStep features registers addresses machine inst after) :
    Untouched registers machine after := by
  rcases faultStep_iff.mp confined.step with
    ⟨rfl, zero, handler, state, selected, committed, rfl, -⟩
  refine ⟨fun greg outside => ?_, committed.memory⟩
  apply committed.general
  · rintro rfl
    exact outside (confined.gregs (.inl rfl))
  · rintro rfl
    exact outside (confined.gregs (.inr (.inl rfl)))
  · intro destination
    refine outside (confined.gregs (.inr (.inr ⟨_, ?_, destination⟩)))
    rw [faultCalls, selected]
    exact handler.destination_mem_calls machine

/-- Two commits of the same value and flags agree wherever they began so. -/
theorem Committed.gregs_eq
    {zero : ZeroCounts} {inst : DecodedInstruction} {machine machine' : Machine}
    {handler : Handler} {state state' : EmuState}
    (committed : Committed zero inst machine handler state)
    (committed' : Committed zero inst machine' handler state')
    (value : handler.value zero inst machine = handler.value zero inst machine')
    (flags : handler.flags zero inst machine = handler.flags zero inst machine')
    (rip : machine.gregs .rip = machine'.gregs .rip) {greg : Greg}
    (before : machine.gregs greg = machine'.gregs greg) :
    state.machine.gregs greg = state'.machine.gregs greg := by
  by_cases efl : greg = .efl
  · rw [efl, committed.flags, committed'.flags, flags]
  by_cases pointer : greg = .rip
  · rw [pointer, committed.rip, committed'.rip, rip]
  by_cases destination : gregOf inst.reg = some greg
  · have written := committed.destination
    have written' := committed'.destination
    simp only [regValue, destination] at written written'
    rw [written, written', value]
  · rw [committed.general greg efl pointer destination,
      committed'.general greg efl pointer destination, before]

/-- A fault has the same effect wherever its footprint is the same. -/
theorem ConfinedStep.transfer
    {features : CpuFeatures} {registers : Set Greg} {addresses : Set Word}
    {machine machine' after : Machine} {inst : DecodedInstruction}
    (confined : ConfinedStep features registers addresses machine inst after)
    (agree : AgreeOn registers addresses machine machine') :
    ∃ after',
      ConfinedStep features registers addresses machine' inst after' ∧
        AgreeOn registers addresses after after' := by
  rcases confined.decoded agree with ⟨rip, same, decoded⟩
  rcases confined.reads agree with ⟨lookups, loads⟩
  rcases faultStep_iff.mp confined.step with
    ⟨rfl, zero, handler, state, selected, committed, rfl, -⟩
  have selected' : selectedHandler machine'.code features = some handler :=
    same.symm.trans selected
  rcases sigillHandler_some zero selected' with ⟨state', returned, committed'⟩
  have calls : faultCalls features machine = faultCalls features machine' := by
    simp only [faultCalls, selected] at lookups
    simp only [faultCalls, selected, selected', ← decoded]
    exact Handler.calls_eq lookups
  have gregs : touchedGregs features machine' ⊆ registers := by
    rw [touchedGregs, ← calls]
    exact confined.gregs
  have bytes : touchedBytes features machine' ⊆ addresses := by
    rw [touchedBytes, ← calls, ← decoded, ← rip]
    exact confined.bytes
  simp only [faultCalls, selected] at lookups loads
  rw [← decoded] at committed'
  have efl : machine.gregs .efl = machine'.gregs .efl :=
    agree.gregs _ (confined.gregs (.inl rfl))
  refine ⟨state'.machine, ⟨⟨decoded, zero, returned⟩, gregs, bytes⟩, ?_, ?_⟩
  · intro greg inside
    exact committed.gregs_eq committed'
      (Handler.value_eq lookups loads zero)
      (Handler.flags_eq lookups loads efl zero) rip (agree.gregs greg inside)
  · intro address inside
    rw [committed.memory, committed'.memory]
    exact agree.memory address inside

/--
A run of faults depends on nothing but the registers and bytes of its
footprint, and changes nothing but these registers: other registers and other
bytes can hold anything.
-/
theorem faultRun_noninterference
    {features : CpuFeatures} {registers : Set Greg} {addresses : Set Word}
    {machine machine' after : Machine} {insts : List DecodedInstruction}
    (run :
      Run (ConfinedStep features registers addresses) machine insts after)
    (agree : AgreeOn registers addresses machine machine') :
    ∃ after',
      Run (ConfinedStep features registers addresses) machine' insts after' ∧
        AgreeOn registers addresses after after' ∧
          Untouched registers machine' after' := by
  induction run generalizing machine' with
  | nil => exact ⟨machine', .nil machine', agree, fun _ _ => rfl, rfl⟩
  | cons step _ ih =>
      rcases step.transfer agree with ⟨next', step', agree'⟩
      rcases ih agree' with ⟨after', run', last, untouched⟩
      exact ⟨after', .cons step' run', last, step'.untouched.trans untouched⟩

/-- The footprint of `popcnt eax, ecx` at the address zero. -/
theorem popcnt_confined :
    ∃ after,
      ConfinedStep {}
        { greg | greg ∈ [Greg.efl, Greg.rip, Greg.rax, Greg.rcx] }
        { address | address.toNat < 4 } (countingMachine 0#64)
        (decodeInstruction (countingMachine 0#64).code) after := by
  have accepted :
      (selectedHandler (countingMachine 0#64).code {}).isSome = true := by
    decide
  rcases exists_faultStep accepted with ⟨after, step⟩
  have calls : faultCalls {} (countingMachine 0#64) =
      [.getRegPtr 1#8, .getRegPtr 0#8] := by decide
  refine ⟨after, step, ?_, ?_⟩
  · rintro greg (rfl | rfl | ⟨reg, member, found⟩)
    · decide
    · decide
    · rw [calls, List.mem_cons, List.mem_singleton] at member
      rcases member with lookup | lookup
      all_goals
        obtain rfl := Call.getRegPtr.inj lookup
        obtain rfl := Option.some.inj found
        decide
  · rintro address (⟨offset, within, rfl⟩ | ⟨source, size, member, -⟩)
    · have length :
          (decodeInstruction (countingMachine 0#64).code).len.toNat = 4 := by
        decide
      rw [length] at within
      revert offset
      decide
    · rw [calls] at member
      simp at member

/-- The same machine with other contents outside of this footprint. -/
def disturbedMachine : Machine where
  gregs := Function.update (countingMachine 0#64).gregs .rbx 1#64
  memory address :=
    if address.toNat < 4 then (countingMachine 0#64).memory address
    else 0xFF#8

/-- Neither `rbx` nor the bytes behind the instruction matter. -/
theorem faultRun_noninterference_popcnt :
    ∃ after',
      Run
          (ConfinedStep {}
            { greg | greg ∈ [Greg.efl, Greg.rip, Greg.rax, Greg.rcx] }
            { address | address.toNat < 4 })
          disturbedMachine
          [decodeInstruction (countingMachine 0#64).code] after' ∧
        Untouched { greg | greg ∈ [Greg.efl, Greg.rip, Greg.rax, Greg.rcx] }
          disturbedMachine after' := by
  rcases popcnt_confined with ⟨after, confined⟩
  have agree :
      AgreeOn { greg | greg ∈ [Greg.efl, Greg.rip, Greg.rax, Greg.rcx] }
        { address | address.toNat < 4 } (countingMachine 0#64)
        disturbedMachine := by
    constructor
    · intro greg inside
      have other : greg ≠ .rbx := by
        rintro rfl
        exact absurd inside (by decide)
      exact (Function.update_of_ne other _ _).symm
    · intro address inside
      exact (if_pos inside).symm
  rcases faultRun_noninterference (.cons confined (.nil after)) agree with
    ⟨after', run, -, untouched⟩
  exact ⟨after', run, untouched⟩

end BadCpu
