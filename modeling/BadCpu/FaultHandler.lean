import BadCpu.Dispatch
import BadCpu.HexText
import BadCpu.SignalHandler

/-!
# Handling a fault

The function `sigill_handler` emulates the instruction at the instruction
pointer.  It returns to the interrupted code after a success, and ends the
process with a report of the bytes otherwise.  No other end is possible: the
branches for an unsupported CPU and for an error in the handler are never
taken.
-/

namespace BadCpu

open HexText

/-! ## The faulting instruction -/

/-- The bytes from an address on, as an instruction stream. -/
def fetch (memory : Word → Byte) (address : Word) : Code :=
  fun index => memory (address + BitVec.ofNat 64 index)

/-- The bytes at the instruction pointer. -/
def Machine.code (machine : Machine) : Code :=
  fetch machine.memory (machine.gregs .rip)

theorem get_fetch (memory : Word → Byte) (address : Word) (index : ℕ) :
    (fetch memory address).get index =
      memory (address + BitVec.ofNat 64 index) :=
  rfl

/-! ## Reports -/

/-- The lines of a report up to the bytes of the instruction. -/
def reportHeader : List Byte :=
  literalBytes "---------------------------------------------------------\n" ++
    literalBytes "FATAL: Unrecognized Instruction\n" ++
    literalBytes "Instruction Bytes:"

/-- The first lines of a report, about `count` bytes. -/
def bytesReport (ip : Code) (count : ℕ) : List Byte :=
  reportHeader ++ dump (ip.take count) ++ literalBytes "\n"

/-- What `sigill_handler` writes about an instruction. -/
def unrecognizedReport (ip : Code) (sig : ℕ) : List Byte :=
  bytesReport ip 16 ++
    literalBytes "We attempted to emulate missing features, but encountered " ++
    literalBytes "an instruction that could not be handled.\n" ++
    literalBytes "Received signal: " ++ literalBytes (toString sig) ++
    literalBytes " (Illegal Instruction)\n"

/-- What `fatal_unrecognized_instruction` writes about an instruction. -/
def fatalReport (ip : Code) (maxLen : ℕ) : List Byte :=
  bytesReport ip (min maxLen 16) ++
    literalBytes
      "While your CPU supports SSE 4.1, illegal instruction errors can also " ++
    literalBytes
      "be thrown due to the program encountering something it didn't expect " ++
    literalBytes
      "as a way to quickly stop itself. Check your configuration, verify file " ++
    literalBytes
      "integrity, and try again. If nothing works, you should probably report " ++
    literalBytes
      "this as a bug.\n"

/-! ## The handler -/

def SIGILL : ℕ := 4

/-- The handler returns to the interrupted code, or ends the process. -/
inductive HandlerOutcome where
  | returned (machine : Machine)
  | exited (status : ℕ) (text : List Byte)

def fatalUnrecognizedInstruction (ip : Code) (maxLen : ℕ) : HandlerOutcome :=
  .exited 1 (fatalReport ip maxLen)

/-- The handler; `none` is the dereference of a null pointer. -/
def sigillHandler
    (zero : ZeroCounts) (sig : ℕ) (features : CpuFeatures)
    (machine : Machine) : Option HandlerOutcome :=
  if sig ≠ SIGILL then some (.returned machine)
  else do
    let ip := machine.gregs .rip
    let (result, state) ← emulate zero machine.code features machine
    return match result with
      | .success => .returned state.machine
      | .unrecognizedInstruction =>
          .exited (128 + SIGILL)
            (unrecognizedReport (fetch state.machine.memory ip) sig)
      | .unsupportedCpu => .exited 1 unsupportedCpuText
      | .handlerError => .exited 1 (literalBytes "Error in SIGILL handler\n")

/-- A recognised instruction is emulated. -/
theorem sigillHandler_some
    (zero : ZeroCounts) {features : CpuFeatures} {machine : Machine}
    {handler : Handler}
    (selected : selectedHandler machine.code features = some handler) :
    ∃ after,
      sigillHandler zero SIGILL features machine =
          some (.returned after.machine) ∧
        Committed zero (decodeInstruction machine.code) machine handler
          after := by
  rcases emulate_committed zero machine selected with ⟨after, run, committed⟩
  refine ⟨after, ?_, committed⟩
  rw [sigillHandler, run]
  rfl

/-- Any other instruction is reported, and the process ends. -/
theorem sigillHandler_none
    (zero : ZeroCounts) {features : CpuFeatures} {machine : Machine}
    (none : selectedHandler machine.code features = none) :
    sigillHandler zero SIGILL features machine =
      some (.exited (128 + SIGILL)
        (unrecognizedReport machine.code SIGILL)) := by
  rw [sigillHandler, emulate_none zero machine none]
  rfl

/-- The process ends at unrecognised instructions only. -/
theorem sigillHandler_exited
    {zero : ZeroCounts} {features : CpuFeatures} {machine : Machine}
    {status : ℕ} {text : List Byte}
    (exit :
      sigillHandler zero SIGILL features machine =
        some (.exited status text)) :
    status = 132 ∧ text = unrecognizedReport machine.code SIGILL ∧
      selectedHandler machine.code features = none := by
  cases selected : selectedHandler machine.code features with
  | some handler =>
      rcases sigillHandler_some zero selected with ⟨after, returned, -⟩
      rw [returned] at exit
      exact absurd (Option.some.inj exit) HandlerOutcome.noConfusion
  | none =>
      rw [sigillHandler_none zero selected] at exit
      obtain ⟨rfl, rfl⟩ := HandlerOutcome.exited.inj (Option.some.inj exit)
      exact ⟨rfl, rfl, rfl⟩

/-- The handler does not dereference a null pointer. -/
theorem sigillHandler_ne_none
    (zero : ZeroCounts) (features : CpuFeatures) (machine : Machine) :
    sigillHandler zero SIGILL features machine ≠ none := by
  cases selected : selectedHandler machine.code features with
  | some handler =>
      rcases sigillHandler_some zero selected with ⟨after, returned, -⟩
      rw [returned]
      exact Option.some_ne_none _
  | none =>
      rw [sigillHandler_none zero selected]
      exact Option.some_ne_none _

end BadCpu
