import BadCpu.Cpuid
import BadCpu.SharedCell

/-!
# The signal handler

The functions of `signal_handler.cpp` which install and remove the handler.
The disposition of SIGILL is a cell outside of the library: `sigaction` sets it
and returns the old one, or fails with the message of `errno`.  What is printed
to `stderr` is a list of bytes.
-/

namespace BadCpu

open AdaptiveQuery SharedCell

/-! ## Dispositions -/

/-- The library's handler, or the address of another one. -/
inductive SigHandler where
  | sigillHandler
  | other (address : Word)
  deriving DecidableEq, Repr

/-- The structure `sigaction`, with the zero initialisation of `{}`. -/
structure SigAction where
  saSigaction : SigHandler := .other 0#64
  saFlags : BitVec 32 := 0#32
  saMask : BitVec 1024 := 0#1024
  deriving DecidableEq, Repr

def SA_SIGINFO : BitVec 32 := 4#32

/-- The disposition which `install_sigill_handler` sets. -/
def sigillAction : SigAction :=
  { saSigaction := .sigillHandler
    saFlags := SA_SIGINFO }

/-! ## The library -/

/-- The static variables of the library, and what it has printed. -/
structure Library where
  cpuFeatures : CpuFeatures := {}
  handlerInstalled : Bool := false
  oldSigill : SigAction := {}
  stderr : List Byte := []

/-- Functions of the library, which call `sigaction`. -/
abbrev LibraryM :=
  StateT Library (Query SigAction (Except (List Byte) SigAction))

def sigaction (action : SigAction) :
    LibraryM (Except (List Byte) SigAction) :=
  StateT.lift (Query.read action)

def fprintf (text : List Byte) : LibraryM Unit :=
  modify fun library => { library with stderr := library.stderr ++ text }

def unsupportedCpuText : List Byte :=
  literalBytes "This program requires a CPU with x86-64-v2 features.\n" ++
    literalBytes "Your CPU does not support at least SSE 4.1, which is " ++
    literalBytes "required for this software to work.\n"

/-- The function `perror`, behind a failed `sigaction`. -/
def perror (message : List Byte) : List Byte :=
  literalBytes "Error setting SIGILL handler: " ++ message ++
    literalBytes "\n"

def installSigillHandler (cpu : Cpu) : LibraryM Bool := do
  if (← get).handlerInstalled then
    return true
  modify fun library => { library with cpuFeatures := detectCpuFeatures cpu }
  if !(← get).cpuFeatures.hasSse41 then
    fprintf unsupportedCpuText
    return false
  fprintf (printCpuInfo cpu (← get).cpuFeatures)
  match ← sigaction sigillAction with
  | .error message =>
      fprintf (perror message)
      return false
  | .ok old =>
      modify fun library => { library with oldSigill := old }
      modify fun library => { library with handlerInstalled := true }
      return true

def removeSigillHandler : LibraryM Unit := do
  if (← get).handlerInstalled then
    let _ ← sigaction (← get).oldSigill
    modify fun library => { library with handlerInstalled := false }

/-- The constructor of the library. -/
def libbadcpuInit (cpu : Cpu) : LibraryM Unit := do
  let _ ← installSigillHandler cpu

/-- The destructor of the library. -/
def libbadcpuFini : LibraryM Unit :=
  removeSigillHandler

/-! ## What the functions do -/

namespace Library

/-- The library after it has looked at the CPU and printed something. -/
def detected (library : Library) (cpu : Cpu) (text : List Byte) : Library :=
  { library with
    cpuFeatures := detectCpuFeatures cpu
    stderr := library.stderr ++ text }

/-- The library after `sigaction` has returned the old disposition. -/
def installed (library : Library) (cpu : Cpu) (old : SigAction) : Library :=
  { library.detected cpu (printCpuInfo cpu (detectCpuFeatures cpu)) with
    handlerInstalled := true
    oldSigill := old }

/-- The library after `sigaction` has failed. -/
def failed (library : Library) (cpu : Cpu) (message : List Byte) : Library :=
  let library :=
    library.detected cpu (printCpuInfo cpu (detectCpuFeatures cpu))
  { library with stderr := library.stderr ++ perror message }

def removed (library : Library) : Library :=
  { library with handlerInstalled := false }

/-- Whatever an installation prints, it prints it at the end. -/
theorem failed_eq (library : Library) (cpu : Cpu) (message : List Byte) :
    library.failed cpu message =
      library.detected cpu
        (printCpuInfo cpu (detectCpuFeatures cpu) ++ perror message) := by
  simp only [failed, detected, List.append_assoc]

end Library

/-- An installation asks for one exchange at most. -/
theorem installSigillHandler_run (cpu : Cpu) (library : Library) :
    (installSigillHandler cpu).run library =
      if library.handlerInstalled then .done (true, library)
      else if (detectCpuFeatures cpu).hasSse41 then
        .ask sigillAction fun
          | .error message => .done (false, library.failed cpu message)
          | .ok old => .done (true, library.installed cpu old)
      else .done (false, library.detected cpu unsupportedCpuText) := by
  rw [installSigillHandler]
  simp only [StateT.run_bind, StateT.run_get, Query.pure_bind]
  cases flag : library.handlerInstalled with
  | true => rfl
  | false =>
      simp only [StateT.run_bind, StateT.run_get, Query.pure_bind,
        StateT.run_modify, Bool.false_eq_true, if_false]
      cases sse41 : (detectCpuFeatures cpu).hasSse41 with
      | false => rfl
      | true =>
          refine congrArg (Query.ask sigillAction) (funext fun answer => ?_)
          cases answer with
          | error message => rfl
          | ok old => rfl

theorem removeSigillHandler_run (library : Library) :
    removeSigillHandler.run library =
      if library.handlerInstalled then
        .ask library.oldSigill fun _ => .done ((), library.removed)
      else .done ((), library) := by
  rw [removeSigillHandler]
  simp only [StateT.run_bind, StateT.run_get, Query.pure_bind]
  cases flag : library.handlerInstalled with
  | true => rfl
  | false => rfl

end BadCpu
