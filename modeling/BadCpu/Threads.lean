import BadCpu.Footprint
import BadCpu.Interleaving

/-!
# Faulting threads

The disposition of SIGILL, the recorded features and the memory belong to the
whole process, the registers to a thread.  Threads may therefore fault in any
order, and native code may store to memory in between: every thread gets what it
would have got alone, as long as no store hits a byte which a handler uses.
-/

namespace BadCpu

open Interleaving
open SharedCell (Run)

/-! ## Processes with threads -/

/-- A fault of a thread, on the memory of the process. -/
def ThreadFault
    (features : CpuFeatures) (addresses : Set Word) (memory : Word → Byte)
    (gregs : Greg → Word) (inst : DecodedInstruction) (next : Greg → Word) :
    Prop :=
  ConfinedStep features Set.univ addresses ⟨gregs, memory⟩ inst ⟨next, memory⟩

/-- Native code stores a byte which no handler uses. -/
def StoreStep
    (addresses : Set Word) (memory : Word → Byte) (target : Word × Byte)
    (next : Word → Byte) : Prop :=
  target.1 ∉ addresses ∧ next = Function.update memory target.1 target.2

/-- The registers of each thread, and the memory. -/
abbrev ThreadedProcess (τ : Type) :=
  System τ (Greg → Word) (Word → Byte)

abbrev ThreadEvent (τ : Type) :=
  Event τ DecodedInstruction (Word × Byte)

/-- A thread faults, or native code stores a byte. -/
abbrev ThreadStep
    {τ : Type} [DecidableEq τ] (features : CpuFeatures)
    (addresses : Set Word) :
    ThreadedProcess τ → ThreadEvent τ → ThreadedProcess τ → Prop :=
  Step (ThreadFault features addresses) (StoreStep addresses)

/-- What one thread sees of its process. -/
def threadMachine
    {τ : Type} (process : ThreadedProcess τ) (memory : Word → Byte)
    (thread : τ) : Machine :=
  ⟨process.threads thread, memory⟩

/-! ## Stores between faults -/

section Stores

variable {features : CpuFeatures} {addresses : Set Word}
  {memory memory' : Word → Byte} {gregs next : Greg → Word}
  {inst : DecodedInstruction}

/-- A fault does not see how the other bytes differ. -/
theorem ThreadFault.transfer
    (same : ∀ address ∈ addresses, memory address = memory' address)
    (fault : ThreadFault features addresses memory gregs inst next) :
    ThreadFault features addresses memory' gregs inst next := by
  have agree :
      AgreeOn Set.univ addresses ⟨gregs, memory⟩ ⟨gregs, memory'⟩ :=
    ⟨fun _ _ => rfl, same⟩
  rcases ConfinedStep.transfer fault agree with ⟨after, step, agree'⟩
  have result : after = ⟨next, memory'⟩ := by
    rw [Machine.mk.injEq]
    constructor
    · funext greg
      exact (agree'.gregs greg trivial).symm
    · exact step.untouched.memory
  rw [result] at step
  exact step

theorem storeStep_invisible :
    Invisible (ThreadFault features addresses) (StoreStep addresses) := by
  rintro memory ⟨target, byte⟩ - ⟨outside, rfl⟩ gregs inst next
  have same :
      ∀ address ∈ addresses,
        memory address = Function.update memory target byte address := by
    intro address inside
    have other : address ≠ target := by
      rintro rfl
      exact outside inside
    exact (Function.update_of_ne other _ _).symm
  exact ⟨ThreadFault.transfer same,
    ThreadFault.transfer fun address inside => (same address inside).symm⟩

/-- Without stores a thread runs like a machine of its own. -/
theorem threadRun_iff {insts : List DecodedInstruction} :
    Run (ThreadFault features addresses memory) gregs insts next ↔
      Run (ConfinedStep features Set.univ addresses) ⟨gregs, memory⟩ insts
        ⟨next, memory⟩ := by
  induction insts generalizing gregs with
  | nil =>
      constructor
      · intro run
        rw [run.eq_of_nil]
        exact .nil _
      · intro run
        rw [(Machine.mk.inj run.eq_of_nil).1]
        exact .nil _
  | cons inst insts ih =>
      constructor
      · intro run
        rcases run with _ | ⟨fault, rest⟩
        exact .cons fault (ih.mp rest)
      · intro run
        cases run with
        | @cons _ middle _ _ _ step rest =>
            rcases middle with ⟨between, kept⟩
            obtain rfl : kept = memory := step.untouched.memory
            exact .cons step (ih.mpr rest)

end Stores

/-! ## Every interleaving -/

/--
An interleaving of faults and of stores elsewhere is a sequential run of each
thread on the memory of the beginning, and nothing else: neither the order of
the threads nor the stores between their faults can be seen.
-/
theorem threadRun_iff_sequential
    {τ : Type} [DecidableEq τ] (features : CpuFeatures)
    (addresses : Set Word) (process last : ThreadedProcess τ)
    (events : List (ThreadEvent τ)) :
    Run (ThreadStep features addresses) process events last ↔
      Run (StoreStep addresses) process.shared (moves events) last.shared ∧
        ∀ thread,
          Run (ConfinedStep features Set.univ addresses)
            (threadMachine process process.shared thread)
            (ownLabels thread events)
            (threadMachine last process.shared thread) := by
  rw [run_iff_projections storeStep_invisible]
  exact and_congr_right fun _ => forall_congr' fun _ => threadRun_iff

end BadCpu
