import BadCpu.SharedCell

/-!
# Trap and emulate

A machine executes the instructions which it knows, and traps at those which it
lacks.  A trap handler takes the place of a lacking instruction.  As long as the
handler only does what the instruction may do, the two machines together cannot
be told from one which has all instructions: every run of them is one of its
runs.
-/

namespace BadCpu.TrapAndEmulate

open SharedCell (Run)

variable {σ : Type}

/-- Who has executed an instruction. -/
inductive Origin where
  | known
  | lacking
  deriving DecidableEq, Repr

/-- The known instructions, completed by a second relation. -/
inductive Completed (known lacking : σ → σ → Prop) : σ → Origin → σ → Prop
  | known {state next : σ} :
      known state next → Completed known lacking state .known next
  | lacking {state next : σ} :
      lacking state next → Completed known lacking state .lacking next

/-- A handler which does only what the lacking instructions may do. -/
def Sound (handled lacking : σ → σ → Prop) : Prop :=
  ∀ state next, handled state next → lacking state next

section Refinement

variable {known handled lacking : σ → σ → Prop}

theorem Completed.refine
    (sound : Sound handled lacking) {state next : σ} {origin : Origin}
    (step : Completed known handled state origin next) :
    Completed known lacking state origin next := by
  cases step with
  | known step => exact .known step
  | lacking step => exact .lacking (sound _ _ step)

/-- Every run with a handler is a run of the complete machine. -/
theorem run_refines
    (sound : Sound handled lacking) {state last : σ} {origins : List Origin}
    (run : Run (Completed known handled) state origins last) :
    Run (Completed known lacking) state origins last := by
  induction run with
  | nil => exact .nil _
  | cons step _ ih => exact .cons (step.refine sound) ih

end Refinement

end BadCpu.TrapAndEmulate
