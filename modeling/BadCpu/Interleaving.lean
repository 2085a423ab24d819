import BadCpu.SharedCell

/-!
# Interleaved threads

Threads with a private state each take steps which depend on a shared state,
and the shared state moves by itself.  As long as the moves are invisible to the
threads, an interleaving is nothing but one run for each thread, side by side.
-/

namespace BadCpu.Interleaving

open SharedCell (Run)

variable {τ σ ρ ℓ μ : Type} [DecidableEq τ]

/-! ## Interleavings -/

/-- A private state for each thread, and the shared state. -/
structure System (τ σ ρ : Type) where
  threads : τ → σ
  shared : ρ

namespace System

/-- The system with a new state for one thread. -/
def setThread (system : System τ σ ρ) (thread : τ) (next : σ) :
    System τ σ ρ :=
  { system with threads := Function.update system.threads thread next }

@[simp]
theorem setThread_shared
    (system : System τ σ ρ) (thread : τ) (next : σ) :
    (system.setThread thread next).shared = system.shared :=
  rfl

@[simp]
theorem setThread_self
    (system : System τ σ ρ) (thread : τ) (next : σ) :
    (system.setThread thread next).threads thread = next :=
  Function.update_self _ _ _

theorem setThread_other
    (system : System τ σ ρ) {thread other : τ} (next : σ)
    (different : thread ≠ other) :
    (system.setThread thread next).threads other = system.threads other :=
  Function.update_of_ne different.symm _ _

end System

/-- A step of one thread, or a move of the shared state. -/
inductive Event (τ ℓ μ : Type) where
  | own (thread : τ) (label : ℓ)
  | moved (label : μ)

inductive Step
    (step : ρ → σ → ℓ → σ → Prop) (move : ρ → μ → ρ → Prop) :
    System τ σ ρ → Event τ ℓ μ → System τ σ ρ → Prop
  | own {system : System τ σ ρ} {thread : τ} {label : ℓ} {next : σ} :
      step system.shared (system.threads thread) label next →
        Step step move system (.own thread label)
          (system.setThread thread next)
  | moved {system : System τ σ ρ} {label : μ} {next : ρ} :
      move system.shared label next →
        Step step move system (.moved label) { system with shared := next }

/-- The steps of one thread. -/
def ownLabels (thread : τ) : List (Event τ ℓ μ) → List ℓ
  | [] => []
  | .own other label :: events =>
      if other = thread then label :: ownLabels thread events
      else ownLabels thread events
  | .moved _ :: events => ownLabels thread events

/-- The moves of the shared state. -/
def moves : List (Event τ ℓ μ) → List μ
  | [] => []
  | .own _ _ :: events => moves events
  | .moved label :: events => label :: moves events

/-! ## Projections -/

section Projections

variable {step : ρ → σ → ℓ → σ → Prop} {move : ρ → μ → ρ → Prop}

/-- The threads take the same steps in front of a move and behind it. -/
def Invisible (step : ρ → σ → ℓ → σ → Prop) (move : ρ → μ → ρ → Prop) :
    Prop :=
  ∀ shared label shared', move shared label shared' →
    ∀ state own state',
      step shared state own state' ↔ step shared' state own state'

theorem Invisible.run_iff
    (invisible : Invisible step move) {shared shared' : ρ} {label : μ}
    (moved : move shared label shared') {state last : σ} {labels : List ℓ} :
    Run (step shared) state labels last ↔
      Run (step shared') state labels last := by
  have same : step shared = step shared' := by
    funext state own state'
    exact propext (invisible _ _ _ moved state own state')
  rw [same]

theorem projections_of_run
    (invisible : Invisible step move) {system last : System τ σ ρ}
    {events : List (Event τ ℓ μ)} (run : Run (Step step move) system events last) :
    Run move system.shared (moves events) last.shared ∧
      ∀ thread,
        Run (step system.shared) (system.threads thread)
          (ownLabels thread events) (last.threads thread) := by
  induction run with
  | nil => exact ⟨.nil _, fun _ => .nil _⟩
  | cons head _ ih =>
      cases head with
      | own own =>
          refine ⟨ih.1, fun other => ?_⟩
          have rest := ih.2 other
          rw [System.setThread_shared] at rest
          rw [ownLabels]
          split_ifs with same
          · subst same
            rw [System.setThread_self] at rest
            exact .cons own rest
          · rwa [System.setThread_other _ _ same] at rest
      | moved moved =>
          refine ⟨.cons moved ih.1, fun thread => ?_⟩
          exact (invisible.run_iff moved).mpr (ih.2 thread)

theorem run_of_projections
    (invisible : Invisible step move) {events : List (Event τ ℓ μ)}
    {system last : System τ σ ρ}
    (shared : Run move system.shared (moves events) last.shared)
    (threads :
      ∀ thread,
        Run (step system.shared) (system.threads thread)
          (ownLabels thread events) (last.threads thread)) :
    Run (Step step move) system events last := by
  induction events generalizing system with
  | nil =>
      have same : system = last := by
        have privates : system.threads = last.threads :=
          funext fun thread => (threads thread).eq_of_nil
        have common := shared.eq_of_nil
        rcases system
        rcases last
        rw [System.mk.injEq]
        exact ⟨privates, common⟩
      rw [same]
      exact .nil last
  | cons event events ih =>
      cases event with
      | own thread label =>
          have first := threads thread
          rw [ownLabels, if_pos rfl] at first
          rcases first with _ | ⟨own, rest⟩
          refine .cons (.own own) (ih shared fun other => ?_)
          by_cases same : thread = other
          · subst same
            rwa [System.setThread_shared, System.setThread_self]
          · have others := threads other
            rw [ownLabels, if_neg same] at others
            rwa [System.setThread_shared, System.setThread_other _ _ same]
      | moved label =>
          rcases shared with _ | ⟨moved, rest⟩
          refine .cons (.moved moved) (ih rest fun thread => ?_)
          exact (invisible.run_iff moved).mp (threads thread)

/-- An interleaving is a run of every thread, and one of the shared state. -/
theorem run_iff_projections
    (invisible : Invisible step move) {system last : System τ σ ρ}
    {events : List (Event τ ℓ μ)} :
    Run (Step step move) system events last ↔
      Run move system.shared (moves events) last.shared ∧
        ∀ thread,
          Run (step system.shared) (system.threads thread)
            (ownLabels thread events) (last.threads thread) :=
  ⟨projections_of_run invisible,
    fun ⟨shared, threads⟩ => run_of_projections invisible shared threads⟩

end Projections

end BadCpu.Interleaving
