import Mathlib.Data.List.Basic

/-!
# Adaptive queries

A program which inspects an unbounded input one position at a time is
represented by its tree of questions.  Every question names a position, and
the rest of the program may depend on the answer.

Running the tree against an input yields both a value and the list of
positions which were actually inspected.  The use principle says that the
value and the inspected positions depend on the input only at the inspected
positions.
-/

namespace BadCpu.AdaptiveQuery

universe u v

/-- A program asking for answers at positions of type `ι`. -/
inductive Query (ι β : Type u) (α : Type v) where
  | done (value : α)
  | ask (index : ι) (next : β → Query ι β α)

namespace Query

variable {ι β : Type u} {α γ : Type v}

/-- Sequential composition grafts the continuation on every leaf. -/
def bind (program : Query ι β α) (next : α → Query ι β γ) :
    Query ι β γ :=
  match program with
  | .done value => next value
  | .ask index continuation =>
      .ask index fun answer => (continuation answer).bind next

instance : Monad (Query ι β) where
  pure := .done
  bind := bind

protected theorem pure_bind (value : α) (next : α → Query ι β γ) :
    (pure value >>= next : Query ι β γ) = next value :=
  rfl

/-- Ask a single question and return its answer. -/
def read {ι β : Type} (index : ι) : Query ι β β :=
  .ask index .done

/-- The value computed against one input. -/
def run (input : ι → β) : Query ι β α → α
  | .done value => value
  | .ask index next => run input (next (input index))

/-- The positions inspected against one input, in order. -/
def asked (input : ι → β) : Query ι β α → List ι
  | .done _ => []
  | .ask index next => index :: asked input (next (input index))

/-! ## Equations of a run -/

-- These equations are proved without the `defeq` attribute, so that `simp`
-- rebuilds the decidability instances of the conditionals it rewrites.

@[simp]
theorem run_pure (input : ι → β) (value : α) :
    run input (pure value : Query ι β α) = value := by
  exact (rfl)

@[simp]
theorem asked_pure (input : ι → β) (value : α) :
    asked input (pure value : Query ι β α) = [] := by
  exact (rfl)

@[simp]
theorem run_read {ι β : Type} (input : ι → β) (index : ι) :
    run input (read index) = input index := by
  exact (rfl)

@[simp]
theorem asked_read {ι β : Type} (input : ι → β) (index : ι) :
    asked input (read index) = [index] := by
  exact (rfl)

@[simp]
theorem run_bind
    (input : ι → β) (program : Query ι β α) (next : α → Query ι β γ) :
    run input (program >>= next) =
      run input (next (run input program)) := by
  induction program with
  | done value => rfl
  | ask index continuation ih => exact ih (input index)

@[simp]
theorem asked_bind
    (input : ι → β) (program : Query ι β α) (next : α → Query ι β γ) :
    asked input (program >>= next) =
      asked input program ++ asked input (next (run input program)) := by
  induction program with
  | done value => rfl
  | ask index continuation ih =>
      exact congrArg (List.cons index) (ih (input index))

@[simp]
theorem run_ite
    (input : ι → β) (condition : Prop) [Decidable condition]
    (left right : Query ι β α) :
    run input (if condition then left else right) =
      if condition then run input left else run input right :=
  apply_ite (run input) condition left right

@[simp]
theorem asked_ite
    (input : ι → β) (condition : Prop) [Decidable condition]
    (left right : Query ι β α) :
    asked input (if condition then left else right) =
      if condition then asked input left else asked input right :=
  apply_ite (asked input) condition left right

/-! ## The use principle -/

/-- Inputs which agree on the inspected positions give the same value. -/
theorem run_congr
    {left right : ι → β} (program : Query ι β α)
    (agree : ∀ index ∈ asked left program, left index = right index) :
    run left program = run right program := by
  induction program with
  | done value => rfl
  | ask index next ih =>
      have head : left index = right index :=
        agree index (by simp [asked])
      have tail :
          run left (next (left index)) = run right (next (left index)) :=
        ih (left index) fun position member =>
          agree position (by simp [asked, member])
      simpa only [run, ← head] using tail

end Query

end BadCpu.AdaptiveQuery
