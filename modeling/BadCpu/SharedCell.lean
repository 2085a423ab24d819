import BadCpu.AdaptiveQuery

/-!
# Programs which share a cell

A program exchanges the content of a cell for a new one, and may act on the old
content.  An exchange can be refused, and then the cell keeps its content.

A client serves calls with such programs, one at a time, and keeps a store
between them.  Other parties exchange the same cell between any two steps of a
call; under such interference no exchange is refused.
-/

namespace BadCpu.SharedCell

open AdaptiveQuery

/-! ## Labelled runs -/

section Run

variable {σ ℓ : Type}

/-- A run of a labelled step relation, with the labels of its steps. -/
inductive Run (step : σ → ℓ → σ → Prop) : σ → List ℓ → σ → Prop
  | nil (state : σ) : Run step state [] state
  | cons
      {state next last : σ} {label : ℓ} {labels : List ℓ} :
      step state label next →
        Run step next labels last →
          Run step state (label :: labels) last

namespace Run

variable {step : σ → ℓ → σ → Prop} {state next last : σ} {labels : List ℓ}

theorem eq_of_nil (run : Run step state [] last) : state = last := by
  cases run
  rfl

theorem append
    {labels' : List ℓ} (run : Run step state labels next)
    (run' : Run step next labels' last) :
    Run step state (labels ++ labels') last := by
  induction run with
  | nil => exact run'
  | cons head _ ih => exact .cons head (ih run')

theorem concat
    {label : ℓ} (run : Run step state labels next)
    (final : step next label last) :
    Run step state (labels ++ [label]) last :=
  run.append (.cons final (.nil last))

/-- What every step keeps about the past holds after a run. -/
theorem history
    (kept : List ℓ → σ → Prop)
    (preserved :
      ∀ past state label next,
        kept past state → step state label next →
          kept (past ++ [label]) next)
    (run : Run step state labels last) {past : List ℓ}
    (start : kept past state) :
    kept (past ++ labels) last := by
  induction run generalizing past with
  | nil => rwa [List.append_nil]
  | cons head _ ih =>
      rw [List.append_cons]
      exact ih (preserved past _ _ _ start head)

/-- What every allowed step keeps holds after a run of allowed steps. -/
theorem invariant
    (kept : σ → Prop) (allowed : ℓ → Prop)
    (preserved :
      ∀ state label next,
        kept state → allowed label → step state label next → kept next)
    (run : Run step state labels last) (start : kept state)
    (all : ∀ label ∈ labels, allowed label) :
    kept last := by
  induction run with
  | nil => exact start
  | cons head _ ih =>
      rw [List.forall_mem_cons] at all
      exact ih (preserved _ _ _ start all.1 head) all.2

end Run

end Run

/-! ## Exchanges -/

variable {σ ε κ γ ρ α : Type}

/-- The answer to an exchange, and the content of the cell behind it. -/
def exchange (refusal : Option ε) (new cell : σ) : Except ε σ × σ :=
  match refusal with
  | none => (.ok cell, new)
  | some message => (.error message, cell)

/-- The value of a program which is alone with the cell, and the content. -/
def exec (refusal : Option ε) : Query σ (Except ε σ) α → σ → α × σ
  | .done value, cell => (value, cell)
  | .ask new next, cell =>
      exec refusal (next (exchange refusal new cell).1)
        (exchange refusal new cell).2

theorem exec_pure (refusal : Option ε) (value : α) (cell : σ) :
    exec refusal (pure value : Query σ (Except ε σ) α) cell = (value, cell) :=
  rfl

theorem exec_bind
    {β : Type} (refusal : Option ε) (program : Query σ (Except ε σ) α)
    (next : α → Query σ (Except ε σ) β) (cell : σ) :
    exec refusal (program >>= next) cell =
      exec refusal (next (exec refusal program cell).1)
        (exec refusal program cell).2 := by
  induction program generalizing cell with
  | done value => rfl
  | ask new continuation ih => exact ih _ _

/-! ## Interference -/

/-- A client serves a call with a program, which also returns the store. -/
abbrev Client (σ ε κ γ ρ : Type) :=
  κ → γ → Query σ (Except ε σ) (ρ × γ)

/-- The steps of a client and of the others. -/
inductive Event (σ κ ρ : Type) where
  | called (call : κ)
  | exchanged (call : κ) (new old : σ)
  | returned (call : κ) (result : ρ)
  | foreign (new : σ)

/-- A cell with its client and the call which the client is serving. -/
structure State (σ ε κ γ ρ : Type) where
  cell : σ
  store : γ
  running : Option (κ × Query σ (Except ε σ) (ρ × γ)) := none

/--
A call ends when its program is done.  All exchanges are assumed to succeed;
refusals are a matter of `exec` alone.
-/
inductive Step (client : Client σ ε κ γ ρ) :
    State σ ε κ γ ρ → Event σ κ ρ → State σ ε κ γ ρ → Prop
  | called {cell : σ} {store : γ} (call : κ) :
      Step client ⟨cell, store, none⟩ (.called call)
        ⟨cell, store, some (call, client call store)⟩
  | exchanged
      {cell new : σ} {store : γ} {call : κ}
      {next : Except ε σ → Query σ (Except ε σ) (ρ × γ)} :
      Step client ⟨cell, store, some (call, .ask new next)⟩
        (.exchanged call new cell)
        ⟨new, store, some (call, next (.ok cell))⟩
  | returned
      {cell : σ} {store store' : γ} {call : κ} {result : ρ} :
      Step client ⟨cell, store, some (call, .done (result, store'))⟩
        (.returned call result) ⟨cell, store', none⟩
  | foreign
      {cell : σ} {store : γ}
      {running : Option (κ × Query σ (Except ε σ) (ρ × γ))} (new : σ) :
      Step client ⟨cell, store, running⟩ (.foreign new)
        ⟨new, store, running⟩

/-- The content of the cell after an event. -/
def Event.after (cell : σ) : Event σ κ ρ → σ
  | .exchanged _ new _ | .foreign new => new
  | .called _ | .returned _ _ => cell

/-- The content of the cell after a history. -/
def content (cell : σ) (events : List (Event σ κ ρ)) : σ :=
  events.foldl Event.after cell

theorem Step.cell_eq
    {client : Client σ ε κ γ ρ} {state next : State σ ε κ γ ρ}
    {event : Event σ κ ρ} (step : Step client state event next) :
    next.cell = event.after state.cell := by
  cases step with
  | called | exchanged | returned | foreign => rfl

theorem Run.cell_eq
    {client : Client σ ε κ γ ρ} {state last : State σ ε κ γ ρ}
    {events : List (Event σ κ ρ)}
    (run : Run (Step client) state events last) :
    last.cell = content state.cell events := by
  induction run with
  | nil => rfl
  | cons step _ ih => rw [ih, step.cell_eq, content, content, List.foldl_cons]

/-- Without an exchange only the others change the content. -/
theorem content_eq_or_foreign
    {events : List (Event σ κ ρ)}
    (others : ∀ call new old, Event.exchanged call new old ∉ events)
    (cell : σ) :
    (∀ new, Event.foreign new ∉ events) ∧ content cell events = cell ∨
      Event.foreign (content cell events) ∈ events := by
  induction events generalizing cell with
  | nil => exact .inl ⟨fun _ member => absurd member List.not_mem_nil, rfl⟩
  | cons event events ih =>
      have tail : ∀ call new old, Event.exchanged call new old ∉ events :=
        fun call new old member =>
          others call new old (List.mem_cons_of_mem _ member)
      rcases ih tail (event.after cell) with ⟨none, same⟩ | foreign
      · cases event with
        | exchanged call new old =>
            exact absurd List.mem_cons_self (others call new old)
        | foreign new =>
            exact .inr (List.mem_cons.mpr (.inl (congrArg Event.foreign same)))
        | called call | returned call result =>
            refine .inl ⟨?_, same⟩
            intro new member
            rcases List.mem_cons.mp member with head | rest
            · exact nomatch head
            · exact none new rest
      · exact .inr (List.mem_cons_of_mem _ foreign)

/-- The steps of a call behind its first one. -/
def Event.internal : Event σ κ ρ → Prop
  | .exchanged _ _ _ | .returned _ _ => True
  | .called _ | .foreign _ => False

/-- Without interference a call returns the value of its program. -/
theorem exec_of_run
    {client : Client σ ε κ γ ρ} {call : κ}
    {program : Query σ (Except ε σ) (ρ × γ)} {cell cell' : σ}
    {store store' : γ} {events : List (Event σ κ ρ)}
    (run :
      Run (Step client) ⟨cell, store, some (call, program)⟩ events
        ⟨cell', store', none⟩)
    (alone : ∀ event ∈ events, event.internal) :
    ∃ result,
      Event.returned call result ∈ events ∧
        exec none program cell = ((result, store'), cell') := by
  induction program generalizing cell events with
  | done value =>
      rcases run with _ | ⟨step, rest⟩
      rw [List.forall_mem_cons] at alone
      cases step with
      | foreign => exact absurd alone.1 id
      | returned =>
          rcases rest with _ | ⟨step, rest⟩
          · exact ⟨_, List.mem_cons_self, rfl⟩
          · have inner := alone.2 _ List.mem_cons_self
            cases step with
            | called | foreign => exact absurd inner id
  | ask new next ih =>
      rcases run with _ | ⟨step, rest⟩
      rw [List.forall_mem_cons] at alone
      cases step with
      | foreign => exact absurd alone.1 id
      | exchanged =>
          rcases ih _ rest alone.2 with ⟨result, member, value⟩
          exact ⟨result, List.mem_cons_of_mem _ member, value⟩

end BadCpu.SharedCell
