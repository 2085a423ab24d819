import BadCpu.HandlerInterference

/-!
# No handler without the library

Other code sets the disposition of SIGILL whenever it likes, but never to the
handler of the library.  Then the handler is only ever active between an
installation and the next removal, and only on a CPU with SSE 4.1: behind a
removal, and hence behind the destructor, no signal reaches code which is about
to be unloaded.  All this is as long as `sigaction` succeeds: a refused removal
would leave the handler behind.
-/

namespace BadCpu

open AdaptiveQuery SharedCell

/-! ## The library between two steps -/

/-- A disposition which is not the library's own. -/
def IsForeign (action : SigAction) : Prop :=
  action.saSigaction ≠ .sigillHandler

/-- Other code sets dispositions of its own only. -/
def Decent : HandlerEvent → Prop
  | .foreign new => IsForeign new
  | .called _ | .exchanged _ _ _ | .returned _ _ => True

/-- The flag of the library bounds the life of the handler. -/
structure Guarded (library : Library) (disposition : SigAction) : Prop where
  saved : IsForeign library.oldSigill
  inactive : library.handlerInstalled = false → IsForeign disposition
  supported :
    library.handlerInstalled = true → library.cpuFeatures.hasSse41 = true

namespace Guarded

variable {library : Library} {disposition new : SigAction}

theorem foreign (guarded : Guarded library disposition)
    (other : IsForeign new) : Guarded library new :=
  { guarded with inactive := fun _ => other }

theorem detected (guarded : Guarded library disposition) (cpu : Cpu)
    (text : List Byte) (flag : library.handlerInstalled = false) :
    Guarded (library.detected cpu text) disposition where
  saved := guarded.saved
  inactive := guarded.inactive
  supported set := absurd set (ne_true_of_eq_false flag)

/-- The disposition is saved while it is a foreign one. -/
theorem installed (guarded : Guarded library disposition) {cpu : Cpu}
    (flag : library.handlerInstalled = false)
    (sse41 : (detectCpuFeatures cpu).hasSse41 = true) :
    Guarded (library.installed cpu disposition) new where
  saved := guarded.inactive flag
  inactive clear := absurd clear.symm Bool.false_ne_true
  supported _ := sse41

/-- The disposition which a removal puts back is a foreign one. -/
theorem removed (guarded : Guarded library disposition) :
    Guarded library.removed library.oldSigill where
  saved := guarded.saved
  inactive _ := guarded.saved
  supported set := absurd set Bool.false_ne_true

end Guarded

/-! ## The library during a call -/

/-- Where a call can be, and what the library guarantees there. -/
inductive GuardedCall (library : Library) (disposition : SigAction) :
    LibraryCall →
      Query SigAction (Except (List Byte) SigAction) (CallResult × Library) →
        Prop
  | installing {cpu : Cpu} {next}
      (guarded : Guarded library disposition)
      (flag : library.handlerInstalled = false)
      (sse41 : (detectCpuFeatures cpu).hasSse41 = true)
      (answered :
        ∀ old, next (.ok old) = .done (.installed true, library.installed cpu old)) :
      GuardedCall library disposition (.install cpu) (.ask sigillAction next)
  | removing {saved : SigAction} {next}
      (guarded : Guarded library disposition)
      (same : saved = library.oldSigill)
      (answered :
        ∀ old, next (.ok old) = .done (.removed, library.removed)) :
      GuardedCall library disposition .remove (.ask saved next)
  | ended {call : LibraryCall} {result : CallResult} {after : Library}
      (guarded : Guarded after disposition)
      (removal : call = .remove → after.handlerInstalled = false) :
      GuardedCall library disposition call (.done (result, after))

namespace GuardedCall

variable {library : Library} {disposition : SigAction}

theorem start (guarded : Guarded library disposition) (call : LibraryCall) :
    GuardedCall library disposition call (libraryClient call library) := by
  cases call with
  | install cpu =>
      rw [libraryClient_install]
      split_ifs with flag sse41
      · exact .ended guarded LibraryCall.noConfusion
      · exact .installing guarded (eq_false_of_ne_true flag) sse41
          fun _ => rfl
      · exact .ended (guarded.detected cpu _ (eq_false_of_ne_true flag))
          LibraryCall.noConfusion
  | remove =>
      rw [libraryClient_remove]
      split_ifs with flag
      · exact .removing guarded rfl fun _ => rfl
      · exact .ended guarded fun _ => eq_false_of_ne_true flag

theorem foreign
    {call : LibraryCall}
    {program :
      Query SigAction (Except (List Byte) SigAction) (CallResult × Library)}
    (served : GuardedCall library disposition call program) {new : SigAction}
    (other : IsForeign new) :
    GuardedCall library new call program := by
  cases served with
  | installing guarded flag sse41 answered =>
      exact .installing (guarded.foreign other) flag sse41 answered
  | removing guarded same answered =>
      exact .removing (guarded.foreign other) same answered
  | ended guarded removal => exact .ended (guarded.foreign other) removal

end GuardedCall

/-- What the library guarantees in and between its calls. -/
def SafeState (state : HandlerState) : Prop :=
  match state.running with
  | none => Guarded state.store state.cell
  | some (call, program) => GuardedCall state.store state.cell call program

theorem SafeState.step
    {state next : HandlerState} {event : HandlerEvent} (safe : SafeState state)
    (decent : Decent event) (step : Step libraryClient state event next) :
    SafeState next := by
  cases step with
  | called call => exact GuardedCall.start safe call
  | @foreign cell store running new =>
      cases running with
      | none => exact Guarded.foreign safe decent
      | some call => exact GuardedCall.foreign safe decent
  | returned =>
      cases safe with
      | ended guarded removal => exact guarded
  | @exchanged cell new store call next =>
      cases safe with
      | installing guarded flag sse41 answered =>
          simp only [SafeState, answered]
          exact .ended (guarded.installed flag sse41) LibraryCall.noConfusion
      | removing guarded same answered =>
          simp only [SafeState, answered, same]
          exact .ended guarded.removed fun _ => rfl

theorem SafeState.run
    {disposition : SigAction} (foreign : IsForeign disposition)
    {history : List HandlerEvent} {state : HandlerState}
    (run : Run (Step libraryClient) (loaded disposition) history state)
    (decent : ∀ event ∈ history, Decent event) :
    SafeState state := by
  have start : SafeState (loaded disposition) :=
    { saved := SigHandler.noConfusion
      inactive := fun _ => foreign
      supported := fun set => absurd set Bool.false_ne_true }
  exact run.invariant SafeState Decent
    (fun _ _ _ safe decent step => safe.step decent step) start decent

/-! ## The life of the handler -/

/-- What holds in every interleaving with decent code. -/
structure DispositionSafety (initial : HandlerState) : Prop where
  /-- Between the calls the handler is active behind an installation only. -/
  idle :
    ∀ history state,
      Run (Step libraryClient) initial history state →
        (∀ event ∈ history, Decent event) → state.running = none →
          state.cell.saSigaction = .sigillHandler →
            state.store.handlerInstalled = true ∧
              state.store.cpuFeatures.hasSse41 = true
  /-- What a removal puts back is never the handler itself. -/
  restores :
    ∀ history state new old after,
      Run (Step libraryClient) initial history state →
        (∀ event ∈ history, Decent event) →
          Step libraryClient state (.exchanged .remove new old) after →
            IsForeign after.cell
  /-- When a removal returns, the handler is gone. -/
  removed :
    ∀ history state result after,
      Run (Step libraryClient) initial history state →
        (∀ event ∈ history, Decent event) →
          Step libraryClient state (.returned .remove result) after →
            IsForeign after.cell

/--
As long as other code sets no disposition but its own, and `sigaction` succeeds,
no interleaving leaves the handler behind when the library has been removed.
-/
theorem dispositionSafety
    {disposition : SigAction} (foreign : IsForeign disposition) :
    DispositionSafety (loaded disposition) := by
  constructor
  case idle =>
    intro history state run decent idle active
    have safe := SafeState.run foreign run decent
    rw [SafeState, idle] at safe
    have flag : state.store.handlerInstalled = true := by
      by_contra clear
      exact safe.inactive (eq_false_of_ne_true clear) active
    exact ⟨flag, safe.supported flag⟩
  case restores =>
    intro history state new old after run decent step
    have safe := SafeState.run foreign run decent
    cases step with
    | exchanged =>
        cases safe with
        | removing guarded same =>
            rw [same]
            exact guarded.saved
  case removed =>
    intro history state result after run decent step
    have safe := SafeState.run foreign run decent
    cases step with
    | returned =>
        cases safe with
        | ended guarded removal => exact guarded.inactive (removal rfl)

/-- It starts with the default disposition, for example. -/
theorem dispositionSafety_default : DispositionSafety (loaded {}) :=
  dispositionSafety (by simp [IsForeign])

end BadCpu
