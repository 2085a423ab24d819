import BadCpu.SignalHandler

/-!
# The lifecycle of the handler

The handler is installed and removed in any order, the call of `sigaction` in
an installation may fail, and other code sets the disposition while the handler
is not installed.  A removal brings back the disposition in front of the
installation.
-/

namespace BadCpu

open AdaptiveQuery SharedCell

/-! ## Processes -/

/-- The library and the disposition of SIGILL. -/
structure Process where
  library : Library := {}
  disposition : SigAction

/-- The calls of the library, with their outcome, and those of other code. -/
inductive LifecycleEvent where
  | install (cpu : Cpu) (refusal : Option (List Byte)) (installed : Bool)
  | remove
  | foreign (action : SigAction)

/-- Other code leaves the disposition alone while the handler is installed. -/
inductive LifecycleStep : Process → LifecycleEvent → Process → Prop
  | install
      {process after : Process} {cpu : Cpu} {refusal : Option (List Byte)}
      {installed : Bool} :
      exec refusal ((installSigillHandler cpu).run process.library)
            process.disposition =
          ((installed, after.library), after.disposition) →
        LifecycleStep process (.install cpu refusal installed) after
  | remove {process after : Process} :
      exec none (removeSigillHandler.run process.library)
            process.disposition =
          (((), after.library), after.disposition) →
        LifecycleStep process .remove after
  | foreign {process : Process} {action : SigAction} :
      process.library.handlerInstalled = false →
        action.saSigaction ≠ .sigillHandler →
          LifecycleStep process (.foreign action)
            { process with disposition := action }

/-! ## Outcomes of a call -/

/-- The three outcomes of an installation. -/
inductive InstallOutcome (process : Process) (cpu : Cpu) :
    Bool → Process → Prop
  | repeated :
      process.library.handlerInstalled = true →
        InstallOutcome process cpu true process
  | refused (text : List Byte) :
      process.library.handlerInstalled = false →
        InstallOutcome process cpu false
          ⟨process.library.detected cpu text, process.disposition⟩
  | effective :
      process.library.handlerInstalled = false →
        (detectCpuFeatures cpu).hasSse41 = true →
          InstallOutcome process cpu true
            ⟨process.library.installed cpu process.disposition, sigillAction⟩

theorem InstallOutcome.of_step
    {process after : Process} {cpu : Cpu} {refusal : Option (List Byte)}
    {installed : Bool}
    (step : LifecycleStep process (.install cpu refusal installed) after) :
    InstallOutcome process cpu installed after := by
  rcases process with ⟨library, disposition⟩
  rcases after with ⟨library', disposition'⟩
  cases step with
  | install run =>
      rw [installSigillHandler_run] at run
      split_ifs at run with flag sse41
      · simp only [exec, Prod.mk.injEq] at run
        rcases run with ⟨⟨rfl, rfl⟩, rfl⟩
        exact .repeated flag
      · cases refusal with
        | none =>
            simp only [exec, exchange, Prod.mk.injEq] at run
            rcases run with ⟨⟨rfl, rfl⟩, rfl⟩
            exact .effective (eq_false_of_ne_true flag) sse41
        | some message =>
            simp only [exec, exchange, Prod.mk.injEq] at run
            rcases run with ⟨⟨rfl, rfl⟩, rfl⟩
            rw [Library.failed_eq]
            exact .refused _ (eq_false_of_ne_true flag)
      · simp only [exec, Prod.mk.injEq] at run
        rcases run with ⟨⟨rfl, rfl⟩, rfl⟩
        exact .refused _ (eq_false_of_ne_true flag)

/-- A removal puts the saved disposition back, or does nothing. -/
theorem LifecycleStep.remove_eq
    {process after : Process} (step : LifecycleStep process .remove after) :
    after =
      if process.library.handlerInstalled then
        ⟨process.library.removed, process.library.oldSigill⟩
      else process := by
  rcases process with ⟨library, disposition⟩
  rcases after with ⟨library', disposition'⟩
  cases step with
  | remove run =>
      rw [removeSigillHandler_run] at run
      split_ifs at run ⊢ with flag
      · simp only [exec, exchange, Prod.mk.injEq, true_and] at run
        rcases run with ⟨rfl, rfl⟩
        rfl
      · simp only [exec, Prod.mk.injEq, true_and] at run
        rcases run with ⟨rfl, rfl⟩
        rfl

/-! ## What holds of every process -/

/-- The flag of the library describes the disposition. -/
structure Tracked (process : Process) : Prop where
  active :
    process.library.handlerInstalled = true →
      process.disposition = sigillAction ∧
        process.library.cpuFeatures.hasSse41 = true
  inactive :
    process.library.handlerInstalled = false →
      process.disposition.saSigaction ≠ .sigillHandler
  saved : process.library.oldSigill.saSigaction ≠ .sigillHandler

namespace Tracked

variable {process after : Process}

theorem installed_iff (tracked : Tracked process) :
    process.library.handlerInstalled = true ↔
      process.disposition.saSigaction = .sigillHandler := by
  constructor
  · intro flag
    rw [(tracked.active flag).1]
    rfl
  · intro handler
    by_contra flag
    exact tracked.inactive (eq_false_of_ne_true flag) handler

theorem install
    (tracked : Tracked process) {cpu : Cpu} {installed : Bool}
    (outcome : InstallOutcome process cpu installed after) :
    Tracked after := by
  cases outcome with
  | repeated flag => exact tracked
  | refused text flag =>
      exact
        { active := fun set => absurd set (ne_true_of_eq_false flag)
          inactive := tracked.inactive
          saved := tracked.saved }
  | effective flag sse41 =>
      exact
        { active := fun _ => ⟨rfl, sse41⟩
          inactive := fun clear => absurd clear.symm Bool.false_ne_true
          -- The disposition is saved while it is not the library's own.
          saved := tracked.inactive flag }

theorem remove
    (tracked : Tracked process) (step : LifecycleStep process .remove after) :
    Tracked after := by
  rw [step.remove_eq]
  split_ifs with flag
  · exact
      { active := fun set => absurd set Bool.false_ne_true
        inactive := fun _ => tracked.saved
        saved := tracked.saved }
  · exact tracked

/-- Every step keeps the flag in accordance with the disposition. -/
theorem step
    (tracked : Tracked process) {event : LifecycleEvent}
    (step : LifecycleStep process event after) :
    Tracked after := by
  cases event with
  | install cpu refusal installed =>
      exact tracked.install (InstallOutcome.of_step step)
  | remove => exact tracked.remove step
  | foreign action =>
      cases step with
      | foreign flag other =>
          exact
            { active := fun set => absurd set (ne_true_of_eq_false flag)
              inactive := fun _ => other
              saved := tracked.saved }

theorem run
    (tracked : Tracked process) {events : List LifecycleEvent}
    (run : Run LifecycleStep process events after) :
    Tracked after :=
  run.invariant Tracked (fun _ => True)
    (fun _ _ _ kept _ step => kept.step step) tracked (fun _ _ => trivial)

end Tracked

/-- The library holds a disposition which a removal will bring back. -/
structure Holds (previous : SigAction) (process : Process) : Prop where
  installed : process.library.handlerInstalled = true
  saved : process.library.oldSigill = previous

namespace Holds

variable {previous : SigAction} {process after : Process}

/-- Nothing but a removal makes the library forget the disposition. -/
theorem step
    (holds : Holds previous process) {event : LifecycleEvent}
    (kept : event ≠ .remove) (step : LifecycleStep process event after) :
    Holds previous after := by
  cases event with
  | install cpu refusal installed =>
      cases InstallOutcome.of_step step with
      | repeated => exact holds
      | refused text flag | effective flag =>
          exact absurd holds.installed (ne_true_of_eq_false flag)
  | remove => exact absurd rfl kept
  | foreign action =>
      cases step with
      | foreign flag =>
          exact absurd holds.installed (ne_true_of_eq_false flag)

theorem run
    (holds : Holds previous process) {events : List LifecycleEvent}
    (run : Run LifecycleStep process events after)
    (kept : .remove ∉ events) :
    Holds previous after :=
  run.invariant (Holds previous) (· ≠ .remove)
    (fun _ _ _ holds kept step => holds.step kept step) holds
    (fun _ member => ne_of_mem_of_not_mem member kept)

theorem remove
    (holds : Holds previous process)
    (step : LifecycleStep process .remove after) :
    after.disposition = previous := by
  rw [step.remove_eq, if_pos holds.installed]
  exact holds.saved

end Holds

/-- The constructor and the destructor leave the disposition as it was. -/
theorem libbadcpuFini_disposition
    {process loaded unloaded : Process} {cpu : Cpu}
    {refusal : Option (List Byte)}
    (fresh : process.library.handlerInstalled = false)
    (init :
      exec refusal ((libbadcpuInit cpu).run process.library)
          process.disposition =
        (((), loaded.library), loaded.disposition))
    (fini :
      exec none (libbadcpuFini.run loaded.library) loaded.disposition =
        (((), unloaded.library), unloaded.disposition)) :
    unloaded.disposition = process.disposition := by
  rw [libbadcpuInit, StateT.run_bind, exec_bind] at init
  have install :
      ∃ installed,
        LifecycleStep process (.install cpu refusal installed) loaded :=
    ⟨_, .install (Prod.ext (Prod.ext rfl (congrArg (·.1.2) init))
      (congrArg (·.2) init))⟩
  rcases install with ⟨installed, install⟩
  rw [LifecycleStep.remove_eq (.remove fini)]
  cases InstallOutcome.of_step install with
  | repeated set => exact absurd set (ne_true_of_eq_false fresh)
  | refused text flag =>
      rw [if_neg]
      exact fun set => absurd set (ne_true_of_eq_false flag)
  | effective => rfl

/-! ## The lifecycle -/

/-- What the lifecycle guarantees in all runs of a process. -/
structure HandlerLifecycle (initial : Process) : Prop where
  installed :
    ∀ events process,
      Run LifecycleStep initial events process →
        (process.library.handlerInstalled = true ↔
          process.disposition.saSigaction = .sigillHandler)
  supported :
    ∀ events process,
      Run LifecycleStep initial events process →
        process.library.handlerInstalled = true →
          process.library.cpuFeatures.hasSse41 = true
  refused :
    ∀ events process cpu refusal after,
      Run LifecycleStep initial events process →
        LifecycleStep process (.install cpu refusal false) after →
          after.disposition = process.disposition ∧
            after.library.handlerInstalled = process.library.handlerInstalled
  saved :
    ∀ events process,
      Run LifecycleStep initial events process →
        process.library.oldSigill.saSigaction ≠ .sigillHandler
  /-- Between an installation and the next removal there may be others. -/
  restored :
    ∀ events process cpu refusal installed repeats last after,
      Run LifecycleStep initial events process →
        process.library.handlerInstalled = false →
          LifecycleStep process (.install cpu refusal true) installed →
            Run LifecycleStep installed repeats last →
              .remove ∉ repeats →
                LifecycleStep last .remove after →
                  after.disposition = process.disposition

/-- The lifecycle restores the previous disposition. -/
theorem handlerLifecycle
    {disposition : SigAction}
    (foreign : disposition.saSigaction ≠ .sigillHandler) :
    HandlerLifecycle { disposition } := by
  have start : Tracked { disposition } :=
    { active := fun set => absurd set Bool.false_ne_true
      inactive := fun _ => foreign
      saved := SigHandler.noConfusion }
  constructor
  case installed =>
    intro events process run
    exact (start.run run).installed_iff
  case supported =>
    intro events process run flag
    exact ((start.run run).active flag).2
  case refused =>
    intro events process cpu refusal after run step
    cases InstallOutcome.of_step step with
    | refused text flag => exact ⟨rfl, rfl⟩
  case saved =>
    intro events process run
    exact (start.run run).saved
  case restored =>
    intro events process cpu refusal installed repeats last after
      _ flag step run kept removal
    cases InstallOutcome.of_step step with
    | repeated set => exact absurd set (ne_true_of_eq_false flag)
    | effective =>
        have holds :
            Holds process.disposition
              ⟨process.library.installed cpu process.disposition,
                sigillAction⟩ :=
          ⟨rfl, rfl⟩
        exact (holds.run run kept).remove removal

/-- In particular it restores the default disposition. -/
theorem handlerLifecycle_default : HandlerLifecycle { disposition := {} } :=
  handlerLifecycle (by decide)

end BadCpu
