import BadCpu.DispositionSafety
import BadCpu.EmulationRefinement
import BadCpu.FeatureDetection
import BadCpu.HandlerLifecycle

/-!
# Processes with the library

A process installs and removes the handler, other code sets dispositions, and
the thread executes instructions of which the CPU lacks some.  What becomes of a
fault is decided by the disposition: the handler of the library takes it, or one
of other code, or the kernel kills the process.  Other code cannot name the
handler before it has been the disposition, but it may save it then, and set it
again at any later time.

The library stays loaded, and no fault and no other code comes between the
steps of one of its calls.
-/

namespace BadCpu

open SharedCell TrapAndEmulate

/-! ## The CPU at hand -/

/-- The CPU reports a feature in the standard feature word. -/
def ReportsFeature (cpu : Cpu) (bit : ℕ) : Prop :=
  1#32 ≤ maxLeaf cpu 1#32 ∧ (cpu 1#32).ecx.getLsbD bit = true

instance (cpu : Cpu) (bit : ℕ) : Decidable (ReportsFeature cpu bit) :=
  inferInstanceAs (Decidable (_ ∧ _))

theorem detect_hasSse41 (cpu : Cpu) :
    (detectCpuFeatures cpu).hasSse41 = true ↔ ReportsFeature cpu 19 := by
  rw [detectCpuFeatures_eq]
  exact (reports_mask_iff _ cpu _ CpuidWords.ecx (by decide)).mpr rfl

theorem detect_hasPopcnt (cpu : Cpu) :
    (detectCpuFeatures cpu).hasPopcnt = true ↔ ReportsFeature cpu 23 := by
  rw [detectCpuFeatures_eq]
  exact (reports_mask_iff _ cpu _ CpuidWords.ecx (by decide)).mpr rfl

/-- POPCNT is emulated on a CPU without POPCNT only. -/
theorem not_reportsFeature_of_popcnt
    {cpu : Cpu} {ip : Code}
    (selected : selectedHandler ip (detectCpuFeatures cpu) = some .popcnt) :
    ¬ ReportsFeature cpu 23 := by
  rcases selectedHandler_eq_some_iff.mp selected with ⟨-, -, -, -, lacking⟩
  rw [← detect_hasPopcnt, lacking]
  exact Bool.false_ne_true

/-! ## Steps of a process -/

/-- What a process does apart from the library. -/
structure Surroundings where
  native : Machine → Machine → Prop
  /-- The machines at an instruction which the CPU lacks. -/
  faulting : Machine → Prop
  /-- What the handlers of other code make of a fault. -/
  others : SigAction → Machine → Machine → Prop

/--
A running process, or how it has ended.  The flag tells whether the handler has
been the disposition so far.
-/
inductive ProcessState where
  | running (process : Process) (exposed : Bool) (machine : Machine)
  | exited (status : ℕ) (text : List Byte)
  | crashed
  | killed

inductive ProcessEvent where
  | install (refusal : Option (List Byte)) (installed : Bool)
  | remove (refusal : Option (List Byte))
  | foreign (action : SigAction)
  | native
  | fault
  | elsewhere

/-- The dispositions `SIG_DFL` and `SIG_IGN`: neither survives a fault. -/
def KillsAtFault (action : SigAction) : Prop :=
  action.saSigaction = .other 0#64 ∨ action.saSigaction = .other 1#64

/-- The flag after a call which has left a disposition. -/
def exposedBy (exposed : Bool) (action : SigAction) : Bool :=
  exposed || decide (action.saSigaction = .sigillHandler)

theorem exposedBy_iff {exposed : Bool} {action : SigAction} :
    exposedBy exposed action = true ↔
      exposed = true ∨ action.saSigaction = .sigillHandler := by
  rw [exposedBy, Bool.or_eq_true, decide_eq_true_eq]

/-- The process of a CPU. -/
inductive ProcessStep (cpu : Cpu) (surroundings : Surroundings) :
    ProcessState → ProcessEvent → ProcessState → Prop
  | install
      {process after : Process} {exposed : Bool} {machine : Machine}
      {refusal : Option (List Byte)} {installed : Bool} :
      LifecycleStep process (.install cpu refusal installed) after →
        ProcessStep cpu surroundings (.running process exposed machine)
          (.install refusal installed)
          (.running after (exposedBy exposed after.disposition) machine)
  | remove
      {process after : Process} {exposed : Bool} {machine : Machine}
      {refusal : Option (List Byte)} :
      exec refusal (removeSigillHandler.run process.library)
            process.disposition =
          (((), after.library), after.disposition) →
        ProcessStep cpu surroundings (.running process exposed machine)
          (.remove refusal) (.running after exposed machine)
  -- The handler is static: it is named by a saved disposition only.
  | foreign
      {process : Process} {exposed : Bool} {machine : Machine}
      {action : SigAction} :
      (action.saSigaction = .sigillHandler → exposed = true) →
        ProcessStep cpu surroundings (.running process exposed machine)
          (.foreign action)
          (.running { process with disposition := action } exposed machine)
  | native {process : Process} {exposed : Bool} {machine next : Machine} :
      surroundings.native machine next →
        ProcessStep cpu surroundings (.running process exposed machine) .native
          (.running process exposed next)
  | returned
      {process : Process} {exposed : Bool} {machine next : Machine}
      (zero : ZeroCounts) :
      surroundings.faulting machine →
        process.disposition.saSigaction = .sigillHandler →
          sigillHandler zero SIGILL process.library.cpuFeatures machine =
              some (.returned next) →
            ProcessStep cpu surroundings (.running process exposed machine)
              .fault (.running process exposed next)
  | exited
      {process : Process} {exposed : Bool} {machine : Machine}
      (zero : ZeroCounts) {status : ℕ} {text : List Byte} :
      surroundings.faulting machine →
        process.disposition.saSigaction = .sigillHandler →
          sigillHandler zero SIGILL process.library.cpuFeatures machine =
              some (.exited status text) →
            ProcessStep cpu surroundings (.running process exposed machine)
              .fault (.exited status (process.library.stderr ++ text))
  | crashed
      {process : Process} {exposed : Bool} {machine : Machine}
      (zero : ZeroCounts) :
      surroundings.faulting machine →
        process.disposition.saSigaction = .sigillHandler →
          sigillHandler zero SIGILL process.library.cpuFeatures machine =
              none →
            ProcessStep cpu surroundings (.running process exposed machine)
              .fault .crashed
  | elsewhere
      {process : Process} {exposed : Bool} {machine next : Machine} :
      surroundings.faulting machine → IsForeign process.disposition →
        ¬ KillsAtFault process.disposition →
          surroundings.others process.disposition machine next →
            ProcessStep cpu surroundings (.running process exposed machine)
              .elsewhere (.running process exposed next)
  | killed {process : Process} {exposed : Bool} {machine : Machine} :
      surroundings.faulting machine → KillsAtFault process.disposition →
        ProcessStep cpu surroundings (.running process exposed machine)
          .elsewhere .killed

/-! ## The library in a process -/

/-- Once its handler has been the disposition, the library knows the CPU. -/
structure Prepared (cpu : Cpu) (exposed : Bool) (process : Process) : Prop where
  active : process.disposition.saSigaction = .sigillHandler → exposed = true
  saved :
    process.library.oldSigill.saSigaction = .sigillHandler → exposed = true
  detected :
    exposed = true →
      process.library.cpuFeatures = detectCpuFeatures cpu ∧
        ReportsFeature cpu 19

/-- A removal puts the saved disposition back, or changes none. -/
theorem removal_cases
    {process after : Process} {refusal : Option (List Byte)}
    (removal :
      exec refusal (removeSigillHandler.run process.library)
          process.disposition =
        (((), after.library), after.disposition)) :
    (after.library = process.library ∨
        after.library = process.library.removed) ∧
      (after.disposition = process.disposition ∨
        after.disposition = process.library.oldSigill) := by
  rw [removeSigillHandler_run] at removal
  split_ifs at removal with flag
  · cases refusal with
    | none =>
        simp only [exec, exchange, Prod.mk.injEq, true_and] at removal
        exact ⟨.inr removal.1.symm, .inr removal.2.symm⟩
    | some message =>
        simp only [exec, exchange, Prod.mk.injEq, true_and] at removal
        exact ⟨.inr removal.1.symm, .inl removal.2.symm⟩
  · simp only [exec, Prod.mk.injEq, true_and] at removal
    exact ⟨.inl removal.1.symm, .inl removal.2.symm⟩

namespace Prepared

theorem loaded
    (cpu : Cpu) {disposition : SigAction} (foreign : IsForeign disposition) :
    Prepared cpu false { disposition } where
  active handler := absurd handler foreign
  saved := SigHandler.noConfusion
  detected set := absurd set Bool.false_ne_true

variable {cpu : Cpu} {exposed : Bool} {process after : Process}
  (prepared : Prepared cpu exposed process)

include prepared

theorem install
    {installed : Bool} (outcome : InstallOutcome process cpu installed after) :
    Prepared cpu (exposedBy exposed after.disposition) after := by
  cases outcome with
  | repeated flag =>
      exact
        { active := fun handler => exposedBy_iff.mpr (.inr handler)
          saved := fun handler =>
            exposedBy_iff.mpr (.inl (prepared.saved handler))
          detected := fun set =>
            prepared.detected ((exposedBy_iff.mp set).elim id prepared.active) }
  | refused text flag =>
      exact
        { active := fun handler => exposedBy_iff.mpr (.inr handler)
          saved := fun handler =>
            exposedBy_iff.mpr (.inl (prepared.saved handler))
          detected := fun set =>
            -- The CPU is the same as when it has been looked at before.
            have known := (exposedBy_iff.mp set).elim id prepared.active
            ⟨rfl, (prepared.detected known).2⟩ }
  | effective flag sse41 =>
      exact
        { active := fun handler => exposedBy_iff.mpr (.inr handler)
          saved := fun handler =>
            exposedBy_iff.mpr (.inl (prepared.active handler))
          detected := fun _ => ⟨rfl, (detect_hasSse41 cpu).mp sse41⟩ }

theorem remove
    {refusal : Option (List Byte)}
    (removal :
      exec refusal (removeSigillHandler.run process.library)
          process.disposition =
        (((), after.library), after.disposition)) :
    Prepared cpu exposed after := by
  rcases removal_cases removal with ⟨library, disposition⟩
  have kept :
      after.library.oldSigill = process.library.oldSigill ∧
        after.library.cpuFeatures = process.library.cpuFeatures := by
    rcases library with same | same
    all_goals
      rw [same]
      exact ⟨rfl, rfl⟩
  constructor
  case active =>
    rcases disposition with same | same
    · rw [same]
      exact prepared.active
    · rw [same]
      exact prepared.saved
  case saved =>
    rw [kept.1]
    exact prepared.saved
  case detected =>
    rw [kept.2]
    exact prepared.detected

theorem foreign
    {action : SigAction}
    (known : action.saSigaction = .sigillHandler → exposed = true) :
    Prepared cpu exposed { process with disposition := action } :=
  { prepared with active := known }

variable (handler : process.disposition.saSigaction = .sigillHandler)

include handler

/-- A fault finds the features of the CPU. -/
theorem features :
    process.library.cpuFeatures = detectCpuFeatures cpu ∧
      ReportsFeature cpu 19 :=
  prepared.detected (prepared.active handler)

variable {machine : Machine} {zero : ZeroCounts}

/-- A fault at a recognised instruction returns. -/
theorem returned
    {next : Machine}
    (run :
      sigillHandler zero SIGILL process.library.cpuFeatures machine =
        some (.returned next)) :
    FaultStep (detectCpuFeatures cpu) machine
      (decodeInstruction machine.code) next := by
  rw [(prepared.features handler).1] at run
  exact ⟨rfl, zero, run⟩

/-- A fault at any other instruction is reported. -/
theorem exited
    {status : ℕ} {text : List Byte}
    (run :
      sigillHandler zero SIGILL process.library.cpuFeatures machine =
        some (.exited status text)) :
    status = 132 ∧ text = unrecognizedReport machine.code SIGILL ∧
      selectedHandler machine.code (detectCpuFeatures cpu) = none := by
  rw [(prepared.features handler).1] at run
  exact sigillHandler_exited run

end Prepared

/-! ## Runs of a process -/

/-- What every step of a process keeps. -/
def SafeProcess (cpu : Cpu) : ProcessState → Prop
  | .running process exposed _ => Prepared cpu exposed process
  | .exited status _ => status = 132
  | .crashed => False
  | .killed => True

section Runs

variable {cpu : Cpu} {surroundings : Surroundings}

theorem SafeProcess.step
    {state next : ProcessState} {event : ProcessEvent}
    (safe : SafeProcess cpu state)
    (step : ProcessStep cpu surroundings state event next) :
    SafeProcess cpu next := by
  cases step with
  | install step => exact Prepared.install safe (InstallOutcome.of_step step)
  | remove removal => exact Prepared.remove safe removal
  | foreign known => exact Prepared.foreign safe known
  | native | returned | elsewhere => exact safe
  | exited zero _ handler run => exact (Prepared.exited safe handler run).1
  | crashed zero _ _ run => exact absurd run (sigillHandler_ne_none _ _ _)
  | killed => trivial

theorem SafeProcess.run
    {disposition : SigAction} (foreign : IsForeign disposition)
    {machine : Machine} {events : List ProcessEvent} {state : ProcessState}
    (run :
      Run (ProcessStep cpu surroundings)
        (.running { disposition } false machine) events state) :
    SafeProcess cpu state := by
  have start : SafeProcess cpu (.running { disposition } false machine) :=
    Prepared.loaded cpu foreign
  exact run.invariant (SafeProcess cpu) (fun _ => True)
    (fun _ _ _ safe _ step => safe.step step) start fun _ _ => trivial

/-- The handler is exposed by an effective installation only. -/
def Installed (past : List ProcessEvent) : Prop :=
  ∃ refusal, .install refusal true ∈ past

/-- The history of an exposed handler. -/
def ExposedBefore (past : List ProcessEvent) : ProcessState → Prop
  | .running _ exposed _ => exposed = true → Installed past
  | .exited _ _ | .crashed | .killed => True

theorem Installed.concat
    {past : List ProcessEvent} (installed : Installed past)
    (event : ProcessEvent) :
    Installed (past ++ [event]) := by
  rcases installed with ⟨refusal, member⟩
  exact ⟨refusal, List.mem_append_left _ member⟩

theorem ExposedBefore.step
    {past : List ProcessEvent} {state next : ProcessState}
    {event : ProcessEvent} (safe : SafeProcess cpu state)
    (before : ExposedBefore past state)
    (step : ProcessStep cpu surroundings state event next) :
    ExposedBefore (past ++ [event]) next := by
  cases step with
  | install step =>
      intro set
      have prepared : Prepared cpu _ _ := safe
      rcases exposedBy_iff.mp set with known | handler
      · exact (before known).concat _
      · cases InstallOutcome.of_step step with
        | repeated | refused =>
            exact (before (prepared.active handler)).concat _
        | effective =>
            exact ⟨_, List.mem_append_right _ (List.mem_singleton.mpr rfl)⟩
  | remove | foreign | native | returned | elsewhere =>
      exact fun set => (before set).concat _
  | exited | crashed | killed => trivial

theorem ExposedBefore.run
    {disposition : SigAction} (foreign : IsForeign disposition)
    {machine : Machine} {events : List ProcessEvent} {state : ProcessState}
    (run :
      Run (ProcessStep cpu surroundings)
        (.running { disposition } false machine) events state) :
    ExposedBefore events state := by
  have start :
      SafeProcess cpu (.running { disposition } false machine) ∧
        ExposedBefore [] (.running { disposition } false machine) :=
    ⟨Prepared.loaded cpu foreign, fun set => absurd set Bool.false_ne_true⟩
  exact
    (run.history
      (fun past state => SafeProcess cpu state ∧ ExposedBefore past state)
      (fun _ _ _ _ kept step => ⟨kept.1.step step, .step kept.1 kept.2 step⟩)
      start).2

end Runs

/-! ## Results -/

/-- What holds in all runs of a process. -/
structure ProcessSafety
    (cpu : Cpu) (surroundings : Surroundings) (initial : ProcessState) :
    Prop where
  crash :
    ∀ events, ¬ Run (ProcessStep cpu surroundings) initial events .crashed
  /-- No fault reaches the handler without an installation. -/
  installed :
    ∀ events process exposed machine next,
      Run (ProcessStep cpu surroundings) initial events
          (.running process exposed machine) →
        ProcessStep cpu surroundings (.running process exposed machine) .fault
            next →
          Installed events
  /-- The handler returns from a recognised instruction of an old CPU. -/
  returned :
    ∀ events process exposed machine after exposed' next,
      Run (ProcessStep cpu surroundings) initial events
          (.running process exposed machine) →
        ProcessStep cpu surroundings (.running process exposed machine) .fault
            (.running after exposed' next) →
          after = process ∧ ReportsFeature cpu 19 ∧
            FaultStep (detectCpuFeatures cpu) machine
              (decodeInstruction machine.code) next ∧
            (selectedHandler machine.code process.library.cpuFeatures =
                some .popcnt →
              ¬ ReportsFeature cpu 23)
  /-- It ends the process in a single way. -/
  exited :
    ∀ events process exposed machine status text,
      Run (ProcessStep cpu surroundings) initial events
          (.running process exposed machine) →
        ProcessStep cpu surroundings (.running process exposed machine) .fault
            (.exited status text) →
          status = 132 ∧
            text =
              process.library.stderr ++
                unrecognizedReport machine.code SIGILL ∧
            selectedHandler machine.code (detectCpuFeatures cpu) = none

/--
The handler is prepared for every fault which reaches it, even where other code
has set it again.
-/
theorem processSafety
    (cpu : Cpu) (surroundings : Surroundings) {disposition : SigAction}
    (foreign : IsForeign disposition) (machine : Machine) :
    ProcessSafety cpu surroundings
      (.running { disposition } false machine) := by
  constructor
  case crash =>
    intro events run
    exact SafeProcess.run foreign run
  case installed =>
    intro events process exposed machine next run step
    have prepared : Prepared cpu exposed process := SafeProcess.run foreign run
    have before := ExposedBefore.run foreign run
    cases step with
    | returned zero _ handler | exited zero _ handler
    | crashed zero _ handler =>
        exact before (prepared.active handler)
  case returned =>
    intro events process exposed machine after exposed' next run step
    have prepared : Prepared cpu exposed process := SafeProcess.run foreign run
    cases step with
    | returned zero _ handler run =>
        rcases prepared.features handler with ⟨features, sse41⟩
        rw [features]
        exact ⟨rfl, sse41, prepared.returned handler run,
          not_reportsFeature_of_popcnt⟩
  case exited =>
    intro events process exposed machine status text run step
    have prepared : Prepared cpu exposed process := SafeProcess.run foreign run
    cases step with
    | exited zero _ handler run =>
        rcases prepared.exited handler run with ⟨rfl, rfl, refused⟩
        exact ⟨rfl, rfl, refused⟩

/-! ## Processes with faithful faults -/

/-- What the events of a process mean for its thread. -/
def ProcessEvent.origin? : ProcessEvent → Option Origin
  | .native | .elsewhere => some .known
  | .fault => some .lacking
  | .install _ _ | .remove _ | .foreign _ => none

/-- What a thread does without the library: its own code and other handlers. -/
def Surroundings.Known
    (surroundings : Surroundings) (machine next : Machine) : Prop :=
  surroundings.native machine next ∨
    ∃ action, IsForeign action ∧ surroundings.others action machine next

section Refinement

variable (cpu : Cpu) (surroundings : Surroundings) (initial : ProcessState)
  (machine : Machine)

/-- The thread of a process runs like one on the complete CPU. -/
def ThreadRefines (events : List ProcessEvent) (after : Machine) : Prop :=
  Run (Completed surroundings.Known ArchStep) machine
    (events.filterMap ProcessEvent.origin?) after

/-- The last fault was taken while a killing disposition was in place. -/
def KilledElsewhere (events : List ProcessEvent) : Prop :=
  ∃ earlier process exposed last,
    events = earlier ++ [.elsewhere] ∧
      Run (ProcessStep cpu surroundings) initial earlier
          (.running process exposed last) ∧
        KillsAtFault process.disposition ∧
          ThreadRefines surroundings machine earlier last

/-- A process goes on like the complete CPU, or a fault finds no handler. -/
def ProcessRefines (events : List ProcessEvent) : ProcessState → Prop
  | .running _ _ after => ThreadRefines surroundings machine events after
  | .killed => KilledElsewhere cpu surroundings initial machine events
  | .exited _ _ | .crashed => False

end Refinement

/-- Events which are none of the thread's do not lengthen its run. -/
theorem ThreadRefines.concat_none
    {surroundings : Surroundings} {machine after : Machine}
    {past : List ProcessEvent}
    (refines : ThreadRefines surroundings machine past after)
    {event : ProcessEvent} (outside : event.origin? = none) :
    ThreadRefines surroundings machine (past ++ [event]) after := by
  have none : [event].filterMap ProcessEvent.origin? = [] := by
    simp [outside]
  rw [ThreadRefines, List.filterMap_append, none, List.append_nil]
  exact refines

theorem ThreadRefines.concat
    {surroundings : Surroundings} {machine after next : Machine}
    {past : List ProcessEvent}
    (refines : ThreadRefines surroundings machine past after)
    {event : ProcessEvent} {origin : Origin}
    (inside : event.origin? = some origin)
    (step : Completed surroundings.Known ArchStep after origin next) :
    ThreadRefines surroundings machine (past ++ [event]) next := by
  have one : [event].filterMap ProcessEvent.origin? = [origin] := by
    simp [inside]
  rw [ThreadRefines, List.filterMap_append, one]
  exact Run.concat refines step

/-- What is known along a run of a process with faithful faults. -/
structure FaithfulRun
    (cpu : Cpu) (surroundings : Surroundings) (initial : ProcessState)
    (machine : Machine) (past : List ProcessEvent) (state : ProcessState) :
    Prop where
  run : Run (ProcessStep cpu surroundings) initial past state
  safe : SafeProcess cpu state
  refines : ProcessRefines cpu surroundings initial machine past state

namespace FaithfulRun

variable {cpu : Cpu} {surroundings : Surroundings} {initial : ProcessState}
  {machine : Machine} {past : List ProcessEvent} {state next : ProcessState}
  {event : ProcessEvent}
  (faithful :
    ∀ machine, surroundings.faulting machine →
      FaithfulFault (detectCpuFeatures cpu) machine)
  (kept : FaithfulRun cpu surroundings initial machine past state)
  (taken : ProcessStep cpu surroundings state event next)

include faithful kept taken

/-- With faithful faults every step of a process is one of the complete CPU. -/
theorem refines_step :
    ProcessRefines cpu surroundings initial machine (past ++ [event]) next := by
  rcases kept with ⟨run, safe, refines⟩
  cases taken with
  | install | remove | foreign => exact ThreadRefines.concat_none refines rfl
  | native step => exact ThreadRefines.concat refines rfl (.known (.inl step))
  | elsewhere _ foreign _ step =>
      exact ThreadRefines.concat refines rfl
        (.known (.inr ⟨_, foreign, step⟩))
  | returned zero faulting handler returned =>
      have step := Prepared.returned safe handler returned
      have sound :=
        handledFault_sound _ _ _ ⟨faithful _ faulting, _, step⟩
      exact ThreadRefines.concat refines rfl (.lacking sound)
  | exited zero faulting handler exit =>
      have accepted := (faithful _ faulting).accepted
      rw [(Prepared.exited safe handler exit).2.2] at accepted
      exact absurd accepted Bool.false_ne_true
  | crashed zero _ _ null => exact absurd null (sigillHandler_ne_none _ _ _)
  | killed _ kills => exact ⟨past, _, _, _, rfl, run, kills, refines⟩

theorem step :
    FaithfulRun cpu surroundings initial machine (past ++ [event]) next where
  run := kept.run.concat taken
  safe := kept.safe.step taken
  refines := kept.refines_step faithful taken

end FaithfulRun

/--
A process which faults faithfully only is not ended by the library, and its
thread runs like one on a CPU which has the instructions.  Calls of the library
and dispositions are not seen, unless a fault finds no handler in place.
-/
theorem processRun_refines
    {cpu : Cpu} {surroundings : Surroundings} {disposition : SigAction}
    {machine : Machine} {events : List ProcessEvent} {state : ProcessState}
    (run :
      Run (ProcessStep cpu surroundings)
        (.running { disposition } false machine) events state)
    (foreign : IsForeign disposition)
    (faithful :
      ∀ machine, surroundings.faulting machine →
        FaithfulFault (detectCpuFeatures cpu) machine) :
    ProcessRefines cpu surroundings (.running { disposition } false machine)
      machine events state := by
  have start :
      FaithfulRun cpu surroundings (.running { disposition } false machine)
        machine [] (.running { disposition } false machine) :=
    ⟨.nil _, Prepared.loaded cpu foreign, .nil machine⟩
  exact
    (run.history
      (FaithfulRun cpu surroundings (.running { disposition } false machine)
        machine)
      (fun _ _ _ _ kept taken => kept.step faithful taken) start).refines

/-! ## A process on an old CPU -/

/-- A CPU with SSE 4.1 and without POPCNT -/
def oldCpu : Cpu := fun leaf =>
  if leaf = 0#32 then ⟨1#32, 0#32, 0#32, 0#32⟩
  else if leaf = 1#32 then ⟨0#32, 0#32, 1#32 <<< 19, 0#32⟩
  else ⟨0#32, 0#32, 0#32, 0#32⟩

/-- A thread which executes NOP natively, and no handler but the library's. -/
def nopSurroundings : Surroundings where
  native := NopStep
  faulting := FaithfulFault (detectCpuFeatures oldCpu)
  others _ _ _ := False

theorem detectCpuFeatures_oldCpu :
    (detectCpuFeatures oldCpu).hasSse41 = true ∧
      (detectCpuFeatures oldCpu).hasPopcnt = false := by
  decide

/-- The constructor installs the handler. -/
theorem processStep_install (machine : Machine) :
    ProcessStep oldCpu nopSurroundings
      (.running { disposition := {} } false machine) (.install none true)
      (.running ⟨Library.installed {} oldCpu {}, sigillAction⟩ true
        machine) := by
  refine .install (.install ?_)
  rw [installSigillHandler_run, if_neg Bool.false_ne_true,
    if_pos detectCpuFeatures_oldCpu.1]
  rfl

/-- A handled fault of such a process -/
theorem processStep_fault
    {machine next : Machine}
    (handled : HandledFault (detectCpuFeatures oldCpu) machine next) :
    ProcessStep oldCpu nopSurroundings
      (.running ⟨Library.installed {} oldCpu {}, sigillAction⟩ true machine)
      .fault
      (.running ⟨Library.installed {} oldCpu {}, sigillAction⟩ true next) := by
  rcases handled with ⟨faithful, inst, -, zero, returned⟩
  exact .returned zero faithful rfl returned

/-- The first fault is handled on a CPU with SSE 4.1 and without POPCNT. -/
theorem processSafety_oldCpu :
    ∃ next,
      FaultStep (detectCpuFeatures oldCpu) mixedMachine
          (decodeInstruction mixedMachine.code) next ∧
        ReportsFeature oldCpu 19 ∧ ¬ ReportsFeature oldCpu 23 := by
  rcases exists_mixedRun detectCpuFeatures_oldCpu.2 with
    ⟨first, -, -, handled, -⟩
  have safety :
      ProcessSafety oldCpu nopSurroundings
        (.running { disposition := {} } false mixedMachine) :=
    processSafety _ _ (by simp [IsForeign]) _
  rcases safety.returned _ _ _ _ _ _ _
      (.cons (processStep_install mixedMachine) (.nil _))
      (processStep_fault handled) with
    ⟨-, sse41, step, popcnt⟩
  exact ⟨first, step, sse41, popcnt (by decide)⟩

/-- Both faults are handled, and neither is seen. -/
theorem processRun_refines_mixed :
    ∃ after,
      Run (Completed nopSurroundings.Known ArchStep) mixedMachine
        [.lacking, .known, .lacking] after := by
  rcases exists_mixedRun detectCpuFeatures_oldCpu.2 with
    ⟨first, second, last, head, nop, final⟩
  have run :
      Run (ProcessStep oldCpu nopSurroundings)
        (.running { disposition := {} } false mixedMachine)
        [.install none true, .fault, .native, .fault] _ :=
    .cons (processStep_install mixedMachine)
      (.cons (processStep_fault head)
        (.cons (.native nop) (.cons (processStep_fault final) (.nil _))))
  exact ⟨last,
    processRun_refines run (by simp [IsForeign]) fun _ faulting => faulting⟩

end BadCpu
