import BadCpu.HandlerLifecycle

/-!
# Interference with the handler

Other code may set the disposition of SIGILL at any time, also during a call of
the library.  The library knows only its flag: it reports an active handler
which other code has replaced, and a removal replaces whatever is there by the
disposition in front of the installation.  Here `sigaction` always succeeds.
-/

namespace BadCpu

open AdaptiveQuery SharedCell

/-! ## The library as a client of the disposition -/

inductive LibraryCall where
  | install (cpu : Cpu)
  | remove

inductive CallResult where
  | installed (active : Bool)
  | removed
  deriving DecidableEq, Repr

/-- The program of a call. -/
def libraryClient :
    Client SigAction (List Byte) LibraryCall Library CallResult
  | .install cpu, library => do
      let (active, library) ← (installSigillHandler cpu).run library
      return (.installed active, library)
  | .remove, library => do
      let (_, library) ← removeSigillHandler.run library
      return (.removed, library)

abbrev HandlerEvent := Event SigAction LibraryCall CallResult

abbrev HandlerState :=
  SharedCell.State SigAction (List Byte) LibraryCall Library CallResult

/-- The library has just been loaded. -/
def loaded (disposition : SigAction) : HandlerState :=
  { cell := disposition
    store := {} }

theorem libraryClient_install (cpu : Cpu) (library : Library) :
    libraryClient (.install cpu) library =
      if library.handlerInstalled then .done (.installed true, library)
      else if (detectCpuFeatures cpu).hasSse41 then
        .ask sigillAction fun
          | .error message =>
              .done (.installed false, library.failed cpu message)
          | .ok old => .done (.installed true, library.installed cpu old)
      else
        .done (.installed false, library.detected cpu unsupportedCpuText) := by
  rw [libraryClient, installSigillHandler_run]
  split_ifs
  · rfl
  · refine congrArg (Query.ask sigillAction) (funext fun answer => ?_)
    cases answer with
    | error message => rfl
    | ok old => rfl
  · rfl

theorem libraryClient_remove (library : Library) :
    libraryClient .remove library =
      if library.handlerInstalled then
        .ask library.oldSigill fun _ => .done (.removed, library.removed)
      else .done (.removed, library) := by
  rw [libraryClient, removeSigillHandler_run]
  split_ifs
  · rfl
  · rfl

/-! ## Calls without interference -/

section Alone

variable {process after : Process} {events : List HandlerEvent}
  (alone : ∀ event ∈ events, event.internal)

include alone

/-- An installation without interference is a step of the lifecycle. -/
theorem lifecycleStep_install
    {cpu : Cpu}
    (run :
      Run (Step libraryClient)
        ⟨process.disposition, process.library,
          some (.install cpu, libraryClient (.install cpu) process.library)⟩
        events ⟨after.disposition, after.library, none⟩) :
    ∃ active,
      .returned (.install cpu) (.installed active) ∈ events ∧
        LifecycleStep process (.install cpu none active) after := by
  rcases exec_of_run run alone with ⟨result, member, value⟩
  rw [libraryClient, exec_bind, exec_pure] at value
  have returned : .installed _ = result := congrArg (·.1.1) value
  have library := congrArg (·.1.2) value
  have disposition := congrArg (·.2) value
  rw [← returned] at member
  exact ⟨_, member, .install (Prod.ext (Prod.ext rfl library) disposition)⟩

/-- So is a removal. -/
theorem lifecycleStep_remove
    (run :
      Run (Step libraryClient)
        ⟨process.disposition, process.library,
          some (.remove, libraryClient .remove process.library)⟩
        events ⟨after.disposition, after.library, none⟩) :
    LifecycleStep process .remove after := by
  rcases exec_of_run run alone with ⟨result, member, value⟩
  rw [libraryClient, exec_bind, exec_pure] at value
  have library := congrArg (·.1.2) value
  have disposition := congrArg (·.2) value
  exact .remove (Prod.ext (Prod.ext rfl library) disposition)

end Alone

/-! ## The last installation -/

/--
The last effective installation of a history: what it has replaced, and what
has happened since.
-/
structure LastInstall
    (history : List HandlerEvent) (previous : SigAction)
    (later : List HandlerEvent) : Prop where
  split :
    ∃ before cpu,
      history =
        before ++ .exchanged (.install cpu) sigillAction previous :: later
  others : ∀ call new old, .exchanged call new old ∉ later

namespace LastInstall

variable {history later : List HandlerEvent} {previous : SigAction}

theorem concat
    (install : LastInstall history previous later) {event : HandlerEvent}
    (other : ∀ call new old, event ≠ .exchanged call new old) :
    LastInstall (history ++ [event]) previous (later ++ [event]) := by
  rcases install.split with ⟨before, cpu, split⟩
  constructor
  case split => exact ⟨before, cpu, by simp [split]⟩
  case others =>
    intro call new old member
    rcases List.mem_append.mp member with earlier | last
    · exact install.others call new old earlier
    · exact other call new old (List.mem_singleton.mp last).symm

/-- The disposition since an installation. -/
theorem content_eq
    (install : LastInstall history previous later)
    (disposition : SigAction) :
    content disposition history = content sigillAction later := by
  rcases install.split with ⟨before, cpu, rfl⟩
  rw [content, content, List.foldl_append, List.foldl_cons]
  rfl

end LastInstall

/-- An installed library has saved what its last installation replaced. -/
def Remembers (history : List HandlerEvent) (library : Library) : Prop :=
  library.handlerInstalled = true →
    ∃ later, LastInstall history library.oldSigill later

theorem Remembers.concat
    {history : List HandlerEvent} {library : Library}
    (remembers : Remembers history library) {event : HandlerEvent}
    (other : ∀ call new old, event ≠ .exchanged call new old) :
    Remembers (history ++ [event]) library := by
  intro flag
  rcases remembers flag with ⟨later, install⟩
  exact ⟨later ++ [event], install.concat other⟩

/-- Where a call can be, between its first step and its last one. -/
inductive Serving (history : List HandlerEvent) (library : Library) :
    LibraryCall →
      Query SigAction (Except (List Byte) SigAction) (CallResult × Library) →
        Prop
  | installing (cpu : Cpu) {next}
      (answered :
        ∀ old, next (.ok old) = .done (.installed true, library.installed cpu old)) :
      Serving history library (.install cpu) (.ask sigillAction next)
  | removing {saved : SigAction} {next}
      (remembers : Remembers history library)
      (flag : library.handlerInstalled = true)
      (same : saved = library.oldSigill)
      (answered :
        ∀ old, next (.ok old) = .done (.removed, library.removed)) :
      Serving history library .remove (.ask saved next)
  | ended {call : LibraryCall} {result : CallResult} {after : Library}
      (remembers : Remembers history after)
      (active :
        result = .installed true → after.handlerInstalled = true) :
      Serving history library call (.done (result, after))

namespace Serving

variable {history : List HandlerEvent} {library : Library}

/-- A call starts in front of its exchange, or it is over. -/
theorem start
    (remembers : Remembers history library) (call : LibraryCall) :
    Serving history library call (libraryClient call library) := by
  cases call with
  | install cpu =>
      rw [libraryClient_install]
      split_ifs with flag sse41
      · exact .ended remembers fun _ => flag
      · exact .installing cpu fun _ => rfl
      · exact .ended (fun set => absurd set flag) fun same =>
          absurd same (by decide)
  | remove =>
      rw [libraryClient_remove]
      split_ifs with flag
      · exact .removing remembers flag rfl fun _ => rfl
      · exact .ended remembers CallResult.noConfusion

theorem concat
    {call : LibraryCall}
    {program :
      Query SigAction (Except (List Byte) SigAction) (CallResult × Library)}
    (serving : Serving history library call program) {event : HandlerEvent}
    (other : ∀ call new old, event ≠ .exchanged call new old) :
    Serving (history ++ [event]) library call program := by
  cases serving with
  | installing cpu answered => exact .installing cpu answered
  | removing remembers flag same answered =>
      exact .removing (remembers.concat other) flag same answered
  | ended remembers active => exact .ended (remembers.concat other) active

end Serving

/-- The library knows its last installation, in and between its calls. -/
def Informed (history : List HandlerEvent) (state : HandlerState) : Prop :=
  match state.running with
  | none => Remembers history state.store
  | some (call, program) => Serving history state.store call program

theorem Informed.step
    {history : List HandlerEvent} {state next : HandlerState}
    {event : HandlerEvent} (informed : Informed history state)
    (step : Step libraryClient state event next) :
    Informed (history ++ [event]) next := by
  cases step with
  | called call =>
      exact (Serving.start informed call).concat (by simp)
  | @foreign cell store running new =>
      cases running with
      | none => exact Remembers.concat informed (by simp)
      | some call => exact Serving.concat informed (by simp)
  | returned =>
      cases informed with
      | ended remembers active => exact remembers.concat (by simp)
  | @exchanged cell new store call next =>
      cases informed with
      | installing cpu answered =>
          have install :
              LastInstall
                (history ++ [.exchanged (.install cpu) sigillAction cell])
                cell [] :=
            { split := ⟨history, cpu, rfl⟩
              others := by simp }
          simp only [Informed, answered]
          exact .ended (fun _ => ⟨[], install⟩) fun _ => rfl
      | removing remembers flag same answered =>
          simp only [Informed, answered]
          exact .ended (fun set => absurd set Bool.false_ne_true)
            CallResult.noConfusion

theorem Informed.run
    {history : List HandlerEvent} {disposition : SigAction}
    {state : HandlerState}
    (run : Run (Step libraryClient) (loaded disposition) history state) :
    Informed history state := by
  have start : Informed [] (loaded disposition) :=
    fun set => absurd set Bool.false_ne_true
  exact run.history Informed
    (fun _ _ _ _ informed step => informed.step step) start

/-! ## What other code finds -/

/-- The disposition is the library's own, or other code has set it since. -/
def SetSince (later : List HandlerEvent) (disposition : SigAction) : Prop :=
  (∀ new, .foreign new ∉ later) ∧ disposition = sigillAction ∨
    .foreign disposition ∈ later

theorem LastInstall.setSince
    {history later : List HandlerEvent} {previous disposition : SigAction}
    {state : HandlerState} (install : LastInstall history previous later)
    (run : Run (Step libraryClient) (loaded disposition) history state) :
    SetSince later state.cell := by
  rw [run.cell_eq, install.content_eq]
  exact content_eq_or_foreign install.others sigillAction

/-- A reported handler is active. -/
def InstallMeansActive (initial : HandlerState) : Prop :=
  ∀ history state cpu after,
    Run (Step libraryClient) initial history state →
      Step libraryClient state
          (.returned (.install cpu) (.installed true)) after →
        after.cell.saSigaction = .sigillHandler

/-- A removal does not replace what other code has set since. -/
def RemoveKeepsOthers (initial : HandlerState) : Prop :=
  ∀ history state new old after previous later,
    Run (Step libraryClient) initial history state →
      Step libraryClient state (.exchanged .remove new old) after →
        LastInstall history previous later →
          .foreign old ∈ later →
            new = old

/-- What holds of the handler under interference. -/
structure HandlerInterference (initial : HandlerState) : Prop where
  installed :
    ∀ history state cpu after,
      Run (Step libraryClient) initial history state →
        Step libraryClient state
            (.returned (.install cpu) (.installed true)) after →
          ∃ previous later,
            LastInstall history previous later ∧ SetSince later after.cell
  removed :
    ∀ history state new old after,
      Run (Step libraryClient) initial history state →
        Step libraryClient state (.exchanged .remove new old) after →
          ∃ later, LastInstall history new later ∧ SetSince later old

/--
A reported handler is active unless other code has set the disposition since,
and a removal puts back the disposition which the last effective installation
has replaced.
-/
theorem handlerInterference (disposition : SigAction) :
    HandlerInterference (loaded disposition) := by
  constructor
  case installed =>
    intro history state cpu after run step
    have informed := Informed.run run
    cases step with
    | returned =>
        cases informed with
        | ended remembers active =>
            rcases remembers (active rfl) with ⟨later, install⟩
            have since := install.setSince run
            exact ⟨_, later, install, since⟩
  case removed =>
    intro history state new old after run step
    have informed := Informed.run run
    cases step with
    | exchanged =>
        cases informed with
        | removing remembers flag same answered =>
            rcases remembers flag with ⟨later, install⟩
            rw [same]
            exact ⟨later, install, install.setSince run⟩

/-! ## A stale flag -/

/-- A CPU which has SSE 4.1. -/
def sse41Cpu : Cpu := fun leaf =>
  if leaf = 0#32 then ⟨1#32, 0x756E6547#32, 0x6C65746E#32, 0x49656E69#32⟩
  else if leaf = 1#32 then ⟨0#32, 0#32, 0x80000#32, 0#32⟩
  else ⟨0#32, 0#32, 0#32, 0#32⟩

/-- Other code sets the disposition after an installation. -/
theorem run_replaced
    {cpu : Cpu} (sse41 : (detectCpuFeatures cpu).hasSse41 = true)
    (disposition new : SigAction) :
    Run (Step libraryClient) (loaded disposition)
      [.called (.install cpu),
        .exchanged (.install cpu) sigillAction disposition,
        .returned (.install cpu) (.installed true), .foreign new]
      ⟨new, ({} : Library).installed cpu disposition, none⟩ := by
  refine .cons (.called (LibraryCall.install cpu)) ?_
  rw [libraryClient_install, if_neg Bool.false_ne_true, if_pos sse41]
  exact .cons .exchanged (.cons .returned (.cons (.foreign new) (.nil _)))

/-- The library reports its handler, and then drops the one which is there. -/
theorem interference_unnoticed :
    ¬ InstallMeansActive (loaded {}) ∧ ¬ RemoveKeepsOthers (loaded {}) := by
  have sse41 : (detectCpuFeatures sse41Cpu).hasSse41 = true := by decide
  have run := run_replaced sse41 {} { saSigaction := .other 0x1000#64 }
  have flag :
      (({} : Library).installed sse41Cpu {}).handlerInstalled = true :=
    rfl
  constructor
  · intro active
    have again := run.concat (.called (LibraryCall.install sse41Cpu))
    rw [libraryClient_install, if_pos flag] at again
    exact absurd (active _ _ _ _ again .returned) (by decide)
  · intro keeps
    have removal := run.concat (.called LibraryCall.remove)
    rw [libraryClient_remove, if_pos flag] at removal
    have install :
        LastInstall
          [.called (.install sse41Cpu),
            .exchanged (.install sse41Cpu) sigillAction {},
            .returned (.install sse41Cpu) (.installed true),
            .foreign { saSigaction := .other 0x1000#64 }, .called .remove]
          {}
          [.returned (.install sse41Cpu) (.installed true),
            .foreign { saSigaction := .other 0x1000#64 }, .called .remove] :=
      { split := ⟨[.called (.install sse41Cpu)], sse41Cpu, rfl⟩
        others := by simp }
    have same := keeps _ _ _ _ _ _ _ removal .exchanged install (by simp)
    exact absurd same (by decide)

end BadCpu
