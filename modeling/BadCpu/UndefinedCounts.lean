import BadCpu.Footprint
import BadCpu.NarrowOperands
import BadCpu.ZeroCounting

/-!
# Undefined behaviour of the counting builtins

The compiler does not say what its builtins return for zero.  A fault has a
single outcome exactly when no builtin is called outside of its domain, and a
run of such faults is determined by its first machine.
-/

namespace BadCpu

open SharedCell (Run)

/-! ## The counted value -/

/-- With an empty operand in a nonzero source a builtin is called with zero. -/
theorem zeroCountCalls_undefined
    (inst : DecodedInstruction) (isLzcnt : Bool) {src : Word}
    (word : src ≠ 0#64)
    (empty : lowBytes (widthInBytes inst) src = 0#(8 * widthInBytes inst)) :
    ∃ call ∈ zeroCountCalls inst isLzcnt src, ¬ call.Defined := by
  rw [zeroCountCalls, if_neg word]
  rcases width_cases inst with
    ⟨wide, narrow, bytes⟩ | ⟨wide, narrow, bytes⟩ | ⟨wide, narrow, bytes⟩
  · rw [bytes, lowBytes_eight] at empty
    exact absurd empty word
  · rw [bytes] at empty
    have operand : (src.setWidth 16).setWidth 32 = 0#32 := by
      have cut : src.setWidth 16 = 0#16 := empty
      rw [cut]
      rfl
    cases isLzcnt <;> simp [wide, narrow, operand, Call.Defined]
  · rw [bytes] at empty
    have operand : src.setWidth 32 = 0#32 := empty
    cases isLzcnt <;> simp [wide, narrow, operand, Call.Defined]

/-- The builtins are called in their domain, or the operand is empty. -/
theorem zeroCountCalls_defined_iff
    (inst : DecodedInstruction) (isLzcnt : Bool) (src : Word) :
    (∀ call ∈ zeroCountCalls inst isLzcnt src, call.Defined) ↔
      src = 0#64 ∨
        lowBytes (widthInBytes inst) src ≠ 0#(8 * widthInBytes inst) := by
  by_cases word : src = 0#64
  · simp [zeroCountCalls, word]
  by_cases empty :
      lowBytes (widthInBytes inst) src = 0#(8 * widthInBytes inst)
  · rcases zeroCountCalls_undefined inst isLzcnt word empty with
      ⟨call, member, undefined⟩
    refine iff_of_false (fun defined => undefined (defined call member)) ?_
    rintro (zero | filled)
    · exact word zero
    · exact filled empty
  · exact iff_of_true (zeroCountCalls_defined inst isLzcnt empty) (.inr empty)

/-- The count is independent of the builtins exactly in their domain. -/
theorem zeroCountValue_unique_iff
    (inst : DecodedInstruction) (isLzcnt : Bool) (src : Word) :
    (∀ zero zero' : ZeroCounts,
        zeroCountValue zero inst isLzcnt src =
          zeroCountValue zero' inst isLzcnt src) ↔
      ∀ call ∈ zeroCountCalls inst isLzcnt src, call.Defined := by
  rw [zeroCountCalls_defined_iff]
  by_cases word : src = 0#64
  · simp [zeroCountValue, word]
  by_cases empty :
      lowBytes (widthInBytes inst) src = 0#(8 * widthInBytes inst)
  · simp only [word, empty, ne_eq, not_true_eq_false, or_self, iff_false]
    intro unique
    have narrow : is64Bit inst = false := by
      by_contra wide
      have bytes : widthInBytes inst = 8 := by
        simp [widthInBytes, eq_true_of_ne_false wide]
      rw [bytes, lowBytes_eight] at empty
      exact word empty
    have same := unique default ⟨1#32, 1#32, 1#32, 1#32⟩
    rw [zeroCountValue_undefined _ inst isLzcnt word empty,
      zeroCountValue_undefined _ inst isLzcnt word empty] at same
    exact undefinedCount_low_ne isLzcnt narrow
      (congrArg (lowBytes (widthInBytes inst)) same)
  · refine iff_of_true (fun zero zero' => ?_) (.inr empty)
    rw [zeroCountValue_eq zero inst isLzcnt empty,
      zeroCountValue_eq zero' inst isLzcnt empty]

/-! ## Handlers -/

namespace Handler

variable {inst : DecodedInstruction} {machine : Machine}

/-- MOVBE calls no counting builtin. -/
theorem movbeCalls_defined (inst : DecodedInstruction) (machine : Machine) :
    ∀ call ∈ movbeCalls inst machine, call.Defined := by
  intro call member
  rw [movbeCalls, List.mem_append, List.mem_append] at member
  rcases member with (lookup | source) | destination
  · exact rmCalls_defined inst call lookup
  · split_ifs at source
    all_goals
      obtain rfl := List.mem_singleton.mp source
      trivial
  · split_ifs at destination
    all_goals
      simp only [List.mem_cons, List.not_mem_nil, or_false, or_self]
        at destination
      subst destination
      trivial

/-- Only the counts of LZCNT and TZCNT depend on the builtins. -/
theorem value_unique_iff (handler : Handler) :
    (∀ zero zero' : ZeroCounts,
        handler.value zero inst machine = handler.value zero' inst machine) ↔
      ∀ call ∈ handler.calls inst machine, call.Defined := by
  cases handler with
  | popcnt =>
      refine iff_of_true (fun _ _ => rfl) fun call member => ?_
      rw [calls, List.mem_append, List.mem_singleton] at member
      rcases member with lookup | rfl
      · exact rmCalls_defined inst call lookup
      · trivial
  | movbe => exact iff_of_true (fun _ _ => rfl) (movbeCalls_defined inst machine)
  | lzcntTzcnt isLzcnt =>
      have lookups := rmCalls_defined inst
      simp only [value, zeroCountValue_unique_iff, calls, List.mem_append,
        List.mem_singleton]
      constructor
      · rintro counted call ((lookup | builtin) | rfl)
        · exact lookups call lookup
        · exact counted call builtin
        · trivial
      · exact fun defined call builtin => defined call (.inl (.inr builtin))
  | bmi op3 =>
      refine iff_of_true (fun _ _ => rfl) fun call member => ?_
      rw [calls, List.cons_append, List.mem_cons, List.mem_append,
        List.mem_singleton] at member
      rcases member with rfl | lookup | rfl
      · trivial
      · exact rmCalls_defined inst call lookup
      · trivial

theorem flags_unique (zero zero' : ZeroCounts) (handler : Handler) :
    handler.flags zero inst machine = handler.flags zero' inst machine := by
  cases handler <;> rfl

end Handler

/-! ## Faults -/

/-- Commits of the same value end in the same machine. -/
theorem Committed.machine_eq
    {zero zero' : ZeroCounts} {inst : DecodedInstruction} {machine : Machine}
    {handler : Handler} {state state' : EmuState}
    (committed : Committed zero inst machine handler state)
    (committed' : Committed zero' inst machine handler state')
    (value : handler.value zero inst machine = handler.value zero' inst machine) :
    state.machine = state'.machine := by
  have gregs : state.machine.gregs = state'.machine.gregs := by
    funext greg
    by_cases efl : greg = .efl
    · rw [efl, committed.flags, committed'.flags]
      exact handler.flags_unique zero zero'
    by_cases pointer : greg = .rip
    · rw [pointer, committed.rip, committed'.rip]
    by_cases destination : gregOf inst.reg = some greg
    · have written := committed.destination
      have written' := committed'.destination
      simp only [regValue, destination] at written written'
      rw [written, written', value]
    · rw [committed.general greg efl pointer destination,
        committed'.general greg efl pointer destination]
  have memory : state.machine.memory = state'.machine.memory :=
    committed.memory.trans committed'.memory.symm
  calc
    state.machine = ⟨state.machine.gregs, state.machine.memory⟩ := rfl
    _ = ⟨state'.machine.gregs, state'.machine.memory⟩ := by rw [gregs, memory]
    _ = state'.machine := rfl

/-- No builtin is called outside of its domain. -/
def BuiltinsDefined (features : CpuFeatures) (machine : Machine) : Prop :=
  ∀ call ∈ faultCalls features machine, call.Defined

/-- A fault without undefined behaviour. -/
def DefinedStep
    (features : CpuFeatures) (machine : Machine) (inst : DecodedInstruction)
    (after : Machine) : Prop :=
  BuiltinsDefined features machine ∧ FaultStep features machine inst after

theorem builtinsDefined_iff
    {features : CpuFeatures} {machine : Machine} {handler : Handler}
    (selected : selectedHandler machine.code features = some handler) :
    BuiltinsDefined features machine ↔
      ∀ zero zero' : ZeroCounts,
        handler.value zero (decodeInstruction machine.code) machine =
          handler.value zero' (decodeInstruction machine.code) machine := by
  rw [handler.value_unique_iff, BuiltinsDefined, faultCalls, selected]

/-- A builtin is called with zero for an empty operand in a nonzero source. -/
theorem builtinsDefined_zeroCount_iff
    {features : CpuFeatures} {machine : Machine} {isLzcnt : Bool}
    (selected :
      selectedHandler machine.code features = some (.lzcntTzcnt isLzcnt)) :
    BuiltinsDefined features machine ↔
      rmValue (decodeInstruction machine.code) machine.gregs = 0#64 ∨
        lowBytes (widthInBytes (decodeInstruction machine.code))
            (rmValue (decodeInstruction machine.code) machine.gregs) ≠
          0#(8 * widthInBytes (decodeInstruction machine.code)) := by
  rw [builtinsDefined_iff selected, ← zeroCountCalls_defined_iff _ isLzcnt,
    ← zeroCountValue_unique_iff]
  rfl

/-- Without undefined behaviour a fault has one outcome. -/
theorem DefinedStep.unique
    {features : CpuFeatures} {machine after after' : Machine}
    {inst inst' : DecodedInstruction}
    (defined : DefinedStep features machine inst after)
    (step : FaultStep features machine inst' after') :
    inst' = inst ∧ after' = after := by
  rcases faultStep_iff.mp defined.2 with
    ⟨rfl, zero, handler, state, selected, committed, rfl, -⟩
  rcases faultStep_iff.mp step with
    ⟨rfl, zero', handler', state', selected', committed', rfl, -⟩
  obtain rfl := Option.some.inj (selected.symm.trans selected')
  have value := (builtinsDefined_iff selected).mp defined.1 zero' zero
  exact ⟨rfl, committed'.machine_eq committed value⟩

/-! ## Results -/

/--
A fault at a recognised instruction has a single outcome exactly when the
handler calls its builtins in their domain.
-/
theorem faultStep_single_iff
    {features : CpuFeatures} {machine : Machine}
    (accepted : (selectedHandler machine.code features).isSome = true) :
    (∃! after,
        FaultStep features machine (decodeInstruction machine.code) after) ↔
      BuiltinsDefined features machine := by
  constructor
  · rintro ⟨outcome, -, only⟩
    rcases Option.isSome_iff_exists.mp accepted with ⟨handler, selected⟩
    rw [builtinsDefined_iff selected]
    intro zero zero'
    rcases sigillHandler_some zero selected with ⟨state, run, committed⟩
    rcases sigillHandler_some zero' selected with ⟨state', run', committed'⟩
    rw [← committed.destination, ← committed'.destination,
      only state.machine ⟨rfl, zero, run⟩,
      only state'.machine ⟨rfl, zero', run'⟩]
  · intro defined
    rcases exists_faultStep accepted with ⟨after, step⟩
    exact ⟨after, step, fun other step' =>
      (DefinedStep.unique ⟨defined, step⟩ step').2⟩

/-- `lzcnt eax, ecx` and `tzcnt ebx, ecx`, with six in `ecx` -/
def zerosMachine : Machine :=
  codeMachine
    [0xF3#8, 0x0F#8, 0xBD#8, 0xC1#8, 0xF3#8, 0x0F#8, 0xBC#8, 0xD9#8] 0#64

/-- The builtin is called with six. -/
theorem builtinsDefined_lzcnt : BuiltinsDefined {} zerosMachine := by
  have selected :
      selectedHandler zerosMachine.code {} = some (.lzcntTzcnt true) := by
    decide
  exact (builtinsDefined_zeroCount_iff selected).mpr (.inr (by decide))

/-- `lzcnt eax, ecx` has a single outcome. -/
theorem faultStep_single_lzcnt :
    ∃! after,
      FaultStep {} zerosMachine (decodeInstruction zerosMachine.code) after :=
  (faultStep_single_iff (by decide)).mpr builtinsDefined_lzcnt

/--
A run without undefined behaviour is determined by the machine it starts with
and by the number of its faults.
-/
theorem faultRun_deterministic
    {features : CpuFeatures} {machine after after' : Machine}
    {insts insts' : List DecodedInstruction}
    (run : Run (DefinedStep features) machine insts after)
    (run' : Run (FaultStep features) machine insts' after')
    (length : insts'.length = insts.length) :
    insts' = insts ∧ after' = after := by
  induction run generalizing insts' with
  | nil =>
      obtain rfl := List.eq_nil_of_length_eq_zero length
      exact ⟨rfl, run'.eq_of_nil.symm⟩
  | cons defined _ ih =>
      rcases run' with _ | ⟨step, rest⟩
      · exact absurd length.symm (Nat.succ_ne_zero _)
      · rcases defined.unique step with ⟨rfl, rfl⟩
        rcases ih rest (Nat.succ.inj length) with ⟨rfl, rfl⟩
        exact ⟨rfl, rfl⟩

/-- Behind `lzcnt eax, ecx` the source of `tzcnt ebx, ecx` is the same. -/
theorem builtinsDefined_tzcnt
    {inst : DecodedInstruction} {next : Machine}
    (step : FaultStep {} zerosMachine inst next) :
    (selectedHandler next.code {}).isSome = true ∧ BuiltinsDefined {} next := by
  rcases step.frame with ⟨frame, memory⟩
  have code : next.code = fetch zerosMachine.memory 4#64 := by
    rw [Machine.code, memory, step.rip, step.1]
    congr 1
  have selected : selectedHandler next.code {} = some (.lzcntTzcnt false) := by
    rw [code]
    decide
  have source : rmValue (decodeInstruction next.code) next.gregs = 6#64 := by
    have kept : next.gregs .rcx = zerosMachine.gregs .rcx := by
      apply frame.general
      · decide
      · decide
      · rw [step.1]
        decide
    rw [code]
    exact kept
  rw [builtinsDefined_zeroCount_iff selected, source, selected, code]
  decide

/-- Two faults at these instructions can only end in one way. -/
theorem faultRun_deterministic_zeros :
    ∃ after, ∀ insts' after',
      Run (FaultStep {}) zerosMachine insts' after' →
        insts'.length = 2 → after' = after := by
  have first : ∃ next, FaultStep {} zerosMachine _ next :=
    exists_faultStep (by decide)
  rcases first with ⟨next, first⟩
  rcases builtinsDefined_tzcnt first with ⟨accepted, defined⟩
  rcases exists_faultStep accepted with ⟨after, second⟩
  refine ⟨after, fun insts' after' run' length => ?_⟩
  exact
    (faultRun_deterministic
      (.cons ⟨builtinsDefined_lzcnt, first⟩
        (.cons ⟨defined, second⟩ (.nil after)))
      run' length).2

end BadCpu
