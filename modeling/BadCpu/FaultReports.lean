import BadCpu.FaultHandler

/-!
# Reports of refused instructions

A report is read back: the bytes which it names are those of the instruction.
As long as the opcode is among them, they also explain the refusal, because the
dispatcher never looks behind the opcode byte for anything but the operands.
-/

namespace BadCpu

open AdaptiveQuery HexText

/-! ## Reading a report -/

/-- The bytes which a report names. -/
def reportedBytes (text : List Byte) : List Byte :=
  readDump (text.drop reportHeader.length)

theorem reportedBytes_bytesReport
    (ip : Code) (count : ℕ) (rest : List Byte) :
    reportedBytes (bytesReport ip count ++ rest) = ip.take count := by
  have newline : (literalBytes "\n" ++ rest).head? ≠ some space := by
    rw [List.head?_append]
    exact (by decide : some 10#8 ≠ some space)
  rw [reportedBytes, bytesReport, List.append_assoc, List.append_assoc,
    List.drop_left]
  exact readDump_dump _ newline

theorem reportedBytes_unrecognized (ip : Code) (sig : ℕ) :
    reportedBytes (unrecognizedReport ip sig) = ip.take 16 := by
  simp only [unrecognizedReport, List.append_assoc]
  exact reportedBytes_bytesReport ip 16 _

/-- The process ends with a report which names the first bytes of a stream. -/
def HandlerOutcome.Reports (ip : Code) (count : ℕ) : HandlerOutcome → Prop
  | .returned _ => False
  | .exited _ text => reportedBytes text = ip.take count

/--
Both functions which end the process name the bytes which they are about: the
handler, unless it returns, and `fatal_unrecognized_instruction`.
-/
theorem reportedBytes_report (ip : Code) (sig maxLen : ℕ) :
    reportedBytes (unrecognizedReport ip sig) = ip.take 16 ∧
      (∀ zero features machine outcome,
        machine.code = ip →
          sigillHandler zero sig features machine = some outcome →
            (∃ next, outcome = .returned next) ∨ outcome.Reports ip 16) ∧
      (fatalUnrecognizedInstruction ip maxLen).Reports ip (min maxLen 16) := by
  refine ⟨reportedBytes_unrecognized ip sig, ?_, ?_⟩
  · rintro zero features machine outcome rfl handled
    cases outcome with
    | returned next => exact .inl ⟨next, rfl⟩
    | exited status text =>
        right
        by_cases other : sig ≠ SIGILL
        · rw [sigillHandler, if_pos other] at handled
          exact absurd (Option.some.inj handled) HandlerOutcome.noConfusion
        · rw [not_not.mp other] at handled
          rw [(sigillHandler_exited handled).2.1]
          exact reportedBytes_unrecognized _ _
  · simp only [fatalUnrecognizedInstruction, HandlerOutcome.Reports,
      fatalReport, List.append_assoc]
    exact reportedBytes_bytesReport ip _ _

/-! ## What a refusal depends on -/

/-- The handler is selected as soon as the head is decoded. -/
theorem selectedHandler_eq_head (ip : Code) (features : CpuFeatures) :
    selectedHandler ip features =
      selectHandler
        { (layoutHead ip).inst with
          hasModrm :=
            needsModrm (layoutHead ip) && decide ((layoutHead ip).pos < 15) }
        features := by
  rw [selectHandler_eq features
    (show _ = (opcodeMap ip).opcode (opcodeByte ip) from rfl)]
  simp only [needsModrm_layoutHead]
  rw [selectedHandler, ← prefixedInstruction_isVex]
  rfl

/-- Streams which agree up to the opcode byte select the same handler. -/
theorem selectedHandler_congr
    {left right : Code} (features : CpuFeatures)
    (agree :
      ∀ index ≤ opcodeIndex left, left.get index = right.get index) :
    selectedHandler left features = selectedHandler right features := by
  have head : decodeHead.run left.get = decodeHead.run right.get :=
    Query.run_congr decodeHead fun index member =>
      agree index (mem_decodeHead_asked member)
  rw [(decodeHead_spec left).1, (decodeHead_spec right).1] at head
  rw [selectedHandler_eq_head, selectedHandler_eq_head, head]

/-- The first bytes of a stream, in front of any other ones. -/
theorem get_take_append
    {α : Type} (stream tail : Stream' α) {count index : ℕ}
    (within : index < count) :
    (stream.take count ++ₛ tail).get index = stream.get index := by
  have inside : index < (stream.take count).length := by
    rwa [Stream'.length_take]
  rw [Stream'.get_append_left _ _ _ inside]
  exact Stream'.take_get _ _ _ inside

/--
The bytes of a report are refused again, whatever follows them, if the opcode
of the refused instruction is among them.
-/
theorem refusal_reproduced
    {zero : ZeroCounts} {features : CpuFeatures} {machine : Machine}
    {status : ℕ} {text : List Byte}
    (exit :
      sigillHandler zero SIGILL features machine =
        some (.exited status text))
    (reported : opcodeIndex machine.code < 16)
    (tail : Code) (zero' : ZeroCounts) (machine' : Machine) :
    status = 132 ∧
      emulate zero' (reportedBytes text ++ₛ tail) features machine' =
        some (.unrecognizedInstruction, { machine := machine', calls := [] }) := by
  rcases sigillHandler_exited exit with ⟨rfl, rfl, selected⟩
  refine ⟨rfl, emulate_none zero' machine' ?_⟩
  rw [reportedBytes_unrecognized, ← selected]
  refine (selectedHandler_congr features fun index before => ?_).symm
  exact (get_take_append _ tail (by omega)).symm

/-- NOP is refused again in front of `popcnt eax, eax`. -/
theorem refusal_reproduced_nop :
    emulate default
      (reportedBytes
          (unrecognizedReport (fetch (fun _ => 0x90#8) 0#64) SIGILL) ++ₛ
        codeOfBytes [0xF3#8, 0x0F#8, 0xB8#8, 0xC0#8])
      {} ⟨fun _ => 1#64, fun _ => 0x90#8⟩ =
      some
        (.unrecognizedInstruction,
          { machine := ⟨fun _ => 1#64, fun _ => 0x90#8⟩, calls := [] }) := by
  have refused :
      selectedHandler (Machine.code ⟨fun _ => 0#64, fun _ => 0x90#8⟩) {} =
        none := by
    decide
  exact
    (refusal_reproduced (sigillHandler_none default refused)
      (by decide) _ _ _).2

end BadCpu
