import BadCpu.Dispatch
import BadCpu.OperandWidth

/-!
# BMI operations at the operand width

The BMI handler computes in 64 bits and cuts the result at the end.  This is
the same as computing at the operand width, for every operation of its switch.
The values of BLSI, BLSMSK and BLSR are determined by the lowest set bit of the
second operand.
-/

namespace BadCpu

open BitKernels

/-- The operand width of the BMI handler in bytes. -/
def bmiLength (inst : DecodedInstruction) : ℕ :=
  if is64Bit inst then 8 else 4

/-- The operation of an opcode, on operands of any width. -/
def bmiAt {width : ℕ} (op3 : Byte) (src1 src2 : BitVec width) :
    BitVec width :=
  if op3 = 0xF2#8 then src1 &&& ~~~src2
  else if op3 = 0xF3#8 then isolate src2
  else if op3 = 0xF1#8 then maskThrough src2
  else clear src2

theorem bmiLength_le (inst : DecodedInstruction) : 8 * bmiLength inst ≤ 64 := by
  rw [bmiLength]
  split_ifs <;> decide

/-- Cutting the result keeps its low bytes. -/
theorem truncateResult_eq (inst : DecodedInstruction) (result : Word) :
    truncateResult inst result =
      (lowBytes (bmiLength inst) result).setWidth 64 := by
  cases wide : is64Bit inst with
  | true =>
      have bytes : bmiLength inst = 8 := by simp [bmiLength, wide]
      rw [bytes, lowBytes_eight, truncateResult, if_pos wide]
      exact (BitVec.setWidth_eq result).symm
  | false =>
      have bytes : bmiLength inst = 4 := by simp [bmiLength, wide]
      have mask : 0xFFFFFFFF#64 = (BitVec.allOnes 32).setWidth 64 := rfl
      rw [bytes, truncateResult, wide, if_neg Bool.false_ne_true, mask,
        lowBytes]
      apply BitVec.eq_of_getLsbD_eq
      intro bit bound
      rw [BitVec.getLsbD_and, BitVec.getLsbD_setWidth, BitVec.getLsbD_allOnes,
        BitVec.getLsbD_setWidth, BitVec.getLsbD_setWidth]
      simp only [bound, decide_true, Bool.true_and]
      exact Bool.and_comm _ _

/-- Every operation commutes with truncation. -/
theorem lowBytes_bmiOperation
    {op3 : Byte} (supported : isBmiOpcode op3 = true) {n : ℕ}
    (narrow : 8 * n ≤ 64) (src1 src2 : Word) :
    lowBytes n ((bmiOperation op3 src1 src2).getD 0#64) =
      bmiAt op3 (lowBytes n src1) (lowBytes n src2) := by
  have opcodes :
      ((op3 = 0xF2#8 ∨ op3 = 0xF3#8) ∨ op3 = 0xF1#8) ∨ op3 = 0xF4#8 := by
    simpa [isBmiOpcode] using supported
  rcases opcodes with ((rfl | rfl) | rfl) | rfl
  · change (src1 &&& ~~~src2).setWidth (8 * n) =
      src1.setWidth (8 * n) &&& ~~~src2.setWidth (8 * n)
    rw [BitVec.setWidth_and, BitVec.setWidth_not narrow]
  · exact setWidth_isolate src2 (8 * n)
  · exact setWidth_maskThrough src2 narrow
  · exact setWidth_clear src2 (8 * n)

/-! ## The values of the kernels -/

/-- The value which a case of the switch writes. -/
def bmiWritten (inst : DecodedInstruction) (op3 : Byte) (src1 src2 : Word) :
    Word :=
  truncateResult inst ((bmiOperation op3 src1 src2).getD 0#64)

/-- The three kernels of the lowest set bit, as numbers. -/
structure LowestBitKernels
    {width : ℕ} (x : BitVec width) (blsi blsmsk blsr : Word) : Prop where
  found :
    x ≠ 0#(width) →
      ∃ k, LowestAt x k ∧ blsi.toNat = 2 ^ k ∧
        blsmsk.toNat = 2 ^ (k + 1) - 1 ∧ blsr.toNat = x.toNat - 2 ^ k
  empty :
    x = 0#(width) →
      blsi.toNat = 0 ∧ blsmsk.toNat = 2 ^ width - 1 ∧ blsr.toNat = 0
  disjoint : blsi &&& blsr = 0#64
  sum : blsi.toNat + blsr.toNat = x.toNat

/-- A result cut at the end is the result at the operand width. -/
structure ComputedAt
    (n : ℕ) (op3 : Byte) (src1 src2 written : Word) : Prop where
  upper : ∀ bit ≥ 8 * n, written.getLsbD bit = false
  direct :
    written = (bmiAt op3 (lowBytes n src1) (lowBytes n src2)).setWidth 64

/-- The switch of `emulate_bmi` is right for two source values. -/
structure BmiKernel
    (inst : DecodedInstruction) (src1 src2 : Word) : Prop where
  lowest :
    LowestBitKernels (lowBytes (bmiLength inst) src2)
      (bmiWritten inst 0xF3#8 src1 src2) (bmiWritten inst 0xF1#8 src1 src2)
      (bmiWritten inst 0xF4#8 src1 src2)
  computed :
    ∀ op3, isBmiOpcode op3 = true →
      ComputedAt (bmiLength inst) op3 src1 src2
        (bmiWritten inst op3 src1 src2)
  /-- The handler succeeds in every case, and leaves its value behind. -/
  written :
    ∀ op3, isBmiOpcode op3 = true →
      ∀ state : EmuState,
        (gregOf inst.reg).isSome = true →
          regValue state.machine.gregs inst.reg = src1 →
            rmValue inst state.machine.gregs = src2 →
              ∃ after,
                (emulateBmi op3 inst).run state = some (.success, after) ∧
                  regValue after.machine.gregs inst.reg =
                    bmiWritten inst op3 src1 src2

/-- The kernels of a word, zero-extended. -/
theorem lowestBitKernels {width : ℕ} (narrow : width ≤ 64) (x : BitVec width) :
    LowestBitKernels x ((isolate x).setWidth 64)
      ((maskThrough x).setWidth 64) ((clear x).setWidth 64) := by
  have value (word : BitVec width) : (word.setWidth 64).toNat = word.toNat :=
    BitVec.toNat_setWidth_of_le narrow
  have sum := isolate_add_clear x
  constructor
  case found =>
    intro nonzero
    rcases exists_lowestAt nonzero with ⟨k, lowest⟩
    have single := lowest.isolate_toNat
    refine ⟨k, lowest, ?_, ?_, ?_⟩
    · rw [value, single]
    · rw [value, lowest.maskThrough_toNat]
    · rw [value]
      omega
  case empty =>
    rintro rfl
    simp [isolate, clear, value, maskThrough_zero, BitVec.toNat_allOnes]
  case disjoint =>
    rw [← BitVec.setWidth_and, isolate_and_clear]
    simp
  case sum => rw [value, value, sum]

/-- The switch at the operand width. -/
theorem bmiWritten_eq
    (inst : DecodedInstruction) {op3 : Byte}
    (supported : isBmiOpcode op3 = true) (src1 src2 : Word) :
    bmiWritten inst op3 src1 src2 =
      (bmiAt op3 (lowBytes (bmiLength inst) src1)
        (lowBytes (bmiLength inst) src2)).setWidth 64 := by
  rw [bmiWritten, truncateResult_eq,
    lowBytes_bmiOperation supported (bmiLength_le inst)]

/-- The value which the BMI handler writes. -/
theorem bmiValue_eq
    (zero : ZeroCounts) (inst : DecodedInstruction) (machine : Machine)
    {op3 : Byte} (supported : isBmiOpcode op3 = true) :
    (Handler.bmi op3).value zero inst machine =
      (bmiAt op3
        (lowBytes (bmiLength inst) (regValue machine.gregs inst.reg))
        (lowBytes (bmiLength inst) (rmValue inst machine.gregs))).setWidth
          64 :=
  bmiWritten_eq inst supported _ _

/-- What a case of the switch leaves in its destination and in the flags. -/
structure BmiCommitted
    (op3 : Byte) (inst : DecodedInstruction) (before after : Machine) :
    Prop where
  destination :
    regValue after.gregs inst.reg =
      bmiWritten inst op3 (regValue before.gregs inst.reg)
        (rmValue inst before.gregs)
  flags :
    after.gregs .efl =
      bmiFlags inst (before.gregs .efl)
        (bmiWritten inst op3 (regValue before.gregs inst.reg)
          (rmValue inst before.gregs))

/-- Every case of the switch succeeds, with an existing destination. -/
theorem exists_emulateBmi_success
    {op3 : Byte} (supported : isBmiOpcode op3 = true)
    {inst : DecodedInstruction} {p : Greg} (valid : gregOf inst.reg = some p)
    (state : EmuState) :
    ∃ after,
      (emulateBmi op3 inst).run state = some (.success, after) ∧
        BmiCommitted op3 inst state.machine after.machine := by
  have selected := Handler.bmiOperation_supported supported
    (regValue state.machine.gregs inst.reg) (rmValue inst state.machine.gregs)
  refine ⟨_, emulateBmi_run valid state selected, ?_⟩
  constructor
  case destination =>
    rw [regValue, valid]
    exact commit_destination valid _ _
  case flags =>
    exact commit_efl state.machine.gregs inst p
      (bmiWritten inst op3 (regValue state.machine.gregs inst.reg)
        (rmValue inst state.machine.gregs)) _

/-- A successful run is in a case of the switch, and its destination exists. -/
theorem emulateBmi_success
    {op3 : Byte} {inst : DecodedInstruction} {state after : EmuState}
    (run : (emulateBmi op3 inst).run state = some (.success, after)) :
    BmiCommitted op3 inst state.machine after.machine := by
  cases supported : isBmiOpcode op3 with
  | false =>
      simp only [isBmiOpcode, Bool.or_eq_false_iff, beq_eq_false_iff_ne]
        at supported
      rcases supported with ⟨⟨⟨andn, blsi⟩, blsmsk⟩, blsr⟩
      simp [emulateBmi, bmiOperation, andn, blsi, blsmsk, blsr] at run
  | true =>
      cases valid : gregOf inst.reg with
      | none =>
          have selected :=
            Handler.bmiOperation_supported supported
              (regValue state.machine.gregs inst.reg)
              (rmValue inst state.machine.gregs)
          generalize Option.getD _ 0#64 = result at selected
          simp [emulateBmi, selected, assignReg, getRegPtr, valid] at run
      | some p =>
          rcases exists_emulateBmi_success supported valid state with
            ⟨after', run', committed⟩
          rw [run, Option.some.injEq, Prod.mk.injEq] at run'
          rw [run'.2]
          exact committed

/-- The switch of `emulate_bmi` is right, for all source values. -/
theorem bmiKernel (inst : DecodedInstruction) (src1 src2 : Word) :
    BmiKernel inst src1 src2 where
  lowest := by
    rw [bmiWritten_eq inst (by decide), bmiWritten_eq inst (by decide),
      bmiWritten_eq inst (by decide)]
    exact lowestBitKernels (bmiLength_le inst) _
  computed := by
    intro op3 supported
    have direct := bmiWritten_eq inst supported src1 src2
    refine ⟨?_, direct⟩
    intro bit upper
    rw [direct, BitVec.getLsbD_setWidth, BitVec.getLsbD_of_ge _ bit upper,
      Bool.and_false]
  written := by
    rintro op3 supported state register rfl rfl
    rcases Option.isSome_iff_exists.mp register with ⟨p, valid⟩
    rcases exists_emulateBmi_success supported valid state with
      ⟨after, run, committed⟩
    exact ⟨after, run, committed.destination⟩

end BadCpu
