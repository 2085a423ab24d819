import Mathlib.Data.BitVec

/-!
# Bit kernels

The kernels `x & -x`, `x ^ (x - 1)` and `x & (x - 1)` around the lowest set bit
are described bit by bit: a bit of the result depends on the same bit of the
operand and on whether all lower bits are clear.  The counts of leading and
trailing zeros are characterised by the highest and the lowest set bit, which
gives their behaviour under zero extension.  As numbers the kernels are powers
of two around the lowest set bit.
-/

namespace BadCpu.BitKernels

variable {width : ℕ}

/-! ## Clear low bits -/

/-- The bits below a position are clear. -/
def ClearBelow (word : BitVec width) (position : ℕ) : Prop :=
  ∀ lower < position, word.getLsbD lower = false

instance (word : BitVec width) (position : ℕ) :
    Decidable (ClearBelow word position) :=
  inferInstanceAs (Decidable (∀ lower < position, _))

theorem exists_set_below_iff (word : BitVec width) (position : ℕ) :
    (∃ lower < position, word.getLsbD lower = true) ↔
      ¬ ClearBelow word position := by
  simp [ClearBelow]

/-- Truncation keeps the low bits. -/
theorem clearBelow_setWidth
    {narrow : ℕ} (word : BitVec width) {position : ℕ}
    (inside : position ≤ narrow) :
    ClearBelow (word.setWidth narrow) position ↔ ClearBelow word position := by
  rw [ClearBelow]
  apply forall₂_congr
  intro lower below
  have bound : lower < narrow := by omega
  simp [bound]

/-! ## Single bits -/

/-- Testing one bit of a word with a mask. -/
theorem and_bit_ne_zero_iff
    (word : BitVec width) {bit : ℕ} (inside : bit < width) :
    word &&& (1#(width) <<< bit) ≠ 0#(width) ↔ word.getLsbD bit = true := by
  rw [← BitVec.twoPow_eq, BitVec.and_twoPow]
  split_ifs with set
  · refine ⟨fun _ => set, fun _ zero => ?_⟩
    have bits := congrArg (fun mask => mask.getLsbD bit) zero
    rw [BitVec.getLsbD_twoPow, BitVec.getLsbD_zero] at bits
    simp [inside] at bits
  · exact ⟨fun nonzero => absurd rfl nonzero, fun other => absurd other set⟩

/-! ## The kernels -/

/-- Only the lowest set bit. -/
def isolate (word : BitVec width) : BitVec width :=
  word &&& -word

/-- The bits up to and including the lowest set bit. -/
def maskThrough (word : BitVec width) : BitVec width :=
  word ^^^ (word - 1#(width))

/-- All but the lowest set bit. -/
def clear (word : BitVec width) : BitVec width :=
  word &&& (word - 1#(width))

theorem getLsbD_neg_word (word : BitVec width) {bit : ℕ} (bound : bit < width) :
    (-word).getLsbD bit =
      (word.getLsbD bit ^^ !decide (ClearBelow word bit)) := by
  rw [BitVec.getLsbD_neg]
  simp [bound, exists_set_below_iff]

/-- Subtracting one complements the negative. -/
theorem getLsbD_sub_one (word : BitVec width) {bit : ℕ} (bound : bit < width) :
    (word - 1#(width)).getLsbD bit =
      (word.getLsbD bit ^^ decide (ClearBelow word bit)) := by
  rw [← BitVec.not_neg, BitVec.getLsbD_not, getLsbD_neg_word word bound]
  cases word.getLsbD bit <;> simp [bound]

theorem getLsbD_isolate (word : BitVec width) (bit : ℕ) :
    (isolate word).getLsbD bit =
      (word.getLsbD bit && decide (ClearBelow word bit)) := by
  by_cases bound : bit < width
  · rw [isolate, BitVec.getLsbD_and, getLsbD_neg_word word bound]
    cases word.getLsbD bit <;> simp
  · simp [isolate, BitVec.getLsbD_of_ge word bit (by omega)]

theorem getLsbD_maskThrough (word : BitVec width) (bit : ℕ) :
    (maskThrough word).getLsbD bit =
      (decide (bit < width) && decide (ClearBelow word bit)) := by
  by_cases bound : bit < width
  · rw [maskThrough, BitVec.getLsbD_xor, getLsbD_sub_one word bound]
    cases word.getLsbD bit <;> simp [bound]
  · rw [BitVec.getLsbD_of_ge _ bit (by omega)]
    simp [bound]

theorem getLsbD_clear (word : BitVec width) (bit : ℕ) :
    (clear word).getLsbD bit =
      (word.getLsbD bit && !decide (ClearBelow word bit)) := by
  by_cases bound : bit < width
  · rw [clear, BitVec.getLsbD_and, getLsbD_sub_one word bound]
    cases word.getLsbD bit <;> simp
  · simp [clear, BitVec.getLsbD_of_ge word bit (by omega)]

/-! ### Truncation -/

theorem setWidth_isolate (word : BitVec width) (narrow : ℕ) :
    (isolate word).setWidth narrow = isolate (word.setWidth narrow) := by
  apply BitVec.eq_of_getLsbD_eq
  intro bit bound
  simp only [BitVec.getLsbD_setWidth, getLsbD_isolate,
    clearBelow_setWidth word bound.le, Bool.and_assoc]

theorem setWidth_maskThrough
    {narrow : ℕ} (word : BitVec width) (inside : narrow ≤ width) :
    (maskThrough word).setWidth narrow = maskThrough (word.setWidth narrow) := by
  apply BitVec.eq_of_getLsbD_eq
  intro bit bound
  have wide : bit < width := by omega
  simp only [BitVec.getLsbD_setWidth, getLsbD_maskThrough,
    clearBelow_setWidth word bound.le, wide, decide_true, Bool.true_and]

theorem setWidth_clear (word : BitVec width) (narrow : ℕ) :
    (clear word).setWidth narrow = clear (word.setWidth narrow) := by
  apply BitVec.eq_of_getLsbD_eq
  intro bit bound
  simp only [BitVec.getLsbD_setWidth, getLsbD_clear,
    clearBelow_setWidth word bound.le, Bool.and_assoc]

/-! ### Comparison -/

/-- Isolating and clearing the lowest bit agree only if there is none. -/
theorem isolate_eq_clear_iff (word : BitVec width) :
    isolate word = clear word ↔ word = 0#(width) := by
  constructor
  · intro equal
    apply BitVec.eq_of_getLsbD_eq
    intro bit _
    have bits := congrArg (fun result => result.getLsbD bit) equal
    simp only [getLsbD_isolate, getLsbD_clear] at bits
    rw [BitVec.getLsbD_zero]
    cases lowest : decide (ClearBelow word bit) with
    | true => simpa [lowest] using bits
    | false => simpa [lowest] using bits.symm
  · rintro rfl
    simp [isolate, clear]

/-- The mask through the lowest bit is that bit alone only at the bottom. -/
theorem isolate_eq_maskThrough_iff
    (word : BitVec width) (nonempty : 0 < width) :
    isolate word = maskThrough word ↔ word.getLsbD 0 = true := by
  have bottom : ClearBelow word 0 := by
    intro lower below
    omega
  constructor
  · intro equal
    have bits := congrArg (fun result => result.getLsbD 0) equal
    rw [getLsbD_isolate, getLsbD_maskThrough, decide_eq_true bottom,
      decide_eq_true nonempty, Bool.and_true] at bits
    exact bits
  · intro odd
    apply BitVec.eq_of_getLsbD_eq
    intro bit bound
    rw [getLsbD_isolate, getLsbD_maskThrough]
    cases bit with
    | zero => rw [odd, decide_eq_true bottom, decide_eq_true nonempty]
    | succ bit =>
        have above : ¬ ClearBelow word (bit + 1) := by
          intro clear
          rw [clear 0 (Nat.succ_pos bit)] at odd
          exact absurd odd (by decide)
        rw [decide_eq_false above, Bool.and_false, Bool.and_false]

/-- Complementing one operand or the other gives the same only in a chain. -/
theorem and_not_eq_not_and_iff (first second third : BitVec width) :
    first &&& ~~~second = ~~~third &&& second ↔
      ∀ bit < width,
        (first.getLsbD bit = true → second.getLsbD bit = true) ∧
          (second.getLsbD bit = true → third.getLsbD bit = true) := by
  have bitwise {bit : ℕ} (bound : bit < width) :
      (first &&& ~~~second).getLsbD bit = (~~~third &&& second).getLsbD bit ↔
        (first.getLsbD bit = true → second.getLsbD bit = true) ∧
          (second.getLsbD bit = true → third.getLsbD bit = true) := by
    rw [BitVec.getLsbD_and, BitVec.getLsbD_and, BitVec.getLsbD_not,
      BitVec.getLsbD_not, decide_eq_true bound]
    cases first.getLsbD bit <;> cases second.getLsbD bit <;>
      cases third.getLsbD bit <;> decide
  constructor
  · intro equal bit bound
    exact (bitwise bound).mp (congrArg (fun word => word.getLsbD bit) equal)
  · intro chain
    apply BitVec.eq_of_getLsbD_eq
    intro bit bound
    exact (bitwise bound).mpr (chain bit bound)

/-! ## Zero counts -/

/-- Only the word without a set bit has none. -/
theorem cpop_eq_zero_iff (word : BitVec width) :
    word.cpop.toNat = 0 ↔ word = 0#(width) := by
  constructor
  · intro none
    induction word with
    | nil => rfl
    | cons b word ih =>
        rw [BitVec.toNat_cpop_cons] at none
        cases b with
        | true => simp at none
        | false => rw [ih (by omega), BitVec.false_cons_zero]
  · rintro rfl
    rw [BitVec.cpop_zero]
    rfl

theorem clz_lt {word : BitVec width} (nonzero : word ≠ 0#(width)) :
    word.clz.toNat < width := by
  have below := BitVec.clz_lt_iff_ne_zero.mpr nonzero
  simpa [BitVec.lt_def] using below

theorem ctz_lt {word : BitVec width} (nonzero : word ≠ 0#(width)) :
    word.ctz.toNat < width :=
  BitVec.lt_of_getLsbD (BitVec.getLsbD_true_ctz_of_ne_zero nonzero)

/-- Behind the leading zeros stands the highest set bit. -/
theorem clz_add_log2
    {word : BitVec width} (nonzero : word ≠ 0#(width)) :
    word.clz.toNat + word.toNat.log2 + 1 = width := by
  have count := clz_lt nonzero
  have positive : 0 < width := by omega
  have lower := BitVec.two_pow_sub_clz_le_toNat_of_ne_zero positive nonzero
  have upper := BitVec.toNat_lt_two_pow_sub_clz (x := word)
  have value : word.toNat ≠ 0 := by
    simpa [BitVec.toNat_eq] using nonzero
  have top : word.toNat.log2 = width - 1 - word.clz.toNat := by
    rw [Nat.log2_eq_iff value]
    refine ⟨lower, ?_⟩
    have exponent :
        width - 1 - word.clz.toNat + 1 = width - word.clz.toNat := by
      omega
    rw [exponent]
    exact upper
  omega

/-- Zero extension loses nothing. -/
theorem setWidth_eq_iff
    {wide : ℕ} (wider : width ≤ wide) (left right : BitVec width) :
    left.setWidth wide = right.setWidth wide ↔ left = right := by
  constructor
  · intro equal
    apply BitVec.eq_of_toNat_eq
    have values := congrArg BitVec.toNat equal
    rwa [BitVec.toNat_setWidth_of_le wider,
      BitVec.toNat_setWidth_of_le wider] at values
  · rintro rfl
    rfl

theorem setWidth_ne_zero
    {wide : ℕ} {word : BitVec width} (wider : width ≤ wide)
    (nonzero : word ≠ 0#(width)) :
    word.setWidth wide ≠ 0#(wide) := by
  intro empty
  apply nonzero
  rw [← setWidth_eq_iff wider, empty]
  simp

/-- Zero extension adds leading zeros. -/
theorem clz_setWidth
    {wide : ℕ} {word : BitVec width} (wider : width ≤ wide)
    (nonzero : word ≠ 0#(width)) :
    (word.setWidth wide).clz.toNat = wide - width + word.clz.toNat := by
  have value : (word.setWidth wide).toNat = word.toNat :=
    BitVec.toNat_setWidth_of_le wider
  have extended := setWidth_ne_zero wider nonzero
  have narrowCount := clz_add_log2 nonzero
  have wideCount := clz_add_log2 extended
  rw [value] at wideCount
  omega

/-- The trailing zeros end at the lowest set bit. -/
theorem ctz_eq_iff
    {word : BitVec width} (nonzero : word ≠ 0#(width)) (position : ℕ) :
    word.ctz.toNat = position ↔
      word.getLsbD position = true ∧ ClearBelow word position := by
  have lowest := BitVec.getLsbD_true_ctz_of_ne_zero nonzero
  have below : ClearBelow word word.ctz.toNat := fun lower bound =>
    BitVec.getLsbD_false_of_lt_ctz bound
  constructor
  · rintro rfl
    exact ⟨lowest, below⟩
  · rintro ⟨set, clear⟩
    apply Nat.le_antisymm
    · by_contra larger
      have hidden := below position (by omega)
      simp [set] at hidden
    · by_contra smaller
      have hidden := clear word.ctz.toNat (by omega)
      simp [lowest] at hidden

/-- Zero extension keeps the trailing zeros. -/
theorem ctz_setWidth
    {wide : ℕ} {word : BitVec width} (wider : width ≤ wide)
    (nonzero : word ≠ 0#(width)) :
    (word.setWidth wide).ctz.toNat = word.ctz.toNat := by
  have extended := setWidth_ne_zero wider nonzero
  rcases (ctz_eq_iff nonzero word.ctz.toNat).mp rfl with ⟨set, clear⟩
  have inside : word.ctz.toNat < wide :=
    Nat.lt_of_lt_of_le (ctz_lt nonzero) wider
  rw [ctz_eq_iff extended]
  constructor
  · simp [inside, set]
  · exact (clearBelow_setWidth word inside.le).mpr clear

/-! ## Values -/

/-- The lowest set bit of a word stands at a position. -/
def LowestAt (word : BitVec width) (position : ℕ) : Prop :=
  word.getLsbD position = true ∧ ClearBelow word position

theorem exists_lowestAt {word : BitVec width} (nonzero : word ≠ 0#(width)) :
    ∃ position, LowestAt word position :=
  ⟨word.ctz.toNat, (ctz_eq_iff nonzero _).mp rfl⟩

namespace LowestAt

variable {word : BitVec width} {position : ℕ}

theorem inside (lowest : LowestAt word position) : position < width :=
  BitVec.lt_of_getLsbD lowest.1

/-- The bits up to a position are clear exactly up to the lowest set bit. -/
theorem clearBelow_iff (lowest : LowestAt word position) (bit : ℕ) :
    ClearBelow word bit ↔ bit ≤ position := by
  constructor
  · intro below
    by_contra above
    have hidden := below position (not_le.mp above)
    rw [lowest.1] at hidden
    exact absurd hidden (by decide)
  · intro inside lower less
    exact lowest.2 lower (Nat.lt_of_lt_of_le less inside)

theorem isolate_eq (lowest : LowestAt word position) :
    isolate word = BitVec.twoPow width position := by
  apply BitVec.eq_of_getLsbD_eq
  intro bit _
  have inside := lowest.inside
  rw [getLsbD_isolate, BitVec.getLsbD_twoPow]
  simp only [lowest.clearBelow_iff, inside, decide_true, Bool.true_and]
  rcases Nat.lt_trichotomy bit position with below | rfl | above
  · simp [lowest.2 bit below, below.ne']
  · simp [lowest.1]
  · simp [above.ne, above]

theorem isolate_toNat (lowest : LowestAt word position) :
    (isolate word).toNat = 2 ^ position := by
  rw [lowest.isolate_eq, BitVec.toNat_twoPow_of_lt lowest.inside]

theorem maskThrough_eq (lowest : LowestAt word position) :
    maskThrough word = (BitVec.allOnes (position + 1)).setWidth width := by
  apply BitVec.eq_of_getLsbD_eq
  intro bit bound
  rw [getLsbD_maskThrough, BitVec.getLsbD_setWidth, BitVec.getLsbD_allOnes]
  simp only [lowest.clearBelow_iff, bound, decide_true, Bool.true_and,
    Nat.lt_succ_iff]

theorem maskThrough_toNat (lowest : LowestAt word position) :
    (maskThrough word).toNat = 2 ^ (position + 1) - 1 := by
  have inside : position + 1 ≤ width := lowest.inside
  rw [lowest.maskThrough_eq, BitVec.toNat_setWidth_of_le inside,
    BitVec.toNat_allOnes]

end LowestAt

theorem maskThrough_zero (width : ℕ) :
    maskThrough 0#(width) = BitVec.allOnes width := by
  apply BitVec.eq_of_getLsbD_eq
  intro bit bound
  have below : ClearBelow 0#(width) bit := fun lower _ => BitVec.getLsbD_zero
  rw [getLsbD_maskThrough, BitVec.getLsbD_allOnes, decide_eq_true below,
    Bool.and_true]

/-- The lowest set bit and the other bits have nothing in common. -/
theorem isolate_and_clear (word : BitVec width) :
    isolate word &&& clear word = 0#(width) := by
  apply BitVec.eq_of_getLsbD_eq
  intro bit _
  rw [BitVec.getLsbD_and, getLsbD_isolate, getLsbD_clear, BitVec.getLsbD_zero]
  cases word.getLsbD bit <;> simp

theorem isolate_or_clear (word : BitVec width) :
    isolate word ||| clear word = word := by
  apply BitVec.eq_of_getLsbD_eq
  intro bit _
  rw [BitVec.getLsbD_or, getLsbD_isolate, getLsbD_clear,
    ← Bool.and_or_distrib_left]
  simp

/-- A word is the sum of its lowest set bit and the rest. -/
theorem isolate_add_clear (word : BitVec width) :
    (isolate word).toNat + (clear word).toNat = word.toNat := by
  rw [← BitVec.toNat_add_of_and_eq_zero (isolate_and_clear word),
    BitVec.add_eq_or_of_and_eq_zero _ _ (isolate_and_clear word),
    isolate_or_clear]

end BadCpu.BitKernels
