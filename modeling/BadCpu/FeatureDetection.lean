import BadCpu.BitKernels
import BadCpu.Cpuid

/-!
# The reported features

AVX2, BMI1 and BMI2 are bits of leaf 7, which feature detection never asks for.
Their accessors read the word of an extended leaf in its place.  All other
accessors read the bit which the architecture defines.
-/

namespace BadCpu

open BitKernels

/-! ## The architectural bits -/

/-- A flag reports a bit of a leaf, and is clear without that leaf. -/
def Reports
    (flag : Bool) (cpu : Cpu) (leaf : BitVec 32)
    (word : CpuidWords → BitVec 32) (bit : ℕ) : Prop :=
  flag = true ↔
    leaf ≤ maxLeaf cpu leaf ∧ (word (cpu leaf)).getLsbD bit = true

/-- Every feature is reported as the CPU has it. -/
structure FeaturesReported (cpu : Cpu) (features : CpuFeatures) : Prop where
  sse3 : Reports features.hasSse3 cpu 1#32 CpuidWords.ecx 0
  ssse3 : Reports features.hasSsse3 cpu 1#32 CpuidWords.ecx 9
  fma : Reports features.hasFma cpu 1#32 CpuidWords.ecx 12
  sse41 : Reports features.hasSse41 cpu 1#32 CpuidWords.ecx 19
  sse42 : Reports features.hasSse42 cpu 1#32 CpuidWords.ecx 20
  popcnt : Reports features.hasPopcnt cpu 1#32 CpuidWords.ecx 23
  avx : Reports features.hasAvx cpu 1#32 CpuidWords.ecx 28
  bmi1 : Reports features.hasBmi1 cpu 7#32 CpuidWords.ebx 3
  avx2 : Reports features.hasAvx2 cpu 7#32 CpuidWords.ebx 5
  bmi2 : Reports features.hasBmi2 cpu 7#32 CpuidWords.ebx 8

/-- The extended leaf agrees with leaf 7 in the bits which are read there. -/
def ExtendedLeafAgrees (cpu : Cpu) : Prop :=
  ∀ bit ∈ [3, 5, 8],
    (leafWord cpu 0x80000001#32 CpuidWords.ecx).getLsbD bit =
      (leafWord cpu 7#32 CpuidWords.ebx).getLsbD bit

instance (cpu : Cpu) : Decidable (ExtendedLeafAgrees cpu) :=
  inferInstanceAs (Decidable (∀ bit ∈ [3, 5, 8], _))

/-! ## The accessors -/

/-- A mask test reports the bit of the word which it tests. -/
theorem reports_mask_iff
    (stored : BitVec 32) (cpu : Cpu) (leaf : BitVec 32)
    (word : CpuidWords → BitVec 32) {bit : ℕ} (inside : bit < 32) :
    Reports (stored &&& (1#32 <<< bit) != 0#32) cpu leaf word bit ↔
      stored.getLsbD bit = (leafWord cpu leaf word).getLsbD bit := by
  rw [Reports, bne_iff_ne, and_bit_ne_zero_iff stored inside, leafWord,
    Bool.eq_iff_iff]
  split_ifs with available
  · simp [available]
  · simp [available]

/--
All features are reported exactly when the extended leaf agrees with leaf 7 in
the bits of AVX2, BMI1 and BMI2.
-/
theorem featuresReported_iff (cpu : Cpu) :
    FeaturesReported cpu (detectCpuFeatures cpu) ↔ ExtendedLeafAgrees cpu := by
  rw [detectCpuFeatures_eq]
  constructor
  · intro reported bit member
    simp only [List.mem_cons, List.not_mem_nil, or_false] at member
    rcases member with rfl | rfl | rfl
    · exact (reports_mask_iff _ cpu _ _ (by decide)).mp reported.bmi1
    · exact (reports_mask_iff _ cpu _ _ (by decide)).mp reported.avx2
    · exact (reports_mask_iff _ cpu _ _ (by decide)).mp reported.bmi2
  · intro agrees
    constructor
    case bmi1 =>
      exact (reports_mask_iff _ cpu _ _ (by decide)).mpr (agrees 3 (by decide))
    case avx2 =>
      exact (reports_mask_iff _ cpu _ _ (by decide)).mpr (agrees 5 (by decide))
    case bmi2 =>
      exact (reports_mask_iff _ cpu _ _ (by decide)).mpr (agrees 8 (by decide))
    all_goals exact (reports_mask_iff _ cpu _ _ (by decide)).mpr rfl

/-- A CPU which has LZCNT, but no leaf 7 -/
def lzcntCpu : Cpu := fun leaf =>
  if leaf = 0#32 then ⟨6#32, 0x68747541#32, 0x444D4163#32, 0x69746E65#32⟩
  else if leaf = 0x80000000#32 then ⟨0x8000001B#32, 0#32, 0#32, 0#32⟩
  else if leaf = 0x80000001#32 then ⟨0#32, 0#32, 0x20#32, 0#32⟩
  else ⟨0#32, 0#32, 0#32, 0#32⟩

/-- Its LZCNT bit is reported as AVX2. -/
theorem featuresMisreported_lzcnt :
    ¬ FeaturesReported lzcntCpu (detectCpuFeatures lzcntCpu) := by
  intro reported
  have avx2 := reported.avx2.mp (by decide)
  exact absurd avx2.1 (by decide)

end BadCpu
