import BadCpu.FeatureDetection
import BadCpu.TextCodes

/-!
# Reports about the CPU

The text which `print_cpu_info` writes tells apart all CPUs which differ in
what it is about: the vendor, the brand string and seven features.  This is so
although a brand string consists of arbitrary bytes, among them line breaks.
A brand is printed only if CPUID returns all words which it consists of.
-/

namespace BadCpu

open TextCodes

/-! ## What a report tells -/

/-- The content of a report. -/
structure CpuSummary where
  vendor : CpuVendor
  brand : Option (List Byte)
  sse3 : Bool
  ssse3 : Bool
  sse41 : Bool
  sse42 : Bool
  popcnt : Bool
  avx : Bool
  avx2 : Bool

/-- The content of a report about a CPU, from its responses to CPUID. -/
def cpuSummary (cpu : Cpu) : CpuSummary where
  vendor := reportedVendor cpu
  brand :=
    if 0x80000004#32 ≤ (cpu 0x80000000#32).eax then
      some (cString (brandLeaves.flatMap fun leaf => brandWords (cpu leaf)))
    else none
  sse3 := (leafWord cpu 1#32 CpuidWords.ecx).getLsbD 0
  ssse3 := (leafWord cpu 1#32 CpuidWords.ecx).getLsbD 9
  sse41 := (leafWord cpu 1#32 CpuidWords.ecx).getLsbD 19
  sse42 := (leafWord cpu 1#32 CpuidWords.ecx).getLsbD 20
  popcnt := (leafWord cpu 1#32 CpuidWords.ecx).getLsbD 23
  avx := (leafWord cpu 1#32 CpuidWords.ecx).getLsbD 28
  avx2 := (leafWord cpu 0x80000001#32 CpuidWords.ecx).getLsbD 5

/-- The line about the brand, if there is one. -/
def brandLine (brand : Option (List Byte)) : List Byte :=
  brand.elim [] fun text =>
    literalBytes "CPU Brand: " ++ text ++ literalBytes "\n"

/-- A summary as text. -/
def CpuSummary.text (summary : CpuSummary) : List Byte :=
  literalBytes "CPU Vendor: " ++ vendorString summary.vendor ++
    literalBytes "\n" ++ brandLine summary.brand ++
    literalBytes "CPU Feature Support:\n" ++
    featureLine "  SSE3:    " summary.sse3 ++
    featureLine "  SSSE3:   " summary.ssse3 ++
    featureLine "  SSE4.1:  " summary.sse41 ++
    featureLine "  SSE4.2:  " summary.sse42 ++
    featureLine "  POPCNT:  " summary.popcnt ++
    featureLine "  AVX:     " summary.avx ++
    featureLine "  AVX2:    " summary.avx2

/-! ## Reading a report -/

theorem suffixFree_featureLine (name : String) :
    SuffixFree (featureLine name) := by
  have answer :
      SuffixFree fun flag : Bool =>
        if flag then literalBytes "yes\n" else literalBytes "no\n" := by
    unfold SuffixFree
    decide
  exact answer.lead (literalBytes name)

theorem prefixFree_vendorLine :
    PrefixFree fun vendor => vendorString vendor ++ literalBytes "\n" := by
  intro vendor vendor'
  cases vendor <;> cases vendor' <;> decide

/-- Neither the brand nor its absence is mistaken. -/
theorem brandLine_injective : Function.Injective brandLine := by
  intro brand brand' same
  cases brand with
  | none =>
      cases brand' with
      | none => rfl
      | some text' => exact absurd same (by simp [brandLine, literalBytes])
  | some text =>
      cases brand' with
      | none => exact absurd same (by simp [brandLine, literalBytes])
      | some text' =>
          have inner := List.append_cancel_right same
          rw [List.append_cancel_left inner]

/-- Different summaries have different texts. -/
theorem CpuSummary.text_injective : Function.Injective CpuSummary.text := by
  intro summary summary' same
  -- The features are read from behind, the vendor from the front.
  rcases (suffixFree_featureLine _).append_inj same with ⟨same, avx2⟩
  rcases (suffixFree_featureLine _).append_inj same with ⟨same, avx⟩
  rcases (suffixFree_featureLine _).append_inj same with ⟨same, popcnt⟩
  rcases (suffixFree_featureLine _).append_inj same with ⟨same, sse42⟩
  rcases (suffixFree_featureLine _).append_inj same with ⟨same, sse41⟩
  rcases (suffixFree_featureLine _).append_inj same with ⟨same, ssse3⟩
  rcases (suffixFree_featureLine _).append_inj same with ⟨same, sse3⟩
  have front := List.append_cancel_right same
  rw [List.append_assoc, List.append_assoc, List.append_assoc,
    List.append_assoc] at front
  have lines := List.append_cancel_left front
  rw [← List.append_assoc, ← List.append_assoc] at lines
  rcases prefixFree_vendorLine.append_inj lines with ⟨vendor, brand⟩
  have brand := brandLine_injective brand
  rcases summary
  rcases summary'
  rw [CpuSummary.mk.injEq]
  exact ⟨vendor, brand, sse3, ssse3, sse41, sse42, popcnt, avx, avx2⟩

/-! ## What is printed -/

/-- The zero byte behind a string ends it. -/
theorem cString_terminated (bytes : List Byte) :
    cString (bytes ++ [0#8]) = cString bytes := by
  induction bytes with
  | nil => rfl
  | cons b bytes ih =>
      simp only [cString, List.cons_append, List.takeWhile_cons] at ih ⊢
      rw [ih]

/-- A mask test is the bit which it tests. -/
theorem mask_ne_zero_eq
    (stored : BitVec 32) {bit : ℕ} (inside : bit < 32) :
    (stored &&& (1#32 <<< bit) != 0#32) = stored.getLsbD bit := by
  rw [Bool.eq_iff_iff, bne_iff_ne]
  exact BitKernels.and_bit_ne_zero_iff stored inside

/-- The last brand leaf is available exactly when the CPU reports it. -/
theorem brandAvailable_iff (cpu : Cpu) :
    0x80000004#32 ≤ (detectCpuFeatures cpu).maxExtendedLeaf ↔
      0x80000004#32 ≤ (cpu 0x80000000#32).eax := by
  have range : maxLeaf cpu 0x80000000#32 = (cpu 0x80000000#32).eax := rfl
  rw [detectCpuFeatures_eq]
  simp only [leafWord, range]
  split_ifs with extended
  · exact Iff.rfl
  · refine iff_of_false (by decide) fun available => extended ?_
    exact BitVec.le_trans (by decide) available

/-- The printed brand consists of initialised words. -/
theorem brandBytes_eq
    {cpu : Cpu}
    (printed : 0x80000004#32 ≤ (detectCpuFeatures cpu).maxExtendedLeaf) :
    brandBytes cpu =
      (brandLeaves.flatMap fun leaf => brandWords (cpu leaf)) ++ [0#8] := by
  rw [brandBytes]
  congr 1
  apply List.flatMap_congr
  intro leaf member
  rw [getCpuid_brandLeaf printed member]
  rfl

/-- The report of a detected CPU is the text of its summary. -/
theorem printCpuInfo_detected (cpu : Cpu) :
    printCpuInfo cpu (detectCpuFeatures cpu) = (cpuSummary cpu).text := by
  have brand :
      (if (detectCpuFeatures cpu).maxExtendedLeaf ≥ 0x80000004#32 then
        literalBytes "CPU Brand: " ++ cString (brandBytes cpu) ++
          literalBytes "\n"
      else []) =
        brandLine (cpuSummary cpu).brand := by
    simp only [cpuSummary, ge_iff_le, ← brandAvailable_iff]
    split_ifs with printed
    · rw [brandBytes_eq printed, cString_terminated]
      rfl
    · rfl
  have flags :
      (detectCpuFeatures cpu).hasSse3 = (cpuSummary cpu).sse3 ∧
        (detectCpuFeatures cpu).hasSsse3 = (cpuSummary cpu).ssse3 ∧
        (detectCpuFeatures cpu).hasSse41 = (cpuSummary cpu).sse41 ∧
        (detectCpuFeatures cpu).hasSse42 = (cpuSummary cpu).sse42 ∧
        (detectCpuFeatures cpu).hasPopcnt = (cpuSummary cpu).popcnt ∧
        (detectCpuFeatures cpu).hasAvx = (cpuSummary cpu).avx ∧
        (detectCpuFeatures cpu).hasAvx2 = (cpuSummary cpu).avx2 := by
    rw [detectCpuFeatures_eq]
    refine ⟨?_, ?_, ?_, ?_, ?_, ?_, ?_⟩
    all_goals exact mask_ne_zero_eq _ (by decide)
  have vendor :
      (detectCpuFeatures cpu).vendor = (cpuSummary cpu).vendor := by
    rw [detectCpuFeatures_eq]
    rfl
  rcases flags with ⟨sse3, ssse3, sse41, sse42, popcnt, avx, avx2⟩
  rw [printCpuInfo, CpuSummary.text, brand, vendor, sse3, ssse3, sse41, sse42,
    popcnt, avx, avx2]

/-- Where a brand is printed, CPUID returns each of its leaves. -/
def BrandInitialised (cpu : Cpu) : Prop :=
  0x80000004#32 ≤ (detectCpuFeatures cpu).maxExtendedLeaf →
    ∀ leaf ∈ brandLeaves, getCpuid cpu leaf = some (cpu leaf)

/--
No uninitialised word is printed, and two CPUs are reported alike exactly when
they agree in the vendor, the brand and the seven features.
-/
theorem printCpuInfo_eq_iff (cpu cpu' : Cpu) :
    BrandInitialised cpu ∧
      (printCpuInfo cpu (detectCpuFeatures cpu) =
          printCpuInfo cpu' (detectCpuFeatures cpu') ↔
        cpuSummary cpu = cpuSummary cpu') := by
  constructor
  · intro printed leaf member
    exact getCpuid_brandLeaf printed member
  · rw [printCpuInfo_detected, printCpuInfo_detected]
    exact CpuSummary.text_injective.eq_iff

end BadCpu
