import BadCpu.ByteMemory
import BadCpu.Instruction

/-!
# Feature detection

The functions of `cpuid.cpp`.  A CPU is its response to every CPUID leaf.  The
compiler's `__get_cpuid` fails above the highest leaf which the CPU reports for
the range of the leaf, and if none is reported, and otherwise returns the four
words of the leaf.
-/

namespace BadCpu

open ByteMemory

/-! ## Responses -/

/-- The words which CPUID returns for one leaf. -/
structure CpuidWords where
  eax : BitVec 32
  ebx : BitVec 32
  ecx : BitVec 32
  edx : BitVec 32
  deriving DecidableEq, Repr

/-- The responses of a CPU to the leaves, at subleaf zero. -/
abbrev Cpu := BitVec 32 → CpuidWords

/-- The highest leaf in the range of a leaf. -/
def maxLeaf (cpu : Cpu) (leaf : BitVec 32) : BitVec 32 :=
  (cpu (leaf &&& 0x80000000#32)).eax

/-- The function `__get_cpuid` of the compiler. -/
def getCpuid (cpu : Cpu) (leaf : BitVec 32) : Option CpuidWords :=
  if maxLeaf cpu leaf = 0#32 ∨ maxLeaf cpu leaf < leaf then none
  else some (cpu leaf)

/-! ## Strings -/

/-- The bytes of a string literal. -/
def literalBytes (text : String) : List Byte :=
  text.toList.map fun c => BitVec.ofNat 8 c.toNat

/-- A C string ends in front of the first zero byte. -/
def cString (bytes : List Byte) : List Byte :=
  bytes.takeWhile (· != 0#8)

/-- The bytes which `memcpy` copies from a register. -/
def registerBytes (register : BitVec 32) : List Byte :=
  (List.range 4).map (byteAt register)

/-- The character array `vendor`. -/
def vendorBytes (words : CpuidWords) : List Byte :=
  registerBytes words.ebx ++ registerBytes words.edx ++
    registerBytes words.ecx ++ [0#8]

def detectVendor (words : CpuidWords) : CpuVendor :=
  let vendor := cString (vendorBytes words)
  if vendor = literalBytes "GenuineIntel" then .intel
  else if vendor = literalBytes "AuthenticAMD" then .amd
  else if vendor = literalBytes "HygonGenuine" then .hygon
  else .unknown

/-! ## Detection -/

/-- The part of `detect_cpu_features` about the standard leaves. -/
def detectStandard (cpu : Cpu) (features : CpuFeatures) : CpuFeatures :=
  match getCpuid cpu 0#32 with
  | none => features
  | some words =>
      let features :=
        { features with
          maxStandardLeaf := words.eax
          vendor := detectVendor words }
      if features.maxStandardLeaf ≥ 1#32 then
        match getCpuid cpu 1#32 with
        | none => features
        | some feat =>
            { features with
              featureEcx := feat.ecx
              featureEdx := feat.edx }
      else features

/-- The part of `detect_cpu_features` about the extended leaves. -/
def detectExtended (cpu : Cpu) (features : CpuFeatures) : CpuFeatures :=
  match getCpuid cpu 0x80000000#32 with
  | none => features
  | some ext =>
      let features := { features with maxExtendedLeaf := ext.eax }
      if features.maxExtendedLeaf ≥ 0x80000001#32 then
        match getCpuid cpu 0x80000001#32 with
        | none => features
        | some feat7 =>
            { features with
              extFeatureEcx := feat7.ecx
              extFeatureEdx := feat7.edx }
      else features

def detectCpuFeatures (cpu : Cpu) : CpuFeatures :=
  detectExtended cpu (detectStandard cpu {})

/-! ## Printing -/

def vendorString : CpuVendor → List Byte
  | .intel => literalBytes "GenuineIntel"
  | .amd => literalBytes "AuthenticAMD"
  | .hygon => literalBytes "HygonGenuine"
  | .unknown => literalBytes "Unknown"

/-- The four words of a leaf, in the order of the array `brand`. -/
def brandWords (words : CpuidWords) : List Byte :=
  registerBytes words.eax ++ registerBytes words.ebx ++
    registerBytes words.ecx ++ registerBytes words.edx

/-- The three leaves which hold the brand string. -/
def brandLeaves : List (BitVec 32) :=
  [0x80000002#32, 0x80000003#32, 0x80000004#32]

/-- The character array `brand_str`. -/
def brandBytes (cpu : Cpu) : List Byte :=
  -- A leaf which is not available would leave its words uninitialised.
  brandLeaves.flatMap (fun leaf => (getCpuid cpu leaf).elim [] brandWords) ++
    [0#8]

def featureLine (name : String) (flag : Bool) : List Byte :=
  literalBytes name ++
    (if flag then literalBytes "yes\n" else literalBytes "no\n")

/-- What `print_cpu_info` writes. -/
def printCpuInfo (cpu : Cpu) (features : CpuFeatures) : List Byte :=
  literalBytes "CPU Vendor: " ++ vendorString features.vendor ++
    literalBytes "\n" ++
    (if features.maxExtendedLeaf ≥ 0x80000004#32 then
      literalBytes "CPU Brand: " ++ cString (brandBytes cpu) ++
        literalBytes "\n"
    else []) ++
    literalBytes "CPU Feature Support:\n" ++
    featureLine "  SSE3:    " features.hasSse3 ++
    featureLine "  SSSE3:   " features.hasSsse3 ++
    featureLine "  SSE4.1:  " features.hasSse41 ++
    featureLine "  SSE4.2:  " features.hasSse42 ++
    featureLine "  POPCNT:  " features.hasPopcnt ++
    featureLine "  AVX:     " features.hasAvx ++
    featureLine "  AVX2:    " features.hasAvx2

/-! ## What is detected -/

/-- A word of a leaf, or zero if the leaf is not available. -/
def leafWord
    (cpu : Cpu) (leaf : BitVec 32) (word : CpuidWords → BitVec 32) :
    BitVec 32 :=
  if leaf ≤ maxLeaf cpu leaf then word (cpu leaf) else 0#32

/-- Leaf zero is missing if the CPU reports no leaf behind it. -/
theorem getCpuid_zero (cpu : Cpu) :
    getCpuid cpu 0#32 =
      if (cpu 0#32).eax = 0#32 then none else some (cpu 0#32) := by
  have base : maxLeaf cpu 0#32 = (cpu 0#32).eax := rfl
  have never : ¬ (cpu 0#32).eax < 0#32 := Nat.not_lt_zero _
  simp only [getCpuid, base, never, or_false]

/-- Any other leaf is available up to the highest one. -/
theorem getCpuid_eq_if
    (cpu : Cpu) {leaf : BitVec 32} (nonzero : leaf ≠ 0#32) :
    getCpuid cpu leaf =
      if leaf ≤ maxLeaf cpu leaf then some (cpu leaf) else none := by
  rw [getCpuid]
  by_cases available : leaf ≤ maxLeaf cpu leaf
  · have reported : maxLeaf cpu leaf ≠ 0#32 := by
      intro none
      rw [none] at available
      exact nonzero (BitVec.le_antisymm available (Nat.zero_le _))
    rw [if_neg (not_or.mpr ⟨reported, BitVec.not_lt.mpr available⟩),
      if_pos available]
  · rw [if_pos (.inr (BitVec.not_le.mp available)), if_neg available]

/-- The vendor, as far as the CPU reports any leaf. -/
def reportedVendor (cpu : Cpu) : CpuVendor :=
  if (cpu 0#32).eax = 0#32 then .unknown else detectVendor (cpu 0#32)

theorem detectStandard_eq (cpu : Cpu) :
    detectStandard cpu {} =
      { vendor := reportedVendor cpu
        maxStandardLeaf := (cpu 0#32).eax
        featureEcx := leafWord cpu 1#32 CpuidWords.ecx
        featureEdx := leafWord cpu 1#32 CpuidWords.edx } := by
  have range : maxLeaf cpu 1#32 = (cpu 0#32).eax := rfl
  rw [detectStandard, getCpuid_zero]
  by_cases silent : (cpu 0#32).eax = 0#32
  · have absent : ¬ 1#32 ≤ 0#32 := by decide
    simp only [silent, leafWord, range, reportedVendor, absent, if_true,
      if_false]
  · simp only [silent, getCpuid_eq_if cpu (show 1#32 ≠ 0#32 by decide),
      leafWord, range, reportedVendor, if_false, ge_iff_le]
    split_ifs <;> rfl

/-- The detected features are words of four leaves. -/
theorem detectCpuFeatures_eq (cpu : Cpu) :
    detectCpuFeatures cpu =
      { vendor := reportedVendor cpu
        maxStandardLeaf := (cpu 0#32).eax
        featureEcx := leafWord cpu 1#32 CpuidWords.ecx
        featureEdx := leafWord cpu 1#32 CpuidWords.edx
        maxExtendedLeaf := leafWord cpu 0x80000000#32 CpuidWords.eax
        extFeatureEcx := leafWord cpu 0x80000001#32 CpuidWords.ecx
        extFeatureEdx := leafWord cpu 0x80000001#32 CpuidWords.edx } := by
  have first : maxLeaf cpu 0x80000000#32 = (cpu 0x80000000#32).eax := rfl
  have second : maxLeaf cpu 0x80000001#32 = (cpu 0x80000000#32).eax := rfl
  -- A CPU which reports the feature leaf also reports the base of its range.
  have base :
      0x80000001#32 ≤ (cpu 0x80000000#32).eax →
        0x80000000#32 ≤ (cpu 0x80000000#32).eax :=
    BitVec.le_trans (by decide)
  rw [detectCpuFeatures, detectStandard_eq, detectExtended,
    getCpuid_eq_if cpu (by decide), getCpuid_eq_if cpu (by decide)]
  simp only [leafWord, first, second]
  by_cases extended : 0x80000000#32 ≤ (cpu 0x80000000#32).eax
  · simp only [if_pos extended, ge_iff_le]
    split_ifs <;> rfl
  · have absent : ¬ 0x80000001#32 ≤ (cpu 0x80000000#32).eax :=
      fun available => extended (base available)
    simp only [if_neg extended, if_neg absent]

/-- When the brand of a detected CPU is printed, its leaves are available. -/
theorem getCpuid_brandLeaf
    {cpu : Cpu}
    (printed : 0x80000004#32 ≤ (detectCpuFeatures cpu).maxExtendedLeaf)
    {leaf : BitVec 32} (member : leaf ∈ brandLeaves) :
    getCpuid cpu leaf = some (cpu leaf) := by
  have range :
      maxLeaf cpu leaf = (cpu 0x80000000#32).eax ∧
        leaf ≤ 0x80000004#32 ∧ leaf ≠ 0#32 := by
    simp only [brandLeaves, List.mem_cons, List.not_mem_nil, or_false]
      at member
    rcases member with rfl | rfl | rfl <;> exact ⟨rfl, by decide, by decide⟩
  have available : 0x80000004#32 ≤ (cpu 0x80000000#32).eax := by
    rw [detectCpuFeatures_eq] at printed
    simp only [leafWord] at printed
    split_ifs at printed
    · exact printed
    · exact absurd printed (by decide)
  rw [getCpuid_eq_if cpu range.2.2, range.1,
    if_pos (BitVec.le_trans range.2.1 available)]

end BadCpu
