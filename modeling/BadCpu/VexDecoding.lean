import BadCpu.Emulator
import BadCpu.VexEncoding

/-!
# What is left of a VEX payload

The decoder turns a VEX payload into REX bits and prefix flags.  It never fills
in the register number and W, it takes the implied prefixes 2 and 3 for each
other, and behind a two-byte prefix it inverts extension bits which the prefix
does not have.
-/

namespace BadCpu

/-! ## A payload is recovered -/

/-- The extension bits of a payload in the order of a REX prefix. -/
def VexPayload.rexNibble (payload : VexPayload) : BitVec 4 :=
  payload.w ++ ~~~payload.r ++ ~~~payload.x ++ ~~~payload.b

/-- Every field of a payload can be read off a decoded instruction. -/
structure PayloadRecovered
    (payload : VexPayload) (inst : DecodedInstruction) : Prop where
  rex : inst.rex &&& 0x0F#8 = payload.rexNibble.setWidth 8
  vexW : inst.vexW = true ↔ payload.w = 1#1
  vexVvvv : inst.vexVvvv = (~~~payload.vvvv).setWidth 8
  has66 : inst.has66 = true ↔ payload.pp = 1#2
  hasF3 : inst.hasF3 = true ↔ payload.pp = 2#2
  hasF2 : inst.hasF2 = true ↔ payload.pp = 3#2

/-- No prefix which a VEX payload can imply. -/
def NoImpliedPrefix (prefixes : List Byte) : Prop :=
  0x66#8 ∉ prefixes ∧ 0xF2#8 ∉ prefixes ∧ 0xF3#8 ∉ prefixes

instance (prefixes : List Byte) : Decidable (NoImpliedPrefix prefixes) :=
  inferInstanceAs (Decidable (_ ∧ _ ∧ _))

/-- The payloads of two instructions are decoded without loss. -/
structure PayloadLossless
    (code code' : VexInstruction) (tail tail' : Code) : Prop where
  recovered :
    PayloadRecovered code.payload (decodeInstruction (code.stream tail))
  recovered' :
    PayloadRecovered code'.payload (decodeInstruction (code'.stream tail'))
  injective :
    code.payload ≠ code'.payload →
      decodeInstruction (code.stream tail) ≠
        decodeInstruction (code'.stream tail')

/-- The payloads which do not use the fields that are lost. -/
def VexPayload.Harmless (payload : VexPayload) : Prop :=
  payload.w = 0#1 ∧ payload.vvvv = 15#4 ∧
    (payload.pp = 0#2 ∨ payload.pp = 1#2)

instance (payload : VexPayload) : Decidable payload.Harmless :=
  inferInstanceAs (Decidable (_ ∧ _ ∧ _))

/-- The extension bits are determined by the nibble. -/
theorem extension_of_nibble {w r x b w' r' x' b' : BitVec 1}
    (same :
      (w ++ ~~~r ++ ~~~x ++ ~~~b).setWidth 8 =
        (w' ++ ~~~r' ++ ~~~x' ++ ~~~b').setWidth 8) :
    w = w' ∧ r = r' ∧ x = x' ∧ b = b' := by
  decide +revert +kernel

theorem vvvv_of_complement {vvvv vvvv' : BitVec 4}
    (same : (~~~vvvv).setWidth 8 = (~~~vvvv').setWidth 8) :
    vvvv = vvvv' := by
  decide +revert +kernel

/-- Three flags tell the four implied prefixes apart. -/
theorem pp_of_flags {pp pp' : BitVec 2}
    (one : pp = 1#2 ↔ pp' = 1#2) (two : pp = 2#2 ↔ pp' = 2#2)
    (three : pp = 3#2 ↔ pp' = 3#2) :
    pp = pp' := by
  decide +revert

/-- The stored fields are determined by what is recovered of them. -/
theorem PayloadRecovered.unique
    {payload payload' : VexPayload} {inst : DecodedInstruction}
    (recovered : PayloadRecovered payload inst)
    (recovered' : PayloadRecovered payload' inst) :
    payload = payload' := by
  have nibble := recovered.rex.symm.trans recovered'.rex
  have number := recovered.vexVvvv.symm.trans recovered'.vexVvvv
  have implied :=
    pp_of_flags (recovered.has66.symm.trans recovered'.has66)
      (recovered.hasF3.symm.trans recovered'.hasF3)
      (recovered.hasF2.symm.trans recovered'.hasF2)
  rcases payload with ⟨w, r, x, b, vvvv, pp⟩
  rcases payload' with ⟨w', r', x', b', vvvv', pp'⟩
  obtain rfl : vvvv = vvvv' := vvvv_of_complement number
  obtain rfl : pp = pp' := implied
  rcases extension_of_nibble nibble with ⟨rfl, rfl, rfl, rfl⟩
  rfl

/-! ## What the decoder recovers -/

/-- The REX bits of a VEX prefix are its extension bits. -/
theorem applyVex_rex (inst : DecodedInstruction) (payload : VexPayload)
    (vexPp : Byte) :
    (applyVex inst (payload.w.setWidth 8) (payload.r.setWidth 8)
        (payload.x.setWidth 8) (payload.b.setWidth 8) vexPp).rex =
      payload.rexNibble.setWidth 8 := by
  rcases payload with ⟨w, r, x, b, v, p⟩
  simp only [applyVex, VexPayload.rexNibble]
  decide +revert +kernel

/-- Without implied prefixes in front of it, VEX alone sets the flags. -/
theorem header_flags
    {ip : Code} (none : NoImpliedPrefix (legacyPrefixes ip)) :
    (header ip).has66 = false ∧ (header ip).hasF2 = false ∧
      (header ip).hasF3 = false := by
  have absent {b : Byte} (missing : b ∉ legacyPrefixes ip) :
      (recordedPrefixes ip).contains b = false := by
    simpa using fun recorded => missing (legacyPrefixes_of_recorded recorded)
  exact ⟨absent none.1, absent none.2.1, absent none.2.2⟩

/-- The flags of an implied prefix, as the decoder sets them. -/
theorem decode_payload
    {code : VexInstruction} (none : NoImpliedPrefix code.prefixes)
    (fits : code.encode.length ≤ 15) (tail : Code) :
    let inst := decodeInstruction (code.stream tail)
    inst.rex = code.payload.rexNibble.setWidth 8 ∧
      (inst.has66 = true ↔ code.payload.pp = 1#2) ∧
      (inst.hasF2 = true ↔ code.payload.pp = 2#2) ∧
      (inst.hasF3 = true ↔ code.payload.pp = 3#2) := by
  rcases decode_prefixes (code.stream tail) with ⟨rex, has66, hasF2, hasF3⟩
  have run := (code.header_stream tail fits).1
  rcases header_flags (by rwa [run]) with ⟨no66, noF2, noF3⟩
  dsimp only
  rw [rex, has66, hasF2, hasF3, code.prefixedInstruction_stream tail fits,
    applyVex_rex]
  simp only [applyVex, no66, noF2, noF3, Bool.false_or, beq_iff_eq]
  generalize code.payload.pp = pp
  exact ⟨trivial, by decide +revert, by decide +revert, by decide +revert⟩

/-- A field of one bit which no flag reports is clear. -/
theorem clear_of_unset {w : BitVec 1} (unset : false = true ↔ w = 1#1) :
    w = 0#1 := by
  decide +revert

/-- Swapping the prefixes 2 and 3 goes unnoticed only by the others. -/
theorem pp_of_swapped {pp : BitVec 2} (swapped : pp = 3#2 ↔ pp = 2#2) :
    pp = 0#2 ∨ pp = 1#2 := by
  decide +revert

/-- One payload is recovered exactly when it is harmless. -/
theorem payloadRecovered_iff
    {code : VexInstruction} (none : NoImpliedPrefix code.prefixes)
    (fits : code.encode.length ≤ 15) (tail : Code) :
    PayloadRecovered code.payload (decodeInstruction (code.stream tail)) ↔
      code.payload.Harmless := by
  rcases decode_payload none fits tail with ⟨rex, has66, hasF2, hasF3⟩
  rcases decode_vexFields (code.stream tail) with ⟨vexW, vexVvvv⟩
  constructor
  · intro recovered
    have w := recovered.vexW
    have vvvv := recovered.vexVvvv
    rw [vexW] at w
    rw [vexVvvv] at vvvv
    refine ⟨?_, vvvv_of_complement vvvv.symm, ?_⟩
    · exact clear_of_unset w
    · exact pp_of_swapped (hasF3.symm.trans recovered.hasF3)
  · rintro ⟨w, vvvv, pp⟩
    constructor
    case rex =>
      rw [rex]
      generalize code.payload.rexNibble = nibble
      decide +revert
    case vexW =>
      rw [vexW, w]
      decide
    case vexVvvv =>
      rw [vexVvvv, vvvv]
      decide
    case has66 => exact has66
    case hasF3 =>
      rw [hasF3]
      rcases pp with pp | pp <;> rw [pp] <;> decide
    case hasF2 =>
      rw [hasF2]
      rcases pp with pp | pp <;> rw [pp] <;> decide

/--
Two payloads are decoded without loss exactly when W is clear, the register
number is unused and the implied prefix is none or 66.
-/
theorem payloadLossless_iff
    {code code' : VexInstruction}
    (none : NoImpliedPrefix code.prefixes)
    (none' : NoImpliedPrefix code'.prefixes)
    (fits : code.encode.length ≤ 15) (fits' : code'.encode.length ≤ 15)
    (tail tail' : Code) :
    PayloadLossless code code' tail tail' ↔
      code.payload.Harmless ∧ code'.payload.Harmless := by
  rw [← payloadRecovered_iff none fits tail,
    ← payloadRecovered_iff none' fits' tail']
  constructor
  · intro lossless
    exact ⟨lossless.recovered, lossless.recovered'⟩
  · rintro ⟨recovered, recovered'⟩
    refine ⟨recovered, recovered', ?_⟩
    intro different same
    rw [← same] at recovered'
    exact different (recovered.unique recovered')

/-- Nothing of `vpxor xmm0, xmm0, xmm0` or of an unused extension is lost. -/
theorem payloadLossless_harmless :
    PayloadLossless
      { prefixes := []
        prefixes_legacy := by simp
        payload := ⟨0#1, 1#1, 1#1, 1#1, 15#4, 1#2⟩
        l := 0#1
        map := .map0F
        op := 0xEF#8 }
      { prefixes := [0x2E#8]
        prefixes_legacy := by decide
        payload := ⟨0#1, 0#1, 1#1, 1#1, 15#4, 0#2⟩
        l := 1#1
        map := .map0F38
        op := 0xF7#8 }
      (Stream'.const 0xC0#8) (Stream'.const 0#8) :=
  (payloadLossless_iff (by decide) (by decide) (by decide) (by decide) _
    _).mpr ⟨by decide, by decide⟩

/-- `andn eax, ecx, edx` and `andn eax, edx, edx` are decoded alike. -/
theorem payloadLossy_andn :
    ¬ PayloadLossless
      { prefixes := []
        prefixes_legacy := by simp
        payload := ⟨0#1, 1#1, 1#1, 1#1, 14#4, 0#2⟩
        l := 0#1
        map := .map0F38
        op := 0xF2#8 }
      { prefixes := []
        prefixes_legacy := by simp
        payload := ⟨0#1, 1#1, 1#1, 1#1, 13#4, 0#2⟩
        l := 0#1
        map := .map0F38
        op := 0xF2#8 }
      (Stream'.const 0xC2#8) (Stream'.const 0xC2#8) := by
  intro lossless
  exact lossless.injective (by decide) (by decide)

/-! ## A two-byte prefix is no abbreviation -/

/-- The three-byte form of a two-byte prefix. -/
def ShortVexInstruction.expand (code : ShortVexInstruction) :
    VexInstruction where
  prefixes := code.prefixes
  prefixes_legacy := code.prefixes_legacy
  payload := ⟨0#1, code.r, 1#1, 1#1, code.vvvv, code.pp⟩
  l := code.l
  map := .map0F
  op := code.op

/--
Behind a two-byte prefix the decoder finds what it finds behind the three-byte
form, one byte earlier, and extends neither `rm` nor a SIB register.
-/
structure Abbreviates (code : ShortVexInstruction) (tail : Code) : Prop where
  decoded :
    decodeInstruction (code.stream tail) =
      { decodeInstruction (code.expand.stream tail) with
        len := (decodeInstruction (code.expand.stream tail)).len - 1#8 }
  rm : (decodeInstruction (code.stream tail)).rm ≤ 7#8
  sibBase : sibBaseNumber (decodeInstruction (code.stream tail)) ≤ 7#8
  sibIndex : sibIndexNumber (decodeInstruction (code.stream tail)) ≤ 7#8

theorem expand_encode_length (code : ShortVexInstruction) :
    code.expand.encode.length = code.encode.length + 1 := by
  rw [code.expand.encode_length, code.encode_length]
  rfl

/-- The absent bits X and B are inverted along with R. -/
theorem decode_shortRex
    {code : ShortVexInstruction} (fits : code.encode.length ≤ 15)
    (tail : Code) :
    (decodeInstruction (code.stream tail)).rex =
      (0#1 ++ ~~~code.r ++ 1#1 ++ 1#1).setWidth 8 := by
  rw [(decode_prefixes _).1, code.prefixedInstruction_stream tail fits]
  simp only [applyVex]
  generalize code.r = r
  decide +revert

theorem decode_expandRex
    {code : ShortVexInstruction} (fits : code.expand.encode.length ≤ 15)
    (tail : Code) :
    (decodeInstruction (code.expand.stream tail)).rex =
      (0#1 ++ ~~~code.r ++ 0#1 ++ 0#1).setWidth 8 := by
  rw [(decode_prefixes _).1, code.expand.prefixedInstruction_stream tail fits,
    applyVex_rex]
  change (0#1 ++ ~~~code.r ++ ~~~1#1 ++ ~~~1#1).setWidth 8 = _
  generalize code.r = r
  decide +revert

/-- The two forms of a prefix are never decoded alike. -/
theorem not_abbreviates
    (code : ShortVexInstruction) (tail : Code)
    (fits : code.expand.encode.length ≤ 15) :
    ¬ Abbreviates code tail := by
  intro abbreviates
  have short : code.encode.length ≤ 15 := by
    rw [expand_encode_length] at fits
    omega
  have rex := congrArg DecodedInstruction.rex abbreviates.decoded
  dsimp only at rex
  rw [decode_shortRex short, decode_expandRex fits] at rex
  revert rex
  generalize code.r = r
  decide +revert

/-- `vzeroupper`, which has no operands at all -/
theorem not_abbreviates_vzeroupper :
    ¬ Abbreviates
      { prefixes := []
        prefixes_legacy := by simp
        r := 1#1
        vvvv := 15#4
        l := 0#1
        pp := 0#2
        op := 0x77#8 }
      (Stream'.const 0x90#8) :=
  not_abbreviates _ _ (by decide)

/-- The source of `vmovaps xmm0, xmm1` is taken to be the ninth register. -/
theorem rmExtended_vmovaps :
    (decodeInstruction
          (codeOfBytes [0xC4#8, 0xE1#8, 0x78#8, 0x28#8, 0xC1#8])).rm =
        1#8 ∧
      (decodeInstruction (codeOfBytes [0xC5#8, 0xF8#8, 0x28#8, 0xC1#8])).rm =
        9#8 ∧
      ¬ Abbreviates
        { prefixes := []
          prefixes_legacy := by simp
          r := 1#1
          vvvv := 15#4
          l := 0#1
          pp := 0#2
          op := 0x28#8 }
        (codeOfBytes [0xC1#8]) := by
  refine ⟨by decide, by decide, ?_⟩
  intro abbreviates
  exact absurd abbreviates.rm (by decide)

end BadCpu
