import BadCpu.OpcodeLayout

/-!
# Streams with a given header

A stream which starts with legacy prefixes and at most one REX byte, followed
by something else, is decoded with exactly this header.  Everything behind the
header is found at its distance from the header.
-/

namespace BadCpu

/-! ## Prefixes in front of a stream -/

/-- No REX byte is a legacy prefix. -/
theorem not_legacyPrefix_of_rex {b : Byte} (rex : isRex b = true) :
    isLegacyPrefix b = false := by
  revert b
  decide +kernel

/-- A long enough prefix of an appended stream contains the list. -/
theorem take_append_stream {α : Type} (bytes : List α) (rest : Stream' α)
    (count : ℕ) :
    (bytes ++ₛ rest).take (bytes.length + count) =
      bytes ++ rest.take count := by
  induction bytes with
  | nil => simp
  | cons b bytes ih =>
      rw [List.length_cons, Nat.add_right_comm, Stream'.take_succ,
        Stream'.cons_append_stream, Stream'.head_cons, Stream'.tail_cons, ih,
        List.cons_append]

/-- The prefix run ends at the first byte which is not a prefix. -/
theorem legacyPrefixes_append
    {prefixes : List Byte} (legacy : ∀ b ∈ prefixes, isLegacyPrefix b = true)
    (short : prefixes.length ≤ 15) {rest : Code}
    (other : isLegacyPrefix (rest.get 0) = false) :
    legacyPrefixes (prefixes ++ₛ rest) = prefixes := by
  have limit : 15 = prefixes.length + (15 - prefixes.length) := by omega
  rw [legacyPrefixes, limit, take_append_stream,
    List.takeWhile_append_of_pos legacy]
  cases 15 - prefixes.length with
  | zero => simp
  | succ count =>
      have head : isLegacyPrefix rest.head = false := other
      rw [Stream'.take_succ, List.takeWhile_cons_of_neg (by simp [head]),
        List.append_nil]

/-- Taking a stream while a predicate holds ends where it does not. -/
theorem takeWhile_take_ends
    {α : Type} (p : α → Bool) (stream : Stream' α) {count : ℕ}
    (early : ((stream.take count).takeWhile p).length < count) :
    p (stream.get ((stream.take count).takeWhile p).length) = false := by
  induction count generalizing stream with
  | zero => exact absurd early (Nat.not_lt_zero _)
  | succ count ih =>
      rw [Stream'.take_succ] at early ⊢
      cases head : p stream.head with
      | false =>
          rw [List.takeWhile_cons_of_neg (by simp [head])]
          exact head
      | true =>
          rw [List.takeWhile_cons_of_pos head, List.length_cons] at early ⊢
          exact ih stream.tail (Nat.lt_of_succ_lt_succ early)

/-- Short of the limit, the byte behind the prefixes is none. -/
theorem legacyPrefixes_ends
    {ip : Code} (room : (legacyPrefixes ip).length < 15) :
    isLegacyPrefix (ip.get (legacyPrefixes ip).length) = false :=
  takeWhile_take_ends isLegacyPrefix ip room

/-! ## Headers -/

/-- The bytes of a header in front of a body which does not prolong it. -/
structure IsHeader
    (prefixes : List Byte) (rex : Option Byte) (body : Code) : Prop where
  legacy : ∀ b ∈ prefixes, isLegacyPrefix b = true
  pattern : ∀ b ∈ rex, isRex b = true
  short : prefixes.length + rex.toList.length ≤ 15
  notPrefix : rex = none → isLegacyPrefix (body.get 0) = false
  notRex : rex = none → isRex (body.get 0) = false

namespace IsHeader

variable {prefixes : List Byte} {rex : Option Byte} {body : Code}

/-- The decoder finds the prefixes and the REX byte of a header. -/
theorem decoded (header : IsHeader prefixes rex body) :
    legacyPrefixes ((prefixes ++ rex.toList) ++ₛ body) = prefixes ∧
      rexByte? ((prefixes ++ rex.toList) ++ₛ body) = rex := by
  have short := header.short
  rw [Stream'.append_append_stream]
  cases rex with
  | some b =>
      have pattern : isRex b = true := header.pattern b rfl
      have room : prefixes.length < 15 := by
        simp at short
        omega
      have run :
          legacyPrefixes (prefixes ++ₛ ([b] ++ₛ body)) = prefixes :=
        legacyPrefixes_append header.legacy room.le
          (not_legacyPrefix_of_rex pattern)
      have byte : (prefixes ++ₛ ([b] ++ₛ body)).get prefixes.length = b := by
        rw [Stream'.get_append_length]
        rfl
      refine ⟨run, ?_⟩
      simp only [Option.toList_some, rexByte?, run, byte, pattern, room]
      rfl
  | none =>
      have run :
          legacyPrefixes (prefixes ++ₛ body) = prefixes :=
        legacyPrefixes_append header.legacy (by simpa using short)
          (header.notPrefix rfl)
      have byte : (prefixes ++ₛ body).get prefixes.length = body.get 0 := by
        rw [Stream'.get_append_length]
      refine ⟨run, ?_⟩
      simp [rexByte?, run, byte, header.notRex rfl]

theorem headerEnd_eq (header : IsHeader prefixes rex body) :
    headerEnd ((prefixes ++ rex.toList) ++ₛ body) =
      (prefixes ++ rex.toList).length := by
  rcases header.decoded with ⟨run, byte⟩
  rw [headerEnd, rexLength, run, byte, List.length_append]

theorem headerByte_eq (header : IsHeader prefixes rex body) (offset : ℕ) :
    headerByte ((prefixes ++ rex.toList) ++ₛ body) offset =
      body.get offset := by
  rw [headerByte, header.headerEnd_eq, Stream'.get_append_right]

/-- A REX byte ends a header, whatever follows it. -/
theorem ofRex
    {b : Byte} (legacy : ∀ b ∈ prefixes, isLegacyPrefix b = true)
    (pattern : isRex b = true) (short : prefixes.length < 15) (body : Code) :
    IsHeader prefixes (some b) body := by
  constructor
  · exact legacy
  · intro rex member
    obtain rfl : b = rex := by simpa using member
    exact pattern
  · exact short
  · simp
  · simp

/-- So does the first byte of a VEX prefix. -/
theorem ofVex
    (legacy : ∀ b ∈ prefixes, isLegacyPrefix b = true)
    (short : prefixes.length ≤ 15)
    (vex : body.get 0 = 0xC4#8 ∨ body.get 0 = 0xC5#8) :
    IsHeader prefixes none body := by
  constructor
  · exact legacy
  · simp
  · simpa using short
  · intro _
    rcases vex with first | first <;> rw [first] <;> decide
  · intro _
    rcases vex with first | first <;> rw [first] <;> decide

end IsHeader

/-! ## Streams which differ in their prefixes -/

/-- The bytes behind the prefixes, from the REX byte on. -/
theorem headerByte_drop (ip : Code) (offset : ℕ) :
    headerByte ip offset =
      (ip.drop (legacyPrefixes ip).length).get (rexLength ip + offset) := by
  rw [headerByte, headerEnd, Stream'.get_drop, Nat.add_assoc]

/-- A REX byte is recognised by the byte behind the prefixes. -/
theorem rexByte?_drop (ip : Code) :
    rexByte? ip =
      if (legacyPrefixes ip).length < 15 ∧
          isRex ((ip.drop (legacyPrefixes ip).length).get 0) then
        some ((ip.drop (legacyPrefixes ip).length).get 0)
      else none := by
  rw [Stream'.get_drop, Nat.add_zero]
  rfl

section Rest

variable {ip ip' : Code}
  (rest :
    ip.drop (legacyPrefixes ip).length = ip'.drop (legacyPrefixes ip').length)

include rest

/-- Short of the limit the same REX byte is recognised. -/
theorem rexByte?_eq_of_rest (room : (legacyPrefixes ip).length < 15)
    (room' : (legacyPrefixes ip').length < 15) :
    rexByte? ip = rexByte? ip' := by
  simp only [rexByte?_drop, rest, room, room', true_and]

/-- Behind the same REX byte stand the same bytes. -/
theorem headerByte_eq_of_rest (rex : rexByte? ip = rexByte? ip')
    (offset : ℕ) :
    headerByte ip offset = headerByte ip' offset := by
  rw [headerByte_drop, headerByte_drop, rest, rexLength, rexLength, rex]

/-- So does the same opcode. -/
theorem opcode_eq_of_rest (rex : rexByte? ip = rexByte? ip') :
    opcodeForm ip = opcodeForm ip' ∧ opcodeMap ip = opcodeMap ip' ∧
      opcodeByte ip = opcodeByte ip' := by
  have byte := headerByte_eq_of_rest rest rex
  have form : opcodeForm ip = opcodeForm ip' := by
    simp only [opcodeForm, byte]
  simp only [opcodeMap, opcodeByte, form, byte, and_self]

end Rest

end BadCpu
