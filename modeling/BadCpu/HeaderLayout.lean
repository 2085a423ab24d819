import BadCpu.Decoder
import Mathlib.Data.List.TakeWhile

/-!
# The header of an instruction

The prefix loop, the REX test and the flag loop of the decoder are described
by the stream alone: the maximal run of legacy prefixes in the first fifteen
bytes, followed by an optional REX byte.  The decoder stages are shown to
compute exactly these data, and to look no further than the first byte behind
them.
-/

namespace BadCpu

open AdaptiveQuery

/-! ## The header of a stream -/

/-- The legacy prefix bytes which the decoder consumes. -/
def legacyPrefixes (ip : Code) : List Byte :=
  (ip.take 15).takeWhile isLegacyPrefix

/-- The REX byte behind the legacy prefixes, if there is one. -/
def rexByte? (ip : Code) : Option Byte :=
  let n := (legacyPrefixes ip).length
  if n < 15 ∧ isRex (ip.get n) then some (ip.get n) else none

/-- The number of REX bytes consumed. -/
def rexLength (ip : Code) : ℕ :=
  (rexByte? ip).toList.length

/-- The index of the byte behind legacy prefixes and REX. -/
def headerEnd (ip : Code) : ℕ :=
  (legacyPrefixes ip).length + rexLength ip

/-- The prefixes which fit into the four slots. -/
def recordedPrefixes (ip : Code) : List Byte :=
  (legacyPrefixes ip).take 4

theorem legacyPrefixes_length_le (ip : Code) :
    (legacyPrefixes ip).length ≤ 15 := by
  have bound := (List.takeWhile_prefix isLegacyPrefix (l := ip.take 15)).length_le
  simpa only [legacyPrefixes, Stream'.length_take] using bound

theorem rexLength_eq (ip : Code) :
    rexLength ip =
      if (legacyPrefixes ip).length < 15 ∧
          isRex (ip.get (legacyPrefixes ip).length) then 1 else 0 := by
  simp only [rexLength, rexByte?]
  split_ifs <;> rfl

theorem headerEnd_le (ip : Code) : headerEnd ip ≤ 15 := by
  have bound := legacyPrefixes_length_le ip
  rw [headerEnd, rexLength_eq]
  split_ifs <;> omega

/-! ## The prefix loop -/

/-- The instruction after recording a list of prefixes from scratch. -/
def recordPrefixes (bytes : List Byte) : DecodedInstruction :=
  bytes.foldl recordPrefix {}

/-- Appending one prefix keeps the recorded list truncated at four. -/
theorem recordPrefix_recorded (inst : DecodedInstruction) (b : Byte)
    (bound : inst.prefixCount ≤ 4) :
    (recordPrefix inst b).prefixCount ≤ 4 ∧
      (recordPrefix inst b).prefixes.toList.take
          (recordPrefix inst b).prefixCount =
        (inst.prefixes.toList.take inst.prefixCount ++ [b]).take 4 := by
  rw [recordPrefix]
  split_ifs with free
  · refine ⟨free, ?_⟩
    have size : inst.prefixes.toList.length = 4 := by simp
    have short :
        (inst.prefixes.toList.take inst.prefixCount ++ [b]).length ≤ 4 := by
      simp
      omega
    rw [List.take_of_length_le short]
    simp only [Vector.toList_set]
    rw [List.take_add_one, List.take_set_of_le (Nat.le_refl _),
      List.getElem?_set_self (by omega)]
    rfl
  · have full : inst.prefixCount = 4 := by omega
    refine ⟨bound, ?_⟩
    rw [full, List.take_append_of_le_length (by simp), List.take_take,
      Nat.min_self]

theorem take_append_take {α : Type} (n : ℕ) (xs ys : List α) :
    (xs.take n ++ ys).take n = (xs ++ ys).take n := by
  rw [List.take_append, List.take_append, List.take_take, Nat.min_self,
    List.length_take]
  congr 2
  omega

/-- The recorded prefixes are the first four of the run. -/
theorem foldl_recordPrefix_recorded
    (bytes : List Byte) (inst : DecodedInstruction)
    (bound : inst.prefixCount ≤ 4) :
    (bytes.foldl recordPrefix inst).prefixes.toList.take
        (bytes.foldl recordPrefix inst).prefixCount =
      (inst.prefixes.toList.take inst.prefixCount ++ bytes).take 4 := by
  induction bytes generalizing inst with
  | nil =>
      have short : (inst.prefixes.toList.take inst.prefixCount).length ≤ 4 :=
        (List.length_take_le _ _).trans bound
      rw [List.foldl_nil, List.append_nil, List.take_of_length_le short]
  | cons b rest ih =>
      rcases recordPrefix_recorded inst b bound with ⟨nextBound, step⟩
      rw [List.foldl_cons, ih _ nextBound, step, take_append_take,
        List.append_assoc, List.singleton_append]

/-- Recording prefixes touches only the two prefix fields. -/
theorem foldl_recordPrefix_eq
    (bytes : List Byte) (inst : DecodedInstruction) :
    bytes.foldl recordPrefix inst =
      { inst with
        prefixes := (bytes.foldl recordPrefix inst).prefixes
        prefixCount := (bytes.foldl recordPrefix inst).prefixCount } := by
  induction bytes generalizing inst with
  | nil => rfl
  | cons b rest ih =>
      rw [List.foldl_cons, ih]
      rw [recordPrefix]
      split_ifs <;> rfl

/-- The prefix loop records the maximal run of prefixes at its position. -/
theorem legacyPrefixLoop_run
    (ip : Code) (remaining : ℕ) (inst : DecodedInstruction) (pos : ℕ) :
    (legacyPrefixLoop remaining inst pos).run ip.get =
      let consumed := ((ip.drop pos).take remaining).takeWhile isLegacyPrefix
      (consumed.foldl recordPrefix inst, pos + consumed.length) := by
  induction remaining generalizing inst pos with
  | zero => rfl
  | succ remaining ih =>
      simp only [legacyPrefixLoop, Query.run_bind, Query.run_read,
        Query.run_ite, Query.run_pure, Stream'.take_succ, Stream'.head_drop,
        Stream'.tail_drop']
      split_ifs with legacy
      · rw [ih]
        simp [legacy, Nat.add_assoc, Nat.add_comm 1]
      · simp [legacy]

/-- The prefix loop looks at most one byte beyond the run it consumes. -/
theorem mem_legacyPrefixLoop_asked
    (ip : Code) (remaining : ℕ) (inst : DecodedInstruction) (pos index : ℕ)
    (member : index ∈ (legacyPrefixLoop remaining inst pos).asked ip.get) :
    index < pos + remaining ∧
      index ≤ ((legacyPrefixLoop remaining inst pos).run ip.get).2 := by
  induction remaining generalizing inst pos with
  | zero => simp [legacyPrefixLoop] at member
  | succ remaining ih =>
      simp only [legacyPrefixLoop, Query.run_bind, Query.asked_bind,
        Query.run_read, Query.asked_read, Query.run_ite, Query.asked_ite,
        Query.run_pure, Query.asked_pure, List.mem_append,
        List.mem_singleton] at member ⊢
      split_ifs at member ⊢ with legacy
      · rcases member with here | later
        · rw [legacyPrefixLoop_run]
          dsimp only
          omega
        · have bounds := ih _ _ later
          omega
      · simp at member
        omega

/-! ## REX and the prefix flags -/

theorem foldl_flagPrefix
    (bytes : List Byte) (inst : DecodedInstruction) :
    bytes.foldl flagPrefix inst =
      { inst with
        has66 := inst.has66 || bytes.contains 0x66#8
        hasF2 := inst.hasF2 || bytes.contains 0xF2#8
        hasF3 := inst.hasF3 || bytes.contains 0xF3#8 } := by
  induction bytes generalizing inst with
  | nil => simp
  | cons b rest ih =>
      rw [List.foldl_cons, ih]
      simp only [flagPrefix, List.contains_cons, Bool.or_assoc]
      simp only [Bool.beq_comm]

/-- The instruction as it stands behind the header. -/
def header (ip : Code) : DecodedInstruction :=
  { prefixes := (recordPrefixes (legacyPrefixes ip)).prefixes
    prefixCount := (recordPrefixes (legacyPrefixes ip)).prefixCount
    rex := (rexByte? ip).getD 0#8
    hasRex := (rexByte? ip).isSome
    has66 := (recordedPrefixes ip).contains 0x66#8
    hasF2 := (recordedPrefixes ip).contains 0xF2#8
    hasF3 := (recordedPrefixes ip).contains 0xF3#8 }

theorem legacyPrefixLoop_start (ip : Code) :
    (legacyPrefixLoop 15 {} 0).run ip.get =
      (recordPrefixes (legacyPrefixes ip), (legacyPrefixes ip).length) := by
  rw [legacyPrefixLoop_run]
  simp [recordPrefixes, legacyPrefixes]

theorem prefixFlags_recordPrefixes (bytes : List Byte) (inst : DecodedInstruction)
    (prefixes : inst.prefixes = (recordPrefixes bytes).prefixes)
    (count : inst.prefixCount = (recordPrefixes bytes).prefixCount) :
    prefixFlags inst =
      { inst with
        has66 := inst.has66 || (bytes.take 4).contains 0x66#8
        hasF2 := inst.hasF2 || (bytes.take 4).contains 0xF2#8
        hasF3 := inst.hasF3 || (bytes.take 4).contains 0xF3#8 } := by
  have recorded := foldl_recordPrefix_recorded bytes {} (by decide)
  simp only [List.take_zero, List.nil_append] at recorded
  rw [prefixFlags, foldl_flagPrefix, prefixes, count, recordPrefixes, recorded]

theorem recordPrefixes_eq (bytes : List Byte) :
    recordPrefixes bytes =
      { prefixes := (recordPrefixes bytes).prefixes
        prefixCount := (recordPrefixes bytes).prefixCount } :=
  foldl_recordPrefix_eq bytes {}

theorem rexPrefix_run (ip : Code) :
    (rexPrefix (recordPrefixes (legacyPrefixes ip))
        (legacyPrefixes ip).length).run ip.get =
      ({ recordPrefixes (legacyPrefixes ip) with
          rex := (rexByte? ip).getD 0#8
          hasRex := (rexByte? ip).isSome },
        headerEnd ip) := by
  have untouched := recordPrefixes_eq (legacyPrefixes ip)
  simp only [rexPrefix, headerEnd, rexLength, rexByte?]
  by_cases room : (legacyPrefixes ip).length < 15
  · by_cases rex : isRex (ip.get (legacyPrefixes ip).length)
    · simp [room, rex]
    · simp only [room, rex, if_true, Query.run_bind, Query.run_read,
        Query.run_ite, Query.run_pure]
      rw [untouched]
      rfl
  · simp only [room, false_and, if_false, Query.run_pure]
    rw [untouched]
    rfl

theorem decodeHeader_run (ip : Code) :
    decodeHeader.run ip.get = (header ip, headerEnd ip) := by
  have flags :=
    prefixFlags_recordPrefixes (legacyPrefixes ip)
      { recordPrefixes (legacyPrefixes ip) with
        rex := (rexByte? ip).getD 0#8
        hasRex := (rexByte? ip).isSome } rfl rfl
  simp only [decodeHeader, Query.run_bind, legacyPrefixLoop_start,
    rexPrefix_run, Query.run_pure]
  rw [flags, recordPrefixes_eq]
  rfl

/-- The header stages look no further than the first byte behind the header. -/
theorem mem_decodeHeader_asked
    {ip : Code} {index : ℕ} (member : index ∈ decodeHeader.asked ip.get) :
    index < 15 ∧ index ≤ headerEnd ip := by
  simp only [decodeHeader, Query.asked_bind, legacyPrefixLoop_start,
    Query.asked_pure, List.append_nil, List.mem_append] at member
  rcases member with loop | rex
  · have bounds := mem_legacyPrefixLoop_asked ip 15 {} 0 index loop
    rw [legacyPrefixLoop_start] at bounds
    rw [headerEnd]
    omega
  · have room : (legacyPrefixes ip).length < 15 ∧
        index = (legacyPrefixes ip).length := by
      simp only [rexPrefix, Query.asked_ite, Query.asked_bind,
        Query.asked_read, Query.asked_pure] at rex
      split_ifs at rex with room legacy
      · simpa [room] using rex
      · simpa [room] using rex
      · simp at rex
    rw [headerEnd]
    omega

end BadCpu
