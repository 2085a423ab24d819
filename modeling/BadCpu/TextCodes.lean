import Mathlib.Data.List.Infix
import Mathlib.Data.Stream.Init

/-!
# Words at the ends of a text

If no word of a code begins another one, the first word of a text can be read
off, whatever follows it, and so can any number of words behind one another.  If
no word ends another one, the last word can be read off, whatever stands in
front of it.
-/

namespace BadCpu.TextCodes

variable {α κ : Type}

/-- No word is the beginning of another one. -/
def PrefixFree (code : κ → List α) : Prop :=
  ∀ key key', code key <+: code key' → key = key'

/-- No word is the end of another one. -/
def SuffixFree (code : κ → List α) : Prop :=
  ∀ key key', code key <:+ code key' → key = key'

variable {code : κ → List α} {key key' : κ} {rest rest' : List α}

theorem PrefixFree.append_inj
    (free : PrefixFree code) (same : code key ++ rest = code key' ++ rest') :
    key = key' ∧ rest = rest' := by
  have first : code key <+: code key' ++ rest' := ⟨rest, same⟩
  have equal : key = key' := by
    rcases List.prefix_or_prefix_of_prefix first
        (List.prefix_append _ _) with short | long
    · exact free _ _ short
    · exact (free _ _ long).symm
  subst equal
  exact ⟨rfl, List.append_cancel_left same⟩

section Streams

variable {tail tail' : Stream' α}

/-- The first word of a stream can be read off, too. -/
theorem PrefixFree.stream_inj
    (free : PrefixFree code) (same : code key ++ₛ tail = code key' ++ₛ tail') :
    key = key' ∧ tail = tail' := by
  have shorter {short long : κ} {rest rest' : Stream' α}
      (fits : (code short).length ≤ (code long).length)
      (equal : code short ++ₛ rest = code long ++ₛ rest') :
      short = long := by
    apply free
    rw [List.prefix_iff_eq_take,
      ← Stream'.take_append_of_le_length _ _ rest' fits, ← equal,
      Stream'.take_append_of_le_length _ _ rest le_rfl, List.take_length]
  have equal : key = key' := by
    rcases Nat.le_total (code key).length (code key').length with fits | fits
    · exact shorter fits same
    · exact (shorter fits same.symm).symm
  subst equal
  exact ⟨rfl, Stream'.append_right_injective _ _ _ same⟩

/-- A number of words behind one another can be read off. -/
theorem PrefixFree.flatMap_inj
    (free : PrefixFree code) {keys keys' : List κ}
    (length : keys.length = keys'.length)
    (same : keys.flatMap code ++ₛ tail = keys'.flatMap code ++ₛ tail') :
    keys = keys' := by
  induction keys generalizing keys' with
  | nil => exact (List.length_eq_zero_iff.mp length.symm).symm
  | cons key keys ih =>
      cases keys' with
      | nil => exact absurd length (Nat.succ_ne_zero _)
      | cons key' keys' =>
          rw [List.flatMap_cons, List.flatMap_cons,
            Stream'.append_append_stream, Stream'.append_append_stream] at same
          rcases free.stream_inj same with ⟨rfl, rest⟩
          rw [ih (Nat.succ_inj.mp length) rest]

end Streams

theorem SuffixFree.append_inj
    (free : SuffixFree code) (same : rest ++ code key = rest' ++ code key') :
    rest = rest' ∧ key = key' := by
  have last : code key <:+ rest' ++ code key' := ⟨rest, same⟩
  have equal : key = key' := by
    rcases List.suffix_or_suffix_of_suffix last
        (List.suffix_append _ _) with short | long
    · exact free _ _ short
    · exact (free _ _ long).symm
  subst equal
  exact ⟨List.append_cancel_right same, rfl⟩

/-- The words may be preceded by the same text. -/
theorem SuffixFree.lead (free : SuffixFree code) (lead : List α) :
    SuffixFree fun key => lead ++ code key := by
  rintro key key' ⟨rest, same⟩
  rw [← List.append_assoc] at same
  exact (free.append_inj same).2

end BadCpu.TextCodes
