import Mathlib.Data.BitVec

/-!
# Bytes as hexadecimal text

Text is a list of character codes.  A dump writes every byte as a space and two
lower-case digits.  Reading a dump back recovers the bytes, whatever text
follows it, as long as this text does not itself start with a space.
-/

namespace BadCpu.HexText

/-! ## Digits -/

/-- The code of a digit below sixteen. -/
def digit (value : ℕ) : BitVec 8 :=
  if value < 10 then BitVec.ofNat 8 (48 + value)
  else BitVec.ofNat 8 (87 + value)

def digitValue (code : BitVec 8) : Option ℕ :=
  if 48 ≤ code.toNat ∧ code.toNat ≤ 57 then some (code.toNat - 48)
  else if 97 ≤ code.toNat ∧ code.toNat ≤ 102 then some (code.toNat - 87)
  else none

theorem digitValue_digit {value : ℕ} (small : value < 16) :
    digitValue (digit value) = some value := by
  revert value
  decide

/-! ## Dumps -/

def space : BitVec 8 :=
  32#8

/-- A byte as a space and two digits. -/
def dumpByte (b : BitVec 8) : List (BitVec 8) :=
  [space, digit (b.toNat / 16), digit (b.toNat % 16)]

def dump (bytes : List (BitVec 8)) : List (BitVec 8) :=
  bytes.flatMap dumpByte

/-- The bytes of the dump with which a text starts. -/
def readDump : List (BitVec 8) → List (BitVec 8)
  | mark :: high :: low :: rest =>
      if mark = space then
        match digitValue high, digitValue low with
        | some high, some low =>
            BitVec.ofNat 8 (16 * high + low) :: readDump rest
        | _, _ => []
      else []
  | _ => []

theorem readDump_cons (b : BitVec 8) (rest : List (BitVec 8)) :
    readDump (dumpByte b ++ rest) = b :: readDump rest := by
  have high : b.toNat / 16 < 16 := by
    have bound := b.isLt
    omega
  have low : b.toNat % 16 < 16 := Nat.mod_lt _ (by decide)
  have value : BitVec.ofNat 8 (16 * (b.toNat / 16) + b.toNat % 16) = b := by
    rw [Nat.div_add_mod, BitVec.ofNat_toNat, BitVec.setWidth_eq]
  simp only [dumpByte, List.cons_append, List.nil_append, readDump, if_true,
    digitValue_digit high, digitValue_digit low, value]

/-- Reading stops at a text which does not start with a space. -/
theorem readDump_of_head
    {rest : List (BitVec 8)} (other : rest.head? ≠ some space) :
    readDump rest = [] := by
  cases rest with
  | nil => rfl
  | cons mark rest =>
      have different : mark ≠ space := by simpa using other
      rcases rest with _ | ⟨high, _ | ⟨low, rest⟩⟩
      · rfl
      · rfl
      · rw [readDump, if_neg different]

/-- A dump is read back in front of any other text. -/
theorem readDump_dump
    (bytes : List (BitVec 8)) {rest : List (BitVec 8)}
    (other : rest.head? ≠ some space) :
    readDump (dump bytes ++ rest) = bytes := by
  induction bytes with
  | nil => exact readDump_of_head other
  | cons b bytes ih =>
      have split :
          dump (b :: bytes) ++ rest = dumpByte b ++ (dump bytes ++ rest) := by
        simp only [dump, List.flatMap_cons, List.append_assoc]
      rw [split, readDump_cons, ih]

end BadCpu.HexText
