import Mathlib.Data.BitVec
import Mathlib.Logic.Function.Basic

/-!
# Little-endian words in byte memory

A word of `n` bytes is determined by its bytes.  Loading assembles a word from
consecutive memory bytes, storing writes them back, and byte reversal permutes
them.  Addresses are bit vectors of any width and wrap around.
-/

namespace BadCpu.ByteMemory

/-! ## Bytes of a word -/

/-- The byte of a word at a byte position, least significant first. -/
def byteAt {width : ℕ} (word : BitVec width) (position : ℕ) : BitVec 8 :=
  word.extractLsb' (8 * position) 8

/-- The word of `n` bytes with the given bytes, least significant first. -/
def ofBytes : (n : ℕ) → (ℕ → BitVec 8) → BitVec (8 * n)
  | 0, _ => 0#0
  | n + 1, bytes => ofBytes n (fun i => bytes (i + 1)) ++ bytes 0

theorem getLsbD_ofBytes (n : ℕ) (bytes : ℕ → BitVec 8) (bit : ℕ) :
    (ofBytes n bytes).getLsbD bit =
      (decide (bit < 8 * n) && (bytes (bit / 8)).getLsbD (bit % 8)) := by
  induction n generalizing bytes bit with
  | zero => simp [ofBytes]
  | succ n ih =>
      have split :
          (ofBytes (n + 1) bytes).getLsbD bit =
            if bit < 8 then (bytes 0).getLsbD bit
            else (ofBytes n fun i => bytes (i + 1)).getLsbD (bit - 8) := by
        exact BitVec.getLsbD_append
      rw [split]
      split_ifs with low
      · have div : bit / 8 = 0 := by omega
        have mod : bit % 8 = bit := by omega
        have within : bit < 8 * (n + 1) := by omega
        simp [div, mod, within]
      · have div : bit / 8 = (bit - 8) / 8 + 1 := by omega
        have mod : bit % 8 = (bit - 8) % 8 := by omega
        have within : (bit - 8 < 8 * n) ↔ bit < 8 * (n + 1) := by omega
        rw [ih, div, mod]
        simp only [within]

@[simp]
theorem byteAt_ofBytes
    {n position : ℕ} (bytes : ℕ → BitVec 8) (within : position < n) :
    byteAt (ofBytes n bytes) position = bytes position := by
  apply BitVec.eq_of_getLsbD_eq
  intro bit bound
  have inside : 8 * position + bit < 8 * n := by omega
  have div : (8 * position + bit) / 8 = position := by omega
  have mod : (8 * position + bit) % 8 = bit := by omega
  simp only [byteAt, BitVec.getLsbD_extractLsb', getLsbD_ofBytes, inside, div,
    mod, bound, decide_true, Bool.true_and]

/-- A word is the word of its bytes. -/
theorem ofBytes_byteAt {n : ℕ} (word : BitVec (8 * n)) :
    ofBytes n (byteAt word) = word := by
  apply BitVec.eq_of_getLsbD_eq
  intro bit bound
  have small : bit % 8 < 8 := Nat.mod_lt _ (by decide)
  have recompose : 8 * (bit / 8) + bit % 8 = bit := Nat.div_add_mod bit 8
  simp only [getLsbD_ofBytes, bound, byteAt, BitVec.getLsbD_extractLsb',
    small, recompose, decide_true, Bool.true_and]

theorem ofBytes_congr
    {n : ℕ} {left right : ℕ → BitVec 8}
    (agree : ∀ position < n, left position = right position) :
    ofBytes n left = ofBytes n right := by
  induction n generalizing left right with
  | zero => rfl
  | succ n ih =>
      have rest :
          ofBytes n (fun i => left (i + 1)) =
            ofBytes n (fun i => right (i + 1)) :=
        ih fun position within => agree (position + 1) (by omega)
      simp only [ofBytes, rest, agree 0 (by omega)]

/-- Words with the same bytes are equal. -/
theorem ext_byteAt
    {n : ℕ} {left right : BitVec (8 * n)}
    (agree : ∀ position < n, byteAt left position = byteAt right position) :
    left = right := by
  rw [← ofBytes_byteAt left, ← ofBytes_byteAt right]
  exact ofBytes_congr agree

/-! ## Byte reversal -/

/-- The word with its bytes in the opposite order. -/
def byteSwap (n : ℕ) (word : BitVec (8 * n)) : BitVec (8 * n) :=
  ofBytes n fun position => byteAt word (n - 1 - position)

@[simp]
theorem byteSwap_byteSwap {n : ℕ} (word : BitVec (8 * n)) :
    byteSwap n (byteSwap n word) = word := by
  apply ext_byteAt
  intro position within
  have mirrored : n - 1 - position < n := by omega
  have back : n - 1 - (n - 1 - position) = position := by omega
  simp only [byteSwap, byteAt_ofBytes _ within, byteAt_ofBytes _ mirrored,
    back]

/-- Byte reversal is its own inverse on equations. -/
theorem byteSwap_eq_iff {n : ℕ} (left right : BitVec (8 * n)) :
    byteSwap n left = right ↔ left = byteSwap n right := by
  constructor
  · rintro rfl
    exact (byteSwap_byteSwap left).symm
  · rintro rfl
    exact byteSwap_byteSwap right

/-- The upper bytes of a reversed word are its lower ones, reversed. -/
theorem extractLsb'_byteSwap
    {k n : ℕ} (within : k ≤ n) (word : BitVec (8 * n)) :
    (byteSwap n word).extractLsb' (8 * (n - k)) (8 * k) =
      byteSwap k (word.setWidth (8 * k)) := by
  apply ext_byteAt
  intro position bound
  have upper :
      byteAt ((byteSwap n word).extractLsb' (8 * (n - k)) (8 * k)) position =
        byteAt (byteSwap n word) (n - k + position) := by
    apply BitVec.eq_of_getLsbD_eq
    intro bit low
    have inside : 8 * position + bit < 8 * k := by omega
    simp only [byteAt, BitVec.getLsbD_extractLsb', inside, low, decide_true,
      Bool.true_and, Nat.mul_add, Nat.add_assoc]
  have lower :
      byteAt (word.setWidth (8 * k)) (k - 1 - position) =
        byteAt word (k - 1 - position) := by
    apply BitVec.eq_of_getLsbD_eq
    intro bit low
    have inside : 8 * (k - 1 - position) + bit < 8 * k := by omega
    simp only [byteAt, BitVec.getLsbD_extractLsb', BitVec.getLsbD_setWidth,
      inside, low, decide_true, Bool.true_and]
  have mirrored : n - 1 - (n - k + position) = k - 1 - position := by omega
  rw [upper, byteSwap, byteAt_ofBytes _ (by omega), mirrored, byteSwap,
    byteAt_ofBytes _ bound, lower]

/-! ## Loads and stores -/

variable {width : ℕ}

/-- The word of `n` bytes at an address. -/
def load (memory : BitVec width → BitVec 8) (address : BitVec width) (n : ℕ) :
    BitVec (8 * n) :=
  ofBytes n fun position => memory (address + BitVec.ofNat width position)

/-- The low bytes of a load are loaded at the same address. -/
theorem setWidth_load
    {k n : ℕ} (within : k ≤ n) (memory : BitVec width → BitVec 8)
    (address : BitVec width) :
    (load memory address n).setWidth (8 * k) = load memory address k := by
  apply BitVec.eq_of_getLsbD_eq
  intro bit bound
  have inside : bit < 8 * n := by omega
  simp only [load, BitVec.getLsbD_setWidth, getLsbD_ofBytes, bound, inside,
    decide_true, Bool.true_and]

/-- The memory after writing a word of `n` bytes at an address. -/
def store
    (memory : BitVec width → BitVec 8) (address : BitVec width) (n : ℕ)
    (word : BitVec (8 * n)) : BitVec width → BitVec 8 :=
  fun target =>
    if (target - address).toNat < n then
      byteAt word (target - address).toNat
    else memory target

theorem offset_sub (address : BitVec width) {position : ℕ}
    (within : position < 2 ^ width) :
    (address + BitVec.ofNat width position - address).toNat = position := by
  rw [BitVec.add_comm, BitVec.add_sub_cancel, BitVec.toNat_ofNat,
    Nat.mod_eq_of_lt within]

/-- A load returns what was stored at the same address. -/
@[simp]
theorem load_store
    (memory : BitVec width → BitVec 8) (address : BitVec width) {n : ℕ}
    (word : BitVec (8 * n)) (fits : n ≤ 2 ^ width) :
    load (store memory address n word) address n = word := by
  apply ext_byteAt
  intro position within
  have offset :
      (address + BitVec.ofNat width position - address).toNat = position :=
    offset_sub address (by omega)
  simp only [load, byteAt_ofBytes _ within, store, offset, within, if_true]

/-- Storing what is already there changes nothing. -/
@[simp]
theorem store_load
    (memory : BitVec width → BitVec 8) (address : BitVec width) (n : ℕ) :
    store memory address n (load memory address n) = memory := by
  funext target
  rw [store]
  split_ifs with within
  · have back :
        address + BitVec.ofNat width (target - address).toNat = target := by
      rw [BitVec.ofNat_toNat, BitVec.setWidth_eq, BitVec.add_comm,
        BitVec.sub_add_cancel]
    simp only [load, byteAt_ofBytes _ within, back]
  · rfl

/-- A store is invisible exactly when the word is already in memory. -/
theorem store_eq_self_iff
    (memory : BitVec width → BitVec 8) (address : BitVec width) {n : ℕ}
    (word : BitVec (8 * n)) (fits : n ≤ 2 ^ width) :
    store memory address n word = memory ↔ load memory address n = word := by
  constructor
  · intro unchanged
    rw [← unchanged]
    exact load_store memory address word fits
  · rintro rfl
    exact store_load memory address n

end BadCpu.ByteMemory
