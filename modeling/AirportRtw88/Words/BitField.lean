import Mathlib.Algebra.Ring.Nat
import Mathlib.Data.List.Basic
import Mathlib.Order.Lattice
import Mathlib.Tactic.Common

/-!
# Fields of machine words

A field is a non-empty run of bits of a word.  Its mask has exactly these bits, and its value
is the run shifted down to bit 0.
-/

namespace Words

/-- A run of `len` bits of a word, the lowest at `low`. -/
structure Field (width : Nat) where
  low : Nat
  len : Nat
  nonempty : 0 < len
  fits : low + len ≤ width

namespace Field

variable {width : Nat}

/-- The contiguous mask of a field. -/
def mask (field : Field width) : BitVec width :=
  BitVec.ofNat width (2 ^ field.len - 1) <<< field.low

/-- The bits of a word in a field, shifted down to bit 0. -/
def get (field : Field width) (word : BitVec width) : BitVec field.len :=
  word.extractLsb' field.low field.len

variable (field : Field width)

@[simp]
theorem getLsbD_mask (index : Nat) :
    field.mask.getLsbD index = decide (field.low ≤ index ∧ index < field.low + field.len) := by
  have := field.fits
  simp only [mask, BitVec.getLsbD_shiftLeft, BitVec.getLsbD_ofNat, Nat.testBit_two_pow_sub_one]
  by_cases inside : field.low ≤ index ∧ index < field.low + field.len
  · rw [decide_eq_true (show index < width by omega), decide_eq_true inside,
      decide_eq_false (show ¬ index < field.low by omega),
      decide_eq_true (show index - field.low < width by omega),
      decide_eq_true (show index - field.low < field.len by omega)]
    rfl
  · rw [decide_eq_false inside]
    by_cases below : index < field.low
    · simp [below]
    · rw [decide_eq_false (show ¬ index - field.low < field.len by omega)]
      simp

@[simp]
theorem getLsbD_get (word : BitVec width) (index : Nat) :
    (field.get word).getLsbD index =
      (decide (index < field.len) && word.getLsbD (field.low + index)) := by
  rw [get, BitVec.getLsbD_extractLsb']

@[simp]
theorem getLsbD_setWidth_mask {wider : Nat} (wide : width ≤ wider) (index : Nat) :
    (field.mask.setWidth wider).getLsbD index =
      decide (field.low ≤ index ∧ index < field.low + field.len) := by
  have := field.fits
  rw [BitVec.getLsbD_setWidth, getLsbD_mask]
  by_cases inside : index < wider
  · rw [decide_eq_true inside, Bool.true_and]
  · simp [inside]
    omega

/-- The lowest bit of a mask is where its field starts. -/
theorem ctz_setWidth_mask {wider : Nat} (wide : width ≤ wider) :
    (field.mask.setWidth wider).ctz.toNat = field.low := by
  have lowest : (field.mask.setWidth wider).getLsbD field.low = true := by
    rw [field.getLsbD_setWidth_mask wide]
    simp [field.nonempty]
  have nonzero : field.mask.setWidth wider ≠ 0 := by
    intro zero
    simp [zero] at lowest
  have set := BitVec.getLsbD_true_ctz_of_ne_zero nonzero
  rw [field.getLsbD_setWidth_mask wide, decide_eq_true_iff] at set
  by_contra other
  have clear := BitVec.getLsbD_false_of_lt_ctz
    (show field.low < (field.mask.setWidth wider).ctz.toNat by omega)
  rw [lowest] at clear
  cases clear

/-- A value fits a field if it has no bit beyond its length. -/
theorem getLsbD_of_fits {value : BitVec width} (small : value.toNat < 2 ^ field.len)
    {index : Nat} (beyond : field.len ≤ index) : value.getLsbD index = false := by
  apply Nat.testBit_lt_two_pow
  exact small.trans_le (Nat.pow_le_pow_right Nat.two_pos beyond)

end Field

end Words
