import Mathlib.Algebra.Order.Ring.Abs
import Mathlib.Data.List.Basic
import Mathlib.Tactic.Linarith
import Mathlib.Tactic.Ring

/-!
# Moving averages

`DECLARE_EWMA` declares an exponentially weighted moving average over `unsigned long` fixed-point
numbers.  Its update shifts by the weight itself, not by the logarithm of the weight, so only
averages of equal samples move as they should.
-/

namespace AirportRtw88

/-- The value of an `unsigned long` expression. -/
def ulong (value : Nat) : Nat :=
  value % 18446744073709551616

/-- A left shift, undefined from the width of the word on. -/
def shiftLeft (value amount : Nat) : Option Nat :=
  if amount < 64 then some (ulong (value * 2 ^ amount)) else none

def shiftRight (value amount : Nat) : Option Nat :=
  if amount < 64 then some (value / 2 ^ amount) else none

/-- The difference of two `unsigned long`s. -/
def difference (left right : Nat) : Nat :=
  ulong (left + 18446744073709551616 - right)

/-- `struct ewma_<name>`. -/
structure Ewma where
  internal : Nat

def ewmaInit : Ewma where
  internal := 0

def ewmaRead (precision : Nat) (e : Ewma) : Option Nat :=
  shiftRight e.internal precision

/-- `ewma_<name>_add`; it fails where it would shift by an amount that is negative or too wide. -/
def ewmaAdd (precision weightRcp val : Nat) (e : Ewma) : Option Ewma :=
  if e.internal = 0 then do
    let internal ← shiftLeft val precision
    return { internal := internal }
  else do
    let decay ← shiftRight e.internal weightRcp
    let share ← shiftLeft val (difference precision weightRcp)
    return { internal := ulong (difference e.internal decay + share) }

/-- The average after a list of samples. -/
def ewmaAddAll (precision weightRcp : Nat) : List Nat → Ewma → Option Ewma
  | [], e => some e
  | val :: vals, e => (ewmaAdd precision weightRcp val e).bind (ewmaAddAll precision weightRcp vals)

/-- The laws of an average with this precision and this reciprocal of the weight of a sample. -/
structure EwmaLaws (precision weightRcp : Nat) (samples : List Nat) : Prop where
  /-- All shifts are defined. -/
  shifts : (ewmaAddAll precision weightRcp samples ewmaInit).isSome
  /-- A later sample moves the average by its weight towards it, up to truncation. -/
  moves : ∀ before val after e e', samples = before ++ val :: after → before ≠ [] →
    ewmaAddAll precision weightRcp before ewmaInit = some e →
    ewmaAdd precision weightRcp val e = some e' →
    |(weightRcp * e'.internal : ℤ) - ((weightRcp - 1) * e.internal + val * 2 ^ precision)| <
      weightRcp
  /-- What is read lies between the samples so far. -/
  reads : ∀ before after e value, samples = before ++ after → before ≠ [] →
    ewmaAddAll precision weightRcp before ewmaInit = some e →
    ewmaRead precision e = some value →
    (∃ low ∈ before, low ≤ value + 1) ∧ ∃ high ∈ before, value ≤ high
  /-- Equal samples are read back. -/
  constant : ∀ before after e value sample, samples = before ++ after → before ≠ [] →
    (∀ val ∈ before, val = sample) →
    ewmaAddAll precision weightRcp before ewmaInit = some e →
    ewmaRead precision e = some value → value ≤ sample + 1 ∧ sample ≤ value + 1

/-- A positive sample whose scaled value fits the word. -/
def Fits (precision sample : Nat) : Prop :=
  0 < sample ∧ sample * 2 ^ precision < 18446744073709551616

section

variable {precision weightRcp sample : Nat}

theorem ulong_eq {value : Nat} (small : value < 18446744073709551616) : ulong value = value :=
  Nat.mod_eq_of_lt small

theorem difference_eq {left right : Nat} (ordered : right ≤ left)
    (small : left < 18446744073709551616) : difference left right = left - right := by
  unfold difference ulong
  omega

theorem Fits.precision_lt (fits : Fits precision sample) : precision < 64 := by
  by_contra wide
  have power : 2 ^ 64 ≤ 2 ^ precision := Nat.pow_le_pow_right Nat.two_pos (by omega)
  have scaled : 1 * 2 ^ precision ≤ sample * 2 ^ precision := Nat.mul_le_mul_right _ fits.1
  have small := fits.2
  omega

theorem ewmaAdd_init (fits : Fits precision sample) :
    ewmaAdd precision weightRcp sample ewmaInit =
      some { internal := sample * 2 ^ precision } := by
  simp [ewmaAdd, ewmaInit, shiftLeft, fits.precision_lt, ulong_eq fits.2]

theorem ewmaRead_scaled (fits : Fits precision sample) :
    ewmaRead precision { internal := sample * 2 ^ precision } = some sample := by
  simp [ewmaRead, shiftRight, fits.precision_lt]

/-- A sample after the first needs a weight that is at most the precision. -/
theorem ewmaAdd_eq_none (fits : Fits precision sample) (wide : precision < weightRcp)
    (small : weightRcp < 18446744073709551616) (val : Nat) :
    ewmaAdd precision weightRcp val { internal := sample * 2 ^ precision } = none := by
  have narrow := fits.precision_lt
  have set : sample * 2 ^ precision ≠ 0 := by
    have := fits.1
    positivity
  rw [ewmaAdd, if_neg set]
  by_cases word : weightRcp < 64
  · have amount : ¬ difference precision weightRcp < 64 := by
      unfold difference ulong
      omega
    simp [shiftRight, shiftLeft, word, amount]
  · simp [shiftRight, word]

/-- A weighted sum of two samples is at most the larger of them. -/
theorem shares_le (first second : Nat) {share whole : Nat} (inside : share ≤ whole) :
    first * whole - first * share + second * share ≤ max (first * whole) (second * whole) := by
  have firstShare : first * share ≤ first * whole := Nat.mul_le_mul_left _ inside
  have split : first * whole - first * share = first * (whole - share) :=
    (Nat.mul_sub _ _ _).symm
  rcases Nat.le_total first second with ordered | ordered
  · have rest : first * (whole - share) ≤ second * (whole - share) :=
      Nat.mul_le_mul_right _ ordered
    have all : second * (whole - share) + second * share = second * whole := by
      rw [← Nat.mul_add, Nat.sub_add_cancel inside]
    omega
  · have smaller : second * share ≤ first * share := Nat.mul_le_mul_right _ ordered
    omega

theorem two_mul_le_two_pow {number : Nat} (positive : 0 < number) : 2 * number ≤ 2 ^ number := by
  obtain ⟨number, rfl⟩ := Nat.exists_eq_add_of_lt positive
  rw [Nat.zero_add, Nat.pow_succ]
  have := Nat.lt_two_pow_self (n := number)
  omega

/-- What a sample after the first does to the scaled value of another one. -/
theorem ewmaAdd_scaled (fits : Fits precision sample) (narrow : weightRcp ≤ precision)
    {val : Nat} (valFits : Fits precision val) :
    ewmaAdd precision weightRcp val { internal := sample * 2 ^ precision } =
      some { internal := sample * 2 ^ precision - sample * 2 ^ (precision - weightRcp) +
        val * 2 ^ (precision - weightRcp) } := by
  have narrower := fits.precision_lt
  have set : sample * 2 ^ precision ≠ 0 := by
    have := fits.1
    positivity
  have power : 2 ^ precision = 2 ^ (precision - weightRcp) * 2 ^ weightRcp := by
    rw [← Nat.pow_add]
    congr 1
    omega
  have decay : sample * 2 ^ precision / 2 ^ weightRcp = sample * 2 ^ (precision - weightRcp) := by
    rw [power, ← Nat.mul_assoc]
    exact Nat.mul_div_cancel _ (by positivity)
  have part (number : Nat) : number * 2 ^ (precision - weightRcp) ≤ number * 2 ^ precision :=
    Nat.mul_le_mul_left _ (Nat.pow_le_pow_right Nat.two_pos (by omega))
  have samplePart := part sample
  have valPart := part val
  have sampleSmall := fits.2
  have valSmall := valFits.2
  have bounded := shares_le sample val
    (Nat.pow_le_pow_right Nat.two_pos (Nat.sub_le precision weightRcp))
  have sumSmall : sample * 2 ^ precision - sample * 2 ^ (precision - weightRcp) +
      val * 2 ^ (precision - weightRcp) < 18446744073709551616 := by
    omega
  rw [ewmaAdd, if_neg set]
  simp only [shiftRight, shiftLeft, show weightRcp < 64 by omega,
    difference_eq narrow (by omega), show precision - weightRcp < 64 by omega, if_true, decay]
  rw [ulong_eq (by omega)]
  change some (Ewma.mk (ulong (difference (sample * 2 ^ precision)
    (sample * 2 ^ (precision - weightRcp)) + val * 2 ^ (precision - weightRcp)))) = _
  rw [difference_eq samplePart sampleSmall, ulong_eq sumSmall]

theorem ewmaAddAll_append (before after : List Nat) (e : Ewma) :
    ewmaAddAll precision weightRcp (before ++ after) e =
      (ewmaAddAll precision weightRcp before e).bind
        (ewmaAddAll precision weightRcp after) := by
  induction before generalizing e with
  | nil => rfl
  | cons val before ih =>
      rw [List.cons_append, ewmaAddAll, ewmaAddAll, Option.bind_assoc]
      exact congrArg _ (funext ih)

/-- Equal samples leave the average where the first of them put it. -/
theorem ewmaAddAll_replicate (fits : Fits precision sample) (narrow : weightRcp ≤ precision)
    (count : Nat) :
    ewmaAddAll precision weightRcp (List.replicate (count + 1) sample) ewmaInit =
      some { internal := sample * 2 ^ precision } := by
  induction count with
  | zero => simp [ewmaAddAll, ewmaAdd_init fits]
  | succ count ih =>
      have part : sample * 2 ^ (precision - weightRcp) ≤ sample * 2 ^ precision :=
        Nat.mul_le_mul_left _ (Nat.pow_le_pow_right Nat.two_pos (Nat.sub_le _ _))
      rw [List.replicate_succ', ewmaAddAll_append, ih]
      simp only [Option.bind_some, ewmaAddAll, ewmaAdd_scaled fits narrow fits]
      rw [Nat.sub_add_cancel part]

/-- The step to a different sample is too short. -/
theorem not_moves {val : Nat} (different : val ≠ sample) (positive : 0 < weightRcp)
    (narrow : weightRcp ≤ precision) :
    ¬ |(weightRcp * ((sample * 2 ^ precision - sample * 2 ^ (precision - weightRcp) +
          val * 2 ^ (precision - weightRcp) : ℕ) : ℤ) : ℤ) -
        ((weightRcp - 1) * ((sample * 2 ^ precision : ℕ) : ℤ) + val * 2 ^ precision)| <
      weightRcp := by
  have power : 2 ^ precision = 2 ^ weightRcp * 2 ^ (precision - weightRcp) := by
    rw [← Nat.pow_add]
    congr 1
    omega
  have part : sample * 2 ^ (precision - weightRcp) ≤ sample * 2 ^ precision :=
    Nat.mul_le_mul_left _ (Nat.pow_le_pow_right Nat.two_pos (Nat.sub_le _ _))
  have twice : 2 * weightRcp ≤ 2 ^ weightRcp := two_mul_le_two_pow positive
  have unit : 1 ≤ 2 ^ (precision - weightRcp) := Nat.one_le_two_pow
  push_cast [Nat.cast_sub part]
  have powerInt : (2 ^ precision : ℤ) = 2 ^ weightRcp * 2 ^ (precision - weightRcp) := by
    exact_mod_cast power
  have twiceInt : (2 * weightRcp : ℤ) ≤ 2 ^ weightRcp := by exact_mod_cast twice
  have unitInt : (1 : ℤ) ≤ 2 ^ (precision - weightRcp) := by exact_mod_cast unit
  generalize (2 : ℤ) ^ (precision - weightRcp) = part at *
  generalize (2 : ℤ) ^ weightRcp = whole at *
  rw [powerInt]
  have error : (weightRcp : ℤ) * (sample * (whole * part) - sample * part + val * part) -
      ((weightRcp - 1) * (sample * (whole * part)) + val * (whole * part)) =
        (whole - weightRcp) * ((sample - val) * part) := by
    ring
  rw [error, abs_mul, abs_mul, not_lt]
  have apart : (1 : ℤ) ≤ |(sample - val : ℤ)| := by
    apply Int.one_le_abs
    omega
  have wide : (weightRcp : ℤ) ≤ |whole - weightRcp| := by
    apply le_trans _ (le_abs_self _)
    linarith
  have product : (1 : ℤ) ≤ |(sample - val : ℤ)| * |part| :=
    one_le_mul_of_one_le_of_one_le apart (unitInt.trans (le_abs_self _))
  calc (weightRcp : ℤ) = weightRcp * 1 := (mul_one _).symm
    _ ≤ |whole - weightRcp| * (|(sample - val : ℤ)| * |part|) :=
      mul_le_mul wide product (by norm_num) (abs_nonneg _)

/-- A list that is not all one sample has a first other one. -/
theorem exists_first_other {vals : List Nat} (other : ¬ ∀ val ∈ vals, val = sample) :
    ∃ count val after, vals = List.replicate count sample ++ val :: after ∧ val ≠ sample := by
  induction vals with
  | nil => simp at other
  | cons val vals ih =>
      by_cases same : val = sample
      · obtain ⟨count, later, after, split, different⟩ := ih (by simpa [same] using other)
        exact ⟨count + 1, later, after, by rw [split, same]; rfl, different⟩
      · exact ⟨0, val, vals, rfl, same⟩

/-- The laws hold where equal samples, or a single one, put the average. -/
theorem EwmaLaws.of_scaled {first : Nat} {vals : List Nat} (fits : Fits precision first)
    (positive : 0 < weightRcp) (equal : ∀ val ∈ vals, val = first)
    (scaled : ∀ count ≤ vals.length,
      ewmaAddAll precision weightRcp (List.replicate (count + 1) first) ewmaInit =
        some { internal := first * 2 ^ precision }) :
    EwmaLaws precision weightRcp (first :: vals) := by
  have all : first :: vals = List.replicate (vals.length + 1) first :=
    List.eq_replicate_iff.mpr ⟨rfl, by simpa using equal⟩
  -- A non-empty part of the samples is the first one, some times.
  have begins {before after : List Nat} (split : first :: vals = before ++ after)
      (some : before ≠ []) :
      ∃ count, before = List.replicate (count + 1) first ∧ count + after.length = vals.length := by
    have total := congrArg List.length split
    have same := all
    rw [split] at same
    have copies := (List.append_eq_replicate_iff.mp same).2.1
    have long := List.length_pos_iff.mpr some
    rw [List.length_cons, List.length_append] at total
    refine ⟨before.length - 1, ?_, by omega⟩
    rw [Nat.sub_add_cancel long]
    exact copies
  have average {before after : List Nat} {e : Ewma} (split : first :: vals = before ++ after)
      (some : before ≠ [])
      (added : ewmaAddAll precision weightRcp before ewmaInit = .some e) :
      e = { internal := first * 2 ^ precision } := by
    obtain ⟨count, rfl, total⟩ := begins split some
    rw [scaled count (by omega), Option.some.injEq] at added
    exact added.symm
  have read {before after : List Nat} {e : Ewma} {value : Nat}
      (split : first :: vals = before ++ after) (some : before ≠ [])
      (added : ewmaAddAll precision weightRcp before ewmaInit = .some e)
      (value_eq : ewmaRead precision e = .some value) : first ∈ before ∧ value = first := by
    rw [average split some added, ewmaRead_scaled fits, Option.some.injEq] at value_eq
    obtain ⟨count, rfl, total⟩ := begins split some
    exact ⟨by simp, value_eq.symm⟩
  constructor
  · rw [all, scaled vals.length le_rfl]
    rfl
  · intro before val after e e' split some added moved
    obtain rfl : val = first := by
      have member : val ∈ first :: vals := by simp [split]
      simpa using List.mem_cons.mp member |>.elim id (equal val)
    have added' : ewmaAddAll precision weightRcp (before ++ [val]) ewmaInit = .some e' := by
      rw [ewmaAddAll_append, added]
      simp [ewmaAddAll, moved]
    have split' : val :: vals = (before ++ [val]) ++ after := by simp [split]
    rw [average split some added, average split' (by simp) added']
    have still : (weightRcp * (val * 2 ^ precision : ℕ) : ℤ) -
        ((weightRcp - 1) * (val * 2 ^ precision : ℕ) + val * 2 ^ precision) = 0 := by
      push_cast
      ring
    rw [still, abs_zero]
    exact_mod_cast positive
  · intro before after e value split some added value_eq
    obtain ⟨member, rfl⟩ := read split some added value_eq
    exact ⟨⟨value, member, Nat.le_succ value⟩, value, member, le_rfl⟩
  · intro before after e value sample split some same added value_eq
    obtain ⟨member, rfl⟩ := read split some added value_eq
    have := same value member
    omega

end

/-- An average meets its laws exactly for a single sample, and for equal samples if the
reciprocal of the weight is at most the precision. -/
theorem ewmaLaws_iff {precision weightRcp first : Nat} {vals : List Nat}
    (positive : 0 < weightRcp) (word : weightRcp < 18446744073709551616)
    (fits : ∀ sample ∈ first :: vals, Fits precision sample) :
    EwmaLaws precision weightRcp (first :: vals) ↔
      vals = [] ∨ weightRcp ≤ precision ∧ ∀ val ∈ vals, val = first := by
  have firstFits := fits first (by simp)
  constructor
  · intro laws
    by_contra! bad
    obtain ⟨some, bad⟩ := bad
    by_cases narrow : weightRcp ≤ precision
    · -- The first sample that differs moves the average too little.
      have other : ¬ ∀ val ∈ vals, val = first := by simpa using bad narrow
      obtain ⟨count, val, after, split, different⟩ := exists_first_other other
      have valFits := fits val (by simp [split])
      have moved := laws.moves (List.replicate (count + 1) first) val after _ _
        (by rw [split]; rfl) (by simp) (ewmaAddAll_replicate firstFits narrow count)
        (ewmaAdd_scaled firstFits narrow valFits)
      exact not_moves different positive narrow moved
    · obtain ⟨second, rest, rfl⟩ := List.exists_cons_of_ne_nil some
      have shifts := laws.shifts
      rw [ewmaAddAll, ewmaAdd_init firstFits, Option.bind_some, ewmaAddAll,
        ewmaAdd_eq_none firstFits (by omega) word] at shifts
      cases shifts
  · rintro (rfl | ⟨narrow, equal⟩)
    · apply EwmaLaws.of_scaled firstFits positive (by simp)
      intro count none
      obtain rfl : count = 0 := Nat.le_zero.mp none
      simp [ewmaAddAll, ewmaAdd_init firstFits]
    · apply EwmaLaws.of_scaled firstFits positive equal
      intro count _
      exact ewmaAddAll_replicate firstFits narrow count

theorem ewmaLaws_three_equal : EwmaLaws 10 4 [3, 3, 3] := by
  apply (ewmaLaws_iff (by decide) (by decide) _).mpr
  · exact .inr ⟨by decide, by simp⟩
  · simp [Fits]

/-- A second sample that is twice the first moves the average by a sixteenth, not by a quarter. -/
theorem not_ewmaLaws :
    ¬ ∀ (precision exponent first : Nat) (vals : List Nat), exponent < 64 →
      (∀ sample ∈ first :: vals, Fits precision sample) →
      EwmaLaws precision (2 ^ exponent) (first :: vals) := by
  intro lawful
  have moved := (lawful 10 2 1 [2] (by decide) (by simp [Fits])).moves [1] 2 []
    { internal := 1024 } { internal := 1088 } rfl (by simp) rfl rfl
  norm_num at moved

end AirportRtw88
