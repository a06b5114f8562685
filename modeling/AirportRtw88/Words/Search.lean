import Mathlib.Algebra.Ring.Nat
import Mathlib.Order.Bounds.Basic
import Mathlib.Tactic.Common

/-!
# Searches by words

A set of indices is stored as the bits of a sequence of words.  The lowest bit of the first word
that is not zero is the least index of the set.
-/

namespace Words

/-- The least wanted index from `start` on that is below `size`, or `size` if there is none. -/
def First (wanted : Nat → Prop) (start size found : Nat) : Prop :=
  IsLeast {index | start ≤ index ∧ index < size ∧ wanted index} found ∨
    (found = size ∧ ∀ index, start ≤ index → index < size → ¬ wanted index)

section First

variable {wanted : Nat → Prop} {start size found : Nat}

/-- Only a search that finds nothing ends at `size`. -/
theorem first_size_iff :
    First wanted start size size ↔ ∀ index, start ≤ index → index < size → ¬ wanted index := by
  constructor
  · rintro (least | ⟨-, clear⟩)
    · exact absurd least.1.2.1 (lt_irrefl size)
    · exact clear
  · exact fun clear => .inr ⟨rfl, clear⟩

/-- Indices that are not wanted are skipped. -/
theorem First.skip {next : Nat} (first : First wanted next size found) (ahead : start ≤ next)
    (clear : ∀ index, start ≤ index → index < next → ¬ wanted index) :
    First wanted start size found := by
  rcases first with ⟨⟨behind, below, isWanted⟩, least⟩ | ⟨atEnd, none⟩
  · refine .inl ⟨⟨ahead.trans behind, below, isWanted⟩, ?_⟩
    rintro index ⟨later, inside, isWanted⟩
    rcases lt_or_ge index next with early | late
    · exact absurd isWanted (clear index later early)
    · exact least ⟨late, inside, isWanted⟩
  · refine .inr ⟨atEnd, fun index later inside => ?_⟩
    rcases lt_or_ge index next with early | late
    · exact clear index later early
    · exact none index late inside

/-- The least wanted index is cut off at `size`. -/
theorem first_of_isLeast {bit : Nat} (least : IsLeast {index | start ≤ index ∧ wanted index} bit) :
    First wanted start size (if bit < size then bit else size) := by
  obtain ⟨⟨later, isWanted⟩, lowest⟩ := least
  by_cases inside : bit < size
  · rw [if_pos inside]
    exact .inl ⟨⟨later, inside, isWanted⟩, fun index other => lowest ⟨other.1, other.2.2⟩⟩
  · rw [if_neg inside]
    refine .inr ⟨rfl, fun index later below isWanted => ?_⟩
    have := lowest ⟨later, isWanted⟩
    omega

end First

/-! ## One word -/

theorem ctz_lt {width : Nat} {word : BitVec width} (nonzero : word ≠ 0) :
    word.ctz.toNat < width := by
  have small := BitVec.ctz_lt_iff_ne_zero.mpr nonzero
  rw [BitVec.lt_def, BitVec.natCast_eq_ofNat, BitVec.toNat_ofNat] at small
  exact small.trans_le (Nat.mod_le _ _)

/-- The bits of a word tell which of its indices are wanted from `start` on. -/
structure Shows {width : Nat} (word : BitVec width) (wanted : Nat → Prop) (start place : Nat) :
    Prop where
  reached : place * width ≤ start
  bits : ∀ bit < width, word.getLsbD bit = true ↔
    start ≤ place * width + bit ∧ wanted (place * width + bit)

namespace Shows

variable {width : Nat} {word : BitVec width} {wanted : Nat → Prop} {start place : Nat}

/-- The lowest bit of a word is its least wanted index. -/
theorem isLeast (shown : Shows word wanted start place) (nonzero : word ≠ 0) :
    IsLeast {index | start ≤ index ∧ wanted index} (place * width + word.ctz.toNat) := by
  have inside := ctz_lt nonzero
  refine ⟨(shown.bits _ inside).mp (BitVec.getLsbD_true_ctz_of_ne_zero nonzero), ?_⟩
  rintro index ⟨later, isWanted⟩
  by_contra lower
  obtain ⟨bit, rfl⟩ := Nat.exists_eq_add_of_le (shown.reached.trans later)
  have below : bit < word.ctz.toNat := by omega
  have set := (shown.bits bit (below.trans inside)).mpr ⟨later, isWanted⟩
  rw [BitVec.getLsbD_false_of_lt_ctz below] at set
  cases set

/-- Nothing is wanted in a word of zeros. -/
theorem clear (shown : Shows (0 : BitVec width) wanted start place) :
    ∀ index, start ≤ index → index < (place + 1) * width → ¬ wanted index := by
  intro index later inside isWanted
  rw [Nat.add_one_mul] at inside
  obtain ⟨bit, rfl⟩ := Nat.exists_eq_add_of_le (shown.reached.trans later)
  have set := (shown.bits bit (by omega)).mpr ⟨later, isWanted⟩
  simp at set

/-- The bits below an index in the word are masked out. -/
theorem masked {word : BitVec width} {index : Nat}
    (shown : Shows word wanted (index / width * width) (index / width)) :
    Shows (word &&& (BitVec.allOnes width <<< (index % width))) wanted index (index / width) := by
  have split := Nat.div_add_mod' index width
  refine ⟨by omega, fun bit inside => ?_⟩
  have above : (BitVec.allOnes width <<< (index % width)).getLsbD bit =
      decide (index % width ≤ bit) := by
    simp only [BitVec.getLsbD_shiftLeft, BitVec.getLsbD_allOnes, decide_eq_true inside,
      Bool.true_and, decide_eq_true (show bit - index % width < width by omega), Bool.and_true]
    rw [← decide_not, decide_eq_decide, Nat.not_lt]
  rw [BitVec.getLsbD_and, above, Bool.and_eq_true, shown.bits bit inside, decide_eq_true_iff]
  constructor
  · rintro ⟨⟨-, isWanted⟩, late⟩
    exact ⟨by omega, isWanted⟩
  · rintro ⟨later, isWanted⟩
    exact ⟨⟨by omega, isWanted⟩, by omega⟩

end Shows

end Words
