import AirportRtw88.PollLoop
import Mathlib.Data.Nat.Basic
import Mathlib.Tactic.Ring
import Mathlib.Tactic.NormNum

/-!
# Polling with timeouts

`read_poll_timeout` and `read_poll_timeout_atomic` poll a register until a condition holds or a
timeout is over.  The first counts it in jiffies of a millisecond, with a comparison that wraps
around; the second in nanoseconds.
-/

namespace AirportRtw88

open PollLoop

variable {Value : Type}

/-- `rtw88_get_jiffies`, at a time in nanoseconds. -/
def jiffiesAt (nsecs : BitVec 64) : BitVec 64 := nsecs / 1000000#64

def usecsToJiffies (usecs : BitVec 32) : BitVec 64 := ((usecs + 999#32) / 1000#32).setWidth 64

def timeAfter (a b : BitVec 64) : Bool := (b - a).slt 0#64

/-- The arguments of `IODelay` that `udelay` spins for. -/
def udelay (usecs : Nat) : List Nat :=
  if 1000 < usecs then 1000 :: udelay (usecs - 1000)
  else if usecs = 0 then [] else [usecs]

/-- `read_poll_timeout`, with the times at which it looks at `jiffies`. -/
def readPollTimeout (wanted : Value → Bool) (timeoutUs : BitVec 32) (start : BitVec 64)
    (readings : List (Reading Value (BitVec 64))) : Option (Outcome Value) :=
  let deadline := jiffiesAt start + usecsToJiffies timeoutUs
  loop wanted (fun time => timeoutUs != 0#32 && timeAfter (jiffiesAt time) deadline) readings

/-- `read_poll_timeout_atomic`, with the times at which it looks at `mach_absolute_time`. -/
def readPollTimeoutAtomic (wanted : Value → Bool) (timeoutUs : BitVec 32) (start : BitVec 64)
    (readings : List (Reading Value (BitVec 64))) : Option (Outcome Value) :=
  let deadline := start + timeoutUs.setWidth 64 * 1000#64
  loop wanted (fun time => deadline.ule time) readings

/-! ## Times -/

theorem toNat_jiffiesAt (nsecs : BitVec 64) :
    (jiffiesAt nsecs).toNat = nsecs.toNat / 1000000 := by
  rw [jiffiesAt, BitVec.toNat_udiv]
  rfl

theorem toNat_usecsToJiffies (usecs : BitVec 32) :
    (usecsToJiffies usecs).toNat = (usecs.toNat + 999) % 2 ^ 32 / 1000 := by
  rw [usecsToJiffies, BitVec.toNat_setWidth, BitVec.toNat_udiv, BitVec.toNat_add]
  apply Nat.mod_eq_of_lt
  have small := Nat.mod_lt (usecs.toNat + (999#32).toNat) (Nat.two_pow_pos 32)
  have less := Nat.div_le_self ((usecs.toNat + (999#32).toNat) % 2 ^ 32) (1000#32).toNat
  omega

/-- Times less than half the range apart are compared as they are. -/
theorem timeAfter_iff {a b : BitVec 64} (later : a.toNat < 2 ^ 63) (earlier : b.toNat < 2 ^ 63) :
    timeAfter a b = true ↔ b.toNat < a.toNat := by
  rw [timeAfter, BitVec.slt_iff_toInt_lt, BitVec.toInt_zero, BitVec.toInt_neg_iff,
    BitVec.toNat_sub]
  omega

/-- The comparison of jiffies never wraps around, as they are counted in 64 bits of
nanoseconds. -/
theorem timeAfter_jiffies_iff (timeoutUs : BitVec 32) (start time : BitVec 64) :
    timeAfter (jiffiesAt time) (jiffiesAt start + usecsToJiffies timeoutUs) = true ↔
      start.toNat / 1000000 + (usecsToJiffies timeoutUs).toNat < time.toNat / 1000000 := by
  have timeSmall := time.isLt
  have startSmall := start.isLt
  have timeout := toNat_usecsToJiffies timeoutUs
  have sum : (jiffiesAt start + usecsToJiffies timeoutUs).toNat =
      start.toNat / 1000000 + (usecsToJiffies timeoutUs).toNat := by
    rw [BitVec.toNat_add, toNat_jiffiesAt]
    omega
  rw [timeAfter_iff, sum, toNat_jiffiesAt]
  · rw [toNat_jiffiesAt]
    omega
  · rw [sum]
    omega

theorem udelay_sum (usecs : Nat) : (udelay usecs).sum = usecs := by
  induction usecs using udelay.induct with
  | case1 usecs more ih =>
      rw [udelay, if_pos more, List.sum_cons, ih]
      omega
  | case2 => simp [udelay]
  | case3 usecs few some =>
      rw [udelay, if_neg few, if_neg some, List.sum_singleton]

/-- `IODelay` spins for at most a millisecond at a time. -/
theorem udelay_le (usecs : Nat) : ∀ delay ∈ udelay usecs, 0 < delay ∧ delay ≤ 1000 := by
  induction usecs using udelay.induct with
  | case1 usecs more ih =>
      rw [udelay, if_pos more]
      exact List.forall_mem_cons.mpr ⟨by omega, ih⟩
  | case2 => simp [udelay]
  | case3 usecs few some =>
      rw [udelay, if_neg few, if_neg some]
      intro delay member
      obtain rfl := List.mem_singleton.mp member
      omega

/-! ## The timeout -/

variable {wanted : Value → Bool} {timeoutUs : BitVec 32} {start : BitVec 64}
  {readings : List (Reading Value (BitVec 64))}

/-- Readings come later the more delays lie before them. -/
theorem time_of_spaced (sleepUs : Nat)
    (begins : ∀ reading ∈ readings, start.toNat ≤ reading.time.toNat)
    (spaced : ∀ k (_ : k + 1 < readings.length),
      readings[k].time.toNat + 1000 * (udelay sleepUs).sum ≤ readings[k + 1].time.toNat)
    (k : Nat) (inside : k < readings.length) :
    start.toNat + 1000 * (k * sleepUs) ≤ readings[k].time.toNat := by
  induction k with
  | zero =>
      have first := begins _ (List.getElem_mem inside)
      omega
  | succ k ih =>
      have earlier := ih (by omega)
      have delayed := spaced k inside
      rw [udelay_sum] at delayed
      rw [Nat.add_mul, Nat.one_mul]
      omega

/-- A timeout that does not wrap around has passed where the loop notices that it is late. -/
theorem timeout_passed (whole : timeoutUs.toNat + 999 < 2 ^ 32) {time : BitVec 64}
    (isLate : timeAfter (jiffiesAt time) (jiffiesAt start + usecsToJiffies timeoutUs) = true) :
    start.toNat + 1000 * timeoutUs.toNat < time.toNat := by
  rw [timeAfter_jiffies_iff, toNat_usecsToJiffies, Nat.mod_eq_of_lt whole] at isLate
  omega

/-- The loop is late two milliseconds after the timeout. -/
theorem timeAfter_of_passed {time : BitVec 64}
    (passed : start.toNat + 1000 * (timeoutUs.toNat + 1999) ≤ time.toNat) :
    timeAfter (jiffiesAt time) (jiffiesAt start + usecsToJiffies timeoutUs) = true := by
  rw [timeAfter_jiffies_iff, toNat_usecsToJiffies]
  have less := Nat.mod_le (timeoutUs.toNat + 999) (2 ^ 32)
  omega

/-- A poll gives up only when the whole timeout has passed, and with one more reading after that;
it succeeds only with what is wanted; and with a delay between its readings it ends. -/
theorem readPollTimeout_in_time (sleepUs : Nat) (whole : timeoutUs.toNat + 999 < 2 ^ 32)
    (begins : ∀ reading ∈ readings, start.toNat ≤ reading.time.toNat)
    (spaced : ∀ k (_ : k + 1 < readings.length),
      readings[k].time.toNat + 1000 * (udelay sleepUs).sum ≤ readings[k + 1].time.toNat) :
    (∀ value, readPollTimeout wanted timeoutUs start readings = some (.timedOut value) →
      ∃ before reading last after, readings = before ++ reading :: last :: after ∧
        last.value = value ∧ (∀ other ∈ before ++ [reading, last], wanted other.value = false) ∧
        start.toNat + 1000 * timeoutUs.toNat < reading.time.toNat) ∧
      (∀ value, readPollTimeout wanted timeoutUs start readings = some (.met value) →
        ∃ before reading after, readings = before ++ reading :: after ∧ reading.value = value ∧
          wanted value = true ∧ ∀ other ∈ before, wanted other.value = false) ∧
      (0 < timeoutUs.toNat → timeoutUs.toNat + 1999 ≤ (readings.length - 2) * sleepUs →
        ∃ outcome, readPollTimeout wanted timeoutUs start readings = some outcome) := by
  refine ⟨?_, ?_, ?_⟩
  · intro value gives
    obtain ⟨before, reading, last, after, rfl, earlier, unmet, isLate, lastUnmet, same⟩ :=
      loop_eq_timedOut_iff.mp gives
    refine ⟨before, reading, last, after, rfl, same, ?_, ?_⟩
    · intro other member
      rcases List.mem_append.mp member with member | member
      · exact (earlier other member).1
      · rcases List.mem_pair.mp member with rfl | rfl
        · exact unmet
        · exact lastUnmet
    · exact timeout_passed whole (Bool.and_eq_true_iff.mp isLate).2
  · intro value gives
    obtain ⟨before, reading, after, rfl, unmet, -, met, rfl⟩ := loop_eq_met_iff.mp gives
    exact ⟨before, reading, after, rfl, rfl, met, unmet⟩
  · intro positive enough
    have many : readings.length - 2 ≠ 0 := by
      intro none
      rw [none, Nat.zero_mul] at enough
      omega
    have inside : readings.length - 2 + 1 < readings.length := by omega
    have passed := time_of_spaced sleepUs begins spaced (readings.length - 2) (by omega)
    have isLate : (timeoutUs != 0#32 &&
        timeAfter (jiffiesAt readings[readings.length - 2].time)
          (jiffiesAt start + usecsToJiffies timeoutUs)) = true := by
      apply Bool.and_eq_true_iff.mpr
      constructor
      · rw [bne_iff_ne]
        intro zero
        have none := congrArg BitVec.toNat zero
        rw [BitVec.toNat_zero] at none
        omega
      · have scaled := Nat.mul_le_mul_left 1000 enough
        exact timeAfter_of_passed ((Nat.add_le_add_left scaled _).trans passed)
    have parts : readings = readings.take (readings.length - 2) ++
        readings[readings.length - 2] :: readings[readings.length - 2 + 1] ::
          readings.drop (readings.length - 2 + 2) := by
      rw [← List.drop_eq_getElem_cons, ← List.drop_eq_getElem_cons, List.take_append_drop]
    rw [parts]
    exact loop_ends _ _ _ _ isLate

/-- A register that never shows the wanted value, read every two milliseconds. -/
theorem readPollTimeout_in_time_stuck :
    ∃ outcome, readPollTimeout (fun ready => ready) 1#32 0#64
      [⟨false, 2000000#64⟩, ⟨false, 4000000#64⟩, ⟨false, 6000000#64⟩] = some outcome := by
  apply (readPollTimeout_in_time 2000 (by decide) (by decide) _).2.2 (by decide) (by decide)
  intro k inside
  rw [udelay_sum]
  have few : k = 0 ∨ k = 1 := by
    simp only [List.length_cons, List.length_nil] at inside
    omega
  rcases few with rfl | rfl
  · norm_num
  · norm_num

/-- The atomic poll gives up no earlier, unless its deadline wraps around. -/
theorem readPollTimeoutAtomic_in_time (whole : start.toNat + 1000 * timeoutUs.toNat < 2 ^ 64)
    {value : Value}
    (gives : readPollTimeoutAtomic wanted timeoutUs start readings = some (.timedOut value)) :
    ∃ before reading last after, readings = before ++ reading :: last :: after ∧
      last.value = value ∧ wanted value = false ∧
      start.toNat + 1000 * timeoutUs.toNat ≤ reading.time.toNat := by
  obtain ⟨before, reading, last, after, rfl, -, -, isLate, unmet, rfl⟩ :=
    loop_eq_timedOut_iff.mp gives
  refine ⟨before, reading, last, after, rfl, rfl, unmet, ?_⟩
  have deadline : (start + timeoutUs.setWidth 64 * 1000#64).toNat =
      start.toNat + 1000 * timeoutUs.toNat := by
    rw [BitVec.toNat_add, BitVec.toNat_mul, BitVec.toNat_setWidth]
    have small := timeoutUs.isLt
    have literal : (1000#64).toNat = 1000 := rfl
    rw [literal]
    omega
  have notBefore : (start + timeoutUs.setWidth 64 * 1000#64).toNat ≤ reading.time.toNat := by
    simpa [BitVec.ule] using isLate
  rw [deadline] at notBefore
  exact notBefore

end AirportRtw88
