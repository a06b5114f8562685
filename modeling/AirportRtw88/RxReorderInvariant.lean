import AirportRtw88.RxReorder
import Mathlib.Data.Multiset.Basic
import Mathlib.Data.List.Perm.Subperm
import Mathlib.Tactic.Common

/-!
# The invariant of the RX reorder buffer

Every frame sits in the slot of its own sequence number, inside the window.
Emptying a buffer keeps this, loses no frame and takes the frames out in the
order of their offsets from the old head.
-/

namespace AirportRtw88

open scoped List

variable {α : Type}

/-! ## Sequence numbers modulo 4096 -/

@[simp]
theorem snDiff_self (number : Nat) : snDiff number number = 0 := by
  unfold snDiff
  omega

/-- Numbers less than 64 apart from the head that share a slot are equal. -/
theorem eq_of_slotOf_eq {first second head : Nat} (firstLt : first < 4096)
    (secondLt : second < 4096) (firstNear : snDiff first head < 64)
    (secondNear : snDiff second head < 64) (slots : slotOf first = slotOf second) :
    first = second := by
  have slotsMod : first % 64 = second % 64 := congrArg Fin.val slots
  unfold snDiff at firstNear secondNear
  omega

/-- Moving the head by one brings every other number one closer. -/
theorem snDiff_succ {number head : Nat} (away : snDiff number head ≠ 0) :
    snDiff number ((head + 1) % 4096) + 1 = snDiff number head := by
  unfold snDiff at *
  omega

theorem snDiff_eq_add {number head moved : Nat}
    (small : moved + snDiff number ((head + moved) % 4096) < 4096) :
    snDiff number head = moved + snDiff number ((head + moved) % 4096) := by
  unfold snDiff at *
  omega

theorem snDiff_of_eq_add {number head moved : Nat} (small : moved < 4096)
    (equality : number = (head + moved) % 4096) : snDiff number head = moved := by
  unfold snDiff
  omega

/-! ## Frames in slots -/

theorem perm_filterMap_slot (buf : Fin kRxBaMaxBuf → Option α) (slot : Fin kRxBaMaxBuf) :
    (List.finRange kRxBaMaxBuf).filterMap buf ~
      (buf slot).toList ++ ((List.finRange kRxBaMaxBuf).erase slot).filterMap buf := by
  have moved := (List.perm_cons_erase (List.mem_finRange slot)).filterMap buf
  cases occupied : buf slot <;> simpa [List.filterMap_cons, occupied] using moved

theorem filterMap_erase_update (buf : Fin kRxBaMaxBuf → Option α)
    (slot : Fin kRxBaMaxBuf) (value : Option α) :
    ((List.finRange kRxBaMaxBuf).erase slot).filterMap (Function.update buf slot value) =
      ((List.finRange kRxBaMaxBuf).erase slot).filterMap buf := by
  apply List.filterMap_congr
  intro other member
  have distinct : other ≠ slot :=
    ((List.nodup_finRange kRxBaMaxBuf).mem_erase_iff.mp member).1
  exact Function.update_of_ne distinct value buf

/-- The frames of a buffer one of whose slots was overwritten. -/
theorem perm_filterMap_update (buf : Fin kRxBaMaxBuf → Option α)
    (slot : Fin kRxBaMaxBuf) (value : Option α) :
    (List.finRange kRxBaMaxBuf).filterMap (Function.update buf slot value) ~
      value.toList ++ ((List.finRange kRxBaMaxBuf).erase slot).filterMap buf := by
  have moved := perm_filterMap_slot (Function.update buf slot value) slot
  rwa [Function.update_self, filterMap_erase_update] at moved

namespace RxReorder

/-- The numbers that the window of a buffer covers. -/
def InWindow (r : RxReorder α) (sn : Nat) : Prop :=
  sn < 4096 ∧ snDiff sn r.headSn < r.bufSize

/-- The invariant of a buffer whose frames carry the sequence numbers `number`. -/
structure WellFormed (number : α → Nat) (r : RxReorder α) : Prop where
  head_lt : r.headSn < 4096
  size_pos : 0 < r.bufSize
  size_le : r.bufSize ≤ kRxBaMaxBuf
  stored_eq : r.stored = r.frames.length
  placed : ∀ idx skb, r.buf idx = some skb →
    r.InWindow (number skb) ∧ slotOf (number skb) = idx

variable {number : α → Nat} {r : RxReorder α}

/-- `stored` counts the occupied slots. -/
theorem WellFormed.stored_eq_countP (wellFormed : r.WellFormed number) :
    r.stored = (List.finRange kRxBaMaxBuf).countP fun idx => (r.buf idx).isSome := by
  rw [wellFormed.stored_eq, frames, List.length_filterMap_eq_countP]

/-- A slot holds the only number of the window that belongs there. -/
theorem WellFormed.eq_of_inWindow (wellFormed : r.WellFormed number) {sn sn' : Nat}
    (inside : r.InWindow sn) (inside' : r.InWindow sn') (slots : slotOf sn = slotOf sn') :
    sn = sn' :=
  have size := wellFormed.size_le
  eq_of_slotOf_eq inside.1 inside'.1 (Nat.lt_of_lt_of_le inside.2 size)
    (Nat.lt_of_lt_of_le inside'.2 size) slots

@[simp]
theorem frames_fresh (ssn bufsize : Nat) : (fresh ssn bufsize : RxReorder α).frames = [] := by
  simp [frames, fresh]

theorem wellFormed_fresh (ssn bufsize : Nat) :
    (fresh ssn bufsize : RxReorder α).WellFormed number where
  head_lt := Nat.mod_lt _ (by decide)
  size_pos := by
    show 0 < if bufsize = 0 ∨ bufsize > kRxBaMaxBuf then kRxBaMaxBuf else bufsize
    split
    · decide
    · omega
  size_le := by
    show (if bufsize = 0 ∨ bufsize > kRxBaMaxBuf then kRxBaMaxBuf else bufsize) ≤ _
    split <;> omega
  stored_eq := by
    rw [frames_fresh]
    rfl
  placed := by simp [fresh]

/-- The frame in the slot of the head is the frame of the head. -/
theorem WellFormed.number_head (wellFormed : r.WellFormed number) {skb : α}
    (occupied : r.buf (slotOf r.headSn) = some skb) : number skb = r.headSn := by
  obtain ⟨inside, slot⟩ := wellFormed.placed _ skb occupied
  have headInside : r.InWindow r.headSn :=
    ⟨wellFormed.head_lt, by simpa using wellFormed.size_pos⟩
  exact wellFormed.eq_of_inWindow inside headInside slot

theorem WellFormed.exists_frame (wellFormed : r.WellFormed number)
    (positive : 0 < r.stored) : ∃ idx skb, r.buf idx = some skb := by
  rw [wellFormed.stored_eq] at positive
  obtain ⟨skb, member⟩ := List.exists_mem_of_length_pos positive
  obtain ⟨idx, _, occupied⟩ := List.mem_filterMap.mp member
  exact ⟨idx, skb, occupied⟩

theorem WellFormed.away_of_free (wellFormed : r.WellFormed number)
    (free : r.buf (slotOf r.headSn) = none) {idx : Fin kRxBaMaxBuf} {skb : α}
    (occupied : r.buf idx = some skb) : snDiff (number skb) r.headSn ≠ 0 := by
  intro zero
  obtain ⟨⟨small, _⟩, slot⟩ := wellFormed.placed idx skb occupied
  have numberHead : number skb = r.headSn := by
    have := wellFormed.head_lt
    unfold snDiff at zero
    omega
  rw [← slot, numberHead, free] at occupied
  simp at occupied

/-- The window may move past a free slot. -/
theorem WellFormed.advance (wellFormed : r.WellFormed number)
    (free : r.buf (slotOf r.headSn) = none) : r.advance.WellFormed number where
  head_lt := Nat.mod_lt _ (by decide)
  size_pos := wellFormed.size_pos
  size_le := wellFormed.size_le
  stored_eq := wellFormed.stored_eq
  placed := by
    intro idx skb occupied
    obtain ⟨⟨small, near⟩, slot⟩ := wellFormed.placed idx skb occupied
    have closer := snDiff_succ (wellFormed.away_of_free free occupied)
    refine ⟨⟨small, ?_⟩, slot⟩
    show snDiff (number skb) ((r.headSn + 1) % 4096) < r.bufSize
    omega

theorem frames_clearHead {skb : α} (occupied : r.buf (slotOf r.headSn) = some skb) :
    r.frames ~ skb :: r.clearHead.frames := by
  have before := perm_filterMap_slot r.buf (slotOf r.headSn)
  have after := perm_filterMap_update r.buf (slotOf r.headSn) none
  rw [occupied] at before
  exact before.trans (after.symm.cons skb)

theorem WellFormed.clearHead (wellFormed : r.WellFormed number) {skb : α}
    (occupied : r.buf (slotOf r.headSn) = some skb) :
    r.clearHead.WellFormed number where
  head_lt := wellFormed.head_lt
  size_pos := wellFormed.size_pos
  size_le := wellFormed.size_le
  stored_eq := by
    have counted := (frames_clearHead occupied).length_eq
    have stored := wellFormed.stored_eq
    simp only [List.length_cons] at counted
    show r.stored - 1 = _
    omega
  placed := by
    intro idx other held
    by_cases same : idx = slotOf r.headSn
    · subst same
      simp [RxReorder.clearHead] at held
    · have kept : r.buf idx = some other := by
        rw [← held]
        exact (Function.update_of_ne same none r.buf).symm
      exact wellFormed.placed idx other kept

theorem frames_store {sn : Nat} (skb : α) (free : r.buf (slotOf sn) = none) :
    (r.store sn skb).frames ~ skb :: r.frames := by
  have before := perm_filterMap_slot r.buf (slotOf sn)
  have after := perm_filterMap_update r.buf (slotOf sn) (some skb)
  rw [free] at before
  exact after.trans (before.symm.cons skb)

theorem WellFormed.store (wellFormed : r.WellFormed number) {skb : α}
    (inside : r.InWindow (number skb)) (free : r.buf (slotOf (number skb)) = none) :
    (r.store (number skb) skb).WellFormed number where
  head_lt := wellFormed.head_lt
  size_pos := wellFormed.size_pos
  size_le := wellFormed.size_le
  stored_eq := by
    have counted := (frames_store skb free).length_eq
    have stored := wellFormed.stored_eq
    simp only [List.length_cons] at counted
    show r.stored + 1 = _
    omega
  placed := by
    intro idx other held
    by_cases same : idx = slotOf (number skb)
    · subst same
      have equality : skb = other := by
        simpa [RxReorder.store] using held
      subst equality
      exact ⟨inside, rfl⟩
    · have kept : r.buf idx = some other := by
        rw [← held]
        exact (Function.update_of_ne same (some skb) r.buf).symm
      exact wellFormed.placed idx other kept

/-- A free slot at the head leaves room for one more frame. -/
theorem WellFormed.stored_lt (wellFormed : r.WellFormed number)
    (free : r.buf (slotOf r.headSn) = none) : r.stored < kRxBaMaxBuf := by
  have split := (perm_filterMap_slot r.buf (slotOf r.headSn)).length_eq
  have bound := List.length_filterMap_le r.buf
    ((List.finRange kRxBaMaxBuf).erase (slotOf r.headSn))
  rw [List.length_erase_of_mem (List.mem_finRange _), List.length_finRange] at bound
  rw [wellFormed.stored_eq, frames, split, free]
  simp only [Option.toList_none, List.nil_append]
  have : 0 < kRxBaMaxBuf := by decide
  omega

end RxReorder

/-! ## Emptying a buffer -/

/-- What holds while a buffer `r` is emptied into an array that began as
`before`: `released` has come out and the head has moved by `moved`. -/
structure Drained (number : α → Nat) (r : RxReorder α) (before : List α)
    (d : Draining α) (released : List α) (moved : Nat) : Prop where
  wellFormed : d.reorder.WellFormed number
  active : d.reorder.active = r.active
  size : d.reorder.bufSize = r.bufSize
  head : d.reorder.headSn = (r.headSn + moved) % 4096
  out : d.out = before ++ released
  conserved : r.frames ~ released ++ d.reorder.frames
  offsets : ∀ skb ∈ released, snDiff (number skb) r.headSn < moved
  ordered : released.Pairwise fun first second =>
    snDiff (number first) r.headSn < snDiff (number second) r.headSn

namespace Drained

variable {number : α → Nat} {r : RxReorder α} {before : List α} {d : Draining α}
  {released : List α} {moved : Nat}

theorem start (wellFormed : r.WellFormed number) (before : List α) :
    Drained number r before ⟨r, before⟩ [] 0 where
  wellFormed := wellFormed
  active := rfl
  size := rfl
  head := by simp [Nat.mod_eq_of_lt wellFormed.head_lt]
  out := by simp
  conserved := by simp
  offsets := by simp
  ordered := List.Pairwise.nil

/-- Nothing is lost: the array and the slots together keep their size. -/
theorem length_add (drained : Drained number r before d released moved)
    (wellFormed : r.WellFormed number) :
    d.out.length + d.reorder.stored = before.length + r.stored := by
  have counted := drained.conserved.length_eq
  rw [List.length_append] at counted
  rw [drained.out, drained.wellFormed.stored_eq, wellFormed.stored_eq,
    List.length_append]
  omega

theorem skip (drained : Drained number r before d released moved)
    (free : d.reorder.buf (slotOf d.reorder.headSn) = none) :
    Drained number r before { d with reorder := d.reorder.advance } released (moved + 1) where
  wellFormed := drained.wellFormed.advance free
  active := drained.active
  size := drained.size
  head := by
    show (d.reorder.headSn + 1) % 4096 = _
    rw [drained.head]
    omega
  out := drained.out
  conserved := drained.conserved
  offsets := fun skb member => Nat.lt_succ_of_lt (drained.offsets skb member)
  ordered := drained.ordered

theorem release (drained : Drained number r before d released moved) {skb : α}
    (occupied : d.reorder.buf (slotOf d.reorder.headSn) = some skb)
    (small : moved < 4096) :
    Drained number r before (d.release skb) (released ++ [skb]) (moved + 1) := by
  have numberHead := drained.wellFormed.number_head occupied
  have offset : snDiff (number skb) r.headSn = moved :=
    snDiff_of_eq_add small (numberHead.trans drained.head)
  have cleared := drained.wellFormed.clearHead occupied
  have free : d.reorder.clearHead.buf (slotOf d.reorder.clearHead.headSn) = none := by
    simp [RxReorder.clearHead]
  constructor
  case wellFormed => exact cleared.advance free
  case active => exact drained.active
  case size => exact drained.size
  case head =>
    show (d.reorder.headSn + 1) % 4096 = _
    rw [drained.head]
    omega
  case out =>
    show d.out ++ [skb] = _
    rw [drained.out, List.append_assoc]
  case conserved =>
    refine drained.conserved.trans ?_
    rw [List.append_assoc]
    exact (RxReorder.frames_clearHead occupied).append_left released
  case offsets =>
    intro other member
    rcases List.mem_append.mp member with old | new
    · exact Nat.lt_succ_of_lt (drained.offsets other old)
    · rw [List.mem_singleton.mp new, offset]
      exact Nat.lt_succ_self moved
  case ordered =>
    refine List.pairwise_append.mpr ⟨drained.ordered, List.pairwise_singleton _ _, ?_⟩
    intro first member second last
    rw [List.mem_singleton.mp last, offset]
    exact drained.offsets first member

/-- The sliding loop reaches `newHead`: the array never stops it, because what
it holds and what is still stored fit together. -/
theorem slide (drained : Drained number r before d released moved)
    (wellFormed : r.WellFormed number) (room : before.length + r.stored < kRxBaMaxBuf)
    (newHead fuel : Nat) (enough : snDiff newHead d.reorder.headSn ≤ fuel)
    (near : snDiff newHead d.reorder.headSn < 2048)
    (small : moved + snDiff newHead d.reorder.headSn < 4096) :
    ∃ released', Drained number r before (d.slide newHead fuel) released'
      (moved + snDiff newHead d.reorder.headSn) := by
  induction fuel generalizing d released moved with
  | zero =>
      rw [Nat.le_zero.mp enough]
      exact ⟨released, drained⟩
  | succ fuel ih =>
      have fits := drained.length_add wellFormed
      unfold Draining.slide
      by_cases arrived : snDiff newHead d.reorder.headSn = 0
      · rw [if_neg (fun running => running.1 arrived), arrived]
        exact ⟨released, drained⟩
      · have closer := snDiff_succ arrived
        rw [if_pos ⟨arrived, near, by omega⟩]
        cases occupied : d.reorder.buf (slotOf d.reorder.headSn) with
        | some skb =>
            have next := drained.release occupied (by omega)
            obtain ⟨released', final⟩ := ih next
              (by show snDiff newHead ((d.reorder.headSn + 1) % 4096) ≤ fuel; omega)
              (by show snDiff newHead ((d.reorder.headSn + 1) % 4096) < 2048; omega)
              (by show moved + 1 + snDiff newHead ((d.reorder.headSn + 1) % 4096) < 4096
                  omega)
            refine ⟨released', ?_⟩
            have total : moved + 1 + snDiff newHead (d.release skb).reorder.headSn =
                moved + snDiff newHead d.reorder.headSn := by
              show moved + 1 + snDiff newHead ((d.reorder.headSn + 1) % 4096) = _
              omega
            exact total ▸ final
        | none =>
            have next := drained.skip occupied
            obtain ⟨released', final⟩ := ih next
              (by show snDiff newHead ((d.reorder.headSn + 1) % 4096) ≤ fuel; omega)
              (by show snDiff newHead ((d.reorder.headSn + 1) % 4096) < 2048; omega)
              (by show moved + 1 + snDiff newHead ((d.reorder.headSn + 1) % 4096) < 4096
                  omega)
            refine ⟨released', ?_⟩
            have total : moved + 1 + snDiff newHead d.reorder.advance.headSn =
                moved + snDiff newHead d.reorder.headSn := by
              show moved + 1 + snDiff newHead ((d.reorder.headSn + 1) % 4096) = _
              omega
            exact total ▸ final

/-- The loop that releases the in-order run stops at an empty buffer, a full
array or a hole. -/
theorem releaseRun (drained : Drained number r before d released moved) (fuel : Nat)
    (small : moved + fuel < 4096) (room : d.out.length ≤ kRxBaMaxBuf)
    (enough : kRxBaMaxBuf ≤ d.out.length + fuel) :
    ∃ released' moved', Drained number r before (d.releaseRun fuel) released' moved' ∧
      moved ≤ moved' ∧ moved' ≤ moved + fuel ∧
      (d.releaseRun fuel).out.length ≤ kRxBaMaxBuf ∧
      ((d.releaseRun fuel).reorder.stored = 0 ∨
        kRxBaMaxBuf ≤ (d.releaseRun fuel).out.length ∨
        (d.releaseRun fuel).reorder.buf (slotOf (d.releaseRun fuel).reorder.headSn) = none) := by
  induction fuel generalizing d released moved with
  | zero => exact ⟨released, moved, drained, le_rfl, le_rfl, room, .inr (.inl enough)⟩
  | succ fuel ih =>
      unfold Draining.releaseRun
      by_cases running : 0 < d.reorder.stored ∧ d.out.length < kRxBaMaxBuf
      · rw [if_pos running]
        cases occupied : d.reorder.buf (slotOf d.reorder.headSn) with
        | some skb =>
            have length : (d.release skb).out.length = d.out.length + 1 := by
              simp [Draining.release]
            obtain ⟨released', moved', final, later, bound, rest⟩ :=
              ih (drained.release occupied (by omega)) (by omega) (by omega) (by omega)
            exact ⟨released', moved', final, by omega, by omega, rest⟩
        | none =>
            exact ⟨released, moved, drained, le_rfl, by omega, room, .inr (.inr occupied)⟩
      · rw [if_neg running]
        refine ⟨released, moved, drained, le_rfl, by omega, room, ?_⟩
        rcases Nat.eq_zero_or_pos d.reorder.stored with empty | stored
        · exact .inl empty
        · exact .inr (.inl (by omega))

/-- Skipping holes moves the head no further than the nearest frame. -/
theorem skipHoles (drained : Drained number r before d released moved) (guard near : Nat)
    (frame : ∃ idx skb, d.reorder.buf idx = some skb ∧
      snDiff (number skb) d.reorder.headSn ≤ near) :
    ∃ moved', Drained number r before { d with reorder := d.reorder.skipHoles guard }
      released moved' ∧ moved' ≤ moved + near := by
  induction guard generalizing d moved near with
  | zero => exact ⟨moved, drained, by omega⟩
  | succ guard ih =>
      unfold RxReorder.skipHoles
      by_cases stored : 0 < d.reorder.stored
      · rw [if_pos stored]
        cases occupied : d.reorder.buf (slotOf d.reorder.headSn) with
        | some skb => exact ⟨moved, drained, by omega⟩
        | none =>
            obtain ⟨idx, skb, held, close⟩ := frame
            have away : snDiff (number skb) d.reorder.headSn ≠ 0 :=
              drained.wellFormed.away_of_free occupied held
            have closer := snDiff_succ away
            obtain ⟨moved', final, bound⟩ := ih (drained.skip occupied) (near - 1)
              ⟨idx, skb, held, by
                show snDiff (number skb) ((d.reorder.headSn + 1) % 4096) ≤ near - 1
                omega⟩
            exact ⟨moved', final, by omega⟩
      · rw [if_neg stored]
        exact ⟨moved, drained, by omega⟩

end Drained

/-! ## One critical section on one TID -/

/-- What a critical section does to a buffer `r` that it leaves as `r'`: the
`arrived` frames and those in the slots are put into `out`, freed or kept, and
the frames in `out` leave in the order of their offsets from the old head. -/
structure Handled (number : α → Nat) (r r' : RxReorder α) (arrived out freed : List α)
    (moved : Nat) : Prop where
  wellFormed : r'.WellFormed number
  active : r'.active = r.active
  size : r'.bufSize = r.bufSize
  room : r'.stored < kRxBaMaxBuf
  head : r'.headSn = (r.headSn + moved) % 4096
  small : moved < 4096
  conserved : arrived ++ r.frames ~ out ++ freed ++ r'.frames
  offsets : ∀ skb ∈ out, snDiff (number skb) r.headSn < moved
  ordered : out.Pairwise fun first second =>
    snDiff (number first) r.headSn < snDiff (number second) r.headSn

section Input

variable {number : α → Nat} {r : RxReorder α} {skb : α} {sn : Nat}

/-- A frame that is not stale fits into the window once this has slid. -/
theorem slideFor_drained (wellFormed : r.WellFormed number)
    (room : r.stored < kRxBaMaxBuf) (snLt : sn < 4096)
    (fresh : snDiff sn r.headSn < 2048) :
    ∃ released moved, Drained number r [] (r.slideFor sn) released moved ∧
      moved < 2048 ∧ (r.slideFor sn).reorder.InWindow sn ∧
      (r.bufSize ≤ snDiff sn r.headSn →
        (r.slideFor sn).reorder.headSn = snDiff (sn + 1) r.bufSize) := by
  have started := Drained.start wellFormed []
  have headLt := wellFormed.head_lt
  have positive := wellFormed.size_pos
  have size : r.bufSize ≤ 64 := wellFormed.size_le
  unfold RxReorder.slideFor
  by_cases ahead : snDiff sn r.headSn ≥ r.bufSize
  · rw [if_pos ahead]
    have distance : snDiff (snDiff (sn + 1) r.bufSize) r.headSn =
        snDiff sn r.headSn + 1 - r.bufSize := by
      unfold snDiff at *
      omega
    obtain ⟨released, final⟩ := started.slide wellFormed (by simpa using room)
      (snDiff (sn + 1) r.bufSize) 4096
      (by show snDiff (snDiff (sn + 1) r.bufSize) r.headSn ≤ 4096; omega)
      (by show snDiff (snDiff (sn + 1) r.bufSize) r.headSn < 2048; omega)
      (by show 0 + snDiff (snDiff (sn + 1) r.bufSize) r.headSn < 4096; omega)
    have arrived : (Draining.slide (snDiff (sn + 1) r.bufSize) 4096 ⟨r, []⟩).reorder.headSn =
        snDiff (sn + 1) r.bufSize := by
      rw [final.head]
      show (r.headSn + (0 + snDiff (snDiff (sn + 1) r.bufSize) r.headSn)) % 4096 = _
      unfold snDiff
      omega
    refine ⟨released, _, final, ?_, ⟨snLt, ?_⟩, fun _ => arrived⟩
    · show 0 + snDiff (snDiff (sn + 1) r.bufSize) r.headSn < 2048
      omega
    · rw [arrived, final.size]
      unfold snDiff
      omega
  · rw [if_neg ahead]
    exact ⟨[], 0, started, by omega, ⟨snLt, Nat.lt_of_not_le ahead⟩,
      fun contrary => absurd contrary ahead⟩

/-- Once the window has slid for a number, the slot of this number is taken exactly if a frame of
this number was there before. -/
theorem slideFor_taken_iff (wellFormed : r.WellFormed number) (room : r.stored < kRxBaMaxBuf)
    (snLt : sn < 4096) (fresh : snDiff sn r.headSn < 2048) :
    (∃ other, (r.slideFor sn).reorder.buf (slotOf sn) = some other) ↔
      ∃ other, r.buf (slotOf sn) = some other ∧ number other = sn := by
  obtain ⟨released, moved, drained, -, inside, -⟩ := slideFor_drained wellFormed room snLt fresh
  constructor
  · rintro ⟨other, taken⟩
    obtain ⟨near, slot⟩ := drained.wellFormed.placed _ _ taken
    have same : number other = sn := drained.wellFormed.eq_of_inWindow near inside slot
    have left : other ∈ (r.slideFor sn).reorder.frames :=
      List.mem_filterMap.mpr ⟨slotOf sn, List.mem_finRange _, taken⟩
    have there : other ∈ r.frames :=
      drained.conserved.mem_iff.mpr (List.mem_append_right released left)
    obtain ⟨idx, -, occupied⟩ := List.mem_filterMap.mp there
    have placed := (wellFormed.placed idx other occupied).2
    rw [same] at placed
    exact ⟨other, placed ▸ occupied, same⟩
  · rintro ⟨other, occupied, same⟩
    have near := (wellFormed.placed _ _ occupied).1.2
    rw [same] at near
    have stays : r.slideFor sn = ⟨r, []⟩ := if_neg (Nat.not_le_of_lt near)
    rw [stays]
    exact ⟨other, occupied⟩

/-- An empty run: nothing moves. -/
theorem handled_stale (wellFormed : r.WellFormed number) (room : r.stored < kRxBaMaxBuf)
    (skb : α) : Handled number r r [skb] [] [skb] 0 where
  wellFormed := wellFormed
  active := rfl
  size := rfl
  room := room
  head := by simp [Nat.mod_eq_of_lt wellFormed.head_lt]
  small := by decide
  conserved := by simp
  offsets := by simp
  ordered := List.Pairwise.nil

/-- A frame whose slot is taken is freed; the rest of the window is released. -/
theorem handled_duplicate (wellFormed : r.WellFormed number)
    (room : r.stored < kRxBaMaxBuf) (snLt : sn < 4096)
    (fresh : snDiff sn r.headSn < 2048) (skb : α) :
    ∃ moved, Handled number r ((r.slideFor sn).releaseRun kRxBaMaxBuf).reorder [skb]
        ((r.slideFor sn).releaseRun kRxBaMaxBuf).out [skb] moved ∧
      ((r.slideFor sn).releaseRun kRxBaMaxBuf).out.length ≤ kRxBaMaxBuf := by
  have buffers : kRxBaMaxBuf = 64 := rfl
  obtain ⟨slid, moved, drained, near, _, _⟩ :=
    slideFor_drained wellFormed room snLt fresh
  have slidFits := drained.length_add wellFormed
  rw [List.length_nil] at slidFits
  obtain ⟨released, moved', final, _, bound, short, _⟩ :=
    drained.releaseRun kRxBaMaxBuf (by omega) (by omega) (by omega)
  have fits := final.length_add wellFormed
  rw [List.length_nil] at fits
  have out := final.out
  rw [List.nil_append] at out
  refine ⟨moved', ?_, short⟩
  constructor
  case wellFormed => exact final.wellFormed
  case active => exact final.active
  case size => exact final.size
  case room => omega
  case head => exact final.head
  case small => omega
  case conserved =>
    rw [out]
    rw [List.append_assoc]
    exact (final.conserved.cons skb).trans List.perm_middle.symm
  case offsets => exact out ▸ final.offsets
  case ordered => exact out ▸ final.ordered

/-- A frame whose slot is free is stored before the in-order run is released. -/
theorem handled_stored (wellFormed : r.WellFormed number)
    (room : r.stored < kRxBaMaxBuf) (numberEq : number skb = sn) (snLt : sn < 4096)
    (fresh : snDiff sn r.headSn < 2048)
    (free : (r.slideFor sn).reorder.buf (slotOf sn) = none) :
    ∃ moved, Handled number r
        (((r.slideFor sn).store sn skb).releaseRun kRxBaMaxBuf).reorder [skb]
        (((r.slideFor sn).store sn skb).releaseRun kRxBaMaxBuf).out [] moved ∧
      (((r.slideFor sn).store sn skb).releaseRun kRxBaMaxBuf).out.length ≤ kRxBaMaxBuf := by
  subst numberEq
  have buffers : kRxBaMaxBuf = 64 := rfl
  obtain ⟨slid, moved, drained, near, inside, _⟩ :=
    slideFor_drained wellFormed room snLt fresh
  have slidFits := drained.length_add wellFormed
  have slidOut := drained.out
  rw [List.nil_append] at slidOut
  rw [List.length_nil] at slidFits
  have storedWf := drained.wellFormed.store inside free
  have storedFrames := RxReorder.frames_store skb free
  obtain ⟨released, moved', final, _, bound, short, stopped⟩ :=
    Drained.releaseRun (d := (r.slideFor (number skb)).store (number skb) skb)
      (Drained.start storedWf (r.slideFor (number skb)).out) kRxBaMaxBuf (by omega)
      (by show (r.slideFor (number skb)).out.length ≤ kRxBaMaxBuf; omega)
      (by omega)
  have fits := final.length_add storedWf
  have storedCount : ((r.slideFor (number skb)).reorder.store (number skb) skb).stored =
      (r.slideFor (number skb)).reorder.stored + 1 := rfl
  have out := final.out
  rw [slidOut] at out
  have closer : ∀ other ∈ released, snDiff (number other) r.headSn =
      moved + snDiff (number other)
        ((r.slideFor (number skb)).reorder.store (number skb) skb).headSn := by
    intro other member
    have offset := final.offsets other member
    have headEq : ((r.slideFor (number skb)).reorder.store (number skb) skb).headSn =
        (r.headSn + moved) % 4096 := drained.head
    rw [headEq] at offset ⊢
    exact snDiff_eq_add (by omega)
  refine ⟨moved + moved', ?_, short⟩
  constructor
  case wellFormed => exact final.wellFormed
  case active => exact final.active.trans drained.active
  case size => exact final.size.trans drained.size
  case room =>
    rcases stopped with empty | full | hole
    · rw [empty]
      decide
    · omega
    · exact final.wellFormed.stored_lt hole
  case head =>
    have headEq : ((r.slideFor (number skb)).reorder.store (number skb) skb).headSn =
        (r.headSn + moved) % 4096 := drained.head
    rw [final.head, headEq]
    omega
  case small => omega
  case conserved =>
    rw [out, List.append_nil]
    calc [skb] ++ r.frames
        _ ~ skb :: (slid ++ (r.slideFor (number skb)).reorder.frames) :=
          drained.conserved.cons skb
        _ ~ slid ++ (skb :: (r.slideFor (number skb)).reorder.frames) :=
          List.perm_middle.symm
        _ ~ slid ++ (released ++ _) :=
          (storedFrames.symm.trans final.conserved).append_left slid
        _ ~ slid ++ released ++ _ := by rw [List.append_assoc]
  case offsets =>
    rw [out]
    intro other member
    rcases List.mem_append.mp member with early | late
    · exact Nat.lt_of_lt_of_le (drained.offsets other early) (by omega)
    · have offset := final.offsets other late
      rw [closer other late]
      omega
  case ordered =>
    rw [out]
    refine List.pairwise_append.mpr ⟨drained.ordered, ?_, ?_⟩
    · refine final.ordered.imp_of_mem ?_
      intro first second firstIn secondIn less
      rw [closer first firstIn, closer second secondIn]
      omega
    · intro first firstIn second secondIn
      have early := drained.offsets first firstIn
      rw [closer second secondIn]
      omega

end Input

/-- `rxReorderInput` on a TID with a buffer. -/
theorem rxReorderInput_handled (number : α → Nat) {table : RxBaTable α}
    {tid : Fin kRxBaNumTid} {r : RxReorder α} {skb : α} {sn : Nat}
    (found : table tid = some r) (active : r.active = true)
    (wellFormed : r.WellFormed number) (room : r.stored < kRxBaMaxBuf)
    (numberEq : number skb = sn) (snLt : sn < 4096) :
    ∃ r' moved, (rxReorderInput table tid skb sn).table = Function.update table tid (some r') ∧
      Handled number r r' [skb] (rxReorderInput table tid skb sn).out
        (rxReorderInput table tid skb sn).freed moved ∧
      (rxReorderInput table tid skb sn).out.length ≤ kRxBaMaxBuf := by
  by_cases stale : snDiff sn r.headSn ≥ 2048
  · have outcome : rxReorderInput table tid skb sn = ⟨table, [], [skb], false⟩ := by
      simp [rxReorderInput, found, active, stale]
    rw [outcome]
    exact ⟨r, 0, by simp [← found], handled_stale wellFormed room skb, Nat.zero_le _⟩
  · cases taken : (r.slideFor sn).reorder.buf (slotOf sn) with
    | some other =>
        obtain ⟨moved, handled, short⟩ :=
          handled_duplicate wellFormed room snLt (by omega) skb
        have outcome : rxReorderInput table tid skb sn =
            ⟨Function.update table tid
                (some ((r.slideFor sn).releaseRun kRxBaMaxBuf).reorder),
              ((r.slideFor sn).releaseRun kRxBaMaxBuf).out, [skb],
              0 < ((r.slideFor sn).releaseRun kRxBaMaxBuf).reorder.stored⟩ := by
          simp [rxReorderInput, found, active, stale, taken]
        rw [outcome]
        exact ⟨_, moved, rfl, handled, short⟩
    | none =>
        obtain ⟨moved, handled, short⟩ :=
          handled_stored wellFormed room numberEq snLt (by omega) taken
        have outcome : rxReorderInput table tid skb sn =
            ⟨Function.update table tid
                (some (((r.slideFor sn).store sn skb).releaseRun kRxBaMaxBuf).reorder),
              (((r.slideFor sn).store sn skb).releaseRun kRxBaMaxBuf).out, [],
              0 < (((r.slideFor sn).store sn skb).releaseRun kRxBaMaxBuf).reorder.stored⟩ := by
          simp [rxReorderInput, found, active, stale, taken]
        rw [outcome]
        exact ⟨_, moved, rfl, handled, short⟩

/-- The part of `rxReorderFlushStale` that handles one TID. -/
theorem flushTid_handled {number : α → Nat} {current : RxBaOutcome α}
    {tid : Fin kRxBaNumTid} {r : RxReorder α} (found : current.table tid = some r)
    (wellFormed : r.WellFormed number) (room : r.stored < kRxBaMaxBuf)
    (short : current.out.length ≤ kRxBaMaxBuf) :
    ∃ r' out moved, (flushTid current tid).table =
        Function.update current.table tid (some r') ∧
      (flushTid current tid).out = current.out ++ out ∧
      (flushTid current tid).freed = current.freed ∧
      Handled number r r' [] out [] moved ∧
      (flushTid current tid).out.length ≤ kRxBaMaxBuf := by
  have buffers : kRxBaMaxBuf = 64 := rfl
  by_cases idle : ¬ r.active ∨ r.stored = 0
  · refine ⟨r, [], 0, ?_, ?_, ?_, ?_, ?_⟩
    · simp only [flushTid, found, if_pos idle]
      simp [← found]
    · simp only [flushTid, found, if_pos idle]
      simp
    · simp only [flushTid, found, if_pos idle]
    · exact ⟨wellFormed, rfl, rfl, room, by simp [Nat.mod_eq_of_lt wellFormed.head_lt],
        by decide, by simp, by simp, List.Pairwise.nil⟩
    · simpa only [flushTid, found, if_pos idle] using short
  · have stored : 0 < r.stored := by omega
    obtain ⟨idx, skb, occupied⟩ := wellFormed.exists_frame stored
    have inside := (wellFormed.placed idx skb occupied).1.2
    have size := wellFormed.size_le
    obtain ⟨skipped, atFrame, skippedBound⟩ :=
      (Drained.start wellFormed current.out).skipHoles 4096 63
        ⟨idx, skb, occupied, by show snDiff (number skb) r.headSn ≤ 63; omega⟩
    have atFrame : Drained number r current.out ⟨r.skipHoles 4096, current.out⟩ [] skipped :=
      atFrame
    obtain ⟨released, moved, final, _, bound, outBound, _⟩ :=
      atFrame.releaseRun kRxBaMaxBuf (by omega) short (by omega)
    have outcome : flushTid current tid =
        { current with
          table := Function.update current.table tid (some
            (Draining.releaseRun kRxBaMaxBuf ⟨r.skipHoles 4096, current.out⟩).reorder)
          out := (Draining.releaseRun kRxBaMaxBuf ⟨r.skipHoles 4096, current.out⟩).out
          again := current.again || decide (0 <
            (Draining.releaseRun kRxBaMaxBuf
              ⟨r.skipHoles 4096, current.out⟩).reorder.stored) } := by
      simp only [flushTid, found, if_neg idle]
    have counted := final.conserved.length_eq
    rw [List.length_append, ← wellFormed.stored_eq, ← final.wellFormed.stored_eq] at counted
    rw [outcome]
    refine ⟨_, released, moved, rfl, final.out, rfl, ?_, outBound⟩
    constructor
    case wellFormed => exact final.wellFormed
    case active => exact final.active
    case size => exact final.size
    case room => omega
    case head => exact final.head
    case small => omega
    case conserved => simpa using final.conserved
    case offsets => exact final.offsets
    case ordered => exact final.ordered

end AirportRtw88
