import AirportRtw88.RxReorder
import Mathlib.Data.List.Basic

/-!
# Frames are opaque to the RX reorder buffer

The critical sections look at the numbers of the slots and never into a frame.  Renaming the
frames therefore commutes with each of them.
-/

namespace AirportRtw88

variable {α β : Type} (f : α → β)

/-- Rename the frames of a buffer. -/
def RxReorder.map (r : RxReorder α) : RxReorder β :=
  ⟨r.active, r.headSn, r.bufSize, r.stored, fun idx => (r.buf idx).map f⟩

def Draining.map (d : Draining α) : Draining β :=
  ⟨d.reorder.map f, d.out.map f⟩

def RxBaTable.map (table : RxBaTable α) : RxBaTable β :=
  fun tid => (table tid).map (RxReorder.map f)

def RxBaOutcome.map (outcome : RxBaOutcome α) : RxBaOutcome β :=
  ⟨RxBaTable.map f outcome.table, outcome.out.map f, outcome.freed.map f, outcome.again⟩

/-! ## Slots -/

theorem map_update {ι : Type} [DecidableEq ι] {γ δ : Type} (g : γ → δ) (slots : ι → Option γ)
    (idx : ι) (value : Option γ) :
    (fun other => (Function.update slots idx value other).map g) =
      Function.update (fun other => (slots other).map g) idx (value.map g) := by
  funext other
  by_cases same : other = idx
  · subst same
    simp
  · simp [Function.update_of_ne same]

theorem RxBaTable.map_update (table : RxBaTable α) (tid : Fin kRxBaNumTid)
    (buffer : Option (RxReorder α)) :
    RxBaTable.map f (Function.update table tid buffer) =
      Function.update (RxBaTable.map f table) tid (buffer.map (RxReorder.map f)) :=
  AirportRtw88.map_update _ table tid buffer

theorem RxBaTable.map_none : RxBaTable.map f (fun _ => none) = fun _ => none :=
  rfl

namespace RxReorder

variable (r : RxReorder α)

theorem map_clearHead : r.clearHead.map f = (r.map f).clearHead := by
  simp only [map, clearHead, map_update, Option.map_none]

theorem map_store (sn : Nat) (skb : α) : (r.store sn skb).map f = (r.map f).store sn (f skb) := by
  simp only [map, store, map_update, Option.map_some]

theorem map_fresh (ssn bufsize : Nat) : (fresh ssn bufsize).map f = fresh ssn bufsize :=
  rfl

theorem frames_map : (r.map f).frames = r.frames.map f := by
  simp only [frames, map, List.map_filterMap]

theorem map_skipHoles (guard : Nat) : (r.skipHoles guard).map f = (r.map f).skipHoles guard := by
  induction guard generalizing r with
  | zero => rfl
  | succ guard ih =>
      have head : (r.map f).buf (slotOf (r.map f).headSn) = (r.buf (slotOf r.headSn)).map f := rfl
      have kept : (r.map f).stored = r.stored := rfl
      unfold skipHoles
      rw [head, kept]
      split
      · cases occupied : r.buf (slotOf r.headSn) with
        | some skb => rfl
        | none => exact ih r.advance
      · rfl

end RxReorder

namespace Draining

variable (d : Draining α)

theorem map_release (skb : α) : (d.release skb).map f = (d.map f).release (f skb) := by
  simp only [map, release, List.map_append, List.map_cons, List.map_nil]
  rw [← RxReorder.map_clearHead]
  rfl

theorem map_store (sn : Nat) (skb : α) : (d.store sn skb).map f = (d.map f).store sn (f skb) := by
  simp only [map, store, RxReorder.map_store]

theorem map_slide (newHead fuel : Nat) :
    (slide newHead fuel d).map f = slide newHead fuel (d.map f) := by
  induction fuel generalizing d with
  | zero => rfl
  | succ fuel ih =>
      have head : (d.map f).reorder.buf (slotOf (d.map f).reorder.headSn) =
          (d.reorder.buf (slotOf d.reorder.headSn)).map f := rfl
      have kept : (d.map f).reorder.headSn = d.reorder.headSn := rfl
      have length : (d.map f).out.length = d.out.length := List.length_map _
      unfold slide
      rw [head, kept, length]
      split
      · cases occupied : d.reorder.buf (slotOf d.reorder.headSn) with
        | some skb => exact (ih (d.release skb)).trans (by rw [map_release]; rfl)
        | none => exact ih { d with reorder := d.reorder.advance }
      · rfl

theorem map_releaseRun (fuel : Nat) : (releaseRun fuel d).map f = releaseRun fuel (d.map f) := by
  induction fuel generalizing d with
  | zero => rfl
  | succ fuel ih =>
      have head : (d.map f).reorder.buf (slotOf (d.map f).reorder.headSn) =
          (d.reorder.buf (slotOf d.reorder.headSn)).map f := rfl
      have kept : (d.map f).reorder.stored = d.reorder.stored := rfl
      have length : (d.map f).out.length = d.out.length := List.length_map _
      unfold releaseRun
      rw [head, kept, length]
      split
      · cases occupied : d.reorder.buf (slotOf d.reorder.headSn) with
        | some skb => exact (ih (d.release skb)).trans (by rw [map_release]; rfl)
        | none => rfl
      · rfl

end Draining

/-! ## The critical sections -/

section

variable (table : RxBaTable α)

theorem map_rxBaSetup (tid ssn bufsize : Nat) (allocated : Bool) :
    (rxBaSetup table tid ssn bufsize allocated).map f =
      rxBaSetup (RxBaTable.map f table) tid ssn bufsize allocated := by
  unfold rxBaSetup
  split
  · rename_i inside
    have found : RxBaTable.map f table ⟨tid, inside⟩ =
        (table ⟨tid, inside⟩).map (RxReorder.map f) := rfl
    dsimp only
    rw [found]
    cases table ⟨tid, inside⟩ with
    | some r =>
        simp only [RxBaOutcome.map, RxBaTable.map_update, Option.map_some, RxReorder.map_fresh,
          RxReorder.frames_map, List.map_nil]
    | none =>
        cases allocated
        · rfl
        · simp only [RxBaOutcome.map, RxBaTable.map_update, Option.map_some, Option.map_none,
            RxReorder.map_fresh, List.map_nil, if_true]
  · rfl

theorem map_rxBaTeardown (tid : Nat) :
    (rxBaTeardown table tid).map f = rxBaTeardown (RxBaTable.map f table) tid := by
  unfold rxBaTeardown
  split
  · rename_i inside
    have found : RxBaTable.map f table ⟨tid, inside⟩ =
        (table ⟨tid, inside⟩).map (RxReorder.map f) := rfl
    dsimp only
    rw [found]
    cases table ⟨tid, inside⟩ with
    | some r =>
        simp only [RxBaOutcome.map, RxBaTable.map_update, Option.map_some, Option.map_none,
          RxReorder.frames_map, List.map_nil]
    | none => rfl
  · rfl

theorem RxReorder.map_slideFor (r : RxReorder α) (sn : Nat) :
    (r.slideFor sn).map f = (r.map f).slideFor sn := by
  have kept : (r.map f).bufSize = r.bufSize ∧ (r.map f).headSn = r.headSn := ⟨rfl, rfl⟩
  unfold slideFor
  rw [kept.1, kept.2]
  split
  · exact Draining.map_slide f ⟨r, []⟩ _ _
  · rfl

theorem map_rxReorderInput (tid : Fin kRxBaNumTid) (skb : α) (sn : Nat) :
    (rxReorderInput table tid skb sn).map f =
      rxReorderInput (RxBaTable.map f table) tid (f skb) sn := by
  have found : RxBaTable.map f table tid = (table tid).map (RxReorder.map f) := rfl
  unfold rxReorderInput
  rw [found]
  cases table tid with
  | none => rfl
  | some r =>
      have slid := r.map_slideFor f sn
      have slot : ((r.map f).slideFor sn).reorder.buf (slotOf sn) =
          ((r.slideFor sn).reorder.buf (slotOf sn)).map f := slid ▸ rfl
      have active : (r.map f).active = r.active := rfl
      have headSn : (r.map f).headSn = r.headSn := rfl
      simp only [Option.map_some, active, headSn, slot]
      split
      · rfl
      split
      · rfl
      · cases (r.slideFor sn).reorder.buf (slotOf sn) with
        | some old =>
            have done := (r.slideFor sn).map_releaseRun f kRxBaMaxBuf
            rw [slid] at done
            simp only [Option.map_some, ← done, RxBaOutcome.map, RxBaTable.map_update]
            rfl
        | none =>
            have done := ((r.slideFor sn).store sn skb).map_releaseRun f kRxBaMaxBuf
            rw [Draining.map_store, slid] at done
            simp only [Option.map_none, ← done, RxBaOutcome.map, RxBaTable.map_update]
            rfl

theorem map_flushTid (current : RxBaOutcome α) (tid : Fin kRxBaNumTid) :
    (flushTid current tid).map f = flushTid (current.map f) tid := by
  have found : (current.map f).table tid = (current.table tid).map (RxReorder.map f) := rfl
  unfold flushTid
  rw [found]
  cases current.table tid with
  | none => rfl
  | some r =>
      have active : (r.map f).active = r.active := rfl
      have stored : (r.map f).stored = r.stored := rfl
      simp only [Option.map_some, active, stored]
      split
      · rfl
      · have done := Draining.map_releaseRun f ⟨r.skipHoles 4096, current.out⟩ kRxBaMaxBuf
        simp only [Draining.map, RxReorder.map_skipHoles] at done
        simp only [← done, RxBaOutcome.map, RxBaTable.map_update]
        rfl

theorem map_rxReorderFlushStale :
    (rxReorderFlushStale table).map f = rxReorderFlushStale (RxBaTable.map f table) := by
  have sweeps : ∀ (tids : List (Fin kRxBaNumTid)) (current : RxBaOutcome α),
      (tids.foldl flushTid current).map f = tids.foldl flushTid (current.map f) := by
    intro tids
    induction tids with
    | nil => exact fun _ => rfl
    | cons tid tids ih =>
        intro current
        rw [List.foldl_cons, List.foldl_cons, ih, map_flushTid]
  exact sweeps _ _

end

end AirportRtw88
