import Mathlib.Logic.Function.Basic
import Mathlib.Data.Fintype.Basic

/-!
# The RX reorder buffer

One reorder buffer for each TID with an active downlink BlockAck agreement.
The functions are the critical sections under `_rxBaLock`: what they put into
the caller's `out` array is delivered after the lock is dropped, and what they
free is listed too.  The frames themselves are opaque.
-/

namespace AirportRtw88

def kRxBaMaxBuf : Nat := 64

def kRxBaNumTid : Nat := 8

/-- `(newer - older) & 0xFFF`. -/
def snDiff (newer older : Nat) : Nat :=
  (newer + 4096 - older % 4096) % 4096

/-- `sn % kRxBaMaxBuf`. -/
def slotOf (sn : Nat) : Fin kRxBaMaxBuf :=
  ⟨sn % kRxBaMaxBuf, Nat.mod_lt sn (by decide)⟩

structure RxReorder (α : Type) where
  active : Bool
  headSn : Nat
  bufSize : Nat
  stored : Nat
  buf : Fin kRxBaMaxBuf → Option α

/-- `_rxBa`. -/
abbrev RxBaTable (α : Type) : Type :=
  Fin kRxBaNumTid → Option (RxReorder α)

variable {α : Type}

namespace RxReorder

/-- `headSn = (headSn + 1) & 0xFFF`. -/
def advance (r : RxReorder α) : RxReorder α :=
  { r with headSn := (r.headSn + 1) % 4096 }

/-- Empty the slot at the head. -/
def clearHead (r : RxReorder α) : RxReorder α :=
  { r with
    buf := Function.update r.buf (slotOf r.headSn) none
    stored := r.stored - 1 }

/-- Put a frame into a free slot. -/
def store (r : RxReorder α) (sn : Nat) (skb : α) : RxReorder α :=
  { r with
    buf := Function.update r.buf (slotOf sn) (some skb)
    stored := r.stored + 1 }

/-- The buffer of a new agreement. -/
def fresh (ssn bufsize : Nat) : RxReorder α where
  active := true
  headSn := ssn % 4096
  bufSize := if bufsize = 0 ∨ bufsize > kRxBaMaxBuf then kRxBaMaxBuf else bufsize
  stored := 0
  buf := fun _ => none

/-- The frames in the slots, in index order. -/
def frames (r : RxReorder α) : List α :=
  (List.finRange kRxBaMaxBuf).filterMap r.buf

end RxReorder

/-- A buffer being emptied into the array `out`. -/
structure Draining (α : Type) where
  reorder : RxReorder α
  out : List α

namespace Draining

/-- Move the frame at the head into `out` and advance. -/
def release (d : Draining α) (skb : α) : Draining α :=
  ⟨d.reorder.clearHead.advance, d.out ++ [skb]⟩

/-- Put a frame into a free slot of the buffer. -/
def store (d : Draining α) (sn : Nat) (skb : α) : Draining α :=
  ⟨d.reorder.store sn skb, d.out⟩

/-- The loop of `rxReorderInput` that slides the window up to `newHead`. -/
def slide (newHead : Nat) : Nat → Draining α → Draining α
  | 0, d => d
  | fuel + 1, d =>
      if snDiff newHead d.reorder.headSn ≠ 0 ∧ snDiff newHead d.reorder.headSn < 2048 ∧
          d.out.length < kRxBaMaxBuf then
        match d.reorder.buf (slotOf d.reorder.headSn) with
        | some skb => slide newHead fuel (d.release skb)
        | none => slide newHead fuel { d with reorder := d.reorder.advance }
      else d

/-- The loop that releases the in-order run starting at the head. -/
def releaseRun : Nat → Draining α → Draining α
  | 0, d => d
  | fuel + 1, d =>
      if 0 < d.reorder.stored ∧ d.out.length < kRxBaMaxBuf then
        match d.reorder.buf (slotOf d.reorder.headSn) with
        | some skb => releaseRun fuel (d.release skb)
        | none => d
      else d

end Draining

/-- The loop of `rxReorderFlushStale` that skips leading holes; the fuel is what
is left of its guard. -/
def RxReorder.skipHoles : Nat → RxReorder α → RxReorder α
  | 0, r => r
  | guard + 1, r =>
      if 0 < r.stored then
        match r.buf (slotOf r.headSn) with
        | some _ => r
        | none => skipHoles guard r.advance
      else r

/-- What a critical section leaves behind: the table, the frames to deliver in
order, the frames freed, and whether the reorder timer has to be armed. -/
structure RxBaOutcome (α : Type) where
  table : RxBaTable α
  out : List α
  freed : List α
  again : Bool

/-- `rxBaSetup`; `allocated` is the outcome of its allocation. -/
def rxBaSetup (table : RxBaTable α) (tid ssn bufsize : Nat) (allocated : Bool) :
    RxBaOutcome α :=
  if inside : tid < kRxBaNumTid then
    let slot : Fin kRxBaNumTid := ⟨tid, inside⟩
    let fresh := some (RxReorder.fresh ssn bufsize)
    match table slot with
    | some r => ⟨Function.update table slot fresh, [], r.frames, false⟩
    | none =>
        if allocated then ⟨Function.update table slot fresh, [], [], false⟩
        else ⟨table, [], [], false⟩
  else ⟨table, [], [], false⟩

/-- `rxBaTeardown`. -/
def rxBaTeardown (table : RxBaTable α) (tid : Nat) : RxBaOutcome α :=
  if inside : tid < kRxBaNumTid then
    let slot : Fin kRxBaNumTid := ⟨tid, inside⟩
    match table slot with
    | some r => ⟨Function.update table slot none, [], r.frames, false⟩
    | none => ⟨table, [], [], false⟩
  else ⟨table, [], [], false⟩

/-- Slide the window up if `sn` is ahead of it. -/
def RxReorder.slideFor (r : RxReorder α) (sn : Nat) : Draining α :=
  if snDiff sn r.headSn ≥ r.bufSize then
    Draining.slide (snDiff (sn + 1) r.bufSize) 4096 ⟨r, []⟩
  else ⟨r, []⟩

/-- `rxReorderInput`. -/
def rxReorderInput (table : RxBaTable α) (tid : Fin kRxBaNumTid) (skb : α) (sn : Nat) :
    RxBaOutcome α :=
  match table tid with
  | none => ⟨table, [skb], [], false⟩
  | some r =>
      if ¬ r.active then ⟨table, [skb], [], false⟩
      else if snDiff sn r.headSn ≥ 2048 then ⟨table, [], [skb], false⟩
      else
        let slid := r.slideFor sn
        match slid.reorder.buf (slotOf sn) with
        | some _ =>
            let done := slid.releaseRun kRxBaMaxBuf
            ⟨Function.update table tid (some done.reorder), done.out, [skb],
              0 < done.reorder.stored⟩
        | none =>
            let done := (slid.store sn skb).releaseRun kRxBaMaxBuf
            ⟨Function.update table tid (some done.reorder), done.out, [],
              0 < done.reorder.stored⟩

/-- The body of the loop of `rxReorderFlushStale` over the TIDs. -/
def flushTid (current : RxBaOutcome α) (tid : Fin kRxBaNumTid) : RxBaOutcome α :=
  match current.table tid with
  | none => current
  | some r =>
      if ¬ r.active ∨ r.stored = 0 then current
      else
        let done := Draining.releaseRun kRxBaMaxBuf ⟨r.skipHoles 4096, current.out⟩
        { current with
          table := Function.update current.table tid (some done.reorder)
          out := done.out
          again := current.again || decide (0 < done.reorder.stored) }

/-- `rxReorderFlushStale`. -/
def rxReorderFlushStale (table : RxBaTable α) : RxBaOutcome α :=
  (List.finRange kRxBaNumTid).foldl flushTid ⟨table, [], [], false⟩

end AirportRtw88
