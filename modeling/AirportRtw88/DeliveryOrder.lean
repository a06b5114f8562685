import AirportRtw88.BufferLedger
import AirportRtw88.RxReorderMap
import AirportRtw88.RxReorderRuns
import AirportRtw88.System
import AirportRtw88.Interleave.Emission
import AirportRtw88.Interleave.History

/-!
# The order of delivery

What a critical section of the reorder buffers releases is delivered after `_rxBaLock` is dropped.
Frames arrive on the thread call of NAPI and the reorder timer fires on a workloop, and nothing
keeps the one from delivering in the middle of the other's deliveries.  The releases of a run are
recorded, and compared with what `deliverDataFrame` is handed.
-/

namespace AirportRtw88

open Interleave Bytes

/-- The frame that a request hands to `deliverDataFrame`. -/
def Call.handed : Call → Option Skb
  | .deliver skb => some skb
  | _ => none

theorem Bytes.seqCtrl_div_lt (frame : Bytes) : frame.seqCtrl / 16 < 4096 := by
  have bound := frame.le16At_lt 22
  unfold Bytes.seqCtrl
  omega

namespace Skb

/-- The frame with the sequence number that it is submitted with. -/
def numbered (skb : Skb) : Numbered Skb :=
  ⟨skb, ⟨skb.data.seqCtrl / 16, skb.data.seqCtrl_div_lt⟩⟩

/-- `rxFrame` hands the frame to `processRxData`. -/
def isRxData (skb : Skb) : Bool :=
  24 ≤ skb.data.length ∧ skb.data.isMgmt = false ∧ skb.data.isData = true ∧
    M.isAwdlData skb.data = false

end Skb

namespace Ieee80211

/-- `processRxData` keeps the frame. -/
def takesData (s : Ieee80211) (skb : Skb) : Bool :=
  skb.isRxData && s.receivesData && s.fromOurAp skb.data

/-- Everything but the reorder buffers changes. -/
def exceptRxBa (s other : Ieee80211) : Ieee80211 :=
  { other with rxBa := s.rxBa }

end Ieee80211

/-- The two functions that deliver, the other critical sections, and any other change. -/
inductive ReorderOp : Type where
  | rxFrame (skb : Skb)
  | reorderTimerFired
  | rxBaSetup (tid ssn bufsize : Nat) (allocated : Bool)
  | rxBaTeardown (tid : Nat)
  | elsewhere (other : Ieee80211)

namespace ReorderOp

def program : ReorderOp → M IOReturn
  | .rxFrame skb => M.returning (M.rxFrame skb)
  | .reorderTimerFired => M.returning M.reorderTimerFired
  | .rxBaSetup tid ssn bufsize allocated => M.returning
      (Prog.update fun s => s.leaveRxBa (AirportRtw88.rxBaSetup s.rxBa tid ssn bufsize allocated))
  | .rxBaTeardown tid => M.returning (Prog.update fun s => s.rxBaTeardown tid)
  | .elsewhere other => M.returning (Prog.update fun s => s.exceptRxBa other)

/-- A thread of the operation that waits is in `deliverDataFrame`. -/
def delivers : ReorderOp → Bool
  | .rxFrame skb => skb.isRxData
  | .reorderTimerFired => true
  | _ => false

/-- The critical section that the operation begins with. -/
def section? (op : ReorderOp) (s : Ieee80211) : Option (RxBaOp Skb) :=
  match op with
  | .rxFrame skb =>
      if s.takesData skb then (s.reorderTid skb.data).map fun tid => .input tid skb.numbered
      else none
  | .reorderTimerFired => some .flushStale
  | .rxBaSetup tid ssn bufsize allocated => some (.setup tid ssn bufsize allocated)
  | .rxBaTeardown tid => some (.teardown tid)
  | .elsewhere _ => none

/-- The operation begins a delivery: a critical section releases frames, or a frame is delivered
without one. -/
def begins (op : ReorderOp) (s : Ieee80211) : Bool :=
  match op with
  | .rxFrame skb =>
      s.takesData skb && (s.reorderTid skb.data).all fun tid =>
        (rxReorderInput s.rxBa tid skb (skb.data.seqCtrl / 16)).out ≠ []
  | .reorderTimerFired => (rxReorderFlushStale s.rxBa).out ≠ []
  | _ => false

end ReorderOp

/-- The threads that deliver frames, with everything else around them.  Management frames set up
and tear down agreements. -/
def reordering : System Ieee80211 Call Answer ReorderOp IOReturn where
  program := ReorderOp.program
  enabled
    | .rxFrame skb, _ => skb.data.isMgmt = false
    | .reorderTimerFired, s => s.reorderTimer = true
    | _, _ => True
  ready _ _ := True

instance (op : ReorderOp) (s : Ieee80211) : Decidable (reordering.enabled op s) := by
  cases op <;> unfold reordering <;> infer_instance

instance (call : Call) (s : Ieee80211) : Decidable (reordering.ready call s) :=
  inferInstanceAs (Decidable True)

/-- What was released so far, and of this what was handed to `deliverDataFrame`. -/
structure Deliveries where
  run : RxBaRun Skb
  handed : List Skb

namespace Deliveries

/-- A critical section is recorded when it is entered, and a frame when it is handed over; frames
that no critical section releases are not. -/
def after (move : Move Call Answer ReorderOp IOReturn) (s : Ieee80211) (deliveries : Deliveries) :
    Deliveries :=
  match move.resumed with
  | none =>
      match move.op.section? s with
      | some op =>
          ⟨deliveries.run.step op, deliveries.handed ++ move.stop.emitted Call.handed⟩
      | none => deliveries
  | some _ => ⟨deliveries.run, deliveries.handed ++ move.stop.emitted Call.handed⟩

end Deliveries

abbrev ReorderConfig : Type := Config Ieee80211 Call Answer ReorderOp IOReturn

/-- The threads in `deliverDataFrame`. -/
def ReorderConfig.delivering (config : ReorderConfig) :
    List (Thread Ieee80211 Call Answer ReorderOp IOReturn) :=
  config.threads.filter fun thread => thread.op.delivers

/-- The frames of an agreement are released in window order, they are handed over in the order in
which they are released, and no two deliveries overlap. -/
structure DeliversInOrder (now : ReorderConfig × Deliveries) : Prop where
  released : ∀ tid, (now.2.run.order tid).Pairwise (· < ·)
  handed : now.2.handed <+: now.2.run.released.map Numbered.skb
  apart : now.1.delivering.length ≤ 1

/-- Frames are delivered in order in every state that is reached. -/
def AlwaysInOrder (allows : ReorderConfig → Move Call Answer ReorderOp IOReturn → Prop)
    (s : Ieee80211) : Prop :=
  s.initial → ∀ now,
    reordering.Observed Deliveries.after allows (⟨s, []⟩, ⟨.initial, []⟩) now →
      DeliversInOrder now

/-- No delivery begins while another is under way. -/
def OneAtATime (config : ReorderConfig) (move : Move Call Answer ReorderOp IOReturn) : Prop :=
  move.resumed = none → move.op.begins config.state = true → config.delivering = []

/-! ## What the deliveries hand over -/

namespace M

open Ieee80211 Prog

/-- The program leaves the reorder buffers alone and hands over these frames. -/
abbrev HandsOver {α : Type} (program : M α) (frames : List Skb) : Prop :=
  program.Emits Call.handed Ieee80211.rxBa frames

section Silent

attribute [local simp] perform succeeds submit recordTx Call.handed

theorem deliverEthernet_handsOver (skb : Skb) (msdu : Msdu) :
    HandsOver (deliverEthernet skb msdu) [] := by
  refine .of_guarantees fun now => ?_
  simp [deliverEthernet, fillInputPacket, copies, dropMbuf, mbufFreem]

theorem deliverAWDLEthernet_handsOver (msdu : Msdu) : HandsOver (deliverAWDLEthernet msdu) [] := by
  refine .of_guarantees fun now => ?_
  simp [deliverAWDLEthernet, fillInputPacket, copies, dropMbuf, mbufFreem]

theorem txDataFrame_handsOver (m : Mbuf) : HandsOver (txDataFrame m) [] := by
  refine .of_guarantees fun now => ?_
  simp [txDataFrame, allocSkb, takeSkb, dropSkb, handSkb, dropMbuf, copies, bumpTxPn, bumpDataSeq,
    mbufFreem]

theorem sendEAPOLKey_handsOver (step : Nat) (counter : Bytes) (install ack mic : Bool) :
    HandsOver (sendEAPOLKey step counter install ack mic) [] := by
  refine .after .fetch fun s => .after (.after .choose fun _ => .ret _) fun allocated => .when ?_
  exact .after (txDataFrame_handsOver _) fun _ => .ret _

theorem installKey_handsOver (pairwise : Bool) (keyidx : UInt8) (cipher : Nat)
    (tk : Ieee80211 → Bytes) (tkLen : Nat) :
    HandsOver (installKey pairwise keyidx cipher tk tkLen) [] := by
  refine .of_guarantees fun now => ?_
  simp [installKey, setKeySlot, resetTxPn]

theorem completeHandshake_handsOver : HandsOver completeHandshake [] := by
  refine .after .fetch fun s => .after (sendEAPOLKey_handsOver _ _ _ _ _) fun _ => ?_
  refine .of_guarantees fun now => ?_
  simp [setState, cancelTimeout, startTxAggregation, sendAddbaRequest, txMgmtFrame, bumpTxSeq,
    bumpBaDialog]

theorem installHandshakeKeys_handsOver (gtk : Option GtkKde) :
    HandsOver (installHandshakeKeys gtk) [] := by
  refine .after (installKey_handsOver _ _ _ _ _) fun installed => .when (.after .fetch fun s => ?_)
  dsimp only
  cases gtk.filter fun kde => kde.gtk ≠ [] with
  | none => exact completeHandshake_handsOver
  | some kde =>
      refine .after (installKey_handsOver _ _ _ _ _) fun grouped => .when ?_
      exact completeHandshake_handsOver

theorem handleEAPOL_handsOver (data : Bytes) : HandsOver (handleEAPOL data) [] := by
  have answers : HandsOver (handleM1 data) [] := by
    refine .after .choose fun random => .after (.update fun _ => rfl) fun _ => ?_
    refine .after .fetch fun s => .after (sendEAPOLKey_handsOver _ _ _ _ _) fun _ => ?_
    exact .update fun _ => rfl
  have accepts : HandsOver (handleM3 data) [] := by
    refine .after .fetch fun s => .after (.ite (.ret _) ?_) fun verified => .when ?_
    · exact .after (.after .choose fun _ => .ret _) fun _ => .ite (.ret _) (.ret _)
    · refine .whenSome fun keyData => .after (.update fun _ => rfl) fun _ => ?_
      exact installHandshakeKeys_handsOver _
  exact .when (.ite answers (.when accepts))

end Silent

/-! ## Deliveries -/

theorem deliverDataFrame_handsOver (skb : Skb) : HandsOver (deliverDataFrame skb) [skb] := by
  have frees : HandsOver (Prog.update fun s => s.kfreeSkb skb) [] := .update fun _ => rfl
  have single : HandsOver (deliverMsdu skb) [] := by
    refine .after (.when (.update fun _ => rfl)) fun _ => .after .fetch fun s => ?_
    exact .ite (handleEAPOL_handsOver _) (deliverEthernet_handsOver skb _)
  refine .before (.before (.await (Call.deliver skb)) fun _ => .ret ()) fun _ => .ite ?_ ?_
  · exact .after (.forEach fun msdu => deliverEthernet_handsOver skb msdu) fun _ => frees
  · exact .after (.when single) fun _ => frees

/-- What a critical section released is handed over in its order. -/
theorem deliverReleased_handsOver (outcome : RxBaOutcome Skb) :
    HandsOver (deliverReleased outcome) outcome.out := by
  have all : HandsOver (Prog.forEach outcome.out deliverDataFrame) (outcome.out.map id) :=
    .forEach_map deliverDataFrame_handsOver
  rw [List.map_id] at all
  exact all.before fun _ => .when (.update fun _ => rfl)

/-! ## The first block -/

/-- A function without a return value hands over what its body does. -/
theorem returning_handsOver {body : M Unit} {frames : List Skb} (hands : HandsOver body frames) :
    HandsOver (returning body) frames :=
  hands.before fun _ => .ret _

/-- `rxFrame` up to the point where it calls `processRxData`. -/
theorem block_rxFrame {skb : Skb} (isRxData : skb.isRxData = true) (s : Ieee80211)
    (answers : List Answer) :
    (returning (rxFrame skb)).block s answers =
      (returning (processRxData skb)).block (s.countRx skb) answers := by
  simp only [Skb.isRxData, decide_eq_true_eq] at isRxData
  obtain ⟨long, notMgmt, isData, notAwdl⟩ := isRxData
  have short : ¬ skb.data.length < 24 := not_lt.mpr long
  simp [returning, rxFrame, tryDeliverAWDLDataFrame, short, notMgmt, isData, notAwdl, Prog.block,
    Prog.bind, update, Prog.when]

/-- Frames that do not reach `processRxData` are handed to nobody. -/
theorem rxFrame_handsOver {skb : Skb} (notMgmt : skb.data.isMgmt = false)
    (other : skb.isRxData = false) : HandsOver (rxFrame skb) [] := by
  have frees : HandsOver (Prog.update fun s => s.kfreeSkb skb) [] := .update fun _ => rfl
  unfold rxFrame
  split
  · exact frees
  · rename_i long
    refine .after (.update fun _ => rfl) fun _ => ?_
    rw [notMgmt, if_neg (by simp)]
    split
    · rename_i isData
      have awdl : isAwdlData skb.data = true := by
        by_contra notAwdl
        simp [Skb.isRxData, notMgmt, isData, notAwdl, not_lt.mp long] at other
      unfold tryDeliverAWDLDataFrame
      rw [if_pos awdl]
      simp only [bind_eq_bind, pure_eq_ret, bind_assoc]
      exact .after (deliverAWDLEthernet_handsOver _) fun _ => .after frees fun _ => .ret ()
    · exact frees

/-- `processRxData` frees a frame that it does not keep. -/
theorem block_processRxData_of_dropped {skb : Skb} {s : Ieee80211}
    (dropped : (s.receivesData && s.fromOurAp skb.data) = false) (answers : List Answer) :
    (returning (processRxData skb)).block s answers =
      (s.kfreeSkb skb, .finished .success) := by
  cases receives : s.receivesData <;> cases ours : s.fromOurAp skb.data <;>
    simp [receives, ours, returning, processRxData, Prog.block, Prog.bind, fetch, update]
      at dropped ⊢

theorem block_processRxData {skb : Skb} {s : Ieee80211}
    (takes : (s.receivesData && s.fromOurAp skb.data) = true) (answers : List Answer) :
    (returning (processRxData skb)).block s answers =
      match s.reorderTid skb.data with
      | some tid =>
          (returning (deliverReleased
            (AirportRtw88.rxReorderInput s.rxBa tid skb (skb.data.seqCtrl / 16)))).block
            (s.leaveRxBa (AirportRtw88.rxReorderInput s.rxBa tid skb (skb.data.seqCtrl / 16)))
            answers
      | none => (returning (deliverDataFrame skb)).block s answers := by
  obtain ⟨receives, ours⟩ := Bool.and_eq_true_iff.mp takes
  cases tid : s.reorderTid skb.data <;>
    simp [returning, processRxData, rxReorderInput, receives, ours, tid, Prog.block, Prog.bind,
      fetch, update]

/-- Nothing was released, and nobody waits. -/
theorem block_deliverReleased_of_nil {outcome : RxBaOutcome Skb} (nothing : outcome.out = [])
    (s : Ieee80211) (answers : List Answer) :
    ∃ value, ((returning (deliverReleased outcome)).block s answers).2 = .finished value := by
  cases again : outcome.again <;>
    simp [returning, deliverReleased, nothing, again, forEach, Prog.when, update, Prog.block,
      Prog.bind]

end M

/-- The outcome of a critical section. -/
def RxBaOp.enter (op : RxBaOp Skb) (table : RxBaTable Skb) : RxBaOutcome Skb :=
  match op with
  | .setup tid ssn bufsize allocated => rxBaSetup table tid ssn bufsize allocated
  | .input tid frame => rxReorderInput table tid frame.skb frame.number
  | .flushStale => rxReorderFlushStale table
  | .teardown tid => rxBaTeardown table tid

namespace RxBaRun

/-- The reorder buffers of a run, without the numbers of the frames. -/
def frames (run : RxBaRun Skb) : RxBaTable Skb :=
  RxBaTable.map Numbered.skb run.table

/-- The frames that were released in a run, without their numbers. -/
def skbs (run : RxBaRun Skb) : List Skb :=
  run.released.map Numbered.skb

variable (run : RxBaRun Skb)

theorem released_restart (tid : Nat) : (run.restart tid).released = run.released := by
  unfold restart
  split <;> rfl

theorem released_foldl_flushStep (tids : List (Fin kRxBaNumTid))
    (current : RxBaRun Skb × RxBaOutcome (Numbered Skb)) :
    (tids.foldl flushStep current).1.released = current.1.released := by
  induction tids generalizing current with
  | nil => rfl
  | cons tid tids ih =>
      rw [List.foldl_cons, ih]
      unfold flushStep note
      dsimp only
      split <;> rfl

/-- A run does to the numbered frames what the critical section does to the frames. -/
theorem frames_step (op : RxBaOp Skb) :
    (run.step op).frames = (op.enter run.frames).table ∧
      (run.step op).skbs = run.skbs ++ (op.enter run.frames).out := by
  cases op with
  | setup tid ssn bufsize allocated =>
      have outcome := map_rxBaSetup Numbered.skb run.table tid ssn bufsize allocated
      refine ⟨congrArg RxBaOutcome.table outcome, ?_⟩
      rw [RxBaOp.enter, out_rxBaSetup, List.append_nil]
      exact congrArg (List.map Numbered.skb) (run.released_restart tid)
  | input tid frame =>
      have outcome := map_rxReorderInput Numbered.skb run.table tid frame frame.number
      refine ⟨congrArg RxBaOutcome.table outcome, ?_⟩
      have out := congrArg RxBaOutcome.out outcome
      exact (List.map_append ..).trans (congrArg (run.skbs ++ ·) out)
  | flushStale =>
      have outcome := map_rxReorderFlushStale Numbered.skb run.table
      have same := foldl_flushStep (List.finRange kRxBaNumTid) (run, ⟨run.table, [], [], false⟩)
      have released := released_foldl_flushStep (List.finRange kRxBaNumTid)
        (run, ⟨run.table, [], [], false⟩)
      constructor
      · rw [frames, step, settle, same]
        exact congrArg RxBaOutcome.table outcome
      · rw [skbs, step, settle, same, released]
        have out := congrArg RxBaOutcome.out outcome
        exact (List.map_append ..).trans (congrArg (run.skbs ++ ·) out)
  | teardown tid =>
      have outcome := map_rxBaTeardown Numbered.skb run.table tid
      refine ⟨congrArg RxBaOutcome.table outcome, ?_⟩
      rw [RxBaOp.enter, out_rxBaTeardown, List.append_nil]
      exact congrArg (List.map Numbered.skb) (run.released_restart tid)

end RxBaRun

namespace ReorderOp

variable {op : ReorderOp} {s : Ieee80211}

/-- A frame that `processRxData` keeps goes to a reorder buffer or is delivered. -/
theorem block_rxFrame_of_takes {skb : Skb} (takes : s.takesData skb = true)
    (answers : List Answer) :
    (rxFrame skb).program.block s answers =
      match s.reorderTid skb.data with
      | some tid =>
          (M.returning (M.deliverReleased
            (rxReorderInput s.rxBa tid skb (skb.data.seqCtrl / 16)))).block
            ((s.countRx skb).leaveRxBa (rxReorderInput s.rxBa tid skb (skb.data.seqCtrl / 16)))
            answers
      | none => (M.returning (M.deliverDataFrame skb)).block (s.countRx skb) answers := by
  simp only [Ieee80211.takesData, Bool.and_eq_true] at takes
  have kept : ((s.countRx skb).receivesData && (s.countRx skb).fromOurAp skb.data) = true :=
    Bool.and_eq_true_iff.mpr ⟨takes.1.2, takes.2⟩
  exact (M.block_rxFrame takes.1.1 s answers).trans (M.block_processRxData kept answers)

/-- A frame that `processRxData` does not keep is freed. -/
theorem block_rxFrame_of_dropped {skb : Skb} (isRxData : skb.isRxData = true)
    (dropped : s.takesData skb = false) (answers : List Answer) :
    (rxFrame skb).program.block s answers =
      ((s.countRx skb).kfreeSkb skb, .finished .success) := by
  simp only [Ieee80211.takesData, isRxData, Bool.true_and] at dropped
  have refused : ((s.countRx skb).receivesData && (s.countRx skb).fromOurAp skb.data) = false :=
    dropped
  exact (M.block_rxFrame isRxData s answers).trans
    (M.block_processRxData_of_dropped refused answers)

/-- The first block enters the critical section, and what it releases is handed over. -/
theorem block_of_section {inside : RxBaOp Skb} (found : op.section? s = some inside)
    (answers : List Answer) :
    (op.program.block s answers).1.rxBa = (inside.enter s.rxBa).table ∧
      (op.program.block s answers).2.Emits Call.handed Ieee80211.rxBa
        (inside.enter s.rxBa).out := by
  cases op with
  | rxFrame skb =>
      simp only [section?] at found
      split at found
      · rename_i takes
        obtain ⟨tid, isTid, rfl⟩ := Option.map_eq_some_iff.mp found
        have block := block_rxFrame_of_takes takes answers
        rw [isTid] at block
        rw [block]
        exact (M.returning_handsOver (M.deliverReleased_handsOver _)).handsOver _ |>.block answers
      · cases found
  | reorderTimerFired =>
      obtain rfl : RxBaOp.flushStale = inside := Option.some.inj found
      exact (M.returning_handsOver (M.deliverReleased_handsOver _)).handsOver _ |>.block answers
  | rxBaSetup tid ssn bufsize allocated =>
      obtain rfl : RxBaOp.setup tid ssn bufsize allocated = inside := Option.some.inj found
      exact ⟨rfl, out_rxBaSetup _ _ _ _ _⟩
  | rxBaTeardown tid =>
      obtain rfl : RxBaOp.teardown tid = inside := Option.some.inj found
      exact ⟨rfl, out_rxBaTeardown _ _⟩
  | elsewhere other => cases found

/-- Without a critical section, what remains of the operation hands nothing over. -/
theorem block_of_none (found : op.section? s = none) (enabled : reordering.enabled op s)
    (answers : List Answer) :
    (op.program.block s answers).1.rxBa = s.rxBa ∧
      ∀ thread ∈ (op.program.block s answers).2.threads op,
        thread.Emits Call.handed Ieee80211.rxBa [] := by
  cases op with
  | rxFrame skb =>
      have notMgmt : skb.data.isMgmt = false := enabled
      cases isRxData : skb.isRxData
      · have hands := M.returning_handsOver (M.rxFrame_handsOver notMgmt isRxData)
        obtain ⟨same, ends⟩ := (hands.handsOver s).block answers
        obtain ⟨rest, split, -, threads⟩ := ends.threads (ReorderOp.rxFrame skb)
        obtain ⟨-, rfl⟩ := List.append_eq_nil_iff.mp split.symm
        exact ⟨same, fun thread member => threads thread member⟩
      · cases takes : s.takesData skb
        · rw [block_rxFrame_of_dropped isRxData takes answers]
          exact ⟨rfl, fun _ member => absurd member List.not_mem_nil⟩
        · have noTid : s.reorderTid skb.data = none := by
            simpa [section?, takes] using found
          have block := block_rxFrame_of_takes takes answers
          rw [noTid] at block
          rw [block]
          have hands := M.returning_handsOver (M.deliverDataFrame_handsOver skb)
          obtain ⟨same, ends⟩ := (hands.handsOver (s.countRx skb)).block answers
          obtain ⟨rest, split, -, threads⟩ := ends.threads (ReorderOp.rxFrame skb)
          have split : [skb] ++ [] = [skb] ++ rest := split
          obtain rfl := List.append_cancel_left split
          exact ⟨same, fun thread member => threads thread member⟩
  | reorderTimerFired => cases found
  | rxBaSetup tid ssn bufsize allocated => cases found
  | rxBaTeardown tid => cases found
  | elsewhere other => exact ⟨rfl, fun _ member => absurd member List.not_mem_nil⟩

/-- An operation that begins no delivery ends in its first block. -/
theorem threads_of_idle (idle : op.begins s = false) (delivers : op.delivers = true)
    (answers : List Answer) : (op.program.block s answers).2.threads op = [] := by
  cases op with
  | rxFrame skb =>
      cases takes : s.takesData skb
      · rw [block_rxFrame_of_dropped delivers takes answers]
        rfl
      · simp only [begins, takes, Bool.true_and] at idle
        have block := block_rxFrame_of_takes takes answers
        cases isTid : s.reorderTid skb.data with
        | none => simp [isTid] at idle
        | some tid =>
            rw [isTid] at block
            have nothing : (rxReorderInput s.rxBa tid skb (skb.data.seqCtrl / 16)).out = [] := by
              simpa [isTid] using idle
            obtain ⟨value, ends⟩ := M.block_deliverReleased_of_nil nothing
              ((s.countRx skb).leaveRxBa (rxReorderInput s.rxBa tid skb (skb.data.seqCtrl / 16)))
              answers
            rw [block]
            dsimp only
            rw [ends]
            rfl
  | reorderTimerFired =>
      have nothing : (rxReorderFlushStale s.rxBa).out = [] := by
        simpa [begins] using idle
      obtain ⟨value, ends⟩ := M.block_deliverReleased_of_nil nothing
        (s.cancelReorderTimer.leaveRxBa (rxReorderFlushStale s.rxBa)) answers
      have same : (program reorderTimerFired).block s answers =
          (M.returning (M.deliverReleased (rxReorderFlushStale s.rxBa))).block
            (s.cancelReorderTimer.leaveRxBa (rxReorderFlushStale s.rxBa)) answers := rfl
      rw [same, ends]
      rfl
  | rxBaSetup tid ssn bufsize allocated => cases delivers
  | rxBaTeardown tid => cases delivers
  | elsewhere other => cases delivers

/-- An operation that begins no delivery releases nothing. -/
theorem out_of_idle {inside : RxBaOp Skb} (found : op.section? s = some inside)
    (idle : op.begins s = false) : (inside.enter s.rxBa).out = [] := by
  cases op with
  | rxFrame skb =>
      simp only [section?] at found
      split at found
      · rename_i takes
        obtain ⟨tid, isTid, rfl⟩ := Option.map_eq_some_iff.mp found
        have nothing : (rxReorderInput s.rxBa tid skb (skb.data.seqCtrl / 16)).out = [] := by
          simpa [begins, takes, isTid] using idle
        exact nothing
      · cases found
  | reorderTimerFired =>
      obtain rfl : RxBaOp.flushStale = inside := Option.some.inj found
      have nothing : (rxReorderFlushStale s.rxBa).out = [] := by
        simpa [begins] using idle
      exact nothing
  | rxBaSetup tid ssn bufsize allocated =>
      obtain rfl : RxBaOp.setup tid ssn bufsize allocated = inside := Option.some.inj found
      exact out_rxBaSetup _ _ _ _ _
  | rxBaTeardown tid =>
      obtain rfl : RxBaOp.teardown tid = inside := Option.some.inj found
      exact out_rxBaTeardown _ _
  | elsewhere other => cases found

theorem delivers_of_begins (begins : op.begins s = true) : op.delivers = true := by
  cases op with
  | rxFrame skb =>
      simp only [ReorderOp.begins, Ieee80211.takesData, Bool.and_eq_true] at begins
      exact begins.1.1.1
  | reorderTimerFired => rfl
  | rxBaSetup tid ssn bufsize allocated => cases begins
  | rxBaTeardown tid => cases begins
  | elsewhere other => cases begins

end ReorderOp

/-! ## Runs -/

/-- The buffers are those of the run that is recorded, and the thread that delivers has in hand
what is left of the frames released. -/
structure ReorderSound (now : ReorderConfig × Deliveries) (todo : List Skb) : Prop where
  table : now.1.state.rxBa = now.2.run.frames
  invariant : now.2.run.Invariant
  split : now.2.run.skbs = now.2.handed ++ todo
  apart : now.1.delivering.length ≤ 1
  idle : now.1.delivering = [] → todo = []
  threads : ∀ thread ∈ now.1.threads, thread.Emits Call.handed Ieee80211.rxBa
    (if thread.op.delivers then todo else [])

namespace ReorderSound

variable {config : ReorderConfig} {deliveries : Deliveries} {todo : List Skb}

theorem inOrder (sound : ReorderSound (config, deliveries) todo) :
    DeliversInOrder (config, deliveries) :=
  ⟨sound.invariant.ordered, ⟨todo, sound.split.symm⟩, sound.apart⟩

/-- The threads that deliver once an operation has started. -/
theorem delivering_start (config : ReorderConfig) (op : ReorderOp) (answers : List Answer) :
    let ended := op.program.block config.state answers
    ReorderConfig.delivering ⟨ended.1, config.threads ++ ended.2.threads op⟩ =
      config.delivering ++ if op.begins config.state then ended.2.threads op else [] := by
  intro ended
  have own : (ended.2.threads op).filter (fun thread => thread.op.delivers) =
      if op.begins config.state then ended.2.threads op else [] := by
    cases begins : op.begins config.state
    · refine List.filter_eq_nil_iff.mpr fun thread member delivers => ?_
      rw [Prog.Outcome.op_of_threads member] at delivers
      rw [op.threads_of_idle begins delivers answers] at member
      cases member
    · refine List.filter_eq_self.mpr fun thread member => ?_
      rw [Prog.Outcome.op_of_threads member]
      exact ReorderOp.delivers_of_begins begins
  rw [← own]
  exact List.filter_append ..

/-- What a thread has in hand if no other delivers. -/
theorem emits_nil (sound : ReorderSound (config, deliveries) todo)
    {thread : Thread Ieee80211 Call Answer ReorderOp IOReturn} (member : thread ∈ config.threads)
    (none : config.delivering = []) :
    thread.op.delivers = false ∧ thread.Emits Call.handed Ieee80211.rxBa [] := by
  have silent := List.filter_eq_nil_iff.mp none thread member
  have emits := sound.threads thread member
  rw [if_neg silent] at emits
  exact ⟨by simpa using silent, emits⟩

/-- An operation starts. -/
theorem start (sound : ReorderSound (config, deliveries) todo) {op : ReorderOp}
    {answers : List Answer} (enabled : reordering.enabled op config.state)
    (oneAtATime : op.begins config.state = true → config.delivering = []) :
    let ended := op.program.block config.state answers
    ∃ rest, ReorderSound (⟨ended.1, config.threads ++ ended.2.threads op⟩,
      deliveries.after ⟨op, none, ended.2.stop⟩ config.state) rest := by
  intro ended
  have delivering := delivering_start config op answers
  have apart : (ReorderConfig.delivering
      ⟨ended.1, config.threads ++ ended.2.threads op⟩).length ≤ 1 := by
    rw [delivering]
    split
    · rename_i begins
      rw [oneAtATime begins]
      exact Prog.Outcome.length_threads_le _ op
    · rw [List.append_nil]
      exact sound.apart
  have begun : ∀ thread ∈ ended.2.threads op, op.delivers = true →
      op.begins config.state = true := by
    intro thread member delivers
    by_contra idle
    rw [op.threads_of_idle (by simpa using idle) delivers answers] at member
    cases member
  cases found : op.section? config.state with
  | none =>
      obtain ⟨same, silent⟩ := op.block_of_none found enabled answers
      have noted : deliveries.after ⟨op, none, ended.2.stop⟩ config.state = deliveries := by
        simp [Deliveries.after, found]
      rw [noted]
      refine ⟨todo, same.trans sound.table, sound.invariant, sound.split, apart, ?_, ?_⟩
      · intro nobody
        rw [delivering] at nobody
        exact sound.idle (List.append_eq_nil_iff.mp nobody).1
      · intro thread member
        rcases List.mem_append.mp member with old | new
        · exact sound.threads thread old
        · rw [Prog.Outcome.op_of_threads new]
          split
          · rename_i delivers
            rw [sound.idle (oneAtATime (begun thread new delivers))]
            exact silent thread new
          · exact silent thread new
  | some inside =>
      obtain ⟨table, hands⟩ := op.block_of_section found answers
      obtain ⟨rest, split, done, goesOn⟩ := hands.threads op
      obtain ⟨frames, skbs⟩ := deliveries.run.frames_step inside
      have state : config.state.rxBa = deliveries.run.frames := sound.table
      rw [state] at table split
      have noted : deliveries.after ⟨op, none, ended.2.stop⟩ config.state =
          ⟨deliveries.run.step inside,
            deliveries.handed ++ ended.2.stop.emitted Call.handed⟩ := by
        simp [Deliveries.after, found]
      rw [noted]
      cases begins : op.begins config.state
      · have nothing := op.out_of_idle found begins
        rw [state] at nothing
        rw [nothing] at split skbs
        obtain ⟨silent, rfl⟩ := List.append_eq_nil_iff.mp split.symm
        refine ⟨todo, table.trans frames.symm, sound.invariant.step inside, ?_, apart, ?_, ?_⟩
        · rw [skbs, List.append_nil, silent, List.append_nil]
          exact sound.split
        · intro nobody
          rw [delivering] at nobody
          exact sound.idle (List.append_eq_nil_iff.mp nobody).1
        · intro thread member
          rcases List.mem_append.mp member with old | new
          · exact sound.threads thread old
          · rw [Prog.Outcome.op_of_threads new, if_neg fun delivers => ?_]
            · exact goesOn thread new
            · exact absurd (begun thread new delivers) (by simp [begins])
      · have nobody := oneAtATime begins
        have caughtUp := sound.split
        rw [sound.idle nobody, List.append_nil] at caughtUp
        refine ⟨rest, table.trans frames.symm, sound.invariant.step inside, ?_, apart, ?_, ?_⟩
        · rw [skbs, split, ← List.append_assoc]
          exact congrArg (· ++ _ ++ rest) caughtUp
        · intro alone
          rw [delivering, nobody, if_pos begins] at alone
          exact done alone
        · intro thread member
          rcases List.mem_append.mp member with old | new
          · obtain ⟨silent, emits⟩ := sound.emits_nil old nobody
            rw [if_neg (by simpa using silent)]
            exact emits
          · rw [Prog.Outcome.op_of_threads new, if_pos (op.delivers_of_begins begins)]
            exact goesOn thread new

/-- A thread goes on. -/
theorem resume {state : Ieee80211} {before after : List (Thread Ieee80211 Call Answer ReorderOp
      IOReturn)} {thread : Thread Ieee80211 Call Answer ReorderOp IOReturn}
    (sound : ReorderSound (⟨state, before ++ thread :: after⟩, deliveries) todo)
    (answer : Answer) (answers : List Answer) :
    let ended := (thread.next answer).block state answers
    ∃ rest, ReorderSound (⟨ended.1, before ++ ended.2.threads thread.op ++ after⟩,
      deliveries.after ⟨thread.op, some (thread.request, answer), ended.2.stop⟩ state) rest := by
  intro ended
  have mine := sound.threads thread (by simp)
  obtain ⟨table, hands⟩ := ((mine answer).handsOver state).block answers
  obtain ⟨rest, split, done, goesOn⟩ := hands.threads thread.op
  have was : ReorderConfig.delivering ⟨state, before ++ thread :: after⟩ =
      before.filter (fun thread => thread.op.delivers) ++
        ((if thread.op.delivers then [thread] else []) ++
          after.filter fun thread => thread.op.delivers) := by
    unfold ReorderConfig.delivering
    rw [List.filter_append, List.filter_cons]
    split <;> rfl
  have delivering : ReorderConfig.delivering
      ⟨ended.1, before ++ ended.2.threads thread.op ++ after⟩ =
      before.filter (fun thread => thread.op.delivers) ++
        ((if thread.op.delivers then ended.2.threads thread.op else []) ++
          after.filter fun thread => thread.op.delivers) := by
    have own : (ended.2.threads thread.op).filter (fun thread => thread.op.delivers) =
        if thread.op.delivers then ended.2.threads thread.op else [] := by
      split
      · refine List.filter_eq_self.mpr fun other member => ?_
        rwa [Prog.Outcome.op_of_threads member]
      · refine List.filter_eq_nil_iff.mpr fun other member => ?_
        rwa [Prog.Outcome.op_of_threads member]
    unfold ReorderConfig.delivering
    rw [List.filter_append, List.filter_append, own, List.append_assoc]
  have members : ∀ other ∈ before ++ ended.2.threads thread.op ++ after,
      other ∈ ended.2.threads thread.op ∨ other ∈ before ∨ other ∈ after := by
    simp only [List.mem_append]
    tauto
  have others : ∀ other, other ∈ before ∨ other ∈ after → other ∈ before ++ thread :: after := by
    simp only [List.mem_append, List.mem_cons]
    tauto
  have counted := sound.apart
  rw [was] at counted
  cases delivers : thread.op.delivers
  · rw [delivers, if_neg (by simp)] at split counted
    obtain ⟨silent, rfl⟩ := List.append_eq_nil_iff.mp split.symm
    have handed : deliveries.handed ++ ended.2.stop.emitted Call.handed = deliveries.handed :=
      (congrArg (deliveries.handed ++ ·) silent).trans (List.append_nil _)
    have same : ReorderConfig.delivering
        ⟨ended.1, before ++ ended.2.threads thread.op ++ after⟩ =
        ReorderConfig.delivering ⟨state, before ++ thread :: after⟩ := by
      rw [delivering, was, delivers]
      rfl
    refine ⟨todo, table.trans sound.table, sound.invariant, ?_, ?_, ?_, ?_⟩
    · exact sound.split.trans (congrArg (· ++ todo) handed.symm)
    · exact same ▸ sound.apart
    · exact fun nobody => sound.idle (same ▸ nobody)
    · intro other member
      rcases members other member with new | old
      · rw [Prog.Outcome.op_of_threads new, delivers]
        exact goesOn other new
      · exact sound.threads other (others other old)
  · rw [delivers, if_pos rfl] at split counted
    have alone : before.filter (fun thread => thread.op.delivers) = [] ∧
        after.filter (fun thread => thread.op.delivers) = [] := by
      simp only [List.length_append, List.length_singleton] at counted
      exact ⟨List.length_eq_zero_iff.mp (by omega), List.length_eq_zero_iff.mp (by omega)⟩
    rw [alone.1, alone.2, delivers, if_pos rfl, List.nil_append, List.append_nil] at delivering
    refine ⟨rest, table.trans sound.table, sound.invariant, ?_, ?_, ?_, ?_⟩
    · have handed := sound.split
      rw [split] at handed
      exact handed.trans (List.append_assoc ..).symm
    · exact (congrArg List.length delivering).trans_le
        (Prog.Outcome.length_threads_le ended.2 thread.op)
    · exact fun none => done (delivering.symm.trans none)
    · intro other member
      rcases members other member with new | old
      · rw [Prog.Outcome.op_of_threads new, delivers]
        exact goesOn other new
      · have silent : ¬ other.op.delivers = true := by
          rcases old with early | late
          · exact List.filter_eq_nil_iff.mp alone.1 other early
          · exact List.filter_eq_nil_iff.mp alone.2 other late
        have emits := sound.threads other (others other old)
        rw [if_neg silent] at emits ⊢
        exact emits

end ReorderSound

theorem alwaysInOrder_oneAtATime (s : Ieee80211) : AlwaysInOrder OneAtATime s := by
  rintro ⟨attached, -, rfl⟩ now run
  have initially : ReorderSound (⟨.started attached, []⟩, ⟨.initial, []⟩) [] := by
    refine ⟨rfl, RxBaRun.invariant_initial, rfl, Nat.zero_le _, fun _ => rfl, ?_⟩
    exact fun _ member => absurd member List.not_mem_nil
  obtain ⟨todo, sound⟩ : ∃ todo, ReorderSound now todo := by
    refine run.invariant (fun now => ∃ todo, ReorderSound now todo) ⟨[], initially⟩ ?_
    rintro config deliveries move config' ⟨todo, sound⟩ allowed taken
    cases taken with
    | start op answers enabled => exact sound.start enabled (allowed rfl)
    | resume state before after thread answer answers _ => exact sound.resume answer answers
  exact sound.inOrder

namespace Scenario

/-- The station is connected to the access point. -/
def connectedToAp : Ieee80211 :=
  { Ieee80211.started attachment with
    state := .connected
    targetBSS := { Bss.empty with bssid := apAddr } }

/-- A data frame of the access point for TID 0 with this sequence number. -/
def qosData (sn : Nat) : Skb where
  id := sn
  data := le16 0x0288 ++ [0, 0] ++ ownAddr ++ apAddr ++ apAddr ++ le16 (16 * sn) ++ [0, 0] ++
    [0xaa, 0xaa, 3, 0, 0, 0, 8, 0, 0x45]
  signal := -50
  freq := 2412
  band := 0

/-- While the frame 0 is delivered, and 1 waits behind it, the reorder timer delivers 3. -/
def timerOvertakes : List (Turn Answer ReorderOp) :=
  [.start (.elsewhere connectedToAp) [], .start (.rxBaSetup 0 0 64 true) [],
    .start (.rxFrame (qosData 1)) [], .start (.rxFrame (qosData 3)) [],
    .start (.rxFrame (qosData 0)) [], .start .reorderTimerFired []] ++
    List.replicate 3 (.resume 0 default [])

/-- The frames in the order of their release and in that of their delivery. -/
def frameOvertaken : Option (List Nat × List Nat) := do
  let (_, deliveries) ← reordering.playObserved Deliveries.after
    (⟨.started attachment, []⟩, ⟨.initial, []⟩) timerOvertakes
  return (deliveries.run.skbs.map Skb.id, deliveries.handed.map Skb.id)

theorem frameOvertaken_eq : frameOvertaken = some ([0, 1, 3], [0, 3, 1]) := by
  decide +kernel

end Scenario

/-- The reorder timer delivers a frame before one that was released earlier. -/
theorem not_alwaysInOrder : ¬ ∀ s, AlwaysInOrder (fun _ _ => True) s := by
  intro inOrder
  have run := Scenario.frameOvertaken_eq
  simp only [Scenario.frameOvertaken, Option.bind_eq_bind, Option.bind_eq_some_iff, Prod.exists,
    Option.pure_def, Option.some.injEq, Prod.mk.injEq] at run
  obtain ⟨config, deliveries, played, released, handed⟩ := run
  have reached : reordering.Observed Deliveries.after (fun _ _ => True) _ (config, deliveries) :=
    System.observed_of_play played fun _ _ => trivial
  have before := (inOrder _ ⟨Scenario.attachment, rfl, rfl⟩ _ reached).handed.map Skb.id
  exact absurd (handed ▸ released ▸ before) (by decide)

end AirportRtw88
