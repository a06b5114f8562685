import AirportRtw88.RxReorderInvariant
import AirportRtw88.System
import AirportRtw88.Interleave.Ownership
import Mathlib.Algebra.BigOperators.Group.Finset.Basic
import Mathlib.Algebra.Order.Group.Multiset

/-!
# The ledger of received buffers

A received buffer is settled when it is freed or in a slot of a reorder buffer.  The critical
sections of the reorder buffers lose and duplicate none, and every function but those that are
handed received buffers leaves the ledger alone.
-/

namespace AirportRtw88

open Interleave Bytes

variable {α : Type}

/-! ## The reorder buffers -/

/-- What came out of a buffer, and what is still in its slots. -/
def Draining.contents (d : Draining α) : Multiset α :=
  d.out + d.reorder.frames

namespace Draining

theorem contents_release {d : Draining α} {skb : α}
    (occupied : d.reorder.buf (slotOf d.reorder.headSn) = some skb) :
    (d.release skb).contents = d.contents := by
  have split : (d.reorder.frames : Multiset α) = skb ::ₘ d.reorder.clearHead.frames :=
    Multiset.coe_eq_coe.mpr (RxReorder.frames_clearHead occupied)
  calc (d.release skb).contents
      = (d.out ++ [skb] : List α) + (d.reorder.clearHead.frames : Multiset α) := rfl
    _ = d.contents := by
        rw [contents, split, ← Multiset.coe_add, Multiset.coe_singleton, add_assoc,
          Multiset.singleton_add]

theorem contents_store {d : Draining α} {sn : Nat} (skb : α)
    (free : d.reorder.buf (slotOf sn) = none) :
    (d.store sn skb).contents = {skb} + d.contents := by
  have split : ((d.reorder.store sn skb).frames : Multiset α) = skb ::ₘ d.reorder.frames :=
    Multiset.coe_eq_coe.mpr (RxReorder.frames_store skb free)
  calc (d.store sn skb).contents
      = (d.out : Multiset α) + (d.reorder.store sn skb).frames := rfl
    _ = {skb} + d.contents := by
        rw [split, contents, ← Multiset.singleton_add, add_left_comm]

theorem contents_slide (newHead fuel : Nat) (d : Draining α) :
    (slide newHead fuel d).contents = d.contents := by
  induction fuel generalizing d with
  | zero => rfl
  | succ fuel ih =>
      unfold slide
      split
      · split
        · rename_i skb occupied
          rw [ih, contents_release occupied]
        · exact ih _
      · rfl

theorem contents_releaseRun (fuel : Nat) (d : Draining α) :
    (releaseRun fuel d).contents = d.contents := by
  induction fuel generalizing d with
  | zero => rfl
  | succ fuel ih =>
      unfold releaseRun
      split
      · split
        · rename_i skb occupied
          rw [ih, contents_release occupied]
        · rfl
      · rfl

end Draining

theorem RxReorder.frames_skipHoles (guard : Nat) (r : RxReorder α) :
    (r.skipHoles guard).frames = r.frames := by
  induction guard generalizing r with
  | zero => rfl
  | succ guard ih =>
      unfold skipHoles
      split
      · split
        · rfl
        · exact ih _
      · rfl

theorem RxReorder.contents_slideFor (r : RxReorder α) (sn : Nat) :
    (r.slideFor sn).contents = r.frames := by
  unfold slideFor
  split
  · rw [Draining.contents_slide]
    simp [Draining.contents]
  · simp [Draining.contents]

/-- The frames in the slots of all buffers. -/
def RxBaTable.held (table : RxBaTable α) : Multiset α :=
  ∑ tid, ((table tid).elim [] RxReorder.frames : List α)

theorem RxBaTable.held_update (table : RxBaTable α) (tid : Fin kRxBaNumTid)
    (buffer : Option (RxReorder α)) :
    held (Function.update table tid buffer) + ((table tid).elim [] RxReorder.frames : List α) =
      table.held + (buffer.elim [] RxReorder.frames : List α) := by
  have others : ∀ other ∈ Finset.univ.erase tid,
      (((Function.update table tid buffer other).elim [] RxReorder.frames : List α) :
        Multiset α) = ((table other).elim [] RxReorder.frames : List α) := by
    intro other member
    rw [Function.update_of_ne (Finset.ne_of_mem_erase member)]
  unfold held
  rw [← Finset.add_sum_erase _ _ (Finset.mem_univ tid), Finset.sum_congr rfl others,
    Function.update_self, ← Finset.add_sum_erase _ _ (Finset.mem_univ tid)]
  abel

/-- One buffer is replaced. -/
theorem RxBaTable.held_replace {table : RxBaTable α} {tid : Fin kRxBaNumTid}
    {old new : Option (RxReorder α)} {gone come : Multiset α} (found : table tid = old)
    (same : gone + (new.elim [] RxReorder.frames : List α) =
      come + (old.elim [] RxReorder.frames : List α)) :
    gone + held (Function.update table tid new) = come + table.held := by
  have moved := held_update table tid new
  rw [found] at moved
  refine add_right_cancel (b := ((old.elim [] RxReorder.frames : List α) : Multiset α)) ?_
  rw [add_assoc, moved, add_left_comm, same]
  abel

/-- What a critical section puts out, frees and keeps. -/
def RxBaOutcome.contents (outcome : RxBaOutcome α) : Multiset α :=
  outcome.out + outcome.freed + outcome.table.held

theorem contents_rxBaSetup (table : RxBaTable α) (tid ssn bufsize : Nat) (allocated : Bool) :
    (rxBaSetup table tid ssn bufsize allocated).contents = table.held := by
  unfold rxBaSetup
  split
  · rename_i inside
    dsimp only
    cases found : table ⟨tid, inside⟩ with
    | some r =>
        refine (RxBaTable.held_replace found ?_).trans (zero_add _)
        simp
    | none =>
        cases allocated
        · simp [RxBaOutcome.contents]
        · refine (RxBaTable.held_replace found ?_).trans (zero_add _)
          simp
  · simp [RxBaOutcome.contents]

theorem contents_rxBaTeardown (table : RxBaTable α) (tid : Nat) :
    (rxBaTeardown table tid).contents = table.held := by
  unfold rxBaTeardown
  split
  · rename_i inside
    dsimp only
    cases found : table ⟨tid, inside⟩ with
    | some r =>
        refine (RxBaTable.held_replace found ?_).trans (zero_add _)
        simp
    | none => simp [RxBaOutcome.contents]
  · simp [RxBaOutcome.contents]

theorem contents_rxReorderInput (table : RxBaTable α) (tid : Fin kRxBaNumTid) (skb : α)
    (sn : Nat) : (rxReorderInput table tid skb sn).contents = {skb} + table.held := by
  unfold rxReorderInput
  cases found : table tid with
  | none => simp [RxBaOutcome.contents]
  | some r =>
      dsimp only
      split
      · simp [RxBaOutcome.contents]
      split
      · simp [RxBaOutcome.contents]
      have slid := r.contents_slideFor sn
      cases taken : (r.slideFor sn).reorder.buf (slotOf sn) with
      | some other =>
          have run := (r.slideFor sn).contents_releaseRun kRxBaMaxBuf
          refine RxBaTable.held_replace found ?_
          calc _ = {skb} + ((r.slideFor sn).releaseRun kRxBaMaxBuf).contents := by
                rw [Draining.contents, add_left_comm, ← add_assoc]
                rfl
            _ = {skb} + (r.frames : Multiset α) := by rw [run, slid]
      | none =>
          have run := ((r.slideFor sn).store sn skb).contents_releaseRun kRxBaMaxBuf
          refine RxBaTable.held_replace found ?_
          calc _ = (((r.slideFor sn).store sn skb).releaseRun kRxBaMaxBuf).contents := by
                rw [Draining.contents]
                simp
            _ = {skb} + (r.frames : Multiset α) := by
                rw [run, Draining.contents_store skb taken, slid]

theorem contents_flushTid (current : RxBaOutcome α) (tid : Fin kRxBaNumTid) :
    (flushTid current tid).contents = current.contents := by
  unfold flushTid
  cases found : current.table tid with
  | none => rfl
  | some r =>
      dsimp only
      split
      · rfl
      have run := (Draining.mk (r.skipHoles 4096) current.out).contents_releaseRun kRxBaMaxBuf
      rw [Draining.contents, Draining.contents, RxReorder.frames_skipHoles] at run
      refine RxBaTable.held_replace found ?_
      calc _ = (_ : Multiset α) + (current.freed : Multiset α) := add_right_comm _ _ _
        _ = (current.out : Multiset α) + r.frames + current.freed := by rw [← run]; rfl
        _ = _ := add_right_comm _ _ _

theorem contents_rxReorderFlushStale (table : RxBaTable α) :
    (rxReorderFlushStale table).contents = table.held := by
  have flushes : ∀ (tids : List (Fin kRxBaNumTid)) (current : RxBaOutcome α),
      (tids.foldl flushTid current).contents = current.contents := by
    intro tids
    induction tids with
    | nil => exact fun _ => rfl
    | cons tid tids ih => exact fun current => (ih _).trans (contents_flushTid current tid)
  unfold rxReorderFlushStale
  rw [flushes]
  simp [RxBaOutcome.contents]

theorem out_rxBaSetup (table : RxBaTable α) (tid ssn bufsize : Nat) (allocated : Bool) :
    (rxBaSetup table tid ssn bufsize allocated).out = [] := by
  unfold rxBaSetup
  split
  · dsimp only
    split
    · rfl
    · split <;> rfl
  · rfl

theorem out_rxBaTeardown (table : RxBaTable α) (tid : Nat) :
    (rxBaTeardown table tid).out = [] := by
  unfold rxBaTeardown
  split
  · dsimp only
    split <;> rfl
  · rfl

/-! ## The ledger -/

namespace Ieee80211

/-- The received buffers that were freed or that are in a slot. -/
def receivedSkbs (s : Ieee80211) : Multiset Skb :=
  s.freedSkbs + s.rxBa.held

/-- What a critical section puts out was in a slot, or in hand. -/
theorem receivedSkbs_leaveRxBa (s : Ieee80211) {outcome : RxBaOutcome Skb} {hand : Multiset Skb}
    (contents : outcome.contents = hand + s.rxBa.held) :
    (s.leaveRxBa outcome).receivedSkbs + outcome.out = s.receivedSkbs + hand := by
  have freed : ((s.leaveRxBa outcome).freedSkbs : Multiset Skb) = outcome.freed + s.freedSkbs := by
    rw [← Multiset.coe_reverse outcome.freed]
    rfl
  calc (s.leaveRxBa outcome).receivedSkbs + outcome.out
      = outcome.freed + s.freedSkbs + outcome.table.held + outcome.out := by
        rw [receivedSkbs, freed]
        rfl
    _ = s.freedSkbs + outcome.contents := by
        rw [RxBaOutcome.contents]
        abel
    _ = s.receivedSkbs + hand := by
        rw [contents, receivedSkbs]
        abel

/-- The ledger stays as it was, and no frame enters a slot. -/
structure KeepsSkbs (before after : Ieee80211) : Prop where
  received : after.receivedSkbs = before.receivedSkbs
  held : after.rxBa.held ≤ before.rxBa.held

theorem KeepsSkbs.trans {s s' s'' : Ieee80211} (first : KeepsSkbs s s')
    (later : KeepsSkbs s' s'') : KeepsSkbs s s'' :=
  ⟨later.received.trans first.received, later.held.trans first.held⟩

/-- A critical section that puts nothing out leaves the ledger alone. -/
theorem keepsSkbs_of_out {s : Ieee80211} {outcome : RxBaOutcome Skb} (out : outcome.out = [])
    (contents : outcome.contents = s.rxBa.held) : KeepsSkbs s (s.leaveRxBa outcome) := by
  have same := s.receivedSkbs_leaveRxBa (contents.trans (zero_add _).symm)
  rw [out, Multiset.coe_nil, add_zero, add_zero] at same
  exact ⟨same, contents ▸ Multiset.le_add_left _ _⟩

theorem keepsSkbs_rxBaTeardown (s : Ieee80211) (tid : Nat) : KeepsSkbs s (s.rxBaTeardown tid) :=
  keepsSkbs_of_out (out_rxBaTeardown _ _) (contents_rxBaTeardown _ _)

theorem keepsSkbs_rxBaTeardownAll (s : Ieee80211) : KeepsSkbs s s.rxBaTeardownAll := by
  have sweeps : ∀ (tids : List Nat) (s : Ieee80211),
      KeepsSkbs s (tids.foldl rxBaTeardown s) := by
    intro tids
    induction tids with
    | nil => exact fun _ => ⟨rfl, le_rfl⟩
    | cons tid tids ih => exact fun s => (s.keepsSkbs_rxBaTeardown tid).trans (ih _)
  obtain ⟨received, held⟩ := sweeps (List.range kRxBaNumTid) s
  refine ⟨?_, held⟩
  unfold receivedSkbs at received ⊢
  exact received

end Ieee80211

namespace M

open Ieee80211 Prog

/-- The function settles no received buffer. -/
abbrev LeavesSkbs {α : Type} (program : M α) : Prop :=
  program.Keeps KeepsSkbs

theorem perform_keeps {keeps : Ieee80211 → Ieee80211 → Prop} (call : Call) :
    (perform call).Keeps keeps :=
  .bind (.await call) fun _ => .ret ()

theorem succeeds_keeps {keeps : Ieee80211 → Ieee80211 → Prop} : succeeds.Keeps keeps :=
  .bind .choose fun _ => .ret _

theorem copies_keeps {keeps : Ieee80211 → Ieee80211 → Prop} (payload : Bytes) :
    (copies payload).Keeps keeps :=
  .ite (.ret _) succeeds_keeps

theorem authenticationCancelled_keeps {keeps : Ieee80211 → Ieee80211 → Prop}
    (check : CancelCheck) : (authenticationCancelled check).Keeps keeps :=
  .bind .fetch fun _ => .bind (perform_keeps _) fun _ => .ret _

theorem submit_leavesSkbs (site : TxSite) (skb : TxSkb) : LeavesSkbs (submit site skb) :=
  .bind (.update fun _ => ⟨rfl, le_rfl⟩) fun _ => perform_keeps _

/-! ### Keys and the peer station -/

theorem clearKeys_leavesSkbs : LeavesSkbs clearKeys := by
  have disables : ∀ pairwise, LeavesSkbs (disableKey pairwise) := fun pairwise =>
    .bind .fetch fun s => .whenSome fun key => perform_keeps _
  refine .bind .fetch fun s => .bind (.when ?_) fun _ => .update fun _ => ⟨rfl, le_rfl⟩
  exact .bind (disables true) fun _ => disables false

theorem releaseSta_leavesSkbs : LeavesSkbs releaseSta := by
  refine .bind .fetch fun s => .when (.bind (.when (perform_keeps _)) fun _ => ?_)
  exact .update fun s =>
    ⟨s.forgetSta.keepsSkbs_rxBaTeardownAll.received, s.forgetSta.keepsSkbs_rxBaTeardownAll.held⟩

theorem installKey_leavesSkbs (pairwise : Bool) (keyidx : UInt8) (cipher : Nat)
    (tk : Ieee80211 → Bytes) (tkLen : Nat) :
    LeavesSkbs (installKey pairwise keyidx cipher tk tkLen) := by
  refine .bind .fetch fun s => .ite (.ret _) (.bind (.whenSome fun old => ?_) fun _ => ?_)
  · exact .bind (perform_keeps _) fun _ => .update fun _ => ⟨rfl, le_rfl⟩
  · refine .bind succeeds_keeps fun allocated => .ite (.ret _) (.bind .fetch fun s => ?_)
    refine .bind (.await _) fun answer => .ite (.ret _) ?_
    exact .bind (.update fun _ => ⟨rfl, le_rfl⟩) fun _ => .ret _

/-! ### Transmission -/

theorem txMgmtFrame_leavesSkbs (site : TxSite) (frame : Bytes) :
    LeavesSkbs (txMgmtFrame site frame) := by
  refine .bind .fetch fun s => .ite (.ret _) (.bind succeeds_keeps fun built => ?_)
  exact .ite (.ret _) (.bind (submit_leavesSkbs _ _) fun _ => .ret _)

theorem dropMbuf_leavesSkbs (m : Mbuf) : LeavesSkbs (dropMbuf m) :=
  .bind (.update fun _ => ⟨rfl, le_rfl⟩) fun _ => .ret _

theorem allocSkb_leavesSkbs : LeavesSkbs allocSkb := by
  refine .bind .fetch fun s => .bind succeeds_keeps fun built => .ite ?_ (.ret _)
  exact .bind (.update fun _ => ⟨rfl, le_rfl⟩) fun _ => .ret _

theorem txNullFunc_leavesSkbs (powerSave : Bool) : LeavesSkbs (txNullFunc powerSave) := by
  refine .bind .fetch fun s => .ite (.ret _) (.bind succeeds_keeps fun built => ?_)
  refine .ite (.ret _) (.bind (.update fun _ => ⟨rfl, le_rfl⟩) fun _ => ?_)
  exact .bind (submit_leavesSkbs _ _) fun _ => .ret _

theorem txProbeRequest_leavesSkbs : LeavesSkbs txProbeRequest := by
  refine .bind .fetch fun s => .ite (.ret _) (.bind (.update fun _ => ⟨rfl, le_rfl⟩) fun _ => ?_)
  exact txMgmtFrame_leavesSkbs _ _

theorem sendAddbaRequest_leavesSkbs (tid : Nat) : LeavesSkbs (sendAddbaRequest tid) := by
  refine .bind .fetch fun s => .bind (.update fun _ => ⟨rfl, le_rfl⟩) fun _ =>
    .bind (.update fun _ => ⟨rfl, le_rfl⟩) ?_
  exact fun _ => .bind .fetch fun _ => .bind (txMgmtFrame_leavesSkbs _ _) fun _ => .ret _

theorem startTxAggregation_leavesSkbs : LeavesSkbs startTxAggregation :=
  .bind .fetch fun _ => .when (sendAddbaRequest_leavesSkbs _)

theorem sendAddbaResponse_leavesSkbs (tid dialog reqParam baTimeout : Nat) :
    LeavesSkbs (sendAddbaResponse tid dialog reqParam baTimeout) := by
  refine .bind .fetch fun s => .bind (.update fun _ => ⟨rfl, le_rfl⟩) fun _ => ?_
  exact .bind (txMgmtFrame_leavesSkbs _ _) fun _ => .ret _

theorem txAWDLDataFrame_leavesSkbs (m : Mbuf) : LeavesSkbs (txAWDLDataFrame m) := by
  refine .bind .fetch fun s => .ite (dropMbuf_leavesSkbs m) (.ite (dropMbuf_leavesSkbs m) ?_)
  refine .bind succeeds_keeps fun copied => .ite (dropMbuf_leavesSkbs m) ?_
  refine .bind allocSkb_leavesSkbs fun skb => ?_
  cases skb with
  | none => exact dropMbuf_leavesSkbs m
  | some number =>
      refine .bind (.update fun _ => ⟨rfl, le_rfl⟩) fun _ => .bind (copies_keeps _) fun copied => ?_
      refine .ite (.bind (.update fun _ => ⟨rfl, le_rfl⟩) fun _ => dropMbuf_leavesSkbs m) ?_
      refine .bind (.update fun _ => ⟨rfl, le_rfl⟩) fun _ =>
        .bind (submit_leavesSkbs _ _) fun _ => ?_
      exact .bind (.update fun _ => ⟨rfl, le_rfl⟩) fun _ => .ret _

theorem txDataFrame_leavesSkbs (m : Mbuf) : LeavesSkbs (txDataFrame m) := by
  refine .bind .fetch fun s => .ite (dropMbuf_leavesSkbs m) (.ite (dropMbuf_leavesSkbs m) ?_)
  refine .bind succeeds_keeps fun copied => .ite (dropMbuf_leavesSkbs m) ?_
  refine .bind allocSkb_leavesSkbs fun skb => ?_
  cases skb with
  | none => exact dropMbuf_leavesSkbs m
  | some number =>
      refine .bind (.update fun _ => ⟨rfl, le_rfl⟩) fun _ => .bind .fetch fun s => ?_
      refine .bind (.update fun _ => ⟨rfl, le_rfl⟩) fun _ => .bind (copies_keeps _) fun copied => ?_
      refine .ite (.bind (.update fun _ => ⟨rfl, le_rfl⟩) fun _ => dropMbuf_leavesSkbs m) ?_
      refine .bind (.update fun _ => ⟨rfl, le_rfl⟩) fun _ =>
        .bind (submit_leavesSkbs _ _) fun _ => ?_
      exact .bind (.update fun _ => ⟨rfl, le_rfl⟩) fun _ => .ret _

theorem txRawManagementFrame_leavesSkbs (frame : Bytes) :
    LeavesSkbs (txRawManagementFrame frame) :=
  .ite (.ret _) (.ite (.ret _) (txMgmtFrame_leavesSkbs _ _))

theorem outputPacket_leavesSkbs (m : Mbuf) : LeavesSkbs (outputPacket m) := by
  refine .bind .fetch fun s => .ite (.bind (.update fun _ => ⟨rfl, le_rfl⟩) fun _ => .ret _) ?_
  exact .bind (txDataFrame_leavesSkbs m) fun _ => .ite (.ret _) (.ret _)

/-! ### The handshake -/

theorem sendEAPOLKey_leavesSkbs (step : Nat) (replayCounter : Bytes) (install ack mic : Bool) :
    LeavesSkbs (sendEAPOLKey step replayCounter install ack mic) := by
  refine .bind .fetch fun s => .bind succeeds_keeps fun allocated => .when ?_
  exact .bind (txDataFrame_leavesSkbs _) fun _ => .ret _

theorem completeHandshake_leavesSkbs : LeavesSkbs completeHandshake := by
  refine .bind .fetch fun s => .bind (sendEAPOLKey_leavesSkbs _ _ _ _ _) fun _ => ?_
  refine .bind (.update fun _ => ⟨rfl, le_rfl⟩) fun _ => .bind .fetch fun s => ?_
  exact .bind (.when (perform_keeps _)) fun _ => startTxAggregation_leavesSkbs

theorem handleM1_leavesSkbs (data : Bytes) : LeavesSkbs (handleM1 data) := by
  refine .bind .choose fun random => .bind (.update fun _ => ⟨rfl, le_rfl⟩) fun _ =>
    .bind .fetch fun s => ?_
  exact .bind (sendEAPOLKey_leavesSkbs _ _ _ _ _) fun _ => .update fun _ => ⟨rfl, le_rfl⟩

theorem eapolMicOk_leavesSkbs (kck eapol : Bytes) : LeavesSkbs (eapolMicOk kck eapol) :=
  .ite (.ret _) (.bind succeeds_keeps fun _ => .ite (.ret _) (.ret _))

theorem installHandshakeKeys_leavesSkbs (gtk : Option GtkKde) :
    LeavesSkbs (installHandshakeKeys gtk) := by
  refine .bind (installKey_leavesSkbs _ _ _ _ _) fun installed => .when (.bind .fetch fun s => ?_)
  dsimp only
  cases gtk.filter fun kde => kde.gtk ≠ [] with
  | none => exact completeHandshake_leavesSkbs
  | some kde =>
      refine .bind (installKey_leavesSkbs _ _ _ _ _) fun grouped => .when ?_
      exact completeHandshake_leavesSkbs

theorem handleEAPOL_leavesSkbs (data : Bytes) : LeavesSkbs (handleEAPOL data) := by
  have accepts : LeavesSkbs (handleM3 data) := by
    refine .bind .fetch fun s => .bind (eapolMicOk_leavesSkbs _ _) fun verified => .when ?_
    refine .whenSome fun keyData => .bind (.update fun _ => ⟨rfl, le_rfl⟩) fun _ => ?_
    exact installHandshakeKeys_leavesSkbs _
  exact .when (.ite (handleM1_leavesSkbs data) (.when accepts))

/-! ### Scans -/

theorem restoreConnectedChannel_leavesSkbs : LeavesSkbs restoreConnectedChannel := by
  refine .bind .fetch fun s => .when ?_
  refine .bind (.whenSome fun chan => .update fun _ => ⟨rfl, le_rfl⟩) fun _ => ?_
  exact .bind (perform_keeps _) fun _ => .update fun _ => ⟨rfl, le_rfl⟩

theorem abortActiveScan_leavesSkbs (waitForIdle : Bool) :
    LeavesSkbs (abortActiveScan waitForIdle) := by
  have waits : ∀ rounds, LeavesSkbs (waitForScan rounds) := by
    intro rounds
    induction rounds with
    | zero => exact .ret ()
    | succ rounds ih =>
        exact .bind .fetch fun s => .when (.bind (perform_keeps _) fun _ => ih)
  have leaves : ∀ returnState, LeavesSkbs (leaveAbortedScan returnState) := by
    refine fun returnState => .bind .fetch fun s => .ite (.ite (.ret _) ?_) (.ret _)
    refine .bind (.when restoreConnectedChannel_leavesSkbs) fun _ => ?_
    exact .bind (.update fun _ => ⟨rfl, le_rfl⟩) fun _ => .bind .fetch fun _ => .ret _
  have rest : ∀ returnState, LeavesSkbs (if !waitForIdle then pure true else do
      waitForScan 40
      leaveAbortedScan returnState) := fun returnState =>
    .ite (.ret _) (.bind (waits 40) fun _ => leaves returnState)
  refine .bind .fetch fun s => .ite (.ret _) (.ite
    (.bind (.update fun _ => ⟨rfl, le_rfl⟩) fun _ => ?_) ?_)
  · exact rest s.scanReturnState
  · exact .bind (.when (perform_keeps _)) fun _ => rest s.scanReturnState

theorem setAWDLChannel_leavesSkbs (channel : Nat) : LeavesSkbs (setAWDLChannel channel) := by
  refine .bind .fetch fun s => .ite (.ret _) (.bind (.update fun _ => ⟨rfl, le_rfl⟩) fun _ => ?_)
  refine .ite (.ret _) ?_
  split
  · exact .ret _
  · exact .bind (.update fun _ => ⟨rfl, le_rfl⟩) fun _ => .bind (perform_keeps _) fun _ => .ret _

theorem scanDone_leavesSkbs (aborted : Bool) : LeavesSkbs (scanDone aborted) := by
  refine .bind (.when (.update fun _ => ⟨rfl, le_rfl⟩)) fun _ => .bind ?_ fun _ => ?_
  · refine .bind .fetch fun s => .when ?_
    refine .bind (.when restoreConnectedChannel_leavesSkbs) fun _ => ?_
    refine .bind (.update fun _ => ⟨rfl, le_rfl⟩) fun _ => .bind .fetch fun s => .when ?_
    exact .bind (setAWDLChannel_leavesSkbs _) fun _ => .ret _
  · exact .bind .fetch fun s => .when (perform_keeps _)

theorem cmdScan_leavesSkbs : LeavesSkbs cmdScan := by
  have manual : ∀ channels, LeavesSkbs (startManualScan channels) := fun channels =>
    .bind (.update fun _ => ⟨rfl, le_rfl⟩) fun _ =>
      .bind (.update fun _ => ⟨rfl, le_rfl⟩) fun _ => .ret _
  have offloaded : ∀ channels, LeavesSkbs (startHwScan channels) := by
    refine fun channels => .bind (.update fun _ => ⟨rfl, le_rfl⟩) fun _ =>
      .bind (.await _) fun answer => ?_
    refine .ite (manual _) (.bind (.update fun _ => ⟨rfl, le_rfl⟩) fun _ => ?_)
    exact .bind (.update fun _ => ⟨rfl, le_rfl⟩) fun _ => .ret _
  have refuses : ∀ returnState reason, LeavesSkbs (refuseScan returnState reason) :=
    fun returnState reason => .bind (.update fun _ => ⟨rfl, le_rfl⟩) fun _ => .ret _
  have starts : ∀ returnState, LeavesSkbs (startScan returnState) := by
    refine fun returnState => .bind .fetch fun s => .ite (refuses _ _) ?_
    refine .bind succeeds_keeps fun offload => .ite ?_ (offloaded _)
    exact .bind (.update fun _ => ⟨rfl, le_rfl⟩) fun _ => manual _
  refine .bind .fetch fun s => .ite (.ret _) (.ite (.ret _)
    (.bind (.update fun _ => ⟨rfl, le_rfl⟩) ?_))
  refine fun _ => .ite (starts _) (.bind succeeds_keeps fun allocated => .ite ?_ (refuses _ _))
  exact .bind (.update fun _ => ⟨rfl, le_rfl⟩) fun _ => starts _

theorem runManualScan_leavesSkbs : LeavesSkbs runManualScan := by
  have scans : ∀ connectedScan chan, LeavesSkbs (scanChannel connectedScan chan) := by
    intro connectedScan chan
    refine .bind (.update fun _ => ⟨rfl, le_rfl⟩) fun _ => .bind (.when ?_) fun _ => ?_
    · refine .bind restoreConnectedChannel_leavesSkbs fun _ => ?_
      exact .bind (txNullFunc_leavesSkbs _) fun _ => perform_keeps _
    refine .bind (.update fun _ => ⟨rfl, le_rfl⟩) fun _ => .bind (perform_keeps _) fun _ => ?_
    refine .bind (.when (.bind txProbeRequest_leavesSkbs fun _ => .ret _)) fun _ => ?_
    refine .bind (perform_keeps _) fun _ => .bind .fetch fun s => .when ?_
    refine .bind restoreConnectedChannel_leavesSkbs fun _ => ?_
    refine .bind (txNullFunc_leavesSkbs _) fun _ => ?_
    exact .bind (.update fun _ => ⟨rfl, le_rfl⟩) fun _ => perform_keeps _
  have channels : ∀ connectedScan remaining i,
      LeavesSkbs (scanChannels connectedScan remaining i) := by
    intro connectedScan remaining
    induction remaining with
    | zero => exact fun _ => .ret ()
    | succ remaining ih =>
        refine fun i => .bind .fetch fun s => .when (.bind (.whenSome fun chan => ?_) fun _ => ih _)
        exact scans _ chan
  refine .bind .fetch fun s => .ite ?_ (.bind (perform_keeps _) fun _ => ?_)
  · exact .bind (scanDone_leavesSkbs true) fun _ => .update fun _ => ⟨rfl, le_rfl⟩
  refine .bind (channels _ _ _) fun _ => .bind (.update fun _ => ⟨rfl, le_rfl⟩) fun _ => ?_
  refine .bind (perform_keeps _) fun _ => .bind (.when ?_) fun _ => .bind .fetch fun s => ?_
  · refine .bind restoreConnectedChannel_leavesSkbs fun _ => ?_
    exact .bind (txNullFunc_leavesSkbs _) fun _ => .ret _
  · exact .bind (scanDone_leavesSkbs _) fun _ => .update fun _ => ⟨rfl, le_rfl⟩

/-! ### The radio and power -/

theorem setReceiveMulticast_leavesSkbs (active : Bool) :
    LeavesSkbs (setReceiveMulticast active) := by
  refine .bind .fetch fun s => .ite (.ret _) (.bind (.update fun _ => ⟨rfl, le_rfl⟩) fun _ => ?_)
  exact .bind (.when (perform_keeps _)) fun _ => .ret _

theorem setAWDLReceiveMode_leavesSkbs (active : Bool) : LeavesSkbs (setAWDLReceiveMode active) := by
  refine .bind .fetch fun s => .ite (.ret _) (.bind (.update fun _ => ⟨rfl, le_rfl⟩) fun _ => ?_)
  exact .bind (perform_keeps _) fun _ => .ret _

theorem powerOn_leavesSkbs : LeavesSkbs powerOn := by
  refine .bind .fetch fun s => .ite (.ret _) (.ite (.ret _) (.bind (.await _) fun answer => ?_))
  refine .ite (.ret _) (.bind (.update fun _ => ⟨rfl, le_rfl⟩) fun _ => .bind .fetch fun s => ?_)
  exact setReceiveMulticast_leavesSkbs _

theorem powerOff_leavesSkbs : LeavesSkbs powerOff := by
  refine .bind .fetch fun s => .when (.bind (.when (perform_keeps _)) fun _ => ?_)
  exact .update fun _ => ⟨rfl, le_rfl⟩

theorem cmdPowerOn_leavesSkbs : LeavesSkbs cmdPowerOn := by
  refine .bind powerOn_leavesSkbs fun ret => .bind .fetch fun s => ?_
  exact .bind (.when (.update fun _ => ⟨rfl, le_rfl⟩)) fun _ => .ret _

/-! ### Disconnecting -/

theorem doDisconnect_leavesSkbs : LeavesSkbs doDisconnect := by
  have tears : LeavesSkbs tearDownLink := by
    refine .bind clearKeys_leavesSkbs fun _ => .bind .fetch fun s => ?_
    refine .bind (txMgmtFrame_leavesSkbs _ _) fun _ =>
      .bind (.update fun _ => ⟨rfl, le_rfl⟩) fun _ => ?_
    refine .bind .fetch fun s => .bind (.when (perform_keeps _)) fun _ => ?_
    exact releaseSta_leavesSkbs
  refine .bind .fetch fun s => .ite (.update fun _ => ⟨rfl, le_rfl⟩) (.bind tears fun _ => ?_)
  refine .bind (.update fun _ => ⟨rfl, le_rfl⟩) fun _ => .bind .fetch fun s => ?_
  exact .when (perform_keeps _)

theorem drainConnectCall_leavesSkbs : LeavesSkbs drainConnectCall := by
  refine .bind .choose fun answer => .bind (.update fun _ => ⟨rfl, le_rfl⟩) fun _ => ?_
  exact .bind (perform_keeps _) fun _ => .update fun _ => ⟨rfl, le_rfl⟩

theorem cancelAuthentication_leavesSkbs : LeavesSkbs cancelAuthentication :=
  .bind (.update fun _ => ⟨rfl, le_rfl⟩) fun _ => drainConnectCall_leavesSkbs

theorem cmdDisconnect_leavesSkbs : LeavesSkbs cmdDisconnect := by
  refine .bind cancelAuthentication_leavesSkbs fun _ => .bind .fetch fun s => ?_
  exact .bind (.when doDisconnect_leavesSkbs) fun _ => .ret _

theorem cmdPowerOff_leavesSkbs : LeavesSkbs cmdPowerOff := by
  have rest : LeavesSkbs (do
      powerOff
      Prog.update Ieee80211.becomeIdle
      let s ← Prog.fetch
      Prog.when s.parent (perform (.setLinkStatus false))
      return IOReturn.success) := by
    refine .bind powerOff_leavesSkbs fun _ => .bind (.update fun _ => ⟨rfl, le_rfl⟩) fun _ => ?_
    exact .bind .fetch fun s => .bind (.when (perform_keeps _)) fun _ => .ret _
  have finishes : LeavesSkbs finishPowerOff := by
    refine .bind .fetch fun s => .ite (.bind doDisconnect_leavesSkbs fun _ => rest) ?_
    exact .bind clearKeys_leavesSkbs fun _ => .bind releaseSta_leavesSkbs fun _ => rest
  refine .bind cancelAuthentication_leavesSkbs fun _ => ?_
  exact .bind (abortActiveScan_leavesSkbs true) fun idle => .ite finishes (.ret _)

theorem stop_leavesSkbs : LeavesSkbs stop := by
  have interface : LeavesSkbs removeInterface := by
    refine .bind .fetch fun s => .bind (.when (perform_keeps _)) fun _ => ?_
    refine .bind (.update fun _ => ⟨rfl, le_rfl⟩) fun _ => .bind .fetch fun s => ?_
    exact .bind (.when (perform_keeps _)) fun _ => .update fun _ => ⟨rfl, le_rfl⟩
  have hardware : LeavesSkbs removeHardware := by
    refine .bind .fetch fun s => .bind (.when (perform_keeps _)) fun _ => ?_
    refine .bind interface fun _ => .bind (perform_keeps _) fun _ => ?_
    exact .update fun _ => ⟨rfl, le_rfl⟩
  refine .bind cancelAuthentication_leavesSkbs fun _ => .bind .choose fun answer => ?_
  refine .bind (.update fun _ => ⟨rfl, le_rfl⟩) fun _ => .bind (perform_keeps _) fun _ => ?_
  refine .bind (.update fun _ => ⟨rfl, le_rfl⟩) fun _ =>
    .bind drainConnectCall_leavesSkbs fun _ => ?_
  refine .bind (.update fun _ => ⟨rfl, le_rfl⟩) fun _ => .bind .fetch fun s => ?_
  refine .ite (.bind doDisconnect_leavesSkbs fun _ => hardware) ?_
  exact .bind clearKeys_leavesSkbs fun _ => .bind releaseSta_leavesSkbs fun _ => hardware

/-! ### Connecting -/

theorem cmdConnect_leavesSkbs (args : ConnectArgs) : LeavesSkbs (cmdConnect args) := by
  have connects : LeavesSkbs (connectIdle args) := by
    refine .bind .fetch fun s => .ite (.ret _) (.ite (.ret _) (.ite (.ret _) ?_))
    refine .bind clearKeys_leavesSkbs fun _ => .bind releaseSta_leavesSkbs fun _ => ?_
    refine .bind .fetch fun s => ?_
    split
    · exact .ret _
    · refine .bind (.update fun _ => ⟨rfl, le_rfl⟩) fun _ => .ite (.ret _) ?_
      exact .bind (.update fun _ => ⟨rfl, le_rfl⟩) fun _ => .ret _
  exact .bind (abortActiveScan_leavesSkbs true) fun idle => .ite connects (.ret _)

theorem doAuthenticate_leavesSkbs : LeavesSkbs doAuthenticate := by
  have asks : LeavesSkbs driverScanning := .bind .choose fun _ => .ret _
  have waits : ∀ rounds, LeavesSkbs (waitForDriver rounds) := by
    intro rounds
    induction rounds with
    | zero => exact .ret _
    | succ rounds ih =>
        refine .bind (authenticationCancelled_keeps _) fun cancelled => .ite (.ret _) ?_
        exact .bind asks fun scanning =>
          .ite (.bind (perform_keeps _) fun _ => ih) (.ret _)
  have sends : ∀ frame, LeavesSkbs (sendAuthentication frame) := by
    refine fun frame => .bind (authenticationCancelled_keeps _) fun cancelled => .when ?_
    refine .bind (txMgmtFrame_leavesSkbs _ _) fun _ => ?_
    refine .bind (authenticationCancelled_keeps _) fun cancelled => .bind .fetch fun s => ?_
    exact .when (.update fun _ => ⟨rfl, le_rfl⟩)
  have sets : LeavesSkbs setupAuthentication := by
    refine .bind (authenticationCancelled_keeps _) fun cancelled => .when (.bind .fetch ?_)
    refine fun s => .bind (.whenSome fun chan => .update fun _ => ⟨rfl, le_rfl⟩) fun _ => ?_
    refine .bind (perform_keeps _) fun _ => ?_
    refine .bind (authenticationCancelled_keeps _) fun cancelled => .when ?_
    refine .bind (.update fun _ => ⟨rfl, le_rfl⟩) fun _ => .bind .fetch fun s => ?_
    exact .bind (.update fun _ => ⟨rfl, le_rfl⟩) fun _ => sends _
  have settles : LeavesSkbs settleAuthentication := by
    refine .bind (waits 100) fun cancelled => .when ?_
    refine .bind (authenticationCancelled_keeps _) fun cancelled => .when ?_
    exact .bind asks fun scanning => .when (.bind (perform_keeps _) fun _ => sets)
  exact .bind (authenticationCancelled_keeps _) fun cancelled => .bind .fetch fun s =>
    .when settles

theorem doAssociate_leavesSkbs : LeavesSkbs doAssociate := by
  have sends : ∀ frame, LeavesSkbs (sendAssociation frame) := by
    intro frame
    refine .bind (txMgmtFrame_leavesSkbs _ _) fun sent => .ite ?_ (.update fun _ => ⟨rfl, le_rfl⟩)
    refine .bind (authenticationCancelled_keeps _) fun cancelled => .bind .fetch fun s => ?_
    exact .when (.update fun _ => ⟨rfl, le_rfl⟩)
  refine .bind .fetch fun s => .when (.bind (authenticationCancelled_keeps _) fun cancelled => ?_)
  exact .when (.bind .fetch fun s => .bind (.update fun _ => ⟨rfl, le_rfl⟩) fun _ => sends _)

/-- `processAssocResponse` once the response was read. -/
theorem joins_leavesSkbs (fields : AssocFields) : LeavesSkbs (do
    let cancelled ← authenticationCancelled .assocResponse
    Prog.when (!cancelled) do
      if fields.status ≠ 0 then
        Prog.update fun s => s.setState .idle
      else
        Prog.update fun s => s.withAssocAID fields.aid
        registerSta fields.aid
        notifyAssociation fields.aid
        publishAssociation) := by
  have registers : ∀ aid, LeavesSkbs (registerSta aid) := by
    refine fun aid => .bind .fetch fun s => .when (.bind succeeds_keeps fun allocated => ?_)
    exact .when (.bind (.update fun _ => ⟨rfl, le_rfl⟩) fun _ => perform_keeps _)
  have notifies : ∀ aid, LeavesSkbs (notifyAssociation aid) := by
    refine fun aid => .bind .fetch fun s => .when
      (.bind (.update fun _ => ⟨rfl, le_rfl⟩) fun _ => ?_)
    exact perform_keeps _
  have publishes : LeavesSkbs publishAssociation := by
    refine .bind .fetch fun s => .ite (.update fun _ => ⟨rfl, le_rfl⟩)
      (.bind (.update fun _ => ⟨rfl, le_rfl⟩) ?_)
    refine fun _ => .bind (.when (perform_keeps _)) fun _ => .bind .fetch fun s => ?_
    exact .bind (.when startTxAggregation_leavesSkbs) fun _ => .update fun _ => ⟨rfl, le_rfl⟩
  refine .bind (authenticationCancelled_keeps _) fun cancelled => .when ?_
  refine .ite (.update fun _ => ⟨rfl, le_rfl⟩) (.bind (.update fun _ => ⟨rfl, le_rfl⟩) fun _ => ?_)
  exact .bind (registers _) fun _ => .bind (notifies _) fun _ => publishes

theorem cmdSetAssocRsnIE_leavesSkbs (ie : Option Bytes) : LeavesSkbs (cmdSetAssocRsnIE ie) := by
  unfold cmdSetAssocRsnIE
  split
  · exact .ret _
  · exact .bind (.update fun _ => ⟨rfl, le_rfl⟩) fun _ => .ret _

theorem cmdInstallExternalKey_leavesSkbs (pairwise : Bool) (keyidx : UInt8) (cipher : Nat)
    (key : Option Bytes) : LeavesSkbs (cmdInstallExternalKey pairwise keyidx cipher key) := by
  refine .bind .fetch fun s => .ite (.ret _) ?_
  split
  · exact .ret _
  · refine .ite (.ret _) (.bind (installKey_leavesSkbs _ _ _ _ _) fun installed => ?_)
    exact .ite (.ret _) (.ret _)

theorem onTimer_leavesSkbs : LeavesSkbs onTimer := by
  have scans : LeavesSkbs scanTimeout := by
    refine .bind .fetch fun s => .ite (.update fun _ => ⟨rfl, le_rfl⟩) ?_
    refine .bind (.when (perform_keeps _)) fun _ => .bind .fetch fun s => ?_
    exact .bind (.when restoreConnectedChannel_leavesSkbs) fun _ => .update fun _ => ⟨rfl, le_rfl⟩
  refine .bind .fetch fun s => ?_
  split
  · exact scans
  · refine .bind (authenticationCancelled_keeps _) fun cancelled => ?_
    exact .when (.update fun _ => ⟨rfl, le_rfl⟩)
  · exact .update fun _ => ⟨rfl, le_rfl⟩
  · exact doDisconnect_leavesSkbs
  · exact .ret _

end M

end AirportRtw88
