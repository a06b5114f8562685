import AirportRtw88.BufferLedger

/-!
# The ownership of frame buffers

`rxFrame` owns the buffer that it is given: it frees it or puts it into a slot of a reorder
buffer, and whoever takes a buffer out of a slot frees it.  The functions that transmit packets
free the packet, and hand each buffer that they allocate to `ops->tx` or free it.
-/

namespace AirportRtw88

open Interleave Bytes

/-- The received buffers are settled when they are freed or in a slot. -/
def skbLedger : Ledger Ieee80211 (Multiset Skb) where
  issued _ := 0
  settled := Ieee80211.receivedSkbs

/-- A packet is settled when it is freed, and a buffer that was allocated when it is handed to
`ops->tx` or freed. -/
def packetLedger : Ledger Ieee80211 (Multiset Mbuf × Multiset Nat) where
  issued s := (0, Multiset.range s.allocatedSkbs)
  settled s := (s.freedMbufs, s.handedSkbs + s.droppedSkbs)

/-- The received buffers that the caller of an operation hands over. -/
def Op.received : Op → Multiset Skb
  | .rxFrame skb => {skb}
  | _ => 0

namespace M

open Ieee80211 Prog

theorem LeavesSkbs.frames {α : Type} {program : M α} (leaves : LeavesSkbs program) :
    program.Frames skbLedger.view :=
  leaves.mono fun _ _ kept => congrArg (Prod.mk 0) kept.received

/-! ## Reception -/

section Reception

variable (skb : Skb)

theorem kfreeSkb_spends :
    (Prog.update fun s => s.kfreeSkb skb : M Unit).Spends skbLedger {skb} := by
  refine .update fun s hand => ?_
  simp only [Ledger.Moves, skbLedger, receivedSkbs, kfreeSkb, ← Multiset.cons_coe,
    ← Multiset.singleton_add]
  abel

/-- A buffer is freed at the end. -/
theorem spends_kfreeSkb {program : M Unit} (leaves : LeavesSkbs program) :
    (program.bind fun _ => Prog.update fun s => s.kfreeSkb skb).Spends skbLedger {skb} :=
  .after leaves.frames fun _ => kfreeSkb_spends skb

theorem fillInputPacket_leavesSkbs (frame payload : Bytes) :
    LeavesSkbs (fillInputPacket frame payload) := by
  refine .bind (.await _) fun answer => .ite (.ret _) (.bind succeeds_keeps fun copied => ?_)
  refine .ite (dropMbuf_leavesSkbs _) (.bind (copies_keeps _) fun copied => ?_)
  exact .ite (dropMbuf_leavesSkbs _) (.ret _)

theorem deliverEthernet_leavesSkbs (msdu : Msdu) : LeavesSkbs (deliverEthernet skb msdu) := by
  refine .bind .fetch fun s => .when (.bind (fillInputPacket_leavesSkbs _ _) fun filled => ?_)
  exact .when (perform_keeps _)

theorem deliverAWDLEthernet_leavesSkbs (msdu : Msdu) : LeavesSkbs (deliverAWDLEthernet msdu) := by
  refine .bind .fetch fun s => .when (.bind (fillInputPacket_leavesSkbs _ _) fun filled => ?_)
  exact .when (perform_keeps _)

theorem deliverDataFrame_spends : (deliverDataFrame skb).Spends skbLedger {skb} := by
  have single : LeavesSkbs (deliverMsdu skb) := by
    refine .bind (.when (.update fun _ => ⟨rfl, le_rfl⟩)) fun _ => ?_
    refine .bind .fetch fun s => ?_
    refine .ite ?_ ?_
    · exact handleEAPOL_leavesSkbs _
    · exact deliverEthernet_leavesSkbs skb _
  refine .after (perform_keeps _) fun _ => .ite ?_ ?_
  · exact spends_kfreeSkb skb (.forEach fun msdu => deliverEthernet_leavesSkbs skb msdu)
  · exact spends_kfreeSkb skb (.when single)

theorem deliverReleased_spends (outcome : RxBaOutcome Skb) :
    (deliverReleased outcome).Spends skbLedger outcome.out := by
  have all : (outcome.out.map singleton).sum = (outcome.out : Multiset Skb) := by
    simpa using Multiset.sum_map_singleton (outcome.out : Multiset Skb)
  have delivers : (Prog.forEach outcome.out deliverDataFrame).Spends skbLedger outcome.out :=
    all ▸ .forEach deliverDataFrame_spends
  exact delivers.before fun _ => .when (.update fun _ => rfl)

/-- What a critical section puts out is delivered. -/
theorem section_spends {outcome : Ieee80211 → RxBaOutcome Skb} {arrived : Multiset Skb}
    (contents : ∀ s : Ieee80211, (outcome s).contents = arrived + s.rxBa.held) :
    (Prog.fetch.bind fun s => (Prog.update fun now => now.leaveRxBa (outcome s)).bind fun _ =>
      deliverReleased (outcome s) : M Unit).Spends skbLedger arrived := by
  intro now hand
  refine ⟨(outcome now).out + hand, ?_, deliverReleased_spends (outcome now) _ hand⟩
  have moved := now.receivedSkbs_leaveRxBa (contents now)
  simp only [Ledger.Moves, skbLedger, ← add_assoc, moved]

theorem rxReorderInput_spends (tid : Fin kRxBaNumTid) (sn : Nat) :
    (M.rxReorderInput tid skb sn).Spends skbLedger {skb} :=
  section_spends fun s => contents_rxReorderInput s.rxBa tid skb sn

theorem rxReorderFlushStale_spends : M.rxReorderFlushStale.Spends skbLedger 0 :=
  section_spends fun s => (contents_rxReorderFlushStale s.rxBa).trans (zero_add _).symm

theorem processRxData_spends : (processRxData skb).Spends skbLedger {skb} := by
  refine .after .fetch fun s => .ite (kfreeSkb_spends skb) ?_
  split
  · exact rxReorderInput_spends skb _ _
  · exact deliverDataFrame_spends skb

theorem processScanResult_spends : (processScanResult skb).Spends skbLedger {skb} := by
  refine spends_kfreeSkb skb (.when (.bind succeeds_keeps fun allocated => .when ?_))
  exact .update fun _ => ⟨rfl, le_rfl⟩

theorem processRxAuth_spends : (processRxAuth skb).Spends skbLedger {skb} := by
  refine .after .fetch fun s => spends_kfreeSkb skb (.when ?_)
  refine .bind (authenticationCancelled_keeps _) fun cancelled => .bind .fetch fun s => .when ?_
  exact .whenSome fun status => .ite doAssociate_leavesSkbs (.update fun _ => ⟨rfl, le_rfl⟩)

theorem processRxAssoc_spends : (processRxAssoc skb).Spends skbLedger {skb} := by
  refine .after .fetch fun s => .ite (.after .fetch fun s => ?_) (kfreeSkb_spends skb)
  exact (kfreeSkb_spends skb).before fun _ =>
    LeavesSkbs.frames (.whenSome fun fields => joins_leavesSkbs fields)

theorem processRxDeauth_spends : (processRxDeauth skb).Spends skbLedger {skb} := by
  refine .after .fetch fun s => spends_kfreeSkb skb (.when ?_)
  refine .bind (.update fun _ => ⟨rfl, le_rfl⟩) fun _ => ?_
  refine .bind clearKeys_leavesSkbs fun _ => .bind (.update fun s => ?_) fun _ => ?_
  · obtain ⟨received, held⟩ := keepsSkbs_rxBaTeardownAll { s with txBaActive := false }
    exact ⟨received, held⟩
  · exact .bind .fetch fun s => .when (perform_keeps _)

theorem handleBackAction_leavesSkbs (b : Bytes) : LeavesSkbs (handleBackAction b) := by
  refine .ite (.when (.bind succeeds_keeps fun allocated => ?_)) (.ite (.when ?_) (.when ?_))
  · refine .bind (.update fun s => ?_) fun _ => sendAddbaResponse_leavesSkbs _ _ _ _
    exact keepsSkbs_of_out (out_rxBaSetup _ _ _ _ _) (contents_rxBaSetup _ _ _ _ _)
  · exact .update fun _ => ⟨rfl, le_rfl⟩
  · exact .ite (.update fun _ => ⟨rfl, le_rfl⟩) (.update fun s => s.keepsSkbs_rxBaTeardown _)

theorem processRxAction_spends : (processRxAction skb).Spends skbLedger {skb} := by
  refine .after .fetch fun s => .after (.when (perform_keeps _)) fun _ => .after .fetch fun s => ?_
  exact spends_kfreeSkb skb (.when (handleBackAction_leavesSkbs _))

theorem processRxMgmt_spends : (processRxMgmt skb).Spends skbLedger {skb} := by
  have frees := kfreeSkb_spends skb
  refine .after .fetch fun s => .ite (.ite (processScanResult_spends skb) frees) ?_
  refine .ite (processRxAuth_spends skb) (.ite (processRxAssoc_spends skb) ?_)
  exact .ite (processRxDeauth_spends skb) (.ite (processRxAction_spends skb) frees)

/-- An AWDL frame is consumed, and others are left. -/
theorem rxFrame_spends : (rxFrame skb).Spends skbLedger {skb} := by
  have frees := kfreeSkb_spends skb
  refine .ite frees (.after (LeavesSkbs.frames (.update fun _ => ⟨rfl, le_rfl⟩)) fun _ => ?_)
  refine .ite (processRxMgmt_spends skb) (.ite ?_ frees)
  unfold tryDeliverAWDLDataFrame
  split
  · intro now hand
    simp only [bind_eq_bind, settles_bind]
    refine (LeavesSkbs.frames (deliverAWDLEthernet_leavesSkbs _)).settles fun _ later => ?_
    obtain ⟨left, moves, kept⟩ := frees later hand
    exact ⟨left, moves, kept⟩
  · exact processRxData_spends skb

end Reception

/-! ## Transmission -/

section Transmission

variable (m : Mbuf)

theorem mbufFreem_spends :
    (Prog.update fun s => s.mbufFreem m : M Unit).Spends packetLedger ({m}, 0) := by
  refine .update fun s hand => ?_
  simp only [Ledger.Moves, packetLedger, mbufFreem, ← Multiset.cons_coe,
    ← Multiset.singleton_add, Prod.ext_iff, Prod.fst_add, Prod.snd_add]
  constructor <;> abel

theorem dropSkb_spends (number : Nat) :
    (Prog.update fun s => s.dropSkb number : M Unit).Spends packetLedger (0, {number}) := by
  refine .update fun s hand => ?_
  simp only [Ledger.Moves, packetLedger, dropSkb, ← Multiset.cons_coe,
    ← Multiset.singleton_add, Prod.ext_iff, Prod.fst_add, Prod.snd_add]
  constructor <;> abel

theorem handSkb_spends (number : Nat) :
    (Prog.update fun s => s.handSkb number : M Unit).Spends packetLedger (0, {number}) := by
  refine .update fun s hand => ?_
  simp only [Ledger.Moves, packetLedger, handSkb, ← Multiset.cons_coe,
    ← Multiset.singleton_add, Prod.ext_iff, Prod.fst_add, Prod.snd_add]
  constructor <;> abel

/-- A buffer that is allocated is in hand. -/
theorem allocSkb_acquires (now : Ieee80211) (hand : Multiset Mbuf × Multiset Nat) :
    allocSkb.Settles packetLedger now hand fun skb _ left =>
      left = (0, skb.elim 0 singleton) + hand := by
  unfold allocSkb succeeds
  simp only [bind_eq_bind, pure_eq_ret, settles_bind, settles_fetch, settles_choose, settles_ite,
    settles_update, settles_ret]
  refine fun answer => ⟨fun _ => ⟨(0, {now.allocatedSkbs}) + hand, ?_, rfl⟩, fun _ => ?_⟩
  · simp only [Ledger.Moves, packetLedger, takeSkb, Multiset.range_succ, ← Multiset.singleton_add,
      Prod.ext_iff, Prod.fst_add, Prod.snd_add]
    constructor <;> abel
  · exact (zero_add hand).symm

theorem dropMbuf_spends : (dropMbuf m).Spends packetLedger ({m}, 0) :=
  (mbufFreem_spends m).before fun _ => .ret _

theorem submit_frames (site : TxSite) (skb : TxSkb) :
    (submit site skb).Frames packetLedger.view :=
  .bind (.update fun _ => rfl) fun _ => perform_keeps _

theorem txDataFrame_spends : (txDataFrame m).Spends packetLedger ({m}, 0) := by
  refine .after .fetch fun s => .ite (dropMbuf_spends m) (.ite (dropMbuf_spends m) ?_)
  refine .after succeeds_keeps fun copied => .ite (dropMbuf_spends m) ?_
  refine .acquire allocSkb_acquires fun skb => ?_
  cases skb with
  | none => simpa using dropMbuf_spends m
  | some number =>
      refine .after (.update fun _ => rfl) fun _ => .after .fetch fun s => ?_
      refine .after (.update fun _ => rfl) fun _ => .after (copies_keeps _) fun copied => ?_
      refine .ite ?_ ?_
      · exact (dropSkb_spends number).bind fun _ => dropMbuf_spends m
      · refine (handSkb_spends number).bind fun _ => .after (submit_frames _ _) fun _ => ?_
        exact (mbufFreem_spends m).before fun _ => .ret _

theorem outputPacket_spends : (outputPacket m).Spends packetLedger ({m}, 0) := by
  refine .after .fetch fun s => .ite ((mbufFreem_spends m).before fun _ => .ret _) ?_
  exact (txDataFrame_spends m).before fun sent => .ite (.ret _) (.ret _)

theorem txAWDLDataFrame_spends : (txAWDLDataFrame m).Spends packetLedger ({m}, 0) := by
  refine .after .fetch fun s => .ite (dropMbuf_spends m) (.ite (dropMbuf_spends m) ?_)
  refine .after succeeds_keeps fun copied => .ite (dropMbuf_spends m) ?_
  refine .acquire allocSkb_acquires fun skb => ?_
  cases skb with
  | none => simpa using dropMbuf_spends m
  | some number =>
      refine .after (.update fun _ => rfl) fun _ => .after (copies_keeps _) fun copied => ?_
      refine .ite ((dropSkb_spends number).bind fun _ => dropMbuf_spends m) ?_
      refine (handSkb_spends number).bind fun _ => .after (submit_frames _ _) fun _ => ?_
      exact (mbufFreem_spends m).before fun _ => .ret _

end Transmission

end M

/-! ## Runs -/

/-- Received buffers are settled by `rxFrame` and by the reorder timer only. -/
theorem Op.program_leavesSkbs (op : Op) (receives : ∀ skb, op ≠ .rxFrame skb)
    (flushes : op ≠ .reorderTimerFired) : M.LeavesSkbs op.program := by
  have returns : ∀ {body : M Unit}, M.LeavesSkbs body → M.LeavesSkbs (M.returning body) :=
    fun body => .bind body fun _ => .ret _
  have reports : ∀ {body : M Bool}, M.LeavesSkbs body → M.LeavesSkbs (M.reporting body) :=
    fun body => .bind body fun _ => .ite (.ret _) (.ret _)
  cases op with
  | rxFrame skb => exact absurd rfl (receives skb)
  | scanDone aborted => exact returns (M.scanDone_leavesSkbs aborted)
  | timerFired deadline =>
      exact returns (.bind (.update fun _ => ⟨rfl, le_rfl⟩) fun _ => M.onTimer_leavesSkbs)
  | reorderTimerFired => exact absurd rfl flushes
  | connectCall =>
      refine returns (.bind .fetch fun s => .bind (.update fun _ => ⟨rfl, le_rfl⟩) fun _ => ?_)
      exact .bind (.when M.doAuthenticate_leavesSkbs) fun _ => .update fun _ => ⟨rfl, le_rfl⟩
  | manualScanCall =>
      refine returns (.bind .fetch fun s => .bind (.update fun _ => ⟨rfl, le_rfl⟩) fun _ => ?_)
      exact .bind (.when M.runManualScan_leavesSkbs) fun _ => .update fun _ => ⟨rfl, le_rfl⟩
  | outputPacket m => exact M.outputPacket_leavesSkbs m
  | txRawManagementFrame frame => exact reports (M.txRawManagementFrame_leavesSkbs frame)
  | txAWDLDataFrame m => exact reports (M.txAWDLDataFrame_leavesSkbs m)
  | cmdScan => exact M.cmdScan_leavesSkbs
  | cmdConnect args => exact M.cmdConnect_leavesSkbs args
  | cmdDisconnect ticket => exact M.cmdDisconnect_leavesSkbs
  | cmdPowerOn => exact M.cmdPowerOn_leavesSkbs
  | cmdPowerOff ticket => exact M.cmdPowerOff_leavesSkbs
  | cmdInstallExternalKey pairwise keyidx cipher key =>
      exact M.cmdInstallExternalKey_leavesSkbs pairwise keyidx cipher key
  | cmdSetAssocRsnIE ie => exact M.cmdSetAssocRsnIE_leavesSkbs ie
  | setReceiveMulticast active => exact M.setReceiveMulticast_leavesSkbs active
  | setAWDLReceiveMode active => exact M.setAWDLReceiveMode_leavesSkbs active
  | setAWDLChannel channel => exact M.setAWDLChannel_leavesSkbs channel
  | powerOn => exact M.powerOn_leavesSkbs
  | powerOff => exact returns M.powerOff_leavesSkbs
  | stop => exact returns M.stop_leavesSkbs

/-- Every operation settles the received buffers that it is given. -/
theorem rtw88_settles : rtw88.Settles skbLedger Op.received := by
  have returns : ∀ {body : M Unit} {part : Multiset Skb}, body.Spends skbLedger part →
      (M.returning body).Spends skbLedger part := fun body => body.before fun _ => .ret _
  intro op s
  refine Prog.Spends.settles ?_ s
  have silent := fun receives flushes => (op.program_leavesSkbs receives flushes).frames.spends
  cases op with
  | rxFrame skb => exact returns (M.rxFrame_spends skb)
  | reorderTimerFired =>
      refine returns (.after (M.LeavesSkbs.frames (.update fun _ => ⟨rfl, le_rfl⟩)) fun _ => ?_)
      exact M.rxReorderFlushStale_spends
  | _ => exact silent nofun nofun

theorem table_rxBaTeardown {α : Type} (table : RxBaTable α) (tid : Fin kRxBaNumTid) :
    (rxBaTeardown table tid).table = Function.update table tid none := by
  unfold rxBaTeardown
  rw [dif_pos tid.isLt]
  dsimp only
  cases found : table ⟨tid, tid.isLt⟩ with
  | some r => rfl
  | none => exact (Function.update_eq_self_iff.mpr found.symm).symm

/-- After the teardown of all buffers no slot holds a frame. -/
theorem Ieee80211.held_rxBaTeardownAll (s : Ieee80211) : s.rxBaTeardownAll.rxBa.held = 0 := by
  have swept : ∀ count ≤ kRxBaNumTid, ∀ tid : Fin kRxBaNumTid, tid.val < count →
      ((List.range count).foldl Ieee80211.rxBaTeardown s).rxBa tid = none := by
    intro count
    induction count with
    | zero => exact fun _ tid below => absurd below (Nat.not_lt_zero _)
    | succ count ih =>
        intro inside tid below
        rw [List.range_succ, List.foldl_append]
        refine (congrFun (table_rxBaTeardown _ ⟨count, inside⟩) tid).trans ?_
        by_cases same : tid = ⟨count, inside⟩
        · rw [same, Function.update_self]
        · rw [Function.update_of_ne same]
          have other : tid.val ≠ count := fun equal => same (Fin.ext equal)
          exact ih (Nat.le_of_succ_le inside) tid (by omega)
  refine Finset.sum_eq_zero fun tid _ => ?_
  have empty : s.rxBaTeardownAll.rxBa tid = none := swept kRxBaNumTid le_rfl tid tid.isLt
  rw [empty]
  rfl

/-- What holds when the driver was given these received buffers: each is freed, in a slot, or in
the hand of one thread that will settle it.  None is settled twice; when no call is under way all
are settled, and the teardown of the reorder buffers frees what is still in a slot. -/
structure OwnsBuffers (config : DriverConfig) (given : Multiset Skb) : Prop where
  balanced : config.Balanced skbLedger given
  once : given.Nodup → config.state.receivedSkbs.Nodup
  settled : config.threads = [] → config.state.receivedSkbs = given
  freed : config.threads = [] → (config.state.rxBaTeardownAll.freedSkbs : Multiset Skb) = given

/-- Received buffers are owned by the driver until they are freed; a packet is freed by the call
that transmits it, and so is a buffer that it allocates unless `ops->tx` gets it. -/
structure BuffersConserved : Prop where
  runs : ∀ s, s.initial → ∀ config given,
    rtw88.Recorded (System.given Op.received) (fun _ _ _ => True) (⟨s, []⟩, 0) (config, given) →
    OwnsBuffers config given
  rxFrame : ∀ skb, (M.rxFrame skb).Spends skbLedger {skb}
  outputPacket : ∀ m, (M.outputPacket m).Spends packetLedger ({m}, 0)
  txDataFrame : ∀ m, (M.txDataFrame m).Spends packetLedger ({m}, 0)
  txAWDLDataFrame : ∀ m, (M.txAWDLDataFrame m).Spends packetLedger ({m}, 0)

theorem ownsBuffers_of_balanced {config : DriverConfig} {given : Multiset Skb}
    (balanced : config.Balanced skbLedger given) : OwnsBuffers config given := by
  obtain ⟨inHand, holds, equal⟩ := balanced
  have equal : config.state.receivedSkbs + inHand = given := equal.trans (zero_add given)
  have settled : config.threads = [] → config.state.receivedSkbs = given := by
    intro idle
    rw [idle] at holds
    have none : inHand = 0 := holds
    rwa [none, add_zero] at equal
  refine ⟨⟨inHand, holds, equal.trans (zero_add given).symm⟩, fun distinct => ?_, settled, ?_⟩
  · rw [← equal] at distinct
    exact Multiset.nodup_of_le (Multiset.le_add_right _ _) distinct
  · intro idle
    rw [← settled idle, ← config.state.keepsSkbs_rxBaTeardownAll.received, Ieee80211.receivedSkbs,
      config.state.held_rxBaTeardownAll, add_zero]

theorem buffersConserved : BuffersConserved where
  runs s initial config given run := by
    refine ownsBuffers_of_balanced (System.balanced_of_recorded rtw88_settles ?_ run)
    obtain ⟨attached, -, rfl⟩ := initial
    have empty : RxBaTable.held (fun _ => none : RxBaTable Skb) = 0 :=
      Finset.sum_eq_zero fun _ _ => rfl
    exact (congrArg (0 + ·) empty).trans (add_zero 0)
  rxFrame := M.rxFrame_spends
  outputPacket := M.outputPacket_spends
  txDataFrame := M.txDataFrame_spends
  txAWDLDataFrame := M.txAWDLDataFrame_spends

end AirportRtw88
