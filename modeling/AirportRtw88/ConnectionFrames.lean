import AirportRtw88.AssocRequest
import AirportRtw88.EapolKey
import AirportRtw88.Interleave.History
import AirportRtw88.Protection

/-!
# The frames of one connection

Only `cmdConnect` chooses a target, so the association requests and the messages of the handshake
that are sent between two of its choices are made from the same one.
-/

namespace AirportRtw88

open Interleave Bytes

namespace Ieee80211

/-- The network of the connection, and the address of the station in it. -/
def network (s : Ieee80211) : Bss × Bool × Bool × Bytes :=
  (s.targetBSS, s.wpa2, s.externalSupplicant, s.macAddr)

theorem network_of_link {s t : Ieee80211} (same : t.link = s.link) : t.network = s.network := by
  simp only [link, Link.mk.injEq] at same
  simp only [network, same]

theorem network_recordTx (s : Ieee80211) (skb : TxSkb) : (s.recordTx skb).network = s.network :=
  rfl

theorem network_dropSkb (s : Ieee80211) (number : Nat) (m : Mbuf) :
    ((s.bumpDataSeq.dropSkb number).mbufFreem m).network = s.network :=
  network_of_link (s.link_dropSkb number m)

theorem network_handSkb (s : Ieee80211) (number : Nat) (skb : TxSkb) :
    ((s.bumpDataSeq.handSkb number).recordTx skb).network = s.network :=
  (network_recordTx _ skb).trans (network_of_link (s.link_handSkb number))

/-- `sendEAPOLKey` builds this Ethernet frame; an M2 is built with arrays that an M1 filled. -/
def BuildsKey (s : Ieee80211) (frame : Bytes) : Prop :=
  ∃ (u : Ieee80211) (step : Nat) (counter : Bytes), u.network = s.network ∧
    (step = 4 ∨ step = 2 ∧ counter.length = 8 ∧ u.snonce.length = 32) ∧
      frame = u.eapolKeyFrame step counter false false true

theorem BuildsKey.of_network {s t : Ieee80211} {frame : Bytes} (builds : s.BuildsKey frame)
    (same : t.network = s.network) : t.BuildsKey frame := by
  obtain ⟨u, step, counter, network, rest⟩ := builds
  exact ⟨u, step, counter, network.trans same.symm, rest⟩

end Ieee80211

/-- An association request is built for the network, and what is sent as data is a message of the
handshake. -/
def Call.Announces : Call → Ieee80211 → Prop
  | .tx .associate skb, s => ∃ t : Ieee80211, t.network = s.network ∧ skb.data = t.assocReq
  | .tx .data skb, s => ∃ (u : Ieee80211) (frame : Bytes), u.network = s.network ∧
      s.BuildsKey frame ∧ skb = u.encapsulate (frame.take 14) (frame.drop 14)
  | _, _ => True

/-- What all functions but `cmdConnect` and `outputPacket` have in common. -/
def joined : Discipline Ieee80211 Call Answer where
  ready := rtw88.ready
  stable _ := True
  keeps _ before after := after.network = before.network
  calls := Call.Announces
  refl := fun _ _ => rfl
  trans := fun _ _ _ _ early late => late.trans early
  respected := fun _ _ _ => trivial
  preserved := fun _ _ _ _ _ => trivial

namespace M

open Ieee80211 Prog

/-- The function stays in the network. -/
abbrev Stays {α : Type} (program : M α) : Prop :=
  program.Upholds joined

theorem update_stays {change : Ieee80211 → Ieee80211}
    (same : ∀ s, (change s).network = s.network) : Stays (Prog.update change) :=
  .update fun _ s _ => same s

theorem perform_stays {call : Call} (announces : ∀ s, call.Announces s) : Stays (perform call) :=
  .bind (.await fun s _ => announces s) fun _ => .ret ()

theorem succeeds_stays : Stays succeeds :=
  .bind .choose fun _ => .ret _

theorem authenticationCancelled_stays (check : CancelCheck) :
    Stays (authenticationCancelled check) :=
  .bind .fetch fun _ => .bind (perform_stays fun _ => trivial) fun _ => .ret _

theorem submit_stays {site : TxSite} {skb : TxSkb}
    (announces : ∀ s, (Call.tx site skb).Announces s) : Stays (submit site skb) :=
  .bind (update_stays fun _ => rfl) fun _ => perform_stays announces

/-! ## Transmission -/

theorem txMgmtFrame_stays (site : TxSite) (frame : Bytes)
    (announces : ∀ skb s, (Call.tx site skb).Announces s) : Stays (txMgmtFrame site frame) := by
  refine .bind .fetch fun s => .ite (.ret _) (.bind succeeds_stays fun built => ?_)
  exact .ite (.ret _) (.bind (submit_stays (announces _)) fun _ => .ret _)

theorem dropMbuf_stays (m : Mbuf) : Stays (dropMbuf m) :=
  .bind (update_stays fun _ => rfl) fun _ => .ret _

theorem allocSkb_stays : Stays allocSkb := by
  refine .bind .fetch fun s => .bind succeeds_stays fun built => .ite ?_ (.ret _)
  exact .bind (update_stays fun _ => rfl) fun _ => .ret _

theorem copies_stays (payload : Bytes) : Stays (copies payload) :=
  .ite (.ret _) succeeds_stays

theorem txNullFunc_stays (powerSave : Bool) : Stays (txNullFunc powerSave) := by
  refine .bind .fetch fun s => .ite (.ret _) (.bind succeeds_stays fun built => ?_)
  refine .ite (.ret _) (.bind (update_stays fun _ => rfl) fun _ => ?_)
  exact .bind (submit_stays fun _ => trivial) fun _ => .ret _

theorem txProbeRequest_stays : Stays txProbeRequest := by
  refine .bind .fetch fun s => .ite (.ret _) (.bind (update_stays fun _ => rfl) fun _ => ?_)
  exact txMgmtFrame_stays _ _ fun _ _ => trivial

theorem txRawManagementFrame_stays (frame : Bytes) : Stays (txRawManagementFrame frame) :=
  .ite (.ret _) (.ite (.ret _) (txMgmtFrame_stays _ _ fun _ _ => trivial))

theorem txAWDLDataFrame_stays (m : Mbuf) : Stays (txAWDLDataFrame m) := by
  refine .bind .fetch fun s => .ite (dropMbuf_stays m) (.ite (dropMbuf_stays m) ?_)
  refine .bind succeeds_stays fun built => .ite (dropMbuf_stays m) ?_
  refine .bind allocSkb_stays fun skb => ?_
  cases skb with
  | none => exact dropMbuf_stays m
  | some number =>
      refine .bind (update_stays fun _ => rfl) fun _ => .bind (copies_stays _) fun copied => ?_
      refine .ite (.bind (update_stays fun _ => rfl) fun _ => dropMbuf_stays m) ?_
      refine .bind (update_stays fun _ => rfl) fun _ => ?_
      refine .bind (submit_stays fun _ => trivial) fun _ => ?_
      exact .bind (update_stays fun _ => rfl) fun _ => .ret _

/-- A message of the handshake is handed over in the block that it was built in. -/
theorem txDataFrame_follows (number : Nat) {frame : Bytes} {resumed : Option (Call × Answer)}
    {start now : Ieee80211} (kept : now.network = start.network) (builds : now.BuildsKey frame) :
    (txDataFrame ⟨number, frame⟩).Conforms joined.ready
      (fun resumed start request now =>
        joined.keeps resumed start now ∧ joined.calls request now)
      resumed start now fun resumed start _ now =>
        joined.stable now ∧ joined.keeps resumed start now := by
  have moved : (now.takeSkb.bumpTxPn (Bytes.be16At (frame.take 14) 12)).network =
      now.network := rfl
  generalize isCounted : now.takeSkb.bumpTxPn (Bytes.be16At (frame.take 14) 12) = counted at moved
  have same : counted.network = start.network := moved.trans kept
  refine txDataFrame_conforms ⟨number, frame⟩ rfl isCounted rfl ⟨trivial, kept⟩ ?_ ?_ ?_
  · exact fun _ lost => ⟨trivial, (network_dropSkb counted lost _).trans same⟩
  · intro _ handed
    have kept := network_handSkb counted handed
      (counted.encapsulate (frame.take 14) (frame.drop 14))
    exact ⟨kept.trans same, counted, frame, kept.symm, builds.of_network (kept.trans moved), rfl⟩
  · exact fun _ _ _ => ⟨trivial, rfl⟩

theorem sendEAPOLKey_follows {step : Nat} {counter : Bytes} {resumed : Option (Call × Answer)}
    {start now : Ieee80211} (kept : now.network = start.network)
    (arrays : step = 4 ∨ step = 2 ∧ counter.length = 8 ∧ now.snonce.length = 32) :
    (sendEAPOLKey step counter false false true).Conforms joined.ready
      (fun resumed start request now =>
        joined.keeps resumed start now ∧ joined.calls request now)
      resumed start now fun resumed start _ now =>
        joined.stable now ∧ joined.keeps resumed start now := by
  have builds : now.BuildsKey (now.eapolKeyFrame step counter false false true) :=
    ⟨now, step, counter, rfl, arrays, rfl⟩
  unfold sendEAPOLKey succeeds
  simp only [bind_eq_bind, pure_eq_ret, conforms_bind, conforms_fetch, conforms_choose,
    conforms_ret, conforms_when]
  generalize now.eapolKeyFrame step counter false false true = frame at builds
  exact fun answer => ⟨fun _ => txDataFrame_follows 0 kept builds, fun _ => ⟨trivial, kept⟩⟩

/-! ## Keys, stations and BlockAck requests -/

theorem clearKeys_stays : Stays clearKeys := by
  have disables (pairwise : Bool) : Stays (disableKey pairwise) :=
    .bind .fetch fun _ => .whenSome fun key => perform_stays fun _ => trivial
  refine .bind .fetch fun s => .bind (.when ?_) fun _ => update_stays fun _ => rfl
  exact .bind (disables true) fun _ => disables false

theorem releaseSta_stays : Stays releaseSta := by
  refine .bind .fetch fun s => .when (.bind (.when (perform_stays fun _ => trivial)) fun _ => ?_)
  exact update_stays fun _ => rfl

theorem installKey_stays (pairwise : Bool) (keyidx : UInt8) (cipher : Nat)
    (tk : Ieee80211 → Bytes) (tkLen : Nat) :
    Stays (installKey pairwise keyidx cipher tk tkLen) := by
  have empties : Stays (Prog.update fun s => s.setKeySlot pairwise none) :=
    update_stays fun _ => by cases pairwise <;> rfl
  have fills (key : KeyConf) : Stays (Prog.update fun s =>
      (s.setKeySlot pairwise (some key)).resetTxPn pairwise) :=
    update_stays fun _ => by cases pairwise <;> rfl
  refine .bind .fetch fun s => .ite (.ret _) (.bind (.whenSome fun old => ?_) fun _ => ?_)
  · exact .bind (perform_stays fun _ => trivial) fun _ => empties
  · refine .bind succeeds_stays fun allocated => .ite (.ret _) (.bind .fetch fun s => ?_)
    refine .bind (.await fun _ _ => trivial) fun answer => .ite (.ret _) ?_
    exact .bind (fills _) fun _ => .ret _

theorem startTxAggregation_stays : Stays startTxAggregation := by
  refine .bind .fetch fun s => .when (.bind .fetch fun s => ?_)
  refine .bind (update_stays fun _ => rfl) fun _ => .bind (update_stays fun _ => rfl) fun _ => ?_
  exact .bind .fetch fun s => .bind (txMgmtFrame_stays _ _ fun _ _ => trivial) fun _ => .ret _

theorem sendAddbaResponse_stays (tid dialog reqParam baTimeout : Nat) :
    Stays (sendAddbaResponse tid dialog reqParam baTimeout) := by
  refine .bind .fetch fun s => .bind (update_stays fun _ => rfl) fun _ => ?_
  exact .bind (txMgmtFrame_stays _ _ fun _ _ => trivial) fun _ => .ret _

/-! ## Scans and the radio -/

theorem restoreConnectedChannel_stays : Stays restoreConnectedChannel := by
  refine .bind .fetch fun s => .when ?_
  refine .bind (.whenSome fun chan => update_stays fun _ => rfl) fun _ => ?_
  exact .bind (perform_stays fun _ => trivial) fun _ => update_stays fun _ => rfl

theorem setAWDLChannel_stays (channel : Nat) : Stays (setAWDLChannel channel) := by
  refine .bind .fetch fun s => .ite (.ret _) (.bind (update_stays fun _ => rfl) fun _ => ?_)
  refine .ite (.ret _) ?_
  split
  · exact .ret _
  · refine .bind (update_stays fun _ => rfl) fun _ => ?_
    exact .bind (perform_stays fun _ => trivial) fun _ => .ret _

theorem processScanResult_stays (skb : Skb) : Stays (processScanResult skb) := by
  refine .bind (.when (.bind succeeds_stays fun _ => .when ?_)) fun _ => update_stays fun _ => rfl
  exact update_stays fun _ => rfl

theorem waitForScan_stays (rounds : Nat) : Stays (waitForScan rounds) := by
  induction rounds with
  | zero => exact .ret ()
  | succ rounds ih =>
      exact .bind .fetch fun s => .when (.bind (perform_stays fun _ => trivial) fun _ => ih)

theorem abortActiveScan_stays (waitForIdle : Bool) : Stays (abortActiveScan waitForIdle) := by
  have leaves (returnState : ScanReturn) : Stays (leaveAbortedScan returnState) := by
    refine .bind .fetch fun s => .ite (.ite (.ret _) ?_) (.ret _)
    refine .bind (.when restoreConnectedChannel_stays) fun _ => ?_
    exact .bind (update_stays fun _ => rfl) fun _ => .bind .fetch fun _ => .ret _
  have rest (returnState : ScanReturn) : Stays (if !waitForIdle then pure true else do
      waitForScan 40
      leaveAbortedScan returnState) :=
    .ite (.ret _) (.bind (waitForScan_stays 40) fun _ => leaves returnState)
  refine .bind .fetch fun s => .ite (.ret _) (.ite ?_ ?_)
  · exact .bind (update_stays fun _ => rfl) fun _ => rest s.scanReturnState
  · exact .bind (.when (perform_stays fun _ => trivial)) fun _ => rest s.scanReturnState

theorem scanDone_stays (aborted : Bool) : Stays (scanDone aborted) := by
  have leaves : Stays leaveActiveScan := by
    refine .bind .fetch fun s => .when (.bind (.when restoreConnectedChannel_stays) fun _ => ?_)
    refine .bind (update_stays fun _ => rfl) fun _ => .bind .fetch fun s => .when ?_
    exact .bind (setAWDLChannel_stays _) fun _ => .ret _
  refine .bind (.when (update_stays fun _ => rfl)) fun _ => .bind leaves fun _ => ?_
  exact .bind .fetch fun s => .when (perform_stays fun _ => trivial)

theorem startManualScan_stays (channels : List Channel) : Stays (startManualScan channels) :=
  .bind (update_stays fun _ => rfl) fun _ => .bind (update_stays fun _ => rfl) fun _ => .ret _

theorem startHwScan_stays (channels : List Channel) : Stays (startHwScan channels) := by
  refine .bind (update_stays fun _ => rfl) fun _ => .bind (.await fun _ _ => trivial) fun _ => ?_
  refine .ite (startManualScan_stays _) (.bind (update_stays fun _ => rfl) fun _ => ?_)
  exact .bind (update_stays fun _ => rfl) fun _ => .ret _

theorem cmdScan_stays : Stays cmdScan := by
  have refuses (returnState : Rtw88State) (reason : IOReturn) :
      Stays (refuseScan returnState reason) :=
    .bind (update_stays fun _ => rfl) fun _ => .ret _
  have starts (returnState : Rtw88State) : Stays (startScan returnState) := by
    refine .bind .fetch fun s => .ite (refuses _ _) (.bind succeeds_stays fun offload => ?_)
    refine .ite (.bind (update_stays fun _ => rfl) fun _ => ?_) (startHwScan_stays _)
    exact startManualScan_stays _
  refine .bind .fetch fun s => .ite (.ret _) (.ite (.ret _) ?_)
  refine .bind (update_stays fun _ => rfl) fun _ => .ite (starts _) ?_
  refine .bind succeeds_stays fun allocated => .ite ?_ (refuses _ _)
  exact .bind (update_stays fun _ => rfl) fun _ => starts _

theorem scanChannel_stays (connectedScan : Bool) (chan : Channel) :
    Stays (scanChannel connectedScan chan) := by
  refine .bind (update_stays fun _ => rfl) fun _ => .bind (.when ?_) fun _ => ?_
  · refine .bind restoreConnectedChannel_stays fun _ => .bind (txNullFunc_stays _) fun _ => ?_
    exact perform_stays fun _ => trivial
  refine .bind (update_stays fun _ => rfl) fun _ => .bind (perform_stays fun _ => trivial) ?_
  refine fun _ => .bind (.when (.bind txProbeRequest_stays fun _ => .ret _)) fun _ => ?_
  refine .bind (perform_stays fun _ => trivial) fun _ => .bind .fetch fun s => .when ?_
  refine .bind restoreConnectedChannel_stays fun _ => .bind (txNullFunc_stays _) fun _ => ?_
  exact .bind (update_stays fun _ => rfl) fun _ => perform_stays fun _ => trivial

theorem scanChannels_stays (connectedScan : Bool) (remaining i : Nat) :
    Stays (scanChannels connectedScan remaining i) := by
  induction remaining generalizing i with
  | zero => exact .ret ()
  | succ remaining ih =>
      refine .bind .fetch fun s => .when (.bind (.whenSome fun chan => ?_) fun _ => ih _)
      exact scanChannel_stays _ chan

theorem runManualScan_stays : Stays runManualScan := by
  refine .bind .fetch fun s => .ite ?_ ?_
  · exact .bind (scanDone_stays _) fun _ => update_stays fun _ => rfl
  refine .bind (perform_stays fun _ => trivial) fun _ => .bind (scanChannels_stays _ _ _) ?_
  refine fun _ => .bind (update_stays fun _ => rfl) fun _ => ?_
  refine .bind (perform_stays fun _ => trivial) fun _ => .bind (.when ?_) fun _ => ?_
  · refine .bind restoreConnectedChannel_stays fun _ => ?_
    exact .bind (txNullFunc_stays _) fun _ => .ret _
  · refine .bind .fetch fun s => .bind (scanDone_stays _) fun _ => ?_
    exact update_stays fun _ => rfl

theorem scanTimeout_stays : Stays scanTimeout := by
  refine .bind .fetch fun s => .ite (update_stays fun _ => rfl) ?_
  refine .bind (.when (perform_stays fun _ => trivial)) fun _ => .bind .fetch fun s => ?_
  exact .bind (.when restoreConnectedChannel_stays) fun _ => update_stays fun _ => rfl

theorem setReceiveMulticast_stays (active : Bool) : Stays (setReceiveMulticast active) := by
  refine .bind .fetch fun s => .ite (.ret _) (.bind (update_stays fun _ => rfl) fun _ => ?_)
  exact .bind (.when (perform_stays fun _ => trivial)) fun _ => .ret _

theorem setAWDLReceiveMode_stays (active : Bool) : Stays (setAWDLReceiveMode active) := by
  refine .bind .fetch fun s => .ite (.ret _) (.bind (update_stays fun _ => rfl) fun _ => ?_)
  exact .bind (perform_stays fun _ => trivial) fun _ => .ret _

/-! ## The handshake -/

theorem completeHandshake_stays : Stays completeHandshake := by
  have sends (counter : Bytes) : Stays (sendEAPOLKey 4 counter false false true) :=
    ⟨fun _ => ⟨fun _ _ _ kept => sendEAPOLKey_follows kept (.inl rfl)⟩⟩
  refine .bind .fetch fun s => .bind (sends _) fun _ => .bind (update_stays fun _ => rfl) ?_
  refine fun _ => .bind .fetch fun s => .bind (.when (perform_stays fun _ => trivial)) ?_
  exact fun _ => startTxAggregation_stays

theorem installHandshakeKeys_stays (gtk : Option GtkKde) : Stays (installHandshakeKeys gtk) := by
  refine .bind (installKey_stays _ _ _ _ _) fun installed => .when (.bind .fetch fun s => ?_)
  dsimp only
  split
  · exact completeHandshake_stays
  · exact .bind (installKey_stays _ _ _ _ _) fun _ => .when completeHandshake_stays

/-- The M2 is built from the arrays that its M1 has filled. -/
theorem handleM1_stays {data : Bytes} (key : data.isEapolKey = true) : Stays (handleM1 data) := by
  obtain ⟨long, -⟩ := of_decide_eq_true key
  have counter : (data.slice 9 8).length = 8 := length_slice (by omega)
  have wakes : Stays (Prog.update fun s => s.wakeAtTime 5000) := update_stays fun _ => rfl
  refine ⟨fun resumed => ⟨fun start now _ kept => ?_⟩⟩
  unfold handleM1
  simp only [bind_eq_bind, conforms_bind, conforms_choose, conforms_update, conforms_fetch]
  intro random
  have nonce : ((random.bytes ++ zeros 32).take 32).length = 32 := by
    rw [List.length_take, List.length_append, length_zeros]
    omega
  generalize (random.bytes ++ zeros 32).take 32 = filled at nonce
  have same : (now.acceptM1 data filled).network = start.network := kept
  have arrays : (now.acceptM1 data filled).replayCtr.length = 8 ∧
      (now.acceptM1 data filled).snonce.length = 32 := ⟨counter, nonce⟩
  generalize now.acceptM1 data filled = accepted at same arrays
  refine (sendEAPOLKey_follows same (.inr ⟨rfl, arrays⟩)).mono (fun _ _ _ _ => id) ?_
  exact fun resumed start _ now held =>
    (wakes.upholdsFrom resumed).conforms start now trivial held.2

theorem handleM3_stays (data : Bytes) : Stays (handleM3 data) := by
  have verifies (kck eapol : Bytes) : Stays (eapolMicOk kck eapol) :=
    .ite (.ret _) (.bind succeeds_stays fun _ => .ite (.ret _) (.ret _))
  refine .bind .fetch fun s => .bind (verifies _ _) fun verified => .when ?_
  refine .whenSome fun keyData => .bind (update_stays fun _ => rfl) fun _ => ?_
  exact installHandshakeKeys_stays _

theorem handleEAPOL_stays (data : Bytes) : Stays (handleEAPOL data) := by
  unfold handleEAPOL
  cases key : data.isEapolKey with
  | false => exact .ret ()
  | true => exact .when (.ite (handleM1_stays key) (.when (handleM3_stays data)))

/-! ## Disconnecting and power -/

theorem doDisconnect_stays : Stays doDisconnect := by
  have tears : Stays tearDownLink := by
    refine .bind clearKeys_stays fun _ => .bind .fetch fun s => ?_
    refine .bind (txMgmtFrame_stays _ _ fun _ _ => trivial) fun _ => ?_
    refine .bind (update_stays fun _ => rfl) fun _ => .bind .fetch fun s => ?_
    exact .bind (.when (perform_stays fun _ => trivial)) fun _ => releaseSta_stays
  refine .bind .fetch fun s => .ite (update_stays fun _ => rfl) (.bind tears fun _ => ?_)
  refine .bind (update_stays fun _ => rfl) fun _ => .bind .fetch fun s => ?_
  exact .when (perform_stays fun _ => trivial)

theorem drainConnectCall_stays : Stays drainConnectCall := by
  refine .bind .choose fun answer => .bind (update_stays fun _ => rfl) fun _ => ?_
  exact .bind (perform_stays fun _ => trivial) fun _ => update_stays fun _ => rfl

theorem cancelAuthentication_stays : Stays cancelAuthentication :=
  .bind (update_stays fun _ => rfl) fun _ => drainConnectCall_stays

theorem cmdDisconnect_stays : Stays cmdDisconnect :=
  .bind cancelAuthentication_stays fun _ => .bind .fetch fun _ =>
    .bind (.when doDisconnect_stays) fun _ => .ret _

theorem powerOn_stays : Stays powerOn := by
  refine .bind .fetch fun s => .ite (.ret _) (.ite (.ret _) ?_)
  refine .bind (.await fun _ _ => trivial) fun answer => .ite (.ret _) ?_
  exact .bind (update_stays fun _ => rfl) fun _ => .bind .fetch fun s => setReceiveMulticast_stays _

theorem powerOff_stays : Stays powerOff :=
  .bind .fetch fun _ => .when (.bind (.when (perform_stays fun _ => trivial)) fun _ =>
    update_stays fun _ => rfl)

theorem cmdPowerOn_stays : Stays cmdPowerOn :=
  .bind powerOn_stays fun _ => .bind .fetch fun _ => .bind (.when (update_stays fun _ => rfl))
    fun _ => .ret _

theorem cmdPowerOff_stays : Stays cmdPowerOff := by
  have finishes : Stays finishPowerOff := by
    refine .bind .fetch fun s => .ite (.bind doDisconnect_stays fun _ => ?_)
      (.bind clearKeys_stays fun _ => .bind releaseSta_stays fun _ => ?_)
    all_goals
      refine .bind powerOff_stays fun _ => .bind (update_stays fun _ => rfl) fun _ => ?_
      exact .bind .fetch fun s => .bind (.when (perform_stays fun _ => trivial)) fun _ => .ret _
  refine .bind cancelAuthentication_stays fun _ => .bind (abortActiveScan_stays _) fun _ => ?_
  exact .ite finishes (.ret _)

theorem removeHardware_stays : Stays removeHardware := by
  have removes : Stays removeInterface := by
    refine .bind .fetch fun s => .bind (.when (perform_stays fun _ => trivial)) fun _ => ?_
    refine .bind (update_stays fun _ => rfl) fun _ => .bind .fetch fun s => ?_
    exact .bind (.when (perform_stays fun _ => trivial)) fun _ => update_stays fun _ => rfl
  refine .bind .fetch fun s => .bind (.when (perform_stays fun _ => trivial)) fun _ => ?_
  refine .bind removes fun _ => .bind (perform_stays fun _ => trivial) fun _ => ?_
  exact update_stays fun _ => rfl

theorem stop_stays : Stays stop := by
  refine .bind cancelAuthentication_stays fun _ => .bind .choose fun answer => ?_
  refine .bind (update_stays fun _ => rfl) fun _ => .bind (perform_stays fun _ => trivial) ?_
  refine fun _ => .bind (update_stays fun _ => rfl) fun _ => .bind drainConnectCall_stays ?_
  refine fun _ => .bind (update_stays fun _ => rfl) fun _ => .bind .fetch fun s => ?_
  refine .ite (.bind doDisconnect_stays fun _ => removeHardware_stays) ?_
  exact .bind clearKeys_stays fun _ => .bind releaseSta_stays fun _ => removeHardware_stays

/-! ## Connecting -/

theorem doAuthenticate_stays : Stays doAuthenticate := by
  have waits (rounds : Nat) : Stays (waitForDriver rounds) := by
    induction rounds with
    | zero => exact .ret _
    | succ rounds ih =>
        refine .bind (authenticationCancelled_stays _) fun cancelled => .ite (.ret _) ?_
        refine .bind (.bind .choose fun _ => .ret _) fun scanning => .ite ?_ (.ret _)
        exact .bind (perform_stays fun _ => trivial) fun _ => ih
  have sends (frame : Bytes) : Stays (sendAuthentication frame) := by
    refine .bind (authenticationCancelled_stays _) fun cancelled => .when ?_
    refine .bind (txMgmtFrame_stays _ _ fun _ _ => trivial) fun _ => ?_
    refine .bind (authenticationCancelled_stays _) fun cancelled => .bind .fetch fun s => ?_
    exact .when (update_stays fun _ => rfl)
  have sets : Stays setupAuthentication := by
    refine .bind (authenticationCancelled_stays _) fun _ => .when (.bind .fetch fun s => ?_)
    refine .bind (.whenSome fun chan => update_stays fun _ => rfl) fun _ => ?_
    refine .bind (perform_stays fun _ => trivial) fun _ => ?_
    refine .bind (authenticationCancelled_stays _) fun _ => .when ?_
    refine .bind (update_stays fun _ => rfl) fun _ => .bind .fetch fun s => ?_
    exact .bind (update_stays fun _ => rfl) fun _ => sends _
  have settles : Stays settleAuthentication := by
    refine .bind (waits _) fun _ => .when (.bind (authenticationCancelled_stays _) fun _ => ?_)
    refine .when (.bind (.bind .choose fun _ => .ret _) fun scanning => .when ?_)
    exact .bind (perform_stays fun _ => trivial) fun _ => sets
  exact .bind (authenticationCancelled_stays _) fun _ => .bind .fetch fun _ => .when settles

/-- The association request is handed over in the block that it was built in. -/
theorem sendAssociation_hands {frame : Bytes} {resumed : Option (Call × Answer)}
    {start now : Ieee80211} (kept : now.network = start.network)
    (builds : ∃ t : Ieee80211, t.network = start.network ∧ frame = t.assocReq) :
    (sendAssociation frame).Conforms joined.ready
      (fun resumed start request now =>
        joined.keeps resumed start now ∧ joined.calls request now)
      resumed start now fun resumed start _ now =>
        joined.stable now ∧ joined.keeps resumed start now := by
  obtain ⟨t, same, isRequest⟩ := builds
  have sent : Stays (do
      let cancelled ← authenticationCancelled .associateSent
      let s ← Prog.fetch
      Prog.when (!cancelled && s.state = .associating)
        (Prog.update fun s => s.wakeAtTime 3000)) := by
    refine .bind (authenticationCancelled_stays _) fun cancelled => .bind .fetch fun s => ?_
    exact .when (update_stays fun _ => rfl)
  unfold sendAssociation txMgmtFrame succeeds submit perform
  simp only [bind_eq_bind, pure_eq_ret, conforms_bind, conforms_fetch, conforms_choose,
    conforms_ret, conforms_ite, conforms_update, conforms_await]
  have fails : Stays (Prog.update fun s => s.setState .idle) := update_stays fun _ => rfl
  have failed := (fails.upholdsFrom resumed).conforms start now trivial kept
  refine ⟨fun _ => ⟨by rintro ⟨⟩, fun _ => failed⟩, fun _ answer => ⟨fun _ => ?_, fun _ => ?_⟩⟩
  · exact ⟨by rintro ⟨⟩, fun _ => failed⟩
  · refine ⟨⟨kept, t, same.trans kept.symm, isRequest⟩, fun answer later _ => ⟨fun _ => ?_, ?_⟩⟩
    · exact (sent.upholdsFrom _).conforms later later trivial rfl
    · exact fun unsent => absurd trivial unsent

theorem doAssociate_stays : Stays doAssociate := by
  have sends : Stays (do
      let s ← Prog.fetch
      Prog.update fun s => s.bumpTxSeq.setState .associating
      sendAssociation s.assocReq) := by
    refine ⟨fun resumed => ⟨fun start now _ kept => ?_⟩⟩
    exact sendAssociation_hands kept ⟨now, kept, rfl⟩
  refine .bind .fetch fun s => .when (.bind (authenticationCancelled_stays _) fun _ => ?_)
  exact .when sends

theorem publishAssociation_stays : Stays publishAssociation := by
  refine .bind .fetch fun s => .ite (update_stays fun _ => rfl) ?_
  refine .bind (update_stays fun _ => rfl) fun _ =>
    .bind (.when (perform_stays fun _ => trivial)) ?_
  refine fun _ => .bind .fetch fun s => .bind (.when startTxAggregation_stays) fun _ => ?_
  exact update_stays fun _ => rfl

theorem processAssocResponse_stays (skb : Skb) : Stays (processAssocResponse skb) := by
  refine .bind .fetch fun s => .bind (update_stays fun _ => rfl) fun _ => .whenSome ?_
  refine fun fields => .bind (authenticationCancelled_stays _) fun _ => .when ?_
  refine .ite (update_stays fun _ => rfl) (.bind (update_stays fun _ => rfl) fun _ => ?_)
  refine .bind ?_ fun _ => .bind ?_ fun _ => publishAssociation_stays
  · refine .bind .fetch fun s => .when (.bind succeeds_stays fun _ => .when ?_)
    exact .bind (update_stays fun _ => rfl) fun _ => perform_stays fun _ => trivial
  · refine .bind .fetch fun s => .when (.bind (update_stays fun _ => rfl) fun _ => ?_)
    exact perform_stays fun _ => trivial

theorem cmdInstallExternalKey_stays (pairwise : Bool) (keyidx : UInt8) (cipher : Nat)
    (key : Option Bytes) : Stays (cmdInstallExternalKey pairwise keyidx cipher key) := by
  refine .bind .fetch fun s => .ite (.ret _) ?_
  split
  · exact .ret _
  · refine .ite (.ret _) (.bind (installKey_stays _ _ _ _ _) fun _ => ?_)
    exact .ite (.ret _) (.ret _)

theorem cmdSetAssocRsnIE_stays (ie : Option Bytes) : Stays (cmdSetAssocRsnIE ie) := by
  unfold cmdSetAssocRsnIE
  split
  · exact .ret _
  · exact .bind (update_stays fun _ => rfl) fun _ => .ret _

theorem onTimer_stays : Stays onTimer := by
  refine .bind .fetch fun s => ?_
  split
  · exact scanTimeout_stays
  · refine .bind (authenticationCancelled_stays _) fun _ => ?_
    exact .when (update_stays fun _ => rfl)
  · exact update_stays fun _ => rfl
  · exact doDisconnect_stays
  · exact .ret _

/-! ## Reception -/

theorem fillInputPacket_stays (frame payload : Bytes) : Stays (fillInputPacket frame payload) := by
  refine .bind (.await fun _ _ => trivial) fun answer => .ite (.ret _) ?_
  refine .bind succeeds_stays fun _ => .ite (dropMbuf_stays _) (.bind (copies_stays _) fun _ => ?_)
  exact .ite (dropMbuf_stays _) (.ret _)

theorem deliverEthernet_stays (skb : Skb) (msdu : Msdu) : Stays (deliverEthernet skb msdu) := by
  refine .bind .fetch fun s => .when (.bind (fillInputPacket_stays _ _) fun filled => ?_)
  exact .when (perform_stays fun _ => trivial)

theorem tryDeliverAWDLDataFrame_stays (skb : Skb) : Stays (tryDeliverAWDLDataFrame skb) := by
  refine .ite (.bind ?_ fun _ => .bind (update_stays fun _ => rfl) fun _ => .ret _) (.ret _)
  refine .bind .fetch fun s => .when (.bind (fillInputPacket_stays _ _) fun filled => .when ?_)
  exact perform_stays fun _ => trivial

theorem deliverDataFrame_stays (skb : Skb) : Stays (deliverDataFrame skb) := by
  have single : Stays (deliverMsdu skb) := by
    refine .bind (.when (update_stays fun _ => rfl)) fun _ => .bind .fetch fun s => .ite ?_ ?_
    · exact handleEAPOL_stays (skb.data.llc.drop 8)
    · exact deliverEthernet_stays skb (singleMsdu skb.data)
  refine .bind (perform_stays fun _ => trivial) fun _ => .ite ?_ ?_
  · exact .bind (.forEach fun msdu => deliverEthernet_stays _ _) fun _ => update_stays fun _ => rfl
  · exact .bind (.when single) fun _ => update_stays fun _ => rfl

theorem deliverReleased_stays (outcome : RxBaOutcome Skb) : Stays (deliverReleased outcome) :=
  .bind (.forEach deliverDataFrame_stays) fun _ => .when (update_stays fun _ => rfl)

theorem processRxData_stays (skb : Skb) : Stays (processRxData skb) := by
  refine .bind .fetch fun s => .ite (update_stays fun _ => rfl) ?_
  split
  · exact .bind .fetch fun _ => .bind (update_stays fun _ => rfl) fun _ => deliverReleased_stays _
  · exact deliverDataFrame_stays skb

theorem handleBackAction_stays (b : Bytes) : Stays (handleBackAction b) := by
  refine .ite (.when (.bind succeeds_stays fun _ => ?_)) (.ite (.when ?_) (.when ?_))
  · exact .bind (update_stays fun _ => rfl) fun _ => sendAddbaResponse_stays _ _ _ _
  · exact update_stays fun _ => rfl
  · exact .ite (update_stays fun _ => rfl) (update_stays fun _ => rfl)

theorem processRxAuth_stays (skb : Skb) : Stays (processRxAuth skb) := by
  refine .bind .fetch fun s => .bind (.when ?_) fun _ => update_stays fun _ => rfl
  refine .bind (authenticationCancelled_stays _) fun _ => .bind .fetch fun s => .when ?_
  exact .whenSome fun status => .ite doAssociate_stays (update_stays fun _ => rfl)

theorem processRxDeauth_stays (skb : Skb) : Stays (processRxDeauth skb) := by
  refine .bind .fetch fun s => .bind (.when ?_) fun _ => update_stays fun _ => rfl
  refine .bind (update_stays fun _ => rfl) fun _ => .bind clearKeys_stays fun _ => ?_
  refine .bind (update_stays fun _ => rfl) fun _ => .bind .fetch fun s => ?_
  exact .when (perform_stays fun _ => trivial)

theorem processRxAction_stays (skb : Skb) : Stays (processRxAction skb) := by
  refine .bind .fetch fun s => .bind (.when (perform_stays fun _ => trivial)) fun _ => ?_
  refine .bind .fetch fun s => .bind (.when (handleBackAction_stays _)) fun _ => ?_
  exact update_stays fun _ => rfl

theorem processRxMgmt_stays (skb : Skb) : Stays (processRxMgmt skb) := by
  have frees : Stays (Prog.update fun s => s.kfreeSkb skb) := update_stays fun _ => rfl
  refine .bind .fetch fun s => .ite (.ite (processScanResult_stays skb) frees) ?_
  refine .ite (processRxAuth_stays skb) (.ite ?_ (.ite (processRxDeauth_stays skb) ?_))
  · exact .bind .fetch fun s => .ite (processAssocResponse_stays skb) frees
  · exact .ite (processRxAction_stays skb) frees

theorem rxFrame_stays (skb : Skb) : Stays (rxFrame skb) := by
  have frees : Stays (Prog.update fun s => s.kfreeSkb skb) := update_stays fun _ => rfl
  refine .ite frees (.bind (update_stays fun _ => rfl) fun _ => ?_)
  refine .ite (processRxMgmt_stays skb) (.ite ?_ frees)
  exact .bind (tryDeliverAWDLDataFrame_stays skb) fun _ => .when (processRxData_stays skb)

end M

/-- Every operation but `cmdConnect` and `outputPacket` stays in the network. -/
theorem program_stays (op : Op) (other : ∀ m, op ≠ .outputPacket m)
    (fixed : ∀ args, op ≠ .cmdConnect args) : M.Stays op.program := by
  have returns : ∀ {body : M Unit}, M.Stays body → M.Stays (M.returning body) :=
    fun body => .bind body fun _ => .ret _
  have reports : ∀ {body : M Bool}, M.Stays body → M.Stays (M.reporting body) :=
    fun body => .bind body fun _ => .ite (.ret _) (.ret _)
  cases op with
  | outputPacket m => exact absurd rfl (other m)
  | cmdConnect args => exact absurd rfl (fixed args)
  | rxFrame skb => exact returns (M.rxFrame_stays skb)
  | scanDone aborted => exact returns (M.scanDone_stays aborted)
  | timerFired deadline =>
      exact returns (.bind (M.update_stays fun _ => rfl) fun _ => M.onTimer_stays)
  | reorderTimerFired =>
      refine returns (.bind (M.update_stays fun _ => rfl) fun _ => .bind .fetch fun s => ?_)
      exact .bind (M.update_stays fun _ => rfl) fun _ => M.deliverReleased_stays _
  | connectCall =>
      refine returns (.bind .fetch fun s => .bind (M.update_stays fun _ => rfl) fun _ => ?_)
      exact .bind (.when M.doAuthenticate_stays) fun _ => M.update_stays fun _ => rfl
  | manualScanCall =>
      refine returns (.bind .fetch fun s => .bind (M.update_stays fun _ => rfl) fun _ => ?_)
      exact .bind (.when M.runManualScan_stays) fun _ => M.update_stays fun _ => rfl
  | txRawManagementFrame frame => exact reports (M.txRawManagementFrame_stays frame)
  | txAWDLDataFrame m => exact reports (M.txAWDLDataFrame_stays m)
  | cmdScan => exact M.cmdScan_stays
  | cmdDisconnect ticket => exact M.cmdDisconnect_stays
  | cmdPowerOn => exact M.cmdPowerOn_stays
  | cmdPowerOff ticket => exact M.cmdPowerOff_stays
  | cmdInstallExternalKey pairwise keyidx cipher key =>
      exact M.cmdInstallExternalKey_stays pairwise keyidx cipher key
  | cmdSetAssocRsnIE ie => exact M.cmdSetAssocRsnIE_stays ie
  | setReceiveMulticast active => exact M.setReceiveMulticast_stays active
  | setAWDLReceiveMode active => exact M.setAWDLReceiveMode_stays active
  | setAWDLChannel channel => exact M.setAWDLChannel_stays channel
  | powerOn => exact M.powerOn_stays
  | powerOff => exact returns M.powerOff_stays
  | stop => exact returns M.stop_stays

/-! ## The steps of the system -/

/-- `cmdConnect` chose a target. -/
def Op.selects : Op → Stop Call IOReturn → Bool
  | .cmdConnect _, .returns .success | .cmdConnect _, .returns .unsupported => true
  | _, _ => false

/-- What one atomic block does to the network, and what it sends in it. -/
structure JoinStep (op : Op) (resumed : Option (Call × Answer)) (start : Ieee80211)
    (stop : Stop Call IOReturn) (now : Ieee80211) : Prop where
  stays : op.selects stop = false → now.network = start.network
  announces : (∀ m, op ≠ .outputPacket m) → ∀ request, stop = .waits request →
    request.Announces now

theorem JoinStep.of_joined (op : Op) {resumed : Option (Call × Answer)} {start now : Ieee80211}
    {stop : Stop Call IOReturn} (block : joined.Block resumed start stop now) :
    JoinStep op resumed start stop now :=
  ⟨fun _ => block.1, fun _ => block.2⟩

/-- A packet of the stack leaves the network alone. -/
theorem outputPacket_joins (m : Mbuf) (s : Ieee80211) :
    rtw88.Follows JoinStep (.outputPacket m) (M.outputPacket m) none s := by
  have stays : ∀ {resumed : Option (Call × Answer)} {start now : Ieee80211}
      {stop : Stop Call IOReturn}, now.network = start.network →
      JoinStep (.outputPacket m) resumed start stop now :=
    fun same => ⟨fun _ => same, fun other => absurd rfl (other m)⟩
  unfold System.Follows M.outputPacket
  simp only [Prog.bind_eq_bind, Prog.pure_eq_ret, Prog.conforms_bind, Prog.conforms_fetch,
    Prog.conforms_ite, Prog.conforms_update, Prog.conforms_ret]
  have same : (s.takeSkb.bumpTxPn (Bytes.be16At (m.data.take 14) 12)).network = s.network := rfl
  generalize isCounted : s.takeSkb.bumpTxPn (Bytes.be16At (m.data.take 14) 12) = counted at same
  refine ⟨fun _ => stays rfl, fun _ => M.txDataFrame_conforms m rfl isCounted rfl ?_ ?_ ?_ ?_⟩
  · exact ⟨fun _ => stays rfl, fun _ => stays rfl⟩
  · intro _ lost
    have same := (Ieee80211.network_dropSkb counted lost m).trans same
    exact ⟨fun _ => stays same, fun _ => stays same⟩
  · exact fun _ handed => stays ((Ieee80211.network_handSkb counted handed _).trans same)
  · exact fun _ later _ => ⟨fun _ => stays rfl, fun _ => stays rfl⟩

/-- Only a block in which `cmdConnect` chooses a target leaves the network. -/
theorem cmdConnect_joins (args : ConnectArgs) (s : Ieee80211) :
    rtw88.Follows JoinStep (.cmdConnect args) (M.cmdConnect args) none s := by
  have joins : ∀ {resumed : Option (Call × Answer)} {start now : Ieee80211} (value : IOReturn),
      joined.stable now ∧ joined.keeps resumed start now →
      JoinStep (.cmdConnect args) resumed start (.returns value) now :=
    fun value held => ⟨fun _ => held.2, fun _ => nofun⟩
  have moves : ∀ {resumed : Option (Call × Answer)} {start now : Ieee80211} {value : IOReturn},
      Op.selects (.cmdConnect args) (.returns value) = true →
      JoinStep (.cmdConnect args) resumed start (.returns value) now :=
    fun selects => ⟨fun no => absurd (selects.symm.trans no) nofun, fun _ => nofun⟩
  have asks : ∀ (resumed : Option (Call × Answer)) (start now : Ieee80211) (request : Call),
      joined.keeps resumed start now ∧ joined.calls request now →
      JoinStep (.cmdConnect args) resumed start (.waits request) now := by
    refine fun resumed start now request held => ⟨fun _ => held.1, ?_⟩
    rintro - _ ⟨⟩
    exact held.2
  unfold System.Follows M.cmdConnect M.connectIdle
  simp only [Prog.bind_eq_bind, Prog.pure_eq_ret, Prog.conforms_bind, Prog.conforms_ite,
    Prog.conforms_fetch, Prog.conforms_ret]
  have aborts := ((M.abortActiveScan_stays true).upholdsFrom none).conforms s s trivial rfl
  refine aborts.mono (fun resumed start request now => asks resumed start now request) ?_
  refine fun resumed start idle now held => ⟨fun _ => ⟨fun _ => joins _ held, fun _ => ?_⟩,
    fun _ => joins _ held⟩
  refine ⟨fun _ => joins _ held, fun _ => ⟨fun _ => joins _ held, fun _ => ?_⟩⟩
  have clears := (M.clearKeys_stays.upholdsFrom resumed).conforms start now trivial held.2
  refine clears.mono (fun resumed start request now => asks resumed start now request) ?_
  intro resumed start _ now held
  have releases := (M.releaseSta_stays.upholdsFrom resumed).conforms start now trivial held.2
  refine releases.mono (fun resumed start request now => asks resumed start now request) ?_
  intro resumed start _ now held
  split
  · exact joins _ held
  · simp only [Prog.conforms_update, Prog.conforms_ite, Prog.conforms_ret, Prog.conforms_bind]
    exact ⟨fun _ => moves rfl, fun _ => moves rfl⟩

theorem respects_joinStep : rtw88.Respects JoinStep := by
  intro op s enabled
  by_cases output : ∃ m, op = .outputPacket m
  · obtain ⟨m, rfl⟩ := output
    exact outputPacket_joins m s
  by_cases connects : ∃ args, op = .cmdConnect args
  · obtain ⟨args, rfl⟩ := connects
    exact cmdConnect_joins args s
  · have stays := program_stays op (fun m same => output ⟨m, same⟩)
      fun args same => connects ⟨args, same⟩
    exact stays.follows rfl (fun _ _ _ _ => JoinStep.of_joined op) trivial

end AirportRtw88
