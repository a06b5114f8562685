import AirportRtw88.ScanSteps
import AirportRtw88.Interleave.Discipline

/-!
# The link

The fields that a connection to an access point consists of, and the functions that leave
them alone: they transmit frames without a key, scan, tune the radio or deliver packets.
Such a function is `IsQuiet`.
-/

namespace AirportRtw88

open Interleave Bytes

/-- The fields that the connection consists of, with the cache that it is chosen from. -/
structure Link where
  state : Rtw88State
  phase : Nat
  scanReturnState : ScanReturn
  powered : Bool
  pmkProvided : Bool
  externalSupplicant : Bool
  macAddr : Bytes
  cache : List Bss
  targetBSS : Bss
  password : Bytes
  pmk : Bytes
  ptk : Bytes
  ptkConf : Option KeyConf
  gtkConf : Option KeyConf
  anonce : Bytes
  snonce : Bytes
  ccmpTxPn : Bytes
  wpa2 : Bool
  txBaActive : Bool
  baTid : Nat
  baDialog : Nat
  baBufSize : Nat
  hasRxBa : Fin kRxBaNumTid → Bool
  parent : Bool
  delegate : Bool
  rtwdev : Bool
  ops : Option Ops
  vif : Option Vif
  sta : Option Sta
  protectedFrames : List TxSkb

namespace Ieee80211

/-- The protected frames handed over, the last one first. -/
def protectedFrames (s : Ieee80211) : List TxSkb :=
  s.submitted.filter fun skb => skb.hwKey.isSome

def link (s : Ieee80211) : Link where
  state := s.state
  phase := s.phase
  scanReturnState := s.scanReturnState
  powered := s.powered
  pmkProvided := s.pmkProvided
  externalSupplicant := s.externalSupplicant
  macAddr := s.macAddr
  cache := s.bssList
  targetBSS := s.targetBSS
  password := s.password
  pmk := s.pmk
  ptk := s.ptk
  ptkConf := s.ptkConf
  gtkConf := s.gtkConf
  anonce := s.anonce
  snonce := s.snonce
  ccmpTxPn := s.ccmpTxPn
  wpa2 := s.wpa2
  txBaActive := s.txBaActive
  baTid := s.baTid
  baDialog := s.baDialog
  baBufSize := s.baBufSize
  hasRxBa := fun tid => (s.rxBa tid).isSome
  parent := s.parent
  delegate := s.delegate
  rtwdev := s.rtwdev
  ops := s.hw.map Hw.ops
  vif := s.vif
  sta := s.sta
  protectedFrames := s.protectedFrames

/-- What holds whenever a function runs: `Regular`, and buffers have the lengths of their
arrays. -/
structure Sound (s : Ieee80211) : Prop extends s.Regular where
  macAddr : s.macAddr.length = 6
  target : s.targetBSS.bssid.length = 6
  cache : ∀ bss ∈ s.bssList, bss.bssid.length = 6
  txPn : s.ccmpTxPn.length = 6

theorem Sound.of_link {s t : Ieee80211} (sound : s.Sound) (same : t.link = s.link) : t.Sound := by
  simp only [link, Link.mk.injEq] at same
  refine ⟨⟨?_, ?_⟩, ?_, ?_, ?_, ?_⟩ <;> simp only [same]
  · exact sound.scans
  · exact sound.connects
  · exact sound.macAddr
  · exact sound.target
  · exact sound.cache
  · exact sound.txPn

theorem initial.sound {s : Ieee80211} (initial : s.initial) : s.Sound := by
  obtain ⟨attached, -, rfl⟩ := initial
  exact ⟨⟨rfl, nofun⟩, attached.length_macAddr, rfl, nofun, rfl⟩

/-- A frame without a key is not protected. -/
theorem link_recordTx_of_link {s t : Ieee80211} (same : s.link = t.link) (skb : TxSkb) :
    (s.recordTx skb).link = (t.recordTx skb).link := by
  have frames : s.protectedFrames = t.protectedFrames := congrArg Link.protectedFrames same
  have recorded : ∀ u : Ieee80211, (u.recordTx skb).link =
      { u.link with
        protectedFrames := [skb].filter (fun skb => skb.hwKey.isSome) ++ u.protectedFrames } := by
    intro u
    simp only [link, protectedFrames, recordTx, ← List.filter_append, List.singleton_append]
  rw [recorded, recorded, same, frames]

theorem link_recordTx (s : Ieee80211) {skb : TxSkb} (bare : skb.hwKey = none) :
    (s.recordTx skb).link = s.link := by
  simp [link, protectedFrames, recordTx, bare]

theorem link_tuneTo {chan : Channel} (s : Ieee80211) : (s.tuneTo chan).link = s.link := by
  cases tuned : s.hw <;> simp [link, protectedFrames, tuneTo, modifyChandef, tuned]

theorem link_handSkb (s : Ieee80211) (number : Nat) :
    (s.bumpDataSeq.handSkb number).link = s.link := by
  simp only [link, protectedFrames, bumpDataSeq, handSkb]

theorem link_dropSkb (s : Ieee80211) (number : Nat) (m : Mbuf) :
    ((s.bumpDataSeq.dropSkb number).mbufFreem m).link = s.link := by
  simp only [link, protectedFrames, bumpDataSeq, dropSkb, mbufFreem]

/-- EAPOL frames are sent in the clear. -/
theorem link_bumpTxPn (s : Ieee80211) : (s.bumpTxPn ethPPae).link = s.link := by
  simp [link, protectedFrames, bumpTxPn, protects]

end Ieee80211

/-- A QoS data frame that is handed over while the uplink agreement is up; only such frames
are marked for aggregation. -/
def TxSkb.MayAggregate (skb : TxSkb) (s : Ieee80211) : Prop :=
  skb.flags &&& txCtlAmpdu ≠ 0 → skb.data.isDataQos = true ∧ s.txBaActive = true

/-- A data frame that leaves in the clear. -/
def TxSkb.Eapol (skb : TxSkb) (s : Ieee80211) : Prop :=
  skb.protocol = ethPPae ∧ skb.hwKey = none ∧ skb.MayAggregate s

/-! ## The frames of `txDataFrame` -/

namespace Ieee80211

/-- The frame control field of `encapsulate`. -/
def dataFrameControl (s : Ieee80211) (ethertype : Nat) : Nat :=
  ftypeData ||| fctlToDS ||| (if s.htAllowed then stypeQosData else 0) |||
    (if s.protects ethertype then fctlProtected else 0)

/-- The MAC header of `encapsulate`. -/
def dataHeader (s : Ieee80211) (eh : Bytes) : Bytes :=
  header3addr (s.dataFrameControl (eh.be16At 12)) s.targetBSS.bssid s.macAddr (eh.take 6)
      ((if s.htAllowed then s.dataSeq else s.txSeq) % 4096 * 16) ++
    (if s.htAllowed then [UInt8.ofNat (s.baTid &&& 0xf), 0] else [])

section

variable (s : Ieee80211) (eh payload : Bytes)

theorem data_encapsulate :
    (s.encapsulate eh payload).data =
      s.dataHeader eh ++
        ((if s.protects (eh.be16At 12) then
          ccmpHeader s.ccmpTxPn ((s.ptkConf.map KeyConf.keyidx).getD 0) else []) ++
        (snapHeader (eh.be16At 12) ++ payload)) := by
  simp only [encapsulate, dataHeader, dataFrameControl, List.append_assoc]

theorem frameControl_encapsulate :
    (s.encapsulate eh payload).data.frameControl = s.dataFrameControl (eh.be16At 12) := by
  have small : s.dataFrameControl (eh.be16At 12) < 65536 := by
    unfold dataFrameControl
    split <;> split <;> decide
  rw [data_encapsulate]
  unfold dataHeader header3addr Bytes.frameControl
  simpa only [List.append_assoc, List.nil_append, List.length_nil] using le16At_le16 [] _ _ small

/-- Only QoS frames are marked for aggregation, and only while the agreement is up. -/
theorem mayAggregate_encapsulate {now : Ieee80211} (same : now.txBaActive = s.txBaActive) :
    (s.encapsulate eh payload).MayAggregate now := by
  intro marked
  have agreed : s.htAllowed = true ∧ s.txBaActive = true := by
    have flags : (s.encapsulate eh payload).flags =
        txCtlFirstFragment ||| (if s.htAllowed && s.txBaActive then txCtlAmpdu else 0) := rfl
    rw [flags] at marked
    by_contra fails
    rw [← Bool.and_eq_true] at fails
    exact marked (by rw [if_neg fails]; decide)
  refine ⟨?_, same.trans agreed.2⟩
  unfold Bytes.isDataQos
  rw [frameControl_encapsulate]
  unfold dataFrameControl
  cases s.protects (eh.be16At 12) <;> simp only [agreed.1] <;> decide

end

end Ieee80211

/-- The requests that neither concern the link nor send over it, EAPOL frames apart, nor
deliver to the stack. -/
def Call.Mute : Call → Ieee80211 → Prop
  | .setLinkStatus _, _ | .deliver _, _ | .injectRxFrame _ _, _ | .tx .blockAck _, _ => False
  | .tx .data skb, s => skb.Eapol s
  | _, _ => True

/-- What quiet functions have in common. -/
def quiet : Discipline Ieee80211 Call Answer where
  ready := (rtw88.guarded Ieee80211.Sound).ready
  stable := Ieee80211.Sound
  keeps _ before after := after.link = before.link
  calls := Call.Mute
  refl := fun _ _ => rfl
  trans := fun _ _ _ _ early late => late.trans early
  respected := fun _ _ isReady => isReady.2
  preserved := fun _ _ _ => Ieee80211.Sound.of_link

namespace M

open Ieee80211 Prog

/-- The function leaves the link alone. -/
abbrev IsQuiet {α : Type} (program : M α) : Prop :=
  program.Upholds quiet

theorem isQuiet_update {change : Ieee80211 → Ieee80211} (same : ∀ s, (change s).link = s.link) :
    IsQuiet (Prog.update change) :=
  .update fun _ s _ => same s

theorem isQuiet_perform {call : Call} (mute : ∀ s, call.Mute s) : IsQuiet (perform call) :=
  .bind (.await fun s _ => mute s) fun _ => .ret ()

theorem isQuiet_succeeds : IsQuiet succeeds :=
  .bind .choose fun _ => .ret _

theorem isQuiet_authenticationCancelled (check : CancelCheck) :
    IsQuiet (authenticationCancelled check) :=
  .bind .fetch fun _ => .bind (isQuiet_perform (fun _ => trivial)) fun _ => .ret _

theorem isQuiet_submit {site : TxSite} {skb : TxSkb} (bare : skb.hwKey = none)
    (mute : ∀ s, (Call.tx site skb).Mute s) : IsQuiet (submit site skb) :=
  .bind (isQuiet_update fun s => link_recordTx s bare) fun _ => isQuiet_perform mute

/-! ## Transmission -/

theorem txMgmtFrame_isQuiet (site : TxSite) (frame : Bytes)
    (mute : ∀ skb s, (Call.tx site skb).Mute s) :
    IsQuiet (txMgmtFrame site frame) := by
  refine .bind .fetch fun s => .ite (.ret _) (.bind isQuiet_succeeds fun built => ?_)
  exact .ite (.ret _) (.bind (isQuiet_submit rfl (mute _)) fun _ => .ret _)

theorem dropMbuf_isQuiet (m : Mbuf) : IsQuiet (dropMbuf m) :=
  .bind (isQuiet_update fun _ => rfl) fun _ => .ret _

theorem allocSkb_isQuiet : IsQuiet allocSkb := by
  refine .bind .fetch fun s => .bind isQuiet_succeeds fun built => .ite ?_ (.ret _)
  exact .bind (isQuiet_update fun _ => rfl) fun _ => .ret _

theorem copies_isQuiet (payload : Bytes) : IsQuiet (copies payload) :=
  .ite (.ret _) isQuiet_succeeds

theorem txNullFunc_isQuiet (powerSave : Bool) : IsQuiet (txNullFunc powerSave) := by
  refine .bind .fetch fun s => .ite (.ret _) (.bind isQuiet_succeeds fun built => ?_)
  refine .ite (.ret _) (.bind (isQuiet_update fun _ => rfl) fun _ => ?_)
  exact .bind (isQuiet_submit rfl (fun _ => trivial)) fun _ => .ret _

theorem txProbeRequest_isQuiet : IsQuiet txProbeRequest := by
  refine .bind .fetch fun s => .ite (.ret _) (.bind (isQuiet_update fun _ => rfl) fun _ => ?_)
  exact txMgmtFrame_isQuiet _ _ fun _ _ => trivial

theorem txRawManagementFrame_isQuiet (frame : Bytes) : IsQuiet (txRawManagementFrame frame) :=
  .ite (.ret _) (.ite (.ret _) (txMgmtFrame_isQuiet _ _ fun _ _ => trivial))

theorem txAWDLDataFrame_isQuiet (m : Mbuf) : IsQuiet (txAWDLDataFrame m) := by
  refine .bind .fetch fun s => .ite (dropMbuf_isQuiet m) (.ite (dropMbuf_isQuiet m) ?_)
  refine .bind isQuiet_succeeds fun built => .ite (dropMbuf_isQuiet m) ?_
  refine .bind allocSkb_isQuiet fun skb => ?_
  cases skb with
  | none => exact dropMbuf_isQuiet m
  | some number =>
      refine .bind (isQuiet_update fun _ => rfl) fun _ => .bind (copies_isQuiet _) fun copied => ?_
      refine .ite (.bind (isQuiet_update fun _ => rfl) fun _ => dropMbuf_isQuiet m) ?_
      refine .bind (isQuiet_update fun _ => rfl) fun _ => ?_
      refine .bind (isQuiet_submit rfl (fun _ => trivial)) fun _ => ?_
      exact .bind (isQuiet_update fun _ => rfl) fun _ => .ret _

/-- A packet is dropped, it is dropped after its packet number was counted, or its frame is
handed over. -/
theorem txDataFrame_conforms (m : Mbuf) {ready : Call → Ieee80211 → Prop}
    {step : Option (Call × Answer) → Ieee80211 → Call → Ieee80211 → Prop}
    {resumed : Option (Call × Answer)} {start now : Ieee80211}
    {post : Option (Call × Answer) → Ieee80211 → Bool → Ieee80211 → Prop}
    {header : Bytes} (isHeader : m.data.take 14 = header) {counted : Ieee80211}
    (counts : now.takeSkb.bumpTxPn (header.be16At 12) = counted) {frame : TxSkb}
    (isFrame : counted.encapsulate header (m.data.drop 14) = frame)
    (drops : post resumed start false (now.mbufFreem m))
    (loses : header.length = 14 → ∀ number,
      post resumed start false ((counted.bumpDataSeq.dropSkb number).mbufFreem m))
    (hands : header.length = 14 → ∀ number,
      step resumed start (.tx .data frame) ((counted.bumpDataSeq.handSkb number).recordTx frame))
    (ends : ∀ answer later, ready (.tx .data frame) later →
      post (some (.tx .data frame, answer)) later true (later.mbufFreem m)) :
    (txDataFrame m).Conforms ready step resumed start now post := by
  unfold txDataFrame allocSkb dropMbuf copies succeeds submit perform
  simp only [bind_eq_bind, pure_eq_ret, conforms_bind, conforms_fetch, conforms_ite,
    conforms_update, conforms_ret, conforms_choose, conforms_await, isHeader, counts, isFrame]
  have length : ¬ (m.data.length < 14 ∨ m.data.length > 2048) → header.length = 14 := by
    rw [← isHeader, List.length_take]
    omega
  refine ⟨fun _ => drops, fun _ => ⟨fun _ => drops, fun long answer => ⟨fun _ => drops, ?_⟩⟩⟩
  refine fun _ answer => ⟨fun _ => ⟨fun _ => ⟨by rintro ⟨⟩, fun _ => ?_⟩, ?_⟩, fun _ => drops⟩
  · exact ⟨hands (length long) _, ends⟩
  · refine fun _ answer => ⟨fun _ => loses (length long) _, fun _ => ?_⟩
    exact ⟨hands (length long) _, ends⟩

/-- EAPOL frames leave in the clear. -/
theorem txDataFrame_isQuiet {m : Mbuf} (eapol : Bytes.be16At (m.data.take 14) 12 = ethPPae) :
    IsQuiet (txDataFrame m) := by
  refine ⟨fun resumed => ⟨fun start now sound kept => ?_⟩⟩
  have counts : (now.takeSkb.bumpTxPn (Bytes.be16At (m.data.take 14) 12)).link = start.link := by
    rw [eapol, link_bumpTxPn]
    exact kept
  have bare : ((now.takeSkb.bumpTxPn (Bytes.be16At (m.data.take 14) 12)).encapsulate
      (m.data.take 14) (m.data.drop 14)).hwKey = none := by
    simp [encapsulate, protects, eapol]
  have sounds : ∀ {later : Ieee80211}, later.link = start.link → later.Sound := fun same =>
    sound.of_link (same.trans kept.symm)
  generalize isCounted : now.takeSkb.bumpTxPn (Bytes.be16At (m.data.take 14) 12) = counted at *
  have dropped : (now.mbufFreem m).link = start.link := kept
  refine txDataFrame_conforms m rfl isCounted rfl ⟨sounds dropped, dropped⟩ ?_ ?_ ?_
  · intro _ number
    have lost := (link_dropSkb counted number m).trans counts
    exact ⟨sounds lost, lost⟩
  · intro _ number
    have handed := (link_handSkb counted number).trans counts
    have recorded := (link_recordTx (counted.bumpDataSeq.handSkb number) bare).trans handed
    have same := congrArg Link.txBaActive (recorded.trans counts.symm)
    exact ⟨recorded, eapol, bare, mayAggregate_encapsulate _ _ _ same⟩
  · intro _ later isReady
    have same : (later.mbufFreem m).link = later.link := rfl
    exact ⟨isReady.2.of_link same, same⟩

theorem ethertype_eapolKeyFrame {s : Ieee80211} (target : s.targetBSS.bssid.length = 6)
    (macAddr : s.macAddr.length = 6) (step : Nat)
    (replayCounter : Bytes) (install ack mic : Bool) :
    Bytes.be16At ((s.eapolKeyFrame step replayCounter install ack mic).take 14) 12 = ethPPae := by
  have addresses : (s.targetBSS.bssid ++ s.macAddr).length = 12 := by
    rw [List.length_append, target, macAddr]
  have word := fun rest => be16At_be16 (s.targetBSS.bssid ++ s.macAddr) rest
    ethPPae (by decide)
  rw [be16At_take (by decide), ← addresses]
  simpa only [eapolKeyFrame, List.append_assoc] using word _

theorem sendEAPOLKey_isQuiet (step : Nat) (replayCounter : Bytes) (install ack mic : Bool) :
    IsQuiet (sendEAPOLKey step replayCounter install ack mic) := by
  refine .fetched fun s sound => .bind isQuiet_succeeds fun allocated => .when ?_
  have eapol := ethertype_eapolKeyFrame sound.target sound.macAddr step replayCounter
    install ack mic
  exact .bind (txDataFrame_isQuiet eapol) fun _ => .ret _

theorem eapolMicOk_isQuiet (kck eapol : Bytes) : IsQuiet (eapolMicOk kck eapol) :=
  .ite (.ret _) (.bind isQuiet_succeeds fun _ => .ite (.ret _) (.ret _))

/-! ## Scans and the radio -/

/-- A scan does not return to a connection. -/
theorem restoreConnectedChannel_isQuiet : IsQuiet restoreConnectedChannel := by
  refine .fetched fun s sound => ?_
  simp only [sound.scans]
  exact .ret ()

theorem waitForScan_isQuiet (rounds : Nat) : IsQuiet (waitForScan rounds) := by
  induction rounds with
  | zero => exact .ret ()
  | succ rounds ih =>
      exact .bind .fetch fun s => .when (.bind (isQuiet_perform (fun _ => trivial)) fun _ => ih)

theorem setAWDLChannel_isQuiet (channel : Nat) : IsQuiet (setAWDLChannel channel) := by
  refine .bind .fetch fun s => .ite (.ret _) (.bind (isQuiet_update fun _ => rfl) fun _ => ?_)
  refine .ite (.ret _) ?_
  split
  · exact .ret _
  · exact .bind (isQuiet_update link_tuneTo) fun _ =>
      .bind (isQuiet_perform (fun _ => trivial)) fun _ => .ret _

theorem startManualScan_isQuiet (channels : List Channel) : IsQuiet (startManualScan channels) :=
  .bind (isQuiet_update fun _ => rfl) fun _ => .bind (isQuiet_update fun _ => rfl) fun _ => .ret _

theorem startHwScan_isQuiet (channels : List Channel) : IsQuiet (startHwScan channels) := by
  refine .bind (isQuiet_update fun _ => rfl) fun _ =>
    .bind (.await fun _ _ => trivial) fun answer => ?_
  refine .ite (startManualScan_isQuiet _) (.bind (isQuiet_update fun _ => rfl) fun _ => ?_)
  exact .bind (isQuiet_update fun _ => rfl) fun _ => .ret _

theorem scanChannel_isQuiet (connectedScan : Bool) (chan : Channel) :
    IsQuiet (scanChannel connectedScan chan) := by
  refine .bind (isQuiet_update fun _ => rfl) fun _ => .bind (.when ?_) fun _ => ?_
  · exact .bind restoreConnectedChannel_isQuiet fun _ => .bind (txNullFunc_isQuiet _) fun _ =>
      isQuiet_perform fun _ => trivial
  refine .bind (isQuiet_update link_tuneTo) fun _ =>
    .bind (isQuiet_perform (fun _ => trivial)) fun _ => ?_
  refine .bind (.when (.bind txProbeRequest_isQuiet fun _ => .ret _)) fun _ => ?_
  refine .bind (isQuiet_perform (fun _ => trivial)) fun _ => .bind .fetch fun s => .when ?_
  refine .bind restoreConnectedChannel_isQuiet fun _ => .bind (txNullFunc_isQuiet _) fun _ => ?_
  exact .bind (isQuiet_update fun _ => rfl) fun _ => isQuiet_perform fun _ => trivial

theorem scanChannels_isQuiet (connectedScan : Bool) (remaining i : Nat) :
    IsQuiet (scanChannels connectedScan remaining i) := by
  induction remaining generalizing i with
  | zero => exact .ret ()
  | succ remaining ih =>
      refine .bind .fetch fun s => .when (.bind (.whenSome fun chan => ?_) fun _ => ih _)
      exact scanChannel_isQuiet _ chan

theorem setReceiveMulticast_isQuiet (active : Bool) : IsQuiet (setReceiveMulticast active) := by
  refine .bind .fetch fun s => .ite (.ret _) (.bind (isQuiet_update fun _ => rfl) fun _ => ?_)
  exact .bind (.when (isQuiet_perform fun _ => trivial)) fun _ => .ret _

theorem setAWDLReceiveMode_isQuiet (active : Bool) : IsQuiet (setAWDLReceiveMode active) := by
  refine .bind .fetch fun s => .ite (.ret _) (.bind (isQuiet_update fun _ => rfl) fun _ => ?_)
  exact .bind (isQuiet_perform (fun _ => trivial)) fun _ => .ret _

/-! ## The authentication thread and the commands -/

theorem drainConnectCall_isQuiet : IsQuiet drainConnectCall := by
  refine .bind .choose fun answer => .bind (isQuiet_update fun _ => rfl) fun _ => ?_
  exact .bind (isQuiet_perform (fun _ => trivial)) fun _ => isQuiet_update fun _ => rfl

theorem cancelAuthentication_isQuiet : IsQuiet cancelAuthentication :=
  .bind (isQuiet_update fun _ => rfl) fun _ => drainConnectCall_isQuiet

theorem driverScanning_isQuiet : IsQuiet driverScanning :=
  .bind .choose fun _ => .ret _

theorem waitForDriver_isQuiet (rounds : Nat) : IsQuiet (waitForDriver rounds) := by
  induction rounds with
  | zero => exact .ret _
  | succ rounds ih =>
      refine .bind (isQuiet_authenticationCancelled _) fun cancelled => .ite (.ret _) ?_
      refine .bind driverScanning_isQuiet fun scanning => .ite ?_ (.ret _)
      exact .bind (isQuiet_perform (fun _ => trivial)) fun _ => ih

theorem sendAuthentication_isQuiet (frame : Bytes) : IsQuiet (sendAuthentication frame) := by
  refine .bind (isQuiet_authenticationCancelled _) fun cancelled => .when ?_
  refine .bind (txMgmtFrame_isQuiet _ _ fun _ _ => trivial) fun _ => ?_
  refine .bind (isQuiet_authenticationCancelled _) fun cancelled => .bind .fetch fun s => ?_
  exact .when (isQuiet_update fun _ => rfl)

theorem cmdSetAssocRsnIE_isQuiet (ie : Option Bytes) : IsQuiet (cmdSetAssocRsnIE ie) := by
  unfold cmdSetAssocRsnIE
  split
  · exact .ret _
  · exact .bind (isQuiet_update fun _ => rfl) fun _ => .ret _

/-! ## Delivery -/

theorem fillInputPacket_isQuiet (frame payload : Bytes) :
    IsQuiet (fillInputPacket frame payload) := by
  refine .bind (.await fun _ _ => trivial) fun answer =>
    .ite (.ret _) (.bind isQuiet_succeeds fun _ => ?_)
  refine .ite (dropMbuf_isQuiet _) (.bind (copies_isQuiet _) fun _ => ?_)
  exact .ite (dropMbuf_isQuiet _) (.ret _)

theorem tryDeliverAWDLDataFrame_isQuiet (skb : Skb) : IsQuiet (tryDeliverAWDLDataFrame skb) := by
  refine .ite (.bind ?_ fun _ => .bind (isQuiet_update fun _ => rfl) fun _ => .ret _) (.ret _)
  refine .bind .fetch fun s => .when (.bind (fillInputPacket_isQuiet _ _) fun filled => .when ?_)
  exact isQuiet_perform fun _ => trivial

end M

end AirportRtw88
