import AirportRtw88.Link
import AirportRtw88.Steps

/-!
# What every function keeps

Buffers keep their lengths, and apart from `outputPacket` no function hands over a protected
frame or counts the packet number up: a pairwise key is removed, or it is installed with
packet number zero.
-/

namespace AirportRtw88

open Interleave Bytes

namespace Ieee80211

/-- The fields that are set once. -/
def fixed (s : Ieee80211) : Bytes × Nat × Nat × Bool × Bool :=
  (s.macAddr, s.baTid, s.baBufSize, s.parent, s.delegate)

/-- What happens to the pairwise key in a block outside `outputPacket`: nothing, or it is
removed, or the block resumed from the installation of the key and numbers its packets anew. -/
def KeyWrite (resumed : Option (Call × Answer)) (before after : Ieee80211) : Prop :=
  ((after.ptkConf = before.ptkConf ∨ after.ptkConf = none) ∧
      after.ccmpTxPn = before.ccmpTxPn) ∨
    (after.ccmpTxPn = zeros 6 ∧
      (after.ptkConf = none ∨
        ∃ key answer, after.ptkConf = some key ∧ answer.code = 0 ∧
          resumed = some (.setKey .installKey true true key, answer)))

/-- What a block that resumed from `resumed` does. -/
structure Steady (resumed : Option (Call × Answer)) (before after : Ieee80211) : Prop where
  fixed : after.fixed = before.fixed
  sound : before.Sound → after.Sound
  sent : after.protectedFrames = before.protectedFrames
  keys : KeyWrite resumed before after

section

variable {resumed : Option (Call × Answer)}

theorem Steady.of_link {before after : Ieee80211} (same : after.link = before.link) :
    Steady resumed before after := by
  refine ⟨?_, fun sound => sound.of_link same, congrArg Link.protectedFrames same,
    .inl ⟨.inl (congrArg Link.ptkConf same), congrArg Link.ccmpTxPn same⟩⟩
  simp only [link, Link.mk.injEq] at same
  simp [Ieee80211.fixed, same]

theorem Steady.refl (s : Ieee80211) : Steady resumed s s :=
  .of_link rfl

/-- The invariant after a step that resumes from nothing in particular. -/
theorem sound_of_steady {before after : Ieee80211} (steady : Steady none before after)
    (sound : before.Sound) : after.Sound :=
  steady.sound sound

theorem Steady.trans {first second third : Ieee80211} (early : Steady resumed first second)
    (late : Steady resumed second third) : Steady resumed first third := by
  refine ⟨late.fixed.trans early.fixed, fun sound => late.sound (early.sound sound),
    late.sent.trans early.sent, ?_⟩
  have early := early.keys
  have late := late.keys
  unfold KeyWrite at *
  grind

/-- The fields that `Steady` is about, without the state of the connection. -/
def core (s : Ieee80211) : (Bytes × Nat × Nat × Bool × Bool) × List Bss × Bss × Option KeyConf ×
    Bytes × List TxSkb :=
  (s.fixed, s.bssList, s.targetBSS, s.ptkConf, s.ccmpTxPn, s.protectedFrames)

/-- What `Regular` is about. -/
def stage (s : Ieee80211) : Rtw88State × ScanReturn :=
  (s.state, s.scanReturnState)

/-- A write of other fields. -/
theorem Steady.of_core {before after : Ieee80211} (same : after.core = before.core)
    (regular : before.Regular → after.Regular) : Steady resumed before after := by
  simp only [core, Prod.mk.injEq] at same
  obtain ⟨fixed, cache, target, key, txPn, sent⟩ := same
  refine ⟨fixed, fun sound => ⟨regular sound.toRegular, ?_, ?_, ?_, ?_⟩, sent,
    .inl ⟨.inl key, txPn⟩⟩
  · rw [show after.macAddr = before.macAddr from congrArg Prod.fst fixed]
    exact sound.macAddr
  · exact target ▸ sound.target
  · exact cache ▸ sound.cache
  · exact txPn ▸ sound.txPn

theorem steady_wipeKeys (s : Ieee80211) : Steady resumed s s.wipeKeys :=
  ⟨rfl, fun sound => ⟨⟨sound.scans, sound.connects⟩, sound.macAddr, sound.target, sound.cache,
    rfl⟩, rfl, .inr ⟨rfl, .inl rfl⟩⟩

theorem steady_emptySlot (s : Ieee80211) (pairwise : Bool) :
    Steady resumed s (s.setKeySlot pairwise none) := by
  refine ⟨rfl, fun sound => ⟨⟨sound.scans, sound.connects⟩, sound.macAddr, sound.target,
    sound.cache, sound.txPn⟩, rfl, ?_⟩
  cases pairwise
  · exact .inl ⟨.inl rfl, rfl⟩
  · exact .inl ⟨.inr rfl, rfl⟩

/-- The driver accepted a key. -/
theorem steady_fillSlot (s : Ieee80211) (pairwise : Bool) {key : KeyConf} {answer : Answer}
    (accepted : answer.code = 0) :
    Steady (some (.setKey .installKey true pairwise key, answer)) s
      ((s.setKeySlot pairwise (some key)).resetTxPn pairwise) := by
  cases pairwise
  · exact .of_core rfl fun regular => ⟨regular.scans, regular.connects⟩
  · exact ⟨rfl, fun sound => ⟨⟨sound.scans, sound.connects⟩, sound.macAddr, sound.target,
      sound.cache, rfl⟩, rfl, .inr ⟨rfl, .inr ⟨key, answer, rfl, accepted, rfl⟩⟩⟩

/-- A write of the scan cache. -/
theorem Steady.of_cache {s : Ieee80211} {cache : List Bss} {count : Nat} {generation : Nat}
    (sized : s.Sound → ∀ bss ∈ cache, bss.bssid.length = 6) :
    Steady resumed s { s with bssList := cache, bssCount := count, scanGeneration := generation } :=
  ⟨rfl, fun sound => ⟨⟨sound.scans, sound.connects⟩, sound.macAddr, sound.target, sized sound,
    sound.txPn⟩, rfl, .inl ⟨.inl rfl, rfl⟩⟩

theorem steady_addBss (s : Ieee80211) {bss : Bss} (address : bss.bssid.length = 6) :
    Steady resumed s (s.addBss bss) := by
  refine .of_cache fun sound other member => ?_
  cases known : s.bssList.findIdx? fun entry => entry.bssid = bss.bssid <;>
    rw [known] at member
  · rcases List.mem_cons.mp member with rfl | old
    · exact address
    · exact sound.cache other old
  · rcases List.mem_or_eq_of_mem_set member with old | rfl
    · exact sound.cache other old
    · exact address

theorem steady_pruneBssList (s : Ieee80211) : Steady resumed s s.pruneBssList :=
  .of_cache fun sound bss member => sound.cache bss (List.mem_filter.mp member).1

theorem steady_nextGeneration (s : Ieee80211) : Steady resumed s s.nextGeneration := by
  refine .of_cache fun sound bss member => ?_
  split at member
  · obtain ⟨old, known, rfl⟩ := List.mem_map.mp member
    exact sound.cache old known
  · exact sound.cache bss member

/-- The target is an entry of the cache. -/
theorem steady_target (s : Ieee80211) {target : Bss} (address : target.bssid.length = 6) :
    Steady resumed s { s with targetBSS := target } :=
  ⟨rfl, fun sound => ⟨⟨sound.scans, sound.connects⟩, sound.macAddr, address, sound.cache,
    sound.txPn⟩, rfl, .inl ⟨.inl rfl, rfl⟩⟩

end

end Ieee80211

theorem bssid_readBeaconElement (bss : Bss) (id : UInt8) (body : Bytes) :
    (readBeaconElement bss id body).bssid = bss.bssid := by
  unfold readBeaconElement
  dsimp only
  repeat' split
  all_goals rfl

theorem bssid_readBeaconElements (fuel : Nat) (rest : Bytes) (bss : Bss) :
    (readBeaconElements fuel rest bss).bssid = bss.bssid := by
  induction fuel generalizing rest bss with
  | zero => rfl
  | succ fuel ih =>
      unfold readBeaconElements
      dsimp only
      split
      · rfl
      split
      · rfl
      · rw [ih]
        split <;> exact bssid_readBeaconElement bss _ _

/-- The address of an entry is whole. -/
theorem length_bssid_beaconBss {skb : Skb} (long : 36 ≤ skb.data.length) (generation : Nat) :
    (beaconBss skb generation).bssid.length = 6 := by
  have read : (beaconBss skb generation).bssid = skb.data.addr3 :=
    bssid_readBeaconElements _ _ _
  rw [read]
  exact Bytes.length_slice (by omega)

/-- The data frames that a function other than `outputPacket` hands over. -/
def Call.Plain (call : Call) (s : Ieee80211) : Prop :=
  ∀ skb, call = .tx .data skb → skb.Eapol s

theorem Call.Mute.plain {call : Call} {s : Ieee80211} (mute : call.Mute s) : call.Plain s := by
  rintro skb rfl
  exact mute

theorem sound_of_ready {call : Call} {later : Ieee80211}
    (isReady : (rtw88.guarded Ieee80211.Sound).ready call later) : later.Sound :=
  isReady.2

/-- What all functions but `outputPacket` have in common. -/
def steady : Discipline Ieee80211 Call Answer where
  ready := (rtw88.guarded Ieee80211.Sound).ready
  stable := Ieee80211.Sound
  keeps := Ieee80211.Steady
  calls := Call.Plain
  refl := fun _ => Ieee80211.Steady.refl
  trans := fun _ _ _ _ => Ieee80211.Steady.trans
  respected := fun _ _ => sound_of_ready
  preserved := fun _ _ _ sound keeps => keeps.sound sound

namespace M

open Ieee80211 Prog

abbrev IsSteady {α : Type} (program : M α) : Prop :=
  program.Upholds steady

theorem IsQuiet.steady {α : Type} {program : M α} (isQuiet : IsQuiet program) :
    IsSteady program :=
  isQuiet.mono rfl rfl (fun _ _ _ => Steady.of_link) fun _ _ => Call.Mute.plain

/-- A write of fields that only tell how far the connection is. -/
theorem isSteady_update {change : Ieee80211 → Ieee80211}
    (same : ∀ s, ((change s).core, (change s).stage) = (s.core, s.stage)) :
    IsSteady (Prog.update change) := by
  refine .update fun _ s _ => .of_core (congrArg Prod.fst (same s)) fun regular => ?_
  have stage := congrArg Prod.snd (same s)
  simp only [Ieee80211.stage, Prod.mk.injEq] at stage
  exact ⟨stage.2 ▸ regular.scans, stage.1 ▸ regular.connects⟩

/-- A write of the state, to one that is entered. -/
theorem isSteady_enter {change : Ieee80211 → Ieee80211} (next : Rtw88State)
    (same : ∀ s, (change s).core = s.core) (enters : ∀ s, (change s).state = next)
    (scans : ∀ s : Ieee80211, s.Regular → (change s).scanReturnState = .idle)
    (other : next ≠ .disconnecting) : IsSteady (Prog.update change) :=
  .update fun _ s _ => .of_core (same s) fun regular => ⟨scans s regular, enters s ▸ other⟩

theorem isSteady_setState {next : Rtw88State} (other : next ≠ .disconnecting) :
    IsSteady (Prog.update fun s => s.setState next) :=
  isSteady_enter next (fun _ => rfl) (fun _ => rfl) (fun _ => Regular.scans) other

theorem isSteady_becomeIdle : IsSteady (Prog.update Ieee80211.becomeIdle) :=
  isSteady_enter .idle (fun _ => rfl) (fun _ => rfl) (fun _ _ => rfl) nofun

theorem isSteady_perform {call : Call} (plain : ∀ s, call.Plain s) : IsSteady (perform call) :=
  .bind (.await fun s _ => plain s) fun _ => .ret ()

theorem isSteady_announce (active : Bool) : IsSteady (perform (.setLinkStatus active)) :=
  isSteady_perform fun _ => nofun

theorem isSteady_succeeds : IsSteady succeeds :=
  isQuiet_succeeds.steady

theorem isSteady_submit {site : TxSite} {skb : TxSkb} (bare : skb.hwKey = none)
    (other : site ≠ .data) : IsSteady (submit site skb) := by
  refine .bind (.update fun _ s _ => .of_link (link_recordTx s bare)) fun _ => ?_
  exact isSteady_perform (by rintro _ _ ⟨⟩; exact absurd rfl other)

theorem isSteady_authenticationCancelled (check : CancelCheck) :
    IsSteady (authenticationCancelled check) :=
  (isQuiet_authenticationCancelled check).steady

/-! ## Keys and BlockAck requests -/

theorem clearKeys_isSteady : IsSteady clearKeys := by
  have disables : ∀ pairwise, IsSteady (disableKey pairwise) := fun pairwise =>
    .bind .fetch fun s => .whenSome fun key => isSteady_perform fun _ => nofun
  refine .bind .fetch fun s => .bind (.when (.bind (disables true) fun _ => disables false)) ?_
  exact fun _ => .update fun _ s _ => steady_wipeKeys s

theorem releaseSta_isSteady : IsSteady releaseSta := by
  refine .bind .fetch fun s => .when (.bind (.when (isSteady_perform fun _ => nofun)) fun _ => ?_)
  exact isSteady_update fun _ => rfl

theorem installKey_isSteady (pairwise : Bool) (keyidx : UInt8) (cipher : Nat)
    (tk : Ieee80211 → Bytes) (tkLen : Nat) :
    IsSteady (installKey pairwise keyidx cipher tk tkLen) := by
  refine .bind .fetch fun s => .ite (.ret _) (.bind (.whenSome fun old => ?_) fun _ => ?_)
  · exact .bind (isSteady_perform (fun _ => nofun)) fun _ =>
      .update fun _ s _ => steady_emptySlot s pairwise
  · refine .bind isSteady_succeeds fun allocated => .ite (.ret _) (.bind .fetch fun s => ?_)
    refine .awaiting (fun _ _ => nofun) fun answer => .ite (fun _ => .ret _) fun accepted => ?_
    exact .bind (.update fun s _ => steady_fillSlot s pairwise (not_not.mp accepted)) fun _ =>
      .ret _

theorem txBlockAck_isSteady (frame : Bytes) : IsSteady (txMgmtFrame .blockAck frame) := by
  refine .bind .fetch fun s => .ite (.ret _) (.bind isSteady_succeeds fun built => ?_)
  exact .ite (.ret _) (.bind (isSteady_submit rfl nofun) fun _ => .ret _)

theorem startTxAggregation_isSteady : IsSteady startTxAggregation := by
  refine .bind .fetch fun s => .when (.bind .fetch fun s => ?_)
  refine .bind (isSteady_update fun _ => rfl) fun _ => .bind (isSteady_update fun _ => rfl) ?_
  exact fun _ => .bind .fetch fun s => .bind (txBlockAck_isSteady _) fun _ => .ret _

theorem sendAddbaResponse_isSteady (tid dialog reqParam baTimeout : Nat) :
    IsSteady (sendAddbaResponse tid dialog reqParam baTimeout) := by
  refine .bind .fetch fun s => .bind (isSteady_update fun _ => rfl) fun _ => ?_
  exact .bind (txBlockAck_isSteady _) fun _ => .ret _

/-! ## Scans -/

theorem processScanResult_isSteady (skb : Skb) : IsSteady (processScanResult skb) := by
  unfold processScanResult
  by_cases long : 24 + 12 ≤ skb.data.length
  · refine .bind (.when (.bind isSteady_succeeds fun allocated => .when ?_)) fun _ => ?_
    · exact .update fun _ s _ => steady_addBss s (length_bssid_beaconBss (by omega) _)
    · exact isSteady_update fun _ => rfl
  · simp only [long]
    exact .bind (.ret ()) fun _ => isSteady_update fun _ => rfl

theorem state_of_scanReturn (returnState : ScanReturn) : returnState.state ≠ .disconnecting := by
  cases returnState <;> nofun

theorem leaveAbortedScan_isSteady (returnState : ScanReturn) :
    IsSteady (leaveAbortedScan returnState) := by
  refine .bind .fetch fun s => .ite (.ite (.ret _) ?_) (.ret _)
  refine .bind (.when restoreConnectedChannel_isQuiet.steady) fun _ => ?_
  refine .bind (isSteady_enter _ (fun _ => rfl) (fun _ => rfl) (fun _ _ => rfl) ?_) fun _ => ?_
  · exact state_of_scanReturn returnState
  · exact .bind .fetch fun s => .ret _

theorem abortActiveScan_isSteady (waitForIdle : Bool) : IsSteady (abortActiveScan waitForIdle) := by
  refine .bind .fetch fun s => .ite (.ret _) ?_
  have waits : IsSteady (do
      if !waitForIdle then return true
      else
        waitForScan 40
        leaveAbortedScan s.scanReturnState) :=
    .ite (.ret _) (.bind (waitForScan_isQuiet 40).steady fun _ => leaveAbortedScan_isSteady _)
  exact .ite (.bind (isSteady_update fun _ => rfl) fun _ => waits)
    (.bind (.when (isSteady_perform fun _ => nofun)) fun _ => waits)

theorem scanDone_isSteady (aborted : Bool) : IsSteady (scanDone aborted) := by
  have leaves : IsSteady leaveActiveScan := by
    refine .bind .fetch fun s => .when (.bind (.when restoreConnectedChannel_isQuiet.steady) ?_)
    refine fun _ => .bind
      (isSteady_enter _ (fun _ => rfl) (fun _ => rfl) (fun _ _ => rfl) ?_) fun _ => ?_
    · exact state_of_scanReturn _
    · exact .bind .fetch fun s => .when (.bind (setAWDLChannel_isQuiet _).steady fun _ => .ret _)
  refine .bind (.when (.update fun _ s _ => steady_pruneBssList s)) fun _ =>
    .bind leaves fun _ => ?_
  exact .bind .fetch fun s => .when (isSteady_perform fun _ => nofun)

theorem refuseScan_isSteady {returnState : Rtw88State} (other : returnState ≠ .disconnecting)
    (reason : IOReturn) : IsSteady (refuseScan returnState reason) :=
  .bind (isSteady_enter _ (fun _ => rfl) (fun _ => rfl) (fun _ _ => rfl) other) fun _ => .ret _

theorem startScan_isSteady {returnState : Rtw88State} (other : returnState ≠ .disconnecting) :
    IsSteady (startScan returnState) := by
  refine .bind .fetch fun s => .ite (refuseScan_isSteady other _) (.bind isSteady_succeeds ?_)
  refine fun _ => .ite ?_ (startHwScan_isQuiet _).steady
  exact .bind (isSteady_update fun _ => rfl) fun _ => (startManualScan_isQuiet _).steady

theorem cmdScan_isSteady : IsSteady cmdScan := by
  refine .bind .fetch fun s => ?_
  by_cases idle : s.state = .idle
  · have other : s.state ≠ .disconnecting := by rw [idle]; nofun
    refine .ite (.ret _) (.ite (.ret _) (.bind (.update fun _ before _ => ?_) fun _ => ?_))
    · refine (steady_nextGeneration before).trans (.of_core rfl fun regular => ⟨?_, nofun⟩)
      simp [idle]
    refine .ite (startScan_isSteady other) (.bind isSteady_succeeds fun _ => .ite ?_ ?_)
    · exact .bind (isSteady_update fun _ => rfl) fun _ => startScan_isSteady other
    · exact refuseScan_isSteady other _
  · rw [if_pos idle]
    exact .ret _

theorem runManualScan_isSteady : IsSteady runManualScan := by
  refine .bind .fetch fun s => .ite ?_ ?_
  · exact .bind (scanDone_isSteady _) fun _ => isSteady_update fun _ => rfl
  refine .bind (isSteady_perform (fun _ => nofun)) fun _ =>
    .bind (scanChannels_isQuiet _ _ _).steady fun _ => ?_
  refine .bind (isSteady_update fun _ => rfl) fun _ =>
    .bind (isSteady_perform (fun _ => nofun)) fun _ => ?_
  refine .bind (.when (.bind restoreConnectedChannel_isQuiet.steady fun _ => ?_)) fun _ => ?_
  · exact .bind (txNullFunc_isQuiet _).steady fun _ => .ret _
  · exact .bind .fetch fun s => .bind (scanDone_isSteady _) fun _ => isSteady_update fun _ => rfl

theorem scanTimeout_isSteady : IsSteady scanTimeout := by
  refine .bind .fetch fun s => .ite (isSteady_update fun _ => rfl) ?_
  refine .bind (.when (isSteady_perform fun _ => nofun)) fun _ => .bind .fetch fun s => ?_
  refine .bind (.when restoreConnectedChannel_isQuiet.steady) fun _ => ?_
  exact isSteady_enter _ (fun _ => rfl) (fun _ => rfl) (fun _ _ => rfl) (state_of_scanReturn _)

/-! ## The handshake -/

theorem completeHandshake_isSteady : IsSteady completeHandshake := by
  refine .bind .fetch fun s => .bind (sendEAPOLKey_isQuiet _ _ _ _ _).steady fun _ => ?_
  refine .bind ?_ fun _ => .bind .fetch fun s => ?_
  · exact isSteady_enter .connected (fun _ => rfl) (fun _ => rfl) (fun _ => Regular.scans) nofun
  · exact .bind (.when (isSteady_perform fun _ => nofun)) fun _ => startTxAggregation_isSteady

theorem installHandshakeKeys_isSteady (gtk : Option GtkKde) :
    IsSteady (installHandshakeKeys gtk) := by
  refine .bind (installKey_isSteady _ _ _ _ _) fun installed => .when (.bind .fetch fun s => ?_)
  dsimp only
  split
  · exact completeHandshake_isSteady
  · exact .bind (installKey_isSteady _ _ _ _ _) fun _ => .when completeHandshake_isSteady

theorem handleM1_isSteady (data : Bytes) : IsSteady (handleM1 data) := by
  refine .bind .choose fun random => .bind (isSteady_update fun _ => rfl) fun _ => ?_
  refine .bind .fetch fun s => .bind (sendEAPOLKey_isQuiet _ _ _ _ _).steady fun _ => ?_
  exact isSteady_update fun _ => rfl

theorem handleM3_isSteady (data : Bytes) : IsSteady (handleM3 data) := by
  refine .bind .fetch fun s => .bind (eapolMicOk_isQuiet _ _).steady fun verified => .when ?_
  refine .whenSome fun keyData => .bind (isSteady_update fun _ => rfl) fun _ => ?_
  exact installHandshakeKeys_isSteady _

theorem handleEAPOL_isSteady (data : Bytes) : IsSteady (handleEAPOL data) :=
  .when (.ite (handleM1_isSteady data) (.when (handleM3_isSteady data)))

/-! ## Disconnecting and power -/

theorem doDisconnect_isSteady : IsSteady doDisconnect := by
  have tears : IsSteady tearDownLink := by
    refine .bind clearKeys_isSteady fun _ => .bind .fetch fun s => ?_
    refine .bind (txMgmtFrame_isQuiet .deauth _ fun _ _ => trivial).steady fun _ =>
      .bind (isSteady_update fun _ => rfl) ?_
    exact fun _ => .bind .fetch fun s => .bind (.when (isSteady_perform fun _ => nofun)) fun _ =>
      releaseSta_isSteady
  refine .bind .fetch fun s => .ite isSteady_becomeIdle (.bind tears fun _ => ?_)
  refine .bind
    (isSteady_enter .idle (fun _ => rfl) (fun _ => rfl) (fun _ _ => rfl) nofun) fun _ => ?_
  exact .bind .fetch fun s => .when (isSteady_perform fun _ => nofun)

theorem cmdDisconnect_isSteady : IsSteady cmdDisconnect :=
  .bind cancelAuthentication_isQuiet.steady fun _ => .bind .fetch fun _ =>
    .bind (.when doDisconnect_isSteady) fun _ => .ret _

theorem powerOn_isSteady : IsSteady powerOn := by
  refine .bind .fetch fun s => .ite (.ret _) (.ite (.ret _)
    (.bind (.await fun _ _ => nofun) fun answer => ?_))
  · refine .ite (.ret _) (.bind (isSteady_update fun _ => rfl) fun _ => ?_)
    exact .bind .fetch fun s => (setReceiveMulticast_isQuiet _).steady

theorem powerOff_isSteady : IsSteady powerOff :=
  .bind .fetch fun _ => .when (.bind (.when (isSteady_perform fun _ => nofun)) fun _ =>
    isSteady_update fun _ => rfl)

theorem cmdPowerOn_isSteady : IsSteady cmdPowerOn :=
  .bind powerOn_isSteady fun _ => .bind .fetch fun _ =>
    .bind (.when (isSteady_setState nofun)) fun _ =>
    .ret _

theorem finishPowerOff_isSteady : IsSteady finishPowerOff := by
  refine .bind .fetch fun s => .ite (.bind doDisconnect_isSteady fun _ => ?_)
    (.bind clearKeys_isSteady fun _ => .bind releaseSta_isSteady fun _ => ?_)
  all_goals
    refine .bind powerOff_isSteady fun _ => .bind isSteady_becomeIdle fun _ => ?_
    exact .bind .fetch fun s => .bind (.when (isSteady_announce false)) fun _ => .ret _

theorem cmdPowerOff_isSteady : IsSteady cmdPowerOff :=
  .bind cancelAuthentication_isQuiet.steady fun _ => .bind (abortActiveScan_isSteady _) fun _ =>
    .ite finishPowerOff_isSteady (.ret _)

theorem removeHardware_isSteady : IsSteady removeHardware := by
  have removes : IsSteady removeInterface := by
    refine .bind .fetch fun s => .bind (.when (isSteady_perform fun _ => nofun)) fun _ => ?_
    refine .bind (isSteady_update fun _ => rfl) fun _ => .bind .fetch fun s => ?_
    exact .bind (.when (isSteady_perform fun _ => nofun)) fun _ => isSteady_update fun _ => rfl
  refine .bind .fetch fun s => .bind (.when (isSteady_perform fun _ => nofun)) fun _ => ?_
  refine .bind removes fun _ => .bind (isSteady_perform (fun _ => nofun)) fun _ => ?_
  exact isSteady_enter .idle (fun _ => rfl) (fun _ => rfl) (fun _ _ => rfl) nofun

theorem stop_isSteady : IsSteady stop := by
  refine .bind cancelAuthentication_isQuiet.steady fun _ => .bind .choose fun answer => ?_
  refine .bind (isSteady_update fun _ => rfl) fun _ =>
    .bind (isSteady_perform (fun _ => nofun)) fun _ => ?_
  refine .bind (isSteady_update fun _ => rfl) fun _ => .bind drainConnectCall_isQuiet.steady ?_
  refine fun _ => .bind (isSteady_update fun _ => rfl) fun _ => .bind .fetch fun s => ?_
  refine .ite (.bind doDisconnect_isSteady fun _ => removeHardware_isSteady) ?_
  exact .bind clearKeys_isSteady fun _ => .bind releaseSta_isSteady fun _ => removeHardware_isSteady

/-! ## Connecting -/

theorem connectIdle_isSteady (args : ConnectArgs) : IsSteady (connectIdle args) := by
  refine .bind .fetch fun s => .ite (.ret _) (.ite (.ret _) (.ite (.ret _) ?_))
  refine .bind clearKeys_isSteady fun _ => .bind releaseSta_isSteady fun _ => ?_
  refine .fetched fun s sound => ?_
  split
  · exact .ret _
  · rename_i target selected
    have address : target.bssid.length = 6 := sound.cache _ (List.mem_of_find?_eq_some selected)
    refine .bind (.update fun _ s _ => steady_target s address) fun _ => .ite (.ret _) ?_
    refine .bind ?_ fun _ => .ret _
    exact isSteady_enter .authenticating (fun _ => rfl) (fun _ => rfl)
      (fun _ => Regular.scans) nofun

theorem cmdConnect_isSteady (args : ConnectArgs) : IsSteady (cmdConnect args) :=
  .bind (abortActiveScan_isSteady _) fun _ => .ite (connectIdle_isSteady args) (.ret _)

theorem doAuthenticate_isSteady : IsSteady doAuthenticate := by
  have sets : IsSteady setupAuthentication := by
    refine .bind (isSteady_authenticationCancelled _) fun _ => .when (.bind .fetch fun s => ?_)
    refine .bind (.whenSome fun chan => isSteady_update fun _ => rfl) fun _ => ?_
    refine .bind (isSteady_perform (fun _ => nofun)) fun _ =>
      .bind (isSteady_authenticationCancelled _) ?_
    refine fun _ => .when (.bind (isSteady_update fun _ => rfl) fun _ => .bind .fetch fun s => ?_)
    exact .bind (isSteady_update fun _ => rfl) fun _ => (sendAuthentication_isQuiet _).steady
  have settles : IsSteady settleAuthentication := by
    refine .bind (waitForDriver_isQuiet _).steady fun _ => .when ?_
    refine .bind (isSteady_authenticationCancelled _) fun _ => .when ?_
    refine .bind driverScanning_isQuiet.steady fun _ =>
      .when (.bind (isSteady_perform (fun _ => nofun)) ?_)
    exact fun _ => sets
  exact .bind (isSteady_authenticationCancelled _) fun _ => .bind .fetch fun _ => .when settles

theorem doAssociate_isSteady : IsSteady doAssociate := by
  refine .bind .fetch fun s => .when (.bind (isSteady_authenticationCancelled _) fun _ => .when ?_)
  refine .bind .fetch fun s => .bind ?_ fun _ => ?_
  · exact isSteady_enter .associating (fun _ => rfl) (fun _ => rfl) (fun _ => Regular.scans) nofun
  refine .bind (txMgmtFrame_isQuiet .associate _ fun _ _ => trivial).steady fun _ =>
    .ite ?_ (isSteady_setState nofun)
  refine .bind (isSteady_authenticationCancelled _) fun _ => .bind .fetch fun s => ?_
  exact .when (isSteady_update fun _ => rfl)

theorem publishAssociation_isSteady : IsSteady publishAssociation := by
  refine .bind .fetch fun s => .ite ?_ (.bind (isSteady_setState nofun) ?_)
  · exact isSteady_enter .handshaking (fun _ => rfl) (fun _ => rfl) (fun _ => Regular.scans) nofun
  refine fun _ => .bind (.when (isSteady_perform fun _ => nofun)) fun _ => .bind .fetch fun s => ?_
  exact .bind (.when startTxAggregation_isSteady) fun _ => isSteady_update fun _ => rfl

theorem processAssocResponse_isSteady (skb : Skb) : IsSteady (processAssocResponse skb) := by
  refine .bind .fetch fun s => .bind (isSteady_update fun _ => rfl) fun _ => .whenSome ?_
  refine fun fields => .bind (isSteady_authenticationCancelled _) fun _ => .when ?_
  refine .ite (isSteady_setState nofun) (.bind (isSteady_update fun _ => rfl) fun _ => ?_)
  refine .bind ?_ fun _ => .bind ?_ fun _ => publishAssociation_isSteady
  · refine .bind .fetch fun s => .when (.bind isSteady_succeeds fun _ => .when ?_)
    exact .bind (isSteady_update fun _ => rfl) fun _ => isSteady_perform fun _ => nofun
  · refine .bind .fetch fun s => .when (.bind (isSteady_update fun _ => rfl) fun _ => ?_)
    exact isSteady_perform fun _ => nofun

theorem cmdInstallExternalKey_isSteady (pairwise : Bool) (keyidx : UInt8) (cipher : Nat)
    (key : Option Bytes) : IsSteady (cmdInstallExternalKey pairwise keyidx cipher key) := by
  refine .bind .fetch fun s => .ite (.ret _) ?_
  split
  · exact .ret _
  · refine .ite (.ret _) (.bind (installKey_isSteady _ _ _ _ _) fun _ => ?_)
    exact .ite (.ret _) (.ret _)

theorem onTimer_isSteady : IsSteady onTimer := by
  refine .bind .fetch fun s => ?_
  split
  · exact scanTimeout_isSteady
  · refine .bind (isSteady_authenticationCancelled _) fun _ => ?_
    exact .when (isSteady_update fun _ => rfl)
  · exact isSteady_setState nofun
  · exact doDisconnect_isSteady
  · exact .ret _

/-! ## Reception -/

theorem deliverEthernet_isSteady (skb : Skb) (msdu : Msdu) :
    IsSteady (deliverEthernet skb msdu) := by
  refine .bind .fetch fun s => .when (.bind (fillInputPacket_isQuiet _ _).steady fun filled => ?_)
  exact .when (isSteady_perform fun _ => nofun)

theorem deliverDataFrame_isSteady (skb : Skb) : IsSteady (deliverDataFrame skb) := by
  have single : IsSteady (deliverMsdu skb) := by
    refine .bind (.when ?_) fun _ => .bind .fetch fun s => .ite ?_ ?_
    · exact isSteady_update fun _ => rfl
    · exact handleEAPOL_isSteady (skb.data.llc.drop 8)
    · exact deliverEthernet_isSteady skb (singleMsdu skb.data)
  refine .bind (isSteady_perform (fun _ => nofun)) fun _ => .ite ?_ ?_
  · exact .bind (.forEach fun msdu => deliverEthernet_isSteady _ _) fun _ =>
      isSteady_update fun _ => rfl
  · exact .bind (.when single) fun _ => isSteady_update fun _ => rfl

theorem deliverReleased_isSteady (outcome : RxBaOutcome Skb) :
    IsSteady (deliverReleased outcome) :=
  .bind (.forEach deliverDataFrame_isSteady) fun _ => .when (isSteady_update fun _ => rfl)

theorem rxReorderInput_isSteady (tid : Fin kRxBaNumTid) (skb : Skb) (sn : Nat) :
    IsSteady (M.rxReorderInput tid skb sn) :=
  .bind .fetch fun _ => .bind (isSteady_update fun _ => rfl) fun _ => deliverReleased_isSteady _

theorem processRxData_isSteady (skb : Skb) : IsSteady (processRxData skb) := by
  refine .bind .fetch fun s => .ite (isSteady_update fun _ => rfl) ?_
  split
  · exact rxReorderInput_isSteady _ _ _
  · exact deliverDataFrame_isSteady skb

theorem handleBackAction_isSteady (b : Bytes) : IsSteady (handleBackAction b) := by
  refine .ite (.when (.bind isSteady_succeeds fun _ => ?_)) (.ite (.when ?_) (.when ?_))
  · exact .bind (isSteady_update fun _ => rfl) fun _ => sendAddbaResponse_isSteady _ _ _ _
  · exact isSteady_update fun _ => rfl
  · exact .ite (isSteady_update fun _ => rfl) (isSteady_update fun _ => rfl)

theorem processRxAuth_isSteady (skb : Skb) : IsSteady (processRxAuth skb) := by
  refine .bind .fetch fun s => .bind (.when ?_) fun _ => isSteady_update fun _ => rfl
  refine .bind (isSteady_authenticationCancelled _) fun _ => .bind .fetch fun s => .when ?_
  refine .whenSome fun status => .ite doAssociate_isSteady ?_
  exact isSteady_enter .idle (fun _ => rfl) (fun _ => rfl) (fun _ => Regular.scans) nofun

theorem processRxDeauth_isSteady (skb : Skb) : IsSteady (processRxDeauth skb) := by
  refine .bind .fetch fun s => .bind (.when ?_) fun _ => isSteady_update fun _ => rfl
  refine .bind (isSteady_update fun _ => rfl) fun _ => .bind clearKeys_isSteady fun _ => ?_
  refine .bind
    (isSteady_enter .idle (fun _ => rfl) (fun _ => rfl) (fun _ _ => rfl) nofun) fun _ => ?_
  exact .bind .fetch fun s => .when (isSteady_perform fun _ => nofun)

theorem processRxAction_isSteady (skb : Skb) : IsSteady (processRxAction skb) := by
  refine .bind .fetch fun s => .bind (.when (isSteady_perform fun _ => nofun)) fun _ =>
    .bind .fetch fun s => ?_
  exact .bind (.when (handleBackAction_isSteady _)) fun _ => isSteady_update fun _ => rfl

theorem processRxMgmt_isSteady (skb : Skb) : IsSteady (processRxMgmt skb) := by
  have frees : IsSteady (Prog.update fun s => s.kfreeSkb skb) := isSteady_update fun _ => rfl
  refine .bind .fetch fun s => .ite (.ite (processScanResult_isSteady skb) frees) ?_
  refine .ite (processRxAuth_isSteady skb) (.ite ?_ (.ite (processRxDeauth_isSteady skb) ?_))
  · exact .bind .fetch fun s => .ite (processAssocResponse_isSteady skb) frees
  · exact .ite (processRxAction_isSteady skb) frees

theorem rxFrame_isSteady (skb : Skb) : IsSteady (rxFrame skb) := by
  have frees : IsSteady (Prog.update fun s => s.kfreeSkb skb) := isSteady_update fun _ => rfl
  refine .ite frees (.bind (isSteady_update fun _ => rfl) fun _ => ?_)
  refine .ite (processRxMgmt_isSteady skb) (.ite ?_ frees)
  exact .bind (tryDeliverAWDLDataFrame_isQuiet skb).steady fun _ =>
    .when (processRxData_isSteady skb)

end M

/-- Every operation but `outputPacket` is steady. -/
theorem program_isSteady (op : Op) (other : ∀ m, op ≠ .outputPacket m) :
    M.IsSteady op.program := by
  have returns : ∀ {body : M Unit}, M.IsSteady body → M.IsSteady (M.returning body) :=
    fun body => .bind body fun _ => .ret _
  have reports : ∀ {body : M Bool}, M.IsSteady body → M.IsSteady (M.reporting body) :=
    fun body => .bind body fun _ => .ite (.ret _) (.ret _)
  cases op with
  | outputPacket m => exact absurd rfl (other m)
  | rxFrame skb => exact returns (M.rxFrame_isSteady skb)
  | scanDone aborted => exact returns (M.scanDone_isSteady aborted)
  | timerFired deadline =>
      exact returns (.bind (M.isSteady_update fun _ => rfl) fun _ => M.onTimer_isSteady)
  | reorderTimerFired =>
      refine returns (.bind (M.isSteady_update fun _ => rfl) fun _ => .bind .fetch fun s => ?_)
      exact .bind (M.isSteady_update fun _ => rfl) fun _ => M.deliverReleased_isSteady _
  | connectCall =>
      refine returns (.bind .fetch fun s => .bind (M.isSteady_update fun _ => rfl) fun _ => ?_)
      exact .bind (.when M.doAuthenticate_isSteady) fun _ => M.isSteady_update fun _ => rfl
  | manualScanCall =>
      refine returns (.bind .fetch fun s => .bind (M.isSteady_update fun _ => rfl) fun _ => ?_)
      exact .bind (.when M.runManualScan_isSteady) fun _ => M.isSteady_update fun _ => rfl
  | txRawManagementFrame frame => exact reports (M.txRawManagementFrame_isQuiet frame).steady
  | txAWDLDataFrame m => exact reports (M.txAWDLDataFrame_isQuiet m).steady
  | cmdScan => exact M.cmdScan_isSteady
  | cmdConnect args => exact M.cmdConnect_isSteady args
  | cmdDisconnect ticket => exact M.cmdDisconnect_isSteady
  | cmdPowerOn => exact M.cmdPowerOn_isSteady
  | cmdPowerOff ticket => exact M.cmdPowerOff_isSteady
  | cmdInstallExternalKey pairwise keyidx cipher key =>
      exact M.cmdInstallExternalKey_isSteady pairwise keyidx cipher key
  | cmdSetAssocRsnIE ie => exact (M.cmdSetAssocRsnIE_isQuiet ie).steady
  | setReceiveMulticast active => exact (M.setReceiveMulticast_isQuiet active).steady
  | setAWDLReceiveMode active => exact (M.setAWDLReceiveMode_isQuiet active).steady
  | setAWDLChannel channel => exact (M.setAWDLChannel_isQuiet channel).steady
  | powerOn => exact M.powerOn_isSteady
  | powerOff => exact returns M.powerOff_isSteady
  | stop => exact returns M.stop_isSteady

/-! ## The steps of the system -/

/-- One atomic block of `outputPacket`: the packet is dropped, it is dropped after its packet
number was counted, or its frame is handed over. -/
def OutputStep (m : Mbuf) (resumed : Option (Call × Answer)) (start : Ieee80211)
    (stop : Stop Call IOReturn) (now : Ieee80211) : Prop :=
  let header : Bytes := m.data.take 14
  let counted := start.bumpTxPn (header.be16At 12)
  let frame := counted.encapsulate header (m.data.drop 14)
  ((∃ value, stop = .returns value) ∧ now.link = start.link) ∨
    (resumed = none ∧ header.length = 14 ∧
      (((∃ value, stop = .returns value) ∧ now.link = counted.link) ∨
        (stop = .waits (.tx .data frame) ∧ now.link = (counted.recordTx frame).link)))

theorem outputPacket_follows (m : Mbuf) (s : Ieee80211) :
    (rtw88.guarded Ieee80211.Sound).Follows (fun _ => OutputStep m) (.outputPacket m)
      (M.outputPacket m) none s := by
  unfold System.Follows M.outputPacket
  simp only [Prog.bind_eq_bind, Prog.pure_eq_ret, Prog.conforms_bind, Prog.conforms_fetch,
    Prog.conforms_ite, Prog.conforms_update, Prog.conforms_ret]
  have same : (s.takeSkb.bumpTxPn (Bytes.be16At (m.data.take 14) 12)).link =
      (s.bumpTxPn (Bytes.be16At (m.data.take 14) 12)).link := rfl
  have isFrame : (s.takeSkb.bumpTxPn (Bytes.be16At (m.data.take 14) 12)).encapsulate
      (m.data.take 14) (m.data.drop 14) =
        (s.bumpTxPn (Bytes.be16At (m.data.take 14) 12)).encapsulate
      (m.data.take 14) (m.data.drop 14) := rfl
  generalize isCounted : s.takeSkb.bumpTxPn (Bytes.be16At (m.data.take 14) 12) = counted at *
  refine ⟨fun _ => .inl ⟨⟨_, rfl⟩, rfl⟩,
    fun _ => M.txDataFrame_conforms m rfl isCounted isFrame ?_ ?_ ?_ ?_⟩
  · exact ⟨by rintro ⟨⟩, fun _ => .inl ⟨⟨_, rfl⟩, rfl⟩⟩
  · intro length number
    have lost := (Ieee80211.link_dropSkb counted number m).trans same
    exact ⟨by rintro ⟨⟩, fun _ => .inr ⟨rfl, length, .inl ⟨⟨_, rfl⟩, lost⟩⟩⟩
  · intro length number
    have handed := (Ieee80211.link_handSkb counted number).trans same
    exact .inr ⟨rfl, length, .inr ⟨rfl, Ieee80211.link_recordTx_of_link handed _⟩⟩
  · exact fun _ later _ => ⟨fun _ => .inl ⟨⟨_, rfl⟩, rfl⟩, fun no => absurd rfl no⟩

/-- What one atomic block of an operation does to the keys and the frames under them. -/
def KeyStep : System.BlockRelation Ieee80211 Call Answer Op IOReturn
  | .outputPacket m => OutputStep m
  | _ => steady.Block

theorem keyStep_of_steady {op : Op} (other : ∀ m, op ≠ .outputPacket m) :
    KeyStep op = steady.Block := by
  cases op <;> first | rfl | exact absurd rfl (other _)

theorem respects_keyStep : (rtw88.guarded Ieee80211.Sound).Respects KeyStep := by
  intro op s enabled
  by_cases output : ∃ m, op = .outputPacket m
  · obtain ⟨m, rfl⟩ := output
    exact outputPacket_follows m s
  · have other : ∀ m, op ≠ .outputPacket m := fun m same => output ⟨m, same⟩
    refine (program_isSteady op other).follows rfl (fun _ _ _ _ block => ?_) enabled.2
    exact keyStep_of_steady other ▸ block

theorem length_incrementPn (pn : Bytes) : (incrementPn pn).length = pn.length := by
  induction pn with
  | nil => rfl
  | cons byte rest ih =>
      unfold incrementPn
      split <;> simp [ih]

theorem Ieee80211.Sound.bumpTxPn {s : Ieee80211} (sound : s.Sound) (ethertype : Nat) :
    (s.bumpTxPn ethertype).Sound := by
  refine ⟨⟨sound.scans, sound.connects⟩, sound.macAddr, sound.target, sound.cache, ?_⟩
  unfold Ieee80211.bumpTxPn
  dsimp only
  split
  · rw [length_incrementPn, sound.txPn]
  · exact sound.txPn

theorem Ieee80211.Sound.recordTx {s : Ieee80211} (sound : s.Sound) (skb : TxSkb) :
    (s.recordTx skb).Sound :=
  ⟨⟨sound.scans, sound.connects⟩, sound.macAddr, sound.target, sound.cache, sound.txPn⟩

theorem keyStep_sound (op : Op) (resumed : Option (Call × Answer)) (start : Ieee80211)
    (stop : Stop Call IOReturn) (now : Ieee80211) (step : KeyStep op resumed start stop now)
    (sound : start.Sound) : now.Sound := by
  by_cases output : ∃ m, op = .outputPacket m
  · obtain ⟨m, rfl⟩ := output
    rcases step with ⟨-, same⟩ | ⟨-, -, ⟨-, same⟩ | ⟨-, same⟩⟩
    · exact sound.of_link same
    · exact (sound.bumpTxPn _).of_link same
    · exact ((sound.bumpTxPn _).recordTx _).of_link same
  · rw [keyStep_of_steady fun m same => output ⟨m, same⟩] at step
    exact step.1.sound sound

/-- The configurations whose keys are accounted for. -/
abbrev Keyed : DriverConfig → Prop :=
  rtw88.Tracked Ieee80211.Sound KeyStep

theorem keyed_initial {s : Ieee80211} (initial : s.initial) : Keyed ⟨s, []⟩ :=
  System.tracked_nil KeyStep initial.sound

theorem Keyed.step {config config' : DriverConfig} {move : DriverMove} (keyed : Keyed config)
    (taken : rtw88.Step config move config') :
    KeyStep move.op move.resumed config.state move.stop config'.state ∧ Keyed config' :=
  System.Tracked.related respects_keyStep keyStep_sound keyed taken

/-- An invariant of the runs whose steps satisfy `admits`. -/
theorem Keyed.run {admits : DriverConfig → DriverMove → DriverConfig → Prop}
    {holds : DriverConfig → Prop}
    (kept : ∀ config move config', rtw88.Step config move config' →
      admits config move config' → config.state.Sound →
      KeyStep move.op move.resumed config.state move.stop config'.state →
      holds config → holds config')
    {config config' : DriverConfig} (keyed : Keyed config) (initially : holds config)
    (run : rtw88.Reaches admits config config') : Keyed config' ∧ holds config' :=
  System.Tracked.invariant respects_keyStep keyStep_sound kept keyed initially run

theorem keyed_of_reachable {config : DriverConfig}
    (reachable : rtw88.Reachable Ieee80211.initial config) : Keyed config := by
  obtain ⟨s, initial, run⟩ := reachable
  exact ((keyed_initial initial).run (fun _ _ _ _ _ _ _ _ => trivial) trivial run).1

end AirportRtw88
