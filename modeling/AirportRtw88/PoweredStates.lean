import AirportRtw88.RxWalks

/-!
# Powered states

The state machine leaves `IDLE` only while the hardware is powered, and only powered hardware
is asked for a frame, a key, a station or a channel.  The exceptions are the power that is
switched off under a connection, and the functions that do not look at the power.
-/

namespace AirportRtw88

open Interleave Bytes

/-- The requests that only powered hardware can serve. -/
def Call.needsPower : Call → Bool
  | .tx _ _ | .setKey _ _ _ _ | .staAdd _ | .staRemove | .hwScan _ | .connectHwSetup _
  | .restoreConnectedHw _ | .awdlSwitchChannel | .swScanStart | .swScanSwitchChannel
  | .swScanComplete => true
  | _ => false

/-- The state machine is idle or the hardware powered. -/
def Ieee80211.Powers (s : Ieee80211) : Prop :=
  s.state ≠ .idle → s.powered = true

/-- The state machine and the requests have the power that they need. -/
structure PoweredStates (config : DriverConfig) : Prop where
  powers : config.state.Powers
  requests : ∀ thread ∈ config.threads, thread.request.needsPower = true →
    config.state.powered = true

/-- The operation does not switch the power off under a busy state machine, and does not ask
the hardware without its power. -/
def Op.KeepsPower (op : Op) (l : Link) : Prop :=
  match op with
  | .powerOff => l.state = .idle
  | .cmdPowerOff _ => l.powered = true ∨ l.sta = none
  | .stop => (l.state = .idle ∨ l.state = .connected) ∧ (l.powered = true ∨ l.sta = none)
  | .manualScanCall | .txRawManagementFrame _ | .txAWDLDataFrame _ => l.powered = true
  | _ => True

/-- In the runs of admitted operations everything has its power. -/
def StatesPowered (admits : Op → Link → Prop) (s : Ieee80211) : Prop :=
  s.initial → ∀ now, rtw88.Watched (LinkObserver.plain admits).watch (⟨s, []⟩, ()) now →
    PoweredStates now.1

/-- The operations that switch the power off. -/
def Op.switchesOff : Op → Bool
  | .powerOff | .cmdPowerOff _ | .stop => true
  | _ => false

section

variable {γ : Type} {observer : LinkObserver γ} {op : Op} {first : Ieee80211 × γ}
  {s t : Ieee80211} {r : γ}

/-! ## The power along a walk -/

/-- What a change does to the power, in an operation that does not switch it off. -/
theorem Change.powers {target : Ieee80211} {announced : Option Bool}
    (stays : op.switchesOff = false) (change : Change observer op first (s, r) target announced) :
    (s.powered = true → target.powered = true) ∧ (s.Powers → target.Powers) := by
  have same : target.powered = s.powered → (target.state = s.state ∨ target.state = .idle) →
      (s.powered = true → target.powered = true) ∧ (s.Powers → target.Powers) := by
    intro power phase
    refine ⟨fun powered => power.trans powered, fun powers busy => power.trans (powers ?_)⟩
    rcases phase with phase | idle
    · exact phase ▸ busy
    · exact absurd idle busy
  have moves : target.powered = s.powered → s.state ≠ .idle →
      (s.powered = true → target.powered = true) ∧ (s.Powers → target.Powers) :=
    fun power busy => ⟨power.trans, fun powers _ => power.trans (powers busy)⟩
  cases change with
  | quiet | cached | wiped | unassociated | targeted | vifCleared | registered | vifAssociated
  | dialog | m1 | emptied | keyed | keyedExternally | sent | rxAgreed | txAgreed
  | interfaceRemoved => exact same rfl (.inl rfl)
  | released =>
      refine same ?_ (.inl (Ieee80211.state_withoutSta s))
      exact (congrArg Link.powered (Ieee80211.link_withoutSta s)).trans (Link.powered_withoutSta _)
  | gaveUp | deauthenticated | abandoned | disconnected | switchedOff | hardwareRemoved =>
      exact same rfl (.inr rfl)
  | scanBegan idle powered => exact ⟨fun _ => powered, fun _ _ => powered⟩
  | committed isConnect began fresh idle powered => exact ⟨fun _ => powered, fun _ _ => powered⟩
  | associating phase | handshaking phase | opened phase => exact moves rfl (by simp [phase])
  | completed shaking => exact moves rfl (by simp [shaking.state])
  | poweredOn => exact ⟨fun _ => rfl, fun _ _ => rfl⟩
  | poweredOff switches =>
      rcases switches with rfl | rfl | ⟨⟨ticket, rfl⟩, -⟩ <;> cases stays

theorem Walk.powered (walk : Walk observer op first s r) (stays : op.switchesOff = false)
    (powered : first.1.powered = true) : s.powered = true := by
  refine walk.invariant (fun l _ => l.powered = true) powered ?_ ?_ ?_
  · exact fun _ _ _ _ change => (change.powers stays).1
  · exact fun _ _ _ _ held => held
  · exact fun _ _ _ held => held

theorem Walk.powers (walk : Walk observer op first s r) (stays : op.switchesOff = false)
    (powers : first.1.Powers) : s.Powers := by
  refine walk.invariant (fun l _ => l.state ≠ .idle → l.powered = true) powers ?_ ?_ ?_
  · exact fun _ _ _ _ change => (change.powers stays).2
  · exact fun _ _ _ _ held => held
  · exact fun _ _ _ held => held

end

/-! ## Without power -/

namespace M

/-- Left alone, the program does not ask the hardware for what needs its power, and ends
in `post`. -/
abbrev AsksNothing {α : Type} (program : M α) (s : Ieee80211) (post : Ieee80211 → Prop) : Prop :=
  program.Ends rtw88.ready (LinkObserver.plain Op.KeepsPower).watch
    (fun call _ _ => call.needsPower = false) s () fun _ t _ => post t

/-- An idle state machine stays idle, and the hardware is not asked. -/
abbrev StaysIdle {α : Type} (program : M α) (s : Ieee80211) : Prop :=
  AsksNothing program s fun t => t.state = .idle

section

variable {s : Ieee80211} (idle : s.state = .idle)

include idle

theorem deliverEthernet_staysIdle (skb : Skb) (msdu : Msdu) :
    StaysIdle (deliverEthernet skb msdu) s := by
  simp [deliverEthernet, fillInputPacket, copies, succeeds, dropMbuf, perform, Ieee80211.mbufFreem,
    idle, Call.needsPower]

theorem deliverDataFrame_staysIdle (skb : Skb) : StaysIdle (deliverDataFrame skb) s := by
  have ethernets : StaysIdle (Prog.forEach (carriedMsdus skb.data) (deliverEthernet skb)) s :=
    Prog.Ends.forEach (fun msdu t _ idle => deliverEthernet_staysIdle idle skb msdu) idle
  have single : StaysIdle (deliverMsdu skb) s := by
    have logged : s.logCcmpIvSkip.state = .idle := idle
    simp [deliverMsdu, Ieee80211.takesEapol, idle, logged, deliverEthernet_staysIdle]
  simp only [deliverDataFrame, perform, Prog.bind_eq_bind, Prog.pure_eq_ret, Prog.ends_bind,
    Prog.ends_await, Prog.ends_ret, Prog.ends_ite, Prog.ends_update, Prog.ends_when]
  refine ⟨rfl, fun _ _ _ => ⟨fun _ => ?_, fun _ => ⟨fun _ => ?_, fun _ => idle⟩⟩⟩
  · exact ethernets.mono (fun _ _ _ => id) fun _ _ _ => id
  · exact single.mono (fun _ _ _ => id) fun _ _ _ => id

/-- The frames that come out of the reorder buffers are delivered. -/
theorem deliverReleased_staysIdle (outcome : RxBaOutcome Skb) :
    StaysIdle (deliverReleased outcome) s := by
  have delivers : StaysIdle (Prog.forEach outcome.out deliverDataFrame) s :=
    Prog.Ends.forEach (fun skb t _ idle => deliverDataFrame_staysIdle idle skb) idle
  simp only [deliverReleased, Prog.bind_eq_bind, Prog.ends_bind, Prog.ends_when, Prog.ends_update]
  exact delivers.mono (fun _ _ _ => id) fun _ t _ idle => ⟨fun _ => idle, fun _ => idle⟩

theorem tryDeliverAWDLDataFrame_staysIdle (skb : Skb) :
    StaysIdle (tryDeliverAWDLDataFrame skb) s := by
  simp [tryDeliverAWDLDataFrame, deliverAWDLEthernet, fillInputPacket, copies, succeeds, dropMbuf,
    perform, Ieee80211.mbufFreem, Ieee80211.kfreeSkb, idle, Call.needsPower]

/-- Nothing that is received concerns an idle state machine. -/
theorem rxFrame_asksNothing (skb : Skb) : AsksNothing (rxFrame skb) s fun _ => True := by
  have counted : (s.countRx skb).state = .idle := idle
  have data : ∀ t : Ieee80211, t.state = .idle →
      AsksNothing (processRxData skb) t fun _ => True := by
    intro t idle
    simp [processRxData, Ieee80211.receivesData, Ieee80211.connectedOrScanning, idle]
  have mgmt : AsksNothing (processRxMgmt skb) (s.countRx skb) fun _ => True := by
    simp [processRxMgmt, processRxAuth, processRxAssoc, processRxDeauth, processRxAction,
      Ieee80211.receivesData, Ieee80211.connectedOrScanning, perform, counted, Call.needsPower]
  simp only [rxFrame, Prog.bind_eq_bind, Prog.ends_bind, Prog.ends_when, Prog.ends_update,
    Prog.ends_ite]
  refine ⟨fun _ => trivial, fun _ => ⟨fun _ => mgmt, fun _ => ⟨fun _ => ?_, fun _ => trivial⟩⟩⟩
  refine (tryDeliverAWDLDataFrame_staysIdle counted skb).mono (fun _ _ _ => id) ?_
  exact fun _ t _ idle => ⟨fun _ => data t idle, fun _ => trivial⟩

end

end M

section

variable {s : Ieee80211} (idle : s.state = .idle) (unpowered : s.powered = false)

include idle unpowered

/-- An idle state machine asks nothing of hardware without power. -/
theorem asksNothing_of_unpowered {op : Op} (admitted : op.KeepsPower s.link)
    (stays : op.switchesOff = false) : M.AsksNothing op.program s fun _ => True := by
  have power : s.link.powered = false := unpowered
  cases op with
  | rxFrame skb =>
      simp only [Op.program, M.returning, Prog.bind_eq_bind, Prog.pure_eq_ret, Prog.ends_bind,
        Prog.ends_ret]
      exact M.rxFrame_asksNothing idle skb
  | scanDone aborted =>
      simp [Op.program, M.returning, M.scanDone, M.leaveActiveScan, M.perform,
        Ieee80211.pruneBssList, idle, Call.needsPower]
  | timerFired deadline =>
      simp [Op.program, M.returning, M.timerFired, M.onTimer, Ieee80211.cancelTimeout, idle]
  | reorderTimerFired =>
      have flushed : (s.cancelReorderTimer.leaveRxBa (rxReorderFlushStale s.rxBa)).state = .idle :=
        idle
      simp only [Op.program, M.returning, M.reorderTimerFired, M.rxReorderFlushStale,
        Prog.bind_eq_bind, Prog.pure_eq_ret, Prog.ends_bind, Prog.ends_ret, Prog.ends_update,
        Prog.ends_fetch]
      exact (M.deliverReleased_staysIdle flushed _).mono (fun _ _ _ => id) fun _ _ _ _ => trivial
  | connectCall =>
      simp [Op.program, M.returning, M.connectCall, M.doAuthenticate, M.authenticationCancelled,
        M.perform, Ieee80211.withConnectTC, Call.needsPower, unpowered]
  | outputPacket m => simp [Op.program, M.outputPacket, Ieee80211.outputGate, idle]
  | cmdScan => simp [Op.program, M.cmdScan, idle, unpowered]
  | cmdConnect args =>
      simp [Op.program, M.cmdConnect, M.abortActiveScan, M.connectIdle, idle, unpowered]
  | cmdDisconnect ticket =>
      simp [Op.program, M.cmdDisconnect, M.cancelAuthentication, M.drainConnectCall, M.perform,
        Ieee80211.withConnectTC, Ieee80211.markCancelled, Ieee80211.cancelTimeout, idle,
        Call.needsPower]
  | cmdPowerOn =>
      simp [Op.program, M.cmdPowerOn, M.powerOn, M.perform, M.setReceiveMulticast, Call.needsPower]
  | cmdInstallExternalKey pairwise keyidx cipher key =>
      simp [Op.program, M.cmdInstallExternalKey, idle]
  | cmdSetAssocRsnIE ie =>
      simp only [Op.program, M.cmdSetAssocRsnIE]
      split <;> simp
  | setReceiveMulticast active =>
      simp [Op.program, M.setReceiveMulticast, M.perform, Call.needsPower]
  | setAWDLReceiveMode active =>
      simp [Op.program, M.setAWDLReceiveMode, M.perform, Call.needsPower]
  | setAWDLChannel channel => simp [Op.program, M.setAWDLChannel, unpowered]
  | powerOn => simp [Op.program, M.powerOn, M.perform, M.setReceiveMulticast, Call.needsPower]
  | manualScanCall | txRawManagementFrame _ | txAWDLDataFrame _ =>
      exact absurd (admitted.symm.trans power) (by decide)
  | cmdPowerOff _ | powerOff | stop => cases stays

end

/-! ## The operations -/

/-- Left alone, the program has the power that it needs, and ends in `post`. -/
abbrev M.Gates {α : Type} (program : M α) (s : Ieee80211) (post : α → Ieee80211 → Prop) : Prop :=
  program.Ends rtw88.ready (LinkObserver.plain Op.KeepsPower).watch
    (fun call s _ => s.Powers ∧ (call.needsPower = true → s.powered = true)) s ()
    fun value t _ => post value t

/-- What holds between the operations. -/
structure Ieee80211.Gated (s : Ieee80211) : Prop extends s.Sound where
  powers : s.Powers

theorem Ieee80211.Powers.idle {s : Ieee80211} (powers : s.Powers)
    (unpowered : s.powered = false) : s.state = .idle := by
  by_contra busy
  simp [powers busy] at unpowered

/-- A part of an operation that keeps the power on. -/
theorem gates_of_walks {α : Type} {op : Op} {program : M α} {s : Ieee80211}
    {post : α → Ieee80211 → Unit → Prop} (stays : op.switchesOff = false)
    (powered : s.powered = true)
    (walks : Walks (LinkObserver.plain Op.KeepsPower) op (s, ()) program s () post) :
    M.Gates program s fun value t => t.Sound ∧ t.powered = true ∧ post value t () := by
  have on : ∀ t, Walk (LinkObserver.plain Op.KeepsPower) op (s, ()) t () → t.powered = true :=
    fun t walk => walk.powered stays powered
  refine walks.ends.mono (fun _ t _ walk => ⟨fun _ => on t walk, fun _ => on t walk⟩) ?_
  exact fun _ t _ held => ⟨held.1.sound, on t held.1, held.2⟩

theorem program_gates_of_stays {op : Op} {s : Ieee80211} (gated : s.Gated)
    (admitted : op.KeepsPower s.link) (stays : op.switchesOff = false) :
    M.Gates op.program s fun _ t => t.Gated := by
  have walks : Walks (LinkObserver.plain Op.KeepsPower) op (s, ()) op.program s ()
      fun _ t _ => op.Finishes (s, ()) t := program_walks op gated.toSound ()
  have powers : ∀ t, Walk (LinkObserver.plain Op.KeepsPower) op (s, ()) t () → t.Powers :=
    fun t walk => walk.powers stays gated.powers
  by_cases powered : s.powered = true
  · have on : ∀ t, Walk (LinkObserver.plain Op.KeepsPower) op (s, ()) t () → t.powered = true :=
      fun t walk => walk.powered stays powered
    refine walks.ends.mono (fun _ t _ walk => ⟨powers t walk, fun _ => on t walk⟩) ?_
    exact fun _ t _ held => ⟨held.1.sound, powers t held.1⟩
  · have unpowered := Bool.eq_false_of_not_eq_true powered
    have idle := gated.powers.idle unpowered
    have asks := asksNothing_of_unpowered idle unpowered admitted stays
    refine (walks.ends.and asks).mono ?_ fun _ t _ held => ⟨held.1.1.sound, powers t held.1.1⟩
    refine fun call t _ held => ⟨powers t held.1, fun needs => ?_⟩
    exact absurd (needs.symm.trans held.2) (by decide)

/-- What a connection left behind can be released: there is power, or no station. -/
def Ieee80211.Releasable (s : Ieee80211) : Prop :=
  s.powered = true ∨ s.sta = none

theorem Ieee80211.Gated.of_link {s t : Ieee80211} (gated : s.Gated) (same : t.link = s.link) :
    t.Gated := by
  have state : t.state = s.state := congrArg Link.state same
  have power : t.powered = s.powered := congrArg Link.powered same
  exact ⟨gated.toSound.of_link same, fun busy => power.trans (gated.powers (state ▸ busy))⟩

theorem Ieee80211.Releasable.of_link {s t : Ieee80211} (releasable : s.Releasable)
    (same : t.link = s.link) : t.Releasable :=
  releasable.imp (congrArg Link.powered same).trans (congrArg Link.sta same).trans

namespace M

theorem gates_bind {α β : Type} {program : M α} {rest : α → M β} {s : Ieee80211}
    {mid : α → Ieee80211 → Prop} {post : β → Ieee80211 → Prop} (runs : Gates program s mid)
    (goesOn : ∀ value t, mid value t → Gates (rest value) t post) :
    Gates (program.bind rest) s post := by
  rw [Gates, Prog.ends_bind]
  exact runs.mono (fun _ _ _ => id) fun value t _ => goesOn value t

theorem drainConnectCall_gates {s : Ieee80211} (powers : s.Powers) :
    Gates drainConnectCall s fun _ t => t.link = s.link := by
  simp [drainConnectCall, perform, Call.needsPower]
  exact fun _ => ⟨powers, fun _ _ => rfl⟩

theorem cancelAuthentication_gates {s : Ieee80211} (powers : s.Powers) :
    Gates cancelAuthentication s fun _ t => t.link = s.link :=
  drainConnectCall_gates (s := s.markCancelled) powers

theorem clearKeys_gates {s : Ieee80211} (powers : s.Powers) :
    Gates clearKeys s fun _ t => t = s.wipeKeys := by
  by_cases powered : s.powered = true
  · simp [clearKeys, disableKey, perform, powered, powers]
  · simp [clearKeys, powered]

theorem releaseSta_gates {s : Ieee80211} (powers : s.Powers) (releasable : s.Releasable) :
    Gates releaseSta s fun _ t => t = s.withoutSta := by
  by_cases present : s.sta.isSome = true
  · have powered : s.powered = true := releasable.resolve_right fun absent => by
      simp [absent] at present
    simp [releaseSta, perform, Ieee80211.withoutSta, present, powered, powers]
    exact fun absent => by simp [absent] at present
  · simp [releaseSta, Ieee80211.withoutSta, present]

/-- A connection is torn down while the power is on. -/
theorem doDisconnect_gates {s : Ieee80211} (sound : s.Sound) (powered : s.powered = true)
    (busy : s.state ≠ .idle) :
    Gates doDisconnect s fun _ t => t.Sound ∧ t.powered = true ∧ t.state = .idle := by
  have start : Walk (LinkObserver.plain Op.KeepsPower) (.cmdDisconnect 0) (s, ()) s () :=
    .start sound
  exact gates_of_walks rfl powered (doDisconnect_walks start rfl (decide_eq_true busy))

theorem abortActiveScan_gates {s : Ieee80211} (gated : s.Gated) (releasable : s.Releasable) :
    Gates (abortActiveScan true) s fun left t =>
      t.Gated ∧ t.Releasable ∧ (left = true → t.state ≠ .scanning) := by
  by_cases powered : s.powered = true
  · have start : Walk (LinkObserver.plain Op.KeepsPower) .cmdScan (s, ()) s () :=
      .start gated.toSound
    refine (gates_of_walks rfl powered (abortActiveScan_walks start rfl)).mono
      (fun _ _ _ => id) ?_
    rintro left t _ ⟨sound, on, -, leaves, -⟩
    refine ⟨⟨sound, fun _ => on⟩, .inl on, fun isLeft scanning => ?_⟩
    have state : t.link.state = _ := congrArg Link.state (leaves isLeft)
    split at state
    · exact absurd (state.symm.trans scanning) nofun
    · rename_i other
      exact other (state.symm.trans scanning)
  · have idle := gated.powers.idle (Bool.eq_false_of_not_eq_true powered)
    simp [abortActiveScan, idle, gated, releasable]

theorem powerOff_gates {s : Ieee80211} (sound : s.Sound) (idle : s.state = .idle) :
    Gates powerOff s fun _ t => t.Sound ∧ t.state = .idle := by
  have powers : s.Powers := fun busy => absurd idle busy
  have off : (s.withPowered false).Sound := sound.keep rfl
  have stays : (s.withPowered false).state = .idle := idle
  simp [powerOff, perform, Call.needsPower, idle, sound, powers, off, stays]

theorem finishPowerOff_gates {s : Ieee80211} (gated : s.Gated) (releasable : s.Releasable)
    (other : s.state ≠ .scanning) : Gates finishPowerOff s fun _ t => t.Gated := by
  have ends : ∀ t : Ieee80211, t.Sound → t.state = .idle →
      Gates (do
        powerOff
        Prog.update Ieee80211.becomeIdle
        let s ← Prog.fetch
        Prog.when s.parent (perform (.setLinkStatus false))
        return IOReturn.success) t fun _ t => t.Gated := by
    intro t sound idle
    refine gates_bind (powerOff_gates sound idle) ?_
    rintro _ u ⟨sound, -⟩
    have left : u.becomeIdle.Gated :=
      ⟨sound.of_buffers rfl nofun rfl, fun busy => absurd rfl busy⟩
    simp [perform, Call.needsPower, left, left.powers]
  unfold finishPowerOff
  rw [Prog.bind_eq_bind, Gates, Prog.ends_bind, Prog.ends_fetch, Prog.ends_ite]
  refine ⟨fun busy => ?_, fun rest => ?_⟩
  · have busy : s.state ≠ .idle := by
      intro idle
      simp [idle] at busy
    refine gates_bind (doDisconnect_gates gated.toSound (gated.powers busy) busy) ?_
    rintro _ t ⟨sound, -, idle⟩
    exact ends t sound idle
  · have idle : s.state = .idle := by
      have connects := gated.connects
      cases phase : s.state <;> simp_all
    have wiped : s.wipeKeys.Powers := fun busy => absurd idle busy
    refine gates_bind (clearKeys_gates gated.powers) ?_
    rintro _ _ rfl
    refine gates_bind (releaseSta_gates wiped releasable) ?_
    rintro _ _ rfl
    have sound := Ieee80211.sound_of_steady (Ieee80211.steady_wipeKeys s) gated.toSound
    refine ends _ (sound.keep ?_) ((Ieee80211.state_withoutSta _).trans idle)
    unfold Ieee80211.withoutSta
    split <;> rfl

theorem cmdPowerOff_gates {s : Ieee80211} (gated : s.Gated) (releasable : s.Releasable) :
    Gates cmdPowerOff s fun _ t => t.Gated := by
  refine gates_bind (cancelAuthentication_gates gated.powers) fun _ t same => ?_
  have now := gated.of_link same
  refine gates_bind (abortActiveScan_gates now (releasable.of_link same)) ?_
  rintro left u ⟨now, releasable, leaves⟩
  rw [Gates, Prog.ends_ite]
  exact ⟨fun isLeft => finishPowerOff_gates now releasable (leaves isLeft), fun _ => now⟩

theorem removeHardware_gates {s : Ieee80211} (sound : s.Sound) (idle : s.state = .idle) :
    Gates removeHardware s fun _ t => t.Gated := by
  have powers : ∀ t : Ieee80211, t.state = .idle → t.Powers :=
    fun t idle busy => absurd idle busy
  have removed : (s.forgetVif.withPowered false).becomeIdle.forgetHw.Gated :=
    ⟨sound.of_buffers rfl nofun rfl, fun busy => absurd rfl busy⟩
  simp [removeHardware, removeInterface, perform, Call.needsPower, idle, powers s idle, removed,
    powers s.forgetVif idle, powers (s.forgetVif.withPowered false) idle]

theorem stop_gates {s : Ieee80211} (gated : s.Gated)
    (phase : s.state = .idle ∨ s.state = .connected) (releasable : s.Releasable) :
    Gates stop s fun _ t => t.Gated := by
  refine gates_bind (cancelAuthentication_gates gated.powers) fun _ t same => ?_
  have releases : ∀ u : Ieee80211, u.link = s.link →
      Gates (do
        if u.connectedOrScanning && u.powered then
          doDisconnect
        else
          clearKeys
          releaseSta
        removeHardware) u fun _ t => t.Gated := by
    intro u same
    have now := gated.of_link same
    rw [Gates, Prog.ends_ite]
    refine ⟨fun up => ?_, fun down => ?_⟩
    · obtain ⟨up, powered⟩ := Bool.and_eq_true_iff.mp up
      have busy : u.state ≠ .idle := by
        intro idle
        simp [Ieee80211.connectedOrScanning, idle] at up
      refine gates_bind (doDisconnect_gates now.toSound powered busy) ?_
      rintro _ v ⟨sound, -, idle⟩
      exact removeHardware_gates sound idle
    · have releasable : u.Releasable := releasable.of_link same
      have idle : u.state = .idle := by
        have state : u.state = s.state := congrArg Link.state same
        refine state.trans (phase.resolve_right fun connected => down ?_)
        have connected := state.trans connected
        have powered := now.powers (by simp [connected])
        simp [Ieee80211.connectedOrScanning, connected, powered]
      have wiped : u.wipeKeys.Powers := fun busy => absurd idle busy
      refine gates_bind (clearKeys_gates now.powers) ?_
      rintro _ _ rfl
      refine gates_bind (releaseSta_gates wiped releasable) ?_
      rintro _ _ rfl
      have sound := Ieee80211.sound_of_steady (Ieee80211.steady_wipeKeys u) now.toSound
      refine removeHardware_gates (sound.keep ?_) ((Ieee80211.state_withoutSta _).trans idle)
      unfold Ieee80211.withoutSta
      split <;> rfl
  have drains : ∀ u : Ieee80211, u.link = s.link →
      Gates (do
        drainConnectCall
        Prog.update fun s => s.cancelTimeout.cancelReorderTimer
        let s ← Prog.fetch
        if s.connectedOrScanning && s.powered then
          doDisconnect
        else
          clearKeys
          releaseSta
        removeHardware) u fun _ t => t.Gated := by
    intro u same
    refine gates_bind (drainConnectCall_gates (gated.of_link same).powers) fun _ v same' => ?_
    exact releases v.cancelTimeout.cancelReorderTimer (same'.trans same)
  rw [Gates, Prog.bind_eq_bind, Prog.ends_bind, Prog.ends_choose]
  intro answer
  have powers := (gated.of_link same).powers
  exact ⟨⟨powers, by simp [Call.needsPower]⟩, fun _ _ _ => drains _ same⟩

end M

/-- Every admitted operation has the power that it needs. -/
theorem program_gates {op : Op} {s : Ieee80211} (gated : s.Gated)
    (admitted : op.KeepsPower s.link) : M.Gates op.program s fun _ t => t.Gated := by
  have returns : ∀ {body : M Unit}, M.Gates body s (fun _ t => t.Gated) →
      M.Gates (M.returning body) s fun _ t => t.Gated := fun runs =>
    M.gates_bind runs fun _ _ gated => gated
  by_cases stays : op.switchesOff = false
  · exact program_gates_of_stays gated admitted stays
  · cases op with
    | powerOff =>
        refine returns ((M.powerOff_gates gated.toSound admitted).mono (fun _ _ _ => id) ?_)
        rintro _ t _ ⟨sound, idle⟩
        exact ⟨sound, fun busy => absurd idle busy⟩
    | cmdPowerOff ticket => exact M.cmdPowerOff_gates gated admitted
    | stop => exact returns (M.stop_gates gated admitted.1 admitted.2)
    | _ => exact absurd rfl stays

/-- Everything has its power as long as it is not switched off under a connection, and the
functions that do not look at it are called with it. -/
theorem states_powered (s : Ieee80211) : StatesPowered Op.KeepsPower s := by
  intro initial now run
  have initially : s.Gated := by
    refine ⟨initial.sound, fun busy => ?_⟩
    obtain ⟨attached, -, rfl⟩ := initial
    exact absurd rfl busy
  have underway : rtw88.Underway (LinkObserver.plain Op.KeepsPower).watch
      (fun call s _ => s.Powers ∧ (call.needsPower = true → s.powered = true))
      (fun s _ => s.Gated) now :=
    System.Watched.underway (fun op s _ _ admitted gated => program_gates gated admitted)
      (.inl ⟨rfl, initially⟩) run
  rcases underway with ⟨idle, gated⟩ | ⟨thread, busy, ⟨powers, needs⟩, -⟩
  · exact ⟨gated.powers, by simp [idle]⟩
  · refine ⟨powers, fun other member => ?_⟩
    obtain rfl := List.mem_singleton.mp (busy ▸ member)
    exact needs

namespace Scenario

/-- The interface of a connected station is disabled. -/
def disabledConnected : List (Turn Answer Op) :=
  attempt ++ associate ++ [.start .powerOff [], goOn 0]

def connectedWithoutPower : Option Bool := do
  let (config, _) ←
    rtw88.playAlone (LinkObserver.plain fun _ _ => True).watch (start, ()) disabledConnected
  return config.state.state = .connected && !config.state.powered

theorem connectedWithoutPower_true : connectedWithoutPower = some true := by
  decide +kernel

end Scenario

theorem not_states_powered : ¬ ∀ s, StatesPowered (fun _ _ => True) s := by
  intro powered
  have run := Scenario.connectedWithoutPower_true
  simp only [Scenario.connectedWithoutPower, Option.bind_eq_bind, Option.bind_eq_some_iff,
    Prod.exists, Option.pure_def, Option.some.injEq, Bool.and_eq_true, decide_eq_true_eq,
    Bool.not_eq_true'] at run
  obtain ⟨config, _, played, connected, off⟩ := run
  have watched := System.watched_of_playAlone (fun _ _ _ => trivial)
    (fun _ _ _ _ _ => trivial) played
  have powers := (powered _ ⟨Scenario.attachment, rfl, rfl⟩ _ watched).powers
  have on : config.state.powered = true := powers (by simp [connected])
  simp [off] at on

end AirportRtw88
