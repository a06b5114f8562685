import AirportRtw88.RxSteps
import AirportRtw88.ConnectSteps
import AirportRtw88.CancelSteps

/-!
# The steps of the system

Every operation takes only the steps that are listed for it, so an invariant of
the control fields is checked against this list and never against a program.
-/

namespace AirportRtw88

open Interleave Bytes

/-- What an operation may do to the control fields. -/
inductive OpKind : Type where
  | receives
  | times
  | authenticates
  | scans
  | connects
  | cancels
  | keeps
  deriving DecidableEq

def Op.kind : Op → OpKind
  | .rxFrame _ | .reorderTimerFired => .receives
  | .timerFired _ => .times
  | .connectCall => .authenticates
  | .cmdScan => .scans
  | .cmdConnect _ => .connects
  | .cmdDisconnect _ | .cmdPowerOff _ | .stop => .cancels
  | _ => .keeps

/-- The place a block of received frames stops at; returning is a calm place. -/
def stopPlace : Stop Call IOReturn → RxPlace
  | .waits call => call.rxPlace
  | .returns _ => .calm

/-- One atomic block of an operation of this kind. -/
def OpKind.Step : OpKind → Option (Call × Answer) → Ieee80211 → Stop Call IOReturn →
    Ieee80211 → Prop
  | .receives, resumed, start, stop, now =>
      RxStep (rxOrigin resumed) start.control (stopPlace stop) now.control
  | .times, resumed, start, stop, now => TimerStep resumed start.control stop now.control
  | .authenticates, resumed, start, stop, now => ConnectStep resumed start stop now
  | .scans, resumed, start, stop, now => CmdScanStep resumed start.control stop now.control
  | .connects, _, start, stop, now => CmdConnectStep start.control stop now.control
  | .cancels, resumed, start, stop, now => CancelStep resumed start.control stop now.control
  | .keeps, _, start, stop, now => ScanKeeps start now ∧ stopConnects stop = false

/-- One atomic block of an operation. -/
def OpStep (op : Op) (resumed : Option (Call × Answer)) (start : Ieee80211)
    (stop : Stop Call IOReturn) (now : Ieee80211) : Prop :=
  op.kind.Step resumed start stop now

/-! ## Operations that keep the control fields -/

abbrev Op.Follows (op : Op) (state : Ieee80211) : Prop :=
  (rtw88.guarded Ieee80211.Regular).Follows OpStep op op.program none state

/-- An operation that only ends scans. -/
theorem follows_of_scans (op : Op) (keeps : op.kind = .keeps) {state : Ieee80211}
    (holds : Scans op.program state fun _ _ => True) : op.Follows state := by
  have steps : ∀ resumed start stop now, ScanKeeps start now → stopConnects stop = false →
      OpStep op resumed start stop now := by
    intro resumed start stop now kept other
    rw [OpStep, keeps]
    exact ⟨kept, other⟩
  apply holds.conforms fun _ start now => ScanKeeps start now
  · exact .of_same rfl
  · exact fun _ _ _ _ => ScanKeeps.trans
  · exact fun _ _ _ later _ _ => .of_same rfl
  · exact fun _ _ _ _ kept other => steps _ _ _ _ kept other
  · exact fun _ _ _ _ kept _ => steps _ _ _ _ kept rfl

/-- An operation that leaves the control fields alone. -/
theorem follows_of_inert (op : Op) (keeps : op.kind = .keeps)
    (inert : Inert (fun call => call.connects = false) op.program) (state : Ieee80211) :
    op.Follows state :=
  follows_of_scans op keeps (inert.scans (fun _ => id) fun _ _ => trivial)

namespace M

open Ieee80211 Prog

section Inert

attribute [local simp] perform succeeds submit recordTx Ieee80211.control Call.connects

/-- The requests of an operation that does not connect. -/
abbrev KeepsControl (program : M IOReturn) : Prop :=
  Inert (fun call => call.connects = false) program

theorem outputPacket_inert (m : Mbuf) : KeepsControl (outputPacket m) := by
  intro ready now
  simp [outputPacket, txDataFrame, allocSkb, takeSkb, dropSkb, handSkb, dropMbuf, copies, bumpTxPn,
    bumpDataSeq, mbufFreem]

theorem txRawManagementFrame_inert (frame : Bytes) :
    KeepsControl (reporting (txRawManagementFrame frame)) := by
  intro ready now
  simp [reporting, txRawManagementFrame, txMgmtFrame]

theorem txAWDLDataFrame_inert (m : Mbuf) : KeepsControl (reporting (txAWDLDataFrame m)) := by
  intro ready now
  simp [reporting, txAWDLDataFrame, allocSkb, takeSkb, dropSkb, handSkb, dropMbuf, copies,
    bumpTxSeq, mbufFreem]

theorem setReceiveMulticast_inert (active : Bool) :
    KeepsControl (setReceiveMulticast active) := by
  intro ready now
  simp [setReceiveMulticast]

theorem setAWDLReceiveMode_inert (active : Bool) :
    KeepsControl (setAWDLReceiveMode active) := by
  intro ready now
  simp [setAWDLReceiveMode]

theorem cmdSetAssocRsnIE_inert (ie : Option Bytes) : KeepsControl (cmdSetAssocRsnIE ie) := by
  intro ready now
  unfold cmdSetAssocRsnIE
  cases ie.filter isRsnIe <;> simp

theorem cmdInstallExternalKey_inert (pairwise : Bool) (keyidx : UInt8) (cipher : Nat)
    (key : Option Bytes) : KeepsControl (cmdInstallExternalKey pairwise keyidx cipher key) := by
  intro ready now
  unfold cmdInstallExternalKey
  cases key.filter fun key => key ≠ [] <;> simp [installKey, setKeySlot, resetTxPn]

theorem powerOn_inert : KeepsControl powerOn := by
  intro ready now
  simp [powerOn, setReceiveMulticast, withPowered]

theorem powerOff_keepsControl : KeepsControl (returning powerOff) := by
  intro ready now
  simp [returning, powerOff, withPowered]

/-- The state machine is not in `DISCONNECTING`, so it is not taken out of it. -/
theorem cmdPowerOn_scans {s : Ieee80211} (regular : s.Regular) :
    Scans cmdPowerOn s fun _ _ => True := by
  have powered := (powerOn_inert guardedReady s).invariant
    (fun _ _ same => regular_of_control_eq same) (fun _ _ isReady => isReady.2) regular
  simp only [cmdPowerOn, pure_eq_ret, bind_eq_bind, guarantees_bind, guarantees_fetch,
    guarantees_when, guarantees_update, guarantees_ret]
  refine powered.mono (fun _ _ => .inl) (fun _ _ => id) fun ret later powered =>
    ⟨fun off => ?_, fun _ => trivial⟩
  simp [powered.2.connects] at off

end Inert

theorem manualScanCall_scans {s : Ieee80211} (regular : s.Regular) :
    Scans (returning M.manualScanCall) s fun _ _ => True := by
  simp only [Scans, returning, M.manualScanCall, pure_eq_ret, bind_eq_bind, guarantees_bind,
    guarantees_fetch, guarantees_update, guarantees_when, guarantees_ret]
  refine ⟨.of_same rfl, fun _ => ?_, fun _ => ⟨.of_same rfl, trivial⟩⟩
  apply runManualScan_scans
  · exact ⟨regular.scans, regular.connects⟩
  · exact fun later => ⟨.of_same rfl, trivial⟩

theorem scanDoneOp_scans (aborted : Bool) {s : Ieee80211} (regular : s.Regular) :
    Scans (returning (scanDone aborted)) s fun _ _ => True := by
  simp only [Scans, returning, pure_eq_ret, bind_eq_bind, guarantees_bind, guarantees_ret]
  exact scanDone_scans aborted regular.scans fun _ => trivial

end M

/-! ## The system -/

/-- Every operation takes only the steps listed for it. -/
theorem respects_opStep : (rtw88.guarded Ieee80211.Regular).Respects OpStep := by
  rintro op s ⟨-, regular⟩
  cases op with
  | rxFrame skb => exact (Prog.conforms_bind _ _ _ _ _ _).mpr (M.rxFrame_rx skb _ _ _ _ rfl rfl)
  | reorderTimerFired =>
      exact (Prog.conforms_bind _ _ _ _ _ _).mpr (M.reorderTimerFired_rx _ _ _ _ rfl rfl)
  | connectCall =>
      exact (Prog.conforms_bind _ _ _ _ _ _).mpr
        ((M.connectCall_auth s).mono (fun _ _ _ _ => id) fun _ _ _ _ ends => ends _)
  | timerFired deadline => exact M.timerFired_takes regular
  | cmdScan => exact M.cmdScan_takes regular
  | cmdConnect args => exact M.cmdConnect_takes args regular
  | cmdDisconnect ticket => exact M.cmdDisconnect_cancels s
  | cmdPowerOff ticket => exact M.cmdPowerOff_cancels s
  | stop => exact M.stop_cancels s
  | scanDone aborted =>
      exact follows_of_scans (.scanDone aborted) rfl (M.scanDoneOp_scans aborted regular)
  | manualScanCall => exact follows_of_scans .manualScanCall rfl (M.manualScanCall_scans regular)
  | cmdPowerOn => exact follows_of_scans .cmdPowerOn rfl (M.cmdPowerOn_scans regular)
  | outputPacket m => exact follows_of_inert (.outputPacket m) rfl (M.outputPacket_inert m) s
  | txRawManagementFrame frame =>
      exact follows_of_inert (.txRawManagementFrame frame) rfl
        (M.txRawManagementFrame_inert frame) s
  | txAWDLDataFrame m =>
      exact follows_of_inert (.txAWDLDataFrame m) rfl (M.txAWDLDataFrame_inert m) s
  | cmdInstallExternalKey pairwise keyidx cipher key =>
      exact follows_of_inert (.cmdInstallExternalKey pairwise keyidx cipher key) rfl
        (M.cmdInstallExternalKey_inert pairwise keyidx cipher key) s
  | cmdSetAssocRsnIE ie =>
      exact follows_of_inert (.cmdSetAssocRsnIE ie) rfl (M.cmdSetAssocRsnIE_inert ie) s
  | setReceiveMulticast active =>
      exact follows_of_inert (.setReceiveMulticast active) rfl
        (M.setReceiveMulticast_inert active) s
  | setAWDLReceiveMode active =>
      exact follows_of_inert (.setAWDLReceiveMode active) rfl (M.setAWDLReceiveMode_inert active) s
  | setAWDLChannel channel =>
      exact follows_of_scans (.setAWDLChannel channel) rfl
        ((M.setAWDLChannel_inert channel).scans (by rintro _ rfl; rfl) fun _ _ => trivial)
  | powerOn => exact follows_of_inert .powerOn rfl M.powerOn_inert s
  | powerOff => exact follows_of_inert .powerOff rfl M.powerOff_keepsControl s

/-- `Ieee80211.Regular`, for the control fields. -/
def Control.Regular (c : Control) : Prop :=
  c.scanReturnState = .idle ∧ c.state ≠ .disconnecting

theorem Control.Idles.regular {before after : Control} (idles : before.Idles after)
    (regular : before.Regular) : after.Regular := by
  obtain ⟨timer, armed, rfl | ⟨writes, rfl⟩⟩ := idles
  · exact regular
  · exact ⟨rfl, nofun⟩

theorem RxStep.regular {place place' : RxPlace} {before after : Control}
    (step : RxStep place before place' after) (regular : before.Regular) : after.Regular := by
  have idles : before.Idles after → after.Regular := fun idles => idles.regular regular
  cases place <;>
    simp only [RxStep, PublishStep, ShakeStep, Control.Regular] at * <;> grind

theorem TimerStep.regular {resumed stop} {before after : Control}
    (step : TimerStep resumed before stop after) (regular : before.Regular) : after.Regular := by
  have tears : ∀ before, TearStep before stop after → before.Regular → after.Regular :=
    fun _ step regular => step.idles.regular regular
  unfold TimerStep at step
  split at step
  · split at step <;> grind [Control.Regular]
  all_goals grind [Control.Regular]

theorem CancelStep.regular {resumed stop} {before after : Control}
    (step : CancelStep resumed before stop after) (regular : before.Regular) :
    after.Regular := by
  rcases resumed with _ | ⟨call, answer⟩
  · obtain ⟨-, canceled, rfl⟩ := step
    exact regular
  · rcases step with ⟨-, -, canceled, rfl⟩ | ⟨-, -, rfl⟩ | ⟨-, -, -, idles, -⟩
    · exact regular
    · exact regular
    · refine idles.regular ?_
      unfold Call.cancelMid
      split <;> exact regular

theorem CmdScanStep.regular {resumed stop} {before after : Control}
    (step : CmdScanStep resumed before stop after) (regular : before.Regular) :
    after.Regular := by
  cases resumed <;>
    grind [CmdScanStep, Control.Regular]

theorem ScanKeeps.regular {before after : Ieee80211} (keeps : ScanKeeps before after)
    (regular : before.control.Regular) : after.control.Regular := by
  rcases keeps with same | ⟨-, idles⟩
  · exact same ▸ regular
  · exact idles.regular regular

theorem CmdConnectStep.regular {stop} {before after : Control}
    (step : CmdConnectStep before stop after) (regular : before.Regular) : after.Regular := by
  obtain ⟨-, mid, ends, commits⟩ := step
  have regular : mid.Regular := by
    rcases ends with rfl | ⟨-, idles⟩
    · exact regular
    · exact idles.regular regular
  rcases commits with ⟨-, rfl⟩ | ⟨-, wpa2, supplicant, rfl⟩
  · exact regular
  · exact ⟨regular.1, nofun⟩

/-- What the thread call does to the control fields. -/
theorem ConnectStep.control {call : Call} {answer start stop now}
    (step : ConnectStep (some (call, answer)) start stop now) :
    (∃ next, stop = .waits next ∧ call.LeadsTo start.connectCancelled next ∧
        now.control = start.control) ∨
      ((∃ value, stop = .returns value) ∧
        (now.control = start.control.withCall start.connectTC.finish ∨
          (call = .load .authenticateSent false ∧ start.state = .authenticating ∧
            now.control = (start.control.wakeAtTime 3000).withCall start.connectTC.finish))) := by
  rcases step with ⟨next, waits, leads, keeps⟩ | ⟨returns, ended, ends, rfl⟩
  · exact .inl ⟨next, waits, leads, keeps.control⟩
  · refine .inr ⟨returns, ?_⟩
    rcases ends with ⟨-, rfl⟩ | ⟨-, rfl⟩ | ⟨sent, rfl⟩
    · exact .inl rfl
    · exact .inl rfl
    · split
      · exact .inr ⟨sent, ‹_›, rfl⟩
      · exact .inl rfl

theorem ConnectStep.regular {resumed start stop now} (step : ConnectStep resumed start stop now)
    (regular : start.control.Regular) : now.control.Regular := by
  rcases resumed with _ | ⟨call, answer⟩
  · simp only [ConnectStep] at step
    split at step <;> obtain ⟨-, rfl⟩ := step <;> exact regular
  · rcases step.control with ⟨_, -, -, same⟩ | ⟨-, same | ⟨-, -, same⟩⟩ <;>
      rw [same] <;> exact regular

theorem opStep_regular (op : Op) (resumed : Option (Call × Answer)) (start : Ieee80211)
    (stop : Stop Call IOReturn) (now : Ieee80211) (step : OpStep op resumed start stop now)
    (regular : start.Regular) : now.Regular := by
  suffices stays : now.control.Regular from ⟨stays.1, stays.2⟩
  have regular : start.control.Regular := ⟨regular.scans, regular.connects⟩
  unfold OpStep at step
  cases kind : op.kind with
  | receives => exact RxStep.regular (kind ▸ step) regular
  | times => exact TimerStep.regular (kind ▸ step) regular
  | authenticates => exact ConnectStep.regular (kind ▸ step) regular
  | scans => exact CmdScanStep.regular (kind ▸ step) regular
  | connects => exact CmdConnectStep.regular (kind ▸ step) regular
  | cancels => exact CancelStep.regular (kind ▸ step) regular
  | keeps => exact ScanKeeps.regular (kind ▸ step).1 regular

theorem Ieee80211.initial.regular {s : Ieee80211} (initial : s.initial) : s.Regular := by
  obtain ⟨attached, -, rfl⟩ := initial
  exact ⟨rfl, nofun⟩

/-- The configurations whose steps are known. -/
abbrev Tracked : DriverConfig → Prop :=
  rtw88.Tracked Ieee80211.Regular OpStep

theorem tracked_initial {s : Ieee80211} (initial : s.initial) : Tracked ⟨s, []⟩ :=
  System.tracked_nil OpStep initial.regular

theorem Tracked.step {config config' : DriverConfig} {move : DriverMove}
    (tracked : Tracked config) (taken : rtw88.Step config move config') :
    OpStep move.op move.resumed config.state move.stop config'.state ∧ Tracked config' :=
  System.Tracked.related respects_opStep opStep_regular tracked taken

/-- An invariant of the runs whose steps satisfy `admits`. -/
theorem Tracked.run {admits : DriverConfig → DriverMove → DriverConfig → Prop}
    {holds : DriverConfig → Prop}
    (kept : ∀ config move config', rtw88.Step config move config' →
      admits config move config' →
      OpStep move.op move.resumed config.state move.stop config'.state →
      holds config → holds config')
    {config config' : DriverConfig} (tracked : Tracked config) (initially : holds config)
    (run : rtw88.Reaches admits config config') : Tracked config' ∧ holds config' :=
  System.Tracked.invariant respects_opStep opStep_regular
    (fun config move config' taken admitted _ => kept config move config' taken admitted)
    tracked initially run

/-! ## The threads of a step -/

theorem mem_labels_of_step {config config' : DriverConfig} {move : DriverMove}
    (taken : rtw88.Step config move config') {label : Op × Call}
    (member : label ∈ config'.labels) : label ∈ config.labels ∨ label ∈ move.added := by
  obtain ⟨before, after, labels, labels'⟩ := taken.labels
  rw [labels'] at member
  rw [labels]
  simp only [List.mem_append] at member ⊢
  tauto

theorem mem_added {move : DriverMove} {op : Op} {call : Call}
    (member : (op, call) ∈ move.added) : move.stop = .waits call ∧ move.op = op := by
  unfold Move.added at member
  split at member <;> simp_all

theorem mem_labels_of_resumed {config config' : DriverConfig} {move : DriverMove}
    (taken : rtw88.Step config move config') {call : Call} {answer : Answer}
    (resumed : move.resumed = some (call, answer)) : (move.op, call) ∈ config.labels := by
  obtain ⟨before, after, labels, -⟩ := taken.labels
  rw [labels]
  simp [Move.removed, resumed]

end AirportRtw88
