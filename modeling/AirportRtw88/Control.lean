import AirportRtw88.System
import AirportRtw88.Interleave.Guarantee

/-!
# The control fields

The fields that decide what the state machine does next, and the functions of
the class that leave them alone.  A function is `Inert` for a class of requests
if it writes none of these fields and makes only requests of that class.
-/

namespace AirportRtw88

open Interleave Bytes

structure Control where
  state : Rtw88State
  phase : Nat
  timer : Option Deadline
  connectCancelled : Bool
  scanReturnState : ScanReturn
  connectTC : ThreadCall
  wpa2 : Bool
  externalSupplicant : Bool
  deriving DecidableEq

def Ieee80211.control (s : Ieee80211) : Control where
  state := s.state
  phase := s.phase
  timer := s.timer
  connectCancelled := s.connectCancelled
  scanReturnState := s.scanReturnState
  connectTC := s.connectTC
  wpa2 := s.wpa2
  externalSupplicant := s.externalSupplicant

namespace Control

@[grind]
def setState (c : Control) (next : Rtw88State) : Control :=
  { c with state := next, phase := c.phase + 1 }

@[grind]
def wakeAtTime (c : Control) (ms : Nat) : Control :=
  { c with timer := some ⟨ms, c.phase⟩ }

@[grind]
def cancelTimeout (c : Control) : Control :=
  { c with timer := none }

@[simp]
theorem cancelTimeout_cancelTimeout (c : Control) :
    c.cancelTimeout.cancelTimeout = c.cancelTimeout :=
  rfl

@[grind]
def becomeIdle (c : Control) : Control :=
  { c.setState .idle with scanReturnState := .idle }

@[grind]
def withCall (c : Control) (call : ThreadCall) : Control :=
  { c with connectTC := call }

/-- What `cancelAuthentication` writes before it waits. -/
@[grind]
def cancelConnect (c : Control) (canceled : Bool) : Control :=
  { c with
    timer := none
    connectCancelled := true
    connectTC := c.connectTC.cancel canceled }

/-- What an accepted `cmdConnect` writes. -/
@[grind]
def commitConnect (c : Control) (wpa2 externalSupplicant : Bool) : Control :=
  { c.setState .authenticating with
    connectCancelled := false
    connectTC := c.connectTC.enter
    wpa2 := wpa2
    externalSupplicant := externalSupplicant }

/-- The state machine becomes idle or stays where it is, perhaps without its
timer. -/
def Idles (before after : Control) : Prop :=
  ∃ timer, (timer = before.timer ∨ timer = none) ∧
    (after = { before with timer } ∨
      ∃ writes, after =
        { before with
          state := .idle
          scanReturnState := .idle
          phase := before.phase + writes + 1
          timer })

theorem Idles.refl (c : Control) : c.Idles c :=
  ⟨c.timer, .inl rfl, .inl rfl⟩

theorem Idles.trans {first second third : Control} (early : first.Idles second)
    (late : second.Idles third) : first.Idles third := by
  obtain ⟨timer, armed, rfl | ⟨writes, rfl⟩⟩ := early <;>
    obtain ⟨timer', armed', rfl | ⟨writes', rfl⟩⟩ := late
  · exact ⟨timer', by rcases armed' with rfl | rfl <;> simp [armed], .inl rfl⟩
  · exact ⟨timer', by rcases armed' with rfl | rfl <;> simp [armed], .inr ⟨writes', rfl⟩⟩
  · exact ⟨timer', by rcases armed' with rfl | rfl <;> simp [armed], .inr ⟨writes, rfl⟩⟩
  · refine ⟨timer', by rcases armed' with rfl | rfl <;> simp [armed],
      .inr ⟨writes + writes' + 1, ?_⟩⟩
    simp
    omega

@[grind →]
theorem Idles.keeps {before after : Control} (idles : before.Idles after) :
    after.connectTC = before.connectTC ∧ after.connectCancelled = before.connectCancelled ∧
      after.wpa2 = before.wpa2 ∧ after.externalSupplicant = before.externalSupplicant := by
  obtain ⟨timer, -, rfl | ⟨writes, rfl⟩⟩ := idles <;> exact ⟨rfl, rfl, rfl, rfl⟩

@[grind →]
theorem Idles.state {before after : Control} (idles : before.Idles after) :
    (after.state = before.state ∧ after.phase = before.phase) ∨
      (after.state = .idle ∧ before.phase < after.phase) := by
  obtain ⟨timer, -, rfl | ⟨writes, rfl⟩⟩ := idles
  · exact .inl ⟨rfl, rfl⟩
  · exact .inr ⟨rfl, Nat.lt_succ_of_le (Nat.le_add_right _ _)⟩

@[grind →]
theorem Idles.timer {before after : Control} (idles : before.Idles after) :
    after.timer = before.timer ∨ after.timer = none := by
  obtain ⟨timer, armed, rfl | ⟨writes, rfl⟩⟩ := idles <;> exact armed

theorem idles_cancelTimeout (c : Control) : c.Idles c.cancelTimeout :=
  ⟨none, .inr rfl, .inl rfl⟩

theorem idles_becomeIdle (c : Control) : c.Idles c.becomeIdle :=
  ⟨c.timer, .inl rfl, .inr ⟨0, rfl⟩⟩

end Control

namespace Ieee80211

/-! ## What the updates do to the control fields -/

@[simp]
theorem control_state (s : Ieee80211) : s.control.state = s.state :=
  rfl

@[simp]
theorem control_phase (s : Ieee80211) : s.control.phase = s.phase :=
  rfl

@[simp]
theorem control_timer (s : Ieee80211) : s.control.timer = s.timer :=
  rfl

@[simp]
theorem control_connectCancelled (s : Ieee80211) :
    s.control.connectCancelled = s.connectCancelled :=
  rfl

@[simp]
theorem control_scanReturnState (s : Ieee80211) : s.control.scanReturnState = s.scanReturnState :=
  rfl

@[simp]
theorem control_connectTC (s : Ieee80211) : s.control.connectTC = s.connectTC :=
  rfl

@[simp]
theorem control_wpa2 (s : Ieee80211) : s.control.wpa2 = s.wpa2 :=
  rfl

@[simp]
theorem control_externalSupplicant (s : Ieee80211) :
    s.control.externalSupplicant = s.externalSupplicant :=
  rfl

/-- Objects with the same control fields agree on what the handlers test. -/
theorem tests_of_control_eq {s t : Ieee80211} (same : s.control = t.control) :
    s.state = t.state ∧ s.connectCancelled = t.connectCancelled ∧ s.wpa2 = t.wpa2 ∧
      s.externalSupplicant = t.externalSupplicant :=
  ⟨congrArg Control.state same, congrArg Control.connectCancelled same,
    congrArg Control.wpa2 same, congrArg Control.externalSupplicant same⟩

@[simp]
theorem control_setState (s : Ieee80211) (next : Rtw88State) :
    (s.setState next).control = s.control.setState next :=
  rfl

@[simp]
theorem control_wakeAtTime (s : Ieee80211) (ms : Nat) :
    (s.wakeAtTime ms).control = s.control.wakeAtTime ms :=
  rfl

@[simp]
theorem control_cancelTimeout (s : Ieee80211) :
    s.cancelTimeout.control = s.control.cancelTimeout :=
  rfl

@[simp]
theorem control_becomeIdle (s : Ieee80211) :
    s.becomeIdle.control = s.control.becomeIdle :=
  rfl

@[simp]
theorem control_withConnectTC (s : Ieee80211) (call : ThreadCall) :
    (s.withConnectTC call).control = s.control.withCall call :=
  rfl

@[simp]
theorem control_leaveDeauthenticated (s : Ieee80211) :
    s.leaveDeauthenticated.control = s.control.becomeIdle :=
  rfl

@[simp]
theorem control_commitConnect (s : Ieee80211) (args : ConnectArgs) :
    (s.commitConnect args).control =
      s.control.commitConnect (s.targetBSS.cipher = cipherCcmp) args.externalSupplicant :=
  rfl

@[simp]
theorem control_recordTx (s : Ieee80211) (skb : TxSkb) :
    (s.recordTx skb).control = s.control :=
  rfl

@[simp]
theorem control_kfreeSkb (s : Ieee80211) (skb : Skb) : (s.kfreeSkb skb).control = s.control :=
  rfl

@[simp]
theorem control_bumpTxSeq (s : Ieee80211) : s.bumpTxSeq.control = s.control :=
  rfl

@[simp]
theorem control_withAssocAID (s : Ieee80211) (aid : Nat) :
    (s.withAssocAID aid).control = s.control :=
  rfl

@[simp]
theorem control_withSta (s : Ieee80211) (sta : Sta) : (s.withSta sta).control = s.control :=
  rfl

@[simp]
theorem control_bumpBaDialog (s : Ieee80211) : s.bumpBaDialog.control = s.control :=
  rfl

@[simp]
theorem control_associateVif (s : Ieee80211) (aid : Nat) :
    (s.associateVif aid).control = s.control :=
  rfl

@[simp]
theorem control_enterHandshake (s : Ieee80211) :
    s.enterHandshake.control = (s.control.setState .handshaking).wakeAtTime 8000 :=
  rfl

@[simp]
theorem control_acceptM1 (s : Ieee80211) (data random : Bytes) :
    (s.acceptM1 data random).control = s.control :=
  rfl

@[simp]
theorem control_acceptM3 (s : Ieee80211) (data : Bytes) :
    (s.acceptM3 data).control = s.control :=
  rfl

@[simp]
theorem control_countRx (s : Ieee80211) (skb : Skb) : (s.countRx skb).control = s.control :=
  rfl

@[simp]
theorem control_logCcmpIvSkip (s : Ieee80211) : s.logCcmpIvSkip.control = s.control :=
  rfl

@[simp]
theorem control_rxReorderArmTimer (s : Ieee80211) : s.rxReorderArmTimer.control = s.control :=
  rfl

@[simp]
theorem control_cancelReorderTimer (s : Ieee80211) :
    s.cancelReorderTimer.control = s.control :=
  rfl

@[simp]
theorem control_noteDeauth (s : Ieee80211) (frame : Bytes) :
    (s.noteDeauth frame).control = s.control :=
  rfl

@[simp]
theorem control_leaveRxBa (s : Ieee80211) (outcome : RxBaOutcome Skb) :
    (s.leaveRxBa outcome).control = s.control :=
  rfl

@[simp]
theorem control_clearVifAssoc (s : Ieee80211) : s.clearVifAssoc.control = s.control :=
  rfl

@[simp]
theorem control_setConnectedChandef (s : Ieee80211) (chan : Channel) :
    (s.setConnectedChandef chan).control = s.control :=
  rfl

@[simp]
theorem control_abortManualScan (s : Ieee80211) : s.abortManualScan.control = s.control :=
  rfl

end Ieee80211

/-- The frames of a connection attempt. -/
def Call.connects : Call → Bool
  | .tx .authenticate _ => true
  | .tx .associate _ => true
  | _ => false

/-- A step that hands a frame of a connection attempt to the driver. -/
def stopConnects : Stop Call IOReturn → Bool
  | .waits call => call.connects
  | .returns _ => false

/-- The requests that tell nothing about the progress of a command. -/
structure Call.Quiet (call : Call) : Prop where
  waits : call ≠ .cancelWait
  waitsScan : call ≠ .cancelWaitManualScan
  announces : call ≠ .setLinkStatus false
  sends : call.connects = false

/-- The requests of `clearKeys`. -/
def Call.ClearsKey (call : Call) : Prop :=
  ∃ install pairwise key, call = .setKey .clearKeys install pairwise key

/-- The requests of `installKey`. -/
def Call.InstallsKey (call : Call) : Prop :=
  ∃ install pairwise key, call = .setKey .installKey install pairwise key

/-- The frames that one function hands to `ops->tx`. -/
def Call.Sends (site : TxSite) (call : Call) : Prop :=
  ∃ skb, call = .tx site skb

/-- The program leaves the control fields alone and makes only requests of a
class, whatever other threads do. -/
def Inert {α : Type} (calls : Call → Prop) (program : M α) : Prop :=
  ∀ ready now,
    program.Guarantees ready (fun before after => after.control = before.control)
      (fun call _ => calls call) now fun _ _ => True

/-- The rule for inert parts of a program: `reached` relates what a block resumed
from and the state it began in to its present control fields. -/
theorem Inert.conforms {α : Type} {calls : Call → Prop} {program : M α}
    {ready : Call → Ieee80211 → Prop}
    {step : Option (Call × Answer) → Ieee80211 → Call → Ieee80211 → Prop}
    {post : Option (Call × Answer) → Ieee80211 → α → Ieee80211 → Prop}
    {resumed : Option (Call × Answer)} {start now : Ieee80211}
    (inert : Inert calls program)
    (reached : Option (Call × Answer) → Ieee80211 → Control → Prop)
    (initially : reached resumed start now.control)
    (resumes : ∀ call answer later, calls call → ready call later →
      reached (some (call, answer)) later later.control)
    (blocks : ∀ resumed start call now, reached resumed start now.control → calls call →
      step resumed start call now)
    (ends : ∀ resumed start value now, reached resumed start now.control →
      post resumed start value now) :
    program.Conforms ready step resumed start now post :=
  (inert ready now).conforms (fun resumed start now => reached resumed start now.control)
    initially (fun _ _ _ _ held same => by rw [same]; exact held)
    (fun call answer _ later => resumes call answer later) blocks
    (fun _ _ _ _ held _ => ends _ _ _ _ held)

namespace M

open Ieee80211

section Inert

attribute [local simp] perform succeeds submit recordTx Ieee80211.control

theorem clearKeys_inert : Inert Call.ClearsKey clearKeys := by
  intro ready now
  simp [clearKeys, disableKey, wipeKeys, Call.ClearsKey]

theorem releaseSta_inert : Inert (· = .staRemove) releaseSta := by
  intro ready now
  simp [releaseSta, forgetSta, rxBaTeardownAll]

theorem installKey_inert (pairwise : Bool) (keyidx : UInt8) (cipher : Nat)
    (tk : Ieee80211 → Bytes) (tkLen : Nat) :
    Inert Call.InstallsKey (installKey pairwise keyidx cipher tk tkLen) := by
  intro ready now
  simp [installKey, setKeySlot, resetTxPn, Call.InstallsKey]

theorem txMgmtFrame_inert (site : TxSite) (frame : Bytes) :
    Inert (Call.Sends site) (txMgmtFrame site frame) := by
  intro ready now
  simp [txMgmtFrame, Call.Sends]

theorem startTxAggregation_inert : Inert (Call.Sends .blockAck) startTxAggregation := by
  intro ready now
  simp [startTxAggregation, sendAddbaRequest, txMgmtFrame, bumpTxSeq, bumpBaDialog,
    Call.Sends]

theorem sendEAPOLKey_inert (step : Nat) (replayCounter : Bytes) (install ack mic : Bool) :
    Inert (Call.Sends .data) (sendEAPOLKey step replayCounter install ack mic) := by
  intro ready now
  simp [sendEAPOLKey, txDataFrame, allocSkb, takeSkb, dropSkb, handSkb, dropMbuf, copies, bumpTxPn,
    bumpDataSeq, mbufFreem, Call.Sends]

theorem eapolMicOk_inert (kck eapol : Bytes) :
    Inert (fun _ => False) (eapolMicOk kck eapol) := by
  intro ready now
  simp [eapolMicOk]

end Inert

end M

end AirportRtw88
