import AirportRtw88.Receive
import AirportRtw88.Interleave.Pool

/-!
# The driver as a system

The entry points of `RTW88IEEE80211` as the operations of a pool of threads:
the public functions, the callbacks of the driver, and the handlers that the
kernel runs when a timer expires or a thread call is dispatched.
-/

namespace AirportRtw88

open Interleave Bytes

/-- The entry points.  `timerFired` carries the deadline that expired; a ticket tells
apart two calls of the same function. -/
inductive Op : Type where
  | rxFrame (skb : Skb)
  | scanDone (aborted : Bool)
  | timerFired (deadline : Deadline)
  | reorderTimerFired
  | connectCall
  | manualScanCall
  | outputPacket (m : Mbuf)
  | txRawManagementFrame (frame : Bytes)
  | txAWDLDataFrame (m : Mbuf)
  | cmdScan
  | cmdConnect (args : ConnectArgs)
  | cmdDisconnect (ticket : Nat)
  | cmdPowerOn
  | cmdPowerOff (ticket : Nat)
  | cmdInstallExternalKey (pairwise : Bool) (keyidx : UInt8) (cipher : Nat)
      (key : Option Bytes)
  | cmdSetAssocRsnIE (ie : Option Bytes)
  | setReceiveMulticast (active : Bool)
  | setAWDLReceiveMode (active : Bool)
  | setAWDLChannel (channel : Nat)
  | powerOn
  | powerOff
  | stop
  deriving DecidableEq

namespace M

/-- A function without a return value, as an operation. -/
def returning (body : M Unit) : M IOReturn := do
  body
  return .success

/-- A function that returns whether it succeeded, as an operation. -/
def reporting (body : M Bool) : M IOReturn := do
  if ← body then
    return .success
  else
    return .error

/-- The expired deadline is no longer armed when `onTimer` runs. -/
def timerFired : M Unit := do
  Prog.update Ieee80211.cancelTimeout
  onTimer

def reorderTimerFired : M Unit := do
  Prog.update Ieee80211.cancelReorderTimer
  rxReorderFlushStale

/-- `rtw88_call_dispatch` for `_connectTC`. -/
def connectCall : M Unit := do
  let s ← Prog.fetch
  Prog.update fun s => s.withConnectTC s.connectTC.dispatch
  Prog.when (!s.connectTC.canceling) doAuthenticate
  Prog.update fun s => s.withConnectTC s.connectTC.finish

/-- `rtw88_call_dispatch` for `_manualScanTC`. -/
def manualScanCall : M Unit := do
  let s ← Prog.fetch
  Prog.update fun s => s.withManualScanTC s.manualScanTC.dispatch
  Prog.when (!s.manualScanTC.canceling) runManualScan
  Prog.update fun s => s.withManualScanTC s.manualScanTC.finish

end M

/-- The function that runs for each entry point. -/
def Op.program : Op → M IOReturn
  | .rxFrame skb => M.returning (M.rxFrame skb)
  | .scanDone aborted => M.returning (M.scanDone aborted)
  | .timerFired _ => M.returning M.timerFired
  | .reorderTimerFired => M.returning M.reorderTimerFired
  | .connectCall => M.returning M.connectCall
  | .manualScanCall => M.returning M.manualScanCall
  | .outputPacket m => M.outputPacket m
  | .txRawManagementFrame frame => M.reporting (M.txRawManagementFrame frame)
  | .txAWDLDataFrame m => M.reporting (M.txAWDLDataFrame m)
  | .cmdScan => M.cmdScan
  | .cmdConnect args => M.cmdConnect args
  | .cmdDisconnect _ => M.cmdDisconnect
  | .cmdPowerOn => M.cmdPowerOn
  | .cmdPowerOff _ => M.cmdPowerOff
  | .cmdInstallExternalKey pairwise keyidx cipher key =>
      M.cmdInstallExternalKey pairwise keyidx cipher key
  | .cmdSetAssocRsnIE ie => M.cmdSetAssocRsnIE ie
  | .setReceiveMulticast active => M.setReceiveMulticast active
  | .setAWDLReceiveMode active => M.setAWDLReceiveMode active
  | .setAWDLChannel channel => M.setAWDLChannel channel
  | .powerOn => M.powerOn
  | .powerOff => M.returning M.powerOff
  | .stop => M.returning M.stop

/-- A timer fires when it is armed, and a thread call runs when it is pending. -/
def Op.enabled : Op → Ieee80211 → Bool
  | .timerFired deadline, s => s.timer = some deadline
  | .reorderTimerFired, s => s.reorderTimer
  | .connectCall, s => s.connectTC.pending
  | .manualScanCall, s => s.manualScanTC.pending
  | _, _ => true

/-- `thread_call_cancel_wait` returns once the call is drained. -/
def Call.ready : Call → Ieee80211 → Bool
  | .cancelWait, s => s.connectTC.drained
  | .cancelWaitManualScan, s => s.manualScanTC.drained
  | _, _ => true

def rtw88 : System Ieee80211 Call Answer Op IOReturn where
  program := Op.program
  enabled op s := op.enabled s
  ready call s := call.ready s

instance (op : Op) (s : Ieee80211) : Decidable (rtw88.enabled op s) :=
  inferInstanceAs (Decidable (op.enabled s = true))

instance (call : Call) (s : Ieee80211) : Decidable (rtw88.ready call s) :=
  inferInstanceAs (Decidable (call.ready s = true))

/-- A state of the driver with its threads, and what is seen of a step of it. -/
abbrev DriverConfig : Type := Config Ieee80211 Call Answer Op IOReturn
abbrev DriverMove : Type := Move Call Answer Op IOReturn

/-- What `start` finds: the hardware description and address that the driver
registered, and whether a parent and an event delegate are attached. -/
structure Attachment where
  hw : Hw
  macAddr : Bytes
  parent : Bool
  delegate : Bool
  length_macAddr : macAddr.length = 6
  deriving DecidableEq

/-- The object after a successful `start`: the initial values of the class, with
the hardware attached and powered. -/
def Ieee80211.started (attached : Attachment) : Ieee80211 where
  state := .idle
  connectCancelled := true
  deauthReason := 0
  scanReturnState := .idle
  powered := true
  pmkProvided := false
  externalSupplicant := false
  receiveMulticast := true
  awdlReceiveMode := false
  awdlChannel := 0
  macAddr := attached.macAddr
  timeoutMs := 0
  bssList := []
  bssCount := 0
  scanGeneration := 0
  scanRequest := false
  manualScanChannels := []
  manualScanChannelCount := 0
  manualScanAbort := false
  manualScanOnHomeChannel := false
  manualScanFallbackLogged := false
  targetBSS := Bss.empty
  password := zeros 64
  pmk := zeros 32
  ptk := zeros 64
  gtk := zeros 32
  ptkConf := none
  gtkConf := none
  anonce := zeros 32
  snonce := zeros 32
  replayCtr := zeros 8
  ccmpTxPn := zeros 6
  rxCcmpIvSkipLogged := false
  wpa2 := false
  assocRsnIE := []
  txSeq := 0
  dataSeq := 0
  awdlDataSeq := 0
  assocAID := 0
  txBaActive := false
  baTid := 0
  connChanWidth := 20
  baDialog := 0
  baBufSize := 64
  rxBa := fun _ => none
  reorderTimer := false
  rssi := -100
  rxFrameCount := 0
  parent := attached.parent
  delegate := attached.delegate
  rtwdev := true
  hw := some attached.hw
  vif := some ⟨zeros 6, false, 0, false, false, 0⟩
  sta := none
  timer := none
  connectTC := .idle
  manualScanTC := .idle
  phase := 0
  submitted := []
  freedSkbs := []
  freedMbufs := []
  allocatedSkbs := 0
  handedSkbs := []
  droppedSkbs := []

/-- The states in which `start` can leave the object. -/
def Ieee80211.initial (s : Ieee80211) : Prop :=
  ∃ attached : Attachment, attached.hw.ops.start = true ∧ s = .started attached

/-! ## A concrete driver and access point -/

namespace Scenario

def ownAddr : Bytes := [2, 0, 0, 0, 0, 1]
def apAddr : Bytes := [2, 0, 0, 0, 0, 2]

theorem length_ownAddr : ownAddr.length = 6 := rfl
theorem length_apAddr : apAddr.length = 6 := rfl

def channel : Channel where
  band := 0
  centerFreq := 2412
  hwValue := 1
  flags := 0

/-- A driver with one channel and every operation. -/
def attachment : Attachment where
  hw :=
    { ops := ⟨true, true, true, true, true, true, true, true, true, true, true⟩
      bands := [some ⟨0, [channel], HtCap.none, VhtCap.none⟩]
      chandef := ⟨none, .width20NoHt, 0⟩ }
  macAddr := ownAddr
  parent := true
  delegate := true
  length_macAddr := rfl

def start : DriverConfig :=
  ⟨.started attachment, []⟩

/-- A frame of the access point. -/
def fromAp (frameControl : Nat) (receiver body : Bytes) : Skb where
  id := frameControl
  data := le16 frameControl ++ [0, 0] ++ receiver ++ apAddr ++ apAddr ++ [0, 0] ++ body
  signal := -50
  freq := 2412
  band := 0

/-- A beacon of the network "A" with these capabilities and elements. -/
def beacon (capabilities : Nat) (elements : Bytes) : Skb :=
  fromAp 0x0080 broadcastAddr
    (zeros 8 ++ le16 100 ++ le16 capabilities ++ [0, 1, 65] ++ [3, 1, 1] ++ elements)

def authResponse : Skb :=
  fromAp 0x00B0 ownAddr [0, 0, 2, 0, 0, 0]

def assocResponse : Skb :=
  fromAp 0x0010 ownAddr (le16 0x0011 ++ [0, 0] ++ le16 0xC001)

/-- The thread at a position goes on, and what it asked for succeeds. -/
def goOn (position : Nat) : Turn Answer Op :=
  .resume position default []

/-- A scan that finds one beacon. -/
def scan (found : Skb) : List (Turn Answer Op) :=
  [.start .cmdScan [], goOn 0, .start (.rxFrame found) [], .start (.scanDone false) [], goOn 0]

/-- The thread call from its start to its end. -/
def authenticate : List (Turn Answer Op) :=
  .start .connectCall [] :: List.replicate 10 (goOn 0)

/-- The arguments of a connection to the network "A". -/
def toNetwork (pmk : Option Bytes) (externalSupplicant : Bool) : ConnectArgs where
  ssid := some [65]
  password := none
  pmk := pmk
  bssid := none
  externalSupplicant := externalSupplicant

/-- A connection attempt that has sent its authentication frame. -/
def attempt : List (Turn Answer Op) :=
  scan (beacon 1 []) ++ .start (.cmdConnect (toNetwork none false)) [] :: authenticate

/-- The access point accepts an attempt at an open network. -/
def associate : List (Turn Answer Op) :=
  .start (.rxFrame authResponse) [] :: List.replicate 4 (goOn 0) ++
    .start (.rxFrame assocResponse) [] :: List.replicate 4 (goOn 0)

/-- Run the driver from its start. -/
def play (turns : List (Turn Answer Op)) : Option DriverConfig :=
  rtw88.play (fun _ => true) start turns

theorem reachable_of_play {turns : List (Turn Answer Op)} {config : DriverConfig}
    (played : play turns = some config) : rtw88.Reachable Ieee80211.initial config := by
  refine ⟨.started attachment, ⟨attachment, rfl, rfl⟩, ?_⟩
  exact (System.reaches_of_play played).mono fun _ _ _ _ => trivial

end Scenario

end AirportRtw88
