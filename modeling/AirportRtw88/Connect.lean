import AirportRtw88.Handshake
import AirportRtw88.Scan

/-!
# Connecting and disconnecting

The commands of the control interface, the thread call that authenticates, the
handlers of authentication and association responses, and the timeout of the
state machine.  Each function is cut where the source tests
`authenticationCancelled()`.
-/

namespace AirportRtw88

open Interleave Bytes

/-- The arguments of `cmdConnect`; strings are without their terminator. -/
structure ConnectArgs where
  ssid : Option Bytes
  password : Option Bytes
  pmk : Option Bytes
  bssid : Option Bytes
  externalSupplicant : Bool
  deriving DecidableEq

/-- The SSID is one that `cmdConnect` accepts. -/
def ConnectArgs.ssidOk (args : ConnectArgs) : Bool :=
  args.ssid.any fun ssid => ssid.cString ≠ [] ∧ ssid.cString.length ≤ 32

/-- `strlcpy` into `_password[64]`. -/
def passwordBuffer (password : Bytes) : Bytes :=
  (zeros 64).overwrite 0 (password.cString.take 63)

/-- The privacy bit of the capability field. -/
def Bss.privacy (bss : Bss) : Bool :=
  bss.capabilities &&& 0x10 ≠ 0

/-- Whether `cmdConnect` takes this entry for its arguments. -/
def Bss.matches (bss : Bss) (args : ConnectArgs) : Bool :=
  args.ssid.any (fun ssid => bss.ssid.cString = ssid.cString) ∧
    args.bssid.all fun bssid => bss.bssid = bssid.take 6

/-- The two security checks of `cmdConnect`. -/
def Bss.unsupported (bss : Bss) (args : ConnectArgs) : Bool :=
  (bss.privacy ∧ (bss.cipher ≠ cipherCcmp ∨ bss.akm ≠ akmPsk)) ∨
    (args.pmk.isSome ∧ ¬ bss.privacy) ∨
    (¬ args.externalSupplicant ∧ args.pmk.isNone ∧ args.password.isNone ∧ bss.privacy)

/-- The HT Capabilities element of an association request. -/
def htCapabilityIe (ht : HtCap) (connChanWidth : Nat) : Bytes :=
  [eidHtCapability, 26] ++
    le16 (if connChanWidth < 40 then HtCap.narrow ht.cap else ht.cap) ++
    [UInt8.ofNat ((ht.ampduFactor &&& 0x3) ||| ((ht.ampduDensity &&& 0x7) <<< 2))] ++
    ht.rxMask.take 10 ++ le16 ht.rxHighest ++ [UInt8.ofNat ht.txParams] ++ zeros 10

/-- The VHT Capabilities element of an association request. -/
def vhtCapabilityIe (vht : VhtCap) : Bytes :=
  [eidVhtCapability, 12] ++ le16 vht.cap ++ le16 (vht.cap / 65536) ++ le16 vht.rxMcsMap ++
    le16 vht.rxHighest ++ le16 vht.txMcsMap ++ le16 vht.txHighest

def wmeInfo : Bytes := [0xdd, 0x07, 0x00, 0x50, 0xf2, 0x02, 0x00, 0x01, 0x00]

/-- A whole RSN element that fits `_assocRsnIE[257]`. -/
def isRsnIe (ie : Bytes) : Bool :=
  2 ≤ ie.length ∧ ie.length ≤ 257 ∧ ie.byte 0 = 48 ∧ (ie.byte 1).toNat + 2 = ie.length

namespace Ieee80211

/-- The entry that `cmdConnect` selects: the first that matches. -/
def selectBss (s : Ieee80211) (args : ConnectArgs) : Option Bss :=
  s.bssList.find? fun bss => bss.matches args

/-- What `cmdConnect` writes once the target is accepted. -/
def commitConnect (s : Ieee80211) (args : ConnectArgs) : Ieee80211 :=
  { s.setState .authenticating with
    externalSupplicant := args.externalSupplicant
    pmkProvided := args.pmk.isSome
    pmk := args.pmk.elim s.pmk fun pmk => s.pmk.overwrite 0 (pmk.take 32)
    password := passwordBuffer (args.password.getD [])
    wpa2 := s.targetBSS.cipher = cipherCcmp
    deauthReason := 0
    connectCancelled := false
    connectTC := s.connectTC.enter }

/-- The frame `buildAuthReq` builds. -/
def authReq (s : Ieee80211) : Bytes :=
  s.mgmtHeader stypeAuth ++ [0, 0, 1, 0, 0, 0]

/-- The frame `buildAssocReq` builds. -/
def assocReq (s : Ieee80211) : Bytes :=
  let is5g : Bool := s.targetBSS.channel > 14
  let cap := 0x0431 ||| (if s.wpa2 then 0x0010 else 0)
  let rates := if is5g then rates5g else rates2g
  let extRates :=
    if is5g then [] else [eidExtSuppRates, UInt8.ofNat extRates2g.length] ++ extRates2g
  let ht := (s.targetSupportedBand.filter fun sb => s.htAllowed ∧ sb.htCap.htSupported).elim []
    fun sb => htCapabilityIe sb.htCap s.connChanWidth
  let vht := (s.targetSupportedBand.filter fun sb =>
    s.htAllowed ∧ is5g ∧ sb.vhtCap.vhtSupported).elim [] fun sb => vhtCapabilityIe sb.vhtCap
  let rsn :=
    if ¬ s.wpa2 then []
    else if s.externalSupplicant ∧ isRsnIe s.assocRsnIE then s.assocRsnIE
    else rtw88BuildSelectedRsnIe s.targetBSS.groupCipher
  s.mgmtHeader stypeAssocReq ++ le16 cap ++ [10, 0] ++
    [eidSsid, UInt8.ofNat s.targetBSS.ssidLen] ++ s.targetBSS.ssid.take s.targetBSS.ssidLen ++
    [eidSuppRates, UInt8.ofNat rates.length] ++ rates ++ extRates ++ ht ++ vht ++ wmeInfo ++ rsn

/-- The peer station that `processAssocResponse` registers. -/
def newSta (s : Ieee80211) (aid : Nat) : Sta :=
  let caps := s.targetSupportedBand.filter fun _ => s.htAllowed
  { addr := s.targetBSS.bssid
    aid := aid
    suppRates2g := 0xFFF
    suppRates5g := 0xFF
    bandwidth := if s.connChanWidth = 80 then 2 else if s.connChanWidth = 40 then 1 else 0
    htCap := caps.elim HtCap.none fun sb =>
      { sb.htCap with
        cap := if s.connChanWidth < 40 then HtCap.narrow sb.htCap.cap else sb.htCap.cap }
    vhtCap := (caps.filter fun _ => s.targetBand = 1).elim VhtCap.none SupportedBand.vhtCap }

/-- The association state given to the driver after a response. -/
def associateVif (s : Ieee80211) (aid : Nat) : Ieee80211 :=
  s.modifyVif fun _ =>
    { bssid := s.targetBSS.bssid, assoc := true, aid := aid, qos := true,
      cfgAssoc := true, cfgAid := aid }

/-- The association state cleared before an authentication frame. -/
def clearVifAssoc (s : Ieee80211) : Ieee80211 :=
  s.modifyVif fun vif =>
    { vif with bssid := s.targetBSS.bssid, assoc := false, aid := 0 }

/-- Enter the handshake: derive the PMK unless it was given, and arm the timer. -/
def enterHandshake (s : Ieee80211) : Ieee80211 :=
  let derived := derivePMK s.password.cString (s.targetBSS.ssid.take s.targetBSS.ssidLen)
  ({ s.setState .handshaking with
    pmk := if s.pmkProvided then s.pmk else derived }).wakeAtTime 8000

def withAssocAID (s : Ieee80211) (aid : Nat) : Ieee80211 :=
  { s with assocAID := aid }

def withSta (s : Ieee80211) (sta : Sta) : Ieee80211 :=
  { s with sta := some sta }

def withPowered (s : Ieee80211) (on : Bool) : Ieee80211 :=
  { s with powered := on }

def forgetVif (s : Ieee80211) : Ieee80211 :=
  { s with vif := none }

def forgetHw (s : Ieee80211) : Ieee80211 :=
  { s with rtwdev := false, hw := none }

def cancelReorderTimer (s : Ieee80211) : Ieee80211 :=
  { s with reorderTimer := false }

/-- `_connectCancelled = true`, and the timer cancelled. -/
def markCancelled (s : Ieee80211) : Ieee80211 :=
  { s.cancelTimeout with connectCancelled := true }

/-- `_state = IDLE; _scanReturnState = IDLE`. -/
def becomeIdle (s : Ieee80211) : Ieee80211 :=
  { s.setState .idle with scanReturnState := .idle }

end Ieee80211

namespace M

/-! ## Disconnecting -/

/-- `doDisconnect` up to the change of state. -/
def tearDownLink : M Unit := do
  clearKeys
  let s ← Prog.fetch
  let _ ← txMgmtFrame .deauth
    (header3addr stypeDeauth s.targetBSS.bssid s.macAddr s.targetBSS.bssid 0 ++ [3, 0])
  Prog.update fun s => s.modifyVif fun vif => { vif with assoc := false }
  let s ← Prog.fetch
  Prog.when (s.hasOp Ops.bssInfoChanged) (perform (.bssInfoChanged false false))
  releaseSta

def doDisconnect : M Unit := do
  let s ← Prog.fetch
  if s.hw.isNone || s.vif.isNone then
    Prog.update Ieee80211.becomeIdle
  else
    tearDownLink
    Prog.update fun s => s.becomeIdle.cancelTimeout
    let s ← Prog.fetch
    Prog.when s.parent (perform (.setLinkStatus false))

/-- `rtw88_thread_call_cancel_wait(_connectTC)`. -/
def drainConnectCall : M Unit := do
  let answer ← Prog.choose
  Prog.update fun s => s.withConnectTC (s.connectTC.cancel (answer.code = 0))
  perform .cancelWait
  Prog.update fun s => s.withConnectTC s.connectTC.resume

def cancelAuthentication : M Unit := do
  Prog.update Ieee80211.markCancelled
  drainConnectCall

def cmdDisconnect : M IOReturn := do
  cancelAuthentication
  let s ← Prog.fetch
  Prog.when (s.state ≠ .idle) doDisconnect
  return .success

/-! ## Power -/

def setReceiveMulticast (active : Bool) : M IOReturn := do
  let s ← Prog.fetch
  if !(s.hasOp Ops.configureFilter) then
    return .notReady
  else
    Prog.update fun s => { s with receiveMulticast := active }
    Prog.when s.powered (perform (.configureFilter 2 (if active then 2 else 0)))
    return .success

def setAWDLReceiveMode (active : Bool) : M IOReturn := do
  let s ← Prog.fetch
  if !(s.hasOp Ops.configureFilter) then
    return .notReady
  else
    Prog.update fun s =>
      { s with
        awdlReceiveMode := active
        awdlChannel := if active then s.awdlChannel else 0 }
    perform (.configureFilter (64 ||| 2)
      (if active then 64 ||| 2 else if s.receiveMulticast then 2 else 0))
    return .success

def powerOn : M IOReturn := do
  let s ← Prog.fetch
  if s.powered then
    return .success
  else if !(s.hasOp Ops.start) then
    return .notReady
  else
    let answer ← Prog.await .start
    if answer.code ≠ 0 then
      return .error
    else
      Prog.update fun s => s.withPowered true
      let s ← Prog.fetch
      setReceiveMulticast s.receiveMulticast

def powerOff : M Unit := do
  let s ← Prog.fetch
  Prog.when s.powered do
    Prog.when (s.hasOp Ops.stop) (perform .stop)
    Prog.update fun s => s.withPowered false

def cmdPowerOn : M IOReturn := do
  let ret ← powerOn
  let s ← Prog.fetch
  Prog.when (ret = .success ∧ s.state = .disconnecting) (Prog.update fun s => s.setState .idle)
  return ret

/-- `cmdPowerOff` once no scan is active. -/
def finishPowerOff : M IOReturn := do
  let s ← Prog.fetch
  if s.state = .connected ∨ s.state = .authenticating ∨ s.state = .associating ∨
      s.state = .handshaking then
    doDisconnect
  else
    clearKeys
    releaseSta
  powerOff
  Prog.update Ieee80211.becomeIdle
  let s ← Prog.fetch
  Prog.when s.parent (perform (.setLinkStatus false))
  return .success

def cmdPowerOff : M IOReturn := do
  cancelAuthentication
  if ← abortActiveScan true then
    finishPowerOff
  else
    return .busy

/-- The part of `stop` that removes the interface and powers down. -/
def removeInterface : M Unit := do
  let s ← Prog.fetch
  Prog.when (s.vif.isSome && s.hasOp Ops.removeInterface) (perform .removeInterface)
  Prog.update Ieee80211.forgetVif
  let s ← Prog.fetch
  Prog.when (s.powered && s.hasOp Ops.stop) (perform .stop)
  Prog.update fun s => s.withPowered false

/-- The last part of `stop`. -/
def removeHardware : M Unit := do
  let s ← Prog.fetch
  Prog.when (s.state = .scanning ∧ s.hasOp Ops.cancelHwScan) (perform .cancelHwScan)
  removeInterface
  perform .pciRemove
  Prog.update fun s => s.becomeIdle.forgetHw

def stop : M Unit := do
  cancelAuthentication
  let answer ← Prog.choose
  Prog.update fun s =>
    s.abortManualScan.withManualScanTC (s.manualScanTC.cancel (answer.code = 0))
  perform .cancelWaitManualScan
  Prog.update fun s => s.withManualScanTC s.manualScanTC.resume
  drainConnectCall
  Prog.update fun s => s.cancelTimeout.cancelReorderTimer
  let s ← Prog.fetch
  if s.connectedOrScanning && s.powered then
    doDisconnect
  else
    clearKeys
    releaseSta
  removeHardware

/-! ## Connecting -/

/-- `cmdConnect` once no scan is active. -/
def connectIdle (args : ConnectArgs) : M IOReturn := do
  let s ← Prog.fetch
  if s.state ≠ .idle then
    return .busy
  else if !args.ssidOk then
    return .badArgument
  else if !s.powered then
    return .notReady
  else
    clearKeys
    releaseSta
    let s ← Prog.fetch
    match s.selectBss args with
    | none => return .notFound
    | some target =>
        Prog.update fun s => { s with targetBSS := target }
        if target.unsupported args then
          return .unsupported
        else
          Prog.update fun s => s.commitConnect args
          return .success

def cmdConnect (args : ConnectArgs) : M IOReturn := do
  if ← abortActiveScan true then
    connectIdle args
  else
    return .busy

/-- `rtw88_is_scanning()`. -/
def driverScanning : M Bool := do
  let answer ← Prog.choose
  return answer.code ≠ 0

/-- The bounded wait of `doAuthenticate`; whether it was cancelled. -/
def waitForDriver : Nat → M Bool
  | 0 => return false
  | rounds + 1 => do
      if ← authenticationCancelled .authenticateScanWait then
        return true
      else if ← driverScanning then
        perform (.sleep 50)
        waitForDriver rounds
      else
        return false

/-- The end of `doAuthenticate`: transmit and wait for the response. -/
def sendAuthentication (frame : Bytes) : M Unit := do
  let cancelled ← authenticationCancelled .authenticateSend
  Prog.when (!cancelled) do
    let _ ← txMgmtFrame .authenticate frame
    let cancelled ← authenticationCancelled .authenticateSent
    let s ← Prog.fetch
    Prog.when (!cancelled && s.state = .authenticating)
      (Prog.update fun s => s.wakeAtTime 3000)

/-- Program the channel and the BSSID of the target, then authenticate. -/
def setupAuthentication : M Unit := do
  let cancelled ← authenticationCancelled .authenticateSettled
  Prog.when (!cancelled) do
    let s ← Prog.fetch
    Prog.whenSome s.targetChannel fun chan =>
      Prog.update fun s => s.setConnectedChandef chan
    perform (.connectHwSetup s.targetBSS.bssid)
    let cancelled ← authenticationCancelled .authenticateSetup
    Prog.when (!cancelled) do
      Prog.update Ieee80211.clearVifAssoc
      let s ← Prog.fetch
      Prog.update Ieee80211.bumpTxSeq
      sendAuthentication s.authReq

/-- Let the driver leave its scan and the firmware settle. -/
def settleAuthentication : M Unit := do
  let cancelled ← waitForDriver 100
  Prog.when (!cancelled) do
    let cancelled ← authenticationCancelled .authenticateScanDone
    Prog.when (!cancelled) do
      let scanning ← driverScanning
      Prog.when (!scanning) do
        perform (.sleep 500)
        setupAuthentication

def doAuthenticate : M Unit := do
  let cancelled ← authenticationCancelled .authenticateEntry
  let s ← Prog.fetch
  Prog.when (!cancelled && s.powered && s.hw.isSome && s.vif.isSome) settleAuthentication

/-- Transmit an association request and wait for the response. -/
def sendAssociation (frame : Bytes) : M Unit := do
  if ← txMgmtFrame .associate frame then
    let cancelled ← authenticationCancelled .associateSent
    let s ← Prog.fetch
    Prog.when (!cancelled && s.state = .associating)
      (Prog.update fun s => s.wakeAtTime 3000)
  else
    Prog.update fun s => s.setState .idle

def doAssociate : M Unit := do
  let s ← Prog.fetch
  Prog.when (s.hw.isSome && s.vif.isSome) do
    let cancelled ← authenticationCancelled .associate
    Prog.when (!cancelled) do
      let s ← Prog.fetch
      Prog.update fun s => s.bumpTxSeq.setState .associating
      sendAssociation s.assocReq

/-- Allocate and register the peer station. -/
def registerSta (aid : Nat) : M Unit := do
  let s ← Prog.fetch
  Prog.when (s.sta.isNone && s.hasOp Ops.staAdd) do
    let allocated ← succeeds
    Prog.when allocated do
      Prog.update fun s => s.withSta (s.newSta aid)
      perform (.staAdd (s.newSta aid))

/-- Notify the driver of the association. -/
def notifyAssociation (aid : Nat) : M Unit := do
  let s ← Prog.fetch
  Prog.when (s.hasOp Ops.bssInfoChanged) do
    Prog.update fun s => s.associateVif aid
    perform (.bssInfoChanged true true)

/-- Choose the state that follows an association. -/
def publishAssociation : M Unit := do
  let s ← Prog.fetch
  if s.wpa2 && !s.externalSupplicant then
    Prog.update Ieee80211.enterHandshake
  else
    Prog.update fun s => s.setState .connected
    Prog.when s.parent (perform (.setLinkStatus true))
    let s ← Prog.fetch
    Prog.when (!s.wpa2) startTxAggregation
    Prog.update Ieee80211.cancelTimeout

def processAssocResponse (skb : Skb) : M Unit := do
  let s ← Prog.fetch
  Prog.update fun s => s.kfreeSkb skb
  Prog.whenSome (rtw88AssocResponse skb.data s.macAddr s.targetBSS.bssid) fun fields => do
    let cancelled ← authenticationCancelled .assocResponse
    Prog.when (!cancelled) do
      if fields.status ≠ 0 then
        Prog.update fun s => s.setState .idle
      else
        Prog.update fun s => s.withAssocAID fields.aid
        registerSta fields.aid
        notifyAssociation fields.aid
        publishAssociation

/-! ## The external supplicant -/

def cmdSetAssocRsnIE (ie : Option Bytes) : M IOReturn :=
  match ie.filter isRsnIe with
  | none => return .badArgument
  | some ie => do
      Prog.update fun s => { s with assocRsnIE := ie }
      return .success

def cmdInstallExternalKey (pairwise : Bool) (keyidx : UInt8) (cipher : Nat)
    (key : Option Bytes) : M IOReturn := do
  let s ← Prog.fetch
  if !s.externalSupplicant || !s.wpa2 || decide (s.state ≠ .connected) then
    return .notReady
  else
    match key.filter fun key => key ≠ [] with
    | none => return .badArgument
    | some key =>
        if pairwise && s.sta.isNone then
          return .notReady
        else if ← installKey pairwise keyidx cipher (fun _ => key) key.length then
          return .success
        else
          return .unsupported

/-! ## The timeout of the state machine -/

/-- The scan branch of `onTimer`. -/
def scanTimeout : M Unit := do
  let s ← Prog.fetch
  if s.manualScanChannelCount ≠ 0 then
    Prog.update Ieee80211.abortManualScan
  else
    Prog.when (s.hasOp Ops.cancelHwScan) (perform .cancelHwScan)
    let s ← Prog.fetch
    let returnState := s.scanReturnState
    Prog.when (returnState = .connected) restoreConnectedChannel
    Prog.update fun s => s.leaveScan returnState

def onTimer : M Unit := do
  let s ← Prog.fetch
  match s.state with
  | .scanning => scanTimeout
  | .authenticating =>
      let cancelled ← authenticationCancelled .retry
      Prog.when (!cancelled)
        (Prog.update fun s => s.withConnectTC s.connectTC.enter)
  | .associating => Prog.update fun s => s.setState .idle
  | .handshaking => doDisconnect
  | _ => return ()

end M

end AirportRtw88
