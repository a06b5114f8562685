import AirportRtw88.Transmit

/-!
# Scanning and the radio

The channel definition of a connection, the scan cache, offloaded and manual
scans and their ends, and the AWDL channel.
-/

namespace AirportRtw88

open Interleave Bytes

/-! ## The connected channel -/

/-- What HT and VHT Operation elements say about the width of a BSS. -/
structure OperationInfo where
  sco : UInt8
  htStaWidth : Bool
  vhtWidth : UInt8
  vhtSeg0 : UInt8
  deriving DecidableEq

/-- The element walk of `setConnectedChandef`. -/
def readOperation : Nat → Bytes → OperationInfo → OperationInfo
  | 0, _, info => info
  | fuel + 1, rest, info =>
      if rest.length < 2 then info
      else
        let id := rest.byte 0
        let len := (rest.byte 1).toNat
        if 2 + len > rest.length then info
        else
          let d : Bytes := rest.drop 2
          let info :=
            if id = eidHtOperation ∧ len ≥ 2 then
              { info with sco := d.byte 1 &&& 0x03, htStaWidth := d.byte 1 &&& 0x04 ≠ 0 }
            else if id = eidVhtOperation ∧ len ≥ 3 then
              { info with vhtWidth := d.byte 0, vhtSeg0 := d.byte 1 }
            else info
          readOperation fuel (rest.drop (2 + len)) info

/-- The width and the centre of an operating channel. -/
structure OperatingWidth where
  mhz : Nat
  width : ChanWidth
  centerFreq1 : Int
  deriving DecidableEq

/-- The width that `setConnectedChandef` chooses on a band. -/
def chooseWidth (sb : SupportedBand) (is5g : Bool) (info : OperationInfo)
    (chan : Channel) : OperatingWidth :=
  let chip40 := sb.htCap.cap &&& htCapSupWidth20_40 ≠ 0
  let chip80 := chip40 ∧ is5g ∧ sb.vhtCap.vhtSupported
  if chip80 ∧ info.vhtWidth = 1 ∧ info.vhtSeg0 ≠ 0 then
    ⟨80, .width80, 5000 + 5 * info.vhtSeg0.toNat⟩
  else if chip40 ∧ info.htStaWidth ∧ (info.sco = 1 ∨ info.sco = 3) then
    ⟨40, .width40, chan.centerFreq + (if info.sco = 1 then 10 else -10)⟩
  else ⟨20, .width20NoHt, chan.centerFreq⟩

namespace Ieee80211

/-- The first channel of the band tables that fits, with its band filled in. -/
def findChannel (s : Ieee80211) (fits : Channel → Bool) : Option Channel :=
  s.hw.bind fun hw => hw.bands.findSome? fun supported =>
    supported.bind fun band =>
      (band.channels.find? fits).map fun chan => { chan with band := band.band }

/-- The channel of the target. -/
def targetChannel (s : Ieee80211) : Option Channel :=
  s.findChannel fun chan => chan.hwValue = s.targetBSS.channel

def setConnectedChandef (s : Ieee80211) (chan : Channel) : Ieee80211 :=
  let operating : OperatingWidth :=
    if s.htAllowed then
      match s.targetSupportedBand with
      | some sb =>
          chooseWidth sb (s.targetBSS.channel > 14)
            (readOperation (s.targetBSS.ies.length + 1) s.targetBSS.ies ⟨0, false, 0, 0⟩) chan
      | none => ⟨20, .width20NoHt, chan.centerFreq⟩
    else ⟨20, .width20NoHt, chan.centerFreq⟩
  { s.modifyChandef fun _ => ⟨some chan, operating.width, operating.centerFreq1⟩ with
    connChanWidth := operating.mhz }

/-- Tune to a channel at 20 MHz. -/
def tuneTo (s : Ieee80211) (chan : Channel) : Ieee80211 :=
  s.modifyChandef fun _ => ⟨some chan, .width20NoHt, chan.centerFreq⟩

/-- The channels that `cmdScan` collects: those enabled, at most 256. -/
def enabledChannels (s : Ieee80211) : List Channel :=
  let channels : List Channel := (s.hw.toList.flatMap fun hw => hw.bands).flatMap fun supported =>
    supported.toList.flatMap fun band =>
      (band.channels.filter fun chan => chan.flags &&& chanDisabled = 0).map
        fun chan => { chan with band := band.band }
  channels.take 256

/-- The association state that `restoreConnectedChannel` puts back. -/
def restoreVif (s : Ieee80211) : Ieee80211 :=
  s.modifyVif fun vif =>
    { vif with
      bssid := s.targetBSS.bssid
      assoc := true
      aid := s.assocAID
      cfgAssoc := true
      cfgAid := s.assocAID }

/-! ## The scan cache -/

/-- Whether `scanDone` keeps an entry: the target, or one seen lately. -/
def keepsBss (s : Ieee80211) (bss : Bss) : Bool :=
  let effectiveState := if s.state = .scanning then s.scanReturnState.state else s.state
  let isTarget := (effectiveState = .connected ∨ effectiveState = .handshaking) ∧
    bss.bssid = s.targetBSS.bssid
  let age := (s.scanGeneration + 4294967296 - bss.lastSeenScan) % 4294967296
  isTarget ∨ ¬ age > 3

def pruneBssList (s : Ieee80211) : Ieee80211 :=
  { s with
    bssList := s.bssList.filter s.keepsBss
    bssCount := s.bssCount - (s.bssList.filter fun bss => !(s.keepsBss bss)).length }

/-- A new scan generation; generation 0 is skipped. -/
def nextGeneration (s : Ieee80211) : Ieee80211 :=
  let generation := (s.scanGeneration + 1) % 4294967296
  { s with
    scanGeneration := if generation = 0 then 1 else generation
    bssList :=
      if generation = 0 then s.bssList.map fun bss => { bss with lastSeenScan := 1 }
      else s.bssList }

/-- Replace the entry with the same BSSID, or put a new one first. -/
def addBss (s : Ieee80211) (bss : Bss) : Ieee80211 :=
  let known := s.bssList.findIdx? fun entry => entry.bssid = bss.bssid
  { s with
    bssList := known.elim (bss :: s.bssList) fun index => s.bssList.set index bss
    bssCount := if known.isSome then s.bssCount else s.bssCount + 1 }

/-- `_manualScanAbort = true`. -/
def abortManualScan (s : Ieee80211) : Ieee80211 :=
  { s with manualScanAbort := true }

/-- `_manualScanOnHomeChannel`, which lets data frames pass during a scan. -/
def setOnHomeChannel (s : Ieee80211) (on : Bool) : Ieee80211 :=
  { s with manualScanOnHomeChannel := on }

/-- No manual scan is active any more. -/
def endManualScan (s : Ieee80211) (abort : Bool) : Ieee80211 :=
  { s with manualScanAbort := abort, manualScanChannelCount := 0 }

/-- Leave the scan for the state it returns to. -/
def leaveScan (s : Ieee80211) (returnState : ScanReturn) : Ieee80211 :=
  { s.setState returnState.state with scanReturnState := .idle }

/-- What `scanDone` resets when it leaves the scan. -/
def finishScan (s : Ieee80211) (returnState : ScanReturn) : Ieee80211 :=
  { s.leaveScan returnState with manualScanOnHomeChannel := false }

/-- What `abortActiveScan` resets when the scan did not end by itself. -/
def giveUpScan (s : Ieee80211) (returnState : ScanReturn) : Ieee80211 :=
  { s.finishScan returnState with manualScanChannelCount := 0 }

end Ieee80211

/-- One element in the walk of `processScanResult`. -/
def readBeaconElement (bss : Bss) (id : UInt8) (body : Bytes) : Bss :=
  let len := body.length
  if id = eidSsid ∧ 0 < len ∧ len ≤ 32 then
    { bss with ssid := bss.ssid.overwrite 0 body, ssidLen := len }
  else if id = eidDsParams ∧ len ≥ 1 then
    { bss with channel := (body.byte 0).toNat }
  else if id = eidHtOperation ∧ len ≥ 1 ∧ bss.channel = 0 then
    { bss with channel := (body.byte 0).toNat }
  else if id = eidRsn then
    match rtw88RsnSelectCcmpPsk body with
    | some group => { bss with cipher := cipherCcmp, groupCipher := group, akm := akmPsk }
    | none => bss
  else if id = eidVendorSpecific ∧ len ≥ 8 ∧ body.take 4 = [0x00, 0x50, 0xf2, 0x01] ∧
      bss.cipher = 0 then
    { bss with cipher := cipherTkip, groupCipher := cipherTkip, akm := akmPsk }
  else bss

/-- The element walk of `processScanResult`, with the copy into `ies[512]`. -/
def readBeaconElements : Nat → Bytes → Bss → Bss
  | 0, _, bss => bss
  | fuel + 1, rest, bss =>
      if rest.length < 2 then bss
      else
        let len := (rest.byte 1).toNat
        if 2 + len > rest.length then bss
        else
          let read := readBeaconElement bss (rest.byte 0) (rest.slice 2 len)
          let copied :=
            if read.ies.length + (2 + len) < 512 then
              { read with ies := read.ies ++ rest.take (2 + len) }
            else read
          readBeaconElements fuel (rest.drop (2 + len)) copied

/-- The channel number of a frequency, when no element gave one. -/
def channelOfFreq (channel freq : Nat) : Nat :=
  if channel ≠ 0 then channel
  else if freq = 2484 then 14
  else if 2412 ≤ freq ∧ freq ≤ 2472 then (freq - 2407) / 5
  else if 5000 ≤ freq ∧ freq ≤ 5900 then (freq - 5000) / 5
  else channel

/-- The entry that `processScanResult` makes of a beacon or probe response. -/
def beaconBss (skb : Skb) (generation : Nat) : Bss :=
  let fixed : Bss :=
    { Bss.empty with
      beaconInterval := skb.data.le16At 32
      capabilities := skb.data.le16At 34
      bssid := skb.data.addr3 }
  let read := readBeaconElements (skb.data.length + 1) (skb.data.drop 36) fixed
  { read with
    rssi := skb.signal
    freq := skb.freq
    lastSeenScan := generation
    channel := channelOfFreq read.channel skb.freq }

namespace M

def processScanResult (skb : Skb) : M Unit := do
  Prog.when (24 + 12 ≤ skb.data.length) do
    let allocated ← succeeds
    Prog.when allocated do
      Prog.update fun s => s.addBss (beaconBss skb s.scanGeneration)
  Prog.update fun s => s.kfreeSkb skb

/-! ## Leaving a scan -/

def restoreConnectedChannel : M Unit := do
  let s ← Prog.fetch
  Prog.when (s.scanReturnState = .connected ∧ s.hw.isSome ∧ s.vif.isSome) do
    Prog.whenSome s.targetChannel fun chan =>
      Prog.update fun s => s.setConnectedChandef chan
    perform (.restoreConnectedHw s.targetBSS.bssid)
    Prog.update Ieee80211.restoreVif

/-- Wait up to 40 times 50 ms for the scan to end. -/
def waitForScan : Nat → M Unit
  | 0 => return ()
  | rounds + 1 => do
      let s ← Prog.fetch
      Prog.when (s.state = .scanning) do
        perform (.sleep 50)
        waitForScan rounds

/-- The end of `abortActiveScan`, after its wait. -/
def leaveAbortedScan (returnState : ScanReturn) : M Bool := do
  let s ← Prog.fetch
  if s.state = .scanning then
    if s.manualScanChannelCount ≠ 0 then
      return false
    else
      Prog.when (returnState = .connected) restoreConnectedChannel
      Prog.update fun s => s.giveUpScan returnState
      let s ← Prog.fetch
      return s.state ≠ .scanning
  else
    return true

def abortActiveScan (waitForIdle : Bool) : M Bool := do
  let s ← Prog.fetch
  if s.state ≠ .scanning then
    return true
  else
    let returnState := s.scanReturnState
    if s.manualScanChannelCount ≠ 0 then
      Prog.update Ieee80211.abortManualScan
    else
      Prog.when (s.hasOp Ops.cancelHwScan) (perform .cancelHwScan)
    if !waitForIdle then
      return true
    else
      waitForScan 40
      leaveAbortedScan returnState

def setAWDLChannel (channel : Nat) : M IOReturn := do
  let s ← Prog.fetch
  if !s.powered || s.hw.isNone || channel = 0 then
    return .notReady
  else
    Prog.update fun s => { s with awdlChannel := channel }
    if s.connectedOrScanning ∨ s.state = .authenticating ∨ s.state = .associating ∨
        s.state = .handshaking then
      return .busy
    else
      match s.findChannel fun chan =>
          chan.hwValue = channel ∧ chan.flags &&& chanDisabled = 0 with
      | none => return .unsupported
      | some target =>
          Prog.update fun s => s.tuneTo target
          perform .awdlSwitchChannel
          return .success

/-- The part of `scanDone` that leaves an active scan. -/
def leaveActiveScan : M Unit := do
  let s ← Prog.fetch
  Prog.when (s.state = .scanning) do
    let returnState := s.scanReturnState
    Prog.when (returnState = .connected) restoreConnectedChannel
    Prog.update fun s => s.finishScan returnState
    let s ← Prog.fetch
    Prog.when (returnState = .idle ∧ s.awdlReceiveMode ∧ s.awdlChannel ≠ 0) do
      let _ ← setAWDLChannel s.awdlChannel
      return ()

def scanDone (aborted : Bool) : M Unit := do
  Prog.when (!aborted) (Prog.update Ieee80211.pruneBssList)
  leaveActiveScan
  let s ← Prog.fetch
  Prog.when s.delegate (perform (.scanDoneEvent aborted))

/-! ## Starting a scan -/

/-- `_state = returnState` when `cmdScan` gives up. -/
def refuseScan (returnState : Rtw88State) (reason : IOReturn) : M IOReturn := do
  Prog.update fun s => { s.setState returnState with scanReturnState := .idle }
  return reason

/-- Start the manual scan of `cmdScan` and arm its timeout. -/
def startManualScan (channels : List Channel) : M IOReturn := do
  Prog.update fun s =>
    let timeoutMs := if s.scanReturnState = .connected then 30000 else 12000
    { s with
      manualScanChannelCount := channels.length
      manualScanChannels := channels
      manualScanAbort := false
      manualScanOnHomeChannel := false
      rxFrameCount := 0
      manualScanTC := s.manualScanTC.enter
      timeoutMs := timeoutMs }
  Prog.update fun s => s.wakeAtTime s.timeoutMs
  return .success

/-- The offloaded scan of `cmdScan`. -/
def startHwScan (channels : List Channel) : M IOReturn := do
  Prog.update fun s => { s with rxFrameCount := 0 }
  let answer ← Prog.await (.hwScan channels)
  if answer.code ≠ 0 then
    -- `_manualScanTC` is allocated by `init`, so the fallback is always there.
    startManualScan channels
  else
    Prog.update fun s => { s with timeoutMs := 10000 }
    Prog.update fun s => s.wakeAtTime s.timeoutMs
    return .success

/-- `cmdScan` once its request is allocated. -/
def startScan (returnState : Rtw88State) : M IOReturn := do
  let s ← Prog.fetch
  let channels := s.enabledChannels
  if channels = [] then
    refuseScan returnState .notReady
  else
    let offload ← succeeds
    if !(s.hasOp Ops.hwScan) || !offload then
      Prog.update fun s => { s with manualScanFallbackLogged := true }
      startManualScan channels
    else
      startHwScan channels

def cmdScan : M IOReturn := do
  let s ← Prog.fetch
  if s.state ≠ .idle then
    return .busy
  else if !s.powered || s.hw.isNone then
    return .notReady
  else
    let returnState := s.state
    Prog.update fun s =>
      { s.nextGeneration.setState .scanning with
        scanReturnState := if returnState = .connected then .connected else .idle }
    if s.scanRequest then
      startScan returnState
    else if ← succeeds then
      Prog.update fun s => { s with scanRequest := true }
      startScan returnState
    else
      refuseScan returnState .noMemory

/-! ## The manual scan -/

/-- One channel of the manual scan. -/
def scanChannel (connectedScan : Bool) (chan : Channel) : M Unit := do
  Prog.update fun s => s.setOnHomeChannel false
  Prog.when connectedScan do
    restoreConnectedChannel
    let _ ← txNullFunc true
    perform (.sleep 10)
  Prog.update fun s => s.tuneTo chan
  perform .swScanSwitchChannel
  let passiveOnly : Bool := chan.flags &&& (chanNoIr ||| chanRadar) ≠ 0
  Prog.when (!passiveOnly) do
    let _ ← txProbeRequest
    return ()
  perform (.sleep (if passiveOnly then 140 else 70))
  let s ← Prog.fetch
  Prog.when (connectedScan && !s.manualScanAbort) do
    restoreConnectedChannel
    let _ ← txNullFunc false
    Prog.update fun s => s.setOnHomeChannel true
    perform (.sleep 80)

/-- The loop of `runManualScan`: `remaining` channels, from index `i` on. -/
def scanChannels (connectedScan : Bool) : Nat → Nat → M Unit
  | 0, _ => return ()
  | remaining + 1, i => do
      let s ← Prog.fetch
      Prog.when (!s.manualScanAbort) do
        Prog.whenSome s.manualScanChannels[i]? (scanChannel connectedScan)
        scanChannels connectedScan remaining (i + 1)

def runManualScan : M Unit := do
  let s ← Prog.fetch
  if s.hw.isNone || s.vif.isNone then
    scanDone true
    Prog.update fun s => s.endManualScan s.manualScanAbort
  else
    let connectedScan : Bool := s.scanReturnState = .connected
    perform .swScanStart
    scanChannels connectedScan (min s.manualScanChannelCount 256) 0
    Prog.update fun s => s.setOnHomeChannel false
    perform .swScanComplete
    Prog.when connectedScan do
      restoreConnectedChannel
      let _ ← txNullFunc false
      return ()
    let s ← Prog.fetch
    scanDone s.manualScanAbort
    Prog.update fun s => s.endManualScan false

end M

end AirportRtw88
