import AirportRtw88.BufferOwnership
import AirportRtw88.CheckedData
import AirportRtw88.Interleave.Attempt

/-!
# Reception, with checked accesses

`rxFrame` and what it calls, with every access to a frame, and every write into an array, checked.
The checked functions take the steps of the functions they check, and no access fails, whatever
the frames are and whatever other threads do.
-/

namespace AirportRtw88

open Interleave Bytes

/-- A function whose accesses are checked. -/
abbrev CheckedM : Type → Type :=
  Attempt Ieee80211 Call Answer

namespace Checked

/-! ## The handshake -/

def handleM1 (data : Bytes) : CheckedM Unit := do
  -- The nonce and the replay counter that `acceptM1` copies.
  let _ ← data.copy 17 32
  let _ ← data.copy 9 8
  M.handleM1 data

def handleM3 (data : Bytes) (keyInfo keyDataLen : Nat) : CheckedM Unit := do
  let bodyLen ← data.readBe16 2
  let eapolLen := 4 + bodyLen
  let s ← Attempt.fetch
  let eapol ← eapolMicInput data eapolLen
  let verified ← M.eapolMicOk s.kck eapol
  Attempt.when (verified && decide (99 + keyDataLen ≤ eapolLen)) do
    let gtk ← handshakeGtk s.kek data keyInfo keyDataLen
    -- The replay counter that `acceptM3` copies.
    let _ ← data.copy 9 8
    Attempt.whenSome gtk fun gtk => do
      Attempt.update fun s => s.acceptM3 data
      M.installHandshakeKeys gtk

def handleEAPOL (data : Bytes) (len : Nat) : CheckedM Unit := do
  let isKey ← isEapolKey data len
  Attempt.when isKey do
    let keyInfo ← data.readBe16 5
    let isM1 : Bool := keyInfo &&& 0x0088 = 0x0088 ∧ keyInfo &&& 0x0100 = 0
    let isM3 : Bool := keyInfo &&& 0x01c8 = 0x01c8
    let keyDataLen ← data.readBe16 97
    if isM1 then handleM1 data
    else Attempt.when isM3 (handleM3 data keyInfo keyDataLen)

/-! ## Data frames -/

def deliverMsdu (skb : Skb) (hdrlen : Nat) : CheckedM Unit := do
  let n := skb.data.length
  let carries ← carriesCcmpIv skb.data n hdrlen
  let payloadOff := hdrlen + (if carries then 8 else 0)
  Attempt.when carries (Attempt.update Ieee80211.logCcmpIvSkip)
  let ethertype ← llcEthertype skb.data payloadOff
  let s ← Attempt.fetch
  if s.takesEapol ethertype then
    handleEAPOL (skb.data.drop (payloadOff + 8)) (sub32 n (payloadOff + 8))
  else
    let msdu ← singleMsdu skb.data n payloadOff ethertype
    M.deliverEthernet skb msdu

/-- The subframes of an A-MSDU, from an offset on. -/
def deliverSubframes (skb : Skb) (off : Nat) : CheckedM Unit :=
  Attempt.when (off ≤ skb.data.length) do
    let msdus ← deAmsdu (skb.data.length + 1) (skb.data.drop off) (sub32 skb.data.length off) 0
    Attempt.forEach msdus fun msdu => Attempt.lift (M.deliverEthernet skb msdu)

def deliverAmsdu (skb : Skb) (hdrlen : Nat) : CheckedM Unit := do
  let sealed ← hasProtected skb.data
  deliverSubframes skb (hdrlen + (if sealed then 8 else 0))

/-- What follows a header that is inside the frame. -/
def deliverBody (skb : Skb) (hdrlen : Nat) : CheckedM Unit := do
  let amsdu ← isAmsdu skb.data hdrlen
  if amsdu then deliverAmsdu skb hdrlen
  else Attempt.when (hdrlen + 8 ≤ skb.data.length) (deliverMsdu skb hdrlen)

def deliverDataFrame (skb : Skb) : CheckedM Unit := do
  M.perform (.deliver skb)
  let hdrlen ← hdrLen skb.data
  Attempt.when (hdrlen ≤ skb.data.length) (deliverBody skb hdrlen)
  Attempt.update fun s => s.kfreeSkb skb

def deliverReleased (outcome : RxBaOutcome Skb) : CheckedM Unit := do
  Attempt.forEach outcome.out deliverDataFrame
  Attempt.when outcome.again (Attempt.update Ieee80211.rxReorderArmTimer)

def enterReorder (tid : Fin kRxBaNumTid) (skb : Skb) (sn : Nat) : CheckedM Unit := do
  let s ← Attempt.fetch
  let outcome ← rxReorderInput s.rxBa tid skb sn
  Attempt.update fun s => s.leaveRxBa outcome
  deliverReleased outcome

def flushReorder : CheckedM Unit := do
  let s ← Attempt.fetch
  let outcome ← rxReorderFlushStale s.rxBa
  Attempt.update fun s => s.leaveRxBa outcome
  deliverReleased outcome

def processRxData (skb : Skb) : CheckedM Unit := do
  let s ← Attempt.fetch
  let ours ← fromOurAp s skb.data
  if !s.receivesData || !ours then
    Attempt.update fun s => s.kfreeSkb skb
  else
    let tid ← reorderTid s skb.data skb.data.length
    match tid with
    | some tid => do
        let seqCtrl ← skb.data.readLe16 22
        enterReorder tid skb (seqCtrl / 16)
    | none => deliverDataFrame skb

def tryDeliverAWDLDataFrame (skb : Skb) : CheckedM Bool := do
  let msdu ← awdlMsdu skb.data skb.data.length
  match msdu with
  | some msdu => do
      M.deliverAWDLEthernet msdu
      Attempt.update fun s => s.kfreeSkb skb
      return true
  | none => return false

/-! ## Management frames -/

def processScanResult (skb : Skb) : CheckedM Unit := do
  Attempt.when (24 + 12 ≤ skb.data.length) do
    let allocated ← M.succeeds
    Attempt.when allocated do
      Attempt.change fun s => do
        let bss ← beaconBss skb skb.data.length s.scanGeneration
        return s.addBss bss
  Attempt.update fun s => s.kfreeSkb skb

def processRxAuth (skb : Skb) : CheckedM Unit := do
  let s ← Attempt.fetch
  Attempt.when (s.state = .authenticating) do
    let cancelled ← M.authenticationCancelled .authResponse
    let s ← Attempt.fetch
    Attempt.when (!cancelled) do
      let response ← rtw88AuthResponse skb.data skb.data.length s.macAddr s.targetBSS.bssid
      Attempt.whenSome response fun status => do
        if status = 0 then M.doAssociate
        else Attempt.update fun s => s.cancelTimeout.setState .idle
  Attempt.update fun s => s.kfreeSkb skb

/-- `processAssocResponse` once the response was read. -/
def acceptAssoc (fields : AssocFields) : M Unit := do
  let cancelled ← M.authenticationCancelled .assocResponse
  Prog.when (!cancelled) do
    if fields.status ≠ 0 then
      Prog.update fun s => s.setState .idle
    else
      Prog.update fun s => s.withAssocAID fields.aid
      M.registerSta fields.aid
      M.notifyAssociation fields.aid
      M.publishAssociation

def processAssocResponse (skb : Skb) : CheckedM Unit := do
  let s ← Attempt.fetch
  let response ← rtw88AssocResponse skb.data skb.data.length s.macAddr s.targetBSS.bssid
  Attempt.update fun s => s.kfreeSkb skb
  Attempt.whenSome response fun fields => Attempt.lift (acceptAssoc fields)

def processRxAssoc (skb : Skb) : CheckedM Unit := do
  let s ← Attempt.fetch
  if s.state = .associating then processAssocResponse skb
  else Attempt.update fun s => s.kfreeSkb skb

def processRxDeauth (skb : Skb) : CheckedM Unit := do
  let s ← Attempt.fetch
  let obeys ← obeysDeauth s skb.data
  Attempt.when (s.receivesData && obeys) do
    let reason ← deauthReason skb.data skb.data.length
    Attempt.update fun s => { s with deauthReason := reason }
    M.clearKeys
    Attempt.change fun s => do
      let s ← rxBaTeardownAll { s with txBaActive := false }
      return s.becomeIdle
    let s ← Attempt.fetch
    Attempt.when s.parent (Attempt.lift (M.perform (.setLinkStatus false)))
  Attempt.update fun s => s.kfreeSkb skb

/-- The BlockAck action frames; `b` starts at the category. -/
def handleBackAction (b : Bytes) (blen : Nat) : CheckedM Unit := do
  let action ← b.read 1
  if action = 0 then
    Attempt.when (9 ≤ blen) do
      let dialog ← b.read 2
      let reqParam ← b.readLe16 3
      let baTo ← b.readLe16 5
      let ssc ← b.readLe16 7
      let tid := reqParam / 4 % 16
      let allocated ← M.succeeds
      Attempt.update fun s =>
        s.leaveRxBa (rxBaSetup s.rxBa tid (ssc / 16) (reqParam / 64) allocated)
      M.sendAddbaResponse tid dialog.toNat reqParam baTo
  else if action = 1 then
    Attempt.when (9 ≤ blen) do
      let status ← b.readLe16 3
      let param ← b.readLe16 5
      Attempt.update fun s =>
        { s with txBaActive := s.txBaActive ∨ (status = 0 ∧ param / 4 % 16 = s.baTid) }
  else
    Attempt.when (action = 2 ∧ 6 ≤ blen) do
      let delParam ← b.readLe16 2
      if delParam / 2048 % 2 = 0 then
        Attempt.update fun s =>
          { s with txBaActive := s.txBaActive ∧ delParam / 4096 ≠ s.baTid }
      else
        Attempt.change fun s => rxBaTeardown s (delParam / 4096)

def processRxAction (skb : Skb) : CheckedM Unit := do
  let s ← Attempt.fetch
  Attempt.when s.parent do
    injectRxActionFrame skb.data skb.data.length
    M.perform (.injectRxActionFrame skb.data (s.actionChannel skb))
  let s ← Attempt.fetch
  let back ← isBackAction skb.data skb.data.length s.targetBSS.bssid
  Attempt.when (s.state = .connected && back)
    (handleBackAction (skb.data.drop 24) (sub32 skb.data.length 24))
  Attempt.update fun s => s.kfreeSkb skb

def processRxMgmt (skb : Skb) : CheckedM Unit := do
  let s ← Attempt.fetch
  let fc ← skb.data.readLe16 0
  let stype := fc &&& 0x00f0
  if stype = 0x0080 ∨ stype = 0x0050 then
    if s.state = .scanning then processScanResult skb
    else Attempt.update fun s => s.kfreeSkb skb
  else if stype = 0x00B0 then processRxAuth skb
  else if stype = 0x0010 ∨ stype = 0x0030 then processRxAssoc skb
  else if stype = 0x00A0 ∨ stype = 0x00C0 then processRxDeauth skb
  else if stype = 0x00D0 then processRxAction skb
  else Attempt.update fun s => s.kfreeSkb skb

def rxFrame (skb : Skb) : CheckedM Unit := do
  if skb.data.length < 24 then
    Attempt.update fun s => s.kfreeSkb skb
  else
    let fc ← skb.data.readLe16 0
    Attempt.update fun s => s.countRx skb
    if fc &&& 0x000c = 0 then
      processRxMgmt skb
    else if fc &&& 0x000c = ftypeData then
      let consumed ← tryDeliverAWDLDataFrame skb
      Attempt.when (!consumed) (processRxData skb)
    else
      Attempt.update fun s => s.kfreeSkb skb

def reorderTimerFired : CheckedM Unit := do
  Attempt.update Ieee80211.cancelReorderTimer
  flushReorder

end Checked

/-- The function that runs for each entry point, with the accesses to received frames checked. -/
def Op.checked : Op → CheckedM IOReturn
  | .rxFrame skb => do
      Checked.rxFrame skb
      return .success
  | .reorderTimerFired => do
      Checked.reorderTimerFired
      return .success
  | op => Attempt.lift op.program

end AirportRtw88
