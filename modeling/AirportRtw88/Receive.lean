import AirportRtw88.Connect

/-!
# Reception

`rxFrame` and what it calls: the delivery of data frames as Ethernet frames,
directly or through the reorder buffers, and the handlers of management
frames.
-/

namespace AirportRtw88

open Interleave Bytes

/-! ## Ethernet frames inside a data frame -/

/-- The arguments of `deliverEthernet`. -/
structure Msdu where
  da : Bytes
  sa : Bytes
  ethertype : Nat
  payload : Bytes
  deriving DecidableEq

/-- The Ethernet frame that `deliverEthernet` builds. -/
def Msdu.frame (msdu : Msdu) : Bytes :=
  msdu.da ++ msdu.sa ++ be16 msdu.ethertype ++ msdu.payload

namespace Bytes

/-- The A-MSDU bit of the QoS control field. -/
def isAmsdu (frame : Bytes) : Bool :=
  frame.isDataQos ∧ frame.byte (frame.hdrLen - 2) &&& 0x80 ≠ 0

/-- Where the subframes of an A-MSDU start. -/
def amsduOffset (frame : Bytes) : Nat :=
  frame.hdrLen + (if frame.hasProtected then 8 else 0)

/-- A single MSDU still carries its CCMP header. -/
def carriesCcmpIv (frame : Bytes) : Bool :=
  ¬ isSnap (frame.drop frame.hdrLen) ∧ frame.hasProtected ∧
    frame.hdrLen + 16 ≤ frame.length ∧ isSnap (frame.drop (frame.hdrLen + 8))

/-- Where the LLC bytes of a single MSDU start. -/
def payloadOffset (frame : Bytes) : Nat :=
  frame.hdrLen + (if frame.carriesCcmpIv then 8 else 0)

/-- The LLC bytes of a single MSDU. -/
def llc (frame : Bytes) : Bytes :=
  frame.drop frame.payloadOffset

/-- The EtherType of LLC bytes, zero without a SNAP header. -/
def llcEthertype (llc : Bytes) : Nat :=
  if llc.isSnap then llc.be16At 6 else 0

end Bytes

/-- The Ethernet frame of a single MSDU. -/
def singleMsdu (frame : Bytes) : Msdu where
  da := frame.addr1
  sa := frame.addr3
  ethertype := frame.llc.llcEthertype
  payload := frame.llc.drop 8

/-- The subframe walk of `deAmsdu`, over what is left of the buffer. -/
def amsduMsdus : Nat → Bytes → List Msdu
  | 0, _ => []
  | fuel + 1, rest =>
      if rest.length < 14 then []
      else
        let sublen := rest.be16At 12
        if sublen < 8 ∨ 14 + sublen > rest.length then []
        else
          let msdu : Bytes := rest.drop 14
          let later := amsduMsdus fuel (rest.drop ((14 + sublen + 3) / 4 * 4))
          if msdu.isSnap then
            ⟨rest.take 6, rest.slice 6 6, msdu.be16At 6, msdu.slice 8 (sublen - 8)⟩ :: later
          else later

/-- The Ethernet frames that `deliverDataFrame` finds in a frame. -/
def carriedMsdus (frame : Bytes) : List Msdu :=
  if frame.length < frame.hdrLen then []
  else if frame.isAmsdu then
    if frame.length < frame.amsduOffset then []
    else amsduMsdus (frame.length + 1) (frame.drop frame.amsduOffset)
  else if frame.length < frame.hdrLen + 8 then []
  else [singleMsdu frame]

namespace Ieee80211

/-- Frames from the distribution system are taken in this state. -/
def receivesData (s : Ieee80211) : Bool :=
  s.connectedOrScanning ∨ s.state = .handshaking

/-- The address filter of `processRxData`. -/
def fromOurAp (s : Ieee80211) (frame : Bytes) : Bool :=
  frame.frameControl &&& fctlFromDS ≠ 0 ∧
    (frame.addr1 = s.macAddr ∨ isMulticastEtherAddr frame.addr1) ∧
    frame.addr2 = s.targetBSS.bssid

/-- The reorder buffer that takes a frame: that of its TID, if it is active. -/
def reorderTid (s : Ieee80211) (frame : Bytes) : Option (Fin kRxBaNumTid) :=
  if inside : frame.isDataQos ∧ frame.hdrLen ≤ frame.length ∧
      (frame.byte (frame.hdrLen - 2) &&& 0x0f).toNat < kRxBaNumTid then
    let tid : Fin kRxBaNumTid := ⟨_, inside.2.2⟩
    if (s.rxBa tid).any RxReorder.active then some tid else none
  else none

/-- Whether a frame is a message of the handshake in progress. -/
def takesEapol (s : Ieee80211) (ethertype : Nat) : Bool :=
  ethertype = ethPPae ∧ s.state = .handshaking ∧ ¬ s.externalSupplicant

/-- A deauthentication or disassociation that `processRxMgmt` obeys. -/
def obeysDeauth (s : Ieee80211) (frame : Bytes) : Bool :=
  (frame.addr3 = s.targetBSS.bssid ∨ frame.addr2 = s.targetBSS.bssid) ∧
    (frame.addr1 = s.macAddr ∨ frame.addr1 = broadcastAddr)

/-- What `rxFrame` records about a frame. -/
def countRx (s : Ieee80211) (skb : Skb) : Ieee80211 :=
  { s with rssi := skb.signal, rxFrameCount := (s.rxFrameCount + 1) % 4294967296 }

def logCcmpIvSkip (s : Ieee80211) : Ieee80211 :=
  { s with rxCcmpIvSkipLogged := true }

def rxReorderArmTimer (s : Ieee80211) : Ieee80211 :=
  { s with reorderTimer := true }

/-- The reason code of a deauthentication or disassociation. -/
def noteDeauth (s : Ieee80211) (frame : Bytes) : Ieee80211 :=
  { s with deauthReason := if 26 ≤ frame.length then frame.le16At 24 else 0 }

/-- What a deauthentication resets once the keys are cleared. -/
def leaveDeauthenticated (s : Ieee80211) : Ieee80211 :=
  { s with txBaActive := false }.rxBaTeardownAll.becomeIdle

/-- The channel that is reported with an action frame. -/
def actionChannel (s : Ieee80211) (skb : Skb) : Nat :=
  if s.hw.any fun hw => (hw.bands[skb.band]?.join).isSome then
    match s.hw.bind fun hw => hw.chandef.chan with
    | some chan => chan.hwValue
    | none => s.awdlChannel
  else 0

end Ieee80211

namespace M

/-- Copy a frame into a packet of the parent, or free the packet. -/
def fillInputPacket (frame payload : Bytes) : M Bool := do
  let answer ← Prog.await (.allocateInputPacket frame.length)
  if answer.code ≠ 0 then
    return false
  else if !(← succeeds) then
    dropMbuf ⟨0, frame⟩
  else if !(← copies payload) then
    dropMbuf ⟨0, frame⟩
  else
    return true

def deliverEthernet (skb : Skb) (msdu : Msdu) : M Unit := do
  let s ← Prog.fetch
  Prog.when s.parent do
    let filled ← fillInputPacket msdu.frame msdu.payload
    Prog.when filled (perform (.injectRxFrame skb msdu.frame))

/-- Deliver a single MSDU, or hand it to the handshake. -/
def deliverMsdu (skb : Skb) : M Unit := do
  Prog.when skb.data.carriesCcmpIv
    (Prog.update Ieee80211.logCcmpIvSkip)
  let s ← Prog.fetch
  if s.takesEapol skb.data.llc.llcEthertype then
    handleEAPOL (skb.data.llc.drop 8)
  else
    deliverEthernet skb (singleMsdu skb.data)

def deliverDataFrame (skb : Skb) : M Unit := do
  perform (.deliver skb)
  if skb.data.isAmsdu then
    Prog.forEach (carriedMsdus skb.data) (deliverEthernet skb)
  else
    Prog.when (carriedMsdus skb.data ≠ []) (deliverMsdu skb)
  Prog.update fun s => s.kfreeSkb skb

/-! ## The reorder buffers -/

/-- Deliver what a critical section released, and arm the timer if it has to be. -/
def deliverReleased (outcome : RxBaOutcome Skb) : M Unit := do
  Prog.forEach outcome.out deliverDataFrame
  Prog.when outcome.again (Prog.update Ieee80211.rxReorderArmTimer)

def rxReorderInput (tid : Fin kRxBaNumTid) (skb : Skb) (sn : Nat) : M Unit := do
  let s ← Prog.fetch
  let outcome := AirportRtw88.rxReorderInput s.rxBa tid skb sn
  Prog.update fun s => s.leaveRxBa outcome
  deliverReleased outcome

def rxReorderFlushStale : M Unit := do
  let s ← Prog.fetch
  let outcome := AirportRtw88.rxReorderFlushStale s.rxBa
  Prog.update fun s => s.leaveRxBa outcome
  deliverReleased outcome

def processRxData (skb : Skb) : M Unit := do
  let s ← Prog.fetch
  if !s.receivesData || !(s.fromOurAp skb.data) then
    Prog.update fun s => s.kfreeSkb skb
  else
    match s.reorderTid skb.data with
    | some tid => rxReorderInput tid skb (skb.data.seqCtrl / 16)
    | none => deliverDataFrame skb

/-! ## Management frames -/

/-- The case of an authentication response. -/
def processRxAuth (skb : Skb) : M Unit := do
  let s ← Prog.fetch
  Prog.when (s.state = .authenticating) do
    let cancelled ← authenticationCancelled .authResponse
    let s ← Prog.fetch
    Prog.when (!cancelled) do
      Prog.whenSome (rtw88AuthResponse skb.data s.macAddr s.targetBSS.bssid) fun status =>
        if status = 0 then doAssociate
        else Prog.update fun s => s.cancelTimeout.setState .idle
  Prog.update fun s => s.kfreeSkb skb

/-- The case of an association or reassociation response. -/
def processRxAssoc (skb : Skb) : M Unit := do
  let s ← Prog.fetch
  if s.state = .associating then processAssocResponse skb
  else Prog.update fun s => s.kfreeSkb skb

/-- The case of a deauthentication or disassociation. -/
def processRxDeauth (skb : Skb) : M Unit := do
  let s ← Prog.fetch
  Prog.when (s.receivesData && s.obeysDeauth skb.data) do
    Prog.update fun s => s.noteDeauth skb.data
    clearKeys
    Prog.update Ieee80211.leaveDeauthenticated
    let s ← Prog.fetch
    Prog.when s.parent (perform (.setLinkStatus false))
  Prog.update fun s => s.kfreeSkb skb

/-- The BlockAck action frames; `b` starts at the category. -/
def handleBackAction (b : Bytes) : M Unit := do
  if b.byte 1 = 0 then
    Prog.when (9 ≤ b.length) do
      let reqParam := b.le16At 3
      let tid := reqParam / 4 % 16
      let allocated ← succeeds
      Prog.update fun s =>
        s.leaveRxBa (rxBaSetup s.rxBa tid (b.le16At 7 / 16) (reqParam / 64) allocated)
      sendAddbaResponse tid (b.byte 2).toNat reqParam (b.le16At 5)
  else if b.byte 1 = 1 then
    Prog.when (9 ≤ b.length) do
      Prog.update fun s =>
        { s with
          txBaActive := s.txBaActive ∨ (b.le16At 3 = 0 ∧ b.le16At 5 / 4 % 16 = s.baTid) }
  else
    Prog.when (b.byte 1 = 2 ∧ 6 ≤ b.length) do
      let delParam := b.le16At 2
      if delParam / 2048 % 2 = 0 then
        Prog.update fun s =>
          { s with txBaActive := s.txBaActive ∧ delParam / 4096 ≠ s.baTid }
      else
        Prog.update fun s => s.rxBaTeardown (delParam / 4096)

/-- The case of an action frame. -/
def processRxAction (skb : Skb) : M Unit := do
  let s ← Prog.fetch
  Prog.when s.parent (perform (.injectRxActionFrame skb.data (s.actionChannel skb)))
  let s ← Prog.fetch
  let b : Bytes := skb.data.drop 24
  Prog.when (s.state = .connected ∧ 2 ≤ b.length ∧ b.byte 0 = 3 ∧
    skb.data.addr3 = s.targetBSS.bssid) (handleBackAction b)
  Prog.update fun s => s.kfreeSkb skb

def processRxMgmt (skb : Skb) : M Unit := do
  let s ← Prog.fetch
  let stype := skb.data.frameControl &&& 0x00f0
  if stype = 0x0080 ∨ stype = 0x0050 then
    if s.state = .scanning then processScanResult skb
    else Prog.update fun s => s.kfreeSkb skb
  else if stype = 0x00B0 then processRxAuth skb
  else if stype = 0x0010 ∨ stype = 0x0030 then processRxAssoc skb
  else if stype = 0x00A0 ∨ stype = 0x00C0 then processRxDeauth skb
  else if stype = 0x00D0 then processRxAction skb
  else Prog.update fun s => s.kfreeSkb skb

/-! ## AWDL and the entry point -/

/-- The LLC/SNAP bytes of an AWDL data frame up to its AWDL data header. -/
def awdlMagic : Bytes := [0xaa, 0xaa, 0x03, 0x00, 0x17, 0xf2, 0x08, 0x00, 0x03, 0x04]

/-- The frames that `tryDeliverAWDLDataFrame` consumes. -/
def isAwdlData (frame : Bytes) : Bool :=
  40 ≤ frame.length ∧ frame.frameControl &&& (fctlToDS ||| fctlFromDS) = 0 ∧
    frame.addr3 = awdlBssid ∧ frame.hdrLen + 16 ≤ frame.length ∧
    frame.slice frame.hdrLen 10 = awdlMagic

def deliverAWDLEthernet (msdu : Msdu) : M Unit := do
  let s ← Prog.fetch
  Prog.when s.parent do
    let filled ← fillInputPacket msdu.frame msdu.payload
    Prog.when filled (perform (.injectRxAWDLFrame msdu.frame))

def tryDeliverAWDLDataFrame (skb : Skb) : M Bool := do
  if isAwdlData skb.data then
    let p : Bytes := skb.data.drop (skb.data.hdrLen + 8)
    deliverAWDLEthernet ⟨skb.data.addr1, skb.data.addr2, p.be16At 6, p.drop 8⟩
    Prog.update fun s => s.kfreeSkb skb
    return true
  else
    return false

def rxFrame (skb : Skb) : M Unit := do
  if skb.data.length < 24 then
    Prog.update fun s => s.kfreeSkb skb
  else
    Prog.update fun s => s.countRx skb
    if skb.data.isMgmt then
      processRxMgmt skb
    else if skb.data.isData then
      let consumed ← tryDeliverAWDLDataFrame skb
      Prog.when (!consumed) (processRxData skb)
    else
      Prog.update fun s => s.kfreeSkb skb

end M

end AirportRtw88
