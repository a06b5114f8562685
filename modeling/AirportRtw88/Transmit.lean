import AirportRtw88.Keys

/-!
# Transmission

The functions that build frames and hand them to `ops->tx`: management frames,
BlockAck negotiation, null-function, probe and AWDL frames, and the
encapsulation of Ethernet packets.  A function that builds a frame and submits
it runs without interruption up to the call of the driver.
-/

namespace AirportRtw88

open Interleave Bytes

/-- The increment of the packet number in `txDataFrame`: a byte that wraps to
zero carries into the next. -/
def incrementPn : Bytes → Bytes
  | [] => []
  | byte :: rest =>
      if byte + 1 ≠ 0 then (byte + 1) :: rest else (byte + 1) :: incrementPn rest

/-- The rate sets of `buildAssocReq` and `txProbeRequest`. -/
def rates2g : Bytes := [0x82, 0x84, 0x8b, 0x96, 0x0c, 0x12, 0x18, 0x24]
def rates5g : Bytes := [0x8c, 0x12, 0x98, 0x24, 0x30, 0x48, 0x60, 0x6c]
def extRates2g : Bytes := [0x30, 0x48, 0x60, 0x6c]

/-- The RFC 1042 header of an EtherType. -/
def snapHeader (ethertype : Nat) : Bytes :=
  [0xAA, 0xAA, 0x03, 0x00, 0x00, 0x00] ++ be16 ethertype

/-- The LLC/SNAP and data headers of an AWDL frame. -/
def awdlHeader (seq ethertype : Nat) : Bytes :=
  [0xaa, 0xaa, 0x03, 0x00, 0x17, 0xf2, 0x08, 0x00, 0x03, 0x04] ++ le16 seq ++
    [0, 0] ++ be16 ethertype

/-- The CCMP header of a packet number. -/
def ccmpHeader (pn : Bytes) (keyidx : UInt8) : Bytes :=
  [pn.byte 0, pn.byte 1, 0x00, (0x20 : UInt8) ||| ((keyidx &&& 0x3) <<< 6),
    pn.byte 2, pn.byte 3, pn.byte 4, pn.byte 5]

namespace Ieee80211

/-- The channel in use is a 5 GHz channel. -/
def tunedTo5g (s : Ieee80211) : Bool :=
  s.hw.any fun hw => hw.chandef.chan.any fun chan => chan.band = 1

/-- A management header to the target, with the sequence number in use. -/
def mgmtHeader (s : Ieee80211) (stype : Nat) : Bytes :=
  header3addr stype s.targetBSS.bssid s.macAddr s.targetBSS.bssid (s.txSeq * 16)

theorem length_mgmtHeader {s : Ieee80211} (mac : s.macAddr.length = 6)
    (target : s.targetBSS.bssid.length = 6) (stype : Nat) :
    (s.mgmtHeader stype).length = 24 := by
  simp [mgmtHeader, header3addr, le16, mac, target]

/-- The action of an ADDBA response is 1. -/
theorem action_addbaResponse {header : Bytes} (whole : header.length = 24) (dialog : UInt8)
    (param timeout : Bytes) :
    Bytes.byte (header ++ [3, 1, dialog, 0, 0] ++ param ++ timeout) 25 = 1 := by
  have behind : header.length ≤ 25 := by omega
  rw [List.append_assoc, List.append_assoc, Bytes.byte, List.getD_eq_getElem?_getD,
    List.getElem?_append_right behind, whole]
  rfl

/-- The BlockAck parameter set: immediate policy, the TID and the buffer size. -/
def baParam (s : Ieee80211) (tid : Nat) : Nat :=
  2 ||| ((tid &&& 0xf) <<< 2) ||| ((s.baBufSize &&& 0x3ff) <<< 6)

/-- `++_baDialog`, skipping zero. -/
def bumpBaDialog (s : Ieee80211) : Ieee80211 :=
  { s with baDialog := if (s.baDialog + 1) % 256 = 0 then 1 else (s.baDialog + 1) % 256 }

/-- Whether `txDataFrame` protects a frame of this EtherType. -/
def protects (s : Ieee80211) (ethertype : Nat) : Bool :=
  s.wpa2 && s.ptkConf.isSome && ethertype ≠ ethPPae

/-- Advance the sequence counter that `txDataFrame` uses. -/
def bumpDataSeq (s : Ieee80211) : Ieee80211 :=
  { s with
    dataSeq := if s.htAllowed then (s.dataSeq + 1) % 65536 else s.dataSeq
    txSeq := if s.htAllowed then s.txSeq else (s.txSeq + 1) % 65536 }

/-- Advance the packet number if the frame is protected. -/
def bumpTxPn (s : Ieee80211) (ethertype : Nat) : Ieee80211 :=
  { s with
    ccmpTxPn := if s.protects ethertype then incrementPn s.ccmpTxPn else s.ccmpTxPn }

/-- The frame `txDataFrame` builds from an Ethernet header and payload; the
packet number has been advanced, the sequence number has not. -/
def encapsulate (s : Ieee80211) (eh payload : Bytes) : TxSkb :=
  let ethertype := eh.be16At 12
  let qos := s.htAllowed
  let isProtected := s.protects ethertype
  let fc := ftypeData ||| fctlToDS ||| (if qos then stypeQosData else 0) |||
    (if isProtected then fctlProtected else 0)
  let seq := if qos then s.dataSeq else s.txSeq
  { data :=
      header3addr fc s.targetBSS.bssid s.macAddr (eh.take 6) (seq % 4096 * 16) ++
        (if qos then [UInt8.ofNat (s.baTid &&& 0xf), 0] else []) ++
        (if isProtected then
          ccmpHeader s.ccmpTxPn ((s.ptkConf.map KeyConf.keyidx).getD 0) else []) ++
        snapHeader ethertype ++ payload
    protocol := ethertype
    queueMapping := acBe
    flags := txCtlFirstFragment ||| (if qos && s.txBaActive then txCtlAmpdu else 0)
    band := s.targetBand
    hasSta := true
    hwKey := if isProtected then s.ptkConf else none }

/-- The gate of `outputPacket`. -/
def outputGate (s : Ieee80211) : Bool :=
  ((s.state = .connected) ∨
    (s.state = .scanning ∧ s.scanReturnState = .connected ∧
      (s.manualScanChannelCount = 0 ∨ s.manualScanOnHomeChannel))) ∧
    s.rtwdev ∧ s.hw.isSome ∧ s.vif.isSome ∧ s.sta.isSome

end Ieee80211

namespace M

/-- Free a packet and report failure. -/
def dropMbuf (m : Mbuf) : M Bool := do
  Prog.update fun s => s.mbufFreem m
  return false

/-- Copy the payload of a packet, if it has one. -/
def copies (payload : Bytes) : M Bool :=
  if payload = [] then return true else succeeds

/-- `alloc_skb`, with the number of the buffer. -/
def allocSkb : M (Option Nat) := do
  let s ← Prog.fetch
  if ← succeeds then
    Prog.update Ieee80211.takeSkb
    return some s.allocatedSkbs
  else
    return none

def txMgmtFrame (site : TxSite) (frame : Bytes) : M Bool := do
  let s ← Prog.fetch
  if !(s.hasOp Ops.tx) then
    return false
  else if !(← succeeds) then
    return false
  else
    submit site
      { data := frame, protocol := 0, queueMapping := 0,
        flags := txCtlFirstFragment ||| txCtlNoAck, band := 0, hasSta := false,
        hwKey := none }
    return true

def txRawManagementFrame (frame : Bytes) : M Bool := do
  if frame.length < 24 ∨ frame.length > 4096 then
    return false
  else if frame.frameControl &&& 0x000c ≠ 0 then
    return false
  else
    txMgmtFrame .raw frame

def sendAddbaRequest (tid : Nat) : M Unit := do
  let s ← Prog.fetch
  Prog.update Ieee80211.bumpTxSeq
  Prog.update Ieee80211.bumpBaDialog
  let numbered ← Prog.fetch
  let _ ← txMgmtFrame .blockAck
    (s.mgmtHeader stypeAction ++ [3, 0, UInt8.ofNat numbered.baDialog] ++
      le16 (s.baParam tid) ++ [0, 0] ++ le16 (s.dataSeq % 4096 * 16))
  return ()

def sendAddbaResponse (tid dialog reqParam baTimeout : Nat) : M Unit := do
  let s ← Prog.fetch
  Prog.update Ieee80211.bumpTxSeq
  let _ ← txMgmtFrame .blockAck
    (s.mgmtHeader stypeAction ++ [3, 1, UInt8.ofNat dialog, 0, 0] ++
      le16 ((reqParam &&& 1) ||| s.baParam tid) ++ le16 baTimeout)
  return ()

def startTxAggregation : M Unit := do
  let s ← Prog.fetch
  Prog.when (!s.txBaActive && s.htAllowed && s.sta.any fun sta => sta.htCap.htSupported)
    (sendAddbaRequest s.baTid)

def txNullFunc (powerSave : Bool) : M Bool := do
  let s ← Prog.fetch
  if !(s.hasOp Ops.tx) || s.vif.isNone || s.sta.isNone then
    return false
  else if !(← succeeds) then
    return false
  else
    let fc := ftypeData ||| stypeNullFunc ||| fctlToDS ||| (if powerSave then fctlPM else 0)
    Prog.update Ieee80211.bumpTxSeq
    submit .nullFunc
      { data := header3addr fc s.targetBSS.bssid s.macAddr s.targetBSS.bssid
          (s.txSeq % 4096 * 16),
        protocol := 0, queueMapping := acBe, flags := txCtlFirstFragment,
        band := s.targetBand, hasSta := true, hwKey := none }
    return true

def txProbeRequest : M Bool := do
  let s ← Prog.fetch
  if !(s.hasOp Ops.tx) then
    return false
  else
    Prog.update Ieee80211.bumpTxSeq
    let rates := if s.tunedTo5g then rates5g else rates2g
    txMgmtFrame .probe
      (header3addr stypeProbeReq broadcastAddr s.macAddr broadcastAddr
          (s.txSeq % 4096 * 16) ++
        [eidSsid, 0] ++ [eidSuppRates, UInt8.ofNat rates.length] ++ rates)

def txAWDLDataFrame (m : Mbuf) : M Bool := do
  let s ← Prog.fetch
  if !(s.hasOp Ops.tx) || s.vif.isNone then
    dropMbuf m
  else if m.data.length < 14 ∨ m.data.length > 4096 then
    dropMbuf m
  else if !(← succeeds) then
    dropMbuf m
  else
    match ← allocSkb with
    | none => dropMbuf m
    | some number =>
        let eh : Bytes := m.data.take 14
        let payload : Bytes := m.data.drop 14
        Prog.update fun s =>
          { s.bumpTxSeq with awdlDataSeq := (s.awdlDataSeq + 1) % 65536 }
        if !(← copies payload) then
          Prog.update fun s => s.dropSkb number
          dropMbuf m
        else
          Prog.update fun s => s.handSkb number
          submit .awdl
            { data := header3addr ftypeData (eh.take 6) (eh.slice 6 6) awdlBssid
                  (s.txSeq % 4096 * 16) ++
                awdlHeader s.awdlDataSeq (eh.be16At 12) ++ payload,
              protocol := eh.be16At 12, queueMapping := acBe, flags := txCtlFirstFragment,
              band := if s.tunedTo5g then 1 else 0, hasSta := false, hwKey := none }
          Prog.update fun s => s.mbufFreem m
          return true

def txDataFrame (m : Mbuf) : M Bool := do
  let s ← Prog.fetch
  if !(s.hasOp Ops.tx) || s.vif.isNone || s.sta.isNone then
    dropMbuf m
  else if m.data.length < 14 ∨ m.data.length > 2048 then
    dropMbuf m
  else if !(← succeeds) then
    dropMbuf m
  else
    match ← allocSkb with
    | none => dropMbuf m
    | some number =>
        let eh : Bytes := m.data.take 14
        let payload : Bytes := m.data.drop 14
        Prog.update fun s => s.bumpTxPn (eh.be16At 12)
        let s ← Prog.fetch
        Prog.update Ieee80211.bumpDataSeq
        if !(← copies payload) then
          Prog.update fun s => s.dropSkb number
          dropMbuf m
        else
          Prog.update fun s => s.handSkb number
          submit .data (s.encapsulate eh payload)
          Prog.update fun s => s.mbufFreem m
          return true

def outputPacket (m : Mbuf) : M IOReturn := do
  let s ← Prog.fetch
  if !s.outputGate then
    Prog.update fun s => s.mbufFreem m
    return .outputDropped
  else if ← txDataFrame m then
    return .success
  else
    return .outputDropped

end M

end AirportRtw88
