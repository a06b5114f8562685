import AirportRtw88.Bytes

/-!
# 802.11 frames

The fields of a received frame, the classification of frames by their frame
control word, the checks on management responses, and the RSN element.  Frames
are byte strings; a 16-bit field is a natural number.
-/

namespace AirportRtw88

open Bytes

def fctlToDS : Nat := 0x0100
def fctlFromDS : Nat := 0x0200
def fctlPM : Nat := 0x1000
def fctlProtected : Nat := 0x4000
def ftypeData : Nat := 0x0008
def stypeAssocReq : Nat := 0x0000
def stypeProbeReq : Nat := 0x0040
def stypeNullFunc : Nat := 0x0040
def stypeQosData : Nat := 0x0080
def stypeAuth : Nat := 0x00B0
def stypeDeauth : Nat := 0x00C0
def stypeAction : Nat := 0x00D0

/-- `ETH_P_PAE`, the EtherType of EAPOL. -/
def ethPPae : Nat := 0x888E

def cipherTkip : Nat := 0x000FAC02
def cipherCcmp : Nat := 0x000FAC04
def akmPsk : Nat := 0x000FAC02

def eidSsid : UInt8 := 0
def eidSuppRates : UInt8 := 1
def eidDsParams : UInt8 := 3
def eidHtCapability : UInt8 := 45
def eidRsn : UInt8 := 48
def eidExtSuppRates : UInt8 := 50
def eidHtOperation : UInt8 := 61
def eidVhtCapability : UInt8 := 191
def eidVhtOperation : UInt8 := 192
def eidVendorSpecific : UInt8 := 221

def broadcastAddr : Bytes := List.replicate 6 0xff

/-- The BSSID of AWDL frames. -/
def awdlBssid : Bytes := [0x00, 0x25, 0x00, 0xff, 0x94, 0x73]

namespace Bytes

def frameControl (frame : Bytes) : Nat := frame.le16At 0
def addr1 (frame : Bytes) : Bytes := frame.slice 4 6
def addr2 (frame : Bytes) : Bytes := frame.slice 10 6
def addr3 (frame : Bytes) : Bytes := frame.slice 16 6
def seqCtrl (frame : Bytes) : Nat := frame.le16At 22

/-- `ieee80211_has_protected`. -/
def hasProtected (frame : Bytes) : Bool :=
  frame.frameControl &&& fctlProtected ≠ 0

/-- `ieee80211_is_mgmt`. -/
def isMgmt (frame : Bytes) : Bool :=
  frame.frameControl &&& 0x000c = 0

/-- `ieee80211_is_data`. -/
def isData (frame : Bytes) : Bool :=
  frame.frameControl &&& 0x000c = ftypeData

/-- `ieee80211_is_data_qos`. -/
def isDataQos (frame : Bytes) : Bool :=
  frame.frameControl &&& (0x000c ||| 0x0080) = ftypeData ||| 0x0080

/-- `ieee80211_get_hdrlen_from_skb`. -/
def hdrLen (frame : Bytes) : Nat :=
  let fc := frame.frameControl
  let hasA4 := fc &&& (fctlToDS ||| fctlFromDS) = (fctlToDS ||| fctlFromDS)
  let isQos := fc &&& 0x0080 ≠ 0 ∧ fc &&& 0x000c = ftypeData
  24 + (if hasA4 then 6 else 0) + (if isQos then 2 else 0)

/-- Whether LLC bytes start with the SNAP header `AA AA 03`. -/
def isSnap (llc : Bytes) : Bool :=
  llc.byte 0 = 0xAA ∧ llc.byte 1 = 0xAA ∧ llc.byte 2 = 0x03

end Bytes

/-- `is_multicast_ether_addr`; a broadcast address is one of them. -/
def isMulticastEtherAddr (addr : Bytes) : Bool :=
  addr.byte 0 &&& 0x01 ≠ 0

/-- A three-address header. -/
def header3addr (fc : Nat) (addr1 addr2 addr3 : Bytes) (seqCtrl : Nat) : Bytes :=
  le16 fc ++ [0, 0] ++ addr1 ++ addr2 ++ addr3 ++ le16 seqCtrl

/-! ## Management responses -/

/-- `rtw88ResponsePeer`. -/
def rtw88ResponsePeer (f mac bssid : Bytes) : Bool :=
  30 ≤ f.length ∧ f.addr1 = mac ∧ f.addr2 = bssid ∧ f.addr3 = bssid

/-- `rtw88AuthResponse`: the status code of a valid response. -/
def rtw88AuthResponse (f mac bssid : Bytes) : Option Nat :=
  if ¬ rtw88ResponsePeer f mac bssid ∨ f.byte 0 &&& 0xfc ≠ 0xb0 ∨ f.byte 24 ≠ 0 ∨
      f.byte 25 ≠ 0 ∨ f.byte 26 ≠ 2 ∨ f.byte 27 ≠ 0 then none
  else some (f.le16At 28)

/-- The fields that `rtw88AssocResponse` copies. -/
structure AssocFields where
  status : Nat
  aid : Nat
  deriving DecidableEq

/-- `rtw88AssocResponse`: the fields of a valid response. -/
def rtw88AssocResponse (f mac bssid : Bytes) : Option AssocFields :=
  if ¬ rtw88ResponsePeer f mac bssid ∨
      (f.byte 0 &&& 0xfc ≠ 0x10 ∧ f.byte 0 &&& 0xfc ≠ 0x30) then none
  else
    let status := f.le16At 26
    let aid := f.le16At 28 &&& 0x3fff
    if status ≠ 0 ∨ (1 ≤ aid ∧ aid ≤ 2007) then some ⟨status, aid⟩ else none

/-! ## The RSN element -/

/-- `rtw88ReadSuite`. -/
def rtw88ReadSuite (p : Bytes) : Nat :=
  p.be32At 0

/-- `rtw88WriteSuite`. -/
def rtw88WriteSuite (suite : Nat) : Bytes :=
  be32 suite

/-- The first `count` suites of a suite list. -/
def readSuites (count : Nat) (p : Bytes) : List Nat :=
  (List.range count).map fun index => rtw88ReadSuite (p.drop (4 * index))

/-- `rtw88RsnSelectCcmpPsk`: the group cipher of an element that offers CCMP
and PSK. -/
def rtw88RsnSelectCcmpPsk (rsn : Bytes) : Option Nat :=
  if rsn.length < 8 then none
  else if rsn.byte 0 ≠ 1 ∨ rsn.byte 1 ≠ 0 then none
  else
    let group := rtw88ReadSuite (rsn.drop 2)
    let p : Bytes := rsn.drop 6
    if p.length < 2 then none
    else
      let pairwiseCount := p.le16At 0
      let p : Bytes := p.drop 2
      if pairwiseCount > p.length / 4 then none
      else
        let hasCcmp := (readSuites pairwiseCount p).contains cipherCcmp
        let p : Bytes := p.drop (4 * pairwiseCount)
        if p.length < 2 then none
        else
          let akmCount := p.le16At 0
          let p : Bytes := p.drop 2
          if akmCount > p.length / 4 then none
          else
            let hasPsk := (readSuites akmCount p).contains akmPsk
            if ¬ hasCcmp ∨ ¬ hasPsk then none
            else if group ≠ cipherCcmp ∧ group ≠ cipherTkip then none
            else some group

/-- `rtw88BuildSelectedRsnIe`. -/
def rtw88BuildSelectedRsnIe (groupCipher : Nat) : Bytes :=
  let groupCipher := if groupCipher ≠ cipherTkip then cipherCcmp else groupCipher
  [eidRsn, 20, 1, 0] ++ rtw88WriteSuite groupCipher ++ [1, 0] ++
    rtw88WriteSuite cipherCcmp ++ [1, 0] ++ rtw88WriteSuite akmPsk ++ [0, 0]

end AirportRtw88
