import AirportRtw88.Access
import AirportRtw88.Receive

/-!
# The parsers of management frames, with checked accesses

Each function reads the frame byte by byte, in the order of the source.  Where the source stops a
comparison at the first difference, all bytes that it compares are read.  A frame comes with its
length `n`, which is all that the guards look at.
-/

namespace AirportRtw88

open Bytes

namespace Checked

/-- `rtw88ResponsePeer`. -/
def rtw88ResponsePeer (f : Bytes) (n : Nat) (mac bssid : Bytes) : Option Bool := do
  if n < 30 then return false
  let addr1 ← f.copy 4 6
  let addr2 ← f.copy 10 6
  let addr3 ← f.copy 16 6
  return addr1 = mac ∧ addr2 = bssid ∧ addr3 = bssid

/-- `rtw88AuthResponse`. -/
def rtw88AuthResponse (f : Bytes) (n : Nat) (mac bssid : Bytes) : Option (Option Nat) := do
  let peer ← rtw88ResponsePeer f n mac bssid
  if !peer then return none
  let subtype ← f.read 0
  let algorithm ← f.read 24
  let algorithm' ← f.read 25
  let transaction ← f.read 26
  let transaction' ← f.read 27
  if subtype &&& 0xfc ≠ 0xb0 ∨ algorithm ≠ 0 ∨ algorithm' ≠ 0 ∨ transaction ≠ 2 ∨
      transaction' ≠ 0 then
    return none
  let status ← f.readLe16 28
  return some status

/-- `rtw88AssocResponse`. -/
def rtw88AssocResponse (f : Bytes) (n : Nat) (mac bssid : Bytes) :
    Option (Option AssocFields) := do
  let peer ← rtw88ResponsePeer f n mac bssid
  if !peer then return none
  let subtype ← f.read 0
  if subtype &&& 0xfc ≠ 0x10 ∧ subtype &&& 0xfc ≠ 0x30 then return none
  let status ← f.readLe16 26
  let aid ← f.readLe16 28
  let aid := aid &&& 0x3fff
  return if status ≠ 0 ∨ (1 ≤ aid ∧ aid ≤ 2007) then some ⟨status, aid⟩ else none

section Responses

variable (f mac bssid : Bytes)

theorem rtw88ResponsePeer_eq :
    rtw88ResponsePeer f f.length mac bssid = some (AirportRtw88.rtw88ResponsePeer f mac bssid) := by
  unfold rtw88ResponsePeer AirportRtw88.rtw88ResponsePeer
  split
  · rename_i short
    simp [Nat.not_le.mpr short]
  · have long : 30 ≤ f.length := by omega
    rw [copy_eq (by omega), copy_eq (by omega), copy_eq (by omega)]
    simp [long, addr1, addr2, addr3]

theorem length_of_rtw88ResponsePeer
    (peer : AirportRtw88.rtw88ResponsePeer f mac bssid = true) : 30 ≤ f.length := by
  simp only [AirportRtw88.rtw88ResponsePeer, decide_eq_true_eq] at peer
  exact peer.1

theorem rtw88AuthResponse_eq :
    rtw88AuthResponse f f.length mac bssid = some (AirportRtw88.rtw88AuthResponse f mac bssid) := by
  unfold rtw88AuthResponse AirportRtw88.rtw88AuthResponse
  rw [rtw88ResponsePeer_eq]
  cases peer : AirportRtw88.rtw88ResponsePeer f mac bssid with
  | false => simp
  | true =>
      have long := length_of_rtw88ResponsePeer f mac bssid peer
      rw [read_eq (by omega), read_eq (by omega), read_eq (by omega), read_eq (by omega),
        read_eq (by omega), readLe16_eq (by omega)]
      simp only [Option.bind_eq_bind, Option.bind_some, Bool.not_true, not_true_eq_false, false_or,
        Bool.false_eq_true, if_false]
      split <;> rfl

theorem rtw88AssocResponse_eq :
    rtw88AssocResponse f f.length mac bssid =
      some (AirportRtw88.rtw88AssocResponse f mac bssid) := by
  unfold rtw88AssocResponse AirportRtw88.rtw88AssocResponse
  rw [rtw88ResponsePeer_eq]
  cases peer : AirportRtw88.rtw88ResponsePeer f mac bssid with
  | false => simp
  | true =>
      have long := length_of_rtw88ResponsePeer f mac bssid peer
      rw [read_eq (by omega), readLe16_eq (by omega), readLe16_eq (by omega)]
      simp only [Option.bind_eq_bind, Option.bind_some, Bool.not_true, not_true_eq_false, false_or,
        Bool.false_eq_true, if_false]
      split <;> rfl

end Responses

/-! ## The RSN element -/

/-- The suites that `rtw88RsnSelectCcmpPsk` reads from an offset on. -/
def readSuites (rsn : Bytes) (start count : Nat) : Option (List Nat) :=
  (List.range count).mapM fun index => rsn.readBe32 (start + 4 * index)

/-- `rtw88RsnSelectCcmpPsk`; what follows the `len` bytes of the element can be read too. -/
def rtw88RsnSelectCcmpPsk (rsn : Bytes) (len : Nat) : Option (Option Nat) := do
  if len < 8 then return none
  let version ← rsn.read 0
  let version' ← rsn.read 1
  if version ≠ 1 ∨ version' ≠ 0 then return none
  let group ← rsn.readBe32 2
  if len - 6 < 2 then return none
  let pairwiseCount ← rsn.readLe16 6
  if pairwiseCount > (len - 8) / 4 then return none
  let pairwise ← readSuites rsn 8 pairwiseCount
  let p := 8 + 4 * pairwiseCount
  if len - p < 2 then return none
  let akmCount ← rsn.readLe16 p
  if akmCount > (len - (p + 2)) / 4 then return none
  let akms ← readSuites rsn (p + 2) akmCount
  if ¬ pairwise.contains cipherCcmp ∨ ¬ akms.contains akmPsk then return none
  if group ≠ cipherCcmp ∧ group ≠ cipherTkip then return none
  return some group

theorem mapM_eq_some {α β : Type} {elements : List α} {read : α → Option β} {value : α → β}
    (reads : ∀ element ∈ elements, read element = some (value element)) :
    elements.mapM read = some (elements.map value) := by
  induction elements with
  | nil => rfl
  | cons element rest ih =>
      rw [List.mapM_cons, reads element (by simp), ih fun other member =>
        reads other (by simp [member])]
      rfl

theorem readSuites_eq {rsn : Bytes} {start count len : Nat} (inside : start + 4 * count ≤ len)
    (bound : len ≤ rsn.length) :
    readSuites rsn start count =
      some (AirportRtw88.readSuites count ((rsn.take len).drop start)) := by
  refine mapM_eq_some fun index member => ?_
  have below : index < count := List.mem_range.mp member
  have last : start + 4 * index + 4 ≤ len := by omega
  rw [readBe32_eq (by omega), rtw88ReadSuite, List.drop_drop, be32At_take_drop last]

theorem rtw88RsnSelectCcmpPsk_eq {rsn : Bytes} {len : Nat} (bound : len ≤ rsn.length) :
    rtw88RsnSelectCcmpPsk rsn len =
      some (AirportRtw88.rtw88RsnSelectCcmpPsk (rsn.take len)) := by
  have length : (rsn.take len).length = len := List.length_take_of_le bound
  unfold rtw88RsnSelectCcmpPsk AirportRtw88.rtw88RsnSelectCcmpPsk
  simp only [length, List.length_drop, List.drop_drop]
  by_cases short : len < 8
  · rw [if_pos short, if_pos short]
    rfl
  have group : rtw88ReadSuite ((rsn.take len).drop 2) = rsn.be32At 2 :=
    be32At_take_drop (by omega)
  have count : Bytes.le16At ((rsn.take len).drop 6) 0 = rsn.le16At 6 :=
    le16At_take_drop (by omega)
  rw [if_neg short, if_neg short, byte_take (by omega), byte_take (by omega), count,
    read_eq (by omega), read_eq (by omega), readBe32_eq (by omega), readLe16_eq (by omega)]
  simp only [group, Option.bind_eq_bind, Option.bind_some]
  generalize rsn.le16At 6 = pairwiseCount
  by_cases other : rsn.byte 0 ≠ 1 ∨ rsn.byte 1 ≠ 0
  · rw [if_pos other, if_pos other]
    rfl
  have room : ¬ len - 6 < 2 := by omega
  rw [if_neg other, if_neg other, if_neg room, if_neg room]
  by_cases many : pairwiseCount > (len - 8) / 4
  · rw [if_pos many, if_pos many]
    rfl
  rw [if_neg many, if_neg many, readSuites_eq (by omega) bound]
  simp only [Option.bind_some]
  by_cases ended : len - (8 + 4 * pairwiseCount) < 2
  · rw [if_pos ended, if_pos ended]
    rfl
  have count : Bytes.le16At ((rsn.take len).drop (8 + 4 * pairwiseCount)) 0 =
      rsn.le16At (8 + 4 * pairwiseCount) := le16At_take_drop (by omega)
  rw [if_neg ended, if_neg ended, count, readLe16_eq (by omega)]
  simp only [Option.bind_some]
  generalize rsn.le16At (8 + 4 * pairwiseCount) = akmCount
  by_cases more : akmCount > (len - (8 + 4 * pairwiseCount + 2)) / 4
  · rw [if_pos more, if_pos more]
    rfl
  rw [if_neg more, if_neg more, readSuites_eq (by omega) bound]
  simp only [Option.bind_some]
  split
  · rfl
  · split <;> rfl

/-! ## Beacons -/

/-- One element in the walk of `processScanResult`, `body` bytes into the frame. -/
def readBeaconElement (bss : Bss) (id : UInt8) (frame : Bytes) (body len : Nat) :
    Option Bss := do
  if id = eidSsid ∧ 0 < len ∧ len ≤ 32 then
    store 33 0 len
    let ssid ← frame.copy (body + 2) len
    return { bss with ssid := bss.ssid.overwrite 0 ssid, ssidLen := len }
  else if id = eidDsParams ∧ len ≥ 1 then
    let channel ← frame.read (body + 2)
    return { bss with channel := channel.toNat }
  else if id = eidHtOperation ∧ len ≥ 1 ∧ bss.channel = 0 then
    let channel ← frame.read (body + 2)
    return { bss with channel := channel.toNat }
  else if id = eidRsn then
    match ← rtw88RsnSelectCcmpPsk (frame.drop (body + 2)) len with
    | some group =>
        return { bss with cipher := cipherCcmp, groupCipher := group, akm := akmPsk }
    | none => return bss
  else if id = eidVendorSpecific ∧ len ≥ 8 then
    let oui ← frame.copy (body + 2) 4
    if oui = [0x00, 0x50, 0xf2, 0x01] ∧ bss.cipher = 0 then
      return { bss with cipher := cipherTkip, groupCipher := cipherTkip, akm := akmPsk }
    else return bss
  else return bss

/-- The copy of an element into `ies[512]`. -/
def copyElement (bss : Bss) (frame : Bytes) (body len : Nat) : Option Bss := do
  if bss.ies.length + (2 + len) < 512 then
    store 512 bss.ies.length (2 + len)
    let element ← frame.copy body (2 + len)
    return { bss with ies := bss.ies ++ element }
  else return bss

/-- The element walk of `processScanResult` up to the offset `n`. -/
def readBeaconElements : Nat → Bytes → Nat → Nat → Bss → Option Bss
  | 0, _, _, _, bss => some bss
  | fuel + 1, frame, n, body, bss => do
      if n < body + 2 then return bss
      let id ← frame.read body
      let len ← frame.read (body + 1)
      if body + 2 + len.toNat > n then return bss
      let read ← readBeaconElement bss id frame body len.toNat
      let copied ← copyElement read frame body len.toNat
      readBeaconElements fuel frame n (body + 2 + len.toNat) copied

/-- The entry that `processScanResult` makes of a frame. -/
def beaconBss (skb : Skb) (n generation : Nat) : Option Bss := do
  let beaconInterval ← skb.data.readLe16 32
  let capabilities ← skb.data.readLe16 34
  let bssid ← skb.data.copy 16 6
  let read ← readBeaconElements (n + 1) skb.data n 36
    { Bss.empty with
      beaconInterval := beaconInterval
      capabilities := capabilities
      bssid := bssid }
  return { read with
    rssi := skb.signal
    freq := skb.freq
    lastSeenScan := generation
    channel := channelOfFreq read.channel skb.freq }

theorem readBeaconElement_eq (bss : Bss) (id : UInt8) {frame : Bytes} {body len : Nat}
    (inside : body + 2 + len ≤ frame.length) :
    readBeaconElement bss id frame body len =
      some (AirportRtw88.readBeaconElement bss id (frame.slice (body + 2) len)) := by
  have length : (frame.slice (body + 2) len).length = len := length_slice (by omega)
  unfold readBeaconElement AirportRtw88.readBeaconElement
  simp only [length]
  split
  · rename_i ssid
    rw [store_eq (by omega), copy_eq (by omega)]
    rfl
  split
  · rw [read_eq (by omega), byte_slice (by omega)]
    rfl
  split
  · rw [read_eq (by omega), byte_slice (by omega)]
    rfl
  split
  · rw [rtw88RsnSelectCcmpPsk_eq (by simp only [List.length_drop]; omega), slice]
    simp only [Option.bind_eq_bind, Option.bind_some]
    generalize AirportRtw88.rtw88RsnSelectCcmpPsk _ = selected
    cases selected <;> rfl
  by_cases vendor : id = eidVendorSpecific ∧ len ≥ 8
  · rw [if_pos vendor, copy_eq (by omega), take_slice (by omega)]
    simp only [vendor, true_and, Option.bind_eq_bind, Option.bind_some]
    split <;> rfl
  · rw [if_neg vendor, if_neg fun all => vendor ⟨all.1, all.2.1⟩]
    rfl

theorem copyElement_eq (bss : Bss) {frame : Bytes} {body len : Nat}
    (inside : body + 2 + len ≤ frame.length) :
    copyElement bss frame body len =
      some (if bss.ies.length + (2 + len) < 512 then
        { bss with ies := bss.ies ++ frame.slice body (2 + len) } else bss) := by
  unfold copyElement
  split
  · rw [store_eq (by omega), copy_eq (by omega)]
    rfl
  · rfl

theorem readBeaconElements_eq (fuel : Nat) (frame : Bytes) (body : Nat) (bss : Bss) :
    readBeaconElements fuel frame frame.length body bss =
      some (AirportRtw88.readBeaconElements fuel (frame.drop body) bss) := by
  induction fuel generalizing body bss with
  | zero => rfl
  | succ fuel ih =>
      unfold readBeaconElements AirportRtw88.readBeaconElements
      simp only [List.length_drop, byte_drop, slice_drop, List.drop_drop, Nat.add_zero]
      by_cases ended : frame.length < body + 2
      · rw [if_pos ended, if_pos (by omega)]
        rfl
      rw [if_neg ended, if_neg (by omega), read_eq (by omega), read_eq (by omega)]
      simp only [Option.bind_eq_bind, Option.bind_some]
      generalize frame.byte (body + 1) = len
      by_cases cut : body + 2 + len.toNat > frame.length
      · rw [if_pos cut, if_pos (by omega)]
        rfl
      rw [if_neg cut, if_neg (by omega), readBeaconElement_eq _ _ (by omega)]
      simp only [Option.bind_some]
      rw [copyElement_eq _ (by omega), Option.bind_some, ih, Nat.add_assoc]
      rfl

theorem beaconBss_eq (skb : Skb) (generation : Nat) (long : 36 ≤ skb.data.length) :
    beaconBss skb skb.data.length generation = some (AirportRtw88.beaconBss skb generation) := by
  unfold beaconBss AirportRtw88.beaconBss
  rw [readLe16_eq (by omega), readLe16_eq (by omega), copy_eq (by omega)]
  simp only [Option.bind_eq_bind, Option.bind_some]
  rw [readBeaconElements_eq]
  rfl

/-! ## Deauthentication and action frames -/

/-- The address comparisons for a deauthentication or disassociation. -/
def obeysDeauth (s : Ieee80211) (frame : Bytes) : Option Bool := do
  let addr3 ← frame.copy 16 6
  let addr2 ← frame.copy 10 6
  let addr1 ← frame.copy 4 6
  return (addr3 = s.targetBSS.bssid ∨ addr2 = s.targetBSS.bssid) ∧
    (addr1 = s.macAddr ∨ addr1 = broadcastAddr)

def deauthReason (frame : Bytes) (n : Nat) : Option Nat :=
  if 24 + 2 ≤ n then frame.readLe16 24 else some 0

/-- `rtw88IsAWDLActionFrame`. -/
def rtw88IsAWDLActionFrame (frame : Bytes) (n : Nat) : Option Bool := do
  if n < 24 + 16 then return false
  let subtype ← frame.read 0
  let bssid ← frame.copy 16 6
  let category ← frame.read 24
  let oui ← frame.copy 25 3
  let kind ← frame.read 28
  let awdlSubtype ← frame.read 30
  let sa ← frame.copy 10 6
  return subtype &&& 0xfc = 0xd0 ∧ bssid = awdlBssid ∧ category = 0x7f ∧
    oui = [0x00, 0x17, 0xf2] ∧ kind = 8 ∧ (awdlSubtype = 0 ∨ awdlSubtype = 3) ∧
    sa ≠ zeros 6 ∧ sa.byte 0 &&& 0x01 = 0

/-- What `injectRxActionFrame` reads, if the virtual interface is there. -/
def injectRxActionFrame (frame : Bytes) (n : Nat) : Option Unit := do
  if n > 4096 then return ()
  let awdl ← rtw88IsAWDLActionFrame frame n
  if !awdl then return ()
  let _ ← frame.copy 10 6
  let _ ← frame.copy 0 n
  return ()

/-- The test for a BlockAck action frame of the access point. -/
def isBackAction (frame : Bytes) (n : Nat) (bssid : Bytes) : Option Bool := do
  let blen := if n > 24 then n - 24 else 0
  if blen < 2 then return false
  let category ← frame.read 24
  let addr3 ← frame.copy 16 6
  return category = 3 ∧ addr3 = bssid

section Action

variable {frame : Bytes}

theorem obeysDeauth_eq (s : Ieee80211) (long : 24 ≤ frame.length) :
    obeysDeauth s frame = some (s.obeysDeauth frame) := by
  unfold obeysDeauth
  rw [copy_eq (by omega), copy_eq (by omega), copy_eq (by omega)]
  rfl

theorem deauthReason_eq :
    deauthReason frame frame.length = some (if 26 ≤ frame.length then frame.le16At 24 else 0) := by
  unfold deauthReason
  split
  · rw [readLe16_eq (by omega)]
  · rfl

theorem injectRxActionFrame_eq : injectRxActionFrame frame frame.length = some () := by
  unfold injectRxActionFrame rtw88IsAWDLActionFrame
  split
  · rfl
  by_cases short : frame.length < 24 + 16
  · rw [if_pos short]
    rfl
  rw [if_neg short, read_eq (by omega), copy_eq (by omega), read_eq (by omega), copy_eq (by omega),
    read_eq (by omega), read_eq (by omega), copy_eq (by omega), copy_eq (by omega)]
  simp only [Option.bind_eq_bind, Option.bind_some, Option.pure_def]
  split <;> rfl

theorem isBackAction_eq (bssid : Bytes) (long : 24 ≤ frame.length) :
    isBackAction frame frame.length bssid =
      some (2 ≤ (frame.drop 24).length ∧ Bytes.byte (frame.drop 24) 0 = 3 ∧
        frame.addr3 = bssid : Bool) := by
  unfold isBackAction
  simp only [List.length_drop, byte_drop]
  by_cases short : frame.length < 26
  · rw [if_pos (by split <;> omega)]
    simp [show ¬ 2 ≤ frame.length - 24 by omega]
  · rw [if_neg (by split <;> omega), read_eq (by omega), copy_eq (by omega)]
    simp [show 2 ≤ frame.length - 24 by omega, addr3]

end Action

end Checked

end AirportRtw88
