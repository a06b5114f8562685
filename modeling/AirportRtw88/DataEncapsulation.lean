import AirportRtw88.Deliveries
import AirportRtw88.HeaderFields
import AirportRtw88.Protection

/-!
# Encapsulation

`txDataFrame` writes an Ethernet frame as a data frame into a buffer, part by part.  What it hands
to the driver is compared with what the layout of the standard reads from it, and the parts with
the buffer that was allocated for them.
-/

namespace AirportRtw88

open Interleave Bytes

/-! ## Buffers -/

/-- `struct sk_buff`: the memory of its allocation, and offsets into it. -/
structure SkBuff where
  head : Bytes
  data : Nat
  tail : Nat
  len : Nat

namespace SkBuff

/-- `alloc_skb`, on the memory that `kmalloc` returned. -/
def alloc (memory : Bytes) : SkBuff :=
  ⟨memory, 0, 0, 0⟩

/-- What `alloc_skb` asks `kmalloc` for. -/
def allocSize (size : Nat) : Nat :=
  size + 64

/-- `skb_reserve`. -/
def reserve (skb : SkBuff) (length : Nat) : SkBuff :=
  { skb with
    data := skb.data + length
    tail := skb.tail + length }

/-- `skb_put`, and a write over the room that it returns; it fails where the room would lie past
the end of the allocation. -/
def put (skb : SkBuff) (source : Bytes) : Option SkBuff :=
  if skb.tail + source.length ≤ skb.head.length then
    some
      { skb with
        head := skb.head.overwrite skb.tail source
        tail := skb.tail + source.length
        len := skb.len + source.length }
  else none

/-- A part that only some frames have. -/
def putIf (skb : SkBuff) (condition : Bool) (source : Bytes) : Option SkBuff :=
  if condition then skb.put source else some skb

/-- The frame in the buffer. -/
def bytes (skb : SkBuff) : Bytes :=
  skb.head.slice skb.data skb.len

/-- The buffer holds a frame, with room behind it. -/
structure Holds (skb : SkBuff) (content : Bytes) (room : Nat) : Prop where
  contents : skb.bytes = content
  len : skb.len = content.length
  tail : skb.tail = skb.data + skb.len
  room : skb.tail + room = skb.head.length

theorem holds_reserve {memory : Bytes} {length room : Nat}
    (whole : memory.length = length + room) :
    ((alloc memory).reserve length).Holds [] room := by
  refine ⟨?_, rfl, rfl, ?_⟩
  · simp [bytes, slice, alloc, reserve]
  · simp [alloc, reserve, whole]

/-- What is put behind a frame that leaves room for it. -/
theorem Holds.put {skb : SkBuff} {content : Bytes} (source : Bytes) {room : Nat}
    (holds : skb.Holds content (source.length + room)) :
    ∃ later, skb.put source = some later ∧ later.Holds (content ++ source) room := by
  obtain ⟨contents, len, tail, whole⟩ := holds
  have fits : skb.tail + source.length ≤ skb.head.length := by omega
  have kept : (skb.head.overwrite skb.tail source).drop skb.data =
      content ++ (source ++ skb.head.drop (skb.tail + source.length)) := by
    rw [overwrite, List.append_assoc, List.drop_append_of_le_length (by simp; omega),
      List.drop_take, show skb.tail - skb.data = skb.len by omega]
    exact congrArg (· ++ _) contents
  refine ⟨_, if_pos fits, ?_, ?_, ?_, ?_⟩
  · rw [bytes, slice, kept, ← List.append_assoc]
    exact List.take_left' (by rw [List.length_append, len])
  · rw [List.length_append, len]
  · dsimp only
    omega
  · dsimp only
    rw [length_overwrite fits]
    omega

theorem Holds.putIf {skb : SkBuff} {content : Bytes} (condition : Bool) (source : Bytes)
    {room : Nat} (holds : skb.Holds content ((if condition then source.length else 0) + room)) :
    ∃ later, skb.putIf condition source = some later ∧
      later.Holds (content ++ if condition then source else []) room := by
  cases condition with
  | true => exact holds.put source
  | false =>
      refine ⟨skb, rfl, ?_⟩
      simpa using holds

end SkBuff

/-! ## The layout of the standard -/

/-- The fields of a CCMP header. -/
structure CcmpFields where
  packetNumber : Nat
  keyId : Nat
  deriving DecidableEq

/-- The packet number is split around the octets of the key identifier. -/
def ccmpFields (header : Bytes) : CcmpFields where
  packetNumber := pnValue
    [header.byte 0, header.byte 1, header.byte 4, header.byte 5, header.byte 6, header.byte 7]
  keyId := (header.byte 3).toNat / 64

/-- The fields of a data frame. -/
structure DataFields where
  addr1 : Bytes
  addr2 : Bytes
  addr3 : Bytes
  ccmp : Option CcmpFields
  ethertype : Nat
  payload : Bytes
  deriving DecidableEq

/-- What a data frame says: a header of 26 bytes if it is a QoS frame and of 24 bytes otherwise, a
CCMP header if it is protected, and an RFC 1042 header. -/
def dataFields (frame : Bytes) : Option DataFields :=
  let body : Bytes := frame.drop (if frame.frameControl &&& stypeQosData ≠ 0 then 26 else 24)
  let llc : Bytes := body.drop (if frame.hasProtected then 8 else 0)
  if 8 ≤ llc.length ∧ llc.take 6 = [0xAA, 0xAA, 0x03, 0, 0, 0] then
    some
      { addr1 := frame.addr1
        addr2 := frame.addr2
        addr3 := frame.addr3
        ccmp := if frame.hasProtected then some (ccmpFields body) else none
        ethertype := llc.be16At 6
        payload := llc.drop 8 }
  else none

/-- An Ethernet frame that `txDataFrame` takes. -/
structure DataPacket where
  frame : Bytes
  whole : 14 ≤ frame.length
  fits : frame.length ≤ 2048

namespace DataPacket

variable (p : DataPacket)

def ethertype : Nat := p.frame.be16At 12

def payload : Bytes := p.frame.drop 14

end DataPacket

namespace Ieee80211

/-- The arrays that go into a data frame have their lengths. -/
structure DataArrays (s : Ieee80211) : Prop where
  mac : s.macAddr.length = 6
  bssid : s.targetBSS.bssid.length = 6
  txPn : s.ccmpTxPn.length = 6

/-- `framelen` of `txDataFrame`. -/
def framelen (s : Ieee80211) (ethertype paylen : Nat) : Nat :=
  (if s.htAllowed then 26 else 24) + (if s.protects ethertype then 8 else 0) + 8 + paylen

/-- The writes of `txDataFrame` into its buffer, whose memory is given. -/
def buildData (s : Ieee80211) (eh payload memory : Bytes) : Option SkBuff := do
  let ethertype := eh.be16At 12
  let seq := if s.htAllowed then s.dataSeq else s.txSeq
  let skb := (SkBuff.alloc memory).reserve 128
  let skb ← skb.put (header3addr (s.dataFrameControl ethertype) s.targetBSS.bssid s.macAddr
    (eh.take 6) (seq % 4096 * 16))
  let skb ← skb.putIf s.htAllowed [UInt8.ofNat (s.baTid &&& 0xf), 0]
  let skb ← skb.putIf (s.protects ethertype)
    (ccmpHeader s.ccmpTxPn ((s.ptkConf.map KeyConf.keyidx).getD 0))
  let skb ← skb.put (snapHeader ethertype)
  skb.putIf (payload ≠ []) payload

end Ieee80211

/-- The frame says what the packet and the state before it say, and it fits its buffer; `keyId`
gives the identifier of a key from its index. -/
structure TxSkb.Encapsulates (skb : TxSkb) (keyId : UInt8 → Nat) (s : Ieee80211)
    (p : DataPacket) : Prop where
  fields : dataFields skb.data = some
    { addr1 := s.targetBSS.bssid
      addr2 := s.macAddr
      addr3 := p.frame.take 6
      ccmp :=
        if s.protects p.ethertype then
          s.ptkConf.map fun key => ⟨(pnValue s.ccmpTxPn + 1) % 2 ^ 48, keyId key.keyidx⟩
        else none
      ethertype := p.ethertype
      payload := p.payload }
  built : ∀ memory : Bytes,
    memory.length = SkBuff.allocSize (s.framelen p.ethertype p.payload.length + 128) →
      ∃ buffer, (s.bumpTxPn p.ethertype).buildData (p.frame.take 14) p.payload memory =
          some buffer ∧
        buffer.len = s.framelen p.ethertype p.payload.length ∧ buffer.bytes = skb.data

/-- `txDataFrame` hands over one frame that says what the packet says, or none; it hands one over
if nothing fails. -/
def DataRoundTrips (keyId : UInt8 → Nat) : Prop :=
  ∀ (p : DataPacket) (id : Nat) (s : Ieee80211), s.DataArrays →
    (M.txDataFrame ⟨id, p.frame⟩).Traces (fun _ _ => True) (fun _ => True) s (fun trace sent _ =>
      (sent = true ∧ ∃ skb, trace = [.tx .data skb] ∧ skb.Encapsulates keyId s p) ∨
        (sent = false ∧ trace = [])) ∧
    (s.hasOp Ops.tx = true → s.vif.isSome = true → s.sta.isSome = true →
      (M.txDataFrame ⟨id, p.frame⟩).Traces (fun _ _ => True) Answer.succeeded s
        fun _ sent _ => sent = true)

/-! ## The frame of a packet -/

namespace Ieee80211

section

variable {s : Ieee80211}

theorem DataArrays.bumpTxPn (arrays : s.DataArrays) (ethertype : Nat) :
    (s.bumpTxPn ethertype).DataArrays := by
  refine ⟨arrays.mac, arrays.bssid, ?_⟩
  unfold Ieee80211.bumpTxPn
  dsimp only
  split
  · exact (length_incrementPn _).trans arrays.txPn
  · exact arrays.txPn

variable (arrays : s.DataArrays) (p : DataPacket)

/-- The header of the frame. -/
def DataArrays.header : MacHeader where
  fc := s.dataFrameControl p.ethertype
  duration := 0
  addr1 := s.targetBSS.bssid
  addr2 := s.macAddr
  addr3 := p.frame.take 6
  seqCtrl := (if s.htAllowed then s.dataSeq else s.txSeq) % 4096 * 16
  fc_lt := by
    unfold dataFrameControl
    split <;> split <;> decide
  seqCtrl_lt := by omega
  length_addr1 := arrays.bssid
  length_addr2 := arrays.mac
  length_addr3 := by
    have whole := p.whole
    simp only [List.length_take]
    omega

variable (s)

/-- The QoS control field of the frame. -/
def qosControl : Bytes :=
  if s.htAllowed then [UInt8.ofNat (s.baTid &&& 0xf), 0] else []

/-- The CCMP header of the frame. -/
def sealing (ethertype : Nat) : Bytes :=
  if s.protects ethertype then
    ccmpHeader s.ccmpTxPn ((s.ptkConf.map KeyConf.keyidx).getD 0) else []

variable {s}

theorem DataArrays.data_encapsulate :
    (s.encapsulate (p.frame.take 14) p.payload).data =
      (arrays.header p).bytes ++ (s.qosControl ++ (s.sealing p.ethertype ++
        (snapHeader p.ethertype ++ p.payload))) := by
  have ethertype : Bytes.be16At (p.frame.take 14) 12 = p.ethertype := Bytes.be16At_take (by omega)
  have address : (p.frame.take 14).take 6 = p.frame.take 6 := by
    rw [List.take_take, Nat.min_eq_left (by omega)]
  have data := s.data_encapsulate (p.frame.take 14) p.payload
  rw [dataHeader, ethertype, address] at data
  rw [data, (arrays.header p).bytes_eq_header3addr rfl, List.append_assoc]
  rfl

theorem isQos_dataFrameControl (ethertype : Nat) :
    (s.dataFrameControl ethertype &&& stypeQosData ≠ 0) ↔ s.htAllowed = true := by
  unfold dataFrameControl
  cases s.htAllowed <;> cases s.protects ethertype <;> decide

/-- The CCMP header says which packet number and key were used. -/
theorem ccmpFields_ccmpHeader {pn : Bytes} (whole : pn.length = 6) (keyidx : UInt8)
    (rest : Bytes) :
    ccmpFields (ccmpHeader pn keyidx ++ rest) = ⟨pnValue pn, keyidx.toNat % 4⟩ := by
  obtain ⟨b0, b1, b2, b3, b4, b5, rfl⟩ : ∃ b0 b1 b2 b3 b4 b5, pn = [b0, b1, b2, b3, b4, b5] := by
    match pn, whole with
    | [b0, b1, b2, b3, b4, b5], _ => exact ⟨b0, b1, b2, b3, b4, b5, rfl⟩
  have identifier : ∀ index : Fin 256, ((0x20 : UInt8) |||
      ((UInt8.ofNat index.val &&& 0x3) <<< 6)).toNat / 64 = index.val % 4 := by
    decide +kernel
  have keyId := identifier ⟨keyidx.toNat, keyidx.toNat_lt⟩
  rw [UInt8.ofNat_toNat] at keyId
  exact congrArg (CcmpFields.mk _) keyId

/-- The layout of the standard reads what was written. -/
theorem DataArrays.dataFields_encapsulate (arrays : s.DataArrays) :
    dataFields (s.encapsulate (p.frame.take 14) p.payload).data = some
      { addr1 := s.targetBSS.bssid
        addr2 := s.macAddr
        addr3 := p.frame.take 6
        ccmp :=
          if s.protects p.ethertype then
            s.ptkConf.map fun key => ⟨pnValue s.ccmpTxPn, key.keyidx.toNat % 4⟩
          else none
        ethertype := p.ethertype
        payload := p.payload } := by
  have small : p.ethertype < 65536 := be16At_lt _ _
  have word := be16At_be16 [0xAA, 0xAA, 0x03, 0, 0, 0] p.payload _ small
  have fc : (arrays.header p).fc = s.dataFrameControl p.ethertype := rfl
  have isProtected : Bytes.hasProtected ((arrays.header p).bytes ++ (s.qosControl ++
      (s.sealing p.ethertype ++ (snapHeader p.ethertype ++ p.payload)))) =
        s.protects p.ethertype := by
    rw [Bytes.hasProtected, MacHeader.frameControl_append, fc]
    unfold dataFrameControl
    cases s.protects p.ethertype <;> cases s.htAllowed <;> decide
  have body : ((arrays.header p).bytes ++ (s.qosControl ++ (s.sealing p.ethertype ++
      (snapHeader p.ethertype ++ p.payload)))).drop (if s.htAllowed then 26 else 24) =
        s.sealing p.ethertype ++ (snapHeader p.ethertype ++ p.payload) := by
    unfold qosControl
    cases s.htAllowed with
    | true => exact MacHeader.drop_append _ _ 2
    | false => exact MacHeader.drop_append _ _ 0
  have llc : (s.sealing p.ethertype ++ (snapHeader p.ethertype ++ p.payload)).drop
      (if s.protects p.ethertype then 8 else 0) = snapHeader p.ethertype ++ p.payload := by
    unfold sealing
    cases s.protects p.ethertype <;> rfl
  have snap : 8 ≤ (snapHeader p.ethertype ++ p.payload).length ∧
      (snapHeader p.ethertype ++ p.payload).take 6 = [0xAA, 0xAA, 0x03, 0, 0, 0] := by
    refine ⟨?_, rfl⟩
    rw [List.length_append]
    exact Nat.le_add_right 8 _
  rw [arrays.data_encapsulate, dataFields]
  simp only [isProtected, MacHeader.frameControl_append, fc, isQos_dataFrameControl, body, llc,
    if_pos snap, MacHeader.addr1_append, MacHeader.addr2_append, MacHeader.addr3_append]
  have sealedFields : (if s.protects p.ethertype then some (ccmpFields (s.sealing p.ethertype ++
      (snapHeader p.ethertype ++ p.payload))) else none) =
        if s.protects p.ethertype then
          s.ptkConf.map fun key => ⟨pnValue s.ccmpTxPn, key.keyidx.toNat % 4⟩
        else none := by
    by_cases sealed : s.protects p.ethertype = true
    · have keyed : s.ptkConf.isSome = true := by
        simp only [protects, Bool.and_eq_true] at sealed
        exact sealed.1.2
      obtain ⟨key, installed⟩ := Option.isSome_iff_exists.mp keyed
      rw [if_pos sealed, if_pos sealed, sealing, if_pos sealed, ccmpFields_ccmpHeader arrays.txPn,
        installed]
      rfl
    · rw [if_neg sealed, if_neg sealed]
  have payload : (snapHeader p.ethertype ++ p.payload).drop 8 = p.payload := rfl
  have ethertype : Bytes.be16At (snapHeader p.ethertype ++ p.payload) 6 = p.ethertype := word
  rw [sealedFields, payload, ethertype]
  rfl

/-! ## The buffer of a packet -/

theorem DataArrays.length_encapsulate (arrays : s.DataArrays) :
    (s.encapsulate (p.frame.take 14) p.payload).data.length =
      s.framelen p.ethertype p.payload.length := by
  have snap : (snapHeader p.ethertype).length = 8 := rfl
  have qos : s.qosControl.length = if s.htAllowed then 2 else 0 := by
    unfold qosControl
    cases s.htAllowed <;> rfl
  have sealed : (s.sealing p.ethertype).length = if s.protects p.ethertype then 8 else 0 := by
    unfold sealing
    cases s.protects p.ethertype <;> rfl
  rw [arrays.data_encapsulate, framelen]
  simp only [List.length_append, MacHeader.length_bytes, snap, qos, sealed]
  cases s.htAllowed <;> simp <;> omega

/-- The parts fill the buffer as far as it was reserved for the frame. -/
theorem DataArrays.built (arrays : s.DataArrays) {memory : Bytes}
    (whole : memory.length =
      SkBuff.allocSize (s.framelen p.ethertype p.payload.length + 128)) :
    ∃ buffer, s.buildData (p.frame.take 14) p.payload memory = some buffer ∧
      buffer.Holds (s.encapsulate (p.frame.take 14) p.payload).data 64 := by
  have ethertype : Bytes.be16At (p.frame.take 14) 12 = p.ethertype := Bytes.be16At_take (by omega)
  have address : (p.frame.take 14).take 6 = p.frame.take 6 := by
    rw [List.take_take, Nat.min_eq_left (by omega)]
  have header : header3addr (s.dataFrameControl p.ethertype) s.targetBSS.bssid s.macAddr
      (p.frame.take 6) ((if s.htAllowed then s.dataSeq else s.txSeq) % 4096 * 16) =
        (arrays.header p).bytes := ((arrays.header p).bytes_eq_header3addr rfl).symm
  let qosLength := if s.htAllowed then 2 else 0
  let sealLength := if s.protects p.ethertype then 8 else 0
  have sized : memory.length = 128 + (24 + (qosLength + (sealLength + (8 +
      (p.payload.length + 64))))) := by
    rw [whole, SkBuff.allocSize, framelen]
    simp only [qosLength, sealLength]
    cases s.htAllowed <;> cases s.protects p.ethertype <;> simp <;> omega
  have reserved := SkBuff.holds_reserve sized
  rw [← (arrays.header p).length_bytes] at reserved
  obtain ⟨headed, headPut, holds⟩ := reserved.put _
  obtain ⟨qosed, qosPut, holds⟩ := holds.putIf s.htAllowed [UInt8.ofNat (s.baTid &&& 0xf), 0]
  obtain ⟨sealed, sealPut, holds⟩ := holds.putIf (s.protects p.ethertype)
    (ccmpHeader s.ccmpTxPn ((s.ptkConf.map KeyConf.keyidx).getD 0))
  obtain ⟨snapped, snapPut, holds⟩ := holds.put (snapHeader p.ethertype)
  have counted : (if decide (p.payload ≠ []) = true then p.payload.length else 0) =
      p.payload.length := by
    cases p.payload <;> rfl
  rw [← counted] at holds
  obtain ⟨buffer, lastPut, holds⟩ := holds.putIf (decide (p.payload ≠ [])) _
  have last : (if decide (p.payload ≠ []) = true then p.payload else []) = p.payload := by
    cases p.payload <;> rfl
  refine ⟨buffer, ?_, ?_⟩
  · unfold buildData
    simp only [ethertype, address, header, Option.bind_eq_bind, headPut, qosPut, sealPut, snapPut,
      lastPut, Option.bind_some]
  · rw [arrays.data_encapsulate]
    rw [last] at holds
    simpa only [qosControl, sealing, List.nil_append, List.append_assoc] using holds

/-- The frame of a packet, once the packet number has been advanced. -/
theorem DataArrays.encapsulates (arrays : s.DataArrays) :
    ((s.bumpTxPn p.ethertype).encapsulate (p.frame.take 14) p.payload).Encapsulates
      (fun keyidx => keyidx.toNat % 4) s p := by
  have bumped := arrays.bumpTxPn p.ethertype
  have protects : (s.bumpTxPn p.ethertype).protects p.ethertype = s.protects p.ethertype := rfl
  have framelen : (s.bumpTxPn p.ethertype).framelen p.ethertype p.payload.length =
      s.framelen p.ethertype p.payload.length := rfl
  constructor
  · rw [bumped.dataFields_encapsulate p, protects]
    by_cases sealed : s.protects p.ethertype = true
    · have advanced : pnValue (s.bumpTxPn p.ethertype).ccmpTxPn =
          (pnValue s.ccmpTxPn + 1) % 2 ^ 48 := by
        have counted := pnValue_incrementPn_mod s.ccmpTxPn
        rw [arrays.txPn] at counted
        unfold Ieee80211.bumpTxPn
        dsimp only
        have period : 256 ^ 6 = 2 ^ 48 := by decide
        rw [if_pos sealed, counted, period]
      rw [if_pos sealed, if_pos sealed, advanced]
      rfl
    · rw [if_neg sealed, if_neg sealed]
      rfl
  · intro memory whole
    rw [← framelen] at whole ⊢
    obtain ⟨buffer, built, holds⟩ := bumped.built p whole
    exact ⟨buffer, built, holds.len.trans (bumped.length_encapsulate p), holds.contents⟩

end

end Ieee80211

namespace M

/-- `txDataFrame` submits the frame that it has built, or nothing; it submits if nothing fails. -/
theorem txDataFrame_traces (p : DataPacket) (id : Nat) (s : Ieee80211)
    {rely : Ieee80211 → Ieee80211 → Prop} {grants : Answer → Prop} :
    (txDataFrame ⟨id, p.frame⟩).Traces rely grants s fun trace sent _ =>
      (sent = true ∧ trace = [.tx .data
        ((s.bumpTxPn p.ethertype).encapsulate (p.frame.take 14) p.payload)]) ∨
      (sent = false ∧ trace = [] ∧ ((∀ answer, grants answer → answer.succeeded) →
        ¬ (s.hasOp Ops.tx = true ∧ s.vif.isSome = true ∧ s.sta.isSome = true))) := by
  have sized : ¬ (p.frame.length < 14 ∨ p.frame.length > 2048) := by
    have whole := p.whole
    have fits := p.fits
    omega
  have ethertype : Bytes.be16At (p.frame.take 14) 12 = p.ethertype := be16At_take (by omega)
  have refuses : ∀ {answer : Answer}, grants answer → ¬ answer.code = 0 →
      ((∀ answer, grants answer → answer.succeeded) →
        ¬ (s.hasOp Ops.tx = true ∧ s.vif.isSome = true ∧ s.sta.isSome = true)) :=
    fun granted failed succeeds => absurd (succeeds _ granted) failed
  unfold txDataFrame dropMbuf allocSkb copies succeeds submit perform
  simp only [Prog.bind_eq_bind, Prog.pure_eq_ret, Prog.traces_bind, Prog.traces_fetch,
    Prog.traces_ite, Prog.traces_update, Prog.traces_choose, Prog.traces_await, Prog.traces_ret,
    List.nil_append, List.append_nil, if_neg sized, ethertype]
  constructor
  · intro unable
    refine .inr ⟨trivial, trivial, fun _ able => ?_⟩
    simp [able.1, Option.isNone_iff_eq_none] at unable
    rcases unable with absent | absent <;> simp [absent] at able
  intro able answer granted
  constructor
  · intro failed
    exact .inr ⟨trivial, trivial, refuses granted (by simpa using failed)⟩
  intro _ answer granted
  constructor
  · intro _
    constructor
    · intro empty
      exact ⟨by rintro ⟨⟩, fun _ _ _ _ _ => .inl ⟨trivial, rfl⟩⟩
    · intro _ answer granted
      constructor
      · intro failed
        exact .inr ⟨trivial, trivial, refuses granted (by simpa using failed)⟩
      · intro _ answer later _ _
        exact .inl ⟨trivial, rfl⟩
  · intro failed
    exact .inr ⟨trivial, trivial, refuses granted (by simpa using failed)⟩

end M

/-- Each Ethernet frame is sent as a data frame that says what it says, with the packet number that
was just counted and the index of the key modulo four. -/
theorem dataRoundTrips : DataRoundTrips fun keyidx => keyidx.toNat % 4 := by
  intro p id s arrays
  constructor
  · refine (M.txDataFrame_traces p id s).mono ?_
    rintro trace sent _ (⟨rfl, rfl⟩ | ⟨rfl, rfl, -⟩)
    · exact .inl ⟨rfl, _, rfl, arrays.encapsulates p⟩
    · exact .inr ⟨rfl, rfl⟩
  · intro hasTx hasVif hasSta
    refine (M.txDataFrame_traces p id s).mono ?_
    rintro trace sent _ (⟨rfl, -⟩ | ⟨-, -, unable⟩)
    · rfl
    · exact absurd ⟨hasTx, hasVif, hasSta⟩ (unable fun _ granted => granted)

namespace Scenario

/-- The supplicant installs a pairwise key with the index 4. -/
def fifthKey : List (Turn Answer Op) :=
  connectedExternally ++
    [.start (.cmdInstallExternalKey true 4 cipherCcmp (some (zeros 16))) [], goOn 0]

/-- An IPv4 packet for the access point. -/
def dataPacket : DataPacket where
  frame := packet.data
  whole := by decide
  fits := by decide

def usesFifthKey : Option Bool := do
  let config ← play fifthKey
  let s := config.state
  return s.macAddr.length = 6 ∧ s.targetBSS.bssid.length = 6 ∧ s.ccmpTxPn.length = 6 ∧
    s.hasOp Ops.tx = true ∧ s.vif.isSome = true ∧ s.sta.isSome = true ∧
    s.protects dataPacket.ethertype = true ∧ s.ptkConf.map KeyConf.keyidx = some 4

theorem usesFifthKey_true : usesFifthKey = some true := by
  decide +kernel

end Scenario

/-- The header has two bits for the index of the key. -/
theorem not_dataRoundTrips : ¬ DataRoundTrips UInt8.toNat := by
  intro claimed
  have run := Scenario.usesFifthKey_true
  simp only [Scenario.usesFifthKey, Option.bind_eq_bind, Option.bind_eq_some_iff, Option.pure_def,
    Option.some.injEq, decide_eq_true_eq] at run
  obtain ⟨config, -, mac, bssid, txPn, hasTx, hasVif, hasSta, sealed, index⟩ := run
  have arrays : config.state.DataArrays := ⟨mac, bssid, txPn⟩
  obtain ⟨key, installed, four⟩ := Option.map_eq_some_iff.mp index
  have written := (arrays.encapsulates Scenario.dataPacket).fields
  have sent := (claimed Scenario.dataPacket 0 config.state arrays).1.and
    (M.txDataFrame_traces Scenario.dataPacket 0 config.state)
  have submits :=
    ((claimed Scenario.dataPacket 0 config.state arrays).2 hasTx hasVif hasSta).run_nil
    (fun _ => trivial) rfl
  obtain ⟨⟨-, skb, trace, fields, -⟩ | ⟨fails, -⟩, built⟩ :=
    sent.run_nil (fun _ => trivial) trivial
  · obtain ⟨-, same⟩ | ⟨-, nothing, -⟩ := built
    · obtain rfl : skb = _ := (Call.tx.inj (List.cons.inj (trace.symm.trans same)).1).2
      rw [fields] at written
      simp [sealed, installed, four] at written
    · exact absurd (trace.symm.trans nothing) (List.cons_ne_nil _ _)
  · rw [submits] at fails
    cases fails

end AirportRtw88
