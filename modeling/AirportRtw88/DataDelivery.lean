import AirportRtw88.Deliveries
import AirportRtw88.HeaderFields
import AirportRtw88.System
import Mathlib.Data.Nat.Bitwise

/-!
# Decapsulation

What the stack receives from a data frame on a connected link, for the frames in which an access
point sends an MSDU, and for an MSDU that is the only one of an aggregate.
-/

namespace AirportRtw88

open Interleave Bytes

/-- The frames that a list of requests hands to the stack. -/
def deliveredFrames (trace : List Call) : List Bytes :=
  trace.filterMap Call.delivered

/-- The link is up and its frames can be handed over. -/
structure Ieee80211.Delivers (s : Ieee80211) : Prop where
  connected : s.state = .connected
  parent : s.parent = true

namespace M

variable {s : Ieee80211}

theorem delivers_of_sameLink {t : Ieee80211} (delivers : s.Delivers) (same : SameLink s t) :
    t.Delivers :=
  ⟨same.state.trans delivers.connected, same.parent.trans delivers.parent⟩

theorem deliverMsdu_delivers (skb : Skb) (delivers : s.Delivers) :
    (deliverMsdu skb).Traces SameLink Answer.succeeded s fun trace _ later =>
      deliveredFrames trace = [(singleMsdu skb.data).frame] ∧ SameLink s later := by
  have connected : ∀ {t : Ieee80211}, SameLink s t →
      ¬ t.takesEapol skb.data.llc.llcEthertype = true := by
    intro t same takes
    have shaking := (of_decide_eq_true takes).2.1
    rw [same.state, delivers.connected] at shaking
    cases shaking
  have hands : ∀ {t : Ieee80211}, SameLink s t →
      (deliverEthernet skb (singleMsdu skb.data)).Traces SameLink Answer.succeeded t
        fun trace _ later =>
          deliveredFrames trace = [(singleMsdu skb.data).frame] ∧ SameLink s later := by
    intro t same
    refine (deliverEthernet_traces skb _ (delivers_of_sameLink delivers same).parent).mono ?_
    rintro _ _ later ⟨rfl, still⟩
    exact ⟨rfl, same.trans still⟩
  unfold deliverMsdu
  simp only [Prog.bind_eq_bind, Prog.traces_bind, Prog.traces_when, Prog.traces_update,
    Prog.traces_fetch, Prog.traces_ite, List.nil_append]
  have logged : SameLink s s.logCcmpIvSkip := ⟨rfl, rfl⟩
  refine ⟨fun _ => ⟨fun takes => absurd takes (connected logged), fun _ => hands logged⟩,
    fun _ => ⟨fun takes => absurd takes (connected (.refl s)), fun _ => hands (.refl s)⟩⟩

/-- On a connected link, what a frame carries is what the stack receives. -/
theorem deliverDataFrame_delivers (skb : Skb) (delivers : s.Delivers) :
    (deliverDataFrame skb).Traces SameLink Answer.succeeded s fun trace _ _ =>
      deliveredFrames trace = (carriedMsdus skb.data).map Msdu.frame := by
  have each : ∀ msdus : List Msdu, ∀ {t : Ieee80211}, SameLink s t →
      (Prog.forEach msdus (deliverEthernet skb)).Traces SameLink Answer.succeeded t
        fun trace _ _ => deliveredFrames trace = msdus.map Msdu.frame := by
    intro msdus t same
    have round : ∀ msdu ∈ msdus, ∀ u, SameLink s u →
        (deliverEthernet skb msdu).Traces SameLink Answer.succeeded u fun trace _ later =>
          trace = [.allocateInputPacket msdu.frame.length, .injectRxFrame skb msdu.frame] ∧
            SameLink s later := by
      intro msdu _ u same
      refine (deliverEthernet_traces skb msdu (delivers_of_sameLink delivers same).parent).mono ?_
      exact fun _ _ _ ends => ⟨ends.1, same.trans ends.2⟩
    refine (Prog.Traces.forEach round same).mono ?_
    rintro _ _ _ ⟨rfl, -⟩
    induction msdus with
    | nil => rfl
    | cons msdu rest ih =>
        exact congrArg (msdu.frame :: ·) (ih fun other member => round other (.tail _ member))
  unfold deliverDataFrame perform
  simp only [Prog.bind_eq_bind, Prog.pure_eq_ret, Prog.traces_bind, Prog.traces_await,
    Prog.traces_ret, Prog.traces_ite, Prog.traces_update, Prog.traces_when, List.append_nil]
  intro answer later granted same
  refine ⟨fun _ => (each _ same).mono fun trace _ _ ends => ends, fun single => ⟨fun carries => ?_,
    fun empty => ?_⟩⟩
  · have carried := carriedMsdus_of_single (Bool.eq_false_of_not_eq_true single)
      (of_decide_eq_true carries)
    rw [carried.2]
    refine (deliverMsdu_delivers skb (delivers_of_sameLink delivers same)).mono ?_
    exact fun trace _ _ ends => ends.1
  · rw [of_decide_eq_false empty |> not_not.mp]
    rfl

end M

/-! ## The headers of data frames -/

/-- The fields of the header of a data frame.  The QoS control and HT control fields are only sent
where the frame control field has them; the CCMP header is only there if it was not stripped. -/
structure DataHeader where
  fc : Nat
  duration : Nat
  addr1 : Bytes
  addr2 : Bytes
  addr3 : Bytes
  seqCtrl : Nat
  qosControl : Bytes
  htControl : Bytes
  ccmp : Option (Bytes × UInt8)

namespace DataHeader

variable (h : DataHeader)

def isQos : Bool := h.fc &&& stypeQosData ≠ 0

/-- The order bit. -/
def hasOrder : Bool := h.fc &&& 0x8000 ≠ 0

/-- There is an HT control field. -/
def hasHtControl : Bool := h.isQos && h.hasOrder

def isProtected : Bool := h.fc &&& fctlProtected ≠ 0

/-- The A-MSDU bit of a QoS frame. -/
def isAggregate : Bool := h.isQos && h.qosControl.byte 0 &&& 0x80 ≠ 0

/-- A data frame or a QoS data frame of the access point, with each field within its width and a
CCMP header only where the frame is protected. -/
structure WellFormed : Prop where
  fc_lt : h.fc < 65536
  isData : h.fc &&& 0x000c = ftypeData
  plain : h.fc &&& 0x0070 = 0
  fromDS : h.fc &&& (fctlToDS ||| fctlFromDS) = fctlFromDS
  seqCtrl_lt : h.seqCtrl < 65536
  length_addr1 : h.addr1.length = 6
  length_addr2 : h.addr2.length = 6
  length_addr3 : h.addr3.length = 6
  length_qosControl : h.qosControl.length = 2
  length_htControl : h.htControl.length = 4
  ccmp : ∀ pn keyidx, h.ccmp = some (pn, keyidx) → h.isProtected = true ∧ pn.length = 6

/-- The CCMP header, if it was left in the frame. -/
def sealing : Bytes :=
  h.ccmp.elim [] fun sealed => ccmpHeader sealed.1 sealed.2

/-- What stands behind the header with three addresses. -/
def body (content : Bytes) : Bytes :=
  (if h.isQos then h.qosControl else []) ++
    ((if h.hasHtControl then h.htControl else []) ++ (h.sealing ++ content))

/-- The frame with some content. -/
def frame (content : Bytes) : Bytes :=
  le16 h.fc ++ le16 h.duration ++ h.addr1 ++ h.addr2 ++ h.addr3 ++ le16 h.seqCtrl ++ h.body content

variable {h}

namespace WellFormed

variable (wellFormed : h.WellFormed) (content : Bytes)

/-- The fields with three addresses. -/
def macHeader : MacHeader where
  fc := h.fc
  duration := h.duration
  addr1 := h.addr1
  addr2 := h.addr2
  addr3 := h.addr3
  seqCtrl := h.seqCtrl
  fc_lt := wellFormed.fc_lt
  seqCtrl_lt := wellFormed.seqCtrl_lt
  length_addr1 := wellFormed.length_addr1
  length_addr2 := wellFormed.length_addr2
  length_addr3 := wellFormed.length_addr3

include wellFormed

theorem frame_eq : h.frame content = wellFormed.macHeader.bytes ++ h.body content :=
  rfl

theorem frameControl_frame : (h.frame content).frameControl = h.fc :=
  MacHeader.frameControl_append wellFormed.macHeader _

theorem addr1_frame : (h.frame content).addr1 = h.addr1 :=
  MacHeader.addr1_append wellFormed.macHeader _

theorem addr2_frame : (h.frame content).addr2 = h.addr2 :=
  MacHeader.addr2_append wellFormed.macHeader _

theorem addr3_frame : (h.frame content).addr3 = h.addr3 :=
  MacHeader.addr3_append wellFormed.macHeader _

theorem hasProtected_frame : (h.frame content).hasProtected = h.isProtected := by
  rw [Bytes.hasProtected, wellFormed.frameControl_frame, isProtected]

theorem fromDS_ne_zero : h.fc &&& fctlFromDS ≠ 0 := by
  intro clear
  have toDS : h.fc &&& fctlToDS ≤ fctlToDS := Nat.and_le_right
  have both := wellFormed.fromDS
  rw [Nat.and_or_distrib_left, clear, Nat.or_zero] at both
  rw [both] at toDS
  exact absurd toDS (by decide)

theorem hdrLen_frame : (h.frame content).hdrLen = if h.isQos then 26 else 24 := by
  have direct : ¬ h.fc &&& (fctlToDS ||| fctlFromDS) = (fctlToDS ||| fctlFromDS) := by
    rw [wellFormed.fromDS]
    decide
  rw [Bytes.hdrLen, wellFormed.frameControl_frame, isQos, if_neg direct]
  by_cases qos : h.fc &&& stypeQosData ≠ 0
  · rw [if_pos ⟨qos, wellFormed.isData⟩, if_pos (decide_eq_true qos)]
  · rw [if_neg (fun both => qos both.1), if_neg (by simpa using qos)]

/-- What is left behind the header that the driver counts: the HT control field is not counted. -/
theorem drop_hdrLen : (h.frame content).drop (h.frame content).hdrLen =
    (if h.hasHtControl then h.htControl else []) ++ (h.sealing ++ content) := by
  rw [wellFormed.hdrLen_frame, wellFormed.frame_eq, body]
  cases h.isQos with
  | true =>
      refine (MacHeader.drop_append _ _ 2).trans ?_
      exact List.drop_left' wellFormed.length_qosControl
  | false => exact MacHeader.drop_append _ _ 0

theorem isDataQos_frame : (h.frame content).isDataQos = h.isQos := by
  have bit : h.fc &&& 0x0080 = (h.fc.testBit 7).toNat * 2 ^ 7 := Nat.and_two_pow _ 7
  have qos : h.fc &&& stypeQosData = (h.fc.testBit 7).toNat * 2 ^ 7 := bit
  rw [Bytes.isDataQos, wellFormed.frameControl_frame, Nat.and_or_distrib_left, wellFormed.isData,
    isQos, bit, qos]
  cases h.fc.testBit 7 <;> rfl

theorem isAmsdu_frame : (h.frame content).isAmsdu = h.isAggregate := by
  rw [Bytes.isAmsdu, isAggregate, wellFormed.isDataQos_frame, wellFormed.hdrLen_frame]
  cases qos : h.isQos with
  | false => simp
  | true =>
      have control : (h.frame content).byte 24 = h.qosControl.byte 0 := by
        have place := wellFormed.macHeader.length_bytes
        have whole : 0 < h.qosControl.length := by
          rw [wellFormed.length_qosControl]
          decide
        rw [wellFormed.frame_eq, body, if_pos qos]
        simp [byte, place, List.getElem?_append_right, List.getElem?_append_left whole]
      simp [control]

omit wellFormed in
theorem length_sealing : h.sealing.length = if h.ccmp.isSome then 8 else 0 := by
  unfold sealing
  cases h.ccmp <;> rfl

theorem length_frame : (h.frame content).length = (h.frame content).hdrLen +
    ((if h.hasHtControl then 4 else 0) + ((if h.ccmp.isSome then 8 else 0) + content.length)) := by
  rw [wellFormed.hdrLen_frame, wellFormed.frame_eq, body]
  simp only [List.length_append, MacHeader.length_bytes, length_sealing]
  cases h.isQos <;> cases h.hasHtControl <;>
    simp [wellFormed.length_qosControl, wellFormed.length_htControl] <;> omega

omit wellFormed in
/-- A CCMP header does not start like an RFC 1042 header: its third byte is reserved. -/
theorem not_isSnap_sealing {sealed : Bytes × UInt8} (present : h.ccmp = some sealed)
    (rest : Bytes) : isSnap (h.sealing ++ rest) = false := by
  rw [sealing, present]
  exact decide_eq_false fun snap => absurd snap.2.2 (by simp [byte, ccmpHeader])

/-- Where a CCMP header is found: where one is, if LLC bytes with an RFC 1042 header follow. -/
theorem carriesCcmpIv_frame (counted : h.hasHtControl = false) (long : 8 ≤ content.length)
    (snap : content.isSnap = true) :
    (h.frame content).carriesCcmpIv = h.ccmp.isSome := by
  have rest := wellFormed.drop_hdrLen content
  have length := wellFormed.length_frame content
  rw [counted] at rest length
  rw [if_neg (by decide), List.nil_append] at rest
  cases present : h.ccmp with
  | none =>
      rw [sealing, present, Option.elim_none, List.nil_append] at rest
      refine decide_eq_false fun carries => carries.1 ?_
      rw [rest]
      exact snap
  | some sealed =>
      have isProtected := (wellFormed.ccmp _ _ present).1
      have behind : (h.frame content).drop ((h.frame content).hdrLen + 8) = content := by
        rw [← List.drop_drop, rest, sealing, present]
        rfl
      refine decide_eq_true ⟨?_, ?_, ?_, ?_⟩
      · rw [rest, not_isSnap_sealing present]
        decide
      · rw [wellFormed.hasProtected_frame, isProtected]
      · rw [length, present]
        simp
        omega
      · rw [behind]
        exact snap

/-- The LLC bytes of a frame with an RFC 1042 header. -/
theorem llc_frame (counted : h.hasHtControl = false) (long : 8 ≤ content.length)
    (snap : content.isSnap = true) : (h.frame content).llc = content := by
  have rest := wellFormed.drop_hdrLen content
  rw [counted, if_neg (by decide), List.nil_append] at rest
  rw [Bytes.llc, Bytes.payloadOffset, wellFormed.carriesCcmpIv_frame content counted long snap,
    ← List.drop_drop, rest, sealing]
  cases h.ccmp <;> rfl

/-- A single MSDU is carried in a frame that is no aggregate. -/
theorem carriedMsdus_frame (single : h.isAggregate = false) (long : 8 ≤ content.length) :
    carriedMsdus (h.frame content) = [singleMsdu (h.frame content)] := by
  have length := wellFormed.length_frame content
  rw [carriedMsdus, if_neg (by omega), wellFormed.isAmsdu_frame, single, if_neg (by decide),
    if_neg (by omega)]

end WellFormed

end DataHeader

/-! ## Decapsulation -/

/-- A data frame of the access point that carries one MSDU. -/
structure DownlinkFrame where
  header : DataHeader
  ethertype : Nat
  payload : Bytes

namespace DownlinkFrame

variable (f : DownlinkFrame)

/-- The MSDU: its destination and source are in the header. -/
def msdu : Msdu :=
  ⟨f.header.addr1, f.header.addr3, f.ethertype, f.payload⟩

/-- The frame as it is sent. -/
def bytes : Bytes :=
  f.header.frame (snapHeader f.ethertype ++ f.payload)

/-- The frame is no aggregate, and its fields are within their widths. -/
structure WellFormed : Prop where
  header : f.header.WellFormed
  single : f.header.isAggregate = false
  ethertype_lt : f.ethertype < 65536

/-- The frame is for the station, on a link that is up, without a BlockAck agreement for its
TID. -/
structure Arrives (s : Ieee80211) (skb : Skb) : Prop extends s.Delivers where
  data : skb.data = f.bytes
  toUs : f.header.addr1 = s.macAddr ∨ isMulticastEtherAddr f.header.addr1 = true
  fromAp : f.header.addr2 = s.targetBSS.bssid
  inOrder : s.reorderTid skb.data = none

/-- The stack receives the MSDU of the frame, and a CCMP header is skipped if there is one. -/
def Decapsulates : Prop :=
  ∀ s skb, f.Arrives s skb →
    ((M.processRxData skb).Traces SameLink Answer.succeeded s fun trace _ _ =>
      deliveredFrames trace = [f.msdu.frame]) ∧
    skb.data.carriesCcmpIv = f.header.ccmp.isSome

variable {f}

namespace WellFormed

variable (wellFormed : f.WellFormed)
include wellFormed

omit wellFormed in
theorem snap : 8 ≤ (snapHeader f.ethertype ++ f.payload).length ∧
    isSnap (snapHeader f.ethertype ++ f.payload) = true := by
  refine ⟨?_, rfl⟩
  rw [List.length_append]
  exact Nat.le_add_right 8 _

/-- Without an HT control field, the frame carries its MSDU. -/
theorem carriedMsdus_bytes (counted : f.header.hasHtControl = false) :
    carriedMsdus f.bytes = [f.msdu] := by
  have llc : f.bytes.llc = snapHeader f.ethertype ++ f.payload :=
    wellFormed.header.llc_frame _ counted snap.1 snap.2
  have word := be16At_be16 [0xAA, 0xAA, 0x03, 0, 0, 0] f.payload _ wellFormed.ethertype_lt
  have ethertype : (snapHeader f.ethertype ++ f.payload).llcEthertype = f.ethertype :=
    (if_pos rfl).trans word
  have addresses : f.bytes.addr1 = f.header.addr1 ∧ f.bytes.addr3 = f.header.addr3 :=
    ⟨wellFormed.header.addr1_frame _, wellFormed.header.addr3_frame _⟩
  have single : singleMsdu f.bytes = f.msdu := by
    rw [singleMsdu, llc, ethertype, addresses.1, addresses.2]
    rfl
  rw [← single]
  exact wellFormed.header.carriedMsdus_frame _ wellFormed.single snap.1

/-- With an HT control field, what the frame carries is not as long as its MSDU. -/
theorem carriedMsdus_ne (uncounted : f.header.hasHtControl = true) :
    (carriedMsdus f.bytes).map Msdu.frame ≠ [f.msdu.frame] := by
  have length : f.bytes.length = _ :=
    wellFormed.header.length_frame (snapHeader f.ethertype ++ f.payload)
  have carried : carriedMsdus f.bytes = [singleMsdu f.bytes] :=
    wellFormed.header.carriedMsdus_frame _ wellFormed.single snap.1
  have header : (snapHeader f.ethertype).length = 8 := rfl
  rw [uncounted, if_pos rfl, List.length_append, header] at length
  intro same
  rw [carried, List.map_singleton, List.singleton_inj] at same
  have lengths := congrArg List.length same
  have payload : (singleMsdu f.bytes).payload.length =
      f.bytes.length - (f.bytes.hdrLen + if f.bytes.carriesCcmpIv then 8 else 0) - 8 := by
    rw [singleMsdu, Bytes.llc, Bytes.payloadOffset, List.length_drop, List.length_drop]
  have addresses : (singleMsdu f.bytes).da = f.msdu.da ∧ (singleMsdu f.bytes).sa = f.msdu.sa :=
    ⟨wellFormed.header.addr1_frame _, wellFormed.header.addr3_frame _⟩
  have inside : f.bytes.carriesCcmpIv = true → f.bytes.hdrLen + 16 ≤ f.bytes.length :=
    fun carries => (of_decide_eq_true carries).2.2.1
  have word : ∀ number, (be16 number).length = 2 := fun _ => rfl
  have sent : f.msdu.payload.length = f.payload.length := rfl
  have hdrLen : f.bytes.hdrLen = (f.header.frame (snapHeader f.ethertype ++ f.payload)).hdrLen :=
    rfl
  rw [Msdu.frame, Msdu.frame, addresses.1, addresses.2] at lengths
  simp only [List.length_append, word, payload, sent] at lengths
  cases carries : f.bytes.carriesCcmpIv <;> cases present : f.header.ccmp.isSome <;>
    simp [carries, present] at lengths length inside <;> omega

end WellFormed

/-- The stack receives what an arriving frame carries. -/
theorem Arrives.delivers (wellFormed : f.WellFormed) {s : Ieee80211} {skb : Skb}
    (arrives : f.Arrives s skb) :
    (M.processRxData skb).Traces SameLink Answer.succeeded s fun trace _ _ =>
      deliveredFrames trace = (carriedMsdus f.bytes).map Msdu.frame := by
  have receives : s.receivesData = true := by
    simp [Ieee80211.receivesData, Ieee80211.connectedOrScanning, arrives.connected]
  have fromDS : f.bytes.frameControl &&& fctlFromDS ≠ 0 := by
    rw [bytes, wellFormed.header.frameControl_frame]
    exact wellFormed.header.fromDS_ne_zero
  have addr1 : f.bytes.addr1 = f.header.addr1 := wellFormed.header.addr1_frame _
  have addr2 : f.bytes.addr2 = f.header.addr2 := wellFormed.header.addr2_frame _
  have fromOurAp : s.fromOurAp skb.data = true := by
    rw [arrives.data]
    refine decide_eq_true ⟨fromDS, ?_, ?_⟩
    · rw [addr1]
      exact arrives.toUs
    · exact addr2.trans arrives.fromAp
  have direct := M.deliverDataFrame_delivers skb arrives.toDelivers
  rw [arrives.data] at direct
  unfold M.processRxData
  simp only [Prog.bind_eq_bind, Prog.traces_bind, Prog.traces_fetch, receives, fromOurAp,
    arrives.inOrder, List.nil_append]
  exact direct

/-- A station for which the frame arrives. -/
def receiver (f : DownlinkFrame) : Ieee80211 :=
  { Ieee80211.started Scenario.attachment with
    state := .connected
    macAddr := f.header.addr1
    targetBSS := { Bss.empty with bssid := f.header.addr2 } }

end DownlinkFrame

/-- A frame as the hardware hands it over. -/
def Skb.ofData (data : Bytes) : Skb where
  id := 0
  data := data
  signal := 0
  freq := 0
  band := 0

namespace DownlinkFrame

variable {f : DownlinkFrame}

theorem arrives_receiver (f : DownlinkFrame) : f.Arrives f.receiver (.ofData f.bytes) := by
  refine ⟨⟨rfl, rfl⟩, rfl, .inl rfl, rfl, ?_⟩
  unfold Ieee80211.reorderTid
  split
  · rfl
  · rfl

/-- With an HT control field, the MSDU is not what the stack receives. -/
theorem not_decapsulates (wellFormed : f.WellFormed) (uncounted : f.header.hasHtControl = true) :
    ¬ f.Decapsulates := by
  intro decapsulates
  have arrives := f.arrives_receiver
  have both := (decapsulates _ _ arrives).1.and (arrives.delivers wellFormed)
  have same := both.run_nil SameLink.refl rfl
  exact wellFormed.carriedMsdus_ne uncounted (same.2.symm.trans same.1)

/-- The driver gets the MSDU out of a data frame if and only if the frame has no HT control
field. -/
theorem decapsulates_iff (f : DownlinkFrame) (wellFormed : f.WellFormed) :
    f.Decapsulates ↔ ¬ (f.header.isQos = true ∧ f.header.hasOrder = true) := by
  rw [← Bool.and_eq_true, Bool.not_eq_true]
  constructor
  · intro decapsulates
    by_contra uncounted
    exact not_decapsulates wellFormed (Bool.eq_true_of_not_eq_false uncounted) decapsulates
  · intro counted s skb arrives
    constructor
    · have carried := wellFormed.carriedMsdus_bytes counted
      have delivers := arrives.delivers wellFormed
      rw [carried] at delivers
      exact delivers
    · rw [arrives.data]
      exact wellFormed.header.carriesCcmpIv_frame _ counted WellFormed.snap.1 WellFormed.snap.2

end DownlinkFrame

namespace Scenario

/-- The header of a frame from the access point with this frame control field. -/
def downlinkHeader (fc : Nat) (qosControl : Bytes) : DataHeader where
  fc := fc
  duration := 0
  addr1 := ownAddr
  addr2 := apAddr
  addr3 := apAddr
  seqCtrl := 0
  qosControl := qosControl
  htControl := [0, 0, 0, 0]
  ccmp := none

theorem wellFormed_downlinkHeader {fc : Nat} {qosControl : Bytes} (small : fc < 65536)
    (isData : fc &&& 0x000c = ftypeData) (plain : fc &&& 0x0070 = 0)
    (fromDS : fc &&& (fctlToDS ||| fctlFromDS) = fctlFromDS) (whole : qosControl.length = 2) :
    (downlinkHeader fc qosControl).WellFormed :=
  ⟨small, isData, plain, fromDS, show 0 < 65536 by decide, rfl, rfl, rfl, whole, rfl, nofun⟩

/-- An IPv4 packet in a QoS data frame with this frame control field. -/
def downlink (fc : Nat) : DownlinkFrame where
  header := downlinkHeader fc [0, 0]
  ethertype := 0x0800
  payload := [0x45]

end Scenario

theorem decapsulates_downlink :
    (Scenario.downlink 0x0288).Decapsulates ↔
      ¬ ((Scenario.downlink 0x0288).header.isQos = true ∧
        (Scenario.downlink 0x0288).header.hasOrder = true) :=
  DownlinkFrame.decapsulates_iff _
    ⟨Scenario.wellFormed_downlinkHeader (by decide) (by decide) (by decide) (by decide) rfl,
      by decide, by decide⟩

/-- A QoS data frame with an HT control field is not decapsulated. -/
theorem not_always_decapsulates : ¬ ∀ f : DownlinkFrame, f.WellFormed → f.Decapsulates := by
  intro decapsulates
  have wellFormed : (Scenario.downlink 0x8288).WellFormed :=
    ⟨Scenario.wellFormed_downlinkHeader (by decide) (by decide) (by decide) (by decide) rfl,
      by decide, by decide⟩
  exact DownlinkFrame.not_decapsulates wellFormed (by decide) (decapsulates _ wellFormed)

end AirportRtw88
