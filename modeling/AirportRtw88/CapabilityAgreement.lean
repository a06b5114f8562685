import AirportRtw88.AssocRequest
import AirportRtw88.ConnectedChannel
import AirportRtw88.Interleave.History
import AirportRtw88.Link

/-!
# The capabilities of a connection

The association request tells the access point what the station can do, and the peer station tells
the driver.  The two agree if the channel of the target was programmed and the fields of the band
table fit their places in the element.
-/

namespace AirportRtw88

open Interleave Bytes InfoElements

/-! ## Reading the request -/

/-- The body of the first element with an identifier. -/
def findElement (id : UInt8) : Nat → Bytes → Option Bytes
  | 0, _ => none
  | fuel + 1, rest =>
      if rest.length < 2 then none
      else
        let len := (rest.byte 1).toNat
        if 2 + len > rest.length then none
        else if rest.byte 0 = id then some (rest.slice 2 len)
        else findElement id fuel (rest.drop (2 + len))

/-- The body of the first element with an identifier in an association request. -/
def requestElement (id : UInt8) (frame : Bytes) : Option Bytes :=
  findElement id (frame.length + 1) (frame.drop 28)

/-- The fields of an HT Capabilities element. -/
def decodeHtCap (body : Bytes) : HtCap where
  cap := body.le16At 0
  htSupported := true
  ampduFactor := (body.byte 2).toNat % 4
  ampduDensity := (body.byte 2).toNat / 4 % 8
  rxMask := body.slice 3 10
  rxHighest := body.le16At 13
  txParams := (body.byte 15).toNat

theorem findElement_finds (id : UInt8) :
    Finds (findElement id) fun element => if element.id = id then some element.body else none where
  stop fuel tail truncated := by
    rw [findElement]
    by_cases short : List.length tail < 2
    · rw [if_pos short]
    · rw [if_neg short, if_pos]
      exact truncated.resolve_left short
  next fuel element rest := by
    have long : 2 + element.body.length ≤ (element.encode ++ rest).length := by
      rw [List.length_append, element.length_encode]
      omega
    obtain ⟨first, length⟩ := byte_encode element rest
    rw [findElement, if_neg (by omega)]
    simp only [first, length, slice_encode, drop_encode]
    rw [if_neg (by omega)]
    split <;> rfl

/-! ## The elements of the request -/

/-- A reader of these elements finds this under an identifier. -/
def Reads (id : UInt8) (bytes : Bytes) (found : Option Bytes) : Prop :=
  ∃ elements, bytes = encodeAll elements ∧
    elements.findSome? (fun element => if element.id = id then some element.body else none) = found

theorem Reads.append {id : UInt8} {bytes others : Bytes} {found next : Option Bytes}
    (first : Reads id bytes found) (second : Reads id others next) :
    Reads id (bytes ++ others) (found.or next) := by
  obtain ⟨elements, rfl, rfl⟩ := first
  obtain ⟨more, rfl, rfl⟩ := second
  exact ⟨elements ++ more, (encodeAll_append elements more).symm, List.findSome?_append⟩

theorem Lacks.reads {ids : List UInt8} {bytes : Bytes} (lacks : Lacks ids bytes) {id : UInt8}
    (among : id ∈ ids) : Reads id bytes none := by
  obtain ⟨elements, rfl, absent⟩ := lacks
  refine ⟨elements, rfl, List.findSome?_eq_none_iff.mpr fun element member => if_neg ?_⟩
  rintro rfl
  exact absent element member among

theorem reads_element (id : UInt8) {length : UInt8} {body : Bytes}
    (counted : length.toNat = body.length) : Reads id (id :: length :: body) (some body) := by
  have short : body.length < 256 := counted ▸ length.toNat_lt
  refine ⟨[⟨id, body, short⟩], ?_, ?_⟩
  · rw [encodeAll_cons, encodeAll_nil, List.append_nil, Element.encode, ← counted,
      UInt8.ofNat_toNat]
  · simp

theorem Reads.requestElement {id : UInt8} {frame : Bytes} {found : Option Bytes}
    (reads : Reads id (frame.drop 28) found) : requestElement id frame = found := by
  obtain ⟨elements, split, rfl⟩ := reads
  have few : elements.length < frame.length + 1 := by
    have least := length_le_encodeAll elements
    rw [← split, List.length_drop] at least
    omega
  have read := (findElement_finds id).eq_findSome truncated_nil few
  rw [List.append_nil, ← split] at read
  exact read

namespace Ieee80211

/-- The HT Capabilities of the band that are sent. -/
def sentHt (s : Ieee80211) : Option HtCap :=
  (s.targetSupportedBand.filter fun sb => s.htAllowed ∧ sb.htCap.htSupported).map
    SupportedBand.htCap

section

variable {s : Ieee80211} (arrays : s.AssocArrays)
include arrays

theorem AssocArrays.reads_ht : Reads eidHtCapability s.assocHt
    (s.sentHt.map fun ht => (htCapabilityIe ht s.connChanWidth).drop 2) := by
  rw [assocHt, sentHt]
  cases sent : s.targetSupportedBand.filter fun sb => s.htAllowed ∧ sb.htCap.htSupported with
  | none => exact (lacks_nil [eidHtCapability]).reads List.mem_cons_self
  | some sb =>
      have mask := arrays.rxMask sb (Option.filter_eq_some_iff.mp sent).1
      have total := length_htCapabilityIe mask s.connChanWidth
      simp only [Option.elim_some, Option.map_some, htCapabilityIe, List.cons_append,
        List.nil_append, List.append_assoc, List.length_cons, List.drop_succ_cons,
        List.drop_zero] at total ⊢
      apply reads_element
      exact (Nat.succ.inj (Nat.succ.inj total)).symm

omit arrays in
theorem reads_vht (s : Ieee80211) : ∃ found : Option Bytes,
    Reads eidVhtCapability s.assocVht found ∧ found.isSome = s.sendsVht := by
  rw [assocVht, sendsVht]
  cases s.targetSupportedBand with
  | none => exact ⟨none, (lacks_nil [eidVhtCapability]).reads List.mem_cons_self, rfl⟩
  | some sb =>
      by_cases sent : s.htAllowed ∧ s.targets5g ∧ sb.vhtCap.vhtSupported
      · have counted : (12 : UInt8).toNat = ((vhtCapabilityIe sb.vhtCap).drop 2).length := rfl
        have read := reads_element eidVhtCapability counted
        refine ⟨some ((vhtCapabilityIe sb.vhtCap).drop 2), ?_, by simp [sent]⟩
        rw [Option.filter, if_pos (decide_eq_true sent)]
        exact read
      · refine ⟨none, ?_, by simp only [Option.any_some, sent, decide_false]; rfl⟩
        rw [Option.filter, if_neg (by simp only [sent, decide_false]; decide)]
        exact (lacks_nil [eidVhtCapability]).reads List.mem_cons_self

omit arrays in
theorem lacks_assocRsn (s : Ieee80211) : Lacks [eidHtCapability, eidVhtCapability] s.assocRsn := by
  rcases s.assocRsn_cases with ⟨-, empty⟩ | ⟨-, element, same, bytes, -⟩
  · rw [empty]
    exact lacks_nil _
  · refine ⟨[element], bytes, fun other member => ?_⟩
    rw [List.mem_singleton.mp member, same]
    decide

/-- What the access point reads of the optional elements is what they contain. -/
theorem AssocArrays.requestElement_eq {id : UInt8}
    (among : id ∈ [eidHtCapability, eidVhtCapability])
    {ht vht : Option Bytes} (readsHt : Reads id s.assocHt ht) (readsVht : Reads id s.assocVht vht) :
    requestElement id s.assocReq = ht.or vht := by
  have basics : Reads id s.assocBasics none :=
    arrays.lacks_basics.reads (List.mem_cons_of_mem eidRsn among)
  have wme : Reads id wmeInfo none := by
    have lacks : Lacks [eidHtCapability, eidVhtCapability] wmeInfo := lacks_wmeInfo (by decide)
    exact lacks.reads among
  have rsn : Reads id s.assocRsn none := s.lacks_assocRsn.reads among
  have whole := (((basics.append readsHt).append readsVht).append wme).append rsn
  simp only [Option.none_or, Option.or_none] at whole
  apply Reads.requestElement
  rwa [arrays.drop_assocReq, assocFront]

/-- The HT Capabilities that the access point reads. -/
theorem AssocArrays.requestElement_ht : requestElement eidHtCapability s.assocReq =
    s.sentHt.map fun ht => (htCapabilityIe ht s.connChanWidth).drop 2 := by
  have vht : Lacks [eidHtCapability] s.assocVht := lacks_vht (by decide) s
  rw [arrays.requestElement_eq (by decide) arrays.reads_ht (vht.reads List.mem_cons_self),
    Option.or_none]

/-- The access point reads VHT Capabilities if they are sent. -/
theorem AssocArrays.requestElement_vht :
    (requestElement eidVhtCapability s.assocReq).isSome = s.sendsVht := by
  obtain ⟨found, read, sent⟩ := s.reads_vht
  have ht : Lacks [eidVhtCapability] s.assocHt := arrays.lacks_ht (by decide)
  rw [arrays.requestElement_eq (by decide) (ht.reads List.mem_cons_self) read, Option.none_or, sent]

end

end Ieee80211

/-! ## Agreement -/

/-- The capability bits of 40 MHz operation. -/
def htCap40Bits : Nat :=
  htCapSupWidth20_40 ||| htCapSgi40 ||| htCapDsssCck40

/-- The bandwidth of a station for a width. -/
def ChanWidth.rxBandwidth : ChanWidth → Nat
  | .width20NoHt => 0
  | .width40 => 1
  | .width80 => 2

/-- The peer station has the capabilities that the request advertised, and the bandwidth of the
programmed channel. -/
structure CapabilitiesAgree (frame : Bytes) (sta : Sta) (chandef : Chandef) : Prop where
  ht : (requestElement eidHtCapability frame).map decodeHtCap =
    if sta.htCap.htSupported then some sta.htCap else none
  vht : (requestElement eidVhtCapability frame).isSome = sta.vhtCap.vhtSupported
  wide : sta.htCap.cap &&& htCap40Bits ≠ 0 → 40 ≤ chandef.width.mhz
  bandwidth : sta.bandwidth = chandef.width.rxBandwidth

namespace Ieee80211

/-- The sizes of the arrays and of the 16-bit fields, and the widths that `_connChanWidth` takes. -/
structure CapabilityFields (s : Ieee80211) : Prop extends s.AssocArrays where
  cap : ∀ sb, s.targetSupportedBand = some sb →
    sb.htCap.cap < 65536 ∧ sb.htCap.rxHighest < 65536
  width : ∃ width : ChanWidth, s.connChanWidth = width.mhz

/-- The fields of the band table fit their places in the element. -/
def HtFits (s : Ieee80211) : Prop :=
  ∀ ht, s.sentHt = some ht → ht.ampduFactor < 4 ∧ ht.ampduDensity < 8 ∧ ht.txParams < 256

end Ieee80211

theorem narrow_lt {cap : Nat} (small : cap < 65536) : HtCap.narrow cap < 65536 :=
  Nat.lt_of_le_of_lt Nat.and_le_left small

theorem narrow_and_bits (cap : Nat) : HtCap.narrow cap &&& htCap40Bits = 0 := by
  have apart : (0xFFFF ^^^ (htCapSupWidth20_40 ||| htCapSgi40 ||| htCapDsssCck40)) &&&
      htCap40Bits = 0 := by decide
  rw [HtCap.narrow, Nat.and_assoc, apart, Nat.and_zero]

/-- The A-MPDU parameters of the element. -/
theorem ampduParameters (factor density : Nat) :
    (UInt8.ofNat ((factor &&& 0x3) ||| ((density &&& 0x7) <<< 2))).toNat =
      factor % 4 + 4 * (density % 8) := by
  have low : factor &&& 0x3 = factor % 4 := Nat.and_two_pow_sub_one_eq_mod factor 2
  have high : density &&& 0x7 = density % 8 := Nat.and_two_pow_sub_one_eq_mod density 3
  have small : factor % 4 < 2 ^ 2 := Nat.mod_lt _ (by decide)
  rw [low, high, Nat.or_comm, ← Nat.shiftLeft_add_eq_or_of_lt small, Nat.shiftLeft_eq,
    UInt8.toNat_ofNat']
  omega

/-- What the access point decodes. -/
theorem decodeHtCap_htCapabilityIe {ht : HtCap} (mask : ht.rxMask.length = 10)
    (cap : ht.cap < 65536) (highest : ht.rxHighest < 65536) (width : Nat) :
    decodeHtCap ((htCapabilityIe ht width).drop 2) =
      { ht with
        cap := if width < 40 then HtCap.narrow ht.cap else ht.cap
        htSupported := true
        ampduFactor := ht.ampduFactor % 4
        ampduDensity := ht.ampduDensity % 8
        txParams := ht.txParams % 256 } := by
  let sent := if width < 40 then HtCap.narrow ht.cap else ht.cap
  let parameters := UInt8.ofNat ((ht.ampduFactor &&& 0x3) ||| ((ht.ampduDensity &&& 0x7) <<< 2))
  let rest := le16 ht.rxHighest ++ ([UInt8.ofNat ht.txParams] ++ zeros 10)
  have small : sent < 65536 := by
    simp only [sent]
    split
    · exact narrow_lt cap
    · exact cap
  have body : (htCapabilityIe ht width).drop 2 =
      le16 sent ++ ([parameters] ++ (ht.rxMask ++ rest)) := by
    have whole : ht.rxMask.take 10 = ht.rxMask := List.take_of_length_le mask.le
    simp only [htCapabilityIe, whole, List.append_assoc]
    rfl
  have first : Bytes.le16At ((htCapabilityIe ht width).drop 2) 0 = sent := by
    rw [body]
    exact le16At_le16 [] _ sent small
  have second : Bytes.byte ((htCapabilityIe ht width).drop 2) 2 = parameters := by
    rw [body]
    rfl
  have rates : Bytes.slice ((htCapabilityIe ht width).drop 2) 3 10 = ht.rxMask := by
    rw [body, slice, ← mask]
    exact List.take_left
  have front : (le16 sent ++ ([parameters] ++ ht.rxMask)).length = 13 := by
    simp [le16, mask]
  have split : (htCapabilityIe ht width).drop 2 =
      (le16 sent ++ ([parameters] ++ ht.rxMask)) ++ rest := by
    rw [body]
    simp only [List.append_assoc]
  have third : Bytes.le16At ((htCapabilityIe ht width).drop 2) 13 = ht.rxHighest := by
    rw [split, ← front]
    exact le16At_le16 _ _ _ highest
  have last : Bytes.byte ((htCapabilityIe ht width).drop 2) 15 = UInt8.ofNat ht.txParams := by
    rw [split, byte, List.getD_eq_getElem?_getD, List.getElem?_append_right (by omega), front]
    rfl
  have factor : parameters.toNat % 4 = ht.ampduFactor % 4 := by
    rw [ampduParameters]
    omega
  have density : parameters.toNat / 4 % 8 = ht.ampduDensity % 8 := by
    rw [ampduParameters]
    omega
  rw [decodeHtCap, first, second, rates, third, last, factor, density, UInt8.toNat_ofNat']

/-! ## The station of one state -/

namespace Ieee80211

/-- What decides the capabilities of a connection. -/
def tuning (s : Ieee80211) : Bss × Bytes × Option Hw × Nat :=
  (s.targetBSS, s.macAddr, s.hw, s.connChanWidth)

/-- The target and the tables of the chip. -/
def surroundings (s : Ieee80211) : Bss × Bytes × Option (List (Option SupportedBand)) :=
  (s.targetBSS, s.macAddr, s.hw.map Hw.bands)

section

variable {s t : Ieee80211} (same : t.surroundings = s.surroundings)
include same

theorem htAllowed_of_surroundings : t.htAllowed = s.htAllowed := by
  simp only [surroundings, Prod.mk.injEq] at same
  rw [htAllowed, htAllowed, same.1]

theorem targetBand_of_surroundings : t.targetBand = s.targetBand := by
  simp only [surroundings, Prod.mk.injEq] at same
  rw [targetBand, targetBand, same.1]

theorem targetSupportedBand_of_surroundings : t.targetSupportedBand = s.targetSupportedBand := by
  rw [targetSupportedBand, targetSupportedBand, targetBand_of_surroundings same]
  simp only [surroundings, Prod.mk.injEq] at same
  obtain ⟨-, -, tables⟩ := same
  cases first : t.hw <;> cases second : s.hw <;> simp_all

theorem targetChannel_of_surroundings : t.targetChannel = s.targetChannel := by
  simp only [surroundings, Prod.mk.injEq] at same
  obtain ⟨target, -, tables⟩ := same
  rw [targetChannel, targetChannel, findChannel, findChannel, target]
  cases first : t.hw <;> cases second : s.hw <;> simp_all

theorem operating_of_surroundings (chan : Channel) : t.operating chan = s.operating chan := by
  rw [operating, operating, htAllowed_of_surroundings same,
    targetSupportedBand_of_surroundings same]
  simp only [surroundings, Prod.mk.injEq] at same
  rw [same.1]

theorem htFits_of_surroundings : t.HtFits ↔ s.HtFits := by
  rw [HtFits, HtFits, sentHt, sentHt, htAllowed_of_surroundings same,
    targetSupportedBand_of_surroundings same]

/-- The sizes stay, and the width is one of the three. -/
theorem CapabilityFields.of_surroundings (fields : s.CapabilityFields)
    (width : ∃ width : ChanWidth, t.connChanWidth = width.mhz) : t.CapabilityFields := by
  have band := targetSupportedBand_of_surroundings same
  simp only [surroundings, Prod.mk.injEq] at same
  obtain ⟨target, mac, -⟩ := same
  constructor
  case toAssocArrays =>
    constructor
    · exact mac ▸ fields.mac
    · exact target ▸ fields.bssid
    · exact target ▸ fields.ssid
    · exact target ▸ fields.ssidLen
    · exact band ▸ fields.rxMask
  case cap => exact band ▸ fields.cap
  case width => exact width

end

section

variable {s t : Ieee80211} (same : t.tuning = s.tuning)
include same

theorem surroundings_of_tuning : t.surroundings = s.surroundings := by
  simp only [tuning, Prod.mk.injEq] at same
  rw [surroundings, surroundings, same.1, same.2.1, same.2.2.1]

theorem newSta_of_tuning (aid : Nat) : t.newSta aid = s.newSta aid := by
  have around := surroundings_of_tuning same
  simp only [tuning, Prod.mk.injEq] at same
  simp only [newSta, targetBand_of_surroundings around, htAllowed_of_surroundings around,
    targetSupportedBand_of_surroundings around, same.1, same.2.2.2]

end

section

variable {s : Ieee80211} (fields : s.CapabilityFields)
include fields

/-- The HT capabilities of the station are those that the access point reads if they fit. -/
theorem CapabilityFields.ht_iff (aid : Nat) :
    ((requestElement eidHtCapability s.assocReq).map decodeHtCap =
        if (s.newSta aid).htCap.htSupported then some (s.newSta aid).htCap else none) ↔
      s.HtFits := by
  rw [fields.requestElement_ht, HtFits, Option.map_map, newSta, sentHt]
  cases table : s.targetSupportedBand with
  | none => simp [HtCap.none]
  | some sb =>
      by_cases sent : s.htAllowed = true ∧ sb.htCap.htSupported = true
      · have decoded := decodeHtCap_htCapabilityIe (fields.rxMask sb table) (fields.cap sb table).1
          (fields.cap sb table).2 s.connChanWidth
        have factor : sb.htCap.ampduFactor % 4 = sb.htCap.ampduFactor ↔
            sb.htCap.ampduFactor < 4 := by
          omega
        have density : sb.htCap.ampduDensity % 8 = sb.htCap.ampduDensity ↔
            sb.htCap.ampduDensity < 8 := by
          omega
        have params : sb.htCap.txParams % 256 = sb.htCap.txParams ↔ sb.htCap.txParams < 256 := by
          omega
        simp [Option.filter, sent.1, sent.2, decoded, factor, density, params]
      · by_cases allowed : s.htAllowed = true
        · have absent : sb.htCap.htSupported = false := by simpa [allowed] using sent
          simp [Option.filter, allowed, absent]
        · simp [Option.filter, allowed, HtCap.none]

/-- The VHT capabilities of the station are there if they are sent. -/
theorem CapabilityFields.vht (aid : Nat) :
    (requestElement eidVhtCapability s.assocReq).isSome = (s.newSta aid).vhtCap.vhtSupported := by
  rw [fields.requestElement_vht, sendsVht, newSta, targetBand, targets5g]
  cases s.targetSupportedBand with
  | none => rfl
  | some sb =>
      by_cases allowed : s.htAllowed = true <;> by_cases high : s.targetBSS.channel > 14 <;>
        simp [Option.filter, allowed, high, VhtCap.none]

/-- A channel definition has the bandwidth of the station if it has the recorded width. -/
theorem CapabilityFields.bandwidth_iff (aid : Nat) (width : ChanWidth) :
    (s.newSta aid).bandwidth = width.rxBandwidth ↔ s.connChanWidth = width.mhz := by
  obtain ⟨recorded, same⟩ := fields.width
  have station : (s.newSta aid).bandwidth =
      if s.connChanWidth = 80 then 2 else if s.connChanWidth = 40 then 1 else 0 := rfl
  rw [station, same]
  cases recorded <;> cases width <;> decide

/-- The capabilities agree if they fit and the recorded width is that of the channel. -/
theorem CapabilityFields.agree_iff (aid : Nat) (chandef : Chandef) :
    CapabilitiesAgree s.assocReq (s.newSta aid) chandef ↔
      s.HtFits ∧ s.connChanWidth = chandef.width.mhz := by
  constructor
  · intro agree
    exact ⟨(fields.ht_iff aid).mp agree.ht, (fields.bandwidth_iff aid _).mp agree.bandwidth⟩
  · rintro ⟨fits, recorded⟩
    have bandwidth := (fields.bandwidth_iff aid chandef.width).mpr recorded
    refine ⟨(fields.ht_iff aid).mpr fits, fields.vht aid, fun wide => ?_, bandwidth⟩
    by_contra narrow
    apply wide
    have small : s.connChanWidth < 40 := by omega
    rw [newSta]
    cases s.targetSupportedBand.filter fun _ => s.htAllowed with
    | none => exact Nat.zero_and _
    | some sb =>
        simp only [Option.elim_some, if_pos small]
        exact narrow_and_bits sb.htCap.cap

end

/-- The channel of the target is programmed, if the chip has it. -/
def programTarget (s : Ieee80211) : Ieee80211 :=
  s.targetChannel.elim s s.setConnectedChandef

end Ieee80211

/-! ## The functions of a connection -/

/-- The functions whose calls are interleaved. -/
inductive ConnectOp : Type where
  | doAuthenticate
  | doAssociate
  | processAssocResponse (skb : Skb)
  deriving DecidableEq

def ConnectOp.program : ConnectOp → M Unit
  | .doAuthenticate => M.doAuthenticate
  | .doAssociate => M.doAssociate
  | .processAssocResponse skb => M.processAssocResponse skb

/-- The functions that connect to one target, called at any time and from any thread. -/
def connecting : System Ieee80211 Call Answer ConnectOp Unit where
  program := ConnectOp.program
  enabled _ _ := True
  ready _ _ := True

instance (op : ConnectOp) (s : Ieee80211) : Decidable (connecting.enabled op s) :=
  inferInstanceAs (Decidable True)

instance (call : Call) (s : Ieee80211) : Decidable (connecting.ready call s) :=
  inferInstanceAs (Decidable True)

abbrev ConnectConfig : Type := Config Ieee80211 Call Answer ConnectOp Unit
abbrev ConnectMove : Type := Move Call Answer ConnectOp Unit

/-- The last association request. -/
def noteRequest (move : ConnectMove) (_ : Ieee80211) (last : Option Bytes) : Option Bytes :=
  match move.stop with
  | .waits (.tx .associate skb) => some skb.data
  | _ => last

/-- In the runs of allowed turns, the capabilities agree under a condition on the first state
whenever a station is registered after a request. -/
def CapabilitiesMatch (allows : Turn Answer ConnectOp → Ieee80211 → Prop)
    (condition : Ieee80211 → Prop) (s : Ieee80211) (config : ConnectConfig)
    (last : Option Bytes) : Prop :=
  s.CapabilityFields → connecting.Noted noteRequest allows (⟨s, []⟩, none) (config, last) →
    ∀ next move config' request sta hw, allows next config.state →
      connecting.turn config next = some (move, config') → last = some request →
      move.stop = .waits (.staAdd sta) → config'.state.hw = some hw →
      (CapabilitiesAgree request sta hw.chandef ↔ condition s)

/-- Association starts when the channel of the target has been programmed. -/
def AfterProgramming (next : Turn Answer ConnectOp) (s : Ieee80211) : Prop :=
  ∀ answers, next = .start .doAssociate answers → s.programTarget.tuning = s.tuning

/-- The fields of the band table fit, and the chip has the channel of the target or the recorded
width is still that of the channel it is tuned to. -/
def Ieee80211.CanAgree (s : Ieee80211) : Prop :=
  s.HtFits ∧ (s.targetChannel.isSome ∨
    ∀ hw, s.hw = some hw → s.connChanWidth = hw.chandef.width.mhz)

/-! ## Programming the channel -/

namespace Ieee80211

theorem tuning_setConnectedChandef (s : Ieee80211) (chan : Channel) :
    (s.setConnectedChandef chan).tuning =
      (s.targetBSS, s.macAddr,
        s.hw.map fun hw => { hw with
          chandef := ⟨some chan, (s.operating chan).width, (s.operating chan).centerFreq1⟩ },
        (s.operating chan).mhz) :=
  rfl

/-- Programming depends on the tuning alone. -/
theorem programTarget_of_tuning {s t : Ieee80211} (same : t.tuning = s.tuning) :
    t.programTarget.tuning = s.programTarget.tuning := by
  have around := surroundings_of_tuning same
  rw [programTarget, programTarget, targetChannel_of_surroundings around]
  cases s.targetChannel with
  | none => exact same
  | some chan =>
      simp only [tuning, Prod.mk.injEq] at same
      simp only [Option.elim_some, tuning_setConnectedChandef, operating_of_surroundings around,
        same.1, same.2.1, same.2.2.1]

theorem surroundings_setConnectedChandef (s : Ieee80211) (chan : Channel) :
    (s.setConnectedChandef chan).surroundings = s.surroundings := by
  simp only [surroundings, setConnectedChandef, modifyChandef, Option.map_map, Prod.mk.injEq]
  exact ⟨trivial, trivial, rfl⟩

/-- A second programming changes nothing. -/
theorem programTarget_programTarget (s : Ieee80211) :
    s.programTarget.programTarget.tuning = s.programTarget.tuning := by
  cases known : s.targetChannel with
  | none =>
      have idle : s.programTarget = s := by rw [programTarget, known]; rfl
      rw [idle, idle]
  | some chan =>
      have programs : s.programTarget = s.setConnectedChandef chan := by
        rw [programTarget, known]
        rfl
      have around := s.surroundings_setConnectedChandef chan
      have again := (targetChannel_of_surroundings around).trans known
      rw [programs, programTarget, again]
      simp only [Option.elim_some, tuning_setConnectedChandef, operating_of_surroundings around]
      simp only [setConnectedChandef, modifyChandef, Option.map_map]
      rfl

end Ieee80211

/-! ## The steps -/

/-- The requests of a function: an association request is that of the moment, and so is a station
that is registered. -/
def ConnectOp.Calls (op : ConnectOp) (call : Call) (s : Ieee80211) : Prop :=
  match call with
  | .tx .associate skb =>
      op = .doAssociate ∧ ∃ t : Ieee80211, t.tuning = s.tuning ∧ skb.data = t.assocReq
  | .staAdd sta => ∃ aid, sta = s.newSta aid
  | _ => True

/-- What the functions of a connection have in common: the tuning changes only to that of the
target. -/
def tuned (op : ConnectOp) : Discipline Ieee80211 Call Answer where
  ready := connecting.ready
  stable _ := True
  keeps _ before after := after.tuning = before.tuning ∨ after.tuning = before.programTarget.tuning
  calls := op.Calls
  refl := fun _ _ => .inl rfl
  trans := by
    rintro _ first second third (early | early) (late | late)
    · exact .inl (late.trans early)
    · exact .inr (late.trans (Ieee80211.programTarget_of_tuning early))
    · exact .inr (late.trans early)
    · have again := Ieee80211.programTarget_of_tuning early
      exact .inr (late.trans (again.trans first.programTarget_programTarget))
  respected := fun _ _ _ => trivial
  preserved := fun _ _ _ _ _ => trivial

namespace M

open Ieee80211 Prog

abbrev IsTuned {α : Type} (op : ConnectOp) (program : M α) : Prop :=
  program.Upholds (tuned op)

variable {op : ConnectOp}

theorem isTuned_update {change : Ieee80211 → Ieee80211}
    (same : ∀ s, (change s).tuning = s.tuning) : IsTuned op (Prog.update change) :=
  .update fun _ s _ => .inl (same s)

theorem isTuned_perform {call : Call} (calls : ∀ s, op.Calls call s) :
    IsTuned op (perform call) :=
  .bind (.await fun s _ => calls s) fun _ => .ret ()

theorem isTuned_succeeds : IsTuned op succeeds :=
  .bind .choose fun _ => .ret _

theorem authenticationCancelled_isTuned (check : CancelCheck) :
    IsTuned op (authenticationCancelled check) :=
  .bind .fetch fun _ => .bind (isTuned_perform fun _ => trivial) fun _ => .ret _

theorem driverScanning_isTuned : IsTuned op driverScanning :=
  .bind .choose fun _ => .ret _

theorem txMgmtFrame_isTuned {site : TxSite} (frame : Bytes) (other : site ≠ .associate) :
    IsTuned op (txMgmtFrame site frame) := by
  have calls : ∀ skb s, op.Calls (.tx site skb) s := by
    intro skb s
    cases site
    case associate => exact absurd rfl other
    all_goals exact trivial
  refine .bind .fetch fun s => .ite (.ret _) (.bind isTuned_succeeds fun built => ?_)
  refine .ite (.ret _) (.bind (.bind (isTuned_update fun _ => rfl) fun _ => ?_) fun _ => .ret _)
  exact isTuned_perform (calls _)

/-! ## Authentication -/

theorem waitForDriver_isTuned (rounds : Nat) : IsTuned op (waitForDriver rounds) := by
  induction rounds with
  | zero => exact .ret _
  | succ rounds ih =>
      refine .bind (authenticationCancelled_isTuned _) fun cancelled => .ite (.ret _) ?_
      refine .bind driverScanning_isTuned fun scanning => .ite ?_ (.ret _)
      exact .bind (isTuned_perform fun _ => trivial) fun _ => ih

theorem sendAuthentication_isTuned (frame : Bytes) : IsTuned op (sendAuthentication frame) := by
  refine .bind (authenticationCancelled_isTuned _) fun cancelled => .when ?_
  refine .bind (txMgmtFrame_isTuned frame nofun) fun _ => ?_
  refine .bind (authenticationCancelled_isTuned _) fun cancelled => .bind .fetch fun s => .when ?_
  exact isTuned_update fun _ => rfl

/-- The channel that is programmed is that of the target. -/
theorem programsTarget_isTuned {rest : Ieee80211 → M Unit} (goesOn : ∀ s, IsTuned op (rest s)) :
    IsTuned op (Prog.fetch.bind fun s =>
      (Prog.whenSome s.targetChannel fun chan =>
        Prog.update fun s => s.setConnectedChandef chan).bind fun _ => rest s) := by
  refine ⟨fun resumed => ⟨fun start now _ kept => ?_⟩⟩
  simp only [conforms_bind, conforms_fetch, conforms_whenSome, conforms_update]
  constructor
  · intro chan known
    have programs : now.programTarget = now.setConnectedChandef chan := by
      rw [programTarget, known]
      rfl
    have moved := (tuned op).trans resumed _ _ _ kept (.inr (congrArg tuning programs.symm))
    exact ((goesOn now).upholdsFrom resumed).conforms start _ trivial moved
  · exact fun _ => ((goesOn now).upholdsFrom resumed).conforms start now trivial kept

theorem setupAuthentication_isTuned : IsTuned op setupAuthentication := by
  refine .bind (authenticationCancelled_isTuned _) fun cancelled => .when ?_
  apply programsTarget_isTuned
  refine fun s => .bind (isTuned_perform fun _ => trivial) fun _ => ?_
  refine .bind (authenticationCancelled_isTuned _) fun cancelled => .when ?_
  refine .bind (isTuned_update fun _ => rfl) fun _ => .bind .fetch fun s => ?_
  exact .bind (isTuned_update fun _ => rfl) fun _ => sendAuthentication_isTuned _

theorem doAuthenticate_isTuned : IsTuned op doAuthenticate := by
  refine .bind (authenticationCancelled_isTuned _) fun cancelled => .bind .fetch fun s => .when ?_
  refine .bind (waitForDriver_isTuned 100) fun cancelled => .when ?_
  refine .bind (authenticationCancelled_isTuned _) fun cancelled => .when ?_
  refine .bind driverScanning_isTuned fun scanning => .when ?_
  exact .bind (isTuned_perform fun _ => trivial) fun _ => setupAuthentication_isTuned

/-! ## Association -/

theorem sendAssociation_follows {s start now : Ieee80211} {resumed : Option (Call × Answer)}
    (kept : (tuned .doAssociate).keeps resumed start now) (same : s.tuning = now.tuning) :
    (sendAssociation s.assocReq).Conforms (tuned .doAssociate).ready
      (fun resumed start request now =>
        (tuned .doAssociate).keeps resumed start now ∧ (tuned .doAssociate).calls request now)
      resumed start now fun resumed start _ now =>
        (tuned .doAssociate).stable now ∧ (tuned .doAssociate).keeps resumed start now := by
  have waits : IsTuned .doAssociate (do
      let cancelled ← authenticationCancelled .associateSent
      let s ← Prog.fetch
      Prog.when (!cancelled && s.state = .associating)
        (Prog.update fun s => s.wakeAtTime 3000)) :=
    .bind (authenticationCancelled_isTuned _) fun _ => .bind .fetch fun _ =>
      .when (isTuned_update fun _ => rfl)
  have fails : (tuned .doAssociate).keeps resumed start (now.setState .idle) :=
    (tuned .doAssociate).trans resumed _ _ _ kept (.inl rfl)
  unfold sendAssociation txMgmtFrame succeeds submit perform
  simp only [bind_eq_bind, pure_eq_ret, conforms_bind, conforms_fetch, conforms_ite,
    conforms_update, conforms_ret, conforms_choose, conforms_await]
  refine ⟨fun _ => ⟨by rintro ⟨⟩, fun _ => ⟨trivial, fails⟩⟩, fun _ answer => ⟨fun _ =>
    ⟨by rintro ⟨⟩, fun _ => ⟨trivial, fails⟩⟩, fun _ => ⟨⟨?_, rfl, s, same, rfl⟩, ?_⟩⟩⟩
  · exact (tuned .doAssociate).trans resumed _ _ _ kept (.inl rfl)
  · refine fun _ later _ => ⟨fun _ => ?_, fun h => absurd trivial h⟩
    exact (waits.upholdsFrom _).conforms later later trivial ((tuned .doAssociate).refl _ _)

theorem doAssociate_isTuned : IsTuned .doAssociate doAssociate := by
  refine .bind .fetch fun s => .when (.bind (authenticationCancelled_isTuned _) fun cancelled => ?_)
  refine .when ⟨fun resumed => ⟨fun start now _ kept => ?_⟩⟩
  simp only [bind_eq_bind, conforms_bind, conforms_fetch, conforms_update]
  refine sendAssociation_follows ?_ rfl
  exact (tuned .doAssociate).trans resumed _ _ _ kept (.inl rfl)

/-! ## The association response -/

theorem registerSta_isTuned (aid : Nat) : IsTuned op (registerSta aid) := by
  refine ⟨fun resumed => ⟨fun start now _ kept => ?_⟩⟩
  unfold registerSta succeeds perform
  simp only [bind_eq_bind, pure_eq_ret, conforms_bind, conforms_fetch, conforms_when,
    conforms_update, conforms_ret, conforms_choose, conforms_await]
  refine ⟨fun _ answer => ⟨fun _ => ⟨⟨?_, aid, ?_⟩, ?_⟩, fun _ => ⟨trivial, kept⟩⟩,
    fun _ => ⟨trivial, kept⟩⟩
  · exact (tuned op).trans resumed _ _ _ kept (.inl rfl)
  · exact (newSta_of_tuning rfl aid).symm
  · exact fun _ later _ => ⟨trivial, (tuned op).refl _ _⟩

theorem publishAssociation_isTuned : IsTuned op publishAssociation := by
  have aggregates : IsTuned op startTxAggregation := by
    refine .bind .fetch fun s => .when (.bind .fetch fun s => ?_)
    refine .bind (isTuned_update fun _ => rfl) fun _ => .bind (isTuned_update fun _ => rfl) ?_
    refine fun _ => .bind .fetch fun numbered => ?_
    exact .bind (txMgmtFrame_isTuned _ nofun) fun _ => .ret _
  refine .bind .fetch fun s => .ite (isTuned_update fun _ => rfl) ?_
  refine .bind (isTuned_update fun _ => rfl) fun _ => ?_
  refine .bind (.when (isTuned_perform fun _ => trivial)) fun _ => .bind .fetch fun s => ?_
  exact .bind (.when aggregates) fun _ => isTuned_update fun _ => rfl

theorem processAssocResponse_isTuned (skb : Skb) : IsTuned op (processAssocResponse skb) := by
  refine .bind .fetch fun s => .bind (isTuned_update fun _ => rfl) fun _ =>
    .whenSome fun fields => ?_
  refine .bind (authenticationCancelled_isTuned _) fun cancelled => .when ?_
  refine .ite (isTuned_update fun _ => rfl) (.bind (isTuned_update fun _ => rfl) fun _ => ?_)
  refine .bind (registerSta_isTuned _) fun _ => .bind ?_ fun _ => publishAssociation_isTuned
  refine .bind .fetch fun s => .when (.bind (isTuned_update fun _ => rfl) fun _ => ?_)
  exact isTuned_perform fun _ => trivial

end M

/-- What one atomic block of a function does. -/
def TunedStep : System.BlockRelation Ieee80211 Call Answer ConnectOp Unit :=
  fun op resumed start stop now => (tuned op).Block resumed start stop now

theorem respects_tunedStep : connecting.Respects TunedStep := by
  intro op s _
  cases op with
  | doAuthenticate => exact M.doAuthenticate_isTuned.follows rfl (fun _ _ _ _ => id) trivial
  | doAssociate => exact M.doAssociate_isTuned.follows rfl (fun _ _ _ _ => id) trivial
  | processAssocResponse skb =>
      exact (M.processAssocResponse_isTuned skb).follows rfl (fun _ _ _ _ => id) trivial

/-! ## Runs -/

/-- The tuning is the first one or that of the target, and after an association has started it is
that of the target, for which the last request was built. -/
structure Attuned (s : Ieee80211) (config : ConnectConfig) (last : Option Bytes) : Prop where
  tuning : config.state.tuning = s.tuning ∨ config.state.tuning = s.programTarget.tuning
  associating : ∀ call, (.doAssociate, call) ∈ config.labels →
    config.state.tuning = s.programTarget.tuning
  requested : ∀ request, last = some request →
    config.state.tuning = s.programTarget.tuning ∧
      ∃ t : Ieee80211, t.tuning = s.programTarget.tuning ∧ request = t.assocReq

theorem attuned_nil (s : Ieee80211) : Attuned s ⟨s, []⟩ none :=
  ⟨.inl rfl, nofun, nofun⟩

namespace Attuned

variable {s : Ieee80211} {config config' : ConnectConfig} {last : Option Bytes} {move : ConnectMove}

/-- The tuning of the target stays. -/
theorem stays {start now : Ieee80211}
    (moved : now.tuning = start.tuning ∨ now.tuning = start.programTarget.tuning)
    (programmed : start.tuning = s.programTarget.tuning) :
    now.tuning = s.programTarget.tuning := by
  rcases moved with same | moved
  · exact same.trans programmed
  · have again := Ieee80211.programTarget_of_tuning programmed
    exact moved.trans (again.trans s.programTarget_programTarget)

/-- The function `doAssociate` runs with the tuning of the target. -/
theorem programmed (attuned : Attuned s config last) {next : Turn Answer ConnectOp}
    (allowed : AfterProgramming next config.state)
    (taken : connecting.turn config next = some (move, config'))
    (associating : move.op = .doAssociate) : config.state.tuning = s.programTarget.tuning := by
  cases next with
  | start op answers =>
      simp only [System.turn] at taken
      split at taken
      case isFalse => cases taken
      cases taken
      obtain rfl : op = .doAssociate := associating
      rcases attuned.tuning with first | programmed
      · exact (allowed answers rfl).symm.trans (Ieee80211.programTarget_of_tuning first)
      · exact programmed
  | resume position answer answers =>
      simp only [System.turn] at taken
      split at taken
      case isFalse => cases taken
      rename_i inside
      split at taken
      case isFalse => cases taken
      cases taken
      apply attuned.associating config.threads[position].request
      rw [← associating]
      exact List.mem_map_of_mem (List.getElem_mem inside)

theorem step (attuned : Attuned s config last) {next : Turn Answer ConnectOp}
    (allowed : AfterProgramming next config.state)
    (taken : connecting.turn config next = some (move, config'))
    (block : (tuned move.op).Block move.resumed config.state move.stop config'.state) :
    Attuned s config' (noteRequest move config'.state last) := by
  obtain ⟨moved, calls⟩ := block
  have associates (associating : move.op = .doAssociate) :
      config'.state.tuning = s.programTarget.tuning :=
    stays moved (attuned.programmed allowed taken associating)
  constructor
  case tuning =>
    rcases attuned.tuning with first | programmed
    · rcases moved with same | moved
      · exact .inl (same.trans first)
      · exact .inr (moved.trans (Ieee80211.programTarget_of_tuning first))
    · exact .inr (stays moved programmed)
  case associating =>
    intro call member
    obtain ⟨before, after, labels, labels'⟩ := (System.step_of_turn taken).labels
    rw [labels'] at member
    rcases List.mem_append.mp member with early | late
    · rcases List.mem_append.mp early with old | new
      · exact stays moved (attuned.associating call (by rw [labels]; simp [old]))
      · apply associates
        unfold Move.added at new
        split at new
        · simp at new
          exact new.1.symm
        · cases new
    · exact stays moved (attuned.associating call (by rw [labels]; simp [late]))
  case requested =>
    intro request noted
    unfold noteRequest at noted
    split at noted
    case h_1 skb stop =>
      obtain ⟨associating, t, same, data⟩ := calls _ stop
      cases noted
      exact ⟨associates associating, t, same.trans (associates associating), data⟩
    case h_2 =>
      obtain ⟨programmed, built⟩ := attuned.requested request noted
      exact ⟨stays moved programmed, built⟩

end Attuned

namespace Ieee80211

/-- The recorded width is that of what is programmed. -/
theorem mhz_operating (s : Ieee80211) (chan : Channel) :
    (s.operating chan).mhz = (s.operating chan).width.mhz := by
  unfold operating
  split
  · split
    · unfold chooseWidth
      dsimp only
      split
      · rfl
      · split <;> rfl
    · rfl
  · rfl

theorem surroundings_programTarget (s : Ieee80211) :
    s.programTarget.surroundings = s.surroundings := by
  rw [programTarget]
  cases s.targetChannel with
  | none => rfl
  | some chan => exact s.surroundings_setConnectedChandef chan

theorem CapabilityFields.programTarget {s : Ieee80211} (fields : s.CapabilityFields) :
    s.programTarget.CapabilityFields := by
  apply fields.of_surroundings s.surroundings_programTarget
  rw [Ieee80211.programTarget]
  cases s.targetChannel with
  | none => exact fields.width
  | some chan => exact ⟨_, s.mhz_operating chan⟩

/-- The recorded width is that of the programmed channel if there is one, or if it was before. -/
theorem connChanWidth_programTarget {s : Ieee80211} {hw : Hw}
    (found : s.programTarget.hw = some hw) :
    s.programTarget.connChanWidth = hw.chandef.width.mhz ↔ s.targetChannel.isSome ∨
      ∀ hw, s.hw = some hw → s.connChanWidth = hw.chandef.width.mhz := by
  rw [programTarget] at found ⊢
  cases known : s.targetChannel with
  | none =>
      rw [known] at found
      have found : s.hw = some hw := found
      simp [found]
  | some chan =>
      rw [known] at found
      obtain ⟨_, -, rfl⟩ := Option.map_eq_some_iff.mp found
      exact iff_of_true (s.mhz_operating chan) (.inl rfl)

end Ieee80211

/-- The capabilities of the station are those of the request exactly when the fields fit and the
chip has the channel, or the recorded width is that of the channel anyway. -/
theorem capabilitiesMatch (s : Ieee80211) (config : ConnectConfig) (last : Option Bytes) :
    CapabilitiesMatch AfterProgramming Ieee80211.CanAgree s config last := by
  intro fields run next move config' request sta hw allowed taken sent stop found
  let holds (now : ConnectConfig × Option Bytes) : Prop :=
    connecting.Settled TunedStep now.1 ∧ Attuned s now.1 now.2
  have kept : holds (config, last) := by
    refine run.invariant holds ⟨System.settled_nil TunedStep s, attuned_nil s⟩ ?_
    rintro ⟨config, last⟩ next move config' ⟨settled, attuned⟩ allowed taken
    have related := (System.step_of_turn taken).respects respects_tunedStep settled
    exact ⟨related.2, attuned.step allowed taken related.1⟩
  obtain ⟨settled, attuned⟩ := kept
  obtain ⟨block, -⟩ := (System.step_of_turn taken).respects respects_tunedStep settled
  obtain ⟨programmed, t, same, rfl⟩ := attuned.requested request sent
  have now := Attuned.stays block.1 programmed
  obtain ⟨aid, rfl⟩ := block.2 _ stop
  have around := Ieee80211.surroundings_of_tuning same
  have station := Ieee80211.newSta_of_tuning (now.trans same.symm) aid
  simp only [Ieee80211.tuning, Prod.mk.injEq] at same now
  have known : s.programTarget.hw = some hw := now.2.2.1.symm.trans found
  have recorded : ∃ width : ChanWidth, t.connChanWidth = width.mhz :=
    same.2.2.2 ▸ fields.programTarget.width
  have built : t.CapabilityFields := fields.programTarget.of_surroundings around recorded
  rw [station, built.agree_iff, same.2.2.2, Ieee80211.connChanWidth_programTarget known,
    Ieee80211.htFits_of_surroundings (around.trans s.surroundings_programTarget),
    Ieee80211.CanAgree]

namespace Scenario

/-- A chip that was tuned to 80 MHz before, scanned since, and lacks the channel of the target. -/
def staleWidth : Ieee80211 :=
  let s := Ieee80211.started attachment
  { s with
    hw := s.hw.map fun hw =>
      { hw with bands := [some ⟨0, [channel], HtCap.none, VhtCap.none⟩, some ⟨1, [channel36],
        { HtCap.none with htSupported := true, cap := htCapSupWidth20_40 },
        { VhtCap.none with vhtSupported := true }⟩] }
    targetBSS :=
      { Bss.empty with bssid := apAddr, ssid := 65 :: zeros 32, ssidLen := 1, channel := 14 }
    connChanWidth := 80
    connectCancelled := false }

/-- An attempt from the authentication to the response. -/
def fullAttempt : List (Turn Answer ConnectOp) :=
  .start .doAuthenticate [] :: List.replicate 10 (.resume 0 default []) ++
    .start .doAssociate [] :: List.replicate 3 (.resume 0 default []) ++
    [.start (.processAssocResponse assocResponse) []]

/-- The bandwidth of a station that is registered. -/
def registeredBandwidth (move : ConnectMove) : Option Nat :=
  match move.stop with
  | .waits (.staAdd sta) => some sta.bandwidth
  | _ => none

theorem staleWidth_registers :
    (connecting.playNoted noteRequest (⟨staleWidth, []⟩, none) fullAttempt).bind
      (fun (config, last) => (connecting.turn config (.resume 0 default [])).map
        fun (move, config') => (last.isSome, registeredBandwidth move,
          config'.state.hw.map fun hw => hw.chandef.width)) =
      some (true, some 2, some .width20NoHt) := by
  decide +kernel

theorem staleWidth_fields : staleWidth.CapabilityFields := by
  have table : staleWidth.targetSupportedBand = some ⟨0, [channel], HtCap.none, VhtCap.none⟩ := rfl
  constructor
  case toAssocArrays =>
    refine ⟨rfl, rfl, rfl, by decide, ?_⟩
    rintro sb found
    obtain rfl := Option.some.inj (table.symm.trans found)
    rfl
  case cap =>
    rintro sb found
    obtain rfl := Option.some.inj (table.symm.trans found)
    decide
  case width => exact ⟨.width80, rfl⟩

end Scenario

/-- The station is registered with the bandwidth of an earlier connection. -/
theorem not_capabilitiesMatch : ¬ ∀ s config last,
    CapabilitiesMatch (fun _ _ => True) (fun _ => True) s config last := by
  intro agrees
  obtain ⟨⟨config, last⟩, played, turned⟩ :=
    Option.bind_eq_some_iff.mp Scenario.staleWidth_registers
  obtain ⟨⟨move, config'⟩, taken, seen⟩ := Option.map_eq_some_iff.mp turned
  simp only [Prod.mk.injEq, Option.isSome_iff_exists] at seen
  obtain ⟨⟨request, sent⟩, registers, tuned⟩ := seen
  obtain ⟨hw, found, narrow⟩ := Option.map_eq_some_iff.mp tuned
  have run : connecting.Noted noteRequest (fun _ _ => True) (⟨Scenario.staleWidth, []⟩, none)
      (config, last) := System.noted_of_play played fun _ _ _ => trivial
  unfold Scenario.registeredBandwidth at registers
  split at registers
  case h_2 => cases registers
  rename_i sta stop
  have agree := (agrees _ config last Scenario.staleWidth_fields run _ move config' request sta hw
    trivial taken sent stop found).mpr trivial
  have bandwidth := agree.bandwidth
  rw [Option.some.inj registers, narrow] at bandwidth
  cases bandwidth

end AirportRtw88
