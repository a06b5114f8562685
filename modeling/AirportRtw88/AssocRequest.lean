import AirportRtw88.BeaconElements
import AirportRtw88.System

/-!
# The association request

The body of the request is a list of elements whatever is left out, but it outgrows the buffer of
`doAssociate` with a long RSN element, and the privacy bit is always set.
-/

namespace AirportRtw88

open Bytes InfoElements

/-- These bytes are a list of whole elements without some identifiers. -/
def Lacks (ids : List UInt8) (bytes : Bytes) : Prop :=
  ∃ elements, bytes = encodeAll elements ∧ ∀ element ∈ elements, element.id ∉ ids

theorem lacks_nil (ids : List UInt8) : Lacks ids [] :=
  ⟨[], rfl, nofun⟩

theorem Lacks.mono {ids fewer : List UInt8} {bytes : Bytes} (lacks : Lacks ids bytes)
    (subset : fewer ⊆ ids) : Lacks fewer bytes := by
  obtain ⟨elements, rfl, absent⟩ := lacks
  exact ⟨elements, rfl, fun element member among => absent element member (subset among)⟩

theorem Lacks.append {ids : List UInt8} {bytes others : Bytes} (first : Lacks ids bytes)
    (second : Lacks ids others) : Lacks ids (bytes ++ others) := by
  obtain ⟨elements, rfl, early⟩ := first
  obtain ⟨more, rfl, late⟩ := second
  refine ⟨elements ++ more, (encodeAll_append elements more).symm, fun element member => ?_⟩
  exact (List.mem_append.mp member).elim (early element) (late element)

/-- An identifier, a length and a body of this length are an element. -/
theorem exists_element (id : UInt8) {length : UInt8} {body : Bytes}
    (counted : length.toNat = body.length) :
    ∃ element : Element, element.id = id ∧ id :: length :: body = encodeAll [element] := by
  have short : body.length < 256 := counted ▸ length.toNat_lt
  refine ⟨⟨id, body, short⟩, rfl, ?_⟩
  rw [encodeAll_cons, encodeAll_nil, List.append_nil, Element.encode, ← counted, UInt8.ofNat_toNat]

/-- What `cmdSetAssocRsnIE` accepts is an RSN element. -/
theorem exists_rsnElement {ie : Bytes} (legal : isRsnIe ie) :
    ∃ element : Element, element.id = eidRsn ∧ ie = encodeAll [element] := by
  simp only [isRsnIe, decide_eq_true_eq] at legal
  match ie, legal with
  | [], legal => exact absurd legal.1 (by simp)
  | [_], legal => exact absurd legal.1 (by simp)
  | id :: length :: body, ⟨_, _, rsn, counted⟩ =>
      obtain rfl : id = eidRsn := rsn
      have total : length.toNat = body.length := by
        simp only [byte, List.getD_cons_succ, List.getD_cons_zero, List.length_cons] at counted
        omega
      exact exists_element eidRsn total

theorem lacks_element {ids : List UInt8} {id length : UInt8} {body : Bytes} (other : id ∉ ids)
    (counted : length.toNat = body.length) : Lacks ids (id :: length :: body) := by
  obtain ⟨element, rfl, same⟩ := exists_element id counted
  refine ⟨[element], same, fun element' member => ?_⟩
  rwa [List.mem_singleton.mp member]

namespace Ieee80211

/-- The sizes of the arrays that `buildAssocReq` reads, and the bound that `processScanResult`
puts on the length of an SSID. -/
structure AssocArrays (s : Ieee80211) : Prop where
  mac : s.macAddr.length = 6
  bssid : s.targetBSS.bssid.length = 6
  ssid : s.targetBSS.ssid.length = 33
  ssidLen : s.targetBSS.ssidLen ≤ 32
  rxMask : ∀ sb, s.targetSupportedBand = some sb → sb.htCap.rxMask.length = 10

/-- The target is on the 5 GHz band. -/
def targets5g (s : Ieee80211) : Bool :=
  s.targetBSS.channel > 14

/-- An HT Capabilities element is sent. -/
def sendsHt (s : Ieee80211) : Bool :=
  s.targetSupportedBand.any fun sb => s.htAllowed ∧ sb.htCap.htSupported

/-- A VHT Capabilities element is sent. -/
def sendsVht (s : Ieee80211) : Bool :=
  s.targetSupportedBand.any fun sb => s.htAllowed ∧ s.targets5g ∧ sb.vhtCap.vhtSupported

/-- The RSN element is that of the external supplicant. -/
def sendsExternalRsn (s : Ieee80211) : Bool :=
  s.externalSupplicant ∧ isRsnIe s.assocRsnIE

/-- The RSN element of the request. -/
def assocRsn (s : Ieee80211) : Bytes :=
  if ¬ s.wpa2 then []
  else if s.externalSupplicant ∧ isRsnIe s.assocRsnIE then s.assocRsnIE
  else rtw88BuildSelectedRsnIe s.targetBSS.groupCipher

/-- The request fits the buffer, its body is a list of whole elements, and it asks for privacy
exactly with an RSN element, which is there exactly with WPA2. -/
structure AssocWellFormed (s : Ieee80211) : Prop where
  fits : s.assocReq.length ≤ 256
  parses : ∃ elements, s.assocReq.drop 28 = encodeAll elements ∧
    (s.assocReq.le16At 24 &&& 0x0010 ≠ 0 ↔ ∃ element ∈ elements, element.id = eidRsn) ∧
    ((∃ element ∈ elements, element.id = eidRsn) ↔ s.wpa2 = true)

/-- WPA2 is used, and an RSN element of the external supplicant leaves room for the others. -/
def AssocFits (s : Ieee80211) : Prop :=
  s.wpa2 = true ∧ (s.sendsExternalRsn →
    s.targetBSS.ssidLen + s.assocRsnIE.length + (if s.targets5g then 0 else 6) +
      (if s.sendsHt then 28 else 0) + (if s.sendsVht then 14 else 0) ≤ 207)

/-- The request is well-formed under a condition. -/
def AssocBounded (condition : Ieee80211 → Prop) (s : Ieee80211) : Prop :=
  s.AssocArrays → (s.AssocWellFormed ↔ condition s)

/-- The name of the network and the rates. -/
def assocBasics (s : Ieee80211) : Bytes :=
  [eidSsid, UInt8.ofNat s.targetBSS.ssidLen] ++ s.targetBSS.ssid.take s.targetBSS.ssidLen ++
    ([eidSuppRates, 8] ++ (if s.targets5g then rates5g else rates2g)) ++
    (if s.targets5g then [] else [eidExtSuppRates, 4] ++ extRates2g)

/-- The HT Capabilities of the request. -/
def assocHt (s : Ieee80211) : Bytes :=
  (s.targetSupportedBand.filter fun sb => s.htAllowed ∧ sb.htCap.htSupported).elim []
    fun sb => htCapabilityIe sb.htCap s.connChanWidth

/-- The VHT Capabilities of the request. -/
def assocVht (s : Ieee80211) : Bytes :=
  (s.targetSupportedBand.filter fun sb =>
    s.htAllowed ∧ s.targets5g ∧ sb.vhtCap.vhtSupported).elim [] fun sb => vhtCapabilityIe sb.vhtCap

/-- The elements of the request in front of the RSN element. -/
def assocFront (s : Ieee80211) : Bytes :=
  s.assocBasics ++ s.assocHt ++ s.assocVht ++ wmeInfo

theorem assocReq_eq (s : Ieee80211) :
    s.assocReq = s.mgmtHeader stypeAssocReq ++ le16 (0x0431 ||| (if s.wpa2 then 0x0010 else 0)) ++
      [10, 0] ++ (s.assocFront ++ s.assocRsn) := by
  unfold assocReq assocFront assocBasics assocHt assocVht assocRsn targets5g
  by_cases is5g : s.targetBSS.channel > 14
  · simp [is5g, rates5g]
  · simp [is5g, rates2g, extRates2g]

theorem length_htCapabilityIe {ht : HtCap} (mask : ht.rxMask.length = 10) (width : Nat) :
    (htCapabilityIe ht width).length = 28 := by
  simp [htCapabilityIe, le16, mask]

theorem lacks_htCapabilityIe {ids : List UInt8} (other : eidHtCapability ∉ ids) {ht : HtCap}
    (mask : ht.rxMask.length = 10) (width : Nat) : Lacks ids (htCapabilityIe ht width) := by
  have total := length_htCapabilityIe mask width
  simp only [htCapabilityIe, List.cons_append, List.nil_append, List.append_assoc,
    List.length_cons] at total ⊢
  apply lacks_element other
  exact (Nat.succ.inj (Nat.succ.inj total)).symm

theorem lacks_vhtCapabilityIe {ids : List UInt8} (other : eidVhtCapability ∉ ids) (vht : VhtCap) :
    Lacks ids (vhtCapabilityIe vht) := by
  simp only [vhtCapabilityIe, List.cons_append, List.nil_append, List.append_assoc]
  exact lacks_element other rfl

theorem lacks_wmeInfo {ids : List UInt8} (other : 0xdd ∉ ids) : Lacks ids wmeInfo :=
  lacks_element other rfl

section

variable {s : Ieee80211} (arrays : s.AssocArrays)
include arrays

theorem AssocArrays.length_header : (s.mgmtHeader stypeAssocReq ++
    le16 (0x0431 ||| (if s.wpa2 then 0x0010 else 0)) ++ [10, 0]).length = 28 := by
  simp [length_mgmtHeader arrays.mac arrays.bssid, le16]

theorem AssocArrays.length_ssid :
    (s.targetBSS.ssid.take s.targetBSS.ssidLen).length = s.targetBSS.ssidLen := by
  have size := arrays.ssid
  have bound := arrays.ssidLen
  rw [List.length_take]
  omega

theorem AssocArrays.lacks_basics :
    Lacks [eidRsn, eidHtCapability, eidVhtCapability] s.assocBasics := by
  have bound := arrays.ssidLen
  apply Lacks.append
  · apply Lacks.append
    · apply lacks_element (by decide)
      show _ = (s.targetBSS.ssid.take s.targetBSS.ssidLen).length
      rw [arrays.length_ssid, UInt8.toNat_ofNat']
      omega
    · apply lacks_element (by decide)
      split <;> rfl
  · split
    · exact lacks_nil _
    · exact lacks_element (by decide) rfl

theorem AssocArrays.lacks_ht {ids : List UInt8} (other : eidHtCapability ∉ ids) :
    Lacks ids s.assocHt := by
  rw [assocHt]
  cases sent : s.targetSupportedBand.filter fun sb => s.htAllowed ∧ sb.htCap.htSupported with
  | none => exact lacks_nil ids
  | some sb =>
      exact lacks_htCapabilityIe other (arrays.rxMask sb (Option.filter_eq_some_iff.mp sent).1) _

omit arrays in
theorem lacks_vht {ids : List UInt8} (other : eidVhtCapability ∉ ids) (s : Ieee80211) :
    Lacks ids s.assocVht := by
  rw [assocVht]
  cases s.targetSupportedBand.filter fun sb =>
      s.htAllowed ∧ s.targets5g ∧ sb.vhtCap.vhtSupported with
  | none => exact lacks_nil ids
  | some sb => exact lacks_vhtCapabilityIe other sb.vhtCap

theorem AssocArrays.lacks_front : Lacks [eidRsn] s.assocFront := by
  have basics := arrays.lacks_basics.mono (List.cons_subset_cons eidRsn (List.nil_subset _))
  have ht : Lacks [eidRsn] s.assocHt := arrays.lacks_ht (by decide)
  have vht : Lacks [eidRsn] s.assocVht := lacks_vht (by decide) s
  exact ((basics.append ht).append vht).append (lacks_wmeInfo (by decide))

theorem AssocArrays.length_ht : s.assocHt.length = if s.sendsHt then 28 else 0 := by
  rw [assocHt, sendsHt]
  cases table : s.targetSupportedBand with
  | none => rfl
  | some sb =>
      have long := length_htCapabilityIe (arrays.rxMask sb table) s.connChanWidth
      by_cases sent : s.htAllowed ∧ sb.htCap.htSupported <;> simp [Option.filter, sent, long]

omit arrays in
theorem length_vht (s : Ieee80211) : s.assocVht.length = if s.sendsVht then 14 else 0 := by
  rw [assocVht, sendsVht]
  cases s.targetSupportedBand with
  | none => rfl
  | some sb =>
      have long : (vhtCapabilityIe sb.vhtCap).length = 14 := rfl
      by_cases sent : s.htAllowed ∧ s.targets5g ∧ sb.vhtCap.vhtSupported <;>
        simp [Option.filter, sent, long]

theorem AssocArrays.length_front :
    s.assocFront.length = 21 + s.targetBSS.ssidLen + (if s.targets5g then 0 else 6) +
      (if s.sendsHt then 28 else 0) + (if s.sendsVht then 14 else 0) := by
  have rates : (if s.targets5g then rates5g else rates2g).length = 8 := by split <;> rfl
  have extended : (if s.targets5g then [] else [eidExtSuppRates, 4] ++ extRates2g).length =
      if s.targets5g then 0 else 6 := by split <;> rfl
  have wme : wmeInfo.length = 9 := rfl
  rw [assocFront, assocBasics]
  simp only [List.length_append, arrays.length_ssid, arrays.length_ht, length_vht, rates, extended,
    wme, List.length_cons, List.length_nil]
  omega

omit arrays in
/-- The RSN element is there exactly with WPA2. -/
theorem assocRsn_cases (s : Ieee80211) :
    (s.wpa2 = false ∧ s.assocRsn = []) ∨
      (s.wpa2 = true ∧ ∃ element : Element, element.id = eidRsn ∧
        s.assocRsn = encodeAll [element] ∧
        s.assocRsn.length = if s.sendsExternalRsn then s.assocRsnIE.length else 22) := by
  cases wpa2 : s.wpa2 with
  | false => exact .inl ⟨rfl, by simp [assocRsn, wpa2]⟩
  | true =>
      refine .inr ⟨rfl, ?_⟩
      by_cases external : s.externalSupplicant ∧ isRsnIe s.assocRsnIE
      · have taken : s.assocRsn = s.assocRsnIE := by simp [assocRsn, wpa2, external]
        obtain ⟨element, same, bytes⟩ := exists_rsnElement external.2
        refine ⟨element, same, taken.trans bytes, ?_⟩
        rw [taken, sendsExternalRsn]
        simp only [external, decide_true, and_self, if_true]
      · have built : s.assocRsn = rtw88BuildSelectedRsnIe s.targetBSS.groupCipher := by
          simp [assocRsn, wpa2, external]
        have counted : (20 : UInt8).toNat =
            ((rtw88BuildSelectedRsnIe s.targetBSS.groupCipher).drop 2).length := rfl
        obtain ⟨element, same, bytes⟩ := exists_element eidRsn counted
        refine ⟨element, same, ?_, ?_⟩
        · rw [built, ← bytes]
          rfl
        · rw [built, sendsExternalRsn]
          simp only [external, decide_false]
          rfl

theorem AssocArrays.length_assocReq :
    s.assocReq.length = 28 + s.assocFront.length + s.assocRsn.length := by
  rw [assocReq_eq, List.length_append, arrays.length_header, List.length_append, Nat.add_assoc]

theorem AssocArrays.drop_assocReq : s.assocReq.drop 28 = s.assocFront ++ s.assocRsn := by
  rw [assocReq_eq]
  exact List.drop_left' arrays.length_header

/-- The privacy bit is always set. -/
theorem AssocArrays.privacy : s.assocReq.le16At 24 &&& 0x0010 ≠ 0 := by
  have front := length_mgmtHeader arrays.mac arrays.bssid stypeAssocReq
  have read : s.assocReq.le16At 24 = 0x0431 ||| (if s.wpa2 then 0x0010 else 0) := by
    rw [assocReq_eq, ← front, List.append_assoc, List.append_assoc]
    apply le16At_le16
    split <;> decide
  rw [read]
  split <;> decide

end

theorem assocBounded (s : Ieee80211) : AssocBounded AssocFits s := by
  intro arrays
  obtain ⟨front, frontEq, -⟩ := arrays.lacks_front
  have length := arrays.length_assocReq
  have frontLength := arrays.length_front
  have bound := arrays.ssidLen
  constructor
  · intro wellFormed
    obtain ⟨elements, -, privacy, rsn⟩ := wellFormed.parses
    have wpa2 := rsn.mp (privacy.mp arrays.privacy)
    refine ⟨wpa2, fun external => ?_⟩
    have fits := wellFormed.fits
    rcases s.assocRsn_cases with ⟨open_, -⟩ | ⟨-, element, -, -, rsnLength⟩
    · rw [wpa2] at open_
      cases open_
    · rw [if_pos external] at rsnLength
      omega
  · rintro ⟨wpa2, room⟩
    rcases s.assocRsn_cases with ⟨open_, -⟩ | ⟨-, element, same, bytes, rsnLength⟩
    · rw [wpa2] at open_
      cases open_
    constructor
    case fits =>
      by_cases external : s.sendsExternalRsn
      · have less := room external
        rw [if_pos external] at rsnLength
        omega
      · rw [if_neg external] at rsnLength
        split at frontLength <;> split at frontLength <;> split at frontLength <;> omega
    case parses =>
      have present : ∃ other ∈ front ++ [element], other.id = eidRsn := ⟨element, by simp, same⟩
      refine ⟨front ++ [element], ?_, ?_, ?_⟩
      · rw [arrays.drop_assocReq, frontEq, bytes, encodeAll_append]
      · exact iff_of_true arrays.privacy present
      · exact iff_of_true present wpa2

/-- An open network is asked for privacy, without an RSN element. -/
theorem not_assocBounded : ¬ ∀ s, AssocBounded (fun _ => True) s := by
  intro bounded
  let s := started Scenario.attachment
  have arrays : s.AssocArrays := by
    constructor
    case rxMask =>
      intro sb found
      obtain rfl : _ = sb := Option.some.inj found
      rfl
    all_goals decide
  have wellFormed := (bounded s arrays).mpr trivial
  obtain ⟨elements, -, privacy, rsn⟩ := wellFormed.parses
  have wpa2 : s.wpa2 = true := rsn.mp (privacy.mp (by decide))
  exact absurd wpa2 (by decide)

end Ieee80211

end AirportRtw88
