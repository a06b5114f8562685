import AirportRtw88.InfoElements
import AirportRtw88.Scan

/-!
# The elements of a beacon

The walk of `processScanResult` is a fold over the elements of a beacon.  What it records about
security and about the channel does not depend on their order.
-/

namespace AirportRtw88

open Bytes InfoElements

/-- What an element adds to an entry: its content, and a copy if it fits. -/
def absorbElement (bss : Bss) (element : Element) : Bss :=
  let read := readBeaconElement bss element.id element.body
  if read.ies.length + element.encode.length < 512 then
    { read with ies := read.ies ++ element.encode }
  else read

theorem slice_encode (element : Element) (rest : Bytes) :
    Bytes.slice (element.encode ++ rest) 2 element.body.length = element.body := by
  rw [slice, Element.encode, List.cons_append, List.cons_append]
  exact List.take_left

theorem take_encode (element : Element) (rest : Bytes) :
    (element.encode ++ rest).take (2 + element.body.length) = element.encode :=
  List.take_left' element.length_encode

theorem drop_encode (element : Element) (rest : Bytes) :
    (element.encode ++ rest).drop (2 + element.body.length) = rest :=
  List.drop_left' element.length_encode

theorem byte_encode (element : Element) (rest : Bytes) :
    Bytes.byte (element.encode ++ rest) 0 = element.id ∧
      (Bytes.byte (element.encode ++ rest) 1).toNat = element.body.length :=
  ⟨rfl, element.toNat_length⟩

theorem readBeaconElements_walks : Walks readBeaconElements absorbElement where
  stop fuel tail bss truncated := by
    rw [readBeaconElements]
    by_cases short : List.length tail < 2
    · rw [if_pos short]
    · rw [if_neg short, if_pos]
      exact truncated.resolve_left short
  next fuel element rest bss := by
    have long : 2 + element.body.length ≤ (element.encode ++ rest).length := by
      rw [List.length_append, element.length_encode]
      omega
    obtain ⟨id, length⟩ := byte_encode element rest
    rw [readBeaconElements, if_neg (by omega)]
    simp only [id, length, slice_encode, take_encode, drop_encode]
    rw [if_neg (by omega), absorbElement, element.length_encode]

/-- The fixed fields of a beacon. -/
def beaconFixed (skb : Skb) : Bss :=
  { Bss.empty with
    beaconInterval := skb.data.le16At 32
    capabilities := skb.data.le16At 34
    bssid := skb.data.addr3 }

/-- A beacon or probe response with these elements, and a truncated tail. -/
def Carries (skb : Skb) (elements : List Element) : Prop :=
  ∃ tail, Truncated tail ∧ skb.data.drop 36 = encodeAll elements ++ tail

/-- Every frame carries some elements. -/
theorem exists_carries (skb : Skb) : ∃ elements, Carries skb elements := by
  obtain ⟨elements, tail, truncated, split⟩ := exists_split (skb.data.drop 36)
  exact ⟨elements, tail, truncated, split⟩

theorem Carries.read {skb : Skb} {elements : List Element} (carries : Carries skb elements)
    (generation : Nat) :
    beaconBss skb generation =
      let read := elements.foldl absorbElement (beaconFixed skb)
      { read with
        rssi := skb.signal
        freq := skb.freq
        lastSeenScan := generation
        channel := channelOfFreq read.channel skb.freq } := by
  obtain ⟨tail, truncated, split⟩ := carries
  have few : elements.length < skb.data.length + 1 := by
    have lengths := congrArg List.length split
    have least := length_le_encodeAll elements
    rw [List.length_drop, List.length_append] at lengths
    omega
  have folded := readBeaconElements_walks.eq_foldl truncated few (beaconFixed skb)
  rw [← split] at folded
  rw [← folded]
  rfl

/-- A property of the entry, from one element to the next. -/
theorem foldl_absorbElement (property : List Element → Bss → Prop) {bss : Bss}
    (start : property [] bss)
    (next : ∀ elements element bss, property elements bss →
      property (elements ++ [element]) (absorbElement bss element)) (elements : List Element) :
    property elements (elements.foldl absorbElement bss) := by
  induction elements using List.reverseRecOn with
  | nil => exact start
  | append_singleton elements element ih =>
      rw [List.foldl_append]
      exact next elements element _ ih

/-! ## What an element says -/

/-- The group suite of an RSN element that is accepted. -/
def rsnGroup (element : Element) : Option Nat :=
  if element.id = eidRsn then rtw88RsnSelectCcmpPsk element.body else none

/-- A WPA element of at least eight bytes. -/
def isWpaElement (element : Element) : Bool :=
  element.id = eidVendorSpecific ∧ 8 ≤ element.body.length ∧
    element.body.take 4 = [0x00, 0x50, 0xf2, 0x01]

/-- A DS Parameter element with a channel. -/
def isDsElement (element : Element) : Bool :=
  element.id = eidDsParams ∧ element.body ≠ []

/-- A DS Parameter element with a channel other than zero. -/
def isNonzeroDsElement (element : Element) : Bool :=
  isDsElement element ∧ Bytes.byte element.body 0 ≠ 0

/-- No other DS Parameter element has a channel other than zero. -/
def OnlyNonzeroDs (front back : List Element) : Prop :=
  ∀ other ∈ front ++ back, isNonzeroDsElement other = false

/-- No DS Parameter element with a channel stands behind. -/
def LastDs (_ back : List Element) : Prop :=
  ∀ other ∈ back, isDsElement other = false

/-- What is recorded about security. -/
structure Security where
  cipher : Nat
  groupCipher : Nat
  akm : Nat
  deriving DecidableEq

def Bss.security (bss : Bss) : Security :=
  ⟨bss.cipher, bss.groupCipher, bss.akm⟩

/-- What a list of elements says about security. -/
def advertised (elements : List Element) : Security :=
  match (elements.filterMap rsnGroup).getLast? with
  | some group => ⟨cipherCcmp, group, akmPsk⟩
  | none =>
      if elements.any isWpaElement then ⟨cipherTkip, cipherTkip, akmPsk⟩ else ⟨0, 0, 0⟩

theorem absorbElement_security (bss : Bss) (element : Element) :
    (absorbElement bss element).security =
      (readBeaconElement bss element.id element.body).security := by
  unfold absorbElement
  simp only
  split <;> rfl

theorem absorbElement_channel (bss : Bss) (element : Element) :
    (absorbElement bss element).channel =
      (readBeaconElement bss element.id element.body).channel := by
  unfold absorbElement
  simp only
  split <;> rfl

/-- One element changes what is recorded about security only if it is an RSN or a WPA element. -/
theorem readBeaconElement_security (bss : Bss) (element : Element) :
    (readBeaconElement bss element.id element.body).security =
      match rsnGroup element with
      | some group => ⟨cipherCcmp, group, akmPsk⟩
      | none =>
          if isWpaElement element ∧ bss.cipher = 0 then ⟨cipherTkip, cipherTkip, akmPsk⟩
          else bss.security := by
  obtain ⟨id, body, short⟩ := element
  unfold readBeaconElement rsnGroup isWpaElement
  by_cases rsn : id = eidRsn
  · subst rsn
    cases rtw88RsnSelectCcmpPsk body with
    | none => simp [eidRsn, eidSsid, eidDsParams, eidHtOperation, eidVendorSpecific]
    | some group => simp [eidRsn, eidSsid, eidDsParams, eidHtOperation, Bss.security]
  · simp only [rsn, if_false]
    split
    · rename_i ssid
      rw [ssid.1]
      simp [eidSsid, eidVendorSpecific, Bss.security]
    split
    · rename_i ds
      rw [ds.1]
      simp [eidDsParams, eidVendorSpecific, Bss.security]
    split
    · rename_i ht
      rw [ht.1]
      simp [eidHtOperation, eidVendorSpecific, Bss.security]
    split
    · rename_i vendor
      obtain ⟨vendor, long, type, unknown⟩ := vendor
      rw [if_pos ⟨by simp [vendor, long, type], unknown⟩]
      rfl
    · rename_i other
      rw [if_neg]
      simp only [decide_eq_true_eq]
      tauto

/-- The security of an entry is what its elements say, in whatever order they come. -/
theorem foldl_security {bss : Bss} (fresh : bss.security = ⟨0, 0, 0⟩) (elements : List Element) :
    (elements.foldl absorbElement bss).security = advertised elements := by
  apply foldl_absorbElement fun elements bss => bss.security = advertised elements
  · exact fresh
  intro elements element bss known
  have cipher : bss.cipher = (advertised elements).cipher := congrArg Security.cipher known
  rw [absorbElement_security, readBeaconElement_security, cipher, known]
  unfold advertised
  rw [List.filterMap_append, List.any_append]
  cases own : rsnGroup element with
  | some group => simp [own]
  | none =>
      simp only [List.filterMap_cons, own, List.filterMap_nil, List.append_nil, List.any_cons,
        List.any_nil, Bool.or_false]
      cases (elements.filterMap rsnGroup).getLast? with
      | some group => simp [cipherCcmp]
      | none =>
          cases elements.any isWpaElement <;> cases isWpaElement element <;> simp [cipherTkip]

/-! ## The channel -/

/-- A DS Parameter element gives the channel. -/
theorem channel_of_ds {element : Element} (ds : isDsElement element) (bss : Bss) :
    (absorbElement bss element).channel = (Bytes.byte element.body 0).toNat := by
  obtain ⟨id, body, short⟩ := element
  simp only [isDsElement, decide_eq_true_eq] at ds
  obtain ⟨rfl, some⟩ := ds
  have long : 1 ≤ body.length := List.length_pos_iff.mpr some
  rw [absorbElement_channel]
  simp [readBeaconElement, long, eidDsParams, eidSsid]

/-- No other element changes a channel that is known. -/
theorem channel_of_other {element : Element} (other : isDsElement element = false) {bss : Bss}
    (known : bss.channel ≠ 0) : (absorbElement bss element).channel = bss.channel := by
  obtain ⟨id, body, short⟩ := element
  simp only [isDsElement, decide_eq_false_iff_not] at other
  have none : ¬ (id = eidDsParams ∧ body.length ≥ 1) :=
    fun ds => other ⟨ds.1, List.length_pos_iff.mp ds.2⟩
  rw [absorbElement_channel]
  unfold readBeaconElement
  simp only [none, known, and_false, if_false]
  repeat' split
  all_goals rfl

theorem foldl_channel {elements : List Element}
    (others : ∀ other ∈ elements, isDsElement other = false) {bss : Bss} (known : bss.channel ≠ 0) :
    (elements.foldl absorbElement bss).channel = bss.channel := by
  induction elements generalizing bss with
  | nil => rfl
  | cons element elements ih =>
      have kept := channel_of_other (others element List.mem_cons_self) known
      rw [List.foldl_cons, ih (fun other member => others other (List.mem_cons_of_mem _ member)),
        kept]
      rwa [kept]

/-! ## What is recorded -/

/-- What `processScanResult` records of a frame with these elements, whatever their order.  The
channel is that of a DS Parameter element, if it is not zero and the element decides among those in
front of it and behind it. -/
structure Settled (decides : List Element → List Element → Prop) (skb : Skb) (generation : Nat)
    (elements : List Element) : Prop where
  /-- CCMP and PSK are recorded exactly for an RSN element that is accepted. -/
  ccmp : ((beaconBss skb generation).cipher = cipherCcmp ∧
      (beaconBss skb generation).akm = akmPsk) ↔ ∃ element ∈ elements, (rsnGroup element).isSome
  /-- The group cipher is that of the last one. -/
  group : ∀ group, (elements.filterMap rsnGroup).getLast? = some group →
    (beaconBss skb generation).groupCipher = group
  /-- Otherwise TKIP is recorded exactly for a WPA element, and nothing else. -/
  tkip : (∀ element ∈ elements, rsnGroup element = none) →
    ((beaconBss skb generation).cipher = cipherTkip ↔ ∃ element ∈ elements, isWpaElement element)
  none : (∀ element ∈ elements, rsnGroup element = .none) →
    (∀ element ∈ elements, isWpaElement element = false) → (beaconBss skb generation).cipher = 0
  channel : ∀ front ds back, elements = front ++ ds :: back → isNonzeroDsElement ds →
    decides front back → (beaconBss skb generation).channel = (Bytes.byte ds.body 0).toNat

/-- What is recorded of a frame follows from its elements. -/
def BeaconSettled (decides : List Element → List Element → Prop) (skb : Skb) (generation : Nat) :
    Prop :=
  ∀ elements, Carries skb elements → Settled decides skb generation elements

theorem beaconBss_security {skb : Skb} {elements : List Element} (carries : Carries skb elements)
    (generation : Nat) : (beaconBss skb generation).security = advertised elements := by
  rw [carries.read]
  exact foldl_security rfl elements

theorem advertised_of_none {elements : List Element}
    (absent : ∀ element ∈ elements, rsnGroup element = none) :
    advertised elements =
      if elements.any isWpaElement then ⟨cipherTkip, cipherTkip, akmPsk⟩ else ⟨0, 0, 0⟩ := by
  rw [advertised, List.filterMap_eq_nil_iff.mpr absent]
  rfl

theorem channelOfFreq_known {channel : Nat} (known : channel ≠ 0) (freq : Nat) :
    channelOfFreq channel freq = channel := by
  rw [channelOfFreq, if_pos known]

theorem beaconBss_settled (skb : Skb) (generation : Nat) :
    BeaconSettled LastDs skb generation := by
  intro elements carries
  have security := beaconBss_security carries generation
  have cipher := congrArg Security.cipher security
  have groupCipher := congrArg Security.groupCipher security
  have akm := congrArg Security.akm security
  simp only [Bss.security] at cipher groupCipher akm
  constructor
  case ccmp =>
    rw [cipher, akm]
    by_cases absent : ∀ element ∈ elements, rsnGroup element = none
    · rw [advertised_of_none absent]
      have never : ¬ ∃ element ∈ elements, (rsnGroup element).isSome := by
        rintro ⟨element, member, accepted⟩
        rw [absent element member] at accepted
        cases accepted
      simp only [never, iff_false]
      cases elements.any isWpaElement <;> decide
    · obtain ⟨group, last⟩ : ∃ group, (elements.filterMap rsnGroup).getLast? = some group := by
        apply Option.ne_none_iff_exists'.mp
        rw [ne_eq, List.getLast?_eq_none_iff, List.filterMap_eq_nil_iff]
        exact absent
      have present : ∃ element ∈ elements, (rsnGroup element).isSome := by
        obtain ⟨element, member, accepted⟩ :=
          List.mem_filterMap.mp (List.mem_of_getLast? last)
        exact ⟨element, member, by rw [accepted]; rfl⟩
      rw [advertised, last]
      simp [present]
  case group =>
    intro group last
    rw [groupCipher, advertised, last]
  case tkip =>
    intro absent
    rw [cipher, advertised_of_none absent, ← List.any_eq_true]
    cases elements.any isWpaElement <;> simp [cipherTkip]
  case none =>
    intro absent others
    have never : elements.any isWpaElement = false := List.any_eq_false.mpr fun element member => by
      rw [others element member]
      exact Bool.false_ne_true
    rw [cipher, advertised_of_none absent, never]
    rfl
  case channel =>
    rintro front ds back rfl nonzero last
    simp only [isNonzeroDsElement, decide_eq_true_eq] at nonzero
    have given := channel_of_ds nonzero.1 (front.foldl absorbElement (beaconFixed skb))
    have known : (Bytes.byte ds.body 0).toNat ≠ 0 := fun zero =>
      nonzero.2 (UInt8.toNat_inj.mp zero)
    have kept := foldl_channel last (given ▸ known)
    have folded : ((front ++ ds :: back).foldl absorbElement (beaconFixed skb)).channel =
        (Bytes.byte ds.body 0).toNat := by
      rw [List.foldl_append, List.foldl_cons, kept, given]
    rw [carries.read]
    simp only [folded]
    exact channelOfFreq_known known _

/-- A beacon with two DS Parameter elements, for channel 6 and for channel 0. -/
def twoChannels : Skb :=
  ⟨0, zeros 36 ++ [3, 1, 6, 3, 1, 0], 0, 0, 0⟩

/-- A later DS Parameter element for channel 0 hides the channel. -/
theorem not_settled : ¬ ∀ skb generation, BeaconSettled OnlyNonzeroDs skb generation := by
  intro settled
  let first : Element := ⟨3, [6], by decide⟩
  let second : Element := ⟨3, [0], by decide⟩
  have carries : Carries twoChannels [first, second] := ⟨[], truncated_nil, rfl⟩
  have only : OnlyNonzeroDs [] [second] := by
    intro other member
    obtain rfl := List.mem_singleton.mp member
    rfl
  have recorded := (settled twoChannels 0 _ carries).channel [] first [second] rfl (by decide) only
  exact absurd recorded (by decide)

end AirportRtw88
