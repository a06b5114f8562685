import AirportRtw88.BeaconElements
import AirportRtw88.Connect
import Mathlib.Data.List.TakeWhile

/-!
# What a cached entry keeps of a beacon

The copy of the elements that the consumers parse again, and the name of the network.
-/

namespace AirportRtw88

open Bytes InfoElements

/-! ## The copy of the elements -/

/-- The walk of `copyTargetRsnIE` and of `fillScanResultFromBSS`: the first RSN element. -/
def findRsnIe : Nat → Bytes → Option Bytes
  | 0, _ => none
  | fuel + 1, rest =>
      if rest.length < 2 then none
      else
        let n := (rest.byte 1).toNat + 2
        if n > rest.length then none
        else if rest.byte 0 = 48 then some (rest.take n)
        else findRsnIe fuel (rest.drop n)

/-- The RSN element that the consumers of an entry find in its copy. -/
def Bss.rsnIe (bss : Bss) : Option Bytes :=
  findRsnIe (bss.ies.length + 1) bss.ies

/-- What `copyTargetRsnIE` answers. -/
inductive RsnIeCopy : Type where
  | success (ie : Bytes)
  | noSpace
  | notFound
  deriving DecidableEq

/-- `copyTargetRsnIE`. -/
def Ieee80211.copyTargetRsnIE (s : Ieee80211) (capacity : Nat) : RsnIeCopy :=
  if s.assocRsnIE.length ≥ 2 then
    if capacity < s.assocRsnIE.length then .noSpace else .success s.assocRsnIE
  else
    match s.targetBSS.rsnIe with
    | none => .notFound
    | some ie => if ie.length > capacity then .noSpace else .success ie

/-- The RSN element that `fillScanResultFromBSS` copies into `asr_ie_data[1024]`. -/
def Bss.scanResultRsnIe (bss : Bss) : Option Bytes :=
  bss.rsnIe.map fun ie => ie.take 1024

/-- The elements that fit into the copy, in addition to those that are there. -/
def keepElements : List Element → List Element → List Element
  | kept, [] => kept
  | kept, element :: rest =>
      if (encodeAll kept).length + element.encode.length < 512 then
        keepElements (kept ++ [element]) rest
      else keepElements kept rest

/-- The copy of an entry consists of whole elements of its beacon, in their order. -/
structure CopyWhole (bss : Bss) (elements : List Element) : Prop where
  sublist : (keepElements [] elements).Sublist elements
  whole : bss.ies = encodeAll (keepElements [] elements)

/-- The RSN element that the consumers find is accepted, with the group cipher that was recorded. -/
def CopyAgrees (bss : Bss) : Prop :=
  bss.cipher = cipherCcmp →
    (∃ ie, bss.rsnIe = some ie ∧ rtw88RsnSelectCcmpPsk (ie.drop 2) = some bss.groupCipher) ∧
      ∃ ie, bss.scanResultRsnIe = some ie ∧
        rtw88RsnSelectCcmpPsk (ie.drop 2) = some bss.groupCipher

/-- The first RSN element that fits is accepted, with the group suite of the last one that is
accepted. -/
def FirstRsnSelected (elements : List Element) : Prop :=
  ∀ group, (elements.filterMap rsnGroup).getLast? = some group →
    ((keepElements [] elements).find? fun element => element.id = eidRsn).bind rsnGroup = some group

/-- What the copy keeps of a beacon; its RSN element is the right one under a condition. -/
def CopyFaithful (condition : List Element → Prop) (skb : Skb) (generation : Nat) : Prop :=
  ∀ elements, Carries skb elements →
    CopyWhole (beaconBss skb generation) elements ∧
      (CopyAgrees (beaconBss skb generation) ↔ condition elements)

theorem findRsnIe_finds :
    Finds findRsnIe fun element => if element.id = 48 then some element.encode else none where
  stop fuel tail truncated := by
    rw [findRsnIe]
    by_cases short : List.length tail < 2
    · rw [if_pos short]
    · have beyond := truncated.resolve_left short
      rw [if_neg short, if_pos]
      rw [byte]
      omega
  next fuel element rest := by
    have long : 2 + element.body.length ≤ (element.encode ++ rest).length := by
      rw [List.length_append, element.length_encode]
      omega
    obtain ⟨id, length⟩ := byte_encode element rest
    have total : element.body.length + 2 = 2 + element.body.length := Nat.add_comm _ _
    rw [findRsnIe, if_neg (by omega)]
    simp only [id, length, total, take_encode, drop_encode]
    rw [if_neg (by omega)]
    split <;> rfl

theorem keepElements_append (kept elements : List Element) (element : Element) :
    keepElements kept (elements ++ [element]) =
      if (encodeAll (keepElements kept elements)).length + element.encode.length < 512 then
        keepElements kept elements ++ [element]
      else keepElements kept elements := by
  induction elements generalizing kept with
  | nil => rfl
  | cons first elements ih =>
      rw [List.cons_append, keepElements, keepElements]
      split
      · exact ih _
      · exact ih _

theorem keepElements_sublist (elements : List Element) :
    (keepElements [] elements).Sublist elements := by
  induction elements using List.reverseRecOn with
  | nil => exact List.Sublist.refl []
  | append_singleton elements element ih =>
      rw [keepElements_append]
      split
      · exact ih.append (List.Sublist.refl [element])
      · exact ih.trans (List.sublist_append_left elements [element])

theorem readBeaconElement_ies (bss : Bss) (id : UInt8) (body : Bytes) :
    (readBeaconElement bss id body).ies = bss.ies := by
  unfold readBeaconElement
  simp only
  repeat' split
  all_goals rfl

theorem foldl_ies {bss : Bss} (fresh : bss.ies = []) (elements : List Element) :
    (elements.foldl absorbElement bss).ies = encodeAll (keepElements [] elements) := by
  apply foldl_absorbElement fun elements bss => bss.ies = encodeAll (keepElements [] elements)
  · exact fresh
  intro elements element bss known
  rw [keepElements_append, absorbElement]
  simp only [readBeaconElement_ies, known]
  split
  · rw [encodeAll_append, encodeAll_cons, encodeAll_nil, List.append_nil]
  · rw [readBeaconElement_ies, known]

theorem beaconBss_whole {skb : Skb} {elements : List Element} (carries : Carries skb elements)
    (generation : Nat) : CopyWhole (beaconBss skb generation) elements where
  sublist := keepElements_sublist elements
  whole := by
    rw [carries.read]
    exact foldl_ies rfl elements

/-- The consumers find the first RSN element that was copied. -/
theorem CopyWhole.rsnIe {bss : Bss} {elements : List Element} (copy : CopyWhole bss elements) :
    bss.rsnIe =
      ((keepElements [] elements).find? fun element => element.id = eidRsn).map Element.encode := by
  have few := length_le_encodeAll (keepElements [] elements)
  have found := findRsnIe_finds.eq_findSome truncated_nil (Nat.lt_succ_of_le few)
  rw [List.append_nil] at found
  rw [Bss.rsnIe, copy.whole, found]
  induction keepElements [] elements with
  | nil => rfl
  | cons element rest ih =>
      rw [List.findSome?_cons, List.find?_cons]
      by_cases rsn : element.id = 48
      · simp [rsn, eidRsn]
      · simpa [rsn, eidRsn] using ih

/-- An RSN element is shorter than the buffer of a scan result. -/
theorem CopyWhole.scanResultRsnIe {bss : Bss} {elements : List Element}
    (copy : CopyWhole bss elements) : bss.scanResultRsnIe = bss.rsnIe := by
  rw [Bss.scanResultRsnIe, copy.rsnIe]
  cases (keepElements [] elements).find? fun element => element.id = eidRsn with
  | none => rfl
  | some element =>
      have short := element.short
      have long := element.length_encode
      rw [Option.map_some, Option.map_some, List.take_of_length_le (by omega)]

/-- The consumers accept what they find under the condition. -/
theorem CopyWhole.selects_iff {bss : Bss} {elements : List Element}
    (copy : CopyWhole bss elements) (group : Nat) :
    (∃ ie, bss.rsnIe = some ie ∧ rtw88RsnSelectCcmpPsk (ie.drop 2) = some group) ↔
      ((keepElements [] elements).find? fun element => element.id = eidRsn).bind rsnGroup =
        some group := by
  rw [copy.rsnIe]
  cases found : (keepElements [] elements).find? fun element => element.id = eidRsn with
  | none => simp
  | some element =>
      have rsn := List.find?_some found
      simp only [decide_eq_true_eq] at rsn
      have body : element.encode.drop 2 = element.body := rfl
      simp [rsnGroup, rsn, body]

theorem copyFaithful (skb : Skb) (generation : Nat) :
    CopyFaithful FirstRsnSelected skb generation := by
  intro elements carries
  have copy := beaconBss_whole carries generation
  refine ⟨copy, ?_⟩
  have security := beaconBss_security carries generation
  have cipher : (beaconBss skb generation).cipher = (advertised elements).cipher :=
    congrArg Security.cipher security
  have groupCipher : (beaconBss skb generation).groupCipher = (advertised elements).groupCipher :=
    congrArg Security.groupCipher security
  rw [CopyAgrees, FirstRsnSelected, cipher, groupCipher, advertised, copy.scanResultRsnIe, and_self]
  cases (elements.filterMap rsnGroup).getLast? with
  | none =>
      have other : (if elements.any isWpaElement then Security.mk cipherTkip cipherTkip akmPsk
          else ⟨0, 0, 0⟩).cipher ≠ cipherCcmp := by
        split <;> decide
      exact iff_of_true (fun ccmp => absurd ccmp other) (by rintro _ ⟨⟩)
  | some group => simpa using copy.selects_iff group

/-- A beacon with an RSN element that is not accepted in front of one that is. -/
def twoRsnElements : Skb :=
  ⟨0, zeros 36 ++ [48, 0] ++ rtw88BuildSelectedRsnIe cipherCcmp, 0, 0, 0⟩

/-- The first RSN element of the copy may be another one than the one that was selected. -/
theorem not_copyFaithful : ¬ ∀ skb generation, CopyFaithful (fun _ => True) skb generation := by
  intro faithful
  let first : Element := ⟨48, [], by decide⟩
  let second : Element := ⟨48, (rtw88BuildSelectedRsnIe cipherCcmp).drop 2, by decide⟩
  have carries : Carries twoRsnElements [first, second] := ⟨[], truncated_nil, rfl⟩
  have agrees := (faithful twoRsnElements 0 _ carries).2.mpr trivial
  obtain ⟨⟨ie, found, selected⟩, -⟩ := agrees (by decide)
  have first : (beaconBss twoRsnElements 0).rsnIe = some [48, 0] := by decide
  obtain rfl : [48, 0] = ie := Option.some.inj (first.symm.trans found)
  exact absurd selected (by decide)

/-! ## The name of the network -/

/-- The bytes of an SSID element of legal length. -/
def ssidOf (element : Element) : Option Bytes :=
  if element.id = eidSsid ∧ 0 < element.body.length ∧ element.body.length ≤ 32 then
    some element.body
  else none

/-- The last SSID, or nothing. -/
def lastSsid (elements : List Element) : Bytes :=
  (elements.filterMap ssidOf).getLast?.getD []

/-- The byte that the last SSID longer than this position has there. -/
def leftover (elements : List Element) (position : Nat) : UInt8 :=
  (((elements.filterMap ssidOf).filter fun ssid => position < ssid.length).getLast?.map
    fun ssid => ssid.byte position).getD 0

/-- The counted bytes of the name are the last SSID, and all others are zero. -/
structure SsidIntact (bss : Bss) (elements : List Element) : Prop where
  bound : bss.ssidLen ≤ 32
  counted : bss.ssid.take bss.ssidLen = lastSsid elements
  rest : bss.ssid.drop bss.ssidLen = zeros (33 - bss.ssidLen)

/-- No SSID left a byte after the end of the last one. -/
def SsidsSettle (elements : List Element) : Prop :=
  ∀ position, (lastSsid elements).length ≤ position → leftover elements position = 0

/-- The name of an entry, by its counted bytes. -/
def Bss.name (bss : Bss) : Bytes :=
  bss.ssid.take bss.ssidLen

/-- The arguments of `cmdConnect` for a name and a BSSID that `handleASSOCIATE` was given. -/
structure ConnectArgs.Requests (args : ConnectArgs) (name : Bytes)
    (bssid : Option Bytes) : Prop where
  ssid : args.ssid = some (name ++ zeros (33 - name.length))
  bssid : args.bssid = bssid
  some : name ≠ []
  short : name.length ≤ 32

/-- The entry that `cmdConnect` selects from a list. -/
def connectTarget (list : List Bss) (args : ConnectArgs) : Option Bss :=
  if args.ssidOk then list.find? fun bss => bss.matches args else none

/-- An entry has the requested BSSID, if one was given. -/
def Bss.hasBssid (bss : Bss) (bssid : Option Bytes) : Bool :=
  bssid.all fun bssid => bss.bssid = bssid.take 6

/-- `cmdConnect` selects an entry with the requested name and BSSID, if there is one, and no
other. -/
structure SelectsExactly (list : List Bss) (args : ConnectArgs) (name : Bytes)
    (bssid : Option Bytes) : Prop where
  only : ∀ bss, connectTarget list args = some bss → bss.name = name ∧ bss.hasBssid bssid
  found : (∃ bss ∈ list, bss.name = name ∧ bss.hasBssid bssid) →
    (connectTarget list args).isSome

/-- The C strings tell the entry and the request apart exactly when their names differ.  With the
same name, it does not start with a NUL, and it has a NUL or one follows it in the entry; with
another name, the two differ before their first NUL, or the request starts with one. -/
def Distinguished (bss : Bss) (name : Bytes) : Prop :=
  if bss.name = name then name.cString ≠ [] ∧ (0 ∈ name ∨ bss.ssid.byte bss.ssidLen = 0)
  else name.cString = [] ∨ bss.ssid.cString ≠ name.cString

/-- The name buffer: its length, the counted bytes, and what earlier names left behind. -/
structure NameBuffer (elements : List Element) (bss : Bss) : Prop where
  size : bss.ssid.length = 33
  count : bss.ssidLen = (lastSsid elements).length
  bound : bss.ssidLen ≤ 32
  counted : bss.ssid.take bss.ssidLen = lastSsid elements
  bytes : ∀ position, bss.ssid.byte position = leftover elements position

/-- The names of the networks are intact, and `cmdConnect` goes by them, under conditions on the
elements of a beacon, and on an entry and a request. -/
structure SsidIntegrity (settle : List Element → Prop) (distinguished : Bss → Bytes → Prop)
    (skb : Skb) (generation : Nat) (list : List Bss) (args : ConnectArgs) (name : Bytes)
    (bssid : Option Bytes) : Prop where
  entry : ∀ elements, Carries skb elements →
    (SsidIntact (beaconBss skb generation) elements ↔ settle elements)
  /-- With one entry in the cache. -/
  each : args.Requests name bssid → (SelectsExactly [beaconBss skb generation] args name bssid ↔
    ((beaconBss skb generation).hasBssid bssid → distinguished (beaconBss skb generation) name))
  /-- With any entries in the cache. -/
  all : args.Requests name bssid →
    (∀ bss ∈ list, bss.hasBssid bssid → distinguished bss name) →
      SelectsExactly list args name bssid

theorem readBeaconElement_ssid (bss : Bss) (element : Element) :
    (readBeaconElement bss element.id element.body).ssid =
        ((ssidOf element).elim bss.ssid fun ssid => bss.ssid.overwrite 0 ssid) ∧
      (readBeaconElement bss element.id element.body).ssidLen =
        (ssidOf element).elim bss.ssidLen List.length := by
  unfold readBeaconElement ssidOf
  by_cases legal : element.id = eidSsid ∧ 0 < element.body.length ∧ element.body.length ≤ 32
  · simp [legal]
  · simp only [legal, if_false, Option.elim_none]
    repeat' split
    all_goals exact ⟨rfl, rfl⟩

theorem absorbElement_ssid (bss : Bss) (element : Element) :
    (absorbElement bss element).ssid =
        ((ssidOf element).elim bss.ssid fun ssid => bss.ssid.overwrite 0 ssid) ∧
      (absorbElement bss element).ssidLen = (ssidOf element).elim bss.ssidLen List.length := by
  rw [← (readBeaconElement_ssid bss element).1, ← (readBeaconElement_ssid bss element).2,
    absorbElement]
  split <;> exact ⟨rfl, rfl⟩

theorem ssidOf_bounds {element : Element} {ssid : Bytes} (legal : ssidOf element = some ssid) :
    0 < ssid.length ∧ ssid.length ≤ 32 := by
  rw [ssidOf, Option.ite_none_right_eq_some] at legal
  obtain ⟨⟨-, positive, short⟩, same⟩ := legal
  obtain rfl : element.body = ssid := Option.some.inj same
  exact ⟨positive, short⟩

theorem byte_overwrite (target source : Bytes) (position : Nat) :
    (target.overwrite 0 source).byte position =
      if position < source.length then source.byte position else target.byte position := by
  rw [overwrite, List.take_zero, List.nil_append, Nat.zero_add]
  by_cases inside : position < source.length
  · rw [if_pos inside, byte_append_left inside]
  · have later : source.length + (position - source.length) = position := by omega
    simp [byte, List.getElem?_append_right (Nat.le_of_not_lt inside), inside, later]

theorem lastSsid_append (elements : List Element) (element : Element) :
    lastSsid (elements ++ [element]) = (ssidOf element).getD (lastSsid elements) := by
  rw [lastSsid, List.filterMap_append]
  cases legal : ssidOf element <;> simp [legal, lastSsid]

theorem leftover_append (elements : List Element) (element : Element) (position : Nat) :
    leftover (elements ++ [element]) position =
      (ssidOf element).elim (leftover elements position) fun ssid =>
        if position < ssid.length then ssid.byte position else leftover elements position := by
  rw [leftover, List.filterMap_append]
  cases legal : ssidOf element with
  | none => simp [legal, leftover]
  | some ssid =>
      by_cases inside : position < ssid.length
      · simp [legal, inside]
      · simp [legal, inside, leftover]

theorem NameBuffer.absorb {elements : List Element} {bss : Bss} (buffer : NameBuffer elements bss)
    (element : Element) : NameBuffer (elements ++ [element]) (absorbElement bss element) := by
  obtain ⟨ssid, ssidLen⟩ := absorbElement_ssid bss element
  have last := lastSsid_append elements element
  have byte := leftover_append elements element
  cases legal : ssidOf element with
  | none =>
      rw [legal] at ssid ssidLen last
      constructor
      case size => rw [ssid]; exact buffer.size
      case count => rw [ssidLen, last]; exact buffer.count
      case bound => rw [ssidLen]; exact buffer.bound
      case counted => rw [ssid, ssidLen, last]; exact buffer.counted
      case bytes =>
        intro position
        rw [ssid, byte, legal]
        exact buffer.bytes position
  | some name =>
      obtain ⟨-, short⟩ := ssidOf_bounds legal
      rw [legal] at ssid ssidLen last
      simp only [Option.elim_some, Option.getD_some] at ssid ssidLen last
      constructor
      case size => rw [ssid, length_overwrite (by rw [buffer.size]; omega), buffer.size]
      case count => rw [ssidLen, last]
      case bound => rwa [ssidLen]
      case counted =>
        rw [ssid, ssidLen, last, overwrite, List.take_zero, List.nil_append]
        exact List.take_left
      case bytes =>
        intro position
        rw [ssid, byte_overwrite, byte, legal, buffer.bytes]
        rfl

theorem foldl_ssid {bss : Bss} (zero : bss.ssid = zeros 33) (none : bss.ssidLen = 0)
    (elements : List Element) : NameBuffer elements (elements.foldl absorbElement bss) := by
  apply foldl_absorbElement NameBuffer
  · constructor
    case size => rw [zero]; rfl
    case count => exact none
    case bound => omega
    case counted => rw [none]; rfl
    case bytes =>
      intro position
      rw [zero]
      by_cases inside : position < 33
      · exact byte_replicate inside 0
      · simp [byte, zeros, inside, leftover]
  · exact fun elements element bss buffer => buffer.absorb element

theorem beaconBss_name {skb : Skb} {elements : List Element} (carries : Carries skb elements)
    (generation : Nat) : NameBuffer elements (beaconBss skb generation) := by
  rw [carries.read]
  have zero : (beaconFixed skb).ssid = zeros 33 := rfl
  have buffer := foldl_ssid zero rfl elements
  exact ⟨buffer.size, buffer.count, buffer.bound, buffer.counted, buffer.bytes⟩

/-- A buffer is zero from a position on if all its bytes there are zero. -/
theorem drop_eq_zeros (bytes : Bytes) (start : Nat) :
    bytes.drop start = zeros (bytes.length - start) ↔
      ∀ position, start ≤ position → bytes.byte position = 0 := by
  constructor
  · intro zero position later
    by_cases inside : position < bytes.length
    · have read := congrArg (fun rest => byte rest (position - start)) zero
      have back : start + (position - start) = position := by omega
      simp only [byte, List.getD_eq_getElem?_getD, List.getElem?_drop, back] at read ⊢
      rw [read]
      exact byte_replicate (by omega) 0
    · simp [byte, inside]
  · intro zero
    apply List.ext_getElem
    · simp [zeros]
    · intro index inside _
      rw [List.length_drop] at inside
      have read := zero (start + index) (by omega)
      have below : start + index < bytes.length := by omega
      simpa [byte, below, zeros] using read

theorem NameBuffer.intact_iff {elements : List Element} {bss : Bss}
    (buffer : NameBuffer elements bss) : SsidIntact bss elements ↔ SsidsSettle elements := by
  have rest := drop_eq_zeros bss.ssid bss.ssidLen
  rw [buffer.size] at rest
  constructor
  · intro intact position later
    rw [← buffer.bytes]
    exact rest.mp intact.rest position (by rw [buffer.count]; exact later)
  · intro settle
    refine ⟨buffer.bound, buffer.counted, rest.mpr fun position later => ?_⟩
    rw [buffer.bytes]
    exact settle position (by rw [← buffer.count]; exact later)

/-! ## Selection by C strings -/

theorem cString_append_zeros (name : Bytes) (count : Nat) :
    Bytes.cString (name ++ zeros count) = name.cString := by
  have none : (zeros count).takeWhile (· != 0) = [] := by
    cases count <;> rfl
  rw [cString, cString, List.takeWhile_append, none]
  split
  · rename_i whole
    rw [List.append_nil]
    exact (List.takeWhile_prefix _).eq_of_length whole |>.symm
  · rfl

/-- A C string of a name and what follows it is that of the name if one of them ends it. -/
theorem cString_append_eq (name rest : Bytes) :
    Bytes.cString (name ++ rest) = name.cString ↔ 0 ∈ name ∨ rest.cString = [] := by
  rw [cString, cString, List.takeWhile_append]
  by_cases zero : (0 : UInt8) ∈ name
  · have shorter : (name.takeWhile (· != 0)).length ≠ name.length := by
      intro whole
      have same := (List.takeWhile_prefix (· != 0)).eq_of_length whole
      have kept := List.mem_takeWhile_imp (same ▸ zero)
      simp at kept
    rw [if_neg shorter]
    simp [zero]
  · have same : name.takeWhile (· != 0) = name := by
      apply List.takeWhile_eq_self_iff.mpr
      intro value member
      simpa using fun same : value = 0 => zero (same ▸ member)
    rw [same, if_pos rfl]
    simp [zero, cString]

theorem cString_eq_nil (bytes : Bytes) : bytes.cString = [] ↔ bytes.byte 0 = 0 := by
  cases bytes with
  | nil => simp [cString, byte]
  | cons first rest => simp [cString, byte, List.takeWhile_cons]

section Selection

variable {args : ConnectArgs} {name : Bytes} {bssid : Option Bytes}

theorem ConnectArgs.Requests.ssidOk_iff (requests : args.Requests name bssid) :
    args.ssidOk = true ↔ name.cString ≠ [] := by
  have short := requests.short
  have prefixed := (List.takeWhile_prefix (· != 0) (l := name)).length_le
  rw [ssidOk, requests.ssid]
  simp only [Option.any_some, cString_append_zeros, decide_eq_true_eq, ne_eq, and_iff_left_iff_imp]
  intro _
  exact Nat.le_trans prefixed short

theorem ConnectArgs.Requests.matches_iff (requests : args.Requests name bssid) (bss : Bss) :
    bss.matches args = true ↔ bss.ssid.cString = name.cString ∧ bss.hasBssid bssid = true := by
  simp [Bss.matches, Bss.hasBssid, requests.ssid, requests.bssid, cString_append_zeros]

/-- The C strings go by the names exactly when entry and request are distinguished. -/
theorem distinguished_iff (bss : Bss) (name : Bytes) :
    Distinguished bss name ↔
      ((name.cString ≠ [] ∧ bss.ssid.cString = name.cString) ↔ bss.name = name) := by
  rw [Distinguished]
  by_cases same : bss.name = name
  · have split : name ++ bss.ssid.drop bss.ssidLen = bss.ssid := by
      rw [← same]
      exact List.take_append_drop ..
    have next : Bytes.cString (bss.ssid.drop bss.ssidLen) = [] ↔ bss.ssid.byte bss.ssidLen = 0 := by
      rw [cString_eq_nil]
      simp [byte]
    have equal := cString_append_eq name (bss.ssid.drop bss.ssidLen)
    rw [split, next] at equal
    rw [if_pos same, equal]
    simp [same]
  · rw [if_neg same]
    simp only [same, iff_false, not_and]
    tauto

theorem ConnectArgs.Requests.target (requests : args.Requests name bssid) (list : List Bss) :
    connectTarget list args =
      if name.cString ≠ [] then list.find? fun bss => bss.matches args else none := by
  rw [connectTarget]
  simp only [requests.ssidOk_iff]

/-- Where all entries are distinguished from the request, the selection is exact. -/
theorem selectsExactly_of_distinguished (requests : args.Requests name bssid) {list : List Bss}
    (distinguished : ∀ bss ∈ list, bss.hasBssid bssid → Distinguished bss name) :
    SelectsExactly list args name bssid := by
  have exact : ∀ bss ∈ list, bss.hasBssid bssid = true →
      ((name.cString ≠ [] ∧ bss.ssid.cString = name.cString) ↔ bss.name = name) := by
    intro bss member here
    exact (distinguished_iff bss name).mp (distinguished bss member here)
  rw [ne_eq] at exact
  constructor
  case only =>
    intro bss selected
    rw [requests.target, Option.ite_none_right_eq_some] at selected
    obtain ⟨some, selected⟩ := selected
    have taken := List.find?_some selected
    rw [requests.matches_iff] at taken
    exact ⟨(exact bss (List.mem_of_find?_eq_some selected) taken.2).mp ⟨some, taken.1⟩, taken.2⟩
  case found =>
    rintro ⟨bss, member, named, here⟩
    obtain ⟨some, equal⟩ := (exact bss member here).mpr named
    rw [requests.target, if_pos some, List.find?_isSome]
    exact ⟨bss, member, (requests.matches_iff bss).mpr ⟨equal, here⟩⟩

/-- A single entry is selected exactly only if it is distinguished from the request. -/
theorem distinguished_of_selectsExactly (requests : args.Requests name bssid) {bss : Bss}
    (selects : SelectsExactly [bss] args name bssid) (here : bss.hasBssid bssid) :
    Distinguished bss name := by
  rw [distinguished_iff]
  constructor
  · rintro ⟨some, equal⟩
    have taken := (requests.matches_iff bss).mpr ⟨equal, here⟩
    exact (selects.only bss (by rw [requests.target, if_pos some]; simp [taken])).1
  · intro named
    have found := selects.found ⟨bss, List.mem_singleton_self bss, named, here⟩
    rw [requests.target] at found
    split at found
    · rename_i some
      rw [List.find?_isSome] at found
      obtain ⟨other, member, taken⟩ := found
      obtain rfl := List.mem_singleton.mp member
      exact ⟨some, ((requests.matches_iff other).mp taken).1⟩
    · cases found

end Selection

theorem ssidIntegrity (skb : Skb) (generation : Nat) (list : List Bss) (args : ConnectArgs)
    (name : Bytes) (bssid : Option Bytes) :
    SsidIntegrity SsidsSettle Distinguished skb generation list args name bssid := by
  constructor
  case entry => exact fun elements carries => (beaconBss_name carries generation).intact_iff
  case each =>
    intro requests
    constructor
    · exact distinguished_of_selectsExactly requests
    · intro distinguished
      apply selectsExactly_of_distinguished requests
      intro bss member
      rwa [List.mem_singleton.mp member]
  case all => exact fun requests => selectsExactly_of_distinguished requests

/-- A beacon with the SSID `AB` in front of the SSID `A`. -/
def twoSsids : Skb :=
  ⟨0, zeros 36 ++ [0, 2, 65, 66, 0, 1, 65], 0, 0, 0⟩

/-- A later shorter SSID leaves a byte of the longer one, and `cmdConnect` does not find it. -/
theorem not_ssidIntegrity : ¬ ∀ skb generation list args name bssid,
    SsidIntegrity (fun _ => True) (fun _ _ => True) skb generation list args name bssid := by
  intro integrity
  let first : Element := ⟨0, [65, 66], by decide⟩
  let second : Element := ⟨0, [65], by decide⟩
  have carries : Carries twoSsids [first, second] := ⟨[], truncated_nil, rfl⟩
  let args : ConnectArgs := ⟨some ([65] ++ zeros 32), none, none, none, false⟩
  have sound := integrity twoSsids 0 [] args [65] none
  have intact := (sound.entry _ carries).mpr trivial
  exact absurd intact.rest (by decide)

end AirportRtw88
