import AirportRtw88.Access
import AirportRtw88.BeaconElements
import AirportRtw88.Iteration
import AirportRtw88.System

/-!
# The channel of a connection

The walk of `setConnectedChandef` stays inside the cached elements and ends, and the last HT and
VHT Operation elements decide.  The channel definition is valid, except that an 80 MHz centre is
taken from the access point as it is.
-/

namespace AirportRtw88

open Bytes InfoElements

namespace Checked

/-- The element walk of `setConnectedChandef` from an offset on, which counts in 16 bits.  It has
no result when it reads past the end or the fuel runs out. -/
def readOperation (ies : Bytes) : Nat → Nat → OperationInfo → Option OperationInfo
  | 0, _, _ => none
  | fuel + 1, i, info => do
      if i + 2 > ies.length then return info
      let id ← ies.read i
      let len ← ies.read (i + 1)
      let len := len.toNat
      if i + 2 + len > ies.length then return info
      let info ←
        if id = eidHtOperation ∧ len ≥ 2 then do
          let d ← ies.read (i + 3)
          pure { info with sco := d &&& 0x03, htStaWidth := d &&& 0x04 ≠ 0 }
        else if id = eidVhtOperation ∧ len ≥ 3 then do
          let width ← ies.read (i + 2)
          let seg0 ← ies.read (i + 3)
          pure { info with vhtWidth := width, vhtSeg0 := seg0 }
        else pure info
      readOperation ies fuel ((i + 2 + len) % 65536) info

/-- It reads only inside the elements, and ends. -/
theorem readOperation_eq {ies : Bytes} (counted : ies.length < 65536) {i : Nat}
    (inside : i ≤ ies.length) {fuel : Nat} (enough : ies.length - i < fuel)
    (info : OperationInfo) :
    readOperation ies fuel i info = some (AirportRtw88.readOperation fuel (ies.drop i) info) := by
  induction fuel generalizing i info with
  | zero => omega
  | succ fuel ih =>
      rw [readOperation, AirportRtw88.readOperation, List.length_drop]
      by_cases short : i + 2 > ies.length
      · rw [if_pos short, if_pos (by omega)]
        rfl
      have id : Bytes.byte (List.drop i ies) 0 = ies.byte i := byte_drop ies i 0
      have len : Bytes.byte (List.drop i ies) 1 = ies.byte (i + 1) := byte_drop ies i 1
      rw [if_neg short, if_neg (by omega), read_eq (by omega), read_eq (by omega)]
      simp only [Option.bind_eq_bind, Option.bind_some, Option.pure_def, id, len, List.drop_drop]
      by_cases cut : i + 2 + (ies.byte (i + 1)).toNat > ies.length
      · rw [if_pos cut, if_pos (by omega)]
      have next : (i + 2 + (ies.byte (i + 1)).toNat) % 65536 =
          i + (2 + (ies.byte (i + 1)).toNat) := by omega
      have whole : ¬ 2 + (ies.byte (i + 1)).toNat > List.length ies - i := by omega
      rw [if_neg cut, if_neg whole, next]
      have go (info : OperationInfo) := ih (i := i + (2 + (ies.byte (i + 1)).toNat)) (by omega)
        (by omega) info
      split
      case isTrue ht =>
        rw [read_eq (by omega)]
        simp only [Option.bind_some]
        rw [go, byte_drop]
      case isFalse =>
        split
        case isTrue vht =>
          rw [read_eq (by omega), read_eq (by omega)]
          simp only [Option.bind_some]
          rw [go, byte_drop, byte_drop]
        case isFalse => exact go info

end Checked

/-! ## What the elements say -/

/-- What an element tells `setConnectedChandef`. -/
def absorbOperation (info : OperationInfo) (element : Element) : OperationInfo :=
  let d : Bytes := element.body
  if element.id = eidHtOperation ∧ d.length ≥ 2 then
    { info with sco := d.byte 1 &&& 0x03, htStaWidth := d.byte 1 &&& 0x04 ≠ 0 }
  else if element.id = eidVhtOperation ∧ d.length ≥ 3 then
    { info with vhtWidth := d.byte 0, vhtSeg0 := d.byte 1 }
  else info

/-- The width and the first centre segment of a VHT Operation element. -/
def vhtOperation (element : Element) : Option (UInt8 × UInt8) :=
  let d : Bytes := element.body
  if element.id = eidVhtOperation ∧ d.length ≥ 3 then some (d.byte 0, d.byte 1) else none

theorem byte_encode_body (element : Element) (rest : Bytes) {index : Nat}
    (inside : index < element.body.length) :
    Bytes.byte (List.drop 2 (element.encode ++ rest)) index = Bytes.byte element.body index := by
  have body : List.drop 2 (element.encode ++ rest) = element.body ++ rest := rfl
  simp [body, byte, List.getElem?_append_left inside]

theorem readOperation_walks : Walks readOperation absorbOperation where
  stop fuel tail info truncated := by
    rw [readOperation]
    by_cases short : List.length tail < 2
    · rw [if_pos short]
    · rw [if_neg short, if_pos]
      exact truncated.resolve_left short
  next fuel element rest info := by
    have long : 2 + element.body.length ≤ (element.encode ++ rest).length := by
      rw [List.length_append, element.length_encode]
      omega
    obtain ⟨id, length⟩ := byte_encode element rest
    rw [readOperation, if_neg (by omega)]
    simp only [id, length, drop_encode]
    rw [if_neg (by omega), absorbOperation]
    congr 1
    split
    case isTrue ht => rw [byte_encode_body element rest (by omega)]
    case isFalse =>
      split
      case isTrue vht =>
        rw [byte_encode_body element rest (by omega), byte_encode_body element rest (by omega)]
      case isFalse => rfl

theorem absorbOperation_vht (info : OperationInfo) (element : Element) :
    ((absorbOperation info element).vhtWidth, (absorbOperation info element).vhtSeg0) =
      (vhtOperation element).getD (info.vhtWidth, info.vhtSeg0) := by
  unfold absorbOperation vhtOperation
  by_cases ht : element.id = eidHtOperation
  · have other : ¬ element.id = eidVhtOperation := by
      rw [ht]
      decide
    simp only [other, false_and, if_false]
    split <;> rfl
  · simp only [ht, false_and, if_false]
    split <;> rfl

/-! ## Validity -/

def ChanWidth.mhz : ChanWidth → Nat
  | .width20NoHt => 20
  | .width40 => 40
  | .width80 => 80

/-- The range of this width around a centre has the primary channel on its raster. -/
def ChanWidth.Contains (centre primary : Int) : ChanWidth → Prop
  | .width20NoHt => centre = primary
  | .width40 => primary - centre ∈ ({-10, 10} : Set Int)
  | .width80 => primary - centre ∈ ({-30, -10, 10, 30} : Set Int)

/-- The widths that the chip has on the band of the target. -/
def Ieee80211.supportsWidth (s : Ieee80211) : ChanWidth → Bool
  | .width20NoHt => true
  | .width40 => s.targetSupportedBand.any fun sb => sb.htCap.cap &&& htCapSupWidth20_40 ≠ 0
  | .width80 => s.targetSupportedBand.any fun sb =>
      sb.htCap.cap &&& htCapSupWidth20_40 ≠ 0 ∧ s.targetBSS.channel > 14 ∧ sb.vhtCap.vhtSupported

/-- The channel definition in the hardware description is that of a range which contains the
channel and which the chip supports, and the recorded width is its width. -/
structure ChandefValid (s : Ieee80211) (chan : Channel) (chandef : Chandef) (connChanWidth : Nat) :
    Prop where
  programmed : chandef.chan = some chan
  range : chandef.width.Contains chandef.centerFreq1 chan.centerFreq
  supported : s.supportsWidth chandef.width
  recorded : connChanWidth = chandef.width.mhz

/-- If the last VHT Operation element asks for 80 MHz where they are used, its centre is one of
the four around the primary channel. -/
def CentreFits (s : Ieee80211) (chan : Channel) (elements : List Element) : Prop :=
  ∀ seg0, s.htAllowed → s.supportsWidth .width80 →
    elements.reverse.findSome? vhtOperation = some (1, seg0) → seg0 ≠ 0 →
    ChanWidth.width80.Contains (5000 + 5 * seg0.toNat) chan.centerFreq

/-- The cached elements of the target, and a truncated tail. -/
def Ieee80211.Caches (s : Ieee80211) (elements : List Element) : Prop :=
  ∃ tail, Truncated tail ∧ s.targetBSS.ies = encodeAll elements ++ tail

/-- `setConnectedChandef` reads only inside the cached elements, whose length is counted in 16
bits, and ends, and what it programs is valid under a condition. -/
def ChandefSound (condition : Ieee80211 → Channel → List Element → Prop) (s : Ieee80211)
    (chan : Channel) : Prop :=
  ∀ elements hw, s.Caches elements → (s.setConnectedChandef chan).hw = some hw →
    s.targetBSS.ies.length < 65536 →
    Checked.readOperation s.targetBSS.ies (s.targetBSS.ies.length + 1) 0 ⟨0, false, 0, 0⟩ =
        some (readOperation (s.targetBSS.ies.length + 1) s.targetBSS.ies ⟨0, false, 0, 0⟩) ∧
      (ChandefValid s chan hw.chandef (s.setConnectedChandef chan).connChanWidth ↔
        condition s chan elements)

theorem Ieee80211.Caches.vht {s : Ieee80211} {elements : List Element} (caches : s.Caches elements)
    (info : OperationInfo) :
    let read := readOperation (s.targetBSS.ies.length + 1) s.targetBSS.ies info
    (read.vhtWidth, read.vhtSeg0) =
      (elements.reverse.findSome? vhtOperation).getD (info.vhtWidth, info.vhtSeg0) := by
  obtain ⟨tail, truncated, split⟩ := caches
  have few : elements.length < s.targetBSS.ies.length + 1 := by
    have least := length_le_encodeAll elements
    rw [split, List.length_append]
    omega
  have folded := readOperation_walks.eq_foldl truncated few info
  rw [← split] at folded
  simp only
  rw [folded]
  exact Iteration.foldl_last (fun info : OperationInfo => (info.vhtWidth, info.vhtSeg0))
    absorbOperation_vht elements info

/-- The width that `setConnectedChandef` programs. -/
def Ieee80211.operating (s : Ieee80211) (chan : Channel) : OperatingWidth :=
  if s.htAllowed then
    match s.targetSupportedBand with
    | some sb =>
        chooseWidth sb (s.targetBSS.channel > 14)
          (readOperation (s.targetBSS.ies.length + 1) s.targetBSS.ies ⟨0, false, 0, 0⟩) chan
    | none => ⟨20, .width20NoHt, chan.centerFreq⟩
  else ⟨20, .width20NoHt, chan.centerFreq⟩

/-- What is programmed is valid if the width is. -/
theorem chandefValid_iff {s : Ieee80211} {chan : Channel} {hw : Hw}
    (tuned : (s.setConnectedChandef chan).hw = some hw) :
    ChandefValid s chan hw.chandef (s.setConnectedChandef chan).connChanWidth ↔
      (s.operating chan).width.Contains (s.operating chan).centerFreq1 chan.centerFreq ∧
        s.supportsWidth (s.operating chan).width ∧
        (s.operating chan).mhz = (s.operating chan).width.mhz := by
  have programmed : s.hw.map (fun hw => { hw with chandef :=
      ⟨some chan, (s.operating chan).width, (s.operating chan).centerFreq1⟩ }) = some hw := tuned
  obtain ⟨_, -, rfl⟩ := Option.map_eq_some_iff.mp programmed
  constructor
  · rintro ⟨-, range, supported, recorded⟩
    exact ⟨range, supported, recorded⟩
  · rintro ⟨range, supported, recorded⟩
    exact ⟨rfl, range, supported, recorded⟩

theorem found_iff {found : Option (UInt8 × UInt8)} {width seg0 : UInt8}
    (last : (width, seg0) = found.getD (0, 0)) (other : UInt8) :
    found = some (1, other) ↔ width = 1 ∧ seg0 = other := by
  cases found with
  | none =>
      obtain ⟨rfl, rfl⟩ : width = 0 ∧ seg0 = 0 := Prod.mk.injEq .. ▸ last
      simp
  | some found =>
      obtain rfl : (width, seg0) = found := last
      simp

/-- A width below 80 MHz always contains the channel. -/
theorem operating_iff {s : Ieee80211} {chan : Channel} {elements : List Element}
    (caches : s.Caches elements) :
    (s.operating chan).width.Contains (s.operating chan).centerFreq1 chan.centerFreq ∧
        s.supportsWidth (s.operating chan).width ∧
        (s.operating chan).mhz = (s.operating chan).width.mhz ↔
      CentreFits s chan elements := by
  have last := caches.vht ⟨0, false, 0, 0⟩
  simp only at last
  unfold Ieee80211.operating CentreFits
  generalize readOperation (s.targetBSS.ies.length + 1) s.targetBSS.ies ⟨0, false, 0, 0⟩ = info
    at last
  cases allowed : s.htAllowed with
  | false => simp [ChanWidth.Contains, Ieee80211.supportsWidth, ChanWidth.mhz]
  | true =>
    cases band : s.targetSupportedBand with
    | none => simp [ChanWidth.Contains, Ieee80211.supportsWidth, ChanWidth.mhz, band]
    | some sb =>
      have supports40 : s.supportsWidth .width40 ↔ sb.htCap.cap &&& htCapSupWidth20_40 ≠ 0 := by
        simp [Ieee80211.supportsWidth, band]
      have supports80 : s.supportsWidth .width80 ↔ sb.htCap.cap &&& htCapSupWidth20_40 ≠ 0 ∧
          s.targetBSS.channel > 14 ∧ sb.vhtCap.vhtSupported = true := by
        simp [Ieee80211.supportsWidth, band]
      simp only [if_true, forall_true_left, chooseWidth, decide_eq_true_eq, supports80,
        found_iff last]
      split
      case isTrue wide =>
        obtain ⟨chip80, width, nonzero⟩ := wide
        constructor
        · rintro ⟨range, -, -⟩ seg0 - ⟨-, rfl⟩ -
          exact range
        · intro fits
          exact ⟨fits info.vhtSeg0 chip80 ⟨width, rfl⟩ nonzero, supports80.mpr chip80, rfl⟩
      case isFalse narrow =>
        apply iff_of_true
        · split
          case isTrue forty =>
            refine ⟨?_, supports40.mpr forty.1, rfl⟩
            simp only [ChanWidth.Contains, Set.mem_insert_iff, Set.mem_singleton_iff]
            split <;> omega
          case isFalse => exact ⟨rfl, rfl, rfl⟩
        · rintro seg0 chip80 ⟨width, rfl⟩ nonzero
          exact absurd ⟨chip80, width, nonzero⟩ narrow

/-- What `setConnectedChandef` programs is valid exactly when the centre that the access point
gives for 80 MHz is one of the four around the primary channel. -/
theorem chandefSound (s : Ieee80211) (chan : Channel) : ChandefSound CentreFits s chan := by
  intro elements hw caches tuned counted
  constructor
  · exact Checked.readOperation_eq counted (Nat.zero_le _) (Nat.lt_succ_self _) _
  · rw [chandefValid_iff tuned]
    exact operating_iff caches

/-- A channel of the 5 GHz band. -/
def channel36 : Channel where
  band := 1
  centerFreq := 5180
  hwValue := 36
  flags := 0

/-- An 80 MHz chip, and a target on channel 36 whose VHT Operation element names channel 155. -/
def distantCentre : Ieee80211 :=
  let s := Ieee80211.started Scenario.attachment
  { s with
    hw := s.hw.map fun hw =>
      { hw with bands := [none, some ⟨1, [channel36],
        { HtCap.none with htSupported := true, cap := htCapSupWidth20_40 },
        { VhtCap.none with vhtSupported := true }⟩] }
    targetBSS := { Bss.empty with channel := 36, ies := [192, 5, 1, 155, 0, 0, 0] } }

/-- The centre that the access point gives may be far from the channel. -/
theorem not_chandefSound : ¬ ∀ s chan, ChandefSound (fun _ _ _ => True) s chan := by
  intro sound
  let operation : Element := ⟨192, [1, 155, 0, 0, 0], by decide⟩
  have caches : distantCentre.Caches [operation] := ⟨[], truncated_nil, rfl⟩
  have valid := (sound distantCentre channel36 _ _ caches rfl (by decide)).2.mpr trivial
  have range : ChanWidth.width80.Contains 5775 5180 := valid.range
  simp only [ChanWidth.Contains, Set.mem_insert_iff, Set.mem_singleton_iff] at range
  omega

end AirportRtw88
