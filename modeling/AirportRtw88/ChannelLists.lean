import AirportRtw88.System

/-!
# Lists of channels

The backend numbers the enabled channels of its band tables, as far as the caller has space for
them.  The controller hands the list out twice: for the infrastructure interface only as a whole,
and for AWDL as far as it goes.  What is handed out is what AWDL can tune to.
-/

namespace AirportRtw88

open Interleave

/-- `RTW88Channel`. -/
structure Rtw88Channel where
  number : Nat
  passive : Bool
  radar : Bool
  deriving DecidableEq

/-- The results of `copyChannels`. -/
inductive CopyAnswer where
  | success
  | notReady
  | noSpace
  deriving DecidableEq

/-- The number of a channel; C rounds a quotient towards zero. -/
def channelNumber (centerFreq : Nat) : Int :=
  let f : Int := centerFreq
  if f = 2484 then 14 else if f < 2500 then (f - 2407).tdiv 5 else (f - 5000).tdiv 5

/-- The loop of `copyChannels` over the channels of a band. -/
def copyBand (capacity : Nat) : List Channel → List Rtw88Channel → CopyAnswer × List Rtw88Channel
  | [], out => (.success, out)
  | chan :: rest, out =>
      if chan.flags &&& chanDisabled ≠ 0 then copyBand capacity rest out
      else if out.length = capacity then (.noSpace, out)
      else
        let number := channelNumber chan.centerFreq
        if number ≤ 0 ∨ number > 196 then copyBand capacity rest out
        else copyBand capacity rest
          (out ++ [⟨number.toNat, chan.flags &&& chanNoIr ≠ 0, chan.flags &&& chanRadar ≠ 0⟩])

/-- The loop of `copyChannels` over the bands. -/
def copyBands (capacity : Nat) :
    List (Option SupportedBand) → List Rtw88Channel → CopyAnswer × List Rtw88Channel
  | [], out => (.success, out)
  | none :: rest, out => copyBands capacity rest out
  | some band :: rest, out =>
      match copyBand capacity band.channels out with
      | (.success, out) => copyBands capacity rest out
      | refused => refused

/-- What CHANNELS_INFO tells about a channel. -/
structure ChannelInfo where
  chanNum : Nat
  passive : Bool
  radarDfs : Bool
  support40Mhz : Bool
  support80Mhz : Bool
  deriving DecidableEq

/-- `APPLE80211_MAX_CHANNELS`. -/
def maxChannels : Nat := 128

namespace Ieee80211

def copyChannels (capacity : Nat) (s : Ieee80211) : CopyAnswer × List Rtw88Channel :=
  match s.hw with
  | none => (.notReady, [])
  | some hw => copyBands capacity hw.bands []

/-- The request for SUPPORTED_CHANNELS or HW_SUPPORTED_CHANNELS: the channels, each with whether
it is flagged as one of 2 GHz. -/
def supportedChannels (s : Ieee80211) : CopyAnswer × List (Nat × Bool) :=
  match s.copyChannels maxChannels with
  | (.success, channels) =>
      (.success, channels.map fun channel => (channel.number, decide (channel.number ≤ 14)))
  | (refused, _) => (refused, [])

/-- The request for CHANNELS_INFO. -/
def channelsInfo (s : Ieee80211) : CopyAnswer × List ChannelInfo :=
  match s.copyChannels maxChannels with
  | (.notReady, _) => (.notReady, [])
  | (_, channels) =>
      (.success, (channels.take maxChannels).map fun channel =>
        { chanNum := channel.number % 256
          passive := channel.passive
          radarDfs := channel.radar
          support40Mhz := channel.number ≠ 14
          support80Mhz := 14 < channel.number })

end Ieee80211

/-! ## The whole list -/

/-- The entry of a channel, if it has a number. -/
def Channel.entry (chan : Channel) : Option Rtw88Channel :=
  let number := channelNumber chan.centerFreq
  if number ≤ 0 ∨ number > 196 then none
  else some ⟨number.toNat, chan.flags &&& chanNoIr ≠ 0, chan.flags &&& chanRadar ≠ 0⟩

/-- The enabled channels of all bands, in order. -/
def Hw.enabled (hw : Hw) : List Channel :=
  (hw.bands.flatMap fun band => (band.map SupportedBand.channels).getD []).filter
    fun chan => chan.flags &&& chanDisabled = 0

/-- What `copyChannels` would hand out if there were space for all. -/
def Hw.listed (hw : Hw) : List Rtw88Channel :=
  hw.enabled.filterMap Channel.entry

variable {capacity : Nat}

theorem copyBand_append (first second : List Channel) (out : List Rtw88Channel) :
    copyBand capacity (first ++ second) out =
      match copyBand capacity first out with
      | (.success, out) => copyBand capacity second out
      | refused => refused := by
  induction first generalizing out with
  | nil => rfl
  | cons chan rest ih =>
      rw [List.cons_append, copyBand, copyBand]
      split
      · exact ih out
      · split
        · rfl
        · dsimp only
          split
          · exact ih out
          · exact ih _

/-- The bands one after the other are one list of channels. -/
theorem copyBands_eq (bands : List (Option SupportedBand)) (out : List Rtw88Channel) :
    copyBands capacity bands out = copyBand capacity
      (bands.flatMap fun band => (band.map SupportedBand.channels).getD []) out := by
  induction bands generalizing out with
  | nil => rfl
  | cons band rest ih =>
      rw [List.flatMap_cons, copyBand_append]
      cases band with
      | none => exact ih out
      | some band =>
          rw [copyBands, Option.map_some, Option.getD_some]
          split
          · exact ih _
          · rfl

/-- The channels before one of a list. -/
theorem exists_before_cons {chan : Channel} {rest : List Channel} {holds : List Channel → Prop} :
    (∃ before next after, chan :: rest = before ++ next :: after ∧ holds before) ↔
      holds [] ∨ ∃ before next after, rest = before ++ next :: after ∧ holds (chan :: before) := by
  constructor
  · rintro ⟨before, next, after, split, holds⟩
    cases before with
    | nil => exact .inl holds
    | cons first before =>
        obtain ⟨rfl, onward⟩ := List.cons.inj split
        exact .inr ⟨before, next, after, onward, holds⟩
  · rintro (holds | ⟨before, next, after, rfl, holds⟩)
    · exact ⟨[], chan, rest, rfl, holds⟩
    · exact ⟨chan :: before, next, after, rfl, holds⟩

/-- The channels are copied in order until there is an enabled one too many. -/
theorem copyBand_spec (capacity : Nat) (channels : List Channel) (out : List Rtw88Channel)
    (fits : out.length ≤ capacity) :
    (copyBand capacity channels out).2 = out ++ ((channels.filter fun chan =>
        chan.flags &&& chanDisabled = 0).filterMap Channel.entry).take (capacity - out.length) ∧
      ((copyBand capacity channels out).1 ≠ .noSpace →
        (copyBand capacity channels out).1 = .success ∧
          (copyBand capacity channels out).2 = out ++ (channels.filter fun chan =>
            chan.flags &&& chanDisabled = 0).filterMap Channel.entry) ∧
      ((copyBand capacity channels out).1 = .noSpace ↔ ∃ before chan after,
        (channels.filter fun chan => chan.flags &&& chanDisabled = 0) = before ++ chan :: after ∧
          out.length + (before.filterMap Channel.entry).length = capacity) := by
  induction channels generalizing out with
  | nil => simp [copyBand]
  | cons chan rest ih =>
      rw [copyBand]
      split
      case isTrue disabled =>
        rw [List.filter_cons_of_neg (by simpa using disabled)]
        exact ih out fits
      case isFalse enabled =>
        rw [List.filter_cons_of_pos (by simpa using enabled)]
        split
        case isTrue full =>
          refine ⟨?_, fun more => absurd rfl more, iff_of_true rfl ⟨[], chan, _, rfl, full⟩⟩
          rw [full, Nat.sub_self, List.take_zero, List.append_nil]
        case isFalse room =>
          have first : out.length + (([] : List Channel).filterMap Channel.entry).length ≠
              capacity := room
          rw [exists_before_cons, or_iff_right first]
          dsimp only
          split
          case isTrue unnumbered =>
            have skips : chan.entry = none := if_pos unnumbered
            simp only [List.filterMap_cons_none skips]
            exact ih out fits
          case isFalse numbered =>
            have adds : chan.entry = some ⟨(channelNumber chan.centerFreq).toNat,
                chan.flags &&& chanNoIr ≠ 0, chan.flags &&& chanRadar ≠ 0⟩ := if_neg numbered
            simp only [List.filterMap_cons_some adds]
            obtain ⟨copied, ready, stops⟩ := ih (out ++ [⟨(channelNumber chan.centerFreq).toNat,
                chan.flags &&& chanNoIr ≠ 0, chan.flags &&& chanRadar ≠ 0⟩]) (by
              rw [List.length_append, List.length_singleton]
              omega)
            rw [List.length_append, List.length_singleton] at copied stops
            have more : capacity - out.length = capacity - (out.length + 1) + 1 := by omega
            refine ⟨?_, fun room => ?_, ?_⟩
            · rw [copied, more, List.take_succ_cons, List.append_assoc, List.singleton_append]
            · obtain ⟨answers, whole⟩ := ready room
              rw [whole, List.append_assoc, List.singleton_append]
              exact ⟨answers, rfl⟩
            · rw [stops]
              simp only [List.length_cons, Nat.add_assoc, Nat.add_comm 1]

variable {s : Ieee80211} {hw : Hw}

theorem copyChannels_spec (found : s.hw = some hw) (capacity : Nat) :
    (s.copyChannels capacity).2 = hw.listed.take capacity ∧
      ((s.copyChannels capacity).1 ≠ .noSpace →
        (s.copyChannels capacity).1 = .success ∧ (s.copyChannels capacity).2 = hw.listed) ∧
      ((s.copyChannels capacity).1 = .noSpace ↔ ∃ before chan after,
        hw.enabled = before ++ chan :: after ∧
          (before.filterMap Channel.entry).length = capacity) := by
  have spec := copyBand_spec capacity (hw.bands.flatMap fun band =>
    (band.map SupportedBand.channels).getD []) [] (Nat.zero_le capacity)
  rw [← copyBands_eq] at spec
  simpa only [Ieee80211.copyChannels, found, Hw.listed, Hw.enabled, List.nil_append,
    List.length_nil, Nat.sub_zero, Nat.zero_add] using spec

theorem Channel.entry_eq_some {chan : Channel} {entry : Rtw88Channel} :
    chan.entry = some entry ↔ (0 < channelNumber chan.centerFreq ∧
      channelNumber chan.centerFreq ≤ 196) ∧ entry = ⟨(channelNumber chan.centerFreq).toNat,
        chan.flags &&& chanNoIr ≠ 0, chan.flags &&& chanRadar ≠ 0⟩ := by
  rw [Channel.entry, Option.ite_none_left_eq_some, Option.some.injEq, not_or, not_le, gt_iff_lt,
    not_lt]
  exact and_congr_right fun _ => eq_comm

theorem number_le_of_listed {entry : Rtw88Channel} (listed : entry ∈ hw.listed) :
    entry.number ≤ 196 := by
  obtain ⟨chan, -, numbers⟩ := List.mem_filterMap.mp listed
  obtain ⟨⟨-, small⟩, rfl⟩ := Channel.entry_eq_some.mp numbers
  exact Int.toNat_le.mpr small

/-- As many channels are handed out as there is space for, in the order of the tables, and it is an
error if another enabled channel follows, numbered or not.  AWDL is told as many channels as the
interface has room for, the infrastructure interface all of them or none. -/
theorem channelLists_agree (s : Ieee80211) (hw : Hw) (found : s.hw = some hw) :
    (∀ capacity, (s.copyChannels capacity).2 = hw.listed.take capacity ∧
      ((s.copyChannels capacity).1 = .noSpace ↔ ∃ before chan after,
        hw.enabled = before ++ chan :: after ∧
          (before.filterMap Channel.entry).length = capacity)) ∧
    s.channelsInfo.1 = .success ∧ s.channelsInfo.2.map ChannelInfo.chanNum =
      (hw.listed.take maxChannels).map Rtw88Channel.number ∧
    (s.supportedChannels = (.noSpace, []) ∨ s.supportedChannels.1 = .success ∧
      s.supportedChannels.2.map Prod.fst = hw.listed.map Rtw88Channel.number) := by
  have names : ∀ channels : List Rtw88Channel, (∀ entry ∈ channels, entry ∈ hw.listed) →
      (channels.map fun channel => channel.number % 256) = channels.map Rtw88Channel.number := by
    intro channels listed
    apply List.map_congr_left
    intro entry member
    have small := number_le_of_listed (listed entry member)
    omega
  obtain ⟨cut, whole, full⟩ := copyChannels_spec found maxChannels
  refine ⟨fun capacity => ?_, ?_⟩
  · obtain ⟨cut, -, full⟩ := copyChannels_spec found capacity
    exact ⟨cut, full⟩
  · rw [Ieee80211.channelsInfo, Ieee80211.supportedChannels]
    generalize s.copyChannels maxChannels = copy at cut whole
    obtain ⟨answer, channels⟩ := copy
    obtain rfl : channels = hw.listed.take maxChannels := cut
    have told : ((hw.listed.take maxChannels).take maxChannels).map
        (fun channel => channel.number % 256) =
          (hw.listed.take maxChannels).map Rtw88Channel.number := by
      rw [List.take_take, Nat.min_self]
      exact names _ fun entry member => List.mem_of_mem_take member
    cases answer with
    | notReady =>
        obtain ⟨ready, -⟩ := whole nofun
        cases ready
    | success =>
        obtain ⟨-, same⟩ := whole nofun
        refine ⟨rfl, (List.map_map ..).trans told, .inr ⟨rfl, (List.map_map ..).trans ?_⟩⟩
        exact congrArg (List.map Rtw88Channel.number) same
    | noSpace => exact ⟨rfl, (List.map_map ..).trans told, .inl rfl⟩

/-- Two channels of 2 GHz, of which one is disabled, and one of 5 GHz. -/
def threeChannels : Hw :=
  { Scenario.attachment.hw with
    bands := [some ⟨0, [⟨0, 2412, 1, 0⟩, ⟨0, 2484, 14, 1⟩], HtCap.none, VhtCap.none⟩, none,
      some ⟨1, [⟨1, 5500, 100, 130⟩], HtCap.none, VhtCap.none⟩] }

theorem channelLists_agree_three :
    let s := { Ieee80211.started Scenario.attachment with hw := some threeChannels }
    s.channelsInfo.2.map ChannelInfo.chanNum = [1, 100] ∧
      s.supportedChannels.2.map Prod.fst = [1, 100] := by
  intro s
  have given : threeChannels.listed.map Rtw88Channel.number = [1, 100] := by decide
  obtain ⟨-, -, told, refused | ⟨-, supported⟩⟩ := channelLists_agree s threeChannels rfl
  · have space : s.supportedChannels.1 = .success := by decide
    rw [refused] at space
    cases space
  · exact ⟨told, supported.trans given⟩

/-! ## Tuning -/

/-- The channels of the two bands have the frequencies of their numbers. -/
def Channel.Standard (band : Nat) (chan : Channel) : Prop :=
  band = 0 ∧ 1 ≤ chan.hwValue ∧ chan.hwValue ≤ 13 ∧ chan.centerFreq = 2407 + 5 * chan.hwValue ∨
  band = 0 ∧ chan.hwValue = 14 ∧ chan.centerFreq = 2484 ∨
  band = 1 ∧ 36 ≤ chan.hwValue ∧ chan.hwValue ≤ 177 ∧ chan.centerFreq = 5000 + 5 * chan.hwValue

theorem Channel.Standard.number {band : Nat} {chan : Channel} (standard : chan.Standard band) :
    channelNumber chan.centerFreq = chan.hwValue := by
  rw [channelNumber]
  rcases standard with ⟨-, one, thirteen, freq⟩ | ⟨-, fourteen, freq⟩ | ⟨-, low, high, freq⟩
  · have steps : (chan.centerFreq : Int) - 2407 = 5 * chan.hwValue := by omega
    rw [if_neg (by omega), if_pos (by omega), steps, Int.mul_tdiv_cancel_left _ (by decide)]
  · rw [if_pos (by omega), fourteen]
    rfl
  · have steps : (chan.centerFreq : Int) - 5000 = 5 * chan.hwValue := by omega
    rw [if_neg (by omega), if_neg (by omega), steps, Int.mul_tdiv_cancel_left _ (by decide)]

theorem Channel.Standard.entry {band : Nat} {chan : Channel} (standard : chan.Standard band) :
    chan.entry = some
      ⟨chan.hwValue, chan.flags &&& chanNoIr ≠ 0, chan.flags &&& chanRadar ≠ 0⟩ := by
  have number := standard.number
  rw [Channel.entry_eq_some, number]
  refine ⟨?_, rfl⟩
  rcases standard with ⟨-, one, thirteen, -⟩ | ⟨-, fourteen, -⟩ | ⟨-, low, high, -⟩ <;> omega

def Hw.Standard (hw : Hw) : Prop :=
  ∀ table, some table ∈ hw.bands → ∀ chan ∈ table.channels, chan.Standard table.band

theorem Hw.mem_enabled {chan : Channel} :
    chan ∈ hw.enabled ↔ ∃ table, some table ∈ hw.bands ∧ chan ∈ table.channels ∧
      chan.flags &&& chanDisabled = 0 := by
  rw [Hw.enabled, List.mem_filter, List.mem_flatMap, decide_eq_true_eq]
  constructor
  · rintro ⟨⟨band, member, inside⟩, on⟩
    cases band with
    | none => cases inside
    | some table => exact ⟨table, member, inside, on⟩
  · rintro ⟨table, member, inside, on⟩
    exact ⟨⟨some table, member, inside⟩, on⟩

/-- The channels that are listed are those that the search of `setAWDLChannel` finds. -/
theorem findChannel_iff_listed (found : s.hw = some hw) (standard : hw.Standard) (channel : Nat) :
    (∃ target, s.findChannel (fun chan =>
      chan.hwValue = channel ∧ chan.flags &&& chanDisabled = 0) = some target) ↔
      ∃ entry ∈ hw.listed, entry.number = channel := by
  rw [Ieee80211.findChannel, found, Option.bind_some]
  constructor
  · rintro ⟨target, finds⟩
    obtain ⟨band, member, inside⟩ := List.exists_of_findSome?_eq_some finds
    obtain ⟨table, rfl, inside⟩ := Option.bind_eq_some_iff.mp inside
    obtain ⟨chan, search, -⟩ := Option.map_eq_some_iff.mp inside
    have fits := List.find?_some search
    have there := List.mem_of_find?_eq_some search
    obtain ⟨same, on⟩ := of_decide_eq_true fits
    exact ⟨_, List.mem_filterMap.mpr ⟨chan, Hw.mem_enabled.mpr ⟨table, member, there, on⟩,
      (standard table member chan there).entry⟩, same⟩
  · rintro ⟨entry, listed, rfl⟩
    obtain ⟨chan, member, numbers⟩ := List.mem_filterMap.mp listed
    obtain ⟨table, present, there, on⟩ := Hw.mem_enabled.mp member
    rw [(standard table present chan there).entry] at numbers
    obtain rfl := Option.some.inj numbers
    apply Option.isSome_iff_exists.mp
    rw [List.findSome?_isSome_iff]
    refine ⟨some table, present, ?_⟩
    rw [Option.bind_some, Option.isSome_map, List.find?_isSome]
    exact ⟨chan, there, decide_eq_true ⟨rfl, on⟩⟩

theorem fits_of_findChannel {channel : Nat} {target : Channel}
    (finds : s.findChannel (fun chan =>
      chan.hwValue = channel ∧ chan.flags &&& chanDisabled = 0) = some target) :
    target.hwValue = channel ∧ target.flags &&& chanDisabled = 0 := by
  obtain ⟨hw, -, finds⟩ := Option.bind_eq_some_iff.mp finds
  obtain ⟨band, -, inside⟩ := List.exists_of_findSome?_eq_some finds
  obtain ⟨table, -, inside⟩ := Option.bind_eq_some_iff.mp inside
  obtain ⟨chan, search, rfl⟩ := Option.map_eq_some_iff.mp inside
  have fits := List.find?_some search
  exact of_decide_eq_true fits

open Prog in
/-- An idle radio takes exactly the channels that are listed, and is tuned to one of that
number. -/
theorem setAWDLChannel_listed (s : Ieee80211) (hw : Hw) (channel : Nat) (found : s.hw = some hw)
    (standard : hw.Standard) (powered : s.powered = true) (idle : s.state = .idle)
    (given : channel ≠ 0) :
    (M.setAWDLChannel channel).Ensures (fun _ _ => True) s fun answer later =>
      (answer = .success ↔ ∃ entry ∈ hw.listed, entry.number = channel) ∧
      (answer = .success → ∃ target, later.hw.map Hw.chandef =
        some ⟨some target, .width20NoHt, target.centerFreq⟩ ∧ target.hwValue = channel ∧
          target.flags &&& chanDisabled = 0) ∧
      (answer ≠ .success → answer = .unsupported ∧ later.hw = s.hw) := by
  have listed := findChannel_iff_listed found standard channel
  have calm : ¬ (s.connectedOrScanning ∨ s.state = .authenticating ∨ s.state = .associating ∨
      s.state = .handshaking) := by
    simp [Ieee80211.connectedOrScanning, idle]
  have ready : (!s.powered || s.hw.isNone || decide (channel = 0)) = false := by
    simp [powered, found, given]
  simp only [M.setAWDLChannel, bind_eq_bind, ensures_bind, ensures_fetch, ready,
    Bool.false_eq_true, if_false, ensures_update, if_neg calm]
  cases search : s.findChannel fun chan =>
      chan.hwValue = channel ∧ chan.flags &&& chanDisabled = 0 with
  | none =>
      have absent : ¬ ∃ entry ∈ hw.listed, entry.number = channel := by
        rw [← listed]
        rintro ⟨target, finds⟩
        rw [search] at finds
        cases finds
      have refused : IOReturn.unsupported ≠ .success := by decide
      exact ⟨iff_of_false refused absent, fun accepted => absurd accepted refused,
        fun _ => ⟨rfl, rfl⟩⟩
  | some target =>
      have advertised := listed.mp ⟨target, search⟩
      have tuned : (s.tuneTo target).hw.map Hw.chandef =
          some ⟨some target, .width20NoHt, target.centerFreq⟩ := by
        rw [Ieee80211.tuneTo, Ieee80211.modifyChandef, found]
        rfl
      simp only [M.perform, bind_eq_bind, ensures_bind, ensures_update, ensures_await]
      exact ⟨trivial, fun _ => ⟨iff_of_true rfl advertised,
        fun _ => ⟨target, tuned, fits_of_findChannel search⟩, fun refused => absurd rfl refused⟩⟩

theorem threeChannels_standard : threeChannels.Standard := by
  intro table member chan inside
  simp only [threeChannels, List.mem_cons, List.not_mem_nil, or_false, reduceCtorEq, false_or,
    Option.some.injEq] at member
  rcases member with rfl | rfl <;>
    simp only [List.mem_cons, List.not_mem_nil, or_false] at inside
  · rcases inside with rfl | rfl <;> simp [Channel.Standard]
  · cases inside
    simp [Channel.Standard]

open Prog in
theorem setAWDLChannel_listed_three :
    (M.setAWDLChannel 100).Ensures (fun _ _ => True)
      { Ieee80211.started Scenario.attachment with hw := some threeChannels, powered := true }
      fun answer _ => answer = .success := by
  have listed := setAWDLChannel_listed
    { Ieee80211.started Scenario.attachment with hw := some threeChannels, powered := true }
    threeChannels 100 rfl threeChannels_standard rfl rfl (by decide)
  refine listed.mono (fun _ _ issued => issued) fun answer later ends => ?_
  exact ends.1.mpr ⟨⟨100, true, true⟩, by decide, rfl⟩

end AirportRtw88
