import AirportRtw88.Aggregates

/-!
# Aggregated and plain delivery

`deliverDataFrame` looks for the LLC bytes of a plain frame and for the subframes of an aggregate
on two paths.  The frames that the stack receives of one MSDU are compared, with the same header
options on both ways.
-/

namespace AirportRtw88

open Interleave Bytes

/-- An MSDU, the header of a plain frame and that of an aggregate. -/
structure TwoWays where
  plain : DataHeader
  aggregate : DataHeader
  sf : Subframe

namespace TwoWays

variable (w : TwoWays)

def plainFrame : Bytes :=
  w.plain.frame w.sf.llc

/-- The aggregate has the MSDU as its only subframe. -/
def aggregateFrame : Bytes :=
  w.aggregate.frame w.sf.bytes

/-- The two headers have the same options, and the plain one has the addresses of the MSDU. -/
structure WellFormed : Prop where
  plain : w.plain.WellFormed
  aggregate : w.aggregate.WellFormed
  single : w.plain.isAggregate = false
  aggregated : w.aggregate.isAggregate = true
  da : w.plain.addr1 = w.sf.da
  sa : w.plain.addr3 = w.sf.sa
  isProtected : w.plain.isProtected = w.aggregate.isProtected
  ccmp : w.plain.ccmp.isSome = w.aggregate.ccmp.isSome
  htControl : w.plain.hasHtControl = w.aggregate.hasHtControl

/-- The stack of a connected station receives the same Ethernet frames on both ways. -/
def DeliversAlike : Prop :=
  ∀ (s : Ieee80211) (plain aggregate : Skb), s.Delivers → plain.data = w.plainFrame →
    aggregate.data = w.aggregateFrame → ∃ frames,
      ((M.deliverDataFrame plain).Traces SameLink Answer.succeeded s fun trace _ _ =>
        deliveredFrames trace = frames) ∧
      (M.deliverDataFrame aggregate).Traces SameLink Answer.succeeded s fun trace _ _ =>
        deliveredFrames trace = frames

/-- There is no HT control field, and a protected frame still has its CCMP header. -/
def Ordinary : Prop :=
  w.plain.hasHtControl = false ∧ (w.plain.isProtected = true → w.plain.ccmp.isSome = true)

/-- In a protected plain frame a CCMP header is found.  The aggregate has, where its subframes are
looked for, one whole subframe with the addresses of the MSDU and an RFC 1042 header, and behind
it is what is read as the payload of the plain frame. -/
structure Coincides : Prop where
  ccmpIv : w.plain.isProtected = true → w.plainFrame.carriesCcmpIv = true
  subframe : ∃ other : Subframe,
    w.aggregateFrame.drop w.aggregateFrame.amsduOffset = other.bytes ∧
    other.da = w.sf.da ∧ other.sa = w.sf.sa ∧ other.llc.isSnap = true ∧
    other.llc.be16At 6 = w.plainFrame.llc.llcEthertype ∧
    other.llc.drop 8 = w.plainFrame.llc.drop 8

/-- When both ways agree. -/
def Alike : Prop :=
  (w.Ordinary ∧ w.sf.llc.isSnap = true) ∨ (¬ w.Ordinary ∧ w.Coincides)

end TwoWays

/-! ## Ethernet frames and their MSDUs -/

/-- The fields have their widths. -/
structure Msdu.Sized (msdu : Msdu) : Prop where
  length_da : msdu.da.length = 6
  length_sa : msdu.sa.length = 6
  ethertype_lt : msdu.ethertype < 65536

theorem Msdu.frame_injective {first second : Msdu} (sized : first.Sized) (other : second.Sized)
    (same : first.frame = second.frame) : first = second := by
  obtain ⟨da, sa, ethertype, payload⟩ := first
  obtain ⟨da', sa', ethertype', payload'⟩ := second
  obtain ⟨length_da, length_sa, ethertype_lt⟩ := sized
  obtain ⟨length_da', length_sa', ethertype_lt'⟩ := other
  simp only [Msdu.frame, List.append_assoc] at *
  obtain ⟨rfl, behindDa⟩ := List.append_inj same (length_da.trans length_da'.symm)
  obtain ⟨rfl, behindSa⟩ := List.append_inj behindDa (length_sa.trans length_sa'.symm)
  obtain ⟨word, rfl⟩ := List.append_inj behindSa rfl
  have value : be16At (be16 ethertype) 0 = be16At (be16 ethertype') 0 := congrArg (be16At · 0) word
  have read := be16At_be16 [] [] _ ethertype_lt
  have read' := be16At_be16 [] [] _ ethertype_lt'
  simp only [List.nil_append, List.append_nil, List.length_nil] at read read'
  rw [read, read'] at value
  rw [value]

theorem Subframe.msdu_sized (sf : Subframe) : sf.msdu.Sized :=
  ⟨sf.length_da, sf.length_sa, be16At_lt _ _⟩

/-- A place in a prefix. -/
theorem StartsWith.inside {sfs : List Subframe} {data : Bytes} (starts : StartsWith sfs data)
    {sf : Subframe} (member : sf ∈ sfs) :
    sf.bytes.length ≤ data.length ∧ (sf.bytes.length = data.length → sf.bytes = data) := by
  induction sfs generalizing data with
  | nil => cases member
  | cons first rest ih =>
      cases member with
      | head => exact ⟨starts.1.length_le, starts.1.eq_of_length⟩
      | tail _ later =>
          have inside := (ih starts.2 later).1
          have stride : 0 < first.stride := by
            unfold Subframe.stride
            omega
          have long := sf.length_bytes
          rw [List.length_drop] at inside
          exact ⟨by omega, fun whole => by omega⟩

namespace TwoWays

variable {w : TwoWays}

namespace WellFormed

variable (wellFormed : w.WellFormed)
include wellFormed

theorem carried_plain : carriedMsdus w.plainFrame = [singleMsdu w.plainFrame] :=
  wellFormed.plain.carriedMsdus_frame _ wellFormed.single w.sf.long

theorem singleMsdu_plain : singleMsdu w.plainFrame =
    ⟨w.sf.da, w.sf.sa, w.plainFrame.llc.llcEthertype, w.plainFrame.llc.drop 8⟩ := by
  have da : w.plainFrame.addr1 = w.sf.da := (wellFormed.plain.addr1_frame _).trans wellFormed.da
  have sa : w.plainFrame.addr3 = w.sf.sa := (wellFormed.plain.addr3_frame _).trans wellFormed.sa
  rw [singleMsdu, da, sa]

theorem singleMsdu_sized : (singleMsdu w.plainFrame).Sized := by
  rw [wellFormed.singleMsdu_plain]
  refine ⟨w.sf.length_da, w.sf.length_sa, ?_⟩
  unfold llcEthertype
  split
  · exact be16At_lt _ _
  · exact Nat.zero_lt_succ _

/-- What is left behind the counted header is longer by the header of the subframe. -/
theorem length_behind :
    w.aggregateFrame.length - w.aggregateFrame.hdrLen =
      w.plainFrame.length - w.plainFrame.hdrLen + 14 ∧
    w.aggregateFrame.hdrLen + 22 ≤ w.aggregateFrame.length ∧
    w.plainFrame.hdrLen + 8 ≤ w.plainFrame.length := by
  have plain : w.plainFrame.length = _ := wellFormed.plain.length_frame w.sf.llc
  have aggregate : w.aggregateFrame.length = _ := wellFormed.aggregate.length_frame w.sf.bytes
  have long := w.sf.long
  rw [wellFormed.htControl, wellFormed.ccmp] at plain
  rw [w.sf.length_bytes] at aggregate
  rw [aggregate, plain, plainFrame, aggregateFrame]
  omega

theorem amsduOffset_aggregate : w.aggregateFrame.amsduOffset =
    w.aggregateFrame.hdrLen + if w.plain.isProtected then 8 else 0 := by
  have sealed : w.aggregateFrame.hasProtected = w.plain.isProtected :=
    (wellFormed.aggregate.hasProtected_frame _).trans wellFormed.isProtected.symm
  rw [amsduOffset, sealed]

theorem carried_aggregate : ∃ sfs,
    Longest sfs (w.aggregateFrame.drop w.aggregateFrame.amsduOffset) ∧
    carriedMsdus w.aggregateFrame = snapMsdus sfs := by
  have shorter : (w.aggregateFrame.drop w.aggregateFrame.amsduOffset).length <
      w.aggregateFrame.length + 1 := by
    rw [List.length_drop]
    omega
  obtain ⟨sfs, longest, found⟩ := amsduMsdus_longest shorter
  have long := wellFormed.length_behind.2.1
  have offset := wellFormed.amsduOffset_aggregate
  have room : w.aggregateFrame.amsduOffset ≤ w.aggregateFrame.length := by
    split at offset <;> omega
  have aggregated : w.aggregateFrame.isAmsdu = true :=
    (wellFormed.aggregate.isAmsdu_frame _).trans wellFormed.aggregated
  refine ⟨sfs, longest, ?_⟩
  rw [carriedMsdus, if_neg (by omega), if_pos aggregated, if_neg (Nat.not_lt.mpr room), found]

/-- The longest payload that an aggregate can have is that of one whole subframe. -/
theorem coincides_of_same
    (same : (carriedMsdus w.plainFrame).map Msdu.frame =
      (carriedMsdus w.aggregateFrame).map Msdu.frame) : w.Coincides := by
  obtain ⟨sfs, longest, found⟩ := wellFormed.carried_aggregate
  rw [wellFormed.carried_plain, found, snapMsdus, List.map_map] at same
  obtain ⟨other, only, frame⟩ := List.map_eq_singleton_iff.mp same.symm
  have member : other ∈ sfs.filter fun sf => sf.llc.isSnap := only ▸ List.mem_singleton.mpr rfl
  obtain ⟨inSfs, snap⟩ := List.mem_filter.mp member
  have msdus : other.msdu = singleMsdu w.plainFrame :=
    Msdu.frame_injective other.msdu_sized wellFormed.singleMsdu_sized frame
  rw [wellFormed.singleMsdu_plain, Subframe.msdu, Msdu.mk.injEq] at msdus
  obtain ⟨da, sa, ethertype, payload⟩ := msdus
  obtain ⟨fits, whole⟩ := longest.starts.inside inSfs
  have payloads := congrArg List.length payload
  have behind := wellFormed.length_behind
  have long := other.long
  have sealed : w.plainFrame.hasProtected = w.plain.isProtected :=
    wellFormed.plain.hasProtected_frame _
  have carries : w.plainFrame.carriesCcmpIv = true → w.plain.isProtected = true ∧
      w.plainFrame.hdrLen + 16 ≤ w.plainFrame.length := by
    intro found
    have facts := of_decide_eq_true found
    rw [sealed] at facts
    exact ⟨facts.2.1, facts.2.2.1⟩
  rw [other.length_bytes, List.length_drop, wellFormed.amsduOffset_aggregate] at fits
  rw [List.length_drop, List.length_drop, Bytes.llc, List.length_drop, payloadOffset] at payloads
  have found : w.plain.isProtected = true → w.plainFrame.carriesCcmpIv = true := by
    intro isProtected
    by_contra missing
    rw [if_pos isProtected] at fits
    rw [if_neg missing] at payloads
    omega
  have skips : (if w.plainFrame.carriesCcmpIv then 8 else 0) =
      if w.plain.isProtected then 8 else 0 := by
    rw [Bool.eq_iff_iff.mpr ⟨fun first => (carries first).1, found⟩]
  have room : w.plainFrame.hdrLen + (if w.plain.isProtected then 8 else 0) + 8 ≤
      w.plainFrame.length := by
    split
    · rename_i isProtected
      have length := (carries (found isProtected)).2
      omega
    · omega
  rw [skips] at payloads
  refine ⟨found, other, (whole ?_).symm, da, sa, snap, ethertype, payload⟩
  rw [other.length_bytes, List.length_drop, wellFormed.amsduOffset_aggregate]
  omega

theorem same_of_coincides (coincides : w.Coincides) :
    carriedMsdus w.plainFrame = carriedMsdus w.aggregateFrame := by
  obtain ⟨sfs, longest, found⟩ := wellFormed.carried_aggregate
  obtain ⟨other, whole, da, sa, snap, ethertype, payload⟩ := coincides.subframe
  have single : Longest [other] (w.aggregateFrame.drop w.aggregateFrame.amsduOffset) := by
    rw [whole]
    exact (Encodes.last other).longest
  have msdus : snapMsdus [other] = [other.msdu] :=
    snapMsdus_of_all fun _ member => List.mem_singleton.mp member ▸ snap
  rw [found, longest.unique single, msdus, wellFormed.carried_plain, wellFormed.singleMsdu_plain,
    Subframe.msdu, da, sa, ethertype, payload]

/-- With ordinary options, the subframes are looked for where the aggregate has them. -/
theorem drop_amsduOffset (ordinary : w.Ordinary) :
    w.aggregateFrame.drop w.aggregateFrame.amsduOffset = w.sf.bytes := by
  have behind := wellFormed.aggregate.drop_hdrLen w.sf.bytes
  have counted : w.aggregate.hasHtControl = false := wellFormed.htControl ▸ ordinary.1
  rw [counted, if_neg Bool.false_ne_true, List.nil_append] at behind
  rw [wellFormed.amsduOffset_aggregate, ← List.drop_drop, aggregateFrame, behind]
  have length : w.aggregate.sealing.length = _ := DataHeader.WellFormed.length_sealing
  cases isProtected : w.plain.isProtected with
  | true =>
      have kept : w.aggregate.ccmp.isSome = true := wellFormed.ccmp ▸ ordinary.2 isProtected
      rw [kept] at length
      exact List.drop_left' length
  | false =>
      have stripped : w.aggregate.ccmp = none := by
        cases present : w.aggregate.ccmp with
        | none => rfl
        | some sealed =>
            have sealing := (wellFormed.aggregate.ccmp _ _ present).1
            rw [← wellFormed.isProtected, isProtected] at sealing
            cases sealing
      rw [stripped] at length
      rw [List.eq_nil_of_length_eq_zero length]
      rfl

theorem coincides_iff (ordinary : w.Ordinary) : w.Coincides ↔ w.sf.llc.isSnap = true := by
  have place := wellFormed.drop_amsduOffset ordinary
  constructor
  · rintro ⟨-, other, whole, -, -, snap, -⟩
    have same : w.sf = other := by
      rw [Subframe.eq_of_prefix (List.prefix_refl w.sf.bytes),
        Subframe.eq_of_prefix (List.prefix_refl other.bytes)]
      congr 1
      exact place.symm.trans whole
    rw [same]
    exact snap
  · intro snap
    have llc : w.plainFrame.llc = w.sf.llc :=
      wellFormed.plain.llc_frame _ ordinary.1 w.sf.long snap
    refine ⟨fun isProtected => ?_, w.sf, place, rfl, rfl, snap, ?_, congrArg _ llc.symm⟩
    · exact (wellFormed.plain.carriesCcmpIv_frame _ ordinary.1 w.sf.long snap).trans
        (ordinary.2 isProtected)
    · rw [llc, llcEthertype, if_pos snap]

theorem alike_iff : w.Alike ↔ w.Coincides := by
  by_cases ordinary : w.Ordinary
  · simp only [Alike, ordinary, wellFormed.coincides_iff ordinary, true_and, not_true_eq_false,
      false_and, or_false]
  · simp only [Alike, ordinary, not_false_eq_true, true_and, false_and, false_or]

end WellFormed

/-- A connected station. -/
def receiver : Ieee80211 :=
  { Ieee80211.started Scenario.attachment with state := .connected }

theorem same_of_deliversAlike (alike : w.DeliversAlike) :
    (carriedMsdus w.plainFrame).map Msdu.frame =
      (carriedMsdus w.aggregateFrame).map Msdu.frame := by
  have delivers : receiver.Delivers := ⟨rfl, rfl⟩
  obtain ⟨frames, plain, aggregate⟩ := alike _ (.ofData _) (.ofData _) delivers rfl rfl
  have first := (plain.and (M.deliverDataFrame_delivers _ delivers)).run_nil SameLink.refl rfl
  have second := (aggregate.and (M.deliverDataFrame_delivers _ delivers)).run_nil SameLink.refl rfl
  exact first.2.symm.trans (first.1.trans (second.1.symm.trans second.2))

/-- An MSDU is delivered alike in a plain frame and as the only subframe of an aggregate if and
only if it has an RFC 1042 header, unless there is an HT control field or a CCMP header was
stripped from a protected frame. -/
theorem deliversAlike_iff (w : TwoWays) (wellFormed : w.WellFormed) :
    w.DeliversAlike ↔ w.Alike := by
  rw [wellFormed.alike_iff]
  constructor
  · exact fun alike => wellFormed.coincides_of_same (same_of_deliversAlike alike)
  · intro coincides s plain aggregate delivers isPlain isAggregate
    refine ⟨_, M.deliverDataFrame_delivers plain delivers, ?_⟩
    rw [isPlain, wellFormed.same_of_coincides coincides, ← isAggregate]
    exact M.deliverDataFrame_delivers aggregate delivers

end TwoWays

namespace Scenario

/-- An MSDU from the access point with these LLC bytes, in unprotected QoS data frames. -/
def twoWays (llc : Bytes) (long : 8 ≤ llc.length) (short : llc.length < 65536) : TwoWays where
  plain := downlinkHeader 0x0288 [0, 0]
  aggregate := downlinkHeader 0x0288 [0x80, 0]
  sf := ⟨ownAddr, apAddr, llc, length_ownAddr, length_apAddr, long, short⟩

theorem wellFormed_twoWays (llc : Bytes) (long : 8 ≤ llc.length) (short : llc.length < 65536) :
    (twoWays llc long short).WellFormed where
  plain := wellFormed_downlinkHeader (by decide) (by decide) (by decide) (by decide) rfl
  aggregate := wellFormed_downlinkHeader (by decide) (by decide) (by decide) (by decide) rfl
  single := show (downlinkHeader 0x0288 [0, 0]).isAggregate = false by decide
  aggregated := show (downlinkHeader 0x0288 [0x80, 0]).isAggregate = true by decide
  da := rfl
  sa := rfl
  isProtected := rfl
  ccmp := rfl
  htControl := rfl

end Scenario

theorem deliversAlike_snap :
    (Scenario.twoWays (snapHeader 0x0800) (by decide) (by decide)).DeliversAlike ↔
      (Scenario.twoWays (snapHeader 0x0800) (by decide) (by decide)).Alike :=
  TwoWays.deliversAlike_iff _ (Scenario.wellFormed_twoWays _ _ _)

/-- An MSDU with another LLC header is delivered from a plain frame, and not from an aggregate. -/
theorem not_deliversAlike : ¬ ∀ w : TwoWays, w.WellFormed → w.DeliversAlike := by
  intro alike
  have wellFormed := Scenario.wellFormed_twoWays [0x42, 0x42, 3, 0, 0, 0, 0, 0] (by decide)
    (by decide)
  have coincides := wellFormed.coincides_of_same (TwoWays.same_of_deliversAlike
    (alike _ wellFormed))
  exact absurd ((wellFormed.coincides_iff ⟨rfl, nofun⟩).mp coincides) (by decide)

end AirportRtw88
