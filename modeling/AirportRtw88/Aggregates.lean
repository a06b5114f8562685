import AirportRtw88.CheckedData
import AirportRtw88.DataDelivery

/-!
# Aggregates

`deAmsdu` walks over the subframes of an aggregate with 32-bit positions.  The walk is compared
with the subframes of the longest prefix that is well formed, and the delivery of an aggregate of
one subframe with that of the same MSDU in a plain frame.
-/

namespace AirportRtw88

open Interleave Bytes

/-- A subframe of an aggregate: an MSDU with its LLC bytes. -/
@[ext]
structure Subframe where
  da : Bytes
  sa : Bytes
  llc : Bytes
  length_da : da.length = 6
  length_sa : sa.length = 6
  long : 8 ≤ llc.length
  short : llc.length < 65536

namespace Subframe

variable (sf : Subframe)

def bytes : Bytes :=
  sf.da ++ sf.sa ++ be16 sf.llc.length ++ sf.llc

/-- The MSDU, for an RFC 1042 header. -/
def msdu : Msdu where
  da := sf.da
  sa := sf.sa
  ethertype := sf.llc.be16At 6
  payload := sf.llc.drop 8

/-- The distance to the next subframe. -/
def stride : Nat :=
  (14 + sf.llc.length + 3) / 4 * 4

@[simp]
theorem length_bytes : sf.bytes.length = 14 + sf.llc.length := by
  have word : (be16 sf.llc.length).length = 2 := rfl
  simp only [bytes, List.length_append, sf.length_da, sf.length_sa, word]

end Subframe

/-- The aggregate is made of the subframes, with padding to a multiple of four bytes between them
and none after the last. -/
inductive Encodes : List Subframe → Bytes → Prop where
  | last (sf : Subframe) : Encodes [sf] sf.bytes
  | cons {sf : Subframe} {padding rest : Bytes} {sfs : List Subframe}
      (padded : sf.bytes.length + padding.length = sf.stride) (later : Encodes sfs rest) :
      Encodes (sf :: sfs) (sf.bytes ++ (padding ++ rest))

/-- The buffer starts with the subframes, each at its place. -/
def StartsWith : List Subframe → Bytes → Prop
  | [], _ => True
  | sf :: sfs, data => sf.bytes <+: data ∧ StartsWith sfs (data.drop sf.stride)

/-- The subframes of the longest well-formed prefix. -/
structure Longest (sfs : List Subframe) (data : Bytes) : Prop where
  starts : StartsWith sfs data
  longest : ∀ other, StartsWith other data → other <+: sfs

/-- What `deAmsdu` should deliver of these subframes. -/
def snapMsdus (sfs : List Subframe) : List Msdu :=
  (sfs.filter fun sf => sf.llc.isSnap).map Subframe.msdu

/-- Where the subframe after these starts. -/
def extent (sfs : List Subframe) : Nat :=
  (sfs.map Subframe.stride).sum

/-! ## The loop -/

/-- How a round of the loop ends. -/
inductive AmsduRound where
  | stops
  | goes (msdu : Option Msdu) (next : Nat)

namespace Checked

/-- The test for the SNAP header, which reads on as long as it matches. -/
def startsSnap (data : Bytes) (pos : Nat) : Option Bool := do
  let first ← data.read pos
  if first ≠ 0xAA then return false
  let second ← data.read (pos + 1)
  if second ≠ 0xAA then return false
  let third ← data.read (pos + 2)
  return third = 0x03

/-- A round of the loop in `deAmsdu`; nothing if it reads outside the buffer. -/
def amsduRound (data : Bytes) (pos : Nat) : Option AmsduRound := do
  if u32 (pos + 14) > data.length then return .stops
  let sublen ← data.readBe16 (pos + 12)
  if sublen < 8 ∨ u32 (pos + 14 + sublen) > data.length then return .stops
  let next := u32 (pos + (14 + sublen + 3) / 4 * 4)
  if !(← startsSnap data (pos + 14)) then return .goes none next
  let ethertype ← data.readBe16 (pos + 14 + 6)
  let da ← data.copy pos 6
  let sa ← data.copy (pos + 6) 6
  let payload ← data.copy (pos + 14 + 8) (sublen - 8)
  return .goes (some ⟨da, sa, ethertype, payload⟩) next

/-- From a position, the loop ends without a read outside the buffer, and delivers these MSDUs. -/
inductive DeAmsdu (data : Bytes) : Nat → List Msdu → Prop where
  | stops {pos : Nat} (round : amsduRound data pos = some .stops) : DeAmsdu data pos []
  | goes {pos next : Nat} {msdu : Option Msdu} {later : List Msdu}
      (round : amsduRound data pos = some (.goes msdu next)) (rest : DeAmsdu data next later) :
      DeAmsdu data pos (msdu.toList ++ later)

end Checked

/-- No 32-bit sum of the walk wraps: after each well-formed prefix, the header of a subframe, and
a subframe that its header announces, would end below 2^32. -/
def Unwrapped (data : Bytes) : Prop :=
  ∀ sfs, StartsWith sfs data → extent sfs + 14 < 4294967296 ∧
    (extent sfs + 14 ≤ data.length → 8 ≤ data.be16At (extent sfs + 12) →
      extent sfs + 14 + data.be16At (extent sfs + 12) < 4294967296)

/-- Only the end of a subframe behind the longest prefix wraps.  Its MSDU does not start like one
with a SNAP header, and the loop delivers nothing from the wrapped position on. -/
def Overlooked (data : Bytes) : Prop :=
  ∃ sfs, Longest sfs data ∧ extent sfs + 14 ≤ data.length ∧
    4294967296 ≤ extent sfs + 14 + data.be16At (extent sfs + 12) ∧
    8 ≤ data.be16At (extent sfs + 12) ∧
    Checked.startsSnap data (extent sfs + 14) = some false ∧
    Checked.DeAmsdu data
      (u32 (extent sfs + (14 + data.be16At (extent sfs + 12) + 3) / 4 * 4)) []

/-- `deAmsdu` delivers the MSDUs of an aggregate, and of every buffer those with a SNAP header in
the longest well-formed prefix: the stack receives their frames. -/
structure AmsduInverse (data : Bytes) : Prop where
  encoded : ∀ sfs, Encodes sfs data → (∀ sf ∈ sfs, sf.llc.isSnap = true) →
    Checked.DeAmsdu data 0 (sfs.map Subframe.msdu)
  longest : ∃ sfs, Longest sfs data ∧ Checked.DeAmsdu data 0 (snapMsdus sfs) ∧
    ∀ (s : Ieee80211) (skb : Skb), s.Delivers → skb.data.isAmsdu = true →
      skb.data.amsduOffset ≤ skb.data.length → skb.data.drop skb.data.amsduOffset = data →
        (M.deliverDataFrame skb).Traces SameLink Answer.succeeded s fun trace _ _ =>
          deliveredFrames trace = (snapMsdus sfs).map Msdu.frame

/-! ## The subframe at a place -/

/-- A subframe starts here, and it ends inside the buffer. -/
structure FitsSubframe (data : Bytes) : Prop where
  header : 14 ≤ data.length
  announced : 8 ≤ data.be16At 12
  inside : 14 + data.be16At 12 ≤ data.length

namespace FitsSubframe

variable {data : Bytes} (fits : FitsSubframe data)

/-- The subframe that starts here. -/
def subframe : Subframe where
  da := data.take 6
  sa := data.slice 6 6
  llc := data.slice 14 (data.be16At 12)
  length_da := by
    have header := fits.header
    simp only [List.length_take]
    omega
  length_sa := by
    have header := fits.header
    exact length_slice (by omega)
  long := by
    rw [length_slice fits.inside]
    exact fits.announced
  short := by
    rw [length_slice fits.inside]
    exact be16At_lt _ _

theorem length_llc : fits.subframe.llc.length = data.be16At 12 :=
  length_slice fits.inside

theorem bytes_subframe : fits.subframe.bytes = data.take (14 + data.be16At 12) := by
  have header := fits.header
  have word : be16 fits.subframe.llc.length = data.slice 12 2 := by
    rw [fits.length_llc, be16_be16At (by omega)]
  have first : data.take 6 ++ data.slice 6 6 = data.take 12 := by
    rw [slice, ← List.take_add]
  have second : data.take 12 ++ data.slice 12 2 = data.take 14 := by
    rw [slice, ← List.take_add]
  rw [Subframe.bytes, word]
  simp only [subframe]
  rw [first, second, slice, ← List.take_add]

theorem prefix_subframe : fits.subframe.bytes <+: data := by
  rw [fits.bytes_subframe]
  exact List.take_prefix _ _

/-- The test for the SNAP header stays inside the MSDU. -/
theorem isSnap_subframe : fits.subframe.llc.isSnap = isSnap (data.drop 14) := by
  have announced := fits.announced
  have same : ∀ index, index < 3 → fits.subframe.llc.byte index = byte (data.drop 14) index :=
    fun index small => byte_take (by omega)
  rw [isSnap, isSnap, same 0 (by decide), same 1 (by decide), same 2 (by decide)]

/-- The MSDU, as the walk reads it. -/
theorem msdu_subframe : fits.subframe.msdu =
    ⟨data.take 6, data.slice 6 6, be16At (data.drop 14) 6,
      slice (data.drop 14) 8 (data.be16At 12 - 8)⟩ := by
  have announced := fits.announced
  have ethertype : fits.subframe.llc.be16At 6 = be16At (data.drop 14) 6 := be16At_take (by omega)
  have payload : fits.subframe.llc.drop 8 = slice (data.drop 14) 8 (data.be16At 12 - 8) := by
    simp only [subframe, slice, List.drop_take]
  rw [Subframe.msdu, ethertype, payload]
  rfl

end FitsSubframe

namespace Subframe

variable {sf : Subframe} {data : Bytes}

/-- The length that a subframe announces is that of its MSDU. -/
theorem be16At_of_prefix (starts : sf.bytes <+: data) : data.be16At 12 = sf.llc.length := by
  obtain ⟨rest, rfl⟩ := starts
  have place : (sf.da ++ sf.sa).length = 12 := by
    simp [sf.length_da, sf.length_sa]
  have word := be16At_be16 (sf.da ++ sf.sa) (sf.llc ++ rest) sf.llc.length sf.short
  rw [place] at word
  simpa only [bytes, List.append_assoc] using word

theorem fits_of_leading (starts : sf.bytes <+: data) : FitsSubframe data := by
  have length := starts.length_le
  have announced := be16At_of_prefix starts
  have long := sf.long
  rw [sf.length_bytes] at length
  exact ⟨by omega, by omega, by omega⟩

/-- At most one subframe starts at a place. -/
theorem eq_of_prefix (starts : sf.bytes <+: data) :
    sf = (fits_of_leading starts).subframe := by
  have announced := be16At_of_prefix starts
  obtain ⟨rest, rfl⟩ := starts
  have word : (be16 sf.llc.length).length = 2 := rfl
  have da : (sf.bytes ++ rest).take 6 = sf.da := by
    simp only [bytes, List.append_assoc]
    exact List.take_left' sf.length_da
  have sa : (sf.bytes ++ rest).slice 6 6 = sf.sa := by
    simp only [bytes, List.append_assoc]
    exact slice_middle _ _ _ sf.length_da sf.length_sa
  have llc : (sf.bytes ++ rest).slice 14 ((sf.bytes ++ rest).be16At 12) = sf.llc := by
    rw [announced]
    have place : (sf.da ++ (sf.sa ++ be16 sf.llc.length)).length = 14 := by
      simp [sf.length_da, sf.length_sa, word]
    have read := slice_middle _ sf.llc rest place rfl
    simpa only [bytes, List.append_assoc] using read
  exact Subframe.ext da.symm sa.symm llc.symm

end Subframe

/-! ## The longest prefix -/

section Longest

variable {data : Bytes}

/-- Where no subframe fits, the prefix is empty. -/
theorem longest_nil (none : ¬ FitsSubframe data) : Longest [] data := by
  refine ⟨trivial, fun other starts => ?_⟩
  cases other with
  | nil => exact List.prefix_refl []
  | cons sf rest => exact absurd (Subframe.fits_of_leading starts.1) none

/-- Where one fits, it is the first of the prefix. -/
theorem longest_cons {sf : Subframe} (starts : sf.bytes <+: data) {sfs : List Subframe}
    (later : Longest sfs (data.drop sf.stride)) : Longest (sf :: sfs) data := by
  refine ⟨⟨starts, later.starts⟩, fun other otherStarts => ?_⟩
  cases other with
  | nil => exact List.nil_prefix
  | cons first rest =>
      obtain rfl : first = sf := by
        rw [Subframe.eq_of_prefix otherStarts.1, ← Subframe.eq_of_prefix starts]
      exact (List.prefix_cons_inj first).mpr (later.longest rest otherStarts.2)

theorem Longest.unique {sfs other : List Subframe} (first : Longest sfs data)
    (second : Longest other data) : sfs = other :=
  (second.longest _ first.starts).eq_of_length_le (first.longest _ second.starts).length_le

/-- The subframes of an aggregate are its longest prefix. -/
theorem Encodes.longest {sfs : List Subframe} (encodes : Encodes sfs data) :
    Longest sfs data := by
  induction encodes with
  | last sf =>
      refine longest_cons (List.prefix_refl _) (longest_nil fun fits => ?_)
      have header := fits.header
      rw [List.length_drop, sf.length_bytes, Subframe.stride] at header
      omega
  | @cons sf padding rest sfs padded later ih =>
      refine longest_cons (List.prefix_append _ _) ?_
      rw [← padded, ← List.append_assoc, List.drop_left' (by rw [List.length_append])]
      exact ih

theorem snapMsdus_of_all {sfs : List Subframe} (snap : ∀ sf ∈ sfs, sf.llc.isSnap = true) :
    snapMsdus sfs = sfs.map Subframe.msdu := by
  rw [snapMsdus, List.filter_eq_self.mpr snap]

theorem snapMsdus_cons (sf : Subframe) (sfs : List Subframe) :
    snapMsdus (sf :: sfs) =
      (if sf.llc.isSnap then some sf.msdu else none).toList ++ snapMsdus sfs := by
  rw [snapMsdus, List.filter_cons]
  cases sf.llc.isSnap <;> rfl

/-- The walk of the model finds the longest prefix. -/
theorem amsduMsdus_longest {fuel : Nat} (enough : data.length < fuel) :
    ∃ sfs, Longest sfs data ∧ amsduMsdus fuel data = snapMsdus sfs := by
  induction fuel generalizing data with
  | zero => exact absurd enough (Nat.not_lt_zero _)
  | succ fuel ih =>
      by_cases fits : FitsSubframe data
      · have length := fits.length_llc
        have starts := fits.prefix_subframe
        have inside := fits.inside
        have header := fits.header
        have announced := fits.announced
        have stride : fits.subframe.stride = (14 + data.be16At 12 + 3) / 4 * 4 := by
          rw [Subframe.stride, length]
        have shorter : (data.drop fits.subframe.stride).length < fuel := by
          rw [List.length_drop, stride]
          omega
        obtain ⟨sfs, later, walked⟩ := ih shorter
        refine ⟨_, longest_cons starts later, ?_⟩
        rw [snapMsdus_cons, ← walked, fits.isSnap_subframe, fits.msdu_subframe, amsduMsdus,
          if_neg (by omega)]
        dsimp only
        rw [if_neg (by omega), stride]
        cases isSnap (data.drop 14) <;> rfl
      · refine ⟨[], longest_nil fits, ?_⟩
        unfold amsduMsdus
        dsimp only
        split
        · rfl
        · rename_i header
          have cut : data.be16At 12 < 8 ∨ 14 + data.be16At 12 > data.length := by
            by_contra whole
            exact fits ⟨by omega, by omega, by omega⟩
          rw [if_pos cut]
          rfl

theorem Longest.tail {sf : Subframe} {sfs : List Subframe} (longest : Longest (sf :: sfs) data) :
    Longest sfs (data.drop sf.stride) := by
  refine ⟨longest.starts.2, fun other starts => ?_⟩
  exact (List.prefix_cons_inj sf).mp (longest.longest (sf :: other) ⟨longest.starts.1, starts⟩)

/-- A prefix goes on with the subframe behind it. -/
theorem startsWith_append {before after : List Subframe} : StartsWith (before ++ after) data ↔
    StartsWith before data ∧ StartsWith after (data.drop (extent before)) := by
  induction before generalizing data with
  | nil => exact (true_and _).symm.to_iff
  | cons first rest ih =>
      have place : data.drop (extent (first :: rest)) =
          (data.drop first.stride).drop (extent rest) := by
        rw [List.drop_drop]
        rfl
      rw [place, List.cons_append, StartsWith, StartsWith, ih, and_assoc]

theorem extent_append (before after : List Subframe) :
    extent (before ++ after) = extent before + extent after := by
  simp only [extent, List.map_append, List.sum_append]

theorem extent_aligned (sfs : List Subframe) : extent sfs % 4 = 0 := by
  induction sfs with
  | nil => rfl
  | cons first rest ih =>
      have sum : extent (first :: rest) = first.stride + extent rest := rfl
      have stride : first.stride % 4 = 0 := Nat.mul_mod_left _ 4
      omega

/-- A prefix ends in the buffer, or within the padding that is not there. -/
theorem extent_le {sfs : List Subframe} (starts : StartsWith sfs data) :
    extent sfs ≤ data.length + 3 := by
  induction sfs generalizing data with
  | nil => exact Nat.zero_le _
  | cons first rest ih =>
      have sum : extent (first :: rest) = first.stride + extent rest := rfl
      have later := ih starts.2
      have inside := starts.1.length_le
      rw [first.length_bytes] at inside
      rw [List.length_drop] at later
      have stride : first.stride ≤ 14 + first.llc.length + 3 := Nat.div_mul_le_self _ 4
      cases rest with
      | nil =>
          have last : extent [] = 0 := rfl
          omega
      | cons second _ =>
          have next := starts.2.1.length_le
          rw [second.length_bytes, List.length_drop] at next
          omega

end Longest

/-! ## The rounds of the loop -/

namespace Checked

variable {data : Bytes} {pos : Nat}

theorem startsSnap_eq (inside : pos + 2 < data.length) :
    startsSnap data pos = some (Bytes.isSnap (data.drop pos)) := by
  have first := byte_drop data pos 0
  have second := byte_drop data pos 1
  have third := byte_drop data pos 2
  unfold startsSnap Bytes.isSnap
  rw [read_eq (by omega), read_eq (by omega), read_eq inside, first, second, third]
  by_cases one : data.byte pos = 0xAA <;> by_cases two : data.byte (pos + 1) = 0xAA <;>
    simp [one, two]

/-- Where no subframe fits, the loop stops. -/
theorem amsduRound_stops (header : pos + 14 < 4294967296)
    (whole : pos + 14 ≤ data.length → 8 ≤ data.be16At (pos + 12) →
      pos + 14 + data.be16At (pos + 12) < 4294967296)
    (none : ¬ FitsSubframe (data.drop pos)) : amsduRound data pos = some .stops := by
  unfold amsduRound
  rw [u32_eq header]
  by_cases ended : pos + 14 > data.length
  · rw [if_pos ended]
    rfl
  · have inside : pos + 12 + 1 < data.length := by omega
    rw [if_neg ended, readBe16_eq inside]
    simp only [Option.bind_eq_bind, Option.bind_some, Option.pure_def]
    have cut : data.be16At (pos + 12) < 8 ∨
        u32 (pos + 14 + data.be16At (pos + 12)) > data.length := by
      by_contra room
      have announced : 8 ≤ data.be16At (pos + 12) := by omega
      rw [u32_eq (whole (by omega) announced)] at room
      refine none ⟨?_, ?_, ?_⟩
      · rw [List.length_drop]
        omega
      · rw [be16At_drop]
        exact announced
      · rw [be16At_drop, List.length_drop]
        omega
    rw [if_pos cut]

/-- Where one fits, the loop delivers it and goes on behind it. -/
theorem amsduRound_goes (small : data.length < 4294967296)
    (fits : FitsSubframe (data.drop pos)) :
    amsduRound data pos = some (.goes
      (if fits.subframe.llc.isSnap then some fits.subframe.msdu else none)
      (u32 (pos + fits.subframe.stride))) := by
  have stride : fits.subframe.stride = (14 + data.be16At (pos + 12) + 3) / 4 * 4 := by
    rw [Subframe.stride, fits.length_llc, be16At_drop]
  have header := fits.header
  have announced := fits.announced
  have inside := fits.inside
  rw [List.length_drop] at header inside
  rw [be16At_drop] at announced inside
  rw [fits.isSnap_subframe, fits.msdu_subframe, stride]
  have read : data.readBe16 (pos + 12) = some (data.be16At (pos + 12)) := readBe16_eq (by omega)
  unfold amsduRound
  rw [u32_eq (by omega), if_neg (by omega), read]
  simp only [Option.bind_eq_bind, Option.bind_some, Option.pure_def]
  rw [if_neg (by rw [u32_eq (by omega)]; omega), startsSnap_eq (by omega)]
  simp only [Option.bind_some, List.drop_drop]
  cases Bytes.isSnap (data.drop (pos + 14)) with
  | false => rfl
  | true =>
      rw [readBe16_eq (by omega), copy_eq (by omega), copy_eq (by omega), copy_eq (by omega)]
      simp only [Option.bind_some, be16At_drop, slice_drop, Nat.add_assoc]
      rfl

/-- From the place of a prefix, the loop delivers the subframes behind it and goes on. -/
theorem deAmsdu_iff (small : data.length < 4294967296) (before : List Subframe)
    {sfs : List Subframe} (longest : Longest sfs (data.drop (extent before))) (out : List Msdu) :
    DeAmsdu data (u32 (extent before)) out ↔
      ∃ later, out = snapMsdus sfs ++ later ∧
        DeAmsdu data (u32 (extent (before ++ sfs))) later := by
  induction sfs generalizing before out with
  | nil =>
      rw [List.append_nil]
      exact ⟨fun walk => ⟨out, rfl, walk⟩, fun ⟨later, same, walk⟩ => same ▸ walk⟩
  | cons sf rest ih =>
      have fits := Subframe.fits_of_leading longest.starts.1
      obtain rfl : sf = fits.subframe := Subframe.eq_of_prefix longest.starts.1
      have inside := fits.header
      rw [List.length_drop] at inside
      have place : u32 (extent before) = extent before := u32_eq (by omega)
      have round := amsduRound_goes small fits
      have next : extent before + fits.subframe.stride = extent (before ++ [fits.subframe]) :=
        (extent_append before [fits.subframe]).symm
      rw [next] at round
      have tail : Longest rest (data.drop (extent (before ++ [fits.subframe]))) := by
        rw [← next, ← List.drop_drop]
        exact longest.tail
      have later := ih _ tail
      rw [List.append_assoc, List.singleton_append] at later
      rw [place, snapMsdus_cons]
      constructor
      · intro walk
        cases walk with
        | stops stopped =>
            rw [round] at stopped
            cases stopped
        | goes went rest =>
            rw [round] at went
            cases went
            obtain ⟨end', rfl, walk⟩ := (later _).mp rest
            exact ⟨end', (List.append_assoc _ _ _).symm, walk⟩
      · rintro ⟨end', rfl, walk⟩
        rw [List.append_assoc]
        exact .goes round ((later _).mpr ⟨end', rfl, walk⟩)

/-- The loop delivers the longest prefix if and only if it delivers nothing behind it. -/
theorem deAmsdu_longest (small : data.length < 4294967296) {sfs : List Subframe}
    (longest : Longest sfs data) :
    DeAmsdu data 0 (snapMsdus sfs) ↔ DeAmsdu data (u32 (extent sfs)) [] := by
  have walk := deAmsdu_iff small [] longest (snapMsdus sfs)
  rw [List.nil_append] at walk
  refine walk.trans ⟨?_, fun walk => ⟨[], (List.append_nil _).symm, walk⟩⟩
  rintro ⟨later, same, walk⟩
  obtain rfl : later = [] := List.self_eq_append_right.mp same
  exact walk

/-- What a round can be from which the loop delivers nothing. -/
theorem DeAmsdu.nothing {out : List Msdu} (walk : DeAmsdu data pos out) (empty : out = []) :
    amsduRound data pos = some .stops ∨
      ∃ next, amsduRound data pos = some (.goes none next) ∧ DeAmsdu data next [] := by
  cases walk with
  | stops round => exact .inl round
  | @goes _ next msdu later round rest =>
      obtain ⟨noMsdu, rfl⟩ := List.append_eq_nil_iff.mp empty
      obtain rfl := Option.toList_eq_nil_iff.mp noMsdu
      exact .inr ⟨next, round, rest⟩

/-! ## Positions that wrap -/

/-- If the place behind the last subframe wraps to the start, the loop goes round for ever. -/
theorem DeAmsdu.not_on_path (small : data.length < 4294967296) {sfs : List Subframe}
    (longest : Longest sfs data) (wraps : extent sfs = 4294967296) {out : List Msdu}
    (walk : DeAmsdu data pos out) (before : List Subframe) (sf : Subframe)
    (after : List Subframe) (split : sfs = before ++ sf :: after) : pos ≠ extent before := by
  have fits : ∀ before sf after, sfs = before ++ sf :: after →
      sf.bytes <+: data.drop (extent before) := by
    rintro before sf after rfl
    exact (startsWith_append.mp longest.starts).2.1
  have round : ∀ before sf after, sfs = before ++ sf :: after →
      ∃ msdu, amsduRound data (extent before) =
        some (.goes msdu (u32 (extent before + sf.stride))) := by
    intro before sf after split
    have starts := fits before sf after split
    have goes := amsduRound_goes small (Subframe.fits_of_leading starts)
    rw [← Subframe.eq_of_prefix starts] at goes
    exact ⟨_, goes⟩
  induction walk generalizing before sf after with
  | stops stopped =>
      rintro rfl
      obtain ⟨_, goes⟩ := round before sf after split
      rw [goes] at stopped
      cases stopped
  | goes went _ ih =>
      rintro rfl
      obtain ⟨_, goes⟩ := round before sf after split
      rw [goes] at went
      cases went
      have sum : extent (before ++ [sf]) = extent before + sf.stride := extent_append before [sf]
      cases after with
      | nil =>
          have start : u32 (extent before + sf.stride) = extent [] := by
            rw [← sum, ← split, wraps]
            rfl
          cases sfs with
          | nil => cases before <;> cases split
          | cons first rest => exact ih [] first rest rfl start
      | cons second more =>
          have again : sfs = (before ++ [sf]) ++ second :: more := by
            rw [split, List.append_assoc]
            rfl
          have inside := (fits _ second more again).length_le
          rw [List.length_drop, second.length_bytes] at inside
          refine ih _ second more again ?_
          rw [u32_eq (by omega), sum]

/-- A header that would end past 2^32 is taken for one at the start of the buffer, and read. -/
theorem amsduRound_header (small : data.length < 4294967296) (inRange : pos < 4294967296)
    (aligned : pos % 4 = 0) (wraps : 4294967296 ≤ pos + 14) (whole : pos ≤ data.length + 3) :
    amsduRound data pos = none := by
  have near : u32 (pos + 14) ≤ data.length := by
    unfold u32
    omega
  have outside : data.readBe16 (pos + 12) = none := by
    rw [readBe16, Bytes.read, List.getElem?_eq_none (by omega)]
    rfl
  unfold amsduRound
  rw [if_neg (Nat.not_lt.mpr near), outside]
  rfl

/-- Where the end of an announced subframe wraps, its MSDU is only not read if it does not start
like one with a SNAP header. -/
theorem amsduRound_announced (header : pos + 14 ≤ data.length) (small : data.length < 4294967296)
    (announced : 8 ≤ data.be16At (pos + 12))
    (wraps : 4294967296 ≤ pos + 14 + data.be16At (pos + 12)) :
    amsduRound data pos = (startsSnap data (pos + 14)).bind fun snap =>
      if snap then none
      else some (.goes none (u32 (pos + (14 + data.be16At (pos + 12) + 3) / 4 * 4))) := by
  have word := be16At_lt data (pos + 12)
  have near : u32 (pos + 14 + data.be16At (pos + 12)) ≤ data.length := by
    unfold u32
    omega
  have outside : data.copy (pos + 14 + 8) (data.be16At (pos + 12) - 8) = none :=
    if_neg (by omega)
  unfold amsduRound
  rw [u32_eq (by omega), if_neg (by omega), readBe16_eq (by omega)]
  simp only [Option.bind_eq_bind, Option.bind_some, Option.pure_def]
  rw [if_neg (by omega), outside]
  congr 1
  funext snap
  cases snap with
  | false => rfl
  | true =>
      simp only [Bool.not_true, Bool.false_eq_true, if_false, if_true, Option.bind_none,
        Option.bind_fun_none]

end Checked

/-! ## When the walk is right -/

section Wrapped

variable {data : Bytes} {sfs : List Subframe}

/-- Only behind the longest prefix can a sum wrap. -/
theorem unwrapped_iff (small : data.length < 4294967296) (longest : Longest sfs data) :
    Unwrapped data ↔ extent sfs + 14 < 4294967296 ∧
      (extent sfs + 14 ≤ data.length → 8 ≤ data.be16At (extent sfs + 12) →
        extent sfs + 14 + data.be16At (extent sfs + 12) < 4294967296) := by
  refine ⟨fun unwrapped => unwrapped sfs longest.starts, fun last other starts => ?_⟩
  obtain ⟨after, rfl⟩ := longest.longest other starts
  cases after with
  | nil =>
      rw [List.append_nil] at last
      exact last
  | cons sf after =>
      have first := (startsWith_append.mp longest.starts).2.1
      have fits := Subframe.fits_of_leading first
      have header := fits.header
      have inside := fits.inside
      rw [List.length_drop] at header inside
      rw [be16At_drop] at inside
      exact ⟨by omega, fun _ _ => by omega⟩

theorem Longest.not_fits_end (longest : Longest sfs data) :
    ¬ FitsSubframe (data.drop (extent sfs)) := by
  intro fits
  have starts : StartsWith (sfs ++ [fits.subframe]) data :=
    startsWith_append.mpr ⟨longest.starts, fits.prefix_subframe, trivial⟩
  have shorter := (longest.longest _ starts).length_le
  rw [List.length_append, List.length_singleton] at shorter
  omega

theorem overlooked_iff (longest : Longest sfs data) : Overlooked data ↔
    extent sfs + 14 ≤ data.length ∧
      4294967296 ≤ extent sfs + 14 + data.be16At (extent sfs + 12) ∧
      8 ≤ data.be16At (extent sfs + 12) ∧
      Checked.startsSnap data (extent sfs + 14) = some false ∧
      Checked.DeAmsdu data
        (u32 (extent sfs + (14 + data.be16At (extent sfs + 12) + 3) / 4 * 4)) [] := by
  constructor
  · rintro ⟨other, otherLongest, facts⟩
    rw [otherLongest.unique longest] at facts
    exact facts
  · exact fun facts => ⟨sfs, longest, facts⟩

/-- Behind the longest prefix, the loop delivers nothing if no sum wraps, or if the wrapped end is
that of an MSDU that it passes over. -/
theorem deAmsdu_end_iff (small : data.length < 4294967296) (longest : Longest sfs data) :
    Checked.DeAmsdu data (u32 (extent sfs)) [] ↔ Unwrapped data ∨ Overlooked data := by
  have reach := extent_le longest.starts
  have aligned := extent_aligned sfs
  rw [unwrapped_iff small longest, overlooked_iff longest]
  by_cases turn : extent sfs = 4294967296
  · have endless : ¬ Checked.DeAmsdu data (u32 (extent sfs)) [] := by
      intro walk
      rw [turn] at walk
      cases sfs with
      | nil => cases turn
      | cons first rest => exact walk.not_on_path small longest turn [] first rest rfl rfl
    exact iff_of_false endless (by omega)
  have place : u32 (extent sfs) = extent sfs := u32_eq (by omega)
  rw [place]
  by_cases header : extent sfs + 14 < 4294967296
  · by_cases announced : extent sfs + 14 ≤ data.length ∧ 8 ≤ data.be16At (extent sfs + 12) ∧
        4294967296 ≤ extent sfs + 14 + data.be16At (extent sfs + 12)
    · obtain ⟨room, long, wraps⟩ := announced
      have round := Checked.amsduRound_announced room small long wraps
      constructor
      · intro walk
        have first := walk.nothing rfl
        rw [round] at first
        cases snap : Checked.startsSnap data (extent sfs + 14) with
        | none => simp [snap] at first
        | some found =>
            cases found with
            | true => simp [snap] at first
            | false =>
                simp only [snap, Option.bind_some, Bool.false_eq_true, if_false, Option.some.injEq,
                  reduceCtorEq, AmsduRound.goes.injEq, true_and, false_or, exists_eq_left'] at first
                exact .inr ⟨room, wraps, long, rfl, first⟩
      · rintro (unwrapped | ⟨-, -, -, snap, rest⟩)
        · exact absurd (unwrapped.2 room long) (Nat.not_lt.mpr wraps)
        · rw [snap] at round
          exact .goes round rest
    · have whole : extent sfs + 14 ≤ data.length → 8 ≤ data.be16At (extent sfs + 12) →
          extent sfs + 14 + data.be16At (extent sfs + 12) < 4294967296 :=
        fun room long => Nat.lt_of_not_le fun wraps => announced ⟨room, long, wraps⟩
      have round := Checked.amsduRound_stops header whole longest.not_fits_end
      exact iff_of_true (.stops round) (.inl ⟨header, whole⟩)
  · have round : Checked.amsduRound data (extent sfs) = none :=
      Checked.amsduRound_header small (by omega) aligned (Nat.not_lt.mp header) reach
    have stuck : ¬ Checked.DeAmsdu data (extent sfs) [] := by
      intro walk
      have first := walk.nothing rfl
      simp [round] at first
    exact iff_of_false stuck (by omega)

/-- `deAmsdu` inverts the encoding of an aggregate, and finds the longest well-formed prefix of
every other buffer, if and only if no 32-bit sum wraps, or only the end of a last MSDU that is
passed over. -/
theorem amsduInverse_iff (data : Bytes) (small : data.length < 4294967296) :
    AmsduInverse data ↔ Unwrapped data ∨ Overlooked data := by
  obtain ⟨sfs, longest, -⟩ := amsduMsdus_longest (Nat.lt_succ_self data.length)
  rw [← deAmsdu_end_iff small longest, ← Checked.deAmsdu_longest small longest]
  constructor
  · rintro ⟨-, other, otherLongest, walk, -⟩
    rw [longest.unique otherLongest]
    exact walk
  · intro walk
    refine ⟨?_, sfs, longest, walk, ?_⟩
    · intro encoded encodes snap
      rw [← snapMsdus_of_all snap, encodes.longest.unique longest]
      exact walk
    · intro s skb delivers amsdu room content
      have long : data.length < skb.data.length + 1 := by
        rw [← content, List.length_drop]
        omega
      obtain ⟨other, otherLongest, found⟩ := amsduMsdus_longest long
      have whole : ¬ skb.data.length < skb.data.hdrLen := by
        have offset : skb.data.hdrLen ≤ skb.data.amsduOffset := Nat.le_add_right _ _
        omega
      have carried : carriedMsdus skb.data = snapMsdus sfs := by
        rw [carriedMsdus, if_neg whole, if_pos amsdu, if_neg (Nat.not_lt.mpr room), content, found,
          otherLongest.unique longest]
      rw [← carried]
      exact M.deliverDataFrame_delivers skb delivers

/-- In a buffer that ends 64 KiB below 2^32, no sum wraps. -/
theorem unwrapped_of_short (data : Bytes) (short : data.length + 65552 ≤ 4294967296) :
    Unwrapped data := by
  intro sfs starts
  have reach := extent_le starts
  have word := be16At_lt data (extent sfs + 12)
  exact ⟨by omega, fun room _ => by omega⟩

end Wrapped

/-- A subframe between two stations, with a packet of an EtherType. -/
def subframeOf (ethertype : Nat) (packet : Bytes) (short : packet.length < 1000) : Subframe where
  da := [0x02, 0, 0, 0, 0, 0x01]
  sa := [0x02, 0, 0, 0, 0, 0x02]
  llc := snapHeader ethertype ++ packet
  length_da := rfl
  length_sa := rfl
  long := by
    rw [List.length_append]
    exact Nat.le_add_right 8 _
  short := by
    have header : (snapHeader ethertype).length = 8 := rfl
    rw [List.length_append, header]
    omega

def shortPackets : List Subframe :=
  [subframeOf 0x0800 [0x45] (by decide), subframeOf 0x86dd [0x60, 0, 0] (by decide),
    subframeOf 0x0806 [] (by decide)]

/-- One byte of padding behind the first subframe, three behind the second. -/
def paddedPackets : Bytes :=
  (subframeOf 0x0800 [0x45] (by decide)).bytes ++ ([0] ++
    ((subframeOf 0x86dd [0x60, 0, 0] (by decide)).bytes ++ ([0, 0, 0] ++
      (subframeOf 0x0806 [] (by decide)).bytes)))

theorem encodes_paddedPackets : Encodes shortPackets paddedPackets :=
  .cons rfl (.cons rfl (.last _))

theorem amsduInverse_padded :
    AmsduInverse paddedPackets ∧
      Checked.DeAmsdu paddedPackets 0 (shortPackets.map Subframe.msdu) := by
  have inverse : AmsduInverse paddedPackets :=
    (amsduInverse_iff _ (by decide)).mpr (.inl (unwrapped_of_short _ (by decide)))
  exact ⟨inverse, inverse.encoded shortPackets encodes_paddedPackets (by decide)⟩

/-! ## A buffer whose last subframe wraps -/

theorem be16At_ones {count index : Nat} (inside : index + 1 < count) :
    Bytes.be16At (List.replicate count 1) index = 257 := by
  rw [be16At, byte_replicate (by omega), byte_replicate inside]
  rfl

/-- A buffer of ones has subframes of 257 bytes. -/
theorem longest_ones (left : Nat) :
    ∃ sfs, Longest sfs (List.replicate (272 * left + 14) 1) ∧ extent sfs = 272 * left := by
  induction left with
  | zero =>
      refine ⟨[], longest_nil fun fits => ?_, rfl⟩
      have inside := fits.inside
      rw [be16At_ones (by decide), List.length_replicate] at inside
      omega
  | succ left ih =>
      obtain ⟨sfs, longest, place⟩ := ih
      have length : (List.replicate (272 * (left + 1) + 14) (1 : UInt8)).length =
          272 * (left + 1) + 14 := List.length_replicate
      have word : Bytes.be16At (List.replicate (272 * (left + 1) + 14) 1) 12 = 257 :=
        be16At_ones (by omega)
      have fits : FitsSubframe (List.replicate (272 * (left + 1) + 14) 1) := by
        constructor <;> omega
      have stride : fits.subframe.stride = 272 := by
        rw [Subframe.stride, fits.length_llc, word]
      have rest : (List.replicate (272 * (left + 1) + 14) (1 : UInt8)).drop fits.subframe.stride =
          List.replicate (272 * left + 14) 1 := by
        have left' : 272 * (left + 1) + 14 - 272 = 272 * left + 14 := by omega
        rw [List.drop_replicate, stride, left']
      refine ⟨_, longest_cons fits.prefix_subframe (rest ▸ longest), ?_⟩
      have sum : extent (fits.subframe :: sfs) = fits.subframe.stride + extent sfs := rfl
      omega

/-- The walk over a buffer of ones reads behind it. -/
theorem not_amsduInverse_ones {left : Nat} (long : 4294967039 ≤ 272 * left + 14)
    (small : 272 * left + 14 < 4294967296) :
    ¬ AmsduInverse (List.replicate (272 * left + 14) 1) := by
  rintro ⟨-, other, otherLongest, walk, -⟩
  obtain ⟨sfs, longest, place⟩ := longest_ones left
  have length : (List.replicate (272 * left + 14) (1 : UInt8)).length = 272 * left + 14 :=
    List.length_replicate
  have word : Bytes.be16At (List.replicate (272 * left + 14) 1) (extent sfs + 12) = 257 :=
    be16At_ones (by omega)
  rw [← length] at small
  rw [otherLongest.unique longest, Checked.deAmsdu_longest small longest,
    deAmsdu_end_iff small longest, unwrapped_iff small longest, overlooked_iff longest,
      word] at walk
  obtain unwrapped | ⟨-, -, -, snap, -⟩ := walk
  · have wraps := unwrapped.2 (by omega) (by decide)
    omega
  · rw [Checked.startsSnap, Bytes.read, List.getElem?_eq_none (by omega)] at snap
    cases snap

theorem not_amsduInverse :
    ¬ ∀ data : Bytes, data.length < 4294967296 → AmsduInverse data := by
  intro inverse
  obtain ⟨left, long, small⟩ : ∃ left, 4294967039 ≤ 272 * left + 14 ∧
      272 * left + 14 < 4294967296 := ⟨15790320, by decide, by decide⟩
  refine not_amsduInverse_ones long small (inverse _ ?_)
  rw [List.length_replicate]
  exact small

end AirportRtw88
