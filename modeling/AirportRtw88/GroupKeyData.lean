import AirportRtw88.BeaconElements
import AirportRtw88.CheckedData

/-!
# The group key in the key data

The loop of `extract_gtk_from_kde` ends after every key data, reads inside it, and returns the key
of the first GTK KDE that whole elements lead to.
-/

namespace AirportRtw88

open Bytes InfoElements

/-! ## The passes of the loop -/

namespace Checked

/-- How one pass of the loop of `extract_gtk_from_kde` ends. -/
inductive GtkPass : Type where
  | returns (kde : Option GtkKde)
  | goesOn (pos : Nat)

/-- The test of the type; the body is read only if it is long enough. -/
def testsGtk (keyData : Bytes) (pos : Nat) (id : UInt8) (len : Nat) : Option Bool :=
  if id = 0xdd ∧ len ≥ 6 then do
    let oui ← keyData.copy (pos + 2) 4
    return decide (oui = [0x00, 0x0f, 0xac, 0x01])
  else
    return false

/-- One pass of the loop, from the 16-bit offset `pos` on. -/
def gtkPass (keyData : Bytes) (keyDataLen pos : Nat) : Option GtkPass := do
  if pos + 2 > keyDataLen then return .returns none
  let id ← keyData.read pos
  let len ← keyData.read (pos + 1)
  let len := len.toNat
  if pos + 2 + len > keyDataLen then return .returns none
  let isGtk ← testsGtk keyData pos id len
  if isGtk then
    if len - 6 > 32 then return .returns none
    let idx ← keyData.read (pos + 2 + 4)
    store 32 0 (len - 6)
    let gtk ← keyData.copy (pos + 2 + 6) (len - 6)
    return .returns (some ⟨gtk, (idx &&& 0x3).toNat⟩)
  else
    return .goesOn ((pos + 2 + len) % 65536)

/-- The loop, if it ends within this many passes. -/
def gtkLoop : Nat → Bytes → Nat → Nat → Option (Option GtkKde)
  | 0, _, _, _ => none
  | passes + 1, keyData, keyDataLen, pos => do
      match ← gtkPass keyData keyDataLen pos with
      | .returns kde => return kde
      | .goesOn pos => gtkLoop passes keyData keyDataLen pos

theorem gtkLoop_succ (passes : Nat) (keyData : Bytes) (keyDataLen pos : Nat) :
    gtkLoop (passes + 1) keyData keyDataLen pos =
      (gtkPass keyData keyDataLen pos).bind fun
        | .returns kde => some kde
        | .goesOn pos => gtkLoop passes keyData keyDataLen pos :=
  rfl

/-- Every pass of the walk is a pass of the loop. -/
theorem extractGtkFrom_succ (passes : Nat) (keyData : Bytes) (keyDataLen pos : Nat) :
    extractGtkFrom (passes + 1) keyData keyDataLen pos =
      (gtkPass keyData keyDataLen pos).bind fun
        | .returns kde => some kde
        | .goesOn pos => extractGtkFrom passes keyData keyDataLen pos := by
  rw [extractGtkFrom, gtkPass]
  by_cases ended : pos + 2 > keyDataLen
  · rw [if_pos ended, if_pos ended]
    rfl
  rw [if_neg ended, if_neg ended]
  cases keyData.read pos with
  | none => rfl
  | some id =>
  cases keyData.read (pos + 1) with
  | none => rfl
  | some len =>
  simp only [Option.bind_eq_bind, Option.bind_some]
  by_cases cut : pos + 2 + len.toNat > keyDataLen
  · rw [if_pos cut, if_pos cut]
    rfl
  rw [if_neg cut, if_neg cut]
  rw [testsGtk]
  by_cases fits : id = 0xdd ∧ len.toNat ≥ 6
  · rw [if_pos fits, if_pos fits]
    cases keyData.copy (pos + 2) 4 with
    | none => rfl
    | some oui =>
    simp only [Option.bind_eq_bind, Option.bind_some, Option.pure_def, decide_eq_true_eq]
    by_cases gtk : oui = [0x00, 0x0f, 0xac, 0x01]
    · rw [if_pos gtk, if_pos gtk]
      by_cases large : len.toNat - 6 > 32
      · rw [if_pos large, if_pos large]
        rfl
      · rw [if_neg large, if_neg large]
        cases keyData.read (pos + 2 + 4) with
        | none => rfl
        | some idx =>
        cases store 32 0 (len.toNat - 6) with
        | none => rfl
        | some written =>
        cases keyData.copy (pos + 2 + 6) (len.toNat - 6) <;> rfl
    · rw [if_neg gtk, if_neg gtk]
      rfl
  · rw [if_neg fits, if_neg fits]
    rfl

/-- A pass that goes on leaves an element behind it, and stays inside the key data. -/
theorem goesOn_of_gtkPass {keyData : Bytes} {keyDataLen pos next : Nat}
    (small : keyDataLen < 65536) (pass : gtkPass keyData keyDataLen pos = some (.goesOn next)) :
    pos + 2 ≤ next ∧ next ≤ keyDataLen := by
  rw [gtkPass] at pass
  by_cases ended : pos + 2 > keyDataLen
  · rw [if_pos ended] at pass
    cases pass
  rw [if_neg ended] at pass
  obtain ⟨id, -, pass⟩ := Option.bind_eq_some_iff.mp pass
  obtain ⟨len, -, pass⟩ := Option.bind_eq_some_iff.mp pass
  dsimp only at pass
  by_cases cut : pos + 2 + len.toNat > keyDataLen
  · rw [if_pos cut] at pass
    cases pass
  rw [if_neg cut] at pass
  obtain ⟨isGtk, -, pass⟩ := Option.bind_eq_some_iff.mp pass
  cases isGtk with
  | false =>
      -- The offset does not wrap, as the key data ends before 65536.
      obtain rfl : (pos + 2 + len.toNat) % 65536 = next := by cases pass; rfl
      omega
  | true =>
      rw [if_pos rfl] at pass
      by_cases large : len.toNat - 6 > 32
      · rw [if_pos large] at pass
        cases pass
      rw [if_neg large] at pass
      obtain ⟨idx, -, pass⟩ := Option.bind_eq_some_iff.mp pass
      obtain ⟨written, -, pass⟩ := Option.bind_eq_some_iff.mp pass
      obtain ⟨gtk, -, pass⟩ := Option.bind_eq_some_iff.mp pass
      cases pass

/-- The loop ends before it has made a pass for every byte. -/
theorem gtkLoop_eq {keyData : Bytes} {keyDataLen : Nat} (small : keyDataLen < 65536)
    {passes pos : Nat} (inside : pos ≤ keyDataLen) (enough : keyDataLen - pos < passes) :
    gtkLoop passes keyData keyDataLen pos = extractGtkFrom passes keyData keyDataLen pos := by
  induction passes generalizing pos with
  | zero => omega
  | succ passes ih =>
      rw [gtkLoop_succ, extractGtkFrom_succ]
      cases pass : gtkPass keyData keyDataLen pos with
      | none => rfl
      | some ends =>
          cases ends with
          | returns kde => rfl
          | goesOn next =>
              obtain ⟨ahead, within⟩ := goesOn_of_gtkPass small pass
              exact ih within (by omega)

end Checked

/-! ## The elements that are walked -/

/-- A GTK KDE: a vendor element with the type of a group key. -/
def isGtkKde (element : Element) : Bool :=
  element.id = 0xdd ∧ 6 ≤ element.body.length ∧
    element.body.take 4 = [0x00, 0x0f, 0xac, 0x01]

/-- The key of a GTK KDE, and the index in its low two bits. -/
def gtkOf (element : Element) : GtkKde where
  gtk := element.body.drop 6
  idx := (element.body.getD 4 0).toNat % 4

/-- Whole elements that are no GTK KDE lead from the start of the key data to this one. -/
def ReachesGtk (keyData : Bytes) (kde : Element) : Prop :=
  ∃ (before : List Element) (rest : Bytes),
    keyData = encodeAll before ++ (kde.encode ++ rest) ∧ isGtkKde kde = true ∧
      ∀ other ∈ before, isGtkKde other = false

/-- The key data has such a KDE, its key fits the array of a group key, and it is this one. -/
def HoldsGtk (keyData : Bytes) (key : GtkKde) : Prop :=
  ∃ kde, ReachesGtk keyData kde ∧ kde.body.length - 6 ≤ 32 ∧ key = gtkOf kde

/-- What a GTK KDE decides about the key data. -/
def decidedByGtk (element : Element) : Option (Option GtkKde) :=
  if isGtkKde element then
    some (if element.body.length - 6 > 32 then none else some (gtkOf element))
  else none

/-- The two bits of the key index. -/
theorem toNat_and_three (byte : UInt8) : (byte &&& 0x3).toNat = byte.toNat % 4 := by
  rw [UInt8.toNat_and]
  exact Nat.and_two_pow_sub_one_eq_mod byte.toNat 2

theorem extractGtkFrom_decides : Decides extractGtkFrom decidedByGtk where
  stop fuel tail truncated := by
    rw [extractGtkFrom]
    by_cases short : tail.length < 2
    · rw [if_pos short]
    · rw [if_neg short, if_pos]
      exact truncated.resolve_left short
  next fuel element rest := by
    have long : 2 + element.body.length ≤ (element.encode ++ rest).length := by
      rw [List.length_append, element.length_encode]
      omega
    obtain ⟨id, length⟩ := byte_encode element rest
    have body : (element.encode ++ rest).drop 2 = element.body ++ rest := rfl
    rw [extractGtkFrom, if_neg (by omega)]
    simp only [id, length, drop_encode, body]
    rw [if_neg (by omega), decidedByGtk, isGtkKde]
    by_cases shaped : element.id = 0xdd ∧ 6 ≤ element.body.length
    · obtain ⟨vendor, whole⟩ := shaped
      have oui : (element.body ++ rest).take 4 = element.body.take 4 :=
        List.take_append_of_le_length (by omega)
      have key : Bytes.slice (element.body ++ rest) 6 (element.body.length - 6) =
          element.body.drop 6 := by
        rw [slice, List.drop_append_of_le_length whole]
        exact List.take_left' (List.length_drop)
      have index : Bytes.byte (element.body ++ rest) 4 = element.body.getD 4 0 :=
        byte_append_left (by omega)
      simp only [vendor, whole, oui, key, index, toNat_and_three, true_and, decide_eq_true_eq]
      split
      · split <;> rfl
      · rfl
    · rw [if_neg fun all => shaped ⟨all.1, all.2.1⟩, decide_eq_false]
      · rfl
      · exact fun all => shaped ⟨all.1, all.2.1⟩

theorem decidedByGtk_eq_none_iff {element : Element} :
    decidedByGtk element = none ↔ isGtkKde element = false := by
  rw [decidedByGtk]
  cases isGtkKde element <;> simp

/-- Only a GTK KDE with a key that fits decides for a key. -/
theorem decidedByGtk_eq_some_iff {element : Element} {key : GtkKde} :
    decidedByGtk element = some (some key) ↔
      isGtkKde element = true ∧ element.body.length - 6 ≤ 32 ∧ key = gtkOf element := by
  rw [decidedByGtk]
  cases isGtkKde element with
  | false => simp
  | true =>
      by_cases large : element.body.length - 6 > 32
      · exact iff_of_false (by simp [large]) fun all => absurd all.2.1 (not_le.mpr large)
      · simp [large, Nat.not_lt.mp large, eq_comm]

/-- The walk returns the key of the first GTK KDE. -/
theorem extractGtkFrom_eq_some_iff {keyData : Bytes} {fuel : Nat} (enough : keyData.length < fuel)
    (key : GtkKde) : extractGtkFrom fuel keyData = some key ↔ HoldsGtk keyData key := by
  have walked : ∀ (elements : List Element) (tail : Bytes), Truncated tail →
      keyData = encodeAll elements ++ tail →
      extractGtkFrom fuel keyData = (elements.findSome? decidedByGtk).join := by
    rintro elements tail truncated rfl
    have few := length_le_encodeAll elements
    rw [List.length_append] at enough
    exact extractGtkFrom_decides.eq_findSome truncated (by omega)
  constructor
  · intro found
    obtain ⟨elements, tail, truncated, split⟩ := exists_split keyData
    rw [walked elements tail truncated split, Option.join_eq_some_iff,
      List.findSome?_eq_some_iff] at found
    obtain ⟨before, kde, after, parts, decides, others⟩ := found
    obtain ⟨isGtk, fits, isKey⟩ := decidedByGtk_eq_some_iff.mp decides
    refine ⟨kde, ⟨before, encodeAll after ++ tail, ?_, isGtk, ?_⟩, fits, isKey⟩
    · rw [split, parts, encodeAll_append, encodeAll_cons]
      simp only [List.append_assoc]
    · exact fun other member => decidedByGtk_eq_none_iff.mp (others other member)
  · rintro ⟨kde, ⟨before, rest, leads, isGtk, others⟩, fits, isKey⟩
    -- What follows the KDE is split too, but it is not looked at.
    obtain ⟨after, tail, truncated, split⟩ := exists_split rest
    have whole : keyData = encodeAll (before ++ kde :: after) ++ tail := by
      rw [leads, split, encodeAll_append, encodeAll_cons]
      simp only [List.append_assoc]
    rw [walked _ tail truncated whole, Option.join_eq_some_iff, List.findSome?_eq_some_iff]
    refine ⟨before, kde, after, rfl, decidedByGtk_eq_some_iff.mpr ⟨isGtk, fits, isKey⟩, ?_⟩
    exact fun other member => decidedByGtk_eq_none_iff.mpr (others other member)

/-- The loop ends, reads inside the key data, and returns the key that it holds, if there is
one; `handleEAPOL` installs what it returns. -/
theorem groupKey_extracted {keyData : Bytes} (short : keyData.length < 65536) :
    ∃ found : Option GtkKde,
      (∀ passes, keyData.length < passes →
        Checked.gtkLoop passes keyData keyData.length 0 = some found) ∧
      extractGtkFromKde keyData = found ∧
      ∀ key, found = some key ↔ HoldsGtk keyData key := by
  refine ⟨extractGtkFromKde keyData, fun passes enough => ?_, rfl, ?_⟩
  · have read := Checked.extractGtkFrom_eq passes (le_refl keyData.length) short (Nat.zero_le _)
    rw [Checked.gtkLoop_eq short (Nat.zero_le _) (by omega), read, List.take_length, List.drop_zero]
    congr 1
    apply Option.ext
    intro key
    rw [extractGtkFrom_eq_some_iff enough, extractGtkFromKde,
      extractGtkFrom_eq_some_iff (Nat.lt_succ_self _)]
  · exact extractGtkFrom_eq_some_iff (Nat.lt_succ_self _)

namespace Scenario

/-- Key data with an RSN element, a group key with the index 2, and padding. -/
def paddedGroupKey : Bytes :=
  rtw88BuildSelectedRsnIe cipherCcmp ++ [0xdd, 22, 0, 0x0f, 0xac, 1, 2, 0] ++
    List.replicate 16 7 ++ [0xdd, 0, 0, 0]

end Scenario

theorem groupKey_extracted_padded : ∃ found : Option GtkKde,
    (∀ passes, Scenario.paddedGroupKey.length < passes →
      Checked.gtkLoop passes Scenario.paddedGroupKey Scenario.paddedGroupKey.length 0 =
        some found) ∧ found = some ⟨List.replicate 16 7, 2⟩ := by
  obtain ⟨found, loop, same, -⟩ :=
    groupKey_extracted (show Scenario.paddedGroupKey.length < 65536 by decide)
  exact ⟨found, loop, same.symm.trans (by decide +kernel)⟩

end AirportRtw88
