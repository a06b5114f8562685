import AirportRtw88.CheckedFrame

/-!
# The grammar of RSN elements

`rtw88RsnSelectCcmpPsk` accepts exactly the encodings of a version, a group suite, a list of
pairwise suites and a list of key management suites that offer CCMP and PSK.  The lists count as
sets.
-/

namespace AirportRtw88

open Bytes

/-- What an RSN element lists, and what follows the lists. -/
structure RsnBody where
  group : Nat
  pairwise : List Nat
  akms : List Nat
  rest : Bytes

namespace RsnBody

/-- A list of suites in front of other bytes. -/
def suiteList (suites : List Nat) (rest : Bytes) : Bytes :=
  le16 suites.length ++ (suites.flatMap be32 ++ rest)

/-- The bytes of an element. -/
def encode (body : RsnBody) : Bytes :=
  [1, 0] ++ (be32 body.group ++ suiteList body.pairwise (suiteList body.akms body.rest))

/-- The suites are 32-bit words, and the counts 16-bit words. -/
structure WellFormed (body : RsnBody) : Prop where
  group : body.group < 4294967296
  pairwise : ∀ suite ∈ body.pairwise, suite < 4294967296
  akms : ∀ suite ∈ body.akms, suite < 4294967296
  pairwiseCount : body.pairwise.length < 65536
  akmCount : body.akms.length < 65536

/-- An element that offers CCMP and PSK to a supported group cipher. -/
structure Offers (body : RsnBody) : Prop extends body.WellFormed where
  ccmp : cipherCcmp ∈ body.pairwise
  psk : akmPsk ∈ body.akms
  supported : body.group = cipherCcmp ∨ body.group = cipherTkip

/-- The same group suite and the same sets of suites. -/
structure SameSuites (body other : RsnBody) : Prop where
  group : body.group = other.group
  pairwise : ∀ suite, suite ∈ body.pairwise ↔ suite ∈ other.pairwise
  akms : ∀ suite, suite ∈ body.akms ↔ suite ∈ other.akms

end RsnBody

/-- What `rtw88RsnSelectCcmpPsk` does with an element. -/
structure RsnSelection (rsn : Bytes) : Prop where
  /-- It accepts the elements of the grammar, with their group suite. -/
  exact : ∀ group, rtw88RsnSelectCcmpPsk rsn = some group ↔
    ∃ body : RsnBody, body.Offers ∧ body.group = group ∧ rsn = body.encode
  /-- Order and repetition do not matter, nor does what follows. -/
  unordered : ∀ body other : RsnBody, body.WellFormed → other.WellFormed →
    body.SameSuites other → rsn = body.encode →
      rtw88RsnSelectCcmpPsk rsn = rtw88RsnSelectCcmpPsk other.encode
  /-- No byte past the end is read. -/
  inside : Checked.rtw88RsnSelectCcmpPsk rsn rsn.length = some (rtw88RsnSelectCcmpPsk rsn)
  /-- It accepts what `rtw88BuildSelectedRsnIe` builds. -/
  built : ∀ group, group = cipherCcmp ∨ group = cipherTkip →
    rtw88BuildSelectedRsnIe group = [eidRsn, 20] ++ (rtw88BuildSelectedRsnIe group).drop 2 ∧
      ((rtw88BuildSelectedRsnIe group).drop 2).length = 20 ∧
      rtw88RsnSelectCcmpPsk ((rtw88BuildSelectedRsnIe group).drop 2) = some group

/-! ## Words -/

theorem be32At_be32 {word : Nat} (small : word < 4294967296) (rest : Bytes) :
    Bytes.be32At (be32 word ++ rest) 0 = word := by
  simp [be32At, be16At, byte, be32, be16]
  omega

theorem le16At_le16_append {word : Nat} (small : word < 65536) (rest : Bytes) :
    Bytes.le16At (le16 word ++ rest) 0 = word :=
  le16At_le16 [] rest word small

theorem ofNat_eq {word : Nat} {value : UInt8} (same : word % 256 = value.toNat) :
    UInt8.ofNat word = value := by
  apply UInt8.toNat_inj.mp
  rw [UInt8.toNat_ofNat']
  exact same

/-- A buffer of at least two bytes starts with the word that is read. -/
theorem le16_le16At (bytes : Bytes) (long : 2 ≤ bytes.length) :
    le16 (bytes.le16At 0) ++ bytes.drop 2 = bytes := by
  match bytes, long with
  | a :: b :: rest, _ =>
      have low := a.toNat_lt
      have high := b.toNat_lt
      have word : Bytes.le16At (a :: b :: rest) 0 = a.toNat + 256 * b.toNat := rfl
      have first : UInt8.ofNat (a.toNat + 256 * b.toNat) = a := ofNat_eq (by omega)
      have second : UInt8.ofNat ((a.toNat + 256 * b.toNat) / 256) = b := ofNat_eq (by omega)
      rw [word, le16, first, second]
      rfl

theorem be32_be32At (bytes : Bytes) (long : 4 ≤ bytes.length) :
    be32 (bytes.be32At 0) ++ bytes.drop 4 = bytes := by
  match bytes, long with
  | a :: b :: c :: d :: rest, _ =>
      have high := a.toNat_lt
      have upper := b.toNat_lt
      have lower := c.toNat_lt
      have low := d.toNat_lt
      have word : Bytes.be32At (a :: b :: c :: d :: rest) 0 =
          65536 * (256 * a.toNat + b.toNat) + (256 * c.toNat + d.toNat) := rfl
      have parts : ∀ value, value = 65536 * (256 * a.toNat + b.toNat) +
          (256 * c.toNat + d.toNat) → UInt8.ofNat (value / 65536 / 256) = a ∧
            UInt8.ofNat (value / 65536) = b ∧ UInt8.ofNat (value / 256) = c ∧
            UInt8.ofNat value = d := by
        rintro value rfl
        exact ⟨ofNat_eq (by omega), ofNat_eq (by omega), ofNat_eq (by omega), ofNat_eq (by omega)⟩
      obtain ⟨first, second, third, fourth⟩ := parts _ rfl
      rw [word, be32, be16, be16, first, second, third, fourth]
      rfl

theorem be32At_lt (bytes : Bytes) (index : Nat) : bytes.be32At index < 4294967296 := by
  have high := be16At_lt bytes index
  have low := be16At_lt bytes (index + 2)
  rw [be32At]
  omega

/-! ## Suite lists -/

@[simp]
theorem length_be32 (word : Nat) : (be32 word).length = 4 := rfl

@[simp]
theorem length_le16 (word : Nat) : (le16 word).length = 2 := rfl

@[simp]
theorem length_suites (suites : List Nat) :
    (suites.flatMap be32).length = 4 * suites.length := by
  induction suites with
  | nil => rfl
  | cons suite suites ih =>
      rw [List.flatMap_cons, List.length_append, ih, length_be32, List.length_cons]
      omega

theorem readSuites_succ (count : Nat) (bytes : Bytes) :
    readSuites (count + 1) bytes = bytes.be32At 0 :: readSuites count (bytes.drop 4) := by
  rw [readSuites, List.range_succ_eq_map, List.map_cons, List.map_map, readSuites]
  congr 1
  apply List.map_congr_left
  intro index _
  rw [Function.comp, List.drop_drop]
  congr 2
  omega

/-- The suites of a list are read back. -/
theorem readSuites_flatMap {suites : List Nat} (small : ∀ suite ∈ suites, suite < 4294967296)
    (rest : Bytes) : readSuites suites.length (suites.flatMap be32 ++ rest) = suites := by
  induction suites with
  | nil => rfl
  | cons suite suites ih =>
      have later := ih fun other member => small other (List.mem_cons_of_mem _ member)
      have first := be32At_be32 (small suite List.mem_cons_self) (suites.flatMap be32 ++ rest)
      rw [List.length_cons, readSuites_succ, List.flatMap_cons, List.append_assoc, first,
        List.drop_left' (length_be32 suite), later]

/-- The bytes of a list are the suites that are read. -/
theorem flatMap_readSuites (count : Nat) (bytes : Bytes) (inside : 4 * count ≤ bytes.length) :
    (readSuites count bytes).flatMap be32 ++ bytes.drop (4 * count) = bytes := by
  induction count generalizing bytes with
  | zero => rfl
  | succ count ih =>
      have later := ih (bytes.drop 4) (by rw [List.length_drop]; omega)
      rw [List.drop_drop] at later
      have total : 4 + 4 * count = 4 * (count + 1) := by omega
      rw [total] at later
      rw [readSuites_succ, List.flatMap_cons, List.append_assoc, later,
        be32_be32At bytes (by omega)]

theorem readSuites_lt (count : Nat) (bytes : Bytes) :
    ∀ suite ∈ readSuites count bytes, suite < 4294967296 := by
  intro suite member
  obtain ⟨index, -, rfl⟩ := List.mem_map.mp member
  exact be32At_lt _ _

@[simp]
theorem length_readSuites (count : Nat) (bytes : Bytes) :
    (readSuites count bytes).length = count := by
  rw [readSuites, List.length_map, List.length_range]

/-! ## Encodings -/

theorem length_suiteList (suites : List Nat) (rest : Bytes) :
    (RsnBody.suiteList suites rest).length = 2 + 4 * suites.length + rest.length := by
  rw [RsnBody.suiteList, List.length_append, List.length_append, length_suites, length_le16]
  omega

theorem drop_suites (suites : List Nat) (rest : Bytes) :
    (suites.flatMap be32 ++ rest).drop (4 * suites.length) = rest :=
  List.drop_left' (length_suites suites)

/-- The decision on an encoding depends on the sets of suites. -/
theorem rtw88RsnSelectCcmpPsk_encode {body : RsnBody} (wellFormed : body.WellFormed) :
    rtw88RsnSelectCcmpPsk body.encode =
      if cipherCcmp ∈ body.pairwise ∧ akmPsk ∈ body.akms ∧
          (body.group = cipherCcmp ∨ body.group = cipherTkip) then
        some body.group
      else none := by
  obtain ⟨group, pairwise, akms, rest⟩ := body
  obtain ⟨smallGroup, smallPairwise, smallAkms, fewPairwise, fewAkms⟩ := wellFormed
  let akmPart := RsnBody.suiteList akms rest
  have total : (RsnBody.encode ⟨group, pairwise, akms, rest⟩).length =
      10 + 4 * pairwise.length + 4 * akms.length + rest.length := by
    simp only [RsnBody.encode, List.length_append, length_suiteList, length_be32, List.length_cons,
      List.length_nil]
    omega
  have version : (RsnBody.encode ⟨group, pairwise, akms, rest⟩).byte 0 = 1 ∧
      (RsnBody.encode ⟨group, pairwise, akms, rest⟩).byte 1 = 0 := ⟨rfl, rfl⟩
  have groupRead : rtw88ReadSuite ((RsnBody.encode ⟨group, pairwise, akms, rest⟩).drop 2) = group :=
    be32At_be32 smallGroup _
  have pairwisePart : (RsnBody.encode ⟨group, pairwise, akms, rest⟩).drop 6 =
      RsnBody.suiteList pairwise akmPart := rfl
  have pairwiseCount : (RsnBody.suiteList pairwise akmPart).le16At 0 = pairwise.length :=
    le16At_le16_append fewPairwise _
  have pairwiseSuites : (RsnBody.suiteList pairwise akmPart).drop 2 =
      pairwise.flatMap be32 ++ akmPart := rfl
  have akmCount : akmPart.le16At 0 = akms.length := le16At_le16_append fewAkms _
  have akmSuites : akmPart.drop 2 = akms.flatMap be32 ++ rest := rfl
  have akmLength : akmPart.length = 2 + 4 * akms.length + rest.length := length_suiteList akms rest
  have pairwiseLength : (pairwise.flatMap be32 ++ akmPart).length =
      4 * pairwise.length + akmPart.length := by rw [List.length_append, length_suites]
  have suitesLength : (akms.flatMap be32 ++ rest).length = 4 * akms.length + rest.length := by
    rw [List.length_append, length_suites]
  unfold rtw88RsnSelectCcmpPsk
  simp only [groupRead, pairwisePart, pairwiseCount, pairwiseSuites, drop_suites,
    akmCount, akmSuites,
    readSuites_flatMap smallPairwise, readSuites_flatMap smallAkms]
  rw [if_neg (by omega), if_neg (by rw [version.1, version.2]; decide),
    if_neg (by rw [length_suiteList]; omega), if_neg (by rw [pairwiseLength]; omega),
    if_neg (by omega), if_neg (by rw [suitesLength]; omega)]
  by_cases ccmp : cipherCcmp ∈ pairwise <;> by_cases psk : akmPsk ∈ akms <;>
    by_cases supported : group = cipherCcmp ∨ group = cipherTkip <;>
      simp [ccmp, psk, supported] <;> tauto

/-- What is accepted is an encoding. -/
theorem exists_encode {rsn : Bytes} {group : Nat}
    (selected : rtw88RsnSelectCcmpPsk rsn = some group) :
    ∃ body : RsnBody, body.Offers ∧ body.group = group ∧ rsn = body.encode := by
  unfold rtw88RsnSelectCcmpPsk at selected
  simp only [Option.ite_none_left_eq_some, Option.some.injEq, List.drop_drop] at selected
  obtain ⟨long, version, more, fits, again, fits', offered, supported, rfl⟩ := selected
  simp only [List.length_drop] at more fits again fits'
  generalize pairwiseCount : Bytes.le16At (rsn.drop 6) 0 = p at *
  generalize akmCount : Bytes.le16At (rsn.drop (6 + 2 + 4 * p)) 0 = a at *
  simp only [List.contains_iff_mem, not_or, not_not] at offered
  have fewPairwise : p < 65536 := pairwiseCount ▸ le16At_lt _ _
  have fewAkms : a < 65536 := akmCount ▸ le16At_lt _ _
  let body : RsnBody := {
    group := rtw88ReadSuite (rsn.drop 2)
    pairwise := readSuites p (rsn.drop (6 + 2))
    akms := readSuites a (rsn.drop (6 + 2 + 4 * p + 2))
    rest := rsn.drop (6 + 2 + 4 * p + 2 + 4 * a) }
  have wellFormed : body.WellFormed :=
    ⟨be32At_lt _ _, readSuites_lt _ _, readSuites_lt _ _,
      by rw [length_readSuites]; exact fewPairwise, by rw [length_readSuites]; exact fewAkms⟩
  refine ⟨body, ⟨wellFormed, offered.1, offered.2, by tauto⟩, rfl, ?_⟩
  have versionPart : [1, 0] ++ rsn.drop 2 = rsn := by
    match rsn, long, version with
    | first :: second :: rest, _, version =>
        simp only [byte, List.getD_cons_zero, List.getD_cons_succ, not_or, not_not] at version
        rw [version.1, version.2]
        rfl
  have groupPart : be32 (rtw88ReadSuite (rsn.drop 2)) ++ rsn.drop 6 = rsn.drop 2 := by
    have read := be32_be32At (rsn.drop 2) (by rw [List.length_drop]; omega)
    rwa [List.drop_drop] at read
  have pairwisePart : le16 p ++ rsn.drop (6 + 2) = rsn.drop 6 := by
    have read := le16_le16At (rsn.drop 6) (by rw [List.length_drop]; omega)
    rwa [List.drop_drop, pairwiseCount] at read
  have pairwiseSuites : body.pairwise.flatMap be32 ++ rsn.drop (6 + 2 + 4 * p) =
      rsn.drop (6 + 2) := by
    have read := flatMap_readSuites p (rsn.drop (6 + 2))
      (by rw [List.length_drop]; omega)
    rwa [List.drop_drop] at read
  have akmPart : le16 a ++ rsn.drop (6 + 2 + 4 * p + 2) = rsn.drop (6 + 2 + 4 * p) := by
    have read := le16_le16At (rsn.drop (6 + 2 + 4 * p)) (by rw [List.length_drop]; omega)
    rwa [List.drop_drop, akmCount] at read
  have akmSuites : body.akms.flatMap be32 ++ body.rest = rsn.drop (6 + 2 + 4 * p + 2) := by
    have read := flatMap_readSuites a (rsn.drop (6 + 2 + 4 * p + 2))
      (by rw [List.length_drop]; omega)
    rwa [List.drop_drop] at read
  have lengths : body.pairwise.length = p ∧ body.akms.length = a :=
    ⟨length_readSuites _ _, length_readSuites _ _⟩
  rw [RsnBody.encode, RsnBody.suiteList, RsnBody.suiteList, lengths.1, lengths.2,
    akmSuites, akmPart,
    pairwiseSuites, pairwisePart, groupPart, versionPart]

theorem RsnBody.Offers.selected {body : RsnBody} (offers : body.Offers) :
    rtw88RsnSelectCcmpPsk body.encode = some body.group := by
  rw [rtw88RsnSelectCcmpPsk_encode offers.toWellFormed, if_pos]
  exact ⟨offers.ccmp, offers.psk, offers.supported⟩

/-- For every byte string, the selection accepts exactly its grammar. -/
theorem rtw88RsnSelectCcmpPsk_exact (rsn : Bytes) : RsnSelection rsn where
  exact group := by
    constructor
    · exact exists_encode
    · rintro ⟨body, offers, rfl, rfl⟩
      exact offers.selected
  unordered body other wellFormed wellFormed' same encoded := by
    rw [encoded, rtw88RsnSelectCcmpPsk_encode wellFormed,
      rtw88RsnSelectCcmpPsk_encode wellFormed']
    simp only [same.group, same.pairwise, same.akms]
  inside := by
    rw [Checked.rtw88RsnSelectCcmpPsk_eq (Nat.le_refl _), List.take_length]
  built group supported := by
    rcases supported with rfl | rfl
    · decide
    · decide

end AirportRtw88
