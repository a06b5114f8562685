import AirportRtw88.Access
import AirportRtw88.Scan

/-!
# The BSS list format

`cmdGetBSSList` writes the scan results into the buffer of a user client, and `cmd_list` of the
control tool reads them back.  Every access to a buffer is checked: a write past the end of the
kernel's buffer and a read past the announced total fail.
-/

namespace AirportRtw88

namespace Bytes

/-- A 32-bit word in the byte order of the host. -/
def hostWord (word : Nat) : Bytes :=
  le16 word ++ le16 (word / 65536)

def hostWordAt (bytes : Bytes) (index : Nat) : Nat :=
  bytes.le16At index + 65536 * bytes.le16At (index + 2)

/-- `memcpy` into a buffer. -/
def put (buf : Bytes) (start : Nat) (source : Bytes) : Option Bytes :=
  if start + source.length ≤ buf.length then some (buf.overwrite start source) else none

/-- `memcpy` from a pointer, which is moved behind what it has read. -/
def advance (pointer : Bytes) (length : Nat) : Option (Bytes × Bytes) :=
  if length ≤ pointer.length then some (pointer.take length, pointer.drop length) else none

end Bytes

/-- The bytes of a signed 16-bit number, the high one first. -/
def signedBytes (number : Int) : Bytes :=
  [UInt8.ofNat (number / 256 % 256).toNat, UInt8.ofNat (number % 256).toNat]

/-- `(int16_t)word`. -/
def int16 (word : Nat) : Int :=
  if word < 32768 then word else word - 65536

/-- The loop of `cmdGetBSSList`: the buffer and the number of bytes written. -/
def putBssEntries (max : Nat) : List Bss → Bytes → Nat → Option (Bytes × Nat)
  | [], buf, written => some (buf, written)
  | b :: bs, buf, written =>
      let entrySz := 1 + b.ssidLen + 6 + 2 + 1 + 4
      if written + entrySz > max then some (buf, written)
      else do
        let buf ← buf.put written [UInt8.ofNat b.ssidLen]
        let buf ← buf.put (written + 1) (b.ssid.take b.ssidLen)
        let buf ← buf.put (written + 1 + b.ssidLen) (b.bssid.take 6)
        let buf ← buf.put (written + 7 + b.ssidLen) (signedBytes b.rssi)
        let buf ← buf.put (written + 9 + b.ssidLen) [UInt8.ofNat b.channel]
        let buf ← buf.put (written + 10 + b.ssidLen) (Bytes.hostWord b.cipher)
        putBssEntries max bs buf (written + entrySz)

/-- `cmdGetBSSList`, for a buffer whose size is the length that the caller passes. -/
def cmdGetBSSList (bssList : List Bss) (buf : Bytes) : Option (Bytes × Nat) :=
  let max := if buf.length > 4095 then 4095 else buf.length
  if max < 4 then some (buf, 0)
  else do
    let (buf, written) ← putBssEntries max bssList buf 4
    let buf ← buf.put 0 (Bytes.hostWord written)
    return (buf, written)

/-- A line of the control tool's list. -/
structure ListedBss where
  ssid : Bytes
  bssid : Bytes
  rssi : Int
  channel : Nat
  cipher : Nat
  deriving DecidableEq

/-- The loop of `cmd_list` from a pointer on; the name is copied to an array of 33 bytes. -/
def cmdListLoop : Nat → Bytes → Option (List ListedBss)
  | 0, _ => none
  | _ + 1, [] => some []
  | fuel + 1, ssidLen :: p =>
      if p.length < ssidLen.toNat + 6 + 2 + 1 + 4 then some []
      else do
        store 33 0 ssidLen.toNat
        let (ssid, p) ← Bytes.advance p ssidLen.toNat
        let (bssid, p) ← Bytes.advance p 6
        let (rssi, p) ← Bytes.advance p 2
        let (ch, p) ← Bytes.advance p 1
        let (cipher, p) ← Bytes.advance p 4
        let rest ← cmdListLoop fuel p
        return { ssid := ssid
                 bssid := bssid
                 rssi := int16 (rssi.be16At 0)
                 channel := (ch.byte 0).toNat
                 cipher := cipher.hostWordAt 0 } :: rest

/-- `cmd_list` on a reply of a length. -/
def cmdList (buf : Bytes) (len : Nat) : Option (List ListedBss) :=
  if 4 ≤ len then
    let explicitLen := if buf.hostWordAt 0 > len then len else buf.hostWordAt 0
    cmdListLoop (explicitLen + 1) ((buf.take explicitLen).drop 4)
  else some []

/-- The ranges of the fields of an entry, and the bound of its name. -/
structure Bss.Ranges (b : Bss) : Prop where
  ssid : b.ssid.length = 33
  ssidLen : b.ssidLen ≤ 32
  bssid : b.bssid.length = 6
  rssi : -32768 ≤ b.rssi ∧ b.rssi < 32768
  channel : b.channel < 256
  cipher : b.cipher < 4294967296

/-- What the control tool is to list for an entry. -/
def Bss.listed (b : Bss) : ListedBss where
  ssid := b.ssid.take b.ssidLen
  bssid := b.bssid
  rssi := b.rssi
  channel := b.channel
  cipher := b.cipher

/-- An entry on the wire. -/
def Bss.encoded (b : Bss) : Bytes :=
  UInt8.ofNat b.ssidLen :: (b.ssid.take b.ssidLen ++ (b.bssid ++
    (signedBytes b.rssi ++ (UInt8.ofNat b.channel :: Bytes.hostWord b.cipher))))

/-- The number of bytes that the entries of a list take. -/
def entriesLength (bs : List Bss) : Nat :=
  (bs.map fun b => 14 + b.ssidLen).sum

/-- The entries of a list that fit a room, up to the first that does not. -/
def fitting : Nat → List Bss → List Bss
  | _, [] => []
  | room, b :: bs =>
      if 14 + b.ssidLen ≤ room then b :: fitting (room - (14 + b.ssidLen)) bs else []

namespace Bytes

@[simp]
theorem length_hostWord (word : Nat) : (hostWord word).length = 4 := rfl

theorem hostWordAt_hostWord {word : Nat} (small : word < 4294967296) (rest : Bytes) :
    hostWordAt (hostWord word ++ rest) 0 = word := by
  simp only [hostWordAt, hostWord, le16At, le16, byte, List.cons_append, List.nil_append,
    List.getD_cons_zero, List.getD_cons_succ, UInt8.toNat_ofNat']
  omega

/-- A write behind what was written. -/
theorem put_behind {written rest source : Bytes} {start : Nat} (behind : written.length = start)
    (room : source.length ≤ rest.length) :
    put (written ++ rest) start source =
      some ((written ++ source) ++ rest.drop source.length) := by
  have inside : start + source.length ≤ (written ++ rest).length := by
    rw [List.length_append]
    omega
  rw [put, if_pos inside, overwrite, ← behind, List.take_left, List.drop_append]
  simp

theorem advance_append (field rest : Bytes) :
    advance (field ++ rest) field.length = some (field, rest) := by
  have inside : field.length ≤ (field ++ rest).length := by simp
  rw [advance, if_pos inside, List.take_left, List.drop_left]

end Bytes

@[simp]
theorem length_signedBytes (number : Int) : (signedBytes number).length = 2 := rfl

theorem int16_signedBytes {number : Int} (range : -32768 ≤ number ∧ number < 32768) :
    int16 (Bytes.be16At (signedBytes number) 0) = number := by
  have word : Bytes.be16At (signedBytes number) 0 = (number % 65536).toNat := by
    simp only [Bytes.be16At, signedBytes, Bytes.byte, List.getD_cons_zero, List.getD_cons_succ,
      UInt8.toNat_ofNat']
    omega
  rw [word, int16]
  omega

section

variable {b : Bss}

theorem Bss.Ranges.length_encoded (ranges : b.Ranges) : b.encoded.length = 14 + b.ssidLen := by
  have ssid := ranges.ssid
  have ssidLen := ranges.ssidLen
  have bssid := ranges.bssid
  simp only [encoded, List.length_cons, List.length_append, List.length_take, length_signedBytes,
    Bytes.length_hostWord]
  omega

/-- One entry is written behind what was written. -/
theorem putBssEntries_cons (ranges : b.Ranges) {bs : List Bss} {max : Nat}
    {written rest : Bytes} (small : max ≤ written.length + rest.length)
    (room : written.length + (14 + b.ssidLen) ≤ max) :
    putBssEntries max (b :: bs) (written ++ rest) written.length =
      putBssEntries max bs ((written ++ b.encoded) ++ rest.drop b.encoded.length)
        (written ++ b.encoded).length := by
  have long := ranges.length_encoded
  have name : (b.ssid.take b.ssidLen).length = b.ssidLen := by
    have ssid := ranges.ssid
    have ssidLen := ranges.ssidLen
    rw [List.length_take]
    omega
  have bssid : b.bssid.take 6 = b.bssid := List.take_of_length_le ranges.bssid.le
  have bssidLong := ranges.bssid
  have fits : ¬ written.length + (1 + b.ssidLen + 6 + 2 + 1 + 4) > max := by omega
  rw [putBssEntries, if_neg fits, bssid]
  rw [Bytes.put_behind rfl (by simp; omega)]
  simp only [Option.bind_eq_bind, Option.bind_some]
  rw [Bytes.put_behind (by simp) (by simp; omega)]
  simp only [Option.bind_some]
  rw [Bytes.put_behind (by simp [name]; omega) (by simp; omega)]
  simp only [Option.bind_some]
  rw [Bytes.put_behind (by simp [name]; omega) (by simp; omega)]
  simp only [Option.bind_some]
  rw [Bytes.put_behind (by simp [name]; omega) (by simp; omega)]
  simp only [Option.bind_some]
  rw [Bytes.put_behind (by simp [name]; omega) (by simp; omega)]
  simp only [Option.bind_some, List.drop_drop]
  have joined : written ++ [UInt8.ofNat b.ssidLen] ++ b.ssid.take b.ssidLen ++ b.bssid ++
      signedBytes b.rssi ++ [UInt8.ofNat b.channel] ++ Bytes.hostWord b.cipher =
        written ++ b.encoded := by
    simp [Bss.encoded]
  have left : [UInt8.ofNat b.ssidLen].length + (b.ssid.take b.ssidLen).length + b.bssid.length +
      (signedBytes b.rssi).length + [UInt8.ofNat b.channel].length +
        (Bytes.hostWord b.cipher).length = b.encoded.length := by
    simp only [name, bssidLong, List.length_singleton, length_signedBytes, Bytes.length_hostWord]
    omega
  have next : written.length + (1 + b.ssidLen + 6 + 2 + 1 + 4) = (written ++ b.encoded).length := by
    rw [List.length_append]
    omega
  rw [joined, left, next]

end

/-! ## The entries that are written -/

theorem fitting_prefix (room : Nat) (bs : List Bss) : fitting room bs <+: bs := by
  induction bs generalizing room with
  | nil => exact List.prefix_rfl
  | cons b bs ih =>
      rw [fitting]
      split
      · exact List.cons_prefix_cons.mpr ⟨rfl, ih _⟩
      · exact List.nil_prefix

theorem entriesLength_fitting_le (room : Nat) (bs : List Bss) :
    entriesLength (fitting room bs) ≤ room := by
  induction bs generalizing room with
  | nil => exact Nat.zero_le room
  | cons b bs ih =>
      rw [fitting]
      split
      · have rest := ih (room - (14 + b.ssidLen))
        unfold entriesLength at rest ⊢
        rw [List.map_cons, List.sum_cons]
        omega
      · exact Nat.zero_le room

/-- No longer part of the list fits. -/
theorem length_le_fitting {room : Nat} {bs other : List Bss} (part : other <+: bs)
    (fits : entriesLength other ≤ room) : other.length ≤ (fitting room bs).length := by
  induction bs generalizing room other with
  | nil =>
      rw [List.prefix_nil.mp part]
      exact Nat.zero_le _
  | cons b bs ih =>
      cases other with
      | nil => exact Nat.zero_le _
      | cons first other =>
          obtain ⟨rfl, later⟩ := List.cons_prefix_cons.mp part
          simp only [entriesLength, List.map_cons, List.sum_cons] at fits
          rw [fitting, if_pos (by omega)]
          exact Nat.succ_le_succ (ih later (by unfold entriesLength; omega))

/-- The loop of `cmdGetBSSList` writes the entries that fit. -/
theorem putBssEntries_eq {bs : List Bss} (ranges : ∀ b ∈ bs, b.Ranges) {max : Nat}
    {written rest : Bytes} (small : max ≤ written.length + rest.length) :
    putBssEntries max bs (written ++ rest) written.length =
      some (written ++ (fitting (max - written.length) bs).flatMap Bss.encoded ++
        rest.drop (entriesLength (fitting (max - written.length) bs)),
        written.length + entriesLength (fitting (max - written.length) bs)) := by
  induction bs generalizing written rest with
  | nil => simp [putBssEntries, fitting, entriesLength]
  | cons b bs ih =>
      have long := (ranges b (by simp)).length_encoded
      by_cases room : 14 + b.ssidLen ≤ max - written.length
      · have shorter : max ≤ (written ++ b.encoded).length +
          (rest.drop b.encoded.length).length := by
          rw [List.length_append, List.length_drop]
          omega
        have later := ih (fun other member => ranges other (by simp [member])) shorter
        rw [putBssEntries_cons (ranges b (by simp)) small (by omega), later, fitting, if_pos room]
        simp [entriesLength, long, Nat.sub_sub, Nat.add_assoc]
      · have stops : written.length + (1 + b.ssidLen + 6 + 2 + 1 + 4) > max := by omega
        rw [putBssEntries, if_pos stops, fitting, if_neg room]
        simp [entriesLength]

/-! ## The entries that are read -/

theorem cmdListLoop_cons {b : Bss} (ranges : b.Ranges) (fuel : Nat) (rest : Bytes) :
    cmdListLoop (fuel + 1) (b.encoded ++ rest) =
      (cmdListLoop fuel rest).map (b.listed :: ·) := by
  have bound := ranges.ssidLen
  have ssidLen : (UInt8.ofNat b.ssidLen).toNat = b.ssidLen := by
    rw [UInt8.toNat_ofNat']
    omega
  have name : (b.ssid.take b.ssidLen).length = b.ssidLen := by
    have ssid := ranges.ssid
    rw [List.length_take]
    omega
  have channel : (UInt8.ofNat b.channel).toNat = b.channel := by
    have small := ranges.channel
    rw [UInt8.toNat_ofNat']
    omega
  have cipher := Bytes.hostWordAt_hostWord ranges.cipher []
  have step (field rest : Bytes) {length : Nat} (long : field.length = length) :
      Bytes.advance (field ++ rest) length = some (field, rest) :=
    long ▸ Bytes.advance_append field rest
  have split : b.encoded ++ rest = UInt8.ofNat b.ssidLen :: (b.ssid.take b.ssidLen ++ (b.bssid ++
      (signedBytes b.rssi ++ ([UInt8.ofNat b.channel] ++ (Bytes.hostWord b.cipher ++ rest))))) := by
    simp [Bss.encoded]
  have whole : ¬ (b.ssid.take b.ssidLen ++ (b.bssid ++ (signedBytes b.rssi ++
      ([UInt8.ofNat b.channel] ++ (Bytes.hostWord b.cipher ++ rest))))).length <
        b.ssidLen + 6 + 2 + 1 + 4 := by
    have bssid := ranges.bssid
    simp only [List.length_append, name, length_signedBytes, List.length_singleton,
      Bytes.length_hostWord]
    omega
  rw [split, cmdListLoop, ssidLen, if_neg whole, store_eq (by omega), step _ _ name]
  simp only [Option.bind_eq_bind, Option.bind_some]
  rw [step _ _ ranges.bssid, Option.bind_some, step _ _ (length_signedBytes _), Option.bind_some,
    step _ _ (List.length_singleton), Option.bind_some, step _ _ (Bytes.length_hostWord _),
    Option.bind_some]
  rw [List.append_nil] at cipher
  simp only [int16_signedBytes ranges.rssi, cipher, Bytes.byte, List.getD_cons_zero, channel]
  cases cmdListLoop fuel rest <;> rfl

theorem cmdListLoop_flatMap {bs : List Bss} (ranges : ∀ b ∈ bs, b.Ranges) {fuel : Nat}
    (enough : bs.length < fuel) :
    cmdListLoop fuel (bs.flatMap Bss.encoded) = some (bs.map Bss.listed) := by
  induction bs generalizing fuel with
  | nil =>
      obtain ⟨fuel, rfl⟩ := Nat.exists_eq_succ_of_ne_zero (Nat.ne_of_gt enough)
      rfl
  | cons b bs ih =>
      obtain ⟨fuel, rfl⟩ := Nat.exists_eq_succ_of_ne_zero (Nat.ne_zero_of_lt enough)
      rw [List.flatMap_cons, cmdListLoop_cons (ranges b (by simp)),
        ih (fun other member => ranges other (by simp [member])) (Nat.lt_of_succ_lt_succ enough)]
      rfl

theorem length_le_entriesLength (bs : List Bss) : bs.length ≤ entriesLength bs := by
  induction bs with
  | nil => exact Nat.zero_le _
  | cons b bs ih =>
      unfold entriesLength at ih ⊢
      rw [List.length_cons, List.map_cons, List.sum_cons]
      omega

theorem length_flatMap_encoded {bs : List Bss} (ranges : ∀ b ∈ bs, b.Ranges) :
    (bs.flatMap Bss.encoded).length = entriesLength bs := by
  induction bs with
  | nil => rfl
  | cons b bs ih =>
      rw [List.flatMap_cons, List.length_append, (ranges b (by simp)).length_encoded,
        ih fun other member => ranges other (by simp [member])]
      rfl

/-- The buffer that `cmdGetBSSList` leaves. -/
theorem cmdGetBSSList_eq {bssList : List Bss} (ranges : ∀ b ∈ bssList, b.Ranges) {buf : Bytes}
    (long : 4 ≤ buf.length) {shown : List Bss}
    (fitted : fitting (min buf.length 4095 - 4) bssList = shown) :
    cmdGetBSSList bssList buf =
      some (Bytes.hostWord (4 + entriesLength shown) ++ shown.flatMap Bss.encoded ++
        buf.drop (4 + entriesLength shown), 4 + entriesLength shown) := by
  have max : (if buf.length > 4095 then 4095 else buf.length) = min buf.length 4095 := by
    split <;> omega
  have head : (buf.take 4).length = 4 := List.length_take_of_le long
  have small : min buf.length 4095 ≤ (buf.take 4).length + (buf.drop 4).length := by
    rw [head, List.length_drop]
    omega
  have entries := putBssEntries_eq ranges small
  rw [List.take_append_drop, head, List.drop_drop, fitted] at entries
  have total : Bytes.put ([] ++ (buf.take 4 ++ (shown.flatMap Bss.encoded ++
      buf.drop (4 + entriesLength shown)))) 0 (Bytes.hostWord (4 + entriesLength shown)) =
        some (([] ++ Bytes.hostWord (4 + entriesLength shown)) ++ (buf.take 4 ++
          (shown.flatMap Bss.encoded ++ buf.drop (4 + entriesLength shown))).drop 4) := by
    apply Bytes.put_behind rfl
    rw [Bytes.length_hostWord, List.length_append]
    omega
  rw [List.nil_append, List.nil_append, List.drop_left' head, ← List.append_assoc,
    ← List.append_assoc] at total
  rw [cmdGetBSSList, max, if_neg (by omega), entries]
  simp only [Option.bind_eq_bind, Option.bind_some]
  rw [total]
  rfl

/-- `cmd_list` goes by the bytes up to the length of a reply. -/
theorem cmdList_reply {bs : List Bss} (ranges : ∀ b ∈ bs, b.Ranges) {reply : Bytes}
    (small : 4 + entriesLength bs < 4294967296)
    (starts : reply.take (4 + entriesLength bs) =
      Bytes.hostWord (4 + entriesLength bs) ++ bs.flatMap Bss.encoded) :
    cmdList reply (4 + entriesLength bs) = some (bs.map Bss.listed) := by
  have total : reply.hostWordAt 0 = 4 + entriesLength bs := by
    have split : reply = Bytes.hostWord (4 + entriesLength bs) ++
        (bs.flatMap Bss.encoded ++ reply.drop (4 + entriesLength bs)) := by
      rw [← List.append_assoc, ← starts, List.take_append_drop]
    rw [split]
    exact Bytes.hostWordAt_hostWord small _
  have entries : (reply.take (4 + entriesLength bs)).drop 4 = bs.flatMap Bss.encoded := by
    rw [starts]
    exact List.drop_left' (Bytes.length_hostWord _)
  have few := length_le_entriesLength bs
  rw [cmdList, if_pos (Nat.le_add_right 4 _), total, if_neg (Nat.lt_irrefl _)]
  change cmdListLoop _ ((reply.take (4 + entriesLength bs)).drop 4) = _
  rw [entries]
  exact cmdListLoop_flatMap ranges (by omega)

/-- Whatever the list and the length of the buffer, the tool lists the longest part of the list
that fits, with its fields. -/
theorem cmdGetBSSList_roundTrip (bssList : List Bss) (ranges : ∀ b ∈ bssList, b.Ranges)
    (buf : Bytes) :
    ∃ out written shown, cmdGetBSSList bssList buf = some (out, written) ∧
      out.length = buf.length ∧ written ≤ min buf.length 4095 ∧
      out.drop written = buf.drop written ∧
      (4 ≤ buf.length → out.hostWordAt 0 = written ∧
        written = 4 + entriesLength shown) ∧
      shown <+: bssList ∧
      (∀ other, other <+: bssList → 4 + entriesLength other ≤ min buf.length 4095 →
        other.length ≤ shown.length) ∧
      ∀ reply : Bytes, reply.take written = out.take written →
        cmdList reply written = some (shown.map Bss.listed) := by
  by_cases long : 4 ≤ buf.length
  · obtain ⟨shown, fitted⟩ : ∃ shown, fitting (min buf.length 4095 - 4) bssList = shown :=
      ⟨_, rfl⟩
    have part : shown <+: bssList := fitted ▸ fitting_prefix _ _
    have shownRanges : ∀ b ∈ shown, b.Ranges := fun b member => ranges b (part.subset member)
    have fits : entriesLength shown ≤ min buf.length 4095 - 4 :=
      fitted ▸ entriesLength_fitting_le _ _
    have entries := length_flatMap_encoded shownRanges
    have front : (Bytes.hostWord (4 + entriesLength shown) ++ shown.flatMap Bss.encoded).length =
        4 + entriesLength shown := by
      rw [List.length_append, entries, Bytes.length_hostWord]
    refine ⟨_, _, shown, cmdGetBSSList_eq ranges long fitted, ?_, by omega,
      List.drop_left' front, ?_,
      part, ?_, ?_⟩
    · rw [List.length_append, front, List.length_drop]
      omega
    · intro _
      rw [List.append_assoc]
      exact ⟨Bytes.hostWordAt_hostWord (by omega) _, rfl⟩
    · intro other otherPart otherFits
      rw [← fitted]
      exact length_le_fitting otherPart (by omega)
    · intro reply same
      rw [List.take_left' front] at same
      exact cmdList_reply shownRanges (by omega) same
  · have short : (if buf.length > 4095 then 4095 else buf.length) < 4 := by
      split <;> omega
    have nothing : cmdGetBSSList bssList buf = some (buf, 0) := by
      rw [cmdGetBSSList, if_pos short]
    refine ⟨buf, 0, [], nothing, rfl, Nat.zero_le _, rfl, fun enough => absurd enough long,
      List.nil_prefix, ?_, fun _ _ => rfl⟩
    intro other _ fits
    omega

/-- A network, `A`, with CCMP. -/
def listedNetwork : Bss :=
  { Bss.empty with
    ssid := 65 :: Bytes.zeros 32
    ssidLen := 1
    rssi := -60
    channel := 6
    cipher := 0x000fac04 }

/-- An open network, `home`, on another channel. -/
def openNetwork : Bss :=
  { Bss.empty with
    ssid := [0x68, 0x6f, 0x6d, 0x65] ++ Bytes.zeros 29
    ssidLen := 4
    bssid := [0x02, 0x11, 0x22, 0x33, 0x44, 0x55]
    rssi := -71
    channel := 36 }

/-- A network whose name fills the array. -/
def longNetwork : Bss :=
  { Bss.empty with
    ssid := List.replicate 32 0x78 ++ [0]
    ssidLen := 32 }

/-- Two of three networks fit in 64 bytes, and are read back. -/
theorem cmdGetBSSList_listedNetworks :
    ∃ out, cmdGetBSSList [listedNetwork, openNetwork, longNetwork] (Bytes.zeros 64) =
        some (out, 37) ∧
      cmdList out 37 = some [listedNetwork.listed, openNetwork.listed] := by
  have ranges : ∀ b ∈ [listedNetwork, openNetwork, longNetwork], b.Ranges := by
    intro b member
    simp only [List.mem_cons, List.not_mem_nil, or_false] at member
    rcases member with rfl | rfl | rfl <;> constructor <;> decide
  obtain ⟨out, written, shown, wrote, -, few, -, counts, part, longest, lists⟩ :=
    cmdGetBSSList_roundTrip [listedNetwork, openNetwork, longNetwork] ranges (Bytes.zeros 64)
  have size := (counts (by decide)).2
  have both := longest [listedNetwork, openNetwork] ⟨[longNetwork], rfl⟩ (by decide)
  have shownBoth : shown = [listedNetwork, openNetwork] := by
    have all : shown.length ≤ 3 := part.length_le
    have same := List.prefix_iff_eq_take.mp part
    obtain two | three : shown.length = 2 ∨ shown.length = 3 := by
      simp only [List.length_cons, List.length_nil] at both
      omega
    · rwa [two] at same
    · rw [three] at same
      rw [size, same] at few
      exact absurd few (by decide)
  rw [shownBoth] at size lists
  obtain rfl : written = 37 := size
  exact ⟨out, wrote, lists out rfl⟩

/-! ## The entries of the scan cache -/

theorem ranges_empty : Bss.empty.Ranges := by
  constructor <;> decide

theorem Bss.Ranges.readElement {b : Bss} (ranges : b.Ranges) (id : UInt8) (body : Bytes) :
    (readBeaconElement b id body).Ranges := by
  have first : (body.byte 0).toNat < 256 := (body.byte 0).toNat_lt
  obtain ⟨ssid, ssidLen, bssid, rssi, channel, cipher⟩ := ranges
  unfold readBeaconElement
  dsimp only
  by_cases name : id = eidSsid ∧ 0 < body.length ∧ body.length ≤ 32
  · rw [if_pos name]
    constructor
    case ssid =>
      rw [Bytes.length_overwrite (by rw [ssid]; omega)]
      exact ssid
    case ssidLen => exact name.2.2
    all_goals assumption
  · rw [if_neg name]
    have ccmp : cipherCcmp < 4294967296 := by decide
    have tkip : cipherTkip < 4294967296 := by decide
    repeat' split
    all_goals
      constructor
      all_goals assumption

theorem Bss.Ranges.readElements {b : Bss} (ranges : b.Ranges) (fuel : Nat) (rest : Bytes) :
    (readBeaconElements fuel rest b).Ranges := by
  induction fuel generalizing b rest with
  | zero => exact ranges
  | succ fuel ih =>
      rw [readBeaconElements]
      split
      · exact ranges
      · dsimp only
        split
        · exact ranges
        · apply ih
          have read := ranges.readElement (rest.byte 0) (rest.slice 2 (rest.byte 1).toNat)
          split
          · exact ⟨read.ssid, read.ssidLen, read.bssid, read.rssi, read.channel, read.cipher⟩
          · exact read

/-- The entries that `processScanResult` makes have these ranges. -/
theorem ranges_beaconBss {skb : Skb} (long : 24 + 12 ≤ skb.data.length)
    (signal : -32768 ≤ skb.signal ∧ skb.signal < 32768) (generation : Nat) :
    (beaconBss skb generation).Ranges := by
  have fixed : Bss.Ranges { Bss.empty with
      beaconInterval := skb.data.le16At 32
      capabilities := skb.data.le16At 34
      bssid := skb.data.addr3 } :=
    { ranges_empty with bssid := Bytes.length_slice (by omega) }
  have read := fixed.readElements (skb.data.length + 1) (skb.data.drop 36)
  unfold beaconBss
  constructor
  case ssid => exact read.ssid
  case ssidLen => exact read.ssidLen
  case bssid => exact read.bssid
  case rssi => exact signal
  case cipher => exact read.cipher
  case channel =>
    have channel := read.channel
    dsimp only
    unfold channelOfFreq
    split
    · exact channel
    · repeat' split
      all_goals omega

end AirportRtw88
