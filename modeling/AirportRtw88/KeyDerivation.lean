import AirportRtw88.Hash.Hmac
import AirportRtw88.Sha1Digest
import Mathlib.Data.List.TakeWhile

/-!
# Key derivation

`kern_hmac_sha1` is HMAC over SHA-1 wherever its output lies, so the loops of `derivePMK` and
`derivePTK`, which hash in place, compute PBKDF2 and the pairwise key of IEEE 802.11.  The order in
which the two parties name their addresses and nonces does not matter.
-/

namespace AirportRtw88

open Bytes

/-- HMAC-SHA-1. -/
def hmacSha1 (key data : Bytes) : Bytes :=
  Hmac.hmac Sha1.digest 64 key data

namespace Checked

/-- Hash two strings with one context. -/
def hashBoth (first second : Bytes) : Option Bytes := do
  let context ← kernSha1Update kernSha1Init first
  let context ← kernSha1Update context second
  kernSha1Final context

/-- The key of `kern_hmac_sha1`, hashed if it is longer than a block. -/
def shortKey (key : Bytes) : Option Bytes :=
  if key.length > 64 then do
    let context ← kernSha1Update kernSha1Init key
    kernSha1Final context
  else some key

/-- `kern_hmac_sha1`.  The key, the data and the output are places in one memory, which it
changes. -/
def kernHmacSha1 (memory : Bytes) (key keyLen data dataLen mac : Nat) : Option Bytes := do
  let given ← memory.copy key keyLen
  let shortened ← shortKey given
  store 64 0 shortened.length
  let padded := (zeros 64).overwrite 0 shortened
  let kIpad := padded.map (· ^^^ 0x36)
  let kOpad := padded.map (· ^^^ 0x5c)
  let message ← memory.copy data dataLen
  let inner ← hashBoth kIpad message
  store memory.length mac inner.length
  let memory := memory.overwrite mac inner
  let read ← memory.copy mac 20
  let outer ← hashBoth kOpad read
  return memory.overwrite mac outer

/-- The remaining iterations of one block of `derivePMK`.  The memory holds the passphrase, the
salt and `u`. -/
def pmkIterations (passLen u : Nat) : Nat → Bytes → Bytes → Option Bytes
  | 0, _, t => some t
  | iterations + 1, memory, t => do
      let memory ← kernHmacSha1 memory 0 passLen u 20 u
      let hashed ← memory.copy u 20
      pmkIterations passLen u iterations memory (xorBytes t hashed)

/-- One block of `derivePMK`. -/
def pmkBlock (passphrase salt u : Bytes) (ssidLen block : Nat) : Option Bytes := do
  let passLen := passphrase.cString.length
  let number := be32 block
  store 128 ssidLen number.length
  let salt := salt.overwrite ssidLen number
  let saltAt := passphrase.length
  let uAt := saltAt + salt.length
  let memory ← kernHmacSha1 (passphrase ++ salt ++ u) 0 passLen saltAt (ssidLen + 4) uAt
  let t ← memory.copy uAt 20
  pmkIterations passLen uAt 4095 memory t

/-- `derivePMK`, for a buffer that holds a terminated passphrase, and with what was in the arrays
`salt[128]` and `u[20]`. -/
def derivePMK (passphrase ssid salt u : Bytes) : Option Bytes := do
  let ssidLen := if ssid.length > 120 then 120 else ssid.length
  let name ← ssid.copy 0 ssidLen
  store 128 0 name.length
  let salt := salt.overwrite 0 name
  let first ← pmkBlock passphrase salt u ssidLen 1
  let second ← pmkBlock passphrase salt u ssidLen 2
  let front ← first.copy 0 20
  let back ← second.copy 0 12
  return front ++ back

end Checked

/-! ## HMAC -/

theorem length_digest (message : Bytes) : (Sha1.digest message).length = 20 := by
  simp [Sha1.digest, Sha1.Words.bytes, Sha1.wordBytes]

/-- The key fills one block. -/
theorem length_keyBlock (key : Bytes) : (Hmac.keyBlock Sha1.digest 64 key).length = 64 := by
  simp only [Hmac.keyBlock, List.length_append, List.length_replicate]
  split
  · rw [length_digest]
  · omega

theorem length_hmacSha1 (key data : Bytes) : (hmacSha1 key data).length = 20 :=
  length_digest _

namespace Checked

theorem hashBoth_eq {first second : Bytes} (small : first.length < 4294967232)
    (short : second.length < 4294967232) :
    hashBoth first second = some (Sha1.digest (first ++ second)) := by
  have one := (holds_sha1Start (length_zeros 64)).update first (Nat.lt_trans small (by decide))
  have two := one.update second (Nat.lt_trans short (by decide))
  have total : ([] ++ first ++ second).length < 2305843009213693952 := by
    simp only [List.nil_append, List.length_append]
    omega
  have digest := (kernSha1Final_eq two).trans (congrArg some (two.final total))
  rw [List.nil_append] at digest
  rw [hashBoth, kernSha1Update_eq _ small]
  simp only [Option.bind_eq_bind, Option.bind_some]
  rw [kernSha1Update_eq _ short, Option.bind_some]
  exact digest

theorem shortKey_eq {key : Bytes} (small : key.length < 4294967232) :
    shortKey key = some (if key.length > 64 then Sha1.digest key else key) := by
  rw [shortKey]
  split
  · have updated := (holds_sha1Start (length_zeros 64)).update key (by omega)
    rw [List.nil_append] at updated
    rw [kernSha1Update_eq _ small]
    exact (kernSha1Final_eq updated).trans (congrArg some (updated.final (by omega)))
  · rfl

end Checked

/-- The key in a block of zeros. -/
theorem overwrite_zeros (key : Bytes) :
    (zeros 64).overwrite 0 key = key ++ List.replicate (64 - key.length) 0 := by
  rw [overwrite, List.take_zero, List.nil_append, Nat.zero_add, zeros, List.drop_replicate]

/-- What is written again at a place is what is there. -/
theorem overwrite_overwrite {memory first second : Bytes} {start : Nat}
    (same : first.length = second.length) (inside : start + first.length ≤ memory.length) :
    (memory.overwrite start first).overwrite start second = memory.overwrite start second := by
  have front : (memory.take start).length = start := by
    rw [List.length_take]
    omega
  have whole : (memory.take start ++ first).length = start + second.length := by
    rw [List.length_append, front, same]
  have head : (memory.take start ++ first ++ memory.drop (start + first.length)).take start =
      memory.take start := by
    rw [List.append_assoc, List.take_left' front]
  have tail : (memory.take start ++ first ++ memory.drop (start + first.length)).drop
      (start + second.length) = memory.drop (start + first.length) := List.drop_left' whole
  rw [overwrite, overwrite, overwrite, head, tail, same]

namespace Checked

/-- Wherever the key, the data and the output lie, the output is the code of the data. -/
theorem kernHmacSha1_eq {memory : Bytes} {key keyLen data dataLen mac : Nat}
    (keyInside : key + keyLen ≤ memory.length) (dataInside : data + dataLen ≤ memory.length)
    (macInside : mac + 20 ≤ memory.length) (keySmall : keyLen < 4294967232)
    (dataSmall : dataLen < 4294967232) :
    kernHmacSha1 memory key keyLen data dataLen mac =
      some (memory.overwrite mac
        (hmacSha1 (memory.slice key keyLen) (memory.slice data dataLen))) := by
  have keyLength : (memory.slice key keyLen).length = keyLen := length_slice keyInside
  have dataLength : (memory.slice data dataLen).length = dataLen := length_slice dataInside
  let shortened := if (memory.slice key keyLen).length > 64
    then Sha1.digest (memory.slice key keyLen) else memory.slice key keyLen
  have shortens : shortKey (memory.slice key keyLen) = some shortened :=
    shortKey_eq (by omega)
  have fits : shortened.length ≤ 64 := by
    simp only [shortened]
    split
    · rw [length_digest]
      decide
    · exact Nat.le_of_not_lt ‹_›
  let block := Hmac.keyBlock Sha1.digest 64 (memory.slice key keyLen)
  have padded : (zeros 64).overwrite 0 shortened = block := by
    rw [overwrite_zeros]
    rfl
  have blockLength : block.length = 64 := by
    rw [← padded, length_overwrite (by rw [length_zeros]; omega), length_zeros]
  have short (pad : UInt8) : (block.map (· ^^^ pad)).length < 4294967232 := by
    rw [List.length_map, blockLength]
    decide
  obtain ⟨inner, isInner⟩ :
      ∃ inner, Sha1.digest (block.map (· ^^^ 0x36) ++ memory.slice data dataLen) = inner := ⟨_, rfl⟩
  have innerLength : inner.length = 20 := isInner ▸ length_digest _
  have written : (memory.overwrite mac inner).length = memory.length :=
    length_overwrite (by omega)
  have readBack : (memory.overwrite mac inner).slice mac 20 = inner := by
    rw [← innerLength]
    exact slice_overwrite (by omega)
  rw [kernHmacSha1, copy_eq keyInside]
  simp only [Option.bind_eq_bind, Option.bind_some]
  rw [shortens, Option.bind_some, store_eq (by omega), Option.bind_some, copy_eq dataInside,
    Option.bind_some, padded, hashBoth_eq (short _) (by omega), Option.bind_some, isInner,
    store_eq (by omega), Option.bind_some, copy_eq (by omega), Option.bind_some, readBack,
    hashBoth_eq (short _) (by omega), Option.bind_some, overwrite_overwrite]
  · rw [← isInner]
    rfl
  · rw [innerLength, length_digest]
  · omega

end Checked

/-! ## The master key -/

/-- A C string ends at its terminator. -/
theorem cString_terminated {text : Bytes} (rest : Bytes) (free : 0 ∉ text) :
    Bytes.cString (text ++ 0 :: rest) = text := by
  have whole : text.takeWhile (· != 0) = text := by
    apply List.takeWhile_eq_self_iff.mpr
    intro value member
    simpa using fun same : value = 0 => free (same ▸ member)
  rw [cString, List.takeWhile_append, whole, if_pos rfl, List.takeWhile_cons]
  simp

theorem be32_eq (number : Nat) : be32 number = Hmac.int number := by
  simp [be32, be16, Hmac.int, Nat.div_div_eq_div_mul]

/-- A place before the one that is written keeps its contents. -/
theorem slice_overwrite_before {memory source : Bytes} {start place length : Nat}
    (before : start + length ≤ place) (inside : place ≤ memory.length) :
    (memory.overwrite place source).slice start length = memory.slice start length := by
  have front : (memory.take place).length = place := by
    rw [List.length_take]
    omega
  rw [overwrite, List.append_assoc, slice_append_left (by omega), slice_take before]

/-- The master key is one sum and the front of another. -/
theorem pbkdf2_eq (passphrase ssid : Bytes) : Hmac.pbkdf2 hmacSha1 20 passphrase ssid 4096 32 =
    Hmac.sum hmacSha1 passphrase ssid 4096 1 ++
      (Hmac.sum hmacSha1 passphrase ssid 4096 2).take 12 := by
  have blocks : List.range ((32 + 20 - 1) / 20) = [0, 1] := rfl
  have sized : (Hmac.sum hmacSha1 passphrase ssid 4096 1).length = 20 :=
    Hmac.length_sum length_hmacSha1 _ _ _ _
  rw [Hmac.pbkdf2, blocks, List.flatMap_cons, List.flatMap_cons, List.flatMap_nil,
    List.append_nil, List.take_append, sized, List.take_of_length_le (by rw [sized]; decide)]

namespace Checked

/-- Hashing in place computes the iterates, and adds them up. -/
theorem pmkIterations_eq {passLen u : Nat} (inside : passLen ≤ u) (small : passLen < 4294967232)
    (iterations : Nat) {memory : Bytes} (long : memory.length = u + 20) (t : Bytes) :
    pmkIterations passLen u iterations memory t =
      some ((List.range iterations).foldl (fun t j => Hmac.xor t
        ((hmacSha1 (memory.slice 0 passLen))^[j + 1] (memory.slice u 20))) t) := by
  induction iterations generalizing memory t with
  | zero => rfl
  | succ iterations ih =>
      let next := hmacSha1 (memory.slice 0 passLen) (memory.slice u 20)
      have size : next.length = 20 := length_hmacSha1 _ _
      have written : (memory.overwrite u next).length = memory.length :=
        length_overwrite (by omega)
      have key : (memory.overwrite u next).slice 0 passLen = memory.slice 0 passLen :=
        slice_overwrite_before (by omega) (by omega)
      have readBack : (memory.overwrite u next).slice u 20 = next := by
        rw [← size]
        exact slice_overwrite (by omega)
      rw [pmkIterations, kernHmacSha1_eq (by omega) (by omega) (by omega) small (by decide)]
      simp only [Option.bind_eq_bind, Option.bind_some]
      change ((memory.overwrite u next).copy u 20).bind _ = _
      rw [copy_eq (by omega), Option.bind_some, ih (written.trans long), key, readBack,
        List.range_succ_eq_map, List.foldl_cons, List.foldl_map]
      simp only [Function.iterate_succ_apply]
      rfl

/-- A block is a sum of iterates. -/
theorem pmkBlock_eq {passphrase salt u : Bytes} {ssidLen : Nat} (saltLength : salt.length = 128)
    (uLength : u.length = 20) (room : ssidLen ≤ 120)
    (small : passphrase.cString.length < 4294967232) (block : Nat) :
    pmkBlock passphrase salt u ssidLen block =
      some (Hmac.sum hmacSha1 passphrase.cString (salt.take ssidLen) 4096 block) := by
  let numbered := salt.overwrite ssidLen (be32 block)
  have four : (be32 block).length = 4 := rfl
  have numberedLength : numbered.length = 128 := by
    rw [length_overwrite (by omega), saltLength]
  have numberedFront : numbered.take (ssidLen + 4) = salt.take ssidLen ++ be32 block := by
    have front : (salt.take ssidLen ++ be32 block).length = ssidLen + 4 := by
      rw [List.length_append, List.length_take, four]
      omega
    exact List.take_left' front
  have isPrefix : passphrase.cString.length ≤ passphrase.length :=
    (List.takeWhile_prefix _).length_le
  let memory := passphrase ++ numbered ++ u
  have length : memory.length = passphrase.length + 128 + 20 := by
    simp only [memory, List.length_append, numberedLength, uLength]
  have key : memory.slice 0 passphrase.cString.length = passphrase.cString := by
    simp only [memory, slice, List.drop_zero, List.append_assoc]
    rw [List.take_append_of_le_length isPrefix]
    exact (List.prefix_iff_eq_take.mp (List.takeWhile_prefix _)).symm
  have seed : memory.slice passphrase.length (ssidLen + 4) = salt.take ssidLen ++ be32 block := by
    simp only [memory, slice, List.append_assoc, List.drop_left]
    rw [List.take_append_of_le_length (by omega), numberedFront]
  let first := hmacSha1 passphrase.cString (salt.take ssidLen ++ be32 block)
  have firstLength : first.length = 20 := length_hmacSha1 _ _
  let uAt := passphrase.length + 128
  have written : (memory.overwrite uAt first).length = memory.length :=
    length_overwrite (by omega)
  have readBack : (memory.overwrite uAt first).slice uAt 20 = first := by
    rw [← firstLength]
    exact slice_overwrite (by omega)
  have keyStays : (memory.overwrite uAt first).slice 0 passphrase.cString.length =
      passphrase.cString := by
    rw [slice_overwrite_before (by omega) (by omega), key]
  rw [pmkBlock, store_eq (by omega)]
  simp only [Option.bind_eq_bind, Option.bind_some]
  change ((kernHmacSha1 memory 0 passphrase.cString.length passphrase.length (ssidLen + 4)
    (passphrase.length + numbered.length)).bind _) = _
  rw [numberedLength, kernHmacSha1_eq (by omega) (by omega) (by omega) small (by omega), key, seed,
    Option.bind_some]
  change ((memory.overwrite uAt first).copy uAt 20).bind _ = _
  rw [copy_eq (by omega), Option.bind_some]
  change pmkIterations passphrase.cString.length uAt 4095 (memory.overwrite uAt first) _ = _
  rw [pmkIterations_eq (by omega) small 4095 (by omega), keyStays, readBack]
  simp only [Hmac.sum, Hmac.iterate, be32_eq, first]
  rfl

/-- The master key is that of PBKDF2. -/
theorem derivePMK_eq {passphrase ssid salt u : Bytes} (saltLength : salt.length = 128)
    (uLength : u.length = 20) (room : ssid.length ≤ 120)
    (small : passphrase.cString.length < 4294967232) :
    derivePMK passphrase ssid salt u =
      some (Hmac.pbkdf2 hmacSha1 20 passphrase.cString ssid 4096 32) := by
  have written : (salt.overwrite 0 ssid).length = 128 := by
    rw [length_overwrite (by omega), saltLength]
  have name : (salt.overwrite 0 ssid).take ssid.length = ssid :=
    slice_overwrite (Nat.zero_le _)
  have first := pmkBlock_eq written uLength room small 1
  have second := pmkBlock_eq written uLength room small 2
  rw [name] at first second
  have sized (number : Nat) :
      (Hmac.sum hmacSha1 passphrase.cString ssid 4096 number).length = 20 :=
    Hmac.length_sum length_hmacSha1 _ _ _ _
  have all : ssid.slice 0 ssid.length = ssid := List.take_length
  rw [derivePMK, if_neg (by omega), copy_eq (by omega), all]
  simp only [Option.bind_eq_bind, Option.bind_some]
  rw [store_eq (by omega), Option.bind_some, first, Option.bind_some, second, Option.bind_some,
    copy_eq (by rw [sized]), Option.bind_some, copy_eq (by rw [sized]; decide), Option.bind_some,
    pbkdf2_eq]
  simp only [slice, List.drop_zero, Option.pure_def]
  rw [List.take_of_length_le (by rw [sized])]

end Checked

/-! ## The pairwise key -/

/-- The code of the supplicant, without the memory. -/
theorem kernHmacSha1_eq {key data : Bytes} (keySmall : key.length < 4294967296)
    (dataSmall : data.length < 4294967296) : kernHmacSha1 key data = hmacSha1 key data := by
  have hashes {first second : Bytes} (small : first.length < 4294967296)
      (short : second.length < 4294967296) :
      kernSha1Final (kernSha1Update (kernSha1Update kernSha1Init first) second) =
        Sha1.digest (first ++ second) := by
    have one := (holds_sha1Start (length_zeros 64)).update first small
    have two := one.update second short
    rw [List.nil_append] at two
    exact two.final (by rw [List.length_append]; omega)
  have shortened : (if key.length > 64 then kernSha1Final (kernSha1Update kernSha1Init key)
      else key) = if key.length > 64 then Sha1.digest key else key := by
    have updated := (holds_sha1Start (length_zeros 64)).update key keySmall
    rw [List.nil_append] at updated
    rw [← updated.final (by omega)]
    rfl
  let block := Hmac.keyBlock Sha1.digest 64 key
  have padded : (zeros 64).overwrite 0
      (if key.length > 64 then kernSha1Final (kernSha1Update kernSha1Init key) else key) =
        block := by
    rw [shortened, overwrite_zeros]
    rfl
  have short (pad : UInt8) : (block.map (· ^^^ pad)).length < 4294967296 := by
    rw [List.length_map]
    exact Nat.lt_of_le_of_lt (length_keyBlock key).le (by decide)
  have inner := hashes (short 0x36) dataSmall
  have digest : (Sha1.digest (block.map (· ^^^ 0x36) ++ data)).length < 4294967296 := by
    rw [length_digest]
    decide
  simp only [kernHmacSha1, padded]
  rw [inner, hashes (short 0x5c) digest]
  rfl

/-- The supplicant's iterations, without the memory. -/
theorem pbkdf2Iterations_eq {passphrase : Bytes} (small : passphrase.length < 4294967296)
    (iterations : Nat) {u : Bytes} (size : u.length = 20) (t : Bytes) :
    pbkdf2Iterations passphrase iterations u t =
      (List.range iterations).foldl
        (fun t j => Hmac.xor t ((hmacSha1 passphrase)^[j + 1] u)) t := by
  induction iterations generalizing u t with
  | zero => rfl
  | succ iterations ih =>
      rw [pbkdf2Iterations, kernHmacSha1_eq small (by omega), ih (length_hmacSha1 _ _),
        List.range_succ_eq_map, List.foldl_cons, List.foldl_map]
      simp only [Function.iterate_succ_apply]
      rfl

/-- The master key of the handshake is that of PBKDF2. -/
theorem derivePMK_eq {passphrase ssid : Bytes} (small : passphrase.length < 4294967296)
    (name : ssid.length ≤ 120) :
    derivePMK passphrase ssid = Hmac.pbkdf2 hmacSha1 20 passphrase ssid 4096 32 := by
  have hashed (number : Nat) :
      pbkdf2Iterations passphrase 4095 (kernHmacSha1 passphrase (ssid ++ be32 number))
          (kernHmacSha1 passphrase (ssid ++ be32 number)) =
        Hmac.sum hmacSha1 passphrase ssid 4096 number := by
    have seed : (ssid ++ be32 number).length < 4294967296 := by
      rw [List.length_append]
      change ssid.length + 4 < _
      omega
    rw [kernHmacSha1_eq small seed, pbkdf2Iterations_eq small 4095 (length_hmacSha1 _ _), be32_eq]
    rfl
  rw [derivePMK, List.take_of_length_le name, pbkdf2_eq]
  simp only [hashed]

/-- The comparison of two buffers is that of their numbers. -/
theorem lexLess_iff {first second : Bytes} (same : first.length = second.length) :
    lexLess first second = true ↔ Hmac.number first < Hmac.number second := by
  induction first generalizing second with
  | nil =>
      obtain rfl := List.length_eq_zero_iff.mp same.symm
      simp [lexLess]
  | cons left lefts ih =>
      cases second with
      | nil => cases same
      | cons right rights =>
          have lengths : lefts.length = rights.length := Nat.succ.inj same
          have lower := Hmac.number_lt lefts
          have upper := Hmac.number_lt rights
          rw [Hmac.number_cons, Hmac.number_cons, lexLess]
          rw [← lengths] at upper ⊢
          split
          case isTrue equal =>
            rw [ih lengths, equal]
            exact (Nat.add_lt_add_iff_right).symm
          case isFalse other =>
            have digits : left.toNat ≠ right.toNat := fun equal => other (UInt8.toNat_inj.mp equal)
            rw [decide_eq_true_eq, UInt8.lt_iff_toNat_lt]
            constructor
            · intro less
              have gap := Nat.mul_le_mul_left (256 ^ lefts.length) (Nat.succ_le_of_lt less)
              rw [Nat.mul_succ] at gap
              omega
            · intro less
              by_contra greater
              have gap := Nat.mul_le_mul_left (256 ^ lefts.length)
                (Nat.succ_le_of_lt (Nat.lt_of_le_of_ne (Nat.le_of_not_lt greater) digits.symm))
              rw [Nat.mul_succ] at gap
              omega

theorem ordered_of_lexLess {first second : Bytes} (same : first.length = second.length) :
    (if lexLess first second then first ++ second else second ++ first) =
      Hmac.ordered second first := by
  unfold Hmac.ordered
  by_cases less : lexLess first second = true
  · have numbers := (lexLess_iff same).mp less
    rw [if_pos less, if_neg (by omega)]
  · have numbers : ¬ Hmac.number first < Hmac.number second :=
      fun smaller => less ((lexLess_iff same).mpr smaller)
    rw [if_neg less, if_pos (by omega)]

/-- The pairwise key is that of IEEE 802.11. -/
theorem derivePTK_eq {pmk anonce snonce spa aa : Bytes} (master : pmk.length < 4294967296)
    (nonces : anonce.length = 32) (nonces' : snonce.length = 32) (station : spa.length = 6)
    (point : aa.length = 6) :
    derivePTK pmk anonce snonce spa aa =
      Hmac.pairwiseKey hmacSha1 pairwiseLabel pmk aa spa anonce snonce 512 := by
  have macs := ordered_of_lexLess (station.trans point.symm)
  have numbers := ordered_of_lexLess (nonces'.trans nonces.symm)
  have lengthOrdered (first second : Bytes) :
      (Hmac.ordered first second).length = first.length + second.length := by
    unfold Hmac.ordered
    split <;> simp [Nat.add_comm]
  let data := pairwiseLabel ++ [0] ++ Hmac.ordered aa spa ++ Hmac.ordered anonce snonce
  have short (i : UInt8) : (data ++ [i]).length < 4294967296 := by
    simp [data, lengthOrdered, station, point, nonces, nonces', pairwiseLabel]
  have code (i : UInt8) : kernHmacSha1 pmk (data ++ [i]) = hmacSha1 pmk (data ++ [i]) :=
    kernHmacSha1_eq master (short i)
  have listed : List.range ((512 + 159) / 160 + 1) = [0, 1, 2, 3, 4] := rfl
  have seed : pairwiseLabel ++ [0] ++
      (Hmac.ordered aa spa ++ Hmac.ordered anonce snonce) = data := by
    simp only [data, List.append_assoc]
  have cut (h0 h1 h2 h3 h4 : Bytes) (l0 : h0.length = 20) (l1 : h1.length = 20)
      (l2 : h2.length = 20) (l3 : h3.length = 20) :
      (h0 ++ (h1 ++ (h2 ++ (h3 ++ h4)))).take 64 = h0 ++ h1 ++ h2 ++ h3.take 4 := by
    simp [List.take_append, l0, l1, l2, l3, List.take_of_length_le]
  simp only [derivePTK, macs, numbers]
  change kernHmacSha1 pmk (data ++ [0]) ++ kernHmacSha1 pmk (data ++ [1]) ++
    kernHmacSha1 pmk (data ++ [2]) ++ (kernHmacSha1 pmk (data ++ [3])).take 4 = _
  rw [code, code, code, code, Hmac.pairwiseKey, Hmac.prf, listed, seed]
  simp only [List.flatMap_cons, List.flatMap_nil, List.append_nil]
  exact (cut _ _ _ _ _ (length_hmacSha1 _ _) (length_hmacSha1 _ _) (length_hmacSha1 _ _)
    (length_hmacSha1 _ _)).symm

/-- Both parties derive the same key: neither the order of the addresses nor that of the nonces
matters. -/
theorem pairwiseKey_comm {anonce snonce spa aa : Bytes} (nonces : anonce.length = snonce.length)
    (addresses : aa.length = spa.length) (pmk : Bytes) :
    Hmac.pairwiseKey hmacSha1 pairwiseLabel pmk aa spa anonce snonce 512 =
        Hmac.pairwiseKey hmacSha1 pairwiseLabel pmk spa aa anonce snonce 512 ∧
      Hmac.pairwiseKey hmacSha1 pairwiseLabel pmk aa spa anonce snonce 512 =
        Hmac.pairwiseKey hmacSha1 pairwiseLabel pmk aa spa snonce anonce 512 := by
  simp only [Hmac.pairwiseKey]
  constructor
  · rw [Hmac.ordered_comm addresses]
  · rw [Hmac.ordered_comm nonces]

/-! ## The derivations -/

/-- `kern_hmac_sha1` is HMAC wherever its output lies, `derivePMK` is PBKDF2, and `derivePTK` is
the pairwise key, whichever party names its address and its nonce first. -/
theorem keyDerivation :
    (∀ (memory : Bytes) (key keyLen data dataLen mac : Nat), key + keyLen ≤ memory.length →
      data + dataLen ≤ memory.length → mac + 20 ≤ memory.length → keyLen < 4294967232 →
      dataLen < 4294967232 →
      Checked.kernHmacSha1 memory key keyLen data dataLen mac =
        some (memory.overwrite mac
          (hmacSha1 (memory.slice key keyLen) (memory.slice data dataLen)))) ∧
    (∀ passphrase rest ssid salt u : Bytes, 0 ∉ passphrase → passphrase.length ≤ 63 →
      ssid.length ≤ 32 → salt.length = 128 → u.length = 20 →
      Checked.derivePMK (passphrase ++ 0 :: rest) ssid salt u =
        some (Hmac.pbkdf2 hmacSha1 20 passphrase ssid 4096 32)) ∧
    (∀ pmk anonce snonce spa aa : Bytes, pmk.length = 32 → anonce.length = 32 →
      snonce.length = 32 → spa.length = 6 → aa.length = 6 →
      derivePTK pmk anonce snonce spa aa =
          Hmac.pairwiseKey hmacSha1 pairwiseLabel pmk aa spa anonce snonce 512 ∧
        derivePTK pmk anonce snonce aa spa = derivePTK pmk anonce snonce spa aa ∧
        derivePTK pmk snonce anonce spa aa = derivePTK pmk anonce snonce spa aa) := by
  refine ⟨fun memory key keyLen data dataLen mac => Checked.kernHmacSha1_eq, ?_, ?_⟩
  · intro passphrase rest ssid salt u text short name saltLength uLength
    have terminated := cString_terminated rest text
    rw [Checked.derivePMK_eq saltLength uLength (by omega) (by rw [terminated]; omega), terminated]
  · intro pmk anonce snonce spa aa master nonces nonces' station point
    have small : pmk.length < 4294967296 := by omega
    have swapped := pairwiseKey_comm (nonces.trans nonces'.symm) (point.trans station.symm) pmk
    refine ⟨derivePTK_eq small nonces nonces' station point, ?_, ?_⟩
    · rw [derivePTK_eq small nonces nonces' point station,
        derivePTK_eq small nonces nonces' station point, swapped.1]
    · rw [derivePTK_eq small nonces' nonces station point,
        derivePTK_eq small nonces nonces' station point, swapped.2]

/-- A code in place of its data, a master key, and a pairwise key. -/
theorem keyDerivation_instance :
    Checked.kernHmacSha1 (0x61 :: zeros 20) 0 1 1 20 1 =
        some (Bytes.overwrite (0x61 :: zeros 20) 1 (hmacSha1 [0x61] (zeros 20))) ∧
      Checked.derivePMK [0x61, 0] [0x62] (zeros 128) (zeros 20) =
        some (Hmac.pbkdf2 hmacSha1 20 [0x61] [0x62] 4096 32) ∧
      derivePTK (zeros 32) (zeros 32) (zeros 32) (zeros 6) (zeros 6) =
        Hmac.pairwiseKey hmacSha1 pairwiseLabel (zeros 32) (zeros 6) (zeros 6) (zeros 32) (zeros 32)
          512 :=
  ⟨keyDerivation.1 (0x61 :: zeros 20) 0 1 1 20 1 (by decide) (by decide) (by decide) (by decide)
      (by decide),
    keyDerivation.2.1 [0x61] [] [0x62] (zeros 128) (zeros 20) (by decide) (by decide) (by decide)
      rfl rfl,
    (keyDerivation.2.2 (zeros 32) (zeros 32) (zeros 32) (zeros 6) (zeros 6) rfl rfl rfl rfl rfl).1⟩

end AirportRtw88
