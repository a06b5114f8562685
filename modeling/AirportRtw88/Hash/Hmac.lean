import Mathlib.Data.Nat.Digits.Defs
import Mathlib.Data.Nat.Digits.Lemmas
import Mathlib.Data.UInt
import Mathlib.Logic.Function.Iterate

/-!
# Keyed hashes and key derivation

HMAC of RFC 2104 over a hash function, PBKDF2 of RFC 8018 over a pseudorandom function, and the
pseudorandom function and the pairwise key hierarchy of IEEE 802.11.
-/

namespace Hmac

abbrev Octets : Type := List UInt8

/-- The key, shortened if it is longer than a block, and filled up with zeros. -/
def keyBlock (hash : Octets → Octets) (size : Nat) (key : Octets) : Octets :=
  let key := if key.length > size then hash key else key
  key ++ List.replicate (size - key.length) 0

/-- HMAC over a hash function with blocks of a size. -/
def hmac (hash : Octets → Octets) (size : Nat) (key data : Octets) : Octets :=
  let inner := (keyBlock hash size key).map (· ^^^ 0x36)
  let outer := (keyBlock hash size key).map (· ^^^ 0x5c)
  hash (outer ++ hash (inner ++ data))

/-- The exclusive or of two strings. -/
def xor (first second : Octets) : Octets :=
  List.zipWith (· ^^^ ·) first second

/-- The four octets of a block index, the most significant one first. -/
def int (i : Nat) : Octets :=
  [UInt8.ofNat (i / 16777216), UInt8.ofNat (i / 65536), UInt8.ofNat (i / 256), UInt8.ofNat i]

section Pbkdf2

variable (prf : Octets → Octets → Octets)

/-- `U_(j+1)` of block `i`. -/
def iterate (password salt : Octets) (i j : Nat) : Octets :=
  (prf password)^[j] (prf password (salt ++ int i))

/-- The sum of the first `count` iterates of block `i`. -/
def sum (password salt : Octets) (count i : Nat) : Octets :=
  (List.range (count - 1)).foldl (fun t j => xor t (iterate prf password salt i (j + 1)))
    (iterate prf password salt i 0)

/-- PBKDF2 over a pseudorandom function with outputs of `size` octets. -/
def pbkdf2 (size : Nat) (password salt : Octets) (count length : Nat) : Octets :=
  ((List.range ((length + size - 1) / size)).flatMap fun i =>
    sum prf password salt count (i + 1)).take length

variable {prf} {size : Nat}

theorem length_iterate (sized : ∀ password data, (prf password data).length = size)
    (password salt : Octets) (i j : Nat) : (iterate prf password salt i j).length = size := by
  cases j with
  | zero => exact sized _ _
  | succ j =>
      rw [iterate, Function.iterate_succ_apply']
      exact sized _ _

/-- A sum is as long as the outputs. -/
theorem length_sum (sized : ∀ password data, (prf password data).length = size)
    (password salt : Octets) (count i : Nat) : (sum prf password salt count i).length = size := by
  rw [sum]
  induction count - 1 with
  | zero => exact length_iterate sized password salt i 0
  | succ count ih =>
      rw [List.range_succ, List.foldl_append, List.foldl_cons, List.foldl_nil, xor,
        List.length_zipWith, ih, length_iterate sized, Nat.min_self]

end Pbkdf2

/-! ## IEEE 802.11 -/

/-- The pseudorandom function with an output of a number of bits, over HMAC with SHA-1. -/
def prf (hmac : Octets → Octets → Octets) (key label data : Octets) (bits : Nat) : Octets :=
  ((List.range ((bits + 159) / 160 + 1)).flatMap fun i =>
    hmac key (label ++ [0] ++ data ++ [UInt8.ofNat i])).take (bits / 8)

/-- The number of a string, the first octet the most significant one. -/
def number (octets : Octets) : Nat :=
  Nat.ofDigits 256 (octets.reverse.map UInt8.toNat)

/-- The smaller of two strings as numbers, and behind it the greater one. -/
def ordered (first second : Octets) : Octets :=
  if number first ≤ number second then first ++ second else second ++ first

/-- The pairwise transient key of a master key, the addresses and the nonces. -/
def pairwiseKey (hmac : Octets → Octets → Octets) (label master aa spa anonce snonce : Octets)
    (bits : Nat) : Octets :=
  prf hmac master label (ordered aa spa ++ ordered anonce snonce) bits

theorem digit_lt (octets : Octets) : ∀ digit ∈ octets.reverse.map UInt8.toNat, digit < 256 := by
  intro digit member
  obtain ⟨octet, -, rfl⟩ := List.mem_map.mp member
  exact octet.toNat_lt

theorem number_lt (octets : Octets) : number octets < 256 ^ octets.length := by
  have small := Nat.ofDigits_lt_base_pow_length (by decide) (digit_lt octets)
  rwa [List.length_map, List.length_reverse] at small

theorem number_cons (octet : UInt8) (rest : Octets) :
    number (octet :: rest) = number rest + 256 ^ rest.length * octet.toNat := by
  rw [number, List.reverse_cons, List.map_append, Nat.ofDigits_append, List.length_map,
    List.length_reverse]
  simp [number]

/-- Strings of one length have different numbers. -/
theorem number_injective {first second : Octets} (same : first.length = second.length)
    (equal : number first = number second) : first = second := by
  have lengths : (first.reverse.map UInt8.toNat).length =
      (second.reverse.map UInt8.toNat).length := by simpa using same
  have digits := Nat.ofDigits_inj_of_len_eq (by decide) lengths (digit_lt first) (digit_lt second)
    equal
  exact List.reverse_injective (List.map_injective_iff.mpr (fun _ _ => UInt8.toNat_inj.mp) digits)

/-- The order of the arguments does not matter. -/
theorem ordered_comm {first second : Octets} (same : first.length = second.length) :
    ordered first second = ordered second first := by
  unfold ordered
  rcases Nat.lt_trichotomy (number first) (number second) with less | equal | greater
  · rw [if_pos (Nat.le_of_lt less), if_neg (by omega)]
  · rw [number_injective same equal]
  · rw [if_neg (by omega), if_pos (Nat.le_of_lt greater)]

end Hmac
