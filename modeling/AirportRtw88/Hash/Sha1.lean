import AirportRtw88.Hash.Blocks
import Mathlib.Data.UInt
import Mathlib.Order.Basic

/-!
# SHA-1

The hash function of FIPS 180-4 on messages of whole bytes: padding, message schedule, rounds and
the chaining of blocks.
-/

namespace Sha1

/-- The circular left shift. -/
def rotl (bits word : UInt32) : UInt32 :=
  (word <<< bits) ||| (word >>> (32 - bits))

def ch (x y z : UInt32) : UInt32 :=
  (x &&& y) ^^^ (~~~x &&& z)

def parity (x y z : UInt32) : UInt32 :=
  x ^^^ y ^^^ z

def maj (x y z : UInt32) : UInt32 :=
  (x &&& y) ^^^ (x &&& z) ^^^ (y &&& z)

/-- The function of round `t`. -/
def f (t : Nat) : UInt32 → UInt32 → UInt32 → UInt32 :=
  if t < 20 then ch else if t < 40 then parity else if t < 60 then maj else parity

/-- The constant of round `t`. -/
def k (t : Nat) : UInt32 :=
  if t < 20 then 0x5A827999
  else if t < 40 then 0x6ED9EBA1
  else if t < 60 then 0x8F1BBCDC
  else 0xCA62C1D6

/-- Five words: a hash value, or the working variables. -/
structure Words where
  a : UInt32
  b : UInt32
  c : UInt32
  d : UInt32
  e : UInt32
  deriving DecidableEq

def initial : Words :=
  ⟨0x67452301, 0xEFCDAB89, 0x98BADCFE, 0x10325476, 0xC3D2E1F0⟩

/-- A word of a message block. -/
def blockWord (block : List UInt8) (t : Nat) : UInt32 :=
  UInt32.ofNat (((block.getD (4 * t) 0).toNat * 256 + (block.getD (4 * t + 1) 0).toNat) * 65536 +
    ((block.getD (4 * t + 2) 0).toNat * 256 + (block.getD (4 * t + 3) 0).toNat))

/-- The next word of the message schedule. -/
def extend (w : List UInt32) (t : Nat) : List UInt32 :=
  w ++ [rotl 1 (w.getD (t - 3) 0 ^^^ w.getD (t - 8) 0 ^^^ w.getD (t - 14) 0 ^^^ w.getD (t - 16) 0)]

/-- The first words of the message schedule. -/
def schedule (block : List UInt8) : Nat → List UInt32
  | 0 => (List.range 16).map (blockWord block)
  | count + 1 => extend (schedule block count) (16 + count)

/-- Word `t` of the message schedule. -/
def scheduleWord (block : List UInt8) (t : Nat) : UInt32 :=
  (schedule block 64).getD t 0

def round (block : List UInt8) (s : Words) (t : Nat) : Words where
  a := rotl 5 s.a + f t s.b s.c s.d + s.e + k t + scheduleWord block t
  b := s.a
  c := rotl 30 s.b
  d := s.c
  e := s.d

/-- The next hash value. -/
def compress (h : Words) (block : List UInt8) : Words :=
  let s := (List.range 80).foldl (round block) h
  ⟨h.a + s.a, h.b + s.b, h.c + s.c, h.d + s.d, h.e + s.e⟩

/-- The number of zero bytes of the padding. -/
def zeroCount (length : Nat) : Nat :=
  (119 - length % 64) % 64

/-- The eight bytes of a number, the most significant one first. -/
def be64 (number : Nat) : List UInt8 :=
  (List.range 8).map fun i => UInt8.ofNat (number / 256 ^ (7 - i))

/-- The padded message. -/
def pad (message : List UInt8) : List UInt8 :=
  message ++ ([0x80] ++ List.replicate (zeroCount message.length) 0 ++ be64 (8 * message.length))

/-- The four bytes of a word, the most significant one first. -/
def wordBytes (word : UInt32) : List UInt8 :=
  [UInt8.ofNat (word.toNat / 16777216), UInt8.ofNat (word.toNat / 65536),
    UInt8.ofNat (word.toNat / 256), UInt8.ofNat word.toNat]

def Words.bytes (h : Words) : List UInt8 :=
  wordBytes h.a ++ wordBytes h.b ++ wordBytes h.c ++ wordBytes h.d ++ wordBytes h.e

/-- The message digest. -/
def digest (message : List UInt8) : List UInt8 :=
  (BlockHash.chain compress 64 ((pad message).length / 64) initial (pad message)).bytes

/-! ## The message schedule -/

theorem length_schedule (block : List UInt8) (count : Nat) :
    (schedule block count).length = 16 + count := by
  induction count with
  | zero => simp [schedule]
  | succ count ih => rw [schedule, extend, List.length_append, ih, List.length_singleton]; rfl

/-- A word stays when others follow. -/
theorem schedule_stays {block : List UInt8} {first count t : Nat} (known : t < 16 + first)
    (later : first ≤ count) :
    (schedule block count).getD t 0 = (schedule block first).getD t 0 := by
  induction count, later using Nat.le_induction with
  | base => rfl
  | succ count later ih =>
      have inside : t < (schedule block count).length := by
        rw [length_schedule]
        omega
      rw [schedule, extend, List.getD_eq_getElem?_getD, List.getElem?_append_left inside,
        ← List.getD_eq_getElem?_getD, ih]

theorem scheduleWord_block (block : List UInt8) {t : Nat} (first : t < 16) :
    scheduleWord block t = blockWord block t := by
  rw [scheduleWord, schedule_stays first (Nat.zero_le 64), schedule]
  simp [first]

/-- The recurrence of the message schedule. -/
theorem scheduleWord_later (block : List UInt8) {t : Nat} (later : 16 ≤ t) (inside : t < 80) :
    scheduleWord block t = rotl 1 (scheduleWord block (t - 3) ^^^ scheduleWord block (t - 8) ^^^
      scheduleWord block (t - 14) ^^^ scheduleWord block (t - 16)) := by
  have before (s : Nat) (earlier : s < t) :
      scheduleWord block s = (schedule block (t - 16)).getD s 0 :=
    schedule_stays (by omega) (by omega)
  have last : t < 16 + (t - 16 + 1) := by omega
  rw [scheduleWord, schedule_stays last (by omega), schedule, extend,
    before (t - 3) (by omega), before (t - 8) (by omega), before (t - 14) (by omega),
    before (t - 16) (by omega), Nat.add_sub_cancel' later]
  have long := length_schedule block (t - 16)
  rw [List.getD_eq_getElem?_getD, List.getElem?_append_right (by omega), long,
    Nat.add_sub_cancel' later, Nat.sub_self]
  rfl

example : digest [0x61, 0x62, 0x63] = [0xa9, 0x99, 0x3e, 0x36, 0x47, 0x06, 0x81, 0x6a, 0xba, 0x3e,
    0x25, 0x71, 0x78, 0x50, 0xc2, 0x6c, 0x9c, 0xd0, 0xd8, 0x9d] := by
  decide +kernel

end Sha1
