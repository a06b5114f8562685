import Mathlib.Algebra.Ring.Nat
import Mathlib.Data.List.Basic
import Mathlib.Tactic.Common

/-!
# Byte strings

Buffers are lists of bytes.  The reading functions are total: a byte past the
end of a buffer reads as zero, and a slice past the end is short.
-/

namespace AirportRtw88

abbrev Bytes : Type := List UInt8

namespace Bytes

/-- The byte at an index of a buffer. -/
def byte (bytes : Bytes) (index : Nat) : UInt8 :=
  bytes.getD index 0

/-- `length` bytes starting at `start`, the source of a `memcpy`. -/
def slice (bytes : Bytes) (start length : Nat) : Bytes :=
  (bytes.drop start).take length

/-- A zeroed buffer. -/
def zeros (length : Nat) : Bytes :=
  List.replicate length 0

/-- `memcpy(target + start, source, length of source)`. -/
def overwrite (target : Bytes) (start : Nat) (source : Bytes) : Bytes :=
  target.take start ++ source ++ target.drop (start + source.length)

/-- The little-endian 16-bit word at an index. -/
def le16At (bytes : Bytes) (index : Nat) : Nat :=
  (bytes.byte index).toNat + 256 * (bytes.byte (index + 1)).toNat

/-- The big-endian 16-bit word at an index. -/
def be16At (bytes : Bytes) (index : Nat) : Nat :=
  256 * (bytes.byte index).toNat + (bytes.byte (index + 1)).toNat

/-- The big-endian 32-bit word at an index. -/
def be32At (bytes : Bytes) (index : Nat) : Nat :=
  65536 * bytes.be16At index + bytes.be16At (index + 2)

/-- A 16-bit word in little-endian order. -/
def le16 (word : Nat) : Bytes :=
  [UInt8.ofNat word, UInt8.ofNat (word / 256)]

/-- A 16-bit word in big-endian order. -/
def be16 (word : Nat) : Bytes :=
  [UInt8.ofNat (word / 256), UInt8.ofNat word]

/-- A 32-bit word in big-endian order. -/
def be32 (word : Nat) : Bytes :=
  be16 (word / 65536) ++ be16 word

/-- The bytes of a C string before its terminator. -/
def cString (bytes : Bytes) : Bytes :=
  bytes.takeWhile (· != 0)

/-- `memcmp(first, second, n) < 0` for two buffers of one length. -/
def lexLess : Bytes → Bytes → Bool
  | left :: lefts, right :: rights =>
      if left = right then lexLess lefts rights else left < right
  | _, _ => false

@[simp]
theorem length_zeros (length : Nat) : (zeros length).length = length :=
  List.length_replicate

theorem length_slice_le (bytes : Bytes) (start length : Nat) :
    (bytes.slice start length).length ≤ length := by
  simp only [slice, List.length_take]
  omega

theorem length_slice {bytes : Bytes} {start length : Nat}
    (inside : start + length ≤ bytes.length) :
    (bytes.slice start length).length = length := by
  simp only [slice, List.length_take, List.length_drop]
  omega

theorem length_overwrite {target source : Bytes} {start : Nat}
    (inside : start + source.length ≤ target.length) :
    (target.overwrite start source).length = target.length := by
  simp only [overwrite, List.length_append, List.length_take, List.length_drop]
  omega

/-- What was copied into a buffer is read back from it. -/
theorem slice_overwrite {target source : Bytes} {start : Nat}
    (inside : start ≤ target.length) :
    (target.overwrite start source).slice start source.length = source := by
  have start_eq : (target.take start).length = start := by
    simp only [List.length_take]
    omega
  unfold overwrite slice
  rw [List.append_assoc, List.drop_append_of_le_length (by omega)]
  simp

theorem byte_replicate {count index : Nat} (inside : index < count) (value : UInt8) :
    byte (List.replicate count value) index = value := by
  simp [byte, inside]

theorem byte_append_left {front back : Bytes} {index : Nat} (inside : index < front.length) :
    byte (front ++ back) index = front.byte index := by
  simp [byte, List.getElem?_append_left inside]

theorem slice_append_left {front back : Bytes} {start length : Nat}
    (inside : start + length ≤ front.length) :
    slice (front ++ back) start length = front.slice start length := by
  rw [slice, slice, List.drop_append_of_le_length (by omega),
    List.take_append_of_le_length (by rw [List.length_drop]; omega)]

theorem le16At_lt (bytes : Bytes) (index : Nat) : bytes.le16At index < 65536 := by
  have low := (bytes.byte index).toNat_lt
  have high := (bytes.byte (index + 1)).toNat_lt
  unfold le16At
  omega

theorem be16At_lt (bytes : Bytes) (index : Nat) : bytes.be16At index < 65536 := by
  have high := (bytes.byte index).toNat_lt
  have low := (bytes.byte (index + 1)).toNat_lt
  unfold be16At
  omega

/-- A word that was written is read back. -/
theorem le16At_le16 (before after : Bytes) (word : Nat) (small : word < 65536) :
    (before ++ (le16 word ++ after)).le16At before.length = word := by
  simp [le16At, byte, le16]
  omega

theorem be16At_be16 (before after : Bytes) (word : Nat) (small : word < 65536) :
    (before ++ (be16 word ++ after)).be16At before.length = word := by
  simp [be16At, byte, be16]
  omega

theorem be16At_take {bytes : Bytes} {length index : Nat} (inside : index + 1 < length) :
    Bytes.be16At (bytes.take length) index = bytes.be16At index := by
  have first : index < length := by omega
  simp [be16At, byte, first, inside]

end Bytes

end AirportRtw88
