import AirportRtw88.Bytes

/-!
# Accesses to buffers and arrays

A read fails past the end of its buffer, and a write fails if it does not fit its array.  The
lengths of buffers are 32-bit words, and so are the sums and differences of lengths.
-/

namespace AirportRtw88

/-- The value of an unsigned 32-bit expression. -/
def u32 (value : Nat) : Nat :=
  value % 4294967296

/-- The difference of two unsigned 32-bit words. -/
def sub32 (left right : Nat) : Nat :=
  u32 (left + 4294967296 - right)

/-- A write of `length` elements at an index of an array. -/
def store (capacity index length : Nat) : Option Unit :=
  if index + length ≤ capacity then some () else none

theorem u32_eq {value : Nat} (small : value < 4294967296) : u32 value = value :=
  Nat.mod_eq_of_lt small

theorem sub32_eq {left right : Nat} (ordered : right ≤ left) (small : left < 4294967296) :
    sub32 left right = left - right := by
  unfold sub32 u32
  omega

theorem store_eq {capacity index length : Nat} (inside : index + length ≤ capacity) :
    store capacity index length = some () :=
  if_pos inside

namespace Bytes

/-- A read of the byte at an index. -/
def read (bytes : Bytes) (index : Nat) : Option UInt8 :=
  bytes[index]?

/-- A read of `length` bytes, by `memcpy` or `memcmp`. -/
def copy (bytes : Bytes) (start length : Nat) : Option Bytes :=
  if start + length ≤ bytes.length then some (bytes.slice start length) else none

def readLe16 (bytes : Bytes) (index : Nat) : Option Nat := do
  let low ← bytes.read index
  let high ← bytes.read (index + 1)
  return low.toNat + 256 * high.toNat

def readBe16 (bytes : Bytes) (index : Nat) : Option Nat := do
  let high ← bytes.read index
  let low ← bytes.read (index + 1)
  return 256 * high.toNat + low.toNat

def readBe32 (bytes : Bytes) (index : Nat) : Option Nat := do
  let high ← bytes.readBe16 index
  let low ← bytes.readBe16 (index + 2)
  return 65536 * high + low

section Inside

variable {bytes : Bytes} {index start length : Nat}

theorem read_eq (inside : index < bytes.length) : bytes.read index = some (bytes.byte index) := by
  simp [read, byte, inside]

theorem copy_eq (inside : start + length ≤ bytes.length) :
    bytes.copy start length = some (bytes.slice start length) :=
  if_pos inside

theorem readLe16_eq (inside : index + 1 < bytes.length) :
    bytes.readLe16 index = some (bytes.le16At index) := by
  simp [readLe16, read_eq inside, read_eq (Nat.lt_of_succ_lt inside), le16At]

theorem readBe16_eq (inside : index + 1 < bytes.length) :
    bytes.readBe16 index = some (bytes.be16At index) := by
  simp [readBe16, read_eq inside, read_eq (Nat.lt_of_succ_lt inside), be16At]

theorem readBe32_eq (inside : index + 3 < bytes.length) :
    bytes.readBe32 index = some (bytes.be32At index) := by
  have first : index + 1 < bytes.length := by omega
  have second : index + 2 + 1 < bytes.length := inside
  simp [readBe32, readBe16_eq first, readBe16_eq second, be32At]

end Inside

/-! ## What a pointer into a buffer reads -/

theorem byte_drop (bytes : Bytes) (start index : Nat) :
    Bytes.byte (bytes.drop start) index = bytes.byte (start + index) := by
  simp [byte]

theorem be16At_drop (bytes : Bytes) (start index : Nat) :
    Bytes.be16At (bytes.drop start) index = bytes.be16At (start + index) := by
  simp [be16At, byte_drop, Nat.add_assoc]

theorem byte_take {bytes : Bytes} {length index : Nat} (inside : index < length) :
    Bytes.byte (bytes.take length) index = bytes.byte index := by
  simp [byte, inside]

theorem le16At_take_drop {bytes : Bytes} {length start : Nat} (inside : start + 2 ≤ length) :
    Bytes.le16At ((bytes.take length).drop start) 0 = bytes.le16At start := by
  have first : start + 0 < length := by omega
  have second : start + 1 < length := by omega
  rw [le16At, byte_drop, byte_drop, byte_take first, byte_take second, le16At, Nat.add_zero]

theorem be32At_take_drop {bytes : Bytes} {length start : Nat} (inside : start + 4 ≤ length) :
    Bytes.be32At ((bytes.take length).drop start) 0 = bytes.be32At start := by
  have first : start + 1 < length := by omega
  have second : start + 2 + 1 < length := by omega
  rw [be32At, be16At_drop, be16At_drop, Nat.add_zero, be16At_take first, Nat.zero_add,
    be16At_take second, be32At]

theorem byte_slice {bytes : Bytes} {start length index : Nat} (inside : index < length) :
    Bytes.byte (bytes.slice start length) index = bytes.byte (start + index) := by
  rw [slice, byte_take inside, byte_drop]

theorem take_slice {bytes : Bytes} {start length first : Nat} (inside : first ≤ length) :
    (bytes.slice start length).take first = bytes.slice start first := by
  rw [slice, List.take_take, Nat.min_eq_left inside, slice]

theorem slice_take {bytes : Bytes} {length start count : Nat} (inside : start + count ≤ length) :
    Bytes.slice (bytes.take length) start count = bytes.slice start count := by
  rw [slice, List.drop_take, List.take_take, Nat.min_eq_left (by omega), slice]

theorem slice_drop (bytes : Bytes) (skipped start length : Nat) :
    Bytes.slice (bytes.drop skipped) start length = bytes.slice (skipped + start) length := by
  simp [slice, List.drop_drop]

end Bytes

end AirportRtw88
