import AirportRtw88.Bytes
import AirportRtw88.Service
import Mathlib.Data.Nat.Digits.Defs
import Mathlib.Logic.Function.Basic

/-!
# Kernel allocations

`slab.h` puts the size of an allocation in front of it, since `IOFree` wants the size that
`IOMalloc` was given.  The file follows the calls on the blocks of `IOMalloc`, and compares them
with buffers that know their own length.
-/

namespace AirportRtw88

open Bytes

namespace Slab

/-- A number in memory, the lowest byte first. -/
def littleEndian : Nat → Nat → Bytes
  | 0, _ => []
  | count + 1, number => UInt8.ofNat number :: littleEndian count (number / 256)

/-- A `size_t` in memory. -/
def sizeBytes (size : Nat) : Bytes :=
  littleEndian 8 size

/-- The `size_t` at the start of a block. -/
def readSize (block : Bytes) : Nat :=
  Nat.ofDigits 256 ((block.take 8).map UInt8.toNat)

/-- The lowest address that `kfree` takes for a kernel pointer. -/
def kernelBase : Nat := 0xffff000000000000

/-- The blocks that `IOMalloc` has given out, by their addresses. -/
structure IoMemory where
  blocks : Nat → Option Bytes

/-- The address and the contents of a block that `IOMalloc` returns, or `NULL`. -/
abbrev Answer : Type :=
  Option (Nat × Bytes)

namespace IoMemory

/-- `IOFree`, which wants the size of the block. -/
def ioFree (s : IoMemory) (block size : Nat) : Option IoMemory := do
  let memory ← s.blocks block
  if memory.length = size then some ⟨Function.update s.blocks block none⟩ else none

/-- A write at an offset from a block; it fails past the end. -/
def poke (s : IoMemory) (block offset : Nat) (source : Bytes) : Option IoMemory := do
  let memory ← s.blocks block
  if offset + source.length ≤ memory.length then
    some ⟨Function.update s.blocks block (some (memory.overwrite offset source))⟩
  else none

/-- A read at an offset from a block. -/
def peek (s : IoMemory) (block offset length : Nat) : Option Bytes := do
  let memory ← s.blocks block
  if offset + length ≤ memory.length then some (memory.slice offset length) else none

/-- `kmalloc`, of which `kzalloc` is the zeroing case. -/
def kmalloc (s : IoMemory) (size : Nat) (zero : Bool) : Answer → Option (IoMemory × Nat)
  | none => some (s, 0)
  | some (block, memory) => do
      let s : IoMemory := ⟨Function.update s.blocks block (some memory)⟩
      let s ← s.poke block 0 (sizeBytes size)
      let s ← if zero then s.poke block 8 (zeros size) else some s
      return (s, block + 8)

/-- `kfree`. -/
def kfree (s : IoMemory) (ptr : Nat) : Option IoMemory :=
  if ptr < kernelBase then some s
  else do
    let header ← s.peek (ptr - 8) 0 8
    s.ioFree (ptr - 8) (readSize header + 8)

/-- `kmemdup`. -/
def kmemdup (s : IoMemory) (source : Bytes) (answer : Answer) : Option (IoMemory × Nat) := do
  let (s, ptr) ← s.kmalloc source.length false answer
  if ptr = 0 then return (s, ptr)
  let s ← s.poke (ptr - 8) 8 source
  return (s, ptr)

/-- `krealloc`. -/
def krealloc (s : IoMemory) (ptr newSize : Nat) (answer : Answer) : Option (IoMemory × Nat) :=
  if ptr = 0 then s.kmalloc newSize false answer
  else do
    let header ← s.peek (ptr - 8) 0 8
    let oldSize := readSize header
    let (s, newp) ← s.kmalloc newSize false answer
    if newp = 0 then return (s, 0)
    let source ← s.peek (ptr - 8) 8 (min oldSize newSize)
    let s ← s.poke (newp - 8) 8 source
    let s ← s.kfree ptr
    return (s, newp)

end IoMemory

/-- The calls, and the reads and writes of their callers. -/
inductive Op where
  | kmalloc (size : Nat) (zero : Bool) (answer : Answer)
  | kcalloc (count size : Nat) (answer : Answer)
  | kmemdup (source : Bytes) (answer : Answer)
  | krealloc (ptr newSize : Nat) (answer : Answer)
  | kfree (ptr : Nat)
  | write (ptr offset : Nat) (source : Bytes)
  | read (ptr offset length : Nat)

inductive Result where
  | pointer (ptr : Nat)
  | done
  | bytes (bytes : Bytes)
  deriving DecidableEq

/-- The calls on the blocks of `IOMalloc`; `kcalloc` multiplies in a `size_t`. -/
def memory : Service Op Result IoMemory where
  perform
    | .kmalloc size zero answer, s =>
        (s.kmalloc size zero answer).map fun done => (done.1, .pointer done.2)
    | .kcalloc count size answer, s =>
        (s.kmalloc (count * size % 2 ^ 64) true answer).map fun done => (done.1, .pointer done.2)
    | .kmemdup source answer, s =>
        (s.kmemdup source answer).map fun done => (done.1, .pointer done.2)
    | .krealloc ptr newSize answer, s =>
        (s.krealloc ptr newSize answer).map fun done => (done.1, .pointer done.2)
    | .kfree ptr, s => (s.kfree ptr).map (·, .done)
    | .write ptr offset source, s => (s.poke (ptr - 8) (8 + offset) source).map (·, .done)
    | .read ptr offset length, s =>
        (s.peek (ptr - 8) (8 + offset) length).map fun bytes => (s, .bytes bytes)

/-! ## Buffers that know their length -/

/-- The live buffers, by the pointers of their owners. -/
abbrev Buffers : Type :=
  Nat → Option Bytes

namespace Buffers

/-- A block of the kernel for a buffer of this size, that is not in use. -/
def Fresh (s : Buffers) (size block : Nat) (memory : Bytes) : Prop :=
  kernelBase ≤ block ∧ memory.length = size + 8 ∧ size + 8 < 2 ^ 64 ∧ s (block + 8) = none

instance (s : Buffers) (size block : Nat) (memory : Bytes) :
    Decidable (s.Fresh size block memory) :=
  inferInstanceAs (Decidable (_ ∧ _ ∧ _ ∧ _))

/-- A new buffer, or `NULL`. -/
def allocate (s : Buffers) (size : Nat) (fill : Bytes → Bytes) :
    Answer → Option (Buffers × Result)
  | none => some (s, .pointer 0)
  | some (block, memory) =>
      if s.Fresh size block memory then
        some (Function.update s (block + 8) (some (fill (memory.drop 8))), .pointer (block + 8))
      else none

/-- What a call does to the buffers.  Its caller frees, reallocates and accesses live buffers
only, within their lengths, and `IOMalloc` returns fresh blocks. -/
def perform : Op → Buffers → Option (Buffers × Result)
  | .kmalloc size zero answer, s =>
      s.allocate size (fun memory => if zero then zeros size else memory) answer
  | .kcalloc count size answer, s =>
      if count * size < 2 ^ 64 then s.allocate (count * size) (fun _ => zeros (count * size)) answer
      else none
  | .kmemdup source answer, s => s.allocate source.length (fun _ => source) answer
  | .krealloc ptr newSize answer, s =>
      if ptr = 0 then s.allocate newSize id answer
      else do
        let old ← s ptr
        let kept := old.take newSize
        let (later, result) ← s.allocate newSize (fun memory => memory.overwrite 0 kept) answer
        return (if result = .pointer 0 then later else Function.update later ptr none, result)
  | .kfree ptr, s =>
      if ptr < kernelBase then some (s, .done)
      else do
        let _ ← s ptr
        return (Function.update s ptr none, .done)
  | .write ptr offset source, s => do
      let buffer ← s ptr
      if offset + source.length ≤ buffer.length then
        some (Function.update s ptr (some (buffer.overwrite offset source)), .done)
      else none
  | .read ptr offset length, s => do
      let buffer ← s ptr
      if offset + length ≤ buffer.length then some (s, .bytes (buffer.slice offset length))
      else none

end Buffers

def buffers : Service Op Result Buffers where
  perform := Buffers.perform

/-! ## The size in front of a buffer -/

theorem length_littleEndian (count number : Nat) :
    (littleEndian count number).length = count := by
  induction count generalizing number with
  | zero => rfl
  | succ count ih => rw [littleEndian, List.length_cons, ih]

theorem ofDigits_littleEndian (count number : Nat) :
    Nat.ofDigits 256 ((littleEndian count number).map UInt8.toNat) = number % 256 ^ count := by
  induction count generalizing number with
  | zero => exact (Nat.mod_one number).symm
  | succ count ih =>
      have low : (UInt8.ofNat number).toNat = number % 256 := UInt8.toNat_ofNat'
      rw [littleEndian, List.map_cons, Nat.ofDigits_cons, ih, low, Nat.pow_succ',
        Nat.mod_mul]

@[simp]
theorem length_sizeBytes (size : Nat) : (sizeBytes size).length = 8 :=
  length_littleEndian 8 size

/-- A size that was written is read back. -/
theorem readSize_sizeBytes (size : Nat) (small : size < 2 ^ 64) (buffer : Bytes) :
    readSize (sizeBytes size ++ buffer) = size := by
  have header : (sizeBytes size ++ buffer).take 8 = sizeBytes size :=
    List.take_left' (length_sizeBytes size)
  rw [readSize, header, sizeBytes, ofDigits_littleEndian]
  exact Nat.mod_eq_of_lt small

/-- Writing behind what stays in front. -/
theorem overwrite_append (front target source : Bytes) (offset : Nat) :
    overwrite (front ++ target) (front.length + offset) source =
      front ++ target.overwrite offset source := by
  simp only [overwrite, List.take_length_add_append, Nat.add_assoc, List.drop_length_add_append,
    List.append_assoc]

theorem overwrite_whole {target source : Bytes} (same : target.length = source.length) :
    target.overwrite 0 source = source := by
  rw [overwrite, Nat.zero_add, ← same, List.drop_length, List.take_zero, List.nil_append,
    List.append_nil]

theorem slice_append (front target : Bytes) (offset length : Nat) :
    slice (front ++ target) (front.length + offset) length = target.slice offset length := by
  simp only [slice, List.drop_length_add_append]

/-- The blocks are the live buffers with their sizes in front. -/
structure Holds (s : IoMemory) (b : Buffers) : Prop where
  blocks : ∀ block, s.blocks block =
    (b (block + 8)).map fun buffer => sizeBytes buffer.length ++ buffer
  live : ∀ ptr buffer, b ptr = some buffer →
    kernelBase + 8 ≤ ptr ∧ buffer.length + 8 < 2 ^ 64

namespace Holds

variable {s : IoMemory} {b : Buffers} {ptr : Nat} {buffer : Bytes}

theorem block (holds : Holds s b) (found : b ptr = some buffer) :
    s.blocks (ptr - 8) = some (sizeBytes buffer.length ++ buffer) := by
  have high := (holds.live ptr buffer found).1
  rw [holds.blocks, Nat.sub_add_cancel (by omega), found, Option.map_some]

/-- A buffer is written or freed with its block. -/
theorem update (holds : Holds s b) (block : Nat) (content : Option Bytes)
    (live : ∀ buffer, content = some buffer →
      kernelBase ≤ block ∧ buffer.length + 8 < 2 ^ 64) :
    Holds ⟨Function.update s.blocks block
        (content.map fun buffer => sizeBytes buffer.length ++ buffer)⟩
      (Function.update b (block + 8) content) where
  blocks other := by
    by_cases own : other = block
    · subst own
      simp
    · have apart : other + 8 ≠ block + 8 := by simpa using own
      dsimp only
      rw [Function.update_of_ne own, Function.update_of_ne apart]
      exact holds.blocks other
  live ptr buffer found := by
    by_cases own : ptr = block + 8
    · subst own
      rw [Function.update_self] at found
      exact ⟨Nat.add_le_add_right (live buffer found).1 8, (live buffer found).2⟩
    · rw [Function.update_of_ne own] at found
      exact holds.live ptr buffer found

theorem poke (holds : Holds s b) (found : b ptr = some buffer) (offset : Nat) (source : Bytes)
    (inside : offset + source.length ≤ buffer.length) :
    ∃ next, s.poke (ptr - 8) (8 + offset) source = some next ∧
      Holds next (Function.update b ptr (some (buffer.overwrite offset source))) := by
  obtain ⟨high, small⟩ := holds.live ptr buffer found
  have same : buffer.length = (buffer.overwrite offset source).length :=
    (length_overwrite inside).symm
  have written := overwrite_append (sizeBytes buffer.length) buffer source offset
  rw [length_sizeBytes] at written
  have later := holds.update (ptr - 8) (some (buffer.overwrite offset source))
    (by
      intro other equal
      obtain rfl := Option.some.inj equal
      exact ⟨by omega, same ▸ small⟩)
  rw [Nat.sub_add_cancel (by omega), Option.map_some, ← same] at later
  refine ⟨_, ?_, later⟩
  have whole : 8 + offset + source.length ≤ (sizeBytes buffer.length ++ buffer).length := by
    rw [List.length_append, length_sizeBytes]
    omega
  rw [IoMemory.poke, holds.block found, Option.bind_eq_bind, Option.bind_some, if_pos whole,
    written]

theorem peek (holds : Holds s b) (found : b ptr = some buffer) (offset length : Nat)
    (inside : offset + length ≤ buffer.length) :
    s.peek (ptr - 8) (8 + offset) length = some (buffer.slice offset length) := by
  have whole : 8 + offset + length ≤ (sizeBytes buffer.length ++ buffer).length := by
    rw [List.length_append, length_sizeBytes]
    omega
  have read := slice_append (sizeBytes buffer.length) buffer offset length
  rw [length_sizeBytes] at read
  rw [IoMemory.peek, holds.block found, Option.bind_eq_bind, Option.bind_some, if_pos whole, read]

/-- The size in front of a live buffer. -/
theorem header (holds : Holds s b) (found : b ptr = some buffer) :
    ∃ header, s.peek (ptr - 8) 0 8 = some header ∧ readSize header = buffer.length := by
  have whole : 0 + 8 ≤ (sizeBytes buffer.length ++ buffer).length := by
    rw [List.length_append, length_sizeBytes]
    omega
  refine ⟨sizeBytes buffer.length, ?_, ?_⟩
  · rw [IoMemory.peek, holds.block found, Option.bind_eq_bind, Option.bind_some, if_pos whole]
    exact congrArg some (List.take_left' (length_sizeBytes _))
  · have small := (holds.live ptr buffer found).2
    have read := readSize_sizeBytes buffer.length (by omega) []
    rwa [List.append_nil] at read

/-- `IOFree` gets the size that `IOMalloc` was given. -/
theorem kfree (holds : Holds s b) (found : b ptr = some buffer) :
    ∃ next, s.kfree ptr = some next ∧ Holds next (Function.update b ptr none) := by
  have high := (holds.live ptr buffer found).1
  obtain ⟨header, read, size⟩ := holds.header found
  have later := holds.update (ptr - 8) none nofun
  rw [Nat.sub_add_cancel (by omega)] at later
  refine ⟨_, ?_, later⟩
  have whole : (sizeBytes buffer.length ++ buffer).length = readSize header + 8 := by
    rw [List.length_append, length_sizeBytes, size, Nat.add_comm]
  rw [IoMemory.kfree, if_neg (by omega), read, Option.bind_eq_bind, Option.bind_some,
    IoMemory.ioFree, holds.block found, Option.bind_eq_bind, Option.bind_some, if_pos whole]
  rfl

/-- A fresh block becomes a buffer. -/
theorem kmalloc (holds : Holds s b) {size block : Nat} {memory : Bytes}
    (fresh : b.Fresh size block memory) (zero : Bool) :
    ∃ next, s.kmalloc size zero (some (block, memory)) = some (next, block + 8) ∧
      Holds next (Function.update b (block + 8)
        (some (if zero then zeros size else memory.drop 8))) := by
  obtain ⟨high, length, small, free⟩ := fresh
  have rest : (memory.drop 8).length = size := by
    rw [List.length_drop, length, Nat.add_sub_cancel]
  have labelled : memory.overwrite 0 (sizeBytes size) = sizeBytes size ++ memory.drop 8 := by
    rw [overwrite, List.take_zero, List.nil_append, Nat.zero_add, length_sizeBytes]
  have first := holds.update block (some (memory.drop 8)) (by
    intro other equal
    obtain rfl := Option.some.inj equal
    exact ⟨high, rest ▸ small⟩)
  rw [Option.map_some, rest] at first
  have writes : IoMemory.poke ⟨Function.update s.blocks block (some memory)⟩ block 0
      (sizeBytes size) =
        some ⟨Function.update s.blocks block (some (sizeBytes size ++ memory.drop 8))⟩ := by
    have room : 0 + (sizeBytes size).length ≤ memory.length := by
      rw [length_sizeBytes]
      omega
    simp only [IoMemory.poke, Function.update_self, Option.bind_eq_bind, Option.bind_some,
      if_pos room, labelled, Function.update_idem]
  cases zero with
  | false =>
      refine ⟨_, ?_, first⟩
      rw [IoMemory.kmalloc, writes]
      rfl
  | true =>
      obtain ⟨next, zeroes, later⟩ := first.poke (Function.update_self ..) 0 (zeros size)
        (by rw [length_zeros, rest, Nat.zero_add])
      have cleared : overwrite (memory.drop 8) 0 (zeros size) = zeros size :=
        overwrite_whole (by rw [rest, length_zeros])
      rw [Function.update_idem, cleared] at later
      refine ⟨next, ?_, later⟩
      rw [Nat.add_sub_cancel] at zeroes
      rw [IoMemory.kmalloc, writes, Option.bind_eq_bind, Option.bind_some, if_pos rfl, zeroes]
      rfl

/-- `kmalloc` and `kzalloc` do what the buffers say. -/
theorem allocate (holds : Holds s b) {size : Nat} (zero : Bool) {answer : Answer}
    {later : Buffers} {result : Result} (allocates : b.allocate size
      (fun memory => if zero then zeros size else memory) answer = some (later, result)) :
    ∃ next ptr, s.kmalloc size zero answer = some (next, ptr) ∧ result = .pointer ptr ∧
      Holds next later := by
  cases answer with
  | none =>
      obtain ⟨rfl, rfl⟩ := Prod.mk.inj (Option.some.inj allocates)
      exact ⟨s, 0, rfl, rfl, holds⟩
  | some block =>
      obtain ⟨block, memory⟩ := block
      obtain ⟨fresh, same⟩ := Option.ite_none_right_eq_some.mp allocates
      obtain ⟨rfl, rfl⟩ := Prod.mk.inj (Option.some.inj same)
      obtain ⟨next, writes, holds'⟩ := holds.kmalloc fresh zero
      exact ⟨next, block + 8, writes, rfl, holds'⟩

theorem kmemdup (holds : Holds s b) {source : Bytes} {answer : Answer} {later : Buffers}
    {result : Result} (allocates : b.allocate source.length (fun _ => source) answer =
      some (later, result)) :
    ∃ next ptr, s.kmemdup source answer = some (next, ptr) ∧ result = .pointer ptr ∧
      Holds next later := by
  cases answer with
  | none =>
      obtain ⟨rfl, rfl⟩ := Prod.mk.inj (Option.some.inj allocates)
      exact ⟨s, 0, rfl, rfl, holds⟩
  | some block =>
      obtain ⟨block, memory⟩ := block
      obtain ⟨fresh, same⟩ := Option.ite_none_right_eq_some.mp allocates
      obtain ⟨rfl, rfl⟩ := Prod.mk.inj (Option.some.inj same)
      obtain ⟨between, writes, holds'⟩ := holds.kmalloc fresh false
      have rest : (memory.drop 8).length = source.length := by
        rw [List.length_drop, fresh.2.1, Nat.add_sub_cancel]
      obtain ⟨next, copies, later⟩ := holds'.poke (Function.update_self ..) 0 source
        (by simp [rest])
      have copied : overwrite (memory.drop 8) 0 source = source := overwrite_whole rest
      rw [Function.update_idem] at later
      simp only [Bool.false_eq_true, if_false] at later
      rw [copied] at later
      refine ⟨next, block + 8, ?_, rfl, later⟩
      have given : block + 8 ≠ 0 := by omega
      simp only [IoMemory.kmemdup, writes, Option.bind_eq_bind, Option.bind_some, if_neg given]
      rw [copies]
      rfl

/-- The old buffer is copied as far as it fits, and freed only then. -/
theorem krealloc (holds : Holds s b) {old : Bytes} (found : b ptr = some old) {newSize : Nat}
    {block : Nat} {memory : Bytes} (fresh : b.Fresh newSize block memory) :
    ∃ next, s.krealloc ptr newSize (some (block, memory)) = some (next, block + 8) ∧
      Holds next (Function.update (Function.update b (block + 8)
        (some (overwrite (memory.drop 8) 0 (old.take newSize)))) ptr none) := by
  have high := (holds.live ptr old found).1
  obtain ⟨header, read, size⟩ := holds.header found
  obtain ⟨first, allocates, holds₁⟩ := holds.kmalloc fresh false
  have apart : ptr ≠ block + 8 := by
    rintro rfl
    rw [fresh.2.2.2] at found
    cases found
  have found₁ := (Function.update_of_ne apart (some (memory.drop 8)) b).trans found
  have source := holds₁.peek found₁ 0 (min old.length newSize) (by omega)
  have copied : old.slice 0 (min old.length newSize) = old.take newSize := by
    rw [slice, List.drop_zero, Nat.min_comm, ← List.take_take, List.take_length]
  have rest : (memory.drop 8).length = newSize := by
    rw [List.length_drop, fresh.2.1, Nat.add_sub_cancel]
  obtain ⟨second, copies, holds₂⟩ := holds₁.poke (Function.update_self ..) 0
    (old.take newSize) (by
      simp only [Bool.false_eq_true, if_false, rest, List.length_take]
      omega)
  simp only [Bool.false_eq_true, if_false, Function.update_idem] at holds₂
  have found₂ := (Function.update_of_ne apart
    (some (overwrite (memory.drop 8) 0 (old.take newSize))) b).trans found
  obtain ⟨third, frees, holds₃⟩ := holds₂.kfree found₂
  refine ⟨third, ?_, holds₃⟩
  have given : ptr ≠ 0 ∧ block + 8 ≠ 0 := by omega
  rw [copied] at source
  simp only [IoMemory.krealloc, if_neg given.1, read, Option.bind_eq_bind, Option.bind_some,
    allocates, if_neg given.2, size]
  rw [source, Option.bind_some, copies, Option.bind_some, frees]
  rfl

end Holds

/-- The calls on blocks do what they do to buffers. -/
theorem memory_refines : memory.Refines buffers Holds := by
  intro op s b later result holds performs
  cases op with
  | kmalloc size zero answer =>
      obtain ⟨next, ptr, writes, rfl, holds'⟩ := holds.allocate zero performs
      exact ⟨next, by simp only [memory, writes, Option.map_some], holds'⟩
  | kcalloc count size answer =>
      obtain ⟨small, performs⟩ := Option.ite_none_right_eq_some.mp performs
      obtain ⟨next, ptr, writes, rfl, holds'⟩ := holds.allocate true performs
      exact ⟨next, by simp only [memory, Nat.mod_eq_of_lt small, writes, Option.map_some], holds'⟩
  | kmemdup source answer =>
      obtain ⟨next, ptr, writes, rfl, holds'⟩ := holds.kmemdup performs
      exact ⟨next, by simp only [memory, writes, Option.map_some], holds'⟩
  | krealloc ptr newSize answer =>
      simp only [buffers, Buffers.perform] at performs
      split at performs
      case isTrue null =>
        obtain ⟨next, ptr, writes, rfl, holds'⟩ := holds.allocate false performs
        exact ⟨next, by simp only [memory, IoMemory.krealloc, if_pos null, writes,
          Option.map_some], holds'⟩
      case isFalse given =>
        obtain ⟨old, found, performs⟩ := Option.bind_eq_some_iff.mp performs
        cases answer with
        | none =>
            obtain ⟨rfl, rfl⟩ := Prod.mk.inj (Option.some.inj performs)
            obtain ⟨header, read, -⟩ := holds.header found
            refine ⟨s, ?_, holds⟩
            simp only [memory, IoMemory.krealloc, if_neg given, read]
            rfl
        | some block =>
            obtain ⟨⟨between, result'⟩, allocates, same⟩ := Option.bind_eq_some_iff.mp performs
            obtain ⟨fresh, allocated⟩ := Option.ite_none_right_eq_some.mp allocates
            obtain ⟨rfl, rfl⟩ := Prod.mk.inj (Option.some.inj allocated)
            have apart : Result.pointer (block.1 + 8) ≠ .pointer 0 := nofun
            simp only [if_neg apart] at same
            obtain ⟨rfl, rfl⟩ := Prod.mk.inj (Option.some.inj same)
            obtain ⟨next, writes, holds'⟩ := holds.krealloc found fresh
            exact ⟨next, by simp only [memory, writes, Option.map_some], holds'⟩
  | kfree ptr =>
      simp only [buffers, Buffers.perform] at performs
      split at performs
      case isTrue low =>
        obtain ⟨rfl, rfl⟩ := Prod.mk.inj (Option.some.inj performs)
        exact ⟨s, by simp only [memory, IoMemory.kfree, if_pos low, Option.map_some], holds⟩
      case isFalse =>
        obtain ⟨buffer, found, same⟩ := Option.bind_eq_some_iff.mp performs
        obtain ⟨rfl, rfl⟩ := Prod.mk.inj (Option.some.inj same)
        obtain ⟨next, frees, holds'⟩ := holds.kfree found
        exact ⟨next, by simp only [memory, frees, Option.map_some], holds'⟩
  | write ptr offset source =>
      obtain ⟨buffer, found, performs⟩ := Option.bind_eq_some_iff.mp performs
      obtain ⟨inside, same⟩ := Option.ite_none_right_eq_some.mp performs
      obtain ⟨rfl, rfl⟩ := Prod.mk.inj (Option.some.inj same)
      obtain ⟨next, writes, holds'⟩ := holds.poke found offset source inside
      exact ⟨next, by simp only [memory, writes, Option.map_some], holds'⟩
  | read ptr offset length =>
      obtain ⟨buffer, found, performs⟩ := Option.bind_eq_some_iff.mp performs
      obtain ⟨inside, same⟩ := Option.ite_none_right_eq_some.mp performs
      obtain ⟨rfl, rfl⟩ := Prod.mk.inj (Option.some.inj same)
      have reads := holds.peek found offset length inside
      exact ⟨s, by simp only [memory, reads, Option.map_some], holds⟩

/-- Along all calls that the callers may make, every `IOFree` has the size of its `IOMalloc`, the
pointers and the bytes are those of the buffers, and a block is out exactly while its buffer is
live. -/
theorem calls_agree_with_buffers (calls : List Op) {last : Buffers} {results : List Result}
    (runs : buffers.run calls (fun _ => none) = some (last, results)) :
    ∃ s, memory.run calls ⟨fun _ => none⟩ = some (s, results) ∧
      ∀ block, s.blocks block =
        (last (block + 8)).map fun buffer => sizeBytes buffer.length ++ buffer := by
  have initially : Holds ⟨fun _ => none⟩ fun _ => none := ⟨fun _ => rfl, nofun⟩
  obtain ⟨s, performs, holds⟩ := memory_refines.run initially runs
  exact ⟨s, performs, holds.blocks⟩

/-- A buffer of two bytes is written, grows to three, and is freed. -/
theorem calls_agree_with_buffers_krealloc :
    ∃ s, memory.run [.kmalloc 2 false (some (kernelBase, List.replicate 10 0xaa)),
        .write (kernelBase + 8) 0 [1, 2],
        .krealloc (kernelBase + 8) 3 (some (kernelBase + 64, List.replicate 11 0xbb)),
        .read (kernelBase + 72) 0 3, .kfree (kernelBase + 72), .kfree 0] ⟨fun _ => none⟩ =
      some (s, [.pointer (kernelBase + 8), .done, .pointer (kernelBase + 72),
        .bytes [1, 2, 0xbb], .done, .done]) := by
  obtain ⟨s, performs, -⟩ := calls_agree_with_buffers
    [.kmalloc 2 false (some (kernelBase, List.replicate 10 0xaa)),
        .write (kernelBase + 8) 0 [1, 2],
        .krealloc (kernelBase + 8) 3 (some (kernelBase + 64, List.replicate 11 0xbb)),
        .read (kernelBase + 72) 0 3, .kfree (kernelBase + 72), .kfree 0] rfl
  exact ⟨s, performs⟩

end Slab

end AirportRtw88
