import AirportRtw88.AesCipher

/-!
# The key unwrap inverts the key wrap

The key wrap of RFC 3394 and its inverse in `aes_unwrap_128`.  One step of the unwrap undoes one
step of the wrap, so the two iterations undo each other in both directions.
-/

namespace AirportRtw88

open Bytes

/-- A 64-bit word in big-endian order. -/
def be64 (word : Nat) : Bytes :=
  be32 (word / 4294967296) ++ be32 word

/-- Consecutive blocks of eight bytes. -/
def blocksFrom (bytes : Bytes) (start n : Nat) : List Bytes :=
  (List.range n).map fun i => bytes.slice (start + i * 8) 8

/-- One step of the wrap on the register `a` and the blocks `r`. -/
def wrapStep (kek : Bytes) (n j i : Nat) (current : Bytes × List Bytes) : Bytes × List Bytes :=
  let t := n * j + i + 1
  let b := aes128EncryptBlock kek (current.1 ++ current.2.getD i [])
  (xorBytes (b.take 8) (be64 t), current.2.set i (b.slice 8 8))

/-- The key wrap of RFC 3394. -/
def aesWrap128 (kek plain : Bytes) : Bytes :=
  let n := plain.length / 8
  let final := [0, 1, 2, 3, 4, 5].foldl (fun current j =>
    (List.range n).foldl (fun current i => wrapStep kek n j i current) current)
    (List.replicate 8 0xa6, blocksFrom plain 0 n)
  final.1 ++ final.2.flatten

/-! ## Blocks -/

theorem length_of_mem_blocksFrom {bytes : Bytes} {start n : Nat}
    (inside : start + 8 * n ≤ bytes.length) : ∀ block ∈ blocksFrom bytes start n,
      block.length = 8 := by
  intro block member
  obtain ⟨i, below, rfl⟩ := List.mem_map.mp member
  rw [List.mem_range] at below
  exact length_slice (by omega)

theorem flatten_blocksFrom {bytes : Bytes} {start n : Nat}
    (whole : bytes.length = start + 8 * n) : (blocksFrom bytes start n).flatten =
      bytes.drop start := by
  induction n generalizing start with
  | zero => simp [blocksFrom, whole]
  | succ n ih =>
      have later : (blocksFrom bytes (start + 8) n).flatten = bytes.drop (start + 8) :=
        ih (by omega)
      have shifted : blocksFrom bytes start (n + 1) =
          bytes.slice start 8 :: blocksFrom bytes (start + 8) n := by
        rw [blocksFrom, List.range_succ_eq_map, List.map_cons, List.map_map, blocksFrom,
          Nat.zero_mul, Nat.add_zero]
        congr 1
        apply List.map_congr_left
        intro i _
        simp only [Function.comp, Nat.succ_eq_add_one]
        congr 1
        omega
      rw [shifted, List.flatten_cons, later, slice, ← List.drop_drop, List.take_append_drop]

theorem blocksFrom_flatten (front : Bytes) {blocks : List Bytes}
    (eight : ∀ block ∈ blocks, block.length = 8) :
    blocksFrom (front ++ blocks.flatten) front.length blocks.length = blocks := by
  induction blocks generalizing front with
  | nil => rfl
  | cons block blocks ih =>
      have long := eight block List.mem_cons_self
      have later := ih (front ++ block) fun other member =>
        eight other (List.mem_cons_of_mem _ member)
      rw [List.length_append, long, List.append_assoc] at later
      rw [blocksFrom, List.length_cons, List.range_succ_eq_map, List.map_cons, List.map_map]
      congr 1
      · simp [slice, long]
      · conv_rhs => rw [← later]
        rw [blocksFrom]
        apply List.map_congr_left
        intro i _
        simp only [Function.comp, Nat.succ_eq_add_one, List.flatten_cons]
        congr 1
        omega

/-! ## The steps -/

/-- The shape of the registers: `n` blocks, and all have eight bytes. -/
structure Registers (n : Nat) (current : Bytes × List Bytes) : Prop where
  register : current.1.length = 8
  count : current.2.length = n
  eight : ∀ block ∈ current.2, block.length = 8

theorem be64_small {t : Nat} (small : t < 65536) : be64 t = zeros 6 ++ be16 t := by
  have high : t / 4294967296 = 0 := by omega
  have middle : t / 65536 = 0 := by omega
  simp only [be64, be32, high, middle]
  rfl

section Steps

variable {kek : Bytes} (long : kek.length = 16) {n j i : Nat} {current : Bytes × List Bytes}

theorem Registers.getD (registers : Registers n current) (inside : i < n) :
    (current.2.getD i []).length = 8 := by
  have below : i < current.2.length := by rw [registers.count]; exact inside
  rw [List.getD_eq_getElem?_getD, List.getElem?_eq_getElem below]
  exact registers.eight _ (List.getElem_mem below)

theorem Registers.set (registers : Registers n current) {a block : Bytes} (register : a.length = 8)
    (eight : block.length = 8) : Registers n (a, current.2.set i block) where
  register := register
  count := by rw [List.length_set, registers.count]
  eight other member := by
    rcases List.mem_or_eq_of_mem_set member with old | rfl
    · exact registers.eight other old
    · exact eight

/-- What a step stored is read back. -/
theorem getD_set (registers : Registers n current) (inside : i < n) (block : Bytes) :
    (current.2.set i block).getD i [] = block := by
  have below : i < current.2.length := by rw [registers.count]; exact inside
  simp [below]

/-- Storing a block where it was changes nothing. -/
theorem set_set_getD (registers : Registers n current) (inside : i < n) (block : Bytes) :
    (current.2.set i block).set i (current.2.getD i []) = current.2 := by
  have below : i < current.2.length := by rw [registers.count]; exact inside
  rw [List.set_set, List.getD_eq_getElem?_getD, List.getElem?_eq_getElem below]
  exact List.set_getElem_self below

/-- A block is put together from its halves. -/
theorem take_append_slice {block : Bytes} (whole : block.length = 16) :
    block.take 8 ++ block.slice 8 8 = block := by
  have rest : (block.drop 8).length = 8 := by rw [List.length_drop, whole]
  rw [slice, List.take_of_length_le (Nat.le_of_eq rest), List.take_append_drop]

/-- The halves of a block are read back. -/
theorem halves {a b : Bytes} (first : a.length = 8) (second : b.length = 8) :
    (a ++ b).take 8 = a ∧ (a ++ b).slice 8 8 = b := by
  rw [slice, List.take_left' first, List.drop_left' first,
    List.take_of_length_le (Nat.le_of_eq second)]
  exact ⟨rfl, rfl⟩

include long

theorem Registers.wrapStep (registers : Registers n current) :
    Registers n (wrapStep kek n j i current) := by
  have block := length_aes128EncryptBlock long (current.1 ++ current.2.getD i [])
  apply registers.set
  · rw [length_xorBytes] <;> rw [List.length_take, block] <;> rfl
  · exact length_slice (by omega)

theorem Registers.unwrapStep (registers : Registers n current) :
    Registers n (unwrapStep kek n j i current) := by
  have block := length_aes128DecryptBlock long
    (xorBytes current.1 (zeros 6 ++ be16 (n * j + i + 1)) ++ current.2.getD i [])
  apply registers.set
  · rw [List.length_take, block]
    rfl
  · exact length_slice (by omega)

theorem unwrapStep_wrapStep (registers : Registers n current) (inside : i < n)
    (small : n * j + i + 1 < 65536) :
    unwrapStep kek n j i (wrapStep kek n j i current) = current := by
  have both : (current.1 ++ current.2.getD i []).length = 16 := by
    rw [List.length_append, registers.register, registers.getD inside]
  have block := length_aes128EncryptBlock long (current.1 ++ current.2.getD i [])
  have deciphered := aes128DecryptBlock_encrypt long both
  rw [wrapStep, AirportRtw88.unwrapStep]
  simp only [be64_small small]
  generalize aes128EncryptBlock kek (current.1 ++ current.2.getD i []) = b at block deciphered
  have eight : (b.take 8).length = 8 := by rw [List.length_take, block]; rfl
  obtain ⟨front, back⟩ := halves registers.register (registers.getD inside)
  rw [xorBytes_cancel (by rw [eight]; rfl), getD_set registers inside, take_append_slice block,
    deciphered, front, back, set_set_getD registers inside]

theorem wrapStep_unwrapStep (registers : Registers n current) (inside : i < n)
    (small : n * j + i + 1 < 65536) :
    wrapStep kek n j i (unwrapStep kek n j i current) = current := by
  have counter : (zeros 6 ++ be16 (n * j + i + 1)).length = 8 := rfl
  have added : (xorBytes current.1 (zeros 6 ++ be16 (n * j + i + 1))).length = 8 := by
    rw [length_xorBytes] <;> rw [registers.register]
    rfl
  have both : (xorBytes current.1 (zeros 6 ++ be16 (n * j + i + 1)) ++
      current.2.getD i []).length = 16 := by
    rw [List.length_append, added, registers.getD inside]
  have block := length_aes128DecryptBlock long
    (xorBytes current.1 (zeros 6 ++ be16 (n * j + i + 1)) ++ current.2.getD i [])
  have enciphered := aes128EncryptBlock_decrypt long both
  rw [wrapStep, AirportRtw88.unwrapStep]
  simp only [be64_small small]
  generalize aes128DecryptBlock kek (xorBytes current.1 (zeros 6 ++ be16 (n * j + i + 1)) ++
    current.2.getD i []) = b at block enciphered
  obtain ⟨front, back⟩ := halves added (registers.getD inside)
  rw [getD_set registers inside, take_append_slice block, enciphered, front, back,
    set_set_getD registers inside, xorBytes_cancel (by rw [registers.register]; rfl)]

end Steps

/-! ## The iterations -/

/-- All steps of the wrap. -/
def wrapAll (kek : Bytes) (n : Nat) (current : Bytes × List Bytes) : Bytes × List Bytes :=
  [0, 1, 2, 3, 4, 5].foldl (fun current j =>
    (List.range n).foldl (fun current i => wrapStep kek n j i current) current) current

/-- All steps of the unwrap. -/
def unwrapAll (kek : Bytes) (n : Nat) (current : Bytes × List Bytes) : Bytes × List Bytes :=
  [5, 4, 3, 2, 1, 0].foldl (fun current j =>
    (List.range n).reverse.foldl (fun current i => unwrapStep kek n j i current) current) current

section Iterations

variable {kek : Bytes} (long : kek.length = 16) {n : Nat} {current : Bytes × List Bytes}
include long

theorem Registers.wrapAll (registers : Registers n current) :
    Registers n (wrapAll kek n current) := by
  apply Iteration.foldl_keeps (Registers n)
  · intro current j _ registers
    apply Iteration.foldl_keeps (Registers n)
    · exact fun current i _ registers => registers.wrapStep long
    · exact registers
  · exact registers

theorem Registers.unwrapAll (registers : Registers n current) :
    Registers n (unwrapAll kek n current) := by
  apply Iteration.foldl_keeps (Registers n)
  · intro current j _ registers
    apply Iteration.foldl_keeps (Registers n)
    · exact fun current i _ registers => registers.unwrapStep long
    · exact registers
  · exact registers

theorem unwrapAll_wrapAll (few : n ≤ 32) (registers : Registers n current) :
    unwrapAll kek n (AirportRtw88.wrapAll kek n current) = current := by
  apply Iteration.foldl_reverse_undo (Registers n) [0, 1, 2, 3, 4, 5]
  · intro current j _ registers
    apply Iteration.foldl_keeps (Registers n)
    · exact fun current i _ registers => registers.wrapStep long
    · exact registers
  · intro current j round registers
    apply Iteration.foldl_reverse_undo (Registers n)
    · exact fun current i _ registers => registers.wrapStep long
    · intro current i member registers
      rw [List.mem_range] at member
      apply unwrapStep_wrapStep long registers member
      have rounds : j ≤ 5 := by simp at round; omega
      have product : n * j ≤ 32 * 5 := Nat.mul_le_mul few rounds
      omega
    · exact registers
  · exact registers

theorem wrapAll_unwrapAll (few : n ≤ 32) (registers : Registers n current) :
    AirportRtw88.wrapAll kek n (unwrapAll kek n current) = current := by
  let back (current : Bytes × List Bytes) (j : Nat) : Bytes × List Bytes :=
    (List.range n).foldl (fun current i => AirportRtw88.wrapStep kek n j i current) current
  show [5, 4, 3, 2, 1, 0].reverse.foldl back (unwrapAll kek n current) = current
  apply Iteration.foldl_reverse_undo (Registers n) [5, 4, 3, 2, 1, 0]
  · intro current j _ registers
    apply Iteration.foldl_keeps (Registers n)
    · exact fun current i _ registers => registers.unwrapStep long
    · exact registers
  · intro current j round registers
    have inner : (List.range n).reverse.reverse.foldl
        (fun current i => AirportRtw88.wrapStep kek n j i current)
        ((List.range n).reverse.foldl
          (fun current i => AirportRtw88.unwrapStep kek n j i current) current) = current := by
      apply Iteration.foldl_reverse_undo (Registers n)
      · exact fun current i _ registers => registers.unwrapStep long
      · intro current i member registers
        rw [List.mem_reverse, List.mem_range] at member
        apply wrapStep_unwrapStep long registers member
        have rounds : j ≤ 5 := by simp at round; omega
        have product : n * j ≤ 32 * 5 := Nat.mul_le_mul few rounds
        omega
      · exact registers
    rwa [List.reverse_reverse] at inner
  · exact registers

end Iterations

/-! ## Wrap and unwrap -/

theorem registers_blocksFrom {bytes a : Bytes} {start n : Nat} (register : a.length = 8)
    (inside : start + 8 * n ≤ bytes.length) : Registers n (a, blocksFrom bytes start n) where
  register := register
  count := by rw [blocksFrom, List.length_map, List.length_range]
  eight := length_of_mem_blocksFrom inside

theorem length_flatten {blocks : List Bytes} (eight : ∀ block ∈ blocks, block.length = 8) :
    blocks.flatten.length = 8 * blocks.length := by
  induction blocks with
  | nil => rfl
  | cons block blocks ih =>
      have later := ih fun other member => eight other (List.mem_cons_of_mem _ member)
      rw [List.flatten_cons, List.length_append, later, eight block List.mem_cons_self,
        List.length_cons]
      omega

theorem aesUnwrap128_eq (kek input : Bytes) :
    aesUnwrap128 kek input =
      if input.length % 8 = 0 ∧ 16 ≤ input.length ∧ input.length ≤ 264 then
        let final := unwrapAll kek (input.length / 8 - 1)
          (input.take 8, blocksFrom input 8 (input.length / 8 - 1))
        if final.1 = List.replicate 8 0xa6 then some final.2.flatten else none
      else none := by
  unfold aesUnwrap128
  by_cases shape : input.length < 16 ∨ input.length % 8 ≠ 0
  · rw [if_pos shape, if_neg (by omega)]
  by_cases many : input.length / 8 - 1 = 0 ∨ input.length / 8 - 1 > 32
  · rw [if_neg shape, if_pos many, if_neg (by omega)]
  · have inside : input.length % 8 = 0 ∧ 16 ≤ input.length ∧ input.length ≤ 264 := by omega
    rw [if_neg shape, if_neg many, if_pos inside]
    rfl

theorem aesWrap128_eq (kek plain : Bytes) :
    aesWrap128 kek plain =
      (wrapAll kek (plain.length / 8)
          (List.replicate 8 0xa6, blocksFrom plain 0 (plain.length / 8))).1 ++
        (wrapAll kek (plain.length / 8)
          (List.replicate 8 0xa6, blocksFrom plain 0 (plain.length / 8))).2.flatten := rfl

section Inverse

variable {kek : Bytes} (long : kek.length = 16) {plain : Bytes}
include long

/-- The unwrap gives back what was wrapped. -/
theorem aesUnwrap128_aesWrap128 {n : Nat} (some : 1 ≤ n) (few : n ≤ 32)
    (blocks : plain.length = 8 * n) : aesUnwrap128 kek (aesWrap128 kek plain) = .some plain := by
  have count : plain.length / 8 = n := by omega
  have start : Registers n (List.replicate 8 (0xa6 : UInt8), blocksFrom plain 0 n) :=
    registers_blocksFrom (List.length_replicate ..) (by omega)
  have undone := unwrapAll_wrapAll long few start
  have wrapped := start.wrapAll long
  rw [aesWrap128_eq, count]
  generalize wrapAll kek n (List.replicate 8 (0xa6 : UInt8), blocksFrom plain 0 n) = final
    at undone wrapped
  have total : (final.1 ++ final.2.flatten).length = 8 * (n + 1) := by
    rw [List.length_append, wrapped.register, length_flatten wrapped.eight, wrapped.count]
    omega
  have parts : blocksFrom (final.1 ++ final.2.flatten) 8 n = final.2 := by
    have read := blocksFrom_flatten final.1 wrapped.eight
    rwa [wrapped.register, wrapped.count] at read
  have less : 8 * (n + 1) / 8 - 1 = n := by omega
  rw [aesUnwrap128_eq, total, if_pos (by omega), less, List.take_left' wrapped.register, parts,
    undone, if_pos rfl, flatten_blocksFrom (by omega), List.drop_zero]

/-- Whatever the unwrap accepts was wrapped. -/
theorem eq_aesWrap128 {input : Bytes} (unwraps : aesUnwrap128 kek input = some plain) :
    ∃ n, 1 ≤ n ∧ n ≤ 32 ∧ plain.length = 8 * n ∧ input = aesWrap128 kek plain := by
  rw [aesUnwrap128_eq] at unwraps
  split at unwraps
  case isFalse => cases unwraps
  rename_i shape
  have start : Registers (input.length / 8 - 1)
      (input.take 8, blocksFrom input 8 (input.length / 8 - 1)) :=
    registers_blocksFrom (by rw [List.length_take]; omega) (by omega)
  have few : input.length / 8 - 1 ≤ 32 := by omega
  have undone := wrapAll_unwrapAll long few start
  have unwrapped := start.unwrapAll long
  generalize unwrapAll kek (input.length / 8 - 1)
    (input.take 8, blocksFrom input 8 (input.length / 8 - 1)) = final
    at undone unwrapped unwraps
  simp only [Option.ite_none_right_eq_some, Option.some.injEq] at unwraps
  obtain ⟨intact, rfl⟩ := unwraps
  have total : final.2.flatten.length = 8 * (input.length / 8 - 1) := by
    rw [length_flatten unwrapped.eight, unwrapped.count]
  have count : final.2.flatten.length / 8 = input.length / 8 - 1 := by omega
  have parts : blocksFrom final.2.flatten 0 (input.length / 8 - 1) = final.2 := by
    have read := blocksFrom_flatten [] unwrapped.eight
    rwa [List.nil_append, unwrapped.count] at read
  refine ⟨input.length / 8 - 1, by omega, few, total, ?_⟩
  rw [aesWrap128_eq, count, parts, ← intact, undone, flatten_blocksFrom (by omega),
    List.take_append_drop]

end Inverse

/-- The unwrap returns exactly what was wrapped, and refuses everything else. -/
theorem aesUnwrap128_iff {kek : Bytes} (long : kek.length = 16) (input plain : Bytes) :
    aesUnwrap128 kek input = some plain ↔
      ∃ n, 1 ≤ n ∧ n ≤ 32 ∧ plain.length = 8 * n ∧ input = aesWrap128 kek plain := by
  constructor
  · exact eq_aesWrap128 long
  · rintro ⟨n, some, few, blocks, rfl⟩
    exact aesUnwrap128_aesWrap128 long some few blocks

/-- Two blocks that differ, and the one of the integrity check. -/
theorem aesUnwrap128_iff_doubledBlock :
    aesUnwrap128 countingKey (aesWrap128 countingKey doubledBlock) = some doubledBlock :=
  (aesUnwrap128_iff rfl _ _).mpr ⟨2, by decide, by decide, rfl, rfl⟩

end AirportRtw88
