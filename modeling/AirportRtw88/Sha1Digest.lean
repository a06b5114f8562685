import AirportRtw88.Access
import AirportRtw88.Crypto
import AirportRtw88.Hash.Sha1
import Mathlib.Tactic.IntervalCases
import Mathlib.Tactic.Ring

/-!
# The digests of the supplicant

`kern_sha1_transform` is the compression function of SHA-1 on a schedule that it overwrites in
place, and a context keeps what a block-wise hash keeps, with the number of bits in two words.
Hence the digest is that of the message, however it was split.
-/

namespace AirportRtw88

open Bytes

/-! ## Words and rounds -/

/-- The word of four bytes, the least significant one first. -/
def joinBytes (a b c d : BitVec 8) : BitVec 32 :=
  a.setWidth 32 ||| (b.setWidth 32 <<< 8) ||| (c.setWidth 32 <<< 16) ||| (d.setWidth 32 <<< 24)

theorem joinBytes_eq (a b c d : BitVec 8) : joinBytes a b c d =
    BitVec.ofNat 32 (2 ^ 16 * (2 ^ 8 * d.toNat + c.toNat) + (2 ^ 8 * b.toNat + a.toNat)) := by
  have low : 2 ^ 8 * b.toNat + a.toNat < 2 ^ 16 := by omega
  ext i inside
  rw [← BitVec.getLsbD_eq_getElem, ← BitVec.getLsbD_eq_getElem, BitVec.getLsbD_ofNat,
    Nat.testBit_two_pow_mul_add _ low, Nat.testBit_two_pow_mul_add _ a.isLt,
    Nat.testBit_two_pow_mul_add _ c.isLt]
  simp only [BitVec.testBit_toNat]
  interval_cases i <;> simp [joinBytes]

/-- Rotating and masking reverses the bytes of a word. -/
theorem swap_joinBytes (a b c d : BitVec 8) :
    ((joinBytes a b c d <<< 24 ||| joinBytes a b c d >>> 8) &&& 0xFF00FF00#32) |||
        ((joinBytes a b c d <<< 8 ||| joinBytes a b c d >>> 24) &&& 0x00FF00FF#32) =
      joinBytes d c b a := by
  ext i inside
  interval_cases i <;> simp [joinBytes]

/-- The macro `blk0` reads the word of the message. -/
theorem blk0_eq {buffer : Bytes} {block : List UInt32} {t : Nat}
    (raw : block.getD t 0 = blockWord buffer t) :
    blk0 block t = Sha1.blockWord buffer t := by
  let b (i : Nat) : BitVec 8 := (buffer.byte (4 * t + i)).toBitVec
  have little : (blockWord buffer t).toBitVec = joinBytes (b 0) (b 1) (b 2) (b 3) := by
    rw [joinBytes_eq]
    apply congrArg (BitVec.ofNat 32)
    simp only [le16At, b, UInt8.toNat_toBitVec, Nat.add_zero]
    ring
  have big : (Sha1.blockWord buffer t).toBitVec = joinBytes (b 3) (b 2) (b 1) (b 0) := by
    rw [joinBytes_eq]
    apply congrArg (BitVec.ofNat 32)
    simp only [byte, b, UInt8.toNat_toBitVec, Nat.add_zero]
    ring
  apply UInt32.eq_of_toBitVec_eq
  rw [big, ← swap_joinBytes, ← little, blk0, raw]
  rfl

/-- The macros compute the functions of the rounds. -/
theorem roundMix_eq (t : Nat) (w x y : UInt32) :
    roundMix t w x y = Sha1.f t w x y + Sha1.k t := by
  have choose : ((w &&& (x ^^^ y)) ^^^ y) = Sha1.ch w x y := by
    apply UInt32.eq_of_toBitVec_eq
    ext i inside
    simp [Sha1.ch]
    cases w.toBitVec[i] <;> cases x.toBitVec[i] <;> cases y.toBitVec[i] <;> rfl
  have majority : ((w ||| x) &&& y) ||| (w &&& x) = Sha1.maj w x y := by
    apply UInt32.eq_of_toBitVec_eq
    ext i inside
    simp [Sha1.maj]
    cases w.toBitVec[i] <;> cases x.toBitVec[i] <;> cases y.toBitVec[i] <;> rfl
  unfold roundMix Sha1.f Sha1.k
  rw [choose, majority]
  split
  · rfl
  · split
    · rfl
    · split <;> rfl

/-- Before round `t` the registers are the working variables, and the block holds the last words of
the schedule and behind them those of the message that are still to be read. -/
structure BeforeRound (buffer : Bytes) (t : Nat) (current : Sha1Registers × List UInt32)
    (s : Sha1.Words) : Prop where
  registers : current.1 = ⟨s.a, s.b, s.c, s.d, s.e⟩
  length : current.2.length = 16
  computed : ∀ i < t, t ≤ i + 16 → current.2.getD (i % 16) 0 = Sha1.scheduleWord buffer i
  raw : ∀ i, t ≤ i → i < 16 → current.2.getD i 0 = blockWord buffer i

namespace BeforeRound

variable {buffer : Bytes} {t : Nat} {current : Sha1Registers × List UInt32} {s : Sha1.Words}

theorem first (buffer : Bytes) (s : Sha1.Words) : BeforeRound buffer 0
    (⟨s.a, s.b, s.c, s.d, s.e⟩, (List.range 16).map (blockWord buffer)) s where
  registers := rfl
  length := by simp
  computed := nofun
  raw i _ inside := by simp [inside]

/-- The word that a round takes is that of the schedule. -/
theorem word (before : BeforeRound buffer t current s) (inside : t < 80) :
    (if t < 16 then blk0 current.2 t else blk current.2 t) = Sha1.scheduleWord buffer t := by
  split
  case isTrue first =>
    rw [blk0_eq (before.raw t le_rfl first), Sha1.scheduleWord_block buffer first]
  case isFalse later =>
    have third := before.computed (t - 3) (by omega) (by omega)
    have eighth := before.computed (t - 8) (by omega) (by omega)
    have fourteenth := before.computed (t - 14) (by omega) (by omega)
    have sixteenth := before.computed (t - 16) (by omega) (by omega)
    rw [Sha1.scheduleWord_later buffer (by omega) inside, ← third, ← eighth, ← fourteenth,
      ← sixteenth, blk, show (t - 3) % 16 = (t + 13) % 16 by omega,
      show (t - 8) % 16 = (t + 8) % 16 by omega, show (t - 14) % 16 = (t + 2) % 16 by omega,
      show (t - 16) % 16 = t % 16 by omega]
    rfl

theorem next (before : BeforeRound buffer t current s) (inside : t < 80) :
    BeforeRound buffer (t + 1) (sha1Round t current) (Sha1.round buffer s t) := by
  have word := before.word inside
  have block : (sha1Round t current).2 =
      current.2.set (t % 16) (Sha1.scheduleWord buffer t) := by
    rw [← word]
    rfl
  have place : t % 16 < current.2.length := by
    rw [before.length]
    exact Nat.mod_lt t (by decide)
  constructor
  case registers =>
    have sum (e f k w r : UInt32) : e + (f + k + w + r) = r + f + e + k + w := by ac_rfl
    have first : s.e + (roundMix t s.b s.c s.d + Sha1.scheduleWord buffer t + rol s.a 5) =
        (Sha1.round buffer s t).a := by
      rw [roundMix_eq, sum]
      rfl
    rw [← first, ← word, sha1Round, before.registers]
    rfl
  case length =>
    rw [block, List.length_set]
    exact before.length
  case computed =>
    intro i earlier recent
    rw [block, List.getD_eq_getElem?_getD]
    by_cases last : i = t
    · rw [last, List.getElem?_set_self place, Option.getD_some]
    · rw [List.getElem?_set_ne (by omega), ← List.getD_eq_getElem?_getD]
      exact before.computed i (by omega) (by omega)
  case raw =>
    intro i later small
    rw [block, List.getD_eq_getElem?_getD, List.getElem?_set_ne (by omega),
      ← List.getD_eq_getElem?_getD]
    exact before.raw i (by omega) small

/-- After a number of rounds. -/
theorem run (before : BeforeRound buffer 0 current s) {count : Nat} (inside : count ≤ 80) :
    BeforeRound buffer count
      ((List.range count).foldl (fun current index => sha1Round index current) current)
      ((List.range count).foldl (Sha1.round buffer) s) := by
  induction count with
  | zero => exact before
  | succ count ih =>
      rw [List.range_succ, List.foldl_append, List.foldl_append]
      exact (ih (by omega)).next (by omega)

end BeforeRound

/-- The five words of a context. -/
def sha1Words (h : Sha1.Words) : List UInt32 :=
  [h.a, h.b, h.c, h.d, h.e]

/-- The transform is the compression function. -/
theorem kernSha1Transform_eq (h : Sha1.Words) (block : Bytes) :
    kernSha1Transform (sha1Words h) block = sha1Words (Sha1.compress h block) := by
  have final := ((BeforeRound.first block h).run le_rfl).registers
  simp only [kernSha1Transform, sha1Words, List.getD_cons_zero, List.getD_cons_succ]
  rw [final]
  rfl

theorem wordBytes_eq (word : UInt32) : wordBytes word = Sha1.wordBytes word := by
  simp [wordBytes, be32, be16, Sha1.wordBytes, Nat.div_div_eq_div_mul]

/-- The digest is written out word by word. -/
theorem flatMap_wordBytes (h : Sha1.Words) : (sha1Words h).flatMap wordBytes = h.bytes := by
  simp [sha1Words, Sha1.Words.bytes, wordBytes_eq]

/-! ## Contexts -/

/-- A context has absorbed a message. -/
structure Sha1Context.Holds (context : Sha1Context) (message : Bytes) : Prop where
  absorbed : BlockHash.Absorbed kernSha1Transform 64 (sha1Words Sha1.initial) message context.state
    (context.buffer.take (message.length % 64))
  buffer : context.buffer.length = 64
  count : context.countLow.toNat + 4294967296 * context.countHigh.toNat =
    8 * message.length % 18446744073709551616

/-- A context after `kern_sha1_init`, with what was in its buffer. -/
def sha1Start (buffer : Bytes) : Sha1Context :=
  { kernSha1Init with buffer := buffer }

theorem holds_sha1Start {buffer : Bytes} (sized : buffer.length = 64) :
    (sha1Start buffer).Holds [] where
  absorbed := .nil _
  buffer := sized
  count := rfl

theorem transformBlocks_eq (blocks : Nat) (state : List UInt32) (data : Bytes) :
    transformBlocks blocks state data = BlockHash.chain kernSha1Transform 64 blocks state data := by
  induction blocks generalizing state data with
  | zero => rfl
  | succ blocks ih => exact ih _ _

/-- The two words of the counter count the bits of the data, with the carry. -/
theorem count_update {low high : UInt32} {bits length : Nat}
    (count : low.toNat + 4294967296 * high.toNat = bits % 18446744073709551616)
    (small : length < 4294967296) :
    let len := UInt32.ofNat length
    let low' := low + (len <<< 3)
    let high' := high + (if low' < low then (1 : UInt32) else 0) + (len >>> 29)
    low'.toNat + 4294967296 * high'.toNat = (bits + 8 * length) % 18446744073709551616 := by
  intro len low' high'
  have lenEq : len.toNat = length := UInt32.toNat_ofNat_of_lt' small
  have lowEq : low'.toNat = (low.toNat + 8 * length) % 4294967296 := by
    have shift : (len <<< 3).toNat = len.toNat <<< 3 % 4294967296 := rfl
    rw [UInt32.toNat_add, shift, lenEq, Nat.shiftLeft_eq]
    omega
  have carry : (if low' < low then (1 : UInt32) else 0).toNat =
      if (low.toNat + 8 * length) % 4294967296 < low.toNat then 1 else 0 := by
    simp only [UInt32.lt_iff_toNat_lt, lowEq]
    split <;> rfl
  have highEq : high'.toNat = (high.toNat +
      (if (low.toNat + 8 * length) % 4294967296 < low.toNat then 1 else 0) +
        length / 536870912) % 4294967296 := by
    have shift : (len >>> 29).toNat = len.toNat >>> 29 := rfl
    rw [UInt32.toNat_add, UInt32.toNat_add, carry, shift, lenEq, Nat.shiftRight_eq_div_pow]
    omega
  have lowBound := low.toNat_lt
  have highBound := high.toNat_lt
  rw [lowEq, highEq]
  split <;> omega

namespace Sha1Context.Holds

variable {context : Sha1Context} {message : Bytes} (holds : context.Holds message)
include holds

/-- The index of the first free byte of the buffer. -/
theorem index : ((context.countLow >>> 3) &&& 63).toNat = message.length % 64 := by
  have count := holds.count
  have low := context.countLow.toNat_lt
  have high := context.countHigh.toNat_lt
  rw [UInt32.toNat_and, UInt32.toNat_shiftRight]
  change context.countLow.toNat >>> 3 &&& (2 ^ 6 - 1) = _
  rw [Nat.and_two_pow_sub_one_eq_mod, Nat.shiftRight_eq_div_pow]
  omega

theorem update (data : Bytes) (small : data.length < 4294967296) :
    (kernSha1Update context data).Holds (message ++ data) := by
  have sized := holds.buffer
  have index := holds.index
  let j := message.length % 64
  have filled : j < 64 := Nat.mod_lt _ (by decide)
  have front : (context.buffer.take j).length = j := by
    rw [List.length_take]
    omega
  have absorbed := holds.absorbed.append (by decide) data
  have total : (context.buffer.take j ++ data).length = j + data.length := by
    rw [List.length_append, front]
  have counts := count_update holds.count small
  have bits : 8 * message.length + 8 * data.length = 8 * (message ++ data).length := by
    rw [List.length_append]
    omega
  rw [bits] at counts
  have last : (message ++ data).length % 64 = (j + data.length) % 64 := by
    rw [List.length_append]
    omega
  unfold kernSha1Update
  rw [index]
  simp only
  change Holds (if j + data.length > 63 then _ else _) _
  split
  case isTrue whole =>
    let head := data.take (64 - j)
    let rest := data.drop (64 - j)
    have headLength : head.length = 64 - j := by
      rw [List.length_take]
      omega
    have split : head ++ rest = data := List.take_append_drop _ _
    have block : context.buffer.overwrite j head = context.buffer.take j ++ head := by
      rw [overwrite, List.drop_eq_nil_of_le (by omega), List.append_nil]
    have blockLength : (context.buffer.take j ++ head).length = 64 := by
      rw [List.length_append, front, headLength]
      omega
    have blocks : (j + data.length) / 64 = 1 + rest.length / 64 := by
      rw [List.length_drop]
      omega
    let tail := rest.drop (64 * (rest.length / 64))
    have tailLength : tail.length = (j + data.length) % 64 := by
      rw [List.length_drop, List.length_drop]
      omega
    have joined : context.buffer.take j ++ data = (context.buffer.take j ++ head) ++ rest := by
      rw [List.append_assoc, split]
    rw [total, blocks, joined, BlockHash.chain_add, Nat.add_mul, ← List.drop_drop, Nat.one_mul,
      List.drop_left' blockLength] at absorbed
    have chained : BlockHash.chain kernSha1Transform 64 1 context.state
        (context.buffer.take j ++ head ++ rest) =
          kernSha1Transform context.state (context.buffer.take j ++ head) := by
      rw [BlockHash.chain, BlockHash.chain, List.take_left' blockLength]
    rw [chained, ← transformBlocks_eq, Nat.mul_comm] at absorbed
    have copied : ((context.buffer.overwrite j head).overwrite 0 tail).take
        ((j + data.length) % 64) = tail := by
      rw [← tailLength]
      exact slice_overwrite (Nat.zero_le _)
    constructor
    case absorbed =>
      rw [last]
      change BlockHash.Absorbed _ _ _ _ (transformBlocks (rest.length / 64)
        (kernSha1Transform context.state (context.buffer.overwrite j head)) rest)
        (((context.buffer.overwrite j head).overwrite 0 tail).take ((j + data.length) % 64))
      rw [copied, block]
      exact absorbed
    case buffer =>
      change ((context.buffer.overwrite j head).overwrite 0 tail).length = 64
      rw [length_overwrite, block, blockLength]
      rw [block, blockLength, tailLength]
      omega
    case count => exact counts
  case isFalse short =>
    have none : (j + data.length) / 64 = 0 := by omega
    have residue : (j + data.length) % 64 = j + data.length := by omega
    have copied : (context.buffer.overwrite j data).take (j + data.length) =
        context.buffer.take j ++ data := by
      rw [overwrite, List.take_append_of_le_length (by rw [total]), ← total, List.take_length]
    constructor
    case absorbed =>
      rw [last, residue, copied]
      rw [total, none] at absorbed
      simpa [BlockHash.chain] using absorbed
    case buffer =>
      rw [length_overwrite (by omega)]
      exact sized
    case count => exact counts

/-- The test of the padding loop. -/
theorem padded_iff : context.countLow &&& 504 = 448 ↔ message.length % 64 = 56 := by
  have count := holds.count
  have low := context.countLow.toNat_lt
  have high := context.countHigh.toNat_lt
  have shifted : context.countLow.toNat = (message.length % 536870912) <<< 3 := by
    rw [Nat.shiftLeft_eq]
    omega
  have masked : (context.countLow &&& 504).toNat = 8 * (message.length % 64) := by
    have mask : (504 : UInt32).toNat = 63 <<< 3 := rfl
    rw [UInt32.toNat_and, mask, shifted, ← Nat.shiftLeft_and_distrib,
      Nat.and_two_pow_sub_one_eq_mod _ 6, Nat.shiftLeft_eq]
    omega
  rw [← UInt32.toNat_inj, masked]
  change 8 * (message.length % 64) = 448 ↔ _
  omega

/-- The loop ends when eight bytes are missing. -/
theorem padZeros {fuel count : Nat} (missing : (message.length + count) % 64 = 56)
    (fewest : count < 64) (enough : count ≤ fuel) :
    (AirportRtw88.padZeros fuel context).Holds (message ++ List.replicate count 0) := by
  induction fuel generalizing context message count with
  | zero =>
      obtain rfl : count = 0 := Nat.le_zero.mp enough
      simpa [AirportRtw88.padZeros] using holds
  | succ fuel ih =>
      rw [AirportRtw88.padZeros]
      by_cases padded : message.length % 64 = 56
      · obtain rfl : count = 0 := by omega
        rw [if_neg (not_not.mpr (holds.padded_iff.mpr padded))]
        simpa using holds
      · rw [if_pos fun equal => padded (holds.padded_iff.mp equal)]
        obtain ⟨rest, rfl⟩ : ∃ rest, count = rest + 1 := ⟨count - 1, by omega⟩
        have next := holds.update [0] (by decide)
        have remaining : ((message ++ [0]).length + rest) % 64 = 56 := by
          rw [List.length_append, List.length_singleton]
          omega
        have further := ih next remaining (by omega) (by omega)
        rwa [List.append_assoc, List.singleton_append, ← List.replicate_succ] at further

/-- The counter is the length of the message in bits. -/
theorem counter (short : message.length < 2305843009213693952) :
    wordBytes context.countHigh ++ wordBytes context.countLow = Sha1.be64 (8 * message.length) := by
  have count := holds.count
  have low := context.countLow.toNat_lt
  have high := context.countHigh.toNat_lt
  have same {left right : Nat} (equal : left % 256 = right % 256) :
      UInt8.ofNat left = UInt8.ofNat right :=
    UInt8.toNat_inj.mp (by simpa using equal)
  have listed : List.range 8 = [0, 1, 2, 3, 4, 5, 6, 7] := rfl
  simp only [wordBytes, be32, be16, Sha1.be64, listed, List.map_cons, List.map_nil,
    List.cons_append, List.nil_append, List.cons.injEq, and_true]
  refine ⟨same ?_, same ?_, same ?_, same ?_, same ?_, same ?_, same ?_, same ?_⟩ <;> omega

/-- The digest of the message. -/
theorem final (short : message.length < 2305843009213693952) :
    kernSha1Final context = Sha1.digest message := by
  have marked := holds.update [0x80] (by decide)
  have zeros : Sha1.zeroCount message.length < 64 := Nat.mod_lt _ (by decide)
  have enough : Sha1.zeroCount message.length ≤ 64 := by omega
  have missing : ((message ++ [0x80]).length + Sha1.zeroCount message.length) % 64 = 56 := by
    rw [List.length_append, List.length_singleton, Sha1.zeroCount]
    omega
  have padded := marked.padZeros missing zeros enough
  have counted := padded.update (Sha1.be64 (8 * message.length)) (by simp [Sha1.be64])
  have whole : message ++ [0x80] ++ List.replicate (Sha1.zeroCount message.length) 0 ++
      Sha1.be64 (8 * message.length) = Sha1.pad message := by
    simp only [Sha1.pad, List.append_assoc]
  rw [whole] at counted
  have chained := counted.absorbed.chained
  have blocks : (Sha1.pad message).length / 64 * 64 ≤ (Sha1.pad message).length :=
    Nat.div_mul_le_self _ _
  rw [← BlockHash.chain_map sha1Words (fun h block _ => (kernSha1Transform_eq h block).symm) blocks]
    at chained
  rw [kernSha1Final, holds.counter short, chained, flatMap_wordBytes]
  rfl

end Sha1Context.Holds

/-! ## Lengths and indexes of 32 bits -/

namespace Checked

/-- The loop of `kern_sha1_update` over the whole blocks, from an index on. -/
def transformFrom (data : Bytes) (len : UInt32) :
    Nat → List UInt32 → UInt32 → Option (List UInt32 × UInt32)
  | 0, _, _ => none
  | fuel + 1, state, i =>
      if i + 63 < len then do
        let block ← data.copy i.toNat 64
        transformFrom data len fuel (kernSha1Transform state block) (i + 64)
      else some (state, i)

/-- `kern_sha1_update`.  It has no result when it reads or writes past the end of a buffer. -/
def kernSha1Update (context : Sha1Context) (data : Bytes) : Option Sha1Context := do
  let len := UInt32.ofNat data.length
  let countLow := context.countLow + (len <<< 3)
  let countHigh := context.countHigh +
    (if countLow < context.countLow then (1 : UInt32) else 0) + (len >>> 29)
  let j := (context.countLow >>> 3) &&& 63
  if j + len > 63 then
    let i := 64 - j
    let head ← data.copy 0 i.toNat
    store 64 j.toNat head.length
    let filled := context.buffer.overwrite j.toNat head
    let (state, i) ← transformFrom data len (data.length + 1)
      (kernSha1Transform context.state filled) i
    let tail ← data.copy i.toNat (len - i).toNat
    store 64 0 tail.length
    return { state, countLow, countHigh, buffer := filled.overwrite 0 tail }
  else
    let all ← data.copy 0 len.toNat
    store 64 j.toNat all.length
    return { context with countLow, countHigh, buffer := context.buffer.overwrite j.toNat all }

/-- The padding loop of `kern_sha1_final`. -/
def padZeros : Nat → Sha1Context → Option Sha1Context
  | 0, _ => none
  | fuel + 1, context =>
      if context.countLow &&& 504 ≠ 448 then do
        let context ← kernSha1Update context [0]
        padZeros fuel context
      else some context

/-- `kern_sha1_final`. -/
def kernSha1Final (context : Sha1Context) : Option Bytes := do
  let finalcount := wordBytes context.countHigh ++ wordBytes context.countLow
  let marked ← kernSha1Update context [0x80]
  let padded ← padZeros 64 marked
  let counted ← kernSha1Update padded finalcount
  return counted.state.flatMap wordBytes

/-- The length of the data is a word. -/
theorem toNat_length {data : Bytes} (small : data.length < 4294967232) :
    (UInt32.ofNat data.length).toNat = data.length :=
  UInt32.toNat_ofNat_of_lt' (Nat.lt_trans small (by decide))

theorem transformFrom_eq {data : Bytes} (small : data.length < 4294967232) {fuel : Nat}
    (state : List UInt32) {i : UInt32} (inside : i.toNat ≤ data.length)
    (enough : data.length - i.toNat < fuel) :
    ∃ last, transformFrom data (UInt32.ofNat data.length) fuel state i = some
        (transformBlocks ((data.drop i.toNat).length / 64) state (data.drop i.toNat), last) ∧
      last.toNat = i.toNat + 64 * ((data.drop i.toNat).length / 64) := by
  induction fuel generalizing state i with
  | zero => omega
  | succ fuel ih =>
      have len := toNat_length small
      have ahead : (i + 63).toNat = i.toNat + 63 := by
        rw [UInt32.toNat_add]
        exact Nat.mod_eq_of_lt (by change i.toNat + 63 < 4294967296; omega)
      have next : (i + 64).toNat = i.toNat + 64 := by
        rw [UInt32.toNat_add]
        exact Nat.mod_eq_of_lt (by change i.toNat + 64 < 4294967296; omega)
      rw [transformFrom, List.length_drop]
      by_cases whole : i.toNat + 63 < data.length
      · have goesOn : i + 63 < UInt32.ofNat data.length := by
          rw [UInt32.lt_iff_toNat_lt, len, ahead]
          exact whole
        obtain ⟨last, rest, index⟩ := ih (kernSha1Transform state (data.slice i.toNat 64))
          (i := i + 64) (by omega) (by omega)
        rw [next, List.length_drop] at index rest
        have blocks : (data.length - i.toNat) / 64 = (data.length - (i.toNat + 64)) / 64 + 1 := by
          omega
        refine ⟨last, ?_, by omega⟩
        rw [if_pos goesOn, copy_eq (by omega), blocks, transformBlocks, List.drop_drop]
        exact rest
      · have stops : ¬ i + 63 < UInt32.ofNat data.length := by
          rw [UInt32.lt_iff_toNat_lt, len, ahead]
          exact whole
        have none : (data.length - i.toNat) / 64 = 0 := by omega
        refine ⟨i, ?_, by omega⟩
        rw [if_neg stops, none]
        rfl

/-- It stays inside its buffers, and no index wraps around. -/
theorem kernSha1Update_eq (context : Sha1Context) {data : Bytes}
    (small : data.length < 4294967232) :
    kernSha1Update context data = some (AirportRtw88.kernSha1Update context data) := by
  have len := toNat_length small
  unfold kernSha1Update AirportRtw88.kernSha1Update
  have position : ((context.countLow >>> 3) &&& 63).toNat < 64 := by
    rw [UInt32.toNat_and]
    exact Nat.lt_of_le_of_lt Nat.and_le_right (by decide)
  generalize (context.countLow >>> 3) &&& 63 = j at position
  have sum : (j + UInt32.ofNat data.length).toNat = j.toNat + data.length := by
    rw [UInt32.toNat_add, len]
    exact Nat.mod_eq_of_lt (by change _ < 4294967296; omega)
  simp only [Option.bind_eq_bind, Option.pure_def]
  by_cases whole : j.toNat + data.length > 63
  · have fills : j + UInt32.ofNat data.length > 63 := by
      rw [gt_iff_lt, UInt32.lt_iff_toNat_lt, sum]
      exact whole
    have rest : (64 - j).toNat = 64 - j.toNat := by
      rw [UInt32.toNat_sub_of_le]
      · rfl
      · rw [UInt32.le_iff_toNat_le]
        exact position.le
    let head := data.take (64 - j.toNat)
    have headLength : head.length = 64 - j.toNat := by
      rw [List.length_take]
      omega
    have inside : (64 - j).toNat ≤ data.length := by omega
    have enough : data.length - (64 - j).toNat < data.length + 1 := by omega
    obtain ⟨last, transformed, index⟩ := transformFrom_eq small
      (kernSha1Transform context.state (context.buffer.overwrite j.toNat head)) inside enough
    rw [rest] at index transformed
    have lastInside : last.toNat ≤ data.length := by
      rw [index, List.length_drop]
      omega
    have remaining : (UInt32.ofNat data.length - last).toNat = data.length - last.toNat := by
      rw [UInt32.toNat_sub_of_le, len]
      rw [UInt32.le_iff_toNat_le, len]
      exact lastInside
    have tail : data.slice last.toNat (data.length - last.toNat) =
        (data.drop (64 - j.toNat)).drop (64 * ((data.drop (64 - j.toNat)).length / 64)) := by
      rw [slice, List.drop_drop, index, List.take_of_length_le]
      rw [List.length_drop]
    have tailLength : (data.slice last.toNat (data.length - last.toNat)).length ≤ 64 := by
      rw [tail, List.length_drop]
      omega
    have copied : data.slice 0 (64 - j.toNat) = head := rfl
    rw [if_pos whole, if_pos fills, rest, copy_eq (by omega), Option.bind_some, copied,
      store_eq (by omega), Option.bind_some, transformed, Option.bind_some]
    simp only
    rw [remaining, copy_eq (by omega), Option.bind_some, store_eq (by omega),
      Option.bind_some, tail]
  · have fits : ¬ j + UInt32.ofNat data.length > 63 := by
      rw [gt_iff_lt, UInt32.lt_iff_toNat_lt, sum]
      exact whole
    rw [if_neg whole, if_neg fits, len, copy_eq (by omega), Option.bind_some, slice,
      List.drop_zero, List.take_length, store_eq (by omega), Option.bind_some]

theorem padZeros_eq {context : Sha1Context} {message : Bytes} (holds : context.Holds message)
    {fuel count : Nat} (missing : (message.length + count) % 64 = 56) (fewest : count < 64)
    (enough : count < fuel) :
    padZeros fuel context = some (AirportRtw88.padZeros fuel context) := by
  induction fuel generalizing context message count with
  | zero => omega
  | succ fuel ih =>
      rw [padZeros, AirportRtw88.padZeros]
      by_cases padded : message.length % 64 = 56
      · have stops := holds.padded_iff.mpr padded
        rw [if_neg (not_not.mpr stops), if_neg (not_not.mpr stops)]
      · have goesOn : context.countLow &&& 504 ≠ 448 :=
          fun equal => padded (holds.padded_iff.mp equal)
        rw [if_pos goesOn, if_pos goesOn, kernSha1Update_eq context (by decide)]
        obtain ⟨rest, rfl⟩ : ∃ rest, count = rest + 1 := ⟨count - 1, by omega⟩
        have next := holds.update [0] (by decide)
        have remaining : ((message ++ [0]).length + rest) % 64 = 56 := by
          rw [List.length_append, List.length_singleton]
          omega
        exact ih next remaining (by omega) (by omega)

theorem kernSha1Final_eq {context : Sha1Context} {message : Bytes} (holds : context.Holds message) :
    kernSha1Final context = some (AirportRtw88.kernSha1Final context) := by
  have marked := holds.update [0x80] (by decide)
  have zeros : Sha1.zeroCount message.length < 64 := Nat.mod_lt _ (by decide)
  have missing : ((message ++ [0x80]).length + Sha1.zeroCount message.length) % 64 = 56 := by
    rw [List.length_append, List.length_singleton, Sha1.zeroCount]
    omega
  have eight (high low : UInt32) : (wordBytes high ++ wordBytes low).length < 4294967232 := by
    simp [wordBytes, be32, be16]
  have mark : kernSha1Update context [0x80] = some (AirportRtw88.kernSha1Update context [0x80]) :=
    kernSha1Update_eq context (by decide)
  simp only [kernSha1Final, AirportRtw88.kernSha1Final, mark,
    kernSha1Update_eq _ (eight _ _), padZeros_eq marked missing zeros zeros, Option.bind_eq_bind,
    Option.bind_some, Option.pure_def]

end Checked

/-- The context after some chunks has absorbed them. -/
theorem holds_foldl {context : Sha1Context} {message : Bytes} (holds : context.Holds message)
    (chunks : List Bytes) (short : ∀ chunk ∈ chunks, chunk.length < 4294967232) :
    ∃ last, chunks.foldlM Checked.kernSha1Update context = some last ∧
      last.Holds (message ++ chunks.flatten) := by
  induction chunks generalizing context message with
  | nil => exact ⟨context, rfl, by simpa using holds⟩
  | cons chunk chunks ih =>
      have first := short chunk List.mem_cons_self
      have next := holds.update chunk (Nat.lt_trans first (by decide))
      obtain ⟨last, rest, absorbed⟩ :=
        ih next fun other member => short other (List.mem_cons_of_mem chunk member)
      refine ⟨last, ?_, ?_⟩
      · rw [List.foldlM_cons, Checked.kernSha1Update_eq context first]
        exact rest
      · rwa [List.flatten_cons, ← List.append_assoc]

/-- However a message is split, its bits are counted in the two words and its digest is that of
SHA-1, whatever was in the buffer. -/
theorem sha1_chunks (chunks : List Bytes) (buffer : Bytes) (sized : buffer.length = 64)
    (short : ∀ chunk ∈ chunks, chunk.length < 4294967232)
    (total : chunks.flatten.length < 2305843009213693952) :
    ∃ context, chunks.foldlM Checked.kernSha1Update (sha1Start buffer) = some context ∧
      context.countLow.toNat + 4294967296 * context.countHigh.toNat =
        8 * chunks.flatten.length ∧
      Checked.kernSha1Final context = some (Sha1.digest chunks.flatten) := by
  obtain ⟨context, updated, holds⟩ := holds_foldl (holds_sha1Start sized) chunks short
  rw [List.nil_append] at holds
  refine ⟨context, updated, ?_, ?_⟩
  · rw [holds.count]
    omega
  · rw [Checked.kernSha1Final_eq holds, holds.final total]

/-- Three bytes in two chunks. -/
theorem sha1_chunks_abc : ∃ context,
    [[0x61], [0x62, 0x63]].foldlM Checked.kernSha1Update (sha1Start (zeros 64)) = some context ∧
      context.countLow.toNat + 4294967296 * context.countHigh.toNat = 24 ∧
      Checked.kernSha1Final context = some (Sha1.digest [0x61, 0x62, 0x63]) :=
  sha1_chunks [[0x61], [0x62, 0x63]] (zeros 64) rfl (by decide) (by decide)

end AirportRtw88
