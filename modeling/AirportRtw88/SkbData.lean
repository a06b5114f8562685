import AirportRtw88.DataEncapsulation
import AirportRtw88.Service

/-!
# The room around the data of a buffer

`skbuff.h` moves the data of a buffer within one allocation.  What the calls do to the offsets is
compared with three byte strings: the headroom, the data and the tailroom.
-/

namespace AirportRtw88

open Bytes

namespace SkBuff

/-- `skb_push`, and a write over the room that it returns; it fails where the room would lie
before the start of the allocation. -/
def push (skb : SkBuff) (source : Bytes) : Option SkBuff :=
  if source.length ≤ skb.data then
    some
      { skb with
        head := skb.head.overwrite (skb.data - source.length) source
        data := skb.data - source.length
        len := (skb.len + source.length) % 2 ^ 32 }
  else none

/-- `skb_pull`, with a length in a `u32`. -/
def pull (skb : SkBuff) (length : Nat) : SkBuff :=
  { skb with
    data := skb.data + length
    len := (skb.len + (2 ^ 32 - length)) % 2 ^ 32 }

/-- `skb_trim`. -/
def trim (skb : SkBuff) (length : Nat) : SkBuff :=
  if length < skb.len then
    { skb with
      tail := skb.tail - (skb.len - length)
      len := length }
  else skb

/-- `skb_headroom`. -/
def headroom (skb : SkBuff) : Nat :=
  skb.data

/-- `skb_tailroom`. -/
def tailroom (skb : SkBuff) : Nat :=
  skb.head.length - skb.tail

/-- `skb_put_zero`. -/
def putZero (skb : SkBuff) (length : Nat) : Option SkBuff :=
  skb.put (zeros length)

/-- `skb_copy` and `skb_clone`, on the memory that `alloc_skb` got for the length and the headroom
together. -/
def copy (skb : SkBuff) (memory : Bytes) : Option SkBuff :=
  ((alloc memory).reserve skb.headroom).put skb.bytes

end SkBuff

namespace SkbData

/-- The calls on a buffer; after a copy the calls go on with the copy. -/
inductive Op where
  | reserve (length : Nat)
  | put (source : Bytes)
  | putZero (length : Nat)
  | push (source : Bytes)
  | pull (length : Nat)
  | trim (length : Nat)
  | copy (memory : Bytes)
  | headroom
  | tailroom
  | len
  | data

inductive Result where
  | done
  | length (length : Nat)
  | bytes (bytes : Bytes)
  deriving DecidableEq

/-- The calls on the offsets of the buffer. -/
def memory : Service Op Result SkBuff where
  perform
    | .reserve length, skb => some (skb.reserve length, .done)
    | .put source, skb => (skb.put source).map (·, .done)
    | .putZero length, skb => (skb.putZero length).map (·, .done)
    | .push source, skb => (skb.push source).map (·, .done)
    | .pull length, skb => some (skb.pull length, .done)
    | .trim length, skb => some (skb.trim length, .done)
    | .copy memory, skb => (skb.copy memory).map (·, .done)
    | .headroom, skb => some (skb, .length skb.headroom)
    | .tailroom, skb => some (skb, .length skb.tailroom)
    | .len, skb => some (skb, .length skb.len)
    | .data, skb => some (skb, .bytes skb.bytes)

/-- The data of a buffer, and the room before and behind it. -/
structure Rooms where
  front : Bytes
  data : Bytes
  back : Bytes

namespace Rooms

/-- Data appears at the end of the headroom. -/
def push (r : Rooms) (source : Bytes) : Rooms :=
  { r with
    front := r.front.take (r.front.length - source.length)
    data := source ++ r.data }

/-- The start of the data becomes headroom. -/
def pull (r : Rooms) (length : Nat) : Rooms :=
  { r with
    front := r.front ++ r.data.take length
    data := r.data.drop length }

/-- Data appears at the start of the tailroom. -/
def put (r : Rooms) (source : Bytes) : Rooms :=
  { r with
    data := r.data ++ source
    back := r.back.drop source.length }

/-- The end of the data becomes tailroom. -/
def trim (r : Rooms) (length : Nat) : Rooms :=
  { r with
    data := r.data.take length
    back := r.data.drop length ++ r.back }

/-- Tailroom becomes headroom. -/
def reserve (r : Rooms) (length : Nat) : Rooms :=
  { r with
    front := r.front ++ r.back.take length
    back := r.back.drop length }

/-- A new allocation with the same headroom and data; what is behind them is tailroom. -/
def copy (r : Rooms) (memory : Bytes) : Rooms where
  front := memory.take r.front.length
  data := r.data
  back := memory.drop (r.front.length + r.data.length)

/-- What a call does to the rooms; its caller stays within them. -/
def perform : Op → Rooms → Option (Rooms × Result)
  | .reserve length, r =>
      if r.data = [] ∧ length ≤ r.back.length then some (r.reserve length, .done) else none
  | .put source, r =>
      if source.length ≤ r.back.length then some (r.put source, .done) else none
  | .putZero length, r =>
      if length ≤ r.back.length then some (r.put (zeros length), .done) else none
  | .push source, r =>
      if source.length ≤ r.front.length then some (r.push source, .done) else none
  | .pull length, r =>
      if length ≤ r.data.length then some (r.pull length, .done) else none
  | .trim length, r => some (r.trim length, .done)
  | .copy memory, r =>
      if memory.length = SkBuff.allocSize (r.data.length + r.front.length) ∧
          memory.length < 2 ^ 32 then some (r.copy memory, .done)
      else none
  | .headroom, r => some (r, .length r.front.length)
  | .tailroom, r => some (r, .length r.back.length)
  | .len, r => some (r, .length r.data.length)
  | .data, r => some (r, .bytes r.data)

end Rooms

def rooms : Service Op Result Rooms where
  perform := Rooms.perform

/-- The offsets of a buffer divide its allocation into the rooms. -/
structure Divides (skb : SkBuff) (r : Rooms) : Prop where
  head : skb.head = r.front ++ r.data ++ r.back
  data : skb.data = r.front.length
  len : skb.len = r.data.length
  tail : skb.tail = r.front.length + r.data.length
  small : (r.front ++ r.data ++ r.back).length < 2 ^ 32

namespace Divides

variable {skb : SkBuff} {r : Rooms}

theorem bytes (divides : Divides skb r) : skb.bytes = r.data := by
  rw [SkBuff.bytes, slice, divides.head, divides.data, divides.len, List.append_assoc,
    List.drop_left, List.take_left]

theorem reserve (divides : Divides skb r) (length : Nat) (empty : r.data = [])
    (fits : length ≤ r.back.length) : Divides (skb.reserve length) (r.reserve length) where
  head := by
    simp only [SkBuff.reserve, Rooms.reserve, divides.head, empty, List.append_nil,
      List.append_assoc, List.take_append_drop]
  data := by
    simp only [SkBuff.reserve, Rooms.reserve, divides.data, List.length_append, List.length_take,
      Nat.min_eq_left fits]
  len := divides.len
  tail := by
    simp only [SkBuff.reserve, Rooms.reserve, divides.tail, empty, List.length_append,
      List.length_take, Nat.min_eq_left fits, List.length_nil, Nat.add_zero]
  small := by
    have small := divides.small
    simp only [Rooms.reserve, empty, List.length_append, List.length_take, List.length_drop,
      List.length_nil] at small ⊢
    omega

theorem put (divides : Divides skb r) (source : Bytes) (fits : source.length ≤ r.back.length) :
    ∃ later, skb.put source = some later ∧ Divides later (r.put source) := by
  have whole : skb.tail + source.length ≤ skb.head.length := by
    rw [divides.head, divides.tail, List.length_append, List.length_append]
    omega
  refine ⟨_, if_pos whole, ?_, divides.data, ?_, ?_, ?_⟩
  · dsimp only [Rooms.put]
    rw [divides.tail, divides.head, ← List.length_append, overwrite, List.take_left,
      List.drop_length_add_append]
    simp only [List.append_assoc]
  · simp only [Rooms.put, divides.len, List.length_append]
  · simp only [Rooms.put, divides.tail, List.length_append, Nat.add_assoc]
  · have small := divides.small
    simp only [Rooms.put, List.length_append, List.length_drop] at small ⊢
    omega

theorem push (divides : Divides skb r) {source : Bytes} (fits : source.length ≤ r.front.length) :
    ∃ later, skb.push source = some later ∧ Divides later (r.push source) := by
  have small := divides.small
  have whole : source.length ≤ skb.data := divides.data ▸ fits
  have split : r.front = r.front.take (r.front.length - source.length) ++
      r.front.drop (r.front.length - source.length) := (List.take_append_drop _ _).symm
  have room : (r.front.drop (r.front.length - source.length)).length = source.length := by
    rw [List.length_drop]
    omega
  have place : (r.front.take (r.front.length - source.length)).length =
      r.front.length - source.length := List.length_take_of_le (Nat.sub_le _ _)
  refine ⟨_, if_pos whole, ?_, ?_, ?_, ?_, ?_⟩
  · dsimp only [Rooms.push]
    rw [divides.data, divides.head, overwrite, Nat.sub_add_cancel fits, List.append_assoc r.front,
      List.drop_left, List.take_append_of_le_length (Nat.sub_le _ _)]
    simp only [List.append_assoc]
  · simp only [Rooms.push, divides.data, place]
  · simp only [List.length_append] at small
    simp only [Rooms.push, divides.len, List.length_append]
    omega
  · simp only [Rooms.push, divides.tail, place, List.length_append]
    omega
  · simp only [Rooms.push, List.length_append, place] at small ⊢
    omega

theorem pull (divides : Divides skb r) (length : Nat) (fits : length ≤ r.data.length) :
    Divides (skb.pull length) (r.pull length) where
  head := by
    simp only [SkBuff.pull, Rooms.pull, divides.head, List.append_assoc]
    rw [← List.append_assoc (r.data.take length), List.take_append_drop]
  data := by
    simp only [SkBuff.pull, Rooms.pull, divides.data, List.length_append,
      List.length_take_of_le fits]
  len := by
    have small := divides.small
    simp only [List.length_append] at small
    simp only [SkBuff.pull, Rooms.pull, divides.len, List.length_drop]
    omega
  tail := by
    simp only [SkBuff.pull, Rooms.pull, divides.tail, List.length_append, List.length_drop,
      List.length_take_of_le fits]
    omega
  small := by
    have small := divides.small
    simp only [Rooms.pull, List.length_append, List.length_drop,
      List.length_take_of_le fits] at small ⊢
    omega

theorem trim (divides : Divides skb r) (length : Nat) :
    Divides (skb.trim length) (r.trim length) := by
  by_cases shorter : length < skb.len
  · have inside : length ≤ r.data.length := by
      rw [← divides.len]
      omega
    rw [SkBuff.trim, if_pos shorter]
    refine ⟨?_, divides.data, ?_, ?_, ?_⟩
    · simp only [Rooms.trim, divides.head, List.append_assoc]
      rw [← List.append_assoc (r.data.take length), List.take_append_drop]
    · exact (List.length_take_of_le inside).symm
    · simp only [Rooms.trim, divides.tail, divides.len, List.length_take_of_le inside]
      omega
    · have small := divides.small
      simp only [Rooms.trim, List.length_append, List.length_drop,
        List.length_take_of_le inside] at small ⊢
      omega
  · have whole : r.data.length ≤ length := by
      rw [← divides.len]
      omega
    have same : r.trim length = r := by
      rw [Rooms.trim, List.take_of_length_le whole, List.drop_eq_nil_of_le whole, List.nil_append]
    rw [SkBuff.trim, if_neg shorter, same]
    exact divides

theorem alloc {memory : Bytes} (small : memory.length < 2 ^ 32) :
    Divides (SkBuff.alloc memory) ⟨[], [], memory⟩ :=
  ⟨rfl, rfl, rfl, rfl, small⟩

theorem copy (divides : Divides skb r) {memory : Bytes}
    (size : memory.length = SkBuff.allocSize (r.data.length + r.front.length))
    (small : memory.length < 2 ^ 32) :
    ∃ later, skb.copy memory = some later ∧ Divides later (r.copy memory) := by
  rw [SkBuff.allocSize] at size
  have reserved := (alloc small).reserve r.front.length rfl (by dsimp only; omega)
  obtain ⟨later, puts, divides'⟩ := reserved.put r.data (by
    simp only [Rooms.reserve, List.length_drop]
    omega)
  refine ⟨later, ?_, ?_⟩
  · rw [SkBuff.copy, SkBuff.headroom, divides.data, divides.bytes, puts]
  · simpa only [Rooms.copy, Rooms.put, Rooms.reserve, List.nil_append, List.drop_drop] using
      divides'

end Divides

/-- The calls on the offsets do what they do to the rooms. -/
theorem memory_refines : memory.Refines rooms Divides := by
  intro op skb r later result divides performs
  cases op with
  | reserve length =>
      obtain ⟨⟨empty, fits⟩, same⟩ := Option.ite_none_right_eq_some.mp performs
      obtain ⟨rfl, rfl⟩ := Prod.mk.inj (Option.some.inj same)
      exact ⟨_, rfl, divides.reserve length empty fits⟩
  | put source =>
      obtain ⟨fits, same⟩ := Option.ite_none_right_eq_some.mp performs
      obtain ⟨rfl, rfl⟩ := Prod.mk.inj (Option.some.inj same)
      obtain ⟨next, puts, divides'⟩ := divides.put _ fits
      exact ⟨next, by simp only [memory, puts, Option.map_some], divides'⟩
  | putZero length =>
      obtain ⟨fits, same⟩ := Option.ite_none_right_eq_some.mp performs
      obtain ⟨rfl, rfl⟩ := Prod.mk.inj (Option.some.inj same)
      rw [← length_zeros length] at fits
      obtain ⟨next, puts, divides'⟩ := divides.put _ fits
      exact ⟨next, by simp only [memory, SkBuff.putZero, puts, Option.map_some], divides'⟩
  | push source =>
      obtain ⟨fits, same⟩ := Option.ite_none_right_eq_some.mp performs
      obtain ⟨rfl, rfl⟩ := Prod.mk.inj (Option.some.inj same)
      obtain ⟨next, pushes, divides'⟩ := divides.push fits
      exact ⟨next, by simp only [memory, pushes, Option.map_some], divides'⟩
  | pull length =>
      obtain ⟨fits, same⟩ := Option.ite_none_right_eq_some.mp performs
      obtain ⟨rfl, rfl⟩ := Prod.mk.inj (Option.some.inj same)
      exact ⟨_, rfl, divides.pull length fits⟩
  | trim length =>
      obtain ⟨rfl, rfl⟩ := Prod.mk.inj (Option.some.inj performs)
      exact ⟨_, rfl, divides.trim length⟩
  | copy bytes =>
      obtain ⟨⟨size, small⟩, same⟩ := Option.ite_none_right_eq_some.mp performs
      obtain ⟨rfl, rfl⟩ := Prod.mk.inj (Option.some.inj same)
      obtain ⟨next, copies, divides'⟩ := divides.copy size small
      exact ⟨next, by simp only [memory, copies, Option.map_some], divides'⟩
  | headroom =>
      obtain ⟨rfl, rfl⟩ := Prod.mk.inj (Option.some.inj performs)
      exact ⟨skb, by simp only [memory, SkBuff.headroom, divides.data], divides⟩
  | tailroom =>
      obtain ⟨rfl, rfl⟩ := Prod.mk.inj (Option.some.inj performs)
      refine ⟨skb, ?_, divides⟩
      have behind : skb.tailroom = r.back.length := by
        rw [SkBuff.tailroom, divides.head, divides.tail, List.length_append, List.length_append]
        omega
      simp only [memory, behind]
  | len =>
      obtain ⟨rfl, rfl⟩ := Prod.mk.inj (Option.some.inj performs)
      exact ⟨skb, by simp only [memory, divides.len], divides⟩
  | data =>
      obtain ⟨rfl, rfl⟩ := Prod.mk.inj (Option.some.inj performs)
      exact ⟨skb, by simp only [memory, divides.bytes], divides⟩

/-- Whatever calls follow one another on a new buffer, as long as each stays within the rooms, they
have the results of the byte strings, and the offsets stay in order within the allocation. -/
theorem calls_agree_with_rooms (allocated : Bytes) (small : allocated.length < 2 ^ 32)
    (calls : List Op) {last : Rooms} {results : List Result}
    (runs : rooms.run calls ⟨[], [], allocated⟩ = some (last, results)) :
    ∃ skb, memory.run calls (SkBuff.alloc allocated) = some (skb, results) ∧
      skb.head = last.front ++ last.data ++ last.back ∧ skb.bytes = last.data ∧
      skb.headroom = last.front.length ∧ skb.tail = skb.data + skb.len ∧
      skb.tail + skb.tailroom = skb.head.length := by
  obtain ⟨skb, performs, divides⟩ := memory_refines.run (Divides.alloc small) runs
  refine ⟨skb, performs, divides.head, divides.bytes, divides.data, ?_, ?_⟩
  · rw [divides.tail, divides.data, divides.len]
  · have inside : skb.tail ≤ skb.head.length := by
      rw [divides.head, divides.tail, List.length_append, List.length_append]
      omega
    exact Nat.add_sub_cancel' inside

/-- A frame of three bytes gets a descriptor of two in front, and loses it again. -/
theorem calls_agree_with_rooms_descriptor :
    ∃ skb, memory.run [.reserve 4, .put [1, 2, 3], .push [8, 9], .data, .pull 2, .trim 2, .data,
        .copy (zeros 70), .data, .headroom, .tailroom] (SkBuff.alloc (zeros 8)) =
      some (skb, [.done, .done, .done, .bytes [8, 9, 1, 2, 3], .done, .done, .bytes [1, 2], .done,
        .bytes [1, 2], .length 4, .length 64]) := by
  obtain ⟨skb, performs, -⟩ := calls_agree_with_rooms (zeros 8) (by decide)
    [.reserve 4, .put [1, 2, 3], .push [8, 9], .data, .pull 2, .trim 2, .data,
      .copy (zeros 70), .data, .headroom, .tailroom] rfl
  exact ⟨skb, performs⟩

end SkbData

/-! ## The frames of the reserved page -/

/-- The headroom of `ieee80211_nullfunc_get` and `ieee80211_pspoll_get`. -/
def reservedHeadroom : Nat := 64

/-- The bytes that `ieee80211_nullfunc_get` writes at `p`. -/
def nullfuncBytes (qosOk : Bool) (bssid addr : Bytes) : Bytes :=
  let subtype := if qosOk then 0xC else 0x4
  let p := zeros (if qosOk then 26 else 24)
  let p := p.overwrite 0 [UInt8.ofNat (subtype * 16 + 2 * 4), 0x01, 0, 0]
  let p := p.overwrite 4 bssid
  let p := p.overwrite 10 addr
  let p := p.overwrite 16 bssid
  let p := p.overwrite 22 [0, 0]
  if qosOk then p.overwrite 24 [0, 0] else p

/-- `ieee80211_nullfunc_get` for an interface, on the memory that `alloc_skb` got. -/
def ieee80211NullfuncGet (qosOk : Bool) (bssid addr memory : Bytes) : Option SkBuff :=
  ((SkBuff.alloc memory).reserve reservedHeadroom).put (nullfuncBytes qosOk bssid addr)

/-- The bytes that `ieee80211_pspoll_get` writes at `p`. -/
def pspollBytes (aid : Nat) (bssid addr : Bytes) : Bytes :=
  let aid := aid ||| 0xC000
  let p := zeros 16
  let p := p.overwrite 0 [0xA4, 0x00, UInt8.ofNat (aid &&& 0xFF), UInt8.ofNat (aid / 256)]
  let p := p.overwrite 4 bssid
  p.overwrite 10 addr

/-- `ieee80211_pspoll_get`. -/
def ieee80211PspollGet (aid : Nat) (bssid addr memory : Bytes) : Option SkBuff :=
  ((SkBuff.alloc memory).reserve reservedHeadroom).put (pspollBytes aid bssid addr)

/-- The frame is a header with three addresses, and QoS control if it is allowed. -/
theorem nullfuncBytes_eq (qosOk : Bool) {bssid addr : Bytes} (length_bssid : bssid.length = 6)
    (length_addr : addr.length = 6) : nullfuncBytes qosOk bssid addr =
      header3addr (if qosOk then 0x01C8 else 0x0148) bssid addr bssid 0 ++
        (if qosOk then [0, 0] else []) :=
  match bssid, addr, length_bssid, length_addr with
  | [_, _, _, _, _, _], [_, _, _, _, _, _], _, _ => by
      cases qosOk <;> rfl

theorem pspollBytes_eq (aid : Nat) {bssid addr : Bytes} (length_bssid : bssid.length = 6)
    (length_addr : addr.length = 6) : pspollBytes aid bssid addr =
      [0xA4, 0x00] ++
        ([UInt8.ofNat ((aid ||| 0xC000) &&& 0xFF), UInt8.ofNat ((aid ||| 0xC000) / 256)] ++
          (bssid ++ addr)) :=
  match bssid, addr, length_bssid, length_addr with
  | [_, _, _, _, _, _], [_, _, _, _, _, _], _, _ => rfl

/-- A frame behind headroom, in the memory that was allocated for both: the descriptor of the
driver fits in front of it. -/
theorem reserved_frame (frame memory : Bytes) {descriptor : Bytes}
    (size : memory.length = SkBuff.allocSize (reservedHeadroom + frame.length))
    (small : memory.length < 2 ^ 32) (fits : descriptor.length ≤ reservedHeadroom) :
    ∃ skb pushed, ((SkBuff.alloc memory).reserve reservedHeadroom).put frame = some skb ∧
      skb.bytes = frame ∧ skb.push descriptor = some pushed ∧
      pushed.bytes = descriptor ++ frame ∧ (pushed.pull descriptor.length).bytes = frame := by
  rw [SkBuff.allocSize] at size
  have reserved := (SkbData.Divides.alloc small).reserve reservedHeadroom rfl
    (by dsimp only; omega)
  obtain ⟨skb, puts, divides⟩ := reserved.put frame (by
    simp only [SkbData.Rooms.reserve, List.length_drop]
    omega)
  have room : descriptor.length ≤
      ((SkbData.Rooms.reserve ⟨[], [], memory⟩ reservedHeadroom).put frame).front.length := by
    simp only [SkbData.Rooms.put, SkbData.Rooms.reserve, List.nil_append]
    rw [List.length_take_of_le (by omega)]
    exact fits
  obtain ⟨pushed, pushes, divides'⟩ := divides.push room
  have back := divides'.pull descriptor.length (by
    simp only [SkbData.Rooms.push, List.length_append]
    omega)
  refine ⟨skb, pushed, puts, divides.bytes, pushes, divides'.bytes, ?_⟩
  rw [back.bytes]
  exact List.drop_left

/-- The length and the fields of a null function frame. -/
theorem nullfuncBytes_fields (qosOk : Bool) {bssid addr : Bytes} (length_bssid : bssid.length = 6)
    (length_addr : addr.length = 6) :
    (nullfuncBytes qosOk bssid addr).length = (if qosOk then 26 else 24) ∧
      (nullfuncBytes qosOk bssid addr).frameControl = (if qosOk then 0x01C8 else 0x0148) ∧
      (nullfuncBytes qosOk bssid addr).addr1 = bssid ∧
      (nullfuncBytes qosOk bssid addr).addr2 = addr ∧
      (nullfuncBytes qosOk bssid addr).addr3 = bssid := by
  let h : MacHeader :=
    { fc := if qosOk then 0x01C8 else 0x0148
      duration := 0
      addr1 := bssid
      addr2 := addr
      addr3 := bssid
      seqCtrl := 0
      fc_lt := by cases qosOk <;> decide
      seqCtrl_lt := by decide
      length_addr1 := length_bssid
      length_addr2 := length_addr
      length_addr3 := length_bssid }
  have frame : nullfuncBytes qosOk bssid addr = h.bytes ++ (if qosOk then [0, 0] else []) := by
    rw [nullfuncBytes_eq qosOk length_bssid length_addr, h.bytes_eq_header3addr rfl]
  rw [frame]
  refine ⟨?_, h.frameControl_append _, h.addr1_append _, h.addr2_append _, h.addr3_append _⟩
  rw [List.length_append, h.length_bytes]
  cases qosOk <;> rfl

/-- The length and the fields of a PS-Poll frame. -/
theorem pspollBytes_fields {aid : Nat} (small : aid < 65536) {bssid addr : Bytes}
    (length_bssid : bssid.length = 6) (length_addr : addr.length = 6) :
    (pspollBytes aid bssid addr).length = 16 ∧
      (pspollBytes aid bssid addr).frameControl = 0x00A4 ∧
      (pspollBytes aid bssid addr).le16At 2 = aid ||| 0xC000 ∧
      (pspollBytes aid bssid addr).addr1 = bssid ∧
      (pspollBytes aid bssid addr).addr2 = addr := by
  have frame := pspollBytes_eq aid length_bssid length_addr
  have field : (aid ||| 0xC000) < 2 ^ 16 := Nat.or_lt_two_pow small (by decide)
  refine ⟨?_, ?_, ?_, ?_, ?_⟩
  · simp [frame, length_bssid, length_addr]
  · rw [frame]
    rfl
  · have low : (aid ||| 0xC000) &&& 0xFF = (aid ||| 0xC000) % 2 ^ 8 :=
      Nat.and_two_pow_sub_one_eq_mod _ 8
    rw [frame, low]
    simp only [le16At, byte, List.cons_append, List.nil_append, List.getD_cons_succ,
      List.getD_cons_zero, UInt8.toNat_ofNat']
    omega
  · rw [frame, ← List.append_assoc]
    exact slice_middle _ bssid addr rfl length_bssid
  · rw [frame, ← List.append_assoc, ← List.append_assoc]
    have place : (([0xA4, 0x00] ++ [UInt8.ofNat ((aid ||| 0xC000) &&& 0xFF),
        UInt8.ofNat ((aid ||| 0xC000) / 256)]) ++ bssid : Bytes).length = 10 := by
      simp [length_bssid]
    have read := slice_middle _ addr [] place length_addr
    rwa [List.append_nil] at read

/-- The frames of the reserved page.  A null function frame goes from the station to its access
point, and has QoS control exactly if that is allowed; a PS-Poll frame has the association
identifier with its two top bits set.  In front of each any descriptor of at most 64 bytes can be
pushed within the allocation, and pulled again. -/
theorem reservedPage_frames (qosOk : Bool) (aid : Nat)
    (bssid addr nullMemory pollMemory descriptor : Bytes) (length_bssid : bssid.length = 6)
    (length_addr : addr.length = 6) (small : aid < 65536)
    (nullSize : nullMemory.length =
      SkBuff.allocSize (reservedHeadroom + if qosOk then 26 else 24))
    (pollSize : pollMemory.length = SkBuff.allocSize (reservedHeadroom + 16))
    (fits : descriptor.length ≤ reservedHeadroom) :
    (∃ skb pushed, ieee80211NullfuncGet qosOk bssid addr nullMemory = some skb ∧
      skb.bytes.hdrLen = skb.bytes.length ∧ skb.bytes.isData = true ∧
      skb.bytes.isDataQos = qosOk ∧ skb.bytes.addr1 = bssid ∧ skb.bytes.addr2 = addr ∧
      skb.bytes.addr3 = bssid ∧ skb.push descriptor = some pushed ∧
      pushed.bytes = descriptor ++ skb.bytes ∧
      (pushed.pull descriptor.length).bytes = skb.bytes) ∧
    ∃ skb pushed, ieee80211PspollGet aid bssid addr pollMemory = some skb ∧
      skb.bytes.length = 16 ∧ skb.bytes.frameControl = 0x00A4 ∧
      skb.bytes.le16At 2 = aid ||| 0xC000 ∧ skb.bytes.addr1 = bssid ∧ skb.bytes.addr2 = addr ∧
      skb.push descriptor = some pushed ∧ pushed.bytes = descriptor ++ skb.bytes ∧
      (pushed.pull descriptor.length).bytes = skb.bytes := by
  constructor
  · obtain ⟨length, control, first, second, third⟩ :=
      nullfuncBytes_fields qosOk length_bssid length_addr
    obtain ⟨skb, pushed, puts, contents, pushes, both, back⟩ := reserved_frame
      (nullfuncBytes qosOk bssid addr) nullMemory (by rw [length, nullSize])
      (by rw [nullSize]; cases qosOk <;> decide) fits
    refine ⟨skb, pushed, puts, ?_⟩
    rw [contents]
    refine ⟨?_, ?_, ?_, first, second, third, pushes, both, back⟩
    · rw [hdrLen, control, length]
      cases qosOk <;> rfl
    · rw [isData, control]
      cases qosOk <;> rfl
    · rw [isDataQos, control]
      cases qosOk <;> rfl
  · obtain ⟨length, control, identifier, first, second⟩ :=
      pspollBytes_fields small length_bssid length_addr
    obtain ⟨skb, pushed, puts, contents, pushes, both, back⟩ := reserved_frame
      (pspollBytes aid bssid addr) pollMemory (by rw [length, pollSize])
      (by rw [pollSize]; decide) fits
    refine ⟨skb, pushed, puts, ?_⟩
    rw [contents]
    exact ⟨length, control, identifier, first, second, pushes, both, back⟩

theorem reservedPage_frames_descriptor :
    ∃ skb pushed, ieee80211PspollGet 5 (List.replicate 6 1) (List.replicate 6 2)
        (zeros 144) = some skb ∧ skb.push (zeros 48) = some pushed ∧
      pushed.bytes = zeros 48 ++ skb.bytes := by
  obtain ⟨-, skb, pushed, builds, -, -, -, -, -, pushes, both, -⟩ := reservedPage_frames true 5
    (List.replicate 6 1) (List.replicate 6 2) (zeros 154) (zeros 144) (zeros 48) (by decide)
    (by decide) (by decide) ((length_zeros 154).trans rfl) ((length_zeros 144).trans rfl)
    ((length_zeros 48).trans_le (by decide))
  exact ⟨skb, pushed, builds, pushes, both⟩

end AirportRtw88
