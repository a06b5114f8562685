import AirportRtw88.Custody
import AirportRtw88.Segments
import AirportRtw88.State

/-!
# Output on the virtual interface

The stack hands frames to the AWDL interface in two ways: one at a time, with or without a radiotap
header, and in the queues of the interface, from which the controller takes some packets of each
class at a time.
-/

namespace AirportRtw88

open Bytes

/-! ## The packets of the kernel -/

/-- The functions of the kernel on packets of type `M`, and what a packet contains. -/
structure MbufKpi (M : Type) where
  bytes : M → Bytes
  pkthdrLen : M → Nat
  len : M → Nat
  copydata : M → Nat → Nat → Option Bytes
  adj : M → Nat → M

/-- What the kernel promises of them. -/
structure MbufKpi.Lawful {M : Type} (kpi : MbufKpi M) : Prop where
  copydata : ∀ m offset length, kpi.copydata m offset length =
    if offset + length ≤ (kpi.bytes m).length then some ((kpi.bytes m).slice offset length)
    else none
  bytes_adj : ∀ m count, count ≤ (kpi.bytes m).length →
    kpi.bytes (kpi.adj m count) = (kpi.bytes m).drop count
  pkthdrLen_adj : ∀ m count, count ≤ (kpi.bytes m).length →
    kpi.pkthdrLen (kpi.adj m count) = kpi.pkthdrLen m - count
  len_le : ∀ m, kpi.len m ≤ (kpi.bytes m).length

/-- A packet in segments. -/
structure MbufChain where
  segments : List Bytes
  pkthdrLen : Nat

/-- Packets in segments. -/
def mbufChains : MbufKpi MbufChain where
  bytes m := m.segments.flatten
  pkthdrLen := MbufChain.pkthdrLen
  len m := (m.segments.head?.map List.length).getD 0
  copydata m := Segments.copy m.segments
  adj m count := ⟨Segments.trim m.segments count, m.pkthdrLen - count⟩

theorem mbufChains_lawful : mbufChains.Lawful where
  copydata m := Segments.copy_eq m.segments
  bytes_adj m count _ := Segments.flatten_trim m.segments count
  pkthdrLen_adj _ _ _ := rfl
  len_le m := by
    cases segments : m.segments with
    | nil => simp [mbufChains, segments]
    | cons segment rest => simp [mbufChains, segments]

/-! ## One frame at a time -/

/-- The link types of a frame. -/
inductive Dlt where
  | raw
  | ieee80211
  | ieee80211Radio
  | other (dlt : Nat)
  deriving DecidableEq

/-- What is done with the packet and with the copy of it. -/
inductive OutputEvent where
  | freePacket
  | mallocFrame
  | freeFrame
  | transmit (frame : Bytes)
  deriving DecidableEq

section

variable {M : Type} (kpi : MbufKpi M) (backend : Option (Bytes → Bool)) (malloc : Bool)

/-- `rtw88SendActionFrame`.  The backend says whether it accepts a frame. -/
def rtw88SendActionFrame : Option M → IOReturn × List OutputEvent
  | none => (.badArgument, [])
  | some m =>
      match backend with
      | none => (.notReady, [.freePacket])
      | some txRawManagementFrame =>
          let len := if kpi.pkthdrLen m = 0 then kpi.len m else kpi.pkthdrLen m
          if len < 24 ∨ len > 4096 then (.badArgument, [.freePacket])
          else if !malloc then (.noMemory, [.freePacket])
          else
            match kpi.copydata m 0 len with
            | none => (.error, [.mallocFrame, .freePacket, .freeFrame])
            | some frame =>
                (if txRawManagementFrame frame then .success else .error,
                  [.mallocFrame, .freePacket, .transmit frame, .freeFrame])

/-- `bpfOutputPacket` for a radiotap header. -/
def decapsulate (m : M) : IOReturn × List OutputEvent :=
  match if kpi.pkthdrLen m < 4 then none else kpi.copydata m 0 4 with
  | none => (.badArgument, [.freePacket])
  | some hdr =>
      let rtlen := hdr.le16At 2
      if rtlen < 4 ∨ rtlen ≥ kpi.pkthdrLen m then (.badArgument, [.freePacket])
      else rtw88SendActionFrame kpi backend malloc (some (kpi.adj m rtlen))

/-- `bpfOutputPacket`. -/
def bpfOutputPacket (dlt : Dlt) (m : Option M) : IOReturn × List OutputEvent :=
  match dlt, m with
  | .raw, m => rtw88SendActionFrame kpi backend malloc m
  | .ieee80211, m => rtw88SendActionFrame kpi backend malloc m
  | .ieee80211Radio, some m => decapsulate kpi backend malloc m
  | _, some _ => (.unsupported, [.freePacket])
  | _, none => (.unsupported, [])

end

/-- The frame of a packet, behind its radiotap header if it has one. -/
def Dlt.frame : Dlt → Bytes → Option Bytes
  | .raw, packet => some packet
  | .ieee80211, packet => some packet
  | .ieee80211Radio, packet =>
      if 4 ≤ packet.length ∧ 4 ≤ packet.le16At 2 ∧ packet.le16At 2 < packet.length then
        some (packet.drop (packet.le16At 2))
      else none
  | .other _, _ => none

/-- What is held on the way: the packet, which comes from the stack, and the copy. -/
inductive OutputBuffer where
  | packet
  | frame
  deriving DecidableEq

def OutputEvent.custody : OutputEvent → Option (Custody.Event OutputBuffer)
  | .freePacket => some (.release .packet)
  | .mallocFrame => some (.acquire .frame)
  | .freeFrame => some (.release .frame)
  | .transmit _ => none

def OutputEvent.frame : OutputEvent → Option Bytes
  | .transmit frame => some frame
  | _ => none

/-- The packet and the copy are each given back once. -/
def GivesBack (events : List OutputEvent) : Prop :=
  Custody.Leaves (fun _ => []) (.acquire .packet :: events.filterMap OutputEvent.custody)
    fun _ => false

/-- What a call does with a packet that carries a frame, if it carries one. -/
structure Outputs (backend : Option (Bytes → Bool)) (malloc : Bool) (frame : Option Bytes)
    (result : IOReturn × List OutputEvent) : Prop where
  givesBack : GivesBack result.2
  transmits : result.2.filterMap OutputEvent.frame =
    if backend.isSome && malloc then
      (frame.filter fun frame => 24 ≤ frame.length ∧ frame.length ≤ 4096).toList
    else []
  succeeds : result.1 = .success ↔ ∃ accepts ∈ backend, ∃ frame ∈
    result.2.filterMap OutputEvent.frame, accepts frame = true

variable {M : Type} {kpi : MbufKpi M} {backend : Option (Bytes → Bool)} {malloc : Bool} {m : M}

/-- Before the call, the packet is held. -/
theorem leaves_packet : Custody.Leaves (fun _ => []) [.acquire .packet]
    (Function.update (fun _ => false) OutputBuffer.packet true) :=
  Custody.Leaves.nil.acquire rfl

theorem givesBack_packet : GivesBack [.freePacket] := by
  have gone := leaves_packet.release (Function.update_self _ _ _) (List.forall_mem_nil _)
  rw [Function.update_idem] at gone
  rw [GivesBack, ← Function.update_eq_self OutputBuffer.packet (fun _ => false)]
  exact gone

/-- A copy is freed after the packet, whether or not it is sent in between. -/
theorem givesBack_copy {between : List OutputEvent}
    (sends : between.filterMap OutputEvent.custody = []) :
    GivesBack (.mallocFrame :: .freePacket :: between ++ [.freeFrame]) := by
  have copied : Custody.Leaves (fun _ => []) [.acquire .packet, .acquire .frame]
      (Function.update (Function.update (fun _ => false) OutputBuffer.packet true) .frame true) :=
    leaves_packet.acquire rfl
  have one : Custody.Leaves (fun _ => [])
      [.acquire .packet, .acquire .frame, .release OutputBuffer.packet] _ :=
    copied.release rfl (List.forall_mem_nil _)
  have none : Custody.Leaves (fun _ => [])
      [.acquire .packet, .acquire .frame, .release .packet, .release OutputBuffer.frame] _ :=
    one.release rfl (List.forall_mem_nil _)
  have nothing : Function.update (Function.update (Function.update (Function.update
      (fun _ => false) OutputBuffer.packet true) .frame true) .packet false) .frame false =
      fun _ => false := by
    ext buffer
    cases buffer <;> rfl
  rw [nothing] at none
  rw [GivesBack, List.filterMap_append, List.filterMap_cons, List.filterMap_cons, sends]
  exact none

/-- Without a frame nothing is sent. -/
theorem outputs_nothing {code : IOReturn} (fails : code ≠ .success) :
    Outputs backend malloc none (code, [.freePacket]) where
  givesBack := givesBack_packet
  transmits := by simp [OutputEvent.frame]
  succeeds := by simp [OutputEvent.frame, fails]

/-- The length that counts is that of the packet. -/
theorem packetLength (lawful : kpi.Lawful) (counted : kpi.pkthdrLen m = (kpi.bytes m).length) :
    (if kpi.pkthdrLen m = 0 then kpi.len m else kpi.pkthdrLen m) = (kpi.bytes m).length := by
  split
  · rename_i zero
    have less := lawful.len_le m
    omega
  · exact counted

theorem rtw88SendActionFrame_outputs (lawful : kpi.Lawful)
    (counted : kpi.pkthdrLen m = (kpi.bytes m).length) :
    Outputs backend malloc (some (kpi.bytes m))
      (rtw88SendActionFrame kpi backend malloc (some m)) := by
  unfold rtw88SendActionFrame
  cases backend with
  | none => exact ⟨givesBack_packet, by simp [OutputEvent.frame], by simp⟩
  | some accepts =>
      simp only [packetLength lawful counted]
      by_cases long : (kpi.bytes m).length < 24 ∨ (kpi.bytes m).length > 4096
      · rw [if_pos long]
        have refused : ¬ (24 ≤ (kpi.bytes m).length ∧ (kpi.bytes m).length ≤ 4096) := by omega
        exact ⟨givesBack_packet, by simp [OutputEvent.frame, Option.filter, refused],
          by simp [OutputEvent.frame]⟩
      · rw [if_neg long]
        have fits : 24 ≤ (kpi.bytes m).length ∧ (kpi.bytes m).length ≤ 4096 := by omega
        cases malloc with
        | false =>
            exact ⟨givesBack_packet, by simp [OutputEvent.frame], by simp [OutputEvent.frame]⟩
        | true =>
            have copy : kpi.copydata m 0 (kpi.bytes m).length = some (kpi.bytes m) := by
              rw [lawful.copydata, if_pos (by omega), slice, List.drop_zero, List.take_length]
            have sends : [OutputEvent.transmit (kpi.bytes m)].filterMap OutputEvent.custody = [] :=
              rfl
            have sent : [.mallocFrame, .freePacket, .transmit (kpi.bytes m), .freeFrame].filterMap
                OutputEvent.frame = [kpi.bytes m] := rfl
            rw [if_neg (by decide), copy]
            constructor
            · exact givesBack_copy sends
            · simp only [sent]
              simp [Option.filter, fits]
            · simp only [sent]
              cases accepted : accepts (kpi.bytes m) <;> simp [accepted]

theorem decapsulate_outputs (lawful : kpi.Lawful)
    (counted : kpi.pkthdrLen m = (kpi.bytes m).length) :
    Outputs backend malloc (Dlt.ieee80211Radio.frame (kpi.bytes m))
      (decapsulate kpi backend malloc m) := by
  unfold decapsulate
  rw [counted]
  by_cases short : (kpi.bytes m).length < 4
  · rw [if_pos short, Dlt.frame, if_neg (by omega)]
    exact outputs_nothing (by decide)
  · have copy : kpi.copydata m 0 4 = some ((kpi.bytes m).slice 0 4) := by
      rw [lawful.copydata, if_pos (by omega)]
    have header : ((kpi.bytes m).slice 0 4).le16At 2 = (kpi.bytes m).le16At 2 := by
      simp [le16At, byte, slice, List.getD_eq_getElem?_getD]
    rw [if_neg short, copy]
    simp only [header, Dlt.frame]
    by_cases bad : (kpi.bytes m).le16At 2 < 4 ∨ (kpi.bytes m).le16At 2 ≥ (kpi.bytes m).length
    · rw [if_pos bad, if_neg (by omega)]
      exact outputs_nothing (by decide)
    · rw [if_neg bad, if_pos (by omega)]
      have inside : (kpi.bytes m).le16At 2 ≤ (kpi.bytes m).length := by omega
      rw [← lawful.bytes_adj m _ inside]
      apply rtw88SendActionFrame_outputs lawful
      rw [lawful.pkthdrLen_adj m _ inside, lawful.bytes_adj m _ inside, counted,
        List.length_drop]

/-- Each packet is given back once, however a call goes.  What is sent is the frame behind the
radiotap header, wherever the segments of the packet begin and end, if it is as long as a frame can
be, and the call succeeds exactly if the backend accepts it. -/
theorem bpfOutputPacket_outputs (lawful : kpi.Lawful)
    (counted : kpi.pkthdrLen m = (kpi.bytes m).length) (dlt : Dlt) :
    Outputs backend malloc (dlt.frame (kpi.bytes m))
      (bpfOutputPacket kpi backend malloc dlt (some m)) := by
  cases dlt with
  | raw => exact rtw88SendActionFrame_outputs lawful counted
  | ieee80211 => exact rtw88SendActionFrame_outputs lawful counted
  | ieee80211Radio => exact decapsulate_outputs lawful counted
  | other dlt => exact outputs_nothing (by decide)

/-- A frame of 24 bytes behind a radiotap header of 8, in three segments. -/
def threeSegments : MbufChain where
  segments := [[0, 0], [8, 0, 0, 0, 0, 0, 0xd0], zeros 23]
  pkthdrLen := 32

theorem bpfOutputPacket_outputs_segments : ((bpfOutputPacket mbufChains (some fun _ => true) true
    .ieee80211Radio (some threeSegments)).2.filterMap OutputEvent.frame) = [0xd0 :: zeros 23] := by
  rw [(bpfOutputPacket_outputs mbufChains_lawful rfl .ieee80211Radio).transmits]
  decide

/-! ## The queues of the interface -/

/-- The service classes, in the order in which the controller asks for their packets. -/
inductive ServiceClass where
  | ctl
  | vo
  | vi
  | rv
  | av
  | oam
  | rd
  | be
  | bk
  | bksys
  deriving DecidableEq

def serviceClasses : List ServiceClass :=
  [.ctl, .vo, .vi, .rv, .av, .oam, .rd, .be, .bk, .bksys]

section

variable {P : Type} [DecidableEq P]

/-- What `mbuf_nextpkt` finds in a packet, if the packet is still there. -/
inductive NextPkt (P : Type) where
  | freed
  | next (packet : Option P)

/-- The chains of the packets, and what `txAWDLDataFrame` was given: each packet, and what it was
still linked to. -/
structure Drain (P : Type) where
  nextpkt : P → NextPkt P
  handed : List (P × NextPkt P)
  sent : Nat

namespace Drain

/-- `mbuf_setnextpkt(m, nullptr)`. -/
def unlink (drain : Drain P) (m : P) : Drain P :=
  { drain with nextpkt := Function.update drain.nextpkt m (.next none) }

/-- `txAWDLDataFrame` frees the packet whether it succeeds or fails. -/
def txAWDLDataFrame (drain : Drain P) (succeeds : P → Bool) (m : P) : Drain P where
  nextpkt := Function.update drain.nextpkt m .freed
  handed := drain.handed ++ [(m, drain.nextpkt m)]
  sent := if succeeds m then (drain.sent + 1) % 4294967296 else drain.sent

/-- The walk over a chain.  It has no result where it reads a packet that has been freed. -/
def walk (succeeds : P → Bool) : Nat → Option P → Drain P → Option (Drain P)
  | _, none, drain => some drain
  | 0, some _, _ => none
  | fuel + 1, some m, drain =>
      match drain.nextpkt m with
      | .freed => none
      | .next next => walk succeeds fuel next ((drain.unlink m).txAWDLDataFrame succeeds m)

end Drain

/-- What the interface hands out for a class: the head of a chain, and the links of its packets. -/
abbrev Dequeue (P : Type) := ServiceClass → (P → NextPkt P) → Option P × (P → NextPkt P)

/-- The part of `requestPacketTx` for a class. -/
def drainClass (dequeue : Dequeue P) (succeeds : P → Bool) (fuel : Nat) (drain : Drain P)
    (c : ServiceClass) : Option (Drain P) :=
  let dequeued := dequeue c drain.nextpkt
  Drain.walk succeeds fuel dequeued.1 { drain with nextpkt := dequeued.2 }

/-- `requestPacketTx`, where the interface may have the role of AWDL. -/
def requestPacketTx (dequeue : Dequeue P) (succeeds : P → Bool) (fuel : Nat) (isAWDL : Bool)
    (drain : Drain P) : Option (Drain P) :=
  if !isAWDL then some drain
  else serviceClasses.foldlM (drainClass dequeue succeeds fuel) { drain with sent := 0 }

/-- The packets of a chain. -/
def Linked (nextpkt : P → NextPkt P) : Option P → List P → Prop
  | none, packets => packets = []
  | some _, [] => False
  | some m, packet :: rest =>
      m = packet ∧ ∃ next, nextpkt m = .next next ∧ Linked nextpkt next rest

/-- A packet that is not in the chain does not matter to it. -/
theorem Linked.update {nextpkt : P → NextPkt P} {head : Option P} {packets : List P}
    (linked : Linked nextpkt head packets) {m : P} (apart : m ∉ packets) (link : NextPkt P) :
    Linked (Function.update nextpkt m link) head packets := by
  induction packets generalizing head with
  | nil =>
      cases head with
      | none => rfl
      | some packet => exact linked
  | cons packet rest ih =>
      cases head with
      | none => exact linked
      | some head =>
          obtain ⟨rfl, next, here, later⟩ := linked
          obtain ⟨ne, outside⟩ := not_or.mp (mt List.mem_cons.mpr apart)
          refine ⟨rfl, next, ?_, ih later outside⟩
          rw [Function.update_of_ne (Ne.symm ne)]
          exact here

namespace Drain

variable {succeeds : P → Bool}

theorem handed_txAWDLDataFrame (drain : Drain P) (m : P) :
    ((drain.unlink m).txAWDLDataFrame succeeds m).handed = drain.handed ++ [(m, .next none)] := by
  simp [txAWDLDataFrame, unlink]

/-- The packets that were sent are counted in 32 bits. -/
theorem sent_txAWDLDataFrame (drain : Drain P) (m : P) (rest : List P) :
    (((drain.unlink m).txAWDLDataFrame succeeds m).sent + rest.countP succeeds) % 4294967296 =
      (drain.sent + (m :: rest).countP succeeds) % 4294967296 := by
  have sent : ((drain.unlink m).txAWDLDataFrame succeeds m).sent =
      if succeeds m then (drain.sent + 1) % 4294967296 else drain.sent := rfl
  rw [sent, List.countP_cons]
  split <;> omega

/-- A chain is handed over packet by packet, each one unlinked. -/
theorem walk_linked {fuel : Nat} {head : Option P} {packets : List P} {drain : Drain P}
    (linked : Linked drain.nextpkt head packets) (distinct : packets.Nodup)
    (enough : packets.length ≤ fuel) :
    ∃ later, walk succeeds fuel head drain = some later ∧
      later.handed = drain.handed ++ packets.map (fun m => (m, .next none)) ∧
      later.sent % 4294967296 = (drain.sent + packets.countP succeeds) % 4294967296 := by
  induction packets generalizing fuel head drain with
  | nil =>
      cases head with
      | none => exact ⟨drain, by rw [walk], (List.append_nil _).symm, rfl⟩
      | some packet => exact linked.elim
  | cons packet rest ih =>
      cases head with
      | none => exact absurd linked (List.cons_ne_nil _ _)
      | some head =>
          obtain ⟨rfl, next, here, later⟩ := linked
          obtain ⟨outside, distinct⟩ := List.nodup_cons.mp distinct
          cases fuel with
          | zero => exact absurd enough (Nat.not_succ_le_zero _)
          | succ fuel =>
              have stays : Linked ((drain.unlink head).txAWDLDataFrame succeeds head).nextpkt next
                  rest := (later.update outside _).update outside _
              obtain ⟨last, walks, handed, sent⟩ :=
                ih stays distinct (Nat.le_of_succ_le_succ enough)
              refine ⟨last, ?_, ?_, sent.trans (sent_txAWDLDataFrame drain head rest)⟩
              · rw [walk, here]
                exact walks
              · rw [handed, handed_txAWDLDataFrame, List.append_assoc, List.singleton_append,
                  List.map_cons]

end Drain

/-- Whatever the links of other packets, the interface hands out the same chain for a class. -/
def HandsOut (dequeue : Dequeue P) (packets : ServiceClass → List P) : Prop :=
  ∀ c nextpkt, Linked (dequeue c nextpkt).2 (dequeue c nextpkt).1 (packets c)

variable {dequeue : Dequeue P} {packets : ServiceClass → List P} {fuel : Nat}

/-- One class after the other. -/
theorem foldlM_drainClass (succeeds : P → Bool) (hands : HandsOut dequeue packets)
    (distinct : ∀ c, (packets c).Nodup) (enough : ∀ c, (packets c).length ≤ fuel)
    (classes : List ServiceClass) (drain : Drain P) :
    ∃ later, classes.foldlM (drainClass dequeue succeeds fuel) drain = some later ∧
      later.handed = drain.handed ++ (classes.flatMap packets).map (fun m => (m, .next none)) ∧
      later.sent % 4294967296 =
        (drain.sent + (classes.flatMap packets).countP succeeds) % 4294967296 := by
  induction classes generalizing drain with
  | nil => exact ⟨drain, rfl, (List.append_nil _).symm, rfl⟩
  | cons c classes ih =>
      have linked : Linked ({ drain with nextpkt := (dequeue c drain.nextpkt).2 } : Drain P).nextpkt
          (dequeue c drain.nextpkt).1 (packets c) := hands c drain.nextpkt
      obtain ⟨between, walks, handed, sent⟩ :
          ∃ between, drainClass dequeue succeeds fuel drain c = some between ∧
            between.handed = drain.handed ++
              (packets c).map (fun m => (m, NextPkt.next none)) ∧
            between.sent % 4294967296 =
              (drain.sent + (packets c).countP succeeds) % 4294967296 :=
        Drain.walk_linked linked (distinct c) (enough c)
      obtain ⟨later, goesOn, handedLater, sentLater⟩ := ih between
      refine ⟨later, ?_, ?_, ?_⟩
      · rw [List.foldlM_cons, walks]
        exact goesOn
      · rw [handedLater, handed, List.flatMap_cons, List.map_append, List.append_assoc]
      · rw [sentLater, List.flatMap_cons, List.countP_append]
        omega

/-- All packets that the interface hands out are handed over, those of one class before those of
the next and each class in its order, each packet once and unlinked from the others.  No packet is
read after it was handed over. -/
theorem requestPacketTx_drains (hands : HandsOut dequeue packets)
    (distinct : ∀ c, (packets c).Nodup) (enough : ∀ c, (packets c).length ≤ fuel)
    (succeeds : P → Bool) (drain : Drain P) :
    ∃ later, requestPacketTx dequeue succeeds fuel true drain = some later ∧
      later.handed = drain.handed ++
        (serviceClasses.flatMap packets).map (fun m => (m, .next none)) ∧
      later.sent % 4294967296 =
        (serviceClasses.flatMap packets).countP succeeds % 4294967296 := by
  have drains := foldlM_drainClass succeeds hands distinct enough serviceClasses
    { drain with sent := 0 }
  rw [Nat.zero_add] at drains
  exact drains

end

/-- Two packets of video, and nothing else. -/
def twoOfVideo : Dequeue Nat
  | .vi, nextpkt => (some 1, Function.update (Function.update nextpkt 1 (.next (some 2))) 2
      (.next none))
  | _, nextpkt => (none, nextpkt)

theorem requestPacketTx_drains_video : ∃ later,
    requestPacketTx twoOfVideo (fun _ => true) 32 true ⟨fun _ => .freed, [], 0⟩ = some later ∧
      later.handed = [(1, .next none), (2, .next none)] := by
  have hands : HandsOut twoOfVideo fun c => if c = .vi then [1, 2] else [] := by
    intro c nextpkt
    cases c with
    | vi => exact ⟨rfl, some 2, rfl, rfl, none, rfl, rfl⟩
    | _ => rfl
  have distinct : ∀ c : ServiceClass, (if c = .vi then [1, 2] else []).Nodup := by
    intro c
    split <;> decide
  have few : ∀ c : ServiceClass, (if c = .vi then [1, 2] else []).length ≤ 32 := by
    intro c
    split <;> decide
  obtain ⟨later, drains, handed, -⟩ := requestPacketTx_drains hands distinct few (fun _ => true)
    ⟨fun _ => .freed, [], 0⟩
  exact ⟨later, drains, handed⟩

end AirportRtw88
