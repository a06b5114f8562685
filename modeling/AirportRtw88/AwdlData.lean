import AirportRtw88.Deliveries
import AirportRtw88.HeaderFields

/-!
# AWDL data frames

`txAWDLDataFrame` wraps an Ethernet frame in a data frame without a distribution system, and
`tryDeliverAWDLDataFrame` unwraps it.  Every frame that is sent is delivered as the Ethernet frame
that it was built from, and only frames of the AWDL network are delivered in this way.
-/

namespace AirportRtw88

open Interleave Bytes

/-- The frame is of the AWDL network: its BSSID, and no distribution system. -/
def Bytes.IsOfAwdl (frame : Bytes) : Prop :=
  frame.frameControl &&& (fctlToDS ||| fctlFromDS) = 0 ∧ frame.addr3 = awdlBssid

/-- The part of `rxFrame` that handles a frame of the AWDL network. -/
def M.consumeAwdl (skb : Skb) (msdu : Msdu) : M Unit := do
  Prog.update fun s => s.countRx skb
  deliverAWDLEthernet msdu
  Prog.update fun s => s.kfreeSkb skb

/-- `rxFrame` delivers the MSDU as AWDL data, and does nothing else with the frame. -/
structure Skb.ReturnsAs (skb : Skb) (msdu : Msdu) : Prop where
  consumed : M.rxFrame skb = M.consumeAwdl skb msdu
  delivered : ∀ s : Ieee80211, s.parent = true →
    (M.rxFrame skb).Traces SameLink Answer.succeeded s fun trace _ _ =>
      trace = [.allocateInputPacket msdu.frame.length, .injectRxAWDLFrame msdu.frame]

/-- No run of `rxFrame` delivers the frame as AWDL data. -/
def Skb.NeverAwdl (skb : Skb) : Prop :=
  ∀ s, (M.rxFrame skb).Traces (fun _ _ => True) (fun _ => True) s fun trace _ _ =>
    ∀ frame, .injectRxAWDLFrame frame ∉ trace

/-- An Ethernet frame that `txAWDLDataFrame` takes. -/
structure AwdlPacket where
  frame : Bytes
  whole : 14 ≤ frame.length
  fits : frame.length ≤ 4096

namespace AwdlPacket

variable (p : AwdlPacket)

/-- What the Ethernet frame says. -/
def msdu : Msdu where
  da := p.frame.take 6
  sa := p.frame.slice 6 6
  ethertype := p.frame.be16At 12
  payload := p.frame.drop 14

/-- The Ethernet frame is built again from its parts. -/
theorem frame_msdu : p.msdu.frame = p.frame := by
  have whole := p.whole
  have parts : p.frame = p.frame.take 6 ++ (p.frame.slice 6 6 ++ (p.frame.slice 12 2 ++
      p.frame.drop 14)) := by
    have last : p.frame.drop 12 = p.frame.slice 12 2 ++ p.frame.drop 14 := by
      rw [slice, ← List.drop_drop (i := 2) (j := 12), List.take_append_drop]
    have middle : p.frame.drop 6 = p.frame.slice 6 6 ++ p.frame.drop 12 := by
      rw [slice, ← List.drop_drop (i := 6) (j := 6), List.take_append_drop]
    rw [← last, ← middle, List.take_append_drop]
  rw [Msdu.frame, msdu, be16_be16At (by omega), List.append_assoc, List.append_assoc]
  exact parts.symm

/-- The packet is sent, if nothing fails, and only in frames that come back as the packet. -/
structure RoundTrips (p : AwdlPacket) (m : Mbuf) : Prop where
  sends : ∀ s : Ieee80211, s.hasOp Ops.tx = true → s.vif.isSome = true →
    (M.txAWDLDataFrame m).Traces (fun _ _ => True) Answer.succeeded s fun trace sent _ =>
      sent = true ∧ ∃ skb, trace = [.tx .awdl skb]
  returns : ∀ s, (M.txAWDLDataFrame m).Traces (fun _ _ => True) (fun _ => True) s fun trace _ _ =>
    ∀ call ∈ trace, ∃ sent, call = .tx .awdl sent ∧
      ∀ skb : Skb, skb.data = sent.data → skb.ReturnsAs p.msdu

/-! ## The frame that is sent -/

/-- The header of the frame. -/
def header (seq : Nat) : MacHeader where
  fc := ftypeData
  duration := 0
  addr1 := p.frame.take 6
  addr2 := p.frame.slice 6 6
  addr3 := awdlBssid
  seqCtrl := seq % 4096 * 16
  fc_lt := by decide
  seqCtrl_lt := by omega
  length_addr1 := by
    have whole := p.whole
    simp only [List.length_take]
    omega
  length_addr2 := by
    have whole := p.whole
    exact length_slice (by omega)
  length_addr3 := rfl

/-- The frame, behind its header. -/
def sealed (awdlSeq : Nat) : Bytes :=
  awdlHeader awdlSeq p.msdu.ethertype ++ p.msdu.payload

variable (seq awdlSeq : Nat)

theorem hdrLen_sent : hdrLen ((p.header seq).bytes ++ p.sealed awdlSeq) = 24 := by
  have fc : (p.header seq).fc = ftypeData := rfl
  rw [hdrLen, MacHeader.frameControl_append, fc]
  decide

theorem isAwdlData_sent : M.isAwdlData ((p.header seq).bytes ++ p.sealed awdlSeq) = true := by
  have long : 40 ≤ ((p.header seq).bytes ++ p.sealed awdlSeq).length := by
    simp [sealed, awdlHeader, le16, be16]
    omega
  have direct : (p.header seq).fc &&& (fctlToDS ||| fctlFromDS) = 0 := by
    rw [show (p.header seq).fc = ftypeData from rfl]
    decide
  have magic : slice ((p.header seq).bytes ++ p.sealed awdlSeq) 24 10 = M.awdlMagic := by
    rw [slice, MacHeader.drop_append _ _ 0]
    rfl
  unfold M.isAwdlData
  rw [hdrLen_sent, magic, MacHeader.frameControl_append, MacHeader.addr3_append]
  exact decide_eq_true ⟨long, direct, rfl, long, rfl⟩

/-- The frame is unwrapped to the packet. -/
theorem unwrapped_sent :
    let frame : Bytes := (p.header seq).bytes ++ p.sealed awdlSeq
    let rest : Bytes := frame.drop (frame.hdrLen + 8)
    (⟨frame.addr1, frame.addr2, rest.be16At 6, rest.drop 8⟩ : Msdu) = p.msdu := by
  have small : p.msdu.ethertype < 65536 := be16At_lt _ _
  have word := be16At_be16 ([0x03, 0x04] ++ le16 awdlSeq ++ [0, 0]) p.msdu.payload _ small
  dsimp only
  rw [hdrLen_sent, MacHeader.drop_append, MacHeader.addr1_append, MacHeader.addr2_append]
  have behind : (p.sealed awdlSeq).drop 8 = [0x03, 0x04] ++ le16 awdlSeq ++ [0, 0] ++
      (be16 p.msdu.ethertype ++ p.msdu.payload) := rfl
  rw [behind]
  exact Msdu.mk.injEq .. |>.mpr ⟨rfl, rfl, word, rfl⟩

/-- A frame that was sent is consumed as the packet. -/
theorem returnsAs_sent {skb : Skb} (same : skb.data = (p.header seq).bytes ++ p.sealed awdlSeq) :
    skb.ReturnsAs p.msdu := by
  have fc : skb.data.frameControl = ftypeData := by
    rw [same, MacHeader.frameControl_append]
    rfl
  have long : ¬ skb.data.length < 24 := by
    rw [same, List.length_append, MacHeader.length_bytes]
    omega
  have isData : skb.data.isData = true := by
    rw [Bytes.isData, fc]
    decide
  have notMgmt : ¬ skb.data.isMgmt = true := by
    rw [Bytes.isMgmt, fc]
    decide
  have awdl : M.isAwdlData skb.data = true := by
    rw [same]
    exact p.isAwdlData_sent seq awdlSeq
  have unwrapped := p.unwrapped_sent seq awdlSeq
  rw [← same] at unwrapped
  dsimp only at unwrapped
  have consumed : M.rxFrame skb = M.consumeAwdl skb p.msdu := by
    unfold M.rxFrame M.tryDeliverAWDLDataFrame
    rw [if_neg long, if_neg notMgmt, if_pos isData, if_pos awdl]
    dsimp only
    rw [unwrapped]
    simp only [Prog.bind_eq_bind, Prog.bind_assoc]
    rfl
  refine ⟨consumed, fun s parent => ?_⟩
  rw [consumed, M.consumeAwdl]
  simp only [Prog.bind_eq_bind, Prog.traces_bind, Prog.traces_update]
  refine (M.deliverAWDLEthernet_traces p.msdu (s := s.countRx skb) parent).mono ?_
  rintro _ _ _ ⟨rfl, _⟩
  rfl

/-- What `txAWDLDataFrame` hands to the driver. -/
def skb (s : Ieee80211) : TxSkb where
  data := (p.header s.txSeq).bytes ++ p.sealed s.awdlDataSeq
  protocol := p.msdu.ethertype
  queueMapping := acBe
  flags := txCtlFirstFragment
  band := if s.tunedTo5g then 1 else 0
  hasSta := false
  hwKey := none

theorem data_skb (s : Ieee80211) :
    header3addr ftypeData ((p.frame.take 14).take 6) (Bytes.slice (p.frame.take 14) 6 6)
        awdlBssid (s.txSeq % 4096 * 16) ++
      awdlHeader s.awdlDataSeq (Bytes.be16At (p.frame.take 14) 12) ++ p.frame.drop 14 =
    (p.skb s).data := by
  have header := (p.header s.txSeq).bytes_eq_header3addr rfl
  rw [List.take_take, Nat.min_eq_left (by omega), Bytes.slice_take (by omega),
    Bytes.be16At_take (by omega), List.append_assoc, skb, header]
  rfl

/-- The packet is sent as one frame, or nothing is sent; it is sent if nothing fails. -/
theorem txAWDLDataFrame_traces (id : Nat) (s : Ieee80211) {rely : Ieee80211 → Ieee80211 → Prop}
    {grants : Answer → Prop} :
    (M.txAWDLDataFrame ⟨id, p.frame⟩).Traces rely grants s fun trace sent _ =>
      (sent = true ∧ trace = [.tx .awdl (p.skb s)]) ∨ (sent = false ∧ trace = [] ∧
        ((∀ answer, grants answer → answer.succeeded) → s.hasOp Ops.tx = true →
          s.vif.isNone = true)) := by
  have sized : ¬ (p.frame.length < 14 ∨ p.frame.length > 4096) := by
    have whole := p.whole
    have fits := p.fits
    omega
  have built := p.data_skb s
  have protocol : Bytes.be16At (p.frame.take 14) 12 = p.msdu.ethertype :=
    Bytes.be16At_take (by omega)
  unfold M.txAWDLDataFrame M.dropMbuf M.allocSkb M.copies M.succeeds M.submit M.perform
  simp only [Prog.bind_eq_bind, Prog.pure_eq_ret, Prog.traces_bind, Prog.traces_fetch,
    Prog.traces_ite, Prog.traces_update, Prog.traces_choose, Prog.traces_await, Prog.traces_ret,
    List.nil_append, List.append_nil, if_neg sized]
  have refuses : ∀ {answer : Answer}, grants answer → ¬ answer.code = 0 →
      ((∀ answer, grants answer → answer.succeeded) → s.hasOp Ops.tx = true →
        s.vif.isNone = true) :=
    fun granted failed succeeds => absurd (succeeds _ granted) failed
  constructor
  · intro unable
    exact .inr ⟨trivial, trivial, fun _ hasTx => by simpa [hasTx] using unable⟩
  intro able answer granted
  constructor
  · intro failed
    exact .inr ⟨trivial, trivial, refuses granted (by simpa using failed)⟩
  intro _ answer granted
  constructor
  · intro _
    constructor
    · intro empty
      exact ⟨by rintro ⟨⟩, fun _ _ _ _ _ => .inl ⟨trivial, by rw [built, protocol]; rfl⟩⟩
    · intro _ answer granted
      constructor
      · intro failed
        exact .inr ⟨trivial, trivial, refuses granted (by simpa using failed)⟩
      · intro _ answer later _ _
        exact .inl ⟨trivial, by rw [built, protocol]; rfl⟩
  · intro failed
    exact .inr ⟨trivial, trivial, refuses granted (by simpa using failed)⟩

theorem roundTrips (id : Nat) : p.RoundTrips ⟨id, p.frame⟩ := by
  refine ⟨fun s hasTx hasVif => ?_, fun s => ?_⟩
  · refine (p.txAWDLDataFrame_traces id s).mono ?_
    rintro trace sent _ (⟨rfl, rfl⟩ | ⟨-, -, unable⟩)
    · exact ⟨rfl, _, rfl⟩
    · have absent := unable (fun _ granted => granted) hasTx
      simp [Option.isNone_iff_eq_none.mp absent] at hasVif
  · refine (p.txAWDLDataFrame_traces id s).mono ?_
    rintro trace sent _ (⟨rfl, rfl⟩ | ⟨-, rfl, -⟩) call member
    · refine ⟨_, List.mem_singleton.mp member, fun skb same => ?_⟩
      exact p.returnsAs_sent _ _ same
    · cases member

end AwdlPacket

/-! ## Frames of other networks -/

namespace M

/-- The program delivers nothing as AWDL data. -/
abbrev Infrastructure {α : Type} (program : M α) : Prop :=
  program.Requests fun call => ∀ frame, call ≠ .injectRxAWDLFrame frame

theorem Silent.infrastructure {α : Type} {program : M α} (silent : Silent program) :
    Infrastructure program := by
  refine Prog.Requests.mono silent ?_
  rintro _ delivers frame rfl
  cases delivers

section Infrastructure

open Prog.Requests

theorem deliverEthernet_infrastructure (skb : Skb) (msdu : Msdu) :
    Infrastructure (deliverEthernet skb msdu) := by
  have fills : Silent (fillInputPacket msdu.frame msdu.payload) := by
    refine .bind (.await rfl) fun answer => .ite (.ret _) (.bind succeeds_silent fun _ => ?_)
    refine .ite (dropMbuf_silent _) (.bind (copies_silent _) fun copied => ?_)
    exact .ite (dropMbuf_silent _) (.ret _)
  refine .bind .fetch fun s => .when (.bind (Silent.infrastructure fills) fun filled => ?_)
  exact .when (.bind (.await nofun) fun _ => .ret _)

theorem deliverDataFrame_infrastructure (skb : Skb) : Infrastructure (deliverDataFrame skb) := by
  have single : Infrastructure (deliverMsdu skb) := by
    refine .bind (.when (.update _)) fun _ => .bind .fetch fun s => .ite ?_ ?_
    · exact Silent.infrastructure (handleEAPOL_silent (skb.data.llc.drop 8))
    · exact deliverEthernet_infrastructure skb (singleMsdu skb.data)
  refine .bind (.bind (.await nofun) fun _ => .ret _) fun _ => .ite ?_ ?_
  · exact .bind (.forEach fun msdu => deliverEthernet_infrastructure _ _) fun _ => .update _
  · exact .bind (.when single) fun _ => .update _

theorem processRxData_infrastructure (skb : Skb) : Infrastructure (processRxData skb) := by
  have releases : ∀ outcome, Infrastructure (deliverReleased outcome) := fun outcome =>
    .bind (.forEach deliverDataFrame_infrastructure) fun _ => .when (.update _)
  refine .bind .fetch fun s => .ite (.update _) ?_
  split
  · exact .bind .fetch fun s => .bind (.update _) fun _ => releases _
  · exact deliverDataFrame_infrastructure skb

/-- A frame of another network takes the path of the infrastructure. -/
theorem rxFrame_infrastructure {skb : Skb} (foreign : ¬ skb.data.IsOfAwdl) :
    Infrastructure (rxFrame skb) := by
  have refused : ¬ isAwdlData skb.data = true := by
    intro awdl
    have fields := of_decide_eq_true awdl
    exact foreign ⟨fields.2.1, fields.2.2.1⟩
  refine .ite (.update _) (.bind (.update _) fun _ => .ite ?_ (.ite ?_ (.update _)))
  · exact Silent.infrastructure (processRxMgmt_silent skb)
  · unfold tryDeliverAWDLDataFrame
    rw [if_neg refused]
    exact .bind (.ret false) fun _ => .when (processRxData_infrastructure skb)

end Infrastructure

end M

/-- Whatever `txAWDLDataFrame` sends for an Ethernet frame is delivered as that frame, by the path
of AWDL data only, and a frame of another network never takes that path. -/
theorem awdlData_roundTrip :
    (∀ (p : AwdlPacket) (id : Nat), p.RoundTrips ⟨id, p.frame⟩) ∧
      ∀ skb : Skb, ¬ skb.data.IsOfAwdl → skb.NeverAwdl := by
  refine ⟨fun p id => p.roundTrips id, fun skb foreign s => ?_⟩
  refine ((M.rxFrame_infrastructure foreign).traces s).mono ?_
  exact fun _ _ _ kept frame member => kept _ member frame rfl

end AirportRtw88
