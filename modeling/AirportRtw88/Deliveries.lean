import AirportRtw88.Receive
import AirportRtw88.Interleave.Trace

/-!
# What reaches the stack

The requests that hand an Ethernet frame to the stack, the functions that make none of them, and
what the functions that deliver a packet ask for when every allocation succeeds.
-/

namespace AirportRtw88

open Interleave Bytes

/-- The Ethernet frame that a request hands to the stack. -/
def Call.delivered : Call → Option Bytes
  | .injectRxFrame _ frame => some frame
  | .injectRxAWDLFrame frame => some frame
  | _ => none

/-- An allocation or a copy succeeded. -/
def Answer.succeeded (answer : Answer) : Prop :=
  answer.code = 0

/-- Other threads leave the state of the connection and the parent alone. -/
structure SameLink (before after : Ieee80211) : Prop where
  state : after.state = before.state
  parent : after.parent = before.parent

theorem SameLink.refl (s : Ieee80211) : SameLink s s :=
  ⟨rfl, rfl⟩

theorem SameLink.trans {first second third : Ieee80211} (early : SameLink first second)
    (late : SameLink second third) : SameLink first third :=
  ⟨late.state.trans early.state, late.parent.trans early.parent⟩

namespace M

/-- The program makes no request that hands a frame to the stack. -/
abbrev Silent {α : Type} (program : M α) : Prop :=
  program.Requests fun call => call.delivered = none

section Silent

open Prog.Requests

theorem perform_silent {call : Call} (other : call.delivered = none) : Silent (perform call) :=
  .bind (.await other) fun _ => .ret ()

theorem succeeds_silent : Silent succeeds :=
  .bind .choose fun _ => .ret _

theorem authenticationCancelled_silent (check : CancelCheck) :
    Silent (authenticationCancelled check) :=
  .bind .fetch fun _ => .bind (perform_silent rfl) fun _ => .ret _

theorem submit_silent (site : TxSite) (skb : TxSkb) : Silent (submit site skb) :=
  .bind (.update _) fun _ => perform_silent rfl

theorem dropMbuf_silent (m : Mbuf) : Silent (dropMbuf m) :=
  .bind (.update _) fun _ => .ret _

theorem allocSkb_silent : Silent allocSkb := by
  refine .bind .fetch fun s => .bind succeeds_silent fun built => .ite ?_ (.ret _)
  exact .bind (.update _) fun _ => .ret _

theorem copies_silent (payload : Bytes) : Silent (copies payload) :=
  .ite (.ret _) succeeds_silent

/-! ### Keys and stations -/

theorem disableKey_silent (pairwise : Bool) : Silent (disableKey pairwise) :=
  .bind .fetch fun _ => .whenSome fun _ => perform_silent rfl

theorem clearKeys_silent : Silent clearKeys := by
  refine .bind .fetch fun s => .bind (.when ?_) fun _ => .update _
  exact .bind (disableKey_silent true) fun _ => disableKey_silent false

theorem installKey_silent (pairwise : Bool) (keyidx : UInt8) (cipher : Nat)
    (tk : Ieee80211 → Bytes) (tkLen : Nat) :
    Silent (installKey pairwise keyidx cipher tk tkLen) := by
  refine .bind .fetch fun s => .ite (.ret _) (.bind (.whenSome fun old => ?_) fun _ => ?_)
  · exact .bind (perform_silent rfl) fun _ => .update _
  · refine .bind succeeds_silent fun allocated => .ite (.ret _) (.bind .fetch fun s => ?_)
    refine .bind (.await rfl) fun answer => .ite (.ret _) ?_
    exact .bind (.update _) fun _ => .ret _

theorem registerSta_silent (aid : Nat) : Silent (registerSta aid) := by
  refine .bind .fetch fun s => .when (.bind succeeds_silent fun allocated => .when ?_)
  exact .bind (.update _) fun _ => perform_silent rfl

/-! ### Transmission -/

theorem txMgmtFrame_silent (site : TxSite) (frame : Bytes) : Silent (txMgmtFrame site frame) := by
  refine .bind .fetch fun s => .ite (.ret _) (.bind succeeds_silent fun built => ?_)
  exact .ite (.ret _) (.bind (submit_silent _ _) fun _ => .ret _)

theorem sendAddbaResponse_silent (tid dialog reqParam baTimeout : Nat) :
    Silent (sendAddbaResponse tid dialog reqParam baTimeout) := by
  refine .bind .fetch fun s => .bind (.update _) fun _ => ?_
  exact .bind (txMgmtFrame_silent _ _) fun _ => .ret _

theorem startTxAggregation_silent : Silent startTxAggregation := by
  refine .bind .fetch fun s => .when (.bind .fetch fun s => .bind (.update _) fun _ => ?_)
  refine .bind (.update _) fun _ => .bind .fetch fun s => ?_
  exact .bind (txMgmtFrame_silent _ _) fun _ => .ret _

theorem txDataFrame_silent (m : Mbuf) : Silent (txDataFrame m) := by
  refine .bind .fetch fun s => .ite (dropMbuf_silent m) (.ite (dropMbuf_silent m) ?_)
  refine .bind succeeds_silent fun built => .ite (dropMbuf_silent m) ?_
  refine .bind allocSkb_silent fun skb => ?_
  cases skb with
  | none => exact dropMbuf_silent m
  | some number =>
      refine .bind (.update _) fun _ => .bind .fetch fun s => .bind (.update _) fun _ => ?_
      refine .bind (copies_silent _) fun copied => ?_
      refine .ite (.bind (.update _) fun _ => dropMbuf_silent m) ?_
      refine .bind (.update _) fun _ => .bind (submit_silent _ _) fun _ => ?_
      exact .bind (.update _) fun _ => .ret _

/-! ### The handshake -/

theorem sendEAPOLKey_silent (step : Nat) (replayCounter : Bytes) (install ack mic : Bool) :
    Silent (sendEAPOLKey step replayCounter install ack mic) := by
  refine .bind .fetch fun s => .bind succeeds_silent fun allocated => .when ?_
  exact .bind (txDataFrame_silent _) fun _ => .ret _

theorem completeHandshake_silent : Silent completeHandshake := by
  refine .bind .fetch fun s => .bind (sendEAPOLKey_silent _ _ _ _ _) fun _ => ?_
  refine .bind (.update _) fun _ => .bind .fetch fun s => ?_
  exact .bind (.when (perform_silent rfl)) fun _ => startTxAggregation_silent

theorem installHandshakeKeys_silent (gtk : Option GtkKde) : Silent (installHandshakeKeys gtk) := by
  refine .bind (installKey_silent _ _ _ _ _) fun installed => .when (.bind .fetch fun s => ?_)
  dsimp only
  split
  · exact completeHandshake_silent
  · exact .bind (installKey_silent _ _ _ _ _) fun _ => .when completeHandshake_silent

theorem eapolMicOk_silent (kck eapol : Bytes) : Silent (eapolMicOk kck eapol) :=
  .ite (.ret _) (.bind succeeds_silent fun _ => .ite (.ret _) (.ret _))

/-- The handshake hands nothing to the stack. -/
theorem handleEAPOL_silent (data : Bytes) : Silent (handleEAPOL data) := by
  refine .when (.ite ?_ (.when ?_))
  · refine .bind .choose fun random => .bind (.update _) fun _ => .bind .fetch fun s => ?_
    exact .bind (sendEAPOLKey_silent _ _ _ _ _) fun _ => .update _
  · refine .bind .fetch fun s => .bind (eapolMicOk_silent _ _) fun verified => ?_
    refine .when (.whenSome fun keyData => .bind (.update _) fun _ => ?_)
    exact installHandshakeKeys_silent _

/-! ### Management frames -/

theorem processScanResult_silent (skb : Skb) : Silent (processScanResult skb) :=
  .bind (.when (.bind succeeds_silent fun _ => .when (.update _))) fun _ => .update _

theorem doAssociate_silent : Silent doAssociate := by
  refine .bind .fetch fun s => .when (.bind (authenticationCancelled_silent _) fun cancelled => ?_)
  refine .when (.bind .fetch fun s => .bind (.update _) fun _ => ?_)
  refine .bind (txMgmtFrame_silent _ _) fun sent => .ite ?_ (.update _)
  refine .bind (authenticationCancelled_silent _) fun cancelled => .bind .fetch fun s => ?_
  exact .when (.update _)

theorem processAssocResponse_silent (skb : Skb) : Silent (processAssocResponse skb) := by
  have notifies : ∀ aid, Silent (notifyAssociation aid) := fun aid =>
    .bind .fetch fun _ => .when (.bind (.update _) fun _ => perform_silent rfl)
  have publishes : Silent publishAssociation := by
    refine .bind .fetch fun s => .ite (.update _) (.bind (.update _) fun _ => ?_)
    refine .bind (.when (perform_silent rfl)) fun _ => .bind .fetch fun s => ?_
    exact .bind (.when startTxAggregation_silent) fun _ => .update _
  refine .bind .fetch fun s => .bind (.update _) fun _ => .whenSome fun fields => ?_
  refine .bind (authenticationCancelled_silent _) fun cancelled => .when (.ite (.update _) ?_)
  refine .bind (.update _) fun _ => .bind (registerSta_silent _) fun _ => ?_
  exact .bind (notifies _) fun _ => publishes

theorem processRxAuth_silent (skb : Skb) : Silent (processRxAuth skb) := by
  refine .bind .fetch fun s => .bind (.when ?_) fun _ => .update _
  refine .bind (authenticationCancelled_silent _) fun cancelled => .bind .fetch fun s => ?_
  exact .when (.whenSome fun status => .ite doAssociate_silent (.update _))

theorem processRxDeauth_silent (skb : Skb) : Silent (processRxDeauth skb) := by
  refine .bind .fetch fun s => .bind (.when ?_) fun _ => .update _
  refine .bind (.update _) fun _ => .bind clearKeys_silent fun _ => .bind (.update _) fun _ => ?_
  exact .bind .fetch fun s => .when (perform_silent rfl)

theorem handleBackAction_silent (b : Bytes) : Silent (handleBackAction b) := by
  refine .ite (.when ?_) (.ite (.when (.update _)) (.when (.ite (.update _) (.update _))))
  refine .bind succeeds_silent fun allocated => .bind (.update _) fun _ => ?_
  exact sendAddbaResponse_silent _ _ _ _

theorem processRxAction_silent (skb : Skb) : Silent (processRxAction skb) := by
  refine .bind .fetch fun s => .bind (.when (perform_silent rfl)) fun _ => .bind .fetch fun s => ?_
  exact .bind (.when (handleBackAction_silent _)) fun _ => .update _

/-- Management frames hand nothing to the stack. -/
theorem processRxMgmt_silent (skb : Skb) : Silent (processRxMgmt skb) := by
  refine .bind .fetch fun s => ?_
  refine .ite (.ite (processScanResult_silent skb) (.update _)) ?_
  refine .ite (processRxAuth_silent skb) (.ite ?_ ?_)
  · exact .bind .fetch fun s => .ite (processAssocResponse_silent skb) (.update _)
  · exact .ite (processRxDeauth_silent skb) (.ite (processRxAction_silent skb) (.update _))

end Silent

/-! ## Delivery -/

/-- A frame that is not an aggregate carries at most one MSDU. -/
theorem carriedMsdus_of_single {frame : Bytes} (single : frame.isAmsdu = false)
    (carries : carriedMsdus frame ≠ []) :
    24 ≤ frame.length ∧ carriedMsdus frame = [singleMsdu frame] := by
  unfold carriedMsdus at carries ⊢
  have header : 24 ≤ frame.hdrLen := by
    unfold Bytes.hdrLen
    dsimp only
    omega
  simp only [single, Bool.false_eq_true, if_false] at carries ⊢
  split at carries
  · exact absurd rfl carries
  split at carries
  · exact absurd rfl carries
  · rename_i whole long
    exact ⟨by omega, by rw [if_neg whole, if_neg long]⟩

/-- What a packet for the stack is filled with, if every allocation and copy succeeds. -/
theorem fillInputPacket_traces (frame payload : Bytes) (s : Ieee80211) :
    (fillInputPacket frame payload).Traces SameLink Answer.succeeded s fun trace filled later =>
      trace = [.allocateInputPacket frame.length] ∧ filled = true ∧ SameLink s later := by
  unfold fillInputPacket copies succeeds
  simp only [Prog.bind_eq_bind, Prog.pure_eq_ret, Prog.traces_bind, Prog.traces_await,
    Prog.traces_ite, Prog.traces_choose, Prog.traces_ret]
  intro answer later granted same
  have succeeded : ∀ {answer : Answer}, answer.succeeded → (!decide (answer.code = 0)) = false :=
    fun granted => by simpa [Answer.succeeded] using granted
  refine ⟨fun failed => absurd granted failed, fun _ answer granted => ?_⟩
  refine ⟨fun failed => absurd failed (by simp [succeeded granted]), fun _ => ?_⟩
  refine ⟨fun _ => ⟨by rintro ⟨⟩, fun _ => ⟨rfl, trivial, same⟩⟩, fun _ answer granted => ?_⟩
  refine ⟨fun failed => absurd failed (by simp [succeeded granted]), fun _ => ?_⟩
  exact ⟨rfl, trivial, same⟩

/-- With a parent and successful allocations, a packet is filled and handed over. -/
theorem handOver_traces (call : Call) (frame payload : Bytes) {s : Ieee80211}
    (parent : s.parent = true) :
    (do
      let s ← Prog.fetch
      Prog.when s.parent do
        let filled ← fillInputPacket frame payload
        Prog.when filled (perform call) : M Unit).Traces SameLink Answer.succeeded s
      fun trace _ later =>
        trace = [.allocateInputPacket frame.length, call] ∧ SameLink s later := by
  unfold perform
  simp only [Prog.bind_eq_bind, Prog.pure_eq_ret, Prog.traces_bind, Prog.traces_fetch,
    Prog.traces_when, Prog.traces_await, Prog.traces_ret]
  refine ⟨fun _ => (fillInputPacket_traces _ _ s).mono ?_, fun absent => ?_⟩
  · rintro _ _ later ⟨rfl, rfl, same⟩
    exact ⟨fun _ answer after _ still => ⟨rfl, same.trans still⟩, by rintro ⟨⟩⟩
  · exact absurd parent (by simp [absent])

theorem deliverEthernet_traces (skb : Skb) (msdu : Msdu) {s : Ieee80211}
    (parent : s.parent = true) :
    (deliverEthernet skb msdu).Traces SameLink Answer.succeeded s fun trace _ later =>
      trace = [.allocateInputPacket msdu.frame.length, .injectRxFrame skb msdu.frame] ∧
        SameLink s later :=
  handOver_traces _ _ _ parent

theorem deliverAWDLEthernet_traces (msdu : Msdu) {s : Ieee80211} (parent : s.parent = true) :
    (deliverAWDLEthernet msdu).Traces SameLink Answer.succeeded s fun trace _ later =>
      trace = [.allocateInputPacket msdu.frame.length, .injectRxAWDLFrame msdu.frame] ∧
        SameLink s later :=
  handOver_traces _ _ _ parent

end M

end AirportRtw88
