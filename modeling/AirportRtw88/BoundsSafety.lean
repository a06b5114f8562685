import AirportRtw88.CheckedReceive

/-!
# Bounds safety

Every checked function takes the steps of the function that it checks, as long as the frames in
the reorder buffers are short enough for 32-bit lengths.
-/

namespace AirportRtw88

open Interleave Bytes

/-- A frame that the reorder buffers may hold. -/
structure Skb.Sound (skb : Skb) : Prop where
  long : 24 ≤ skb.data.length
  fits : skb.Fits

/-- The frames in the slots can be delivered. -/
def Ieee80211.HoldsSound (s : Ieee80211) : Prop :=
  ∀ skb ∈ s.rxBa.held, skb.Sound

namespace Checked

open Attempt (Agrees)

/-- The checked function takes the steps of the function. -/
abbrev Checks {α : Type} (checked : CheckedM α) (program : M α) : Prop :=
  Agrees Ieee80211.HoldsSound checked program

theorem holdsSound_of_le {before after : Ieee80211} (fewer : after.rxBa.held ≤ before.rxBa.held)
    (sound : before.HoldsSound) : after.HoldsSound :=
  fun skb member => sound skb (Multiset.mem_of_le fewer member)

theorem checks_lift {α : Type} {program : M α} (leaves : M.LeavesSkbs program) :
    Checks (Attempt.lift program) program :=
  .lift leaves fun _ _ kept => holdsSound_of_le kept.held

theorem checks_update {change : Ieee80211 → Ieee80211}
    (kept : ∀ s : Ieee80211, s.KeepsSkbs (change s)) :
    Checks (Attempt.update change) (Prog.update change) :=
  checks_lift (.update kept)

theorem checks_change {attempt : Ieee80211 → Option Ieee80211} {change : Ieee80211 → Ieee80211}
    (succeeds : ∀ s, attempt s = some (change s)) (kept : ∀ s : Ieee80211, s.KeepsSkbs (change s)) :
    Checks (Attempt.change attempt) (Prog.update change) :=
  .change (fun s _ => succeeds s) fun s => holdsSound_of_le (kept s).held

theorem checks_kfreeSkb (skb : Skb) :
    Checks (Attempt.update fun s => s.kfreeSkb skb) (Prog.update fun s => s.kfreeSkb skb) :=
  .update fun _ sound => sound

/-! ## The handshake -/

section Handshake

variable {data : Bytes}

theorem handleM1_checks (long : 99 ≤ data.length) : Checks (handleM1 data) (M.handleM1 data) := by
  unfold handleM1
  refine .result (copy_eq (by omega)) (.result (copy_eq (by omega)) ?_)
  exact checks_lift (M.handleM1_leavesSkbs data)

theorem handleM3_checks (long : 99 ≤ data.eapolLength) (bound : data.eapolLength ≤ data.length) :
    Checks (handleM3 data data.keyInfo data.keyDataLen) (M.handleM3 data) := by
  unfold handleM3 M.handleM3
  refine .result (readBe16_eq (by omega)) (.fetch fun s _ => ?_)
  refine .result (eapolMicInput_eq long bound) ?_
  refine .bind (checks_lift (M.eapolMicOk_leavesSkbs _ _)) fun verified => .when fun fits => ?_
  have room : 99 + data.keyDataLen ≤ data.eapolLength := by
    simp only [Bool.and_eq_true, decide_eq_true_eq] at fits
    exact fits.2
  refine .result (handshakeGtk_eq s.kek (by omega)) (.result (copy_eq (by omega)) ?_)
  cases plainKeyData s.kek data with
  | none => exact .pure ()
  | some keyData =>
      refine .bind (checks_update fun _ => ⟨rfl, le_rfl⟩) fun _ => ?_
      exact checks_lift (M.installHandshakeKeys_leavesSkbs _)

theorem handleEAPOL_checks (data : Bytes) :
    Checks (handleEAPOL data data.length) (M.handleEAPOL data) := by
  unfold handleEAPOL M.handleEAPOL
  refine .result (isEapolKey_eq data) (.when fun isKey => ?_)
  simp only [Bytes.isEapolKey, decide_eq_true_eq] at isKey
  obtain ⟨long, -, bound, whole⟩ := isKey
  refine .result (readBe16_eq (by omega)) (.result (readBe16_eq (by omega)) ?_)
  exact .ite (fun _ => handleM1_checks long) fun _ => .when fun _ => handleM3_checks whole bound

end Handshake

/-! ## Data frames -/

section Data

variable {skb : Skb}

theorem deliverMsdu_checks (small : skb.data.length < 4294967296)
    (room : skb.data.hdrLen + 8 ≤ skb.data.length) :
    Checks (deliverMsdu skb skb.data.hdrLen) (M.deliverMsdu skb) := by
  have inside := payloadOffset_le room
  unfold deliverMsdu M.deliverMsdu
  refine .result (carriesCcmpIv_eq room) ?_
  refine .bind (.when fun _ => checks_update fun _ => ⟨rfl, le_rfl⟩) fun _ => ?_
  refine .result (llcEthertype_eq inside) (.fetch fun s _ => .ite (fun _ => ?_) fun _ => ?_)
  · have eapol := handleEAPOL_checks (skb.data.llc.drop 8)
    have length : (skb.data.llc.drop 8).length =
        sub32 skb.data.length (skb.data.payloadOffset + 8) := by
      rw [sub32_eq inside small, Bytes.llc, List.drop_drop, List.length_drop]
    have pointer : skb.data.llc.drop 8 = skb.data.drop (skb.data.payloadOffset + 8) :=
      List.drop_drop ..
    rw [length, pointer] at eapol
    rw [pointer]
    exact eapol
  · exact .result (singleMsdu_eq room small) (checks_lift (M.deliverEthernet_leavesSkbs skb _))

theorem deliverAmsdu_checks (short : skb.Short) (long : 24 ≤ skb.data.length)
    (amsdu : skb.data.isAmsdu = true) (whole : skb.data.hdrLen ≤ skb.data.length) :
    Checks (deliverAmsdu skb skb.data.hdrLen)
      (Prog.forEach (carriedMsdus skb.data) (M.deliverEthernet skb)) := by
  have small : skb.data.length + 65536 ≤ 4294967296 := short
  refine .result (hasProtected_eq long) ?_
  unfold carriedMsdus
  rw [if_neg (Nat.not_lt.mpr whole), if_pos amsdu]
  by_cases room : skb.data.amsduOffset ≤ skb.data.length
  · have length : sub32 skb.data.length skb.data.amsduOffset =
        (skb.data.drop skb.data.amsduOffset).length := by
      rw [sub32_eq room (by omega), List.length_drop]
    have shorter : (skb.data.drop skb.data.amsduOffset).length + 65536 ≤ 4294967296 := by
      simp only [List.length_drop]
      omega
    have split := deAmsdu_eq shorter (skb.data.length + 1) (Nat.zero_le _)
    rw [← length, List.drop_zero] at split
    rw [if_neg (Nat.not_lt.mpr room)]
    refine .enter (decide_eq_true room) (.result split (.forEach fun msdu _ => ?_))
    exact checks_lift (M.deliverEthernet_leavesSkbs skb msdu)
  · rw [if_pos (Nat.not_le.mp room)]
    exact .skip (decide_eq_false room)

theorem deliverDataFrame_checks (sound : skb.Sound) :
    Checks (deliverDataFrame skb) (M.deliverDataFrame skb) := by
  obtain ⟨long, small, short⟩ := sound
  unfold deliverDataFrame M.deliverDataFrame
  refine .bind (checks_lift (M.perform_keeps _)) fun _ => .result (hdrLen_eq long) ?_
  cases amsdu : skb.data.isAmsdu with
  | true =>
      refine .bind ?_ fun _ => checks_kfreeSkb skb
      by_cases whole : skb.data.hdrLen ≤ skb.data.length
      · refine .enter (decide_eq_true whole) (.result (isAmsdu_eq long whole) ?_)
        rw [amsdu]
        exact deliverAmsdu_checks (short amsdu) long amsdu whole
      · have none : carriedMsdus skb.data = [] := if_pos (by omega)
        rw [none]
        exact .skip (decide_eq_false whole)
  | false =>
      refine .bind ?_ fun _ => checks_kfreeSkb skb
      by_cases room : skb.data.hdrLen + 8 ≤ skb.data.length
      · have whole : skb.data.hdrLen ≤ skb.data.length := by omega
        have single : carriedMsdus skb.data = [AirportRtw88.singleMsdu skb.data] := by
          unfold carriedMsdus
          rw [amsdu, if_neg (Nat.not_lt.mpr whole), if_neg Bool.false_ne_true,
            if_neg (Nat.not_lt.mpr room)]
        rw [single]
        refine .enter (decide_eq_true whole) (.result (isAmsdu_eq long whole) ?_)
        rw [amsdu]
        exact .enter (decide_eq_true room) (deliverMsdu_checks small room)
      · have none : carriedMsdus skb.data = [] := by
          unfold carriedMsdus
          rw [amsdu, if_neg Bool.false_ne_true, if_pos (Nat.not_le.mp room), ite_self]
        rw [none]
        by_cases whole : skb.data.hdrLen ≤ skb.data.length
        · refine .enter (decide_eq_true whole) (.result (isAmsdu_eq long whole) ?_)
          rw [amsdu]
          exact .skip (decide_eq_false room)
        · exact .skip (decide_eq_false whole)

theorem deliverReleased_checks {outcome : RxBaOutcome Skb}
    (sound : ∀ skb ∈ outcome.out, skb.Sound) :
    Checks (deliverReleased outcome) (M.deliverReleased outcome) := by
  refine .bind (.forEach fun skb member => deliverDataFrame_checks (sound skb member)) fun _ => ?_
  exact .when fun _ => checks_update fun _ => ⟨rfl, le_rfl⟩

/-- What a critical section puts out, and what it leaves in the slots, was in a slot or in hand. -/
theorem critical_checks {attempt : Ieee80211 → Option (RxBaOutcome Skb)}
    {outcome : Ieee80211 → RxBaOutcome Skb} {arrived : Multiset Skb}
    (succeeds : ∀ s, attempt s = some (outcome s))
    (contents : ∀ s : Ieee80211, (outcome s).contents = arrived + s.rxBa.held)
    (sound : ∀ skb ∈ arrived, skb.Sound) :
    Checks (do
      let s ← Attempt.fetch
      let outcome ← attempt s
      Attempt.update fun s => s.leaveRxBa outcome
      deliverReleased outcome)
      (Prog.fetch.bind fun s => (Prog.update fun now => now.leaveRxBa (outcome s)).bind fun _ =>
        M.deliverReleased (outcome s)) := by
  refine .fetch fun s held => .result (succeeds s) ?_
  have all : ∀ skb ∈ (outcome s).contents, skb.Sound := by
    intro skb member
    rw [contents] at member
    exact (Multiset.mem_add.mp member).elim (sound skb) (held skb)
  have kept : ∀ now : Ieee80211, (now.leaveRxBa (outcome s)).HoldsSound :=
    fun now skb member => all skb (Multiset.mem_add.mpr (.inr member))
  refine .bind (.update fun now _ => kept now) fun _ => deliverReleased_checks fun skb member => ?_
  exact all skb (Multiset.mem_add.mpr (.inl (Multiset.mem_add.mpr (.inl member))))

theorem enterReorder_checks (sound : skb.Sound) (tid : Fin kRxBaNumTid) (sn : Nat) :
    Checks (enterReorder tid skb sn) (M.rxReorderInput tid skb sn) := by
  refine critical_checks (fun s => rxReorderInput_eq s.rxBa tid skb sn)
    (fun s => contents_rxReorderInput s.rxBa tid skb sn) fun other member => ?_
  rwa [Multiset.mem_singleton.mp member]

theorem flushReorder_checks : Checks flushReorder M.rxReorderFlushStale :=
  critical_checks (fun s => rxReorderFlushStale_eq s.rxBa)
    (fun s => (contents_rxReorderFlushStale s.rxBa).trans (zero_add _).symm)
    fun _ member => absurd member (Multiset.notMem_zero _)

theorem processRxData_checks (sound : skb.Sound) :
    Checks (processRxData skb) (M.processRxData skb) := by
  have long := sound.long
  unfold processRxData M.processRxData
  refine .fetch fun s _ => .result (fromOurAp_eq s long) ?_
  refine .ite (fun _ => checks_kfreeSkb skb) fun _ => .result (reorderTid_eq s long) ?_
  cases s.reorderTid skb.data with
  | some tid => exact .result (readLe16_eq (by omega)) (enterReorder_checks sound tid _)
  | none => exact deliverDataFrame_checks sound

end Data

/-! ## Management frames -/

section Management

variable {skb : Skb}

theorem processScanResult_checks :
    Checks (processScanResult skb) (M.processScanResult skb) := by
  unfold processScanResult M.processScanResult
  refine .bind (.when fun whole => ?_) fun _ => checks_kfreeSkb skb
  have long : 36 ≤ skb.data.length := by simpa using whole
  refine .bind (checks_lift M.succeeds_keeps) fun allocated => .when fun _ => ?_
  refine checks_change (fun s => ?_) fun s => ⟨rfl, le_rfl⟩
  rw [beaconBss_eq skb _ long]
  rfl

theorem processRxAuth_checks : Checks (processRxAuth skb) (M.processRxAuth skb) := by
  unfold processRxAuth M.processRxAuth
  refine .fetch fun s _ => .bind (.when fun _ => ?_) fun _ => checks_kfreeSkb skb
  refine .bind (checks_lift (M.authenticationCancelled_keeps _)) fun cancelled => ?_
  refine .fetch fun s _ => .when fun _ => .result (rtw88AuthResponse_eq _ _ _) ?_
  refine .whenSome fun status _ => .ite (fun _ => ?_) fun _ => ?_
  · exact checks_lift M.doAssociate_leavesSkbs
  · exact checks_update fun _ => ⟨rfl, le_rfl⟩

theorem processAssocResponse_checks :
    Checks (processAssocResponse skb) (M.processAssocResponse skb) := by
  unfold processAssocResponse M.processAssocResponse
  refine .fetch fun s _ => .result (rtw88AssocResponse_eq _ _ _) ?_
  refine .bind (checks_kfreeSkb skb) fun _ => .whenSome fun fields _ => ?_
  exact checks_lift (M.joins_leavesSkbs fields)

theorem processRxAssoc_checks : Checks (processRxAssoc skb) (M.processRxAssoc skb) :=
  .fetch fun _ _ => .ite (fun _ => processAssocResponse_checks) fun _ => checks_kfreeSkb skb

theorem processRxDeauth_checks (long : 24 ≤ skb.data.length) :
    Checks (processRxDeauth skb) (M.processRxDeauth skb) := by
  unfold processRxDeauth M.processRxDeauth
  refine .fetch fun s _ => .result (obeysDeauth_eq s long) ?_
  refine .bind (.when fun _ => .result deauthReason_eq ?_) fun _ => checks_kfreeSkb skb
  refine .bind (checks_update fun _ => ⟨rfl, le_rfl⟩) fun _ => ?_
  refine .bind (checks_lift M.clearKeys_leavesSkbs) fun _ => .bind ?_ fun _ => ?_
  · refine checks_change (fun s => ?_) fun s => ?_
    · rw [rxBaTeardownAll_eq]
      rfl
    · obtain ⟨received, held⟩ :=
        Ieee80211.keepsSkbs_rxBaTeardownAll { s with txBaActive := false }
      exact ⟨received, held⟩
  · exact .fetch fun s _ => .when fun _ => checks_lift (M.perform_keeps _)

theorem handleBackAction_checks {b : Bytes} (long : 2 ≤ b.length) :
    Checks (handleBackAction b b.length) (M.handleBackAction b) := by
  unfold handleBackAction M.handleBackAction
  refine .result (read_eq (by omega)) (.ite (fun _ => .when fun whole => ?_) fun _ => ?_)
  · have nine : 9 ≤ b.length := by simpa using whole
    refine .result (read_eq (by omega)) (.result (readLe16_eq (by omega)) ?_)
    refine .result (readLe16_eq (by omega)) (.result (readLe16_eq (by omega)) ?_)
    refine .bind (checks_lift M.succeeds_keeps) fun allocated => ?_
    refine .bind (checks_update fun s => ?_) fun _ => ?_
    · exact Ieee80211.keepsSkbs_of_out (out_rxBaSetup _ _ _ _ _) (contents_rxBaSetup _ _ _ _ _)
    · exact checks_lift (M.sendAddbaResponse_leavesSkbs _ _ _ _)
  refine .ite (fun _ => .when fun whole => ?_) fun _ => .when fun whole => ?_
  · have nine : 9 ≤ b.length := by simpa using whole
    refine .result (readLe16_eq (by omega)) (.result (readLe16_eq (by omega)) ?_)
    exact checks_update fun _ => ⟨rfl, le_rfl⟩
  · have six : 6 ≤ b.length := by
      simp only [decide_eq_true_eq] at whole
      exact whole.2
    refine .result (readLe16_eq (by omega)) (.ite (fun _ => ?_) fun _ => ?_)
    · exact checks_update fun _ => ⟨rfl, le_rfl⟩
    · exact checks_change (fun s => rxBaTeardown_eq s _) fun s => s.keepsSkbs_rxBaTeardown _

theorem processRxAction_checks (long : 24 ≤ skb.data.length)
    (small : skb.data.length < 4294967296) :
    Checks (processRxAction skb) (M.processRxAction skb) := by
  unfold processRxAction M.processRxAction
  refine .fetch fun s _ => .bind (.when fun _ => .result injectRxActionFrame_eq ?_) fun _ => ?_
  · exact checks_lift (M.perform_keeps _)
  refine .fetch fun s _ => .result (isBackAction_eq _ long) ?_
  refine .bind ?_ fun _ => checks_kfreeSkb skb
  have length : sub32 skb.data.length 24 = (skb.data.drop 24).length := by
    rw [sub32_eq long small, List.length_drop]
  have same : ∀ ours : Prop, [Decidable ours] → (decide (s.state = .connected) && decide ours) =
      decide (s.state = .connected ∧ ours) := fun ours _ => (Bool.decide_and _ _).symm
  rw [length, same]
  refine .when fun isBack => handleBackAction_checks ?_
  simp only [decide_eq_true_eq] at isBack
  exact isBack.2.1

theorem processRxMgmt_checks (long : 24 ≤ skb.data.length)
    (small : skb.data.length < 4294967296) :
    Checks (processRxMgmt skb) (M.processRxMgmt skb) := by
  unfold processRxMgmt M.processRxMgmt
  refine .fetch fun s _ => .result (readLe16_eq (by omega)) ?_
  refine .ite (fun _ => .ite (fun _ => processScanResult_checks) fun _ => checks_kfreeSkb skb) ?_
  refine fun _ => .ite (fun _ => processRxAuth_checks) fun _ => ?_
  refine .ite (fun _ => processRxAssoc_checks) fun _ => ?_
  refine .ite (fun _ => processRxDeauth_checks long) fun _ => ?_
  exact .ite (fun _ => processRxAction_checks long small) fun _ => checks_kfreeSkb skb

end Management

/-! ## The entry points -/

section Entry

variable {skb : Skb}

theorem tryDeliverAWDLDataFrame_checks (small : skb.data.length < 4294967296) :
    Checks (tryDeliverAWDLDataFrame skb) (M.tryDeliverAWDLDataFrame skb) := by
  unfold tryDeliverAWDLDataFrame M.tryDeliverAWDLDataFrame
  refine .result (awdlMsdu_eq small) ?_
  by_cases awdl : M.isAwdlData skb.data
  · rw [if_pos awdl, if_pos awdl]
    have delivers : M.LeavesSkbs (M.deliverAWDLEthernet ⟨skb.data.addr1, skb.data.addr2,
        Bytes.be16At (skb.data.drop (skb.data.hdrLen + 8)) 6,
        (skb.data.drop (skb.data.hdrLen + 8)).drop 8⟩) :=
      M.deliverAWDLEthernet_leavesSkbs _
    exact .bind (checks_lift delivers) fun _ => .bind (checks_kfreeSkb skb) fun _ => .pure true
  · rw [if_neg awdl, if_neg awdl]
    exact .pure false

theorem rxFrame_checks (fits : skb.Fits) : Checks (rxFrame skb) (M.rxFrame skb) := by
  unfold rxFrame M.rxFrame
  refine .ite (fun _ => checks_kfreeSkb skb) fun whole => ?_
  have long : 24 ≤ skb.data.length := Nat.not_lt.mp whole
  refine .result (readLe16_eq (by omega)) ?_
  refine .bind (checks_update fun _ => ⟨rfl, le_rfl⟩) fun _ => ?_
  by_cases isMgmt : skb.data.isMgmt = true
  · have subtype : skb.data.le16At 0 &&& 0x000c = 0 := of_decide_eq_true isMgmt
    rw [if_pos subtype, if_pos isMgmt]
    exact processRxMgmt_checks long fits.small
  have others : ¬ skb.data.le16At 0 &&& 0x000c = 0 := fun same => isMgmt (decide_eq_true same)
  rw [if_neg others, if_neg isMgmt]
  by_cases isData : skb.data.isData = true
  · have subtype : skb.data.le16At 0 &&& 0x000c = ftypeData := of_decide_eq_true isData
    rw [if_pos subtype, if_pos isData]
    refine .bind (tryDeliverAWDLDataFrame_checks fits.small) fun consumed => .when fun _ => ?_
    exact processRxData_checks ⟨long, fits⟩
  · have control : ¬ skb.data.le16At 0 &&& 0x000c = ftypeData :=
      fun same => isData (decide_eq_true same)
    rw [if_neg control, if_neg isData]
    exact checks_kfreeSkb skb

end Entry

end Checked

/-! ## Runs -/

/-- The driver, with the accesses to received frames checked. -/
abbrev checkedRtw88 : System Ieee80211 Call Answer Op (Option IOReturn) :=
  rtw88.attempting Op.checked

/-- The received frames satisfy this. -/
def Op.Delivers (fits : Skb → Prop) : Op → Prop
  | .rxFrame skb => fits skb
  | _ => True

theorem Op.checked_agrees (op : Op) (fits : op.Delivers Skb.Fits) :
    Attempt.Agrees Ieee80211.HoldsSound op.checked (rtw88.program op) := by
  cases op with
  | rxFrame skb => exact .bind (Checked.rxFrame_checks fits) fun _ => .pure _
  | reorderTimerFired =>
      refine .bind (.bind ?_ fun _ => Checked.flushReorder_checks) fun _ => .pure _
      exact Checked.checks_update fun _ => ⟨rfl, le_rfl⟩
  | _ => exact Checked.checks_lift (Op.program_leavesSkbs _ nofun nofun)

theorem Ieee80211.initial.holdsSound {s : Ieee80211} (initial : s.initial) : s.HoldsSound := by
  obtain ⟨attached, -, rfl⟩ := initial
  intro skb member
  have empty : (Ieee80211.started attached).rxBa.held = 0 :=
    Finset.sum_eq_zero fun _ _ => rfl
  rw [empty] at member
  exact absurd member (Multiset.notMem_zero skb)

/-- In no run that receives such frames is there an access outside a frame or an array. -/
def InBounds (fits : Skb → Prop) (s : Ieee80211) : Prop :=
  s.initial → ∀ turns : List (Turn Answer Op),
    (∀ next ∈ turns, next.Starts (Op.Delivers fits)) →
    ∀ config, checkedRtw88.play (fun _ => true) ⟨s, []⟩ turns = some config →
    ∀ next : Turn Answer Op, next.Starts (Op.Delivers fits) →
    ∀ move later, checkedRtw88.turn config next = some (move, later) →
    move.stop ≠ .returns none

/-- The checked driver goes through the states of the driver. -/
def SameStates (fits : Skb → Prop) (s : Ieee80211) : Prop :=
  s.initial → ∀ turns : List (Turn Answer Op),
    (∀ next ∈ turns, next.Starts (Op.Delivers fits)) →
    (checkedRtw88.play (fun _ => true) ⟨s, []⟩ turns).map Config.state =
      (rtw88.play (fun _ => true) ⟨s, []⟩ turns).map Config.state

/-- Every access is inside its frame or its array, unless an A-MSDU is so long that the sums of
`deAmsdu` wrap, and checking the accesses changes nothing else. -/
theorem rxFrame_inBounds (s : Ieee80211) : InBounds Skb.Fits s ∧ SameStates Skb.Fits s := by
  refine ⟨fun initial turns fitting config played next last move later taken => ?_,
    fun initial turns fitting => ?_⟩
  · exact System.not_returns_none Op.checked_agrees fitting initial.holdsSound played last taken
  · have same : Config.Agrees Ieee80211.HoldsSound ⟨s, []⟩ (⟨s, []⟩ : DriverConfig) :=
      ⟨rfl, initial.holdsSound, .nil⟩
    have run := System.play_agrees Op.checked_agrees fitting same
    unfold checkedRtw88
    generalize System.play (rtw88.attempting Op.checked) _ _ turns = attempted at run ⊢
    generalize rtw88.play _ _ turns = plain at run ⊢
    cases run with
    | none => rfl
    | some agrees => exact congrArg some agrees.state

/-- The walk over subframes of 257 bytes ends with a sum that wraps. -/
theorem deAmsdu_wraps {count : Nat} (long : 4294967039 ≤ count) (small : count < 4294967296)
    {left fuel pos : Nat} (enough : left < fuel) (last : pos + 272 * left + 14 = count) :
    Checked.deAmsdu fuel (List.replicate count 1) count pos = none := by
  have sublen : ∀ at' < count - 1, Bytes.readBe16 (List.replicate count 1) at' = some 257 := by
    intro at' below
    rw [readBe16_eq (by rw [List.length_replicate]; omega), be16At, byte_replicate (by omega),
      byte_replicate (by omega)]
    rfl
  induction left generalizing fuel pos with
  | zero =>
      obtain ⟨fuel, rfl⟩ := Nat.exists_eq_add_of_lt enough
      have outside : Bytes.read (List.replicate count 1) (pos + 14) = none := by
        rw [Bytes.read, List.getElem?_eq_none (by rw [List.length_replicate]; omega)]
      have wrapped : u32 (pos + 14 + 257) ≤ count := by
        unfold u32
        omega
      rw [Nat.zero_add, Checked.deAmsdu, u32_eq (by omega), if_neg (by omega), sublen _ (by omega),
        Option.bind_eq_bind, Option.bind_some, if_neg (by omega), Checked.isSnap, outside]
      rfl
  | succ left ih =>
      obtain ⟨fuel, rfl⟩ := Nat.exists_eq_add_of_lt enough
      have plain : Checked.isSnap (List.replicate count 1) (pos + 14) = some false := by
        rw [Checked.isSnap_eq (by rw [List.length_replicate]; omega), isSnap, byte_drop,
          byte_replicate (by omega)]
        rfl
      rw [show left + 1 + fuel + 1 = (left + fuel + 1) + 1 by omega, Checked.deAmsdu,
        u32_eq (by omega), if_neg (by omega), sublen _ (by omega), Option.bind_eq_bind,
        Option.bind_some, u32_eq (by omega), if_neg (by omega), plain, u32_eq (by omega)]
      exact ih (by omega) (by omega)

/-- The header of a QoS data frame of the access point that carries an A-MSDU. -/
def amsduHeader : Bytes :=
  le16 (fctlFromDS ||| 0x0088) ++ [0, 0] ++ broadcastAddr ++ Scenario.apAddr ++ zeros 6 ++
    [0, 0, 0x80, 0]

/-- An A-MSDU of nearly 4 GiB, all of whose subframes have 257 bytes. -/
def hugeAmsdu (count : Nat) : Skb where
  id := 0
  data := amsduHeader ++ List.replicate count 1
  signal := 0
  freq := 0
  band := 0

section Huge

variable {count : Nat}

theorem length_hugeAmsdu : (hugeAmsdu count).data.length = 26 + count := by
  rw [hugeAmsdu, List.length_append, List.length_replicate]
  rfl

theorem frameControl_hugeAmsdu : (hugeAmsdu count).data.frameControl = fctlFromDS ||| 0x0088 := by
  rw [frameControl, le16At, hugeAmsdu, byte_append_left (by decide), byte_append_left (by decide)]
  decide

theorem hdrLen_hugeAmsdu : (hugeAmsdu count).data.hdrLen = 26 := by
  rw [hdrLen, frameControl_hugeAmsdu]
  decide

theorem isAmsdu_hugeAmsdu : (hugeAmsdu count).data.isAmsdu = true := by
  rw [isAmsdu, isDataQos, hdrLen_hugeAmsdu, frameControl_hugeAmsdu, hugeAmsdu,
    byte_append_left (by decide)]
  decide

theorem deliverSubframes_hugeAmsdu (long : 4294967039 ≤ count) (small : count < 4294967270)
    (aligned : count % 272 = 14) :
    Checked.deliverSubframes (hugeAmsdu count) 26 = Attempt.result none := by
  have length := @length_hugeAmsdu count
  have rest : sub32 (hugeAmsdu count).data.length 26 = count := by
    rw [sub32_eq (by omega) (by omega), length]
    omega
  have payload : (hugeAmsdu count).data.drop 26 = List.replicate count 1 := by
    show (amsduHeader ++ List.replicate count 1).drop 26 = List.replicate count 1
    exact List.drop_left' rfl
  have last : 0 + 272 * (count / 272) + 14 = count := by omega
  have wraps : Checked.deAmsdu ((hugeAmsdu count).data.length + 1) (List.replicate count 1) count
      0 = none :=
    deAmsdu_wraps long (by omega) (by omega) last
  have room : decide (26 ≤ (hugeAmsdu count).data.length) = true := decide_eq_true (by omega)
  rw [Checked.deliverSubframes, Attempt.when_eq room, rest, payload, wraps]
  rfl

theorem deliverAmsdu_hugeAmsdu (long : 4294967039 ≤ count) (small : count < 4294967270)
    (aligned : count % 272 = 14) :
    Checked.deliverAmsdu (hugeAmsdu count) 26 = Attempt.result none := by
  have length := @length_hugeAmsdu count
  have plain : (hugeAmsdu count).data.hasProtected = false := by
    rw [hasProtected, frameControl_hugeAmsdu]
    decide
  rw [Checked.deliverAmsdu, Checked.hasProtected_eq (by omega), plain, Attempt.some_bind]
  exact deliverSubframes_hugeAmsdu long small aligned

theorem deliverDataFrame_hugeAmsdu (long : 4294967039 ≤ count) (small : count < 4294967270)
    (aligned : count % 272 = 14) :
    Checked.deliverDataFrame (hugeAmsdu count) =
      Attempt.bind (Attempt.lift (M.perform (.deliver (hugeAmsdu count)))) fun _ =>
        Attempt.result none := by
  have length := @length_hugeAmsdu count
  have whole : 24 ≤ (hugeAmsdu count).data.length := by omega
  have header := @hdrLen_hugeAmsdu count
  have qos := Checked.isAmsdu_eq whole (by omega)
  rw [header, isAmsdu_hugeAmsdu] at qos
  unfold Checked.deliverDataFrame
  rw [Checked.hdrLen_eq whole, header]
  have room : decide (26 ≤ (hugeAmsdu count).data.length) = true := decide_eq_true (by omega)
  have body : Checked.deliverBody (hugeAmsdu count) 26 = Attempt.result none := by
    rw [Checked.deliverBody, qos, Attempt.some_bind, if_pos rfl,
      deliverAmsdu_hugeAmsdu long small aligned]
  rw [Attempt.some_bind, Attempt.when_eq room, body]
  rfl

theorem fromOurAp_hugeAmsdu {s : Ieee80211} (joined : s.targetBSS.bssid = Scenario.apAddr) :
    s.fromOurAp (hugeAmsdu count).data = true := by
  have addr1 : (hugeAmsdu count).data.addr1 = broadcastAddr :=
    (slice_append_left (by decide)).trans (by decide)
  have addr2 : (hugeAmsdu count).data.addr2 = Scenario.apAddr :=
    (slice_append_left (by decide)).trans (by decide)
  rw [Ieee80211.fromOurAp, frameControl_hugeAmsdu, addr1, addr2, joined]
  exact decide_eq_true ⟨by decide, .inr (by decide), rfl⟩

theorem reorderTid_eq_none {s : Ieee80211} (plain : s.rxBa = fun _ => none) (frame : Bytes) :
    s.reorderTid frame = none := by
  simp [Ieee80211.reorderTid, plain]

/-- A frame of our access point without a reorder buffer is delivered. -/
theorem block_processRxData {s : Ieee80211} {skb : Skb} (long : 24 ≤ skb.data.length)
    (receives : s.receivesData = true) (ours : s.fromOurAp skb.data = true)
    (direct : s.reorderTid skb.data = none) :
    Prog.block (Checked.processRxData skb) s [] =
      Prog.block (Checked.deliverDataFrame skb) s [] := by
  have taken : ¬ (!s.receivesData || !true) = true := by simp [receives]
  show Prog.block ((Attempt.result (Checked.fromOurAp s skb.data)).bind _) s [] = _
  rw [Checked.fromOurAp_eq s long, ours]
  refine (congrArg (fun program => Prog.block program s []) (if_neg taken)).trans ?_
  show Prog.block ((Attempt.result (Checked.reorderTid s skb.data _)).bind _) s [] = _
  rw [Checked.reorderTid_eq s long, direct]
  rfl

/-- A data frame that is not for AWDL. -/
theorem block_rxFrame {s : Ieee80211} {skb : Skb} (long : 24 ≤ skb.data.length)
    (small : skb.data.length < 4294967296) (isMgmt : skb.data.isMgmt = false)
    (isData : skb.data.isData = true) (other : M.isAwdlData skb.data = false) :
    Prog.block (Checked.rxFrame skb) s [] =
      Prog.block (Checked.processRxData skb) (s.countRx skb) [] := by
  have notMgmt : ¬ skb.data.le16At 0 &&& 0x000c = 0 := of_decide_eq_false isMgmt
  have data : skb.data.le16At 0 &&& 0x000c = ftypeData := of_decide_eq_true isData
  have left : Checked.tryDeliverAWDLDataFrame skb = (pure false : CheckedM Bool) := by
    rw [Checked.tryDeliverAWDLDataFrame, Checked.awdlMsdu_eq small, other]
    rfl
  unfold Checked.rxFrame
  rw [if_neg (Nat.not_lt.mpr long), readLe16_eq (by omega), Attempt.some_bind, if_neg notMgmt,
    if_pos data, left]
  rfl

theorem block_hugeAmsdu (long : 4294967039 ≤ count) (small : count < 4294967270)
    (aligned : count % 272 = 14) {s : Ieee80211} (receives : s.receivesData = true)
    (joined : s.targetBSS.bssid = Scenario.apAddr) (plain : s.rxBa = fun _ => none) :
    Prog.block (Checked.rxFrame (hugeAmsdu count)) s [] =
      (s.countRx (hugeAmsdu count), .suspended (.deliver (hugeAmsdu count)) fun _ =>
        .ret none) := by
  have length := @length_hugeAmsdu count
  have isMgmt : (hugeAmsdu count).data.isMgmt = false := by
    rw [isMgmt, frameControl_hugeAmsdu]
    decide
  have isData : (hugeAmsdu count).data.isData = true := by
    rw [isData, frameControl_hugeAmsdu]
    decide
  have other : M.isAwdlData (hugeAmsdu count).data = false := by
    have distributed : ¬ (hugeAmsdu count).data.frameControl &&& (fctlToDS ||| fctlFromDS) = 0 := by
      rw [frameControl_hugeAmsdu]
      decide
    exact decide_eq_false fun awdl => distributed awdl.2.1
  rw [block_rxFrame (by omega) (by omega) isMgmt isData other,
    block_processRxData (s := s.countRx (hugeAmsdu count)) (by omega) receives
      (fromOurAp_hugeAmsdu joined) (reorderTid_eq_none plain _),
    deliverDataFrame_hugeAmsdu long small aligned]
  rfl

/-- The checked driver is connected, and no reorder buffer is in use. -/
def connectedPlainly (config : Config Ieee80211 Call Answer Op (Option IOReturn)) : Bool :=
  config.threads.isEmpty && config.state.receivesData &&
    config.state.targetBSS.bssid = Scenario.apAddr && decide (∀ tid, config.state.rxBa tid = none)

theorem connectedPlainly_associate :
    (checkedRtw88.play (fun _ => true) ⟨.started Scenario.attachment, []⟩
      (Scenario.attempt ++ Scenario.associate)).any connectedPlainly = true := by
  decide +kernel

/-- The turn starts no frame whose length needs more than 32 bits. -/
def deliversShort : Turn Answer Op → Bool
  | .start (.rxFrame skb) _ => skb.data.length < 4294967296
  | _ => true

theorem shortly_associate : ∀ next ∈ Scenario.attempt ++ Scenario.associate,
    next.Starts (Op.Delivers fun skb => skb.data.length < 4294967296) := by
  have short : (Scenario.attempt ++ Scenario.associate).all deliversShort = true := by
    decide +kernel
  intro next member
  have fits := List.all_eq_true.mp short next member
  cases next with
  | resume position answer answers => trivial
  | start op answers =>
      cases op with
      | rxFrame skb =>
          have below : skb.data.length < 4294967296 := of_decide_eq_true fits
          exact below
      | _ => trivial

/-- Frames of any 32-bit length are not safe: an A-MSDU of 4294967080 bytes is read past its
end. -/
theorem not_inBounds : ¬ ∀ s, InBounds (fun skb => skb.data.length < 4294967296) s := by
  intro safe
  have connected := connectedPlainly_associate
  generalize played : checkedRtw88.play _ _ _ = run at connected
  obtain _ | ⟨s, threads⟩ := run
  · simp at connected
  simp only [Option.any_some, connectedPlainly, Bool.and_eq_true, decide_eq_true_eq,
    List.isEmpty_iff] at connected
  obtain ⟨⟨⟨rfl, receives⟩, joined⟩, plain⟩ := connected
  obtain ⟨count, long, small, aligned⟩ :
      ∃ count, 4294967039 ≤ count ∧ count < 4294967270 ∧ count % 272 = 14 :=
    ⟨4294967054, by decide, by decide, by decide⟩
  have length := @length_hugeAmsdu count
  have fits : (hugeAmsdu count).data.length < 4294967296 := by omega
  have delivered := block_hugeAmsdu long small aligned receives joined (funext plain)
  have waits := Prog.block_bind (fun result : Option Unit =>
    (result.elim (.ret none) fun _ => .ret (some .success) :
      Prog Ieee80211 Call Answer (Option IOReturn))) delivered
  have received : checkedRtw88.turn ⟨s, []⟩ (.start (.rxFrame (hugeAmsdu count)) []) =
      some (⟨.rxFrame (hugeAmsdu count), none, .waits (.deliver (hugeAmsdu count))⟩,
        ⟨s.countRx (hugeAmsdu count),
          [⟨.rxFrame (hugeAmsdu count), .deliver (hugeAmsdu count), fun _ => .ret none⟩]⟩) := by
    have block : (checkedRtw88.program (.rxFrame (hugeAmsdu count))).block s [] =
        (s.countRx (hugeAmsdu count), .suspended (.deliver (hugeAmsdu count)) fun _ => .ret none) :=
      waits
    have enabled : checkedRtw88.enabled (.rxFrame (hugeAmsdu count)) s := rfl
    simp only [System.turn, if_pos enabled, block]
    rfl
  refine safe _ ⟨Scenario.attachment, rfl, rfl⟩
    (Scenario.attempt ++ Scenario.associate ++ [.start (.rxFrame (hugeAmsdu count)) []]) ?_
    ⟨s.countRx (hugeAmsdu count),
      [⟨.rxFrame (hugeAmsdu count), .deliver (hugeAmsdu count), fun _ => .ret none⟩]⟩ ?_
    (Scenario.goOn 0) trivial ⟨.rxFrame (hugeAmsdu count), some (.deliver _, default),
      .returns none⟩
    ⟨s.countRx (hugeAmsdu count), []⟩ rfl rfl
  · intro next member
    rcases List.mem_append.mp member with early | last
    · exact shortly_associate next early
    · rw [List.mem_singleton.mp last]
      exact fits
  · rw [System.play_append, played, Option.bind_some, System.play, received]
    rfl

end Huge

end AirportRtw88
