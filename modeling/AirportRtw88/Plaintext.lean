import AirportRtw88.Deliveries
import AirportRtw88.Protection

/-!
# Delivered frames

On an encrypted link only EAPOL should reach the stack from a frame that was not decrypted
with the pairwise key.
-/

namespace AirportRtw88

open Interleave Bytes

/-- If the request hands an Ethernet frame other than EAPOL to the stack, then its frame was
protected and a pairwise key is installed. -/
def Call.Shielded (call : Call) (s : Ieee80211) : Prop :=
  ∀ source frame, call = .injectRxFrame source frame → Bytes.be16At frame 12 ≠ ethPPae →
    source.data.hasProtected = true ∧ s.ptkConf.isSome = true

/-- A way in which data frames reach `deliverDataFrame`. -/
inductive Arrival : Type where
  | frame (skb : Skb)
  | staleFrames
  deriving DecidableEq

def Arrival.program : Arrival → M Unit
  | .frame skb => M.processRxData skb
  | .staleFrames => M.rxReorderFlushStale

/-- Left alone, the arrival hands only shielded frames to the stack. -/
def Arrival.Shielded (arrival : Arrival) (s : Ieee80211) : Prop :=
  arrival.program.Ensures Call.Shielded s fun _ _ => True

namespace Ieee80211

/-- What a frame carries may be handed to the stack in this state. -/
def Shields (s : Ieee80211) (skb : Skb) : Prop :=
  s.parent = true → ∀ msdu ∈ carriedMsdus skb.data, Bytes.be16At msdu.frame 12 ≠ ethPPae →
    skb.data.hasProtected = true ∧ s.ptkConf.isSome = true

/-- The fields after the critical section of an arrival, and the frames that it releases. -/
def release (s : Ieee80211) : Arrival → Ieee80211 × List Skb
  | .staleFrames =>
      let outcome := AirportRtw88.rxReorderFlushStale s.rxBa
      (s.leaveRxBa outcome, outcome.out)
  | .frame skb =>
      if !s.receivesData || !(s.fromOurAp skb.data) then (s, [])
      else
        match s.reorderTid skb.data with
        | none => (s, [skb])
        | some tid =>
            let outcome := AirportRtw88.rxReorderInput s.rxBa tid skb (skb.data.seqCtrl / 16)
            (s.leaveRxBa outcome, outcome.out)

end Ieee80211

/-- Each of the frames may be handed to the stack in every state that the delivery of the
frames before it can leave. -/
def ShieldedInTurn : List Skb → Ieee80211 → Prop
  | [], _ => True
  | skb :: rest, s =>
      s.Shields skb ∧ (M.deliverDataFrame skb).Ensures (fun _ _ => True) s fun _ after =>
        ShieldedInTurn rest after

/-! ## Functions that hand nothing to the stack -/

/-- What functions have in common that hand nothing to the stack. -/
def withholding : Discipline Ieee80211 Call Answer where
  ready _ _ := True
  stable _ := True
  keeps _ _ _ := True
  calls call _ := ∀ source frame, call ≠ .injectRxFrame source frame
  refl := fun _ _ => trivial
  trans := fun _ _ _ _ _ _ => trivial
  respected := fun _ _ _ => trivial
  preserved := fun _ _ _ _ _ => trivial

namespace M

open Ieee80211 Prog

abbrev Withholds {α : Type} (program : M α) : Prop :=
  program.Upholds withholding

theorem Withholds.shielded {α : Type} {program : M α} (withholds : Withholds program)
    (s : Ieee80211) : program.Ensures Call.Shielded s fun _ _ => True := by
  refine (withholds.ensures trivial fun _ _ _ => trivial).mono ?_ fun _ _ _ => trivial
  exact fun call _ withheld source frame same => absurd same (withheld source frame)

theorem Silent.withholds {α : Type} {program : M α} (silent : Silent program) :
    Withholds program := by
  refine silent.upholds ?_ (fun _ => trivial) fun _ _ _ => trivial
  rintro _ _ delivers source frame rfl
  cases delivers

/-- The handshake hands nothing to the stack. -/
theorem handleEAPOL_withholds (data : Bytes) : Withholds (handleEAPOL data) :=
  Silent.withholds (handleEAPOL_silent data)

/-! ## Delivery -/

theorem deliverEthernet_shielded {skb : Skb} {msdu : Msdu} {s : Ieee80211}
    {post : Unit → Ieee80211 → Prop}
    (shields : s.parent = true → Call.Shielded (.injectRxFrame skb msdu.frame) s)
    (same : ∀ after, after.parent = s.parent → after.ptkConf = s.ptkConf → post () after) :
    (deliverEthernet skb msdu).Ensures Call.Shielded s post := by
  have allocates : Call.Shielded (.allocateInputPacket msdu.frame.length) s := nofun
  have drops : post () (s.mbufFreem ⟨0, msdu.frame⟩) := same _ rfl rfl
  have leaves := same s rfl rfl
  unfold deliverEthernet fillInputPacket dropMbuf copies succeeds perform
  simp only [bind_eq_bind, pure_eq_ret, ensures_bind, ensures_fetch, ensures_when, ensures_await,
    ensures_ite, ensures_ret, ensures_choose, ensures_update]
  refine ⟨fun parent => ⟨allocates, fun answer => ?_⟩, fun _ => leaves⟩
  have injects := shields parent
  grind

/-- If every allocation succeeds, the frame is handed to the stack. -/
theorem injects_of_ensures {issue : Call → Ieee80211 → Prop} {skb : Skb} {msdu : Msdu}
    {s : Ieee80211} {post : Unit → Ieee80211 → Prop}
    (ensures : (deliverEthernet skb msdu).Ensures issue s post) (parent : s.parent = true) :
    issue (.injectRxFrame skb msdu.frame) s ∧ post () s := by
  unfold deliverEthernet fillInputPacket dropMbuf copies succeeds perform at ensures
  simp only [bind_eq_bind, pure_eq_ret, ensures_bind, ensures_fetch, ensures_when, ensures_await,
    ensures_ite, ensures_ret, ensures_choose, ensures_update] at ensures
  have filled := (((ensures.1 parent).2 default).2 (by decide) default).2 (by decide)
  by_cases empty : msdu.payload = []
  · have injected := ((filled.1 empty).2 (by rintro ⟨⟩)).1 trivial
    exact ⟨injected.1, injected.2 default⟩
  · have injected := ((filled.2 empty default).2 (by decide)).1 trivial
    exact ⟨injected.1, injected.2 default⟩

theorem injects_all_of_ensures {issue : Call → Ieee80211 → Prop} {skb : Skb} {msdus : List Msdu}
    {s : Ieee80211} {post : Unit → Ieee80211 → Prop}
    (ensures : (Prog.forEach msdus (deliverEthernet skb)).Ensures issue s post)
    (parent : s.parent = true) : ∀ msdu ∈ msdus, issue (.injectRxFrame skb msdu.frame) s := by
  induction msdus with
  | nil => exact nofun
  | cons msdu rest ih =>
      unfold Prog.forEach at ensures
      rw [ensures_bind] at ensures
      have injected := injects_of_ensures ensures parent
      intro other member
      rcases List.mem_cons.mp member with rfl | later
      · exact injected.1
      · exact ih injected.2 other later

/-- The EtherType of a frame is where it is read. -/
theorem be16At_singleMsdu {frame : Bytes} (long : 24 ≤ frame.length) :
    Bytes.be16At (singleMsdu frame).frame 12 = frame.llc.llcEthertype := by
  have addresses : (frame.addr1 ++ frame.addr3).length = 12 := by
    rw [List.length_append]
    exact congrArg₂ (· + ·) (length_slice (by omega)) (length_slice (by omega))
  have small : frame.llc.llcEthertype < 65536 := by
    unfold Bytes.llcEthertype
    split
    · exact be16At_lt _ _
    · decide
  have word := be16At_be16 (frame.addr1 ++ frame.addr3) (frame.llc.drop 8) _ small
  rw [addresses] at word
  simpa only [Msdu.frame, singleMsdu, List.append_assoc] using word

/-- The delivery of a frame is shielded if and only if the state shields it. -/
theorem deliverDataFrame_shielded_iff (skb : Skb) (s : Ieee80211) :
    ((deliverDataFrame skb).Ensures Call.Shielded s fun _ _ => True) ↔ s.Shields skb := by
  have delivers : Call.Shielded (.deliver skb) s := nofun
  unfold deliverDataFrame perform deliverMsdu
  simp only [bind_eq_bind, pure_eq_ret, ensures_bind, ensures_await, ensures_ret, ensures_ite,
    ensures_update, ensures_when, ensures_fetch, decide_eq_true_eq, decide_eq_false_iff_not]
  constructor
  · rintro ⟨-, ensures⟩ parent msdu member other
    obtain ⟨whole, single⟩ := ensures default
    by_cases amsdu : skb.data.isAmsdu = true
    · exact injects_all_of_ensures (whole amsdu) parent msdu member skb _ rfl other
    · have carried := carriedMsdus_of_single (Bool.eq_false_of_not_eq_true amsdu)
        (List.ne_nil_of_mem member)
      rw [carried.2, List.mem_singleton] at member
      subst member
      have notEapol : ∀ t : Ieee80211, ¬ t.takesEapol skb.data.llc.llcEthertype = true := by
        intro t takes
        rw [be16At_singleMsdu carried.1] at other
        unfold takesEapol at takes
        exact other (of_decide_eq_true takes).1
      have runs := (single amsdu).1 (List.ne_nil_of_mem (carried.2 ▸ List.mem_singleton_self _))
      by_cases iv : skb.data.carriesCcmpIv = true
      · exact (injects_of_ensures ((runs.1 iv).2 (notEapol _)) parent).1 skb _ rfl other
      · have runs := (runs.2 (Bool.eq_false_of_not_eq_true iv)).2 (notEapol _)
        exact (injects_of_ensures runs parent).1 skb _ rfl other
  · intro shields
    have shielded : ∀ t : Ieee80211, t.parent = s.parent → t.ptkConf = s.ptkConf →
        ∀ msdu ∈ carriedMsdus skb.data, t.parent = true →
          Call.Shielded (.injectRxFrame skb msdu.frame) t := by
      rintro t sameParent sameKey msdu member parent _ _ ⟨⟩ other
      rw [sameKey]
      exact shields (sameParent ▸ parent) msdu member other
    refine ⟨delivers, fun _ => ⟨fun _ => ?_, fun amsdu => ⟨fun carries => ?_, fun _ => trivial⟩⟩⟩
    · have kept : (Prog.forEach (carriedMsdus skb.data) (deliverEthernet skb)).Ensures
          Call.Shielded s fun _ t => t.parent = s.parent ∧ t.ptkConf = s.ptkConf :=
        .forEach (fun msdu member t held => deliverEthernet_shielded
          (shielded t held.1 held.2 msdu member)
          fun after sameParent sameKey => ⟨sameParent.trans held.1, sameKey.trans held.2⟩)
          ⟨rfl, rfl⟩
      exact kept.mono (fun _ _ => id) fun _ _ _ => trivial
    · have carried := carriedMsdus_of_single (Bool.eq_false_of_not_eq_true amsdu) carries
      have member : singleMsdu skb.data ∈ carriedMsdus skb.data := by
        rw [carried.2]
        exact List.mem_singleton_self _
      refine ⟨fun _ => ⟨fun _ => ?_, fun _ => ?_⟩, fun _ => ⟨fun _ => ?_, fun _ => ?_⟩⟩
      · exact (handleEAPOL_withholds _).shielded _
      · exact deliverEthernet_shielded (shielded _ rfl rfl _ member) fun _ _ _ => trivial
      · exact (handleEAPOL_withholds _).shielded _
      · exact deliverEthernet_shielded (shielded _ rfl rfl _ member) fun _ _ _ => trivial

theorem forEach_shielded_iff (skbs : List Skb) (s : Ieee80211) :
    ((Prog.forEach skbs deliverDataFrame).Ensures Call.Shielded s fun _ _ => True) ↔
      ShieldedInTurn skbs s := by
  induction skbs generalizing s with
  | nil => exact ⟨fun _ => trivial, fun _ => trivial⟩
  | cons skb rest ih =>
      unfold Prog.forEach ShieldedInTurn
      rw [ensures_bind, ← deliverDataFrame_shielded_iff]
      simp only [ih]
      constructor
      · exact fun ensures => ⟨ensures.mono (fun _ _ => id) fun _ _ _ => trivial,
          ensures.mono (fun _ _ _ => trivial) fun _ _ => id⟩
      · rintro ⟨first, later⟩
        exact (first.and later).mono (fun _ _ => And.left) fun _ _ => And.right

end M

theorem deliverReleased_shielded_iff (outcome : RxBaOutcome Skb) (s : Ieee80211) :
    ((M.deliverReleased outcome).Ensures Call.Shielded s fun _ _ => True) ↔
      ShieldedInTurn outcome.out s := by
  rw [← M.forEach_shielded_iff]
  unfold M.deliverReleased
  simp only [Prog.bind_eq_bind, Prog.ensures_bind, Prog.ensures_when, Prog.ensures_update]
  exact ⟨fun ensures => ensures.mono (fun _ _ => id) fun _ _ _ => trivial,
    fun ensures => ensures.mono (fun _ _ => id) fun _ _ _ => ⟨fun _ => trivial, fun _ => trivial⟩⟩

/-- What arrives reaches the stack only from frames that were decrypted if and only if every
frame that is released carries nothing but EAPOL, or was decrypted: there is no check. -/
theorem shielded_iff_released (arrival : Arrival) (s : Ieee80211) :
    arrival.Shielded s ↔ ShieldedInTurn (s.release arrival).2 (s.release arrival).1 := by
  cases arrival with
  | staleFrames =>
      unfold Arrival.Shielded Arrival.program M.rxReorderFlushStale
      simp only [Prog.bind_eq_bind, Prog.ensures_bind, Prog.ensures_fetch, Prog.ensures_update]
      exact deliverReleased_shielded_iff _ _
  | frame skb =>
      unfold Arrival.Shielded Arrival.program M.processRxData Ieee80211.release
      simp only [Prog.bind_eq_bind, Prog.ensures_bind, Prog.ensures_fetch]
      by_cases refused : (!s.receivesData || !(s.fromOurAp skb.data)) = true
      · simp only [if_pos refused]
        exact ⟨fun _ => trivial, fun _ => trivial⟩
      · simp only [if_neg refused]
        cases reorders : s.reorderTid skb.data with
        | none =>
            have single := M.forEach_shielded_iff [skb] s
            simp only [Prog.forEach, Prog.ensures_bind, Prog.ensures_ret] at single
            exact single
        | some tid => exact deliverReleased_shielded_iff _ _

/-- On an encrypted link only shielded frames reach the stack. -/
def AlwaysShielded : Prop :=
  ∀ config, rtw88.Reachable Ieee80211.initial config → config.state.wpa2 = true →
    ∀ arrival : Arrival, arrival.Shielded config.state

namespace Scenario

/-- An IPv4 packet in a data frame without protection. -/
def unprotected : Skb :=
  fromAp 0x0208 ownAddr (snapHeader 0x0800 ++ [0x45])

/-- The frame arrives on an encrypted link. -/
def injectedFromPlaintext : Option Bool := do
  let config ← play connectedExternally
  return config.state.wpa2 &&
    ((M.processRxData unprotected).run config.state []).issued.any fun entry =>
      match entry.request with
      | .injectRxFrame source frame =>
          Bytes.be16At frame 12 ≠ ethPPae && !source.data.hasProtected
      | _ => false

theorem injectedFromPlaintext_true : injectedFromPlaintext = some true := by
  decide +kernel

end Scenario

theorem not_alwaysShielded : ¬ AlwaysShielded := by
  intro shielded
  have run := Scenario.injectedFromPlaintext_true
  simp only [Scenario.injectedFromPlaintext, Option.bind_eq_bind, Option.bind_eq_some_iff,
    Option.pure_def, Option.some.injEq, Bool.and_eq_true, List.any_eq_true] at run
  obtain ⟨config, played, wpa2, entry, member, injects⟩ := run
  have ensures := shielded config (Scenario.reachable_of_play played) wpa2
    (.frame Scenario.unprotected)
  split at injects
  · rename_i source frame same
    simp only [Bool.and_eq_true, decide_eq_true_eq, Bool.not_eq_true'] at injects
    have marked := ((ensures.run []).1 entry member source frame same injects.1).1
    simp [injects.2] at marked
  · simp at injects

end AirportRtw88
