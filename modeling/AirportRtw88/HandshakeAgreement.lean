import AirportRtw88.ConnectionFrames

/-!
# The handshake and the association of one connection

What `sendEAPOLKey` sends is accepted by the checks of this station, and over every run the key
data of an M2 is the RSN element of the association request of its connection.
-/

namespace AirportRtw88

open Interleave Bytes

/-! ## The frames that were sent -/

/-- The association requests, and what `sendEAPOLKey` sent behind the Ethernet header, since
`cmdConnect` chose the target. -/
structure SentFrames where
  requests : List Bytes
  keys : List Bytes

namespace SentFrames

def none : SentFrames :=
  ⟨[], []⟩

/-- The packets of the stack are not recorded. -/
def note (move : DriverMove) (_ : Ieee80211) (sent : SentFrames) : SentFrames :=
  if move.op.selects move.stop then none
  else
    match move.op, move.stop with
    | .outputPacket _, _ => sent
    | _, .waits (.tx .associate skb) => { sent with requests := skb.data :: sent.requests }
    | _, .waits (.tx .data skb) => { sent with keys := skb.data.llc.drop 8 :: sent.keys }
    | _, _ => sent

/-- The key data of every M2 is the RSN element of every request. -/
def SameRsn (sent : SentFrames) : Prop :=
  ∀ request ∈ sent.requests, ∀ key ∈ sent.keys, key.keyInfo = Ieee80211.stepKeyInfo 2 →
    ∃ t : Ieee80211, request = t.assocReq ∧ key.keyData = t.assocRsn

/-- All of them were built for the present network. -/
structure BuiltFor (sent : SentFrames) (s : Ieee80211) : Prop where
  requests : ∀ request ∈ sent.requests, ∃ t : Ieee80211, t.network = s.network ∧
    request = t.assocReq
  keys : ∀ key ∈ sent.keys, ∃ frame, s.BuildsKey frame ∧ key = frame.drop 14

end SentFrames

abbrev SentConfig : Type := DriverConfig × SentFrames

/-- The runs of the driver with the frames of the present connection. -/
def SentRuns : SentConfig → SentConfig → Prop :=
  rtw88.Noted SentFrames.note fun _ _ => True

/-- `_wpa2` is set, and the handshake is left to the class. -/
def Ieee80211.usesOwnSupplicant (s : Ieee80211) : Bool :=
  s.wpa2 && !s.externalSupplicant

/-! ## Reading the frames back -/

namespace Ieee80211

/-- The payload of an EAPOL frame stands behind its LLC header. -/
theorem llc_encapsulate {s : Ieee80211} (target : s.targetBSS.bssid.length = 6)
    (macAddr : s.macAddr.length = 6) {eh payload : Bytes} (whole : eh.length = 14)
    (eapol : eh.be16At 12 = ethPPae) :
    (s.encapsulate eh payload).data.llc.drop 8 = payload := by
  have clear : s.protects (eh.be16At 12) = false := by simp [protects, eapol]
  have unsealed : (s.encapsulate eh payload).data.carriesCcmpIv = false := by
    simp [carriesCcmpIv, s.hasProtected_encapsulate, clear]
  have offset : (s.encapsulate eh payload).data.payloadOffset = (s.dataHeader eh).length := by
    rw [payloadOffset, length_dataHeader target macAddr whole, unsealed]
    rfl
  rw [llc, offset, data_encapsulate, clear, List.drop_left]
  rfl

/-- The addresses of the network have the size of their arrays. -/
theorem lengths_of_network {s t : Ieee80211} (sound : s.Sound) (same : t.network = s.network) :
    t.targetBSS.bssid.length = 6 ∧ t.macAddr.length = 6 := by
  simp only [network, Prod.mk.injEq] at same
  exact ⟨same.1 ▸ sound.target, same.2.2.2 ▸ sound.macAddr⟩

/-- What was handed over as a data frame carries the message of the handshake. -/
theorem BuildsKey.llc_encapsulate {s u : Ieee80211} {frame : Bytes} (builds : s.BuildsKey frame)
    (sound : s.Sound) (same : u.network = s.network) :
    (u.encapsulate (frame.take 14) (frame.drop 14)).data.llc.drop 8 = frame.drop 14 := by
  obtain ⟨v, step, counter, network, -, rfl⟩ := builds
  obtain ⟨target, macAddr⟩ := lengths_of_network sound same
  obtain ⟨built, address⟩ := lengths_of_network sound network
  have eapol := M.ethertype_eapolKeyFrame built address step counter false false true
  have whole : ((v.eapolKeyFrame step counter false false true).take 14).length = 14 := by
    rw [List.length_take, eapolKeyFrame_eq]
    simp only [List.length_append, built, address, be16, List.length_cons, List.length_nil]
    omega
  exact Ieee80211.llc_encapsulate target macAddr whole eapol

/-- An M2 carries the RSN element that the association request of its network carries. -/
theorem BuildsKey.keyData {s t : Ieee80211} {frame : Bytes} (builds : s.BuildsKey frame)
    (sound : s.Sound) (m2 : Bytes.keyInfo (frame.drop 14) = stepKeyInfo 2)
    (own : s.usesOwnSupplicant = true) (same : t.network = s.network) :
    Bytes.keyData (frame.drop 14) = t.assocRsn := by
  obtain ⟨u, step, counter, network, sized, rfl⟩ := builds
  obtain ⟨target, macAddr⟩ := lengths_of_network sound network
  rcases sized with rfl | ⟨rfl, ctr, nonce⟩
  · have answered := (keyInfo_eapolKey target macAddr 4 counter).symm.trans m2
    exact absurd answered (by decide)
  · have arrays : u.KeyArrays counter := ⟨macAddr, target, nonce, ctr⟩
    have read := arrays.keyData_eapolKey 2
    simp only [Ieee80211.network, Prod.mk.injEq] at network same
    simp only [usesOwnSupplicant, Bool.and_eq_true, Bool.not_eq_true'] at own
    have internal : t.wpa2 = true ∧ t.externalSupplicant = false :=
      ⟨same.2.1.trans own.1, same.2.2.1.trans own.2⟩
    have built : t.assocRsn = rtw88BuildSelectedRsnIe u.targetBSS.groupCipher := by
      simp [assocRsn, internal, same.1, network.1]
    exact read.trans built.symm

end Ieee80211

/-! ## What a run sends -/

namespace SentFrames

theorem builtFor_none (s : Ieee80211) : none.BuiltFor s :=
  ⟨by simp [none], by simp [none]⟩

theorem BuiltFor.of_network {sent : SentFrames} {s t : Ieee80211} (built : sent.BuiltFor s)
    (same : t.network = s.network) : sent.BuiltFor t := by
  constructor
  · intro request member
    obtain ⟨u, network, isRequest⟩ := built.requests request member
    exact ⟨u, network.trans same.symm, isRequest⟩
  · intro key member
    obtain ⟨frame, builds, isKey⟩ := built.keys key member
    exact ⟨frame, builds.of_network same, isKey⟩

theorem BuiltFor.request {sent : SentFrames} {s : Ieee80211} (built : sent.BuiltFor s)
    {request : Bytes} (builds : ∃ t : Ieee80211, t.network = s.network ∧ request = t.assocReq) :
    BuiltFor { sent with requests := request :: sent.requests } s := by
  refine ⟨fun other member => ?_, built.keys⟩
  rcases List.mem_cons.mp member with rfl | old
  · exact builds
  · exact built.requests other old

theorem BuiltFor.key {sent : SentFrames} {s : Ieee80211} (built : sent.BuiltFor s) {key : Bytes}
    (builds : ∃ frame, s.BuildsKey frame ∧ key = frame.drop 14) :
    BuiltFor { sent with keys := key :: sent.keys } s := by
  refine ⟨built.requests, fun other member => ?_⟩
  rcases List.mem_cons.mp member with rfl | old
  · exact builds
  · exact built.keys other old

/-- Every step keeps the record of the frames of the present network. -/
theorem BuiltFor.note {sent : SentFrames} {start now : Ieee80211} (built : sent.BuiltFor start)
    {move : DriverMove} (step : JoinStep move.op move.resumed start move.stop now)
    (sound : now.Sound) : (SentFrames.note move now sent).BuiltFor now := by
  unfold SentFrames.note
  cases selects : move.op.selects move.stop with
  | true => exact builtFor_none now
  | false =>
      have built := built.of_network (step.stays selects)
      simp only [Bool.false_eq_true, if_false]
      split
      case h_1 => exact built
      case h_2 skb waits other =>
        obtain ⟨t, same, isRequest⟩ := step.announces other _ waits
        exact built.request ⟨t, same, isRequest⟩
      case h_3 skb waits other =>
        obtain ⟨u, frame, same, builds, isFrame⟩ := step.announces other _ waits
        rw [isFrame]
        exact built.key ⟨frame, builds, builds.llc_encapsulate sound same⟩
      case h_4 => exact built

end SentFrames

/-- What is tracked over a run. -/
structure SentConfig.Tracked (now : SentConfig) : Prop where
  settled : rtw88.Settled JoinStep now.1
  keyed : Keyed now.1
  built : now.2.BuiltFor now.1.state

theorem SentRuns.tracked {s : Ieee80211} (initial : s.initial) {now : SentConfig}
    (run : SentRuns (⟨s, []⟩, .none) now) : now.Tracked := by
  apply run.invariant SentConfig.Tracked
  · exact ⟨System.settled_nil JoinStep s, keyed_initial initial, SentFrames.builtFor_none s⟩
  · intro now next move config tracked _ taken
    have step := System.step_of_turn taken
    obtain ⟨joins, settled⟩ := step.respects respects_joinStep tracked.settled
    have keyed := (tracked.keyed.step step).2
    exact ⟨settled, keyed, tracked.built.note joins keyed.guard⟩

theorem SentConfig.Tracked.sameRsn {now : SentConfig} (tracked : now.Tracked)
    (own : now.1.state.usesOwnSupplicant = true) : now.2.SameRsn := by
  intro request sent key answered m2
  obtain ⟨t, same, isRequest⟩ := tracked.built.requests request sent
  obtain ⟨frame, builds, rfl⟩ := tracked.built.keys key answered
  exact ⟨t, isRequest, builds.keyData tracked.keyed.guard m2 own same⟩

/-- The frames of both steps agree with the checks, the MIC is checked and nothing else, the nonce
is the one of the key, and an M2 repeats the element of the association request. -/
theorem eapolKey_agrees {s : Ieee80211} {counter : Bytes} (arrays : s.KeyArrays counter)
    (step : Nat) {modified : Bytes} (small : modified.length < 4294967296) {start : Ieee80211}
    (initial : start.initial)
    {now : SentConfig} (run : SentRuns (⟨start, []⟩, .none) now)
    (own : now.1.state.usesOwnSupplicant = true) :
    s.KeyFrameAgrees step counter ∧
      VerifiesIff s.kck modified (99 ≤ modified.length ∧ SignedKey s.kck modified) ∧
      (∀ (t : Ieee80211) (data random : Bytes), s = t.acceptM1 data random →
        s.ptk = derivePTK t.pmk (data.slice 17 32) ((s.eapolKey step counter).slice 17 32)
          t.macAddr t.targetBSS.bssid) ∧
      now.2.SameRsn := by
  refine ⟨arrays.agrees step, verifiesIff_signedKey s.length_kck small, ?_,
    (run.tracked initial).sameRsn own⟩
  rintro t data random accepted
  rw [arrays.nonce_eapolKey step, accepted]
  rfl

namespace Scenario

/-- An M1 with the counter 5. -/
def firstMessage : Skb :=
  fromAp 0x0208 ownAddr (snapHeader ethPPae ++ [2, 3] ++ be16 95 ++ [2] ++ be16 0x008a ++ [0, 16] ++
    zeros 6 ++ be16 5 ++ zeros 82)

/-- The station associates with the WPA2 network, and answers its M1. -/
def ownHandshake : List (Turn Answer Op) :=
  scan secured ++ .start (.cmdConnect (toNetwork (some (zeros 32)) false)) [] :: authenticate ++
    .start (.rxFrame authResponse) [] :: List.replicate 4 (goOn 0) ++
    .start (.rxFrame assocResponse) [] :: List.replicate 3 (goOn 0) ++
    [.start (.rxFrame firstMessage) [], goOn 0]

/-- Its association request and its M2 were sent. -/
theorem ownHandshake_sends :
    ((rtw88.playNoted SentFrames.note (start, .none) ownHandshake).any fun now =>
      now.1.state.usesOwnSupplicant && now.2.requests.length = 1 &&
        now.2.keys.map Bytes.keyInfo = [Ieee80211.stepKeyInfo 2]) = true := by
  decide +kernel

theorem keyArrays_started : (Ieee80211.started attachment).KeyArrays (zeros 8) :=
  ⟨rfl, rfl, rfl, rfl⟩

end Scenario

theorem eapolKey_agrees_ownHandshake : ∃ now : SentConfig,
    (∃ request ∈ now.2.requests, ∃ key ∈ now.2.keys, key.keyInfo = Ieee80211.stepKeyInfo 2) ∧
      (Ieee80211.started Scenario.attachment).KeyFrameAgrees 2 (zeros 8) ∧ now.2.SameRsn := by
  obtain ⟨now, played, sends⟩ := Option.any_eq_true _ _ |>.mp Scenario.ownHandshake_sends
  simp only [Bool.and_eq_true, decide_eq_true_eq] at sends
  obtain ⟨⟨own, requested⟩, answered⟩ := sends
  have run : SentRuns (Scenario.start, .none) now :=
    System.noted_of_play played fun _ _ _ => trivial
  have small : (zeros 99).length < 4294967296 := by decide
  have agrees :=
    eapolKey_agrees Scenario.keyArrays_started 2 small ⟨Scenario.attachment, rfl, rfl⟩ run own
  obtain ⟨request, only⟩ := List.length_eq_one_iff.mp requested
  obtain ⟨key, keys, info⟩ := List.map_eq_singleton_iff.mp answered
  refine ⟨now, ⟨request, ?_, key, ?_, info⟩, agrees.1, agrees.2.2.2⟩
  · rw [only]
    exact List.mem_singleton_self _
  · rw [keys]
    exact List.mem_singleton_self _

end AirportRtw88
