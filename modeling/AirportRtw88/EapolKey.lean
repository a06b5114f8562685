import AirportRtw88.Deliveries
import AirportRtw88.HeaderFields
import AirportRtw88.KeyDerivation

/-!
# EAPOL-Key frames

The frames that `sendEAPOLKey` builds, read back with the offsets of `handleEAPOL` and checked by
`eapol_mic_ok`.
-/

namespace AirportRtw88

open Interleave Bytes

/-- The frame without its MIC. -/
def unsignedKey (eapol : Bytes) : Bytes :=
  eapol.overwrite 81 (zeros 16)

/-- The MIC field is the code of the frame without it. -/
def SignedKey (kck eapol : Bytes) : Prop :=
  eapol.slice 81 16 = (hmacSha1 kck (unsignedKey eapol)).take 16

/-- If its copy of the frame is allocated, `eapol_mic_ok` verifies the frame exactly when the
condition holds. -/
def VerifiesIff (kck eapol : Bytes) (condition : Prop) : Prop :=
  ∀ s, (M.eapolMicOk kck eapol).Traces SameLink Answer.succeeded s fun _ verified _ =>
    verified = true ↔ condition

namespace Ieee80211

/-- What `sendEAPOLKey` sends of this step of the handshake, behind the Ethernet header. -/
def eapolKey (s : Ieee80211) (step : Nat) (counter : Bytes) : Bytes :=
  (s.eapolKeyFrame step counter false false true).drop 14

/-- The addresses, the nonce and the counter have the sizes of their arrays. -/
structure KeyArrays (s : Ieee80211) (counter : Bytes) : Prop where
  macAddr : s.macAddr.length = 6
  bssid : s.targetBSS.bssid.length = 6
  snonce : s.snonce.length = 32
  counter : counter.length = 8

/-- The frame of a step has consistent lengths, is accepted by the checks of `handleEAPOL` and by
`eapol_mic_ok`, and carries the nonce and the counter. -/
structure KeyFrameAgrees (s : Ieee80211) (step : Nat) (counter : Bytes) : Prop where
  body : (s.eapolKey step counter).be16At 2 = 95 + (s.eapolKey step counter).keyDataLen
  whole : (s.eapolKey step counter).length = (s.eapolKey step counter).eapolLength
  inside : (s.eapolKey step counter).keyData.length = (s.eapolKey step counter).keyDataLen
  taken : (s.eapolKey step counter).isEapolKey = true
  verifies : VerifiesIff s.kck (s.eapolKey step counter) True
  nonce : (s.eapolKey step counter).slice 17 32 = s.snonce
  replayCounter : (s.eapolKey step counter).slice 9 8 = counter

/-! ## The fields -/

/-- The key data of a step. -/
def stepKeyData (s : Ieee80211) (step : Nat) : Bytes :=
  if step = 2 then rtw88BuildSelectedRsnIe s.targetBSS.groupCipher else []

/-- The key information field of a step. -/
def stepKeyInfo (step : Nat) : Nat :=
  0x010A ||| (if step = 4 then 0x0200 else 0)

/-- The fields in front of the MIC. -/
def stepHead (s : Ieee80211) (step : Nat) (counter : Bytes) : Bytes :=
  eapolKeyHead (95 + (s.stepKeyData step).length) (stepKeyInfo step) counter s.snonce

/-- The fields behind the MIC. -/
def stepTail (s : Ieee80211) (step : Nat) : Bytes :=
  be16 (s.stepKeyData step).length ++ s.stepKeyData step

/-- The MIC. -/
def stepCode (s : Ieee80211) (step : Nat) (counter : Bytes) : Bytes :=
  (kernHmacSha1 s.kck (s.stepHead step counter ++ (zeros 16 ++ s.stepTail step))).take 16

theorem length_stepKeyData (s : Ieee80211) (step : Nat) :
    (s.stepKeyData step).length = if step = 2 then 22 else 0 := by
  unfold stepKeyData
  split <;> rfl

theorem length_kck (s : Ieee80211) : s.kck.length < 4294967296 := by
  rw [kck, List.length_take]
  omega

theorem length_stepHead_lt (s : Ieee80211) (step : Nat) {counter : Bytes}
    (head : (s.stepHead step counter).length = 81) :
    (s.stepHead step counter ++ (zeros 16 ++ s.stepTail step)).length < 4294967296 := by
  have small := length_stepKeyData s step
  simp only [stepTail, be16, List.length_append, head, length_zeros, List.length_cons,
    List.length_nil]
  split at small <;> omega

theorem eapolKeyFrame_eq (s : Ieee80211) (step : Nat) (counter : Bytes) :
    s.eapolKeyFrame step counter false false true = s.targetBSS.bssid ++ s.macAddr ++
      be16 ethPPae ++ (s.stepHead step counter ++
        (s.stepCode step counter ++ s.stepTail step)) := by
  have code : s.stepCode step counter =
      (kernHmacSha1 s.kck (s.stepHead step counter ++ zeros 16 ++ s.stepTail step)).take 16 := by
    rw [List.append_assoc]
    rfl
  rw [code, ← List.append_assoc, ← List.append_assoc]
  rfl

/-- The frame behind the Ethernet header, whatever its counter and its nonce are. -/
theorem eapolKey_of_addresses {s : Ieee80211} (bssid : s.targetBSS.bssid.length = 6)
    (macAddr : s.macAddr.length = 6) (step : Nat) (counter : Bytes) :
    s.eapolKey step counter =
      s.stepHead step counter ++ (s.stepCode step counter ++ s.stepTail step) := by
  have front : (s.targetBSS.bssid ++ s.macAddr ++ be16 ethPPae).length = 14 := by
    simp [be16, bssid, macAddr]
  rw [eapolKey, eapolKeyFrame_eq, List.drop_left' front]

theorem keyInfo_eapolKey {s : Ieee80211} (bssid : s.targetBSS.bssid.length = 6)
    (macAddr : s.macAddr.length = 6) (step : Nat) (counter : Bytes) :
    (s.eapolKey step counter).keyInfo = stepKeyInfo step := by
  have word := be16At_be16 ([2, 3] ++ be16 (95 + (s.stepKeyData step).length) ++ [2])
    ([0, 16] ++ counter ++ s.snonce ++ zeros 32 ++ (s.stepCode step counter ++ s.stepTail step))
    (stepKeyInfo step) (by unfold stepKeyInfo; split <;> decide)
  rw [keyInfo, eapolKey_of_addresses bssid macAddr, stepHead, eapolKeyHead]
  simp only [List.append_assoc] at word ⊢
  exact word

section

variable {s : Ieee80211} {counter : Bytes} (arrays : s.KeyArrays counter) (step : Nat)
include arrays

namespace KeyArrays

theorem length_head : (s.stepHead step counter).length = 81 := by
  simp [stepHead, eapolKeyHead, be16, arrays.counter, arrays.snonce]

/-- The MIC is a code of HMAC-SHA1. -/
theorem code_eq : s.stepCode step counter =
    (hmacSha1 s.kck (s.stepHead step counter ++ (zeros 16 ++ s.stepTail step))).take 16 := by
  rw [stepCode, kernHmacSha1_eq s.length_kck (s.length_stepHead_lt step (arrays.length_head step))]

theorem length_code : (s.stepCode step counter).length = 16 := by
  rw [arrays.code_eq, List.length_take, length_hmacSha1]
  rfl

theorem eapolKey_eq : s.eapolKey step counter =
    s.stepHead step counter ++ (s.stepCode step counter ++ s.stepTail step) :=
  eapolKey_of_addresses arrays.bssid arrays.macAddr step counter

theorem length_eapolKey : (s.eapolKey step counter).length = 99 + (s.stepKeyData step).length := by
  simp only [arrays.eapolKey_eq, stepTail, be16, List.length_append, arrays.length_head,
    arrays.length_code, List.length_cons, List.length_nil]
  omega

theorem bodyLength : (s.eapolKey step counter).be16At 2 = 95 + (s.stepKeyData step).length := by
  have small := length_stepKeyData s step
  have word := be16At_be16 [2, 3] ([2] ++ be16 (stepKeyInfo step) ++ [0, 16] ++ counter ++
    s.snonce ++
    zeros 32 ++ (s.stepCode step counter ++ s.stepTail step)) (95 + (s.stepKeyData step).length)
    (by split at small <;> omega)
  rw [arrays.eapolKey_eq, stepHead, eapolKeyHead]
  simp only [List.append_assoc] at word ⊢
  exact word

theorem counter_eapolKey : (s.eapolKey step counter).slice 9 8 = counter := by
  have place : ([2, 3] ++ be16 (95 + (s.stepKeyData step).length) ++ [2] ++
      be16 (stepKeyInfo step) ++ [0, 16]).length = 9 := rfl
  have read := slice_middle _ counter (s.snonce ++ zeros 32 ++
    (s.stepCode step counter ++ s.stepTail step)) place arrays.counter
  rw [arrays.eapolKey_eq, stepHead, eapolKeyHead]
  simpa only [List.append_assoc] using read

theorem nonce_eapolKey : (s.eapolKey step counter).slice 17 32 = s.snonce := by
  have place : ([2, 3] ++ be16 (95 + (s.stepKeyData step).length) ++ [2] ++
      be16 (stepKeyInfo step) ++ [0, 16] ++ counter).length = 17 := by
    simp [be16, arrays.counter]
  have read := slice_middle _ s.snonce (zeros 32 ++
    (s.stepCode step counter ++ s.stepTail step)) place arrays.snonce
  rw [arrays.eapolKey_eq, stepHead, eapolKeyHead]
  simpa only [List.append_assoc] using read

theorem mic_eapolKey : (s.eapolKey step counter).slice 81 16 = s.stepCode step counter := by
  rw [arrays.eapolKey_eq]
  exact slice_middle _ _ _ (arrays.length_head step) (arrays.length_code step)

theorem unsigned_eapolKey : unsignedKey (s.eapolKey step counter) =
    s.stepHead step counter ++ (zeros 16 ++ s.stepTail step) := by
  have signed : (s.stepHead step counter ++ s.stepCode step counter).length = 81 + 16 := by
    rw [List.length_append, arrays.length_head, arrays.length_code]
  rw [unsignedKey, overwrite, arrays.eapolKey_eq, length_zeros,
    List.take_left' (arrays.length_head step),
    ← List.append_assoc, List.drop_left' signed, List.append_assoc]

theorem keyDataLen_eapolKey :
    (s.eapolKey step counter).keyDataLen = (s.stepKeyData step).length := by
  have place : (s.stepHead step counter ++ s.stepCode step counter).length = 97 := by
    rw [List.length_append, arrays.length_head, arrays.length_code]
  have small := length_stepKeyData s step
  have word := be16At_be16 (s.stepHead step counter ++ s.stepCode step counter)
    (s.stepKeyData step) _ (show (s.stepKeyData step).length < 65536 by split at small <;> omega)
  rw [place] at word
  rw [keyDataLen, arrays.eapolKey_eq, stepTail]
  simpa only [List.append_assoc] using word

theorem keyData_eapolKey : (s.eapolKey step counter).keyData = s.stepKeyData step := by
  have place : (s.stepHead step counter ++ (s.stepCode step counter ++
      be16 (s.stepKeyData step).length)).length = 99 := by
    simp [arrays.length_head, arrays.length_code, be16]
  have read := slice_middle _ (s.stepKeyData step) [] place rfl
  rw [keyData, arrays.keyDataLen_eapolKey, arrays.eapolKey_eq, stepTail]
  simpa only [List.append_assoc, List.append_nil] using read

end KeyArrays

end

end Ieee80211

/-! ## The code -/

theorem eapolMicMatches_iff {kck eapol : Bytes} (key : kck.length < 4294967296)
    (small : eapol.length < 4294967296) :
    eapolMicMatches kck eapol = true ↔ SignedKey kck eapol := by
  have unsigned : (unsignedKey eapol).length < 4294967296 := by
    rw [unsignedKey, overwrite]
    simp only [List.length_append, List.length_take, List.length_drop, length_zeros]
    omega
  rw [eapolMicMatches, SignedKey, ← kernHmacSha1_eq key unsigned]
  exact beq_iff_eq

/-- Any frame is verified exactly if it is long enough and its MIC is the code of the rest. -/
theorem verifiesIff_signedKey {kck eapol : Bytes} (key : kck.length < 4294967296)
    (small : eapol.length < 4294967296) :
    VerifiesIff kck eapol (99 ≤ eapol.length ∧ SignedKey kck eapol) := by
  intro s
  unfold M.eapolMicOk M.succeeds
  simp only [Prog.bind_eq_bind, Prog.pure_eq_ret, Prog.traces_bind, Prog.traces_ite,
    Prog.traces_ret, Prog.traces_choose]
  refine ⟨fun short => ?_, fun long answer granted => ⟨fun failed => ?_, fun _ => ?_⟩⟩
  · exact iff_of_false Bool.false_ne_true fun ends => Nat.not_lt.mpr ends.1 short
  · exact absurd failed (by simpa [Answer.succeeded] using granted)
  · rw [eapolMicMatches_iff key small]
    exact (and_iff_right (Nat.not_lt.mp long)).symm

theorem Ieee80211.KeyArrays.agrees {s : Ieee80211} {counter : Bytes}
    (arrays : s.KeyArrays counter) (step : Nat) : s.KeyFrameAgrees step counter := by
  have length := arrays.length_eapolKey step
  have dataLen := arrays.keyDataLen_eapolKey step
  have body := arrays.bodyLength step
  have small := s.length_stepKeyData step
  have whole : (s.eapolKey step counter).length = (s.eapolKey step counter).eapolLength := by
    rw [eapolLength]
    omega
  have signed : SignedKey s.kck (s.eapolKey step counter) := by
    rw [SignedKey, arrays.mic_eapolKey, arrays.unsigned_eapolKey, arrays.code_eq]
  constructor
  case body => rw [body, dataLen]
  case whole => exact whole
  case inside => rw [arrays.keyData_eapolKey, dataLen]
  case taken =>
    refine decide_eq_true ⟨by omega, ?_, by omega, by omega⟩
    rw [arrays.eapolKey_eq]
    rfl
  case verifies =>
    have verifies := verifiesIff_signedKey s.length_kck
      (show (s.eapolKey step counter).length < 4294967296 by split at small <;> omega)
    rw [eq_true (show 99 ≤ (s.eapolKey step counter).length by omega), eq_true signed, true_and]
      at verifies
    exact verifies
  case nonce => exact arrays.nonce_eapolKey step
  case replayCounter => exact arrays.counter_eapolKey step

end AirportRtw88
