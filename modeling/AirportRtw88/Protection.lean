import AirportRtw88.Steady

/-!
# Protected frames

Every data frame of an encrypted link should leave encrypted, and no two frames under one
temporal key should carry the same packet number.
-/

namespace AirportRtw88

open Interleave Bytes

/-- The value of a packet number, least significant byte first. -/
def pnValue : Bytes → Nat
  | [] => 0
  | byte :: rest => byte.toNat + 256 * pnValue rest

namespace TxSkb

/-- The CCMP header of a frame, which follows its MAC header. -/
def ccmp (skb : TxSkb) : Bytes :=
  skb.data.slice skb.data.hdrLen 8

/-- The packet number in the CCMP header. -/
def packetNumber (skb : TxSkb) : Bytes :=
  [skb.ccmp.byte 0, skb.ccmp.byte 1, skb.ccmp.byte 4, skb.ccmp.byte 5, skb.ccmp.byte 6,
    skb.ccmp.byte 7]

/-- The frame is marked as protected, it has a CCMP header, and it has a key. -/
structure Encrypted (skb : TxSkb) : Prop where
  marked : skb.data.hasProtected = true
  header : ∃ keyidx, skb.ccmp = ccmpHeader skb.packetNumber keyidx
  keyed : skb.hwKey.isSome = true

end TxSkb

/-! ## The frames of `txDataFrame` -/

namespace Ieee80211

section

variable (s : Ieee80211) (eh payload : Bytes)

theorem hasProtected_encapsulate :
    (s.encapsulate eh payload).data.hasProtected = s.protects (eh.be16At 12) := by
  unfold Bytes.hasProtected
  rw [frameControl_encapsulate]
  unfold dataFrameControl
  cases s.protects (eh.be16At 12) <;> cases s.htAllowed <;> decide

theorem length_dataHeader {s : Ieee80211} (target : s.targetBSS.bssid.length = 6)
    (macAddr : s.macAddr.length = 6) {eh payload : Bytes} (whole : eh.length = 14) :
    (s.encapsulate eh payload).data.hdrLen = (s.dataHeader eh).length := by
  unfold Bytes.hdrLen
  rw [frameControl_encapsulate]
  unfold dataHeader dataFrameControl header3addr
  have two : ∀ word, (le16 word).length = 2 := fun _ => rfl
  simp only [List.length_append, two, target, macAddr, List.length_take, whole]
  cases s.protects (eh.be16At 12) <;> cases s.htAllowed <;> rfl

end

/-- The CCMP header stands where it is read. -/
theorem ccmp_encapsulate {s : Ieee80211} (sound : s.Sound) {eh payload : Bytes}
    (whole : eh.length = 14) (isProtected : s.protects (eh.be16At 12) = true) :
    (s.encapsulate eh payload).ccmp =
      ccmpHeader s.ccmpTxPn ((s.ptkConf.map KeyConf.keyidx).getD 0) := by
  unfold TxSkb.ccmp
  rw [length_dataHeader sound.target sound.macAddr whole, data_encapsulate, if_pos isProtected]
  unfold Bytes.slice
  rw [List.drop_left]
  exact List.take_left' rfl

theorem packetNumber_encapsulate {s : Ieee80211} (sound : s.Sound) {eh payload : Bytes}
    (whole : eh.length = 14) (isProtected : s.protects (eh.be16At 12) = true) :
    (s.encapsulate eh payload).packetNumber = s.ccmpTxPn := by
  unfold TxSkb.packetNumber
  rw [ccmp_encapsulate sound whole isProtected]
  obtain ⟨b0, b1, b2, b3, b4, b5, pn⟩ :
      ∃ b0 b1 b2 b3 b4 b5, s.ccmpTxPn = [b0, b1, b2, b3, b4, b5] := by
    have length := sound.txPn
    match s.ccmpTxPn, length with
    | [b0, b1, b2, b3, b4, b5], _ => exact ⟨b0, b1, b2, b3, b4, b5, rfl⟩
  rw [pn]
  rfl

theorem hwKey_encapsulate (s : Ieee80211) (eh payload : Bytes) :
    (s.encapsulate eh payload).hwKey =
      if s.protects (eh.be16At 12) then s.ptkConf else none :=
  rfl

end Ieee80211

/-! ## Protection -/

/-- The step hands over a data frame of an encrypted link; EAPOL frames are exempt. -/
structure SendsOnWpa2 (config : DriverConfig) (move : DriverMove) (skb : TxSkb) : Prop where
  sends : move.stop = .waits (.tx .data skb)
  wpa2 : config.state.wpa2 = true
  other : skb.protocol ≠ ethPPae

theorem encrypted_iff {s : Ieee80211} (sound : s.Sound) {eh payload : Bytes}
    (whole : eh.length = 14) :
    (s.encapsulate eh payload).Encrypted ↔ s.protects (eh.be16At 12) = true := by
  refine ⟨fun encrypted => ?_, fun isProtected => ⟨?_, ?_, ?_⟩⟩
  · rw [← s.hasProtected_encapsulate eh payload]
    exact encrypted.marked
  · rw [s.hasProtected_encapsulate, isProtected]
  · rw [Ieee80211.ccmp_encapsulate sound whole isProtected,
      Ieee80211.packetNumber_encapsulate sound whole isProtected]
    exact ⟨_, rfl⟩
  · rw [s.hwKey_encapsulate, if_pos isProtected]
    simp only [Ieee80211.protects, Bool.and_eq_true] at isProtected
    exact isProtected.1.2

/-- Every data frame of an encrypted link leaves encrypted. -/
def AlwaysEncrypted : Prop :=
  ∀ (config config' : DriverConfig) (move : DriverMove) (skb : TxSkb),
    rtw88.Reachable Ieee80211.initial config → rtw88.Step config move config' →
      SendsOnWpa2 config move skb → skb.Encrypted

/-- Such a frame leaves encrypted exactly if the state it is sent in satisfies the condition. -/
def EncryptedExactlyWhen (condition : Ieee80211 → Prop) (config config' : DriverConfig)
    (move : DriverMove) (skb : TxSkb) : Prop :=
  rtw88.Reachable Ieee80211.initial config → rtw88.Step config move config' →
    SendsOnWpa2 config move skb → (skb.Encrypted ↔ condition config.state)

/-- A data frame leaves encrypted exactly if a pairwise key is installed at that moment. -/
theorem encrypted_iff_keyed (config config' : DriverConfig) (move : DriverMove) (skb : TxSkb) :
    EncryptedExactlyWhen (fun s => s.ptkConf.isSome = true) config config' move skb := by
  intro reachable taken sends
  have keyed := keyed_of_reachable reachable
  have step := (keyed.step taken).1
  by_cases output : ∃ m, move.op = .outputPacket m
  · obtain ⟨m, own⟩ := output
    rw [own] at step
    rcases step with ⟨⟨_, returns⟩, -⟩ | ⟨-, whole, ⟨⟨_, returns⟩, -⟩ | ⟨sent, -⟩⟩
    · simp [sends.sends] at returns
    · simp [sends.sends] at returns
    · cases sends.sends.symm.trans sent
      rw [encrypted_iff (keyed.guard.bumpTxPn _) whole]
      have ethertype : Bytes.be16At (m.data.take 14) 12 ≠ ethPPae := sends.other
      simp [Ieee80211.protects, Ieee80211.bumpTxPn, sends.wpa2, ethertype]
  · rw [keyStep_of_steady fun m same => output ⟨m, same⟩] at step
    exact absurd (step.2 _ sends.sends skb rfl).1 sends.other

namespace Scenario

/-- A beacon of a WPA2 network. -/
def secured : Skb :=
  beacon 0x11 (rtw88BuildSelectedRsnIe cipherCcmp)

/-- A connection to the WPA2 network, whose keys another supplicant will install. -/
def connectedExternally : List (Turn Answer Op) :=
  scan secured ++ .start (.cmdConnect (toNetwork none true)) [] :: authenticate ++
    .start (.rxFrame authResponse) [] :: List.replicate 4 (goOn 0) ++
    .start (.rxFrame assocResponse) [] :: List.replicate 4 (goOn 0)

/-- An IPv4 packet. -/
def packet : Mbuf where
  id := 1
  data := apAddr ++ ownAddr ++ [8, 0] ++ [0x45]

/-- A packet is sent before the supplicant has installed its key. -/
def sentInTheClear : Option Bool := do
  let config ← play connectedExternally
  let (move, _) ← rtw88.turn config (.start (.outputPacket packet) [])
  return config.state.wpa2 && match move.stop with
    | .waits (.tx .data skb) => skb.protocol ≠ ethPPae && skb.hwKey = none
    | _ => false

theorem sentInTheClear_true : sentInTheClear = some true := by
  decide +kernel

end Scenario

theorem not_alwaysEncrypted : ¬ AlwaysEncrypted := by
  intro encrypted
  have run := Scenario.sentInTheClear_true
  simp only [Scenario.sentInTheClear, Option.bind_eq_bind, Option.bind_eq_some_iff, Prod.exists,
    Option.pure_def, Option.some.injEq, Bool.and_eq_true] at run
  obtain ⟨config, played, move, config', turn, wpa2, sends⟩ := run
  split at sends
  · rename_i skb waits
    simp only [Bool.and_eq_true, decide_eq_true_eq] at sends
    have keyed := (encrypted config config' move skb (Scenario.reachable_of_play played)
      (System.step_of_turn turn) ⟨waits, wpa2, sends.1⟩).keyed
    simp [sends.2] at keyed
  · simp at sends

/-! ## Packet numbers -/

theorem pnValue_lt (pn : Bytes) : pnValue pn < 256 ^ pn.length := by
  induction pn with
  | nil => simp [pnValue]
  | cons byte rest ih =>
      have bound := byte.toNat_lt
      simp only [pnValue, List.length_cons, Nat.pow_succ]
      omega

/-- The increment counts modulo the width of the number. -/
theorem pnValue_incrementPn_mod (pn : Bytes) :
    pnValue (incrementPn pn) = (pnValue pn + 1) % 256 ^ pn.length := by
  induction pn with
  | nil => rfl
  | cons byte rest ih =>
      have bound := byte.toNat_lt
      have small := pnValue_lt rest
      unfold incrementPn
      split
      · rename_i carries
        have room : byte.toNat + 1 < 256 := by
          refine Nat.lt_of_le_of_ne (by omega) fun full => carries ?_
          exact UInt8.toNat_inj.mp (by simp [UInt8.toNat_add, full])
        have next : (byte + 1).toNat = byte.toNat + 1 := by
          simpa [UInt8.toNat_add] using room
        simp only [pnValue, List.length_cons, Nat.pow_succ, next]
        rw [Nat.mod_eq_of_lt (by omega)]
        omega
      · rename_i wraps
        have full : byte.toNat = 255 := by
          have zero := congrArg UInt8.toNat (not_not.mp wraps)
          simp only [UInt8.toNat_add] at zero
          simp at zero
          omega
        have carried : 255 + 256 * pnValue rest + 1 = 256 * (pnValue rest + 1) := by omega
        simp only [pnValue, List.length_cons, Nat.pow_succ', full]
        rw [ih, not_not.mp wraps, carried, Nat.mul_mod_mul_left]
        exact Nat.zero_add _

theorem pnValue_incrementPn {pn : Bytes} (room : pnValue pn + 1 < 256 ^ pn.length) :
    pnValue (incrementPn pn) = pnValue pn + 1 := by
  rw [pnValue_incrementPn_mod, Nat.mod_eq_of_lt room]

namespace Ieee80211

/-- The packet numbers of the frames sent under one temporal key increase. -/
def NoncesIncrease (s : Ieee80211) : Prop :=
  s.protectedFrames.Pairwise fun later earlier =>
    ∀ key used, later.hwKey = some key → earlier.hwKey = some used → used.key = key.key →
      pnValue earlier.packetNumber < pnValue later.packetNumber

/-- The number of frames protected under a temporal key. -/
def sentUnder (s : Ieee80211) (temporalKey : Bytes) : Nat :=
  (s.protectedFrames.filter fun skb => skb.hwKey.any fun key => key.key = temporalKey).length

/-- No frame was protected under the temporal key. -/
def Fresh (s : Ieee80211) (key : KeyConf) : Prop :=
  ∀ skb ∈ s.protectedFrames, ∀ used, skb.hwKey = some used → used.key ≠ key.key

/-- The invariant: the current key was not used with a number above the current one. -/
structure Numbered (s : Ieee80211) : Prop where
  increase : s.NoncesIncrease
  current : ∀ key, s.ptkConf = some key → ∀ skb ∈ s.protectedFrames, ∀ used,
    skb.hwKey = some used → used.key = key.key → pnValue skb.packetNumber ≤ pnValue s.ccmpTxPn

end Ieee80211

/-- No two frames under one temporal key carry the same packet number, in the runs whose steps
satisfy `admits`. -/
def NoncesUnique (admits : DriverConfig → DriverMove → Prop) (s : Ieee80211)
    (config : DriverConfig) : Prop :=
  s.initial → rtw88.Reaches (fun config move _ => admits config move) ⟨s, []⟩ config →
    (∀ temporalKey, config.state.sentUnder temporalKey < 2 ^ 48) → config.state.NoncesIncrease

/-- The driver accepts only pairwise keys that were not used yet, and the packet number does
not run out. -/
structure KeysFresh (config : DriverConfig) (move : DriverMove) : Prop where
  fresh : ∀ key answer, move.resumed = some (.setKey .installKey true true key, answer) →
    answer.code = 0 → config.state.Fresh key
  room : ∀ m, move.op = .outputPacket m → move.resumed = none →
    pnValue config.state.ccmpTxPn + 1 < 2 ^ 48

theorem pnValue_bumpTxPn {s : Ieee80211} (sound : s.Sound) (room : pnValue s.ccmpTxPn + 1 < 2 ^ 48)
    (ethertype : Nat) :
    pnValue (s.bumpTxPn ethertype).ccmpTxPn =
      if s.protects ethertype then pnValue s.ccmpTxPn + 1 else pnValue s.ccmpTxPn := by
  unfold Ieee80211.bumpTxPn
  dsimp only
  split
  · exact pnValue_incrementPn (by rw [sound.txPn]; omega)
  · rfl

namespace Ieee80211.Numbered

variable {s : Ieee80211}

theorem of_link {t : Ieee80211} (numbered : s.Numbered) (same : t.link = s.link) :
    t.Numbered := by
  simp only [link, Link.mk.injEq] at same
  refine ⟨?_, ?_⟩
  · unfold NoncesIncrease
    rw [show t.protectedFrames = s.protectedFrames by simp [same]]
    exact numbered.increase
  · simp only [same]
    exact numbered.current

/-- The packet number is counted up. -/
theorem bumpTxPn (numbered : s.Numbered) (sound : s.Sound)
    (room : pnValue s.ccmpTxPn + 1 < 2 ^ 48) (ethertype : Nat) :
    (s.bumpTxPn ethertype).Numbered := by
  refine ⟨numbered.increase, fun key isKey skb member used hasKey same => ?_⟩
  have old := numbered.current key isKey skb member used hasKey same
  rw [pnValue_bumpTxPn sound room]
  split <;> omega

/-- A frame with the number that was counted is handed over. -/
theorem hands (numbered : s.Numbered) (sound : s.Sound) (room : pnValue s.ccmpTxPn + 1 < 2 ^ 48)
    {header payload : Bytes} (whole : header.length = 14) :
    ((s.bumpTxPn (header.be16At 12)).recordTx
      ((s.bumpTxPn (header.be16At 12)).encapsulate header payload)).Numbered := by
  have counted := sound.bumpTxPn (header.be16At 12)
  have bumped := numbered.bumpTxPn sound room (header.be16At 12)
  cases isProtected : s.protects (header.be16At 12) with
  | false =>
      have bare : ¬ (s.bumpTxPn (header.be16At 12)).protects (header.be16At 12) = true :=
        fun holds => Bool.false_ne_true (isProtected.symm.trans holds)
      exact bumped.of_link (link_recordTx _ ((hwKey_encapsulate _ _ _).trans (if_neg bare)))
  | true =>
      have hwKey : ((s.bumpTxPn (header.be16At 12)).encapsulate header payload).hwKey = s.ptkConf :=
        (hwKey_encapsulate _ _ _).trans (if_pos isProtected)
      have number : ((s.bumpTxPn (header.be16At 12)).encapsulate header payload).packetNumber =
          (s.bumpTxPn (header.be16At 12)).ccmpTxPn :=
        packetNumber_encapsulate counted whole isProtected
      have value := pnValue_bumpTxPn sound room (header.be16At 12)
      rw [if_pos isProtected] at value
      have isSome : s.ptkConf.isSome = true := by
        simp only [protects, Bool.and_eq_true] at isProtected
        exact isProtected.1.2
      have frames : ((s.bumpTxPn (header.be16At 12)).recordTx
          ((s.bumpTxPn (header.be16At 12)).encapsulate header payload)).protectedFrames =
          (s.bumpTxPn (header.be16At 12)).encapsulate header payload :: s.protectedFrames :=
        List.filter_cons_of_pos (by rw [hwKey, isSome])
      refine ⟨?_, fun key isKey skb member used hasKey same => ?_⟩
      · unfold NoncesIncrease
        rw [frames, List.pairwise_cons]
        refine ⟨fun skb member key used isKey hasKey same => ?_, numbered.increase⟩
        have old := numbered.current key (hwKey ▸ isKey) skb member used hasKey same
        rw [number, value]
        omega
      · rw [frames] at member
        rcases List.mem_cons.mp member with rfl | old
        · exact Nat.le_of_eq (congrArg pnValue number)
        · exact bumped.current key isKey skb old used hasKey same

/-- The pairwise key is removed, or a fresh one is installed. -/
theorem keyWrite {t : Ieee80211} {resumed : Option (Call × Answer)} (numbered : s.Numbered)
    (sent : t.protectedFrames = s.protectedFrames) (write : KeyWrite resumed s t)
    (fresh : ∀ key answer, resumed = some (.setKey .installKey true true key, answer) →
      answer.code = 0 → s.Fresh key) : t.Numbered := by
  refine ⟨?_, fun key isKey skb member used hasKey same => ?_⟩
  · unfold NoncesIncrease
    rw [sent]
    exact numbered.increase
  rw [sent] at member
  rcases write with ⟨kept | removed, txPn⟩ | ⟨-,
    removed | ⟨key', answer, installed, accepted, from_⟩⟩
  · rw [txPn]
    exact numbered.current key (kept ▸ isKey) skb member used hasKey same
  · simp [removed] at isKey
  · simp [removed] at isKey
  · cases isKey.symm.trans installed
    exact absurd same (fresh key answer from_ accepted skb member used hasKey)

end Ieee80211.Numbered

theorem Ieee80211.initial.numbered {s : Ieee80211} (initial : s.initial) : s.Numbered := by
  obtain ⟨attached, -, rfl⟩ := initial
  exact ⟨.nil, nofun⟩

theorem Ieee80211.Numbered.step {config config' : DriverConfig} {move : DriverMove}
    (numbered : config.state.Numbered) (admitted : KeysFresh config move)
    (sound : config.state.Sound)
    (step : KeyStep move.op move.resumed config.state move.stop config'.state) :
    config'.state.Numbered := by
  by_cases output : ∃ m, move.op = .outputPacket m
  · obtain ⟨m, own⟩ := output
    rw [own] at step
    rcases step with ⟨-, same⟩ | ⟨starts, whole, ⟨-, same⟩ | ⟨-, same⟩⟩
    · exact numbered.of_link same
    · exact (numbered.bumpTxPn sound (admitted.room m own starts) _).of_link same
    · exact (numbered.hands sound (admitted.room m own starts) whole).of_link same
  · rw [keyStep_of_steady fun m same => output ⟨m, same⟩] at step
    exact numbered.keyWrite step.1.sent step.1.keys admitted.fresh

/-- Packet numbers are unique as long as no temporal key is installed a second time. -/
theorem nonces_unique (s : Ieee80211) (config : DriverConfig) :
    NoncesUnique KeysFresh s config := by
  intro initial run _
  let holds (config : DriverConfig) : Prop := config.state.Numbered
  have kept : Keyed config ∧ holds config :=
    (keyed_initial initial).run
      (fun _ _ _ _ admitted sound step numbered => numbered.step admitted sound step)
      initial.numbered run
  exact kept.2.increase

namespace Scenario

/-- The supplicant installs a key, and installs it again after a packet was sent. -/
def reinstalled : List (Turn Answer Op) :=
  let install : Turn Answer Op :=
    .start (.cmdInstallExternalKey true 0 cipherCcmp (some (List.replicate 16 1))) []
  connectedExternally ++ [install, goOn 0, .start (.outputPacket packet) [], goOn 0] ++
    [install, goOn 0, goOn 0, .start (.outputPacket packet) []]

def sentTwice : Option Bool := do
  let config ← play reinstalled
  match config.state.protectedFrames with
  | [later, earlier] =>
      return later.hwKey.isSome && later.hwKey = earlier.hwKey &&
        later.packetNumber = earlier.packetNumber
  | _ => none

theorem sentTwice_true : sentTwice = some true := by
  decide +kernel

end Scenario

theorem not_nonces_unique : ¬ ∀ s config, NoncesUnique (fun _ _ => True) s config := by
  intro unique
  have run := Scenario.sentTwice_true
  simp only [Scenario.sentTwice, Option.bind_eq_bind, Option.bind_eq_some_iff] at run
  obtain ⟨config, played, sent⟩ := run
  split at sent
  · rename_i later earlier frames
    simp only [Option.pure_def, Option.some.injEq, Bool.and_eq_true, decide_eq_true_eq] at sent
    obtain ⟨⟨keyed, sameKey⟩, sameNumber⟩ := sent
    obtain ⟨key, isKey⟩ := Option.isSome_iff_exists.mp keyed
    obtain ⟨s, initial, reached⟩ := Scenario.reachable_of_play played
    have increase := unique s config initial reached fun temporalKey => by
      refine Nat.lt_of_le_of_lt (List.length_filter_le _ _) ?_
      simp [frames]
    unfold Ieee80211.NoncesIncrease at increase
    rw [frames, List.pairwise_cons] at increase
    have less := increase.1 earlier (by simp) key key isKey (sameKey ▸ isKey) rfl
    rw [sameNumber] at less
    exact Nat.lt_irrefl _ less
  · simp at sent

end AirportRtw88
