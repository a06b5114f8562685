import AirportRtw88.System
import AirportRtw88.Interleave.Frame
import AirportRtw88.Interleave.History

/-!
# Replay counters

The messages of the handshake carry replay counters.  `handleEAPOL` stores the counter of each
message that it acts on, and compares none.  The counters of one association are recorded, and
compared with `_replayCtr`.
-/

namespace AirportRtw88

open Interleave Bytes

namespace Bytes

/-- The number that the bytes spell, the most significant first. -/
def bigEndian (bytes : Bytes) : Nat :=
  bytes.foldl (fun value byte => 256 * value + byte.toNat) 0

/-- The replay counter of a message. -/
def replayCounter (data : Bytes) : Nat :=
  bigEndian (data.slice 9 8)

end Bytes

/-- An M3 whose keys are installed, and the M1 of its association that it completes. -/
structure Acceptance where
  counter : Nat
  m1 : Option Nat
  deriving DecidableEq

/-- The counters of an association: that of the last M1 that was answered, and those of the M3s
that were accepted, the last one first. -/
structure Counters where
  m1 : Option Nat
  accepted : List Acceptance
  deriving DecidableEq

/-- A message of the handshake, an association, and any other change. -/
inductive ShakeOp : Type where
  | handleEAPOL (data : Bytes)
  | associated (other : Ieee80211)
  | elsewhere (other : Ieee80211)

namespace Ieee80211

/-- Everything but the replay counter changes: only `handleEAPOL` writes it. -/
def exceptCounter (s other : Ieee80211) : Ieee80211 :=
  { other with replayCtr := s.replayCtr }

/-- An M3 whose code verifies and whose key data can be read. -/
def acceptsM3 (s : Ieee80211) (data : Bytes) (answers : List Answer) : Bool :=
  (answers.headD default).code = 0 ∧ eapolMicMatches s.kck data.eapolFrame = true ∧
    99 + data.keyDataLen ≤ data.eapolLength ∧ (plainKeyData s.kek data).isSome = true

end Ieee80211

def ShakeOp.program : ShakeOp → M IOReturn
  | .handleEAPOL data => M.returning (M.handleEAPOL data)
  | .associated other | .elsewhere other =>
      M.returning (Prog.update fun s => s.exceptCounter other)

/-- The handshake of the internal supplicant, with everything else around it. -/
def shaking : System Ieee80211 Call Answer ShakeOp IOReturn where
  program := ShakeOp.program
  enabled
    | .handleEAPOL _, s => s.state = .handshaking ∧ s.externalSupplicant = false
    | .associated other, _ => other.state = .handshaking
    | .elsewhere _, _ => True
  ready _ _ := True

instance (op : ShakeOp) (s : Ieee80211) : Decidable (shaking.enabled op s) := by
  cases op <;> unfold shaking <;> infer_instance

instance (call : Call) (s : Ieee80211) : Decidable (shaking.ready call s) :=
  inferInstanceAs (Decidable True)

namespace Counters

/-- What is recorded when an operation starts. -/
def started (counters : Counters) (op : ShakeOp) (answers : List Answer) (s : Ieee80211) :
    Counters :=
  match op with
  | .handleEAPOL data =>
      if data.isEapolKey = true then
        if data.isM1 = true then { counters with m1 := some data.replayCounter }
        else if data.isM3 = true ∧ s.acceptsM3 data answers = true then
          { counters with accepted := ⟨data.replayCounter, counters.m1⟩ :: counters.accepted }
        else counters
      else counters
  | .associated _ => ⟨none, []⟩
  | .elsewhere _ => counters

def after (next : Turn Answer ShakeOp) (s : Ieee80211) (counters : Counters) : Counters :=
  match next with
  | .start op answers => counters.started op answers s
  | .resume _ _ _ => counters

end Counters

abbrev ShakeConfig : Type := Config Ieee80211 Call Answer ShakeOp IOReturn × Counters

/-- The runs whose turns are allowed. -/
def ShakeRuns (allows : Turn Answer ShakeOp → Ieee80211 → Counters → Prop) :
    ShakeConfig → ShakeConfig → Prop :=
  shaking.Recorded Counters.after allows

/-- A message that is taken for an M3. -/
def Bytes.isThird (data : Bytes) : Bool :=
  data.isEapolKey && !data.isM1 && data.isM3

/-- Replays are rejected: the M3s that were accepted count up, and are above their M1s; an M3 that
is not above its M1 changes nothing. -/
structure ShakeConfig.Fresh (allows : Turn Answer ShakeOp → Ieee80211 → Counters → Prop)
    (now : ShakeConfig) : Prop where
  increasing : (now.2.accepted.map Acceptance.counter).Pairwise (· > ·)
  above : ∀ acceptance ∈ now.2.accepted, ∀ counter, acceptance.m1 = some counter →
    counter < acceptance.counter
  rejects : ∀ data answers move config counter, data.isThird = true → now.2.m1 = some counter →
    data.replayCounter ≤ counter → allows (.start (.handleEAPOL data) answers) now.1.state now.2 →
    shaking.turn now.1 (.start (.handleEAPOL data) answers) = some (move, config) →
    config = now.1

/-- Replays are rejected in every run of allowed turns. -/
def AlwaysFresh (allows : Turn Answer ShakeOp → Ieee80211 → Counters → Prop) (s : Ieee80211) :
    Prop :=
  s.initial → ∀ now, ShakeRuns allows (⟨s, []⟩, ⟨none, []⟩) now → ShakeConfig.Fresh allows now

/-- Once an M1 or an M3 of the association was handled, an M3 that would be accepted is above
`_replayCtr`; once an M3 was, an M1 is not below. -/
def countsUp (next : Turn Answer ShakeOp) (s : Ieee80211) (counters : Counters) : Prop :=
  match next with
  | .start (.handleEAPOL data) answers =>
      (data.isEapolKey = true → data.isM1 = true → counters.accepted ≠ [] →
        bigEndian s.replayCtr ≤ data.replayCounter) ∧
      (data.isThird = true → s.acceptsM3 data answers = true →
        counters.m1.isSome = true ∨ counters.accepted ≠ [] →
        bigEndian s.replayCtr < data.replayCounter)
  | _ => True

/-! ## What the messages do to the counter -/

namespace M

open Ieee80211 Prog

section Frames

attribute [local simp] perform succeeds submit recordTx

theorem txDataFrame_frames (m : Mbuf) : (txDataFrame m).Frames replayCtr := by
  refine ⟨fun now => ?_⟩
  simp [txDataFrame, allocSkb, takeSkb, dropSkb, handSkb, dropMbuf, copies, bumpTxPn, bumpDataSeq,
    mbufFreem]

theorem sendEAPOLKey_frames (step : Nat) (counter : Bytes) (install ack mic : Bool) :
    (sendEAPOLKey step counter install ack mic).Frames replayCtr := by
  refine .bind .fetch fun s => .bind (.bind .choose fun _ => .ret _) fun allocated => .when ?_
  exact .bind (txDataFrame_frames _) fun _ => .ret _

theorem installKey_frames (pairwise : Bool) (keyidx : UInt8) (cipher : Nat)
    (tk : Ieee80211 → Bytes) (tkLen : Nat) :
    (installKey pairwise keyidx cipher tk tkLen).Frames replayCtr := by
  refine ⟨fun now => ?_⟩
  simp [installKey, setKeySlot, resetTxPn]

theorem completeHandshake_frames : completeHandshake.Frames replayCtr := by
  refine .bind .fetch fun s => .bind (sendEAPOLKey_frames _ _ _ _ _) fun _ => ?_
  refine ⟨fun now => ?_⟩
  simp [setState, cancelTimeout, startTxAggregation, sendAddbaRequest, txMgmtFrame, bumpTxSeq,
    bumpBaDialog]

/-- `handleM1` once the counter is stored. -/
theorem handleM1_frames : (do
    let s ← Prog.fetch
    sendEAPOLKey 2 s.replayCtr false false true
    Prog.update fun s => s.wakeAtTime 5000 : M Unit).Frames replayCtr :=
  .bind .fetch fun _ => .bind (sendEAPOLKey_frames _ _ _ _ _) fun _ => .update fun _ => rfl

theorem installHandshakeKeys_frames (gtk : Option GtkKde) :
    (installHandshakeKeys gtk).Frames replayCtr := by
  refine .bind (installKey_frames _ _ _ _ _) fun installed => .when (.bind .fetch fun s => ?_)
  dsimp only
  cases gtk.filter fun kde => kde.gtk ≠ [] with
  | none => exact completeHandshake_frames
  | some kde =>
      exact .bind (installKey_frames _ _ _ _ _) fun grouped => .when completeHandshake_frames

end Frames

end M

/-- What the start of an operation does to the replay counter. -/
def ShakeOp.counter (op : ShakeOp) (answers : List Answer) (s : Ieee80211) : Bytes :=
  match op with
  | .handleEAPOL data =>
      if data.isEapolKey = true ∧ (data.isM1 = true ∨
          data.isM3 = true ∧ s.acceptsM3 data answers = true) then data.slice 9 8
      else s.replayCtr
  | _ => s.replayCtr

theorem Bytes.le_length_eapolFrame {data : Bytes} (shaped : data.isEapolKey = true) :
    99 ≤ data.eapolFrame.length := by
  obtain ⟨-, -, inside, long⟩ := of_decide_eq_true shaped
  rw [Bytes.eapolFrame, List.length_take, Nat.min_eq_left inside]
  exact long

namespace M

open Ieee80211 Prog

variable {data : Bytes} {answers : List Answer} {s : Ieee80211}

/-- An M3 that is not accepted changes nothing. -/
theorem block_handleM3_of_rejected (shaped : data.isEapolKey = true)
    (rejected : s.acceptsM3 data answers = false) :
    (returning (handleM3 data)).block s answers = (s, .finished .success) := by
  have long : ¬ data.eapolFrame.length < 99 := not_lt.mpr (le_length_eapolFrame shaped)
  have missing := of_decide_eq_false rejected
  rw [List.headD_eq_head?_getD] at missing
  by_cases allocated : (answers.head?.getD default).code = 0 <;>
    cases verified : eapolMicMatches s.kck data.eapolFrame <;>
    by_cases whole : 99 + data.keyDataLen ≤ data.eapolLength <;>
    cases read : plainKeyData s.kek data <;>
    simp [allocated, verified, whole, read, returning, handleM3, eapolMicOk, succeeds, Prog.bind,
      Prog.block, fetch, choose, Prog.when, whenSome, long] at missing ⊢

theorem block_handleM3_of_accepted (shaped : data.isEapolKey = true)
    (accepted : s.acceptsM3 data answers = true) :
    ∃ gtk, (returning (handleM3 data)).block s answers =
      (returning (installHandshakeKeys gtk)).block (s.acceptM3 data) answers.tail := by
  have long : ¬ data.eapolFrame.length < 99 := not_lt.mpr (le_length_eapolFrame shaped)
  obtain ⟨allocated, verified, whole, read⟩ := of_decide_eq_true accepted
  obtain ⟨keyData, read⟩ := Option.isSome_iff_exists.mp read
  refine ⟨extractGtkFromKde keyData, ?_⟩
  rw [List.headD_eq_head?_getD] at allocated
  simp [returning, handleM3, eapolMicOk, succeeds, Prog.bind, Prog.block, fetch, choose,
    Prog.when, whenSome, update, long, allocated, verified, whole, read]

end M

/-- The first block of an operation stores the counter, and no other does. -/
theorem ShakeOp.block_program (op : ShakeOp) (answers : List Answer) (s : Ieee80211) :
    (op.program.block s answers).1.replayCtr = op.counter answers s ∧
      (op.program.block s answers).2.Frames Ieee80211.replayCtr := by
  have returns : ∀ {body : M Unit}, body.Frames Ieee80211.replayCtr →
      (M.returning body).Frames Ieee80211.replayCtr := fun frames => frames.bind fun _ => .ret _
  cases op with
  | handleEAPOL data =>
      unfold ShakeOp.program ShakeOp.counter
      dsimp only
      cases shaped : data.isEapolKey
      · simp [M.returning, M.handleEAPOL, shaped, Prog.when, Prog.bind, Prog.block]
      · cases first : data.isM1
        · cases third : data.isM3
          · simp [M.returning, M.handleEAPOL, shaped, first, third, Prog.when, Prog.bind,
              Prog.block]
          · have same : M.handleEAPOL data = M.handleM3 data := by
              simp [M.handleEAPOL, shaped, first, third, Prog.when]
            rw [same]
            cases accepted : s.acceptsM3 data answers
            · rw [M.block_handleM3_of_rejected shaped accepted]
              simp
            · obtain ⟨gtk, block⟩ := M.block_handleM3_of_accepted shaped accepted
              rw [block]
              exact (returns (M.installHandshakeKeys_frames gtk)).block (s.acceptM3 data)
                answers.tail
        · have same : M.handleEAPOL data = M.handleM1 data := by
            simp [M.handleEAPOL, shaped, first, Prog.when]
          rw [same]
          exact (returns M.handleM1_frames).block
            (s.acceptM1 data (((answers.headD default).bytes ++ zeros 32).take 32)) answers.tail
  | associated other | elsewhere other => exact ⟨rfl, trivial⟩

/-! ## Messages that count up -/

/-- The accepted counters are fresh, and `_replayCtr` bounds every counter of the association. -/
structure Counters.Sound (counters : Counters) (replayCtr : Bytes) : Prop where
  increasing : (counters.accepted.map Acceptance.counter).Pairwise (· > ·)
  above : ∀ acceptance ∈ counters.accepted, ∀ counter, acceptance.m1 = some counter →
    counter < acceptance.counter
  bounded : ∀ acceptance ∈ counters.accepted, acceptance.counter ≤ bigEndian replayCtr
  answered : ∀ counter, counters.m1 = some counter → counter ≤ bigEndian replayCtr

namespace Counters.Sound

variable {counters : Counters} {replayCtr : Bytes}

theorem begin (replayCtr : Bytes) : Counters.Sound ⟨none, []⟩ replayCtr :=
  ⟨List.Pairwise.nil, nofun, nofun, nofun⟩

/-- An M1 is answered. -/
theorem answer (sound : counters.Sound replayCtr) {data : Bytes}
    (upward : counters.accepted ≠ [] → bigEndian replayCtr ≤ data.replayCounter) :
    Counters.Sound { counters with m1 := some data.replayCounter } (data.slice 9 8) where
  increasing := sound.increasing
  above := sound.above
  bounded acceptance member :=
    (sound.bounded acceptance member).trans (upward (List.ne_nil_of_mem member))
  answered _ same := (Option.some.inj same).ge

/-- An M3 is accepted. -/
theorem accept (sound : counters.Sound replayCtr) {data : Bytes}
    (upward : counters.m1.isSome = true ∨ counters.accepted ≠ [] →
      bigEndian replayCtr < data.replayCounter) :
    Counters.Sound
      { counters with accepted := ⟨data.replayCounter, counters.m1⟩ :: counters.accepted }
      (data.slice 9 8) where
  increasing := by
    refine List.pairwise_cons.mpr ⟨fun counter member => ?_, sound.increasing⟩
    obtain ⟨acceptance, old, rfl⟩ := List.mem_map.mp member
    exact (sound.bounded acceptance old).trans_lt (upward (.inr (List.ne_nil_of_mem old)))
  above acceptance member counter same := by
    rcases List.mem_cons.mp member with rfl | old
    · exact (sound.answered counter same).trans_lt (upward (.inl (by simp_all)))
    · exact sound.above acceptance old counter same
  bounded acceptance member := by
    rcases List.mem_cons.mp member with rfl | old
    · exact le_rfl
    · exact (sound.bounded acceptance old).trans (upward (.inr (List.ne_nil_of_mem old))).le
  answered counter same :=
    ((sound.answered counter same).trans_lt (upward (.inl (by simp_all)))).le

/-- An operation starts. -/
theorem started {s : Ieee80211} (sound : counters.Sound s.replayCtr) {op : ShakeOp}
    {answers : List Answer} (allowed : countsUp (.start op answers) s counters) :
    (counters.started op answers s).Sound (op.counter answers s) := by
  cases op with
  | handleEAPOL data =>
      unfold Counters.started ShakeOp.counter
      dsimp only
      cases shaped : data.isEapolKey
      · simpa using sound
      · cases first : data.isM1
        · cases third : data.isM3
          · simpa using sound
          · cases accepted : s.acceptsM3 data answers
            · simpa using sound
            · have isThird : data.isThird = true := by simp [Bytes.isThird, shaped, first, third]
              simpa using sound.accept (allowed.2 isThird accepted)
        · simpa using sound.answer (allowed.1 shaped first)
  | associated other => exact .begin _
  | elsewhere other => exact sound

end Counters.Sound

/-- The counters of a run are sound, and suspended operations leave the stored counter alone. -/
structure ShakeConfig.Sound (now : ShakeConfig) : Prop where
  counters : now.2.Sound now.1.state.replayCtr
  frames : now.1.Frames Ieee80211.replayCtr

theorem ShakeConfig.Sound.turn {now : ShakeConfig} (sound : now.Sound)
    {next : Turn Answer ShakeOp} (allowed : countsUp next now.1.state now.2)
    {move : Move Call Answer ShakeOp IOReturn}
    {config : Config Ieee80211 Call Answer ShakeOp IOReturn}
    (taken : shaking.turn now.1 next = some (move, config)) :
    ShakeConfig.Sound (config, Counters.after next now.1.state now.2) := by
  cases next with
  | start op answers =>
      have block := op.block_program answers now.1.state
      obtain ⟨frames, state⟩ := sound.frames.start taken block.2
      have counter : config.state.replayCtr = op.counter answers now.1.state := state ▸ block.1
      exact ⟨counter ▸ sound.counters.started allowed, frames⟩
  | resume position answer answers =>
      obtain ⟨frames, same⟩ := sound.frames.resume taken
      exact ⟨same ▸ sound.counters, frames⟩

theorem alwaysFresh_countsUp (s : Ieee80211) : AlwaysFresh countsUp s := by
  intro initial now run
  have sound : now.Sound :=
    run.invariant ShakeConfig.Sound ⟨.begin _, .nil _⟩
      fun _ _ _ _ sound allowed taken => sound.turn allowed taken
  refine ⟨sound.counters.increasing, sound.counters.above, ?_⟩
  intro data answers move config counter isThird answered stale allowed taken
  have below : data.replayCounter ≤ bigEndian now.1.state.replayCtr :=
    stale.trans (sound.counters.answered counter answered)
  have rejected : now.1.state.acceptsM3 data answers = false := by
    by_contra accepted
    have upward := allowed.2 isThird (by simpa using accepted) (.inl (by simp [answered]))
    omega
  obtain ⟨⟨shaped, first⟩, third⟩ : (data.isEapolKey = true ∧ data.isM1 = false) ∧
      data.isM3 = true := by
    simpa [Bytes.isThird] using isThird
  have same : M.handleEAPOL data = M.handleM3 data := by
    simp [M.handleEAPOL, shaped, first, third, Prog.when]
  have idle : (M.returning (M.handleEAPOL data)).block now.1.state answers =
      (now.1.state, .finished .success) :=
    same ▸ M.block_handleM3_of_rejected shaped rejected
  exact System.eq_of_turn taken idle

namespace Scenario

/-- A message of the handshake without key data. -/
def eapolKey (keyInfo counter : Nat) (code : Bytes) : Bytes :=
  [2, 3] ++ be16 95 ++ [2] ++ be16 keyInfo ++ [0, 16] ++ zeros 6 ++ be16 counter ++ zeros 64 ++
    code ++ be16 0

/-- The access point accepted the association. -/
def associated : Ieee80211 :=
  { Ieee80211.started attachment with
    state := .handshaking
    wpa2 := true
    targetBSS := { Bss.empty with bssid := apAddr }
    sta := some ⟨apAddr, 1, 0, 0, 0, HtCap.none, VhtCap.none⟩ }

/-- An M1 with the counter 5, and the M3 with the counter 3. -/
def countsDown : List (Turn Answer ShakeOp) :=
  [.start (.associated associated) [], .start (.handleEAPOL (eapolKey 0x008a 5 (zeros 16))) [],
    .resume 0 default [],
    .start (.handleEAPOL (eapolKey 0x01ca 3
      [81, 65, 209, 124, 208, 60, 81, 28, 3, 219, 87, 142, 39, 138, 247, 53])) [],
    .resume 0 default [], .resume 0 default []]

/-- Whether the station is connected with the key of the M3, and what was recorded. -/
def connectsBelow : Option (Bool × Counters) := do
  let (config, counters) ←
    shaking.playRecorded Counters.after (⟨.started attachment, []⟩, ⟨none, []⟩) countsDown
  return (config.state.state = .connected ∧ config.state.ptkConf.isSome = true, counters)

theorem connectsBelow_eq : connectsBelow = some (true, ⟨some 5, [⟨3, some 5⟩]⟩) := by
  decide +kernel

end Scenario

/-- An M3 whose counter is below that of its M1 is accepted. -/
theorem not_alwaysFresh : ¬ ∀ s, AlwaysFresh (fun _ _ _ => True) s := by
  intro fresh
  have run := Scenario.connectsBelow_eq
  simp only [Scenario.connectsBelow, Option.bind_eq_bind, Option.bind_eq_some_iff, Prod.exists,
    Option.pure_def, Option.some.injEq, Prod.mk.injEq] at run
  obtain ⟨config, counters, played, -, rfl⟩ := run
  have reached : ShakeRuns (fun _ _ _ => True) _ (config, _) :=
    System.recorded_of_play played fun _ _ _ _ => trivial
  have above := (fresh _ ⟨Scenario.attachment, rfl, rfl⟩ _ reached).above
  exact absurd (above ⟨3, some 5⟩ (List.mem_singleton_self _) 5 rfl) (by decide)

end AirportRtw88
