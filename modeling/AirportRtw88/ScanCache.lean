import AirportRtw88.Steady
import AirportRtw88.Interleave.Frame
import Mathlib.Data.List.Nodup

/-!
# The scan cache

Scans number their generations with 32 bits, beacons enter the cache under the number of the
latest, and the end of a scan removes what was not seen lately.  A history that counts the scans
without bounds says what was seen when.
-/

namespace AirportRtw88

open Interleave Bytes Relation

/-- The scans so far, and the scan at which each address was seen last. -/
structure ScanHistory where
  scans : Nat
  seen : Bytes → Nat

namespace Ieee80211

/-- The cache, its length and the number of the latest scan. -/
def scanCache (s : Ieee80211) : List Bss × Nat × Nat :=
  (s.bssList, s.bssCount, s.scanGeneration)

/-- An entry that `scanDone` keeps whatever its age: the connected or handshaking target. -/
def exempts (s : Ieee80211) (bss : Bss) : Prop :=
  let effectiveState := if s.state = .scanning then s.scanReturnState.state else s.state
  (effectiveState = .connected ∨ effectiveState = .handshaking) ∧ bss.bssid = s.targetBSS.bssid

instance (s : Ieee80211) (bss : Bss) : Decidable (s.exempts bss) :=
  inferInstanceAs (Decidable (_ ∧ _))

/-- The addresses are distinct, the count is right, and no entry is newer than the latest scan. -/
structure CacheSound (s : Ieee80211) : Prop where
  distinct : (s.bssList.map Bss.bssid).Nodup
  counted : s.bssCount = s.bssList.length
  aged : ∀ bss ∈ s.bssList, bss.lastSeenScan ≤ s.scanGeneration

/-- An entry is as old as the history says. -/
structure Dated (s : Ieee80211) (history : ScanHistory) : Prop extends s.CacheSound where
  bounded : s.scanGeneration < 4294967296
  dated : ∀ bss ∈ s.bssList,
    history.scans + bss.lastSeenScan = history.seen bss.bssid + s.scanGeneration

end Ieee80211

namespace ScanHistory

/-- A scan begins.  When its number wraps around, all entries are numbered again. -/
def begin (history : ScanHistory) (s : Ieee80211) : ScanHistory where
  scans := history.scans + 1
  seen :=
    if s.scanGeneration = 4294967295 then fun _ => history.scans + 1 else history.seen

/-- An address is seen. -/
def sight (history : ScanHistory) (bssid : Bytes) : ScanHistory :=
  { history with seen := Function.update history.seen bssid history.scans }

end ScanHistory

/-- An entry of the cache is replaced by one of the same address. -/
theorem Ieee80211.map_bssid_set {s : Ieee80211} {bss : Bss} {index : Nat}
    (known : (s.bssList.findIdx? fun entry => entry.bssid = bss.bssid) = some index) :
    bss ∈ s.bssList.set index bss ∧
      (s.bssList.set index bss).map Bss.bssid = s.bssList.map Bss.bssid := by
  obtain ⟨inside, found, -⟩ := List.findIdx?_eq_some_iff_getElem.mp known
  have mapped : index < (s.bssList.map Bss.bssid).length := by simpa using inside
  have address : bss.bssid = (s.bssList.map Bss.bssid)[index] := by
    rw [List.getElem_map]
    exact (of_decide_eq_true found).symm
  constructor
  · exact List.mem_set inside bss
  · rw [List.map_set, address, List.set_getElem_self]

namespace Ieee80211.Dated

variable {s t : Ieee80211} {history : ScanHistory}

/-- A cache that is written as a whole. -/
theorem of_scanCache {list : List Bss} {generation : Nat}
    (same : t.scanCache = (list, list.length, generation)) (bounded : generation < 4294967296)
    (distinct : (list.map Bss.bssid).Nodup)
    (dated : ∀ bss ∈ list, bss.lastSeenScan ≤ generation ∧
      history.scans + bss.lastSeenScan = history.seen bss.bssid + generation) :
    t.Dated history := by
  simp only [scanCache, Prod.mk.injEq] at same
  obtain ⟨cached, count, number⟩ := same
  refine ⟨⟨?_, ?_, ?_⟩, ?_, ?_⟩ <;> simp only [cached, count, number]
  · exact distinct
  · exact fun bss member => (dated bss member).1
  · exact bounded
  · exact fun bss member => (dated bss member).2

theorem of_same (dated : s.Dated history) (same : t.scanCache = s.scanCache) :
    t.Dated history := by
  have cache : t.scanCache = (s.bssList, s.bssList.length, s.scanGeneration) := by
    rw [same, scanCache, dated.counted]
  exact .of_scanCache cache dated.bounded dated.distinct
    fun bss member => ⟨dated.aged bss member, dated.dated bss member⟩

theorem nextGeneration (dated : s.Dated history) :
    s.nextGeneration.Dated (history.begin s) := by
  have bounded := dated.bounded
  by_cases wraps : s.scanGeneration = 4294967295
  · have renumbered : s.nextGeneration.scanCache =
        (s.bssList.map fun bss => { bss with lastSeenScan := 1 },
          (s.bssList.map fun bss => { bss with lastSeenScan := 1 }).length, 1) := by
      simp [scanCache, Ieee80211.nextGeneration, wraps, dated.counted]
    refine .of_scanCache renumbered (by omega) ?_ fun bss member => ?_
    · rw [List.map_map]
      exact dated.distinct
    · obtain ⟨old, -, rfl⟩ := List.mem_map.mp member
      simp [ScanHistory.begin, wraps]
  · have next : (s.scanGeneration + 1) % 4294967296 = s.scanGeneration + 1 :=
      Nat.mod_eq_of_lt (by omega)
    have counted : s.nextGeneration.scanCache =
        (s.bssList, s.bssList.length, s.scanGeneration + 1) := by
      simp [scanCache, Ieee80211.nextGeneration, next, dated.counted]
    refine .of_scanCache counted (by omega) dated.distinct fun bss member => ?_
    have aged := dated.aged bss member
    have known := dated.dated bss member
    simp only [ScanHistory.begin, if_neg wraps]
    omega

/-- The entry of an address that is seen replaces the one before. -/
theorem addBss (dated : s.Dated history) {bss : Bss} (now : bss.lastSeenScan = s.scanGeneration) :
    (s.addBss bss).Dated (history.sight bss.bssid) := by
  obtain ⟨list, cache, distinct, members⟩ : ∃ list,
      (s.addBss bss).scanCache = (list, list.length, s.scanGeneration) ∧
        (list.map Bss.bssid).Nodup ∧ ∀ other ∈ list, other = bss ∨
          other ∈ s.bssList ∧ other.bssid ≠ bss.bssid := by
    cases known : s.bssList.findIdx? fun entry => entry.bssid = bss.bssid with
    | none =>
        have fresh : ∀ other ∈ s.bssList, other.bssid ≠ bss.bssid := by
          simpa using known
        refine ⟨bss :: s.bssList,
          by simp [scanCache, Ieee80211.addBss, known, dated.counted], ?_, ?_⟩
        · refine List.nodup_cons.mpr ⟨fun member => ?_, dated.distinct⟩
          obtain ⟨other, member, same⟩ := List.mem_map.mp member
          exact fresh other member same
        · intro other member
          exact (List.mem_cons.mp member).imp_right fun old => ⟨old, fresh other old⟩
    | some index =>
        obtain ⟨replaced, same⟩ := map_bssid_set known
        have distinct : ((s.bssList.set index bss).map Bss.bssid).Nodup := same ▸ dated.distinct
        refine ⟨s.bssList.set index bss,
          by simp [scanCache, Ieee80211.addBss, known, dated.counted],
          distinct, fun other member => ?_⟩
        by_cases sameAddress : other.bssid = bss.bssid
        · exact .inl (List.inj_on_of_nodup_map distinct member replaced sameAddress)
        · refine .inr ⟨?_, sameAddress⟩
          rcases List.mem_or_eq_of_mem_set member with old | rfl
          · exact old
          · exact absurd rfl sameAddress
  refine .of_scanCache cache dated.bounded distinct fun other member => ?_
  rcases members other member with rfl | ⟨old, elsewhere⟩
  · simp [ScanHistory.sight, now]
  · have known := dated.dated other old
    exact ⟨dated.aged other old, by simpa [ScanHistory.sight, elsewhere] using known⟩

/-- What `scanDone` keeps was seen lately, or is exempt. -/
theorem keepsBss_iff (dated : s.Dated history) {bss : Bss} (member : bss ∈ s.bssList) :
    s.keepsBss bss = true ↔ s.exempts bss ∨ history.scans ≤ history.seen bss.bssid + 3 := by
  have aged := dated.aged bss member
  have known := dated.dated bss member
  have bounded := dated.bounded
  have age : (s.scanGeneration + 4294967296 - bss.lastSeenScan) % 4294967296 =
      s.scanGeneration - bss.lastSeenScan := by
    omega
  simp only [keepsBss, age, decide_eq_true_eq, exempts]
  refine or_congr Iff.rfl ?_
  omega

theorem pruneBssList (dated : s.Dated history) : s.pruneBssList.Dated history := by
  have count : s.bssCount - (s.bssList.filter fun bss => !(s.keepsBss bss)).length =
      (s.bssList.filter s.keepsBss).length := by
    have parts := List.length_eq_length_filter_add s.keepsBss (l := s.bssList)
    rw [dated.counted, parts, Nat.add_sub_cancel]
  have cache : s.pruneBssList.scanCache =
      (s.bssList.filter s.keepsBss, (s.bssList.filter s.keepsBss).length, s.scanGeneration) := by
    simp only [scanCache, Ieee80211.pruneBssList, count]
  refine .of_scanCache cache dated.bounded ?_ fun bss member => ?_
  · exact (List.filter_sublist.map Bss.bssid).nodup dated.distinct
  · have old := (List.mem_filter.mp member).1
    exact ⟨dated.aged bss old, dated.dated bss old⟩

end Ieee80211.Dated

/-! ## The operations on the cache -/

/-- The operations on the cache, and any other change: no other function writes the cache. -/
inductive ScanOp : Type where
  | cmdScan
  | rxFrame (skb : Skb)
  | scanDone (aborted : Bool)
  | elsewhere (other : Ieee80211)

/-- Everything but the cache changes. -/
def Ieee80211.elsewhere (s other : Ieee80211) : Ieee80211 :=
  { other with
    bssList := s.bssList
    bssCount := s.bssCount
    scanGeneration := s.scanGeneration }

/-- A beacon or a probe response. -/
def Skb.isScanResult (skb : Skb) : Bool :=
  let stype := skb.data.frameControl &&& 0x00f0
  skb.data.isMgmt ∧ (stype = 0x0080 ∨ stype = 0x0050)

def ScanOp.program : ScanOp → M IOReturn
  | .cmdScan => M.cmdScan
  | .rxFrame skb => M.returning (M.rxFrame skb)
  | .scanDone aborted => M.returning (M.scanDone aborted)
  | .elsewhere other => M.returning (Prog.update fun s => s.elsewhere other)

/-- The operations on the cache, with everything else around them. -/
def scanning : System Ieee80211 Call Answer ScanOp IOReturn where
  program := ScanOp.program
  enabled
    | .rxFrame skb, _ => skb.isScanResult = true
    | _, _ => True
  ready _ _ := True

instance (op : ScanOp) (s : Ieee80211) : Decidable (scanning.enabled op s) := by
  cases op <;> unfold scanning <;> infer_instance

instance (call : Call) (s : Ieee80211) : Decidable (scanning.ready call s) :=
  inferInstanceAs (Decidable True)

/-- What an operation does to the history when it starts. -/
def ScanHistory.started (history : ScanHistory) (op : ScanOp) (answers : List Answer)
    (s : Ieee80211) : ScanHistory :=
  match op with
  | .cmdScan =>
      if s.state = .idle ∧ s.powered = true ∧ s.hw.isSome = true then history.begin s else history
  | .rxFrame skb =>
      if s.state = .scanning ∧ 36 ≤ skb.data.length ∧ (answers.headD default).code = 0 then
        history.sight skb.data.addr3
      else history
  | _ => history

def ScanHistory.after (history : ScanHistory) (next : Turn Answer ScanOp) (s : Ieee80211) :
    ScanHistory :=
  match next with
  | .start op answers => history.started op answers s
  | .resume _ _ _ => history

/-- The driver as far as the cache is concerned, with its history. -/
abbrev ScanConfig : Type := Config Ieee80211 Call Answer ScanOp IOReturn × ScanHistory

/-- The runs of these operations, in any order and interleaving. -/
def ScanRuns : ScanConfig → ScanConfig → Prop :=
  ReflTransGen fun now later => ∃ next move, scanning.turn now.1 next = some (move, later.1) ∧
    later.2 = now.2.after next now.1.state

/-- What the start of an operation does to the cache. -/
def ScanOp.effect (op : ScanOp) (answers : List Answer) (s : Ieee80211) : Ieee80211 :=
  match op with
  | .cmdScan =>
      if s.state = .idle ∧ s.powered = true ∧ s.hw.isSome = true then s.nextGeneration else s
  | .rxFrame skb =>
      if s.state = .scanning ∧ 36 ≤ skb.data.length ∧ (answers.headD default).code = 0 then
        s.addBss (beaconBss skb s.scanGeneration)
      else s
  | .scanDone aborted => if aborted then s else s.pruneBssList
  | .elsewhere _ => s

namespace M

open Ieee80211 Prog

section Frames

attribute [local simp] perform scanCache

theorem restoreConnectedChannel_frames : restoreConnectedChannel.Frames scanCache := by
  refine ⟨fun now => ?_⟩
  simp [restoreConnectedChannel, setConnectedChandef, modifyChandef, restoreVif, modifyVif]

theorem setAWDLChannel_frames (channel : Nat) : (setAWDLChannel channel).Frames scanCache := by
  refine ⟨fun now => ?_⟩
  simp only [setAWDLChannel, pure_eq_ret, bind_eq_bind, guarantees_bind, guarantees_fetch,
    guarantees_ite, guarantees_ret, guarantees_update]
  refine ⟨fun _ => trivial, fun _ => ⟨rfl, fun _ => trivial, fun _ => ?_⟩⟩
  cases now.findChannel _ <;> simp [tuneTo, modifyChandef]

/-- `scanDone` after it has removed what is old. -/
theorem endScan_frames (aborted : Bool) : (do
    leaveActiveScan
    let s ← Prog.fetch
    Prog.when s.delegate (perform (.scanDoneEvent aborted)) : M Unit).Frames scanCache := by
  refine .bind ?_ fun _ => ⟨fun now => by simp⟩
  refine .bind .fetch fun s => .when (.bind (.when restoreConnectedChannel_frames) fun _ => ?_)
  refine .bind (.update fun _ => rfl) fun _ => .bind .fetch fun s => .when ?_
  exact .bind (setAWDLChannel_frames _) fun _ => .ret _

theorem startScan_frames (returnState : Rtw88State) : (startScan returnState).Frames scanCache := by
  refine ⟨fun now => ?_⟩
  simp [startScan, refuseScan, startManualScan, startHwScan, succeeds, wakeAtTime, setState]

end Frames

end M

/-- The first block of an operation has its effect on the cache, and no other has one. -/
theorem ScanOp.block_program {op : ScanOp} {s : Ieee80211} (enabled : scanning.enabled op s)
    (answers : List Answer) :
    (op.program.block s answers).1.scanCache = (op.effect answers s).scanCache ∧
      (op.program.block s answers).2.Frames Ieee80211.scanCache := by
  cases op with
  | cmdScan =>
      show (Prog.block (if _ then _ else if _ then _ else _) s answers).1.scanCache = _ ∧
        (Prog.block (if _ then _ else if _ then _ else _) s answers).2.Frames _
      unfold ScanOp.effect
      dsimp only
      by_cases idle : s.state = .idle
      · by_cases on : s.powered = true ∧ s.hw.isSome = true
        · have off : (!s.powered || s.hw.isNone) = false := by simp [on]
          have starts : s.state = .idle ∧ s.powered = true ∧ s.hw.isSome = true := ⟨idle, on⟩
          rw [if_neg (not_not.mpr idle), if_neg (by simp [off]), if_pos starts]
          have frames : (if s.scanRequest then M.startScan s.state else do
              if ← M.succeeds then
                Prog.update fun s => { s with scanRequest := true }
                M.startScan s.state
              else
                M.refuseScan s.state .noMemory).Frames Ieee80211.scanCache := by
            refine .ite (M.startScan_frames _) (.bind (.bind .choose fun _ => .ret _) fun _ => ?_)
            refine .ite ?_ (.bind (.update fun _ => rfl) fun _ => .ret _)
            exact .bind (.update fun _ => rfl) fun _ => M.startScan_frames _
          exact frames.block
            { s.nextGeneration.setState .scanning with
              scanReturnState := if s.state = .connected then .connected else .idle } answers
        · have off : (!s.powered || s.hw.isNone) = true := by
            cases powered : s.powered <;> cases known : s.hw <;> simp_all
          rw [if_neg (not_not.mpr idle), if_pos off, if_neg fun starts => on starts.2]
          exact ⟨rfl, trivial⟩
      · rw [if_pos idle, if_neg fun starts => idle starts.1]
        exact ⟨rfl, trivial⟩
  | rxFrame skb =>
      obtain ⟨isMgmt, stype⟩ := of_decide_eq_true enabled
      have counted : (s.countRx skb).state = s.state := rfl
      by_cases short : skb.data.length < 24
      · have early : ¬ 36 ≤ skb.data.length := by omega
        simp [ScanOp.program, ScanOp.effect, M.returning, M.rxFrame, short, early, Prog.bind,
          Prog.block, Prog.update]
        rfl
      · by_cases scans : s.state = .scanning <;> by_cases long : 36 ≤ skb.data.length <;>
          by_cases allocated : (answers.head?.getD default).code = 0 <;>
          simp [ScanOp.program, ScanOp.effect, M.returning, M.rxFrame, M.processRxMgmt,
            M.processScanResult, M.succeeds, Prog.bind, Prog.block, Prog.update, Prog.fetch,
            Prog.when, Prog.choose, short, isMgmt, stype, counted, scans, long, allocated] <;>
          rfl
  | scanDone aborted =>
      have frames : (M.returning (do
          M.leaveActiveScan
          let s ← Prog.fetch
          Prog.when s.delegate (M.perform (.scanDoneEvent aborted)))).Frames Ieee80211.scanCache :=
        (M.endScan_frames aborted).bind fun _ => .ret _
      cases aborted
      · exact frames.block s.pruneBssList answers
      · exact frames.block s answers
  | elsewhere other => exact ⟨rfl, trivial⟩

theorem Ieee80211.Dated.effect {s : Ieee80211} {history : ScanHistory} (dated : s.Dated history)
    (op : ScanOp) (answers : List Answer) :
    (op.effect answers s).Dated (history.started op answers s) := by
  cases op with
  | cmdScan =>
      unfold ScanOp.effect ScanHistory.started
      dsimp only
      split
      · exact dated.nextGeneration
      · exact dated
  | rxFrame skb =>
      have address : (beaconBss skb s.scanGeneration).bssid = skb.data.addr3 :=
        bssid_readBeaconElements _ _ _
      unfold ScanOp.effect ScanHistory.started
      dsimp only
      split
      · exact address ▸ dated.addBss rfl
      · exact dated
  | scanDone aborted =>
      cases aborted
      · exact dated.pruneBssList
      · exact dated
  | elsewhere other => exact dated

/-- The cache is as old as the history says, and suspended operations leave it alone. -/
structure ScanConfig.Sound (now : ScanConfig) : Prop where
  dated : now.1.state.Dated now.2
  frames : now.1.Frames Ieee80211.scanCache

theorem ScanConfig.Sound.turn {now : ScanConfig} (sound : now.Sound) {next : Turn Answer ScanOp}
    {move : Move Call Answer ScanOp IOReturn}
    {config : Config Ieee80211 Call Answer ScanOp IOReturn}
    (taken : scanning.turn now.1 next = some (move, config)) :
    ScanConfig.Sound (config, now.2.after next now.1.state) := by
  cases next with
  | start op answers =>
      have block := ScanOp.block_program (System.enabled_of_turn taken) answers
      obtain ⟨frames, state⟩ := sound.frames.start taken block.2
      exact ⟨(sound.dated.effect op answers).of_same (state ▸ block.1), frames⟩
  | resume position answer answers =>
      obtain ⟨frames, same⟩ := sound.frames.resume taken
      exact ⟨sound.dated.of_same same, frames⟩

/-- What holds whenever the operations on the cache have run for a while: the cache is sound, the
end of a scan that was not aborted removes what was not seen in the latest four scans, apart from
the target, and what an operation does after its start leaves the cache alone. -/
structure ScanConfig.Ages (now : ScanConfig) : Prop where
  sound : now.1.state.CacheSound
  prunes : ∀ aborted answers move config,
    scanning.turn now.1 (.start (.scanDone aborted) answers) = some (move, config) →
      config.state.bssList =
        if aborted then now.1.state.bssList
        else now.1.state.bssList.filter fun bss =>
          now.1.state.exempts bss ∨ now.2.scans - now.2.seen bss.bssid ≤ 3
  keeps : ∀ position answer answers move config,
    scanning.turn now.1 (.resume position answer answers) = some (move, config) →
      config.state.scanCache = now.1.state.scanCache

/-- The cache ages as it should in every run. -/
def AlwaysAges : Prop :=
  ∀ s, s.initial → ∀ now, ScanRuns (⟨s, []⟩, ⟨0, fun _ => 0⟩) now → ScanConfig.Ages now

theorem ScanRuns.sound {s : Ieee80211} (initial : s.initial) {now : ScanConfig}
    (run : ScanRuns (⟨s, []⟩, ⟨0, fun _ => 0⟩) now) : now.Sound := by
  induction run with
  | refl =>
      obtain ⟨attached, -, rfl⟩ := initial
      exact ⟨.of_scanCache rfl (Nat.zero_lt_succ 4294967295) List.nodup_nil nofun, .nil _⟩
  | tail _ last ih =>
      obtain ⟨next, move, taken, noted⟩ := last
      have sound := ih.turn taken
      rwa [← noted] at sound

theorem alwaysAges : AlwaysAges := by
  intro s initial now run
  have sound := run.sound initial
  refine ⟨sound.dated.toCacheSound, fun aborted answers move config taken => ?_,
    fun position answer answers move config taken => ?_⟩
  · have block := ScanOp.block_program (System.enabled_of_turn taken) answers
    rw [(sound.frames.start taken block.2).2]
    refine (congrArg Prod.fst block.1).trans ?_
    cases aborted
    · refine List.filter_congr fun bss member => ?_
      rw [Bool.eq_iff_iff, sound.dated.keepsBss_iff member, decide_eq_true_eq]
      exact or_congr Iff.rfl (by omega)
    · rfl
  · exact (sound.frames.resume taken).2

end AirportRtw88
