import AirportRtw88.Interleave.Attended
import AirportRtw88.ScanCache

/-!
# Refused scans

`cmdScan` counts a new generation before it knows that the scan can start, and none of its exits
counts it back.  The file says which refusals leave the driver as it was, and what the others do to
the scan cache over a run.
-/

namespace AirportRtw88

open Interleave Bytes Relation

namespace Ieee80211

/-- `cmdScan` enters the scan in a new generation. -/
def enterScan (s : Ieee80211) (returnState : Rtw88State) : Ieee80211 :=
  { s.nextGeneration.setState .scanning with
    scanReturnState := if returnState = .connected then .connected else .idle }

/-- The request of the scan is allocated. -/
def keepRequest (s : Ieee80211) : Ieee80211 :=
  { s with scanRequest := true }

section

variable (s : Ieee80211) (returnState : Rtw88State)

@[simp]
theorem enabledChannels_enterScan : (s.enterScan returnState).enabledChannels = s.enabledChannels :=
  rfl

@[simp]
theorem hasOp_enterScan (op : Ops → Bool) : (s.enterScan returnState).hasOp op = s.hasOp op :=
  rfl

@[simp]
theorem enabledChannels_keepRequest : s.keepRequest.enabledChannels = s.enabledChannels :=
  rfl

@[simp]
theorem hasOp_keepRequest (op : Ops → Bool) : s.keepRequest.hasOp op = s.hasOp op :=
  rfl

end

end Ieee80211

namespace M

/-- `startHwScan`, with the fallback only where there is a manual scanner. -/
def startHwScanWith (manualScanTC : Bool) (returnState : Rtw88State) (channels : List Channel) :
    M IOReturn := do
  Prog.update fun s => { s with rxFrameCount := 0 }
  let answer ← Prog.await (.hwScan channels)
  if answer.code ≠ 0 then
    if manualScanTC then startManualScan channels
    else refuseScan returnState .error
  else
    Prog.update fun s => { s with timeoutMs := 10000 }
    Prog.update fun s => s.wakeAtTime s.timeoutMs
    return .success

/-- The passive scan of `cmdScan`, where there is a manual scanner. -/
def startPassiveScanWith (manualScanTC : Bool) (returnState : Rtw88State)
    (channels : List Channel) : M IOReturn :=
  if manualScanTC then do
    Prog.update fun s => { s with manualScanFallbackLogged := true }
    startManualScan channels
  else refuseScan returnState .notReady

/-- `startScan`, with the passive scan only where there is a manual scanner. -/
def startScanWith (manualScanTC : Bool) (returnState : Rtw88State) : M IOReturn := do
  let s ← Prog.fetch
  let channels := s.enabledChannels
  if channels = [] then
    refuseScan returnState .notReady
  else
    let offload ← succeeds
    if !(s.hasOp Ops.hwScan) || !offload then
      startPassiveScanWith manualScanTC returnState channels
    else
      startHwScanWith manualScanTC returnState channels

/-- `cmdScan` from the allocation of its request on. -/
def requestScanWith (manualScanTC : Bool) (returnState : Rtw88State) (scanRequest : Bool) :
    M IOReturn := do
  if scanRequest then
    startScanWith manualScanTC returnState
  else if ← succeeds then
    Prog.update Ieee80211.keepRequest
    startScanWith manualScanTC returnState
  else
    refuseScan returnState .noMemory

/-- `cmdScan` with all its exits: also those for a driver whose `_manualScanTC` is missing. -/
def cmdScanWith (manualScanTC : Bool) : M IOReturn := do
  let s ← Prog.fetch
  if s.state ≠ .idle then
    return .busy
  else if !s.powered || s.hw.isNone then
    return .notReady
  else
    let returnState := s.state
    Prog.update fun s => s.enterScan returnState
    requestScanWith manualScanTC returnState s.scanRequest

/-- `init` does not succeed without a manual scanner. -/
theorem cmdScanWith_true : cmdScanWith true = cmdScan :=
  rfl

end M

namespace Ieee80211

/-- `cmdScan` gets past its first checks. -/
def admitsScan (s : Ieee80211) : Bool :=
  s.state = .idle ∧ s.powered = true ∧ s.hw.isSome = true

/-- What `cmdScan` needs is there: its request, a channel, and a scanner that accepts. -/
def scanStarts (manualScanTC : Bool) (s : Ieee80211) (answers : List Answer) : Bool :=
  let later := if s.scanRequest then answers else answers.tail
  (s.scanRequest || decide ((answers.headD default).code = 0)) &&
    (decide (s.enabledChannels ≠ []) &&
      (manualScanTC || s.hasOp Ops.hwScan && decide ((later.headD default).code = 0) &&
        decide ((later.tail.headD default).code = 0)))

/-- Nothing that a scan is about has changed. -/
structure ScanUnchanged (s s' : Ieee80211) : Prop where
  state : s'.state = s.state
  returnState : s'.scanReturnState = s.scanReturnState
  timer : s'.timer = s.timer
  cache : s'.scanCache = s.scanCache

/-- A new generation never has the number of the one before. -/
theorem scanCache_nextGeneration_ne (s : Ieee80211) : s.nextGeneration.scanCache ≠ s.scanCache := by
  intro same
  have number : s.nextGeneration.scanGeneration = s.scanGeneration :=
    congrArg (fun cache => cache.2.2) same
  simp only [nextGeneration] at number
  split at number <;> omega

end Ieee80211

namespace M

variable (manualScanTC : Bool) (returnState : Rtw88State) (s : Ieee80211) (answers : List Answer)

/-- A run without anything around it. -/
abbrev alone {α : Type} (program : M α) (s : Ieee80211) (answers : List Answer) :
    Attended Ieee80211 Answer Unit α :=
  program.attended (fun _ _ world => world) s () answers

/-- A scan that does not start leaves its generation behind. -/
structure Refused (s : Ieee80211) (run : Attended Ieee80211 Answer Unit IOReturn) : Prop where
  value : run.value ≠ .success
  cache : run.state.scanCache = s.scanCache

/-- A scan starts, or it is refused. -/
def Decides (starts : Bool) (s : Ieee80211) (run : Attended Ieee80211 Answer Unit IOReturn) :
    Prop :=
  if starts then run.value = .success else Refused s run

theorem Decides.of_scanCache {s s' : Ieee80211} (same : s'.scanCache = s.scanCache) {starts : Bool}
    {run : Attended Ieee80211 Answer Unit IOReturn} (decided : Decides starts s' run) :
    Decides starts s run := by
  cases starts with
  | true => exact decided
  | false => exact ⟨decided.value, decided.cache.trans same⟩

theorem alone_refuseScan {reason : IOReturn} (refuses : reason ≠ .success) :
    Refused s (alone (refuseScan returnState reason) s answers) :=
  ⟨refuses, rfl⟩

theorem alone_startPassiveScanWith (channels : List Channel) :
    Decides manualScanTC s
      (alone (startPassiveScanWith manualScanTC returnState channels) s answers) := by
  cases manualScanTC with
  | true => rfl
  | false => exact alone_refuseScan returnState s answers (by decide)

theorem alone_startHwScanWith (channels : List Channel) :
    Decides (manualScanTC || decide ((answers.headD default).code = 0)) s
      (alone (startHwScanWith manualScanTC returnState channels) s answers) := by
  have run_eq : alone (startHwScanWith manualScanTC returnState channels) s answers =
    alone (if (answers.headD default).code ≠ 0 then
      if manualScanTC then startManualScan channels else refuseScan returnState .error
    else do
      Prog.update fun s => { s with timeoutMs := 10000 }
      Prog.update fun s => s.wakeAtTime s.timeoutMs
      return .success) { s with rxFrameCount := 0 } answers.tail := rfl
  rw [run_eq]
  by_cases accepts : (answers.headD default).code = 0
  · rw [decide_eq_true accepts, Bool.or_true, if_neg (not_not.mpr accepts)]
    rfl
  · rw [decide_eq_false accepts, Bool.or_false, if_pos accepts]
    cases manualScanTC with
    | true => rfl
    | false => exact ⟨nofun, rfl⟩

theorem alone_startScanWith :
    Decides (decide (s.enabledChannels ≠ []) &&
        (manualScanTC || s.hasOp Ops.hwScan && decide ((answers.headD default).code = 0) &&
          decide ((answers.tail.headD default).code = 0))) s
      (alone (startScanWith manualScanTC returnState) s answers) := by
  have run_eq : alone (startScanWith manualScanTC returnState) s answers =
    alone (if s.enabledChannels = [] then refuseScan returnState .notReady else do
      let offload ← succeeds
      if !(s.hasOp Ops.hwScan) || !offload then
        startPassiveScanWith manualScanTC returnState s.enabledChannels
      else startHwScanWith manualScanTC returnState s.enabledChannels) s answers := rfl
  rw [run_eq]
  by_cases noChannel : s.enabledChannels = []
  · rw [decide_eq_false (not_not.mpr noChannel), Bool.false_and, if_pos noChannel]
    exact alone_refuseScan returnState s answers (by decide)
  · rw [decide_eq_true noChannel, Bool.true_and, if_neg noChannel]
    have offers : alone (do
        let offload ← succeeds
        if !(s.hasOp Ops.hwScan) || !offload then
          startPassiveScanWith manualScanTC returnState s.enabledChannels
        else startHwScanWith manualScanTC returnState s.enabledChannels) s answers =
      alone (if !(s.hasOp Ops.hwScan) || !decide ((answers.headD default).code = 0) then
          startPassiveScanWith manualScanTC returnState s.enabledChannels
        else startHwScanWith manualScanTC returnState s.enabledChannels) s answers.tail := rfl
    rw [offers]
    cases s.hasOp Ops.hwScan <;> cases decide ((answers.headD default).code = 0)
    case true.true => exact alone_startHwScanWith manualScanTC returnState s answers.tail _
    all_goals
      simp only [Bool.false_and, Bool.and_false, Bool.or_false]
      exact alone_startPassiveScanWith manualScanTC returnState s answers.tail _

theorem alone_requestScanWith (scanRequest : Bool) :
    let later := if scanRequest then answers else answers.tail
    Decides ((scanRequest || decide ((answers.headD default).code = 0)) &&
        (decide (s.enabledChannels ≠ []) &&
          (manualScanTC || s.hasOp Ops.hwScan && decide ((later.headD default).code = 0) &&
            decide ((later.tail.headD default).code = 0)))) s
      (alone (requestScanWith manualScanTC returnState scanRequest) s answers) := by
  cases scanRequest with
  | true => exact alone_startScanWith manualScanTC returnState s answers
  | false =>
      have asks : alone (requestScanWith manualScanTC returnState false) s answers =
        alone (if decide ((answers.headD default).code = 0) then do
            Prog.update Ieee80211.keepRequest
            startScanWith manualScanTC returnState
          else refuseScan returnState .noMemory) s answers.tail := rfl
      intro later
      rw [asks]
      cases decide ((answers.headD default).code = 0) with
      | true =>
          have started := alone_startScanWith manualScanTC returnState s.keepRequest answers.tail
          simp only [Ieee80211.enabledChannels_keepRequest, Ieee80211.hasOp_keepRequest] at started
          rw [Bool.false_or, Bool.true_and]
          have cache : s.keepRequest.scanCache = s.scanCache := rfl
          exact started.of_scanCache cache
      | false => exact alone_refuseScan returnState s answers.tail (by decide)

theorem alone_cmdScanWith :
    let run := alone (cmdScanWith manualScanTC) s answers
    if s.admitsScan then
      Decides (s.scanStarts manualScanTC answers) s.nextGeneration run
    else run.value ≠ .success ∧ run.state = s := by
  intro run
  have run_eq : run = alone (if s.state ≠ .idle then return .busy
      else if !s.powered || s.hw.isNone then return .notReady
      else do
        Prog.update fun begun => begun.enterScan s.state
        requestScanWith manualScanTC s.state s.scanRequest) s answers := rfl
  rw [run_eq]
  by_cases idle : s.state = .idle
  · rw [if_neg (not_not.mpr idle)]
    by_cases on : s.powered = true ∧ s.hw.isSome = true
    · have admitted : s.admitsScan = true := decide_eq_true ⟨idle, on⟩
      have ready : (!s.powered || s.hw.isNone) = false := by simp [on]
      rw [if_pos admitted, ready, if_neg (by decide)]
      have requested := alone_requestScanWith manualScanTC s.state (s.enterScan s.state) answers
        s.scanRequest
      simp only [Ieee80211.enabledChannels_enterScan, Ieee80211.hasOp_enterScan] at requested
      have cache : (s.enterScan s.state).scanCache = s.nextGeneration.scanCache := rfl
      exact requested.of_scanCache cache
    · have refused : ¬ s.admitsScan = true := fun admitted => on (of_decide_eq_true admitted).2
      have off : (!s.powered || s.hw.isNone) = true := by
        cases powered : s.powered <;> cases known : s.hw <;> simp_all
      rw [if_neg refused, if_pos off]
      exact ⟨nofun, rfl⟩
  · have refused : ¬ s.admitsScan = true := fun admitted => idle (of_decide_eq_true admitted).1
    rw [if_neg refused, if_pos idle]
    exact ⟨nofun, rfl⟩

/-- A scan that is refused changes nothing exactly when its first checks refuse it. -/
theorem cmdScanWith_unchanged_iff :
    let run := alone (cmdScanWith manualScanTC) s answers
    (run.value ≠ .success → s.ScanUnchanged run.state) ↔
      s.admitsScan = false ∨ s.scanStarts manualScanTC answers = true := by
  have outcome := alone_cmdScanWith manualScanTC s answers
  revert outcome
  generalize alone (cmdScanWith manualScanTC) s answers = run
  intro outcome
  cases admitted : s.admitsScan with
  | false =>
      rw [admitted, if_neg (by decide)] at outcome
      obtain ⟨-, same⟩ := outcome
      have unchanged : s.ScanUnchanged run.state := by
        rw [same]
        exact ⟨rfl, rfl, rfl, rfl⟩
      exact iff_of_true (fun _ => unchanged) (.inl rfl)
  | true =>
      rw [admitted, if_pos rfl] at outcome
      cases starts : s.scanStarts manualScanTC answers with
      | true =>
          rw [starts] at outcome
          exact iff_of_true (fun failed => absurd outcome failed) (.inr rfl)
      | false =>
          rw [starts] at outcome
          obtain ⟨failed, cache⟩ := outcome
          apply iff_of_false
          · intro unchanged
            exact s.scanCache_nextGeneration_ne (cache.symm.trans (unchanged failed).cache)
          · simp

end M

/-! ## What refused scans do to the cache -/

/-- The successful scans so far, and at which of them each address was seen last. -/
structure Sightings where
  successes : Nat
  seenAt : Bytes → Option Nat

namespace Sightings

def none : Sightings where
  successes := 0
  seenAt _ := Option.none

/-- An address is seen. -/
def sight (sightings : Sightings) (bssid : Bytes) : Sightings :=
  { sightings with
    seenAt := Function.update sightings.seenAt bssid (some sightings.successes) }

theorem seenAt_sight_self (sightings : Sightings) (bssid : Bytes) :
    (sightings.sight bssid).seenAt bssid = some sightings.successes :=
  Function.update_self _ _ _

theorem seenAt_sight_of_ne (sightings : Sightings) {bssid other : Bytes} (differs : other ≠ bssid) :
    (sightings.sight bssid).seenAt other = sightings.seenAt other :=
  Function.update_of_ne differs _ _

/-- What an operation does to the record when it starts. -/
def started (sightings : Sightings) (op : ScanOp) (answers : List Answer) (s : Ieee80211) :
    Sightings :=
  match op with
  | .cmdScan =>
      if s.admitsScan = true ∧ s.scanStarts true answers = true then
        { sightings with successes := sightings.successes + 1 }
      else sightings
  | .rxFrame skb =>
      if s.state = .scanning ∧ 36 ≤ skb.data.length ∧ (answers.headD default).code = 0 then
        sightings.sight skb.data.addr3
      else sightings
  | _ => sightings

def after (sightings : Sightings) (next : Turn Answer ScanOp) (s : Ieee80211) : Sightings :=
  match next with
  | .start op answers => sightings.started op answers s
  | .resume _ _ _ => sightings

end Sightings

/-- No scan is refused once its generation has begun. -/
def RefusesEarly (next : Turn Answer ScanOp) (s : Ieee80211) : Prop :=
  match next with
  | .start .cmdScan answers => s.admitsScan = false ∨ s.scanStarts true answers = true
  | _ => True

abbrev SightedConfig : Type := Config Ieee80211 Call Answer ScanOp IOReturn × Sightings

/-- The runs whose scans are refused early or succeed. -/
def EarlyRuns : SightedConfig → SightedConfig → Prop :=
  ReflTransGen fun now later => ∃ next move, scanning.turn now.1 next = some (move, later.1) ∧
    later.2 = now.2.after next now.1.state ∧ RefusesEarly next now.1.state

/-- What was seen in the latest successful scan or in one of the three before is in the cache. -/
def SightedConfig.Remembers (now : SightedConfig) : Prop :=
  ∀ bssid scan, now.2.seenAt bssid = some scan → now.2.successes ≤ scan + 3 →
    bssid ∈ now.1.state.bssList.map Bss.bssid

/-- The record of the successful scans agrees with the history of the generations. -/
structure Sightings.Agrees (sightings : Sightings) (history : ScanHistory) (s : Ieee80211) :
    Prop where
  scans : history.scans = sightings.successes
  seen : ∀ bssid scan, sightings.seenAt bssid = some scan →
    scan ≤ history.seen bssid ∧ scan ≤ sightings.successes
  held : ∀ bssid scan, sightings.seenAt bssid = some scan → sightings.successes ≤ scan + 3 →
    bssid ∈ s.bssList.map Bss.bssid

section

variable {sightings : Sightings} {history : ScanHistory} {s t : Ieee80211}

theorem Sightings.Agrees.of_scanCache (agrees : sightings.Agrees history s)
    (same : t.scanCache = s.scanCache) : sightings.Agrees history t := by
  have list : t.bssList = s.bssList := congrArg Prod.fst same
  refine ⟨agrees.scans, agrees.seen, ?_⟩
  rw [list]
  exact agrees.held

theorem Ieee80211.bssids_nextGeneration :
    s.nextGeneration.bssList.map Bss.bssid = s.bssList.map Bss.bssid := by
  rw [nextGeneration]
  dsimp only
  split
  · rw [List.map_map]
    rfl
  · rfl

theorem Ieee80211.mem_bssids_addBss (bss : Bss) {bssid : Bytes} :
    bssid ∈ (s.addBss bss).bssList.map Bss.bssid ↔
      bssid = bss.bssid ∨ bssid ∈ s.bssList.map Bss.bssid := by
  rw [addBss]
  dsimp only
  cases known : s.bssList.findIdx? fun entry => entry.bssid = bss.bssid with
  | none => simp
  | some index =>
      obtain ⟨replaced, same⟩ := map_bssid_set known
      have member : bss.bssid ∈ s.bssList.map Bss.bssid := same ▸ List.mem_map_of_mem replaced
      simp only [Option.elim_some, same]
      constructor
      · exact .inr
      · rintro (rfl | old)
        · exact member
        · exact old

/-- A careful operation keeps the agreement. -/
theorem Sightings.Agrees.effect (agrees : sightings.Agrees history s) (dated : s.Dated history)
    (op : ScanOp) (answers : List Answer) (early : RefusesEarly (.start op answers) s) :
    (sightings.started op answers s).Agrees (history.started op answers s)
      (op.effect answers s) := by
  cases op with
  | cmdScan =>
      by_cases admitted : s.state = .idle ∧ s.powered = true ∧ s.hw.isSome = true
      · have admits : s.admitsScan = true := decide_eq_true admitted
        have starts : s.scanStarts true answers = true :=
          early.resolve_left (by simp [admits])
        simp only [Sightings.started, ScanHistory.started, ScanOp.effect, if_pos admitted,
          if_pos (And.intro admits starts)]
        refine ⟨congrArg (· + 1) agrees.scans, ?_, ?_⟩
        · intro bssid scan seen
          obtain ⟨dates, past⟩ := agrees.seen bssid scan seen
          have scans := agrees.scans
          refine ⟨?_, Nat.le_succ_of_le past⟩
          rw [ScanHistory.begin]
          by_cases wraps : s.scanGeneration = 4294967295
          · rw [if_pos wraps, scans]
            exact Nat.le_succ_of_le past
          · rw [if_neg wraps]
            exact dates
        · intro bssid scan seen late
          rw [Ieee80211.bssids_nextGeneration]
          exact agrees.held bssid scan seen (Nat.le_of_succ_le late)
      · have refused : ¬ (s.admitsScan = true ∧ s.scanStarts true answers = true) :=
          fun both => admitted (of_decide_eq_true both.1)
        simp only [Sightings.started, ScanHistory.started, ScanOp.effect, if_neg admitted,
          if_neg refused]
        exact agrees
  | rxFrame skb =>
      simp only [Sightings.started, ScanHistory.started, ScanOp.effect]
      split
      · have address : (beaconBss skb s.scanGeneration).bssid = skb.data.addr3 :=
          bssid_readBeaconElements _ _ _
        refine ⟨agrees.scans, ?_, ?_⟩
        · intro bssid scan seen
          by_cases same : bssid = skb.data.addr3
          · subst same
            rw [sightings.seenAt_sight_self, Option.some.injEq] at seen
            subst seen
            simp [ScanHistory.sight, Sightings.sight, agrees.scans]
          · rw [sightings.seenAt_sight_of_ne same] at seen
            simpa [ScanHistory.sight, Sightings.sight, same] using agrees.seen bssid scan seen
        · intro bssid scan seen late
          rw [Ieee80211.mem_bssids_addBss, address]
          by_cases same : bssid = skb.data.addr3
          · exact .inl same
          · rw [sightings.seenAt_sight_of_ne same] at seen
            exact .inr (agrees.held bssid scan seen late)
      · exact agrees
  | scanDone aborted =>
      cases aborted with
      | true => exact agrees
      | false =>
          refine ⟨agrees.scans, agrees.seen, ?_⟩
          intro bssid scan seen late
          obtain ⟨bss, member, rfl⟩ := List.mem_map.mp (agrees.held bssid scan seen late)
          have lately : history.scans ≤ history.seen bss.bssid + 3 := by
            have dates := (agrees.seen bss.bssid scan seen).1
            have scans := agrees.scans
            have recent : sightings.successes ≤ scan + 3 := late
            omega
          have kept := (dated.keepsBss_iff member).mpr (.inr lately)
          exact List.mem_map_of_mem (List.mem_filter.mpr ⟨member, kept⟩)
  | elsewhere other => exact agrees

end

/-- In every run whose scans are refused early or succeed, the record agrees with a sound
history. -/
theorem EarlyRuns.agrees {s : Ieee80211} (initial : s.initial) {now : SightedConfig}
    (run : EarlyRuns (⟨s, []⟩, .none) now) :
    ∃ history, ScanConfig.Sound (now.1, history) ∧ now.2.Agrees history now.1.state := by
  induction run with
  | refl =>
      refine ⟨⟨0, fun _ => 0⟩, ScanRuns.sound initial .refl, rfl, ?_, ?_⟩
      · intro bssid scan seen
        cases seen
      · intro bssid scan seen
        cases seen
  | tail _ last ih =>
      obtain ⟨next, move, taken, noted, early⟩ := last
      obtain ⟨history, sound, agrees⟩ := ih
      refine ⟨history.after next _, sound.turn taken, ?_⟩
      rw [noted]
      cases next with
      | start op answers =>
          have block := ScanOp.block_program (System.enabled_of_turn taken) answers
          have cache := (sound.frames.start taken block.2).2 ▸ block.1
          exact (agrees.effect sound.dated op answers early).of_scanCache cache
      | resume position answer answers =>
          exact agrees.of_scanCache (sound.frames.resume taken).2

theorem EarlyRuns.remembers {s : Ieee80211} (initial : s.initial) {now : SightedConfig}
    (run : EarlyRuns (⟨s, []⟩, .none) now) : now.Remembers := by
  obtain ⟨history, -, agrees⟩ := run.agrees initial
  exact agrees.held

/-- A refused scan changes nothing exactly when its first checks refuse it, and as long as every
scan is refused by them or succeeds, no scan evicts what was seen in one of the three before. -/
theorem refusedScans_harmless_iff (manualScanTC : Bool) (s : Ieee80211) (answers : List Answer) :
    (let run := M.alone (M.cmdScanWith manualScanTC) s answers;
      (run.value ≠ .success → s.ScanUnchanged run.state) ↔
        s.admitsScan = false ∨ s.scanStarts manualScanTC answers = true) ∧
    ∀ start : Ieee80211, start.initial → ∀ now, EarlyRuns (⟨start, []⟩, .none) now →
      now.Remembers := by
  refine ⟨M.cmdScanWith_unchanged_iff manualScanTC s answers, ?_⟩
  intro start initial now run
  exact run.remembers initial

/-- A scan that cannot allocate its request leaves a new generation behind. -/
theorem not_refusedScans_harmless :
    ¬ ∀ config : DriverConfig, rtw88.Reachable Ieee80211.initial config → ∀ answers,
      let run := M.alone M.cmdScan config.state answers
      run.value ≠ .success → config.state.ScanUnchanged run.state := by
  intro harmless
  have reached : Scenario.play [] = some Scenario.start := rfl
  have unchanged := harmless Scenario.start (Scenario.reachable_of_play reached)
    [{ (default : Answer) with code := -12 }]
  have met := (M.cmdScanWith_unchanged_iff true _ _).mp unchanged
  revert met
  decide

end AirportRtw88
