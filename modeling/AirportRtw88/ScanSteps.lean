import AirportRtw88.Control
import AirportRtw88.Interleave.Pool

/-!
# The steps of scans

A scan always returns to `IDLE`, because `cmdScan` starts from nowhere else.  So
scans, and the commands that abort them, only ever end one; `cmdScan` enters a
scan and `cmdConnect` commits to a target.
-/

namespace AirportRtw88

open Interleave Bytes

/-- A scan always returns to `IDLE`, because `cmdScan` starts from nowhere else,
and `DISCONNECTING` is never entered. -/
structure Ieee80211.Regular (s : Ieee80211) : Prop where
  scans : s.scanReturnState = .idle
  connects : s.state ≠ .disconnecting

abbrev guardedReady : Call → Ieee80211 → Prop :=
  (rtw88.guarded Ieee80211.Regular).ready

/-- A function related by `step` from its start in `s` on, if the state is regular
whenever it runs. -/
abbrev Takes (step : Option (Call × Answer) → Ieee80211 → Stop Call IOReturn → Ieee80211 → Prop)
    (program : M IOReturn) (s : Ieee80211) : Prop :=
  program.Conforms guardedReady
    (fun resumed start call now => step resumed start (.waits call) now) none s s
    fun resumed start value now => step resumed start (.returns value) now

/-- What scans do to the control fields: they end. -/
def ScanKeeps (before after : Ieee80211) : Prop :=
  after.control = before.control ∨
    (before.state = .scanning ∧ before.control.Idles after.control)

namespace M
open Ieee80211 Prog

section Scans

attribute [local simp] perform succeeds submit recordTx Ieee80211.control

theorem setAWDLChannel_inert (channel : Nat) :
    Inert (· = .awdlSwitchChannel) (setAWDLChannel channel) := by
  intro ready now
  simp only [setAWDLChannel, pure_eq_ret, bind_eq_bind, guarantees_bind, guarantees_fetch,
    guarantees_ite, guarantees_ret, guarantees_update]
  refine ⟨fun _ => trivial, fun _ => ⟨rfl, fun _ => trivial, fun _ => ?_⟩⟩
  cases now.findChannel _ <;> simp [tuneTo, modifyChandef]

theorem scanChannel_inert (chan : Channel) :
    Inert (fun call => call.connects = false) (scanChannel false chan) := by
  intro ready now
  simp [scanChannel, setOnHomeChannel, tuneTo, modifyChandef, txProbeRequest, txMgmtFrame,
    bumpTxSeq, Call.connects]

theorem scanChannels_inert (remaining i : Nat) :
    Inert (fun call => call.connects = false) (scanChannels false remaining i) := by
  induction remaining generalizing i with
  | zero => exact fun ready now => trivial
  | succ remaining ih =>
      intro ready now
      simp only [scanChannels, bind_eq_bind, guarantees_bind, guarantees_fetch,
        guarantees_when, guarantees_whenSome]
      refine ⟨fun _ => ⟨fun chan _ => ?_, fun _ => ih _ _ _⟩, fun _ => trivial⟩
      exact (scanChannel_inert chan ready now).mono (fun _ _ => id) (fun _ _ => id)
        fun _ _ _ => ih _ _ _

end Scans

end M

theorem ScanKeeps.of_same {before after : Ieee80211} (same : after.control = before.control) :
    ScanKeeps before after :=
  .inl same

theorem ScanKeeps.of_becomeIdle {before after : Ieee80211} (scanning : before.state = .scanning)
    (idle : after.control = before.control.becomeIdle) : ScanKeeps before after :=
  .inr ⟨scanning, idle ▸ before.control.idles_becomeIdle⟩

theorem ScanKeeps.trans {first second third : Ieee80211} (early : ScanKeeps first second)
    (late : ScanKeeps second third) : ScanKeeps first third := by
  rcases early with early | ⟨scanning, early⟩ <;> rcases late with late | ⟨scanning', late⟩
  · exact .inl (Eq.trans late early)
  · rw [early] at late
    exact .inr ⟨(Ieee80211.tests_of_control_eq early).1.symm.trans scanning', late⟩
  · exact .inr ⟨scanning, late ▸ early⟩
  · exact .inr ⟨scanning, early.trans late⟩

theorem regular_of_control_eq {before after : Ieee80211} (same : after.control = before.control)
    (regular : before.Regular) : after.Regular where
  scans := (congrArg Control.scanReturnState same).trans regular.scans
  connects := (Ieee80211.tests_of_control_eq same).1 ▸ regular.connects

/-- A program that only ends scans. -/
abbrev Scans {α : Type} (program : M α) (now : Ieee80211) (post : α → Ieee80211 → Prop) : Prop :=
  program.Guarantees guardedReady ScanKeeps (fun call _ => call.connects = false) now post

theorem Inert.scans {α : Type} {calls : Call → Prop} {program : M α}
    (inert : Inert calls program) (other : ∀ call, calls call → call.connects = false)
    {now : Ieee80211} {post : α → Ieee80211 → Prop} (ends : ∀ value later, post value later) :
    Scans program now post :=
  (inert guardedReady now).mono (fun _ _ => .inl) (fun call _ => other call)
    fun value later _ => ends value later

namespace M
open Ieee80211 Prog

theorem leaveActiveScan_scans {now : Ieee80211} (idle : now.scanReturnState = .idle)
    {post : Unit → Ieee80211 → Prop} (ends : ∀ later, post () later) :
    Scans leaveActiveScan now post := by
  simp only [leaveActiveScan, idle, pure_eq_ret, bind_eq_bind, guarantees_bind,
    guarantees_fetch, guarantees_when, guarantees_update, guarantees_ret]
  refine ⟨fun scanning => ⟨by rintro ⟨⟩, fun _ => ⟨?_, fun _ => ?_, fun _ => ends _⟩⟩,
    fun _ => ends _⟩
  · exact .of_becomeIdle (of_decide_eq_true scanning) rfl
  · exact (setAWDLChannel_inert _).scans (by rintro _ rfl; rfl) fun _ later => ends later

theorem scanDone_scans (aborted : Bool) {now : Ieee80211} (idle : now.scanReturnState = .idle)
    {post : Unit → Ieee80211 → Prop} (ends : ∀ later, post () later) :
    Scans (scanDone aborted) now post := by
  simp only [scanDone, perform, pure_eq_ret, bind_eq_bind, guarantees_bind, guarantees_when,
    guarantees_update, guarantees_fetch, guarantees_await, guarantees_ret]
  refine ⟨fun _ => ⟨.of_same rfl, ?_⟩, fun _ => ?_⟩ <;>
    apply leaveActiveScan_scans
  · exact idle
  · exact fun later => ⟨fun _ => ⟨rfl, fun _ _ _ => ends _⟩, fun _ => ends _⟩
  · exact idle
  · exact fun later => ⟨fun _ => ⟨rfl, fun _ _ _ => ends _⟩, fun _ => ends _⟩

theorem runManualScan_scans {now : Ieee80211} (regular : now.Regular)
    {post : Unit → Ieee80211 → Prop} (ends : ∀ later, post () later) :
    Scans runManualScan now post := by
  simp only [runManualScan, perform, regular.scans, pure_eq_ret, bind_eq_bind,
    guarantees_bind, guarantees_when, guarantees_update, guarantees_fetch, guarantees_await,
    guarantees_ret, guarantees_ite]
  refine ⟨fun _ => scanDone_scans true regular.scans fun later => ⟨.of_same rfl, ends _⟩,
    fun _ => ⟨rfl, fun _ later _ => ?_⟩⟩
  refine (scanChannels_inert _ _).scans (fun _ => id) fun _ later =>
    ⟨.of_same rfl, rfl, fun _ later isReady => ⟨by rintro ⟨⟩, fun _ => ?_⟩⟩
  exact scanDone_scans _ isReady.2.scans fun later => ⟨.of_same rfl, ends _⟩

end M

/-! ## Commands -/

def CmdScanStep : Option (Call × Answer) → Control → Stop Call IOReturn → Control → Prop
  | none, before, stop, after =>
      ((∃ value, stop = .returns value) ∧ after = before) ∨
      (before.state = .idle ∧
        (((∃ channels, stop = .waits (.hwScan channels)) ∧ after = before.setState .scanning) ∨
          ((∃ value, stop = .returns value) ∧
            (after = (before.setState .scanning).setState .idle ∨
              ∃ ms, after = (before.setState .scanning).wakeAtTime ms))))
  | some _, before, stop, after =>
      (∃ value, stop = .returns value) ∧ ∃ ms, after = before.wakeAtTime ms

/-- What `cmdConnect` may have done to the control fields before it commits. -/
def Control.EndsScan (before after : Control) : Prop :=
  after = before ∨ (before.state = .scanning ∧ before.Idles after)

/-- `cmdConnect`: a scan may end, and an accepted call commits. -/
def CmdConnectStep (before : Control) (stop : Stop Call IOReturn) (after : Control) : Prop :=
  stopConnects stop = false ∧ ∃ mid, before.EndsScan mid ∧
    ((stop ≠ .returns .success ∧ after = mid) ∨
      (stop = .returns .success ∧ ∃ wpa2 supplicant, after = mid.commitConnect wpa2 supplicant))

namespace M

open Ieee80211 Prog

/-- A block of `cmdScan` that has entered the scan. -/
def scansAt (resumed : Option (Call × Answer)) (start : Ieee80211) (c : Control) : Prop :=
  (resumed = none ∧ start.state = .idle ∧ c = start.control.setState .scanning) ∨
    (∃ call answer, resumed = some (call, answer) ∧ c = start.control)

theorem scansAt.arms {resumed start c} (at_ : scansAt resumed start c) (ms : Nat)
    (value : IOReturn) :
    CmdScanStep resumed start.control (.returns value) (c.wakeAtTime ms) := by
  rcases at_ with ⟨rfl, idle, rfl⟩ | ⟨call, answer, rfl, rfl⟩
  · exact .inr ⟨idle, .inr ⟨⟨value, rfl⟩, .inr ⟨ms, rfl⟩⟩⟩
  · exact ⟨⟨value, rfl⟩, ms, rfl⟩

theorem startManualScan_scan (channels : List Channel) {ready resumed start now}
    (at_ : scansAt resumed start now.control) :
    (startManualScan channels).Conforms ready
      (fun resumed start call now =>
        CmdScanStep resumed start.control (.waits call) now.control)
      resumed start now
      fun resumed start value now =>
        CmdScanStep resumed start.control (.returns value) now.control := by
  simp only [startManualScan, pure_eq_ret, bind_eq_bind, conforms_bind, conforms_update,
    conforms_ret]
  exact at_.arms _ _

theorem startScan_scan {ready} {start now : Ieee80211} (idle : start.state = .idle)
    (scanning : now.control = start.control.setState .scanning)
    (returning : now.scanReturnState = .idle) :
    (startScan .idle).Conforms ready
      (fun resumed start call now =>
        CmdScanStep resumed start.control (.waits call) now.control)
      none start now
      fun resumed start value now =>
        CmdScanStep resumed start.control (.returns value) now.control := by
  have entered : scansAt none start now.control := .inl ⟨rfl, idle, scanning⟩
  simp only [startScan, refuseScan, startHwScan, succeeds, pure_eq_ret, bind_eq_bind,
    conforms_bind, conforms_fetch, conforms_ite, conforms_ret, conforms_update,
    conforms_choose, conforms_await]
  refine ⟨fun _ => ?_, fun _ offload => ⟨fun _ => startManualScan_scan _ entered, fun _ => ?_⟩⟩
  · refine .inr ⟨idle, .inr ⟨⟨_, rfl⟩, .inl ?_⟩⟩
    rw [← scanning]
    simp [Control.setState, Ieee80211.control, Ieee80211.setState, returning]
  · refine ⟨.inr ⟨idle, .inl ⟨⟨_, rfl⟩, scanning⟩⟩, fun answer later _ =>
      ⟨fun _ => startManualScan_scan _ (.inr ⟨_, answer, rfl, rfl⟩), fun _ => ?_⟩⟩
    exact scansAt.arms (.inr ⟨_, answer, rfl, rfl⟩) _ _

theorem cmdScan_takes {s : Ieee80211} (regular : s.Regular) :
    Takes (fun resumed start stop now => CmdScanStep resumed start.control stop now.control)
      cmdScan s := by
  simp only [cmdScan, refuseScan, succeeds, pure_eq_ret, bind_eq_bind, conforms_bind,
    conforms_fetch, conforms_ite, conforms_ret,
    conforms_update, conforms_choose]
  have keeps : ∀ value, CmdScanStep none s.control (.returns value) s.control := fun value =>
    .inl ⟨⟨value, rfl⟩, rfl⟩
  refine ⟨fun _ => keeps _, fun idle => ⟨fun _ => keeps _, fun _ => ?_⟩⟩
  rw [not_ne_iff] at idle
  have scanning : ({ s.nextGeneration.setState .scanning with scanReturnState := .idle } :
      Ieee80211).control = s.control.setState .scanning := by
    simp [Ieee80211.control, Control.setState, Ieee80211.setState, nextGeneration, regular.scans]
  simp only [idle]
  refine ⟨fun _ => startScan_scan idle scanning rfl, fun _ answer =>
    ⟨fun _ => startScan_scan idle scanning rfl, fun _ => ?_⟩⟩
  refine .inr ⟨idle, .inr ⟨⟨_, rfl⟩, .inl ?_⟩⟩
  rw [← scanning]
  rfl

/-- The requests of `abortActiveScan` when no connection is behind the scan. -/
def abortsScan (call : Call) : Prop :=
  call = .cancelHwScan ∨ ∃ ms, call = .sleep ms

theorem abortsScan_quiet {call : Call} (aborts : abortsScan call) : call.Quiet := by
  rcases aborts with rfl | ⟨ms, rfl⟩ <;> exact ⟨nofun, nofun, nofun, rfl⟩

theorem waitForScan_inert (rounds : Nat) : Inert abortsScan (waitForScan rounds) := by
  induction rounds with
  | zero => exact fun ready now => trivial
  | succ rounds ih =>
      intro ready now
      simp only [waitForScan, perform, pure_eq_ret, bind_eq_bind, guarantees_bind,
        guarantees_fetch, guarantees_when, guarantees_await, guarantees_ret]
      exact ⟨fun _ => ⟨.inr ⟨_, rfl⟩, fun _ later _ => ih ready later⟩, fun _ => trivial⟩

/-- The wait of `abortActiveScan` and what follows it. -/
theorem leaveAbortedScan_scans {now : Ieee80211} (regular : now.Regular) :
    (Prog.bind (waitForScan 40) fun _ => leaveAbortedScan .idle).Guarantees guardedReady
      ScanKeeps (fun call _ => abortsScan call) now
      fun ended later => ended = false → later.state = .scanning := by
  have waits := (waitForScan_inert 40 guardedReady now).invariant
    (fun _ _ same => regular_of_control_eq same) (fun _ _ isReady => isReady.2) regular
  simp only [leaveAbortedScan, pure_eq_ret, bind_eq_bind, guarantees_bind, guarantees_fetch,
    guarantees_ite, guarantees_ret, guarantees_update, guarantees_when]
  refine waits.mono (fun _ _ => .of_same) (fun _ _ => id) fun _ later held =>
    ⟨fun scanning => ⟨fun _ _ => scanning, fun _ => ⟨by rintro ⟨⟩, fun _ => ?_⟩⟩,
      fun _ => by rintro ⟨⟩⟩
  exact ⟨.of_becomeIdle scanning rfl, by rintro ⟨⟩⟩

theorem abortActiveScan_scans {now : Ieee80211} (regular : now.Regular) :
    (abortActiveScan true).Guarantees guardedReady ScanKeeps (fun call _ => abortsScan call)
      now fun ended later => ended = false → later.state = .scanning := by
  simp only [abortActiveScan, perform, regular.scans, pure_eq_ret, bind_eq_bind,
    guarantees_bind, guarantees_fetch, guarantees_ite, guarantees_ret, guarantees_update,
    guarantees_when, guarantees_await]
  have leaves : ∀ now : Ieee80211, now.Regular → _ := fun now regular =>
    (guarantees_bind _ _ _ _).mp (leaveAbortedScan_scans regular)
  refine ⟨fun _ => by rintro ⟨⟩, fun _ => ⟨fun _ => ⟨.of_same rfl, by rintro ⟨⟩, fun _ => ?_⟩,
    fun _ => ⟨fun _ => ⟨.inl rfl, fun _ later isReady => ⟨by rintro ⟨⟩, fun _ => ?_⟩⟩,
      fun _ => ⟨by rintro ⟨⟩, fun _ => ?_⟩⟩⟩⟩
  · exact leaves _ ⟨regular.scans, regular.connects⟩
  · exact leaves _ isReady.2
  · exact leaves _ regular

theorem cmdConnect_takes (args : ConnectArgs) {s : Ieee80211} (regular : s.Regular) :
    Takes (fun _ start stop now => CmdConnectStep start.control stop now.control)
      (cmdConnect args) s := by
  simp only [cmdConnect, connectIdle, pure_eq_ret, bind_eq_bind, conforms_bind, conforms_fetch,
    conforms_ite, conforms_ret]
  have refuses : ∀ (start now : Ieee80211) stop, start.control.EndsScan now.control →
      stop ≠ .returns .success → stopConnects stop = false →
      CmdConnectStep start.control stop now.control :=
    fun start now stop mid fails other => ⟨other, _, mid, .inl ⟨fails, rfl⟩⟩
  apply (abortActiveScan_scans regular).conforms fun _ start now => ScanKeeps start now
  · exact .of_same rfl
  · exact fun _ _ _ _ => ScanKeeps.trans
  · exact fun _ _ _ later _ _ => .of_same rfl
  · exact fun _ _ call _ mid aborts => refuses _ _ _ mid (by rintro ⟨⟩)
      (abortsScan_quiet aborts).sends
  rintro resumed start ended now mid -
  refine ⟨fun _ => ⟨fun _ => refuses _ _ _ mid (by rintro ⟨⟩) rfl, fun _ =>
    ⟨fun _ => refuses _ _ _ mid (by rintro ⟨⟩) rfl,
    fun _ => ⟨fun _ => refuses _ _ _ mid (by rintro ⟨⟩) rfl, fun _ => ?_⟩⟩⟩, fun _ =>
      refuses _ _ _ mid (by rintro ⟨⟩) rfl⟩
  apply clearKeys_inert.conforms fun _ start c => start.control.EndsScan c
  · exact mid
  · exact fun _ _ _ _ _ => .inl rfl
  · rintro _ _ _ _ mid ⟨install, pairwise, key, rfl⟩
    exact refuses _ _ _ mid (by rintro ⟨⟩) rfl
  intro resumed start _ now mid
  apply releaseSta_inert.conforms fun _ start c => start.control.EndsScan c
  · exact mid
  · exact fun _ _ _ _ _ => .inl rfl
  · rintro _ _ _ _ mid rfl
    exact refuses _ _ _ mid (by rintro ⟨⟩) rfl
  intro resumed start _ now mid
  cases now.selectBss args with
  | none => exact refuses _ _ _ mid (by rintro ⟨⟩) rfl
  | some target =>
      simp only [conforms_bind, conforms_update, conforms_ite, conforms_ret]
      refine ⟨fun _ => refuses _ _ _ mid (by rintro ⟨⟩) rfl, fun _ =>
        ⟨rfl, _, mid, .inr ⟨rfl, _, _, rfl⟩⟩⟩

end M

end AirportRtw88
