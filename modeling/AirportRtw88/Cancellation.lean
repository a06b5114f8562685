import AirportRtw88.Steps

/-!
# Cancellation

`cmdDisconnect` and `cmdPowerOff` set the cancelled flag, drain the thread call of
the authentication and leave an idle state machine.  A handler of received frames
that has passed its own check of the flag is not drained; the state machine stays
idle in the runs in which no such handler goes on.
-/

namespace AirportRtw88

open Interleave Bytes

attribute [local grind] ThreadCall.enter ThreadCall.cancel ThreadCall.resume Call.cancelMid

/-! ## Counting the threads of the thread call -/

/-- The threads that run the thread call. -/
def authThreads (labels : List (Op × Call)) : Nat :=
  labels.countP fun label => label.1 = .connectCall

theorem kind_connectCall {op : Op} : op.kind = .authenticates ↔ op = .connectCall := by
  cases op <;> simp [Op.kind]

theorem RxStep.connectTC {place place' : RxPlace} {before after : Control}
    (step : RxStep place before place' after) : after.connectTC = before.connectTC := by
  cases place <;> simp only [RxStep, PublishStep, ShakeStep] at step <;> grind

theorem TimerStep.running {resumed stop} {before after : Control}
    (step : TimerStep resumed before stop after) :
    after.connectTC.running = before.connectTC.running := by
  unfold TimerStep at step
  split at step
  · split at step <;> grind
  all_goals grind

theorem CancelStep.running {resumed stop} {before after : Control}
    (step : CancelStep resumed before stop after) :
    after.connectTC.running = before.connectTC.running := by
  rcases resumed with _ | ⟨call, answer⟩ <;> simp only [CancelStep] at step <;> grind

theorem CmdScanStep.connectTC {resumed stop} {before after : Control}
    (step : CmdScanStep resumed before stop after) : after.connectTC = before.connectTC := by
  cases resumed <;> simp only [CmdScanStep] at step <;> grind

theorem CmdConnectStep.running {stop} {before after : Control}
    (step : CmdConnectStep before stop after) :
    after.connectTC.running = before.connectTC.running := by
  simp only [CmdConnectStep, Control.EndsScan] at step
  grind

theorem ScanKeeps.connectTC {before after : Ieee80211} (keeps : ScanKeeps before after) :
    after.connectTC = before.connectTC := by
  rcases keeps with same | ⟨-, idles⟩
  · exact congrArg Control.connectTC same
  · exact idles.keeps.1

theorem OpStep.running_of_ne {op resumed start stop now}
    (step : OpStep op resumed start stop now) (other : op ≠ .connectCall) :
    now.connectTC.running = start.connectTC.running := by
  unfold OpStep at step
  cases kind : op.kind <;> rw [kind] at step
  · exact congrArg ThreadCall.running (RxStep.connectTC step)
  · exact TimerStep.running step
  · exact absurd (kind_connectCall.mp kind) other
  · exact congrArg ThreadCall.running (CmdScanStep.connectTC step)
  · exact CmdConnectStep.running step
  · exact CancelStep.running step
  · exact congrArg ThreadCall.running (ScanKeeps.connectTC step.1)

/-- A step keeps the number of running threads that the thread call counts. -/
theorem OpStep.running {op resumed start stop now} (step : OpStep op resumed start stop now)
    (counts : authThreads (Move.removed ⟨op, resumed, stop⟩) ≤ start.connectTC.running) :
    now.connectTC.running + authThreads (Move.removed ⟨op, resumed, stop⟩) =
      start.connectTC.running + authThreads (Move.added ⟨op, resumed, stop⟩) := by
  by_cases own : op = .connectCall
  · subst own
    rcases resumed with _ | ⟨call, answer⟩
    · simp only [OpStep, OpKind.Step, Op.kind, ConnectStep] at step
      split at step
      · obtain ⟨⟨value, rfl⟩, rfl⟩ := step
        rfl
      · obtain ⟨rfl, rfl⟩ := step
        rfl
    · have counts : 1 ≤ start.connectTC.running := counts
      have step : ConnectStep (some (call, answer)) start stop now := step
      rcases step.control with ⟨next, rfl, -, same⟩ | ⟨⟨value, rfl⟩, same⟩
      · have same : now.connectTC = start.connectTC := congrArg Control.connectTC same
        simp [Move.removed, Move.added, authThreads, same]
      · have finished : now.connectTC = start.connectTC.finish := by
          rcases same with same | ⟨-, -, same⟩ <;> exact congrArg Control.connectTC same
        simp [Move.removed, Move.added, authThreads, finished, ThreadCall.finish]
        omega
  · have same := step.running_of_ne own
    cases resumed <;> cases stop <;> simp [Move.removed, Move.added, authThreads, own, same]

/-- The thread call counts its threads. -/
def Counted (config : DriverConfig) : Prop :=
  config.state.connectTC.running = authThreads config.labels

theorem counted_initial {s : Ieee80211} (initial : s.initial) : Counted ⟨s, []⟩ := by
  obtain ⟨attached, -, rfl⟩ := initial
  rfl

theorem Counted.step {config config' : DriverConfig} {move : DriverMove}
    (taken : rtw88.Step config move config')
    (step : OpStep move.op move.resumed config.state move.stop config'.state)
    (counted : Counted config) : Counted config' := by
  obtain ⟨before, after, labels, labels'⟩ := taken.labels
  have split : ∀ first second third : List (Op × Call),
      authThreads (first ++ second ++ third) =
        authThreads first + authThreads second + authThreads third := by
    intro first second third
    simp [authThreads, Nat.add_assoc]
  unfold Counted at counted ⊢
  rw [labels, split] at counted
  have kept := step.running (by show authThreads move.removed ≤ _; omega)
  rw [labels', split]
  change _ + authThreads move.removed = _ + authThreads move.added at kept
  omega

/-! ## What cancels stays cancelled -/

theorem RxStep.flag {place place' : RxPlace} {before after : Control}
    (step : RxStep place before place' after) :
    after.connectCancelled = before.connectCancelled := by
  cases place <;> simp only [RxStep, PublishStep, ShakeStep] at step <;> grind

theorem TimerStep.flag {resumed stop} {before after : Control}
    (step : TimerStep resumed before stop after) :
    after.connectCancelled = before.connectCancelled := by
  unfold TimerStep at step
  split at step
  · split at step <;> grind
  all_goals grind

theorem CancelStep.flag {resumed stop} {before after : Control}
    (step : CancelStep resumed before stop after) (cancelled : before.connectCancelled = true) :
    after.connectCancelled = true := by
  rcases resumed with _ | ⟨call, answer⟩ <;> simp only [CancelStep] at step <;> grind

theorem ConnectStep.flag {resumed start stop now} (step : ConnectStep resumed start stop now) :
    now.connectCancelled = start.connectCancelled := by
  rcases resumed with _ | ⟨call, answer⟩
  · simp only [ConnectStep] at step
    split at step <;> obtain ⟨-, rfl⟩ := step <;> rfl
  · rcases step.control with ⟨_, -, -, same⟩ | ⟨-, same | ⟨-, -, same⟩⟩ <;>
      exact congrArg Control.connectCancelled same

theorem ScanKeeps.flag {before after : Ieee80211} (keeps : ScanKeeps before after) :
    after.connectCancelled = before.connectCancelled := by
  rcases keeps with same | ⟨-, idles⟩
  · exact congrArg Control.connectCancelled same
  · exact idles.keeps.2.1

/-- Only `cmdConnect` clears the cancelled flag. -/
theorem OpStep.flag {op resumed start stop now} (step : OpStep op resumed start stop now)
    (other : op.kind ≠ .connects) (cancelled : start.connectCancelled = true) :
    now.connectCancelled = true := by
  unfold OpStep at step
  cases kind : op.kind <;> rw [kind] at step
  · exact (RxStep.flag step).trans cancelled
  · exact (TimerStep.flag step).trans cancelled
  · exact (ConnectStep.flag step).trans cancelled
  · cases resumed <;> simp only [OpKind.Step, CmdScanStep] at step <;> grind [Ieee80211.control]
  · exact absurd kind other
  · exact CancelStep.flag step cancelled
  · exact (ScanKeeps.flag step.1).trans cancelled

/-- The phase in which a handler of received frames goes on once its check of the
cancelled flag has passed. -/
def RxPlace.phase : RxPlace → Option Rtw88State
  | .authChecked false | .associateChecked false => some .authenticating
  | .assocChecked false | .registering => some .associating
  | .shaking => some .handshaking
  | _ => none

/-- A handler of received frames does not go on after a cancellation that took the state
machine out of the phase it works in. -/
def Undisturbed (s : Ieee80211) (move : DriverMove) : Prop :=
  move.op.kind = .receives → s.connectCancelled = true →
    ∀ phase, (rxOrigin move.resumed).phase = some phase → s.state = phase

theorem RxStep.idle {place place' : RxPlace} {before after : Control}
    (step : RxStep place before place' after) (idle : before.state = .idle)
    (undisturbed : ∀ phase, place.phase = some phase → before.state = phase) :
    after.state = .idle ∧ place' ≠ .associating ∧ place' ≠ .foreign := by
  cases place with
  | authChecked cancelled | associateChecked cancelled | assocChecked cancelled =>
      cases cancelled <;> simp only [RxStep, RxPlace.phase] at step undisturbed <;> grind
  | _ => simp only [RxStep, PublishStep, ShakeStep, RxPlace.phase] at step undisturbed <;> grind

theorem TimerStep.idle {resumed stop} {before after : Control}
    (step : TimerStep resumed before stop after) (idle : before.state = .idle) :
    after.state = .idle := by
  unfold TimerStep at step
  split at step
  · split at step <;> grind
  all_goals grind

theorem CancelStep.idle {resumed stop} {before after : Control}
    (step : CancelStep resumed before stop after) (idle : before.state = .idle) :
    after.state = .idle := by
  rcases resumed with _ | ⟨call, answer⟩ <;> simp only [CancelStep] at step <;> grind

theorem ConnectStep.state {resumed start stop now} (step : ConnectStep resumed start stop now) :
    now.state = start.state := by
  rcases resumed with _ | ⟨call, answer⟩
  · simp only [ConnectStep] at step
    split at step <;> obtain ⟨-, rfl⟩ := step <;> rfl
  · rcases step.control with ⟨_, -, -, same⟩ | ⟨-, same | ⟨-, -, same⟩⟩ <;>
      exact congrArg Control.state same

theorem ScanKeeps.idle {before after : Ieee80211} (keeps : ScanKeeps before after)
    (idle : before.state = .idle) : after.state = .idle := by
  rcases keeps with same | ⟨scanning, -⟩
  · exact (congrArg Control.state same).trans idle
  · simp [idle] at scanning

/-- Without a new command, an idle state machine stays idle once it is cancelled. -/
theorem OpStep.idle {op resumed start stop now} (step : OpStep op resumed start stop now)
    (scans : op.kind ≠ .scans) (connects : op.kind ≠ .connects)
    (undisturbed : Undisturbed start ⟨op, resumed, stop⟩)
    (cancelled : start.connectCancelled = true) (idle : start.state = .idle) :
    now.state = .idle := by
  unfold OpStep at step
  cases kind : op.kind <;> rw [kind] at step
  · exact (RxStep.idle step idle (undisturbed kind cancelled)).1
  · exact TimerStep.idle step idle
  · exact (ConnectStep.state step).trans idle
  · exact absurd kind scans
  · exact absurd kind connects
  · exact CancelStep.idle step idle
  · exact ScanKeeps.idle step.1 idle

/-! ## Threads that only have to end -/

/-- Every thread of the thread call has loaded the cancelled flag as set. -/
def Harmless (labels : List (Op × Call)) : Prop :=
  ∀ call, (Op.connectCall, call) ∈ labels → call.proceeds = false

theorem harmless_of_none {config : DriverConfig} (counted : Counted config)
    (drained : config.state.connectTC.running = 0) : Harmless config.labels := by
  intro call member
  unfold Counted at counted
  rw [drained, authThreads, eq_comm, List.countP_eq_zero] at counted
  simpa using counted _ member

/-- A thread of the thread call that has loaded the flag as set only ends. -/
theorem OpStep.harmless {op resumed start stop now} (step : OpStep op resumed start stop now)
    (cancelled : start.connectCancelled = true)
    (harmless : Harmless (Move.removed ⟨op, resumed, stop⟩)) :
    Harmless (Move.added ⟨op, resumed, stop⟩) ∧
      (op = .connectCall → stopConnects stop = false) := by
  by_cases own : op = .connectCall
  · subst own
    rcases resumed with _ | ⟨call, answer⟩
    · simp only [OpStep, OpKind.Step, Op.kind, ConnectStep] at step
      split at step
      · obtain ⟨⟨value, rfl⟩, rfl⟩ := step
        exact ⟨by rintro _ ⟨⟩, fun _ => rfl⟩
      · obtain ⟨rfl, rfl⟩ := step
        refine ⟨?_, fun _ => rfl⟩
        simp [Harmless, Move.added, Call.proceeds, cancelled]
    · have stopped := harmless call (by simp [Move.removed])
      have step : ConnectStep (some (call, answer)) start stop now := step
      rcases step.control with ⟨next, rfl, leads, -⟩ | ⟨⟨value, rfl⟩, -⟩
      · simp [leads.proceeds] at stopped
      · exact ⟨by rintro _ ⟨⟩, fun _ => rfl⟩
  · refine ⟨fun call member => ?_, fun same => absurd same own⟩
    cases stop <;> simp [Move.added, Ne.symm own] at member

theorem Harmless.step {config config' : DriverConfig} {move : DriverMove}
    (taken : rtw88.Step config move config')
    (step : OpStep move.op move.resumed config.state move.stop config'.state)
    (cancelled : config.state.connectCancelled = true) (harmless : Harmless config.labels) :
    Harmless config'.labels ∧ (move.op = .connectCall → stopConnects move.stop = false) := by
  obtain ⟨before, after, labels, labels'⟩ := taken.labels
  rw [labels] at harmless
  have own := step.harmless cancelled fun call member => harmless call (by simp [member])
  refine ⟨fun call member => ?_, own.2⟩
  rw [labels'] at member
  rcases List.mem_append.mp member with early | late
  · rcases List.mem_append.mp early with old | new
    · exact harmless call (by simp [old])
    · exact own.1 call new
  · exact harmless call (by simp [late])

/-! ## After a cancellation -/

/-- The state that a finished cancellation leaves behind. -/
structure Cancelled (config : DriverConfig) : Prop where
  flag : config.state.connectCancelled = true
  idle : config.state.state = .idle
  harmless : Harmless config.labels

/-- The runs without a new command in which received frames do not disturb. -/
def NoCommand (admits : Ieee80211 → DriverMove → Prop) (config : DriverConfig)
    (move : DriverMove) (_ : DriverConfig) : Prop :=
  move.op.kind ≠ .scans ∧ move.op.kind ≠ .connects ∧ admits config.state move

theorem TearStep.sends {before after : Control} {stop} (step : TearStep before stop after) :
    stopConnects stop = false := by
  rcases step with ⟨call, rfl, tears, -⟩ | ⟨rfl | ⟨value, rfl⟩, -⟩
  · exact (quiet_of_tearsDown tears).sends
  · rfl
  · rfl

theorem TimerStep.sends {resumed stop} {before after : Control}
    (step : TimerStep resumed before stop after) : stopConnects stop = false := by
  have tears : ∀ before, TearStep before stop after → stopConnects stop = false :=
    fun _ => TearStep.sends
  unfold TimerStep at step
  split at step
  · split at step <;> grind [stopConnects, Call.connects]
  all_goals grind [stopConnects]

theorem OpStep.sends_nothing {op resumed start stop now}
    (step : OpStep op resumed start stop now) (scans : op.kind ≠ .scans)
    (connects : op.kind ≠ .connects) (undisturbed : Undisturbed start ⟨op, resumed, stop⟩)
    (cancelled : start.connectCancelled = true) (idle : start.state = .idle)
    (thread : op = .connectCall → stopConnects stop = false) : stopConnects stop = false := by
  unfold OpStep at step
  cases kind : op.kind <;> rw [kind] at step
  · have places := (RxStep.idle step idle (undisturbed kind cancelled)).2
    cases stop with
    | returns value => rfl
    | waits call =>
        cases call with
        | tx site skb =>
            cases site <;> simp_all [stopPlace, Call.rxPlace, stopConnects, Call.connects]
        | _ => rfl
  · exact TimerStep.sends step
  · exact thread (kind_connectCall.mp kind)
  · exact absurd kind scans
  · exact absurd kind connects
  · rcases resumed with _ | ⟨call, answer⟩
    · obtain ⟨rfl, -⟩ := step
      rfl
    · rcases step with ⟨-, rfl, -⟩ | ⟨-, ⟨value, rfl⟩, -⟩ | ⟨-, -, other, -⟩
      · rfl
      · rfl
      · exact other
  · exact step.2

theorem Cancelled.step {config config' : DriverConfig} {move : DriverMove}
    (taken : rtw88.Step config move config')
    (admitted : NoCommand Undisturbed config move config')
    (step : OpStep move.op move.resumed config.state move.stop config'.state)
    (cancelled : Cancelled config) :
    Cancelled config' ∧ stopConnects move.stop = false := by
  obtain ⟨scans, connects, undisturbed⟩ := admitted
  have threads := cancelled.harmless.step taken step cancelled.flag
  refine ⟨⟨step.flag connects cancelled.flag, ?_, threads.1⟩, ?_⟩
  · exact step.idle scans connects undisturbed cancelled.flag cancelled.idle
  · exact step.sends_nothing scans connects undisturbed cancelled.flag cancelled.idle threads.2

/-- What is known while a cancellation is under way. -/
structure Cancelling (op : Op) (config : DriverConfig) : Prop where
  counted : Counted config
  flag : config.state.connectCancelled = true
  drained : ∀ call, (op, call) ∈ config.labels → call ≠ .cancelWait → Harmless config.labels
  announced : (op, Call.setLinkStatus false) ∈ config.labels → config.state.state = .idle

/-- The commands that cancel a connection and report how they ended. -/
def Op.disconnects : Op → Bool
  | .cmdDisconnect _ | .cmdPowerOff _ => true
  | _ => false

theorem kind_of_disconnects {op : Op} (disconnects : op.disconnects = true) :
    op.kind = .cancels := by
  cases op <;> simp_all [Op.disconnects, Op.kind]

/-- Once the first wait of a canceller is over, no thread of the thread call goes on. -/
theorem Cancelling.harmless {op : Op} {config config' : DriverConfig} {move : DriverMove}
    (cancelling : Cancelling op config) (taken : rtw88.Step config move config')
    (own : move.op = op) {call : Call} {answer : Answer}
    (resumed : move.resumed = some (call, answer)) : Harmless config.labels := by
  have member := own ▸ mem_labels_of_resumed taken resumed
  by_cases waited : call = .cancelWait
  · have drained : config.state.connectTC.drained = true := by
      have isReady := taken.ready resumed
      rwa [waited] at isReady
    refine harmless_of_none cancelling.counted ?_
    simp_all [ThreadCall.drained]
  · exact cancelling.drained call member waited

theorem Cancelling.step {op : Op} (disconnects : op.disconnects = true)
    {config config' : DriverConfig} {move : DriverMove}
    (taken : rtw88.Step config move config')
    (admitted : NoCommand Undisturbed config move config')
    (step : OpStep move.op move.resumed config.state move.stop config'.state)
    (cancelling : Cancelling op config) : Cancelling op config' := by
  obtain ⟨scans, connects, undisturbed⟩ := admitted
  have kind := kind_of_disconnects disconnects
  refine ⟨cancelling.counted.step taken step, step.flag connects cancelling.flag, ?_, ?_⟩
  · intro call member past
    suffices harmless : Harmless config.labels from
      (harmless.step taken step cancelling.flag).1
    rcases mem_labels_of_step taken member with old | new
    · exact cancelling.drained call old past
    · obtain ⟨stopped, own⟩ := mem_added new
      rw [OpStep, own, kind, stopped] at step
      cases resumed : move.resumed with
      | none =>
          rw [resumed] at step
          simp [OpKind.Step, CancelStep, past] at step
      | some last => exact cancelling.harmless taken own resumed
  · intro member
    rcases mem_labels_of_step taken member with old | new
    · exact step.idle scans connects undisturbed cancelling.flag (cancelling.announced old)
    · obtain ⟨stopped, own⟩ := mem_added new
      rw [OpStep, own, kind, stopped] at step
      rcases resumed : move.resumed with _ | ⟨call, answer⟩ <;> rw [resumed] at step
      · simp [OpKind.Step, CancelStep] at step
      · rcases step with ⟨-, other, -⟩ | ⟨-, ⟨value, other⟩, -⟩ | ⟨-, -, -, -, idle, -⟩
        · simp at other
        · simp at other
        · exact idle rfl

theorem Cancelling.returns {op : Op} (disconnects : op.disconnects = true)
    {config config' : DriverConfig} {call : Call} {answer : Answer}
    (taken : rtw88.Step config ⟨op, some (call, answer), .returns .success⟩ config')
    (step : OpStep op (some (call, answer)) config.state (.returns .success) config'.state)
    (cancelling : Cancelling op config) : Cancelled config' := by
  have kind := kind_of_disconnects disconnects
  have harmless := cancelling.harmless taken rfl rfl
  refine ⟨step.flag (by simp [kind]) cancelling.flag, ?_,
    (harmless.step taken step cancelling.flag).1⟩
  rw [OpStep, kind] at step
  rcases step with ⟨-, other, -⟩ | ⟨rfl, -, same⟩ | ⟨-, -, -, -, -, idle⟩
  · simp at other
  · have member := mem_labels_of_resumed taken rfl
    exact (congrArg Control.state same).trans (cancelling.announced member)
  · simpa using idle .success rfl

theorem Cancelling.begins {op : Op} (disconnects : op.disconnects = true)
    {begun called : DriverConfig} {stop : Stop Call IOReturn}
    (taken : rtw88.Step begun ⟨op, none, stop⟩ called)
    (step : OpStep op none begun.state stop called.state) (counted : Counted begun)
    (fresh : ∀ label ∈ begun.labels, label.1 ≠ op) : Cancelling op called := by
  have counted := counted.step taken step
  rw [OpStep, kind_of_disconnects disconnects] at step
  obtain ⟨rfl, canceled, same⟩ := step
  have waits : ∀ call, (op, call) ∈ called.labels → call = .cancelWait := by
    intro call member
    rcases mem_labels_of_step taken member with old | new
    · exact absurd rfl (fresh _ old)
    · simpa using (mem_added new).1.symm
  refine ⟨counted, congrArg Control.connectCancelled same, ?_, ?_⟩
  · exact fun call member past => absurd (waits call member) past
  · exact fun member => absurd (waits _ member) (by simp)

/-- Cancellation is final: a command that cancels and returns success leaves an idle
state machine that stays idle and sends nothing for the connection until the next
command, in the runs whose steps satisfy `admits`. -/
def CancellationFinal (admits : Ieee80211 → DriverMove → Prop) (op : Op)
    (begun called config returned later : DriverConfig) (stop : Stop Call IOReturn)
    (call : Call) (answer : Answer) : Prop :=
  op.disconnects = true →
    rtw88.Reachable Ieee80211.initial begun →
    (∀ label ∈ begun.labels, label.1 ≠ op) →
    rtw88.Step begun ⟨op, none, stop⟩ called →
    rtw88.Reaches (NoCommand admits) called config →
    rtw88.Step config ⟨op, some (call, answer), .returns .success⟩ returned →
    rtw88.Reaches (NoCommand admits) returned later →
    later.state.state = .idle ∧
      ∀ move after, rtw88.Step later move after → NoCommand admits later move after →
        stopConnects move.stop = false

/-- A cancelled connection stays cancelled if no handler of received frames goes on after the
cancellation took the state machine out of its phase. -/
theorem cancellation_final (op : Op) (begun called config returned later : DriverConfig)
    (stop : Stop Call IOReturn) (call : Call) (answer : Answer) :
    CancellationFinal Undisturbed op begun called config returned later stop call answer := by
  rintro disconnects ⟨s, initial, run⟩ fresh calls cancels returns continues
  obtain ⟨tracked, counted⟩ := (tracked_initial initial).run
    (fun _ _ _ taken _ step => Counted.step taken step) (counted_initial initial) run
  obtain ⟨begins, tracked⟩ := tracked.step calls
  obtain ⟨tracked, cancelling⟩ := tracked.run
    (fun _ _ _ taken admitted step => Cancelling.step disconnects taken admitted step)
    (Cancelling.begins disconnects calls begins counted fresh) cancels
  obtain ⟨ends, tracked⟩ := tracked.step returns
  obtain ⟨tracked, cancelled⟩ := tracked.run
    (fun _ _ _ taken admitted step cancelled => (Cancelled.step taken admitted step cancelled).1)
    (cancelling.returns disconnects returns ends) continues
  refine ⟨cancelled.idle, fun move after taken admitted => ?_⟩
  exact (cancelled.step taken admitted (tracked.step taken).1).2

namespace Scenario

/-- A connection attempt that the access point answers: the handler of the response has
seen that nothing is cancelled. -/
def answered : List (Turn Answer Op) :=
  scan (beacon 1 []) ++ .start (.cmdConnect (toNetwork none false)) [] :: authenticate ++
    [.start (.rxFrame authResponse) [], goOn 0]

/-- The turns of a run without commands. -/
def noCommand (move : DriverMove) : Bool :=
  move.op.kind ≠ .scans ∧ move.op.kind ≠ .connects

/-- A disconnection that overtakes the handler of the response. -/
def overtaken : Option Bool := do
  let begun ← play answered
  let (calls, called) ← rtw88.turn begun (.start (.cmdDisconnect 0) [])
  let config ← rtw88.play noCommand called [goOn 1, goOn 1, goOn 1]
  let (returns, returned) ← rtw88.turn config (goOn 1)
  let later ← rtw88.play noCommand returned [goOn 0]
  return (begun.labels.all fun label => label.1 ≠ .cmdDisconnect 0) &&
    calls.op = .cmdDisconnect 0 && calls.resumed.isNone &&
    returns.op = .cmdDisconnect 0 && returns.resumed.isSome &&
    returns.stop = .returns .success && later.state.state = .associating

theorem overtaken_associates : overtaken = some true := by
  decide +kernel

end Scenario

theorem not_cancellation_final : ¬ ∀ op begun called config returned later stop call answer,
    CancellationFinal (fun _ _ => True) op begun called config returned later stop call answer := by
  intro final
  have run := Scenario.overtaken_associates
  simp only [Scenario.overtaken, Option.bind_eq_bind, Option.bind_eq_some_iff, Prod.exists,
    Option.pure_def, Option.some.injEq, Bool.and_eq_true, decide_eq_true_eq] at run
  obtain ⟨begun, begins, calls, called, calling, config, cancels, returns, returned, returning,
    later, continues, ⟨⟨⟨⟨⟨fresh, calledOp⟩, starts⟩, returnedOp⟩, resumes⟩, success⟩,
    associating⟩ := run
  obtain ⟨op, resumed, stop⟩ := calls
  obtain ⟨op', resumed', stop'⟩ := returns
  simp only [Option.isNone_iff_eq_none] at calledOp starts
  simp only [Option.isSome_iff_exists, Prod.exists] at returnedOp resumes success
  subst calledOp starts returnedOp success
  obtain ⟨call, answer, rfl⟩ := resumes
  have allowed : ∀ {config config' : DriverConfig} {turns : List (Turn Answer Op)},
      rtw88.play Scenario.noCommand config turns = some config' →
        rtw88.Reaches (NoCommand fun _ _ => True) config config' := fun played =>
    (System.reaches_of_play played).mono fun _ _ _ admitted => by
      simpa [Scenario.noCommand, NoCommand] using admitted
  have idle := (final (.cmdDisconnect 0) begun called config returned later stop call answer rfl
    (Scenario.reachable_of_play begins) (by simpa using fresh) (System.step_of_turn calling)
    (allowed cancels) (System.step_of_turn returning) (allowed continues)).1
  simp [idle] at associating

end AirportRtw88
