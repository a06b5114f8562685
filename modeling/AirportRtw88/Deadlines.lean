import AirportRtw88.Driven
import AirportRtw88.Retry

/-!
# Deadlines and phases

One timer serves scans, authentication, association and the handshake.  A deadline that is
armed in a phase still acts on a later one when that phase is entered without another look
at the timer; the invariant says in which runs it does not.
-/

namespace AirportRtw88

open Interleave Bytes

/-- The states in which `onTimer` acts. -/
def Rtw88State.timed : Rtw88State → Bool
  | .scanning | .authenticating | .associating | .handshaking => true
  | _ => false

/-- Whether `onTimer` acts when it goes on after a request. -/
def Call.actsOnExpiry : Call → Bool
  | .load _ cancelled => !cancelled
  | .setLinkStatus _ => false
  | _ => true

/-- A thread of `onTimer` that has still to act. -/
def Expired (label : Op × Call) : Prop :=
  label.1.kind = .times ∧ label.2.actsOnExpiry = true

/-- A handler that has published `ASSOCIATING` and has not armed its timer yet. -/
def Rearms (label : Op × Call) : Prop :=
  label.1.kind = .receives ∧
    (label.2.rxPlace = .associating ∨ label.2.rxPlace = .associateSent false)

/-- The step does not take a deadline of one phase into another: a scan is offloaded and a
connection committed only with an idle timer, no deadline expires before `doAssociate` has
replaced it, `doAssociate` does not publish after a cancellation with an armed timer, and
`_state` is not written between an expiry and its action. -/
structure KeepsDeadlines (config : DriverConfig) (move : DriverMove) (config' : DriverConfig) :
    Prop where
  offloads : ∀ channels, move.stop = .waits (.hwScan channels) → config.state.timer = none
  commits : move.op.kind = .connects → move.stop = .returns .success → config.state.timer = none
  expires : move.op.kind = .times → move.resumed = none → config.state.state = .associating →
    ∀ label ∈ config.labels, ¬ Rearms label
  publishes : move.op.kind = .receives → ∀ answer,
    move.resumed = some (.load .associate false, answer) →
    config.state.connectCancelled = true → config.state.timer = none
  acts : config'.state.phase ≠ config.state.phase → ∀ label ∈ config'.labels, ¬ Expired label

/-- A block of `onTimer` that acts on the phase of the state machine. -/
def ActsOn (config : DriverConfig) (move : DriverMove) : Prop :=
  (move.resumed = none ∧ config.state.state.timed = true) ∨
    ∃ call answer, move.resumed = some (call, answer) ∧ call.actsOnExpiry = true

/-- `onTimer` acts only on the phase in which its deadline was armed, in the runs whose steps
satisfy `admits`. -/
def ActsOnItsPhase (admits : DriverConfig → DriverMove → DriverConfig → Prop) (s : Ieee80211)
    (config config' : DriverConfig) (move : DriverMove) (deadline : Deadline) : Prop :=
  s.initial → rtw88.Reaches admits ⟨s, []⟩ config → rtw88.Step config move config' →
    admits config move config' → move.op = .timerFired deadline → ActsOn config move →
    deadline.phase = config.state.phase

/-- The invariant. -/
structure Attributed (config : DriverConfig) : Prop where
  armed : ∀ deadline, config.state.timer = some deadline → config.state.state.timed = true →
    deadline.phase = config.state.phase ∨
      (config.state.state = .associating ∧ ∃ label ∈ config.labels, Rearms label)
  cancelled : ∀ deadline, config.state.timer = some deadline →
    config.state.state = .associating → config.state.connectCancelled = true →
    deadline.phase = config.state.phase
  expired : ∀ deadline call, (Op.timerFired deadline, call) ∈ config.labels →
    call.actsOnExpiry = true → deadline.phase = config.state.phase

theorem attributed_initial {s : Ieee80211} (initial : s.initial) : Attributed ⟨s, []⟩ := by
  obtain ⟨attached, -, rfl⟩ := initial
  exact ⟨nofun, nofun, nofun⟩

/-- What a step may do to the timer and the phase: it stays in the phase, rests in a state
without a timeout, or enters a phase with no deadline but its own. -/
def Control.Moves (before after : Control) : Prop :=
  (after.phase = before.phase ∧ after.state = before.state ∧
      (after.timer = before.timer ∨ after.timer = none ∨
        ∃ ms, after.timer = some ⟨ms, after.phase⟩)) ∨
    after.state.timed = false ∨
    (after.timer = none ∨ ∃ ms, after.timer = some ⟨ms, after.phase⟩)

theorem Control.moves_of_idles {before after : Control} (idles : before.Idles after) :
    before.Moves after := by
  rcases idles.state with ⟨state, phase⟩ | ⟨idle, -⟩
  · rcases idles.timer with timer | timer
    · exact .inl ⟨phase, state, .inl timer⟩
    · exact .inl ⟨phase, state, .inr (.inl timer)⟩
  · exact .inr (.inl (by simp [idle, Rtw88State.timed]))

theorem RxStep.moves {place place' : RxPlace} {before after : Control}
    (step : RxStep place before place' after) :
    (before.Moves after ∧ (place = .associating → before.state = .associating →
        place' = .associateSent before.connectCancelled ∧ after.timer = before.timer) ∧
        (place = .associateSent false → before.state = .associating →
          ∃ ms, after.timer = some ⟨ms, after.phase⟩)) ∨
      (after.state = .associating ∧ place = .associateChecked false ∧ place' = .associating ∧
        after.timer = before.timer) := by
  cases place <;>
    simp only [RxStep, PublishStep, ShakeStep, Control.Moves] at step ⊢ <;>
    grind [Rtw88State.timed]

theorem TimerStep.moves {resumed stop} {before after : Control}
    (step : TimerStep resumed before stop after) : before.Moves after := by
  have tears : ∀ before' : Control, before'.phase = before.phase → before'.state = before.state →
      (before'.timer = before.timer ∨ before'.timer = none) → before'.Idles after →
      before.Moves after := by
    intro before' phase state timer idles
    have moves := Control.moves_of_idles idles
    simp only [Control.Moves] at moves ⊢
    grind
  unfold TimerStep at step
  simp only [Control.Moves] at tears ⊢
  split at step
  · split at step <;> grind [Rtw88State.timed]
  all_goals grind [Rtw88State.timed]

theorem ConnectStep.moves {resumed start stop now} (step : ConnectStep resumed start stop now) :
    start.control.Moves now.control := by
  rcases resumed with _ | ⟨call, answer⟩
  · simp only [ConnectStep] at step
    split at step <;> obtain ⟨-, rfl⟩ := step <;> exact .inl ⟨rfl, rfl, .inl rfl⟩
  · rcases step.control with ⟨_, -, -, same⟩ | ⟨-, same | ⟨-, -, same⟩⟩ <;> rw [same]
    · exact .inl ⟨rfl, rfl, .inl rfl⟩
    · exact .inl ⟨rfl, rfl, .inl rfl⟩
    · exact .inl ⟨rfl, rfl, .inr (.inr ⟨3000, rfl⟩)⟩

theorem CmdScanStep.moves {resumed stop} {before after : Control}
    (step : CmdScanStep resumed before stop after)
    (offloads : ∀ channels, stop = .waits (.hwScan channels) → before.timer = none) :
    before.Moves after := by
  cases resumed <;> simp only [CmdScanStep, Control.Moves] at step ⊢ <;>
    grind [Rtw88State.timed]

theorem CmdConnectStep.moves {stop} {before after : Control}
    (step : CmdConnectStep before stop after)
    (commits : stop = .returns .success → before.timer = none) : before.Moves after := by
  obtain ⟨-, mid, ends, ⟨-, rfl⟩ | ⟨accepted, wpa2, supplicant, rfl⟩⟩ := step
  · rcases ends with rfl | ⟨-, idles⟩
    · exact .inl ⟨rfl, rfl, .inl rfl⟩
    · exact Control.moves_of_idles idles
  · have unarmed : mid.timer = none := by
      simp only [Control.EndsScan] at ends
      grind
    exact .inr (.inr (.inl unarmed))

theorem CancelStep.moves {resumed stop} {before after : Control}
    (step : CancelStep resumed before stop after) : before.Moves after := by
  rcases resumed with _ | ⟨call, answer⟩
  · obtain ⟨-, canceled, rfl⟩ := step
    exact .inl ⟨rfl, rfl, .inr (.inl rfl)⟩
  · rcases step with ⟨-, -, canceled, rfl⟩ | ⟨-, -, rfl⟩ | ⟨-, -, -, idles, -⟩
    · exact .inl ⟨rfl, rfl, .inl rfl⟩
    · exact .inl ⟨rfl, rfl, .inl rfl⟩
    · have moves := Control.moves_of_idles idles
      unfold Call.cancelMid at moves
      split at moves <;> exact moves

theorem ScanKeeps.moves {before after : Ieee80211} (keeps : ScanKeeps before after) :
    before.control.Moves after.control := by
  rcases keeps with same | ⟨-, idles⟩
  · rw [same]
    exact .inl ⟨rfl, rfl, .inl rfl⟩
  · exact Control.moves_of_idles idles

/-- A block of `onTimer` that has still to act stays in the phase. -/
theorem TimerStep.expired {resumed call} {before after : Control}
    (step : TimerStep resumed before (.waits call) after) (acts : call.actsOnExpiry = true) :
    after.phase = before.phase ∧
      (resumed = none → before.state.timed = true) ∧
      (∀ last answer, resumed = some (last, answer) → last.actsOnExpiry = true) := by
  have tears : ∀ before, TearStep before (.waits call) after → after = before := by
    rintro before (⟨_, -, -, rfl⟩ | ⟨stops, -⟩)
    · rfl
    · rcases stops with ⟨⟨⟩⟩ | ⟨value, ⟨⟩⟩
      simp [Call.actsOnExpiry] at acts
  rcases resumed with _ | ⟨last, answer⟩
  · cases phase : before.state <;> simp only [TimerStep, phase] at step
    case handshaking => simp [tears _ step, Control.cancelTimeout, Rtw88State.timed]
    all_goals simp_all [Rtw88State.timed, Control.cancelTimeout]
  · cases last with
    | load _ _ | setLinkStatus _ | cancelHwScan => simp [TimerStep] at step
    | _ =>
        obtain rfl := tears _ step
        simp [Call.actsOnExpiry]

theorem CmdConnectStep.cancelled {stop} {before after : Control}
    (step : CmdConnectStep before stop after) (set : after.connectCancelled = true) :
    before.connectCancelled = true := by
  obtain ⟨-, mid, ends, ⟨-, rfl⟩ | ⟨-, wpa2, supplicant, rfl⟩⟩ := step
  · simp only [Control.EndsScan] at ends
    grind
  · simp [Control.commitConnect] at set

theorem CancelStep.cancelled {resumed stop} {before after : Control}
    (step : CancelStep resumed before stop after) (set : after.connectCancelled = true) :
    before.connectCancelled = true ∨ after.timer = none := by
  rcases resumed with _ | ⟨call, answer⟩
  · obtain ⟨-, canceled, rfl⟩ := step
    exact .inr rfl
  · left
    simp only [CancelStep, Call.cancelMid] at step
    grind

/-- A cancellation leaves no deadline of an earlier phase. -/
theorem Attributed.cancelled_after {config config' : DriverConfig}
    (attributed : Attributed config) (moves : config.state.control.Moves config'.state.control)
    (flag : config'.state.connectCancelled = true →
      config.state.connectCancelled = true ∨ config'.state.timer = none)
    (deadline : Deadline) (armed : config'.state.timer = some deadline)
    (associating : config'.state.state = .associating)
    (cancelled : config'.state.connectCancelled = true) :
    deadline.phase = config'.state.phase := by
  rcases flag cancelled with cancelled | unarmed
  · rcases moves with ⟨phase, state, timer | timer | ⟨ms, timer⟩⟩ | rests | timer | ⟨ms, timer⟩
    · have phase : config'.state.phase = config.state.phase := phase
      have state : config'.state.state = config.state.state := state
      rw [phase]
      exact attributed.cancelled deadline (timer.symm.trans armed) (state ▸ associating) cancelled
    · simp_all
    · simp_all
    · simp_all [Rtw88State.timed]
    · simp_all
    · simp_all
  · simp_all

section Steps

variable {config config' : DriverConfig} {move : DriverMove}
  (taken : rtw88.Step config move config') (keeps : KeepsDeadlines config move config')
  (attributed : Attributed config)

include taken keeps attributed

/-- The deadline of an `onTimer` that has still to act is of the present phase. -/
theorem Attributed.expired_after
    (step : OpStep move.op move.resumed config.state move.stop config'.state)
    (deadline : Deadline) (call : Call) (member : (Op.timerFired deadline, call) ∈ config'.labels)
    (acts : call.actsOnExpiry = true) : deadline.phase = config'.state.phase := by
  have phase : config'.state.phase = config.state.phase := by
    by_contra writes
    exact keeps.acts writes _ member ⟨rfl, acts⟩
  rw [phase]
  rcases mem_labels_of_step taken member with old | new
  · exact attributed.expired deadline call old acts
  · obtain ⟨stops, own⟩ := mem_added new
    have kind : move.op.kind = .times := by rw [own]; rfl
    rw [OpStep, kind, stops] at step
    obtain ⟨-, starts, resumes⟩ := TimerStep.expired step acts
    rcases resumed : move.resumed with _ | ⟨last, answer⟩
    · have armed : config.state.timer = some deadline := by
        have enabled : move.op.enabled config.state = true := taken.enabled resumed
        simpa [own, Op.enabled] using enabled
      rcases attributed.armed deadline armed (starts resumed) with same | ⟨phase, label, other, re⟩
      · exact same
      · exact absurd re (keeps.expires kind resumed phase label other)
    · exact attributed.expired deadline last (own ▸ mem_labels_of_resumed taken resumed)
        (resumes last answer resumed)

omit keeps in
/-- A step of another kind than received frames. -/
theorem Attributed.aside (other : move.op.kind ≠ .receives)
    (moves : config.state.control.Moves config'.state.control)
    (flag : config'.state.connectCancelled = true →
      config.state.connectCancelled = true ∨ config'.state.timer = none)
    (expired : ∀ deadline call, (Op.timerFired deadline, call) ∈ config'.labels →
      call.actsOnExpiry = true → deadline.phase = config'.state.phase) : Attributed config' := by
  have kept : (∃ label ∈ config.labels, Rearms label) → ∃ label ∈ config'.labels, Rearms label := by
    rintro ⟨label, member, rearms⟩
    exact ⟨label, mem_labels_of_kind taken member (by rw [rearms.1]; exact other.symm), rearms⟩
  refine ⟨fun deadline armed timed => ?_, fun deadline armed associating cancelled => ?_, expired⟩
  · rcases moves with ⟨phase, state, timer | timer | ⟨ms, timer⟩⟩ | rests | timer | ⟨ms, timer⟩
    · have phase : config'.state.phase = config.state.phase := phase
      have state : config'.state.state = config.state.state := state
      rw [state] at timed
      rw [phase, state]
      exact (attributed.armed deadline (timer.symm.trans armed) timed).imp_right
        fun ⟨associating, rearms⟩ => ⟨associating, kept rearms⟩
    · simp_all
    · simp_all
    · simp_all
    · simp_all
    · simp_all
  · exact attributed.cancelled_after moves flag deadline armed associating cancelled

theorem Attributed.receives (kind : move.op.kind = .receives)
    (step : RxStep (rxOrigin move.resumed) config.state.control (stopPlace move.stop)
      config'.state.control)
    (expired : ∀ deadline call, (Op.timerFired deadline, call) ∈ config'.labels →
      call.actsOnExpiry = true → deadline.phase = config'.state.phase) : Attributed config' := by
  have flag : config'.state.connectCancelled = config.state.connectCancelled := RxStep.flag step
  have stops : ∀ {place : RxPlace}, stopPlace move.stop = place → place ≠ .calm →
      ∃ call, (move.op, call) ∈ config'.labels ∧ call.rxPlace = place := by
    intro place stops busy
    cases stop : move.stop with
    | returns value => exact absurd (by simpa [stop, stopPlace] using stops.symm) busy
    | waits call =>
        exact ⟨call, mem_labels_of_stop taken stop, by simpa [stop, stopPlace] using stops⟩
  rcases RxStep.moves step with ⟨moves, sends, arms⟩ | ⟨phase, origin, place, timer⟩
  · refine ⟨fun deadline armed timed => ?_,
      attributed.cancelled_after moves fun set => .inl (flag.symm.trans set), expired⟩
    rcases moves with ⟨phase, state, timer | timer | ⟨ms, timer⟩⟩ | rests | timer | ⟨ms, timer⟩
    · have phase : config'.state.phase = config.state.phase := phase
      have state : config'.state.state = config.state.state := state
      have armed' : config.state.timer = some deadline := timer.symm.trans armed
      rw [state] at timed
      rw [phase, state]
      rcases attributed.armed deadline armed' timed with same | ⟨associating, label, member, rearms⟩
      · exact .inl same
      rcases mem_labels_after taken member with kept | ⟨answer, own, resumed⟩
      · exact .inr ⟨associating, label, kept, rearms⟩
      rw [resumed, rxOrigin_some] at sends arms
      rcases rearms.2 with place | place
      · cases set : config.state.connectCancelled with
        | true => exact .inl (attributed.cancelled deadline armed' associating set)
        | false =>
            obtain ⟨call, member, at_⟩ := stops (sends place associating).1 (by simp)
            rw [Ieee80211.control_connectCancelled, set] at at_
            exact .inr ⟨associating, _, member, kind, .inr at_⟩
      · obtain ⟨ms, rearmed⟩ := arms place associating
        have rearmed : config'.state.timer = some ⟨ms, config'.state.phase⟩ := rearmed
        rw [armed] at rearmed
        cases rearmed
        exact .inl phase
    · simp_all
    · simp_all
    · simp_all
    · simp_all
    · simp_all
  · have phase : config'.state.state = .associating := phase
    have timer : config'.state.timer = config.state.timer := timer
    refine ⟨fun deadline armed timed => .inr ⟨phase, ?_⟩,
      fun deadline armed _ cancelled => ?_, expired⟩
    · obtain ⟨call, member, at_⟩ := stops place (by simp)
      exact ⟨_, member, kind, .inl at_⟩
    · rcases resumed : move.resumed with _ | ⟨call, answer⟩ <;> rw [resumed] at origin
      · simp at origin
      · have unarmed := keeps.publishes kind answer
          (by rw [resumed, load_associate_of_rxPlace origin]) (flag.symm.trans cancelled)
        simp [timer, unarmed] at armed

theorem Attributed.step
    (step : OpStep move.op move.resumed config.state move.stop config'.state) :
    Attributed config' := by
  have expired := attributed.expired_after taken keeps step
  have aside := attributed.aside taken
  unfold OpStep at step
  cases kind : move.op.kind <;> rw [kind] at step
  · exact attributed.receives taken keeps kind step expired
  · exact aside (by simp [kind]) (TimerStep.moves step)
      (fun set => .inl ((TimerStep.flag step).symm.trans set)) expired
  · exact aside (by simp [kind]) (ConnectStep.moves step)
      (fun set => .inl ((ConnectStep.flag step).symm.trans set)) expired
  · refine aside (by simp [kind]) (CmdScanStep.moves step keeps.offloads) ?_ expired
    exact fun set => .inl ((CmdScanStep.keeps step).1.symm.trans set)
  · refine aside (by simp [kind]) (CmdConnectStep.moves step (keeps.commits kind)) ?_ expired
    exact fun set => .inl (CmdConnectStep.cancelled step set)
  · refine aside (by simp [kind]) (CancelStep.moves step) ?_ expired
    exact CancelStep.cancelled step
  · exact aside (by simp [kind]) step.1.moves
      (fun set => .inl (step.1.flag.symm.trans set)) expired

end Steps

/-- `onTimer` acts only on the phase in which its deadline was armed, if no step takes a deadline
into another phase. -/
theorem acts_on_its_phase (s : Ieee80211) (config config' : DriverConfig) (move : DriverMove)
    (deadline : Deadline) : ActsOnItsPhase KeepsDeadlines s config config' move deadline := by
  intro initial run taken keeps own acts
  obtain ⟨tracked, attributed⟩ := (tracked_initial initial).run
    (fun _ _ _ taken keeps step attributed => Attributed.step taken keeps attributed step)
    (attributed_initial initial) run
  have kind : move.op.kind = .times := by rw [own]; rfl
  rcases acts with ⟨starts, timed⟩ | ⟨call, answer, resumed, acts⟩
  · have armed : config.state.timer = some deadline := by
      have enabled : move.op.enabled config.state = true := taken.enabled starts
      simpa [own, Op.enabled] using enabled
    rcases attributed.armed deadline armed timed with same | ⟨phase, label, member, rearms⟩
    · exact same
    · exact absurd rearms (keeps.expires kind starts phase label member)
  · exact attributed.expired deadline call (own ▸ mem_labels_of_resumed taken resumed) acts

namespace Scenario

/-- A connection attempt right after a scan, whose deadline is still armed. -/
def scannedThenConnected : List (Turn Answer Op) :=
  scan (beacon 1 []) ++ [.start (.cmdConnect (toNetwork none false)) []]

def misattributed : Option Bool := do
  let config ← play scannedThenConnected
  let (move, _) ← rtw88.turn config (.start (.timerFired ⟨10000, 1⟩) [])
  return move.op = .timerFired ⟨10000, 1⟩ && move.resumed.isNone &&
    config.state.state = .authenticating && config.state.phase = 3

theorem misattributed_retry : misattributed = some true := by
  decide +kernel

end Scenario

theorem not_acts_on_its_phase : ¬ ∀ s config config' move deadline,
    ActsOnItsPhase (fun _ _ _ => True) s config config' move deadline := by
  intro attributed
  have run := Scenario.misattributed_retry
  simp only [Scenario.misattributed, Option.bind_eq_bind, Option.bind_eq_some_iff, Prod.exists,
    Option.pure_def, Option.some.injEq, Bool.and_eq_true, decide_eq_true_eq,
    Option.isNone_iff_eq_none] at run
  obtain ⟨config, played, move, config', turn, ⟨⟨own, starts⟩, authenticating⟩, phase⟩ := run
  obtain ⟨s, initial, reached⟩ := Scenario.reachable_of_play played
  have same := attributed s config config' move ⟨10000, 1⟩ initial reached
    (System.step_of_turn turn) trivial own (.inl
      ⟨starts, by simp [authenticating, Rtw88State.timed]⟩)
  simp [phase] at same

end AirportRtw88
