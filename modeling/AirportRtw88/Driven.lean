import AirportRtw88.Cancellation

/-!
# Wake-ups of a connection attempt

A connection attempt goes on when its timer fires, when the thread call runs, or when a
thread in progress goes on.  `Driven` is the invariant that one of these is always there;
it says which thread, because most threads leave an attempt alone.
-/

namespace AirportRtw88

open Interleave Bytes

attribute [local grind] ThreadCall.enter ThreadCall.cancel ThreadCall.resume Call.cancelMid

/-- The states of a connection attempt. -/
def Rtw88State.connecting : Rtw88State → Bool
  | .authenticating | .associating | .handshaking => true
  | _ => false

/-- A thread that leaves the state machine idle before it ends. -/
def Cancels (label : Op × Call) : Prop :=
  label.1.kind = .cancels ∧ label.2 ≠ .setLinkStatus false

/-- A thread that arms the timer or leaves the state before it ends. -/
def Drives (state : Rtw88State) (label : Op × Call) : Prop :=
  Cancels label ∨
    (state = .authenticating ∧ label.1 = .connectCall ∧ label.2.proceeds = true) ∨
    (state = .authenticating ∧ label.1.kind = .times ∧ ∃ check, label.2 = .load check false) ∨
    (state = .associating ∧ label.1.kind = .receives ∧
      (label.2.rxPlace = .associating ∨ label.2.rxPlace = .associateSent false)) ∨
    (state = .handshaking ∧ label.1.kind = .times ∧ label.2.tearsDown = true)

/-- Something other than the timer and this thread drives the attempt. -/
def DrivenElsewhere (config : DriverConfig) (label : Op × Call) : Prop :=
  (config.state.state = .authenticating ∧ config.state.connectTC.pending = true) ∨
    ∃ other ∈ config.labels, other ≠ label ∧ Drives config.state.state other

/-- The step does not take the last wake-up of an attempt away: `doAuthenticate` does not
give up, `doAssociate` does not enter `ASSOCIATING` after a cancellation has ended, and
the timer of a later attempt is not cancelled at the end of an association. -/
structure KeepsDriver (config : DriverConfig) (move : DriverMove) : Prop where
  goesOn : move.op = .connectCall → ∀ check answer value,
    check = .authenticateEntry ∨ check = .authenticateScanDone →
    move.resumed = some (.load check false, answer) → move.stop = .returns value →
    config.state.state = .authenticating →
    config.state.timer.isSome ∨ DrivenElsewhere config (move.op, .load check false)
  publishes : move.op.kind = .receives → ∀ answer,
    move.resumed = some (.load .associate false, answer) →
    config.state.connectCancelled = true → ∃ label ∈ config.labels, Cancels label
  disarms : move.op.kind = .receives → ∀ call answer,
    move.resumed = some (call, answer) → call.rxPlace = .finishing →
    config.state.state.connecting = true → DrivenElsewhere config (move.op, call)

/-- In the runs whose steps satisfy `admits`, an attempt that no thread works on has an
armed timer or a pending thread call. -/
def AttemptsDriven (admits : DriverConfig → DriverMove → Prop) (s : Ieee80211)
    (config : DriverConfig) : Prop :=
  s.initial → rtw88.Reaches (fun config move _ => admits config move) ⟨s, []⟩ config →
    config.threads = [] → config.state.state.connecting = true →
    config.state.timer.isSome ∨ config.state.connectTC.pending = true

/-- The invariant. -/
structure Driven (config : DriverConfig) : Prop where
  wakes : config.state.state.connecting = true →
    config.state.timer.isSome ∨
      (config.state.state = .authenticating ∧ config.state.connectTC.pending = true) ∨
      ∃ label ∈ config.labels, Drives config.state.state label
  cancelled : config.state.connectCancelled = true →
    config.state.state = .authenticating ∨ config.state.state = .associating →
    ∃ label ∈ config.labels, Cancels label
  drains : config.state.connectTC.canceling = true →
    ∃ label ∈ config.labels, label.1.kind = .cancels ∧ label.2 = .cancelWait

theorem driven_initial {s : Ieee80211} (initial : s.initial) : Driven ⟨s, []⟩ := by
  obtain ⟨attached, -, rfl⟩ := initial
  exact ⟨nofun, nofun, nofun⟩

/-- The other threads stay where they are. -/
theorem mem_labels_after {config config' : DriverConfig} {move : DriverMove}
    (taken : rtw88.Step config move config') {label : Op × Call}
    (member : label ∈ config.labels) :
    label ∈ config'.labels ∨
      ∃ answer, move.op = label.1 ∧ move.resumed = some (label.2, answer) := by
  obtain ⟨before, after, labels, labels'⟩ := taken.labels
  rw [labels] at member
  rw [labels']
  simp only [List.mem_append] at member ⊢
  rcases member with (early | own) | late
  · exact .inl (.inl (.inl early))
  · right
    unfold Move.removed at own
    rcases resumed : move.resumed with _ | ⟨call, answer⟩ <;> rw [resumed] at own
    · simp at own
    · obtain rfl := List.mem_singleton.mp own
      exact ⟨answer, rfl, rfl⟩
  · exact .inl (.inr late)

theorem mem_labels_of_stop {config config' : DriverConfig} {move : DriverMove}
    (taken : rtw88.Step config move config') {call : Call} (stops : move.stop = .waits call) :
    (move.op, call) ∈ config'.labels := by
  obtain ⟨before, after, -, labels'⟩ := taken.labels
  rw [labels']
  simp [Move.added, stops]

section Kinds

variable {config config' : DriverConfig} {move : DriverMove}
  (taken : rtw88.Step config move config')

include taken

/-- The threads of other kinds stay where they are. -/
theorem mem_labels_of_kind {label : Op × Call} (member : label ∈ config.labels)
    (other : label.1.kind ≠ move.op.kind) : label ∈ config'.labels := by
  rcases mem_labels_after taken member with kept | ⟨answer, own, -⟩
  · exact kept
  · exact absurd (own ▸ rfl) other

theorem cancels_after (other : move.op.kind ≠ .cancels)
    (cancels : ∃ label ∈ config.labels, Cancels label) :
    ∃ label ∈ config'.labels, Cancels label := by
  obtain ⟨label, member, cancels⟩ := cancels
  exact ⟨label, mem_labels_of_kind taken member (by rw [cancels.1]; exact other.symm), cancels⟩

theorem drains_after (other : move.op.kind ≠ .cancels)
    (drains : ∃ label ∈ config.labels, label.1.kind = .cancels ∧ label.2 = .cancelWait) :
    ∃ label ∈ config'.labels, label.1.kind = .cancels ∧ label.2 = .cancelWait := by
  obtain ⟨label, member, cancels⟩ := drains
  exact ⟨label, mem_labels_of_kind taken member (by rw [cancels.1]; exact other.symm), cancels⟩

end Kinds

theorem cancels_of_drains {labels : List (Op × Call)}
    (drains : ∃ label ∈ labels, label.1.kind = .cancels ∧ label.2 = .cancelWait) :
    ∃ label ∈ labels, Cancels label := by
  obtain ⟨label, member, cancels, waits⟩ := drains
  exact ⟨label, member, cancels, by simp [waits]⟩

theorem drives_of_cancels {labels : List (Op × Call)} (state : Rtw88State)
    (cancels : ∃ label ∈ labels, Cancels label) : ∃ label ∈ labels, Drives state label := by
  obtain ⟨label, member, cancels⟩ := cancels
  exact ⟨label, member, .inl cancels⟩

theorem Drives.kind {state : Rtw88State} {label : Op × Call} (drives : Drives state label) :
    label.1.kind = .cancels ∨ label.1.kind = .authenticates ∨ label.1.kind = .times ∨
      label.1.kind = .receives := by
  rcases drives with ⟨kind, -⟩ | ⟨-, own, -⟩ | ⟨-, kind, -⟩ | ⟨-, kind, -⟩ | ⟨-, kind, -⟩ <;>
    simp_all [Op.kind]

theorem Drives.of_cancels {state : Rtw88State} {label : Op × Call} (drives : Drives state label)
    (kind : label.1.kind = .cancels) : label.2 ≠ .setLinkStatus false := by
  rcases drives with ⟨-, busy⟩ | ⟨-, own, -⟩ | ⟨-, other, -⟩ | ⟨-, other, -⟩ | ⟨-, other, -⟩
  · exact busy
  · simp [own, Op.kind] at kind
  all_goals simp [kind] at other

theorem Drives.of_times {state : Rtw88State} {label : Op × Call} (drives : Drives state label)
    (kind : label.1.kind = .times) :
    (state = .authenticating ∧ ∃ check, label.2 = .load check false) ∨
      (state = .handshaking ∧ label.2.tearsDown = true) := by
  rcases drives with ⟨other, -⟩ | ⟨-, other, -⟩ | ⟨phase, -, retries⟩ | ⟨-, other, -⟩ |
    ⟨phase, -, tears⟩
  · simp [kind] at other
  · simp [other, Op.kind] at kind
  · exact .inl ⟨phase, retries⟩
  · simp [kind] at other
  · exact .inr ⟨phase, tears⟩

/-- What a handler of received frames may do to an attempt. -/
theorem RxStep.connecting {place place' : RxPlace} {before after : Control}
    (step : RxStep place before place' after) (connecting : after.state.connecting = true) :
    (after.state = before.state ∧
        (after.timer = before.timer ∨ after.timer.isSome ∨ place = .finishing) ∧
        (place = .associating → place' = .associateSent before.connectCancelled) ∧
        (place = .associateSent false → before.state = .associating → after.timer.isSome)) ∨
      (after.state = .associating ∧ place = .associateChecked false ∧ place' = .associating) ∨
      (after.state = .handshaking ∧ after.timer.isSome) := by
  cases place <;>
    simp only [RxStep, PublishStep, ShakeStep] at step <;>
    grind [Rtw88State.connecting]

theorem TimerStep.canceling {resumed stop} {before after : Control}
    (step : TimerStep resumed before stop after) :
    after.connectTC.canceling = before.connectTC.canceling := by
  unfold TimerStep at step
  split at step
  · split at step <;> grind
  all_goals grind

theorem TimerStep.pends {resumed stop} {before after : Control}
    (step : TimerStep resumed before stop after) (pending : before.connectTC.pending = true) :
    after.connectTC.pending = true := by
  unfold TimerStep at step
  split at step
  · split at step <;> grind
  all_goals grind

/-- What `onTimer` may do to an attempt that it does not end. -/
theorem TimerStep.connecting {resumed stop} {before after : Control}
    (step : TimerStep resumed before stop after) (connecting : after.state.connecting = true) :
    after.state = before.state ∧
      ((before.state = .authenticating ∧ stop = .waits (.load .retry before.connectCancelled)) ∨
        (∃ call, stop = .waits call ∧ call.tearsDown = true ∧
          (before.state = .handshaking ∨ after.timer = before.timer)) ∨
        (after.timer = before.timer ∧ ∃ call answer, resumed = some (call, answer) ∧
          call.tearsDown = false ∧ ∀ check, call = .load check false →
            before.connectTC.canceling = false → after.connectTC.pending = true)) := by
  have tears : ∀ before, TearStep before stop after → after.state = before.state ∧
      ∃ call, stop = .waits call ∧ call.tearsDown = true ∧ after.timer = before.timer := by
    rintro before (⟨call, rfl, tears, rfl⟩ | ⟨-, -, idle⟩)
    · exact ⟨rfl, call, rfl, tears, rfl⟩
    · simp [idle, Rtw88State.connecting] at connecting
  rcases resumed with _ | ⟨call, answer⟩
  · cases phase : before.state <;> simp only [TimerStep, phase] at step
    case handshaking =>
      obtain ⟨same, call, stops, tears, -⟩ := tears _ step
      exact ⟨same.trans phase, .inr (.inl ⟨call, stops, tears, .inl rfl⟩)⟩
    case authenticating =>
      obtain ⟨stops, rfl⟩ := step
      exact ⟨phase, .inl ⟨rfl, stops⟩⟩
    all_goals grind [Rtw88State.connecting]
  · cases call with
    | load check cancelled =>
        obtain ⟨-, rfl⟩ := step
        refine ⟨by split <;> rfl, .inr (.inr ⟨by split <;> rfl, _, answer, rfl, rfl, ?_⟩)⟩
        rintro check ⟨⟩ free
        simp [Control.withCall, ThreadCall.enter, free]
    | setLinkStatus active =>
        obtain ⟨-, rfl⟩ := step
        exact ⟨rfl, .inr (.inr ⟨rfl, _, answer, rfl, rfl, by rintro _ ⟨⟩⟩)⟩
    | cancelHwScan =>
        obtain ⟨-, rfl⟩ := step
        simp [Control.becomeIdle, Control.setState, Rtw88State.connecting] at connecting
    | _ =>
        obtain ⟨same, call, stops, tears, timer⟩ := tears _ step
        exact ⟨same, .inr (.inl ⟨call, stops, tears, .inr timer⟩)⟩

theorem ConnectStep.canceling {resumed start stop now}
    (step : ConnectStep resumed start stop now) :
    now.connectTC.canceling = start.connectTC.canceling := by
  rcases resumed with _ | ⟨call, answer⟩
  · simp only [ConnectStep] at step
    split at step <;> obtain ⟨-, rfl⟩ := step <;> rfl
  · rcases step.control with ⟨_, -, -, same⟩ | ⟨-, same | ⟨-, -, same⟩⟩ <;>
      exact congrArg (fun c => c.connectTC.canceling) same

theorem ConnectStep.timer {resumed start stop now} (step : ConnectStep resumed start stop now) :
    now.timer = start.timer ∨ (start.state = .authenticating ∧ now.timer.isSome) := by
  rcases resumed with _ | ⟨call, answer⟩
  · simp only [ConnectStep] at step
    split at step <;> obtain ⟨-, rfl⟩ := step <;> exact .inl rfl
  · rcases step.control with ⟨_, -, -, same⟩ | ⟨-, same | ⟨-, phase, same⟩⟩
    · exact .inl (congrArg Control.timer same)
    · exact .inl (congrArg Control.timer same)
    · have timer : now.timer = some ⟨3000, start.phase⟩ := congrArg Control.timer same
      exact .inr ⟨phase, by simp [timer]⟩

theorem Drives.of_ne {state : Rtw88State} {label : Op × Call} (drives : Drives state label)
    (other : state ≠ .authenticating) : label.1.kind ≠ .authenticates := by
  rcases drives with ⟨kind, -⟩ | ⟨phase, -⟩ | ⟨phase, -⟩ | ⟨-, kind, -⟩ | ⟨-, kind, -⟩ <;>
    simp_all

theorem load_associate_of_rxPlace {call : Call} (place : call.rxPlace = .associateChecked false) :
    call = .load .associate false := by
  unfold Call.rxPlace at place
  split at place <;> simp_all

section Steps

variable {config config' : DriverConfig} {move : DriverMove}
  (taken : rtw88.Step config move config') (keeps : KeepsDriver config move)
  (driven : Driven config)

include taken keeps driven

theorem Driven.receives (kind : move.op.kind = .receives)
    (step : RxStep (rxOrigin move.resumed) config.state.control (stopPlace move.stop)
      config'.state.control) : Driven config' := by
  have call : config'.state.connectTC = config.state.connectTC := RxStep.connectTC step
  have flag : config'.state.connectCancelled = config.state.connectCancelled := RxStep.flag step
  have cancels := cancels_after taken (by simp [kind])
  have stops : ∀ {place : RxPlace}, stopPlace move.stop = place → place ≠ .calm →
      ∃ call, (move.op, call) ∈ config'.labels ∧ call.rxPlace = place := by
    intro place stops busy
    cases stop : move.stop with
    | returns value => simp [stop, stopPlace] at stops; exact absurd stops.symm busy
    | waits call =>
        exact ⟨call, mem_labels_of_stop taken stop, by simpa [stop, stopPlace] using stops⟩
  have cancelled : config'.state.connectCancelled = true →
      config'.state.state = .authenticating ∨ config'.state.state = .associating →
      ∃ label ∈ config'.labels, Cancels label := by
    intro set phase
    rw [flag] at set
    refine cancels ?_
    rcases RxStep.connecting step
        (by rcases phase with phase | phase <;> simp [phase, Rtw88State.connecting])
      with ⟨same, -⟩ | ⟨-, origin, -⟩ | ⟨shakes, -⟩
    · have same : config'.state.state = config.state.state := same
      exact driven.cancelled set (same ▸ phase)
    · rcases resumed : move.resumed with _ | ⟨call, answer⟩ <;> rw [resumed] at origin
      · simp at origin
      · exact keeps.publishes kind answer (by rw [resumed, load_associate_of_rxPlace origin]) set
    · simp_all
  refine ⟨fun connecting => ?_, cancelled, fun drains => ?_⟩
  · rcases RxStep.connecting step connecting with
      ⟨same, timer, sends, arms⟩ | ⟨phase, -, place⟩ | ⟨-, armed⟩
    · have same : config'.state.state = config.state.state := same
      rw [same] at connecting ⊢
      rw [call]
      rcases timer with timer | armed | finishing
      · have timer : config'.state.timer = config.state.timer := timer
        rcases driven.wakes connecting with armed | pending | ⟨label, member, drives⟩
        · exact .inl (timer ▸ armed)
        · exact .inr (.inl pending)
        · rcases mem_labels_after taken member with kept | ⟨answer, own, resumed⟩
          · exact .inr (.inr ⟨label, kept, drives⟩)
          · rw [resumed, rxOrigin_some] at sends arms
            rcases drives with drives | drives | drives | ⟨phase, -, place | place⟩ | drives
            · exact .inr (.inr (drives_of_cancels _ (cancels ⟨label, member, drives⟩)))
            · rw [own, drives.2.1] at kind
              simp [Op.kind] at kind
            · simp [← own, kind] at drives
            · cases set : config.state.connectCancelled with
              | true =>
                  have phase := cancelled (flag.trans set) (.inr (same.trans phase))
                  exact .inr (.inr (drives_of_cancels _ phase))
              | false =>
                  obtain ⟨call, member, at_⟩ := stops (sends place) (by simp)
                  rw [Ieee80211.control_connectCancelled, set] at at_
                  exact .inr (.inr ⟨_, member, .inr (.inr (.inr (.inl ⟨phase, kind, .inr at_⟩)))⟩)
            · exact .inl (arms place phase)
            · simp [← own, kind] at drives
      · exact .inl armed
      · right
        rcases resumed : move.resumed with _ | ⟨last, answer⟩ <;> rw [resumed] at finishing
        · simp at finishing
        · rcases keeps.disarms kind last answer resumed finishing connecting with
            pending | ⟨label, member, other, drives⟩
          · exact .inl pending
          · rcases mem_labels_after taken member with kept | ⟨_, own, again⟩
            · exact .inr ⟨label, kept, drives⟩
            · rw [resumed] at again
              simp only [Option.some.injEq, Prod.mk.injEq] at again
              exact absurd (by rw [own, again.1]) other
    · right; right
      obtain ⟨call, member, at_⟩ := stops place (by simp)
      refine ⟨_, member, .inr (.inr (.inr (.inl ⟨phase, kind, .inl at_⟩)))⟩
    · exact .inl armed
  · rw [call] at drains
    exact drains_after taken (by simp [kind]) (driven.drains drains)

omit keeps in
theorem Driven.times (kind : move.op.kind = .times)
    (step : TimerStep move.resumed config.state.control move.stop config'.state.control) :
    Driven config' := by
  have flag : config'.state.connectCancelled = config.state.connectCancelled :=
    TimerStep.flag step
  have cancels := cancels_after taken (by simp [kind])
  refine ⟨fun connecting => ?_, fun set phase => ?_, fun drains => ?_⟩
  · obtain ⟨same, step'⟩ := TimerStep.connecting step connecting
    have same : config'.state.state = config.state.state := same
    rw [same] at connecting ⊢
    have kept : config'.state.timer = config.state.timer →
        (∀ label ∈ config.labels, Drives config.state.state label → label ∉ config'.labels →
          config'.state.timer.isSome ∨
            (config.state.state = .authenticating ∧ config'.state.connectTC.pending = true) ∨
            ∃ label ∈ config'.labels, Drives config.state.state label) →
        config'.state.timer.isSome ∨
          (config.state.state = .authenticating ∧ config'.state.connectTC.pending = true) ∨
          ∃ label ∈ config'.labels, Drives config.state.state label := by
      intro timer moved
      rcases driven.wakes connecting with armed | ⟨phase, pending⟩ | ⟨label, member, drives⟩
      · exact .inl (timer ▸ armed)
      · exact .inr (.inl ⟨phase, TimerStep.pends step pending⟩)
      · by_cases stays : label ∈ config'.labels
        · exact .inr (.inr ⟨label, stays, drives⟩)
        · exact moved label member drives stays
    rcases step' with ⟨phase, stops⟩ | ⟨call, stops, tears, phase | timer⟩ |
      ⟨timer, call, answer, resumed, calm, retries⟩
    · have phase : config.state.state = .authenticating := phase
      cases set : config.state.connectCancelled with
      | true =>
          exact .inr (.inr (drives_of_cancels _ (cancels (driven.cancelled set (.inl phase)))))
      | false =>
          rw [Ieee80211.control_connectCancelled, set] at stops
          exact .inr (.inr ⟨_, mem_labels_of_stop taken stops,
            .inr (.inr (.inl ⟨phase, kind, _, rfl⟩))⟩)
    · exact .inr (.inr ⟨_, mem_labels_of_stop taken stops,
        .inr (.inr (.inr (.inr ⟨phase, kind, tears⟩)))⟩)
    · refine kept timer fun label member drives moved => ?_
      obtain ⟨answer, own, resumed⟩ := (mem_labels_after taken member).resolve_left moved
      rcases drives.of_times (own ▸ kind) with ⟨-, check, retries⟩ | ⟨phase, -⟩
      · rw [resumed, retries] at step
        obtain ⟨⟨value, returns⟩, -⟩ := step
        simp [stops] at returns
      · exact .inr (.inr ⟨_, mem_labels_of_stop taken stops,
          .inr (.inr (.inr (.inr ⟨phase, kind, tears⟩)))⟩)
    · refine kept timer fun label member drives moved => ?_
      obtain ⟨_, own, again⟩ := (mem_labels_after taken member).resolve_left moved
      obtain ⟨rfl, -⟩ : call = label.2 ∧ answer = _ := by simpa [resumed] using again
      rcases drives.of_times (own ▸ kind) with ⟨phase, check, retry⟩ | ⟨-, tears⟩
      · cases canceling : config.state.connectTC.canceling with
        | true =>
            exact .inr (.inr (drives_of_cancels _ (cancels (cancels_of_drains
              (driven.drains canceling)))))
        | false => exact .inr (.inl ⟨phase, retries check retry canceling⟩)
      · simp [calm] at tears
  · have phase' : config.state.state = .authenticating ∨ config.state.state = .associating := by
      have same := (TimerStep.connecting step
        (by rcases phase with phase | phase <;> simp [phase, Rtw88State.connecting])).1
      exact (show config'.state.state = config.state.state from same) ▸ phase
    exact cancels (driven.cancelled (flag.symm.trans set) phase')
  · have same : config'.state.connectTC.canceling = config.state.connectTC.canceling :=
      TimerStep.canceling step
    exact drains_after taken (by simp [kind]) (driven.drains (same ▸ drains))

/-- A block of the thread call leaves a wake-up behind in its own phase. -/
theorem Driven.authenticating (own : move.op = .connectCall)
    (phase : config.state.state = .authenticating)
    (step : ConnectStep move.resumed config.state move.stop config'.state) :
    config'.state.timer.isSome ∨
      (config.state.state = .authenticating ∧ config'.state.connectTC.pending = true) ∨
      ∃ label ∈ config'.labels, Drives config.state.state label := by
  have cancels := cancels_after taken (by simp [own, Op.kind])
  cases set : config.state.connectCancelled with
  | true => exact .inr (.inr (drives_of_cancels _ (cancels (driven.cancelled set (.inl phase)))))
  | false =>
  cases canceling : config.state.connectTC.canceling with
  | true =>
      exact .inr (.inr (drives_of_cancels _ (cancels (cancels_of_drains
        (driven.drains canceling)))))
  | false =>
  have goesOn : ∀ call, move.stop = .waits call → call.proceeds = true →
      ∃ label ∈ config'.labels, Drives config.state.state label := fun call stops proceeds =>
    ⟨_, mem_labels_of_stop taken stops, .inr (.inl ⟨phase, own, proceeds⟩)⟩
  rcases resumed : move.resumed with _ | ⟨call, answer⟩ <;> rw [resumed] at step
  · simp only [ConnectStep, canceling, set] at step
    exact .inr (.inr (goesOn _ step.1 rfl))
  · rcases step with ⟨next, stops, leads, -⟩ | ⟨⟨value, returns⟩, ended, ends, after⟩
    · refine .inr (.inr (goesOn next stops ?_))
      cases next with
      | load check loaded =>
          have clear := leads.loads check loaded rfl
          simp [Call.proceeds, clear, set]
      | _ => rfl
    · have elsewhere : ∀ label ∈ config.labels, label ≠ (move.op, call) →
          label ∈ config'.labels := by
        intro label member other
        rcases mem_labels_after taken member with kept | ⟨_, own, again⟩
        · exact kept
        · simp only [resumed, Option.some.injEq, Prod.mk.injEq] at again
          exact absurd (by rw [own, again.1]) other
      rcases ends with ⟨stopped, rfl⟩ | ⟨gives_up, rfl⟩ | ⟨sent, rfl⟩
      · rw [after]
        rcases driven.wakes (by simp [phase, Rtw88State.connecting]) with
          armed | pending | ⟨label, member, drives⟩
        · exact .inl armed
        · exact .inr (.inl pending)
        · refine .inr (.inr ⟨label, elsewhere label member ?_, drives⟩)
          rintro rfl
          rcases drives with ⟨other, -⟩ | ⟨-, -, proceeds⟩ | ⟨-, other, -⟩ | ⟨other, -⟩ |
            ⟨other, -⟩
          · simp [own, Op.kind] at other
          · simp [stopped] at proceeds
          · simp [own, Op.kind] at other
          · simp [phase] at other
          · simp [phase] at other
      · have kept : config.state.timer.isSome ∨ DrivenElsewhere config (move.op, call) := by
          rcases gives_up with rfl | rfl
          · exact keeps.goesOn own _ answer value (.inl rfl) resumed returns phase
          · exact keeps.goesOn own _ answer value (.inr rfl) resumed returns phase
        rw [after]
        rcases kept with armed | pending | ⟨label, member, other, drives⟩
        · exact .inl armed
        · exact .inr (.inl pending)
        · exact .inr (.inr ⟨label, elsewhere label member other, drives⟩)
      · left
        rw [after, if_pos phase]
        rfl

theorem Driven.authenticates (own : move.op = .connectCall)
    (step : ConnectStep move.resumed config.state move.stop config'.state) : Driven config' := by
  have kind : move.op.kind = .authenticates := by rw [own]; rfl
  have flag : config'.state.connectCancelled = config.state.connectCancelled := step.flag
  have same : config'.state.state = config.state.state := step.state
  have cancels := cancels_after taken (by simp [kind])
  have drains := drains_after taken (by simp [kind])
  refine ⟨fun connecting => ?_, fun set phase => ?_, fun canceling => ?_⟩
  · rw [same] at connecting ⊢
    by_cases phase : config.state.state = .authenticating
    · exact driven.authenticating taken keeps own phase step
    · have timer := step.timer.resolve_right fun armed => phase armed.1
      rcases driven.wakes connecting with armed | ⟨other, -⟩ | ⟨label, member, drives⟩
      · exact .inl (timer ▸ armed)
      · exact absurd other phase
      · refine .inr (.inr ⟨label, mem_labels_of_kind taken member ?_, drives⟩)
        rw [kind]
        exact drives.of_ne phase
  · exact cancels (driven.cancelled (flag.symm.trans set) (same ▸ phase))
  · exact drains (driven.drains (step.canceling ▸ canceling))

omit keeps in
/-- A step of a command that drives nothing, and that only ends scans. -/
theorem Driven.aside (aside : move.op.kind = .scans ∨ move.op.kind = .connects ∨
      move.op.kind = .keeps)
    (call : config'.state.connectTC = config.state.connectTC)
    (flag : config'.state.connectCancelled = config.state.connectCancelled)
    (kept : config'.state.state.connecting = true → config'.state.state = config.state.state ∧
      (config'.state.timer = config.state.timer ∨ config'.state.timer.isSome)) :
    Driven config' := by
  have other : move.op.kind ≠ .cancels := by grind
  refine ⟨fun connecting => ?_, fun set phase => ?_, fun canceling => ?_⟩
  · obtain ⟨same, timer⟩ := kept connecting
    rw [same] at connecting ⊢
    rw [call]
    rcases timer with timer | armed
    · rcases driven.wakes connecting with armed | pending | ⟨label, member, drives⟩
      · exact .inl (timer ▸ armed)
      · exact .inr (.inl pending)
      · refine .inr (.inr ⟨label, mem_labels_of_kind taken member ?_, drives⟩)
        have kind := drives.kind
        grind
    · exact .inl armed
  · have same := (kept (by
      rcases phase with phase | phase <;> simp [phase, Rtw88State.connecting])).1
    exact cancels_after taken other (driven.cancelled (flag.symm.trans set) (same ▸ phase))
  · exact drains_after taken other (driven.drains (call ▸ canceling))

omit keeps in
theorem Driven.scans (kind : move.op.kind = .scans)
    (step : CmdScanStep move.resumed config.state.control move.stop config'.state.control) :
    Driven config' := by
  have call : config'.state.connectTC = config.state.connectTC := CmdScanStep.connectTC step
  rcases resumed : move.resumed with _ | ⟨last, answer⟩ <;> rw [resumed] at step <;>
    refine driven.aside taken (.inl kind) call ?_ fun connecting => ?_ <;>
    simp only [CmdScanStep] at step <;> grind [Rtw88State.connecting, Ieee80211.control]

omit keeps in
theorem Driven.connects (kind : move.op.kind = .connects)
    (step : CmdConnectStep config.state.control move.stop config'.state.control) :
    Driven config' := by
  have other : move.op.kind ≠ .cancels := by simp [kind]
  obtain ⟨-, mid, ends, ⟨-, same⟩ | ⟨-, wpa2, supplicant, commits⟩⟩ := step
  · subst mid
    have kept : config'.state.connectTC = config.state.connectTC ∧
        config'.state.connectCancelled = config.state.connectCancelled ∧
        (config'.state.state.connecting = true → config'.state.state = config.state.state ∧
          config'.state.timer = config.state.timer) := by
      simp only [Control.EndsScan] at ends
      grind [Rtw88State.connecting, Ieee80211.control]
    exact driven.aside taken (.inr (.inl kind)) kept.1 kept.2.1 fun connecting =>
      ⟨(kept.2.2 connecting).1, .inl (kept.2.2 connecting).2⟩
  · have phase : config'.state.state = .authenticating := congrArg Control.state commits
    have clear : config'.state.connectCancelled = false :=
      congrArg Control.connectCancelled commits
    have call : config'.state.connectTC = config.state.connectTC.enter := by
      have entered : config'.state.connectTC = mid.connectTC.enter :=
        congrArg Control.connectTC commits
      rw [entered, ← Ieee80211.control_connectTC]
      simp only [Control.EndsScan] at ends
      grind
    have drains := drains_after taken other
    refine ⟨fun _ => ?_, fun set => by simp [clear] at set, fun canceling => ?_⟩
    · cases canceling : config.state.connectTC.canceling with
      | true =>
          exact .inr (.inr (drives_of_cancels _ (cancels_of_drains
            (drains (driven.drains canceling)))))
      | false => exact .inr (.inl ⟨phase, by simp [call, ThreadCall.enter, canceling]⟩)
    · exact drains (driven.drains (by simpa [call, ThreadCall.enter] using canceling))

omit keeps in
theorem Driven.ends_scan (kind : move.op.kind = .keeps)
    (step : ScanKeeps config.state config'.state) : Driven config' := by
  refine driven.aside taken (.inr (.inr kind)) step.connectTC step.flag fun connecting => ?_
  rcases step with same | ⟨scanning, idles⟩
  · exact ⟨congrArg Control.state same, .inl (congrArg Control.timer same)⟩
  · grind [Rtw88State.connecting, Ieee80211.control]

omit keeps in
theorem Driven.cancels (kind : move.op.kind = .cancels)
    (step : CancelStep move.resumed config.state.control move.stop config'.state.control) :
    Driven config' := by
  have cancelling : ∀ call, move.stop = .waits call → call ≠ .setLinkStatus false →
      ∃ label ∈ config'.labels, Cancels label := fun call stops other =>
    ⟨_, mem_labels_of_stop taken stops, kind, other⟩
  have waiting : move.stop = .waits .cancelWait → Driven config' := by
    intro stops
    have cancelling := cancelling _ stops (by simp)
    exact ⟨fun _ => .inr (.inr (drives_of_cancels _ cancelling)), fun _ _ => cancelling,
      fun _ => ⟨_, mem_labels_of_stop taken stops, kind, rfl⟩⟩
  rcases resumed : move.resumed with _ | ⟨call, answer⟩ <;> rw [resumed] at step
  · exact waiting step.1
  · have elsewhere : ∀ label ∈ config.labels, (label.1.kind = .cancels → label.2 ≠ call) →
        label ∈ config'.labels := by
      intro label member other
      rcases mem_labels_after taken member with kept | ⟨_, own, again⟩
      · exact kept
      · simp only [resumed, Option.some.injEq, Prod.mk.injEq] at again
        exact absurd again.1.symm (other (own ▸ kind))
    rcases step with ⟨-, stops, -⟩ | ⟨announced, -, same⟩ | ⟨-, -, -, idles, announces, ends⟩
    · exact waiting stops
    · obtain ⟨phase, timer, cancelled, thread⟩ :
          config'.state.state = config.state.state ∧ config'.state.timer = config.state.timer ∧
            config'.state.connectCancelled = config.state.connectCancelled ∧
            config'.state.connectTC = config.state.connectTC :=
        ⟨congrArg Control.state same, congrArg Control.timer same,
          congrArg Control.connectCancelled same, congrArg Control.connectTC same⟩
      refine ⟨fun connecting => ?_, fun set at_ => ?_, fun canceling => ?_⟩
      · rw [phase] at connecting ⊢
        rw [timer, thread]
        rcases driven.wakes connecting with armed | pending | ⟨label, member, drives⟩
        · exact .inl armed
        · exact .inr (.inl pending)
        · refine .inr (.inr ⟨label, elsewhere label member ?_, drives⟩)
          rw [announced]
          exact drives.of_cancels
      · obtain ⟨label, member, cancels⟩ := driven.cancelled (cancelled ▸ set) (phase ▸ at_)
        exact ⟨label, elsewhere label member fun _ => announced ▸ cancels.2, cancels⟩
      · obtain ⟨label, member, cancels, waits⟩ := driven.drains (thread ▸ canceling)
        exact ⟨label, elsewhere label member fun _ => by simp [waits, announced], cancels, waits⟩
    · have busy : config'.state.state.connecting = true →
          ∃ label ∈ config'.labels, Cancels label := by
        intro connecting
        cases stop : move.stop with
        | returns value =>
            rcases ends value stop with idle | ⟨-, scanning⟩ <;>
              simp_all [Rtw88State.connecting]
        | waits next =>
            refine cancelling next stop ?_
            rintro rfl
            have idle : config'.state.state = .idle := announces stop
            simp [idle, Rtw88State.connecting] at connecting
      refine ⟨fun connecting => .inr (.inr (drives_of_cancels _ (busy connecting))),
        fun _ phase => busy ?_, fun canceling => ?_⟩
      · rcases phase with phase | phase <;> simp [phase, Rtw88State.connecting]
      · by_cases waited : call = .cancelWait
        · have thread : config'.state.connectTC.canceling = false := by
            have kept := idles.keeps.1
            rw [Call.cancelMid, if_pos waited] at kept
            exact congrArg ThreadCall.canceling kept
          simp [thread] at canceling
        · have thread : config'.state.connectTC = config.state.connectTC := by
            have kept := idles.keeps.1
            rwa [Call.cancelMid, if_neg waited] at kept
          obtain ⟨label, member, cancels, waits⟩ := driven.drains (thread ▸ canceling)
          exact ⟨label, elsewhere label member fun _ => waits ▸ Ne.symm waited, cancels, waits⟩

theorem Driven.step (step : OpStep move.op move.resumed config.state move.stop config'.state) :
    Driven config' := by
  unfold OpStep at step
  cases kind : move.op.kind <;> rw [kind] at step
  · exact driven.receives taken keeps kind step
  · exact driven.times taken kind step
  · exact driven.authenticates taken keeps (kind_connectCall.mp kind) step
  · exact driven.scans taken kind step
  · exact driven.connects taken kind step
  · exact driven.cancels taken kind step
  · exact driven.ends_scan taken kind step.1

end Steps

/-- An attempt that no thread works on has an armed timer or a pending thread call, if every step
keeps one of them. -/
theorem attempts_driven (s : Ieee80211) (config : DriverConfig) :
    AttemptsDriven KeepsDriver s config := by
  intro initial run idle connecting
  have driven := ((tracked_initial initial).run
    (fun _ _ _ taken keeps step => fun driven => Driven.step taken keeps driven step)
    (driven_initial initial) run).2
  rcases driven.wakes connecting with armed | ⟨-, pending⟩ | ⟨label, member, -⟩
  · exact .inl armed
  · exact .inr pending
  · simp [Config.labels, idle] at member

namespace Scenario

/-- The thread call gives up: the driver scans again after the wait for its scan. -/
def scanningAgain : List (Turn Answer Op) :=
  scan (beacon 1 []) ++
    [.start (.timerFired ⟨10000, 1⟩) [], .start (.cmdConnect (toNetwork none false)) [],
      .start .connectCall [], goOn 0, goOn 0, .resume 0 default [⟨1, []⟩]]

def abandoned : Option Bool := do
  let config ← play scanningAgain
  return config.threads.isEmpty && config.state.state.connecting &&
    config.state.timer.isNone && !config.state.connectTC.pending

theorem abandoned_connecting : abandoned = some true := by
  decide +kernel

end Scenario

theorem not_attempts_driven : ¬ ∀ s config, AttemptsDriven (fun _ _ => True) s config := by
  intro driven
  have run := Scenario.abandoned_connecting
  simp only [Scenario.abandoned, Option.bind_eq_bind, Option.bind_eq_some_iff,
    Option.pure_def, Option.some.injEq, Bool.and_eq_true, List.isEmpty_iff,
    Option.isNone_iff_eq_none, Bool.not_eq_true'] at run
  obtain ⟨config, played, ⟨⟨idle, connecting⟩, unarmed⟩, drained⟩ := run
  obtain ⟨s, initial, reached⟩ := Scenario.reachable_of_play played
  have wakes := driven s config initial reached idle connecting
  simp [unarmed, drained] at wakes

end AirportRtw88
