import AirportRtw88.Cancellation

/-!
# Retries of the authentication

`doAuthenticate` loads the cancelled flag, and then programs the channel or transmits
without another look at `_state`.  It stays inside its phase in the runs in which no
other thread takes the state machine out of `AUTHENTICATING` while a pass of it is
pending or has not transmitted yet.
-/

namespace AirportRtw88

open Interleave Bytes

attribute [local grind] ThreadCall.enter ThreadCall.cancel ThreadCall.resume Call.cancelMid

/-- Whether `doAuthenticate` acts right after a request, without another look at the
cancelled flag. -/
def Call.acts : Call → Bool
  | .load .authenticateSettled false => true
  | .load .authenticateSetup false => true
  | .load .authenticateSend false => true
  | _ => false

/-- A `doAuthenticate` is pending or on its way to its frame, and nothing stops it before
it acts. -/
def Endangered (config : DriverConfig) : Prop :=
  (config.state.connectCancelled = false ∧
      (config.state.connectTC.pending = true ∨
        ∃ call, (Op.connectCall, call) ∈ config.labels ∧ call.beforeSend = true)) ∨
    ∃ call, (Op.connectCall, call) ∈ config.labels ∧ call.acts = true

/-- Whether a handler of received frames may write `_state` when it goes on. -/
def RxPlace.publishes : RxPlace → Bool
  | .authChecked cancelled | .associateChecked cancelled | .assocChecked cancelled => !cancelled
  | .registering | .clearing | .shaking => true
  | _ => false

/-- Whether `onTimer` has written `_state` when it makes a request, or leaves it alone. -/
def Call.leavesState : Call → Bool
  | .load _ _ | .setLinkStatus _ => true
  | _ => false

/-- A thread other than `doAuthenticate` that may write `_state` when it goes on. -/
def Publishes (move : DriverMove) : Prop :=
  (move.op.kind = .receives ∧ (rxOrigin move.resumed).publishes = true) ∨
    ∃ call answer, move.resumed = some (call, answer) ∧
      ((move.op.kind = .times ∧ call.leavesState = false) ∨
        (move.op.kind = .cancels ∧ call ≠ .cancelWait ∧ call ≠ .cancelWaitManualScan))

/-- The step does not take the state machine out of `AUTHENTICATING` before the frame of
the authentication is out, and does not start another authentication elsewhere. -/
structure LeavesAuthentication (config : DriverConfig) (move : DriverMove) : Prop where
  publishes : config.state.state = .authenticating → Endangered config → ¬ Publishes move
  retries : move.op.kind = .times → ∀ check answer,
    move.resumed = some (.load check false, answer) →
    config.state.connectCancelled = false → config.state.state = .authenticating

/-- A block of `doAuthenticate` that reprograms the channel or the BSSID, clears the
association or transmits its frame. -/
def Disturbs (config : DriverConfig) (move : DriverMove) (config' : DriverConfig) : Prop :=
  move.op = .connectCall ∧
    (config'.state.hw ≠ config.state.hw ∨ config'.state.vif ≠ config.state.vif ∨
      (∃ bssid, move.stop = .waits (.connectHwSetup bssid)) ∨ stopConnects move.stop = true)

/-- `doAuthenticate` acts only in `AUTHENTICATING`, in the runs whose steps satisfy
`admits`. -/
def ActsInPhase (admits : DriverConfig → DriverMove → Prop) (s : Ieee80211)
    (config config' : DriverConfig) (move : DriverMove) : Prop :=
  s.initial → rtw88.Reaches (fun config move _ => admits config move) ⟨s, []⟩ config →
    rtw88.Step config move config' → Disturbs config move config' →
    config.state.state = .authenticating

theorem RxStep.authenticating {place place' : RxPlace} {before after : Control}
    (step : RxStep place before place' after) (authenticating : before.state = .authenticating)
    (calm : place.publishes = false) : after.state = .authenticating := by
  cases place <;>
    simp only [RxStep, PublishStep, ShakeStep, Control.Receives, RxPlace.publishes] at step calm <;>
    grind

theorem Endangered.mono {config config' : DriverConfig}
    (labels : ∀ call, (Op.connectCall, call) ∈ config'.labels →
      (Op.connectCall, call) ∈ config.labels)
    (flag : config'.state.connectCancelled = false → config.state.connectCancelled = false)
    (pending : config'.state.connectTC.pending = true → config.state.connectTC.pending = true)
    (endangered : Endangered config') : Endangered config := by
  rcases endangered with ⟨clear, waits | ⟨call, member, before⟩⟩ | ⟨call, member, acts⟩
  · exact .inl ⟨flag clear, .inl (pending waits)⟩
  · exact .inl ⟨flag clear, .inr ⟨call, labels call member, before⟩⟩
  · exact .inr ⟨call, labels call member, acts⟩

theorem proceeds_of_beforeSend {call : Call} (before : call.beforeSend = true) :
    call.proceeds = true := by
  cases call with
  | load check cancelled => cases check <;> simp_all [Call.beforeSend]
  | _ => rfl

theorem beforeSend_of_acts {call : Call} (acts : call.acts = true) : call.beforeSend = true := by
  unfold Call.acts at acts
  split at acts <;> simp_all [Call.beforeSend, Call.proceeds]

/-- Once the thread call is drained nothing is about to act. -/
theorem not_endangered_of_drained {config : DriverConfig} (counted : Counted config)
    (drained : config.state.connectTC.drained = true) : ¬ Endangered config := by
  have idle : config.state.connectTC.pending = false ∧ config.state.connectTC.running = 0 := by
    simpa [ThreadCall.drained] using drained
  have harmless := harmless_of_none counted idle.2
  rintro (⟨-, waits | ⟨call, member, before⟩⟩ | ⟨call, member, acts⟩)
  · simp [idle.1] at waits
  · have proceeds := proceeds_of_beforeSend before
    simp [harmless call member] at proceeds
  · have proceeds := proceeds_of_beforeSend (beforeSend_of_acts acts)
    simp [harmless call member] at proceeds

theorem auth_mem_of_ne {config config' : DriverConfig} {move : DriverMove}
    (taken : rtw88.Step config move config') (other : move.op ≠ .connectCall) (call : Call)
    (member : (Op.connectCall, call) ∈ config'.labels) :
    (Op.connectCall, call) ∈ config.labels := by
  rcases mem_labels_of_step taken member with old | new
  · exact old
  · exact absurd (mem_added new).2 other

theorem TimerStep.authenticating {resumed stop} {before after : Control}
    (step : TimerStep resumed before stop after) (authenticating : before.state = .authenticating)
    (calm : ∀ call answer, resumed = some (call, answer) → call.leavesState = true) :
    after.state = .authenticating := by
  rcases resumed with _ | ⟨call, answer⟩
  · simp only [TimerStep, authenticating] at step
    grind
  · have calm := calm call answer rfl
    cases call <;> simp only [Call.leavesState, TimerStep] at calm step <;> grind

/-- The timer makes the thread call pending only when it retries. -/
theorem TimerStep.pending {resumed stop} {before after : Control}
    (step : TimerStep resumed before stop after) (pending : after.connectTC.pending = true) :
    before.connectTC.pending = true ∨
      ((∃ check answer, resumed = some (.load check false, answer)) ∧
        after.state = before.state) := by
  rcases resumed with _ | ⟨call, answer⟩
  · simp only [TimerStep] at step
    split at step <;> grind
  · cases call with
    | load check cancelled =>
        obtain ⟨-, rfl⟩ := step
        cases cancelled with
        | false => exact .inr ⟨⟨check, answer, rfl⟩, rfl⟩
        | true => exact .inl pending
    | _ => simp only [TimerStep] at step; grind

theorem CancelStep.pending {resumed stop} {before after : Control}
    (step : CancelStep resumed before stop after) (pending : after.connectTC.pending = true) :
    before.connectTC.pending = true := by
  rcases resumed with _ | ⟨call, answer⟩ <;> simp only [CancelStep] at step <;> grind

theorem CancelStep.flag_clear {resumed stop} {before after : Control}
    (step : CancelStep resumed before stop after) (clear : after.connectCancelled = false) :
    before.connectCancelled = false := by
  rcases resumed with _ | ⟨call, answer⟩ <;> simp only [CancelStep] at step <;> grind

theorem CancelStep.authenticating {resumed stop} {before after : Control}
    (step : CancelStep resumed before stop after) (authenticating : before.state = .authenticating)
    (calm : ∀ call answer, resumed = some (call, answer) →
      call = .cancelWaitManualScan) : after.state = .authenticating := by
  rcases resumed with _ | ⟨call, answer⟩
  · obtain ⟨-, canceled, rfl⟩ := step
    exact authenticating
  · have other := calm call answer rfl
    subst other
    rcases step with ⟨-, -, canceled, rfl⟩ | ⟨status, -⟩ | ⟨other, -⟩
    · exact authenticating
    · simp at status
    · exact absurd rfl other

theorem CmdScanStep.keeps {resumed stop} {before after : Control}
    (step : CmdScanStep resumed before stop after) :
    after.connectCancelled = before.connectCancelled ∧
      (before.state ≠ .idle → after.state = before.state) := by
  cases resumed <;> simp only [CmdScanStep] at step <;> grind

theorem CmdConnectStep.cases {stop} {before after : Control}
    (step : CmdConnectStep before stop after) :
    after.state = .authenticating ∨
      (after.connectTC = before.connectTC ∧ after.connectCancelled = before.connectCancelled ∧
        (before.state ≠ .scanning → after.state = before.state)) := by
  simp only [CmdConnectStep, Control.EndsScan] at step
  grind

theorem ScanKeeps.keeps {before after : Ieee80211} (keeps : ScanKeeps before after) :
    after.connectTC = before.connectTC ∧ after.connectCancelled = before.connectCancelled ∧
      (before.state ≠ .scanning → after.state = before.state) := by
  refine ⟨keeps.connectTC, keeps.flag, fun other => ?_⟩
  rcases keeps with same | ⟨scanning, -⟩
  · exact congrArg Control.state same
  · exact absurd scanning other

theorem ConnectStep.pending {resumed start stop now} (step : ConnectStep resumed start stop now)
    (pending : now.connectTC.pending = true) : start.connectTC.pending = true := by
  rcases resumed with _ | ⟨call, answer⟩
  · simp only [ConnectStep] at step
    split at step <;> obtain ⟨-, rfl⟩ := step <;>
      simp [Ieee80211.withConnectTC, ThreadCall.dispatch, ThreadCall.finish] at pending
  · have same : now.connectTC.pending = start.connectTC.pending := by
      rcases step.control with ⟨_, -, -, same⟩ | ⟨-, same | ⟨-, -, same⟩⟩ <;>
        exact congrArg (fun c => c.connectTC.pending) same
    exact same.symm.trans pending

/-- The thread call acts only after it has loaded the cancelled flag as clear. -/
theorem ConnectStep.loaded {resumed start stop call now}
    (step : ConnectStep resumed start stop now) (waits : stop = .waits call)
    (acts : call.acts = true) : start.connectCancelled = false := by
  subst waits
  rcases resumed with _ | ⟨last, answer⟩
  · simp only [ConnectStep] at step
    split at step <;> obtain ⟨stops, -⟩ := step
    · simp at stops
    · cases stops
      simp [Call.acts] at acts
  · rcases step with ⟨next, stops, leads, -⟩ | ⟨⟨value, returns⟩, -⟩
    · cases stops
      unfold Call.acts at acts
      split at acts <;> first
        | exact (leads.loads _ _ rfl).symm
        | simp at acts
    · simp at returns

/-- A block of the thread call is followed by something that may act only if something
could act before it. -/
theorem ConnectStep.endangered {config config' : DriverConfig} {move : DriverMove}
    (taken : rtw88.Step config move config') (own : move.op = .connectCall)
    (step : ConnectStep move.resumed config.state move.stop config'.state)
    (endangered : Endangered config') : Endangered config := by
  have flag : config'.state.connectCancelled = config.state.connectCancelled := step.flag
  have pending : config'.state.connectTC.pending = true →
      config.state.connectTC.pending = true := step.pending
  have approaches : ∀ call, move.stop = .waits call → call.beforeSend = true →
      config.state.connectCancelled = false → Endangered config := by
    intro call waits before clear
    rcases resumed : move.resumed with _ | ⟨last, answer⟩
    · have enabled : move.op.enabled config.state = true := taken.enabled resumed
      exact .inl ⟨clear, .inl (by simpa [own, Op.enabled] using enabled)⟩
    · rw [resumed] at step
      rcases step with ⟨next, stops, leads, -⟩ | ⟨⟨value, returns⟩, -⟩
      · rw [waits] at stops
        cases stops
        exact .inl ⟨clear, .inr ⟨last, own ▸ mem_labels_of_resumed taken resumed,
          leads.approaches before⟩⟩
      · simp [waits] at returns
  rcases endangered with ⟨clear, waits | ⟨call, member, before⟩⟩ | ⟨call, member, acts⟩
  · exact .inl ⟨flag.symm.trans clear, .inl (pending waits)⟩
  · rcases mem_labels_of_step taken member with old | new
    · exact .inl ⟨flag.symm.trans clear, .inr ⟨call, old, before⟩⟩
    · exact approaches call (mem_added new).1 before (flag.symm.trans clear)
  · rcases mem_labels_of_step taken member with old | new
    · exact .inr ⟨call, old, acts⟩
    · exact approaches call (mem_added new).1 (beforeSend_of_acts acts)
        (step.loaded (mem_added new).1 acts)

/-- While something is about to act, the state machine is in its phase. -/
theorem endangered_step {config config' : DriverConfig} {move : DriverMove}
    (taken : rtw88.Step config move config') (leaves : LeavesAuthentication config move)
    (step : OpStep move.op move.resumed config.state move.stop config'.state)
    (counted : Counted config)
    (phase : Endangered config → config.state.state = .authenticating)
    (endangered : Endangered config') : config'.state.state = .authenticating := by
  by_cases own : move.op = .connectCall
  · have step : ConnectStep move.resumed config.state move.stop config'.state := by
      simpa [OpStep, OpKind.Step, own, Op.kind] using step
    exact step.state.trans (phase (step.endangered taken own endangered))
  have labels := auth_mem_of_ne taken own
  have mono := Endangered.mono labels
  unfold OpStep at step
  cases kind : move.op.kind <;> rw [kind] at step
  · have step : RxStep (rxOrigin move.resumed) config.state.control (stopPlace move.stop)
        config'.state.control := step
    have before := mono (fun clear => (RxStep.flag step).symm.trans clear)
      (fun pending => by
        rwa [← Ieee80211.control_connectTC, RxStep.connectTC step] at pending) endangered
    have authenticating := phase before
    refine RxStep.authenticating step authenticating ?_
    have calm := leaves.publishes authenticating before
    simpa [Publishes, kind] using calm
  · have step : TimerStep move.resumed config.state.control move.stop config'.state.control := step
    have flag := TimerStep.flag step
    by_cases before : Endangered config
    · refine TimerStep.authenticating step (phase before) fun call answer resumed => ?_
      have calm := leaves.publishes (phase before) before
      simpa [Publishes, kind, resumed] using calm
    · have pending : ¬ (config'.state.connectTC.pending = true →
          config.state.connectTC.pending = true) := fun pending =>
        before (mono (fun clear => flag.symm.trans clear) pending endangered)
      have clear : config.state.connectCancelled = false := by
        rcases endangered with ⟨clear, -⟩ | ⟨call, member, acts⟩
        · exact flag.symm.trans clear
        · exact absurd (.inr ⟨call, labels call member, acts⟩) before
      rw [Classical.not_imp] at pending
      obtain ⟨⟨check, answer, resumed⟩, same⟩ :=
        (TimerStep.pending step pending.1).resolve_left pending.2
      exact same.trans (leaves.retries kind check answer resumed clear)
  · exact absurd (kind_connectCall.mp kind) own
  · have step : CmdScanStep move.resumed config.state.control move.stop config'.state.control :=
      step
    have before := mono (fun clear => step.keeps.1.symm.trans clear)
      (fun pending => by rwa [← Ieee80211.control_connectTC, CmdScanStep.connectTC step] at pending)
      endangered
    exact (step.keeps.2 (by simp [phase before])).trans (phase before)
  · rcases CmdConnectStep.cases step with done | ⟨call, flag, same⟩
    · exact done
    · have before := mono (fun clear => flag.symm.trans clear)
        (fun pending => by rwa [← Ieee80211.control_connectTC, call] at pending) endangered
      exact (same (by simp [phase before])).trans (phase before)
  · have step : CancelStep move.resumed config.state.control move.stop config'.state.control := step
    have before := mono step.flag_clear step.pending endangered
    refine CancelStep.authenticating step (phase before) fun call answer resumed => ?_
    have calm := leaves.publishes (phase before) before
    by_cases waited : call = .cancelWait
    · have isReady := taken.ready resumed
      rw [waited] at isReady
      exact absurd before (not_endangered_of_drained counted isReady)
    · simpa [Publishes, kind, resumed, waited] using calm
  · obtain ⟨call, flag, same⟩ := ScanKeeps.keeps step.1
    have before := mono (fun clear => flag.symm.trans clear) (fun pending => call ▸ pending)
      endangered
    exact (same (by simp [phase before])).trans (phase before)

theorem acts_of_setsRadio {call : Call} (sets : call.setsRadio ≠ false) : call.acts = true := by
  unfold Call.setsRadio at sets
  split at sets <;> simp_all [Call.acts]

/-- A block that disturbs goes on from a request that `doAuthenticate` acts after. -/
theorem ConnectStep.acts {resumed start stop now} (step : ConnectStep resumed start stop now)
    (disturbs : now.hw ≠ start.hw ∨ now.vif ≠ start.vif ∨
      (∃ bssid, stop = .waits (.connectHwSetup bssid)) ∨ stopConnects stop = true) :
    ∃ call answer, resumed = some (call, answer) ∧ call.acts = true := by
  rcases resumed with _ | ⟨call, answer⟩
  · simp only [ConnectStep] at step
    split at step
    · obtain ⟨⟨value, rfl⟩, rfl⟩ := step
      simp [Ieee80211.withConnectTC, stopConnects] at disturbs
    · obtain ⟨rfl, rfl⟩ := step
      simp [Ieee80211.withConnectTC, stopConnects, Call.connects] at disturbs
  · refine ⟨call, answer, rfl, ?_⟩
    rcases step with ⟨next, rfl, leads, keeps⟩ | ⟨⟨value, rfl⟩, ended, ends, rfl⟩
    · rcases disturbs with hw | vif | ⟨bssid, stops⟩ | sends
      · exact acts_of_setsRadio fun calm => hw (keeps.radio calm).1
      · exact acts_of_setsRadio fun calm => vif (keeps.radio calm).2
      · cases stops
        rw [leads.programs bssid rfl]
        rfl
      · cases next with
        | tx site skb =>
            rw [leads.sends site skb rfl]
            rfl
        | _ => simp [stopConnects, Call.connects] at sends
    · have same : ended.hw = start.hw ∧ ended.vif = start.vif := by
        rcases ends with ⟨-, rfl⟩ | ⟨-, rfl⟩ | ⟨-, rfl⟩
        · exact ⟨rfl, rfl⟩
        · exact ⟨rfl, rfl⟩
        · split <;> exact ⟨rfl, rfl⟩
      simp [Ieee80211.withConnectTC, same, stopConnects] at disturbs

/-- What holds of every configuration of an admitted run. -/
structure InPhase (config : DriverConfig) : Prop where
  counted : Counted config
  phase : Endangered config → config.state.state = .authenticating

theorem inPhase_initial {s : Ieee80211} (initial : s.initial) : InPhase ⟨s, []⟩ := by
  refine ⟨counted_initial initial, ?_⟩
  obtain ⟨attached, -, rfl⟩ := initial
  rintro (⟨clear, -⟩ | ⟨call, member, -⟩)
  · simp [Ieee80211.started] at clear
  · simp [Config.labels] at member

theorem InPhase.step {config config' : DriverConfig} {move : DriverMove}
    (taken : rtw88.Step config move config') (leaves : LeavesAuthentication config move)
    (step : OpStep move.op move.resumed config.state move.stop config'.state)
    (inPhase : InPhase config) : InPhase config' :=
  ⟨inPhase.counted.step taken step,
    endangered_step taken leaves step inPhase.counted inPhase.phase⟩

/-- `doAuthenticate` acts only in `AUTHENTICATING`, if the phase does not end while a pass of it
still has to transmit. -/
theorem acts_in_phase (s : Ieee80211) (config config' : DriverConfig) (move : DriverMove) :
    ActsInPhase LeavesAuthentication s config config' move := by
  rintro initial run taken ⟨own, disturbs⟩
  obtain ⟨tracked, inPhase⟩ := (tracked_initial initial).run
    (fun _ _ _ taken leaves step => InPhase.step taken leaves step) (inPhase_initial initial) run
  have step := (tracked.step taken).1
  rw [OpStep, own] at step
  obtain ⟨call, answer, resumed, acts⟩ := ConnectStep.acts step disturbs
  exact inPhase.phase (.inr ⟨call, own ▸ mem_labels_of_resumed taken resumed, acts⟩)

namespace Scenario

/-- The response arrives while the retry that its timeout started waits for the firmware. -/
def answeredLate : List (Turn Answer Op) :=
  attempt ++ [.start (.timerFired ⟨3000, 3⟩) [], goOn 0, .start .connectCall []] ++
    List.replicate 4 (goOn 0) ++ [.start (.rxFrame authResponse) [], goOn 1, goOn 1]

/-- The retry goes on in the next phase. -/
def retried : Option Bool := do
  let config ← play answeredLate
  let (move, _) ← rtw88.turn config (goOn 0)
  return move.op = .connectCall && move.stop = .waits (.connectHwSetup apAddr) &&
    config.state.state = .associating

theorem retried_associating : retried = some true := by
  decide +kernel

end Scenario

theorem not_acts_in_phase : ¬ ∀ s config config' move,
    ActsInPhase (fun _ _ => True) s config config' move := by
  intro inPhase
  have run := Scenario.retried_associating
  simp only [Scenario.retried, Option.bind_eq_bind, Option.bind_eq_some_iff, Prod.exists,
    Option.pure_def, Option.some.injEq, Bool.and_eq_true, decide_eq_true_eq] at run
  obtain ⟨config, played, move, config', turn, ⟨own, stops⟩, associating⟩ := run
  obtain ⟨s, initial, reached⟩ := Scenario.reachable_of_play played
  have phase := inPhase s config config' move initial reached (System.step_of_turn turn)
    ⟨own, .inr (.inr (.inl ⟨_, stops⟩))⟩
  simp [associating] at phase

end AirportRtw88
