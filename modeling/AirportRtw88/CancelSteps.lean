import AirportRtw88.ScanSteps

/-!
# The steps of the timer and of the commands that cancel

What leads to `doDisconnect`: the expiry of the handshake timer, `cmdDisconnect`,
`cmdPowerOff` and `stop`, and the other cases of `onTimer`.
-/

namespace AirportRtw88

open Interleave Bytes

/-! ## Disconnecting -/

/-- The requests of `doDisconnect` before the state machine is idle. -/
def Call.tearsDown : Call → Bool
  | .setKey .clearKeys _ _ _ => true
  | .tx .deauth _ => true
  | .bssInfoChanged false _ => true
  | .staRemove => true
  | _ => false

theorem quiet_of_tearsDown {call : Call} (tears : call.tearsDown = true) : call.Quiet where
  waits := by rintro rfl; simp [Call.tearsDown] at tears
  waitsScan := by rintro rfl; simp [Call.tearsDown] at tears
  announces := by rintro rfl; simp [Call.tearsDown] at tears
  sends := by cases call with
    | tx site skb => cases site <;> simp_all [Call.tearsDown, Call.connects]
    | _ => rfl

namespace M

open Ieee80211 Prog

theorem tearDownLink_inert : Inert (fun call => call.tearsDown = true) tearDownLink := by
  intro ready now
  simp only [tearDownLink, perform, pure_eq_ret, bind_eq_bind, guarantees_bind,
    guarantees_fetch, guarantees_update, guarantees_when, guarantees_await, guarantees_ret]
  refine (clearKeys_inert ready now).mono (fun _ _ => id) ?_ fun _ now _ => ?_
  · rintro _ _ ⟨install, pairwise, key, rfl⟩
    rfl
  refine (txMgmtFrame_inert _ _ ready now).mono (fun _ _ => id) ?_ fun _ now _ => ?_
  · rintro _ _ ⟨skb, rfl⟩
    rfl
  have releases : ∀ now, releaseSta.Guarantees ready
      (fun before after => after.control = before.control)
      (fun call _ => call.tearsDown = true) now fun _ _ => True := fun now =>
    (releaseSta_inert ready now).mono (fun _ _ => id) (by rintro _ _ rfl; rfl) fun _ _ => id
  exact ⟨rfl, fun _ => ⟨rfl, fun _ later _ => releases later⟩, fun _ => releases _⟩

/-- The rule for `doDisconnect`.  `tearing` says that the block under way may still
make requests before the state machine is idle. -/
theorem doDisconnect_conforms {ready : Call → Ieee80211 → Prop}
    {step : Option (Call × Answer) → Ieee80211 → Call → Ieee80211 → Prop}
    {post : Option (Call × Answer) → Ieee80211 → Unit → Ieee80211 → Prop}
    {resumed : Option (Call × Answer)} {start now : Ieee80211}
    (tearing : Option (Call × Answer) → Ieee80211 → Control → Prop)
    (initially : tearing resumed start now.control)
    (resumes : ∀ call answer later, call.tearsDown = true → ready call later →
      tearing (some (call, answer)) later later.control)
    (blocks : ∀ resumed start call now, tearing resumed start now.control →
      call.tearsDown = true → step resumed start call now)
    (idles : ∀ resumed start before now, tearing resumed start before →
      before.Idles now.control → now.state = .idle →
      step resumed start (.setLinkStatus false) now ∧ post resumed start () now)
    (announces : ∀ answer later, ready (.setLinkStatus false) later →
      post (some (.setLinkStatus false, answer)) later () later) :
    doDisconnect.Conforms ready step resumed start now post := by
  simp only [doDisconnect, perform, pure_eq_ret, bind_eq_bind, conforms_bind, conforms_fetch,
    conforms_ite, conforms_update, conforms_when, conforms_await, conforms_ret]
  refine ⟨fun _ => (idles _ _ _ _ initially (Control.idles_becomeIdle _) rfl).2, fun _ => ?_⟩
  apply tearDownLink_inert.conforms tearing initially resumes blocks
  intro resumed start _ now at_
  have idle := idles resumed start _ now.becomeIdle.cancelTimeout at_
    ((Control.idles_becomeIdle _).trans (Control.idles_cancelTimeout _)) rfl
  exact ⟨fun _ => ⟨idle.1, announces⟩, fun _ => idle.2⟩

end M

/-- A step on the way to `IDLE`: a request before, or the last write. -/
def TearStep (before : Control) (stop : Stop Call IOReturn) (after : Control) : Prop :=
  (∃ call, stop = .waits call ∧ call.tearsDown = true ∧ after = before) ∨
    ((stop = .waits (.setLinkStatus false) ∨ ∃ value, stop = .returns value) ∧
      before.Idles after ∧ after.state = .idle)

@[grind →]
theorem TearStep.idles {before after : Control} {stop} (step : TearStep before stop after) :
    before.Idles after := by
  rcases step with ⟨_, -, -, rfl⟩ | ⟨-, idles, -⟩
  · exact .refl _
  · exact idles

/-- `timerFired`: the timer is no longer armed when `onTimer` looks at the state. -/
def TimerStep : Option (Call × Answer) → Control → Stop Call IOReturn → Control → Prop
  | none, before, stop, after =>
      match before.state with
      | .scanning =>
          ((stop = .waits .cancelHwScan ∨ ∃ value, stop = .returns value) ∧
            after = before.cancelTimeout) ∨
          ((∃ value, stop = .returns value) ∧ after = before.cancelTimeout.becomeIdle)
      | .authenticating =>
          stop = .waits (.load .retry before.connectCancelled) ∧ after = before.cancelTimeout
      | .associating =>
          (∃ value, stop = .returns value) ∧ after = before.cancelTimeout.setState .idle
      | .handshaking => TearStep before.cancelTimeout stop after
      | _ => (∃ value, stop = .returns value) ∧ after = before.cancelTimeout
  | some (.cancelHwScan, _), before, stop, after =>
      (∃ value, stop = .returns value) ∧ after = before.becomeIdle
  | some (.load _ cancelled, _), before, stop, after =>
      (∃ value, stop = .returns value) ∧
        after = if cancelled then before else before.withCall before.connectTC.enter
  | some (.setLinkStatus _, _), before, stop, after =>
      (∃ value, stop = .returns value) ∧ after = before
  | some _, before, stop, after => TearStep before stop after

theorem timerStep_tears {call : Call} (tears : call.tearsDown = true) {answer before stop after}
    (step : TearStep before stop after) : TimerStep (some (call, answer)) before stop after := by
  cases call <;> simp_all [Call.tearsDown, TimerStep]

/-- The control fields once a request of a canceller is answered. -/
def Call.cancelMid (call : Call) (c : Control) : Control :=
  if call = .cancelWait then c.withCall c.connectTC.resume else c

/-- `cancelAuthentication` and what follows it in `cmdDisconnect`, `cmdPowerOff` and
`stop`. -/
def CancelStep : Option (Call × Answer) → Control → Stop Call IOReturn → Control → Prop
  | none, before, stop, after =>
      stop = .waits .cancelWait ∧ ∃ canceled, after = before.cancelConnect canceled
  | some (call, _), before, stop, after =>
      (call = .cancelWaitManualScan ∧ stop = .waits .cancelWait ∧
        ∃ canceled, after = before.withCall (before.connectTC.cancel canceled)) ∨
      (call = .setLinkStatus false ∧ (∃ value, stop = .returns value) ∧ after = before) ∨
      (call ≠ .cancelWaitManualScan ∧ stop ≠ .waits .cancelWait ∧ stopConnects stop = false ∧
        (call.cancelMid before).Idles after ∧
        (stop = .waits (.setLinkStatus false) → after.state = .idle) ∧
        ∀ value, stop = .returns value →
          after.state = .idle ∨ (value = .busy ∧ after.state = .scanning))

namespace M

open Ieee80211 Prog

/-! ## The timer -/

theorem scanTimeout_timer {resumed : Option (Call × Answer)} {start now : Ieee80211}
    (idle : now.scanReturnState = .idle)
    {step : Option (Call × Answer) → Ieee80211 → Call → Ieee80211 → Prop}
    {post : Option (Call × Answer) → Ieee80211 → Unit → Ieee80211 → Prop}
    (asks : ∀ now', now'.control = now.control →
      step resumed start .cancelHwScan now' ∧ post resumed start () now')
    (ends : post resumed start () (now.leaveScan .idle))
    (gives_up : ∀ answer later, later.Regular →
      post (some (.cancelHwScan, answer)) later () (later.leaveScan .idle)) :
    scanTimeout.Conforms guardedReady step resumed start now post := by
  simp only [scanTimeout, perform, pure_eq_ret, bind_eq_bind, conforms_bind, conforms_fetch,
    conforms_ite, conforms_update, conforms_when, conforms_await, conforms_ret]
  refine ⟨fun _ => (asks now.abortManualScan rfl).2,
    fun _ => ⟨fun _ => ⟨(asks _ rfl).1, ?_⟩, fun _ => ?_⟩⟩
  · intro answer later isReady
    simp only [isReady.2.scans]
    exact ⟨by rintro ⟨⟩, fun _ => gives_up answer later isReady.2⟩
  · simp only [idle]
    exact ⟨by rintro ⟨⟩, fun _ => ends⟩

theorem timerFired_takes {s : Ieee80211} (regular : s.Regular) :
    Takes (fun resumed start stop now => TimerStep resumed start.control stop now.control)
      (returning M.timerFired) s := by
  simp only [returning, M.timerFired, onTimer, bind_eq_bind, conforms_bind, pure_eq_ret,
    conforms_ret, conforms_update, conforms_fetch]
  cases at_ : s.cancelTimeout.state with
  | idle | connected | disconnecting =>
      simp only [conforms_ret, TimerStep]
      simp [show s.state = _ from at_]
  | scanning =>
      have idle : s.cancelTimeout.scanReturnState = .idle := regular.scans
      apply scanTimeout_timer idle
      · intro now same
        simp [TimerStep, show s.state = _ from at_, same]
      · simp [TimerStep, show s.state = _ from at_]
        exact .inr rfl
      · intro answer later regular
        exact ⟨⟨_, rfl⟩, rfl⟩
  | authenticating =>
      simp only [authenticationCancelled, perform, bind_eq_bind, conforms_bind, pure_eq_ret,
        conforms_ret, conforms_update, conforms_fetch, conforms_await, conforms_when]
      refine ⟨?_, fun answer later _ => ?_⟩
      · simp [TimerStep, show s.state = _ from at_]
        rfl
      · refine ⟨fun retries => ?_, fun stops => ?_⟩ <;>
          simp_all [TimerStep]
  | associating =>
      rw [conforms_update]
      simp [TimerStep, show s.state = _ from at_]
  | handshaking =>
      apply doDisconnect_conforms fun resumed start c =>
        (resumed = none ∧ start.state = .handshaking ∧ c = start.control.cancelTimeout) ∨
          ∃ call answer, resumed = some (call, answer) ∧ call.tearsDown = true ∧ c = start.control
      · exact .inl ⟨rfl, at_, rfl⟩
      · exact fun call answer later tears _ => .inr ⟨call, answer, rfl, tears, rfl⟩
      · rintro resumed start call now (⟨rfl, shaking, same⟩ | ⟨last, answer, rfl, torn, same⟩) tears
        · simp only [TimerStep, Ieee80211.control_state, shaking]
          exact .inl ⟨call, rfl, tears, same⟩
        · exact timerStep_tears torn (.inl ⟨call, rfl, tears, same⟩)
      · rintro resumed start before now
          (⟨rfl, shaking, same⟩ | ⟨last, answer, rfl, torn, same⟩) idles idle
        · subst same
          simp only [TimerStep, Ieee80211.control_state, shaking]
          exact ⟨.inr ⟨.inl rfl, idles, idle⟩, .inr ⟨.inr ⟨_, rfl⟩, idles, idle⟩⟩
        · subst same
          exact ⟨timerStep_tears torn (.inr ⟨.inl rfl, idles, idle⟩),
            timerStep_tears torn (.inr ⟨.inr ⟨_, rfl⟩, idles, idle⟩)⟩
      · exact fun answer later _ => ⟨⟨_, rfl⟩, rfl⟩

theorem powerOff_inert : Inert (· = .stop) powerOff := by
  intro ready now
  simp [powerOff, perform, withPowered, Ieee80211.control]

/-! ## Cancelling -/

section Cancel

/-- A block of a canceller after its first request. -/
def cancelsAt (resumed : Option (Call × Answer)) (start : Ieee80211) (c : Control) : Prop :=
  ∃ call answer, resumed = some (call, answer) ∧ call ≠ .cancelWaitManualScan ∧
    (call.cancelMid start.control).Idles c

def cancelWaits (resumed : Option (Call × Answer)) (start : Ieee80211) (call : Call)
    (now : Ieee80211) : Prop :=
  CancelStep resumed start.control (.waits call) now.control

theorem cancelsAt_resumed {call : Call} (other : call ≠ .cancelWait)
    (other' : call ≠ .cancelWaitManualScan) (answer : Answer) (later : Ieee80211) :
    cancelsAt (some (call, answer)) later later.control := by
  refine ⟨call, answer, rfl, other', ?_⟩
  rw [Call.cancelMid, if_neg other]
  exact .refl _

theorem cancelsAt.waits {resumed start} {now : Ieee80211}
    (at_ : cancelsAt resumed start now.control) {call : Call} (other : call.Quiet) :
    cancelWaits resumed start call now := by
  obtain ⟨last, answer, rfl, other', idles⟩ := at_
  refine .inr (.inr ⟨other', ?_, other.sends, idles, ?_, nofun⟩)
  · simpa using other.waits
  · simp [other.announces]

theorem cancelsAt.announces {resumed start} {now : Ieee80211}
    (at_ : cancelsAt resumed start now.control) (idle : now.state = .idle) :
    cancelWaits resumed start (.setLinkStatus false) now := by
  obtain ⟨last, answer, rfl, other', idles⟩ := at_
  exact .inr (.inr ⟨other', nofun, rfl, idles, fun _ => idle, nofun⟩)

theorem cancelsAt.returns {resumed start} {now : Ieee80211}
    (at_ : cancelsAt resumed start now.control) {value : IOReturn}
    (ended : now.state = .idle ∨ (value = .busy ∧ now.state = .scanning)) :
    CancelStep resumed start.control (.returns value) now.control := by
  obtain ⟨last, answer, rfl, other', idles⟩ := at_
  refine .inr (.inr ⟨other', nofun, rfl, idles, nofun, ?_⟩)
  rintro _ ⟨⟩
  exact ended

theorem cancelsAt.trans {resumed start c c'} (at_ : cancelsAt resumed start c)
    (idles : c.Idles c') : cancelsAt resumed start c' := by
  obtain ⟨call, answer, rfl, other, before⟩ := at_
  exact ⟨call, answer, rfl, other, before.trans idles⟩

/-- An inert part of a canceller. -/
theorem cancels_of_inert {α : Type} {calls : Call → Prop} {program : M α}
    (inert : Inert calls program)
    (quiet : ∀ call, calls call → call.Quiet)
    {ready resumed start now} (at_ : cancelsAt resumed start now.control) :
    program.Conforms ready cancelWaits resumed start now
      fun resumed start _ now => cancelsAt resumed start now.control := by
  apply inert.conforms cancelsAt at_
  · exact fun call answer later makes _ =>
      cancelsAt_resumed (quiet call makes).waits (quiet call makes).waitsScan answer later
  · exact fun _ _ call _ at_ makes => cancelsAt.waits at_ (quiet call makes)
  · exact fun _ _ _ _ at_ => at_

/-- `doDisconnect` leaves the state machine idle, unless another thread moves it while
the link status is announced. -/
theorem doDisconnect_cancels {ready resumed start now}
    (at_ : cancelsAt resumed start now.control) :
    doDisconnect.Conforms ready cancelWaits resumed start now fun resumed start _ now =>
      cancelsAt resumed start now.control ∧
        (now.state = .idle ∨
          ((∃ answer, resumed = some (.setLinkStatus false, answer)) ∧
            now.control = start.control)) := by
  apply doDisconnect_conforms cancelsAt at_
  · exact fun call answer later tears _ =>
      cancelsAt_resumed (quiet_of_tearsDown tears).waits (quiet_of_tearsDown tears).waitsScan
        answer later
  · exact fun _ _ call _ at_ tears => cancelsAt.waits at_ (quiet_of_tearsDown tears)
  · intro resumed start before now at_ idles idle
    exact ⟨(at_.trans idles).announces idle, at_.trans idles, .inl idle⟩
  · exact fun answer later _ =>
      ⟨cancelsAt_resumed (by simp) (by simp) answer later, .inr ⟨⟨answer, rfl⟩, rfl⟩⟩

/-- The rule for `cancelAuthentication`: the thread call is drained when it returns. -/
theorem cancelAuthentication_cancels {ready : Call → Ieee80211 → Prop} {start : Ieee80211}
    {post : Option (Call × Answer) → Ieee80211 → Unit → Ieee80211 → Prop}
    (goesOn : ∀ answer later, ready .cancelWait later →
      post (some (.cancelWait, answer)) later () (later.withConnectTC later.connectTC.resume)) :
    cancelAuthentication.Conforms ready cancelWaits none start start post := by
  simp only [cancelAuthentication, drainConnectCall, perform, pure_eq_ret, bind_eq_bind,
    conforms_bind, conforms_update, conforms_choose, conforms_await, conforms_ret]
  exact fun canceled => ⟨⟨rfl, _, rfl⟩, goesOn⟩

theorem cancelsAt_drained (answer : Answer) (later : Ieee80211) :
    cancelsAt (some (.cancelWait, answer)) later
      (later.withConnectTC later.connectTC.resume).control :=
  ⟨.cancelWait, answer, rfl, nofun, .refl _⟩

/-- A function that takes the steps of a canceller. -/
abbrev Cancels (program : M IOReturn) (s : Ieee80211) : Prop :=
  Takes (fun resumed start stop now => CancelStep resumed start.control stop now.control)
    program s

theorem cmdDisconnect_cancels (s : Ieee80211) : Cancels cmdDisconnect s := by
  simp only [Cancels, Takes, cmdDisconnect, pure_eq_ret, bind_eq_bind, conforms_bind,
    conforms_fetch, conforms_when, conforms_ret]
  apply cancelAuthentication_cancels
  intro answer later _
  have drained := cancelsAt_drained answer later
  refine ⟨fun _ => ?_, fun idle => drained.returns (.inl ?_)⟩
  · refine (doDisconnect_cancels drained).mono (fun _ _ _ _ => id) ?_
    rintro resumed start _ now ⟨at_, idle | ⟨⟨answer, rfl⟩, same⟩⟩
    · exact at_.returns (.inl idle)
    · exact .inr (.inl ⟨rfl, ⟨_, rfl⟩, same⟩)
  · simpa using idle

theorem finishPowerOff_cancels {ready resumed start now}
    (at_ : cancelsAt resumed start now.control) :
    finishPowerOff.Conforms ready cancelWaits resumed start now fun resumed start value now =>
      CancelStep resumed start.control (.returns value) now.control := by
  simp only [finishPowerOff, perform, pure_eq_ret, bind_eq_bind, conforms_bind, conforms_fetch,
    conforms_ite, conforms_update, conforms_when, conforms_await, conforms_ret]
  have finishes : ∀ {resumed start now}, cancelsAt resumed start now.control →
      powerOff.Conforms ready cancelWaits resumed start now fun resumed start _ now =>
        (now.becomeIdle.parent = true → cancelWaits resumed start (.setLinkStatus false)
            now.becomeIdle ∧ ∀ answer later, ready (.setLinkStatus false) later →
              CancelStep (some (.setLinkStatus false, answer)) later.control
                (.returns .success) later.control) ∧
          (now.becomeIdle.parent = false →
            CancelStep resumed start.control (.returns .success) now.becomeIdle.control) := by
    intro resumed start now at_
    refine (cancels_of_inert powerOff_inert (fun call makes => ?_) at_).mono
      (fun _ _ _ _ => id) fun _ _ _ now at_ => ?_
    · subst makes
      exact ⟨by rintro ⟨⟩, by rintro ⟨⟩, by rintro ⟨⟩, rfl⟩
    · have idle := at_.trans (Control.idles_becomeIdle _)
      exact ⟨fun _ => ⟨cancelsAt.announces idle rfl,
        fun answer later _ => .inr (.inl ⟨rfl, ⟨_, rfl⟩, rfl⟩)⟩,
        fun _ => cancelsAt.returns idle (.inl rfl)⟩
  refine ⟨fun _ => ?_, fun _ => ?_⟩
  · exact (doDisconnect_cancels at_).mono (fun _ _ _ _ => id)
      fun _ _ _ _ done => finishes done.1
  · refine (cancels_of_inert clearKeys_inert ?_ at_).mono (fun _ _ _ _ => id)
      fun _ _ _ _ at_ => ?_
    · rintro _ ⟨install, pairwise, key, rfl⟩
      exact ⟨by rintro ⟨⟩, by rintro ⟨⟩, by rintro ⟨⟩, rfl⟩
    · refine (cancels_of_inert releaseSta_inert ?_ at_).mono (fun _ _ _ _ => id)
        fun _ _ _ _ at_ => finishes at_
      rintro _ rfl
      exact ⟨by rintro ⟨⟩, by rintro ⟨⟩, by rintro ⟨⟩, rfl⟩

theorem cmdPowerOff_cancels (s : Ieee80211) : Cancels cmdPowerOff s := by
  simp only [Cancels, Takes, cmdPowerOff, pure_eq_ret, bind_eq_bind, conforms_bind,
    conforms_ite, conforms_ret]
  apply cancelAuthentication_cancels
  intro answer later isReady
  have regular : (later.withConnectTC later.connectTC.resume).Regular :=
    ⟨isReady.2.scans, isReady.2.connects⟩
  apply (abortActiveScan_scans regular).conforms fun resumed start now =>
    cancelsAt resumed start now.control
  · exact cancelsAt_drained answer later
  · rintro resumed start now after at_ (same | ⟨_, idles⟩)
    · exact same ▸ at_
    · exact at_.trans idles
  · exact fun call answer _ later aborts _ =>
      cancelsAt_resumed (abortsScan_quiet aborts).waits (abortsScan_quiet aborts).waitsScan
        answer later
  · exact fun _ _ call _ at_ aborts => at_.waits (abortsScan_quiet aborts)
  · intro resumed start ended now at_ scanning
    refine ⟨fun _ => finishPowerOff_cancels at_, fun busy => at_.returns (.inr ⟨rfl, ?_⟩)⟩
    exact scanning (by simpa using busy)

theorem removeInterface_inert :
    Inert (fun call => call = .removeInterface ∨ call = .stop) removeInterface := by
  intro ready now
  simp [removeInterface, perform, forgetVif, withPowered, Ieee80211.control]

theorem removeInterface_quiet (call : Call) (makes : call = .removeInterface ∨ call = .stop) :
    call.Quiet := by
  rcases makes with rfl | rfl <;> exact ⟨nofun, nofun, nofun, rfl⟩

theorem removeHardware_cancels {ready resumed start now}
    (at_ : cancelsAt resumed start now.control) :
    removeHardware.Conforms ready cancelWaits resumed start now fun resumed start _ now =>
      CancelStep resumed start.control (.returns .success) now.control := by
  simp only [removeHardware, perform, pure_eq_ret, bind_eq_bind, conforms_bind,
    conforms_fetch, conforms_update, conforms_when, conforms_await, conforms_ret]
  have removes : ∀ {resumed start now}, cancelsAt resumed start now.control →
      removeInterface.Conforms ready cancelWaits resumed start now fun resumed start _ now =>
        cancelWaits resumed start .pciRemove now ∧ ∀ answer later, ready .pciRemove later →
          CancelStep (some (.pciRemove, answer)) later.control (.returns .success)
            later.becomeIdle.forgetHw.control := by
    intro resumed start now at_
    refine (cancels_of_inert removeInterface_inert removeInterface_quiet at_).mono
      (fun _ _ _ _ => id) fun _ _ _ _ at_ => ⟨at_.waits
        ⟨by rintro ⟨⟩, by rintro ⟨⟩, by rintro ⟨⟩, rfl⟩, ?_⟩
    intro answer later _
    have resumes : cancelsAt (some (.pciRemove, answer)) later later.control :=
      cancelsAt_resumed (by simp) (by simp) answer later
    have idle : cancelsAt (some (.pciRemove, answer)) later later.becomeIdle.forgetHw.control :=
      resumes.trans (Control.idles_becomeIdle _)
    exact idle.returns (.inl rfl)
  refine ⟨fun _ => ⟨at_.waits ⟨by rintro ⟨⟩, by rintro ⟨⟩, by rintro ⟨⟩, rfl⟩,
      fun answer later _ => removes ?_⟩,
    fun _ => removes at_⟩
  exact cancelsAt_resumed (by simp) (by simp) answer later

theorem stop_cancels (s : Ieee80211) : Cancels (returning M.stop) s := by
  simp only [Cancels, Takes, returning, M.stop, drainConnectCall, perform, pure_eq_ret,
    bind_eq_bind, conforms_bind, conforms_fetch, conforms_ret, conforms_update,
    conforms_await, conforms_choose, conforms_ite]
  apply cancelAuthentication_cancels
  intro answer later _ canceled
  refine ⟨.inr (.inr ⟨by rintro ⟨⟩, by rintro ⟨⟩, rfl, .refl _, by rintro ⟨⟩,
    fun _ waits => by cases waits⟩), fun answer later _ canceled =>
      ⟨.inl ⟨rfl, rfl, _, rfl⟩, fun answer later _ => ?_⟩⟩
  have drained := (cancelsAt_drained answer later).trans (Control.idles_cancelTimeout _)
  refine ⟨fun _ => ?_, fun _ => ?_⟩
  · exact (doDisconnect_cancels drained).mono (fun _ _ _ _ => id)
      fun _ _ _ _ done => removeHardware_cancels done.1
  · refine (cancels_of_inert clearKeys_inert ?_ drained).mono (fun _ _ _ _ => id)
      fun _ _ _ _ at_ => ?_
    · rintro _ ⟨install, pairwise, key, rfl⟩
      exact ⟨by rintro ⟨⟩, by rintro ⟨⟩, by rintro ⟨⟩, rfl⟩
    · refine (cancels_of_inert releaseSta_inert ?_ at_).mono (fun _ _ _ _ => id)
        fun _ _ _ _ at_ => removeHardware_cancels at_
      rintro _ rfl
      exact ⟨by rintro ⟨⟩, by rintro ⟨⟩, by rintro ⟨⟩, rfl⟩

end Cancel

end M

end AirportRtw88
