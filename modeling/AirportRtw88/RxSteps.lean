import AirportRtw88.Control

/-!
# The steps of received frames

A handler of received frames is cut at its requests, and between two of them it
stands at a place.  `RxStep` lists what the control fields may do from one place
to the next; the theorems show that the handlers do nothing else, from the bottom
up to `rxFrame` and the reorder timer.
-/

namespace AirportRtw88

open Interleave Bytes

/-- Where a handler of received frames waits; it never does at `foreign`. -/
inductive RxPlace : Type where
  | calm
  | authChecked (cancelled : Bool)
  | associateChecked (cancelled : Bool)
  | associating
  | associateSent (cancelled : Bool)
  | assocChecked (cancelled : Bool)
  | registering
  | finishing
  | clearing
  | shaking
  | foreign
  deriving DecidableEq

/-- The place of a handler that waits for a request. -/
def Call.rxPlace : Call → RxPlace
  | .load .authResponse cancelled => .authChecked cancelled
  | .load .associate cancelled => .associateChecked cancelled
  | .load .associateSent cancelled => .associateSent cancelled
  | .load .assocResponse cancelled => .assocChecked cancelled
  | .tx .associate _ => .associating
  | .tx .authenticate _ => .foreign
  | .tx .data _ => .shaking
  | .tx .blockAck _ => .finishing
  | .setLinkStatus true => .finishing
  | .staAdd _ => .registering
  | .bssInfoChanged true _ => .registering
  | .setKey .clearKeys _ _ _ => .clearing
  | .setKey .installKey _ _ _ => .shaking
  | _ => .calm

/-- The place a block starts from. -/
def rxOrigin : Option (Call × Answer) → RxPlace
  | none => .calm
  | some (call, _) => call.rxPlace

@[simp]
theorem rxOrigin_none : rxOrigin none = .calm :=
  rfl

@[simp]
theorem rxOrigin_some (call : Call) (answer : Answer) :
    rxOrigin (some (call, answer)) = call.rxPlace :=
  rfl

/-- The last steps of an association: choose the state that follows. -/
def PublishStep (before : Control) (place : RxPlace) (after : Control) : Prop :=
  if before.wpa2 ∧ ¬ before.externalSupplicant then
    place = .calm ∧ after = (before.setState .handshaking).wakeAtTime 8000
  else
    (place = .finishing ∧ after = before.setState .connected) ∨
      (place = .calm ∧ after = (before.setState .connected).cancelTimeout)

/-- The steps of the four-way handshake. -/
def ShakeStep (before : Control) (place : RxPlace) (after : Control) : Prop :=
  ((place = .calm ∨ place = .shaking) ∧ after = before) ∨
    (place = .calm ∧ after = before.wakeAtTime 5000) ∨
    ((place = .calm ∨ place = .finishing) ∧
      after = (before.setState .connected).cancelTimeout)

/-- The states in which data, and deauthentications, are received. -/
def Control.Receives (c : Control) : Prop :=
  c.state = .handshaking ∨ c.state = .connected ∨ c.state = .scanning

/-- One atomic block of a handler.  Returning is a calm place too. -/
def RxStep : RxPlace → Control → RxPlace → Control → Prop
  | .calm, before, place, after =>
      (place = .authChecked before.connectCancelled ∧ before.state = .authenticating ∧
        after = before) ∨
      (place = .assocChecked before.connectCancelled ∧ before.state = .associating ∧
        after = before) ∨
      ((place = .calm ∨ place = .finishing ∨ place = .clearing) ∧ after = before) ∨
      (place = .calm ∧ before.Receives ∧ after = before.becomeIdle) ∨
      (before.state = .handshaking ∧ ShakeStep before place after)
  | .authChecked cancelled, before, place, after =>
      (place = .calm ∧ after = before) ∨
      (cancelled = false ∧ place = .calm ∧ after = before.cancelTimeout.setState .idle) ∨
      (cancelled = false ∧ place = .associateChecked before.connectCancelled ∧
        after = before)
  | .associateChecked cancelled, before, place, after =>
      (cancelled = true ∧ place = .calm ∧ after = before) ∨
      (cancelled = false ∧ place = .associating ∧ after = before.setState .associating) ∨
      (cancelled = false ∧ place = .calm ∧
        after = (before.setState .associating).setState .idle)
  | .associating, before, place, after =>
      place = .associateSent before.connectCancelled ∧ after = before
  | .associateSent cancelled, before, place, after =>
      place = .calm ∧
        ((cancelled = false ∧ before.state = .associating ∧ after = before.wakeAtTime 3000) ∨
          ((cancelled = false → before.state ≠ .associating) ∧ after = before))
  | .assocChecked cancelled, before, place, after =>
      (cancelled = true ∧ place = .calm ∧ after = before) ∨
      (cancelled = false ∧ place = .calm ∧ after = before.setState .idle) ∨
      (cancelled = false ∧ place = .registering ∧ after = before) ∨
      (cancelled = false ∧ PublishStep before place after)
  | .registering, before, place, after =>
      (place = .registering ∧ after = before) ∨ PublishStep before place after
  | .finishing, before, place, after =>
      ((place = .calm ∨ place = .finishing) ∧ after = before) ∨
      (place = .calm ∧ after = before.cancelTimeout)
  | .clearing, before, place, after =>
      (place = .clearing ∧ after = before) ∨ (place = .calm ∧ after = before.becomeIdle)
  | .shaking, before, place, after => ShakeStep before place after
  | .foreign, _, _, _ => False

/-- The block under way may stop at a request. -/
def rxWaits (resumed : Option (Call × Answer)) (start : Ieee80211) (request : Call)
    (now : Ieee80211) : Prop :=
  RxStep (rxOrigin resumed) start.control request.rxPlace now.control

/-- The block under way may return. -/
def rxReturns (resumed : Option (Call × Answer)) (start now : Ieee80211) : Prop :=
  RxStep (rxOrigin resumed) start.control .calm now.control


/-- Nothing is under way at this place. -/
def RxPlace.quiet (place : RxPlace) : Prop :=
  place = .calm ∨ place = .finishing

theorem RxStep.quiet {place place' : RxPlace} (from_ : place.quiet) (to_ : place'.quiet)
    (c : Control) : RxStep place c place' c := by
  rcases from_ with rfl | rfl <;> rcases to_ with rfl | rfl <;> simp [RxStep]

/-- A block that may stop while it finishes may also cancel the timer and return. -/
theorem RxStep.cancels {place : RxPlace} {before after : Control} (busy : place ≠ .calm)
    (step : RxStep place before .finishing after) :
    RxStep place before .calm after.cancelTimeout := by
  cases place <;> simp only [RxStep, PublishStep, ShakeStep] at step ⊢ <;>
    grind [Control.cancelTimeout_cancelTimeout]

/-- From a place and a state at which it may be entered, the program takes steps
of received frames until it returns. -/
def RxHandles (enters : RxPlace → Control → Prop) (program : M Unit) : Prop :=
  ∀ ready resumed start now, enters (rxOrigin resumed) start.control →
    now.control = start.control →
    program.Conforms ready rxWaits resumed start now
      fun resumed start _ now => rxReturns resumed start now

/-- An inert program whose requests are quiet is a handler. -/
theorem Inert.rx {calls : Call → Prop} {program : M Unit} (inert : Inert calls program)
    (quiet : ∀ call, calls call → call.rxPlace.quiet) :
    RxHandles (fun place _ => place = .calm) program := by
  intro ready resumed start now calm same
  apply inert.conforms fun resumed start c => (rxOrigin resumed).quiet ∧ c = start.control
  · exact ⟨.inl calm, same⟩
  · intro call answer later makes _
    exact ⟨quiet call makes, rfl⟩
  · rintro resumed start call now ⟨from_, same⟩ makes
    simp only [rxWaits, same]
    exact .quiet from_ (quiet call makes) _
  · rintro resumed start _ now ⟨from_, same⟩
    simp only [rxReturns, same]
    exact .quiet from_ (.inl rfl) _

namespace M

open Ieee80211 Prog

section Association

attribute [local simp] perform succeeds submit authenticationCancelled rxWaits rxReturns
  RxStep Call.rxPlace

theorem doAssociate_rx : RxHandles (fun place _ => place = .authChecked false) doAssociate := by
  intro ready resumed start now origin same
  simp [doAssociate, sendAssociation, txMgmtFrame, origin, same, tests_of_control_eq same]
  grind

/-- Registering the station keeps a handler where it may publish. -/
def registersAt (resumed : Option (Call × Answer)) (start now : Ieee80211) : Prop :=
  (rxOrigin resumed = .registering ∨ rxOrigin resumed = .assocChecked false) ∧
    now.control = start.control

theorem registerSta_rx (aid : Nat) {ready resumed start now}
    (at_ : registersAt resumed start now) :
    (registerSta aid).Conforms ready rxWaits resumed start now
      fun resumed start _ now => registersAt resumed start now := by
  obtain ⟨origin, same⟩ := at_
  rcases origin with origin | origin <;> simp [registerSta, registersAt, origin, same]

theorem notifyAssociation_rx (aid : Nat) {ready resumed start now}
    (at_ : registersAt resumed start now) :
    (notifyAssociation aid).Conforms ready rxWaits resumed start now
      fun resumed start _ now => registersAt resumed start now := by
  obtain ⟨origin, same⟩ := at_
  rcases origin with origin | origin <;>
    simp [notifyAssociation, registersAt, origin, same]

end Association

/-- A block that is finishing an association. -/
def finishesAt (resumed : Option (Call × Answer)) (start : Ieee80211) (c : Control) : Prop :=
  rxOrigin resumed ≠ .calm ∧ RxStep (rxOrigin resumed) start.control .finishing c

theorem startTxAggregation_rx {ready resumed start now}
    (at_ : finishesAt resumed start now.control) :
    startTxAggregation.Conforms ready rxWaits resumed start now fun resumed start _ now =>
      finishesAt resumed start now.control := by
  apply startTxAggregation_inert.conforms finishesAt
  · exact at_
  · rintro _ answer later ⟨skb, rfl⟩ _
    exact ⟨nofun, .quiet (.inr rfl) (.inr rfl) _⟩
  · rintro resumed start _ now at_ ⟨skb, rfl⟩
    exact at_.2
  · intro resumed start _ now at_
    exact at_

/-- The end of an association that does not need a handshake. -/
theorem finishAssociation_rx {ready resumed start now}
    (at_ : finishesAt resumed start now.control) :
    (Prog.when (!now.wpa2) startTxAggregation).Conforms ready rxWaits resumed start now
      fun resumed start _ now => rxReturns resumed start now.cancelTimeout := by
  simp only [conforms_when]
  refine ⟨fun _ => ?_, fun _ => at_.2.cancels at_.1⟩
  exact (startTxAggregation_rx at_).mono (fun _ _ _ _ => id)
    fun _ _ _ _ at_ => at_.2.cancels at_.1

theorem publishAssociation_rx {ready resumed start now}
    (at_ : registersAt resumed start now) :
    publishAssociation.Conforms ready rxWaits resumed start now
      fun resumed start _ now => rxReturns resumed start now := by
  obtain ⟨origin, same⟩ := at_
  obtain ⟨-, -, sameWpa2, sameSupplicant⟩ := tests_of_control_eq same
  have publishes : ∀ place after, PublishStep start.control place after →
      RxStep (rxOrigin resumed) start.control place after := by
    intro place after step
    rcases origin with origin | origin <;> simp [origin, RxStep, step]
  simp only [publishAssociation, perform, pure_eq_ret, bind_eq_bind, conforms_bind,
    conforms_fetch, conforms_ite, conforms_update]
  refine ⟨fun handshake => ?_, fun open_ => ?_⟩
  · apply publishes
    simp_all [PublishStep]
  · have connected : RxStep (rxOrigin resumed) start.control .finishing
        (now.setState .connected).control := by
      apply publishes
      simp_all [PublishStep]
    rw [conforms_when]
    refine ⟨fun _ => ⟨connected, fun answer later _ => ?_⟩, fun _ => ?_⟩
    · exact finishAssociation_rx ⟨by rintro ⟨⟩, .quiet (.inr rfl) (.inr rfl) _⟩
    · refine finishAssociation_rx ⟨?_, connected⟩
      rcases origin with origin | origin <;> simp [origin]

theorem processAssocResponse_rx (skb : Skb) :
    RxHandles (fun place c => place = .calm ∧ c.state = .associating)
      (processAssocResponse skb) := by
  rintro ready resumed start now ⟨calm, associating⟩ same
  have flag : (now.kfreeSkb skb).connectCancelled = start.control.connectCancelled :=
    congrArg Control.connectCancelled same
  simp only [processAssocResponse, authenticationCancelled, perform, pure_eq_ret,
    bind_eq_bind, conforms_bind, conforms_fetch, conforms_update, conforms_whenSome,
    conforms_when, conforms_await, conforms_ret, conforms_ite, flag]
  refine ⟨fun fields _ => ⟨?_, fun answer later _ => ⟨fun proceeds => ⟨fun refused => ?_,
    fun accepted => ?_⟩, fun stops => ?_⟩⟩, fun _ => ?_⟩
  · simp_all [rxWaits, RxStep, Call.rxPlace]
  · simp_all [rxReturns, RxStep, Call.rxPlace]
  · have registers : registersAt
        (some (.load .assocResponse start.control.connectCancelled, answer)) later
        (later.withAssocAID fields.aid) := by
      simp_all [registersAt, Call.rxPlace]
    refine (registerSta_rx _ registers).mono (fun _ _ _ _ => id) fun _ _ _ _ at_ => ?_
    refine (notifyAssociation_rx _ at_).mono (fun _ _ _ _ => id) fun _ _ _ _ at_ => ?_
    exact publishAssociation_rx at_
  · simp_all [rxReturns, RxStep, Call.rxPlace]
  · simp_all [rxReturns, RxStep]

/-! ## Handshake -/

/-- A block of the four-way handshake that has changed nothing yet. -/
def shakesAt (resumed : Option (Call × Answer)) (start : Ieee80211) (c : Control) : Prop :=
  (∀ place after, ShakeStep start.control place after →
    RxStep (rxOrigin resumed) start.control place after) ∧ c = start.control

theorem shakesAt_resumed {call : Call} (shaking : call.rxPlace = .shaking) (answer : Answer)
    (later : Ieee80211) : shakesAt (some (call, answer)) later later.control := by
  refine ⟨fun place after step => ?_, rfl⟩
  simpa [shaking, RxStep] using step

/-- An inert part of the handshake. -/
theorem shakes_of_inert {α : Type} {calls : Call → Prop} {program : M α}
    (inert : Inert calls program) (shaking : ∀ call, calls call → call.rxPlace = .shaking)
    {ready resumed start now} (at_ : shakesAt resumed start now.control) :
    program.Conforms ready rxWaits resumed start now
      fun resumed start _ now => shakesAt resumed start now.control := by
  apply inert.conforms shakesAt at_
  · exact fun call answer later makes _ => shakesAt_resumed (shaking call makes) answer later
  · rintro resumed start call now ⟨steps, same⟩ makes
    exact steps _ _ (.inl ⟨.inr (shaking call makes), same⟩)
  · exact fun _ _ _ _ at_ => at_

theorem sendEAPOLKey_rx (step : Nat) (replayCounter : Bytes) (install ack mic : Bool)
    {ready resumed start now} (at_ : shakesAt resumed start now.control) :
    (sendEAPOLKey step replayCounter install ack mic).Conforms ready rxWaits resumed start
      now fun resumed start _ now => shakesAt resumed start now.control :=
  shakes_of_inert (sendEAPOLKey_inert step replayCounter install ack mic)
    (by rintro _ ⟨skb, rfl⟩; rfl) at_

theorem installKey_rx (pairwise : Bool) (keyidx : UInt8) (cipher : Nat)
    (tk : Ieee80211 → Bytes) (tkLen : Nat) {ready resumed start now}
    (at_ : shakesAt resumed start now.control) :
    (installKey pairwise keyidx cipher tk tkLen).Conforms ready rxWaits resumed start now
      fun resumed start _ now => shakesAt resumed start now.control :=
  shakes_of_inert (installKey_inert pairwise keyidx cipher tk tkLen)
    (by rintro _ ⟨install, pairwise, key, rfl⟩; rfl) at_

theorem shakesAt.returns {resumed start now} (at_ : shakesAt resumed start now.control) :
    rxReturns resumed start now :=
  at_.1 _ _ (.inl ⟨.inl rfl, at_.2⟩)

theorem handleM1_rx (data : Bytes) {ready resumed start now}
    (at_ : shakesAt resumed start now.control) :
    (handleM1 data).Conforms ready rxWaits resumed start now
      fun resumed start _ now => rxReturns resumed start now := by
  simp only [handleM1, bind_eq_bind, conforms_bind, conforms_choose, conforms_fetch,
    conforms_update]
  intro random
  rw [← control_acceptM1 now data ((random.bytes ++ zeros 32).take 32)] at at_
  refine (sendEAPOLKey_rx _ _ _ _ _ at_).mono (fun _ _ _ _ => id) ?_
  rintro resumed start _ now ⟨steps, same⟩
  rw [rxReturns, control_wakeAtTime, same]
  exact steps _ _ (.inr (.inl ⟨rfl, rfl⟩))

/-- The aggregation that follows a handshake. -/
theorem aggregateShaken_rx {ready resumed start now}
    (at_ : ∀ place : RxPlace, place.quiet →
      RxStep (rxOrigin resumed) start.control place now.control) :
    startTxAggregation.Conforms ready rxWaits resumed start now
      fun resumed start _ now => rxReturns resumed start now := by
  apply startTxAggregation_inert.conforms fun resumed start c =>
    ∀ place : RxPlace, place.quiet → RxStep (rxOrigin resumed) start.control place c
  · exact at_
  · rintro _ answer later ⟨skb, rfl⟩ _ place quiet
    exact .quiet (.inr rfl) quiet _
  · rintro resumed start _ now at_ ⟨skb, rfl⟩
    exact at_ _ (.inr rfl)
  · intro resumed start _ now at_
    exact at_ _ (.inl rfl)

theorem completeHandshake_rx {ready resumed start now}
    (at_ : shakesAt resumed start now.control) :
    completeHandshake.Conforms ready rxWaits resumed start now
      fun resumed start _ now => rxReturns resumed start now := by
  simp only [completeHandshake, perform, pure_eq_ret, bind_eq_bind, conforms_bind,
    conforms_fetch, conforms_update, conforms_when, conforms_await, conforms_ret]
  refine (sendEAPOLKey_rx _ _ _ _ _ at_).mono (fun _ _ _ _ => id) ?_
  rintro resumed start _ now ⟨steps, same⟩
  have connected : ∀ place : RxPlace, place.quiet → RxStep (rxOrigin resumed) start.control
      place (now.setState .connected).cancelTimeout.control := by
    intro place quiet
    rw [control_cancelTimeout, control_setState, same]
    exact steps _ _ (.inr (.inr ⟨quiet, rfl⟩))
  refine ⟨fun _ => ⟨connected _ (.inr rfl), fun answer later _ => ?_⟩, fun _ => ?_⟩
  · exact aggregateShaken_rx fun place quiet => .quiet (.inr rfl) quiet _
  · exact aggregateShaken_rx connected

theorem installHandshakeKeys_rx (gtk : Option GtkKde) {ready resumed start now}
    (at_ : shakesAt resumed start now.control) :
    (installHandshakeKeys gtk).Conforms ready rxWaits resumed start now
      fun resumed start _ now => rxReturns resumed start now := by
  simp only [installHandshakeKeys, bind_eq_bind, conforms_bind, conforms_fetch,
    conforms_when]
  refine (installKey_rx _ _ _ _ _ at_).mono (fun _ _ _ _ => id) fun _ _ installed _ at_ =>
    ⟨fun _ => ?_, fun _ => at_.returns⟩
  cases gtk.filter fun kde => kde.gtk ≠ [] with
  | none => exact completeHandshake_rx at_
  | some kde =>
      simp only [conforms_bind, conforms_when]
      refine (installKey_rx _ _ _ _ _ at_).mono (fun _ _ _ _ => id)
        fun _ _ grouped _ at_ => ⟨fun _ => completeHandshake_rx at_, fun _ => at_.returns⟩

theorem handleM3_rx (data : Bytes) {ready resumed start now}
    (at_ : shakesAt resumed start now.control) :
    (handleM3 data).Conforms ready rxWaits resumed start now
      fun resumed start _ now => rxReturns resumed start now := by
  simp only [handleM3, bind_eq_bind, conforms_bind, conforms_fetch, conforms_when,
    conforms_whenSome, conforms_update]
  refine (shakes_of_inert (eapolMicOk_inert _ _) (fun _ makes => makes.elim) at_).mono
    (fun _ _ _ _ => id) fun _ _ verified _ at_ => ⟨fun _ => ⟨fun keyData _ => ?_,
      fun _ => at_.returns⟩, fun _ => at_.returns⟩
  exact installHandshakeKeys_rx _ at_

theorem handleEAPOL_rx (data : Bytes) {ready resumed start now}
    (at_ : shakesAt resumed start now.control) :
    (handleEAPOL data).Conforms ready rxWaits resumed start now
      fun resumed start _ now => rxReturns resumed start now := by
  simp only [handleEAPOL, conforms_when, conforms_ite]
  exact ⟨fun _ => ⟨fun _ => handleM1_rx data at_,
    fun _ => ⟨fun _ => handleM3_rx data at_, fun _ => at_.returns⟩⟩, fun _ => at_.returns⟩

/-! ## The other handlers -/

section Inert

attribute [local simp] perform succeeds submit recordTx Ieee80211.control

theorem deliverEthernet_inert (skb : Skb) (msdu : Msdu) :
    Inert (fun call => call.rxPlace.quiet) (deliverEthernet skb msdu) := by
  intro ready now
  simp [deliverEthernet, fillInputPacket, copies, dropMbuf, mbufFreem, RxPlace.quiet,
    Call.rxPlace]

theorem tryDeliverAWDLDataFrame_inert (skb : Skb) :
    Inert (fun call => call.rxPlace = .calm) (tryDeliverAWDLDataFrame skb) := by
  intro ready now
  simp [tryDeliverAWDLDataFrame, deliverAWDLEthernet, fillInputPacket, copies, dropMbuf,
    mbufFreem, kfreeSkb, Call.rxPlace]

theorem processScanResult_inert (skb : Skb) :
    Inert (fun call => call.rxPlace.quiet) (processScanResult skb) := by
  intro ready now
  simp [processScanResult, addBss, kfreeSkb]

theorem processRxAction_inert (skb : Skb) :
    Inert (fun call => call.rxPlace.quiet) (processRxAction skb) := by
  intro ready now
  simp [processRxAction, handleBackAction, sendAddbaResponse, txMgmtFrame, bumpTxSeq,
    leaveRxBa, Ieee80211.rxBaTeardown, kfreeSkb, RxPlace.quiet, Call.rxPlace]

end Inert

theorem processRxDeauth_rx (skb : Skb) :
    RxHandles (fun place _ => place = .calm) (processRxDeauth skb) := by
  intro ready resumed start now calm same
  simp only [processRxDeauth, perform, pure_eq_ret, bind_eq_bind, conforms_bind,
    conforms_fetch, conforms_update, conforms_when, conforms_await, conforms_ret]
  have idle : ∀ {resumed} {start now : Ieee80211},
      ((rxOrigin resumed = .calm ∧ start.control.Receives) ∨ rxOrigin resumed = .clearing) →
      now.control = start.control.becomeIdle → rxReturns resumed start now := by
    intro resumed start now origin idles
    rcases origin with ⟨origin, receives⟩ | origin <;> simp [rxReturns, RxStep, *]
  refine ⟨fun obeys => ?_, fun _ => ?_⟩
  · have receives : start.control.Receives := by
      rw [← same]
      simp only [Bool.and_eq_true, receivesData, connectedOrScanning, decide_eq_true_eq] at obeys
      simp only [Control.Receives, control_state]
      tauto
    rw [← control_noteDeauth now skb.data] at same
    apply clearKeys_inert.conforms fun resumed start c =>
      ((rxOrigin resumed = .calm ∧ start.control.Receives) ∨ rxOrigin resumed = .clearing) ∧
        c = start.control
    · exact ⟨.inl ⟨calm, receives⟩, same⟩
    · rintro _ answer later ⟨install, pairwise, key, rfl⟩ _
      exact ⟨.inr rfl, rfl⟩
    · rintro resumed start _ now ⟨origin, same⟩ ⟨install, pairwise, key, rfl⟩
      rcases origin with ⟨origin, -⟩ | origin <;>
        simp [rxWaits, RxStep, Call.rxPlace, origin, same]
    · rintro resumed start _ now ⟨origin, same⟩
      have idles : now.leaveDeauthenticated.control = start.control.becomeIdle := by
        rw [control_leaveDeauthenticated, same]
      refine ⟨fun _ => ⟨idle origin idles, fun answer later _ => ?_⟩, fun _ => idle origin idles⟩
      exact .quiet (.inl rfl) (.inl rfl) _
  · rw [rxReturns, control_kfreeSkb, same, calm]
    exact .quiet (.inl rfl) (.inl rfl) _

theorem processRxAuth_rx (skb : Skb) :
    RxHandles (fun place _ => place = .calm) (processRxAuth skb) := by
  intro ready resumed start now calm same
  obtain ⟨sameState, sameFlag, -, -⟩ := tests_of_control_eq same
  simp only [processRxAuth, authenticationCancelled, perform, pure_eq_ret, bind_eq_bind,
    conforms_bind, conforms_fetch, conforms_update, conforms_when, conforms_whenSome,
    conforms_await, conforms_ret, conforms_ite, sameFlag]
  refine ⟨fun authenticating => ⟨?_, fun answer later _ => ⟨fun proceeds =>
    ⟨fun status _ => ⟨fun accepted => ?_, fun refused => ?_⟩, fun _ => ?_⟩, fun stops => ?_⟩⟩,
      fun _ => ?_⟩
  · simp_all [rxWaits, RxStep, Call.rxPlace]
  · have checked : rxOrigin (some (.load .authResponse start.connectCancelled, answer)) =
        .authChecked false := by
      simp_all [Call.rxPlace]
    exact (doAssociate_rx _ _ _ _ checked rfl).mono (fun _ _ _ _ => id)
      fun _ _ _ _ returns => returns
  · simp_all [rxReturns, RxStep, Call.rxPlace]
  · simp_all [rxReturns, RxStep, Call.rxPlace]
  · simp_all [rxReturns, RxStep, Call.rxPlace]
  · simp_all [rxReturns, RxStep]

theorem processRxMgmt_rx (skb : Skb) :
    RxHandles (fun place _ => place = .calm) (processRxMgmt skb) := by
  intro ready resumed start now calm same
  have frees : rxReturns resumed start (now.kfreeSkb skb) := by
    simp [rxReturns, RxStep, calm, same]
  simp only [processRxMgmt, processRxAssoc, bind_eq_bind, conforms_bind, conforms_fetch,
    conforms_update, conforms_ite]
  refine ⟨fun _ => ⟨fun _ => ?_, fun _ => frees⟩, fun _ => ⟨fun _ => ?_, fun _ =>
    ⟨fun _ => ⟨fun associating => ?_, fun _ => frees⟩, fun _ => ⟨fun _ => ?_, fun _ =>
    ⟨fun _ => ?_, fun _ => frees⟩⟩⟩⟩⟩
  · exact (processScanResult_inert skb).rx (fun _ => id) _ _ _ _ calm same
  · exact processRxAuth_rx skb _ _ _ _ calm same
  · exact processAssocResponse_rx skb _ _ _ _
      ⟨calm, (tests_of_control_eq same).1.symm.trans associating⟩ same
  · exact processRxDeauth_rx skb _ _ _ _ calm same
  · exact (processRxAction_inert skb).rx (fun _ => id) _ _ _ _ calm same

/-! ## Data frames -/

/-- A message that the handshake takes is handled in its phase. -/
theorem takenEapol_rx (data : Bytes) {ethertype : Nat} {ready resumed start now}
    (calm : rxOrigin resumed = .calm) (same : now.control = start.control)
    (takes : now.takesEapol ethertype = true) :
    (handleEAPOL data).Conforms ready rxWaits resumed start now
      fun resumed start _ now => rxReturns resumed start now := by
  have shaking : start.state = .handshaking := by
    rw [← (tests_of_control_eq same).1]
    simp_all [takesEapol]
  refine handleEAPOL_rx _ ⟨fun place after step => ?_, same⟩
  simp [calm, RxStep, shaking, step]

theorem deliverMsdu_rx (skb : Skb) :
    RxHandles (fun place _ => place = .calm) (deliverMsdu skb) := by
  intro ready resumed start now calm same
  have delivers : ∀ now : Ieee80211, now.control = start.control →
      (deliverEthernet skb (singleMsdu skb.data)).Conforms ready rxWaits resumed start now
        fun resumed start _ now => rxReturns resumed start now := fun now same =>
    (deliverEthernet_inert skb _).rx (fun _ => id) _ _ _ _ calm same
  simp only [deliverMsdu, bind_eq_bind, conforms_bind, conforms_when, conforms_update,
    conforms_fetch, conforms_ite]
  refine ⟨fun _ => ?_, fun _ => ⟨takenEapol_rx _ calm same, fun _ => delivers _ same⟩⟩
  rw [← control_logCcmpIvSkip] at same
  exact ⟨takenEapol_rx _ calm same, fun _ => delivers _ same⟩

/-- What may follow at any point at which a handler may return. -/
def RxFollows (program : M Unit) : Prop :=
  ∀ ready resumed start now, rxReturns resumed start now →
    program.Conforms ready rxWaits resumed start now
      fun resumed start _ now => rxReturns resumed start now

theorem deliverDataFrame_rx (skb : Skb) : RxFollows (deliverDataFrame skb) := by
  intro ready resumed start now returns
  simp only [deliverDataFrame, perform, pure_eq_ret, bind_eq_bind, conforms_bind,
    conforms_await, conforms_ret, conforms_ite, conforms_when, conforms_update]
  refine ⟨returns, fun answer later _ => ⟨fun _ => ?_, fun _ => ⟨fun _ => ?_, fun _ => ?_⟩⟩⟩
  · have subframes : Inert (fun call => call.rxPlace.quiet)
        (Prog.forEach (carriedMsdus skb.data) (deliverEthernet skb)) := fun ready now =>
      Guarantees.forEach (fun msdu _ now => deliverEthernet_inert skb msdu ready now) now
    exact (subframes.rx (fun _ => id) _ _ _ _ rfl rfl).mono (fun _ _ _ _ => id)
      fun _ _ _ _ returns => returns
  · exact (deliverMsdu_rx skb _ _ _ _ rfl rfl).mono (fun _ _ _ _ => id)
      fun _ _ _ _ returns => returns
  · exact .quiet (.inl rfl) (.inl rfl) _

theorem deliverReleased_rx (outcome : RxBaOutcome Skb) :
    RxFollows (deliverReleased outcome) := by
  intro ready resumed start now returns
  simp only [deliverReleased, bind_eq_bind, conforms_bind, conforms_when, conforms_update]
  refine (Conforms.forEach ?_ returns).mono (fun _ _ _ _ => id)
    fun _ _ _ _ returns => ⟨fun _ => returns, fun _ => returns⟩
  exact fun skb _ _ _ _ returns => deliverDataFrame_rx skb _ _ _ _ returns

theorem processRxData_rx (skb : Skb) :
    RxHandles (fun place _ => place = .calm) (processRxData skb) := by
  intro ready resumed start now calm same
  have returns : ∀ now : Ieee80211, now.control = start.control → rxReturns resumed start now := by
    intro now same
    simp [rxReturns, RxStep, calm, same]
  simp only [processRxData, bind_eq_bind, conforms_bind, conforms_fetch, conforms_ite]
  refine ⟨fun _ => returns _ same, fun _ => ?_⟩
  cases now.reorderTid skb.data with
  | none => exact deliverDataFrame_rx skb _ _ _ _ (returns _ same)
  | some tid => exact deliverReleased_rx _ _ _ _ _ (returns _ same)

theorem rxReorderFlushStale_rx : RxHandles (fun place _ => place = .calm) rxReorderFlushStale := by
  intro ready resumed start now calm same
  refine deliverReleased_rx _ _ _ _ _ ?_
  simp [rxReturns, RxStep, calm, same]

theorem rxFrame_rx (skb : Skb) : RxHandles (fun place _ => place = .calm) (rxFrame skb) := by
  intro ready resumed start now calm same
  have frees : rxReturns resumed start (now.kfreeSkb skb) := by
    simp [rxReturns, RxStep, calm, same]
  simp only [rxFrame, bind_eq_bind, conforms_bind, conforms_update, conforms_ite,
    conforms_when]
  refine ⟨fun _ => frees, fun _ => ⟨fun _ => processRxMgmt_rx skb _ _ _ _ calm same,
    fun _ => ⟨fun _ => ?_, fun _ => frees⟩⟩⟩
  apply (tryDeliverAWDLDataFrame_inert skb).conforms fun resumed start c =>
    rxOrigin resumed = .calm ∧ c = start.control
  · exact ⟨calm, same⟩
  · exact fun call answer later makes _ => ⟨makes, rfl⟩
  · rintro resumed start call now ⟨calm, same⟩ makes
    simp [rxWaits, RxStep, calm, same, makes]
  · rintro resumed start consumed now ⟨calm, same⟩
    refine ⟨fun _ => processRxData_rx skb _ _ _ _ calm same, fun _ => ?_⟩
    simp [rxReturns, RxStep, calm, same]

theorem reorderTimerFired_rx : RxHandles (fun place _ => place = .calm) M.reorderTimerFired :=
  fun _ _ _ _ calm same => rxReorderFlushStale_rx _ _ _ _ calm same

end M

end AirportRtw88
