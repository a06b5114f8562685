import AirportRtw88.ScanSteps

/-!
# The steps of the authentication thread call

The thread call goes on after a request only if it has not loaded the cancelled
flag as set, and every flag that it loads is that of the moment.
-/

namespace AirportRtw88

open Interleave Bytes

/-- Whether `doAuthenticate` goes on after a request. -/
def Call.proceeds : Call → Bool
  | .load _ cancelled => !cancelled
  | _ => true

/-- Whether `doAuthenticate` still has to hand over its frame after a request. -/
def Call.beforeSend : Call → Bool
  | .load .authenticateSent _ => false
  | .tx _ _ => false
  | call => call.proceeds

/-- Whether `doAuthenticate` writes the channel or the BSSID after a request. -/
def Call.setsRadio : Call → Bool
  | .load .authenticateSettled false => true
  | .load .authenticateSetup false => true
  | _ => false

/-- The requests that may follow another one in `doAuthenticate`. -/
structure Call.LeadsTo (call : Call) (cancelled : Bool) (next : Call) : Prop where
  proceeds : call.proceeds = true
  loads : ∀ check loaded, next = .load check loaded → loaded = cancelled
  sends : ∀ site skb, next = .tx site skb → call = .load .authenticateSend false
  programs : ∀ bssid, next = .connectHwSetup bssid → call = .load .authenticateSettled false
  approaches : next.beforeSend = true → call.beforeSend = true

/-- How `doAuthenticate` may end after a request. -/
def AuthEnds (call : Call) (start now : Ieee80211) : Prop :=
  (call.proceeds = false ∧ now = start) ∨
    ((call = .load .authenticateEntry false ∨ call = .load .authenticateScanDone false) ∧
      now = start) ∨
    (call = .load .authenticateSent false ∧
      now = if start.state = .authenticating then start.wakeAtTime 3000 else start)

/-- `now` differs from `start` only as a block of `doAuthenticate` after `call` may make it
differ while the block goes on. -/
structure AuthKeeps (call : Call) (start now : Ieee80211) : Prop where
  control : now.control = start.control
  radio : call.setsRadio = false → now.hw = start.hw ∧ now.vif = start.vif

def ConnectStep : Option (Call × Answer) → Ieee80211 → Stop Call IOReturn → Ieee80211 → Prop
  | none, start, stop, now =>
      if start.connectTC.canceling then
        (∃ value, stop = .returns value) ∧
          now = (start.withConnectTC start.connectTC.dispatch).withConnectTC
            start.connectTC.dispatch.finish
      else
        stop = .waits (.load .authenticateEntry start.connectCancelled) ∧
          now = start.withConnectTC start.connectTC.dispatch
  | some (call, _), start, stop, now =>
      (∃ next, stop = .waits next ∧ call.LeadsTo start.connectCancelled next ∧
        AuthKeeps call start now) ∨
      ((∃ value, stop = .returns value) ∧ ∃ ended, AuthEnds call start ended ∧
        now = ended.withConnectTC ended.connectTC.finish)

def authWaits (resumed : Option (Call × Answer)) (start : Ieee80211) (request : Call)
    (now : Ieee80211) : Prop :=
  ConnectStep resumed start (.waits request) now

/-- A block of `doAuthenticate` that goes on; `onTheWay` tells whether its frame is still
to be sent. -/
def authAt (onTheWay : Bool) (resumed : Option (Call × Answer)) (start now : Ieee80211) : Prop :=
  ∃ call answer, resumed = some (call, answer) ∧ call.proceeds = true ∧
    (onTheWay = true → call.beforeSend = true) ∧ AuthKeeps call start now

def authEnds (resumed : Option (Call × Answer)) (start now : Ieee80211) : Prop :=
  ∃ call answer, resumed = some (call, answer) ∧ AuthEnds call start now

theorem AuthKeeps.refl (call : Call) (s : Ieee80211) : AuthKeeps call s s :=
  ⟨rfl, fun _ => ⟨rfl, rfl⟩⟩

theorem authAt.loads {onTheWay resumed start now} (at_ : authAt onTheWay resumed start now)
    (check : CancelCheck) (sent : onTheWay = false → check = .authenticateSent) :
    authWaits resumed start (.load check now.connectCancelled) now := by
  obtain ⟨call, answer, rfl, proceeds, onTheWay, keeps⟩ := at_
  refine .inl ⟨_, rfl, ⟨proceeds, ?_, nofun, nofun, ?_⟩, keeps⟩
  · rintro check loaded ⟨⟩
    exact (Ieee80211.tests_of_control_eq keeps.control).2.1
  · intro approaches
    cases way : ‹Bool› with
    | true => exact onTheWay way
    | false =>
        rw [sent way] at approaches
        simp [Call.beforeSend] at approaches

theorem authAt_resumed {call : Call} (beforeSend : call.beforeSend = true)
    (proceeds : call.proceeds = true) (answer : Answer) (later : Ieee80211) :
    authAt true (some (call, answer)) later later :=
  ⟨call, answer, rfl, proceeds, fun _ => beforeSend, .refl _ _⟩

theorem authAt_sent (skb : TxSkb) (answer : Answer) (later : Ieee80211) :
    authAt false (some (.tx .authenticate skb, answer)) later later :=
  ⟨_, answer, rfl, rfl, nofun, .refl _ _⟩

/-- A thread that has loaded the cancelled flag as set ends. -/
theorem authEnds_stopped (check : CancelCheck) (answer : Answer) (later : Ieee80211) :
    authEnds (some (.load check true, answer)) later later :=
  ⟨_, answer, rfl, .inl ⟨rfl, rfl⟩⟩

namespace M

open Ieee80211 Prog

theorem authenticationCancelled_auth (check : CancelCheck) {onTheWay ready resumed start now}
    (at_ : authAt onTheWay resumed start now)
    (sent : onTheWay = false → check = .authenticateSent)
    {post : Option (Call × Answer) → Ieee80211 → Bool → Ieee80211 → Prop}
    (stops : ∀ answer later, post (some (.load check true, answer)) later true later)
    (goesOn : ∀ answer later, post (some (.load check false, answer)) later false later) :
    (authenticationCancelled check).Conforms ready authWaits resumed start now post := by
  simp only [authenticationCancelled, perform, pure_eq_ret, bind_eq_bind, conforms_bind,
    conforms_fetch, conforms_await, conforms_ret]
  refine ⟨at_.loads check sent, fun answer later _ => ?_⟩
  cases now.connectCancelled
  · exact goesOn answer later
  · exact stops answer later

theorem waitForDriver_auth (rounds : Nat) {ready resumed start now}
    (at_ : authAt true resumed start now) :
    (waitForDriver rounds).Conforms ready authWaits resumed start now
      fun resumed start cancelled now =>
        if cancelled then authEnds resumed start now else authAt true resumed start now := by
  induction rounds generalizing resumed start now with
  | zero => exact at_
  | succ rounds ih =>
      simp only [waitForDriver, bind_eq_bind, conforms_bind]
      apply authenticationCancelled_auth _ at_ (by rintro ⟨⟩)
      · exact fun answer later => authEnds_stopped _ answer later
      · intro answer later
        have checked : authAt true (some (.load .authenticateScanWait false, answer)) later later :=
          authAt_resumed rfl rfl answer later
        simp only [driverScanning, perform, pure_eq_ret, bind_eq_bind, conforms_bind,
          conforms_choose, conforms_ite, conforms_await, conforms_ret]
        refine ⟨by rintro ⟨⟩, fun _ scanning => ⟨fun _ => ⟨?_, fun answer later _ => ?_⟩,
          fun _ => checked⟩⟩
        · exact .inl ⟨_, rfl,
            ⟨rfl, by rintro _ _ ⟨⟩, by rintro _ _ ⟨⟩, by rintro _ ⟨⟩, fun _ => rfl⟩, .refl _ _⟩
        · exact ih (authAt_resumed rfl rfl answer later)

theorem awaitAuthResponse_auth {onTheWay ready resumed start now}
    (at_ : authAt onTheWay resumed start now) :
    (authenticationCancelled .authenticateSent).Conforms ready authWaits resumed start now
      fun resumed start cancelled now =>
        ((!cancelled && now.state = .authenticating) = true →
          authEnds resumed start (now.wakeAtTime 3000)) ∧
        ((!cancelled && now.state = .authenticating) = false → authEnds resumed start now) := by
  apply authenticationCancelled_auth _ at_ fun _ => rfl
  · exact fun answer later =>
      ⟨fun armed => by simp at armed, fun _ => authEnds_stopped _ answer later⟩
  · refine fun answer later => ⟨fun armed => ?_, fun left => ?_⟩ <;>
      refine ⟨_, answer, rfl, .inr (.inr ⟨rfl, ?_⟩)⟩ <;>
      simp_all

theorem sendAuthentication_auth (frame : Bytes) {ready resumed start now}
    (at_ : authAt true resumed start now) :
    (sendAuthentication frame).Conforms ready authWaits resumed start now
      fun resumed start _ now => authEnds resumed start now := by
  simp only [sendAuthentication, txMgmtFrame, succeeds, submit, perform, pure_eq_ret,
    bind_eq_bind, conforms_bind, conforms_fetch, conforms_when, conforms_choose,
    conforms_ite, conforms_await, conforms_ret, conforms_update]
  apply authenticationCancelled_auth _ at_ (by rintro ⟨⟩)
  · exact fun answer later =>
      ⟨fun sent => by simp at sent, fun _ => authEnds_stopped _ answer later⟩
  · intro answer later
    have checked : authAt true (some (.load .authenticateSend false, answer)) later later :=
      authAt_resumed rfl rfl answer later
    refine ⟨fun _ => ⟨fun _ => awaitAuthResponse_auth checked, fun _ _ =>
      ⟨fun _ => awaitAuthResponse_auth checked, fun _ => ⟨?_, fun answer later _ => ?_⟩⟩⟩,
      fun sent => by simp at sent⟩
    · exact .inl ⟨_, rfl, ⟨rfl, by rintro _ _ ⟨⟩, fun _ _ _ => rfl, by rintro _ ⟨⟩, by rintro ⟨⟩⟩,
        ⟨rfl, fun _ => ⟨rfl, rfl⟩⟩⟩
    · exact awaitAuthResponse_auth (authAt_sent _ answer later)

/-- Between the programming of the channel and the transmission. -/
theorem clearsAssoc_auth (bssid : Bytes) {ready} (answer : Answer) (later : Ieee80211) :
    (authenticationCancelled .authenticateSetup).Conforms ready authWaits
      (some (.connectHwSetup bssid, answer)) later later
      fun resumed start cancelled now =>
        ((!cancelled) = true →
          (sendAuthentication now.clearVifAssoc.authReq).Conforms ready authWaits resumed start
            now.clearVifAssoc.bumpTxSeq fun resumed start _ now => authEnds resumed start now) ∧
        ((!cancelled) = false → authEnds resumed start now) := by
  have programmed : authAt true (some (.connectHwSetup bssid, answer)) later later :=
    authAt_resumed rfl rfl answer later
  apply authenticationCancelled_auth _ programmed nofun
  · exact fun answer later =>
      ⟨fun sent => by simp at sent, fun _ => authEnds_stopped _ answer later⟩
  · refine fun answer later => ⟨fun _ => sendAuthentication_auth _ ?_, fun sent => by simp at sent⟩
    exact ⟨_, answer, rfl, rfl, fun _ => rfl, rfl, nofun⟩

theorem setupAuthentication_auth {ready resumed start now}
    (at_ : authAt true resumed start now) :
    setupAuthentication.Conforms ready authWaits resumed start now
      fun resumed start _ now => authEnds resumed start now := by
  simp only [setupAuthentication, perform, pure_eq_ret, bind_eq_bind, conforms_bind,
    conforms_fetch, conforms_when, conforms_whenSome, conforms_await, conforms_ret,
    conforms_update]
  apply authenticationCancelled_auth _ at_ (by rintro ⟨⟩)
  · exact fun answer later =>
      ⟨fun sent => by simp at sent, fun _ => authEnds_stopped _ answer later⟩
  · intro answer later
    have settled : ∀ now : Ieee80211, now.control = later.control → ∀ bssid,
        authWaits (some (.load .authenticateSettled false, answer)) later
          (.connectHwSetup bssid) now := fun now same bssid =>
      .inl ⟨_, rfl, ⟨rfl, by rintro _ _ ⟨⟩, by rintro _ _ ⟨⟩, fun _ _ => rfl, fun _ => rfl⟩,
        same, by rintro ⟨⟩⟩
    refine ⟨fun _ => ⟨fun chan _ => ⟨settled (later.setConnectedChandef chan) rfl _,
      fun answer later _ => clearsAssoc_auth _ answer later⟩,
      fun _ => ⟨settled _ rfl _, fun answer later _ => clearsAssoc_auth _ answer later⟩⟩,
      fun sent => by simp at sent⟩

theorem settleAuthentication_auth {ready resumed start now}
    (at_ : authAt true resumed start now) :
    settleAuthentication.Conforms ready authWaits resumed start now
      fun resumed start _ now => authEnds resumed start now := by
  simp only [settleAuthentication, driverScanning, perform, pure_eq_ret, bind_eq_bind,
    conforms_bind, conforms_when, conforms_await, conforms_ret, conforms_choose]
  refine (waitForDriver_auth 100 at_).mono (fun _ _ _ _ => id)
    fun resumed start cancelled now waited => ?_
  cases cancelled
  · refine ⟨fun _ => ?_, by rintro ⟨⟩⟩
    apply authenticationCancelled_auth _ waited (by rintro ⟨⟩)
    · exact fun answer later => ⟨by rintro ⟨⟩, fun _ => authEnds_stopped _ answer later⟩
    · refine fun answer later => ⟨fun _ scanning => ⟨fun _ => ⟨?_, fun answer later _ => ?_⟩,
        fun _ => ?_⟩, by rintro ⟨⟩⟩
      · exact .inl ⟨_, rfl,
          ⟨rfl, by rintro _ _ ⟨⟩, by rintro _ _ ⟨⟩, by rintro _ ⟨⟩, fun _ => rfl⟩, .refl _ _⟩
      · exact setupAuthentication_auth (authAt_resumed rfl rfl answer later)
      · exact ⟨_, answer, rfl, .inr (.inl ⟨.inr rfl, rfl⟩)⟩
  · exact ⟨by rintro ⟨⟩, fun _ => waited⟩

/-- The thread call from its dispatch on. -/
theorem connectCall_auth {ready} (start : Ieee80211) :
    M.connectCall.Conforms ready authWaits none start start
      fun resumed start _ now => ∀ value, ConnectStep resumed start (.returns value) now := by
  simp only [M.connectCall, doAuthenticate, authenticationCancelled, perform, pure_eq_ret,
    bind_eq_bind, conforms_bind, conforms_fetch, conforms_when, conforms_await, conforms_ret,
    conforms_update]
  have returns : ∀ resumed (start now : Ieee80211), authEnds resumed start now → ∀ value,
      ConnectStep resumed start (.returns value) (now.withConnectTC now.connectTC.finish) := by
    rintro _ start now ⟨call, answer, rfl, ends⟩ value
    exact .inr ⟨⟨value, rfl⟩, now, ends, rfl⟩
  refine ⟨fun runs => ⟨?_, fun answer later _ => ⟨fun goesOn => ?_, fun stops => ?_⟩⟩,
    fun skips value => ?_⟩
  · rw [Bool.not_eq_true'] at runs
    simp only [authWaits, ConnectStep, runs]
    exact ⟨rfl, trivial⟩
  · simp only [Bool.and_eq_true, Bool.not_eq_true'] at goesOn
    refine (settleAuthentication_auth (authAt_resumed ?_ ?_ answer later)).mono
      (fun _ _ _ _ => id) fun _ _ _ _ ends => returns _ _ _ ends <;>
      simp [Call.beforeSend, Call.proceeds, goesOn]
  · refine returns _ _ _ ⟨_, answer, rfl, ?_⟩
    cases loaded : (start.withConnectTC start.connectTC.dispatch).connectCancelled
    · exact .inr (.inl ⟨.inl rfl, rfl⟩)
    · exact .inl ⟨rfl, rfl⟩
  · rw [Bool.not_eq_false'] at skips
    simp only [ConnectStep, skips]
    exact ⟨⟨value, rfl⟩, rfl⟩

end M

end AirportRtw88
