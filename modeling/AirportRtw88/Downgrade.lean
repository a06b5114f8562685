import AirportRtw88.Steady

/-!
# Connecting with credentials

A `cmdConnect` that carries a PMK or a password should end in an encrypted link or not at all.
-/

namespace AirportRtw88

open Interleave Bytes

/-- The call carries a PMK or a password. -/
def ConnectArgs.HasCredentials (args : ConnectArgs) : Prop :=
  args.pmk.isSome = true ∨ args.password.any (fun password => password.cString ≠ []) = true

/-! ## What is selected -/

/-- What functions have in common that leave the scan cache alone. -/
def cached : Discipline Ieee80211 Call Answer where
  ready := (rtw88.guarded Ieee80211.Sound).ready
  stable := Ieee80211.Sound
  keeps resumed before after :=
    Ieee80211.Steady resumed before after ∧ after.bssList = before.bssList
  calls _ _ := True
  refl := fun _ s => ⟨.refl s, rfl⟩
  trans := fun _ _ _ _ early late => ⟨early.1.trans late.1, late.2.trans early.2⟩
  respected := fun _ _ => sound_of_ready
  preserved := fun _ _ _ sound keeps => keeps.1.sound sound

namespace M

open Ieee80211 Prog

abbrev IsCached {α : Type} (program : M α) : Prop :=
  program.Upholds cached

theorem IsQuiet.cached {α : Type} {program : M α} (isQuiet : IsQuiet program) :
    IsCached program :=
  isQuiet.mono rfl rfl
    (fun _ _ _ same => ⟨.of_link same, congrArg Link.cache same⟩)
    fun _ _ _ => trivial

theorem isCached_perform (call : Call) : IsCached (perform call) :=
  .bind (.await fun _ _ => trivial) fun _ => .ret ()

theorem abortActiveScan_isCached (waitForIdle : Bool) :
    IsCached (abortActiveScan waitForIdle) := by
  have gives : ∀ returnState, IsCached (Prog.update fun s => s.giveUpScan returnState) :=
    fun returnState => .update fun _ s _ =>
      ⟨.of_core rfl fun _ => ⟨rfl, state_of_scanReturn returnState⟩, rfl⟩
  have leaves : ∀ returnState, IsCached (leaveAbortedScan returnState) := by
    refine fun returnState => .bind .fetch fun s => .ite (.ite (.ret _) ?_) (.ret _)
    refine .bind (.when restoreConnectedChannel_isQuiet.cached) fun _ => ?_
    exact .bind (gives returnState) fun _ => .bind .fetch fun s => .ret _
  have waits : ∀ returnState, IsCached (do
      if !waitForIdle then return true
      else
        waitForScan 40
        leaveAbortedScan returnState) := fun returnState =>
    .ite (.ret _) (.bind (waitForScan_isQuiet 40).cached fun _ => leaves returnState)
  refine .bind .fetch fun s => .ite (.ret _) (.ite (.bind ?_ fun _ => waits _) (.bind ?_ ?_))
  · exact .update fun _ s _ =>
      ⟨.of_core rfl fun regular => ⟨regular.scans, regular.connects⟩, rfl⟩
  · exact .when (isCached_perform _)
  · exact fun _ => waits _

theorem clearKeys_isCached : IsCached clearKeys := by
  have disables : ∀ pairwise, IsCached (disableKey pairwise) := fun pairwise =>
    .bind .fetch fun s => .whenSome fun key => isCached_perform _
  refine .bind .fetch fun s => .bind (.when (.bind (disables true) fun _ => disables false)) ?_
  exact fun _ => .update fun _ s _ => ⟨steady_wipeKeys s, rfl⟩

theorem releaseSta_isCached : IsCached releaseSta := by
  refine .bind .fetch fun s => .when (.bind (.when (isCached_perform _)) fun _ => ?_)
  exact .update fun _ s _ =>
    ⟨.of_core rfl fun regular => ⟨regular.scans, regular.connects⟩, rfl⟩

end M

/-- The last block of an accepted `cmdConnect` commits to the entry that it selects. -/
def SelectStep (args : ConnectArgs) (start : Ieee80211) (stop : Stop Call IOReturn)
    (now : Ieee80211) : Prop :=
  stop = .returns .success → ∃ target, start.selectBss args = some target ∧
    target.unsupported args = false ∧ now.targetBSS = target ∧
    now.wpa2 = decide (target.cipher = cipherCcmp)

theorem cmdConnect_follows (args : ConnectArgs) {s : Ieee80211} (sound : s.Sound) :
    (rtw88.guarded Ieee80211.Sound).Follows (fun _ _ => SelectStep args) (.cmdConnect args)
      (M.cmdConnect args) none s := by
  unfold System.Follows M.cmdConnect
  rw [Prog.bind_eq_bind, Prog.conforms_bind]
  have waits : ∀ start now call, SelectStep args start (.waits call) now :=
    fun _ _ _ => (by rintro ⟨⟩)
  refine (((M.abortActiveScan_isCached true).upholdsFrom none).conforms s s sound
    (cached.refl _ _)).mono (fun _ _ _ _ _ => waits _ _ _) fun resumed start ended now held => ?_
  cases ended with
  | false => rintro ⟨⟩
  | true =>
    simp only [M.connectIdle, Prog.bind_eq_bind, Prog.pure_eq_ret, if_pos, Prog.conforms_bind,
      Prog.conforms_fetch, Prog.conforms_ite, Prog.conforms_ret]
    refine ⟨fun _ => by rintro ⟨⟩, fun _ => ⟨fun _ => by rintro ⟨⟩, fun _ =>
      ⟨fun _ => by rintro ⟨⟩, fun _ => ?_⟩⟩⟩
    refine ((M.clearKeys_isCached.upholdsFrom resumed).conforms start now held.1 held.2).mono
      (fun _ _ _ _ _ => waits _ _ _) fun resumed start _ now held => ?_
    refine ((M.releaseSta_isCached.upholdsFrom resumed).conforms start now held.1 held.2).mono
      (fun _ _ _ _ _ => waits _ _ _) fun resumed start _ now held => ?_
    have same : now.selectBss args = start.selectBss args := by
      unfold Ieee80211.selectBss
      rw [held.2.2]
    cases selected : now.selectBss args with
    | none => rintro ⟨⟩
    | some target =>
        simp only [Prog.conforms_bind, Prog.conforms_ite, Prog.conforms_update, Prog.conforms_ret]
        refine ⟨fun _ => by rintro ⟨⟩, fun supported _ => ⟨target, same ▸ selected, ?_, rfl, rfl⟩⟩
        simpa using supported

/-- What `cmdConnect` selects; the other operations are not looked at. -/
def ChoiceStep : System.BlockRelation Ieee80211 Call Answer Op IOReturn
  | .cmdConnect args => fun _ => SelectStep args
  | _ => fun _ _ _ _ => True

theorem respects_choiceStep : (rtw88.guarded Ieee80211.Sound).Respects ChoiceStep := by
  intro op s enabled
  by_cases connects : ∃ args, op = .cmdConnect args
  · obtain ⟨args, rfl⟩ := connects
    exact cmdConnect_follows args enabled.2
  · have any : ChoiceStep op = fun _ _ _ _ => True := by
      cases op <;> first | rfl | exact absurd ⟨_, rfl⟩ connects
    unfold System.Follows
    rw [any]
    exact Prog.conforms_true _ _ _ _

/-- What the blocks of `cmdConnect` select, and what keeps the state sound. -/
def SelectsStep : System.BlockRelation Ieee80211 Call Answer Op IOReturn :=
  fun op resumed start stop now =>
    KeyStep op resumed start stop now ∧ ChoiceStep op resumed start stop now

theorem choiceStep_of_reachable {config config' : DriverConfig} {move : DriverMove}
    (reachable : rtw88.Reachable Ieee80211.initial config)
    (taken : rtw88.Step config move config') :
    ChoiceStep move.op move.resumed config.state move.stop config'.state := by
  obtain ⟨s, initial, run⟩ := reachable
  have respects : (rtw88.guarded Ieee80211.Sound).Respects SelectsStep :=
    respects_keyStep.and respects_choiceStep
  have stays : ∀ op resumed start stop now, SelectsStep op resumed start stop now →
      start.Sound → now.Sound :=
    fun op resumed start stop now step => keyStep_sound op resumed start stop now step.1
  have tracked := (System.tracked_nil SelectsStep initial.sound).invariant respects stays
    (fun _ _ _ _ _ _ _ _ => trivial) trivial run
  exact (tracked.1.related respects stays taken).1.2

/-! ## What keeps the link encrypted -/

theorem Control.Idles.wpa2 {before after : Control} (idles : before.Idles after) :
    after.wpa2 = before.wpa2 :=
  idles.keeps.2.2.1

theorem RxStep.wpa2 {place place' : RxPlace} {before after : Control}
    (step : RxStep place before place' after) : after.wpa2 = before.wpa2 := by
  cases place <;>
    simp only [RxStep, PublishStep, ShakeStep] at step <;> grind

theorem TimerStep.wpa2 {resumed stop} {before after : Control}
    (step : TimerStep resumed before stop after) : after.wpa2 = before.wpa2 := by
  have tears : ∀ before, TearStep before stop after → after.wpa2 = before.wpa2 :=
    fun _ step => step.idles.wpa2
  unfold TimerStep at step
  split at step
  · split at step <;> grind
  all_goals grind

theorem CancelStep.wpa2 {resumed stop} {before after : Control}
    (step : CancelStep resumed before stop after) : after.wpa2 = before.wpa2 := by
  rcases resumed with _ | ⟨call, answer⟩
  · obtain ⟨-, canceled, rfl⟩ := step
    rfl
  · rcases step with ⟨-, -, canceled, rfl⟩ | ⟨-, -, rfl⟩ | ⟨-, -, -, idles, -⟩
    · rfl
    · rfl
    · rw [idles.wpa2]
      unfold Call.cancelMid
      split <;> rfl

/-- The operation commits to a target. -/
def Commits (move : DriverMove) : Prop :=
  ∃ args, move.op = .cmdConnect args ∧ move.stop = .returns .success

theorem kind_connects {op : Op} (connects : op.kind = .connects) :
    ∃ args, op = .cmdConnect args := by
  cases op <;> simp [Op.kind] at connects ⊢

/-- Only `cmdConnect` decides whether the link is encrypted. -/
theorem OpStep.wpa2 {move : DriverMove} {start now : Ieee80211}
    (step : OpStep move.op move.resumed start move.stop now) (stays : ¬ Commits move) :
    now.wpa2 = start.wpa2 := by
  change now.control.wpa2 = start.control.wpa2
  unfold OpStep at step
  cases kind : move.op.kind with
  | receives => exact RxStep.wpa2 (kind ▸ step)
  | times => exact TimerStep.wpa2 (kind ▸ step)
  | authenticates =>
      rw [kind] at step
      cases resumed : move.resumed with
      | none =>
          rw [resumed] at step
          simp only [OpKind.Step, ConnectStep] at step
          split at step <;> obtain ⟨-, rfl⟩ := step <;> rfl
      | some resumption =>
          obtain ⟨call, answer⟩ := resumption
          rw [resumed] at step
          have step : ConnectStep (some (call, answer)) start move.stop now := step
          rcases step.control with ⟨_, -, -, same⟩ | ⟨-, same | ⟨-, -, same⟩⟩ <;>
            rw [same] <;> rfl
  | scans =>
      rw [kind] at step
      cases resumed : move.resumed <;> rw [resumed] at step <;>
        grind [OpKind.Step, CmdScanStep]
  | connects =>
      obtain ⟨-, mid, ends, ⟨-, same⟩ | ⟨accepted, -⟩⟩ : CmdConnectStep _ _ _ := kind ▸ step
      · rw [same]
        rcases ends with rfl | ⟨-, idles⟩
        · rfl
        · exact idles.wpa2
      · exact absurd ⟨_, (kind_connects kind).choose_spec, accepted⟩ stays
  | cancels => exact CancelStep.wpa2 (kind ▸ step)
  | keeps =>
      obtain ⟨same | ⟨-, idles⟩, -⟩ : ScanKeeps start now ∧ _ := kind ▸ step
      · rw [same]
      · exact idles.wpa2

/-! ## Downgrades -/

/-- The target is a WPA2 network, and no continuation connects to it without encryption. -/
structure Secured (config : DriverConfig) : Prop where
  privacy : config.state.targetBSS.privacy = true
  cipher : config.state.targetBSS.cipher = cipherCcmp
  akm : config.state.targetBSS.akm = akmPsk
  wpa2 : config.state.wpa2 = true
  stays : ∀ later, rtw88.Reaches (fun _ move _ => ¬ Commits move) config later →
    later.state.state = .connected → later.state.wpa2 = true

/-- The step accepts a call that carries credentials. -/
structure Accepts (move : DriverMove) (args : ConnectArgs) : Prop where
  op : move.op = .cmdConnect args
  accepted : move.stop = .returns .success
  credentials : args.HasCredentials

/-- Every accepted call with credentials is secured. -/
def NeverDowngraded : Prop :=
  ∀ (config config' : DriverConfig) (move : DriverMove) (args : ConnectArgs),
    rtw88.Reachable Ieee80211.initial config → rtw88.Step config move config' →
      Accepts move args → Secured config'

/-- An accepted call with credentials is secured exactly if the condition holds. -/
def SecuredExactlyWhen (condition : Ieee80211 → ConnectArgs → Prop)
    (config config' : DriverConfig) (move : DriverMove) (args : ConnectArgs) : Prop :=
  rtw88.Reachable Ieee80211.initial config → rtw88.Step config move config' →
    Accepts move args → (Secured config' ↔ condition config.state args)

/-- A call with a password is secured exactly if the entry that it selects announces
privacy; a PMK is only accepted for such an entry. -/
theorem secured_iff_privacy (config config' : DriverConfig) (move : DriverMove)
    (args : ConnectArgs) :
    SecuredExactlyWhen (fun s args => (s.selectBss args).any Bss.privacy = true) config config'
      move args := by
  intro reachable taken accepts
  have choice := choiceStep_of_reachable reachable taken
  rw [accepts.op] at choice
  obtain ⟨target, selected, supported, isTarget, isWpa2⟩ := choice accepts.accepted
  dsimp only
  rw [selected, Option.any_some]
  refine ⟨fun secured => isTarget ▸ secured.privacy, fun privacy => ?_⟩
  simp only [Bss.unsupported, privacy, decide_eq_false_iff_not, true_and, not_or,
    not_not] at supported
  have wpa2 : config'.state.wpa2 = true := by simp [isWpa2, supported]
  refine ⟨isTarget ▸ privacy, ?_, ?_, wpa2, fun later run _ => ?_⟩
  · simp [isTarget, supported]
  · simp [isTarget, supported]
  · obtain ⟨s, initial, reached⟩ := reachable
    have tracked := ((tracked_initial initial).run (fun _ _ _ _ _ _ _ => trivial) trivial reached).1
    let holds (config : DriverConfig) : Prop := config.state.wpa2 = true
    have kept : Tracked later ∧ holds later :=
      (tracked.step taken).2.run (fun _ _ _ _ stays step held => (step.wpa2 stays).trans held)
        wpa2 run
    exact kept.2

namespace Scenario

/-- A password is given, and an open network of the same name is in range. -/
def withPassword : ConnectArgs :=
  { toNetwork none false with password := some [112, 97, 115, 115] }

def downgraded : Option Bool := do
  let config ← play (scan (beacon 1 []))
  let (move, config') ← rtw88.turn config (.start (.cmdConnect withPassword) [])
  return move.op = .cmdConnect withPassword && move.stop = .returns .success &&
    !config'.state.targetBSS.privacy

theorem downgraded_true : downgraded = some true := by
  decide +kernel

end Scenario

theorem not_neverDowngraded : ¬ NeverDowngraded := by
  intro secured
  have run := Scenario.downgraded_true
  simp only [Scenario.downgraded, Option.bind_eq_bind, Option.bind_eq_some_iff, Prod.exists,
    Option.pure_def, Option.some.injEq, Bool.and_eq_true, decide_eq_true_eq] at run
  obtain ⟨config, played, move, config', turn, ⟨own, accepted⟩, isOpen⟩ := run
  have privacy := (secured config config' move Scenario.withPassword
    (Scenario.reachable_of_play played) (System.step_of_turn turn)
    ⟨own, accepted, .inr (by decide)⟩).privacy
  simp [privacy] at isOpen

end AirportRtw88
