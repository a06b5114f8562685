import AirportRtw88.RxWalks

/-!
# The link status

The status that was last published through the parent says whether the association is up,
unless `stop` finds a connection whose power is off.  Before the first publication the
status is the one that the controller class published when it attached.
-/

namespace AirportRtw88

open Interleave Bytes

/-- The controller classes that own a `RTW88IEEE80211`. -/
inductive Controller : Type where
  | airportRTW88
  | rtw88PCIDevice
  deriving DecidableEq, Repr

/-- Whether the status that the class publishes when it attaches is active. -/
def Controller.attachStatus : Controller → Bool
  | .airportRTW88 => false
  | .rtw88PCIDevice => true

/-- `stop` finds an association that is up only with the power on: else it does not
disconnect. -/
def Op.StopsPowered (op : Op) (l : Link) : Prop :=
  op = .stop → l.up = true → l.powered = true

/-- The status that was last published through the parent, while operations start only if
they are admitted. -/
def publications (admits : Op → Link → Prop) : LinkObserver (Option Bool) where
  starts op l _ := admits op l
  begins _ _ published := published
  sees sight _ published :=
    match sight with
    | .announced active => some active
    | _ => published
  allows _ _ _ := True

/-- The status, published by the driver or at first by the controller class, is active if and
only if the association is up. -/
def StatusAgrees (controller : Controller) (published : Option Bool) (l : Link) : Prop :=
  published.getD controller.attachStatus = true ↔ l.up = true

/-- The status agrees with the link after every admitted operation. -/
def LinkStatusAgrees (admits : Op → Link → Prop) (controller : Controller) (s : Ieee80211) :
    Prop :=
  s.initial → s.parent = true →
    ∀ now, rtw88.Watched (publications admits).watch (⟨s, []⟩, none) now →
      now.1.threads = [] → StatusAgrees controller now.2 now.1.state.link

/-- Whether the status agrees depends on the controller class before the first publication, and
on nothing afterwards. -/
def LinkStatusAgreesOncePublished (admits : Op → Link → Prop) (controller : Controller)
    (s : Ieee80211) : Prop :=
  s.initial → s.parent = true →
    ∀ now, rtw88.Watched (publications admits).watch (⟨s, []⟩, none) now →
      now.1.threads = [] →
        (StatusAgrees controller now.2 now.1.state.link ↔
          controller = .airportRTW88 ∨ now.2.isSome = true)

section

variable {γ : Type} {observer : LinkObserver γ} {op : Op} {first : Ieee80211 × γ}
  {s t : Ieee80211} {r : γ}

/-! ## The interface and the hardware -/

/-- The interface and the hardware are there until `stop` takes both. -/
def Link.Attached (l : Link) : Prop :=
  l.vif = none ∨ l.ops = none → l.Stopped

theorem Link.Attached.powers {l : Link} (attached : l.Attached) (powered : l.powered = true) :
    l.vif ≠ none ∧ l.ops ≠ none := by
  refine not_or.mp fun gone => ?_
  simp [(attached gone).powered] at powered

theorem Link.Attached.busy {l : Link} (attached : l.Attached) (busy : l.state ≠ .idle) :
    l.vif ≠ none ∧ l.ops ≠ none :=
  not_or.mp fun gone => busy (attached gone).state

/-- `doDisconnect` finds no interface or no hardware only after `stop`. -/
theorem Link.Attached.stopped (attached : s.link.Attached)
    (gone : s.hw.isNone = true ∨ s.vif.isNone = true) : s.link.Stopped := by
  refine attached (gone.symm.imp Option.isNone_iff_eq_none.mp fun noHw => ?_)
  exact Option.map_eq_none_iff.mpr (Option.isNone_iff_eq_none.mp noHw)

/-- A change that keeps the interface and the hardware, and the power and the state of a link
without them. -/
theorem Link.Attached.of_same {l l' : Link} (attached : l.Attached)
    (vif : l'.vif = none ↔ l.vif = none) (ops : l'.ops = l.ops)
    (stays : l.Stopped → l'.state = .idle ∧ l'.powered = false) : l'.Attached := by
  intro gone
  have stopped := attached (by rwa [vif, ops] at gone)
  obtain ⟨state, powered⟩ := stays stopped
  exact ⟨state, vif.mpr stopped.vif, ops.trans stopped.ops, powered⟩

theorem Change.attached {target : Ieee80211} {announced : Option Bool} (notStop : op ≠ .stop)
    (change : Change observer op first (s, r) target announced) (attached : s.link.Attached) :
    target.link.Attached := by
  have busy : ∀ {goal : Prop}, s.state ≠ .idle → s.link.Stopped → goal :=
    fun moves stopped => absurd stopped.state moves
  have powers : ∀ {goal : Prop}, s.powered = true → s.link.Stopped → goal :=
    fun powered stopped => absurd (powered.symm.trans stopped.powered) (by decide)
  have modified : ∀ change : Vif → Vif, (s.modifyVif change).vif = none ↔ s.vif = none :=
    fun change => Option.map_eq_none_iff
  cases change with
  | quiet | cached | wiped | targeted | dialog | m1 | emptied | keyed | keyedExternally | sent
  | registered | rxAgreed | txAgreed =>
      exact attached.of_same Iff.rfl rfl fun stopped => ⟨stopped.state, stopped.powered⟩
  | released =>
      rw [Ieee80211.link_withoutSta]
      exact attached.of_same (by simp) (by simp)
        (by simp +contextual [Link.Stopped.state, Link.Stopped.powered])
  | deauthenticated => exact attached.of_same Iff.rfl rfl fun stopped => ⟨rfl, stopped.powered⟩
  | unassociated | vifCleared =>
      exact attached.of_same (modified _) rfl fun stopped => ⟨stopped.state, stopped.powered⟩
  | vifAssociated isRx associates associating =>
      exact attached.of_same (modified _) rfl (busy (by simp [associating]))
  | scanBegan idle powered => exact attached.of_same Iff.rfl rfl (powers powered)
  | committed isConnect began fresh idle powered =>
      exact attached.of_same Iff.rfl rfl (powers powered)
  | gaveUp phase => exact attached.of_same Iff.rfl rfl fun stopped => ⟨rfl, stopped.powered⟩
  | abandoned | disconnected | switchedOff =>
      exact attached.of_same Iff.rfl rfl fun stopped => ⟨rfl, stopped.powered⟩
  | associating phase => exact attached.of_same Iff.rfl rfl (busy (by simp [phase]))
  | handshaking phase => exact attached.of_same Iff.rfl rfl (busy (by simp [phase]))
  | opened phase => exact attached.of_same Iff.rfl rfl (busy (by simp [phase]))
  | completed shaking => exact attached.of_same Iff.rfl rfl (busy (by simp [shaking.state]))
  | poweredOn hw =>
      refine attached.of_same Iff.rfl rfl fun stopped => ?_
      have gone : s.hw = none := Option.map_eq_none_iff.mp stopped.ops
      simp [gone] at hw
  | poweredOff => exact attached.of_same Iff.rfl rfl fun stopped => ⟨stopped.state, rfl⟩
  | interfaceRemoved isStop => exact absurd isStop notStop
  | hardwareRemoved isStop => exact absurd isStop notStop

/-- Every operation leaves the interface and the hardware attached, or both taken. -/
theorem Walk.attached (walk : Walk observer op first t r) (finishes : op.Finishes first t)
    (attached : first.1.link.Attached) : t.link.Attached := by
  by_cases isStop : op = .stop
  · exact fun _ => finishes.stopped isStop
  · exact walk.invariant (fun l _ => l.Attached) attached
      (fun _ _ _ _ change held => change.attached isStop held) (fun _ _ _ _ held => held)
      fun _ _ _ held => held

theorem Ieee80211.initial.attached {s : Ieee80211} (initial : s.initial) : s.link.Attached := by
  obtain ⟨attached, -, rfl⟩ := initial
  exact nofun

/-! ## The published status -/

/-- There is a parent, and the status published last is active exactly in `CONNECTED`. -/
structure Link.Published (l : Link) (published : Option Bool) : Prop where
  parent : l.parent = true
  active : published = some true ↔ l.state = .connected

section

variable {admits : Op → Link → Prop} {first : Ieee80211 × Option Bool} {r : Option Bool}

theorem Change.published {target : Ieee80211} {announced : Option Bool}
    (sound : first.1.Sound) (attached : first.1.link.Attached)
    (admitted : op.StopsPowered first.1.link)
    (change : Change (publications admits) op first (s, r) target announced)
    (held : s.link.Published r) :
    target.link.Published ((publications admits).announce announced target r) := by
  have announces : ∀ active, announced = some active → target.parent = s.parent →
      (active = true ↔ target.state = .connected) →
      target.link.Published ((publications admits).announce announced target r) := by
    intro active publishes parent agrees
    have parent : target.parent = true := parent.trans held.parent
    subst publishes
    refine ⟨parent, ?_⟩
    simp [LinkObserver.announce, parent, publications]
    exact agrees
  -- What is not published neither enters nor leaves `CONNECTED`.
  have moves : ∀ {phase}, s.state = phase → phase ≠ .connected → target.parent = s.parent →
      target.state ≠ .connected → target.link.Published r := by
    intro phase before other parent after
    have before : s.link.state ≠ .connected := fun connected => other (before.symm.trans connected)
    exact ⟨parent.trans held.parent, iff_of_false (before ∘ held.active.mp) after⟩
  cases change with
  | quiet | cached | wiped | unassociated | targeted | vifCleared | registered | vifAssociated
  | dialog | m1 | emptied | keyed | keyedExternally | sent | rxAgreed | txAgreed | poweredOn
  | poweredOff | interfaceRemoved => exact ⟨held.parent, held.active⟩
  | released =>
      rw [Ieee80211.link_withoutSta]
      exact ⟨(Link.parent_withoutSta _).trans held.parent,
        held.active.trans (by rw [Link.state_withoutSta])⟩
  | scanBegan idle => exact moves idle (by rintro ⟨⟩) rfl (by rintro ⟨⟩)
  | committed isConnect began fresh idle => exact moves idle (by rintro ⟨⟩) rfl (by rintro ⟨⟩)
  | gaveUp phase =>
      rcases phase with phase | phase | phase <;>
        exact moves phase (by rintro ⟨⟩) rfl (by rintro ⟨⟩)
  | associating phase => exact moves phase (by rintro ⟨⟩) rfl (by rintro ⟨⟩)
  | handshaking phase => exact moves phase (by rintro ⟨⟩) rfl (by rintro ⟨⟩)
  | opened | completed => exact announces true rfl rfl (by simp [Ieee80211.setState])
  | deauthenticated | disconnected | switchedOff =>
      exact announces false rfl rfl (iff_of_false (by rintro ⟨⟩) (by rintro ⟨⟩))
  | abandoned same gone =>
      have attached : s.link.Attached := same ▸ attached
      exact moves (attached.stopped gone).state (by rintro ⟨⟩) rfl (by rintro ⟨⟩)
  | hardwareRemoved isStop removed left =>
      have idle : s.state ≠ .connected := by
        rcases left with idle | ⟨stays, same, -⟩
        · exact ne_of_eq_of_ne idle (by rintro ⟨⟩)
        · rintro connected
          have up := (up_link_iff sound).mpr (same.symm.trans connected)
          have powered := admitted isStop up
          simp [isStop, Op.tearsDown, up, powered] at stays
      exact moves rfl idle rfl (by rintro ⟨⟩)

/-- Between the operations the interface and the hardware are attached, and the status agrees. -/
theorem published_of_watched {s : Ieee80211} (initial : s.initial) (parent : s.parent = true)
    {now : DriverConfig × Option Bool}
    (run : rtw88.Watched (publications Op.StopsPowered).watch
      (⟨s, []⟩, none) now) (idle : now.1.threads = []) :
    now.1.state.Sound ∧ now.1.state.link.Published now.2 := by
  have initially : s.link.Published none := by
    obtain ⟨attached, -, rfl⟩ := initial
    exact ⟨parent, iff_of_false nofun nofun⟩
  have kept : ∀ op first t r,
      Begins (publications Op.StopsPowered)
        (fun s r => s.link.Attached ∧ s.link.Published r) op first →
      Walk (publications Op.StopsPowered) op first t r →
      op.Finishes first t → t.link.Attached ∧ t.link.Published r := by
    intro op first t r begins walk finishes
    obtain ⟨_, ⟨attached, published⟩, admitted, fresh⟩ := begins.before
    have published : first.1.link.Published first.2 := fresh.symm ▸ published
    refine ⟨walk.attached finishes attached, walk.invariant Link.Published published ?_ ?_ ?_⟩
    · exact fun _ _ _ _ change held => change.published begins.sound attached admitted held
    · exact fun _ _ _ _ held => held
    · exact fun _ _ _ held => held
  exact (watched_idle kept initial.sound ⟨initial.attached, initially⟩ run idle).imp_right And.right

end

/-- Unless `stop` is called without power in an association, the published status agrees with
the link, and the one of `AirportRTW88` before the first publication as well. -/
theorem linkStatus_agrees (controller : Controller) (s : Ieee80211) :
    LinkStatusAgreesOncePublished Op.StopsPowered controller s := by
  intro initial parent now run idle
  obtain ⟨sound, published⟩ := published_of_watched initial parent run idle
  have active : now.2 = some true ↔ now.1.state.link.up = true :=
    published.active.trans (up_link_iff sound).symm
  unfold StatusAgrees
  rw [← active]
  cases now.2 with
  | some active => simp
  | none => cases controller <;> simp [Controller.attachStatus]

namespace Scenario

/-- A connection whose power is switched off before `stop` is called. -/
def stoppedWithoutPower : List (Turn Answer Op) :=
  attempt ++ associate ++ [.start .powerOff [], goOn 0, .start .stop []] ++
    List.replicate 6 (goOn 0)

def publishedAtStop : Option Bool := do
  let (config, published) ←
    rtw88.playAlone (publications fun _ _ => True).watch (start, none) stoppedWithoutPower
  return config.threads.isEmpty && published = some true && !config.state.link.up

theorem publishedAtStop_true : publishedAtStop = some true := by
  decide +kernel

end Scenario

theorem not_linkStatusAgrees : ¬ ∀ controller s,
    LinkStatusAgrees (fun _ _ => True) controller s := by
  intro agrees
  have run := Scenario.publishedAtStop_true
  simp only [Scenario.publishedAtStop, Option.bind_eq_bind, Option.bind_eq_some_iff, Prod.exists,
    Option.pure_def, Option.some.injEq, Bool.and_eq_true, decide_eq_true_eq,
    Bool.not_eq_true'] at run
  obtain ⟨config, published, played, ⟨idle, active⟩, down⟩ := run
  have watched := System.watched_of_playAlone (fun _ _ _ => trivial)
    (fun _ _ _ _ _ => trivial) played
  have status := agrees .rtw88PCIDevice _ ⟨Scenario.attachment, rfl, rfl⟩ rfl _ watched
    (List.isEmpty_iff.mp idle)
  simp [StatusAgrees, active, down] at status

end

end AirportRtw88
