import AirportRtw88.System
import AirportRtw88.Interleave.Alone

/-!
# The receive filter

`setReceiveMulticast` and `setAWDLReceiveMode` share one bit of the filter of the hardware, and
`powerOn` restores the filter after `ops->start` has reset it.  What they leave is compared with
what the fields ask for, over runs of these operations and of `powerOff`.
-/

namespace AirportRtw88

open Interleave

/-- The filter of the hardware, and how often it was configured without power. -/
structure Radio where
  filter : BitVec 32
  strays : Nat
  deriving DecidableEq

namespace Radio

/-- `FIF_ALLMULTI` is set. -/
def allMulti (radio : Radio) : Bool :=
  radio.filter.getLsbD 1

/-- `FIF_OTHER_BSS` is set. -/
def otherBss (radio : Radio) : Bool :=
  radio.filter.getLsbD 6

/-- What a request does to the hardware: `ops->configure_filter` writes the bits of its mask, and
`ops->start` resets the filter. -/
def notes : Call → Ieee80211 → Radio → Radio
  | .configureFilter changed flags, s, radio =>
      { filter := radio.filter &&& ~~~BitVec.ofNat 32 changed |||
          BitVec.ofNat 32 flags &&& BitVec.ofNat 32 changed
        strays := if s.powered then radio.strays else radio.strays + 1 }
  | .start, _, radio => { radio with filter := 0 }
  | _, _, radio => radio

end Radio

/-- The operations on the filter and on the power. -/
def Op.isReceiveOp : Op → Bool
  | .setReceiveMulticast _ | .setAWDLReceiveMode _ | .powerOn | .powerOff => true
  | _ => false

/-- These operations run, where they are admitted, and the hardware is recorded. -/
def radioObserver (admits : Op → Ieee80211 → Prop) : Observer Ieee80211 Call Op Radio where
  starts op s _ := op.isReceiveOp = true ∧ admits op s
  begins _ _ radio := radio
  notes := Radio.notes
  allows _ _ _ := True

namespace Ieee80211

/-- With power, the filter is what the fields ask for, and it was never configured without. -/
structure Coherent (s : Ieee80211) (radio : Radio) : Prop where
  otherBss : s.powered = true → radio.otherBss = s.awdlReceiveMode
  allMulti : s.powered = true → radio.allMulti = (s.receiveMulticast || s.awdlReceiveMode)
  powered : radio.strays = 0

/-- A coherent hardware with a filter to configure. -/
structure Filtered (s : Ieee80211) (radio : Radio) : Prop extends s.Coherent radio where
  configures : s.hasOp Ops.configureFilter = true

end Ieee80211

/-- The filter stays coherent in every run of admitted operations. -/
def StaysCoherent (admits : Op → Ieee80211 → Prop) (s : Ieee80211) (radio : Radio) : Prop :=
  s.Filtered radio → ∀ now, rtw88.Watched (radioObserver admits) (⟨s, []⟩, radio) now →
    now.1.state.Coherent now.2

/-- Multicast reception is not turned off under AWDL, AWDL reception is only changed with power,
and power is not turned on while AWDL reception is asked for. -/
def Op.keepsFilter (op : Op) (s : Ieee80211) : Prop :=
  match op with
  | .setReceiveMulticast active => s.powered = true → s.awdlReceiveMode = true → active = true
  | .setAWDLReceiveMode _ => s.powered = true
  | .powerOn => s.powered = false → s.awdlReceiveMode = false
  | _ => True

namespace Radio

variable (s : Ieee80211) (radio : Radio)

/-- `setReceiveMulticast` writes one bit. -/
theorem notes_multicast (active : Bool) :
    let later := Radio.notes (.configureFilter 2 (if active then 2 else 0)) s radio
    later.allMulti = active ∧ later.otherBss = radio.otherBss := by
  cases active <;> simp [notes, allMulti, otherBss]

/-- `setAWDLReceiveMode` writes both bits. -/
theorem notes_awdl (active multicast : Bool) :
    let later := Radio.notes (.configureFilter (64 ||| 2)
      (if active then 64 ||| 2 else if multicast then 2 else 0)) s radio
    later.allMulti = (multicast || active) ∧ later.otherBss = active := by
  cases active <;> cases multicast <;> simp [notes, allMulti, otherBss]

theorem strays_configureFilter (changed flags : Nat) (powered : s.powered = true) :
    (Radio.notes (.configureFilter changed flags) s radio).strays = radio.strays :=
  if_pos powered

end Radio

namespace M

variable {admits : Op → Ieee80211 → Prop} {s : Ieee80211} {radio : Radio}

/-- Multicast reception is written: the other bit is already right, and AWDL asks for it too. -/
theorem setReceiveMulticast_ends {active : Bool} (configures : s.hasOp Ops.configureFilter = true)
    (strays : radio.strays = 0) (otherBss : s.powered = true → radio.otherBss = s.awdlReceiveMode)
    (shared : s.powered = true → s.awdlReceiveMode = true → active = true) :
    (setReceiveMulticast active).Ends rtw88.ready (radioObserver admits)
      (fun _ s radio => s.Coherent radio) s radio fun _ s radio => s.Filtered radio := by
  have written : s.powered = true → { s with receiveMulticast := active }.Coherent
      (Radio.notes (.configureFilter 2 (if active then 2 else 0))
        { s with receiveMulticast := active } radio) := by
    intro powered
    obtain ⟨allMulti, other⟩ :=
      Radio.notes_multicast { s with receiveMulticast := active } radio active
    refine ⟨fun _ => other.trans (otherBss powered), fun _ => allMulti.trans ?_, ?_⟩
    · cases awdl : s.awdlReceiveMode with
      | false => exact (Bool.or_false active).symm
      | true => simp [shared powered awdl]
    · exact (Radio.strays_configureFilter _ _ _ _ powered).trans strays
  simp only [setReceiveMulticast, perform, Prog.bind_eq_bind, Prog.pure_eq_ret, Prog.ends_bind,
    Prog.ends_fetch, Prog.ends_ite, Prog.ends_update, Prog.ends_when, Prog.ends_await,
    Prog.ends_ret, configures, Bool.not_true, Bool.false_eq_true, false_imp_iff, true_and,
    not_false_eq_true, true_imp_iff]
  refine ⟨fun powered => ⟨written powered, fun _ _ _ => ⟨written powered, configures⟩⟩, ?_⟩
  intro unpowered
  exact ⟨⟨by simp [unpowered], by simp [unpowered], strays⟩, configures⟩

theorem setAWDLReceiveMode_ends {active : Bool} (filtered : s.Filtered radio)
    (powered : s.powered = true) :
    (setAWDLReceiveMode active).Ends rtw88.ready (radioObserver admits)
      (fun _ s radio => s.Coherent radio) s radio fun _ s radio => s.Filtered radio := by
  let later : Ieee80211 :=
    { s with
      awdlReceiveMode := active
      awdlChannel := if active then s.awdlChannel else 0 }
  have coherent : later.Coherent (Radio.notes (.configureFilter (64 ||| 2)
      (if active then 64 ||| 2 else if s.receiveMulticast then 2 else 0)) later radio) := by
    obtain ⟨allMulti, otherBss⟩ := Radio.notes_awdl later radio active s.receiveMulticast
    refine ⟨fun _ => otherBss, fun _ => allMulti, ?_⟩
    exact (Radio.strays_configureFilter _ _ _ _ powered).trans filtered.powered
  have configures := filtered.configures
  simp only [setAWDLReceiveMode, perform, Prog.bind_eq_bind, Prog.pure_eq_ret, Prog.ends_bind,
    Prog.ends_fetch, Prog.ends_ite, Prog.ends_update, Prog.ends_await, Prog.ends_ret, configures,
    Bool.not_true, Bool.false_eq_true, false_imp_iff, true_and, not_false_eq_true, true_imp_iff]
  exact ⟨coherent, fun _ _ _ => ⟨coherent, configures⟩⟩

/-- `ops->start` resets the filter, and only multicast reception is restored. -/
theorem powerOn_ends (filtered : s.Filtered radio)
    (admitted : s.powered = false → s.awdlReceiveMode = false) :
    powerOn.Ends rtw88.ready (radioObserver admits)
      (fun _ s radio => s.Coherent radio) s radio fun _ s radio => s.Filtered radio := by
  simp only [powerOn, Prog.bind_eq_bind, Prog.pure_eq_ret, Prog.ends_bind, Prog.ends_fetch,
    Prog.ends_ite, Prog.ends_update, Prog.ends_await, Prog.ends_ret]
  refine ⟨fun _ => filtered, fun unpowered => ⟨fun _ => filtered, fun _ => ?_⟩⟩
  have off : s.powered = false := Bool.not_eq_true _ ▸ unpowered
  have reset : s.Filtered (Radio.notes .start s radio) := by
    refine ⟨⟨fun powered => absurd powered unpowered, fun powered => absurd powered unpowered, ?_⟩,
      filtered.configures⟩
    exact filtered.powered
  refine ⟨reset.toCoherent, fun _ _ answer => ⟨fun _ => reset, fun _ => ?_⟩⟩
  have awdl : (s.withPowered true).awdlReceiveMode = false := admitted off
  refine setReceiveMulticast_ends filtered.configures filtered.powered (fun _ => ?_)
    fun _ asks => ?_
  · rw [awdl]
    exact BitVec.getLsbD_zero
  · rw [awdl] at asks
    cases asks

theorem powerOff_ends (filtered : s.Filtered radio) :
    powerOff.Ends rtw88.ready (radioObserver admits)
      (fun _ s radio => s.Coherent radio) s radio fun _ s radio => s.Filtered radio := by
  have off : (s.withPowered false).Filtered radio :=
    ⟨⟨nofun, nofun, filtered.powered⟩, filtered.configures⟩
  simp only [powerOff, perform, Prog.bind_eq_bind, Prog.pure_eq_ret, Prog.ends_bind, Prog.ends_when,
    Prog.ends_fetch, Prog.ends_update, Prog.ends_await, Prog.ends_ret]
  exact ⟨fun _ => ⟨fun _ => ⟨filtered.toCoherent, fun _ _ _ => off⟩, fun _ => off⟩,
    fun _ => filtered⟩

end M

/-- Every operation on the filter and the power keeps the filter coherent where it is admitted. -/
theorem Op.program_filtered {admits : Op → Ieee80211 → Prop} {op : Op} {s : Ieee80211}
    {radio : Radio} (isReceiveOp : op.isReceiveOp = true) (keeps : op.keepsFilter s)
    (filtered : s.Filtered radio) :
    op.program.Ends rtw88.ready (radioObserver admits)
      (fun _ s radio => s.Coherent radio) s radio fun _ s radio => s.Filtered radio := by
  cases op with
  | setReceiveMulticast active =>
      exact M.setReceiveMulticast_ends filtered.configures filtered.powered filtered.otherBss keeps
  | setAWDLReceiveMode active => exact M.setAWDLReceiveMode_ends filtered keeps
  | powerOn => exact M.powerOn_ends filtered keeps
  | powerOff =>
      simp only [Op.program, M.returning, Prog.bind_eq_bind, Prog.pure_eq_ret, Prog.ends_bind,
        Prog.ends_ret]
      exact M.powerOff_ends filtered
  | _ => cases isReceiveOp

/-- If AWDL reception is only asked for with power and does not lose its multicast bit, the filter
is what the fields ask for. -/
theorem keepsFilter_coherent (s : Ieee80211) (radio : Radio) :
    StaysCoherent Op.keepsFilter s radio := by
  intro filtered now run
  have kept : ∀ op (s : Ieee80211) radio, rtw88.enabled op s →
      (radioObserver Op.keepsFilter).starts op s radio → s.Filtered radio →
      (rtw88.program op).Ends rtw88.ready (radioObserver Op.keepsFilter)
        (fun _ s radio => s.Coherent radio) s ((radioObserver Op.keepsFilter).begins op s radio)
        fun _ s radio => s.Filtered radio :=
    fun op _ _ _ admitted filtered => op.program_filtered admitted.1 admitted.2 filtered
  have underway := System.Watched.underway kept (.inl ⟨rfl, filtered⟩) run
  rcases underway with ⟨-, held⟩ | ⟨thread, -, safe, -⟩
  · exact held.toCoherent
  · exact safe

namespace Scenario

/-- The driver after `powerOff`. -/
def unpowered : Ieee80211 :=
  (Ieee80211.started attachment).withPowered false

/-- Multicast reception is turned off under AWDL. -/
def multicastOff : List (Turn Answer Op) :=
  [.start .powerOn [], goOn 0, goOn 0, .start (.setAWDLReceiveMode true) [], goOn 0,
    .start (.setReceiveMulticast false) [], goOn 0]

def clearsAllMulti : Option Bool := do
  let (config, radio) ←
    rtw88.playAlone (radioObserver fun _ _ => True) (⟨unpowered, []⟩, ⟨0, 0⟩) multicastOff
  return config.state.powered && config.state.awdlReceiveMode && !radio.allMulti

theorem clearsAllMulti_true : clearsAllMulti = some true := by
  decide +kernel

end Scenario

/-- Under AWDL, turning multicast reception off clears the bit that AWDL needs. -/
theorem not_always_coherent : ¬ ∀ s radio, StaysCoherent (fun _ _ => True) s radio := by
  intro coherent
  have run := Scenario.clearsAllMulti_true
  simp only [Scenario.clearsAllMulti, Option.bind_eq_bind, Option.bind_eq_some_iff, Prod.exists,
    Option.pure_def, Option.some.injEq, Bool.and_eq_true, Bool.not_eq_true'] at run
  obtain ⟨config, radio, played, ⟨powered, awdl⟩, cleared⟩ := run
  have starts : ∀ op answers, .start op answers ∈ Scenario.multicastOff →
      ∀ s radio, (radioObserver fun _ _ => True).starts op s radio := by
    intro op answers member s radio
    refine ⟨?_, trivial⟩
    simp only [Scenario.multicastOff, Scenario.goOn, List.mem_cons, Turn.start.injEq, reduceCtorEq,
      List.not_mem_nil, false_or, or_false] at member
    rcases member with ⟨rfl, -⟩ | ⟨rfl, -⟩ | ⟨rfl, -⟩ <;> rfl
  have watched := System.watched_of_playAlone_starts starts (fun _ _ _ => trivial) played
  have unpowered : Scenario.unpowered.Filtered ⟨0, 0⟩ := ⟨⟨by rintro ⟨⟩, by rintro ⟨⟩, rfl⟩, rfl⟩
  have needed := (coherent _ _ unpowered _ watched).allMulti powered
  simp [awdl, cleared] at needed

end AirportRtw88
