import AirportRtw88.ObjectLifeParts

/-!
# Runs of the object

The books are kept along any run in which the hardware is probed once and removed once, and along
no other run.
-/

namespace AirportRtw88

open Interleave Custody

namespace ObjectLife

variable {holdings : Holdings} {life : ObjectLife}

/-! ## The calls -/

/-- A call that leaves what `init` has acquired. -/
theorem Consistent.alive_of_lawful (consistent : Consistent life) (alive : life.alive = true)
    {later : Holdings} (lawful : Lawful later)
    (kept : ∀ part ∈ Part.ofInit, later.held part = life.holdings.held part) :
    Consistent ⟨true, later⟩ where
  toLawful := lawful
  unborn dead := Bool.noConfusion dead
  born _ part member := (kept part member).trans (consistent.born alive part member)

/-- A change of one of the parts that may change. -/
theorem kept_of_update {later : Holdings} {part : Part} {got : Bool} {changing : List Part}
    (held : later.held = Function.update holdings.held part got) (member : part ∈ changing) :
    ∀ other ∉ changing, later.held other = holdings.held other := by
  intro other outside
  rw [held]
  apply Function.update_of_ne
  rintro rfl
  exact outside member

theorem kept_of_dropAll {resources changing : List Part}
    (among : ∀ part ∈ resources, part ∈ changing) :
    ∀ other ∉ changing, (holdings.dropAll resources).held other = holdings.held other := by
  intro other outside
  have apart : other ∉ resources := fun member => outside (among other member)
  rw [Ledger.held_dropAll, decide_eq_true apart, Bool.and_true]

/-- The calls that leave the hardware where it is. -/
def serves : ObjectCall → Bool
  | .create _ | .start _ | .stop _ | .release => false
  | _ => true

theorem held_of_serves {call : ObjectCall} (serving : serves call = true) {later : ObjectLife}
    (steps : step call life = some later) :
    ∀ part ∉ Part.transient, later.holdings.held part = life.holdings.held part := by
  cases call with
  | create | start | stop | release => exact Bool.noConfusion serving
  | powerOn starts =>
      obtain ⟨-, same⟩ := Option.ite_none_right_eq_some.mp steps
      cases same
      simp only [powerOn]
      split
      · exact fun _ _ => rfl
      · split
        · exact fun _ _ => rfl
        · exact kept_of_update (Ledger.held_assign starts) (by decide)
  | powerOff =>
      obtain ⟨-, same⟩ := Option.ite_none_right_eq_some.mp steps
      cases same
      exact kept_of_update Ledger.held_drop (by decide)
  | cmdScan got =>
      obtain ⟨-, same⟩ := Option.ite_none_right_eq_some.mp steps
      cases same
      simp only [allocScanRequest]
      split
      · exact fun _ _ => rfl
      · exact kept_of_update (Ledger.held_assign got) (by decide)
  | associate got =>
      obtain ⟨-, same⟩ := Option.ite_none_right_eq_some.mp steps
      cases same
      simp only [addSta]
      split
      · exact fun _ _ => rfl
      · exact kept_of_update (Ledger.held_assign got) (by decide)
  | installKey pairwise installs =>
      obtain ⟨-, same⟩ := Option.ite_none_right_eq_some.mp steps
      cases same
      apply kept_of_update
      · exact held_installKey _ pairwise installs
      · cases pairwise <;> decide
  | disconnect =>
      obtain ⟨-, same⟩ := Option.ite_none_right_eq_some.mp steps
      cases same
      simp only [doDisconnect]
      split
      · have among : ∀ part ∈ [Part.ptkConf, .gtkConf, .sta], part ∈ Part.transient := by decide
        exact kept_of_dropAll among
      · exact fun _ _ => rfl

/-- A call that leaves the hardware where it is keeps the books. -/
theorem Lawful.serves (lawful : Lawful life.holdings) {call : ObjectCall}
    (serving : serves call = true) {later : ObjectLife} (steps : step call life = some later) :
    Lawful later.holdings ∧ later.alive = life.alive := by
  cases call with
  | create | start | stop | release => exact Bool.noConfusion serving
  | powerOn starts =>
      obtain ⟨alive, same⟩ := Option.ite_none_right_eq_some.mp steps
      cases same
      exact ⟨lawful.powerOn starts, alive.symm⟩
  | powerOff =>
      obtain ⟨alive, same⟩ := Option.ite_none_right_eq_some.mp steps
      cases same
      exact ⟨lawful.powerOff, alive.symm⟩
  | cmdScan got =>
      obtain ⟨alive, same⟩ := Option.ite_none_right_eq_some.mp steps
      cases same
      exact ⟨lawful.allocScanRequest got, alive.symm⟩
  | associate got =>
      obtain ⟨allowed, same⟩ := Option.ite_none_right_eq_some.mp steps
      obtain ⟨alive, there⟩ := (Bool.and_eq_true _ _).mp allowed
      cases same
      exact ⟨lawful.addSta there got, alive.symm⟩
  | installKey pairwise installs =>
      obtain ⟨allowed, same⟩ := Option.ite_none_right_eq_some.mp steps
      obtain ⟨alive, there⟩ := (Bool.and_eq_true _ _).mp allowed
      cases same
      exact ⟨lawful.installKey there pairwise installs, alive.symm⟩
  | disconnect =>
      obtain ⟨alive, same⟩ := Option.ite_none_right_eq_some.mp steps
      cases same
      exact ⟨lawful.doDisconnect, alive.symm⟩

theorem Consistent.serves (consistent : Consistent life) {call : ObjectCall}
    (serving : ObjectLife.serves call = true) {later : ObjectLife}
    (steps : ObjectLife.step call life = some later) : Consistent later := by
  obtain ⟨lawful, same⟩ := consistent.toLawful.serves serving steps
  have kept := held_of_serves serving steps
  have apart : ∀ part ∈ Part.ofInit, part ∉ Part.transient := by decide
  constructor
  · exact lawful
  · intro dead
    have nothing := consistent.unborn (same.symm.trans dead)
    have refused : ObjectLife.step call life = none := by
      have absent := same.symm.trans dead
      cases call <;> simp_all [ObjectLife.step, ObjectLife.serves]
    exact absurd (steps.symm.trans refused) (Option.some_ne_none _)
  · intro alive part member
    exact (kept part (apart part member)).trans (consistent.born (same ▸ alive) part member)

theorem Consistent.step (consistent : Consistent life) {call : ObjectCall} {later : ObjectLife}
    (bracketed : Bracketed call life) (steps : ObjectLife.step call life = some later) :
    Consistent later := by
  have lawful := consistent.toLawful
  cases call with
  | create o =>
      obtain ⟨absent, rfl⟩ : life.alive = false ∧ life.create o = later := by
        simpa [ObjectLife.step] using steps
      exact consistent.create absent o
  | start o =>
      obtain ⟨alive, same⟩ := Option.ite_none_right_eq_some.mp steps
      cases same
      by_cases probed : o.chip = true ∧ o.probes = true
      · have started := lawful.start (bracketed probed.1 probed.2) o
        apply consistent.alive_of_lawful alive started.lawful
        intro part member
        have apart : ∀ part ∈ Part.ofInit, part ∉ Part.ofStart ∧ part ≠ .powered := by decide
        exact started.others part (apart part member).1 (apart part member).2
      · rw [start_of_unprobed o probed]
        exact consistent.alive_of_lawful alive lawful fun _ _ => rfl
  | stop connected =>
      obtain ⟨alive, same⟩ := Option.ite_none_right_eq_some.mp steps
      cases same
      have there := bracketed alive
      apply consistent.alive_of_lawful alive (lawful.stop there connected)
      intro part member
      have apart : ∀ part ∈ Part.ofInit, part ∉ withdrawn := by decide
      rw [held_stop lawful there, decide_eq_true (apart part member), Bool.and_true]
  | release =>
      obtain ⟨-, same⟩ := Option.ite_none_right_eq_some.mp steps
      cases same
      exact lawful.destroy bracketed
  | powerOn | powerOff | cmdScan | associate | installKey | disconnect =>
      exact consistent.serves rfl steps

theorem consistent_unborn : Consistent unborn where
  accounted := Leaves.nil
  started _ _ := rfl
  linked _ _ set := set
  unborn _ _ := rfl
  born alive := Bool.noConfusion alive

/-- A probe of hardware that is there is never forgotten by the log. -/
theorem log_setUp (o : ProbeOutcomes) : holdings.log <+: (setUp o holdings).2.log := by
  have allocates := Ledger.log_perform holdings (allocVif o)
  rw [setUp]
  rcases result : Ledger.perform (allocVif o) holdings with ⟨ok, between⟩
  rw [result] at allocates
  cases ok with
  | false => exact allocates.trans (List.prefix_append _ _)
  | true =>
      have adds := Ledger.log_perform between (addVif o)
      simp only
      rcases result : Ledger.perform (addVif o) between with ⟨ok, last⟩
      rw [result] at adds
      have together := allocates.trans adds
      cases ok with
      | false =>
          have drops := (Ledger.log_drop last .powered).trans (Ledger.log_drop _ .vif)
          exact (together.trans drops).trans (List.prefix_append _ _)
      | true => exact together.trans (Ledger.log_assign last .registeredVif true)

/-- Where there is no hardware, `stop` only removes it once more. -/
theorem stop_eq_give (lawful : Lawful holdings) (gone : holdings.held .probe = false)
    (connected : Bool) : stop connected holdings = holdings.give .probe := by
  have absent := lawful.unlinked gone
  have same : ∀ part ∈ Part.ofLink, holdings.drop part = holdings := by
    intro part member
    rw [Ledger.drop, absent part member, if_neg Bool.false_ne_true]
  have noVif : holdings.held .vif = false := (lawful.started .vif (by decide)).trans gone
  simp [stop, removeVif, releaseSta, clearKeys, absent .powered (by decide), noVif,
    same .ptkConf (by decide), same .gtkConf (by decide), same .sta (by decide),
    same .powered (by decide)]

/-- A call out of turn breaks the discipline. -/
theorem Consistent.not_accounted (consistent : Consistent life) {call : ObjectCall}
    {later : ObjectLife} (unbracketed : ¬ Bracketed call life)
    (steps : ObjectLife.step call life = some later) : ¬ later.Accounted := by
  cases call with
  | start o =>
      obtain ⟨-, same⟩ := Option.ite_none_right_eq_some.mp steps
      cases same
      simp only [Bracketed, not_forall, Bool.not_eq_false] at unbracketed
      obtain ⟨chip, probes, there⟩ := unbracketed
      have again : (start o life.holdings).2 = (setUp o (life.holdings.assign .probe true)).2 := by
        simp [start, chip, probes]
      rw [Accounted, again]
      exact consistent.accounted.not_of_acquire there (log_setUp o)
  | stop connected =>
      obtain ⟨alive, same⟩ := Option.ite_none_right_eq_some.mp steps
      cases same
      have gone : life.holdings.held .probe = false :=
        eq_false_of_ne_true fun there => unbracketed fun _ => there
      rw [Accounted, stop_eq_give consistent.toLawful gone]
      exact consistent.accounted.not_of_give gone
  | release =>
      obtain ⟨-, same⟩ := Option.ite_none_right_eq_some.mp steps
      cases same
      have there : life.holdings.held .probe = true := eq_true_of_ne_false unbracketed
      have stays : (free life.holdings).held .probe = true := by
        rw [free, Ledger.held_dropAll, there]
        rfl
      have forgets : life.destroy.holdings.held .probe = false := rfl
      exact (accounted_free consistent.accounted).not_of_forget stays forgets
  | create | powerOn | powerOff | cmdScan | associate | installKey | disconnect =>
      exact absurd trivial unbracketed

/-- Along a run of any calls, nothing is acquired twice, nothing is given back twice or before what
uses it, and the object knows what it holds, exactly if `start` does not probe hardware that has
been probed, `stop` finds it probed, and the object is not released before. -/
theorem accounted_iff_bracketed (calls : List ObjectCall) :
    machine.Along Accounted calls unborn ↔ machine.Keeps Bracketed calls unborn := by
  have gives : ∀ life : ObjectLife, life.Consistent → life.Accounted :=
    fun life consistent => consistent.accounted
  have kept : ∀ call life later, Consistent life → Bracketed call life →
      machine.step call life = some later → later.Consistent :=
    fun call life later consistent bracketed steps => consistent.step bracketed steps
  have lost : ∀ call life, Consistent life → ¬ Bracketed call life →
      ∃ later, machine.step call life = some later ∧ ¬ later.Accounted := by
    intro call life consistent unbracketed
    have taken : ∃ later, machine.step call life = some later := by
      cases alive : life.alive with
      | true =>
          cases call with
          | start | stop | release => exact ⟨_, if_pos alive⟩
          | _ => exact absurd trivial unbracketed
      | false =>
          have gone := consistent.unborn alive .probe
          cases call with
          | start o => exact absurd (fun _ _ => gone) unbracketed
          | stop connected =>
              refine absurd (fun lives => ?_) unbracketed
              rw [alive] at lives
              exact Bool.noConfusion lives
          | release => exact absurd gone unbracketed
          | _ => exact absurd trivial unbracketed
    obtain ⟨later, steps⟩ := taken
    exact ⟨later, steps, consistent.not_accounted unbracketed steps⟩
  exact Machine.along_iff_keeps gives kept lost calls consistent_unborn

/-- What an object has acquired by the time it is gone, it has given back as often. -/
theorem balanced_of_gone (reaches : machine.Reaches Bracketed unborn life)
    (gone : life.alive = false) (part : Part) :
    life.holdings.log.count (.acquire part) = life.holdings.log.count (.release part) := by
  have consistent : life.Consistent := by
    apply reaches.keeps Consistent
    · exact fun call before after bracketed steps consistent => consistent.step bracketed steps
    · exact consistent_unborn
  exact Leaves.released consistent.accounted (consistent.unborn gone part)

/-! ## The controller -/

/-- What `AirportRTW88` calls: `_ieeeStarted` keeps `stop` from an object whose `start` has
failed. -/
def airportCalls (i : InitOutcomes) (o : ProbeOutcomes) (between : List ObjectCall)
    (connected : Bool) : List ObjectCall :=
  .create i :: .start o ::
    ((if (start o (unborn.create i).holdings).1 then between ++ [.stop connected] else []) ++
      [.release])

theorem Consistent.gone_of_create (consistent : Consistent life) (absent : life.alive = false)
    (i : InitOutcomes) : (life.create i).holdings.held .probe = false := by
  have gone := held_init (consistent.unborn absent) i .probe (by decide)
  rw [ObjectLife.create]
  rcases result : init i life.holdings with ⟨ok, later⟩
  rw [result] at gone
  cases ok with
  | true => exact gone
  | false => rfl

/-- Any calls that leave the hardware where it is, then `stop` and the release. -/
theorem keeps_until_release {between : List ObjectCall}
    (serving : ∀ call ∈ between, serves call = true) (connected : Bool)
    (consistent : Consistent life) (there : life.holdings.held .probe = true) :
    machine.Keeps Bracketed (between ++ [.stop connected] ++ [.release]) life := by
  induction between generalizing life with
  | nil =>
      constructor
      · exact fun _ => there
      · intro next steps
        obtain ⟨-, same⟩ := Option.ite_none_right_eq_some.mp steps
        cases same
        have gone : (stop connected life.holdings).held .probe = false := by
          rw [held_stop consistent.toLawful there, there]
          decide
        exact ⟨gone, fun _ _ => trivial⟩
  | cons call between ih =>
      have serves := serving call (.head between)
      constructor
      · cases call with
        | create | start | stop | release => exact Bool.noConfusion serves
        | _ => exact trivial
      · intro next steps
        apply ih (fun other member => serving other (.tail call member))
          (consistent.serves serves steps)
        rw [held_of_serves serves steps .probe (by decide)]
        exact there

theorem keeps_airportCalls (i : InitOutcomes) (o : ProbeOutcomes) {between : List ObjectCall}
    (serving : ∀ call ∈ between, serves call = true) (connected : Bool) :
    machine.Keeps Bracketed (airportCalls i o between connected) unborn := by
  have created := consistent_unborn.create rfl i
  have gone := consistent_unborn.gone_of_create rfl i
  refine ⟨trivial, fun object creates => ⟨?_, fun next steps => ?_⟩⟩
  · cases creates
    exact fun _ _ => gone
  · cases creates
    obtain ⟨alive, same⟩ := Option.ite_none_right_eq_some.mp steps
    cases same
    have started := created.toLawful.start gone o
    have once : Bracketed (.start o) (unborn.create i) := fun _ _ => gone
    have later := created.step once steps
    cases succeeds : (start o (unborn.create i).holdings).1 with
    | false =>
        rw [if_neg Bool.false_ne_true]
        exact ⟨started.probe.trans succeeds, fun _ _ => trivial⟩
    | true =>
        rw [if_pos rfl]
        exact keeps_until_release serving connected later (started.probe.trans succeeds)

/-- A released object holds nothing. -/
theorem held_of_play_release {calls : List ObjectCall} {last : ObjectLife}
    (plays : machine.play (calls ++ [.release]) life = some last) (part : Part) :
    last.holdings.held part = false := by
  induction calls generalizing life with
  | nil =>
      obtain ⟨next, steps, plays⟩ := Option.bind_eq_some_iff.mp plays
      obtain ⟨-, same⟩ := Option.ite_none_right_eq_some.mp steps
      cases same
      cases plays
      rfl
  | cons call calls ih =>
      obtain ⟨next, -, plays⟩ := Option.bind_eq_some_iff.mp plays
      exact ih plays

/-- Whatever fails, and whatever is called in between, an object of `AirportRTW88` keeps its
books, and when it is released it has given everything back that it has acquired. -/
theorem airportCalls_balanced (i : InitOutcomes) (o : ProbeOutcomes) {between : List ObjectCall}
    (serving : ∀ call ∈ between, serves call = true) (connected : Bool) :
    machine.Along Accounted (airportCalls i o between connected) unborn ∧
      ∀ last, machine.play (airportCalls i o between connected) unborn = some last → ∀ part,
        last.holdings.log.count (.acquire part) = last.holdings.log.count (.release part) := by
  have along := (accounted_iff_bracketed _).mpr (keeps_airportCalls i o serving connected)
  constructor
  · exact along
  · intro last plays part
    have accounted : last.Accounted := along.of_play plays
    rw [airportCalls, ← List.cons_append, ← List.cons_append] at plays
    exact Leaves.released accounted (held_of_play_release plays part)

/-- Nothing fails. -/
def everyInit : InitOutcomes :=
  ⟨true, true, true, true, true, true, true, true, true, true, true, true, true⟩

/-- The interface is refused by the driver. -/
def refused : ProbeOutcomes :=
  ⟨true, true, true, true, true, true, true, false⟩

theorem airportCalls_balanced_refused :
    machine.Along Accounted (airportCalls everyInit refused [.powerOff, .powerOn true] true)
      unborn :=
  (airportCalls_balanced everyInit refused (by decide) true).1

end ObjectLife

end AirportRtw88
