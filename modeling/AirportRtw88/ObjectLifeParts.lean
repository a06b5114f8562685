import AirportRtw88.ObjectLife

/-!
# The parts of the life of the object

Each function of the object keeps the books: the hardware comes as a whole or not at all, it goes
as a whole, and what `init` has acquired goes in the order of `free`.
-/

namespace AirportRtw88

open Custody

namespace ObjectLife

variable {holdings : Holdings} {life : ObjectLife}

/-! ## The hardware -/

theorem drop_eq_give {part : Part} (holds : holdings.held part = true) :
    holdings.give part = holdings.drop part :=
  (if_pos holds).symm

/-- What is dropped when the hardware goes. -/
def withdrawn : List Part :=
  [.ptkConf, .gtkConf, .sta, .registeredVif, .interface, .vif, .powered, .probe]

theorem stop_eq (lawful : Lawful holdings) (there : holdings.held .probe = true)
    (connected : Bool) : stop connected holdings = holdings.dropAll withdrawn := by
  have vif : holdings.held .vif = true := (lawful.started .vif (by decide)).trans there
  have interface : holdings.held .interface = true :=
    (lawful.started .interface (by decide)).trans there
  have disconnects : (if connected && holdings.held .powered then doDisconnect holdings
      else releaseSta (clearKeys holdings)) = releaseSta (clearKeys holdings) := by
    split
    · rw [doDisconnect, there, vif, Bool.and_self, if_pos rfl]
    · rfl
  have kept : ∀ part, part ≠ .ptkConf → part ≠ .gtkConf → part ≠ .sta →
      (releaseSta (clearKeys holdings)).held part = holdings.held part := by
    intro part notPtk notGtk notSta
    simp only [releaseSta, clearKeys, Ledger.held_drop]
    simp [notPtk, notGtk, notSta]
  have vifKept := (kept .vif (by decide) (by decide) (by decide)).trans vif
  have probeKept : ((releaseSta (clearKeys holdings)).drop .registeredVif).held .probe = true := by
    rw [Ledger.held_drop, Function.update_of_ne (by decide)]
    exact (kept .probe (by decide) (by decide) (by decide)).trans there
  have interfaceKept :
      ((releaseSta (clearKeys holdings)).drop .registeredVif).held .interface = true := by
    rw [Ledger.held_drop, Function.update_of_ne (by decide)]
    exact (kept .interface (by decide) (by decide) (by decide)).trans interface
  rw [stop]
  simp only [disconnects, removeVif, vifKept, probeKept, if_true]
  rw [drop_eq_give interfaceKept, drop_eq_give]
  · rfl
  · simp only [Ledger.held_drop, Function.update_apply] at probeKept ⊢
    simpa using probeKept

theorem held_stop (lawful : Lawful holdings) (there : holdings.held .probe = true)
    (connected : Bool) (part : Part) :
    (stop connected holdings).held part = (holdings.held part && decide (part ∉ withdrawn)) := by
  rw [stop_eq lawful there, Ledger.held_dropAll]

theorem Lawful.stop (lawful : Lawful holdings) (there : holdings.held .probe = true)
    (connected : Bool) : Lawful (stop connected holdings) where
  accounted := by
    rw [stop_eq lawful there]
    exact lawful.accounted.dropAll (List.forall_mem_nil _) (by decide)
  started part member := by
    have among : ∀ part ∈ Part.ofStart, part ∈ withdrawn := by decide
    rw [held_stop lawful there, held_stop lawful there]
    simp [among part member, among .probe (by decide)]
  linked part member set := by
    have among : ∀ part ∈ Part.ofLink, part ∈ withdrawn := by decide
    rw [held_stop lawful there] at set
    simp [among part member] at set

/-- What `start` has got so far, after the probe. -/
structure Trying (before holdings : Holdings) : Prop where
  accounted : holdings.Accounted Part.users
  probe : holdings.held .probe = true
  others : ∀ part ∉ Part.ofStart, part ≠ .powered → holdings.held part = before.held part
  registeredVif : holdings.held .registeredVif = false

namespace Trying

variable {before : Holdings}

theorem begins (lawful : Lawful before) (gone : before.held .probe = false) :
    Trying before (before.assign .probe true) where
  accounted := lawful.accounted.assign true gone
  probe := by
    rw [Ledger.held_assign, Function.update_self]
  others part outside _ := by
    apply Function.update_of_ne
    rintro rfl
    exact outside (by decide)
  registeredVif := by
    rw [Ledger.held_assign, Function.update_of_ne (by decide)]
    exact (lawful.started .registeredVif (by decide)).trans gone

/-- A script that acquires parts of the hardware. -/
theorem perform (trying : Trying before holdings) {items : List (Item Part)}
    (free : ∀ part ∈ items.flatMap Item.resources, holdings.held part = false)
    (distinct : (items.flatMap Item.resources).Nodup)
    (among : ∀ part ∈ items.flatMap Item.resources, part = .vif ∨ part = .powered ∨
      part = .interface) : Trying before (Ledger.perform items holdings).2 := by
  have outside : ∀ part, part ≠ .vif → part ≠ .powered → part ≠ .interface →
      (Ledger.perform items holdings).2.held part = holdings.held part := by
    intro part notVif notPowered notInterface
    apply Ledger.held_perform
    intro member
    rcases among part member with same | same | same
    · exact notVif same
    · exact notPowered same
    · exact notInterface same
  constructor
  · exact trying.accounted.perform items free distinct
  · rw [outside _ (by decide) (by decide) (by decide)]
    exact trying.probe
  · intro part apart notPowered
    rw [outside part _ notPowered _]
    · exact trying.others part apart notPowered
    · rintro rfl
      exact apart (by decide)
    · rintro rfl
      exact apart (by decide)
  · rw [outside _ (by decide) (by decide) (by decide)]
    exact trying.registeredVif

/-- Where the interface has not been added, the hardware goes again as it came. -/
theorem failVif (trying : Trying before holdings) (lawful : Lawful before)
    (gone : before.held .probe = false) (interface : holdings.held .interface = false) :
    Lawful (failVif holdings) ∧
      ∀ part, (ObjectLife.failVif holdings).held part = before.held part := by
  have probe : ((holdings.drop .powered).drop .vif).held .probe = true := by
    simp only [Ledger.held_drop, Function.update_apply]
    exact trying.probe
  have unpowered : (holdings.dropAll [.powered, .vif, .probe]).held .powered = false := by
    rw [Ledger.held_dropAll]
    simp
  have same : ObjectLife.failVif holdings = holdings.dropAll [.powered, .vif, .probe] := by
    rw [ObjectLife.failVif, failProbe, drop_eq_give probe]
    exact Ledger.forget_of_free unpowered
  have absent := lawful.unlinked gone
  have held : ∀ part, (holdings.dropAll [.powered, .vif, .probe]).held part =
      before.held part := by
    intro part
    rw [Ledger.held_dropAll]
    by_cases powered : part = .powered
    · rw [powered, absent .powered (by decide)]
      simp
    · by_cases start : part ∈ Part.ofStart
      · rw [lawful.started part start, gone]
        simp only [Part.ofStart, List.mem_cons, List.not_mem_nil, or_false] at start
        rcases start with rfl | rfl | rfl | rfl
        · simp
        · simp
        · simp [interface]
        · simp [trying.registeredVif]
      · have dropped : part ∉ [Part.powered, .vif, .probe] := by
          simp only [Part.ofStart, List.mem_cons, List.not_mem_nil, or_false, not_or] at start
          simp [powered, start]
        rw [trying.others part start powered, decide_eq_true dropped, Bool.and_true]
  have unused : ∀ part ∈ [Part.interface, .registeredVif, .sta, .ptkConf, .gtkConf],
      holdings.held part = false := by
    intro part member
    simp only [List.mem_cons, List.not_mem_nil, or_false] at member
    rcases member with rfl | rfl | rfl | rfl | rfl
    · exact interface
    · exact trying.registeredVif
    · exact (trying.others .sta (by decide) (by decide)).trans (absent .sta (by decide))
    · exact (trying.others .ptkConf (by decide) (by decide)).trans (absent .ptkConf (by decide))
    · exact (trying.others .gtkConf (by decide) (by decide)).trans (absent .gtkConf (by decide))
  rw [same]
  constructor
  case right => exact held
  constructor
  · exact trying.accounted.dropAll unused (by decide)
  · intro part member
    rw [held, held]
    exact lawful.started part member
  · intro part member
    rw [held, held]
    exact lawful.linked part member

/-- Where everything has succeeded, the interface is registered. -/
theorem registers (trying : Trying before holdings) (vif : holdings.held .vif = true)
    (interface : holdings.held .interface = true) :
    Lawful (holdings.assign .registeredVif true) ∧ ∀ part ∉ Part.ofStart, part ≠ .powered →
      (holdings.assign .registeredVif true).held part = before.held part := by
  have others : ∀ part, part ≠ .registeredVif →
      (holdings.assign .registeredVif true).held part = holdings.held part := by
    intro part other
    rw [Ledger.held_assign, Function.update_of_ne other]
  have probe := (others .probe (by decide)).trans trying.probe
  constructor
  · constructor
    · exact trying.accounted.assign true trying.registeredVif
    · intro part member
      rw [probe]
      simp only [Part.ofStart, List.mem_cons, List.not_mem_nil, or_false] at member
      rcases member with rfl | rfl | rfl | rfl
      · exact probe
      · exact (others .vif (by decide)).trans vif
      · exact (others .interface (by decide)).trans interface
      · rw [Ledger.held_assign, Function.update_self]
    · exact fun _ _ _ => probe
  · intro part outside notPowered
    rw [others part _]
    · exact trying.others part outside notPowered
    · rintro rfl
      exact outside (by decide)

end Trying

/-- Without an interface there is nothing to take back but the probe. -/
theorem failProbe_eq (unpowered : holdings.held .powered = false)
    (noVif : holdings.held .vif = false) : failProbe holdings = failVif holdings := by
  have first : holdings.drop .powered = holdings := if_neg (by simp [unpowered])
  have second : holdings.drop .vif = holdings := if_neg (by simp [noVif])
  rw [failVif, first, second]

theorem vif_of_allocVif (o : ProbeOutcomes) (free : holdings.held .vif = false) :
    (Ledger.perform (allocVif o) holdings).2.held .vif =
      (Ledger.perform (allocVif o) holdings).1 := by
  cases complete : o.complete
  · simp [allocVif, Ledger.perform, Item.succeeds, Ledger.performItem, complete, free]
  · cases vif : o.vif <;>
      simp [allocVif, Ledger.perform, Item.succeeds, Ledger.performItem, complete, vif,
        Ledger.held_assign]

theorem interface_of_addVif (o : ProbeOutcomes) (free : holdings.held .interface = false) :
    (Ledger.perform (addVif o) holdings).2.held .interface =
      (Ledger.perform (addVif o) holdings).1 := by
  by_cases ops : o.addInterfaceOp = true ∧ o.startOp = true
  · cases starts : o.starts <;> cases adds : o.addsInterface <;>
      simp [addVif, Ledger.perform, Item.succeeds, Ledger.performItem, ops, starts, adds,
        Ledger.held_assign, free]
  · cases adds : o.addInterfaceOp <;> cases starts : o.startOp <;>
      simp_all [addVif, Ledger.perform, Item.succeeds, Ledger.performItem]

/-- What `start` leaves: the whole of the hardware where it succeeds, and none of it where it
fails. -/
structure Started (before : Holdings) (result : Bool × Holdings) : Prop where
  lawful : Lawful result.2
  others : ∀ part ∉ Part.ofStart, part ≠ .powered → result.2.held part = before.held part
  probe : result.2.held .probe = result.1

theorem Lawful.setUp (lawful : Lawful holdings) (gone : holdings.held .probe = false)
    (o : ProbeOutcomes) : Started holdings (setUp o (holdings.assign .probe true)) := by
  have begins := Trying.begins lawful gone
  have absent := lawful.unlinked gone
  have others : ∀ part, part ≠ .probe →
      (holdings.assign .probe true).held part = holdings.held part := by
    intro part other
    rw [Ledger.held_assign, Function.update_of_ne other]
  have noVif : (holdings.assign .probe true).held .vif = false :=
    (others .vif (by decide)).trans ((lawful.started .vif (by decide)).trans gone)
  have noInterface : (holdings.assign .probe true).held .interface = false :=
    (others .interface (by decide)).trans ((lawful.started .interface (by decide)).trans gone)
  have unpowered : (holdings.assign .probe true).held .powered = false :=
    (others .powered (by decide)).trans (absent .powered (by decide))
  have allocates := vif_of_allocVif o noVif
  have allocated :
      Trying holdings (Ledger.perform (allocVif o) (holdings.assign .probe true)).2 := by
    apply begins.perform
    · simpa [allocVif, Item.resources]
    · simp [allocVif, Item.resources]
    · simp [allocVif, Item.resources]
  have keeps : ∀ part, part ≠ .vif →
      (Ledger.perform (allocVif o) (holdings.assign .probe true)).2.held part =
        (holdings.assign .probe true).held part := by
    intro part other
    apply Ledger.held_perform
    simpa [allocVif, Item.resources] using other
  rw [ObjectLife.setUp]
  rcases result : Ledger.perform (allocVif o) (holdings.assign .probe true) with ⟨ok, between⟩
  rw [result] at allocates allocated keeps
  have stillUnpowered := (keeps .powered (by decide)).trans unpowered
  have stillNone := (keeps .interface (by decide)).trans noInterface
  cases ok with
  | false =>
      simp only [failProbe_eq stillUnpowered allocates]
      obtain ⟨lawful, held⟩ := allocated.failVif lawful gone stillNone
      exact ⟨lawful, fun part _ _ => held part, (held .probe).trans gone⟩
  | true =>
      have adds := interface_of_addVif o stillNone
      have added : Trying holdings (Ledger.perform (addVif o) between).2 := by
        apply allocated.perform
        · simpa [addVif, Item.resources] using And.intro stillUnpowered stillNone
        · simp [addVif, Item.resources]
        · simp [addVif, Item.resources]
      have vif : (Ledger.perform (addVif o) between).2.held .vif = true := by
        rw [Ledger.held_perform _ (by simp [addVif, Item.resources])]
        exact allocates
      simp only
      rcases result : Ledger.perform (addVif o) between with ⟨ok, last⟩
      rw [result] at adds added vif
      cases ok with
      | false =>
          obtain ⟨lawful, held⟩ := added.failVif lawful gone adds
          exact ⟨lawful, fun part _ _ => held part, (held .probe).trans gone⟩
      | true =>
          obtain ⟨lawful, others⟩ := added.registers vif adds
          refine ⟨lawful, others, ?_⟩
          rw [Ledger.held_assign, Function.update_of_ne (by decide)]
          exact added.probe

theorem Lawful.start (lawful : Lawful holdings) (gone : holdings.held .probe = false)
    (o : ProbeOutcomes) : Started holdings (start o holdings) := by
  rw [ObjectLife.start]
  split
  · exact ⟨lawful, fun _ _ _ => rfl, gone⟩
  · split
    · exact ⟨lawful, fun _ _ _ => rfl, gone⟩
    · exact lawful.setUp gone o

/-- Where `start` does not come to probe the hardware, nothing happens. -/
theorem start_of_unprobed (o : ProbeOutcomes) (unprobed : ¬ (o.chip = true ∧ o.probes = true))
    (holdings : Holdings) : start o holdings = (false, holdings) := by
  cases chip : o.chip <;> cases probes : o.probes <;> simp_all [start]

/-! ## The parts that come and go -/

/-- What comes and goes while the hardware stays. -/
theorem Lawful.of_update (lawful : Lawful holdings) {later : Holdings} {part : Part} {got : Bool}
    (accounted : later.Accounted Part.users)
    (held : later.held = Function.update holdings.held part got) (outside : part ∉ Part.ofStart)
    (there : part ∈ Part.ofLink → got = true → holdings.held .probe = true) : Lawful later := by
  have kept : ∀ other ∈ Part.ofStart, later.held other = holdings.held other := by
    intro other member
    rw [held]
    apply Function.update_of_ne
    rintro rfl
    exact outside member
  have probe := kept .probe (by decide)
  constructor
  · exact accounted
  · intro other member
    rw [kept other member, probe]
    exact lawful.started other member
  · intro other member set
    rw [probe]
    by_cases same : other = part
    · subst same
      rw [held, Function.update_self] at set
      exact there member set
    · rw [held, Function.update_of_ne same] at set
      exact lawful.linked other member set

theorem Lawful.powerOn (lawful : Lawful holdings) (starts : Bool) :
    Lawful (powerOn starts holdings) := by
  rw [ObjectLife.powerOn]
  split
  · exact lawful
  · rename_i off
    split
    · exact lawful
    · rename_i there
      apply lawful.of_update (lawful.accounted.assign starts (eq_false_of_ne_true off)) rfl
        (by decide)
      intro _ _
      simpa using there

theorem Lawful.powerOff (lawful : Lawful holdings) : Lawful (powerOff holdings) := by
  apply lawful.of_update (lawful.accounted.drop (List.forall_mem_nil _)) Ledger.held_drop
    (by decide)
  exact fun _ set => Bool.noConfusion set

theorem Lawful.allocScanRequest (lawful : Lawful holdings) (got : Bool) :
    Lawful (allocScanRequest got holdings) := by
  rw [ObjectLife.allocScanRequest]
  split
  · exact lawful
  · rename_i none
    apply lawful.of_update (lawful.accounted.assign got (eq_false_of_ne_true none)) rfl (by decide)
    exact fun member => absurd member (by decide)

theorem Lawful.addSta (lawful : Lawful holdings) (there : holdings.held .probe = true)
    (got : Bool) : Lawful (addSta got holdings) := by
  rw [ObjectLife.addSta]
  split
  · exact lawful
  · rename_i none
    apply lawful.of_update (lawful.accounted.assign got (eq_false_of_ne_true none)) rfl (by decide)
    exact fun _ _ => there

theorem held_installKey (holdings : Holdings) (pairwise installs : Bool) :
    (installKey pairwise installs holdings).held =
      Function.update holdings.held (keySlot pairwise) installs := by
  rw [installKey, Ledger.held_assign, Ledger.held_drop, Function.update_idem]

/-- A key comes in the place of the old one. -/
theorem Lawful.installKey (lawful : Lawful holdings) (there : holdings.held .probe = true)
    (pairwise installs : Bool) : Lawful (installKey pairwise installs holdings) := by
  have unused : ∀ user ∈ Part.users (keySlot pairwise), holdings.held user = false := by
    cases pairwise <;> exact List.forall_mem_nil _
  have emptied : (holdings.drop (keySlot pairwise)).held (keySlot pairwise) = false := by
    rw [Ledger.held_drop, Function.update_self]
  have accounted : (ObjectLife.installKey pairwise installs holdings).Accounted Part.users :=
    (lawful.accounted.drop unused).assign installs emptied
  have held := held_installKey holdings pairwise installs
  apply lawful.of_update accounted held
  · cases pairwise <;> decide
  · exact fun _ _ => there

theorem Lawful.doDisconnect (lawful : Lawful holdings) : Lawful (doDisconnect holdings) := by
  rw [ObjectLife.doDisconnect]
  split
  · have same : releaseSta (clearKeys holdings) =
        holdings.dropAll [.ptkConf, .gtkConf, .sta] := rfl
    rw [same]
    have held : ∀ part, (holdings.dropAll [.ptkConf, .gtkConf, .sta]).held part =
        (holdings.held part && decide (part ∉ [Part.ptkConf, .gtkConf, .sta])) :=
      Ledger.held_dropAll _
    constructor
    · exact lawful.accounted.dropAll (List.forall_mem_nil _) (by decide)
    · intro part member
      have apart : ∀ part ∈ Part.ofStart, part ∉ [Part.ptkConf, .gtkConf, .sta] := by decide
      rw [held, held, decide_eq_true (apart part member),
        decide_eq_true (apart .probe (by decide)), Bool.and_true, Bool.and_true]
      exact lawful.started part member
    · intro part member set
      rw [held, Bool.and_eq_true] at set
      rw [held, lawful.linked part member set.1]
      rfl
  · exact lawful

/-! ## The object -/

theorem nodup_ofInit : Part.ofInit.Nodup := by decide

/-- Without the hardware, `free` leaves nothing. -/
theorem held_free (lawful : Lawful holdings) (gone : holdings.held .probe = false) (part : Part) :
    (free holdings).held part = false := by
  have covered : part ∈ freed ∨ part ∈ Part.ofStart ∨ part = .powered := by
    cases part <;> decide
  rw [free, Ledger.held_dropAll]
  rcases covered with inside | started | rfl
  · simp [inside]
  · rw [lawful.started part started, gone, Bool.false_and]
  · rw [lawful.unlinked gone .powered (by decide), Bool.false_and]

theorem accounted_free (accounted : holdings.Accounted Part.users) :
    (free holdings).Accounted Part.users :=
  accounted.dropAll (List.forall_mem_nil _) (by decide)

theorem Lawful.destroy {life : ObjectLife} (lawful : Lawful life.holdings)
    (gone : life.holdings.held .probe = false) : Consistent life.destroy := by
  have nothing : (fun _ => false) = (free life.holdings).held := by
    ext part
    rw [held_free lawful gone]
  have kept : life.destroy.holdings = free life.holdings := by
    rw [ObjectLife.destroy, nothing]
  have absent : ∀ part, life.destroy.holdings.held part = false := fun _ => rfl
  constructor
  · constructor
    · rw [kept]
      exact accounted_free lawful.accounted
    · exact fun part _ => (absent part).trans (absent .probe).symm
    · exact fun part _ set => absurd set (by rw [absent]; exact Bool.false_ne_true)
  · exact fun _ => absent
  · exact fun born => Bool.noConfusion born

theorem held_init (nothing : ∀ part, holdings.held part = false) (o : InitOutcomes) :
    ∀ part ∉ Part.ofInit, (init o holdings).2.held part = false :=
  fun part outside => (Ledger.held_perform (initItems o) outside).trans (nothing part)

theorem Lawful.init (lawful : Lawful holdings) (nothing : ∀ part, holdings.held part = false)
    (o : InitOutcomes) : Lawful (init o holdings).2 := by
  have others := held_init nothing o
  have apart : ∀ part ∈ Part.ofStart ++ Part.ofLink, part ∉ Part.ofInit := by decide
  constructor
  · exact lawful.accounted.perform (initItems o) (fun part _ => nothing part) nodup_ofInit
  · intro part member
    rw [others part (apart part (List.mem_append_left _ member)), others .probe (by decide)]
  · intro part member set
    rw [others part (apart part (List.mem_append_right _ member))] at set
    exact Bool.noConfusion set

theorem Consistent.create (consistent : Consistent life) (absent : life.alive = false)
    (o : InitOutcomes) : Consistent (life.create o) := by
  have nothing := consistent.unborn absent
  have lawful := consistent.toLawful.init nothing o
  have gone : (init o life.holdings).2.held .probe = false :=
    held_init nothing o .probe (by decide)
  have whole : (init o life.holdings).1 = true →
      ∀ part ∈ Part.ofInit, (init o life.holdings).2.held part = true :=
    fun succeeds part member => Ledger.held_perform_of_succeeds (initItems o) succeeds member
  rw [ObjectLife.create]
  rcases result : ObjectLife.init o life.holdings with ⟨ok, later⟩
  rw [result] at lawful gone whole
  cases ok with
  | true => exact ⟨lawful, fun dead => Bool.noConfusion dead, fun _ => whole rfl⟩
  | false => exact lawful.destroy gone

end ObjectLife

end AirportRtw88
