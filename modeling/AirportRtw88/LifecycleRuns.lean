import AirportRtw88.LifecycleParts

/-!
# Runs of any number of controllers

IOKit starts, stops and frees the controllers in any order.
-/

namespace AirportRtw88

open Interleave

namespace Kext

variable {n : Nat} {counting : Prop} {kext : Kext n} {self : Fin n} {members : Member → Bool}

/-! ## What the parts add to the log -/

/-- `g_pci_dev_instance` is left alone, and the log only grows. -/
structure Extends (kext later : Kext n) : Prop where
  hwOps : later.hwOps = kext.hwOps
  log : kext.log <+: later.log

theorem Extends.refl (kext : Kext n) : kext.Extends kext := ⟨rfl, List.prefix_rfl⟩

theorem Extends.trans {first second third : Kext n} (one : first.Extends second)
    (other : second.Extends third) : first.Extends third :=
  ⟨other.hwOps.trans one.hwOps, one.log.trans other.log⟩

theorem extends_assign (kext : Kext n) (p : Pointer n) (got : Bool) :
    kext.Extends (kext.assign p got) := by
  constructor
  · rfl
  · cases got with
    | false => exact List.prefix_rfl
    | true => exact List.prefix_append kext.log _

theorem extends_drop (kext : Kext n) (p : Pointer n) : kext.Extends (kext.drop p) := by
  constructor
  · exact kext.hwOps_drop p
  · rw [drop]
    split
    · exact List.prefix_append kext.log _
    · exact List.prefix_rfl

theorem Extends.assign {first : Kext n} (exts : first.Extends kext) (p : Pointer n) (got : Bool) :
    first.Extends (kext.assign p got) :=
  exts.trans (kext.extends_assign p got)

theorem Extends.drop {first : Kext n} (exts : first.Extends kext) (p : Pointer n) :
    first.Extends (kext.drop p) :=
  exts.trans (kext.extends_drop p)

theorem extends_compatInit (kext : Kext n) (outcomes : CompatObject → Bool) :
    kext.Extends (kext.compatInit outcomes).2 := by
  have begins := Extends.refl kext
  rw [compatInit]
  dsimp only
  split
  · exact begins
  · split
    · exact begins.assign _ _
    · have allocated := (((begins.assign (.compat .workStateLock) (outcomes .workStateLock)).assign
        (.compat .logLock) (outcomes .logLock)).assign
        (.compat .systemWq) (outcomes .systemWq)).assign
        (.compat .systemLongWq) (outcomes .systemLongWq)
      split
      · exact (((allocated.drop _).drop _).drop _).drop _
      · exact allocated

theorem extends_initCompat (self : Fin n) (o : StartOutcomes) (kext : Kext n) :
    kext.Extends (kext.initCompat self o).2 := by
  have inits := extends_compatInit kext o.compat
  rw [initCompat]
  split
  · rename_i result
    rw [result] at inits
    exact inits.assign _ _
  · rename_i result
    rw [result] at inits
    exact inits

theorem extends_setupInterrupt (self : Fin n) (o : StartOutcomes) (kext : Kext n) :
    kext.Extends (kext.setupInterrupt self o).2 := by
  have created := (Extends.refl kext).assign (.member self .intrSrc) o.intrSrc
  rw [setupInterrupt]
  split
  · exact created
  · split
    · exact created.drop _
    · exact created

theorem extends_startIeee80211 (self : Fin n) (o : StartOutcomes) (kext : Kext n) :
    kext.Extends (kext.startIeee80211 self o).2 := by
  rw [startIeee80211]
  split
  · exact kext.extends_assign _ _
  · exact .refl kext

theorem extends_attachNetif (self : Fin n) (o : StartOutcomes) (kext : Kext n) :
    kext.Extends (kext.attachNetif self o).2 := by
  have created := (Extends.refl kext).assign (.member self .netif) o.netif
  rw [attachNetif]
  dsimp only
  split
  · exact created
  · have attached := created.assign (.member self .netifAttached) true
    split
    · exact (attached.drop _).drop _
    · exact attached

/-- The parts of `bringUp` after `g_pci_dev_instance` is assigned. -/
def afterInstall (self : Fin n) (o : StartOutcomes) : List (Attempt n) :=
  [initCompat self o,
    acquire self .compatPciDev o.compatPciDev,
    fun kext => (kext.pointers (.member self .workLoop), kext),
    setupInterrupt self o,
    acquire self .ieee80211 o.ieee80211,
    startIeee80211 self o,
    initAwdlManager self o,
    attachNetif self o,
    acquire self .interrupts true]

theorem extends_inOrder (rest : List (Attempt n))
    (each : ∀ attempt ∈ rest, ∀ kext : Kext n, kext.Extends (attempt kext).2) (kext : Kext n) :
    kext.Extends (inOrder rest kext).2 := by
  induction rest generalizing kext with
  | nil => exact .refl kext
  | cons attempt rest ih =>
      have one := each attempt List.mem_cons_self kext
      rw [inOrder]
      split
      · rename_i later result
        rw [result] at one
        exact one.trans (ih (fun other member => each other (List.mem_cons_of_mem _ member)) later)
      · rename_i later result
        rw [result] at one
        exact one

theorem extends_afterInstall (self : Fin n) (o : StartOutcomes) (kext : Kext n) :
    kext.Extends (inOrder (afterInstall self o) kext).2 := by
  apply extends_inOrder
  simp only [afterInstall, List.forall_mem_cons, List.not_mem_nil, false_imp_iff, implies_true,
    and_true]
  exact ⟨extends_initCompat self o, fun kext => kext.extends_assign _ _, Extends.refl,
    extends_setupInterrupt self o, fun kext => kext.extends_assign _ _,
    extends_startIeee80211 self o, fun kext => kext.extends_assign _ _,
    extends_attachNetif self o, fun kext => kext.extends_assign _ _⟩

/-- `bringUp` assigns `g_pci_dev_instance` once it has the locks and the registers. -/
theorem bringUp_eq (self : Fin n) (o : StartOutcomes) (kext : Kext n) :
    bringUp self o kext =
      if !(o.dmaLock && o.pendingFreeLock) then (false, (kext.allocLocks self o).2)
      else
        let kext := (kext.allocLocks self o).2.assign (.member self .mmioMap) o.mmioMap
        if !o.mmioMap then (false, kext)
        else inOrder (afterInstall self o) (kext.installHwOps self) := by
  cases both : o.dmaLock && o.pendingFreeLock <;> cases map : o.mmioMap <;>
    simp [bringUp, inOrder, Kext.allocLocks, Kext.acquire, both, map, afterInstall]

theorem hwOps_bringUp (self : Fin n) (o : StartOutcomes) (kext : Kext n)
    (ok : (bringUp self o kext).1 = true) : (bringUp self o kext).2.hwOps = some self := by
  rw [bringUp_eq] at ok ⊢
  split at ok
  · exact absurd ok Bool.false_ne_true
  · rename_i locked
    rw [if_neg locked]
    dsimp only at ok ⊢
    split at ok
    · exact absurd ok Bool.false_ne_true
    · rename_i mapped
      rw [if_neg mapped]
      exact (extends_afterInstall self o _).hwOps

/-! ## The calls -/

theorem extends_createWorkLoop (self : Fin n) (o : StartOutcomes) (kext : Kext n) :
    kext.Extends (kext.createWorkLoop self o) := by
  rw [createWorkLoop]
  split
  · exact .refl kext
  · exact kext.extends_assign _ _

theorem phase_createWorkLoop (self : Fin n) (o : StartOutcomes) (kext : Kext n) :
    (kext.createWorkLoop self o).phase = kext.phase := by
  rw [createWorkLoop]
  split <;> rfl

theorem Calling.createWorkLoop (o : StartOutcomes)
    (calling : kext.Calling counting self fun _ => false) :
    (kext.createWorkLoop self o).Calling counting self
      (Function.update (fun _ => false) .workLoop o.workLoop) := by
  rw [Kext.createWorkLoop, calling.own, if_neg Bool.false_ne_true]
  exact calling.assign .workLoop o.workLoop (by decide) rfl

theorem Calling.stop (calling : kext.Calling counting self members) (closed : Closed members) :
    (kext.stop self).Calling counting self (fun _ => false) ∧ (kext.stop self).hwOps ≠ some self :=
  by
  have stopped := calling.drop .superStarted (by decide) nofun nofun
  apply stopped.teardown
  · constructor
    · simpa using closed.interrupts
    · simpa using closed.ieeeStarted
    · simpa using closed.netifAttached
  · exact Function.update_self _ _ _

/-- A failed `start` leaves at most the work loop. -/
theorem Calling.start (o : StartOutcomes) (calling : kext.Calling counting self fun _ => false)
    (uncontested : counting → o.isPciDevice = true → o.superStarts = true → Installs o →
      ∀ c ≠ self, kext.phase c ≠ .running)
    (owner : kext.hwOps ≠ some self) :
    ((kext.start self o).2.enter self
      (if (kext.start self o).1 then .running else .failed)).Lawful counting := by
  have loops := calling.createWorkLoop o
  rw [Kext.start]
  split
  · exact calling.leaves (fun _ _ => rfl) (iff_of_false owner nofun)
  rename_i isPciDevice
  dsimp only
  split
  · apply loops.leaves
    · exact fun m other => Function.update_of_ne other _ _
    · exact iff_of_false ((extends_createWorkLoop self o kext).hwOps ▸ owner) nofun
  · rename_i superStarts
    have started := loops.assign .superStarted true (by decide) rfl
    have retains := started.assign .pciDev true (by decide) rfl
    have begins : Kext.Calling counting self (begun o.workLoop) _ :=
      retains.congr fun m => by cases m <;> rfl
    have alone := fun counts => uncontested counts (by simpa using isPciDevice)
      (by simpa using superStarts)
    have meets := bringUp_meets o o.workLoop kext.phase alone _
      ⟨begins, phase_createWorkLoop self o kext⟩
    split
    · rename_i later result
      rw [result] at meets
      have installed := hwOps_bringUp self o _ (congrArg Prod.fst result)
      rw [result] at installed
      exact (meets.1 rfl).leaves (fun _ => rfl) (iff_of_true installed rfl)
    · rename_i later result
      rw [result] at meets
      obtain ⟨members, closed, halfway⟩ := meets.2 rfl
      obtain ⟨stopped, noShims⟩ := halfway.stop closed
      exact stopped.leaves (fun _ _ => rfl) (iff_of_false noShims nofun)

/-- No start gets as far as `g_pci_dev_instance` while another controller runs. -/
def Uncontested : LifeCall n → Kext n → Prop
  | .start self o, kext =>
      kext.phase self = .fresh → o.isPciDevice = true → o.superStarts = true → Installs o →
        ∀ c, kext.phase c ≠ .running
  | _, _ => True

theorem Lawful.owner_ne (lawful : kext.Lawful counting) (idle : kext.phase self ≠ .running) :
    kext.hwOps ≠ some self :=
  fun owns => idle (lawful.owner self owns)

/-- Every call keeps the law, and the accounts as well where it is not contested. -/
theorem Lawful.step (lawful : kext.Lawful counting) {call : LifeCall n} {later : Kext n}
    (uncontested : counting → Uncontested call kext) (steps : kext.step call = some later) :
    later.Lawful counting := by
  cases call with
  | start self o =>
      rw [Kext.step] at steps
      obtain ⟨fresh, starts⟩ := Option.ite_none_right_eq_some.mp steps
      cases starts
      have fits := lawful.fits self
      rw [fresh] at fits
      have calling := (lawful.enters self).congr fits
      apply calling.start o
      · exact fun counts isPciDevice superStarts installs c _ =>
          uncontested counts fresh isPciDevice superStarts installs c
      · exact lawful.owner_ne (by simp [fresh])
  | stop self =>
      obtain ⟨runs, stops⟩ := Option.ite_none_right_eq_some.mp steps
      cases stops
      have fits := lawful.fits self
      rw [runs] at fits
      have calling := (lawful.enters self).congr fits
      obtain ⟨stopped, noShims⟩ := calling.stop ⟨fun _ => rfl, fun _ => rfl, fun _ => rfl⟩
      exact stopped.leaves (fun _ => rfl) (iff_of_false noShims nofun)
  | free self =>
      obtain ⟨idle, frees⟩ := Option.ite_none_right_eq_some.mp steps
      cases frees
      have rests : kext.phase self ≠ .running := by
        rcases idle with fresh | failed | stopped
        · simp [fresh]
        · simp [failed]
        · simp [stopped]
      have gone := fun m (other : m ≠ Member.workLoop) => (lawful.fits self).idle rests other
      have closed : Closed fun m => kext.pointers (.member self m) := by
        constructor <;> simp [gone]
      obtain ⟨torn, noShims⟩ := (lawful.enters self).teardown closed (gone _ (by decide))
      exact torn.leaves (fun _ => rfl) (iff_of_false noShims nofun)

theorem holds_loaded (n : Nat) : (loaded n).holds = fun _ => false := by
  ext resource
  cases resource <;> rfl

theorem lawful_loaded (n : Nat) (counting : Prop) : (loaded n).Lawful counting where
  exclusive := nofun
  layer := by simp [loaded]
  accounted _ := by
    rw [Accounted, holds_loaded]
    exact Custody.Leaves.nil
  fits _ _ := rfl
  owner := nofun
  owns := nofun

/-! ## Contested starts -/

theorem log_exitCompat (self : Fin n) (kext : Kext n) :
    kext.log <+: (kext.exitCompat self).log := by
  rw [exitCompat]
  split
  · exact ((((((Extends.refl kext).drop _).drop _).drop _).drop _).drop _).log
  · exact List.prefix_rfl

theorem log_uninstallHwOps (self : Fin n) (kext : Kext n) :
    kext.log <+: (kext.uninstallHwOps self).log := by
  rw [uninstallHwOps]
  split
  · exact List.prefix_append kext.log _
  · exact List.prefix_rfl

theorem extends_releaseIeee80211 (self : Fin n) (kext : Kext n) :
    kext.Extends
      (releaseIeee80211 self (detachNetif self ((kext.disableInterrupts self).drop
        (.member self .awdlManager)))) := by
  have disabled : kext.Extends (kext.disableInterrupts self) := by
    rw [disableInterrupts]
    split
    · exact kext.extends_drop _
    · exact .refl kext
  have detached : kext.Extends (detachNetif self ((kext.disableInterrupts self).drop
      (.member self .awdlManager))) := by
    rw [detachNetif]
    split
    · exact ((disabled.drop _).drop _).drop _
    · exact disabled.drop _
  rw [releaseIeee80211]
  split
  · exact (detached.drop _).drop _
  · exact detached

theorem log_teardown (self : Fin n) (kext : Kext n) : kext.log <+: (kext.teardown self).log := by
  apply (extends_releaseIeee80211 self kext).log.trans
  apply (log_exitCompat self _).trans
  apply (((((Extends.refl _).drop _).drop _).drop _).drop _).log.trans
  apply (log_uninstallHwOps self _).trans
  exact ((((Extends.refl _).drop _).drop _).drop _).log

theorem phase_releaseIeee80211 (self : Fin n) (kext : Kext n) :
    (kext.releaseIeee80211 self).phase = kext.phase := by
  rw [releaseIeee80211]
  split
  · rw [phase_drop, phase_drop]
  · rfl

theorem phase_teardown (self : Fin n) (kext : Kext n) :
    (kext.teardown self).phase = kext.phase := by
  have disabled : (kext.disableInterrupts self).phase = kext.phase := by
    rw [disableInterrupts]
    split <;> simp
  have detached : ∀ kext : Kext n, (kext.detachNetif self).phase = kext.phase := by
    intro kext
    rw [detachNetif]
    split <;> simp
  have exited : ∀ kext : Kext n, (kext.exitCompat self).phase = kext.phase := by
    intro kext
    rw [exitCompat]
    split <;> simp [compatExit]
  have uninstalled : ∀ kext : Kext n, (kext.uninstallHwOps self).phase = kext.phase := by
    intro kext
    rw [uninstallHwOps]
    split <;> rfl
  simp [teardown, disabled, detached, exited, uninstalled, phase_releaseIeee80211]

theorem hwOps_teardown (owns : kext.hwOps = some self) : (kext.teardown self).hwOps = none := by
  rw [teardown, hwOps_drop, hwOps_drop, hwOps_drop, uninstallHwOps, if_pos]
  rw [hwOps_drop, hwOps_drop, hwOps_drop, hwOps_drop, exitCompat]
  split
  · rw [hwOps_drop, compatExit, hwOps_drop, hwOps_drop, hwOps_drop, hwOps_drop]
    exact (extends_releaseIeee80211 self kext).hwOps.trans owns
  · exact (extends_releaseIeee80211 self kext).hwOps.trans owns

/-- The kext when `start` assigns `g_pci_dev_instance`. -/
def beforeInstall (self : Fin n) (o : StartOutcomes) (kext : Kext n) : Kext n :=
  let kext := (kext.createWorkLoop self o).assign (.member self .superStarted) true
  let kext := (kext.assign (.member self .pciDev) true).assign (.member self .dmaLock) true
  (kext.assign (.member self .pendingFreeLock) true).assign (.member self .mmioMap) true

/-- A start that gets as far as `g_pci_dev_instance` while the compat layer is there fails. -/
theorem start_of_up {o : StartOutcomes} (isPciDevice : o.isPciDevice = true)
    (superStarts : o.superStarts = true) (installs : Installs o)
    (up : kext.pointers (.compat .systemWq) = true) :
    kext.start self o =
      (false, ((kext.beforeInstall self o).installHwOps self).failStart self) := by
  obtain ⟨dmaLock, pendingFreeLock, mmioMap⟩ := installs
  have stillUp : ((kext.beforeInstall self o).installHwOps self).pointers (.compat .systemWq) =
      true := by
    rw [installHwOps, beforeInstall, createWorkLoop]
    split <;> simpa using up
  have busy : inOrder (afterInstall self o) ((kext.beforeInstall self o).installHwOps self) =
      (false, (kext.beforeInstall self o).installHwOps self) := by
    simp [afterInstall, inOrder, initCompat, compatInit, stillUp]
  have fails : bringUp self o (((kext.createWorkLoop self o).assign (.member self .superStarted)
      true).assign (.member self .pciDev) true) =
      (false, (kext.beforeInstall self o).installHwOps self) := by
    rw [bringUp_eq, ← busy]
    simp [Kext.allocLocks, dmaLock, pendingFreeLock, mmioMap, beforeInstall]
  rw [start, isPciDevice, superStarts]
  simp [fails]

theorem Lawful.contested (lawful : kext.Lawful counting) {c : Fin n}
    (runs : kext.phase c = .running) (o : CompatObject) : kext.pointers (.compat o) = true := by
  have fits := lawful.fits c
  rw [runs] at fits
  exact (lawful.layer o).mpr ⟨c, fits .compatInitialized⟩

theorem extends_beforeInstall (self : Fin n) (o : StartOutcomes) (kext : Kext n) :
    kext.Extends (kext.beforeInstall self o) := by
  have loops := extends_createWorkLoop self o kext
  exact ((((loops.assign _ _).assign _ _).assign _ _).assign _ _).assign _ _

theorem Calling.beforeInstall (o : StartOutcomes)
    (calling : kext.Calling counting self fun _ => false) :
    ∃ members, (kext.beforeInstall self o).Calling counting self members ∧
      members .ieee80211 = false := by
  have loops := calling.createWorkLoop o
  have started := loops.assign .superStarted true (by decide) rfl
  have retained := started.assign .pciDev true (by decide) rfl
  have locked := retained.assign .dmaLock true (by decide) rfl
  have pending := locked.assign .pendingFreeLock true (by decide) rfl
  exact ⟨_, pending.assign .mmioMap true (by decide) rfl, rfl⟩

/-- A contested start takes the shims from under the state machine of the other controller. -/
theorem Lawful.not_accounted (lawful : kext.Lawful True) {o : StartOutcomes} {c : Fin n}
    (fresh : kext.phase self = .fresh) (runs : kext.phase c = .running)
    (isPciDevice : o.isPciDevice = true) (superStarts : o.superStarts = true)
    (installs : Installs o) (phase : Phase) :
    ¬ ((kext.start self o).2.enter self phase).Accounted := by
  rw [start_of_up isPciDevice superStarts installs (lawful.contested runs .systemWq)]
  have fits := lawful.fits self
  rw [fresh] at fits
  have begins := ((lawful.enters self).congr fits).beforeInstall o
  obtain ⟨members, calling, -⟩ := begins
  have ne : c ≠ self := by
    rintro rfl
    rw [fresh] at runs
    exact Phase.noConfusion runs
  have exts := extends_beforeInstall self o kext
  have owns : (kext.beforeInstall self o).hwOps = some c :=
    exts.hwOps.trans (lawful.owns trivial c runs)
  have samePhase : (kext.beforeInstall self o).phase = kext.phase :=
    phase_createWorkLoop self o kext
  have machine : (kext.beforeInstall self o).holds (.member c .ieee80211) = true := by
    have fits := calling.fits c ne
    rw [samePhase, runs] at fits
    exact fits .ieee80211
  obtain ⟨more, grows⟩ : ((kext.beforeInstall self o).installHwOps self).log <+:
      (((kext.beforeInstall self o).installHwOps self).failStart self).log :=
    (extends_drop _ _).log.trans (log_teardown self _)
  have uses : Resource.member c .ieee80211 ∈ Resource.users (.hwOps c) :=
    List.mem_singleton_self _
  have broken := (calling.accounted trivial).not_release uses machine
    (.acquire (.hwOps self) :: more)
  have log : (((kext.beforeInstall self o).installHwOps self).failStart self).log =
      (kext.beforeInstall self o).log ++
        .release (.hwOps c) :: .acquire (.hwOps self) :: more := by
    rw [← grows, installHwOps, owns]
    simp
  intro accounted
  have kept : Custody.run Resource.users
      (((kext.beforeInstall self o).installHwOps self).failStart self).log (fun _ => false) =
        some _ := accounted
  rw [log, broken] at kept
  exact Option.some_ne_none _ kept.symm

/-- Along a run of any calls, nothing is acquired twice, nothing is released twice or while
something that uses it is held, and what is not released is what the pointers say, exactly if no
start gets as far as `g_pci_dev_instance` while another controller runs. -/
theorem along_accounted_iff (calls : List (LifeCall n)) :
    (machine n).Along Accounted calls (loaded n) ↔
      (machine n).Keeps Uncontested calls (loaded n) := by
  have gives : ∀ kext : Kext n, kext.Lawful True → kext.Accounted :=
    fun kext lawful => lawful.accounted trivial
  have kept : ∀ (call : LifeCall n) (kext later : Kext n), kext.Lawful True →
      Uncontested call kext → (machine n).step call kext = some later → later.Lawful True :=
    fun call kext later lawful uncontested steps => lawful.step (fun _ => uncontested) steps
  have lost : ∀ (call : LifeCall n) (kext : Kext n), kext.Lawful True →
      ¬ Uncontested call kext →
      ∃ later, (machine n).step call kext = some later ∧ ¬ later.Accounted := by
    intro call kext lawful contested
    cases call with
    | start self o =>
        simp only [Uncontested, not_forall, not_not] at contested
        obtain ⟨fresh, isPciDevice, superStarts, installs, c, runs⟩ := contested
        exact ⟨_, if_pos fresh,
          lawful.not_accounted fresh runs isPciDevice superStarts installs _⟩
    | stop self => exact absurd trivial contested
    | free self => exact absurd trivial contested
  exact Machine.along_iff_keeps gives kept lost calls (lawful_loaded n True)

/-- In a run without a contested start, a controller that has stopped has released each of its
members as often as it has acquired it. -/
theorem balanced_of_ended {kext : Kext n}
    (reaches : (machine n).Reaches Uncontested (loaded n) kext) {c : Fin n}
    (ended : kext.phase c = .stopped ∨ kext.phase c = .freed) (m : Member) :
    kext.log.count (.acquire (.member c m)) = kext.log.count (.release (.member c m)) := by
  have lawful : kext.Lawful True := by
    apply reaches.keeps (Lawful True)
    · exact fun call before after allowed steps lawful => lawful.step (fun _ => allowed) steps
    · exact lawful_loaded n True
  have fits := lawful.fits c
  have gone : kext.pointers (.member c m) = false := by
    rcases ended with stopped | freed
    · rw [stopped] at fits
      exact fits m
    · rw [freed] at fits
      exact fits m
  exact (lawful.accounted trivial).released gone

/-- In every run, contested or not, at most one controller runs, with all its members; the compat
layer is there exactly while one does; a stopped or freed controller has no member left.  A start
that gets as far as `g_pci_dev_instance` while another controller runs fails, and takes the shims
from that one. -/
theorem controllers_exclude {kext : Kext n}
    (reaches : (machine n).Reaches Machine.free (loaded n) kext) :
    (∀ c d, kext.phase c = .running → kext.phase d = .running → c = d) ∧
      (∀ c, kext.phase c = .running → ∀ m, kext.pointers (.member c m) = true) ∧
      (∀ o, kext.pointers (.compat o) = true ↔ ∃ c, kext.phase c = .running) ∧
      (∀ c, kext.phase c = .stopped ∨ kext.phase c = .freed →
        ∀ m, kext.pointers (.member c m) = false) ∧
      (∀ c, kext.hwOps = some c → kext.phase c = .running) ∧
      ∀ self c o, kext.phase self = .fresh → kext.phase c = .running → o.isPciDevice = true →
        o.superStarts = true → Installs o → ∃ later, kext.step (.start self o) = some later ∧
          later.phase self = .failed ∧ later.phase c = .running ∧ later.hwOps = none := by
  have lawful : kext.Lawful False := by
    apply reaches.keeps (Lawful False)
    · exact fun call before after _ steps lawful => lawful.step False.elim steps
    · exact lawful_loaded n False
  have complete : ∀ c, kext.phase c = .running → ∀ m, kext.pointers (.member c m) = true := by
    intro c runs
    have fits := lawful.fits c
    rw [runs] at fits
    exact fits
  have inCharge : ∀ c, kext.pointers (.member c .compatInitialized) = true →
      kext.phase c = .running := by
    intro c charged
    by_contra idle
    have null : kext.pointers (.member c .compatInitialized) = false :=
      (lawful.fits c).idle idle (by decide)
    rw [null] at charged
    exact Bool.noConfusion charged
  refine ⟨?_, complete, ?_, ?_, lawful.owner, ?_⟩
  · intro c d first second
    exact lawful.exclusive c d (complete c first _) (complete d second _)
  · intro o
    rw [lawful.layer]
    exact exists_congr fun c => ⟨inCharge c, fun runs => complete c runs _⟩
  · intro c ended
    have fits := lawful.fits c
    rcases ended with stopped | freed
    · rw [stopped] at fits
      exact fits
    · rw [freed] at fits
      exact fits
  · intro self c o fresh runs isPciDevice superStarts installs
    have up := lawful.contested runs .systemWq
    have fails : kext.start self o = _ := start_of_up isPciDevice superStarts installs up
    have ne : c ≠ self := by
      rintro rfl
      rw [fresh] at runs
      exact Phase.noConfusion runs
    have samePhase : (((kext.beforeInstall self o).installHwOps self).failStart self).phase =
        kext.phase := by
      rw [failStart, phase_teardown, phase_drop]
      exact phase_createWorkLoop self o kext
    refine ⟨_, if_pos fresh, ?_⟩
    rw [fails]
    refine ⟨Function.update_self _ _ _, ?_, ?_⟩
    · rw [phase_enter, Function.update_of_ne ne, samePhase]
      exact runs
    · apply hwOps_teardown
      rw [hwOps_drop]
      rfl

/-- What `start` gets where nothing fails. -/
def allGood : StartOutcomes where
  isPciDevice := true
  workLoop := true
  superStarts := true
  dmaLock := true
  pendingFreeLock := true
  mmioMap := true
  compat _ := true
  compatPciDev := true
  intrSrc := true
  addEventSource := true
  ieee80211 := true
  ieeeStarts := true
  awdlManager := true
  awdlInit := true
  attachInterface := true
  netif := true
  isAirportInterface := true

/-- Two controllers, of which the first one runs. -/
def firstRuns : Kext 2 :=
  ((loaded 2).start 0 allGood).2.enter 0 .running

theorem controllers_exclude_second : ∃ later, firstRuns.step (.start 1 allGood) = some later ∧
    later.phase 1 = .failed ∧ later.phase 0 = .running ∧ later.hwOps = none := by
  have reaches : (machine 2).Reaches Machine.free (loaded 2) firstRuns :=
    Machine.reaches_of_play [.start 0 allGood] rfl
  exact (controllers_exclude reaches).2.2.2.2.2 1 0 allGood rfl rfl rfl rfl ⟨rfl, rfl, rfl⟩

end Kext

end AirportRtw88
