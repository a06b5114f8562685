import AirportRtw88.Lifecycle

/-!
# The parts of start and stop

What each part of `start` and `teardown` keeps of the rules by which the controllers share the
kext, one part after the other.
-/

namespace AirportRtw88

variable {n : Nat}

/-- What a controller holds in a phase; where `super::start` fails it keeps its work loop until it
is freed. -/
def Phase.Fits : Phase → (Member → Bool) → Prop
  | .running, members => ∀ m, members m = true
  | .failed, members => ∀ m, m ≠ .workLoop → members m = false
  | _, members => ∀ m, members m = false

/-- What nobody but a running controller holds. -/
theorem Phase.Fits.idle {phase : Phase} {members : Member → Bool} (fits : phase.Fits members)
    (idle : phase ≠ .running) {m : Member} (other : m ≠ .workLoop) : members m = false := by
  cases phase with
  | running => exact absurd rfl idle
  | failed => exact fits m other
  | fresh => exact fits m
  | stopped => exact fits m
  | freed => exact fits m

/-- The controllers share the compat layer, of which only one of them can be in charge.  The
accounts are kept where `counting` holds. -/
structure Kext.Shares (counting : Prop) (kext : Kext n) : Prop where
  exclusive : ∀ c d, kext.pointers (.member c .compatInitialized) = true →
    kext.pointers (.member d .compatInitialized) = true → c = d
  layer : ∀ o, kext.pointers (.compat o) = true ↔
    ∃ c, kext.pointers (.member c .compatInitialized) = true
  accounted : counting → kext.Accounted

/-- What holds between the calls. -/
structure Kext.Lawful (counting : Prop) (kext : Kext n) : Prop extends
    Kext.Shares counting kext where
  fits : ∀ c, (kext.phase c).Fits fun m => kext.pointers (.member c m)
  owner : ∀ c, kext.hwOps = some c → kext.phase c = .running
  owns : counting → ∀ c, kext.phase c = .running → kext.hwOps = some c

/-- What holds while a call of the controller `mine`, which has these members, is under way. -/
structure Kext.Calling (counting : Prop) (mine : Fin n) (members : Member → Bool)
    (kext : Kext n) : Prop extends Kext.Shares counting kext where
  own : ∀ m, kext.pointers (.member mine m) = members m
  fits : ∀ c ≠ mine, (kext.phase c).Fits fun m => kext.pointers (.member c m)
  owner : ∀ c ≠ mine, kext.hwOps = some c → kext.phase c = .running
  owns : counting → ∀ c ≠ mine, kext.phase c = .running → kext.hwOps = some c

namespace Kext

variable {counting : Prop} {kext : Kext n} {self : Fin n} {members : Member → Bool} {m : Member}

theorem Lawful.enters (lawful : kext.Lawful counting) (self : Fin n) :
    kext.Calling counting self (fun m => kext.pointers (.member self m)) where
  toShares := lawful.toShares
  own _ := rfl
  fits c _ := lawful.fits c
  owner c _ := lawful.owner c
  owns counts c _ := lawful.owns counts c

theorem Calling.leaves (calling : kext.Calling counting self members) {phase : Phase}
    (fits : phase.Fits members)
    (owner : kext.hwOps = some self ↔ phase = .running) :
    (kext.enter self phase).Lawful counting where
  exclusive := calling.exclusive
  layer := calling.layer
  accounted := calling.accounted
  fits c := by
    by_cases same : c = self
    · subst same
      rw [phase_enter, Function.update_self, pointers_enter, funext calling.own]
      exact fits
    · rw [phase_enter, Function.update_of_ne same]
      exact calling.fits c same
  owner c is := by
    by_cases same : c = self
    · subst same
      rw [phase_enter, Function.update_self]
      exact owner.mp is
    · rw [phase_enter, Function.update_of_ne same]
      exact calling.owner c same is
  owns counts c runs := by
    by_cases same : c = self
    · subst same
      rw [phase_enter, Function.update_self] at runs
      exact owner.mpr runs
    · rw [phase_enter, Function.update_of_ne same] at runs
      exact calling.owns counts c same runs

theorem Calling.congr (calling : kext.Calling counting self members) {others : Member → Bool}
    (same : ∀ m, members m = others m) : kext.Calling counting self others := by
  rw [← funext same]
  exact calling

/-- Another member than the one for the compat layer is written. -/
theorem Calling.write (calling : kext.Calling counting self members) {later : Kext n} {got : Bool}
    (other : m ≠ .compatInitialized)
    (written : later.pointers = Function.update kext.pointers (.member self m) got)
    (hwOps : later.hwOps = kext.hwOps) (phase : later.phase = kext.phase)
    (accounted : counting → later.Accounted) :
    later.Calling counting self (Function.update members m got) where
  exclusive c d := by
    simpa [written, other.symm] using calling.exclusive c d
  layer o := by
    simpa [written, other.symm] using calling.layer o
  accounted := accounted
  own x := by
    by_cases same : x = m
    · subst same
      rw [written, Function.update_self, Function.update_self]
    · rw [written, Function.update_of_ne (by simp [same]), Function.update_of_ne same]
      exact calling.own x
  fits c ne := by
    simpa [written, phase, ne] using calling.fits c ne
  owner c ne := by
    rw [hwOps, phase]
    exact calling.owner c ne
  owns counts c ne := by
    rw [hwOps, phase]
    exact calling.owns counts c ne

theorem Calling.assign (calling : kext.Calling counting self members) (m : Member) (got : Bool)
    (other : m ≠ .compatInitialized) (free : members m = false) :
    (kext.assign (.member self m) got).Calling counting self (Function.update members m got) :=
  calling.write other rfl rfl rfl fun counts =>
    (calling.accounted counts).assign ((calling.own m).trans free)

theorem Calling.drop (calling : kext.Calling counting self members) (m : Member)
    (other : m ≠ .compatInitialized) (unused : ∀ user ∈ m.users, members user = false)
    (shims : m.usedByShims = true → kext.hwOps ≠ some self) :
    (kext.drop (.member self m)).Calling counting self (Function.update members m false) := by
  apply calling.write other (kext.pointers_drop _) (kext.hwOps_drop _) (kext.phase_drop _)
  intro counts
  apply (calling.accounted counts).drop
  intro user uses
  rcases List.mem_append.mp uses with own | shim
  · obtain ⟨x, member, rfl⟩ := List.mem_map.mp own
    exact (calling.own x).trans (unused x member)
  · split at shim
    · rename_i used
      obtain rfl := List.mem_singleton.mp shim
      exact decide_eq_false (shims used)
    · exact absurd shim List.not_mem_nil

/-! ## The compat layer -/

/-- No state machine is there that could call into the compat layer, and no interrupt arrives. -/
def Quiet (kext : Kext n) : Prop :=
  ∀ c, kext.pointers (.member c .ieee80211) = false ∧ kext.pointers (.member c .interrupts) = false

theorem Calling.quiet (calling : kext.Calling counting self members)
    (alone : ∀ c ≠ self, kext.pointers (.member c .compatInitialized) = false)
    (machine : members .ieee80211 = false) (interrupts : members .interrupts = false) :
    kext.Quiet := by
  intro c
  by_cases same : c = self
  · subst same
    exact ⟨(calling.own _).trans machine, (calling.own _).trans interrupts⟩
  · have fits := calling.fits c same
    have idle : kext.phase c ≠ .running := by
      intro runs
      rw [runs] at fits
      have inCharge : kext.pointers (.member c .compatInitialized) = true := fits _
      rw [alone c same] at inCharge
      exact Bool.noConfusion inCharge
    exact ⟨fits.idle idle (by decide), fits.idle idle (by decide)⟩

theorem Quiet.congr (quiet : kext.Quiet) {later : Kext n}
    (same : ∀ c m, later.pointers (.member c m) = kext.pointers (.member c m)) : later.Quiet := by
  intro c
  rw [same, same]
  exact quiet c

theorem Accounted.dropCompat (accounted : kext.Accounted) (quiet : kext.Quiet)
    (o : CompatObject) (unused : ∀ user ∈ o.users, kext.pointers (.compat user) = false) :
    (kext.drop (.compat o)).Accounted := by
  apply accounted.drop
  intro user uses
  rcases List.mem_append.mp uses with own | machine
  · obtain ⟨x, member, rfl⟩ := List.mem_map.mp own
    exact unused x member
  · obtain ⟨c, -, either⟩ := List.mem_flatMap.mp machine
    rcases List.mem_pair.mp either with rfl | rfl
    · exact (quiet c).1
    · exact (quiet c).2

/-- The objects of the compat layer are written, and with them the member that says so. -/
theorem Calling.rewrite (calling : kext.Calling counting self members) {later : Kext n} {up : Bool}
    (alone : ∀ c ≠ self, kext.pointers (.member c .compatInitialized) = false)
    (layer : ∀ o, later.pointers (.compat o) = up)
    (own : later.pointers (.member self .compatInitialized) = up)
    (rest : ∀ c m, later.pointers (.member c m) = kext.pointers (.member c m) ∨
      c = self ∧ m = .compatInitialized)
    (hwOps : later.hwOps = kext.hwOps) (phase : later.phase = kext.phase)
    (accounted : counting → later.Accounted) :
    later.Calling counting self (Function.update members .compatInitialized up) := by
  have elsewhere : ∀ c ≠ self, ∀ m,
      later.pointers (.member c m) = kext.pointers (.member c m) := fun c ne m =>
    (rest c m).resolve_right fun is => ne is.1
  have inCharge : ∀ c, later.pointers (.member c .compatInitialized) = true → c = self := by
    intro c charged
    by_contra ne
    rw [elsewhere c ne, alone c ne] at charged
    exact Bool.noConfusion charged
  exact {
    exclusive := fun c d first second => (inCharge c first).trans (inCharge d second).symm
    layer := by
      intro o
      rw [layer]
      constructor
      · rintro rfl
        exact ⟨self, own⟩
      · rintro ⟨c, charged⟩
        rw [inCharge c charged, own] at charged
        exact charged
    accounted := accounted
    own := by
      intro m
      by_cases same : m = .compatInitialized
      · subst same
        rw [Function.update_self, own]
      · rw [Function.update_of_ne same, ← calling.own]
        exact (rest self m).resolve_right fun is => same is.2
    fits := by
      intro c ne
      rw [phase, funext (elsewhere c ne)]
      exact calling.fits c ne
    owner := by
      intro c ne
      rw [hwOps, phase]
      exact calling.owner c ne
    owns := by
      intro counts c ne
      rw [hwOps, phase]
      exact calling.owns counts c ne }

theorem Calling.exitCompat (calling : kext.Calling counting self members)
    (machine : members .ieee80211 = false) (interrupts : members .interrupts = false) :
    (kext.exitCompat self).Calling counting self
      (Function.update members .compatInitialized false) := by
  rw [Kext.exitCompat]
  split
  · rename_i charged
    have alone : ∀ c ≠ self, kext.pointers (.member c .compatInitialized) = false := by
      intro c ne
      apply Bool.eq_false_of_not_eq_true
      intro also
      exact ne (calling.exclusive c self also charged)
    have quiet := calling.quiet alone machine interrupts
    apply calling.rewrite alone
    · intro o
      cases o <;> simp [compatExit]
    · simp
    · intro c m
      by_cases same : c = self ∧ m = .compatInitialized
      · exact .inr same
      · left
        simp [compatExit, same]
    · simp [compatExit]
    · simp [compatExit]
    · intro counts
      have noSystem := (calling.accounted counts).dropCompat quiet .systemWq nofun
      have noLong := noSystem.dropCompat (quiet.congr (by simp)) .systemLongWq nofun
      have noState := noLong.dropCompat (quiet.congr (by simp)) .workStateLock
        (by simp [CompatObject.users])
      have noLog := noState.dropCompat (quiet.congr (by simp)) .logLock nofun
      exact noLog.drop nofun
  · rename_i uncharged
    have same : Function.update members .compatInitialized false = members := by
      rw [Function.update_eq_self_iff, ← calling.own]
      exact (Bool.eq_false_of_not_eq_true uncharged).symm
    rw [same]
    exact calling

/-- The four allocations of `rtw88_compat_init`. -/
theorem Accounted.allocCompat (accounted : kext.Accounted) (outcomes : CompatObject → Bool)
    (down : ∀ o, kext.pointers (.compat o) = false) :
    ((((kext.assign (.compat .workStateLock) (outcomes .workStateLock)).assign
      (.compat .logLock) (outcomes .logLock)).assign
      (.compat .systemWq) (outcomes .systemWq)).assign
      (.compat .systemLongWq) (outcomes .systemLongWq)).Accounted := by
  apply Accounted.assign
  · apply Accounted.assign
    · apply Accounted.assign
      · exact accounted.assign (down _)
      · simp [down]
    · simp [down]
  · simp [down]

/-- Where the compat layer is not there, `rtw88_compat_init` sets it up or leaves nothing behind. -/
theorem compatInit_down (outcomes : CompatObject → Bool)
    (down : ∀ o, kext.pointers (.compat o) = false) :
    ∃ up later, kext.compatInit outcomes = (up, later) ∧
      (∀ o, later.pointers (.compat o) = up) ∧
      (∀ c m, later.pointers (.member c m) = kext.pointers (.member c m)) ∧
      later.hwOps = kext.hwOps ∧ later.phase = kext.phase ∧
      (kext.Quiet → kext.Accounted → later.Accounted) := by
  rw [compatInit, if_neg (by simp [down])]
  dsimp only
  split
  · rename_i refused
    refine ⟨_, _, rfl, ?_, by simp, rfl, rfl, ?_⟩
    · intro o
      cases o <;> simp_all
    · intro _ accounted
      exact accounted.assign (down _)
  · rename_i locked
    split
    · refine ⟨_, _, rfl, ?_, by simp, by simp, by simp, ?_⟩
      · intro o
        cases o <;> simp
      · intro quiet accounted
        have allocated := accounted.allocCompat outcomes down
        have noSystem := allocated.dropCompat (quiet.congr (by simp)) .systemWq nofun
        have noLong := noSystem.dropCompat (quiet.congr (by simp)) .systemLongWq nofun
        have noLog := noLong.dropCompat (quiet.congr (by simp)) .logLock nofun
        exact noLog.dropCompat (quiet.congr (by simp)) .workStateLock (by simp [CompatObject.users])
    · rename_i all
      refine ⟨_, _, rfl, ?_, by simp, rfl, rfl, ?_⟩
      · intro o
        cases o <;> simp_all
      · intro _ accounted
        exact accounted.allocCompat outcomes down

/-- A part of `start` from a state to one of two, by its result. -/
def Meets (before : Kext n → Prop) (attempt : Attempt n) (after failed : Kext n → Prop) : Prop :=
  ∀ kext, before kext →
    ((attempt kext).1 = true → after (attempt kext).2) ∧
      ((attempt kext).1 = false → failed (attempt kext).2)

theorem Meets.cons {before between after failed : Kext n → Prop} {attempt : Attempt n}
    {rest : List (Attempt n)} (one : Meets before attempt between failed)
    (others : Meets between (inOrder rest) after failed) :
    Meets before (inOrder (attempt :: rest)) after failed := by
  intro kext holds
  obtain ⟨succeeds, fails⟩ := one kext holds
  rw [inOrder]
  split
  · rename_i later result
    rw [result] at succeeds
    exact others later (succeeds rfl)
  · rename_i later result
    rw [result] at fails
    exact ⟨nofun, fails⟩

theorem Meets.nil {before failed : Kext n → Prop} : Meets before (inOrder []) before failed :=
  fun _ holds => ⟨fun _ => holds, nofun⟩

/-! ## Giving back -/

/-- The members that `teardown` only looks at behind another one. -/
structure Closed (members : Member → Bool) : Prop where
  interrupts : members .interrupts = true → members .intrSrc = true
  ieeeStarted : members .ieeeStarted = true → members .ieee80211 = true
  netifAttached : members .netifAttached = true → members .netif = true

theorem Calling.null (calling : kext.Calling counting self members)
    (null : kext.pointers (.member self m) ≠ true) : members m = false :=
  (calling.own m).symm.trans (Bool.eq_false_of_not_eq_true null)

theorem Calling.disableInterrupts (calling : kext.Calling counting self members)
    (closed : Closed members) :
    (kext.disableInterrupts self).Calling counting self
      (Function.update members .interrupts false) := by
  rw [Kext.disableInterrupts]
  split
  · exact calling.drop .interrupts (by decide) nofun nofun
  · rename_i null
    have disabled : members .interrupts = false := by
      apply Bool.eq_false_of_not_eq_true
      intro enabled
      rw [calling.own, closed.interrupts enabled] at null
      exact null rfl
    rw [Function.update_eq_self_iff.mpr disabled.symm]
    exact calling

/-- A member goes before the one it is looked at behind. -/
theorem Calling.dropBehind (calling : kext.Calling counting self members) (first second : Member)
    (others : first ≠ .compatInitialized ∧ second ≠ .compatInitialized)
    (closed : members first = true → members second = true) (last : first.users = [])
    (unused : ∀ user ∈ second.users, Function.update members first false user = false)
    (shims : first.usedByShims = false ∧ second.usedByShims = false) :
    (if kext.pointers (.member self second) then
      (kext.drop (.member self first)).drop (.member self second) else kext).Calling counting self
      (Function.update (Function.update members first false) second false) := by
  split
  · have dropped := calling.drop first others.1 (by simp [last]) (by simp [shims.1])
    exact dropped.drop second others.2 unused (by simp [shims.2])
  · rename_i null
    have gone := calling.null null
    have before : members first = false := by
      apply Bool.eq_false_of_not_eq_true
      intro set
      rw [closed set] at gone
      exact Bool.noConfusion gone
    have first_null : Function.update members first false = members :=
      Function.update_eq_self_iff.mpr before.symm
    have second_null : Function.update members second false = members :=
      Function.update_eq_self_iff.mpr gone.symm
    rw [first_null, second_null]
    exact calling

theorem Calling.detachNetif (calling : kext.Calling counting self members)
    (closed : members .netifAttached = true → members .netif = true) :
    (kext.detachNetif self).Calling counting self
      (Function.update (Function.update members .netifAttached false) .netif false) :=
  calling.dropBehind .netifAttached .netif (by decide) closed rfl (by simp [Member.users])
    (by decide)

theorem Calling.releaseIeee80211 (calling : kext.Calling counting self members)
    (closed : members .ieeeStarted = true → members .ieee80211 = true)
    (unused : ∀ user ∈ Member.users .ieee80211, user ≠ .ieeeStarted → members user = false) :
    (kext.releaseIeee80211 self).Calling counting self
      (Function.update (Function.update members .ieeeStarted false) .ieee80211 false) := by
  apply calling.dropBehind .ieeeStarted .ieee80211 (by decide) closed rfl _ (by decide)
  intro user uses
  by_cases same : user = .ieeeStarted
  · subst same
    exact Function.update_self _ _ _
  · rw [Function.update_of_ne same]
    exact unused user uses same

theorem holds_none {owner : Fin n} (owns : kext.hwOps = some owner)
    (log : List (Custody.Event (Resource n))) :
    holds { kext with
      hwOps := none
      log := log } = Function.update kext.holds (.hwOps owner) false := by
  ext resource
  cases resource with
  | pointer p => simp [holds]
  | hwOps c =>
      by_cases same : c = owner
      · subst same
        simp [holds]
      · simp [holds, same, owns, Ne.symm same]

theorem holds_some (free : kext.hwOps = none) (log : List (Custody.Event (Resource n))) :
    holds { kext with
      hwOps := some self
      log := log } = Function.update kext.holds (.hwOps self) true := by
  ext resource
  cases resource with
  | pointer p => simp [holds]
  | hwOps c =>
      by_cases same : c = self
      · subst same
        simp [holds]
      · simp [holds, same, free, Ne.symm same]

/-- The shims lose their controller while it has no state machine that uses them. -/
theorem Accounted.releaseHwOps (accounted : kext.Accounted) {owner : Fin n}
    (owns : kext.hwOps = some owner)
    (machine : kext.pointers (.member owner .ieee80211) = false) :
    Accounted { kext with
      hwOps := none
      log := kext.log ++ [.release (.hwOps owner)] } := by
  have held : kext.holds (.hwOps owner) = true := decide_eq_true owns
  rw [Accounted, holds_none owns]
  apply Custody.Leaves.release accounted held
  intro user uses
  obtain rfl := List.mem_singleton.mp uses
  exact machine

theorem Accounted.installHwOps (accounted : kext.Accounted)
    (unused : ∀ owner, kext.hwOps = some owner →
      kext.pointers (.member owner .ieee80211) = false) :
    (kext.installHwOps self).Accounted := by
  rw [Kext.installHwOps]
  cases owns : kext.hwOps with
  | none =>
      rw [Accounted, holds_some owns, Option.toList_none, List.map_nil, List.append_nil]
      exact Custody.Leaves.acquire accounted (decide_eq_false (by simp [owns]))
  | some owner =>
      have released := accounted.releaseHwOps owns (unused owner owns)
      have free : holds { kext with
          hwOps := none
          log := kext.log ++ [.release (.hwOps owner)] } (.hwOps self) = false := rfl
      have acquired := Custody.Leaves.acquire released free
      rw [← holds_some rfl] at acquired
      exact acquired

theorem Calling.uninstallHwOps (calling : kext.Calling counting self members)
    (machine : members .ieee80211 = false) :
    (kext.uninstallHwOps self).Calling counting self members := by
  rw [Kext.uninstallHwOps]
  split
  · rename_i owner
    exact {
      exclusive := calling.exclusive
      layer := calling.layer
      accounted := fun counts =>
        (calling.accounted counts).releaseHwOps owner ((calling.own _).trans machine)
      own := calling.own
      fits := calling.fits
      owner := nofun
      owns := by
        intro counts c ne runs
        have owns := calling.owns counts c ne runs
        rw [owner] at owns
        exact absurd (Option.some.inj owns).symm ne }
  · exact calling

theorem hwOps_uninstallHwOps (kext : Kext n) (self : Fin n) :
    (kext.uninstallHwOps self).hwOps ≠ some self := by
  rw [Kext.uninstallHwOps]
  split
  · nofun
  · assumption

/-- Without `super::start`, `teardown` gives back all members and `g_pci_dev_instance`. -/
theorem Calling.teardown (calling : kext.Calling counting self members) (closed : Closed members)
    (superStopped : members .superStarted = false) :
    (kext.teardown self).Calling counting self (fun _ => false) ∧
      (kext.teardown self).hwOps ≠ some self := by
  have disabled := calling.disableInterrupts closed
  have noManager := disabled.drop .awdlManager (by decide) nofun nofun
  have noNetif := noManager.detachNetif (by simpa using closed.netifAttached)
  have noMachine := noNetif.releaseIeee80211 (by simpa using closed.ieeeStarted)
    (by simp [Member.users, superStopped])
  have exited := noMachine.exitCompat (by simp) (by simp)
  have noSource := exited.drop .intrSrc (by decide) (by simp [Member.users]) nofun
  have noLoop := noSource.drop .workLoop (by decide) (by simp [Member.users, superStopped]) nofun
  have noCompatDev := noLoop.drop .compatPciDev (by decide) (by simp [Member.users]) nofun
  have noMap := noCompatDev.drop .mmioMap (by decide) (by simp [Member.users]) nofun
  have uninstalled := noMap.uninstallHwOps (by simp)
  have noPciDev := uninstalled.drop .pciDev (by decide) (by simp [Member.users])
    fun _ => hwOps_uninstallHwOps _ self
  have noFreeLock := noPciDev.drop .pendingFreeLock (by decide) nofun fun _ => by
    rw [hwOps_drop]
    exact hwOps_uninstallHwOps _ self
  have noLocks := noFreeLock.drop .dmaLock (by decide) nofun fun _ => by
    rw [hwOps_drop, hwOps_drop]
    exact hwOps_uninstallHwOps _ self
  constructor
  · apply noLocks.congr
    intro m
    cases m <;> simp [superStopped]
  · rw [Kext.teardown, hwOps_drop, hwOps_drop, hwOps_drop]
    exact hwOps_uninstallHwOps _ self

/-! ## Getting -/

/-- Where `start` fails, `teardown` finds what it got so far. -/
def Halfway (counting : Prop) (self : Fin n) (kext : Kext n) : Prop :=
  ∃ members, Closed members ∧ kext.Calling counting self members

theorem Calling.halfway (calling : kext.Calling counting self members) (closed : Closed members) :
    kext.Halfway counting self :=
  ⟨members, closed, calling⟩

theorem Calling.acquire (other : m ≠ .compatInitialized) (free : members m = false)
    (closed : Closed members) (got : Bool) :
    Meets (Calling (n := n) counting self members) (Kext.acquire self m got)
      (Calling counting self (Function.update members m true)) (Halfway counting self) := by
  intro kext calling
  have assigned := calling.assign m got other free
  constructor
  · rintro rfl
    exact assigned
  · rintro rfl
    rw [Function.update_eq_self_iff.mpr free.symm] at assigned
    exact assigned.halfway closed

/-- Both locks are allocated before either is checked. -/
theorem Calling.allocLocks (o : StartOutcomes) (closed : Closed members)
    (dma : members .dmaLock = false) (pending : members .pendingFreeLock = false) :
    Meets (Calling (n := n) counting self members) (Kext.allocLocks self o)
      (Calling counting self
        (Function.update (Function.update members .dmaLock true) .pendingFreeLock true))
      (Halfway counting self) := by
  intro kext calling
  have first := calling.assign .dmaLock o.dmaLock (by decide) dma
  have both := first.assign .pendingFreeLock o.pendingFreeLock (by decide)
    (by simpa using pending)
  constructor
  · intro succeeds
    obtain ⟨one, other⟩ := Bool.and_eq_true_iff.mp succeeds
    rw [one, other] at both
    rw [Kext.allocLocks, one, other]
    exact both
  · intro _
    apply both.halfway
    constructor
    · simpa using closed.interrupts
    · simpa using closed.ieeeStarted
    · simpa using closed.netifAttached

/-- The shims move to a controller while no other one has a state machine that uses them. -/
theorem Calling.installHwOps (uncontested : counting → ∀ c ≠ self, kext.phase c ≠ .running)
    (machine : members .ieee80211 = false) (calling : kext.Calling counting self members) :
    (kext.installHwOps self).Calling counting self members where
  exclusive := calling.exclusive
  layer := calling.layer
  accounted counts := by
    apply (calling.accounted counts).installHwOps
    intro owner owns
    by_cases same : owner = self
    · rw [same]
      exact (calling.own _).trans machine
    · exact absurd (calling.owner owner same owns) (uncontested counts owner same)
  own := calling.own
  fits := calling.fits
  owner c ne is := absurd (Option.some.inj is).symm ne
  owns counts c ne runs := absurd runs (uncontested counts c ne)

theorem Calling.installs {phase : Fin n → Phase}
    (uncontested : counting → ∀ c ≠ self, phase c ≠ .running)
    (machine : members .ieee80211 = false) :
    Meets (fun kext => kext.Calling counting self members ∧ kext.phase = phase)
      (fun kext => (true, kext.installHwOps self)) (Calling counting self members)
      (Halfway counting self) := by
  rintro kext ⟨calling, rfl⟩
  exact ⟨fun _ => calling.installHwOps uncontested machine, nofun⟩

theorem Calling.initCompat (o : StartOutcomes) (free : members .compatInitialized = false)
    (machine : members .ieee80211 = false) (interrupts : members .interrupts = false)
    (closed : Closed members) :
    Meets (Calling (n := n) counting self members) (Kext.initCompat self o)
      (Calling counting self (Function.update members .compatInitialized true))
      (Halfway counting self) := by
  intro kext calling
  by_cases up : ∃ c, kext.pointers (.member c .compatInitialized) = true
  · have busy : kext.compatInit o.compat = (false, kext) := by
      rw [compatInit, if_pos]
      simp [(calling.layer .systemWq).mpr up]
    rw [Kext.initCompat, busy]
    exact ⟨nofun, fun _ => calling.halfway closed⟩
  · have down : ∀ x, kext.pointers (.compat x) = false := fun x =>
      Bool.eq_false_of_not_eq_true fun set => up ((calling.layer x).mp set)
    have uncharged : ∀ c, kext.pointers (.member c .compatInitialized) = false := fun c =>
      Bool.eq_false_of_not_eq_true fun set => up ⟨c, set⟩
    have quiet := calling.quiet (fun c _ => uncharged c) machine interrupts
    obtain ⟨ok, later, result, layer, rest, hwOps, phase, accounted⟩ :=
      compatInit_down o.compat down
    rw [Kext.initCompat, result]
    cases ok with
    | true =>
        constructor
        · intro _
          apply calling.rewrite fun c _ => uncharged c
          · intro x
            simpa using layer x
          · simp
          · intro c m
            by_cases same : c = self ∧ m = .compatInitialized
            · exact .inr same
            · left
              simp [same, rest]
          · exact hwOps
          · exact phase
          · intro counts
            apply (accounted quiet (calling.accounted counts)).assign
            rw [rest, uncharged]
        · exact nofun
    | false =>
        constructor
        · exact nofun
        · intro _
          have same : Function.update members .compatInitialized false = members :=
            Function.update_eq_self_iff.mpr free.symm
          refine Calling.halfway ?_ closed
          rw [← same]
          apply calling.rewrite fun c _ => uncharged c
          · exact layer
          · rw [rest, uncharged]
          · exact fun c m => .inl (rest c m)
          · exact hwOps
          · exact phase
          · exact fun counts => accounted quiet (calling.accounted counts)

theorem Calling.setupInterrupt (o : StartOutcomes) (free : members .intrSrc = false)
    (disabled : members .interrupts = false) (closed : Closed members) :
    Meets (Calling (n := n) counting self members) (Kext.setupInterrupt self o)
      (Calling counting self (Function.update members .intrSrc true))
      (Halfway counting self) := by
  intro kext calling
  have same : Function.update members .intrSrc false = members :=
    Function.update_eq_self_iff.mpr free.symm
  have assigned := calling.assign .intrSrc o.intrSrc (by decide) free
  rw [Kext.setupInterrupt]
  split
  · rename_i refused
    have null : o.intrSrc = false := by simpa using refused
    rw [null, same] at assigned
    rw [null]
    exact ⟨nofun, fun _ => assigned.halfway closed⟩
  · rename_i created
    have source : o.intrSrc = true := by simpa using created
    rw [source] at assigned ⊢
    split
    · have dropped := assigned.drop .intrSrc (by decide)
        (by simpa [Member.users] using disabled) nofun
      rw [Function.update_idem, same] at dropped
      exact ⟨nofun, fun _ => dropped.halfway closed⟩
    · exact ⟨fun _ => assigned, nofun⟩

theorem Calling.startIeee80211 (o : StartOutcomes) (free : members .ieeeStarted = false)
    (closed : Closed members) :
    Meets (Calling (n := n) counting self members) (Kext.startIeee80211 self o)
      (Calling counting self (Function.update members .ieeeStarted true))
      (Halfway counting self) := by
  intro kext calling
  rw [Kext.startIeee80211]
  split
  · exact ⟨fun _ => calling.assign .ieeeStarted true (by decide) free, nofun⟩
  · exact ⟨nofun, fun _ => calling.halfway closed⟩

theorem Calling.initAwdlManager (o : StartOutcomes) (free : members .awdlManager = false)
    (closed : Closed members) :
    Meets (Calling (n := n) counting self members) (Kext.initAwdlManager self o)
      (Calling counting self (Function.update members .awdlManager true))
      (Halfway counting self) := by
  intro kext calling
  have assigned := calling.assign .awdlManager o.awdlManager (by decide) free
  constructor
  · intro succeeds
    obtain ⟨created, -⟩ := Bool.and_eq_true_iff.mp succeeds
    rw [created] at assigned
    rw [Kext.initAwdlManager, created]
    exact assigned
  · intro _
    apply assigned.halfway
    constructor
    · simpa using closed.interrupts
    · simpa using closed.ieeeStarted
    · simpa using closed.netifAttached

theorem Calling.attachNetif (o : StartOutcomes) (free : members .netif = false)
    (detached : members .netifAttached = false) (closed : Closed members) :
    Meets (Calling (n := n) counting self members) (Kext.attachNetif self o)
      (Calling counting self
        (Function.update (Function.update members .netif true) .netifAttached true))
      (Halfway counting self) := by
  intro kext calling
  have assigned := calling.assign .netif o.netif (by decide) free
  rw [Kext.attachNetif]
  split
  · refine ⟨nofun, fun _ => assigned.halfway ?_⟩
    constructor
    · simpa using closed.interrupts
    · simpa using closed.ieeeStarted
    · simp [detached]
  · rename_i attached
    obtain ⟨-, created⟩ : o.attachInterface = true ∧ o.netif = true := by simpa using attached
    have both := assigned.assign .netifAttached true (by decide) (by simpa using detached)
    rw [created] at both ⊢
    split
    · have noAttached := both.drop .netifAttached (by decide) nofun nofun
      have noNetif := noAttached.drop .netif (by decide) (by simp [Member.users]) nofun
      refine ⟨nofun, fun _ => (noNetif.congr ?_).halfway closed⟩
      intro m
      by_cases same : m = .netif ∨ m = .netifAttached
      · rcases same with rfl | rfl
        · simp [free]
        · simp [detached]
      · push Not at same
        simp [same]
    · exact ⟨fun _ => both, nofun⟩

/-- The work loop that `super::start` should have created. -/
theorem Calling.checkWorkLoop (closed : Closed members) :
    Meets (Calling (n := n) counting self members)
      (fun kext => (kext.pointers (.member self .workLoop), kext))
      (fun kext => members .workLoop = true ∧ kext.Calling counting self members)
      (Halfway counting self) := by
  intro kext calling
  exact ⟨fun set => ⟨(calling.own _).symm.trans set, calling⟩, fun _ => calling.halfway closed⟩

theorem Meets.mono {before earlier after failed : Kext n → Prop} {attempt : Attempt n}
    (meets : Meets before attempt after failed) (weaker : ∀ kext, earlier kext → before kext) :
    Meets earlier attempt after failed :=
  fun kext holds => meets kext (weaker kext holds)

theorem Meets.assume {assumption : Prop} {before after failed : Kext n → Prop}
    {attempt : Attempt n} (meets : assumption → Meets before attempt after failed) :
    Meets (fun kext => assumption ∧ before kext) attempt after failed :=
  fun kext holds => meets holds.1 kext holds.2

/-- What an attempt leaves alone. -/
theorem Meets.frame {before after failed : Kext n → Prop} {attempt : Attempt n}
    (meets : Meets before attempt after failed) (phase : Fin n → Phase)
    (keeps : ∀ kext, (attempt kext).2.phase = kext.phase) :
    Meets (fun kext => before kext ∧ kext.phase = phase) attempt
      (fun kext => after kext ∧ kext.phase = phase) failed := by
  rintro kext ⟨holds, rfl⟩
  obtain ⟨succeeds, fails⟩ := meets kext holds
  exact ⟨fun ok => ⟨succeeds ok, keeps kext⟩, fails⟩

/-- The members of a controller when `bringUp` begins. -/
def begun (loop : Bool) : Member → Bool
  | .workLoop => loop
  | .superStarted | .pciDev => true
  | _ => false

/-- `bringUp` gets as far as `g_pci_dev_instance`. -/
def Installs (o : StartOutcomes) : Prop :=
  o.dmaLock = true ∧ o.pendingFreeLock = true ∧ o.mmioMap = true

theorem bringUp_fails {o : StartOutcomes} (fails : ¬ Installs o) (loop : Bool)
    (after : Kext n → Prop) :
    Meets (Calling counting self (begun loop)) (bringUp self o) after (Halfway counting self) := by
  have closed : Closed (begun loop) := ⟨nofun, nofun, nofun⟩
  by_cases locked : (o.dmaLock && o.pendingFreeLock) = true
  · refine Meets.cons (Calling.allocLocks o closed rfl rfl) fun kext calling => ?_
    have unmapped : o.mmioMap = false := by
      apply Bool.eq_false_of_not_eq_true
      intro mapped
      obtain ⟨one, other⟩ := Bool.and_eq_true_iff.mp locked
      exact fails ⟨one, other, mapped⟩
    rw [unmapped]
    have assigned := calling.assign .mmioMap false (by decide) rfl
    exact ⟨nofun, fun _ => assigned.halfway ⟨nofun, nofun, nofun⟩⟩
  · intro kext calling
    obtain ⟨-, halfway⟩ := Calling.allocLocks o closed rfl rfl kext calling
    have result : bringUp self o kext = (false, (kext.allocLocks self o).2) := by
      simp [bringUp, inOrder, Kext.allocLocks, locked]
    rw [result]
    exact ⟨nofun, fun _ => halfway (Bool.eq_false_of_not_eq_true locked)⟩

/-- Where no other controller runs, or nobody counts, `bringUp` gets all members or leaves what
`teardown` gives back. -/
theorem bringUp_meets (o : StartOutcomes) (loop : Bool) (phase : Fin n → Phase)
    (uncontested : counting → Installs o → ∀ c ≠ self, phase c ≠ .running) :
    Meets (fun kext => kext.Calling counting self (begun loop) ∧ kext.phase = phase)
      (bringUp self o) (Calling counting self fun _ => true) (Halfway counting self) := by
  by_cases installs : Installs o
  swap
  · exact (bringUp_fails installs loop _).mono fun kext calling => calling.1
  refine Meets.cons ((Calling.allocLocks o ?_ ?_ ?_).frame phase fun _ => rfl) ?_
  · exact ⟨nofun, nofun, nofun⟩
  · rfl
  · rfl
  refine Meets.cons ((Calling.acquire (by decide) ?_ ?_ o.mmioMap).frame phase fun _ => rfl) ?_
  · rfl
  · exact ⟨nofun, nofun, nofun⟩
  refine Meets.cons (Calling.installs (fun counts => uncontested counts installs) ?_) ?_
  · rfl
  refine Meets.cons (Calling.initCompat o ?_ ?_ ?_ ?_) ?_
  · rfl
  · rfl
  · rfl
  · exact ⟨nofun, nofun, nofun⟩
  refine Meets.cons (Calling.acquire (by decide) ?_ ?_ o.compatPciDev) ?_
  · rfl
  · exact ⟨nofun, nofun, nofun⟩
  refine Meets.cons (Calling.checkWorkLoop ?_) ?_
  · exact ⟨nofun, nofun, nofun⟩
  apply Meets.assume
  intro looped
  refine Meets.cons (Calling.setupInterrupt o ?_ ?_ ?_) ?_
  · rfl
  · rfl
  · exact ⟨nofun, nofun, nofun⟩
  refine Meets.cons (Calling.acquire (by decide) ?_ ?_ o.ieee80211) ?_
  · rfl
  · exact ⟨nofun, nofun, nofun⟩
  refine Meets.cons (Calling.startIeee80211 o ?_ ?_) ?_
  · rfl
  · exact ⟨nofun, nofun, nofun⟩
  refine Meets.cons (Calling.initAwdlManager o ?_ ?_) ?_
  · rfl
  · exact ⟨nofun, fun _ => rfl, nofun⟩
  refine Meets.cons (Calling.attachNetif o ?_ ?_ ?_) ?_
  · rfl
  · rfl
  · exact ⟨nofun, fun _ => rfl, nofun⟩
  refine Meets.cons (Calling.acquire (by decide) ?_ ?_ true) ?_
  · rfl
  · exact ⟨nofun, fun _ => rfl, fun _ => rfl⟩
  refine Meets.nil.mono fun kext calling => calling.congr fun m => ?_
  cases m <;> simp_all [begun]

end Kext

end AirportRtw88
