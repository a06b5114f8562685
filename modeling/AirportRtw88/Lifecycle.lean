import AirportRtw88.Custody
import AirportRtw88.Interleave.Machine
import Mathlib.Data.List.FinRange

/-!
# The life of the controllers

`AirportRTW88` takes what it needs in `start`, gives back what it got so far when `start` fails,
and all of it in `stop` and `free`.  Any number of controllers share the compat layer and
`g_pci_dev_instance`.
-/

namespace AirportRtw88

open Interleave

/-- The members of `AirportRTW88` that say what the controller has to give back, and whether its
interrupt source is enabled. -/
inductive Member where
  | superStarted
  | pciDev
  | dmaLock
  | pendingFreeLock
  | mmioMap
  | compatInitialized
  | compatPciDev
  | workLoop
  | intrSrc
  | interrupts
  | ieee80211
  | ieeeStarted
  | awdlManager
  | netif
  | netifAttached
  deriving DecidableEq

/-- What `rtw88_compat_init` allocates. -/
inductive CompatObject where
  | workStateLock
  | logLock
  | systemWq
  | systemLongWq
  deriving DecidableEq

inductive Pointer (n : Nat) where
  | member (controller : Fin n) (member : Member)
  | compat (object : CompatObject)
  deriving DecidableEq

inductive Resource (n : Nat) where
  | pointer (pointer : Pointer n)
  | hwOps (controller : Fin n)
  deriving DecidableEq

/-- What IOKit has called on a controller. -/
inductive Phase where
  | fresh
  | running
  | failed
  | stopped
  | freed
  deriving DecidableEq

/-- The pointers that are set, `g_pci_dev_instance`, and a log of what was acquired and
released. -/
structure Kext (n : Nat) where
  pointers : Pointer n → Bool
  hwOps : Option (Fin n)
  phase : Fin n → Phase
  log : List (Custody.Event (Resource n))

/-- What the allocations and calls of `start` return. -/
structure StartOutcomes where
  isPciDevice : Bool
  workLoop : Bool
  superStarts : Bool
  dmaLock : Bool
  pendingFreeLock : Bool
  mmioMap : Bool
  compat : CompatObject → Bool
  compatPciDev : Bool
  intrSrc : Bool
  addEventSource : Bool
  ieee80211 : Bool
  ieeeStarts : Bool
  awdlManager : Bool
  awdlInit : Bool
  attachInterface : Bool
  netif : Bool
  isAirportInterface : Bool

/-! ## Who uses what -/

namespace Member

/-- What of the same controller uses the object of a member. -/
def users : Member → List Member
  | .workLoop => [.superStarted, .intrSrc, .ieee80211, .awdlManager, .netif]
  | .ieee80211 => [.superStarted, .ieeeStarted, .awdlManager, .netif, .interrupts]
  | .compatPciDev => [.ieee80211]
  | .mmioMap => [.ieee80211]
  | .pciDev => [.mmioMap, .intrSrc]
  | .intrSrc => [.interrupts]
  | .netif => [.netifAttached]
  | _ => []

/-- The shims reach these through `g_pci_dev_instance`. -/
def usedByShims : Member → Bool
  | .pciDev | .dmaLock | .pendingFreeLock => true
  | _ => false

end Member

/-- The work queues sleep on `work_state_lock`. -/
def CompatObject.users : CompatObject → List CompatObject
  | .workStateLock => [.systemWq, .systemLongWq]
  | _ => []

variable {n : Nat}

def Resource.member (c : Fin n) (m : Member) : Resource n := .pointer (.member c m)

def Resource.compat (o : CompatObject) : Resource n := .pointer (.compat o)

def Resource.users : Resource n → List (Resource n)
  | .pointer (.member c m) =>
      m.users.map (.member c) ++ if m.usedByShims then [.hwOps c] else []
  | .pointer (.compat o) =>
      o.users.map .compat ++
        (List.finRange n).flatMap fun c => [.member c .ieee80211, .member c .interrupts]
  | .hwOps c => [.member c .ieee80211]

namespace Kext

/-! ## The calls -/

/-- A pointer is assigned a new object, or null if there is none. -/
def assign (kext : Kext n) (pointer : Pointer n) (got : Bool) : Kext n :=
  { kext with
    pointers := Function.update kext.pointers pointer got
    log := if got then kext.log ++ [.acquire (.pointer pointer)] else kext.log }

/-- The object of a pointer, if there is one, is released and the pointer set to null. -/
def drop (kext : Kext n) (pointer : Pointer n) : Kext n :=
  if kext.pointers pointer then
    { kext with
      pointers := Function.update kext.pointers pointer false
      log := kext.log ++ [.release (.pointer pointer)] }
  else kext

def enter (kext : Kext n) (c : Fin n) (phase : Phase) : Kext n :=
  { kext with phase := Function.update kext.phase c phase }

/-- `rtw88_compat_init`. -/
def compatInit (outcomes : CompatObject → Bool) (kext : Kext n) : Bool × Kext n :=
  if kext.pointers (.compat .systemWq) || kext.pointers (.compat .systemLongWq) ||
      kext.pointers (.compat .logLock) then
    (false, kext)
  else
    let kext := kext.assign (.compat .workStateLock) (outcomes .workStateLock)
    if !outcomes .workStateLock then (false, kext)
    else
      let kext := kext.assign (.compat .logLock) (outcomes .logLock)
      let kext := kext.assign (.compat .systemWq) (outcomes .systemWq)
      let kext := kext.assign (.compat .systemLongWq) (outcomes .systemLongWq)
      if !outcomes .systemWq || !outcomes .systemLongWq || !outcomes .logLock then
        let kext := kext.drop (.compat .systemWq)
        let kext := kext.drop (.compat .systemLongWq)
        let kext := kext.drop (.compat .logLock)
        (false, kext.drop (.compat .workStateLock))
      else (true, kext)

/-- `rtw88_compat_exit`. -/
def compatExit (kext : Kext n) : Kext n :=
  let kext := kext.drop (.compat .systemWq)
  let kext := kext.drop (.compat .systemLongWq)
  let kext := kext.drop (.compat .workStateLock)
  kext.drop (.compat .logLock)

/-- `g_pci_dev_instance = this`. -/
def installHwOps (self : Fin n) (kext : Kext n) : Kext n :=
  { kext with
    hwOps := some self
    log := kext.log ++ kext.hwOps.toList.map (fun owner => .release (.hwOps owner)) ++
      [.acquire (.hwOps self)] }

def uninstallHwOps (self : Fin n) (kext : Kext n) : Kext n :=
  if kext.hwOps = some self then
    { kext with
      hwOps := none
      log := kext.log ++ [.release (.hwOps self)] }
  else kext

/-- A part of `start` that succeeds or fails. -/
abbrev Attempt (n : Nat) := Kext n → Bool × Kext n

/-- One attempt after the other, until one fails. -/
def inOrder : List (Attempt n) → Attempt n
  | [], kext => (true, kext)
  | attempt :: rest, kext =>
      match attempt kext with
      | (true, kext) => inOrder rest kext
      | (false, kext) => (false, kext)

section

variable (self : Fin n) (o : StartOutcomes)

/-- A member must not be null. -/
def acquire (m : Member) (got : Bool) : Attempt n := fun kext =>
  (got, kext.assign (.member self m) got)

def allocLocks : Attempt n := fun kext =>
  let kext := kext.assign (.member self .dmaLock) o.dmaLock
  let kext := kext.assign (.member self .pendingFreeLock) o.pendingFreeLock
  (o.dmaLock && o.pendingFreeLock, kext)

def initCompat : Attempt n := fun kext =>
  match compatInit o.compat kext with
  | (true, kext) => (true, kext.assign (.member self .compatInitialized) true)
  | (false, kext) => (false, kext)

def setupInterrupt : Attempt n := fun kext =>
  let kext := kext.assign (.member self .intrSrc) o.intrSrc
  if !o.intrSrc then (false, kext)
  else if !o.addEventSource then (false, kext.drop (.member self .intrSrc))
  else (true, kext)

/-- `_ieeeStarted` stays as it is where `start` of the state machine fails. -/
def startIeee80211 : Attempt n := fun kext =>
  if o.ieeeStarts then (true, kext.assign (.member self .ieeeStarted) true) else (false, kext)

/-- The manager stays for `teardown` where its `init` fails. -/
def initAwdlManager : Attempt n := fun kext =>
  (o.awdlManager && o.awdlInit, kext.assign (.member self .awdlManager) o.awdlManager)

/-- The interface counts as attached from `attachInterface` on, before `_netifAttached` is set. -/
def attachNetif : Attempt n := fun kext =>
  let kext := kext.assign (.member self .netif) o.netif
  if !o.attachInterface || !o.netif then (false, kext)
  else
    let kext := kext.assign (.member self .netifAttached) true
    if !o.isAirportInterface then
      let kext := kext.drop (.member self .netifAttached)
      (false, kext.drop (.member self .netif))
    else (true, kext)

/-- `start` from the allocation of the locks on. -/
def bringUp : Attempt n :=
  inOrder
    [allocLocks self o,
      acquire self .mmioMap o.mmioMap,
      fun kext => (true, kext.installHwOps self),
      initCompat self o,
      acquire self .compatPciDev o.compatPciDev,
      fun kext => (kext.pointers (.member self .workLoop), kext),
      setupInterrupt self o,
      acquire self .ieee80211 o.ieee80211,
      startIeee80211 self o,
      initAwdlManager self o,
      attachNetif self o,
      acquire self .interrupts true]

/-- `_intrSrc->disable()`. -/
def disableInterrupts (kext : Kext n) : Kext n :=
  if kext.pointers (.member self .intrSrc) then kext.drop (.member self .interrupts) else kext

def detachNetif (kext : Kext n) : Kext n :=
  if kext.pointers (.member self .netif) then
    let kext := kext.drop (.member self .netifAttached)
    kext.drop (.member self .netif)
  else kext

def releaseIeee80211 (kext : Kext n) : Kext n :=
  if kext.pointers (.member self .ieee80211) then
    let kext := kext.drop (.member self .ieeeStarted)
    kext.drop (.member self .ieee80211)
  else kext

def exitCompat (kext : Kext n) : Kext n :=
  if kext.pointers (.member self .compatInitialized) then
    kext.compatExit.drop (.member self .compatInitialized)
  else kext

def teardown (kext : Kext n) : Kext n :=
  let kext := kext.disableInterrupts self
  let kext := kext.drop (.member self .awdlManager)
  let kext := kext.detachNetif self
  let kext := kext.releaseIeee80211 self
  let kext := kext.exitCompat self
  let kext := kext.drop (.member self .intrSrc)
  let kext := kext.drop (.member self .workLoop)
  let kext := kext.drop (.member self .compatPciDev)
  let kext := kext.drop (.member self .mmioMap)
  let kext := kext.uninstallHwOps self
  let kext := kext.drop (.member self .pciDev)
  let kext := kext.drop (.member self .pendingFreeLock)
  kext.drop (.member self .dmaLock)

def stop (kext : Kext n) : Kext n :=
  (kext.drop (.member self .superStarted)).teardown self

/-- The same steps as `stop`. -/
def failStart (kext : Kext n) : Kext n :=
  (kext.drop (.member self .superStarted)).teardown self

/-- `super::start` calls `createWorkLoop`. -/
def createWorkLoop (kext : Kext n) : Kext n :=
  if kext.pointers (.member self .workLoop) then kext
  else kext.assign (.member self .workLoop) o.workLoop

def start (kext : Kext n) : Bool × Kext n :=
  if !o.isPciDevice then (false, kext)
  else
    let kext := kext.createWorkLoop self o
    if !o.superStarts then (false, kext)
    else
      let kext := kext.assign (.member self .superStarted) true
      match bringUp self o (kext.assign (.member self .pciDev) true) with
      | (true, kext) => (true, kext)
      | (false, kext) => (false, kext.failStart self)

end

end Kext

/-- What IOKit calls. -/
inductive LifeCall (n : Nat) where
  | start (self : Fin n) (o : StartOutcomes)
  | stop (self : Fin n)
  | free (self : Fin n)

namespace Kext

/-- A controller is started once, stopped where `start` has succeeded, and freed after that. -/
def step : LifeCall n → Kext n → Option (Kext n)
  | .start self o, kext =>
      if kext.phase self = .fresh then
        let started := kext.start self o
        some (started.2.enter self (if started.1 then .running else .failed))
      else none
  | .stop self, kext =>
      if kext.phase self = .running then some ((kext.stop self).enter self .stopped) else none
  | .free self, kext =>
      if kext.phase self = .fresh ∨ kext.phase self = .failed ∨ kext.phase self = .stopped then
        some ((kext.teardown self).enter self .freed)
      else none

/-- The kext when it is loaded. -/
def loaded (n : Nat) : Kext n where
  pointers _ := false
  hwOps := none
  phase _ := .fresh
  log := []

def machine (n : Nat) : Machine (LifeCall n) (Kext n) where
  step := step

/-! ## What is held -/

/-- What the pointers say is held. -/
def holds (kext : Kext n) : Resource n → Bool
  | .pointer p => kext.pointers p
  | .hwOps c => kext.hwOps = some c

/-- Nothing has been acquired twice, released twice or released under its users, and what is left
is what the pointers say. -/
def Accounted (kext : Kext n) : Prop :=
  Custody.Leaves Resource.users kext.log kext.holds

variable {kext : Kext n} {p : Pointer n} {self : Fin n}

theorem holds_update (kext : Kext n) (p : Pointer n) (got : Bool)
    (log : List (Custody.Event (Resource n))) :
    holds { kext with
      pointers := Function.update kext.pointers p got
      log := log } = Function.update kext.holds (.pointer p) got := by
  ext resource
  cases resource with
  | pointer q =>
      by_cases same : q = p
      · subst same
        simp [holds]
      · simp [holds, same]
  | hwOps c => simp [holds]

theorem Accounted.assign (accounted : kext.Accounted) {got : Bool}
    (free : kext.pointers p = false) : (kext.assign p got).Accounted := by
  rw [Accounted, Kext.assign, holds_update]
  cases got with
  | false =>
      have same : Function.update kext.holds (.pointer p) false = kext.holds :=
        Function.update_eq_self_iff.mpr free.symm
      rw [same]
      exact accounted
  | true => exact accounted.acquire free

theorem Accounted.drop (accounted : kext.Accounted)
    (unused : ∀ user ∈ Resource.users (.pointer p), kext.holds user = false) :
    (kext.drop p).Accounted := by
  rw [Kext.drop]
  split
  · rename_i set
    rw [Accounted, holds_update]
    exact accounted.release set unused
  · exact accounted

/-! ## The parts of the calls -/

@[simp] theorem pointers_assign (kext : Kext n) (p : Pointer n) (got : Bool) :
    (kext.assign p got).pointers = Function.update kext.pointers p got := rfl

@[simp] theorem hwOps_assign (kext : Kext n) (p : Pointer n) (got : Bool) :
    (kext.assign p got).hwOps = kext.hwOps := rfl

@[simp] theorem phase_assign (kext : Kext n) (p : Pointer n) (got : Bool) :
    (kext.assign p got).phase = kext.phase := rfl

@[simp] theorem pointers_drop (kext : Kext n) (p : Pointer n) :
    (kext.drop p).pointers = Function.update kext.pointers p false := by
  rw [drop]
  split
  · rfl
  · rename_i null
    exact (Function.update_eq_self_iff.mpr (Bool.eq_false_of_not_eq_true null).symm).symm

@[simp] theorem hwOps_drop (kext : Kext n) (p : Pointer n) : (kext.drop p).hwOps = kext.hwOps := by
  rw [drop]
  split <;> rfl

@[simp] theorem phase_drop (kext : Kext n) (p : Pointer n) : (kext.drop p).phase = kext.phase := by
  rw [drop]
  split <;> rfl

@[simp] theorem pointers_enter (kext : Kext n) (c : Fin n) (phase : Phase) :
    (kext.enter c phase).pointers = kext.pointers := rfl

@[simp] theorem phase_enter (kext : Kext n) (c : Fin n) (phase : Phase) :
    (kext.enter c phase).phase = Function.update kext.phase c phase := rfl

end Kext

end AirportRtw88
