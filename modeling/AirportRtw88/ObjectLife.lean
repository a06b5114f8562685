import AirportRtw88.Custody
import AirportRtw88.Interleave.Machine

/-!
# The life of the state machine object

`RTW88IEEE80211` allocates its locks, timers and thread calls in `init`, probes the hardware in
`start`, gives the hardware back in `stop` and the rest in `free`, which also cleans up after an
`init` that fails.  In between, connections come and go.
-/

namespace AirportRtw88

open Interleave Custody

/-- What the object acquires.  Some of it has a member of its own, the rest are the registrations
that the object has made elsewhere. -/
inductive Part where
  | lock
  | bssLock
  | connectTC
  | manualScanTC
  | callbacks
  | wl
  | gate
  | gateInLoop
  | timer
  | timerInLoop
  | rxBaLock
  | reorderTimer
  | reorderTimerInLoop
  | probe
  | vif
  | powered
  | interface
  | registeredVif
  | sta
  | ptkConf
  | gtkConf
  | scanRequest
  deriving DecidableEq

namespace Part

/-- What uses a part, and has to go before it. -/
def users : Part → List Part
  | .bssLock => [.callbacks, .connectTC, .manualScanTC]
  | .rxBaLock => [.callbacks, .reorderTimer, .sta]
  | .wl => [.gate, .timer]
  | .gate => [.gateInLoop]
  | .timer => [.timerInLoop, .callbacks, .connectTC]
  | .reorderTimer => [.reorderTimerInLoop, .callbacks]
  | .probe => [.powered, .interface, .sta, .ptkConf, .gtkConf]
  | .vif => [.registeredVif, .interface, .sta]
  | .interface => [.sta]
  | .sta => [.ptkConf]
  | _ => []

/-- What `init` acquires. -/
def ofInit : List Part :=
  [.lock, .bssLock, .connectTC, .manualScanTC, .callbacks, .wl, .gate, .gateInLoop, .timer,
    .timerInLoop, .rxBaLock, .reorderTimer, .reorderTimerInLoop]

/-- What `start` acquires and keeps until `stop`. -/
def ofStart : List Part := [.probe, .vif, .interface, .registeredVif]

/-- What needs the hardware while it is there. -/
def ofLink : List Part := [.powered, .sta, .ptkConf, .gtkConf]

/-- What comes and goes while the object is there. -/
def transient : List Part := .scanRequest :: ofLink

end Part

/-- What the allocations and calls of `init` return, and whether the parent has a work loop for
reception. -/
structure InitOutcomes where
  lock : Bool
  bssLock : Bool
  connectTC : Bool
  manualScanTC : Bool
  wl : Bool
  gate : Bool
  addGate : Bool
  timer : Bool
  addTimer : Bool
  rxBaLock : Bool
  rxWorkLoop : Bool
  reorderTimer : Bool
  addReorderTimer : Bool

/-- What `start` finds, and what its calls return. -/
structure ProbeOutcomes where
  chip : Bool
  probes : Bool
  complete : Bool
  vif : Bool
  addInterfaceOp : Bool
  startOp : Bool
  starts : Bool
  addsInterface : Bool

/-- What the object holds. -/
abbrev Holdings := Custody.Ledger Part

namespace ObjectLife

/-! ## Where the object begins and ends -/

/-- What `init` does, one thing after the other. -/
def initItems (o : InitOutcomes) : List (Item Part) :=
  [.both .lock .bssLock o.lock o.bssLock,
    .both .connectTC .manualScanTC o.connectTC o.manualScanTC,
    .take .callbacks true,
    .take .wl o.wl,
    .take .gate o.gate,
    .take .gateInLoop o.addGate,
    .take .timer o.timer,
    .take .timerInLoop o.addTimer,
    .take .rxBaLock o.rxBaLock,
    .check o.rxWorkLoop,
    .take .reorderTimer o.reorderTimer,
    .take .reorderTimerInLoop o.addReorderTimer]

def init (o : InitOutcomes) : Holdings → Bool × Holdings :=
  Ledger.perform (initItems o)

/-- The order in which `free` gives everything back. -/
def freed : List Part :=
  [.manualScanTC, .connectTC, .callbacks, .ptkConf, .gtkConf, .sta, .reorderTimerInLoop,
    .reorderTimer, .rxBaLock, .timerInLoop, .timer, .gateInLoop, .gate, .wl, .lock, .bssLock,
    .scanRequest]

def free (holdings : Holdings) : Holdings :=
  holdings.dropAll freed

/-! ## The hardware -/

/-- `start` up to the interface in the driver. -/
def allocVif (o : ProbeOutcomes) : List (Item Part) :=
  [.check o.complete, .take .vif o.vif]

/-- `start` from there on. -/
def addVif (o : ProbeOutcomes) : List (Item Part) :=
  [.check o.addInterfaceOp, .check o.startOp, .take .powered o.starts,
    .take .interface o.addsInterface]

def failProbe (holdings : Holdings) : Holdings :=
  (holdings.give .probe).forget .powered

def failVif (holdings : Holdings) : Holdings :=
  failProbe ((holdings.drop .powered).drop .vif)

/-- `start` after the probe. -/
def setUp (o : ProbeOutcomes) (holdings : Holdings) : Bool × Holdings :=
  match Ledger.perform (allocVif o) holdings with
  | (false, holdings) => (false, failProbe holdings)
  | (true, holdings) =>
      match Ledger.perform (addVif o) holdings with
      | (false, holdings) => (false, failVif holdings)
      | (true, holdings) => (true, holdings.assign .registeredVif true)

def start (o : ProbeOutcomes) (holdings : Holdings) : Bool × Holdings :=
  if !o.chip then (false, holdings)
  else if !o.probes then (false, holdings)
  else setUp o (holdings.assign .probe true)

def clearKeys (holdings : Holdings) : Holdings :=
  (holdings.drop .ptkConf).drop .gtkConf

def releaseSta (holdings : Holdings) : Holdings :=
  holdings.drop .sta

def doDisconnect (holdings : Holdings) : Holdings :=
  if holdings.held .probe && holdings.held .vif then releaseSta (clearKeys holdings) else holdings

/-- The part of `stop` that removes the interface. -/
def removeVif (holdings : Holdings) : Holdings :=
  if holdings.held .vif then
    let holdings := holdings.drop .registeredVif
    let holdings := if holdings.held .probe then holdings.give .interface else holdings
    holdings.drop .vif
  else holdings

/-- `stop`, for a state machine that counts as connected or not. -/
def stop (connected : Bool) (holdings : Holdings) : Holdings :=
  let holdings :=
    if connected && holdings.held .powered then doDisconnect holdings
    else releaseSta (clearKeys holdings)
  ((removeVif holdings).drop .powered).give .probe

def powerOn (starts : Bool) (holdings : Holdings) : Holdings :=
  if holdings.held .powered then holdings
  else if !holdings.held .probe then holdings
  else holdings.assign .powered starts

def powerOff (holdings : Holdings) : Holdings :=
  holdings.drop .powered

/-! ## Connections -/

/-- The allocation of the station in `processAssocResponse`. -/
def addSta (got : Bool) (holdings : Holdings) : Holdings :=
  if holdings.held .sta then holdings else holdings.assign .sta got

def keySlot : Bool → Part
  | true => .ptkConf
  | false => .gtkConf

/-- `installKey`: the slot is set where the driver accepts the key. -/
def installKey (pairwise installs : Bool) (holdings : Holdings) : Holdings :=
  (holdings.drop (keySlot pairwise)).assign (keySlot pairwise) installs

/-- The scan request that `cmdScan` allocates once. -/
def allocScanRequest (got : Bool) (holdings : Holdings) : Holdings :=
  if holdings.held .scanRequest then holdings else holdings.assign .scanRequest got

end ObjectLife

/-! ## The calls -/

/-- What the controller, its clients and the hardware call. -/
inductive ObjectCall where
  | create (o : InitOutcomes)
  | start (o : ProbeOutcomes)
  | stop (connected : Bool)
  | release
  | powerOn (starts : Bool)
  | powerOff
  | cmdScan (got : Bool)
  | associate (got : Bool)
  | installKey (pairwise installs : Bool)
  | disconnect

/-- The object, while there is one, and what is held. -/
structure ObjectLife where
  alive : Bool
  holdings : Holdings

namespace ObjectLife

/-- The object goes with all its members. -/
def destroy (life : ObjectLife) : ObjectLife where
  alive := false
  holdings := { free life.holdings with held := fun _ => false }

/-- `create`: an object whose `init` fails is released. -/
def create (o : InitOutcomes) (life : ObjectLife) : ObjectLife :=
  match init o life.holdings with
  | (true, holdings) => ⟨true, holdings⟩
  | (false, holdings) => destroy ⟨true, holdings⟩

/-- A station joins and keys are installed where the hardware is there. -/
def step : ObjectCall → ObjectLife → Option ObjectLife
  | .create o, life => if life.alive then none else some (life.create o)
  | .start o, life => if life.alive then some ⟨true, (start o life.holdings).2⟩ else none
  | .stop connected, life =>
      if life.alive then some ⟨true, stop connected life.holdings⟩ else none
  | .release, life => if life.alive then some life.destroy else none
  | .powerOn starts, life =>
      if life.alive then some ⟨true, powerOn starts life.holdings⟩ else none
  | .powerOff, life => if life.alive then some ⟨true, powerOff life.holdings⟩ else none
  | .cmdScan got, life =>
      if life.alive then some ⟨true, allocScanRequest got life.holdings⟩ else none
  | .associate got, life =>
      if life.alive && life.holdings.held .probe then some ⟨true, addSta got life.holdings⟩
      else none
  | .installKey pairwise installs, life =>
      if life.alive && life.holdings.held .probe then
        some ⟨true, installKey pairwise installs life.holdings⟩
      else none
  | .disconnect, life => if life.alive then some ⟨true, doDisconnect life.holdings⟩ else none

def machine : Machine ObjectCall ObjectLife where
  step := step

/-- Before the first object. -/
def unborn : ObjectLife :=
  ⟨false, ⟨fun _ => false, []⟩⟩

/-- The hardware is probed once and removed once, and the object goes without it. -/
def Bracketed : ObjectCall → ObjectLife → Prop
  | .start o, life => o.chip = true → o.probes = true → life.holdings.held .probe = false
  | .stop _, life => life.alive = true → life.holdings.held .probe = true
  | .release, life => life.holdings.held .probe = false
  | _, _ => True

/-- What is acquired is given back in order, and what is not is held. -/
def Accounted (life : ObjectLife) : Prop :=
  life.holdings.Accounted Part.users

/-- The hardware comes and goes as a whole, and what needs it goes first. -/
structure Lawful (holdings : Holdings) : Prop where
  accounted : holdings.Accounted Part.users
  started : ∀ part ∈ Part.ofStart, holdings.held part = holdings.held .probe
  linked : ∀ part ∈ Part.ofLink, holdings.held part = true → holdings.held .probe = true

/-- The invariant. -/
structure Consistent (life : ObjectLife) : Prop extends Lawful life.holdings where
  unborn : life.alive = false → ∀ part, life.holdings.held part = false
  born : life.alive = true → ∀ part ∈ Part.ofInit, life.holdings.held part = true

variable {holdings : Holdings} {life : ObjectLife}

theorem Lawful.unlinked (lawful : Lawful holdings) (gone : holdings.held .probe = false) :
    ∀ part ∈ Part.ofLink, holdings.held part = false := by
  intro part member
  by_contra set
  have there := lawful.linked part member (eq_true_of_ne_false set)
  rw [gone] at there
  exact Bool.noConfusion there

end ObjectLife

end AirportRtw88
