import AirportRtw88.State
import AirportRtw88.Interleave.Machine

/-!
# Virtual interfaces

The controller lets IO80211 attach an interface for AWDL and one for P2P.  The AWDL manager points
at them, without a reference of its own, from when they are attached or enabled until they are
disabled or detached.  The pointers lead to interfaces that are there exactly as long as IO80211
gives up no interface that it has enabled.  Every interface that is there is pointed at exactly as
long as IO80211 disables an interface only to detach it.
-/

namespace AirportRtw88

open Interleave Bytes

inductive VifRole where
  | p2pDevice
  | p2pClient
  | p2pGo
  | awdl
  | other
  deriving DecidableEq

/-- The roles from `APPLE80211_VIF_P2P_DEVICE` to `APPLE80211_VIF_P2P_GO`. -/
def VifRole.isP2P : VifRole → Bool
  | .p2pDevice | .p2pClient | .p2pGo => true
  | .awdl | .other => false

/-- What IO80211 keeps of an attached interface. -/
structure VirtualInterface where
  role : VifRole
  bsdName : Option Bytes

/-- The interfaces of `RTW88AWDLManager`. -/
structure AwdlManager where
  awdlInterface : Option Nat
  p2pInterface : Option Nat

namespace AwdlManager

def setVirtualInterface (role : VifRole) (interface : Nat) (manager : AwdlManager) : AwdlManager :=
  if role = .awdl then { manager with awdlInterface := some interface }
  else if role.isP2P then { manager with p2pInterface := some interface }
  else manager

def clearVirtualInterface (interface : Nat) (manager : AwdlManager) : AwdlManager where
  awdlInterface :=
    if manager.awdlInterface = some interface then none else manager.awdlInterface
  p2pInterface := if manager.p2pInterface = some interface then none else manager.p2pInterface

/-- The interface that `handleVIRTUAL_IF_CREATE` takes for the one of a role. -/
def existing (role : VifRole) (manager : AwdlManager) : Option Nat :=
  if role = .awdl then manager.awdlInterface else manager.p2pInterface

end AwdlManager

/-- What `attachVirtualInterface` does: it may call `enableVirtualInterface`, where the superclass
accepts or not.  When it fails after that, the interface is gone again, and it may have called
`disableVirtualInterface` before. -/
inductive AttachOutcome where
  | refuses
  | fails (interface : Nat) (bsdName : Option Bytes) (enables disables : Option Bool)
  | attaches (interface : Nat) (bsdName : Option Bytes) (enables : Option Bool)

/-- The interface that is enabled, and given up without being disabled. -/
def AttachOutcome.abandons : AttachOutcome → Option Nat
  | .fails interface _ enables disables =>
      if enables = some true ∧ disables ≠ some true then some interface else none
  | .refuses => none
  | .attaches .. => none

/-- What `detachVirtualInterface` does: it may call `disableVirtualInterface` first. -/
structure DetachOutcome where
  disables : Option Bool
  detaches : Bool

/-- The controller, once it has started, and the interfaces that IO80211 has attached for it. -/
structure VifController where
  attached : Nat → Option VirtualInterface
  manager : Option AwdlManager

namespace VifController

def setVirtualInterface (role : VifRole) (interface : Nat) (s : VifController) : VifController :=
  { s with manager := s.manager.map (·.setVirtualInterface role interface) }

def clearVirtualInterface (interface : Nat) (s : VifController) : VifController :=
  { s with manager := s.manager.map (·.clearVirtualInterface interface) }

/-- `enableVirtualInterface`.  An interface is asked for its role, so it must be there. -/
def enableVirtualInterface (interface : Nat) (accepts : Bool) (s : VifController) :
    Option VifController := do
  let vif ← s.attached interface
  return if accepts then s.setVirtualInterface vif.role interface else s

def disableVirtualInterface (interface : Nat) (accepts : Bool) (s : VifController) :
    Option VifController := do
  let _ ← s.attached interface
  return if accepts then s.clearVirtualInterface interface else s

/-- The superclass may call back, and its answer to that is accepted or not. -/
def callBack (call : Bool → VifController → Option VifController) :
    Option Bool → VifController → Option VifController
  | none, s => some s
  | some accepts, s => call accepts s

def attachVirtualInterface (role : VifRole) :
    AttachOutcome → VifController → Option (Option Nat × VifController)
  | .refuses, s => some (none, s)
  | .fails interface bsdName enables disables, s => do
      if (s.attached interface).isSome then none
      let s := { s with
        attached := Function.update s.attached interface (some ⟨role, bsdName⟩) }
      let s ← callBack (enableVirtualInterface interface) enables s
      let s ← callBack (disableVirtualInterface interface) disables s
      return (none, { s with attached := Function.update s.attached interface none })
  | .attaches interface bsdName enables, s => do
      if (s.attached interface).isSome then none
      let s := { s with
        attached := Function.update s.attached interface (some ⟨role, bsdName⟩) }
      let s ← callBack (enableVirtualInterface interface) enables s
      return (some interface, s)

def detachVirtualInterface (interface : Nat) (o : DetachOutcome) (s : VifController) :
    Option VifController := do
  let s ← callBack (disableVirtualInterface interface) o.disables s
  return if o.detaches then
    { s with attached := Function.update s.attached interface none }
  else s

/-- `ensureAWDLVirtualInterface`, where the superclass accepts that the interface is enabled or
not. -/
def ensureAWDLVirtualInterface (o : AttachOutcome) (accepts : Bool) (s : VifController) :
    Option (Bool × VifController) := do
  let some manager := s.manager | return (false, s)
  if manager.awdlInterface.isSome then return (true, s)
  let (created, s) ← s.attachVirtualInterface .awdl o
  let some interface := created | return (false, s)
  let s := s.setVirtualInterface .awdl interface
  let s ← s.enableVirtualInterface interface accepts
  return (accepts, s)

/-- `handleVIRTUAL_IF_CREATE`, with the BSD name that it hands out. -/
def handleVirtualIfCreate (validVersion : Bool) (role : VifRole) (o : AttachOutcome)
    (s : VifController) : Option ((IOReturn × Option Bytes) × VifController) := do
  if !validVersion then return ((.badArgument, none), s)
  if role = .other then return ((.unsupported, none), s)
  let some manager := s.manager | return ((.notReady, none), s)
  match manager.existing role with
  | some interface =>
      let vif ← s.attached interface
      return ((.success, vif.bsdName), s)
  | none =>
      let (created, s) ← s.attachVirtualInterface role o
      let some interface := created | return ((.error, none), s)
      let s := s.setVirtualInterface role interface
      let vif ← s.attached interface
      return ((.success, vif.bsdName), s)

/-- An interface is found by its BSD name, of which 16 bytes count. -/
def named (interface : Option Nat) (requested : Bytes) (s : VifController) : Option Bool :=
  match interface with
  | none => some false
  | some interface => do
      let vif ← s.attached interface
      return vif.bsdName.any fun name => name.take 16 == requested

/-- The interface that `handleVIRTUAL_IF_DELETE` finds. -/
def deleteTarget (bsdName : Bytes) (s : VifController) : Option (Option Nat) := do
  let requested := cString (bsdName.take 16)
  let awdl := s.manager.bind AwdlManager.awdlInterface
  let p2p := s.manager.bind AwdlManager.p2pInterface
  if ← s.named awdl requested then return awdl
  if ← s.named p2p requested then return p2p
  return none

def handleVirtualIfDelete (validVersion : Bool) (bsdName : Bytes) (o : DetachOutcome)
    (s : VifController) : Option (IOReturn × VifController) := do
  if !validVersion then return (.badArgument, s)
  let some target ← s.deleteTarget bsdName | return (.notFound, s)
  let _ ← s.attached target
  let s ← s.detachVirtualInterface target o
  return if o.detaches then (.success, s.clearVirtualInterface target) else (.error, s)

/-- The AWDL manager is deleted in `teardown`. -/
def teardown (s : VifController) : VifController :=
  { s with manager := none }

/-- The interface that `injectRxActionFrame` and `injectRxAWDLFrame` give their frames to. -/
def receiver (s : VifController) : Option Nat :=
  s.manager.bind AwdlManager.awdlInterface

end VifController

inductive VifCall where
  | ensureAwdl (o : AttachOutcome) (accepts : Bool)
  | create (validVersion : Bool) (role : VifRole) (o : AttachOutcome)
  | delete (validVersion : Bool) (bsdName : Bytes) (o : DetachOutcome)
  | enable (interface : Nat) (accepts : Bool)
  | disable (interface : Nat) (accepts : Bool)
  | teardown

namespace VifController

def step : VifCall → VifController → Option VifController
  | .ensureAwdl o accepts, s => (s.ensureAWDLVirtualInterface o accepts).map Prod.snd
  | .create validVersion role o, s => (s.handleVirtualIfCreate validVersion role o).map Prod.snd
  | .delete validVersion bsdName o, s =>
      (s.handleVirtualIfDelete validVersion bsdName o).map Prod.snd
  | .enable interface accepts, s => s.enableVirtualInterface interface accepts
  | .disable interface accepts, s => s.disableVirtualInterface interface accepts
  | .teardown, s => some s.teardown

def machine : Machine VifCall VifController where
  step := step

/-- The controller when its AWDL manager is new. -/
def started : VifController where
  attached _ := none
  manager := some ⟨none, none⟩

/-- The interface that IO80211 disables without detaching it. -/
def forgets : VifCall → VifController → Option Nat
  | .disable interface true, _ => some interface
  | .delete true bsdName ⟨some true, false⟩, s => (s.deleteTarget bsdName).join
  | _, _ => none

/-- The interface that IO80211 gives up after it has been enabled, if the controller asks for an
interface at all. -/
def abandoned (role : VifRole) (o : AttachOutcome) (s : VifController) : Option Nat := do
  let manager ← s.manager
  let interface ← o.abandons
  if role ≠ .other ∧ manager.existing role = none ∧ s.attached interface = none then
    some interface
  else none

def abandons : VifCall → VifController → Option Nat
  | .ensureAwdl o _, s => s.abandoned .awdl o
  | .create true role o, s => s.abandoned role o
  | _, _ => none

variable {s t : VifController} {manager : AwdlManager} {interface : Nat} {role : VifRole}

/-! ## What a call can do -/

/-- An interface is attached and pointed at. -/
def attach (role : VifRole) (interface : Nat) (bsdName : Option Bytes) (s : VifController) :
    VifController where
  attached := Function.update s.attached interface (some ⟨role, bsdName⟩)
  manager := s.manager.map (·.setVirtualInterface role interface)

/-- An interface is detached, and not pointed at any more. -/
def detach (interface : Nat) (s : VifController) : VifController where
  attached := Function.update s.attached interface none
  manager := s.manager.map (·.clearVirtualInterface interface)

/-- The changes of the interfaces and of the pointers to them. -/
inductive Change (s : VifController) (call : VifCall) : VifController → Prop where
  | stays : Change s call s
  | attaches (manager : AwdlManager) (role : VifRole) (interface : Nat) (bsdName : Option Bytes)
      (present : s.manager = some manager) (room : manager.existing role = none)
      (known : role ≠ .other) (fresh : s.attached interface = none) :
      Change s call (s.attach role interface bsdName)
  | abandons (manager : AwdlManager) (role : VifRole) (interface : Nat)
      (present : s.manager = some manager) (room : manager.existing role = none)
      (abandoned : abandons call s = some interface) :
      Change s call (s.setVirtualInterface role interface)
  | withdraws (interface : Nat) (fresh : s.attached interface = none) :
      Change s call (s.clearVirtualInterface interface)
  | enables (interface : Nat) (vif : VirtualInterface)
      (present : s.attached interface = some vif) :
      Change s call (s.setVirtualInterface vif.role interface)
  | forgets (interface : Nat) (forgotten : forgets call s = some interface) :
      Change s call (s.clearVirtualInterface interface)
  | detaches (interface : Nat) : Change s call (s.detach interface)
  | ends : Change s call s.teardown

theorem setVirtualInterface_twice (s : VifController) (role : VifRole) (interface : Nat) :
    (s.setVirtualInterface role interface).setVirtualInterface role interface =
      s.setVirtualInterface role interface := by
  obtain ⟨attached, manager⟩ := s
  cases manager with
  | none => rfl
  | some manager =>
      cases role <;> rfl

theorem clearVirtualInterface_twice (s : VifController) (interface : Nat) :
    (s.clearVirtualInterface interface).clearVirtualInterface interface =
      s.clearVirtualInterface interface := by
  obtain ⟨attached, manager⟩ := s
  cases manager with
  | none => rfl
  | some manager =>
      simp [clearVirtualInterface, AwdlManager.clearVirtualInterface]

/-- The pointer is set by the callback, or only after it. -/
theorem attachVirtualInterface_attaches {bsdName : Option Bytes} {enables : Option Bool}
    {created : Option Nat}
    (attaches : s.attachVirtualInterface role (.attaches interface bsdName enables) =
      some (created, t)) :
    created = some interface ∧ s.attached interface = none ∧
      t.attached interface = some ⟨role, bsdName⟩ ∧
      t.setVirtualInterface role interface = s.attach role interface bsdName := by
  rw [attachVirtualInterface] at attaches
  split at attaches
  case isTrue => cases attaches
  case isFalse absent =>
    have fresh : s.attached interface = none := Option.not_isSome_iff_eq_none.mp absent
    cases enables with
    | none =>
        obtain ⟨rfl, rfl⟩ := Prod.mk.inj (Option.some.inj attaches)
        exact ⟨rfl, fresh, Function.update_self .., rfl⟩
    | some accepts =>
        simp only [callBack, enableVirtualInterface, Function.update_self, Option.bind_eq_bind,
          Option.bind_some, Option.pure_def, Option.some.injEq, Prod.mk.injEq] at attaches
        obtain ⟨rfl, rfl⟩ := attaches
        refine ⟨rfl, fresh, ?_, ?_⟩
        · cases accepts <;> exact Function.update_self ..
        · cases accepts with
          | false => rfl
          | true => exact setVirtualInterface_twice _ role interface

/-- What the callbacks leave when the interface is gone again. -/
def tried (role : VifRole) (interface : Nat) (enables disables : Option Bool)
    (s : VifController) : VifController :=
  let s := if enables = some true then s.setVirtualInterface role interface else s
  if disables = some true then s.clearVirtualInterface interface else s

theorem attachVirtualInterface_fails (fresh : s.attached interface = none) (role : VifRole)
    (bsdName : Option Bytes) (enables disables : Option Bool) :
    s.attachVirtualInterface role (.fails interface bsdName enables disables) =
      some (none, s.tried role interface enables disables) := by
  have gone : Function.update (Function.update s.attached interface (some ⟨role, bsdName⟩))
      interface none = s.attached := by
    rw [Function.update_idem, Function.update_eq_self_iff, fresh]
  rw [attachVirtualInterface, fresh]
  cases enables with
  | none =>
      cases disables with
      | none => simp [callBack, tried, gone]
      | some undone =>
          cases undone <;>
            simp [callBack, disableVirtualInterface, tried, clearVirtualInterface, gone]
  | some accepts =>
      cases disables with
      | none =>
          cases accepts <;>
            simp [callBack, enableVirtualInterface, tried, setVirtualInterface, gone]
      | some undone =>
          cases accepts <;> cases undone <;>
            simp [callBack, enableVirtualInterface, disableVirtualInterface, tried,
              setVirtualInterface, clearVirtualInterface, gone]

/-- What an attach leaves that gives no interface. -/
inductive Leaves (s : VifController) (role : VifRole) (o : AttachOutcome) : VifController → Prop
  | nothing : Leaves s role o s
  | withdrawn (interface : Nat) (fresh : s.attached interface = none) :
      Leaves s role o (s.clearVirtualInterface interface)
  | abandoned (interface : Nat) (fresh : s.attached interface = none)
      (abandons : o.abandons = some interface) :
      Leaves s role o (s.setVirtualInterface role interface)

/-- A pointer that was null is null again after the interface was enabled and disabled. -/
theorem clear_setVirtualInterface (present : s.manager = some manager)
    (room : manager.existing role = none) :
    (s.setVirtualInterface role interface).clearVirtualInterface interface =
      s.clearVirtualInterface interface := by
  obtain ⟨attached, pointers⟩ := s
  obtain rfl : pointers = some manager := present
  obtain ⟨awdl, p2p⟩ := manager
  cases role with
  | other => rfl
  | p2pDevice | p2pClient | p2pGo =>
      obtain rfl : p2p = none := room
      simp [setVirtualInterface, clearVirtualInterface, AwdlManager.setVirtualInterface,
        AwdlManager.clearVirtualInterface, VifRole.isP2P]
  | awdl =>
      obtain rfl : awdl = none := room
      simp [setVirtualInterface, clearVirtualInterface, AwdlManager.setVirtualInterface,
        AwdlManager.clearVirtualInterface]

theorem leaves_tried (present : s.manager = some manager) (room : manager.existing role = none)
    (fresh : s.attached interface = none) (bsdName : Option Bytes)
    (enables disables : Option Bool) :
    Leaves s role (.fails interface bsdName enables disables)
      (s.tried role interface enables disables) := by
  rw [tried]
  by_cases disabled : disables = some true
  · have cleared : Leaves s role (.fails interface bsdName enables disables)
        (s.clearVirtualInterface interface) := .withdrawn interface fresh
    rw [if_pos disabled]
    split
    case isTrue => rwa [clear_setVirtualInterface present room]
    case isFalse => exact cleared
  · rw [if_neg disabled]
    split
    case isTrue enabled =>
      exact .abandoned interface fresh (if_pos ⟨enabled, disabled⟩)
    case isFalse => exact .nothing

theorem attachVirtualInterface_cases {o : AttachOutcome} {created : Option Nat}
    (present : s.manager = some manager) (room : manager.existing role = none)
    (attaches : s.attachVirtualInterface role o = some (created, t)) :
    created = none ∧ Leaves s role o t ∨
      ∃ interface bsdName, created = some interface ∧ s.attached interface = none ∧
        t.attached interface = some ⟨role, bsdName⟩ ∧
        t.setVirtualInterface role interface = s.attach role interface bsdName := by
  cases o with
  | refuses =>
      obtain ⟨rfl, rfl⟩ := Prod.mk.inj (Option.some.inj attaches)
      exact .inl ⟨rfl, .nothing⟩
  | fails interface bsdName enables disables =>
      left
      cases found : s.attached interface with
      | some vif =>
          rw [attachVirtualInterface, found] at attaches
          cases attaches
      | none =>
          rw [attachVirtualInterface_fails found] at attaches
          obtain ⟨rfl, rfl⟩ := Prod.mk.inj (Option.some.inj attaches)
          exact ⟨rfl, leaves_tried present room found bsdName enables disables⟩
  | attaches interface bsdName enables =>
      right
      exact ⟨interface, bsdName, attachVirtualInterface_attaches attaches⟩

theorem abandoned_of_abandons {o : AttachOutcome} (present : s.manager = some manager)
    (room : manager.existing role = none) (known : role ≠ .other)
    (fresh : s.attached interface = none) (abandons : o.abandons = some interface) :
    s.abandoned role o = some interface := by
  rw [abandoned, present, abandons]
  exact if_pos ⟨known, room, fresh⟩

theorem abandons_of_abandoned {o : AttachOutcome}
    (abandoned : s.abandoned role o = some interface) :
    (∃ manager, s.manager = some manager ∧ manager.existing role = none) ∧ role ≠ .other ∧
      s.attached interface = none ∧ o.abandons = some interface := by
  obtain ⟨manager, present, abandoned⟩ := Option.bind_eq_some_iff.mp abandoned
  obtain ⟨other, abandons, abandoned⟩ := Option.bind_eq_some_iff.mp abandoned
  obtain ⟨⟨known, room, fresh⟩, same⟩ := Option.ite_none_right_eq_some.mp abandoned
  obtain rfl := Option.some.inj same
  exact ⟨⟨manager, present, room⟩, known, fresh, abandons⟩

/-- What an attach leaves that gives no interface is a change of the call that asked for it. -/
theorem Leaves.change {o : AttachOutcome} {call : VifCall} (leaves : Leaves s role o t)
    (present : s.manager = some manager) (room : manager.existing role = none)
    (known : role ≠ .other) (asks : abandons call s = s.abandoned role o) : Change s call t := by
  cases leaves with
  | nothing => exact .stays
  | withdrawn interface fresh => exact .withdraws interface fresh
  | abandoned interface fresh abandons =>
      apply Change.abandons manager role interface present room
      rw [asks]
      exact abandoned_of_abandons present room known fresh abandons

theorem ensureAWDLVirtualInterface_change {o : AttachOutcome} {accepts answer : Bool}
    (ensures : s.ensureAWDLVirtualInterface o accepts = some (answer, t)) :
    Change s (.ensureAwdl o accepts) t := by
  rw [ensureAWDLVirtualInterface] at ensures
  cases present : s.manager with
  | none =>
      rw [present] at ensures
      cases ensures
      exact .stays
  | some manager =>
      rw [present] at ensures
      dsimp only at ensures
      split at ensures
      case isTrue =>
        cases ensures
        exact .stays
      case isFalse absent =>
        have room : manager.existing .awdl = none := Option.not_isSome_iff_eq_none.mp absent
        obtain ⟨⟨created, between⟩, attaches, answers⟩ := Option.bind_eq_some_iff.mp ensures
        obtain ⟨rfl, leaves⟩ | ⟨interface, bsdName, rfl, fresh, found, points⟩ :=
          attachVirtualInterface_cases present room attaches
        · cases answers
          exact leaves.change present room (by decide) rfl
        · have again : (between.setVirtualInterface .awdl interface).attached interface =
              some ⟨.awdl, bsdName⟩ := found
          have twice := setVirtualInterface_twice between .awdl interface
          simp only [enableVirtualInterface, again, Option.bind_eq_bind, Option.bind_some, twice,
            ite_self, Option.pure_def, Option.some.injEq, Prod.mk.injEq] at answers
          obtain ⟨-, rfl⟩ := answers
          rw [points]
          exact .attaches manager .awdl interface bsdName present room (by decide) fresh

theorem handleVirtualIfCreate_change {validVersion : Bool} {o : AttachOutcome}
    {answer : IOReturn × Option Bytes}
    (creates : s.handleVirtualIfCreate validVersion role o = some (answer, t)) :
    Change s (.create validVersion role o) t := by
  rw [handleVirtualIfCreate] at creates
  split at creates
  case isTrue =>
    cases creates
    exact .stays
  case isFalse valid =>
    obtain rfl : validVersion = true := by simpa using valid
    split at creates
    case isTrue =>
      cases creates
      exact .stays
    case isFalse known =>
      cases present : s.manager with
      | none =>
          rw [present] at creates
          cases creates
          exact .stays
      | some manager =>
          rw [present] at creates
          dsimp only at creates
          cases room : manager.existing role with
          | some interface =>
              rw [room] at creates
              obtain ⟨vif, -, creates⟩ := Option.bind_eq_some_iff.mp creates
              cases creates
              exact .stays
          | none =>
              rw [room] at creates
              obtain ⟨⟨created, between⟩, attaches, answers⟩ := Option.bind_eq_some_iff.mp creates
              obtain ⟨rfl, leaves⟩ | ⟨interface, bsdName, rfl, fresh, -, points⟩ :=
                attachVirtualInterface_cases present room attaches
              · cases answers
                exact leaves.change present room known rfl
              · obtain ⟨vif, -, answers⟩ := Option.bind_eq_some_iff.mp answers
                obtain ⟨-, rfl⟩ := Prod.mk.inj (Option.some.inj answers)
                rw [points]
                exact .attaches manager role interface bsdName present room known fresh

/-- The pointer is cleared by the callback, or only after it. -/
theorem detachVirtualInterface_cases {o : DetachOutcome}
    (detaches : s.detachVirtualInterface interface o = some t) :
    o.detaches = true ∧ t.clearVirtualInterface interface = s.detach interface ∨
      o.detaches = false ∧
        (t = s ∨ o.disables = some true ∧ t = s.clearVirtualInterface interface) := by
  obtain ⟨disables, gone⟩ := o
  rw [detachVirtualInterface] at detaches
  obtain ⟨between, called, ends⟩ := Option.bind_eq_some_iff.mp detaches
  have cleared : between = s ∨
      disables = some true ∧ between = s.clearVirtualInterface interface := by
    cases disables with
    | none => exact .inl (Option.some.inj called).symm
    | some accepts =>
        obtain ⟨-, -, called⟩ := Option.bind_eq_some_iff.mp called
        cases accepts with
        | false => exact .inl (Option.some.inj called).symm
        | true => exact .inr ⟨rfl, (Option.some.inj called).symm⟩
  cases gone with
  | true =>
      left
      obtain rfl := Option.some.inj ends
      refine ⟨rfl, ?_⟩
      obtain rfl | ⟨-, rfl⟩ := cleared
      · rfl
      · exact congrArg (VifController.mk (Function.update s.attached interface none))
          (congrArg VifController.manager (clearVirtualInterface_twice s interface))
  | false =>
      right
      obtain rfl := Option.some.inj ends
      exact ⟨rfl, cleared⟩

theorem handleVirtualIfDelete_change {validVersion : Bool} {bsdName : Bytes} {o : DetachOutcome}
    {answer : IOReturn} (deletes : s.handleVirtualIfDelete validVersion bsdName o =
      some (answer, t)) : Change s (.delete validVersion bsdName o) t := by
  rw [handleVirtualIfDelete] at deletes
  split at deletes
  case isTrue =>
    cases deletes
    exact .stays
  case isFalse valid =>
    obtain ⟨found, target, deletes⟩ := Option.bind_eq_some_iff.mp deletes
    cases found with
    | none =>
        cases deletes
        exact .stays
    | some interface =>
        obtain ⟨vif, -, deletes⟩ := Option.bind_eq_some_iff.mp deletes
        obtain ⟨between, detaches, deletes⟩ := Option.bind_eq_some_iff.mp deletes
        obtain ⟨gone, same⟩ | ⟨there, same⟩ := detachVirtualInterface_cases detaches
        · rw [gone, if_pos rfl] at deletes
          obtain ⟨-, rfl⟩ := Prod.mk.inj (Option.some.inj deletes)
          rw [same]
          exact .detaches interface
        · rw [there, if_neg Bool.false_ne_true] at deletes
          obtain ⟨-, rfl⟩ := Prod.mk.inj (Option.some.inj deletes)
          obtain rfl | ⟨disables, rfl⟩ := same
          · exact .stays
          · apply Change.forgets interface
            obtain ⟨disabled, detached⟩ := o
            obtain rfl : disabled = some true := disables
            obtain rfl : detached = false := there
            obtain rfl : validVersion = true := by simpa using valid
            rw [forgets, target]
            rfl

/-- Everything that a call can do. -/
theorem step_change {call : VifCall} (steps : step call s = some t) : Change s call t := by
  cases call with
  | ensureAwdl o accepts =>
      obtain ⟨⟨answer, later⟩, ensures, rfl⟩ := Option.map_eq_some_iff.mp steps
      exact ensureAWDLVirtualInterface_change ensures
  | create validVersion role o =>
      obtain ⟨⟨answer, later⟩, creates, rfl⟩ := Option.map_eq_some_iff.mp steps
      exact handleVirtualIfCreate_change creates
  | delete validVersion bsdName o =>
      obtain ⟨⟨answer, later⟩, deletes, rfl⟩ := Option.map_eq_some_iff.mp steps
      exact handleVirtualIfDelete_change deletes
  | enable interface accepts =>
      obtain ⟨vif, present, enables⟩ := Option.bind_eq_some_iff.mp steps
      obtain rfl := Option.some.inj enables
      cases accepts with
      | false => exact .stays
      | true => exact .enables interface vif present
  | disable interface accepts =>
      obtain ⟨vif, -, disables⟩ := Option.bind_eq_some_iff.mp steps
      obtain rfl := Option.some.inj disables
      cases accepts with
      | false => exact .stays
      | true => exact .forgets interface rfl
  | teardown =>
      obtain rfl := Option.some.inj steps
      exact .ends

/-! ## The pointers -/

/-- A pointer leads to an interface that is attached, and has the role for it. -/
structure Tracked (s : VifController) : Prop where
  awdl : ∀ manager ∈ s.manager, ∀ interface ∈ manager.awdlInterface,
    ∃ vif, s.attached interface = some vif ∧ vif.role = .awdl
  p2p : ∀ manager ∈ s.manager, ∀ interface ∈ manager.p2pInterface,
    ∃ vif, s.attached interface = some vif ∧ vif.role.isP2P = true

/-- An interface that is attached is pointed at. -/
def Covers (s : VifController) : Prop :=
  ∀ manager ∈ s.manager, ∀ interface vif, s.attached interface = some vif →
    vif.role ≠ .other ∧ manager.existing vif.role = some interface

theorem tracked_started : Tracked started where
  awdl manager present interface points := by
    obtain rfl := Option.some.inj present
    cases points
  p2p manager present interface points := by
    obtain rfl := Option.some.inj present
    cases points

theorem Tracked.setVirtualInterface (tracked : Tracked s) {vif : VirtualInterface}
    (present : s.attached interface = some vif) :
    Tracked (s.setVirtualInterface vif.role interface) where
  awdl manager there other points := by
    obtain ⟨before, was, rfl⟩ := Option.map_eq_some_iff.mp there
    rw [AwdlManager.setVirtualInterface] at points
    split at points
    case isTrue same =>
      obtain rfl := Option.some.inj points
      exact ⟨vif, present, same⟩
    case isFalse =>
      split at points <;> exact tracked.awdl before was other points
  p2p manager there other points := by
    obtain ⟨before, was, rfl⟩ := Option.map_eq_some_iff.mp there
    rw [AwdlManager.setVirtualInterface] at points
    split at points
    case isTrue => exact tracked.p2p before was other points
    case isFalse =>
      split at points
      case isTrue same =>
        obtain rfl := Option.some.inj points
        exact ⟨vif, present, same⟩
      case isFalse => exact tracked.p2p before was other points

theorem Tracked.attached (tracked : Tracked s) (fresh : s.attached interface = none)
    (vif : VirtualInterface) :
    Tracked { s with attached := Function.update s.attached interface (some vif) } := by
  have kept : ∀ other old, s.attached other = some old →
      Function.update s.attached interface (some vif) other = some old := by
    intro other old present
    have apart : other ≠ interface := by
      rintro rfl
      rw [fresh] at present
      cases present
    rwa [Function.update_of_ne apart]
  constructor
  · intro manager there other points
    obtain ⟨old, present, same⟩ := tracked.awdl manager there other points
    exact ⟨old, kept other old present, same⟩
  · intro manager there other points
    obtain ⟨old, present, same⟩ := tracked.p2p manager there other points
    exact ⟨old, kept other old present, same⟩

theorem Tracked.clearVirtualInterface (tracked : Tracked s) (interface : Nat) :
    Tracked (s.clearVirtualInterface interface) where
  awdl manager there other points := by
    obtain ⟨before, was, rfl⟩ := Option.map_eq_some_iff.mp there
    obtain ⟨-, points⟩ := Option.ite_none_left_eq_some.mp points
    exact tracked.awdl before was other points
  p2p manager there other points := by
    obtain ⟨before, was, rfl⟩ := Option.map_eq_some_iff.mp there
    obtain ⟨-, points⟩ := Option.ite_none_left_eq_some.mp points
    exact tracked.p2p before was other points

theorem Tracked.detach (tracked : Tracked s) (interface : Nat) : Tracked (s.detach interface) where
  awdl manager there other points := by
    obtain ⟨before, was, rfl⟩ := Option.map_eq_some_iff.mp there
    obtain ⟨apart, still⟩ := Option.ite_none_left_eq_some.mp points
    have differs : other ≠ interface := fun same => apart (same ▸ still)
    obtain ⟨vif, present, same⟩ := tracked.awdl before was other still
    exact ⟨vif, (Function.update_of_ne differs ..).trans present, same⟩
  p2p manager there other points := by
    obtain ⟨before, was, rfl⟩ := Option.map_eq_some_iff.mp there
    obtain ⟨apart, still⟩ := Option.ite_none_left_eq_some.mp points
    have differs : other ≠ interface := fun same => apart (same ▸ still)
    obtain ⟨vif, present, same⟩ := tracked.p2p before was other still
    exact ⟨vif, (Function.update_of_ne differs ..).trans present, same⟩

/-- IO80211 gives up no interface that it has enabled. -/
def Withdrawing (call : VifCall) (s : VifController) : Prop :=
  abandons call s = none

/-- No other change leaves a pointer to an interface that is gone. -/
theorem Tracked.change {call : VifCall} (tracked : Tracked s) (withdrawing : Withdrawing call s)
    (change : Change s call t) : Tracked t := by
  cases change with
  | stays => exact tracked
  | attaches manager role interface bsdName present room known fresh =>
      have there : Function.update s.attached interface (some ⟨role, bsdName⟩) interface =
          some ⟨role, bsdName⟩ := Function.update_self ..
      exact (tracked.attached fresh ⟨role, bsdName⟩).setVirtualInterface there
  | abandons manager role interface present room abandoned =>
      exact absurd (withdrawing.symm.trans abandoned) nofun
  | withdraws interface => exact tracked.clearVirtualInterface interface
  | enables interface vif present => exact tracked.setVirtualInterface present
  | forgets interface => exact tracked.clearVirtualInterface interface
  | detaches interface => exact tracked.detach interface
  | ends => exact ⟨nofun, nofun⟩

/-! ## Calls on interfaces that are there -/

/-- IO80211 attaches only what is new. -/
def Attachable (s : VifController) : AttachOutcome → Prop
  | .refuses => True
  | .fails interface .. => s.attached interface = none
  | .attaches interface .. => s.attached interface = none

/-- What IO80211 may do in a state. -/
def Possible (s : VifController) : VifCall → Prop
  | .ensureAwdl o _ => s.Attachable o
  | .create _ _ o => s.Attachable o
  | .enable interface _ => ∃ vif, s.attached interface = some vif
  | .disable interface _ => ∃ vif, s.attached interface = some vif
  | .delete .. => True
  | .teardown => True

theorem attachVirtualInterface_isSome {o : AttachOutcome} (fresh : s.Attachable o)
    (role : VifRole) :
    ∃ created t, s.attachVirtualInterface role o = some (created, t) := by
  cases o with
  | refuses => exact ⟨none, s, rfl⟩
  | fails interface bsdName enables disables =>
      exact ⟨_, _, attachVirtualInterface_fails fresh role bsdName enables disables⟩
  | attaches interface bsdName enables =>
      rw [attachVirtualInterface, fresh]
      cases enables with
      | none => exact ⟨_, _, rfl⟩
      | some accepts =>
          simp only [callBack, enableVirtualInterface, Function.update_self]
          exact ⟨_, _, rfl⟩

theorem ensureAWDLVirtualInterface_isSome {o : AttachOutcome} (fresh : s.Attachable o)
    (accepts : Bool) : ∃ answer t, s.ensureAWDLVirtualInterface o accepts = some (answer, t) := by
  rw [ensureAWDLVirtualInterface]
  cases present : s.manager with
  | none => exact ⟨_, _, rfl⟩
  | some manager =>
      dsimp only
      split
      case isTrue => exact ⟨_, _, rfl⟩
      case isFalse absent =>
        have room : manager.existing .awdl = none := Option.not_isSome_iff_eq_none.mp absent
        obtain ⟨created, between, attaches⟩ := attachVirtualInterface_isSome fresh .awdl
        rw [attaches]
        obtain ⟨rfl, -⟩ | ⟨interface, bsdName, rfl, -, found, -⟩ :=
          attachVirtualInterface_cases present room attaches
        · exact ⟨_, _, rfl⟩
        · have again : (between.setVirtualInterface .awdl interface).attached interface =
              some ⟨.awdl, bsdName⟩ := found
          simp only [Option.bind_eq_bind, Option.bind_some, enableVirtualInterface, again]
          exact ⟨_, _, rfl⟩

theorem Tracked.existing (tracked : Tracked s) (present : s.manager = some manager)
    (points : manager.existing role = some interface) :
    ∃ vif, s.attached interface = some vif := by
  rw [AwdlManager.existing] at points
  split at points
  case isTrue =>
    obtain ⟨vif, there, -⟩ := tracked.awdl manager present interface points
    exact ⟨vif, there⟩
  case isFalse =>
    obtain ⟨vif, there, -⟩ := tracked.p2p manager present interface points
    exact ⟨vif, there⟩

theorem Tracked.handleVirtualIfCreate_isSome (tracked : Tracked s) {o : AttachOutcome}
    (fresh : s.Attachable o) (validVersion : Bool) (role : VifRole) :
    ∃ answer t, s.handleVirtualIfCreate validVersion role o = some (answer, t) := by
  rw [handleVirtualIfCreate]
  split
  case isTrue => exact ⟨_, _, rfl⟩
  case isFalse =>
    split
    case isTrue => exact ⟨_, _, rfl⟩
    case isFalse =>
      cases present : s.manager with
      | none => exact ⟨_, _, rfl⟩
      | some manager =>
          dsimp only
          cases points : manager.existing role with
          | some interface =>
              obtain ⟨vif, there⟩ := tracked.existing present points
              dsimp only
              rw [there]
              exact ⟨_, _, rfl⟩
          | none =>
              obtain ⟨created, between, attaches⟩ := attachVirtualInterface_isSome fresh role
              rw [attaches]
              obtain ⟨rfl, -⟩ | ⟨interface, bsdName, rfl, -, found, -⟩ :=
                attachVirtualInterface_cases present points attaches
              · exact ⟨_, _, rfl⟩
              · have again : (between.setVirtualInterface role interface).attached interface =
                    some ⟨role, bsdName⟩ := found
                simp only [Option.bind_eq_bind, Option.bind_some, again]
                exact ⟨_, _, rfl⟩

theorem named_isSome {pointer : Option Nat}
    (leads : ∀ interface ∈ pointer, ∃ vif, s.attached interface = some vif) (requested : Bytes) :
    ∃ found, s.named pointer requested = some found := by
  cases pointer with
  | none => exact ⟨false, rfl⟩
  | some interface =>
      obtain ⟨vif, there⟩ := leads interface rfl
      rw [named, there]
      exact ⟨_, rfl⟩

theorem Tracked.deleteTarget_isSome (tracked : Tracked s) (bsdName : Bytes) :
    ∃ target, s.deleteTarget bsdName = some target ∧
      ∀ interface ∈ target, ∃ vif, s.attached interface = some vif := by
  have awdl : ∀ interface ∈ s.manager.bind AwdlManager.awdlInterface,
      ∃ vif, s.attached interface = some vif := by
    intro interface points
    obtain ⟨manager, present, points⟩ := Option.bind_eq_some_iff.mp points
    obtain ⟨vif, there, -⟩ := tracked.awdl manager present interface points
    exact ⟨vif, there⟩
  have p2p : ∀ interface ∈ s.manager.bind AwdlManager.p2pInterface,
      ∃ vif, s.attached interface = some vif := by
    intro interface points
    obtain ⟨manager, present, points⟩ := Option.bind_eq_some_iff.mp points
    obtain ⟨vif, there, -⟩ := tracked.p2p manager present interface points
    exact ⟨vif, there⟩
  obtain ⟨first, isFirst⟩ := named_isSome awdl (cString (bsdName.take 16))
  obtain ⟨second, isSecond⟩ := named_isSome p2p (cString (bsdName.take 16))
  rw [deleteTarget, isFirst, isSecond]
  cases first with
  | true => exact ⟨_, rfl, awdl⟩
  | false =>
      cases second with
      | true => exact ⟨_, rfl, p2p⟩
      | false => exact ⟨none, rfl, nofun⟩

theorem detachVirtualInterface_isSome {vif : VirtualInterface}
    (there : s.attached interface = some vif) (o : DetachOutcome) :
    ∃ t, s.detachVirtualInterface interface o = some t := by
  obtain ⟨disables, gone⟩ := o
  cases disables with
  | none => exact ⟨_, rfl⟩
  | some accepts =>
      simp only [detachVirtualInterface, callBack, disableVirtualInterface, there]
      exact ⟨_, rfl⟩

theorem Tracked.handleVirtualIfDelete_isSome (tracked : Tracked s) (validVersion : Bool)
    (bsdName : Bytes) (o : DetachOutcome) :
    ∃ answer t, s.handleVirtualIfDelete validVersion bsdName o = some (answer, t) := by
  rw [handleVirtualIfDelete]
  split
  case isTrue => exact ⟨_, _, rfl⟩
  case isFalse =>
    obtain ⟨target, found, leads⟩ := tracked.deleteTarget_isSome bsdName
    rw [found]
    cases target with
    | none => exact ⟨_, _, rfl⟩
    | some interface =>
        obtain ⟨vif, there⟩ := leads interface rfl
        obtain ⟨between, detaches⟩ := detachVirtualInterface_isSome there o
        simp only [Option.bind_eq_bind, Option.bind_some, there, detaches]
        exact ⟨_, _, rfl⟩

/-- Every call that IO80211 may make comes to its end. -/
theorem Tracked.step_isSome (tracked : Tracked s) {call : VifCall} (possible : s.Possible call) :
    ∃ t, step call s = some t := by
  cases call with
  | ensureAwdl o accepts =>
      obtain ⟨answer, t, ensures⟩ := ensureAWDLVirtualInterface_isSome possible accepts
      exact ⟨t, by rw [step, ensures, Option.map_some]⟩
  | create validVersion role o =>
      obtain ⟨answer, t, creates⟩ :=
        tracked.handleVirtualIfCreate_isSome possible validVersion role
      exact ⟨t, by rw [step, creates, Option.map_some]⟩
  | delete validVersion bsdName o =>
      obtain ⟨answer, t, deletes⟩ := tracked.handleVirtualIfDelete_isSome validVersion bsdName o
      exact ⟨t, by rw [step, deletes, Option.map_some]⟩
  | enable interface accepts =>
      obtain ⟨vif, there⟩ := possible
      rw [step, enableVirtualInterface, there]
      exact ⟨_, rfl⟩
  | disable interface accepts =>
      obtain ⟨vif, there⟩ := possible
      rw [step, disableVirtualInterface, there]
      exact ⟨_, rfl⟩
  | teardown => exact ⟨_, rfl⟩

theorem existing_setVirtualInterface (manager : AwdlManager) (interface : Nat)
    (known : role ≠ .other) :
    (manager.setVirtualInterface role interface).existing role = some interface := by
  cases role with
  | other => exact absurd rfl known
  | p2pDevice => rfl
  | p2pClient => rfl
  | p2pGo => rfl
  | awdl => rfl

/-- A frame of AWDL is given to an interface that is there and has that role, and no call asks an
interface that is gone. -/
structure Found (s : VifController) : Prop where
  receives : ∀ interface, s.receiver = some interface →
    ∃ vif, s.attached interface = some vif ∧ vif.role = .awdl
  answers : ∀ call, s.Possible call → ∃ t, machine.step call s = some t

theorem Tracked.found (tracked : Tracked s) : Found s where
  receives interface points := by
    obtain ⟨manager, present, points⟩ := Option.bind_eq_some_iff.mp points
    exact tracked.awdl manager present interface points
  answers _ possible := tracked.step_isSome possible

theorem attachVirtualInterface_of_abandons {o : AttachOutcome}
    (fresh : s.attached interface = none) (abandons : o.abandons = some interface) :
    s.attachVirtualInterface role o = some (none, s.setVirtualInterface role interface) := by
  cases o with
  | refuses => cases abandons
  | fails other bsdName enables disables =>
      obtain ⟨⟨enabled, disabled⟩, same⟩ := Option.ite_none_right_eq_some.mp abandons
      obtain rfl := Option.some.inj same
      rw [attachVirtualInterface_fails fresh, tried, if_pos enabled, if_neg disabled]
  | attaches => cases abandons

theorem step_of_abandons {call : VifCall} (abandoned : abandons call s = some interface) :
    ∃ manager role, s.manager = some manager ∧ role ≠ .other ∧ s.attached interface = none ∧
      step call s = some (s.setVirtualInterface role interface) := by
  unfold abandons at abandoned
  split at abandoned
  case h_1 o accepts =>
    obtain ⟨⟨manager, present, room⟩, known, fresh, gives⟩ := abandons_of_abandoned abandoned
    refine ⟨manager, .awdl, present, known, fresh, ?_⟩
    have absent : manager.awdlInterface = none := room
    rw [step, ensureAWDLVirtualInterface, present]
    simp [absent, attachVirtualInterface_of_abandons fresh gives]
  case h_2 role o =>
    obtain ⟨⟨manager, present, room⟩, known, fresh, gives⟩ := abandons_of_abandoned abandoned
    refine ⟨manager, role, present, known, fresh, ?_⟩
    rw [step, handleVirtualIfCreate, present]
    simp [known, room, attachVirtualInterface_of_abandons fresh gives]
  case h_3 => cases abandoned

/-- Where the pointer is to an interface that is gone, the next frame or the next call finds it. -/
theorem not_found_setVirtualInterface (present : s.manager = some manager) (known : role ≠ .other)
    (gone : s.attached interface = none) : ¬ Found (s.setVirtualInterface role interface) := by
  intro found
  have points := existing_setVirtualInterface manager interface known
  have there : (s.setVirtualInterface role interface).manager =
      some (manager.setVirtualInterface role interface) := by
    rw [setVirtualInterface, present, Option.map_some]
  have stale : (s.setVirtualInterface role interface).attached interface = none := gone
  obtain ⟨t, steps⟩ := found.answers (.create true role .refuses) trivial
  obtain ⟨answer, creates, -⟩ := Option.map_eq_some_iff.mp steps
  rw [handleVirtualIfCreate, there] at creates
  simp [known, points, stale] at creates

/-- Along a run, AWDL frames and calls find interfaces that are there, exactly if IO80211 never
gives up an interface that it has enabled while it attaches it. -/
theorem virtualInterfaces_found_iff (calls : List VifCall) :
    machine.Along Found calls started ↔ machine.Keeps Withdrawing calls started := by
  refine Machine.along_iff_keeps (fun _ tracked => Tracked.found tracked) ?_ ?_ calls
    tracked_started
  · intro call before after tracked withdrawing steps
    exact tracked.change withdrawing (step_change steps)
  · intro call before _ abandons
    obtain ⟨interface, abandoned⟩ := Option.ne_none_iff_exists'.mp abandons
    obtain ⟨manager, role, present, known, gone, steps⟩ := step_of_abandons abandoned
    exact ⟨_, steps, not_found_setVirtualInterface present known gone⟩

/-! ## The interfaces that are not pointed at -/

/-- An interface of the other kind stays. -/
theorem existing_setVirtualInterface_of_ne {second : VifRole}
    (apart : manager.existing second ≠ manager.existing role) (interface : Nat) :
    (manager.setVirtualInterface role interface).existing second = manager.existing second := by
  cases role <;> cases second <;> first | rfl | exact absurd rfl apart

theorem setVirtualInterface_of_existing (known : role ≠ .other)
    (points : manager.existing role = some interface) :
    manager.setVirtualInterface role interface = manager := by
  obtain ⟨awdl, p2p⟩ := manager
  cases role with
  | other => exact absurd rfl known
  | p2pDevice => exact congrArg (AwdlManager.mk awdl) points.symm
  | p2pClient => exact congrArg (AwdlManager.mk awdl) points.symm
  | p2pGo => exact congrArg (AwdlManager.mk awdl) points.symm
  | awdl => exact congrArg (AwdlManager.mk · p2p) points.symm

theorem existing_clearVirtualInterface (manager : AwdlManager) (interface : Nat) :
    (manager.clearVirtualInterface interface).existing role =
      if manager.existing role = some interface then none else manager.existing role := by
  cases role <;> rfl

theorem Covers.attach (covers : Covers s) (present : s.manager = some manager)
    (room : manager.existing role = none) (known : role ≠ .other) (bsdName : Option Bytes) :
    Covers (s.attach role interface bsdName) := by
  intro later there other vif found
  obtain ⟨before, was, rfl⟩ := Option.map_eq_some_iff.mp there
  obtain rfl := Option.some.inj (was.symm.trans present)
  by_cases same : other = interface
  · subst same
    have new : (s.attach role other bsdName).attached other = some ⟨role, bsdName⟩ :=
      Function.update_self ..
    obtain rfl := Option.some.inj (new.symm.trans found)
    exact ⟨known, existing_setVirtualInterface before other known⟩
  · obtain ⟨managed, points⟩ :=
      covers before was other vif ((Function.update_of_ne same ..).symm.trans found)
    refine ⟨managed, ?_⟩
    rw [existing_setVirtualInterface_of_ne, points]
    rw [points, room]
    exact Option.some_ne_none other

theorem Covers.setVirtualInterface (covers : Covers s) {vif : VirtualInterface}
    (found : s.attached interface = some vif) :
    Covers (s.setVirtualInterface vif.role interface) := by
  intro later there
  obtain ⟨before, was, rfl⟩ := Option.map_eq_some_iff.mp there
  obtain ⟨managed, points⟩ := covers before was interface vif found
  rw [setVirtualInterface_of_existing managed points]
  exact covers before was

/-- A pointer that was null leads to no interface that is there. -/
theorem Covers.setVirtualInterface_of_room (covers : Covers s) (present : s.manager = some manager)
    (room : manager.existing role = none) (interface : Nat) :
    Covers (s.setVirtualInterface role interface) := by
  intro later there other vif found
  obtain ⟨before, was, rfl⟩ := Option.map_eq_some_iff.mp there
  obtain rfl := Option.some.inj (was.symm.trans present)
  obtain ⟨managed, points⟩ := covers before was other vif found
  refine ⟨managed, ?_⟩
  rw [existing_setVirtualInterface_of_ne, points]
  rw [points, room]
  exact Option.some_ne_none other

theorem Covers.clearVirtualInterface (covers : Covers s)
    (gone : s.manager.isSome → s.attached interface = none) :
    Covers (s.clearVirtualInterface interface) := by
  intro later there other vif found
  obtain ⟨before, was, rfl⟩ := Option.map_eq_some_iff.mp there
  obtain ⟨managed, points⟩ := covers before was other vif found
  have apart : other ≠ interface := by
    rintro rfl
    have absent := gone (Option.isSome_iff_exists.mpr ⟨before, was⟩)
    exact Option.some_ne_none vif (found.symm.trans absent)
  refine ⟨managed, ?_⟩
  rw [existing_clearVirtualInterface, points, if_neg (by simpa using apart)]

theorem Covers.detach (covers : Covers s) (interface : Nat) : Covers (s.detach interface) := by
  intro later there other vif found
  obtain ⟨before, was, rfl⟩ := Option.map_eq_some_iff.mp there
  have apart : other ≠ interface := by
    rintro rfl
    exact Option.some_ne_none vif (found.symm.trans (Function.update_self ..))
  obtain ⟨managed, points⟩ :=
    covers before was other vif ((Function.update_of_ne apart ..).symm.trans found)
  refine ⟨managed, ?_⟩
  rw [existing_clearVirtualInterface, points, if_neg (by simpa using apart)]

/-- While the AWDL manager is there, IO80211 disables an interface only to detach it. -/
def Detaching (call : VifCall) (s : VifController) : Prop :=
  s.manager.isSome → ∀ interface ∈ forgets call s, s.attached interface = none

theorem Covers.change {call : VifCall} (covers : Covers s) (detaching : Detaching call s)
    (change : Change s call t) : Covers t := by
  cases change with
  | stays => exact covers
  | attaches manager role interface bsdName present room known fresh =>
      exact covers.attach present room known bsdName
  | abandons manager role interface present room abandoned =>
      exact covers.setVirtualInterface_of_room present room interface
  | withdraws interface fresh => exact covers.clearVirtualInterface fun _ => fresh
  | enables interface vif found => exact covers.setVirtualInterface found
  | forgets interface forgotten =>
      exact covers.clearVirtualInterface fun there => detaching there interface forgotten
  | detaches interface => exact covers.detach interface
  | ends => exact nofun

theorem step_of_forgets {call : VifCall} (forgotten : forgets call s = some interface)
    {vif : VirtualInterface} (found : s.attached interface = some vif) :
    step call s = some (s.clearVirtualInterface interface) := by
  unfold forgets at forgotten
  split at forgotten
  case h_1 =>
    obtain rfl := Option.some.inj forgotten
    rw [step, disableVirtualInterface, found]
    rfl
  case h_2 =>
    have target := Option.join_eq_some_iff.mp forgotten
    simp only [step, handleVirtualIfDelete, target, detachVirtualInterface, callBack,
      disableVirtualInterface, found, Option.bind_eq_bind, Option.bind_some]
    rfl
  case h_3 => cases forgotten

theorem not_covers_clearVirtualInterface {vif : VirtualInterface}
    (present : s.manager = some manager) (found : s.attached interface = some vif) :
    ¬ Covers (s.clearVirtualInterface interface) := by
  intro covers
  have there : (s.clearVirtualInterface interface).manager =
      some (manager.clearVirtualInterface interface) := by
    rw [clearVirtualInterface, present, Option.map_some]
  obtain ⟨-, points⟩ := covers _ there interface vif found
  rw [existing_clearVirtualInterface] at points
  split at points
  case isTrue => cases points
  case isFalse apart => exact apart points

theorem covers_started : Covers started :=
  fun _ _ _ _ found => nomatch found

/-- Along a run, every interface that is attached is pointed at, exactly if IO80211 never disables
one without detaching it. -/
theorem attached_known_iff (calls : List VifCall) :
    machine.Along Covers calls started ↔ machine.Keeps Detaching calls started := by
  refine Machine.along_iff_keeps (fun _ covers => covers) ?_ ?_ calls covers_started
  · intro call before after covers detaching steps
    exact covers.change detaching (step_change steps)
  · intro call before covers forgets
    simp only [Detaching, not_forall] at forgets
    obtain ⟨there, interface, forgotten, present⟩ := forgets
    obtain ⟨manager, was⟩ := Option.isSome_iff_exists.mp there
    obtain ⟨vif, found⟩ := Option.ne_none_iff_exists'.mp present
    exact ⟨_, step_of_forgets forgotten found, not_covers_clearVirtualInterface was found⟩

/-- One pointer serves the roles of P2P, and one that of AWDL. -/
theorem existing_congr {second : VifRole} (known : role ≠ .other) (managed : second ≠ .other)
    (alike : role.isP2P = second.isP2P) (manager : AwdlManager) :
    manager.existing role = manager.existing second := by
  cases role <;> cases second <;> first | rfl | contradiction

/-- Where IO80211 disables an interface only to detach it, at most one interface with the role of
AWDL is attached, and at most one with a role of P2P. -/
theorem attached_once (reaches : machine.Reaches Detaching started s)
    (present : s.manager = some manager) {first second : Nat} {vif other : VirtualInterface}
    (found : s.attached first = some vif) (foundToo : s.attached second = some other)
    (alike : vif.role.isP2P = other.role.isP2P) : first = second := by
  have covers : Covers s := by
    apply reaches.keeps Covers _ covers_started
    intro call before after detaching steps covers
    exact covers.change detaching (step_change steps)
  obtain ⟨known, points⟩ := covers manager present first vif found
  obtain ⟨managed, pointsToo⟩ := covers manager present second other foundToo
  rw [existing_congr known managed alike manager, pointsToo] at points
  exact (Option.some.inj points).symm

end VifController

end AirportRtw88
