import Mathlib.Data.List.Count
import Mathlib.Logic.Function.Basic

/-!
# Custody

Resources are acquired and released, one event after the other.  A log of such events keeps the
discipline when nothing is acquired twice, nothing is released that is not held, and nothing is
released while one of its users is held.
-/

namespace Custody

variable {R : Type} [DecidableEq R]

/-- An entry of the log. -/
inductive Event (R : Type) where
  | acquire (resource : R)
  | release (resource : R)
  deriving DecidableEq

/-- What is held after an event that keeps the discipline. -/
def perform (users : R → List R) (held : R → Bool) : Event R → Option (R → Bool)
  | .acquire resource =>
      if held resource then none else some (Function.update held resource true)
  | .release resource =>
      if held resource && (users resource).all (fun user => !held user) then
        some (Function.update held resource false)
      else none

/-- What is held after the events of a log that keeps the discipline. -/
def run (users : R → List R) : List (Event R) → (R → Bool) → Option (R → Bool)
  | [], held => some held
  | event :: rest, held => (perform users held event).bind (run users rest)

/-- Nothing is held at first, and in the end only what `held` says. -/
def Leaves (users : R → List R) (log : List (Event R)) (held : R → Bool) : Prop :=
  run users log (fun _ => false) = some held

variable {users : R → List R} {log : List (Event R)} {held : R → Bool} {resource : R}

theorem run_append (first second : List (Event R)) (held : R → Bool) :
    run users (first ++ second) held = (run users first held).bind (run users second) := by
  induction first generalizing held with
  | nil => rfl
  | cons event rest ih =>
      rw [List.cons_append, run, run, Option.bind_assoc]
      congr 1
      ext between : 1
      exact ih between

theorem Leaves.nil : Leaves users [] (fun _ => false) := rfl

theorem Leaves.snoc (leaves : Leaves users log held) (event : Event R) :
    run users (log ++ [event]) (fun _ => false) = perform users held event := by
  rw [run_append, leaves, Option.bind_some, run]
  exact Option.bind_fun_some _

theorem Leaves.acquire (leaves : Leaves users log held) (free : held resource = false) :
    Leaves users (log ++ [.acquire resource]) (Function.update held resource true) := by
  rw [Leaves, leaves.snoc, perform, if_neg]
  simp [free]

theorem Leaves.release (leaves : Leaves users log held) (holds : held resource = true)
    (unused : ∀ user ∈ users resource, held user = false) :
    Leaves users (log ++ [.release resource]) (Function.update held resource false) := by
  rw [Leaves, leaves.snoc, perform, if_pos]
  simpa [holds] using unused

/-- A release while a user is held breaks the discipline for good. -/
theorem Leaves.not_release (leaves : Leaves users log held) {user : R}
    (uses : user ∈ users resource) (holds : held user = true) (later : List (Event R)) :
    run users (log ++ .release resource :: later) (fun _ => false) = none := by
  have refused : perform users held (.release resource) = none := by
    rw [perform, if_neg]
    simp only [Bool.and_eq_true, List.all_eq_true, Bool.not_eq_true', not_and]
    intro _ unused
    rw [unused user uses] at holds
    exact Bool.noConfusion holds
  rw [run_append, leaves, Option.bind_some, run, refused, Option.bind_none]

theorem perform_balance {event : Event R} {before after : R → Bool}
    (performs : perform users before event = some after) (resource : R) :
    [event].count (.acquire resource) + (before resource).toNat =
      [event].count (.release resource) + (after resource).toNat := by
  cases event with
  | acquire other =>
      obtain ⟨free, rfl⟩ : before other = false ∧ Function.update before other true = after := by
        simpa [perform] using performs
      by_cases same : other = resource
      · subst same
        simp [free]
      · simp [same, Function.update_of_ne (Ne.symm same)]
  | release other =>
      obtain ⟨⟨holds, -⟩, rfl⟩ :
          (before other = true ∧ ∀ user ∈ users other, before user = false) ∧
            Function.update before other false = after := by
        simpa [perform] using performs
      by_cases same : other = resource
      · subst same
        simp [holds]
      · simp [same, Function.update_of_ne (Ne.symm same)]

theorem run_balance {first last : R → Bool} (runs : run users log first = some last)
    (resource : R) :
    log.count (.acquire resource) + (first resource).toNat =
      log.count (.release resource) + (last resource).toNat := by
  induction log generalizing first with
  | nil =>
      cases runs
      simp
  | cons event rest ih =>
      obtain ⟨between, performs, runs⟩ := Option.bind_eq_some_iff.mp runs
      have one := perform_balance performs resource
      have later := ih runs
      rw [← List.singleton_append, List.count_append, List.count_append]
      omega

/-- What is not held in the end has been released as often as it was acquired. -/
theorem Leaves.released (leaves : Leaves users log held) (free : held resource = false) :
    log.count (.acquire resource) = log.count (.release resource) := by
  have balance := run_balance leaves resource
  rw [free] at balance
  exact balance

/-! ## Ledgers -/

/-- What an owner believes to hold, and the log of what it has acquired and released. -/
structure Ledger (R : Type) where
  held : R → Bool
  log : List (Event R)

/-- What a script does next: it acquires a resource if it can, two resources before it looks at
either, or nothing.  It ends where that fails. -/
inductive Item (R : Type) where
  | take (resource : R) (got : Bool)
  | both (first second : R) (gotFirst gotSecond : Bool)
  | check (passes : Bool)

namespace Item

def resources : Item R → List R
  | .take resource _ => [resource]
  | .both first second _ _ => [first, second]
  | .check _ => []

def succeeds : Item R → Bool
  | .take _ got => got
  | .both _ _ gotFirst gotSecond => gotFirst && gotSecond
  | .check passes => passes

end Item

namespace Ledger

/-- A pointer is assigned a new object, or null if there is none. -/
def assign (ledger : Ledger R) (resource : R) (got : Bool) : Ledger R where
  held := Function.update ledger.held resource got
  log := if got then ledger.log ++ [.acquire resource] else ledger.log

/-- An object is released whether or not it is held. -/
def give (ledger : Ledger R) (resource : R) : Ledger R where
  held := Function.update ledger.held resource false
  log := ledger.log ++ [.release resource]

/-- An object is released if it is held. -/
def drop (ledger : Ledger R) (resource : R) : Ledger R :=
  if ledger.held resource then ledger.give resource else ledger

/-- A pointer is set to null without any release. -/
def forget (ledger : Ledger R) (resource : R) : Ledger R :=
  { ledger with held := Function.update ledger.held resource false }

def dropAll (ledger : Ledger R) (resources : List R) : Ledger R :=
  resources.foldl drop ledger

def performItem (ledger : Ledger R) : Item R → Ledger R
  | .take resource got => ledger.assign resource got
  | .both first second gotFirst gotSecond =>
      (ledger.assign first gotFirst).assign second gotSecond
  | .check _ => ledger

/-- Whether a script has come to its end, and what it leaves. -/
def perform : List (Item R) → Ledger R → Bool × Ledger R
  | [], ledger => (true, ledger)
  | item :: rest, ledger =>
      if item.succeeds then perform rest (ledger.performItem item)
      else (false, ledger.performItem item)

/-- The log keeps the discipline, and what it leaves is what the owner believes to hold. -/
def Accounted (users : R → List R) (ledger : Ledger R) : Prop :=
  Leaves users ledger.log ledger.held

/-- Each resource of the list comes after its users, or its users have gone before. -/
def Ordered (users : R → List R) : List R → List R → Prop
  | _, [] => True
  | gone, resource :: rest =>
      (∀ user ∈ users resource, user ∈ gone) ∧ Ordered users (resource :: gone) rest

instance (users : R → List R) (gone : List R) :
    (resources : List R) → Decidable (Ordered users gone resources)
  | [] => isTrue trivial
  | resource :: rest =>
      have := instDecidableOrdered users (resource :: gone) rest
      inferInstanceAs (Decidable ((∀ user ∈ users resource, user ∈ gone) ∧ _))

variable {ledger : Ledger R} {other : R}

theorem held_assign (got : Bool) :
    (ledger.assign resource got).held = Function.update ledger.held resource got := rfl

theorem held_drop : (ledger.drop resource).held = Function.update ledger.held resource false := by
  rw [drop]
  split
  · rfl
  · rename_i free
    exact (Function.update_eq_self_iff.mpr (eq_false_of_ne_true free).symm).symm

theorem held_dropAll (resources : List R) (other : R) :
    (ledger.dropAll resources).held other = (ledger.held other && decide (other ∉ resources)) := by
  induction resources generalizing ledger with
  | nil => simp [dropAll]
  | cons resource rest ih =>
      have dropped := @ih (ledger.drop resource)
      rw [dropAll, List.foldl_cons]
      rw [dropAll] at dropped
      rw [dropped, held_drop]
      by_cases same : other = resource
      · subst same
        simp
      · simp [same]

theorem Accounted.assign (accounted : ledger.Accounted users) (got : Bool)
    (free : ledger.held resource = false) : (ledger.assign resource got).Accounted users := by
  cases got with
  | false =>
      have same : Function.update ledger.held resource false = ledger.held :=
        Function.update_eq_self_iff.mpr free.symm
      rw [Accounted, Ledger.assign, same]
      exact accounted
  | true => exact accounted.acquire free

theorem Accounted.give (accounted : ledger.Accounted users) (holds : ledger.held resource = true)
    (unused : ∀ user ∈ users resource, ledger.held user = false) :
    (ledger.give resource).Accounted users :=
  Leaves.release accounted holds unused

theorem Accounted.drop (accounted : ledger.Accounted users)
    (unused : ∀ user ∈ users resource, ledger.held user = false) :
    (ledger.drop resource).Accounted users := by
  rw [Ledger.drop]
  split
  · exact accounted.give ‹_› unused
  · exact accounted

theorem forget_of_free (free : ledger.held resource = false) : ledger.forget resource = ledger := by
  rw [forget, Function.update_eq_self_iff.mpr free.symm]

/-- Resources can be dropped in any order in which their users go first. -/
theorem Accounted.dropAll (accounted : ledger.Accounted users) {gone : List R}
    (absent : ∀ resource ∈ gone, ledger.held resource = false) {resources : List R}
    (ordered : Ordered users gone resources) : (ledger.dropAll resources).Accounted users := by
  induction resources generalizing ledger gone with
  | nil => exact accounted
  | cons resource rest ih =>
      obtain ⟨usersGone, ordered⟩ := ordered
      apply ih (accounted.drop fun user uses => absent user (usersGone user uses)) _ ordered
      intro other member
      rw [held_drop]
      by_cases same : other = resource
      · subst same
        exact Function.update_self _ _ _
      · rw [Function.update_of_ne same]
        exact absent other ((List.mem_cons.mp member).resolve_left same)

/-! ### Scripts -/

theorem held_performItem (item : Item R) (outside : other ∉ item.resources) :
    (ledger.performItem item).held other = ledger.held other := by
  cases item with
  | take resource got =>
      exact Function.update_of_ne (List.ne_of_not_mem_cons outside) _ _
  | both first second gotFirst gotSecond =>
      simp only [Item.resources, List.mem_cons, List.not_mem_nil, or_false, not_or] at outside
      rw [performItem, held_assign, Function.update_of_ne outside.2, held_assign,
        Function.update_of_ne outside.1]
  | check passes => rfl

theorem held_performItem_of_succeeds (item : Item R) (succeeds : item.succeeds = true)
    (inside : other ∈ item.resources) : (ledger.performItem item).held other = true := by
  cases item with
  | take resource got =>
      rw [List.mem_singleton.mp inside]
      exact (Function.update_self _ _ _).trans succeeds
  | both first second gotFirst gotSecond =>
      obtain ⟨rfl, rfl⟩ := (Bool.and_eq_true _ _).mp succeeds
      simp only [Item.resources, List.mem_cons, List.not_mem_nil, or_false] at inside
      simp only [performItem, held_assign, Function.update_apply]
      rcases inside with rfl | rfl <;> simp
  | check passes => exact absurd inside List.not_mem_nil

theorem Accounted.performItem (accounted : ledger.Accounted users) (item : Item R)
    (free : ∀ resource ∈ item.resources, ledger.held resource = false)
    (distinct : item.resources.Nodup) : (ledger.performItem item).Accounted users := by
  cases item with
  | take resource got => exact accounted.assign got (free resource (List.mem_singleton_self _))
  | both first second gotFirst gotSecond =>
      have ne : second ≠ first := by
        rintro rfl
        simp [Item.resources] at distinct
      apply (accounted.assign gotFirst (free first (by simp [Item.resources]))).assign
      rw [held_assign, Function.update_of_ne ne]
      exact free second (by simp [Item.resources])
  | check passes => exact accounted

/-- A script that acquires what is free keeps the books. -/
theorem Accounted.perform (accounted : ledger.Accounted users) (items : List (Item R))
    (free : ∀ resource ∈ items.flatMap Item.resources, ledger.held resource = false)
    (distinct : (items.flatMap Item.resources).Nodup) :
    (Ledger.perform items ledger).2.Accounted users := by
  induction items generalizing ledger with
  | nil => exact accounted
  | cons item rest ih =>
      rw [List.flatMap_cons, List.nodup_append] at distinct
      obtain ⟨first, later, apart⟩ := distinct
      have begins := accounted.performItem item (fun resource member =>
        free resource (List.mem_flatMap_of_mem (.head rest) member)) first
      rw [Ledger.perform]
      split
      · apply ih begins _ later
        intro resource member
        rw [held_performItem item fun inside => apart resource inside resource member rfl]
        exact free resource (by rw [List.flatMap_cons]; exact List.mem_append_right _ member)
      · exact begins

theorem held_perform (items : List (Item R)) (outside : other ∉ items.flatMap Item.resources) :
    (perform items ledger).2.held other = ledger.held other := by
  induction items generalizing ledger with
  | nil => rfl
  | cons item rest ih =>
      rw [List.flatMap_cons, List.mem_append, not_or] at outside
      rw [perform]
      split
      · rw [ih outside.2, held_performItem item outside.1]
      · exact held_performItem item outside.1

/-- A script that comes to its end holds everything that it wanted. -/
theorem held_perform_of_succeeds (items : List (Item R))
    (succeeds : (perform items ledger).1 = true) (inside : other ∈ items.flatMap Item.resources) :
    (perform items ledger).2.held other = true := by
  induction items generalizing ledger with
  | nil => exact absurd inside List.not_mem_nil
  | cons item rest ih =>
      rw [perform] at succeeds ⊢
      by_cases takes : item.succeeds = true
      · rw [if_pos takes] at succeeds ⊢
        by_cases later : other ∈ rest.flatMap Item.resources
        · exact ih succeeds later
        · rw [List.flatMap_cons, List.mem_append] at inside
          rw [held_perform rest later]
          exact held_performItem_of_succeeds item takes (inside.resolve_right later)
      · rw [if_neg takes] at succeeds
        exact absurd succeeds Bool.false_ne_true

/-! ### What the log keeps -/

theorem log_assign (ledger : Ledger R) (resource : R) (got : Bool) :
    ledger.log <+: (ledger.assign resource got).log := by
  cases got with
  | false => exact List.prefix_rfl
  | true => exact List.prefix_append _ _

theorem log_drop (ledger : Ledger R) (resource : R) :
    ledger.log <+: (ledger.drop resource).log := by
  rw [drop]
  split
  · exact List.prefix_append _ _
  · exact List.prefix_rfl

theorem log_performItem (ledger : Ledger R) (item : Item R) :
    ledger.log <+: (ledger.performItem item).log := by
  cases item with
  | take resource got => exact log_assign ledger resource got
  | both first second gotFirst gotSecond =>
      exact (log_assign ledger first gotFirst).trans (log_assign _ second gotSecond)
  | check passes => exact List.prefix_rfl

theorem log_perform (ledger : Ledger R) (items : List (Item R)) :
    ledger.log <+: (perform items ledger).2.log := by
  induction items generalizing ledger with
  | nil => exact List.prefix_rfl
  | cons item rest ih =>
      rw [perform]
      split
      · exact (log_performItem ledger item).trans (ih _)
      · exact log_performItem ledger item

/-- What is acquired again while it is held breaks the discipline for good. -/
theorem Accounted.not_of_acquire (accounted : ledger.Accounted users)
    (holds : ledger.held resource = true) {later : Ledger R}
    (grows : (ledger.assign resource true).log <+: later.log) : ¬ later.Accounted users := by
  obtain ⟨more, same⟩ := grows
  intro kept
  have refused : Custody.perform users ledger.held (.acquire resource) = none := by
    rw [Custody.perform, if_pos holds]
  have broken : run users later.log (fun _ => false) = none := by
    rw [← same]
    change run users (ledger.log ++ [.acquire resource] ++ more) _ = none
    rw [run_append, accounted.snoc, refused, Option.bind_none]
  exact Option.some_ne_none _ (kept.symm.trans broken)

/-- What is released while it is not held breaks the discipline. -/
theorem Accounted.not_of_give (accounted : ledger.Accounted users)
    (free : ledger.held resource = false) : ¬ (ledger.give resource).Accounted users := by
  intro kept
  have refused : Custody.perform users ledger.held (.release resource) = none := by
    rw [Custody.perform, free, Bool.false_and, if_neg Bool.false_ne_true]
  have broken : run users (ledger.give resource).log (fun _ => false) = none :=
    (Leaves.snoc accounted _).trans refused
  exact Option.some_ne_none _ (kept.symm.trans broken)

/-- What is forgotten while it is held is not accounted for. -/
theorem Accounted.not_of_forget (accounted : ledger.Accounted users)
    (holds : ledger.held resource = true) {held : R → Bool} (forgets : held resource = false) :
    ¬ ({ ledger with held := held } : Ledger R).Accounted users := by
  intro kept
  have same : ledger.held = held := Option.some.inj (accounted.symm.trans kept)
  rw [same, forgets] at holds
  exact Bool.noConfusion holds

end Ledger

end Custody
