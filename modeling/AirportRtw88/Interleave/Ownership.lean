import AirportRtw88.Interleave.Frame
import AirportRtw88.Interleave.History
import Mathlib.Algebra.BigOperators.Group.List.Basic
import Mathlib.Tactic.Abel

/-!
# Ownership

A program owns resources while it has them in hand.  What the shared state says of resources is a
ledger: which ones were issued and which ones are settled, that is, released or put in their place.
A write takes into hand what it issues, and takes out of the hand what it settles.  The file gives
the rules for programs that settle what they own, and the balance of a pool of such threads: what
was given to the operations is settled, or is in the hand of one thread that will settle it.
-/

namespace Interleave

variable {σ κ ρ ω α β R : Type}

structure Ledger (σ R : Type) where
  issued : σ → R
  settled : σ → R

/-- The entries of the ledger. -/
def Ledger.view (ledger : Ledger σ R) (state : σ) : R × R :=
  (ledger.issued state, ledger.settled state)

/-- The hand changes by what a write issues and settles. -/
def Ledger.Moves [Add R] (ledger : Ledger σ R) (now state : σ) (hand rest : R) : Prop :=
  ledger.settled state + rest + ledger.issued now =
    ledger.settled now + hand + ledger.issued state

section Moves

variable [AddCancelCommMonoid R] {ledger : Ledger σ R} {first second third : σ}
  {hand rest last : R}

theorem Ledger.Moves.refl (ledger : Ledger σ R) (state : σ) (hand : R) :
    ledger.Moves state state hand hand :=
  rfl

theorem Ledger.Moves.trans (early : ledger.Moves first second hand rest)
    (late : ledger.Moves second third rest last) : ledger.Moves first third hand last := by
  unfold Ledger.Moves at *
  refine add_right_cancel (b := ledger.issued second + (ledger.settled second + rest)) ?_
  calc ledger.settled third + last + ledger.issued first +
        (ledger.issued second + (ledger.settled second + rest))
      = (ledger.settled third + last + ledger.issued second) +
          (ledger.settled second + rest + ledger.issued first) := by abel
    _ = (ledger.settled second + rest + ledger.issued third) +
          (ledger.settled first + hand + ledger.issued second) := by rw [late, early]
    _ = ledger.settled first + hand + ledger.issued third +
          (ledger.issued second + (ledger.settled second + rest)) := by abel

end Moves

namespace Prog

variable [Add R] {ledger : Ledger σ R}

/-- A program that starts with `hand` ends with what `post` says, whatever other threads do to the
state at its requests. -/
def Settles (ledger : Ledger σ R) :
    Prog σ κ ρ α → σ → R → (α → σ → R → Prop) → Prop
  | .ret value, now, hand, post => post value now hand
  | .read next, now, hand, post => (next now).Settles ledger now hand post
  | .write state next, now, hand, post =>
      ∃ rest, ledger.Moves now state hand rest ∧ next.Settles ledger state rest post
  | .ask next, now, hand, post => ∀ answer, (next answer).Settles ledger now hand post
  | .call _ next, _, hand, post =>
      ∀ answer later, (next answer).Settles ledger later hand post

section Settles

@[simp]
theorem settles_ret (value : α) (now : σ) (hand : R) (post : α → σ → R → Prop) :
    (Prog.ret value : Prog σ κ ρ α).Settles ledger now hand post ↔ post value now hand :=
  Iff.rfl

@[simp]
theorem settles_bind (program : Prog σ κ ρ α) (rest : α → Prog σ κ ρ β) (now : σ) (hand : R)
    (post : β → σ → R → Prop) :
    (program.bind rest).Settles ledger now hand post ↔
      program.Settles ledger now hand fun value later left =>
        (rest value).Settles ledger later left post := by
  induction program generalizing now hand with
  | ret value => rfl
  | read next ih => exact ih now now hand
  | write written next ih => exact exists_congr fun left => and_congr_right fun _ => ih written left
  | ask next ih => exact forall_congr' fun answer => ih answer now hand
  | call request next ih =>
      exact forall_congr' fun answer => forall_congr' fun later => ih answer later hand

@[simp]
theorem settles_fetch (now : σ) (hand : R) (post : σ → σ → R → Prop) :
    (fetch : Prog σ κ ρ σ).Settles ledger now hand post ↔ post now now hand :=
  Iff.rfl

@[simp]
theorem settles_update (change : σ → σ) (now : σ) (hand : R) (post : Unit → σ → R → Prop) :
    (update change : Prog σ κ ρ Unit).Settles ledger now hand post ↔
      ∃ rest, ledger.Moves now (change now) hand rest ∧ post () (change now) rest :=
  Iff.rfl

@[simp]
theorem settles_choose (now : σ) (hand : R) (post : ρ → σ → R → Prop) :
    (choose : Prog σ κ ρ ρ).Settles ledger now hand post ↔ ∀ answer, post answer now hand :=
  Iff.rfl

@[simp]
theorem settles_await (request : κ) (now : σ) (hand : R) (post : ρ → σ → R → Prop) :
    (await request : Prog σ κ ρ ρ).Settles ledger now hand post ↔
      ∀ answer later, post answer later hand :=
  Iff.rfl

@[simp]
theorem settles_ite (condition : Prop) [Decidable condition] (yes no : Prog σ κ ρ α) (now : σ)
    (hand : R) (post : α → σ → R → Prop) :
    (if condition then yes else no).Settles ledger now hand post ↔
      (condition → yes.Settles ledger now hand post) ∧
        (¬ condition → no.Settles ledger now hand post) := by
  by_cases holds : condition <;> simp [holds]

@[simp]
theorem settles_when (condition : Bool) (body : Prog σ κ ρ Unit) (now : σ) (hand : R)
    (post : Unit → σ → R → Prop) :
    (when condition body).Settles ledger now hand post ↔
      (condition = true → body.Settles ledger now hand post) ∧
        (condition = false → post () now hand) := by
  cases condition <;> simp [when]

@[simp]
theorem settles_whenSome (value : Option α) (body : α → Prog σ κ ρ Unit) (now : σ) (hand : R)
    (post : Unit → σ → R → Prop) :
    (whenSome value body).Settles ledger now hand post ↔
      (∀ content, value = some content → (body content).Settles ledger now hand post) ∧
        (value = none → post () now hand) := by
  cases value <;> simp [whenSome]

/-- The rule of consequence. -/
theorem Settles.mono {program : Prog σ κ ρ α} {now : σ} {hand : R}
    {post post' : α → σ → R → Prop} (holds : program.Settles ledger now hand post)
    (weaker : ∀ value later left, post value later left → post' value later left) :
    program.Settles ledger now hand post' := by
  induction program generalizing now hand with
  | ret value => exact weaker value now hand holds
  | read next ih => exact ih now holds
  | write written next ih =>
      obtain ⟨rest, moves, holds⟩ := holds
      exact ⟨rest, moves, ih holds⟩
  | ask next ih => exact fun answer => ih answer (holds answer)
  | call request next ih => exact fun answer later => ih answer (holds answer later)

/-- A program that frames the ledger keeps its hand. -/
theorem Keeps.settles {program : Prog σ κ ρ α}
    (frames : program.Frames ledger.view) {now : σ} {hand : R} {post : α → σ → R → Prop}
    (ends : ∀ value later, post value later hand) :
    program.Settles ledger now hand post := by
  have kept := frames.guarantees now
  clear frames
  induction program generalizing now with
  | ret value => exact ends value now
  | read next ih => exact ih now kept
  | write written next ih =>
      obtain ⟨issued, settled⟩ := Prod.mk.inj kept.1
      refine ⟨hand, ?_, ih kept.2⟩
      unfold Ledger.Moves
      rw [issued, settled]
  | ask next ih => exact fun answer => ih answer (kept answer)
  | call request next ih => exact fun answer later => ih answer (kept.2 answer later trivial)

end Settles

end Prog

variable [AddCancelCommMonoid R] {ledger : Ledger σ R}

namespace Prog

/-- The program settles this part of what it has in hand, and keeps the rest. -/
def Spends (ledger : Ledger σ R) (program : Prog σ κ ρ α) (part : R) : Prop :=
  ∀ now hand, program.Settles ledger now (part + hand) fun _ _ left => left = hand

section Spends

variable {first program : Prog σ κ ρ α} {rest : α → Prog σ κ ρ β} {part part' : R}

theorem Spends.settles (spends : program.Spends ledger part) (now : σ) :
    program.Settles ledger now part fun _ _ left => left = 0 :=
  add_zero part ▸ spends now 0

theorem Keeps.spends (frames : program.Frames ledger.view) : program.Spends ledger 0 :=
  fun _ hand => frames.settles fun _ _ => zero_add hand

theorem Spends.bind (spends : first.Spends ledger part)
    (second : ∀ value, (rest value).Spends ledger part') :
    (first.bind rest).Spends ledger (part + part') := by
  intro now hand
  rw [settles_bind, add_assoc]
  refine (spends now (part' + hand)).mono fun value later left same => ?_
  rw [same]
  exact second value later hand

/-- The first part of the program settles nothing. -/
theorem Spends.after (frames : first.Frames ledger.view)
    (second : ∀ value, (rest value).Spends ledger part) : (first.bind rest).Spends ledger part :=
  zero_add part ▸ frames.spends.bind second

/-- The last part of the program settles nothing. -/
theorem Spends.before (spends : first.Spends ledger part)
    (frames : ∀ value, (rest value).Frames ledger.view) : (first.bind rest).Spends ledger part :=
  add_zero part ▸ spends.bind fun value => (frames value).spends

/-- The first part of the program takes something into hand. -/
theorem Spends.acquire {gain : α → R}
    (acquires : ∀ now hand, first.Settles ledger now hand fun value _ left =>
      left = gain value + hand)
    (second : ∀ value, (rest value).Spends ledger (gain value + part)) :
    (first.bind rest).Spends ledger part := by
  intro now hand
  rw [settles_bind]
  refine (acquires now (part + hand)).mono fun value later left same => ?_
  rw [same, ← add_assoc]
  exact second value later hand

theorem Spends.update {change : σ → σ}
    (moves : ∀ state hand, ledger.Moves state (change state) (part + hand) hand) :
    (Prog.update change : Prog σ κ ρ Unit).Spends ledger part :=
  fun now hand => ⟨hand, moves now hand, rfl⟩

theorem Spends.ite {condition : Prop} [Decidable condition] {yes no : Prog σ κ ρ α}
    (first : yes.Spends ledger part) (second : no.Spends ledger part) :
    (if condition then yes else no).Spends ledger part := by
  split
  · exact first
  · exact second

/-- A loop settles the parts of its rounds. -/
theorem Spends.forEach {elements : List α} {body : α → Prog σ κ ρ Unit} {part : α → R}
    (each : ∀ element, (body element).Spends ledger (part element)) :
    (Prog.forEach elements body).Spends ledger (elements.map part).sum := by
  induction elements with
  | nil => exact Keeps.spends (.ret ())
  | cons element rest ih =>
      rw [List.map_cons, List.sum_cons]
      exact (each element).bind fun _ => ih

end Spends

/-- What remains of the program settles what it has in hand. -/
def Outcome.Settles (ledger : Ledger σ R) : Outcome σ κ ρ α → R → Prop
  | .finished _, hand => hand = 0
  | .suspended _ next, hand =>
      ∀ answer later, (next answer).Settles ledger later hand fun _ _ left => left = 0

theorem Settles.block [Inhabited ρ] {program : Prog σ κ ρ α} {now : σ} {hand : R}
    (settles : program.Settles ledger now hand fun _ _ left => left = 0) (answers : List ρ) :
    ∃ rest, ledger.Moves now (program.block now answers).1 hand rest ∧
      (program.block now answers).2.Settles ledger rest := by
  induction program generalizing now hand answers with
  | ret value => exact ⟨hand, .refl ledger now hand, settles⟩
  | read next ih => exact ih now settles answers
  | write written next ih =>
      obtain ⟨middle, early, settles⟩ := settles
      obtain ⟨rest, late, remains⟩ := ih settles answers
      exact ⟨rest, early.trans late, remains⟩
  | ask next ih => exact ih _ (settles _) answers.tail
  | call request next ih => exact ⟨hand, .refl ledger now hand, settles⟩

end Prog

/-- The threads have this much in hand together, and each will settle its part. -/
def InHand (ledger : Ledger σ R) : List (Thread σ κ ρ ω α) → R → Prop
  | [], total => total = 0
  | thread :: others, total => ∃ hand rest, total = hand + rest ∧
      (∀ answer later, (thread.next answer).Settles ledger later hand fun _ _ left => left = 0) ∧
      InHand ledger others rest

theorem inHand_append {early late : List (Thread σ κ ρ ω α)} {total : R} :
    InHand ledger (early ++ late) total ↔
      ∃ first second, total = first + second ∧ InHand ledger early first ∧
        InHand ledger late second := by
  induction early generalizing total with
  | nil => simp [InHand]
  | cons thread others ih =>
      simp only [List.cons_append, InHand, ih]
      constructor
      · rintro ⟨hand, _, rfl, settles, first, second, rfl, ours, theirs⟩
        exact ⟨hand + first, second, (add_assoc _ _ _).symm, ⟨hand, first, rfl, settles, ours⟩,
          theirs⟩
      · rintro ⟨_, second, rfl, ⟨hand, first, rfl, settles, ours⟩, theirs⟩
        exact ⟨hand, first + second, add_assoc _ _ _, settles, first, second, rfl, ours, theirs⟩

theorem inHand_threads {outcome : Prog.Outcome σ κ ρ α} {op : ω} {hand : R}
    (settles : outcome.Settles ledger hand) : InHand ledger (outcome.threads op) hand := by
  cases outcome with
  | finished value => exact settles
  | suspended request next => exact ⟨hand, 0, (add_zero hand).symm, settles, rfl⟩

/-- What was issued and given is settled, or in the hand of one thread. -/
def Config.Balanced (ledger : Ledger σ R) (config : Config σ κ ρ ω α) (given : R) : Prop :=
  ∃ total, InHand ledger config.threads total ∧
    ledger.settled config.state + total = ledger.issued config.state + given

theorem Ledger.Moves.balance {state after : σ} {hand rest others total : R}
    (moves : ledger.Moves state after hand rest)
    (balanced : ledger.settled state + (hand + others) = ledger.issued state + total) :
    ledger.settled after + (rest + others) = ledger.issued after + total := by
  unfold Ledger.Moves at moves
  refine add_right_cancel (b := ledger.issued state) ?_
  calc ledger.settled after + (rest + others) + ledger.issued state
      = ledger.settled after + rest + ledger.issued state + others := by abel
    _ = ledger.settled state + (hand + others) + ledger.issued after := by rw [moves]; abel
    _ = ledger.issued after + total + ledger.issued state := by rw [balanced]; abel

namespace System

variable {system : System σ κ ρ ω α} [Inhabited ρ]

/-- Every operation settles what it is given. -/
def Settles (system : System σ κ ρ ω α) (ledger : Ledger σ R) (brings : ω → R) : Prop :=
  ∀ op state, (system.program op).Settles ledger state (brings op) fun _ _ left => left = 0

/-- What the operations were given so far. -/
def given (brings : ω → R) (next : Turn ρ ω) (_ : σ) (total : R) : R :=
  match next with
  | .start op _ => total + brings op
  | .resume _ _ _ => total

variable [∀ op s, Decidable (system.enabled op s)] [∀ request s, Decidable (system.ready request s)]
  {brings : ω → R} {config config' : Config σ κ ρ ω α} {move : Move κ ρ ω α}

theorem balanced_of_turn (settles : system.Settles ledger brings) {total : R}
    (balanced : config.Balanced ledger total) {next : Turn ρ ω}
    (taken : system.turn config next = some (move, config')) :
    config'.Balanced ledger (given brings next config.state total) := by
  obtain ⟨inHand, holds, equal⟩ := balanced
  cases next with
  | start op answers =>
      simp only [turn] at taken
      split at taken
      · cases taken
        obtain ⟨rest, moves, remains⟩ := (settles op config.state).block answers
        refine ⟨inHand + rest, inHand_append.mpr
          ⟨inHand, rest, rfl, holds, inHand_threads remains⟩, ?_⟩
        rw [add_comm inHand]
        refine moves.balance ?_
        rw [add_comm (brings op), ← add_assoc, equal, add_assoc, given]
      · cases taken
  | resume position answer answers =>
      simp only [turn] at taken
      split at taken
      · split at taken
        · rename_i inside _
          cases taken
          rw [← List.take_append_drop position config.threads, List.drop_eq_getElem_cons inside,
            inHand_append] at holds
          obtain ⟨first, _, rfl, early, hand, last, rfl, resumed, late⟩ := holds
          obtain ⟨rest, moves, remains⟩ := (resumed answer config.state).block answers
          refine ⟨first + rest + last, inHand_append.mpr ⟨first + rest, last, rfl, inHand_append.mpr
            ⟨first, rest, rfl, early, inHand_threads remains⟩, late⟩, ?_⟩
          rw [add_left_comm first] at equal
          rw [add_assoc first, add_left_comm first]
          exact moves.balance equal
        · cases taken
      · cases taken

/-- In every run, what was given or issued is settled, or in the hand of one thread. -/
theorem balanced_of_recorded (settles : system.Settles ledger brings) {s : σ}
    (fresh : ledger.settled s = ledger.issued s) {config : Config σ κ ρ ω α} {total : R}
    (run : system.Recorded (given brings) (fun _ _ _ => True) (⟨s, []⟩, 0) (config, total)) :
    config.Balanced ledger total := by
  have balanced : Config.Balanced ledger (⟨s, []⟩ : Config σ κ ρ ω α) 0 :=
    ⟨0, rfl, congrArg (· + 0) fresh⟩
  exact run.invariant (fun now => now.1.Balanced ledger now.2) balanced
    fun _ _ _ _ balanced _ taken => balanced_of_turn settles balanced taken

end System

end Interleave
