import AirportRtw88.Interleave.Pool

/-!
# Disciplines

A discipline is what all functions of a program have in common: an invariant of the
shared state, a relation that every write keeps, and a class of requests.  A function
upholds it if its parts do, so it is checked once for every function, and it holds of
every step of a system whose operations uphold it.
-/

namespace Interleave

variable {σ κ ρ ω α β : Type}

/-- A discipline for programs whose requests are answered in `ready` states.  What a write
may do depends on the answer that its block resumed from. -/
structure Discipline (σ κ ρ : Type) where
  ready : κ → σ → Prop
  stable : σ → Prop
  keeps : Option (κ × ρ) → σ → σ → Prop
  calls : κ → σ → Prop
  refl : ∀ resumed state, keeps resumed state state
  trans : ∀ resumed first second third, keeps resumed first second →
    keeps resumed second third → keeps resumed first third
  respected : ∀ request later, ready request later → stable later
  preserved : ∀ resumed before after, stable before → keeps resumed before after → stable after

namespace Prog

/-- In a block that resumed from an answer, the program follows the discipline until it ends. -/
structure UpholdsFrom (rule : Discipline σ κ ρ) (resumed : Option (κ × ρ))
    (program : Prog σ κ ρ α) : Prop where
  conforms : ∀ start now, rule.stable now → rule.keeps resumed start now →
    program.Conforms rule.ready
      (fun resumed start request now => rule.keeps resumed start now ∧ rule.calls request now)
      resumed start now
      fun resumed start _ now => rule.stable now ∧ rule.keeps resumed start now

/-- The program follows the discipline until it ends, whatever its first block resumed from. -/
structure Upholds (rule : Discipline σ κ ρ) (program : Prog σ κ ρ α) : Prop where
  upholdsFrom : ∀ resumed, program.UpholdsFrom rule resumed

section UpholdsFrom

variable {rule : Discipline σ κ ρ} {resumed : Option (κ × ρ)}

theorem UpholdsFrom.ret (value : α) : (Prog.ret value : Prog σ κ ρ α).UpholdsFrom rule resumed :=
  ⟨fun _ _ stable kept => ⟨stable, kept⟩⟩

theorem UpholdsFrom.bind {program : Prog σ κ ρ α} {rest : α → Prog σ κ ρ β}
    (first : program.UpholdsFrom rule resumed) (second : ∀ value, (rest value).Upholds rule) :
    (program.bind rest).UpholdsFrom rule resumed := by
  refine ⟨fun start now stable kept => ?_⟩
  rw [conforms_bind]
  refine (first.conforms start now stable kept).mono (fun _ _ _ _ => id) ?_
  exact fun resumed start value now held =>
    ((second value).upholdsFrom resumed).conforms start now held.1 held.2

/-- A write that its block permits. -/
theorem UpholdsFrom.update {change : σ → σ}
    (keeps : ∀ state, rule.stable state → rule.keeps resumed state (change state)) :
    (Prog.update change : Prog σ κ ρ Unit).UpholdsFrom rule resumed := by
  refine ⟨fun start now stable kept => ?_⟩
  have written := keeps now stable
  exact ⟨rule.preserved _ _ _ stable written, rule.trans _ _ _ _ kept written⟩

theorem UpholdsFrom.ite {condition : Prop} [Decidable condition] {yes no : Prog σ κ ρ α}
    (first : condition → yes.UpholdsFrom rule resumed)
    (second : ¬ condition → no.UpholdsFrom rule resumed) :
    (if condition then yes else no).UpholdsFrom rule resumed := by
  split
  · exact first ‹_›
  · exact second ‹_›

end UpholdsFrom

namespace Upholds

variable {rule : Discipline σ κ ρ}

theorem ret (value : α) : (Prog.ret value : Prog σ κ ρ α).Upholds rule :=
  ⟨fun _ => .ret value⟩

theorem bind {program : Prog σ κ ρ α} {rest : α → Prog σ κ ρ β}
    (first : program.Upholds rule) (second : ∀ value, (rest value).Upholds rule) :
    (program.bind rest).Upholds rule :=
  ⟨fun resumed => (first.upholdsFrom resumed).bind second⟩

theorem fetch : (Prog.fetch : Prog σ κ ρ σ).Upholds rule :=
  ⟨fun _ => ⟨fun _ _ stable kept => ⟨stable, kept⟩⟩⟩

/-- What was fetched in a stable state is a stable state. -/
theorem fetched {rest : σ → Prog σ κ ρ α}
    (runs : ∀ state, rule.stable state → (rest state).Upholds rule) :
    (Prog.fetch.bind rest).Upholds rule :=
  ⟨fun resumed => ⟨fun start now stable =>
    ((runs now stable).upholdsFrom resumed).conforms start now stable⟩⟩

theorem choose : (Prog.choose : Prog σ κ ρ ρ).Upholds rule :=
  ⟨fun _ => ⟨fun _ _ stable kept _ => ⟨stable, kept⟩⟩⟩

theorem update {change : σ → σ}
    (keeps : ∀ resumed state, rule.stable state → rule.keeps resumed state (change state)) :
    (Prog.update change : Prog σ κ ρ Unit).Upholds rule :=
  ⟨fun resumed => .update (keeps resumed)⟩

/-- What follows a request may depend on its answer. -/
theorem awaiting {request : κ} {rest : ρ → Prog σ κ ρ α}
    (calls : ∀ state, rule.stable state → rule.calls request state)
    (runs : ∀ answer, (rest answer).UpholdsFrom rule (some (request, answer))) :
    ((Prog.await request).bind rest).Upholds rule := by
  refine ⟨fun resumed => ⟨fun start now stable kept => ?_⟩⟩
  rw [conforms_bind, conforms_await]
  refine ⟨⟨kept, calls now stable⟩, fun answer later isReady => ?_⟩
  exact (runs answer).conforms later later (rule.respected _ _ isReady) (rule.refl _ _)

theorem await {request : κ} (calls : ∀ state, rule.stable state → rule.calls request state) :
    (Prog.await request : Prog σ κ ρ ρ).Upholds rule := by
  refine ⟨fun resumed => ⟨fun start now stable kept => ⟨⟨kept, calls now stable⟩, ?_⟩⟩⟩
  exact fun answer later isReady => ⟨rule.respected _ _ isReady, rule.refl _ _⟩

theorem ite {condition : Prop} [Decidable condition] {yes no : Prog σ κ ρ α}
    (first : yes.Upholds rule) (second : no.Upholds rule) :
    (if condition then yes else no).Upholds rule := by
  split
  · exact first
  · exact second

theorem when {condition : Bool} {body : Prog σ κ ρ Unit} (runs : body.Upholds rule) :
    (Prog.when condition body).Upholds rule :=
  ite runs (ret ())

theorem whenSome {value : Option α} {body : α → Prog σ κ ρ Unit}
    (runs : ∀ content, (body content).Upholds rule) :
    (Prog.whenSome value body).Upholds rule := by
  cases value with
  | none => exact ret ()
  | some content => exact runs content

theorem forEach {elements : List α} {body : α → Prog σ κ ρ Unit}
    (runs : ∀ element, (body element).Upholds rule) :
    (Prog.forEach elements body).Upholds rule := by
  induction elements with
  | nil => exact ret ()
  | cons element rest ih => exact bind (runs element) fun _ => ih

/-- A program that follows a stricter discipline. -/
theorem mono {rule' : Discipline σ κ ρ} {program : Prog σ κ ρ α}
    (upholds : program.Upholds rule) (sameReady : rule'.ready = rule.ready)
    (sameStable : rule'.stable = rule.stable)
    (weakerKeeps : ∀ resumed before after, rule.keeps resumed before after →
      rule'.keeps resumed before after)
    (weakerCalls : ∀ request state, rule.calls request state → rule'.calls request state) :
    program.Upholds rule' := by
  refine ⟨fun resumed => ⟨fun start now stable kept => ?_⟩⟩
  rw [sameStable] at stable
  have strict := (upholds.upholdsFrom resumed).conforms now now stable (rule.refl _ _)
  rw [← sameReady] at strict
  simp only [sameStable]
  refine strict.rebase ?_ ?_ ?_ ?_
  · exact fun request now held =>
      ⟨rule'.trans _ _ _ _ kept (weakerKeeps _ _ _ held.1), weakerCalls _ _ held.2⟩
  · exact fun _ now held => ⟨held.1, rule'.trans _ _ _ _ kept (weakerKeeps _ _ _ held.2)⟩
  · exact fun _ _ _ _ held => ⟨weakerKeeps _ _ _ held.1, weakerCalls _ _ held.2⟩
  · exact fun _ _ _ _ held => ⟨held.1, weakerKeeps _ _ _ held.2⟩

/-- Left alone, a program that follows a discipline issues the requests that it permits. -/
theorem ensures {program : Prog σ κ ρ α} {state : σ} (upholds : program.Upholds rule)
    (stable : rule.stable state)
    (answered : ∀ request state, rule.stable state → rule.ready request state) :
    program.Ensures rule.calls state fun _ after => rule.stable after := by
  have conforms := (upholds.upholdsFrom none).conforms state state stable (rule.refl _ _)
  -- The block under way began in a stable state; its start moves on at every request.
  suffices general : ∀ resumed start now, rule.stable start →
      program.Conforms rule.ready
        (fun resumed start request now => rule.keeps resumed start now ∧ rule.calls request now)
        resumed start now
        (fun resumed start _ now => rule.stable now ∧ rule.keeps resumed start now) →
      program.Ensures rule.calls now fun _ after => rule.stable after from
    general none state state stable conforms
  clear upholds stable conforms
  induction program with
  | ret value => exact fun _ _ _ _ conforms => conforms.1
  | read next ih => exact fun resumed start now => ih now resumed start now
  | write written next ih => exact fun resumed start _ => ih resumed start written
  | ask next ih =>
      exact fun resumed start now stable conforms answer =>
        ih answer resumed start now stable (conforms answer)
  | call request next ih =>
      intro resumed start now stable conforms
      have nowStable := rule.preserved _ _ _ stable conforms.1.1
      exact ⟨conforms.1.2, fun answer => ih answer _ now now nowStable
        (conforms.2 answer now (answered request now nowStable))⟩

end Upholds

end Prog

/-- A block that follows a discipline: what it does to the state, and how it stops. -/
def Discipline.Block (rule : Discipline σ κ ρ) (resumed : Option (κ × ρ)) (start : σ)
    (stop : Stop κ α) (now : σ) : Prop :=
  rule.keeps resumed start now ∧ ∀ request, stop = .waits request → rule.calls request now

/-- The blocks of an operation that upholds a discipline follow it. -/
theorem Prog.Upholds.follows {system : System σ κ ρ ω α} {rule : Discipline σ κ ρ}
    {step : System.BlockRelation σ κ ρ ω α} {op : ω} {program : Prog σ κ ρ α} {state : σ}
    (upholds : program.Upholds rule) (sameReady : rule.ready = system.ready)
    (blocks : ∀ resumed start stop now, rule.Block resumed start stop now →
      step op resumed start stop now)
    (stable : rule.stable state) : system.Follows step op program none state := by
  have conforms := (upholds.upholdsFrom none).conforms state state stable (rule.refl _ _)
  rw [sameReady] at conforms
  refine conforms.mono ?_ fun resumed start value now held => blocks _ _ _ _ ⟨held.2, nofun⟩
  rintro resumed start request now ⟨kept, calls⟩
  refine blocks _ _ _ _ ⟨kept, ?_⟩
  rintro _ ⟨⟩
  exact calls

end Interleave
