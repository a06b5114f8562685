import AirportRtw88.Interleave.Pool

/-!
# Histories

A property of whole runs is a property of the configurations that a run reaches together with a
history: a value that every turn brings up to date.  The history is for the specification only,
and no program reads it.
-/

namespace Interleave

open Relation

variable {σ κ ρ ω α χ : Type} [Inhabited ρ]

namespace System

variable (system : System σ κ ρ ω α) [∀ op s, Decidable (system.enabled op s)]
  [∀ request s, Decidable (system.ready request s)]

/-- The runs of allowed turns, with their history. -/
def Recorded (note : Turn ρ ω → σ → χ → χ) (allows : Turn ρ ω → σ → χ → Prop) :
    Config σ κ ρ ω α × χ → Config σ κ ρ ω α × χ → Prop :=
  ReflTransGen fun now later => ∃ next move, allows next now.1.state now.2 ∧
    system.turn now.1 next = some (move, later.1) ∧ later.2 = note next now.1.state now.2

/-- Take turns and keep the history. -/
def playRecorded (note : Turn ρ ω → σ → χ → χ) (now : Config σ κ ρ ω α × χ) :
    List (Turn ρ ω) → Option (Config σ κ ρ ω α × χ)
  | [] => some now
  | next :: rest =>
      (system.turn now.1 next).bind fun (_, config) =>
        playRecorded note (config, note next now.1.state now.2) rest

/-- The runs of allowed turns, with a history of what each turn did. -/
def Noted (note : Move κ ρ ω α → σ → χ → χ) (allows : Turn ρ ω → σ → Prop) :
    Config σ κ ρ ω α × χ → Config σ κ ρ ω α × χ → Prop :=
  ReflTransGen fun now later => ∃ next move, allows next now.1.state ∧
    system.turn now.1 next = some (move, later.1) ∧ later.2 = note move later.1.state now.2

/-- Take turns and note what they did. -/
def playNoted (note : Move κ ρ ω α → σ → χ → χ) (now : Config σ κ ρ ω α × χ) :
    List (Turn ρ ω) → Option (Config σ κ ρ ω α × χ)
  | [] => some now
  | next :: rest =>
      (system.turn now.1 next).bind fun (move, config) =>
        playNoted note (config, note move config.state now.2) rest

omit [∀ op s, Decidable (system.enabled op s)] [∀ request s, Decidable (system.ready request s)] in
/-- The runs of allowed steps, with a history of what each step did to the state it found. -/
def Observed (note : Move κ ρ ω α → σ → χ → χ)
    (allows : Config σ κ ρ ω α → Move κ ρ ω α → Prop) :
    Config σ κ ρ ω α × χ → Config σ κ ρ ω α × χ → Prop :=
  ReflTransGen fun now later => ∃ move, system.Step now.1 move later.1 ∧ allows now.1 move ∧
    later.2 = note move now.1.state now.2

/-- Take turns and keep the history of what they did. -/
def playObserved (note : Move κ ρ ω α → σ → χ → χ) (now : Config σ κ ρ ω α × χ) :
    List (Turn ρ ω) → Option (Config σ κ ρ ω α × χ)
  | [] => some now
  | next :: rest =>
      (system.turn now.1 next).bind fun (move, config) =>
        playObserved note (config, note move now.1.state now.2) rest

variable {system} {note : Turn ρ ω → σ → χ → χ} {allows : Turn ρ ω → σ → χ → Prop}

/-- What holds at first and is kept by allowed turns holds in every run. -/
theorem Recorded.invariant {now later : Config σ κ ρ ω α × χ}
    (run : system.Recorded note allows now later) (sound : Config σ κ ρ ω α × χ → Prop)
    (initially : sound now)
    (kept : ∀ now next move config, sound now → allows next now.1.state now.2 →
      system.turn now.1 next = some (move, config) →
      sound (config, note next now.1.state now.2)) :
    sound later := by
  induction run with
  | refl => exact initially
  | tail _ last ih =>
      obtain ⟨next, move, allowed, taken, noted⟩ := last
      have sound := kept _ next move _ ih allowed taken
      rwa [← noted] at sound

theorem recorded_of_play {now later : Config σ κ ρ ω α × χ} {turns : List (Turn ρ ω)}
    (played : system.playRecorded note now turns = some later)
    (allowed : ∀ next ∈ turns, ∀ s history, allows next s history) :
    system.Recorded note allows now later := by
  induction turns generalizing now with
  | nil =>
      cases played
      exact .refl
  | cons next rest ih =>
      obtain ⟨⟨move, config⟩, taken, played⟩ := Option.bind_eq_some_iff.mp played
      have first := allowed next (by simp) now.1.state now.2
      exact .head ⟨next, move, first, taken, rfl⟩
        (ih played fun other member => allowed other (by simp [member]))

/-- What holds at first and is kept by allowed turns holds in every noted run. -/
theorem Noted.invariant {note : Move κ ρ ω α → σ → χ → χ} {allows : Turn ρ ω → σ → Prop}
    {now later : Config σ κ ρ ω α × χ} (run : system.Noted note allows now later)
    (sound : Config σ κ ρ ω α × χ → Prop) (initially : sound now)
    (kept : ∀ now next move config, sound now → allows next now.1.state →
      system.turn now.1 next = some (move, config) →
      sound (config, note move config.state now.2)) :
    sound later := by
  induction run with
  | refl => exact initially
  | tail _ last ih =>
      obtain ⟨next, move, allowed, taken, noted⟩ := last
      have sound := kept _ next move _ ih allowed taken
      rwa [← noted] at sound

theorem noted_of_play {note : Move κ ρ ω α → σ → χ → χ} {allows : Turn ρ ω → σ → Prop}
    {now later : Config σ κ ρ ω α × χ} {turns : List (Turn ρ ω)}
    (played : system.playNoted note now turns = some later)
    (allowed : ∀ next ∈ turns, ∀ s, allows next s) : system.Noted note allows now later := by
  induction turns generalizing now with
  | nil =>
      cases played
      exact .refl
  | cons next rest ih =>
      obtain ⟨⟨move, config⟩, taken, played⟩ := Option.bind_eq_some_iff.mp played
      have first := allowed next (by simp) now.1.state
      exact .head ⟨next, move, first, taken, rfl⟩
        (ih played fun other member => allowed other (by simp [member]))

omit [∀ op s, Decidable (system.enabled op s)]
  [∀ request s, Decidable (system.ready request s)] in
/-- What holds at first and is kept by allowed steps holds in every observed run. -/
theorem Observed.invariant {note : Move κ ρ ω α → σ → χ → χ}
    {allows : Config σ κ ρ ω α → Move κ ρ ω α → Prop} {now later : Config σ κ ρ ω α × χ}
    (run : system.Observed note allows now later) (sound : Config σ κ ρ ω α × χ → Prop)
    (initially : sound now)
    (kept : ∀ config record move config', sound (config, record) → allows config move →
      system.Step config move config' → sound (config', note move config.state record)) :
    sound later := by
  induction run with
  | refl => exact initially
  | @tail before after _ last ih =>
      obtain ⟨move, taken, allowed, noted⟩ := last
      have sound := kept before.1 before.2 move after.1 ih allowed taken
      rwa [← noted] at sound

theorem observed_of_play {note : Move κ ρ ω α → σ → χ → χ}
    {allows : Config σ κ ρ ω α → Move κ ρ ω α → Prop} {now later : Config σ κ ρ ω α × χ}
    {turns : List (Turn ρ ω)} (played : system.playObserved note now turns = some later)
    (allowed : ∀ config move, allows config move) : system.Observed note allows now later := by
  induction turns generalizing now with
  | nil =>
      cases played
      exact .refl
  | cons next rest ih =>
      obtain ⟨⟨move, config⟩, taken, played⟩ := Option.bind_eq_some_iff.mp played
      exact .head ⟨move, step_of_turn taken, allowed now.1 move, rfl⟩ (ih played)

end System

end Interleave
