import AirportRtw88.Interleave.Prog
import Mathlib.Logic.Relation

/-!
# Pools of interleaved programs

A system offers operations that its surroundings may start at any time at
which they are enabled.  Every running operation is a thread that is suspended
at a request; a step starts an operation or answers the request of one thread
and runs one atomic block.  The file defines the runs of such a system, the
rule that transfers a relation proved for the blocks of every program to the
steps of every run, and an executable scheduler for concrete runs.
-/

namespace Interleave

open Relation

variable {σ κ ρ ω α : Type}

/-- The operations of a system, when they may start, and in which states a
request may be answered. -/
structure System (σ κ ρ ω α : Type) where
  program : ω → Prog σ κ ρ α
  enabled : ω → σ → Prop
  ready : κ → σ → Prop

/-- An operation that waits for the answer to a request. -/
structure Thread (σ κ ρ ω α : Type) where
  op : ω
  request : κ
  next : ρ → Prog σ κ ρ α

/-- The shared state and the operations in progress. -/
structure Config (σ κ ρ ω α : Type) where
  state : σ
  threads : List (Thread σ κ ρ ω α)

/-- How a step ends for the thread that takes it. -/
inductive Stop (κ α : Type) : Type where
  | waits (request : κ)
  | returns (value : α)
  deriving DecidableEq

/-- What can be seen of a step: the operation, the request and the answer it
resumes from (`none` when it starts) and how it stops. -/
structure Move (κ ρ ω α : Type) where
  op : ω
  resumed : Option (κ × ρ)
  stop : Stop κ α

/-- The threads left by a block of operation `op`. -/
def Prog.Outcome.threads (op : ω) : Prog.Outcome σ κ ρ α → List (Thread σ κ ρ ω α)
  | .finished _ => []
  | .suspended request next => [⟨op, request, next⟩]

/-- How a block with this outcome stops. -/
def Prog.Outcome.stop : Prog.Outcome σ κ ρ α → Stop κ α
  | .finished value => .returns value
  | .suspended request _ => .waits request

/-- The operations in progress and the requests they wait for. -/
def Config.labels (config : Config σ κ ρ ω α) : List (ω × κ) :=
  config.threads.map fun thread => (thread.op, thread.request)

/-- The label a step removes: that of the thread it resumes. -/
def Move.removed (move : Move κ ρ ω α) : List (ω × κ) :=
  match move.resumed with
  | none => []
  | some (request, _) => [(move.op, request)]

/-- The label a step adds: that of the thread it leaves suspended. -/
def Move.added (move : Move κ ρ ω α) : List (ω × κ) :=
  match move.stop with
  | .waits request => [(move.op, request)]
  | .returns _ => []

/-- A turn of a concrete run: an operation starts, or the thread at a position goes on. -/
inductive Turn (ρ ω : Type) : Type where
  | start (op : ω) (answers : List ρ)
  | resume (position : Nat) (answer : ρ) (answers : List ρ)

namespace System

variable (system : System σ κ ρ ω α) [Inhabited ρ]

/-- One atomic block of a new or of a resumed thread. -/
inductive Step : Config σ κ ρ ω α → Move κ ρ ω α → Config σ κ ρ ω α → Prop where
  | start {config : Config σ κ ρ ω α} (op : ω) (answers : List ρ)
      (enabled : system.enabled op config.state) :
      Step config
        ⟨op, none, ((system.program op).block config.state answers).2.stop⟩
        ⟨((system.program op).block config.state answers).1,
          config.threads ++
            ((system.program op).block config.state answers).2.threads op⟩
  | resume (state : σ) (before after : List (Thread σ κ ρ ω α))
      (thread : Thread σ κ ρ ω α) (answer : ρ) (answers : List ρ)
      (ready : system.ready thread.request state) :
      Step ⟨state, before ++ thread :: after⟩
        ⟨thread.op, some (thread.request, answer),
          ((thread.next answer).block state answers).2.stop⟩
        ⟨((thread.next answer).block state answers).1,
          before ++ ((thread.next answer).block state answers).2.threads thread.op ++ after⟩

/-- The runs all of whose steps satisfy `admits`. -/
def Reaches (admits : Config σ κ ρ ω α → Move κ ρ ω α → Config σ κ ρ ω α → Prop) :
    Config σ κ ρ ω α → Config σ κ ρ ω α → Prop :=
  ReflTransGen fun config config' =>
    ∃ move, system.Step config move config' ∧ admits config move config'

/-- The configurations of unrestricted runs that start without threads in a
state satisfying `initial`. -/
def Reachable (initial : σ → Prop) (config : Config σ κ ρ ω α) : Prop :=
  ∃ state, initial state ∧ system.Reaches (fun _ _ _ => True) ⟨state, []⟩ config

variable {system}

/-- A step replaces the label of the thread that takes it and leaves the other
labels in place. -/
theorem Step.labels {config config' : Config σ κ ρ ω α} {move : Move κ ρ ω α}
    (taken : system.Step config move config') :
    ∃ before after, config.labels = before ++ move.removed ++ after ∧
      config'.labels = before ++ move.added ++ after := by
  cases taken with
  | start op answers enabled =>
      refine ⟨config.labels, [], by simp [Move.removed], ?_⟩
      cases stopped : ((system.program op).block config.state answers).2 <;>
        simp [Config.labels, Move.added, Prog.Outcome.threads, Prog.Outcome.stop]
  | resume state before after thread answer answers ready =>
      refine ⟨before.map fun other => (other.op, other.request),
        after.map fun other => (other.op, other.request), ?_, ?_⟩
      · simp [Config.labels, Move.removed]
      · cases stopped : ((thread.next answer).block state answers).2 <;>
          simp [Config.labels, Move.added, Prog.Outcome.threads, Prog.Outcome.stop]

theorem Step.enabled {config config' : Config σ κ ρ ω α} {move : Move κ ρ ω α}
    (taken : system.Step config move config') (starts : move.resumed = none) :
    system.enabled move.op config.state := by
  cases taken with
  | start op answers enabled => exact enabled
  | resume => simp at starts

theorem Step.ready {config config' : Config σ κ ρ ω α} {move : Move κ ρ ω α}
    (taken : system.Step config move config') {request : κ} {answer : ρ}
    (resumes : move.resumed = some (request, answer)) :
    system.ready request config.state := by
  cases taken with
  | start => simp at resumes
  | resume state before after thread answer answers ready =>
      simp only [Option.some.injEq, Prod.mk.injEq] at resumes
      exact resumes.1 ▸ ready

theorem Reaches.mono
    {admits admits' : Config σ κ ρ ω α → Move κ ρ ω α → Config σ κ ρ ω α → Prop}
    {config config' : Config σ κ ρ ω α} (run : system.Reaches admits config config')
    (weaker : ∀ config move config', admits config move config' → admits' config move config') :
    system.Reaches admits' config config' := by
  induction run with
  | refl => exact .refl
  | tail _ last ih =>
      obtain ⟨move, taken, admitted⟩ := last
      exact ih.tail ⟨move, taken, weaker _ _ _ admitted⟩

/-! ## Relations that hold of every block -/

variable (system)

/-- A block of `op` relates its beginning and its end by `step`. -/
abbrev BlockRelation (σ κ ρ ω α : Type) : Type :=
  ω → Option (κ × ρ) → σ → Stop κ α → σ → Prop

/-- What is left of operation `op` relates its blocks by `step`. -/
def Follows (step : BlockRelation σ κ ρ ω α) (op : ω) (program : Prog σ κ ρ α)
    (resumed : Option (κ × ρ)) (state : σ) : Prop :=
  program.Conforms system.ready
    (fun resumed start request now => step op resumed start (.waits request) now)
    resumed state state
    fun resumed start value now => step op resumed start (.returns value) now

/-- Every operation relates its blocks by `step`. -/
def Respects (step : BlockRelation σ κ ρ ω α) : Prop :=
  ∀ op state, system.enabled op state →
    system.Follows step op (system.program op) none state

/-- Every suspended thread will relate its blocks by `step`. -/
def Settled (step : BlockRelation σ κ ρ ω α) (config : Config σ κ ρ ω α) : Prop :=
  ∀ thread ∈ config.threads, ∀ answer later, system.ready thread.request later →
    system.Follows step thread.op (thread.next answer)
      (some (thread.request, answer)) later

variable {system}

theorem Follows.block {step : BlockRelation σ κ ρ ω α} {op : ω}
    {program : Prog σ κ ρ α} {resumed : Option (κ × ρ)} {state : σ}
    (follows : system.Follows step op program resumed state) (answers : List ρ) :
    step op resumed state (program.block state answers).2.stop
        (program.block state answers).1 ∧
      ∀ thread ∈ (program.block state answers).2.threads op,
        ∀ answer later, system.ready thread.request later →
          system.Follows step thread.op (thread.next answer)
            (some (thread.request, answer)) later := by
  have sound := Prog.Conforms.block follows answers
  cases ends : program.block state answers with
  | mk after outcome =>
      rw [ends] at sound
      cases outcome with
      | finished value =>
          exact ⟨sound, by simp [Prog.Outcome.threads]⟩
      | suspended request next =>
          refine ⟨sound.1, ?_⟩
          intro thread member
          simp only [Prog.Outcome.threads, List.mem_singleton] at member
          subst member
          exact sound.2

omit [Inhabited ρ] in
/-- Two relations that every operation respects are respected together. -/
theorem Respects.and {step step' : BlockRelation σ κ ρ ω α} (first : system.Respects step)
    (second : system.Respects step') :
    system.Respects fun op resumed start stop now =>
      step op resumed start stop now ∧ step' op resumed start stop now :=
  fun op state enabled => (first op state enabled).and (second op state enabled)

/-- A relation respected by every operation holds of every step. -/
theorem Step.respects {step : BlockRelation σ κ ρ ω α}
    (respects : system.Respects step) {config config' : Config σ κ ρ ω α}
    {move : Move κ ρ ω α} (settled : system.Settled step config)
    (taken : system.Step config move config') :
    step move.op move.resumed config.state move.stop config'.state ∧
      system.Settled step config' := by
  cases taken with
  | start op answers enabled =>
      have follows := (respects op config.state enabled).block answers
      refine ⟨follows.1, ?_⟩
      intro thread member
      rcases List.mem_append.mp member with old | new
      · exact settled thread old
      · exact follows.2 thread new
  | resume state before after thread answer answers ready =>
      have follows :=
        Follows.block (settled thread (by simp) answer state ready) answers
      refine ⟨follows.1, ?_⟩
      intro other member
      rcases List.mem_append.mp member with early | late
      · rcases List.mem_append.mp early with old | new
        · exact settled other (List.mem_append_left _ old)
        · exact follows.2 other new
      · exact settled other (List.mem_append_right _ (List.mem_cons_of_mem _ late))

omit [Inhabited ρ] in
theorem settled_nil (step : BlockRelation σ κ ρ ω α) (state : σ) :
    system.Settled step ⟨state, []⟩ := by
  intro thread member
  simp at member

/-! ## Relations that need an invariant of the state -/

variable (system)

/-- The system as seen by a thread that may assume `stable` whenever it runs. -/
def guarded (stable : σ → Prop) : System σ κ ρ ω α where
  program := system.program
  enabled op state := system.enabled op state ∧ stable state
  ready request state := system.ready request state ∧ stable state

/-- `stable` holds, and every suspended thread will relate its blocks by `relation`
as long as it does. -/
structure Tracked (stable : σ → Prop) (relation : BlockRelation σ κ ρ ω α)
    (config : Config σ κ ρ ω α) : Prop where
  guard : stable config.state
  settled : (system.guarded stable).Settled relation config

variable {system}

theorem Step.guarded {stable : σ → Prop} {config config' : Config σ κ ρ ω α}
    {move : Move κ ρ ω α} (taken : system.Step config move config')
    (holds : stable config.state) : (system.guarded stable).Step config move config' := by
  cases taken with
  | start op answers enabled => exact .start op answers ⟨enabled, holds⟩
  | resume state before after thread answer answers ready =>
      exact .resume state before after thread answer answers ⟨ready, holds⟩

omit [Inhabited ρ] in
theorem tracked_nil {stable : σ → Prop} (relation : BlockRelation σ κ ρ ω α) {state : σ}
    (holds : stable state) : system.Tracked stable relation ⟨state, []⟩ :=
  ⟨holds, settled_nil relation state⟩

section Tracked

variable {stable : σ → Prop} {relation : BlockRelation σ κ ρ ω α}
  (respects : (system.guarded stable).Respects relation)
  (stays : ∀ op resumed start stop now,
    relation op resumed start stop now → stable start → stable now)

include respects stays in
/-- Every step from a tracked configuration is related, and leads to a tracked one. -/
theorem Tracked.related {config config' : Config σ κ ρ ω α} {move : Move κ ρ ω α}
    (tracked : system.Tracked stable relation config)
    (taken : system.Step config move config') :
    relation move.op move.resumed config.state move.stop config'.state ∧
      system.Tracked stable relation config' := by
  have related := (taken.guarded tracked.guard).respects respects tracked.settled
  exact ⟨related.1, stays _ _ _ _ _ related.1 tracked.guard, related.2⟩

include respects stays in
/-- The rule for invariants of runs: it is enough to look at related steps. -/
theorem Tracked.invariant
    {admits : Config σ κ ρ ω α → Move κ ρ ω α → Config σ κ ρ ω α → Prop}
    {holds : Config σ κ ρ ω α → Prop}
    (kept : ∀ config move config', system.Step config move config' →
      admits config move config' → stable config.state →
      relation move.op move.resumed config.state move.stop config'.state →
      holds config → holds config')
    {config config' : Config σ κ ρ ω α} (tracked : system.Tracked stable relation config)
    (initially : holds config) (run : system.Reaches admits config config') :
    system.Tracked stable relation config' ∧ holds config' := by
  induction run with
  | refl => exact ⟨tracked, initially⟩
  | tail before last ih =>
      obtain ⟨move, taken, admitted⟩ := last
      have related := ih.1.related respects stays taken
      exact ⟨related.2, kept _ move _ taken admitted ih.1.guard related.1 ih.2⟩

end Tracked

/-! ## Concrete runs -/

variable (system) [∀ op s, Decidable (system.enabled op s)]
  [∀ request s, Decidable (system.ready request s)]

/-- Take a turn, if it is possible. -/
def turn (config : Config σ κ ρ ω α) :
    Turn ρ ω → Option (Move κ ρ ω α × Config σ κ ρ ω α)
  | .start op answers =>
      if system.enabled op config.state then
        let ended := (system.program op).block config.state answers
        some (⟨op, none, ended.2.stop⟩, ⟨ended.1, config.threads ++ ended.2.threads op⟩)
      else none
  | .resume position answer answers =>
      if inside : position < config.threads.length then
        let thread := config.threads[position]
        if system.ready thread.request config.state then
          let ended := (thread.next answer).block config.state answers
          some (⟨thread.op, some (thread.request, answer), ended.2.stop⟩,
            ⟨ended.1, config.threads.take position ++ ended.2.threads thread.op ++
              config.threads.drop (position + 1)⟩)
        else none
      else none

/-- Take turns, as long as they are possible and allowed. -/
def play (allows : Move κ ρ ω α → Bool) (config : Config σ κ ρ ω α) :
    List (Turn ρ ω) → Option (Config σ κ ρ ω α)
  | [] => some config
  | next :: rest =>
      (system.turn config next).bind fun (move, config') =>
        if allows move then play allows config' rest else none

variable {system}

theorem step_of_turn {config config' : Config σ κ ρ ω α} {move : Move κ ρ ω α}
    {next : Turn ρ ω} (taken : system.turn config next = some (move, config')) :
    system.Step config move config' := by
  cases next with
  | start op answers =>
      simp only [turn] at taken
      split at taken
      · cases taken
        exact .start op answers ‹_›
      · simp at taken
  | resume position answer answers =>
      simp only [turn] at taken
      split at taken
      · rename_i inside
        split at taken
        · cases taken
          have at_ : config =
              ⟨config.state, config.threads.take position ++ config.threads[position] ::
                config.threads.drop (position + 1)⟩ := by
            rw [List.getElem_cons_drop, List.take_append_drop]
          conv => arg 2; rw [at_]
          exact .resume config.state _ _ _ answer answers ‹_›
        · simp at taken
      · simp at taken

theorem enabled_of_turn {config config' : Config σ κ ρ ω α} {move : Move κ ρ ω α} {op : ω}
    {answers : List ρ} (taken : system.turn config (.start op answers) = some (move, config')) :
    system.enabled op config.state := by
  simp only [turn] at taken
  split at taken
  · assumption
  · cases taken

/-- An operation that neither waits nor writes changes nothing. -/
theorem eq_of_turn {config config' : Config σ κ ρ ω α} {move : Move κ ρ ω α} {op : ω}
    {answers : List ρ} {value : α}
    (taken : system.turn config (.start op answers) = some (move, config'))
    (idle : (system.program op).block config.state answers = (config.state, .finished value)) :
    config' = config := by
  simp only [turn, idle] at taken
  split at taken
  · cases taken
    simp [Prog.Outcome.threads]
  · cases taken

theorem play_append {allows : Move κ ρ ω α → Bool} {config : Config σ κ ρ ω α}
    {first second : List (Turn ρ ω)} :
    system.play allows config (first ++ second) =
      (system.play allows config first).bind fun mid => system.play allows mid second := by
  induction first generalizing config with
  | nil => rfl
  | cons next rest ih =>
      simp only [List.cons_append, play, Option.bind_assoc]
      congr 1
      funext taken
      split
      · exact ih
      · rfl

theorem reaches_of_play {allows : Move κ ρ ω α → Bool} {config config' : Config σ κ ρ ω α}
    {turns : List (Turn ρ ω)} (played : system.play allows config turns = some config') :
    system.Reaches (fun _ move _ => allows move = true) config config' := by
  induction turns generalizing config with
  | nil =>
      cases played
      exact .refl
  | cons next rest ih =>
      simp only [play, Option.bind_eq_some_iff, Prod.exists] at played
      obtain ⟨move, mid, taken, played⟩ := played
      split at played
      · exact .head ⟨move, step_of_turn taken, ‹_›⟩ (ih played)
      · simp at played

end System

end Interleave
