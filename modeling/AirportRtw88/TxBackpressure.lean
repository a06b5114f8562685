import AirportRtw88.Interleave.Machine

/-!
# Backpressure

When the transmit ring of `RTW88PCIDevice` is nearly full, the output queue stalls instead of losing
packets.  The thread of the interrupt and a timer resume it when there is room again.  `_txStalled`
is not guarded by a lock, so the interrupt can come between the look at the ring and the flag.
-/

namespace AirportRtw88

open Interleave

/-- `kRTW88TxStallAvail` and `kRTW88TxResumeAvail`. -/
def txStallAvail : Nat := 96
def txResumeAvail : Nat := 160

/-- How far a call of `resumeTxIfStalled` has come. -/
inductive Resume where
  | idle
  | check
  | clear
  | service
  deriving DecidableEq

/-- The ring, the flag, and the threads: `outputPacket` may have decided to stall, and the interrupt
and the timer may be in `resumeTxIfStalled`.  `heldBack` is for the specification: the queue has
been told to hold a packet back, and has not been serviced since. -/
structure TxFlow where
  avail : Nat
  txStalled : Bool
  stalling : Bool
  interrupt : Resume
  timer : Resume
  heldBack : Bool
  deriving DecidableEq

inductive TxFlowStep where
  | offer (used : Nat)
  | stall
  | complete (freed : Nat)
  | interrupt
  | timerFired
  | timer
  deriving DecidableEq

namespace TxFlow

/-- The condition of `resumeTxIfStalled`. -/
def resumes (flow : TxFlow) : Bool :=
  flow.txStalled && txResumeAvail ≤ flow.avail

/-- One step of `resumeTxIfStalled`: the condition, the flag, the queue. -/
def resume (flow : TxFlow) : Resume → Resume × TxFlow
  | .idle => (.idle, flow)
  | .check => (if flow.resumes then .clear else .idle, flow)
  | .clear => (.service, { flow with txStalled := false })
  | .service => (.idle, { flow with heldBack := false })

/-- `outputPacket` and the timer run under the gate of the work loop, the interrupt does not. -/
def step : TxFlowStep → TxFlow → Option TxFlow
  | .offer used, flow =>
      if flow.stalling || flow.timer ≠ .idle then none
      else if flow.avail < txStallAvail then some { flow with stalling := true }
      else if used ≤ flow.avail then some { flow with avail := flow.avail - used }
      else none
  | .stall, flow =>
      if flow.stalling then
        some { flow with
          txStalled := true
          stalling := false
          heldBack := true }
      else none
  | .complete freed, flow =>
      if flow.interrupt = .idle then
        some { flow with
          avail := flow.avail + freed
          interrupt := .check }
      else none
  | .interrupt, flow =>
      if flow.interrupt = .idle then none
      else
        let resumed := flow.resume flow.interrupt
        some { resumed.2 with interrupt := resumed.1 }
  | .timerFired, flow =>
      if flow.stalling || flow.timer ≠ .idle then none
      else some { flow with timer := if flow.resumes then .check else .idle }
  | .timer, flow =>
      if flow.timer = .idle then none
      else
        let resumed := flow.resume flow.timer
        some { resumed.2 with timer := resumed.1 }

def machine : Machine TxFlowStep TxFlow where
  step := step

/-- An empty ring of `avail` entries. -/
def empty (avail : Nat) : TxFlow where
  avail := avail
  txStalled := false
  stalling := false
  interrupt := .idle
  timer := .idle
  heldBack := false

/-- The queue is about to be serviced. -/
def Serviced (flow : TxFlow) : Prop :=
  flow.interrupt = .service ∨ flow.timer = .service

/-- What is held back is flagged, or the queue is about to be serviced. -/
def Flagged (flow : TxFlow) : Prop :=
  flow.heldBack = true → flow.txStalled = true ∨ flow.Serviced

variable {flow later : TxFlow}

/-! ## The threads -/

/-- The next step of the interrupt in `resumeTxIfStalled`. -/
theorem interrupt_cases (steps : step .interrupt flow = some later) :
    (flow.interrupt = .check ∧
      later = { flow with interrupt := if flow.resumes then .clear else .idle }) ∨
    (flow.interrupt = .clear ∧ later = { flow with txStalled := false, interrupt := .service }) ∨
    (flow.interrupt = .service ∧ later = { flow with heldBack := false, interrupt := .idle }) := by
  obtain ⟨-, same⟩ := Option.ite_none_left_eq_some.mp steps
  cases here : flow.interrupt with
  | idle => simp [here, step] at steps
  | check =>
      rw [here] at same
      exact .inl ⟨rfl, (Option.some.inj same).symm⟩
  | clear =>
      rw [here] at same
      exact .inr (.inl ⟨rfl, (Option.some.inj same).symm⟩)
  | service =>
      rw [here] at same
      exact .inr (.inr ⟨rfl, (Option.some.inj same).symm⟩)

theorem timer_cases (steps : step .timer flow = some later) :
    (flow.timer = .check ∧
      later = { flow with timer := if flow.resumes then .clear else .idle }) ∨
    (flow.timer = .clear ∧ later = { flow with txStalled := false, timer := .service }) ∨
    (flow.timer = .service ∧ later = { flow with heldBack := false, timer := .idle }) := by
  obtain ⟨-, same⟩ := Option.ite_none_left_eq_some.mp steps
  cases here : flow.timer with
  | idle => simp [here, step] at steps
  | check =>
      rw [here] at same
      exact .inl ⟨rfl, (Option.some.inj same).symm⟩
  | clear =>
      rw [here] at same
      exact .inr (.inl ⟨rfl, (Option.some.inj same).symm⟩)
  | service =>
      rw [here] at same
      exact .inr (.inr ⟨rfl, (Option.some.inj same).symm⟩)

theorem complete_cases {freed : Nat} (steps : step (.complete freed) flow = some later) :
    flow.interrupt = .idle ∧
      later = { flow with avail := flow.avail + freed, interrupt := .check } := by
  obtain ⟨idle, same⟩ := Option.ite_none_right_eq_some.mp steps
  exact ⟨idle, (Option.some.inj same).symm⟩

theorem timerFired_cases (steps : step .timerFired flow = some later) :
    flow.stalling = false ∧ flow.timer = .idle ∧
      later = { flow with timer := if flow.resumes then .check else .idle } := by
  obtain ⟨free, same⟩ := Option.ite_none_left_eq_some.mp steps
  simp only [ne_eq, Bool.or_eq_true, decide_eq_true_eq, not_or, Bool.not_eq_true,
    Decidable.not_not] at free
  exact ⟨free.1, free.2, (Option.some.inj same).symm⟩

/-! ## What is held back -/

theorem Flagged.step (flagged : flow.Flagged) {label : TxFlowStep}
    (steps : step label flow = some later) : later.Flagged := by
  cases label with
  | offer used =>
      rw [TxFlow.step] at steps
      split at steps
      · cases steps
      · split at steps
        · cases steps
          exact flagged
        · obtain ⟨-, same⟩ := Option.ite_none_right_eq_some.mp steps
          cases same
          exact flagged
  | stall =>
      obtain ⟨-, same⟩ := Option.ite_none_right_eq_some.mp steps
      cases same
      exact fun _ => .inl rfl
  | complete freed =>
      obtain ⟨idle, rfl⟩ := complete_cases steps
      intro held
      refine (flagged held).imp_right fun serviced => serviced.imp_left fun interrupt => ?_
      rw [idle] at interrupt
      cases interrupt
  | interrupt =>
      rcases interrupt_cases steps with ⟨here, rfl⟩ | ⟨-, rfl⟩ | ⟨-, rfl⟩
      · intro held
        refine (flagged held).imp_right fun serviced => serviced.imp_left fun interrupt => ?_
        rw [here] at interrupt
        cases interrupt
      · exact fun _ => .inr (.inl rfl)
      · exact fun held => Bool.noConfusion held
  | timerFired =>
      obtain ⟨-, idle, rfl⟩ := timerFired_cases steps
      intro held
      refine (flagged held).imp_right fun serviced => serviced.imp_right fun timer => ?_
      rw [idle] at timer
      cases timer
  | timer =>
      rcases timer_cases steps with ⟨here, rfl⟩ | ⟨-, rfl⟩ | ⟨-, rfl⟩
      · intro held
        refine (flagged held).imp_right fun serviced => serviced.imp_right fun timer => ?_
        rw [here] at timer
        cases timer
      · exact fun _ => .inr (.inr rfl)
      · exact fun held => Bool.noConfusion held

theorem flagged_of_reaches {avail : Nat}
    (reaches : machine.Reaches Machine.free (empty avail) flow) : flow.Flagged := by
  apply reaches.keeps Flagged
  · exact fun _ _ _ _ steps flagged => flagged.step steps
  · exact fun held => Bool.noConfusion held

/-- Where there is room and the flag is down, the interrupt has taken it down to service the
queue. -/
theorem Flagged.interrupt (flagged : flow.Flagged) (room : txResumeAvail ≤ flow.avail)
    (unresumed : flow.resumes ≠ true) (notTimer : flow.timer ≠ .service)
    (held : flow.heldBack = true) : flow.interrupt = .service := by
  rcases flagged held with up | interrupt | timer
  · refine absurd ?_ unresumed
    rw [resumes, up, Bool.true_and]
    exact decide_eq_true room
  · exact interrupt
  · exact absurd timer notTimer

/-! ## The round of the timer -/

/-- No packet is offered, and no decision to stall is pending. -/
def Quiet : TxFlowStep → TxFlow → Prop
  | .offer _, _ => False
  | .stall, _ => False
  | _, _ => True

/-- While the timer has not come back, there is room.  When it has, nothing is held back, or the
interrupt is about to service the queue. -/
structure Round (flow : TxFlow) : Prop where
  flagged : flow.Flagged
  room : txResumeAvail ≤ flow.avail
  back : flow.timer = .idle → flow.heldBack = true → flow.interrupt = .service

theorem Round.step (round : Round flow) {label : TxFlowStep} (quiet : Quiet label flow)
    (steps : step label flow = some later) : Round later := by
  have flagged := round.flagged.step steps
  cases label with
  | offer used => exact quiet.elim
  | stall => exact quiet.elim
  | complete freed =>
      obtain ⟨idle, rfl⟩ := complete_cases steps
      refine ⟨flagged, Nat.le_add_right_of_le round.room, fun timer held => ?_⟩
      have interrupt := round.back timer held
      rw [idle] at interrupt
      cases interrupt
  | interrupt =>
      rcases interrupt_cases steps with ⟨here, rfl⟩ | ⟨here, rfl⟩ | ⟨-, rfl⟩
      · refine ⟨flagged, round.room, fun timer held => ?_⟩
        have interrupt := round.back timer held
        rw [here] at interrupt
        cases interrupt
      · exact ⟨flagged, round.room, fun _ _ => rfl⟩
      · exact ⟨flagged, round.room, fun _ held => Bool.noConfusion held⟩
  | timerFired =>
      obtain ⟨-, idle, rfl⟩ := timerFired_cases steps
      exact ⟨flagged, round.room, fun _ held => round.back idle held⟩
  | timer =>
      rcases timer_cases steps with ⟨here, rfl⟩ | ⟨-, rfl⟩ | ⟨-, rfl⟩
      · refine ⟨flagged, round.room, fun timer held => ?_⟩
        have unresumed : flow.resumes ≠ true := by
          intro resumes
          simp [resumes] at timer
        exact round.flagged.interrupt round.room unresumed (by rw [here]; decide) held
      · exact ⟨flagged, round.room, fun timer => Resume.noConfusion timer⟩
      · exact ⟨flagged, round.room, fun _ held => Bool.noConfusion held⟩

/-- In every state that the threads can reach, a packet that is held back is flagged, unless the
queue is about to be serviced.  When the timer fires while there is room, then however the
interrupt comes in between, until the next packet is offered: once the timer is back, the queue has
been serviced or the interrupt is about to. -/
theorem heldBack_resumes {avail : Nat}
    (reaches : machine.Reaches Machine.free (empty avail) flow) :
    flow.Flagged ∧ (txResumeAvail ≤ flow.avail → ∀ fired,
      step .timerFired flow = some fired → ∀ later, machine.Reaches Quiet fired later →
        later.timer = .idle → later.heldBack = true → later.interrupt = .service) := by
  have flagged := flagged_of_reaches reaches
  refine ⟨flagged, fun room fired fires later run idle held => ?_⟩
  obtain ⟨-, resting, same⟩ := timerFired_cases fires
  have begins : Round fired := by
    refine ⟨flagged.step fires, ?_, ?_⟩
    · rw [same]
      exact room
    · rw [same]
      intro back held
      have unresumed : flow.resumes ≠ true := by
        intro resumes
        simp [resumes] at back
      exact flagged.interrupt room unresumed (by rw [resting]; decide) held
  have round : Round later := by
    apply run.keeps Round
    · exact fun _ _ _ quiet steps round => round.step quiet steps
    · exact begins
  exact round.back idle held

/-- The interrupt has freed a hundred entries and gone between the look at the ring and the flag. -/
def overtaken : TxFlow where
  avail := 190
  txStalled := true
  stalling := false
  interrupt := .idle
  timer := .idle
  heldBack := true

theorem heldBack_resumes_overtaken : ∃ later,
    machine.play [.timerFired, .timer, .timer, .timer] overtaken = some later ∧
      later.heldBack = false := by
  have reaches : machine.Reaches Machine.free (empty 90) overtaken :=
    Machine.reaches_of_play [.offer 1, .complete 100, .interrupt, .stall] rfl
  have room : txResumeAvail ≤ overtaken.avail := by decide
  have run : machine.Reaches Quiet { overtaken with timer := .check }
      { overtaken with txStalled := false, heldBack := false } :=
    .head ⟨.timer, trivial, rfl⟩ (.head ⟨.timer, trivial, rfl⟩ (.single ⟨.timer, trivial, rfl⟩))
  refine ⟨_, rfl, eq_false_of_ne_true fun held => ?_⟩
  have late := (heldBack_resumes reaches).2 room _ rfl _ run rfl held
  exact Resume.noConfusion late

end TxFlow

end AirportRtw88
