import Mathlib.Data.List.Basic

/-!
# Hashing block by block

A hash chains a compression function over the blocks of a message.  One that is fed in pieces keeps
the chaining value of the whole blocks and the elements that do not fill a block yet, and what it
keeps does not depend on the pieces.
-/

namespace BlockHash

variable {σ τ α : Type}

/-- The chaining value after a number of blocks. -/
def chain (compress : σ → List α → σ) (size : Nat) : Nat → σ → List α → σ
  | 0, state, _ => state
  | count + 1, state, message =>
      chain compress size count (compress state (message.take size)) (message.drop size)

/-- What is kept of a message: the chaining value of its whole blocks, and the rest. -/
structure Absorbed (compress : σ → List α → σ) (size : Nat) (start : σ) (message : List α)
    (state : σ) (pending : List α) : Prop where
  chained : state = chain compress size (message.length / size) start message
  pending : pending = message.drop (message.length / size * size)

section

variable {compress : σ → List α → σ} {size : Nat}

theorem chain_add (first second : Nat) (state : σ) (message : List α) :
    chain compress size (first + second) state message =
      chain compress size second (chain compress size first state message)
        (message.drop (first * size)) := by
  induction first generalizing state message with
  | zero => simp [chain]
  | succ first ih =>
      rw [Nat.succ_add, chain, chain, ih, List.drop_drop, Nat.succ_mul, Nat.add_comm]

/-- Only the whole blocks are read. -/
theorem chain_append {count : Nat} {message : List α} (whole : count * size ≤ message.length)
    (state : σ) (rest : List α) :
    chain compress size count state (message ++ rest) =
      chain compress size count state message := by
  induction count generalizing state message with
  | zero => rfl
  | succ count ih =>
      rw [Nat.succ_mul] at whole
      rw [chain, chain, List.take_append_of_le_length (by omega),
        List.drop_append_of_le_length (by omega)]
      apply ih
      rw [List.length_drop]
      omega

/-- Chaining commutes with a change of the representation of chaining values. -/
theorem chain_map {compress' : τ → List α → τ} (change : σ → τ)
    (same : ∀ state block, block.length = size →
      change (compress state block) = compress' (change state) block)
    {count : Nat} {message : List α} (whole : count * size ≤ message.length) (state : σ) :
    change (chain compress size count state message) =
      chain compress' size count (change state) message := by
  induction count generalizing state message with
  | zero => rfl
  | succ count ih =>
      rw [Nat.succ_mul] at whole
      have block : (message.take size).length = size := by
        rw [List.length_take]
        omega
      rw [chain, chain, ih (by rw [List.length_drop]; omega), same state _ block]

end

namespace Absorbed

variable {compress : σ → List α → σ} {size : Nat} {start state : σ} {message pending : List α}

theorem nil (start : σ) : Absorbed compress size start [] start [] where
  chained := by simp [chain]
  pending := by simp

variable (absorbed : Absorbed compress size start message state pending)
include absorbed

/-- More elements go behind those that are pending. -/
theorem append (positive : 0 < size) (data : List α) :
    Absorbed compress size start (message ++ data)
      (chain compress size ((pending ++ data).length / size) state (pending ++ data))
      ((pending ++ data).drop ((pending ++ data).length / size * size)) := by
  let whole := message.length / size
  have split : message.take (whole * size) ++ pending = message := by
    rw [absorbed.pending]
    exact List.take_append_drop _ _
  have inside : whole * size ≤ message.length := Nat.div_mul_le_self _ _
  have front : (message.take (whole * size)).length = whole * size := by
    rw [List.length_take]
    omega
  have blocks : (message ++ data).length / size = whole + (pending ++ data).length / size := by
    have total : (message ++ data).length = whole * size + (pending ++ data).length := by
      rw [← split, List.append_assoc, List.length_append, front]
    rw [total, Nat.mul_comm, Nat.mul_add_div positive]
  have rest : (message ++ data).drop (whole * size) = pending ++ data := by
    rw [List.drop_append_of_le_length inside, absorbed.pending]
  constructor
  case chained =>
    rw [blocks, chain_add, rest, chain_append inside, absorbed.chained]
  case pending =>
    rw [blocks, Nat.add_mul, ← List.drop_drop, rest]

end Absorbed

end BlockHash
