import Mathlib.Data.List.Basic

/-!
# Bounded byte queues

A queue of limited capacity, filled at one end and emptied at the other, as ring buffers implement
it. `put` takes as much as there is room for. The consumer works in two steps: `claim` shows it the
oldest elements, and `finish` removes those it has dealt with, while the producer may `put` in
between (`prefix_put`).
-/

/-- A queue that never holds more than its capacity. The bound is a field, so every operation has to
respect it and no later result has to assume it. -/
structure BoundedFifo (α : Type*) (capacity : ℕ) where
  data : List α
  length_le : data.length ≤ capacity
deriving DecidableEq, Repr

namespace BoundedFifo

variable {α : Type*} {capacity : ℕ}

/-- The queue without elements, which respects any capacity. -/
def empty : BoundedFifo α capacity := ⟨[], Nat.zero_le capacity⟩

/-- How many more elements the queue takes before it is full. -/
def space (q : BoundedFifo α capacity) : ℕ := capacity - q.data.length

/-- Add the elements there is room for, and silently drop the rest, as a ring buffer does: whoever
puts them learns from `space` how many were taken. -/
def put (q : BoundedFifo α capacity) (xs : List α) : BoundedFifo α capacity where
  data := q.data ++ xs.take q.space
  length_le := by
    have hq := q.length_le
    rw [List.length_append, List.length_take, space]
    omega

/-- The oldest elements, at most `n` of them. They stay in the queue until they are finished. -/
def claim (q : BoundedFifo α capacity) (n : ℕ) : List α := q.data.take n

/-- Remove the oldest `n` elements, which the consumer has dealt with. It may be fewer than it
claimed. -/
def finish (q : BoundedFifo α capacity) (n : ℕ) : BoundedFifo α capacity where
  data := q.data.drop n
  length_le := by
    have hq := q.length_le
    rw [List.length_drop]
    omega

@[simp] theorem data_empty : (empty : BoundedFifo α capacity).data = [] := rfl

@[simp] theorem data_put (q : BoundedFifo α capacity) (xs : List α) :
    (q.put xs).data = q.data ++ xs.take q.space := rfl

@[simp] theorem data_finish (q : BoundedFifo α capacity) (n : ℕ) :
    (q.finish n).data = q.data.drop n := rfl

/-- A `put` that leaves something out fills the queue, so that loss is visible in the length. -/
theorem length_put_of_lt {q : BoundedFifo α capacity} {xs : List α} (h : q.space < xs.length) :
    (q.put xs).data.length = capacity := by
  have hq := q.length_le
  rw [data_put, List.length_append, List.length_take, Nat.min_eq_left (Nat.le_of_lt h), space]
  omega

/-- What is claimed is the head of the queue. -/
theorem claim_prefix (q : BoundedFifo α capacity) (n : ℕ) : q.claim n <+: q.data :=
  List.take_prefix n q.data

/-- What is claimed stays at the head while the producer adds elements, since these go to the other
end. This is what allows the two sides to interleave between `claim` and `finish`. -/
theorem prefix_put {q : BoundedFifo α capacity} {ys : List α} (h : ys <+: q.data) (xs : List α) :
    ys <+: (q.put xs).data :=
  h.trans (List.prefix_append _ _)

/-- A consumer that asks for something gets nothing only when the queue is empty. -/
theorem claim_eq_nil {q : BoundedFifo α capacity} {n : ℕ} (hn : 0 < n) :
    q.claim n = [] ↔ q.data = [] := by
  rw [claim, List.take_eq_nil_iff]
  exact ⟨fun h => h.resolve_left (Nat.pos_iff_ne_zero.mp hn), .inr⟩

end BoundedFifo
