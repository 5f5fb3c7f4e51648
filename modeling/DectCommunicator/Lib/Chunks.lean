import Mathlib.Data.List.Basic
import Mathlib.Algebra.Order.Floor.Div

/-!
# Cutting a list into chunks of equal size

`chunk k i xs` is the `i`-th piece of `xs` when it is cut into pieces of `k` elements (the last
piece may be shorter), and `count k n` the number of pieces of a list of `n` elements, computed by
the usual integer ceiling `(n + k - 1) / k`.

The rule that carries reassembly proofs is `take_succ`: appending the `i`-th chunk to the first
`i` chunks gives the first `i + 1` chunks. `take_count` says that all the chunks together are the
list.
-/

namespace Chunks

variable {α : Type*}

/-- The number of chunks of size `k` in a list of length `n`, by the integer ceiling that the usual
C idiom `(n + k - 1) / k` computes. For `k = 0` it is 0. -/
def count (k n : ℕ) : ℕ := (n + k - 1) / k

/-- The `i`-th chunk of size `k`, empty behind the end of the list and shorter than `k` only at its
end. -/
def chunk (k i : ℕ) (xs : List α) : List α := (xs.drop (k * i)).take k

/-- The length of a chunk: `k`, but for what is missing at the end of the list. -/
theorem length_chunk (k i : ℕ) (xs : List α) :
    (chunk k i xs).length = min k (xs.length - k * i) := by
  rw [chunk, List.length_take, List.length_drop]

theorem length_chunk_le (k i : ℕ) (xs : List α) : (chunk k i xs).length ≤ k := by
  rw [length_chunk]
  exact min_le_left _ _

/-- The first `i` chunks followed by the next one are the first `i + 1`. This is the step of every
reassembly: what has been put together so far is always a prefix of the list. -/
theorem take_succ (k i : ℕ) (xs : List α) :
    xs.take (k * i) ++ chunk k i xs = xs.take (k * (i + 1)) := by
  rw [chunk, Nat.mul_succ, List.take_add]

/-- The next chunk followed by the rest is what was left before it, which is the same step read from
the side of the sender. -/
theorem chunk_append_drop (k i : ℕ) (xs : List α) :
    chunk k i xs ++ xs.drop (k * (i + 1)) = xs.drop (k * i) := by
  rw [chunk, Nat.mul_succ, ← List.drop_drop, List.take_append_drop]

/-- A number is that of a chunk exactly when the chunk begins inside the list. It characterises
`count`, so nothing below unfolds the division. -/
theorem lt_count_iff {k : ℕ} (hk : 0 < k) (i n : ℕ) : i < count k n ↔ k * i < n := by
  rw [count, Nat.lt_div_iff_mul_lt hk, Nat.mul_comm]
  omega

/-- The chunks have room for the whole list. -/
theorem le_count_mul {k : ℕ} (hk : 0 < k) (n : ℕ) : n ≤ k * count k n := by
  by_contra h
  exact absurd ((lt_count_iff hk _ _).mpr (not_le.mp h)) (lt_irrefl _)

theorem count_pos {k n : ℕ} (hk : 0 < k) (hn : 0 < n) : 0 < count k n :=
  (lt_count_iff hk 0 n).mpr (by omega)

theorem count_mono (k : ℕ) {m n : ℕ} (h : m ≤ n) : count k m ≤ count k n :=
  Nat.div_le_div_right (by omega)

/-- Nothing is left after all the chunks, since they have room for the whole list. -/
theorem drop_count {k : ℕ} (hk : 0 < k) (xs : List α) : xs.drop (k * count k xs.length) = [] :=
  List.drop_of_length_le (le_count_mul hk _)

/-- All the chunks together are the list: reassembling every one of them gives the list back. -/
theorem take_count {k : ℕ} (hk : 0 < k) (xs : List α) : xs.take (k * count k xs.length) = xs :=
  List.take_of_length_le (le_count_mul hk _)

theorem length_chunk_pos {k i : ℕ} (hk : 0 < k) {xs : List α} (hi : i < count k xs.length) :
    0 < (chunk k i xs).length := by
  have h := (lt_count_iff hk _ _).mp hi
  rw [length_chunk]
  omega

end Chunks
