import Mathlib.Tactic.Ring
import DectCommunicator.Lib.Runs
import DectCommunicator.Lib.StopAndWait

/-!
# The cost of runs

What the actions of a run cost together, and what a stop-and-wait sender can cost.

* `Machine.spent` is the cost of a run. `Steps.spent_le` is the rule for amortised costs: what a
  state has `earned` so far pays for the actions and for what is still kept back.
* `Proc.Within c p n` says that the program `p` costs at most `n` at the prices `c`, whatever it is
  answered. It follows a program from effect to effect, so a suspended program stays within what it
  has not spent yet. `transfer_within` is the bound for a transfer.
-/

namespace Machine

variable {S A : Type*} {step : S → A → Option S} {C : S → A → Prop}

/-- The cost of a run along these actions, up to one that is refused. The price of an action may
depend on the state it is taken in, as the effect of a suspended program does. -/
def spent (step : S → A → Option S) (cost : S → A → ℕ) : S → List A → ℕ
  | _, [] => 0
  | s, a :: as =>
    match step s a with
    | some t => cost s a + spent step cost t as
    | none => 0

/-- **The rule for amortised costs.** `P s k` says that in the state `s` the amount `k` is kept
back. When every step is paid for by what it earns and what it keeps back less, so is every run. The
amount is chosen anew at every step, so `P` may bound it from one side only. -/
theorem Steps.spent_le {cost : S → A → ℕ} {P : S → ℕ → Prop} {earned : S → ℕ}
    (hP : ∀ s a t k, P s k → C s a → step s a = some t →
      ∃ k', P t k' ∧ cost s a + k' + earned s ≤ k + earned t)
    {s t : S} {as : List A} (h : Steps step C s as t) {k : ℕ} (hs : P s k) :
    ∃ k', P t k' ∧ spent step cost s as + k' + earned s ≤ k + earned t := by
  induction h generalizing k with
  | nil s => exact ⟨k, hs, by rw [spent, Nat.zero_add]⟩
  | @cons s t u a as hC hstep _ ih =>
    obtain ⟨k₁, ht, hle⟩ := hP _ _ _ _ hs hC hstep
    obtain ⟨k₂, hu, hle'⟩ := ih ht
    refine ⟨k₂, hu, ?_⟩
    rw [spent, hstep]
    dsimp only
    omega

end Machine

namespace StopAndWait

variable {ε σ α β : Type}

/-- What the effects of a program cost; a wait is paid for by its timeout, and `ret` is the price of
returning. Prices are arbitrary, so that one bound covers the number of frames, of waits, or of
milliseconds. -/
structure Prices where
  ret : ℕ
  reset : ℕ
  send : ℕ
  take : ℕ → ℕ

/-- The price of one attempt to send a frame. -/
def Prices.attempt (c : Prices) (timeoutMs : ℕ) : ℕ := c.reset + c.send + c.take timeoutMs

/-- The price of the next effect, which is the one that a suspended program does when it goes on. -/
def Proc.price (c : Prices) : Proc ε σ α → ℕ
  | .ret _ => c.ret
  | .reset _ => c.reset
  | .send _ _ => c.send
  | .take t _ => c.take t

/-- The program costs at most `n`, whatever it is answered. The budget left over goes on to the rest
of the program, so a program suspended in the middle is within what it has not spent. -/
def Proc.Within (c : Prices) : Proc ε σ α → ℕ → Prop
  | .ret _, n => c.ret ≤ n
  | .reset k, n => c.reset ≤ n ∧ k.Within c (n - c.reset)
  | .send _ k, n => c.send ≤ n ∧ ∀ r, (k r).Within c (n - c.send)
  | .take t k, n => c.take t ≤ n ∧ ∀ r, (k r).Within c (n - c.take t)

section Within

variable {c : Prices} {p : Proc ε σ α} {n m : ℕ}

/-- The next effect is paid for by the budget. -/
theorem Proc.Within.price_le (h : p.Within c n) : p.price c ≤ n := by
  cases p with
  | ret => exact h
  | _ => exact h.1

/-- A program that stays within a budget stays within a larger one. -/
theorem Proc.Within.mono (h : p.Within c n) (hle : n ≤ m) : p.Within c m := by
  induction p generalizing n m with
  | ret a => exact le_trans h hle
  | reset k ih => exact ⟨h.1.trans hle, ih h.2 (Nat.sub_le_sub_right hle _)⟩
  | send x k ih => exact ⟨h.1.trans hle, fun r => ih r (h.2 r) (Nat.sub_le_sub_right hle _)⟩
  | take t k ih => exact ⟨h.1.trans hle, fun r => ih r (h.2 r) (Nat.sub_le_sub_right hle _)⟩

/-- One program after the other costs what both do together. Only the second one returns to the
caller, so the first is taken at a price of 0 for returning. -/
theorem Proc.Within.bind (h : p.Within { c with ret := 0 } n) {f : α → Proc ε σ β}
    (hf : ∀ a, (f a).Within c m) : (p.bind f).Within c (n + m) := by
  -- What is left of both budgets is what is left of the first one, and the second one.
  have hsub : ∀ {u : ℕ}, u ≤ n → n - u + m = n + m - u := fun hu => by omega
  induction p generalizing n with
  | ret a => exact (hf a).mono (Nat.le_add_left m n)
  | reset k ih =>
    obtain ⟨hle, hk⟩ := h
    refine ⟨Nat.le_add_right_of_le hle, ?_⟩
    rw [← hsub hle]
    exact ih hk fun hu => by omega
  | send x k ih =>
    obtain ⟨hle, hk⟩ := h
    refine ⟨Nat.le_add_right_of_le hle, fun r => ?_⟩
    rw [← hsub hle]
    exact ih r (hk r) fun hu => by omega
  | take t k ih =>
    obtain ⟨hle, hk⟩ := h
    refine ⟨Nat.le_add_right_of_le hle, fun r => ?_⟩
    rw [← hsub hle]
    exact ih r (hk r) fun hu => by omega

end Within

/-- A frame costs at most its attempts, whether they succeed or not. -/
theorem sendWithRetry_within (c : Prices) (timeoutMs : ℕ) (x : σ) (n : ℕ) (last : Status ε) :
    (sendWithRetry timeoutMs x n last).Within c (n * c.attempt timeoutMs + c.ret) := by
  -- By induction on the attempts left; `last` is the result of the one before.
  induction n generalizing last with
  | zero => exact Nat.le_add_left _ _
  | succ n ih =>
    have hattempt : (n + 1) * c.attempt timeoutMs + c.ret =
        c.reset + (c.send + (c.take timeoutMs + (n * c.attempt timeoutMs + c.ret))) := by
      unfold Prices.attempt
      ring
    rw [hattempt]
    refine ⟨Nat.le_add_right _ _, ?_⟩
    rw [Nat.add_sub_cancel_left]
    refine ⟨Nat.le_add_right _ _, fun r => ?_⟩
    rw [Nat.add_sub_cancel_left]
    have hret : c.ret ≤ n * c.attempt timeoutMs + c.ret := Nat.le_add_left _ _
    cases r with
    | err e => exact Nat.le_add_left_of_le hret
    | ok =>
      refine ⟨Nat.le_add_right _ _, fun r => ?_⟩
      rw [Nat.add_sub_cancel_left]
      cases r with
      | ok => exact hret
      | err e => exact ih (.err e)

/-- **A transfer costs at most all attempts for all frames,** whatever the answers are. A frame that
is given up ends the transfer, so the bound is reached only when every frame needs its last
attempt. -/
theorem transfer_within (c : Prices) (attempts timeoutMs : ℕ) (xs : List σ) :
    (transfer attempts timeoutMs xs : Proc ε σ (Status ε)).Within c
      (xs.length * (attempts * c.attempt timeoutMs) + c.ret) := by
  induction xs with
  | nil => exact Nat.le_add_left _ _
  | cons x xs ih =>
    have hcons : (x :: xs).length * (attempts * c.attempt timeoutMs) + c.ret =
        attempts * c.attempt timeoutMs +
          (xs.length * (attempts * c.attempt timeoutMs) + c.ret) := by
      rw [List.length_cons]
      ring
    rw [hcons]
    refine (sendWithRetry_within { c with ret := 0 } timeoutMs x attempts .ok).bind fun r => ?_
    cases r with
    | ok => exact ih
    | err e => exact Nat.le_add_left _ _

end StopAndWait
