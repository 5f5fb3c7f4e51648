import Mathlib.Data.List.Basic

/-!
# Stop-and-wait senders

A sender that keeps one frame outstanding and counts acknowledgements with a semaphore is a
program over three effects: reset the semaphore, hand a frame to the medium, and take the
semaphore with a timeout. `Proc` is the type of such programs; a blocking call is its
continuation, so the same program can be run to its end by a `Handler` or left suspended in the
middle of a run of a larger system.

* `sendWithRetry` — one frame: up to a number of attempts, each resetting the semaphore, sending
  the frame and waiting for the semaphore.
* `transfer` — a list of frames, each sent with retries, stopping at the first failure.
* `At` — where a suspended `transfer` can be. `At.ready`, `At.sending` and `At.waiting` invert it:
  each says which effect comes next and where the program stands after each answer.
* `Proc.SendsOnly` — what a program may send, whatever it is answered.
* `Proc.exec` — the run of a program under a handler: `exec_bind` for its structure,
  `exec_invariant` for what all effects preserve.
-/

namespace StopAndWait

/-- The outcome of an operation: success, or an error. It is the result of a single effect as well
as that of a whole transfer. -/
inductive Status (ε : Type) where
  | ok
  | err (e : ε)
deriving DecidableEq, Repr

/-- Programs over the three effects of a stop-and-wait sender. A blocking call is the function of
its answer, so that whoever runs the program decides when the call returns and with what. -/
inductive Proc (ε σ α : Type) where
  | ret (a : α)
  | reset (k : Proc ε σ α)
  | send (x : σ) (k : Status ε → Proc ε σ α)
  | take (timeoutMs : ℕ) (k : Status ε → Proc ε σ α)

variable {ε σ α β τ : Type}

/-- Sequencing: what the first program returns is handed to the second one. -/
def Proc.bind : Proc ε σ α → (α → Proc ε σ β) → Proc ε σ β
  | .ret a, f => f a
  | .reset k, f => .reset (k.bind f)
  | .send x k, f => .send x fun r => (k r).bind f
  | .take t k, f => .take t fun r => (k r).bind f

/-! ### The retry loop -/

/-- Send one frame, at most `n` times; `last` is the status to report when no attempt is left. Only
a wait that times out leads to another attempt: an error of the medium is reported at once. -/
def sendWithRetry (timeoutMs : ℕ) (x : σ) : ℕ → Status ε → Proc ε σ (Status ε)
  | 0, last => .ret last
  | n + 1, _ =>
    .reset <| .send x fun
      | .err e => .ret (.err e)
      | .ok => .take timeoutMs fun
        | .ok => .ret .ok
        | .err e => sendWithRetry timeoutMs x n (.err e)

/-- Send the frames in order, each with retries, up to the first failure. Nothing is sent behind a
frame that was not acknowledged. -/
def transfer (attempts timeoutMs : ℕ) : List σ → Proc ε σ (Status ε)
  | [] => .ret .ok
  | x :: xs =>
    (sendWithRetry timeoutMs x attempts .ok).bind fun
      | .ok => transfer attempts timeoutMs xs
      | .err e => .ret (.err e)

/-! ### Where a suspended transfer stands -/

/-- The three points at which a transfer is suspended within one attempt, in the order in which they
are passed. -/
inductive Phase where
  /-- about to reset the semaphore -/
  | ready
  /-- about to hand the frame to the medium -/
  | sending
  /-- waiting for the semaphore -/
  | waiting
deriving DecidableEq, Repr

/-- `At φ xs p`: the program `p` is a transfer in phase `φ` with the frames `xs` left, the head of
`xs` being the frame in hand. How many attempts are left for it is not recorded: nothing that is
proved of a suspended transfer depends on it. -/
inductive At (attempts timeoutMs : ℕ) : Phase → List σ → Proc ε σ (Status ε) → Prop
  | ready (n : ℕ) (r : Status ε) (x : σ) (xs : List σ) :
      At attempts timeoutMs .ready (x :: xs)
        ((sendWithRetry timeoutMs x (n + 1) r).bind fun
          | .ok => transfer attempts timeoutMs xs
          | .err e => .ret (.err e))
  | sending (n : ℕ) (x : σ) (xs : List σ) :
      At attempts timeoutMs .sending (x :: xs)
        (Proc.bind (.send x fun
          | .err e => .ret (.err e)
          | .ok => .take timeoutMs fun
            | .ok => .ret .ok
            | .err e => sendWithRetry timeoutMs x n (.err e)) fun
          | .ok => transfer attempts timeoutMs xs
          | .err e => .ret (.err e))
  | waiting (n : ℕ) (x : σ) (xs : List σ) :
      At attempts timeoutMs .waiting (x :: xs)
        (Proc.bind (.take timeoutMs fun
          | .ok => .ret .ok
          | .err e => sendWithRetry timeoutMs x n (.err e)) fun
          | .ok => transfer attempts timeoutMs xs
          | .err e => .ret (.err e))

section Suspended

variable {attempts timeoutMs : ℕ} {x : σ} {xs : List σ} {p : Proc ε σ (Status ε)}

/-- A transfer without frames has succeeded. -/
@[simp] theorem transfer_nil :
    (transfer attempts timeoutMs [] : Proc ε σ (Status ε)) = .ret .ok := rfl

/-- A transfer with a frame left starts by resetting the semaphore, provided that there are attempts
at all. -/
theorem at_transfer (h : 0 < attempts) :
    At attempts timeoutMs .ready (x :: xs)
      (transfer attempts timeoutMs (x :: xs) : Proc ε σ (Status ε)) := by
  obtain ⟨n, rfl⟩ := Nat.exists_eq_add_one.mpr h
  exact .ready n .ok x xs

/-- Before an attempt the program can only reset the semaphore, and then sends the frame in hand. -/
theorem At.of_ready (h : At attempts timeoutMs .ready (x :: xs) p) :
    ∃ k, p = .reset k ∧ At attempts timeoutMs .sending (x :: xs) k := by
  cases h with
  | ready n r => exact ⟨_, rfl, .sending n x xs⟩

/-- When the medium takes the frame the program waits for the semaphore. When it refuses the frame
the transfer fails with the error of the medium. -/
theorem At.of_sending (h : At attempts timeoutMs .sending (x :: xs) p) :
    ∃ k, p = .send x k ∧ At attempts timeoutMs .waiting (x :: xs) (k .ok) ∧
      ∀ e, k (.err e) = .ret (.err e) := by
  cases h with
  | sending n => exact ⟨_, rfl, .waiting n x xs, fun _ => rfl⟩

/-- After the wait, success moves to the next frame; a timeout repeats the attempt or, when none is
left, reports the error. Which of the two it is is left open, as `At` does not count attempts. -/
theorem At.of_waiting (h : At attempts timeoutMs .waiting (x :: xs) p) :
    ∃ k, p = .take timeoutMs k ∧ k .ok = transfer attempts timeoutMs xs ∧
      ∀ e, k (.err e) = .ret (.err e) ∨ At attempts timeoutMs .ready (x :: xs) (k (.err e)) := by
  cases h with
  | waiting n =>
    refine ⟨_, rfl, rfl, fun e => ?_⟩
    cases n with
    | zero => exact Or.inl rfl
    | succ n => exact Or.inr (.ready n (.err e) x xs)

end Suspended

/-! ### What a program may send -/

/-- Every frame that the program sends, after any answers, has the property. It is a statement about
the program alone, and stays true of what is left while the program runs. -/
def Proc.SendsOnly (S : σ → Prop) : Proc ε σ α → Prop
  | .ret _ => True
  | .reset k => k.SendsOnly S
  | .send x k => S x ∧ ∀ r, (k r).SendsOnly S
  | .take _ k => ∀ r, (k r).SendsOnly S

section SendsOnly

variable {S : σ → Prop}

/-- Two programs that only send frames with the property do so one after the other. -/
theorem Proc.SendsOnly.bind {p : Proc ε σ α} (h : p.SendsOnly S) {f : α → Proc ε σ β}
    (hf : ∀ a, (f a).SendsOnly S) : (p.bind f).SendsOnly S := by
  induction p with
  | ret a => exact hf a
  | reset k ih => exact ih h
  | send x k ih => exact ⟨h.1, fun r => ih r (h.2 r)⟩
  | take t k ih => exact fun r => ih r (h r)

/-- A side that has begun `k`, or goes on with it, sends what `k` may send. An invariant is about the
program that a side is in, if it is in one, and this is how that is shown after a step. -/
theorem Proc.SendsOnly.running {γ : Type} {c : γ} {k : Proc ε σ α} (h : k.SendsOnly S) :
    ∀ c' q, some (c, k) = some (c', q) → q.SendsOnly S := by
  intro c' q hq
  obtain ⟨-, rfl⟩ := Prod.mk.inj (Option.some.inj hq)
  exact h

/-- The retry loop sends its frame and nothing else. -/
theorem sendWithRetry_sendsOnly {x : σ} (hx : S x) (timeoutMs n : ℕ) (last : Status ε) :
    (sendWithRetry timeoutMs x n last).SendsOnly S := by
  -- By induction on the attempts left, with any status to report.
  induction n generalizing last with
  | zero => trivial
  | succ n ih =>
    refine ⟨hx, fun r => ?_⟩
    cases r with
    | err e => trivial
    | ok =>
      intro r
      cases r with
      | ok => trivial
      | err e => exact ih (.err e)

/-- A transfer sends nothing but its frames. -/
theorem transfer_sendsOnly {attempts timeoutMs : ℕ} {xs : List σ} (hxs : ∀ x ∈ xs, S x) :
    (transfer attempts timeoutMs xs : Proc ε σ (Status ε)).SendsOnly S := by
  induction xs with
  | nil => trivial
  | cons x xs ih =>
    obtain ⟨hx, hxs⟩ := List.forall_mem_cons.mp hxs
    refine (sendWithRetry_sendsOnly hx _ _ _).bind fun r => ?_
    cases r with
    | ok => exact ih hxs
    | err e => trivial

end SendsOnly

/-! ### Running a program to its end -/

/-- Answers to the three effects over a state `τ`, which stands for the whole of the
surroundings. -/
structure Handler (ε σ τ : Type) where
  reset : τ → τ
  send : σ → τ → Status ε × τ
  take : ℕ → τ → Status ε × τ

/-- The run of a program under a handler: what it returns, and the state in the end. -/
def Proc.exec (h : Handler ε σ τ) : Proc ε σ α → τ → α × τ
  | .ret a, s => (a, s)
  | .reset k, s => k.exec h (h.reset s)
  | .send x k, s => (k (h.send x s).1).exec h (h.send x s).2
  | .take t k, s => (k (h.take t s).1).exec h (h.take t s).2

/-- The run of a sequence is the run of the second program from where the first one ended. -/
theorem exec_bind (h : Handler ε σ τ) (p : Proc ε σ α) (f : α → Proc ε σ β) (s : τ) :
    (p.bind f).exec h s = (f (p.exec h s).1).exec h (p.exec h s).2 := by
  induction p generalizing s with
  | ret a => rfl
  | reset k ih => exact ih _
  | send x k ih => exact ih _ _
  | take t k ih => exact ih _ _

/-- The run of a transfer is that of the retry loop for its first frame, followed by the rest when
this succeeds. -/
theorem exec_transfer_cons (h : Handler ε σ τ) (attempts timeoutMs : ℕ) (x : σ) (xs : List σ)
    (s : τ) :
    (transfer attempts timeoutMs (x :: xs)).exec h s =
      match (sendWithRetry timeoutMs x attempts .ok).exec h s with
      | (.ok, s') => (transfer attempts timeoutMs xs).exec h s'
      | (.err e, s') => (.err e, s') := by
  rw [transfer, exec_bind]
  rcases (sendWithRetry timeoutMs x attempts Status.ok).exec h s with ⟨_ | e, s'⟩ <;> rfl

/-- One attempt of the retry loop, with the three ways in which it can end. -/
theorem exec_sendWithRetry_succ (h : Handler ε σ τ) (timeoutMs : ℕ) (x : σ) (n : ℕ)
    (last : Status ε) (s : τ) :
    (sendWithRetry timeoutMs x (n + 1) last).exec h s =
      match h.send x (h.reset s) with
      | (.err e, s') => (.err e, s')
      | (.ok, s') =>
        match h.take timeoutMs s' with
        | (.ok, s'') => (.ok, s'')
        | (.err e, s'') => (sendWithRetry timeoutMs x n (.err e)).exec h s'' := by
  rw [sendWithRetry, Proc.exec, Proc.exec]
  rcases h.send x (h.reset s) with ⟨_ | e, s'⟩
  · dsimp only [Proc.exec]
    rcases h.take timeoutMs s' with ⟨_ | e, s''⟩ <;> rfl
  · rfl

/-- What every effect preserves is preserved by the run of any program. -/
theorem exec_invariant {P : τ → Prop} {h : Handler ε σ τ} (hreset : ∀ s, P s → P (h.reset s))
    (hsend : ∀ x s, P s → P (h.send x s).2) (htake : ∀ t s, P s → P (h.take t s).2)
    (p : Proc ε σ α) {s : τ} (hs : P s) : P (p.exec h s).2 := by
  induction p generalizing s with
  | ret a => exact hs
  | reset k ih => exact ih (hreset s hs)
  | send x k ih => exact ih _ (hsend x s hs)
  | take t k ih => exact ih _ (htake t s hs)

/-! ### The frames of an undisturbed transfer -/

/-- The handler of a medium that loses nothing: it records the frames, and every wait succeeds. -/
def recorder : Handler ε σ (List σ) where
  reset := id
  send x sent := (.ok, sent ++ [x])
  take _ sent := (.ok, sent)

/-- The frames a program sends when every wait is answered, that is, when nothing is ever
repeated. -/
def Proc.sends (p : Proc ε σ α) : List σ := (p.exec recorder []).2

/-- On a medium that loses nothing a transfer succeeds, and every frame takes one attempt. -/
theorem exec_recorder_transfer {attempts : ℕ} (h : 0 < attempts) (timeoutMs : ℕ) (xs sent : List σ) :
    (transfer attempts timeoutMs xs : Proc ε σ (Status ε)).exec recorder sent
      = (.ok, sent ++ xs) := by
  obtain ⟨n, rfl⟩ := Nat.exists_eq_add_one.mpr h
  induction xs generalizing sent with
  | nil => simp [Proc.exec]
  | cons x xs ih =>
    -- One attempt is enough, whatever the number of attempts.
    have hone : (sendWithRetry timeoutMs x (n + 1) .ok : Proc ε σ (Status ε)).exec recorder sent
        = (.ok, sent ++ [x]) := rfl
    rw [exec_transfer_cons, hone]
    simpa using ih (sent ++ [x])

/-- An undisturbed transfer sends every frame once, in order. -/
theorem sends_transfer {attempts : ℕ} (h : 0 < attempts) (timeoutMs : ℕ) (xs : List σ) :
    (transfer attempts timeoutMs xs : Proc ε σ (Status ε)).sends = xs := by
  rw [Proc.sends, exec_recorder_transfer h]
  rfl

end StopAndWait
