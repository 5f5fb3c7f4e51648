import Mathlib.Data.List.Basic

/-!
# Readers of a message

A program that is handed a message reads ranges of its data and the attributes stored beside it, and
makes calls with what it has read. `Prog` is the type of such programs: a read is its continuation,
so a program can be left suspended between two reads while the rest of the system goes on.

* `Safe m Q p` — on the message `m`, every read of `p` lies within the data and every call meets
  `Q`, whatever the reads before it were: `Safe` follows the program with the values that `m` gives.
  `Safe.step` carries it from one statement to the next, and `Safe.andThen` to a sequence.
* `run m p` — the calls of `p` on `m`.
-/

namespace Reader

/-- A message as a reader gets it: its data and the attributes beside it, which take no part of the
data. -/
structure Packet (V A : Type) where
  data : List V
  attr : A
deriving DecidableEq, Repr

variable {V A O : Type}

/-- The `len` items of the data from `offset` on. Behind the end there are fewer, which a safe
reader never sees. -/
def Packet.slice (m : Packet V A) (offset len : ℕ) : List V := (m.data.drop offset).take len

/-- Programs that read a message. A continuation receives what was read, so later offsets and calls
may depend on it. -/
inductive Prog (V A O : Type) where
  | done
  | read (offset len : ℕ) (k : List V → Prog V A O)
  | load (k : A → Prog V A O)
  | call (o : O) (k : Prog V A O)

namespace Prog

/-- One program and then the other, on the same message. Nothing is handed over from the first. -/
def andThen : Prog V A O → Prog V A O → Prog V A O
  | .done, q => q
  | .read offset len k, q => .read offset len fun bs => (k bs).andThen q
  | .load k, q => .load fun a => (k a).andThen q
  | .call o k, q => .call o (k.andThen q)

/-- The next statement, executed on the message `m`. A finished program has none. -/
def step (m : Packet V A) : Prog V A O → Option (Prog V A O)
  | .done => none
  | .read offset len k => some (k (m.slice offset len))
  | .load k => some (k m.attr)
  | .call _ k => some k

/-- The calls made on the message `m`, in order. The reads leave no trace. -/
def run (m : Packet V A) : Prog V A O → List O
  | .done => []
  | .read offset len k => (k (m.slice offset len)).run m
  | .load k => (k m.attr).run m
  | .call o k => o :: k.run m

/-- Every read lies within the data, and every call meets `Q`. Only the values that `m` gives are
followed, so a branch that `m` does not take may be unsafe. -/
def Safe (m : Packet V A) (Q : O → Prop) : Prog V A O → Prop
  | .done => True
  | .read offset len k => offset + len ≤ m.data.length ∧ (k (m.slice offset len)).Safe m Q
  | .load k => (k m.attr).Safe m Q
  | .call o k => Q o ∧ k.Safe m Q

variable {m : Packet V A} {Q : O → Prop}

/-- The calls of a sequence are those of its parts, one after the other. -/
theorem run_andThen (p q : Prog V A O) : (p.andThen q).run m = p.run m ++ q.run m := by
  induction p with
  | done => rfl
  | read offset len k ih => exact ih (m.slice offset len)
  | load k ih => exact ih m.attr
  | call o k ih => exact congrArg (o :: ·) ih

/-- A sequence of safe programs is safe. -/
theorem Safe.andThen {p q : Prog V A O} (hp : p.Safe m Q) (hq : q.Safe m Q) :
    (p.andThen q).Safe m Q := by
  induction p with
  | done => exact hq
  | read offset len k ih => exact ⟨hp.1, ih (m.slice offset len) hp.2⟩
  | load k ih => exact ih m.attr hp
  | call o k ih => exact ⟨hp.1, ih hp.2⟩

/-- **The step.** What is left of a safe program is safe, on the message it was started on. A
suspended program therefore stays safe as long as nobody changes the message under it. -/
theorem Safe.step {p q : Prog V A O} (hp : p.Safe m Q) (hstep : p.step m = some q) :
    q.Safe m Q := by
  cases p with
  | done => cases hstep
  | read offset len k =>
    obtain rfl := Option.some.inj hstep
    exact hp.2
  | load k =>
    obtain rfl := Option.some.inj hstep
    exact hp
  | call o k =>
    obtain rfl := Option.some.inj hstep
    exact hp.2

end Prog

end Reader
