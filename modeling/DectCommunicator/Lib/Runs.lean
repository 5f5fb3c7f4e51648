import Mathlib.Data.List.Basic

/-!
# Runs of machines

Two kinds of machine and the induction rules for their runs.

* A *guarded* machine `step : S → A → Option S` answers an action with its successor state, or
  refuses it. `Steps step C s as s'` is a run from `s` to `s'` along the actions `as` in which
  every action met the side condition `C` in the state it was taken in; `Steps.invariant` is the
  induction rule, `Steps.length_le` bounds the length of a run by the work to be done,
  `Steps.history` collects what the steps append, and `checkRun` evaluates a concrete run together
  with its side conditions.
* A *transducer* `step : S → A → S × List O` accepts every action and emits outputs. `runs` is the
  state after a list of inputs and `outputs` everything emitted on the way; `outputs_forall` lifts
  a property of single steps to all the outputs of a run, and `outputs_range` computes the outputs
  of a run through numbered stages.
-/

namespace Machine

section Guarded

variable {S A : Type*}

/-- A run in which every action meets the side condition `C` in the state it is taken in. The
condition is part of the run and not of the machine, so that one machine serves results under
different conditions, and `Steps.mono` passes from one to the other. -/
inductive Steps (step : S → A → Option S) (C : S → A → Prop) : S → List A → S → Prop
  | nil (s : S) : Steps step C s [] s
  | cons {s t u : S} {a : A} {as : List A} (hC : C s a) (hstep : step s a = some t)
      (hrest : Steps step C t as u) : Steps step C s (a :: as) u

variable {step : S → A → Option S} {C : S → A → Prop}

/-- **The induction rule.** What every admitted step preserves holds at the end of the run, if it
holds at the beginning. A step lemma need not speak of runs, and may use `C` in the state before the
step. -/
theorem Steps.invariant {P : S → Prop}
    (hP : ∀ s a t, P s → C s a → step s a = some t → P t)
    {s t : S} {as : List A} (h : Steps step C s as t) (hs : P s) : P t := by
  induction h with
  | nil s => exact hs
  | cons hC hstep _ ih => exact ih (hP _ _ _ hs hC hstep)

/-- **The rule for termination.** When every admitted step does some of the work, a run has no more
steps than there is work. -/
theorem Steps.length_le {P : S → Prop} {work : S → ℕ}
    (hP : ∀ s a t, P s → C s a → step s a = some t → P t ∧ work t < work s)
    {s t : S} {as : List A} (h : Steps step C s as t) (hs : P s) : as.length ≤ work s := by
  induction h with
  | nil s => exact Nat.zero_le _
  | cons hC hstep _ ih =>
    obtain ⟨ht, hlt⟩ := hP _ _ _ hs hC hstep
    exact Nat.lt_of_le_of_lt (ih ht) hlt

/-- **The rule for histories.** What every step appends to a list is in the end what the actions
append one after the other, whatever the states on the way were. It connects a component that only
records something with the inputs that were fed into the machine. -/
theorem Steps.history {α : Type*} {f : S → List α} {g : A → List α}
    (hf : ∀ s a t, C s a → step s a = some t → f t = f s ++ g a)
    {s t : S} {as : List A} (h : Steps step C s as t) : f t = f s ++ as.flatMap g := by
  induction h with
  | nil s => exact (List.append_nil _).symm
  | cons hC hstep _ ih => rw [ih, hf _ _ _ hC hstep, List.flatMap_cons, List.append_assoc]

/-- A run under a condition is also one under a weaker condition, with the same actions and the same
states. -/
theorem Steps.mono {D : S → A → Prop} (hCD : ∀ s a, C s a → D s a) {s t : S} {as : List A}
    (h : Steps step C s as t) : Steps step D s as t := by
  induction h with
  | nil s => exact .nil s
  | cons hC hstep _ ih => exact .cons (hCD _ _ hC) hstep ih

/-- Every action of a run is one of its actions. This adds nothing to the run, but lets a step lemma
refer to the list of all actions, for example to the largest clock reading in it. -/
theorem Steps.mem {s t : S} {as : List A} (h : Steps step C s as t) :
    Steps step (fun s a => C s a ∧ a ∈ as) s as t := by
  -- The tail may use its own actions only, so its condition is weakened to the whole list.
  induction h with
  | nil s => exact .nil s
  | cons hC hstep _ ih =>
    exact .cons ⟨hC, List.mem_cons_self⟩ hstep
      (ih.mono fun _ _ hb => ⟨hb.1, List.mem_cons_of_mem _ hb.2⟩)

/-- In a run either every action meets a further condition, or there is a first that does not. Then
the actions before it form a run under both conditions, and the state it is taken in is known. -/
theorem Steps.split (D : S → A → Prop) {s t : S} {as : List A} (h : Steps step C s as t) :
    Steps step (fun s a => C s a ∧ D s a) s as t ∨
      ∃ before a behind u, as = before ++ a :: behind ∧
        Steps step (fun s a => C s a ∧ D s a) s before u ∧ C u a ∧ ¬ D u a := by
  induction h with
  | nil s => exact .inl (.nil s)
  | @cons s t u a as hC hstep hrest ih =>
    by_cases hD : D s a
    · rcases ih with hall | ⟨before, b, behind, v, rfl, hbefore, hb, hnot⟩
      · exact .inl (.cons ⟨hC, hD⟩ hstep hall)
      · exact .inr ⟨a :: before, b, behind, v, rfl, .cons ⟨hC, hD⟩ hstep hbefore, hb, hnot⟩
    · exact .inr ⟨[], a, as, s, rfl, .nil s, hC, hD⟩

/-- Evaluate a run, failing where the machine refuses or the side condition does not hold. With
`steps_of_checkRun`, a concrete run becomes a computation instead of a nest of `Steps.cons`. -/
def checkRun (step : S → A → Option S) (C : S → A → Prop) [∀ s a, Decidable (C s a)] :
    S → List A → Option S
  | s, [] => some s
  | s, a :: as =>
    if C s a then
      match step s a with
      | some t => checkRun step C t as
      | none => none
    else none

/-- A successful evaluation is a run, under the side condition that was checked on the way. -/
theorem steps_of_checkRun [∀ s a, Decidable (C s a)] {as : List A} {s t : S}
    (h : checkRun step C s as = some t) : Steps step C s as t := by
  induction as generalizing s with
  | nil =>
    obtain rfl := Option.some.inj h
    exact .nil s
  | cons a as ih =>
    rw [checkRun] at h
    split at h
    · next hC =>
      cases hs : step s a with
      | none => rw [hs] at h; cases h
      | some u => rw [hs] at h; exact .cons hC hs (ih h)
    · cases h

end Guarded

section Transducer

variable {S A O : Type*}

/-- The state after a list of inputs, the outputs being left out. -/
def runs (step : S → A → S × List O) (s : S) (as : List A) : S :=
  as.foldl (fun s a => (step s a).1) s

/-- Everything emitted along a list of inputs, in order. It is defined by recursion from the front,
as the induction rules take an input away there, too. -/
def outputs (step : S → A → S × List O) : S → List A → List O
  | _, [] => []
  | s, a :: as => (step s a).2 ++ outputs step (step s a).1 as

variable {step : S → A → S × List O}

@[simp] theorem runs_nil (s : S) : runs step s [] = s := rfl

@[simp] theorem runs_cons (s : S) (a : A) (as : List A) :
    runs step s (a :: as) = runs step (step s a).1 as := rfl

@[simp] theorem outputs_nil (s : S) : outputs step s [] = [] := rfl

@[simp] theorem outputs_cons (s : S) (a : A) (as : List A) :
    outputs step s (a :: as) = (step s a).2 ++ outputs step (step s a).1 as := rfl

/-- Translating the inputs first is the same as running the machine that translates them itself. -/
theorem outputs_map {B : Type*} (g : B → A) (s : S) (bs : List B) :
    outputs step s (bs.map g) = outputs (fun s b => step s (g b)) s bs := by
  induction bs generalizing s with
  | nil => rfl
  | cons b bs ih => rw [List.map_cons, outputs_cons, outputs_cons, ih]

/-- **The rule for lockstep simulation.** Two machines that emit the same in related states, and
stay related, emit the same along every list of inputs. -/
theorem outputs_simulation {S' : Type*} {step' : S' → A → S' × List O} {R : S → S' → Prop}
    (hR : ∀ s s' a, R s s' → (step s a).2 = (step' s' a).2 ∧ R (step s a).1 (step' s' a).1)
    {s : S} {s' : S'} (as : List A) (hs : R s s') :
    outputs step s as = outputs step' s' as ∧ R (runs step s as) (runs step' s' as) := by
  induction as generalizing s s' with
  | nil => exact ⟨rfl, hs⟩
  | cons a as ih =>
    obtain ⟨hout, hnext⟩ := hR s s' a hs
    obtain ⟨houts, hruns⟩ := ih hnext
    refine ⟨?_, hruns⟩
    rw [outputs_cons, outputs_cons, hout, houts]

/-- What every step under `C` preserves holds after the run. Here `C` is a condition on the input
alone, as a transducer cannot refuse it. -/
theorem runs_invariant {P : S → Prop} {C : A → Prop} (hP : ∀ s a, P s → C a → P (step s a).1)
    {s : S} {as : List A} (hC : ∀ a ∈ as, C a) (hs : P s) : P (runs step s as) := by
  induction as generalizing s with
  | nil => exact hs
  | cons a as ih =>
    exact ih (fun b hb => hC b (List.mem_cons_of_mem _ hb))
      (hP s a hs (hC a List.mem_cons_self))

/-- What holds of every output of a step taken under the invariant holds of every output of the
run. -/
theorem outputs_forall {P : S → Prop} {C : A → Prop} {Q : O → Prop}
    (hP : ∀ s a, P s → C a → P (step s a).1) (hQ : ∀ s a, P s → C a → ∀ o ∈ (step s a).2, Q o)
    {s : S} {as : List A} (hC : ∀ a ∈ as, C a) (hs : P s) : ∀ o ∈ outputs step s as, Q o := by
  induction as generalizing s with
  | nil => intro o ho; exact absurd ho List.not_mem_nil
  | cons a as ih =>
    intro o ho
    have ha := hC a List.mem_cons_self
    rcases List.mem_append.mp ho with ho | ho
    · exact hQ s a hs ha o ho
    · exact ih (fun b hb => hC b (List.mem_cons_of_mem _ hb)) (hP s a hs ha) o ho

/-- **The rule for accumulated outputs.** A property of a state and of everything emitted so far
holds at the end of the run when every step preserves it, with what it emits added. `outputs_forall`
is not enough where a later state answers for an earlier output. -/
theorem runs_outputs_invariant {P : S → List O → Prop}
    (hP : ∀ s out a, P s out → P (step s a).1 (out ++ (step s a).2)) {s : S} {out : List O}
    (as : List A) (hs : P s out) : P (runs step s as) (out ++ outputs step s as) := by
  induction as generalizing s out with
  | nil =>
    rw [outputs_nil, List.append_nil]
    exact hs
  | cons a as ih =>
    -- The output of the first input belongs to what has been emitted when the rest of the run
    -- begins.
    rw [outputs_cons, ← List.append_assoc]
    exact ih (hP s out a hs)

/-- **The rule for numbered inputs.** When `P i` holds before input `i`, determines what it emits
and leads to `P (i + 1)`, the outputs of the inputs `0, …, n - 1` are the ones determined. -/
theorem outputs_range {step : S → ℕ → S × List O} {n : ℕ} {P : ℕ → S → Prop} {out : ℕ → List O}
    (hP : ∀ i s, i < n → P i s → (step s i).2 = out i ∧ (i + 1 < n → P (i + 1) (step s i).1))
    {s : S} (hs : P 0 s) : outputs step s (List.range n) = (List.range n).flatMap out := by
  have hrun : ∀ k i s, i + k = n → (0 < k → P i s) →
      outputs step s (List.range' i k) = (List.range' i k).flatMap out := by
    intro k
    induction k with
    | zero => intro i s _ _; rfl
    | succ k ih =>
      intro i s hn hs
      obtain ⟨hout, hnext⟩ := hP i s (by omega) (hs (Nat.succ_pos k))
      rw [List.range'_succ, outputs_cons, List.flatMap_cons, hout,
        ih (i + 1) _ (by omega) fun hk => hnext (by omega)]
  rw [List.range_eq_range']
  exact hrun n 0 s (Nat.zero_add n) fun _ => hs

end Transducer

end Machine
