import DectCommunicator.Lib.Cost

/-!
# Repetitions on a channel that keeps the order

A stop-and-wait sender repeats a frame until it is acknowledged and never goes back to an earlier
one. On a channel that keeps the order a receiver sees the same: copies of the first frame, then
copies of the second one, and so on. A receiver that begins with the first frame and is done with
the last one is therefore done at most once, although nothing tells it that a frame is a copy. Only
when there is a single frame every copy of it is a whole message.

* `Proc.Ascends` says that a program never goes back, in terms of a rank of its frames.
* `sendPrices` counts what a program can still send.
* `Repeats` is the invariant of a transfer, its channel and its receiver. It has a rule for each
  step, `Repeats.send` and `Repeats.arrive` being the ones in which something happens, and
  `Repeats.done_le` is what it is for.
-/

namespace StopAndWait

variable {ε σ α β : Type}

/-! ### The sender -/

/-- What the program sends has a rank of at least `n`, and none below that of a frame before. Like
`Proc.Within` it holds of what is left of the program after any answers. -/
def Proc.Ascends (rank : σ → ℕ) : Proc ε σ α → ℕ → Prop
  | .ret _, _ => True
  | .reset k, n => k.Ascends rank n
  | .send x k, n => n ≤ rank x ∧ ∀ r, (k r).Ascends rank (rank x)
  | .take _ k, n => ∀ r, (k r).Ascends rank n

section Ascends

variable {rank : σ → ℕ} {n m : ℕ}

/-- A program that ascends from a rank does so from a lower one. -/
theorem Proc.Ascends.mono {p : Proc ε σ α} (h : p.Ascends rank n) (hle : m ≤ n) :
    p.Ascends rank m := by
  induction p with
  | ret a => trivial
  | reset k ih => exact ih h
  | send x k _ => exact ⟨hle.trans h.1, h.2⟩
  | take t k ih => exact fun r => ih r (h r)

/-- The retry loop keeps the rank of its frame, and what comes after it starts from there. It is
stated with the continuation, as the loop may end without sending anything. -/
theorem sendWithRetry_ascends {x : σ} (hn : n ≤ rank x) {f : Status ε → Proc ε σ β}
    (hf : ∀ r, (f r).Ascends rank (rank x)) (timeoutMs k : ℕ) (last : Status ε) :
    ((sendWithRetry timeoutMs x k last).bind f).Ascends rank n := by
  -- By induction on the attempts left. After the first one the loop stands at the rank of its
  -- frame.
  induction k generalizing n last with
  | zero => exact (hf last).mono hn
  | succ k ih =>
    refine ⟨hn, fun r => ?_⟩
    cases r with
    | err e => exact hf (.err e)
    | ok =>
      intro r
      cases r with
      | ok => exact hf .ok
      | err e => exact ih le_rfl (.err e)

/-- **A transfer never goes back** when its frames are ordered by their rank, as fragments are by
their index. -/
theorem transfer_ascends (attempts timeoutMs : ℕ) {xs : List σ}
    (hsorted : xs.Pairwise fun x y => rank x ≤ rank y) (hn : ∀ x ∈ xs, n ≤ rank x) :
    (transfer attempts timeoutMs xs : Proc ε σ (Status ε)).Ascends rank n := by
  induction xs generalizing n with
  | nil => trivial
  | cons x xs ih =>
    obtain ⟨hx, hxs⟩ := List.pairwise_cons.mp hsorted
    refine sendWithRetry_ascends (hn x List.mem_cons_self) (fun r => ?_) _ _ _
    cases r with
    | ok => exact ih hxs hx
    | err e => trivial

end Ascends

/-- The prices that count the frames sent: every other effect is free. -/
def sendPrices : Prices := ⟨0, 0, 1, fun _ => 0⟩

/-- A transfer sends at most as many frames as it has attempts for all of its frames. -/
theorem transfer_within_sendPrices (attempts timeoutMs : ℕ) (xs : List σ) :
    (transfer attempts timeoutMs xs : Proc ε σ (Status ε)).Within sendPrices
      (xs.length * attempts) := by
  have h := transfer_within (ε := ε) sendPrices attempts timeoutMs xs
  have hattempt : sendPrices.attempt timeoutMs = 1 := rfl
  rwa [hattempt, Nat.mul_one] at h

/-! ### The channel and the receiver -/

/-- **The invariant.** The frames under way have the `ranks`; the sender goes on from `low`, and can
still send `budget` frames. The receiver has been done `done` times with a message of `count`
frames, and `closed` says that it has not begun. With a single frame every copy counts, so the bound
is on what was sent; with several, a receiver that is done and closed only has copies ahead of it
that do not let it begin again. -/
structure Repeats (count attempts : ℕ) (ranks : List ℕ) (low budget done : ℕ) (closed : Prop) :
    Prop where
  sorted : (ranks ++ [low]).Pairwise (· ≤ ·)
  single : count = 1 → done + ranks.length + budget ≤ attempts
  multiple : 1 < count → done = 0 ∨ done = 1 ∧ closed ∧ ∀ r ∈ ranks ++ [low], 0 < r

section Rules

variable {count attempts low budget done r : ℕ} {ranks ranks' : List ℕ} {closed closed' : Prop}

/-- The transfer begins with nothing under way. The receiver may be in the middle of another
message. -/
theorem Repeats.start (hbudget : count = 1 → budget ≤ attempts) :
    Repeats count attempts [] 0 budget 0 closed where
  sorted := List.pairwise_singleton _ _
  single hcount := by
    rw [List.length_nil, Nat.add_zero, Nat.zero_add]
    exact hbudget hcount
  multiple _ := .inl rfl

/-- Frames are lost; the receiver stays closed if it is. -/
theorem Repeats.mono (h : Repeats count attempts ranks low budget done closed)
    (hranks : ranks'.Sublist ranks) (hclosed : closed → closed') :
    Repeats count attempts ranks' low budget done closed' where
  sorted := h.sorted.sublist (hranks.append_right [low])
  single hcount := by
    have hle := h.single hcount
    have hlength := hranks.length_le
    omega
  multiple hcount := by
    refine (h.multiple hcount).imp_right fun ⟨hdone, hc, hpos⟩ => ⟨hdone, hclosed hc, ?_⟩
    intro a ha
    exact hpos a ((hranks.append_right [low]).subset ha)

/-- **A frame is sent** of a rank that the sender has reached. It is the highest one under way, and
the sender does not go below it any more. -/
theorem Repeats.send (h : Repeats count attempts ranks low budget done closed) (hlow : low ≤ r)
    (hbudget : 1 ≤ budget) :
    Repeats count attempts (ranks ++ [r]) r (budget - 1) done closed where
  sorted := by
    obtain ⟨hranks, -, hle⟩ := List.pairwise_append.mp h.sorted
    have hto : ∀ a ∈ ranks, a ≤ r := fun a ha =>
      (hle a ha low (List.mem_singleton.mpr rfl)).trans hlow
    rw [List.append_assoc]
    refine List.pairwise_append.mpr ⟨hranks, ?_, fun a ha b hb => ?_⟩
    · exact List.pairwise_pair.mpr le_rfl
    · -- both new entries are `r`
      rcases List.mem_pair.mp hb with rfl | rfl <;> exact hto a ha
  single hcount := by
    have hle := h.single hcount
    rw [List.length_append, List.length_singleton]
    omega
  multiple hcount := by
    refine (h.multiple hcount).imp_right fun ⟨hdone, hc, hpos⟩ => ⟨hdone, hc, fun a ha => ?_⟩
    have hr : 0 < r :=
      (hpos low (List.mem_append_right _ (List.mem_singleton.mpr rfl))).trans_le hlow
    rcases List.mem_append.mp ha with ha | ha
    · rcases List.mem_append.mp ha with ha | ha
      · exact hpos a (List.mem_append_left _ ha)
      · rwa [List.mem_singleton.mp ha]
    · rwa [List.mem_singleton.mp ha]

/-- **A frame arrives** with which the receiver is not done: it stays closed unless the frame is the
first one. -/
theorem Repeats.arrive (h : Repeats count attempts (r :: ranks) low budget done closed)
    (hclosed : closed → 0 < r → closed') :
    Repeats count attempts ranks low budget done closed' where
  sorted := (List.pairwise_cons.mp h.sorted).2
  single hcount := by
    have hle := h.single hcount
    rw [List.length_cons] at hle
    omega
  multiple hcount := by
    refine (h.multiple hcount).imp_right fun ⟨hdone, hc, hpos⟩ => ⟨hdone, ?_, fun a ha => ?_⟩
    · exact hclosed hc (hpos r List.mem_cons_self)
    · exact hpos a (List.mem_cons_of_mem _ ha)

/-- **A frame arrives that completes the message.** It is the last one, and is not the first one
unless the receiver had begun. With several frames it cannot be the second time: then the receiver
would be closed, and only a first frame lets it begin. -/
theorem Repeats.complete (h : Repeats count attempts (r :: ranks) low budget done closed)
    (hlast : r + 1 = count) (hbegun : closed → r = 0) (hclosed : closed') :
    Repeats count attempts ranks low budget (done + 1) closed' where
  sorted := (List.pairwise_cons.mp h.sorted).2
  single hcount := by
    have hle := h.single hcount
    rw [List.length_cons] at hle
    omega
  multiple hcount := by
    have hr : 0 < r := by omega
    rcases h.multiple hcount with rfl | ⟨-, hc, -⟩
    · -- whatever comes behind the last frame is a copy of it
      refine .inr ⟨rfl, hclosed, fun a ha => hr.trans_le ?_⟩
      exact (List.pairwise_cons.mp h.sorted).1 a ha
    · exact absurd (hbegun hc) hr.ne'

/-- **What it is for.** A message of several frames is completed at most once, and one of a single
frame at most as often as it is sent. -/
theorem Repeats.done_le (h : Repeats count attempts ranks low budget done closed)
    (hcount : 0 < count) : done ≤ if count = 1 then attempts else 1 := by
  by_cases hone : count = 1
  · rw [if_pos hone]
    exact le_trans (by omega) (h.single hone)
  · rw [if_neg hone]
    rcases h.multiple (by omega) with rfl | ⟨rfl, -, -⟩
    · exact Nat.zero_le 1
    · exact le_rfl

end Rules

end StopAndWait
