import DectCommunicator.Lib.StopAndWait

/-!
# Transfers whose acknowledgements are not checked

A stop-and-wait sender that takes any acknowledgement for the one it is waiting for succeeds
wrongly when a stale one arrives. `Acked` is the invariant of a suspended `transfer` under which its
success still means something. It speaks about three propositions on the surrounding system:

* `given` — the flag that an acknowledgement sets is up;
* `acked` — an acknowledgement of the last frame is under way;
* `done` — what the success of the transfer is to mean.

An acknowledgement of the last frame means `done`, and so does the flag while the last frame is in
hand. The rules follow the effects of the sender: `Acked.start`, `Acked.reset`, `Acked.send`,
`Acked.take_ok` and `Acked.take_err`. `Acked.ack` is the rule for an incoming acknowledgement, whose
side condition is that one which comes while the last frame is in hand is that frame's, and
`Acked.mono` the one for the steps of the rest of the system.
-/

namespace StopAndWait

variable {ε σ : Type}

/-- The frame a program has in hand: about to be sent, or sent and awaited. A suspended wait does
not name the frame, so the one that was `sent` last has to be given. -/
def Proc.inHand {α : Type} (sent : Option σ) : Proc ε σ α → Option σ
  | .send x _ => some x
  | .take _ _ => sent
  | _ => none

/-- **The invariant.** `sent` is the frame that was sent last. A transfer has failed, or it has
succeeded and `done` holds, or it has the first of the frames `x :: xs` in hand. In the last case a
flag that is up says something only while the last frame is in hand, and not before it has been
reset. -/
inductive Acked (attempts timeoutMs : ℕ) (frames : List σ) (sent : Option σ)
    (given acked done : Prop) : Proc ε σ (Status ε) → Prop
  | failed (e : ε) : Acked attempts timeoutMs frames sent given acked done (.ret (.err e))
  | finished (h : done) : Acked attempts timeoutMs frames sent given acked done (.ret .ok)
  | frame {p : Proc ε σ (Status ε)} (φ : Phase) (x : σ) (xs : List σ) (hsuffix : x :: xs <:+ frames)
      (hat : At attempts timeoutMs φ (x :: xs) p) (hsent : φ = .waiting → sent = some x)
      (hgiven : φ ≠ .ready → xs = [] → given → done) (hacked : acked → done) :
      Acked attempts timeoutMs frames sent given acked done p

section Rules

variable {attempts timeoutMs : ℕ} {frames : List σ} {sent : Option σ}
  {given given' acked acked' done done' : Prop} {p : Proc ε σ (Status ε)}

/-- A transfer begins, when no acknowledgement of the last frame is under way. The flag may be up:
it is reset before the first frame is sent. -/
theorem Acked.start (hattempts : 0 < attempts) (hframes : frames ≠ []) (hquiet : ¬ acked) :
    Acked attempts timeoutMs frames sent given acked done
      (transfer attempts timeoutMs frames : Proc ε σ (Status ε)) := by
  cases frames with
  | nil => exact absurd rfl hframes
  | cons x xs =>
    exact .frame .ready x xs List.suffix_rfl (at_transfer hattempts) (fun h => by cases h)
      (fun h => absurd rfl h) fun h => absurd h hquiet

/-- The rest of the system takes a step. It may clear the flag and lose acknowledgements, and when
it brings a new one about, the transfer must be done by then. -/
theorem Acked.mono (h : Acked attempts timeoutMs frames sent given acked done p)
    (hgiven : given' → given) (hacked : acked' → acked ∨ done') (hdone : done → done') :
    Acked attempts timeoutMs frames sent given' acked' done' p := by
  cases h with
  | failed e => exact .failed e
  | finished h => exact .finished (hdone h)
  | frame φ x xs hsuffix hat hsent hg ha =>
    refine .frame φ x xs hsuffix hat hsent (fun hφ hxs h => hdone (hg hφ hxs (hgiven h))) fun h => ?_
    exact (hacked h).elim (fun h => hdone (ha h)) id

/-- The flag is cleared, which is the first effect of every attempt. -/
theorem Acked.reset {k : Proc ε σ (Status ε)}
    (h : Acked attempts timeoutMs frames sent given acked done (.reset k)) (hgiven : ¬ given') :
    Acked attempts timeoutMs frames sent given' acked done k := by
  cases h with
  | frame φ x xs hsuffix hat _ _ ha =>
    -- Only in the first phase is a reset the next effect.
    cases φ with
    | ready =>
      obtain ⟨k', hk, hat⟩ := hat.of_ready
      obtain rfl : k = k' := by injection hk
      exact .frame .sending x xs hsuffix hat (fun h => by cases h)
        (fun _ _ h => absurd h hgiven) ha
    | sending =>
      obtain ⟨_, hk, -⟩ := hat.of_sending
      cases hk
    | waiting =>
      obtain ⟨_, hk, -⟩ := hat.of_waiting
      cases hk

/-- A frame is sent, or the attempt to send it fails. In both cases it is one of the frames of the
transfer. -/
theorem Acked.send {x : σ} {k : Status ε → Proc ε σ (Status ε)}
    (h : Acked attempts timeoutMs frames sent given acked done (.send x k)) :
    x ∈ frames ∧ Acked attempts timeoutMs frames (some x) given acked done (k .ok) ∧
      ∀ e, Acked attempts timeoutMs frames sent given acked done (k (.err e)) := by
  cases h with
  | frame φ y xs hsuffix hat _ hg ha =>
    -- Only in the second phase is sending the next effect.
    cases φ with
    | ready =>
      obtain ⟨_, hk, -⟩ := hat.of_ready
      cases hk
    | sending =>
      obtain ⟨k', hk, hat, herr⟩ := hat.of_sending
      obtain ⟨rfl, rfl⟩ : x = y ∧ k = k' := by injection hk with hx hk; exact ⟨hx, hk⟩
      refine ⟨hsuffix.subset List.mem_cons_self, ?_, fun e => ?_⟩
      · exact .frame .waiting x xs hsuffix hat (fun _ => rfl) (fun _ => hg Phase.noConfusion) ha
      · rw [herr e]
        exact .failed e
    | waiting =>
      obtain ⟨_, hk, -⟩ := hat.of_waiting
      cases hk

/-- The wait ends on the flag. Behind the last frame this is the success of the transfer, and the
invariant says that it is done; behind an earlier one the flag was allowed to be a wrong one. -/
theorem Acked.take_ok {t : ℕ} {k : Status ε → Proc ε σ (Status ε)} (hattempts : 0 < attempts)
    (h : Acked attempts timeoutMs frames sent given acked done (.take t k)) (hg : given) :
    Acked attempts timeoutMs frames sent given' acked done (k .ok) := by
  cases h with
  | frame φ x xs hsuffix hat _ hgiven ha =>
    cases φ with
    -- the process is at a wait, so it is in the third phase
    | ready =>
      obtain ⟨_, hk, -⟩ := hat.of_ready
      cases hk
    | sending =>
      obtain ⟨_, hk, -⟩ := hat.of_sending
      cases hk
    | waiting =>
      obtain ⟨k', hk, hok, -⟩ := hat.of_waiting
      obtain rfl : k = k' := by injection hk
      rw [hok]
      cases xs with
      -- the last frame: a given flag means that the transfer is done
      | nil => exact .finished (hgiven Phase.noConfusion rfl hg)
      | cons y ys =>
        exact .frame .ready y ys ((List.suffix_cons x _).trans hsuffix) (at_transfer hattempts)
          (fun h => by cases h) (fun h => absurd rfl h) ha

/-- The wait times out. The attempt is repeated or the transfer fails, and in either case the flag
no longer matters. -/
theorem Acked.take_err {t : ℕ} {k : Status ε → Proc ε σ (Status ε)}
    (h : Acked attempts timeoutMs frames sent given acked done (.take t k)) (e : ε) :
    Acked attempts timeoutMs frames sent given' acked done (k (.err e)) := by
  cases h with
  | frame φ x xs hsuffix hat _ _ ha =>
    cases φ with
    -- the process is at a wait, so it is in the third phase
    | ready =>
      obtain ⟨_, hk, -⟩ := hat.of_ready
      cases hk
    | sending =>
      obtain ⟨_, hk, -⟩ := hat.of_sending
      cases hk
    | waiting =>
      obtain ⟨k', hk, -, herr⟩ := hat.of_waiting
      obtain rfl : k = k' := by injection hk
      rcases herr e with heq | hat
      · -- it was the last attempt
        rw [heq]
        exact .failed e
      · -- the frame is sent again, with the flag reset before
        exact .frame .ready x xs hsuffix hat (fun h => by cases h) (fun h => absurd rfl h) ha

/-- **An acknowledgement comes in.** When it is the one of the last frame in case that is in hand,
the flag may go up. While an earlier frame is in hand nothing is asked of it. -/
theorem Acked.ack (h : Acked attempts timeoutMs frames sent given acked done p)
    (hmatch : ∀ x ∈ p.inHand sent, frames.getLast? = some x → acked) :
    Acked attempts timeoutMs frames sent given' acked done p := by
  cases h with
  | failed e => exact .failed e
  | finished h => exact .finished h
  | frame φ x xs hsuffix hat hsent _ ha =>
    refine .frame φ x xs hsuffix hat hsent (fun hφ hxs _ => ha ?_) ha
    subst hxs
    -- The frame in hand is the last one when nothing is behind it.
    have hlast : frames.getLast? = some x := by
      obtain ⟨ys, rfl⟩ := hsuffix
      exact List.getLast?_concat
    cases φ with
    | ready => exact absurd rfl hφ
    | sending =>
      obtain ⟨k, rfl, -⟩ := hat.of_sending
      exact hmatch x rfl hlast
    | waiting =>
      obtain ⟨k, rfl, -⟩ := hat.of_waiting
      exact hmatch x (hsent rfl) hlast

/-- A transfer that has succeeded is done: this is what the invariant is for. -/
theorem Acked.of_ret_ok
    (h : Acked attempts timeoutMs frames sent given acked done (.ret .ok : Proc ε σ (Status ε))) :
    done := by
  cases h with
  | finished h => exact h
  | frame φ x xs _ hat =>
    -- A transfer with a frame in hand has not returned.
    cases φ with
    | ready =>
      obtain ⟨_, hk, -⟩ := hat.of_ready
      cases hk
    | sending =>
      obtain ⟨_, hk, -⟩ := hat.of_sending
      cases hk
    | waiting =>
      obtain ⟨_, hk, -⟩ := hat.of_waiting
      cases hk

end Rules

end StopAndWait
