import DectCommunicator.Lib.Runs
import DectCommunicator.Utils.Assembly

/-!
# A message whose fragments arrive in order

The fragments of one message, each once and in order, at a pool with a FREE context. `Reaction` is
what can be observed of the handling of one fragment, and `reactions` what happens to all of them.

* `reactions_inOrder` — when the contexts under the key have accepted nothing before and no gap
  between two fragments reaches the timeout, every fragment is accepted, within the size of the
  message, and the message is handed up once.
* `vacant_of_accepted` — conversely, when every fragment is accepted and exactly the message is
  handed up, this was so.

Both follow the pool through the stages of the message (`Follows`). The second one cannot assume
that the pool is clean, so a stage carries the bytes that would be handed up (its *whole*), and at
the end they have to be those of the message.
-/

namespace DectCommunicator

open Machine

variable {ε κ : Type}

/-! ### Reactions -/

/-- What a transport does with one fragment: the results of `transport_buffer_write`, the lengths of
the buffer after `net_buf_add_mem`, and the bytes of the messages handed up. Both transports are
compared with the claim by this, whatever their effects are called. -/
structure Reaction where
  rets : List TransportBufferWriteRet
  lens : List ℕ
  handedUp : List (List UInt8)
deriving DecidableEq, Repr

/-- The result of `transport_buffer_write`, when the effect is a call of it. -/
def RxEffect.ret : RxEffect ε → Option TransportBufferWriteRet
  | .wrote ret => some ret
  | _ => none

/-- The length of the buffer after `net_buf_add_mem`, when the effect is one. -/
def RxEffect.addedLen : RxEffect ε → Option ℕ
  | .netBufAddMem len => some len
  | _ => none

/-- The bytes of the message handed up, when the effect is a call of the callback. -/
def RxEffect.handedUp : RxEffect ε → Option (List UInt8)
  | .transportRx b => some b.data
  | _ => none

/-- The reaction that consists of some effects, each kind of them in its order. -/
def reactionOf (effects : List (RxEffect ε)) : Reaction where
  rets := effects.filterMap RxEffect.ret
  lens := effects.filterMap RxEffect.addedLen
  handedUp := effects.filterMap RxEffect.handedUp

section Effects

variable (ret : TransportBufferWriteRet) (len : ℕ) (b : TransportBuffer ε)
  (effects : List (RxEffect ε))

@[simp] theorem reactionOf_nil : reactionOf ([] : List (RxEffect ε)) = ⟨[], [], []⟩ := rfl

@[simp] theorem reactionOf_wrote :
    reactionOf (.wrote ret :: effects) =
      { reactionOf effects with rets := ret :: (reactionOf effects).rets } := rfl

@[simp] theorem reactionOf_netBufAddMem :
    reactionOf (.netBufAddMem len :: effects) =
      { reactionOf effects with lens := len :: (reactionOf effects).lens } := rfl

@[simp] theorem reactionOf_ack : reactionOf (.ack :: effects) = reactionOf effects := rfl

@[simp] theorem reactionOf_transportRx :
    reactionOf (.transportRx b :: effects) =
      { reactionOf effects with handedUp := b.data :: (reactionOf effects).handedUp } := rfl

end Effects

/-- The fragment was appended to its message, and neither rejected nor taken for a copy. -/
def Reaction.Accepted (r : Reaction) : Prop := r.rets = [.success] ∨ r.rets = [.complete]

/-- The pool handles fragment `i` of `m` at `clock i`, as a machine over the indices of
fragments. -/
def handleFragment (callback : Option (TransportRxCallback ε)) (params : Option κ) (mark : ε → ε)
    (m : Message) (clock : ℕ → UInt32) (p : TransportBufferPool ε κ) (i : ℕ) :
    TransportBufferPool ε κ × List Reaction :=
  let r := handleDataFrame callback params mark (clock i) (m.fragment i) p
  (r.1, [reactionOf r.2])

/-- The reactions to `k` fragments of `m` from fragment `i` on, each once and in order. -/
def reactions (callback : Option (TransportRxCallback ε)) (params : Option κ) (mark : ε → ε)
    (m : Message) (clock : ℕ → UInt32) (p : TransportBufferPool ε κ) (i k : ℕ) : List Reaction :=
  outputs (handleFragment callback params mark m clock) p (List.range' i k)

/-! ### The pool -/

/-- A pool in order, whose query finds the contexts with the owner's fields `e`. It gathers what
every step below needs and keeps. -/
structure KeyedPool (params : Option κ) (mark : ε → ε) (e : ε) (rxTimeoutMs : UInt32)
    (p : TransportBufferPool ε κ) : Prop where
  inv : PoolInv p
  unique : KeyUnique p
  key : Keyed p.additionalQueryCb params mark e
  timeout : p.rxTimeoutMs = rxTimeoutMs

section Pool

variable {callback : Option (TransportRxCallback ε)} {params : Option κ} {mark : ε → ε} {e : ε}
  {t now : UInt32} {f : Fragment} {m : Message} {whole : List UInt8} {clock : ℕ → UInt32}
  {i : ℕ} {p q : TransportBufferPool ε κ} {out : List (RxEffect ε)}

/-- A frame leaves the pool in order and its configuration as it was. -/
theorem KeyedPool.step (h : KeyedPool params mark e t p)
    (hstep : DataFrameStep callback params mark now f p q out) : KeyedPool params mark e t q where
  inv := hstep.poolInv h.inv
  unique := hstep.keyUnique h.key h.unique
  key := by
    rw [hstep.config.1]
    exact h.key
  timeout := hstep.config.2.2.trans h.timeout

/-- With a FREE context some whole is awaited, which is the message only if the contexts under the
key have accepted nothing. So nothing has to be assumed of what is left of an earlier message. -/
theorem KeyedPool.exists_awaits (h : KeyedPool params mark e t p) (m : Message)
    (hfree : ∃ c ∈ p.contexts, c.state = .free) (now : UInt32) :
    ∃ whole i, Awaits params mark e m whole i 0 now p ∧
      (i = 0 → whole = m.data → Vacant e m now p) := by
  by_cases hold : ∃ c ∈ p.contexts,
      c.timedOut now p.rxTimeoutMs = false ∧ Matches e (m.fragment 0) c
  · -- A context under the key is given the fragment, whatever it has accepted before.
    obtain ⟨c, hc, hfresh, hm⟩ := hold
    obtain ⟨j, hj⟩ := List.getElem?_of_mem hc
    refine ⟨_, _, Tracks.awaits ⟨j, c, hj, hm.assembles, rfl⟩ h.unique h.key
      ((timedOut_eq_false_iff hm.receiving).mp hfresh) 0, ?_⟩
    intro hidx hwhole
    refine ⟨hfree, fun c' hc' _ hm' => ?_⟩
    -- there is only this one context under the key
    obtain ⟨j', hj'⟩ := List.getElem?_of_mem hc'
    have hjj : j' = j := h.unique j' j c' c e _ hj' hj hm' hm
    rw [hjj, hj] at hj'
    obtain rfl := Option.some.inj hj'
    rw [hidx, Nat.mul_zero, List.drop_zero] at hwhole
    exact ⟨UInt8.toNat_inj.mp hidx, List.append_left_eq_self.mp hwhole⟩
  · -- Without one the fragment is given a FREE context.
    refine ⟨m.data, 0, awaits_of_free h.inv h.key
      (fun c hc hfresh hm => hold ⟨c, hc, hfresh, hm⟩) hfree, ?_⟩
    exact fun _ _ => ⟨hfree, fun c hc hfresh hm => absurd ⟨c, hc, hfresh, hm⟩ hold⟩

/-! ### The stages of a message -/

/-- The pool before fragment `i` of a message, when the fragments from `i` on lead to `whole`.
Unlike `Stage` it does not say that the whole is the message. -/
inductive Follows (params : Option κ) (mark : ε → ε) (e : ε) (m : Message) (whole : List UInt8)
    (clock : ℕ → UInt32) (p : TransportBufferPool ε κ) : ℕ → Prop
  | first (h : Awaits params mark e m whole 0 0 (clock 0) p) :
      Follows params mark e m whole clock p 0
  | next {i : ℕ} (h : Tracks e m whole (i + 1) (clock i) p) :
      Follows params mark e m whole clock p (i + 1)

/-- What becomes of fragment `i` in its stage: it is rejected, which happens only when the whole is
not the message, or it is accepted, or it completes the whole. -/
inductive FollowStep (callback : Option (TransportRxCallback ε)) (params : Option κ)
    (mark : ε → ε) (e : ε) (m : Message) (whole : List UInt8) (clock : ℕ → UInt32) (i : ℕ)
    (q : TransportBufferPool ε κ) : List (RxEffect ε) → Prop
  | rejected {effects : List (RxEffect ε)} (hwhy : ¬ (reactionOf effects).Accepted)
      (hwhole : whole ≠ m.data) :
      FollowStep callback params mark e m whole clock i q effects
  | success {len : ℕ} (hlast : i + 1 < m.count) (hlen : len ≤ m.data.length)
      (h : Follows params mark e m whole clock q (i + 1)) :
      FollowStep callback params mark e m whole clock i q
        [.wrote .success, .netBufAddMem len, .ack]
  | complete {b : TransportBuffer ε} (hlast : i + 1 = m.count) (hdata : b.data = whole) :
      FollowStep callback params mark e m whole clock i q
        ([.wrote .complete, .netBufAddMem m.data.length, .ack] ++
          if callback.isSome then [.transportRx b] else [])

/-- A fragment that arrives in time is given the context of its message. What becomes of it then
depends on the length of the whole alone. -/
theorem Follows.step (h : Follows params mark e m whole clock p i)
    (hstep : DataFrameStep callback params mark (clock i) (m.fragment i) p q out)
    (hpool : KeyedPool params mark e t p) (hi : i < m.count)
    (hgap : ∀ j, j + 1 = i → clock (j + 1) - clock j < t) :
    FollowStep callback params mark e m whole clock i q out := by
  have hawaits : Awaits params mark e m whole i i (clock i) p := by
    cases h with
    | first h => exact h
    | next h =>
      refine h.awaits hpool.unique hpool.key ?_ _
      rw [hpool.timeout]
      exact hgap _ rfl
  -- The index is the one that is waited for, which leaves four of the six outcomes.
  cases hstep.fragmentOutcome hawaits hpool.inv hpool.unique hpool.key hi with
  | duplicate hk => exact absurd hk (lt_irrefl i)
  | outOfOrder hk => exact absurd hk (lt_irrefl i)
  | overrun _ hlen =>
    refine .rejected (by simp [Reaction.Accepted]) ?_
    rintro rfl
    exact absurd hlen (lt_irrefl _)
  | success _ hlast hlen h => exact .success hlast hlen (.next h)
  | invalidFinalSize _ _ hlen =>
    refine .rejected (by simp [Reaction.Accepted]) ?_
    rintro rfl
    exact absurd rfl hlen
  | complete _ hlast _ _ _ hdata => exact .complete hlast hdata

/-- A fragment that arrives too late finds the context given up, and does not open one itself. -/
theorem Tracks.late (h : Tracks e m whole (i + 1) (clock i) p)
    (hstep : DataFrameStep callback params mark (clock (i + 1)) (m.fragment (i + 1)) p q out)
    (hpool : KeyedPool params mark e t p) (hi : i + 1 < m.count)
    (hlate : ¬ clock (i + 1) - clock i < t) : out = [] := by
  refine (hstep.refused_of_unmatched hpool.key ?_ (Nat.succ_pos i) hi).2
  intro c hc hfresh hm
  obtain ⟨j, b, hj, hb, ht⟩ := h
  obtain ⟨j', hj'⟩ := List.getElem?_of_mem hc
  have hjj : j' = j := hpool.unique j' j c b e _ hj' hj hm hb.key
  rw [hjj, hj] at hj'
  obtain rfl := Option.some.inj hj'
  -- the context was last written at `clock i`
  have hin := (timedOut_eq_false_iff hm.receiving).mp hfresh
  rw [ht, hpool.timeout] at hin
  exact hlate hin

/-! ### All fragments -/

/-- The first of the reactions is that of one reassembly step, and the others follow from the pool
that it leaves. -/
theorem reactions_succ (callback : Option (TransportRxCallback ε)) (params : Option κ)
    (mark : ε → ε) (m : Message) (clock : ℕ → UInt32) (p : TransportBufferPool ε κ) (i k : ℕ) :
    ∃ q out, DataFrameStep callback params mark (clock i) (m.fragment i) p q out ∧
      reactions callback params mark m clock p i (k + 1) =
        reactionOf out :: reactions callback params mark m clock q (i + 1) k := by
  refine ⟨_, _, handleDataFrame_spec _ _ _ _ _ _, ?_⟩
  unfold reactions
  rw [List.range'_succ]
  rfl

/-- When the fragments from `i` on lead to the message and are all in time, they are accepted and
the message is handed up. -/
theorem Follows.reactions_eq {cb : TransportRxCallback ε} {k : ℕ}
    (h : Follows params mark e m m.data clock p i) (hpool : KeyedPool params mark e t p)
    (hk : i + (k + 1) = m.count) (hgap : ∀ j, j + 1 < m.count → clock (j + 1) - clock j < t) :
    (∀ r ∈ reactions (some cb) params mark m clock p i (k + 1),
      r.Accepted ∧ ∀ len ∈ r.lens, len ≤ m.data.length) ∧
    (reactions (some cb) params mark m clock p i (k + 1)).flatMap Reaction.handedUp
      = [m.data] := by
  -- By induction on the number of fragments left, the last of which completes the message.
  induction k generalizing i p with
  | zero =>
    obtain ⟨q, out, hstep, hreactions⟩ := reactions_succ (some cb) params mark m clock p i 0
    rw [hreactions]
    cases h.step hstep hpool (by omega) fun j hj => hgap j (by omega) with
    | rejected _ hwhole => exact absurd rfl hwhole
    | success hlast => omega
    | complete _ hdata =>
      simp [reactions, Reaction.Accepted, hdata]
  | succ k ih =>
    obtain ⟨q, out, hstep, hreactions⟩ := reactions_succ (some cb) params mark m clock p i (k + 1)
    rw [hreactions]
    cases h.step hstep hpool (by omega) fun j hj => hgap j (by omega) with
    | rejected _ hwhole => exact absurd rfl hwhole
    | success _ hlen hnext =>
      obtain ⟨haccepted, hhandedUp⟩ := ih hnext (hpool.step hstep) (by omega)
      refine ⟨List.forall_mem_cons.mpr ⟨⟨Or.inl rfl, ?_⟩, haccepted⟩, ?_⟩
      · simpa using hlen
      · simpa using hhandedUp
    | complete hlast => omega

/-- When the fragments from `i` on are all accepted, they are in time and their whole is handed up.
The whole is arbitrary here: that it is the message follows from what is handed up. -/
theorem Follows.of_accepted {cb : TransportRxCallback ε} {k : ℕ}
    (h : Follows params mark e m whole clock p i) (hpool : KeyedPool params mark e t p)
    (hk : i + (k + 1) = m.count) (hgap : ∀ j, j + 1 = i → clock (j + 1) - clock j < t)
    (haccepted : ∀ r ∈ reactions (some cb) params mark m clock p i (k + 1), r.Accepted) :
    (∀ j, i ≤ j → j + 1 < m.count → clock (j + 1) - clock j < t) ∧
    (reactions (some cb) params mark m clock p i (k + 1)).flatMap Reaction.handedUp = [whole] := by
  -- By induction as before. A gap shows in the reaction to the fragment behind it.
  induction k generalizing i p with
  | zero =>
    obtain ⟨q, out, hstep, hreactions⟩ := reactions_succ (some cb) params mark m clock p i 0
    rw [hreactions] at haccepted ⊢
    obtain ⟨hfirst, -⟩ := List.forall_mem_cons.mp haccepted
    cases h.step hstep hpool (by omega) hgap with
    | rejected hwhy => exact absurd hfirst hwhy
    -- the last fragment completes the message
    | success hlast => omega
    | complete _ hdata =>
      refine ⟨fun j hj hlt => by omega, ?_⟩
      simp [reactions, hdata]
  | succ k ih =>
    obtain ⟨q, out, hstep, hreactions⟩ := reactions_succ (some cb) params mark m clock p i (k + 1)
    rw [hreactions] at haccepted ⊢
    obtain ⟨hfirst, hrest⟩ := List.forall_mem_cons.mp haccepted
    cases h.step hstep hpool (by omega) hgap with
    | rejected hwhy => exact absurd hfirst hwhy
    -- an earlier one does not
    | complete hlast => omega
    | success hlast _ hnext =>
      have hpool' := hpool.step hstep
      -- the next fragment is accepted only if it is in time
      have hnow : clock (i + 1) - clock i < t := by
        by_contra hlate
        obtain ⟨q', out', hstep', hreactions'⟩ :=
          reactions_succ (some cb) params mark m clock q (i + 1) k
        rw [hreactions'] at hrest
        obtain ⟨hsecond, -⟩ := List.forall_mem_cons.mp hrest
        cases hnext with
        | next htracks =>
          rw [htracks.late hstep' hpool' hlast hlate] at hsecond
          simp [Reaction.Accepted] at hsecond
      obtain ⟨hgaps, hhandedUp⟩ := ih hnext hpool' (by omega)
        (fun j hj => by obtain rfl := Nat.succ_injective hj; exact hnow) hrest
      refine ⟨fun j hj hlt => ?_, ?_⟩
      · rcases Nat.eq_or_lt_of_le hj with rfl | hj
        · exact hnow
        · exact hgaps j hj hlt
      · simpa using hhandedUp

end Pool

section Message

variable {params : Option κ} {mark : ε → ε} {e : ε} {t : UInt32} {m : Message}
  {clock : ℕ → UInt32} {p : TransportBufferPool ε κ} {cb : TransportRxCallback ε}

variable (cb) in
/-- **In order and in time**, a message arrives at a pool that has nothing under its key: every
fragment is accepted, within the size of the message, and the message is handed up once. -/
theorem reactions_inOrder (hpool : KeyedPool params mark e t p)
    (hvacant : Vacant e m (clock 0) p)
    (hgap : ∀ i, i + 1 < m.count → clock (i + 1) - clock i < t) :
    (∀ r ∈ reactions (some cb) params mark m clock p 0 m.count,
      r.Accepted ∧ ∀ len ∈ r.lens, len ≤ m.data.length) ∧
    (reactions (some cb) params mark m clock p 0 m.count).flatMap Reaction.handedUp = [m.data] := by
  obtain ⟨k, hk⟩ := Nat.exists_eq_add_one.mpr m.count_pos
  have hfirst : Follows params mark e m m.data clock p 0 :=
    .first (hvacant.awaits hpool.inv hpool.unique hpool.key)
  rw [hk]
  exact hfirst.reactions_eq hpool (by omega) hgap

/-- **Only so** is the message handed up with every fragment accepted: nothing was left under its
key, and no gap reached the timeout. -/
theorem vacant_of_accepted (hpool : KeyedPool params mark e t p)
    (hfree : ∃ c ∈ p.contexts, c.state = .free)
    (haccepted : ∀ r ∈ reactions (some cb) params mark m clock p 0 m.count, r.Accepted)
    (hhandedUp : (reactions (some cb) params mark m clock p 0 m.count).flatMap Reaction.handedUp
      = [m.data]) :
    Vacant e m (clock 0) p ∧ ∀ i, i + 1 < m.count → clock (i + 1) - clock i < t := by
  obtain ⟨k, hk⟩ := Nat.exists_eq_add_one.mpr m.count_pos
  rw [hk] at haccepted hhandedUp
  obtain ⟨whole, i, hawaits, hvacant⟩ := hpool.exists_awaits m hfree (clock 0)
  have hzero : i = 0 := by
    -- otherwise fragment 0 is a duplicate
    obtain ⟨q, out, hstep, hreactions⟩ := reactions_succ (some cb) params mark m clock p 0 k
    rw [hreactions] at haccepted
    obtain ⟨hfirst, -⟩ := List.forall_mem_cons.mp haccepted
    by_contra hne
    cases hstep.fragmentOutcome hawaits hpool.inv hpool.unique hpool.key m.count_pos with
    | duplicate => simp [Reaction.Accepted] at hfirst
    | outOfOrder hlt => omega
    | overrun heq => omega
    | success heq => omega
    | invalidFinalSize heq => omega
    | complete heq => omega
  subst hzero
  -- The whole is what was handed up, and that is the message.
  obtain ⟨hgaps, hwhole⟩ := (Follows.first hawaits).of_accepted hpool (by omega)
    (fun j hj => absurd hj (Nat.succ_ne_zero j)) haccepted
  rw [hhandedUp] at hwhole
  obtain rfl := List.singleton_injective hwhole
  exact ⟨hvacant rfl rfl, fun j hj => hgaps j (Nat.zero_le j) hj⟩

end Message

end DectCommunicator
