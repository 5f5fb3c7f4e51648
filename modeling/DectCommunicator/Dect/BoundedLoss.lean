import DectCommunicator.Dect.LossyTransfer

/-!
# Which losses a write survives

A write over a lossy channel when every fragment has an attempt with both paths intact.

The fragments before the last are safe: once the receiver has accepted one, it acknowledges every
repetition as a duplicate, so the intact attempt ends the wait (`retry_middle`). The last fragment
is different. It completes the message, the context is no longer RECEIVING, and a repetition is
refused without an answer; the write succeeds only if the first arrival of the last fragment is
acknowledged (`retry_last`), or, when it is also the first one and repetitions start over, if the
receiver still has a context (`retry_single`). And a context that the receiver holds under the key
of the message before it begins spoils it, unless it holds the same bytes (`retry_spoiled`).

`write_survives_loss_iff` puts these together.
-/

namespace DectCommunicator

open Machine StopAndWait

/-! ### The pool between two attempts -/

section Pool

variable {ε κ : Type} {callback : Option (TransportRxCallback ε)} {params : Option κ}
  {mark : ε → ε} {e : ε} {m : Message} {c : ℕ} {now : UInt32} {p q : TransportBufferPool ε κ}
  {out : List (RxEffect ε)}

/-- No context is RECEIVING under the key of the message. Its fragment 0 may then open one, and a
later fragment is refused. -/
def Unmatched (e : ε) (m : Message) (p : TransportBufferPool ε κ) : Prop :=
  ∀ b ∈ p.contexts, ¬ Matches e (m.fragment 0) b

/-- The pool has accepted at least the fragments before `c`, and nothing but the message. It may be
ahead of the sender, which repeats a fragment when its ACK was lost. -/
inductive Clean (e : ε) (m : Message) (c : ℕ) (p : TransportBufferPool ε κ) : Prop
  | tracks {i : ℕ} {t : UInt32} (hc : c ≤ i) (hi : i < m.count) (h : Tracks e m m.data i t p)
  | vacant (hc : c = 0) (hnone : Unmatched e m p) (hfree : ∃ b ∈ p.contexts, b.state = .free)

/-- A context that tracks the message awaits any fragment of it, as long as nothing has timed
out. -/
theorem Tracks.awaits_of_fresh {whole : List UInt8} {i : ℕ} {t : UInt32}
    (h : Tracks e m whole i t p) (hunique : KeyUnique p)
    (hkey : Keyed p.additionalQueryCb params mark e) (hfresh : AllFresh now p) (k : ℕ) :
    Awaits params mark e m whole i k now p := by
  obtain ⟨j, b, hj, hb, rfl⟩ := h
  exact Tracks.awaits ⟨j, b, hj, hb, rfl⟩ hunique hkey
    ((timedOut_eq_false_iff hb.key.receiving).mp (hfresh b (List.mem_of_getElem? hj))) k

/-- A clean pool awaits fragment `c`, in the context it has or in a FREE one. -/
theorem Clean.awaits (h : Clean e m c p) (hinv : PoolInv p) (hunique : KeyUnique p)
    (hkey : Keyed p.additionalQueryCb params mark e) (hfresh : AllFresh now p) :
    ∃ i, c ≤ i ∧ i < m.count ∧ Awaits params mark e m m.data i c now p := by
  cases h with
  | @tracks i t hc hi h => exact ⟨i, hc, hi, h.awaits_of_fresh hunique hkey hfresh c⟩
  | vacant hc hnone hfree =>
    subst hc
    exact ⟨0, le_refl 0, m.count_pos,
      awaits_of_free hinv hkey (fun b hb _ => hnone b hb) hfree⟩

/-- A fragment before the last is acknowledged, and is then behind. It is either the one that is
expected or a copy of one that was accepted before. -/
theorem Clean.step (h : Clean e m c p)
    (hstep : DataFrameStep callback params mark now (m.fragment c) p q out) (hinv : PoolInv p)
    (hunique : KeyUnique p) (hkey : Keyed p.additionalQueryCb params mark e)
    (hfresh : AllFresh now p) (hc : c + 1 < m.count) :
    .ack ∈ out ∧ (∀ b, .transportRx b ∉ out) ∧ Clean e m (c + 1) q := by
  obtain ⟨i, hci, hi, hawaits⟩ := h.awaits hinv hunique hkey hfresh
  -- The bytes are those of the message, so no outcome but a duplicate and a success is left.
  cases hstep.fragmentOutcome hawaits hinv hunique hkey (by omega) with
  | duplicate hlt h => exact ⟨by simp, by simp, .tracks hlt hi h⟩
  | outOfOrder hlt => omega
  | overrun _ hlen => exact absurd hlen (lt_irrefl _)
  | success heq hlast _ h => exact ⟨by simp, by simp, .tracks (by omega) hlast h⟩
  | invalidFinalSize _ _ hlen => exact absurd rfl hlen
  | complete heq hlast => omega

/-- The last fragment completes the message, which is handed up and acknowledged in the same step;
the pool has no context for it afterwards. -/
theorem Clean.step_last (h : Clean e m c p)
    (hstep : DataFrameStep callback params mark now (m.fragment c) p q out) (hinv : PoolInv p)
    (hunique : KeyUnique p) (hkey : Keyed p.additionalQueryCb params mark e)
    (hfresh : AllFresh now p) (hc : c + 1 = m.count) :
    Unmatched e m q ∧ ∃ b : TransportBuffer ε, b.ext = e ∧ b.seqId = m.seqId ∧ b.data = m.data ∧
      out = [.wrote .complete, .netBufAddMem m.data.length, .ack] ++
        if callback.isSome then [.transportRx b] else [] := by
  obtain ⟨i, hci, hi, hawaits⟩ := h.awaits hinv hunique hkey hfresh
  cases hstep.fragmentOutcome hawaits hinv hunique hkey (by omega) with
  | duplicate hlt h => omega
  | outOfOrder hlt => omega
  | overrun _ hlen => exact absurd hlen (lt_irrefl _)
  | success heq hlast => omega
  | invalidFinalSize _ _ hlen => exact absurd rfl hlen
  | complete _ _ _ hext hseq hdata hgone => exact ⟨hgone, _, hext, hseq, hdata, rfl⟩

/-- A refused fragment brings nothing under the key of the message. -/
theorem Refused.forall_matches {f g : Fragment} {P : TransportBuffer ε → Prop}
    (hq : Refused p now f params q) (h : ∀ b ∈ p.contexts, Matches e g b → P b) :
    ∀ b ∈ q.contexts, Matches e g b → P b := by
  cases hq with
  | misuse => exact h
  | noContext =>
    intro b hb hm
    obtain ⟨j, hj⟩ := List.getElem?_of_mem hb
    exact h b (List.mem_of_getElem? (getElem?_expire_receiving hj hm.receiving).1) hm

/-- Without a context a later fragment is refused, without an answer to its sender. -/
theorem Unmatched.step (h : Unmatched e m p)
    (hstep : DataFrameStep callback params mark now (m.fragment c) p q out)
    (hkey : Keyed p.additionalQueryCb params mark e) (hc : 1 ≤ c) (hlt : c < m.count) :
    out = [] ∧ Unmatched e m q := by
  obtain ⟨hq, rfl⟩ := hstep.refused_of_unmatched hkey (fun b hb _ => h b hb) hc hlt
  exact ⟨rfl, hq.forall_matches h⟩

/-- The pool holds something else under the key of the message, or has forgotten it after the first
fragment. Either way it can no longer hand up the message with its right bytes. -/
inductive Spoiled (e : ε) (m : Message) (c : ℕ) (p : TransportBufferPool ε κ) : Prop
  | tracks {whole : List UInt8} {i : ℕ} {t : UInt32} (hwhole : whole ≠ m.data ∨ m.count ≤ i)
      (h : Tracks e m whole i t p)
  | gone (hc : 1 ≤ c) (h : Unmatched e m p)

/-- A spoiled pool is spoiled for every later fragment. -/
theorem Spoiled.mono (h : Spoiled e m c p) {k : ℕ} (hck : c ≤ k) : Spoiled e m k p := by
  cases h with
  | tracks hwhole h => exact .tracks hwhole h
  | gone hc h => exact .gone (hc.trans hck) h

/-- A spoiled pool stays so, and hands up no message with the right bytes. -/
theorem Spoiled.step {k : ℕ} (h : Spoiled e m k p)
    (hstep : DataFrameStep callback params mark now (m.fragment k) p q out) (hinv : PoolInv p)
    (hunique : KeyUnique p) (hkey : Keyed p.additionalQueryCb params mark e)
    (hfresh : AllFresh now p) (hk : k < m.count) :
    Spoiled e m k q ∧ ∀ b, .transportRx b ∈ out → b.data ≠ m.data := by
  cases h with
  | gone hc h =>
    -- no context, and the fragment is not the first one
    obtain ⟨rfl, hq⟩ := h.step hstep hkey hc hk
    exact ⟨.gone hc hq, fun _ hb => absurd hb List.not_mem_nil⟩
  | @tracks whole i t hwhole h =>
    have hawaits := h.awaits_of_fresh hunique hkey hfresh k
    cases hstep.fragmentOutcome hawaits hinv hunique hkey hk with
    | duplicate _ h => exact ⟨.tracks hwhole h, by simp⟩
    | outOfOrder _ h => exact ⟨.tracks hwhole h, by simp⟩
    | overrun _ _ h => exact ⟨.tracks hwhole h, by simp⟩
    | success _ hlast _ h' =>
      exact ⟨.tracks (Or.inl (hwhole.resolve_right (by omega))) h', by simp⟩
    | invalidFinalSize _ hlast _ h' => exact ⟨.tracks (Or.inr hlast.ge) h', by simp⟩
    | @complete b heq hlast hlen _ _ hdata hgone =>
      -- what is completed has the wrong bytes
      have hne : whole ≠ m.data := hwhole.resolve_right (by omega)
      refine ⟨.gone ?_ hgone, fun b' hb' => ?_⟩
      · -- a context that has counted nothing would hold more than the whole message
        by_contra hzero
        obtain ⟨j, b₀, -, hb₀, -⟩ := h
        have hi : i = 0 := by omega
        have hrest := hb₀.rest
        rw [hi, Nat.mul_zero, List.drop_zero] at hrest
        have hnil : b₀.data = [] := by
          rw [← hrest, List.length_append] at hlen
          exact List.eq_nil_of_length_eq_zero (by omega)
        rw [hnil, List.nil_append] at hrest
        exact hne hrest.symm
      · split at hb'
        · simp only [List.cons_append, List.nil_append, List.mem_cons, reduceCtorEq,
            RxEffect.transportRx.injEq, List.not_mem_nil, or_false, false_or] at hb'
          rw [hb', hdata]
          exact hne
        · simp at hb'

/-- The contexts under the key of the message have accepted nothing, so they are as good as fresh
ones. -/
def Unstarted (e : ε) (m : Message) (p : TransportBufferPool ε κ) : Prop :=
  ∀ b ∈ p.contexts, Matches e (m.fragment 0) b → b.fragIdx = 0 ∧ b.data = []

/-- Some context can take the first fragment of the message, a FREE one or one under its key. -/
def HasContext (e : ε) (m : Message) (p : TransportBufferPool ε κ) : Prop :=
  ∃ b ∈ p.contexts, b.state = .free ∨ Matches e (m.fragment 0) b

/-- A message of one fragment is completed if there is a context for it, and refused otherwise. -/
theorem Unstarted.step (h : Unstarted e m p)
    (hstep : DataFrameStep callback params mark now (m.fragment 0) p q out) (hinv : PoolInv p)
    (hunique : KeyUnique p) (hkey : Keyed p.additionalQueryCb params mark e)
    (hfresh : AllFresh now p) (hcount : 0 + 1 = m.count) :
    Unstarted e m q ∧
      ((HasContext e m p ∧ ∃ b : TransportBuffer ε, b.ext = e ∧ b.seqId = m.seqId ∧
        b.data = m.data ∧ out = [.wrote .complete, .netBufAddMem m.data.length, .ack] ++
          if callback.isSome then [.transportRx b] else []) ∨
      ¬ HasContext e m p ∧ out = []) := by
  -- with a context the pool is clean, and the only fragment is the last one
  by_cases hctx : HasContext e m p
  · have hclean : Clean e m 0 p := by
      by_cases hold : ∃ b ∈ p.contexts, Matches e (m.fragment 0) b
      · obtain ⟨b, hb, hm⟩ := hold
        obtain ⟨j, hj⟩ := List.getElem?_of_mem hb
        obtain ⟨hidx, hdata⟩ := h b hb hm
        have hassembles := hm.assembles
        rw [hidx, hdata] at hassembles
        exact .tracks (le_refl 0) m.count_pos ⟨j, b, hj, hassembles, rfl⟩
      · obtain ⟨b, hb, hfree | hm⟩ := hctx
        · exact .vacant rfl (fun c hc hm => hold ⟨c, hc, hm⟩) ⟨b, hb, hfree⟩
        · exact absurd ⟨b, hb, hm⟩ hold
    obtain ⟨hgone, hout⟩ := hclean.step_last hstep hinv hunique hkey hfresh hcount
    exact ⟨fun b hb hm => absurd hm (hgone b hb), Or.inl ⟨hctx, hout⟩⟩
  · have hnot : ∀ {j b q}, ¬ Obtained p now (m.fragment 0) params j b q := by
      intro j b q hq
      cases hq with
      | found hj hmatch =>
        have hm := (isMatch_iff_matches hkey).mp hmatch
        have hold := (getElem?_expire_receiving hj hm.receiving).1
        exact hctx ⟨b, List.mem_of_getElem? hold, Or.inr hm⟩
      | @fresh id b₀ rest hidx hnone hj hfree =>
        -- nothing expires, so the context was FREE before
        rw [expire_contexts, List.getElem?_map, Option.map_eq_some_iff] at hj
        obtain ⟨b₁, hb₁, rfl⟩ := hj
        have hkeep : b₁.expire now p.rxTimeoutMs = b₁ :=
          if_neg (by rw [hfresh b₁ (List.mem_of_getElem? hb₁)]; exact Bool.noConfusion)
        rw [hkeep] at hfree
        exact hctx ⟨b₁, List.mem_of_getElem? hb₁, Or.inl hfree⟩
    obtain ⟨hq, rfl⟩ := hstep.refused_of_not_obtained hnot
    exact ⟨hq.forall_matches h, Or.inr ⟨hctx, rfl⟩⟩

end Pool

/-! ### Releases between two attempts -/

section Released

variable {e : DectTransportExt} {m : Message} {c : ℕ} {dev dev' : Device}

/-- A release leaves the context that tracks the message, which is RECEIVING. -/
theorem Tracks.released {whole : List UInt8} {i : ℕ} {t : UInt32} (hrel : Released dev dev')
    (h : Tracks e m whole i t dev.transport.rxPool) :
    Tracks e m whole i t dev'.transport.rxPool := by
  obtain ⟨j, b, hj, hb, ht⟩ := h
  refine ⟨j, b, hrel.keep j b hj ?_, hb, ht⟩
  rw [hb.key.receiving]
  exact fun hst => by cases hst

/-- A RECEIVING context after a release was there before it. -/
theorem Matches.of_released (hrel : Released dev dev') {b : DectTransportBuffer}
    (hb : b ∈ dev'.transport.rxPool.contexts) (hm : Matches e (m.fragment 0) b) :
    b ∈ dev.transport.rxPool.contexts := by
  obtain ⟨j, hj⟩ := List.getElem?_of_mem hb
  exact List.mem_of_getElem? (hrel.back j b hj hm.receiving)

/-- A release opens no context. -/
theorem Unmatched.released (hrel : Released dev dev')
    (h : Unmatched e m dev.transport.rxPool) : Unmatched e m dev'.transport.rxPool :=
  fun b hb hm => h b (hm.of_released hrel hb) hm

/-- A release makes no progress. -/
theorem Unstarted.released (hrel : Released dev dev')
    (h : Unstarted e m dev.transport.rxPool) : Unstarted e m dev'.transport.rxPool :=
  fun b hb hm => h b (hm.of_released hrel hb) hm

/-- A release keeps a clean pool clean, FREE contexts staying FREE. -/
theorem Clean.released (hrel : Released dev dev') (h : Clean e m c dev.transport.rxPool) :
    Clean e m c dev'.transport.rxPool := by
  cases h with
  | tracks hc hi h => exact .tracks hc hi (h.released hrel)
  | vacant hc hnone hfree =>
    obtain ⟨b, hb, hst⟩ := hfree
    obtain ⟨j, hj⟩ := List.getElem?_of_mem hb
    refine .vacant hc (hnone.released hrel) ⟨b, List.mem_of_getElem? (hrel.keep j b hj ?_), hst⟩
    rw [hst]
    exact fun h => by cases h

/-- A release does not mend a spoiled pool. -/
theorem Spoiled.released (hrel : Released dev dev') (h : Spoiled e m c dev.transport.rxPool) :
    Spoiled e m c dev'.transport.rxPool := by
  cases h with
  | tracks hwhole h => exact .tracks hwhole (h.released hrel)
  | gone hc h => exact .gone hc (h.released hrel)

end Released

/-! ### The retry loop of one fragment -/

/-- What has accepted one more fragment has accepted the fragments before. -/
theorem Clean.of_succ {ε κ : Type} {e : ε} {m : Message} {c : ℕ} {p : TransportBufferPool ε κ}
    (h : Clean e m (c + 1) p) : Clean e m c p := by
  cases h with
  | tracks hc hi h => exact .tracks (Nat.le_of_succ_le hc) hi h
  | vacant hc => exact absurd hc (Nat.succ_ne_zero c)

/-- The first arrival of fragment `c` among the `k` attempts from `a₀` on has an intact return path.
The attempts before it, if any, have lost the data frame. -/
def FirstArrivalAnswered (ch : Channel) (c a₀ k : ℕ) : Prop :=
  ∃ a, a₀ ≤ a ∧ a < a₀ + k ∧ ch.dataArrives c a = true ∧ ch.ackReturns c a = true ∧
    ∀ a', a₀ ≤ a' → a' < a → ch.dataArrives c a' = false

/-- Effects without an invocation of the callback hand up nothing. -/
theorem deliveriesOf_eq_nil {effects : List (RxEffect DectTransportExt)}
    (h : ∀ b, .transportRx b ∉ effects) : deliveriesOf effects = [] := by
  rw [deliveriesOf, List.filterMap_eq_nil_iff]
  intro e he
  cases e with
  | transportRx b => exact absurd he (h b)
  | _ => rfl

/-- What the callback finds in the context is the message of the call. -/
theorem delivery_eq {b : DectTransportBuffer} {srcId : UInt32} {seqId : UInt16}
    {data : List UInt8} (hext : b.ext = ⟨srcId⟩) (hseq : b.seqId = seqId) (hdata : b.data = data) :
    (⟨b.ext.srcId, b.seqId, b.data⟩ : Delivery) = ⟨srcId, seqId, data⟩ := by
  rw [hext, hseq, hdata]

section Retry

variable {callback : TransportRxCallback DectTransportExt} {ch : Channel} {srcId d : UInt32}
  {seqId : UInt16} {data : List UInt8} {hpos : 0 < data.length}
  {hle : data.length ≤ dectTransportLayerMaxRxBufferSizeBytes} {c k : ℕ} {last : Ret} {s : Peers}

/-- An attempt for a fragment before the last: acknowledged when both paths are intact. Whatever
happens, the pool stays clean, and nothing is handed up. -/
theorem attempt_middle {s' : Peers} (hinv : s.Inv callback)
    (hclean : Clean ⟨srcId⟩ (dectMessage seqId data hpos hle) c s.receiver.transport.rxPool)
    (hc : c + 1 < fragCount data) (hexpired : s'.expired = false)
    (hattempt : Attempt ch srcId d seqId data c s s') :
    (0 < s'.source.transport.ackSem ↔ ch.dataArrives c (s.sent.count c) = true ∧
      ch.ackReturns c (s.sent.count c) = true) ∧
    (ch.dataArrives c (s.sent.count c) = true →
      Clean ⟨srcId⟩ (dectMessage seqId data hpos hle) (c + 1) s'.receiver.transport.rxPool) ∧
    Clean ⟨srcId⟩ (dectMessage seqId data hpos hle) c s'.receiver.transport.rxPool ∧
    s'.receiver.delivered = s.receiver.delivered := by
  have hrel := released_releaseAll d s.receiver (ch.releases c (s.sent.count c))
  cases hattempt with
  | lost harrives hreceiver hsem =>
    rw [hsem, harrives, hreceiver]
    exact ⟨by simp, fun h => Bool.noConfusion h, hclean.released hrel, hrel.delivered⟩
  | arrived harrives hpool hq hdelivered hsem hfresh =>
    have hreleased := hinv.receiver.releaseAll (d := d) (ch.releases c (s.sent.count c))
    obtain ⟨hack, hnone, hnext⟩ := (hclean.released hrel).step hpool hreleased.pool
      hreleased.unique (dectKeyed hreleased.query srcId) (hfresh hexpired) hc
    rw [hdelivered, deliveriesOf_eq_nil hnone, List.append_nil, hq]
    exact ⟨hsem.trans ⟨fun h => ⟨harrives, h.1⟩, fun h => ⟨h.2, hack⟩⟩, fun _ => hnext,
      hnext.of_succ, rfl⟩

/-- **A fragment before the last** gets through, and nothing is handed up. -/
theorem retry_middle (hinv : s.Inv callback)
    (hclean : Clean ⟨srcId⟩ (dectMessage seqId data hpos hle) c s.receiver.transport.rxPool)
    (hc : c + 1 < fragCount data)
    (hgood : ∃ a, s.sent.count c ≤ a ∧ a < s.sent.count c + k ∧ ch.dataArrives c a = true ∧
      ch.ackReturns c a = true)
    (hlast : k = 0 → last ≠ .ok)
    (hexpired : (s.retry ch srcId d seqId data c k last).2.expired = false) :
    ∃ s', s.retry ch srcId d seqId data c k last = (.ok, s') ∧ s'.Inv callback ∧
      Clean ⟨srcId⟩ (dectMessage seqId data hpos hle) (c + 1) s'.receiver.transport.rxPool ∧
      s'.receiver.delivered = s.receiver.delivered ∧
      ∀ j, j ≠ c → s'.sent.count j = s.sent.count j := by
  -- before each attempt the pool is clean, and an attempt is acknowledged when both paths are
  -- intact
  obtain ⟨hok, hpost⟩ := retry_outcome
    (J := fun _ s' => Clean ⟨srcId⟩ (dectMessage seqId data hpos hle) c s'.receiver.transport.rxPool
      ∧ s'.receiver.delivered = s.receiver.delivered)
    (A := fun a => ch.dataArrives c a = true ∧ ch.ackReturns c a = true)
    (Q := fun s' => Clean ⟨srcId⟩ (dectMessage seqId data hpos hle) (c + 1)
      s'.receiver.transport.rxPool ∧ s'.receiver.delivered = s.receiver.delivered)
    hle (Nat.lt_of_succ_lt hc)
    (fun s₁ s₂ hinv hJ hexpired _ _ hattempt => by
      obtain ⟨hsem, hnext, hsame, hdelivered⟩ := attempt_middle hinv hJ.1 hc hexpired hattempt
      have hdelivered := hdelivered.trans hJ.2
      exact ⟨hsem, fun h => ⟨hnext h.1, hdelivered⟩, fun _ => ⟨hsame, hdelivered⟩⟩)
    hlast hinv ⟨hclean, rfl⟩ hexpired
  have hret := hok.mpr hgood
  obtain ⟨s', hs', hinv', ⟨hclean', hdelivered⟩, hcount⟩ := hpost hret
  exact ⟨s'.taken, Prod.ext hret hs', hinv'.taken, hclean', hdelivered, hcount⟩

/-- An attempt for the last fragment of several, none having arrived yet: either it is lost and
nothing has changed, or it is the one that completes the message. -/
theorem attempt_last {s' : Peers} (hinv : s.Inv callback)
    (hclean : Clean ⟨srcId⟩ (dectMessage seqId data hpos hle) c s.receiver.transport.rxPool)
    (hc : c + 1 = fragCount data) (hexpired : s'.expired = false)
    (hattempt : Attempt ch srcId d seqId data c s s') :
    (ch.dataArrives c (s.sent.count c) = false ∧ s'.source.transport.ackSem = 0 ∧
      Clean ⟨srcId⟩ (dectMessage seqId data hpos hle) c s'.receiver.transport.rxPool ∧
      s'.receiver.delivered = s.receiver.delivered) ∨
    (ch.dataArrives c (s.sent.count c) = true ∧
      (0 < s'.source.transport.ackSem ↔ ch.ackReturns c (s.sent.count c) = true) ∧
      Unmatched ⟨srcId⟩ (dectMessage seqId data hpos hle) s'.receiver.transport.rxPool ∧
      s'.receiver.delivered = s.receiver.delivered ++ [⟨srcId, seqId, data⟩]) := by
  have hrel := released_releaseAll d s.receiver (ch.releases c (s.sent.count c))
  cases hattempt with
  | lost harrives hreceiver hsem =>
    rw [hreceiver]
    exact Or.inl ⟨harrives, hsem, hclean.released hrel, hrel.delivered⟩
  | arrived harrives hpool hq hdelivered hsem hfresh =>
    have hreleased := hinv.receiver.releaseAll (d := d) (ch.releases c (s.sent.count c))
    obtain ⟨hgone, b, hext, hseq, hdata, rfl⟩ := (hclean.released hrel).step_last hpool
      hreleased.pool hreleased.unique (dectKeyed hreleased.query srcId) (hfresh hexpired) hc
    refine Or.inr ⟨harrives, hsem.trans ⟨fun h => h.1, fun h => ⟨h, by simp⟩⟩, hq ▸ hgone, ?_⟩
    rw [hdelivered, hreleased.callback]
    exact congrArg (fun m => s.receiver.delivered ++ [m]) (delivery_eq hext hseq hdata)

/-- Once the message is complete, an attempt for a later fragment than the first is not answered:
the receiver takes it for a fragment of a message it does not know. -/
theorem attempt_unmatched {s' : Peers} (hinv : s.Inv callback)
    (hgone : Unmatched ⟨srcId⟩ (dectMessage seqId data hpos hle) s.receiver.transport.rxPool)
    (hc : 1 ≤ c) (hlt : c < fragCount data) (hattempt : Attempt ch srcId d seqId data c s s') :
    s'.source.transport.ackSem = 0 ∧
      Unmatched ⟨srcId⟩ (dectMessage seqId data hpos hle) s'.receiver.transport.rxPool := by
  have hrel := released_releaseAll d s.receiver (ch.releases c (s.sent.count c))
  cases hattempt with
  | lost _ hreceiver hsem => exact ⟨hsem, hreceiver ▸ hgone.released hrel⟩
  | arrived _ hpool hq _ hsem _ =>
    have hreleased := hinv.receiver.releaseAll (d := d) (ch.releases c (s.sent.count c))
    obtain ⟨rfl, hgone'⟩ := (hgone.released hrel).step hpool (dectKeyed hreleased.query srcId) hc hlt
    exact ⟨Nat.eq_zero_of_not_pos fun h => absurd (hsem.mp h).2 List.not_mem_nil, hq ▸ hgone'⟩

/-- **The last fragment** of several gets through exactly if its first arrival is answered; then
the message has been handed up. -/
theorem retry_last (hinv : s.Inv callback)
    (hclean : Clean ⟨srcId⟩ (dectMessage seqId data hpos hle) c s.receiver.transport.rxPool)
    (hc : c + 1 = fragCount data) (hfirst : 1 ≤ c) (hlast : k = 0 → last ≠ .ok)
    (hexpired : (s.retry ch srcId d seqId data c k last).2.expired = false) :
    ((s.retry ch srcId d seqId data c k last).1 = .ok ↔
      FirstArrivalAnswered ch c (s.sent.count c) k) ∧
    ((s.retry ch srcId d seqId data c k last).1 = .ok →
      (s.retry ch srcId d seqId data c k last).2.receiver.delivered =
        s.receiver.delivered ++ [⟨srcId, seqId, data⟩]) := by
  -- Before each attempt either nothing has arrived and the pool is clean, or something has, and the
  -- message is complete.
  obtain ⟨hok, hpost⟩ := retry_outcome
    (J := fun a s' => s.sent.count c ≤ a ∧
      (((∀ a', s.sent.count c ≤ a' → a' < a → ch.dataArrives c a' = false) ∧
        Clean ⟨srcId⟩ (dectMessage seqId data hpos hle) c s'.receiver.transport.rxPool ∧
        s'.receiver.delivered = s.receiver.delivered) ∨
      ((∃ a', s.sent.count c ≤ a' ∧ a' < a ∧ ch.dataArrives c a' = true) ∧
        Unmatched ⟨srcId⟩ (dectMessage seqId data hpos hle) s'.receiver.transport.rxPool)))
    (A := fun a => ch.dataArrives c a = true ∧ ch.ackReturns c a = true ∧
      ∀ a', s.sent.count c ≤ a' → a' < a → ch.dataArrives c a' = false)
    (Q := fun s' => s'.receiver.delivered = s.receiver.delivered ++ [⟨srcId, seqId, data⟩])
    hle (by omega) (fun s₁ s₂ hinv hJ hexpired _ _ hattempt => by
      obtain ⟨hlow, ⟨hnone, hclean, hdel⟩ | ⟨⟨a', hlow', hlt, harrived⟩, hgone⟩⟩ := hJ
      · rcases attempt_last hinv hclean hc hexpired hattempt with
          ⟨hlost, hsem, hclean', hdel'⟩ | ⟨harrives, hsem, hgone', hdel'⟩
        · -- still nothing has arrived
          refine ⟨⟨fun h => by omega, fun h => ?_⟩, fun h => ?_, fun _ => ⟨by omega, Or.inl
            ⟨fun a' hl hlt => ?_, hclean', hdel'.trans hdel⟩⟩⟩
          · rw [hlost] at h
            cases h.1
          · rw [hlost] at h
            cases h.1
          · rcases Nat.lt_or_eq_of_le (Nat.le_of_lt_succ hlt) with hlt | rfl
            · exact hnone a' hl hlt
            · exact hlost
        · -- the first arrival
          refine ⟨hsem.trans ⟨fun h => ⟨harrives, h, hnone⟩, fun h => h.2.1⟩, fun _ => ?_,
            fun _ => ⟨by omega, Or.inr ⟨⟨_, hlow, Nat.lt_succ_self _, harrives⟩, hgone'⟩⟩⟩
          rw [hdel', hdel]
      · -- a repetition, which is refused
        obtain ⟨hsem, hgone'⟩ := attempt_unmatched hinv hgone hfirst (by omega) hattempt
        refine ⟨⟨fun h => by omega, fun h => ?_⟩, fun h => ?_, fun _ => ⟨by omega, Or.inr
          ⟨⟨a', hlow', Nat.lt_succ_of_lt hlt, harrived⟩, hgone'⟩⟩⟩
        · rw [h.2.2 a' hlow' hlt] at harrived
          cases harrived
        · rw [h.2.2 a' hlow' hlt] at harrived
          cases harrived)
    hlast hinv ⟨le_refl _, Or.inl
      ⟨fun a' hlow hlt => absurd hlow (not_le.mpr hlt), hclean, rfl⟩⟩ hexpired
  refine ⟨hok, fun h => ?_⟩
  obtain ⟨s', hs', -, hdelivered, -⟩ := hpost h
  rw [hs']
  exact hdelivered

/-! ### A message of one fragment -/

/-- The receiver when the frame of fragment `i` is put on the air in attempt `a`, none of the
attempts before having ended the wait; `dev` is its state before the first. -/
def Channel.receiverAt (ch : Channel) (srcId d : UInt32) (seqId : UInt16) (data : List UInt8)
    (i : ℕ) (dev : Device) : ℕ → Device
  | 0 => dev.releaseAll d (ch.releases i 0)
  | a + 1 =>
    let r := ch.receiverAt srcId d seqId data i dev a
    let r :=
      if ch.dataArrives i a then
        (r.receive d (ch.clock i a) (dectLinkLayerFrame srcId d (dataFrameOf seqId data i).toBytes)
          ch.beyond).1
      else r
    r.releaseAll d (ch.releases i (a + 1))

/-- An attempt for the only fragment: acknowledged when both paths are intact and there is a context
for it. A repetition starts over, as fragment 0 opens a context of its own. -/
theorem attempt_single {s' : Peers} (hinv : s.Inv callback)
    (hstart : Unstarted ⟨srcId⟩ (dectMessage seqId data hpos hle) s.receiver.transport.rxPool)
    (hcount : 0 + 1 = fragCount data) (hexpired : s'.expired = false)
    (hattempt : Attempt ch srcId d seqId data 0 s s') :
    Unstarted ⟨srcId⟩ (dectMessage seqId data hpos hle) s'.receiver.transport.rxPool ∧
    (0 < s'.source.transport.ackSem ↔ ch.dataArrives 0 (s.sent.count 0) = true ∧
      ch.ackReturns 0 (s.sent.count 0) = true ∧
      HasContext ⟨srcId⟩ (dectMessage seqId data hpos hle) (s.receiver.releaseAll d
        (ch.releases 0 (s.sent.count 0))).transport.rxPool) ∧
    ∃ ms, s'.receiver.delivered = s.receiver.delivered ++ ms ∧
      (0 < s'.source.transport.ackSem → ⟨srcId, seqId, data⟩ ∈ ms) := by
  have hrel := released_releaseAll d s.receiver (ch.releases 0 (s.sent.count 0))
  cases hattempt with
  | lost harrives hreceiver hsem =>
    rw [hreceiver, hsem, harrives]
    exact ⟨hstart.released hrel, by simp, [], by rw [hrel.delivered, List.append_nil],
      fun h => absurd h (lt_irrefl 0)⟩
  | arrived harrives hpool hq hdelivered hsem hfresh =>
    have hreleased := hinv.receiver.releaseAll (d := d) (ch.releases 0 (s.sent.count 0))
    obtain ⟨hstart', hcase⟩ := (hstart.released hrel).step hpool hreleased.pool hreleased.unique
      (dectKeyed hreleased.query srcId) (hfresh hexpired) hcount
    -- with a context the message is handed up and acknowledged, without one nothing happens
    refine ⟨hq ▸ hstart', ?_, _, hdelivered, fun h => ?_⟩
    · refine hsem.trans ⟨fun h => ?_, fun h => ?_⟩
      · rcases hcase with ⟨hctx, -⟩ | ⟨-, rfl⟩
        · exact ⟨harrives, h.1, hctx⟩
        · exact absurd h.2 List.not_mem_nil
      · rcases hcase with ⟨-, b, -, -, -, rfl⟩ | ⟨hnot, -⟩
        · exact ⟨h.2.1, by simp⟩
        · exact absurd h.2.2 hnot
    · rcases hcase with ⟨-, b, hext, hseq, hdata, rfl⟩ | ⟨-, rfl⟩
      · rw [hreleased.callback]
        exact List.mem_singleton.mpr (delivery_eq hext hseq hdata).symm
      · exact absurd (hsem.mp h).2 List.not_mem_nil

/-- **The only fragment** gets through exactly if an attempt with both paths intact finds a
context; then the message has been handed up. -/
theorem retry_single (hinv : s.Inv callback)
    (hstart : Unstarted ⟨srcId⟩ (dectMessage seqId data hpos hle) s.receiver.transport.rxPool)
    (hcount : 0 + 1 = fragCount data) (hsent : s.sent.count 0 = 0) (hlast : k = 0 → last ≠ .ok)
    (hexpired : (s.retry ch srcId d seqId data 0 k last).2.expired = false) :
    ((s.retry ch srcId d seqId data 0 k last).1 = .ok ↔
      ∃ a < k, ch.dataArrives 0 a = true ∧ ch.ackReturns 0 a = true ∧
        HasContext ⟨srcId⟩ (dectMessage seqId data hpos hle)
          (ch.receiverAt srcId d seqId data 0 s.receiver a).transport.rxPool) ∧
    ((s.retry ch srcId d seqId data 0 k last).1 = .ok →
      ∃ ms, (s.retry ch srcId d seqId data 0 k last).2.receiver.delivered =
        s.receiver.delivered ++ ms ∧ ⟨srcId, seqId, data⟩ ∈ ms) := by
  -- before every attempt the receiver is the one that the channel's record says
  obtain ⟨hok, hpost⟩ := retry_outcome
    (J := fun a s' =>
      Unstarted ⟨srcId⟩ (dectMessage seqId data hpos hle) s'.receiver.transport.rxPool ∧
      s'.receiver.releaseAll d (ch.releases 0 a) =
        ch.receiverAt srcId d seqId data 0 s.receiver a ∧
      ∃ ms, s'.receiver.delivered = s.receiver.delivered ++ ms)
    (A := fun a => ch.dataArrives 0 a = true ∧ ch.ackReturns 0 a = true ∧
      HasContext ⟨srcId⟩ (dectMessage seqId data hpos hle)
        (ch.receiverAt srcId d seqId data 0 s.receiver a).transport.rxPool)
    (Q := fun s' => ∃ ms, s'.receiver.delivered = s.receiver.delivered ++ ms ∧
      ⟨srcId, seqId, data⟩ ∈ ms)
    hle (by omega) (fun s₁ s₂ hinv hJ hexpired _ hreceiver hattempt => by
      obtain ⟨hstart, hat, ms, hms⟩ := hJ
      obtain ⟨hstart', hsem, ms', hms', hmem⟩ := attempt_single hinv hstart hcount hexpired hattempt
      rw [hat] at hsem
      refine ⟨hsem, fun hA => ⟨ms ++ ms', ?_, List.mem_append_right _ (hmem (hsem.mpr hA))⟩,
        fun _ => ⟨hstart', ?_, ms ++ ms', ?_⟩⟩
      · rw [hms', hms, List.append_assoc]
      · rw [Channel.receiverAt, hreceiver, attempt_receiver hinv hle (by omega), hat]
      · rw [hms', hms, List.append_assoc])
    hlast hinv ⟨hstart, by rw [hsent]; rfl, [], by rw [List.append_nil]⟩ hexpired
  -- the attempts of this loop are counted from 0
  rw [hsent] at hok
  refine ⟨hok.trans ⟨?_, ?_⟩, fun h => ?_⟩
  · rintro ⟨a, -, hhigh, hA⟩
    exact ⟨a, by omega, hA⟩
  · rintro ⟨a, hhigh, hA⟩
    exact ⟨a, Nat.zero_le a, by omega, hA⟩
  · obtain ⟨s', hs', -, hQ, -⟩ := hpost h
    rw [hs']
    exact hQ

/-! ### A spoiled receiver -/

/-- **A spoiled receiver** stays so over a fragment, and is not handed the message. -/
theorem retry_spoiled (hinv : s.Inv callback)
    (hspoiled : Spoiled ⟨srcId⟩ (dectMessage seqId data hpos hle) c s.receiver.transport.rxPool)
    (hc : c < fragCount data)
    (hexpired : (s.retry ch srcId d seqId data c k last).2.expired = false) :
    (s.retry ch srcId d seqId data c k last).2.Inv callback ∧
    Spoiled ⟨srcId⟩ (dectMessage seqId data hpos hle) c
      (s.retry ch srcId d seqId data c k last).2.receiver.transport.rxPool ∧
    ∃ ms, (s.retry ch srcId d seqId data c k last).2.receiver.delivered =
      s.receiver.delivered ++ ms ∧ ⟨srcId, seqId, data⟩ ∉ ms := by
  refine retry_invariant (J := fun s' : Peers =>
    Spoiled (⟨srcId⟩ : DectTransportExt) (dectMessage seqId data hpos hle) c
      s'.receiver.transport.rxPool ∧
    ∃ ms, s'.receiver.delivered = s.receiver.delivered ++ ms ∧
      (⟨srcId, seqId, data⟩ : Delivery) ∉ ms)
    hle hc ?_ (fun _ h => h) hinv ⟨hspoiled, [], by rw [List.append_nil], List.not_mem_nil⟩ hexpired
  rintro s₁ s₂ hinv ⟨hspoiled, ms, hms, hnot⟩ hexpired hattempt
  have hrel := released_releaseAll d s₁.receiver (ch.releases c (s₁.sent.count c))
  cases hattempt with
  -- lost, or refused or handed up with other bytes
  | lost _ hreceiver _ =>
    rw [hreceiver]
    exact ⟨hspoiled.released hrel, ms, hrel.delivered.trans hms, hnot⟩
  | @arrived q effects _ hpool hq hdelivered _ hfresh =>
    have hreleased := hinv.receiver.releaseAll (d := d) (ch.releases c (s₁.sent.count c))
    obtain ⟨hspoiled', hother⟩ := (hspoiled.released hrel).step hpool hreleased.pool
      hreleased.unique (dectKeyed hreleased.query srcId) (hfresh hexpired) hc
    -- what is handed up has other bytes
    refine ⟨hq ▸ hspoiled', ms ++ deliveriesOf effects, ?_, fun hmem => ?_⟩
    · rw [hdelivered, hms, List.append_assoc]
    · rcases List.mem_append.mp hmem with hmem | hmem
      · exact hnot hmem
      · obtain ⟨e, he, hsome⟩ := List.mem_filterMap.mp hmem
        cases e with
        | transportRx b => exact hother b he (congrArg Delivery.data (Option.some.inj hsome))
        | _ => cases hsome

end Retry

/-! ### The whole write -/

/-- The run of the fragments from `c` on. -/
def Peers.transferFrom (ch : Channel) (srcId d : UInt32) (seqId : UInt16) (data : List UInt8)
    (c : ℕ) (s : Peers) : Ret × Peers :=
  (transfer dectTransportLayerTxAttempts dectTransportLayerAckTimeoutMs
    ((framesOf d seqId data).drop c)).exec (ch.handler srcId d) s

section Transfer

variable {callback : TransportRxCallback DectTransportExt} {ch : Channel} {srcId d : UInt32}
  {seqId : UInt16} {data : List UInt8} {hpos : 0 < data.length}
  {hle : data.length ≤ dectTransportLayerMaxRxBufferSizeBytes} {c : ℕ} {s : Peers}

theorem transferFrom_lt (hle : data.length ≤ dectTransportLayerMaxRxBufferSizeBytes)
    (hc : c < fragCount data) :
    s.transferFrom ch srcId d seqId data c =
      match s.retry ch srcId d seqId data c dectTransportLayerTxAttempts .ok with
      | (.ok, s') => s'.transferFrom ch srcId d seqId data (c + 1)
      | (.err e, s') => (.err e, s') := by
  unfold Peers.transferFrom Peers.retry
  rw [drop_framesOf d seqId (by rw [fragTotalOf_toNat hle]; exact hc), exec_transfer_cons]
  rcases (sendWithRetry dectTransportLayerAckTimeoutMs (d, (dataFrameOf seqId data c).toBytes)
    dectTransportLayerTxAttempts .ok).exec (ch.handler srcId d) s with ⟨_ | e, s'⟩ <;> rfl

theorem transferFrom_count (hle : data.length ≤ dectTransportLayerMaxRxBufferSizeBytes) :
    s.transferFrom ch srcId d seqId data (fragCount data) = (.ok, s) := by
  have hlen : (framesOf d seqId data).length ≤ fragCount data := by
    rw [length_framesOf, fragTotalOf_toNat hle]
    exact le_refl _
  unfold Peers.transferFrom
  rw [List.drop_of_length_le hlen]
  rfl

/-- The last fragment decides. -/
theorem transferFrom_last (hle : data.length ≤ dectTransportLayerMaxRxBufferSizeBytes)
    (hc : c + 1 = fragCount data) :
    s.transferFrom ch srcId d seqId data c =
      s.retry ch srcId d seqId data c dectTransportLayerTxAttempts .ok := by
  rw [transferFrom_lt hle (by omega), hc]
  rcases s.retry ch srcId d seqId data c dectTransportLayerTxAttempts .ok with ⟨_ | e, s'⟩
  · exact transferFrom_count hle
  · rfl

/-- A write of a valid message by an initialised device is the transfer of its fragments. -/
theorem write_eq (hinit : s.source.transport.initialized = true) (hpos : 0 < data.length)
    (hle : data.length ≤ dectTransportLayerMaxRxBufferSizeBytes) :
    s.write ch srcId d seqId data = s.transferFrom ch srcId d seqId data 0 := by
  unfold Peers.write dectTransportLayerWrite
  rw [hinit, if_neg Bool.noConfusion, if_neg hpos.ne', if_neg (not_lt.mpr hle)]
  rfl

/-- **All fragments but the last** get through. -/
theorem transferFrom_clean {l : ℕ} (hl : l + 1 = fragCount data) {r : ℕ} (hr : c + r = l)
    (hgood : ∀ i < fragCount data, ∃ a < dectTransportLayerTxAttempts,
      ch.dataArrives i a = true ∧ ch.ackReturns i a = true)
    (hinv : s.Inv callback)
    (hclean : Clean ⟨srcId⟩ (dectMessage seqId data hpos hle) c s.receiver.transport.rxPool)
    (hsent : ∀ j, c ≤ j → s.sent.count j = 0)
    (hexpired : (s.transferFrom ch srcId d seqId data c).2.expired = false) :
    ∃ s' : Peers, s.transferFrom ch srcId d seqId data c = s'.transferFrom ch srcId d seqId data l ∧
      s'.Inv callback ∧
      Clean ⟨srcId⟩ (dectMessage seqId data hpos hle) l s'.receiver.transport.rxPool ∧
      s'.receiver.delivered = s.receiver.delivered ∧ s'.sent.count l = 0 := by
  induction r generalizing c s with
  | zero =>
    obtain rfl : c = l := hr
    exact ⟨s, rfl, hinv, hclean, rfl, hsent c (le_refl c)⟩
  | succ r ih =>
    have hc : c + 1 < fragCount data := by omega
    have hlt : c < fragCount data := by omega
    -- the run of this fragment expires nothing, because that of the rest does not
    have hretry : (s.retry ch srcId d seqId data c dectTransportLayerTxAttempts .ok).2.expired
        = false := by
      rw [transferFrom_lt hle hlt] at hexpired
      rcases hres : s.retry ch srcId d seqId data c dectTransportLayerTxAttempts .ok with ⟨_ | e, s'⟩
      · rw [hres] at hexpired
        exact exec_expired _ hexpired
      · rw [hres] at hexpired
        exact hexpired
    -- the attempt that the channel lets through is among those of the loop
    obtain ⟨a, ha, hboth⟩ := hgood c hlt
    obtain ⟨s', hs', hinv', hclean', hdelivered, hcount⟩ := retry_middle hinv hclean hc
      ⟨a, by rw [hsent c (le_refl c)]; exact Nat.zero_le a, by
        rw [hsent c (le_refl c), Nat.zero_add]; exact ha, hboth⟩ (fun h => by cases h) hretry
    have hnext : s.transferFrom ch srcId d seqId data c =
        s'.transferFrom ch srcId d seqId data (c + 1) := by
      rw [transferFrom_lt hle hlt, hs']
    rw [hnext] at hexpired ⊢
    obtain ⟨s'', hs'', hinv'', hclean'', hdelivered', hlast⟩ := ih (by omega) hinv' hclean'
      (fun j hj => by rw [hcount j (by omega), hsent j (by omega)]) hexpired
    exact ⟨s'', hs'', hinv'', hclean'', hdelivered'.trans hdelivered, hlast⟩

/-- **A spoiled receiver** is not handed the message by the whole transfer. -/
theorem transferFrom_spoiled {r : ℕ} (hr : c + r = fragCount data) (hinv : s.Inv callback)
    (hspoiled : Spoiled ⟨srcId⟩ (dectMessage seqId data hpos hle) c s.receiver.transport.rxPool)
    (hexpired : (s.transferFrom ch srcId d seqId data c).2.expired = false) :
    ∃ ms, (s.transferFrom ch srcId d seqId data c).2.receiver.delivered =
      s.receiver.delivered ++ ms ∧ ⟨srcId, seqId, data⟩ ∉ ms := by
  induction r generalizing c s with
  | zero =>
    obtain rfl : c = fragCount data := hr
    rw [transferFrom_count hle]
    exact ⟨[], by rw [List.append_nil], List.not_mem_nil⟩
  | succ r ih =>
    have hlt : c < fragCount data := by omega
    rw [transferFrom_lt hle hlt] at hexpired ⊢
    rcases hres : s.retry ch srcId d seqId data c dectTransportLayerTxAttempts .ok with ⟨_ | e, s'⟩
    · -- the fragment is acknowledged all the same, and the transfer goes on
      rw [hres] at hexpired
      dsimp only at hexpired ⊢
      have hretry := exec_expired _ hexpired
      obtain ⟨hinv', hspoiled', ms, hms, hnot⟩ := @retry_spoiled callback ch srcId d seqId data
        hpos hle c dectTransportLayerTxAttempts .ok s hinv hspoiled hlt (by rw [hres]; exact hretry)
      rw [hres] at hinv' hspoiled' hms
      obtain ⟨ms', hms', hnot'⟩ := ih (by omega) hinv' (hspoiled'.mono (Nat.le_succ c)) hexpired
      refine ⟨ms ++ ms', by rw [hms', hms, List.append_assoc], fun hmem => ?_⟩
      rcases List.mem_append.mp hmem with hmem | hmem
      · exact hnot hmem
      · exact hnot' hmem
    · -- the attempts are used up, and the transfer ends with the error
      rw [hres] at hexpired
      obtain ⟨-, -, ms, hms, hnot⟩ := @retry_spoiled callback ch srcId d seqId data
        hpos hle c dectTransportLayerTxAttempts .ok s hinv hspoiled hlt (by rw [hres]; exact hexpired)
      rw [hres] at hms
      exact ⟨ms, hms, hnot⟩

end Transfer

/-! ### The condition -/

/-- What the pool is RECEIVING under the key of the message are first fragments of it, of an earlier
call with the same data for instance. -/
def HoldsOnly {ε κ : Type} (e : ε) (m : Message) (p : TransportBufferPool ε κ) : Prop :=
  ∀ b ∈ p.contexts, Matches e (m.fragment 0) b →
    b.fragIdx.toNat < m.count ∧ b.data = m.data.take (m.size * b.fragIdx.toNat)

section Condition

variable {ε κ : Type} {e : ε} {m : Message} {p : TransportBufferPool ε κ}

/-- Such a pool is clean from the first fragment on, given a FREE context. -/
theorem HoldsOnly.clean (h : HoldsOnly e m p) (hfree : ∃ b ∈ p.contexts, b.state = .free) :
    Clean e m 0 p := by
  by_cases hold : ∃ b ∈ p.contexts, Matches e (m.fragment 0) b
  · obtain ⟨b, hb, hm⟩ := hold
    obtain ⟨j, hj⟩ := List.getElem?_of_mem hb
    obtain ⟨hlt, hdata⟩ := h b hb hm
    have hassembles := hm.assembles
    rw [hdata, List.take_append_drop] at hassembles
    exact .tracks (Nat.zero_le _) hlt ⟨j, b, hj, hassembles, rfl⟩
  · exact .vacant rfl (fun b hb hm => hold ⟨b, hb, hm⟩) hfree

/-- For a message of one fragment it has accepted nothing yet. -/
theorem HoldsOnly.unstarted (h : HoldsOnly e m p) (hcount : 0 + 1 = m.count) :
    Unstarted e m p := by
  intro b hb hm
  obtain ⟨hlt, hdata⟩ := h b hb hm
  have hzero : b.fragIdx.toNat = 0 := by omega
  rw [hzero, Nat.mul_zero, List.take_zero] at hdata
  exact ⟨UInt8.toNat_inj.mp hzero, hdata⟩

/-- Otherwise it is spoiled: the context goes on to a message of other bytes, or it has counted too
many fragments already. -/
theorem spoiled_of_not_holdsOnly (h : ¬ HoldsOnly e m p) : Spoiled e m 0 p := by
  unfold HoldsOnly at h
  push Not at h
  obtain ⟨b, hb, hm, hother⟩ := h
  obtain ⟨j, hj⟩ := List.getElem?_of_mem hb
  refine .tracks ?_ ⟨j, b, hj, hm.assembles, rfl⟩
  by_cases hlt : b.fragIdx.toNat < m.count
  · refine Or.inl fun heq => hother hlt ?_
    -- the whole determines the bytes held, the rest being that of the message
    have hsplit := List.take_append_drop (m.size * b.fragIdx.toNat) m.data
    exact List.append_cancel_right (heq.trans hsplit.symm)
  · exact Or.inr (not_lt.mp hlt)

end Condition

/-- The condition under which a write survives the losses of a channel: the receiver holds nothing
else under the key of the message; of several fragments, the first arrival of the last one is
answered; a single fragment finds a context in an attempt with both paths intact. -/
structure Survives (ch : Channel) (srcId d : UInt32) (seqId : UInt16) (data : List UInt8)
    (hpos : 0 < data.length) (hle : data.length ≤ dectTransportLayerMaxRxBufferSizeBytes)
    (receiver : Device) : Prop where
  holdsOnly : HoldsOnly ⟨srcId⟩ (dectMessage seqId data hpos hle) receiver.transport.rxPool
  several : 2 ≤ fragCount data →
    FirstArrivalAnswered ch (fragCount data - 1) 0 dectTransportLayerTxAttempts
  single : fragCount data = 1 → ∃ a < dectTransportLayerTxAttempts,
    ch.dataArrives 0 a = true ∧ ch.ackReturns 0 a = true ∧
      HasContext ⟨srcId⟩ (dectMessage seqId data hpos hle)
        (ch.receiverAt srcId d seqId data 0 receiver a).transport.rxPool

/-- **Which losses are survived.** Every fragment has an attempt with both paths intact, the
receiver has a FREE context and a callback, and no context times out: then the write returns 0 with
the message handed up if and only if the condition holds. -/
theorem write_survives_loss_iff (sourceCallback : Option (TransportRxCallback DectTransportExt))
    (callback : TransportRxCallback DectTransportExt) (srcId d : UInt32) (seqId : UInt16)
    (data : List UInt8) (hpos : 0 < data.length)
    (hle : data.length ≤ dectTransportLayerMaxRxBufferSizeBytes)
    (sourceHistory history : List DeviceInput) (source receiver : Device) (ch : Channel)
    (hsource : source = runs (Device.step srcId) (Device.init sourceCallback) sourceHistory)
    (hreceiver : receiver = runs (Device.step d) (Device.init (some callback)) history)
    (hfree : ∃ b ∈ receiver.transport.rxPool.contexts, b.state = .free)
    (hgood : ∀ i < fragCount data, ∃ a < dectTransportLayerTxAttempts,
      ch.dataArrives i a = true ∧ ch.ackReturns i a = true)
    (hexpired : ((Peers.mk source receiver [] false).write ch srcId d seqId data).2.expired
      = false) :
    (((Peers.mk source receiver [] false).write ch srcId d seqId data).1 = .ok ∧
      ⟨srcId, seqId, data⟩ ∈ ((Peers.mk source receiver [] false).write ch srcId d seqId
        data).2.receiver.delivered.drop receiver.delivered.length) ↔
    Survives ch srcId d seqId data hpos hle receiver := by
  have hsrc : ReceiverInv sourceCallback source := hsource ▸ receiverInv_runs _ _ _
  have hrecv : ReceiverInv (some callback) receiver := hreceiver ▸ receiverInv_runs _ _ _
  have hinv : (Peers.mk source receiver [] false).Inv callback := ⟨⟨_, hsrc⟩, hrecv⟩
  have hcountpos : 0 < fragCount data := Chunks.count_pos (by decide) hpos
  obtain ⟨l, hl⟩ : ∃ l, l + 1 = fragCount data := ⟨fragCount data - 1, by omega⟩
  rw [write_eq hsrc.initialized hpos hle] at hexpired ⊢
  by_cases hholds : HoldsOnly ⟨srcId⟩ (dectMessage seqId data hpos hle) receiver.transport.rxPool
  · -- a single fragment, whose attempts each start a message of its own
    by_cases hone : l = 0
    · subst hone
      rw [transferFrom_last hle hl] at hexpired ⊢
      obtain ⟨hok, hmsg⟩ := retry_single hinv (hholds.unstarted hl) hl rfl (fun h => by cases h)
        hexpired
      constructor
      · rintro ⟨hret, -⟩
        exact ⟨hholds, fun h => by omega, fun _ => hok.mp hret⟩
      · intro h
        have hret := hok.mpr (h.single hl.symm)
        obtain ⟨ms, hms, hmem⟩ := hmsg hret
        exact ⟨hret, by rw [hms, List.drop_left]; exact hmem⟩
    · -- several: those before the last get through, and the last one decides
      obtain ⟨s', hs', hinv', hclean, hdelivered, hsent⟩ := transferFrom_clean hl
        (Nat.zero_add l) hgood hinv (hholds.clean hfree) (fun _ _ => rfl) hexpired
      rw [hs', transferFrom_last hle hl] at hexpired ⊢
      obtain ⟨hok, hmsg⟩ := retry_last hinv' hclean hl (Nat.one_le_iff_ne_zero.mpr hone)
        (fun h => by cases h) hexpired
      rw [hsent] at hok
      have hlast : fragCount data - 1 = l := by omega
      constructor
      · rintro ⟨hret, -⟩
        exact ⟨hholds, fun _ => by rw [hlast]; exact hok.mp hret, fun h => by omega⟩
      · intro h
        have hret := hok.mpr (hlast ▸ h.several (by omega))
        refine ⟨hret, ?_⟩
        rw [hmsg hret, hdelivered, List.drop_left]
        exact List.mem_singleton.mpr rfl
  · -- something else is under the key
    obtain ⟨ms, hms, hnot⟩ := transferFrom_spoiled (Nat.zero_add _) hinv
      (spoiled_of_not_holdsOnly hholds) hexpired
    constructor
    · rintro ⟨-, hmem⟩
      rw [hms, List.drop_left] at hmem
      exact absurd hmem hnot
    · exact fun h => absurd h.holdsOnly hholds

/-- A channel that loses the data frame of fragment `i` in attempt `a` where `data i a`, and the
ACK where `ack i a`. -/
def lossyChannel (data ack : ℕ → ℕ → Bool) : Channel where
  dataArrives i a := !data i a
  ackReturns i a := !ack i a
  clock _ _ := 0
  releases _ _ := []
  beyond _ := 0

/-- Two devices that have just started, the second with a callback. -/
def freshPeers : Peers := ⟨.init none, .init (some fun _ => 1), [], false⟩

/-- Two fragments, the first ACK of fragment 0 and the first data frame of fragment 1 being lost:
the write succeeds, since the last fragment is answered at its first arrival. -/
theorem write_survives_twoLosses :
    (freshPeers.write (lossyChannel (fun i a => i = 1 && a = 0) fun i a => i = 0 && a = 0) 1 2 7
      fifteenBytes).1 = .ok ∧
    ⟨1, 7, fifteenBytes⟩ ∈ (freshPeers.write
      (lossyChannel (fun i a => i = 1 && a = 0) fun i a => i = 0 && a = 0) 1 2 7
      fifteenBytes).2.receiver.delivered.drop 0 := by
  refine (write_survives_loss_iff none (fun _ => 1) 1 2 7 fifteenBytes (by decide) (by decide) [] []
    _ _ _ rfl rfl (by decide) (fun i hi => ⟨1, by decide, ?_⟩) (by decide +kernel)).mpr
    ⟨fun b hb hm => ?_, fun _ => ⟨1, by decide, by decide, rfl, rfl, fun a' _ ha => ?_⟩,
      fun h => absurd h (by decide)⟩
  · simp [lossyChannel]
  · have hst := hm.receiving
    rw [List.eq_of_mem_replicate hb] at hst
    cases hst
  · obtain rfl := Nat.lt_one_iff.mp ha
    rfl

/-- When the first ACK of the last fragment is lost, the three attempts left are in vain although
they lose nothing. The message has been handed up, but the write returns an error. -/
theorem lost_last_ack_fails :
    ¬ ∀ (sourceCallback : Option (TransportRxCallback DectTransportExt))
        (callback : TransportRxCallback DectTransportExt) (srcId d : UInt32) (seqId : UInt16)
        (data : List UInt8) (sourceHistory history : List DeviceInput) (source receiver : Device)
        (ch : Channel), 0 < data.length → data.length ≤ dectTransportLayerMaxRxBufferSizeBytes →
      source = runs (Device.step srcId) (Device.init sourceCallback) sourceHistory →
      receiver = runs (Device.step d) (Device.init (some callback)) history →
      (∃ b ∈ receiver.transport.rxPool.contexts, b.state = .free) →
      (∀ i < fragCount data, ∃ a < dectTransportLayerTxAttempts,
        ch.dataArrives i a = true ∧ ch.ackReturns i a = true) →
      ((Peers.mk source receiver [] false).write ch srcId d seqId data).2.expired = false →
      ((Peers.mk source receiver [] false).write ch srcId d seqId data).1 = .ok ∧
        ⟨srcId, seqId, data⟩ ∈ ((Peers.mk source receiver [] false).write ch srcId d seqId
          data).2.receiver.delivered.drop receiver.delivered.length := by
  intro h
  obtain ⟨hret, -⟩ := h none (fun _ => 1) 1 2 7 fifteenBytes [] [] _ _
    (lossyChannel (fun _ _ => false) fun i a => i = 1 && a = 0) (by decide) (by decide) rfl rfl
    (by decide) (fun i _ => ⟨1, by decide, by simp [lossyChannel]⟩) (by decide +kernel)
  exact absurd hret (by decide +kernel)

end DectCommunicator
