import DectCommunicator.Dect.Receiver
import DectCommunicator.Utils.BufferBound

/-!
# The contract of `transport_buffer_pool_get`

What one call returns and what it leaves behind, in terms of true time: `nowMs` is the uptime in
milliseconds and `rxMs i` the uptime at which context `i` last accepted a fragment. The pool only
sees both modulo 2^32, which is enough while the age of a context is below 2^32 (`Aged`).

`PoolGetContract` says what the caller may rely on. It needs the pool invariant and the uniqueness
of keys (`transportBufferPoolGet_contract`); without the latter the first match would not be the
only one. A context that was just allocated still has the source id of its former message, so the
keys are unique again only once `prv_handle_data_frame` has stored the new one
(`Obtained.keyUnique_mark`).
-/

namespace DectCommunicator

open Machine

/-! ### True age -/

section Contract

variable {ε κ : Type} {p q : TransportBufferPool ε κ} {nowMs : ℕ} {rxMs : ℕ → ℕ} {f : Fragment}
  {params : Option κ} {mark : ε → ε} {e : ε} {i j : ℕ} {b c : TransportBuffer ε}
  {result : Option ℕ}

/-- Every RECEIVING context `i` last accepted a fragment at `rxMs i`, less than 2^32 ms ago. Beyond
this age, of about 49 days, the wrapping clock could not tell an old context from a young one. -/
def Aged (p : TransportBufferPool ε κ) (nowMs : ℕ) (rxMs : ℕ → ℕ) : Prop :=
  ∀ i b, p.contexts[i]? = some b → b.state = .receiving →
    rxMs i ≤ nowMs ∧ nowMs - rxMs i < 2 ^ 32 ∧ b.lastRxTimeMs = UInt32.ofNat (rxMs i)

/-- Context `i` is RECEIVING and its last fragment is at least the timeout old, in true time. -/
def Overdue (p : TransportBufferPool ε κ) (nowMs : ℕ) (rxMs : ℕ → ℕ) (i : ℕ)
    (b : TransportBuffer ε) : Prop :=
  b.state = .receiving ∧ p.rxTimeoutMs.toNat ≤ nowMs - rxMs i

/-- The timeout test on the wrapping clock is the test on the true age, also across a wrap. -/
theorem Aged.timedOut_iff (h : Aged p nowMs rxMs) (hi : p.contexts[i]? = some b) :
    b.timedOut (UInt32.ofNat nowMs) p.rxTimeoutMs = true ↔ Overdue p nowMs rxMs i b := by
  unfold TransportBuffer.timedOut Overdue
  rw [Bool.and_eq_true, decide_eq_true_eq, decide_eq_true_eq]
  refine and_congr_right fun hb => ?_
  obtain ⟨hle, hlt, hrx⟩ := h i b hi hb
  -- The difference of the two readings is the true age, as both have wrapped the same number of
  -- times or the age makes up for it.
  have hage : UInt32.ofNat nowMs - b.lastRxTimeMs = UInt32.ofNat (nowMs - rxMs i) := by
    rw [hrx, ← Nat.sub_add_cancel hle, UInt32.ofNat_add, UInt32.add_sub_cancel,
      Nat.add_sub_cancel]
  rw [hage, UInt32.le_iff_toNat_le, UInt32.toNat_ofNat_of_lt' hlt]

/-- Context `i` survives the call and is the one that the query asks for: the message of the
fragment, and what the transport adds. -/
structure Asked (p : TransportBufferPool ε κ) (nowMs : ℕ) (rxMs : ℕ → ℕ) (f : Fragment)
    (params : Option κ) (i : ℕ) (b : TransportBuffer ε) : Prop where
  at_index : p.contexts[i]? = some b
  receiving : b.state = .receiving
  fresh : ¬ Overdue p nowMs rxMs i b
  seqId : b.seqId = f.seqId
  fragTotal : b.fragTotal = f.fragTotal
  totalSizeBytes : b.totalSizeBytes = f.totalSizeBytes
  query : ∀ query, p.additionalQueryCb = some query → query b params = true

/-- Context `i` is FREE, or is released by the call itself, which comes to the same for an
allocation. -/
def Available (p : TransportBufferPool ε κ) (nowMs : ℕ) (rxMs : ℕ → ℕ) (i : ℕ) : Prop :=
  ∃ b, p.contexts[i]? = some b ∧ (b.state = .free ∨ Overdue p nowMs rxMs i b)

/-- The context `b` as it is allocated for the message of `f`, with the buffer `id`. -/
def TransportBuffer.openedFor (b : TransportBuffer ε) (id nowMs : ℕ) (f : Fragment) :
    TransportBuffer ε where
  buffer := some ⟨id, 1, []⟩
  state := .receiving
  seqId := f.seqId
  totalSizeBytes := f.totalSizeBytes
  fragTotal := f.fragTotal
  fragIdx := 0
  lastRxTimeMs := UInt32.ofNat nowMs
  ext := b.ext

/-- **The contract**: the pool `p` answers a query for `f` with `result` and is `q` afterwards. -/
structure PoolGetContract (p : TransportBufferPool ε κ) (nowMs : ℕ) (rxMs : ℕ → ℕ) (f : Fragment)
    (params : Option κ) (result : Option ℕ) (q : TransportBufferPool ε κ) : Prop where
  /-- a surviving context that matches is the result, so there is only one -/
  found : ∀ i b, Asked p nowMs rxMs f params i b → result = some i ∧ q.contexts[i]? = some b
  /-- otherwise the first fragment gets the first context that is FREE or just released -/
  opened : (∀ i b, ¬ Asked p nowMs rxMs f params i b) → f.fragIdx = 0 →
    ∀ i, Available p nowMs rxMs i → (∀ j < i, ¬ Available p nowMs rxMs j) →
      result = some i ∧ ∃ b id, p.contexts[i]? = some b ∧
        q.contexts[i]? = some (b.openedFor id nowMs f)
  /-- otherwise the result is NULL -/
  null : result = none ↔ (∀ i b, ¬ Asked p nowMs rxMs f params i b) ∧
    (f.fragIdx ≠ 0 ∨ ∀ i, ¬ Available p nowMs rxMs i)
  /-- overdue contexts are released, and possibly allocated again -/
  released : ∀ j c, p.contexts[j]? = some c → Overdue p nowMs rxMs j c → result ≠ some j →
    q.contexts[j]? = some c.released
  /-- the other contexts are unchanged -/
  unchanged : ∀ j c, p.contexts[j]? = some c → ¬ Overdue p nowMs rxMs j c → result ≠ some j →
    q.contexts[j]? = some c
  length_eq : q.contexts.length = p.contexts.length
  pool : PoolInv q

/-! ### The call -/

/-- The contexts after the first loop: the overdue ones are released and the others are as they
were. -/
theorem Aged.getElem?_expire (h : Aged p nowMs rxMs) (hi : p.contexts[i]? = some b) :
    (Overdue p nowMs rxMs i b →
        (p.expire (UInt32.ofNat nowMs)).contexts[i]? = some b.released) ∧
      (¬ Overdue p nowMs rxMs i b → (p.expire (UInt32.ofNat nowMs)).contexts[i]? = some b) := by
  rw [expire_contexts, List.getElem?_map, hi, Option.map_some]
  unfold TransportBuffer.expire
  constructor
  · intro hdue
    rw [if_pos ((h.timedOut_iff hi).mpr hdue)]
  · intro hdue
    rw [if_neg fun htimed => hdue ((h.timedOut_iff hi).mp htimed)]

/-- The first loop does not touch the owner's fields, so a context that is allocated again has those
of its former message. -/
theorem getElem?_expire_ext {now : UInt32} (hi : (p.expire now).contexts[i]? = some c) :
    ∃ b, p.contexts[i]? = some b ∧ c.ext = b.ext := by
  rw [expire_contexts, List.getElem?_map, Option.map_eq_some_iff] at hi
  obtain ⟨b, hb, rfl⟩ := hi
  refine ⟨b, hb, ?_⟩
  unfold TransportBuffer.expire
  split <;> rfl

/-- A context is FREE after the first loop exactly if it is available. -/
theorem Aged.available_iff (h : Aged p nowMs rxMs) (i : ℕ) :
    Available p nowMs rxMs i ↔
      ∃ c, (p.expire (UInt32.ofNat nowMs)).contexts[i]? = some c ∧ c.state = .free := by
  constructor
  · rintro ⟨b, hi, hfree | hdue⟩
    · -- a FREE context is not overdue, and so is not touched
      have hdue : ¬ Overdue p nowMs rxMs i b := fun hdue => by
        have hst := hdue.1
        rw [hfree] at hst
        cases hst
      exact ⟨b, (h.getElem?_expire hi).2 hdue, hfree⟩
    · exact ⟨_, (h.getElem?_expire hi).1 hdue, rfl⟩
  · rintro ⟨c, hc, hfree⟩
    obtain ⟨b, hi, -⟩ := getElem?_expire_ext hc
    -- it is FREE because its time was over, or was FREE before
    by_cases hdue : Overdue p nowMs rxMs i b
    · exact ⟨b, hi, Or.inr hdue⟩
    · rw [(h.getElem?_expire hi).2 hdue] at hc
      obtain rfl := Option.some.inj hc
      exact ⟨_, hi, Or.inl hfree⟩

/-- The contexts that the second loop finds are the ones asked for. The loop looks at the pool that
the first one has left, and the contract at the pool before. -/
theorem Aged.asked_iff (h : Aged p nowMs rxMs) :
    Asked p nowMs rxMs f params i b ↔
      (p.expire (UInt32.ofNat nowMs)).contexts[i]? = some b ∧
        p.isMatch f.seqId f.totalSizeBytes.toNat f.fragTotal params b = true := by
  rw [isMatch_iff]
  constructor
  · intro hb
    exact ⟨(h.getElem?_expire hb.at_index).2 hb.fresh, hb.receiving, hb.seqId.symm,
      hb.fragTotal.symm, by rw [hb.totalSizeBytes], hb.query⟩
  · rintro ⟨hi, hst, hseq, hfrag, htotal, hquery⟩
    obtain ⟨hold, hfresh⟩ := getElem?_expire_receiving hi hst
    refine ⟨hold, hst, fun hdue => ?_, hseq.symm, hfrag.symm, UInt16.toNat_inj.mp htotal.symm,
      hquery⟩
    rw [(h.timedOut_iff hold).mpr hdue] at hfresh
    cases hfresh

/-- Every context of the pool left by the first loop is one of these two: overdue and released, or
as it was. -/
theorem Aged.kept (h : Aged p nowMs rxMs) (result : Option ℕ)
    (hq : ∀ j, result ≠ some j → q.contexts[j]? = (p.expire (UInt32.ofNat nowMs)).contexts[j]?) :
    (∀ j c, p.contexts[j]? = some c → Overdue p nowMs rxMs j c → result ≠ some j →
        q.contexts[j]? = some c.released) ∧
      ∀ j c, p.contexts[j]? = some c → ¬ Overdue p nowMs rxMs j c → result ≠ some j →
        q.contexts[j]? = some c :=
  ⟨fun j _ hj hdue hne => (hq j hne).trans ((h.getElem?_expire hj).1 hdue),
    fun j _ hj hdue hne => (hq j hne).trans ((h.getElem?_expire hj).2 hdue)⟩

/-- **The contract is met**, by every pool in order whose keys are unique. Of the transport it is
only needed that its query and its mark agree. -/
theorem transportBufferPoolGet_contract (hinv : PoolInv p) (hunique : KeyUnique p)
    (hkey : Keyed p.additionalQueryCb params mark e) (h : Aged p nowMs rxMs) (f : Fragment) :
    PoolGetContract p nowMs rxMs f params
      (transportBufferPoolGet p (UInt32.ofNat nowMs) f.seqId f.totalSizeBytes.toNat f.fragIdx
        f.fragTotal params).1
      (transportBufferPoolGet p (UInt32.ofNat nowMs) f.seqId f.totalSizeBytes.toNat f.fragIdx
        f.fragTotal params).2 := by
  -- two contexts that are asked for have the same key
  have hone : ∀ {i b j c}, Asked p nowMs rxMs f params i b → Asked p nowMs rxMs f params j c →
      j = i := by
    intro i b j c hb hc
    have hmb := (isMatch_iff_matches hkey).mp (h.asked_iff.mp hb).2
    have hmc := (isMatch_iff_matches hkey).mp (h.asked_iff.mp hc).2
    exact hunique j i c b e f hc.at_index hb.at_index hmc hmb
  -- One case for each way in which the call can end: found, allocated, or refused.
  rcases transportBufferPoolGet_spec p (UInt32.ofNat nowMs) f params with
    ⟨i, b, q, hget, hq⟩ | ⟨q, hget, hq⟩
  · rw [hget]
    obtain ⟨hreleased, hunchanged⟩ := h.kept (some i) fun j hne =>
      hq.getElem?_of_ne fun hji => hne (congrArg some hji.symm)
    have hpool := hq.poolInv hinv
    have hlen := hq.length_eq
    cases hq with
    | found hi hmatch =>
      have hasked := h.asked_iff.mpr ⟨hi, hmatch⟩
      refine ⟨fun j c hc => ?_, fun hnone => absurd hasked (hnone i b), ?_, hreleased, hunchanged,
        hlen, hpool⟩
      · obtain rfl := hone hasked hc
        exact ⟨rfl, (h.asked_iff.mp hc).1⟩
      · exact ⟨fun h => (by cases h), fun h => absurd hasked (h.1 i b)⟩
    | @fresh id c rest hidx hnone hi hfree hfirst hbufs =>
      have hno : ∀ j c, ¬ Asked p nowMs rxMs f params j c := fun j c hc => by
        obtain ⟨hj, hmatch⟩ := h.asked_iff.mp hc
        rw [hnone c (List.mem_of_getElem? hj)] at hmatch
        cases hmatch
      have havail : Available p nowMs rxMs i := (h.available_iff i).mpr ⟨c, hi, hfree⟩
      refine ⟨fun j c hc => absurd hc (hno j c), fun _ _ j hj hbefore => ?_, ?_, hreleased,
        hunchanged, hlen, hpool⟩
      · -- the first FREE context after the first loop is the first one available
        have hji : j = i := by
          rcases Nat.lt_trichotomy j i with hlt | heq | hlt
          · obtain ⟨d, hd, hst⟩ := (h.available_iff j).mp hj
            exact absurd hst (hfirst j d hlt hd)
          · exact heq
          · exact absurd havail (hbefore i hlt)
        subst hji
        obtain ⟨b, hb, hext⟩ := getElem?_expire_ext hi
        obtain ⟨hlt, -⟩ := List.getElem?_eq_some_iff.mp hi
        refine ⟨rfl, b, id, hb, (List.getElem?_set_self hlt).trans (congrArg some ?_)⟩
        unfold TransportBuffer.allocated TransportBuffer.openedFor
        rw [hext, UInt16.ofNat_toNat]
      · refine ⟨fun h => (by cases h), fun ⟨_, hwhy⟩ => ?_⟩
        exact hwhy.elim (absurd hidx) fun hall => absurd havail (hall i)
  · rw [hget]
    cases hq with
    -- A transport whose query and parameters agree does not run into the first check.
    | misuse hmisuse => exact absurd hmisuse hkey.allowed
    | noContext hnone hwhy =>
      have hno : ∀ j c, ¬ Asked p nowMs rxMs f params j c := fun j c hc => by
        obtain ⟨hj, hmatch⟩ := h.asked_iff.mp hc
        rw [hnone c (List.mem_of_getElem? hj)] at hmatch
        cases hmatch
      obtain ⟨hreleased, hunchanged⟩ := h.kept none
        (q := p.expire (UInt32.ofNat nowMs)) fun j _ => rfl
      -- while a context is FREE there is a buffer for it
      have hwhy : f.fragIdx ≠ 0 ∨ ∀ i, ¬ Available p nowMs rxMs i := by
        rcases hwhy with hidx | hall | hbufs
        · exact Or.inl hidx
        · refine Or.inr fun j hj => ?_
          obtain ⟨c, hc, hfree⟩ := (h.available_iff j).mp hj
          exact hall c (List.mem_of_getElem? hc) hfree
        · refine Or.inr fun j hj => ?_
          obtain ⟨c, hc, hfree⟩ := (h.available_iff j).mp hj
          exact (hinv.expire _).freeBufs_ne_nil hc hfree hbufs
      refine ⟨fun j c hc => absurd hc (hno j c), fun _ hidx j hj _ => ?_, ?_, hreleased,
        hunchanged, List.length_map _, hinv.expire _⟩
      · exact hwhy.elim (absurd hidx) fun hall => absurd hj (hall j)
      · exact ⟨fun _ => ⟨hno, hwhy⟩, fun _ => rfl⟩

/-- Once the owner has marked the context that was obtained, the keys are unique again. Before, a
context just allocated may have the key of another one. -/
theorem Obtained.keyUnique_mark {now : UInt32} (hq : Obtained p now f params i b q)
    (hkey : Keyed p.additionalQueryCb params mark e) (hunique : KeyUnique p) :
    KeyUnique (q.store i (b.mark mark)) :=
  hunique.store hkey hq fun _ => hq.matches hkey

end Contract

/-! ### Reachable states -/

/-- What holds of the DECT transport in every state it can reach, whatever frames arrive. -/
structure DectReceiverInv (callback : Option (TransportRxCallback DectTransportExt))
    (st : DectTransportLayer) : Prop where
  pool : PoolInv st.rxPool
  query : st.rxPool.additionalQueryCb = some prvAdditionalQueryMatches
  unique : KeyUnique st.rxPool
  callback : st.transportRxCallback = callback

section Reachable

variable {dectCallback : Option (TransportRxCallback DectTransportExt)}
  {bleCallback : Option (TransportRxCallback Unit)}

theorem DectReceiverInv.init (callback : Option (TransportRxCallback DectTransportExt)) :
    DectReceiverInv callback (.init callback) where
  pool := .init _ _ _ _ _
  query := rfl
  unique := .init _ _ _ _ _
  callback := rfl

/-- A frame of any content keeps the invariant, also one that is no data frame. -/
theorem DectReceiverInv.rx {st : DectTransportLayer} (h : DectReceiverInv dectCallback st)
    (now srcId : UInt32) (buf : List UInt8) :
    DectReceiverInv dectCallback (prvOnDataLayerRx now srcId buf st).1 := by
  have hspec := prvOnDataLayerRx_spec now srcId buf st
  generalize (prvOnDataLayerRx now srcId buf st).1 = st' at hspec
  generalize (prvOnDataLayerRx now srcId buf st).2 = effects at hspec
  cases hspec with
  | dropped => exact h
  | ack => exact { h with }
  | data f hpool =>
    exact
      { pool := hpool.poolInv h.pool
        query := hpool.config.1.trans h.query
        unique := hpool.keyUnique (dectKeyed h.query srcId) h.unique
        callback := h.callback }

/-- The consumer of a message drops a reference, which leaves the RECEIVING contexts as they are. -/
theorem DectReceiverInv.release {st : DectTransportLayer} (h : DectReceiverInv dectCallback st)
    (i : ℕ) : DectReceiverInv dectCallback { st with rxPool := releaseReferenced st.rxPool i } where
  pool := h.pool.release i
  query := (releaseReferenced_additionalQueryCb _ i).trans h.query
  unique := h.unique.release i
  callback := h.callback

/-- Both transports are in a state they can reach. They have no state in common. -/
structure TransportsInv (dectCallback : Option (TransportRxCallback DectTransportExt))
    (bleCallback : Option (TransportRxCallback Unit)) (st : Transports) : Prop where
  dect : DectReceiverInv dectCallback st.dect
  ble : BleReceiverInv bleCallback st.ble

theorem TransportsInv.init (dectCallback : Option (TransportRxCallback DectTransportExt))
    (bleCallback : Option (TransportRxCallback Unit)) :
    TransportsInv dectCallback bleCallback (.init dectCallback bleCallback) :=
  ⟨.init dectCallback, .init bleCallback⟩

theorem TransportsInv.step {st : Transports} (h : TransportsInv dectCallback bleCallback st)
    (x : RxInput) : TransportsInv dectCallback bleCallback (st.step x).1 := by
  cases x with
  | dect now srcId buf => exact ⟨h.dect.rx now srcId buf, h.ble⟩
  | ble now buf => exact ⟨h.dect, h.ble.dataWrite now buf⟩
  | releaseDect i => exact ⟨h.dect.release i, h.ble⟩
  | releaseBle i => exact ⟨h.dect, h.ble.release i⟩

/-- The invariant holds after every sequence of frames and releases. -/
theorem transportsInv_runs (dectCallback : Option (TransportRxCallback DectTransportExt))
    (bleCallback : Option (TransportRxCallback Unit)) (xs : List RxInput) :
    TransportsInv dectCallback bleCallback
      (runs Transports.step (.init dectCallback bleCallback) xs) :=
  runs_invariant (P := TransportsInv dectCallback bleCallback) (C := fun _ => True)
    (fun _ x h _ => h.step x) (fun _ _ => trivial) (.init dectCallback bleCallback)

/-- **`transport_buffer_pool_get` meets its contract** for the queries of both transports, whatever
the pool and the clock. In every state that frames and releases lead to, the pools are in order and
no two RECEIVING contexts have the same key; it stays so when a context has been obtained and
`prv_handle_data_frame` has stored the source id in it. -/
theorem transportBufferPoolGet_meets_contract :
    (∀ (p : TransportBufferPool DectTransportExt UInt32) (nowMs : ℕ) (rxMs : ℕ → ℕ)
        (srcId : UInt32) (f : Fragment), p.additionalQueryCb = some prvAdditionalQueryMatches →
      PoolInv p → KeyUnique p → Aged p nowMs rxMs →
      PoolGetContract p nowMs rxMs f (some srcId)
        (transportBufferPoolGet p (UInt32.ofNat nowMs) f.seqId f.totalSizeBytes.toNat f.fragIdx
          f.fragTotal (some srcId)).1
        (transportBufferPoolGet p (UInt32.ofNat nowMs) f.seqId f.totalSizeBytes.toNat f.fragIdx
          f.fragTotal (some srcId)).2) ∧
    (∀ (p : TransportBufferPool Unit Unit) (nowMs : ℕ) (rxMs : ℕ → ℕ) (f : Fragment),
      p.additionalQueryCb = none → PoolInv p → KeyUnique p → Aged p nowMs rxMs →
      PoolGetContract p nowMs rxMs f none
        (transportBufferPoolGet p (UInt32.ofNat nowMs) f.seqId f.totalSizeBytes.toNat f.fragIdx
          f.fragTotal none).1
        (transportBufferPoolGet p (UInt32.ofNat nowMs) f.seqId f.totalSizeBytes.toNat f.fragIdx
          f.fragTotal none).2) ∧
    ∀ (dectCallback : Option (TransportRxCallback DectTransportExt))
      (bleCallback : Option (TransportRxCallback Unit)) (xs : List RxInput) (st : Transports),
      runs Transports.step (.init dectCallback bleCallback) xs = st →
      (st.dect.rxPool.additionalQueryCb = some prvAdditionalQueryMatches ∧
        PoolInv st.dect.rxPool ∧ KeyUnique st.dect.rxPool) ∧
      (st.ble.rxPool.additionalQueryCb = none ∧ PoolInv st.ble.rxPool ∧ KeyUnique st.ble.rxPool) ∧
      ∀ (now srcId : UInt32) (f : Fragment) (i : ℕ)
        (q : TransportBufferPool DectTransportExt UInt32),
        transportBufferPoolGet st.dect.rxPool now f.seqId f.totalSizeBytes.toNat f.fragIdx
          f.fragTotal (some srcId) = (some i, q) →
        ∃ b, q.contexts[i]? = some b ∧ KeyUnique (q.store i (b.mark fun ext => { ext with srcId })) := by
  refine ⟨fun p nowMs rxMs srcId f hquery hinv hunique haged => ?_,
    fun p nowMs rxMs f hquery hinv hunique haged => ?_,
    fun dectCallback bleCallback xs st hst => ?_⟩
  · exact transportBufferPoolGet_contract hinv hunique (dectKeyed hquery srcId) haged f
  · -- without a query callback the key is the message alone
    exact transportBufferPoolGet_contract hinv hunique (bleKeyed hquery) haged f
  · obtain ⟨hdect, hble⟩ := transportsInv_runs dectCallback bleCallback xs
    rw [hst] at hdect hble
    refine ⟨⟨hdect.query, hdect.pool, hdect.unique⟩, ⟨hble.query, hble.pool, hble.unique⟩,
      fun now srcId f i q hget => ?_⟩
    rcases transportBufferPoolGet_spec st.dect.rxPool now f (some srcId) with
      ⟨j, b, q', hget', hq⟩ | ⟨q', hget', -⟩
    · rw [hget] at hget'
      obtain ⟨⟨⟩, rfl⟩ := Prod.mk.inj hget'
      exact ⟨b, hq.getElem?, hq.keyUnique_mark (dectKeyed hdect.query srcId) hdect.unique⟩
    · rw [hget] at hget'
      cases hget'

/-- A pool whose uptime is 6 s past the wrap of the counter. A message has been handed up from
context 0. Context 1 has waited 5 s for the second fragment of source 2, and context 2 has waited
11 s for that of source 1, since before the wrap. Context 3 is FREE. -/
def wrappingPool : TransportBufferPool DectTransportExt UInt32 where
  contexts := [⟨some ⟨2, 1, [5]⟩, .referenced, 9, 1, 1, 1, 0xFFFFEC78, ⟨2⟩⟩,
    ⟨some ⟨0, 1, [8]⟩, .receiving, 4, 2, 2, 1, 1000, ⟨2⟩⟩,
    ⟨some ⟨1, 1, [7]⟩, .receiving, 4, 2, 2, 1, 0xFFFFEC78, ⟨1⟩⟩,
    ⟨none, .free, 0, 0, 0, 0, 0, ⟨0⟩⟩]
  freeBufs := [3]
  bufferSizeBytes := dectTransportLayerMaxRxBufferSizeBytes
  rxTimeoutMs := UInt32.ofNat dectTransportLayerRxTimeoutMs
  additionalQueryCb := some prvAdditionalQueryMatches

/-- When the contexts of `wrappingPool` last accepted a fragment. -/
def wrappingRxMs (i : ℕ) : ℕ := if i = 1 then 2 ^ 32 + 1000 else 2 ^ 32 - 5000

/-- Source 2 finds its context. Source 1, whose context is overdue, gets the same one for a new
message, as it comes before the FREE one. -/
theorem transportBufferPoolGet_meets_contract_wrapping :
    (∃ result q, PoolGetContract wrappingPool (2 ^ 32 + 6000) wrappingRxMs ⟨4, 2, 1, 2, [9]⟩ (some 2)
      result q ∧ result = some 1) ∧
    (∃ result q, PoolGetContract wrappingPool (2 ^ 32 + 6000) wrappingRxMs ⟨4, 2, 0, 2, [7]⟩ (some 1)
      result q ∧ result = some 2) ∧
    KeyUnique (runs Transports.step (.init none none) [.dect 0 1 []]).dect.rxPool := by
  -- each of the four contexts is in order for its state
  have hinv : PoolInv wrappingPool := by
    refine ⟨fun b hb => ?_, by decide⟩
    simp only [wrappingPool, List.mem_cons, List.not_mem_nil, or_false] at hb
    rcases hb with rfl | rfl | rfl | rfl
    · exact ⟨_, rfl, by decide⟩
    · exact ⟨_, rfl, rfl⟩
    · exact ⟨_, rfl, rfl⟩
    · rfl
  -- the two contexts that are RECEIVING belong to different sources
  have hsource : ∀ x ∈ wrappingPool.contexts.zipIdx, x.1.state = .receiving →
      x.2 + x.1.ext.srcId.toNat = 3 := by decide
  have hunique : KeyUnique wrappingPool := by
    intro i j b c e f hi hj hb hc
    have hbi := hsource (b, i) (List.mk_mem_zipIdx_iff_getElem?.mpr hi) hb.receiving
    have hcj := hsource (c, j) (List.mk_mem_zipIdx_iff_getElem?.mpr hj) hc.receiving
    have hsrc : b.ext.srcId = c.ext.srcId :=
      congrArg DectTransportExt.srcId (hb.ext.trans hc.ext.symm)
    dsimp only at hbi hcj
    rw [hsrc] at hbi
    exact Nat.add_right_cancel (hbi.trans hcj.symm)
  have haged : Aged wrappingPool (2 ^ 32 + 6000) wrappingRxMs := by
    -- the true times of the last fragments, which the 32-bit clock shows modulo its size
    have hall : ∀ x ∈ wrappingPool.contexts.zipIdx, x.1.state = .receiving →
        wrappingRxMs x.2 ≤ 2 ^ 32 + 6000 ∧ 2 ^ 32 + 6000 - wrappingRxMs x.2 < 2 ^ 32 ∧
          x.1.lastRxTimeMs = UInt32.ofNat (wrappingRxMs x.2) := by decide +kernel
    exact fun i b hi hb => hall (b, i) (List.mk_mem_zipIdx_iff_getElem?.mpr hi) hb
  exact ⟨⟨_, _, transportBufferPoolGet_meets_contract.1 wrappingPool _ _ 2 ⟨4, 2, 1, 2, [9]⟩ rfl hinv
      hunique haged, by decide +kernel⟩,
    ⟨_, _, transportBufferPoolGet_meets_contract.1 wrappingPool _ _ 1 ⟨4, 2, 0, 2, [7]⟩ rfl hinv
      hunique haged, by decide +kernel⟩,
    (transportBufferPoolGet_meets_contract.2.2 none none [.dect 0 1 []] _ rfl).1.2.2⟩

end Reachable

end DectCommunicator
