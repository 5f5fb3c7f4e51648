import DectCommunicator.Alfie.Router
import DectCommunicator.Dect.TransportRuns

/-!
# References and their holders

The receive pool of one transport together with the router, every operation of
`utils/transport_buffer.c` and of the router's FIFOs one step: the receiving thread obtains a
context, writes to it, and on completion enters the callback, which takes a reference and enqueues
the context, before it drops its own; the router thread dequeues contexts and releases them. Buffers
of other transports pass through the same FIFOs.

`Ledger p n` says that the reference count of every REFERENCED context `i` is `n i`, and that
nothing else is held. With the invariant of the pool it is all that a step needs to know of the
contexts, and `Pipeline.holders` is the `n` that the threads and FIFOs of a state account for
(`holders_counted`).
-/

namespace DectCommunicator

open Machine

variable {ε κ : Type}

/-! ### Ledgers -/

/-- The REFERENCED contexts are the ones that are held, with one reference for each holder. -/
structure Ledger (p : TransportBufferPool ε κ) (n : ℕ → ℕ) : Prop where
  counted : ∀ i b, p.contexts[i]? = some b → b.state = .referenced →
    ∃ nb, b.buffer = some nb ∧ nb.ref = n i
  held : ∀ i, 0 < n i → ∃ b, p.contexts[i]? = some b ∧ b.state = .referenced

section Ledger

variable {p q : TransportBufferPool ε κ} {n n' : ℕ → ℕ} {i : ℕ} {b b' : TransportBuffer ε}

/-- Nothing happens to the REFERENCED contexts, so the ledger is as good as before. -/
theorem Ledger.same (h : Ledger p n)
    (hsame : ∀ (i : ℕ) (b : TransportBuffer ε), b.state = .referenced →
      (q.contexts[i]? = some b ↔ p.contexts[i]? = some b)) : Ledger q n where
  counted i b hi hb := h.counted i b ((hsame i b hb).mp hi) hb
  held i hn := by
    obtain ⟨b, hi, hb⟩ := h.held i hn
    exact ⟨b, (hsame i b hb).mpr hi, hb⟩

/-- A context that is not REFERENCED has no holder, or the ledger would know it. -/
theorem Ledger.eq_zero (h : Ledger p n) (hi : p.contexts[i]? = some b)
    (hb : b.state ≠ .referenced) : n i = 0 := by
  by_contra hn
  obtain ⟨c, hc, hst⟩ := h.held i (Nat.pos_of_ne_zero hn)
  rw [hi] at hc
  obtain rfl := Option.some.inj hc
  exact hb hst

/-- One context is written, and is REFERENCED afterwards with as many references as holders. -/
theorem Ledger.store (h : Ledger p n) (hi : p.contexts[i]? = some b)
    (hst : b'.state = .referenced) (href : ∃ nb, b'.buffer = some nb ∧ nb.ref = n' i)
    (hother : ∀ j, j ≠ i → n' j = n j) : Ledger (p.store i b') n' where
  counted j c hj hc := by
    by_cases hji : j = i
    · subst hji
      rw [store_getElem?_self b' hi] at hj
      obtain rfl := Option.some.inj hj
      exact href
    · -- another context, whose holders are the same
      rw [store_getElem?_of_ne p i b' hji] at hj
      rw [hother j hji]
      exact h.counted j c hj hc
  held j hn := by
    by_cases hji : j = i
    · subst hji
      exact ⟨b', store_getElem?_self b' hi, hst⟩
    · rw [hother j hji] at hn
      rw [store_getElem?_of_ne p i b' hji]
      exact h.held j hn

/-- A context that is not REFERENCED is written and stays so. -/
theorem Ledger.store_same (h : Ledger p n) (hi : p.contexts[i]? = some b)
    (hb : b.state ≠ .referenced) (hb' : b'.state ≠ .referenced) : Ledger (p.store i b') n := by
  refine h.same fun j c hc => ?_
  by_cases hji : j = i
  · subst hji
    rw [store_getElem?_self b' hi, hi]
    constructor
    · intro heq
      exact absurd (Option.some.inj heq ▸ hc) hb'
    · intro heq
      exact absurd (Option.some.inj heq ▸ hc) hb
  · rw [store_getElem?_of_ne p i b' hji]

/-- **A holder drops its reference**: the context has one fewer of both, or is FREE. -/
theorem Ledger.unref (h : Ledger p n) (hi : p.contexts[i]? = some b) (hb : b.state = .referenced)
    (hn : n i = n' i + 1) (hother : ∀ j, j ≠ i → n' j = n j) :
    Ledger (transportBufferUnref p i) n' := by
  obtain ⟨nb, hnb, href⟩ := h.counted i b hi hb
  unfold transportBufferUnref
  rw [hi]
  dsimp only
  rw [hnb]
  dsimp only
  split
  · -- it was the last one
    next hone =>
    have hzero : n' i = 0 := by
      rw [href, hn] at hone
      exact Nat.succ.inj hone
    refine ⟨fun j c hj hc => ?_, fun j hj => ?_⟩
    · by_cases hji : j = i
      · subst hji
        rw [store_getElem?_self b.released hi] at hj
        obtain rfl := Option.some.inj hj
        cases hc
      · rw [hother j hji]
        rw [store_getElem?_of_ne p i _ hji] at hj
        exact h.counted j c hj hc
    · have hji : j ≠ i := by
        rintro rfl
        exact absurd hzero hj.ne'
      rw [hother j hji] at hj
      dsimp only
      rw [store_getElem?_of_ne p i _ hji]
      exact h.held j hj
  · refine h.store hi hb ⟨_, rfl, ?_⟩ hother
    dsimp only
    rw [href, hn, Nat.add_sub_cancel]

/-- Looking up a context does not concern the REFERENCED ones. -/
theorem expire_referenced_iff (p : TransportBufferPool ε κ) (now : UInt32) (i : ℕ)
    (hb : b.state = .referenced) :
    (p.expire now).contexts[i]? = some b ↔ p.contexts[i]? = some b := by
  constructor
  · intro hi
    rw [expire_contexts, List.getElem?_map, Option.map_eq_some_iff] at hi
    obtain ⟨c, hc, rfl⟩ := hi
    unfold TransportBuffer.expire at hb ⊢
    split at hb
    · cases hb
    · next hfresh => rwa [if_neg hfresh]
  · exact fun hi => getElem?_expire_of_referenced hi hb now

/-- Obtaining a context changes only contexts that are not REFERENCED. -/
theorem Ledger.obtained (h : Ledger p n) {now : UInt32} {f : Fragment} {params : Option κ}
    (hq : Obtained p now f params i b q) : Ledger q n := by
  refine h.same fun j c hc => ?_
  by_cases hji : j = i
  · subst hji
    constructor
    · intro hj
      rw [hq.getElem?] at hj
      rw [← Option.some.inj hj, hq.receiving] at hc
      cases hc
    · exact fun hj => absurd rfl (hq.ne_of_referenced hj hc)
  · rw [hq.getElem?_of_ne hji]
    exact expire_referenced_iff p now j hc

/-- And so does a refusal, after which some may have expired. -/
theorem Ledger.refused (h : Ledger p n) {now : UInt32} {f : Fragment} {params : Option κ}
    (hq : Refused p now f params q) : Ledger q n := by
  cases hq with
  | misuse => exact h
  | noContext => exact h.same fun j c hc => expire_referenced_iff p now j hc

end Ledger

/-! ### The pipeline -/

/-- A buffer in a FIFO of the router: context `i` of the pool, or one of another transport. -/
inductive FifoEntry where
  | own (i : ℕ)
  | other (buffer : ℕ)
deriving DecidableEq, Repr

/-- Where the receiving thread is in the handling of a data frame. -/
inductive RxPhase where
  | idle
  /-- `transport_buffer_pool_get` has returned context `i` -/
  | obtained (i : ℕ) (f : Fragment)
  /-- `transport_buffer_write` has returned COMPLETE -/
  | completed (i : ℕ)
  /-- `prv_handle_transport_rx` has found the message long enough -/
  | entered (i : ℕ)
  /-- it has taken its reference -/
  | refTaken (i : ℕ)
  /-- the callback has returned, or there is none -/
  | calledBack (i : ℕ)
deriving DecidableEq, Repr

/-- A transport with its receive pool, and the FIFOs and the thread of the router. `inHand` is the
buffer that the router thread has dequeued and not released. -/
structure Pipeline (ε κ : Type) where
  pool : TransportBufferPool ε κ
  phase : RxPhase
  fromUpstreamFifo : List FifoEntry
  fromDownstreamFifo : List FifoEntry
  inHand : Option FifoEntry

/-- The atomic operations of the transport, the callback and the router, which may come in any order
that the phases allow. -/
inductive PipelineAction (ε κ : Type) where
  | poolGet (now : UInt32) (params : Option κ) (f : Fragment)
  | write (now : UInt32) (mark : ε → ε)
  | callback
  | ref
  | enqueue
  | unref
  /-- another transport enqueues a buffer of its own -/
  | otherRx (direction : AlfieTransportType) (buffer : ℕ)
  | dequeue (direction : AlfieTransportType)
  | release

/-- A buffer is put into the FIFO of a direction. -/
def Pipeline.put (s : Pipeline ε κ) (e : FifoEntry) : AlfieTransportType → Pipeline ε κ
  | .upstream => { s with fromUpstreamFifo := s.fromUpstreamFifo ++ [e] }
  | .downstream => { s with fromDownstreamFifo := s.fromDownstreamFifo ++ [e] }

/-- The FIFO of a direction, in which the buffers of all pools are queued. -/
def Pipeline.fifo (s : Pipeline ε κ) : AlfieTransportType → List FifoEntry
  | .upstream => s.fromUpstreamFifo
  | .downstream => s.fromDownstreamFifo

/-- The router thread takes the buffer `e` from the FIFO of a direction, which leaves `rest`. -/
def Pipeline.take (s : Pipeline ε κ) (e : FifoEntry) (rest : List FifoEntry) :
    AlfieTransportType → Pipeline ε κ
  | .upstream => { s with fromUpstreamFifo := rest, inHand := some e }
  | .downstream => { s with fromDownstreamFifo := rest, inHand := some e }

/-- An operation of a transport of type `type`, `registered` being whether it has a callback. -/
def Pipeline.step (type : AlfieTransportType) (registered : Bool) (s : Pipeline ε κ) :
    PipelineAction ε κ → Option (Pipeline ε κ)
  | .poolGet now params f =>
    match s.phase with
    | .idle =>
      match transportBufferPoolGet s.pool now f.seqId f.totalSizeBytes.toNat f.fragIdx f.fragTotal
          params with
      | (some i, q) => some { s with pool := q, phase := .obtained i f }
      | (none, q) => some { s with pool := q }
    | _ => none
  | .write now mark =>
    match s.phase with
    | .obtained i f =>
      match s.pool.contexts[i]? with
      | some b =>
        let w := transportBufferWrite now (b.mark mark) f.fragIdx f.payload
        some { s with
          pool := s.pool.store i w.2
          phase := if w.1 = .complete then .completed i else .idle }
      | none => none
    | _ => none
  | .callback =>
    match s.phase with
    | .completed i =>
      match s.pool.contexts[i]? with
      | some b =>
        if registered = false ∨ b.totalSizeBytes.toNat < alfieProtoHeaderSizeBytes then
          some { s with phase := .calledBack i }
        else some { s with phase := .entered i }
      | none => none
    | _ => none
  | .ref =>
    match s.phase with
    | .entered i =>
      match s.pool.contexts[i]? with
      | some b =>
        some { s with pool := s.pool.store i (transportBufferRef b), phase := .refTaken i }
      | none => none
    | _ => none
  | .enqueue =>
    match s.phase with
    | .refTaken i => some ({ s with phase := .calledBack i }.put (.own i) type)
    | _ => none
  | .unref =>
    match s.phase with
    | .calledBack i => some { s with pool := transportBufferUnref s.pool i, phase := .idle }
    | _ => none
  | .otherRx d a => some (s.put (.other a) d)
  | .dequeue d =>
    match s.inHand, s.fifo d with
    | none, e :: rest => some (s.take e rest d)
    | _, _ => none
  | .release =>
    match s.inHand with
    | some (.own i) => some { s with pool := transportBufferUnref s.pool i, inHand := none }
    | some (.other _) => some { s with inHand := none }
    | none => none

/-! ### Holders -/

/-- The transport holds context `i` while it completes it: the reference of the allocation, which it
drops at the end. -/
def RxPhase.holds : RxPhase → ℕ → ℕ
  | .completed j, i | .entered j, i | .refTaken j, i | .calledBack j, i => if j = i then 1 else 0
  | _, _ => 0

/-- The router holds context `i` from the reference it takes in the callback. -/
def RxPhase.routerHolds : RxPhase → ℕ → ℕ
  | .refTaken j, i => if j = i then 1 else 0
  | _, _ => 0

/-- The positions of context `i` in the FIFOs of the router. -/
def Pipeline.positions (s : Pipeline ε κ) (i : ℕ) : ℕ :=
  s.fromUpstreamFifo.count (.own i) + s.fromDownstreamFifo.count (.own i)

/-- The references of the router to context `i`: before it is enqueued, in the FIFOs and in hand. -/
def Pipeline.routerHolds (s : Pipeline ε κ) (i : ℕ) : ℕ :=
  s.phase.routerHolds i + s.positions i + s.inHand.toList.count (.own i)

/-- The holders of context `i`: the transport, the FIFO of the router and its thread. -/
def Pipeline.holders (s : Pipeline ε κ) (i : ℕ) : ℕ := s.phase.holds i + s.routerHolds i

/-- The invariant: the pool is in order, the counts are those of the holders, and the router has
each context at most once. -/
structure PipelineInv (s : Pipeline ε κ) : Prop where
  pool : PoolInv s.pool
  ledger : Ledger s.pool s.holders
  once : ∀ i, s.routerHolds i ≤ 1
  obtained : ∀ i f, s.phase = .obtained i f →
    ∃ b, s.pool.contexts[i]? = some b ∧ b.state = .receiving
  /-- before the callback takes its reference the router does not hold the context -/
  before : ∀ i, s.phase = .completed i ∨ s.phase = .entered i → s.routerHolds i = 0

/-! ### The steps -/

/-- The steps of the pipeline, with what each needs and does. -/
inductive Pipeline.Step (type : AlfieTransportType) (s : Pipeline ε κ) : Pipeline ε κ → Prop
  | given {now : UInt32} {f : Fragment} {params : Option κ} {i : ℕ} {b : TransportBuffer ε}
      {q : TransportBufferPool ε κ} (hphase : s.phase = .idle)
      (hq : Obtained s.pool now f params i b q) :
      Pipeline.Step type s { s with pool := q, phase := .obtained i f }
  | refused {now : UInt32} {f : Fragment} {params : Option κ} {q : TransportBufferPool ε κ}
      (hphase : s.phase = .idle) (hq : Refused s.pool now f params q) :
      Pipeline.Step type s { s with pool := q }
  | written {now : UInt32} {mark : ε → ε} {i : ℕ} {f : Fragment} {b b' : TransportBuffer ε}
      {ret : TransportBufferWriteRet} (hphase : s.phase = .obtained i f)
      (hi : s.pool.contexts[i]? = some b)
      (hw : Write now (b.mark mark) f.fragIdx f.payload ret b') :
      Pipeline.Step type s { s with
        pool := s.pool.store i b'
        phase := if ret = .complete then .completed i else .idle }
  | skipped {i : ℕ} (hphase : s.phase = .completed i) :
      Pipeline.Step type s { s with phase := .calledBack i }
  | entered {i : ℕ} (hphase : s.phase = .completed i) :
      Pipeline.Step type s { s with phase := .entered i }
  | ref {i : ℕ} {b : TransportBuffer ε} (hphase : s.phase = .entered i)
      (hi : s.pool.contexts[i]? = some b) :
      Pipeline.Step type s
        { s with pool := s.pool.store i (transportBufferRef b), phase := .refTaken i }
  | enqueued {i : ℕ} (hphase : s.phase = .refTaken i) :
      Pipeline.Step type s ({ s with phase := .calledBack i }.put (.own i) type)
  | unref {i : ℕ} (hphase : s.phase = .calledBack i) :
      Pipeline.Step type s { s with pool := transportBufferUnref s.pool i, phase := .idle }
  | otherRx (d : AlfieTransportType) (a : ℕ) : Pipeline.Step type s (s.put (.other a) d)
  | dequeue {d : AlfieTransportType} {e : FifoEntry} {rest : List FifoEntry}
      (hhand : s.inHand = none) (hfifo : s.fifo d = e :: rest) :
      Pipeline.Step type s (s.take e rest d)
  | release {i : ℕ} (hhand : s.inHand = some (.own i)) :
      Pipeline.Step type s { s with pool := transportBufferUnref s.pool i, inHand := none }
  | releaseOther {a : ℕ} (hhand : s.inHand = some (.other a)) :
      Pipeline.Step type s { s with inHand := none }

/-- **Inversion of a step.** -/
theorem Pipeline.step_spec {type : AlfieTransportType} {registered : Bool} {s s' : Pipeline ε κ}
    {x : PipelineAction ε κ} (h : s.step type registered x = some s') : s.Step type s' := by
  unfold Pipeline.step at h
  cases x with
  -- the receiver's steps are possible in the phase before them, and in no other
  | poolGet now params f =>
    dsimp only at h
    split at h
    · next hphase =>
      -- both results of the lookup are steps of the receiver
      rcases transportBufferPoolGet_spec s.pool now f params with ⟨i, b, q, hget, hq⟩ | ⟨q, hget, hq⟩
      · rw [hget] at h
        obtain rfl := Option.some.inj h
        exact .given hphase hq
      · rw [hget] at h
        obtain rfl := Option.some.inj h
        exact .refused hphase hq
    · cases h
  | write now mark =>
    dsimp only at h
    split at h
    · next i f hphase =>
      split at h
      · next b hi =>
        obtain rfl := Option.some.inj h
        exact .written hphase hi (transportBufferWrite_spec now (b.mark mark) f.fragIdx f.payload)
      · cases h
    · cases h
  | callback =>
    dsimp only at h
    split at h
    · next i hphase =>
      split at h
      · split at h
        · obtain rfl := Option.some.inj h
          exact .skipped hphase
        · obtain rfl := Option.some.inj h
          exact .entered hphase
      · cases h
    · cases h
  | ref =>
    dsimp only at h
    split at h
    · next i hphase =>
      split at h
      · next b hi =>
        obtain rfl := Option.some.inj h
        exact .ref hphase hi
      · cases h
    · cases h
  | enqueue =>
    dsimp only at h
    split at h
    · next i hphase =>
      obtain rfl := Option.some.inj h
      exact .enqueued hphase
    · cases h
  | unref =>
    dsimp only at h
    split at h
    · next i hphase =>
      obtain rfl := Option.some.inj h
      exact .unref hphase
    · cases h
  -- the steps of the other transport and of the router do not look at the phase
  | otherRx d a =>
    obtain rfl := Option.some.inj h
    exact .otherRx d a
  | dequeue d =>
    dsimp only at h
    split at h
    · next e rest hhand hfifo =>
      obtain rfl := Option.some.inj h
      exact .dequeue hhand hfifo
    · cases h
  | release =>
    dsimp only at h
    split at h
    · next i hhand =>
      obtain rfl := Option.some.inj h
      exact .release hhand
    · next a hhand =>
      obtain rfl := Option.some.inj h
      exact .releaseOther hhand
    · cases h

/-! ### The invariant -/

section Counting

variable (s : Pipeline ε κ) (e : FifoEntry) (rest : List FifoEntry) (d : AlfieTransportType)
  (i : ℕ)

/-- An enqueued entry is one position more for its context. -/
theorem put_positions : (s.put e d).positions i = s.positions i + [e].count (.own i) := by
  cases d with
  | upstream =>
    simp only [Pipeline.put, Pipeline.positions, List.count_append]
    exact Nat.add_right_comm _ _ _
  | downstream =>
    simp only [Pipeline.put, Pipeline.positions, List.count_append]
    exact (Nat.add_assoc _ _ _).symm

/-- Enqueuing is a matter of the FIFOs only: the phase stays. -/
theorem put_phase : (s.put e d).phase = s.phase := by cases d <;> rfl

/-- The pool stays. -/
theorem put_pool : (s.put e d).pool = s.pool := by cases d <;> rfl

/-- What the router has in hand stays. -/
theorem put_inHand : (s.put e d).inHand = s.inHand := by cases d <;> rfl

/-- Dequeuing is one of the FIFO and the hand: the phase stays. -/
theorem take_phase : (s.take e rest d).phase = s.phase := by cases d <;> rfl

/-- The pool stays. -/
theorem take_pool : (s.take e rest d).pool = s.pool := by cases d <;> rfl

/-- Dequeuing moves an entry from its FIFO to the hand, so the router holds what it held. -/
theorem take_routerHolds (hhand : s.inHand = none) (hfifo : s.fifo d = e :: rest) :
    (s.take e rest d).routerHolds i = s.routerHolds i := by
  -- the entry at the head is counted apart from the others, because it is what moves
  have hcons : (e :: rest).count (.own i) = [e].count (.own i) + rest.count (.own i) := by
    rw [← List.count_append, List.singleton_append]
  unfold Pipeline.routerHolds Pipeline.positions
  rw [take_phase, hhand]
  cases d with
  | upstream =>
    have hup : s.fromUpstreamFifo = e :: rest := hfifo
    simp only [Pipeline.take, hup, Option.toList_some, Option.toList_none,
      List.count_nil, hcons]
    omega
  | downstream =>
    have hdown : s.fromDownstreamFifo = e :: rest := hfifo
    simp only [Pipeline.take, hdown, Option.toList_some, Option.toList_none,
      List.count_nil, hcons]
    omega

/-- The phase of the receiver changes, but not what the router holds in it. -/
theorem phase_routerHolds {p : RxPhase} (q : TransportBufferPool ε κ)
    (h : p.routerHolds i = s.phase.routerHolds i) :
    Pipeline.routerHolds { s with pool := q, phase := p } i = s.routerHolds i := by
  unfold Pipeline.routerHolds
  rw [← h]
  rfl

/-- Enqueuing moves the reference that was taken to the FIFO. -/
theorem enqueued_routerHolds {j : ℕ} (hphase : s.phase = .refTaken j) :
    (Pipeline.put { s with phase := .calledBack j } (.own j) d).routerHolds i =
      s.routerHolds i := by
  unfold Pipeline.routerHolds
  rw [put_positions, put_phase, put_inHand, hphase]
  simp only [RxPhase.routerHolds, List.count_singleton, beq_iff_eq, FifoEntry.own.injEq]
  change 0 + (s.positions i + _) + _ = _ + s.positions i + _
  omega

/-- What other transports enqueue is not of this pool, and counts for none of its contexts. -/
theorem otherRx_routerHolds (a : ℕ) :
    (s.put (.other a) d).routerHolds i = s.routerHolds i := by
  unfold Pipeline.routerHolds
  rw [put_positions, put_phase, put_inHand]
  simp

end Counting

section Invariant

variable {s s' : Pipeline ε κ} {type : AlfieTransportType}

/-- After initialisation all contexts are FREE and nobody holds any. -/
theorem PipelineInv.init (numBuffers bufferSizeBytes : ℕ) (rxTimeoutMs : UInt32)
    (api : Option (TransportBuffer ε → Option κ → Bool)) (ext : ε) :
    PipelineInv
      ⟨transportBufferPoolInit numBuffers bufferSizeBytes rxTimeoutMs api ext, .idle, [], [],
        none⟩ where
  pool := .init _ _ _ _ _
  ledger :=
    { counted := by
        intro i b hi hb
        rw [List.eq_of_mem_replicate (List.mem_of_getElem? hi)] at hb
        cases hb
      held := fun i hn => absurd hn (Nat.lt_irrefl 0) }
  once i := Nat.zero_le 1
  obtained i f h := by cases h
  before i h := by rcases h with h | h <;> cases h

/-- A context that somebody holds is REFERENCED, and so is not given away. -/
theorem PipelineInv.referenced (h : PipelineInv s) {i : ℕ} (hi : 0 < s.holders i) :
    ∃ b, s.pool.contexts[i]? = some b ∧ b.state = .referenced := h.ledger.held i hi

/-- The router holds nothing that is not REFERENCED. -/
theorem PipelineInv.routerHolds_eq_zero (h : PipelineInv s) {i : ℕ} {b : TransportBuffer ε}
    (hi : s.pool.contexts[i]? = some b) (hb : b.state ≠ .referenced) : s.routerHolds i = 0 :=
  (Nat.add_eq_zero_iff.mp (h.ledger.eq_zero hi hb)).2

/-- The step does not concern the holders, as most do not. -/
theorem PipelineInv.same (h : PipelineInv s) (hholds : ∀ i, s'.phase.holds i = s.phase.holds i)
    (hrouter : ∀ i, s'.routerHolds i = s.routerHolds i) (hpool : PoolInv s'.pool)
    (hledger : Ledger s'.pool s.holders)
    (hobtained : ∀ i f, s'.phase = .obtained i f →
      ∃ b, s'.pool.contexts[i]? = some b ∧ b.state = .receiving)
    (hbefore : ∀ i, s'.phase = .completed i ∨ s'.phase = .entered i →
      s.phase = .completed i ∨ s.phase = .entered i) : PipelineInv s' where
  pool := hpool
  ledger := by
    have heq : s'.holders = s.holders := funext fun i => by
      unfold Pipeline.holders
      rw [hholds, hrouter]
    rwa [heq]
  once i := (hrouter i).trans_le (h.once i)
  obtained := hobtained
  before i hi := (hrouter i).trans (h.before i (hbefore i hi))

/-- **A holder drops its reference** to context `i`, be it the transport or the router. -/
theorem PipelineInv.unref (h : PipelineInv s) {i : ℕ} (hpool : s'.pool = transportBufferUnref s.pool i)
    (hself : s.holders i = s'.holders i + 1) (hother : ∀ j, j ≠ i → s'.holders j = s.holders j)
    (hrouter : ∀ j, s'.routerHolds j ≤ s.routerHolds j)
    (hobtained : ∀ j f, s'.phase = .obtained j f → s.phase = .obtained j f)
    (hbefore : ∀ j, s'.phase = .completed j ∨ s'.phase = .entered j →
      s.phase = .completed j ∨ s.phase = .entered j) : PipelineInv s' := by
  obtain ⟨b, hi, hb⟩ := h.referenced (by rw [hself]; exact Nat.succ_pos _)
  exact
    { pool := by
        rw [hpool]
        exact h.pool.unref i
      ledger := by
        rw [hpool]
        exact h.ledger.unref hi hb hself hother
      once := fun j => (hrouter j).trans (h.once j)
      obtained := by
        -- the context that was obtained is another one
        intro j f hj
        obtain ⟨c, hc, hst⟩ := h.obtained j f (hobtained j f hj)
        have hji : j ≠ i := by
          rintro rfl
          rw [hi] at hc
          rw [← Option.some.inj hc, hb] at hst
          cases hst
        refine ⟨c, ?_, hst⟩
        rw [hpool, unref_getElem?_of_ne s.pool hji]
        exact hc
      before := fun j hj => Nat.le_zero.mp ((hrouter j).trans_eq (h.before j (hbefore j hj))) }

/-- A write that does not complete the message keeps the context RECEIVING. -/
theorem Write.state_eq {now : UInt32} {b b' : TransportBuffer ε} {fragIdx : UInt8}
    {data : List UInt8} {ret : TransportBufferWriteRet} (h : Write now b fragIdx data ret b') :
    b'.state = if ret = .complete then .referenced else b.state := by
  cases h <;> rfl

/-- A write changes neither which buffer the context holds nor the references to it. -/
theorem Write.buffer_ref {now : UInt32} {b b' : TransportBuffer ε} {fragIdx : UInt8}
    {data : List UInt8} {ret : TransportBufferWriteRet} (h : Write now b fragIdx data ret b')
    {nb : NetBuf} (hnb : b.buffer = some nb) :
    ∃ nb', b'.buffer = some nb' ∧ nb'.ref = nb.ref := by
  have haccept : ∃ nb', (b.accept now data).buffer = some nb' ∧ nb'.ref = nb.ref := by
    unfold TransportBuffer.accept TransportBuffer.addMem
    rw [hnb]
    exact ⟨_, rfl, rfl⟩
  cases h with
  | success | invalidFinalSize | complete => exact haccept
  | _ => exact ⟨nb, hnb, rfl⟩

/-- A fragment is written: a completed context has its first holder, the transport. -/
theorem PipelineInv.write (h : PipelineInv s) {now : UInt32} {mark : ε → ε} {i : ℕ} {f : Fragment}
    {b b' : TransportBuffer ε} {ret : TransportBufferWriteRet} (hphase : s.phase = .obtained i f)
    (hi : s.pool.contexts[i]? = some b)
    (hw : Write now (b.mark mark) f.fragIdx f.payload ret b') :
    PipelineInv { s with
      pool := s.pool.store i b'
      phase := if ret = .complete then .completed i else .idle } := by
  obtain ⟨c, hc, hb⟩ := h.obtained i f hphase
  rw [hi] at hc
  obtain rfl := Option.some.inj hc
  have hctx := h.pool.context_at hi
  unfold ContextInv at hctx
  rw [hb] at hctx
  obtain ⟨nb, hnb, hone⟩ := hctx
  obtain ⟨nb', hnb', href⟩ := hw.buffer_ref (b := b.mark mark) hnb
  rw [hone] at href
  -- `transport_buffer_write` marks a completed context REFERENCED; its count was 1 from the
  -- allocation
  have hst : b'.state = if ret = .complete then .referenced else .receiving := by
    rw [hw.state_eq, mark_state, hb]
  have hne : b.state ≠ .referenced := by
    rw [hb]
    exact TransportBufferState.noConfusion
  have hpool : PoolInv (s.pool.store i b') := by
    refine h.pool.store hi ?_ (hw.bufId_eq.trans rfl)
    unfold ContextInv
    rw [hst]
    by_cases hret : ret = .complete
    · rw [if_pos hret]
      exact ⟨nb', hnb', href.symm ▸ Nat.one_pos⟩
    · rw [if_neg hret]
      exact ⟨nb', hnb', href⟩
  by_cases hret : ret = .complete
  · -- the transport holds the completed context
    rw [if_pos hret] at hst ⊢
    -- the router cannot hold a context that was RECEIVING
    have hzero := h.routerHolds_eq_zero hi hne
    have hrouter : ∀ j, Pipeline.routerHolds
        { s with pool := s.pool.store i b', phase := .completed i } j = s.routerHolds j :=
      fun j => phase_routerHolds s j _ (by rw [hphase]; rfl)
    exact
      { pool := hpool
        ledger := by
          refine h.ledger.store hi hst ⟨nb', hnb', ?_⟩ fun j hj => ?_
          · unfold Pipeline.holders
            rw [hrouter, hzero, href]
            simp [RxPhase.holds]
          · unfold Pipeline.holders
            rw [hrouter, hphase]
            simp [RxPhase.holds, Ne.symm hj]
        once := fun j => (hrouter j).trans_le (h.once j)
        obtained := fun j g hj => by cases hj
        before := by
          rintro j (hj | hj)
          · injection hj with hj
            rw [hrouter, ← hj]
            exact hzero
          · cases hj }
  · rw [if_neg hret] at hst ⊢
    -- a context that is not complete is still nobody's
    have hne' : b'.state ≠ .referenced := by
      rw [hst]
      exact TransportBufferState.noConfusion
    refine h.same (fun j => by rw [hphase]; rfl)
      (fun j => phase_routerHolds s j _ (by rw [hphase]; rfl)) hpool
      (h.ledger.store_same hi hne hne') ?_ ?_
    · intro j g hj
      cases hj
    · rintro j (hj | hj) <;> cases hj

/-- The callback takes a reference, which is the router's from then on. -/
theorem PipelineInv.ref (h : PipelineInv s) {i : ℕ} {b : TransportBuffer ε}
    (hphase : s.phase = .entered i) (hi : s.pool.contexts[i]? = some b) :
    PipelineInv
      { s with pool := s.pool.store i (transportBufferRef b), phase := .refTaken i } := by
  have hholds : s.phase.holds i = 1 := by
    rw [hphase]
    exact if_pos rfl
  obtain ⟨c, hc, hb⟩ := h.referenced (i := i) (by
    unfold Pipeline.holders
    rw [hholds]
    exact Nat.lt_add_right _ Nat.one_pos)
  rw [hi] at hc
  obtain rfl := Option.some.inj hc
  -- the transport holds it, so it is REFERENCED, and has a buffer to count in
  obtain ⟨nb, hnb, href⟩ := h.ledger.counted i b hi hb
  -- so far the transport is the only holder
  have hzero := h.before i (Or.inr hphase)
  have hrouter : ∀ j, Pipeline.routerHolds
      { s with pool := s.pool.store i (transportBufferRef b), phase := .refTaken i } j =
        s.routerHolds j + if i = j then 1 else 0 := by
    intro j
    unfold Pipeline.routerHolds
    rw [hphase]
    simp only [RxPhase.routerHolds]
    change (if i = j then 1 else 0) + s.positions j + s.inHand.toList.count (.own j) = _
    omega
  have hself : s.holders i = 1 := by
    unfold Pipeline.holders
    rw [hholds, hzero]
  exact
    { pool := h.pool.store hi ((h.pool.context_at hi).ref hb) (ref_bufId b)
      ledger := by
        have hnb' : (transportBufferRef b).buffer = some { nb with ref := nb.ref + 1 } := by
          unfold transportBufferRef
          rw [hnb]
          rfl
        -- two holders now, and two references
        refine h.ledger.store hi hb ⟨_, hnb', ?_⟩ fun j hj => ?_
        · unfold Pipeline.holders
          rw [hrouter, hzero]
          simp [href, hself, RxPhase.holds]
        · unfold Pipeline.holders
          rw [hrouter, hphase]
          simp [RxPhase.holds, Ne.symm hj]
      once := by
        intro j
        rw [hrouter]
        -- only for this context the router has one more, and it had none
        by_cases hij : i = j
        · rw [← hij, hzero, if_pos rfl]
        · rw [if_neg hij]
          exact h.once j
      obtained := fun j g hj => by cases hj
      before := fun j hj => by rcases hj with hj | hj <;> cases hj }

/-- **One step** of the transport, the callback, the FIFO or the router. -/
theorem PipelineInv.step (h : PipelineInv s) (hstep : s.Step type s') : PipelineInv s' := by
  cases hstep with
  -- a lookup touches only contexts that nobody holds
  | given hphase hq =>
    refine h.same (fun j => by rw [hphase]; rfl)
      (fun j => phase_routerHolds s j _ (by rw [hphase]; rfl)) (hq.poolInv h.pool)
      (h.ledger.obtained hq) ?_ ?_
    · rintro j f hj
      injection hj with hj
      exact ⟨_, hj ▸ hq.getElem?, hq.receiving⟩
    · rintro j (hj | hj) <;> cases hj
  | refused hphase hq =>
    refine h.same (fun _ => rfl) (fun _ => rfl) (hq.poolInv h.pool) (h.ledger.refused hq) ?_ ?_
    · intro j f hj
      rw [hphase] at hj
      cases hj
    · exact fun j hj => hj
  -- the step that makes a completed context, with the transport as its first holder
  | written hphase hi hw => exact h.write hphase hi hw
  | skipped hphase =>
    refine h.same (fun j => by rw [hphase]; rfl)
      (fun j => phase_routerHolds s j _ (by rw [hphase]; rfl)) h.pool h.ledger ?_ ?_
    · intro j f hj
      cases hj
    · rintro j (hj | hj) <;> cases hj
  -- the callback has begun, and has not taken the reference yet
  | entered hphase =>
    refine h.same (fun j => by rw [hphase]; rfl)
      (fun j => phase_routerHolds s j _ (by rw [hphase]; rfl)) h.pool h.ledger ?_ ?_
    · intro j f hj
      cases hj
    · rintro j (hj | hj)
      · cases hj
      · injection hj with hj
        exact Or.inl (hj ▸ hphase)
  -- the step that makes the router the second
  | ref hphase hi => exact h.ref hphase hi
  | @enqueued i hphase =>
    -- the reference that was taken is now one of the FIFO
    refine h.same (fun j => ?_) (fun j => enqueued_routerHolds s type j hphase) ?_ ?_ ?_ ?_
    · rw [put_phase, hphase]
      rfl
    · rw [put_pool]
      exact h.pool
    · rw [put_pool]
      exact h.ledger
    · intro j f hj
      rw [put_phase] at hj
      cases hj
    · intro j hj
      rw [put_phase] at hj
      rcases hj with hj | hj <;> cases hj
  -- the transport gives up its own reference, and what the router holds stays
  | @unref i hphase =>
    have hrouter : ∀ j, Pipeline.routerHolds
        { s with pool := transportBufferUnref s.pool i, phase := .idle } j = s.routerHolds j :=
      fun j => phase_routerHolds s j _ (by rw [hphase]; rfl)
    refine h.unref rfl ?_ (fun j hj => ?_) (fun j => (hrouter j).le) ?_ ?_
    · unfold Pipeline.holders
      rw [hrouter, hphase]
      simp [RxPhase.holds, Nat.add_comm]
    · unfold Pipeline.holders
      rw [hrouter, hphase]
      simp [RxPhase.holds, Ne.symm hj]
    · intro j f hj
      cases hj
    · rintro j (hj | hj) <;> cases hj
  -- a message of the other transport, whose buffers are not in this pool
  | otherRx d a =>
    refine h.same (fun j => by rw [put_phase]) (fun j => otherRx_routerHolds s d j a) ?_ ?_ ?_ ?_
    · rw [put_pool]
      exact h.pool
    · rw [put_pool]
      exact h.ledger
    · intro j f hj
      rw [put_phase] at hj
      rw [put_pool]
      exact h.obtained j f hj
    · intro j hj
      rwa [put_phase] at hj
  -- the entry goes from its FIFO to the hand of the thread
  | dequeue hhand hfifo =>
    refine h.same (fun j => by rw [take_phase]) (fun j => take_routerHolds s _ _ _ j hhand hfifo)
      ?_ ?_ ?_ ?_
    · rw [take_pool]
      exact h.pool
    · rw [take_pool]
      exact h.ledger
    · intro j f hj
      rw [take_phase] at hj
      rw [take_pool]
      exact h.obtained j f hj
    · intro j hj
      rwa [take_phase] at hj
  -- the router gives up its reference, and has nothing in hand then
  | @release i hhand =>
    have hrouter : ∀ j, s.routerHolds j = Pipeline.routerHolds
        { s with pool := transportBufferUnref s.pool i, inHand := none } j +
          if i = j then 1 else 0 := by
      intro j
      unfold Pipeline.routerHolds
      rw [hhand]
      simp only [Option.toList_some, Option.toList_none, List.count_singleton, List.count_nil,
        beq_iff_eq, FifoEntry.own.injEq]
      rfl
    refine h.unref rfl ?_ (fun j hj => ?_) (fun j => ?_) (fun j f hj => hj) fun j hj => hj
    · unfold Pipeline.holders
      rw [hrouter, if_pos rfl]
      exact (Nat.add_assoc _ _ _).symm
    · unfold Pipeline.holders
      rw [hrouter j, if_neg hj.symm]
      rfl
    · rw [hrouter j]
      exact Nat.le_add_right _ _
  | releaseOther hhand =>
    refine h.same (fun _ => rfl) (fun j => ?_) h.pool h.ledger h.obtained fun j hj => hj
    unfold Pipeline.routerHolds
    rw [hhand]
    rfl

/-- The number of contexts does not change, the array being static. -/
theorem Pipeline.Step.length_eq (hstep : s.Step type s') :
    s'.pool.contexts.length = s.pool.contexts.length := by
  cases hstep with
  | given _ hq => exact hq.length_eq
  | refused _ hq => exact hq.length_eq
  | written => exact List.length_set
  | ref => exact List.length_set
  | unref => exact unref_length _ _
  | release => exact unref_length _ _
  | skipped => rfl
  | entered => rfl
  | enqueued => rw [put_pool]
  | otherRx => rw [put_pool]
  | dequeue => rw [take_pool]
  | releaseOther => rfl

end Invariant

/-! ### Runs -/

/-- The state after initialisation, with nothing in the FIFOs. -/
def Pipeline.init (numBuffers bufferSizeBytes : ℕ) (rxTimeoutMs : UInt32)
    (api : Option (TransportBuffer ε → Option κ → Bool)) (ext : ε) : Pipeline ε κ :=
  ⟨transportBufferPoolInit numBuffers bufferSizeBytes rxTimeoutMs api ext, .idle, [], [], none⟩

/-- **References are counted.** In every reachable state of a transport's pool together with the
router, whatever the transport receives and whenever the threads run:

* a context is FREE when it has no buffer, a RECEIVING one has one reference, and a REFERENCED one
  has a reference for each of its holders, and at least one;
* no two contexts hold the same buffer, the buffers that are not free are as many as the contexts in
  use, and with a FREE context the allocation does not fail;
* every context is in at most one position of the router's FIFOs. -/
theorem holders_counted (type : AlfieTransportType) (registered : Bool)
    (numBuffers bufferSizeBytes : ℕ) (rxTimeoutMs : UInt32)
    (api : Option (TransportBuffer ε → Option κ → Bool)) (ext : ε)
    (xs : List (PipelineAction ε κ)) (s : Pipeline ε κ)
    (hrun : Steps (Pipeline.step type registered) (fun _ _ => True)
      (.init numBuffers bufferSizeBytes rxTimeoutMs api ext) xs s) :
    (∀ i b, s.pool.contexts[i]? = some b →
      (b.state = .free ↔ b.buffer = none) ∧
      (b.state = .receiving → ∃ nb, b.buffer = some nb ∧ nb.ref = 1) ∧
      (b.state = .referenced → ∃ nb, b.buffer = some nb ∧ nb.ref = s.holders i ∧ 0 < nb.ref)) ∧
    (∀ (i j : ℕ) (b c : TransportBuffer ε) (nb nc : NetBuf),
      s.pool.contexts[i]? = some b → s.pool.contexts[j]? = some c →
      b.buffer = some nb → c.buffer = some nc → nb.id = nc.id → i = j) ∧
    s.pool.freeBufs.length + s.pool.contexts.countP (fun b => b.state ≠ .free) = numBuffers ∧
    (∀ now, (∃ c ∈ (s.pool.expire now).contexts, c.state = .free) →
      (s.pool.expire now).freeBufs ≠ []) ∧
    ∀ i, s.positions i ≤ 1 := by
  obtain ⟨hinv, hlen⟩ : PipelineInv s ∧ s.pool.contexts.length = numBuffers := by
    refine hrun.invariant (P := fun s => PipelineInv s ∧ s.pool.contexts.length = numBuffers) ?_
      ⟨.init _ _ _ _ _, List.length_replicate⟩
    rintro t x t' ⟨hinv, hlen⟩ - hstep
    have hspec := Pipeline.step_spec hstep
    exact ⟨hinv.step hspec, hspec.length_eq.trans hlen⟩
  refine ⟨fun i b hi => ⟨?_, fun hb => ?_, fun hb => ?_⟩, ?_, ?_, ?_, fun i => ?_⟩
  · exact (hinv.pool.context_at hi).free_iff
  · have hctx := hinv.pool.context_at hi
    unfold ContextInv at hctx
    rwa [hb] at hctx
  · -- the ledger counts the holders, and the pool knows that there is one
    obtain ⟨nb, hnb, href⟩ := hinv.ledger.counted i b hi hb
    have hctx := hinv.pool.context_at hi
    unfold ContextInv at hctx
    rw [hb] at hctx
    obtain ⟨nb', hnb', hpos⟩ := hctx
    rw [hnb] at hnb'
    exact ⟨nb, hnb, href, (Option.some.inj hnb').symm ▸ hpos⟩
  · exact fun i j b c nb nc hi hj hb hc hid => hinv.pool.eq_of_bufId hi hj hb hc hid
  · rw [← hlen]
    exact hinv.pool.length_freeBufs_add
  · rintro now ⟨c, hc, hfree⟩
    obtain ⟨j, hj⟩ := List.getElem?_of_mem hc
    exact (hinv.pool.expire now).freeBufs_ne_nil hj hfree
  · calc s.positions i
        ≤ s.phase.routerHolds i + s.positions i := Nat.le_add_left _ _
      _ ≤ s.routerHolds i := Nat.le_add_right _ _
      _ ≤ 1 := hinv.once i

/-- A message of ten bytes arrives over DECT and is enqueued; the transport drops its reference. -/
def oneEnqueued : List (PipelineAction DectTransportExt UInt32) :=
  [.poolGet 0 (some 1) ⟨7, 10, 0, 1, toEndpointThree.data⟩, .write 0 fun _ => ⟨1⟩, .callback, .ref,
    .enqueue, .unref]

/-- The router is the only holder of a message whose transport has dropped its reference, and that
is what its count says. -/
theorem holders_counted_oneEnqueued :
    ∃ (s : Pipeline DectTransportExt UInt32) (b : DectTransportBuffer) (nb : NetBuf),
      Steps (Pipeline.step .downstream true) (fun _ _ => True)
        (.init dectTransportLayerNumRxBuffers dectTransportLayerMaxRxBufferSizeBytes
          (UInt32.ofNat dectTransportLayerRxTimeoutMs) (some prvAdditionalQueryMatches) ⟨0⟩)
        oneEnqueued s ∧
      s.pool.contexts[0]? = some b ∧ b.buffer = some nb ∧ s.holders 0 = 1 ∧
      nb.ref = s.holders 0 := by
  obtain ⟨s, hrun, b, hi, hb, hholders⟩ : ∃ s : Pipeline DectTransportExt UInt32,
      Steps (Pipeline.step .downstream true) (fun _ _ => True)
        (.init dectTransportLayerNumRxBuffers dectTransportLayerMaxRxBufferSizeBytes
          (UInt32.ofNat dectTransportLayerRxTimeoutMs) (some prvAdditionalQueryMatches) ⟨0⟩)
        oneEnqueued s ∧
      ∃ b, s.pool.contexts[0]? = some b ∧ b.state = .referenced ∧ s.holders 0 = 1 :=
    ⟨_, steps_of_checkRun rfl, _, rfl, rfl, rfl⟩
  obtain ⟨hcontexts, -⟩ := holders_counted _ _ _ _ _ _ _ oneEnqueued s hrun
  obtain ⟨-, -, hreferenced⟩ := hcontexts 0 b hi
  obtain ⟨nb, hnb, href, -⟩ := hreferenced hb
  exact ⟨s, b, nb, hrun, hi, hnb, hholders, href⟩

/-! ### The handlers of the transports -/

/-- The router as a callback: it takes a reference to what is long enough. -/
def routerCallback (registered : Bool) : Option (TransportRxCallback ε) :=
  if registered then
    some fun b => if b.totalSizeBytes.toNat < alfieProtoHeaderSizeBytes then 0 else 1
  else none

section Completion

variable {type : AlfieTransportType} {registered : Bool} {s : Pipeline ε κ} {i : ℕ}
  {b : TransportBuffer ε} {p : TransportBufferPool ε κ}

/-- A callback that takes no reference, in one step. -/
theorem callback_skipped (hphase : s.phase = .completed i) (hi : s.pool.contexts[i]? = some b)
    (hskip : registered = false ∨ b.totalSizeBytes.toNat < alfieProtoHeaderSizeBytes) :
    s.step type registered .callback = some { s with phase := .calledBack i } := by
  unfold Pipeline.step
  dsimp only
  rw [hphase]
  dsimp only
  rw [hi]
  exact if_pos hskip

/-- A callback that will take one. -/
theorem callback_entered (hphase : s.phase = .completed i) (hi : s.pool.contexts[i]? = some b)
    (hskip : ¬ (registered = false ∨ b.totalSizeBytes.toNat < alfieProtoHeaderSizeBytes)) :
    s.step type registered .callback = some { s with phase := .entered i } := by
  unfold Pipeline.step
  dsimp only
  rw [hphase]
  dsimp only
  rw [hi]
  exact if_neg hskip

/-- It takes it. -/
theorem ref_entered (hphase : s.phase = .entered i) (hi : s.pool.contexts[i]? = some b) :
    s.step type registered .ref =
      some { s with pool := s.pool.store i (transportBufferRef b), phase := .refTaken i } := by
  unfold Pipeline.step
  dsimp only
  rw [hphase]
  dsimp only
  rw [hi]

/-- And the transport drops its own. -/
theorem unref_calledBack (hphase : s.phase = .calledBack i) :
    s.step type registered .unref =
      some { s with pool := transportBufferUnref s.pool i, phase := .idle } := by
  unfold Pipeline.step
  dsimp only
  rw [hphase]

/-- Writing back what is there changes nothing in the pool. -/
theorem store_self (hi : p.contexts[i]? = some b) : p.store i b = p := by
  obtain ⟨hlt, rfl⟩ := List.getElem?_eq_some_iff.mp hi
  unfold TransportBufferPool.store
  rw [List.set_getElem_self]

/-- Without a callback, or with a message that the router drops, only the transport's own reference
is dropped. -/
theorem handleCompleteTransaction_skipped (hi : p.contexts[i]? = some b)
    (hskip : registered = false ∨ b.totalSizeBytes.toNat < alfieProtoHeaderSizeBytes) :
    (handleCompleteTransaction (routerCallback registered) p i).1 = transportBufferUnref p i := by
  unfold handleCompleteTransaction routerCallback
  cases registered with
  | false => rfl
  | true =>
    have hsmall := hskip.resolve_left Bool.noConfusion
    rw [hi, if_pos rfl]
    dsimp only
    rw [if_pos hsmall]
    exact congrArg (transportBufferUnref · i) (store_self hi)

/-- With a message that the router accepts, the transport drops its own reference and the router's
stays. -/
theorem handleCompleteTransaction_entered (hi : p.contexts[i]? = some b)
    (hskip : ¬ (registered = false ∨ b.totalSizeBytes.toNat < alfieProtoHeaderSizeBytes)) :
    (handleCompleteTransaction (routerCallback registered) p i).1 =
      transportBufferUnref (p.store i (transportBufferRef b)) i := by
  unfold handleCompleteTransaction routerCallback
  cases registered with
  | false => exact absurd (Or.inl rfl) hskip
  | true =>
    have hsmall := fun h => hskip (Or.inr h)
    rw [hi, if_pos rfl]
    dsimp only
    rw [if_neg hsmall]
    rfl

end Completion

/-- **The handlers are runs of the pipeline**: the handling of a data frame by a transport, from the
lookup to the release of its own reference. -/
theorem handleDataFrame_steps (type : AlfieTransportType) (registered : Bool) (s : Pipeline ε κ)
    (hidle : s.phase = .idle) (params : Option κ) (mark : ε → ε) (now : UInt32) (f : Fragment) :
    ∃ xs s', Steps (Pipeline.step type registered) (fun _ _ => True) s xs s' ∧
      s'.phase = .idle ∧
      s'.pool = (handleDataFrame (routerCallback registered) params mark now f s.pool).1 := by
  unfold handleDataFrame
  rcases transportBufferPoolGet_spec s.pool now f params with ⟨i, b, q, hget, hq⟩ | ⟨q, hget, -⟩
  · rw [hget]
    dsimp only
    unfold writeFragment
    rw [hq.getElem?]
    dsimp only
    generalize hw : transportBufferWrite now (b.mark mark) f.fragIdx f.payload = w
    -- the lookup and the write are the first two steps, whatever the result
    have hfirst : s.step type registered (.poolGet now params f) =
        some { s with pool := q, phase := .obtained i f } := by
      unfold Pipeline.step
      dsimp only
      rw [hidle, hget]
    have hsecond : Pipeline.step type registered { s with pool := q, phase := .obtained i f }
        (.write now mark) = some { s with
          pool := q.store i w.2
          phase := if w.1 = .complete then .completed i else .idle } := by
      unfold Pipeline.step
      dsimp only
      rw [hq.getElem?]
      dsimp only
      rw [hw]
    obtain ⟨ret, b'⟩ := w
    have hi : (q.store i b').contexts[i]? = some b' := store_getElem?_self b' hq.getElem?
    by_cases hret : ret = .complete
    · subst hret
      -- a message that is not complete ends the handling here
      dsimp only at hsecond
      rw [if_pos rfl] at hsecond
      by_cases hskip : registered = false ∨ b'.totalSizeBytes.toNat < alfieProtoHeaderSizeBytes
      · -- the router takes no reference
        refine ⟨[.poolGet now params f, .write now mark, .callback, .unref], _,
          .cons trivial hfirst (.cons trivial hsecond (.cons trivial
            (callback_skipped rfl hi hskip) (.cons trivial rfl (.nil _)))), rfl, ?_⟩
        exact (handleCompleteTransaction_skipped hi hskip).symm
      · refine ⟨[.poolGet now params f, .write now mark, .callback, .ref, .enqueue, .unref], _,
          .cons trivial hfirst (.cons trivial hsecond (.cons trivial
            (callback_entered rfl hi hskip) (.cons trivial (ref_entered rfl hi) (.cons trivial rfl
              (.cons trivial (unref_calledBack (put_phase _ _ _)) (.nil _)))))), rfl, ?_⟩
        dsimp only
        rw [put_pool]
        exact (handleCompleteTransaction_entered hi hskip).symm
    · dsimp only at hsecond
      rw [if_neg hret] at hsecond
      refine ⟨[.poolGet now params f, .write now mark], _,
        .cons trivial hfirst (.cons trivial hsecond (.nil _)), rfl, ?_⟩
      cases ret with
      | complete => exact absurd rfl hret
      | _ => rfl
  · rw [hget]
    refine ⟨[.poolGet now params f], { s with pool := q }, .cons trivial ?_ (.nil _), hidle, rfl⟩
    unfold Pipeline.step
    dsimp only
    rw [hidle, hget]

end DectCommunicator
