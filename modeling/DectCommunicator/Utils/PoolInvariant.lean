import DectCommunicator.Utils.TransportBufferSpec
import Mathlib.Data.List.Perm.Basic
import Mathlib.Data.List.Nodup
import Mathlib.Algebra.Order.Group.Nat

/-!
# The pool invariant

`PoolInv p` says that the contexts and the `net_buf` pool agree: a FREE context holds no buffer, a
RECEIVING one holds a buffer with the transport's single reference, a REFERENCED one a buffer that
is still referenced, and the free list together with the buffers held by the contexts is the whole
`net_buf` pool, every buffer once.

Every operation preserves it, in particular the reassembly step (`DataFrameStep.poolInv`) and a
release by the consumer (`PoolInv.unref`). What later proofs use of it: a RECEIVING context has a
buffer (`PoolInv.buffer_ne_none`), and while some context is FREE the allocation cannot fail
(`PoolInv.freeBufs_ne_nil`).
-/

namespace DectCommunicator

variable {ε κ : Type}

/-- State, buffer and reference count of one context agree. A RECEIVING context has exactly the
transport's reference, since nobody else has been shown it yet. -/
def ContextInv (b : TransportBuffer ε) : Prop :=
  match b.state with
  | .free => b.buffer = none
  | .receiving => ∃ nb, b.buffer = some nb ∧ nb.ref = 1
  | .referenced => ∃ nb, b.buffer = some nb ∧ 0 < nb.ref

/-- The pool invariant. The contexts are taken one by one; what connects them is that they share the
buffers of one `net_buf` pool. -/
structure PoolInv (p : TransportBufferPool ε κ) : Prop where
  /-- every context is in order -/
  context : ∀ b ∈ p.contexts, ContextInv b
  /-- every buffer of the `net_buf` pool is free or held by one context -/
  bufs : (p.freeBufs ++ p.contexts.flatMap TransportBuffer.bufId).Perm
    (List.range p.contexts.length)

/-! ### Single contexts -/

section Context

variable {b : TransportBuffer ε}

theorem ContextInv.released (b : TransportBuffer ε) : ContextInv b.released := rfl

/-- A context that is in use has a buffer. -/
theorem ContextInv.buffer_ne_none (h : ContextInv b) (hb : b.state ≠ .free) : b.buffer ≠ none := by
  unfold ContextInv at h
  cases hst : b.state with
  | free => exact absurd hst hb
  | receiving => rw [hst] at h; obtain ⟨nb, hnb, -⟩ := h; rw [hnb]; exact Option.some_ne_none nb
  | referenced => rw [hst] at h; obtain ⟨nb, hnb, -⟩ := h; rw [hnb]; exact Option.some_ne_none nb

/-- A context is FREE exactly when it has no buffer, so the code may test either of the two. -/
theorem ContextInv.free_iff (h : ContextInv b) : b.state = .free ↔ b.buffer = none := by
  constructor
  · intro hb
    unfold ContextInv at h
    rwa [hb] at h
  · intro hb
    by_contra hne
    exact h.buffer_ne_none hne hb

theorem ContextInv.expire (h : ContextInv b) (now t : UInt32) : ContextInv (b.expire now t) := by
  unfold TransportBuffer.expire
  split
  · exact .released b
  · exact h

theorem ContextInv.mark (h : ContextInv b) (g : ε → ε) : ContextInv (b.mark g) := h

/-- A fragment that is added changes neither the state nor the references. -/
theorem ContextInv.accept (h : ContextInv b) (now : UInt32) (data : List UInt8) :
    ContextInv (b.accept now data) := by
  unfold ContextInv at h ⊢
  rw [accept_state]
  unfold TransportBuffer.accept TransportBuffer.addMem
  cases hst : b.state with
  -- Without a buffer there is nothing to add to.
  | free => rw [hst] at h; dsimp only at h ⊢; rw [h]; rfl
  | receiving =>
    rw [hst] at h
    obtain ⟨nb, hnb, href⟩ := h
    exact ⟨{ nb with data := nb.data ++ data }, by rw [hnb]; rfl, href⟩
  | referenced =>
    rw [hst] at h
    obtain ⟨nb, hnb, href⟩ := h
    exact ⟨{ nb with data := nb.data ++ data }, by rw [hnb]; rfl, href⟩

/-- A RECEIVING context that is handed on keeps the transport's reference until it is dropped. -/
theorem ContextInv.referenced (h : ContextInv b) (hb : b.state = .receiving) :
    ContextInv { b with state := .referenced } := by
  unfold ContextInv at h
  rw [hb] at h
  obtain ⟨nb, hnb, href⟩ := h
  exact ⟨nb, hnb, by omega⟩

/-- A consumer that takes a reference to a message leaves the context in order. -/
theorem ContextInv.ref (h : ContextInv b) (hb : b.state = .referenced) :
    ContextInv (transportBufferRef b) := by
  unfold ContextInv at h ⊢
  rw [hb] at h
  rw [ref_state, hb]
  obtain ⟨nb, hnb, href⟩ := h
  exact ⟨{ nb with ref := nb.ref + 1 }, by unfold transportBufferRef; rw [hnb]; rfl, by simp⟩

theorem ContextInv.repeat_ref (h : ContextInv b) (hb : b.state = .referenced) (n : ℕ) :
    ContextInv (Nat.repeat transportBufferRef n b) := by
  induction n with
  | zero => exact h
  | succ n ih => exact ih.ref (by rw [repeat_ref_state, hb])

/-- Taking a reference does not move the buffer. -/
theorem ref_bufId (b : TransportBuffer ε) : (transportBufferRef b).bufId = b.bufId := by
  unfold TransportBuffer.bufId transportBufferRef
  cases b.buffer <;> rfl

theorem repeat_ref_bufId (n : ℕ) (b : TransportBuffer ε) :
    (Nat.repeat transportBufferRef n b).bufId = b.bufId := by
  induction n with
  | zero => rfl
  | succ n ih => rw [Nat.repeat, ref_bufId, ih]

/-- Adding a fragment does not move the buffer. -/
theorem accept_bufId (b : TransportBuffer ε) (now : UInt32) (data : List UInt8) :
    (b.accept now data).bufId = b.bufId := by
  unfold TransportBuffer.bufId TransportBuffer.accept TransportBuffer.addMem
  cases b.buffer <;> rfl

end Context

/-! ### The buffers held by the contexts -/

/-- Writing one context exchanges its buffer for the new one. It is stated without a subtraction of
lists, so that either buffer may be missing. -/
theorem flatMap_set_perm {α : Type} (g : α → List ℕ) (c : α) {l : List α} {i : ℕ} {a : α}
    (h : l[i]? = some a) : (g a ++ (l.set i c).flatMap g).Perm (g c ++ l.flatMap g) := by
  -- By induction on the list; the written element is the first one or lies behind it.
  induction l generalizing i with
  | nil => cases h
  | cons b l ih =>
    cases i with
    | zero =>
      obtain rfl := Option.some.inj h
      rw [List.set_cons_zero, List.flatMap_cons, List.flatMap_cons, ← List.append_assoc,
        ← List.append_assoc]
      exact List.perm_append_comm.append_right _
    | succ i =>
      rw [List.set_cons_succ, List.flatMap_cons, List.flatMap_cons]
      refine (List.perm_append_comm_assoc _ _ _).trans ?_
      exact ((ih h).append_left _).trans (List.perm_append_comm_assoc _ _ _)

/-- A context holds at most one buffer. -/
theorem length_bufId_le (b : TransportBuffer ε) : b.bufId.length ≤ 1 := by
  unfold TransportBuffer.bufId
  cases b.buffer <;> simp

/-- With a FREE context the contexts hold fewer buffers than there are contexts, as each holds at
most one. -/
theorem length_flatMap_bufId_lt {l : List (TransportBuffer ε)} {b : TransportBuffer ε}
    (hb : b ∈ l) (hfree : b.buffer = none) :
    (l.flatMap TransportBuffer.bufId).length < l.length := by
  have hle : ∀ l : List (TransportBuffer ε),
      (l.flatMap TransportBuffer.bufId).length ≤ l.length := by
    intro l
    induction l with
    | nil => exact le_refl _
    | cons c l ih =>
      rw [List.flatMap_cons, List.length_append, List.length_cons]
      have := length_bufId_le c
      omega
  induction l with
  | nil => exact absurd hb List.not_mem_nil
  | cons c l ih =>
    rw [List.flatMap_cons, List.length_append, List.length_cons]
    -- The FREE context is the first one, or it is one of the others.
    rcases List.mem_cons.mp hb with rfl | hb
    · have h0 : b.bufId = [] := by unfold TransportBuffer.bufId; rw [hfree]; rfl
      have := hle l
      rw [h0, List.length_nil]
      omega
    · have := ih hb
      have := length_bufId_le c
      omega

/-- The buffers held are as many as the contexts in use, which is what a free list of the remaining
ones is compared with. -/
theorem length_flatMap_bufId {l : List (TransportBuffer ε)} (h : ∀ b ∈ l, ContextInv b) :
    (l.flatMap TransportBuffer.bufId).length = l.countP fun b => b.state ≠ .free := by
  induction l with
  | nil => rfl
  | cons b l ih =>
    -- a context is FREE exactly if it has no buffer
    have hb := (h b List.mem_cons_self).free_iff
    rw [List.flatMap_cons, List.length_append, ih fun c hc => h c (List.mem_cons_of_mem _ hc),
      List.countP_cons, Nat.add_comm]
    congr 1
    unfold TransportBuffer.bufId
    cases hbuf : b.buffer with
    | none =>
      rw [if_neg (by simpa using hb.mpr hbuf)]
      rfl
    | some nb =>
      have hne : b.state ≠ .free := fun hst => by
        rw [hb.mp hst] at hbuf
        cases hbuf
      rw [if_pos (by simpa using hne)]
      rfl

/-! ### The operations keep the invariant -/

section Operations

variable {p q : TransportBufferPool ε κ}

/-- The pool after initialisation is in order: all contexts are FREE, and all buffers on the free
list. -/
theorem PoolInv.init (numBuffers bufferSizeBytes : ℕ) (rxTimeoutMs : UInt32)
    (api : Option (TransportBuffer ε → Option κ → Bool)) (ext : ε) :
    PoolInv (transportBufferPoolInit numBuffers bufferSizeBytes rxTimeoutMs api ext) where
  context := by
    intro b hb
    rw [List.eq_of_mem_replicate hb]
    rfl
  bufs := by
    have hnil : (List.replicate numBuffers
        (⟨none, .free, 0, 0, 0, 0, 0, ext⟩ : TransportBuffer ε)).flatMap TransportBuffer.bufId
          = [] := by
      rw [List.flatMap_eq_nil_iff]
      intro b hb
      rw [List.eq_of_mem_replicate hb]
      rfl
    simp only [transportBufferPoolInit, hnil, List.append_nil, List.length_replicate]
    exact List.Perm.refl _

/-- Every context is in order at the index where it is found. -/
theorem PoolInv.context_at (h : PoolInv p) {i : ℕ} {b : TransportBuffer ε}
    (hi : p.contexts[i]? = some b) : ContextInv b :=
  h.context b (List.mem_of_getElem? hi)

/-- A context in use has a buffer, so that its bytes and its length are those of one. -/
theorem PoolInv.buffer_ne_none (h : PoolInv p) {i : ℕ} {b : TransportBuffer ε}
    (hi : p.contexts[i]? = some b) (hb : b.state ≠ .free) : b.buffer ≠ none :=
  (h.context_at hi).buffer_ne_none hb

/-- **Allocation cannot fail** while a context is FREE: there are as many buffers as contexts. The
branch of `transport_buffer_pool_get` that would report a missing buffer is never taken. -/
theorem PoolInv.freeBufs_ne_nil (h : PoolInv p) {i : ℕ} {b : TransportBuffer ε}
    (hi : p.contexts[i]? = some b) (hb : b.state = .free) : p.freeBufs ≠ [] := by
  intro hnil
  have hctx := h.context_at hi
  unfold ContextInv at hctx
  rw [hb] at hctx
  have hlt := length_flatMap_bufId_lt (List.mem_of_getElem? hi) hctx
  have hlen := h.bufs.length_eq
  rw [hnil, List.nil_append, List.length_range] at hlen
  omega

/-- The free buffers and the contexts in use are as many as the contexts. -/
theorem PoolInv.length_freeBufs_add (h : PoolInv p) :
    p.freeBufs.length + p.contexts.countP (fun b => b.state ≠ .free) = p.contexts.length := by
  have hlen := h.bufs.length_eq
  rw [List.length_append, length_flatMap_bufId h.context, List.length_range] at hlen
  exact hlen

/-- No two contexts hold the same buffer, so that a message is never written into another one. -/
theorem PoolInv.eq_of_bufId (h : PoolInv p) {i j : ℕ} {b c : TransportBuffer ε} {nb nc : NetBuf}
    (hi : p.contexts[i]? = some b) (hj : p.contexts[j]? = some c) (hb : b.buffer = some nb)
    (hc : c.buffer = some nc) (hid : nb.id = nc.id) : i = j := by
  have hnodup : (p.contexts.flatMap TransportBuffer.bufId).Nodup :=
    (h.bufs.nodup_iff.mpr List.nodup_range).of_append_right
  have hpairwise := List.pairwise_iff_getElem.mp (List.nodup_flatMap.mp hnodup).2
  obtain ⟨hlti, rfl⟩ := List.getElem?_eq_some_iff.mp hi
  obtain ⟨hltj, rfl⟩ := List.getElem?_eq_some_iff.mp hj
  -- The buffer is listed for both contexts, and no buffer is listed twice.
  have hmemi : nb.id ∈ (p.contexts[i]).bufId := by
    unfold TransportBuffer.bufId
    rw [hb]
    exact List.mem_singleton_self _
  have hmemj : nb.id ∈ (p.contexts[j]).bufId := by
    unfold TransportBuffer.bufId
    rw [hc, hid]
    exact List.mem_singleton_self _
  rcases Nat.lt_trichotomy i j with hlt | heq | hlt
  · exact absurd hmemj (hpairwise i j hlti hltj hlt hmemi)
  · exact heq
  · exact absurd hmemi (hpairwise j i hltj hlti hlt hmemj)

/-- Writing a context without changing which buffer it holds keeps the pool in order. -/
theorem PoolInv.store (h : PoolInv p) {i : ℕ} {b b' : TransportBuffer ε}
    (hi : p.contexts[i]? = some b) (hb' : ContextInv b') (hid : b'.bufId = b.bufId) :
    PoolInv (p.store i b') where
  context := by
    intro c hc
    rcases List.mem_or_eq_of_mem_set hc with hc | rfl
    · exact h.context c hc
    · exact hb'
  bufs := by
    have hperm := flatMap_set_perm TransportBuffer.bufId b' hi
    rw [hid] at hperm
    rw [store_contexts, List.length_set]
    exact ((List.perm_append_left_iff _).mp hperm).append_left _ |>.trans h.bufs

/-- Expiry moves buffers from the contexts to the free list, in whatever order. -/
theorem foldl_expire_perm (now t : UInt32) (l : List (TransportBuffer ε)) (free : List ℕ) :
    ((l.foldl (fun free b => if b.timedOut now t then b.bufId ++ free else free) free)
        ++ (l.map (TransportBuffer.expire now t)).flatMap TransportBuffer.bufId).Perm
      (free ++ l.flatMap TransportBuffer.bufId) := by
  induction l generalizing free with
  | nil => exact List.Perm.refl _
  | cons b l ih =>
    rw [List.foldl_cons, List.map_cons, List.flatMap_cons, List.flatMap_cons]
    -- A context that has timed out gives its buffer up, and any other one keeps it.
    by_cases hb : b.timedOut now t = true
    · have hrel : (b.expire now t).bufId = [] := by
        unfold TransportBuffer.expire
        rw [if_pos hb]
        rfl
      rw [if_pos hb, hrel, List.nil_append]
      refine (ih _).trans ?_
      rw [List.append_assoc, ← List.append_assoc free]
      exact (List.perm_append_comm_assoc _ _ _).trans (by rw [List.append_assoc])
    · have hkeep : b.expire now t = b := if_neg hb
      rw [if_neg hb, hkeep]
      refine (List.perm_append_comm_assoc _ _ _).trans ?_
      exact ((ih free).append_left _).trans (List.perm_append_comm_assoc _ _ _)

/-- Expiry keeps the pool in order. -/
theorem PoolInv.expire (h : PoolInv p) (now : UInt32) : PoolInv (p.expire now) where
  context := by
    intro b hb
    rw [expire_contexts, List.mem_map] at hb
    obtain ⟨b₀, hb₀, rfl⟩ := hb
    exact (h.context b₀ hb₀).expire now _
  bufs := by
    rw [expire_contexts, List.length_map]
    exact (foldl_expire_perm now p.rxTimeoutMs p.contexts p.freeBufs).trans h.bufs

/-- A refused fragment keeps the pool in order, whether contexts have expired or not. -/
theorem Refused.poolInv {now : UInt32} {f : Fragment} {params : Option κ}
    (hq : Refused p now f params q) (h : PoolInv p) : PoolInv q := by
  cases hq with
  | misuse => exact h
  | noContext => exact h.expire now

/-- The lookup keeps the pool in order, also when it allocates. -/
theorem Obtained.poolInv {now : UInt32} {f : Fragment} {params : Option κ} {i : ℕ}
    {b : TransportBuffer ε} (hq : Obtained p now f params i b q) (h : PoolInv p) : PoolInv q := by
  cases hq with
  | found => exact h.expire now
  | @fresh id b rest hidx hnone hi hfree hfirst hbufs =>
    have hexp := h.expire now
    -- a FREE context has no buffer, so none is lost when it is given one
    have hnb : b.buffer = none := by
      have hctx := hexp.context_at hi
      unfold ContextInv at hctx
      rwa [hfree] at hctx
    refine ⟨?_, ?_⟩
    · intro c hc
      rcases List.mem_or_eq_of_mem_set hc with hc | rfl
      · exact hexp.context c hc
      · exact ⟨_, rfl, rfl⟩
    · -- the buffer moves from the head of the free list to the context
      have hperm := flatMap_set_perm TransportBuffer.bufId
        (b.allocated id f.seqId f.totalSizeBytes.toNat f.fragTotal now) hi
      have hb : b.bufId = [] := by unfold TransportBuffer.bufId; rw [hnb]; rfl
      have hb' : (b.allocated id f.seqId f.totalSizeBytes.toNat f.fragTotal now).bufId = [id] := rfl
      rw [hb, hb', List.nil_append] at hperm
      have hall := hexp.bufs
      rw [hbufs] at hall
      dsimp only [store_contexts]
      rw [List.length_set]
      exact ((hperm.append_left rest).trans List.perm_middle).trans hall

/-- The context a fragment is given has a buffer. -/
theorem Obtained.buffer_ne_none {now : UInt32} {f : Fragment} {params : Option κ} {i : ℕ}
    {b : TransportBuffer ε} (hq : Obtained p now f params i b q) (h : PoolInv p) :
    b.buffer ≠ none := by
  refine (hq.poolInv h).buffer_ne_none hq.getElem? ?_
  rw [hq.receiving]
  exact fun hst => by cases hst

/-- Dropping a reference keeps the invariant, whichever context it is and whoever drops it. -/
theorem PoolInv.unref (h : PoolInv p) (i : ℕ) : PoolInv (transportBufferUnref p i) := by
  unfold transportBufferUnref
  split
  · exact h
  next b hi =>
  split
  · exact h
  next nb hnb =>
  have hctx := h.context_at hi
  split
  · -- the last reference: the buffer goes back to the free list
    refine ⟨?_, ?_⟩
    · intro c hc
      rcases List.mem_or_eq_of_mem_set hc with hc | rfl
      · exact h.context c hc
      · exact .released b
    · have hperm := flatMap_set_perm TransportBuffer.bufId b.released hi
      have hb : b.bufId = [nb.id] := by unfold TransportBuffer.bufId; rw [hnb]; rfl
      have hb' : b.released.bufId = [] := rfl
      rw [hb, hb', List.nil_append] at hperm
      dsimp only [store_contexts]
      rw [List.length_set]
      exact (List.perm_middle.symm.trans (hperm.append_left _)).trans h.bufs
  · next href =>
    refine h.store hi ?_ (by unfold TransportBuffer.bufId; rw [hnb]; rfl)
    -- Some references are left. A RECEIVING context has but one, so this is a REFERENCED one.
    unfold ContextInv at hctx ⊢
    dsimp only
    cases hst : b.state with
    | free => rw [hst] at hctx; rw [hctx] at hnb; cases hnb
    | receiving =>
      rw [hst] at hctx
      obtain ⟨nb', hnb', href'⟩ := hctx
      rw [hnb] at hnb'
      obtain rfl := Option.some.inj hnb'
      exact absurd href' href
    -- one reference less, and still at least one
    | referenced =>
      rw [hst] at hctx
      obtain ⟨nb', hnb', href'⟩ := hctx
      rw [hnb] at hnb'
      obtain rfl := Option.some.inj hnb'
      exact ⟨_, rfl, by simp only; omega⟩

/-- A consumer that releases a message keeps the pool in order. -/
theorem PoolInv.release (h : PoolInv p) (i : ℕ) : PoolInv (releaseReferenced p i) := by
  rcases releaseReferenced_cases p i with heq | ⟨b, -, -, heq⟩
  · rwa [heq]
  · rw [heq]
    exact h.unref i

/-- The completion of a message keeps the pool in order, however many references the consumer
takes. -/
theorem PoolInv.handleCompleteTransaction (h : PoolInv p)
    (callback : Option (TransportRxCallback ε)) {i : ℕ} {b : TransportBuffer ε}
    (hi : p.contexts[i]? = some b) (hb : b.state = .referenced) :
    PoolInv (handleCompleteTransaction callback p i).1 := by
  unfold DectCommunicator.handleCompleteTransaction
  rw [hi]
  cases callback with
  | none => exact h.unref i
  | some cb =>
    exact (h.store hi ((h.context_at hi).repeat_ref hb _) (repeat_ref_bufId _ b)).unref i

/-- **The reassembly step keeps the invariant**, whatever the frame. So every result below may
assume it of a pool that frames and releases have led to. -/
theorem DataFrameStep.poolInv {callback : Option (TransportRxCallback ε)} {params : Option κ}
    {mark : ε → ε} {now : UInt32} {f : Fragment} {out : List (RxEffect ε)}
    (hstep : DataFrameStep callback params mark now f p q out) (h : PoolInv p) : PoolInv q := by
  cases hstep with
  | refused hq => exact hq.poolInv h
  | rejected hq =>
    have hinv := hq.poolInv h
    exact hinv.store hq.getElem? ((hinv.context_at hq.getElem?).mark mark) rfl
  | duplicate hq =>
    have hinv := hq.poolInv h
    exact hinv.store hq.getElem? ((hinv.context_at hq.getElem?).mark mark) rfl
  -- an accepted fragment goes into the context's own buffer
  | success hq =>
    have hinv := hq.poolInv h
    exact hinv.store hq.getElem? ((hinv.context_at hq.getElem?).mark mark |>.accept _ _)
      (accept_bufId _ _ _)
  | invalidFinalSize hq =>
    have hinv := hq.poolInv h
    exact hinv.store hq.getElem? ((hinv.context_at hq.getElem?).mark mark |>.accept _ _)
      (accept_bufId _ _ _)
  -- The context is handed to the callback before the transport drops its own reference.
  | complete hq hdata hidx hlast hlen hb' =>
    have hinv := hq.poolInv h
    have hctx := ((hinv.context_at hq.getElem?).mark mark).accept now f.payload
    have hstore := hinv.store hq.getElem? (hctx.referenced (by simp [hq.receiving]))
      (accept_bufId _ now f.payload)
    subst hb'
    exact hstore.handleCompleteTransaction callback (store_getElem?_self _ hq.getElem?) rfl

end Operations

end DectCommunicator
