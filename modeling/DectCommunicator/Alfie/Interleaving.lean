import Mathlib.Logic.Function.Basic
import DectCommunicator.Alfie.Holders

/-!
# The loads and stores of the receive path

`utils/transport_buffer.c` as two threads run it: the thread that receives the frames of a transport
(`transport_buffer_pool_get`, `transport_buffer_write`, the callback of the router and
`transport_buffer_unref`) and the thread of the router, which releases the buffers it dequeues. A
step is one load or one store of a thread; the operations of `net_buf` and of the FIFO are single
steps, as the kernel has them.

* A context holds a pointer to its `net_buf` (`ContextMemory.buffer`), and the pointer is followed
  each time the source follows it. Following NULL has no step.
* The fields that only the receiving thread accesses may be loaded several in one step
  (`LookupPc.compare`, `WritePc.checkFragment`).
* Alone, the loads and stores of a release are the `transportBufferUnref` of the pool
  (`unref_alone`).
* What the threads do besides is left out: acknowledgements, the writes to the other transports, the
  endpoints, and the buffers of other transports, which pass through the thread of the router but
  lie in pools of their own.
-/

namespace DectCommunicator

variable {ε κ : Type}

/-! ### Memory -/

/-- A `net_buf` in memory: its reference count and its data. The free list is that of its pool. -/
structure NetBufMemory where
  ref : ℕ
  data : List UInt8

/-- A `transport_buffer_t` in memory, with the fields its owner adds in `ext`. -/
structure ContextMemory (ε : Type) where
  /-- the index of the `net_buf` it points to -/
  buffer : Option ℕ
  state : TransportBufferState
  seqId : UInt16
  totalSizeBytes : UInt16
  fragTotal : UInt8
  fragIdx : UInt8
  lastRxTimeMs : UInt32
  ext : ε

/-- A `transport_buffer_pool_t`, its contexts, and the `net_buf` pool with its free list. -/
structure PoolMemory (ε κ : Type) where
  contexts : List (ContextMemory ε)
  netBufs : ℕ → NetBufMemory
  freeBufs : List ℕ
  rxTimeoutMs : UInt32
  additionalQueryCb : Option (ε → Option κ → Bool)

namespace PoolMemory

/-- A store to context `i`, which is a field of the context in every use. -/
def modify (m : PoolMemory ε κ) (i : ℕ) (f : ContextMemory ε → ContextMemory ε) :
    PoolMemory ε κ :=
  { m with contexts := m.contexts.modify i f }

/-- The context that is stored to has the new field. -/
theorem modify_getElem?_self (m : PoolMemory ε κ) (i : ℕ) (f : ContextMemory ε → ContextMemory ε) :
    (m.modify i f).contexts[i]? = m.contexts[i]?.map f := by
  unfold modify
  rw [List.getElem?_modify]
  simp

/-- The others are as before. -/
theorem modify_getElem?_of_ne (m : PoolMemory ε κ) {i j : ℕ}
    (f : ContextMemory ε → ContextMemory ε) (h : j ≠ i) :
    (m.modify i f).contexts[j]? = m.contexts[j]? := by
  unfold modify
  rw [List.getElem?_modify]
  simp [h.symm]

/-- `buf->state = state`, without a look at the rest of the context. -/
def storeState (m : PoolMemory ε κ) (i : ℕ) (state : TransportBufferState) : PoolMemory ε κ :=
  m.modify i fun c => { c with state := state }

/-- `buf->buffer = buffer`, which is NULL after a release. -/
def storeBuffer (m : PoolMemory ε κ) (i : ℕ) (buffer : Option ℕ) : PoolMemory ε κ :=
  m.modify i fun c => { c with buffer := buffer }

/-- The `net_buf` that context `i` points to; `none` where the source would follow NULL. -/
def pointer (m : PoolMemory ε κ) (i : ℕ) : Option ℕ := m.contexts[i]?.bind ContextMemory.buffer

/-- The pointer of a context that is there. -/
theorem pointer_eq {m : PoolMemory ε κ} {i : ℕ} {c : ContextMemory ε}
    (h : m.contexts[i]? = some c) : m.pointer i = c.buffer := by
  unfold pointer
  rw [h]
  rfl

/-- A `net_buf` is written, count and data together, since the kernel's operations on it are single
steps. -/
def setNetBuf (m : PoolMemory ε κ) (id : ℕ) (nb : NetBufMemory) : PoolMemory ε κ :=
  { m with netBufs := Function.update m.netBufs id nb }

/-- `net_buf_alloc` with `K_NO_WAIT`: the head of the free list, with one reference and no data. -/
def netBufAlloc (m : PoolMemory ε κ) : Option ℕ × PoolMemory ε κ :=
  match m.freeBufs with
  | [] => (none, m)
  | id :: rest => (some id, { m.setNetBuf id ⟨1, []⟩ with freeBufs := rest })

/-- `net_buf_destroy` puts the buffer on the free list, whatever its count is. The expiry loop calls
it directly. -/
def netBufDestroy (m : PoolMemory ε κ) (id : ℕ) : PoolMemory ε κ :=
  { m with freeBufs := id :: m.freeBufs }

/-- `net_buf_ref`, which is atomic in the kernel. -/
def netBufRef (m : PoolMemory ε κ) (id : ℕ) : PoolMemory ε κ :=
  m.setNetBuf id { m.netBufs id with ref := (m.netBufs id).ref + 1 }

/-- `net_buf_unref`: the last reference destroys the buffer. It is atomic, unlike the load of the
count in front of it. -/
def netBufUnref (m : PoolMemory ε κ) (id : ℕ) : PoolMemory ε κ :=
  let m' := m.setNetBuf id { m.netBufs id with ref := (m.netBufs id).ref - 1 }
  if (m.netBufs id).ref = 1 then m'.netBufDestroy id else m'

/-- The reference count of a `net_buf`, by which `transport_buffer_unref` decides what to store. -/
def ref (m : PoolMemory ε κ) (id : ℕ) : ℕ := (m.netBufs id).ref

/-- `net_buf_add_mem`, whose bound `transport_buffer_write` has checked. -/
def netBufAddMem (m : PoolMemory ε κ) (id : ℕ) (data : List UInt8) : PoolMemory ε κ :=
  m.setNetBuf id { m.netBufs id with data := (m.netBufs id).data ++ data }

section NetBuf

variable {m : PoolMemory ε κ} {id id' : ℕ} {nb : NetBufMemory}

/-- The written `net_buf` has the written count. -/
@[simp] theorem setNetBuf_ref_self : (m.setNetBuf id nb).ref id = nb.ref := by
  simp [setNetBuf, ref]

/-- The others keep theirs. -/
@[simp] theorem setNetBuf_ref_of_ne (h : id' ≠ id) : (m.setNetBuf id nb).ref id' = m.ref id' := by
  simp [setNetBuf, ref, h]

/-- Dropping a reference stores nothing to a context; that is what the source does behind it. -/
@[simp] theorem netBufUnref_contexts : (m.netBufUnref id).contexts = m.contexts := by
  unfold netBufUnref
  dsimp only
  split <;> rfl

/-- It lowers the count of its own `net_buf`, even when it destroys it. -/
theorem netBufUnref_netBufs_self :
    (m.netBufUnref id).netBufs id = { m.netBufs id with ref := (m.netBufs id).ref - 1 } := by
  unfold netBufUnref
  dsimp only
  split <;> exact Function.update_self id _ _

/-- And leaves the others alone. -/
theorem netBufUnref_netBufs_of_ne (h : id' ≠ id) :
    (m.netBufUnref id).netBufs id' = m.netBufs id' := by
  unfold netBufUnref
  dsimp only
  split <;> exact Function.update_of_ne h _ _

/-- The same for the count itself. -/
theorem netBufUnref_ref_self : (m.netBufUnref id).ref id = m.ref id - 1 :=
  congrArg NetBufMemory.ref netBufUnref_netBufs_self

/-- And for the counts of the others. -/
theorem netBufUnref_ref_of_ne (h : id' ≠ id) : (m.netBufUnref id).ref id' = m.ref id' :=
  congrArg NetBufMemory.ref (netBufUnref_netBufs_of_ne h)

/-- Taking a reference raises the count by one. -/
theorem netBufRef_ref_self : (m.netBufRef id).ref id = m.ref id + 1 := setNetBuf_ref_self

/-- And leaves the counts of the others. -/
theorem netBufRef_ref_of_ne (h : id' ≠ id) : (m.netBufRef id).ref id' = m.ref id' :=
  setNetBuf_ref_of_ne h

/-- Adding bytes changes no count. -/
theorem netBufAddMem_ref (data : List UInt8) : (m.netBufAddMem id data).ref = m.ref := by
  funext id'
  by_cases h : id' = id
  · rw [h]
    exact setNetBuf_ref_self
  · exact setNetBuf_ref_of_ne h

/-- Only the last reference puts the `net_buf` on the free list. -/
theorem netBufUnref_freeBufs :
    (m.netBufUnref id).freeBufs = if m.ref id = 1 then id :: m.freeBufs else m.freeBufs := by
  unfold netBufUnref ref
  dsimp only
  split <;> rfl

end NetBuf

end PoolMemory

/-! ### `transport_buffer_unref` -/

/-- Where a thread is in `transport_buffer_unref`: the count is loaded in one step and dropped in
another. -/
inductive UnrefPc where
  /-- `buf->buffer == NULL` -/
  | checkNull
  /-- `last_reference = (buf->buffer->ref == 1)` -/
  | loadRef
  /-- `net_buf_unref(buf->buffer)` -/
  | netBufUnref (lastReference : Bool)
  /-- `buf->state = TRANSPORT_BUFFER_STATE_FREE` -/
  | storeFree
  /-- `buf->buffer = NULL` -/
  | storeNull
deriving DecidableEq, Repr

/-- A step of `transport_buffer_unref` on context `i`; without a program counter it returns. The
pointer is loaded again for each access, as the source does it. -/
def unrefStep (m : PoolMemory ε κ) (i : ℕ) : UnrefPc → Option (PoolMemory ε κ × Option UnrefPc)
  | .checkNull =>
    match m.pointer i with
    | none => some (m, none)
    | some _ => some (m, some .loadRef)
  | .loadRef =>
    match m.pointer i with
    | none => none
    | some id => some (m, some (.netBufUnref ((m.netBufs id).ref = 1)))
  | .netBufUnref lastReference =>
    match m.pointer i with
    | none => none
    | some id => some (m.netBufUnref id, if lastReference then some .storeFree else none)
  | .storeFree => some (m.storeState i .free, some .storeNull)
  | .storeNull => some (m.storeBuffer i none, none)

/-- `transport_buffer_unref` by a thread that is not interrupted: the memory when it returns within
`fuel` steps, of which it needs five at most. -/
def unrefRun (i : ℕ) : ℕ → PoolMemory ε κ → UnrefPc → Option (PoolMemory ε κ)
  | 0, _, _ => none
  | fuel + 1, m, pc =>
    match unrefStep m i pc with
    | none => none
    | some (m', none) => some m'
    | some (m', some pc') => unrefRun i fuel m' pc'

/-- A context in memory, with its `net_buf` in place of the pointer, as the pool of
`Utils/TransportBuffer.lean` has it. -/
def PoolMemory.context (m : PoolMemory ε κ) (c : ContextMemory ε) : TransportBuffer ε where
  buffer := c.buffer.map fun id => ⟨id, m.ref id, (m.netBufs id).data⟩
  state := c.state
  seqId := c.seqId
  totalSizeBytes := c.totalSizeBytes
  fragTotal := c.fragTotal
  fragIdx := c.fragIdx
  lastRxTimeMs := c.lastRxTimeMs
  ext := c.ext

/-- The pool in memory, as the sequential functions see it. -/
def PoolMemory.pool (m : PoolMemory ε κ) (bufferSizeBytes : ℕ) : TransportBufferPool ε κ where
  contexts := m.contexts.map m.context
  freeBufs := m.freeBufs
  bufferSizeBytes := bufferSizeBytes
  rxTimeoutMs := m.rxTimeoutMs
  additionalQueryCb := m.additionalQueryCb.map fun query b => query b.ext

section Alone

variable {m m' : PoolMemory ε κ} {i j id : ℕ} {c c' : ContextMemory ε}

/-- Its contexts are those in memory, one by one. -/
theorem pool_getElem? (m : PoolMemory ε κ) (bufferSizeBytes j : ℕ) :
    (m.pool bufferSizeBytes).contexts[j]? = m.contexts[j]?.map m.context :=
  List.getElem?_map

/-- A context whose `net_buf` is not touched looks the same, the pointer being equal. -/
theorem context_congr (hnet : ∀ id ∈ c.buffer, m'.netBufs id = m.netBufs id) :
    m'.context c = m.context c := by
  unfold PoolMemory.context PoolMemory.ref
  congr 1
  cases hbuffer : c.buffer with
  | none => rfl
  | some id => rw [Option.map_some, Option.map_some, hnet id hbuffer]

/-- One context and its `net_buf` change, and no other context points to that. -/
theorem pool_contexts_eq (bufferSizeBytes : ℕ) (hi : m.contexts[i]? = some c)
    (hi' : m'.contexts[i]? = some c') (hcontexts : ∀ j, j ≠ i → m'.contexts[j]? = m.contexts[j]?)
    (hnet : ∀ j id, j ≠ i → m.pointer j = some id → m'.netBufs id = m.netBufs id) :
    (m'.pool bufferSizeBytes).contexts =
      (m.pool bufferSizeBytes).contexts.set i (m'.context c') := by
  refine List.ext_getElem? fun j => ?_
  rw [List.getElem?_set, pool_getElem?, pool_getElem?]
  -- the context that changed is `c'` with its `net_buf`; any other has its fields and its own
  -- `net_buf`
  by_cases hj : i = j
  · subst hj
    have hlt : i < (m.pool bufferSizeBytes).contexts.length := by
      refine (List.getElem?_eq_some_iff.mp (?_ : _ = some (m.context c))).1
      rw [pool_getElem?, hi]
      rfl
    rw [if_pos rfl, if_pos hlt, hi']
    rfl
  · -- what a context points to is read from the memory, which is why its `net_buf` has to be the
    -- same too
    rw [if_neg hj, hcontexts j (Ne.symm hj)]
    cases hc : m.contexts[j]? with
    | none => rfl
    | some d =>
      rw [Option.map_some, Option.map_some, context_congr fun id hid => ?_]
      exact hnet j id (Ne.symm hj) ((m.pointer_eq hc).trans hid)

/-- **Alone, the loads and stores of a release are `transport_buffer_unref`.** -/
theorem unref_alone (m : PoolMemory ε κ) (i bufferSizeBytes : ℕ)
    (hunique : ∀ j id, j ≠ i → m.pointer i = some id → m.pointer j ≠ some id) :
    ∃ m', unrefRun i 5 m .checkNull = some m' ∧
      m'.pool bufferSizeBytes = transportBufferUnref (m.pool bufferSizeBytes) i := by
  cases hpointer : m.pointer i with
  -- a context without a buffer: both return at the NULL check
  | none =>
    refine ⟨m, by simp [unrefRun, unrefStep, hpointer], ?_⟩
    unfold transportBufferUnref
    rw [pool_getElem?]
    cases hc : m.contexts[i]? with
    | none => rfl
    | some c =>
      rw [m.pointer_eq hc] at hpointer
      simp [PoolMemory.context, hpointer]
  | some id =>
    obtain ⟨c, hc, hbuffer⟩ := Option.bind_eq_some_iff.mp hpointer
    -- no other context points to the same buffer, which is what makes the release local
    have hnet : ∀ j id', j ≠ i → m.pointer j = some id' → id' ≠ id := by
      rintro j _ hj hid rfl
      exact hunique j _ hj hpointer hid
    have hself : (m.pool bufferSizeBytes).contexts[i]? = some (m.context c) := by
      rw [pool_getElem?, hc]
      rfl
    -- what the function does to the model's pool, with the values read from the memory
    have hunref : transportBufferUnref (m.pool bufferSizeBytes) i =
        if m.ref id = 1 then
          { (m.pool bufferSizeBytes).store i (m.context c).released with
            freeBufs := id :: m.freeBufs }
        else (m.pool bufferSizeBytes).store i { m.context c with
          buffer := some ⟨id, m.ref id - 1, (m.netBufs id).data⟩ } := by
      unfold transportBufferUnref
      rw [hself]
      unfold PoolMemory.context
      dsimp only
      rw [hbuffer]
      rfl
    rw [hunref]
    by_cases hone : m.ref id = 1
    · -- the last reference
      have hone' : (m.netBufs id).ref = 1 := hone
      have hdrop : m.netBufUnref id =
          (m.setNetBuf id { m.netBufs id with ref := (m.netBufs id).ref - 1 }).netBufDestroy id :=
        if_pos hone
      refine ⟨((m.netBufUnref id).storeState i .free).storeBuffer i none, ?_, ?_⟩
      · simp [unrefRun, unrefStep, hpointer, hone']
      · rw [if_pos hone, hdrop]
        set m' := ((((m.setNetBuf id { m.netBufs id with ref := (m.netBufs id).ref - 1 }).netBufDestroy
          id).storeState i .free).storeBuffer i none) with hm'
        have hi' : m'.contexts[i]? = some { c with state := .free, buffer := none } := by
          rw [hm', PoolMemory.storeBuffer, PoolMemory.modify_getElem?_self, PoolMemory.storeState,
            PoolMemory.modify_getElem?_self]
          exact congrArg (Option.map _ ∘ Option.map _) hc
        -- only this context and its buffer have changed
        have hcontexts := pool_contexts_eq bufferSizeBytes hc hi' (fun j hj => ?_)
          fun j id' hj hid => Function.update_of_ne (hnet j id' hj hid) _ _
        · calc m'.pool bufferSizeBytes
              = { m.pool bufferSizeBytes with
                  contexts := (m'.pool bufferSizeBytes).contexts, freeBufs := id :: m.freeBufs } := rfl
            _ = _ := by rw [hcontexts]; rfl
        · rw [hm', PoolMemory.storeBuffer, PoolMemory.modify_getElem?_of_ne _ _ hj,
            PoolMemory.storeState, PoolMemory.modify_getElem?_of_ne _ _ hj]
          rfl
    · -- others hold it: only the count goes down
      have hone' : (m.netBufs id).ref ≠ 1 := hone
      have hdrop : m.netBufUnref id =
          m.setNetBuf id { m.netBufs id with ref := (m.netBufs id).ref - 1 } := if_neg hone
      refine ⟨m.netBufUnref id, ?_, ?_⟩
      · simp [unrefRun, unrefStep, hpointer, hone']
      · rw [if_neg hone, hdrop]
        set m' := m.setNetBuf id { m.netBufs id with ref := (m.netBufs id).ref - 1 } with hm'
        have hcontexts : (m'.pool bufferSizeBytes).contexts =
            (m.pool bufferSizeBytes).contexts.set i (m'.context c) :=
          pool_contexts_eq bufferSizeBytes hc hc (fun _ _ => rfl) fun j id' hj hid =>
            Function.update_of_ne (hnet j id' hj hid) _ _
        calc m'.pool bufferSizeBytes
            = { m.pool bufferSizeBytes with contexts := (m'.pool bufferSizeBytes).contexts } := rfl
          _ = (m.pool bufferSizeBytes).store i (m'.context c) := by rw [hcontexts]; rfl
          _ = _ := by
            have hnb : m'.netBufs id = { m.netBufs id with ref := (m.netBufs id).ref - 1 } :=
              Function.update_self id _ _
            congr 1
            unfold PoolMemory.context PoolMemory.ref
            rw [hbuffer, Option.map_some, hnb]

end Alone

/-! ### The receiving thread -/

/-- The first loop of `transport_buffer_pool_get`, which gives up the contexts that have timed
out. -/
inductive ExpiryPc where
  | loadState
  | loadLastRxTimeMs
  | netBufDestroy
  | storeNull
  | storeFree
deriving DecidableEq, Repr

/-- The second loop of `transport_buffer_pool_get`, which looks for the context of the message. -/
inductive LookupPc where
  | loadState
  | compare
deriving DecidableEq, Repr

/-- The fields that an allocation fills in between the buffer and the state, in the order of the
source. -/
inductive HeaderField where
  | totalSizeBytes
  | seqId
  | fragIdx
  | fragTotal
  | lastRxTimeMs
deriving DecidableEq, Repr

/-- The allocation in the third loop of `transport_buffer_pool_get`: the state is stored last, so
the context is FREE to others until then. -/
inductive AllocPc where
  | netBufAlloc
  | storeBuffer (buffer : Option ℕ)
  | checkNull
  | storeHeader (field : HeaderField)
  | storeReceiving
deriving DecidableEq, Repr

/-- `transport_buffer_write`, after the store that the transport makes to its own fields. It writes
to the buffer before it moves the context on. -/
inductive WritePc where
  | mark
  | checkFragment
  | checkOverrun
  | addMem
  | storeLastRxTimeMs
  | incrementFragIdx
  | checkComplete
  | checkFinalSize
  | storeReferenced
deriving DecidableEq, Repr

/-- The callback on a complete message, `prv_handle_transport_rx` with `transport_buffer_ref`, on
the thread of the transport. -/
inductive CallbackPc where
  | checkRegistered
  | checkSize
  | checkNull
  | netBufRef
  | enqueue
deriving DecidableEq, Repr

/-- Where the receiving thread is in the handling of a data frame. -/
inductive RxPc where
  | expiry (pc : ExpiryPc)
  | lookup (pc : LookupPc)
  /-- the test of the third loop of `transport_buffer_pool_get` -/
  | findFree
  | alloc (pc : AllocPc)
  | write (pc : WritePc)
  | callback (pc : CallbackPc)
  | unref (pc : UnrefPc)
deriving DecidableEq, Repr

/-- A data frame as the transport handles it: its fields, the query parameter, and what the
transport stores in the context it obtains. DECT stores the source of the frame, the BLE service
nothing. -/
structure RxFrame (ε κ : Type) where
  fragment : Fragment
  params : Option κ
  mark : ε → ε

/-- Where a step of the receiving thread leads: to a context and a program counter, or, without
one, out of the handling of the frame. -/
abbrev RxNext := Option (ℕ × RxPc)

/-- The first loop, at context `i`, with the uptime `now` that the source has loaded before it. -/
def expiryStep (m : PoolMemory ε κ) (now : UInt32) (i : ℕ) :
    ExpiryPc → Option (PoolMemory ε κ × RxNext)
  | .loadState =>
    match m.contexts[i]? with
    | none => some (m, some (0, .lookup .loadState))
    | some c =>
      if c.state = .receiving then some (m, some (i, .expiry .loadLastRxTimeMs))
      else some (m, some (i + 1, .expiry .loadState))
  | .loadLastRxTimeMs =>
    match m.contexts[i]? with
    | none => none
    | some c =>
      if m.rxTimeoutMs ≤ now - c.lastRxTimeMs then some (m, some (i, .expiry .netBufDestroy))
      else some (m, some (i + 1, .expiry .loadState))
  | .netBufDestroy =>
    match m.pointer i with
    | none => none
    | some id => some (m.netBufDestroy id, some (i, .expiry .storeNull))
  | .storeNull => some (m.storeBuffer i none, some (i, .expiry .storeFree))
  | .storeFree => some (m.storeState i .free, some (i + 1, .expiry .loadState))

/-- The criteria of the second loop: the three header fields, and the query when the pool has
one. -/
def ContextMemory.isMatch (query : Option (ε → Option κ → Bool)) (f : RxFrame ε κ)
    (c : ContextMemory ε) : Bool :=
  f.fragment.seqId = c.seqId && f.fragment.fragTotal = c.fragTotal
    && f.fragment.totalSizeBytes = c.totalSizeBytes
    && match query with
      | none => true
      | some query => query c.ext f.params

/-- The second loop, at context `i`. Behind the last context a first fragment goes on to the third
loop, and any other one is refused. -/
def lookupStep (m : PoolMemory ε κ) (f : RxFrame ε κ) (i : ℕ) :
    LookupPc → Option (PoolMemory ε κ × RxNext)
  | .loadState =>
    match m.contexts[i]? with
    | none => some (m, if f.fragment.fragIdx ≠ 0 then none else some (0, .findFree))
    | some c =>
      if c.state = .receiving then some (m, some (i, .lookup .compare))
      else some (m, some (i + 1, .lookup .loadState))
  | .compare =>
    match m.contexts[i]? with
    | none => none
    | some c =>
      if c.isMatch m.additionalQueryCb f then some (m, some (i, .write .mark))
      else some (m, some (i + 1, .lookup .loadState))

/-- The test of the third loop, at context `i`. Without a FREE context the frame is refused. -/
def findFreeStep (m : PoolMemory ε κ) (i : ℕ) : Option (PoolMemory ε κ × RxNext) :=
  match m.contexts[i]? with
  | none => some (m, none)
  | some c =>
    if c.state = .free then some (m, some (i, .alloc .netBufAlloc))
    else some (m, some (i + 1, .findFree))

/-- The store of a header field, from the frame or the clock. -/
def HeaderField.store (f : RxFrame ε κ) (now : UInt32) (c : ContextMemory ε) :
    HeaderField → ContextMemory ε
  | .totalSizeBytes => { c with totalSizeBytes := f.fragment.totalSizeBytes }
  | .seqId => { c with seqId := f.fragment.seqId }
  | .fragIdx => { c with fragIdx := 0 }
  | .fragTotal => { c with fragTotal := f.fragment.fragTotal }
  | .lastRxTimeMs => { c with lastRxTimeMs := now }

/-- What is stored after a header field, in the order of the source. -/
def HeaderField.next : HeaderField → AllocPc
  | .totalSizeBytes => .storeHeader .seqId
  | .seqId => .storeHeader .fragIdx
  | .fragIdx => .storeHeader .fragTotal
  | .fragTotal => .storeHeader .lastRxTimeMs
  | .lastRxTimeMs => .storeReceiving

/-- The allocation of context `i`. A failed allocation leaves NULL in the pointer and the context
FREE. -/
def allocStep (m : PoolMemory ε κ) (f : RxFrame ε κ) (now : UInt32) (i : ℕ) :
    AllocPc → Option (PoolMemory ε κ × RxNext)
  | .netBufAlloc =>
    let a := m.netBufAlloc
    some (a.2, some (i, .alloc (.storeBuffer a.1)))
  | .storeBuffer buffer => some (m.storeBuffer i buffer, some (i, .alloc .checkNull))
  | .checkNull =>
    match m.pointer i with
    | none => some (m, none)
    | some _ => some (m, some (i, .alloc (.storeHeader .totalSizeBytes)))
  | .storeHeader field =>
    some (m.modify i fun c => field.store f now c, some (i, .alloc field.next))
  | .storeReceiving => some (m.storeState i .receiving, some (i, .write .mark))

/-- `transport_buffer_write` on context `i`. The checks read what the thread has stored before,
since only it writes to a RECEIVING context. -/
def writeStep (m : PoolMemory ε κ) (f : RxFrame ε κ) (now : UInt32) (i : ℕ) :
    WritePc → Option (PoolMemory ε κ × RxNext)
  | .mark => some (m.modify i fun c => { c with ext := f.mark c.ext }, some (i, .write .checkFragment))
  | .checkFragment =>
    match m.contexts[i]? with
    | none => none
    | some c =>
      if f.fragment.payload.length = 0 ∨ c.fragIdx ≠ f.fragment.fragIdx then some (m, none)
      else some (m, some (i, .write .checkOverrun))
  | .checkOverrun =>
    match m.contexts[i]?, m.pointer i with
    | some c, some id =>
      if c.totalSizeBytes.toNat < (m.netBufs id).data.length + f.fragment.payload.length then
        some (m, none)
      else some (m, some (i, .write .addMem))
    | _, _ => none
  | .addMem =>
    match m.pointer i with
    | none => none
    | some id =>
      some (m.netBufAddMem id f.fragment.payload, some (i, .write .storeLastRxTimeMs))
  | .storeLastRxTimeMs =>
    some (m.modify i fun c => { c with lastRxTimeMs := now }, some (i, .write .incrementFragIdx))
  | .incrementFragIdx =>
    some (m.modify i fun c => { c with fragIdx := c.fragIdx + 1 }, some (i, .write .checkComplete))
  | .checkComplete =>
    match m.contexts[i]? with
    | none => none
    | some c =>
      if c.fragIdx = c.fragTotal then some (m, some (i, .write .checkFinalSize))
      else some (m, none)
  | .checkFinalSize =>
    match m.contexts[i]?, m.pointer i with
    | some c, some id =>
      if (m.netBufs id).data.length ≠ c.totalSizeBytes.toNat then some (m, none)
      else some (m, some (i, .write .storeReferenced))
    | _, _ => none
  | .storeReferenced =>
    some (m.storeState i .referenced, some (i, .callback .checkRegistered))

/-- The callback on context `i`, up to the FIFO, which belongs to the state of the two threads. -/
def callbackStep (registered : Bool) (m : PoolMemory ε κ) (i : ℕ) :
    CallbackPc → Option (PoolMemory ε κ × RxNext)
  | .checkRegistered =>
    some (m, some (i, if registered then .callback .checkSize else .unref .checkNull))
  | .checkSize =>
    match m.contexts[i]? with
    | none => none
    | some c =>
      if c.totalSizeBytes.toNat < alfieProtoHeaderSizeBytes then some (m, some (i, .unref .checkNull))
      else some (m, some (i, .callback .checkNull))
  | .checkNull =>
    match m.pointer i with
    | none => some (m, some (i, .callback .enqueue))
    | some _ => some (m, some (i, .callback .netBufRef))
  | .netBufRef =>
    match m.pointer i with
    | none => none
    | some id => some (m.netBufRef id, some (i, .callback .enqueue))
  | .enqueue => some (m, some (i, .unref .checkNull))

/-- A step of the receiving thread, by the place it is in. -/
def rxStep (registered : Bool) (m : PoolMemory ε κ) (f : RxFrame ε κ) (now : UInt32) (i : ℕ) :
    RxPc → Option (PoolMemory ε κ × RxNext)
  | .expiry pc => expiryStep m now i pc
  | .lookup pc => lookupStep m f i pc
  | .findFree => findFreeStep m i
  | .alloc pc => allocStep m f now i pc
  | .write pc => writeStep m f now i pc
  | .callback pc => callbackStep registered m i pc
  | .unref pc => (unrefStep m i pc).map fun r => (r.1, r.2.map fun pc => (i, .unref pc))

/-! ### The router thread -/

/-- Where the router thread is with the buffer it has dequeued: it forwards it (which reads the
bytes of the `net_buf`), and then releases it. The forwarding takes time, in which frames arrive. -/
inductive RouterThreadPc where
  | forward
  | unref (pc : UnrefPc)
deriving DecidableEq, Repr

/-- A step of the router thread; `none` where it would follow NULL. -/
def routerStep (m : PoolMemory ε κ) (i : ℕ) :
    RouterThreadPc → Option (PoolMemory ε κ × Option RouterThreadPc)
  | .forward =>
    match m.pointer i with
    | none => none
    | some _ => some (m, some (.unref .checkNull))
  | .unref pc => (unrefStep m i pc).map fun r => (r.1, r.2.map .unref)

/-! ### The two threads -/

/-- The receiving thread while it handles a frame, and the context it is at. Between two frames
there is none. -/
structure ReceivingThread (ε κ : Type) where
  frame : RxFrame ε κ
  context : ℕ
  pc : RxPc

/-- The router thread while it has a buffer in hand, whose reference is its own. -/
structure RouterThread where
  context : ℕ
  pc : RouterThreadPc
deriving DecidableEq, Repr

/-- The memory, the two threads and the FIFO between them, which is all that they share. -/
structure Interleaving (ε κ : Type) where
  memory : PoolMemory ε κ
  receiver : Option (ReceivingThread ε κ)
  fifo : List ℕ
  router : Option RouterThread

/-- One of the two threads that call the functions of the pool. -/
inductive ThreadId where
  | receiver
  | router
deriving DecidableEq, Repr

/-- The other thread, of which there is one. -/
def ThreadId.other : ThreadId → ThreadId
  | .receiver => .router
  | .router => .receiver

/-- What happens next: any of the two threads may be the one to go on. -/
inductive InterleavingAction (ε κ : Type) where
  /-- a data frame arrives at the idle receiving thread -/
  | frame (f : RxFrame ε κ)
  /-- the router thread takes the first buffer of the FIFO -/
  | dequeue
  /-- a thread makes its next step, `now` being the uptime -/
  | step (t : ThreadId) (now : UInt32)

/-- The step of the two threads; `none` when the thread has nothing to do. The callback of the
router enqueues the context in the step that leaves it. -/
def Interleaving.step (registered : Bool) (s : Interleaving ε κ) :
    InterleavingAction ε κ → Option (Interleaving ε κ)
  | .frame f =>
    match s.receiver with
    | some _ => none
    | none =>
      -- `transport_buffer_pool_get` returns NULL when a query is asked for that the pool lacks
      if f.params.isSome ∧ s.memory.additionalQueryCb.isNone then some s
      else some { s with receiver := some ⟨f, 0, .expiry .loadState⟩ }
  | .dequeue =>
    match s.router, s.fifo with
    | none, i :: rest => some { s with fifo := rest, router := some ⟨i, .forward⟩ }
    | _, _ => none
  | .step .receiver now =>
    match s.receiver with
    | none => none
    | some r =>
      (rxStep registered s.memory r.frame now r.context r.pc).map fun next =>
        { s with
          memory := next.1
          receiver := next.2.map fun p => ⟨r.frame, p.1, p.2⟩
          fifo := if r.pc = .callback .enqueue then s.fifo ++ [r.context] else s.fifo }
  | .step .router _ =>
    match s.router with
    | none => none
    | some r =>
      (routerStep s.memory r.context r.pc).map fun next =>
        { s with
          memory := next.1
          router := next.2.map fun pc => ⟨r.context, pc⟩ }

/-- Before the first frame: the contexts zeroed, every `net_buf` on the free list. There are as many
of these as contexts. -/
def Interleaving.init (numBuffers : ℕ) (rxTimeoutMs : UInt32)
    (api : Option (ε → Option κ → Bool)) (ext : ε) : Interleaving ε κ where
  memory :=
    { contexts := List.replicate numBuffers ⟨none, .free, 0, 0, 0, 0, 0, ext⟩
      netBufs := fun _ => ⟨0, []⟩
      freeBufs := List.range numBuffers
      rxTimeoutMs := rxTimeoutMs
      additionalQueryCb := api }
  receiver := none
  fifo := []
  router := none

end DectCommunicator
