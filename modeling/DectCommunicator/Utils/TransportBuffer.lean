import Mathlib.Data.List.Basic

/-!
# Transport buffers

The reassembly pool shared by the DECT and the BLE transport (`utils/transport_buffer.c`).

A pool is an array of contexts over a `net_buf` pool of as many buffers. The definitions follow the
source function by function: `transportBufferPoolGet`, `transportBufferWrite`,
`transportBufferRef`, `transportBufferUnref`.

* A context is extended by its owner (`dect_transport_buffer_t` adds the source id, the BLE service
  adds nothing), so the types carry the extension `ε` and the type `κ` of the query parameter.
* A `net_buf` is a value in the context that holds it, with the buffer's index in its pool as
  `id`; `freeBufs` is the free list of the `net_buf` pool, last returned first.
* The C pointer to a context is its index. The uptime counter is read once per call, as the
  argument `now`; it is an unsigned 32-bit number and differences wrap.

The reassembly step that both transports build on these functions is `handleDataFrame`.
-/

namespace DectCommunicator

/-- A `net_buf`: which buffer of the pool it is, its reference count and its bytes. The bytes are
those between `data` and `data + len`, as nobody reads beyond them. -/
structure NetBuf where
  id : ℕ
  ref : ℕ
  data : List UInt8
deriving DecidableEq, Repr

/-- `transport_buffer_write_ret_t`: the transports acknowledge a fragment only on some of these. -/
inductive TransportBufferWriteRet where
  | success
  | duplicate
  | complete
  | overrun
  | invalidFinalSize
  | outOfOrderFragment
  | invalidArgs
deriving DecidableEq, Repr

/-- `transport_buffer_state_t`. A context is REFERENCED when its message is complete and somebody
still holds it; the pool then leaves it alone, whatever its age. -/
inductive TransportBufferState where
  | free
  | receiving
  | referenced
deriving DecidableEq, Repr

/-- `transport_buffer_t`, with the fields its owner adds in `ext`. The FIFO link word is not
here: the pool never reads it. -/
structure TransportBuffer (ε : Type) where
  buffer : Option NetBuf
  state : TransportBufferState
  seqId : UInt16
  totalSizeBytes : UInt16
  fragTotal : UInt8
  fragIdx : UInt8
  lastRxTimeMs : UInt32
  ext : ε
deriving DecidableEq, Repr

/-- `transport_buffer_pool_t` together with the contexts and the `net_buf` pool it points to. -/
structure TransportBufferPool (ε κ : Type) where
  contexts : List (TransportBuffer ε)
  freeBufs : List ℕ
  bufferSizeBytes : ℕ
  rxTimeoutMs : UInt32
  additionalQueryCb : Option (TransportBuffer ε → Option κ → Bool)

variable {ε κ : Type}

/-! ### Buffers -/

/-- `buf->buffer->len`, and 0 without a buffer, where the source would not read it. -/
def TransportBuffer.len (b : TransportBuffer ε) : ℕ :=
  (b.buffer.map fun nb => nb.data.length).getD 0

/-- The bytes that have been received into the context's `net_buf`. -/
def TransportBuffer.data (b : TransportBuffer ε) : List UInt8 :=
  (b.buffer.map NetBuf.data).getD []

/-- `net_buf_add_mem` on the context's buffer: the bytes are appended, with no bounds check. In the
source an assertion of Zephyr, which a release build leaves out, is all that compares them with the
tailroom. -/
def TransportBuffer.addMem (b : TransportBuffer ε) (data : List UInt8) : TransportBuffer ε :=
  { b with buffer := b.buffer.map fun nb => { nb with data := nb.data ++ data } }

/-- A released context: no buffer, state FREE. The other fields are left as they were, so that the
next message finds the source id of the last one. -/
def TransportBuffer.released (b : TransportBuffer ε) : TransportBuffer ε :=
  { b with buffer := none, state := .free }

/-- A context just allocated for the first fragment of a message. Its clock starts with the query
and not with a fragment, and the owner's fields are not set yet. -/
def TransportBuffer.allocated (b : TransportBuffer ε) (id : ℕ) (seqId : UInt16)
    (totalSizeBytes : ℕ) (fragTotal : UInt8) (now : UInt32) : TransportBuffer ε :=
  { b with
    buffer := some ⟨id, 1, []⟩
    totalSizeBytes := UInt16.ofNat totalSizeBytes
    seqId := seqId
    fragIdx := 0
    fragTotal := fragTotal
    lastRxTimeMs := now
    state := .receiving }

/-- The index of the context's `net_buf`, given back to the free list when it is destroyed. It is a
list of at most one index, for contexts without a buffer. -/
def TransportBuffer.bufId (b : TransportBuffer ε) : List ℕ := (b.buffer.map NetBuf.id).toList

/-- The pool after the context at index `i` was written through the pointer that a query
returned. -/
def TransportBufferPool.store (p : TransportBufferPool ε κ) (i : ℕ) (b : TransportBuffer ε) :
    TransportBufferPool ε κ :=
  { p with contexts := p.contexts.set i b }

/-! ### `transport_buffer_pool_init` -/

/-- A pool after `transport_buffer_pool_init` over zeroed contexts, every `net_buf` free. `api` is
the query callback, which the BLE service does not have. -/
def transportBufferPoolInit (numBuffers bufferSizeBytes : ℕ) (rxTimeoutMs : UInt32)
    (api : Option (TransportBuffer ε → Option κ → Bool)) (ext : ε) : TransportBufferPool ε κ where
  contexts := List.replicate numBuffers ⟨none, .free, 0, 0, 0, 0, 0, ext⟩
  freeBufs := List.range numBuffers
  bufferSizeBytes := bufferSizeBytes
  rxTimeoutMs := rxTimeoutMs
  additionalQueryCb := api

/-! ### `transport_buffer_pool_get` -/

/-- The timeout test of the first loop: a RECEIVING context whose last accepted fragment is at least
the timeout ago, on the wrapping clock. The subtraction is of unsigned 32-bit numbers, so the test
goes on working when the uptime counter wraps. -/
def TransportBuffer.timedOut (now rxTimeoutMs : UInt32) (b : TransportBuffer ε) : Bool :=
  b.state = .receiving && rxTimeoutMs ≤ now - b.lastRxTimeMs

/-- The first loop: timed out contexts are released, their buffers destroyed in index order. It runs
on every query, also on one that matches a context, and nothing else expires a context. -/
def TransportBufferPool.expire (p : TransportBufferPool ε κ) (now : UInt32) :
    TransportBufferPool ε κ :=
  { p with
    contexts := p.contexts.map fun b => if b.timedOut now p.rxTimeoutMs then b.released else b
    freeBufs := p.contexts.foldl
      (fun free b => if b.timedOut now p.rxTimeoutMs then b.bufId ++ free else free) p.freeBufs }

/-- The test of the second loop: the message of the fragment, and what the query callback adds. The
sizes are compared as integers, the one of the context having been stored in 16 bits. -/
def TransportBufferPool.isMatch (p : TransportBufferPool ε κ) (seqId : UInt16)
    (totalSizeBytes : ℕ) (fragTotal : UInt8) (params : Option κ) (b : TransportBuffer ε) : Bool :=
  b.state = .receiving && seqId = b.seqId && fragTotal = b.fragTotal
    && totalSizeBytes = b.totalSizeBytes.toNat
    && match p.additionalQueryCb with
      | none => true
      | some query => query b params

/-- `transport_buffer_pool_get`: the index of the context, or `none` for NULL. Only a fragment with
index 0 opens a context; any other one for which there is none is dropped by the caller. -/
def transportBufferPoolGet (p : TransportBufferPool ε κ) (now : UInt32) (seqId : UInt16)
    (totalSizeBytes : ℕ) (fragIdx fragTotal : UInt8) (params : Option κ) :
    Option ℕ × TransportBufferPool ε κ :=
  -- Parameters without a callback to give them to are refused, before anything expires.
  if params.isSome ∧ p.additionalQueryCb.isNone then (none, p)
  else
    let p := p.expire now
    match p.contexts.findIdx? (p.isMatch seqId totalSizeBytes fragTotal params) with
    | some i => (some i, p)
    | none =>
      if fragIdx ≠ 0 then (none, p)
      else
        -- The context is searched from the beginning again, behind the expiry above.
        match p.contexts.findIdx? fun b => b.state = .free with
        | none => (none, p)
        | some i =>
          match p.freeBufs with
          -- `net_buf_alloc` found no buffer
          | [] => (none, p)
          | id :: rest =>
            (some i,
              { p with
                contexts := p.contexts.modify i fun b =>
                  b.allocated id seqId totalSizeBytes fragTotal now
                freeBufs := rest })

/-! ### `transport_buffer_write` -/

/-- `transport_buffer_write`: the result and the context afterwards. The bound is the announced
total and not the size of the buffer, which is the caller's matter. -/
def transportBufferWrite (now : UInt32) (buf : TransportBuffer ε) (fragIdx : UInt8)
    (data : List UInt8) : TransportBufferWriteRet × TransportBuffer ε :=
  if data.length = 0 then (.invalidArgs, buf)
  else if buf.fragIdx < fragIdx then (.outOfOrderFragment, buf)
  else if fragIdx < buf.fragIdx then (.duplicate, buf)
  else if buf.totalSizeBytes.toNat < buf.len + data.length then (.overrun, buf)
  else
    let buf := { buf.addMem data with lastRxTimeMs := now, fragIdx := buf.fragIdx + 1 }
    -- The fragment has been added by now. A message that is too short has its last fragment
    -- counted, and is left RECEIVING.
    if buf.fragIdx = buf.fragTotal then
      if buf.len ≠ buf.totalSizeBytes.toNat then (.invalidFinalSize, buf)
      else (.complete, { buf with state := .referenced })
    else (.success, buf)

/-- The results of `transport_buffer_write` after which the fragment has been appended to the
buffer. -/
def TransportBufferWriteRet.appended : TransportBufferWriteRet → Bool
  | .success | .complete | .invalidFinalSize => true
  | _ => false

/-! ### `transport_buffer_ref`, `transport_buffer_unref` -/

/-- `transport_buffer_ref`: one more reference to the `net_buf`, and nothing for a context without
one. -/
def transportBufferRef (b : TransportBuffer ε) : TransportBuffer ε :=
  { b with buffer := b.buffer.map fun nb => { nb with ref := nb.ref + 1 } }

/-- `transport_buffer_unref` of the context at index `i`: the last reference frees the context and
returns the buffer to its pool. -/
def transportBufferUnref (p : TransportBufferPool ε κ) (i : ℕ) : TransportBufferPool ε κ :=
  match p.contexts[i]? with
  | none => p
  | some b =>
    match b.buffer with
    | none => p
    | some nb =>
      if nb.ref = 1 then { p.store i b.released with freeBufs := nb.id :: p.freeBufs }
      else p.store i { b with buffer := some { nb with ref := nb.ref - 1 } }

/-- A consumer releases a message it holds, which it can only do while the context is REFERENCED. -/
def releaseReferenced (p : TransportBufferPool ε κ) (i : ℕ) :
    TransportBufferPool ε κ :=
  match p.contexts[i]? with
  | some b => if b.state = .referenced then transportBufferUnref p i else p
  | none => p

/-! ### The reassembly step of the transports -/

/-- The fields of a data frame that reassembly reads. Those of the two transports differ in their
layout only. -/
structure Fragment where
  seqId : UInt16
  totalSizeBytes : UInt16
  fragIdx : UInt8
  fragTotal : UInt8
  payload : List UInt8
deriving DecidableEq, Repr

/-- What a reassembly step does besides changing the pool, in the order in which it does it. -/
inductive RxEffect (ε : Type) where
  /-- `transport_buffer_write` was called and returned this -/
  | wrote (ret : TransportBufferWriteRet)
  /-- `net_buf_add_mem` was performed; the buffer's length afterwards -/
  | netBufAddMem (len : ℕ)
  /-- the fragment is acknowledged -/
  | ack
  /-- `transport_rx_callback` is invoked on the context -/
  | transportRx (buffer : TransportBuffer ε)
deriving DecidableEq, Repr

/-- A registered `transport_rx_callback`, as far as the transport sees it: how many references the
consumer takes on the buffer it is handed. -/
abbrev TransportRxCallback (ε : Type) := TransportBuffer ε → ℕ

/-- `prv_handle_complete_incoming_data_transaction` of both transports: the callback, if there is
one, then the transport drops its own reference. So a message that nobody takes a reference to is
gone when the function returns. -/
def handleCompleteTransaction (callback : Option (TransportRxCallback ε))
    (p : TransportBufferPool ε κ) (i : ℕ) : TransportBufferPool ε κ × List (RxEffect ε) :=
  match callback, p.contexts[i]? with
  | some cb, some b =>
    (transportBufferUnref (p.store i (Nat.repeat transportBufferRef (cb b) b)) i, [.transportRx b])
  | _, _ => (transportBufferUnref p i, [])

/-- The context after its owner updated its own fields, which for DECT is the source id. -/
def TransportBuffer.mark (b : TransportBuffer ε) (mark : ε → ε) : TransportBuffer ε :=
  { b with ext := mark b.ext }

/-- The body shared by `prv_handle_data_frame` (DECT) and `prv_handle_incoming_data_frame` (BLE)
after the context at index `i` was obtained: `mark` is what the transport stores in it, then the
fragment is written and the result decides on the acknowledgement and the callback. -/
def writeFragment (callback : Option (TransportRxCallback ε)) (mark : ε → ε) (now : UInt32)
    (f : Fragment) (p : TransportBufferPool ε κ) (i : ℕ) :
    TransportBufferPool ε κ × List (RxEffect ε) :=
  match p.contexts[i]? with
  | none => (p, [])
  | some b =>
    let w := transportBufferWrite now (b.mark mark) f.fragIdx f.payload
    let p := p.store i w.2
    let written := .wrote w.1 :: if w.1.appended then [.netBufAddMem w.2.len] else []
    match w.1 with
    -- A duplicate is acknowledged as well: the ACK of the first copy may have been lost.
    | .success | .duplicate => (p, written ++ [.ack])
    | .complete =>
      let done := handleCompleteTransaction callback p i
      (done.1, written ++ [.ack] ++ done.2)
    | _ => (p, written)

/-- The two transports' handling of a data frame whose length has been checked: get a context, and
write the fragment to it. `params` is the query parameter. Without a context the frame is dropped,
and not acknowledged. -/
def handleDataFrame (callback : Option (TransportRxCallback ε)) (params : Option κ)
    (mark : ε → ε) (now : UInt32) (f : Fragment) (p : TransportBufferPool ε κ) :
    TransportBufferPool ε κ × List (RxEffect ε) :=
  match transportBufferPoolGet p now f.seqId f.totalSizeBytes.toNat f.fragIdx f.fragTotal params with
  | (none, p) => (p, [])
  | (some i, p) => writeFragment callback mark now f p i

end DectCommunicator
