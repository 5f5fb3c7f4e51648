import DectCommunicator.Ble.AlfieService
import DectCommunicator.Lib.Runs
import DectCommunicator.Utils.InOrder

/-!
# The Alfie BLE service under arbitrary traffic

What the handlers of `Ble/AlfieService.lean` do with well-formed frames, and the states the service
can be in, whatever the client writes to its characteristic.

* A data frame and an ACK frame are read back from their bytes, and `prvOnDataWrite` dispatches
  them (`prvOnDataWrite_data`, `prvOnDataWrite_ack`).
* `prvOnDataWrite_spec` says what the handler does with any bytes.
* `BleReceiverInv` holds after any writes of the client and any releases by the consumer
  (`bleReceiverInv_runs`). The pool has no query, so its keys are those of `bleKeyed`.
-/

namespace DectCommunicator

open LittleEndian Machine

/-- Without a query the pool looks up the contexts by their `seq_id` alone, as those of the one
connection. With this instance the lemmas on the reassembly step of the DECT transport hold here
too. -/
theorem bleKeyed {query : Option (TransportBuffer Unit → Option Unit → Bool)}
    (hquery : query = none) : Keyed query none id () where
  allowed := by
    rintro ⟨h, -⟩
    exact Bool.noConfusion h
  query b := by
    subst hquery
    constructor
    · exact fun _ => rfl
    · rintro - q hq
      cases hq
  mark _ := rfl

/-! ### Codecs -/

/-- A data frame is its header and its payload, and so fits a notification when the payload fits. -/
theorem AlfieBleServiceProtoDataFrame.length_toBytes (f : AlfieBleServiceProtoDataFrame) :
    f.toBytes.length = alfieBleServiceProtoDataFrameSizeBytes + f.payload.length := by
  rw [AlfieBleServiceProtoDataFrame.toBytes, List.length_append, length_record]
  rfl

/-- An ACK has a fixed length, so it passes the one check that `prv_handle_incoming_data_ack`
makes. -/
theorem AlfieBleServiceProtoDataAckFrame.length_toBytes (a : AlfieBleServiceProtoDataAckFrame) :
    a.toBytes.length = alfieBleServiceProtoDataAckFrameSizeBytes :=
  length_record _

/-- A data frame is read back from its bytes: each field at the offset at which the other side wrote
it, in the same byte order. -/
theorem AlfieBleServiceProtoDataFrame.ofBytes_toBytes (f : AlfieBleServiceProtoDataFrame) :
    AlfieBleServiceProtoDataFrame.ofBytes f.toBytes = f := by
  obtain ⟨seqId, totalSizeBytes, fragIdx, fragTotal, payload⟩ := f
  have hseq := field_record [(1, 0), (1, 0)] 2 seqId.toNat [(2, totalSizeBytes.toNat),
    (1, fragIdx.toNat), (1, fragTotal.toNat)] payload
  have htotal := field_record [(1, 0), (1, 0), (2, seqId.toNat)] 2 totalSizeBytes.toNat
    [(1, fragIdx.toNat), (1, fragTotal.toNat)] payload
  have hfragIdx := field_record [(1, 0), (1, 0), (2, seqId.toNat), (2, totalSizeBytes.toNat)] 1
    fragIdx.toNat [(1, fragTotal.toNat)] payload
  have hfragTotal := field_record [(1, 0), (1, 0), (2, seqId.toNat), (2, totalSizeBytes.toNat),
    (1, fragIdx.toNat)] 1 fragTotal.toNat [] payload
  -- each field fills its width, so nothing is cut off on the way through the bytes
  simp only [AlfieBleServiceProtoDataFrame.ofBytes, AlfieBleServiceProtoDataFrame.mk.injEq]
  refine ⟨?_, ?_, ?_, ?_, ?_⟩
  · exact (congrArg UInt16.ofNat hseq).trans (by simp)
  · exact (congrArg UInt16.ofNat htotal).trans (by simp)
  · exact (congrArg UInt8.ofNat hfragIdx).trans (by simp)
  · exact (congrArg UInt8.ofNat hfragTotal).trans (by simp)
  · -- the payload is what is behind the record
    exact List.drop_left' (length_record _)

/-- The bytes determine the frame, which is how a frame found in a channel is known to be one that
was sent. -/
theorem AlfieBleServiceProtoDataFrame.toBytes_inj {f f' : AlfieBleServiceProtoDataFrame}
    (h : f.toBytes = f'.toBytes) : f = f' := by
  have h := congrArg AlfieBleServiceProtoDataFrame.ofBytes h
  rwa [ofBytes_toBytes, ofBytes_toBytes] at h

/-- A data frame is recognised as one by the receiver. -/
theorem bleFrameTypeOf_data (f : AlfieBleServiceProtoDataFrame) :
    bleFrameTypeOf f.toBytes = some .data := by
  have htype := field_record [(1, 0)] 1 0 [(2, f.seqId.toNat), (2, f.totalSizeBytes.toNat),
    (1, f.fragIdx.toNat), (1, f.fragTotal.toNat)] f.payload
  rw [bleFrameTypeOf]
  exact congrArg (fun n => AlfieBleServiceProtoFrameType.ofByte (UInt8.ofNat n)) htype

/-- And so is an ACK, the two types having different bytes. -/
theorem bleFrameTypeOf_ack (a : AlfieBleServiceProtoDataAckFrame) :
    bleFrameTypeOf a.toBytes = some .dataAck := by
  have htype := field_record [(1, 0)] 1 1 [(2, a.seqId.toNat), (1, a.fragIdx.toNat)] []
  rw [List.append_nil] at htype
  rw [bleFrameTypeOf]
  exact congrArg (fun n => AlfieBleServiceProtoFrameType.ofByte (UInt8.ofNat n)) htype

/-! ### Dispatch -/

/-- What the service does with a data frame: the reassembly step on its fragment, and its
effects. -/
theorem prvOnDataWrite_data (now : UInt32) (f : AlfieBleServiceProtoDataFrame)
    (st : AlfieBleService) :
    prvOnDataWrite now f.toBytes st =
      ({ st with rxPool :=
          (handleDataFrame st.transportRxCallback none id now f.fragment st.rxPool).1 },
        (handleDataFrame st.transportRxCallback none id now f.fragment st.rxPool).2.map
          (bleRxEffect f)) := by
  have hlen : 8 ≤ f.toBytes.length := by
    rw [f.length_toBytes]
    exact Nat.le_add_right _ _
  have hheader : ¬ f.toBytes.length < alfieBleServiceProtoFrameHeaderSizeBytes :=
    not_lt.mpr (le_trans (by decide) hlen)
  unfold prvOnDataWrite prvHandleIncomingDataFrame
  rw [if_neg hheader, bleFrameTypeOf_data, f.ofBytes_toBytes]
  exact if_neg (not_lt.mpr hlen)

/-- What the service does with an ACK frame, whatever it acknowledges: the semaphore is given. -/
theorem prvOnDataWrite_ack (now : UInt32) (a : AlfieBleServiceProtoDataAckFrame)
    (st : AlfieBleService) :
    prvOnDataWrite now a.toBytes st = ({ st with ackSem := min (st.ackSem + 1) 1 }, []) := by
  unfold prvOnDataWrite prvHandleIncomingDataAck
  rw [if_neg (by rw [a.length_toBytes]; decide), bleFrameTypeOf_ack]
  dsimp only
  rw [if_neg (by rw [a.length_toBytes]; exact lt_irrefl _)]

/-- What the service does with the bytes that are written to the characteristic. It answers a data
frame only; a value that is too short or of no known type is logged and changes nothing. -/
inductive DataWrite (now : UInt32) (st : AlfieBleService) :
    AlfieBleService → List BleRxEffect → Prop
  | dropped : DataWrite now st st []
  | ack : DataWrite now st { st with ackSem := min (st.ackSem + 1) 1 } []
  | data (f : AlfieBleServiceProtoDataFrame) {q : TransportBufferPool Unit Unit}
      {effects : List (RxEffect Unit)}
      (hpool : DataFrameStep st.transportRxCallback none id now f.fragment st.rxPool q effects) :
      DataWrite now st { st with rxPool := q } (effects.map (bleRxEffect f))

/-- **Inversion of `prv_on_data_write`**, for any bytes: later proofs split on `DataWrite` and never
unfold the handler. -/
theorem prvOnDataWrite_spec (now : UInt32) (buf : List UInt8) (st : AlfieBleService) :
    DataWrite now st (prvOnDataWrite now buf st).1 (prvOnDataWrite now buf st).2 := by
  unfold prvOnDataWrite
  split
  -- shorter than the common header
  · exact .dropped
  split
  · unfold prvHandleIncomingDataFrame
    split
    · exact .dropped
    · exact .data _ (handleDataFrame_spec _ _ _ _ _ _)
  · -- of an ACK only the length counts
    unfold prvHandleIncomingDataAck
    split
    · exact .dropped
    · exact .ack
  · exact .dropped

/-! ### Observations -/

/-- The result of `transport_buffer_write`, where that is what the effect records. -/
def BleRxEffect.ret : BleRxEffect → Option TransportBufferWriteRet
  | .wrote ret => some ret
  | _ => none

/-- The length of the buffer after `net_buf_add_mem`, which must not exceed its size. -/
def BleRxEffect.addedLen : BleRxEffect → Option ℕ
  | .netBufAddMem len => some len
  | _ => none

/-- The bytes of the message handed up, as the callback finds them in the context. -/
def BleRxEffect.handedUp : BleRxEffect → Option (List UInt8)
  | .transportRx b => some b.data
  | _ => none

/-- The bytes that are notified, which are those of an ACK. -/
def BleRxEffect.notified : BleRxEffect → Option (List UInt8)
  | .notify buf => some buf
  | _ => none

/-- The reaction that consists of some effects, in the form in which the two transports and the
client are compared. -/
def bleReactionOf (effects : List BleRxEffect) : Reaction where
  rets := effects.filterMap BleRxEffect.ret
  lens := effects.filterMap BleRxEffect.addedLen
  handedUp := effects.filterMap BleRxEffect.handedUp

/-- The reaction to a frame is that of its pool: translating the effects loses none of the
observations. -/
theorem bleReactionOf_map (f : AlfieBleServiceProtoDataFrame) (effects : List (RxEffect Unit)) :
    bleReactionOf (effects.map (bleRxEffect f)) = reactionOf effects := by
  induction effects with
  | nil => rfl
  | cons e effects ih =>
    simp only [bleReactionOf, reactionOf, Reaction.mk.injEq, List.map_cons] at ih ⊢
    obtain ⟨hrets, hlens, hhandedUp⟩ := ih
    -- an ACK is the one effect that is none of the three observations
    cases e <;>
      simp [bleRxEffect, prvBleWriteDataAck, BleRxEffect.ret, BleRxEffect.addedLen,
        BleRxEffect.handedUp, RxEffect.ret, RxEffect.addedLen, RxEffect.handedUp,
        List.filterMap_cons, hrets, hlens, hhandedUp]

/-! ### Reachable states -/

/-- What happens to the receiving side of the service: the client writes `buf` at some uptime, or
the consumer releases the message in context `i`. -/
inductive BleInput where
  | dataWrite (now : UInt32) (buf : List UInt8)
  | release (i : ℕ)
deriving DecidableEq, Repr

/-- The service handles an input, and says what else it does. -/
def AlfieBleService.step (st : AlfieBleService) : BleInput → AlfieBleService × List BleRxEffect
  | .dataWrite now buf => prvOnDataWrite now buf st
  | .release i => ({ st with rxPool := releaseReferenced st.rxPool i }, [])

/-- What holds of the service in every state it can reach. The keys are unique although the client
chooses them, because a frame under a `seq_id` in use never starts another context. -/
structure BleReceiverInv (callback : Option (TransportRxCallback Unit)) (st : AlfieBleService) :
    Prop where
  pool : PoolInv st.rxPool
  query : st.rxPool.additionalQueryCb = none
  unique : KeyUnique st.rxPool
  timeout : st.rxPool.rxTimeoutMs = UInt32.ofNat alfieBleServiceRxTimeoutMs
  callback : st.transportRxCallback = callback

section Invariant

variable {callback : Option (TransportRxCallback Unit)} {st : AlfieBleService}

/-- After `alfie_ble_service_init` all contexts are `FREE`. -/
theorem BleReceiverInv.init (callback : Option (TransportRxCallback Unit)) :
    BleReceiverInv callback (.init callback) where
  pool := .init _ _ _ _ _
  query := rfl
  unique := .init _ _ _ _ _
  timeout := rfl
  callback := rfl

/-- The part of it that the lemmas on reassembly ask for. -/
theorem BleReceiverInv.keyedPool (h : BleReceiverInv callback st) :
    KeyedPool none id () (UInt32.ofNat alfieBleServiceRxTimeoutMs) st.rxPool :=
  ⟨h.pool, h.unique, bleKeyed h.query, h.timeout⟩

/-- A characteristic write keeps it, whatever its bytes: only a data frame gets to the pool, and
there the reassembly step keeps each part. -/
theorem BleReceiverInv.dataWrite (h : BleReceiverInv callback st) (now : UInt32)
    (buf : List UInt8) : BleReceiverInv callback (prvOnDataWrite now buf st).1 := by
  have hspec := prvOnDataWrite_spec now buf st
  generalize (prvOnDataWrite now buf st).1 = st' at hspec
  generalize (prvOnDataWrite now buf st).2 = effects at hspec
  cases hspec with
  | dropped => exact h
  | ack => exact { h with }
  | data f hpool =>
    have hq := h.keyedPool.step hpool
    exact ⟨hq.inv, hpool.config.1.trans h.query, hq.unique, hq.timeout, h.callback⟩

/-- The consumer of a message drops a reference, at most to `FREE`; the keys of the contexts in use
become fewer. -/
theorem BleReceiverInv.release (h : BleReceiverInv callback st) (i : ℕ) :
    BleReceiverInv callback { st with rxPool := releaseReferenced st.rxPool i } where
  pool := h.pool.release i
  query := (releaseReferenced_additionalQueryCb _ i).trans h.query
  unique := h.unique.release i
  timeout := (releaseReferenced_rxTimeoutMs _ i).trans h.timeout
  callback := h.callback

/-- Every state the service can reach satisfies it, by induction on the history of writes and
releases. -/
theorem bleReceiverInv_runs (callback : Option (TransportRxCallback Unit))
    (history : List BleInput) :
    BleReceiverInv callback (runs AlfieBleService.step (.init callback) history) := by
  refine runs_invariant (P := BleReceiverInv callback) (C := fun _ => True) (fun st x h _ => ?_)
    (fun _ _ => trivial) (.init callback)
  cases x with
  | dataWrite now buf => exact h.dataWrite now buf
  | release i => exact h.release i

end Invariant

end DectCommunicator
