import DectCommunicator.Dect.TransportLayer
import DectCommunicator.Dect.LinkLayerRx
import DectCommunicator.Utils.Assembly

/-!
# Frames of the transport layer

What the handlers of `Dect/TransportLayer.lean` do with well-formed frames, and what the frames of
one write look like.

* `dectKeyed` is the key under which the pool of the transport looks up contexts.
* A data frame and an ACK frame are read back from their bytes, and `prvOnDataLayerRx` dispatches
  them (`prvOnDataLayerRx_data`, `prvOnDataLayerRx_ack`).
* The frames of a message of 1 to 512 bytes are the chunks of 14 bytes, each with a payload of 1 to
  14 bytes, so that no layer rejects one (`dataFrameOf_payload_length`,
  `length_dataFrameOf_toBytes`).
* `dectMessage` is the message as reassembly sees it (`dataFrameOf_fragment`).
-/

namespace DectCommunicator

open LittleEndian StopAndWait

/-- The query of the transport looks up the contexts of one source. This is what the lookup lemmas
of the pool ask of an owner: the query is allowed, decides by the key, and the marking writes that
key. -/
theorem dectKeyed {query : Option (DectTransportBuffer → Option UInt32 → Bool)}
    (hquery : query = some prvAdditionalQueryMatches) (srcId : UInt32) :
    Keyed query (some srcId) (fun ext => { ext with srcId }) ⟨srcId⟩ where
  allowed := by
    rw [hquery]
    exact fun h => Bool.noConfusion h.2
  query b := by
    rw [hquery]
    constructor
    · -- the query matches on the source of the frame, which is in the extension of the context
      intro h
      have hsrc := h _ rfl
      rw [prvAdditionalQueryMatches, decide_eq_true_eq, Option.some.injEq] at hsrc
      rw [hsrc]
    · -- and a context of this source matches every query about it
      rintro hext q hq
      obtain rfl := Option.some.inj hq
      rw [prvAdditionalQueryMatches, hext]
      exact decide_eq_true rfl
  mark _ := rfl

/-! ### Codecs -/

/-- Eight bytes of header and the payload. -/
theorem DectTransportLayerDataFrame.length_toBytes (f : DectTransportLayerDataFrame) :
    f.toBytes.length = dectTransportLayerDataFrameSizeBytes + f.payload.length := by
  rw [DectTransportLayerDataFrame.toBytes, List.length_append, length_record]
  rfl

/-- An ACK frame has five bytes, whatever it acknowledges. -/
theorem DectTransportLayerDataFrameAck.length_toBytes (a : DectTransportLayerDataFrameAck) :
    a.toBytes.length = 5 :=
  length_record _

/-- A data frame is read back from its bytes. Nothing has to be assumed of it, the fields having the
width of the record already. -/
theorem DectTransportLayerDataFrame.ofBytes_toBytes (f : DectTransportLayerDataFrame) :
    DectTransportLayerDataFrame.ofBytes f.toBytes = f := by
  obtain ⟨seqId, fragTotal, fragIdx, totalSizeBytes, payload⟩ := f
  have hseq := field_record [(1, 0), (1, 0)] 2 seqId.toNat [(1, fragTotal.toNat),
    (1, fragIdx.toNat), (2, totalSizeBytes.toNat)] payload
  have hfragTotal := field_record [(1, 0), (1, 0), (2, seqId.toNat)] 1 fragTotal.toNat
    [(1, fragIdx.toNat), (2, totalSizeBytes.toNat)] payload
  have hfragIdx := field_record [(1, 0), (1, 0), (2, seqId.toNat), (1, fragTotal.toNat)] 1
    fragIdx.toNat [(2, totalSizeBytes.toNat)] payload
  have htotal := field_record [(1, 0), (1, 0), (2, seqId.toNat), (1, fragTotal.toNat),
    (1, fragIdx.toNat)] 2 totalSizeBytes.toNat [] payload
  -- each field lies where the record puts it
  simp only [DectTransportLayerDataFrame.ofBytes, DectTransportLayerDataFrame.mk.injEq]
  refine ⟨?_, ?_, ?_, ?_, ?_⟩
  · exact (congrArg UInt16.ofNat hseq).trans (by simp)
  · exact (congrArg UInt8.ofNat hfragTotal).trans (by simp)
  · exact (congrArg UInt8.ofNat hfragIdx).trans (by simp)
  · exact (congrArg UInt16.ofNat htotal).trans (by simp)
  · exact List.drop_left' (length_record _)

/-- Two data frames with the same bytes are the same frame. -/
theorem DectTransportLayerDataFrame.toBytes_inj {f f' : DectTransportLayerDataFrame}
    (h : f.toBytes = f'.toBytes) : f = f' := by
  have h := congrArg DectTransportLayerDataFrame.ofBytes h
  rwa [ofBytes_toBytes, ofBytes_toBytes] at h

/-- An ACK frame is read back from its bytes, so it names one fragment of one message. -/
theorem DectTransportLayerDataFrameAck.ofBytes_toBytes (a : DectTransportLayerDataFrameAck) :
    DectTransportLayerDataFrameAck.ofBytes a.toBytes = a := by
  obtain ⟨seqId, fragIdx⟩ := a
  have hseq := field_record [(1, 0), (1, 1)] 2 seqId.toNat [(1, fragIdx.toNat)] []
  have hidx := field_record [(1, 0), (1, 1), (2, seqId.toNat)] 1 fragIdx.toNat [] []
  rw [List.append_nil] at hseq hidx
  simp only [DectTransportLayerDataFrameAck.ofBytes, DectTransportLayerDataFrameAck.mk.injEq]
  exact ⟨(congrArg UInt16.ofNat hseq).trans (by simp), (congrArg UInt8.ofNat hidx).trans (by simp)⟩

/-- Two ACK frames with the same bytes acknowledge the same fragment of the same message. -/
theorem DectTransportLayerDataFrameAck.toBytes_inj {a a' : DectTransportLayerDataFrameAck}
    (h : a.toBytes = a'.toBytes) : a = a' := by
  have h := congrArg DectTransportLayerDataFrameAck.ofBytes h
  rwa [ofBytes_toBytes, ofBytes_toBytes] at h

/-- A data frame is dispatched as one. -/
theorem frameTypeOf_data (f : DectTransportLayerDataFrame) :
    frameTypeOf f.toBytes = some .data := by
  have htype := field_record [(1, 0)] 1 0 [(2, f.seqId.toNat), (1, f.fragTotal.toNat),
    (1, f.fragIdx.toNat), (2, f.totalSizeBytes.toNat)] f.payload
  rw [frameTypeOf]
  exact congrArg (fun n => DectTransportLayerFrameType.ofByte (UInt8.ofNat n)) htype

/-- An ACK frame is dispatched as one, so no ACK is ever taken for data. -/
theorem frameTypeOf_ack (a : DectTransportLayerDataFrameAck) :
    frameTypeOf a.toBytes = some .dataAck := by
  have htype := field_record [(1, 0)] 1 1 [(2, a.seqId.toNat), (1, a.fragIdx.toNat)] []
  rw [List.append_nil] at htype
  rw [frameTypeOf]
  exact congrArg (fun n => DectTransportLayerFrameType.ofByte (UInt8.ofNat n)) htype

/-! ### Dispatch -/

/-- What a device does with a data frame: the reassembly step on its fragment, with the source id as
the query's parameter, each effect turned into one of the transport. -/
theorem prvOnDataLayerRx_data (now srcId : UInt32) (f : DectTransportLayerDataFrame)
    (st : DectTransportLayer) :
    prvOnDataLayerRx now srcId f.toBytes st =
      ({ st with rxPool := (handleDataFrame st.transportRxCallback (some srcId)
          (fun ext => { ext with srcId }) now f.fragment st.rxPool).1 },
        (handleDataFrame st.transportRxCallback (some srcId) (fun ext => { ext with srcId }) now
          f.fragment st.rxPool).2.map (dectRxEffect srcId f)) := by
  have hlen : 8 ≤ f.toBytes.length := by
    rw [f.length_toBytes]
    exact Nat.le_add_right _ _
  have hheader : ¬ f.toBytes.length < dectTransportLayerFrameHeaderSizeBytes :=
    not_lt.mpr (le_trans (by decide) hlen)
  unfold prvOnDataLayerRx prvHandleDataFrame
  rw [if_neg hheader, frameTypeOf_data, f.ofBytes_toBytes]
  exact if_neg (not_lt.mpr hlen)

/-- What a device does with an ACK frame: it gives the semaphore, whichever fragment is
acknowledged. -/
theorem prvOnDataLayerRx_ack (now srcId : UInt32) (a : DectTransportLayerDataFrameAck)
    (st : DectTransportLayer) :
    prvOnDataLayerRx now srcId a.toBytes st = (prvHandleDataAckFrame st, []) := by
  unfold prvOnDataLayerRx
  rw [if_neg (by rw [a.length_toBytes]; decide), frameTypeOf_ack]

/-! ### The frames of one message -/

/-- Fifteen bytes, one more than a fragment holds: the message of the examples. -/
def fifteenBytes : List UInt8 := [1, 2, 3, 4, 5, 6, 7, 8, 9, 10, 11, 12, 13, 14, 15]

section Message

variable {data : List UInt8}

/-- The number of fragments of a message, before it is stored in eight bits. -/
abbrev fragCount (data : List UInt8) : ℕ :=
  Chunks.count dectTransportLayerDataFrameMaxPayloadSizeBytes data.length

/-- A message of at most 512 bytes has at most 37 fragments, so eight bits hold their number. -/
theorem count_le_of_length_le (h : data.length ≤ dectTransportLayerMaxRxBufferSizeBytes) :
    Chunks.count 14 data.length ≤ 37 :=
  Chunks.count_mono 14 h

/-- The eight bits of `frag_total` hold the number of fragments. -/
theorem fragTotalOf_toNat (h : data.length ≤ dectTransportLayerMaxRxBufferSizeBytes) :
    (fragTotalOf data.length).toNat = Chunks.count 14 data.length := by
  exact UInt8.toNat_ofNat_of_lt' (lt_of_le_of_lt (count_le_of_length_le h) (by decide))

/-- The sixteen bits of `total_size_bytes` hold the length of the message. -/
theorem totalSizeBytes_toNat (h : data.length ≤ dectTransportLayerMaxRxBufferSizeBytes) :
    (UInt16.ofNat data.length).toNat = data.length := by
  exact UInt16.toNat_ofNat_of_lt' (lt_of_le_of_lt h (by decide))

/-- The eight bits of `frag_idx` hold the index of every fragment, and one past the last. -/
theorem fragIdx_toNat (h : data.length ≤ dectTransportLayerMaxRxBufferSizeBytes) {i : ℕ}
    (hi : i ≤ Chunks.count 14 data.length) : (UInt8.ofNat i).toNat = i := by
  exact UInt8.toNat_ofNat_of_lt'
    (lt_of_le_of_lt (hi.trans (count_le_of_length_le h)) (by decide))

/-- Every fragment has a payload of 1 to 14 bytes. That none is empty matters to the receiver, which
refuses an empty fragment. -/
theorem dataFrameOf_payload_length (seqId : UInt16) {i : ℕ}
    (hi : i < Chunks.count 14 data.length) :
    0 < (dataFrameOf seqId data i).payload.length ∧
      (dataFrameOf seqId data i).payload.length ≤ dectTransportLayerDataFrameMaxPayloadSizeBytes :=
  ⟨Chunks.length_chunk_pos (by decide) hi, Chunks.length_chunk_le _ _ _⟩

/-- Every frame of a message fits into the payload of a link-layer frame, so the link layer never
answers `-ENOMEM`. -/
theorem length_dataFrameOf_toBytes (seqId : UInt16) (data : List UInt8) (i : ℕ) :
    (dataFrameOf seqId data i).toBytes.length ≤ dectLinkLayerMaxPayloadSizeBytes := by
  have hlen := Chunks.length_chunk_le 14 i data
  rw [DectTransportLayerDataFrame.length_toBytes]
  change 8 + (Chunks.chunk 14 i data).length ≤ 22
  omega

/-- A message of the transport, cut into fragments of 14 bytes. The bounds that reassembly asks for
follow from the two checks of `dect_transport_layer_write`. -/
def dectMessage (seqId : UInt16) (data : List UInt8) (hpos : 0 < data.length)
    (hle : data.length ≤ dectTransportLayerMaxRxBufferSizeBytes) : Message where
  seqId := seqId
  data := data
  size := dectTransportLayerDataFrameMaxPayloadSizeBytes
  data_pos := hpos
  size_pos := by decide
  length_lt := lt_of_le_of_lt hle (by decide)
  count_lt := lt_of_le_of_lt (count_le_of_length_le hle) (by decide)

/-- One call of the link layer for every fragment. -/
theorem length_framesOf (dstId : UInt32) (seqId : UInt16) (data : List UInt8) :
    (framesOf dstId seqId data).length = (fragTotalOf data.length).toNat := by
  rw [framesOf, List.length_map, List.length_range]

/-- The frames left after the first `i`: the `i`-th, and those left after it. -/
theorem drop_framesOf (dstId : UInt32) (seqId : UInt16) {i : ℕ}
    (hi : i < (fragTotalOf data.length).toNat) :
    (framesOf dstId seqId data).drop i =
      (dstId, (dataFrameOf seqId data i).toBytes) :: (framesOf dstId seqId data).drop (i + 1) := by
  have hlt : i < (framesOf dstId seqId data).length := by rwa [length_framesOf]
  rw [List.drop_eq_getElem_cons hlt]
  congr 1
  simp [framesOf]

end Message

end DectCommunicator
