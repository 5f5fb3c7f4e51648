import DectCommunicator.Lib.Chunks
import DectCommunicator.Dect.LinkLayer
import DectCommunicator.Utils.TransportBuffer

/-!
# The DECT transport layer

`dect_transport_layer.c`: reliable transfer of up to 512 bytes over the link layer.

* `dectTransportLayerWrite` cuts the data into fragments of 14 bytes and sends each with up to four
  attempts, waiting for the ACK semaphore after every one. It is a stop-and-wait program whose
  `send` is `dect_link_layer_write` with the destination and the frame.
* `prvOnDataLayerRx` handles what the link layer hands up: data frames go to the reassembly step
  of the pool, with the source id as query parameter, and are acknowledged; any ACK frame gives the
  semaphore.

What a handler does besides changing the state is a list of `DectRxEffect`s.
-/

namespace DectCommunicator

open LittleEndian StopAndWait

/-! ### Constants -/

/-- `DECT_TRANSPORT_LAYER_NUM_RX_BUFFERS`: the contexts of the pool, and its `net_buf`s. -/
def dectTransportLayerNumRxBuffers : ℕ := 4

/-- `DECT_TRANSPORT_LAYER_MAX_RX_BUFFER_SIZE_BYTES`: the longest message, on the sending side as
well. -/
abbrev dectTransportLayerMaxRxBufferSizeBytes : ℕ := 512

/-- `DECT_TRANSPORT_LAYER_RX_TIMEOUT_MS`: how long a context waits for its next fragment. -/
def dectTransportLayerRxTimeoutMs : ℕ := 10000

/-- `DECT_TRANSPORT_LAYER_TX_ATTEMPTS`: a fragment is sent up to this often. -/
def dectTransportLayerTxAttempts : ℕ := 4

/-- `DECT_TRANSPORT_LAYER_ACK_TIMEOUT_MS`, by which all attempts at a fragment together take no
longer than the receiver keeps the message: 2500 ms each. -/
def dectTransportLayerAckTimeoutMs : ℕ :=
  dectTransportLayerRxTimeoutMs / dectTransportLayerTxAttempts

/-- `sizeof(dect_transport_layer_frame_header_t)`: the version and the frame type. -/
abbrev dectTransportLayerFrameHeaderSizeBytes : ℕ := 2

/-- `sizeof(dect_transport_layer_data_frame_t)`, the header without the payload. -/
abbrev dectTransportLayerDataFrameSizeBytes : ℕ := 8

/-- `DECT_TRANSPORT_LAYER_DATA_FRAME_MAX_PAYLOAD_SIZE_BYTES`: the 14 bytes that a link-layer payload
leaves behind the header of a data frame. -/
abbrev dectTransportLayerDataFrameMaxPayloadSizeBytes : ℕ :=
  dectLinkLayerMaxPayloadSizeBytes - dectTransportLayerDataFrameSizeBytes

/-! ### Frames -/

/-- `dect_transport_layer_frame_type_t`. There is no other kind of frame, no NACK for instance. -/
inductive DectTransportLayerFrameType where
  | data
  | dataAck
deriving DecidableEq, Repr

/-- The byte of a frame type, in the second byte of every frame. -/
def DectTransportLayerFrameType.toByte : DectTransportLayerFrameType → UInt8
  | .data => 0
  | .dataAck => 1

/-- The frame type of a byte, if it is one. A frame of any other type is dropped with a warning. -/
def DectTransportLayerFrameType.ofByte (b : UInt8) : Option DectTransportLayerFrameType :=
  if b = 0 then some .data else if b = 1 then some .dataAck else none

/-- The frame type in the header of a frame, which the dispatch reads before it knows the length of
the frame it has. -/
def frameTypeOf (buf : List UInt8) : Option DectTransportLayerFrameType :=
  DectTransportLayerFrameType.ofByte (UInt8.ofNat (field buf 1 1))

/-- `dect_transport_layer_data_frame_t` behind its common header, with the payload. Every frame
repeats the size and the number of fragments of the whole message. -/
structure DectTransportLayerDataFrame where
  seqId : UInt16
  fragTotal : UInt8
  fragIdx : UInt8
  totalSizeBytes : UInt16
  payload : List UInt8
deriving DecidableEq, Repr

/-- The bytes of a data frame, header version 0, as `prv_write_data_frame` passes them on. -/
def DectTransportLayerDataFrame.toBytes (f : DectTransportLayerDataFrame) : List UInt8 :=
  record [(1, 0), (1, DectTransportLayerFrameType.data.toByte.toNat), (2, f.seqId.toNat),
    (1, f.fragTotal.toNat), (1, f.fragIdx.toNat), (2, f.totalSizeBytes.toNat)] ++ f.payload

/-- A data frame read from received bytes: the payload is whatever follows the eight bytes of the
header, its length being that of the frame and not announced in it. -/
def DectTransportLayerDataFrame.ofBytes (buf : List UInt8) : DectTransportLayerDataFrame where
  seqId := UInt16.ofNat (field buf 2 2)
  fragTotal := UInt8.ofNat (field buf 4 1)
  fragIdx := UInt8.ofNat (field buf 5 1)
  totalSizeBytes := UInt16.ofNat (field buf 6 2)
  payload := buf.drop dectTransportLayerDataFrameSizeBytes

/-- The fields that reassembly reads. They are the ones both transports have in common. -/
def DectTransportLayerDataFrame.fragment (f : DectTransportLayerDataFrame) : Fragment :=
  ⟨f.seqId, f.totalSizeBytes, f.fragIdx, f.fragTotal, f.payload⟩

/-- `dect_transport_layer_data_frame_ack_t` behind its common header. It names the fragment,
although the sender of the data does not look. -/
structure DectTransportLayerDataFrameAck where
  seqId : UInt16
  fragIdx : UInt8
deriving DecidableEq, Repr

/-- The bytes of an ACK frame, header version 0; it takes 5 of the 22 bytes of a link-layer
payload. -/
def DectTransportLayerDataFrameAck.toBytes (a : DectTransportLayerDataFrameAck) : List UInt8 :=
  record [(1, 0), (1, DectTransportLayerFrameType.dataAck.toByte.toNat), (2, a.seqId.toNat),
    (1, a.fragIdx.toNat)]

/-- An ACK frame read from received bytes. The handler itself never reads one; the specifications
do. -/
def DectTransportLayerDataFrameAck.ofBytes (buf : List UInt8) : DectTransportLayerDataFrameAck where
  seqId := UInt16.ofNat (field buf 2 2)
  fragIdx := UInt8.ofNat (field buf 4 1)

/-! ### State -/

/-- The field `dect_transport_buffer_t` adds to `transport_buffer_t`: two devices may draw the same
sequence id. -/
structure DectTransportExt where
  srcId : UInt32
deriving DecidableEq, Repr

/-- `dect_transport_buffer_t`, the base context with its extension. -/
abbrev DectTransportBuffer := TransportBuffer DectTransportExt

/-- `prv_additional_query_matches`: the query callback that keeps the messages of two sources
apart. -/
def prvAdditionalQueryMatches (buffer : DectTransportBuffer) (params : Option UInt32) : Bool :=
  params = some buffer.ext.srcId

/-- The private instance of the transport layer; `ackSem` counts up to 1, so two ACKs that come
before it is taken count as one. -/
structure DectTransportLayer where
  initialized : Bool
  rxPool : TransportBufferPool DectTransportExt UInt32
  transportRxCallback : Option (TransportRxCallback DectTransportExt)
  ackSem : ℕ

/-- The instance after `dect_transport_layer_init`, with the registered callback. The contexts are
zeroed static memory, hence the source id 0 in each of them. -/
def DectTransportLayer.init (callback : Option (TransportRxCallback DectTransportExt)) :
    DectTransportLayer where
  initialized := true
  rxPool := transportBufferPoolInit dectTransportLayerNumRxBuffers
    dectTransportLayerMaxRxBufferSizeBytes (UInt32.ofNat dectTransportLayerRxTimeoutMs)
    (some prvAdditionalQueryMatches) ⟨0⟩
  transportRxCallback := callback
  ackSem := 0

/-! ### Receiving -/

/-- What the handlers do besides changing the state. -/
inductive DectRxEffect where
  /-- `transport_buffer_write` was called and returned this -/
  | wrote (ret : TransportBufferWriteRet)
  /-- `net_buf_add_mem` was performed; the buffer's length afterwards -/
  | netBufAddMem (len : ℕ)
  /-- `dect_link_layer_write` is called with these arguments -/
  | linkWrite (dstId : UInt32) (buf : List UInt8)
  /-- `transport_rx_callback` is invoked on the context -/
  | transportRx (buffer : DectTransportBuffer)
deriving DecidableEq, Repr

/-- `prv_write_data_ack`: the call of `dect_link_layer_write` it makes. Its result is only logged,
so an ACK that cannot be sent has no effect on the reassembly. -/
def prvWriteDataAck (dstId : UInt32) (frame : DectTransportLayerDataFrame) : DectRxEffect :=
  .linkWrite dstId (DectTransportLayerDataFrameAck.mk frame.seqId frame.fragIdx).toBytes

/-- The effects of the reassembly step on a frame from `srcId`, as those of the transport. -/
def dectRxEffect (srcId : UInt32) (frame : DectTransportLayerDataFrame) :
    RxEffect DectTransportExt → DectRxEffect
  | .wrote ret => .wrote ret
  | .netBufAddMem len => .netBufAddMem len
  | .ack => prvWriteDataAck srcId frame
  | .transportRx buffer => .transportRx buffer

/-- `prv_handle_data_frame`. The source id is stored in whatever context the query returned, before
the fragment is written to it. -/
def prvHandleDataFrame (now srcId : UInt32) (buf : List UInt8) (st : DectTransportLayer) :
    DectTransportLayer × List DectRxEffect :=
  if buf.length < dectTransportLayerDataFrameSizeBytes then (st, [])
  else
    let dataFrame := DectTransportLayerDataFrame.ofBytes buf
    -- The reassembly step, common to both transports.
    let r := handleDataFrame st.transportRxCallback (some srcId) (fun ext => { ext with srcId })
      now dataFrame.fragment st.rxPool
    ({ st with rxPool := r.1 }, r.2.map (dectRxEffect srcId dataFrame))

/-- `prv_handle_data_ack_frame`: the ACK is not looked at, neither its sequence id nor its fragment,
as the FIXME of the source admits. -/
def prvHandleDataAckFrame (st : DectTransportLayer) : DectTransportLayer :=
  { st with ackSem := min (st.ackSem + 1) 1 }

/-- `prv_on_data_layer_rx`, the callback that the link layer invokes from its own thread. -/
def prvOnDataLayerRx (now srcId : UInt32) (buf : List UInt8) (st : DectTransportLayer) :
    DectTransportLayer × List DectRxEffect :=
  if buf.length < dectTransportLayerFrameHeaderSizeBytes then (st, [])
  else
    -- An ACK is taken at two bytes already, as its handler reads nothing of it.
    match frameTypeOf buf with
    | some .data => prvHandleDataFrame now srcId buf st
    | some .dataAck => (prvHandleDataAckFrame st, [])
    | none => (st, [])

/-! ### Sending -/

/-- The arguments of a call of `dect_link_layer_write`: the destination and the bytes of the
frame. -/
abbrev LinkWrite := UInt32 × List UInt8

/-- `prv_write_data_frame`: the frame is sent up to four times, the semaphore reset before every
attempt and awaited after it. The result of the last wait is returned when none was answered. -/
def prvWriteDataFrame (dstId : UInt32) (frame : DectTransportLayerDataFrame) :
    Proc Errno LinkWrite Ret :=
  sendWithRetry dectTransportLayerAckTimeoutMs (dstId, frame.toBytes)
    dectTransportLayerTxAttempts .ok

/-- `frag_total`: the ceiling of the division, in eight bits. No message is long enough for the
eight bits to matter, 512 bytes making 37 fragments. -/
def fragTotalOf (lenBytes : ℕ) : UInt8 :=
  UInt8.ofNat (Chunks.count dectTransportLayerDataFrameMaxPayloadSizeBytes lenBytes)

/-- The `i`-th frame of a write: its payload is at most 14 bytes from `14 * i`. -/
def dataFrameOf (seqId : UInt16) (data : List UInt8) (i : ℕ) : DectTransportLayerDataFrame where
  seqId := seqId
  fragTotal := fragTotalOf data.length
  fragIdx := UInt8.ofNat i
  totalSizeBytes := UInt16.ofNat data.length
  payload := Chunks.chunk dectTransportLayerDataFrameMaxPayloadSizeBytes i data

/-- The calls of `dect_link_layer_write` for the frames of one message, in order, each listed once
although it may be sent four times. -/
def framesOf (dstId : UInt32) (seqId : UInt16) (data : List UInt8) : List LinkWrite :=
  (List.range (fragTotalOf data.length).toNat).map fun i =>
    (dstId, (dataFrameOf seqId data i).toBytes)

/-- `dect_transport_layer_write`, `seqId` being the result of `sys_rand16_get`. The loop over the
fragments is `transfer`, whose body is `prv_write_data_frame`. -/
def dectTransportLayerWrite (initialized : Bool) (seqId : UInt16) (dstId : UInt32)
    (data : List UInt8) : Proc Errno LinkWrite Ret :=
  if initialized = false then .ret (.err .enolink)
  else if data.length = 0 then .ret (.err .einval)
  else if dectTransportLayerMaxRxBufferSizeBytes < data.length then .ret (.err .enomem)
  else
    -- The first fragment that fails ends the call; the receiver is not told.
    transfer dectTransportLayerTxAttempts dectTransportLayerAckTimeoutMs
      (framesOf dstId seqId data)

end DectCommunicator
