import DectCommunicator.Lib.Chunks
import DectCommunicator.Lib.LittleEndian
import DectCommunicator.Utils.Errno
import DectCommunicator.Utils.TransportBuffer

/-!
# The Alfie BLE service

`alfie_ble_service.c` and `alfie_ble_service_protocol.h`: the transport to the connected client.
It has the shape of the DECT transport layer, over GATT instead of the link layer: a characteristic
write of the client is received (`prvOnDataWrite`), a notification is sent.

There is one connection, so a frame carries no source and the pool has no additional query. The
fragment size comes from `CONFIG_BT_L2CAP_TX_MTU`.
-/

namespace DectCommunicator

open LittleEndian StopAndWait

/-! ### Constants -/

/-- `CONFIG_BT_L2CAP_TX_MTU` of `prj.conf`. The host exchanges this MTU, so a client cannot get a
larger one. -/
abbrev configBtL2capTxMtu : ℕ := 251

/-- `ALFIE_BLE_SERVICE_NUM_RX_BUFFERS`: the contexts of `rx_pool`, one for each message that is
being received or is still referenced by the router. -/
def alfieBleServiceNumRxBuffers : ℕ := 4

/-- `ALFIE_BLE_SERVICE_MAX_RX_BUFFER_SIZE_BYTES`: the size of a context, and the bound that
`alfie_ble_service_write` puts on what it sends. -/
abbrev alfieBleServiceMaxRxBufferSizeBytes : ℕ := 512

/-- `ALFIE_BLE_SERVICE_RX_TIMEOUT_MS`, after which a message that gets no more fragments is given
up. -/
def alfieBleServiceRxTimeoutMs : ℕ := 10000

/-- `ALFIE_BLE_SERVICE_TX_ATTEMPTS`: how often a frame is notified before the write fails. -/
def alfieBleServiceTxAttempts : ℕ := 4

/-- `ALFIE_BLE_SERVICE_ACK_TIMEOUT_MS`. The receive timeout is divided by the attempts, so that a
frame is given up by the sender no later than its message by the receiver. -/
def alfieBleServiceAckTimeoutMs : ℕ := alfieBleServiceRxTimeoutMs / alfieBleServiceTxAttempts

/-- `sizeof(alfie_ble_service_proto_frame_header_t)`: the version and the frame type. -/
abbrev alfieBleServiceProtoFrameHeaderSizeBytes : ℕ := 2

/-- `sizeof(alfie_ble_service_proto_data_frame_t)`, the header without the payload. -/
abbrev alfieBleServiceProtoDataFrameSizeBytes : ℕ := 8

/-- `sizeof(alfie_ble_service_proto_data_ack_frame_t)`. -/
abbrev alfieBleServiceProtoDataAckFrameSizeBytes : ℕ := 5

/-- `ALFIE_BLE_SERVICE_PROTO_MAX_DATA_FRAME_PAYLOAD_SIZE_BYTES`. -/
abbrev alfieBleServiceProtoMaxDataFramePayloadSizeBytes : ℕ :=
  configBtL2capTxMtu - alfieBleServiceProtoDataFrameSizeBytes

/-! ### Frames -/

/-- `alfie_ble_service_proto_frame_type_t`, a packed enumeration of one byte. -/
inductive AlfieBleServiceProtoFrameType where
  | data
  | dataAck
deriving DecidableEq, Repr

/-- The byte of a frame type, an enumerator of C being its position. -/
def AlfieBleServiceProtoFrameType.toByte : AlfieBleServiceProtoFrameType → UInt8
  | .data => 0
  | .dataAck => 1

/-- The frame type of a byte, if it is one: the `default` of the `switch` rejects the write. -/
def AlfieBleServiceProtoFrameType.ofByte (b : UInt8) : Option AlfieBleServiceProtoFrameType :=
  if b = 0 then some .data else if b = 1 then some .dataAck else none

/-- The frame type in the header of a frame. The version in front of it is never looked at. -/
def bleFrameTypeOf (buf : List UInt8) : Option AlfieBleServiceProtoFrameType :=
  AlfieBleServiceProtoFrameType.ofByte (UInt8.ofNat (field buf 1 1))

/-- `alfie_ble_service_proto_data_frame_t` behind its common header, with the payload. -/
structure AlfieBleServiceProtoDataFrame where
  seqId : UInt16
  totalSizeBytes : UInt16
  fragIdx : UInt8
  fragTotal : UInt8
  payload : List UInt8
deriving DecidableEq, Repr

/-- The bytes of a data frame, as `alfie_ble_service_write` fills them in: header version 0, the
fields little-endian and without padding, then the payload. -/
def AlfieBleServiceProtoDataFrame.toBytes (f : AlfieBleServiceProtoDataFrame) : List UInt8 :=
  record [(1, 0), (1, AlfieBleServiceProtoFrameType.data.toByte.toNat), (2, f.seqId.toNat),
    (2, f.totalSizeBytes.toNat), (1, f.fragIdx.toNat), (1, f.fragTotal.toNat)] ++ f.payload

/-- A data frame read from received bytes by a cast of the pointer, the payload being all that
follows. -/
def AlfieBleServiceProtoDataFrame.ofBytes (buf : List UInt8) : AlfieBleServiceProtoDataFrame where
  seqId := UInt16.ofNat (field buf 2 2)
  totalSizeBytes := UInt16.ofNat (field buf 4 2)
  fragIdx := UInt8.ofNat (field buf 6 1)
  fragTotal := UInt8.ofNat (field buf 7 1)
  payload := buf.drop alfieBleServiceProtoDataFrameSizeBytes

/-- The fields that reassembly reads, in the form that both transports share. -/
def AlfieBleServiceProtoDataFrame.fragment (f : AlfieBleServiceProtoDataFrame) : Fragment :=
  ⟨f.seqId, f.totalSizeBytes, f.fragIdx, f.fragTotal, f.payload⟩

/-- `alfie_ble_service_proto_data_ack_frame_t` behind its common header: it names the fragment that
has been received, and nothing of the message. -/
structure AlfieBleServiceProtoDataAckFrame where
  seqId : UInt16
  fragIdx : UInt8
deriving DecidableEq, Repr

/-- The bytes of an ACK frame, as `prv_write_data_ack` lays them out, header version 0. -/
def AlfieBleServiceProtoDataAckFrame.toBytes (a : AlfieBleServiceProtoDataAckFrame) :
    List UInt8 :=
  record [(1, 0), (1, AlfieBleServiceProtoFrameType.dataAck.toByte.toNat), (2, a.seqId.toNat),
    (1, a.fragIdx.toNat)]

/-! ### State -/

/-- The private instance: `conn` tells whether a client is connected, the pointer itself being the
argument of `bt_gatt_notify` only, and `ackSem` counts up to 1. -/
structure AlfieBleService where
  initialized : Bool
  rxPool : TransportBufferPool Unit Unit
  transportRxCallback : Option (TransportRxCallback Unit)
  conn : Bool
  ackSem : ℕ

/-- The instance after `alfie_ble_service_init`, with the registered callback and a client. The
steps to it from zeroed memory are those of `alfieBleServiceInit`. -/
def AlfieBleService.init (callback : Option (TransportRxCallback Unit)) : AlfieBleService where
  initialized := true
  rxPool := transportBufferPoolInit alfieBleServiceNumRxBuffers alfieBleServiceMaxRxBufferSizeBytes
    (UInt32.ofNat alfieBleServiceRxTimeoutMs) none ()
  transportRxCallback := callback
  conn := true
  ackSem := 0

/-! ### Receiving -/

/-- What the handlers do besides changing the state, in the order in which they do it. -/
inductive BleRxEffect where
  /-- `transport_buffer_write` was called and returned this -/
  | wrote (ret : TransportBufferWriteRet)
  /-- `net_buf_add_mem` was performed; the buffer's length afterwards -/
  | netBufAddMem (len : ℕ)
  /-- `bt_gatt_notify` is called with these bytes -/
  | notify (buf : List UInt8)
  /-- `transport_rx_callback` is invoked on the context -/
  | transportRx (buffer : TransportBuffer Unit)
deriving DecidableEq, Repr

/-- `prv_write_data_ack`: the ACK is copied from the header of the received frame. -/
def prvBleWriteDataAck (frame : AlfieBleServiceProtoDataFrame) : BleRxEffect :=
  .notify (AlfieBleServiceProtoDataAckFrame.mk frame.seqId frame.fragIdx).toBytes

/-- The effects of the reassembly step on a frame, as those of the service. The two transports
repeat the code of the step, which differs in the way an ACK is sent and in nothing else. -/
def bleRxEffect (frame : AlfieBleServiceProtoDataFrame) : RxEffect Unit → BleRxEffect
  | .wrote ret => .wrote ret
  | .netBufAddMem len => .netBufAddMem len
  | .ack => prvBleWriteDataAck frame
  | .transportRx buffer => .transportRx buffer

/-- `prv_handle_incoming_data_frame`: a frame without a full header is dropped, any other one goes
through the reassembly of `Utils/TransportBuffer.lean`. There is no additional query, since the one
connection has the one source. -/
def prvHandleIncomingDataFrame (now : UInt32) (buf : List UInt8) (st : AlfieBleService) :
    AlfieBleService × List BleRxEffect :=
  if buf.length < alfieBleServiceProtoDataFrameSizeBytes then (st, [])
  else
    let frame := AlfieBleServiceProtoDataFrame.ofBytes buf
    let r := handleDataFrame st.transportRxCallback none id now frame.fragment st.rxPool
    ({ st with rxPool := r.1 }, r.2.map (bleRxEffect frame))

/-- `prv_handle_incoming_data_ack`: of the ACK only the length is looked at. Neither the `seq_id`
nor the index is compared with the frame that is being sent. -/
def prvHandleIncomingDataAck (buf : List UInt8) (st : AlfieBleService) : AlfieBleService :=
  if buf.length < alfieBleServiceProtoDataAckFrameSizeBytes then st
  else { st with ackSem := min (st.ackSem + 1) 1 }

/-- `prv_on_data_write`: the client wrote `buf` to the data characteristic. All of it runs on the
Bluetooth thread, so an ACK is notified before the next value is handled. -/
def prvOnDataWrite (now : UInt32) (buf : List UInt8) (st : AlfieBleService) :
    AlfieBleService × List BleRxEffect :=
  if buf.length < alfieBleServiceProtoFrameHeaderSizeBytes then (st, [])
  else
    match bleFrameTypeOf buf with
    | some .data => prvHandleIncomingDataFrame now buf st
    | some .dataAck => (prvHandleIncomingDataAck buf st, [])
    | none => (st, [])

/-! ### Sending -/

/-- `prv_write_data_frame`: a frame is notified up to four times, the semaphore reset before every
attempt and awaited after it. A failing `bt_gatt_notify` returns at once. -/
def prvBleWriteDataFrame (frame : AlfieBleServiceProtoDataFrame) : Proc Errno (List UInt8) Ret :=
  sendWithRetry alfieBleServiceAckTimeoutMs frame.toBytes alfieBleServiceTxAttempts .ok

/-- `frag_total`: the ceiling of the division, in eight bits. With at most 512 bytes it does not
wrap. -/
def bleFragTotalOf (lenBytes : ℕ) : UInt8 :=
  UInt8.ofNat (Chunks.count alfieBleServiceProtoMaxDataFramePayloadSizeBytes lenBytes)

/-- The `i`-th frame of a write. Every frame announces the total size; all but the last carry a full
payload. -/
def bleDataFrameOf (seqId : UInt16) (data : List UInt8) (i : ℕ) :
    AlfieBleServiceProtoDataFrame where
  seqId := seqId
  totalSizeBytes := UInt16.ofNat data.length
  fragIdx := UInt8.ofNat i
  fragTotal := bleFragTotalOf data.length
  payload := Chunks.chunk alfieBleServiceProtoMaxDataFramePayloadSizeBytes i data

/-- The notifications for the frames of one message, in the order in which the loop sends them. -/
def bleFramesOf (seqId : UInt16) (data : List UInt8) : List (List UInt8) :=
  (List.range (bleFragTotalOf data.length).toNat).map fun i => (bleDataFrameOf seqId data i).toBytes

/-- `alfie_ble_service_write`, `seqId` being the result of `sys_rand16_get`; the destination id is
not used. The loop over the fragments is `transfer`, whose body is `prv_write_data_frame`. The
checks are made in the order of the source, which decides the error when several fail. -/
def alfieBleServiceWrite (st : AlfieBleService) (seqId : UInt16) (data : List UInt8) :
    Proc Errno (List UInt8) Ret :=
  if data.length = 0 then .ret (.err .einval)
  else if alfieBleServiceMaxRxBufferSizeBytes < data.length then .ret (.err .enomem)
  else if st.initialized = false then .ret (.err .enetdown)
  else if st.conn = false then .ret (.err .enotconn)
  else transfer alfieBleServiceTxAttempts alfieBleServiceAckTimeoutMs (bleFramesOf seqId data)

end DectCommunicator
