import DectCommunicator.Lib.LittleEndian
import DectCommunicator.Lib.Runs
import DectCommunicator.Utils.Errno

/-!
# The DECT link layer

`dect_link_layer.c` with its packed header (`dect_link_layer_private.h`): a frame is a 15-byte
header followed by a payload array of 22 bytes, 37 bytes in all.

* `dectLinkLayerWrite` builds the frame that is queued for transmission.
* `prvOnPhyPdcEvent` is the filter on received frames: it copies an acceptable frame to `rx_frame`.
* `prvLinkLayerThread` is one iteration of the link-layer thread. The PHY runs concurrently with
  it, so an iteration is given the driver's return codes and the PHY events that reach the event
  handler during the transmit operation and during the receive window.

The rx callback gets a pointer to `rx_frame.payload` and a length; `readPayload` reads that many
bytes from there, running into `beyond`, the memory after the frame, past the 22nd.
-/

namespace DectCommunicator

open LittleEndian

/-! ### The frame -/

/-- `DECT_LINK_LAYER_HEADER_MAGIC`: a received frame that starts with anything else is dropped. -/
def dectLinkLayerHeaderMagic : UInt32 := 0xDEC7DA7A

/-- `DECT_LINK_LAYER_HEADER_SIZE_BYTES`, the size of the packed header: 4 + 1 + 4 + 4 + 2 bytes. -/
abbrev dectLinkLayerHeaderSizeBytes : ℕ := 15

/-- `DECT_LINK_LAYER_MTU_SIZE_BYTES`: what the modem sends in one slot, so every frame has this
length, whatever its payload. -/
abbrev dectLinkLayerMtuSizeBytes : ℕ := 37

/-- `DECT_LINK_LAYER_MAX_PAYLOAD_SIZE_BYTES`, the length of the payload array of a frame: 22
bytes. -/
abbrev dectLinkLayerMaxPayloadSizeBytes : ℕ :=
  dectLinkLayerMtuSizeBytes - dectLinkLayerHeaderSizeBytes

/-- `dect_link_layer_header_t`. The version is written as 1 and not looked at on reception. -/
structure DectLinkLayerHeader where
  magic : UInt32
  version : UInt8
  srcId : UInt32
  dstId : UInt32
  payloadSize : UInt16
deriving DecidableEq, Repr

/-- The packed bytes of a header, its fields in little endian as on both processors. -/
def DectLinkLayerHeader.toBytes (h : DectLinkLayerHeader) : List UInt8 :=
  record [(4, h.magic.toNat), (1, h.version.toNat), (4, h.srcId.toNat), (4, h.dstId.toNat),
    (2, h.payloadSize.toNat)]

/-- A header read from the bytes of a frame, as the cast of `event->data` reads it. -/
def DectLinkLayerHeader.ofBytes (bs : List UInt8) : DectLinkLayerHeader where
  magic := UInt32.ofNat (field bs 0 4)
  version := UInt8.ofNat (field bs 4 1)
  srcId := UInt32.ofNat (field bs 5 4)
  dstId := UInt32.ofNat (field bs 9 4)
  payloadSize := UInt16.ofNat (field bs 13 2)

/-! ### State -/

/-- The private instance of the link layer: the fields that the operations on the PHY and the
thread read and write. -/
structure DectLinkLayer where
  initialized : Bool
  opFailed : Bool
  opCancelled : Bool
  opReturnCode : Int
  validRxData : Bool
  rxFrame : List UInt8
  rxFrameSizeBytes : ℕ
  opSem : ℕ
  rxCallback : Bool
deriving DecidableEq, Repr

/-- The instance once initialisation and the registration of the rx callback have succeeded. The
three completions of initialisation have each been taken, so the semaphore is at 0. -/
def DectLinkLayer.init : DectLinkLayer where
  initialized := true
  opFailed := false
  opCancelled := false
  opReturnCode := 0
  validRxData := false
  rxFrame := List.replicate dectLinkLayerMtuSizeBytes 0
  rxFrameSizeBytes := 0
  opSem := 0
  rxCallback := true

/-! ### Sending -/

/-- The `tx_obj.frame` that carries `buf` from `srcId` to `dstId`: the payload array is zero after
the bytes of `buf`, as the rest of the initialiser says. -/
def dectLinkLayerFrame (srcId dstId : UInt32) (buf : List UInt8) : List UInt8 :=
  let header : DectLinkLayerHeader :=
    ⟨dectLinkLayerHeaderMagic, 1, srcId, dstId, UInt16.ofNat buf.length⟩
  header.toBytes ++ (buf ++ List.replicate (dectLinkLayerMaxPayloadSizeBytes - buf.length) 0)

/-- `dect_link_layer_write` on the device `deviceId`: the return code, and the frame that
`k_msgq_put` queues when there is no error. That the put waits for a free slot is the matter of the
transmit queue and not of this function. -/
def dectLinkLayerWrite (st : DectLinkLayer) (deviceId dstId : UInt32) (buf : List UInt8) :
    Ret × Option (List UInt8) :=
  if st.initialized = false then (.err .enotconn, none)
  else if dectLinkLayerMaxPayloadSizeBytes < buf.length then (.err .enomem, none)
  else (.ok, some (dectLinkLayerFrame deviceId dstId buf))

/-! ### PHY events -/

/-- `struct nrf_modem_dect_phy_event`: the events the handler distinguishes. The operation that an
event belongs to is not in it, since the handler does not look. -/
inductive PhyEvent where
  | init (err : Int)
  | configure (err : Int)
  | completed (err : Int)
  | pdc (data : List UInt8)
  | activate (err : Int)
  | other
deriving DecidableEq, Repr

/-- The body shared by the four handlers of completion events. An event without an error leaves
`op_failed` as it was, so a failure recorded earlier survives it. -/
def DectLinkLayer.onCompletion (st : DectLinkLayer) (err : Int) : DectLinkLayer :=
  if err ≠ 0 then { st with opFailed := true, opReturnCode := err, opSem := min (st.opSem + 1) 1 }
  else { st with opSem := min (st.opSem + 1) 1 }

/-- `prv_on_phy_init_event`, the completion of `nrf_modem_dect_phy_init`. -/
def prvOnPhyInitEvent (st : DectLinkLayer) (err : Int) : DectLinkLayer := st.onCompletion err

/-- `prv_on_phy_config_event`, the completion of `nrf_modem_dect_phy_configure`. -/
def prvOnPhyConfigEvent (st : DectLinkLayer) (err : Int) : DectLinkLayer := st.onCompletion err

/-- `prv_on_phy_op_completed`, the completion of a transmit or a receive operation alike. -/
def prvOnPhyOpCompleted (st : DectLinkLayer) (err : Int) : DectLinkLayer := st.onCompletion err

/-- `prv_on_phy_activated`, the completion of `nrf_modem_dect_phy_activate`. -/
def prvOnPhyActivated (st : DectLinkLayer) (err : Int) : DectLinkLayer := st.onCompletion err

/-- The checks of `prv_on_phy_pdc_event`: size, magic, destination. The length that the header
announces is not among them. -/
def acceptsPdc (deviceId : UInt32) (data : List UInt8) : Bool :=
  dectLinkLayerHeaderSizeBytes ≤ data.length && data.length ≤ dectLinkLayerMtuSizeBytes
    && (DectLinkLayerHeader.ofBytes data).magic = dectLinkLayerHeaderMagic
    && (DectLinkLayerHeader.ofBytes data).dstId = deviceId

/-- `prv_on_phy_pdc_event`: an acceptable frame overwrites the front of `rx_frame`, and what an
earlier and longer frame left behind it stays. -/
def prvOnPhyPdcEvent (deviceId : UInt32) (st : DectLinkLayer) (data : List UInt8) :
    DectLinkLayer :=
  if acceptsPdc deviceId data then
    { st with
      rxFrame := data ++ st.rxFrame.drop data.length
      rxFrameSizeBytes := data.length
      validRxData := true }
  else st

/-- `prv_dect_phy_event_handler`, called by the modem library one event after another. -/
def prvDectPhyEventHandler (deviceId : UInt32) (st : DectLinkLayer) : PhyEvent → DectLinkLayer
  | .init err => prvOnPhyInitEvent st err
  | .configure err => prvOnPhyConfigEvent st err
  | .completed err => prvOnPhyOpCompleted st err
  | .pdc data => prvOnPhyPdcEvent deviceId st data
  | .activate err => prvOnPhyActivated st err
  | .other => st

/-- A sequence of events, in the order in which the modem delivers them. -/
def handleEvents (deviceId : UInt32) (st : DectLinkLayer) (events : List PhyEvent) :
    DectLinkLayer :=
  events.foldl (prvDectPhyEventHandler deviceId) st

/-! ### PHY operations -/

/-- The end of every PHY operation: take the semaphore that the completion event gave, and read
the outcome from the flags. -/
def DectLinkLayer.awaitOp (st : DectLinkLayer) : Ret × DectLinkLayer :=
  let st := { st with opSem := st.opSem - 1 }
  if st.opCancelled then (.err .ecanceled, st)
  else if st.opFailed then (Ret.ofInt st.opReturnCode, st)
  else (.ok, st)

/-- `prv_dect_receive`. `driver` is the result of `nrf_modem_dect_phy_rx` and `events` are the
events between the reset of `valid_rx_data` and its test by the thread. -/
def prvDectReceive (deviceId : UInt32) (st : DectLinkLayer) (driver : Ret)
    (events : List PhyEvent) : Ret × DectLinkLayer :=
  let st :=
    { st with opReturnCode := 0, opCancelled := false, opFailed := false, validRxData := false }
  let st := handleEvents deviceId st events
  -- Events may come in before the driver has refused the operation, hence the order.
  match driver with
  | .err e => (.err e, st)
  | .ok => st.awaitOp

/-- `prv_link_layer_write_frame`. `driver` is the result of `nrf_modem_dect_phy_tx` and `events` are
the events until the operation has completed. Unlike the other operations it does not reset the
flags before it starts. -/
def prvLinkLayerWriteFrame (deviceId : UInt32) (st : DectLinkLayer) (driver : Ret)
    (events : List PhyEvent) : Ret × DectLinkLayer :=
  let st := handleEvents deviceId st events
  match driver with
  | .err e => (.err e, st)
  | .ok => st.awaitOp

/-! ### The thread -/

/-- An invocation of the rx callback: the source id and the bytes it is given. -/
structure RxCall where
  srcId : UInt32
  buf : List UInt8
deriving DecidableEq, Repr

/-- The `len` bytes from the start of `rx_frame.payload`; past the frame they come from `beyond`. -/
def DectLinkLayer.readPayload (st : DectLinkLayer) (beyond : ℕ → UInt8) (len : ℕ) : List UInt8 :=
  (List.range len).map fun i =>
    ((st.rxFrame.drop dectLinkLayerHeaderSizeBytes)[i]?).getD
      (beyond (i - dectLinkLayerMaxPayloadSizeBytes))

/-- What one iteration of the thread meets: whether a frame was queued, the driver's results, the
events of the two phases, and the memory after `rx_frame`. -/
structure Iteration where
  queued : Bool
  txDriver : Ret
  txEvents : List PhyEvent
  rxDriver : Ret
  rxEvents : List PhyEvent
  beyond : ℕ → UInt8

/-- The second half of an iteration: a receive window and the rx callback. The result of the receive
operation is ignored, so a frame that came before a failure is handed up all the same. -/
def receiveWindow (deviceId : UInt32) (st : DectLinkLayer) (driver : Ret)
    (events : List PhyEvent) (beyond : ℕ → UInt8) : DectLinkLayer × List RxCall :=
  let st := (prvDectReceive deviceId st driver events).2
  if st.validRxData = false then (st, [])
  -- No callback registered: the frame is dropped, and the next window clears its flag.
  else if st.rxCallback = false then (st, [])
  else
    -- Source and length both come from the header of the frame.
    let header := DectLinkLayerHeader.ofBytes st.rxFrame
    (st, [⟨header.srcId, st.readPayload beyond header.payloadSize.toNat⟩])

/-- One iteration of `prv_link_layer_thread`: at most one queued frame is sent, and then the
receiver is opened once, even when more frames wait. -/
def prvLinkLayerThread (deviceId : UInt32) (st : DectLinkLayer) (it : Iteration) :
    DectLinkLayer × List RxCall :=
  let st :=
    if it.queued then (prvLinkLayerWriteFrame deviceId st it.txDriver it.txEvents).2
    -- With nothing queued the modem may still report events before the window opens.
    else handleEvents deviceId st it.txEvents
  receiveWindow deviceId st it.rxDriver it.rxEvents it.beyond

end DectCommunicator
