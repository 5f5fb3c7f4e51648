import DectCommunicator.BleClient.Protocol
import DectCommunicator.Lib.Chunks
import DectCommunicator.Lib.StopAndWait

/-!
# The BLE client

`utils/ble_client/client.py` and the send command of `app.py`: the Python side of the Alfie BLE
service. `MessagingClient.onNotification` receives, `MessagingClient.sendFragmented` sends.

* The reassembly contexts are a dictionary under the `seq_id` alone, so `rxContexts` is a partial
  function. A context is removed when its last fragment arrives or the connection is lost; there
  is no timeout.
* An ACK is the body of a task, created while the notification is handled. It is one of the
  `ClientEffect`s of the handler, in the order of their creation.
* `_send_fragmented` waits for the event that any ACK sets. The event is cleared before every
  attempt, which makes the loop a stop-and-wait `transfer`.
-/

namespace DectCommunicator

open StopAndWait

/-! ### State -/

/-- `_ReassemblyCtx`. The size is stored and never looked at. -/
structure ReassemblyCtx where
  seqId : ℕ
  fragTotal : ℕ
  totalSizeBytes : ℕ
  fragIdx : ℕ
  buffer : List UInt8
deriving DecidableEq, Repr

/-- `MessagingClient`: `loop` tells whether there is an event loop, `ackEvent` whether the event is
set. -/
structure MessagingClient where
  loop : Bool
  connected : Bool
  rxContexts : ℕ → Option ReassemblyCtx
  ackEvent : Bool
  maxFramePayload : ℕ

/-- `MessagingClient.__init__`: not connected, and with the largest fragments. -/
def MessagingClient.init : MessagingClient where
  loop := false
  connected := false
  rxContexts _ := none
  ackEvent := false
  maxFramePayload := maxDataFramePayload

/-- `connect`, `mtu` being the MTU of the connection, 0 when it is not known. An ATT connection has
an MTU of at least 23, and only for these does the definition follow the source: at 11 Python would
divide by zero in `_send_fragmented`, and below that the size is negative, where here it is 0. -/
def MessagingClient.connect (c : MessagingClient) (mtu : ℕ) : MessagingClient :=
  { c with
    loop := true
    connected := true
    maxFramePayload :=
      if 0 < mtu then min maxDataFramePayload (mtu - 3 - dataFrameHeaderSize)
      else c.maxFramePayload }

/-- `_on_disconnected`. What was received of unfinished messages is forgotten. -/
def MessagingClient.onDisconnected (c : MessagingClient) : MessagingClient :=
  { c with connected := false, rxContexts := fun _ => none }

/-! ### Receiving -/

/-- What the handler of notifications does besides changing the state. -/
inductive ClientEffect where
  /-- a task is created for `_send_ack` -/
  | sendAck (header : DataFrameHeader)
  /-- `_deliver_message` is called with these bytes -/
  | deliverMessage (data : List UInt8)
deriving DecidableEq, Repr

/-- The dictionary after an assignment to, or the deletion of, the entry of `seqId`. -/
def MessagingClient.setContext (c : MessagingClient) (seqId : ℕ) (ctx : Option ReassemblyCtx) :
    MessagingClient :=
  { c with rxContexts := Function.update c.rxContexts seqId ctx }

/-- The part of `_handle_rx_payload` that follows the lookup of the context. -/
def MessagingClient.handleFragment (c : MessagingClient) (header : DataFrameHeader)
    (payload : List UInt8) (ctx : ReassemblyCtx) : MessagingClient × List ClientEffect :=
  let acks := if c.loop then [ClientEffect.sendAck header] else []
  -- a duplicate is acknowledged again
  if header.fragIdx < ctx.fragIdx then (c, acks)
  -- a fragment from further on is neither kept nor acknowledged
  else if header.fragIdx ≠ ctx.fragIdx then (c, [])
  else
    let ctx := { ctx with buffer := ctx.buffer ++ payload, fragIdx := ctx.fragIdx + 1 }
    if ctx.fragIdx = ctx.fragTotal then
      (c.setContext header.seqId none, acks ++ [.deliverMessage ctx.buffer])
    else (c.setContext header.seqId (some ctx), acks)

/-- `_handle_rx_payload`. A context that is there is used for every fragment of its `seq_id`, also
for a fragment 0 of another message. -/
def MessagingClient.handleRxPayload (c : MessagingClient) (header : DataFrameHeader)
    (payload : List UInt8) : MessagingClient × List ClientEffect :=
  match c.rxContexts header.seqId with
  | some ctx => c.handleFragment header payload ctx
  | none =>
    -- no context, and not the first fragment
    if header.fragIdx ≠ 0 then (c, [])
    else
      let ctx := ⟨header.seqId, header.fragTotal, header.totalSizeBytes, 0, []⟩
      (c.setContext header.seqId (some ctx)).handleFragment header payload ctx

/-- `_on_notification`: an ACK sets the event without a look at what it acknowledges. -/
def MessagingClient.onNotification (c : MessagingClient) (data : List UInt8) :
    MessagingClient × List ClientEffect :=
  if data.length < frameBaseHeaderSize then (c, [])
  else
    let frameType := LittleEndian.field data 1 1
    if frameType = frameTypeDataAck then ({ c with ackEvent := true }, [])
    else if frameType = frameTypeData then
      if data.length < dataFrameHeaderSize then (c, [])
      else c.handleRxPayload (.unpack data) (data.drop dataFrameHeaderSize)
    else (c, [])

/-- `_send_ack`: the value written to the characteristic, if any. When the connection is gone by the
time the task runs, nothing is written. -/
def MessagingClient.sendAck (c : MessagingClient) (header : DataFrameHeader) :
    Option (List UInt8) :=
  if c.connected = false then none
  else (AckFrame.mk 0 frameTypeDataAck header.seqId header.fragIdx).pack

/-! ### Sending -/

/-- `ACK_TIMEOUT_S`, in milliseconds. -/
def ackTimeoutMs : ℕ := 2500

/-- `MAX_TX_ATTEMPTS`: every frame is written up to this often. -/
def maxTxAttempts : ℕ := 4

/-- What a call can raise: an exception of the client itself, or one that it lets through. -/
inductive ClientError where
  | structError
  | connectionError
  | timeoutError
  | bleakError
deriving DecidableEq, Repr

/-- `frag_total` of `_send_fragmented`. The quotient is far below the precision of a float, so that
`math.ceil` of it is the division of natural numbers that rounds up. For a fragment size of 0, which
an MTU of at least 23 excludes, this is 1, and the only fragment is empty. -/
def MessagingClient.fragTotal (c : MessagingClient) (data : List UInt8) : ℕ :=
  max 1 (Chunks.count c.maxFramePayload data.length)

/-- The `i`-th frame of `_send_fragmented`, when its header can be packed. -/
def MessagingClient.frame (c : MessagingClient) (seqId : UInt16) (data : List UInt8) (i : ℕ) :
    Option (List UInt8) :=
  (DataFrameHeader.mk 0 frameTypeData seqId.toNat data.length i (c.fragTotal data)).pack.map
    fun header => header ++ Chunks.chunk c.maxFramePayload i data

/-- `_send_fragmented`, `seqId` being the result of `random.randint`. When a header cannot be
packed the first one cannot, so the error is raised before anything is written. -/
def MessagingClient.sendFragmented (c : MessagingClient) (seqId : UInt16) (data : List UInt8) :
    Proc ClientError (List UInt8) (Status ClientError) :=
  match (List.range (c.fragTotal data)).mapM (c.frame seqId data) with
  | none => .ret (.err .structError)
  | some frames => transfer maxTxAttempts ackTimeoutMs frames

/-- `send_text`: the message is packed first, and then sent in fragments. -/
def MessagingClient.sendText (c : MessagingClient) (srcId dstId : ℕ) (text : String)
    (uuid : Vector UInt8 msgUuidSize) (seqId : UInt16) :
    Proc ClientError (List UInt8) (Status ClientError) :=
  if c.connected = false then .ret (.err .connectionError)
  else
    match (TextMessage.create srcId dstId text uuid).pack with
    | none => .ret (.err .structError)
    | some data => c.sendFragmented seqId data

/-- `MessagingApp._do_send`: `none` when the text is not accepted. -/
def doSend (c : MessagingClient) (srcId dstId : ℕ) (text : String)
    (uuid : Vector UInt8 msgUuidSize) (seqId : UInt16) :
    Option (Proc ClientError (List UInt8) (Status ClientError)) :=
  if c.connected = false then none
  else if maxTextPayloadSize < (encodeUtf8 text).length then none
  else some (c.sendText srcId dstId text uuid seqId)

end DectCommunicator
