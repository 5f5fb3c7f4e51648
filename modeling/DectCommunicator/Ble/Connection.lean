import DectCommunicator.Ble.AlfieServiceSpec
import DectCommunicator.BleClient.ClientSpec
import DectCommunicator.Lib.AckedTransfer
import DectCommunicator.Lib.Runs

/-!
# The connection of the client and the service

The Python client and the Alfie BLE service over one connection. The ATT channel keeps the order and
loses nothing: `up` holds the values written by the client, and `down` the notifications of the
service, oldest first, the data frames of one direction between the ACKs of the other.

A send of the client is suspended at its awaits, so notifications are handled between any two of its
effects, and it can be cancelled (a new send cancels the one before). The ACKs of the client are
tasks of its event loop, which run at any later time. The service receives on the Bluetooth thread
while the router's call of `alfie_ble_service_write` goes on.
-/

namespace DectCommunicator

open LittleEndian StopAndWait

/-! ### State -/

/-- A call of `_send_fragmented` or `alfie_ble_service_write`: the `seq_id` it draws, the data, and
how many messages the other side had delivered when it began. The number is a mark of the proofs, by
which a delivery during the call is told from an earlier one. -/
structure BleCall where
  seqId : UInt16
  data : List UInt8
  base : ℕ
deriving DecidableEq, Repr

/-- Both ends and the channel. `clientSent` and `serviceSent` are the data frames sent last. The
histories are the calls that have returned, newest first, and the messages delivered: `handedUp` to
`transport_rx_callback`, and `messages` to `_deliver_message`. -/
structure BleNet where
  client : MessagingClient
  service : AlfieBleService
  up : List (List UInt8)
  down : List (List UInt8)
  ackTasks : List DataFrameHeader
  clientWriter : Option (BleCall × Proc ClientError (List UInt8) (Status ClientError))
  clientSent : Option (List UInt8)
  clientReturned : List (BleCall × Status ClientError)
  serviceWriter : Option (BleCall × Proc Errno (List UInt8) Ret)
  serviceSent : Option (List UInt8)
  serviceReturned : List (BleCall × Ret)
  handedUp : List (List UInt8)
  messages : List (List UInt8)

/-- A client that has just connected, with an MTU, to a service with a registered callback. The MTU
is arbitrary here, since what is proved of every run holds for any; the source can be compared with
it from 23 on, the least MTU of ATT (see `MessagingClient.connect`). -/
def BleNet.init (mtu : ℕ) (callback : TransportRxCallback Unit) : BleNet where
  client := MessagingClient.init.connect mtu
  service := .init (some callback)
  up := []
  down := []
  ackTasks := []
  clientWriter := none
  clientSent := none
  clientReturned := []
  serviceWriter := none
  serviceSent := none
  serviceReturned := []
  handedUp := []
  messages := []

/-! ### Steps -/

/-- The steps of the two ends, which interleave in any order. The results of the host's calls are
part of the action, so a run covers every way in which they can fail. -/
inductive BleAction where
  /-- `_send_fragmented` is called, with the number it draws -/
  | clientSend (seqId : UInt16) (data : List UInt8)
  /-- the send is cancelled -/
  | clientCancel
  /-- the send does its next effect; `sent` is false when `write_gatt_char` raises, and a wait
  without an ACK times out -/
  | clientWriter (sent : Bool)
  /-- the oldest notification is handled -/
  | clientReceive
  /-- the task of the `k`-th pending ACK runs -/
  | ackTask (k : ℕ) (sent : Bool)
  /-- `alfie_ble_service_write` is called, with the number it draws -/
  | serviceSend (seqId : UInt16) (data : List UInt8)
  /-- the call does its next effect; `notified` is the result of `bt_gatt_notify` -/
  | serviceWriter (notified : Ret)
  /-- the oldest written value is handled; `notified` is the result of `bt_gatt_notify` for an ACK -/
  | serviceReceive (now : UInt32) (notified : Ret)
  /-- the consumer of the service releases a message -/
  | release (i : ℕ)
deriving DecidableEq, Repr

/-- The next effect of the client's send, which is what it does between two awaits. A wait is a step
too: it ends with the flag, or by its timeout. -/
def BleNet.clientWriterStep (n : BleNet) (call : BleCall) (sent : Bool) :
    Proc ClientError (List UInt8) (Status ClientError) → BleNet
  | .ret r => { n with clientWriter := none, clientReturned := (call, r) :: n.clientReturned }
  | .reset k =>
    { n with clientWriter := some (call, k), client := { n.client with ackEvent := false } }
  | .send x k =>
    if sent then
      { n with clientWriter := some (call, k .ok), clientSent := some x, up := n.up ++ [x] }
    else { n with clientWriter := some (call, k (.err .bleakError)) }
  | .take _ k =>
    if n.client.ackEvent then { n with clientWriter := some (call, k .ok) }
    else { n with clientWriter := some (call, k (.err .timeoutError)) }

/-- The next effect of the service's call. A notification that `bt_gatt_notify` refuses does not get
on the channel, and its error is what the call returns. -/
def BleNet.serviceWriterStep (n : BleNet) (call : BleCall) (notified : Ret) :
    Proc Errno (List UInt8) Ret → BleNet
  | .ret r => { n with serviceWriter := none, serviceReturned := (call, r) :: n.serviceReturned }
  | .reset k =>
    { n with serviceWriter := some (call, k), service := { n.service with ackSem := 0 } }
  | .send x k =>
    match notified with
    | .ok =>
      { n with serviceWriter := some (call, k .ok), serviceSent := some x, down := n.down ++ [x] }
    | .err e => { n with serviceWriter := some (call, k (.err e)) }
  | .take _ k =>
    if 0 < n.service.ackSem then
      { n with
        serviceWriter := some (call, k .ok)
        service := { n.service with ackSem := n.service.ackSem - 1 } }
    else { n with serviceWriter := some (call, k (.err .eagain)) }

/-- The client handles a notification: the ACK it owes becomes a task, the message it completes is
delivered. -/
def BleNet.onNotification (n : BleNet) (buf : List UInt8) : BleNet :=
  let r := n.client.onNotification buf
  { n with
    client := r.1
    ackTasks := n.ackTasks ++ r.2.filterMap ClientEffect.ackHeader
    messages := n.messages ++ r.2.filterMap ClientEffect.message }

/-- The service handles a written value. When its notification fails, the ACK is lost, and only a
retransmission brings another one. -/
def BleNet.onDataWrite (n : BleNet) (now : UInt32) (notified : Ret) (buf : List UInt8) : BleNet :=
  let r := prvOnDataWrite now buf n.service
  { n with
    service := r.1
    down := n.down ++ if notified = .ok then r.2.filterMap BleRxEffect.notified else []
    handedUp := n.handedUp ++ r.2.filterMap BleRxEffect.handedUp }

/-- A step; `none` when the action is not possible. Each side has one call at a time: the router
waits for its own, and a new send of the client cancels the one before. Each channel is a queue. -/
def BleNet.step (n : BleNet) : BleAction → Option BleNet
  | .clientSend seqId data =>
    match n.clientWriter with
    | some _ => none
    | none =>
      some { n with
        clientWriter := some (⟨seqId, data, n.handedUp.length⟩, n.client.sendFragmented seqId data) }
  | .clientCancel => some { n with clientWriter := none }
  | .clientWriter sent =>
    match n.clientWriter with
    | none => none
    | some (call, p) => some (n.clientWriterStep call sent p)
  | .clientReceive =>
    match n.down with
    | [] => none
    | buf :: down => some ({ n with down := down }.onNotification buf)
  | .ackTask k sent =>
    match n.ackTasks[k]? with
    | none => none
    | some header =>
      some { n with
        ackTasks := n.ackTasks.eraseIdx k
        up := n.up ++ if sent then (n.client.sendAck header).toList else [] }
  | .serviceSend seqId data =>
    match n.serviceWriter with
    | some _ => none
    | none =>
      some { n with
        serviceWriter := some (⟨seqId, data, n.messages.length⟩,
          alfieBleServiceWrite n.service seqId data) }
  | .serviceWriter notified =>
    match n.serviceWriter with
    | none => none
    | some (call, p) => some (n.serviceWriterStep call notified p)
  | .serviceReceive now notified =>
    match n.up with
    | [] => none
    | buf :: up => some ({ n with up := up }.onDataWrite now notified buf)
  | .release i =>
    some { n with service := { n.service with rxPool := releaseReferenced n.service.rxPool i } }

/-! ### The condition -/

/-- An ACK frame read from its bytes; the two senders do not read it, which is why the condition
below is one on the runs. -/
def AlfieBleServiceProtoDataAckFrame.ofBytes (buf : List UInt8) :
    AlfieBleServiceProtoDataAckFrame where
  seqId := UInt16.ofNat (field buf 2 2)
  fragIdx := UInt8.ofNat (field buf 4 1)

/-- A frame that acknowledges the data frame `f`. -/
def acksFrame (f : AlfieBleServiceProtoDataFrame) (buf : List UInt8) : Prop :=
  AlfieBleServiceProtoDataAckFrame.ofBytes buf = ⟨f.seqId, f.fragIdx⟩

/-- The values of a channel contain no data frame under `seqId`: no fragment of an earlier message
with this number is still to be received. -/
def NoData (seqId : UInt16) (channel : List (List UInt8)) : Prop :=
  ∀ buf ∈ channel, bleFrameTypeOf buf = some .data →
    (AlfieBleServiceProtoDataFrame.ofBytes buf).seqId ≠ seqId

/-- The values of a channel contain no ACK under `seqId`, so that the first one to come is of the
new call. -/
def NoAck (seqId : UInt16) (channel : List (List UInt8)) : Prop :=
  ∀ buf ∈ channel, bleFrameTypeOf buf = some .dataAck →
    (AlfieBleServiceProtoDataAckFrame.ofBytes buf).seqId ≠ seqId

/-- When a last fragment is in hand, the ACK `buf` is that fragment's. -/
def MatchesInHand (inHand : Option (List UInt8)) (buf : List UInt8) : Prop :=
  bleFrameTypeOf buf = some .dataAck → ∀ x ∈ inHand,
    (AlfieBleServiceProtoDataFrame.ofBytes x).fragIdx + 1 =
      (AlfieBleServiceProtoDataFrame.ofBytes x).fragTotal →
    acksFrame (.ofBytes x) buf

/-- The headers of the client's frames for `data` can be packed: `struct.pack` raises on a size of
more than 16 bits or a count of more than 8. -/
def MessagingClient.Packs (c : MessagingClient) (data : List UInt8) : Prop :=
  data.length < 2 ^ 16 ∧ c.fragTotal data < 2 ^ 8

/-- `alfie_ble_service_write` gets as far as drawing a `seq_id`, none of its checks having
returned. -/
def AlfieBleService.Admits (st : AlfieBleService) (data : List UInt8) : Prop :=
  0 < data.length ∧ data.length ≤ alfieBleServiceMaxRxBufferSizeBytes ∧ st.initialized = true ∧
    st.conn = true

/-- **The condition.** A call draws a `seq_id` of which nothing is left; an ACK handled while a last
fragment is in hand is the ACK of that fragment. -/
def BleAcksMatch (n : BleNet) : BleAction → Prop
  | .clientSend seqId data =>
    n.client.Packs data → NoData seqId n.up ∧ NoAck seqId n.down ∧
      ∀ b ∈ n.service.rxPool.contexts, b.state = .receiving → b.seqId ≠ seqId
  | .serviceSend seqId data =>
    n.service.Admits data → NoData seqId n.down ∧ NoAck seqId n.up ∧
      (∀ header ∈ n.ackTasks, header.seqId ≠ seqId.toNat) ∧
      n.client.rxContexts seqId.toNat = none
  | .clientReceive =>
    ∀ buf ∈ n.down.head?, ∀ call p, n.clientWriter = some (call, p) →
      MatchesInHand (p.inHand n.clientSent) buf
  | .serviceReceive _ _ =>
    ∀ buf ∈ n.up.head?, ∀ call p, n.serviceWriter = some (call, p) →
      MatchesInHand (p.inHand n.serviceSent) buf
  | _ => True

end DectCommunicator
