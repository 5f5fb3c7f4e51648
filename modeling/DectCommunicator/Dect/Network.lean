import Mathlib.Logic.Function.Basic
import DectCommunicator.Dect.TransportSpec

/-!
# Devices on the air

The step relation of any number of devices that send to each other. A device is its link layer, its
transport layer and, while a call of `dect_transport_layer_write` is going on, the rest of that
call; the air is the list of link-layer frames in flight.

The actions are the steps of the parties in any order:

* `startWrite` — a device calls `dect_transport_layer_write`; one call at a time.
* `writer` — the call does its next effect. A wait succeeds when the ACK semaphore is up, and
  otherwise this step is its timeout.
* `receive` — a device handles a frame of the air, at any clock reading. The frame stays in flight,
  so that frames may be delayed, reordered and duplicated.
* `lose` — a frame disappears.
* `release` — the consumer of a delivered message drops a reference.

`calls`, `returned`, `delivered`, `lastSent` and `Call.base` are history: no action reads them.

The `tx_queue` between `dect_link_layer_write` and the radio is abstracted: a frame is on the air as
soon as it is put, and a put never waits for a slot. A frame that is still queued on a device is
here a frame in flight that nobody has received yet, so what holds in every run of this relation
holds whatever the queue delays or drops. It says nothing about whether a put comes to an end; that
is the subject of `Dect/TxQueue.lean`, which has the queue and the link-layer thread of one device.
-/

namespace DectCommunicator

open StopAndWait

/-! ### State -/

/-- A call of `dect_transport_layer_write`, with the number of messages the destination had handed
up when it began. The last tells what a call has caused from what was there before. -/
structure Call where
  dstId : UInt32
  seqId : UInt16
  data : List UInt8
  base : ℕ
deriving DecidableEq, Repr

/-- A message passed to `transport_rx_callback`, as the callback finds it in the context. -/
structure Delivery where
  srcId : UInt32
  seqId : UInt16
  data : List UInt8
deriving DecidableEq, Repr

/-- A device. The history: the calls that drew a `seq_id`, newest first; the results of the calls
that returned; the messages handed up, in order; the last frame the writer handed to the link
layer. -/
structure Device where
  link : DectLinkLayer
  transport : DectTransportLayer
  writer : Option (Call × Proc Errno LinkWrite Ret)
  calls : List Call
  returned : List (Call × Ret)
  delivered : List Delivery
  lastSent : Option LinkWrite

/-- All devices, by their id, and the frames in flight. Every device hears every frame, as on one
radio channel. -/
structure Net where
  device : UInt32 → Device
  air : List (List UInt8)

/-- An initialised device that has received and sent nothing. -/
def Device.init (callback : Option (TransportRxCallback DectTransportExt)) : Device where
  link := .init
  transport := .init callback
  writer := none
  calls := []
  returned := []
  delivered := []
  lastSent := none

/-- The network at rest; `callback d` is what is registered on device `d`. -/
def Net.init (callback : UInt32 → Option (TransportRxCallback DectTransportExt)) : Net where
  device d := .init (callback d)
  air := []

/-- Every device has a callback, whose consumer takes one reference. It is the callback of the
examples; the results are about any. -/
def oneReference : UInt32 → Option (TransportRxCallback DectTransportExt) := fun _ => some fun _ => 1

/-- The network after device `d` changed and sent the frames `out`. All other devices are as they
were. -/
def Net.update (n : Net) (d : UInt32) (dev : Device) (out : List (List UInt8)) : Net where
  device := Function.update n.device d dev
  air := n.air ++ out

/-- The last call of a device to `dstId` with `seqId`: the sequence id may have been drawn
before. -/
def Device.lookup (dev : Device) (dstId : UInt32) (seqId : UInt16) : Option Call :=
  dev.calls.find? fun c => c.dstId = dstId && c.seqId = seqId

/-! ### Receiving -/

/-- One effect of the transport on device `d`; the second component collects what it sends. -/
def Device.effect (d : UInt32) (s : Device × List (List UInt8)) :
    DectRxEffect → Device × List (List UInt8)
  | .wrote _ => s
  | .netBufAddMem _ => s
  -- An ACK that the link layer refuses is lost; `prv_write_data_ack` only logs it.
  | .linkWrite dstId buf => (s.1, s.2 ++ (dectLinkLayerWrite s.1.link d dstId buf).2.toList)
  | .transportRx b =>
    ({ s.1 with delivered := s.1.delivered ++ [⟨b.ext.srcId, b.seqId, b.data⟩] }, s.2)

/-- `prv_on_data_layer_rx` on device `d` for one invocation of the link layer's callback: the
effects are carried out in the order in which the handler has them. -/
def Device.handUp (d now : UInt32) (s : Device × List (List UInt8)) (call : RxCall) :
    Device × List (List UInt8) :=
  let r := prvOnDataLayerRx now call.srcId call.buf s.1.transport
  r.2.foldl (Device.effect d) ({ s.1 with transport := r.1 }, s.2)

/-- A receive window of device `d` in which `frame` arrives: the device afterwards and the frames
it sent. -/
def Device.receive (d now : UInt32) (dev : Device) (frame : List UInt8) (beyond : ℕ → UInt8) :
    Device × List (List UInt8) :=
  let w := receiveWindow d dev.link .ok [.pdc frame, .completed 0] beyond
  w.2.foldl (Device.handUp d now) ({ dev with link := w.1 }, [])

/-! ### The writer -/

/-- `dect_transport_layer_write` gets as far as drawing a `seq_id`. A call that is refused before
leaves no trace in `calls`. -/
def Device.admits (dev : Device) (data : List UInt8) : Bool :=
  dev.transport.initialized && 0 < data.length &&
    data.length ≤ dectTransportLayerMaxRxBufferSizeBytes

/-- A device that has entered `dect_transport_layer_write`; nothing has been sent yet. -/
def Device.startWrite (dev : Device) (call : Call) : Device :=
  { dev with
    writer := some (call, dectTransportLayerWrite dev.transport.initialized call.seqId call.dstId
      call.data)
    calls := if dev.admits call.data then call :: dev.calls else dev.calls }

/-- The next effect of the call that is going on: the device afterwards and the frames it sent. -/
def Device.writerStep (d : UInt32) (dev : Device) (call : Call) :
    Proc Errno LinkWrite Ret → Device × List (List UInt8)
  | .ret r => ({ dev with writer := none, returned := (call, r) :: dev.returned }, [])
  | .reset k =>
    ({ dev with writer := some (call, k), transport := { dev.transport with ackSem := 0 } }, [])
  | .send x k =>
    let r := dectLinkLayerWrite dev.link d x.1 x.2
    ({ dev with writer := some (call, k r.1), lastSent := some x }, r.2.toList)
  -- The timeout may come at any moment at which the semaphore is down, so its length is not looked
  -- at.
  | .take _ k =>
    if 0 < dev.transport.ackSem then
      ({ dev with
          writer := some (call, k .ok)
          transport := { dev.transport with ackSem := dev.transport.ackSem - 1 } }, [])
    else ({ dev with writer := some (call, k (.err .eagain)) }, [])

/-! ### The step relation -/

/-- The steps of the parties. A party has no step of its own that is not here. -/
inductive Action where
  | startWrite (d dstId : UInt32) (seqId : UInt16) (data : List UInt8)
  | writer (d : UInt32)
  | receive (d : UInt32) (k : ℕ) (now : UInt32) (beyond : ℕ → UInt8)
  | lose (k : ℕ)
  | release (d : UInt32) (i : ℕ)

/-- The device after its consumer dropped a reference to the message in context `i`; the last one
frees the context. -/
def Device.release (dev : Device) (i : ℕ) : Device :=
  { dev with
    transport := { dev.transport with rxPool := transportBufferUnref dev.transport.rxPool i } }

/-- One step; `none` when the action is not possible. -/
def Net.step (n : Net) : Action → Option Net
  | .startWrite d dstId seqId data =>
    match (n.device d).writer with
    | some _ => none
    -- one call of a device at a time, as the router is its only caller
    | none =>
      some (n.update d
        ((n.device d).startWrite ⟨dstId, seqId, data, (n.device dstId).delivered.length⟩) [])
  | .writer d =>
    match (n.device d).writer with
    | none => none
    | some (call, p) =>
      let r := (n.device d).writerStep d call p
      some (n.update d r.1 r.2)
  | .receive d k now beyond =>
    match n.air[k]? with
    | none => none
    | some frame =>
      -- any device may receive the frame, and it stays in flight
      let r := (n.device d).receive d now frame beyond
      some (n.update d r.1 r.2)
  | .lose k => if k < n.air.length then some { n with air := n.air.eraseIdx k } else none
  | .release d i =>
    match (n.device d).transport.rxPool.contexts[i]? with
    | none => none
    | some b =>
      -- Only a message that has been handed up is held by a consumer.
      if b.state = .referenced then some (n.update d ((n.device d).release i) []) else none

end DectCommunicator
