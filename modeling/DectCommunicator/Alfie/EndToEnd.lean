import DectCommunicator.Alfie.System
import DectCommunicator.Ble.Downstream
import DectCommunicator.Ble.Upstream
import DectCommunicator.Dect.RoundTrip

/-!
# A text from one client to another

The whole way of a text when nothing is lost: `_do_send` and `_send_fragmented` of one client, the
Alfie BLE service and the router of its device, `dect_transport_layer_write` and the link layer, the
radio of the other device, its router, `alfie_ble_service_write`, and `_handle_rx_payload` and
`TextMessage.unpack` of the other client. Each function is applied to what the one before it has
passed on, in the states that the parts have reached by any history (`SendingSide`,
`ReceivingSide`). Two things are assumed of these states, since without them the text need not even
be acknowledged: the two pools that reassemble it have a FREE context and none under its key, and
are not kept waiting (`TextUndisturbed`), and the FIFOs of the routers are empty (`IdleRouter`).

`text_shown_eq` says what comes out at the end. Every hop acknowledges a text that the first client
accepts, of up to 484 bytes; but the service notifies in values of 251 bytes, whatever the MTU, so
the other client shows it only if the packed message fits into one notification of its connection.
The largest MTU leaves room for 212 bytes. A stale reassembly context under the `seq_id` swallows
the text as well, and the NULs at its end are lost.
-/

namespace DectCommunicator

open LittleEndian Machine StopAndWait

/-! ### The routers -/

/-- The arguments of a `write` of the router to a transport. -/
def RouterEffect.writeTo (t : AlfieTransport) : RouterEffect → Option (UInt32 × List UInt8)
  | .write t' dstId data _ => if t' = t then some (dstId, data) else none
  | _ => none

/-- A router with both transports that has nothing to do, and the buffer the next message is in. -/
structure IdleRouter where
  router : Router
  buffer : ℕ
  registered : router.transports = [dectTransport, bleTransport]
  idle : ∀ d, router.fifo d = []
  free : buffer ∉ router.held

/-- The writes to `t'` that the thread makes when `t` hands up a message. -/
def IdleRouter.writes (x : IdleRouter) (t t' : AlfieTransport) (m : List UInt8) :
    List (UInt32 × List UInt8) :=
  match x.router.accept t x.buffer m with
  | none => []
  | some r =>
    (((r.fifo t.type).flatMap (prvForward t.type.opposite r.transports)).flatMap
      (RouterStmt.exec r.endpoints r.memory)).filterMap (RouterEffect.writeTo t')

/-! ### The two sides -/

/-- The side of the sender: its client, which connects with `mtu`, its device, which has been
through anything, and the numbers and the uptimes that are drawn and read on the way. -/
structure SendingSide where
  client : MessagingClient
  mtu : ℕ
  mtu_ge : 23 ≤ mtu
  uuid : Vector UInt8 msgUuidSize
  seqId : UInt16
  serviceHistory : List BleInput
  serviceClock : ℕ → UInt32
  router : IdleRouter
  deviceId : UInt32
  radioHistory : List DeviceInput
  dectSeqId : UInt16

/-- The side of the receiver: its device, which has been through anything, and its client, which is
connected with `mtu`. -/
structure ReceivingSide where
  deviceId : UInt32
  radioHistory : List DeviceInput
  radioClock : ℕ → UInt32
  beyond : ℕ → ℕ → UInt8
  router : IdleRouter
  service : AlfieBleService
  initialized : service.initialized = true
  conn : service.conn = true
  seqId : UInt16
  serviceClock : ℕ → UInt32
  notifyError : Errno
  clientHistory : List ClientInput
  connected : (runs MessagingClient.step .init clientHistory).connected = true
  mtu : ℕ
  mtu_ge : 23 ≤ mtu
  mtu_le : mtu ≤ configBtL2capTxMtu

namespace SendingSide

variable (a : SendingSide) (srcId dstId : UInt32) (text : String)

/-- The Alfie BLE service of the device, after whatever it has received and done so far. -/
def service : AlfieBleService :=
  runs AlfieBleService.step (.init (some routerReferences)) a.serviceHistory

/-- The radio of the device, which the router's thread writes to and which knows its own id. -/
def radio : Device :=
  runs (Device.step a.deviceId) (Device.init (some routerReferences)) a.radioHistory

/-- The values that the client writes for a text; none, when `do_send` refuses it before the
first. -/
def sends : List (List UInt8) :=
  match doSend (a.client.connect a.mtu) srcId.toNat dstId.toNat text a.uuid a.seqId with
  | none => []
  | some p => p.sends

/-- What the service does with them, one reaction for each value. -/
def reactions : List Reaction := a.service.reactions (a.sends srcId dstId text) a.serviceClock

/-- The messages it hands up, which are what the router of the device sees of the values. -/
def handedUp : List (List UInt8) := (a.reactions srcId dstId text).flatMap Reaction.handedUp

/-- The link frames that the device puts on the air. -/
def onAir : List (List UInt8) :=
  ((a.handedUp srcId dstId text).flatMap (a.router.writes bleTransport dectTransport)).flatMap
    fun w => a.radio.airFrames a.deviceId w.1 a.dectSeqId w.2

end SendingSide

namespace ReceivingSide

variable (b : ReceivingSide) (frames : List (List UInt8))

/-- The radio of the device, with whatever frames it has had from others before these. -/
def radio : Device :=
  runs (Device.step b.deviceId) (Device.init (some routerReferences)) b.radioHistory

/-- The client of the receiving device, with whatever it has received before. -/
def client : MessagingClient := runs MessagingClient.step .init b.clientHistory

/-- The messages that the radio hands up of the frames that arrive, in the order in which they are
completed. -/
def handedUp : List (List UInt8) :=
  (outputs (Device.observe b.deviceId b.radioClock b.beyond) b.radio frames.zipIdx).flatMap
    fun o => o.handedUp.map Delivery.data

/-- The payloads that the client delivers of them: the router writes each message to the service,
which notifies its fragments. -/
def delivered : List (List UInt8) :=
  ((b.handedUp frames).flatMap (b.router.writes dectTransport bleTransport)).flatMap fun w =>
    (Upstream.write b.mtu b.serviceClock b.notifyError b.service b.client b.seqId w.2).2.delivered

/-- What `_deliver_message` makes of them: the text, or the error of a payload that is none. -/
def shown : List (Except UnpackError TextMessage) := (b.delivered frames).map TextMessage.unpack

end ReceivingSide

/-- Nothing disturbs the reassembly of the text in the service of the sender and in the radio of the
receiver: there is a FREE context and nothing else under the key of the message, and no gap between
two fragments reaches the timeout. -/
structure TextUndisturbed (a : SendingSide) (b : ReceivingSide) (srcId : UInt32) (text : String) :
    Prop where
  service (hlen : (encodeUtf8 text).length ≤ maxTextPayloadSize) :
    Vacant () (textMessage a.client a.mtu_ge srcId b.deviceId text a.uuid a.seqId hlen)
      (a.serviceClock 0) a.service.rxPool
  serviceGap (hlen : (encodeUtf8 text).length ≤ maxTextPayloadSize) (i : ℕ) :
    i + 1 < (textMessage a.client a.mtu_ge srcId b.deviceId text a.uuid a.seqId hlen).count →
      a.serviceClock (i + 1) - a.serviceClock i < UInt32.ofNat alfieBleServiceRxTimeoutMs
  radio (hpos : 0 < (textBytes srcId b.deviceId text a.uuid).length)
    (hle : (textBytes srcId b.deviceId text a.uuid).length ≤
      dectTransportLayerMaxRxBufferSizeBytes) :
    Vacant ⟨a.deviceId⟩ (dectMessage a.dectSeqId (textBytes srcId b.deviceId text a.uuid) hpos hle)
      (b.radioClock 0) b.radio.transport.rxPool
  radioGap (i : ℕ) : i + 1 < fragCount (textBytes srcId b.deviceId text a.uuid) →
    b.radioClock (i + 1) - b.radioClock i < UInt32.ofNat dectTransportLayerRxTimeoutMs

/-! ### The hops -/

/-- A message that is handed up is alone in its FIFO. -/
theorem IdleRouter.accept_eq (x : IdleRouter) (t : AlfieTransport) {m : List UInt8}
    (hlow : alfieProtoHeaderSizeBytes ≤ m.length) (hhigh : m.length < 2 ^ 16) :
    ∃ r, x.router.accept t x.buffer m = some r ∧ r.fifo t.type = [x.buffer] ∧
      r.transports = [dectTransport, bleTransport] ∧ (r.memory x.buffer).data = m := by
  have hsize : (UInt16.ofNat m.length).toNat = m.length := UInt16.toNat_ofNat_of_lt' hhigh
  -- the buffer is filled, and then put into the FIFO
  let filled : Router := { x.router with
    memory := Function.update x.router.memory x.buffer ⟨m, UInt16.ofNat m.length, hsize.symm⟩ }
  have hmemory : filled.memory x.buffer = ⟨m, UInt16.ofNat m.length, hsize.symm⟩ :=
    Function.update_self ..
  -- the message is no shorter than the header, so the router takes it
  have haccepted : (Arrival.mk t.type x.buffer (filled.memory x.buffer)).Accepted := by
    unfold Arrival.Accepted
    rw [hmemory]
    exact hlow.trans_eq hsize.symm
  -- the callback changes the FIFOs and nothing else
  have hframe : (prvHandleTransportRx t x.buffer filled).transports = x.router.transports ∧
      (prvHandleTransportRx t x.buffer filled).memory = filled.memory := by
    obtain ⟨up, down, heq⟩ := prvHandleTransportRx_frame t x.buffer filled
    rw [heq]
    exact ⟨rfl, rfl⟩
  refine ⟨{ prvHandleTransportRx t x.buffer filled with
    arrived := filled.arrived ++ [⟨t.type, x.buffer, filled.memory x.buffer⟩] }, ?_, ?_, ?_, ?_⟩
  · unfold Router.accept Router.step
    rw [dif_pos hhigh]
    dsimp only
    rw [if_neg x.free]
    exact if_neg x.free
  · calc (prvHandleTransportRx t x.buffer filled).fifo t.type
        = x.router.fifo t.type ++ [x.buffer] := by
          rw [prvHandleTransportRx_fifo, if_pos ⟨rfl, haccepted⟩]
          rfl
      _ = [x.buffer] := by rw [x.idle, List.nil_append]
  · exact hframe.1.trans x.registered
  · show ((prvHandleTransportRx t x.buffer filled).memory x.buffer).data = m
    rw [hframe.2, hmemory]

/-- **A router** writes a message once to the other transport, for the destination in its header. -/
theorem IdleRouter.writes_eq (x : IdleRouter) {t t' : AlfieTransport}
    (ht : t = dectTransport ∧ t' = bleTransport ∨ t = bleTransport ∧ t' = dectTransport)
    {m : List UInt8} (hlow : alfieProtoHeaderSizeBytes ≤ m.length) (hhigh : m.length < 2 ^ 16) :
    x.writes t t' m = [((AlfieProtoHeader.ofBytes m).dstId, m)] := by
  obtain ⟨r, haccept, hfifo, htransports, hdata⟩ := x.accept_eq t hlow hhigh
  have hforward : prvForward t.type.opposite r.transports x.buffer =
      [.write t' x.buffer, .notifyEndpoint x.buffer, .unref x.buffer] := by
    rw [htransports]
    obtain ⟨rfl, rfl⟩ | ⟨rfl, rfl⟩ := ht <;> rfl
  -- the endpoint and the reference are no writes
  have hnotify : (prvNotifyEndpoint r.endpoints (AlfieProtoHeader.ofBytes m) x.buffer).filterMap
      (RouterEffect.writeTo t') = [] := by
    unfold prvNotifyEndpoint
    split <;> rfl
  unfold IdleRouter.writes
  rw [haccept]
  dsimp only
  rw [hfifo, List.flatMap_singleton, hforward]
  show List.filterMap _ ([_] ++ (prvNotifyEndpoint _ (AlfieProtoHeader.ofBytes _) _ ++ [_])) = _
  rw [List.filterMap_append, List.filterMap_append, hdata, hnotify]
  show (if t' = t' then some _ else none).toList ++ _ = _
  rw [if_pos rfl]
  rfl

section Sender

variable (a : SendingSide) {srcId dstId : UInt32} {text : String}

/-- The packed text has a header, and is not longer than its fields can say. -/
theorem length_textBytes_bounds (srcId dstId : UInt32) (uuid : Vector UInt8 msgUuidSize)
    (hlen : (encodeUtf8 text).length ≤ maxTextPayloadSize) :
    alfieProtoHeaderSizeBytes ≤ (textBytes srcId dstId text uuid).length ∧
      (textBytes srcId dstId text uuid).length < 2 ^ 16 := by
  rw [length_textBytes]
  exact ⟨le_add_left (by decide), lt_of_le_of_lt (Nat.add_le_add_right hlen 28) (by decide)⟩

/-- The header that the client packs names the destination, where the router looks for it. -/
theorem ofBytes_textBytes_dstId (uuid : Vector UInt8 msgUuidSize) :
    (AlfieProtoHeader.ofBytes (textBytes srcId dstId text uuid)).dstId = dstId := by
  obtain ⟨-, -, -, hdst, -⟩ := field_textBytes srcId dstId text uuid
  show UInt32.ofNat (field _ 6 4) = dstId
  rw [hdst, UInt32.ofNat_toNat]

/-- The values that the client writes for a text it accepts. -/
theorem SendingSide.sends_eq (hlen : (encodeUtf8 text).length ≤ maxTextPayloadSize) :
    a.sends srcId dstId text =
      bleFrames (textMessage a.client a.mtu_ge srcId dstId text a.uuid a.seqId hlen) := by
  have hsend := doSend_eq_some a.client a.mtu srcId.toNat dstId.toNat a.uuid a.seqId hlen
  unfold SendingSide.sends
  rw [hsend]
  exact sends_doSend a.mtu_ge hsend

/-- **The service of the sender** acknowledges the text and hands it up. -/
theorem SendingSide.handedUp_eq (hlen : (encodeUtf8 text).length ≤ maxTextPayloadSize)
    (hvacant : Vacant () (textMessage a.client a.mtu_ge srcId dstId text a.uuid a.seqId hlen)
      (a.serviceClock 0) a.service.rxPool)
    (hgap : ∀ i, i + 1 <
        (textMessage a.client a.mtu_ge srcId dstId text a.uuid a.seqId hlen).count →
      a.serviceClock (i + 1) - a.serviceClock i < UInt32.ofNat alfieBleServiceRxTimeoutMs) :
    (∀ r ∈ a.reactions srcId dstId text, r.Accepted) ∧
      a.handedUp srcId dstId text = [textBytes srcId dstId text a.uuid] := by
  have hinv : BleReceiverInv (some routerReferences) a.service :=
    bleReceiverInv_runs (some routerReferences) a.serviceHistory
  obtain ⟨haccepted, hhandedUp⟩ :=
    reactions_inOrder routerReferences hinv.keyedPool hvacant hgap
  rw [← hinv.callback, ← reactions_bleFrames] at haccepted hhandedUp
  unfold SendingSide.handedUp SendingSide.reactions
  rw [a.sends_eq hlen]
  exact ⟨fun r hr => (haccepted r hr).1, hhandedUp⟩

/-- A text that is not accepted is not sent at all. -/
theorem SendingSide.sends_eq_nil (hlen : maxTextPayloadSize < (encodeUtf8 text).length) :
    a.sends srcId dstId text = [] := by
  have hconnected : ¬ (a.client.connect a.mtu).connected = false := fun h => Bool.noConfusion h
  unfold SendingSide.sends doSend
  rw [if_neg hconnected, if_pos hlen]

/-- The radio of the sender has a reachable state, so what is proved about every history applies. -/
theorem SendingSide.radio_inv : ReceiverInv (some routerReferences) a.radio :=
  receiverInv_runs (some routerReferences) a.deviceId a.radioHistory

/-- A message that does not fit into a receive buffer puts nothing on the air. -/
theorem airFrames_eq_nil {dev : Device} {d : UInt32} {seqId : UInt16} {data : List UInt8}
    (hinit : dev.transport.initialized = true)
    (hlong : dectTransportLayerMaxRxBufferSizeBytes < data.length) :
    dev.airFrames srcId d seqId data = [] := by
  have hpos : 0 < data.length := Nat.zero_lt_of_lt hlong
  unfold Device.airFrames Device.linkWrites dectTransportLayerWrite
  rw [hinit, if_neg Bool.noConfusion, if_neg hpos.ne', if_pos hlong]
  rfl

/-- **The device of the sender** writes an accepted text to the air as one message. -/
theorem SendingSide.onAir_eq (hlen : (encodeUtf8 text).length ≤ maxTextPayloadSize)
    (hhandedUp : a.handedUp srcId dstId text = [textBytes srcId dstId text a.uuid]) :
    a.onAir srcId dstId text =
      a.radio.airFrames a.deviceId dstId a.dectSeqId (textBytes srcId dstId text a.uuid) := by
  obtain ⟨hlow, hhigh⟩ := length_textBytes_bounds srcId dstId a.uuid hlen
  unfold SendingSide.onAir
  rw [hhandedUp, List.flatMap_singleton,
    a.router.writes_eq (.inr ⟨rfl, rfl⟩) hlow hhigh, List.flatMap_singleton,
    ofBytes_textBytes_dstId]

end Sender

section Receiver

variable (b : ReceivingSide) {data : List UInt8}

/-- And so has the radio of the receiver, which may have had traffic from others before. -/
theorem ReceivingSide.radio_inv : ReceiverInv (some routerReferences) b.radio :=
  receiverInv_runs (some routerReferences) b.deviceId b.radioHistory

/-- Only the last fragment hands up the message; the earlier ones are stored and acknowledged. -/
theorem flatMap_outcomeOf (srcId d : UInt32) (seqId : UInt16) (hpos : 0 < data.length) :
    ((List.range (fragCount data)).map (outcomeOf srcId d seqId data)).flatMap
      (fun o => o.handedUp.map Delivery.data) = [data] := by
  obtain ⟨k, hk⟩ : ∃ k, fragCount data = k + 1 :=
    Nat.exists_eq_add_one.mpr (Chunks.count_pos (by decide) hpos)
  -- every fragment but the last only fills the context
  have hearly : ((List.range k).map (outcomeOf srcId d seqId data)).flatMap
      (fun o => o.handedUp.map Delivery.data) = [] := by
    rw [List.flatMap_map, List.flatMap_eq_nil_iff]
    intro i hi
    have hlt : i < k := List.mem_range.mp hi
    have hne : ¬ i + 1 = fragCount data := by omega
    unfold outcomeOf
    dsimp only
    rw [if_neg hne]
    rfl
  -- and the last one completes it
  have hlast : (outcomeOf srcId d seqId data k).handedUp = [⟨srcId, seqId, data⟩] := by
    unfold outcomeOf
    exact if_pos hk.symm
  rw [hk, List.range_succ, List.map_append, List.flatMap_append, hearly, List.nil_append,
    List.map_singleton, List.flatMap_singleton, hlast]
  rfl

/-- **The radio of the receiver** hands up the message of another device. -/
theorem ReceivingSide.handedUp_eq {sender : Device} {srcId : UInt32} {seqId : UInt16}
    {callback : Option (TransportRxCallback DectTransportExt)}
    (hsender : ReceiverInv callback sender) (hpos : 0 < data.length)
    (hle : data.length ≤ dectTransportLayerMaxRxBufferSizeBytes)
    (hvacant : Vacant ⟨srcId⟩ (dectMessage seqId data hpos hle) (b.radioClock 0)
      b.radio.transport.rxPool)
    (hgap : ∀ i, i + 1 < fragCount data →
      b.radioClock (i + 1) - b.radioClock i < UInt32.ofNat dectTransportLayerRxTimeoutMs) :
    b.handedUp (sender.airFrames srcId b.deviceId seqId data) = [data] := by
  -- frame `i` arrives at time `i` of the clock
  have hzip : (sender.airFrames srcId b.deviceId seqId data).zipIdx =
      (List.range (fragCount data)).map fun i =>
        (dectLinkLayerFrame srcId b.deviceId (dataFrameOf seqId data i).toBytes, i) := by
    rw [airFrames_eq hsender hpos hle]
    apply List.ext_getElem
    · simp
    · intro i hi _
      simp
  -- the pool goes through the stages of the message, from the vacant one on
  have houtputs : outputs (Device.observe b.deviceId b.radioClock b.beyond) b.radio
      (sender.airFrames srcId b.deviceId seqId data).zipIdx =
        (List.range (fragCount data)).map (outcomeOf srcId b.deviceId seqId data) := by
    rw [hzip, outputs_map, List.map_eq_flatMap]
    refine outputs_range (P := fun i dev => ReceiverInv (some routerReferences) dev ∧
      Stage ⟨srcId⟩ (dectMessage seqId data hpos hle) b.radioClock dev.transport.rxPool i)
      ?_ ⟨b.radio_inv, .first hvacant⟩
    intro i dev hi hP
    -- what a fragment does to the pool in its stage is said once, for both radios
    refine observe_fragment hpos hle b.beyond hP.1 hP.2 hi ?_
    intro j hj
    subst hj
    exact hgap j hi
  unfold ReceivingSide.handedUp
  rw [houtputs]
  exact flatMap_outcomeOf srcId b.deviceId seqId hpos

/-- A value that is too long for a notification ends the call, and nothing is delivered. -/
theorem delivered_transfer_too_long {mtu : ℕ} {clock : ℕ → UInt32} {e : Errno} {s : Upstream}
    {x : List UInt8} (hlen : mtu - 3 < x.length) {attempts : ℕ} (hattempts : 0 < attempts)
    (timeoutMs : ℕ) (xs : List (List UInt8)) :
    ((transfer attempts timeoutMs (x :: xs)).exec (Upstream.handler mtu clock e) s).2.delivered =
      s.delivered := by
  obtain ⟨n, rfl⟩ := Nat.exists_eq_add_one.mpr hattempts
  rw [exec_transfer_cons, exec_sendWithRetry_succ]
  unfold Upstream.handler
  dsimp only
  rw [if_neg (not_le.mpr hlen)]

/-- **The client of the receiver** delivers the messages that fit into one notification, when it has
no context under the `seq_id`. -/
theorem ReceivingSide.delivered_write (hpos : 0 < data.length)
    (hle : data.length ≤ alfieBleServiceMaxRxBufferSizeBytes) :
    (Upstream.write b.mtu b.serviceClock b.notifyError b.service b.client b.seqId
        data).2.delivered =
      if data.length + 11 ≤ b.mtu ∧ b.client.rxContexts b.seqId.toNat = none then [data]
        else [] := by
  have hinv : ClientInv b.client := clientInv_runs b.clientHistory
  have hloop := hinv.loop b.connected
  have hmin := b.mtu_ge
  have hmax : b.mtu ≤ 251 := b.mtu_le
  -- the first notification decides: nothing else is sent before its ACK
  obtain ⟨rest, hframes, hrest⟩ := bleFrames_eq_cons (bleMessage b.seqId data hpos hle)
  have hlength : (bleFrame (bleMessage b.seqId data hpos hle) 0).toBytes.length =
      8 + min 243 data.length := length_bleFrame_zero _
  unfold Upstream.write
  rw [alfieBleServiceWrite_eq b.initialized b.conn b.seqId hpos hle, hframes]
  by_cases hfit : data.length + 11 ≤ b.mtu
  · -- the only value fits
    -- the message that fits is one of at most 240 bytes, and so one fragment
    have hcount : (bleMessage b.seqId data hpos hle).count = 1 := by
      show (data.length + 243 - 1) / 243 = 1
      omega
    have hvalue : (bleFrame (bleMessage b.seqId data hpos hle) 0).toBytes.length ≤ b.mtu - 3 := by
      rw [hlength]
      omega
    rw [hrest hcount]
    cases hctx : b.client.rxContexts b.seqId.toNat with
    | none =>
      obtain ⟨service', hexec⟩ := exec_transfer_single (s := ⟨b.service, b.client, [], []⟩)
        (e := b.notifyError) hvalue (handleRxPayload_single hloop hcount hctx)
        (filterMap_write_ack b.connected _ _) (by decide : 0 < alfieBleServiceTxAttempts)
        alfieBleServiceAckTimeoutMs b.serviceClock
      rw [hexec, if_pos ⟨hfit, rfl⟩]
      rfl
    | some ctx =>
      -- taken for a duplicate, and acknowledged
      obtain ⟨service', hexec⟩ := exec_transfer_single (s := ⟨b.service, b.client, [], []⟩)
        (e := b.notifyError) hvalue (handleRxPayload_stale hinv hloop hcount hctx)
        (filterMap_write_ack b.connected _ _) (by decide : 0 < alfieBleServiceTxAttempts)
        alfieBleServiceAckTimeoutMs b.serviceClock
      rw [hexec, if_neg (fun h => by cases h.2)]
      rfl
  · -- a longer one is never sent: `bt_gatt_notify` refuses the value at every attempt
    have hlong : b.mtu - 3 < (bleFrame (bleMessage b.seqId data hpos hle) 0).toBytes.length := by
      rw [hlength]
      omega
    rw [delivered_transfer_too_long hlong (by decide), if_neg (fun h => hfit h.1)]

/-- **The receiver** shows a packed text that its radio hands up. -/
theorem ReceivingSide.shown_eq {frames : List (List UInt8)} {srcId dstId : UInt32} {text : String}
    {uuid : Vector UInt8 msgUuidSize}
    (hle : (textBytes srcId dstId text uuid).length ≤ alfieBleServiceMaxRxBufferSizeBytes)
    (hhandedUp : b.handedUp frames = [textBytes srcId dstId text uuid]) :
    b.shown frames =
      if (encodeUtf8 text).length + 39 ≤ b.mtu ∧ b.client.rxContexts b.seqId.toNat = none then
        [.ok (.create srcId.toNat dstId.toNat (rstripNul text) uuid)]
      else [] := by
  have hlength := length_textBytes srcId dstId text uuid
  have hpos : 0 < (textBytes srcId dstId text uuid).length := by omega
  have hlow : alfieProtoHeaderSizeBytes ≤ (textBytes srcId dstId text uuid).length :=
    hlength ▸ le_add_left (by decide)
  have hhigh : (textBytes srcId dstId text uuid).length < 2 ^ 16 := lt_of_le_of_lt hle (by decide)
  -- the message has 28 bytes more than the text, and the value 11 more than the message
  have hfits : (textBytes srcId dstId text uuid).length + 11 ≤ b.mtu ↔
      (encodeUtf8 text).length + 39 ≤ b.mtu := by omega
  unfold ReceivingSide.shown ReceivingSide.delivered
  rw [hhandedUp, List.flatMap_singleton, b.router.writes_eq (.inl ⟨rfl, rfl⟩) hlow hhigh,
    List.flatMap_singleton, b.delivered_write hpos hle, apply_ite (List.map TextMessage.unpack),
    List.map_singleton, unpack_textBytes, List.map_nil]
  exact if_congr (and_congr_left' hfits) rfl rfl

end Receiver

/-! ### The way -/

/-- **What the receiver shows of a text.** The sender's service acknowledges every fragment of it,
and then it is shown once and without the NULs at its end, or not at all: exactly if the packed
message fits into one notification to the other client, which has no context under its `seq_id`. -/
theorem text_shown_eq (a : SendingSide) (b : ReceivingSide) (srcId : UInt32) (text : String)
    (h : TextUndisturbed a b srcId text) :
    (∀ r ∈ a.reactions srcId b.deviceId text, r.Accepted) ∧
      b.shown (a.onAir srcId b.deviceId text) =
        if (encodeUtf8 text).length + 39 ≤ b.mtu ∧ b.client.rxContexts b.seqId.toNat = none then
          [.ok (.create srcId.toNat b.deviceId.toNat (rstripNul text) a.uuid)]
        else [] := by
  have hmax : b.mtu ≤ 251 := b.mtu_le
  have hlength := length_textBytes srcId b.deviceId text a.uuid
  by_cases hlen : (encodeUtf8 text).length ≤ maxTextPayloadSize
  · obtain ⟨haccepted, hhandedUp⟩ := a.handedUp_eq hlen (h.service hlen) (h.serviceGap hlen)
    refine ⟨haccepted, ?_⟩
    rw [a.onAir_eq hlen hhandedUp]
    by_cases hle : (textBytes srcId b.deviceId text a.uuid).length ≤ 512
    · have hpos : 0 < (textBytes srcId b.deviceId text a.uuid).length := by omega
      exact b.shown_eq hle
        (b.handedUp_eq a.radio_inv hpos hle (h.radio hpos hle) h.radioGap)
    · -- a text of 485 bytes ends at the DECT transport of the sender
      have hlong : ¬ (encodeUtf8 text).length + 39 ≤ b.mtu := by omega
      rw [airFrames_eq_nil a.radio_inv.initialized (not_le.mp hle), if_neg fun hc => hlong hc.1]
      rfl
  · have hlong : ¬ (encodeUtf8 text).length + 39 ≤ b.mtu := by
      have hlt : 485 < (encodeUtf8 text).length := not_le.mp hlen
      omega
    unfold SendingSide.reactions SendingSide.onAir SendingSide.handedUp SendingSide.reactions
    rw [a.sends_eq_nil (not_le.mp hlen), if_neg fun hc => hlong hc.1]
    exact ⟨fun _ hr => absurd hr List.not_mem_nil, rfl⟩

/-- The router of a device that has just started, which has nothing to forward and a buffer to
spare. -/
def newRouter : IdleRouter where
  router := .init [dectTransport, bleTransport] [] fun _ => ⟨[], 0, rfl⟩
  buffer := 0
  registered := rfl
  idle := fun d => by cases d <;> rfl
  free := List.not_mem_nil

/-- Device 1 has just started, and a client connects with the smallest MTU. -/
def newSender : SendingSide where
  client := .init
  mtu := 23
  mtu_ge := le_refl 23
  uuid := .replicate 16 0
  seqId := 7
  serviceHistory := []
  serviceClock := fun _ => 0
  router := newRouter
  deviceId := 1
  radioHistory := []
  dectSeqId := 8

/-- Device 2 has just started, and a client is connected with an MTU of 44 bytes. -/
def newReceiver : ReceivingSide where
  deviceId := 2
  radioHistory := []
  radioClock := fun _ => 0
  beyond := fun _ _ => 0
  router := newRouter
  service := .init none
  initialized := rfl
  conn := rfl
  seqId := 9
  serviceClock := fun _ => 0
  notifyError := .enomem
  clientHistory := [.connect 44]
  connected := rfl
  mtu := 44
  mtu_ge := by decide
  mtu_le := by decide

/-- Five bytes are the most that this MTU leaves room for. -/
theorem text_shown_hello :
    (∀ r ∈ newSender.reactions 1 2 "hello", r.Accepted) ∧
      newReceiver.shown (newSender.onAir 1 2 "hello") =
        if (encodeUtf8 "hello").length + 39 ≤ 44 ∧ newReceiver.client.rxContexts 9 = none then
          [.ok (.create 1 2 (rstripNul "hello") (.replicate 16 0))]
        else [] :=
  text_shown_eq newSender newReceiver 1 "hello"
    { service := fun _ => vacant_of_all_free (by decide) (by decide)
      serviceGap := fun _ _ _ => (by decide : (0 : UInt32) - 0 < _)
      radio := fun _ _ => vacant_of_all_free (by decide) (by decide)
      radioGap := fun _ _ => (by decide : (0 : UInt32) - 0 < _) }

example : newReceiver.delivered (newSender.onAir 1 2 "hello") =
    [textBytes 1 2 "hello" (.replicate 16 0)] := by
  decide +kernel

end DectCommunicator
