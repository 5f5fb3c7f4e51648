import DectCommunicator.BleClient.ClientSpec

/-!
# A message from the firmware to the client

`alfie_ble_service_write` over a connection with the ATT MTU `mtu`, to a connected client that
acknowledges what it receives. Of Zephyr it is assumed that `bt_gatt_notify` succeeds exactly when
the value is at most `mtu - 3` bytes, the MTU less the opcode and the handle of a notification.

The firmware cuts a message into fragments of 243 bytes, which with the header of 8 bytes make
values of `CONFIG_BT_L2CAP_TX_MTU` bytes. It accounts neither for the 3 bytes of the notification
nor for an MTU below the maximum, so only a message that fits into one value with everything on top
of it makes its way (`upstream_roundTrip_iff`). A message of two fragments never does.
-/

namespace DectCommunicator

open Machine StopAndWait

/-! ### The connection -/

/-- The two ends, and what has passed between them: the values submitted to `bt_gatt_notify` and
the payloads the client delivered. -/
structure Upstream where
  service : AlfieBleService
  client : MessagingClient
  submitted : List (List UInt8)
  delivered : List (List UInt8)

/-- The payload of a call of `_deliver_message`, before it is parsed. -/
def ClientEffect.delivered : ClientEffect → Option (List UInt8)
  | .deliverMessage data => some data
  | _ => none

/-- The value that the task of an effect writes to the characteristic, which is an ACK. -/
def MessagingClient.write (c : MessagingClient) : ClientEffect → Option (List UInt8)
  | .sendAck header => c.sendAck header
  | _ => none

/-- The client is notified of a value, and the service handles what it writes in return. Its tasks
run before the service waits, which is the case the round trip is about. -/
def Upstream.notify (now : UInt32) (buf : List UInt8) (s : Upstream) : Upstream :=
  let r := s.client.onNotification buf
  { s with
    service := (r.2.filterMap r.1.write).foldl (fun st ack => (prvOnDataWrite now ack st).1) s.service
    client := r.1
    delivered := s.delivered ++ r.2.filterMap ClientEffect.delivered }

/-- The effects of `alfie_ble_service_write` on the connection; `clock` is read under the number of
values submitted before, and `e` is the error of `bt_gatt_notify` for a value that is too long. -/
def Upstream.handler (mtu : ℕ) (clock : ℕ → UInt32) (e : Errno) :
    Handler Errno (List UInt8) Upstream where
  reset s := { s with service := { s.service with ackSem := 0 } }
  send buf s :=
    let s' := { s with submitted := s.submitted ++ [buf] }
    if buf.length ≤ mtu - 3 then (.ok, s'.notify (clock s.submitted.length) buf)
    else (.err e, s')
  take _ s :=
    if 0 < s.service.ackSem then
      (.ok, { s with service := { s.service with ackSem := s.service.ackSem - 1 } })
    else (.err .eagain, s)

/-- A call of `alfie_ble_service_write` on a connection on which nothing has passed. -/
def Upstream.write (mtu : ℕ) (clock : ℕ → UInt32) (e : Errno) (service : AlfieBleService)
    (client : MessagingClient) (seqId : UInt16) (data : List UInt8) : Ret × Upstream :=
  (alfieBleServiceWrite service seqId data).exec (Upstream.handler mtu clock e)
    ⟨service, client, [], []⟩

/-- A message makes its way to the client, and the service learns of it. -/
structure UpstreamRoundTrip (mtu : ℕ) (data : List UInt8) (r : Ret × Upstream) : Prop where
  /-- the call returns 0 -/
  ok : r.1 = .ok
  /-- every value fits into a notification -/
  fits : ∀ buf ∈ r.2.submitted, buf.length ≤ mtu - 3
  /-- the client delivers the message once -/
  delivered : r.2.delivered = [data]

/-! ### The fragments of the firmware -/

section Message

variable {data : List UInt8}

/-- A message of the service, cut into fragments of 243 bytes, whatever the MTU of the connection
is. -/
def bleMessage (seqId : UInt16) (data : List UInt8) (hpos : 0 < data.length)
    (hle : data.length ≤ alfieBleServiceMaxRxBufferSizeBytes) : Message where
  seqId := seqId
  data := data
  size := alfieBleServiceProtoMaxDataFramePayloadSizeBytes
  data_pos := hpos
  size_pos := by decide
  length_lt := lt_of_le_of_lt hle (by decide)
  count_lt := lt_of_le_of_lt (Chunks.count_mono _ hle) (by decide)

/-- The service notifies the frames of the message, its `frag_total` being the count. -/
theorem bleFramesOf_eq (seqId : UInt16) (hpos : 0 < data.length)
    (hle : data.length ≤ alfieBleServiceMaxRxBufferSizeBytes) :
    bleFramesOf seqId data = bleFrames (bleMessage seqId data hpos hle) := by
  have hcount : (bleFragTotalOf data.length).toNat = (bleMessage seqId data hpos hle).count :=
    (bleMessage seqId data hpos hle).fragTotal_toNat 0
  unfold bleFramesOf bleFrames
  rw [hcount]
  rfl

/-- A message that passes the checks is transferred frame by frame. -/
theorem alfieBleServiceWrite_eq {st : AlfieBleService} (hinit : st.initialized = true)
    (hconn : st.conn = true) (seqId : UInt16) (hpos : 0 < data.length)
    (hle : data.length ≤ alfieBleServiceMaxRxBufferSizeBytes) :
    alfieBleServiceWrite st seqId data =
      transfer alfieBleServiceTxAttempts alfieBleServiceAckTimeoutMs
        (bleFrames (bleMessage seqId data hpos hle)) := by
  unfold alfieBleServiceWrite
  rw [if_neg hpos.ne', if_neg (not_lt.mpr hle), if_neg (by rw [hinit]; exact Bool.noConfusion),
    if_neg (by rw [hconn]; exact Bool.noConfusion), bleFramesOf_eq seqId hpos hle]

/-- The frames of a message start with that of fragment 0, and are no more when there is one
fragment. -/
theorem bleFrames_eq_cons (m : Message) :
    ∃ rest, bleFrames m = (bleFrame m 0).toBytes :: rest ∧ (m.count = 1 → rest = []) := by
  obtain ⟨k, hk⟩ := Nat.exists_eq_add_one.mpr m.count_pos
  unfold bleFrames
  rw [hk, List.range_succ_eq_map, List.map_cons]
  refine ⟨_, rfl, fun hone => ?_⟩
  obtain rfl : k = 0 := Nat.succ_injective hone
  rfl

/-- The length of the first value, on which it depends whether anything arrives: it is never shorter
than the later ones. -/
theorem length_bleFrame_zero (m : Message) :
    (bleFrame m 0).toBytes.length = 8 + min m.size m.data.length := by
  rw [AlfieBleServiceProtoDataFrame.length_toBytes]
  unfold bleFrame
  rw [Chunks.length_chunk, Nat.mul_zero, Nat.sub_zero]

end Message

/-- The task of an ACK writes it to the characteristic, the client being connected. -/
theorem filterMap_write_ack {c : MessagingClient} (hconnected : c.connected = true)
    (f : AlfieBleServiceProtoDataFrame) (effects : List ClientEffect) :
    (ClientEffect.sendAck (headerOf f) :: effects).filterMap c.write =
      (AlfieBleServiceProtoDataAckFrame.mk f.seqId f.fragIdx).toBytes ::
        effects.filterMap c.write :=
  List.filterMap_cons_some (sendAck_headerOf hconnected f)

/-! ### One attempt -/

section Attempt

variable {mtu : ℕ} {clock : ℕ → UInt32} {e : Errno} {s : Upstream}

/-- The first attempt for a value that is too long fails the call, because a failing
`bt_gatt_notify` is not retried. -/
theorem exec_transfer_too_long {x : List UInt8} (hlen : mtu - 3 < x.length) {attempts : ℕ}
    (hattempts : 0 < attempts) (timeoutMs : ℕ) (xs : List (List UInt8)) :
    ((transfer attempts timeoutMs (x :: xs)).exec (Upstream.handler mtu clock e) s).1 = .err e := by
  obtain ⟨n, rfl⟩ := Nat.exists_eq_add_one.mpr hattempts
  rw [exec_transfer_cons, exec_sendWithRetry_succ]
  unfold Upstream.handler
  dsimp only
  rw [if_neg (not_le.mpr hlen)]

/-- The only value of a message is submitted once, and acknowledged. -/
theorem exec_transfer_single {f : AlfieBleServiceProtoDataFrame} {c : MessagingClient}
    {effects : List ClientEffect} (hlen : f.toBytes.length ≤ mtu - 3)
    (hclient : s.client.handleRxPayload (headerOf f) f.payload = (c, effects))
    (hack : effects.filterMap c.write =
      [(AlfieBleServiceProtoDataAckFrame.mk f.seqId f.fragIdx).toBytes])
    {attempts : ℕ} (hattempts : 0 < attempts) (timeoutMs : ℕ) (clock : ℕ → UInt32) :
    ∃ service, (transfer attempts timeoutMs [f.toBytes]).exec (Upstream.handler mtu clock e) s =
      (.ok, ⟨service, c, s.submitted ++ [f.toBytes],
        s.delivered ++ effects.filterMap ClientEffect.delivered⟩) := by
  obtain ⟨n, rfl⟩ := Nat.exists_eq_add_one.mpr hattempts
  rw [exec_transfer_cons, exec_sendWithRetry_succ]
  unfold Upstream.handler Upstream.notify
  dsimp only
  rw [if_pos hlen, onNotification_data, hclient]
  dsimp only
  -- the ACK is handled before the semaphore is taken, so the first attempt ends the transfer
  rw [hack, List.foldl_cons, List.foldl_nil, prvOnDataWrite_ack]
  exact ⟨_, rfl⟩

end Attempt

/-! ### A message of one fragment -/

section Single

variable {m : Message} {c : MessagingClient}

/-- The fragment is the message, nothing being cut off. -/
theorem bleFrame_payload_single (hcount : m.count = 1) : (bleFrame m 0).payload = m.data := by
  have htake := Chunks.take_succ m.size 0 m.data
  have hall := Chunks.take_count m.size_pos m.data
  rw [Nat.mul_zero, List.take_zero, List.nil_append] at htake
  have hone : Chunks.count m.size m.data.length = 0 + 1 := hcount
  rw [hone] at hall
  exact htake.trans hall

/-- The header of a single fragment: index 0 of 1. -/
theorem headerOf_single (hcount : m.count = 1) :
    headerOf (bleFrame m 0) = ⟨0, frameTypeData, m.seqId.toNat, m.data.length, 0, 1⟩ := by
  have hfragTotal := m.fragTotal_toNat 0
  rw [hcount] at hfragTotal
  unfold headerOf
  rw [DataFrameHeader.mk.injEq]
  exact ⟨rfl, rfl, rfl, m.totalSizeBytes_toNat 0, rfl, hfragTotal⟩

/-- A client without a context under the `seq_id` delivers the message with its only fragment. -/
theorem handleRxPayload_single (hloop : c.loop = true) (hcount : m.count = 1)
    (hctx : c.rxContexts m.seqId.toNat = none) :
    c.handleRxPayload (headerOf (bleFrame m 0)) (bleFrame m 0).payload =
      (c.setContext m.seqId.toNat none,
        [.sendAck (headerOf (bleFrame m 0)), .deliverMessage m.data]) := by
  rw [bleFrame_payload_single hcount, headerOf_single hcount]
  unfold MessagingClient.handleRxPayload
  dsimp only
  rw [hctx]
  dsimp only
  rw [if_neg (not_not.mpr rfl)]
  unfold MessagingClient.handleFragment
  dsimp only
  rw [if_neg (lt_irrefl 0), if_neg (not_not.mpr rfl), if_pos rfl, setContext_setContext]
  have hloop' : (c.setContext m.seqId.toNat
      (some ⟨m.seqId.toNat, 1, m.data.length, 0, []⟩)).loop = true := hloop
  rw [if_pos hloop']
  rfl

/-- A client with a context under the `seq_id` takes the fragment for a duplicate: the context has
received fragment 0 already, of whichever message it was. -/
theorem handleRxPayload_stale (hinv : ClientInv c) (hloop : c.loop = true) (hcount : m.count = 1)
    {ctx : ReassemblyCtx} (hctx : c.rxContexts m.seqId.toNat = some ctx) :
    c.handleRxPayload (headerOf (bleFrame m 0)) (bleFrame m 0).payload =
      (c, [.sendAck (headerOf (bleFrame m 0))]) := by
  have hstarted := hinv.started _ _ hctx
  rw [headerOf_single hcount]
  unfold MessagingClient.handleRxPayload
  dsimp only
  rw [hctx]
  dsimp only
  unfold MessagingClient.handleFragment
  dsimp only
  rw [if_pos hstarted, if_pos hloop]

end Single

/-! ### The round trip -/

/-- **Exactly the messages that fit into one notification make their way**, to a client that has
no context under the `seq_id`. -/
theorem upstream_roundTrip_iff (service : AlfieBleService) (hinit : service.initialized = true)
    (hconn : service.conn = true) (history : List ClientInput)
    (hclient : (runs MessagingClient.step .init history).connected = true) (mtu : ℕ)
    (hmin : 23 ≤ mtu) (hmax : mtu ≤ configBtL2capTxMtu) (clock : ℕ → UInt32) (e : Errno)
    (seqId : UInt16) (data : List UInt8) (hpos : 0 < data.length)
    (hle : data.length ≤ alfieBleServiceMaxRxBufferSizeBytes) :
    UpstreamRoundTrip mtu data
        (Upstream.write mtu clock e service (runs MessagingClient.step .init history) seqId data) ↔
      data.length + 11 ≤ mtu ∧
        (runs MessagingClient.step .init history).rxContexts seqId.toNat = none := by
  have hinv := clientInv_runs history
  generalize runs MessagingClient.step .init history = c at hinv hclient ⊢
  have hloop := hinv.loop hclient
  have hmax' : mtu ≤ 251 := hmax
  unfold Upstream.write
  rw [alfieBleServiceWrite_eq hinit hconn seqId hpos hle]
  -- the first value carries the first 243 bytes
  have hlength : (bleFrame (bleMessage seqId data hpos hle) 0).toBytes.length
      = 8 + min 243 data.length := length_bleFrame_zero _
  obtain ⟨rest, hframes, hrest⟩ := bleFrames_eq_cons (bleMessage seqId data hpos hle)
  by_cases hfit : data.length + 11 ≤ mtu
  · -- what fits into a notification is a single fragment
    have hcount : (bleMessage seqId data hpos hle).count = 1 := by
      change (data.length + 243 - 1) / 243 = 1
      omega
    have hvalue : (bleFrame (bleMessage seqId data hpos hle) 0).toBytes.length ≤ mtu - 3 := by
      rw [hlength]
      omega
    rw [hframes, hrest hcount]
    cases hctx : c.rxContexts seqId.toNat with
    | none =>
      obtain ⟨service', hexec⟩ := exec_transfer_single (s := ⟨service, c, [], []⟩) (e := e)
        hvalue (handleRxPayload_single hloop hcount hctx)
        (filterMap_write_ack hclient _ _)
        (by decide : 0 < alfieBleServiceTxAttempts) alfieBleServiceAckTimeoutMs clock
      rw [hexec]
      refine ⟨fun _ => ⟨hfit, rfl⟩, fun _ => ⟨rfl, fun buf hbuf => ?_, rfl⟩⟩
      rw [List.nil_append, List.mem_singleton] at hbuf
      rw [hbuf]
      exact hvalue
    | some ctx =>
      obtain ⟨service', hexec⟩ := exec_transfer_single (s := ⟨service, c, [], []⟩) (e := e)
        hvalue (handleRxPayload_stale hinv hloop hcount hctx)
        (filterMap_write_ack hclient _ _)
        (by decide : 0 < alfieBleServiceTxAttempts) alfieBleServiceAckTimeoutMs clock
      rw [hexec]
      -- acknowledged, but not delivered
      exact ⟨fun h => absurd h.delivered (List.cons_ne_nil _ _).symm, fun h => by cases h.2⟩
  · -- a first fragment of 243 bytes is too long for every MTU, so several fragments never arrive
    have hlong : mtu - 3 < (bleFrame (bleMessage seqId data hpos hle) 0).toBytes.length := by
      rw [hlength]
      omega
    rw [hframes]
    constructor
    · intro h
      have hok := h.ok
      rw [exec_transfer_too_long hlong (by decide)] at hok
      cases hok
    · exact fun h => absurd h.1 hfit

/-- A connected client that has just been started, on the smallest MTU. -/
def newClient : List ClientInput := [.connect 23]

/-- Twelve bytes are the most that the smallest MTU leaves room for, and they arrive. -/
theorem upstream_roundTrip_twelve :
    UpstreamRoundTrip 23 (List.replicate 12 0)
      (Upstream.write 23 (fun _ => 0) .enomem (.init none) (runs MessagingClient.step .init newClient)
        7 (List.replicate 12 0)) :=
  (upstream_roundTrip_iff (.init none) rfl rfl newClient rfl 23 (by decide) (by decide)
    (fun _ => 0) .enomem 7 (List.replicate 12 0) (by decide) (by decide)).mpr ⟨by decide, rfl⟩

/-- With the largest MTU a message of 241 bytes is lost: its value has 249 bytes, and 248 fit. -/
theorem upstream_fails :
    ¬ ∀ (service : AlfieBleService) (history : List ClientInput) (mtu : ℕ) (clock : ℕ → UInt32)
        (e : Errno) (seqId : UInt16) (data : List UInt8),
      service.initialized = true → service.conn = true →
      (runs MessagingClient.step .init history).connected = true →
      23 ≤ mtu → mtu ≤ configBtL2capTxMtu → 0 < data.length →
      data.length ≤ alfieBleServiceMaxRxBufferSizeBytes →
      UpstreamRoundTrip mtu data
        (Upstream.write mtu clock e service (runs MessagingClient.step .init history) seqId data) := by
  intro h
  have htrip := h (.init none) newClient 251 (fun _ => 0) .enomem 7 (List.replicate 241 0)
    rfl rfl rfl (by decide) (by decide) (by decide +kernel) (by decide +kernel)
  exact absurd htrip.ok (by decide +kernel)

end DectCommunicator
