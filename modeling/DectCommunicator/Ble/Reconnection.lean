import DectCommunicator.Ble.Provenance

/-!
# A connection that comes and goes

The two ends of `Ble/Connection.lean`, which lose the connection and make it again. The sides notice
a loss each in its own time: `_on_disconnected` clears the contexts of the client, and
`prv_device_disconnected` clears `conn`, but leaves the receive contexts of the service alone. What
was in the channel is lost, what is suspended goes on: a send of the client, a call of
`alfie_ble_service_write`, and the tasks of the ACKs. A send that goes on over the next connection
has the fragment size of before: `_send_fragmented` would cut the rest of its data with another one.

In every run, what the service hands up was sent by the client, and what the client delivers was
written by the service (`link_delivers_sent`). The condition is on the numbers that the calls draw:
what is left under a `seq_id`, also from an earlier connection, is part of the call that draws it.
-/

namespace DectCommunicator

open Machine StopAndWait

/-! ### The machine -/

/-- The steps of the two ends, and what happens to the connection, of which each side learns by
itself. -/
inductive LinkAction where
  | act (a : BleAction)
  /-- `_on_disconnected` -/
  | clientDisconnected
  /-- `prv_device_disconnected` -/
  | serviceDisconnected
  /-- `connect` succeeds with an MTU, with the fragment size of before when a send is suspended, and
  `prv_device_connected` is called -/
  | connect (mtu : ℕ)
deriving DecidableEq, Repr

/-- The side whose step it is has a connection, as far as the step needs one: without it `send_text`
and `write_gatt_char` raise an exception, `bt_gatt_notify` fails, and nothing is received. -/
def BleAction.Connected (n : BleNet) : BleAction → Prop
  | .clientSend _ _ => n.client.connected = true
  | .clientWriter sent => sent = true → n.client.connected = true
  | .clientReceive => n.client.connected = true
  | .serviceWriter notified => notified = .ok → n.service.conn = true
  | .serviceReceive _ _ => n.service.conn = true
  | _ => True

instance (n : BleNet) (a : BleAction) : Decidable (a.Connected n) :=
  a.casesOn (motive := fun a => Decidable (a.Connected n))
    (fun _ _ => inferInstanceAs (Decidable (_ = true))) instDecidableTrue
    (fun _ => inferInstanceAs (Decidable (_ = true → _ = true)))
    (inferInstanceAs (Decidable (_ = true))) (fun _ _ => instDecidableTrue)
    (fun _ _ => instDecidableTrue)
    (fun notified => inferInstanceAs (Decidable (notified = .ok → _ = true)))
    (fun _ _ => inferInstanceAs (Decidable (_ = true))) fun _ => instDecidableTrue

/-- The two ends before the first connection: the client's payload size is the default of its
class. -/
def BleNet.unconnected (callback : TransportRxCallback Unit) : BleNet :=
  { BleNet.init 0 callback with
    client := .init
    service := { AlfieBleService.init (some callback) with conn := false } }

/-- One step; `none` when the action is not possible. A side that has noticed the loss receives
nothing any more, so its channel is emptied then; what the other one still sends is lost at the next
connection at the latest. -/
def BleNet.linkStep (n : BleNet) : LinkAction → Option BleNet
  | .act a => if a.Connected n then n.step a else none
  | .clientDisconnected =>
    if n.client.connected = true then
      some { n with client := n.client.onDisconnected, down := [] }
    else none
  | .serviceDisconnected =>
    if n.service.conn = true then
      some { n with service := { n.service with conn := false }, up := [] }
    else none
  | .connect mtu =>
    if n.client.connected = false ∧ n.service.conn = false ∧
        (n.clientWriter.isSome → (n.client.connect mtu).maxFramePayload = n.client.maxFramePayload)
    then
      some { n with
        client := n.client.connect mtu
        service := { n.service with conn := true }
        up := []
        down := [] }
    else none

/-! ### The condition -/

/-- What is left under the `seq_id` of a new send is part of it: the data frames in the channel are
frames of the send, and a context of the service under its key holds the first ones. -/
def SendLeftoversFit (n : BleNet) (seqId : UInt16) (data : List UInt8) : Prop :=
  (∀ buf ∈ n.up, bleFrameTypeOf buf = some .data →
    (AlfieBleServiceProtoDataFrame.ofBytes buf).seqId = seqId →
      ∃ i < n.client.fragTotal data, n.client.frame seqId data i = some buf) ∧
  ∀ b ∈ n.service.rxPool.contexts, b.state = .receiving → b.seqId = seqId →
    b.fragTotal.toNat = n.client.fragTotal data → b.totalSizeBytes.toNat = data.length →
      b.fragIdx.toNat < n.client.fragTotal data ∧
        b.data = data.take (n.client.maxFramePayload * b.fragIdx.toNat)

instance (n : BleNet) (seqId : UInt16) (data : List UInt8) :
    Decidable (SendLeftoversFit n seqId data) := by
  unfold SendLeftoversFit
  infer_instance

/-- **The condition.** Both sides draw numbers under which nothing of another message is left. The
state of the receivers counts for it too, the service keeping its contexts over a lost
connection. -/
def LinkAction.Continues (n : BleNet) : LinkAction → Prop
  | .act (.clientSend seqId data) => n.client.Packs data → SendLeftoversFit n seqId data
  | .act (.serviceSend seqId data) => n.service.Admits data → LeftoversFit n seqId data
  | _ => True

/-- The data that the client sends in a run, whether they get through or not. -/
def clientSends (as : List LinkAction) : List (List UInt8) :=
  as.filterMap fun
    | .act (.clientSend _ data) => some data
    | _ => none

/-- The data that the service writes, including those that it refuses. -/
def serviceSends (as : List LinkAction) : List (List UInt8) :=
  as.filterMap fun
    | .act (.serviceSend _ data) => some data
    | _ => none

/-- What an action sends counts as sent, so the invariant can speak of a run that is not over. -/
def LinkAction.Sends (Sent Written : List UInt8 → Prop) : LinkAction → Prop
  | .act (.clientSend _ data) => Sent data
  | .act (.serviceSend _ data) => Written data
  | _ => True

/-! ### The frames of a send -/

section Send

variable {c : MessagingClient} {seqId : UInt16} {data : List UInt8}

/-- The send, with the size of its fragments: that of the connection on which it begins. -/
def MessagingClient.outgoing (c : MessagingClient) (seqId : UInt16) (data : List UInt8)
    (h : c.Packs data) : Outgoing :=
  ⟨c.maxFramePayload, seqId, data, h.1, h.2⟩

/-- The bytes that `_send_fragmented` makes for an index are those of the frame. -/
theorem frame_outgoing (h : c.Packs data) {i : ℕ} (hi : i < c.fragTotal data) :
    c.frame seqId data i = some ((c.outgoing seqId data h).frame i).toBytes := by
  have hlen : (UInt16.ofNat data.length).toNat = data.length := UInt16.toNat_ofNat_of_lt' h.1
  have hidx : (UInt8.ofNat i).toNat = i := UInt8.toNat_ofNat_of_lt' (hi.trans h.2)
  have hcount : (UInt8.ofNat (c.outgoing seqId data h).count).toNat = c.fragTotal data :=
    UInt8.toNat_ofNat_of_lt' h.2
  unfold MessagingClient.frame DataFrameHeader.pack
  -- `struct.pack` raises when a value is out of range, so each field has to be shown to be within
  -- it
  rw [structPack_eq_some]
  · unfold Outgoing.frame AlfieBleServiceProtoDataFrame.toBytes
    dsimp only
    rw [hcount, hidx]
    unfold MessagingClient.outgoing
    dsimp only
    rw [hlen]
    rfl
  · intro f hf
    simp only [List.mem_cons, List.not_mem_nil, or_false] at hf
    rcases hf with rfl | rfl | rfl | rfl | rfl | rfl
    · decide
    · decide
    · exact seqId.toNat_lt
    · exact h.1
    · exact hi.trans h.2
    · exact h.2

/-- A send whose headers pack is a transfer of its frames. -/
theorem sendFragmented_outgoing (h : c.Packs data) :
    c.sendFragmented seqId data =
      transfer maxTxAttempts ackTimeoutMs (c.outgoing seqId data h).frames := by
  have hframes : (List.range (c.fragTotal data)).mapM (c.frame seqId data) =
      some (c.outgoing seqId data h).frames :=
    mapM_eq_some_map fun i hi => frame_outgoing h (List.mem_range.mp hi)
  unfold MessagingClient.sendFragmented
  rw [hframes]

/-- And one whose headers do not raises before anything is written. -/
theorem sendFragmented_refused (h : ¬ c.Packs data) :
    c.sendFragmented seqId data = .ret (.err .structError) := by
  rcases sendFragmented_cases c seqId data with ⟨-, hret⟩ | ⟨_, hpacks, -⟩
  · exact hret
  · exact absurd hpacks h

end Send

/-- The last fragment of a call completes the data that the service hands up. -/
theorem ServiceFit.handedUp {o : Outgoing} {callback : Option (TransportRxCallback Unit)}
    {now : UInt32} {p q : TransportBufferPool Unit Unit} {effects : List (RxEffect Unit)}
    (h : ServiceFit o p) (hinv : PoolInv p) (hquery : p.additionalQueryCb = none) {i : ℕ}
    (hi : i < o.count)
    (hstep : DataFrameStep callback none id now (o.frame i).fragment p q effects) :
    ∀ b, .transportRx b ∈ effects → b.data = o.data := by
  intro b hb
  cases hstep with
  | refused => exact absurd hb List.not_mem_nil
  | rejected => simp at hb
  | duplicate => simp at hb
  | success => simp at hb
  | invalidFinalSize => simp at hb
  -- only the last fragment of a fit context hands anything up
  | @complete j c b' q hq hpayload hidx hlast _ hb' =>
    obtain ⟨-, hsucc, hdata⟩ := h.accepted hinv hquery hi hq hidx
    have hcount : i + 1 = o.count := by
      rw [← hsucc, hlast, hq.fragTotal]
      exact o.fragTotal_toNat i
    obtain rfl : b = b' := by
      rcases List.mem_append.mp hb with hb | hb
      · simp at hb
      · split at hb
        · injection List.mem_singleton.mp hb
        · cases hb
    rw [hcount, o.take_count hpayload] at hdata
    rw [hb']
    exact hdata

/-! ### The invariant -/

/-- **The invariant**, in which `Sent` are the data the client has sent, and `Written` those that
the service has. Each direction has its own `look`, and neither side need be connected. -/
structure LinkInv (callback : TransportRxCallback Unit) (Sent Written : List UInt8 → Prop)
    (n : BleNet) : Prop where
  service : BleReceiverInv (some callback) n.service
  tasks : ∀ header ∈ n.ackTasks, ∃ f, header = headerOf f
  up : ∃ look, Provenance look Sent n.up n.clientWriter
    (fun o => ServiceFit o n.service.rxPool) n.handedUp
  down : ∃ look, Provenance look Written n.down n.serviceWriter
    (fun o => 0 < o.size ∧ ClientFit o n.client) n.messages

section Steps

variable {callback : TransportRxCallback Unit} {Sent Written : List UInt8 → Prop} {n n' : BleNet}

/-- Before the first connection nothing has been sent. -/
theorem LinkInv.init : LinkInv callback Sent Written (.unconnected callback) where
  service := { BleReceiverInv.init (some callback) with }
  tasks := fun _ h => absurd h List.not_mem_nil
  up := ⟨_, .init⟩
  down := ⟨_, .init⟩

/-- The client sends data: refused, or with a number of which at most parts of this very message are
left. -/
theorem LinkInv.clientSend (h : LinkInv callback Sent Written n) (seqId : UInt16)
    (data : List UInt8) (hsent : Sent data)
    (hfit : n.client.Packs data → SendLeftoversFit n seqId data) (base : ℕ) :
    LinkInv callback Sent Written { n with
      clientWriter := some (⟨seqId, data, base⟩, n.client.sendFragmented seqId data) } := by
  refine { h with up := ?_ }
  obtain ⟨look, hup⟩ := h.up
  by_cases hpacks : n.client.Packs data
  · obtain ⟨hchannel, hcontexts⟩ := hfit hpacks
    dsimp only
    rw [sendFragmented_outgoing hpacks]
    refine hup.start (n.client.outgoing seqId data hpacks) hsent ?_ ?_ _ _ _
    · -- what is still in the channel under the number is of an earlier send of the same frames
      intro f hf hseq
      obtain ⟨i, hi, hframe⟩ := hchannel _ hf (bleFrameTypeOf_data f) (by
        rw [AlfieBleServiceProtoDataFrame.ofBytes_toBytes]
        exact hseq)
      rw [frame_outgoing hpacks hi] at hframe
      exact ⟨i, hi, (AlfieBleServiceProtoDataFrame.toBytes_inj (Option.some.inj hframe)).symm⟩
    · -- a context of the service, which may be of an earlier connection
      intro j b hj hb hm
      refine hcontexts b (List.mem_of_getElem? hj) hb hm.seqId ?_ ?_
      · rw [hm.fragTotal]
        exact (n.client.outgoing seqId data hpacks).fragTotal_toNat 0
      · rw [hm.totalSizeBytes]
        exact (n.client.outgoing seqId data hpacks).totalSizeBytes_toNat 0
  · -- refused: the send ends without an effect
    refine ⟨look, ?_⟩
    dsimp only
    rw [sendFragmented_refused hpacks]
    exact hup.resume _ trivial

/-- The service writes data, which it refuses without a connection. -/
theorem LinkInv.serviceSend (h : LinkInv callback Sent Written n) (seqId : UInt16)
    (data : List UInt8) (hwritten : Written data)
    (hfit : n.service.Admits data → LeftoversFit n seqId data) (base : ℕ) :
    LinkInv callback Sent Written { n with
      serviceWriter := some (⟨seqId, data, base⟩, alfieBleServiceWrite n.service seqId data) } := by
  refine { h with down := ?_ }
  obtain ⟨look, hdown⟩ := h.down
  dsimp only
  rcases alfieBleServiceWrite_cases n.service seqId data with
    ⟨e, hret⟩ | ⟨o, hadmits, hsize, hcount, hframes, rfl, rfl, hwrite⟩
  · -- the service refuses the call, which then returns without an effect
    rw [hret]
    exact ⟨look, hdown.resume _ trivial⟩
  · -- it is accepted: what an earlier call left under the number has to be of the same message
    obtain ⟨hchannel, hctx⟩ := hfit hadmits
    rw [hwrite]
    refine hdown.start o hwritten ?_ ⟨by rw [hsize]; decide, ?_⟩ _ _ _
    · intro f hf hseq
      refine o.eq_frame_of_mem ?_
      rw [hframes]
      refine hchannel _ hf (bleFrameTypeOf_data f) ?_
      rwa [AlfieBleServiceProtoDataFrame.ofBytes_toBytes]
    · intro ctx hstored
      obtain ⟨htotal, hlt, hbuffer⟩ := hctx ctx hstored
      have htotal := htotal.trans hcount.symm
      rw [← hsize] at hbuffer
      exact ⟨htotal, htotal ▸ hlt, hbuffer⟩

/-- The client's send does its next effect. It goes on without a connection, where each send
raises. -/
theorem LinkInv.clientWriterStep (h : LinkInv callback Sent Written n) {call : BleCall}
    {p : Proc ClientError (List UInt8) (Status ClientError)}
    (hw : n.clientWriter = some (call, p)) (sent : Bool) :
    LinkInv callback Sent Written (n.clientWriterStep call sent p) := by
  obtain ⟨look, hup⟩ := h.up
  have hsends := hup.writer call p hw
  cases p with
  | ret r => exact { h with up := ⟨look, hup.cancel⟩ }
  | reset k => exact { h with up := ⟨look, hup.resume call hsends⟩ }
  | take t k =>
    unfold BleNet.clientWriterStep
    dsimp only
    split
    · exact { h with up := ⟨look, hup.resume call (hsends .ok)⟩ }
    · exact { h with up := ⟨look, hup.resume call (hsends _)⟩ }
  -- a write that raises puts nothing into the channel
  | send x k =>
    cases sent with
    | false => exact { h with up := ⟨look, hup.resume call (hsends.2 _)⟩ }
    | true =>
      rw [hw] at hup
      exact { h with up := ⟨look, hup.send⟩ }

/-- The service's call does its next effect, which without a connection is an error of
`bt_gatt_notify`. -/
theorem LinkInv.serviceWriterStep (h : LinkInv callback Sent Written n) {call : BleCall}
    {p : Proc Errno (List UInt8) Ret} (hw : n.serviceWriter = some (call, p)) (notified : Ret) :
    LinkInv callback Sent Written (n.serviceWriterStep call notified p) := by
  obtain ⟨look, hdown⟩ := h.down
  have hsends := hdown.writer call p hw
  cases p with
  -- the call returns, and its lane is free for the next one
  | ret r => exact { h with down := ⟨look, hdown.cancel⟩ }
  | reset k =>
    exact { h with service := { h.service with }, down := ⟨look, hdown.resume call hsends⟩ }
  | take t k =>
    unfold BleNet.serviceWriterStep
    dsimp only
    split
    · exact
        { h with service := { h.service with }, down := ⟨look, hdown.resume call (hsends .ok)⟩ }
    · exact { h with down := ⟨look, hdown.resume call (hsends _)⟩ }
  -- a notification that fails puts nothing into the channel; the retry loop goes on
  | send x k =>
    cases notified with
    | err e => exact { h with down := ⟨look, hdown.resume call (hsends.2 _)⟩ }
    | ok =>
      rw [hw] at hdown
      exact { h with down := ⟨look, hdown.send⟩ }

/-- **The client handles a notification**: a frame is one of a call of the service, so what it
completes is the data of that call. -/
theorem LinkInv.clientReceive (h : LinkInv callback Sent Written n) {buf : List UInt8}
    {down : List (List UInt8)} (hdown : n.down = buf :: down) :
    LinkInv callback Sent Written ({ n with down }.onNotification buf) := by
  obtain ⟨look, hprov⟩ := h.down
  rw [hdown] at hprov
  unfold BleNet.onNotification
  dsimp only
  have hcarried := hprov.channel buf List.mem_cons_self
  cases hcarried with
  | ack a =>
    rw [onNotification_ack]
    dsimp only [List.filterMap_nil]
    rw [List.append_nil, List.append_nil]
    exact { h with down := ⟨look, hprov.tail⟩ }
  | frame hframe =>
    obtain ⟨o, i, -, hi, rfl⟩ := hframe
    rw [onNotification_data]
    have hspec := handleRxPayload_spec n.client (headerOf (o.frame i)) (o.frame i).payload
    generalize (n.client.handleRxPayload (headerOf (o.frame i)) (o.frame i).payload).1 = c' at hspec
    generalize (n.client.handleRxPayload (headerOf (o.frame i)) (o.frame i).payload).2 = effects
      at hspec
    refine { h with tasks := ?_, down := ⟨look, hprov.receive ?_ ?_⟩ }
    · exact List.forall_mem_append.mpr
        ⟨h.tasks, fun x hx => ⟨o.frame i, hspec.ackHeader (mem_ackHeaders hx)⟩⟩
    · -- the call of the frame
      rintro o' j hj hf ⟨hsize, hfit⟩
      rw [hf] at hspec
      obtain ⟨hfit', -, hdelivered⟩ := hfit.step hj hsize hspec
      refine ⟨⟨hsize, hfit'⟩, fun m hm => ?_⟩
      obtain ⟨e, he, hme⟩ := List.mem_filterMap.mp hm
      cases e with
      | sendAck => cases hme
      | deliverMessage data =>
        obtain rfl := Option.some.inj hme
        exact hdelivered _ he
    · -- a call under another number
      rintro o' hseq ⟨hsize, hfit⟩
      exact ⟨hsize, hfit.other (fun heq => hseq (UInt16.toNat_inj.mp heq)) hspec⟩

/-- **The service handles a written value**, with the same argument for the sends of the client. -/
theorem LinkInv.serviceReceive (h : LinkInv callback Sent Written n) {buf : List UInt8}
    {up : List (List UInt8)} (hup : n.up = buf :: up) (now : UInt32) (notified : Ret) :
    LinkInv callback Sent Written ({ n with up }.onDataWrite now notified buf) := by
  obtain ⟨look, hprov⟩ := h.up
  obtain ⟨lookDown, hdown⟩ := h.down
  rw [hup] at hprov
  -- what the service notifies are ACKs, and only when the notification succeeds
  have hacks : ∀ x ∈ (if notified = .ok then
      (prvOnDataWrite now buf n.service).2.filterMap BleRxEffect.notified else []),
      ∃ a : AlfieBleServiceProtoDataAckFrame, x = a.toBytes := by
    intro x hx
    split at hx
    · exact ack_of_notified hx
    · cases hx
  refine
    { service := h.service.dataWrite now buf
      tasks := h.tasks
      up := ⟨look, ?_⟩
      down := ⟨lookDown, hdown.acks hacks⟩ }
  unfold BleNet.onDataWrite
  dsimp only
  cases hprov.channel buf List.mem_cons_self with
  -- an ACK may set the semaphore, and hands nothing up
  | ack a =>
    rw [prvOnDataWrite_ack]
    dsimp only [List.filterMap_nil]
    rw [List.append_nil]
    exact hprov.tail
  | frame hframe =>
    obtain ⟨o, i, -, hi, rfl⟩ := hframe
    rw [prvOnDataWrite_data]
    have hspec := handleDataFrame_spec n.service.transportRxCallback none id now
      (o.frame i).fragment n.service.rxPool
    dsimp only
    refine hprov.receive ?_ ?_
    · -- the send of the frame
      intro o' j hj hf hfit
      rw [hf] at hspec ⊢
      refine ⟨(hfit.step h.service.pool h.service.query hj hspec).1, fun m hm => ?_⟩
      obtain ⟨_, hmem, hme⟩ := List.mem_filterMap.mp hm
      obtain ⟨e, he, rfl⟩ := List.mem_map.mp hmem
      -- of the effects of the step only the callback hands something up
      cases e with
      | transportRx b =>
        obtain rfl := Option.some.inj hme
        exact hfit.handedUp h.service.pool h.service.query hj hspec b he
      | wrote => cases hme
      | netBufAddMem => cases hme
      | ack => cases hme
    · -- a send under another number
      intro o' hseq hfit
      exact hfit.other hseq hspec

/-- The task of a received frame writes an ACK or, without a connection, nothing. -/
theorem ack_of_sendAck {c : MessagingClient} {f : AlfieBleServiceProtoDataFrame} {sent : Bool}
    {x : List UInt8} (hx : x ∈ if sent then (c.sendAck (headerOf f)).toList else []) :
    ∃ a : AlfieBleServiceProtoDataAckFrame, x = a.toBytes := by
  cases hconnected : c.connected with
  | true =>
    rw [sendAck_headerOf hconnected] at hx
    split at hx
    · exact ⟨_, List.mem_singleton.mp hx⟩
    · cases hx
  | false =>
    unfold MessagingClient.sendAck at hx
    rw [if_pos hconnected] at hx
    split at hx <;> cases hx

/-- The ends take a step, as they do within one connection. -/
theorem LinkInv.act (h : LinkInv callback Sent Written n) {a : BleAction}
    (hcontinues : (LinkAction.act a).Continues n) (hsends : (LinkAction.act a).Sends Sent Written)
    (hstep : n.step a = some n') : LinkInv callback Sent Written n' := by
  obtain ⟨look, hup⟩ := h.up
  obtain ⟨lookDown, hdown⟩ := h.down
  cases bleStep_of_step hstep with
  | clientSend seqId data => exact h.clientSend seqId data hsends hcontinues _
  | clientCancel => exact { h with up := ⟨look, hup.cancel⟩ }
  | clientWriter sent hw => exact h.clientWriterStep hw sent
  | clientReceive hdown => exact h.clientReceive hdown
  | @ackTask k sent header hk =>
    refine
      { h with
        tasks := fun x hx => h.tasks x (List.eraseIdx_subset hx)
        up := ⟨look, hup.acks fun x hx => ?_⟩ }
    -- the task of an earlier connection writes its ACK over this one
    obtain ⟨f, rfl⟩ := h.tasks header (List.mem_of_getElem? hk)
    exact ack_of_sendAck hx
  | serviceSend seqId data => exact h.serviceSend seqId data hsends hcontinues _
  | serviceWriter notified hw => exact h.serviceWriterStep hw notified
  | serviceReceive now notified hup => exact h.serviceReceive hup now notified
  | release i =>
    exact
      { h with
        service := h.service.release i
        up := ⟨look, hup.refit fun o hfit => hfit.release i⟩ }

/-- **Step lemma**: what happens to the connection only takes values from the channels and contexts
from the client. -/
theorem LinkInv.step (h : LinkInv callback Sent Written n) {a : LinkAction}
    (hcontinues : a.Continues n) (hsends : a.Sends Sent Written)
    (hstep : n.linkStep a = some n') : LinkInv callback Sent Written n' := by
  obtain ⟨look, hup⟩ := h.up
  obtain ⟨lookDown, hdown⟩ := h.down
  unfold BleNet.linkStep at hstep
  cases a with
  | act a =>
    dsimp only at hstep
    split at hstep
    · exact h.act hcontinues hsends hstep
    · cases hstep
  | clientDisconnected =>
    dsimp only at hstep
    split at hstep
    · obtain rfl := Option.some.inj hstep
      refine { h with down := ⟨lookDown, ?_⟩ }
      -- the contexts are gone
      exact (hdown.subset (List.nil_subset _)).refit fun o hfit =>
        ⟨hfit.1, fun _ hctx => by cases hctx⟩
    · cases hstep
  | serviceDisconnected =>
    -- the contexts of the service stay
    dsimp only at hstep
    split at hstep
    · obtain rfl := Option.some.inj hstep
      exact
        { h with
          service := { h.service with }
          up := ⟨look, hup.subset (List.nil_subset _)⟩ }
    · cases hstep
  | connect mtu =>
    -- whatever was still under way is lost with the old connection
    dsimp only at hstep
    split at hstep
    · obtain rfl := Option.some.inj hstep
      exact
        { h with
          service := { h.service with }
          up := ⟨look, hup.subset (List.nil_subset _)⟩
          down := ⟨lookDown, hdown.subset (List.nil_subset _)⟩ }
    · cases hstep

end Steps

/-! ### The result -/

/-- **Nothing is delivered that was not sent**, in either direction and over any number of
connections. No hypothesis says when the sides notice a loss, or in which order. -/
theorem link_delivers_sent (callback : TransportRxCallback Unit) (as : List LinkAction) (n : BleNet)
    (h : Steps BleNet.linkStep (fun n a => a.Continues n) (.unconnected callback) as n) :
    (∀ m ∈ n.handedUp, m ∈ clientSends as) ∧ ∀ m ∈ n.messages, m ∈ serviceSends as := by
  have hinv : LinkInv callback (· ∈ clientSends as) (· ∈ serviceSends as) n := by
    refine h.mem.invariant (fun n a n' hn ha hstep => hn.step ha.1 ?_ hstep) .init
    -- what an action of the run sends is among what the run sends
    unfold LinkAction.Sends
    split
    · exact List.mem_filterMap.mpr ⟨_, ha.2, rfl⟩
    · exact List.mem_filterMap.mpr ⟨_, ha.2, rfl⟩
    · trivial
  obtain ⟨_, hup⟩ := hinv.up
  obtain ⟨_, hdown⟩ := hinv.down
  exact ⟨hup.delivered, hdown.delivered⟩

instance (n : BleNet) (a : LinkAction) : Decidable (a.Continues n) :=
  a.casesOn (motive := fun a => Decidable (a.Continues n))
    (fun a => a.casesOn (motive := fun a => Decidable ((LinkAction.act a).Continues n))
      (fun seqId data => inferInstanceAs (Decidable (
        (data.length < 2 ^ 16 ∧ n.client.fragTotal data < 2 ^ 8) →
          SendLeftoversFit n seqId data)))
      instDecidableTrue (fun _ => instDecidableTrue) instDecidableTrue
      (fun _ _ => instDecidableTrue)
      (fun seqId data => inferInstanceAs (Decidable (
        (0 < data.length ∧ data.length ≤ alfieBleServiceMaxRxBufferSizeBytes ∧
          n.service.initialized = true ∧ n.service.conn = true) → LeftoversFit n seqId data)))
      (fun _ => instDecidableTrue) (fun _ _ => instDecidableTrue) fun _ => instDecidableTrue)
    instDecidableTrue instDecidableTrue fun _ => instDecidableTrue

/-- The client connects and sends the first of two fragments; then the connection is lost. The
service keeps the context of the fragment. -/
def lostConnection (seqId : UInt16) : List LinkAction :=
  [.connect 23, .act (.clientSend seqId (List.replicate 13 1)), .act (.clientWriter true),
    .act (.clientWriter true), .act (.serviceReceive 0 .ok), .clientDisconnected,
    .act (.clientWriter false), .act .clientCancel, .serviceDisconnected]

/-- It connects again, and both fragments of another message of the same length arrive. -/
def nextConnection (seqId : UInt16) : List LinkAction :=
  [.connect 23, .act (.clientSend seqId (List.replicate 13 2)), .act (.clientWriter true),
    .act (.clientWriter true), .act (.serviceReceive 0 .ok), .act .clientReceive,
    .act (.clientWriter true), .act (.clientWriter true), .act (.clientWriter true),
    .act (.serviceReceive 0 .ok)]

/-- Under another number the part from before is not continued, and the second message is handed
up. -/
theorem link_delivers_sent_nextConnection : ∃ n : BleNet,
    Steps BleNet.linkStep (fun n a => a.Continues n) (.unconnected fun _ => 1)
      (lostConnection 7 ++ nextConnection 8) n ∧ n.handedUp = [List.replicate 13 2] ∧
      (∀ m ∈ n.handedUp, m ∈ clientSends (lostConnection 7 ++ nextConnection 8)) ∧
      ∀ m ∈ n.messages, m ∈ serviceSends (lostConnection 7 ++ nextConnection 8) := by
  have hend : ∃ n ∈ checkRun BleNet.linkStep (fun n a => a.Continues n) (.unconnected fun _ => 1)
      (lostConnection 7 ++ nextConnection 8), n.handedUp = [List.replicate 13 2] := by
    decide +kernel
  obtain ⟨n, hn, hup⟩ := hend
  have hrun := steps_of_checkRun hn
  exact ⟨n, hrun, hup, link_delivers_sent _ _ n hrun⟩

end DectCommunicator
