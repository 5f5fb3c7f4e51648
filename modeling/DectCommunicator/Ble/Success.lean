import DectCommunicator.Ble.Ends
import DectCommunicator.Ble.OneWay

/-!
# Success of a BLE send means delivery

Neither sender looks at the ACK that ends its wait. It is good all the same as long as
`BleAcksMatch` holds: a call draws a `seq_id` of which nothing is left, and an ACK that is handled
while a last fragment is in hand is the ACK of that fragment. In every run under this condition a
call that returns success has been delivered since it began (`ble_ok_is_delivered`).

Without it success says nothing. In `refused_send_returns` the ACK of a message comes late, so the
message is sent four times and received four times. That takes every context of the service, and the
second ACK ends the wait for the next message, which the service has refused.
-/

namespace DectCommunicator

open LittleEndian Machine StopAndWait

/-! ### ACKs -/

/-- The ACK of the last frame of a call, which is sent only by a receiver that delivers the data. -/
def Outgoing.lastAck (o : Outgoing) : AlfieBleServiceProtoDataAckFrame :=
  ⟨o.seqId, (o.frame (o.count - 1)).fragIdx⟩

/-- The ACK of a frame is that of the last frame only for the last frame, the indices being
distinct. -/
theorem Outgoing.eq_last {o : Outgoing} {i : ℕ} (hi : i < o.count)
    (h : (o.frame i).fragIdx = o.lastAck.fragIdx) : i + 1 = o.count := by
  have hpos := o.count_pos
  have hidx := congrArg UInt8.toNat h
  rw [show o.lastAck.fragIdx = (o.frame (o.count - 1)).fragIdx from rfl, o.fragIdx_toNat hi,
    o.fragIdx_toNat (Nat.sub_lt hpos Nat.one_pos)] at hidx
  omega

/-- A channel with no data frame under the `seq_id` has only frames of the call, there being
none. -/
theorem onlyFrames_of_noData {o : Outgoing} {channel : List (List UInt8)}
    (h : NoData o.seqId channel) : OnlyFrames o channel := by
  intro f hf hseq
  refine absurd ?_ (h _ hf (bleFrameTypeOf_data f))
  rwa [AlfieBleServiceProtoDataFrame.ofBytes_toBytes]

/-- And with no ACK under it the ACK of the last frame is not under way. -/
theorem lastAck_not_mem {o : Outgoing} {channel : List (List UInt8)}
    (h : NoAck o.seqId channel) : o.lastAck.toBytes ∉ channel := by
  intro hmem
  refine h _ hmem (bleFrameTypeOf_ack _) ?_
  rw [AlfieBleServiceProtoDataAckFrame.ofBytes_toBytes]
  rfl

/-- Under the condition the ACK that comes in while the last frame is in hand is its own. -/
theorem MatchesInHand.eq_lastAck {inHand : Option (List UInt8)}
    {a : AlfieBleServiceProtoDataAckFrame} (h : MatchesInHand inHand a.toBytes) {x : List UInt8}
    (hx : x ∈ inHand) {o : Outgoing} (hlast : o.frames.getLast? = some x) :
    a = o.lastAck := by
  rw [o.getLast?_frames] at hlast
  obtain rfl := Option.some.inj hlast
  have hpos := o.count_pos
  -- the header of the last frame shows that it is the last
  have hsucc : (o.frame (o.count - 1)).fragIdx + 1 = (o.frame (o.count - 1)).fragTotal := by
    refine UInt8.toNat_inj.mp ?_
    have hcount : o.count < 2 ^ 8 := o.count_lt
    rw [UInt8.toNat_add, o.fragTotal_toNat, o.fragIdx_toNat (Nat.sub_lt hpos Nat.one_pos)]
    change (o.count - 1 + 1) % 2 ^ 8 = o.count
    rw [Nat.sub_add_cancel hpos]
    exact Nat.mod_eq_of_lt hcount
  have hacks := h (bleFrameTypeOf_ack a) _ hx (by
    rw [AlfieBleServiceProtoDataFrame.ofBytes_toBytes]
    exact hsucc)
  unfold acksFrame at hacks
  rw [AlfieBleServiceProtoDataAckFrame.ofBytes_toBytes,
    AlfieBleServiceProtoDataFrame.ofBytes_toBytes] at hacks
  exact hacks

/-! ### The two directions -/

/-- The direction from the client to the service, where the flag is the client's `_ack_event`. -/
def BleNet.upward (n : BleNet) : OneWay ClientError where
  writer := n.clientWriter
  sent := n.clientSent
  returned := n.clientReturned
  delivered := n.handedUp
  channel := n.up
  given := n.client.ackEvent = true
  acked o := o.lastAck.toBytes ∈ n.down
  fit o := ServiceFit o n.service.rxPool

/-- The direction from the service to the client, where the flag is the semaphore. The ACK may still
be a task of the client's event loop. -/
def BleNet.downward (n : BleNet) : OneWay Errno where
  writer := n.serviceWriter
  sent := n.serviceSent
  returned := n.serviceReturned
  delivered := n.messages
  channel := n.down
  given := 0 < n.service.ackSem
  acked o := o.lastAck.toBytes ∈ n.up ∨ ∃ header ∈ n.ackTasks, header.seqId = o.seqId.toNat ∧
    header.fragIdx = o.lastAck.fragIdx.toNat
  fit o := 0 < o.size ∧ ClientFit o n.client

/-- **The invariant of the two directions**, each of which has its channel and the ACKs in the
other's. -/
structure BleNetInv (n : BleNet) : Prop where
  upward : OneWayInv maxTxAttempts ackTimeoutMs n.upward
  downward : OneWayInv alfieBleServiceTxAttempts alfieBleServiceAckTimeoutMs n.downward

section Steps

variable {callback : TransportRxCallback Unit} {n n' : BleNet}

/-- When the client has connected there are no calls, so nothing is claimed of any. -/
theorem BleNetInv.init (mtu : ℕ) (callback : TransportRxCallback Unit) :
    BleNetInv (.init mtu callback) where
  upward :=
    ⟨fun _ h => absurd h List.not_mem_nil, fun _ _ h => (by cases h), fun _ _ h => (by cases h)⟩
  downward :=
    ⟨fun _ h => absurd h List.not_mem_nil, fun _ _ h => (by cases h), fun _ _ h => (by cases h)⟩

/-! ### The senders -/

/-- A send of the client begins: refused, or with a number of which nothing is left on either
side. -/
theorem BleNetInv.clientSend (h : BleNetInv n) (seqId : UInt16) (data : List UInt8)
    (hfree : n.client.Packs data → NoData seqId n.up ∧ NoAck seqId n.down ∧
      ∀ b ∈ n.service.rxPool.contexts, b.state = .receiving → b.seqId ≠ seqId) :
    BleNetInv { n with
      clientWriter := some (⟨seqId, data, n.handedUp.length⟩,
        n.client.sendFragmented seqId data) } where
  downward := h.downward
  upward := by
    refine h.upward.start (by decide) seqId data ?_
    rcases sendFragmented_cases n.client seqId data with ⟨-, hret⟩ | ⟨o, hpacks, rfl, rfl, hsend⟩
    · exact Or.inl ⟨_, hret⟩
    · obtain ⟨hdata, hack, hfresh⟩ := hfree hpacks
      exact Or.inr ⟨o, rfl, hsend, onlyFrames_of_noData hdata, serviceFit_of_fresh hfresh,
        lastAck_not_mem hack⟩

/-- A call of the service begins. Besides the channels, the tasks of the client count here, and a
context that an abandoned call has left under the number. -/
theorem BleNetInv.serviceSend (h : BleNetInv n) (seqId : UInt16) (data : List UInt8)
    (hfree : n.service.Admits data → NoData seqId n.down ∧ NoAck seqId n.up ∧
      (∀ header ∈ n.ackTasks, header.seqId ≠ seqId.toNat) ∧
      n.client.rxContexts seqId.toNat = none) :
    BleNetInv { n with
      serviceWriter := some (⟨seqId, data, n.messages.length⟩,
        alfieBleServiceWrite n.service seqId data) } where
  upward := h.upward
  downward := by
    refine h.downward.start (by decide) seqId data ?_
    rcases alfieBleServiceWrite_cases n.service seqId data with
      ⟨e, hret⟩ | ⟨o, hadmits, hsize, -, -, rfl, rfl, hwrite⟩
    · -- the service refuses the call: it cannot end with success
      exact Or.inl ⟨e, hret⟩
    · obtain ⟨hdata, hack, htasks, hctx⟩ := hfree hadmits
      refine Or.inr ⟨o, rfl, hwrite, onlyFrames_of_noData hdata,
        ⟨by rw [hsize]; decide, fun x hx => ?_⟩, ?_⟩
      · rw [hctx] at hx
        cases hx
      · -- an ACK of the last fragment would be in the channel, or still to be sent by a task of the
        -- client
        rintro (hmem | ⟨header, hmem, hseq, -⟩)
        · exact lastAck_not_mem hack hmem
        · exact htasks header hmem hseq

/-- A data frame joins the channel of the other direction's ACKs and is none of them. -/
theorem lastAck_mem_append {o : Outgoing} {channel : List (List UInt8)}
    {f : AlfieBleServiceProtoDataFrame} (h : o.lastAck.toBytes ∈ channel ++ [f.toBytes]) :
    o.lastAck.toBytes ∈ channel :=
  (List.mem_append.mp h).resolve_right fun hmem =>
    ack_ne_data _ f (List.mem_singleton.mp hmem)

/-- The client's send does its next effect, of which the other direction sees a data frame at
most. -/
theorem BleNetInv.clientWriter (h : BleNetInv n) (hends : EndsInv callback n) {call : BleCall}
    {p : Proc ClientError (List UInt8) (Status ClientError)}
    (hw : n.clientWriter = some (call, p)) (sent : Bool) :
    BleNetInv (n.clientWriterStep call sent p) := by
  cases p with
  | ret r => exact ⟨h.upward.ret hw, h.downward⟩
  | reset k => exact ⟨h.upward.reset hw Bool.noConfusion, h.downward⟩
  | take t k =>
    -- the wait ends, on the event or by its timeout
    unfold BleNet.clientWriterStep
    dsimp only
    split
    · next hset => exact ⟨h.upward.take_ok (by decide) hw hset _, h.downward⟩
    · exact ⟨h.upward.take_err hw _, h.downward⟩
  | send x k =>
    obtain ⟨⟨f, rfl⟩, -⟩ := hends.clientWriter _ _ hw
    cases sent with
    | false => exact ⟨h.upward.send_err hw _, h.downward⟩
    | true =>
      refine ⟨h.upward.send_ok hw, ?_⟩
      exact h.downward.mono rfl rfl rfl id (List.prefix_refl _) fun o hchannel hfit =>
        ⟨hchannel, hfit, fun hacked => Or.inl (hacked.imp_left lastAck_mem_append)⟩

/-- The service's call does its next effect, in the same way. -/
theorem BleNetInv.serviceWriter (h : BleNetInv n) (hends : EndsInv callback n) {call : BleCall}
    {p : Proc Errno (List UInt8) Ret} (hw : n.serviceWriter = some (call, p)) (notified : Ret) :
    BleNetInv (n.serviceWriterStep call notified p) := by
  cases p with
  | ret r => exact ⟨h.upward, h.downward.ret hw⟩
  | reset k => exact ⟨h.upward, h.downward.reset hw (lt_irrefl 0)⟩
  | take t k =>
    -- the wait ends, on the semaphore or by its timeout
    unfold BleNet.serviceWriterStep
    dsimp only
    split
    · next hset => exact ⟨h.upward, h.downward.take_ok (by decide) hw hset _⟩
    · exact ⟨h.upward, h.downward.take_err hw _⟩
  | send x k =>
    obtain ⟨⟨f, rfl⟩, -⟩ := hends.serviceWriter _ _ hw
    cases notified with
    | err e => exact ⟨h.upward, h.downward.send_err hw _⟩
    | ok =>
      refine ⟨?_, h.downward.send_ok hw⟩
      exact h.upward.mono rfl rfl rfl id (List.prefix_refl _) fun o hchannel hfit =>
        ⟨hchannel, hfit, fun hacked => Or.inl (lastAck_mem_append hacked)⟩

/-! ### The receivers -/

/-- The client handles a notification: an ACK for its own send, or a frame of the service's call. -/
theorem BleNetInv.clientReceive (h : BleNetInv n) (hends : EndsInv callback n) {buf : List UInt8}
    {down : List (List UInt8)} (hdown : n.down = buf :: down)
    (hmatch : ∀ call p, n.clientWriter = some (call, p) →
      MatchesInHand (p.inHand n.clientSent) buf) :
    BleNetInv ({ n with down }.onNotification buf) := by
  have hsub : down ⊆ n.down := by
    rw [hdown]
    exact List.subset_cons_self _ _
  have hmem : buf ∈ n.down := by
    rw [hdown]
    exact List.mem_cons_self
  unfold BleNet.onNotification
  dsimp only
  cases hends.down buf hmem with
  | ack a =>
    rw [onNotification_ack]
    dsimp only [List.filterMap_nil]
    rw [List.append_nil, List.append_nil]
    constructor
    · -- the ACK sets the event, and is no longer under way
      have hup := h.upward.ack True fun call p hw x hx o hlast => by
        rw [(hmatch call p hw).eq_lastAck hx hlast] at hmem
        exact hmem
      exact hup.mono rfl rfl rfl (fun _ => trivial) (List.prefix_refl _) fun o hchannel hfit =>
        ⟨hchannel, hfit, fun hacked => Or.inl (hsub hacked)⟩
    · exact h.downward.mono rfl rfl rfl id (List.prefix_refl _) fun o hchannel hfit =>
        ⟨hchannel.subset hsub, hfit, Or.inl⟩
  | data f =>
    rw [onNotification_data]
    have hspec := handleRxPayload_spec n.client (headerOf f) f.payload
    generalize (n.client.handleRxPayload (headerOf f) f.payload).1 = c' at hspec
    generalize (n.client.handleRxPayload (headerOf f) f.payload).2 = effects at hspec
    have hheader : ∀ x ∈ effects.filterMap ClientEffect.ackHeader, x = headerOf f := fun x hx =>
      hspec.ackHeader (mem_ackHeaders hx)
    constructor
    · exact h.upward.mono rfl rfl rfl (fun hset => hspec.config.2.2.symm.trans hset)
        (List.prefix_refl _) fun o hchannel hfit =>
          ⟨hchannel, hfit, fun hacked => Or.inl (hsub hacked)⟩
    · refine h.downward.mono rfl rfl rfl id (List.prefix_append _ _) fun o hchannel hfit => ?_
      obtain ⟨hsize, hfit⟩ := hfit
      -- only a frame of the call can bear its `seq_id`
      by_cases hseq : f.seqId = o.seqId
      · obtain ⟨i, hi, rfl⟩ := hchannel f hmem hseq
        obtain ⟨hfit, hlast, -⟩ := hfit.step hi hsize hspec
        refine ⟨hchannel.subset hsub, ⟨hsize, hfit⟩, ?_⟩
        rintro (hup | ⟨header, htask, hheaderSeq, hheaderIdx⟩)
        · exact Or.inl (Or.inl hup)
        rcases List.mem_append.mp htask with htask | htask
        · exact Or.inl (Or.inr ⟨header, htask, hheaderSeq, hheaderIdx⟩)
        · -- a task that is new is the ACK of this very frame
          obtain rfl := hheader header htask
          have hcount := o.eq_last hi (UInt8.toNat_inj.mp hheaderIdx)
          refine Or.inr ?_
          change o.data ∈ (n.messages ++ effects.filterMap ClientEffect.message).drop
            n.messages.length
          rw [List.drop_left]
          exact List.mem_filterMap.mpr ⟨_, hlast _ (mem_ackHeaders htask) hcount, rfl⟩
      · -- of another call: nothing of this one is acknowledged or changed
        have hne : (headerOf f).seqId ≠ o.seqId.toNat := fun heq => hseq (UInt16.toNat_inj.mp heq)
        refine ⟨hchannel.subset hsub, ⟨hsize, hfit.other hne hspec⟩, fun hacked => Or.inl ?_⟩
        refine hacked.imp_right fun ⟨header, htask, hheaderSeq, hheaderIdx⟩ => ?_
        refine ⟨header, (List.mem_append.mp htask).resolve_right fun htask => ?_, hheaderSeq,
          hheaderIdx⟩
        rw [hheader header htask] at hheaderSeq
        exact hne hheaderSeq

/-- The task of an ACK runs: the ACK changes from a task to a value in the channel, or is lost. -/
theorem BleNetInv.ackTask (h : BleNetInv n) (hends : EndsInv callback n) {k : ℕ}
    {header : DataFrameHeader} (hk : n.ackTasks[k]? = some header) (sent : Bool) :
    BleNetInv { n with
      ackTasks := n.ackTasks.eraseIdx k
      up := n.up ++ if sent then (n.client.sendAck header).toList else [] } := by
  have htask : header ∈ n.ackTasks := List.mem_of_getElem? hk
  obtain ⟨f, rfl, hack⟩ := hends.ack_of_task htask sent
  have herase : n.ackTasks.eraseIdx k ⊆ n.ackTasks := List.eraseIdx_subset
  generalize (if sent then (n.client.sendAck (headerOf f)).toList else []) = acks at hack
  constructor
  · -- the other direction sees an ACK among its data frames
    refine h.upward.mono rfl rfl rfl id (List.prefix_refl _) fun o hchannel hfit =>
      ⟨hchannel.append fun g hg _ => ?_, hfit, Or.inl⟩
    exact absurd (hack _ hg).symm (ack_ne_data _ g)
  · refine h.downward.mono rfl rfl rfl id (List.prefix_refl _) fun o hchannel hfit =>
      ⟨hchannel, hfit, fun hacked => Or.inl ?_⟩
    -- the task was the ACK under way that the channel now carries
    rcases hacked with hup | ⟨x, hx, hseq, hidx⟩
    · rcases List.mem_append.mp hup with hup | hup
      · exact Or.inl hup
      · have heq := AlfieBleServiceProtoDataAckFrame.toBytes_inj (hack _ hup)
        refine Or.inr ⟨headerOf f, htask, ?_, ?_⟩
        · exact congrArg (fun a => a.seqId.toNat) heq.symm
        · exact congrArg (fun a => a.fragIdx.toNat) heq.symm
    · exact Or.inr ⟨x, herase hx, hseq, hidx⟩

/-- The service handles a written value: an ACK for its call, or a frame of the client's send. -/
theorem BleNetInv.serviceReceive (h : BleNetInv n) (hends : EndsInv callback n)
    {buf : List UInt8} {up : List (List UInt8)} (hup : n.up = buf :: up) (now : UInt32)
    (notified : Ret) (hmatch : ∀ call p, n.serviceWriter = some (call, p) →
      MatchesInHand (p.inHand n.serviceSent) buf) :
    BleNetInv ({ n with up }.onDataWrite now notified buf) := by
  have hsub : up ⊆ n.up := by
    rw [hup]
    exact List.subset_cons_self _ _
  have hmem : buf ∈ n.up := by
    rw [hup]
    exact List.mem_cons_self
  unfold BleNet.onDataWrite
  dsimp only
  cases hends.up buf hmem with
  | ack a =>
    rw [prvOnDataWrite_ack]
    dsimp only [List.filterMap_nil]
    rw [ite_self, List.append_nil, List.append_nil]
    constructor
    · exact h.upward.mono rfl rfl rfl id (List.prefix_refl _) fun o hchannel hfit =>
        ⟨hchannel.subset hsub, hfit, Or.inl⟩
    · -- the ACK gives the semaphore
      have hdown := h.downward.ack True fun call p hw x hx o hlast => by
        rw [(hmatch call p hw).eq_lastAck hx hlast] at hmem
        exact Or.inl hmem
      exact hdown.mono rfl rfl rfl (fun _ => trivial) (List.prefix_refl _) fun o hchannel hfit =>
        ⟨hchannel, hfit, fun hacked => Or.inl (hacked.imp_left fun hacked => hsub hacked)⟩
  | data f =>
    rw [prvOnDataWrite_data]
    have hspec := handleDataFrame_spec n.service.transportRxCallback none id now f.fragment
      n.service.rxPool
    dsimp only
    generalize (handleDataFrame n.service.transportRxCallback none id now f.fragment
      n.service.rxPool).1 = q at hspec ⊢
    generalize (handleDataFrame n.service.transportRxCallback none id now f.fragment
      n.service.rxPool).2 = effects at hspec ⊢
    have hack : ∀ x ∈ (if notified = .ok then
        (effects.map (bleRxEffect f)).filterMap BleRxEffect.notified else []), .ack ∈ effects ∧
        x = (AlfieBleServiceProtoDataAckFrame.mk f.seqId f.fragIdx).toBytes := by
      intro x hx
      split at hx
      · exact mem_notified hx
      · cases hx
    generalize (if notified = .ok then
      (effects.map (bleRxEffect f)).filterMap BleRxEffect.notified else []) = acks at hack ⊢
    constructor
    · refine h.upward.mono rfl rfl rfl id (List.prefix_append _ _) fun o hchannel hfit => ?_
      -- only a frame of the call can bear its `seq_id`
      by_cases hseq : f.seqId = o.seqId
      · obtain ⟨i, hi, rfl⟩ := hchannel f hmem hseq
        obtain ⟨hfit, hlast⟩ := ServiceFit.step hfit hends.service.pool hends.service.query hi hspec
        refine ⟨hchannel.subset hsub, hfit, fun hacked => ?_⟩
        rcases List.mem_append.mp hacked with hdown | hdown
        · exact Or.inl hdown
        · -- the ACK of the last frame is new, so the message is handed up in this step
          obtain ⟨hmemack, hbytes⟩ := hack _ hdown
          have heq := AlfieBleServiceProtoDataAckFrame.toBytes_inj hbytes
          have hcount := o.eq_last hi (congrArg (fun a => a.fragIdx) heq).symm
          have hcallback : n.service.transportRxCallback.isSome = true := by
            rw [hends.service.callback]
            rfl
          obtain ⟨b, hb, hdata⟩ := hlast hmemack hcount hcallback
          refine Or.inr ?_
          change o.data ∈ (n.handedUp ++ _).drop n.handedUp.length
          rw [List.drop_left, ← hdata]
          exact mem_handedUp hb
      · refine ⟨hchannel.subset hsub, ServiceFit.other hfit hseq hspec, fun hacked => Or.inl ?_⟩
        refine (List.mem_append.mp hacked).resolve_right fun hdown => hseq ?_
        exact (congrArg (fun a => a.seqId)
          (AlfieBleServiceProtoDataAckFrame.toBytes_inj (hack _ hdown).2)).symm
    · -- what is notified is an ACK, among the data frames of the service
      refine h.downward.mono rfl rfl rfl id (List.prefix_refl _) fun o hchannel hfit =>
        ⟨hchannel.append fun g hg _ => ?_, hfit,
          fun hacked => Or.inl (hacked.imp_left fun hacked => hsub hacked)⟩
      exact absurd (hack _ hg).2.symm (ack_ne_data _ g)

/-- The consumer of the service releases a message, which leaves the parts that are being
received. -/
theorem BleNetInv.release (h : BleNetInv n) (i : ℕ) :
    BleNetInv
      { n with service := { n.service with rxPool := releaseReferenced n.service.rxPool i } } :=
  ⟨h.upward.mono rfl rfl rfl id (List.prefix_refl _) fun _ hchannel hfit =>
      ⟨hchannel, ServiceFit.release hfit i, Or.inl⟩,
    h.downward⟩

/-- **Step lemma**: under the condition each step keeps both directions. -/
theorem BleNetInv.step (h : BleNetInv n) (hends : EndsInv callback n) {a : BleAction}
    (hmatch : BleAcksMatch n a) (hstep : n.step a = some n') : BleNetInv n' := by
  cases bleStep_of_step hstep with
  | clientSend seqId data => exact h.clientSend seqId data hmatch
  | clientCancel => exact ⟨h.upward.cancel, h.downward⟩
  | clientWriter sent hw => exact h.clientWriter hends hw sent
  | clientReceive hdown => exact h.clientReceive hends hdown (hmatch _ (by rw [hdown]; rfl))
  | ackTask sent hk => exact h.ackTask hends hk sent
  | serviceSend seqId data => exact h.serviceSend seqId data hmatch
  | serviceWriter notified hw => exact h.serviceWriter hends hw notified
  | serviceReceive now notified hup =>
    exact h.serviceReceive hends hup now notified (hmatch _ (by rw [hup]; rfl))
  | release i => exact h.release i

end Steps

/-! ### The result -/

/-- **Success means delivery.** In a run in which no ACK is taken for another's, every message of a
successful call has been delivered since the call began, in both directions. The run is arbitrary
otherwise: sends fail and are cancelled, ACKs are lost, and the two directions interleave. -/
theorem ble_ok_is_delivered (mtu : ℕ) (callback : TransportRxCallback Unit) (as : List BleAction)
    (n : BleNet) (hrun : Steps BleNet.step BleAcksMatch (.init mtu callback) as n) :
    (∀ call, (call, .ok) ∈ n.clientReturned → call.data ∈ n.handedUp.drop call.base) ∧
      ∀ call, (call, .ok) ∈ n.serviceReturned → call.data ∈ n.messages.drop call.base := by
  have hinv : EndsInv callback n ∧ BleNetInv n :=
    hrun.invariant (P := fun n => EndsInv callback n ∧ BleNetInv n)
      (fun s a t hs hmatch hstep => ⟨hs.1.step hstep, hs.2.step hs.1 hmatch hstep⟩)
      ⟨.init mtu callback, .init mtu callback⟩
  exact ⟨hinv.2.upward.returned, hinv.2.downward.returned⟩

/-- What is said of a suspended call can be decided, there being at most one. -/
instance decidableWriting {ε : Type} (w : Option (BleCall × Proc ε (List UInt8) (Status ε)))
    (M : Proc ε (List UInt8) (Status ε) → Prop) [DecidablePred M] :
    Decidable (∀ call p, w = some (call, p) → M p) :=
  decidable_of_iff (∀ x ∈ w, M x.2)
    ⟨fun h call p hw => h (call, p) hw, fun h x hx => h x.1 x.2 hx⟩

instance (inHand : Option (List UInt8)) (buf : List UInt8) :
    Decidable (MatchesInHand inHand buf) := by
  unfold MatchesInHand acksFrame
  infer_instance

instance (n : BleNet) (a : BleAction) : Decidable (BleAcksMatch n a) :=
  a.casesOn (motive := fun a => Decidable (BleAcksMatch n a))
    (fun seqId data => inferInstanceAs (Decidable (
      (data.length < 2 ^ 16 ∧ n.client.fragTotal data < 2 ^ 8) →
        (∀ buf ∈ n.up, bleFrameTypeOf buf = some .data →
          (AlfieBleServiceProtoDataFrame.ofBytes buf).seqId ≠ seqId) ∧
        (∀ buf ∈ n.down, bleFrameTypeOf buf = some .dataAck →
          (AlfieBleServiceProtoDataAckFrame.ofBytes buf).seqId ≠ seqId) ∧
        ∀ b ∈ n.service.rxPool.contexts, b.state = .receiving → b.seqId ≠ seqId)))
    instDecidableTrue (fun _ => instDecidableTrue)
    (inferInstanceAs (Decidable (∀ buf ∈ n.down.head?, ∀ call p, n.clientWriter = some (call, p) →
      MatchesInHand (p.inHand n.clientSent) buf)))
    (fun _ _ => instDecidableTrue)
    (fun seqId data => inferInstanceAs (Decidable (
      (0 < data.length ∧ data.length ≤ alfieBleServiceMaxRxBufferSizeBytes ∧
        n.service.initialized = true ∧ n.service.conn = true) →
        (∀ buf ∈ n.down, bleFrameTypeOf buf = some .data →
          (AlfieBleServiceProtoDataFrame.ofBytes buf).seqId ≠ seqId) ∧
        (∀ buf ∈ n.up, bleFrameTypeOf buf = some .dataAck →
          (AlfieBleServiceProtoDataAckFrame.ofBytes buf).seqId ≠ seqId) ∧
        (∀ header ∈ n.ackTasks, header.seqId ≠ seqId.toNat) ∧
        n.client.rxContexts seqId.toNat = none)))
    (fun _ => instDecidableTrue)
    (fun _ _ => inferInstanceAs (Decidable (∀ buf ∈ n.up.head?, ∀ call p,
      n.serviceWriter = some (call, p) → MatchesInHand (p.inHand n.serviceSent) buf)))
    fun _ => instDecidableTrue

/-- A message each way, the two calls interleaving, so each channel holds an ACK of the other
direction. -/
def oneEachWay : List BleAction :=
  [.clientSend 5 [1, 2, 3], .clientWriter true, .clientWriter true, .serviceSend 9 [4, 5],
    .serviceReceive 10 .ok, .serviceWriter .ok, .clientReceive, .clientWriter true,
    .serviceWriter .ok, .clientReceive, .ackTask 0 true, .clientWriter true, .serviceReceive 20 .ok,
    .serviceWriter .ok, .serviceWriter .ok]

/-- Both calls succeed, and both messages are delivered. -/
theorem ble_ok_is_delivered_oneEachWay : ∃ n : BleNet,
    Steps BleNet.step BleAcksMatch (.init 247 fun _ => 0) oneEachWay n ∧
      [1, 2, 3] ∈ n.handedUp ∧ [4, 5] ∈ n.messages := by
  have hsome : (checkRun BleNet.step BleAcksMatch (.init 247 fun _ => 0) oneEachWay).isSome := by
    decide +kernel
  obtain ⟨n, hn⟩ := Option.isSome_iff_exists.mp hsome
  have hup : (⟨5, [1, 2, 3], 0⟩, .ok) ∈ n.clientReturned := by
    have h : ∀ m ∈ checkRun BleNet.step BleAcksMatch (.init 247 fun _ => 0) oneEachWay,
      (⟨5, [1, 2, 3], 0⟩, .ok) ∈ m.clientReturned := by decide +kernel
    exact h n hn
  have hdown : (⟨9, [4, 5], 0⟩, .ok) ∈ n.serviceReturned := by
    have h : ∀ m ∈ checkRun BleNet.step BleAcksMatch (.init 247 fun _ => 0) oneEachWay,
      (⟨9, [4, 5], 0⟩, .ok) ∈ m.serviceReturned := by decide +kernel
    exact h n hn
  have hrun := steps_of_checkRun hn
  obtain ⟨hclient, hservice⟩ := ble_ok_is_delivered 247 _ oneEachWay n hrun
  exact ⟨n, hrun, hclient _ hup, hservice _ hdown⟩

/-! ### The defect -/

/-- The service handles what is already in the channel: the rest of a run in which the sender does
nothing more. -/
def OnlyServiceReceives (_ : BleNet) : BleAction → Prop
  | .serviceReceive _ _ => True
  | _ => False

/-- With nothing in the channel nothing more can happen, so what is not delivered will not be. -/
theorem steps_onlyServiceReceives {n m : BleNet} {as : List BleAction} (hup : n.up = [])
    (h : Steps BleNet.step OnlyServiceReceives n as m) : m = n := by
  cases h with
  | nil => rfl
  | @cons _ t _ a as honly hstep _ =>
    cases a with
    | serviceReceive now notified =>
      unfold BleNet.step at hstep
      dsimp only at hstep
      rw [hup] at hstep
      cases hstep
    | _ => exact absurd honly id

/-- The first message is sent four times before its first ACK is handled; the second message is
refused by a service without a free context, and ends on the second ACK. -/
def refusedSend : List BleAction :=
  [.clientSend 5 [1],
    .clientWriter true, .clientWriter true, .serviceReceive 10 .ok, .clientWriter true,
    .clientWriter true, .clientWriter true, .serviceReceive 20 .ok, .clientWriter true,
    .clientWriter true, .clientWriter true, .serviceReceive 30 .ok, .clientWriter true,
    .clientWriter true, .clientWriter true, .serviceReceive 40 .ok, .clientReceive,
    .clientWriter true, .clientWriter true,
    .clientSend 6 [2],
    .clientWriter true, .clientWriter true, .serviceReceive 50 .ok, .clientReceive,
    .clientWriter true, .clientWriter true]

/-- The call for the second message succeeds, and nothing delivers it any more: the service had no
free context for it, and what is left in the channel are ACKs. -/
theorem refused_send_returns :
    ¬ ∀ (mtu : ℕ) (callback : TransportRxCallback Unit) (as : List BleAction) (n : BleNet),
      Steps BleNet.step (fun _ _ => True) (.init mtu callback) as n →
      ∀ call, (call, .ok) ∈ n.clientReturned →
        ∃ bs m, Steps BleNet.step OnlyServiceReceives n bs m ∧ call.data ∈ m.handedUp := by
  intro hclaim
  have hsome : (checkRun BleNet.step (fun _ _ => True) (.init 247 fun _ => 1) refusedSend).isSome := by
    decide +kernel
  obtain ⟨n, hn⟩ := Option.isSome_iff_exists.mp hsome
  have hend : ∀ m ∈ checkRun BleNet.step (fun _ _ => True) (.init 247 fun _ => 1) refusedSend,
      (⟨6, [2], 4⟩, .ok) ∈ m.clientReturned ∧ m.up = [] ∧ [2] ∉ m.handedUp := by decide +kernel
  obtain ⟨hok, hup, hnot⟩ := hend n hn
  obtain ⟨bs, m, hreceive, hmem⟩ := hclaim 247 _ refusedSend n (steps_of_checkRun hn) _ hok
  -- the channel to the service is empty, so there is no way to a delivery
  rw [steps_onlyServiceReceives hup hreceive] at hmem
  exact hnot hmem

end DectCommunicator
