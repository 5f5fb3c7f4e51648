import DectCommunicator.Ble.Outgoing

/-!
# The two ends of the connection

What a step of the connection does (`BleStep`), and what holds of the ends and of the channels in
every run, whatever is acknowledged (`EndsInv`): the channels carry data frames and ACKs, the
senders send data frames, a pending ACK is that of a received frame, and both ends are up.
-/

namespace DectCommunicator

open LittleEndian Machine StopAndWait

/-! ### Steps -/

/-- What a step does, in the words of `BleNet.step`, with what makes it possible as a hypothesis. -/
inductive BleStep (n : BleNet) : BleAction → BleNet → Prop
  | clientSend (seqId : UInt16) (data : List UInt8) (hw : n.clientWriter = none) :
      BleStep n (.clientSend seqId data) { n with
        clientWriter := some (⟨seqId, data, n.handedUp.length⟩,
          n.client.sendFragmented seqId data) }
  | clientCancel : BleStep n .clientCancel { n with clientWriter := none }
  | clientWriter (sent : Bool) {call : BleCall}
      {p : Proc ClientError (List UInt8) (Status ClientError)}
      (hw : n.clientWriter = some (call, p)) :
      BleStep n (.clientWriter sent) (n.clientWriterStep call sent p)
  | clientReceive {buf : List UInt8} {down : List (List UInt8)} (hdown : n.down = buf :: down) :
      BleStep n .clientReceive ({ n with down }.onNotification buf)
  | ackTask {k : ℕ} (sent : Bool) {header : DataFrameHeader}
      (hk : n.ackTasks[k]? = some header) :
      BleStep n (.ackTask k sent) { n with
        ackTasks := n.ackTasks.eraseIdx k
        up := n.up ++ if sent then (n.client.sendAck header).toList else [] }
  | serviceSend (seqId : UInt16) (data : List UInt8) (hw : n.serviceWriter = none) :
      BleStep n (.serviceSend seqId data) { n with
        serviceWriter := some (⟨seqId, data, n.messages.length⟩,
          alfieBleServiceWrite n.service seqId data) }
  | serviceWriter (notified : Ret) {call : BleCall} {p : Proc Errno (List UInt8) Ret}
      (hw : n.serviceWriter = some (call, p)) :
      BleStep n (.serviceWriter notified) (n.serviceWriterStep call notified p)
  | serviceReceive (now : UInt32) (notified : Ret) {buf : List UInt8} {up : List (List UInt8)}
      (hup : n.up = buf :: up) :
      BleStep n (.serviceReceive now notified) ({ n with up }.onDataWrite now notified buf)
  | release (i : ℕ) :
      BleStep n (.release i)
        { n with service := { n.service with rxPool := releaseReferenced n.service.rxPool i } }

/-- **Inversion of a step**: every proof about a run splits on `BleStep` and never unfolds
`BleNet.step`. -/
theorem bleStep_of_step {n n' : BleNet} {a : BleAction} (h : n.step a = some n') :
    BleStep n a n' := by
  cases a with
  | clientSend seqId data =>
    -- a side has one call at a time
    unfold BleNet.step at h
    dsimp only at h
    split at h
    · cases h
    · next hw =>
      obtain rfl := Option.some.inj h
      exact .clientSend seqId data hw
  | clientCancel =>
    -- a task that has ended can be cancelled as well, so this is always possible
    obtain rfl := Option.some.inj h
    exact .clientCancel
  | clientWriter sent =>
    unfold BleNet.step at h
    dsimp only at h
    split at h
    · cases h
    · next hw =>
      obtain rfl := Option.some.inj h
      exact .clientWriter sent hw
  | clientReceive =>
    unfold BleNet.step at h
    dsimp only at h
    split at h
    · cases h
    · next hdown =>
      obtain rfl := Option.some.inj h
      exact .clientReceive hdown
  | ackTask k sent =>
    -- the tasks run in any order
    unfold BleNet.step at h
    dsimp only at h
    split at h
    · cases h
    · next hk =>
      obtain rfl := Option.some.inj h
      exact .ackTask sent hk
  | serviceSend seqId data =>
    -- the router has one call at a time too
    unfold BleNet.step at h
    dsimp only at h
    split at h
    · cases h
    · next hw =>
      obtain rfl := Option.some.inj h
      exact .serviceSend seqId data hw
  | serviceWriter notified =>
    unfold BleNet.step at h
    dsimp only at h
    split at h
    · cases h
    · next hw =>
      obtain rfl := Option.some.inj h
      exact .serviceWriter notified hw
  | serviceReceive now notified =>
    unfold BleNet.step at h
    dsimp only at h
    split at h
    · cases h
    · next hup =>
      obtain rfl := Option.some.inj h
      exact .serviceReceive now notified hup
  | release i =>
    obtain rfl := Option.some.inj h
    exact .release i

/-! ### Frames -/

/-- An ACK frame is read back from its bytes, the two fields being where they were written. -/
theorem AlfieBleServiceProtoDataAckFrame.ofBytes_toBytes (a : AlfieBleServiceProtoDataAckFrame) :
    AlfieBleServiceProtoDataAckFrame.ofBytes a.toBytes = a := by
  obtain ⟨seqId, fragIdx⟩ := a
  have hseq := field_record [(1, 0), (1, 1)] 2 seqId.toNat [(1, fragIdx.toNat)] []
  have hidx := field_record [(1, 0), (1, 1), (2, seqId.toNat)] 1 fragIdx.toNat [] []
  rw [List.append_nil] at hseq hidx
  simp only [AlfieBleServiceProtoDataAckFrame.ofBytes, AlfieBleServiceProtoDataAckFrame.mk.injEq]
  constructor
  · exact (congrArg UInt16.ofNat hseq).trans (by simp)
  · exact (congrArg UInt8.ofNat hidx).trans (by simp)

/-- The bytes determine what is acknowledged. -/
theorem AlfieBleServiceProtoDataAckFrame.toBytes_inj {a a' : AlfieBleServiceProtoDataAckFrame}
    (h : a.toBytes = a'.toBytes) : a = a' := by
  have h := congrArg AlfieBleServiceProtoDataAckFrame.ofBytes h
  rwa [ofBytes_toBytes, ofBytes_toBytes] at h

/-- No value is both an ACK and a data frame, their types being different bytes. -/
theorem ack_ne_data (a : AlfieBleServiceProtoDataAckFrame) (f : AlfieBleServiceProtoDataFrame) :
    a.toBytes ≠ f.toBytes := by
  intro h
  have htype := congrArg bleFrameTypeOf h
  rw [bleFrameTypeOf_ack, bleFrameTypeOf_data] at htype
  cases htype

/-- What the channels carry: in each direction the data frames of one side and the ACKs of the
other, so nothing malformed. -/
inductive BleFrame : List UInt8 → Prop
  | data (f : AlfieBleServiceProtoDataFrame) : BleFrame f.toBytes
  | ack (a : AlfieBleServiceProtoDataAckFrame) : BleFrame a.toBytes

/-- What the senders send, the ACKs being sent by the receivers. -/
def IsDataBytes (x : List UInt8) : Prop := ∃ f : AlfieBleServiceProtoDataFrame, x = f.toBytes

/-! ### The effects of the receivers -/

/-- An ACK is notified when the reassembly step has one, and names the fragment it was given. -/
theorem mem_notified {f : AlfieBleServiceProtoDataFrame} {effects : List (RxEffect Unit)}
    {x : List UInt8} (h : x ∈ (effects.map (bleRxEffect f)).filterMap BleRxEffect.notified) :
    .ack ∈ effects ∧ x = (AlfieBleServiceProtoDataAckFrame.mk f.seqId f.fragIdx).toBytes := by
  obtain ⟨e, he, hx⟩ := List.mem_filterMap.mp h
  obtain ⟨e, hmem, rfl⟩ := List.mem_map.mp he
  -- of the four effects only an ACK notifies anything
  cases e with
  | ack => exact ⟨hmem, (Option.some.inj hx).symm⟩
  | wrote => cases hx
  | netBufAddMem => cases hx
  | transportRx => cases hx

/-- A message that the reassembly step hands up is one that the service hands up. -/
theorem mem_handedUp {f : AlfieBleServiceProtoDataFrame} {effects : List (RxEffect Unit)}
    {b : TransportBuffer Unit} (h : .transportRx b ∈ effects) :
    b.data ∈ (effects.map (bleRxEffect f)).filterMap BleRxEffect.handedUp :=
  List.mem_filterMap.mpr ⟨_, List.mem_map.mpr ⟨_, h, rfl⟩, rfl⟩

/-- What the service notifies on a value is the ACK of a frame, whatever the value was. -/
theorem ack_of_notified {now : UInt32} {buf x : List UInt8} {st : AlfieBleService}
    (h : x ∈ (prvOnDataWrite now buf st).2.filterMap BleRxEffect.notified) :
    ∃ a : AlfieBleServiceProtoDataAckFrame, x = a.toBytes := by
  have hspec := prvOnDataWrite_spec now buf st
  generalize (prvOnDataWrite now buf st).1 = st' at hspec
  generalize (prvOnDataWrite now buf st).2 = effects at hspec h
  cases hspec with
  | dropped => cases h
  | ack => cases h
  | data f => exact ⟨_, (mem_notified h).2⟩

/-! ### The invariant -/

/-- What holds of the two ends and of the channels, in every run and without any condition on it. -/
structure EndsInv (callback : TransportRxCallback Unit) (n : BleNet) : Prop where
  up : ∀ buf ∈ n.up, BleFrame buf
  down : ∀ buf ∈ n.down, BleFrame buf
  clientWriter : ∀ call p, n.clientWriter = some (call, p) → p.SendsOnly IsDataBytes
  serviceWriter : ∀ call p, n.serviceWriter = some (call, p) → p.SendsOnly IsDataBytes
  tasks : ∀ header ∈ n.ackTasks, ∃ f, header = headerOf f
  service : BleReceiverInv (some callback) n.service
  loop : n.client.loop = true
  connected : n.client.connected = true

/-- The frames of a call are data frames. -/
theorem Outgoing.isDataBytes (o : Outgoing) : ∀ x ∈ o.frames, IsDataBytes x := by
  intro x hx
  obtain ⟨i, -, rfl⟩ := List.mem_map.mp hx
  exact ⟨o.frame i, rfl⟩

section Steps

variable {callback : TransportRxCallback Unit} {n n' : BleNet}

/-- When the client has connected nothing is under way and neither side has a call. -/
theorem EndsInv.init (mtu : ℕ) (callback : TransportRxCallback Unit) :
    EndsInv callback (.init mtu callback) where
  up := fun _ h => absurd h List.not_mem_nil
  down := fun _ h => absurd h List.not_mem_nil
  clientWriter := fun _ _ h => by cases h
  serviceWriter := fun _ _ h => by cases h
  tasks := fun _ h => absurd h List.not_mem_nil
  service := .init _
  loop := rfl
  connected := rfl

/-- The client calls `_send_fragmented`, which sends data frames or raises at once. -/
theorem EndsInv.clientSend (h : EndsInv callback n) (seqId : UInt16) (data : List UInt8)
    (base : ℕ) : EndsInv callback { n with
      clientWriter := some (⟨seqId, data, base⟩, n.client.sendFragmented seqId data) } :=
  { h with
    clientWriter := by
      refine Proc.SendsOnly.running ?_
      rcases sendFragmented_cases n.client seqId data with ⟨-, hret⟩ | ⟨o, -, -, -, hsend⟩
      · rw [hret]
        trivial
      · rw [hsend]
        exact transfer_sendsOnly o.isDataBytes }

/-- The service is called, and sends data frames or returns an error at once. -/
theorem EndsInv.serviceSend (h : EndsInv callback n) (seqId : UInt16) (data : List UInt8)
    (base : ℕ) : EndsInv callback { n with
      serviceWriter := some (⟨seqId, data, base⟩, alfieBleServiceWrite n.service seqId data) } :=
  { h with
    serviceWriter := by
      refine Proc.SendsOnly.running ?_
      rcases alfieBleServiceWrite_cases n.service seqId data with
        ⟨e, hret⟩ | ⟨o, -, -, -, -, -, -, hwrite⟩
      · rw [hret]
        trivial
      · rw [hwrite]
        exact transfer_sendsOnly o.isDataBytes }

/-- The client's send takes its next effect. Only a send that succeeds gets something on the
channel, and that is a data frame. -/
theorem EndsInv.clientWriterStep (h : EndsInv callback n) {call : BleCall}
    {p : Proc ClientError (List UInt8) (Status ClientError)}
    (hw : n.clientWriter = some (call, p)) (sent : Bool) :
    EndsInv callback (n.clientWriterStep call sent p) := by
  have hsends := h.clientWriter call p hw
  -- in each case the rest of a program that sends data frames sends data frames
  cases p with
  | ret r => exact { h with clientWriter := fun _ _ hq => by cases hq }
  | reset k => exact { h with clientWriter := Proc.SendsOnly.running (k := k) hsends }
  | take t k =>
    unfold BleNet.clientWriterStep
    dsimp only
    split
    · exact { h with clientWriter := (hsends .ok).running }
    · exact { h with clientWriter := (hsends _).running }
  -- what a send puts into the channel is the frame it is given
  | send x k =>
    obtain ⟨⟨f, rfl⟩, hk⟩ := hsends
    cases sent with
    | false => exact { h with clientWriter := (hk _).running }
    | true =>
      refine { h with clientWriter := (hk .ok).running, up := ?_ }
      exact List.forall_mem_append.mpr ⟨h.up, List.forall_mem_singleton.mpr (.data f)⟩

/-- The service's call takes its next effect, with the same argument. -/
theorem EndsInv.serviceWriterStep (h : EndsInv callback n) {call : BleCall}
    {p : Proc Errno (List UInt8) Ret} (hw : n.serviceWriter = some (call, p)) (notified : Ret) :
    EndsInv callback (n.serviceWriterStep call notified p) := by
  have hsends := h.serviceWriter call p hw
  cases p with
  | ret r => exact { h with serviceWriter := fun _ _ hq => by cases hq }
  | reset k =>
    -- the semaphore is no part of what is said of the service
    exact
      { h with
        serviceWriter := Proc.SendsOnly.running (k := k) hsends
        service := { h.service with } }
  | take t k =>
    unfold BleNet.serviceWriterStep
    dsimp only
    split
    · exact { h with serviceWriter := (hsends .ok).running, service := { h.service with } }
    · exact { h with serviceWriter := (hsends _).running }
  | send x k =>
    obtain ⟨⟨f, rfl⟩, hk⟩ := hsends
    cases notified with
    | err e => exact { h with serviceWriter := (hk _).running }
    | ok =>
      refine { h with serviceWriter := (hk .ok).running, down := ?_ }
      exact List.forall_mem_append.mpr ⟨h.down, List.forall_mem_singleton.mpr (.data f)⟩

/-- The client handles a notification. It stays connected with its loop running, and the ACK it owes
is that of the frame. -/
theorem EndsInv.clientReceive (h : EndsInv callback n) {buf : List UInt8}
    {down : List (List UInt8)} (hdown : n.down = buf :: down) :
    EndsInv callback ({ n with down }.onNotification buf) := by
  have hmem : buf ∈ n.down := by
    rw [hdown]
    exact List.mem_cons_self
  have hrest : ∀ x ∈ down, BleFrame x := fun x hx =>
    h.down x (by rw [hdown]; exact List.mem_cons_of_mem _ hx)
  unfold BleNet.onNotification
  dsimp only
  cases h.down buf hmem with
  | ack a =>
    -- an ACK sets the event and leaves the rest
    rw [onNotification_ack]
    dsimp only [List.filterMap_nil]
    rw [List.append_nil, List.append_nil]
    exact { h with down := hrest }
  | data f =>
    rw [onNotification_data]
    have hspec := handleRxPayload_spec n.client (headerOf f) f.payload
    refine { h with down := hrest, tasks := ?_, loop := ?_, connected := ?_ }
    · exact List.forall_mem_append.mpr
        ⟨h.tasks, fun x hx => ⟨f, hspec.ackHeader (mem_ackHeaders hx)⟩⟩
    · exact hspec.config.1.trans h.loop
    · exact hspec.config.2.1.trans h.connected

/-- What the task of an ACK writes: the ACK of a received frame, or nothing when the write
raises. -/
theorem EndsInv.ack_of_task (h : EndsInv callback n) {header : DataFrameHeader}
    (htask : header ∈ n.ackTasks) (sent : Bool) :
    ∃ f : AlfieBleServiceProtoDataFrame, header = headerOf f ∧
      ∀ x ∈ (if sent then (n.client.sendAck header).toList else []),
        x = (AlfieBleServiceProtoDataAckFrame.mk f.seqId f.fragIdx).toBytes := by
  obtain ⟨f, rfl⟩ := h.tasks header htask
  refine ⟨f, rfl, fun x hx => ?_⟩
  rw [sendAck_headerOf h.connected] at hx
  split at hx
  · exact List.mem_singleton.mp hx
  · cases hx

/-- The task of an ACK runs, and the channel to the service has one more frame. -/
theorem EndsInv.ackTask (h : EndsInv callback n) {k : ℕ} {header : DataFrameHeader}
    (hk : n.ackTasks[k]? = some header) (sent : Bool) :
    EndsInv callback { n with
      ackTasks := n.ackTasks.eraseIdx k
      up := n.up ++ if sent then (n.client.sendAck header).toList else [] } := by
  obtain ⟨f, -, hack⟩ := h.ack_of_task (List.mem_of_getElem? hk) sent
  refine { h with up := ?_, tasks := fun x hx => h.tasks x (List.eraseIdx_subset hx) }
  refine List.forall_mem_append.mpr ⟨h.up, fun x hx => ?_⟩
  rw [hack x hx]
  exact .ack _

/-- The service handles a value. Its own invariant holds for any bytes; what it notifies is an
ACK. -/
theorem EndsInv.serviceReceive (h : EndsInv callback n) {buf : List UInt8}
    {up : List (List UInt8)} (hup : n.up = buf :: up) (now : UInt32) (notified : Ret) :
    EndsInv callback ({ n with up }.onDataWrite now notified buf) := by
  refine
    { h with
      up := fun x hx => h.up x (by rw [hup]; exact List.mem_cons_of_mem _ hx)
      down := ?_
      service := h.service.dataWrite now buf }
  refine List.forall_mem_append.mpr ⟨h.down, fun x hx => ?_⟩
  split at hx
  · obtain ⟨a, rfl⟩ := ack_of_notified hx
    exact .ack a
  · cases hx

/-- **Step lemma**: every step of either end keeps the invariant, with no condition on the run. -/
theorem EndsInv.step (h : EndsInv callback n) {a : BleAction} (hstep : n.step a = some n') :
    EndsInv callback n' := by
  cases bleStep_of_step hstep with
  | clientSend seqId data => exact h.clientSend seqId data _
  | clientCancel => exact { h with clientWriter := fun _ _ hq => by cases hq }
  | clientWriter sent hw => exact h.clientWriterStep hw sent
  | clientReceive hdown => exact h.clientReceive hdown
  | ackTask sent hk => exact h.ackTask hk sent
  | serviceSend seqId data => exact h.serviceSend seqId data _
  | serviceWriter notified hw => exact h.serviceWriterStep hw notified
  | serviceReceive now notified hup => exact h.serviceReceive hup now notified
  | release i => exact { h with service := h.service.release i }

end Steps

end DectCommunicator
