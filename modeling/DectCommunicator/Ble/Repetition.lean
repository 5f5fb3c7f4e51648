import DectCommunicator.Ble.Lane
import DectCommunicator.Ble.Reconnection

/-!
# How often a message is delivered

Neither the client nor the service remembers the messages it has completed, so a copy of the first
fragment begins a message anew. All the same a message of several fragments is delivered at most
once: the channel keeps the order, and a sender that has gone on to the second fragment never sends
the first one again (`Lib/Repeats`). A message of a single fragment is delivered with every copy of
it that arrives, up to four times (`deliveries_le`). Lost connections change nothing about it,
although the service keeps its receive contexts and a suspended send goes on over the next one.

`Tally` records the calls of both sides and their deliveries with their `seq_id`s. Both directions
are a `Lane`, in which the two receivers do what `Arrives` says (`ClientFit.arrives`,
`ServiceFit.arrives`).
-/

namespace DectCommunicator

open LittleEndian Machine StopAndWait

/-! ### The receivers -/

/-- A frame leaves the contexts of the others alone, each being found by its `seq_id`. -/
theorem RxPayload.rxContexts_of_ne {c c' : MessagingClient} {header : DataFrameHeader}
    {payload : List UInt8} {effects : List ClientEffect}
    (h : RxPayload c header payload c' effects) {id : ℕ} (hne : id ≠ header.seqId) :
    c'.rxContexts id = c.rxContexts id := by
  cases h with
  | ignored | duplicate => rfl
  | appended | delivered => exact setContext_of_ne c hne _

/-- **The client** and a frame of a call: it delivers with the last fragment, and is then without a
context under the number. -/
theorem ClientFit.arrives {o : Outgoing} {c c' : MessagingClient} {effects : List ClientEffect}
    (h : ClientFit o c) {i : ℕ} (hi : i < o.count) (hsize : 0 < o.size)
    (hstep : RxPayload c (headerOf (o.frame i)) (o.frame i).payload c' effects) :
    Arrives o i (c.rxContexts o.seqId.toNat = none) (c'.rxContexts o.seqId.toNat = none)
      (effects.filterMap ClientEffect.message) := by
  have hidx : (headerOf (o.frame i)).fragIdx = i := o.fragIdx_toNat hi
  have hacks : (c.acks (headerOf (o.frame i))).filterMap ClientEffect.message = [] := by
    unfold MessagingClient.acks
    split <;> rfl
  -- a context that a later fragment finds is in the dictionary
  have hzero : ∀ {ctx}, c.contextFor (headerOf (o.frame i)) = some ctx →
      c.rxContexts o.seqId.toNat = none → i = 0 := by
    intro ctx hctx hnone
    have hkey : c.rxContexts (headerOf (o.frame i)).seqId = none := hnone
    unfold MessagingClient.contextFor at hctx
    rw [hkey] at hctx
    by_contra hne
    rw [hidx, if_pos hne] at hctx
    cases hctx
  cases hstep with
  | ignored => exact .nothing fun hclosed _ => hclosed
  -- no context and not the first fragment
  | duplicate =>
    rw [hacks]
    exact .nothing fun hclosed _ => hclosed
  | appended hctx =>
    rw [hacks]
    exact .nothing fun hclosed hpos => absurd (hzero hctx hclosed) hpos.ne'
  | delivered hctx heq hlast =>
    have hdata := h.complete hi hsize hctx heq hlast
    obtain ⟨htotal, -, -⟩ := h.contextFor hctx
    rw [List.filterMap_append, hacks, List.nil_append, hdata]
    rw [← heq, htotal, hidx] at hlast
    exact .completed hsize hlast (hzero hctx) (DectCommunicator.setContext_self c _ none)

/-- The service is RECEIVING nothing of the call. A context that holds the message REFERENCED does
not count, because it receives nothing any more. -/
def ServiceClosed (o : Outgoing) (p : TransportBufferPool Unit Unit) : Prop :=
  ReceivingAll (fun b => ¬ Matches () (o.frame 0).fragment b) p

section Service

variable {o : Outgoing} {callback : TransportRxCallback Unit} {now : UInt32}
  {p q : TransportBufferPool Unit Unit} {effects : List (RxEffect Unit)}

/-- A frame under another `seq_id` opens nothing of the call, because a context is opened under the
number of the frame. -/
theorem ServiceClosed.other (h : ServiceClosed o p) {f : AlfieBleServiceProtoDataFrame}
    (hne : f.seqId ≠ o.seqId)
    (hstep : DataFrameStep (some callback) none id now f.fragment p q effects) :
    ServiceClosed o q :=
  hstep.receivingAll h (fun _ _ _ hq hm => hne (hq.seqId.symm.trans hm.seqId))
    fun _ _ _ hq _ _ _ _ hm => hne (hq.seqId.symm.trans hm.seqId)

/-- **The service** and a frame of a call, which is where it matters that the keys are unique: a
second context under the key would take the next copy. -/
theorem ServiceFit.arrives (h : ServiceFit o p) (hinv : PoolInv p) (hunique : KeyUnique p)
    (hquery : p.additionalQueryCb = none) {i : ℕ} (hi : i < o.count)
    (hstep : DataFrameStep (some callback) none id now (o.frame i).fragment p q effects) :
    Arrives o i (ServiceClosed o p) (ServiceClosed o q)
      ((effects.map (bleRxEffect (o.frame i))).filterMap BleRxEffect.handedUp) := by
  -- only the first fragment obtains a context of a closed pool
  have hzero : ∀ {j b q}, Obtained p now (o.frame i).fragment none j b q → ServiceClosed o p →
      i = 0 := by
    intro j b q hq hclosed
    rcases hq.found_or_fresh (bleKeyed hquery) with ⟨hj, -, hm⟩ | ⟨hidx, -⟩
    · exact absurd ⟨hm.receiving, hm.ext, hm.seqId, hm.fragTotal, hm.totalSizeBytes⟩
        (hclosed j b hj hm.receiving)
    · have hnat := o.fragIdx_toNat hi
      rw [show (o.frame i).fragIdx = 0 from hidx] at hnat
      exact hnat.symm
  -- a later fragment without a context is refused and opens none
  have hstays : ServiceClosed o p → 0 < i → ServiceClosed o q := fun hclosed hpos =>
    hstep.receivingAll hclosed (fun _ _ _ hq => absurd (hzero hq hclosed) hpos.ne')
      fun _ _ _ hq => absurd (hzero hq hclosed) hpos.ne'
  cases hstep with
  | refused | rejected | duplicate | success | invalidFinalSize => exact .nothing hstays
  | @complete j b b' q hq hdata hidx hlast hlen hb' =>
    obtain ⟨hbi, hsucc, hbytes⟩ := h.accepted hinv hquery hi hq hidx
    have htotal : b.fragTotal.toNat = o.count := by
      rw [hq.fragTotal]
      exact o.fragTotal_toNat i
    have hcount : i + 1 = o.count := by rw [← hsucc, hlast, htotal]
    have hb'data : b'.data = o.data := by
      rw [hb']
      show ((b.mark id).accept now (o.frame i).payload).data = o.data
      rw [hbytes, hcount, o.take_count hdata]
    show Arrives o i _ _ [b'.data]
    rw [hb'data]
    refine .completed (o.size_pos hdata) hcount (hzero hq) fun k c hk hc hm => ?_
    -- the completed context is not RECEIVING any more, and no other one has its key
    obtain ⟨hkj, hk⟩ :=
      complete_receiving _ (store_getElem?_self b' hq.getElem?) (by rw [hb']) hk hc
    rw [store_getElem?_of_ne q j b' hkj] at hk
    exact hunique.not_matches (bleKeyed hquery) hq hkj hk
      ⟨hm.receiving, hm.ext, hm.seqId, hm.fragTotal, hm.totalSizeBytes⟩

end Service

/-! ### The two ends -/

/-- The two ends with the calls that have drawn a `seq_id`, and the messages delivered with the
`seq_id` of the frame that completed them. -/
structure Tally where
  net : BleNet
  clientCalls : List DrawnCall
  serviceCalls : List DrawnCall
  handedUp : List (UInt16 × List UInt8)
  messages : List (UInt16 × List UInt8)

/-- Nothing has been sent or delivered, and there is no connection. -/
def Tally.init (callback : TransportRxCallback Unit) : Tally :=
  ⟨.unconnected callback, [], [], [], []⟩

/-- The `seq_id` of the oldest frame of a channel, under which what that frame completes is
recorded. -/
def headSeqId (channel : List (List UInt8)) : UInt16 :=
  (AlfieBleServiceProtoDataFrame.ofBytes (channel.headD [])).seqId

/-- The checks of `alfie_ble_service_write` are comparisons. -/
instance AlfieBleService.decidableAdmits (st : AlfieBleService) (data : List UInt8) :
    Decidable (st.Admits data) :=
  inferInstanceAs (Decidable (_ ∧ _))

/-- A step is recorded after which the ends are as in `net`. `alfie_ble_service_write` draws a
number only after its checks. -/
def Tally.record (t : Tally) (net : BleNet) : LinkAction → Tally
  | .act (.clientSend seqId data) =>
    { t with
      net
      clientCalls := t.clientCalls ++ [⟨seqId, data, t.net.client.fragTotal data⟩] }
  | .act (.serviceSend seqId data) =>
    if t.net.service.Admits data then
      { t with
        net
        serviceCalls := t.serviceCalls ++ [⟨seqId, data, (bleFragTotalOf data.length).toNat⟩] }
    else { t with net }
  | .act .clientReceive =>
    { t with
      net
      messages := t.messages ++
        (net.messages.drop t.net.messages.length).map (headSeqId t.net.down, ·) }
  | .act (.serviceReceive _ _) =>
    { t with
      net
      handedUp := t.handedUp ++
        (net.handedUp.drop t.net.handedUp.length).map (headSeqId t.net.up, ·) }
  | _ => { t with net }

/-- One step; `none` when the action is not possible. What is recorded never decides whether it
is. -/
def Tally.step (t : Tally) (a : LinkAction) : Option Tally :=
  (t.net.linkStep a).map (t.record · a)

/-- A side draws numbers that it has not drawn before. This bounds the calls of a run, there being
2^16 numbers, but not its length. -/
def DrawsFresh (t : Tally) : LinkAction → Prop
  | .act (.clientSend seqId _) => seqId ∉ t.clientCalls.map DrawnCall.seqId
  | .act (.serviceSend seqId data) =>
    t.net.service.Admits data → seqId ∉ t.serviceCalls.map DrawnCall.seqId
  | _ => True

/-- The direction from the client to the service, closed to a call when the service is receiving
nothing of it. -/
def Tally.upward (t : Tally) : Lane ClientError where
  writer := t.net.clientWriter
  channel := t.net.up
  calls := t.clientCalls
  tally := t.handedUp
  closed o := ServiceClosed o t.net.service.rxPool
  fit o := ServiceFit o t.net.service.rxPool

/-- The direction from the service to the client, closed to a call when the client has no context
under its number. -/
def Tally.downward (t : Tally) : Lane Errno where
  writer := t.net.serviceWriter
  channel := t.net.down
  calls := t.serviceCalls
  tally := t.messages
  closed o := t.net.client.rxContexts o.seqId.toNat = none
  fit o := ClientFit o t.net.client

/-- **The invariant of the two ends**: that of each direction, and that the records agree with what
was delivered. -/
structure TallyInv (callback : TransportRxCallback Unit) (t : Tally) : Prop where
  service : BleReceiverInv (some callback) t.net.service
  tasks : ∀ header ∈ t.net.ackTasks, ∃ f, header = headerOf f
  payload : t.net.client.maxFramePayload ≤ maxDataFramePayload
  upward : ∃ look, LaneInv maxTxAttempts (fun o => o.size ≤ maxDataFramePayload) look t.upward
  downward : ∃ look, LaneInv alfieBleServiceTxAttempts
    (fun o => 0 < o.size ∧ o.size ≤ maxDataFramePayload) look t.downward
  handedUp : t.handedUp.map Prod.snd = t.net.handedUp
  messages : t.messages.map Prod.snd = t.net.messages

/-! ### Steps -/

section Steps

variable {callback : TransportRxCallback Unit} {t : Tally}

/-- Before the first connection, with all contexts `FREE` and none at the client. -/
theorem TallyInv.init : TallyInv callback (.init callback) where
  service := { BleReceiverInv.init (some callback) with }
  tasks := fun _ h => absurd h List.not_mem_nil
  payload := le_rfl
  upward := by
    refine ⟨_, .init rfl rfl rfl fun o => ?_⟩
    -- all contexts are FREE
    apply serviceFit_of_fresh
    intro b hb hst
    rw [List.eq_of_mem_replicate hb] at hst
    cases hst
  downward := ⟨_, .init rfl rfl rfl fun o ctx hctx => by cases hctx⟩
  handedUp := rfl
  messages := rfl

/-- The client's send does its next effect, for each of which `LaneInv` has a rule. -/
theorem TallyInv.clientWriter (h : TallyInv callback t) {call : BleCall}
    {p : Proc ClientError (List UInt8) (Status ClientError)}
    (hw : t.net.clientWriter = some (call, p)) (sent : Bool) :
    TallyInv callback { t with net := t.net.clientWriterStep call sent p } := by
  obtain ⟨look, hup⟩ := h.upward
  cases p with
  | ret r => exact { h with upward := ⟨look, hup.stop⟩ }
  | reset k => exact { h with upward := ⟨look, hup.resume hw id id fun hk => hk.2⟩ }
  | send x k =>
    cases sent with
    | false => exact { h with upward := ⟨look, hup.send_err hw _⟩ }
    | true => exact { h with upward := ⟨look, hup.send hw⟩ }
  | take timeoutMs k =>
    unfold BleNet.clientWriterStep
    dsimp only
    split
    · exact { h with upward := ⟨look, hup.take hw .ok⟩ }
    · exact { h with upward := ⟨look, hup.take hw _⟩ }

/-- The service's call does its next effect, for each of which `LaneInv` has the same rule. -/
theorem TallyInv.serviceWriter (h : TallyInv callback t) {call : BleCall}
    {p : Proc Errno (List UInt8) Ret} (hw : t.net.serviceWriter = some (call, p)) (notified : Ret) :
    TallyInv callback { t with net := t.net.serviceWriterStep call notified p } := by
  obtain ⟨look, hdown⟩ := h.downward
  cases p with
  | ret r => exact { h with downward := ⟨look, hdown.stop⟩ }
  -- resetting the semaphore is no effect that is counted
  | reset k =>
    exact
      { h with
        service := { h.service with }
        downward := ⟨look, hdown.resume hw id id fun hk => hk.2⟩ }
  -- a send is counted with the attempt it is of, whether it fails or not
  | send x k =>
    cases notified with
    | err e => exact { h with downward := ⟨look, hdown.send_err hw e⟩ }
    | ok => exact { h with downward := ⟨look, hdown.send hw⟩ }
  | take timeoutMs k =>
    unfold BleNet.serviceWriterStep
    dsimp only
    split
    · exact { h with service := { h.service with }, downward := ⟨look, hdown.take hw .ok⟩ }
    · exact { h with downward := ⟨look, hdown.take hw _⟩ }

/-- A call of the client begins. It has drawn its number even if its headers cannot be packed. -/
theorem TallyInv.clientSend (h : TallyInv callback t) {seqId : UInt16} {data : List UInt8}
    (hfresh : seqId ∉ t.clientCalls.map DrawnCall.seqId) (base : ℕ) :
    TallyInv callback { t with
      net := { t.net with
        clientWriter := some (⟨seqId, data, base⟩, t.net.client.sendFragmented seqId data) }
      clientCalls := t.clientCalls ++ [⟨seqId, data, t.net.client.fragTotal data⟩] } := by
  obtain ⟨look, hup⟩ := h.upward
  refine { h with upward := ?_ }
  apply hup.start ⟨seqId, data, _⟩ hfresh base ackTimeoutMs
  by_cases hpacks : t.net.client.Packs data
  · exact .inr ⟨t.net.client.outgoing seqId data hpacks, rfl, h.payload,
      sendFragmented_outgoing hpacks⟩
  · exact .inl ⟨_, sendFragmented_refused hpacks⟩

/-- A call of the service begins. It draws a number only when it passes the checks, and then it is a
transfer. -/
theorem TallyInv.serviceSend (h : TallyInv callback t) {seqId : UInt16} {data : List UInt8}
    (hfresh : t.net.service.Admits data → seqId ∉ t.serviceCalls.map DrawnCall.seqId) (base : ℕ) :
    TallyInv callback
      (if t.net.service.Admits data then
        { t with
          net := { t.net with
            serviceWriter :=
              some (⟨seqId, data, base⟩, alfieBleServiceWrite t.net.service seqId data) }
          serviceCalls := t.serviceCalls ++ [⟨seqId, data, (bleFragTotalOf data.length).toNat⟩] }
      else
        { t with
          net := { t.net with
            serviceWriter :=
              some (⟨seqId, data, base⟩, alfieBleServiceWrite t.net.service seqId data) } }) := by
  obtain ⟨look, hdown⟩ := h.downward
  by_cases hadmits : t.net.service.Admits data
  · rw [if_pos hadmits]
    refine { h with downward := ?_ }
    apply hdown.start ⟨seqId, data, _⟩ (hfresh hadmits) base alfieBleServiceAckTimeoutMs
    rcases alfieBleServiceWrite_cases t.net.service seqId data with
      ⟨e, hret⟩ | ⟨o, -, hsize, hcount, -, hseq, hdata, hwrite⟩
    · exact .inl ⟨e, hret⟩
    · -- a transfer, and the number has not been drawn before
      refine .inr ⟨o, by rw [hseq, hdata, hcount], ?_, hwrite⟩
      rw [hsize]
      exact ⟨by decide, by decide⟩
  · rw [if_neg hadmits]
    rcases alfieBleServiceWrite_cases t.net.service seqId data with ⟨e, hret⟩ | ⟨_, hyes, _⟩
    · rw [hret]
      exact { h with downward := ⟨look, hdown.refuse _ _⟩ }
    · -- a transfer has passed the checks
      exact absurd hyes hadmits

/-- **The client handles a notification**, and what it delivers is recorded under the number of the
frame. -/
theorem TallyInv.clientReceive (h : TallyInv callback t) {buf : List UInt8}
    {down : List (List UInt8)} (hdown : t.net.down = buf :: down) :
    TallyInv callback { t with
      net := { t.net with down }.onNotification buf
      messages := t.messages ++
        (({ t.net with down }.onNotification buf).messages.drop t.net.messages.length).map
          (headSeqId t.net.down, ·) } := by
  obtain ⟨look, hlane⟩ := h.downward
  have hcarried : Carried look buf := by
    apply hlane.channel
    show buf ∈ t.net.down
    rw [hdown]
    exact List.mem_cons_self
  have hsub : down.Sublist t.net.down := by
    rw [hdown]
    exact List.sublist_cons_self buf down
  have hhead : headSeqId t.net.down = (AlfieBleServiceProtoDataFrame.ofBytes buf).seqId := by
    rw [hdown]
    rfl
  rw [hhead]
  unfold BleNet.onNotification
  dsimp only
  cases hcarried with
  | ack a =>
    -- an ACK delivers nothing
    rw [onNotification_ack]
    dsimp only [List.filterMap_nil]
    rw [List.append_nil, List.append_nil, List.drop_length, List.map_nil, List.append_nil]
    refine { h with downward := ⟨look, ?_⟩ }
    exact hlane.mono rfl (List.Subset.refl _) rfl hsub (fun _ => id) fun _ => id
  | frame hframe =>
    obtain ⟨o, i, -, -, rfl⟩ := hframe
    generalize o.frame i = f at hdown ⊢
    rw [onNotification_data, AlfieBleServiceProtoDataFrame.ofBytes_toBytes, List.drop_left]
    have hspec := handleRxPayload_spec t.net.client (headerOf f) f.payload
    generalize (t.net.client.handleRxPayload (headerOf f) f.payload).1 = c' at hspec ⊢
    generalize (t.net.client.handleRxPayload (headerOf f) f.payload).2 = effects at hspec ⊢
    have hpayload : c'.maxFramePayload = t.net.client.maxFramePayload := by cases hspec <;> rfl
    refine
      { h with
        tasks := ?_
        payload := hpayload.trans_le h.payload
        downward := ⟨look, ?_⟩
        messages := ?_ }
    · exact List.forall_mem_append.mpr
        ⟨h.tasks, fun x hx => ⟨f, hspec.ackHeader (mem_ackHeaders hx)⟩⟩
    · refine hlane.arrive hdown rfl rfl rfl rfl ?_ ?_
      · -- the call of the frame
        rintro o i rfl hi ⟨hsize, -⟩ hfit
        exact ⟨hfit.arrives hi hsize hspec, (hfit.step hi hsize hspec).1⟩
      · -- a call under another number
        intro o hne
        have hne' : (headerOf f).seqId ≠ o.seqId.toNat := fun heq => hne (UInt16.toNat_inj.mp heq)
        exact ⟨fun hclosed => (hspec.rxContexts_of_ne hne'.symm).trans hclosed,
          fun hfit => hfit.other hne' hspec⟩
    · rw [List.map_append, h.messages, List.map_map]
      congr 1
      exact List.map_id _

/-- The task of an ACK runs, and puts no data frame into the channel. -/
theorem TallyInv.ackTask (h : TallyInv callback t) {k : ℕ} {header : DataFrameHeader}
    (hk : t.net.ackTasks[k]? = some header) (sent : Bool) :
    TallyInv callback { t with
      net := { t.net with
        ackTasks := t.net.ackTasks.eraseIdx k
        up := t.net.up ++ if sent then (t.net.client.sendAck header).toList else [] } } := by
  obtain ⟨look, hup⟩ := h.upward
  obtain ⟨f, rfl⟩ := h.tasks header (List.mem_of_getElem? hk)
  exact
    { h with
      tasks := fun x hx => h.tasks x (List.eraseIdx_subset hx)
      upward := ⟨look, hup.acks fun x hx => ack_of_sendAck hx⟩ }

/-- **The service handles a written value**, and what it hands up is recorded under the number of
the frame. -/
theorem TallyInv.serviceReceive (h : TallyInv callback t) {buf : List UInt8}
    {up : List (List UInt8)} (hup : t.net.up = buf :: up) (now : UInt32) (notified : Ret) :
    TallyInv callback { t with
      net := { t.net with up }.onDataWrite now notified buf
      handedUp := t.handedUp ++
        (({ t.net with up }.onDataWrite now notified buf).handedUp.drop t.net.handedUp.length).map
          (headSeqId t.net.up, ·) } := by
  obtain ⟨look, hlane⟩ := h.upward
  obtain ⟨look', hdown⟩ := h.downward
  have hcarried : Carried look buf := by
    apply hlane.channel
    show buf ∈ t.net.up
    rw [hup]
    exact List.mem_cons_self
  have hsub : up.Sublist t.net.up := by
    rw [hup]
    exact List.sublist_cons_self buf up
  -- the number under which the client's value is recorded is that of the frame
  have hhead : headSeqId t.net.up = (AlfieBleServiceProtoDataFrame.ofBytes buf).seqId := by
    rw [hup]
    rfl
  -- in the other direction only ACKs are added, which are no copies of a message
  have hacks : ∀ x ∈ (if notified = .ok then
      (prvOnDataWrite now buf t.net.service).2.filterMap BleRxEffect.notified else []),
      ∃ a : AlfieBleServiceProtoDataAckFrame, x = a.toBytes := by
    intro x hx
    split at hx
    · exact ack_of_notified hx
    · cases hx
  rw [hhead]
  unfold BleNet.onDataWrite
  dsimp only
  refine
    { service := h.service.dataWrite now buf
      tasks := h.tasks
      payload := h.payload
      upward := ⟨look, ?_⟩
      downward := ⟨look', hdown.acks hacks⟩
      handedUp := ?_
      messages := h.messages }
  · cases hcarried with
    | ack a =>
      -- an ACK hands nothing up
      rw [prvOnDataWrite_ack]
      dsimp only [List.filterMap_nil]
      rw [List.append_nil, List.drop_length, List.map_nil, List.append_nil]
      exact hlane.mono rfl (List.Subset.refl _) rfl hsub (fun _ => id) fun _ => id
    | frame hframe =>
      obtain ⟨o, i, -, -, rfl⟩ := hframe
      generalize o.frame i = f at hup ⊢
      rw [prvOnDataWrite_data, AlfieBleServiceProtoDataFrame.ofBytes_toBytes, List.drop_left]
      have hspec := handleDataFrame_spec t.net.service.transportRxCallback none id now f.fragment
        t.net.service.rxPool
      rw [h.service.callback] at hspec ⊢
      refine hlane.arrive hup rfl rfl rfl rfl ?_ ?_
      · -- the call of the frame
        rintro o i rfl hi - hfit
        exact ⟨ServiceFit.arrives hfit h.service.pool h.service.unique h.service.query hi hspec,
          (ServiceFit.step hfit h.service.pool h.service.query hi hspec).1⟩
      · -- a send under another number
        intro o hne
        exact ⟨fun hclosed => ServiceClosed.other hclosed hne hspec,
          fun hfit => ServiceFit.other hfit hne hspec⟩
  · rw [List.map_append, h.handedUp, List.map_map, List.drop_left]
    congr 1
    exact List.map_id _

/-- The consumer of the service releases a message: a context becomes FREE and receives nothing. -/
theorem TallyInv.release (h : TallyInv callback t) (i : ℕ) :
    TallyInv callback { t with
      net := { t.net with
        service := { t.net.service with
          rxPool := releaseReferenced t.net.service.rxPool i } } } := by
  obtain ⟨look, hup⟩ := h.upward
  refine { h with service := h.service.release i, upward := ⟨look, ?_⟩ }
  refine hup.mono rfl (List.Subset.refl _) rfl (List.Sublist.refl _) (fun o hclosed => ?_)
    fun o hfit => ServiceFit.release hfit i
  exact ReceivingAll.release hclosed i

/-- The ends take a step, as they do within one connection. -/
theorem TallyInv.act (h : TallyInv callback t) {a : BleAction} {net : BleNet}
    (hfresh : DrawsFresh t (.act a)) (hstep : t.net.step a = some net) :
    TallyInv callback (t.record net (.act a)) := by
  cases bleStep_of_step hstep with
  | clientSend => exact h.clientSend hfresh _
  | clientCancel =>
    obtain ⟨look, hup⟩ := h.upward
    exact { h with upward := ⟨look, hup.stop⟩ }
  | clientWriter sent hw => exact h.clientWriter hw sent
  | clientReceive hdown => exact h.clientReceive hdown
  | ackTask sent hk => exact h.ackTask hk sent
  | serviceSend => exact h.serviceSend hfresh _
  | serviceWriter notified hw => exact h.serviceWriter hw notified
  | serviceReceive now notified hup => exact h.serviceReceive hup now notified
  | release i => exact h.release i

/-- **Step lemma**: what happens to the connection loses frames and closes contexts, and both are
allowed by `LaneInv.mono`. -/
theorem TallyInv.step (h : TallyInv callback t) {a : LinkAction} {t' : Tally}
    (hfresh : DrawsFresh t a) (hstep : t.step a = some t') : TallyInv callback t' := by
  obtain ⟨net, hnet, rfl⟩ := Option.map_eq_some_iff.mp hstep
  obtain ⟨look, hup⟩ := h.upward
  obtain ⟨look', hdown⟩ := h.downward
  have hnil : ∀ channel : List (List UInt8), [].Sublist channel := List.nil_sublist
  unfold BleNet.linkStep at hnet
  cases a with
  | act a =>
    dsimp only at hnet
    split at hnet
    · exact h.act hfresh hnet
    · cases hnet
  | clientDisconnected =>
    dsimp only at hnet
    split at hnet
    · obtain rfl := Option.some.inj hnet
      refine { h with downward := ⟨look', ?_⟩ }
      -- the contexts are gone
      exact hdown.mono rfl (List.Subset.refl _) rfl (hnil _) (fun _ _ => rfl)
        fun _ _ _ hctx => by cases hctx
    · cases hnet
  | serviceDisconnected =>
    -- the contexts of the service stay, so a part of a call may be continued over the next
    -- connection
    dsimp only at hnet
    split at hnet
    · obtain rfl := Option.some.inj hnet
      exact
        { h with
          service := { h.service with }
          upward :=
            ⟨look, hup.mono rfl (List.Subset.refl _) rfl (hnil _) (fun _ => id) fun _ => id⟩ }
    · cases hnet
  | connect mtu =>
    -- a payload size is at most that of the class, so a long message has several fragments on any
    -- MTU
    dsimp only at hnet
    split at hnet
    · obtain rfl := Option.some.inj hnet
      have hpayload : (t.net.client.connect mtu).maxFramePayload ≤ maxDataFramePayload := by
        unfold MessagingClient.connect
        dsimp only
        split
        · exact min_le_left _ _
        · exact h.payload
      exact
        { h with
          service := { h.service with }
          payload := hpayload
          upward :=
            ⟨look, hup.mono rfl (List.Subset.refl _) rfl (hnil _) (fun _ => id) fun _ => id⟩
          downward :=
            ⟨look', hdown.mono rfl (List.Subset.refl _) rfl (hnil _) (fun _ => id) fun _ => id⟩ }
    · cases hnet

end Steps

/-! ### The result -/

/-- **How often a message is delivered.** In a run in which each side draws numbers it has not drawn
before, what either receiver delivers is the data of a call of the other side with its `seq_id`; a
call of several fragments is delivered at most once, and one of a single fragment at most once for
each attempt to send it. -/
theorem deliveries_le (callback : TransportRxCallback Unit) {as : List LinkAction} {t : Tally}
    (hrun : Steps Tally.step DrawsFresh (.init callback) as t) :
    t.handedUp.map Prod.snd = t.net.handedUp ∧ t.messages.map Prod.snd = t.net.messages ∧
      (∀ x ∈ t.handedUp, ∃ call ∈ t.clientCalls, call.seqId = x.1 ∧ call.data = x.2 ∧
        t.handedUp.count x ≤ if call.fragTotal = 1 then maxTxAttempts else 1) ∧
      ∀ x ∈ t.messages, ∃ call ∈ t.serviceCalls, call.seqId = x.1 ∧ call.data = x.2 ∧
        t.messages.count x ≤ if call.fragTotal = 1 then alfieBleServiceTxAttempts else 1 := by
  have hinv : TallyInv callback t :=
    hrun.invariant (fun _ _ _ hs hfresh hstep => hs.step hfresh hstep) .init
  obtain ⟨look, hup⟩ := hinv.upward
  obtain ⟨look', hdown⟩ := hinv.downward
  exact ⟨hinv.handedUp, hinv.messages, fun _ hx => hup.count_le hx, fun _ hx => hdown.count_le hx⟩

instance (t : Tally) (a : LinkAction) : Decidable (DrawsFresh t a) :=
  a.casesOn (motive := fun a => Decidable (DrawsFresh t a))
    (fun a => a.casesOn (motive := fun a => Decidable (DrawsFresh t (.act a)))
      (fun _ _ => inferInstanceAs (Decidable (_ ∉ _))) instDecidableTrue
      (fun _ => instDecidableTrue) instDecidableTrue (fun _ _ => instDecidableTrue)
      (fun seqId data => inferInstanceAs (Decidable
        (t.net.service.Admits data → seqId ∉ t.serviceCalls.map DrawnCall.seqId)))
      (fun _ => instDecidableTrue) (fun _ _ => instDecidableTrue) fun _ => instDecidableTrue)
    instDecidableTrue instDecidableTrue fun _ => instDecidableTrue

/-- The service handles two attempts before the connection is lost, and two more over the next one,
and the client never handles an ACK. The send goes on across the loss, so all four are attempts of
one frame. -/
def repeatedSend : List LinkAction :=
  [.connect 247, .act (.clientSend 5 [1]),
    .act (.clientWriter true), .act (.clientWriter true), .act (.serviceReceive 10 .ok),
    .act (.clientWriter true),
    .act (.clientWriter true), .act (.clientWriter true), .act (.serviceReceive 20 .ok),
    .clientDisconnected, .serviceDisconnected, .connect 247, .act (.clientWriter true),
    .act (.clientWriter true), .act (.clientWriter true), .act (.serviceReceive 30 .ok),
    .act (.clientWriter true),
    .act (.clientWriter true), .act (.clientWriter true), .act (.serviceReceive 40 .ok)]

/-- The bound is reached: a message of one byte is handed up four times. -/
theorem deliveries_le_repeatedSend : ∃ t : Tally,
    Steps Tally.step DrawsFresh (.init fun _ => 1) repeatedSend t ∧
      t.handedUp.count (5, [1]) = 4 ∧
      ∀ x ∈ t.handedUp, ∃ call ∈ t.clientCalls, call.seqId = x.1 ∧ call.data = x.2 ∧
        t.handedUp.count x ≤ if call.fragTotal = 1 then maxTxAttempts else 1 := by
  have hend : ∃ t ∈ checkRun Tally.step DrawsFresh (.init fun _ => 1) repeatedSend,
      t.handedUp.count (5, [1]) = 4 := by decide +kernel
  obtain ⟨t, ht, hcount⟩ := hend
  have hrun := steps_of_checkRun ht
  obtain ⟨-, -, hup, -⟩ := deliveries_le (fun _ => 1) hrun
  exact ⟨t, hrun, hcount, hup⟩

end DectCommunicator
