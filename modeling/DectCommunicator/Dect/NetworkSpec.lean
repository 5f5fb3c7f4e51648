import DectCommunicator.Dect.Network
import DectCommunicator.Utils.PoolInvariant

/-!
# What a step of the network does

Inversions of the step relation of `Dect/Network.lean`, so that the invariant proofs never unfold
it.

* `Received` — what a receive window does with a frame of the transport: nothing for another
  device's frame, the semaphore for an ACK, the reassembly step for a data frame
  (`Device.receive_spec`).
* `Call.AtFrame` — where a call in progress stands: at which fragment, and in which phase of an
  attempt. `WriterStep` says what its next effect does (`Device.writerStep_spec`).
* `NetStep` — the five kinds of steps (`Net.step_cases`).
-/

namespace DectCommunicator

open StopAndWait

/-! ### Frames of the air -/

/-- The payload that a frame's header announces, padding left out. -/
def linkPayload (frame : List UInt8) : List UInt8 :=
  (frame.drop dectLinkLayerHeaderSizeBytes).take (payloadSizeOf frame)

/-- It is what `dect_link_layer_write` was given. -/
theorem linkPayload_dectLinkLayerFrame (srcId dstId : UInt32) {buf : List UInt8}
    (h : buf.length ≤ dectLinkLayerMaxPayloadSizeBytes) :
    linkPayload (dectLinkLayerFrame srcId dstId buf) = buf := by
  rw [linkPayload, payloadSizeOf_dectLinkLayerFrame srcId dstId h, dectLinkLayerFrame,
    List.drop_left' (DectLinkLayerHeader.length_toBytes _), List.take_left]

/-- A frame determines its source, its destination and its payload. The padding would make two
payloads look alike, were their lengths not in the header. -/
theorem dectLinkLayerFrame_inj {srcId srcId' dstId dstId' : UInt32} {buf buf' : List UInt8}
    (hlen : buf.length ≤ dectLinkLayerMaxPayloadSizeBytes)
    (hlen' : buf'.length ≤ dectLinkLayerMaxPayloadSizeBytes)
    (h : dectLinkLayerFrame srcId dstId buf = dectLinkLayerFrame srcId' dstId' buf') :
    srcId = srcId' ∧ dstId = dstId' ∧ buf = buf' := by
  have hheader := congrArg DectLinkLayerHeader.ofBytes h
  rw [ofBytes_dectLinkLayerFrame, ofBytes_dectLinkLayerFrame,
    DectLinkLayerHeader.mk.injEq] at hheader
  have hpayload := congrArg linkPayload h
  rw [linkPayload_dectLinkLayerFrame _ _ hlen, linkPayload_dectLinkLayerFrame _ _ hlen'] at hpayload
  exact ⟨hheader.2.2.1, hheader.2.2.2.1, hpayload⟩

/-- A frame of the transport: a data frame or an ACK, of a size the link layer takes. Nothing else
is on the air in a run that starts with an empty one. -/
inductive TransportFrame : List UInt8 → Prop
  | data (srcId dstId : UInt32) (f : DectTransportLayerDataFrame)
      (h : f.toBytes.length ≤ dectLinkLayerMaxPayloadSizeBytes) :
      TransportFrame (dectLinkLayerFrame srcId dstId f.toBytes)
  | ack (srcId dstId : UInt32) (a : DectTransportLayerDataFrameAck) :
      TransportFrame (dectLinkLayerFrame srcId dstId a.toBytes)

/-- An ACK fits into a link-layer frame. -/
theorem length_ack_le (a : DectTransportLayerDataFrameAck) :
    a.toBytes.length ≤ dectLinkLayerMaxPayloadSizeBytes := by
  rw [a.length_toBytes]
  decide

/-- A ready link layer takes every payload that fits, and queues its frame. -/
theorem dectLinkLayerWrite_eq {st : DectLinkLayer} (hready : st.Ready) (d dstId : UInt32)
    {buf : List UInt8} (h : buf.length ≤ dectLinkLayerMaxPayloadSizeBytes) :
    dectLinkLayerWrite st d dstId buf = (.ok, some (dectLinkLayerFrame d dstId buf)) := by
  unfold dectLinkLayerWrite
  rw [if_neg (by rw [hready.initialized]; exact Bool.noConfusion), if_neg (not_lt.mpr h)]

/-! ### Receiving -/

/-- The messages among the effects of a reassembly step. -/
def deliveriesOf (effects : List (RxEffect DectTransportExt)) : List Delivery :=
  effects.filterMap fun
    | .transportRx b => some ⟨b.ext.srcId, b.seqId, b.data⟩
    | _ => none

/-- The frames that device `d` sends for the effects of a reassembly step on a frame from `srcId`:
there is at most one, and it goes back to the source. -/
def acksOf (d srcId : UInt32) (f : DectTransportLayerDataFrame)
    (effects : List (RxEffect DectTransportExt)) : List (List UInt8) :=
  effects.filterMap fun
    | .ack => some (dectLinkLayerFrame d srcId
        (DectTransportLayerDataFrameAck.mk f.seqId f.fragIdx).toBytes)
    | _ => none

/-- Whatever is sent acknowledges the fragment that came in. -/
theorem mem_acksOf {d srcId : UInt32} {f : DectTransportLayerDataFrame}
    {effects : List (RxEffect DectTransportExt)} {frame : List UInt8}
    (h : frame ∈ acksOf d srcId f effects) :
    frame = dectLinkLayerFrame d srcId
      (DectTransportLayerDataFrameAck.mk f.seqId f.fragIdx).toBytes := by
  obtain ⟨e, -, he⟩ := List.mem_filterMap.mp h
  cases e with
  | ack => exact (Option.some.inj he).symm
  | _ => cases he

/-- What a device does with the effects of a reassembly step, as two lists: the messages it hands up
and the ACKs it sends. The order between the two is lost, and nothing depends on it. -/
theorem foldl_effect {d srcId : UInt32} {f : DectTransportLayerDataFrame}
    (effects : List (RxEffect DectTransportExt)) (dev : Device) (out : List (List UInt8))
    (hready : dev.link.Ready) :
    (effects.map (dectRxEffect srcId f)).foldl (Device.effect d) (dev, out) =
      ({ dev with delivered := dev.delivered ++ deliveriesOf effects },
        out ++ acksOf d srcId f effects) := by
  induction effects generalizing dev out with
  | nil => simp [deliveriesOf, acksOf]
  | cons e effects ih =>
    rw [List.map_cons, List.foldl_cons]
    cases e with
    | wrote ret => exact ih dev out hready
    | netBufAddMem len => exact ih dev out hready
    | ack =>
      -- the link layer is ready and the ACK fits, so it is sent
      have hwrite := dectLinkLayerWrite_eq hready d srcId
        (length_ack_le ⟨f.seqId, f.fragIdx⟩)
      have hstep : Device.effect d (dev, out) (dectRxEffect srcId f .ack) =
          (dev, out ++ [dectLinkLayerFrame d srcId
            (DectTransportLayerDataFrameAck.mk f.seqId f.fragIdx).toBytes]) := by
        simp only [dectRxEffect, prvWriteDataAck, Device.effect, hwrite, Option.toList_some]
      rw [hstep, ih _ _ hready]
      simp [deliveriesOf, acksOf]
    | transportRx b =>
      refine (ih { dev with delivered := dev.delivered ++ [⟨b.ext.srcId, b.seqId, b.data⟩] } out
        hready).trans ?_
      simp [deliveriesOf, acksOf]

/-- The pool step of device `dev` on a data frame from `srcId`: the lookup asks for that source, and
the context is marked with it. -/
abbrev Device.PoolStep (dev : Device) (now srcId : UInt32) (f : DectTransportLayerDataFrame)
    (q : TransportBufferPool DectTransportExt UInt32)
    (effects : List (RxEffect DectTransportExt)) : Prop :=
  DataFrameStep dev.transport.transportRxCallback (some srcId)
    (fun ext => { ext with srcId := srcId }) now f.fragment dev.transport.rxPool q effects

/-- What a receive window of device `d` does with a frame of the transport. The link layer changes
in all three cases, in a way that no later step depends on, hence the arbitrary `link`. -/
inductive Received (d now : UInt32) (dev : Device) (frame : List UInt8) :
    Device → List (List UInt8) → Prop
  | ignored {link : DectLinkLayer} (hlink : link.Ready)
      (hdst : (DectLinkLayerHeader.ofBytes frame).dstId ≠ d) :
      Received d now dev frame { dev with link } []
  | ack {link : DectLinkLayer} (hlink : link.Ready) {srcId : UInt32}
      {a : DectTransportLayerDataFrameAck} (hframe : frame = dectLinkLayerFrame srcId d a.toBytes) :
      Received d now dev frame { dev with link, transport := prvHandleDataAckFrame dev.transport } []
  | data {link : DectLinkLayer} (hlink : link.Ready) {srcId : UInt32}
      {f : DectTransportLayerDataFrame} (hframe : frame = dectLinkLayerFrame srcId d f.toBytes)
      (hlen : f.toBytes.length ≤ dectLinkLayerMaxPayloadSizeBytes)
      {q : TransportBufferPool DectTransportExt UInt32}
      {effects : List (RxEffect DectTransportExt)} (hpool : dev.PoolStep now srcId f q effects) :
      Received d now dev frame
        { dev with
          link
          transport := { dev.transport with rxPool := q }
          delivered := dev.delivered ++ deliveriesOf effects }
        (acksOf d srcId f effects)

/-- Receiving does not touch the writer or its history. The writer learns of it through the
semaphore alone. -/
theorem Received.writer {d now : UInt32} {dev dev' : Device} {frame : List UInt8}
    {out : List (List UInt8)} (h : Received d now dev frame dev' out) :
    dev'.writer = dev.writer ∧ dev'.calls = dev.calls ∧ dev'.returned = dev.returned ∧
      dev'.lastSent = dev.lastSent := by
  cases h <;> exact ⟨rfl, rfl, rfl, rfl⟩

/-- The window hands up the payload of a frame for `d`, and nothing otherwise. It is the link
layer's lemma, carried to the device. -/
theorem receive_dectLinkLayerFrame {d now srcId dstId : UInt32} {dev : Device} {buf : List UInt8}
    (beyond : ℕ → UInt8) (hready : dev.link.Ready)
    (hlen : buf.length ≤ dectLinkLayerMaxPayloadSizeBytes) :
    dev.receive d now (dectLinkLayerFrame srcId dstId buf) beyond =
      (if dstId = d then [RxCall.mk srcId buf] else []).foldl (Device.handUp d now)
        ({ dev with link := (receiveWindow d dev.link .ok
          [.pdc (dectLinkLayerFrame srcId dstId buf), .completed 0] beyond).1 }, []) := by
  unfold Device.receive
  dsimp only
  rw [receiveWindow_dectLinkLayerFrame d srcId dstId dev.link .ok 0 beyond hready hlen]

/-- A ready link layer is ready after the window. -/
theorem receiveWindow_ready {st : DectLinkLayer} (hready : st.Ready) (d : UInt32) (driver : Ret)
    (events : List PhyEvent) (beyond : ℕ → UInt8) :
    (receiveWindow d st driver events beyond).1.Ready :=
  (receiveWindow_registration d st driver events beyond).trans hready

/-- A data frame for `d` goes to the reassembly step. The step is given both as a relation, for the
invariants, and as the function's value, for the runs that are computed. -/
theorem receive_data {d srcId now : UInt32} {dev : Device} (f : DectTransportLayerDataFrame)
    (beyond : ℕ → UInt8) (hready : dev.link.Ready)
    (hlen : f.toBytes.length ≤ dectLinkLayerMaxPayloadSizeBytes) :
    ∃ (q : TransportBufferPool DectTransportExt UInt32)
      (effects : List (RxEffect DectTransportExt)) (link : DectLinkLayer),
      dev.PoolStep now srcId f q effects ∧ link.Ready ∧
      handleDataFrame dev.transport.transportRxCallback (some srcId)
        (fun ext => { ext with srcId }) now f.fragment dev.transport.rxPool = (q, effects) ∧
      dev.receive d now (dectLinkLayerFrame srcId d f.toBytes) beyond =
        ({ dev with
            link := link
            transport := { dev.transport with rxPool := q }
            delivered := dev.delivered ++ deliveriesOf effects },
          acksOf d srcId f effects) := by
  refine ⟨_, _, _, handleDataFrame_spec _ _ _ _ _ _, receiveWindow_ready hready d .ok
    [.pdc (dectLinkLayerFrame srcId d f.toBytes), .completed 0] beyond, rfl, ?_⟩
  rw [receive_dectLinkLayerFrame beyond hready hlen, if_pos rfl, List.foldl_cons, List.foldl_nil]
  unfold Device.handUp
  dsimp only
  rw [prvOnDataLayerRx_data]
  dsimp only
  rw [foldl_effect _ _ _ (receiveWindow_ready hready _ _ _ _)]
  rfl

/-- **Inversion of a receive window.** The cases are the destination and the kind of the frame. -/
theorem Device.receive_spec {d : UInt32} (now : UInt32) {dev : Device} {frame : List UInt8}
    (beyond : ℕ → UInt8) (hready : dev.link.Ready) (hframe : TransportFrame frame) :
    Received d now dev frame (dev.receive d now frame beyond).1
      (dev.receive d now frame beyond).2 := by
  cases hframe with
  | data srcId dstId f hlen =>
    by_cases hdst : dstId = d
    · subst hdst
      obtain ⟨q, effects, link, hpool, hlink, -, heq⟩ :=
        @receive_data dstId srcId now dev f beyond hready hlen
      rw [heq]
      exact .data hlink rfl hlen hpool
    · -- the link layer of another device does not accept the frame
      rw [receive_dectLinkLayerFrame beyond hready hlen, if_neg hdst]
      refine .ignored (receiveWindow_ready hready _ _ _ _) ?_
      rw [ofBytes_dectLinkLayerFrame]
      exact hdst
  -- an ACK is handled by its destination, and gives the semaphore there
  | ack srcId dstId a =>
    rw [receive_dectLinkLayerFrame beyond hready (length_ack_le a)]
    by_cases hdst : dstId = d
    · subst hdst
      rw [if_pos rfl, List.foldl_cons, List.foldl_nil]
      unfold Device.handUp
      dsimp only
      rw [prvOnDataLayerRx_ack]
      exact .ack (receiveWindow_ready hready _ _ _ _) rfl
    · rw [if_neg hdst]
      refine .ignored (receiveWindow_ready hready _ _ _ _) ?_
      rw [ofBytes_dectLinkLayerFrame]
      exact hdst

/-! ### The writer -/

/-- A message that `dect_transport_layer_write` accepts: neither empty nor longer than a buffer. -/
structure Call.Valid (call : Call) : Prop where
  pos : 0 < call.data.length
  le : call.data.length ≤ dectTransportLayerMaxRxBufferSizeBytes

/-- The number of fragments of a call, 1 to 37 for a valid one. -/
def Call.count (call : Call) : ℕ :=
  Chunks.count dectTransportLayerDataFrameMaxPayloadSizeBytes call.data.length

/-- The `i`-th data frame of a call, the same at each attempt. -/
def Call.frame (call : Call) (i : ℕ) : DectTransportLayerDataFrame :=
  dataFrameOf call.seqId call.data i

/-- The frames of a call fit into the link layer, so its writes never fail. -/
theorem Call.length_frame_le (call : Call) (i : ℕ) :
    (call.frame i).toBytes.length ≤ dectLinkLayerMaxPayloadSizeBytes :=
  length_dataFrameOf_toBytes call.seqId call.data i

/-- The rest `p` of a call is in phase `φ` of an attempt for fragment `i`. How many attempts are
left is hidden in `At`. -/
structure Call.AtFrame (call : Call) (φ : Phase) (i : ℕ) (p : Proc Errno LinkWrite Ret) :
    Prop where
  lt : i < call.count
  sends : At dectTransportLayerTxAttempts dectTransportLayerAckTimeoutMs φ
    ((framesOf call.dstId call.seqId call.data).drop i) p

/-- A valid call has a fragment. -/
theorem Call.Valid.count_pos {call : Call} (h : call.Valid) : 0 < call.count :=
  Chunks.count_pos (by decide) h.pos

/-- The loop of `dect_transport_layer_write`, which counts in eight bits, sees all fragments. -/
theorem Call.Valid.fragTotal_toNat {call : Call} (h : call.Valid) :
    (fragTotalOf call.data.length).toNat = call.count :=
  fragTotalOf_toNat h.le

/-- The frames left from fragment `i` on begin with that fragment. -/
theorem Call.Valid.drop_frames {call : Call} (h : call.Valid) {i : ℕ} (hi : i < call.count) :
    (framesOf call.dstId call.seqId call.data).drop i =
      (call.dstId, (call.frame i).toBytes) ::
        (framesOf call.dstId call.seqId call.data).drop (i + 1) :=
  drop_framesOf call.dstId call.seqId (by rw [h.fragTotal_toNat]; exact hi)

/-- The transfer of the fragments from `i` on: it is at fragment `i`, or there is none left. -/
theorem Call.Valid.transfer_drop {call : Call} (h : call.Valid) (i : ℕ) (hi : i ≤ call.count) :
    call.AtFrame .ready i (transfer dectTransportLayerTxAttempts dectTransportLayerAckTimeoutMs
        ((framesOf call.dstId call.seqId call.data).drop i)) ∨
      i = call.count ∧ (transfer dectTransportLayerTxAttempts dectTransportLayerAckTimeoutMs
        ((framesOf call.dstId call.seqId call.data).drop i) : Proc Errno LinkWrite Ret)
          = .ret .ok := by
  rcases Nat.lt_or_eq_of_le hi with hlt | heq
  · refine Or.inl ⟨hlt, ?_⟩
    rw [h.drop_frames hlt]
    exact at_transfer (by decide)
  · refine Or.inr ⟨heq, ?_⟩
    rw [List.drop_of_length_le (by rw [length_framesOf, h.fragTotal_toNat, heq])]
    rfl

/-- A valid message is admitted by an initialised device, so the call is recorded. -/
theorem Call.Valid.admits {call : Call} (h : call.Valid) {dev : Device}
    (hinit : dev.transport.initialized = true) : dev.admits call.data = true := by
  rw [Device.admits, hinit, decide_eq_true h.pos, decide_eq_true h.le]
  rfl

/-- What a call does first: it is refused, or it starts with fragment 0. A refused call still takes
a step to return. -/
theorem Device.startWrite_spec {dev : Device} (hinit : dev.transport.initialized = true)
    (call : Call) :
    (∃ e, (dev.startWrite call) = { dev with writer := some (call, .ret (.err e)) }) ∨
      call.Valid ∧ ∃ p, call.AtFrame .ready 0 p ∧
        dev.startWrite call =
          { dev with writer := some (call, p), calls := call :: dev.calls } := by
  unfold Device.startWrite Device.admits dectTransportLayerWrite
  rw [hinit, if_neg Bool.noConfusion]
  by_cases hpos : call.data.length = 0
  · rw [if_pos hpos, hpos]
    exact Or.inl ⟨_, rfl⟩
  -- the two checks of the source, in its order
  by_cases hle : dectTransportLayerMaxRxBufferSizeBytes < call.data.length
  · rw [if_neg hpos, if_pos hle, decide_eq_false (not_le.mpr hle), Bool.and_false]
    exact Or.inl ⟨_, rfl⟩
  have hvalid : call.Valid := ⟨Nat.pos_of_ne_zero hpos, not_lt.mp hle⟩
  rw [if_neg hpos, if_neg hle, decide_eq_true hvalid.pos, decide_eq_true hvalid.le]
  refine Or.inr ⟨hvalid, _, ?_, rfl⟩
  -- A valid message has a fragment 0, so the transfer is not over at once.
  rcases hvalid.transfer_drop 0 (Nat.zero_le _) with h | ⟨h, -⟩
  · exact h
  · exact absurd h hvalid.count_pos.ne

section Effects

variable {dev : Device} (d : UInt32) (call : Call)

/-- The step that hands a frame to the link layer: the frame is on the air. -/
theorem writerStep_send (hready : dev.link.Ready) (dstId : UInt32) {buf : List UInt8}
    (h : buf.length ≤ dectLinkLayerMaxPayloadSizeBytes) (k : Ret → Proc Errno LinkWrite Ret) :
    dev.writerStep d call (.send (dstId, buf) k) =
      ({ dev with writer := some (call, k .ok), lastSent := some (dstId, buf) },
        [dectLinkLayerFrame d dstId buf]) := by
  have hwrite := dectLinkLayerWrite_eq hready d dstId h
  simp only [Device.writerStep, hwrite, Option.toList_some]

/-- The step that waits, with the semaphore up: it is taken, and the call goes on. -/
theorem writerStep_take_acked (hsem : 0 < dev.transport.ackSem) (timeoutMs : ℕ)
    (k : Ret → Proc Errno LinkWrite Ret) :
    dev.writerStep d call (.take timeoutMs k) =
      ({ dev with
          writer := some (call, k .ok)
          transport := { dev.transport with ackSem := dev.transport.ackSem - 1 } }, []) :=
  if_pos hsem

/-- The step that waits, with the semaphore down: the wait times out with `-EAGAIN`. -/
theorem writerStep_take_timeout (hsem : dev.transport.ackSem = 0) (timeoutMs : ℕ)
    (k : Ret → Proc Errno LinkWrite Ret) :
    dev.writerStep d call (.take timeoutMs k) =
      ({ dev with writer := some (call, k (.err .eagain)) }, []) :=
  if_neg (by rw [hsem]; exact lt_irrefl 0)

/-- A step of the writer leaves the registered callback alone. -/
theorem writerStep_callback (dev : Device) (p : Proc Errno LinkWrite Ret) :
    (dev.writerStep d call p).1.transport.transportRxCallback
      = dev.transport.transportRxCallback := by
  cases p with
  | take t k =>
    unfold Device.writerStep
    dsimp only
    split <;> rfl
  | _ => rfl

/-- A step of the writer starts no call, hands up nothing and leaves the pool alone. -/
theorem writerStep_history (dev : Device) (p : Proc Errno LinkWrite Ret) :
    (dev.writerStep d call p).1.calls = dev.calls ∧
      (dev.writerStep d call p).1.delivered = dev.delivered ∧
      (dev.writerStep d call p).1.transport.rxPool = dev.transport.rxPool := by
  cases p with
  | take t k =>
    unfold Device.writerStep
    dsimp only
    split <;> exact ⟨rfl, rfl, rfl⟩
  | _ => exact ⟨rfl, rfl, rfl⟩

end Effects

/-- The effects of a call at fragment `i`, by phase. `acked` does not say which ACK gave the
semaphore, because the source does not know either. -/
inductive WriterStep (d : UInt32) (dev : Device) (call : Call) (i : ℕ) :
    Phase → Device → List (List UInt8) → Prop
  | reset {k : Proc Errno LinkWrite Ret} (hk : call.AtFrame .sending i k) :
      WriterStep d dev call i .ready
        { dev with writer := some (call, k), transport := { dev.transport with ackSem := 0 } } []
  | send {k : Proc Errno LinkWrite Ret} (hk : call.AtFrame .waiting i k) :
      WriterStep d dev call i .sending
        { dev with
          writer := some (call, k)
          lastSent := some (call.dstId, (call.frame i).toBytes) }
        [dectLinkLayerFrame d call.dstId (call.frame i).toBytes]
  | acked {k : Proc Errno LinkWrite Ret} (hsem : 0 < dev.transport.ackSem)
      (hk : call.AtFrame .ready (i + 1) k ∨ i + 1 = call.count ∧ k = .ret .ok) :
      WriterStep d dev call i .waiting
        { dev with
          writer := some (call, k)
          transport := { dev.transport with ackSem := dev.transport.ackSem - 1 } } []
  | timeout {k : Proc Errno LinkWrite Ret} (hsem : dev.transport.ackSem = 0)
      (hk : call.AtFrame .ready i k ∨ k = .ret (.err .eagain)) :
      WriterStep d dev call i .waiting { dev with writer := some (call, k) } []

/-- **Inversion of a writer's step.** The phase tells the effect that comes next, and what is left
afterwards is again at a fragment, or it is a return. -/
theorem Device.writerStep_spec (d : UInt32) {dev : Device} {call : Call} {φ : Phase} {i : ℕ}
    {p : Proc Errno LinkWrite Ret} (hready : dev.link.Ready) (hvalid : call.Valid)
    (h : call.AtFrame φ i p) :
    WriterStep d dev call i φ (dev.writerStep d call p).1 (dev.writerStep d call p).2 := by
  obtain ⟨hi, hat⟩ := h
  rw [hvalid.drop_frames hi] at hat
  cases φ with
  | ready =>
    -- `k_sem_reset`
    obtain ⟨k, rfl, hk⟩ := hat.of_ready
    exact .reset ⟨hi, by rw [hvalid.drop_frames hi]; exact hk⟩
  | sending =>
    -- `dect_link_layer_write`
    obtain ⟨k, rfl, hk, -⟩ := hat.of_sending
    rw [writerStep_send d call hready call.dstId (call.length_frame_le i) k]
    exact .send ⟨hi, by rw [hvalid.drop_frames hi]; exact hk⟩
  | waiting =>
    -- `k_sem_take`: with the semaphore up the call goes on to the next fragment
    obtain ⟨k, rfl, hok, herr⟩ := hat.of_waiting
    by_cases hsem : 0 < dev.transport.ackSem
    · rw [writerStep_take_acked d call hsem]
      refine .acked hsem ?_
      rw [hok]
      exact hvalid.transfer_drop (i + 1) hi
    · have hsem := Nat.eq_zero_of_not_pos hsem
      rw [writerStep_take_timeout d call hsem]
      refine .timeout hsem ?_
      rcases herr .eagain with hret | hready
      · exact Or.inr hret
      · exact Or.inl ⟨hi, by rw [hvalid.drop_frames hi]; exact hready⟩

/-! ### Steps -/

/-- The kinds of steps of the network, with what made each of them possible. -/
inductive NetStep (n : Net) : Action → Net → Prop
  | startWrite {d dstId : UInt32} {seqId : UInt16} {data : List UInt8}
      (hidle : (n.device d).writer = none) :
      NetStep n (.startWrite d dstId seqId data)
        (n.update d ((n.device d).startWrite
          ⟨dstId, seqId, data, (n.device dstId).delivered.length⟩) [])
  | writer {d : UInt32} {call : Call} {p : Proc Errno LinkWrite Ret}
      (hp : (n.device d).writer = some (call, p)) :
      NetStep n (.writer d)
        (n.update d ((n.device d).writerStep d call p).1 ((n.device d).writerStep d call p).2)
  | receive {d now : UInt32} {k : ℕ} {beyond : ℕ → UInt8} {frame : List UInt8}
      (hk : n.air[k]? = some frame) :
      NetStep n (.receive d k now beyond)
        (n.update d ((n.device d).receive d now frame beyond).1
          ((n.device d).receive d now frame beyond).2)
  | lose {k : ℕ} : NetStep n (.lose k) { n with air := n.air.eraseIdx k }
  | release {d : UInt32} {i : ℕ} {b : DectTransportBuffer}
      (hi : (n.device d).transport.rxPool.contexts[i]? = some b) (hb : b.state = .referenced) :
      NetStep n (.release d i) (n.update d ((n.device d).release i) [])

/-- **Inversion of a step.** Later proofs split a step by this and never unfold `Net.step`. -/
theorem Net.step_cases {n n' : Net} {a : Action} (h : n.step a = some n') : NetStep n a n' := by
  cases a with
  -- a device is in one call at a time
  | startWrite d dstId seqId data =>
    rw [Net.step] at h
    split at h
    · cases h
    · next hidle =>
      obtain rfl := Option.some.inj h
      exact .startWrite hidle
  | writer d =>
    rw [Net.step] at h
    split at h
    · cases h
    · next call p hp =>
      obtain rfl := Option.some.inj h
      exact .writer hp
  -- a frame is received where it is in flight; any device may hear it
  | receive d k now beyond =>
    rw [Net.step] at h
    split at h
    · cases h
    · next frame hk =>
      obtain rfl := Option.some.inj h
      exact .receive hk
  | lose k =>
    rw [Net.step] at h
    split at h
    · obtain rfl := Option.some.inj h
      exact .lose
    · cases h
  | release d i =>
    -- only messages that have been handed up are released
    rw [Net.step] at h
    split at h
    · cases h
    · next b hi =>
      split at h
      · next hb =>
        obtain rfl := Option.some.inj h
        exact .release hi hb
      · cases h

/-! ### Updates -/

section Update

variable (n : Net) (d : UInt32) (dev : Device) (out : List (List UInt8))

/-- The frames that were in flight stay so, in front of the new ones. -/
@[simp] theorem update_air : (n.update d dev out).air = n.air ++ out := rfl

/-- The device that changed. -/
@[simp] theorem update_device_self : (n.update d dev out).device d = dev := by
  simp [Net.update]

/-- The devices that did not. -/
theorem update_device_of_ne {d' : UInt32} (h : d' ≠ d) :
    (n.update d dev out).device d' = n.device d' := by
  simp [Net.update, h]

/-- **What the step of one device keeps of it, is kept of all**: the others are the same as before.
So a proof about some part of the devices has to look at the one that changed only. -/
theorem update_device_rel {r : Device → Device → Prop} (hrefl : ∀ x, r x x)
    (h : r (n.device d) dev) (d' : UInt32) :
    r (n.device d') ((n.update d dev out).device d') := by
  by_cases hd : d' = d
  · rw [hd, update_device_self]
    exact h
  · rw [update_device_of_ne _ _ _ _ hd]
    exact hrefl _

end Update

end DectCommunicator
