import DectCommunicator.Dect.Receiver

/-!
# The DECT round trip

One message through both layers: `dect_transport_layer_write` and `dect_link_layer_write` on one
device, and every frame they produce, in order, through a receive window of another.

The receiver is in any state it can reach, with a FREE context. What it does with each frame is an
`Outcome`; `RoundTrip` says which outcomes a message of 1 to 512 bytes should have, and
`dect_roundTrip` that it has them. Two things can prevent it, and both are how the pool is meant to
work: a context that already holds fragments under the key of the message makes the first
fragments duplicates, and a pause of 10 s between two fragments gives the context up
(`roundTrip_disturbed`).
-/

namespace DectCommunicator

open Machine StopAndWait

/-! ### What a device does with a frame -/

/-- The results of `transport_buffer_write`, the frames sent and the messages handed up while a
device handles one frame: all that the claim of a round trip is about. -/
structure Outcome where
  rets : List TransportBufferWriteRet
  sent : List (List UInt8)
  handedUp : List Delivery
deriving DecidableEq, Repr

/-- The result of a call of `transport_buffer_write`, which the handler otherwise keeps to
itself. -/
def DectRxEffect.ret : DectRxEffect → Option TransportBufferWriteRet
  | .wrote ret => some ret
  | _ => none

/-- The effects of the transport in a receive window in which `frame` arrives. A window without an
accepted frame has none. -/
def Device.effects (d now : UInt32) (dev : Device) (frame : List UInt8) (beyond : ℕ → UInt8) :
    List DectRxEffect :=
  (receiveWindow d dev.link .ok [.pdc frame, .completed 0] beyond).2.flatMap fun call =>
    (prvOnDataLayerRx now call.srcId call.buf dev.transport).2

/-- Device `d` handles a numbered frame; `clock` and `beyond` are read under its number, so that
every frame may arrive at its own time over its own memory. -/
def Device.observe (d : UInt32) (clock : ℕ → UInt32) (beyond : ℕ → ℕ → UInt8) (dev : Device)
    (x : List UInt8 × ℕ) : Device × List Outcome :=
  let r := dev.receive d (clock x.2) x.1 (beyond x.2)
  (r.1, [⟨(dev.effects d (clock x.2) x.1 (beyond x.2)).filterMap DectRxEffect.ret, r.2,
    r.1.delivered.drop dev.delivered.length⟩])

/-- The calls of `dect_link_layer_write` that a write of `data` makes when every wait succeeds. -/
def Device.linkWrites (dev : Device) (dstId : UInt32) (seqId : UInt16) (data : List UInt8) :
    List LinkWrite :=
  (dectTransportLayerWrite dev.transport.initialized seqId dstId data).sends

/-- The link frames that a write of `data` on device `srcId` puts on the air: those that the link
layer does not refuse. -/
def Device.airFrames (srcId : UInt32) (dev : Device) (dstId : UInt32) (seqId : UInt16)
    (data : List UInt8) : List (List UInt8) :=
  (dev.linkWrites dstId seqId data).filterMap fun x => (dectLinkLayerWrite dev.link srcId x.1 x.2).2

/-- What should come of fragment `i`: it is accepted, acknowledged to its sender, and with the last
one the message is handed up. -/
def outcomeOf (srcId d : UInt32) (seqId : UInt16) (data : List UInt8) (i : ℕ) : Outcome :=
  let last := i + 1 = fragCount data
  { rets := [if last then .complete else .success]
    sent := [dectLinkLayerFrame d srcId
      (DectTransportLayerDataFrameAck.mk seqId (UInt8.ofNat i)).toBytes]
    handedUp := if last then [⟨srcId, seqId, data⟩] else [] }

/-- A message of `data` makes its way from the device `sender` to device `d`, which is in the state
`receiver`, and to no other device. -/
structure RoundTrip (srcId d : UInt32) (sender receiver : Device) (seqId : UInt16)
    (data : List UInt8) (clock : ℕ → UInt32) (beyond : ℕ → ℕ → UInt8) : Prop where
  /-- every fragment has 1 to 14 bytes, and the link layer takes its frame -/
  accepted : ∀ x ∈ sender.linkWrites d seqId data,
    0 < (DectTransportLayerDataFrame.ofBytes x.2).payload.length ∧
      (DectTransportLayerDataFrame.ofBytes x.2).payload.length ≤
        dectTransportLayerDataFrameMaxPayloadSizeBytes ∧
      (dectLinkLayerWrite sender.link srcId x.1 x.2).1 = .ok
  /-- the frames on the air have 37 bytes -/
  length : ∀ frame ∈ sender.airFrames srcId d seqId data, frame.length = dectLinkLayerMtuSizeBytes
  /-- every frame has its outcome at the destination -/
  outcomes : outputs (Device.observe d clock beyond) receiver
      (sender.airFrames srcId d seqId data).zipIdx =
    (List.range (fragCount data)).map (outcomeOf srcId d seqId data)
  /-- no other device invokes a callback for any of them, whatever its state -/
  others : ∀ d' ≠ d, ∀ (st : DectLinkLayer) (driver : Ret) (mem : ℕ → UInt8),
    ∀ frame ∈ sender.airFrames srcId d seqId data,
      (receiveWindow d' st driver [.pdc frame, .completed 0] mem).2 = []

/-! ### The sender -/

section Sender

variable {srcId d : UInt32} {seqId : UInt16} {data : List UInt8} {dev : Device}
  {callback : Option (TransportRxCallback DectTransportExt)}

/-- An undisturbed write makes one call for every fragment, in order and none twice. -/
theorem linkWrites_eq (h : ReceiverInv callback dev) (hpos : 0 < data.length)
    (hle : data.length ≤ dectTransportLayerMaxRxBufferSizeBytes) :
    dev.linkWrites d seqId data =
      (List.range (fragCount data)).map fun i => (d, (dataFrameOf seqId data i).toBytes) := by
  unfold Device.linkWrites dectTransportLayerWrite
  rw [h.initialized, if_neg Bool.noConfusion, if_neg hpos.ne', if_neg (not_lt.mpr hle),
    sends_transfer (by decide), framesOf, fragTotalOf_toNat hle]
  rfl

/-- The link layer puts every one of them on the air, being ready and each frame fitting. -/
theorem airFrames_eq (h : ReceiverInv callback dev) (hpos : 0 < data.length)
    (hle : data.length ≤ dectTransportLayerMaxRxBufferSizeBytes) :
    dev.airFrames srcId d seqId data = (List.range (fragCount data)).map
      fun i => dectLinkLayerFrame srcId d (dataFrameOf seqId data i).toBytes := by
  have hwrite : ∀ i, (dectLinkLayerWrite dev.link srcId d (dataFrameOf seqId data i).toBytes).2 =
      some (dectLinkLayerFrame srcId d (dataFrameOf seqId data i).toBytes) := by
    intro i
    rw [dectLinkLayerWrite_eq h.ready srcId d (length_dataFrameOf_toBytes seqId data i)]
  rw [Device.airFrames, linkWrites_eq h hpos hle, List.filterMap_map, ← List.filterMap_eq_map]
  congr 1
  funext i
  exact hwrite i

end Sender

/-! ### The receiver -/

section Receiver

variable {srcId d : UInt32} {seqId : UInt16} {data : List UInt8} {dev : Device}

/-- The results among the effects of the reassembly step; there is one when it got a context. -/
def retsOf (effects : List (RxEffect DectTransportExt)) : List TransportBufferWriteRet :=
  effects.filterMap fun
    | .wrote ret => some ret
    | _ => none

/-- The transport passes the results on unchanged. -/
theorem filterMap_ret_map (srcId : UInt32) (f : DectTransportLayerDataFrame)
    (effects : List (RxEffect DectTransportExt)) :
    (effects.map (dectRxEffect srcId f)).filterMap DectRxEffect.ret = retsOf effects := by
  rw [List.filterMap_map, retsOf]
  congr 1
  funext e
  cases e <;> rfl

/-- A data frame for `d` has the effects of the reassembly step, and the outcome can be read off
them. -/
theorem observe_data (f : DectTransportLayerDataFrame) (clock : ℕ → UInt32)
    (beyond : ℕ → ℕ → UInt8) (i : ℕ) (hready : dev.link.Ready)
    (hlen : f.toBytes.length ≤ dectLinkLayerMaxPayloadSizeBytes) :
    ∃ q effects link, dev.PoolStep (clock i) srcId f q effects ∧ link.Ready ∧
      dev.observe d clock beyond (dectLinkLayerFrame srcId d f.toBytes, i) =
        ({ dev with
            link := link
            transport := { dev.transport with rxPool := q }
            delivered := dev.delivered ++ deliveriesOf effects },
          [⟨retsOf effects, acksOf d srcId f effects, deliveriesOf effects⟩]) := by
  obtain ⟨q, effects, link, hpool, hlink, heq, hreceive⟩ :=
    @receive_data d srcId (clock i) dev f (beyond i) hready hlen
  refine ⟨q, effects, link, hpool, hlink, ?_⟩
  -- the one call of the link layer's callback carries the frame
  have heffects : dev.effects d (clock i) (dectLinkLayerFrame srcId d f.toBytes) (beyond i) =
      effects.map (dectRxEffect srcId f) := by
    unfold Device.effects
    rw [receiveWindow_dectLinkLayerFrame d srcId d dev.link .ok 0 (beyond i) hready hlen,
      if_pos rfl, List.flatMap_singleton, prvOnDataLayerRx_data, heq]
  unfold Device.observe
  dsimp only
  rw [hreceive, heffects, filterMap_ret_map]
  dsimp only
  rw [List.drop_left]

/-- **One fragment.** In stage `i` of the message, fragment `i` has its outcome and leads to the
next stage. -/
theorem observe_fragment {callback : TransportRxCallback DectTransportExt}
    (hpos : 0 < data.length) (hle : data.length ≤ dectTransportLayerMaxRxBufferSizeBytes)
    {clock : ℕ → UInt32} (beyond : ℕ → ℕ → UInt8) {i : ℕ} (hinv : ReceiverInv (some callback) dev)
    (hstage : Stage ⟨srcId⟩ (dectMessage seqId data hpos hle) clock dev.transport.rxPool i)
    (hi : i < fragCount data)
    (hgap : ∀ j, j + 1 = i → clock (j + 1) - clock j < UInt32.ofNat dectTransportLayerRxTimeoutMs) :
    (dev.observe d clock beyond
        (dectLinkLayerFrame srcId d (dataFrameOf seqId data i).toBytes, i)).2 =
      [outcomeOf srcId d seqId data i] ∧
    (i + 1 < fragCount data →
      ReceiverInv (some callback) (dev.observe d clock beyond
        (dectLinkLayerFrame srcId d (dataFrameOf seqId data i).toBytes, i)).1 ∧
      Stage ⟨srcId⟩ (dectMessage seqId data hpos hle) clock (dev.observe d clock beyond
        (dectLinkLayerFrame srcId d (dataFrameOf seqId data i).toBytes, i)).1.transport.rxPool
        (i + 1)) := by
  obtain ⟨q, effects, link, hpool, hlink, hobserve⟩ := @observe_data srcId d dev
    (dataFrameOf seqId data i) clock beyond i hinv.ready (length_dataFrameOf_toBytes seqId data i)
  rw [hobserve]
  have hstep := hstage.step hpool hinv.pool hinv.unique (dectKeyed hinv.query srcId) hi
    (by rw [hinv.timeout]; exact hgap)
  rcases hstep with ⟨hlast, hnext, len, -, rfl⟩ | ⟨hlast, b, hext, hseq, hdata, rfl⟩
  · -- appended and acknowledged
    have hne : ¬ i + 1 = fragCount data := hlast.ne
    refine ⟨?_, fun _ => ⟨hinv.poolStep hpool hlink _, hnext⟩⟩
    rw [outcomeOf, if_neg hne, if_neg hne]
    rfl
  · -- the last one: acknowledged and handed up
    have heq : i + 1 = fragCount data := hlast
    refine ⟨?_, fun hlt => absurd heq hlt.ne⟩
    have hmsg : (⟨b.ext.srcId, b.seqId, b.data⟩ : Delivery) = ⟨srcId, seqId, data⟩ := by
      rw [hext, hseq, hdata]
      rfl
    rw [hinv.callback, outcomeOf, if_pos heq, if_pos heq, ← hmsg]
    rfl

/-- A frame for `d` is not accepted by another device, so its callback is not invoked. `st` may be
the state of any device at all. -/
theorem receiveWindow_other {d' : UInt32} (hne : d' ≠ d) (st : DectLinkLayer) (driver : Ret)
    (mem : ℕ → UInt8) {buf : List UInt8} (hlen : buf.length ≤ dectLinkLayerMaxPayloadSizeBytes) :
    (receiveWindow d' st driver
      [.pdc (dectLinkLayerFrame srcId d buf), .completed 0] mem).2 = [] := by
  have hnone : lastAccepted d' [.pdc (dectLinkLayerFrame srcId d buf), .completed 0] = none := by
    rw [lastAccepted_cons]
    simp only [acceptedPdc, acceptsPdc_dectLinkLayerFrame d' srcId d hlen, decide_eq_false hne.symm]
    rfl
  have hspec := prvDectReceive_spec d' st driver
    [.pdc (dectLinkLayerFrame srcId d buf), .completed 0]
  rw [hnone] at hspec
  unfold receiveWindow
  dsimp only at hspec ⊢
  rw [if_pos hspec]

end Receiver

/-! ### The round trip -/

/-- **The round trip.** For any two devices that have been through anything, any message of 1 to
512 bytes reaches the destination, provided it has a FREE context and none that holds fragments
under the key of the message, and less than 10 s pass between two fragments. -/
theorem dect_roundTrip (senderCallback : Option (TransportRxCallback DectTransportExt))
    (callback : TransportRxCallback DectTransportExt) (srcId d : UInt32) (seqId : UInt16)
    (data : List UInt8) (hpos : 0 < data.length)
    (hle : data.length ≤ dectTransportLayerMaxRxBufferSizeBytes)
    (senderHistory history : List DeviceInput) (clock : ℕ → UInt32) (beyond : ℕ → ℕ → UInt8)
    (hvacant : Vacant ⟨srcId⟩ (dectMessage seqId data hpos hle) (clock 0)
      (runs (Device.step d) (Device.init (some callback)) history).transport.rxPool)
    (hgap : ∀ i, i + 1 < fragCount data →
      clock (i + 1) - clock i < UInt32.ofNat dectTransportLayerRxTimeoutMs) :
    RoundTrip srcId d (runs (Device.step srcId) (Device.init senderCallback) senderHistory)
      (runs (Device.step d) (Device.init (some callback)) history) seqId data clock beyond := by
  have hsender := receiverInv_runs senderCallback srcId senderHistory
  have hreceiver := receiverInv_runs (some callback) d history
  refine ⟨?_, ?_, ?_, ?_⟩
  · -- the sender: 1 to 14 bytes, and no frame is refused
    rw [linkWrites_eq hsender hpos hle]
    intro x hx
    obtain ⟨i, hi, rfl⟩ := List.mem_map.mp hx
    obtain ⟨hlow, hhigh⟩ := dataFrameOf_payload_length seqId (List.mem_range.mp hi)
    dsimp only
    rw [DectTransportLayerDataFrame.ofBytes_toBytes,
      dectLinkLayerWrite_eq hsender.ready srcId d (length_dataFrameOf_toBytes seqId data i)]
    exact ⟨hlow, hhigh, rfl⟩
  · rw [airFrames_eq hsender hpos hle]
    intro frame hframe
    obtain ⟨i, -, rfl⟩ := List.mem_map.mp hframe
    exact length_dectLinkLayerFrame srcId d (length_dataFrameOf_toBytes seqId data i)
  · -- the frames with their numbers, in the form that the loop over the stages needs
    have hzip : (Device.airFrames srcId (runs (Device.step srcId) (Device.init senderCallback)
        senderHistory) d seqId data).zipIdx = (List.range (fragCount data)).map fun i =>
          (dectLinkLayerFrame srcId d (dataFrameOf seqId data i).toBytes, i) := by
      rw [airFrames_eq hsender hpos hle]
      apply List.ext_getElem
      · simp
      · intro i hi _
        simp
    rw [hzip, outputs_map, List.map_eq_flatMap]
    -- the stages of the message, from the vacant pool on
    refine outputs_range (P := fun i dev => ReceiverInv (some callback) dev ∧
      Stage ⟨srcId⟩ (dectMessage seqId data hpos hle) clock dev.transport.rxPool i)
      (fun i dev hi hP => ?_) ⟨hreceiver, .first hvacant⟩
    refine observe_fragment hpos hle beyond hP.1 hP.2 hi fun j hj => ?_
    subst hj
    exact hgap j hi
  · -- the other devices drop every frame by its destination
    intro d' hne st driver mem frame hframe
    rw [airFrames_eq hsender hpos hle] at hframe
    obtain ⟨i, -, rfl⟩ := List.mem_map.mp hframe
    exact receiveWindow_other hne st driver mem (length_dataFrameOf_toBytes seqId data i)

/-- Two fragments between two devices that have just started, all at uptime 0. -/
theorem dect_roundTrip_fifteenBytes :
    RoundTrip 1 2 (runs (Device.step 1) (Device.init none) [])
      (runs (Device.step 2) (Device.init (some fun _ => 1)) []) 7 fifteenBytes (fun _ => 0)
      fun _ _ => 0 :=
  dect_roundTrip none (fun _ => 1) 1 2 7 fifteenBytes (by decide) (by decide) [] [] (fun _ => 0)
    (fun _ _ => 0) (vacant_of_all_free (by decide) (by decide)) fun _ _ => by decide

/-- The receive window of device 2 in which the first of these fragments arrives from device 1.
After it a context is open under the key of the message. -/
def firstFragmentInput : DeviceInput :=
  .iteration 0 ⟨false, .ok, [], .ok,
    [.pdc (dectLinkLayerFrame 1 2 (dataFrameOf 7 fifteenBytes 0).toBytes), .completed 0],
    fun _ => 0⟩

/-- A FREE context alone is not enough: neither when another one already holds the first fragment of
the message, nor when 10 s pass between the fragments. Each of the two further conditions of
`dect_roundTrip` is therefore needed. -/
theorem roundTrip_disturbed :
    (¬ ∀ (senderCallback : Option (TransportRxCallback DectTransportExt))
        (callback : TransportRxCallback DectTransportExt) (srcId d : UInt32) (seqId : UInt16)
        (data : List UInt8) (senderHistory history : List DeviceInput) (clock : ℕ → UInt32)
        (beyond : ℕ → ℕ → UInt8), 0 < data.length →
      data.length ≤ dectTransportLayerMaxRxBufferSizeBytes →
      (∃ c ∈ (runs (Device.step d) (Device.init (some callback)) history).transport.rxPool.contexts,
        c.state = .free) →
      (∀ i, i + 1 < fragCount data →
        clock (i + 1) - clock i < UInt32.ofNat dectTransportLayerRxTimeoutMs) →
      RoundTrip srcId d (runs (Device.step srcId) (Device.init senderCallback) senderHistory)
        (runs (Device.step d) (Device.init (some callback)) history) seqId data clock beyond) ∧
    ¬ ∀ (senderCallback : Option (TransportRxCallback DectTransportExt))
        (callback : TransportRxCallback DectTransportExt) (srcId d : UInt32) (seqId : UInt16)
        (data : List UInt8) (senderHistory history : List DeviceInput) (clock : ℕ → UInt32)
        (beyond : ℕ → ℕ → UInt8) (hpos : 0 < data.length)
        (hle : data.length ≤ dectTransportLayerMaxRxBufferSizeBytes),
      Vacant ⟨srcId⟩ (dectMessage seqId data hpos hle) (clock 0)
        (runs (Device.step d) (Device.init (some callback)) history).transport.rxPool →
      RoundTrip srcId d (runs (Device.step srcId) (Device.init senderCallback) senderHistory)
        (runs (Device.step d) (Device.init (some callback)) history) seqId data clock beyond := by
  constructor
  · intro h
    -- fragment 0 is a DUPLICATE of the one in the context
    have htrip := h none (fun _ => 1) 1 2 7 fifteenBytes [] [firstFragmentInput] (fun _ => 0)
      (fun _ _ => 0) (by decide) (by decide) (by decide +kernel) fun _ _ => by decide
    exact absurd htrip.outcomes (by decide +kernel)
  · intro h
    -- the context is gone when fragment 1 arrives
    have htrip := h none (fun _ => 1) 1 2 7 fifteenBytes [] []
      (fun i => UInt32.ofNat (10000 * i)) (fun _ _ => 0) (by decide) (by decide)
      (vacant_of_all_free (by decide) (by decide))
    exact absurd htrip.outcomes (by decide +kernel)

end DectCommunicator
