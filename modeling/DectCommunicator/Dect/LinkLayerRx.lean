import DectCommunicator.Dect.LinkLayer

/-!
# What the link layer hands up

The bytes an rx callback is given, compared with the frame that was received in the same window.

`lastAccepted` is the frame that a receive window ends with: the last one that passes the checks of
`prv_on_phy_pdc_event`. `handleEvents_spec` says what the window leaves in `rx_frame`: that frame
in front, over whatever was there before. The callback's length is the header's `payload_size`,
which the sender chose and nothing checks, so the bytes handed up are those received exactly when
`payload_size` is at most the received length less the header (`receiveWindow_bytes_iff`).

The last section follows a frame of `dect_link_layer_write` through the window of a receiver.
-/

namespace DectCommunicator

open LittleEndian Machine

/-! ### The frame of a receive window -/

/-- The data of an accepted PDC event: the frames that reach `rx_frame`, and no others. -/
def acceptedPdc (deviceId : UInt32) : PhyEvent → Option (List UInt8)
  | .pdc data => if acceptsPdc deviceId data then some data else none
  | _ => none

/-- The last frame accepted among the events of a window. Earlier ones are overwritten, since the
thread looks only after the window has closed. -/
def lastAccepted (deviceId : UInt32) (events : List PhyEvent) : Option (List UInt8) :=
  (events.filterMap (acceptedPdc deviceId)).getLast?

/-- The length field of a received frame, as the sender wrote it. -/
def payloadSizeOf (data : List UInt8) : ℕ := (DectLinkLayerHeader.ofBytes data).payloadSize.toNat

/-- An accepted frame has a whole header and fits into `rx_frame`, so the copy stays inside it. -/
theorem acceptsPdc_length {deviceId : UInt32} {data : List UInt8}
    (h : acceptsPdc deviceId data = true) :
    dectLinkLayerHeaderSizeBytes ≤ data.length ∧ data.length ≤ dectLinkLayerMtuSizeBytes := by
  unfold acceptsPdc at h
  simp only [Bool.and_eq_true, decide_eq_true_eq] at h
  exact ⟨h.1.1.1, h.1.1.2⟩

/-- Only a PDC event carries a frame, and only one that passes the checks. -/
theorem acceptedPdc_eq_some {deviceId : UInt32} {ev : PhyEvent} {data : List UInt8}
    (h : acceptedPdc deviceId ev = some data) :
    ev = .pdc data ∧ acceptsPdc deviceId data = true := by
  cases ev with
  | pdc d =>
    by_cases hd : acceptsPdc deviceId d = true
    · obtain rfl := Option.some.inj ((if_pos hd).symm.trans h)
      exact ⟨rfl, hd⟩
    · exact absurd ((if_neg hd).symm.trans h) (Option.some_ne_none data).symm
  -- the completions and the events that the handler ignores
  | _ => cases h

/-- What a window ends with has passed the checks, being one of the accepted frames. -/
theorem lastAccepted_accepts {deviceId : UInt32} {events : List PhyEvent} {data : List UInt8}
    (h : lastAccepted deviceId events = some data) : acceptsPdc deviceId data = true := by
  obtain ⟨ev, -, hev⟩ := List.mem_filterMap.mp (List.mem_of_getLast? h)
  exact (acceptedPdc_eq_some hev).2

/-- The last accepted frame of a list is that of its tail, or else its head. The events are a list
from the first one on, hence the case split on the tail first. -/
theorem lastAccepted_cons (deviceId : UInt32) (ev : PhyEvent) (events : List PhyEvent) :
    lastAccepted deviceId (ev :: events)
      = (lastAccepted deviceId events).or (acceptedPdc deviceId ev) := by
  unfold lastAccepted
  cases hev : acceptedPdc deviceId ev with
  | none => rw [List.filterMap_cons_none hev, Option.or_none]
  | some d =>
    rw [List.filterMap_cons_some hev, List.getLast?_cons]
    cases (events.filterMap (acceptedPdc deviceId)).getLast? <;> rfl

/-! ### What a window leaves in `rx_frame` -/

/-- What is set once, at initialisation, and written by nothing that the thread does afterwards. -/
def DectLinkLayer.registration (st : DectLinkLayer) : Bool × Bool :=
  (st.initialized, st.rxCallback)

/-- A link layer that can send and hand up frames: initialised, with a callback registered. -/
def DectLinkLayer.Ready (st : DectLinkLayer) : Prop := st.registration = (true, true)

/-- A ready link layer has a callback. -/
theorem DectLinkLayer.Ready.rxCallback {st : DectLinkLayer} (h : st.Ready) :
    st.rxCallback = true := congrArg Prod.snd h

/-- A ready link layer is initialised, so a write is not refused with `-ENOTCONN`. -/
theorem DectLinkLayer.Ready.initialized {st : DectLinkLayer} (h : st.Ready) :
    st.initialized = true := congrArg Prod.fst h

/-- A completion event touches neither the frame nor its validity nor the registration. -/
theorem onCompletion_frame (st : DectLinkLayer) (err : Int) :
    (st.onCompletion err).rxFrame = st.rxFrame ∧
      (st.onCompletion err).validRxData = st.validRxData ∧
      (st.onCompletion err).registration = st.registration := by
  unfold DectLinkLayer.onCompletion
  split <;> exact ⟨rfl, rfl, rfl⟩

/-- An event that is not an accepted frame changes nothing the thread reads: a refused frame changes
nothing at all, and a completion only the flags of the operation. -/
theorem handler_of_not_accepted {deviceId : UInt32} {ev : PhyEvent}
    (h : acceptedPdc deviceId ev = none) (st : DectLinkLayer) :
    (prvDectPhyEventHandler deviceId st ev).rxFrame = st.rxFrame ∧
      (prvDectPhyEventHandler deviceId st ev).validRxData = st.validRxData ∧
      (prvDectPhyEventHandler deviceId st ev).registration = st.registration := by
  cases ev with
  | pdc data =>
    have hno : ¬ acceptsPdc deviceId data = true := fun hacc =>
      Option.some_ne_none data ((if_pos hacc).symm.trans h)
    have hst : prvDectPhyEventHandler deviceId st (.pdc data) = st := if_neg hno
    rw [hst]
    exact ⟨rfl, rfl, rfl⟩
  | other => exact ⟨rfl, rfl, rfl⟩
  | _ => exact onCompletion_frame st _

/-- An accepted frame is copied over the front of `rx_frame`. -/
theorem handler_of_accepted {deviceId : UInt32} {ev : PhyEvent} {data : List UInt8}
    (h : acceptedPdc deviceId ev = some data) (st : DectLinkLayer) :
    prvDectPhyEventHandler deviceId st ev =
      { st with
        rxFrame := data ++ st.rxFrame.drop data.length
        rxFrameSizeBytes := data.length
        validRxData := true } := by
  obtain ⟨rfl, hacc⟩ := acceptedPdc_eq_some h
  exact if_pos hacc

/-- The handler never changes the registration, by induction over the events. -/
theorem handleEvents_registration (deviceId : UInt32) (st : DectLinkLayer)
    (events : List PhyEvent) : (handleEvents deviceId st events).registration = st.registration := by
  unfold handleEvents
  induction events generalizing st with
  | nil => rfl
  | cons ev events ih =>
    rw [List.foldl_cons, ih]
    cases hev : acceptedPdc deviceId ev with
    | none => exact (handler_of_not_accepted hev st).2.2
    | some data => rw [handler_of_accepted hev]; rfl

/-- **The state a window leaves.** With no accepted frame, what the thread reads is unchanged;
otherwise the last accepted frame is valid and lies in front of older bytes. -/
theorem handleEvents_spec (deviceId : UInt32) (st : DectLinkLayer) (events : List PhyEvent) :
    match lastAccepted deviceId events with
    | none => (handleEvents deviceId st events).rxFrame = st.rxFrame ∧
        (handleEvents deviceId st events).validRxData = st.validRxData
    | some data => (handleEvents deviceId st events).validRxData = true ∧
        ∃ old, (handleEvents deviceId st events).rxFrame = data ++ old := by
  unfold handleEvents
  induction events generalizing st with
  | nil => exact ⟨rfl, rfl⟩
  | cons ev events ih =>
    -- the tail decides, unless it has no accepted frame
    rw [List.foldl_cons, lastAccepted_cons]
    have hrest := ih (prvDectPhyEventHandler deviceId st ev)
    cases hlast : lastAccepted deviceId events with
    | some data =>
      rw [hlast] at hrest
      exact hrest
    | none =>
      rw [hlast] at hrest
      rw [Option.none_or]
      cases hev : acceptedPdc deviceId ev with
      | none =>
        -- neither `ev` nor a later event brings a frame, so the old one stays
        obtain ⟨hframe, hvalid, -⟩ := handler_of_not_accepted hev st
        exact ⟨hrest.1.trans hframe, hrest.2.trans hvalid⟩
      | some data =>
        rw [handler_of_accepted hev] at hrest ⊢
        exact ⟨hrest.2, _, hrest.1⟩

/-- Waiting for the completion reads the flags and leaves the frame alone. -/
theorem awaitOp_frame (st : DectLinkLayer) :
    st.awaitOp.2.rxFrame = st.rxFrame ∧ st.awaitOp.2.validRxData = st.validRxData ∧
      st.awaitOp.2.registration = st.registration := by
  unfold DectLinkLayer.awaitOp
  dsimp only
  split
  · exact ⟨rfl, rfl, rfl⟩
  · split <;> exact ⟨rfl, rfl, rfl⟩

/-- A receive operation leaves what its events leave, started with no valid data. It makes no
difference whether the driver refused the operation. -/
theorem prvDectReceive_spec (deviceId : UInt32) (st : DectLinkLayer) (driver : Ret)
    (events : List PhyEvent) :
    match lastAccepted deviceId events with
    | none => (prvDectReceive deviceId st driver events).2.validRxData = false
    | some data => (prvDectReceive deviceId st driver events).2.validRxData = true ∧
        ∃ old, (prvDectReceive deviceId st driver events).2.rxFrame = data ++ old := by
  have hspec := handleEvents_spec deviceId
    { st with opReturnCode := 0, opCancelled := false, opFailed := false, validRxData := false }
    events
  unfold prvDectReceive
  cases driver with
  -- waiting for the end of the operation reads the flags and the frame, and changes neither
  | ok =>
    obtain ⟨hframe, hvalid, -⟩ := awaitOp_frame (handleEvents deviceId
      { st with opReturnCode := 0, opCancelled := false, opFailed := false, validRxData := false }
      events)
    dsimp only
    rw [hframe, hvalid]
    cases hlast : lastAccepted deviceId events with
    | none => rw [hlast] at hspec; exact hspec.2
    | some data => rw [hlast] at hspec; exact hspec
  -- the driver has refused the operation, but events of the one before may still come in
  | err e =>
    dsimp only
    cases hlast : lastAccepted deviceId events with
    | none => rw [hlast] at hspec; exact hspec.2
    | some data => rw [hlast] at hspec; exact hspec

/-- The receive operation keeps the registration. -/
theorem prvDectReceive_registration (deviceId : UInt32) (st : DectLinkLayer) (driver : Ret)
    (events : List PhyEvent) :
    (prvDectReceive deviceId st driver events).2.registration = st.registration := by
  unfold prvDectReceive
  cases driver with
  | ok => exact (awaitOp_frame _).2.2.trans (handleEvents_registration _ _ _)
  | err e => exact handleEvents_registration _ _ _

/-! ### The bytes of the callback -/

/-- The header is read from the first 15 bytes, so what lies behind the received ones does not
matter. -/
theorem ofBytes_append {data : List UInt8} (h : dectLinkLayerHeaderSizeBytes ≤ data.length)
    (old : List UInt8) :
    DectLinkLayerHeader.ofBytes (data ++ old) = DectLinkLayerHeader.ofBytes data := by
  have h : 15 ≤ data.length := h
  unfold DectLinkLayerHeader.ofBytes
  rw [field_append_of_le data old (by omega), field_append_of_le data old (by omega),
    field_append_of_le data old (by omega), field_append_of_le data old (by omega),
    field_append_of_le data old (by omega)]

/-- As many bytes are handed up as the length asks for, received or not. -/
@[simp] theorem length_readPayload (st : DectLinkLayer) (beyond : ℕ → UInt8) (len : ℕ) :
    (st.readPayload beyond len).length = len := by
  simp [DectLinkLayer.readPayload]

/-- As long as the length stays inside the received frame, the bytes are those received, and neither
those of an older frame nor those behind `rx_frame`. -/
theorem readPayload_eq {st : DectLinkLayer} {data old : List UInt8} (beyond : ℕ → UInt8) {len : ℕ}
    (hframe : st.rxFrame = data ++ old) (hlen : len ≤ data.length - dectLinkLayerHeaderSizeBytes) :
    st.readPayload beyond len = (data.drop dectLinkLayerHeaderSizeBytes).take len := by
  apply List.ext_getElem
  · rw [length_readPayload, List.length_take, List.length_drop]
    omega
  · -- the `i`-th byte lies at `15 + i`, still inside the received part of the frame
    intro i hi _
    rw [length_readPayload] at hi
    have hin : dectLinkLayerHeaderSizeBytes + i < data.length := by omega
    simp only [DectLinkLayer.readPayload, List.getElem_map, List.getElem_range, hframe,
      List.getElem?_drop, List.getElem_take, List.getElem_drop]
    rw [List.getElem?_append_left hin, List.getElem?_eq_getElem hin]
    rfl

/-- What a receive window hands up: nothing without an accepted frame, and otherwise as many bytes
as the frame's header claims. -/
theorem receiveWindow_calls (deviceId : UInt32) (st : DectLinkLayer) (driver : Ret)
    (events : List PhyEvent) (beyond : ℕ → UInt8) (hready : st.Ready) :
    match lastAccepted deviceId events with
    | none => (receiveWindow deviceId st driver events beyond).2 = []
    | some data => ∃ old,
        (prvDectReceive deviceId st driver events).2.rxFrame = data ++ old ∧
        (receiveWindow deviceId st driver events beyond).2 =
          [⟨(DectLinkLayerHeader.ofBytes data).srcId,
            (prvDectReceive deviceId st driver events).2.readPayload beyond
              (payloadSizeOf data)⟩] := by
  have hspec := prvDectReceive_spec deviceId st driver events
  have hreg : (prvDectReceive deviceId st driver events).2.Ready :=
    (prvDectReceive_registration deviceId st driver events).trans hready
  unfold receiveWindow
  cases hlast : lastAccepted deviceId events with
  | none =>
    rw [hlast] at hspec
    dsimp only at hspec ⊢
    rw [if_pos hspec]
  | some data =>
    -- the frame was copied over the beginning of the last one
    rw [hlast] at hspec
    obtain ⟨hvalid, old, hframe⟩ := hspec
    have hmin := (acceptsPdc_length (lastAccepted_accepts hlast)).1
    refine ⟨old, hframe, ?_⟩
    dsimp only
    rw [if_neg (by rw [hvalid]; exact Bool.noConfusion),
      if_neg (by rw [hreg.rxCallback]; exact Bool.noConfusion), hframe, ofBytes_append hmin]
    rfl

/-- The callback `call` was given bytes `15 .. 15 + len` of the frame accepted in its window, `len`
being at most the frame's payload and at most the payload array. -/
def HandsUpReceived (deviceId : UInt32) (events : List PhyEvent) (call : RxCall) : Prop :=
  ∃ data, lastAccepted deviceId events = some data ∧
    call.buf.length ≤ data.length - dectLinkLayerHeaderSizeBytes ∧
    call.buf.length ≤ dectLinkLayerMaxPayloadSizeBytes ∧
    call.buf = (data.drop dectLinkLayerHeaderSizeBytes).take call.buf.length

/-- The length field of every frame that a window ends with stays inside the received bytes. -/
def PayloadSizeFits (deviceId : UInt32) (events : List PhyEvent) : Prop :=
  ∀ data, lastAccepted deviceId events = some data →
    payloadSizeOf data ≤ data.length - dectLinkLayerHeaderSizeBytes

/-- **One window.** The bytes handed up are bytes received in the window exactly when the frame's
length field stays inside the received bytes. -/
theorem receiveWindow_bytes_iff (deviceId : UInt32) (st : DectLinkLayer) (driver : Ret)
    (events : List PhyEvent) (beyond : ℕ → UInt8) (hready : st.Ready) :
    (∀ call ∈ (receiveWindow deviceId st driver events beyond).2,
        HandsUpReceived deviceId events call) ↔ PayloadSizeFits deviceId events := by
  have hcalls := receiveWindow_calls deviceId st driver events beyond hready
  cases hlast : lastAccepted deviceId events with
  -- no frame, no callback: both sides hold
  | none =>
    rw [hlast] at hcalls
    dsimp only at hcalls
    rw [hcalls]
    refine iff_of_true (fun _ h => absurd h List.not_mem_nil) fun data hdata => ?_
    rw [hlast] at hdata
    cases hdata
  | some data =>
    rw [hlast] at hcalls
    obtain ⟨old, hframe, hcall⟩ := hcalls
    have hlen := acceptsPdc_length (lastAccepted_accepts hlast)
    rw [hcall]
    constructor
    · -- the length of the one call is what the header claims
      intro h d hd
      obtain ⟨d', hd', hfit, -⟩ := h _ (List.mem_singleton.mpr rfl)
      rw [hd] at hd'
      rw [hlast] at hd
      obtain rfl := Option.some.inj hd
      obtain rfl := Option.some.inj hd'
      simpa using hfit
    · -- the bytes read before the end of the frame are those of the frame
      intro h call hmem
      have hfit := h data hlast
      obtain rfl := List.mem_singleton.mp hmem
      refine ⟨data, hlast, ?_, ?_, ?_⟩
      · rw [length_readPayload]
        exact hfit
      · rw [length_readPayload]
        exact hfit.trans (Nat.sub_le_sub_right hlen.2 _)
      · rw [length_readPayload]
        exact readPayload_eq beyond hframe hfit

/-! ### Every iteration of the thread -/

/-- The transmit operation keeps the registration. -/
theorem prvLinkLayerWriteFrame_registration (deviceId : UInt32) (st : DectLinkLayer) (driver : Ret)
    (events : List PhyEvent) :
    (prvLinkLayerWriteFrame deviceId st driver events).2.registration = st.registration := by
  unfold prvLinkLayerWriteFrame
  cases driver with
  | ok => exact (awaitOp_frame _).2.2.trans (handleEvents_registration _ _ _)
  | err e => exact handleEvents_registration _ _ _

/-- A window keeps the registration, whether or not it ends with a callback. -/
theorem receiveWindow_registration (deviceId : UInt32) (st : DectLinkLayer) (driver : Ret)
    (events : List PhyEvent) (beyond : ℕ → UInt8) :
    (receiveWindow deviceId st driver events beyond).1.registration = st.registration := by
  have hreg := prvDectReceive_registration deviceId st driver events
  unfold receiveWindow
  dsimp only
  split
  · exact hreg
  · split <;> exact hreg

/-- The transmit half of an iteration keeps the registration. -/
theorem transmitPhase_registration (deviceId : UInt32) (st : DectLinkLayer) (it : Iteration) :
    (if it.queued then (prvLinkLayerWriteFrame deviceId st it.txDriver it.txEvents).2
      else handleEvents deviceId st it.txEvents).registration = st.registration := by
  split
  · exact prvLinkLayerWriteFrame_registration _ _ _ _
  · exact handleEvents_registration _ _ _

/-- The registration survives every iteration, so a device that could hand up frames always can. -/
theorem prvLinkLayerThread_registration (deviceId : UInt32) (st : DectLinkLayer) (it : Iteration) :
    (prvLinkLayerThread deviceId st it).1.registration = st.registration := by
  unfold prvLinkLayerThread
  dsimp only
  rw [receiveWindow_registration]
  exact transmitPhase_registration deviceId st it

/-- **The bytes handed up.** In every iteration of the thread, after any history of iterations, the
bytes given to the rx callback are bytes of the frame accepted in that iteration's window exactly
when the length field of that frame stays inside the received bytes. -/
theorem prvLinkLayerThread_bytes_iff (deviceId : UInt32) (history : List Iteration)
    (it : Iteration) :
    (∀ call ∈ (prvLinkLayerThread deviceId
        (runs (prvLinkLayerThread deviceId) DectLinkLayer.init history) it).2,
      HandsUpReceived deviceId it.rxEvents call) ↔ PayloadSizeFits deviceId it.rxEvents := by
  have hready : (runs (prvLinkLayerThread deviceId) DectLinkLayer.init history).Ready :=
    runs_invariant (P := DectLinkLayer.Ready) (C := fun _ => True)
      (fun st a h _ => (prvLinkLayerThread_registration deviceId st a).trans h)
      (fun _ _ => trivial) rfl
  refine receiveWindow_bytes_iff deviceId _ it.rxDriver it.rxEvents it.beyond ?_
  exact (transmitPhase_registration deviceId _ it).trans hready

/-- A 15-byte frame for device 7 from device 9 whose header claims 22 bytes of payload. It passes
all three checks. -/
def overlongHeader : List UInt8 :=
  (⟨dectLinkLayerHeaderMagic, 1, 9, 7, 22⟩ : DectLinkLayerHeader).toBytes

/-- A frame with no payload that claims 22 bytes has 22 bytes handed up, none of them received. -/
theorem prvLinkLayerThread_hands_up_stale :
    ¬ ∀ (deviceId : UInt32) (history : List Iteration) (it : Iteration),
      ∀ call ∈ (prvLinkLayerThread deviceId
          (runs (prvLinkLayerThread deviceId) DectLinkLayer.init history) it).2,
        HandsUpReceived deviceId it.rxEvents call := by
  intro h
  have hfit := (prvLinkLayerThread_bytes_iff 7 [] ⟨false, .ok, [], .ok,
    [.pdc overlongHeader, .completed 0], fun _ => 0⟩).mp (h 7 [] _)
  exact absurd (hfit overlongHeader (by decide +kernel)) (by decide +kernel)

/-! ### A frame of `dect_link_layer_write` -/

/-- The packed header has the size that the payload starts at. -/
theorem DectLinkLayerHeader.length_toBytes (h : DectLinkLayerHeader) :
    h.toBytes.length = dectLinkLayerHeaderSizeBytes :=
  length_record _

/-- A header is read back from its packed bytes, whatever follows them. -/
theorem DectLinkLayerHeader.ofBytes_toBytes (h : DectLinkLayerHeader) (rest : List UInt8) :
    DectLinkLayerHeader.ofBytes (h.toBytes ++ rest) = h := by
  obtain ⟨magic, version, srcId, dstId, payloadSize⟩ := h
  have hmagic := field_record [] 4 magic.toNat [(1, version.toNat), (4, srcId.toNat),
    (4, dstId.toNat), (2, payloadSize.toNat)] rest
  have hversion := field_record [(4, magic.toNat)] 1 version.toNat [(4, srcId.toNat),
    (4, dstId.toNat), (2, payloadSize.toNat)] rest
  have hsrc := field_record [(4, magic.toNat), (1, version.toNat)] 4 srcId.toNat
    [(4, dstId.toNat), (2, payloadSize.toNat)] rest
  have hdst := field_record [(4, magic.toNat), (1, version.toNat), (4, srcId.toNat)] 4 dstId.toNat
    [(2, payloadSize.toNat)] rest
  have hsize := field_record [(4, magic.toNat), (1, version.toNat), (4, srcId.toNat),
    (4, dstId.toNat)] 2 payloadSize.toNat [] rest
  -- Each field is found where the record puts it; what remains is that it fits its width.
  simp only [DectLinkLayerHeader.ofBytes, DectLinkLayerHeader.mk.injEq]
  refine ⟨?_, ?_, ?_, ?_, ?_⟩
  · exact (congrArg UInt32.ofNat hmagic).trans (by simp)
  · exact (congrArg UInt8.ofNat hversion).trans (by simp)
  · exact (congrArg UInt32.ofNat hsrc).trans (by simp)
  · exact (congrArg UInt32.ofNat hdst).trans (by simp)
  · exact (congrArg UInt16.ofNat hsize).trans (by simp)

/-- The header of a frame, read back from its bytes: what `dect_link_layer_write` put into it. -/
theorem ofBytes_dectLinkLayerFrame (srcId dstId : UInt32) (buf : List UInt8) :
    DectLinkLayerHeader.ofBytes (dectLinkLayerFrame srcId dstId buf)
      = ⟨dectLinkLayerHeaderMagic, 1, srcId, dstId, UInt16.ofNat buf.length⟩ :=
  DectLinkLayerHeader.ofBytes_toBytes _ _

/-- A frame always has the length of the MTU, the payload being padded with zeros. -/
theorem length_dectLinkLayerFrame {buf : List UInt8} (srcId dstId : UInt32)
    (h : buf.length ≤ dectLinkLayerMaxPayloadSizeBytes) :
    (dectLinkLayerFrame srcId dstId buf).length = dectLinkLayerMtuSizeBytes := by
  have h : buf.length ≤ 22 := h
  rw [dectLinkLayerFrame, List.length_append, DectLinkLayerHeader.length_toBytes,
    List.length_append, List.length_replicate]
  change 15 + (buf.length + (22 - buf.length)) = 37
  omega

/-- The length field of a frame of `dect_link_layer_write` is the length of its payload, so such
frames never make the receiver read past the received bytes. -/
theorem payloadSizeOf_dectLinkLayerFrame {buf : List UInt8} (srcId dstId : UInt32)
    (h : buf.length ≤ dectLinkLayerMaxPayloadSizeBytes) :
    payloadSizeOf (dectLinkLayerFrame srcId dstId buf) = buf.length := by
  rw [payloadSizeOf, ofBytes_dectLinkLayerFrame]
  exact UInt16.toNat_ofNat_of_lt' (lt_of_le_of_lt h (by decide))

/-- The frame passes the checks of its destination and of no other device, although every device in
range receives it. -/
theorem acceptsPdc_dectLinkLayerFrame {buf : List UInt8} (deviceId srcId dstId : UInt32)
    (h : buf.length ≤ dectLinkLayerMaxPayloadSizeBytes) :
    acceptsPdc deviceId (dectLinkLayerFrame srcId dstId buf) = decide (dstId = deviceId) := by
  unfold acceptsPdc
  rw [ofBytes_dectLinkLayerFrame, length_dectLinkLayerFrame srcId dstId h]
  simp [show dectLinkLayerHeaderSizeBytes ≤ dectLinkLayerMtuSizeBytes by decide]

/-- A window that receives the frame of one write and completes: the destination hands up the
source and the bytes of that write, and every other device hands up nothing. -/
theorem receiveWindow_dectLinkLayerFrame {buf : List UInt8} (deviceId srcId dstId : UInt32)
    (st : DectLinkLayer) (driver : Ret) (err : Int) (beyond : ℕ → UInt8)
    (hready : st.Ready) (h : buf.length ≤ dectLinkLayerMaxPayloadSizeBytes) :
    (receiveWindow deviceId st driver
        [.pdc (dectLinkLayerFrame srcId dstId buf), .completed err] beyond).2
      = if dstId = deviceId then [⟨srcId, buf⟩] else [] := by
  have hcalls := receiveWindow_calls deviceId st driver
    [.pdc (dectLinkLayerFrame srcId dstId buf), .completed err] beyond hready
  have hlast : lastAccepted deviceId [.pdc (dectLinkLayerFrame srcId dstId buf), .completed err]
      = if dstId = deviceId then some (dectLinkLayerFrame srcId dstId buf) else none := by
    rw [lastAccepted_cons]
    change (Option.none).or (if acceptsPdc deviceId _ then _ else _) = _
    rw [Option.none_or, acceptsPdc_dectLinkLayerFrame deviceId srcId dstId h]
    simp only [decide_eq_true_eq]
  rw [hlast] at hcalls
  -- The payload ends before the padding, so only the bytes of the write are read.
  by_cases hdst : dstId = deviceId
  · rw [if_pos hdst] at hcalls ⊢
    obtain ⟨old, hframe, hcall⟩ := hcalls
    rw [hcall, payloadSizeOf_dectLinkLayerFrame srcId dstId h, readPayload_eq beyond hframe, ofBytes_dectLinkLayerFrame]
    · rw [dectLinkLayerFrame, List.drop_left' (DectLinkLayerHeader.length_toBytes _),
        List.take_left]
    · rw [length_dectLinkLayerFrame srcId dstId h]
      exact h
  · rw [if_neg hdst] at hcalls ⊢
    exact hcalls

end DectCommunicator
