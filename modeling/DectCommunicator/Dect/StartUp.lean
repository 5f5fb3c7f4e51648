import DectCommunicator.Dect.PhyOperations
import DectCommunicator.Dect.Receiver

/-!
# Starting the DECT layers

`dect_link_layer_init` with the three operations on the PHY that it waits for,
`dect_transport_layer_init`, and the registration of their callbacks, from the zeroed memory that a
device starts with.

The link layer is initialised exactly if every call of the modem library succeeds, and otherwise
the error of the first one that fails is returned (`dectLinkLayerInit_spec`). The transport
registers its callback with the link layer and ignores the result. It works without a consumer of
its own, and nobody on the air can tell (`unregistered_answers`): it sends what a device sends whose
consumer is done with every message at once, and acknowledges every fragment of the messages that it
hands to nobody. The two are compared by the simulation `Alike`, in which the pools are equal
because a completed context is released at once on both; that every fragment is acknowledged is
`AckedInv`, which holds of a device with any callback.
-/

namespace DectCommunicator

open Machine StopAndWait

/-! ### The link layer -/

/-- What the modem library returns during `dect_link_layer_init`: `nrf_modem_lib_init`,
`nrf_modem_dect_phy_event_handler_set`, and the three operations, each completed by its event. -/
structure ModemStart where
  libInit : Ret
  eventHandlerSet : Ret
  init : PhyOperation
  configure : PhyOperation
  activate : PhyOperation
  ops : init.op = .init ∧ configure.op = .configure ∧ activate.op = .activate
  completes : ∀ x ∈ [init, configure, activate], x.Completes

/-- The results of its calls, in order, an operation counting as one call with its completion. -/
def ModemStart.results (x : ModemStart) : List Ret :=
  [x.libInit, x.eventHandlerSet, x.init.outcome, x.configure.outcome, x.activate.outcome]

/-- The first error among the results of calls that are made one after the other. The calls behind
it are never made. -/
def firstError : List Ret → Ret
  | [] => .ok
  | .ok :: results => firstError results
  | .err e :: _ => .err e

/-- `dect_link_layer_init`. The thread is there when the instance is initialised. -/
def dectLinkLayerInit (deviceId : UInt32) (st : DectLinkLayer) (x : ModemStart) :
    Ret × DectLinkLayer :=
  if st.initialized then (.err .ealready, st)
  else
    let st := { st with opSem := 0 }
    -- A failure leaves the instance as far as it has come, and nothing is undone.
    match x.libInit with
    | .err e => (.err e, st)
    | .ok =>
      match x.eventHandlerSet with
      | .err e => (.err e, st)
      | .ok =>
        match prvInitPhy deviceId st x.init.driver x.init.events with
        | (.err e, st) => (.err e, st)
        | (.ok, st) =>
          match prvConfigPhy deviceId st x.configure.driver x.configure.events with
          | (.err e, st) => (.err e, st)
          | (.ok, st) =>
            match prvPhyActivate deviceId st x.activate.driver x.activate.events with
            | (.err e, st) => (.err e, st)
            | (.ok, st) => (.ok, { st with initialized := true })

/-- `dect_link_layer_register_rx_callback`; `callback` tells whether it is not NULL. -/
def dectLinkLayerRegisterRxCallback (st : DectLinkLayer) (callback : Bool) : Ret × DectLinkLayer :=
  if st.initialized = false then (.err .enodev, st)
  else if callback = false then (.err .einval, st)
  else (.ok, { st with rxCallback := true })

section Link

variable (deviceId : UInt32)

/-- An operation of the start reports its own outcome and leaves what is registered. It clears the
flags first, so it does not depend on what came before. -/
theorem PhyOperation.Completes.callDriver_spec {x : PhyOperation} (h : x.Completes)
    (hop : x.op = .init ∨ x.op = .configure ∨ x.op = .activate) (st : DectLinkLayer) :
    (st.resetFlags.callDriver deviceId x.driver x.events).1 = x.outcome ∧
      (st.resetFlags.callDriver deviceId x.driver x.events).2.registration = st.registration := by
  -- the operations of the start are performed with all flags cleared
  have hperform : x.perform deviceId st = st.resetFlags.callDriver deviceId x.driver x.events ∧
      st.flags.atCall x.op =
        { st.flags with failed := false, cancelled := false, returnCode := 0 } := by
    unfold PhyOperation.perform
    rcases hop with hop | hop | hop <;> rw [hop] <;> exact ⟨rfl, rfl⟩
  have hspec := h.perform_flags deviceId st
  have hevents := handleEvents_registration deviceId st.resetFlags x.events
  rw [hperform.1, hperform.2] at hspec
  unfold PhyOperation.outcome
  cases hd : x.driver with
  | err e =>
    rw [hd] at hspec
    exact ⟨hspec.1, hevents⟩
  | ok =>
    rw [hd] at hspec
    refine ⟨hspec.1.trans ?_, ?_⟩
    · -- the flags are those of its own completion event
      unfold OpFlags.complete OpFlags.outcome
      by_cases herr : x.err = 0
      · rw [if_neg (not_not_intro herr), herr]
        rfl
      · rw [if_pos herr]
        rfl
    · -- events and waiting change flags, and not what is registered
      unfold DectLinkLayer.callDriver
      dsimp only
      rw [awaitOp_eq]
      exact hevents

/-- **`dect_link_layer_init`** returns the first error of the modem library, and has initialised the
instance if there is none. -/
theorem dectLinkLayerInit_spec (x : ModemStart) {st : DectLinkLayer} (h : st.initialized = false) :
    (dectLinkLayerInit deviceId st x).1 = firstError x.results ∧
      (dectLinkLayerInit deviceId st x).2.registration =
        (decide (firstError x.results = .ok), st.rxCallback) := by
  have hreg : ({ st with opSem := 0 } : DectLinkLayer).registration = (false, st.rxCallback) :=
    congrArg (·, st.rxCallback) h
  -- the three operations are of the kinds that clear the flags at their start
  obtain ⟨hinit, hconfigure, hactivate⟩ := x.ops
  have hcompletes := x.completes
  unfold dectLinkLayerInit ModemStart.results
  rw [if_neg (by rw [h]; exact Bool.false_ne_true)]
  dsimp only
  cases x.libInit with
  | err e => exact ⟨rfl, hreg⟩
  | ok =>
  cases x.eventHandlerSet with
  | err e => exact ⟨rfl, hreg⟩
  | ok =>
  -- the three operations, each from the state the one before has left
  unfold prvInitPhy prvConfigPhy prvPhyActivate
  dsimp only
  obtain ⟨hout, hreg₁⟩ := (hcompletes x.init (by simp)).callDriver_spec deviceId (.inl hinit)
    { st with opSem := 0 }
  generalize DectLinkLayer.callDriver deviceId _ x.init.driver x.init.events = p at hout hreg₁ ⊢
  obtain ⟨_ | e, st₁⟩ := p
  case err => exact ⟨hout ▸ rfl, hout ▸ hreg₁.trans hreg⟩
  dsimp only at hout hreg₁ ⊢
  obtain ⟨hout₂, hreg₂⟩ := (hcompletes x.configure (by simp)).callDriver_spec deviceId
    (.inr (.inl hconfigure)) st₁
  generalize DectLinkLayer.callDriver deviceId _ x.configure.driver x.configure.events = p
    at hout₂ hreg₂ ⊢
  obtain ⟨_ | e, st₂⟩ := p
  case err => exact ⟨hout ▸ hout₂ ▸ rfl, hout ▸ hout₂ ▸ hreg₂.trans (hreg₁.trans hreg)⟩
  dsimp only at hout₂ hreg₂ ⊢
  obtain ⟨hout₃, hreg₃⟩ := (hcompletes x.activate (by simp)).callDriver_spec deviceId
    (.inr (.inr hactivate)) st₂
  generalize DectLinkLayer.callDriver deviceId _ x.activate.driver x.activate.events = p
    at hout₃ hreg₃ ⊢
  have hreg' := hreg₃.trans (hreg₂.trans (hreg₁.trans hreg))
  -- the first that fails is the first error; with none the instance is initialised
  rw [← hout, ← hout₂, ← hout₃]
  obtain ⟨_ | e, st₃⟩ := p
  · exact ⟨rfl, congrArg (true, ·) (congrArg Prod.snd hreg')⟩
  · exact ⟨rfl, hreg'⟩

end Link

/-! ### The transport layer -/

/-- The private instance of the transport in zeroed memory, its pool without a context. -/
def DectTransportLayer.zeroed : DectTransportLayer where
  initialized := false
  rxPool := ⟨[], [], 0, 0, none⟩
  transportRxCallback := none
  ackSem := 0

/-- `dect_transport_layer_init`. The arguments of `transport_buffer_pool_init` are constants that it
accepts, and the contexts are those of the zeroed memory. -/
def dectTransportLayerInit (link : DectLinkLayer) (st : DectTransportLayer) :
    Ret × DectLinkLayer × DectTransportLayer :=
  if st.initialized then (.err .ealready, link, st)
  else
    let link := (dectLinkLayerRegisterRxCallback link true).2
    (.ok, link, .init st.transportRxCallback)

/-- `dect_transport_layer_register_rx_callback`: a callback can be replaced but not taken back. -/
def dectTransportLayerRegisterRxCallback (st : DectTransportLayer)
    (callback : Option (TransportRxCallback DectTransportExt)) : Ret × DectTransportLayer :=
  if st.initialized = false then (.err .enodev, st)
  else
    match callback with
    | none => (.err .einval, st)
    | some callback => (.ok, { st with transportRxCallback := some callback })

/-! ### Without a callback -/

/-- A consumer that is done with a message when it has been handed it, having taken no reference. -/
def atOnce : TransportRxCallback DectTransportExt := fun _ => 0

/-- A device without a callback, which has handed up nothing, and one with such a consumer. -/
structure Alike (dev dev' : Device) : Prop where
  link : dev'.link = dev.link
  ready : dev.link.Ready
  initialized : dev'.transport.initialized = dev.transport.initialized
  pool : dev'.transport.rxPool = dev.transport.rxPool
  ackSem : dev'.transport.ackSem = dev.transport.ackSem
  writer : dev'.writer = dev.writer
  unregistered : dev.transport.transportRxCallback = none
  registered : dev'.transport.transportRxCallback = some atOnce
  delivered : dev.delivered = []

section Unregistered

variable (params : Option UInt32) (mark : DectTransportExt → DectTransportExt) (now : UInt32)
  (f : Fragment)

/-- Without a callback the reassembly does the same, but hands nothing up: the reference of the
transport is the only one, and it is dropped on both. -/
theorem handleCompleteTransaction_none (p : TransportBufferPool DectTransportExt UInt32) (i : ℕ) :
    (handleCompleteTransaction none p i).2 = [] ∧
      (handleCompleteTransaction (some atOnce) p i).1 = (handleCompleteTransaction none p i).1 ∧
      ∀ e ∈ (handleCompleteTransaction (some atOnce) p i).2, ∃ b, e = .transportRx b := by
  unfold handleCompleteTransaction
  cases hi : p.contexts[i]? with
  | none => exact ⟨rfl, rfl, fun e he => absurd he List.not_mem_nil⟩
  | some b =>
    have hstore : p.store i b = p := by
      unfold TransportBufferPool.store
      obtain ⟨hlt, rfl⟩ := List.getElem?_eq_some_iff.mp hi
      rw [List.set_getElem_self]
    refine ⟨rfl, ?_, fun e he => ⟨b, List.mem_singleton.mp he⟩⟩
    show transportBufferUnref (p.store i b) i = transportBufferUnref p i
    rw [hstore]

/-- The reassembly of one frame without a callback, and with one whose consumer is done at once: the
pool is the same, and the effects but for the messages handed up. -/
structure HandsUpNothing
    (r r' : TransportBufferPool DectTransportExt UInt32 × List (RxEffect DectTransportExt)) :
    Prop where
  pool : r'.1 = r.1
  nothing : deliveriesOf r.2 = []
  acks (d srcId : UInt32) (f : DectTransportLayerDataFrame) :
    acksOf d srcId f r'.2 = acksOf d srcId f r.2

/-- The write of a fragment is the same on both, but for the message that a last fragment hands
up. -/
theorem writeFragment_none (p : TransportBufferPool DectTransportExt UInt32) (i : ℕ) :
    HandsUpNothing (writeFragment none mark now f p i)
      (writeFragment (some atOnce) mark now f p i) := by
  unfold writeFragment
  cases hi : p.contexts[i]? with
  | none => exact ⟨rfl, rfl, fun _ _ _ => rfl⟩
  | some b =>
    dsimp only
    -- only the last fragment makes a difference
    generalize transportBufferWrite now (b.mark mark) f.fragIdx f.payload = w
    obtain ⟨ret, b'⟩ := w
    cases ret with
    | complete =>
      obtain ⟨hnothing, hpool, hmore⟩ := handleCompleteTransaction_none (p.store i b') i
      dsimp only
      rw [hnothing]
      refine ⟨hpool, rfl, fun d srcId f => ?_⟩
      -- what the completion adds is the call of the callback, which acknowledges nothing
      have hacks :
          acksOf d srcId f (handleCompleteTransaction (some atOnce) (p.store i b') i).2 = [] := by
        unfold acksOf
        rw [List.filterMap_eq_nil_iff]
        intro e he
        obtain ⟨b, rfl⟩ := hmore e he
        rfl
      unfold acksOf at hacks ⊢
      rw [List.filterMap_append, List.filterMap_append, hacks]
      rfl
    | _ => exact ⟨rfl, rfl, fun _ _ _ => rfl⟩

/-- And so is the whole reassembly step, the lookup not depending on the callback. -/
theorem handleDataFrame_none (p : TransportBufferPool DectTransportExt UInt32) :
    HandsUpNothing (handleDataFrame none params mark now f p)
      (handleDataFrame (some atOnce) params mark now f p) := by
  unfold handleDataFrame
  split
  · exact ⟨rfl, rfl, fun _ _ _ => rfl⟩
  · next i q _ => exact writeFragment_none mark now f q i

end Unregistered

section Alike

variable {dev dev' : Device} {d : UInt32}

/-- What a device does with a data frame: the reassembly step, its ACK sent and its message handed
up. -/
theorem handUp_dataFrame (hready : dev.link.Ready) (now : UInt32) (out : List (List UInt8))
    {call : RxCall} (htype : frameTypeOf call.buf = some .data)
    (hlen : ¬ call.buf.length < dectTransportLayerDataFrameSizeBytes) :
    let frame := DectTransportLayerDataFrame.ofBytes call.buf
    let r := handleDataFrame dev.transport.transportRxCallback (some call.srcId)
      (fun ext => { ext with srcId := call.srcId }) now frame.fragment dev.transport.rxPool
    Device.handUp d now (dev, out) call =
      ({ dev with
          transport := { dev.transport with rxPool := r.1 }
          delivered := dev.delivered ++ deliveriesOf r.2 },
        out ++ acksOf d call.srcId frame r.2) := by
  -- the frame is longer than the header that all frames have
  have hheader : ¬ call.buf.length < dectTransportLayerFrameHeaderSizeBytes := by
    intro h
    exact hlen (h.trans (by decide))
  unfold Device.handUp prvOnDataLayerRx
  dsimp only
  rw [if_neg hheader, htype]
  dsimp only
  unfold prvHandleDataFrame
  rw [if_neg hlen]
  exact foldl_effect _ { dev with transport := { dev.transport with rxPool := _ } } out hready

/-- One invocation of the link layer's callback sends the same frames on both. -/
theorem Alike.handUp (h : Alike dev dev') (now : UInt32) (out : List (List UInt8)) (call : RxCall) :
    (Device.handUp d now (dev, out) call).2 = (Device.handUp d now (dev', out) call).2 ∧
      Alike (Device.handUp d now (dev, out) call).1 (Device.handUp d now (dev', out) call).1 := by
  have hready' : dev'.link.Ready := by
    rw [h.link]
    exact h.ready
  -- dropped, an ACK, or too short for a data frame: the callback does not matter
  by_cases hheader : call.buf.length < dectTransportLayerFrameHeaderSizeBytes
  · unfold Device.handUp prvOnDataLayerRx
    dsimp only
    rw [if_pos hheader, if_pos hheader]
    exact ⟨rfl, { h with }⟩
  cases htype : frameTypeOf call.buf with
  | none =>
    unfold Device.handUp prvOnDataLayerRx
    dsimp only
    rw [if_neg hheader, if_neg hheader, htype]
    exact ⟨rfl, { h with }⟩
  | some type =>
  cases type with
  -- an ACK gives the semaphore on both
  | dataAck =>
    unfold Device.handUp prvOnDataLayerRx
    dsimp only
    rw [if_neg hheader, if_neg hheader, htype]
    exact ⟨rfl, { h with ackSem := congrArg (fun n => min (n + 1) 1) h.ackSem }⟩
  | data =>
    by_cases hlen : call.buf.length < dectTransportLayerDataFrameSizeBytes
    · unfold Device.handUp prvOnDataLayerRx
      dsimp only
      rw [if_neg hheader, if_neg hheader, htype]
      dsimp only
      unfold prvHandleDataFrame
      rw [if_pos hlen, if_pos hlen]
      exact ⟨rfl, { h with }⟩
    · -- a fragment, in pools that are equal
      rw [handUp_dataFrame h.ready now out htype hlen, handUp_dataFrame hready' now out htype hlen,
        h.unregistered, h.registered, h.pool]
      obtain ⟨hpool, hnothing, hacks⟩ := handleDataFrame_none (some call.srcId)
        (fun ext => { ext with srcId := call.srcId }) now
        (DectTransportLayerDataFrame.ofBytes call.buf).fragment dev.transport.rxPool
      refine ⟨congrArg (out ++ ·) (hacks d call.srcId _).symm,
        { h with pool := hpool, delivered := ?_ }⟩
      show dev.delivered ++ deliveriesOf _ = []
      rw [h.delivered, hnothing]
      rfl

/-- An iteration of the link layer's thread, which invokes the callback at most once. -/
theorem Alike.iterate (h : Alike dev dev') (now : UInt32) (it : Iteration) :
    (dev.iterate d now it).2 = (dev'.iterate d now it).2 ∧
      Alike (dev.iterate d now it).1 (dev'.iterate d now it).1 := by
  -- over the calls of the callback, with what they have sent so far
  have hfoldl : ∀ (calls : List RxCall) (out : List (List UInt8)) (dev dev' : Device),
      Alike dev dev' →
      (calls.foldl (Device.handUp d now) (dev, out)).2 =
          (calls.foldl (Device.handUp d now) (dev', out)).2 ∧
        Alike (calls.foldl (Device.handUp d now) (dev, out)).1
          (calls.foldl (Device.handUp d now) (dev', out)).1 := by
    intro calls
    induction calls with
    | nil => exact fun out dev dev' h => ⟨rfl, h⟩
    | cons call calls ih =>
      intro out dev dev' h
      obtain ⟨hout, hnext⟩ := h.handUp (d := d) now out call
      rw [List.foldl_cons, List.foldl_cons]
      generalize Device.handUp d now (dev, out) call = r at hout hnext ⊢
      generalize Device.handUp d now (dev', out) call = r' at hout hnext ⊢
      obtain ⟨dev₁, out₁⟩ := r
      obtain ⟨dev₁', out₁'⟩ := r'
      obtain rfl : out₁ = out₁' := hout
      exact ih out₁ dev₁ dev₁' hnext
  unfold Device.iterate
  dsimp only
  rw [h.link]
  refine hfoldl _ [] _ _ { h with link := rfl, ready := ?_ }
  exact (prvLinkLayerThread_registration d dev.link it).trans h.ready

/-- **An input** leads to the same frames and to devices that are alike. -/
theorem Alike.step (h : Alike dev dev') (x : DeviceInput) :
    (dev.step d x).2 = (dev'.step d x).2 ∧ Alike (dev.step d x).1 (dev'.step d x).1 := by
  cases x with
  | iteration now it => exact h.iterate now it
  | release i =>
    unfold Device.step
    -- the pools are equal, so they hold the same message at `i` or none
    dsimp only
    rw [h.pool]
    cases dev.transport.rxPool.contexts[i]? with
    | none => exact ⟨rfl, h⟩
    | some b =>
      dsimp only
      split
      · exact ⟨rfl, { h with pool := congrArg (transportBufferUnref · i) h.pool }⟩
      · exact ⟨rfl, h⟩
  -- a call begins on both or on neither
  | startWrite call =>
    unfold Device.step
    dsimp only
    rw [h.writer]
    cases dev.writer with
    | some _ => exact ⟨rfl, h⟩
    | none =>
      refine ⟨rfl, { h with writer := ?_ }⟩
      unfold Device.startWrite
      rw [h.initialized]
  | writer =>
    unfold Device.step
    dsimp only
    rw [h.writer]
    cases dev.writer with
    | none => exact ⟨rfl, h⟩
    | some w =>
      obtain ⟨call, p⟩ := w
      cases p with
      | ret r => exact ⟨rfl, { h with writer := rfl }⟩
      | reset k => exact ⟨rfl, { h with writer := rfl, ackSem := rfl }⟩
      | send y k =>
        unfold Device.writerStep
        dsimp only
        rw [h.link]
        exact ⟨rfl, { h with link := rfl, writer := rfl }⟩
      | take t k =>
        -- the semaphores are equal, so both wait or neither
        unfold Device.writerStep
        dsimp only
        rw [h.ackSem]
        split
        · exact ⟨rfl, { h with writer := rfl, ackSem := rfl }⟩
        · exact ⟨rfl, { h with writer := rfl }⟩

end Alike

/-! ### What it has acknowledged -/

/-- The frame by which device `d` acknowledges fragment `fragIdx` of the message `seqId` to its
source. -/
def ackFrame (d srcId : UInt32) (seqId : UInt16) (fragIdx : UInt8) : List UInt8 :=
  dectLinkLayerFrame d srcId (DectTransportLayerDataFrameAck.mk seqId fragIdx).toBytes

/-- What a RECEIVING context of device `d` holds has come in pieces, one for each step of its
counter, and each of them has been acknowledged by its index. The exception is a last fragment with
which the message falls short of its announced size: `transport_buffer_write` adds and counts it,
and reports an invalid final size, which is not acknowledged. -/
def HoldsAcked (d : UInt32) (out : List (List UInt8)) (b : DectTransportBuffer) : Prop :=
  ∃ pieces : List (List UInt8), [] ∉ pieces ∧ pieces.flatten = b.data ∧
    UInt8.ofNat pieces.length = b.fragIdx ∧
    ∀ k < pieces.length, UInt8.ofNat k + 1 ≠ b.fragTotal →
      ackFrame d b.ext.srcId b.seqId (UInt8.ofNat k) ∈ out

/-- A message has come in pieces, and device `d` has acknowledged every one of them to its source.
-/
def MessageAcked (d : UInt32) (out : List (List UInt8)) (m : Delivery) : Prop :=
  ∃ pieces : List (List UInt8), pieces ≠ [] ∧ [] ∉ pieces ∧ pieces.flatten = m.data ∧
    ∀ k < pieces.length, ackFrame d m.srcId m.seqId (UInt8.ofNat k) ∈ out

section Acked

variable {callback : Option (TransportRxCallback DectTransportExt)} {dev : Device}
  {d srcId now : UInt32} {out out' : List (List UInt8)} {b : DectTransportBuffer}
  {f : DectTransportLayerDataFrame} {p q : TransportBufferPool DectTransportExt UInt32} {i : ℕ}
  {effects : List (RxEffect DectTransportExt)}

/-- What has been acknowledged remains so when more frames are sent. -/
theorem HoldsAcked.mono (h : HoldsAcked d out b) (hsub : out ⊆ out') : HoldsAcked d out' b := by
  obtain ⟨pieces, hne, hdata, hidx, hacked⟩ := h
  exact ⟨pieces, hne, hdata, hidx, fun k hk hlast => hsub (hacked k hk hlast)⟩

/-- The same for a message. -/
theorem MessageAcked.mono {m : Delivery} (h : MessageAcked d out m) (hsub : out ⊆ out') :
    MessageAcked d out' m := by
  obtain ⟨pieces, hpieces, hne, hdata, hacked⟩ := h
  exact ⟨pieces, hpieces, hne, hdata, fun k hk => hsub (hacked k hk)⟩

/-- A fragment is added to the context. Its ACK is among the frames unless it is the last one, which
is acknowledged only if it completes the message. -/
theorem HoldsAcked.accept (h : HoldsAcked d out b) (hbuffer : b.buffer ≠ none)
    {payload : List UInt8} (hpayload : payload ≠ [])
    (hack : b.fragIdx + 1 ≠ b.fragTotal → ackFrame d b.ext.srcId b.seqId b.fragIdx ∈ out) :
    HoldsAcked d out (b.accept now payload) := by
  obtain ⟨pieces, hne, hdata, hidx, hacked⟩ := h
  refine ⟨pieces ++ [payload], ?_, ?_, ?_, fun k hk hlast => ?_⟩
  · rw [List.mem_append, List.mem_singleton]
    exact not_or.mpr ⟨hne, hpayload.symm⟩
  · rw [accept_data now payload hbuffer, List.flatten_append, hdata, List.flatten_singleton]
  · rw [List.length_append, List.length_singleton, accept_fragIdx, ← hidx, UInt8.ofNat_add]
    rfl
  · rw [List.length_append, List.length_singleton] at hk
    rcases Nat.lt_succ_iff_lt_or_eq.mp hk with hk | rfl
    · exact hacked k hk hlast
    · rw [hidx] at hlast ⊢
      exact hack hlast

/-- When the last fragment has been acknowledged too, then so have they all, and what the context
holds is an acknowledged message. -/
theorem HoldsAcked.message (h : HoldsAcked d out b) (hdata : b.data ≠ [])
    (hack : ∀ fragIdx : UInt8, fragIdx + 1 = b.fragTotal →
      ackFrame d b.ext.srcId b.seqId fragIdx ∈ out) :
    MessageAcked d out ⟨b.ext.srcId, b.seqId, b.data⟩ := by
  obtain ⟨pieces, hne, hflatten, -, hacked⟩ := h
  refine ⟨pieces, ?_, hne, hflatten, fun k hk => ?_⟩
  · rintro rfl
    exact hdata hflatten.symm
  · by_cases hlast : UInt8.ofNat k + 1 = b.fragTotal
    · exact hack _ hlast
    · exact hacked k hk hlast

/-- The context that a fragment of `srcId` obtains is one that holds pieces of the same source, or a
new one, which holds none. Either way it can be marked with the source. -/
theorem ReceiverInv.holdsAcked_mark (h : ReceiverInv callback dev)
    (hheld : ReceivingAll (HoldsAcked d out) dev.transport.rxPool)
    (hq : Obtained dev.transport.rxPool now f.fragment (some srcId) i b q) :
    HoldsAcked d out (b.mark fun ext => { ext with srcId }) := by
  rcases hq.found_or_fresh (dectKeyed h.query srcId) with ⟨hi, -, hm⟩ | ⟨-, hidx, hdata, -⟩
  · obtain ⟨pieces, hacked⟩ := hheld i b hi hm.receiving
    have hext : b.mark (fun ext => { ext with srcId }) = b := by
      unfold TransportBuffer.mark
      rw [hm.ext, ← hm.ext]
    rw [hext]
    exact ⟨pieces, hacked⟩
  · exact ⟨[], List.not_mem_nil, hdata.symm, hidx.symm, fun k hk => absurd hk (Nat.not_lt_zero k)⟩

/-- **A data frame.** What it adds to a context is acknowledged by the same step, and the ACK of the
fragment that completes a message is the last one that was missing. -/
theorem ReceiverInv.acked_poolStep (h : ReceiverInv callback dev)
    (hheld : ReceivingAll (HoldsAcked d out) dev.transport.rxPool)
    (hdelivered : ∀ m ∈ dev.delivered, MessageAcked d out m)
    (hstep : dev.PoolStep now srcId f q effects) :
    ReceivingAll (HoldsAcked d (out ++ acksOf d srcId f effects)) q ∧
      ∀ m ∈ dev.delivered ++ deliveriesOf effects,
        MessageAcked d (out ++ acksOf d srcId f effects) m := by
  -- what was sent before stays sent, so it is enough to look at the one context
  have hsub : out ⊆ out ++ acksOf d srcId f effects := List.subset_append_left _ _
  have hheld' : ReceivingAll (HoldsAcked d (out ++ acksOf d srcId f effects))
      dev.transport.rxPool := fun j c hj hc => (hheld j c hj hc).mono hsub
  have hold : ∀ m ∈ dev.delivered, MessageAcked d (out ++ acksOf d srcId f effects) m :=
    fun m hm => (hdelivered m hm).mono hsub
  -- the context with its fragment added, when the step has acknowledged it where it has to
  have haccept : ∀ {i b q}, Obtained dev.transport.rxPool now f.fragment (some srcId) i b q →
      f.fragment.payload ≠ [] → f.fragment.fragIdx = b.fragIdx →
      (b.fragIdx + 1 ≠ b.fragTotal →
        ackFrame d srcId f.seqId f.fragIdx ∈ out ++ acksOf d srcId f effects) →
      HoldsAcked d (out ++ acksOf d srcId f effects)
        ((b.mark fun ext => { ext with srcId }).accept now f.fragment.payload) := by
    intro i b q hq hdata hidx hack
    refine (h.holdsAcked_mark hheld' hq).accept (hq.buffer_ne_none h.pool) hdata fun hlast => ?_
    have hseq : b.seqId = f.seqId := hq.seqId
    show ackFrame d srcId b.seqId b.fragIdx ∈ _
    rw [hseq, ← hidx]
    exact hack hlast
  cases hstep with
  | refused hq =>
    rw [show deliveriesOf [] = [] from rfl, List.append_nil]
    exact ⟨hq.receivingAll hheld', hold⟩
  -- a fragment that is not added changes the lookup's context at most
  | rejected hq =>
    rw [show deliveriesOf [_] = [] from rfl, List.append_nil]
    exact ⟨hq.receivingAll_store hheld' fun _ => h.holdsAcked_mark hheld' hq, hold⟩
  | duplicate hq =>
    rw [show deliveriesOf [_, _] = [] from rfl, List.append_nil]
    exact ⟨hq.receivingAll_store hheld' fun _ => h.holdsAcked_mark hheld' hq, hold⟩
  | success hq hdata hidx =>
    rw [show deliveriesOf [_, _, _] = [] from rfl, List.append_nil]
    exact ⟨hq.receivingAll_store hheld' fun _ =>
      haccept hq hdata hidx fun _ => List.mem_append_right _ List.mem_cons_self, hold⟩
  | invalidFinalSize hq hdata hidx _ hlast =>
    -- the exception: added and counted, but not acknowledged
    rw [show deliveriesOf [_, _] = [] from rfl, List.append_nil]
    exact ⟨hq.receivingAll_store hheld' fun _ =>
      haccept hq hdata hidx fun hnot => absurd hlast hnot, hold⟩
  | @complete i b b' q hq hdata hidx hlast hlen hb' =>
    -- the last fragment is acknowledged before the message is handed up
    have hack : ackFrame d srcId f.seqId f.fragIdx ∈ out ++ acksOf d srcId f
        ([.wrote .complete, .netBufAddMem b'.len, .ack] ++
          if dev.transport.transportRxCallback.isSome then [.transportRx b'] else []) :=
      List.mem_append_right _ List.mem_cons_self
    have hfull := haccept hq hdata hidx fun _ => hack
    refine ⟨hq.receivingAll_complete hheld' (by rw [hb']; exact TransportBufferState.noConfusion),
      List.forall_mem_append.mpr ⟨hold, fun m hm => ?_⟩⟩
    -- the message is what the context holds
    obtain rfl : m = ⟨b'.ext.srcId, b'.seqId, b'.data⟩ := by
      cases hcallback : dev.transport.transportRxCallback with
      | none =>
        rw [hcallback] at hm
        cases hm
      | some callback =>
        rw [hcallback] at hm
        exact List.mem_singleton.mp hm
    have hmsg : (⟨b'.ext.srcId, b'.seqId, b'.data⟩ : Delivery) =
        let c := (b.mark fun ext => { ext with srcId }).accept now f.fragment.payload
        ⟨c.ext.srcId, c.seqId, c.data⟩ := by
      rw [hb']
      rfl
    rw [hmsg]
    refine hfull.message ?_ fun fragIdx hnext => ?_
    · have hbuffer : (b.mark fun ext => { ext with srcId }).buffer ≠ none :=
        hq.buffer_ne_none h.pool
      rw [accept_data _ _ hbuffer]
      exact fun hnil => hdata (List.append_eq_nil_iff.mp hnil).2
    · -- the index before the total is that of the fragment
      have hseq : b.seqId = f.seqId := hq.seqId
      have hfragIdx : fragIdx = f.fragIdx := by
        have hlast' : f.fragment.fragIdx + 1 = b.fragTotal := by
          rw [hidx]
          exact hlast
        exact (UInt8.add_left_inj 1).mp (hnext.trans hlast'.symm)
      show ackFrame d srcId b.seqId fragIdx ∈ _
      rw [hseq, hfragIdx]
      exact hack

/-- **The invariant** of a device `d` that has sent the frames `out`: what its contexts hold and
what it has handed up has been acknowledged. -/
structure AckedInv (callback : Option (TransportRxCallback DectTransportExt)) (d : UInt32)
    (dev : Device) (out : List (List UInt8)) : Prop where
  receiver : ReceiverInv callback dev
  held : ReceivingAll (HoldsAcked d out) dev.transport.rxPool
  delivered : ∀ m ∈ dev.delivered, MessageAcked d out m

/-- A device that has just been initialised holds nothing and has handed up nothing. -/
theorem AckedInv.init (callback : Option (TransportRxCallback DectTransportExt)) (d : UInt32) :
    AckedInv callback d (Device.init callback) [] where
  receiver := .init callback
  held i b hi hb := by
    rw [List.eq_of_mem_replicate (List.mem_of_getElem? hi)] at hb
    cases hb
  delivered := fun _ hm => absurd hm List.not_mem_nil

/-- More frames are sent, by the writer of the device for instance. -/
theorem AckedInv.mono (h : AckedInv callback d dev out) (hsub : out ⊆ out') :
    AckedInv callback d dev out' where
  receiver := h.receiver
  held := fun i b hi hb => (h.held i b hi hb).mono hsub
  delivered := fun m hm => (h.delivered m hm).mono hsub

/-- One invocation of the link layer's callback, which sends behind the frames `sent` of the same
iteration. -/
theorem AckedInv.handUp {sent : List (List UInt8)} (h : AckedInv callback d dev (out ++ sent))
    (now : UInt32) (call : RxCall) :
    AckedInv callback d (Device.handUp d now (dev, sent) call).1
      (out ++ (Device.handUp d now (dev, sent) call).2) := by
  have hreceiver := h.receiver.handUp (d := d) now sent call
  revert hreceiver
  unfold Device.handUp
  dsimp only
  have hspec := prvOnDataLayerRx_spec now call.srcId call.buf dev.transport
  generalize (prvOnDataLayerRx now call.srcId call.buf dev.transport).1 = st at hspec
  generalize (prvOnDataLayerRx now call.srcId call.buf dev.transport).2 = effects at hspec
  intro hreceiver
  cases hspec with
  -- neither a frame that is dropped nor an ACK concerns the contexts
  | dropped => exact ⟨hreceiver, h.held, h.delivered⟩
  | ack => exact ⟨hreceiver, h.held, h.delivered⟩
  | @data f q effects hpool =>
    -- the effects of the callback send its ACK and hand up its message
    rw [foldl_effect effects { dev with transport := { dev.transport with rxPool := q } } sent
      h.receiver.ready] at hreceiver ⊢
    obtain ⟨hheld, hdelivered⟩ := h.receiver.acked_poolStep h.held h.delivered hpool
    dsimp only
    rw [← List.append_assoc]
    exact ⟨hreceiver, hheld, hdelivered⟩

/-- The invocations of one iteration, one after another. -/
theorem AckedInv.foldl_handUp {sent : List (List UInt8)} (now : UInt32) (calls : List RxCall)
    (h : AckedInv callback d dev (out ++ sent)) :
    AckedInv callback d (calls.foldl (Device.handUp d now) (dev, sent)).1
      (out ++ (calls.foldl (Device.handUp d now) (dev, sent)).2) := by
  induction calls generalizing dev sent with
  | nil => exact h
  | cons call calls ih => exact ih (h.handUp now call)

/-- **Every input keeps the invariant.** Only the frames of the air concern the contexts; a release
frees one that is not RECEIVING. -/
theorem AckedInv.step (h : AckedInv callback d dev out) (x : DeviceInput) :
    AckedInv callback d (dev.step d x).1 (out ++ (dev.step d x).2) := by
  have hreceiver := h.receiver.step (d := d) x
  cases x with
  -- an iteration begins with nothing sent, and its callbacks send behind what the run has sent
  | iteration now it =>
    refine AckedInv.foldl_handUp now _ ?_
    rw [List.append_nil]
    exact ⟨{ h.receiver with
      ready := (prvLinkLayerThread_registration d dev.link it).trans h.receiver.ready },
      h.held, h.delivered⟩
  | release i =>
    unfold Device.step at hreceiver ⊢
    dsimp only at hreceiver ⊢
    cases hi : dev.transport.rxPool.contexts[i]? with
    | none => exact h.mono (List.subset_append_left _ _)
    | some b =>
      rw [hi] at hreceiver
      dsimp only at hreceiver ⊢
      -- a release of a context that nobody holds is no step
      by_cases hb : b.state = .referenced
      · rw [if_pos hb] at hreceiver ⊢
        rw [List.append_nil]
        exact ⟨hreceiver, h.held.unref hi (ne_receiving_of_referenced hb), h.delivered⟩
      · rw [if_neg hb]
        exact h.mono (List.subset_append_left _ _)
  | startWrite call =>
    unfold Device.step at hreceiver ⊢
    dsimp only at hreceiver ⊢
    cases hw : dev.writer with
    | some _ => exact h.mono (List.subset_append_left _ _)
    | none =>
      rw [hw] at hreceiver
      dsimp only at hreceiver ⊢
      rw [List.append_nil]
      exact ⟨hreceiver, h.held, h.delivered⟩
  -- what a call sends is data, which makes no promise about the contexts
  | writer =>
    unfold Device.step at hreceiver ⊢
    dsimp only at hreceiver ⊢
    cases hw : dev.writer with
    | none => exact h.mono (List.subset_append_left _ _)
    | some w =>
      rw [hw] at hreceiver
      have hmono := h.mono (List.subset_append_left out (dev.writerStep d w.1 w.2).2)
      obtain ⟨-, hdelivered, hpool⟩ := writerStep_history d w.1 dev w.2
      refine ⟨hreceiver, ?_, ?_⟩
      · rw [hpool]
        exact hmono.held
      · rw [hdelivered]
        exact hmono.delivered

/-- After every run the messages that a device has handed up have been acknowledged, and so has what
its contexts hold. -/
theorem ackedInv_runs (callback : Option (TransportRxCallback DectTransportExt)) (d : UInt32)
    (history : List DeviceInput) :
    AckedInv callback d (runs (Device.step d) (Device.init callback) history)
      (outputs (Device.step d) (Device.init callback) history) := by
  have hinit : AckedInv callback d (Device.init callback) [] := .init callback d
  have hrun := runs_outputs_invariant (P := AckedInv callback d) (fun _ _ x h => h.step x) history
    hinit
  rwa [List.nil_append] at hrun

end Acked

end DectCommunicator
