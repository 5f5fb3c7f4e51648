import DectCommunicator.Dect.NetworkSpec

/-!
# A single device under arbitrary traffic

The states a device can be in, whatever reaches it: any iterations of its link-layer thread (with
any PHY events, so with any frames, well formed or not), any releases by its consumer and any
writes of its own. `ReceiverInv` is what holds of all of them (`receiverInv_runs`): the pool is in
order, its keys are unique, and the configuration is that of `dect_transport_layer_init`.
-/

namespace DectCommunicator

open Machine StopAndWait

/-! ### Inputs -/

/-- What happens to a device: an iteration of the link-layer thread at some uptime, a release of
the message in context `i`, the start of a call or its next effect. -/
inductive DeviceInput where
  | iteration (now : UInt32) (it : Iteration)
  | release (i : ℕ)
  | startWrite (call : Call)
  | writer

/-- An iteration of `prv_link_layer_thread` with the transport layer on top of it: the rx callback
runs in the thread, before the next window opens. -/
def Device.iterate (d now : UInt32) (dev : Device) (it : Iteration) :
    Device × List (List UInt8) :=
  let w := prvLinkLayerThread d dev.link it
  w.2.foldl (Device.handUp d now) ({ dev with link := w.1 }, [])

/-- Device `d` after one input, and the frames it sent; an input that is not possible is void. -/
def Device.step (d : UInt32) (dev : Device) : DeviceInput → Device × List (List UInt8)
  | .iteration now it => dev.iterate d now it
  | .release i =>
    match dev.transport.rxPool.contexts[i]? with
    | some b => if b.state = .referenced then (dev.release i, []) else (dev, [])
    | none => (dev, [])
  | .startWrite call =>
    match dev.writer with
    | none => (dev.startWrite call, [])
    | some _ => (dev, [])
  | .writer =>
    match dev.writer with
    | none => (dev, [])
    -- the semaphore that this step looks at is given by the iterations in between
    | some (call, p) => dev.writerStep d call p

/-! ### The transport on arbitrary bytes -/

/-- What the transport does with the bytes it is handed: it drops them, takes them for an ACK, or
passes a fragment on to the reassembly step. -/
inductive TransportRx (now srcId : UInt32) (st : DectTransportLayer) :
    DectTransportLayer → List DectRxEffect → Prop
  | dropped : TransportRx now srcId st st []
  | ack : TransportRx now srcId st (prvHandleDataAckFrame st) []
  | data (f : DectTransportLayerDataFrame) {q : TransportBufferPool DectTransportExt UInt32}
      {effects : List (RxEffect DectTransportExt)}
      (hpool : DataFrameStep st.transportRxCallback (some srcId)
        (fun ext => { ext with srcId }) now f.fragment st.rxPool q effects) :
      TransportRx now srcId st { st with rxPool := q } (effects.map (dectRxEffect srcId f))

/-- **Inversion of `prv_on_data_layer_rx`.** It holds of any bytes, whereas `prvOnDataLayerRx_data`
is about those of a well-formed frame. -/
theorem prvOnDataLayerRx_spec (now srcId : UInt32) (buf : List UInt8) (st : DectTransportLayer) :
    TransportRx now srcId st (prvOnDataLayerRx now srcId buf st).1
      (prvOnDataLayerRx now srcId buf st).2 := by
  unfold prvOnDataLayerRx
  split
  · exact .dropped
  split
  · unfold prvHandleDataFrame
    split
    · exact .dropped
    · exact .data _ (handleDataFrame_spec _ _ _ _ _ _)
  · exact .ack
  · exact .dropped

/-! ### The invariant -/

/-- What holds of a device in every state it can reach, whatever the frames it was sent contain. -/
structure ReceiverInv (callback : Option (TransportRxCallback DectTransportExt)) (dev : Device) :
    Prop where
  ready : dev.link.Ready
  initialized : dev.transport.initialized = true
  pool : PoolInv dev.transport.rxPool
  query : dev.transport.rxPool.additionalQueryCb = some prvAdditionalQueryMatches
  unique : KeyUnique dev.transport.rxPool
  timeout : dev.transport.rxPool.rxTimeoutMs = UInt32.ofNat dectTransportLayerRxTimeoutMs
  callback : dev.transport.transportRxCallback = callback

section Invariant

variable {callback : Option (TransportRxCallback DectTransportExt)} {dev : Device} {d : UInt32}

/-- It holds of a device that has just been initialised. -/
theorem ReceiverInv.init (callback : Option (TransportRxCallback DectTransportExt)) :
    ReceiverInv callback (Device.init callback) where
  ready := rfl
  initialized := rfl
  pool := .init _ _ _ _ _
  query := rfl
  unique := .init _ _ _ _ _
  timeout := rfl
  callback := rfl

/-- A data frame keeps it: the reassembly step keeps the order of the pool and the uniqueness of its
keys, and changes no configuration. -/
theorem ReceiverInv.poolStep (h : ReceiverInv callback dev) {now srcId : UInt32}
    {f : DectTransportLayerDataFrame} {q : TransportBufferPool DectTransportExt UInt32}
    {effects : List (RxEffect DectTransportExt)} (hpool : dev.PoolStep now srcId f q effects)
    {link : DectLinkLayer} (hlink : link.Ready) (delivered : List Delivery) :
    ReceiverInv callback
      { dev with link, transport := { dev.transport with rxPool := q }, delivered } :=
  { h with
    ready := hlink
    pool := hpool.poolInv h.pool
    query := hpool.config.1.trans h.query
    unique := hpool.keyUnique (dectKeyed h.query srcId) h.unique
    timeout := hpool.config.2.2.trans h.timeout }

/-- One invocation of the link layer's callback keeps it, with any source id and any bytes. -/
theorem ReceiverInv.handUp (h : ReceiverInv callback dev) (now : UInt32)
    (out : List (List UInt8)) (call : RxCall) :
    ReceiverInv callback (Device.handUp d now (dev, out) call).1 := by
  unfold Device.handUp
  dsimp only
  have hspec := prvOnDataLayerRx_spec now call.srcId call.buf dev.transport
  -- Only the inversion is used of the handler's result.
  generalize (prvOnDataLayerRx now call.srcId call.buf dev.transport).1 = st at hspec
  generalize (prvOnDataLayerRx now call.srcId call.buf dev.transport).2 = effects at hspec
  cases hspec with
  | dropped => exact { h with }
  -- the semaphore is not in the invariant
  | ack => exact { h with }
  | @data f q effects hpool =>
    rw [foldl_effect effects { dev with transport := { dev.transport with rxPool := q } } out h.ready]
    exact h.poolStep hpool h.ready _

/-- Any number of invocations keeps it; the link layer makes at most one in a window. -/
theorem ReceiverInv.foldl_handUp (h : ReceiverInv callback dev) (now : UInt32)
    (out : List (List UInt8)) (calls : List RxCall) :
    ReceiverInv callback (calls.foldl (Device.handUp d now) (dev, out)).1 := by
  induction calls generalizing dev out with
  | nil => exact h
  | cons call calls ih => exact ih (h.handUp now out call) _

/-- An iteration of the thread keeps it, with any events and any results of the driver. -/
theorem ReceiverInv.iterate (h : ReceiverInv callback dev) (now : UInt32) (it : Iteration) :
    ReceiverInv callback (dev.iterate d now it).1 := by
  have hdev : ReceiverInv callback { dev with link := (prvLinkLayerThread d dev.link it).1 } :=
    { h with ready := (prvLinkLayerThread_registration d dev.link it).trans h.ready }
  exact hdev.foldl_handUp now [] _

/-- A receive window in which a frame arrives keeps it: it is one iteration that sends nothing. -/
theorem ReceiverInv.receive (h : ReceiverInv callback dev) (now : UInt32) (frame : List UInt8)
    (beyond : ℕ → UInt8) : ReceiverInv callback (dev.receive d now frame beyond).1 := by
  have hdev : ReceiverInv callback { dev with link := (receiveWindow d dev.link .ok
      [.pdc frame, .completed 0] beyond).1 } :=
    { h with ready := receiveWindow_ready h.ready _ _ _ _ }
  exact hdev.foldl_handUp now [] _

/-- The consumer of a message drops a reference, the last one or another. -/
theorem ReceiverInv.release (h : ReceiverInv callback dev) {i : ℕ} {b : DectTransportBuffer}
    (hi : dev.transport.rxPool.contexts[i]? = some b) (hb : b.state = .referenced) :
    ReceiverInv callback (dev.release i) :=
  { h with
    pool := h.pool.unref i
    query := (unref_additionalQueryCb _ i).trans h.query
    unique := h.unique.unref hi (ne_receiving_of_referenced hb)
    timeout := (unref_rxTimeoutMs _ i).trans h.timeout }

/-- A step of the writer touches nothing but the semaphore and its own history. -/
theorem ReceiverInv.writerStep (h : ReceiverInv callback dev) (call : Call)
    (p : Proc Errno LinkWrite Ret) : ReceiverInv callback (dev.writerStep d call p).1 := by
  cases p with
  | ret r => exact { h with }
  | reset k => exact { h with }
  | send x k => exact { h with }
  | take t k =>
    unfold Device.writerStep
    dsimp only
    -- the semaphore was up, or the wait timed out
    split <;> exact { h with }

/-- **Every input keeps the invariant**, the void ones trivially. -/
theorem ReceiverInv.step (h : ReceiverInv callback dev) (x : DeviceInput) :
    ReceiverInv callback (dev.step d x).1 := by
  cases x with
  | iteration now it => exact h.iterate now it
  | release i =>
    rw [Device.step]
    split
    · -- the router gives up its reference to a message that was handed up
      next b hi =>
      split
      · next hb => exact h.release hi hb
      · exact h
    · exact h
  | startWrite call =>
    rw [Device.step]
    split
    · exact { h with }
    · exact h
  | writer =>
    rw [Device.step]
    split
    · exact h
    · next call p hp => exact h.writerStep call p

/-- Every device that has been through any inputs satisfies it. Results about one device start from
here instead of from the inputs. -/
theorem receiverInv_runs (callback : Option (TransportRxCallback DectTransportExt)) (d : UInt32)
    (history : List DeviceInput) :
    ReceiverInv callback (runs (Device.step d) (Device.init callback) history) :=
  runs_invariant (P := ReceiverInv callback) (C := fun _ => True) (fun _ x h _ => h.step x)
    (fun _ _ => trivial) (.init callback)

end Invariant

end DectCommunicator
