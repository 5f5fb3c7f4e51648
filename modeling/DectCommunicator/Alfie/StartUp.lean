import DectCommunicator.Alfie.Registration
import DectCommunicator.Alfie.System
import DectCommunicator.Ble.Core
import DectCommunicator.Dect.StartUp

/-!
# Starting a device

`main`: nine calls, an error of any of which ends it. It runs beside the threads that the calls
before have started and the callbacks of the host, so between two calls frames arrive, clients
connect and write, and messages are completed.

In every such run `main` returns the first error of the calls that leave the firmware, and 0 if
there is none: no check of the firmware's own modules fails, since every module is initialised
before it is used. A device on which it has returned 0 is as the other modules take it, and until
the two transports are registered nothing is handed up (`main_returns`), although the DECT transport
already acknowledges what it receives (`unregistered_answers`). When `bt_enable` fails this is so
for good.
-/

namespace DectCommunicator

open Machine SinglyLinked StopAndWait

/-! ### The board -/

/-- What the calls that leave the firmware return, into the modem library, the GPIO driver and the
Bluetooth host. Any of them may fail. -/
structure External where
  modem : ModemStart
  gpioReady : Bool
  gpioConfigure : Ret
  btEnable : Ret

/-- The results that `main` depends on; the reset of the nRF5340 is not among them. -/
def External.results (x : External) : List Ret := x.modem.results ++ [x.btEnable]

/-- The calls of `main`, by the functions they are of. -/
inductive MainCall where
  | dectLinkLayerInit
  | dectTransportLayerInit
  | bleCoreInit
  | alfieBleServiceInit
  | bleCoreStartAdvertising
  | alfieRouterInit
  | registerDectTransport
  | registerBleTransport
  | alfieMessagingEndpointInit
deriving DecidableEq, Repr

/-- Their order in `main`, which stops at the first that returns an error. -/
def mainCalls : List MainCall :=
  [.dectLinkLayerInit, .dectTransportLayerInit, .bleCoreInit, .alfieBleServiceInit,
    .bleCoreStartAdvertising, .alfieRouterInit, .registerDectTransport, .registerBleTransport,
    .alfieMessagingEndpointInit]

/-- The address of the messaging endpoint, which identifies its node in the list of endpoints. -/
def messagingEndpointAddr : ℕ := 0

/-- The private instances of the modules, the messages that the service has handed up, and `main`:
the calls that have returned 0, those to come, and its result. -/
structure Board where
  dev : Device
  host : BleHost
  service : AlfieBleService
  handedUp : List (List UInt8)
  registry : Registry
  messaging : Bool
  done : List MainCall
  todo : List MainCall
  ret : Option Ret

/-- A device that has been switched on: every static variable is zero, and `main` has all its calls
before it. -/
def Board.zeroed : Board where
  dev :=
    { link := .zeroed
      transport := .zeroed
      writer := none
      calls := []
      returned := []
      delivered := []
      lastSent := none }
  host := .zeroed
  service := .zeroed
  handedUp := []
  registry := ⟨false, .init fun _ => none, .init fun _ => none⟩
  messaging := false
  done := []
  todo := mainCalls
  ret := none

section Calls

variable (deviceId : UInt32) (x : External) (b : Board)

/-- `alfie_router_register_transport(dect_transport_layer_get_transport())`: the router installs its
callback in the layer, which it can only when the layer is initialised. -/
def Board.registerDectTransport : Ret × Board :=
  let transport := if b.dev.transport.initialized then some dectTransport.addr else none
  let rx := dectTransportLayerRegisterRxCallback b.dev.transport (some routerReferences)
  let r := alfieRouterRegisterTransport b.registry
    (transport.map fun addr => ⟨addr, some ⟨true, some rx.1⟩⟩)
  -- the router calls `register_rx_cb` after its own checks
  if b.registry.initialized && transport.isSome then
    (r.1, { b with registry := r.2, dev := { b.dev with transport := rx.2 } })
  else (r.1, { b with registry := r.2 })

/-- `alfie_router_register_transport(alfie_ble_service_get_transport())`, which installs the
callback in the BLE service. -/
def Board.registerBleTransport : Ret × Board :=
  let transport := if b.service.initialized then some bleTransport.addr else none
  let rx := alfieBleServiceRegisterRxCallback b.service (some routerReferences)
  let r := alfieRouterRegisterTransport b.registry
    (transport.map fun addr => ⟨addr, some ⟨true, some rx.1⟩⟩)
  if b.registry.initialized && transport.isSome then
    (r.1, { b with registry := r.2, service := rx.2 })
  else (r.1, { b with registry := r.2 })

/-- `alfie_messaging_endpoint_init`, which registers the endpoint once and refuses a second call. -/
def Board.alfieMessagingEndpointInit : Ret × Board :=
  if b.messaging then (.err .ealready, b)
  else
    match alfieRouterRegisterEndpoint b.registry (some ⟨messagingEndpointAddr, true⟩) with
    | (.err e, registry) => (.err e, { b with registry })
    | (.ok, registry) => (.ok, { b with registry, messaging := true })

/-- A call of `main`, with what it returns and the board behind it. -/
def MainCall.call : MainCall → Ret × Board
  | .dectLinkLayerInit =>
    let r := DectCommunicator.dectLinkLayerInit deviceId b.dev.link x.modem
    (r.1, { b with dev := { b.dev with link := r.2 } })
  | .dectTransportLayerInit =>
    let r := DectCommunicator.dectTransportLayerInit b.dev.link b.dev.transport
    (r.1, { b with dev := { b.dev with link := r.2.1, transport := r.2.2 } })
  | .bleCoreInit =>
    let r := DectCommunicator.bleCoreInit deviceId
      (prvResetNrf5340 x.gpioReady x.gpioConfigure) x.btEnable b.host.core
    (r.1, { b with host := { b.host with core := r.2 } })
  | .alfieBleServiceInit =>
    let r := DectCommunicator.alfieBleServiceInit b.service b.host.core
    (r.1, { b with service := r.2.1, host := { b.host with core := r.2.2 } })
  | .bleCoreStartAdvertising =>
    let r := DectCommunicator.bleCoreStartAdvertising b.host
    (r.1, { b with host := r.2 })
  | .alfieRouterInit =>
    let r := DectCommunicator.alfieRouterInit b.registry
    (r.1, { b with registry := r.2 })
  | .registerDectTransport => b.registerDectTransport
  | .registerBleTransport => b.registerBleTransport
  | .alfieMessagingEndpointInit => b.alfieMessagingEndpointInit

end Calls

/-- What happens on the board: the next call of `main`, and what its threads and callbacks do. -/
inductive BoardAction where
  | main
  | device (a : DeviceInput)
  | host (a : BleHostAction)
  | service (a : BleInput)

/-- The thread that does this is there: the link layer's, or the router's. -/
def Board.Allows (b : Board) : DeviceInput → Bool
  | .iteration _ _ => b.dev.link.initialized
  | _ => b.registry.initialized

/-- A client that is connected writes, and the router's thread releases. -/
def Board.AllowsService (b : Board) : BleInput → Bool
  | .dataWrite _ _ => b.service.conn
  | .release _ => b.registry.initialized

/-- One step, of `main` or of a thread or callback that its calls have started; `none` when it is
not possible yet. -/
def Board.step (deviceId : UInt32) (x : External) (b : Board) : BoardAction → Option Board
  | .main =>
    match b.todo with
    | [] => none
    | c :: rest =>
      match c.call deviceId x b with
      | (.err e, b) => some { b with todo := [], ret := some (.err e) }
      | (.ok, b) =>
        some { b with
          done := b.done ++ [c]
          todo := rest
          ret := if rest = [] then some .ok else none }
  | .device a =>
    if b.Allows a then some { b with dev := (b.dev.step deviceId a).1 } else none
  | .host a => do
    let host ← b.host.step a
    some { b with host, service := { b.service with conn := host.conn.isSome } }
  | .service a =>
    if b.AllowsService a then
      some { b with
        service := (b.service.step a).1
        handedUp := b.handedUp ++ (b.service.step a).2.filterMap BleRxEffect.handedUp }
    else none

/-! ### What has been started after `n` calls -/

/-- The DECT layers when `n` calls have returned: each clause says from which call on, or until
which, it holds. -/
structure DectStarted (n : ℕ) (dev : Device) : Prop where
  registration : dev.link.registration = (decide (1 ≤ n), decide (2 ≤ n))
  zeroed : n < 2 → dev.transport = .zeroed
  inv : 2 ≤ n → ReceiverInv (if 7 ≤ n then some routerReferences else none) dev
  silent : n < 7 → dev.delivered = []

/-- The host and the service when `n` calls have returned, the advertising work and the connections
included. -/
structure BleStarted (deviceId : UInt32) (n : ℕ) (b : Board) : Prop where
  dark : n < 5 → b.host.Dark
  unregistered : n < 4 → b.host.core.advUuid128 = []
  named : n = 3 → b.host.core.advWork = true ∧
    b.host.core.name = ⟨0x09, deviceNamePrefix ++ hex08 deviceId⟩
  announces : 4 ≤ n → b.host.core.Announces deviceId
  visible : 5 ≤ n → b.host.Visible deviceId ∨ b.host.Dark
  zeroed : n < 4 → b.service = .zeroed
  initialized : 4 ≤ n → b.service.initialized = true
  inv : 4 ≤ n → BleReceiverInv (if 8 ≤ n then some routerReferences else none) b.service
  conn : b.service.conn = b.host.conn.isSome
  silent : n < 8 → b.handedUp = []

/-- The router and the endpoint when `n` calls have returned: the lists hold what was registered by
then. -/
structure RouterStarted (n : ℕ) (b : Board) : Prop where
  uninitialized : n < 6 → b.registry.initialized = false
  inv : 6 ≤ n → RegistryInv b.registry
    (if 8 ≤ n then [dectTransport.addr, bleTransport.addr]
      else if 7 ≤ n then [dectTransport.addr] else [])
    (if 9 ≤ n then [messagingEndpointAddr] else [])
  messaging : b.messaging = decide (9 ≤ n)

/-- The board after `n` calls, which have met no error. -/
structure BoardStarted (deviceId : UInt32) (x : External) (n : ℕ) (b : Board) : Prop where
  dect : DectStarted n b.dev
  ble : BleStarted deviceId n b
  router : RouterStarted n b
  modem : 1 ≤ n → firstError x.modem.results = .ok
  btEnable : 3 ≤ n → x.btEnable = .ok

/-! ### The threads and callbacks -/

section Threads

variable {deviceId : UInt32} {x : External} {n : ℕ} {b : Board} {dev : Device}

/-- Without a callback the thread of the link layer makes no call. -/
theorem prvLinkLayerThread_unregistered {st : DectLinkLayer} (h : st.rxCallback = false)
    (deviceId : UInt32) (it : Iteration) : (prvLinkLayerThread deviceId st it).2 = [] := by
  have hreg := (prvDectReceive_registration deviceId
    (if it.queued then (prvLinkLayerWriteFrame deviceId st it.txDriver it.txEvents).2
      else handleEvents deviceId st it.txEvents) it.rxDriver it.rxEvents).trans
    (transmitPhase_registration deviceId st it)
  unfold prvLinkLayerThread receiveWindow
  dsimp only
  generalize prvDectReceive deviceId _ it.rxDriver it.rxEvents = p at hreg ⊢
  have hnone : p.2.rxCallback = false := (congrArg Prod.snd hreg).trans h
  rw [if_pos hnone]
  split <;> rfl

/-- A device whose messages nobody takes has handed up nothing, whatever happens to it. -/
theorem ReceiverInv.silent (h : ReceiverInv none dev) (hsilent : dev.delivered = []) (d : UInt32)
    (a : DeviceInput) : (dev.step d a).1.delivered = [] := by
  have halike : Alike dev
      { dev with transport := { dev.transport with transportRxCallback := some atOnce } } :=
    ⟨rfl, h.ready, rfl, rfl, rfl, rfl, h.callback, rfl, hsilent⟩
  exact (halike.step (d := d) a).2.delivered

/-- **A step of the threads of the DECT layers** keeps what start-up has set up. Before the router's
callback is there, nothing is handed up by it. -/
theorem DectStarted.step (h : DectStarted n dev) {a : DeviceInput}
    (hiteration : dev.link.initialized = true) (hother : 6 ≤ n ∨ ∃ now it, a = .iteration now it) :
    DectStarted n (dev.step deviceId a).1 := by
  -- the thread is created by the first call, so that has returned
  have hone : 1 ≤ n := by
    by_contra hlt
    have hinit := congrArg Prod.fst h.registration
    rw [decide_eq_false hlt] at hinit
    exact Bool.false_ne_true (hinit.symm.trans hiteration)
  by_cases hn : 2 ≤ n
  · have hinv := (h.inv hn).step (d := deviceId) a
    refine ⟨?_, fun hlt => absurd hn (not_le.mpr hlt), fun _ => hinv, fun hlt => ?_⟩
    · rw [decide_eq_true hone, decide_eq_true hn]
      exact hinv.ready
    · -- without the router's callback a message is completed and dropped
      have hnone := h.inv hn
      rw [if_neg (not_le.mpr hlt)] at hnone
      exact hnone.silent (h.silent hlt) deviceId a
  · -- only the thread of the link layer is there, and has no callback
    obtain hsix | ⟨now, it, rfl⟩ := hother
    · omega
    have hreg := h.registration
    rw [decide_eq_false hn] at hreg
    have hcalls := prvLinkLayerThread_unregistered (congrArg Prod.snd hreg) deviceId it
    have hstep : (dev.step deviceId (.iteration now it)).1 =
        { dev with link := (prvLinkLayerThread deviceId dev.link it).1 } := by
      show (dev.iterate deviceId now it).1 = _
      unfold Device.iterate
      dsimp only
      rw [hcalls]
      rfl
    rw [hstep]
    exact ⟨(prvLinkLayerThread_registration deviceId dev.link it).trans h.registration,
      fun hlt => h.zeroed hlt, fun hle => absurd hle hn, fun hlt => h.silent hlt⟩

/-- No action of the host changes what is advertised, so the name and the UUID stay what `main` has
set. -/
theorem BleHost.step_core {h h' : BleHost} {a : BleHostAction} (hstep : h.step a = some h') :
    h'.core = h.core := by
  unfold BleHost.step at hstep
  cases a with
  | advWork start =>
    -- the work item starts advertising again, with the same data
    dsimp only at hstep
    split at hstep
    · obtain rfl := Option.some.inj hstep
      rfl
    · cases hstep
  | connected c err ended =>
    -- a connection only ends the advertising
    dsimp only at hstep
    split at hstep
    · obtain rfl := Option.some.inj hstep
      unfold BleHost.onConnected
      split <;> rfl
    · cases hstep
  | disconnected reason =>
    dsimp only at hstep
    split at hstep
    · cases hstep
    · obtain rfl := Option.some.inj hstep
      rfl

/-- **A step of the host**: an event that it can see only once advertising has begun keeps the
device visible, or dark after a failure. -/
theorem BleStarted.host (h : BleStarted deviceId n b) {a : BleHostAction} {host : BleHost}
    (hstep : b.host.step a = some host) :
    BleStarted deviceId n
      { b with host, service := { b.service with conn := host.conn.isSome } } := by
  have hcore := BleHost.step_core hstep
  -- a host that has never advertised has no event
  have hstuck : ¬ b.host.Dark := by
    intro hdark
    rw [hdark.stuck a] at hstep
    cases hstep
  have hn : 5 ≤ n := by
    by_contra hlt
    exact hstuck (h.dark (not_le.mp hlt))
  have hv : b.host.Visible deviceId := (h.visible hn).resolve_right hstuck
  obtain ⟨hfails, hgoes⟩ := hv.step hstep
  refine ⟨fun hlt => by omega, fun hlt => by omega, fun heq => by omega, fun hle => ?_,
    fun _ => ?_, fun hlt => by omega, h.initialized, fun hle => { h.inv hle with }, rfl, h.silent⟩
  · show host.core.Announces deviceId
    rw [hcore]
    exact h.announces hle
  · -- after a failure nobody starts the advertising again
    by_cases hf : a.Fails
    · exact .inr (hfails hf)
    · exact .inl (hgoes hf)

/-- A service whose messages nobody takes hands up nothing, whatever is written to it. -/
theorem BleReceiverInv.silent {st : AlfieBleService} (h : BleReceiverInv none st) (a : BleInput) :
    (st.step a).2.filterMap BleRxEffect.handedUp = [] := by
  cases a with
  | release i => rfl
  | dataWrite now buf =>
    show (prvOnDataWrite now buf st).2.filterMap BleRxEffect.handedUp = []
    have hspec := prvOnDataWrite_spec now buf st
    generalize (prvOnDataWrite now buf st).1 = st' at hspec
    generalize (prvOnDataWrite now buf st).2 = effects at hspec
    cases hspec with
    | dropped | ack => rfl
    | data f hpool =>
      rw [h.callback] at hpool
      -- there is nothing to invoke
      cases hpool <;> rfl

/-- Receiving changes neither whether the service is initialised nor whether it has a connection. -/
theorem AlfieBleService.step_config (st : AlfieBleService) (a : BleInput) :
    (st.step a).1.initialized = st.initialized ∧ (st.step a).1.conn = st.conn := by
  cases a with
  | release i => exact ⟨rfl, rfl⟩
  | dataWrite now buf =>
    show (prvOnDataWrite now buf st).1.initialized = _ ∧ (prvOnDataWrite now buf st).1.conn = _
    have hspec := prvOnDataWrite_spec now buf st
    generalize (prvOnDataWrite now buf st).1 = st' at hspec
    generalize (prvOnDataWrite now buf st).2 = effects at hspec
    cases hspec <;> exact ⟨rfl, rfl⟩

/-- **A step of the service**, which is possible only with a connection, and so with the advertising
of `main` behind it. -/
theorem BleStarted.service (h : BleStarted deviceId n b) (hr : RouterStarted n b) {a : BleInput}
    (hallows : b.AllowsService a = true) :
    BleStarted deviceId n { b with
      service := (b.service.step a).1
      handedUp := b.handedUp ++ (b.service.step a).2.filterMap BleRxEffect.handedUp } := by
  have hn : 4 ≤ n := by
    by_contra hlt
    cases a with
    -- a value is written over a connection
    | dataWrite now buf =>
      have hconn : b.service.conn = true := hallows
      rw [h.conn, (h.dark (by omega)).conn] at hconn
      exact Bool.false_ne_true hconn
    -- a release is the router's, which is there by then
    | release i =>
      have hinit : b.registry.initialized = true := hallows
      rw [hr.uninitialized (by omega)] at hinit
      exact Bool.false_ne_true hinit
  obtain ⟨hinit, hconn⟩ := b.service.step_config a
  refine ⟨h.dark, h.unregistered, h.named, h.announces, h.visible, fun hlt => by omega,
    fun hle => hinit.trans (h.initialized hle), fun hle => ?_, hconn.trans h.conn, fun hlt => ?_⟩
  · cases a with
    | dataWrite now buf => exact (h.inv hle).dataWrite now buf
    | release i => exact (h.inv hle).release i
  · have hnone := h.inv hn
    rw [if_neg (not_le.mpr hlt)] at hnone
    show b.handedUp ++ _ = []
    rw [h.silent hlt, hnone.silent a]
    rfl

end Threads

/-! ### The calls of `main` -/

/-- What becomes of the call after `n` calls: it succeeds, or returns the first error of the calls
that leave the firmware. -/
inductive Called (deviceId : UInt32) (x : External) (n : ℕ) : Ret × Board → Prop
  | ok {b : Board} (h : BoardStarted deviceId x (n + 1) b) : Called deviceId x n (.ok, b)
  | failed {b : Board} {e : Errno} (h : BoardStarted deviceId x n b)
      (he : firstError x.results = .err e) : Called deviceId x n (.err e, b)

/-- The first error of calls that are followed by others. -/
theorem firstError_append (l l' : List Ret) :
    firstError (l ++ l') = if firstError l = .ok then firstError l' else firstError l := by
  induction l with
  | nil => rfl
  | cons r l ih =>
    cases r with
    | ok => exact ih
    | err e => rfl

section Succ

variable {deviceId : UInt32} {n : ℕ} {b : Board} {dev : Device}

/-- A call that does not touch the DECT layers leaves them as they were started. -/
theorem DectStarted.succ (h : DectStarted n dev) (hn : n ≠ 0 ∧ n ≠ 1 ∧ n ≠ 6) :
    DectStarted (n + 1) dev where
  registration := by
    have hone : 1 ≤ n ↔ 1 ≤ n + 1 := by omega
    have htwo : 2 ≤ n ↔ 2 ≤ n + 1 := by omega
    rw [h.registration, decide_eq_decide.mpr hone, decide_eq_decide.mpr htwo]
  zeroed hlt := h.zeroed (by omega)
  inv hle := by
    rw [if_congr (show 7 ≤ n + 1 ↔ 7 ≤ n by omega) rfl rfl]
    exact h.inv (by omega)
  silent hlt := h.silent (by omega)

/-- One that does not touch the host and the service leaves these two as they were started. -/
theorem BleStarted.succ (h : BleStarted deviceId n b) (hn : n ≠ 2 ∧ n ≠ 3 ∧ n ≠ 4 ∧ n ≠ 7) :
    BleStarted deviceId (n + 1) b where
  dark hlt := h.dark (by omega)
  unregistered hlt := h.unregistered (by omega)
  named heq := by omega
  announces hle := h.announces (by omega)
  visible hle := h.visible (by omega)
  zeroed hlt := h.zeroed (by omega)
  initialized hle := h.initialized (by omega)
  inv hle := by
    rw [if_congr (show 8 ≤ n + 1 ↔ 8 ≤ n by omega) rfl rfl]
    exact h.inv (by omega)
  conn := h.conn
  silent hlt := h.silent (by omega)

/-- One that does not touch the router leaves it uninitialised, as it is until the sixth call. -/
theorem RouterStarted.succ (h : RouterStarted n b) (hn : n < 5) : RouterStarted (n + 1) b where
  uninitialized hlt := h.uninitialized (by omega)
  inv hle := by omega
  messaging := h.messaging.trans (decide_eq_decide.mpr (by omega))

end Succ

section Main

variable {deviceId : UInt32} {x : External} {b : Board}

/-- The first call: the modem, the radio and the link layer's thread, or the first error of the
modem. -/
theorem BoardStarted.dectLinkLayerInit (h : BoardStarted deviceId x 0 b) :
    Called deviceId x 0 (MainCall.dectLinkLayerInit.call deviceId x b) := by
  have hreg := h.dect.registration
  obtain ⟨hret, hinit⟩ := dectLinkLayerInit_spec deviceId x.modem (congrArg Prod.fst hreg)
  have hrx : b.dev.link.rxCallback = false := congrArg Prod.snd hreg
  -- the modem's results come before those of the Bluetooth host
  have hresults : firstError x.results = _ := firstError_append x.modem.results [x.btEnable]
  unfold MainCall.call
  dsimp only
  generalize DectCommunicator.dectLinkLayerInit deviceId b.dev.link x.modem = r at hret hinit ⊢
  obtain ⟨ret, link⟩ := r
  dsimp only at hret hinit ⊢
  rw [hrx] at hinit
  -- the results of the modem's calls decide, in the order in which they are made
  cases hfirst : firstError x.modem.results with
  | ok =>
    rw [hfirst] at hret hinit
    obtain rfl := hret
    exact .ok
      { dect := ⟨hinit, fun _ => h.dect.zeroed (by decide), fun hle => by omega,
          fun _ => h.dect.silent (by decide)⟩
        ble := { h.ble.succ (by decide) with }
        router := { h.router.succ (by decide) with }
        modem := fun _ => hfirst
        btEnable := fun hle => by omega }
  | err e =>
    rw [hfirst] at hret hinit hresults
    obtain rfl := hret
    exact .failed
      { h with
        dect := ⟨hinit, h.dect.zeroed, fun hle => by omega, h.dect.silent⟩
        ble := { h.ble with }
        router := { h.router with } } hresults

/-- The second call registers the layer's callback with the link layer, which is free for it, and so
never fails. -/
theorem BoardStarted.dectTransportLayerInit (h : BoardStarted deviceId x 1 b) :
    Called deviceId x 1 (MainCall.dectTransportLayerInit.call deviceId x b) := by
  have hinit : b.dev.link.initialized = true := congrArg Prod.fst h.dect.registration
  -- the link layer is initialised by the first call, and so accepts the callback
  have hlink : dectLinkLayerRegisterRxCallback b.dev.link true =
      (.ok, { b.dev.link with rxCallback := true }) := by
    unfold dectLinkLayerRegisterRxCallback
    rw [if_neg (by rw [hinit]; exact fun hf => Bool.false_ne_true hf.symm)]
    rfl
  -- no check of the layer fails: it has not been initialised before
  have hcall : DectCommunicator.dectTransportLayerInit b.dev.link b.dev.transport =
      (.ok, { b.dev.link with rxCallback := true }, .init none) := by
    unfold DectCommunicator.dectTransportLayerInit
    rw [h.dect.zeroed (by decide), hlink]
    rfl
  have hready : ({ b.dev.link with rxCallback := true } : DectLinkLayer).Ready :=
    congrArg (·, true) hinit
  unfold MainCall.call
  dsimp only
  rw [hcall]
  exact .ok
    { dect := ⟨hready, fun hlt => by omega, fun _ => { ReceiverInv.init none with ready := hready },
        fun _ => h.dect.silent (by decide)⟩
      ble := { h.ble.succ (by decide) with }
      router := { h.router.succ (by decide) with }
      modem := fun _ => h.modem le_rfl
      btEnable := fun hle => by omega }

/-- The third call: the Bluetooth host and the device name; only `bt_enable` may fail. -/
theorem BoardStarted.bleCoreInit (h : BoardStarted deviceId x 2 b) :
    Called deviceId x 2 (MainCall.bleCoreInit.call deviceId x b) := by
  have hname := prvDeviceName_eq deviceId
  -- the modem has had no error, so `bt_enable` decides
  have hresults : firstError x.results = firstError [x.btEnable] :=
    (firstError_append x.modem.results [x.btEnable]).trans (if_pos (h.modem (by decide)))
  have hdark := h.ble.dark (by decide)
  unfold MainCall.call DectCommunicator.bleCoreInit
  dsimp only
  rw [hname]
  -- the name has been set when Bluetooth is enabled
  cases hbt : x.btEnable with
  | ok =>
    exact .ok
      { dect := h.dect.succ (by decide)
        ble := ⟨fun _ => { hdark with }, fun _ => h.ble.unregistered (by decide),
          fun _ => ⟨rfl, rfl⟩, fun hle => by omega, fun hle => by omega,
          fun _ => h.ble.zeroed (by decide), fun hle => by omega, fun hle => by omega, h.ble.conn,
          fun _ => h.ble.silent (by decide)⟩
        router := { h.router.succ (by decide) with }
        modem := fun _ => h.modem (by decide)
        btEnable := fun _ => hbt }
  | err e =>
    rw [hbt] at hresults
    exact .failed
      { h with
        ble := { h.ble with
          dark := fun _ => { hdark with }
          named := fun heq => by omega
          announces := fun hle => by omega
          visible := fun hle => by omega }
        router := { h.router with } } hresults

/-- The fourth call sets up the pool of the service and the UUID that is advertised, and never
fails. -/
theorem BoardStarted.alfieBleServiceInit (h : BoardStarted deviceId x 3 b) :
    Called deviceId x 3 (MainCall.alfieBleServiceInit.call deviceId x b) := by
  obtain ⟨hwork, hname⟩ := h.ble.named rfl
  have huuid := h.ble.unregistered (by decide)
  have hdark := h.ble.dark (by decide)
  -- there is room for the UUID, as nobody has registered one
  have hcall : DectCommunicator.alfieBleServiceInit b.service b.host.core =
      (.ok, { AlfieBleService.init none with conn := false },
        { b.host.core with advUuid128 := [alfieBleServiceUuid] }) := by
    unfold DectCommunicator.alfieBleServiceInit bleCoreRegisterAdvUuid128
    rw [h.ble.zeroed (by decide), huuid]
    rfl
  unfold MainCall.call
  dsimp only
  rw [hcall]
  exact .ok
    { dect := h.dect.succ (by decide)
      ble := ⟨fun _ => { hdark with }, fun hlt => by omega, fun heq => by omega,
        fun _ => ⟨hwork, hname, rfl⟩, fun hle => by omega, fun hlt => by omega, fun _ => rfl,
        fun _ => { BleReceiverInv.init none with }, (congrArg Option.isSome hdark.conn).symm,
        fun _ => h.ble.silent (by decide)⟩
      router := { h.router.succ (by decide) with }
      modem := fun _ => h.modem (by decide)
      btEnable := fun _ => h.btEnable le_rfl }

/-- The fifth call submits the advertising work, behind which the device is visible or stays
dark. -/
theorem BoardStarted.bleCoreStartAdvertising (h : BoardStarted deviceId x 4 b) :
    Called deviceId x 4 (MainCall.bleCoreStartAdvertising.call deviceId x b) := by
  have hdark := h.ble.dark (by decide)
  have hcore := h.ble.announces le_rfl
  exact .ok
    { dect := h.dect.succ (by decide)
      ble := ⟨fun hlt => by omega, fun hlt => by omega, fun heq => by omega, fun _ => hcore,
        fun _ => .inl (.queued hcore rfl hdark.advertised hdark.connection hdark.conn hdark.refs),
        fun hlt => by omega, fun _ => h.ble.initialized le_rfl, fun _ => h.ble.inv le_rfl,
        h.ble.conn, fun _ => h.ble.silent (by decide)⟩
      router := { h.router.succ (by decide) with }
      modem := fun _ => h.modem (by decide)
      btEnable := fun _ => h.btEnable (by decide) }

/-- The sixth call creates the router, with empty lists, and its thread. -/
theorem BoardStarted.alfieRouterInit (h : BoardStarted deviceId x 5 b) :
    Called deviceId x 5 (MainCall.alfieRouterInit.call deviceId x b) := by
  unfold MainCall.call
  dsimp only
  rw [alfieRouterInit_eq (h.router.uninitialized (by decide))]
  exact .ok
    { dect := h.dect.succ (by decide)
      ble := { h.ble.succ (by decide) with }
      router := ⟨fun hlt => by omega, fun _ => ⟨rfl, .init _, .init _⟩, h.router.messaging⟩
      modem := fun _ => h.modem (by decide)
      btEnable := fun _ => h.btEnable (by decide) }

/-- The router takes a transport that is there and not yet in its list, whose node is then the
last. -/
theorem RegistryInv.registerTransport {r : Registry} {ts es : List ℕ} (h : RegistryInv r ts es)
    (addr : ℕ) (hts : ts.Nodup) (hnew : addr ∉ ts) :
    ∃ r', alfieRouterRegisterTransport r (some ⟨addr, some ⟨true, some .ok⟩⟩) = (.ok, r') ∧
      RegistryInv r' (ts ++ [addr]) es := by
  refine ⟨{ r with transports := r.transports.append addr }, if_neg ?_, h.initialized,
    h.transports.append hts hnew, h.endpoints⟩
  rw [h.initialized]
  exact fun hf => Bool.false_ne_true hf.symm

/-- The seventh call: the layer is initialised by now, so there is a transport, and it takes the
router's callback. -/
theorem BoardStarted.registerDectTransport (h : BoardStarted deviceId x 6 b) :
    Called deviceId x 6 (MainCall.registerDectTransport.call deviceId x b) := by
  have hinv := h.dect.inv (by decide)
  have hregistry := h.router.inv le_rfl
  -- the list is empty, so the transport is new to it
  obtain ⟨r', hcall, hregistry'⟩ := hregistry.registerTransport dectTransport.addr
    List.nodup_nil List.not_mem_nil
  have hrx : dectTransportLayerRegisterRxCallback b.dev.transport (some routerReferences) =
      (.ok, { b.dev.transport with transportRxCallback := some routerReferences }) := by
    unfold dectTransportLayerRegisterRxCallback
    rw [if_neg (by rw [hinv.initialized]; exact fun hf => Bool.false_ne_true hf.symm)]
  show Called deviceId x 6 b.registerDectTransport
  unfold Board.registerDectTransport
  dsimp only
  rw [if_pos hinv.initialized, hrx, Option.map_some, hcall,
    if_pos (by rw [hregistry.initialized]; rfl)]
  exact .ok
    { dect := ⟨hinv.ready, fun hlt => by omega, fun _ => { hinv with callback := rfl },
        fun hlt => by omega⟩
      ble := { h.ble.succ (by decide) with }
      router := ⟨fun hlt => by omega, fun _ => hregistry', h.router.messaging⟩
      modem := fun _ => h.modem (by decide)
      btEnable := fun _ => h.btEnable (by decide) }

/-- The eighth call does the same with the service, which is the second transport in the list. -/
theorem BoardStarted.registerBleTransport (h : BoardStarted deviceId x 7 b) :
    Called deviceId x 7 (MainCall.registerBleTransport.call deviceId x b) := by
  have hinit := h.ble.initialized (by decide)
  have hinv := h.ble.inv (by decide)
  have hregistry := h.router.inv (by decide)
  -- the other transport is in the list, and has another address
  obtain ⟨r', hcall, hregistry'⟩ := hregistry.registerTransport bleTransport.addr
    (List.nodup_singleton _) (by decide)
  -- the service is initialised by the fourth call, and so accepts the callback
  have hrx : alfieBleServiceRegisterRxCallback b.service (some routerReferences) =
      (.ok, { b.service with transportRxCallback := some routerReferences }) := by
    unfold alfieBleServiceRegisterRxCallback
    rw [if_neg (by rw [hinit]; exact fun hf => Bool.false_ne_true hf.symm)]
  show Called deviceId x 7 b.registerBleTransport
  unfold Board.registerBleTransport
  dsimp only
  rw [if_pos hinit, hrx, Option.map_some, hcall, if_pos (by rw [hregistry.initialized]; rfl)]
  exact .ok
    { dect := h.dect.succ (by decide)
      ble := { h.ble with
        dark := fun hlt => by omega
        unregistered := fun hlt => by omega
        named := fun heq => by omega
        announces := fun _ => h.ble.announces (by decide)
        visible := fun _ => h.ble.visible (by decide)
        zeroed := fun hlt => by omega
        initialized := fun _ => hinit
        inv := fun _ => { hinv with callback := rfl }
        silent := fun hlt => by omega }
      router := ⟨fun hlt => by omega, fun _ => hregistry', h.router.messaging⟩
      modem := fun _ => h.modem (by decide)
      btEnable := fun _ => h.btEnable (by decide) }

/-- The last call registers the endpoint, for the first time, and so the registration succeeds. -/
theorem BoardStarted.alfieMessagingEndpointInit (h : BoardStarted deviceId x 8 b) :
    Called deviceId x 8 (MainCall.alfieMessagingEndpointInit.call deviceId x b) := by
  have hregistry := h.router.inv (by decide)
  -- the router is initialised by the sixth call, and the list of endpoints is still empty
  have hcall : alfieRouterRegisterEndpoint b.registry (some ⟨messagingEndpointAddr, true⟩) =
      (.ok, { b.registry with
        endpoints := b.registry.endpoints.append messagingEndpointAddr }) := by
    unfold alfieRouterRegisterEndpoint
    rw [if_neg (by rw [hregistry.initialized]; exact fun hf => Bool.false_ne_true hf.symm)]
    rfl
  show Called deviceId x 8 b.alfieMessagingEndpointInit
  unfold Board.alfieMessagingEndpointInit
  rw [if_neg (by rw [h.router.messaging]; decide), hcall]
  exact .ok
    { dect := h.dect.succ (by decide)
      ble := { h.ble.succ (by decide) with }
      router := ⟨fun hlt => by omega, fun _ => ⟨hregistry.initialized, hregistry.transports,
        hregistry.endpoints.append List.nodup_nil List.not_mem_nil⟩, rfl⟩
      modem := fun _ => h.modem (by decide)
      btEnable := fun _ => h.btEnable (by decide) }

/-- **A call of `main`**, after those before it. -/
theorem BoardStarted.call : ∀ {n : ℕ} {c : MainCall}, mainCalls[n]? = some c →
    BoardStarted deviceId x n b → Called deviceId x n (c.call deviceId x b)
  | 0, _, rfl, h => h.dectLinkLayerInit
  | 1, _, rfl, h => h.dectTransportLayerInit
  | 2, _, rfl, h => h.bleCoreInit
  | 3, _, rfl, h => h.alfieBleServiceInit
  | 4, _, rfl, h => h.bleCoreStartAdvertising
  | 5, _, rfl, h => h.alfieRouterInit
  | 6, _, rfl, h => h.registerDectTransport
  | 7, _, rfl, h => h.registerBleTransport
  | 8, _, rfl, h => h.alfieMessagingEndpointInit

end Main

/-! ### Runs -/

/-- Where `main` is after `n` calls that have returned 0. -/
inductive MainAt (x : External) (n : ℕ) : List MainCall → Option Ret → Prop
  | running (hn : n < 9) : MainAt x n (mainCalls.drop n) none
  | returned {r : Ret} (hr : r = firstError x.results) (hn : r = .ok → n = 9) :
      MainAt x n [] (some r)

/-- The invariant of a device that is started: where `main` is, and what its calls so far have set
up. -/
structure BoardInv (deviceId : UInt32) (x : External) (n : ℕ) (b : Board) : Prop where
  started : BoardStarted deviceId x n b
  main : MainAt x n b.todo b.ret
  done : b.done = mainCalls.take n
  le : n ≤ 9

/-- A device on which `main` has returned 0: both layers receive for the router, both transports and
the endpoint are registered, and the device is visible unless its host failed. -/
structure Board.Started (deviceId : UInt32) (b : Board) : Prop where
  receiver : ReceiverInv (some routerReferences) b.dev
  service : BleReceiverInv (some routerReferences) b.service
  initialized : b.service.initialized = true
  registry : RegistryInv b.registry [dectTransport.addr, bleTransport.addr] [messagingEndpointAddr]
  visible : b.host.Visible deviceId ∨ b.host.Dark

section Runs

variable {deviceId : UInt32} {x : External} {n : ℕ} {b b' : Board}

/-- A device that has been switched on is before the first call. -/
theorem BoardInv.zeroed (deviceId : UInt32) (x : External) : BoardInv deviceId x 0 .zeroed where
  started :=
    { dect := ⟨rfl, fun _ => rfl, fun hle => by omega, fun _ => rfl⟩
      ble := ⟨fun _ => ⟨rfl, rfl, rfl, rfl, rfl⟩, fun _ => rfl, fun heq => by omega,
        fun hle => by omega, fun hle => by omega, fun _ => rfl, fun hle => by omega,
        fun hle => by omega, rfl, fun _ => rfl⟩
      router := ⟨fun _ => rfl, fun hle => by omega, rfl⟩
      modem := fun hle => by omega
      btEnable := fun hle => by omega }
  main := .running (by decide)
  done := rfl
  le := Nat.zero_le 9

/-- All calls have returned 0, and so has every call into the modem and the host that they make. -/
theorem BoardStarted.results (h : BoardStarted deviceId x 9 b) : firstError x.results = .ok := by
  have hresults : firstError x.results = firstError [x.btEnable] :=
    (firstError_append x.modem.results [x.btEnable]).trans (if_pos (h.modem (by decide)))
  rw [hresults, h.btEnable (by decide)]
  rfl

/-- The calls are not the ones that keep the record; it is the step of `main` that does. -/
theorem MainCall.call_done (c : MainCall) (deviceId : UInt32) (x : External) (b : Board) :
    (c.call deviceId x b).2.done = b.done := by
  cases c with
  | registerDectTransport =>
    exact (apply_ite (fun r : Ret × Board => r.2.done) _ _ _).trans (ite_self _)
  | registerBleTransport =>
    exact (apply_ite (fun r : Ret × Board => r.2.done) _ _ _).trans (ite_self _)
  | alfieMessagingEndpointInit =>
    show b.alfieMessagingEndpointInit.2.done = b.done
    unfold Board.alfieMessagingEndpointInit
    split
    · rfl
    · split <;> rfl
  | _ => rfl

/-- **`main` makes its next call**, and returns when the call fails or was the last. -/
theorem BoardInv.main_step (h : BoardInv deviceId x n b)
    (hstep : b.step deviceId x .main = some b') : ∃ n', BoardInv deviceId x n' b' := by
  unfold Board.step at hstep
  dsimp only at hstep
  have hmain := h.main
  generalize b.todo = todo at hmain hstep
  generalize b.ret = ret at hmain
  obtain hlt | _ := hmain
  case returned => cases hstep
  have hlt : n < mainCalls.length := hlt
  have hcalled := BoardStarted.call (List.getElem?_eq_getElem hlt) h.started
  have hdone := (mainCalls[n].call_done deviceId x b).trans h.done
  rw [List.drop_eq_getElem_cons hlt] at hstep
  dsimp only at hstep
  generalize MainCall.call deviceId x b mainCalls[n] = r at hcalled hdone hstep
  cases hcalled with
  -- the error is the first, as all calls before this one returned 0
  | @failed b₁ e hb he =>
    obtain rfl := Option.some.inj hstep
    exact ⟨n,
      { started := { hb with ble := { hb.ble with }, router := { hb.router with } }
        main := .returned he.symm fun hok => by cases hok
        done := hdone
        le := h.le }⟩
  | @ok b₁ hb =>
    obtain rfl := Option.some.inj hstep
    refine ⟨n + 1, { hb with ble := { hb.ble with }, router := { hb.router with } }, ?_, ?_, hlt⟩
    · show MainAt x (n + 1) (mainCalls.drop (n + 1)) (if mainCalls.drop (n + 1) = [] then _ else _)
      obtain hlast | hnext := Nat.eq_or_lt_of_le (Nat.succ_le_of_lt hlt)
      · -- behind the last call `main` returns 0
        obtain rfl : n = 8 := Nat.succ.inj hlast
        exact .returned hb.results.symm fun _ => rfl
      · rw [if_neg fun hnil => absurd (List.drop_eq_nil_iff.mp hnil) (not_le.mpr hnext)]
        exact .running hnext
    · show b₁.done ++ [mainCalls[n]] = mainCalls.take (n + 1)
      rw [hdone, List.take_append_getElem hlt]

/-- **One step**, of `main` or of anything that its calls have started. -/
theorem BoardInv.step (h : BoardInv deviceId x n b) {a : BoardAction}
    (hstep : b.step deviceId x a = some b') : ∃ n', BoardInv deviceId x n' b' := by
  cases a with
  | main => exact h.main_step hstep
  | device a =>
    unfold Board.step at hstep
    dsimp only at hstep
    split at hstep
    case isFalse => cases hstep
    next hallows =>
    obtain rfl := Option.some.inj hstep
    -- a message can be released only by a router that is there
    have hsix : b.registry.initialized = true → 6 ≤ n := by
      intro hinit
      by_contra hlt
      rw [h.started.router.uninitialized (not_le.mp hlt)] at hinit
      exact Bool.false_ne_true hinit
    -- and the link layer has been initialised before the router
    have hlink : 6 ≤ n → b.dev.link.initialized = true := by
      intro hle
      have hone : 1 ≤ n := by omega
      exact (congrArg Prod.fst h.started.dect.registration).trans (decide_eq_true hone)
    have hdect : DectStarted n (b.dev.step deviceId a).1 := by
      cases a with
      | iteration now it => exact h.started.dect.step hallows (.inr ⟨now, it, rfl⟩)
      | _ => exact h.started.dect.step (hlink (hsix hallows)) (.inl (hsix hallows))
    have hstarted := h.started
    exact ⟨n, { hstarted with
      dect := hdect, ble := { hstarted.ble with }, router := { hstarted.router with } },
      h.main, h.done, h.le⟩
  -- an event of the host leaves the other parts alone
  | host a =>
    unfold Board.step at hstep
    obtain ⟨host, hhost, hb⟩ := Option.bind_eq_some_iff.mp hstep
    obtain rfl := Option.some.inj hb
    have hstarted := h.started
    exact ⟨n, { hstarted with
      ble := hstarted.ble.host hhost, router := { hstarted.router with } },
      h.main, h.done, h.le⟩
  -- a value that is written reaches the service alone; the router's part is its own step
  | service a =>
    unfold Board.step at hstep
    dsimp only at hstep
    split at hstep
    case isFalse => cases hstep
    next hallows =>
    obtain rfl := Option.some.inj hstep
    have hstarted := h.started
    exact ⟨n, { hstarted with
      ble := hstarted.ble.service hstarted.router hallows, router := { hstarted.router with } },
      h.main, h.done, h.le⟩

/-- What the invariant says of a device whose `main` has returned: the value is the first error, and
0 means that everything is set up. -/
theorem BoardInv.main_result (h : BoardInv deviceId x n b) {r : Ret} (hret : b.ret = some r) :
    r = firstError x.results ∧ (r = .ok → b.Started deviceId) := by
  have hmain := h.main
  rw [hret] at hmain
  generalize b.todo = todo at hmain
  cases hmain with
  | returned hr hn =>
    refine ⟨hr, fun hok => ?_⟩
    obtain rfl := hn hok
    exact
      { receiver := h.started.dect.inv (by decide)
        service := h.started.ble.inv (by decide)
        initialized := h.started.ble.initialized (by decide)
        registry := h.started.router.inv (by decide)
        visible := h.started.ble.visible (by decide) }

/-- As long as `main` has not returned it can go on. -/
theorem BoardInv.main_goes_on (h : BoardInv deviceId x n b) (hret : b.ret = none) :
    ∃ b', b.step deviceId x .main = some b' := by
  have hmain := h.main
  rw [hret] at hmain
  unfold Board.step
  dsimp only
  generalize b.todo = todo at hmain ⊢
  cases hmain with
  | running hn =>
    have hlt : n < mainCalls.length := hn
    rw [List.drop_eq_getElem_cons hlt]
    dsimp only
    split <;> exact ⟨_, rfl⟩

/-- **How a device starts.** `main` goes on until it returns, and what it returns is the first error
of the calls that leave the firmware, or 0; then the modules are as their own invariants say,
whatever has arrived in the meantime. Nothing is handed up before the transport that would do it is
registered. -/
theorem main_returns (deviceId : UInt32) (x : External) {as : List BoardAction} {b : Board}
    (hrun : Steps (Board.step deviceId x) (fun _ _ => True) .zeroed as b) :
    (b.ret = none → ∃ b', b.step deviceId x .main = some b') ∧
      (∀ r, b.ret = some r → r = firstError x.results ∧ (r = .ok → b.Started deviceId)) ∧
      (.registerDectTransport ∉ b.done → b.dev.delivered = []) ∧
      (.registerBleTransport ∉ b.done → b.handedUp = []) := by
  obtain ⟨n, h⟩ := hrun.invariant (P := fun b => ∃ n, BoardInv deviceId x n b)
    (fun _ _ _ ⟨_, hinv⟩ _ hstep => hinv.step hstep) ⟨0, .zeroed deviceId x⟩
  -- the calls that have been made are the first `n`
  have hdone {m : ℕ} {c : MainCall} (hc : c ∈ mainCalls.take m) (hnot : c ∉ b.done) : n < m := by
    by_contra hle
    rw [h.done] at hnot
    exact hnot (List.take_subset_take_left mainCalls (not_lt.mp hle) hc)
  exact ⟨h.main_goes_on, fun _ => h.main_result,
    fun hnot => h.started.dect.silent (hdone (m := 7) (by decide) hnot),
    fun hnot => h.started.ble.silent (hdone (m := 8) (by decide) hnot)⟩

end Runs

/-- Every call that leaves the firmware succeeds, as on a board whose hardware is in order. -/
def allSucceed : External where
  modem :=
    { libInit := .ok
      eventHandlerSet := .ok
      init := ⟨.init, .ok, 0, [.init 0]⟩
      configure := ⟨.configure, .ok, 0, [.configure 0]⟩
      activate := ⟨.activate, .ok, 0, [.activate 0]⟩
      ops := ⟨rfl, rfl, rfl⟩
      completes := by decide }
  gpioReady := true
  gpioConfigure := .ok
  btEnable := .ok

/-- A receive window passes and the work item runs while `main` makes its nine calls. -/
def startUp : List BoardAction :=
  [.main, .device (.iteration 3 ⟨false, .ok, [], .ok, [.completed 0], fun _ => 0⟩), .main, .main,
    .main, .main, .host (.advWork .ok), .main, .main, .main, .main]

/-- On it `main` returns 0, with advertising that has begun and a thread that has run before it
did. -/
theorem main_returns_zero :
    ∃ b, Steps (Board.step 1 allSucceed) (fun _ _ => True) .zeroed startUp b ∧
      b.ret = some .ok ∧ b.Started 1 := by
  obtain ⟨b, hrun, hret⟩ :
      ∃ b, Steps (Board.step 1 allSucceed) (fun _ _ => True) .zeroed startUp b ∧
        b.ret = some .ok :=
    ⟨_, steps_of_checkRun rfl, rfl⟩
  obtain ⟨-, hresult, -, -⟩ := main_returns 1 allSucceed hrun
  exact ⟨b, hrun, hret, (hresult _ hret).2 rfl⟩

end DectCommunicator
