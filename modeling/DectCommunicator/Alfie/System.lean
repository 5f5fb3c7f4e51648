import DectCommunicator.Alfie.Holders
import DectCommunicator.Ble.Reconnection
import DectCommunicator.BleClient.TextMessage
import DectCommunicator.Dect.Integrity

/-!
# Any number of devices and their clients

The whole of `main`: every device has its radio, its connection to a client, and its router between
the two, with the DECT transport downstream and the Alfie BLE service upstream. The parts are those
of `Dect/Network.lean`, `Ble/Reconnection.lean` and `Alfie/Router.lean`; an action is a step of one
of them, and what passes between them is in the step:

* what a transport hands up, it fills into buffers and passes to the router (`Router.accept`);
* a `write` of the router's thread starts the call of the transport, and the thread is in the call
  until it has returned.

In every run, over lossy air and over connections that come and go, what a client delivers is a
message that some client has sent to its device (`system_delivers_sent`).

The air is that of `Dect/Network.lean`, without the `tx_queue` of the devices. A frame may be
received from the moment it is put, and neither the router's thread nor the callback of the link
layer waits with a put. On a device they may have to wait, so the runs here are more than there are
on devices: what holds in all of them holds on devices, but a step that is possible here may have to
wait there.
-/

namespace DectCommunicator

open LittleEndian Machine

/-! ### The router between two transports -/

/-- The transport of `dect_transport_layer.c`, which the router registers as downstream. -/
def dectTransport : AlfieTransport := ⟨0, .downstream⟩

/-- The transport of `alfie_ble_service.c`, which the router registers as upstream. -/
def bleTransport : AlfieTransport := ⟨1, .upstream⟩

/-- The references that `prv_handle_transport_rx` takes to a message: one, and none for a message
shorter than the header, which it drops. -/
def routerReferences {ε : Type} : TransportRxCallback ε := fun buffer =>
  if buffer.totalSizeBytes.toNat < alfieProtoHeaderSizeBytes then 0 else 1

/-- The callback that the router registers takes them, on either transport. -/
theorem routerCallback_registered {ε : Type} :
    (routerCallback true : Option (TransportRxCallback ε)) = some routerReferences := rfl

/-- A transport fills a buffer and hands it up. The length is one that the pool's 16-bit fields can
hold. -/
def Router.accept (t : AlfieTransport) (r : Router) (buffer : ℕ) (data : List UInt8) :
    Option Router :=
  if h : data.length < 2 ^ 16 then do
    let r ← r.step (.fill buffer ⟨data, UInt16.ofNat data.length, (UInt16.toNat_ofNat_of_lt' h).symm⟩)
    r.step (.rx t buffer)
  else none

/-- It hands up messages one after the other, each in a buffer of its own. -/
def Router.acceptAll (t : AlfieTransport) : Router → List ℕ → List (List UInt8) → Option Router
  | r, [], [] => some r
  | r, a :: buffers, m :: ms => do
    let r ← r.accept t a m
    r.acceptAll t buffers ms
  | _, _, _ => none

/-- The next statement of the thread is a `write`, and so a call of a transport layer. -/
def Router.atWrite (r : Router) : Bool :=
  match r.todo with
  | .write _ _ :: _ => true
  | _ => false

/-! ### The machine -/

/-- The devices, by their id: the radios on the air, the connections to the clients, the routers. -/
structure System where
  air : Net
  link : UInt32 → BleNet
  router : UInt32 → Router

/-- Every device is initialised, with these endpoints, and no client is connected. -/
def System.init (endpoints : List AlfieEndpoint) (memory : ℕ → CompletedBuffer) : System where
  air := .init fun _ => routerCallback true
  link _ := .unconnected routerReferences
  router _ := .init [dectTransport, bleTransport] endpoints memory

/-- The steps of the parts. What one part does to another is one action with it: a message that is
handed up is in the router's FIFO at once, and a write of the router starts the call. -/
inductive SystemAction where
  /-- the client or the Alfie BLE service of device `d` takes a step, or something happens to their
  connection; messages are handed up in `buffers` -/
  | link (d : UInt32) (a : LinkAction) (buffers : List ℕ)
  /-- a device handles a frame of the air; messages are handed up in `buffers` -/
  | receive (d : UInt32) (k : ℕ) (now : UInt32) (beyond : ℕ → UInt8) (buffers : List ℕ)
  /-- anything else happens on the air -/
  | air (a : Action)
  /-- `k_poll` returns to the router's thread -/
  | poll (d : UInt32) (events : Bool × Bool)
  /-- the router's thread goes on -/
  | run (d : UInt32)
  /-- the router's thread calls `write`, which draws this number -/
  | write (d : UInt32) (seqId : UInt16)

/-- The router's thread is in a call of a transport. -/
def System.Writing (s : System) (d : UInt32) : Prop :=
  (s.air.device d).writer.isSome ∨ (s.link d).serviceWriter.isSome

instance (s : System) (d : UInt32) : Decidable (s.Writing d) := inferInstanceAs (Decidable (_ ∨ _))

/-- The call of `alfie_ble_service_write` is made by the router only. -/
def LinkAction.ByRouter : LinkAction → Prop
  | .act (.serviceSend _ _) => True
  | _ => False

instance (a : LinkAction) : Decidable a.ByRouter :=
  a.casesOn (motive := fun a => Decidable a.ByRouter)
    (fun a => a.casesOn (motive := fun a => Decidable (LinkAction.act a).ByRouter)
      (fun _ _ => instDecidableFalse) instDecidableFalse (fun _ => instDecidableFalse)
      instDecidableFalse (fun _ _ => instDecidableFalse) (fun _ _ => instDecidableTrue)
      (fun _ => instDecidableFalse) (fun _ _ => instDecidableFalse) fun _ => instDecidableFalse)
    instDecidableFalse instDecidableFalse fun _ => instDecidableFalse

/-- So is that of `dect_transport_layer_write`, and frames are received with their own action. -/
def Action.Apart : Action → Prop
  | .startWrite _ _ _ _ => True
  | .receive _ _ _ _ => True
  | _ => False

instance (a : Action) : Decidable a.Apart :=
  a.casesOn (motive := fun a => Decidable a.Apart)
    (fun _ _ _ _ => instDecidableTrue) (fun _ => instDecidableFalse)
    (fun _ _ _ _ => instDecidableTrue) (fun _ => instDecidableFalse) fun _ _ => instDecidableFalse

/-- The call that a `write` of device `d` to a transport makes of the message in buffer `a`. -/
def System.startWrite (s : System) (d : UInt32) (seqId : UInt16) (t : AlfieTransport) (a : ℕ) :
    Option System :=
  let data := ((s.router d).memory a).data
  match t.type with
  | .downstream => do
    let air ← s.air.step (.startWrite d (AlfieProtoHeader.ofBytes data).dstId seqId data)
    some { s with air }
  | .upstream => do
    let l ← (s.link d).step (.serviceSend seqId data)
    some { s with link := Function.update s.link d l }

/-- One step; `none` when the action is not possible. A call of a layer is started only by the
router, so the actions of the parts that would start one on their own are excluded. -/
def System.step (s : System) : SystemAction → Option System
  | .link d a buffers =>
    if a.ByRouter then none
    else do
      let l ← (s.link d).linkStep a
      let r ← (s.router d).acceptAll bleTransport buffers
        (l.handedUp.drop (s.link d).handedUp.length)
      some { s with
        link := Function.update s.link d l
        router := Function.update s.router d r }
  | .receive d k now beyond buffers => do
    let air ← s.air.step (.receive d k now beyond)
    let r ← (s.router d).acceptAll dectTransport buffers
      (((air.device d).delivered.drop (s.air.device d).delivered.length).map Delivery.data)
    some { s with air, router := Function.update s.router d r }
  | .air a =>
    if a.Apart then none
    else do
      let air ← s.air.step a
      some { s with air }
  | .poll d events => do
    let r ← (s.router d).step (.poll events)
    some { s with router := Function.update s.router d r }
  | .run d =>
    if s.Writing d ∨ (s.router d).atWrite = true then none
    else do
      let r ← (s.router d).step .run
      some { s with router := Function.update s.router d r }
  | .write d seqId =>
    if s.Writing d then none
    else
      match (s.router d).todo with
      | .write t a :: _ => do
        let r ← (s.router d).step .run
        let s ← s.startWrite d seqId t a
        some { s with router := Function.update s.router d r }
      | _ => none

/-! ### Steps -/

/-- The kinds of steps, with what each of them changes; the rest of the system stays. -/
inductive SystemStep (s : System) : SystemAction → System → Prop
  | link {d : UInt32} {a : LinkAction} {buffers : List ℕ} {l : BleNet} {r : Router}
      (ha : ¬ a.ByRouter) (hl : (s.link d).linkStep a = some l)
      (hr : (s.router d).acceptAll bleTransport buffers
        (l.handedUp.drop (s.link d).handedUp.length) = some r) :
      SystemStep s (.link d a buffers) { s with
        link := Function.update s.link d l
        router := Function.update s.router d r }
  | receive {d : UInt32} {k : ℕ} {now : UInt32} {beyond : ℕ → UInt8} {buffers : List ℕ} {air : Net}
      {r : Router} (hair : s.air.step (.receive d k now beyond) = some air)
      (hr : (s.router d).acceptAll dectTransport buffers
        (((air.device d).delivered.drop (s.air.device d).delivered.length).map Delivery.data) =
          some r) :
      SystemStep s (.receive d k now beyond buffers)
        { s with air, router := Function.update s.router d r }
  | air {a : Action} {air : Net} (ha : ¬ a.Apart) (hair : s.air.step a = some air) :
      SystemStep s (.air a) { s with air }
  | poll {d : UInt32} {events : Bool × Bool} {r : Router}
      (hr : (s.router d).step (.poll events) = some r) :
      SystemStep s (.poll d events) { s with router := Function.update s.router d r }
  | run {d : UInt32} {r : Router} (hr : (s.router d).step .run = some r) :
      SystemStep s (.run d) { s with router := Function.update s.router d r }
  | writeDect {d : UInt32} {seqId : UInt16} {t : AlfieTransport} {a : ℕ} {rest : List RouterStmt}
      {r : Router} {air : Net} (htodo : (s.router d).todo = .write t a :: rest)
      (ht : t.type = .downstream) (hr : (s.router d).step .run = some r)
      (hair : s.air.step (.startWrite d
        (AlfieProtoHeader.ofBytes ((s.router d).memory a).data).dstId seqId
        ((s.router d).memory a).data) = some air) :
      SystemStep s (.write d seqId) { s with air, router := Function.update s.router d r }
  | writeBle {d : UInt32} {seqId : UInt16} {t : AlfieTransport} {a : ℕ} {rest : List RouterStmt}
      {r : Router} {l : BleNet} (htodo : (s.router d).todo = .write t a :: rest)
      (ht : t.type = .upstream) (hr : (s.router d).step .run = some r)
      (hl : (s.link d).step (.serviceSend seqId ((s.router d).memory a).data) = some l) :
      SystemStep s (.write d seqId) { s with
        link := Function.update s.link d l
        router := Function.update s.router d r }

/-- **Inversion of a step.** Everything about the system below goes by these cases, and no later
proof unfolds the step again. -/
theorem System.step_cases {s s' : System} {x : SystemAction} (h : s.step x = some s') :
    SystemStep s x s' := by
  cases x with
  | link d a buffers =>
    unfold System.step at h
    dsimp only at h
    split at h
    · cases h
    · next ha =>
      obtain ⟨l, hl, h⟩ := Option.bind_eq_some_iff.mp h
      obtain ⟨r, hr, h⟩ := Option.bind_eq_some_iff.mp h
      obtain rfl := Option.some.inj h
      exact .link ha hl hr
  -- the frame is handled, and then the messages of it are handed up
  | receive d k now beyond buffers =>
    obtain ⟨air, hair, h⟩ := Option.bind_eq_some_iff.mp h
    obtain ⟨r, hr, h⟩ := Option.bind_eq_some_iff.mp h
    obtain rfl := Option.some.inj h
    exact .receive hair hr
  | air a =>
    unfold System.step at h
    dsimp only at h
    split at h
    · cases h
    · -- the part takes its step first, and the router what is handed up by it
      next ha =>
      obtain ⟨air, hair, h⟩ := Option.bind_eq_some_iff.mp h
      obtain rfl := Option.some.inj h
      exact .air ha hair
  | poll d events =>
    obtain ⟨r, hr, h⟩ := Option.bind_eq_some_iff.mp h
    obtain rfl := Option.some.inj h
    exact .poll hr
  | run d =>
    unfold System.step at h
    dsimp only at h
    split at h
    · cases h
    · obtain ⟨r, hr, h⟩ := Option.bind_eq_some_iff.mp h
      obtain rfl := Option.some.inj h
      exact .run hr
  | write d seqId =>
    unfold System.step at h
    dsimp only at h
    split at h
    · cases h
    split at h
    · next t a rest htodo =>
      obtain ⟨r, hr, h⟩ := Option.bind_eq_some_iff.mp h
      obtain ⟨s₁, hs₁, h⟩ := Option.bind_eq_some_iff.mp h
      obtain rfl := Option.some.inj h
      unfold System.startWrite at hs₁
      dsimp only at hs₁
      split at hs₁
      · next ht =>
        -- downstream, and so a call of the DECT layer
        obtain ⟨air, hair, h⟩ := Option.bind_eq_some_iff.mp hs₁
        obtain rfl := Option.some.inj h
        exact .writeDect htodo ht hr hair
      · next ht =>
        obtain ⟨l, hl, h⟩ := Option.bind_eq_some_iff.mp hs₁
        obtain rfl := Option.some.inj h
        exact .writeBle htodo ht hr hl
    · cases h

/-! ### What a router passes on -/

/-- What has reached the router from the transports of either type satisfies `Origin` of the type,
and the router accounts for it. -/
structure Routes (Origin : AlfieTransportType → List UInt8 → Prop) (r : Router) : Prop where
  accounts : ∃ handled, Accounts r handled
  arrived : ∀ x ∈ r.arrived, Origin x.direction x.content.data

section Routes

variable {Origin : AlfieTransportType → List UInt8 → Prop} {r r' : Router} {t : AlfieTransport}

/-- The router has had no message in the beginning. -/
theorem Routes.init {transports : List AlfieTransport} {endpoints : List AlfieEndpoint}
    {memory : ℕ → CompletedBuffer} : Routes Origin (.init transports endpoints memory) where
  accounts := ⟨[], rfl, fun d => by cases d <;> rfl⟩
  arrived := fun _ h => absurd h List.not_mem_nil

/-- The thread takes no message from elsewhere: what it forwards is from the FIFOs, and these stay
sound. -/
theorem Routes.thread (h : Routes Origin r) {x : RouterAction} (hx : x.Thread)
    (hstep : r.step x = some r') : Routes Origin r' := by
  have hspec := Router.step_spec hstep
  obtain ⟨handled, haccounts⟩ := h.accounts
  refine ⟨haccounts.step hspec, ?_⟩
  cases hspec with
  | fill => exact absurd hx not_false
  -- filling and handing up are steps of the transports, not of the thread
  | rx => exact absurd hx not_false
  | poll => exact h.arrived
  | run hrun =>
    cases hrun with
    | get =>
      rw [dequeue_arrived]
      exact h.arrived
    | _ => exact h.arrived

/-- A message is handed up whose origin is the right one for its transport, and the router knows no
other after that. -/
theorem Routes.accept (h : Routes Origin r) {a : ℕ} {m : List UInt8} (hm : Origin t.type m)
    (haccept : r.accept t a m = some r') : Routes Origin r' := by
  unfold Router.accept at haccept
  split at haccept
  · next hlen =>
    -- the buffer is filled first; then the callback queues it
    obtain ⟨r₁, hfill, hrx⟩ := Option.bind_eq_some_iff.mp haccept
    obtain ⟨handled, haccounts⟩ := h.accounts
    cases Router.step_spec hfill with
    | fill ha =>
      cases Router.step_spec hrx with
      | rx =>
        refine ⟨⟨handled, (haccounts.fill ha _).rx t a⟩, List.forall_mem_append.mpr ⟨h.arrived, ?_⟩⟩
        intro x hx
        obtain rfl := List.mem_singleton.mp hx
        dsimp only
        rw [Function.update_self]
        exact hm
  · cases haccept

/-- And so are several, one after the other. -/
theorem Routes.acceptAll {buffers : List ℕ} {ms : List (List UInt8)} (h : Routes Origin r)
    (hms : ∀ m ∈ ms, Origin t.type m) (haccept : r.acceptAll t buffers ms = some r') :
    Routes Origin r' := by
  induction ms generalizing r buffers with
  | nil =>
    cases buffers with
    | nil => exact Option.some.inj haccept ▸ h
    | cons a buffers => cases haccept
  | cons m ms ih =>
    -- the first by the lemma about one, the others by the induction hypothesis
    obtain ⟨hm, hms⟩ := List.forall_mem_cons.mp hms
    cases buffers with
    | nil => cases haccept
    | cons a buffers =>
      obtain ⟨r₁, hr₁, hrest⟩ := Option.bind_eq_some_iff.mp haccept
      exact ih (h.accept hm hr₁) hms hrest

/-- **A transport is written what has come from the other side.** -/
theorem Routes.write (h : Routes Origin r) {a : ℕ} {rest : List RouterStmt}
    (htodo : r.todo = .write t a :: rest) : Origin t.type.opposite (r.memory a).data := by
  obtain ⟨handled, haccounts⟩ := h.accounts
  have hmem : RouterEffect.write t (AlfieProtoHeader.ofBytes (r.memory a).data).dstId
      (r.memory a).data (r.memory a).totalSizeBytes.toNat ∈
        handled.flatMap (handling r.transports r.endpoints) := by
    rw [← haccounts.log, Router.pending, htodo]
    exact List.mem_append_right _ (List.mem_append_left _ List.mem_cons_self)
  obtain ⟨x, hx, hmem⟩ := List.mem_flatMap.mp hmem
  -- of the handling of a message only the writes are writes
  simp only [handling, List.cons_append, List.append_assoc, List.mem_cons, reduceCtorEq,
    List.mem_append, List.mem_map, RouterEffect.write.injEq, List.not_mem_nil, or_false, false_or,
    and_false, exists_false] at hmem
  obtain ⟨t', ht', rfl, -, hdata, -⟩ := hmem
  have hne : t'.type ≠ x.direction := of_decide_eq_true (List.mem_filter.mp ht').2
  have hdirection : t'.type.opposite = x.direction := by
    cases htype : t'.type <;> cases hd : x.direction <;> rw [htype, hd] at hne <;>
      first | rfl | exact absurd rfl hne
  have harrived : x ∈ r.arrived := by
    have hmem : x ∈ r.arrived.filter fun y => y.direction = x.direction ∧ y.Accepted := by
      rw [haccounts.arrived]
      exact List.mem_append_left _ (List.mem_filter.mpr ⟨hx, decide_eq_true rfl⟩)
    exact (List.mem_filter.mp hmem).1
  rw [hdirection, ← hdata]
  exact h.arrived x harrived

end Routes

/-! ### The condition -/

/-- Nothing of another message is left under the number that a `write` draws. -/
def System.AdmitsWrite (s : System) (d : UInt32) (seqId : UInt16) : List RouterStmt → Prop
  | .write t a :: _ =>
    let data := ((s.router d).memory a).data
    match t.type with
    | .downstream => s.air.Admits (.startWrite d (AlfieProtoHeader.ofBytes data).dstId seqId data)
    | .upstream => (LinkAction.act (.serviceSend seqId data)).Continues (s.link d)
  | _ => True

/-- **The condition.** Clients, services and radios draw numbers under which nothing of another
message is left. -/
def System.Continues (s : System) : SystemAction → Prop
  | .link d a _ => a.Continues (s.link d)
  | .write d seqId => s.AdmitsWrite d seqId (s.router d).todo
  | _ => True

/-! ### The invariant -/

/-- Some client has sent the message to device `d`, which is what the header at its beginning
says. -/
def SentTo (Sent : UInt32 → List UInt8 → Prop) (d : UInt32) (m : List UInt8) : Prop :=
  ∃ a, Sent a m ∧ (AlfieProtoHeader.ofBytes m).dstId = d

/-- Where the messages come from that reach the router of device `d`: over BLE from its own client,
and over DECT from a client that has sent them to `d`. -/
def Origin (Sent : UInt32 → List UInt8 → Prop) (d : UInt32) :
    AlfieTransportType → List UInt8 → Prop
  | .upstream => Sent d
  | .downstream => SentTo Sent d

/-- **The invariant**: those of the parts, with what the client of each device has `Sent`. -/
structure SystemInv (Sent : UInt32 → List UInt8 → Prop) (s : System) : Prop where
  air : NetInv s.air
  delivered : DeliveredIsWritten s.air
  calls : ∀ d, ∀ call ∈ (s.air.device d).calls,
    Sent d call.data ∧ (AlfieProtoHeader.ofBytes call.data).dstId = call.dstId
  link : ∀ d, LinkInv routerReferences (Sent d) (SentTo Sent d) (s.link d)
  router : ∀ d, Routes (Origin Sent d) (s.router d)

/-- A device has only the calls that it has started. -/
theorem NetInv.mem_calls_of_step {n n' : Net} (h : NetInv n) {a : Action}
    (hstep : n.step a = some n') {d : UInt32} {call : Call} (hcall : call ∈ (n'.device d).calls) :
    call ∈ (n.device d).calls ∨ a = .startWrite d call.dstId call.seqId call.data := by
  -- a device other than the one that takes the step keeps its calls
  have hupdate : ∀ {d' : UInt32} {dev : Device} {out : List (List UInt8)} {P : Prop},
      call ∈ ((n.update d' dev out).device d).calls →
      (d = d' → call ∈ dev.calls → call ∈ (n.device d).calls ∨ P) →
      call ∈ (n.device d).calls ∨ P := by
    intro d' dev out P hmem hdev
    by_cases hd : d = d'
    · rw [hd, update_device_self] at hmem
      exact hdev hd hmem
    · rw [update_device_of_ne _ _ _ _ hd] at hmem
      exact Or.inl hmem
  cases Net.step_cases hstep with
  | @startWrite d' dstId seqId data =>
    refine hupdate hcall fun hd hmem => ?_
    subst hd
    unfold Device.startWrite at hmem
    dsimp only at hmem
    split at hmem
    · -- the call that has just begun, or one of those before
      rcases List.mem_cons.mp hmem with rfl | hmem
      · exact Or.inr rfl
      · exact Or.inl hmem
    · exact Or.inl hmem
  | writer =>
    refine hupdate hcall fun hd hmem => Or.inl ?_
    rw [hd]
    rwa [(writerStep_history _ _ _ _).1] at hmem
  | @receive d' now k beyond frame hk =>
    have hspec := h.received d' now beyond (List.mem_of_getElem? hk)
    refine hupdate hcall fun hd hmem => Or.inl ?_
    rw [hd]
    rwa [hspec.writer.2.1] at hmem
  | lose => exact Or.inl hcall
  | release =>
    refine hupdate hcall fun hd hmem => Or.inl ?_
    rw [hd]
    exact hmem

section Steps

variable {Sent : UInt32 → List UInt8 → Prop} {s s' : System}

/-- Nothing is sent, called or handed up in the beginning, so there is nothing whose origin is asked
for. -/
theorem SystemInv.init {endpoints : List AlfieEndpoint} {memory : ℕ → CompletedBuffer} :
    SystemInv Sent (.init endpoints memory) where
  air := .init _
  delivered := fun _ _ hm => absurd hm List.not_mem_nil
  calls := fun _ _ hc => absurd hc List.not_mem_nil
  link := fun _ => .init
  router := fun _ => .init

/-- What a device has received over the air was sent to it by a client. -/
theorem SystemInv.sentTo (h : SystemInv Sent s) {d : UInt32} {m : Delivery}
    (hm : m ∈ (s.air.device d).delivered) : SentTo Sent d m.data := by
  obtain ⟨call, hcall, hdst, -, hdata⟩ := h.delivered d m hm
  obtain ⟨hsent, hheader⟩ := h.calls m.srcId call hcall
  rw [← hdata]
  exact ⟨m.srcId, hsent, hheader.trans hdst⟩

/-- The air takes a step. When it starts a call, the call has to be one of a message that the client
of the device sent. -/
theorem SystemInv.airStep (h : SystemInv Sent s) {a : Action} {air : Net}
    (hstart : ∀ d dstId seqId data, a = .startWrite d dstId seqId data →
      Sent d data ∧ (AlfieProtoHeader.ofBytes data).dstId = dstId)
    (hadmits : s.air.Admits a) (hair : s.air.step a = some air) :
    SystemInv Sent { s with air } where
  air := h.air.step hadmits hair
  delivered := h.delivered.step h.air hair
  calls := by
    intro d call hcall
    rcases h.air.mem_calls_of_step hair hcall with hold | hnew
    · exact h.calls d call hold
    · exact hstart _ _ _ _ hnew
  link := h.link
  router := h.router

/-- The router of a device does something that keeps the origins; the other routers are not
concerned. -/
theorem SystemInv.setRouter (h : SystemInv Sent s) {d : UInt32} {r : Router}
    (hr : Routes (Origin Sent d) r) :
    SystemInv Sent { s with router := Function.update s.router d r } :=
  { h with
    router := Function.forall_update_iff _ (fun d r => Routes (Origin Sent d) r) |>.mpr
      ⟨hr, fun d' _ => h.router d'⟩ }

/-- The connection of a device does something that keeps its own invariant; the other connections
are not concerned. -/
theorem SystemInv.setLink (h : SystemInv Sent s) {d : UInt32} {l : BleNet}
    (hl : LinkInv routerReferences (Sent d) (SentTo Sent d) l) :
    SystemInv Sent { s with link := Function.update s.link d l } :=
  { h with
    link := Function.forall_update_iff _
      (fun d l => LinkInv routerReferences (Sent d) (SentTo Sent d) l) |>.mpr
      ⟨hl, fun d' _ => h.link d'⟩ }

/-- What the clients send counts as sent, from the step of the send on. -/
def SystemAction.Sends (Sent : UInt32 → List UInt8 → Prop) : SystemAction → Prop
  | .link d (.act (.clientSend _ data)) _ => Sent d data
  | _ => True

/-- **One step** of the system: of a connection, of a router, or of the air, each by the lemma about
it. -/
theorem SystemInv.step (h : SystemInv Sent s) {x : SystemAction} (hcontinues : s.Continues x)
    (hsends : x.Sends Sent) (hstep : s.step x = some s') : SystemInv Sent s' := by
  cases System.step_cases hstep with
  | @link d a buffers l r ha hl hr =>
    have hinv : LinkInv routerReferences (Sent d) (SentTo Sent d) l := by
      refine (h.link d).step hcontinues ?_ hl
      unfold LinkAction.Sends
      split
      · exact hsends
      · exact absurd trivial ha
      · trivial
    refine (h.setLink hinv).setRouter ((h.router d).acceptAll ?_ hr)
    -- the service hands up what the client has sent
    intro m hm
    obtain ⟨_, hup⟩ := hinv.up
    exact hup.delivered m (List.mem_of_mem_drop hm)
  -- what the radio hands up was called by another device, for a message that its client sent
  | @receive d k now beyond buffers air r hair hr =>
    have hinv := h.airStep (a := .receive d k now beyond)
      (fun _ _ _ _ heq => Action.noConfusion heq) trivial hair
    refine hinv.setRouter ((h.router d).acceptAll ?_ hr)
    intro m hm
    obtain ⟨delivery, hdelivery, rfl⟩ := List.mem_map.mp hm
    exact hinv.sentTo (List.mem_of_mem_drop hdelivery)
  | @air a air ha hair =>
    refine h.airStep ?_ ?_ hair
    · rintro d dstId seqId data rfl
      exact absurd trivial ha
    · cases a with
      | startWrite => exact absurd trivial ha
      | _ => trivial
  | @poll d events r hr => exact h.setRouter ((h.router d).thread (x := .poll events) trivial hr)
  | @run d r hr => exact h.setRouter ((h.router d).thread (x := .run) trivial hr)
  | @writeDect d seqId t a rest r air htodo ht hr hair =>
    -- what the router writes was handed up by the transport of the other type
    have horigin := (h.router d).write htodo
    unfold System.Continues System.AdmitsWrite at hcontinues
    dsimp only at hcontinues
    rw [htodo] at hcontinues
    dsimp only at hcontinues
    rw [ht] at horigin hcontinues
    refine (h.airStep ?_ hcontinues hair).setRouter ((h.router d).thread (x := .run) trivial hr)
    rintro _ _ _ _ heq
    injection heq with hd hdst _ hdata
    subst hd hdst hdata
    exact ⟨horigin, rfl⟩
  | @writeBle d seqId t a rest r l htodo ht hr hl =>
    have horigin := (h.router d).write htodo
    unfold System.Continues System.AdmitsWrite at hcontinues
    dsimp only at hcontinues
    rw [htodo] at hcontinues
    dsimp only at hcontinues
    rw [ht] at horigin hcontinues
    exact (h.setLink ((h.link d).act hcontinues horigin hl)).setRouter
      ((h.router d).thread (x := .run) trivial hr)

end Steps

/-! ### The result -/

/-- What the client of device `d` sends in a run. -/
def systemSends (as : List SystemAction) (d : UInt32) : List (List UInt8) :=
  clientSends (as.filterMap fun
    | .link d' a _ => if d' = d then some a else none
    | _ => none)

/-- **The clients deliver what was sent to their devices**, and nothing else; what a device writes
to the air is from its own client. When the clients send texts, each client shows texts that were
sent to its device. -/
theorem system_delivers_sent (endpoints : List AlfieEndpoint) (memory : ℕ → CompletedBuffer)
    (as : List SystemAction) (s : System)
    (h : Steps System.step System.Continues (.init endpoints memory) as s) :
    (∀ d, ∀ m ∈ (s.link d).messages,
      ∃ a, m ∈ systemSends as a ∧ (AlfieProtoHeader.ofBytes m).dstId = d) ∧
    (∀ d, ∀ call ∈ (s.air.device d).calls, call.data ∈ systemSends as d) ∧
    ((∀ a, ∀ m ∈ systemSends as a, ∃ srcId dstId text uuid, m = textBytes srcId dstId text uuid) →
      ∀ d, ∀ m ∈ (s.link d).messages, ∃ a srcId text uuid,
        textBytes srcId d text uuid ∈ systemSends as a ∧
        TextMessage.unpack m = .ok (.create srcId.toNat d.toNat (rstripNul text) uuid)) := by
  have hinv : SystemInv (fun d m => m ∈ systemSends as d) s := by
    refine h.mem.invariant (fun s x s' hs hx hstep => hs.step hx.1 ?_ hstep) .init
    unfold SystemAction.Sends
    split
    -- a send is one of the run; every other action sends nothing
    · next d seqId data buffers =>
      exact List.mem_filterMap.mpr ⟨_, List.mem_filterMap.mpr ⟨_, hx.2, if_pos rfl⟩, rfl⟩
    · trivial
  have hmessages : ∀ d, ∀ m ∈ (s.link d).messages,
      ∃ a, m ∈ systemSends as a ∧ (AlfieProtoHeader.ofBytes m).dstId = d := by
    intro d m hm
    obtain ⟨_, hdown⟩ := (hinv.link d).down
    exact hdown.delivered m hm
  -- the first two are the invariant; for a text, the header and the text are read back from the
  -- bytes
  refine ⟨hmessages, fun d call hcall => (hinv.calls d call hcall).1, fun htexts d m hm => ?_⟩
  obtain ⟨a, hsent, hdst⟩ := hmessages d m hm
  obtain ⟨srcId, dstId, text, uuid, rfl⟩ := htexts a m hsent
  obtain ⟨-, -, -, hfield, -⟩ := field_textBytes srcId dstId text uuid
  have hheader : (AlfieProtoHeader.ofBytes (textBytes srcId dstId text uuid)).dstId = dstId := by
    change UInt32.ofNat (field (textBytes srcId dstId text uuid) 6 4) = dstId
    rw [hfield, UInt32.ofNat_toNat]
  obtain rfl : dstId = d := hheader.symm.trans hdst
  exact ⟨a, srcId, text, uuid, hsent, unpack_textBytes srcId dstId text uuid⟩

instance (n : Net) (a : Action) : Decidable (n.Admits a) :=
  a.casesOn (motive := fun a => Decidable (n.Admits a))
    (fun d dstId seqId data => inferInstanceAs (Decidable ((n.device d).admits data = true →
      (∀ call ∈ n.lookup d dstId seqId, call.data = data) ∨
        ((∀ frame ∈ n.air, isDataFrame d dstId seqId frame = false) ∧
          ∀ b ∈ (n.device dstId).transport.rxPool.contexts,
            ¬ (b.state = .receiving ∧ b.ext.srcId = d ∧ b.seqId = seqId)))))
    (fun _ => instDecidableTrue) (fun _ _ _ _ => instDecidableTrue) (fun _ => instDecidableTrue)
    fun _ _ => instDecidableTrue

instance (s : System) (d : UInt32) (seqId : UInt16) (stmts : List RouterStmt) :
    Decidable (s.AdmitsWrite d seqId stmts) := by
  unfold System.AdmitsWrite
  split
  · dsimp only
    split <;> infer_instance
  · infer_instance

instance (s : System) (x : SystemAction) : Decidable (s.Continues x) :=
  x.casesOn (motive := fun x => Decidable (s.Continues x))
    (fun d a _ => inferInstanceAs (Decidable (a.Continues (s.link d))))
    (fun _ _ _ _ _ => instDecidableTrue) (fun _ => instDecidableTrue)
    (fun _ _ => instDecidableTrue) (fun _ => instDecidableTrue)
    fun d seqId => inferInstanceAs (Decidable (s.AdmitsWrite d seqId (s.router d).todo))

/-- A text of one letter from the client of device 1 to the client of device 2. -/
def oneLetter : List UInt8 := textBytes 1 2 "a" (Vector.replicate 16 7)

/-- It goes over BLE, in three fragments over DECT, and over BLE again. -/
def oneLetterSent : List SystemAction :=
  [.link 1 (.connect 247) [], .link 2 (.connect 247) [],
    -- the client of device 1
    .link 1 (.act (.clientSend 5 oneLetter)) [], .link 1 (.act (.clientWriter true)) [],
    .link 1 (.act (.clientWriter true)) [], .link 1 (.act (.serviceReceive 0 .ok)) [40],
    -- device 1
    .poll 1 (true, false), .run 1, .write 1 7, .air (.writer 1), .air (.writer 1),
    .receive 2 0 100 (fun _ => 0) [], .receive 1 1 110 (fun _ => 0) [], .air (.writer 1),
    .air (.writer 1), .air (.writer 1), .receive 2 2 120 (fun _ => 0) [],
    .receive 1 3 130 (fun _ => 0) [], .air (.writer 1), .air (.writer 1), .air (.writer 1),
    .receive 2 4 140 (fun _ => 0) [50],
    -- device 2
    .poll 2 (false, true), .run 2, .run 2, .write 2 9, .link 2 (.act (.serviceWriter .ok)) [],
    .link 2 (.act (.serviceWriter .ok)) [], .link 2 (.act .clientReceive) []]

/-- The letter arrives: the run below is one of the system, step by step, and it ends with the
text. -/
theorem oneLetterSent_run : ∃ s : System,
    Steps System.step System.Continues (.init [] fun _ => toEndpointThree) oneLetterSent s ∧
      (s.link 2).messages = [oneLetter] := by
  have hend : ∃ s ∈ checkRun System.step System.Continues (.init [] fun _ => toEndpointThree)
      oneLetterSent, (s.link 2).messages = [oneLetter] := by
    decide +kernel
  obtain ⟨s, hs, hmessages⟩ := hend
  exact ⟨s, steps_of_checkRun hs, hmessages⟩

/-- The theorem at that run: the letter shown by the client of device 2 was sent to it. -/
theorem system_delivers_sent_oneLetter : ∃ s : System,
    Steps System.step System.Continues (.init [] fun _ => toEndpointThree) oneLetterSent s ∧
      (s.link 2).messages = [oneLetter] ∧
      ∃ a, oneLetter ∈ systemSends oneLetterSent a ∧
        (AlfieProtoHeader.ofBytes oneLetter).dstId = 2 := by
  obtain ⟨s, hrun, hmessages⟩ := oneLetterSent_run
  obtain ⟨hdelivers, -⟩ := system_delivers_sent [] _ oneLetterSent s hrun
  refine ⟨s, hrun, hmessages, hdelivers 2 oneLetter ?_⟩
  rw [hmessages]
  exact List.mem_singleton.mpr rfl

end DectCommunicator
