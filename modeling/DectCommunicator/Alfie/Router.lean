import DectCommunicator.Lib.LittleEndian
import DectCommunicator.Lib.Runs
import Mathlib.Data.List.Nodup
import Mathlib.Algebra.Order.Group.Nat

/-!
# The router

`alfie_router.c`: messages that the transports have completed are queued by direction, and one
thread forwards them to the transports of the other type and to their endpoint.

The thread and the transports interleave statement by statement. The FIFOs hold the addresses of
the buffers, and every statement of the thread reads the bytes at the time it is executed: a
transport can fill a buffer again as soon as the router does not hold it any more. The result of
`k_poll` is the only choice of the thread; it reports some FIFO that is not empty.

What the thread does is logged as a list of `RouterEffect`s. The invariant `Accounts` says that the
log together with the statements still to come is the handling of the messages that have been
dequeued, one after the other, and that these together with the messages in the FIFOs are the
messages that have arrived, in order. `Router.work` bounds what the thread can do without further
arrivals, and it stops only when nothing is left to do (`router_exactly_once`).
-/

namespace DectCommunicator

open LittleEndian Machine

/-! ### Data -/

/-- `alfie_transport_type_t`: the BLE service is the upstream transport of a device, DECT the
downstream one. -/
inductive AlfieTransportType where
  | upstream
  | downstream
deriving DecidableEq, Repr

/-- The type of the transports that messages are forwarded to. -/
def AlfieTransportType.opposite : AlfieTransportType → AlfieTransportType
  | .upstream => .downstream
  | .downstream => .upstream

/-- `alfie_transport_t`: the address of the instance stands for its API. -/
structure AlfieTransport where
  addr : ℕ
  type : AlfieTransportType
deriving DecidableEq, Repr

/-- `alfie_endpoint_t`: the address of the instance stands for its API. -/
structure AlfieEndpoint where
  addr : ℕ
  endpointId : UInt8
deriving DecidableEq, Repr

/-- `alfie_proto_header_t`, which every message that the router forwards begins with. -/
structure AlfieProtoHeader where
  version : UInt8
  endpointId : UInt8
  srcId : UInt32
  dstId : UInt32
deriving DecidableEq, Repr

/-- `sizeof(alfie_proto_header_t)`, packed: two bytes and two 32-bit ids. -/
abbrev alfieProtoHeaderSizeBytes : ℕ := 10

/-- The header at the beginning of a message, read in place. The router uses the endpoint and the
destination, and never the version. -/
def AlfieProtoHeader.ofBytes (buf : List UInt8) : AlfieProtoHeader where
  version := UInt8.ofNat (field buf 0 1)
  endpointId := UInt8.ofNat (field buf 1 1)
  srcId := UInt32.ofNat (field buf 2 4)
  dstId := UInt32.ofNat (field buf 6 4)

/-- What the router reads of a completed `transport_buffer_t`: the bytes of its `net_buf` and
`total_size_bytes`, which agree when a message is complete. -/
structure CompletedBuffer where
  data : List UInt8
  totalSizeBytes : UInt16
  length_data : data.length = totalSizeBytes.toNat
deriving DecidableEq, Repr

/-- The calls that the router thread makes, which is all that the others see of it. -/
inductive RouterEffect where
  /-- `k_fifo_get` on the FIFO of a direction returns the buffer at an address -/
  | fifoGet (direction : AlfieTransportType) (buffer : ℕ)
  /-- `transport->api->write` with these arguments -/
  | write (transport : AlfieTransport) (dstId : UInt32) (data : List UInt8) (lenBytes : ℕ)
  /-- `endpoint->api.on_frame_rx` -/
  | onFrameRx (endpoint : AlfieEndpoint) (buffer : ℕ)
  /-- `transport_buffer_unref` -/
  | unref (buffer : ℕ)
deriving DecidableEq, Repr

/-- A statement of `prv_forward_to_downstream` or `prv_forward_to_upstream`, between any two of
which a transport may run. -/
inductive RouterStmt where
  | write (transport : AlfieTransport) (buffer : ℕ)
  | notifyEndpoint (buffer : ℕ)
  | unref (buffer : ℕ)
deriving DecidableEq, Repr

/-- The buffer that a statement is about, to which the router has a reference until the last one. -/
def RouterStmt.buffer : RouterStmt → ℕ
  | .write _ a => a
  | .notifyEndpoint a => a
  | .unref a => a

/-- `prv_notify_endpoint`: the first endpoint with the id of the header. -/
def prvNotifyEndpoint (endpoints : List AlfieEndpoint) (header : AlfieProtoHeader) (buffer : ℕ) :
    List RouterEffect :=
  match endpoints.find? fun e => e.endpointId = header.endpointId with
  | some e => [.onFrameRx e buffer]
  | none => []

/-- What a statement does when the buffers hold `memory`: it reads the bytes when it is executed,
and not when the message was dequeued. -/
def RouterStmt.exec (endpoints : List AlfieEndpoint) (memory : ℕ → CompletedBuffer) :
    RouterStmt → List RouterEffect
  | .write t a =>
    [.write t (AlfieProtoHeader.ofBytes (memory a).data).dstId (memory a).data
      (memory a).totalSizeBytes.toNat]
  | .notifyEndpoint a =>
    prvNotifyEndpoint endpoints (AlfieProtoHeader.ofBytes (memory a).data) a
  | .unref a => [.unref a]

/-- The statements of the function that forwards to the transports of type `type`: the two functions
differ in this type and in nothing else. The loop over the transports is unrolled. -/
def prvForward (type : AlfieTransportType) (transports : List AlfieTransport) (buffer : ℕ) :
    List RouterStmt :=
  (transports.flatMap fun t => if t.type = type then [.write t buffer] else []) ++
    [.notifyEndpoint buffer, .unref buffer]

/-- `prv_forward_to_downstream`, for the messages of an upstream transport. -/
def prvForwardToDownstream : List AlfieTransport → ℕ → List RouterStmt := prvForward .downstream

/-- `prv_forward_to_upstream`, for the messages of a downstream transport. -/
def prvForwardToUpstream : List AlfieTransport → ℕ → List RouterStmt := prvForward .upstream

/-! ### The machine -/

/-- A message that a transport of type `direction` has handed up. -/
structure Arrival where
  direction : AlfieTransportType
  buffer : ℕ
  content : CompletedBuffer
deriving DecidableEq, Repr

/-- The router accepts the message: it is no shorter than the header. `prv_handle_transport_rx`
compares the announced size, with which the length agrees. -/
def Arrival.Accepted (x : Arrival) : Prop :=
  alfieProtoHeaderSizeBytes ≤ x.content.totalSizeBytes.toNat

instance (x : Arrival) : Decidable x.Accepted := inferInstanceAs (Decidable (_ ≤ _))

/-- Where the thread is in its loop: in `k_poll`, at the test of an event, or after the handling
of what the event announced. -/
inductive RouterPc where
  | poll
  | upstream
  | upstreamDone
  | downstream
  | downstreamDone
deriving DecidableEq, Repr

/-- The private instance of the router, its thread and the buffers. `events` are the states of the
two poll events, `todo` the rest of the forward function that is being executed. The calls made so
far and the messages handed up so far are recorded in `log` and `arrived`. -/
structure Router where
  transports : List AlfieTransport
  endpoints : List AlfieEndpoint
  fromUpstreamFifo : List ℕ
  fromDownstreamFifo : List ℕ
  pc : RouterPc
  events : Bool × Bool
  todo : List RouterStmt
  memory : ℕ → CompletedBuffer
  log : List RouterEffect
  arrived : List Arrival

/-- The router after initialisation and registration, its thread waiting in `k_poll`. -/
def Router.init (transports : List AlfieTransport) (endpoints : List AlfieEndpoint)
    (memory : ℕ → CompletedBuffer) : Router :=
  ⟨transports, endpoints, [], [], .poll, (false, false), [], memory, [], []⟩

/-- The FIFO of a direction, oldest first. -/
def Router.fifo (r : Router) : AlfieTransportType → List ℕ
  | .upstream => r.fromUpstreamFifo
  | .downstream => r.fromDownstreamFifo

/-- The buffers that the router holds a reference to: those in the FIFOs and the one being
forwarded. -/
def Router.held (r : Router) : List ℕ :=
  r.fromUpstreamFifo ++ r.fromDownstreamFifo ++ r.todo.map RouterStmt.buffer

/-- `prv_handle_transport_rx`, on the thread of the transport. A message shorter than the header is
dropped, without a reference. -/
def prvHandleTransportRx (transport : AlfieTransport) (buffer : ℕ) (r : Router) : Router :=
  if (r.memory buffer).totalSizeBytes.toNat < alfieProtoHeaderSizeBytes then r
  else
    match transport.type with
    | .upstream => { r with fromUpstreamFifo := r.fromUpstreamFifo ++ [buffer] }
    | .downstream => { r with fromDownstreamFifo := r.fromDownstreamFifo ++ [buffer] }

/-- What can happen next, of the thread or of the transports. -/
inductive RouterAction where
  /-- a transport fills a buffer that the router does not hold -/
  | fill (buffer : ℕ) (content : CompletedBuffer)
  /-- a transport hands up a message, in a buffer that the router does not hold -/
  | rx (transport : AlfieTransport) (buffer : ℕ)
  /-- `k_poll` returns with these event states -/
  | poll (events : Bool × Bool)
  /-- the thread goes on -/
  | run

/-- `k_poll` reports a FIFO that is not empty, as it returns for no other reason. The state of the
other event is arbitrary, since the source resets it only when it was set. -/
def Router.Reported (r : Router) (events : Bool × Bool) : Prop :=
  (events.1 = true ∧ r.fromUpstreamFifo ≠ []) ∨ (events.2 = true ∧ r.fromDownstreamFifo ≠ [])

instance (r : Router) (events : Bool × Bool) : Decidable (r.Reported events) := by
  unfold Router.Reported
  infer_instance

/-- The next statement of `prv_thread` outside the forward functions. In a round each direction is
served once, and the state of an event is reset behind its handling. -/
def Router.runLoop (r : Router) : Option Router :=
  match r.pc with
  | .poll => none
  | .upstream =>
    if r.events.1 = true then
      match r.fromUpstreamFifo with
      | [] => some { r with pc := .upstreamDone }
      | a :: rest =>
        some { r with
          pc := .upstreamDone
          fromUpstreamFifo := rest
          todo := prvForwardToDownstream r.transports a
          log := r.log ++ [.fifoGet .upstream a] }
    else some { r with pc := .downstream }
  | .upstreamDone => some { r with pc := .downstream, events := (false, r.events.2) }
  | .downstream =>
    if r.events.2 = true then
      match r.fromDownstreamFifo with
      | [] => some { r with pc := .downstreamDone }
      | a :: rest =>
        some { r with
          pc := .downstreamDone
          fromDownstreamFifo := rest
          todo := prvForwardToUpstream r.transports a
          log := r.log ++ [.fifoGet .downstream a] }
    else some { r with pc := .poll }
  | .downstreamDone => some { r with pc := .poll, events := (r.events.1, false) }

/-- One step of the thread: the next statement of the forward function it is in, or of its loop. -/
def Router.run (r : Router) : Option Router :=
  match r.todo with
  | s :: rest => some { r with todo := rest, log := r.log ++ s.exec r.endpoints r.memory }
  | [] => r.runLoop

/-- The system takes a step; `none` when it is not possible. That no buffer arrives that the router
still holds is what the reference count of the pool guarantees. -/
def Router.step (r : Router) : RouterAction → Option Router
  | .fill a m =>
    if a ∈ r.held then none else some { r with memory := Function.update r.memory a m }
  | .rx t a =>
    if a ∈ r.held then none
    else
      some { prvHandleTransportRx t a r with
        arrived := r.arrived ++ [⟨t.type, a, r.memory a⟩] }
  | .poll events =>
    if r.pc = .poll ∧ r.todo = [] ∧ r.Reported events then
      some { r with pc := .upstream, events := events }
    else none
  | .run => r.run

/-! ### What the thread does in one step -/

/-- The messages in a FIFO, with what the buffers hold now. -/
def Router.queued (r : Router) (d : AlfieTransportType) : List Arrival :=
  (r.fifo d).map fun a => ⟨d, a, r.memory a⟩

/-- What the forward function that is being executed still does. -/
def Router.pending (r : Router) : List RouterEffect :=
  r.todo.flatMap (RouterStmt.exec r.endpoints r.memory)

/-- The router after a buffer was dequeued: it has the statements of a forward function before
it. -/
def Router.dequeue (r : Router) : AlfieTransportType → ℕ → List ℕ → Router
  | .upstream, a, rest =>
    { r with
      pc := .upstreamDone
      fromUpstreamFifo := rest
      todo := prvForwardToDownstream r.transports a
      log := r.log ++ [.fifoGet .upstream a] }
  | .downstream, a, rest =>
    { r with
      pc := .downstreamDone
      fromDownstreamFifo := rest
      todo := prvForwardToUpstream r.transports a
      log := r.log ++ [.fifoGet .downstream a] }

section Dequeue

variable (r : Router) (d : AlfieTransportType) (a : ℕ) (rest : List ℕ)

/-- Dequeuing changes the FIFO, the place of the thread and the log; the transports stay. -/
@[simp] theorem dequeue_transports : (r.dequeue d a rest).transports = r.transports := by
  cases d <;> rfl

/-- The endpoints stay. -/
@[simp] theorem dequeue_endpoints : (r.dequeue d a rest).endpoints = r.endpoints := by
  cases d <;> rfl

/-- No buffer is written. -/
@[simp] theorem dequeue_memory : (r.dequeue d a rest).memory = r.memory := by cases d <;> rfl

/-- Nothing arrives. -/
@[simp] theorem dequeue_arrived : (r.dequeue d a rest).arrived = r.arrived := by cases d <;> rfl

/-- The log has one call more. -/
@[simp] theorem dequeue_log : (r.dequeue d a rest).log = r.log ++ [.fifoGet d a] := by
  cases d <;> rfl

/-- What is left to do is all that the forward function of the other type does. -/
theorem dequeue_pending : (r.dequeue d a rest).pending =
    (prvForward d.opposite r.transports a).flatMap (RouterStmt.exec r.endpoints r.memory) := by
  cases d <;> rfl

/-- One FIFO has lost its head, and the other one is as before. -/
theorem dequeue_fifo (d' : AlfieTransportType) :
    (r.dequeue d a rest).fifo d' = if d = d' then rest else r.fifo d' := by
  cases d <;> cases d' <;> rfl

end Dequeue

/-- `prv_handle_transport_rx` appends an accepted message to the FIFO of its direction. -/
theorem prvHandleTransportRx_fifo (t : AlfieTransport) (a : ℕ) (r : Router)
    (d : AlfieTransportType) :
    (prvHandleTransportRx t a r).fifo d =
      r.fifo d ++ if t.type = d ∧ (Arrival.mk t.type a (r.memory a)).Accepted then [a] else [] := by
  unfold prvHandleTransportRx Arrival.Accepted
  dsimp only
  split
  · next hsmall => rw [if_neg fun h => absurd h.2 (not_le.mpr hsmall), List.append_nil]
  · next hsize =>
    have hle := not_lt.mp hsize
    cases htype : t.type <;> cases d <;> simp [Router.fifo, hle]

/-- It changes nothing else than the two FIFOs. -/
theorem prvHandleTransportRx_frame (t : AlfieTransport) (a : ℕ) (r : Router) :
    ∃ up down, prvHandleTransportRx t a r =
      { r with fromUpstreamFifo := up, fromDownstreamFifo := down } := by
  unfold prvHandleTransportRx
  split
  · exact ⟨_, _, rfl⟩
  · cases t.type <;> exact ⟨_, _, rfl⟩

/-- The test of the event of a direction, with which its part of the round begins. -/
def RouterPc.test : AlfieTransportType → RouterPc
  | .upstream => .upstream
  | .downstream => .downstream

/-- The state of the event of a direction, as the last `k_poll` left it. -/
def Router.event (r : Router) : AlfieTransportType → Bool
  | .upstream => r.events.1
  | .downstream => r.events.2

/-- The steps of the thread, with what each needs. Only `stmt` and `get` are seen from outside. -/
inductive Router.Run (r : Router) : Router → Prop
  | stmt {s : RouterStmt} {rest : List RouterStmt} (htodo : r.todo = s :: rest) :
      Router.Run r { r with todo := rest, log := r.log ++ s.exec r.endpoints r.memory }
  | get {d : AlfieTransportType} {a : ℕ} {rest : List ℕ} (htodo : r.todo = [])
      (hpc : r.pc = .test d) (hevent : r.event d = true) (hfifo : r.fifo d = a :: rest) :
      Router.Run r (r.dequeue d a rest)
  | upstreamEmpty (hpc : r.pc = .upstream) (hevent : r.events.1 = true)
      (hfifo : r.fromUpstreamFifo = []) : Router.Run r { r with pc := .upstreamDone }
  | upstreamSkip (hpc : r.pc = .upstream) (hevent : r.events.1 ≠ true) :
      Router.Run r { r with pc := .downstream }
  | upstreamDone (hpc : r.pc = .upstreamDone) :
      Router.Run r { r with pc := .downstream, events := (false, r.events.2) }
  | downstreamEmpty (hpc : r.pc = .downstream) (hevent : r.events.2 = true)
      (hfifo : r.fromDownstreamFifo = []) : Router.Run r { r with pc := .downstreamDone }
  | downstreamSkip (hpc : r.pc = .downstream) (hevent : r.events.2 ≠ true) :
      Router.Run r { r with pc := .poll }
  | downstreamDone (hpc : r.pc = .downstreamDone) :
      Router.Run r { r with pc := .poll, events := (r.events.1, false) }

/-- **Inversion of a step of the thread.** -/
theorem Router.run_spec {r r' : Router} (h : r.run = some r') : r.Run r' := by
  unfold Router.run at h
  split at h
  · next s rest htodo =>
    obtain rfl := Option.some.inj h
    exact .stmt htodo
  next htodo =>
  -- nothing is left of a forward function: the thread is in its loop
  unfold Router.runLoop at h
  split at h
  · cases h
  · next hpc =>
    split at h
    · -- the event of the upstream FIFO was reported: a message is taken, unless it is empty after
      -- all
      next hevent =>
      split at h
      · next hfifo =>
        obtain rfl := Option.some.inj h
        exact .upstreamEmpty hpc hevent hfifo
      · next a rest hfifo =>
        obtain rfl := Option.some.inj h
        exact .get (d := .upstream) htodo hpc hevent hfifo
    · next hevent =>
      obtain rfl := Option.some.inj h
      exact .upstreamSkip hpc hevent
  · next hpc =>
    obtain rfl := Option.some.inj h
    exact .upstreamDone hpc
  · next hpc =>
    split at h
    · next hevent =>
      split at h
      · next hfifo =>
        obtain rfl := Option.some.inj h
        exact .downstreamEmpty hpc hevent hfifo
      · next a rest hfifo =>
        obtain rfl := Option.some.inj h
        exact .get (d := .downstream) htodo hpc hevent hfifo
    · next hevent =>
      obtain rfl := Option.some.inj h
      exact .downstreamSkip hpc hevent
  · next hpc =>
    obtain rfl := Option.some.inj h
    exact .downstreamDone hpc

/-- The steps of the system, with what makes them possible. -/
inductive Router.Step (r : Router) : RouterAction → Router → Prop
  | fill {a : ℕ} (ha : a ∉ r.held) (m : CompletedBuffer) :
      Router.Step r (.fill a m) { r with memory := Function.update r.memory a m }
  | rx {a : ℕ} (ha : a ∉ r.held) (t : AlfieTransport) :
      Router.Step r (.rx t a) { prvHandleTransportRx t a r with
        arrived := r.arrived ++ [⟨t.type, a, r.memory a⟩] }
  | poll {events : Bool × Bool} (hpc : r.pc = .poll) (htodo : r.todo = [])
      (hreported : r.Reported events) :
      Router.Step r (.poll events) { r with pc := .upstream, events := events }
  | run {r' : Router} (h : r.Run r') : Router.Step r .run r'

/-- **Inversion of a step of the system**: the proofs about runs split on `Router.Step`. -/
theorem Router.step_spec {r r' : Router} {x : RouterAction} (h : r.step x = some r') :
    r.Step x r' := by
  cases x with
  -- a transport may fill only a buffer that the router does not hold
  | fill a m =>
    unfold Router.step at h
    dsimp only at h
    split at h
    · cases h
    · next ha =>
      obtain rfl := Option.some.inj h
      exact .fill ha m
  -- and hand up only such a one
  | rx t a =>
    unfold Router.step at h
    dsimp only at h
    split at h
    · cases h
    · next ha =>
      obtain rfl := Option.some.inj h
      exact .rx ha t
  -- `k_poll` returns with an event of a FIFO that is not empty
  | poll events =>
    unfold Router.step at h
    dsimp only at h
    split at h
    · next hpoll =>
      obtain rfl := Option.some.inj h
      exact .poll hpoll.1 hpoll.2.1 hpoll.2.2
    · cases h
  | run => exact .run (Router.run_spec h)

/-- What is registered does not change, registrations being over when the run begins. -/
theorem Router.Step.config {r r' : Router} {x : RouterAction} (h : r.Step x r') :
    r'.transports = r.transports ∧ r'.endpoints = r.endpoints := by
  cases h with
  | fill => exact ⟨rfl, rfl⟩
  | @rx a _ t =>
    obtain ⟨up, down, heq⟩ := prvHandleTransportRx_frame t a r
    rw [heq]
    exact ⟨rfl, rfl⟩
  | poll => exact ⟨rfl, rfl⟩
  | run hrun =>
    cases hrun with
    | get => exact ⟨dequeue_transports _ _ _ _, dequeue_endpoints _ _ _ _⟩
    | _ => exact ⟨rfl, rfl⟩

/-! ### What is to be done with a message -/

/-- The transports that a message from a transport of type `direction` is written to. -/
def receivers (transports : List AlfieTransport) (direction : AlfieTransportType) :
    List AlfieTransport :=
  transports.filter fun t => t.type ≠ direction

/-- **The handling of a message**: it is dequeued, written to every transport of the other type with
the destination in bytes 6 to 9, handed to the first endpoint with the id in byte 1, and
released. -/
def handling (transports : List AlfieTransport) (endpoints : List AlfieEndpoint) (x : Arrival) :
    List RouterEffect :=
  .fifoGet x.direction x.buffer ::
    ((receivers transports x.direction).map fun t =>
      .write t (UInt32.ofNat (field x.content.data 6 4)) x.content.data x.content.data.length) ++
    ((endpoints.find? fun e => some e.endpointId = x.content.data[1]?).toList.map fun e =>
      .onFrameRx e x.buffer) ++
    [.unref x.buffer]

section Handling

variable {transports : List AlfieTransport} {endpoints : List AlfieEndpoint} {x : Arrival}

/-- A byte of the header is its own field, so a lookup by the byte is one by the field. -/
theorem field_one {buf : List UInt8} {i : ℕ} {b : UInt8} (h : buf[i]? = some b) :
    field buf i 1 = b.toNat := by
  obtain ⟨hlt, rfl⟩ := List.getElem?_eq_some_iff.mp h
  rw [field, List.drop_eq_getElem_cons hlt, List.take_succ_cons, List.take_zero, value_cons,
    value_nil, Nat.mul_zero, Nat.add_zero]

/-- The endpoint is looked up by the second byte, which every accepted message has. -/
theorem prvNotifyEndpoint_ofBytes {buf : List UInt8} (h : alfieProtoHeaderSizeBytes ≤ buf.length)
    (buffer : ℕ) :
    prvNotifyEndpoint endpoints (AlfieProtoHeader.ofBytes buf) buffer =
      (endpoints.find? fun e => some e.endpointId = buf[1]?).toList.map fun e =>
        .onFrameRx e buffer := by
  obtain ⟨b, hbyte⟩ : ∃ b, buf[1]? = some b :=
    ⟨_, List.getElem?_eq_getElem (lt_of_lt_of_le (by decide) h)⟩
  have hid : (AlfieProtoHeader.ofBytes buf).endpointId = b := by
    unfold AlfieProtoHeader.ofBytes
    rw [field_one hbyte, UInt8.ofNat_toNat]
  unfold prvNotifyEndpoint
  rw [hid, hbyte]
  simp only [Option.some.injEq]
  split
  · next e he => rw [he]; rfl
  · next he => rw [he]; rfl

/-- The writes of a forward function, one for each transport of the other type, in the order of
their registration. -/
theorem flatMap_writes (transports : List AlfieTransport) (endpoints : List AlfieEndpoint)
    (memory : ℕ → CompletedBuffer) (d : AlfieTransportType) (a : ℕ) :
    (transports.flatMap fun t =>
        if t.type = d.opposite then [RouterStmt.write t a] else []).flatMap
        (RouterStmt.exec endpoints memory) =
      (receivers transports d).map fun t =>
        .write t (UInt32.ofNat (field (memory a).data 6 4)) (memory a).data
          (memory a).data.length := by
  induction transports with
  | nil => rfl
  | cons t transports ih =>
    have htype : t.type = d.opposite ↔ t.type ≠ d := by
      cases t.type <;> cases d <;> decide
    rw [List.flatMap_cons, List.flatMap_append, ih]
    unfold receivers
    by_cases h : t.type = d
    · -- a transport of the message's own type is passed over
      rw [if_neg (fun hopp => htype.mp hopp h), List.filter_cons_of_neg (by simpa using h)]
      rfl
    · -- and one of the other type is written to
      rw [if_pos (htype.mpr h), List.filter_cons_of_pos (by simpa using h), List.map_cons,
        (memory a).length_data]
      rfl

/-- **The forward functions handle a message**, when they are executed without an interruption. -/
theorem exec_prvForward (transports : List AlfieTransport) (endpoints : List AlfieEndpoint)
    (memory : ℕ → CompletedBuffer) (d : AlfieTransportType) (a : ℕ)
    (h : (Arrival.mk d a (memory a)).Accepted) :
    .fifoGet d a ::
        (prvForward d.opposite transports a).flatMap (RouterStmt.exec endpoints memory) =
      handling transports endpoints ⟨d, a, memory a⟩ := by
  have hlen : alfieProtoHeaderSizeBytes ≤ (memory a).data.length := by
    rw [(memory a).length_data]
    exact h
  unfold prvForward handling
  rw [List.flatMap_append, flatMap_writes, List.flatMap_cons, List.flatMap_cons, List.flatMap_nil,
    RouterStmt.exec, prvNotifyEndpoint_ofBytes hlen]
  simp only [List.cons_append, List.append_assoc]
  rfl

end Handling

/-! ### No message is lost, duplicated or reordered -/

/-- The messages `handled` account for the log and, with the FIFOs, for the arrivals. -/
structure Accounts (r : Router) (handled : List Arrival) : Prop where
  log : r.log ++ r.pending = handled.flatMap (handling r.transports r.endpoints)
  arrived : ∀ d, (r.arrived.filter fun x => x.direction = d ∧ x.Accepted) =
    (handled.filter fun x => x.direction = d) ++ r.queued d

section Accounts

variable {r r' : Router} {handled : List Arrival}

/-- A message in a FIFO has been accepted, so its header can be read. -/
theorem Accounts.accepted (h : Accounts r handled) {d : AlfieTransportType} {a : ℕ}
    (ha : a ∈ r.fifo d) : (Arrival.mk d a (r.memory a)).Accepted := by
  have hmem : Arrival.mk d a (r.memory a) ∈
      r.arrived.filter fun x => x.direction = d ∧ x.Accepted := by
    rw [h.arrived d]
    exact List.mem_append_right _ (List.mem_map_of_mem ha)
  exact (of_decide_eq_true (List.mem_filter.mp hmem).2).2

/-- A buffer that is not held can be filled, without a change to any message that is still to be
handled. -/
theorem Accounts.fill (h : Accounts r handled) {a : ℕ} (ha : a ∉ r.held) (m : CompletedBuffer) :
    Accounts { r with memory := Function.update r.memory a m } handled := by
  -- what the router still reads is in other buffers
  have hsame : ∀ b ∈ r.held, Function.update r.memory a m b = r.memory b := by
    intro b hb
    refine Function.update_of_ne ?_ _ _
    rintro rfl
    exact ha hb
  refine ⟨?_, fun d => ?_⟩
  · -- the statements to come do the same as before
    rw [← h.log]
    congr 1
    refine List.flatMap_congr fun s hs => ?_
    have hs' := hsame s.buffer (List.mem_append_right _ (List.mem_map_of_mem hs))
    cases s <;> simp only [RouterStmt.exec, RouterStmt.buffer] at hs' ⊢ <;> rw [hs']
  · -- and the queued messages are the same
    rw [h.arrived d]
    congr 1
    refine List.map_congr_left fun b hb => ?_
    have hb' := hsame b (List.mem_append_left _ (by
      cases d
      · exact List.mem_append_left _ hb
      · exact List.mem_append_right _ hb))
    dsimp only
    rw [hb']

/-- A message arrives, and is the last one in the FIFO of its direction if it is accepted. -/
theorem Accounts.rx (h : Accounts r handled) (t : AlfieTransport) (a : ℕ) :
    Accounts { prvHandleTransportRx t a r with
      arrived := r.arrived ++ [⟨t.type, a, r.memory a⟩] } handled := by
  have hfifo := prvHandleTransportRx_fifo t a r
  obtain ⟨up, down, heq⟩ := prvHandleTransportRx_frame t a r
  rw [heq] at hfifo ⊢
  refine ⟨h.log, fun d => ?_⟩
  have hqueued : Router.queued
      { r with fromUpstreamFifo := up, fromDownstreamFifo := down
               arrived := r.arrived ++ [⟨t.type, a, r.memory a⟩] } d =
      r.queued d ++ [Arrival.mk t.type a (r.memory a)].filter fun x =>
        x.direction = d ∧ x.Accepted := by
    have hd : Router.fifo { r with
        fromUpstreamFifo := up, fromDownstreamFifo := down
        arrived := r.arrived ++ [⟨t.type, a, r.memory a⟩] } d = _ := hfifo d
    unfold Router.queued
    rw [hd, List.map_append]
    congr 1
    -- a message of the other direction, or one that is too short, leaves the FIFO
    by_cases hcond : t.type = d ∧ (Arrival.mk t.type a (r.memory a)).Accepted
    · rw [if_pos hcond, List.filter_cons_of_pos (by simpa using hcond), ← hcond.1]
      rfl
    · rw [if_neg hcond, List.filter_cons_of_neg (by simpa using hcond)]
      rfl
  dsimp only
  rw [List.filter_append, h.arrived d, hqueued, List.append_assoc]

/-- The thread takes a step: a statement moves from what is to be done to the log, or a message from
a FIFO to what is to be done. -/
theorem Accounts.run (h : Accounts r handled) (hstep : r.Run r') :
    ∃ handled', Accounts r' handled' := by
  cases hstep with
  | stmt htodo =>
    -- the statement is moved from the pending ones to the log
    refine ⟨handled, ?_, h.arrived⟩
    have hlog := h.log
    unfold Router.pending at hlog ⊢
    rw [htodo, List.flatMap_cons, ← List.append_assoc] at hlog
    exact hlog
  | @get d a rest htodo _ _ hfifo =>
    have haccepted : (Arrival.mk d a (r.memory a)).Accepted :=
      h.accepted (by rw [hfifo]; exact List.mem_cons_self)
    refine ⟨handled ++ [⟨d, a, r.memory a⟩], ?_, fun d' => ?_⟩
    · have hlog := h.log
      unfold Router.pending at hlog
      rw [htodo, List.flatMap_nil, List.append_nil] at hlog
      rw [dequeue_log, dequeue_pending, dequeue_transports, dequeue_endpoints, hlog,
        List.append_assoc, List.singleton_append, exec_prvForward _ _ _ _ _ haccepted,
        List.flatMap_append, List.flatMap_singleton]
    · rw [dequeue_arrived, h.arrived d', List.filter_append, List.append_assoc]
      congr 1
      unfold Router.queued
      rw [dequeue_fifo, dequeue_memory]
      by_cases hd : d = d'
      · subst hd
        rw [if_pos rfl, hfifo]
        simp
      · rw [if_neg hd]
        simp [hd]
  -- the other steps only move the thread
  | _ => exact ⟨handled, h.log, h.arrived⟩

/-- **One step** of the thread or of a transport. The messages handled grow only when one is
dequeued. -/
theorem Accounts.step (h : Accounts r handled) {x : RouterAction} (hstep : r.Step x r') :
    ∃ handled', Accounts r' handled' := by
  cases hstep with
  | fill ha m => exact ⟨handled, h.fill ha m⟩
  | rx _ t => exact ⟨handled, h.rx t _⟩
  | poll => exact ⟨handled, h.log, h.arrived⟩
  | run hrun => exact h.run hrun

end Accounts

/-! ### The thread finishes -/

/-- The actions of the thread, as opposed to those of the transports. -/
def RouterAction.Thread : RouterAction → Prop
  | .poll _ => True
  | .run => True
  | _ => False

/-- The second event announces a message that has not been dequeued yet. -/
def Router.Owed (r : Router) : Prop := r.events.2 = true ∧ r.fromDownstreamFifo ≠ []

instance (r : Router) : Decidable r.Owed := by
  unfold Router.Owed
  infer_instance

/-- The steps that are left of a round, while it owes a message. Every round dequeues one, which
pays for the steps of the round. -/
def Router.weight (r : Router) : ℕ :=
  match r.pc with
  | .poll => 5
  | .upstream => 4
  | .upstreamDone => if r.Owed then 3 else 8
  | .downstream => if r.Owed then 2 else 7
  | .downstreamDone => 6

/-- A bound on the steps of the thread until it waits with nothing to do. -/
def Router.work (r : Router) : ℕ :=
  (r.fromUpstreamFifo.length + r.fromDownstreamFifo.length) * (r.transports.length + 9) +
    r.todo.length + r.weight

/-- In the first half of a round some event announces a message. -/
def Router.InRound (r : Router) : Prop := r.pc = .upstream → r.Reported r.events

/-- A forward function has at most a statement for each transport, and two more. -/
theorem length_prvForward_le (type : AlfieTransportType) (transports : List AlfieTransport)
    (a : ℕ) : (prvForward type transports a).length ≤ transports.length + 2 := by
  unfold prvForward
  rw [List.length_append]
  refine Nat.add_le_add_right ?_ 2
  induction transports with
  | nil => exact le_refl 0
  | cons t transports ih =>
    rw [List.flatMap_cons, List.length_append, List.length_cons]
    split
    · rw [List.length_singleton, Nat.add_comm]
      exact Nat.succ_le_succ ih
    · rw [List.length_nil, Nat.zero_add]
      exact ih.trans (Nat.le_succ _)

section Work

variable {r r' : Router}

/-- While the thread is in a round, one of the two events is set or it has done its work. -/
theorem InRound.step (h : r.InRound) {x : RouterAction} (hstep : r.Step x r') : r'.InRound := by
  cases hstep with
  | fill => exact h
  | @rx a _ t =>
    -- an arrival leaves what has been announced in its FIFO
    intro hpc
    have hup := prvHandleTransportRx_fifo t a r .upstream
    have hdown := prvHandleTransportRx_fifo t a r .downstream
    obtain ⟨up, down, heq⟩ := prvHandleTransportRx_frame t a r
    rw [heq] at hpc hup hdown ⊢
    rcases h hpc with ⟨hevent, hne⟩ | ⟨hevent, hne⟩
    · refine Or.inl ⟨hevent, fun hnil => hne ?_⟩
      exact (List.append_eq_nil_iff.mp (hup.symm.trans hnil)).1
    · refine Or.inr ⟨hevent, fun hnil => hne ?_⟩
      exact (List.append_eq_nil_iff.mp (hdown.symm.trans hnil)).1
  | poll _ _ hreported => exact fun _ => hreported
  | run hrun =>
    cases hrun with
    | stmt => exact h
    | @get d => cases d <;> exact fun hpc => RouterPc.noConfusion hpc
    | _ => exact fun hpc => RouterPc.noConfusion hpc

/-- Wherever it is, the thread can be two steps from the end of its round. -/
theorem Router.two_le_weight (r : Router) : 2 ≤ r.weight := by
  unfold Router.weight
  split
  · decide
  · decide
  · split <;> decide
  · split <;> decide
  · decide

/-- And never more than eight. -/
theorem Router.weight_le (r : Router) : r.weight ≤ 8 := by
  unfold Router.weight
  split
  · decide
  · decide
  · split <;> decide
  · split <;> decide
  · decide

/-- What a round costs once its message has been dequeued. -/
theorem dequeue_work_lt {d : AlfieTransportType} {a : ℕ} {rest : List ℕ} (htodo : r.todo = [])
    (hfifo : r.fifo d = a :: rest) : (r.dequeue d a rest).work < r.work := by
  have hforward := length_prvForward_le d.opposite r.transports a
  have hweight := r.two_le_weight
  have hweight' := (r.dequeue d a rest).weight_le
  -- one message fewer is queued, which pays for its forward function
  have hlen : r.fromUpstreamFifo.length + r.fromDownstreamFifo.length =
      (r.dequeue d a rest).fromUpstreamFifo.length +
        (r.dequeue d a rest).fromDownstreamFifo.length + 1 := by
    have hcons := congrArg List.length hfifo
    rw [List.length_cons] at hcons
    cases d with
    | upstream =>
      change r.fromUpstreamFifo.length = _ at hcons
      change _ = rest.length + r.fromDownstreamFifo.length + 1
      omega
    | downstream =>
      change r.fromDownstreamFifo.length = _ at hcons
      change _ = r.fromUpstreamFifo.length + rest.length + 1
      omega
  have htodo' : (r.dequeue d a rest).todo.length ≤ r.transports.length + 2 := by
    cases d <;> exact hforward
  unfold Router.work
  rw [hlen, htodo, dequeue_transports, Nat.add_one_mul, List.length_nil]
  omega

/-- **Every step of the thread does some of the work.** -/
theorem work_lt (h : r.InRound) {x : RouterAction} (hx : x.Thread) (hstep : r.Step x r') :
    r'.work < r.work := by
  cases hstep with
  | fill => exact absurd hx not_false
  | rx => exact absurd hx not_false
  | poll hpc htodo => simp [Router.work, Router.weight, hpc]
  | run hrun =>
    cases hrun with
    | stmt htodo => simp [Router.work, Router.weight, Router.Owed, htodo]
    | get htodo _ _ hfifo => exact dequeue_work_lt htodo hfifo
    | upstreamEmpty hpc hevent hfifo =>
      -- the round was begun for a message of the other direction
      have howed : r.Owed := by
        rcases h hpc with ⟨-, hne⟩ | howed
        · exact absurd hfifo hne
        · exact howed
      simp [Router.work, Router.weight, hpc, Router.Owed, howed.1, howed.2]
    | upstreamSkip hpc hevent =>
      have howed : r.Owed := by
        rcases h hpc with ⟨hevent', -⟩ | howed
        · exact absurd hevent' hevent
        · exact howed
      simp [Router.work, Router.weight, hpc, Router.Owed, howed.1, howed.2]
    | upstreamDone hpc =>
      -- the weight of the position depends on whether the downstream half still has work
      by_cases howed : r.Owed
      · simp [Router.work, Router.weight, hpc, Router.Owed, howed.1, howed.2]
      · unfold Router.Owed at howed
        simp [Router.work, Router.weight, hpc, Router.Owed, howed]
    | downstreamEmpty hpc hevent hfifo => simp [Router.work, Router.weight, hpc, Router.Owed, hfifo]
    | downstreamSkip hpc hevent => simp [Router.work, Router.weight, hpc, Router.Owed, hevent]
    | downstreamDone hpc => simp [Router.work, Router.weight, hpc]

/-- The thread stops only when there is nothing left to do. -/
theorem todo_and_fifo_of_blocked (h : ∀ x : RouterAction, x.Thread → r.step x = none) :
    r.todo = [] ∧ ∀ d, r.fifo d = [] := by
  have hrun : r.run = none := h .run trivial
  have hpoll : r.step (.poll (true, true)) = none := h (.poll (true, true)) trivial
  unfold Router.run at hrun
  split at hrun
  · cases hrun
  next htodo =>
  refine ⟨htodo, fun d => ?_⟩
  unfold Router.runLoop at hrun
  split at hrun
  · next hpc =>
    -- in `k_poll` with a message waiting, the thread would go on
    unfold Router.step at hpoll
    dsimp only at hpoll
    split at hpoll
    · cases hpoll
    · next hnot =>
      by_contra hne
      refine hnot ⟨hpc, htodo, ?_⟩
      cases d with
      | upstream => exact Or.inl ⟨rfl, hne⟩
      | downstream => exact Or.inr ⟨rfl, hne⟩
  · -- at every other place of the loop there is a next statement
    split at hrun
    · split at hrun <;> cases hrun
    · cases hrun
  · cases hrun
  · split at hrun
    · split at hrun <;> cases hrun
    · cases hrun
  · cases hrun

end Work

/-! ### Runs -/

/-- The effect is a write to a transport, whatever is written. -/
def RouterEffect.writesTo (t : AlfieTransport) : RouterEffect → Bool
  | .write t' _ _ _ => t' = t
  | _ => false

/-- Every transport of the other type is written to once, and no transport of the message's own
type. -/
theorem countP_handling {transports : List AlfieTransport} {t : AlfieTransport}
    (hdistinct : transports.Nodup) (ht : t ∈ transports) (endpoints : List AlfieEndpoint)
    (x : Arrival) :
    (handling transports endpoints x).countP (RouterEffect.writesTo t) =
      if t.type = x.direction then 0 else 1 := by
  -- the receivers of a message are distinct, so each is counted once
  have hwrites : ((receivers transports x.direction).map fun t =>
      RouterEffect.write t (UInt32.ofNat (field x.content.data 6 4)) x.content.data
        x.content.data.length).countP (RouterEffect.writesTo t) =
      (receivers transports x.direction).count t := by
    rw [List.countP_map, List.count_eq_countP]
    exact List.countP_congr fun t' _ => by simp [RouterEffect.writesTo]
  -- a call of an endpoint is no write
  have hendpoint : ((endpoints.find? fun e =>
      some e.endpointId = x.content.data[1]?).toList.map fun e =>
        RouterEffect.onFrameRx e x.buffer).countP (RouterEffect.writesTo t) = 0 := by
    rw [List.countP_map, List.countP_eq_zero]
    exact fun e _ => Bool.noConfusion
  unfold handling
  rw [List.countP_append, List.countP_append, List.countP_cons, hwrites, hendpoint]
  unfold receivers
  by_cases htype : t.type = x.direction
  · rw [if_pos htype, List.count_eq_zero_of_not_mem (by simp [htype])]
    rfl
  · rw [if_neg htype, List.nodup_iff_count_eq_one.mp (hdistinct.filter _) t (by simp [ht, htype])]
    rfl

/-- **The router neither loses, duplicates, reorders nor echoes.** In every state it can reach, with
the messages `handled` in the order in which they were dequeued:

* the calls of the thread so far and the rest of its forward function are their handling;
* the accepted arrivals of a direction are the handled ones and then the ones in its FIFO;
* the handling writes to each transport of the other type once, and to no other one;
* without further arrivals the thread makes at most `r.work` steps, and it has no step to make only
  when every message has been handled. -/
theorem router_exactly_once (transports : List AlfieTransport) (endpoints : List AlfieEndpoint)
    (hdistinct : transports.Nodup) (memory : ℕ → CompletedBuffer) (xs : List RouterAction)
    (r : Router)
    (hrun : Steps Router.step (fun _ _ => True) (.init transports endpoints memory) xs r) :
    (∃ handled : List Arrival,
      r.log ++ r.pending = handled.flatMap (handling transports endpoints) ∧
      (∀ d, (r.arrived.filter fun x => x.direction = d ∧ x.Accepted) =
        (handled.filter fun x => x.direction = d) ++ r.queued d) ∧
      ∀ x ∈ handled, ∀ t ∈ transports,
        (handling transports endpoints x).countP (RouterEffect.writesTo t) =
          if t.type = x.direction then 0 else 1) ∧
    (∀ ys r', Steps Router.step (fun _ y => y.Thread) r ys r' → ys.length ≤ r.work) ∧
    ((∀ x : RouterAction, x.Thread → r.step x = none) → r.pending = [] ∧ ∀ d, r.queued d = []) := by
  obtain ⟨handled, haccounts, htransports, hendpoints, hround⟩ : ∃ handled,
      Accounts r handled ∧ r.transports = transports ∧ r.endpoints = endpoints ∧ r.InRound := by
    -- the accounts of the run so far and the place of the thread in its round are kept together
    refine hrun.invariant (P := fun r => ∃ handled,
      Accounts r handled ∧ r.transports = transports ∧ r.endpoints = endpoints ∧ r.InRound)
      ?_ ⟨[], ⟨rfl, fun d => ?_⟩, rfl, rfl, fun h => RouterPc.noConfusion h⟩
    · rintro s x t ⟨handled, haccounts, htransports, hendpoints, hround⟩ - hstep
      have hspec := Router.step_spec hstep
      obtain ⟨handled', haccounts'⟩ := haccounts.step hspec
      obtain ⟨htransports', hendpoints'⟩ := hspec.config
      exact ⟨handled', haccounts', htransports'.trans htransports, hendpoints'.trans hendpoints,
        InRound.step hround hspec⟩
    · cases d <;> rfl
  refine ⟨⟨handled, ?_, haccounts.arrived, fun x _ t ht => countP_handling hdistinct ht _ _⟩,
    ?_, ?_⟩
  · rw [← htransports, ← hendpoints]
    exact haccounts.log
  · -- the work left bounds the number of steps
    intro ys r' hthread
    have hlt : ∀ s (x : RouterAction) t, Router.InRound s → x.Thread → s.step x = some t →
        Router.InRound t ∧ t.work < s.work := by
      intro s x t hs hx hstep
      have hspec := Router.step_spec hstep
      exact ⟨InRound.step hs hspec, work_lt hs hx hspec⟩
    exact hthread.length_le hlt hround
  · intro hblocked
    -- the thread is in `k_poll`, and would go on if a FIFO were not empty
    obtain ⟨htodo, hfifo⟩ := todo_and_fifo_of_blocked hblocked
    refine ⟨?_, fun d => ?_⟩
    · unfold Router.pending
      rw [htodo, List.flatMap_nil]
    · unfold Router.queued
      rw [hfifo d, List.map_nil]

/-- A device with one transport of each type, as `main` registers them. -/
def registered : List AlfieTransport := [⟨0, .downstream⟩, ⟨1, .upstream⟩]

/-- A message of ten bytes to endpoint 3 of device 5, which every buffer holds. -/
def toEndpointThree : CompletedBuffer := ⟨[0, 3, 1, 0, 0, 0, 5, 0, 0, 0], 10, rfl⟩

/-- A message of twelve bytes to device 6 and endpoint 9, which nobody has registered. -/
def toEndpointNine : CompletedBuffer := ⟨[0, 9, 2, 0, 0, 0, 6, 0, 0, 0, 72, 105], 12, rfl⟩

/-- A message arrives over DECT. One arrives over BLE behind `k_poll`, which has not reported its
FIFO, and one in another buffer while the first is being forwarded. They are left for the next two
rounds. -/
def bothDirections : List RouterAction :=
  [.rx ⟨0, .downstream⟩ 10, .poll (false, true), .rx ⟨1, .upstream⟩ 40, .run, .run, .run,
    .fill 41 toEndpointNine, .rx ⟨1, .upstream⟩ 41, .run, .run, .run, .poll (true, false)] ++
  List.replicate 6 .run ++ [.poll (true, false)] ++ List.replicate 4 .run

/-- The first message goes to the upstream transport, the other two go to the downstream one, each
once and in the order of their arrival. -/
theorem router_exactly_once_bothDirections :
    ∃ r : Router,
      Steps Router.step (fun _ _ => True)
        (.init registered [⟨7, 3⟩] fun _ => toEndpointThree) bothDirections r ∧
      r.log = [.fifoGet .downstream 10, .write ⟨1, .upstream⟩ 5 toEndpointThree.data 10,
        .onFrameRx ⟨7, 3⟩ 10, .unref 10, .fifoGet .upstream 40,
        .write ⟨0, .downstream⟩ 5 toEndpointThree.data 10, .onFrameRx ⟨7, 3⟩ 40, .unref 40,
        .fifoGet .upstream 41, .write ⟨0, .downstream⟩ 6 toEndpointNine.data 12, .unref 41] ∧
      ∃ handled : List Arrival,
        r.log ++ r.pending = handled.flatMap (handling registered [⟨7, 3⟩]) ∧
        ∀ d, (r.arrived.filter fun x => x.direction = d ∧ x.Accepted) =
          (handled.filter fun x => x.direction = d) ++ r.queued d := by
  have hend : (checkRun Router.step (fun _ _ => True)
      (.init registered [⟨7, 3⟩] fun _ => toEndpointThree) bothDirections).map Router.log =
      some [.fifoGet .downstream 10, .write ⟨1, .upstream⟩ 5 toEndpointThree.data 10,
        .onFrameRx ⟨7, 3⟩ 10, .unref 10, .fifoGet .upstream 40,
        .write ⟨0, .downstream⟩ 5 toEndpointThree.data 10, .onFrameRx ⟨7, 3⟩ 40, .unref 40,
        .fifoGet .upstream 41, .write ⟨0, .downstream⟩ 6 toEndpointNine.data 12, .unref 41] := by
    decide +kernel
  obtain ⟨r, hr, hlog⟩ := Option.map_eq_some_iff.mp hend
  have hrun := steps_of_checkRun hr
  obtain ⟨⟨handled, haccounts, harrived, -⟩, -⟩ :=
    router_exactly_once registered [⟨7, 3⟩] (by decide) _ bothDirections r hrun
  exact ⟨r, hrun, hlog, handled, haccounts, harrived⟩

end DectCommunicator
