import DectCommunicator.Alfie.System
import DectCommunicator.Lib.Cost

/-!
# How long a message keeps the router's thread

The thread of a device forwards the messages one after the other, and is in the calls of
`dect_transport_layer_write` and `alfie_ble_service_write` until they return. Whatever happens on
the air and to the connections, each call makes at most four attempts for each fragment, so a
message costs the thread a bounded amount; and where the thread has something left to do, it can go
on unless the next effect of its call is a `k_msgq_put` that has to wait for a slot of `tx_queue`
(`thread_finishes`). For how long it may wait there is a matter of the link-layer thread: within
eight steps of that thread a slot is free, unless it is itself suspended at an ACK
(`slot_comes_free` and `suspended_forever` in `Dect/TxQueue.lean`).

The costs are counted at any `Prices` for the effects of the calls. `Router.owes` is what the
messages in the FIFOs and in the forward function will cost in calls, and with the rest of the call
that is being made and `Router.work` it pays for every step.
-/

namespace DectCommunicator

open Machine StopAndWait

/-! ### Calls -/

/-- A bound for a call of `dect_transport_layer_write`: for every fragment, all its attempts with
all their timeouts. -/
def dectWriteCost (c : Prices) (data : List UInt8) : ℕ :=
  Chunks.count dectTransportLayerDataFrameMaxPayloadSizeBytes data.length *
    (dectTransportLayerTxAttempts * c.attempt dectTransportLayerAckTimeoutMs) + c.ret

/-- A bound for a call of `alfie_ble_service_write`, with the sizes and the timeouts of the
service. -/
def bleWriteCost (c : Prices) (data : List UInt8) : ℕ :=
  Chunks.count alfieBleServiceProtoMaxDataFramePayloadSizeBytes data.length *
    (alfieBleServiceTxAttempts * c.attempt alfieBleServiceAckTimeoutMs) + c.ret

/-- An index that wraps counts no more frames, so the bound holds for messages of any length. -/
theorem toNat_ofNat_le (n : ℕ) : (UInt8.ofNat n).toNat ≤ n := by
  rw [UInt8.toNat_ofNat']
  exact Nat.mod_le _ _

/-- Every call of `dect_transport_layer_write` stays within its bound, also one that the layer
refuses. -/
theorem dectTransportLayerWrite_within (c : Prices) (initialized : Bool) (seqId : UInt16)
    (dstId : UInt32) (data : List UInt8) :
    (dectTransportLayerWrite initialized seqId dstId data).Within c (dectWriteCost c data) := by
  have hret : c.ret ≤ dectWriteCost c data := Nat.le_add_left _ _
  unfold dectTransportLayerWrite
  split
  · exact hret
  split
  · exact hret
  split
  · exact hret
  · refine (transfer_within c _ _ _).mono (Nat.add_le_add_right (Nat.mul_le_mul_right _ ?_) _)
    rw [length_framesOf]
    exact toNat_ofNat_le _

/-- And so does every call of `alfie_ble_service_write`. -/
theorem alfieBleServiceWrite_within (c : Prices) (st : AlfieBleService) (seqId : UInt16)
    (data : List UInt8) : (alfieBleServiceWrite st seqId data).Within c (bleWriteCost c data) := by
  have hret : c.ret ≤ bleWriteCost c data := Nat.le_add_left _ _
  unfold alfieBleServiceWrite
  split
  -- the four checks before the first fragment, each with an immediate return
  · exact hret
  split
  · exact hret
  split
  · exact hret
  split
  · exact hret
  · refine (transfer_within c _ _ _).mono (Nat.add_le_add_right (Nat.mul_le_mul_right _ ?_) _)
    rw [bleFramesOf, List.length_map, List.length_range]
    exact toNat_ofNat_le _

/-- What the call that is suspended costs still is within `n`. -/
def CallWithin {γ ε σ : Type} (c : Prices) (call : Option (γ × Proc ε σ (Status ε))) (n : ℕ) :
    Prop :=
  ∀ x p, call = some (x, p) → p.Within c n

section Calls

variable {γ ε σ : Type} {c : Prices} {n : ℕ}

/-- A thread that is in no call has nothing left to pay for one. -/
theorem CallWithin.none : CallWithin c (none : Option (γ × Proc ε σ (Status ε))) n :=
  fun _ _ h => by cases h

/-- A call that has just been started has the bound of its process before it. -/
theorem CallWithin.some {x : γ} {p : Proc ε σ (Status ε)} (h : p.Within c n) :
    CallWithin c (some (x, p)) n := by
  intro _ _ heq
  obtain ⟨-, rfl⟩ := Prod.mk.inj (Option.some.inj heq)
  exact h

/-- The call of `dect_transport_layer_write` does its next effect, which is paid for out of what was
kept back for the call. -/
theorem CallWithin.writerStep {d : UInt32} {dev : Device} {call : Call}
    {p : Proc Errno LinkWrite Ret} (h : p.Within c n) :
    CallWithin c (dev.writerStep d call p).1.writer (n - p.price c) := by
  cases p with
  | ret r => exact .none
  | reset k => exact .some h.2
  | send x k => exact .some (h.2 _)
  | take t k =>
    unfold Device.writerStep
    dsimp only
    split
    · exact .some (h.2 _)
    · exact .some (h.2 _)

/-- The call of `alfie_ble_service_write` does its next effect; a notification may fail, and a wait
may find the semaphore given or time out. -/
theorem CallWithin.serviceWriterStep {l : BleNet} {call : BleCall}
    {p : Proc Errno (List UInt8) Ret} (h : p.Within c n) (notified : Ret) :
    CallWithin c (l.serviceWriterStep call notified p).serviceWriter (n - p.price c) := by
  cases p with
  | ret r => exact .none
  | reset k => exact .some h.2
  | send x k =>
    -- the retry loop goes on in either case, with less left to pay
    cases notified with
    | ok => exact .some (h.2 _)
    | err e => exact .some (h.2 _)
  | take t k =>
    unfold BleNet.serviceWriterStep
    dsimp only
    split
    · exact .some (h.2 _)
    · exact .some (h.2 _)

end Calls

/-! ### The router -/

/-- What a write of a message to a transport of a type costs. -/
abbrev WriteCost := AlfieTransportType → List UInt8 → ℕ

/-- What a statement costs in calls: the write of its message, and nothing for the other
statements. -/
def RouterStmt.cost (cost : WriteCost) (memory : ℕ → CompletedBuffer) : RouterStmt → ℕ
  | .write t a => cost t.type (memory a).data
  | _ => 0

/-- What the messages that the router holds cost in calls. -/
def Router.owes (cost : WriteCost) (r : Router) : ℕ :=
  (r.fromUpstreamFifo.map fun a => cost .downstream (r.memory a).data).sum +
    (r.fromDownstreamFifo.map fun a => cost .upstream (r.memory a).data).sum +
    (r.todo.map (RouterStmt.cost cost r.memory)).sum

/-- One transport of each type is registered, as `main` does it. -/
def Router.Registered (r : Router) : Prop := r.transports = [dectTransport, bleTransport]

section Router

variable {cost : WriteCost} {r r' : Router} {t : AlfieTransport}

/-- A message is written once, so a round of the forward function costs one call. -/
theorem sum_prvForward (memory : ℕ → CompletedBuffer) (type : AlfieTransportType) (a : ℕ) :
    ((prvForward type [dectTransport, bleTransport] a).map (RouterStmt.cost cost memory)).sum =
      cost type (memory a).data := by
  cases type <;> rfl

/-- The thread owes no more after a step: what it takes from a FIFO was owed there already. -/
theorem owes_run_le (hreg : r.Registered) (hrun : r.Run r') : r'.owes cost ≤ r.owes cost := by
  cases hrun with
  -- a statement is done, and its cost no longer owed
  | stmt htodo =>
    unfold Router.owes
    rw [htodo, List.map_cons, List.sum_cons]
    dsimp only
    omega
  | @get d a rest htodo _ _ hfifo =>
    -- what was owed in the FIFO is owed in the forward function
    cases d with
    | upstream =>
      have hfifo : r.fromUpstreamFifo = a :: rest := hfifo
      unfold Router.owes Router.dequeue
      dsimp only
      rw [hfifo, htodo, hreg, prvForwardToDownstream, sum_prvForward, List.map_cons, List.sum_cons,
        List.map_nil, List.sum_nil]
      omega
    | downstream =>
      have hfifo : r.fromDownstreamFifo = a :: rest := hfifo
      unfold Router.owes Router.dequeue
      dsimp only
      rw [hfifo, htodo, hreg, prvForwardToUpstream, sum_prvForward, List.map_cons, List.sum_cons,
        List.map_nil, List.sum_nil]
      omega
  | _ => exact le_refl _

/-- With the statement of a write the thread owes the write less. -/
theorem owes_write {a : ℕ} {rest : List RouterStmt} (htodo : r.todo = .write t a :: rest)
    (hrun : r.step .run = some r') : r'.owes cost + cost t.type (r.memory a).data = r.owes cost := by
  change r.run = some r' at hrun
  unfold Router.run at hrun
  rw [htodo] at hrun
  obtain rfl := Option.some.inj hrun
  unfold Router.owes
  rw [htodo, List.map_cons, List.sum_cons]
  dsimp only [RouterStmt.cost]
  omega

/-- Filling a buffer that is not held changes nothing of what is owed, as the cost of a held buffer
depends on its own bytes only. -/
theorem owes_fill {a : ℕ} (ha : a ∉ r.held) (m : CompletedBuffer) :
    Router.owes cost { r with memory := Function.update r.memory a m } = r.owes cost := by
  -- a buffer that is held is not the one that is filled
  have hsame : ∀ b ∈ r.held, Function.update r.memory a m b = r.memory b := by
    intro b hb
    refine Function.update_of_ne ?_ _ _
    rintro rfl
    exact ha hb
  unfold Router.owes
  dsimp only
  congr 1
  · congr 1
    · refine congrArg List.sum (List.map_congr_left fun b hb => ?_)
      rw [hsame b (List.mem_append_left _ (List.mem_append_left _ hb))]
    · refine congrArg List.sum (List.map_congr_left fun b hb => ?_)
      rw [hsame b (List.mem_append_left _ (List.mem_append_right _ hb))]
  · refine congrArg List.sum (List.map_congr_left fun s hs => ?_)
    have hs' := hsame s.buffer (List.mem_append_right _ (List.mem_map_of_mem hs))
    -- only a write looks at the bytes
    cases s with
    | write t b =>
      dsimp only [RouterStmt.cost]
      rw [show Function.update r.memory a m b = r.memory b from hs']
    | notifyEndpoint b => rfl
    | unref b => rfl

/-- A message that arrives is owed to the transports of the other type; one that is too short is
dropped and owed to none. -/
theorem owes_rx_le (a : ℕ) (arrived : List Arrival) :
    Router.owes cost { prvHandleTransportRx t a r with arrived } ≤
      r.owes cost + cost t.type.opposite (r.memory a).data := by
  unfold prvHandleTransportRx
  split
  · exact Nat.le_add_right _ _
  · -- it is in the FIFO of its direction, and the other FIFO is as before
    cases htype : t.type with
    | upstream =>
      unfold Router.owes
      dsimp only [AlfieTransportType.opposite]
      rw [List.map_append, List.sum_append, List.map_singleton, List.sum_singleton]
      omega
    | downstream =>
      unfold Router.owes
      dsimp only [AlfieTransportType.opposite]
      rw [List.map_append, List.sum_append, List.map_singleton, List.sum_singleton]
      omega

/-- It costs the thread the work of a round: dequeuing, forwarding and giving the buffer back. -/
theorem work_rx_le (a : ℕ) (arrived : List Arrival) :
    Router.work { prvHandleTransportRx t a r with arrived } ≤
      r.work + (r.transports.length + 9) := by
  obtain ⟨up, down, heq⟩ := prvHandleTransportRx_frame t a r
  have hup := prvHandleTransportRx_fifo t a r .upstream
  have hdown := prvHandleTransportRx_fifo t a r .downstream
  rw [heq] at hup hdown ⊢
  -- at most one message more is in the FIFOs
  have hlen : up.length + down.length ≤
      r.fromUpstreamFifo.length + r.fromDownstreamFifo.length + 1 := by
    have hup := congrArg List.length hup
    have hdown := congrArg List.length hdown
    have hone : ∀ (P : Prop) [Decidable P], (if P then [a] else []).length ≤ 1 := by
      intro P _
      split
      · exact le_refl 1
      · exact Nat.zero_le 1
    simp only [Router.fifo, List.length_append] at hup hdown
    cases htype : t.type with
    | upstream =>
      rw [htype] at hdown
      rw [if_neg (fun h => AlfieTransportType.noConfusion h.1), List.length_nil] at hdown
      have hle := hup.le.trans (Nat.add_le_add_left (hone _) _)
      omega
    | downstream =>
      rw [htype] at hup
      rw [if_neg (fun h => AlfieTransportType.noConfusion h.1), List.length_nil] at hup
      have hle := hdown.le.trans (Nat.add_le_add_left (hone _) _)
      omega
  -- what was announced is announced still
  have howed : r.Owed → Router.Owed
      { r with fromUpstreamFifo := up, fromDownstreamFifo := down, arrived } := by
    rintro ⟨hevent, hne⟩
    refine ⟨hevent, fun hnil => hne ?_⟩
    have hnil : down = [] := hnil
    have hdown : down = r.fromDownstreamFifo ++ _ := hdown
    rw [hnil] at hdown
    exact (List.append_eq_nil_iff.mp hdown.symm).1
  -- the thread is where it was, and has no more statements of its round before it
  have hweight : Router.weight
      { r with fromUpstreamFifo := up, fromDownstreamFifo := down, arrived } ≤ r.weight := by
    unfold Router.weight
    dsimp only
    split
    · exact le_refl _
    · exact le_refl _
    · by_cases h : r.Owed
      · rw [if_pos h, if_pos (howed h)]
      · rw [if_neg h]
        split <;> decide
    · by_cases h : r.Owed
      · rw [if_pos h, if_pos (howed h)]
      · rw [if_neg h]
        split <;> decide
    · exact le_refl _
  unfold Router.work
  dsimp only
  have hmul := Nat.mul_le_mul_right (r.transports.length + 9) hlen
  rw [Nat.add_one_mul] at hmul
  omega

/-- What a router of the devices keeps in every step. -/
structure RouterReady (r : Router) : Prop where
  registered : r.Registered
  inRound : r.InRound

/-- The router is ready after start-up, with the two transports of `main`. -/
theorem RouterReady.init {endpoints : List AlfieEndpoint} {memory : ℕ → CompletedBuffer} :
    RouterReady (.init [dectTransport, bleTransport] endpoints memory) :=
  ⟨rfl, fun h => by cases h⟩

/-- And it stays so in every step, since none registers a transport. -/
theorem RouterReady.step (h : RouterReady r) {x : RouterAction} (hstep : r.step x = some r') :
    RouterReady r' where
  registered := (Router.step_spec hstep).config.1.trans h.registered
  inRound := InRound.step h.inRound (Router.step_spec hstep)

/-- What is owed in calls, with the work of the thread at the price `unit`. -/
def Router.debt (cost : WriteCost) (unit : ℕ) (r : Router) : ℕ := r.owes cost + unit * r.work

/-- What a message from a transport of a type costs altogether. -/
def arrivalCost (cost : WriteCost) (unit : ℕ) (type : AlfieTransportType) (m : List UInt8) : ℕ :=
  cost type.opposite m + unit * 11

variable (cost) (unit : ℕ)

/-- A buffer is filled: the router owes what it owed, and the bytes are in the buffer. -/
theorem debt_fill {a : ℕ} {m : CompletedBuffer} (hstep : r.step (.fill a m) = some r') :
    r'.debt cost unit = r.debt cost unit ∧ r'.memory a = m := by
  cases Router.step_spec hstep with
  | fill ha =>
    refine ⟨?_, Function.update_self _ _ _⟩
    unfold Router.debt
    rw [owes_fill ha m]
    rfl

/-- The router is handed a buffer, which adds the cost of an arrival to its debt and no more. -/
theorem RouterReady.debt_rx_le (h : RouterReady r) {a : ℕ} (hstep : r.step (.rx t a) = some r') :
    r'.debt cost unit ≤ r.debt cost unit + arrivalCost cost unit t.type (r.memory a).data := by
  cases Router.step_spec hstep with
  | rx ha =>
    have howes := @owes_rx_le cost r t a (r.arrived ++ [⟨t.type, a, r.memory a⟩])
    have hwork := @work_rx_le r t a (r.arrived ++ [⟨t.type, a, r.memory a⟩])
    rw [h.registered] at hwork
    have hmul := Nat.mul_le_mul_left unit hwork
    rw [Nat.mul_add] at hmul
    change _ ≤ unit * r.work + unit * 11 at hmul
    unfold Router.debt arrivalCost
    omega

/-- A message is handed up: filled and queued, at the cost of one arrival. -/
theorem RouterReady.accept (h : RouterReady r) {a : ℕ} {m : List UInt8}
    (haccept : r.accept t a m = some r') :
    RouterReady r' ∧ r'.debt cost unit ≤ r.debt cost unit + arrivalCost cost unit t.type m := by
  unfold Router.accept at haccept
  split at haccept
  · obtain ⟨r₁, hfill, hrx⟩ := Option.bind_eq_some_iff.mp haccept
    have hready := h.step hfill
    obtain ⟨hdebt, hmemory⟩ := debt_fill cost unit hfill
    have hle := hready.debt_rx_le cost unit hrx
    rw [hdebt, hmemory] at hle
    exact ⟨hready.step hrx, hle⟩
  · cases haccept

/-- Messages are handed up: the debt grows by the cost of each of them. -/
theorem RouterReady.acceptAll {buffers : List ℕ} {ms : List (List UInt8)} (h : RouterReady r)
    (haccept : r.acceptAll t buffers ms = some r') :
    RouterReady r' ∧ r'.debt cost unit ≤
      r.debt cost unit + (ms.map (arrivalCost cost unit t.type)).sum := by
  induction ms generalizing r buffers with
  | nil =>
    cases buffers with
    | nil =>
      obtain rfl := Option.some.inj haccept
      exact ⟨h, Nat.le_add_right _ _⟩
    | cons a buffers => cases haccept
  | cons m ms ih =>
    -- the cost of the first is added before those of the others
    cases buffers with
    | nil => cases haccept
    | cons a buffers =>
      obtain ⟨r₁, hr₁, hrest⟩ := Option.bind_eq_some_iff.mp haccept
      obtain ⟨hready, hle⟩ := h.accept cost unit hr₁
      obtain ⟨hready', hle'⟩ := ih hready hrest
      refine ⟨hready', ?_⟩
      rw [List.map_cons, List.sum_cons]
      omega

/-- A step of the thread pays its price: the debt falls by at least one unit, so the thread cannot
go on for ever without a new message. -/
theorem RouterReady.debt_thread (h : RouterReady r) {x : RouterAction} (hx : x.Thread)
    (hstep : r.step x = some r') : r'.debt cost unit + unit ≤ r.debt cost unit := by
  have hspec := Router.step_spec hstep
  have hwork := Nat.mul_le_mul_left unit (work_lt h.inRound hx hspec)
  rw [Nat.mul_succ] at hwork
  have howes : r'.owes cost ≤ r.owes cost := by
    cases hspec with
    | fill => exact absurd hx not_false
    | rx => exact absurd hx not_false
    | poll => exact le_refl _
    | run hrun => exact owes_run_le h.registered hrun
  unfold Router.debt
  omega

/-- With the statement of a write it also pays for the call. -/
theorem RouterReady.debt_write (h : RouterReady r) {a : ℕ} {rest : List RouterStmt}
    (htodo : r.todo = .write t a :: rest) (hstep : r.step .run = some r') :
    r'.debt cost unit + unit + cost t.type (r.memory a).data ≤ r.debt cost unit := by
  have hwork := Nat.mul_le_mul_left unit
    (work_lt h.inRound (x := .run) trivial (Router.step_spec hstep))
  rw [Nat.mul_succ] at hwork
  have howes : r'.owes cost + cost t.type (r.memory a).data = r.owes cost :=
    owes_write htodo hstep
  unfold Router.debt
  omega

end Router

/-! ### The devices -/

/-- What the two transports charge for a message, with the prices of the radio and of the BLE
host. -/
def writeCost (radio ble : Prices) : WriteCost
  | .downstream, m => dectWriteCost radio m
  | .upstream, m => bleWriteCost ble m

/-- What an action costs the router's thread of device `d`: its own statements `unit` each, and the
effects of the calls it is in their prices. -/
def System.threadCost (radio ble : Prices) (unit : ℕ) (d : UInt32) (s : System) :
    SystemAction → ℕ
  | .poll d' _ => if d' = d then unit else 0
  | .run d' => if d' = d then unit else 0
  | .write d' _ => if d' = d then unit else 0
  | .air (.writer d') =>
    if d' = d then ((s.air.device d).writer.map fun call => call.2.price radio).getD 0 else 0
  | .link d' (.act (.serviceWriter _)) _ =>
    if d' = d then ((s.link d).serviceWriter.map fun call => call.2.price ble).getD 0 else 0
  | _ => 0

/-- The actions of the router's thread of device `d`, the effects of the calls it makes included:
the thread blocks in them, so they are its own. -/
def SystemAction.Thread (d : UInt32) : SystemAction → Prop
  | .poll d' _ => d' = d
  | .run d' => d' = d
  | .write d' _ => d' = d
  | .air (.writer d') => d' = d
  | .link d' (.act (.serviceWriter _)) _ => d' = d
  | _ => False

/-- What the messages handed up to the router of device `d` cost it. -/
def System.arrivalCosts (radio ble : Prices) (unit : ℕ) (d : UInt32) (s : System) : ℕ :=
  ((s.link d).handedUp.map (arrivalCost (writeCost radio ble) unit .upstream)).sum +
    ((s.air.device d).delivered.map fun m =>
      arrivalCost (writeCost radio ble) unit .downstream m.data).sum

/-- **The invariant.** `k` is enough for the calls that device `d` is in and for what its router
owes. -/
structure Kept (radio ble : Prices) (unit : ℕ)
    (writer : Option (Call × Proc Errno LinkWrite Ret))
    (serviceWriter : Option (BleCall × Proc Errno (List UInt8) Ret)) (r : Router) (k : ℕ) :
    Prop where
  ready : RouterReady r
  enough : ∃ m n, CallWithin radio writer m ∧ CallWithin ble serviceWriter n ∧
    m + n + r.debt (writeCost radio ble) unit ≤ k

/-- A frame of the air changes neither the call nor what has been handed up before, although an ACK
in it may let the call go on later. -/
theorem receive_writer_delivered (d now : UInt32) (dev : Device) (frame : List UInt8)
    (beyond : ℕ → UInt8) :
    (dev.receive d now frame beyond).1.writer = dev.writer ∧
      dev.delivered <+: (dev.receive d now frame beyond).1.delivered := by
  -- only a completed message is appended; every other effect concerns the semaphore or the answers
  have heffects : ∀ (effects : List DectRxEffect) (s : Device × List (List UInt8)),
      (effects.foldl (Device.effect d) s).1.writer = s.1.writer ∧
        s.1.delivered <+: (effects.foldl (Device.effect d) s).1.delivered := by
    intro effects
    induction effects with
    | nil => exact fun s => ⟨rfl, List.prefix_rfl⟩
    | cons e effects ih =>
      intro s
      obtain ⟨hwriter, hdelivered⟩ := ih (Device.effect d s e)
      rw [List.foldl_cons]
      cases e with
      | transportRx b => exact ⟨hwriter, (List.prefix_append _ _).trans hdelivered⟩
      | _ => exact ⟨hwriter, hdelivered⟩
  -- over the calls of the callback in the order in which the link layer makes them
  have hcalls : ∀ (calls : List RxCall) (s : Device × List (List UInt8)),
      (calls.foldl (Device.handUp d now) s).1.writer = s.1.writer ∧
        s.1.delivered <+: (calls.foldl (Device.handUp d now) s).1.delivered := by
    intro calls
    induction calls with
    | nil => exact fun s => ⟨rfl, List.prefix_rfl⟩
    | cons call calls ih =>
      intro s
      obtain ⟨hwriter, hdelivered⟩ := ih (Device.handUp d now s call)
      obtain ⟨hwriter', hdelivered'⟩ := heffects (prvOnDataLayerRx now call.srcId call.buf
        s.1.transport).2 ({ s.1 with
          transport := (prvOnDataLayerRx now call.srcId call.buf s.1.transport).1 }, s.2)
      exact ⟨hwriter.trans hwriter', hdelivered'.trans hdelivered⟩
  exact hcalls _ _

/-- The steps of a connection, as far as the router's thread is concerned: an effect of its call of
the service, or one that leaves the call alone and only appends to what was handed up. -/
theorem linkStep_service {n l : BleNet} {a : LinkAction} (ha : ¬ a.ByRouter)
    (hl : n.linkStep a = some l) :
    (∃ notified call p, a = .act (.serviceWriter notified) ∧ n.serviceWriter = some (call, p) ∧
      l = n.serviceWriterStep call notified p) ∨
    (∀ notified, a ≠ .act (.serviceWriter notified)) ∧ l.serviceWriter = n.serviceWriter ∧
      n.handedUp <+: l.handedUp := by
  unfold BleNet.linkStep at hl
  cases a with
  | act a =>
    dsimp only at hl
    split at hl
    · cases bleStep_of_step hl with
      | @serviceWriter notified call p hw => exact Or.inl ⟨notified, call, p, rfl, hw, rfl⟩
      | serviceSend => exact absurd trivial ha
      -- the client's own call is none of the thread's
      | @clientWriter sent call p hw =>
        refine Or.inr ⟨(fun _ h => by cases h), ?_⟩
        cases p with
        | send x k => cases sent <;> exact ⟨rfl, List.prefix_rfl⟩
        | take t k =>
          unfold BleNet.clientWriterStep
          dsimp only
          split <;> exact ⟨rfl, List.prefix_rfl⟩
        | _ => exact ⟨rfl, List.prefix_rfl⟩
      -- the service handles a value of the client, which is where messages are handed up
      | serviceReceive => exact Or.inr ⟨(fun _ h => by cases h), rfl, List.prefix_append _ _⟩
      | _ => exact Or.inr ⟨(fun _ h => by cases h), rfl, List.prefix_rfl⟩
    · cases hl
  | _ =>
    dsimp only at hl
    split at hl
    · obtain rfl := Option.some.inj hl
      exact Or.inr ⟨(fun _ h => by cases h), rfl, List.prefix_rfl⟩
    · cases hl

/-- The service's call hands nothing up: it only sends and waits. -/
theorem serviceWriterStep_handedUp (n : BleNet) (call : BleCall) (notified : Ret)
    (p : Proc Errno (List UInt8) Ret) :
    (n.serviceWriterStep call notified p).handedUp = n.handedUp := by
  cases p with
  | send x k => cases notified <;> rfl
  | take t k =>
    unfold BleNet.serviceWriterStep
    dsimp only
    split <;> rfl
  | _ => rfl

section Steps

variable {radio ble : Prices} {unit : ℕ} {d : UInt32} {s s' : System} {k : ℕ}

/-- The amount that is kept back in a state, for the two calls and the router of device `d`. -/
abbrev System.Keeps (radio ble : Prices) (unit : ℕ) (d : UInt32) (s : System) (k : ℕ) : Prop :=
  Kept radio ble unit (s.air.device d).writer (s.link d).serviceWriter (s.router d) k

/-- A step pays its cost when it keeps that much less back, but for what it earns. -/
abbrev System.Pays (radio ble : Prices) (unit : ℕ) (d : UInt32) (s s' : System) (x : SystemAction)
    (k : ℕ) : Prop :=
  ∃ k', s'.Keeps radio ble unit d k' ∧
    s.threadCost radio ble unit d x + k' + s.arrivalCosts radio ble unit d ≤
      k + s'.arrivalCosts radio ble unit d

/-- A step in which device `d` takes no part: nothing is paid, nothing arrives, and the amount
stays. -/
theorem System.Keeps.other {x : SystemAction} (h : s.Keeps radio ble unit d k)
    (hair : (s'.air.device d).writer = (s.air.device d).writer ∧
      (s'.air.device d).delivered = (s.air.device d).delivered)
    (hlink : s'.link d = s.link d) (hrouter : s'.router d = s.router d)
    (hcost : s.threadCost radio ble unit d x = 0) : s.Pays radio ble unit d s' x k := by
  refine ⟨k, ?_, ?_⟩
  · unfold System.Keeps
    rw [hair.1, hlink, hrouter]
    exact h
  · unfold System.arrivalCosts
    rw [hcost, hair.2, hlink, Nat.zero_add]

/-- The router of a device takes a step of its thread, which the debt of the router pays for. -/
theorem System.Keeps.thread {x : SystemAction} {y : RouterAction} {r : Router}
    (h : s.Keeps radio ble unit d k) (hy : y.Thread) (hr : (s.router d).step y = some r)
    (hcost : s.threadCost radio ble unit d x = unit) :
    s.Pays radio ble unit d { s with router := Function.update s.router d r } x k := by
  obtain ⟨m, n, hm, hn, hle⟩ := h.enough
  have hdebt := h.ready.debt_thread (writeCost radio ble) unit hy hr
  refine ⟨m + n + r.debt (writeCost radio ble) unit, ⟨?_, m, n, hm, hn, ?_⟩, ?_⟩
  · dsimp only
    rw [Function.update_self]
    exact h.ready.step hr
  · dsimp only
    rw [Function.update_self]
  · unfold System.arrivalCosts
    rw [hcost]
    dsimp only
    omega

/-- The connection of a device takes a step: an effect of the service's call is paid for by the
call, and messages that are handed up bring what they cost. -/
theorem System.Keeps.link {a : LinkAction} {buffers : List ℕ} {l : BleNet} {r : Router}
    (h : s.Keeps radio ble unit d k) (ha : ¬ a.ByRouter) (hl : (s.link d).linkStep a = some l)
    (hr : (s.router d).acceptAll bleTransport buffers
      (l.handedUp.drop (s.link d).handedUp.length) = some r) :
    s.Pays radio ble unit d
      { s with link := Function.update s.link d l, router := Function.update s.router d r }
      (.link d a buffers) k := by
  obtain ⟨hready, hdebt⟩ := h.ready.acceptAll (writeCost radio ble) unit hr
  obtain ⟨m, n, hm, hn, hle⟩ := h.enough
  rcases linkStep_service ha hl with ⟨notified, call, p, rfl, hw, rfl⟩ | ⟨hne, hsame, new, hnew⟩
  · -- the call of the service does its next effect
    have hp : p.Within ble n := hn call p hw
    have hcost : s.threadCost radio ble unit d (.link d (.act (.serviceWriter notified)) buffers) =
        p.price ble := by
      unfold System.threadCost
      dsimp only
      rw [if_pos rfl, hw]
      rfl
    rw [serviceWriterStep_handedUp, List.drop_length, List.map_nil, List.sum_nil] at hdebt
    refine ⟨m + (n - p.price ble) + r.debt (writeCost radio ble) unit,
      ⟨?_, m, n - p.price ble, hm, ?_, ?_⟩, ?_⟩
    · dsimp only
      rw [Function.update_self]
      exact hready
    · dsimp only
      rw [Function.update_self]
      exact .serviceWriterStep hp notified
    · dsimp only
      rw [Function.update_self]
    · have hprice := hp.price_le
      unfold System.arrivalCosts
      dsimp only
      rw [hcost, Function.update_self, serviceWriterStep_handedUp]
      omega
  · -- anything else costs the thread nothing, and may hand up `new` messages
    have hcost : s.threadCost radio ble unit d (.link d a buffers) = 0 := by
      cases a with
      | act b =>
        cases b with
        | serviceWriter notified => exact absurd rfl (hne notified)
        | _ => rfl
      | _ => rfl
    rw [← hnew, List.drop_left] at hdebt
    refine ⟨m + n + r.debt (writeCost radio ble) unit, ⟨?_, m, n, hm, ?_, ?_⟩, ?_⟩
    · dsimp only
      rw [Function.update_self]
      exact hready
    · dsimp only
      rw [Function.update_self, hsame]
      exact hn
    · dsimp only
      rw [Function.update_self]
    · unfold System.arrivalCosts
      dsimp only
      rw [hcost, Function.update_self, ← hnew, List.map_append, List.sum_append]
      change _ ≤ _ + (new.map (arrivalCost (writeCost radio ble) unit .upstream)).sum at hdebt
      omega

/-- A device handles a frame of the air, which costs its router's thread nothing unless messages are
handed up. -/
theorem System.Keeps.receive {n : ℕ} {now : UInt32} {beyond : ℕ → UInt8} {buffers : List ℕ}
    {frame : List UInt8} {r : Router} (h : s.Keeps radio ble unit d k)
    (hr : (s.router d).acceptAll dectTransport buffers
      ((((s.air.device d).receive d now frame beyond).1.delivered.drop
        (s.air.device d).delivered.length).map Delivery.data) = some r) :
    s.Pays radio ble unit d { s with
      air := s.air.update d ((s.air.device d).receive d now frame beyond).1
        ((s.air.device d).receive d now frame beyond).2
      router := Function.update s.router d r } (.receive d n now beyond buffers) k := by
  obtain ⟨hready, hdebt⟩ := h.ready.acceptAll (writeCost radio ble) unit hr
  obtain ⟨m, n, hm, hn, hle⟩ := h.enough
  obtain ⟨hwriter, new, hnew⟩ := receive_writer_delivered d now (s.air.device d) frame beyond
  rw [← hnew, List.drop_left] at hdebt
  refine ⟨m + n + r.debt (writeCost radio ble) unit, ⟨?_, m, n, ?_, hn, ?_⟩, ?_⟩
  · dsimp only
    rw [Function.update_self]
    exact hready
  · dsimp only
    rw [update_device_self, hwriter]
    exact hm
  · dsimp only
    rw [Function.update_self]
  · -- the arrivals of this step are the messages that the frame completed
    unfold System.arrivalCosts System.threadCost
    dsimp only
    rw [update_device_self, ← hnew, List.map_append, List.sum_append]
    rw [List.map_map] at hdebt
    change _ ≤ _ + (new.map fun m =>
      arrivalCost (writeCost radio ble) unit .downstream m.data).sum at hdebt
    omega

/-- The call of `dect_transport_layer_write` of a device does its next effect, at the price of the
effect. -/
theorem System.Keeps.writer {call : Call} {p : Proc Errno LinkWrite Ret}
    (h : s.Keeps radio ble unit d k) (hp : (s.air.device d).writer = some (call, p)) :
    s.Pays radio ble unit d { s with
      air := s.air.update d ((s.air.device d).writerStep d call p).1
        ((s.air.device d).writerStep d call p).2 } (.air (.writer d)) k := by
  obtain ⟨m, n, hm, hn, hle⟩ := h.enough
  -- what is kept back for the call pays for its next effect, and the rest is kept back for the rest
  have hwithin : p.Within radio m := hm call p hp
  have hprice := hwithin.price_le
  have hcost : s.threadCost radio ble unit d (.air (.writer d)) = p.price radio := by
    unfold System.threadCost
    dsimp only
    rw [if_pos rfl, hp]
    rfl
  refine ⟨m - p.price radio + n + (s.router d).debt (writeCost radio ble) unit,
    ⟨h.ready, m - p.price radio, n, ?_, hn, le_refl _⟩, ?_⟩
  · dsimp only
    rw [update_device_self]
    exact .writerStep hwithin
  · unfold System.arrivalCosts
    dsimp only
    rw [hcost, update_device_self, (writerStep_history d call (s.air.device d) p).2.1]
    omega

/-- Anything else happens on the air; of it, only the calls of device `d` concern its thread. -/
theorem System.Keeps.air {a : Action} {air : Net} (h : s.Keeps radio ble unit d k)
    (ha : ¬ a.Apart) (hair : s.air.step a = some air) :
    s.Pays radio ble unit d { s with air } (.air a) k := by
  cases Net.step_cases hair with
  | startWrite => exact absurd trivial ha
  | receive => exact absurd trivial ha
  | @writer d' call p hp =>
    -- the writer of this device, and those of the others
    by_cases hd : d' = d
    · subst hd
      exact h.writer hp
    · refine h.other ?_ rfl rfl (if_neg hd)
      dsimp only
      rw [update_device_of_ne _ _ _ _ (Ne.symm hd)]
      exact ⟨rfl, rfl⟩
  | lose => exact h.other ⟨rfl, rfl⟩ rfl rfl rfl
  | @release d' i b hi hb =>
    refine h.other ?_ rfl rfl rfl
    -- a release, by this device or another one, is about its pool
    exact update_device_rel (r := fun x y => y.writer = x.writer ∧ y.delivered = x.delivered)
      s.air d' ((s.air.device d').release i) [] (fun _ => ⟨rfl, rfl⟩) ⟨rfl, rfl⟩ d

/-- The router calls `dect_transport_layer_write`: what it owed for the message is now kept back for
the call. -/
theorem System.Keeps.writeDect {seqId : UInt16} {t : AlfieTransport} {a : ℕ}
    {rest : List RouterStmt} {r : Router} {air : Net} (h : s.Keeps radio ble unit d k)
    (htodo : (s.router d).todo = .write t a :: rest) (ht : t.type = .downstream)
    (hr : (s.router d).step .run = some r)
    (hair : s.air.step (.startWrite d (AlfieProtoHeader.ofBytes ((s.router d).memory a).data).dstId
      seqId ((s.router d).memory a).data) = some air) :
    s.Pays radio ble unit d { s with air, router := Function.update s.router d r }
      (.write d seqId) k := by
  obtain ⟨m, n, hm, hn, hle⟩ := h.enough
  -- the router owed the call, with its message, from the arrival on
  have hdebt := h.ready.debt_write (writeCost radio ble) unit htodo hr
  rw [ht] at hdebt
  have hdebt : _ + dectWriteCost radio ((s.router d).memory a).data ≤ _ := hdebt
  cases Net.step_cases hair with
  | startWrite hidle =>
    refine ⟨dectWriteCost radio ((s.router d).memory a).data + n +
      r.debt (writeCost radio ble) unit,
      ⟨?_, dectWriteCost radio ((s.router d).memory a).data, n, ?_, hn, ?_⟩, ?_⟩
    · dsimp only
      rw [Function.update_self]
      exact h.ready.step hr
    · dsimp only
      rw [update_device_self]
      exact .some (dectTransportLayerWrite_within _ _ _ _ _)
    · dsimp only
      rw [Function.update_self]
    · -- starting the call hands nothing up, and so nothing arrives
      unfold System.arrivalCosts System.threadCost
      dsimp only
      rw [if_pos rfl, update_device_self]
      dsimp only [Device.startWrite]
      omega

/-- The router calls `alfie_ble_service_write`, and what it owed for the message is kept back for
that call. -/
theorem System.Keeps.writeBle {seqId : UInt16} {t : AlfieTransport} {a : ℕ}
    {rest : List RouterStmt} {r : Router} {l : BleNet} (h : s.Keeps radio ble unit d k)
    (htodo : (s.router d).todo = .write t a :: rest) (ht : t.type = .upstream)
    (hr : (s.router d).step .run = some r)
    (hl : (s.link d).step (.serviceSend seqId ((s.router d).memory a).data) = some l) :
    s.Pays radio ble unit d
      { s with link := Function.update s.link d l, router := Function.update s.router d r }
      (.write d seqId) k := by
  obtain ⟨m, n, hm, hn, hle⟩ := h.enough
  -- the same as for the radio, with what was kept back for the call of the service
  have hdebt := h.ready.debt_write (writeCost radio ble) unit htodo hr
  rw [ht] at hdebt
  have hdebt : _ + bleWriteCost ble ((s.router d).memory a).data ≤ _ := hdebt
  cases bleStep_of_step hl with
  -- a call that is refused costs its return, which the bound includes
  | serviceSend _ _ hw =>
    refine ⟨m + bleWriteCost ble ((s.router d).memory a).data +
      r.debt (writeCost radio ble) unit,
      ⟨?_, m, bleWriteCost ble ((s.router d).memory a).data, hm, ?_, ?_⟩, ?_⟩
    · dsimp only
      rw [Function.update_self]
      exact h.ready.step hr
    · dsimp only
      rw [Function.update_self]
      exact .some (alfieBleServiceWrite_within _ _ _ _)
    · dsimp only
      rw [Function.update_self]
    · unfold System.arrivalCosts System.threadCost
      dsimp only
      rw [if_pos rfl, Function.update_self]
      dsimp only
      omega

/-- **One step** of the system: it is paid for by what was kept back and by what arrives in it. -/
theorem System.Keeps.step {x : SystemAction} (h : s.Keeps radio ble unit d k)
    (hstep : s.step x = some s') : s.Pays radio ble unit d s' x k := by
  cases System.step_cases hstep with
  | @link d' a buffers l r ha hl hr =>
    by_cases hd : d' = d
    · subst hd
      exact h.link ha hl hr
    · -- another device: only the effects of this one's calls have a price
      refine h.other ⟨rfl, rfl⟩ (Function.update_of_ne (Ne.symm hd) _ _)
        (Function.update_of_ne (Ne.symm hd) _ _) ?_
      cases a with
      | act b =>
        cases b with
        | serviceWriter => exact if_neg hd
        | _ => rfl
      | _ => rfl
  | @receive d' n now beyond buffers air r hair hr =>
    cases Net.step_cases hair with
    | receive hk =>
      by_cases hd : d' = d
      · subst hd
        rw [update_device_self] at hr
        exact h.receive hr
      · -- a frame that another device handles
        refine h.other ?_ rfl (Function.update_of_ne (Ne.symm hd) _ _) rfl
        dsimp only
        rw [update_device_of_ne _ _ _ _ (Ne.symm hd)]
        exact ⟨rfl, rfl⟩
  | air ha hair => exact h.air ha hair
  | @poll d' events r hr =>
    by_cases hd : d' = d
    · subst hd
      exact h.thread (y := .poll events) trivial hr (if_pos rfl)
    · exact h.other ⟨rfl, rfl⟩ rfl (Function.update_of_ne (Ne.symm hd) _ _) (if_neg hd)
  | @run d' r hr =>
    by_cases hd : d' = d
    · subst hd
      exact h.thread (y := .run) trivial hr (if_pos rfl)
    · exact h.other ⟨rfl, rfl⟩ rfl (Function.update_of_ne (Ne.symm hd) _ _) (if_neg hd)
  | @writeDect d' seqId t a rest r air htodo ht hr hair =>
    by_cases hd : d' = d
    · subst hd
      exact h.writeDect htodo ht hr hair
    · cases Net.step_cases hair with
      | startWrite hidle =>
        refine h.other ?_ rfl (Function.update_of_ne (Ne.symm hd) _ _) (if_neg hd)
        dsimp only
        rw [update_device_of_ne _ _ _ _ (Ne.symm hd)]
        exact ⟨rfl, rfl⟩
  | @writeBle d' seqId t a rest r l htodo ht hr hl =>
    by_cases hd : d' = d
    · subst hd
      exact h.writeBle htodo ht hr hl
    · exact h.other ⟨rfl, rfl⟩ (Function.update_of_ne (Ne.symm hd) _ _)
        (Function.update_of_ne (Ne.symm hd) _ _) (if_neg hd)

end Steps

/-! ### The thread goes on -/

/-- The thread is in a call of `dect_transport_layer_write` whose next effect is a `k_msgq_put`. The
air of `System` has no `tx_queue`, so that the put is a step in every state; on a device it waits
until one of the eight slots is free. -/
def System.AtPut (s : System) (d : UInt32) : Prop :=
  match (s.air.device d).writer with
  | some (_, .send _ _) => True
  | _ => False

/-- The step is that put: the effect of the thread's call that puts a frame into the queue. -/
def SystemAction.Puts (s : System) (d : UInt32) : SystemAction → Prop
  | .air (.writer d') => d' = d ∧ s.AtPut d
  | _ => False

/-- **Where the thread can be kept from going on.** When none of its steps is possible but perhaps a
put, it waits for a slot of `tx_queue`, or it is in no call and has handled everything. The steps
that are not puts need nothing of the queue, so the statement is the same whether it is full. -/
theorem finished_of_stuck {s : System} {d : UInt32}
    (h : ∀ x : SystemAction, x.Thread d → ¬ x.Puts s d → s.step x = none) :
    s.AtPut d ∨ ¬ s.Writing d ∧ (s.router d).todo = [] ∧ ∀ t, (s.router d).fifo t = [] := by
  by_cases hput : s.AtPut d
  · exact .inl hput
  right
  -- every other effect of a call can be done
  have hradio : (s.air.device d).writer = none := by
    have hstep := h (.air (.writer d)) rfl fun hputs => hput hputs.2
    cases hw : (s.air.device d).writer with
    | none => rfl
    | some w =>
      simp [System.step, Action.Apart, Net.step, hw] at hstep
  -- a notification can always return an error, so the call of the service goes on
  have hservice : (s.link d).serviceWriter = none := by
    have hstep := h (.link d (.act (.serviceWriter (.err .enotconn))) []) rfl not_false
    cases hw : (s.link d).serviceWriter with
    | none => rfl
    | some w =>
      simp [System.step, LinkAction.ByRouter, BleNet.linkStep, BleAction.Connected, BleNet.step, hw,
        serviceWriterStep_handedUp, Router.acceptAll] at hstep
  have hidle : ¬ s.Writing d := by
    unfold System.Writing
    rw [hradio, hservice]
    decide
  have htodo : (s.router d).todo = [] := by
    cases htodo : (s.router d).todo with
    | nil => rfl
    | cons stmt rest =>
      have hr : (s.router d).step .run = some { s.router d with
          todo := rest
          log := (s.router d).log ++ stmt.exec (s.router d).endpoints (s.router d).memory } := by
        change (s.router d).run = _
        unfold Router.run
        rw [htodo]
      -- a write that is not under way can begin, and any other statement can be executed
      cases stmt with
      | write t a =>
        have hstep := h (.write d 0) rfl not_false
        unfold System.step at hstep
        dsimp only at hstep
        rw [if_neg hidle, htodo, hr] at hstep
        unfold System.startWrite at hstep
        cases htype : t.type with
        | downstream => simp [htype, Net.step, hradio] at hstep
        | upstream => simp [htype, BleNet.step, hservice] at hstep
      | _ =>
        have hstep := h (.run d) rfl not_false
        simp [System.step, hidle, Router.atWrite, htodo, hr] at hstep
  refine ⟨hidle, htodo, ?_⟩
  have hblocked : ∀ x : RouterAction, x.Thread → (s.router d).step x = none := by
    intro x hx
    cases x with
    | fill => exact absurd hx not_false
    | rx => exact absurd hx not_false
    | poll events =>
      have hstep := h (.poll d events) rfl not_false
      simpa [System.step, Option.bind_eq_none_iff, ← Option.eq_none_iff_forall_ne_some] using hstep
    | run =>
      have hstep := h (.run d) rfl not_false
      simpa [System.step, hidle, Router.atWrite, htodo, Option.bind_eq_none_iff,
        ← Option.eq_none_iff_forall_ne_some] using hstep
  exact (todo_and_fifo_of_blocked hblocked).2

/-! ### The result -/

/-- Every run is paid for by what the transports have handed up: the steps of the thread cost no
more than the arrivals, and the start-up, have brought. -/
theorem spent_threadCost_le (radio ble : Prices) (unit : ℕ) {endpoints : List AlfieEndpoint}
    {memory : ℕ → CompletedBuffer} {as : List SystemAction} {s : System} (d : UInt32)
    (h : Steps System.step (fun _ _ => True) (.init endpoints memory) as s) :
    spent System.step (System.threadCost radio ble unit d) (.init endpoints memory) as ≤
      unit * 5 + ((s.link d).handedUp.map fun m => dectWriteCost radio m + unit * 11).sum +
        ((s.air.device d).delivered.map fun m => bleWriteCost ble m.data + unit * 11).sum := by
  have hinit : (System.init endpoints memory).Keeps radio ble unit d (unit * 5) := by
    refine ⟨.init, 0, 0, .none, .none, ?_⟩
    change 0 + 0 + (0 + unit * 5) ≤ unit * 5
    omega
  have hpays : ∀ (s : System) (x : SystemAction) (s' : System) (k : ℕ),
      s.Keeps radio ble unit d k → True → s.step x = some s' → s.Pays radio ble unit d s' x k :=
    fun s x s' k hk _ hstep => hk.step hstep
  obtain ⟨k, -, hle⟩ := h.spent_le hpays hinit
  have hearned : (System.init endpoints memory).arrivalCosts radio ble unit d = 0 := rfl
  rw [hearned] at hle
  change _ ≤ unit * 5 + (((s.link d).handedUp.map fun m => dectWriteCost radio m + unit * 11).sum +
    ((s.air.device d).delivered.map fun m => bleWriteCost ble m.data + unit * 11).sum) at hle
  omega

/-- **The router's thread finishes.** In every run, whatever is lost, fails or is disconnected, the
thread of device `d` has spent no more than a bounded amount for each message that the transports
have handed up to it, at any prices for its statements and for the effects of the calls. And it has
no step to make only when it is in no call and has handled every message, or when it waits for a
slot of `tx_queue`, which is the one effect of a call that does not come to an end by itself. -/
theorem thread_finishes (radio ble : Prices) (unit : ℕ) (endpoints : List AlfieEndpoint)
    (memory : ℕ → CompletedBuffer) (as : List SystemAction) (s : System) (d : UInt32)
    (h : Steps System.step (fun _ _ => True) (.init endpoints memory) as s) :
    spent System.step (System.threadCost radio ble unit d) (.init endpoints memory) as ≤
        unit * 5 + ((s.link d).handedUp.map fun m => dectWriteCost radio m + unit * 11).sum +
          ((s.air.device d).delivered.map fun m => bleWriteCost ble m.data + unit * 11).sum ∧
      ((∀ x : SystemAction, x.Thread d → ¬ x.Puts s d → s.step x = none) →
        s.AtPut d ∨ ¬ s.Writing d ∧ (s.router d).todo = [] ∧ ∀ t, (s.router d).fifo t = []) :=
  ⟨spent_threadCost_le radio ble unit d h, finished_of_stuck⟩

/-- The prices that count frames: a frame costs one, and everything else nothing. -/
def framePrices : Prices := ⟨0, 0, 1, fun _ => 0⟩

/-- The letter of `oneLetterSent` costs device 1 the frames of one message. -/
theorem thread_finishes_oneLetter : ∃ s : System,
    Steps System.step (fun _ _ => True) (.init [] fun _ => toEndpointThree) oneLetterSent s ∧
      spent System.step (System.threadCost framePrices framePrices 1 1)
          (.init [] fun _ => toEndpointThree) oneLetterSent ≤
        1 * 5 + ((s.link 1).handedUp.map fun m => dectWriteCost framePrices m + 1 * 11).sum +
          ((s.air.device 1).delivered.map fun m => bleWriteCost framePrices m.data + 1 * 11).sum := by
  obtain ⟨s, hrun, -⟩ := oneLetterSent_run
  have hrun := hrun.mono (D := fun _ _ => True) fun _ _ _ => trivial
  exact ⟨s, hrun, (thread_finishes framePrices framePrices 1 [] _ oneLetterSent s 1 hrun).1⟩

end DectCommunicator
