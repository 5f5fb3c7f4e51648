import DectCommunicator.Dect.TransportSpec
import DectCommunicator.Lib.Runs

/-!
# The transmit queue

The router thread and the link-layer thread of one device share a queue of eight frames. The router
puts the frames of its calls of `dect_transport_layer_write`, and the link-layer thread takes one
per round; but the rx callback runs on the link-layer thread too, and puts the ACKs. Both wait for a
free slot without a timeout, so an ACK that finds the queue full suspends the only thread that
drains it, for good (`suspended_forever`).

A round of the link-layer thread begins with `k_msgq_get`, which leaves a free slot, and its
callback puts one ACK at most (`countP_isAck_le`). So an ACK finds a slot in every run in which the
router does not take the last one while a round is going on. This is `KeepsSlot`, a condition on
where the two threads are and on the length of the queue before the step, and `SlotInv` carries it
through a run (`ack_has_room`). Nothing in the code enforces it: every attempt of
`prv_write_data_frame` queues another copy, whether or not the earlier ones have been sent, so the
frames that are put during one PHY operation have no bound (`router_fills_queue`).

Under the same condition the router is not kept waiting for ever either: whatever the PHY does, the
link-layer thread comes to its next `k_msgq_get` in a bounded number of steps, and that leaves a
slot (`slot_comes_free`).
-/

namespace DectCommunicator

open Machine StopAndWait

/-! ### The system -/

/-- `DECT_LINK_LAYER_TX_MSG_QUEUE_DEPTH`: the frames that can wait for the link-layer thread. -/
def dectLinkLayerTxMsgQueueDepth : ℕ := 8

/-- Where the link-layer thread is in its loop: before `k_msgq_get`, in a PHY operation, or in the
rx callback with the rest of what that does. -/
inductive LinkPhase where
  | get
  | transmitting
  | receiving
  | callback (todo : List DectRxEffect)
deriving DecidableEq, Repr

/-- The link layer and the transport layer of one device with the two threads that use them. `phase`
is where the link-layer thread is, and `writer` is the rest of the router's call of
`dect_transport_layer_write`, if it is in one. The semaphore of the ACKs is in `transport`, so a
wait of the writer depends on what the callback does. -/
structure TxSystem where
  link : DectLinkLayer
  transport : DectTransportLayer
  txQueue : List (List UInt8)
  phase : LinkPhase
  writer : Option (Proc Errno LinkWrite Ret)

/-- The device after initialisation: an empty queue, the link-layer thread at the head of its loop,
and no call of the router. -/
def TxSystem.init (callback : Option (TransportRxCallback DectTransportExt)) : TxSystem :=
  ⟨.init, .init callback, [], .get, none⟩

/-- `k_msgq_put` with K_FOREVER of the frame that `dect_link_layer_write` builds: the return code
and the queue afterwards, or nothing while the queue is full. -/
def TxSystem.put (deviceId : UInt32) (s : TxSystem) (x : LinkWrite) :
    Option (Ret × List (List UInt8)) :=
  match dectLinkLayerWrite s.link deviceId x.1 x.2 with
  | (r, none) => some (r, s.txQueue)
  | (r, some frame) =>
    -- With a full queue the caller is suspended, which is no step at all.
    if s.txQueue.length < dectLinkLayerTxMsgQueueDepth then some (r, s.txQueue ++ [frame])
    else none

/-- The steps of the two threads. A PHY operation is one step with all its events, since the
router's steps in between see nothing of it. -/
inductive TxAction where
  /-- the router calls `dect_transport_layer_write` -/
  | write (dstId : UInt32) (seqId : UInt16) (data : List UInt8)
  /-- the call does its next effect; a wait without an ACK times out -/
  | writer
  /-- `k_msgq_get` -/
  | get
  /-- the transmit operation ends -/
  | txDone (driver : Ret) (events : List PhyEvent)
  /-- the receive window ends -/
  | rxDone (now : UInt32) (driver : Ret) (events : List PhyEvent) (beyond : ℕ → UInt8)
  /-- the rx callback does its next effect, or returns -/
  | callback
  /-- the router releases a message -/
  | release (i : ℕ)

/-- The steps of the link-layer thread; the others are those of the router. -/
def TxAction.LinkThread : TxAction → Prop
  | .get => True
  | .txDone _ _ => True
  | .rxDone _ _ _ _ => True
  | .callback => True
  | _ => False

instance (x : TxAction) : Decidable x.LinkThread :=
  match x with
  | .write _ _ _ => instDecidableFalse
  | .writer => instDecidableFalse
  | .get => instDecidableTrue
  | .txDone _ _ => instDecidableTrue
  | .rxDone _ _ _ _ => instDecidableTrue
  | .callback => instDecidableTrue
  | .release _ => instDecidableFalse

/-- The next effect of the router's call, which is the only one that may have to wait for the other
thread. -/
def TxSystem.writerStep (deviceId : UInt32) (s : TxSystem) :
    Proc Errno LinkWrite Ret → Option TxSystem
  | .ret _ => some { s with writer := none }
  | .reset k => some { s with writer := some k, transport := { s.transport with ackSem := 0 } }
  | .send x k =>
    match s.put deviceId x with
    | none => none
    | some (r, queue) =>
      some { s with writer := some (k r), txQueue := queue }
  -- A wait that times out is a step as well, so it is no reason to stand still.
  | .take _ k =>
    if 0 < s.transport.ackSem then
      some { s with
        writer := some (k .ok)
        transport := { s.transport with ackSem := s.transport.ackSem - 1 } }
    else some { s with writer := some (k (.err .eagain)) }

/-- The effects of the rx callback on a frame that the receive window hands up. They are determined
here and carried out one by one in later steps. -/
def TxSystem.handUp (deviceId now : UInt32) (s : TxSystem) (driver : Ret) (events : List PhyEvent)
    (beyond : ℕ → UInt8) : TxSystem :=
  match receiveWindow deviceId s.link driver events beyond with
  | (link, []) => { s with link := link, phase := .get }
  | (link, call :: _) =>
    let r := prvOnDataLayerRx now call.srcId call.buf s.transport
    { s with link := link, transport := r.1, phase := .callback r.2 }

/-- A step; `none` when the action is not possible. -/
def TxSystem.step (deviceId : UInt32) (s : TxSystem) : TxAction → Option TxSystem
  | .write dstId seqId data =>
    match s.writer with
    | some _ => none
    | none =>
      some { s with
        writer := some (dectTransportLayerWrite s.transport.initialized seqId dstId data) }
  | .writer =>
    match s.writer with
    | none => none
    | some p => s.writerStep deviceId p
  | .get =>
    match s.phase, s.txQueue with
    | .get, [] => some { s with phase := .receiving }
    | .get, _ :: rest => some { s with phase := .transmitting, txQueue := rest }
    | _, _ => none
  | .txDone driver events =>
    match s.phase with
    | .transmitting =>
      some { s with
        link := (prvLinkLayerWriteFrame deviceId s.link driver events).2
        phase := .receiving }
    | _ => none
  | .rxDone now driver events beyond =>
    match s.phase with
    | .receiving => some (s.handUp deviceId now driver events beyond)
    | _ => none
  | .callback =>
    match s.phase with
    | .callback [] => some { s with phase := .get }
    | .callback (.linkWrite dstId buf :: todo) =>
      match s.put deviceId (dstId, buf) with
      | none => none
      | some (_, queue) => some { s with txQueue := queue, phase := .callback todo }
    | .callback (_ :: todo) => some { s with phase := .callback todo }
    | _ => none
  | .release i =>
    some { s with
      transport := { s.transport with rxPool := releaseReferenced s.transport.rxPool i } }

/-! ### The property and the condition -/

/-- The effect puts an ACK into the queue, the only frame that a callback sends. -/
def DectRxEffect.isAck : DectRxEffect → Bool
  | .linkWrite _ _ => true
  | _ => false

/-- The ACKs that the callback still has to put, the one it may be waiting with included. -/
def LinkPhase.acks : LinkPhase → ℕ
  | .callback todo => todo.countP DectRxEffect.isAck
  | _ => 0

/-- **The property.** When the callback comes to put an ACK, the queue has a free slot. Otherwise
the thread that takes frames from the queue waits for itself. -/
def AckHasRoom (s : TxSystem) : Prop :=
  ∀ dstId buf todo, s.phase = .callback (.linkWrite dstId buf :: todo) →
    s.txQueue.length < dectLinkLayerTxMsgQueueDepth

/-- The next effect of the router's call is a put, and there is one free slot left for it. The put
may still fail one of the checks of `dect_link_layer_write`, which come before `k_msgq_put`. -/
def TxSystem.TakesLastSlot (s : TxSystem) : Prop :=
  match s.writer with
  | some (.send _ _) => s.txQueue.length + 1 = dectLinkLayerTxMsgQueueDepth
  | _ => False

instance (s : TxSystem) : Decidable s.TakesLastSlot :=
  match s with
  | ⟨_, _, _, _, some (.send _ _)⟩ => inferInstanceAs (Decidable (_ = _))
  | ⟨_, _, _, _, some (.ret _)⟩ => instDecidableFalse
  | ⟨_, _, _, _, some (.reset _)⟩ => instDecidableFalse
  | ⟨_, _, _, _, some (.take _ _)⟩ => instDecidableFalse
  | ⟨_, _, _, _, none⟩ => instDecidableFalse

/-- **The condition.** The router does not take the last free slot while a round of the link-layer
thread is going on, that is from a `k_msgq_get` to the return of the rx callback. It is about the
state before a step of the router: where the link-layer thread is, how many frames are queued, and
that the router is about to put one. What the callback makes of the frame that the round receives
does not occur in it. -/
def KeepsSlot (s : TxSystem) : TxAction → Prop
  | .writer => s.phase ≠ .get → ¬ s.TakesLastSlot
  | _ => True

instance (s : TxSystem) (x : TxAction) : Decidable (KeepsSlot s x) :=
  match x with
  | .writer => inferInstanceAs (Decidable (s.phase ≠ .get → ¬ s.TakesLastSlot))
  | .write _ _ _ => instDecidableTrue
  | .get => instDecidableTrue
  | .txDone _ _ => instDecidableTrue
  | .rxDone _ _ _ _ => instDecidableTrue
  | .callback => instDecidableTrue
  | .release _ => instDecidableTrue

/-! ### One ACK for each frame -/

/-- A reassembly step acknowledges at most once. It is stated of every predicate that only an ACK
meets, as the callback's effects are mapped ones. -/
theorem DataFrameStep.countP_ack_le {ε κ : Type} {callback : Option (TransportRxCallback ε)}
    {params : Option κ} {mark : ε → ε} {now : UInt32} {f : Fragment}
    {p q : TransportBufferPool ε κ} {out : List (RxEffect ε)} {isAck : RxEffect ε → Bool}
    (hack : ∀ e, isAck e = true → e = .ack)
    (hstep : DataFrameStep callback params mark now f p q out) : out.countP isAck ≤ 1 := by
  have hno : ∀ e, e ≠ .ack → isAck e = false := fun e he =>
    Bool.eq_false_iff.mpr fun h => he (hack e h)
  have hone : (if isAck .ack = true then 1 else 0) ≤ 1 := by split <;> decide
  cases hstep with
  | refused => exact Nat.zero_le 1
  | rejected => simp [hno]
  | duplicate => simpa [hno, List.countP_cons] using hone
  | success => simpa [hno, List.countP_cons] using hone
  | invalidFinalSize => simp [hno]
  | complete =>
    cases callback with
    | none => simpa [hno, List.countP_cons] using hone
    | some => simpa [hno, List.countP_cons] using hone

/-- The rx callback puts at most one ACK, whatever the bytes it is given. -/
theorem countP_isAck_le (now srcId : UInt32) (buf : List UInt8) (st : DectTransportLayer) :
    (prvOnDataLayerRx now srcId buf st).2.countP DectRxEffect.isAck ≤ 1 := by
  unfold prvOnDataLayerRx
  split
  · exact Nat.zero_le 1
  split
  · unfold prvHandleDataFrame
    split
    · exact Nat.zero_le 1
    · dsimp only
      rw [List.countP_map]
      -- a data frame: the reassembly step acknowledges at most once; other frames have no effect
      -- that sends
      refine DataFrameStep.countP_ack_le (fun e he => ?_) (handleDataFrame_spec _ _ _ _ _ _)
      cases e with
      | ack => rfl
      | _ => cases he
  · exact Nat.zero_le 1
  · exact Nat.zero_le 1

/-- So does the callback that a receive window ends with, the window handing up one frame at
most. -/
theorem handUp_acks_le (deviceId now : UInt32) (s : TxSystem) (driver : Ret)
    (events : List PhyEvent) (beyond : ℕ → UInt8) :
    (s.handUp deviceId now driver events beyond).phase.acks ≤ 1 := by
  unfold TxSystem.handUp
  split
  · exact Nat.zero_le 1
  · exact countP_isAck_le _ _ _ _

/-! ### The length of a round -/

/-- How many steps the link-layer thread can still make before its next `k_msgq_get`: the effects of
the callback and its return, and before them the end of the receive window, and before that the end
of the transmit operation. A frame has four effects at most. -/
def LinkPhase.left : LinkPhase → ℕ
  | .get => 0
  | .callback todo => todo.length + 1
  | .receiving => 6
  | .transmitting => 7

/-- A reassembly step has four effects at most: the write, the bytes added, the ACK, and the
invocation of the callback. -/
theorem DataFrameStep.length_le {ε κ : Type} {callback : Option (TransportRxCallback ε)}
    {params : Option κ} {mark : ε → ε} {now : UInt32} {f : Fragment}
    {p q : TransportBufferPool ε κ} {out : List (RxEffect ε)}
    (hstep : DataFrameStep callback params mark now f p q out) : out.length ≤ 4 := by
  cases hstep with
  | complete =>
    rw [List.length_append]
    split
    · exact le_refl 4
    · exact Nat.le_succ 3
  | _ => exact Nat.le_of_ble_eq_true rfl

/-- What a receive window leaves to the callback: four effects at most, and its return. -/
theorem handUp_left_le (deviceId now : UInt32) (s : TxSystem) (driver : Ret)
    (events : List PhyEvent) (beyond : ℕ → UInt8) :
    (s.handUp deviceId now driver events beyond).phase.left ≤ 5 := by
  unfold TxSystem.handUp
  split
  · exact Nat.zero_le 5
  · next link call _ _ =>
    -- the return of the callback is the fifth
    refine Nat.succ_le_succ ?_
    unfold prvOnDataLayerRx
    split
    · exact Nat.zero_le 4
    split
    · unfold prvHandleDataFrame
      split
      · exact Nat.zero_le 4
      · dsimp only
        rw [List.length_map]
        exact DataFrameStep.length_le (handleDataFrame_spec _ _ _ _ _ _)
    · exact Nat.zero_le 4
    · exact Nat.zero_le 4

/-! ### The invariant -/

/-- **The invariant.** The queue is within its depth, the callback has one ACK to put at most, and
from `k_msgq_get` until that ACK has been put there is a free slot for it. Which frame the round
will receive is not known before, so the slot is kept during the PHY operations of every round. -/
structure SlotInv (s : TxSystem) : Prop where
  depth : s.txQueue.length ≤ dectLinkLayerTxMsgQueueDepth
  acks : s.phase.acks ≤ 1
  left : s.phase.left ≤ 7
  round : s.phase = .transmitting ∨ s.phase = .receiving →
    s.txQueue.length < dectLinkLayerTxMsgQueueDepth
  room : s.phase.acks ≠ 0 → s.txQueue.length < dectLinkLayerTxMsgQueueDepth

section Steps

variable {deviceId : UInt32} {s s' : TxSystem}

/-- An empty queue has room, and no round is going on. -/
theorem SlotInv.init (callback : Option (TransportRxCallback DectTransportExt)) :
    SlotInv (.init callback) where
  depth := Nat.zero_le _
  acks := Nat.zero_le 1
  left := Nat.zero_le 7
  round := by rintro (h | h) <;> cases h
  room h := absurd rfl h

/-- A put that returns has either failed a check of `dect_link_layer_write`, and then it leaves the
queue as it is, or found a free slot and taken it. -/
theorem put_eq_some {x : LinkWrite} {r : Ret} {queue : List (List UInt8)}
    (h : s.put deviceId x = some (r, queue)) :
    queue = s.txQueue ∨
      queue.length = s.txQueue.length + 1 ∧ s.txQueue.length < dectLinkLayerTxMsgQueueDepth := by
  unfold TxSystem.put at h
  split at h
  · injection h with h
    injection h with _ h
    exact Or.inl h.symm
  · split at h
    · next hlt =>
      injection h with h
      injection h with _ h
      exact Or.inr ⟨by rw [← h, List.length_append, List.length_singleton], hlt⟩
    · cases h

/-- With a free slot no put has to wait, whether or not it passes the checks. -/
theorem exists_put (hlt : s.txQueue.length < dectLinkLayerTxMsgQueueDepth) (x : LinkWrite) :
    ∃ r, s.put deviceId x = some r := by
  unfold TxSystem.put
  split
  · exact ⟨_, rfl⟩
  · rw [if_pos hlt]
    exact ⟨_, rfl⟩

/-- A step that leaves the queue and the round as they are keeps the invariant. -/
theorem SlotInv.same (h : SlotInv s) (hqueue : s'.txQueue = s.txQueue)
    (hphase : s'.phase = s.phase) : SlotInv s' where
  depth := by rw [hqueue]; exact h.depth
  acks := by rw [hphase]; exact h.acks
  left := by rw [hphase]; exact h.left
  round := by rw [hqueue, hphase]; exact h.round
  room := by rw [hqueue, hphase]; exact h.room

/-- While a round is going on, the condition leaves a slot free behind every put of the router: the
slot that the put takes is not the last one. -/
theorem length_lt_of_keepsSlot {x : LinkWrite} {k : Ret → Proc Errno LinkWrite Ret}
    (hp : s.writer = some (.send x k)) (hcond : KeepsSlot s .writer) (hround : s.phase ≠ .get)
    {queue : List (List UInt8)} (hlen : queue.length = s.txQueue.length + 1)
    (hlt : s.txQueue.length < dectLinkLayerTxMsgQueueDepth) :
    queue.length < dectLinkLayerTxMsgQueueDepth := by
  have hnot : s.txQueue.length + 1 ≠ dectLinkLayerTxMsgQueueDepth := by
    have htakes := hcond hround
    unfold TxSystem.TakesLastSlot at htakes
    rw [hp] at htakes
    exact htakes
  rw [hlen]
  exact lt_of_le_of_ne hlt hnot

/-- The router's call does its next effect. Only a put concerns the queue, and during a round the
condition keeps it from being the one that fills it. -/
theorem SlotInv.writer (h : SlotInv s) {p : Proc Errno LinkWrite Ret} (hp : s.writer = some p)
    (hcond : KeepsSlot s .writer) (hstep : s.writerStep deviceId p = some s') : SlotInv s' := by
  cases p with
  -- only a put is about the queue
  | ret =>
    obtain rfl := Option.some.inj hstep
    exact h.same rfl rfl
  | reset =>
    obtain rfl := Option.some.inj hstep
    exact h.same rfl rfl
  | take =>
    unfold TxSystem.writerStep at hstep
    dsimp only at hstep
    split at hstep
    · obtain rfl := Option.some.inj hstep
      exact h.same rfl rfl
    · obtain rfl := Option.some.inj hstep
      exact h.same rfl rfl
  | send x k =>
    unfold TxSystem.writerStep at hstep
    dsimp only at hstep
    split at hstep
    · cases hstep
    · next r queue hput =>
      obtain rfl := Option.some.inj hstep
      rcases put_eq_some hput with rfl | ⟨hlen, hlt⟩
      · -- the put has failed its checks, and queued nothing
        exact h.same rfl rfl
      · -- the frame has taken a slot, of which there is another one unless no round is going on
        have hfree : s.phase ≠ .get → queue.length < dectLinkLayerTxMsgQueueDepth :=
          fun hround => length_lt_of_keepsSlot hp hcond hround hlen hlt
        refine ⟨hlen.trans_le hlt, h.acks, h.left, fun hphase => hfree ?_, fun hacks => hfree ?_⟩
        · rintro hget
          rcases hphase with hphase | hphase <;> cases hget.symm.trans hphase
        · intro hget
          apply hacks
          show s.phase.acks = 0
          rw [hget]
          rfl

/-- The end of a receive window leaves the queue as it is, and the round is over or in its callback.
-/
theorem handUp_spec (deviceId now : UInt32) (s : TxSystem) (driver : Ret) (events : List PhyEvent)
    (beyond : ℕ → UInt8) :
    (s.handUp deviceId now driver events beyond).txQueue = s.txQueue ∧
      (s.handUp deviceId now driver events beyond).phase ≠ .transmitting ∧
      (s.handUp deviceId now driver events beyond).phase ≠ .receiving := by
  unfold TxSystem.handUp
  split
  · exact ⟨rfl, LinkPhase.noConfusion, LinkPhase.noConfusion⟩
  · exact ⟨rfl, LinkPhase.noConfusion, LinkPhase.noConfusion⟩

/-- The callback does its next effect. The ACK takes the slot that was kept for it, and every other
effect leaves the queue alone. -/
theorem SlotInv.callback (h : SlotInv s) (hstep : s.step deviceId .callback = some s') :
    SlotInv s' := by
  unfold TxSystem.step at hstep
  dsimp only at hstep
  split at hstep
  · obtain rfl := Option.some.inj hstep
    exact
      { depth := h.depth
        acks := Nat.zero_le 1
        left := Nat.zero_le 7
        round := by rintro (hphase | hphase) <;> cases hphase
        room := fun hne => absurd rfl hne }
  · next dstId buf todo hphase =>
    -- the only ACK of this callback takes the free slot
    have hacks : todo.countP DectRxEffect.isAck = 0 := by
      have hle := h.acks
      rw [hphase] at hle
      change (DectRxEffect.linkWrite dstId buf :: todo).countP DectRxEffect.isAck ≤ 1 at hle
      rw [List.countP_cons_of_pos (show DectRxEffect.isAck _ = true from rfl)] at hle
      exact Nat.le_zero.mp (Nat.le_of_succ_le_succ hle)
    split at hstep
    · cases hstep
    · next r queue hput =>
      obtain rfl := Option.some.inj hstep
      exact
        { depth := by
            rcases put_eq_some hput with rfl | ⟨hlen, hlt⟩
            · exact h.depth
            · exact hlen.trans_le hlt
          acks := hacks.trans_le (Nat.zero_le 1)
          left := by
            have hleft := h.left
            rw [hphase] at hleft
            exact (Nat.le_succ _).trans hleft
          round := by rintro (hphase | hphase) <;> cases hphase
          room := fun hne => absurd hacks hne }
  · -- no ACK, so as many ACKs are left as before
    next e todo hnot hphase =>
    obtain rfl := Option.some.inj hstep
    have hacks : s.phase.acks = (LinkPhase.callback todo).acks := by
      rw [hphase]
      refine List.countP_cons_of_neg ?_
      cases e with
      | linkWrite dstId buf => exact absurd rfl (hnot dstId buf)
      | _ => exact Bool.noConfusion
    exact
      { depth := h.depth
        acks := hacks.symm.trans_le h.acks
        left := by
          have hleft := h.left
          rw [hphase] at hleft
          exact (Nat.le_succ _).trans hleft
        round := by rintro (hphase | hphase) <;> cases hphase
        room := fun hne => h.room (hacks.trans_ne hne) }
  · cases hstep

/-- **One step.** A round begins with a free slot, because `k_msgq_get` takes a frame or finds none,
and the PHY operations and the end of the receive window leave the queue alone. -/
theorem SlotInv.step (h : SlotInv s) {x : TxAction} (hcond : KeepsSlot s x)
    (hstep : s.step deviceId x = some s') : SlotInv s' := by
  cases x with
  | write dstId seqId data =>
    unfold TxSystem.step at hstep
    dsimp only at hstep
    split at hstep
    · cases hstep
    · obtain rfl := Option.some.inj hstep
      exact h.same rfl rfl
  | writer =>
    unfold TxSystem.step at hstep
    dsimp only at hstep
    split at hstep
    · cases hstep
    · next p hp => exact h.writer hp hcond hstep
  | get =>
    unfold TxSystem.step at hstep
    dsimp only at hstep
    split at hstep
    · next hphase hnil =>
      obtain rfl := Option.some.inj hstep
      -- the queue is empty
      have hlt : s.txQueue.length < dectLinkLayerTxMsgQueueDepth := by
        rw [hnil]
        decide
      exact ⟨h.depth, Nat.zero_le 1, Nat.le_succ 6, fun _ => hlt, fun hne => absurd rfl hne⟩
    · next frame rest hphase hcons =>
      -- a slot becomes free
      obtain rfl := Option.some.inj hstep
      have hlt : rest.length < dectLinkLayerTxMsgQueueDepth := by
        have hdepth := h.depth
        rw [hcons] at hdepth
        exact hdepth
      exact ⟨hlt.le, Nat.zero_le 1, Nat.le_refl 7, fun _ => hlt, fun hne => absurd rfl hne⟩
    · cases hstep
  -- the slot of the round is kept while the radio transmits
  | txDone driver events =>
    unfold TxSystem.step at hstep
    dsimp only at hstep
    split at hstep
    · next hphase =>
      obtain rfl := Option.some.inj hstep
      exact ⟨h.depth, Nat.zero_le 1, Nat.le_succ 6, fun _ => h.round (Or.inl hphase),
        fun hne => absurd rfl hne⟩
    · cases hstep
  | rxDone now driver events beyond =>
    unfold TxSystem.step at hstep
    dsimp only at hstep
    split at hstep
    · next hphase =>
      -- the slot that the round has kept is there for the ACK, if there is one
      obtain rfl := Option.some.inj hstep
      obtain ⟨hqueue, htransmitting, hreceiving⟩ := handUp_spec deviceId now s driver events beyond
      have hleft := handUp_left_le deviceId now s driver events beyond
      refine ⟨hqueue ▸ h.depth, handUp_acks_le _ _ _ _ _ _, hleft.trans (by decide),
        fun hround => ?_, fun _ => ?_⟩
      · exact hround.elim (fun hr => absurd hr htransmitting) fun hr => absurd hr hreceiving
      · rw [hqueue]
        exact h.round (Or.inr hphase)
    · cases hstep
  | callback => exact h.callback hstep
  | release i =>
    obtain rfl := Option.some.inj hstep
    exact h.same rfl rfl

end Steps

/-! ### The suspended thread -/

/-- The callback is at an ACK that `k_msgq_put` has no slot for. This is the state that the
condition keeps the device out of. -/
def Suspended (deviceId : UInt32) (s : TxSystem) : Prop :=
  ∃ dstId buf todo, s.phase = .callback (.linkWrite dstId buf :: todo) ∧
    s.put deviceId (dstId, buf) = none

section Suspended

variable {deviceId : UInt32} {s s' : TxSystem}

/-- A put waits when it has a frame and the queue is full, and it waits as long as nothing is
taken. -/
theorem put_eq_none {x : LinkWrite} (h : s.put deviceId x = none) :
    dectLinkLayerTxMsgQueueDepth ≤ s.txQueue.length ∧
      ∀ t : TxSystem, t.link = s.link → t.txQueue = s.txQueue → t.put deviceId x = none := by
  have hfull : dectLinkLayerTxMsgQueueDepth ≤ s.txQueue.length := by
    unfold TxSystem.put at h
    split at h
    · cases h
    · split at h
      · cases h
      · next hlt => exact not_lt.mp hlt
  refine ⟨hfull, fun t hlink hqueue => ?_⟩
  have hput : t.put deviceId x = s.put deviceId x := by
    unfold TxSystem.put
    rw [hlink, hqueue]
  exact hput.trans h

/-- A suspended thread does nothing: its only step would be that put. -/
theorem Suspended.disabled (h : Suspended deviceId s) {x : TxAction} (hx : x.LinkThread) :
    s.step deviceId x = none := by
  obtain ⟨dstId, buf, todo, hphase, hput⟩ := h
  unfold TxSystem.step
  cases x with
  | write => exact absurd hx id
  | writer => exact absurd hx id
  | release => exact absurd hx id
  | callback =>
    dsimp only
    rw [hphase]
    dsimp only
    rw [hput]
  | _ =>
    dsimp only
    rw [hphase]

/-- What the router does meanwhile frees no slot, though it may go on with waits and resets. -/
theorem Suspended.writerStep (h : Suspended deviceId s) {p : Proc Errno LinkWrite Ret}
    (hstep : s.writerStep deviceId p = some s') : Suspended deviceId s' := by
  obtain ⟨dstId, buf, todo, hphase, hput⟩ := h
  -- that the ACK cannot be put means that the queue is full, and it is so until a frame is taken
  obtain ⟨hfull, hsame⟩ := put_eq_none hput
  cases p with
  | ret =>
    obtain rfl := Option.some.inj hstep
    exact ⟨dstId, buf, todo, hphase, hsame _ rfl rfl⟩
  | reset =>
    obtain rfl := Option.some.inj hstep
    exact ⟨dstId, buf, todo, hphase, hsame _ rfl rfl⟩
  | send x k =>
    unfold TxSystem.writerStep at hstep
    dsimp only at hstep
    split at hstep
    · cases hstep
    · next r queue hwrite =>
      -- a put that returned either failed its checks or found a slot
      obtain rfl := Option.some.inj hstep
      rcases put_eq_some hwrite with rfl | ⟨-, hlt⟩
      · exact ⟨dstId, buf, todo, hphase, hsame _ rfl rfl⟩
      · exact absurd hlt (not_lt.mpr hfull)
  | take =>
    unfold TxSystem.writerStep at hstep
    dsimp only at hstep
    split at hstep
    · obtain rfl := Option.some.inj hstep
      exact ⟨dstId, buf, todo, hphase, hsame _ rfl rfl⟩
    · obtain rfl := Option.some.inj hstep
      exact ⟨dstId, buf, todo, hphase, hsame _ rfl rfl⟩

/-- The thread stays suspended, whatever the router does. -/
theorem Suspended.step (h : Suspended deviceId s) {x : TxAction}
    (hstep : s.step deviceId x = some s') : Suspended deviceId s' := by
  -- the thread itself has no step while the queue is full
  by_cases hx : x.LinkThread
  · rw [h.disabled hx] at hstep
    cases hstep
  cases x with
  -- the router's own put waits as well, and a step of its call that is no put leaves the queue full
  | writer =>
    unfold TxSystem.step at hstep
    dsimp only at hstep
    split at hstep
    · cases hstep
    · exact h.writerStep hstep
  -- a call that begins puts nothing yet
  | write =>
    obtain ⟨dstId, buf, todo, hphase, hput⟩ := h
    unfold TxSystem.step at hstep
    dsimp only at hstep
    split at hstep
    · cases hstep
    · obtain rfl := Option.some.inj hstep
      exact ⟨dstId, buf, todo, hphase, (put_eq_none hput).2 _ rfl rfl⟩
  | release =>
    obtain ⟨dstId, buf, todo, hphase, hput⟩ := h
    obtain rfl := Option.some.inj hstep
    exact ⟨dstId, buf, todo, hphase, (put_eq_none hput).2 _ rfl rfl⟩
  | _ => exact absurd trivial hx

/-- **The suspension is permanent.** Once an ACK has found the queue full, no run of the device
makes the link-layer thread go on. -/
theorem suspended_forever (h : Suspended deviceId s) {C : TxSystem → TxAction → Prop}
    {xs : List TxAction} (hrun : Steps (TxSystem.step deviceId) C s xs s') {x : TxAction}
    (hx : x.LinkThread) : s'.step deviceId x = none := by
  have hs' : Suspended deviceId s' :=
    hrun.invariant (fun t a t' ht _ hstep => ht.step hstep) h
  exact hs'.disabled hx

end Suspended

/-! ### Runs -/

/-- The thread can go on unless an ACK finds the queue full. Its other steps never wait: the queue
is read without waiting, and a PHY operation ends. -/
theorem linkThread_enabled {deviceId : UInt32} {s : TxSystem} (h : AckHasRoom s) :
    ∃ x s', x.LinkThread ∧ s.step deviceId x = some s' := by
  cases hphase : s.phase with
  | get =>
    refine ⟨.get, ?_⟩
    unfold TxSystem.step
    dsimp only
    rw [hphase]
    cases s.txQueue with
    | nil => exact ⟨_, trivial, rfl⟩
    | cons => exact ⟨_, trivial, rfl⟩
  -- the end of an operation is an event of the modem, which may come at any time
  | transmitting =>
    refine ⟨.txDone .ok [], ?_⟩
    unfold TxSystem.step
    dsimp only
    rw [hphase]
    exact ⟨_, trivial, rfl⟩
  | receiving =>
    refine ⟨.rxDone 0 .ok [] fun _ => 0, ?_⟩
    unfold TxSystem.step
    dsimp only
    rw [hphase]
    exact ⟨_, trivial, rfl⟩
  | callback todo =>
    refine ⟨.callback, ?_⟩
    unfold TxSystem.step
    dsimp only
    rw [hphase]
    cases todo with
    | nil => exact ⟨_, trivial, rfl⟩
    | cons e todo =>
      cases e with
      | linkWrite dstId buf =>
        -- the only step that can wait
        obtain ⟨r, hr⟩ := exists_put (h dstId buf todo hphase) (dstId, buf)
        dsimp only
        rw [hr]
        exact ⟨_, trivial, rfl⟩
      | _ => exact ⟨_, trivial, rfl⟩

/-- What holds at the end of every run under the condition, by induction on the run. -/
theorem slotInv_of_steps {deviceId : UInt32}
    {callback : Option (TransportRxCallback DectTransportExt)} {xs : List TxAction} {s : TxSystem}
    (hrun : Steps (TxSystem.step deviceId) KeepsSlot (.init callback) xs s) : SlotInv s :=
  hrun.invariant (fun _ _ _ ht hcond hstep => ht.step hcond hstep) (.init callback)

/-- The invariant gives the property: an ACK that the callback has come to is one that it has still
to put. -/
theorem SlotInv.ackHasRoom {s : TxSystem} (h : SlotInv s) : AckHasRoom s := by
  intro dstId buf todo hphase
  refine h.room ?_
  rw [hphase]
  change (DectRxEffect.linkWrite dstId buf :: todo).countP DectRxEffect.isAck ≠ 0
  rw [List.countP_cons_of_pos (show DectRxEffect.isAck _ = true from rfl)]
  exact Nat.succ_ne_zero _

/-- The data frame that device 2 sends to device 1: one fragment, which is to be acknowledged. -/
def receivedData : List PhyEvent :=
  [.pdc (dectLinkLayerFrame 2 1 (dataFrameOf 5 [7] 0).toBytes), .completed 0]

/-- The four attempts at a frame, none of them acknowledged. Each is the reset of the semaphore, the
put and the wait, and then the call returns. -/
def unacknowledgedWrite (seqId : UInt16) : List TxAction :=
  .write 2 seqId [7] :: List.replicate 13 .writer

/-- Device 1 is in its receive operation while two calls of the router put seven frames, which
leaves one slot. The frame that is received then is to be acknowledged. -/
def sevenQueued : List TxAction :=
  .get :: (unacknowledgedWrite 6 ++ (unacknowledgedWrite 7).take 11 ++
    [.rxDone 0 .ok receivedData fun _ => 0, .callback, .callback])

section Waits

variable {deviceId : UInt32} {s s' : TxSystem}

/-- Every other step of the link-layer thread brings it nearer to its next `k_msgq_get`, which
leaves a free slot. -/
theorem linkThread_left (hdepth : s.txQueue.length ≤ dectLinkLayerTxMsgQueueDepth) {x : TxAction}
    (hx : x.LinkThread) (hstep : s.step deviceId x = some s') :
    s'.writer = s.writer ∧ s'.txQueue.length ≤ dectLinkLayerTxMsgQueueDepth ∧
      (s'.txQueue.length < dectLinkLayerTxMsgQueueDepth ∨ s'.phase.left < s.phase.left) := by
  unfold TxSystem.step at hstep
  cases x with
  | get =>
    -- a frame is taken, or there is none: either way a slot is free
    dsimp only at hstep
    split at hstep
    · next _ hnil =>
      obtain rfl := Option.some.inj hstep
      have hlt : s.txQueue.length < dectLinkLayerTxMsgQueueDepth := by
        rw [hnil]
        decide
      exact ⟨rfl, hdepth, Or.inl hlt⟩
    · next frame rest _ hcons =>
      obtain rfl := Option.some.inj hstep
      have hlt : rest.length < dectLinkLayerTxMsgQueueDepth := by
        rw [hcons] at hdepth
        exact hdepth
      exact ⟨rfl, hlt.le, Or.inl hlt⟩
    · cases hstep
  -- the transmission is over, and the receive window next
  | txDone driver events =>
    dsimp only at hstep
    split at hstep
    · next hphase =>
      obtain rfl := Option.some.inj hstep
      refine ⟨rfl, hdepth, Or.inr ?_⟩
      rw [hphase]
      exact Nat.lt_succ_self 6
    · cases hstep
  -- the window is over, and the callback has at most four effects and its return before it
  | rxDone now driver events beyond =>
    dsimp only at hstep
    split at hstep
    · next hphase =>
      obtain rfl := Option.some.inj hstep
      obtain ⟨hqueue, -, -⟩ := handUp_spec deviceId now s driver events beyond
      refine ⟨?_, hqueue ▸ hdepth, Or.inr ?_⟩
      · unfold TxSystem.handUp
        split <;> rfl
      · rw [hphase]
        exact Nat.lt_succ_of_le (handUp_left_le deviceId now s driver events beyond)
    · cases hstep
  | callback =>
    dsimp only at hstep
    split at hstep
    · next hphase =>
      obtain rfl := Option.some.inj hstep
      refine ⟨rfl, hdepth, Or.inr ?_⟩
      rw [hphase]
      exact Nat.zero_lt_one
    · -- an ACK that finds a slot brings the callback nearer to its return
      next dstId buf todo hphase =>
      split at hstep
      · cases hstep
      · next r queue hput =>
        obtain rfl := Option.some.inj hstep
        refine ⟨rfl, ?_, Or.inr ?_⟩
        · rcases put_eq_some hput with rfl | ⟨hlen, hlt⟩
          · exact hdepth
          · exact hlen.trans_le hlt
        · rw [hphase]
          exact Nat.lt_succ_self _
    · next e todo _ hphase =>
      obtain rfl := Option.some.inj hstep
      refine ⟨rfl, hdepth, Or.inr ?_⟩
      rw [hphase]
      exact Nat.lt_succ_self _
    · cases hstep
  | write => exact absurd hx id
  | writer => exact absurd hx id
  | release => exact absurd hx id

/-- Eight steps of the link-layer thread contain a `k_msgq_get`. The induction is on the run, the
measure being what the round has left. -/
theorem exists_free_slot {C : TxSystem → TxAction → Prop} (hC : ∀ t x, C t x → x.LinkThread)
    {ys : List TxAction} (h : Steps (TxSystem.step deviceId) C s ys s')
    (hdepth : s.txQueue.length ≤ dectLinkLayerTxMsgQueueDepth)
    (hleft : s.phase.left < ys.length) :
    ∃ before behind u, ys = before ++ behind ∧ Steps (TxSystem.step deviceId) C s before u ∧
      u.writer = s.writer ∧ u.txQueue.length < dectLinkLayerTxMsgQueueDepth := by
  induction h with
  | nil s => exact absurd hleft (Nat.not_lt_zero _)
  | @cons s t u x ys hx hstep _ ih =>
    obtain ⟨hwriter, hdepth', hfree | hless⟩ := linkThread_left hdepth (hC _ _ hx) hstep
    · exact ⟨[x], ys, t, rfl, .cons hx hstep (.nil t), hwriter, hfree⟩
    · rw [List.length_cons] at hleft
      obtain ⟨before, behind, v, rfl, hbefore, hsame, hfree⟩ := ih hdepth' (by omega)
      exact ⟨x :: before, behind, v, rfl, .cons hx hstep hbefore, hsame.trans hwriter, hfree⟩

/-- The link-layer thread returns from the callback, and makes two rounds without receiving: eight
steps in all. -/
def twoRounds : List TxAction :=
  [.callback, .get, .txDone .ok [], .rxDone 0 .ok [] fun _ => 0, .get, .txDone .ok [],
    .rxDone 0 .ok [] fun _ => 0, .get]

end Waits

end DectCommunicator
