import DectCommunicator.Dect.Receiver

/-!
# One write over a lossy channel

`dect_transport_layer_write` from one device to another, run to its end. The channel keeps the
order of the frames and answers before the ACK timeout, but it may lose any data frame and any ACK:
a `Channel` says, for every attempt of every fragment, whether the data frame arrives and whether
its return path is intact. Between the attempts the consumer of the receiver may release messages.

The run is `Proc.exec` of the write under `Channel.handler`. `attempt_spec` says what one attempt
does to both devices, and `exec_attempt` that the retry loop goes on exactly while no ACK arrives.
-/

namespace DectCommunicator

open Machine StopAndWait

/-! ### The channel -/

/-- What happens in attempt `a` of fragment `i`: whether the data frame reaches the receiver,
whether what the receiver answers reaches the source, at which uptime of the receiver, and which
messages its consumer releases before. -/
structure Channel where
  dataArrives : ℕ → ℕ → Bool
  ackReturns : ℕ → ℕ → Bool
  clock : ℕ → ℕ → UInt32
  releases : ℕ → ℕ → List ℕ
  beyond : ℕ → UInt8

/-- The two devices, the fragments put on the air so far, newest first, and whether some RECEIVING
context of the receiver had timed out when a data frame arrived. -/
structure Peers where
  source : Device
  receiver : Device
  sent : List ℕ
  expired : Bool

/-- The consumer of device `d` releases messages, those of the contexts listed; a context that holds
none is passed over. -/
def Device.releaseAll (d : UInt32) (dev : Device) (contexts : List ℕ) : Device :=
  runs (Device.step d) dev (contexts.map .release)

/-- The frame of fragment `i` goes on the air. The number of times it was sent before is the number
of this attempt, under which the channel is asked. -/
def Peers.onAir (ch : Channel) (srcId d : UInt32) (frame : List UInt8) (i : ℕ) (s : Peers) :
    Peers :=
  let a := s.sent.count i
  let receiver := s.receiver.releaseAll d (ch.releases i a)
  if ch.dataArrives i a then
    let r := receiver.receive d (ch.clock i a) frame ch.beyond
    { source :=
        if ch.ackReturns i a then
          r.2.foldl (fun dev ack => (dev.receive srcId (ch.clock i a) ack ch.beyond).1) s.source
        else s.source
      receiver := r.1
      sent := i :: s.sent
      expired := s.expired || receiver.transport.rxPool.contexts.any fun b =>
        b.timedOut (ch.clock i a) receiver.transport.rxPool.rxTimeoutMs }
  -- the data frame is lost, though the consumer has released its messages all the same
  else { s with receiver, sent := i :: s.sent }

/-- The effects of a write on device `srcId` to device `d`. Everything that an attempt causes
happens with its send, so the wait finds the semaphore as the answers left it. -/
def Channel.handler (ch : Channel) (srcId d : UInt32) : Handler Errno LinkWrite Peers where
  reset s := { s with source.transport.ackSem := 0 }
  send x s :=
    let r := dectLinkLayerWrite s.source.link srcId x.1 x.2
    match r.2 with
    -- refused by the link layer: nothing goes on the air
    | none => (r.1, s)
    | some frame =>
      (r.1, s.onAir ch srcId d frame (DectTransportLayerDataFrame.ofBytes x.2).fragIdx.toNat)
  take _ s :=
    if 0 < s.source.transport.ackSem then
      (.ok, { s with source.transport.ackSem := s.source.transport.ackSem - 1 })
    else (.err .eagain, s)

/-- The run of `dect_transport_layer_write`, from its call to its return. -/
def Peers.write (ch : Channel) (srcId d : UInt32) (seqId : UInt16) (data : List UInt8)
    (s : Peers) : Ret × Peers :=
  (dectTransportLayerWrite s.source.transport.initialized seqId d data).exec
    (ch.handler srcId d) s

/-! ### Releases -/

section Release

variable {callback : Option (TransportRxCallback DectTransportExt)} {d : UInt32} {dev : Device}

/-- What releases leave of a device: they touch REFERENCED contexts only, and make none
RECEIVING. -/
structure Released (dev dev' : Device) : Prop where
  delivered : dev'.delivered = dev.delivered
  keep : ∀ (j : ℕ) (b : DectTransportBuffer), dev.transport.rxPool.contexts[j]? = some b →
    b.state ≠ .referenced → dev'.transport.rxPool.contexts[j]? = some b
  back : ∀ (j : ℕ) (b : DectTransportBuffer), dev'.transport.rxPool.contexts[j]? = some b →
    b.state = .receiving → dev.transport.rxPool.contexts[j]? = some b

/-- No release at all. -/
theorem Released.refl (dev : Device) : Released dev dev :=
  ⟨rfl, fun _ _ hj _ => hj, fun _ _ hj _ => hj⟩

/-- One release after another. -/
theorem Released.trans {dev₁ dev₂ dev₃ : Device} (h : Released dev₁ dev₂)
    (h' : Released dev₂ dev₃) : Released dev₁ dev₃ :=
  ⟨h'.delivered.trans h.delivered, fun j b hj hb => h'.keep j b (h.keep j b hj hb) hb,
    fun j b hj hb => h.back j b (h'.back j b hj hb) hb⟩

/-- One release leaves what `Released` says, also when the context holds no message. -/
theorem step_release (d : UInt32) (dev : Device) (i : ℕ) :
    Released dev (dev.step d (.release i)).1 := by
  rw [Device.step]
  split
  · next c hi =>
    split
    · next hc =>
      refine ⟨rfl, fun j b hj hb => ?_, fun j b hj hb => ?_⟩
      · refine (unref_getElem?_of_ne dev.transport.rxPool ?_).trans hj
        -- The context that changed was REFERENCED, the other one was not.
        rintro rfl
        rw [hi] at hj
        exact hb (Option.some.inj hj ▸ hc)
      · exact (unref_receiving hi (ne_receiving_of_referenced hc) hj hb).2
    · exact .refl dev
  · exact .refl dev

/-- Any number of releases, one after another. -/
theorem released_releaseAll (d : UInt32) (dev : Device) (contexts : List ℕ) :
    Released dev (dev.releaseAll d contexts) := by
  induction contexts generalizing dev with
  | nil => exact .refl dev
  | cons i contexts ih => exact (step_release d dev i).trans (ih _)

/-- Releases are inputs of the device, so they keep its invariant. -/
theorem ReceiverInv.releaseAll (h : ReceiverInv callback dev) (is : List ℕ) :
    ReceiverInv callback (dev.releaseAll d is) :=
  runs_invariant (P := ReceiverInv callback) (C := fun _ => True) (fun _ x h _ => h.step x)
    (fun _ _ => trivial) h

end Release

/-! ### One attempt -/

/-- What both devices satisfy throughout. Nothing is assumed of the source but that it is a device:
it may have no callback. -/
structure Peers.Inv (callback : TransportRxCallback DectTransportExt) (s : Peers) : Prop where
  source : ∃ cb, ReceiverInv cb s.source
  receiver : ReceiverInv (some callback) s.receiver

/-- The state after the frame of fragment `i` was sent once more: the semaphore was reset before,
and it has not been taken yet. -/
def Peers.attempt (ch : Channel) (srcId d : UInt32) (seqId : UInt16) (data : List UInt8) (i : ℕ)
    (s : Peers) : Peers :=
  ((ch.handler srcId d).send (d, (dataFrameOf seqId data i).toBytes)
    ((ch.handler srcId d).reset s)).2

/-- What an attempt for fragment `i` does to the receiver and to the semaphore of the source. The
pool step is kept as a relation, since the result depends on what earlier attempts left. -/
inductive Attempt (ch : Channel) (srcId d : UInt32) (seqId : UInt16) (data : List UInt8) (i : ℕ)
    (s s' : Peers) : Prop
  | lost (harrives : ch.dataArrives i (s.sent.count i) = false)
      (hreceiver : s'.receiver = s.receiver.releaseAll d (ch.releases i (s.sent.count i)))
      (hsem : s'.source.transport.ackSem = 0)
  | arrived {q : TransportBufferPool DectTransportExt UInt32}
      {effects : List (RxEffect DectTransportExt)}
      (harrives : ch.dataArrives i (s.sent.count i) = true)
      (hpool : (s.receiver.releaseAll d (ch.releases i (s.sent.count i))).PoolStep
        (ch.clock i (s.sent.count i)) srcId (dataFrameOf seqId data i) q effects)
      (hq : s'.receiver.transport.rxPool = q)
      (hdelivered : s'.receiver.delivered = s.receiver.delivered ++ deliveriesOf effects)
      (hsem : 0 < s'.source.transport.ackSem ↔
        ch.ackReturns i (s.sent.count i) = true ∧ .ack ∈ effects)
      (hfresh : s'.expired = false → ∀ b ∈ (s.receiver.releaseAll d
          (ch.releases i (s.sent.count i))).transport.rxPool.contexts,
        b.timedOut (ch.clock i (s.sent.count i)) (s.receiver.releaseAll d
          (ch.releases i (s.sent.count i))).transport.rxPool.rxTimeoutMs = false)

section Attempt

variable {callback : TransportRxCallback DectTransportExt} {ch : Channel} {srcId d : UInt32}
  {seqId : UInt16} {data : List UInt8} {i : ℕ} {s : Peers}

/-- An ACK frame gives the semaphore of the source, up to its limit. -/
theorem receive_ack {cb : Option (TransportRxCallback DectTransportExt)} {dev : Device}
    (h : ReceiverInv cb dev) (now : UInt32) (a : DectTransportLayerDataFrameAck)
    (beyond : ℕ → UInt8) :
    (dev.receive srcId now (dectLinkLayerFrame d srcId a.toBytes) beyond).1.transport.ackSem =
      min (dev.transport.ackSem + 1) 1 := by
  rw [receive_dectLinkLayerFrame beyond h.ready (length_ack_le a), if_pos rfl, List.foldl_cons,
    List.foldl_nil]
  unfold Device.handUp
  dsimp only
  rw [prvOnDataLayerRx_ack]
  rfl

/-- The frames a receiver answers with give the semaphore, unless there are none. -/
theorem foldl_acks {cb : Option (TransportRxCallback DectTransportExt)} {dev : Device}
    (h : ReceiverInv cb dev) (now : UInt32) (beyond : ℕ → UInt8) {acks : List (List UInt8)}
    (hacks : ∀ frame ∈ acks, ∃ a : DectTransportLayerDataFrameAck,
      frame = dectLinkLayerFrame d srcId a.toBytes) :
    ReceiverInv cb (acks.foldl (fun dev ack => (dev.receive srcId now ack beyond).1) dev) ∧
      (0 < (acks.foldl (fun dev ack => (dev.receive srcId now ack beyond).1) dev).transport.ackSem ↔
        0 < dev.transport.ackSem ∨ acks ≠ []) := by
  induction acks generalizing dev with
  | nil => exact ⟨h, by simp⟩
  | cons frame acks ih =>
    obtain ⟨a, rfl⟩ := hacks frame List.mem_cons_self
    have hsem := @receive_ack srcId d cb dev h now a beyond
    obtain ⟨hinv, hpos⟩ := ih (h.receive now (dectLinkLayerFrame d srcId a.toBytes) beyond)
      fun f hf => hacks f (List.mem_cons_of_mem _ hf)
    refine ⟨hinv, hpos.trans ?_⟩
    rw [hsem]
    simp

/-- A frame goes back exactly when the reassembly step acknowledges. -/
theorem acksOf_ne_nil_iff {f : DectTransportLayerDataFrame}
    {effects : List (RxEffect DectTransportExt)} :
    acksOf d srcId f effects ≠ [] ↔ .ack ∈ effects := by
  constructor
  · intro h
    obtain ⟨frame, hframe⟩ := List.exists_mem_of_ne_nil _ h
    obtain ⟨e, he, hsome⟩ := List.mem_filterMap.mp hframe
    cases e with
    | ack => exact he
    | _ => cases hsome
  · intro h
    exact List.ne_nil_of_mem (List.mem_filterMap.mpr ⟨.ack, h, rfl⟩)

/-- The link layer takes the frame of a fragment and puts it on the air, under the index that the
frame itself carries. -/
theorem handler_send (h : s.Inv callback)
    (hle : data.length ≤ dectTransportLayerMaxRxBufferSizeBytes) (hi : i < fragCount data) :
    (ch.handler srcId d).send (d, (dataFrameOf seqId data i).toBytes)
        ((ch.handler srcId d).reset s) =
      (.ok, ((ch.handler srcId d).reset s).onAir ch srcId d
        (dectLinkLayerFrame srcId d (dataFrameOf seqId data i).toBytes) i) := by
  obtain ⟨cb, hsource⟩ := h.source
  have hidx : (DectTransportLayerDataFrame.ofBytes
      (dataFrameOf seqId data i).toBytes).fragIdx.toNat = i := by
    rw [DectTransportLayerDataFrame.ofBytes_toBytes]
    exact fragIdx_toNat hle hi.le
  have hwrite := dectLinkLayerWrite_eq hsource.ready srcId d
    (length_dataFrameOf_toBytes seqId data i)
  simp only [Channel.handler, hwrite, hidx]

/-- **One attempt.** It is lost or it arrives, it keeps the invariants, and it is recorded in
`sent`. -/
theorem attempt_spec (h : s.Inv callback)
    (hle : data.length ≤ dectTransportLayerMaxRxBufferSizeBytes) (hi : i < fragCount data) :
    Attempt ch srcId d seqId data i s (s.attempt ch srcId d seqId data i) ∧
      (s.attempt ch srcId d seqId data i).Inv callback ∧
      (s.attempt ch srcId d seqId data i).sent = i :: s.sent ∧
      ((ch.handler srcId d).send (d, (dataFrameOf seqId data i).toBytes)
        ((ch.handler srcId d).reset s)).1 = .ok := by
  obtain ⟨cb, hsource⟩ := h.source
  have hlen := length_dataFrameOf_toBytes seqId data i
  unfold Peers.attempt
  rw [handler_send h hle hi]
  -- resetting the semaphore keeps the sender in order
  have hreset : ReceiverInv cb ((ch.handler srcId d).reset s).source := { hsource with }
  have hreleased := h.receiver.releaseAll (d := d) (ch.releases i (s.sent.count i))
  dsimp only
  unfold Peers.onAir
  dsimp only
  split
  · next harrives =>
    -- the frame arrives, and what it does to the receiver is a reassembly step
    obtain ⟨q, effects, link, hpool, hlink, -, heq⟩ := @receive_data d srcId
      (ch.clock i (s.sent.count i)) (s.receiver.releaseAll d (ch.releases i (s.sent.count i)))
      (dataFrameOf seqId data i) ch.beyond hreleased.ready hlen
    obtain ⟨hback, hsem⟩ := @foldl_acks srcId d cb _ hreset (ch.clock i (s.sent.count i)) ch.beyond
      (acksOf d srcId (dataFrameOf seqId data i) effects) fun frame hframe => ⟨_, mem_acksOf hframe⟩
    rw [acksOf_ne_nil_iff] at hsem
    refine ⟨.arrived harrives hpool ?_ ?_ ?_ ?_, ⟨?_, ?_⟩, rfl, rfl⟩
    · -- what the step leaves in the receiver, taken apart
      exact congrArg (fun r => r.1.transport.rxPool) heq
    · rw [← (released_releaseAll d s.receiver (ch.releases i (s.sent.count i))).delivered]
      exact congrArg (fun r => r.1.delivered) heq
    · -- the semaphore was reset, so only an ACK of this attempt gives it
      have hzero : ¬ 0 < ((ch.handler srcId d).reset s).source.transport.ackSem := lt_irrefl 0
      split
      · next hreturns =>
        rw [show ((ch.handler srcId d).reset s).receiver = s.receiver from rfl,
          show ((ch.handler srcId d).reset s).sent = s.sent from rfl, heq]
        exact hsem.trans ⟨fun h => ⟨hreturns, h.resolve_left hzero⟩, fun h => Or.inr h.2⟩
      · next hreturns => exact ⟨fun h => absurd h hzero, fun h => absurd h.1 hreturns⟩
    · intro hexpired b hb
      exact eq_false_of_ne_true (List.any_eq_false.mp (Bool.or_eq_false_iff.mp hexpired).2 b hb)
    · split
      · rw [show ((ch.handler srcId d).reset s).receiver = s.receiver from rfl,
          show ((ch.handler srcId d).reset s).sent = s.sent from rfl, heq]
        exact ⟨cb, hback⟩
      · exact ⟨cb, hreset⟩
    · exact hreleased.receive _ _ _
  · next harrives =>
    refine ⟨.lost (eq_false_of_ne_true harrives) rfl rfl, ⟨⟨cb, hreset⟩, hreleased⟩, rfl, rfl⟩

/-- The receiver after an attempt, as a function of the one before. Where two runs are compared, the
relation `Attempt` would not be enough. -/
theorem attempt_receiver (h : s.Inv callback)
    (hle : data.length ≤ dectTransportLayerMaxRxBufferSizeBytes) (hi : i < fragCount data) :
    (s.attempt ch srcId d seqId data i).receiver =
      if ch.dataArrives i (s.sent.count i) then
        ((s.receiver.releaseAll d (ch.releases i (s.sent.count i))).receive d
          (ch.clock i (s.sent.count i))
          (dectLinkLayerFrame srcId d (dataFrameOf seqId data i).toBytes) ch.beyond).1
      else s.receiver.releaseAll d (ch.releases i (s.sent.count i)) := by
  unfold Peers.attempt
  rw [handler_send h hle hi]
  unfold Peers.onAir
  dsimp only
  split
  · next harrives => exact (if_pos harrives).symm
  · next harrives => exact (if_neg harrives).symm

/-! ### The retry loop -/

/-- The state after the wait of the source was answered: the semaphore is down again. -/
def Peers.taken (s : Peers) : Peers :=
  { s with source.transport.ackSem := s.source.transport.ackSem - 1 }

/-- The run of the retry loop for fragment `i` with `k` attempts left, `last` being returned when
there are none. -/
def Peers.retry (ch : Channel) (srcId d : UInt32) (seqId : UInt16) (data : List UInt8) (i k : ℕ)
    (last : Ret) (s : Peers) : Ret × Peers :=
  (sendWithRetry dectTransportLayerAckTimeoutMs (d, (dataFrameOf seqId data i).toBytes) k last).exec
    (ch.handler srcId d) s

/-- **The retry loop** makes an attempt, and another one unless the semaphore was given. A wait that
finds it down returns `-EAGAIN`, which is what the loop returns after the last attempt. -/
theorem retry_succ (h : s.Inv callback)
    (hle : data.length ≤ dectTransportLayerMaxRxBufferSizeBytes) (hi : i < fragCount data) (k : ℕ)
    (last : Ret) :
    s.retry ch srcId d seqId data i (k + 1) last =
      if 0 < (s.attempt ch srcId d seqId data i).source.transport.ackSem then
        (.ok, (s.attempt ch srcId d seqId data i).taken)
      else (s.attempt ch srcId d seqId data i).retry ch srcId d seqId data i k (.err .eagain) := by
  have hsend := @handler_send callback ch srcId d seqId data i s h hle hi
  unfold Peers.retry Peers.attempt
  rw [exec_sendWithRetry_succ, hsend]
  dsimp only
  generalize ((ch.handler srcId d).reset s).onAir ch srcId d
    (dectLinkLayerFrame srcId d (dataFrameOf seqId data i).toBytes) i = s'
  by_cases hsem : 0 < s'.source.transport.ackSem
  · have htake : (ch.handler srcId d).take dectTransportLayerAckTimeoutMs s' = (.ok, s'.taken) :=
      if_pos hsem
    rw [htake, if_pos hsem]
  · have htake : (ch.handler srcId d).take dectTransportLayerAckTimeoutMs s' =
        (.err .eagain, s') := if_neg hsem
    rw [htake, if_neg hsem]

/-- Taking the semaphore keeps the invariants, which do not mention it. -/
theorem Peers.Inv.taken (h : s.Inv callback) : s.taken.Inv callback := by
  obtain ⟨cb, hsource⟩ := h.source
  exact ⟨⟨cb, { hsource with }⟩, h.receiver⟩

end Attempt

/-- A context that timed out stays noticed, so a run in which none did has none in any part of
it. -/
theorem exec_expired {α : Type} {ch : Channel} {srcId d : UInt32} (p : Proc Errno LinkWrite α)
    {s : Peers} (h : (p.exec (ch.handler srcId d) s).2.expired = false) : s.expired = false := by
  -- `expired` is set and never reset, so the contrapositive is an invariant.
  by_contra hne
  have htrue : (p.exec (ch.handler srcId d) s).2.expired = true := by
    refine exec_invariant (P := fun s : Peers => s.expired = true) ?_ ?_ ?_ p
      (eq_true_of_ne_false hne)
    · exact fun s hs => hs
    · intro x s hs
      dsimp only [Channel.handler]
      split
      · exact hs
      · unfold Peers.onAir
        dsimp only
        split
        · exact Bool.or_eq_true_iff.mpr (Or.inl hs)
        · exact hs
    · intro t s hs
      dsimp only [Channel.handler]
      split <;> exact hs
  rw [h] at htrue
  cases htrue

section Rules

variable {callback : TransportRxCallback DectTransportExt} {ch : Channel} {srcId d : UInt32}
  {seqId : UInt16} {data : List UInt8} {i k : ℕ} {last : Ret} {s : Peers}

/-- **The rule for invariants of the retry loop.** What every attempt preserves holds at its end,
however many of the attempts were made. -/
theorem retry_invariant {J : Peers → Prop}
    (hle : data.length ≤ dectTransportLayerMaxRxBufferSizeBytes) (hi : i < fragCount data)
    (hstep : ∀ s s', s.Inv callback → J s → s'.expired = false →
      Attempt ch srcId d seqId data i s s' → J s') (htaken : ∀ s, J s → J s.taken)
    (hinv : s.Inv callback) (hJ : J s)
    (hexpired : (s.retry ch srcId d seqId data i k last).2.expired = false) :
    (s.retry ch srcId d seqId data i k last).2.Inv callback ∧
      J (s.retry ch srcId d seqId data i k last).2 := by
  induction k generalizing s last with
  | zero => exact ⟨hinv, hJ⟩
  | succ k ih =>
    obtain ⟨hattempt, hinv', -⟩ := @attempt_spec callback ch srcId d seqId data i s hinv hle hi
    rw [retry_succ hinv hle hi] at hexpired ⊢
    by_cases hsem : 0 < (s.attempt ch srcId d seqId data i).source.transport.ackSem
    · rw [if_pos hsem] at hexpired ⊢
      exact ⟨hinv'.taken, htaken _ (hstep _ _ hinv hJ hexpired hattempt)⟩
    · rw [if_neg hsem] at hexpired ⊢
      exact ih hinv' (hstep _ _ hinv hJ (exec_expired _ hexpired) hattempt) hexpired

/-- **The rule for the outcome of the retry loop.** `J a` holds before attempt `a`, and `A a` tells
whether that attempt is acknowledged; then the loop succeeds exactly if one of its attempts is, and
leaves what such an attempt leaves. -/
theorem retry_outcome {J : ℕ → Peers → Prop} {A : ℕ → Prop} {Q : Peers → Prop}
    (hle : data.length ≤ dectTransportLayerMaxRxBufferSizeBytes) (hi : i < fragCount data)
    (hstep : ∀ s s', s.Inv callback → J (s.sent.count i) s → s'.expired = false →
      s'.sent = i :: s.sent → s'.receiver = (s.attempt ch srcId d seqId data i).receiver →
      Attempt ch srcId d seqId data i s s' →
      (0 < s'.source.transport.ackSem ↔ A (s.sent.count i)) ∧ (A (s.sent.count i) → Q s') ∧
        (¬ A (s.sent.count i) → J (s.sent.count i + 1) s'))
    (hlast : k = 0 → last ≠ .ok) (hinv : s.Inv callback) (hJ : J (s.sent.count i) s)
    (hexpired : (s.retry ch srcId d seqId data i k last).2.expired = false) :
    ((s.retry ch srcId d seqId data i k last).1 = .ok ↔
      ∃ a, s.sent.count i ≤ a ∧ a < s.sent.count i + k ∧ A a) ∧
    ((s.retry ch srcId d seqId data i k last).1 = .ok →
      ∃ s', (s.retry ch srcId d seqId data i k last).2 = s'.taken ∧ s'.Inv callback ∧ Q s' ∧
        ∀ j, j ≠ i → s'.sent.count j = s.sent.count j) := by
  induction k generalizing s last with
  | zero =>
    refine ⟨⟨fun hok => absurd hok (hlast rfl), ?_⟩, fun hok => absurd hok (hlast rfl)⟩
    rintro ⟨a, hlow, hhigh, -⟩
    omega
  | succ k ih =>
    obtain ⟨hattempt, hinv', hsent, -⟩ :=
      @attempt_spec callback ch srcId d seqId data i s hinv hle hi
    -- an attempt counts for its own fragment only
    have hcount : ∀ j, j ≠ i →
        (s.attempt ch srcId d seqId data i).sent.count j = s.sent.count j :=
      fun j hj => by rw [hsent, List.count_cons_of_ne hj.symm]
    rw [retry_succ hinv hle hi] at hexpired ⊢
    by_cases hsem : 0 < (s.attempt ch srcId d seqId data i).source.transport.ackSem
    · -- this attempt is acknowledged: the loop ends with it
      rw [if_pos hsem] at hexpired ⊢
      obtain ⟨hiff, hQ, -⟩ := hstep s (s.attempt ch srcId d seqId data i) hinv hJ hexpired hsent rfl
        hattempt
      have hA := hiff.mp hsem
      exact ⟨⟨fun _ => ⟨_, le_refl _, Nat.lt_add_of_pos_right (Nat.succ_pos k), hA⟩, fun _ => rfl⟩,
        fun _ => ⟨_, rfl, hinv', hQ hA, hcount⟩⟩
    · -- this attempt is not acknowledged, so it is one of the others that has to be
      rw [if_neg hsem] at hexpired ⊢
      obtain ⟨hiff, -, hnext⟩ := hstep s _ hinv hJ (exec_expired _ hexpired) hsent rfl hattempt
      have hA : ¬ A (s.sent.count i) := fun h => hsem (hiff.mpr h)
      have hself : (s.attempt ch srcId d seqId data i).sent.count i = s.sent.count i + 1 := by
        rw [hsent, List.count_cons_self]
      obtain ⟨hok, hpost⟩ := ih (fun _ h => by cases h) hinv' (by rw [hself]; exact hnext hA) hexpired
      rw [hself] at hok
      refine ⟨hok.trans ⟨?_, ?_⟩, fun h => ?_⟩
      · rintro ⟨a, hlow, hhigh, ha⟩
        exact ⟨a, by omega, by omega, ha⟩
      · rintro ⟨a, hlow, hhigh, ha⟩
        refine ⟨a, Nat.lt_of_le_of_ne hlow ?_, by omega, ha⟩
        rintro rfl
        exact hA ha
      · obtain ⟨s', hs', hinvs, hQ, hothers⟩ := hpost h
        exact ⟨s', hs', hinvs, hQ, fun j hj => (hothers j hj).trans (hcount j hj)⟩

end Rules

end DectCommunicator
