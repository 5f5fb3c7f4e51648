import DectCommunicator.Dect.RoundTrip
import DectCommunicator.Dect.BoundedLoss

/-!
# The receive timeout against the retry budget

A write over a lossy channel with a clock in milliseconds. The devices are those of
`Dect/LossyTransfer.lean`; a wait that is not answered takes the whole ACK timeout, and everything
else takes no time. For every attempt the run records whether the receiver's context has timed out
and how long ago the receiver accepted the fragment before.

The receiver's timer starts at the first arrival of a fragment (`Channel.arrival`), and the
attempts at the next fragment start when the sender sees an ACK (`Channel.lastAttempt`), up to three
timeouts later. With `g` timeouts between the two, attempt `a` at the next fragment is made `g + a`
timeouts after the receiver last accepted something, and four of them are the receive timeout
(`LoopInv.attempt`). So the receiver is still there when the next fragment first arrives in attempt
`a` exactly if `g + a < 4` (`receiver_waits_iff`).
-/

namespace DectCommunicator

open Machine StopAndWait

/-! ### The clock -/

/-- What is recorded of an attempt: its fragment, whether the receiver's context for the message has
timed out, and the time since the receiver accepted the fragment before. -/
structure AttemptRecord where
  fragIdx : ℕ
  expired : Bool
  sinceAccepted : Option ℕ
deriving DecidableEq, Repr

/-- The two devices, the milliseconds since the call began, and two histories: when the receiver
accepted each fragment, and the attempts that have been made. -/
structure TimedPeers where
  peers : Peers
  nowMs : ℕ
  acceptedMs : ℕ → Option ℕ
  attempts : List AttemptRecord

/-- The channel while the receiver's uptime is `t`: the uptime follows the milliseconds of the run
instead of being free. -/
def Channel.atUptime (ch : Channel) (t : UInt32) : Channel := { ch with clock := fun _ _ => t }

/-- The receiver's uptime; the call began at `start`. -/
def TimedPeers.uptime (start : UInt32) (s : TimedPeers) : UInt32 := start + UInt32.ofNat s.nowMs

/-- Some context under the key of the fragment has timed out. The next lookup would release it. -/
def contextExpired (now srcId : UInt32) (f : Fragment)
    (p : TransportBufferPool DectTransportExt UInt32) : Bool :=
  p.contexts.any fun b =>
    p.isMatch f.seqId f.totalSizeBytes.toNat f.fragTotal (some srcId) b && b.timedOut now p.rxTimeoutMs

/-- The result means that the fragment was accepted, and so that the timer was started again. -/
def TransportBufferWriteRet.accepts (ret : TransportBufferWriteRet) : Bool :=
  ret = .success || ret = .complete

/-- The receiver accepts fragment `i` in the attempt that is due. Only the write function knows, so
its result is looked at. -/
def TimedPeers.accepts (ch : Channel) (d start : UInt32) (frame : Option (List UInt8)) (i : ℕ)
    (s : TimedPeers) : Bool :=
  match frame with
  | none => false
  | some frame =>
    let a := s.peers.sent.count i
    ch.dataArrives i a &&
      (((s.peers.receiver.releaseAll d (ch.releases i a)).effects d (s.uptime start) frame
        ch.beyond).filterMap DectRxEffect.ret).any TransportBufferWriteRet.accepts

/-- The record of the attempt that is due, made before the frame is sent. -/
def TimedPeers.record (srcId start : UInt32) (f : DectTransportLayerDataFrame) (s : TimedPeers) :
    AttemptRecord where
  fragIdx := f.fragIdx.toNat
  expired := contextExpired (s.uptime start) srcId f.fragment s.peers.receiver.transport.rxPool
  sinceAccepted :=
    match f.fragIdx.toNat with
    | 0 => none
    | j + 1 => (s.acceptedMs j).map fun t => s.nowMs - t

/-- The effects of a write, with the time they take. The wait is the only effect that takes any, and
only when it is not answered. -/
def Channel.timedHandler (ch : Channel) (srcId d start : UInt32) :
    Handler Errno LinkWrite TimedPeers where
  reset s := { s with peers := (ch.handler srcId d).reset s.peers }
  send x s :=
    let f := DectTransportLayerDataFrame.ofBytes x.2
    let r := ((ch.atUptime (s.uptime start)).handler srcId d).send x s.peers
    let frame := (dectLinkLayerWrite s.peers.source.link srcId x.1 x.2).2
    (r.1,
      { peers := r.2
        nowMs := s.nowMs
        acceptedMs :=
          if s.accepts ch d start frame f.fragIdx.toNat then
            Function.update s.acceptedMs f.fragIdx.toNat (some s.nowMs)
          else s.acceptedMs
        attempts := s.attempts ++ [s.record srcId start f] })
  take t s :=
    let r := (ch.handler srcId d).take t s.peers
    (r.1, { s with peers := r.2, nowMs := if r.1 = .ok then s.nowMs else s.nowMs + t })

/-- The run of `dect_transport_layer_write`, from its call. -/
def Peers.timedWrite (ch : Channel) (srcId d start : UInt32) (seqId : UInt16) (data : List UInt8)
    (s : Peers) : Ret × TimedPeers :=
  (dectTransportLayerWrite s.source.transport.initialized seqId d data).exec
    (ch.timedHandler srcId d start) ⟨s, 0, fun _ => none, []⟩

/-! ### The property -/

/-- At no attempt for a fragment after the first has the receiver's context timed out. -/
def ContextKept (attempts : List AttemptRecord) : Prop :=
  ∀ x ∈ attempts, 0 < x.fragIdx → x.expired = false

/-- At every attempt less than the receive timeout has passed since the receiver accepted the
fragment before. -/
def WithinRxTimeout (attempts : List AttemptRecord) : Prop :=
  ∀ x ∈ attempts, ∀ t, x.sinceAccepted = some t → t < dectTransportLayerRxTimeoutMs

instance (attempts : List AttemptRecord) : Decidable (ContextKept attempts) := by
  unfold ContextKept
  infer_instance

/-! ### The losses -/

/-- The first attempt at fragment `i` whose data frame arrives. -/
def Channel.arrival (ch : Channel) (i : ℕ) : ℕ :=
  (List.range dectTransportLayerTxAttempts).findIdx (ch.dataArrives i)

/-- Attempt `a` at fragment `i` of `count` is answered: both paths are intact, and of the last
fragment only the first arrival is acknowledged. -/
def Channel.answered (ch : Channel) (count i a : ℕ) : Bool :=
  ch.dataArrives i a && ch.ackReturns i a && (i + 1 < count || a = ch.arrival i)

/-- The last attempt at fragment `i` of `count`: the first one that is answered, if any is. -/
def Channel.lastAttempt (ch : Channel) (count i : ℕ) : ℕ :=
  min ((List.range dectTransportLayerTxAttempts).findIdx (ch.answered count i))
    (dectTransportLayerTxAttempts - 1)

section Losses

variable {p : ℕ → Bool} {n a : ℕ}

/-- A number below `n` with the property is found below `n`. -/
theorem findIdx_range_lt (h : ∃ a < n, p a = true) : (List.range n).findIdx p < n := by
  obtain ⟨a, ha, hp⟩ := h
  have hlt := List.findIdx_lt_length.mpr ⟨a, List.mem_range.mpr ha, hp⟩
  rwa [List.length_range] at hlt

/-- What is found below `n` has the property. -/
theorem findIdx_range_spec (h : (List.range n).findIdx p < n) :
    p ((List.range n).findIdx p) = true := by
  have hlt : (List.range n).findIdx p < (List.range n).length := by
    rw [List.length_range]
    exact h
  have hp : p (List.range n)[(List.range n).findIdx p] = true := List.findIdx_getElem
  rwa [List.getElem_range] at hp

/-- Nothing before the first one has the property. -/
theorem of_lt_findIdx_range (h : a < (List.range n).findIdx p) : p a = false := by
  have hp := List.not_of_lt_findIdx h
  rwa [List.getElem_range] at hp

/-- The first one is not after any other. -/
theorem findIdx_range_le (hp : p a = true) : (List.range n).findIdx p ≤ a := by
  by_contra h
  rw [of_lt_findIdx_range (not_le.mp h)] at hp
  cases hp

end Losses

/-! ### The timer of the receiver -/

/-- The time that has passed between two uptimes, also when the 32 bits have wrapped in between. -/
theorem uptime_sub (start : UInt32) (t x : ℕ) :
    start + UInt32.ofNat (t + x) - (start + UInt32.ofNat t) = UInt32.ofNat x := by
  rw [UInt32.ofNat_add, ← UInt32.add_assoc, UInt32.add_comm, UInt32.add_sub_cancel]

/-- Four timeouts of the sender are the timeout of the receiver. Eight is more than any wait between
two fragments, so nothing wraps. -/
theorem ackTimeouts_lt_iff {k : ℕ} (hk : k ≤ 8) :
    UInt32.ofNat (dectTransportLayerAckTimeoutMs * k) < UInt32.ofNat dectTransportLayerRxTimeoutMs ↔
      k < dectTransportLayerTxAttempts := by
  have hack : dectTransportLayerAckTimeoutMs = 2500 := rfl
  have hrx : dectTransportLayerRxTimeoutMs = 10000 := rfl
  have htx : dectTransportLayerTxAttempts = 4 := rfl
  have hlt : 2500 * k < UInt32.size := lt_of_le_of_lt (Nat.mul_le_mul_left 2500 hk) (by decide)
  rw [hack, hrx, htx, UInt32.lt_iff_toNat_lt, UInt32.toNat_ofNat_of_lt' hlt,
    UInt32.toNat_ofNat_of_lt' (by decide)]
  omega

section Expired

variable {now srcId : UInt32} {m : Message} {p : TransportBufferPool DectTransportExt UInt32} {k : ℕ}

/-- Without a context under the key none has timed out. -/
theorem contextExpired_of_unmatched
    (hkey : Keyed p.additionalQueryCb (some srcId) (fun ext => { ext with srcId := srcId }) ⟨srcId⟩)
    (h : Unmatched ⟨srcId⟩ m p) : contextExpired now srcId (m.fragment k) p = false := by
  refine List.any_eq_false.mpr fun b hb hexpired => ?_
  have hm := (isMatch_iff_matches hkey).mp (Bool.and_eq_true_iff.mp hexpired).1
  exact h b hb (hm.fragment 0)

/-- The context of the message is the only one under its key, so it alone decides. -/
theorem contextExpired_of_tracks {whole : List UInt8} {i : ℕ} {t : UInt32}
    (hkey : Keyed p.additionalQueryCb (some srcId) (fun ext => { ext with srcId := srcId }) ⟨srcId⟩)
    (hunique : KeyUnique p) (h : Tracks ⟨srcId⟩ m whole i t p) :
    contextExpired now srcId (m.fragment k) p = decide (p.rxTimeoutMs ≤ now - t) := by
  obtain ⟨j, b, hj, hb, rfl⟩ := h
  have hm := hb.key.fragment k
  -- the context is RECEIVING, so it has timed out if its time is over
  have htimed : b.timedOut now p.rxTimeoutMs = decide (p.rxTimeoutMs ≤ now - b.lastRxTimeMs) := by
    unfold TransportBuffer.timedOut
    rw [decide_eq_true hm.receiving, Bool.true_and]
  rw [← htimed, Bool.eq_iff_iff]
  constructor
  · -- a context with this key that has timed out is the one that is tracked, by the uniqueness of
    -- the key
    intro hany
    obtain ⟨c, hc, hboth⟩ := List.any_eq_true.mp hany
    obtain ⟨hmatch, hc'⟩ := Bool.and_eq_true_iff.mp hboth
    obtain ⟨l, hl⟩ := List.getElem?_of_mem hc
    obtain rfl := hunique l j c b ⟨srcId⟩ _ hl hj ((isMatch_iff_matches hkey).mp hmatch) hm
    rw [hj] at hl
    obtain rfl := Option.some.inj hl
    exact hc'
  · intro hb'
    exact List.any_eq_true.mpr ⟨b, List.mem_of_getElem? hj,
      Bool.and_eq_true_iff.mpr ⟨(isMatch_iff_matches hkey).mpr hm, hb'⟩⟩

end Expired

/-! ### The receiver in the course of one fragment -/

section Fragment

variable {srcId d start : UInt32} {seqId : UInt16} {data : List UInt8} {hpos : 0 < data.length}
  {hle : data.length ≤ dectTransportLayerMaxRxBufferSizeBytes} {c : ℕ}

/-- Fragment `c` has not been accepted, and the one before was at `t₀`. -/
inductive BeforeFragment (srcId start : UInt32) (seqId : UInt16) (data : List UInt8)
    (hpos : 0 < data.length) (hle : data.length ≤ dectTransportLayerMaxRxBufferSizeBytes) (c t₀ : ℕ)
    (p : TransportBufferPool DectTransportExt UInt32) : Prop
  | first (hc : c = 0) (hnone : Unmatched ⟨srcId⟩ (dectMessage seqId data hpos hle) p)
      (hfree : ∃ b ∈ p.contexts, b.state = .free)
  | next (hc : 1 ≤ c)
      (h : Tracks ⟨srcId⟩ (dectMessage seqId data hpos hle) data c (start + UInt32.ofNat t₀) p)

/-- Fragment `c` was accepted at `t₁`; the last fragment completed the message. -/
inductive AfterFragment (srcId start : UInt32) (seqId : UInt16) (data : List UInt8)
    (hpos : 0 < data.length) (hle : data.length ≤ dectTransportLayerMaxRxBufferSizeBytes) (c t₁ : ℕ)
    (p : TransportBufferPool DectTransportExt UInt32) : Prop
  | middle (hc : c + 1 < fragCount data)
      (h : Tracks ⟨srcId⟩ (dectMessage seqId data hpos hle) data (c + 1) (start + UInt32.ofNat t₁) p)
  | last (hc : c + 1 = fragCount data) (hnot : 1 ≤ c)
      (h : Unmatched ⟨srcId⟩ (dectMessage seqId data hpos hle) p)

/-- A release changes nothing while the fragment is still to come. -/
theorem BeforeFragment.released {t₀ : ℕ} {dev dev' : Device} (hrel : Released dev dev')
    (h : BeforeFragment srcId start seqId data hpos hle c t₀ dev.transport.rxPool) :
    BeforeFragment srcId start seqId data hpos hle c t₀ dev'.transport.rxPool := by
  cases h with
  | first hc hnone hfree =>
    obtain ⟨b, hb, hst⟩ := hfree
    obtain ⟨j, hj⟩ := List.getElem?_of_mem hb
    refine .first hc (hnone.released hrel) ⟨b, List.mem_of_getElem? (hrel.keep j b hj ?_), hst⟩
    rw [hst]
    exact fun h => by cases h
  | next hc h => exact .next hc (h.released hrel)

/-- A release changes nothing once the fragment has been accepted, even when it gives up the very
message. -/
theorem AfterFragment.released {t₁ : ℕ} {dev dev' : Device} (hrel : Released dev dev')
    (h : AfterFragment srcId start seqId data hpos hle c t₁ dev.transport.rxPool) :
    AfterFragment srcId start seqId data hpos hle c t₁ dev'.transport.rxPool := by
  cases h with
  | middle hc h => exact .middle hc (h.released hrel)
  | last hc hnot h => exact .last hc hnot (h.released hrel)

variable {callback : Option (TransportRxCallback DectTransportExt)}
  {p q : TransportBufferPool DectTransportExt UInt32}
  {effects : List (RxEffect DectTransportExt)} {k : ℕ}

/-- The results among the effects contain an acceptance; there is at most one result. -/
def acceptsOf (effects : List (RxEffect DectTransportExt)) : Bool :=
  (retsOf effects).any TransportBufferWriteRet.accepts

/-- **The first arrival** within the timeout is accepted and acknowledged, and it starts the timer
again. -/
theorem BeforeFragment.step {t₀ : ℕ}
    (h : BeforeFragment srcId start seqId data hpos hle c t₀ p)
    (hstep : DataFrameStep callback (some srcId) (fun ext => { ext with srcId := srcId })
      (start + UInt32.ofNat (t₀ + dectTransportLayerAckTimeoutMs * k))
      ((dectMessage seqId data hpos hle).fragment c) p q effects)
    (hinv : PoolInv p) (hunique : KeyUnique p)
    (hkey : Keyed p.additionalQueryCb (some srcId) (fun ext => { ext with srcId := srcId }) ⟨srcId⟩)
    (htimeout : p.rxTimeoutMs = UInt32.ofNat dectTransportLayerRxTimeoutMs)
    (hk : k < dectTransportLayerTxAttempts) (hc : c < fragCount data) (htwo : 2 ≤ fragCount data) :
    .ack ∈ effects ∧ acceptsOf effects = true ∧
      AfterFragment srcId start seqId data hpos hle c (t₀ + dectTransportLayerAckTimeoutMs * k) q := by
  -- fewer than four ACK timeouts have passed since the fragment before
  have hawaits : Awaits (some srcId) (fun ext => { ext with srcId := srcId }) ⟨srcId⟩
      (dectMessage seqId data hpos hle) data c c
      (start + UInt32.ofNat (t₀ + dectTransportLayerAckTimeoutMs * k)) p := by
    cases h with
    | first hc hnone hfree =>
      subst hc
      exact awaits_of_free hinv hkey (fun b hb _ => hnone b hb) hfree
    | next _ h =>
      refine h.awaits hunique hkey ?_ c
      rw [uptime_sub, htimeout]
      exact (ackTimeouts_lt_iff (hk.le.trans (by decide))).mpr hk
  cases hstep.fragmentOutcome hawaits hinv hunique hkey hc with
  -- the context expects this very fragment, so it is neither repeated nor out of order
  | duplicate hlt => exact absurd hlt (lt_irrefl c)
  | outOfOrder hlt => exact absurd hlt (lt_irrefl c)
  | overrun _ hlen => exact absurd hlen (lt_irrefl _)
  | success _ hlast _ h => exact ⟨by simp, rfl, .middle hlast h⟩
  | invalidFinalSize _ _ hlen => exact absurd rfl hlen
  | complete _ hlast _ _ _ _ hgone =>
    have hlast : c + 1 = fragCount data := hlast
    exact ⟨by simp, rfl, .last hlast (by omega) hgone⟩

/-- **A repetition** is acknowledged unless the message is complete. It is not accepted, so it does
not start the timer again. -/
theorem AfterFragment.step {t₁ : ℕ} (h : AfterFragment srcId start seqId data hpos hle c t₁ p)
    (hstep : DataFrameStep callback (some srcId) (fun ext => { ext with srcId := srcId })
      (start + UInt32.ofNat (t₁ + dectTransportLayerAckTimeoutMs * k))
      ((dectMessage seqId data hpos hle).fragment c) p q effects)
    (hinv : PoolInv p) (hunique : KeyUnique p)
    (hkey : Keyed p.additionalQueryCb (some srcId) (fun ext => { ext with srcId := srcId }) ⟨srcId⟩)
    (htimeout : p.rxTimeoutMs = UInt32.ofNat dectTransportLayerRxTimeoutMs)
    (hk : k < dectTransportLayerTxAttempts) (hc : c < fragCount data) :
    (.ack ∈ effects ↔ c + 1 < fragCount data) ∧ acceptsOf effects = false ∧
      AfterFragment srcId start seqId data hpos hle c t₁ q := by
  cases h with
  -- the message is not complete: the context is younger than the timeout, and the fragment a
  -- duplicate
  | middle hlast h =>
    have hfresh : start + UInt32.ofNat (t₁ + dectTransportLayerAckTimeoutMs * k) -
        (start + UInt32.ofNat t₁) < p.rxTimeoutMs := by
      rw [uptime_sub, htimeout]
      exact (ackTimeouts_lt_iff (hk.le.trans (by decide))).mpr hk
    obtain ⟨rfl, hq⟩ := hstep.repetition h hinv hunique hkey hfresh (Nat.lt_succ_self c) hc
    exact ⟨⟨fun _ => hlast, fun _ => by simp⟩, rfl, .middle hlast hq⟩
  -- it is complete: no context is left under the key, and a fragment that is not the first opens
  -- none
  | last hlast hnot h =>
    obtain ⟨rfl, hq⟩ := h.step hstep hkey hnot hc
    exact ⟨⟨fun hmem => absurd hmem List.not_mem_nil, fun hlt => absurd hlast hlt.ne⟩, rfl,
      .last hlast hnot hq⟩

end Fragment

/-! ### One attempt -/

/-- What precedes attempt `a` at fragment `c`: the fragment before was accepted at `t₀`, and `g`
timeouts have passed since then without attempts at this one. -/
structure LoopInv (callback : TransportRxCallback DectTransportExt) (ch : Channel)
    (srcId start : UInt32) (seqId : UInt16) (data : List UInt8) (hpos : 0 < data.length)
    (hle : data.length ≤ dectTransportLayerMaxRxBufferSizeBytes) (c g t₀ a : ℕ) (s : TimedPeers) :
    Prop where
  inv : s.peers.Inv callback
  sent : s.peers.sent.count c = a
  later : ∀ j, c < j → s.peers.sent.count j = 0
  now : s.nowMs = t₀ + dectTransportLayerAckTimeoutMs * (g + a)
  accepted : ∀ j, c = j + 1 → s.acceptedMs j = some t₀
  before : a ≤ ch.arrival c →
    BeforeFragment srcId start seqId data hpos hle c t₀ s.peers.receiver.transport.rxPool
  after : ch.arrival c < a →
    s.acceptedMs c = some (t₀ + dectTransportLayerAckTimeoutMs * (g + ch.arrival c)) ∧
    AfterFragment srcId start seqId data hpos hle c
      (t₀ + dectTransportLayerAckTimeoutMs * (g + ch.arrival c)) s.peers.receiver.transport.rxPool

/-- The state after the frame of fragment `c` was sent once more. -/
def TimedPeers.attempt (ch : Channel) (srcId d start : UInt32) (seqId : UInt16) (data : List UInt8)
    (c : ℕ) (s : TimedPeers) : TimedPeers :=
  ((ch.timedHandler srcId d start).send (d, (dataFrameOf seqId data c).toBytes)
    ((ch.timedHandler srcId d start).reset s)).2

/-- The state after the wait was answered, which takes no time. -/
def TimedPeers.taken (s : TimedPeers) : TimedPeers := { s with peers := s.peers.taken }

/-- The state after the wait has timed out: the whole ACK timeout has passed. -/
def TimedPeers.waited (s : TimedPeers) : TimedPeers :=
  { s with nowMs := s.nowMs + dectTransportLayerAckTimeoutMs }

/-- The run of the retry loop for fragment `c` with `k` attempts left, with the time it takes. -/
def TimedPeers.retry (ch : Channel) (srcId d start : UInt32) (seqId : UInt16) (data : List UInt8)
    (c k : ℕ) (last : Ret) (s : TimedPeers) : Ret × TimedPeers :=
  (sendWithRetry dectTransportLayerAckTimeoutMs (d, (dataFrameOf seqId data c).toBytes) k last).exec
    (ch.timedHandler srcId d start) s

/-- The frame that the link layer puts on the air for fragment `c`, the same in each attempt. -/
def airFrame (srcId d : UInt32) (seqId : UInt16) (data : List UInt8) (c : ℕ) : List UInt8 :=
  dectLinkLayerFrame srcId d (dataFrameOf seqId data c).toBytes

section Attempt

variable {callback : TransportRxCallback DectTransportExt} {ch : Channel} {srcId d start : UInt32}
  {seqId : UInt16} {data : List UInt8} {hpos : 0 < data.length}
  {hle : data.length ≤ dectTransportLayerMaxRxBufferSizeBytes} {c g t₀ a k : ℕ} {s : TimedPeers}

/-- What an attempt does to the devices and to the histories. The devices are those of the untimed
run with the receiver's uptime fixed, so its lemmas apply. -/
theorem timedAttempt_eq (h : s.peers.Inv callback)
    (hle : data.length ≤ dectTransportLayerMaxRxBufferSizeBytes) (hc : c < fragCount data) :
    s.attempt ch srcId d start seqId data c =
      { peers := s.peers.attempt (ch.atUptime (s.uptime start)) srcId d seqId data c
        nowMs := s.nowMs
        acceptedMs :=
          if s.accepts ch d start (some (airFrame srcId d seqId data c)) c then
            Function.update s.acceptedMs c (some s.nowMs)
          else s.acceptedMs
        attempts := s.attempts ++ [s.record srcId start (dataFrameOf seqId data c)] } := by
  obtain ⟨cb, hsource⟩ := h.source
  -- the link layer is ready, and so puts the frame into the queue; its time is the uptime of the
  -- run
  have hwrite := dectLinkLayerWrite_eq hsource.ready srcId d
    (length_dataFrameOf_toBytes seqId data c)
  have hidx : (dataFrameOf seqId data c).fragIdx.toNat = c := fragIdx_toNat hle hc.le
  unfold TimedPeers.attempt Channel.timedHandler
  dsimp only
  rw [DectTransportLayerDataFrame.ofBytes_toBytes, hidx]
  have hframe : (dectLinkLayerWrite ((ch.handler srcId d).reset s.peers).source.link srcId d
      (dataFrameOf seqId data c).toBytes).2 = some (airFrame srcId d seqId data c) :=
    congrArg Prod.snd hwrite
  rw [hframe]
  rfl

/-- **The retry loop** makes an attempt, and another one a timeout later unless the semaphore was
given. It is `retry_succ` with the clock. -/
theorem timedRetry_succ (h : s.peers.Inv callback)
    (hle : data.length ≤ dectTransportLayerMaxRxBufferSizeBytes) (hc : c < fragCount data) (k : ℕ)
    (last : Ret) :
    s.retry ch srcId d start seqId data c (k + 1) last =
      if 0 < (s.attempt ch srcId d start seqId data c).peers.source.transport.ackSem then
        (.ok, (s.attempt ch srcId d start seqId data c).taken)
      else (s.attempt ch srcId d start seqId data c).waited.retry ch srcId d start seqId data c k
        (.err .eagain) := by
  -- the link layer has taken the frame, so the loop goes on to wait for the ACK
  have hok : ((ch.timedHandler srcId d start).send (d, (dataFrameOf seqId data c).toBytes)
      ((ch.timedHandler srcId d start).reset s)).1 = .ok :=
    (@attempt_spec callback (ch.atUptime (s.uptime start)) srcId d seqId data c s.peers h hle hc).2.2.2
  unfold TimedPeers.retry
  rw [exec_sendWithRetry_succ]
  have hsend : (ch.timedHandler srcId d start).send (d, (dataFrameOf seqId data c).toBytes)
      ((ch.timedHandler srcId d start).reset s) =
      (.ok, s.attempt ch srcId d start seqId data c) := Prod.ext hok rfl
  rw [hsend]
  dsimp only
  generalize s.attempt ch srcId d start seqId data c = s'
  -- taking the semaphore returns at once, or after the timeout
  by_cases hsem : 0 < s'.peers.source.transport.ackSem
  · have htake : (ch.timedHandler srcId d start).take dectTransportLayerAckTimeoutMs s' =
        (.ok, s'.taken) := by
      have hinner : (ch.handler srcId d).take dectTransportLayerAckTimeoutMs s'.peers =
        (.ok, s'.peers.taken) := if_pos hsem
      unfold Channel.timedHandler
      dsimp only
      rw [hinner]
      rfl
    rw [htake, if_pos hsem]
  · have htake : (ch.timedHandler srcId d start).take dectTransportLayerAckTimeoutMs s' =
        (.err .eagain, s'.waited) := by
      have hinner : (ch.handler srcId d).take dectTransportLayerAckTimeoutMs s'.peers =
        (.err .eagain, s'.peers) := if_neg hsem
      unfold Channel.timedHandler
      dsimp only
      rw [hinner]
      rfl
    rw [htake, if_neg hsem]

/-- The reassembly step on the frame of an attempt that is due, and the results it reports. -/
theorem receiver_step (h : s.peers.Inv callback) :
    ∃ q effects,
      (s.peers.receiver.releaseAll d (ch.releases c (s.peers.sent.count c))).PoolStep
        (s.uptime start) srcId (dataFrameOf seqId data c) q effects ∧
      (s.accepts ch d start (some (airFrame srcId d seqId data c)) c = true ↔
        ch.dataArrives c (s.peers.sent.count c) = true ∧ acceptsOf effects = true) := by
  have hreleased := h.receiver.releaseAll (d := d) (ch.releases c (s.peers.sent.count c))
  obtain ⟨q, effects, link, hpool, -, hobserve⟩ := @observe_data srcId d
    (s.peers.receiver.releaseAll d (ch.releases c (s.peers.sent.count c)))
    (dataFrameOf seqId data c) (fun _ => s.uptime start) (fun _ => ch.beyond) 0 hreleased.ready
    (length_dataFrameOf_toBytes seqId data c)
  refine ⟨q, effects, hpool, ?_⟩
  -- what `prv_handle_data_frame` returned is what the untimed run reports of the same frame
  have hrets := congrArg (fun r => r.2.map Outcome.rets) hobserve
  replace hrets : ((s.peers.receiver.releaseAll d
      (ch.releases c (s.peers.sent.count c))).effects d (s.uptime start)
      (airFrame srcId d seqId data c) ch.beyond).filterMap DectRxEffect.ret = retsOf effects :=
    (List.cons.inj hrets).1
  unfold TimedPeers.accepts
  dsimp only
  rw [hrets, Bool.and_eq_true_iff]
  rfl

/-- The record of an attempt. The time since the fragment before was accepted is known from the
invariant, its expiry not yet. -/
theorem record_eq (h : LoopInv callback ch srcId start seqId data hpos hle c g t₀ a s)
    (hc : c < fragCount data) :
    s.record srcId start (dataFrameOf seqId data c) =
      { fragIdx := c
        expired := contextExpired (s.uptime start) srcId
          ((dectMessage seqId data hpos hle).fragment c) s.peers.receiver.transport.rxPool
        sinceAccepted := if c = 0 then none else some (dectTransportLayerAckTimeoutMs * (g + a)) } := by
  have hidx : (dataFrameOf seqId data c).fragIdx.toNat = c := fragIdx_toNat hle hc.le
  unfold TimedPeers.record
  rw [hidx]
  congr 1
  cases c with
  | zero => rfl
  | succ j =>
    dsimp only
    rw [h.accepted j rfl, h.now, if_neg (Nat.succ_ne_zero j), Option.map_some,
      Nat.add_sub_cancel_left]

/-- What is recorded of attempt `a` at fragment `c` while the context is there. -/
def keptRecord (c g a : ℕ) : AttemptRecord :=
  ⟨c, false, if c = 0 then none else some (dectTransportLayerAckTimeoutMs * (g + a))⟩

/-- While the timer runs, no context under the key of the message has timed out. -/
theorem LoopInv.not_expired
    (h : LoopInv callback ch srcId start seqId data hpos hle c g t₀ a s) (hc : c < fragCount data)
    (ha : a < dectTransportLayerTxAttempts)
    (hfresh : a ≤ ch.arrival c → g + a < dectTransportLayerTxAttempts) :
    s.record srcId start (dataFrameOf seqId data c) = keptRecord c g a := by
  have hkey := dectKeyed h.inv.receiver.query srcId
  have hunique := h.inv.receiver.unique
  have htimeout := h.inv.receiver.timeout
  have hle8 : ∀ k, k < dectTransportLayerTxAttempts → k ≤ 8 := fun k hk => hk.le.trans (by decide)
  -- Fewer than four timeouts since the last acceptance leave the context there.
  have hkept : ∀ (t k i : ℕ), k < dectTransportLayerTxAttempts →
      s.nowMs = t + dectTransportLayerAckTimeoutMs * k →
      Tracks ⟨srcId⟩ (dectMessage seqId data hpos hle) data i (start + UInt32.ofNat t)
        s.peers.receiver.transport.rxPool →
      contextExpired (s.uptime start) srcId ((dectMessage seqId data hpos hle).fragment c)
        s.peers.receiver.transport.rxPool = false := by
    intro t k i hk hnow htracks
    unfold TimedPeers.uptime
    rw [contextExpired_of_tracks hkey hunique htracks, htimeout, hnow, uptime_sub,
      decide_eq_false_iff_not, UInt32.not_le]
    exact (ackTimeouts_lt_iff (hle8 k hk)).mpr hk
  rw [record_eq h hc]
  unfold keptRecord
  congr 1
  by_cases hD : a ≤ ch.arrival c
  · -- the fragment has not arrived: the timer runs since the one before
    cases h.before hD with
    | first _ hnone => exact contextExpired_of_unmatched hkey hnone
    | next _ htracks => exact hkept t₀ (g + a) c (hfresh hD) h.now htracks
  · -- it has: the timer runs since its first arrival
    obtain ⟨-, hafter⟩ := h.after (not_le.mp hD)
    cases hafter with
    | middle _ htracks =>
      refine hkept _ (a - ch.arrival c) (c + 1) (by omega) ?_ htracks
      rw [h.now, Nat.add_assoc, ← Nat.mul_add]
      congr 2
      omega
    | last _ _ hnone => exact contextExpired_of_unmatched hkey hnone

/-- An attempt at which the context has timed out: the fragment has not arrived, and four timeouts
have passed since the one before. -/
theorem LoopInv.expired
    (h : LoopInv callback ch srcId start seqId data hpos hle c g t₀ a s) (hc : c < fragCount data)
    (hpos' : 1 ≤ c) (hD : a ≤ ch.arrival c) (hlow : dectTransportLayerTxAttempts ≤ g + a)
    (hhigh : g + a ≤ 8) :
    s.record srcId start (dataFrameOf seqId data c) =
      ⟨c, true, some (dectTransportLayerAckTimeoutMs * (g + a))⟩ := by
  rw [record_eq h hc, if_neg (Nat.one_le_iff_ne_zero.mp hpos')]
  congr 1
  cases h.before hD with
  | first hzero => exact absurd hzero (Nat.one_le_iff_ne_zero.mp hpos')
  | next _ htracks =>
    unfold TimedPeers.uptime
    rw [contextExpired_of_tracks (dectKeyed h.inv.receiver.query srcId) h.inv.receiver.unique
      htracks, h.inv.receiver.timeout, h.now, uptime_sub, decide_eq_true_iff, ← UInt32.not_lt]
    exact fun hlt => absurd ((ackTimeouts_lt_iff hhigh).mp hlt) (not_lt.mpr hlow)

/-- What a data frame that arrives does to the receiver, which depends on whether it is the first of
its fragment. -/
theorem LoopInv.step (h : LoopInv callback ch srcId start seqId data hpos hle c g t₀ a s)
    (hc : c < fragCount data) (htwo : 2 ≤ fragCount data) (ha : a < dectTransportLayerTxAttempts)
    (hfresh : a ≤ ch.arrival c → g + a < dectTransportLayerTxAttempts) (hD : ch.arrival c ≤ a)
    {releases : List ℕ} {q : TransportBufferPool DectTransportExt UInt32}
    {effects : List (RxEffect DectTransportExt)}
    (hpool : (s.peers.receiver.releaseAll d releases).PoolStep (s.uptime start) srcId
      (dataFrameOf seqId data c) q effects) :
    (.ack ∈ effects ↔ c + 1 < fragCount data ∨ a = ch.arrival c) ∧
      acceptsOf effects = decide (a = ch.arrival c) ∧
      AfterFragment srcId start seqId data hpos hle c
        (t₀ + dectTransportLayerAckTimeoutMs * (g + ch.arrival c)) q := by
  have hrel := released_releaseAll d s.peers.receiver releases
  have hreleased := h.inv.receiver.releaseAll (d := d) releases
  have hkey := dectKeyed hreleased.query srcId
  have huptime : s.uptime start =
      start + UInt32.ofNat (t₀ + dectTransportLayerAckTimeoutMs * (g + a)) := by
    unfold TimedPeers.uptime
    rw [h.now]
  rw [Device.PoolStep, huptime] at hpool
  rcases Nat.eq_or_lt_of_le hD with heq | hlt
  · -- the first arrival
    obtain rfl : a = ch.arrival c := heq.symm
    obtain ⟨hack, haccepts, hafter⟩ := ((h.before (le_refl _)).released hrel).step hpool
      hreleased.pool hreleased.unique hkey hreleased.timeout (hfresh (le_refl _)) hc htwo
    exact ⟨⟨fun _ => Or.inr rfl, fun _ => hack⟩, haccepts.trans (decide_eq_true rfl).symm, hafter⟩
  · -- a repetition, the timer having started at the first arrival
    have htime : t₀ + dectTransportLayerAckTimeoutMs * (g + a) =
        t₀ + dectTransportLayerAckTimeoutMs * (g + ch.arrival c) +
          dectTransportLayerAckTimeoutMs * (a - ch.arrival c) := by
      rw [Nat.add_assoc, ← Nat.mul_add, Nat.add_assoc g, Nat.add_sub_cancel' hD]
    rw [htime] at hpool
    obtain ⟨hack, haccepts, hafter⟩ := ((h.after hlt).2.released hrel).step hpool hreleased.pool
      hreleased.unique hkey hreleased.timeout (lt_of_le_of_lt (Nat.sub_le _ _) ha) hc
    refine ⟨hack.trans ⟨Or.inl, fun h => h.resolve_right hlt.ne'⟩, ?_, hafter⟩
    rw [haccepts, decide_eq_false hlt.ne']

/-- **One attempt** while the context is there. -/
theorem LoopInv.attempt (h : LoopInv callback ch srcId start seqId data hpos hle c g t₀ a s)
    (hc : c < fragCount data) (htwo : 2 ≤ fragCount data) (ha : a < dectTransportLayerTxAttempts)
    (hfresh : a ≤ ch.arrival c → g + a < dectTransportLayerTxAttempts)
    (harrival : ch.dataArrives c (ch.arrival c) = true) :
    (s.attempt ch srcId d start seqId data c).attempts = s.attempts ++ [keptRecord c g a] ∧
      (s.attempt ch srcId d start seqId data c).nowMs = s.nowMs ∧
      (0 < (s.attempt ch srcId d start seqId data c).peers.source.transport.ackSem ↔
        ch.answered (fragCount data) c a = true) ∧
      LoopInv callback ch srcId start seqId data hpos hle c g t₀ (a + 1)
        (s.attempt ch srcId d start seqId data c).waited := by
  obtain ⟨hattempt, hinv', hsent', -⟩ := @attempt_spec callback (ch.atUptime (s.uptime start)) srcId
    d seqId data c s.peers h.inv hle hc
  obtain ⟨q', effects', hpool', haccepts⟩ := @receiver_step callback ch srcId d start seqId data c s
    h.inv
  -- the attempts at this fragment so far are as many as frames of it were sent
  have hcount := h.sent
  rw [timedAttempt_eq h.inv hle hc, h.not_expired hc ha hfresh]
  refine ⟨rfl, rfl, ?_⟩
  rw [hcount] at haccepts hpool'
  -- what follows from the frame's fate
  have hfate : (0 < (s.peers.attempt (ch.atUptime (s.uptime start)) srcId d seqId data
        c).source.transport.ackSem ↔ ch.answered (fragCount data) c a = true) ∧
      (s.accepts ch d start (some (airFrame srcId d seqId data c)) c = true ↔ a = ch.arrival c) ∧
      (a < ch.arrival c → BeforeFragment srcId start seqId data hpos hle c t₀
        (s.peers.attempt (ch.atUptime (s.uptime start)) srcId d seqId data
          c).receiver.transport.rxPool) ∧
      (ch.arrival c ≤ a → AfterFragment srcId start seqId data hpos hle c
        (t₀ + dectTransportLayerAckTimeoutMs * (g + ch.arrival c))
        (s.peers.attempt (ch.atUptime (s.uptime start)) srcId d seqId data
          c).receiver.transport.rxPool) := by
    unfold Channel.answered
    cases hattempt with
    -- the frame is lost, so this is not the first that arrives, and the receiver stays as it was
    | lost hlost hreceiver hsem =>
      replace hlost : ch.dataArrives c a = false := hcount ▸ hlost
      have hne : a ≠ ch.arrival c := by
        rintro rfl
        rw [harrival] at hlost
        cases hlost
      have hrel := released_releaseAll d s.peers.receiver (ch.releases c (s.peers.sent.count c))
      rw [hlost] at haccepts ⊢
      rw [hsem, hreceiver]
      refine ⟨by simp, haccepts.trans (by simp [hne]), fun hlt => (h.before hlt.le).released hrel,
        fun hD => (h.after (lt_of_le_of_ne hD hne.symm)).2.released hrel⟩
    | @arrived q effects harrives hpool hq hdelivered hsem hfresh' =>
      replace harrives : ch.dataArrives c a = true := hcount ▸ harrives
      -- it arrives, for the first time or again
      have hD : ch.arrival c ≤ a := findIdx_range_le harrives
      obtain ⟨hack, -, hafter⟩ := h.step hc htwo ha hfresh hD hpool
      obtain ⟨-, haccept, -⟩ := h.step hc htwo ha hfresh hD hpool'
      replace hsem : 0 < (s.peers.attempt (ch.atUptime (s.uptime start)) srcId d seqId data
          c).source.transport.ackSem ↔ ch.ackReturns c a = true ∧ .ack ∈ effects := hcount ▸ hsem
      rw [hack] at hsem
      rw [haccept, harrives] at haccepts
      rw [hsem, haccepts, harrives, hq]
      exact ⟨by simp, by simp, fun hlt => absurd hlt (not_lt.mpr hD), fun _ => hafter⟩
  obtain ⟨hsem, haccept, hbefore, hafter⟩ := hfate
  refine ⟨hsem, ?_⟩
  exact
    { inv := hinv'
      sent := by
        show (s.peers.attempt _ srcId d seqId data c).sent.count c = a + 1
        rw [hsent', List.count_cons_self, hcount]
      later := by
        intro j hj
        show (s.peers.attempt _ srcId d seqId data c).sent.count j = 0
        rw [hsent', List.count_cons_of_ne hj.ne, h.later j hj]
      now := by
        show s.nowMs + dectTransportLayerAckTimeoutMs = _
        rw [h.now, Nat.add_assoc, ← Nat.mul_succ]
        rfl
      accepted := by
        intro j hj
        show (if _ then Function.update s.acceptedMs c (some s.nowMs) else s.acceptedMs) j = some t₀
        split
        · -- the acceptance of an earlier fragment is not touched
          rw [Function.update_of_ne (by omega)]
          exact h.accepted j hj
        · exact h.accepted j hj
      before := fun hlt => hbefore hlt
      after := by
        intro hlt
        have hD := Nat.le_of_lt_succ hlt
        refine ⟨?_, hafter hD⟩
        show (if _ then Function.update s.acceptedMs c (some s.nowMs) else s.acceptedMs) c = _
        by_cases heq : a = ch.arrival c
        · rw [if_pos (haccept.mpr heq), Function.update_self, h.now, heq]
        · rw [if_neg fun hacc => heq (haccept.mp hacc)]
          exact (h.after (lt_of_le_of_ne hD (Ne.symm heq))).1 }

/-- An answered attempt leads to the next fragment. The timeouts between its first arrival and its
ACK are what the next fragment starts with. -/
theorem LoopInv.next {s' : TimedPeers}
    (h : LoopInv callback ch srcId start seqId data hpos hle c g t₀ (a + 1) s'.waited)
    (hnow : s'.nowMs = t₀ + dectTransportLayerAckTimeoutMs * (g + a)) (hD : ch.arrival c ≤ a)
    (hlast : c + 1 < fragCount data) :
    LoopInv callback ch srcId start seqId data hpos hle (c + 1) (a - ch.arrival c)
      (t₀ + dectTransportLayerAckTimeoutMs * (g + ch.arrival c)) 0 s'.taken := by
  obtain ⟨haccepted, hafter⟩ := h.after (Nat.lt_succ_of_le hD)
  exact
    { inv := h.inv.taken
      sent := h.later (c + 1) (Nat.lt_succ_self c)
      later := fun j hj => h.later j (Nat.lt_of_succ_lt hj)
      now := by
        show s'.nowMs = _
        -- the attempts at this fragment have taken `a` timeouts, of which those since the arrival
        -- carry over
        rw [hnow, Nat.add_zero, Nat.add_assoc, ← Nat.mul_add, Nat.add_assoc g,
          Nat.add_sub_cancel' hD]
      accepted := by
        intro j hj
        obtain rfl := Nat.succ.inj hj
        exact haccepted
      before := by
        intro _
        cases hafter with
        | middle _ htracks => exact .next (Nat.succ_pos c) htracks
        | last heq => exact absurd heq hlast.ne
      after := fun hlt => absurd hlt (Nat.not_lt_zero _) }

/-! ### The retry loop -/

/-- The records of a run are never taken back, so what one attempt shows the whole run shows. -/
theorem exec_attempts_extends {α : Type} (p : Proc Errno LinkWrite α) (s : TimedPeers) :
    s.attempts <+: (p.exec (ch.timedHandler srcId d start) s).2.attempts := by
  refine exec_invariant (P := fun s' : TimedPeers => s.attempts <+: s'.attempts) ?_ ?_ ?_ p List.prefix_rfl
  · exact fun s' hs' => hs'
  · exact fun x s' hs' => hs'.trans (List.prefix_append _ _)
  · exact fun t s' hs' => hs'

/-- What the losses of a channel make of fragment `c`: its first arrival, its last attempt, and why
there is none after that. -/
structure FragmentFate (ch : Channel) (count c : ℕ) : Prop where
  arrival_lt : ch.arrival c < dectTransportLayerTxAttempts
  arrives : ch.dataArrives c (ch.arrival c) = true
  arrival_le : ch.arrival c ≤ ch.lastAttempt count c
  last_lt : ch.lastAttempt count c < dectTransportLayerTxAttempts
  not_answered : ∀ a < ch.lastAttempt count c, ch.answered count c a = false
  answered_or : ch.answered count c (ch.lastAttempt count c) = true ∨
    ¬ c + 1 < count ∧ ch.lastAttempt count c + 1 = dectTransportLayerTxAttempts

/-- An attempt with both paths intact fixes the fate of a fragment. -/
theorem fragmentFate {count : ℕ} (hgood : ∃ a < dectTransportLayerTxAttempts,
    ch.dataArrives c a = true ∧ ch.ackReturns c a = true) : FragmentFate ch count c := by
  obtain ⟨b, hb, hdata, hack⟩ := hgood
  have harrival : ch.arrival c < dectTransportLayerTxAttempts := findIdx_range_lt ⟨b, hb, hdata⟩
  have hnot : ∀ a < ch.lastAttempt count c, ch.answered count c a = false := fun a ha =>
    of_lt_findIdx_range (lt_of_lt_of_le ha (Nat.min_le_left _ _))
  have hlow : ∀ a, ch.answered count c a = true → ch.arrival c ≤ a := by
    intro a ha
    unfold Channel.answered at ha
    exact findIdx_range_le (Bool.and_eq_true_iff.mp (Bool.and_eq_true_iff.mp ha).1).1
  -- Some attempt is answered, or the last fragment uses up all four.
  by_cases hanswered : (List.range dectTransportLayerTxAttempts).findIdx (ch.answered count c) <
      dectTransportLayerTxAttempts
  · have hlast : ch.lastAttempt count c =
        (List.range dectTransportLayerTxAttempts).findIdx (ch.answered count c) :=
      Nat.min_eq_left (Nat.le_pred_of_lt hanswered)
    have hspec : ch.answered count c (ch.lastAttempt count c) = true := by
      rw [hlast]
      exact findIdx_range_spec hanswered
    exact ⟨harrival, findIdx_range_spec harrival, hlow _ hspec, hlast ▸ hanswered, hnot,
      Or.inl hspec⟩
  · have hlast : ch.lastAttempt count c = dectTransportLayerTxAttempts - 1 :=
      Nat.min_eq_right ((Nat.sub_le _ _).trans (not_lt.mp hanswered))
    refine ⟨harrival, findIdx_range_spec harrival, hlast ▸ Nat.le_pred_of_lt harrival,
      hlast ▸ by decide, hnot, Or.inr ⟨fun hmiddle => hanswered ?_, hlast ▸ rfl⟩⟩
    -- before the last fragment an attempt with both paths intact is answered
    refine findIdx_range_lt ⟨b, hb, ?_⟩
    unfold Channel.answered
    rw [hdata, hack, decide_eq_true hmiddle]
    rfl

/-- **A fragment that arrives in time**: every attempt finds the context there, and a fragment
before the last leads to the next one. -/
theorem LoopInv.retry_kept (last : Ret) (hfate : FragmentFate ch (fragCount data) c)
    (h : LoopInv callback ch srcId start seqId data hpos hle c g t₀ a s)
    (hc : c < fragCount data) (htwo : 2 ≤ fragCount data)
    (hkept : g + ch.arrival c < dectTransportLayerTxAttempts)
    (ha : a ≤ ch.lastAttempt (fragCount data) c) (hk : a + k = dectTransportLayerTxAttempts) :
    (s.retry ch srcId d start seqId data c k last).2.attempts = s.attempts ++
        (List.range' a (ch.lastAttempt (fragCount data) c + 1 - a)).map (keptRecord c g) ∧
      (c + 1 < fragCount data →
        (s.retry ch srcId d start seqId data c k last).1 = .ok ∧
        LoopInv callback ch srcId start seqId data hpos hle (c + 1)
          (ch.lastAttempt (fragCount data) c - ch.arrival c)
          (t₀ + dectTransportLayerAckTimeoutMs * (g + ch.arrival c)) 0
          (s.retry ch srcId d start seqId data c k last).2) := by
  induction k generalizing a s last with
  | zero => exact absurd hk (lt_of_le_of_lt ha hfate.last_lt).ne
  | succ k ih =>
    obtain ⟨hattempts, hnow, hsem, hnext⟩ := h.attempt (d := d) hc htwo
      (lt_of_le_of_lt ha hfate.last_lt) (fun hD => lt_of_le_of_lt (Nat.add_le_add_left hD g) hkept)
      hfate.arrives
    rw [timedRetry_succ h.inv hle hc]
    rcases Nat.lt_or_eq_of_le ha with hlt | rfl
    · -- not answered, and so another attempt
      have hnot := hfate.not_answered a hlt
      rw [if_neg fun hpos => by rw [hsem.mp hpos] at hnot; cases hnot]
      obtain ⟨hrest, hlast⟩ := ih _ hnext hlt (by omega)
      refine ⟨?_, hlast⟩
      have hsplit : ch.lastAttempt (fragCount data) c + 1 - a =
          (ch.lastAttempt (fragCount data) c + 1 - (a + 1)) + 1 := by omega
      rw [hrest, hsplit, List.range'_succ, List.map_cons]
      show (s.attempt ch srcId d start seqId data c).attempts ++ _ = _
      rw [hattempts, List.append_assoc]
      rfl
    · have hone : ch.lastAttempt (fragCount data) c + 1 - ch.lastAttempt (fragCount data) c = 1 :=
        Nat.add_sub_cancel_left _ _
      rw [hone]
      rcases hfate.answered_or with hanswered | ⟨hlast, hlastAttempt⟩
      · rw [if_pos (hsem.mpr hanswered)]
        refine ⟨hattempts, fun hmiddle => ⟨rfl, ?_⟩⟩
        exact hnext.next (hnow.trans h.now) hfate.arrival_le hmiddle
      · -- the last fragment, and no attempt is left
        obtain rfl : k = 0 := by omega
        refine ⟨?_, fun hmiddle => absurd hmiddle hlast⟩
        split
        · exact hattempts
        · exact hattempts

/-- **A fragment that arrives too late**: some attempt finds that the context has timed out. It is
the first one that is made four timeouts after the acceptance. -/
theorem LoopInv.retry_expired (last : Ret) (hfate : FragmentFate ch (fragCount data) c)
    (h : LoopInv callback ch srcId start seqId data hpos hle c g t₀ a s)
    (hc : c < fragCount data) (htwo : 2 ≤ fragCount data) (hfirst : 1 ≤ c)
    (hlate : dectTransportLayerTxAttempts ≤ g + ch.arrival c)
    (hg : g < dectTransportLayerTxAttempts)
    (ha : a ≤ ch.arrival c) (hk : a + k = dectTransportLayerTxAttempts) :
    ∃ b, dectTransportLayerTxAttempts ≤ b ∧
      ⟨c, true, some (dectTransportLayerAckTimeoutMs * b)⟩ ∈
        (s.retry ch srcId d start seqId data c k last).2.attempts := by
  have hattempts : dectTransportLayerTxAttempts = 4 := rfl
  have harrival := hfate.arrival_lt
  induction k generalizing a s last with
  | zero => omega
  | succ k ih =>
    have halt : a < dectTransportLayerTxAttempts := lt_of_le_of_lt ha hfate.arrival_lt
    -- before the timeout the loop goes on, since nothing has arrived to be acknowledged
    by_cases hfresh : g + a < dectTransportLayerTxAttempts
    · -- nothing has arrived yet, so another attempt is made
      have hlt : a < ch.arrival c := by omega
      obtain ⟨-, -, hsem, hnext⟩ := h.attempt (d := d) hc htwo halt (fun _ => hfresh) hfate.arrives
      have hnot : ¬ 0 < (s.attempt ch srcId d start seqId data c).peers.source.transport.ackSem := by
        rw [hsem]
        unfold Channel.answered
        rw [of_lt_findIdx_range hlt]
        exact Bool.noConfusion
      rw [timedRetry_succ h.inv hle hc, if_neg hnot]
      exact ih _ hnext hlt (by omega)
    · have hrecord := h.expired hc hfirst ha (not_lt.mp hfresh) (by omega)
      refine ⟨g + a, not_lt.mp hfresh, ?_⟩
      have hmem : (⟨c, true, some (dectTransportLayerAckTimeoutMs * (g + a))⟩ : AttemptRecord) ∈
          (s.attempt ch srcId d start seqId data c).attempts := by
        rw [timedAttempt_eq h.inv hle hc, hrecord]
        exact List.mem_append_right _ (List.mem_singleton.mpr rfl)
      rw [timedRetry_succ h.inv hle hc]
      split
      · exact hmem
      · exact (exec_attempts_extends _ _).subset hmem

end Attempt

/-! ### The whole write -/

/-- The run of the rest of a write, from fragment `c` on. -/
def TimedPeers.transferFrom (ch : Channel) (srcId d start : UInt32) (seqId : UInt16)
    (data : List UInt8) (c : ℕ) (s : TimedPeers) : Ret × TimedPeers :=
  (transfer dectTransportLayerTxAttempts dectTransportLayerAckTimeoutMs
    ((framesOf d seqId data).drop c)).exec (ch.timedHandler srcId d start) s

section Records

variable {log : List AttemptRecord} {c g n : ℕ}

/-- The records of a fragment that arrives in time do no harm. -/
theorem contextKept_append_kept :
    ContextKept (log ++ (List.range' 0 n).map (keptRecord c g)) ↔ ContextKept log := by
  constructor
  · exact fun h x hx => h x (List.mem_append_left _ hx)
  · intro h x hx
    rcases List.mem_append.mp hx with hx | hx
    · exact h x hx
    · obtain ⟨a, -, rfl⟩ := List.mem_map.mp hx
      exact fun _ => rfl

/-- The record of the last attempt has the longest time, so it decides for all attempts at its
fragment. -/
theorem withinRxTimeout_append_kept {l : ℕ} (hc : 1 ≤ c) :
    WithinRxTimeout (log ++ (List.range' 0 (l + 1)).map (keptRecord c g)) ↔
      WithinRxTimeout log ∧ g + l < dectTransportLayerTxAttempts := by
  -- the receive timeout is as long as the ACK timeouts of a write's attempts together
  have hrx : dectTransportLayerRxTimeoutMs =
      dectTransportLayerAckTimeoutMs * dectTransportLayerTxAttempts := rfl
  have hack : 0 < dectTransportLayerAckTimeoutMs := by decide
  have hsince : ∀ a, (keptRecord c g a).sinceAccepted =
      some (dectTransportLayerAckTimeoutMs * (g + a)) := fun a =>
    if_neg (Nat.one_le_iff_ne_zero.mp hc)
  constructor
  · intro h
    refine ⟨fun x hx => h x (List.mem_append_left _ hx), ?_⟩
    -- the record of the last attempt, whose time is the longest
    have hmem : keptRecord c g l ∈ log ++ (List.range' 0 (l + 1)).map (keptRecord c g) :=
      List.mem_append_right _ (List.mem_map.mpr ⟨l, by simp, rfl⟩)
    have hlt := h _ hmem _ (hsince l)
    rw [hrx] at hlt
    exact Nat.lt_of_mul_lt_mul_left hlt
  · rintro ⟨h, hlt⟩ x hx t ht
    rcases List.mem_append.mp hx with hx | hx
    · exact h x hx t ht
    · -- an earlier attempt has waited for fewer timeouts
      obtain ⟨a, ha, rfl⟩ := List.mem_map.mp hx
      rw [hsince] at ht
      obtain rfl := Option.some.inj ht
      have hal : a < 0 + (l + 1) := (List.mem_range'_1.mp ha).2
      rw [hrx]
      exact Nat.mul_lt_mul_of_pos_left (by omega) hack

/-- The records for the first fragment concern neither, there being no fragment before it. -/
theorem withinRxTimeout_append_first :
    WithinRxTimeout (log ++ (List.range' 0 n).map (keptRecord 0 g)) ↔ WithinRxTimeout log := by
  constructor
  · exact fun h x hx => h x (List.mem_append_left _ hx)
  · intro h x hx t ht
    rcases List.mem_append.mp hx with hx | hx
    · exact h x hx t ht
    · obtain ⟨a, -, rfl⟩ := List.mem_map.mp hx
      cases ht

end Records

/-- A condition on all fragments from `c` on is one on `c` and one on the later ones. -/
theorem forall_from_succ {P : ℕ → Prop} {c n : ℕ} (hc : c + 1 < n) :
    (∀ i, c ≤ i → i + 1 < n → P i) ↔ P c ∧ ∀ i, c + 1 ≤ i → i + 1 < n → P i := by
  constructor
  · exact fun h => ⟨h c (le_refl c) hc, fun i hi => h i (Nat.le_of_succ_le hi)⟩
  · rintro ⟨hP, h⟩ i hi hlt
    rcases Nat.eq_or_lt_of_le hi with rfl | hi
    · exact hP
    · exact h i hi hlt

section Transfer

variable {callback : TransportRxCallback DectTransportExt} {ch : Channel} {srcId d start : UInt32}
  {seqId : UInt16} {data : List UInt8} {hpos : 0 < data.length}
  {hle : data.length ≤ dectTransportLayerMaxRxBufferSizeBytes} {c g t₀ : ℕ} {s : TimedPeers}

/-- The rest of a write begins with the attempts at the next fragment. -/
theorem timedTransferFrom_lt (hle : data.length ≤ dectTransportLayerMaxRxBufferSizeBytes)
    (hc : c < fragCount data) :
    s.transferFrom ch srcId d start seqId data c =
      match s.retry ch srcId d start seqId data c dectTransportLayerTxAttempts .ok with
      | (.ok, s') => s'.transferFrom ch srcId d start seqId data (c + 1)
      | (.err e, s') => (.err e, s') := by
  unfold TimedPeers.transferFrom TimedPeers.retry
  rw [drop_framesOf d seqId (by rw [fragTotalOf_toNat hle]; exact hc), exec_transfer_cons]
  rcases (sendWithRetry dectTransportLayerAckTimeoutMs (d, (dataFrameOf seqId data c).toBytes)
    dectTransportLayerTxAttempts .ok).exec (ch.timedHandler srcId d start) s with ⟨_ | e, s'⟩ <;> rfl

/-- An answered fragment leads to the rest of the write. -/
theorem timedTransferFrom_ok (hle : data.length ≤ dectTransportLayerMaxRxBufferSizeBytes)
    (hc : c < fragCount data)
    (hret : (s.retry ch srcId d start seqId data c dectTransportLayerTxAttempts .ok).1 = .ok) :
    s.transferFrom ch srcId d start seqId data c =
      (s.retry ch srcId d start seqId data c dectTransportLayerTxAttempts .ok).2.transferFrom ch srcId
        d start seqId data (c + 1) := by
  rw [timedTransferFrom_lt hle hc]
  rcases hres : s.retry ch srcId d start seqId data c dectTransportLayerTxAttempts .ok with ⟨r, s'⟩
  rw [hres] at hret
  obtain rfl : r = .ok := hret
  rfl

/-- With the last fragment the write ends, answered or not. -/
theorem timedTransferFrom_attempts (hle : data.length ≤ dectTransportLayerMaxRxBufferSizeBytes)
    (hc : c + 1 = fragCount data) :
    (s.transferFrom ch srcId d start seqId data c).2 =
      (s.retry ch srcId d start seqId data c dectTransportLayerTxAttempts .ok).2 := by
  have hlen : (framesOf d seqId data).length ≤ c + 1 := by
    rw [length_framesOf, fragTotalOf_toNat hle]
    exact hc.ge
  rw [timedTransferFrom_lt hle (by omega)]
  rcases s.retry ch srcId d start seqId data c dectTransportLayerTxAttempts .ok with ⟨_ | e, s'⟩
  · unfold TimedPeers.transferFrom
    dsimp only
    rw [List.drop_of_length_le hlen]
    rfl
  · rfl

/-- The rest of a write keeps the records of the fragment it begins with. -/
theorem transferFrom_extends (hle : data.length ≤ dectTransportLayerMaxRxBufferSizeBytes)
    (hc : c < fragCount data) :
    (s.retry ch srcId d start seqId data c dectTransportLayerTxAttempts .ok).2.attempts <+:
      (s.transferFrom ch srcId d start seqId data c).2.attempts := by
  rw [timedTransferFrom_lt hle hc]
  rcases s.retry ch srcId d start seqId data c dectTransportLayerTxAttempts .ok with ⟨_ | e, s'⟩
  · exact exec_attempts_extends _ _
  · exact List.prefix_rfl

/-- A fragment that arrives too late breaks both properties, whatever happens afterwards. -/
theorem LoopInv.transfer_expired (hfate : FragmentFate ch (fragCount data) c)
    (h : LoopInv callback ch srcId start seqId data hpos hle c g t₀ 0 s)
    (hg : g < dectTransportLayerTxAttempts) (hfirst : 1 ≤ c) (hc : c < fragCount data)
    (hlate : dectTransportLayerTxAttempts ≤ g + ch.arrival c) :
    ¬ ContextKept (s.transferFrom ch srcId d start seqId data c).2.attempts ∧
      ¬ WithinRxTimeout (s.transferFrom ch srcId d start seqId data c).2.attempts := by
  obtain ⟨b, hb, hmem⟩ := h.retry_expired (d := d) .ok hfate hc (by omega) hfirst hlate hg
    (Nat.zero_le _) (Nat.zero_add _)
  replace hmem := (transferFrom_extends hle hc).subset hmem
  constructor
  · intro hkept
    cases hkept _ hmem hfirst
  · intro hwithin
    have hlt := hwithin _ hmem _ rfl
    have hrx : dectTransportLayerRxTimeoutMs =
        dectTransportLayerAckTimeoutMs * dectTransportLayerTxAttempts := rfl
    rw [hrx] at hlt
    exact absurd (Nat.lt_of_mul_lt_mul_left hlt) (not_lt.mpr hb)

/-- **From a fragment after the first to the end.** -/
theorem LoopInv.transfer
    (hfate : ∀ i < fragCount data, FragmentFate ch (fragCount data) i)
    (h : LoopInv callback ch srcId start seqId data hpos hle c g t₀ 0 s)
    (hg : g < dectTransportLayerTxAttempts) (hfirst : 1 ≤ c) (hc : c < fragCount data) :
    (ContextKept (s.transferFrom ch srcId d start seqId data c).2.attempts ↔
      ContextKept s.attempts ∧ g + ch.arrival c < dectTransportLayerTxAttempts ∧
        ∀ i, c ≤ i → i + 1 < fragCount data →
          ch.lastAttempt (fragCount data) i - ch.arrival i + ch.arrival (i + 1) <
            dectTransportLayerTxAttempts) ∧
    (WithinRxTimeout (s.transferFrom ch srcId d start seqId data c).2.attempts ↔
      WithinRxTimeout s.attempts ∧
        g + ch.lastAttempt (fragCount data) c < dectTransportLayerTxAttempts ∧
        ∀ i, c ≤ i → i + 1 < fragCount data →
          ch.lastAttempt (fragCount data) i - ch.arrival i +
            ch.lastAttempt (fragCount data) (i + 1) < dectTransportLayerTxAttempts) := by
  induction hr : fragCount data - c generalizing c g t₀ s with
  | zero => omega
  | succ r ih =>
    have hfatec := hfate c hc
    -- the first arrival is in time for the context, or it is not
    by_cases hkept : g + ch.arrival c < dectTransportLayerTxAttempts
    · obtain ⟨hattempts, hok⟩ := h.retry_kept (d := d) .ok hfatec hc (by omega) hkept
        (Nat.zero_le _) (Nat.zero_add _)
      rw [Nat.sub_zero] at hattempts
      by_cases hlast : c + 1 = fragCount data
      · -- the last fragment ends the write either way
        have hnone : ∀ {P : ℕ → Prop}, ∀ i, c ≤ i → i + 1 < fragCount data → P i := fun i hi hlt => by
          omega
        rw [timedTransferFrom_attempts hle hlast, hattempts, contextKept_append_kept,
          withinRxTimeout_append_kept hfirst]
        exact ⟨⟨fun h => ⟨h, hkept, hnone⟩, fun h => h.1⟩,
          ⟨fun h => ⟨h.1, h.2, hnone⟩, fun h => ⟨h.1, h.2.1⟩⟩⟩
      · have hmiddle : c + 1 < fragCount data := lt_of_le_of_ne hc hlast
        obtain ⟨hret, hnext⟩ := hok hmiddle
        have hgap : ch.lastAttempt (fragCount data) c - ch.arrival c < dectTransportLayerTxAttempts :=
          lt_of_le_of_lt (Nat.sub_le _ _) hfatec.last_lt
        have hrest := ih hnext hgap (Nat.succ_pos c) hmiddle (by omega)
        rw [hattempts, contextKept_append_kept, withinRxTimeout_append_kept hfirst] at hrest
        rw [timedTransferFrom_ok hle hc hret, forall_from_succ hmiddle, forall_from_succ hmiddle]
        refine ⟨hrest.1.trans ⟨fun h => ⟨h.1, hkept, h.2⟩, fun h => ⟨h.1, h.2.2⟩⟩, hrest.2.trans ?_⟩
        rw [and_assoc]
    · -- too late: both statements fail with this fragment, whatever comes after it
      obtain ⟨hexpired, hlong⟩ := h.transfer_expired (d := d) hfatec hg hfirst hc (not_lt.mp hkept)
      exact ⟨⟨fun h => absurd h hexpired, fun h => absurd h.2.1 hkept⟩,
        ⟨fun h => absurd h hlong, fun h =>
          absurd (lt_of_le_of_lt (Nat.add_le_add_left hfatec.arrival_le g) h.2.1) hkept⟩⟩

/-- The only fragment of a message follows no other. -/
theorem retry_records (h : s.peers.Inv callback)
    (hle : data.length ≤ dectTransportLayerMaxRxBufferSizeBytes) (hc : 0 < fragCount data) (k : ℕ)
    (last : Ret) :
    ∀ x ∈ (s.retry ch srcId d start seqId data 0 k last).2.attempts,
      x ∈ s.attempts ∨ x.fragIdx = 0 ∧ x.sinceAccepted = none := by
  induction k generalizing s last with
  | zero => exact fun x hx => Or.inl hx
  | succ k ih =>
    obtain ⟨-, hinv', -⟩ := @attempt_spec callback (ch.atUptime (s.uptime start)) srcId d seqId data 0
      s.peers h hle hc
    have hidx : (dataFrameOf seqId data 0).fragIdx.toNat = 0 := fragIdx_toNat hle (Nat.zero_le _)
    -- an attempt adds one record, of the first fragment, which has no predecessor
    have hone : ∀ x ∈ (s.attempt ch srcId d start seqId data 0).attempts,
        x ∈ s.attempts ∨ x.fragIdx = 0 ∧ x.sinceAccepted = none := by
      intro x hx
      rw [timedAttempt_eq h hle hc] at hx
      rcases List.mem_append.mp hx with hx | hx
      · exact Or.inl hx
      · obtain rfl := List.mem_singleton.mp hx
        refine Or.inr ⟨hidx, ?_⟩
        unfold TimedPeers.record
        rw [hidx]
    rw [timedRetry_succ h hle hc]
    split
    · exact hone
    · -- the attempts that follow are at the same fragment
      intro x hx
      have hinv : (s.attempt ch srcId d start seqId data 0).waited.peers.Inv callback := hinv'
      rcases ih hinv _ x hx with hx | hx
      · exact hone x hx
      · exact Or.inr hx

end Transfer

/-- **When the receiver waits for the sender.** Every fragment has an attempt with both paths
intact, and the receiver, which has a FREE context, holds nothing under the key of the message. The
context is there at every attempt for a fragment after the first if and only if, for all consecutive
fragments, the timeouts from the first arrival of one to its ACK and those to the first arrival of
the other are fewer than four in all; and every attempt is made within the timeout since the
fragment before was accepted if and only if those to the last attempt at the other are. -/
theorem receiver_waits_iff (sourceCallback : Option (TransportRxCallback DectTransportExt))
    (callback : TransportRxCallback DectTransportExt) (srcId d start : UInt32) (seqId : UInt16)
    (data : List UInt8) (hpos : 0 < data.length)
    (hle : data.length ≤ dectTransportLayerMaxRxBufferSizeBytes)
    (sourceHistory history : List DeviceInput) (source receiver : Device) (ch : Channel)
    (hsource : source = runs (Device.step srcId) (Device.init sourceCallback) sourceHistory)
    (hreceiver : receiver = runs (Device.step d) (Device.init (some callback)) history)
    (hfree : ∃ b ∈ receiver.transport.rxPool.contexts, b.state = .free)
    (hnone : Unmatched ⟨srcId⟩ (dectMessage seqId data hpos hle) receiver.transport.rxPool)
    (hgood : ∀ i < fragCount data, ∃ a < dectTransportLayerTxAttempts,
      ch.dataArrives i a = true ∧ ch.ackReturns i a = true) :
    (ContextKept ((Peers.mk source receiver [] false).timedWrite ch srcId d start seqId
        data).2.attempts ↔
      ∀ i, i + 1 < fragCount data →
        ch.lastAttempt (fragCount data) i - ch.arrival i + ch.arrival (i + 1) <
          dectTransportLayerTxAttempts) ∧
    (WithinRxTimeout ((Peers.mk source receiver [] false).timedWrite ch srcId d start seqId
        data).2.attempts ↔
      ∀ i, i + 1 < fragCount data →
        ch.lastAttempt (fragCount data) i - ch.arrival i +
          ch.lastAttempt (fragCount data) (i + 1) < dectTransportLayerTxAttempts) := by
  have hsrc : ReceiverInv sourceCallback source := hsource ▸ receiverInv_runs _ _ _
  have hrecv : ReceiverInv (some callback) receiver := hreceiver ▸ receiverInv_runs _ _ _
  have hinv : (Peers.mk source receiver [] false).Inv callback := ⟨⟨_, hsrc⟩, hrecv⟩
  have hcount : 0 < fragCount data := Chunks.count_pos (by decide) hpos
  have hfate : ∀ i < fragCount data, FragmentFate ch (fragCount data) i := fun i hi =>
    fragmentFate (hgood i hi)
  -- the write passes its checks, so it is the transfer
  have hwrite : (Peers.mk source receiver [] false).timedWrite ch srcId d start seqId data =
      TimedPeers.transferFrom ch srcId d start seqId data 0
        ⟨⟨source, receiver, [], false⟩, 0, fun _ => none, []⟩ := by
    unfold Peers.timedWrite dectTransportLayerWrite
    rw [hsrc.initialized, if_neg Bool.noConfusion, if_neg hpos.ne', if_neg (not_lt.mpr hle)]
    rfl
  rw [hwrite]
  generalize hs : TimedPeers.mk ⟨source, receiver, [], false⟩ 0 (fun _ => none) [] = s
  have hlog : s.attempts = [] := by rw [← hs]
  -- both statements are about the attempts made, of which there are none before
  have hkeptNil : ContextKept s.attempts := by
    rw [hlog]
    exact fun x hx => absurd hx List.not_mem_nil
  have hwithinNil : WithinRxTimeout s.attempts := by
    rw [hlog]
    exact fun x hx => absurd hx List.not_mem_nil
  by_cases hone : 0 + 1 = fragCount data
  · -- a single fragment: no two are consecutive, and every attempt is at the first one
    have hrecords := @retry_records callback ch srcId d start seqId data s (hs ▸ hinv) hle hcount
      dectTransportLayerTxAttempts .ok
    rw [hlog] at hrecords
    replace hrecords := fun x hx => (hrecords x hx).resolve_left List.not_mem_nil
    rw [timedTransferFrom_attempts hle hone]
    refine ⟨⟨fun _ i hi => by omega, fun _ x hx hfirst => ?_⟩,
      ⟨fun _ i hi => by omega, fun _ x hx t ht => ?_⟩⟩
    · exact absurd (hrecords x hx).1 hfirst.ne'
    · rw [(hrecords x hx).2] at ht
      cases ht
  · have hmiddle : 0 + 1 < fragCount data := lt_of_le_of_ne hcount hone
    have hstart : LoopInv callback ch srcId start seqId data hpos hle 0 0 0 0 s := by
      subst hs
      exact
        { inv := hinv
          sent := rfl
          later := fun _ _ => rfl
          now := rfl
          accepted := fun j hj => absurd hj.symm (Nat.succ_ne_zero j)
          before := fun _ => .first rfl hnone hfree
          after := fun hlt => absurd hlt (Nat.not_lt_zero _) }
    -- the first fragment cannot find its context expired; the others are by induction
    have hfate0 := hfate 0 hcount
    obtain ⟨hattempts, hok⟩ := hstart.retry_kept (d := d) .ok hfate0 hcount hmiddle
      (by rw [Nat.zero_add]; exact hfate0.arrival_lt) (Nat.zero_le _) (Nat.zero_add _)
    obtain ⟨hret, hnext⟩ := hok hmiddle
    have hrest := hnext.transfer (d := d) hfate
      (lt_of_le_of_lt (Nat.sub_le _ _) hfate0.last_lt) (le_refl 1) hmiddle
    rw [Nat.sub_zero] at hattempts
    rw [hattempts, contextKept_append_kept, withinRxTimeout_append_first] at hrest
    -- the first fragment is told apart from those that follow another one
    have hall : ∀ {P : ℕ → Prop}, (∀ i, i + 1 < fragCount data → P i) ↔
        P 0 ∧ ∀ i, 1 ≤ i → i + 1 < fragCount data → P i := fun {P} => by
      simpa only [Nat.zero_le, true_implies] using forall_from_succ (P := P) hmiddle
    rw [timedTransferFrom_ok hle hcount hret, hall, hall]
    exact ⟨hrest.1.trans (and_iff_right hkeptNil), hrest.2.trans (and_iff_right hwithinNil)⟩

/-- Two fragments, the first ACK of fragment 0 and the first data frame of fragment 1 being lost:
two timeouts in all, so the receiver waits. -/
theorem receiver_waits_twoLosses :
    ContextKept (freshPeers.timedWrite (lossyChannel (fun i a => i = 1 && a = 0)
        fun i a => i = 0 && a = 0) 1 2 0 7 fifteenBytes).2.attempts ∧
      WithinRxTimeout (freshPeers.timedWrite (lossyChannel (fun i a => i = 1 && a = 0)
        fun i a => i = 0 && a = 0) 1 2 0 7 fifteenBytes).2.attempts := by
  obtain ⟨hkept, hwithin⟩ := receiver_waits_iff none (fun _ => 1) 1 2 0 7 fifteenBytes (by decide)
    (by decide) [] [] _ _ (lossyChannel (fun i a => i = 1 && a = 0) fun i a => i = 0 && a = 0) rfl rfl
    (by decide) (fun b hb hm => by
      have hst := hm.receiving
      rw [List.eq_of_mem_replicate hb] at hst
      cases hst)
    (fun i hi => ⟨1, by decide, by simp [lossyChannel]⟩)
  have hzero : ∀ i, i + 1 < fragCount fifteenBytes → i = 0 := fun i hi =>
    Nat.lt_one_iff.mp (Nat.lt_of_succ_lt_succ hi)
  refine ⟨hkept.mpr fun i hi => ?_, hwithin.mpr fun i hi => ?_⟩
  · obtain rfl := hzero i hi
    decide
  · obtain rfl := hzero i hi
    decide

/-- Fragment 0 is accepted at once, but only its fourth ACK returns; the second attempt at fragment
1 finds that the context has timed out. Three timeouts and one are the four of the receiver. -/
theorem late_ack_expires :
    ¬ ∀ (sourceCallback : Option (TransportRxCallback DectTransportExt))
        (callback : TransportRxCallback DectTransportExt) (srcId d start : UInt32) (seqId : UInt16)
        (data : List UInt8) (sourceHistory history : List DeviceInput) (source receiver : Device)
        (ch : Channel), 0 < data.length → data.length ≤ dectTransportLayerMaxRxBufferSizeBytes →
      source = runs (Device.step srcId) (Device.init sourceCallback) sourceHistory →
      receiver = runs (Device.step d) (Device.init (some callback)) history →
      (∃ b ∈ receiver.transport.rxPool.contexts, b.state = .free) →
      (∀ b ∈ receiver.transport.rxPool.contexts, b.state ≠ .receiving) →
      (∀ i < fragCount data, ∃ a < dectTransportLayerTxAttempts,
        ch.dataArrives i a = true ∧ ch.ackReturns i a = true) →
      ContextKept ((Peers.mk source receiver [] false).timedWrite ch srcId d start seqId
        data).2.attempts := by
  intro h
  have hkept := h none (fun _ => 1) 1 2 0 7 fifteenBytes [] [] _ _
    (lossyChannel (fun i a => i = 1 && a = 0) fun i a => i = 0 && a < 3) (by decide) (by decide) rfl
    rfl (by decide) (by decide) fun i _ => ⟨3, by decide, by simp [lossyChannel]⟩
  exact absurd hkept (by decide +kernel)

end DectCommunicator
