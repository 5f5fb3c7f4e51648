import DectCommunicator.Ble.AlfieServiceSpec
import DectCommunicator.BleClient.ClientSpec

/-!
# The two reassemblers

The client and the service are given the same values, and what they acknowledge and deliver is
compared. `HoldSame` is the relation between them: the contexts of the client are the RECEIVING
contexts of the service, each under its `seq_id`.

The client looks a context up by its `seq_id` alone and checks nothing but the index; the service
matches the whole header, and checks the sizes. `SameVerdict` says where this makes no difference: a
frame that the client would acknowledge continues its context with the same announcement, and fits.
As long as every frame is like that the two agree, and the first one that is not makes them disagree
or hold different contexts (`reassemblers_agree`).
-/

namespace DectCommunicator

open LittleEndian Machine

/-! ### Outcomes -/

/-- What is seen of the handling of a value: the ACK frames and the messages. -/
structure FrameOutcome where
  acks : List (List UInt8)
  messages : List (List UInt8)
deriving DecidableEq, Repr

/-- The outcome at the service: the values it notifies, and the contexts it hands up. -/
def serviceOutcome (effects : List BleRxEffect) : FrameOutcome where
  acks := effects.filterMap BleRxEffect.notified
  messages := effects.filterMap BleRxEffect.handedUp

/-- The outcome at the client: what the tasks it creates will write, as long as it stays connected,
and what it delivers. -/
def clientOutcome (c : MessagingClient) (effects : List ClientEffect) : FrameOutcome where
  acks := effects.filterMap fun e => e.ackHeader.bind c.sendAck
  messages := effects.filterMap ClientEffect.message

/-- The bytes of the ACK of a data frame, the same from either side. -/
def ackBytesOf (f : AlfieBleServiceProtoDataFrame) : List UInt8 :=
  (AlfieBleServiceProtoDataAckFrame.mk f.seqId f.fragIdx).toBytes

/-! ### The machine -/

/-- The two receivers, the uptime at the start and the time since, and the outcomes so far. The
client has no clock, so only the service reads it. -/
structure Reassemblers where
  service : AlfieBleService
  client : MessagingClient
  start : UInt32
  elapsedMs : ℕ
  serviceLog : List FrameOutcome
  clientLog : List FrameOutcome

/-- Both are empty. The MTU matters only for what the client sends, which neither of the two
reassembles; as for `MessagingClient.connect`, those below 23 are not of ATT. -/
def Reassemblers.init (mtu : ℕ) (callback : TransportRxCallback Unit) (start : UInt32) :
    Reassemblers where
  service := .init (some callback)
  client := MessagingClient.init.connect mtu
  start := start
  elapsedMs := 0
  serviceLog := []
  clientLog := []

/-- Both are given a value, some time after the start, or the consumer of the service releases a
message. -/
inductive ReassemblyInput where
  | value (elapsedMs : ℕ) (buf : List UInt8)
  | release (i : ℕ)
deriving DecidableEq, Repr

/-- The step of both. The service's step is its handler for a write, the client's its handler for a
notification, on the same bytes. -/
def Reassemblers.step (r : Reassemblers) : ReassemblyInput → Option Reassemblers
  | .value elapsedMs buf =>
    let s := prvOnDataWrite (r.start + UInt32.ofNat elapsedMs) buf r.service
    let c := r.client.onNotification buf
    some { r with
      service := s.1
      client := c.1
      elapsedMs := elapsedMs
      serviceLog := r.serviceLog ++ [serviceOutcome s.2]
      clientLog := r.clientLog ++ [clientOutcome r.client c.2] }
  | .release i =>
    some { r with service := { r.service with rxPool := releaseReferenced r.service.rxPool i } }

/-- The values come in order and within the receive timeout, and announce sizes that the buffers
have. -/
def WithinReceiveTimeout (r : Reassemblers) : ReassemblyInput → Prop
  | .value elapsedMs buf =>
    r.elapsedMs ≤ elapsedMs ∧ elapsedMs < alfieBleServiceRxTimeoutMs ∧
      (AlfieBleServiceProtoDataFrame.ofBytes buf).totalSizeBytes.toNat ≤
        alfieBleServiceMaxRxBufferSizeBytes
  | .release _ => True

/-! ### The condition -/

/-- The context was opened with the sizes that the frame announces. -/
def SameShape (ctx : ReassemblyCtx) (f : AlfieBleServiceProtoDataFrame) : Prop :=
  ctx.totalSizeBytes = f.totalSizeBytes.toNat ∧ ctx.fragTotal = f.fragTotal.toNat

/-- The payload fits as the next one, exactly if it is the last one, and the index of the next
fragment is still a byte: three things that the client does not check. -/
def ReassemblyCtx.Admits (ctx : ReassemblyCtx) (payload : List UInt8) : Prop :=
  ctx.buffer.length + payload.length ≤ ctx.totalSizeBytes ∧
    (ctx.fragIdx + 1 = ctx.fragTotal →
      ctx.buffer.length + payload.length = ctx.totalSizeBytes) ∧
    ctx.fragIdx + 1 < 2 ^ 8

/-- **The condition on a frame.** When it is not ahead of its context, it has the shape of that
context and a payload, which fits if it is the next one, and the service has a context left if it
opens one. -/
def SameVerdict (c : MessagingClient) (p : TransportBufferPool Unit Unit)
    (f : AlfieBleServiceProtoDataFrame) : Prop :=
  ∀ ctx ∈ c.contextFor (headerOf f), f.fragIdx.toNat ≤ ctx.fragIdx →
    SameShape ctx f ∧ f.payload ≠ [] ∧ (f.fragIdx.toNat = ctx.fragIdx → ctx.Admits f.payload) ∧
      (c.rxContexts f.seqId.toNat = none → ∃ b ∈ p.contexts, b.state = .free)

instance (c : MessagingClient) (p : TransportBufferPool Unit Unit)
    (f : AlfieBleServiceProtoDataFrame) : Decidable (SameVerdict c p f) := by
  unfold SameVerdict SameShape ReassemblyCtx.Admits
  infer_instance

/-- The condition on an input. A value that is not a data frame always meets it, as does a
release. -/
def FramesAgree (r : Reassemblers) : ReassemblyInput → Prop
  | .value _ buf =>
    bleFrameTypeOf buf = some .data → alfieBleServiceProtoDataFrameSizeBytes ≤ buf.length →
      SameVerdict r.client r.service.rxPool (.ofBytes buf)
  | .release _ => True

instance (r : Reassemblers) (x : ReassemblyInput) : Decidable (WithinReceiveTimeout r x) :=
  x.casesOn (motive := fun x => Decidable (WithinReceiveTimeout r x))
    (fun elapsedMs buf => inferInstanceAs (Decidable (r.elapsedMs ≤ elapsedMs ∧
      elapsedMs < alfieBleServiceRxTimeoutMs ∧
        (AlfieBleServiceProtoDataFrame.ofBytes buf).totalSizeBytes.toNat ≤
          alfieBleServiceMaxRxBufferSizeBytes)))
    fun _ => instDecidableTrue

instance (r : Reassemblers) (x : ReassemblyInput) : Decidable (FramesAgree r x) :=
  x.casesOn (motive := fun x => Decidable (FramesAgree r x))
    (fun _ buf => inferInstanceAs (Decidable (bleFrameTypeOf buf = some .data →
      alfieBleServiceProtoDataFrameSizeBytes ≤ buf.length →
        SameVerdict r.client r.service.rxPool (.ofBytes buf))))
    fun _ => instDecidableTrue

/-! ### The relation -/

/-- The context of the service holds what the context of the client does, in machine words where the
other has numbers. -/
structure Mirrors (b : TransportBuffer Unit) (ctx : ReassemblyCtx) : Prop where
  totalSizeBytes : b.totalSizeBytes.toNat = ctx.totalSizeBytes
  fragTotal : b.fragTotal.toNat = ctx.fragTotal
  fragIdx : b.fragIdx.toNat = ctx.fragIdx
  data : b.data = ctx.buffer

/-- **The relation.** The RECEIVING contexts of the service are the contexts of the client. -/
structure HoldSame (c : MessagingClient) (p : TransportBufferPool Unit Unit) : Prop where
  service : ReceivingAll (fun b => ∃ ctx, c.rxContexts b.seqId.toNat = some ctx ∧ Mirrors b ctx) p
  client : ∀ seqId ctx, c.rxContexts seqId = some ctx → ∃ (k : ℕ) (b : TransportBuffer Unit),
    p.contexts[k]? = some b ∧ b.state = .receiving ∧ b.seqId.toNat = seqId ∧ Mirrors b ctx

section Relation

variable {c : MessagingClient} {p q : TransportBufferPool Unit Unit}

/-- The RECEIVING contexts stay as they are, so the relation does; contexts in other states have no
counterpart at the client. -/
theorem HoldSame.congr (h : HoldSame c p)
    (hsame : ∀ (k : ℕ) (b : TransportBuffer Unit), b.state = .receiving →
      (q.contexts[k]? = some b ↔ p.contexts[k]? = some b)) :
    HoldSame c q where
  service k b hk hb := h.service k b ((hsame k b hb).mp hk) hb
  client seqId ctx hctx := by
    obtain ⟨k, b, hk, hb, hrest⟩ := h.client seqId ctx hctx
    exact ⟨k, b, (hsame k b hb).mpr hk, hb, hrest⟩

/-- The contexts under one `seq_id` change on both sides. `j` is the context of the service that
does, and `x` the new entry of the client. -/
theorem HoldSame.setContext (h : HoldSame c p) {seqId : UInt16} {j : ℕ} {x : Option ReassemblyCtx}
    (hothers : ∀ k, k ≠ j → q.contexts[k]? = p.contexts[k]?)
    (hclear : ∀ k d, k ≠ j → p.contexts[k]? = some d → d.state = .receiving → d.seqId ≠ seqId)
    (hold : ∀ d, p.contexts[j]? = some d → d.state = .receiving → d.seqId = seqId)
    (hnew : ∀ d, q.contexts[j]? = some d → d.state = .receiving →
      d.seqId = seqId ∧ ∃ ctx ∈ x, Mirrors d ctx)
    (hctx : ∀ ctx ∈ x, ∃ d, q.contexts[j]? = some d ∧ d.state = .receiving ∧ d.seqId = seqId ∧
      Mirrors d ctx) : HoldSame (c.setContext seqId.toNat x) q where
  service k b hk hb := by
    -- context `j` is the one that changes, and the entry of its `seq_id` at the client
    by_cases hkj : k = j
    · subst hkj
      obtain ⟨hseq, ctx, hx, hm⟩ := hnew b hk hb
      refine ⟨ctx, ?_, hm⟩
      rw [hseq]
      exact (setContext_self c _ x).trans hx
    · rw [hothers k hkj] at hk
      obtain ⟨ctx, hold, hm⟩ := h.service k b hk hb
      refine ⟨ctx, ?_, hm⟩
      -- another context belongs to another number, whose entry stays
      have hne : b.seqId.toNat ≠ seqId.toNat := fun heq =>
        hclear k b hkj hk hb (UInt16.toNat_inj.mp heq)
      exact (setContext_of_ne c hne x).trans hold
  client id ctx hid := by
    by_cases hne : id = seqId.toNat
    · subst hne
      have hx : x = some ctx := (setContext_self c _ x).symm.trans hid
      obtain ⟨d, hd, hst, hseq, hm⟩ := hctx ctx hx
      exact ⟨j, d, hd, hst, by rw [hseq], hm⟩
    · rw [setContext_of_ne c hne] at hid
      obtain ⟨k, d, hd, hst, hseq, hm⟩ := h.client id ctx hid
      have hkj : k ≠ j := by
        rintro rfl
        exact hne (by rw [← hseq, hold d hd hst])
      exact ⟨k, d, by rw [hothers k hkj]; exact hd, hst, hseq, hm⟩

/-- A context that is stored is the one a frame belongs to. -/
theorem contextFor_of_stored {f : AlfieBleServiceProtoDataFrame} {ctx : ReassemblyCtx}
    (h : c.rxContexts f.seqId.toNat = some ctx) : c.contextFor (headerOf f) = some ctx := by
  unfold MessagingClient.contextFor
  rw [show (headerOf f).seqId = f.seqId.toNat from rfl, h]

/-- A first fragment has a context, a new one if need be. -/
theorem exists_contextFor {f : AlfieBleServiceProtoDataFrame} (hidx : f.fragIdx = 0) :
    ∃ ctx, c.contextFor (headerOf f) = some ctx := by
  unfold MessagingClient.contextFor headerOf
  dsimp only
  cases c.rxContexts f.seqId.toNat with
  | some ctx => exact ⟨ctx, rfl⟩
  | none =>
    dsimp only
    rw [if_neg (by rw [hidx]; decide)]
    exact ⟨_, rfl⟩

/-- A frame is given the mirror of its context, or a new one for another shape under the same
`seq_id`. -/
theorem HoldSame.obtained (h : HoldSame c p) (hquery : p.additionalQueryCb = none)
    {now : UInt32} (hfresh : AllFresh now p) {f : AlfieBleServiceProtoDataFrame} {j : ℕ}
    {b : TransportBuffer Unit} (hq : Obtained p now f.fragment none j b q) :
    (∃ ctx, c.contextFor (headerOf f) = some ctx ∧ SameShape ctx f ∧ Mirrors b ctx) ∨
      (f.fragIdx = 0 ∧ b.fragIdx = 0 ∧
        ∃ ctx, c.rxContexts f.seqId.toNat = some ctx ∧ ¬ SameShape ctx f) := by
  rcases hq.found_or_fresh (bleKeyed hquery) with ⟨hj, -, hm⟩ | ⟨hidx, hzero, hdata, hnone⟩
  · obtain ⟨ctx, hctx, hmirrors⟩ := h.service j b hj hm.receiving
    rw [show b.seqId = f.seqId from hm.seqId] at hctx
    refine Or.inl ⟨ctx, contextFor_of_stored hctx, ⟨?_, ?_⟩, hmirrors⟩
    · rw [← hmirrors.totalSizeBytes, hm.totalSizeBytes]
      rfl
    · rw [← hmirrors.fragTotal, hm.fragTotal]
      rfl
  · replace hidx : f.fragIdx = 0 := hidx
    cases hctx : c.rxContexts f.seqId.toNat with
    | none =>
      -- both open a context, and the two are alike
      refine Or.inl ⟨⟨f.seqId.toNat, f.fragTotal.toNat, f.totalSizeBytes.toNat, 0, []⟩, ?_,
        ⟨rfl, rfl⟩, ?_, ?_, ?_, hdata⟩
      · unfold MessagingClient.contextFor headerOf
        dsimp only
        rw [hctx]
        dsimp only
        rw [if_neg (by rw [hidx]; decide)]
      · rw [hq.totalSizeBytes]
        rfl
      · rw [hq.fragTotal]
        rfl
      · rw [hzero]
        rfl
    | some ctx =>
      refine Or.inr ⟨hidx, hzero, ctx, rfl, fun hshape => ?_⟩
      -- the mirror would have been found
      obtain ⟨k, d, hd, hst, hseq, hm⟩ := h.client _ ctx hctx
      rw [← hfresh.expire_contexts] at hd
      refine hnone d (List.mem_of_getElem? hd) ⟨hst, rfl, UInt16.toNat_inj.mp hseq, ?_, ?_⟩
      · exact UInt8.toNat_inj.mp (hm.fragTotal.trans hshape.2)
      · exact UInt16.toNat_inj.mp (hm.totalSizeBytes.trans hshape.1)

/-- A frame of the same shape is refused only when it opens a context and none is FREE. The client
has no limit on its contexts, the service has four. -/
theorem HoldSame.refused (h : HoldSame c p) (hquery : p.additionalQueryCb = none)
    (hinv : PoolInv p) {now : UInt32} (hfresh : AllFresh now p) {f : AlfieBleServiceProtoDataFrame}
    (hq : Refused p now f.fragment none q) {ctx : ReassemblyCtx}
    (hctx : c.contextFor (headerOf f) = some ctx) (hshape : SameShape ctx f) :
    c.rxContexts f.seqId.toNat = none ∧ ∀ b ∈ p.contexts, b.state ≠ .free := by
  unfold MessagingClient.contextFor headerOf at hctx
  dsimp only at hctx
  cases hstored : c.rxContexts f.seqId.toNat with
  -- the client has a context under the number, and so has the service: it would have been found
  | some x =>
    rw [hstored] at hctx
    obtain rfl := Option.some.inj hctx
    obtain ⟨k, d, hd, hst, hseq, hm⟩ := h.client _ x hstored
    refine absurd ⟨hst, rfl, UInt16.toNat_inj.mp hseq, ?_, ?_⟩
      (hq.not_matches (bleKeyed hquery) hd (hfresh d (List.mem_of_getElem? hd)))
    · exact UInt8.toNat_inj.mp (hm.fragTotal.trans hshape.2)
    · exact UInt16.toNat_inj.mp (hm.totalSizeBytes.trans hshape.1)
  | none =>
    rw [hstored] at hctx
    dsimp only at hctx
    split at hctx
    · cases hctx
    · -- neither has one, and the fragment is the first, so a FREE one would have been taken
      next hidx =>
      have hidx : f.fragIdx = 0 := UInt8.toNat_inj.mp (not_not.mp hidx)
      exact ⟨rfl, fun b hb => hq.not_free hinv (bleKeyed hquery) hidx hb⟩

/-- The mirror of a context is written, and no other context belongs to its message, so that one
entry of the client and one context of the service change together. -/
theorem HoldSame.stored (h : HoldSame c p) (hunique : KeyUnique p)
    (hquery : p.additionalQueryCb = none) {now : UInt32} (hfresh : AllFresh now p)
    {f : AlfieBleServiceProtoDataFrame} {j : ℕ} {b : TransportBuffer Unit}
    (hq : Obtained p now f.fragment none j b q) {ctx : ReassemblyCtx}
    (hctx : c.contextFor (headerOf f) = some ctx) (hshape : SameShape ctx f)
    {q' : TransportBufferPool Unit Unit} {x : Option ReassemblyCtx}
    (hothers : ∀ k, k ≠ j → q'.contexts[k]? = q.contexts[k]?)
    (hnew : ∀ d, q'.contexts[j]? = some d → d.state = .receiving →
      d.seqId = f.seqId ∧ ∃ ctx ∈ x, Mirrors d ctx)
    (hx : ∀ ctx ∈ x, ∃ d, q'.contexts[j]? = some d ∧ d.state = .receiving ∧ d.seqId = f.seqId ∧
      Mirrors d ctx) : HoldSame (c.setContext f.seqId.toNat x) q' := by
  have hothers' : ∀ k, k ≠ j → q.contexts[k]? = p.contexts[k]? := by
    intro k hk
    rw [hq.getElem?_of_ne hk, hfresh.expire_contexts]
  refine h.setContext (fun k hk => (hothers k hk).trans (hothers' k hk)) ?_ ?_ hnew hx
  · -- another context under the `seq_id` would mirror the same one, and have the same key
    intro k d hk hd hst hseq
    obtain ⟨ctx', hctx', hm⟩ := h.service k d hd hst
    rw [hseq] at hctx'
    rw [contextFor_of_stored hctx'] at hctx
    obtain rfl := Option.some.inj hctx
    rw [← hothers' k hk] at hd
    refine hunique.not_matches (bleKeyed hquery) hq hk hd ⟨hst, rfl, hseq, ?_, ?_⟩
    · exact UInt8.toNat_inj.mp (hm.fragTotal.trans hshape.2)
    · exact UInt16.toNat_inj.mp (hm.totalSizeBytes.trans hshape.1)
  · -- what was stored at `j` before was the context that was found, or a FREE one
    intro d hd hst
    rw [← hfresh.expire_contexts] at hd
    cases hq with
    | found hi hmatch =>
      obtain rfl := Option.some.inj (hd.symm.trans hi)
      exact (isMatch_iff.mp hmatch).2.1.symm
    | fresh _ _ hi hfree =>
      obtain rfl := Option.some.inj (hd.symm.trans hi)
      rw [hfree] at hst
      cases hst

/-- The frame that opens a context of the client is given a FREE one, as no context under its
`seq_id` is RECEIVING. -/
theorem HoldSame.free_of_obtained (h : HoldSame c p) {now : UInt32} (hfresh : AllFresh now p)
    {f : AlfieBleServiceProtoDataFrame} {j : ℕ} {b : TransportBuffer Unit}
    (hq : Obtained p now f.fragment none j b q) (hnone : c.rxContexts f.seqId.toNat = none) :
    ∃ b ∈ p.contexts, b.state = .free := by
  cases hq with
  | found hi hmatch =>
    rw [hfresh.expire_contexts] at hi
    obtain ⟨hst, hseq, -⟩ := isMatch_iff.mp hmatch
    obtain ⟨ctx, hctx, -⟩ := h.service j b hi hst
    rw [← hseq] at hctx
    exact absurd (hctx.symm.trans hnone) (Option.some_ne_none ctx)
  | fresh _ _ hi hfree =>
    rw [hfresh.expire_contexts] at hi
    exact ⟨_, List.mem_of_getElem? hi, hfree⟩

end Relation

/-! ### One frame -/

section Outcomes

variable {c : MessagingClient}

/-- The header of a received frame; the client does not look at the version, nor again at the
type. -/
def receivedHeader (f : AlfieBleServiceProtoDataFrame) (version frameType : ℕ) : DataFrameHeader :=
  { headerOf f with version, frameType }

/-- The first effect of a frame that the client acknowledges is its ACK, the one the service would
send. -/
theorem clientOutcome_acks (hloop : c.loop = true) (hconnected : c.connected = true)
    (f : AlfieBleServiceProtoDataFrame) (version frameType : ℕ) (rest : List ClientEffect) :
    clientOutcome c (c.acks (receivedHeader f version frameType) ++ rest) =
      { acks := ackBytesOf f :: (clientOutcome c rest).acks
        messages := (clientOutcome c rest).messages } := by
  have hsend : c.sendAck (receivedHeader f version frameType) = some (ackBytesOf f) :=
    sendAck_headerOf hconnected f
  have hack : (ClientEffect.sendAck (receivedHeader f version frameType) :: rest).filterMap
      (fun e => e.ackHeader.bind c.sendAck)
      = ackBytesOf f :: rest.filterMap fun e => e.ackHeader.bind c.sendAck :=
    List.filterMap_cons_some hsend
  unfold MessagingClient.acks clientOutcome
  rw [if_pos hloop, List.singleton_append, hack]
  rfl

/-- For a frame that is only acknowledged there is nothing else. -/
theorem clientOutcome_acks_only (hloop : c.loop = true) (hconnected : c.connected = true)
    (f : AlfieBleServiceProtoDataFrame) (version frameType : ℕ) :
    clientOutcome c (c.acks (receivedHeader f version frameType)) = ⟨[ackBytesOf f], []⟩ := by
  have h := clientOutcome_acks hloop hconnected f version frameType []
  rwa [List.append_nil] at h

end Outcomes

/-- What is known before a frame, of the relation and of each receiver. -/
structure ReadyFor (c : MessagingClient) (p : TransportBufferPool Unit Unit) (now : UInt32) :
    Prop where
  hold : HoldSame c p
  started : ∀ seqId ctx, c.rxContexts seqId = some ctx → 0 < ctx.fragIdx
  loop : c.loop = true
  connected : c.connected = true
  pool : PoolInv p
  unique : KeyUnique p
  query : p.additionalQueryCb = none
  fresh : AllFresh now p

section Frame

variable {c c' : MessagingClient} {p q : TransportBufferPool Unit Unit} {now : UInt32}
  {f : AlfieBleServiceProtoDataFrame} {cb : TransportRxCallback Unit}
  {effects : List (RxEffect Unit)} {out : List ClientEffect} {version frameType : ℕ}

/-- Under the condition a frame that the client acknowledges is given the mirror of its context: one
of another shape would open a second context. -/
theorem ReadyFor.mirrored (h : ReadyFor c p now) (hcond : SameVerdict c p f) {ctx : ReassemblyCtx}
    (hctx : c.contextFor (headerOf f) = some ctx) (hle : f.fragIdx.toNat ≤ ctx.fragIdx) {j : ℕ}
    {b : TransportBuffer Unit} (hq : Obtained p now f.fragment none j b q) : Mirrors b ctx := by
  rcases h.hold.obtained h.query h.fresh hq with ⟨ctx', hctx', -, hm⟩ | ⟨-, -, ctx', hstored, hno⟩
  · obtain rfl := Option.some.inj (hctx.symm.trans hctx')
    exact hm
  · obtain rfl := Option.some.inj (hctx.symm.trans (contextFor_of_stored hstored))
    exact absurd (hcond ctx hctx hle).1 hno

/-- Under the condition such a frame is not refused, a context being left where one is opened. -/
theorem ReadyFor.not_refused (h : ReadyFor c p now) (hcond : SameVerdict c p f)
    {ctx : ReassemblyCtx} (hctx : c.contextFor (headerOf f) = some ctx)
    (hle : f.fragIdx.toNat ≤ ctx.fragIdx) : ¬ Refused p now f.fragment none q := by
  intro hq
  obtain ⟨hshape, -, -, hfree⟩ := hcond ctx hctx hle
  obtain ⟨hnone, hno⟩ := h.hold.refused h.query h.pool h.fresh hq hctx hshape
  obtain ⟨b, hb, hst⟩ := hfree hnone
  exact hno b hb hst

/-- A frame ahead of its context changes nothing at the service, and has no effect. At the client it
is ignored as well. -/
theorem ReadyFor.ahead (h : ReadyFor c p now)
    (hahead : ∀ ctx, c.contextFor (headerOf f) = some ctx → ctx.fragIdx < f.fragIdx.toNat)
    (hservice : DataFrameStep (some cb) none id now f.fragment p q effects) :
    serviceOutcome (effects.map (bleRxEffect f)) = ⟨[], []⟩ ∧ HoldSame c q := by
  have hnot : f.fragIdx ≠ 0 := by
    intro hidx
    obtain ⟨ctx, hctx⟩ := exists_contextFor (c := c) hidx
    have hlt := hahead ctx hctx
    rw [hidx] at hlt
    exact Nat.not_lt_zero _ hlt
  -- it is no first fragment, so the context was found and not allocated
  have hfound : ∀ {j b q}, Obtained p now f.fragment none j b q →
      p.contexts[j]? = some b ∧ b.fragIdx.toNat < f.fragIdx.toNat := by
    intro j b q hq
    rcases hq.found_or_fresh (bleKeyed h.query) with ⟨hj, -, -⟩ | ⟨hidx, -, -, -⟩
    · rcases h.hold.obtained h.query h.fresh hq with ⟨ctx, hctx, -, hm⟩ | ⟨hidx, -, -⟩
      · refine ⟨hj, ?_⟩
        rw [hm.fragIdx]
        exact hahead ctx hctx
      · exact absurd hidx hnot
    · exact absurd hidx hnot
  have hle : ∀ {j b q}, Obtained p now f.fragment none j b q → ¬ f.fragIdx ≤ b.fragIdx := by
    intro j b q hq hle
    exact absurd (UInt8.le_iff_toNat_le.mp hle) (not_le.mpr (hfound hq).2)
  cases hservice with
  | refused hq =>
    refine ⟨rfl, h.hold.congr fun k b _ => ?_⟩
    cases hq with
    | misuse => exact Iff.rfl
    | noContext => rw [h.fresh.expire_contexts]
  | @rejected j b q _ hq _ =>
    refine ⟨rfl, h.hold.congr fun k d _ => ?_⟩
    -- the context that was found is stored as it was
    by_cases hk : k = j
    · subst hk
      rw [store_getElem?_self _ hq.getElem?, (hfound hq).1]
      rfl
    · rw [store_getElem?_of_ne _ _ _ hk, hq.getElem?_of_ne hk, h.fresh.expire_contexts]
  -- every other outcome is that of a fragment no further than its context
  | duplicate hq _ hidx => exact absurd (UInt8.le_of_lt hidx) (hle hq)
  | success hq _ hidx => exact absurd (hidx ▸ UInt8.le_refl _) (hle hq)
  | invalidFinalSize hq _ hidx => exact absurd (hidx ▸ UInt8.le_refl _) (hle hq)
  | complete hq _ hidx => exact absurd (hidx ▸ UInt8.le_refl _) (hle hq)

/-- A repeated frame is acknowledged by the service too, its payload not being compared on either
side. -/
theorem ReadyFor.behind (h : ReadyFor c p now) (hcond : SameVerdict c p f) {ctx : ReassemblyCtx}
    (hctx : c.rxContexts f.seqId.toNat = some ctx) (hidx : f.fragIdx.toNat < ctx.fragIdx)
    (hservice : DataFrameStep (some cb) none id now f.fragment p q effects) :
    serviceOutcome (effects.map (bleRxEffect f)) = ⟨[ackBytesOf f], []⟩ ∧ HoldSame c q := by
  have hfor := contextFor_of_stored hctx
  obtain ⟨-, hpayload, -, -⟩ := hcond ctx hfor hidx.le
  -- the service has counted the fragment as well
  have hlt : ∀ {j b q}, Obtained p now f.fragment none j b q → f.fragIdx < b.fragIdx := by
    intro j b q hq
    rw [UInt8.lt_iff_toNat_lt, (h.mirrored hcond hfor hidx.le hq).fragIdx]
    exact hidx
  cases hservice with
  | refused hq => exact absurd hq (h.not_refused hcond hfor hidx.le)
  -- none of the three checks can fail: the payload is not empty, and the fragment one that was
  -- counted
  | rejected hq hwhy =>
    rcases hwhy with ⟨-, hnil⟩ | ⟨-, hgt⟩ | ⟨-, heq, -⟩
    · exact absurd hnil hpayload
    · exact absurd (hlt hq) (UInt8.lt_asymm hgt)
    · exact absurd (hlt hq) (heq ▸ UInt8.lt_irrefl _)
  | @duplicate j b q hq _ _ =>
    refine ⟨rfl, h.hold.congr fun k d _ => ?_⟩
    -- the context was there, as a new one has counted nothing
    have hj : p.contexts[j]? = some b := by
      rcases hq.found_or_fresh (bleKeyed h.query) with ⟨hj, -, -⟩ | ⟨-, hzero, -, -⟩
      · exact hj
      · have hlt := UInt8.lt_iff_toNat_lt.mp (hlt hq)
        rw [hzero] at hlt
        exact absurd hlt (Nat.not_lt_zero _)
    by_cases hk : k = j
    · subst hk
      rw [store_getElem?_self _ hq.getElem?, hj]
      rfl
    · rw [store_getElem?_of_ne _ _ _ hk, hq.getElem?_of_ne hk, h.fresh.expire_contexts]
  | success hq _ heq => exact absurd (hlt hq) (heq ▸ UInt8.lt_irrefl _)
  | invalidFinalSize hq _ heq => exact absurd (hlt hq) (heq ▸ UInt8.lt_irrefl _)
  | complete hq _ heq => exact absurd (hlt hq) (heq ▸ UInt8.lt_irrefl _)

/-- The next index, on both sides: a byte at the service, which is why the bound is needed. -/
theorem Mirrors.succ {b : TransportBuffer Unit} {ctx : ReassemblyCtx} (h : Mirrors b ctx)
    (hlt : ctx.fragIdx + 1 < 2 ^ 8) :
    (b.fragIdx + 1).toNat = ctx.fragIdx + 1 ∧
      (b.fragIdx + 1 = b.fragTotal ↔ ctx.fragIdx + 1 = ctx.fragTotal) := by
  have hsucc : (b.fragIdx + 1).toNat = ctx.fragIdx + 1 := by
    rw [UInt8.toNat_add, h.fragIdx]
    exact Nat.mod_eq_of_lt hlt
  refine ⟨hsucc, ?_⟩
  rw [← UInt8.toNat_inj, hsucc, h.fragTotal]

/-- The next fragment is appended on both sides, and the two contexts are alike again. -/
theorem Mirrors.accept {b : TransportBuffer Unit} {ctx : ReassemblyCtx} (h : Mirrors b ctx)
    (hlt : ctx.fragIdx + 1 < 2 ^ 8) (hbuffer : b.buffer ≠ none) (now : UInt32)
    (payload : List UInt8) : Mirrors ((b.mark id).accept now payload) (ctx.append payload) where
  totalSizeBytes := h.totalSizeBytes
  fragTotal := h.fragTotal
  fragIdx := (h.succ hlt).1
  data := by
    rw [accept_data now payload (show (b.mark id).buffer ≠ none from hbuffer), mark_data, h.data]
    rfl

/-- The length that the service compares with the announced size. -/
theorem Mirrors.accept_len {b : TransportBuffer Unit} {ctx : ReassemblyCtx} (h : Mirrors b ctx)
    (hbuffer : b.buffer ≠ none) (now : UInt32) (payload : List UInt8) :
    ((b.mark id).accept now payload).len = ctx.buffer.length + payload.length := by
  rw [DectCommunicator.accept_len now payload (show (b.mark id).buffer ≠ none from hbuffer),
    mark_len, len_eq_length_data, h.data]

/-- **The next frame of a context** has the same outcome at the service. -/
theorem ReadyFor.next (h : ReadyFor c p now) (hcond : SameVerdict c p f) {ctx : ReassemblyCtx}
    (hctx : c.contextFor (headerOf f) = some ctx) (hidx : f.fragIdx.toNat = ctx.fragIdx)
    (hservice : DataFrameStep (some cb) none id now f.fragment p q effects) :
    (ctx.fragIdx + 1 ≠ ctx.fragTotal →
      serviceOutcome (effects.map (bleRxEffect f)) = ⟨[ackBytesOf f], []⟩ ∧
        HoldSame (c.setContext f.seqId.toNat (some (ctx.append f.payload))) q) ∧
    (ctx.fragIdx + 1 = ctx.fragTotal →
      serviceOutcome (effects.map (bleRxEffect f)) =
        ⟨[ackBytesOf f], [ctx.buffer ++ f.payload]⟩ ∧
        HoldSame (c.setContext f.seqId.toNat none) q) := by
  obtain ⟨hshape, hpayload, hadmits, -⟩ := hcond ctx hctx hidx.le
  obtain ⟨hfits, hexact, hbyte⟩ := hadmits hidx
  -- whatever context the service obtains mirrors the one of the client
  have hmirror : ∀ {j b q}, Obtained p now f.fragment none j b q →
      Mirrors b ctx ∧ f.fragIdx = b.fragIdx ∧ b.len = ctx.buffer.length := by
    intro j b q hq
    have hm := h.mirrored hcond hctx hidx.le hq
    exact ⟨hm, UInt8.toNat_inj.mp (hidx.trans hm.fragIdx.symm), by rw [len_eq_length_data, hm.data]⟩
  cases hservice with
  | refused hq => exact absurd hq (h.not_refused hcond hctx hidx.le)
  -- the service's checks are on what the condition says
  | rejected hq hwhy =>
    obtain ⟨hm, heq, hbuf⟩ := hmirror hq
    rcases hwhy with ⟨-, hnil⟩ | ⟨-, hgt⟩ | ⟨-, -, hover⟩
    · -- the frame has a payload, is the next one, and fits
      exact absurd hnil hpayload
    · exact absurd hgt (heq ▸ UInt8.lt_irrefl _)
    · rw [hbuf, hm.totalSizeBytes] at hover
      exact absurd hover (not_lt.mpr hfits)
  | duplicate hq _ hlt => exact absurd hlt ((hmirror hq).2.1 ▸ UInt8.lt_irrefl _)
  | @success j b q hq _ _ _ hlast =>
    -- both append, and go on waiting
    obtain ⟨hm, -, -⟩ := hmirror hq
    refine ⟨fun _ => ⟨rfl, ?_⟩, fun hdone => absurd ((hm.succ hbyte).2.mpr hdone) hlast⟩
    have hstored := store_getElem?_self ((b.mark id).accept now f.payload) hq.getElem?
    have hmirrors : Mirrors ((b.mark id).accept now f.payload) (ctx.append f.payload) :=
      hm.accept hbyte (hq.buffer_ne_none h.pool) now _
    refine h.hold.stored h.unique h.query h.fresh hq hctx hshape
      (fun k hk => store_getElem?_of_ne _ _ _ hk) ?_ ?_
    · intro d hd _
      obtain rfl := Option.some.inj (hd.symm.trans hstored)
      exact ⟨hq.seqId, _, rfl, hmirrors⟩
    · intro x hx
      obtain rfl := Option.some.inj hx
      exact ⟨_, hstored, hq.receiving, hq.seqId, hmirrors⟩
  | invalidFinalSize hq _ _ _ hlast hno =>
    -- the condition on a last fragment is that it makes up the size
    obtain ⟨hm, -, -⟩ := hmirror hq
    refine absurd ?_ hno
    have hdone := (hm.succ hbyte).2.mp hlast
    rw [hm.accept_len (hq.buffer_ne_none h.pool), hm.totalSizeBytes]
    exact hexact hdone
  | @complete j b b' q hq _ _ hlast _ hb' =>
    -- both deliver, and forget the context
    obtain ⟨hm, -, -⟩ := hmirror hq
    have hdone := (hm.succ hbyte).2.mp hlast
    have hdata : b'.data = ctx.buffer ++ f.payload := by
      rw [hb']
      exact (hm.accept hbyte (hq.buffer_ne_none h.pool) now f.payload).data
    refine ⟨fun hno => absurd hdone hno, fun _ => ⟨?_, ?_⟩⟩
    · rw [← hdata]
      rfl
    · have hstored := store_getElem?_self b' hq.getElem?
      obtain ⟨hothers, d, hd, hcase⟩ := handleCompleteTransaction_contexts (some cb) hstored
      refine h.hold.stored h.unique h.query h.fresh hq hctx hshape
        (fun k hk => (hothers k hk).trans (store_getElem?_of_ne _ _ _ hk)) ?_ (fun x hx => by cases hx)
      intro d' hd' hst
      obtain rfl := Option.some.inj (hd'.symm.trans hd)
      rcases hcase with hfree | hsame
      · -- the context is FREE, or held by the callback; in neither state is it one that the client
        -- has
        rw [hfree] at hst
        cases hst
      · rw [hsame, hb'] at hst
        cases hst

/-- **The condition is enough.** The cases are those of the client, each with the lemma on what the
service does there. -/
theorem ReadyFor.agree (h : ReadyFor c p now) (hcond : SameVerdict c p f)
    (hservice : DataFrameStep (some cb) none id now f.fragment p q effects)
    (hclient : RxPayload c (receivedHeader f version frameType) f.payload c' out) :
    serviceOutcome (effects.map (bleRxEffect f)) = clientOutcome c out ∧ HoldSame c' q := by
  cases hclient with
  | ignored hahead => exact h.ahead hahead hservice
  | duplicate hctx hidx =>
    rw [clientOutcome_acks_only h.loop h.connected]
    exact h.behind hcond hctx hidx hservice
  | appended hctx hidx hlast =>
    rw [clientOutcome_acks_only h.loop h.connected]
    exact (h.next hcond hctx hidx hservice).1 hlast
  | delivered hctx hidx hlast =>
    rw [clientOutcome_acks h.loop h.connected]
    exact (h.next hcond hctx hidx hservice).2 hlast

/-- What a step that the service acknowledges has obtained, by the result of its write. -/
inductive ServiceAcks (p q : TransportBufferPool Unit Unit) (now : UInt32)
    (f : AlfieBleServiceProtoDataFrame) (messages : List (List UInt8)) : Prop
  | duplicate {j : ℕ} {b : TransportBuffer Unit} {q' : TransportBufferPool Unit Unit}
      (hq : Obtained p now f.fragment none j b q') (hidx : f.fragIdx < b.fragIdx)
  | success {j : ℕ} {b : TransportBuffer Unit} {q' : TransportBufferPool Unit Unit}
      (hq : Obtained p now f.fragment none j b q') (hidx : f.fragIdx = b.fragIdx)
      (hfit : b.len + f.payload.length ≤ b.totalSizeBytes.toNat)
      (hlast : b.fragIdx + 1 ≠ b.fragTotal)
      (hstored : q.contexts[j]? = some ((b.mark id).accept now f.payload))
  | complete {j : ℕ} {b : TransportBuffer Unit} {q' : TransportBufferPool Unit Unit}
      (hq : Obtained p now f.fragment none j b q') (hidx : f.fragIdx = b.fragIdx)
      (hlen : ((b.mark id).accept now f.payload).len = b.totalSizeBytes.toNat)
      (hmessage : messages ≠ [])

/-- The service acknowledges only frames with a payload for which it has a context. All other
outcomes are without an ACK. -/
theorem serviceAcks_of_outcome
    (hservice : DataFrameStep (some cb) none id now f.fragment p q effects)
    (hack : (serviceOutcome (effects.map (bleRxEffect f))).acks ≠ []) :
    f.payload ≠ [] ∧
      ServiceAcks p q now f (serviceOutcome (effects.map (bleRxEffect f))).messages := by
  cases hservice with
  | refused => exact absurd rfl hack
  | rejected => exact absurd rfl hack
  | invalidFinalSize => exact absurd rfl hack
  | duplicate hq hdata hidx => exact ⟨hdata, .duplicate hq hidx⟩
  | success hq hdata hidx hfit hlast =>
    exact ⟨hdata, .success hq hidx hfit hlast (store_getElem?_self _ hq.getElem?)⟩
  | complete hq hdata hidx _ hlen hb' =>
    exact ⟨hdata, .complete hq hidx hlen (List.cons_ne_nil _ _)⟩

/-- What the client does with a frame that is not ahead of its context: it acknowledges it in each
case. -/
inductive ClientAcks (c c' : MessagingClient) (f : AlfieBleServiceProtoDataFrame)
    (ctx : ReassemblyCtx) (messages : List (List UInt8)) : Prop
  | duplicate (hidx : f.fragIdx.toNat < ctx.fragIdx) (hc : c' = c) (hnil : messages = [])
  | appended (hidx : f.fragIdx.toNat = ctx.fragIdx) (hlast : ctx.fragIdx + 1 ≠ ctx.fragTotal)
      (hc : c' = c.setContext f.seqId.toNat (some (ctx.append f.payload))) (hnil : messages = [])
  | delivered (hidx : f.fragIdx.toNat = ctx.fragIdx) (hlast : ctx.fragIdx + 1 = ctx.fragTotal)

/-- The client acknowledges it, so by the equality of the outcomes the service does too. -/
theorem ReadyFor.clientAcks (h : ReadyFor c p now)
    (hclient : RxPayload c (receivedHeader f version frameType) f.payload c' out)
    {ctx : ReassemblyCtx} (hctx : c.contextFor (headerOf f) = some ctx)
    (hle : f.fragIdx.toNat ≤ ctx.fragIdx) :
    (clientOutcome c out).acks ≠ [] ∧ ClientAcks c c' f ctx (clientOutcome c out).messages := by
  cases hclient with
  | ignored hahead => exact absurd hle (not_le.mpr (hahead ctx hctx))
  | duplicate hstored hidx =>
    obtain rfl := Option.some.inj (hctx.symm.trans (contextFor_of_stored hstored))
    rw [clientOutcome_acks_only h.loop h.connected]
    exact ⟨List.cons_ne_nil _ _, .duplicate hidx rfl rfl⟩
  | appended hfor hidx hlast =>
    obtain rfl := Option.some.inj (hctx.symm.trans hfor)
    rw [clientOutcome_acks_only h.loop h.connected]
    exact ⟨List.cons_ne_nil _ _, .appended hidx hlast rfl rfl⟩
  | delivered hfor hidx hlast =>
    obtain rfl := Option.some.inj (hctx.symm.trans hfor)
    rw [clientOutcome_acks h.loop h.connected]
    exact ⟨List.cons_ne_nil _ _, .delivered hidx hlast⟩

/-- A frame of another shape opens a second context at the service, which the client has nothing
for. So the shape is the same when the two still hold the same afterwards. -/
theorem ReadyFor.sameShape (h : ReadyFor c p now) (hafter : HoldSame c' q) {ctx : ReassemblyCtx}
    (hctx : c.contextFor (headerOf f) = some ctx) {messages : List (List UInt8)}
    (hclient : ClientAcks c c' f ctx messages) {j : ℕ} {b : TransportBuffer Unit}
    {q' : TransportBufferPool Unit Unit} (hq : Obtained p now f.fragment none j b q')
    (hwhich : f.fragIdx < b.fragIdx ∨ messages ≠ [] ∨
      q.contexts[j]? = some ((b.mark id).accept now f.payload)) :
    SameShape ctx f ∧ Mirrors b ctx := by
  rcases h.hold.obtained h.query h.fresh hq with
    ⟨ctx', hctx', hshape, hm⟩ | ⟨hzero, hbzero, ctx', hstored, hno⟩
  · -- the service found the context of this shape
    obtain rfl := Option.some.inj (hctx.symm.trans hctx')
    exact ⟨hshape, hm⟩
  · obtain rfl := Option.some.inj (hctx.symm.trans (contextFor_of_stored hstored))
    -- it opened a second one with fragment 0, which the client takes for a repetition
    have hbehind : f.fragIdx.toNat < ctx.fragIdx := by
      rw [hzero]
      exact h.started _ _ hstored
    cases hclient with
    | appended heq => exact absurd heq hbehind.ne
    | delivered heq => exact absurd heq hbehind.ne
    | duplicate _ hc hnil =>
      subst hc
      rcases hwhich with hlt | hne | hq'
      · rw [hbzero, UInt8.lt_iff_toNat_lt] at hlt
        exact absurd hlt (Nat.not_lt_zero _)
      · exact absurd hnil hne
      · -- the new context mirrors the one of the client, which has another shape
        obtain ⟨x, hx, hm⟩ := hafter.service j _ hq' hq.receiving
        rw [show ((b.mark id).accept now f.payload).seqId = f.seqId from hq.seqId, hstored] at hx
        obtain rfl := Option.some.inj hx
        refine absurd ⟨?_, ?_⟩ hno
        · rw [← hm.totalSizeBytes]
          exact congrArg UInt16.toNat hq.totalSizeBytes
        · rw [← hm.fragTotal]
          exact congrArg UInt8.toNat hq.fragTotal

/-- The 256th fragment is counted as 256 by the client, and as 0 by the service, so afterwards the
two would not hold the same. -/
theorem succ_lt_of_hold (hafter : HoldSame c' q) {ctx : ReassemblyCtx}
    {messages : List (List UInt8)} (hclient : ClientAcks c c' f ctx messages)
    {b : TransportBuffer Unit} (hm : Mirrors b ctx) (hidx : f.fragIdx.toNat = ctx.fragIdx) :
    ctx.fragIdx + 1 < 2 ^ 8 := by
  have hlt := b.fragIdx.toNat_lt
  rw [hm.fragIdx] at hlt
  -- suppose it is the 256th: then the mirrored counter of the service cannot have that value
  refine lt_of_le_of_ne hlt fun hcount => ?_
  cases hclient with
  | duplicate hbehind => exact absurd hidx hbehind.ne
  -- the client keeps the context, whose counter is 256 now
  | appended _ _ hc =>
    subst hc
    obtain ⟨k, d, -, -, -, hmd⟩ := hafter.client _ _ (setContext_self c _ _)
    have hd := d.fragIdx.toNat_lt
    rw [hmd.fragIdx] at hd
    exact absurd hcount hd.ne
  -- the last of 256 fragments, but the total is a byte as well
  | delivered _ hlast =>
    have htotal := b.fragTotal.toNat_lt
    rw [hm.fragTotal, ← hlast] at htotal
    exact absurd hcount htotal.ne

/-- **The condition is necessary.** A frame that does not meet it makes the outcomes or the contexts
differ. The proof goes by what the service did with a frame that both have acknowledged. -/
theorem ReadyFor.sameVerdict (h : ReadyFor c p now)
    (hservice : DataFrameStep (some cb) none id now f.fragment p q effects)
    (hclient : RxPayload c (receivedHeader f version frameType) f.payload c' out)
    (hsame : serviceOutcome (effects.map (bleRxEffect f)) = clientOutcome c out)
    (hafter : HoldSame c' q) : SameVerdict c p f := by
  intro ctx hctx hle
  obtain ⟨hacks, hclient⟩ := h.clientAcks hclient hctx hle
  rw [← hsame] at hacks hclient
  obtain ⟨hpayload, hserviceAcks⟩ := serviceAcks_of_outcome hservice hacks
  cases hserviceAcks with
  | duplicate hq hidx =>
    -- a copy need not fit, but it needs a payload
    obtain ⟨hshape, hm⟩ := h.sameShape hafter hctx hclient hq (Or.inl hidx)
    refine ⟨hshape, hpayload, fun heq => ?_, h.hold.free_of_obtained h.fresh hq⟩
    rw [UInt8.lt_iff_toNat_lt, hm.fragIdx] at hidx
    exact absurd heq hidx.ne
  | success hq hidx hfit hlast hstored =>
    obtain ⟨hshape, hm⟩ := h.sameShape hafter hctx hclient hq (Or.inr (Or.inr hstored))
    refine ⟨hshape, hpayload, fun heq => ?_, h.hold.free_of_obtained h.fresh hq⟩
    have hbyte := succ_lt_of_hold hafter hclient hm heq
    rw [len_eq_length_data, hm.data, hm.totalSizeBytes] at hfit
    exact ⟨hfit, fun hdone => absurd ((hm.succ hbyte).2.mpr hdone) hlast, hbyte⟩
  | @complete j b q' hq hidx hlen hmessage =>
    obtain ⟨hshape, hm⟩ := h.sameShape hafter hctx hclient hq (Or.inr (Or.inl hmessage))
    refine ⟨hshape, hpayload, fun heq => ?_, h.hold.free_of_obtained h.fresh hq⟩
    have hbyte := succ_lt_of_hold hafter hclient hm heq
    rw [hm.accept_len (hq.buffer_ne_none h.pool), hm.totalSizeBytes] at hlen
    exact ⟨hlen.le, fun _ => hlen, hbyte⟩

end Frame

/-! ### One value -/

section Value

variable {buf : List UInt8}

/-- Both read the same header, whatever the bytes: a field that is cut off is read as zero bits on
both sides. -/
theorem unpack_eq_receivedHeader (buf : List UInt8) :
    .unpack buf = receivedHeader (.ofBytes buf) (field buf 0 1) (field buf 1 1) := by
  have hseq : (UInt16.ofNat (field buf 2 2)).toNat = field buf 2 2 :=
    UInt16.toNat_ofNat_of_lt' (field_lt buf 2 2)
  have htotal : (UInt16.ofNat (field buf 4 2)).toNat = field buf 4 2 :=
    UInt16.toNat_ofNat_of_lt' (field_lt buf 4 2)
  have hidx : (UInt8.ofNat (field buf 6 1)).toNat = field buf 6 1 :=
    UInt8.toNat_ofNat_of_lt' (field_lt buf 6 1)
  have hfrag : (UInt8.ofNat (field buf 7 1)).toNat = field buf 7 1 :=
    UInt8.toNat_ofNat_of_lt' (field_lt buf 7 1)
  unfold receivedHeader headerOf AlfieBleServiceProtoDataFrame.ofBytes DataFrameHeader.unpack
  dsimp only
  rw [hseq, htotal, hidx, hfrag]

/-- The byte of a frame type as the client compares it. -/
theorem bleFrameTypeOf_eq_iff (t : AlfieBleServiceProtoFrameType) :
    bleFrameTypeOf buf = some t ↔ field buf 1 1 = t.toByte.toNat := by
  -- the client compares the value of the field, the service the byte
  have hbyte : (UInt8.ofNat (field buf 1 1)).toNat = field buf 1 1 :=
    UInt8.toNat_ofNat_of_lt' (field_lt buf 1 1)
  rw [← hbyte, UInt8.toNat_inj]
  unfold bleFrameTypeOf AlfieBleServiceProtoFrameType.ofByte
  generalize UInt8.ofNat (field buf 1 1) = byte
  constructor
  · intro h
    split at h
    · next hbyte =>
      obtain rfl := Option.some.inj h
      exact hbyte
    split at h
    · next hbyte =>
      obtain rfl := Option.some.inj h
      exact hbyte
    · cases h
  · rintro rfl
    cases t <;> rfl

/-- Whether a value is a data frame, for both receivers. -/
def IsDataFrame (buf : List UInt8) : Prop :=
  bleFrameTypeOf buf = some .data ∧ alfieBleServiceProtoDataFrameSizeBytes ≤ buf.length

/-- The service takes a data frame to its pool, with its fragment and no query parameters. -/
theorem prvOnDataWrite_of_data (h : IsDataFrame buf) (now : UInt32) (st : AlfieBleService) :
    prvOnDataWrite now buf st =
      ({ st with rxPool := (handleDataFrame st.transportRxCallback none id now
          (AlfieBleServiceProtoDataFrame.ofBytes buf).fragment st.rxPool).1 },
        (handleDataFrame st.transportRxCallback none id now
          (AlfieBleServiceProtoDataFrame.ofBytes buf).fragment st.rxPool).2.map
            (bleRxEffect (.ofBytes buf))) := by
  unfold prvOnDataWrite prvHandleIncomingDataFrame
  rw [if_neg (not_lt.mpr (le_trans (by decide) h.2)), h.1]
  exact if_neg (not_lt.mpr h.2)

/-- Anything else leaves the pool alone, and has no effect but, for an ACK, the semaphore. -/
theorem prvOnDataWrite_of_not_data (h : ¬ IsDataFrame buf) (now : UInt32) (st : AlfieBleService) :
    (prvOnDataWrite now buf st).1.rxPool = st.rxPool ∧ (prvOnDataWrite now buf st).2 = [] := by
  unfold prvOnDataWrite
  split
  · exact ⟨rfl, rfl⟩
  split
  · next htype =>
    unfold prvHandleIncomingDataFrame
    rw [if_pos (not_le.mp fun hlen => h ⟨htype, hlen⟩)]
    exact ⟨rfl, rfl⟩
  · unfold prvHandleIncomingDataAck
    split
    · exact ⟨rfl, rfl⟩
    · exact ⟨rfl, rfl⟩
  · exact ⟨rfl, rfl⟩

/-- The client takes a data frame to its contexts, with the header as it reads it. -/
theorem onNotification_of_data (h : IsDataFrame buf) (c : MessagingClient) :
    c.onNotification buf = c.handleRxPayload
      (receivedHeader (.ofBytes buf) (field buf 0 1) (field buf 1 1))
      (AlfieBleServiceProtoDataFrame.ofBytes buf).payload := by
  have htype : field buf 1 1 = frameTypeData := (bleFrameTypeOf_eq_iff .data).mp h.1
  rw [← unpack_eq_receivedHeader]
  unfold MessagingClient.onNotification
  rw [if_neg (not_lt.mpr (le_trans (by decide) h.2)), htype, if_neg (by decide), if_pos rfl,
    if_neg (not_lt.mpr h.2)]
  rfl

/-- Anything else leaves the contexts alone, and has no effect but, for an ACK, the event. -/
theorem onNotification_of_not_data (h : ¬ IsDataFrame buf) (c : MessagingClient) :
    (c.onNotification buf).1.rxContexts = c.rxContexts ∧
      (c.onNotification buf).1.loop = c.loop ∧ (c.onNotification buf).1.connected = c.connected ∧
      (c.onNotification buf).2 = [] := by
  unfold MessagingClient.onNotification
  dsimp only
  split
  · exact ⟨rfl, rfl, rfl, rfl⟩
  split
  · exact ⟨rfl, rfl, rfl, rfl⟩
  split
  · next htype =>
    rw [if_pos (not_le.mp fun hlen => h ⟨(bleFrameTypeOf_eq_iff .data).mpr htype, hlen⟩)]
    exact ⟨rfl, rfl, rfl, rfl⟩
  · exact ⟨rfl, rfl, rfl, rfl⟩

end Value

/-! ### Runs -/

/-- What holds as long as every frame has met the condition. `recent` is what keeps the service's
contexts from timing out. -/
structure AgreeInv (callback : TransportRxCallback Unit) (r : Reassemblers) : Prop where
  logs : r.serviceLog = r.clientLog
  hold : HoldSame r.client r.service.rxPool
  client : ClientInv r.client
  connected : r.client.connected = true
  receiver : BleReceiverInv (some callback) r.service
  recent : ReceivingAll (fun b => ∃ t, t ≤ r.elapsedMs ∧ b.lastRxTimeMs = r.start + UInt32.ofNat t)
    r.service.rxPool

section Runs

variable {callback : TransportRxCallback Unit} {r r' : Reassemblers}

/-- Both receivers are empty, and nothing has been seen of either. -/
theorem AgreeInv.init (mtu : ℕ) (callback : TransportRxCallback Unit) (start : UInt32) :
    AgreeInv callback (.init mtu callback start) where
  logs := rfl
  hold :=
    { service := fun k b hk hb => by
        rw [List.eq_of_mem_replicate (List.mem_of_getElem? hk)] at hb
        cases hb
      client := fun _ _ h => by cases h }
  client := ClientInv.init.step (.connect mtu)
  connected := rfl
  receiver := .init _
  recent := fun k b hk hb => by
    rw [List.eq_of_mem_replicate (List.mem_of_getElem? hk)] at hb
    cases hb

/-- Within the receive timeout no context has timed out, the last fragment of each being younger
than the run. -/
theorem AgreeInv.allFresh (h : AgreeInv callback r) {elapsedMs : ℕ} (hle : r.elapsedMs ≤ elapsedMs)
    (hlt : elapsedMs < alfieBleServiceRxTimeoutMs) :
    AllFresh (r.start + UInt32.ofNat elapsedMs) r.service.rxPool := by
  intro b hb
  obtain ⟨k, hk⟩ := List.getElem?_of_mem hb
  -- only a RECEIVING context times out
  by_cases hst : b.state = .receiving
  · obtain ⟨t, ht, hlast⟩ := h.recent k b hk hst
    -- the clock of the service wraps, but the difference of two readings within the timeout does
    -- not
    have hsub : r.start + UInt32.ofNat elapsedMs - b.lastRxTimeMs = UInt32.ofNat (elapsedMs - t) := by
      have hsplit : elapsedMs = t + (elapsedMs - t) := (Nat.add_sub_cancel' (ht.trans hle)).symm
      rw [hlast]
      conv_lhs => rw [hsplit]
      rw [UInt32.ofNat_add, ← UInt32.add_assoc, UInt32.add_comm, UInt32.add_sub_cancel]
    have hdiff : elapsedMs - t < alfieBleServiceRxTimeoutMs := lt_of_le_of_lt (Nat.sub_le _ _) hlt
    have hsize : elapsedMs - t < UInt32.size := hdiff.trans (by decide)
    have htimeout : (UInt32.ofNat alfieBleServiceRxTimeoutMs).toNat = alfieBleServiceRxTimeoutMs :=
      by decide
    rw [timedOut_eq_false_iff hst, hsub, h.receiver.timeout, UInt32.lt_iff_toNat_lt, htimeout,
      UInt32.toNat_ofNat_of_lt' hsize]
    exact hdiff
  · unfold TransportBuffer.timedOut
    rw [decide_eq_false hst]
    rfl

/-- So the frame lemmas apply to the next value. -/
theorem AgreeInv.readyFor (h : AgreeInv callback r) {elapsedMs : ℕ} (hle : r.elapsedMs ≤ elapsedMs)
    (hlt : elapsedMs < alfieBleServiceRxTimeoutMs) :
    ReadyFor r.client r.service.rxPool (r.start + UInt32.ofNat elapsedMs) where
  hold := h.hold
  started := h.client.started
  loop := h.client.loop h.connected
  connected := h.connected
  pool := h.receiver.pool
  unique := h.receiver.unique
  query := h.receiver.query
  fresh := h.allFresh hle hlt

/-- One more entry in both logs: they stay equal exactly if the entries are. -/
theorem AgreeInv.logs_iff (h : AgreeInv callback r) (o o' : FrameOutcome) :
    r.serviceLog ++ [o] = r.clientLog ++ [o'] ↔ o = o' := by
  rw [h.logs, List.append_cancel_left_eq, List.singleton_inj]

/-- **The condition on the next input is exact**, in both directions: it keeps the logs and the
contexts alike, and nothing weaker does. -/
theorem AgreeInv.step_iff (h : AgreeInv callback r) {x : ReassemblyInput}
    (hwithin : WithinReceiveTimeout r x) (hstep : r.step x = some r') :
    FramesAgree r x ↔
      r'.serviceLog = r'.clientLog ∧ HoldSame r'.client r'.service.rxPool := by
  cases x with
  | release i =>
    obtain rfl := Option.some.inj hstep
    refine ⟨fun _ => ⟨h.logs, ?_⟩, fun _ => trivial⟩
    -- a REFERENCED context is released, which leaves the RECEIVING ones
    exact h.hold.congr fun k b hst => releaseReferenced_receiving_iff hst
  | value elapsedMs buf =>
    obtain ⟨hle, hlt, -⟩ := hwithin
    obtain rfl := Option.some.inj hstep
    dsimp only
    rw [h.logs_iff]
    by_cases hdata : IsDataFrame buf
    · have hready := h.readyFor hle hlt
      rw [prvOnDataWrite_of_data hdata, onNotification_of_data hdata]
      -- the service sees the frame's fields as they are, the client the header it has unpacked
      have hservice := handleDataFrame_spec r.service.transportRxCallback none id
        (r.start + UInt32.ofNat elapsedMs) (AlfieBleServiceProtoDataFrame.ofBytes buf).fragment
        r.service.rxPool
      have hclient := handleRxPayload_spec r.client
        (receivedHeader (.ofBytes buf) (field buf 0 1) (field buf 1 1))
        (AlfieBleServiceProtoDataFrame.ofBytes buf).payload
      rw [h.receiver.callback] at hservice ⊢
      constructor
      · -- the condition is enough, and each of its parts shows in what the two have afterwards
        exact fun hagree => hready.agree (hagree hdata.1 hdata.2) hservice hclient
      · exact fun hsame _ _ => hready.sameVerdict hservice hclient hsame.1 hsame.2
    · -- no data frame: neither receiver has an effect
      obtain ⟨hpool, hnone⟩ :=
        prvOnDataWrite_of_not_data hdata (r.start + UInt32.ofNat elapsedMs) r.service
      obtain ⟨hctx, -, -, hnone'⟩ := onNotification_of_not_data hdata r.client
      rw [hpool, hnone, hnone']
      refine ⟨fun _ => ⟨rfl, ?_⟩, fun _ htype hlen => absurd ⟨htype, hlen⟩ hdata⟩
      exact
        { service := fun k b hk hb => by
            rw [hctx]
            exact h.hold.service k b hk hb
          client := fun seqId ctx hc => by
            rw [hctx] at hc
            exact h.hold.client seqId ctx hc }

/-- **Step lemma.** To the relation it adds what each receiver keeps by itself. -/
theorem AgreeInv.step (h : AgreeInv callback r) {x : ReassemblyInput}
    (hwithin : WithinReceiveTimeout r x) (hagree : FramesAgree r x) (hstep : r.step x = some r') :
    AgreeInv callback r' := by
  obtain ⟨hlogs, hhold⟩ := (h.step_iff hwithin hstep).mp hagree
  cases x with
  | release i =>
    obtain rfl := Option.some.inj hstep
    exact ⟨hlogs, hhold, h.client, h.connected, h.receiver.release i, h.recent.release i⟩
  | value elapsedMs buf =>
    obtain ⟨hle, -, -⟩ := hwithin
    obtain rfl := Option.some.inj hstep
    -- an accepted fragment is no later than the present
    have hlater : ReceivingAll (fun b => ∃ t, t ≤ elapsedMs ∧
        b.lastRxTimeMs = r.start + UInt32.ofNat t) r.service.rxPool := by
      intro k b hk hb
      obtain ⟨t, ht, hlast⟩ := h.recent k b hk hb
      exact ⟨t, ht.trans hle, hlast⟩
    refine ⟨hlogs, hhold, h.client.step (.notification buf), ?_, h.receiver.dataWrite _ _, ?_⟩
    · dsimp only
      by_cases hdata : IsDataFrame buf
      · -- a notification does not end the connection
        rw [onNotification_of_data hdata]
        exact (handleRxPayload_spec _ _ _).config.2.1.trans h.connected
      · exact (onNotification_of_not_data hdata r.client).2.2.1.trans h.connected
    · dsimp only
      by_cases hdata : IsDataFrame buf
      · rw [prvOnDataWrite_of_data hdata]
        refine (handleDataFrame_spec _ _ _ _ _ _).receivingAll hlater ?_ ?_
        · -- a context is as old as its last accepted fragment
          intro j b q hq
          cases hq with
          | found hi hmatch =>
            have hst := (isMatch_iff.mp hmatch).1
            exact hlater _ _ (getElem?_expire_receiving hi hst).1 hst
          | fresh => exact ⟨elapsedMs, le_rfl, rfl⟩
        · intro j b q _ _ _ _ _
          exact ⟨elapsedMs, le_rfl, rfl⟩
      · rw [(prvOnDataWrite_of_not_data hdata _ r.service).1]
        exact hlater

/-- **The reassemblers agree.** In a run whose frames all meet the condition the client and the
service have acknowledged the same frames and delivered the same messages. For the next input the
condition is exact: without it the two answer differently, or hold different contexts. -/
theorem reassemblers_agree (mtu : ℕ) (callback : TransportRxCallback Unit) (start : UInt32)
    (xs : List ReassemblyInput) (r : Reassemblers)
    (hrun : Steps Reassemblers.step (fun r x => WithinReceiveTimeout r x ∧ FramesAgree r x)
      (.init mtu callback start) xs r) :
    r.serviceLog = r.clientLog ∧ ∀ x r', WithinReceiveTimeout r x → r.step x = some r' →
      (FramesAgree r x ↔
        r'.serviceLog = r'.clientLog ∧ HoldSame r'.client r'.service.rxPool) := by
  have hinv : AgreeInv callback r :=
    hrun.invariant (fun _ _ _ hs hcond hstep => hs.step hcond.1 hcond.2 hstep)
      (.init mtu callback start)
  exact ⟨hinv.logs, fun x r' hwithin hstep => hinv.step_iff hwithin hstep⟩

end Runs

/-- A message in two frames, the first one repeated after the sender's ACK timeout. -/
def repeatedFirst : List ReassemblyInput :=
  [.value 0 (AlfieBleServiceProtoDataFrame.mk 7 3 0 2 [1, 2]).toBytes,
    .value 2500 (AlfieBleServiceProtoDataFrame.mk 7 3 0 2 [1, 2]).toBytes,
    .value 2600 (AlfieBleServiceProtoDataFrame.mk 7 3 1 2 [3]).toBytes]

/-- Both deliver it once, and acknowledge each of the three values. -/
theorem reassemblers_agree_repeatedFirst : ∃ r : Reassemblers,
    Steps Reassemblers.step (fun r x => WithinReceiveTimeout r x ∧ FramesAgree r x)
      (.init 247 (fun _ => 1) 0) repeatedFirst r ∧
      r.serviceLog.flatMap FrameOutcome.messages = [[1, 2, 3]] ∧ r.serviceLog = r.clientLog := by
  have hsome : (checkRun Reassemblers.step (fun r x => WithinReceiveTimeout r x ∧ FramesAgree r x)
      (.init 247 (fun _ => 1) 0) repeatedFirst).isSome := by decide +kernel
  obtain ⟨r, hr⟩ := Option.isSome_iff_exists.mp hsome
  have hmessages : ∀ r ∈ checkRun Reassemblers.step
      (fun r x => WithinReceiveTimeout r x ∧ FramesAgree r x) (.init 247 (fun _ => 1) 0)
      repeatedFirst, r.serviceLog.flatMap FrameOutcome.messages = [[1, 2, 3]] := by decide +kernel
  have hrun := steps_of_checkRun hr
  exact ⟨r, hrun, hmessages r hr, (reassemblers_agree 247 _ 0 repeatedFirst r hrun).1⟩

/-- The only frame of a message that announces two bytes and carries one. -/
def shortMessage : List ReassemblyInput :=
  [.value 0 (AlfieBleServiceProtoDataFrame.mk 7 2 0 1 [1]).toBytes]

/-- An empty message: one fragment that carries nothing. -/
def emptyMessage : List ReassemblyInput :=
  [.value 0 (AlfieBleServiceProtoDataFrame.mk 7 0 0 1 []).toBytes]

/-- The first frame of a message, and the second one of another message under its `seq_id`. -/
def collidingMessages : List ReassemblyInput :=
  [.value 0 (AlfieBleServiceProtoDataFrame.mk 7 3 0 2 [1, 2]).toBytes,
    .value 10 (AlfieBleServiceProtoDataFrame.mk 7 6 1 3 [3, 4]).toBytes]

/-- On the sequence `xs` the service and the client do not acknowledge the same frames, and do not
deliver the same messages. -/
def DisagreeOn (xs : List ReassemblyInput) : Prop :=
  ∃ r : Reassemblers,
    Steps Reassemblers.step WithinReceiveTimeout (.init 247 (fun _ => 1) 0) xs r ∧
      r.serviceLog.flatMap FrameOutcome.acks ≠ r.clientLog.flatMap FrameOutcome.acks ∧
      r.serviceLog.flatMap FrameOutcome.messages ≠ r.clientLog.flatMap FrameOutcome.messages

/-- On these the client acknowledges a frame that the service does not, and delivers a message of
wrong bytes, an empty one, or one mixed from two. -/
theorem reassemblers_disagree :
    DisagreeOn shortMessage ∧ DisagreeOn emptyMessage ∧ DisagreeOn collidingMessages := by
  have hrun : ∀ xs ∈ [shortMessage, emptyMessage, collidingMessages],
      ∃ r ∈ checkRun Reassemblers.step WithinReceiveTimeout (.init 247 (fun _ => 1) 0) xs,
        r.serviceLog.flatMap FrameOutcome.acks ≠ r.clientLog.flatMap FrameOutcome.acks ∧
        r.serviceLog.flatMap FrameOutcome.messages ≠
          r.clientLog.flatMap FrameOutcome.messages := by decide +kernel
  have hdisagree : ∀ xs ∈ [shortMessage, emptyMessage, collidingMessages], DisagreeOn xs := by
    intro xs hxs
    obtain ⟨r, hr, hdiffer⟩ := hrun xs hxs
    exact ⟨r, steps_of_checkRun hr, hdiffer⟩
  exact ⟨hdisagree _ (by simp), hdisagree _ (by simp), hdisagree _ (by simp)⟩

end DectCommunicator
