import DectCommunicator.Ble.Connection

/-!
# The frames of a call

What both senders cut a call into, and what the two receivers make of it. An `Outgoing` is a call
with the size of its fragments; `sendFragmented_cases` and `alfieBleServiceWrite_cases` say that a
call of either side is refused or a `transfer` of its frames.

A receiver is `Fit` for a call when what it holds under the key of the call is a part of it from the
beginning that lacks something. Then it acknowledges the last frame only in the step that
delivers the data (`ServiceFit.step`, `ClientFit.step`), whatever else it holds.
-/

namespace DectCommunicator

open LittleEndian StopAndWait

/-! ### Frames -/

/-- A call, with the size of its fragments, whose frames have headers: the two bounds say that the
total size and the count fit their fields. A call that violates them is refused before it sends
anything. -/
structure Outgoing where
  size : ℕ
  seqId : UInt16
  data : List UInt8
  length_lt : data.length < 2 ^ 16
  count_lt : max 1 (Chunks.count size data.length) < 2 ^ 8

/-- The number of fragments; there is one even for no data, which only the client sends. -/
def Outgoing.count (o : Outgoing) : ℕ := max 1 (Chunks.count o.size o.data.length)

/-- The `i`-th frame. Both senders fill the header in the same way, so one definition serves
both. -/
def Outgoing.frame (o : Outgoing) (i : ℕ) : AlfieBleServiceProtoDataFrame where
  seqId := o.seqId
  totalSizeBytes := UInt16.ofNat o.data.length
  fragIdx := UInt8.ofNat i
  fragTotal := UInt8.ofNat o.count
  payload := Chunks.chunk o.size i o.data

/-- All the frames, in the order in which they are sent. -/
def Outgoing.frames (o : Outgoing) : List (List UInt8) :=
  (List.range o.count).map fun i => (o.frame i).toBytes

section Outgoing

variable (o : Outgoing)

/-- A call has a frame, and with it a last one. -/
theorem Outgoing.count_pos : 0 < o.count := Nat.le_max_left _ _

/-- The data frames among the frames are those with an index below the count. -/
theorem Outgoing.eq_frame_of_mem {f : AlfieBleServiceProtoDataFrame} (h : f.toBytes ∈ o.frames) :
    ∃ i < o.count, f = o.frame i := by
  obtain ⟨i, hi, hbytes⟩ := List.mem_map.mp h
  exact ⟨i, List.mem_range.mp hi, (AlfieBleServiceProtoDataFrame.toBytes_inj hbytes).symm⟩

/-- There is something to send, so a transfer does not succeed at once. -/
theorem Outgoing.frames_ne_nil : o.frames ≠ [] :=
  List.ne_nil_of_length_pos (by
    rw [Outgoing.frames, List.length_map, List.length_range]
    exact o.count_pos)

/-- The last of the frames is that with the highest index, on whose ACK the success of a call
depends. -/
theorem Outgoing.getLast?_frames : o.frames.getLast? = some (o.frame (o.count - 1)).toBytes := by
  obtain ⟨n, hn⟩ := Nat.exists_eq_add_one.mpr o.count_pos
  unfold Outgoing.frames
  rw [hn, List.range_succ, List.map_append, List.map_singleton, List.getLast?_concat]
  rfl

/-- The count is read back as it is, since it fits a byte. -/
theorem Outgoing.fragTotal_toNat (i : ℕ) : (o.frame i).fragTotal.toNat = o.count :=
  UInt8.toNat_ofNat_of_lt' o.count_lt

/-- And so is the size, which fits two. -/
theorem Outgoing.totalSizeBytes_toNat (i : ℕ) :
    (o.frame i).totalSizeBytes.toNat = o.data.length :=
  UInt16.toNat_ofNat_of_lt' o.length_lt

/-- And so is every index, being smaller than the count. -/
theorem Outgoing.fragIdx_toNat {i : ℕ} (hi : i < o.count) : (o.frame i).fragIdx.toNat = i :=
  UInt8.toNat_ofNat_of_lt' (hi.trans o.count_lt)

/-- A fragment with a payload has a size. The client's is zero with an MTU too small for the header,
and then every payload is empty. -/
theorem Outgoing.size_pos {i : ℕ} (h : (o.frame i).payload ≠ []) : 0 < o.size := by
  refine Nat.pos_of_ne_zero fun hzero => h ?_
  change Chunks.chunk o.size i o.data = []
  rw [hzero]
  rfl

/-- The fragments that fit are all the data, as soon as one of them carries any. -/
theorem Outgoing.take_count {i : ℕ} (h : (o.frame i).payload ≠ []) :
    o.data.take (o.size * o.count) = o.data := by
  refine List.take_of_length_le ?_
  calc o.data.length
      ≤ o.size * Chunks.count o.size o.data.length := Chunks.le_count_mul (o.size_pos h) _
    _ ≤ o.size * o.count := Nat.mul_le_mul_left _ (Nat.le_max_right _ _)

end Outgoing

/-! ### The senders -/

/-- A send of the client is refused, or a transfer of the frames. It is refused when a header cannot
be packed, and since all of them hold the same size and count this shows at the first. -/
theorem sendFragmented_cases (c : MessagingClient) (seqId : UInt16) (data : List UInt8) :
    (¬ c.Packs data ∧ c.sendFragmented seqId data = .ret (.err .structError)) ∨
    ∃ o : Outgoing, c.Packs data ∧ o.seqId = seqId ∧ o.data = data ∧
      c.sendFragmented seqId data = transfer maxTxAttempts ackTimeoutMs o.frames := by
  unfold MessagingClient.Packs
  by_cases hpacks : data.length < 2 ^ 16 ∧ c.fragTotal data < 2 ^ 8
  · obtain ⟨hlen, hcount⟩ := hpacks
    refine Or.inr ⟨⟨c.maxFramePayload, seqId, data, hlen, hcount⟩, ⟨hlen, hcount⟩, rfl, rfl, ?_⟩
    generalize ho : Outgoing.mk c.maxFramePayload seqId data hlen hcount = o
    -- every header packs, and gives the bytes of the frame
    have hframes : (List.range (c.fragTotal data)).mapM (c.frame seqId data) = some o.frames := by
      subst ho
      refine mapM_eq_some_map fun i hi => ?_
      have hi : i < c.fragTotal data := List.mem_range.mp hi
      have hi' : (UInt8.ofNat i).toNat = i := UInt8.toNat_ofNat_of_lt' (hi.trans hcount)
      have hlen' : (UInt16.ofNat data.length).toNat = data.length :=
        UInt16.toNat_ofNat_of_lt' hlen
      have hcount' : (UInt8.ofNat (c.fragTotal data)).toNat = c.fragTotal data :=
        UInt8.toNat_ofNat_of_lt' hcount
      unfold MessagingClient.frame DataFrameHeader.pack
      rw [structPack_eq_some]
      · -- the two packings, field by field
        unfold Outgoing.frame AlfieBleServiceProtoDataFrame.toBytes
        dsimp only
        rw [hlen', hi', show UInt8.ofNat (Outgoing.count _) = UInt8.ofNat (c.fragTotal data) from rfl,
          hcount']
        rfl
      · intro f hf
        simp only [List.mem_cons, List.not_mem_nil, or_false] at hf
        rcases hf with rfl | rfl | rfl | rfl | rfl | rfl
        · decide
        · decide
        · exact seqId.toNat_lt
        · exact hlen
        · exact hi.trans hcount
        · exact hcount
    unfold MessagingClient.sendFragmented
    rw [hframes]
  · refine Or.inl ⟨hpacks, ?_⟩
    -- the first header cannot be packed
    have hfirst : c.frame seqId data 0 = none := by
      unfold MessagingClient.frame DataFrameHeader.pack structPack
      rw [if_neg, Option.map_none]
      intro hall
      refine hpacks ⟨?_, ?_⟩
      · exact hall (2, data.length) (by simp)
      · exact hall (1, c.fragTotal data) (by simp)
    -- there is a first one, since `max(1, ..)` makes at least one fragment
    have hpos : 0 < c.fragTotal data := Nat.le_max_left _ _
    obtain ⟨n, hn⟩ := Nat.exists_eq_add_one.mpr hpos
    unfold MessagingClient.sendFragmented
    rw [hn, List.range_succ_eq_map, List.mapM_cons, hfirst]
    rfl

/-- A call of the service is refused, or a transfer of the frames. The errors are those of the four
checks, which no later proof distinguishes. -/
theorem alfieBleServiceWrite_cases (st : AlfieBleService) (seqId : UInt16) (data : List UInt8) :
    (∃ e, alfieBleServiceWrite st seqId data = .ret (.err e)) ∨
    ∃ o : Outgoing, st.Admits data ∧ o.size = alfieBleServiceProtoMaxDataFramePayloadSizeBytes ∧
      o.count = (bleFragTotalOf data.length).toNat ∧ o.frames = bleFramesOf seqId data ∧
      o.seqId = seqId ∧ o.data = data ∧ alfieBleServiceWrite st seqId data =
        transfer alfieBleServiceTxAttempts alfieBleServiceAckTimeoutMs o.frames := by
  unfold alfieBleServiceWrite
  split
  · exact Or.inl ⟨_, rfl⟩
  split
  · exact Or.inl ⟨_, rfl⟩
  split
  · exact Or.inl ⟨_, rfl⟩
  split
  · exact Or.inl ⟨_, rfl⟩
  · next hpos hle hinit hconn =>
    -- all four checks are passed
    replace hpos := Nat.pos_of_ne_zero hpos
    replace hle := not_lt.mp hle
    -- at most three frames, so that `frag_total` does not wrap
    have hcountpos : 0 < Chunks.count alfieBleServiceProtoMaxDataFramePayloadSizeBytes data.length :=
      Chunks.count_pos (by decide) hpos
    have hcountle : Chunks.count alfieBleServiceProtoMaxDataFramePayloadSizeBytes data.length ≤ 3 :=
      (Chunks.count_mono _ hle).trans (by decide)
    have hcount : max 1 (Chunks.count alfieBleServiceProtoMaxDataFramePayloadSizeBytes data.length) =
        Chunks.count alfieBleServiceProtoMaxDataFramePayloadSizeBytes data.length :=
      max_eq_right hcountpos
    have htotal : (bleFragTotalOf data.length).toNat =
        Chunks.count alfieBleServiceProtoMaxDataFramePayloadSizeBytes data.length :=
      UInt8.toNat_ofNat_of_lt' (lt_of_le_of_lt hcountle (by decide))
    have hlt : max 1 (Chunks.count alfieBleServiceProtoMaxDataFramePayloadSizeBytes data.length)
        < 2 ^ 8 := by
      rw [hcount]
      exact lt_of_le_of_lt hcountle (by decide)
    have hlen : data.length < 2 ^ 16 := lt_of_le_of_lt hle (by decide)
    -- the frames of the specification are those that the loop of the service sends
    have hframes : (Outgoing.mk alfieBleServiceProtoMaxDataFramePayloadSizeBytes seqId data hlen
        hlt).frames = bleFramesOf seqId data := by
      unfold bleFramesOf Outgoing.frames Outgoing.frame Outgoing.count
      dsimp only
      rw [htotal, hcount]
      rfl
    refine Or.inr ⟨⟨alfieBleServiceProtoMaxDataFramePayloadSizeBytes, seqId, data, hlen, hlt⟩,
      ⟨hpos, hle, eq_true_of_ne_false hinit, eq_true_of_ne_false hconn⟩, rfl,
      hcount.trans htotal.symm, hframes, rfl, rfl, ?_⟩
    rw [hframes]

/-! ### The service as the receiver -/

/-- What the pool is RECEIVING under the key of the call is a part of it, from the beginning and
lacking at least the last fragment. A `REFERENCED` context does not matter, because no frame is
written to it. -/
def ServiceFit (o : Outgoing) (p : TransportBufferPool Unit Unit) : Prop :=
  ReceivingAll (fun b => Matches () (o.frame 0).fragment b →
    b.fragIdx.toNat < o.count ∧ b.data = o.data.take (o.size * b.fragIdx.toNat)) p

section Service

variable {o : Outgoing} {callback : Option (TransportRxCallback Unit)} {now : UInt32}
  {p q : TransportBufferPool Unit Unit} {effects : List (RxEffect Unit)}

/-- A pool with no context under the `seq_id` is fit, having no part of the call. -/
theorem serviceFit_of_fresh
    (h : ∀ b ∈ p.contexts, b.state = .receiving → b.seqId ≠ o.seqId) : ServiceFit o p := by
  intro j b hj hb hm
  exact absurd hm.seqId (h b (List.mem_of_getElem? hj) hb)

/-- The consumer drops a reference to a message, which is no part that is being received. -/
theorem ServiceFit.release (h : ServiceFit o p) (i : ℕ) : ServiceFit o (releaseReferenced p i) :=
  ReceivingAll.release h i

/-- The context that a frame of the call obtains holds a part of it: it was RECEIVING and fit, or it
was free and is empty. -/
theorem ServiceFit.obtained (h : ServiceFit o p) (hquery : p.additionalQueryCb = none) {i j : ℕ}
    {b : TransportBuffer Unit} (hq : Obtained p now (o.frame i).fragment none j b q) :
    b.fragIdx.toNat < o.count ∧ b.data = o.data.take (o.size * b.fragIdx.toNat) := by
  rcases hq.found_or_fresh (bleKeyed hquery) with ⟨hj, -, hm⟩ | ⟨-, hidx, hdata, -⟩
  · exact h j b hj hm.receiving ⟨hm.receiving, hm.ext, hm.seqId, hm.fragTotal, hm.totalSizeBytes⟩
  · rw [hidx, hdata]
    refine ⟨o.count_pos, ?_⟩
    rw [UInt8.toNat_zero, Nat.mul_zero, List.take_zero]

/-- The next fragment continues the part, and the last one completes the data. -/
theorem ServiceFit.accepted (h : ServiceFit o p) (hinv : PoolInv p)
    (hquery : p.additionalQueryCb = none) {i j : ℕ} {b : TransportBuffer Unit}
    (hi : i < o.count) (hq : Obtained p now (o.frame i).fragment none j b q)
    (hidx : (o.frame i).fragIdx = b.fragIdx) :
    b.fragIdx.toNat = i ∧ (b.fragIdx + 1).toNat = i + 1 ∧
      ((b.mark id).accept now (o.frame i).payload).data = o.data.take (o.size * (i + 1)) := by
  have hbi : b.fragIdx.toNat = i := by rw [← hidx, o.fragIdx_toNat hi]
  have hcount := o.count_lt
  refine ⟨hbi, ?_, ?_⟩
  · -- the counter of a context does not wrap, the count being a byte
    rw [UInt8.toNat_add, hbi]
    exact Nat.mod_eq_of_lt (lt_of_le_of_lt hi hcount)
  · have hb : (b.mark id).buffer ≠ none := hq.buffer_ne_none hinv
    rw [accept_data now _ hb, mark_data, (h.obtained hquery hq).2, hbi]
    exact Chunks.take_succ _ _ _

/-- **A frame of the call.** The pool stays fit, and the last fragment is acknowledged only with the
data handed up. -/
theorem ServiceFit.step (h : ServiceFit o p) (hinv : PoolInv p) (hquery : p.additionalQueryCb = none)
    {i : ℕ} (hi : i < o.count)
    (hstep : DataFrameStep callback none id now (o.frame i).fragment p q effects) :
    ServiceFit o q ∧ (.ack ∈ effects → i + 1 = o.count → callback.isSome = true →
      ∃ b, .transportRx b ∈ effects ∧ b.data = o.data) := by
  have htotal : ∀ {j b q}, Obtained p now (o.frame i).fragment none j b q →
      b.fragTotal.toNat = o.count := fun hq => by rw [hq.fragTotal]; exact o.fragTotal_toNat i
  constructor
  · refine hstep.receivingAll h (fun j b q hq _ => h.obtained hquery hq) ?_
    intro j b q hq hpayload hidx hfit hlast hm
    obtain ⟨hbi, hsucc, hdata⟩ := h.accepted hinv hquery hi hq hidx
    change (b.fragIdx + 1).toNat < _ ∧
      ((b.mark id).accept now (o.frame i).payload).data = o.data.take (o.size * (b.fragIdx + 1).toNat)
    rw [hsucc, hdata]
    refine ⟨lt_of_le_of_ne hi fun hcount => ?_, rfl⟩
    -- with the last fragment the size is the announced one
    refine hlast (UInt8.toNat_inj.mp (by rw [hsucc, htotal hq, hcount])) ?_
    have hlen : b.totalSizeBytes.toNat = o.data.length := by
      rw [hq.totalSizeBytes]
      exact o.totalSizeBytes_toNat i
    change ((b.mark id).accept now (o.frame i).payload).len = _
    rw [len_eq_length_data, hdata, hcount, o.take_count hpayload, hlen]
  · intro hack hcount hcb
    cases hstep with
    | refused => exact absurd hack List.not_mem_nil
    -- no acknowledgment: the frame is not taken
    | rejected => simp at hack
    | invalidFinalSize => simp at hack
    | @duplicate j b q hq _ hidx =>
      have hlt := UInt8.lt_iff_toNat_lt.mp hidx
      rw [show (o.frame i).fragment.fragIdx.toNat = i from o.fragIdx_toNat hi] at hlt
      have hbound := (h.obtained hquery hq).1
      omega
    | @success j b q hq _ hidx _ hnot =>
      obtain ⟨-, hsucc, -⟩ := h.accepted hinv hquery hi hq hidx
      exact absurd (UInt8.toNat_inj.mp (by rw [hsucc, htotal hq, hcount])) hnot
    | @complete j b b' q hq hpayload hidx _ _ hb' =>
      obtain ⟨-, -, hdata⟩ := h.accepted hinv hquery hi hq hidx
      refine ⟨b', by rw [if_pos hcb]; simp, ?_⟩
      rw [hcount, o.take_count hpayload] at hdata
      rw [hb']
      exact hdata

/-- A frame under another `seq_id` gets another context, so this part is not touched. -/
theorem ServiceFit.other (h : ServiceFit o p) {f : Fragment} (hf : f.seqId ≠ o.seqId)
    (hstep : DataFrameStep callback none id now f p q effects) : ServiceFit o q := by
  have hno : ∀ {j b q}, Obtained p now f none j b q → b.seqId ≠ o.seqId := fun hq => by
    rw [hq.seqId]
    exact hf
  exact hstep.receivingAll h (fun j b q hq hm => absurd hm.seqId (hno hq))
    fun j b q hq _ _ _ _ hm => absurd (show b.seqId = o.seqId from hm.seqId) (hno hq)

end Service

/-! ### The client as the receiver -/

/-- What the client holds under the `seq_id` of the call is a part of it. Its context remembers the
count of the frame that created it, so that is said as well. -/
def ClientFit (o : Outgoing) (c : MessagingClient) : Prop :=
  ∀ ctx, c.rxContexts o.seqId.toNat = some ctx →
    ctx.fragTotal = o.count ∧ ctx.fragIdx < o.count ∧
      ctx.buffer = o.data.take (o.size * ctx.fragIdx)

section Client

variable {o : Outgoing} {c c' : MessagingClient} {effects : List ClientEffect}

/-- A change under another `seq_id` does not touch it. -/
theorem ClientFit.setContext_other (h : ClientFit o c) {seqId : ℕ} (hne : seqId ≠ o.seqId.toNat)
    (ctx : Option ReassemblyCtx) : ClientFit o (c.setContext seqId ctx) := by
  intro x hx
  rw [DectCommunicator.setContext_of_ne c hne.symm] at hx
  exact h x hx

/-- A change under the `seq_id` of the call has to leave a part of it, or nothing. -/
theorem ClientFit.setContext_self (ctx : Option ReassemblyCtx)
    (hctx : ∀ x ∈ ctx, x.fragTotal = o.count ∧ x.fragIdx < o.count ∧
      x.buffer = o.data.take (o.size * x.fragIdx)) :
    ClientFit o (c.setContext o.seqId.toNat ctx) := by
  intro x hx
  rw [DectCommunicator.setContext_self] at hx
  exact hctx x hx

/-- The context for a frame of the call holds a part of it, an empty one when it has just been
created. -/
theorem ClientFit.contextFor (h : ClientFit o c) {i : ℕ} {ctx : ReassemblyCtx}
    (hctx : c.contextFor (headerOf (o.frame i)) = some ctx) :
    ctx.fragTotal = o.count ∧ ctx.fragIdx < o.count ∧
      ctx.buffer = o.data.take (o.size * ctx.fragIdx) := by
  unfold MessagingClient.contextFor at hctx
  split at hctx
  · next x hx =>
    obtain rfl := Option.some.inj hctx
    exact h x hx
  · split at hctx
    · cases hctx
    · obtain rfl := Option.some.inj hctx
      exact ⟨o.fragTotal_toNat i, o.count_pos, by rw [Nat.mul_zero, List.take_zero]⟩

/-- The last fragment completes the data: what is before it is held, and nothing is behind it. -/
theorem ClientFit.complete (h : ClientFit o c) {i : ℕ} (hi : i < o.count) (hsize : 0 < o.size)
    {ctx : ReassemblyCtx} (hctx : c.contextFor (headerOf (o.frame i)) = some ctx)
    (heq : (headerOf (o.frame i)).fragIdx = ctx.fragIdx)
    (hlast : ctx.fragIdx + 1 = ctx.fragTotal) : ctx.buffer ++ (o.frame i).payload = o.data := by
  obtain ⟨htotal, -, hbuffer⟩ := h.contextFor hctx
  have hidx : (headerOf (o.frame i)).fragIdx = i := o.fragIdx_toNat hi
  rw [hidx] at heq
  rw [hbuffer, ← heq]
  refine (Chunks.take_succ _ _ _).trans ?_
  rw [heq, hlast, htotal]
  refine List.take_of_length_le ?_
  calc o.data.length
      ≤ o.size * Chunks.count o.size o.data.length := Chunks.le_count_mul hsize _
    _ ≤ o.size * o.count := Nat.mul_le_mul_left _ (Nat.le_max_right _ _)

/-- **A frame of the call.** The client stays fit, the last fragment is acknowledged only with the
data delivered, and nothing else is delivered. -/
theorem ClientFit.step (h : ClientFit o c) {i : ℕ} (hi : i < o.count) (hsize : 0 < o.size)
    (hstep : RxPayload c (headerOf (o.frame i)) (o.frame i).payload c' effects) :
    ClientFit o c' ∧ (∀ header, .sendAck header ∈ effects → i + 1 = o.count →
      .deliverMessage o.data ∈ effects) ∧ ∀ m, .deliverMessage m ∈ effects → m = o.data := by
  have hidx : (headerOf (o.frame i)).fragIdx = i := o.fragIdx_toNat hi
  -- an ACK is no delivery
  have hacks : ∀ m, .deliverMessage m ∉ c.acks (headerOf (o.frame i)) := by
    intro m hm
    unfold MessagingClient.acks at hm
    split at hm
    · cases List.mem_singleton.mp hm
    · cases hm
  cases hstep with
  | ignored =>
    exact ⟨h, fun _ hack => absurd hack List.not_mem_nil, fun _ hm => absurd hm List.not_mem_nil⟩
  | duplicate hctx hlt =>
    -- the last fragment completes the message, so it is never behind a context
    refine ⟨h, fun _ _ hcount => ?_, fun m hm => absurd hm (hacks m)⟩
    have hbound := (h _ hctx).2.1
    rw [hidx] at hlt
    omega
  | appended hctx heq hlast =>
    -- the part is longer by the fragment, and still lacks the last one
    obtain ⟨htotal, hbound, hbuffer⟩ := h.contextFor hctx
    rw [hidx] at heq
    refine ⟨.setContext_self _ fun x hx => ?_, fun _ _ hcount => ?_, fun m hm => absurd hm (hacks m)⟩
    · obtain rfl := Option.some.inj hx
      refine ⟨htotal, lt_of_le_of_ne hbound fun hcount => hlast (hcount.trans htotal.symm), ?_⟩
      unfold ReassemblyCtx.append
      dsimp only
      rw [hbuffer, ← heq]
      exact Chunks.take_succ _ _ _
    · exact absurd (by rw [← heq, hcount, htotal]) hlast
  | delivered hctx heq hlast =>
    -- the context is closed in the step that delivers
    have hdata := h.complete hi hsize hctx heq hlast
    refine ⟨.setContext_self _ (fun x hx => by cases hx), fun _ _ _ => ?_, fun m hm => ?_⟩
    · rw [hdata]
      exact List.mem_append_right _ (List.mem_singleton.mpr rfl)
    · rcases List.mem_append.mp hm with hm | hm
      · exact absurd hm (hacks m)
      · injection List.mem_singleton.mp hm with hm
        exact hm.trans hdata

/-- A frame under another `seq_id` is handled in another context. -/
theorem ClientFit.other (h : ClientFit o c) {header : DataFrameHeader} {payload : List UInt8}
    (hne : header.seqId ≠ o.seqId.toNat) (hstep : RxPayload c header payload c' effects) :
    ClientFit o c' := by
  cases hstep with
  | ignored => exact h
  | duplicate => exact h
  | appended => exact h.setContext_other hne _
  | delivered => exact h.setContext_other hne _

end Client

end DectCommunicator
