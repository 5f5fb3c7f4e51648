import DectCommunicator.Ble.AlfieServiceSpec
import DectCommunicator.BleClient.Client

/-!
# The frames of the client and of the service

The two ends are written in two languages; here they are compared byte by byte. The frames that
the client sends are data frames of the service (`sendFragmented_eq`), and a data frame or an ACK
of the service is read by the client as what it is (`onNotification_data`, `onNotification_ack`,
`sendAck_headerOf`).
-/

namespace DectCommunicator

open LittleEndian StopAndWait

/-! ### Sending -/

/-- The frame with fragment `i` of a message, in the fields of the service. -/
def bleFrame (m : Message) (i : ℕ) : AlfieBleServiceProtoDataFrame where
  seqId := m.seqId
  totalSizeBytes := UInt16.ofNat m.data.length
  fragIdx := UInt8.ofNat i
  fragTotal := UInt8.ofNat m.count
  payload := Chunks.chunk m.size i m.data

/-- Reassembly finds in it the fragment of the message. -/
theorem bleFrame_fragment (m : Message) (i : ℕ) : (bleFrame m i).fragment = m.fragment i := rfl

/-- All the frames of a message, in order, each listed once. -/
def bleFrames (m : Message) : List (List UInt8) :=
  (List.range m.count).map fun i => (bleFrame m i).toBytes

/-- When every element has a result, so has the list. -/
theorem mapM_eq_some_map {α β : Type} {f : α → Option β} {g : α → β} {l : List α}
    (h : ∀ a ∈ l, f a = some (g a)) : l.mapM f = some (l.map g) := by
  induction l with
  | nil => rfl
  | cons a l ih =>
    obtain ⟨ha, hl⟩ := List.forall_mem_cons.mp h
    rw [List.mapM_cons, ha, ih hl]
    rfl

section Send

variable {c : MessagingClient} {m : Message}

/-- The client cuts a message as `m` says, given fragments of the same size. -/
theorem fragTotal_eq (hsize : c.maxFramePayload = m.size) : c.fragTotal m.data = m.count := by
  have hcount := m.count_pos
  unfold MessagingClient.fragTotal
  rw [hsize]
  exact max_eq_right hcount

/-- Frame `i` of the client is that of the service: its values fit the fields of the header. -/
theorem frame_eq (hsize : c.maxFramePayload = m.size) {i : ℕ} (hi : i < m.count) :
    c.frame m.seqId m.data i = some (bleFrame m i).toBytes := by
  -- a message of the model has at most 255 fragments of at most 65535 bytes in all
  have hidx : i < 256 := hi.trans m.count_lt
  have hcount : m.count < 256 := m.count_lt
  have htotal : m.data.length < 65536 := m.length_lt
  unfold MessagingClient.frame DataFrameHeader.pack
  rw [fragTotal_eq hsize, structPack_eq_some]
  · have hlen : (UInt16.ofNat m.data.length).toNat = m.data.length := UInt16.toNat_ofNat_of_lt' htotal
    have hi' : (UInt8.ofNat i).toNat = i := UInt8.toNat_ofNat_of_lt' hidx
    have hcount' : (UInt8.ofNat m.count).toNat = m.count := UInt8.toNat_ofNat_of_lt' hcount
    unfold bleFrame AlfieBleServiceProtoDataFrame.toBytes
    dsimp only
    rw [hlen, hi', hcount', hsize]
    rfl
  · -- each field is within its range, so `struct.pack` does not raise
    intro f hf
    simp only [List.mem_cons, List.not_mem_nil, or_false] at hf
    rcases hf with rfl | rfl | rfl | rfl | rfl | rfl
    · decide
    · decide
    · exact m.seqId.toNat_lt
    · exact htotal
    · exact hidx
    · exact hcount

/-- **The client sends the frames of the message**, each with retries. -/
theorem sendFragmented_eq (hsize : c.maxFramePayload = m.size) :
    c.sendFragmented m.seqId m.data = transfer maxTxAttempts ackTimeoutMs (bleFrames m) := by
  have hframes : (List.range (c.fragTotal m.data)).mapM (c.frame m.seqId m.data)
      = some (bleFrames m) := by
    rw [fragTotal_eq hsize]
    exact mapM_eq_some_map fun i hi => frame_eq hsize (List.mem_range.mp hi)
  unfold MessagingClient.sendFragmented
  rw [hframes]

end Send

/-! ### Receiving -/

/-- The header of a data frame as the client reads it, in numbers instead of machine words. -/
def headerOf (f : AlfieBleServiceProtoDataFrame) : DataFrameHeader where
  version := 0
  frameType := frameTypeData
  seqId := f.seqId.toNat
  totalSizeBytes := f.totalSizeBytes.toNat
  fragIdx := f.fragIdx.toNat
  fragTotal := f.fragTotal.toNat

/-- The client reads the header that the service has written. -/
theorem unpack_toBytes (f : AlfieBleServiceProtoDataFrame) : .unpack f.toBytes = headerOf f := by
  obtain ⟨seqId, totalSizeBytes, fragIdx, fragTotal, payload⟩ := f
  -- a field is found behind the ones before it, whatever follows
  have hversion := field_record [] 1 0 [(1, 0), (2, seqId.toNat), (2, totalSizeBytes.toNat),
    (1, fragIdx.toNat), (1, fragTotal.toNat)] payload
  have htype := field_record [(1, 0)] 1 0 [(2, seqId.toNat), (2, totalSizeBytes.toNat),
    (1, fragIdx.toNat), (1, fragTotal.toNat)] payload
  have hseq := field_record [(1, 0), (1, 0)] 2 seqId.toNat [(2, totalSizeBytes.toNat),
    (1, fragIdx.toNat), (1, fragTotal.toNat)] payload
  have htotal := field_record [(1, 0), (1, 0), (2, seqId.toNat)] 2 totalSizeBytes.toNat
    [(1, fragIdx.toNat), (1, fragTotal.toNat)] payload
  have hfragIdx := field_record [(1, 0), (1, 0), (2, seqId.toNat), (2, totalSizeBytes.toNat)] 1
    fragIdx.toNat [(1, fragTotal.toNat)] payload
  have hfragTotal := field_record [(1, 0), (1, 0), (2, seqId.toNat), (2, totalSizeBytes.toNat),
    (1, fragIdx.toNat)] 1 fragTotal.toNat [] payload
  simp only [DataFrameHeader.unpack, headerOf, DataFrameHeader.mk.injEq]
  refine ⟨hversion, htype, ?_, ?_, ?_, ?_⟩
  · exact hseq.trans (Nat.mod_eq_of_lt seqId.toNat_lt)
  · exact htotal.trans (Nat.mod_eq_of_lt totalSizeBytes.toNat_lt)
  · exact hfragIdx.trans (Nat.mod_eq_of_lt fragIdx.toNat_lt)
  · exact hfragTotal.trans (Nat.mod_eq_of_lt fragTotal.toNat_lt)

/-- What the client does with a data frame: it goes to the reassembly with its header and its
payload. -/
theorem onNotification_data (c : MessagingClient) (f : AlfieBleServiceProtoDataFrame) :
    c.onNotification f.toBytes = c.handleRxPayload (headerOf f) f.payload := by
  have hlen : 8 ≤ f.toBytes.length := by
    rw [f.length_toBytes]
    exact Nat.le_add_right _ _
  have hheader : ¬ f.toBytes.length < frameBaseHeaderSize :=
    not_lt.mpr (le_trans (by decide) hlen)
  have htype : field f.toBytes 1 1 = frameTypeData :=
    congrArg DataFrameHeader.frameType (unpack_toBytes f)
  have hpayload : f.toBytes.drop dataFrameHeaderSize = f.payload :=
    List.drop_left' (length_record _)
  unfold MessagingClient.onNotification
  rw [if_neg hheader, htype, if_neg (by decide), if_pos rfl, if_neg (not_lt.mpr hlen),
    unpack_toBytes, hpayload]

/-- What the client does with an ACK: it sets the event, whichever fragment is acknowledged. -/
theorem onNotification_ack (c : MessagingClient) (a : AlfieBleServiceProtoDataAckFrame) :
    c.onNotification a.toBytes = ({ c with ackEvent := true }, []) := by
  have htype := field_record [(1, 0)] 1 1 [(2, a.seqId.toNat), (1, a.fragIdx.toNat)] []
  rw [List.append_nil] at htype
  unfold MessagingClient.onNotification
  rw [if_neg (by rw [a.length_toBytes]; decide)]
  exact if_pos htype

/-- The ACK the client writes for a data frame is the one the service would notify. -/
theorem sendAck_headerOf {c : MessagingClient} (hconnected : c.connected = true)
    (f : AlfieBleServiceProtoDataFrame) :
    c.sendAck (headerOf f) =
      some (AlfieBleServiceProtoDataAckFrame.mk f.seqId f.fragIdx).toBytes := by
  unfold MessagingClient.sendAck AckFrame.pack
  rw [if_neg (by rw [hconnected]; exact Bool.noConfusion), structPack_eq_some]
  · rfl
  · intro x hx
    simp only [List.mem_cons, List.not_mem_nil, or_false] at hx
    rcases hx with rfl | rfl | rfl | rfl
    · decide
    · decide
    · exact f.seqId.toNat_lt
    · exact f.fragIdx.toNat_lt

/-! ### Reassembly -/

/-- The context that a header belongs to, a new one for the first fragment of a message. -/
def MessagingClient.contextFor (c : MessagingClient) (header : DataFrameHeader) :
    Option ReassemblyCtx :=
  match c.rxContexts header.seqId with
  | some ctx => some ctx
  | none =>
    if header.fragIdx ≠ 0 then none
    else some ⟨header.seqId, header.fragTotal, header.totalSizeBytes, 0, []⟩

/-- A context after its next fragment, of whatever length. -/
def ReassemblyCtx.append (ctx : ReassemblyCtx) (payload : List UInt8) : ReassemblyCtx :=
  { ctx with buffer := ctx.buffer ++ payload, fragIdx := ctx.fragIdx + 1 }

/-- The acknowledgement of a fragment. Without an event loop no task can be created. -/
def MessagingClient.acks (c : MessagingClient) (header : DataFrameHeader) : List ClientEffect :=
  if c.loop then [.sendAck header] else []

/-- What the client does with a fragment: nothing, an ACK of a copy, one more fragment, or the last
one. -/
inductive RxPayload (c : MessagingClient) (header : DataFrameHeader) (payload : List UInt8) :
    MessagingClient → List ClientEffect → Prop
  | ignored (h : ∀ ctx ∈ c.contextFor header, ctx.fragIdx < header.fragIdx) :
      RxPayload c header payload c []
  | duplicate {ctx : ReassemblyCtx} (hctx : c.rxContexts header.seqId = some ctx)
      (hidx : header.fragIdx < ctx.fragIdx) : RxPayload c header payload c (c.acks header)
  | appended {ctx : ReassemblyCtx} (hctx : c.contextFor header = some ctx)
      (hidx : header.fragIdx = ctx.fragIdx) (hlast : ctx.fragIdx + 1 ≠ ctx.fragTotal) :
      RxPayload c header payload (c.setContext header.seqId (some (ctx.append payload)))
        (c.acks header)
  | delivered {ctx : ReassemblyCtx} (hctx : c.contextFor header = some ctx)
      (hidx : header.fragIdx = ctx.fragIdx) (hlast : ctx.fragIdx + 1 = ctx.fragTotal) :
      RxPayload c header payload (c.setContext header.seqId none)
        (c.acks header ++ [.deliverMessage (ctx.buffer ++ payload)])

/-- The entry that was written. -/
@[simp] theorem setContext_self (c : MessagingClient) (seqId : ℕ) (ctx : Option ReassemblyCtx) :
    (c.setContext seqId ctx).rxContexts seqId = ctx := Function.update_self _ _ _

/-- The other entries of the dictionary. -/
theorem setContext_of_ne (c : MessagingClient) {seqId id : ℕ} (hne : id ≠ seqId)
    (ctx : Option ReassemblyCtx) : (c.setContext seqId ctx).rxContexts id = c.rxContexts id :=
  Function.update_of_ne hne _ _

/-- Writing an entry of the dictionary twice: the second value stays. -/
theorem setContext_setContext (c : MessagingClient) (seqId : ℕ) (ctx ctx' : Option ReassemblyCtx) :
    (c.setContext seqId ctx).setContext seqId ctx' = c.setContext seqId ctx' := by
  unfold MessagingClient.setContext
  dsimp only
  rw [Function.update_idem]

/-- **Inversion of `_handle_rx_payload`.** The comparisons of the source are those of the cases,
with a context that was there or a new one. -/
theorem handleRxPayload_spec (c : MessagingClient) (header : DataFrameHeader)
    (payload : List UInt8) :
    RxPayload c header payload (c.handleRxPayload header payload).1
      (c.handleRxPayload header payload).2 := by
  unfold MessagingClient.handleRxPayload
  cases hctx : c.rxContexts header.seqId with
  | some ctx =>
    -- the context under the number, whatever its shape
    have hfor : c.contextFor header = some ctx := by
      unfold MessagingClient.contextFor
      rw [hctx]
    dsimp only
    unfold MessagingClient.handleFragment
    dsimp only
    split
    · next hlt => exact .duplicate hctx hlt
    split
    · -- from further on
      next hge hne =>
      refine .ignored fun ctx' hctx' => ?_
      rw [hfor] at hctx'
      obtain rfl := Option.some.inj hctx'
      omega
    split
    · next heq hlast => exact .delivered hfor (not_not.mp heq) hlast
    · next heq hlast => exact .appended hfor (not_not.mp heq) hlast
  | none =>
    have hfor : c.contextFor header = if header.fragIdx ≠ 0 then none
        else some ⟨header.seqId, header.fragTotal, header.totalSizeBytes, 0, []⟩ := by
      unfold MessagingClient.contextFor
      rw [hctx]
    dsimp only
    split
    · -- a context begins with fragment 0 only
      next hidx =>
      rw [if_pos hidx] at hfor
      exact .ignored fun ctx' hctx' => by rw [hfor] at hctx'; cases hctx'
    · next hidx =>
      -- fragment 0 is the next one of the new context
      rw [if_neg hidx] at hfor
      have hzero : header.fragIdx = 0 := not_not.mp hidx
      unfold MessagingClient.handleFragment
      dsimp only
      rw [if_neg (by omega), if_neg (not_not.mpr hzero), setContext_setContext,
        setContext_setContext]
      split
      · next hlast => exact .delivered hfor hzero hlast
      · next hlast => exact .appended hfor hzero hlast

/-! ### Observations -/

/-- The header whose ACK a task of the client will write. -/
def ClientEffect.ackHeader : ClientEffect → Option DataFrameHeader
  | .sendAck header => some header
  | _ => none

/-- The bytes given to `_deliver_message`, which unpacks them and shows the text. -/
def ClientEffect.message : ClientEffect → Option (List UInt8)
  | .deliverMessage data => some data
  | _ => none

section Effects

variable {c c' : MessagingClient} {header : DataFrameHeader} {payload : List UInt8}
  {effects : List ClientEffect}

/-- The ACK of a frame bears its header, so it acknowledges the frame and no other. -/
theorem RxPayload.ackHeader (h : RxPayload c header payload c' effects) {x : DataFrameHeader}
    (hx : .sendAck x ∈ effects) : x = header := by
  have hacks : ∀ {x}, .sendAck x ∈ c.acks header → x = header := by
    intro x hx
    unfold MessagingClient.acks at hx
    split at hx
    · injection List.mem_singleton.mp hx
    · cases hx
  cases h with
  | ignored => cases hx
  | duplicate => exact hacks hx
  | appended => exact hacks hx
  | delivered =>
    rcases List.mem_append.mp hx with hx | hx
    · exact hacks hx
    · cases List.mem_singleton.mp hx

/-- Only the contexts change; the connection and the event do not. -/
theorem RxPayload.config (h : RxPayload c header payload c' effects) :
    c'.loop = c.loop ∧ c'.connected = c.connected ∧ c'.ackEvent = c.ackEvent := by
  cases h with
  | ignored => exact ⟨rfl, rfl, rfl⟩
  | duplicate => exact ⟨rfl, rfl, rfl⟩
  | appended => exact ⟨rfl, rfl, rfl⟩
  | delivered => exact ⟨rfl, rfl, rfl⟩

/-- A header that is acknowledged is that of an ACK among the effects. -/
theorem mem_ackHeaders {x : DataFrameHeader}
    (h : x ∈ effects.filterMap ClientEffect.ackHeader) : .sendAck x ∈ effects := by
  obtain ⟨e, he, hx⟩ := List.mem_filterMap.mp h
  cases e with
  | sendAck header =>
    obtain rfl := Option.some.inj hx
    exact he
  | deliverMessage => cases hx

end Effects

/-! ### Reachable states -/

/-- What happens to a client: it connects, loses the connection or is notified of a value. -/
inductive ClientInput where
  | connect (mtu : ℕ)
  | disconnected
  | notification (data : List UInt8)
deriving DecidableEq, Repr

/-- The client handles an input. Every input is possible in every state. -/
def MessagingClient.step (c : MessagingClient) : ClientInput → MessagingClient × List ClientEffect
  | .connect mtu => (c.connect mtu, [])
  | .disconnected => (c.onDisconnected, [])
  | .notification data => c.onNotification data

/-- What holds of a client in every state it can reach: a connected client has an event loop, and
every context has counted a fragment. -/
structure ClientInv (c : MessagingClient) : Prop where
  loop : c.connected = true → c.loop = true
  started : ∀ seqId ctx, c.rxContexts seqId = some ctx → 0 < ctx.fragIdx

section Invariant

variable {c : MessagingClient}

/-- A new client is not connected and has no context. -/
theorem ClientInv.init : ClientInv .init where
  loop h := by cases h
  started _ _ h := by cases h

/-- The entry of one `seq_id` changes, to a context that has counted a fragment or to none. -/
theorem ClientInv.setContext (h : ClientInv c) (seqId : ℕ) {ctx : Option ReassemblyCtx}
    (hctx : ∀ x ∈ ctx, 0 < x.fragIdx) : ClientInv (c.setContext seqId ctx) where
  loop := h.loop
  started seqId' x hx := by
    by_cases heq : seqId' = seqId
    · subst heq
      rw [setContext_self] at hx
      exact hctx x hx
    · rw [setContext_of_ne c heq] at hx
      exact h.started seqId' x hx

/-- A fragment that starts a context, or meets one that has been started. -/
theorem ClientInv.handleRxPayload (h : ClientInv c) (header : DataFrameHeader)
    (payload : List UInt8) : ClientInv (c.handleRxPayload header payload).1 := by
  have hspec := handleRxPayload_spec c header payload
  generalize (c.handleRxPayload header payload).1 = c' at hspec
  generalize (c.handleRxPayload header payload).2 = effects at hspec
  cases hspec with
  | ignored => exact h
  | duplicate => exact h
  | appended =>
    refine h.setContext _ fun x hx => ?_
    obtain rfl := Option.some.inj hx
    exact Nat.succ_pos _
  | delivered => exact h.setContext _ fun x hx => by cases hx

/-- Every input keeps it; a lost connection clears the contexts. -/
theorem ClientInv.step (h : ClientInv c) (x : ClientInput) : ClientInv (c.step x).1 := by
  cases x with
  | connect mtu => exact ⟨fun _ => rfl, h.started⟩
  | disconnected => exact ⟨fun hc => (by cases hc), fun _ _ hx => (by cases hx)⟩
  | notification data =>
    unfold MessagingClient.step MessagingClient.onNotification
    dsimp only
    -- the types that are told apart are an ACK and a data frame; both need the connection
    split
    · exact h
    split
    · exact ⟨h.loop, h.started⟩
    split
    · split
      · exact h
      · exact h.handleRxPayload _ _
    · exact h

/-- Every state a client can reach satisfies it, whatever it was notified of. -/
theorem clientInv_runs (history : List ClientInput) :
    ClientInv (Machine.runs MessagingClient.step .init history) :=
  Machine.runs_invariant (P := ClientInv) (C := fun _ => True) (fun _ x h _ => h.step x)
    (fun _ _ => trivial) .init

end Invariant

end DectCommunicator
