import DectCommunicator.Lib.Readers
import DectCommunicator.Alfie.Router

/-!
# What is read of a delivered message

The forward functions of the router (`alfie_router.c`) and the messaging endpoint
(`alfie_messaging_endpoint.c`) as readers of the `net_buf` they are handed. `total_size_bytes` is
the attribute beside its bytes; the headers are packed structs, so a field is a range of bytes.

The calls a forward function makes are those of its statements in the model of the router
(`prvForwardReader_calls`), and it is safe on a message of ten bytes or more whose length is its
`total_size_bytes` (`prvForwardReader_safe`).
-/

namespace DectCommunicator

open LittleEndian Reader

/-! ### The endpoint -/

/-- `sizeof(alfie_messaging_proto_header_t)`: the alfie header and the frame type, packed. -/
abbrev alfieMessagingProtoHeaderSizeBytes : ℕ := alfieProtoHeaderSizeBytes + 1

/-- `ALFIE_MESSAGE_UUID_SIZE_BYTES`, the length of the id that the client gives a text. -/
abbrev alfieMessageUuidSizeBytes : ℕ := 16

/-- `sizeof(alfie_messaging_proto_text_frame_t)`, whose last member is the message: a flexible
array, which adds nothing to the size. -/
abbrev alfieMessagingProtoTextFrameSizeBytes : ℕ :=
  alfieMessagingProtoHeaderSizeBytes + alfieMessageUuidSizeBytes

/-- `ALFIE_MESSAGING_PROTO_FRAME_TYPE_TEXT`, the only frame type that the endpoint handles. -/
def alfieMessagingProtoFrameTypeText : UInt8 := 0

/-- The calls that are made on the way of a message through the router thread. -/
inductive MessageCall where
  /-- a call of the router -/
  | router (effect : RouterEffect)
  /-- the log of a text message, with its four arguments -/
  | textFrame (srcId dstId msgLen : UInt32) (message : List UInt8)
  /-- a warning, with the byte it prints -/
  | logWrn (text : String) (value : Option UInt8)
deriving DecidableEq, Repr

/-- A reader of a delivered message: it loads the announced size, reads bytes at offsets, and makes
calls. -/
abbrev MessageReader := Prog UInt8 UInt16 MessageCall

/-- A `uint8_t` field at an offset, read through the cast of the buffer. -/
def readU8 (offset : ℕ) (k : UInt8 → MessageReader) : MessageReader :=
  .read offset 1 fun bs => k (UInt8.ofNat (value bs))

/-- A `uint32_t` field at an offset; the structures are packed, and the processor little-endian. -/
def readU32 (offset : ℕ) (k : UInt32 → MessageReader) : MessageReader :=
  .read offset 4 fun bs => k (UInt32.ofNat (value bs))

/-- `prv_handle_text_frame`: a frame shorter than its fixed part is logged and dropped, and of any
other the text is what follows. -/
def prvHandleTextFrame (lenBytes : UInt32) : MessageReader :=
  if lenBytes < UInt32.ofNat alfieMessagingProtoTextFrameSizeBytes then
    .call (.logWrn "Invalid text frame." none) .done
  else
    let msgLen := lenBytes - UInt32.ofNat alfieMessagingProtoTextFrameSizeBytes
    readU32 2 fun srcId => readU32 6 fun dstId =>
      .read alfieMessagingProtoTextFrameSizeBytes msgLen.toNat fun message =>
        .call (.textFrame srcId dstId msgLen message) .done

/-- `prv_handle_incoming_frame`: the size that is checked is the announced one, not the length of
the buffer. -/
def prvHandleIncomingFrame : MessageReader :=
  .load fun totalSizeBytes =>
    if totalSizeBytes.toNat < alfieMessagingProtoHeaderSizeBytes then
      .call (.logWrn "Invalid frame size." none) .done
    else
      readU8 alfieProtoHeaderSizeBytes fun frameType =>
        if frameType = alfieMessagingProtoFrameTypeText then
          .load fun totalSizeBytes => prvHandleTextFrame totalSizeBytes.toUInt32
        else
          readU8 alfieProtoHeaderSizeBytes fun frameType =>
            .call (.logWrn "Unknown frame type: 0x%02X" (some frameType)) .done

/-! ### The router -/

/-- `prv_notify_endpoint`. The messaging endpoint is the only one of the firmware, so its handler
stands for `on_frame_rx`. -/
def prvNotifyEndpointReader (buffer : ℕ) : List AlfieEndpoint → MessageReader
  | [] =>
    readU8 1 fun endpointId =>
      .call (.logWrn "No endpoint registered for endpoint_id: 0x%02X" (some endpointId)) .done
  | e :: endpoints =>
    readU8 1 fun endpointId =>
      if e.endpointId = endpointId then
        .call (.router (.onFrameRx e buffer)) prvHandleIncomingFrame
      else prvNotifyEndpointReader buffer endpoints

/-- The loop over the transports: `transport->api->write` reads all the bytes it is passed. -/
def writeTransports (type : AlfieTransportType) : List AlfieTransport → MessageReader
  | [] => .done
  | t :: transports =>
    if t.type = type then
      readU32 6 fun dstId => .load fun totalSizeBytes => .read 0 totalSizeBytes.toNat fun data =>
        .call (.router (.write t dstId data totalSizeBytes.toNat)) (writeTransports type transports)
    else writeTransports type transports

/-- `prv_forward_to_downstream` and `prv_forward_to_upstream`, for transports of type `type`, as a
reader of the message: the casts that they make are reads of it. -/
def prvForwardReader (type : AlfieTransportType) (transports : List AlfieTransport)
    (endpoints : List AlfieEndpoint) (buffer : ℕ) : MessageReader :=
  (writeTransports type transports).andThen
    ((prvNotifyEndpointReader buffer endpoints).andThen
      (.call (.router (.unref buffer)) .done))

/-! ### The calls of the router -/

/-- The call, if it is one of the router; the log messages and the calls of the endpoint are not. -/
def MessageCall.routerEffect : MessageCall → Option RouterEffect
  | .router effect => some effect
  | _ => none

/-- A completed buffer as a message, with the announced size beside its bytes. -/
def CompletedBuffer.message (m : CompletedBuffer) : Packet UInt8 UInt16 :=
  ⟨m.data, m.totalSizeBytes⟩

section Calls

variable (m : CompletedBuffer) (type : AlfieTransportType) (transports : List AlfieTransport)
  (endpoints : List AlfieEndpoint) (memory : ℕ → CompletedBuffer) (a : ℕ)

/-- A call of the router is seen as its effect. -/
theorem filterMap_router (effect : RouterEffect) (calls : List MessageCall) :
    (MessageCall.router effect :: calls).filterMap MessageCall.routerEffect =
      effect :: calls.filterMap MessageCall.routerEffect := rfl

/-- The endpoint makes no call of the router: it logs, and it reads. -/
theorem prvHandleIncomingFrame_calls (m : Packet UInt8 UInt16) :
    (prvHandleIncomingFrame.run m).filterMap MessageCall.routerEffect = [] := by
  have htext : ∀ lenBytes, ((prvHandleTextFrame lenBytes).run m).filterMap
      MessageCall.routerEffect = [] := by
    intro lenBytes
    unfold prvHandleTextFrame
    -- a text frame is logged, as too short or with its text
    split <;> rfl
  unfold prvHandleIncomingFrame
  simp only [Prog.run]
  split
  · -- a frame that is too short is logged
    rfl
  · simp only [readU8, Prog.run]
    split
    · exact htext _
    · rfl

/-- The search for the endpoint, read from the message at every turn of the loop, notifies the one
that the router's model finds with the header read once. -/
theorem prvNotifyEndpointReader_calls :
    ((prvNotifyEndpointReader a endpoints).run m.message).filterMap MessageCall.routerEffect =
      prvNotifyEndpoint endpoints (AlfieProtoHeader.ofBytes m.data) a := by
  unfold prvNotifyEndpoint
  induction endpoints with
  | nil => rfl
  | cons e endpoints ih =>
    -- the byte that the loop reads is the header's endpoint id
    have hid : UInt8.ofNat (value (m.message.slice 1 1)) =
      (AlfieProtoHeader.ofBytes m.data).endpointId := rfl
    simp only [prvNotifyEndpointReader, readU8, Prog.run]
    rw [hid]
    by_cases he : e.endpointId = (AlfieProtoHeader.ofBytes m.data).endpointId
    · -- this endpoint: the loop notifies it and ends
      have hfound : (e :: endpoints).find? (fun e =>
          decide (e.endpointId = (AlfieProtoHeader.ofBytes m.data).endpointId)) = some e :=
        List.find?_cons_of_pos (decide_eq_true he)
      rw [hfound, if_pos he, Prog.run, filterMap_router, prvHandleIncomingFrame_calls]
    · -- another one: the loop goes on
      have hnext : (e :: endpoints).find? (fun e =>
          decide (e.endpointId = (AlfieProtoHeader.ofBytes m.data).endpointId)) =
            endpoints.find? fun e =>
              decide (e.endpointId = (AlfieProtoHeader.ofBytes m.data).endpointId) :=
        List.find?_cons_of_neg (by simpa using he)
      rw [hnext, if_neg he, ih]

/-- The loop over the transports makes the writes of the router's statements, in the order of
registration. -/
theorem writeTransports_calls :
    ((writeTransports type transports).run (memory a).message).filterMap MessageCall.routerEffect =
      (transports.flatMap fun t => if t.type = type then [RouterStmt.write t a] else []).flatMap
        (RouterStmt.exec endpoints memory) := by
  induction transports with
  | nil => rfl
  | cons t transports ih =>
    have hdata : (memory a).message.slice 0 (memory a).message.attr.toNat = (memory a).data :=
      List.take_of_length_le (memory a).length_data.le
    rw [List.flatMap_cons, List.flatMap_append, ← ih, writeTransports]
    by_cases ht : t.type = type
    · -- the bytes passed to the transport are the whole message
      rw [if_pos ht, if_pos ht]
      simp only [readU32, Prog.run]
      rw [filterMap_router, List.flatMap_singleton]
      rw [hdata]
      rfl
    · rw [if_neg ht, if_neg ht]
      rfl

/-- **The reader makes the calls of the router's statements.** So what is proved about the router is
about the same code as what is proved here about its reads. -/
theorem prvForwardReader_calls :
    ((prvForwardReader type transports endpoints a).run (memory a).message).filterMap
        MessageCall.routerEffect =
      (prvForward type transports a).flatMap (RouterStmt.exec endpoints memory) := by
  unfold prvForwardReader prvForward
  rw [Prog.run_andThen, Prog.run_andThen, List.filterMap_append, List.filterMap_append,
    writeTransports_calls type transports endpoints memory, prvNotifyEndpointReader_calls,
    List.flatMap_append]
  rfl

end Calls

/-! ### The reads -/

/-- What the calls are passed: a transport gets the bytes of the message and their number, and a
text message is what follows the 27 bytes of its header. -/
def MessageCall.Fits (m : Packet UInt8 UInt16) : MessageCall → Prop
  | .router (.write _ _ data lenBytes) => data = m.data ∧ lenBytes = m.data.length
  | .textFrame _ _ msgLen message =>
    alfieMessagingProtoTextFrameSizeBytes + msgLen.toNat = m.data.length ∧
      message = m.data.drop alfieMessagingProtoTextFrameSizeBytes
  | _ => True

section Reads

variable {m : Packet UInt8 UInt16}

/-- A byte within the message may be read, and then the rest has to be safe for every value it may
have. -/
theorem readU8_safe {offset : ℕ} {k : UInt8 → MessageReader} {Q : MessageCall → Prop}
    (h : offset + 1 ≤ m.data.length) (hk : ∀ x, (k x).Safe m Q) : (readU8 offset k).Safe m Q :=
  ⟨h, hk _⟩

/-- And so may four bytes within it. -/
theorem readU32_safe {offset : ℕ} {k : UInt32 → MessageReader} {Q : MessageCall → Prop}
    (h : offset + 4 ≤ m.data.length) (hk : ∀ x, (k x).Safe m Q) : (readU32 offset k).Safe m Q :=
  ⟨h, hk _⟩

/-- `msg_len` does not underflow: behind the check the fixed part and the text are the announced
size. -/
theorem msgLen_toNat (total : UInt16)
    (h : ¬ total.toUInt32 < UInt32.ofNat alfieMessagingProtoTextFrameSizeBytes) :
    alfieMessagingProtoTextFrameSizeBytes +
      (total.toUInt32 - UInt32.ofNat alfieMessagingProtoTextFrameSizeBytes).toNat = total.toNat := by
  have hle := UInt32.not_lt.mp h
  rw [UInt32.toNat_sub_of_le _ _ hle]
  rw [UInt32.le_iff_toNat_le] at hle
  exact Nat.add_sub_cancel' hle

/-- The text frame's reads are within a message that is as long as announced: its own check is on
the announced size. -/
theorem prvHandleTextFrame_safe (hlen : m.data.length = m.attr.toNat) :
    (prvHandleTextFrame m.attr.toUInt32).Safe m (MessageCall.Fits m) := by
  unfold prvHandleTextFrame
  split
  · exact ⟨trivial, trivial⟩
  · next hlong =>
    have hmsg := msgLen_toNat m.attr hlong
    rw [← hlen] at hmsg
    have hids : alfieProtoHeaderSizeBytes ≤ m.data.length :=
      Nat.le_trans (by decide) (Nat.le_trans (Nat.le_add_right _ _) hmsg.le)
    refine readU32_safe (Nat.le_trans (by decide) hids) fun srcId => ?_
    refine readU32_safe hids fun dstId => ⟨hmsg.le, ⟨hmsg, ?_⟩, trivial⟩
    -- the range is all that follows the header
    refine List.take_of_length_le ?_
    rw [List.length_drop, ← hmsg, Nat.add_sub_cancel_left]

/-- The endpoint reads the frame type behind the check for it, and no later field before its own
check. -/
theorem prvHandleIncomingFrame_safe (hlen : m.data.length = m.attr.toNat) :
    prvHandleIncomingFrame.Safe m (MessageCall.Fits m) := by
  unfold prvHandleIncomingFrame
  rw [Prog.Safe]
  split
  · -- too short: it is logged, and no field read
    exact ⟨trivial, trivial⟩
  · next hlong =>
    -- the frame type is the byte behind the alfie header
    have htype : alfieProtoHeaderSizeBytes + 1 ≤ m.data.length := by
      rw [hlen]
      exact not_lt.mp hlong
    refine readU8_safe htype fun frameType => ?_
    split
    · exact prvHandleTextFrame_safe hlen
    · -- another type: it is read once more, for the log
      exact readU8_safe htype fun _ => ⟨trivial, trivial⟩

/-- The search reads the header of the message at every endpoint; the endpoint that is notified
reads what its own checks allow. -/
theorem prvNotifyEndpointReader_safe (hlen : m.data.length = m.attr.toNat)
    (hheader : alfieProtoHeaderSizeBytes ≤ m.data.length) (buffer : ℕ)
    (endpoints : List AlfieEndpoint) :
    (prvNotifyEndpointReader buffer endpoints).Safe m (MessageCall.Fits m) := by
  have hid : 1 + 1 ≤ m.data.length := Nat.le_trans (by decide) hheader
  induction endpoints with
  | nil => exact readU8_safe hid fun _ => ⟨trivial, trivial⟩
  | cons e endpoints ih =>
    refine readU8_safe hid fun endpointId => ?_
    split
    · exact ⟨trivial, prvHandleIncomingFrame_safe hlen⟩
    · exact ih

/-- A write passes the message on with the announced size, which must not exceed its length. -/
theorem writeTransports_safe (hlen : m.data.length = m.attr.toNat)
    (hheader : alfieProtoHeaderSizeBytes ≤ m.data.length) (type : AlfieTransportType)
    (transports : List AlfieTransport) :
    (writeTransports type transports).Safe m (MessageCall.Fits m) := by
  induction transports with
  | nil => trivial
  | cons t transports ih =>
    rw [writeTransports]
    split
    · refine readU32_safe hheader fun dstId => ⟨?_, ⟨?_, hlen.symm⟩, ih⟩
      · rw [hlen, Nat.zero_add]
      · exact List.take_of_length_le hlen.le
    · exact ih

/-- **The router and the endpoint stay within a message** that is as long as its
`total_size_bytes` and holds the alfie header. -/
theorem prvForwardReader_safe (hlen : m.data.length = m.attr.toNat)
    (hheader : alfieProtoHeaderSizeBytes ≤ m.data.length) (type : AlfieTransportType)
    (transports : List AlfieTransport) (endpoints : List AlfieEndpoint) (buffer : ℕ) :
    (prvForwardReader type transports endpoints buffer).Safe m (MessageCall.Fits m) :=
  (writeTransports_safe hlen hheader type transports).andThen
    ((prvNotifyEndpointReader_safe hlen hheader buffer endpoints).andThen ⟨trivial, trivial⟩)

end Reads

end DectCommunicator
