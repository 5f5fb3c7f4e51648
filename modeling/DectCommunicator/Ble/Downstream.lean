import DectCommunicator.BleClient.ClientSpec
import DectCommunicator.Dect.TransportLayer

/-!
# A text from the client to the firmware

The way of a text that `_do_send` accepts: `TextMessage.pack`, `_send_fragmented`, and every
fragment in order through `prv_on_data_write`. `TextRoundTrip` says what should come of it.

`MAX_TEXT_PAYLOAD_SIZE` is 485, 512 less the 27 bytes before the text, but the packed message ends
in a NUL as well. A text of 485 bytes is accepted and packed into 513 bytes, which the receive
buffer cannot hold and `dect_transport_layer_write` rejects (`longest_text_fails`).
`text_roundTrip_iff` says exactly which texts make their way: those of at most 484 bytes, as long
as the receiver holds nothing else under the key of the message and no gap between two fragments
reaches the timeout.
-/

namespace DectCommunicator

open Machine StopAndWait

/-! ### The message -/

section Text

variable {mtu : ℕ} {srcId dstId : UInt32} {text : String} {uuid : Vector UInt8 msgUuidSize}
  {seqId : UInt16}

/-- A fragment carries at least 12 bytes on a connection of 23 bytes or more, which is what 3 bytes
of ATT and 8 of the header leave. -/
theorem twelve_le_maxFramePayload (c : MessagingClient) (hmtu : 23 ≤ mtu) :
    12 ≤ (c.connect mtu).maxFramePayload := by
  have hpos : 0 < mtu := by omega
  unfold MessagingClient.connect
  dsimp only
  rw [if_pos hpos]
  exact le_min (by decide) (by change 12 ≤ mtu - 3 - 8; omega)

/-- The packed text and its fragments on a connection of `mtu` bytes. With that MTU the longest text
has fewer fragments than a byte counts. -/
def textMessage (c : MessagingClient) (hmtu : 23 ≤ mtu) (srcId dstId : UInt32) (text : String)
    (uuid : Vector UInt8 msgUuidSize) (seqId : UInt16)
    (hlen : (encodeUtf8 text).length ≤ maxTextPayloadSize) : Message where
  seqId := seqId
  data := textBytes srcId dstId text uuid
  size := (c.connect mtu).maxFramePayload
  data_pos := by
    rw [length_textBytes]
    exact Nat.succ_pos _
  size_pos := lt_of_lt_of_le (by decide) (twelve_le_maxFramePayload c hmtu)
  length_lt := by
    rw [length_textBytes]
    exact lt_of_le_of_lt (Nat.add_le_add_right hlen 28) (by decide)
  count_lt := by
    have hsize := twelve_le_maxFramePayload c hmtu
    have hle : (textBytes srcId dstId text uuid).length ≤ 513 := by
      rw [length_textBytes]
      exact Nat.add_le_add_right hlen 28
    by_contra hcount
    -- 255 full fragments of 12 bytes are more than the message
    have hlt := (Chunks.lt_count_iff (lt_of_lt_of_le (by decide) hsize) 255 _).mp
      (lt_of_lt_of_le (by decide) (not_lt.mp hcount))
    have hmul : 12 * 255 ≤ (c.connect mtu).maxFramePayload * 255 := Nat.mul_le_mul_right 255 hsize
    omega

/-- A connected client accepts a text of at most 485 bytes, and sends it packed. -/
theorem doSend_eq_some (c : MessagingClient) (mtu srcId dstId : ℕ) {text : String}
    (uuid : Vector UInt8 msgUuidSize) (seqId : UInt16)
    (hlen : (encodeUtf8 text).length ≤ maxTextPayloadSize) :
    doSend (c.connect mtu) srcId dstId text uuid seqId =
      some ((c.connect mtu).sendText srcId dstId text uuid seqId) := by
  unfold doSend
  rw [if_neg (fun hc => Bool.noConfusion hc), if_neg (not_lt.mpr hlen)]

/-- A text that is accepted is not longer than `MAX_TEXT_PAYLOAD_SIZE`. -/
theorem length_le_of_doSend {c : MessagingClient} {src dst : ℕ}
    {p : Proc ClientError (List UInt8) (Status ClientError)}
    (h : doSend c src dst text uuid seqId = some p) :
    (encodeUtf8 text).length ≤ maxTextPayloadSize := by
  by_contra hlen
  unfold doSend at h
  rw [if_pos (not_le.mp hlen)] at h
  split at h <;> cases h

/-- The frames that an accepted text is sent in, in the order of their indices. -/
theorem sends_doSend {c : MessagingClient} (hmtu : 23 ≤ mtu)
    {p : Proc ClientError (List UInt8) (Status ClientError)}
    (h : doSend (c.connect mtu) srcId.toNat dstId.toNat text uuid seqId = some p) :
    p.sends = bleFrames (textMessage c hmtu srcId dstId text uuid seqId (length_le_of_doSend h)) := by
  have hlen := length_le_of_doSend h
  have hconnected : ¬ (c.connect mtu).connected = false := fun hc => Bool.noConfusion hc
  have hp : p = (c.connect mtu).sendText srcId.toNat dstId.toNat text uuid seqId := by
    rw [doSend_eq_some c mtu _ _ uuid seqId hlen] at h
    exact (Option.some.inj h).symm
  have hsend := sendFragmented_eq (c := c.connect mtu)
    (m := textMessage c hmtu srcId dstId text uuid seqId hlen) rfl
  calc p.sends
      = ((c.connect mtu).sendText srcId.toNat dstId.toNat text uuid seqId).sends :=
        congrArg Proc.sends hp
    _ = ((c.connect mtu).sendFragmented seqId (textBytes srcId dstId text uuid)).sends := by
        unfold MessagingClient.sendText
        rw [if_neg hconnected, pack_create]
    _ = _ := (congrArg Proc.sends hsend).trans (sends_transfer (by decide) _ _)

end Text

/-! ### The firmware -/

/-- The service handles a numbered frame; `clock` is read under its number, so the gaps between
frames are arbitrary. -/
def AlfieBleService.observe (clock : ℕ → UInt32) (st : AlfieBleService) (x : List UInt8 × ℕ) :
    AlfieBleService × List Reaction :=
  let r := prvOnDataWrite (clock x.2) x.1 st
  (r.1, [bleReactionOf r.2])

/-- The reactions of the service to frames that arrive in order, each of them once. -/
def AlfieBleService.reactions (st : AlfieBleService) (frames : List (List UInt8))
    (clock : ℕ → UInt32) : List Reaction :=
  outputs (AlfieBleService.observe clock) st frames.zipIdx

/-- The service reacts to the frames of a message as its pool does to the fragments, so the lemmas
on reassembly apply to it. -/
theorem reactions_bleFrames (st : AlfieBleService) (m : Message) (clock : ℕ → UInt32) :
    st.reactions (bleFrames m) clock =
      DectCommunicator.reactions st.transportRxCallback none id m clock st.rxPool 0 m.count := by
  have hzip : (bleFrames m).zipIdx =
      (List.range' 0 m.count).map fun i => ((bleFrame m i).toBytes, i) := by
    rw [bleFrames, ← List.range_eq_range']
    apply List.ext_getElem
    · simp
    · intro i hi _
      simp
  -- by induction on the frames, over every state of the service
  have hrun : ∀ l : List ℕ, ∀ st : AlfieBleService,
      outputs (AlfieBleService.observe clock) st (l.map fun i => ((bleFrame m i).toBytes, i)) =
        outputs (handleFragment st.transportRxCallback none id m clock) st.rxPool l := by
    intro l
    induction l with
    | nil => exact fun _ => rfl
    | cons i l ih =>
      intro st
      rw [List.map_cons, outputs_cons, outputs_cons, ih]
      unfold AlfieBleService.observe handleFragment
      dsimp only
      rw [prvOnDataWrite_data, bleFrame_fragment, bleReactionOf_map]
  unfold AlfieBleService.reactions DectCommunicator.reactions
  rw [hzip, hrun]

/-! ### The round trip -/

/-- A message of `bytes` that arrives in `frames` makes its way into the firmware, from the first
fragment to the write that forwards it. -/
structure TextRoundTrip (st : AlfieBleService) (frames : List (List UInt8)) (clock : ℕ → UInt32)
    (bytes : List UInt8) : Prop where
  /-- every fragment is accepted -/
  accepted : ∀ r ∈ st.reactions frames clock, r.Accepted
  /-- the receive buffer is not exceeded -/
  within : ∀ r ∈ st.reactions frames clock, ∀ len ∈ r.lens,
    len ≤ alfieBleServiceMaxRxBufferSizeBytes
  /-- the message is handed up once -/
  handedUp : (st.reactions frames clock).flatMap Reaction.handedUp = [bytes]
  /-- it can be forwarded over DECT -/
  forwarded : ∀ (seqId : UInt16) (dstId : UInt32) (e : Errno),
    dectTransportLayerWrite true seqId dstId bytes ≠ .ret (.err e)

/-- `dect_transport_layer_write` does not reject a message of 1 to 512 bytes, whatever becomes of
its frames afterwards. -/
theorem dectTransportLayerWrite_accepts {data : List UInt8} (hpos : 0 < data.length)
    (hle : data.length ≤ dectTransportLayerMaxRxBufferSizeBytes) (seqId : UInt16)
    (dstId : UInt32) (e : Errno) : dectTransportLayerWrite true seqId dstId data ≠ .ret (.err e) := by
  unfold dectTransportLayerWrite
  rw [if_neg (fun h => Bool.noConfusion h), if_neg hpos.ne', if_neg (not_lt.mpr hle)]
  intro h
  cases hframes : framesOf dstId seqId data with
  | nil =>
    rw [hframes] at h
    cases h
  | cons x xs =>
    -- a transfer with a frame left starts with an effect
    rw [hframes] at h
    have hattempts : 0 < dectTransportLayerTxAttempts := by decide
    obtain ⟨k, hk, -⟩ := (at_transfer hattempts).of_ready
    rw [hk] at h
    cases h

/-- **Exactly the texts of at most 484 bytes make their way**, to a receiver that holds nothing
else under the key of the message and that does not give the message up. -/
theorem text_roundTrip_iff (callback : TransportRxCallback Unit) (history : List BleInput)
    (c : MessagingClient) (mtu : ℕ) (hmtu : 23 ≤ mtu) (srcId dstId : UInt32) (text : String)
    (uuid : Vector UInt8 msgUuidSize) (seqId : UInt16)
    (p : Proc ClientError (List UInt8) (Status ClientError))
    (hsend : doSend (c.connect mtu) srcId.toNat dstId.toNat text uuid seqId = some p)
    (clock : ℕ → UInt32)
    (hfree : ∃ b ∈ (runs AlfieBleService.step (.init (some callback)) history).rxPool.contexts,
      b.state = .free) :
    TextRoundTrip (runs AlfieBleService.step (.init (some callback)) history) p.sends clock
        (textBytes srcId dstId text uuid) ↔
      (encodeUtf8 text).length ≤ 484 ∧
      Vacant () (textMessage c hmtu srcId dstId text uuid seqId (length_le_of_doSend hsend))
        (clock 0) (runs AlfieBleService.step (.init (some callback)) history).rxPool ∧
      ∀ i, i + 1 < (textMessage c hmtu srcId dstId text uuid seqId
          (length_le_of_doSend hsend)).count →
        clock (i + 1) - clock i < UInt32.ofNat alfieBleServiceRxTimeoutMs := by
  have hinv := bleReceiverInv_runs (some callback) history
  generalize runs AlfieBleService.step (.init (some callback)) history = st at hinv hfree ⊢
  rw [sends_doSend hmtu hsend]
  generalize hm : textMessage c hmtu srcId dstId text uuid seqId (length_le_of_doSend hsend) = m
  have hdata : m.data = textBytes srcId dstId text uuid := by rw [← hm]; rfl
  -- the header and the fixed part of the frame are 28 bytes
  have hlength : m.data.length = (encodeUtf8 text).length + 28 := by
    rw [hdata, length_textBytes]
  constructor
  · intro h
    have haccepted := h.accepted
    have hhandedUp := h.handedUp
    rw [reactions_bleFrames, hinv.callback] at haccepted hhandedUp
    rw [← hdata] at hhandedUp
    -- that every fragment was accepted says what the pool must have been like
    obtain ⟨hvacant, hgap⟩ := vacant_of_accepted hinv.keyedPool hfree haccepted hhandedUp
    refine ⟨?_, hvacant, hgap⟩
    by_contra hlen
    -- one byte more is rejected by the DECT transport
    have hlong : dectTransportLayerMaxRxBufferSizeBytes
        < (textBytes srcId dstId text uuid).length := by
      rw [length_textBytes]
      exact Nat.add_lt_add_right (not_le.mp hlen) 28
    refine h.forwarded 0 0 .enomem ?_
    unfold dectTransportLayerWrite
    rw [if_neg (fun h => Bool.noConfusion h), if_neg (by rw [length_textBytes]; exact Nat.succ_ne_zero _),
      if_pos hlong]
  · rintro ⟨hlen, hvacant, hgap⟩
    have hle : m.data.length ≤ 512 := by
      rw [hlength]
      exact Nat.add_le_add_right hlen 28
    obtain ⟨haccepted, hhandedUp⟩ := reactions_inOrder callback hinv.keyedPool hvacant hgap
    rw [← hinv.callback, ← reactions_bleFrames] at haccepted hhandedUp
    rw [hdata] at hhandedUp
    refine ⟨fun r hr => (haccepted r hr).1, fun r hr len hl => ?_, hhandedUp, ?_⟩
    · -- the buffer never holds more than the message
      calc len
          ≤ m.data.length := (haccepted r hr).2 len hl
        _ ≤ alfieBleServiceMaxRxBufferSizeBytes := hle
    · rw [← hdata]
      exact dectTransportLayerWrite_accepts m.data_pos hle

/-- A short text over the smallest MTU, to a service that has just started. -/
theorem text_roundTrip_hello :
    TextRoundTrip (runs AlfieBleService.step (.init (some fun _ => 1)) [])
      ((MessagingClient.init.connect 23).sendText 1 2 "hello" (.replicate 16 0) 7).sends
      (fun _ => 0) (textBytes 1 2 "hello" (.replicate 16 0)) :=
  (text_roundTrip_iff (fun _ => 1) [] .init 23 (by decide) 1 2 "hello" (.replicate 16 0) 7 _
    (doSend_eq_some .init 23 1 2 _ 7 (by decide)) (fun _ => 0) (by decide)).mpr
    ⟨by decide, vacant_of_all_free (by decide) (by decide), fun _ _ => by decide⟩

/-- The longest text that is accepted, of 485 bytes: `MAX_TEXT_PAYLOAD_SIZE`. -/
def longestText : String := String.ofList (List.replicate maxTextPayloadSize 'a')

/-- It is packed into 513 bytes, which fit into no buffer of the firmware, so it makes its way under
no circumstances. -/
theorem longest_text_fails :
    ¬ ∀ (callback : TransportRxCallback Unit) (history : List BleInput) (c : MessagingClient)
        (mtu : ℕ) (_ : 23 ≤ mtu) (srcId dstId : UInt32) (text : String)
        (uuid : Vector UInt8 msgUuidSize) (seqId : UInt16)
        (p : Proc ClientError (List UInt8) (Status ClientError))
        (_ : doSend (c.connect mtu) srcId.toNat dstId.toNat text uuid seqId = some p)
        (clock : ℕ → UInt32),
      (∃ b ∈ (runs AlfieBleService.step (.init (some callback)) history).rxPool.contexts,
        b.state = .free) →
      TextRoundTrip (runs AlfieBleService.step (.init (some callback)) history) p.sends clock
        (textBytes srcId dstId text uuid) := by
  intro h
  have hlen : (encodeUtf8 longestText).length = maxTextPayloadSize := by decide +kernel
  have htrip := h (fun _ => 1) [] .init 251 (by decide) 1 2 longestText (.replicate 16 0) 7 _
    (doSend_eq_some .init 251 1 2 _ 7 hlen.le) (fun _ => 0) (by decide)
  -- `dect_transport_layer_write` returns `-ENOMEM`
  refine htrip.forwarded 0 0 .enomem ?_
  unfold dectTransportLayerWrite
  rw [if_neg (fun h => Bool.noConfusion h), length_textBytes, hlen, if_neg (by decide),
    if_pos (by decide)]

end DectCommunicator
