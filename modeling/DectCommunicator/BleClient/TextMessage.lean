import Mathlib.Data.List.DropRight
import DectCommunicator.Lib.Utf8
import DectCommunicator.Alfie.Messaging
import DectCommunicator.BleClient.Protocol

/-!
# The codec of text messages

`TextMessage.unpack` against `TextMessage.pack`, and the packed bytes against the struct that the
firmware casts them to (`alfie_messaging_proto.h`).

The firmware reads what was packed, whatever the text (`ofBytes_textBytes`). The client reads the
text without the NULs it ends with: packing appends one, unpacking strips all (`unpack_textBytes`).
-/

namespace DectCommunicator

open LittleEndian

/-! ### The struct of the firmware -/

/-- `alfie_messaging_proto_text_frame_t`, with the flexible array at its end. -/
structure AlfieMessagingProtoTextFrame where
  alfieHeader : AlfieProtoHeader
  frameType : UInt8
  uuid : List UInt8
  message : List UInt8
deriving DecidableEq, Repr

/-- The bytes cast to the packed struct. Nothing is checked, so the fields are read wherever they
are. -/
def AlfieMessagingProtoTextFrame.ofBytes (bs : List UInt8) : AlfieMessagingProtoTextFrame where
  alfieHeader := AlfieProtoHeader.ofBytes bs
  frameType := UInt8.ofNat (field bs alfieProtoHeaderSizeBytes 1)
  uuid := (bs.drop alfieMessagingProtoHeaderSizeBytes).take alfieMessageUuidSizeBytes
  message := bs.drop alfieMessagingProtoTextFrameSizeBytes

/-! ### Unpacking -/

/-- The exceptions of `TextMessage.unpack`. -/
inductive UnpackError where
  /-- `struct.error`: the buffer is too short for the format -/
  | structError
  | valueError (text : String)
deriving DecidableEq, Repr

/-- `data.decode("utf-8", errors="replace")`: bytes that are no UTF-8 become replacement characters
instead of an error. -/
def decodeUtf8 (data : List UInt8) : String := String.ofList (Utf8.decode data)

/-- `text.rstrip("\x00")`, which takes every NUL at the end and not only the terminator. -/
def rstripNul (text : String) : String :=
  String.ofList (text.toList.rdropWhile fun c => c = '\x00')

/-- `TextMessage.unpack`. A message without its UUID or its text is accepted, with what there is. -/
def TextMessage.unpack (data : List UInt8) : Except UnpackError TextMessage :=
  if data.length < messagingHeaderSize then .error .structError
  else
    let srcId := field data 2 4
    let dstId := field data 6 4
    let frameType := field data 10 1
    if frameType ≠ messagingFrameTypeText then
      .error (.valueError
        ("Unknown messaging frame type: 0x" ++ String.ofList (Nat.toDigits 16 frameType)))
    else
      let msgUuid := (data.drop messagingHeaderSize).take msgUuidSize
      let text := rstripNul (decodeUtf8 (data.drop (messagingHeaderSize + msgUuidSize)))
      .ok ⟨srcId, dstId, msgUuid, text⟩

/-! ### The text -/

/-- The text decodes with its terminator, the encoding being valid UTF-8. -/
theorem decodeUtf8_encodeUtf8 (text : String) :
    decodeUtf8 (encodeUtf8 text ++ [0x00]) = String.ofList (text.toList ++ ['\x00']) := by
  have hnul : Utf8.encode ['\x00'] = [0x00] := rfl
  have hencode : encodeUtf8 text = Utf8.encode text.toList := (Utf8.encode_toList text).symm
  unfold decodeUtf8
  rw [hencode, Utf8.decode_encode_append, ← hnul, Utf8.decode_encode]

/-- Stripping takes the terminator, and goes on with the text. -/
theorem rstripNul_terminated (text : String) :
    rstripNul (String.ofList (text.toList ++ ['\x00'])) = rstripNul text := by
  unfold rstripNul
  rw [String.toList_ofList, List.rdropWhile_concat_pos _ _ _ (by decide)]

/-- It leaves exactly the texts that do not end in NUL, the empty one among them. -/
theorem rstripNul_eq_self_iff (text : String) :
    rstripNul text = text ↔ text.toList.getLast? ≠ some '\x00' := by
  -- on the characters, since a `String` is compared by them
  have hlist : rstripNul text = text ↔
      text.toList.rdropWhile (fun c => decide (c = '\x00')) = text.toList := by
    unfold rstripNul
    rw [← String.toList_inj, String.toList_ofList]
  rw [hlist, List.rdropWhile_eq_self_iff]
  constructor
  · intro h hlast
    have hne : text.toList ≠ [] := fun hnil => by
      rw [hnil] at hlast
      cases hlast
    rw [List.getLast?_eq_some_getLast hne] at hlast
    exact h hne (decide_eq_true (Option.some.inj hlast))
  · intro h hne hlast
    rw [List.getLast?_eq_some_getLast hne] at h
    exact h (congrArg some (of_decide_eq_true hlast))

/-! ### Packed messages -/

section Packed

variable (srcId dstId : UInt32) (text : String) (uuid : Vector UInt8 msgUuidSize)

/-- The fields of the header are read back, each at its offset in the format. -/
theorem field_textBytes :
    field (textBytes srcId dstId text uuid) 0 1 = 0 ∧
      field (textBytes srcId dstId text uuid) 1 1 = alfieMessagingEndpointId ∧
      field (textBytes srcId dstId text uuid) 2 4 = srcId.toNat ∧
      field (textBytes srcId dstId text uuid) 6 4 = dstId.toNat ∧
      field (textBytes srcId dstId text uuid) 10 1 = messagingFrameTypeText := by
  have hsrc : srcId.toNat < 256 ^ 4 := srcId.toNat_lt
  have hdst : dstId.toNat < 256 ^ 4 := dstId.toNat_lt
  unfold textBytes
  rw [List.append_assoc, List.append_assoc]
  refine ⟨field_record [] 1 0 _ _, field_record [(1, 0)] 1 alfieMessagingEndpointId _ _, ?_, ?_,
    field_record [(1, 0), (1, alfieMessagingEndpointId), (4, srcId.toNat), (4, dstId.toNat)] 1
      messagingFrameTypeText [] _⟩
  · exact (field_record [(1, 0), (1, alfieMessagingEndpointId)] 4 srcId.toNat _ _).trans
      (Nat.mod_eq_of_lt hsrc)
  · exact (field_record [(1, 0), (1, alfieMessagingEndpointId), (4, srcId.toNat)] 4 dstId.toNat _
      _).trans (Nat.mod_eq_of_lt hdst)

/-- What follows the header, and what follows the UUID: neither has a length of its own in the
message. -/
theorem drop_textBytes :
    (textBytes srcId dstId text uuid).drop messagingHeaderSize =
        uuid.toList ++ (encodeUtf8 text ++ [0x00]) ∧
      (textBytes srcId dstId text uuid).drop (messagingHeaderSize + msgUuidSize) =
        encodeUtf8 text ++ [0x00] := by
  have hheader : (textBytes srcId dstId text uuid).drop messagingHeaderSize =
      uuid.toList ++ (encodeUtf8 text ++ [0x00]) := by
    unfold textBytes
    rw [List.append_assoc, List.append_assoc]
    exact List.drop_left' (length_record _)
  refine ⟨hheader, ?_⟩
  rw [← List.drop_drop, hheader]
  exact List.drop_left' uuid.length_toList

/-- **The firmware reads what was packed**, the text with the NUL that its string functions rely
on. -/
theorem ofBytes_textBytes :
    AlfieMessagingProtoTextFrame.ofBytes (textBytes srcId dstId text uuid) =
      ⟨⟨0, 0, srcId, dstId⟩, alfieMessagingProtoFrameTypeText, uuid.toList,
        encodeUtf8 text ++ [0x00]⟩ := by
  obtain ⟨hversion, hendpoint, hsrc, hdst, htype⟩ := field_textBytes srcId dstId text uuid
  obtain ⟨hheader, hmessage⟩ := drop_textBytes srcId dstId text uuid
  -- the sizes of the client are those of the firmware
  have huuid : (textBytes srcId dstId text uuid).drop alfieMessagingProtoHeaderSizeBytes =
      uuid.toList ++ (encodeUtf8 text ++ [0x00]) := hheader
  have htext : (textBytes srcId dstId text uuid).drop alfieMessagingProtoTextFrameSizeBytes =
      encodeUtf8 text ++ [0x00] := hmessage
  unfold AlfieMessagingProtoTextFrame.ofBytes AlfieProtoHeader.ofBytes
  rw [hversion, hendpoint, hsrc, hdst, htype, huuid, htext, UInt32.ofNat_toNat,
    UInt32.ofNat_toNat, List.take_left' uuid.length_toList]
  rfl

/-- **The client reads the text without the NULs at its end**, its own ones as well as the
terminator. -/
theorem unpack_textBytes :
    TextMessage.unpack (textBytes srcId dstId text uuid) =
      .ok (.create srcId.toNat dstId.toNat (rstripNul text) uuid) := by
  obtain ⟨-, -, hsrc, hdst, htype⟩ := field_textBytes srcId dstId text uuid
  obtain ⟨hheader, hmessage⟩ := drop_textBytes srcId dstId text uuid
  have hlen : ¬ (textBytes srcId dstId text uuid).length < messagingHeaderSize := by
    rw [length_textBytes]
    exact not_lt.mpr (Nat.le_add_left_of_le (by decide))
  unfold TextMessage.unpack
  rw [if_neg hlen]
  dsimp only
  rw [htype, if_neg (not_not_intro rfl), hsrc, hdst, hheader, hmessage, decodeUtf8_encodeUtf8,
    rstripNul_terminated, List.take_left' uuid.length_toList]
  rfl

end Packed

/-! ### The round trip -/

/-- A text message that is packed is unpacked as it was, and the firmware reads its endpoint, type,
ids and UUID. -/
def TextMessage.RoundTrips (srcId dstId : UInt32) (text : String)
    (uuid : Vector UInt8 msgUuidSize) : Prop :=
  ∃ bytes, (TextMessage.create srcId.toNat dstId.toNat text uuid).pack = some bytes ∧
    TextMessage.unpack bytes = .ok (.create srcId.toNat dstId.toNat text uuid) ∧
    (AlfieMessagingProtoTextFrame.ofBytes bytes).alfieHeader.endpointId = 0 ∧
    (AlfieMessagingProtoTextFrame.ofBytes bytes).frameType = alfieMessagingProtoFrameTypeText ∧
    (AlfieMessagingProtoTextFrame.ofBytes bytes).alfieHeader.srcId = srcId ∧
    (AlfieMessagingProtoTextFrame.ofBytes bytes).alfieHeader.dstId = dstId ∧
    (AlfieMessagingProtoTextFrame.ofBytes bytes).uuid = uuid.toList

/-- **A text message makes the round trip unless its text ends in NUL.** Nothing else can go wrong,
whatever the ids, the UUID and the characters. -/
theorem text_codec_iff (srcId dstId : UInt32) (text : String) (uuid : Vector UInt8 msgUuidSize) :
    TextMessage.RoundTrips srcId dstId text uuid ↔ text.toList.getLast? ≠ some '\x00' := by
  have hframe := ofBytes_textBytes srcId dstId text uuid
  rw [← rstripNul_eq_self_iff]
  unfold TextMessage.RoundTrips
  rw [pack_create]
  constructor
  · rintro ⟨bytes, hbytes, hunpack, -⟩
    obtain rfl := Option.some.inj hbytes
    rw [unpack_textBytes] at hunpack
    exact congrArg TextMessage.text (Except.ok.inj hunpack)
  · intro htext
    refine ⟨_, rfl, ?_, ?_⟩
    · rw [unpack_textBytes, htext]
    · rw [hframe]
      exact ⟨rfl, rfl, rfl, rfl, rfl⟩

/-- The text "a" with a NUL after it comes back without it, as one that was never there. -/
theorem text_codec_nul :
    ∃ bytes, (TextMessage.create 1 5 "a\x00" (Vector.replicate 16 7)).pack = some bytes ∧
      TextMessage.unpack bytes = .ok (.create 1 5 "a" (Vector.replicate 16 7)) ∧
      ¬ TextMessage.RoundTrips 1 5 "a\x00" (Vector.replicate 16 7) := by
  have hpack := pack_create 1 5 "a\x00" (Vector.replicate 16 7)
  have hunpack := unpack_textBytes 1 5 "a\x00" (Vector.replicate 16 7)
  have hstrip : rstripNul "a\x00" = "a" := by decide
  rw [hstrip] at hunpack
  refine ⟨_, hpack, hunpack, ?_⟩
  rintro ⟨bytes, hbytes, hback, -⟩
  obtain rfl := Option.some.inj (hpack.symm.trans hbytes)
  have htext := congrArg TextMessage.text (Except.ok.inj (hunpack.symm.trans hback))
  exact absurd htext (by decide)

end DectCommunicator
