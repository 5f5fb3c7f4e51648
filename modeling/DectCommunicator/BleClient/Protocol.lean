import DectCommunicator.Lib.LittleEndian

/-!
# The protocol of the BLE client

`utils/ble_client/protocol.py`: the frames of the transport and the text message, as the Python
client packs them. The formats are little-endian and unpadded, so a packed value is a `record`.

The fields are Python integers, without a width of their own: `struct.pack` raises `struct.error`
for a value that its field cannot hold, which is `none` here.
-/

namespace DectCommunicator

open LittleEndian

/-! ### Constants -/

/-- `FRAME_TYPE_DATA`, the value the firmware has too. -/
def frameTypeData : ℕ := 0x00

/-- `FRAME_TYPE_DATA_ACK`, the value the firmware has too. -/
def frameTypeDataAck : ℕ := 0x01

/-- `FRAME_BASE_HEADER_SIZE`: the version and the frame type. -/
abbrev frameBaseHeaderSize : ℕ := 2

/-- `DATA_FRAME_HEADER_SIZE`, the size of the packed format `<BBHHBB`. -/
abbrev dataFrameHeaderSize : ℕ := 8

/-- `MAX_ATT_PAYLOAD`: a comment of the source assumes an MTU of 254 for it. -/
abbrev maxAttPayload : ℕ := 251

/-- `MAX_DATA_FRAME_PAYLOAD`: the longest fragment, when the MTU does not make it shorter. -/
abbrev maxDataFramePayload : ℕ := maxAttPayload - dataFrameHeaderSize

/-- `ALFIE_MESSAGING_ENDPOINT_ID`, by which the router of the firmware finds the endpoint. -/
def alfieMessagingEndpointId : ℕ := 0x00

/-- `MESSAGING_FRAME_TYPE_TEXT`: the only kind of message there is. -/
def messagingFrameTypeText : ℕ := 0x00

/-- `MESSAGING_HEADER_SIZE`: the header of the router and the type of the message. -/
abbrev messagingHeaderSize : ℕ := 11

/-- `MSG_UUID_SIZE`: a UUID in its 16 bytes. -/
abbrev msgUuidSize : ℕ := 16

/-- `MAX_ENDPOINT_MSG_SIZE`: what one message of the transports may hold. -/
abbrev maxEndpointMsgSize : ℕ := 512

/-- `MAX_TEXT_PAYLOAD_SIZE`, by which `_do_send` decides. The terminating NUL is not subtracted. -/
abbrev maxTextPayloadSize : ℕ := maxEndpointMsgSize - messagingHeaderSize - msgUuidSize

/-! ### Packing -/

/-- `struct.pack` with a little-endian format of unsigned fields, each a width and a value. -/
def structPack (fs : List (ℕ × ℕ)) : Option (List UInt8) :=
  if ∀ f ∈ fs, f.2 < 256 ^ f.1 then some (record fs) else none

/-- Values that fit their fields are packed. -/
theorem structPack_eq_some {fs : List (ℕ × ℕ)} (h : ∀ f ∈ fs, f.2 < 256 ^ f.1) :
    structPack fs = some (record fs) := if_pos h

/-- `text.encode("utf-8")`. A Lean string has no surrogates, so no encoding fails. -/
def encodeUtf8 (text : String) : List UInt8 := text.toUTF8.data.toList

/-! ### Frames -/

/-- `DataFrameHeader`, with the base header in front. -/
structure DataFrameHeader where
  version : ℕ
  frameType : ℕ
  seqId : ℕ
  totalSizeBytes : ℕ
  fragIdx : ℕ
  fragTotal : ℕ
deriving DecidableEq, Repr

/-- `DataFrameHeader.pack`. -/
def DataFrameHeader.pack (h : DataFrameHeader) : Option (List UInt8) :=
  structPack [(1, h.version), (1, h.frameType), (2, h.seqId), (2, h.totalSizeBytes),
    (1, h.fragIdx), (1, h.fragTotal)]

/-- `DataFrameHeader.unpack`, of at least `DATA_FRAME_HEADER_SIZE` bytes. -/
def DataFrameHeader.unpack (data : List UInt8) : DataFrameHeader where
  version := field data 0 1
  frameType := field data 1 1
  seqId := field data 2 2
  totalSizeBytes := field data 4 2
  fragIdx := field data 6 1
  fragTotal := field data 7 1

/-- `AckFrame`, in the fields of the ACK frame of the service. -/
structure AckFrame where
  version : ℕ
  frameType : ℕ
  seqId : ℕ
  fragIdx : ℕ
deriving DecidableEq, Repr

/-- `AckFrame.pack`, with the format `<BBHB`. -/
def AckFrame.pack (a : AckFrame) : Option (List UInt8) :=
  structPack [(1, a.version), (1, a.frameType), (2, a.seqId), (1, a.fragIdx)]

/-! ### The text message -/

/-- `TextMessage`: the text is a string of characters, and becomes bytes on packing only. -/
structure TextMessage where
  srcId : ℕ
  dstId : ℕ
  msgUuid : List UInt8
  text : String

/-- `TextMessage.pack`: the header, the UUID and the text with a terminating NUL. -/
def TextMessage.pack (m : TextMessage) : Option (List UInt8) :=
  (structPack [(1, 0), (1, alfieMessagingEndpointId), (4, m.srcId), (4, m.dstId),
    (1, messagingFrameTypeText)]).map
      fun header => header ++ m.msgUuid ++ encodeUtf8 m.text ++ [0x00]

/-- `TextMessage.create`, `uuid` being the 16 bytes of `uuid4`. -/
def TextMessage.create (srcId dstId : ℕ) (text : String) (uuid : Vector UInt8 msgUuidSize) :
    TextMessage :=
  ⟨srcId, dstId, uuid.toList, text⟩

/-- The bytes of a text message with ids of 32 bits, as `pack` makes them. -/
def textBytes (srcId dstId : UInt32) (text : String) (uuid : Vector UInt8 msgUuidSize) :
    List UInt8 :=
  record [(1, 0), (1, alfieMessagingEndpointId), (4, srcId.toNat), (4, dstId.toNat),
    (1, messagingFrameTypeText)] ++ uuid.toList ++ encodeUtf8 text ++ [0x00]

/-- Packing succeeds for ids of 32 bits. Larger ones would raise `struct.error`. -/
theorem pack_create (srcId dstId : UInt32) (text : String) (uuid : Vector UInt8 msgUuidSize) :
    (TextMessage.create srcId.toNat dstId.toNat text uuid).pack =
      some (textBytes srcId dstId text uuid) := by
  have hsrc : srcId.toNat < 256 ^ 4 := srcId.toNat_lt
  have hdst : dstId.toNat < 256 ^ 4 := dstId.toNat_lt
  unfold TextMessage.pack TextMessage.create
  rw [structPack_eq_some]
  · rfl
  · intro f hf
    simp only [List.mem_cons, List.not_mem_nil, or_false] at hf
    rcases hf with rfl | rfl | rfl | rfl | rfl
    · decide
    · decide
    · exact hsrc
    · exact hdst
    · decide

/-- The packed message is 28 bytes longer than the encoded text: 27 bytes before it and the NUL,
which `MAX_TEXT_PAYLOAD_SIZE` does not count. -/
theorem length_textBytes (srcId dstId : UInt32) (text : String)
    (uuid : Vector UInt8 msgUuidSize) :
    (textBytes srcId dstId text uuid).length = (encodeUtf8 text).length + 28 := by
  have huuid : uuid.toList.length = 16 := uuid.length_toList
  unfold textBytes
  rw [List.length_append, List.length_append, List.length_append, length_record, huuid]
  change 11 + 16 + (encodeUtf8 text).length + 1 = _
  omega

end DectCommunicator
