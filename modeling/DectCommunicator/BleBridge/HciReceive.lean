import DectCommunicator.Lib.PrefixCode
import DectCommunicator.BleBridge.HciUart

/-!
# What the HCI receiver makes of a byte stream

The inputs of `rx_isr` are the bytes of the UART and, when a header is complete, the result of
`bt_buf_get_tx`. As a stream they have one reading as *items* (`H4Item`): bytes that are not the
type of a packet, and packets. The receiver puts into `tx_queue` the packets that got a buffer with
room for them and nothing else, and `tx_thread` hands them to `bt_send` in this order
(`receiver_decodes`). So the result does not depend on the sizes of the reads, on where one
interrupt ends and the next begins, or on when the thread runs.

`RxIsr.Pending` says what the static variables stand for: the inputs since the last whole item.
`rxIsr_pending` follows one pass of the loop with it, and `Decoded` carries it through a run.
-/

namespace DectCommunicator

open LittleEndian Machine PrefixCode

/-! ### Buffers -/

/-- What `net_buf_add_mem` does when it stays inside the buffer, and that it does. -/
theorem HciBuf.addMem_eq_some {b buf : HciBuf} {mem : List UInt8} (h : b.addMem mem = some buf) :
    buf.id = b.id ∧ buf.size = b.size ∧ buf.data = b.data ++ mem ∧
      b.data.length + mem.length ≤ b.size := by
  unfold HciBuf.addMem at h
  split at h
  · next hle =>
    obtain rfl := Option.some.inj h
    exact ⟨rfl, rfl, rfl, hle⟩
  · cases h

/-- It stays inside when there is room. -/
theorem HciBuf.exists_addMem {b : HciBuf} {mem : List UInt8}
    (h : b.data.length + mem.length ≤ b.size) : ∃ buf, b.addMem mem = some buf :=
  ⟨_, dif_pos h⟩

/-- And only then. -/
theorem HciBuf.addMem_eq_none {b : HciBuf} {mem : List UInt8} :
    b.addMem mem = none ↔ b.size < b.data.length + mem.length := by
  unfold HciBuf.addMem
  split
  · next hle => simp only [reduceCtorEq, false_iff]; omega
  · next hle => simp only [true_iff]; omega

/-- Two additions are one, which is why it does not matter in how many reads a payload arrives. -/
theorem HciBuf.addMem_addMem (b : HciBuf) (xs ys : List UInt8) :
    (b.addMem xs).bind (fun c => c.addMem ys) = b.addMem (xs ++ ys) := by
  cases hxs : b.addMem xs with
  | none =>
    have hlt := addMem_eq_none.mp hxs
    refine (addMem_eq_none.mpr ?_).symm
    rw [List.length_append]
    omega
  | some c =>
    obtain ⟨hid, hsize, hdata, hle⟩ := addMem_eq_some hxs
    rw [Option.bind_some]
    unfold HciBuf.addMem
    simp only [hid, hsize, hdata, List.append_assoc, List.length_append, Nat.add_assoc]

/-- What a read adds, if the UART was asked for no more than the buffer has room for: the bytes
read. -/
theorem HciBuf.readTail_eq {b : HciBuf} {len : ℕ} {read : List UInt8} (hlen : len ≤ b.tailroom) :
    b.readTail len read = b.addMem read := by
  have hfits := b.fits
  unfold HciBuf.tailroom at hlen
  exact if_pos (by omega)

/-- What has been read of a header is at the beginning of `hdr_buf`, in front of the old bytes. -/
theorem HdrBuf.take_write (b : HdrBuf) {offset : ℕ} {read : List UInt8}
    (h : offset + read.length ≤ hdrBufSize) :
    (b.write offset read h).bytes.take (offset + read.length) = b.bytes.take offset ++ read := by
  have hb := b.length_bytes
  refine List.take_left' ?_
  rw [List.length_append, List.length_take]
  omega

/-- Every header has room in `hdr_buf`. The ISO header, which its declaration leaves out, has the
size of the ACL one. -/
theorem hdrLen_le (type : UInt8) : hdrLen type ≤ hdrBufSize := by
  unfold hdrLen
  split
  · exact Nat.le_succ 3
  · split
    · exact Nat.le_refl 4
    · split <;> simp

/-- A packet has a header, so the receiver asks for a byte after the type. -/
theorem hdrLen_pos {type : UInt8} (h : validType type = true) : 0 < hdrLen type := by
  simp only [validType, Bool.or_eq_true, beq_iff_eq] at h
  rcases h with (rfl | rfl) | rfl <;> decide

/-! ### Items -/

/-- What the receiver relies on of the Bluetooth stack: the results that `bt_buf_get_tx` can have
for a type of packet, of which there is one and whose buffers have room for a header. -/
structure BtStack where
  btIsoHdrLen : ℕ → ℕ
  Answers : UInt8 → Option HciBuf → Prop
  exists_answer : ∀ type, ∃ a, Answers type a
  room : ∀ type b, Answers type (some b) → hdrBufSize ≤ b.tailroom

variable {stack : BtStack}

/-- A part of the input: a byte that is not the type of a packet, or a packet, with what
`bt_buf_get_tx` answered when its header was complete. -/
inductive H4Item where
  | unknown (type : UInt8)
  | packet (type : UInt8) (hdr : List UInt8) (answer : Option HciBuf) (payload : List UInt8)
deriving DecidableEq, Repr

/-- The inputs that make up the item: its bytes, with the answer where the header is complete. -/
def H4Item.inputs : H4Item → List HciRxInput
  | .unknown type => [.byte type]
  | .packet type hdr answer payload =>
    .byte type :: (hdr.map .byte ++ .answer answer :: payload.map .byte)

/-- A packet has a header of its type and the payload that the header announces. Without a buffer
it ends with the header: what follows is read as a new item. -/
def H4Item.WellFormed (btIsoHdrLen : ℕ → ℕ) : H4Item → Prop
  | .unknown type => validType type = false
  | .packet type hdr answer payload =>
    validType type = true ∧ hdr.length = hdrLen type ∧
      payload.length = if answer.isSome then getLen btIsoHdrLen hdr type else 0

/-- The buffer of a packet is one that the stack may give for its type, or there is none. -/
def H4Item.Answered (stack : BtStack) : H4Item → Prop
  | .unknown _ => True
  | .packet type _ answer _ => stack.Answers type answer

/-- The buffer that the item makes the receiver queue: header and payload behind what the buffer
came with, if there is a buffer and it has room for both. -/
def H4Item.queued : H4Item → Option HciBuf
  | .unknown _ => none
  | .packet _ hdr answer payload => answer.bind fun b => b.addMem (hdr ++ payload)

/-- Bytes that are equal as inputs are equal. -/
theorem byte_injective : Function.Injective HciRxInput.byte := fun _ _ h => HciRxInput.byte.inj h

/-- No item begins another one, so a stream of inputs cannot be read in two ways. -/
theorem h4_prefixFree (btIsoHdrLen : ℕ → ℕ) :
    PrefixFree (H4Item.WellFormed btIsoHdrLen) H4Item.inputs where
  ne_nil := by
    intro a _
    cases a <;> exact List.cons_ne_nil _ _
  eq_of_prefix := by
    intro a b ha hb hbegins
    cases a with
    | unknown type =>
      cases b with
      | unknown type' =>
        -- a type is valid or it is not
        obtain ⟨htype, -⟩ := List.cons_prefix_cons.mp hbegins
        rw [HciRxInput.byte.inj htype]
      | packet type' hdr' answer' payload' =>
        obtain ⟨htype, -⟩ := List.cons_prefix_cons.mp hbegins
        obtain rfl := HciRxInput.byte.inj htype
        exact absurd (ha.symm.trans hb.1) Bool.false_ne_true
    | packet type hdr answer payload =>
      cases b with
      | unknown type' =>
        obtain ⟨htype, -⟩ := List.cons_prefix_cons.mp hbegins
        obtain rfl := HciRxInput.byte.inj htype
        exact absurd (hb.symm.trans ha.1) Bool.false_ne_true
      | packet type' hdr' answer' payload' =>
        obtain ⟨htype, rest, htail⟩ := List.cons_prefix_cons.mp hbegins
        obtain rfl := HciRxInput.byte.inj htype
        obtain ⟨-, hhdr, hpayload⟩ := ha
        obtain ⟨-, hhdr', hpayload'⟩ := hb
        -- The headers have the same length, hence the buffers and then the payloads.
        rw [List.append_assoc] at htail
        obtain ⟨hmap, hbehind⟩ := List.append_inj htail (by simp only [List.length_map]; omega)
        obtain rfl := List.map_injective_iff.mpr byte_injective hmap
        rw [List.cons_append] at hbehind
        obtain ⟨hanswer, hrest⟩ := List.cons.inj hbehind
        obtain rfl := HciRxInput.answer.inj hanswer
        have hlen : payload.length = payload'.length := by rw [hpayload, hpayload']
        have hmap : payload.map HciRxInput.byte = payload'.map HciRxInput.byte :=
          List.append_inj_left (hrest.trans (List.append_nil _).symm)
            (by simp only [List.length_map]; exact hlen)
        rw [List.map_injective_iff.mpr byte_injective hmap]

/-! ### The static variables -/

/-- The inputs since the last whole item, which the static variables of `rx_isr` stand for. In
`discard` the bytes themselves are gone, and only their number matters. -/
inductive RxIsr.Pending (stack : BtStack) (s : RxIsr) : List HciRxInput → Prop
  | idle (hstate : s.state = .idle) : Pending stack s []
  | hdr {hdr : List UInt8} (hstate : s.state = .hdr) (htype : validType s.type = true)
      (hlen : hdr.length + s.remaining = hdrLen s.type) (hpos : 0 < s.remaining)
      (hbuf : s.hdrBuf.bytes.take hdr.length = hdr) :
      Pending stack s (.byte s.type :: hdr.map .byte)
  | payload {hdr part : List UInt8} {b buf : HciBuf} (hstate : s.state = .payload)
      (htype : validType s.type = true) (hlen : hdr.length = hdrLen s.type)
      (hanswer : stack.Answers s.type (some b)) (hbuf : s.buf = some buf)
      (hadd : b.addMem (hdr ++ part) = some buf)
      (hrem : part.length + s.remaining = getLen stack.btIsoHdrLen hdr s.type)
      (hroom : s.remaining ≤ buf.tailroom) :
      Pending stack s
        (.byte s.type :: (hdr.map .byte ++ .answer (some b) :: part.map .byte))
  | discard {hdr part : List UInt8} {b : HciBuf} (hstate : s.state = .discard)
      (htype : validType s.type = true) (hlen : hdr.length = hdrLen s.type)
      (hanswer : stack.Answers s.type (some b)) (hpos : 0 < s.remaining)
      (hrem : part.length + s.remaining = getLen stack.btIsoHdrLen hdr s.type)
      (hroom : b.size < b.data.length + (hdr.length + getLen stack.btIsoHdrLen hdr s.type)) :
      Pending stack s
        (.byte s.type :: (hdr.map .byte ++ .answer (some b) :: part.map .byte))

/-- The receiver has all of a packet and has not yet queued it: its payload is empty. -/
def RxIsr.Due (s : RxIsr) : Prop := s.state = .payload ∧ s.remaining = 0

variable {s : RxIsr} {pend : List HciRxInput}

/-- Unless a packet is due, the pending inputs are not a whole item, so nothing has been held
back. -/
theorem RxIsr.Pending.incomplete (h : s.Pending stack pend) (hdue : ¬ s.Due) :
    Incomplete (H4Item.WellFormed stack.btIsoHdrLen) H4Item.inputs pend := by
  -- A payload of which bytes are missing, read into a buffer or dropped: zeros complete it.
  have hshort : ∀ {hdr part : List UInt8} {b : HciBuf}, validType s.type = true →
      hdr.length = hdrLen s.type →
      part.length + s.remaining = getLen stack.btIsoHdrLen hdr s.type → 0 < s.remaining →
      Incomplete (H4Item.WellFormed stack.btIsoHdrLen) H4Item.inputs
        (.byte s.type :: (hdr.map .byte ++ .answer (some b) :: part.map .byte)) := by
    intro hdr part b htype hlen hrem hpos
    refine (h4_prefixFree _).incomplete_of_shorter
      (a := .packet s.type hdr (some b) (part ++ List.replicate s.remaining 0))
      ⟨htype, hlen, by simpa using hrem⟩ ?_ ?_
    · simp [H4Item.inputs]
    · simp only [H4Item.inputs, List.length_cons, List.length_append, List.length_map,
        List.length_replicate]
      omega
  cases h with
  | idle => exact (h4_prefixFree _).incomplete_nil
  | @hdr hdr hstate htype hlen hpos hbuf =>
    refine (h4_prefixFree _).incomplete_of_shorter
      (a := .packet s.type (hdr ++ List.replicate s.remaining 0) none [])
      ⟨htype, by simpa using hlen, rfl⟩ ?_ ?_
    · simp [H4Item.inputs]
    · simp [H4Item.inputs]
  | @payload hdr part b buf hstate htype hlen hanswer hbuf hadd hrem hroom =>
    -- with no bytes missing the packet would be due
    exact hshort htype hlen hrem (Nat.pos_of_ne_zero fun hzero => hdue ⟨hstate, hzero⟩)
  | @discard hdr part b hstate htype hlen hanswer hpos hrem hroom =>
    exact hshort htype hlen hrem hpos

/-- What a pass makes of the pending inputs and of those it gets: whole items, whose packets it
queues, and new pending inputs. It is not the last one when a packet is due. -/
structure RxPass.Advances (stack : BtStack) (p : RxPass) (before : List HciRxInput)
    (items : List H4Item) (pend : List HciRxInput) : Prop where
  wellFormed : ∀ i ∈ items, i.WellFormed stack.btIsoHdrLen
  answered : ∀ i ∈ items, i.Answered stack
  inputs_eq : before ++ p.effects.filterMap HciRxEffect.input?
    = items.flatMap H4Item.inputs ++ pend
  pending : p.isr.Pending stack pend
  queued : p.effects.filterMap HciRxEffect.put? = items.filterMap H4Item.queued
  again : p.isr.Due → p.again = true

/-- The length that a header announces lies in it, and not in the old bytes behind it. -/
theorem getLen_take {type : UInt8} (h : validType type = true) (hdrBuf : List UInt8) :
    getLen stack.btIsoHdrLen (hdrBuf.take (hdrLen type)) type =
      getLen stack.btIsoHdrLen hdrBuf type := by
  simp only [validType, Bool.or_eq_true, beq_iff_eq] at h
  rcases h with (rfl | rfl) | rfl
  · exact field_take hdrBuf (Nat.le_refl 3)
  · exact field_take hdrBuf (Nat.le_refl 4)
  · exact congrArg stack.btIsoHdrLen (field_take hdrBuf (Nat.le_refl 4))

variable {read : List UInt8} {answer : Option HciBuf} {p : RxPass}

/-- The rest of a pass when the header is complete: no buffer, one without room, or one that the
payload goes to. -/
theorem RxIsr.onHeader_advances {hdr : List UInt8} (htype : validType s.type = true)
    (hlen : hdr.length = hdrLen s.type) (hbuf : s.hdrBuf.bytes.take (hdrLen s.type) = hdr)
    (hanswer : stack.Answers s.type answer) :
    ∃ p items pend, s.onHeader stack.btIsoHdrLen answer true = some p ∧
      p.Advances stack (.byte s.type :: hdr.map .byte) items pend := by
  -- the length is read from the header, and not from what else is in `hdr_buf`
  have hgetLen : getLen stack.btIsoHdrLen s.hdrBuf.bytes s.type =
      getLen stack.btIsoHdrLen hdr s.type := by
    rw [← hbuf, getLen_take htype]
  cases answer with
  | none =>
    -- Without a buffer the packet ends here.
    refine ⟨_, [.packet s.type hdr none []], [], rfl, ?_, ?_, ?_, .idle rfl, ?_, ?_⟩
    · simp [H4Item.WellFormed, htype, hlen]
    · simpa [H4Item.Answered] using hanswer
    · simp [HciRxEffect.input?, H4Item.inputs]
    · simp [HciRxEffect.put?, H4Item.queued]
    · intro hdue
      cases hdue.1
  | some b =>
    have hle := hdrLen_le s.type
    -- the stack has room for the header in every buffer it hands out
    have hfree : hdrBufSize ≤ b.size - b.data.length := stack.room s.type b hanswer
    have hfits := b.fits
    obtain ⟨buf, hadd⟩ := @HciBuf.exists_addMem b hdr (by omega)
    obtain ⟨-, hsize, hdata, -⟩ := HciBuf.addMem_eq_some hadd
    have htail : buf.tailroom = b.size - (b.data.length + hdr.length) := by
      rw [HciBuf.tailroom, hsize, hdata, List.length_append]
    by_cases hover : getLen stack.btIsoHdrLen hdr s.type > buf.tailroom
    · -- no room: the packet is dropped when its payload has been read
      have hlarge : b.size <
          b.data.length + (hdr.length + getLen stack.btIsoHdrLen hdr s.type) := by
        omega
      refine ⟨⟨{ s with
          buf := some buf, remaining := getLen stack.btIsoHdrLen hdr s.type, state := .discard },
        [.allocated (some b), .unref buf], true⟩, [],
        .byte s.type :: (hdr.map .byte ++ .answer (some b) :: [].map .byte), ?_, ?_⟩
      · rw [RxIsr.onHeader, hbuf, hadd, Option.map_some]
        simp only [hgetLen, if_pos hover]
      · refine ⟨by simp, by simp, ?_, ?_, ?_, ?_⟩
        · simp [HciRxEffect.input?]
        · exact .discard rfl htype hlen hanswer (Nat.lt_of_le_of_lt (Nat.zero_le _) hover)
            (Nat.zero_add _) hlarge
        · simp [HciRxEffect.put?]
        · intro hdue
          cases hdue.1
    · -- there is room: the payload is read into the buffer
      refine ⟨⟨{ s with
          buf := some buf, remaining := getLen stack.btIsoHdrLen hdr s.type, state := .payload },
        [.allocated (some b)], true⟩, [],
        .byte s.type :: (hdr.map .byte ++ .answer (some b) :: [].map .byte), ?_, ?_⟩
      · rw [RxIsr.onHeader, hbuf, hadd, Option.map_some]
        simp only [hgetLen, if_neg hover]
      · refine ⟨by simp, by simp, ?_, ?_, ?_, ?_⟩
        · simp [HciRxEffect.input?]
        · exact .payload rfl htype hlen hanswer rfl (by rw [List.append_nil]; exact hadd)
            (Nat.zero_add _) (Nat.le_of_not_lt hover)
        · simp [HciRxEffect.put?]
        · intro _
          rfl

/-- A pass that reads the type of a packet, or a byte that is none, or nothing. -/
theorem RxIsr.pass_idle (hstate : s.state = .idle) (hread : read.length ≤ s.request) :
    ∃ p items pend', rxIsr stack.btIsoHdrLen s read answer = some p ∧
      p.Advances stack ([] ++ read.map .byte) items pend' := by
  unfold RxIsr.request at hread
  unfold rxIsr
  simp only [hstate] at hread ⊢
  cases read with
  | nil =>
    -- the loop ends with a read of nothing
    refine ⟨_, [], [], rfl, by simp, by simp, by simp, .idle hstate, by simp, ?_⟩
    intro hdue
    cases hstate.symm.trans hdue.1
  | cons type rest =>
    obtain rfl : rest = [] := List.eq_nil_of_length_eq_zero (by simpa using hread)
    by_cases htype : validType type = true
    · refine ⟨_, [], [.byte type], if_pos htype, by simp, by simp, by simp, ?_,
        by simp, ?_⟩
      · exact @RxIsr.Pending.hdr stack _ [] rfl htype (Nat.zero_add _) (hdrLen_pos htype) rfl
      · intro _
        rfl
    · refine ⟨_, [.unknown type], [], if_neg htype, ?_, by simp [H4Item.Answered],
        by simp [H4Item.inputs], .idle rfl, by simp [H4Item.queued], ?_⟩
      · simpa [H4Item.WellFormed] using htype
      · intro _
        rfl

/-- A pass that reads of a header, and completes it or not. -/
theorem RxIsr.pass_hdr {hdr : List UInt8} (hstate : s.state = .hdr)
    (htype : validType s.type = true) (hlen : hdr.length + s.remaining = hdrLen s.type)
    (hpos : 0 < s.remaining) (hbuf : s.hdrBuf.bytes.take hdr.length = hdr)
    (hread : read.length ≤ s.request) (hanswer : stack.Answers s.type answer) :
    ∃ p items pend', rxIsr stack.btIsoHdrLen s read answer = some p ∧
      p.Advances stack (.byte s.type :: hdr.map .byte ++ read.map .byte) items pend' := by
  unfold RxIsr.request at hread
  unfold rxIsr
  simp only [hstate] at hread ⊢
  have hle := hdrLen_le s.type
  -- the bytes read so far are at the beginning of `hdr_buf`, and the new ones go behind them
  have hoffset : hdrLen s.type - s.remaining = hdr.length := by omega
  have hin : hdrLen s.type - s.remaining + read.length ≤ hdrBufSize := by omega
  have hwrite : (s.hdrBuf.write _ read hin).bytes.take (hdr.length + read.length)
      = hdr ++ read := by
    rw [← hoffset, HdrBuf.take_write, hoffset, hbuf]
  rw [if_pos ⟨by omega, hle⟩, dif_pos hin]
  -- with its last byte the header is completed, and the buffer requested in the same pass
  by_cases hzero : s.remaining - read.length = 0
  · have hnonempty : (!read.isEmpty) = true := by
      cases read with
      | nil => simp only [List.length_nil] at hzero; omega
      | cons x xs => rfl
    rw [if_pos hzero, hnonempty, List.cons_append, ← List.map_append]
    refine RxIsr.onHeader_advances (s := { s with
      hdrBuf := s.hdrBuf.write (hdrLen s.type - s.remaining) read hin
      remaining := s.remaining - read.length }) htype ?_ ?_ hanswer
    · rw [List.length_append]
      show _ = hdrLen s.type
      omega
    · have hsum : hdr.length + read.length = hdrLen s.type := by omega
      rw [hsum] at hwrite
      exact hwrite
  · rw [if_neg hzero]
    refine ⟨_, [], .byte s.type :: (hdr ++ read).map .byte, rfl, by simp, by simp, by simp, ?_,
      by simp, ?_⟩
    · refine @RxIsr.Pending.hdr stack _ (hdr ++ read) rfl htype ?_ (Nat.pos_of_ne_zero hzero) ?_
      · rw [List.length_append]
        show hdr.length + read.length + (s.remaining - read.length) = hdrLen s.type
        omega
      · rw [List.length_append]
        exact hwrite
    · intro hdue
      cases hdue.1

/-- A pass that reads of a payload, behind what the buffer has of it already. -/
theorem RxIsr.pass_payload {hdr part : List UInt8} {b buf : HciBuf} (hstate : s.state = .payload)
    (htype : validType s.type = true) (hlen : hdr.length = hdrLen s.type)
    (hanswer : stack.Answers s.type (some b)) (hbuf : s.buf = some buf)
    (hadd : b.addMem (hdr ++ part) = some buf)
    (hrem : part.length + s.remaining = getLen stack.btIsoHdrLen hdr s.type)
    (hfree : s.remaining ≤ buf.tailroom) (hread : read.length ≤ s.request) :
    ∃ p items pend', rxIsr stack.btIsoHdrLen s read answer = some p ∧
      p.Advances stack (.byte s.type :: (hdr.map .byte ++ .answer (some b) :: part.map .byte) ++
        read.map .byte) items pend' := by
  unfold RxIsr.request at hread
  unfold rxIsr
  simp only [hstate] at hread ⊢
  obtain ⟨-, hsize, hdata, hle⟩ := HciBuf.addMem_eq_some hadd
  have htail : buf.tailroom = b.size - (b.data.length + (hdr ++ part).length) := by
    rw [HciBuf.tailroom, hsize, hdata, List.length_append]
  obtain ⟨buf', hadd'⟩ := @HciBuf.exists_addMem buf read (by
    rw [hsize, hdata, List.length_append]
    omega)
  -- behind the header, what was read before and what is read now are one piece
  have hall : b.addMem (hdr ++ (part ++ read)) = some buf' := by
    rw [← List.append_assoc, ← HciBuf.addMem_addMem, hadd, Option.bind_some, hadd']
  rw [hbuf, Option.bind_some, HciBuf.readTail_eq hfree, hadd', Option.map_some]
  by_cases hzero : s.remaining - read.length = 0
  · -- the packet is whole, and queued
    have hlength : (part ++ read).length = getLen stack.btIsoHdrLen hdr s.type := by
      rw [List.length_append]
      omega
    rw [if_pos hzero]
    refine ⟨_, [.packet s.type hdr (some b) (part ++ read)], [], rfl, ?_, ?_, ?_, .idle rfl,
      ?_, ?_⟩
    · simpa [H4Item.WellFormed, htype, hlen] using hlength
    · simpa [H4Item.Answered] using hanswer
    · simp [HciRxEffect.input?, H4Item.inputs]
    · simp [HciRxEffect.put?, H4Item.queued, hall]
    · intro hdue
      cases hdue.1
  · -- more bytes of the payload are to come, for which there is room
    rw [if_neg hzero]
    refine ⟨_, [], .byte s.type :: (hdr.map .byte ++ .answer (some b) :: (part ++ read).map .byte),
      rfl, by simp, by simp, by simp, ?_,
      by simp, ?_⟩
    · refine .payload rfl htype hlen hanswer rfl hall ?_ ?_
      · rw [List.length_append]
        show part.length + read.length + (s.remaining - read.length)
          = getLen stack.btIsoHdrLen hdr s.type
        omega
      · obtain ⟨-, hsize', hdata', -⟩ := HciBuf.addMem_eq_some hadd'
        show s.remaining - read.length ≤ _
        rw [HciBuf.tailroom, hsize', hdata', List.length_append]
        rw [HciBuf.tailroom] at hfree
        omega
    · intro hdue
      exact absurd hdue.2 hzero

/-- A pass that reads of a payload that is dropped. The item is a packet like any other, whose
buffer has no room for it. -/
theorem RxIsr.pass_discard {hdr part : List UInt8} {b : HciBuf} (hstate : s.state = .discard)
    (htype : validType s.type = true) (hlen : hdr.length = hdrLen s.type)
    (hanswer : stack.Answers s.type (some b))
    (hrem : part.length + s.remaining = getLen stack.btIsoHdrLen hdr s.type)
    (hfree : b.size < b.data.length + (hdr.length + getLen stack.btIsoHdrLen hdr s.type))
    (hread : read.length ≤ s.request) :
    ∃ p items pend', rxIsr stack.btIsoHdrLen s read answer = some p ∧
      p.Advances stack (.byte s.type :: (hdr.map .byte ++ .answer (some b) :: part.map .byte) ++
        read.map .byte) items pend' := by
  unfold RxIsr.request at hread
  unfold rxIsr
  simp only [hstate] at hread ⊢
  by_cases hzero : s.remaining - read.length = 0
  · -- the last byte of the payload: the packet is complete, and was never stored
    have hlength : (part ++ read).length = getLen stack.btIsoHdrLen hdr s.type := by
      rw [List.length_append]
      omega
    have hnone : b.addMem (hdr ++ (part ++ read)) = none := by
      rw [HciBuf.addMem_eq_none, List.length_append, hlength]
      exact hfree
    rw [if_pos hzero]
    refine ⟨_, [.packet s.type hdr (some b) (part ++ read)], [], rfl, ?_, ?_, ?_, .idle rfl,
      ?_, ?_⟩
    · simpa [H4Item.WellFormed, htype, hlen] using hlength
    · simpa [H4Item.Answered] using hanswer
    · simp [H4Item.inputs]
    · simp [H4Item.queued, hnone]
    · intro hdue
      cases hdue.1
  · -- more bytes of it are to be dropped
    rw [if_neg hzero]
    refine ⟨_, [], .byte s.type :: (hdr.map .byte ++ .answer (some b) :: (part ++ read).map .byte),
      rfl, by simp, by simp, by simp, ?_,
      by simp, ?_⟩
    · refine .discard rfl htype hlen hanswer (Nat.pos_of_ne_zero hzero) ?_ hfree
      rw [List.length_append]
      show part.length + read.length + (s.remaining - read.length)
        = getLen stack.btIsoHdrLen hdr s.type
      omega
    · intro hdue
      exact absurd hdue.2 hzero

/-- **One pass of the loop.** It stays inside of its buffers, in each of the four states. -/
theorem RxIsr.Pending.pass (h : s.Pending stack pend) (hread : read.length ≤ s.request)
    (hanswer : s.state = .hdr → stack.Answers s.type answer) :
    ∃ p items pend', rxIsr stack.btIsoHdrLen s read answer = some p ∧
      p.Advances stack (pend ++ read.map .byte) items pend' := by
  cases h with
  | idle hstate => exact RxIsr.pass_idle hstate hread
  | hdr hstate htype hlen hpos hbuf =>
    exact RxIsr.pass_hdr hstate htype hlen hpos hbuf hread (hanswer hstate)
  | payload hstate htype hlen hanswer hbuf hadd hrem hfree =>
    exact RxIsr.pass_payload hstate htype hlen hanswer hbuf hadd hrem hfree hread
  | discard hstate htype hlen hanswer _ hrem hfree =>
    exact RxIsr.pass_discard hstate htype hlen hanswer hrem hfree hread

/-! ### Runs -/

/-- The result of `bt_buf_get_tx` that comes with a pass is one the stack may give, where the pass
asks for it. -/
def HciRxAction.Admitted (stack : BtStack) (r : HciReceiver) : HciRxAction → Prop
  | .pass _ answer => r.isr.state = .hdr → stack.Answers r.isr.type answer
  | _ => True

/-- The buffers that went through `tx_queue`, in order, whether the thread has taken them or not. -/
def HciReceiver.queued (r : HciReceiver) : List HciBuf :=
  r.sent.map Prod.fst ++ (r.txThread.toList ++ r.txQueue)

/-- The bytes among the inputs, without the answers. -/
def HciRxInput.byte? : HciRxInput → Option UInt8
  | .byte b => some b
  | .answer _ => none

/-- What the inputs since the start amount to: items, and pending inputs. The last part says that
the handler does not return while a packet is due. -/
structure HciReceiver.Decoded (stack : BtStack) (r : HciReceiver) (items : List H4Item)
    (pend : List HciRxInput) : Prop where
  wellFormed : ∀ i ∈ items, i.WellFormed stack.btIsoHdrLen
  answered : ∀ i ∈ items, i.Answered stack
  inputs_eq : r.inputs = items.flatMap H4Item.inputs ++ pend
  pending : r.isr.Pending stack pend
  queued_eq : r.queued = items.filterMap H4Item.queued
  running : r.isr.Due → r.running = true

variable {r r' : HciReceiver} {items : List H4Item}

/-- At the start there are no inputs. -/
theorem HciReceiver.Decoded.init : HciReceiver.init.Decoded stack [] [] where
  wellFormed := by simp
  answered := by simp
  inputs_eq := rfl
  pending := .idle rfl
  queued_eq := rfl
  running := fun hdue => by cases hdue.1

/-- A step that only moves bytes or buffers on, which all but a pass do. -/
theorem HciReceiver.Decoded.congr (h : r.Decoded stack items pend) (hisr : r'.isr = r.isr)
    (hinputs : r'.inputs = r.inputs) (hqueued : r'.queued = r.queued)
    (hrunning : r.running = true → r'.running = true) : r'.Decoded stack items pend where
  wellFormed := h.wellFormed
  answered := h.answered
  inputs_eq := hinputs.trans h.inputs_eq
  pending := hisr ▸ h.pending
  queued_eq := hqueued.trans h.queued_eq
  running := fun hdue => hrunning (h.running (hisr ▸ hdue))

/-- The UART delivers no more than it was asked for. -/
theorem HciReceiver.length_read (r : HciReceiver) (count : ℕ) :
    (r.read count).length ≤ r.isr.request := by
  rw [HciReceiver.read, List.length_take]
  omega

/-- A pass appends to the items those it completes, and to the queue their packets. -/
theorem HciReceiver.Decoded.pass (h : r.Decoded stack items pend) (count : ℕ)
    (hanswer : r.isr.state = .hdr → stack.Answers r.isr.type answer) :
    ∃ p items' pend', rxIsr stack.btIsoHdrLen r.isr (r.read count) answer = some p ∧
      (r.afterPass (r.read count) p).Decoded stack (items ++ items') pend' := by
  obtain ⟨p, items', pend', hp, hadv⟩ := h.pending.pass (r.length_read count) hanswer
  refine ⟨p, items', pend', hp, ?_, ?_, ?_, hadv.pending, ?_, hadv.again⟩
  · intro i hi
    exact (List.mem_append.mp hi).elim (h.wellFormed i) (hadv.wellFormed i)
  · intro i hi
    exact (List.mem_append.mp hi).elim (h.answered i) (hadv.answered i)
  · -- the bytes of the pending packet, those read and the answer are the new items and what is
    -- pending then
    calc (r.afterPass (r.read count) p).inputs
        = items.flatMap H4Item.inputs ++ (pend ++ (r.read count).map .byte
            ++ p.effects.filterMap HciRxEffect.input?) := by
          simp only [HciReceiver.afterPass, h.inputs_eq, List.append_assoc]
      _ = (items ++ items').flatMap H4Item.inputs ++ pend' := by
          rw [hadv.inputs_eq, List.flatMap_append, List.append_assoc]
  · -- the packets that were completed are put behind those in the queue
    calc (r.afterPass (r.read count) p).queued
        = r.queued ++ p.effects.filterMap HciRxEffect.put? := by
          simp only [HciReceiver.queued, HciReceiver.afterPass, List.append_assoc]
      _ = (items ++ items').filterMap H4Item.queued := by
          rw [h.queued_eq, hadv.queued, List.filterMap_append]

/-- **What the inputs amount to is kept by every step**, of the interrupt and of the thread. -/
theorem HciReceiver.Decoded.step (h : r.Decoded stack items pend) {a : HciRxAction}
    (ha : a.Admitted stack r) (hstep : r.step stack.btIsoHdrLen a = some r') :
    ∃ items' pend', r'.Decoded stack items' pend' := by
  cases a with
  -- bytes that have arrived are no inputs before they are read
  | arrive bytes =>
    obtain rfl := Option.some.inj hstep
    exact ⟨items, pend, h.congr rfl rfl rfl id⟩
  | interrupt =>
    simp only [HciReceiver.step, Option.ite_none_left_eq_some] at hstep
    obtain rfl := Option.some.inj hstep.2
    exact ⟨items, pend, h.congr rfl rfl rfl fun _ => rfl⟩
  | pass count answer =>
    obtain ⟨p, items', pend', hp, hdecoded⟩ := h.pass count ha
    simp only [HciReceiver.step, hp, Option.map_some, Option.ite_none_right_eq_some] at hstep
    obtain rfl := Option.some.inj hstep.2
    exact ⟨_, _, hdecoded⟩
  -- the thread takes the first buffer of the queue, which stays the first of what it has to send
  | get =>
    cases hthread : r.txThread with
    | some buf => simp [HciReceiver.step, hthread] at hstep
    | none =>
      cases hqueue : r.txQueue with
      | nil => simp [HciReceiver.step, hthread, hqueue] at hstep
      | cons buf queue =>
        simp only [HciReceiver.step, hthread, hqueue] at hstep
        obtain rfl := Option.some.inj hstep
        exact ⟨items, pend, h.congr rfl rfl (by simp [HciReceiver.queued, hthread, hqueue]) id⟩
  | send err =>
    cases hthread : r.txThread with
    | none => simp [HciReceiver.step, hthread] at hstep
    | some buf =>
      simp only [HciReceiver.step, hthread] at hstep
      obtain rfl := Option.some.inj hstep
      exact ⟨items, pend, h.congr rfl rfl (by simp [HciReceiver.queued, hthread]) id⟩

/-- And so it holds in every run in which the stack answers as it may. -/
theorem decoded_of_steps {as : List HciRxAction}
    (h : Steps (HciReceiver.step stack.btIsoHdrLen) (fun r a => a.Admitted stack r) .init as r) :
    ∃ items pend, r.Decoded stack items pend :=
  h.invariant (P := fun r => ∃ items pend, r.Decoded stack items pend)
    (fun _ _ _ ⟨_, _, hdecoded⟩ ha hstep => hdecoded.step ha hstep) ⟨[], [], .init⟩

/-- What has been read and what is left in the UART is what arrived, in this order. -/
theorem bytes_of_steps {btIsoHdrLen : ℕ → ℕ} {C : HciReceiver → HciRxAction → Prop}
    {as : List HciRxAction} (h : Steps (HciReceiver.step btIsoHdrLen) C .init as r) :
    r.inputs.filterMap HciRxInput.byte? ++ r.fifo = arrivedBytes as := by
  refine h.history (f := fun r => r.inputs.filterMap HciRxInput.byte? ++ r.fifo) ?_
  intro r a r' _ hstep
  cases a with
  | arrive bytes =>
    obtain rfl := Option.some.inj hstep
    exact (List.append_assoc _ _ _).symm
  | interrupt =>
    simp only [HciReceiver.step, Option.ite_none_left_eq_some] at hstep
    obtain rfl := Option.some.inj hstep.2
    exact (List.append_nil _).symm
  | pass count answer =>
    simp only [HciReceiver.step, Option.ite_none_right_eq_some, Option.map_eq_some_iff] at hstep
    obtain ⟨-, p, -, rfl⟩ := hstep
    -- an answer of the stack is no byte
    have hanswers : (p.effects.filterMap HciRxEffect.input?).filterMap HciRxInput.byte? = [] := by
      rw [List.filterMap_filterMap, List.filterMap_eq_nil_iff]
      intro e _
      cases e <;> rfl
    have hread : (r.read count).filterMap (HciRxInput.byte? ∘ HciRxInput.byte) = r.read count :=
      List.filterMap_some
    -- The pass takes from the UART what it reads.
    have hfifo : r.read count ++ r.fifo.drop (r.read count).length = r.fifo :=
      List.prefix_iff_eq_append.mp (List.take_prefix _ _)
    simp only [HciReceiver.afterPass, List.filterMap_append, List.filterMap_map, hanswers, hread,
      List.append_nil, List.append_assoc, hfifo]
  -- the thread reads nothing from the UART
  | get =>
    simp only [HciReceiver.step] at hstep
    split at hstep
    · obtain rfl := Option.some.inj hstep
      exact (List.append_nil _).symm
    · cases hstep
  | send err =>
    simp only [HciReceiver.step] at hstep
    split at hstep
    · obtain rfl := Option.some.inj hstep
      exact (List.append_nil _).symm
    · cases hstep

/-- Inputs read as items, with an incomplete rest, without a word on how they came to be read. -/
structure H4Reading (btIsoHdrLen : ℕ → ℕ) (inputs : List HciRxInput) (items : List H4Item)
    (pend : List HciRxInput) : Prop where
  wellFormed : ∀ i ∈ items, i.WellFormed btIsoHdrLen
  incomplete : Incomplete (H4Item.WellFormed btIsoHdrLen) H4Item.inputs pend
  inputs_eq : inputs = items.flatMap H4Item.inputs ++ pend

/-- There is only one such reading, the items being free of prefixes. -/
theorem H4Reading.unique {btIsoHdrLen : ℕ → ℕ} {inputs : List HciRxInput}
    {items items' : List H4Item} {pend pend' : List HciRxInput}
    (h : H4Reading btIsoHdrLen inputs items pend)
    (h' : H4Reading btIsoHdrLen inputs items' pend') : items = items' ∧ pend = pend' :=
  (h4_prefixFree btIsoHdrLen).segment_unique h.wellFormed h'.wellFormed h.incomplete h'.incomplete
    (h.inputs_eq.symm.trans h'.inputs_eq)

/-- **What the receiver hands on is what its inputs say.** Whenever `rx_isr` has returned, its
inputs have one reading as items; the packets among them that got a buffer with room for header and
payload went through `tx_queue` in this order, and nothing else. -/
theorem receiver_decodes (stack : BtStack) {r : HciReceiver} {as : List HciRxAction}
    (h : Steps (HciReceiver.step stack.btIsoHdrLen) (fun r a => a.Admitted stack r) .init as r)
    (hleft : r.running = false) :
    r.inputs.filterMap HciRxInput.byte? ++ r.fifo = arrivedBytes as ∧
      ∃ items pend, H4Reading stack.btIsoHdrLen r.inputs items pend ∧
        (∀ items' pend', H4Reading stack.btIsoHdrLen r.inputs items' pend' →
          items' = items ∧ pend' = pend) ∧
        r.queued = items.filterMap H4Item.queued := by
  obtain ⟨items, pend, hdecoded⟩ := decoded_of_steps h
  have hdue : ¬ r.isr.Due := fun hdue =>
    Bool.false_ne_true (hleft.symm.trans (hdecoded.running hdue))
  have hreading : H4Reading stack.btIsoHdrLen r.inputs items pend :=
    ⟨hdecoded.wellFormed, hdecoded.pending.incomplete hdue, hdecoded.inputs_eq⟩
  exact ⟨bytes_of_steps h, items, pend, hreading, fun _ _ h' => h'.unique hreading,
    hdecoded.queued_eq⟩

/-- A stack whose pool has buffers of eight bytes, and always one to give. -/
def smallPool : BtStack where
  btIsoHdrLen n := n % 2 ^ 14
  Answers _ a := a = some ⟨0, 8, [], Nat.zero_le 8⟩
  exists_answer _ := ⟨_, rfl⟩
  room := by
    rintro type b hb
    obtain rfl := Option.some.inj hb
    decide

/-- The answers that this stack may give are one, so the condition on a run can be evaluated. -/
instance (r : HciReceiver) (a : HciRxAction) : Decidable (a.Admitted smallPool r) :=
  match a with
  | .pass _ answer =>
    inferInstanceAs (Decidable (r.isr.state = .hdr → answer = some ⟨0, 8, [], Nat.zero_le 8⟩))
  | .arrive _ => instDecidableTrue
  | .interrupt => instDecidableTrue
  | .get => instDecidableTrue
  | .send _ => instDecidableTrue

/-- A command with two parameters arrives in two portions, and behind it a byte that is no packet
type. While the interrupt is still reading, an ACL packet follows whose six bytes have no room
behind the header, and then HCI Reset, which has no parameters. -/
def hostTraffic : List HciRxAction :=
  let buf : Option HciBuf := some ⟨0, 8, [], Nat.zero_le 8⟩
  [.arrive [h4Cmd, 0x03], .interrupt, .pass 1 buf, .pass 3 buf, .pass 1 buf,
    .arrive [0x0C, 0x02, 7, 8, 0x09], .interrupt, .pass 9 buf, .pass 1 buf, .pass 1 buf,
    .pass 1 buf, .arrive [h4Acl, 0, 0, 6, 0, 1, 2, 3, 4, 5, 6, h4Cmd, 0x03, 0x0C, 0x00], .get,
    .pass 1 buf, .pass 4 buf, .pass 4 buf, .pass 4 buf, .pass 1 buf, .pass 4 buf, .pass 1 buf,
    .send 0]

/-- The first and the last packet are queued, and everything has been read. -/
theorem exists_steps_hostTraffic : ∃ r,
    Steps (HciReceiver.step smallPool.btIsoHdrLen) (fun r a => a.Admitted smallPool r) .init
      hostTraffic r ∧ r.running = false ∧ r.fifo = [] ∧
      r.queued.map HciBuf.data = [[3, 12, 2, 7, 8], [3, 12, 0]] := by
  have hrun : (checkRun (HciReceiver.step smallPool.btIsoHdrLen)
      (fun r a => a.Admitted smallPool r) .init hostTraffic).map
        (fun r => (r.running, r.fifo, r.queued.map HciBuf.data)) =
      some (false, [], [[3, 12, 2, 7, 8], [3, 12, 0]]) := by
    decide +kernel
  obtain ⟨r, hr, hstate⟩ := Option.map_eq_some_iff.mp hrun
  injection hstate with hrunning hstate
  injection hstate with hfifo hdata
  exact ⟨r, steps_of_checkRun hr, hrunning, hfifo, hdata⟩

/-- The traffic has a reading, and it is the only one: the two packets that were queued are the ones
with room. -/
theorem receiver_decodes_hostTraffic : ∃ r : HciReceiver,
    r.queued.map HciBuf.data = [[3, 12, 2, 7, 8], [3, 12, 0]] ∧
    r.inputs.filterMap HciRxInput.byte? ++ r.fifo = arrivedBytes hostTraffic ∧
      ∃ items pend, H4Reading smallPool.btIsoHdrLen r.inputs items pend ∧
        (∀ items' pend', H4Reading smallPool.btIsoHdrLen r.inputs items' pend' →
          items' = items ∧ pend' = pend) ∧
        r.queued = items.filterMap H4Item.queued := by
  obtain ⟨r, h, hleft, -, hdata⟩ := exists_steps_hostTraffic
  exact ⟨r, hdata, receiver_decodes smallPool h hleft⟩

/-! ### Round trip -/

/-- A packet of the host: its header is complete and announces its payload. -/
structure H4Packet (btIsoHdrLen : ℕ → ℕ) where
  type : UInt8
  hdr : List UInt8
  payload : List UInt8
  validType : validType type = true
  length_hdr : hdr.length = hdrLen type
  length_payload : payload.length = getLen btIsoHdrLen hdr type

/-- What a host may send: packets, and bytes that are not the type of one. Unlike an item it does
not know how the stack will answer. -/
inductive H4Word (btIsoHdrLen : ℕ → ℕ) where
  | unknown (type : UInt8) (h : validType type = false)
  | packet (p : H4Packet btIsoHdrLen)

variable {btIsoHdrLen : ℕ → ℕ}

/-- The bytes on the UART, as the host sends them. -/
def H4Word.bytes : H4Word btIsoHdrLen → List UInt8
  | .unknown type _ => [type]
  | .packet p => p.type :: (p.hdr ++ p.payload)

/-- What the controller gets, from buffers that come with the data `data` and the tailroom `room`
for each type: header and payload of a packet with room for both. -/
def H4Word.delivered (data : UInt8 → List UInt8) (room : UInt8 → ℕ) :
    H4Word btIsoHdrLen → Option (List UInt8)
  | .unknown _ _ => none
  | .packet p =>
    if p.hdr.length + p.payload.length ≤ room p.type then
      some (data p.type ++ (p.hdr ++ p.payload))
    else none

/-- No word begins another one, by the same argument as for the items. -/
theorem word_prefixFree (btIsoHdrLen : ℕ → ℕ) :
    PrefixFree (fun _ : H4Word btIsoHdrLen => True) H4Word.bytes where
  ne_nil := by
    intro a _
    cases a <;> exact List.cons_ne_nil _ _
  eq_of_prefix := by
    intro a b _ _ hbegins
    cases a with
    | unknown type h =>
      cases b with
      | unknown type' h' =>
        obtain ⟨rfl, -⟩ := List.cons_prefix_cons.mp hbegins
        rfl
      | packet p =>
        obtain ⟨rfl, -⟩ := List.cons_prefix_cons.mp hbegins
        exact absurd (h.symm.trans p.validType) Bool.false_ne_true
    | packet p =>
      cases b with
      | unknown type h =>
        obtain ⟨rfl, -⟩ := List.cons_prefix_cons.mp hbegins
        exact absurd (h.symm.trans p.validType) Bool.false_ne_true
      | packet p' =>
        -- two packets: the type gives the length of the header, and the header that of the payload
        obtain ⟨type, hdr, payload, htype, hhdr, hpayload⟩ := p
        obtain ⟨type', hdr', payload', htype', hhdr', hpayload'⟩ := p'
        obtain ⟨rfl, rest, htail⟩ := List.cons_prefix_cons.mp hbegins
        rw [List.append_assoc] at htail
        obtain ⟨rfl, hbehind⟩ := List.append_inj htail (hhdr.trans hhdr'.symm)
        obtain rfl := List.append_inj_left (hbehind.trans (List.append_nil _).symm)
          (hpayload.trans hpayload'.symm)
        rfl

/-- The bytes of inputs, which is what the host has to do with them. -/
def inputBytes (inputs : List HciRxInput) : List UInt8 := inputs.filterMap HciRxInput.byte?

/-- The bytes of two streams behind each other. -/
theorem inputBytes_append (xs ys : List HciRxInput) :
    inputBytes (xs ++ ys) = inputBytes xs ++ inputBytes ys := List.filterMap_append

/-- The bytes of inputs that are all bytes. -/
theorem inputBytes_map_byte (bs : List UInt8) : inputBytes (bs.map .byte) = bs := by
  rw [inputBytes, List.filterMap_map]
  exact List.filterMap_some

/-- A byte is one of them. -/
theorem inputBytes_byte (b : UInt8) (xs : List HciRxInput) :
    inputBytes (.byte b :: xs) = b :: inputBytes xs := rfl

/-- An answer is not. -/
theorem inputBytes_answer (a : Option HciBuf) (xs : List HciRxInput) :
    inputBytes (.answer a :: xs) = inputBytes xs := rfl

/-- What a receiver has read since the last whole item does not contain a whole word, so the rest of
what the host sends is still to come. -/
theorem RxIsr.Pending.incomplete_bytes (h : s.Pending stack pend) (hdue : ¬ s.Due) :
    Incomplete (fun _ : H4Word stack.btIsoHdrLen => True) H4Word.bytes (inputBytes pend) := by
  have hfree := word_prefixFree stack.btIsoHdrLen
  -- The payload that is missing at the end, of zeros.
  have hshort : ∀ {hdr part : List UInt8}, validType s.type = true → hdr.length = hdrLen s.type →
      part.length + s.remaining = getLen stack.btIsoHdrLen hdr s.type → 0 < s.remaining →
      Incomplete (fun _ : H4Word stack.btIsoHdrLen => True) H4Word.bytes
        (s.type :: (hdr ++ part)) := by
    intro hdr part htype hlen hrem hpos
    refine hfree.incomplete_of_shorter (a := .packet ⟨s.type, hdr,
      part ++ List.replicate s.remaining 0, htype, hlen, by simpa using hrem⟩) trivial ?_ ?_
    · simp [H4Word.bytes]
    · simp [H4Word.bytes, hpos]
  cases h with
  | idle => exact hfree.incomplete_nil
  -- a header that is not complete, filled up with zeros, is that of some packet
  | @hdr hdr hstate htype hlen hpos hbuf =>
    have hfill : (hdr ++ List.replicate s.remaining 0).length = hdrLen s.type := by
      simpa using hlen
    rw [inputBytes_byte, inputBytes_map_byte]
    refine hfree.incomplete_of_shorter (a := .packet ⟨s.type, _, List.replicate _ 0, htype, hfill,
      List.length_replicate⟩) trivial ?_ ?_
    · simp [H4Word.bytes]
    · simp [H4Word.bytes]
      omega
  | @payload hdr part b buf hstate htype hlen hanswer hbuf hadd hrem hroom =>
    rw [inputBytes_byte, inputBytes_append, inputBytes_answer, inputBytes_map_byte,
      inputBytes_map_byte]
    exact hshort htype hlen hrem (Nat.pos_of_ne_zero fun hzero => hdue ⟨hstate, hzero⟩)
  -- a payload that is dropped is incomplete until its last byte
  | @discard hdr part b hstate htype hlen hanswer hpos hrem hroom =>
    rw [inputBytes_byte, inputBytes_append, inputBytes_answer, inputBytes_map_byte,
      inputBytes_map_byte]
    exact hshort htype hlen hrem hpos

/-- Items whose packets all got a buffer, as words of the host. Without a buffer a payload would be
read as items of its own. -/
theorem exists_words {data : UInt8 → List UInt8} {room : UInt8 → ℕ}
    (hstack : ∀ type a, stack.Answers type a →
      ∃ b, a = some b ∧ b.data = data type ∧ b.tailroom = room type)
    (hwf : ∀ i ∈ items, i.WellFormed stack.btIsoHdrLen) (hans : ∀ i ∈ items, i.Answered stack) :
    ∃ words : List (H4Word stack.btIsoHdrLen),
      words.flatMap H4Word.bytes = inputBytes (items.flatMap H4Item.inputs) ∧
      words.filterMap (H4Word.delivered data room)
        = (items.filterMap H4Item.queued).map HciBuf.data := by
  induction items with
  | nil => exact ⟨[], rfl, rfl⟩
  | cons i items ih =>
    obtain ⟨words, hbytes, hdelivered⟩ := ih (fun j hj => hwf j (List.mem_cons_of_mem _ hj))
      (fun j hj => hans j (List.mem_cons_of_mem _ hj))
    have hi := hwf i List.mem_cons_self
    cases i with
    -- a byte that is no type is a word of its own, and delivers nothing
    | unknown type =>
      refine ⟨.unknown type hi :: words, ?_, ?_⟩
      · rw [List.flatMap_cons, List.flatMap_cons, inputBytes_append, hbytes]
        rfl
      · rw [List.filterMap_cons_none rfl, List.filterMap_cons_none rfl, hdelivered]
    | packet type hdr answer payload =>
      obtain ⟨b, rfl, hdata, hroom⟩ := hstack type answer (hans _ List.mem_cons_self)
      obtain ⟨htype, hhdr, hpayload⟩ := hi
      have hfits := b.fits
      refine ⟨.packet ⟨type, hdr, payload, htype, hhdr, hpayload⟩ :: words, ?_, ?_⟩
      · rw [List.flatMap_cons, List.flatMap_cons, inputBytes_append, hbytes, H4Item.inputs,
          inputBytes_byte, inputBytes_append, inputBytes_answer, inputBytes_map_byte,
          inputBytes_map_byte]
        rfl
      · have hqueued : (H4Item.packet type hdr (some b) payload).queued
            = b.addMem (hdr ++ payload) := rfl
        -- the host's view: a packet is delivered when the buffers of its type have room for it
        have hword : ∀ p : H4Packet stack.btIsoHdrLen, (H4Word.packet p).delivered data room
            = if p.hdr.length + p.payload.length ≤ room p.type then
                some (data p.type ++ (p.hdr ++ p.payload)) else none := fun _ => rfl
        rw [HciBuf.tailroom] at hroom
        by_cases hle : hdr.length + payload.length ≤ room type
        · -- room for both, so the packet is queued
          obtain ⟨buf, hadd⟩ := @HciBuf.exists_addMem b (hdr ++ payload) (by
            rw [List.length_append]
            omega)
          rw [List.filterMap_cons_some ((hword _).trans (if_pos hle)),
            List.filterMap_cons_some (hqueued.trans hadd), List.map_cons, hdelivered,
            (HciBuf.addMem_eq_some hadd).2.2.1, hdata]
        · -- no room, so it is dropped
          have hnone : b.addMem (hdr ++ payload) = none := by
            rw [HciBuf.addMem_eq_none, List.length_append]
            omega
          rw [List.filterMap_cons_none ((hword _).trans (if_neg hle)),
            List.filterMap_cons_none (hqueued.trans hnone), hdelivered]

/-- **What the host sends arrives at the controller.** Let the host send any packets, with any
other bytes between them, and let `bt_buf_get_tx` always have a buffer. Once the bridge has read it
all, exactly the packets that have room in a buffer of their type have gone through `tx_queue`, in
order and unchanged. -/
theorem receiver_roundTrip (stack : BtStack) (data : UInt8 → List UInt8) (room : UInt8 → ℕ)
    (hstack : ∀ type a, stack.Answers type a →
      ∃ b, a = some b ∧ b.data = data type ∧ b.tailroom = room type)
    (words : List (H4Word stack.btIsoHdrLen)) {r : HciReceiver} {as : List HciRxAction}
    (h : Steps (HciReceiver.step stack.btIsoHdrLen) (fun r a => a.Admitted stack r) .init as r)
    (harrived : arrivedBytes as = words.flatMap H4Word.bytes) (hleft : r.running = false)
    (hread : r.fifo = []) :
    r.queued.map HciBuf.data = words.filterMap (H4Word.delivered data room) := by
  obtain ⟨items, pend, hdecoded⟩ := decoded_of_steps h
  have hdue : ¬ r.isr.Due := fun hdue =>
    Bool.false_ne_true (hleft.symm.trans (hdecoded.running hdue))
  obtain ⟨words', hbytes, hdelivered⟩ :=
    exists_words hstack hdecoded.wellFormed hdecoded.answered
  -- Both lists of words are readings of the bytes that arrived.
  have heq : words.flatMap H4Word.bytes ++ []
      = words'.flatMap H4Word.bytes ++ inputBytes pend := by
    rw [List.append_nil, ← harrived, ← bytes_of_steps h, hread, List.append_nil,
      hdecoded.inputs_eq, hbytes]
    exact inputBytes_append _ _
  have hfree := word_prefixFree stack.btIsoHdrLen
  obtain ⟨rfl, -⟩ := hfree.segment_unique (fun _ _ => trivial) (fun _ _ => trivial)
    hfree.incomplete_nil (hdecoded.pending.incomplete_bytes hdue) heq
  rw [hdecoded.queued_eq, ← hdelivered]

/-- Three packets with an unknown byte behind the first one. The second packet has no room, so the
controller gets the other two. -/
theorem receiver_roundTrip_hostTraffic : ∃ r : HciReceiver, r.queued.map HciBuf.data
    = [H4Word.packet ⟨h4Cmd, [3, 12, 2], [7, 8], rfl, rfl, rfl⟩, .unknown 9 rfl,
        .packet ⟨h4Acl, [0, 0, 6, 0], [1, 2, 3, 4, 5, 6], rfl, rfl, rfl⟩,
        .packet ⟨h4Cmd, [3, 12, 0], [], rfl, rfl, rfl⟩].filterMap
        (@H4Word.delivered smallPool.btIsoHdrLen (fun _ => []) fun _ => 8) := by
  obtain ⟨r, h, hleft, hfifo, -⟩ := exists_steps_hostTraffic
  refine ⟨r, receiver_roundTrip smallPool (fun _ => []) (fun _ => 8) ?_ _ h rfl hleft hfifo⟩
  intro type a ha
  exact ⟨_, ha, rfl, rfl⟩

end DectCommunicator
