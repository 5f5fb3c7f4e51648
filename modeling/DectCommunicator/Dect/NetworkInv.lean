import DectCommunicator.Dect.NetworkSpec
import DectCommunicator.Utils.PoolKeys

/-!
# The invariant of the network

`NetInv n`: every data frame in flight is a fragment of the last call its source made to its
destination under its `seq_id`, and every RECEIVING context holds the first fragments of such a
call. The calls are seen through `Net.lookup`, which for a source, a destination and a `seq_id`
gives the last call.

Only the start of a call changes the lookup, so every other step is a matter of one device:

* `Holds.accept` and `complete_data` follow a fragment into a context that holds a prefix;
  `DeviceInv.poolStep` puts them together for the reassembly step.
* `DeviceInv.writerStep` follows the writer.
* `NetInv.startWrite` needs that the new call takes nothing over from another message under its
  `seq_id`: `Admits` says that the last call under it had the same data, or has left neither a
  frame in flight nor a RECEIVING context.
-/

namespace DectCommunicator

open StopAndWait

/-! ### Calls, frames and contexts -/

/-- The last call of a source to a destination under a `seq_id`. The invariants are stated over an
arbitrary lookup, since all that most steps need is that it stays the same. -/
abbrev Lookup := UInt32 → UInt32 → UInt16 → Option Call

/-- The lookup of a network, which only the start of a call changes. -/
def Net.lookup (n : Net) : Lookup := fun srcId dstId seqId => (n.device srcId).lookup dstId seqId

/-- The calls found are those asked for, and drew a `seq_id`. -/
def Lookup.Sound (look : Lookup) : Prop :=
  ∀ srcId dstId seqId call, look srcId dstId seqId = some call →
    call.dstId = dstId ∧ call.seqId = seqId ∧ call.Valid

/-- What may be in flight: fragments of the calls, and ACKs. Nothing is said of the ACKs, as a
receiver does not read them. -/
inductive Carries (look : Lookup) : List UInt8 → Prop
  | data {srcId : UInt32} {call : Call} {i : ℕ}
      (hlook : look srcId call.dstId call.seqId = some call) (hi : i < call.count) :
      Carries look (dectLinkLayerFrame srcId call.dstId (call.frame i).toBytes)
  | ack (srcId dstId : UInt32) (a : DectTransportLayerDataFrameAck) :
      Carries look (dectLinkLayerFrame srcId dstId a.toBytes)

/-- Such frames are frames of the transport, so their reception can be inverted. -/
theorem Carries.transportFrame {look : Lookup} {frame : List UInt8} (h : Carries look frame) :
    TransportFrame frame := by
  cases h with
  | data => exact .data _ _ _ (Call.length_frame_le _ _)
  | ack srcId dstId a => exact .ack srcId dstId a

/-- A data frame in flight is a fragment of a call, the one that is found under its source, its
destination and its `seq_id`. -/
theorem Carries.of_data {look : Lookup} {frame : List UInt8} (h : Carries look frame)
    {srcId d : UInt32} {f : DectTransportLayerDataFrame}
    (hframe : frame = dectLinkLayerFrame srcId d f.toBytes)
    (hlen : f.toBytes.length ≤ dectLinkLayerMaxPayloadSizeBytes) :
    ∃ call i, call.dstId = d ∧ look srcId d call.seqId = some call ∧ i < call.count ∧
      f = call.frame i := by
  cases h with
  | @data srcId' call i hlook hi =>
    obtain ⟨rfl, rfl, hbytes⟩ := dectLinkLayerFrame_inj (call.length_frame_le i) hlen hframe
    exact ⟨call, i, rfl, hlook, hi, (DectTransportLayerDataFrame.toBytes_inj hbytes).symm⟩
  | ack srcId' dstId a =>
    obtain ⟨-, -, hbytes⟩ := dectLinkLayerFrame_inj (length_ack_le a) hlen hframe
    -- An ACK has other bytes: the frame types differ.
    have htype := congrArg frameTypeOf hbytes
    rw [frameTypeOf_ack, frameTypeOf_data] at htype
    cases htype

/-- The context `b` of device `d` holds the first fragments of `call`: those before `frag_idx`, the
one that is expected next. -/
structure Holds (look : Lookup) (d : UInt32) (b : DectTransportBuffer) (call : Call) : Prop where
  look : look b.ext.srcId d b.seqId = some call
  fragTotal : b.fragTotal = fragTotalOf call.data.length
  totalSizeBytes : b.totalSizeBytes = UInt16.ofNat call.data.length
  data : b.data = call.data.take (14 * b.fragIdx.toNat)
  lt : b.fragIdx.toNat < call.count

/-- A RECEIVING context of device `d` holds the first fragments of some call, the one the lookup
finds under the context's own source and `seq_id`. -/
def HoldsPrefix (look : Lookup) (d : UInt32) (b : DectTransportBuffer) : Prop :=
  ∃ call, Holds look d b call

/-! ### A fragment reaches a context -/

section Fragment

variable {look : Lookup} {d srcId now : UInt32} {call : Call} {i j : ℕ} {b : DectTransportBuffer}
  {p q : TransportBufferPool DectTransportExt UInt32}

/-- The index in the frame is the index of the fragment, as there are few enough of them. -/
theorem Call.frame_fragIdx_toNat (hvalid : call.Valid) (hi : i < call.count) :
    (call.frame i).fragIdx.toNat = i :=
  fragIdx_toNat hvalid.le hi.le

/-- The context a fragment of `call` is given holds the first fragments of `call`. A context that
was matched does by the invariant, and both calls are found under the same key; a fresh one holds
none. -/
theorem Obtained.holds (hq : Obtained p now (call.frame i).fragment (some srcId) j b q)
    (hquery : p.additionalQueryCb = some prvAdditionalQueryMatches)
    (hrecv : ReceivingAll (HoldsPrefix look d) p)
    (hlook : look srcId d call.seqId = some call) (hvalid : call.Valid) :
    Holds look d (b.mark fun ext => { ext with srcId }) call := by
  have hkey := dectKeyed hquery srcId
  rcases hq.found_or_fresh hkey with ⟨hj, -, hm⟩ | ⟨-, hidx, hdata, -⟩
  · obtain ⟨call', hholds⟩ := hrecv j b hj hm.receiving
    -- two calls under one key are the same
    have hcall : call' = call := by
      have h := hholds.look
      rw [hm.ext, show b.seqId = call.seqId from hm.seqId, hlook] at h
      exact (Option.some.inj h).symm
    rw [hm.mark_eq hkey, ← hcall]
    exact hholds
  · have hm := hq.matches hkey
    refine ⟨?_, hm.fragTotal, hm.totalSizeBytes, ?_, ?_⟩
    · rw [hm.seqId]
      exact hlook
    · rw [mark_data, mark_fragIdx, hdata, hidx]
      rfl
    · rw [mark_fragIdx, hidx]
      exact hvalid.count_pos

/-- The next fragment extends the prefix by its own bytes. -/
theorem Holds.accept_data (h : Holds look d b call) (hb : b.buffer ≠ none) (hvalid : call.Valid)
    (hi : i < call.count) (hidx : (call.frame i).fragIdx = b.fragIdx) :
    (b.accept now (call.frame i).payload).data = call.data.take (14 * (i + 1)) := by
  have hbi : b.fragIdx.toNat = i := by rw [← hidx, Call.frame_fragIdx_toNat hvalid hi]
  rw [DectCommunicator.accept_data now _ hb, h.data, hbi]
  exact Chunks.take_succ 14 i call.data

/-- The index that is expected next does not wrap. -/
theorem Holds.accept_fragIdx (h : Holds look d b call) (hvalid : call.Valid) :
    (b.fragIdx + 1).toNat = b.fragIdx.toNat + 1 := by
  have hlt := h.lt
  have hle : call.count ≤ 37 := count_le_of_length_le hvalid.le
  rw [UInt8.toNat_add]
  exact Nat.mod_eq_of_lt (by change b.fragIdx.toNat + 1 < 256; omega)

/-- The last fragment is recognised by its index: the comparison of the source, in eight bits, is
the one of the numbers. -/
theorem Holds.last_iff (h : Holds look d b call) (hvalid : call.Valid) :
    b.fragIdx + 1 = b.fragTotal ↔ b.fragIdx.toNat + 1 = call.count := by
  rw [← UInt8.toNat_inj, h.accept_fragIdx hvalid, h.fragTotal, hvalid.fragTotal_toNat]

/-- With the last fragment the context holds the whole message. -/
theorem Holds.complete_data (h : Holds look d b call) (hb : b.buffer ≠ none) (hvalid : call.Valid)
    (hi : i < call.count) (hidx : (call.frame i).fragIdx = b.fragIdx)
    (hlast : b.fragIdx + 1 = b.fragTotal) :
    (b.accept now (call.frame i).payload).data = call.data := by
  have hbi : b.fragIdx.toNat = i := by rw [← hidx, Call.frame_fragIdx_toNat hvalid hi]
  have hcount := (h.last_iff hvalid).mp hlast
  rw [h.accept_data hb hvalid hi hidx, ← hbi, hcount]
  exact Chunks.take_count (by decide) _

/-- A context that is RECEIVING after a fragment was appended holds a prefix again. `hopen` is why
it is still RECEIVING: with the last fragment it would have been complete. -/
theorem Holds.accept (h : Holds look d b call) (hb : b.buffer ≠ none) (hvalid : call.Valid)
    (hi : i < call.count) (hidx : (call.frame i).fragIdx = b.fragIdx)
    (hopen : b.fragIdx + 1 = b.fragTotal →
      (b.accept now (call.frame i).payload).len ≠ b.totalSizeBytes.toNat) :
    Holds look d (b.accept now (call.frame i).payload) call := by
  have hbi : b.fragIdx.toNat = i := by rw [← hidx, Call.frame_fragIdx_toNat hvalid hi]
  have hnext : (b.accept now (call.frame i).payload).fragIdx.toNat = i + 1 := by
    rw [← hbi]
    exact h.accept_fragIdx hvalid
  refine ⟨h.look, h.fragTotal, h.totalSizeBytes, ?_, ?_⟩
  · rw [h.accept_data hb hvalid hi hidx, hnext]
  · rw [hnext]
    -- After the last fragment the length would be the announced one, against `hopen`.
    refine lt_of_le_of_ne hi fun hcount => ?_
    have hlast := (h.last_iff hvalid).mpr (by rw [hbi]; exact hcount)
    refine hopen hlast ?_
    rw [len_eq_length_data, h.complete_data hb hvalid hi hidx hlast, h.totalSizeBytes,
      totalSizeBytes_toNat hvalid.le]

end Fragment

/-! ### One device -/

/-- Where the call in progress stands: it is about to return, or it is the last call, at one of its
fragments. -/
inductive Writing (calls : List Call) (call : Call) (p : Proc Errno LinkWrite Ret) : Prop
  | done (r : Ret) (hp : p = .ret r)
  | frame (φ : Phase) (i : ℕ) (hhead : calls.head? = some call) (hat : call.AtFrame φ i p)

/-- What holds of device `d`. The lookup is a parameter, because the calls that the contexts belong
to are those of other devices. -/
structure DeviceInv (look : Lookup) (d : UInt32) (dev : Device) : Prop where
  ready : dev.link.Ready
  initialized : dev.transport.initialized = true
  pool : PoolInv dev.transport.rxPool
  query : dev.transport.rxPool.additionalQueryCb = some prvAdditionalQueryMatches
  receiving : ReceivingAll (HoldsPrefix look d) dev.transport.rxPool
  unique : KeyUnique dev.transport.rxPool
  valid : ∀ call ∈ dev.calls, call.Valid
  writer : ∀ call p, dev.writer = some (call, p) → Writing dev.calls call p

section Device

variable {look : Lookup} {d : UInt32} {dev : Device}

/-- The reassembly step on a fragment of one of the calls keeps what the invariant says of the
pool. -/
theorem DeviceInv.poolStep {srcId now : UInt32} {call : Call} {i : ℕ}
    {q : TransportBufferPool DectTransportExt UInt32}
    {effects : List (RxEffect DectTransportExt)} (h : DeviceInv look d dev)
    (hlook : look srcId d call.seqId = some call) (hvalid : call.Valid) (hi : i < call.count)
    (hstep : dev.PoolStep now srcId (call.frame i) q effects) :
    PoolInv q ∧ q.additionalQueryCb = some prvAdditionalQueryMatches ∧
      ReceivingAll (HoldsPrefix look d) q ∧ KeyUnique q := by
  refine ⟨hstep.poolInv h.pool, hstep.config.1.trans h.query, ?_, hstep.keyUnique (dectKeyed h.query srcId) h.unique⟩
  refine hstep.receivingAll h.receiving ?_ ?_
  · intro j b q hq
    exact ⟨call, hq.holds h.query h.receiving hlook hvalid⟩
  · -- the fragment was appended: the prefix has grown by one
    intro j b q hq _ hidx _ hopen
    have hb : b.buffer ≠ none := hq.buffer_ne_none h.pool
    exact ⟨call, (hq.holds h.query h.receiving hlook hvalid).accept hb hvalid hi hidx hopen⟩

/-- What the reassembly step hands up is the message of the call, with its source and its
`seq_id`. -/
theorem DeviceInv.poolStep_deliveries {srcId now : UInt32} {call : Call} {i : ℕ}
    {q : TransportBufferPool DectTransportExt UInt32}
    {effects : List (RxEffect DectTransportExt)} (h : DeviceInv look d dev)
    (hlook : look srcId d call.seqId = some call) (hvalid : call.Valid) (hi : i < call.count)
    (hstep : dev.PoolStep now srcId (call.frame i) q effects) {m : Delivery}
    (hm : m ∈ deliveriesOf effects) : m = ⟨srcId, call.seqId, call.data⟩ := by
  cases hstep with
  -- only a completed message is handed up
  | refused | rejected | duplicate | success | invalidFinalSize => cases hm
  | @complete j b b' q hq hdata hidx hlast hlen hb' =>
    have hholds := hq.holds h.query h.receiving hlook hvalid
    have hb : b.buffer ≠ none := hq.buffer_ne_none h.pool
    have hmsg : m = ⟨b'.ext.srcId, b'.seqId, b'.data⟩ := by
      by_cases hcb : dev.transport.transportRxCallback.isSome
      · rw [if_pos hcb] at hm
        exact List.mem_singleton.mp hm
      · rw [if_neg hcb] at hm
        cases hm
    have hseq : b'.seqId = call.seqId := by rw [hb']; exact hq.seqId
    have hbytes : b'.data = call.data := by
      rw [hb']
      change ((b.mark fun ext => { ext with srcId }).accept now (call.frame i).payload).data = _
      exact hholds.complete_data hb hvalid hi hidx hlast
    rw [hmsg, hseq, hbytes, hb']
    rfl

/-- A step of the writer keeps the invariant, and sends only fragments of its call. -/
theorem DeviceInv.writerStep {call : Call} {p : Proc Errno LinkWrite Ret}
    (h : DeviceInv look d dev) (hlook : ∀ c, dev.calls.head? = some c →
      look d c.dstId c.seqId = some c) (hp : dev.writer = some (call, p)) :
    DeviceInv look d (dev.writerStep d call p).1 ∧
      ∀ frame ∈ (dev.writerStep d call p).2, Carries look frame := by
  cases h.writer call p hp with
  | done r hret =>
    subst hret
    exact ⟨{ h with writer := fun _ _ hw => by cases hw }, fun _ hf => absurd hf List.not_mem_nil⟩
  | frame φ i hhead hat =>
    have hvalid := h.valid call (List.mem_of_head? hhead)
    have hstep := Device.writerStep_spec d h.ready hvalid hat
    -- the writer afterwards, and nothing else, has to be looked at
    have hwriting : ∀ {k : Proc Errno LinkWrite Ret}, Writing dev.calls call k →
        ∀ c p', some (call, k) = some (c, p') → Writing dev.calls c p' := by
      intro k hk c p' heq
      cases heq
      exact hk
    generalize (dev.writerStep d call p).1 = dev' at hstep
    generalize (dev.writerStep d call p).2 = out at hstep
    cases hstep with
    | reset hk =>
      exact ⟨{ h with writer := hwriting (.frame _ _ hhead hk) },
        fun _ hf => absurd hf List.not_mem_nil⟩
    | send hk =>
      refine ⟨{ h with writer := hwriting (.frame _ _ hhead hk) }, fun frame hf => ?_⟩
      obtain rfl := List.mem_singleton.mp hf
      exact .data (hlook call hhead) hat.lt
    -- behind an ACK the next fragment comes, or the call is done
    | acked hsem hk =>
      refine ⟨{ h with writer := hwriting ?_ }, fun _ hf => absurd hf List.not_mem_nil⟩
      rcases hk with hk | ⟨-, hk⟩
      · exact .frame _ _ hhead hk
      · exact .done _ hk
    -- and behind a timeout the same fragment again, or the error
    | timeout hsem hk =>
      refine ⟨{ h with writer := hwriting ?_ }, fun _ hf => absurd hf List.not_mem_nil⟩
      rcases hk with hk | hk
      · exact .frame _ _ hhead hk
      · exact .done _ hk

end Device

/-! ### The network -/

/-- **The invariant.** Frames in flight and contexts both belong to calls that the lookup finds. -/
structure NetInv (n : Net) : Prop where
  device : ∀ d, DeviceInv n.lookup d (n.device d)
  air : ∀ frame ∈ n.air, Carries n.lookup frame

section Network

variable {n : Net}

/-- The lookup finds what it was asked for. -/
theorem NetInv.sound (h : NetInv n) : n.lookup.Sound := by
  intro srcId dstId seqId call hlook
  have hprop := List.find?_some hlook
  have hmem := List.mem_of_find?_eq_some hlook
  simp only [Bool.and_eq_true, decide_eq_true_eq] at hprop
  exact ⟨hprop.1, hprop.2, (h.device srcId).valid call hmem⟩

/-- The last call of a device is found under its own destination and `seq_id`. -/
theorem lookup_head {dev : Device} {call : Call} (h : dev.calls.head? = some call) :
    dev.lookup call.dstId call.seqId = some call := by
  obtain ⟨rest, hcalls⟩ := List.head?_eq_some_iff.mp h
  rw [Device.lookup, hcalls, List.find?_cons_of_pos (by simp)]

/-- An update that keeps the calls keeps the lookup, and with it all that the invariant says of
other devices. -/
theorem lookup_update {d : UInt32} {dev : Device} {out : List (List UInt8)}
    (h : dev.calls = (n.device d).calls) : (n.update d dev out).lookup = n.lookup := by
  funext srcId dstId seqId
  unfold Net.lookup
  by_cases hsrc : srcId = d
  · subst hsrc
    rw [update_device_self, Device.lookup, h]
    rfl
  · rw [update_device_of_ne _ _ _ _ hsrc]

/-- **The rule for steps of one device** that start no call. It is left to show that the device is
in order and that what it sent belongs to calls. -/
theorem NetInv.update (h : NetInv n) {d : UInt32} {dev : Device} {out : List (List UInt8)}
    (hcalls : dev.calls = (n.device d).calls) (hdev : DeviceInv n.lookup d dev)
    (hout : ∀ frame ∈ out, Carries n.lookup frame) : NetInv (n.update d dev out) where
  device := by
    intro d'
    -- no call is added, so every key belongs to the call that it belonged to
    rw [lookup_update hcalls]
    by_cases hd : d' = d
    · subst hd
      rw [update_device_self]
      exact hdev
    · rw [update_device_of_ne _ _ _ _ hd]
      exact h.device d'
  air := by
    intro frame hmem
    rw [lookup_update hcalls]
    rcases List.mem_append.mp hmem with hmem | hmem
    · exact h.air frame hmem
    · exact hout frame hmem

/-- What is on the way from `srcId` to `dstId` under a `seq_id` is a data frame. -/
def isDataFrame (srcId dstId : UInt32) (seqId : UInt16) (frame : List UInt8) : Bool :=
  (DectLinkLayerHeader.ofBytes frame).srcId = srcId
    && (DectLinkLayerHeader.ofBytes frame).dstId = dstId
    && frameTypeOf (linkPayload frame) = some .data
    && (DectTransportLayerDataFrame.ofBytes (linkPayload frame)).seqId = seqId

/-- Nothing is left of earlier calls from `srcId` to `dstId` under `seqId`: no data frame in flight
and no RECEIVING context. -/
def Net.Clear (n : Net) (srcId dstId : UInt32) (seqId : UInt16) : Prop :=
  (∀ frame ∈ n.air, isDataFrame srcId dstId seqId frame = false) ∧
    ∀ b ∈ (n.device dstId).transport.rxPool.contexts,
      ¬ (b.state = .receiving ∧ b.ext.srcId = srcId ∧ b.seqId = seqId)

/-- A call that draws a `seq_id` may start: an earlier one under its `seq_id` had the same data, or
nothing is left of it. Every run theorem assumes something that implies this. -/
def Net.Admits (n : Net) : Action → Prop
  | .startWrite d dstId seqId data =>
    (n.device d).admits data = true →
      (∀ call, n.lookup d dstId seqId = some call → call.data = data) ∨ n.Clear d dstId seqId
  | _ => True

/-- The frames of a call are data frames under its key. -/
theorem isDataFrame_frame (srcId : UInt32) (call : Call) (i : ℕ) :
    isDataFrame srcId call.dstId call.seqId
      (dectLinkLayerFrame srcId call.dstId (call.frame i).toBytes) = true := by
  unfold isDataFrame
  rw [ofBytes_dectLinkLayerFrame, linkPayload_dectLinkLayerFrame _ _ (call.length_frame_le i),
    frameTypeOf_data, DectTransportLayerDataFrame.ofBytes_toBytes]
  simp [Call.frame, dataFrameOf]

/-- The lookup after a call has drawn its `seq_id`: the new call hides an older one under its key,
and nothing else changes. -/
theorem lookup_startWrite {d : UInt32} {dev : Device} {call : Call}
    (h : dev.calls = call :: (n.device d).calls) (srcId dstId : UInt32) (seqId : UInt16) :
    (n.update d dev []).lookup srcId dstId seqId =
      if srcId = d ∧ call.dstId = dstId ∧ call.seqId = seqId then some call
      else n.lookup srcId dstId seqId := by
  unfold Net.lookup
  by_cases hsrc : srcId = d
  · subst hsrc
    rw [update_device_self, Device.lookup, h, List.find?_cons]
    by_cases hkey : call.dstId = dstId ∧ call.seqId = seqId
    · simp [hkey]
    · rw [if_neg (fun hall => hkey hall.2)]
      have hfalse : (decide (call.dstId = dstId) && decide (call.seqId = seqId)) = false := by
        rw [← Bool.decide_and, decide_eq_false hkey]
      rw [hfalse]
      rfl
  · rw [update_device_of_ne _ _ _ _ hsrc, if_neg (fun hall => hsrc hall.1)]

/-- A call starts. What was in flight or in a context under its key belonged to an older call, which
had the same data, or is gone. -/
theorem NetInv.startWrite (h : NetInv n) {d : UInt32} {call : Call}
    (hclear : (n.device d).admits call.data = true →
      (∀ old, n.lookup d call.dstId call.seqId = some old → old.data = call.data) ∨
        n.Clear d call.dstId call.seqId) :
    NetInv (n.update d ((n.device d).startWrite call) []) := by
  have hdev := h.device d
  -- a call that is refused is not recorded, and sends nothing
  rcases Device.startWrite_spec hdev.initialized call with ⟨e, hstart⟩ | ⟨hvalid, p, hat, hstart⟩
  · rw [hstart]
    refine h.update (d := d) rfl { hdev with writer := ?_ } fun _ hf => absurd hf List.not_mem_nil
    intro c p hw
    cases hw
    exact .done _ rfl
  rw [hstart]
  have hclear := hclear (hvalid.admits hdev.initialized)
  have hlook := @lookup_startWrite n d
    { n.device d with writer := some (call, p), calls := call :: (n.device d).calls } call rfl
  -- whatever was found before under another key is found still
  have hair : ∀ frame ∈ n.air, Carries n.lookup frame → Carries
      (n.update d { n.device d with
        writer := some (call, p), calls := call :: (n.device d).calls } []).lookup frame := by
    intro frame hmem hcarries
    cases hcarries with
    | ack srcId dstId a => exact .ack srcId dstId a
    | @data srcId old i hold hi =>
      by_cases hkey : srcId = d ∧ call.dstId = old.dstId ∧ call.seqId = old.seqId
      · obtain ⟨rfl, hdst, hseq⟩ := hkey
        rcases hclear with hsame | hclear
        · rw [← hdst, ← hseq] at hold
          have hdata := hsame old hold
          -- the old call had the same data, and so the same frames
          have hframe : old.frame i = call.frame i := by
            rw [Call.frame, Call.frame, hdata, hseq]
          have hcount : old.count = call.count := by rw [Call.count, Call.count, hdata]
          rw [hframe, ← hdst]
          refine .data ?_ (hcount ▸ hi)
          rw [hlook, if_pos ⟨rfl, rfl, rfl⟩]
        · -- or nothing of it is in flight
          have hnone := hclear.1 _ hmem
          rw [hdst, hseq, isDataFrame_frame] at hnone
          cases hnone
      · refine .data ?_ hi
        rw [hlook, if_neg hkey]
        exact hold
  -- The contexts, with the same case split.
  have hctx : ∀ d', ReceivingAll (HoldsPrefix (n.update d { n.device d with
      writer := some (call, p), calls := call :: (n.device d).calls } []).lookup d')
      (n.device d').transport.rxPool := by
    intro d' j b hj hb
    obtain ⟨old, hholds⟩ := (h.device d').receiving j b hj hb
    by_cases hkey : b.ext.srcId = d ∧ call.dstId = d' ∧ call.seqId = b.seqId
    · obtain ⟨hsrc, rfl, hseq⟩ := hkey
      rcases hclear with hsame | hclear
      · have hold := hholds.look
        rw [hsrc, ← hseq] at hold
        have hdata := hsame old hold
        refine ⟨call, ?_, ?_, ?_, ?_, ?_⟩
        · rw [hlook, if_pos ⟨hsrc, rfl, hseq⟩]
        · rw [hholds.fragTotal, hdata]
        · rw [hholds.totalSizeBytes, hdata]
        · rw [hholds.data, hdata]
        · rw [Call.count, ← hdata]
          exact hholds.lt
      · exact absurd ⟨hb, hsrc, hseq.symm⟩ (hclear.2 b (List.mem_of_getElem? hj))
    · refine ⟨old, ?_, hholds.fragTotal, hholds.totalSizeBytes, hholds.data, hholds.lt⟩
      rw [hlook, if_neg hkey]
      exact hholds.look
  refine ⟨fun d' => ?_, fun frame hmem => ?_⟩
  · by_cases hd : d' = d
    · subst hd
      rw [update_device_self]
      refine ⟨hdev.ready, hdev.initialized, hdev.pool, hdev.query, hctx d', hdev.unique, ?_, ?_⟩
      · intro c hc
        rcases List.mem_cons.mp hc with rfl | hc
        · exact hvalid
        · exact hdev.valid c hc
      · intro c p' hw
        cases hw
        exact .frame .ready 0 rfl hat
    · rw [update_device_of_ne _ _ _ _ hd]
      have hother := h.device d'
      exact ⟨hother.ready, hother.initialized, hother.pool, hother.query, hctx d', hother.unique,
        hother.valid, hother.writer⟩
  · rw [update_air, List.append_nil] at hmem
    exact hair frame hmem (h.air frame hmem)

/-- A frame in flight is one of the transport, so that a receive window can be inverted. -/
theorem NetInv.received (h : NetInv n) (d now : UInt32) {frame : List UInt8}
    (beyond : ℕ → UInt8) (hmem : frame ∈ n.air) :
    Received d now (n.device d) frame ((n.device d).receive d now frame beyond).1
      ((n.device d).receive d now frame beyond).2 :=
  Device.receive_spec now beyond (h.device d).ready (h.air frame hmem).transportFrame

/-- A device handles a frame. The frame was in flight, so it is an ACK or a fragment of some
call. -/
theorem NetInv.receive (h : NetInv n) {d now : UInt32} {frame : List UInt8}
    (beyond : ℕ → UInt8) (hmem : frame ∈ n.air) :
    NetInv (n.update d ((n.device d).receive d now frame beyond).1
      ((n.device d).receive d now frame beyond).2) := by
  have hdev := h.device d
  have hcarries := h.air frame hmem
  have hspec := h.received d now beyond hmem
  generalize ((n.device d).receive d now frame beyond).1 = dev at hspec
  generalize ((n.device d).receive d now frame beyond).2 = out at hspec
  cases hspec with
  -- a frame for another device, or one that is too short: nothing is sent
  | ignored hlink =>
    exact h.update rfl { hdev with ready := hlink } fun _ hf => absurd hf List.not_mem_nil
  | ack hlink =>
    exact h.update rfl { hdev with ready := hlink } fun _ hf => absurd hf List.not_mem_nil
  | @data link hlink srcId f hframe hlen q effects hpool =>
    -- a data frame on the air is a fragment of a call, so what is written into the context is its
    -- payload
    obtain ⟨call, i, -, hlook, hi, rfl⟩ := hcarries.of_data hframe hlen
    have hvalid := (h.sound _ _ _ _ hlook).2.2
    obtain ⟨hinv, hquery, hrecv, hunique⟩ := hdev.poolStep hlook hvalid hi hpool
    refine h.update rfl { hdev with
      ready := hlink, pool := hinv, query := hquery, receiving := hrecv, unique := hunique }
      fun g hg => ?_
    rw [mem_acksOf hg]
    exact .ack d srcId _

/-- The consumer of a message drops a reference. The context was REFERENCED, so no RECEIVING one is
touched. -/
theorem NetInv.release (h : NetInv n) {d : UInt32} {i : ℕ} {b : DectTransportBuffer}
    (hi : (n.device d).transport.rxPool.contexts[i]? = some b) (hb : b.state = .referenced) :
    NetInv (n.update d ((n.device d).release i) []) := by
  have hdev := h.device d
  refine h.update rfl { hdev with
    pool := hdev.pool.unref i
    query := (unref_additionalQueryCb _ i).trans hdev.query
    receiving := hdev.receiving.unref hi (ne_receiving_of_referenced hb)
    unique := hdev.unique.unref hi (ne_receiving_of_referenced hb) }
    fun _ hf => absurd hf List.not_mem_nil

/-- **Every admitted step keeps the invariant.** -/
theorem NetInv.step (h : NetInv n) {a : Action} {n' : Net} (hadmits : n.Admits a)
    (hstep : n.step a = some n') : NetInv n' := by
  cases Net.step_cases hstep with
  | startWrite => exact h.startWrite hadmits
  | @writer d call p hp =>
    obtain ⟨hdev, hout⟩ := (h.device d).writerStep (fun c hc => lookup_head hc) hp
    refine h.update ?_ hdev hout
    exact (writerStep_history d call (n.device d) p).1
  | receive hk => exact h.receive _ (List.mem_of_getElem? hk)
  | lose => exact ⟨h.device, fun frame hmem => h.air frame (List.mem_of_mem_eraseIdx hmem)⟩
  | release hi hb => exact h.release hi hb

/-- A step hands up only messages of calls, under their source and `seq_id`. All that was handed up
before stays in front. -/
theorem NetInv.step_delivered (h : NetInv n) {a : Action} {n' : Net} (hstep : n.step a = some n')
    (d : UInt32) :
    ∃ ms, (n'.device d).delivered = (n.device d).delivered ++ ms ∧
      ∀ m ∈ ms, ∃ call, n.lookup m.srcId d m.seqId = some call ∧ call.data = m.data := by
  -- a device that hands up nothing
  have hkeep : ∀ {d' : UInt32} {dev : Device} {out : List (List UInt8)},
      dev.delivered = (n.device d').delivered →
      ((n.update d' dev out).device d).delivered = (n.device d).delivered :=
    fun hdev => update_device_rel (r := fun x y => y.delivered = x.delivered) n _ _ _
      (fun _ => rfl) hdev d
  -- steps that hand nothing up
  have hnothing : ∀ {l : List Delivery}, l = (n.device d).delivered →
      ∃ ms, l = (n.device d).delivered ++ ms ∧
        ∀ m ∈ ms, ∃ call, n.lookup m.srcId d m.seqId = some call ∧ call.data = m.data :=
    fun hl => ⟨[], by rw [hl, List.append_nil], fun _ hm => absurd hm List.not_mem_nil⟩
  cases Net.step_cases hstep with
  | startWrite => exact hnothing (hkeep rfl)
  | writer => exact hnothing (hkeep (writerStep_history _ _ _ _).2.1)
  | lose => exact hnothing rfl
  | release => exact hnothing (hkeep rfl)
  | @receive d' now k beyond frame hk =>
    have hdev := h.device d'
    have hcarries := h.air frame (List.mem_of_getElem? hk)
    have hspec := h.received d' now beyond (List.mem_of_getElem? hk)
    generalize ((n.device d').receive d' now frame beyond).1 = dev at hspec
    generalize ((n.device d').receive d' now frame beyond).2 = out at hspec
    cases hspec with
    -- of the frames only a data frame may complete a message
    | ignored => exact hnothing (hkeep rfl)
    | ack => exact hnothing (hkeep rfl)
    | @data link hlink srcId f hframe hlen q effects hpool =>
      by_cases hd : d = d'
      · subst hd
        obtain ⟨call, i, -, hlook, hi, rfl⟩ := hcarries.of_data hframe hlen
        have hvalid := (h.sound _ _ _ _ hlook).2.2
        refine ⟨deliveriesOf effects, by rw [update_device_self], fun m hm => ⟨call, ?_⟩⟩
        rw [hdev.poolStep_deliveries hlook hvalid hi hpool hm]
        exact ⟨hlook, rfl⟩
      · -- another device received
        exact hnothing (by rw [update_device_of_ne _ _ _ _ hd])

/-- The calls of a device are never forgotten, so a message handed up long ago still has its
call. -/
theorem NetInv.step_calls (h : NetInv n) {a : Action} {n' : Net} (hstep : n.step a = some n')
    (d : UInt32) {call : Call}
    (hmem : call ∈ (n.device d).calls) : call ∈ (n'.device d).calls := by
  -- a step changes one device, so only its calls have to be looked at
  have hkeep : ∀ {d' : UInt32} {dev : Device} {out : List (List UInt8)},
      (call ∈ (n.device d').calls → call ∈ dev.calls) →
      call ∈ ((n.update d' dev out).device d).calls :=
    fun hdev => update_device_rel (r := fun x y => call ∈ x.calls → call ∈ y.calls) n _ _ _
      (fun _ hc => hc) hdev d hmem
  cases Net.step_cases hstep with
  -- a call that begins is added, if the layer accepts it
  | startWrite =>
    refine hkeep fun hc => ?_
    unfold Device.startWrite
    dsimp only
    split
    · exact List.mem_cons_of_mem _ hc
    · exact hc
  | writer => exact hkeep fun hc => by rw [(writerStep_history _ _ _ _).1]; exact hc
  | @receive d' now k beyond frame hk =>
    have hspec := h.received d' now beyond (List.mem_of_getElem? hk)
    exact hkeep fun hc => by rw [hspec.writer.2.1]; exact hc
  | lose => exact hmem
  | release => exact hkeep fun hc => hc

/-- The network at rest satisfies the invariant: nothing is in flight and every context is FREE. -/
theorem NetInv.init (callback : UInt32 → Option (TransportRxCallback DectTransportExt)) :
    NetInv (Net.init callback) where
  device d :=
    { ready := rfl
      initialized := rfl
      pool := .init _ _ _ _ _
      query := rfl
      receiving := by
        intro i b hi hb
        have hfree := List.eq_of_mem_replicate (List.mem_of_getElem? hi)
        rw [hfree] at hb
        cases hb
      unique := .init _ _ _ _ _
      valid := fun _ hc => absurd hc List.not_mem_nil
      writer := fun _ _ hw => by cases hw }
  air := fun _ hf => absurd hf List.not_mem_nil

end Network

end DectCommunicator
