import DectCommunicator.Dect.NetworkInv

/-!
# Success means delivery

`dect_transport_layer_write` returns 0 when the wait for its last fragment succeeds, and the wait
succeeds on any ACK frame: `prv_handle_data_ack_frame` does not look at the frame. An ACK of an
earlier attempt that arrives late, or one of another device, is taken for that of the fragment in
hand (`late_ack_returns_ok`).

`AcksMatch` is the condition under which success means delivery (`ok_is_delivered`):

* an ACK frame that a device handles while the last fragment of its call is in hand — from the
  reset of the semaphore to the end of the wait — is that fragment's ACK;
* a call draws a `seq_id` under which nothing is left between the two devices.

The invariant follows the call in progress (`Progress`). A destination sends the ACK of a last
fragment only in the step that hands the message up, so once that ACK is in flight, or counted by
the semaphore, the message has been delivered.
-/

namespace DectCommunicator

open StopAndWait Machine

/-! ### The condition -/

/-- The last data frame a call has in hand: about to be sent, or sent and awaited. It is read from
the rest of the call, so it needs no variable of its own. -/
def Device.inHand (dev : Device) : Option (Call × DectTransportLayerDataFrame) :=
  match dev.writer with
  | some (call, .send x _) => some (call, .ofBytes x.2)
  | some (call, .take _ _) => dev.lastSent.map fun x => (call, .ofBytes x.2)
  | _ => none

/-- The frame acknowledges the data frame `f` of `call`: the check that the FIXME of
`prv_handle_data_ack_frame` asks for. -/
def isAckOf (call : Call) (f : DectTransportLayerDataFrame) (frame : List UInt8) : Bool :=
  (DectLinkLayerHeader.ofBytes frame).srcId = call.dstId
    && DectTransportLayerDataFrameAck.ofBytes (linkPayload frame) = ⟨f.seqId, f.fragIdx⟩

/-- An ACK frame from `srcId` to `dstId` under `seqId`, for whichever fragment. -/
def isAckFrame (srcId dstId : UInt32) (seqId : UInt16) (frame : List UInt8) : Bool :=
  (DectLinkLayerHeader.ofBytes frame).srcId = srcId
    && (DectLinkLayerHeader.ofBytes frame).dstId = dstId
    && frameTypeOf (linkPayload frame) = some .dataAck
    && (DectTransportLayerDataFrameAck.ofBytes (linkPayload frame)).seqId = seqId

/-- **The condition.** A call draws a `seq_id` of which nothing is left; an ACK handled while a last
fragment is in hand is the ACK of that fragment. -/
def AcksMatch (n : Net) : Action → Prop
  | .startWrite d dstId seqId data =>
    (n.device d).admits data = true →
      n.Clear d dstId seqId ∧ ∀ frame ∈ n.air, isAckFrame dstId d seqId frame = false
  | .receive d k _ _ =>
    ∀ frame ∈ n.air[k]?, (DectLinkLayerHeader.ofBytes frame).dstId = d →
      frameTypeOf (linkPayload frame) = some .dataAck →
      ∀ cf ∈ (n.device d).inHand, cf.2.fragIdx + 1 = cf.2.fragTotal → isAckOf cf.1 cf.2 frame = true
  | _ => True

instance (n : Net) (srcId dstId : UInt32) (seqId : UInt16) :
    Decidable (n.Clear srcId dstId seqId) := by
  unfold Net.Clear
  infer_instance

instance (n : Net) (a : Action) : Decidable (AcksMatch n a) :=
  a.casesOn (motive := fun a => Decidable (AcksMatch n a))
    (fun d _ _ data => inferInstanceAs (Decidable ((n.device d).admits data = true → _)))
    (fun _ => instDecidableTrue)
    (fun _ k _ _ => inferInstanceAs (Decidable (∀ frame ∈ n.air[k]?, _)))
    (fun _ => instDecidableTrue) fun _ _ => instDecidableTrue

/-- A `seq_id` of which nothing is left is one that the network's invariant admits. -/
theorem AcksMatch.admits {n : Net} {a : Action} (h : AcksMatch n a) : n.Admits a := by
  cases a with
  | startWrite d dstId seqId data => exact fun hadmits => Or.inr (h hadmits).1
  | _ => trivial

/-! ### The invariant -/

/-- The destination of a call of `srcId` has handed the message up since the call began, unless it
has no callback. -/
def Net.Delivered (n : Net) (srcId : UInt32) (call : Call) : Prop :=
  (n.device call.dstId).transport.transportRxCallback.isSome = true →
    ⟨srcId, call.seqId, call.data⟩ ∈ (n.device call.dstId).delivered.drop call.base

/-- The frame acknowledges the last fragment of a call of `srcId`. Its sender is the destination of
the call. -/
def LastAck (srcId : UInt32) (call : Call) (frame : List UInt8) : Prop :=
  ∃ a : DectTransportLayerDataFrameAck, frame = dectLinkLayerFrame call.dstId srcId a.toBytes ∧
    a.seqId = call.seqId ∧ a.fragIdx.toNat + 1 = call.count

/-- How far a call of `srcId` in progress is. At a fragment, two ways are left to a return of 0 for
the last one: the semaphore is up, or an ACK is in flight that will give it, and by either time the
message has been delivered. -/
inductive Progress (n : Net) (srcId : UInt32) (call : Call) : Proc Errno LinkWrite Ret → Prop
  | refused (e : Errno) : Progress n srcId call (.ret (.err e))
  | done (h : n.Delivered srcId call) : Progress n srcId call (.ret .ok)
  | frame {p : Proc Errno LinkWrite Ret} (φ : Phase) (i : ℕ)
      (hhead : (n.device srcId).calls.head? = some call) (hat : call.AtFrame φ i p)
      (hsent : φ = .waiting →
        (n.device srcId).lastSent = some (call.dstId, (call.frame i).toBytes))
      (hsem : φ ≠ .ready → i + 1 = call.count → 0 < (n.device srcId).transport.ackSem →
        n.Delivered srcId call)
      (hacks : ∀ frame ∈ n.air, LastAck srcId call frame → n.Delivered srcId call) :
      Progress n srcId call p

/-- **The invariant.** `returned` is the property, and the other two are what keeps it. -/
structure DeliveryInv (n : Net) : Prop where
  base : ∀ s call p, (n.device s).writer = some (call, p) →
    call.base ≤ (n.device call.dstId).delivered.length
  progress : ∀ s call p, (n.device s).writer = some (call, p) → Progress n s call p
  returned : ∀ s call, (call, .ok) ∈ (n.device s).returned → n.Delivered s call

/-! ### What a step does to the calls of other devices -/

section Step

variable {n : Net} {d : UInt32} {dev : Device} {out : List (List UInt8)}

/-- A device that keeps its callback and only appends to what it handed up. Every step leaves every
device so. -/
structure Extends (dev dev' : Device) : Prop where
  callback : dev'.transport.transportRxCallback = dev.transport.transportRxCallback
  delivered : ∃ ms, dev'.delivered = dev.delivered ++ ms

/-- What has been delivered stays delivered: the messages handed up only grow at their end. -/
theorem Net.Delivered.update {s : UInt32} {call : Call} (h : n.Delivered s call)
    (hext : Extends (n.device d) dev) : (n.update d dev out).Delivered s call := by
  unfold Net.Delivered
  by_cases hd : call.dstId = d
  · rw [hd, update_device_self, hext.callback]
    intro hcb
    obtain ⟨ms, hms⟩ := hext.delivered
    have hmem := h (by rw [hd]; exact hcb)
    rw [hd] at hmem
    rw [hms, List.drop_append]
    exact List.mem_append_left _ hmem
  · rw [update_device_of_ne _ _ _ _ hd]
    exact h

/-- The progress of a call is kept by what happens elsewhere, as long as an ACK of its last
fragment is sent only once it is delivered. -/
theorem Progress.update {s : UInt32} {call : Call} {p : Proc Errno LinkWrite Ret}
    (h : Progress n s call p) (hext : Extends (n.device d) dev)
    (hsame : s = d → dev.calls = (n.device d).calls ∧ dev.lastSent = (n.device d).lastSent ∧
      dev.transport.ackSem = (n.device d).transport.ackSem)
    (hout : (n.device s).calls.head? = some call → ∀ frame ∈ out, LastAck s call frame →
      (n.update d dev out).Delivered s call) :
    Progress (n.update d dev out) s call p := by
  -- what the progress of a call depends on belongs to its device, so only a step of that one
  -- matters
  have hdev : ((n.update d dev out).device s).calls = (n.device s).calls ∧
      ((n.update d dev out).device s).lastSent = (n.device s).lastSent ∧
      ((n.update d dev out).device s).transport.ackSem = (n.device s).transport.ackSem := by
    by_cases hd : s = d
    · subst hd
      rw [update_device_self]
      exact hsame rfl
    · rw [update_device_of_ne _ _ _ _ hd]
      exact ⟨rfl, rfl, rfl⟩
  cases h with
  | refused e => exact .refused e
  | done h => exact .done (h.update hext)
  | frame φ i hhead hat hsent hsem hacks =>
    refine .frame φ i (by rw [hdev.1, hhead]) hat (by rw [hdev.2.1]; exact hsent) ?_ ?_
    · rw [hdev.2.2]
      exact fun hφ hi hpos => (hsem hφ hi hpos).update hext
    · -- an ACK on the air was there before, or has been sent in this step
      intro frame hmem hlast
      rcases List.mem_append.mp hmem with hmem | hmem
      · exact (hacks frame hmem hlast).update hext
      · exact hout hhead frame hmem hlast

/-- **The rule for a step of device `d`**: the other devices are those of before, the calls they
have in progress are not affected, and it remains to follow the call of `d` itself. -/
theorem DeliveryInv.update (h : DeliveryInv n) (hext : Extends (n.device d) dev)
    (hout : ∀ s call, s ≠ d → call.base ≤ (n.device call.dstId).delivered.length →
      (n.device s).calls.head? = some call →
      ∀ frame ∈ out, LastAck s call frame → (n.update d dev out).Delivered s call)
    (hbase : ∀ call p, dev.writer = some (call, p) →
      call.base ≤ (n.device call.dstId).delivered.length)
    (hwriter : ∀ call p, dev.writer = some (call, p) → Progress (n.update d dev out) d call p)
    (hreturned : ∀ call, (call, .ok) ∈ dev.returned →
      (call, .ok) ∈ (n.device d).returned ∨ (n.update d dev out).Delivered d call) :
    DeliveryInv (n.update d dev out) where
  base := by
    intro s call p hw
    -- the messages handed up only grow in number
    have hle : (n.device call.dstId).delivered.length ≤
        ((n.update d dev out).device call.dstId).delivered.length := by
      refine update_device_rel (r := fun x y => x.delivered.length ≤ y.delivered.length) n _ _ _
        (fun _ => le_rfl) ?_ _
      obtain ⟨ms, hms⟩ := hext.delivered
      rw [hms, List.length_append]
      exact Nat.le_add_right _ _
    refine le_trans ?_ hle
    by_cases hs : s = d
    · subst hs
      rw [update_device_self] at hw
      exact hbase call p hw
    · rw [update_device_of_ne _ _ _ _ hs] at hw
      exact h.base s call p hw
  progress := by
    intro s call p hw
    by_cases hs : s = d
    · subst hs
      rw [update_device_self] at hw
      exact hwriter call p hw
    · rw [update_device_of_ne _ _ _ _ hs] at hw
      exact (h.progress s call p hw).update hext (fun heq => absurd heq hs)
        (hout s call hs (h.base s call p hw))
  returned := by
    intro s call hret
    by_cases hs : s = d
    · subst hs
      rw [update_device_self] at hret
      rcases hreturned call hret with hret | hdel
      · exact (h.returned s call hret).update hext
      · exact hdel
    · rw [update_device_of_ne _ _ _ _ hs] at hret
      exact (h.returned s call hret).update hext

/-! ### The steps of one device -/

/-- A data frame is no ACK of a last fragment, their frame types being different. -/
theorem not_lastAck_data {s srcId dstId : UInt32} {call : Call} {f : DectTransportLayerDataFrame}
    (hlen : f.toBytes.length ≤ dectLinkLayerMaxPayloadSizeBytes) :
    ¬ LastAck s call (dectLinkLayerFrame srcId dstId f.toBytes) := by
  rintro ⟨a, hframe, -⟩
  obtain ⟨-, -, hbytes⟩ := dectLinkLayerFrame_inj hlen (length_ack_le a) hframe
  have htype := congrArg frameTypeOf hbytes
  rw [frameTypeOf_ack, frameTypeOf_data] at htype
  cases htype

/-- **The ACK of a last fragment** is sent in the step that hands the message up. -/
theorem delivered_of_lastAck (hinv : NetInv n) {srcId now s : UInt32} {call' call : Call} {i : ℕ}
    (hlook : n.lookup srcId d call'.seqId = some call') (hi : i < call'.count)
    {q : TransportBufferPool DectTransportExt UInt32}
    {effects : List (RxEffect DectTransportExt)}
    (hpool : (n.device d).PoolStep now srcId (call'.frame i) q effects)
    (hcallback : dev.transport.transportRxCallback = (n.device d).transport.transportRxCallback)
    (hdelivered : dev.delivered = (n.device d).delivered ++ deliveriesOf effects)
    (hbase : call.base ≤ (n.device call.dstId).delivered.length)
    (hhead : (n.device s).calls.head? = some call) {frame : List UInt8}
    (hframe : frame ∈ acksOf d srcId (call'.frame i) effects) (hlast : LastAck s call frame) :
    (n.update d dev out).Delivered s call := by
  have hdev := hinv.device d
  have hvalid := (hinv.sound _ _ _ _ hlook).2.2
  -- the ACK is for the call in progress
  obtain ⟨a, ha, haseq, haidx⟩ := hlast
  rw [mem_acksOf hframe] at ha
  obtain ⟨rfl, rfl, hbytes⟩ := dectLinkLayerFrame_inj (length_ack_le _) (length_ack_le a) ha
  rw [← DectTransportLayerDataFrameAck.toBytes_inj hbytes] at haseq haidx
  have hcall : call' = call := by
    have hl : n.lookup srcId call.dstId call.seqId = some call := lookup_head hhead
    rw [← haseq] at hl
    exact Option.some.inj (hlook.symm.trans hl)
  subst hcall
  have hcount : i + 1 = call'.count := by
    rw [← haidx]
    exact congrArg (· + 1) (Call.frame_fragIdx_toNat hvalid hi).symm
  have hmsgs : ∀ m ∈ deliveriesOf effects, m = ⟨srcId, call'.seqId, call'.data⟩ := fun m hm =>
    hdev.poolStep_deliveries hlook hvalid hi hpool hm
  cases hpool with
  | refused | rejected | invalidFinalSize => cases hframe
  -- a fragment that was stored before is not the last one, its context being RECEIVING still
  | duplicate hq _ hidx =>
    have hlt := (hq.holds hdev.query hdev.receiving hlook hvalid).lt
    have hidx : (call'.frame i).fragIdx.toNat < _ := UInt8.lt_iff_toNat_lt.mp hidx
    rw [Call.frame_fragIdx_toNat hvalid hi] at hidx
    rw [mark_fragIdx] at hlt
    omega
  -- the context says that more fragments follow
  | success hq _ hidx _ hnot =>
    have hholds := hq.holds hdev.query hdev.receiving hlook hvalid
    refine absurd ((hholds.last_iff hvalid).mpr ?_) hnot
    rw [mark_fragIdx, ← hidx, ← hcount]
    exact congrArg (· + 1) (Call.frame_fragIdx_toNat hvalid hi)
  | @complete j b b' q hq hdata hidx hlast hlen hb' =>
    intro hcb
    rw [update_device_self, hcallback] at hcb
    rw [update_device_self, hdelivered, List.drop_append_of_le_length hbase]
    refine List.mem_append_right _ ?_
    rw [if_pos hcb] at hmsgs ⊢
    rw [← hmsgs _ (List.mem_singleton.mpr rfl)]
    exact List.mem_singleton.mpr rfl

end Step

section Actions

variable {n : Net}

/-- A call starts. Nothing acknowledges its last fragment yet, since no ACK under its `seq_id` is in
flight. -/
theorem DeliveryInv.startWrite (h : DeliveryInv n) (hinv : NetInv n) {d : UInt32} {call : Call}
    (hbase : call.base = (n.device call.dstId).delivered.length)
    (hquiet : (n.device d).admits call.data = true →
      ∀ frame ∈ n.air, isAckFrame call.dstId d call.seqId frame = false) :
    DeliveryInv (n.update d ((n.device d).startWrite call) []) := by
  have hinit := (hinv.device d).initialized
  have hext : Extends (n.device d) ((n.device d).startWrite call) :=
    ⟨rfl, [], (List.append_nil _).symm⟩
  refine h.update hext (fun _ _ _ _ _ _ hf => absurd hf List.not_mem_nil) ?_ ?_
    fun _ hret => Or.inl hret
  · intro c p hw
    cases hw
    exact hbase.le
  · intro c p hw
    rcases Device.startWrite_spec hinit call with ⟨e, hstart⟩ | ⟨hvalid, p₀, hat, hstart⟩
    · -- refused, and so never successful
      rw [hstart] at hw ⊢
      cases hw
      exact .refused e
    · rw [hstart] at hw ⊢
      cases hw
      refine .frame .ready 0 ?_ hat (fun hφ => by cases hφ) (fun hφ => absurd rfl hφ) ?_
      · rw [update_device_self]
        rfl
      · -- no ACK for the `seq_id` is in flight yet
        rintro frame hmem ⟨a, rfl, haseq, -⟩
        rw [update_air, List.append_nil] at hmem
        have hno := hquiet (hvalid.admits hinit) _ hmem
        rw [isAckFrame, ofBytes_dectLinkLayerFrame,
          linkPayload_dectLinkLayerFrame _ _ (length_ack_le a), frameTypeOf_ack,
          DectTransportLayerDataFrameAck.ofBytes_toBytes, haseq] at hno
        simp at hno

/-- The call in progress does its next effect. It returns 0 only after the semaphore was taken for
the last fragment. -/
theorem DeliveryInv.writer (h : DeliveryInv n) (hinv : NetInv n) {d : UInt32} {call : Call}
    {p : Proc Errno LinkWrite Ret} (hp : (n.device d).writer = some (call, p)) :
    DeliveryInv (n.update d ((n.device d).writerStep d call p).1
      ((n.device d).writerStep d call p).2) := by
  have hdev := hinv.device d
  have hbase := h.base d call p hp
  cases h.progress d call p hp with
  | refused e =>
    -- the call returns an error, of which nothing is claimed
    refine h.update ⟨rfl, [], (List.append_nil _).symm⟩
      (fun _ _ _ _ _ _ hf => absurd hf List.not_mem_nil) (fun _ _ hw => by cases hw)
      (fun _ _ hw => by cases hw) fun c hret => ?_
    rcases List.mem_cons.mp hret with heq | hret
    · cases heq
    · exact Or.inl hret
  | done hdel =>
    -- the call returns 0: the message has been delivered already
    have hext : Extends (n.device d) ((n.device d).writerStep d call (.ret .ok)).1 :=
      ⟨rfl, [], (List.append_nil _).symm⟩
    refine h.update hext
      (fun _ _ _ _ _ _ hf => absurd hf List.not_mem_nil) (fun _ _ hw => by cases hw)
      (fun _ _ hw => by cases hw) fun c hret => ?_
    rcases List.mem_cons.mp hret with heq | hret
    · cases heq
      exact Or.inr (hdel.update hext)
    · exact Or.inl hret
  | frame φ i hhead hat hsent hsem hacks =>
    have hvalid := hdev.valid call (List.mem_of_head? hhead)
    have hstep := Device.writerStep_spec d hdev.ready hvalid hat
    generalize ((n.device d).writerStep d call p).1 = dev at hstep
    generalize ((n.device d).writerStep d call p).2 = out at hstep
    -- nothing that a writer sends is an ACK, and it hands up nothing
    have hnoAck : ∀ (s : UInt32) (c : Call), ∀ frame ∈ out, ¬ LastAck s c frame := by
      intro s c frame hmem
      cases hstep with
      | send =>
        obtain rfl := List.mem_singleton.mp hmem
        exact not_lastAck_data (call.length_frame_le i)
      | _ => exact absurd hmem List.not_mem_nil
    have hext : Extends (n.device d) dev := by
      cases hstep <;> exact ⟨rfl, [], (List.append_nil _).symm⟩
    have hreturned : dev.returned = (n.device d).returned := by cases hstep <;> rfl
    have hacks' : ∀ frame ∈ (n.update d dev out).air, LastAck d call frame →
        (n.update d dev out).Delivered d call := by
      intro frame hmem hlast
      rcases List.mem_append.mp hmem with hmem | hmem
      · exact (hacks frame hmem hlast).update hext
      · exact absurd hlast (hnoAck d call frame hmem)
    have hprogress : ∃ k, dev.writer = some (call, k) ∧ Progress (n.update d dev out) d call k := by
      cases hstep with
      -- the semaphore is down again, whatever gave it before
      | @reset k hk =>
        refine ⟨k, rfl, .frame _ i (by rw [update_device_self]; exact hhead) hk
          (fun hφ => by cases hφ) ?_ hacks'⟩
        rw [update_device_self]
        exact fun _ _ hpos => absurd hpos (lt_irrefl 0)
      | @send k hk =>
        refine ⟨k, rfl, .frame _ i (by rw [update_device_self]; exact hhead) hk ?_ ?_ hacks'⟩
        · rw [update_device_self]
          exact fun _ => rfl
        · rw [update_device_self]
          exact fun _ hi hpos => (hsem (by decide) hi hpos).update hext
      -- the semaphore was up: for the last fragment this means delivery
      | @acked k hpos hk =>
        rcases hk with hk | ⟨hi, rfl⟩
        · exact ⟨k, rfl, .frame _ _ (by rw [update_device_self]; exact hhead) hk
            (fun hφ => by cases hφ) (fun hφ => absurd rfl hφ) hacks'⟩
        · exact ⟨_, rfl, .done ((hsem (by decide) hi hpos).update hext)⟩
      | @timeout k hzero hk =>
        rcases hk with hk | rfl
        · exact ⟨k, rfl, .frame _ _ (by rw [update_device_self]; exact hhead) hk
            (fun hφ => by cases hφ) (fun hφ => absurd rfl hφ) hacks'⟩
        · exact ⟨_, rfl, .refused _⟩
    obtain ⟨k, hw, hprogress⟩ := hprogress
    refine h.update hext (fun s c _ _ _ frame hmem hlast => absurd hlast (hnoAck s c frame hmem))
      ?_ ?_ fun c hret => Or.inl (by rwa [hreturned] at hret)
    · intro c p' hw'
      rw [hw] at hw'
      cases hw'
      exact hbase
    · intro c p' hw'
      rw [hw] at hw'
      cases hw'
      exact hprogress

/-- With the last fragment of a call in hand, an ACK that the condition lets through is the ACK of
that fragment. -/
theorem lastAck_of_acksMatch {d srcId : UInt32} {call : Call} {p : Proc Errno LinkWrite Ret}
    {φ : Phase} {i : ℕ} (hvalid : call.Valid) (hp : (n.device d).writer = some (call, p))
    (hat : call.AtFrame φ i p)
    (hsent : φ = .waiting → (n.device d).lastSent = some (call.dstId, (call.frame i).toBytes))
    (hφ : φ ≠ .ready) (hi : i + 1 = call.count) {a : DectTransportLayerDataFrameAck}
    (hmatch : ∀ cf ∈ (n.device d).inHand, cf.2.fragIdx + 1 = cf.2.fragTotal →
      isAckOf cf.1 cf.2 (dectLinkLayerFrame srcId d a.toBytes) = true) :
    LastAck d call (dectLinkLayerFrame srcId d a.toBytes) := by
  have hframes := hat.sends
  rw [hvalid.drop_frames hat.lt] at hframes
  -- the frame in hand is the one being sent, or the last one sent
  have hhand : (n.device d).inHand = some (call, call.frame i) := by
    unfold Device.inHand
    rw [hp]
    cases φ with
    | ready => exact absurd rfl hφ
    | sending =>
      obtain ⟨k, rfl, -⟩ := hframes.of_sending
      exact congrArg some (Prod.ext rfl (DectTransportLayerDataFrame.ofBytes_toBytes _))
    | waiting =>
      obtain ⟨k, rfl, -⟩ := hframes.of_waiting
      dsimp only
      rw [hsent rfl]
      exact congrArg some (Prod.ext rfl (DectTransportLayerDataFrame.ofBytes_toBytes _))
  have hidx := Call.frame_fragIdx_toNat hvalid hat.lt
  -- the index of a valid call is below 37, so that the successor does not wrap
  have hlast : (call.frame i).fragIdx + 1 = (call.frame i).fragTotal := by
    have hle : call.count ≤ 37 := count_le_of_length_le hvalid.le
    apply UInt8.toNat_inj.mp
    rw [UInt8.toNat_add, hidx]
    exact (Nat.mod_eq_of_lt (by change i + 1 < 256; omega)).trans
      (hi.trans hvalid.fragTotal_toNat.symm)
  -- the condition compares the source and the number, and the index
  have hack := hmatch _ hhand hlast
  rw [isAckOf, ofBytes_dectLinkLayerFrame, linkPayload_dectLinkLayerFrame _ _ (length_ack_le a),
    DectTransportLayerDataFrameAck.ofBytes_toBytes, Bool.and_eq_true, decide_eq_true_eq,
    decide_eq_true_eq] at hack
  obtain ⟨hsrc, rfl⟩ := hack
  refine ⟨_, by rw [show srcId = call.dstId from hsrc], rfl, ?_⟩
  exact (congrArg (· + 1) hidx).trans hi

/-- A device handles a frame. For an ACK the condition is used, for a data frame the fact that the
ACK of a last fragment is sent with the delivery. -/
theorem DeliveryInv.receive (h : DeliveryInv n) (hinv : NetInv n) {d now : UInt32}
    {frame : List UInt8} (beyond : ℕ → UInt8) (hmem : frame ∈ n.air)
    (hmatch : (DectLinkLayerHeader.ofBytes frame).dstId = d →
      frameTypeOf (linkPayload frame) = some .dataAck →
      ∀ cf ∈ (n.device d).inHand, cf.2.fragIdx + 1 = cf.2.fragTotal →
        isAckOf cf.1 cf.2 frame = true) :
    DeliveryInv (n.update d ((n.device d).receive d now frame beyond).1
      ((n.device d).receive d now frame beyond).2) := by
  have hdev := hinv.device d
  have hspec := hinv.received d now beyond hmem
  have hwriter := hspec.writer
  generalize ((n.device d).receive d now frame beyond).1 = dev at hspec hwriter
  generalize ((n.device d).receive d now frame beyond).2 = out at hspec
  obtain ⟨hw, hcalls, hret, hsent⟩ := hwriter
  -- receiving changes neither the call in progress nor what has returned
  have hbase : ∀ call p, dev.writer = some (call, p) →
      call.base ≤ (n.device call.dstId).delivered.length := fun call p hp =>
    h.base d call p (by rw [← hw]; exact hp)
  have hreturned : ∀ call, (call, .ok) ∈ dev.returned →
      (call, .ok) ∈ (n.device d).returned ∨ (n.update d dev out).Delivered d call :=
    fun call hc => Or.inl (by rw [← hret]; exact hc)
  cases hspec with
  | @ignored link =>
    -- for another device: nothing but the link layer changes
    have hext : Extends (n.device d) { n.device d with link } :=
      ⟨rfl, [], (List.append_nil _).symm⟩
    refine h.update hext (fun _ _ _ _ _ _ hf => absurd hf List.not_mem_nil) hbase ?_ hreturned
    intro call p hp
    exact (h.progress d call p hp).update hext (fun _ => ⟨rfl, rfl, rfl⟩)
      fun _ _ hf => absurd hf List.not_mem_nil
  | @ack link hlink srcId a hframe =>
    have hext : Extends (n.device d)
        { n.device d with link, transport := prvHandleDataAckFrame (n.device d).transport } :=
      ⟨rfl, [], (List.append_nil _).symm⟩
    refine h.update hext (fun _ _ _ _ _ _ hf => absurd hf List.not_mem_nil) hbase ?_ hreturned
    intro call p hp
    -- the semaphore is up now, so the ACK has to be the right one
    cases h.progress d call p hp with
    | refused e => exact .refused e
    | done hdel => exact .done (hdel.update hext)
    | frame φ i hhead hat hsent hsem hacks =>
      have hvalid := hdev.valid call (List.mem_of_head? hhead)
      refine .frame φ i (by rw [update_device_self]; exact hhead) hat
        (by rw [update_device_self]; exact hsent) ?_ ?_
      · intro hφ hi _
        subst hframe
        -- by the condition the ACK is that of the last fragment, and such an ACK is sent with the
        -- delivery
        have hlast := lastAck_of_acksMatch hvalid hp hat hsent hφ hi (hmatch
          (by rw [ofBytes_dectLinkLayerFrame])
          (by rw [linkPayload_dectLinkLayerFrame _ _ (length_ack_le a), frameTypeOf_ack]))
        exact (hacks _ hmem hlast).update hext
      · intro g hg hlast
        rw [update_air, List.append_nil] at hg
        exact (hacks g hg hlast).update hext
  -- the sender of the frame learns of it by the ACK
  | @data link hlink srcId f hframe hlen q effects hpool =>
    obtain ⟨call', i, hdst, hlook, hi, rfl⟩ := (hinv.air frame hmem).of_data hframe hlen
    have hext : Extends (n.device d)
        { n.device d with
          link
          transport := { (n.device d).transport with rxPool := q }
          delivered := (n.device d).delivered ++ deliveriesOf effects } :=
      ⟨rfl, _, rfl⟩
    -- an ACK of a last fragment is sent in the step that hands the message up
    have hacks := fun (s : UInt32) (call : Call)
        (hbase : call.base ≤ (n.device call.dstId).delivered.length)
        (hhead : (n.device s).calls.head? = some call) (g : List UInt8)
        (hg : g ∈ acksOf d srcId (call'.frame i) effects) (hlast : LastAck s call g) =>
      @delivered_of_lastAck n d _ (acksOf d srcId (call'.frame i) effects) hinv srcId now s call'
        call i hlook hi q effects hpool hext.callback rfl hbase hhead g hg hlast
    refine h.update hext (fun s call _ => hacks s call) hbase ?_ hreturned
    intro call p hp
    exact (h.progress d call p hp).update hext (fun _ => ⟨rfl, rfl, rfl⟩)
      (hacks d call (h.base d call p hp))

/-- **One step** under the condition. -/
theorem DeliveryInv.step (h : DeliveryInv n) (hinv : NetInv n) {a : Action} {n' : Net}
    (hmatch : AcksMatch n a) (hstep : n.step a = some n') : DeliveryInv n' := by
  cases Net.step_cases hstep with
  | @startWrite d dstId seqId data =>
    exact h.startWrite hinv rfl fun hadmits => (hmatch hadmits).2
  | writer hp => exact h.writer hinv hp
  | receive hk => exact h.receive hinv _ (List.mem_of_getElem? hk) (hmatch _ hk)
  | lose =>
    -- fewer frames are in flight, and fewer ACKs
    refine ⟨h.base, fun s call p hw => ?_, h.returned⟩
    cases h.progress s call p hw with
    | refused e => exact .refused e
    | done hdel => exact .done hdel
    | frame φ i hhead hat hsent hsem hacks =>
      exact .frame φ i hhead hat hsent hsem fun frame hmem =>
        hacks frame (List.mem_of_mem_eraseIdx hmem)
  | @release d i b hi hb =>
    -- a consumer's release is seen by no call
    have hext : Extends (n.device d) ((n.device d).release i) := ⟨rfl, [], (List.append_nil _).symm⟩
    refine h.update hext (fun _ _ _ _ _ _ hf => absurd hf List.not_mem_nil) (h.base d) ?_
      fun _ hret => Or.inl hret
    intro call p hp
    exact (h.progress d call p hp).update hext (fun _ => ⟨rfl, rfl, rfl⟩)
      fun _ _ hf => absurd hf List.not_mem_nil

end Actions

/-! ### Every run -/

/-- The network at rest: no call is in progress and none has returned. -/
theorem DeliveryInv.init (callback : UInt32 → Option (TransportRxCallback DectTransportExt)) :
    DeliveryInv (Net.init callback) :=
  ⟨fun _ _ _ hw => (by cases hw), fun _ _ _ hw => (by cases hw),
    fun _ _ hret => absurd hret List.not_mem_nil⟩

/-- The registered callbacks stay registered, so "has a callback" means the same all along a run. -/
theorem NetInv.step_callback {n n' : Net} (h : NetInv n) {a : Action} (hstep : n.step a = some n')
    (d : UInt32) : (n'.device d).transport.transportRxCallback =
      (n.device d).transport.transportRxCallback := by
  -- a step changes one device, so the callback has to be the same there only
  have hkeep : ∀ {d' : UInt32} {dev : Device} {out : List (List UInt8)},
      dev.transport.transportRxCallback = (n.device d').transport.transportRxCallback →
      ((n.update d' dev out).device d).transport.transportRxCallback =
        (n.device d).transport.transportRxCallback :=
    fun hdev => update_device_rel (r := fun x y =>
      y.transport.transportRxCallback = x.transport.transportRxCallback) n _ _ _
      (fun _ => rfl) hdev d
  cases Net.step_cases hstep with
  | startWrite => exact hkeep rfl
  | @writer d' call p hp => exact hkeep (writerStep_callback d' call (n.device d') p)
  | @receive d' now k beyond frame hk =>
    have hspec := h.received d' now beyond (List.mem_of_getElem? hk)
    refine hkeep ?_
    generalize ((n.device d').receive d' now frame beyond).1 = dev at hspec
    generalize ((n.device d').receive d' now frame beyond).2 = out at hspec
    cases hspec <;> rfl
  | lose => rfl
  | release => exact hkeep rfl

/-- **Success means delivery.** In every run under `AcksMatch`, a call that returned 0 to a
destination with a callback has been delivered there since it began: the callback was given the
source, the `seq_id` and exactly the bytes of the call. -/
theorem ok_is_delivered
    {callback : UInt32 → Option (TransportRxCallback DectTransportExt)} {as : List Action} {n : Net}
    (h : Steps Net.step AcksMatch (Net.init callback) as n) (srcId : UInt32) (call : Call)
    (hok : (call, .ok) ∈ (n.device srcId).returned) (hcb : (callback call.dstId).isSome = true) :
    ⟨srcId, call.seqId, call.data⟩ ∈ (n.device call.dstId).delivered.drop call.base := by
  have hinv : NetInv n ∧ DeliveryInv n ∧
      ∀ d, (n.device d).transport.transportRxCallback = callback d := by
    refine h.invariant (P := fun n => NetInv n ∧ DeliveryInv n ∧
      ∀ d, (n.device d).transport.transportRxCallback = callback d) ?_
      ⟨.init callback, .init callback, fun _ => rfl⟩
    intro s a t hs hC hstep
    exact ⟨hs.1.step hC.admits hstep, hs.2.1.step hs.1 hC hstep,
      fun d => (hs.1.step_callback hstep d).trans (hs.2.2 d)⟩
  exact hinv.2.1.returned srcId call hok (by rw [hinv.2.2]; exact hcb)

/-- Device 1 writes two fragments to device 2. Both attempts for fragment 0 are acknowledged, the
second ACK being handled before fragment 1 is in hand. -/
def acknowledgedWrite : List Action :=
  [.startWrite 1 2 7 fifteenBytes, .writer 1, .writer 1, .receive 2 0 100 fun _ => 0, .writer 1,
    .writer 1, .writer 1, .receive 2 2 200 fun _ => 0, .receive 1 1 210 fun _ => 0, .writer 1,
    .receive 1 3 220 fun _ => 0, .writer 1, .writer 1, .receive 2 4 300 fun _ => 0,
    .receive 1 5 310 fun _ => 0, .writer 1, .writer 1]

/-- The run of `acknowledgedWrite` meets the condition, although an ACK comes twice, and the call
returns 0. -/
theorem ok_is_delivered_acknowledged :
    ∃ n, Steps Net.step AcksMatch (Net.init oneReference) acknowledgedWrite n ∧
      (n.device 1).returned = [(⟨2, 7, fifteenBytes, 0⟩, .ok)] ∧
      ⟨1, 7, fifteenBytes⟩ ∈ (n.device 2).delivered.drop 0 := by
  have hrun : (checkRun Net.step AcksMatch (Net.init oneReference) acknowledgedWrite).map
      (fun n => (n.device 1).returned) = some [(⟨2, 7, fifteenBytes, 0⟩, .ok)] := by
    decide +kernel
  obtain ⟨n, hn, hreturned⟩ := Option.map_eq_some_iff.mp hrun
  exact ⟨n, steps_of_checkRun hn, hreturned,
    ok_is_delivered (steps_of_checkRun hn) 1 ⟨2, 7, fifteenBytes, 0⟩
      (by rw [hreturned]; exact List.mem_singleton.mpr rfl) rfl⟩

/-- As before, but the second ACK of fragment 0 is handled while fragment 1 is in hand, and the
only frame with fragment 1 is lost. -/
def lateAck : List Action :=
  [.startWrite 1 2 7 fifteenBytes, .writer 1, .writer 1, .receive 2 0 100 fun _ => 0, .writer 1,
    .writer 1, .writer 1, .receive 2 2 200 fun _ => 0, .receive 1 1 210 fun _ => 0, .writer 1,
    .writer 1, .writer 1, .lose 4, .receive 1 3 220 fun _ => 0, .writer 1, .writer 1]

/-- A late ACK makes a call return 0 whose message was never delivered. -/
theorem late_ack_returns_ok :
    ¬ ∀ (callback : UInt32 → Option (TransportRxCallback DectTransportExt)) (as : List Action)
        (n : Net), Steps Net.step (fun _ _ => True) (Net.init callback) as n →
      ∀ srcId call, (call, .ok) ∈ (n.device srcId).returned → (callback call.dstId).isSome = true →
        ∃ m ∈ (n.device call.dstId).delivered, m.data = call.data := by
  intro h
  have hrun : (checkRun Net.step (fun _ _ => True) (Net.init oneReference) lateAck).map
      (fun n => ((n.device 1).returned, (n.device 2).delivered))
        = some ([(⟨2, 7, fifteenBytes, 0⟩, .ok)], []) := by
    decide +kernel
  obtain ⟨n, hn, hend⟩ := Option.map_eq_some_iff.mp hrun
  obtain ⟨hreturned, hdelivered⟩ := Prod.ext_iff.mp hend
  obtain ⟨m, hm, -⟩ := h _ _ n (steps_of_checkRun hn) 1 ⟨2, 7, fifteenBytes, 0⟩
    (by rw [show (n.device 1).returned = _ from hreturned]; exact List.mem_singleton.mpr rfl) rfl
  rw [show (n.device 2).delivered = [] from hdelivered] at hm
  exact List.not_mem_nil hm

end DectCommunicator
