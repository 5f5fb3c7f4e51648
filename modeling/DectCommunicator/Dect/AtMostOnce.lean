import Mathlib.Data.List.Nodup
import DectCommunicator.Dect.NetworkInv

/-!
# At-most-once delivery

A completed message leaves no trace in the pool. A copy of its fragment 0 that arrives later
allocates a new context, and a message of one fragment is handed up again at once: when the ACK of
its only fragment is lost, the sender's next attempt is enough (`lost_ack_delivers_twice`).

`NoLateFirstFragment` is the condition under which this cannot happen: no fragment 0 is handled by
a device that has handed its message up. Under it every call is delivered at most once
(`delivered_at_most_once`). The invariant of a device, `OnceInv`, says that no RECEIVING context
is open for a message already handed up.
-/

namespace DectCommunicator

open Machine

/-! ### Open contexts -/

/-- The context at index `i` is RECEIVING a message of `srcId` under `seqId`. -/
def Open (p : TransportBufferPool DectTransportExt UInt32) (i : ℕ) (srcId : UInt32)
    (seqId : UInt16) : Prop :=
  ∃ b, p.contexts[i]? = some b ∧ b.state = .receiving ∧ b.ext.srcId = srcId ∧ b.seqId = seqId

/-- The source and `seq_id` of a delivery, by which a message is known to the pool. -/
def Delivery.key (m : Delivery) : UInt32 × UInt16 := (m.srcId, m.seqId)

/-- What holds of a device: it has handed up every message once, and has no context open for one
it has handed up. -/
structure OnceInv (p : TransportBufferPool DectTransportExt UInt32) (delivered : List Delivery) :
    Prop where
  closed : ∀ i srcId seqId, Open p i srcId seqId → (srcId, seqId) ∉ delivered.map Delivery.key
  nodup : (delivered.map Delivery.key).Nodup

section Pool

variable {look : Lookup} {d srcId now : UInt32} {dev : Device} {call : Call} {i i₀ : ℕ}
  {b : DectTransportBuffer} {p q : TransportBufferPool DectTransportExt UInt32}
  {effects : List (RxEffect DectTransportExt)}

/-- The context a fragment is given was open for its message, or the fragment is the first one: no
other fragment allocates. -/
theorem Obtained.open_or_first (h : DeviceInv look d dev) (hvalid : call.Valid)
    (hi : i < call.count)
    (hq : Obtained dev.transport.rxPool now (call.frame i).fragment (some srcId) i₀ b q) :
    Open dev.transport.rxPool i₀ srcId call.seqId ∨ i = 0 := by
  rcases hq.found_or_fresh (dectKeyed h.query srcId) with ⟨hj, -, hm⟩ | ⟨hidx, -⟩
  · exact Or.inl ⟨b, hj, hm.receiving, congrArg DectTransportExt.srcId hm.ext, hm.seqId⟩
  · have htoNat := Call.frame_fragIdx_toNat hvalid hi
    rw [show (call.frame i).fragIdx = 0 from hidx] at htoNat
    exact Or.inr htoNat.symm

/-- No other context of the pool is open for the message, by the uniqueness of keys. -/
theorem Obtained.not_open_of_ne (h : DeviceInv look d dev)
    (hlook : look srcId d call.seqId = some call)
    (hq : Obtained dev.transport.rxPool now (call.frame i).fragment (some srcId) i₀ b q) {j : ℕ}
    (hj : j ≠ i₀) : ¬ Open q j srcId call.seqId := by
  rintro ⟨c, hjc, hc, hsrc, hseq⟩
  -- what it holds is a prefix of the same call, so it has the key of the fragment
  obtain ⟨call', hholds⟩ := h.receiving j c (hq.getElem?_old hj hjc hc) hc
  have hcall : call' = call := by
    have hl := hholds.look
    rw [hsrc, hseq, hlook] at hl
    exact (Option.some.inj hl).symm
  rw [hcall] at hholds
  exact h.unique.not_matches (dectKeyed h.query srcId) hq hj hjc
    ⟨hc, congrArg DectTransportExt.mk hsrc, hseq, hholds.fragTotal, hholds.totalSizeBytes⟩

/-- A context open after a fragment of `call` was stored is the one it was stored in, or was open
before. -/
theorem open_store (hq : Obtained dev.transport.rxPool now (call.frame i).fragment (some srcId) i₀
    b q) {b' : DectTransportBuffer} (hsrc : b'.ext.srcId = srcId) (hseq : b'.seqId = call.seqId)
    {j : ℕ} {s : UInt32} {sq : UInt16} (h : Open (q.store i₀ b') j s sq) :
    (j = i₀ ∧ s = srcId ∧ sq = call.seqId) ∨ (j ≠ i₀ ∧ Open q j s sq) := by
  obtain ⟨c, hj, hc, hkey⟩ := h
  by_cases hji : j = i₀
  · subst hji
    rw [store_getElem?_self b' hq.getElem?] at hj
    obtain rfl := Option.some.inj hj
    exact Or.inl ⟨rfl, hkey.1.symm.trans hsrc, hkey.2.symm.trans hseq⟩
  · rw [store_getElem?_of_ne q i₀ b' hji] at hj
    exact Or.inr ⟨hji, c, hj, hc, hkey⟩

/-- A context other than the one obtained was open before the lookup, if it is open after it. -/
theorem Obtained.open_old
    (hq : Obtained dev.transport.rxPool now (call.frame i).fragment (some srcId) i₀ b q) {j : ℕ}
    {s : UInt32} {sq : UInt16} (hj : j ≠ i₀) (h : Open q j s sq) :
    Open dev.transport.rxPool j s sq := by
  obtain ⟨c, hjc, hc, hkey⟩ := h
  exact ⟨c, hq.getElem?_old hj hjc hc, hc, hkey⟩

/-- Losing open contexts keeps the invariant. Expiry and the completion of a message only lose
some. -/
theorem OnceInv.mono {delivered : List Delivery} (h : OnceInv p delivered)
    (hopen : ∀ j s sq, Open q j s sq → Open p j s sq) : OnceInv q delivered :=
  ⟨fun i s sq hi => h.closed i s sq (hopen i s sq hi), h.nodup⟩

/-- The message of a fragment that is given a context has not been handed up: its context was open
before, or it is a first fragment and the condition says so. -/
theorem OnceInv.not_delivered {delivered : List Delivery}
    (hinv : OnceInv dev.transport.rxPool delivered) (h : DeviceInv look d dev)
    (hvalid : call.Valid) (hi : i < call.count)
    (hfirst : i = 0 → (srcId, call.seqId) ∉ delivered.map Delivery.key)
    (hq : Obtained dev.transport.rxPool now (call.frame i).fragment (some srcId) i₀ b q) :
    (srcId, call.seqId) ∉ delivered.map Delivery.key := by
  rcases hq.open_or_first h hvalid hi with hopen | hzero
  · exact hinv.closed _ _ _ hopen
  · exact hfirst hzero

/-- A fragment of `call` is written to the context it was given, so that one may be open
afterwards. -/
theorem OnceInv.store {delivered : List Delivery} (hinv : OnceInv dev.transport.rxPool delivered)
    (hnew : (srcId, call.seqId) ∉ delivered.map Delivery.key)
    (hq : Obtained dev.transport.rxPool now (call.frame i).fragment (some srcId) i₀ b q)
    {b' : DectTransportBuffer} (hsrc : b'.ext.srcId = srcId) (hseq : b'.seqId = call.seqId) :
    OnceInv (q.store i₀ b') delivered := by
  refine ⟨fun j s sq hj => ?_, hinv.nodup⟩
  rcases open_store hq hsrc hseq hj with ⟨-, rfl, rfl⟩ | ⟨hji, hjq⟩
  · exact hnew
  · exact hinv.closed j s sq (hq.open_old hji hjq)

/-- **The reassembly step** of a device that does not see fragment 0 of a message it has handed
up. -/
theorem OnceInv.poolStep {delivered : List Delivery}
    (hinv : OnceInv dev.transport.rxPool delivered) (h : DeviceInv look d dev)
    (hlook : look srcId d call.seqId = some call) (hvalid : call.Valid) (hi : i < call.count)
    (hfirst : i = 0 → (srcId, call.seqId) ∉ delivered.map Delivery.key)
    (hstep : dev.PoolStep now srcId (call.frame i) q effects) :
    OnceInv q (delivered ++ deliveriesOf effects) := by
  have hmsgs : ∀ m ∈ deliveriesOf effects, m = ⟨srcId, call.seqId, call.data⟩ := fun m hm =>
    h.poolStep_deliveries hlook hvalid hi hstep hm
  -- a step that hands up nothing
  have hkeep : ∀ {i₀ b b'} {q : TransportBufferPool DectTransportExt UInt32},
      Obtained dev.transport.rxPool now (call.frame i).fragment (some srcId) i₀ b q →
      b'.ext.srcId = srcId → b'.seqId = call.seqId → OnceInv (q.store i₀ b') (delivered ++ []) := by
    intro i₀ b b' q hq hsrc hseq
    rw [List.append_nil]
    exact hinv.store (hinv.not_delivered h hvalid hi hfirst hq) hq hsrc hseq
  cases hstep with
  -- no context, and nothing is handed up
  | refused hq =>
    change OnceInv _ (delivered ++ [])
    rw [List.append_nil]
    refine hinv.mono ?_
    rintro j s sq ⟨c, hj, hc, hkey⟩
    cases hq with
    | misuse => exact ⟨c, hj, hc, hkey⟩
    | noContext => exact ⟨c, (getElem?_expire_receiving hj hc).1, hc, hkey⟩
  | rejected hq => exact hkeep hq rfl hq.seqId
  | duplicate hq => exact hkeep hq rfl hq.seqId
  | success hq => exact hkeep hq rfl hq.seqId
  | invalidFinalSize hq => exact hkeep hq rfl hq.seqId
  | @complete i₀ b b' q hq hdata hidx hlast hlen hb' =>
    have hsrc : b'.ext.srcId = srcId := by rw [hb']; rfl
    have hseq : b'.seqId = call.seqId := by rw [hb']; exact hq.seqId
    have hnew := hinv.not_delivered h hvalid hi hfirst hq
    -- the completed context is not RECEIVING, and the others are those of before
    have hne : ∀ {j s sq}, Open (handleCompleteTransaction dev.transport.transportRxCallback
        (q.store i₀ b') i₀).1 j s sq → j ≠ i₀ ∧ Open (q.store i₀ b') j s sq := by
      rintro j s sq ⟨c, hj, hc, hkey⟩
      obtain ⟨hji, hj⟩ := complete_receiving _ (store_getElem?_self b' hq.getElem?)
        (by rw [hb']) hj hc
      exact ⟨hji, c, hj, hc, hkey⟩
    have hclosed : OnceInv (handleCompleteTransaction dev.transport.transportRxCallback
        (q.store i₀ b') i₀).1 delivered :=
      (hinv.store hnew hq hsrc hseq).mono fun j s sq hj => (hne hj).2
    refine ⟨?_, ?_⟩
    · -- a context that is still open is not open for a message handed up before, nor for the new
      -- one
      intro j s sq hj hmem
      rw [List.map_append, List.mem_append] at hmem
      rcases hmem with hmem | hmem
      · exact hclosed.closed j s sq hj hmem
      · obtain ⟨m, hm, hmkey⟩ := List.mem_map.mp hmem
        rw [hmsgs m hm] at hmkey
        cases hmkey
        obtain ⟨hji, hopen⟩ := hne hj
        rcases open_store hq hsrc hseq hopen with ⟨rfl, -, -⟩ | ⟨-, hopen⟩
        · exact hji rfl
        · exact hq.not_open_of_ne h hlook hji hopen
    · -- the new message is none of those handed up before
      rw [List.map_append, List.nodup_append]
      refine ⟨hinv.nodup, ?_, ?_⟩
      · by_cases hcb : dev.transport.transportRxCallback.isSome
        · rw [if_pos hcb]
          exact List.nodup_singleton _
        · rw [if_neg hcb]
          exact List.nodup_nil
      · rintro a ha c hc rfl
        obtain ⟨m, hm, rfl⟩ := List.mem_map.mp hc
        rw [hmsgs m hm] at ha
        exact hnew ha

end Pool

/-! ### The network -/

/-- A call that draws a `seq_id` does not draw one its device used before towards the same
destination. -/
def FreshSeq (n : Net) : Action → Prop
  | .startWrite d dstId seqId data =>
    (n.device d).admits data = true →
      ∀ call ∈ (n.device d).calls, call.dstId = dstId → call.seqId ≠ seqId
  | _ => True

/-- A data frame for `d` with fragment 0 of the message of `m`. -/
def isFirstFragmentOf (d : UInt32) (frame : List UInt8) (m : Delivery) : Bool :=
  isDataFrame m.srcId d m.seqId frame
    && (DectTransportLayerDataFrame.ofBytes (linkPayload frame)).fragIdx = 0

/-- No device handles fragment 0 of a message it has handed up. -/
def NoLateFirstFragment (n : Net) : Action → Prop
  | .receive d k _ _ =>
    ∀ frame ∈ n.air[k]?, ∀ m ∈ (n.device d).delivered, isFirstFragmentOf d frame m = false
  | _ => True

instance (n : Net) (a : Action) : Decidable (FreshSeq n a) := by
  cases a <;> unfold FreshSeq <;> infer_instance

instance (n : Net) (a : Action) : Decidable (NoLateFirstFragment n a) := by
  cases a <;> unfold NoLateFirstFragment <;> infer_instance

/-- A fresh `seq_id` has no earlier call, so the network's invariant admits the call. -/
theorem FreshSeq.admits {n : Net} {a : Action} (h : FreshSeq n a) : n.Admits a := by
  cases a with
  | startWrite d dstId seqId data =>
    intro hadmits
    refine Or.inl fun call hlook => ?_
    have hkey := List.find?_some hlook
    simp only [Bool.and_eq_true, decide_eq_true_eq] at hkey
    exact absurd hkey.2 (h hadmits call (List.mem_of_find?_eq_some hlook) hkey.1)
  | _ => trivial

/-- Every device has handed up every message once, and has none of them open again. -/
def AllOnce (n : Net) : Prop :=
  ∀ d, OnceInv (n.device d).transport.rxPool (n.device d).delivered

/-- The rule for a step of one device. -/
theorem AllOnce.update {n : Net} (h : AllOnce n) {d : UInt32} {dev : Device}
    {out : List (List UInt8)} (hdev : OnceInv dev.transport.rxPool dev.delivered) :
    AllOnce (n.update d dev out) := by
  intro d'
  by_cases hd : d' = d
  · subst hd
    rw [update_device_self]
    exact hdev
  · rw [update_device_of_ne _ _ _ _ hd]
    exact h d'

/-- **One step** without late first fragments. Only a data frame adds a delivery; everything else
keeps the pool or closes contexts. -/
theorem AllOnce.step {n n' : Net} {a : Action} (h : AllOnce n) (hinv : NetInv n)
    (hfirst : NoLateFirstFragment n a) (hstep : n.step a = some n') : AllOnce n' := by
  cases Net.step_cases hstep with
  | @startWrite d => exact h.update (h d)
  | @writer d call p hp =>
    obtain ⟨-, hdelivered, hpool⟩ := writerStep_history d call (n.device d) p
    exact h.update (by rw [hdelivered, hpool]; exact h d)
  | lose => exact h
  -- a release closes a context of a message that was handed up, and opens none
  | @release d i b hi hb =>
    refine h.update ((h d).mono ?_)
    rintro j s sq ⟨c, hj, hc, hkey⟩
    exact ⟨c, (unref_receiving hi (ne_receiving_of_referenced hb) hj hc).2, hc, hkey⟩
  | @receive d now k beyond frame hk =>
    have hmem := List.mem_of_getElem? hk
    have hspec := hinv.received d now beyond hmem
    generalize ((n.device d).receive d now frame beyond).1 = dev at hspec
    generalize ((n.device d).receive d now frame beyond).2 = out at hspec
    cases hspec with
    | ignored => exact h.update (h d)
    | ack => exact h.update (h d)
    | @data link hlink srcId f hframe hlen q effects hpool =>
      obtain ⟨call, i, rfl, hlook, hi, rfl⟩ := (hinv.air frame hmem).of_data hframe hlen
      have hvalid := (hinv.sound _ _ _ _ hlook).2.2
      refine h.update ((h call.dstId).poolStep (hinv.device call.dstId) hlook hvalid hi ?_ hpool)
      -- a first fragment of a message that has been handed up is one that the condition excludes
      intro hzero hkey
      obtain ⟨m, hm, hmkey⟩ := List.mem_map.mp hkey
      have hsrc : m.srcId = srcId := congrArg Prod.fst hmkey
      have hseq : m.seqId = call.seqId := congrArg Prod.snd hmkey
      have hno := hfirst frame hk m hm
      rw [isFirstFragmentOf, hframe, hsrc, hseq, isDataFrame_frame,
        linkPayload_dectLinkLayerFrame _ _ (call.length_frame_le i),
        DectTransportLayerDataFrame.ofBytes_toBytes, hzero] at hno
      cases hno

/-- How often a device has handed up a message of `srcId` under `seqId`, with whatever data. -/
def Device.timesDelivered (dev : Device) (srcId : UInt32) (seqId : UInt16) : ℕ :=
  dev.delivered.countP fun m => m.srcId = srcId && m.seqId = seqId

/-- **At most once.** In every run without late first fragments, a device's callback has fired at
most once for a source and a `seq_id`, that is for one call. -/
theorem delivered_at_most_once
    {callback : UInt32 → Option (TransportRxCallback DectTransportExt)} {as : List Action} {n : Net}
    (h : Steps Net.step (fun n a => FreshSeq n a ∧ NoLateFirstFragment n a) (Net.init callback)
      as n) (d srcId : UInt32) (seqId : UInt16) :
    (n.device d).timesDelivered srcId seqId ≤ 1 := by
  have hboth : NetInv n ∧ AllOnce n := by
    refine h.invariant (P := fun n => NetInv n ∧ AllOnce n) ?_ ⟨.init callback, fun d => ?_⟩
    · -- both invariants go through the run together, the second needing the first
      intro s a t hs hC hstep
      exact ⟨hs.1.step hC.1.admits hstep, hs.2.step hs.1 hC.2 hstep⟩
    · have hnone : ∀ i s sq, ¬ Open ((Net.init callback).device d).transport.rxPool i s sq := by
        rintro i s sq ⟨b, hi, hb, -⟩
        rw [List.eq_of_mem_replicate (List.mem_of_getElem? hi)] at hb
        cases hb
      exact ⟨fun i s sq hi => absurd hi (hnone i s sq), List.nodup_nil⟩
  have hcount := List.nodup_iff_count_le_one.mp (hboth.2 d).nodup (srcId, seqId)
  rw [List.count_eq_countP, List.countP_map] at hcount
  refine le_trans (le_of_eq ?_) hcount
  rw [Device.timesDelivered]
  refine List.countP_congr fun m _ => ?_
  simp [Delivery.key]

/-- Device 1 writes two fragments to device 2. The ACK of fragment 0 is lost, so that the fragment
is sent and received a second time, while its context is still open. Copies of fragment 1 arrive
before and after the consumer drops its reference to the message; they are not first fragments, and
a device that has no context for them drops them. -/
def repeatedFragments : List Action :=
  [.startWrite 1 2 7 fifteenBytes, .writer 1, .writer 1, .receive 2 0 100 fun _ => 0, .lose 1,
    .writer 1, .writer 1, .writer 1, .receive 2 1 2600 fun _ => 0, .receive 1 2 2610 fun _ => 0,
    .writer 1, .writer 1, .writer 1, .receive 2 3 2620 fun _ => 0, .receive 2 3 2630 fun _ => 0,
    .receive 1 4 2640 fun _ => 0, .writer 1, .writer 1, .release 2 0, .receive 2 3 2650 fun _ => 0]

/-- The run of `repeatedFragments` meets the condition, and its message is handed up once. -/
theorem delivered_at_most_once_repeatedFragments :
    ∃ n, Steps Net.step (fun n a => FreshSeq n a ∧ NoLateFirstFragment n a)
        (Net.init oneReference) repeatedFragments n ∧
      (n.device 2).delivered = [⟨1, 7, fifteenBytes⟩] ∧ (n.device 2).timesDelivered 1 7 ≤ 1 := by
  have hrun : (checkRun Net.step (fun n a => FreshSeq n a ∧ NoLateFirstFragment n a)
      (Net.init oneReference) repeatedFragments).map (fun n => (n.device 2).delivered)
        = some [⟨1, 7, fifteenBytes⟩] := by
    decide +kernel
  obtain ⟨n, hn, hdelivered⟩ := Option.map_eq_some_iff.mp hrun
  exact ⟨n, steps_of_checkRun hn, hdelivered,
    delivered_at_most_once (steps_of_checkRun hn) 2 1 7⟩

/-- The clock readings of a run lie within one receive timeout of its start, so no context expires
in it. -/
def WithinTimeout (as : List Action) : Prop :=
  ∀ a ∈ as, match a with
    | .receive _ _ now _ => now.toNat < dectTransportLayerRxTimeoutMs
    | _ => True

/-- The ACK of a one-byte message is lost, and its second attempt arrives after 2.5 seconds. The
message was complete with its first fragment, so nothing remembers it. -/
def lostAck : List Action :=
  [.startWrite 1 2 7 [9], .writer 1, .writer 1, .receive 2 0 100 fun _ => 0, .lose 1,
    .writer 1, .writer 1, .writer 1, .receive 2 1 2600 fun _ => 0]

/-- One call with one lost ACK: the callback fires twice. Nothing expires, and the consumer still
holds the first copy. -/
theorem lost_ack_delivers_twice :
    ¬ ∀ (callback : UInt32 → Option (TransportRxCallback DectTransportExt)) (as : List Action)
        (n : Net), Steps Net.step FreshSeq (Net.init callback) as n → WithinTimeout as →
      ∀ d srcId seqId, (n.device d).timesDelivered srcId seqId ≤ 1 := by
  intro h
  have hrun : (checkRun Net.step FreshSeq (Net.init oneReference) lostAck).map
      (fun n => (n.device 2).timesDelivered 1 7) = some 2 := by
    decide +kernel
  obtain ⟨n, hn, htimes⟩ := Option.map_eq_some_iff.mp hrun
  have hclocks : WithinTimeout lostAck := by
    intro a ha
    simp only [lostAck, List.mem_cons, List.not_mem_nil, or_false] at ha
    rcases ha with rfl | rfl | rfl | rfl | rfl | rfl | rfl | rfl | rfl <;> decide
  have hle := h _ _ n (steps_of_checkRun hn) hclocks 2 1 7
  rw [htimes] at hle
  exact absurd hle (by decide)

end DectCommunicator
