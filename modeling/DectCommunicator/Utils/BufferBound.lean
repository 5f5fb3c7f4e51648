import DectCommunicator.Ble.AlfieServiceSpec
import DectCommunicator.Dect.TransportLayer
import DectCommunicator.Utils.PoolInvariant

/-!
# Reassembly and the size of a receive buffer

`transport_buffer_write` compares the accumulated length with the announced `total_size_bytes`, and
nothing compares the announced size with the `buffer_size_bytes` of the pool. So the bytes written
to a `net_buf` are bounded by what the sender announced: `oversized_total_overflows` writes past
the 512 bytes.

The announced size is taken over from the fragment that allocates the context, which is a fragment
0. When every fragment 0 announces at most the capacity (`AnnouncesFit`), no `net_buf_add_mem` goes
past it (`netBufAddMem_le`), for both transports and any order of frames and releases.
-/

namespace DectCommunicator

open Machine

/-! ### One pool -/

section Pool

variable {ε κ : Type} {p q : TransportBufferPool ε κ}

/-- Every RECEIVING context expects at most `cap` bytes. This bounds what is written to it, since
the write compares with what the context expects. -/
def ExpectsAtMost (cap : ℕ) (p : TransportBufferPool ε κ) : Prop :=
  ReceivingAll (fun b => b.totalSizeBytes.toNat ≤ cap) p

/-- The context a fragment is given expects what the fragment announces, or what an earlier fragment
0 announced. Only the latter has to be assumed of the fragment at hand. -/
theorem Obtained.totalSizeBytes_le {cap : ℕ} {now : UInt32} {f : Fragment} {params : Option κ}
    {i : ℕ} {b : TransportBuffer ε} (hq : Obtained p now f params i b q)
    (h : ExpectsAtMost cap p) (hf : f.fragIdx = 0 → f.totalSizeBytes.toNat ≤ cap) :
    b.totalSizeBytes.toNat ≤ cap := by
  cases hq with
  | found hi hmatch =>
    have hst := (isMatch_iff.mp hmatch).1
    exact h i b (getElem?_expire_receiving hi hst).1 hst
  | fresh hidx =>
    calc (UInt16.ofNat f.totalSizeBytes.toNat).toNat
        = f.totalSizeBytes.toNat := by rw [UInt16.ofNat_toNat]
      _ ≤ cap := hf hidx

/-- **One frame** writes within the capacity, and leaves no context that expects more. -/
theorem DataFrameStep.expectsAtMost {cap : ℕ} {callback : Option (TransportRxCallback ε)}
    {params : Option κ} {mark : ε → ε} {now : UInt32} {f : Fragment} {out : List (RxEffect ε)}
    (hstep : DataFrameStep callback params mark now f p q out) (hinv : PoolInv p)
    (h : ExpectsAtMost cap p) (hf : f.fragIdx = 0 → f.totalSizeBytes.toNat ≤ cap) :
    ExpectsAtMost cap q ∧ ∀ len, .netBufAddMem len ∈ out → len ≤ cap := by
  constructor
  · exact hstep.receivingAll h (fun i b q hq => hq.totalSizeBytes_le h hf)
      fun i b q hq _ _ _ _ => hq.totalSizeBytes_le h hf
  · intro len hlen
    -- what is appended is checked against the size the context expects
    have happended : ∀ {i b q}, Obtained p now f params i b q →
        b.len + f.payload.length ≤ b.totalSizeBytes.toNat →
        ((b.mark mark).accept now f.payload).len ≤ cap := by
      intro i b q hq hfit
      have hb : b.buffer ≠ none := hq.buffer_ne_none hinv
      calc ((b.mark mark).accept now f.payload).len
          = b.len + f.payload.length := accept_len now f.payload hb
        _ ≤ b.totalSizeBytes.toNat := hfit
        _ ≤ cap := hq.totalSizeBytes_le h hf
    -- Only the three results after which the fragment has been appended report a length.
    cases hstep with
    | refused => cases hlen
    | rejected => simp at hlen
    | duplicate => simp at hlen
    | success hq _ _ hfit =>
      simp only [List.mem_cons, List.not_mem_nil, or_false, false_or, reduceCtorEq,
        RxEffect.netBufAddMem.injEq] at hlen
      rw [hlen]
      exact happended hq hfit
    | invalidFinalSize hq _ _ hfit =>
      simp only [List.mem_cons, List.not_mem_nil, or_false, false_or, reduceCtorEq,
        RxEffect.netBufAddMem.injEq] at hlen
      rw [hlen]
      exact happended hq hfit
    | @complete i b b' q hq _ _ _ hfull hb' =>
      -- the callback writes nothing, so the length is the one of the last fragment
      have hmem : len = b'.len := by
        rcases List.mem_append.mp hlen with hlen | hlen
        · simpa using hlen
        · split at hlen
          · simp at hlen
          · cases hlen
      calc len = ((b.mark mark).accept now f.payload).len := by rw [hmem, hb']; rfl
        _ = b.totalSizeBytes.toNat := hfull
        _ ≤ cap := hq.totalSizeBytes_le h hf

end Pool

/-! ### Both transports -/

/-- What reaches the two transports: a frame over DECT, a characteristic write over BLE, or the
consumer's release of the message in context `i`. Any input may come at any time. -/
inductive RxInput where
  | dect (now srcId : UInt32) (buf : List UInt8)
  | ble (now : UInt32) (buf : List UInt8)
  | releaseDect (i : ℕ)
  | releaseBle (i : ℕ)
deriving DecidableEq, Repr

/-- The two transports of a device, which share their code but not their pools. -/
structure Transports where
  dect : DectTransportLayer
  ble : AlfieBleService

/-- The length that the buffer has after a `net_buf_add_mem`, which is what has to stay below its
size. -/
def DectRxEffect.addedLen : DectRxEffect → Option ℕ
  | .netBufAddMem len => some len
  | _ => none

/-- The transports handle one input; the output is the buffer lengths reached while they do. -/
def Transports.step (st : Transports) : RxInput → Transports × List ℕ
  | .dect now srcId buf =>
    let r := prvOnDataLayerRx now srcId buf st.dect
    ({ st with dect := r.1 }, r.2.filterMap DectRxEffect.addedLen)
  | .ble now buf =>
    let r := prvOnDataWrite now buf st.ble
    ({ st with ble := r.1 }, r.2.filterMap BleRxEffect.addedLen)
  | .releaseDect i =>
    ({ st with dect := { st.dect with rxPool := releaseReferenced st.dect.rxPool i } }, [])
  | .releaseBle i =>
    ({ st with ble := { st.ble with rxPool := releaseReferenced st.ble.rxPool i } }, [])

/-- The transports after initialisation, with any callback or none. -/
def Transports.init (dectCallback : Option (TransportRxCallback DectTransportExt))
    (bleCallback : Option (TransportRxCallback Unit)) : Transports where
  dect := .init dectCallback
  ble := .init bleCallback

/-- **The condition.** A data frame with fragment 0 announces at most the 512 bytes of a buffer.
Frames that are too short to be read, and later fragments, are not constrained. -/
def AnnouncesFit : RxInput → Prop
  | .dect _ _ buf => frameTypeOf buf = some .data →
      dectTransportLayerDataFrameSizeBytes ≤ buf.length →
      (DectTransportLayerDataFrame.ofBytes buf).fragIdx = 0 →
      (DectTransportLayerDataFrame.ofBytes buf).totalSizeBytes.toNat ≤
        dectTransportLayerMaxRxBufferSizeBytes
  | .ble _ buf => bleFrameTypeOf buf = some .data →
      alfieBleServiceProtoDataFrameSizeBytes ≤ buf.length →
      (AlfieBleServiceProtoDataFrame.ofBytes buf).fragIdx = 0 →
      (AlfieBleServiceProtoDataFrame.ofBytes buf).totalSizeBytes.toNat ≤
        alfieBleServiceMaxRxBufferSizeBytes
  | _ => True

instance (x : RxInput) : Decidable (AnnouncesFit x) := by
  cases x <;> unfold AnnouncesFit <;> infer_instance

/-- The invariant of one pool: it is in order, and no context expects more than a buffer holds. -/
structure BoundInv {ε κ : Type} (cap : ℕ) (p : TransportBufferPool ε κ) : Prop where
  pool : PoolInv p
  expects : ExpectsAtMost cap p

section Run

variable {ε κ : Type} {cap : ℕ} {p : TransportBufferPool ε κ}

/-- After initialisation no context expects anything. -/
theorem BoundInv.init (numBuffers bufferSizeBytes : ℕ) (rxTimeoutMs : UInt32)
    (api : Option (TransportBuffer ε → Option κ → Bool)) (ext : ε) :
    BoundInv cap (transportBufferPoolInit numBuffers bufferSizeBytes rxTimeoutMs api ext) := by
  refine ⟨.init _ _ _ _ _, fun i b hi hb => ?_⟩
  rw [List.eq_of_mem_replicate (List.mem_of_getElem? hi)] at hb
  cases hb

/-- A release by the consumer leaves the RECEIVING contexts alone. -/
theorem BoundInv.release (h : BoundInv cap p) (i : ℕ) : BoundInv cap (releaseReferenced p i) :=
  ⟨h.pool.release i, h.expects.release i⟩

/-- The reassembly step under the condition, for either transport. -/
theorem BoundInv.handleDataFrame (h : BoundInv cap p) (callback : Option (TransportRxCallback ε))
    (params : Option κ) (mark : ε → ε) (now : UInt32) (f : Fragment)
    (hf : f.fragIdx = 0 → f.totalSizeBytes.toNat ≤ cap) :
    BoundInv cap (handleDataFrame callback params mark now f p).1 ∧
      ∀ len, .netBufAddMem len ∈ (handleDataFrame callback params mark now f p).2 → len ≤ cap := by
  have hspec := handleDataFrame_spec callback params mark now f p
  obtain ⟨hexpects, hlen⟩ := hspec.expectsAtMost h.pool h.expects hf
  exact ⟨⟨hspec.poolInv h.pool, hexpects⟩, hlen⟩

end Run

/-- Both pools are within their capacity, which is the same number for both. -/
def Transports.Bounded (st : Transports) : Prop :=
  BoundInv dectTransportLayerMaxRxBufferSizeBytes st.dect.rxPool ∧
    BoundInv alfieBleServiceMaxRxBufferSizeBytes st.ble.rxPool

/-- The lengths among the effects of the reassembly step, as a transport wraps them. -/
theorem addedLen_of_map {ε X : Type} {wrap : RxEffect ε → X} {added : X → Option ℕ}
    {out : List (RxEffect ε)} {P : ℕ → Prop} (hwrap : ∀ e, added (wrap e) = e.addedLen)
    (h : ∀ len, .netBufAddMem len ∈ out → P len) :
    ∀ len ∈ (out.map wrap).filterMap added, P len := by
  intro len hlen
  obtain ⟨x, hx, hadded⟩ := List.mem_filterMap.mp hlen
  obtain ⟨e, he, rfl⟩ := List.mem_map.mp hx
  rw [hwrap] at hadded
  cases e with
  | netBufAddMem len' =>
    obtain rfl := Option.some.inj hadded
    exact h _ he
  | _ => cases hadded

/-- A frame over DECT keeps its pool within the capacity, and every length it reaches is. -/
theorem bounded_prvOnDataLayerRx {now srcId : UInt32} {buf : List UInt8} {st : DectTransportLayer}
    (h : BoundInv dectTransportLayerMaxRxBufferSizeBytes st.rxPool)
    (hfit : AnnouncesFit (.dect now srcId buf)) :
    BoundInv dectTransportLayerMaxRxBufferSizeBytes (prvOnDataLayerRx now srcId buf st).1.rxPool ∧
      ∀ len ∈ (prvOnDataLayerRx now srcId buf st).2.filterMap DectRxEffect.addedLen,
        len ≤ dectTransportLayerMaxRxBufferSizeBytes := by
  unfold prvOnDataLayerRx
  -- A frame that is no data frame, or too short for one, does not reach the pool.
  split
  · exact ⟨h, fun _ hlen => absurd hlen List.not_mem_nil⟩
  split
  · next htype =>
    unfold prvHandleDataFrame
    split
    · exact ⟨h, fun _ hlen => absurd hlen List.not_mem_nil⟩
    · next hsize =>
      obtain ⟨hpool, hlens⟩ := h.handleDataFrame st.transportRxCallback (some srcId)
        (fun ext => { ext with srcId }) now (DectTransportLayerDataFrame.ofBytes buf).fragment
        (hfit htype (not_lt.mp hsize))
      exact ⟨hpool, addedLen_of_map (fun e => by cases e <;> rfl) hlens⟩
  · exact ⟨h, fun _ hlen => absurd hlen List.not_mem_nil⟩
  · exact ⟨h, fun _ hlen => absurd hlen List.not_mem_nil⟩

/-- A characteristic write over BLE does the same for the pool of the service. -/
theorem bounded_prvOnDataWrite {now : UInt32} {buf : List UInt8} {st : AlfieBleService}
    (h : BoundInv alfieBleServiceMaxRxBufferSizeBytes st.rxPool)
    (hfit : AnnouncesFit (.ble now buf)) :
    BoundInv alfieBleServiceMaxRxBufferSizeBytes (prvOnDataWrite now buf st).1.rxPool ∧
      ∀ len ∈ (prvOnDataWrite now buf st).2.filterMap BleRxEffect.addedLen,
        len ≤ alfieBleServiceMaxRxBufferSizeBytes := by
  unfold prvOnDataWrite
  -- As above, but an ACK is looked at only when it is long enough.
  split
  · exact ⟨h, fun _ hlen => absurd hlen List.not_mem_nil⟩
  split
  · next htype =>
    unfold prvHandleIncomingDataFrame
    split
    · exact ⟨h, fun _ hlen => absurd hlen List.not_mem_nil⟩
    · next hsize =>
      obtain ⟨hpool, hlens⟩ := h.handleDataFrame st.transportRxCallback none id now
        (AlfieBleServiceProtoDataFrame.ofBytes buf).fragment (hfit htype (not_lt.mp hsize))
      exact ⟨hpool, addedLen_of_map (fun e => by cases e <;> rfl) hlens⟩
  · unfold prvHandleIncomingDataAck
    split <;> exact ⟨h, fun _ hlen => absurd hlen List.not_mem_nil⟩
  · exact ⟨h, fun _ hlen => absurd hlen List.not_mem_nil⟩

/-- **One input** under the condition. Each input concerns one of the two pools and leaves the other
alone. -/
theorem Transports.Bounded.step {st : Transports} {x : RxInput} (h : st.Bounded)
    (hfit : AnnouncesFit x) :
    (st.step x).1.Bounded ∧ ∀ len ∈ (st.step x).2, len ≤ dectTransportLayerMaxRxBufferSizeBytes := by
  cases x with
  | dect now srcId buf =>
    obtain ⟨hpool, hlens⟩ := bounded_prvOnDataLayerRx h.1 hfit
    exact ⟨⟨hpool, h.2⟩, hlens⟩
  | ble now buf =>
    obtain ⟨hpool, hlens⟩ := bounded_prvOnDataWrite h.2 hfit
    exact ⟨⟨h.1, hpool⟩, hlens⟩
  | releaseDect i => exact ⟨⟨h.1.release i, h.2⟩, fun _ hlen => absurd hlen List.not_mem_nil⟩
  | releaseBle i => exact ⟨⟨h.1, h.2.release i⟩, fun _ hlen => absurd hlen List.not_mem_nil⟩

/-- **No buffer is overrun.** For every sequence of inputs in which every fragment 0 announces at
most 512 bytes, every `net_buf_add_mem` of either transport leaves at most 512 bytes in the
buffer. -/
theorem netBufAddMem_le (dectCallback : Option (TransportRxCallback DectTransportExt))
    (bleCallback : Option (TransportRxCallback Unit)) (xs : List RxInput)
    (hfit : ∀ x ∈ xs, AnnouncesFit x) :
    ∀ len ∈ outputs Transports.step (Transports.init dectCallback bleCallback) xs,
      len ≤ dectTransportLayerMaxRxBufferSizeBytes :=
  outputs_forall (P := Transports.Bounded) (C := AnnouncesFit)
    (fun _ _ h hx => (h.step hx).1) (fun _ _ h hx => (h.step hx).2) hfit
    ⟨.init _ _ _ _ _, .init _ _ _ _ _⟩

/-- Three BLE fragments of 171 bytes, which are 513 together, announcing `total` bytes. -/
def threeWrites (total : UInt16) : List RxInput :=
  [0, 1, 2].map fun i => .ble 0
    (AlfieBleServiceProtoDataFrame.mk 7 total i 3 (List.replicate 171 0)).toBytes

/-- With 512 bytes announced the third fragment is not appended, and the second leaves 342. -/
theorem netBufAddMem_le_threeWrites :
    outputs Transports.step (Transports.init none none) (threeWrites 512) = [171, 342] ∧
      342 ≤ dectTransportLayerMaxRxBufferSizeBytes := by
  have hout : outputs Transports.step (Transports.init none none) (threeWrites 512)
      = [171, 342] := by
    decide +kernel
  exact ⟨hout, netBufAddMem_le none none (threeWrites 512) (by decide +kernel) 342
    (by rw [hout]; decide)⟩

/-- With 513 bytes announced the third fragment goes past the end of the buffer: nothing on the way
has compared the announced size with the capacity. -/
theorem oversized_total_overflows :
    ¬ ∀ (dectCallback : Option (TransportRxCallback DectTransportExt))
        (bleCallback : Option (TransportRxCallback Unit)) (xs : List RxInput),
      ∀ len ∈ outputs Transports.step (Transports.init dectCallback bleCallback) xs,
        len ≤ dectTransportLayerMaxRxBufferSizeBytes := by
  intro h
  have hout : outputs Transports.step (Transports.init none none) (threeWrites 513)
      = [171, 342, 513] := by
    decide +kernel
  have hle := h none none (threeWrites 513) 513 (by rw [hout]; decide)
  exact absurd hle (by decide)

end DectCommunicator
