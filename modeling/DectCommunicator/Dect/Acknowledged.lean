import DectCommunicator.Dect.TransportRuns
import DectCommunicator.Utils.WriteErrors

/-!
# Acknowledged messages

`prv_handle_data_frame` acknowledges a fragment when its write returned SUCCESS, COMPLETE or
DUPLICATE. Whether a fully acknowledged message has been handed up is a property of the whole
lifetime of its context, which `Watched` records beside the transport: for every key, what has been
accepted, acknowledged and handed up since the context was last allocated.

It fails after INVALID_FINAL_SIZE. The write has counted the fragment although it rejected the
message, so the next copy is a DUPLICATE and is acknowledged (`short_message_acknowledged`). When
no fragment ends its message short of the announced size (`NotShort`), every fully acknowledged
message has been handed up with all its bytes, and only accepted fragments have been acknowledged
(`acknowledged_handedUp`).

The invariant is `LifeProgress`: a RECEIVING context has acknowledged only fragments below its
counter, and the counter is below the number of fragments.
-/

namespace DectCommunicator

open Machine

/-! ### Lifetimes -/

/-- What a RECEIVING context is looked up by: the message as far as the pool can tell it from
another. -/
structure MessageKey where
  srcId : UInt32
  seqId : UInt16
  fragTotal : UInt8
  totalSizeBytes : UInt16
deriving DecidableEq, Repr

/-- The key of a fragment from `srcId`, the source being known from the link layer. -/
def Fragment.key (srcId : UInt32) (f : Fragment) : MessageKey :=
  ⟨srcId, f.seqId, f.fragTotal, f.totalSizeBytes⟩

/-- The key of a context, as the first fragment of its message has set it. -/
def TransportBuffer.key (b : DectTransportBuffer) : MessageKey :=
  ⟨b.ext.srcId, b.seqId, b.fragTotal, b.totalSizeBytes⟩

/-- What has happened in one lifetime of a context: the fragments accepted, the fragments
acknowledged, and the contexts handed up. -/
structure Life where
  accepted : List UInt8
  acked : List UInt8
  handedUp : List DectTransportBuffer
deriving DecidableEq, Repr

/-- The beginning of a lifetime, with the allocation of the context. -/
def Life.new : Life := ⟨[], [], []⟩

/-- The fragment was appended: the results that say so are SUCCESS and COMPLETE. -/
def DectRxEffect.acceptedIdx (fragIdx : UInt8) : DectRxEffect → Option UInt8
  | .wrote .success => some fragIdx
  | .wrote .complete => some fragIdx
  | _ => none

/-- The fragment index in an ACK to `srcId` under `seqId`, read from the bytes that are sent. -/
def DectRxEffect.ackedIdx (srcId : UInt32) (seqId : UInt16) : DectRxEffect → Option UInt8
  | .linkWrite dstId buf =>
    let ack := DectTransportLayerDataFrameAck.ofBytes buf
    if dstId = srcId ∧ frameTypeOf buf = some .dataAck ∧ ack.seqId = seqId then some ack.fragIdx
    else none
  | _ => none

/-- The context that is handed up, as the callback gets it. -/
def DectRxEffect.handedUp : DectRxEffect → Option DectTransportBuffer
  | .transportRx b => some b
  | _ => none

/-- The lifetime after the handling of `f` from `srcId` had some effects. -/
def Life.record (l : Life) (srcId : UInt32) (f : Fragment) (effects : List DectRxEffect) :
    Life where
  accepted := l.accepted ++ effects.filterMap (DectRxEffect.acceptedIdx f.fragIdx)
  acked := l.acked ++ effects.filterMap (DectRxEffect.ackedIdx srcId f.seqId)
  handedUp := l.handedUp ++ effects.filterMap DectRxEffect.handedUp

/-- All fragments of the message have been acknowledged, and it has at least one. -/
def Life.FullyAcked (key : MessageKey) (l : Life) : Prop :=
  1 ≤ key.fragTotal ∧ ∀ k, k < key.fragTotal → k ∈ l.acked

/-- **The property.** What was acknowledged was accepted, and a fully acknowledged message was
handed up with all its bytes. A fragment is its index in the message here, whatever its bytes are:
that is all that an ACK names, and all that `transport_buffer_write` goes by when it tells a copy
from the fragment it waits for. -/
structure Life.Good (key : MessageKey) (l : Life) : Prop where
  accepted : ∀ k ∈ l.acked, k ∈ l.accepted
  handedUp : l.FullyAcked key →
    ∃ b ∈ l.handedUp, b.key = key ∧ b.data.length = key.totalSizeBytes.toNat

/-! ### The transport with its lifetimes -/

/-- No unexpired context is RECEIVING under the key of the fragment: if it is given a context at
all, a new lifetime begins. -/
def Starts (p : TransportBufferPool DectTransportExt UInt32) (now srcId : UInt32) (f : Fragment) :
    Prop :=
  ∀ c ∈ (p.expire now).contexts,
    p.isMatch f.seqId f.totalSizeBytes.toNat f.fragTotal (some srcId) c = false

instance (p : TransportBufferPool DectTransportExt UInt32) (now srcId : UInt32) (f : Fragment) :
    Decidable (Starts p now srcId f) := by
  unfold Starts
  infer_instance

/-- The transport, the current lifetime under every key, and the earlier ones. -/
structure Watched where
  transport : DectTransportLayer
  current : MessageKey → Option Life
  past : List (MessageKey × Life)

/-- The transport after initialisation: no lifetime has begun. -/
def Watched.init (callback : Option (TransportRxCallback DectTransportExt)) : Watched where
  transport := .init callback
  current _ := none
  past := []

/-- The lifetime that a fragment which is given a context belongs to: a new one, or the current one
under its key. -/
def Watched.lifeFor (w : Watched) (now srcId : UInt32) (f : Fragment) : Life :=
  if Starts w.transport.rxPool now srcId f then .new
  else (w.current (f.key srcId)).getD .new

/-- The transport after a frame with the fragment `f` was given a context, and the lifetime `l` that
the fragment belongs to. -/
def Watched.extend (w : Watched) (now srcId : UInt32) (f : Fragment)
    (transport : DectTransportLayer) (l : Life) : Watched where
  transport := transport
  current := Function.update w.current (f.key srcId) (some l)
  past :=
    if Starts w.transport.rxPool now srcId f then
      (w.current (f.key srcId)).toList.map (fun l => (f.key srcId, l)) ++ w.past
    else w.past

/-- `prv_handle_data_frame` handles a frame, or a consumer releases a message. Without an effect no
context was given. -/
def Watched.step (w : Watched) : TransportInput → Option Watched
  | .rx now srcId buf =>
    let r := prvHandleDataFrame now srcId buf w.transport
    if r.2 = [] then some { w with transport := r.1 }
    else
      let f := (DectTransportLayerDataFrame.ofBytes buf).fragment
      some (w.extend now srcId f r.1 ((w.lifeFor now srcId f).record srcId f r.2))
  | .release i =>
    some { w with transport :=
      { w.transport with rxPool := releaseReferenced w.transport.rxPool i } }

/-- The fragment is the last one of its message, and leaves it short of the announced size: in the
context it matches, or in a fresh one when it is the only fragment. -/
def EndsShort (p : TransportBufferPool DectTransportExt UInt32) (now srcId : UInt32)
    (f : Fragment) : Prop :=
  (∃ c ∈ (p.expire now).contexts,
    p.isMatch f.seqId f.totalSizeBytes.toNat f.fragTotal (some srcId) c = true ∧
      FallsShort c f.fragIdx f.payload) ∨
  (Starts p now srcId f ∧ f.payload ≠ [] ∧ f.fragIdx = 0 ∧ f.fragTotal = 1 ∧
    f.payload.length < f.totalSizeBytes.toNat)

instance (p : TransportBufferPool DectTransportExt UInt32) (now srcId : UInt32) (f : Fragment) :
    Decidable (EndsShort p now srcId f) := by
  unfold EndsShort
  infer_instance

/-- **The condition.** No fragment ends its message short. It is about the frame and the contexts it
finds; a release always meets it. -/
def NotShort (w : Watched) : TransportInput → Prop
  | .rx now srcId buf => dectTransportLayerDataFrameSizeBytes ≤ buf.length →
      ¬ EndsShort w.transport.rxPool now srcId (DectTransportLayerDataFrame.ofBytes buf).fragment
  | .release _ => True

instance (w : Watched) (x : TransportInput) : Decidable (NotShort w x) :=
  x.casesOn (motive := fun x => Decidable (NotShort w x))
    (fun now srcId buf => inferInstanceAs (Decidable (
      dectTransportLayerDataFrameSizeBytes ≤ buf.length →
        ¬ EndsShort w.transport.rxPool now srcId
          (DectTransportLayerDataFrame.ofBytes buf).fragment)))
    fun _ => .isTrue trivial

/-! ### What the effects record -/

section Record

variable (l : Life) (srcId : UInt32) (g : DectTransportLayerDataFrame)

/-- The ACK of a fragment names it. -/
theorem ackedIdx_prvWriteDataAck :
    (prvWriteDataAck srcId g).ackedIdx srcId g.seqId = some g.fragIdx := by
  unfold prvWriteDataAck DectRxEffect.ackedIdx
  dsimp only
  rw [DectTransportLayerDataFrameAck.ofBytes_toBytes]
  exact if_pos ⟨rfl, frameTypeOf_ack _, rfl⟩

/-- A rejected fragment leaves no trace in its lifetime. -/
theorem record_rejected {ret : TransportBufferWriteRet} (hsuccess : ret ≠ .success)
    (hcomplete : ret ≠ .complete) :
    l.record srcId g.fragment ([RxEffect.wrote ret].map (dectRxEffect srcId g)) = l := by
  unfold Life.record
  cases ret <;> simp_all [dectRxEffect, DectRxEffect.acceptedIdx, DectRxEffect.ackedIdx,
    DectRxEffect.handedUp, List.filterMap_cons]

/-- A duplicate is acknowledged and nothing else. -/
theorem record_duplicate :
    l.record srcId g.fragment
        ([RxEffect.wrote .duplicate, .ack].map (dectRxEffect srcId g)) =
      ⟨l.accepted, l.acked ++ [g.fragIdx], l.handedUp⟩ := by
  have hack := ackedIdx_prvWriteDataAck srcId g
  unfold Life.record
  simp only [List.map_cons, List.map_nil, dectRxEffect, List.filterMap_cons, List.filterMap_nil,
    DectTransportLayerDataFrame.fragment, hack]
  simp [DectRxEffect.acceptedIdx, DectRxEffect.ackedIdx, DectRxEffect.handedUp, prvWriteDataAck]

/-- A fragment that is appended is accepted and acknowledged. -/
theorem record_success (len : ℕ) :
    l.record srcId g.fragment
        ([RxEffect.wrote .success, .netBufAddMem len, .ack].map (dectRxEffect srcId g)) =
      ⟨l.accepted ++ [g.fragIdx], l.acked ++ [g.fragIdx], l.handedUp⟩ := by
  have hack := ackedIdx_prvWriteDataAck srcId g
  unfold Life.record
  simp only [List.map_cons, List.map_nil, dectRxEffect, List.filterMap_cons, List.filterMap_nil,
    DectTransportLayerDataFrame.fragment, hack]
  simp [DectRxEffect.acceptedIdx, DectRxEffect.ackedIdx, DectRxEffect.handedUp, prvWriteDataAck]

/-- The last fragment is accepted and acknowledged, and its message handed up. -/
theorem record_complete (len : ℕ) (b : DectTransportBuffer) :
    l.record srcId g.fragment
        ([RxEffect.wrote .complete, .netBufAddMem len, .ack, .transportRx b].map
          (dectRxEffect srcId g)) =
      ⟨l.accepted ++ [g.fragIdx], l.acked ++ [g.fragIdx], l.handedUp ++ [b]⟩ := by
  have hack := ackedIdx_prvWriteDataAck srcId g
  unfold Life.record
  simp only [List.map_cons, List.map_nil, dectRxEffect, List.filterMap_cons, List.filterMap_nil,
    DectTransportLayerDataFrame.fragment, hack]
  simp [DectRxEffect.acceptedIdx, DectRxEffect.ackedIdx, DectRxEffect.handedUp, prvWriteDataAck]

end Record

/-! ### Progress of a context -/

/-- The context has accepted every fragment below its counter, acknowledged no other one, and still
waits for the last one. A context with no fragment at all, which a frame may announce, is exempt
from the last. -/
structure LifeProgress (c : DectTransportBuffer) (l : Life) : Prop where
  accepted : ∀ k, k < c.fragIdx → k ∈ l.accepted
  acked : ∀ k ∈ l.acked, k < c.fragIdx
  unfinished : c.fragTotal ≠ 0 → c.fragIdx < c.fragTotal

/-- A context that counted nothing is at the beginning of its lifetime: there is no fragment below
0. -/
theorem LifeProgress.new {c : DectTransportBuffer} (hidx : c.fragIdx = 0) : LifeProgress c .new where
  accepted k hk := absurd (hidx ▸ hk) UInt8.not_lt_zero
  acked k hk := absurd hk List.not_mem_nil
  unfinished h := by
    rw [hidx]
    exact UInt8.pos_iff_ne_zero.mpr h

/-- While a context waits, its message is not fully acknowledged, so that half of the property holds
for want of its premise. -/
theorem LifeProgress.good {c : DectTransportBuffer} {l : Life} {key : MessageKey}
    (h : LifeProgress c l) (hkey : c.key = key) : l.Good key where
  accepted k hk := h.accepted k (h.acked k hk)
  handedUp := by
    rintro ⟨hpos, hall⟩
    have htotal : c.fragTotal = key.fragTotal := congrArg MessageKey.fragTotal hkey
    rw [← htotal] at hpos hall
    -- the fragment that the context waits for has not been acknowledged
    have hlt : c.fragIdx < c.fragTotal := h.unfinished (UInt8.pos_iff_ne_zero.mp (by
      rwa [UInt8.lt_iff_toNat_lt, ← Nat.succ_le_iff]))
    exact absurd (h.acked _ (hall _ hlt)) (UInt8.lt_irrefl _)

section Accept

variable {c : DectTransportBuffer} {l : Life} {k : UInt8}

/-- The counter does not wrap when the message is not complete. The comparison of the source is one
of eight-bit numbers, and this is what makes it one of numbers. -/
theorem LifeProgress.toNat_succ (h : LifeProgress c l) (hlast : c.fragIdx + 1 ≠ c.fragTotal) :
    (c.fragIdx + 1).toNat = c.fragIdx.toNat + 1 := by
  have hbound : c.fragIdx.toNat + 1 < 2 ^ 8 := by
    by_cases htotal : c.fragTotal = 0
    · -- a context for no fragment at all stops before the counter comes back to 0
      rw [htotal, ← UInt8.toNat_inj.ne, UInt8.toNat_add] at hlast
      have hlt := c.fragIdx.toNat_lt
      change (c.fragIdx.toNat + 1) % 2 ^ 8 ≠ 0 at hlast
      omega
    · have hlt := UInt8.lt_iff_toNat_lt.mp (h.unfinished htotal)
      exact lt_of_le_of_lt hlt c.fragTotal.toNat_lt
  rw [UInt8.toNat_add]
  exact Nat.mod_eq_of_lt hbound

/-- The fragments below the next counter are those below the counter and the one it stood at. -/
theorem LifeProgress.lt_succ_iff (h : LifeProgress c l) (hlast : c.fragIdx + 1 ≠ c.fragTotal) :
    k < c.fragIdx + 1 ↔ k < c.fragIdx ∨ k = c.fragIdx := by
  rw [UInt8.lt_iff_toNat_lt, h.toNat_succ hlast, UInt8.lt_iff_toNat_lt, ← UInt8.toNat_inj,
    Nat.lt_succ_iff_lt_or_eq]

/-- A fragment was accepted and acknowledged, and is not the last one: the counter goes up by
one. -/
theorem LifeProgress.success (h : LifeProgress c l) {c' : DectTransportBuffer}
    (hidx : c'.fragIdx = c.fragIdx + 1) (htotal : c'.fragTotal = c.fragTotal)
    (hlast : c.fragIdx + 1 ≠ c.fragTotal) (handedUp : List DectTransportBuffer) :
    LifeProgress c' ⟨l.accepted ++ [c.fragIdx], l.acked ++ [c.fragIdx], handedUp⟩ where
  accepted k hk := by
    rw [hidx, h.lt_succ_iff hlast] at hk
    rcases hk with hk | rfl
    · -- a fragment below the old counter was accepted before
      exact List.mem_append_left _ (h.accepted k hk)
    · exact List.mem_append_right _ List.mem_cons_self
  acked k hk := by
    rw [hidx, h.lt_succ_iff hlast]
    rcases List.mem_append.mp hk with hk | hk
    · exact Or.inl (h.acked k hk)
    · exact Or.inr (List.mem_singleton.mp hk)
  unfinished hne := by
    rw [htotal] at hne ⊢
    have hlt := UInt8.lt_iff_toNat_lt.mp (h.unfinished hne)
    rw [hidx, UInt8.lt_iff_toNat_lt, h.toNat_succ hlast]
    -- the new counter would be the total only if this fragment were the last
    refine Nat.lt_of_le_of_ne hlt fun heq => hlast ?_
    rw [← UInt8.toNat_inj, h.toNat_succ hlast]
    exact heq

/-- The last fragment was accepted and acknowledged, and the message handed up, so the lifetime ends
as it should. -/
theorem LifeProgress.complete (h : LifeProgress c l) {b : DectTransportBuffer} {key : MessageKey}
    (hkey : b.key = key) (hlen : b.data.length = key.totalSizeBytes.toNat) :
    Life.Good key ⟨l.accepted ++ [c.fragIdx], l.acked ++ [c.fragIdx], l.handedUp ++ [b]⟩ where
  accepted k hk := by
    rcases List.mem_append.mp hk with hk | hk
    · exact List.mem_append_left _ (h.accepted k (h.acked k hk))
    · exact List.mem_append_right _ hk
  handedUp _ := ⟨b, List.mem_append_right _ List.mem_cons_self, hkey, hlen⟩

end Accept

/-! ### One frame -/

/-- The invariant: every lifetime so far is as it should be, and every context that is RECEIVING
has made the progress that its current lifetime records. -/
structure WatchInv (callback : TransportRxCallback DectTransportExt) (w : Watched) : Prop where
  pool : PoolInv w.transport.rxPool
  unique : KeyUnique w.transport.rxPool
  query : w.transport.rxPool.additionalQueryCb = some prvAdditionalQueryMatches
  callback : w.transport.transportRxCallback = some callback
  receiving : ReceivingAll (fun c => ∃ l, w.current c.key = some l ∧ LifeProgress c l)
    w.transport.rxPool
  current : ∀ key l, w.current key = some l → l.Good key
  past : ∀ key l, (key, l) ∈ w.past → l.Good key

/-- Nothing is RECEIVING after initialisation, and no lifetime is recorded. -/
theorem WatchInv.init (callback : TransportRxCallback DectTransportExt) :
    WatchInv callback (.init (some callback)) where
  pool := .init _ _ _ _ _
  unique := .init _ _ _ _ _
  query := rfl
  callback := rfl
  receiving i b hi hb := by
    rw [List.eq_of_mem_replicate (List.mem_of_getElem? hi)] at hb
    cases hb
  current key l hl := by cases hl
  past key l hl := absurd hl List.not_mem_nil

/-- The contexts with the key of a fragment are the ones that match it. This is the one
direction. -/
theorem Matches.key_eq {srcId : UInt32} {f : Fragment} {c : DectTransportBuffer}
    (h : Matches ⟨srcId⟩ f c) : c.key = f.key srcId := by
  unfold TransportBuffer.key Fragment.key
  rw [h.ext, h.seqId, h.fragTotal, h.totalSizeBytes]

/-- And this is the other, for a RECEIVING context. -/
theorem matches_of_key_eq {srcId : UInt32} {f : Fragment} {c : DectTransportBuffer}
    (hst : c.state = .receiving) (h : c.key = f.key srcId) : Matches ⟨srcId⟩ f c := by
  unfold TransportBuffer.key Fragment.key at h
  injection h with hsrc hseq htotal hsize
  exact ⟨hst, congrArg DectTransportExt.mk hsrc, hseq, htotal, hsize⟩

section Frame

variable {callback : TransportRxCallback DectTransportExt} {w : Watched} {now srcId : UInt32}
  {f : Fragment} {i : ℕ} {b : DectTransportBuffer}
  {q : TransportBufferPool DectTransportExt UInt32}

/-- The lifetime under the key of the fragment is the one given. -/
theorem extend_current_self (transport : DectTransportLayer) (l : Life) :
    (w.extend now srcId f transport l).current (f.key srcId) = some l :=
  Function.update_self _ _ _

/-- The lifetimes under other keys stay. -/
theorem extend_current_of_ne (transport : DectTransportLayer) (now : UInt32) (l : Life)
    {key : MessageKey} (hkey : key ≠ f.key srcId) :
    (w.extend now srcId f transport l).current key = w.current key :=
  Function.update_of_ne hkey _ _

/-- A lifetime that is past was current before, or past already. -/
theorem mem_extend_past {transport : DectTransportLayer} {l l' : Life} {key : MessageKey}
    (h : (key, l') ∈ (w.extend now srcId f transport l).past) :
    w.current key = some l' ∨ (key, l') ∈ w.past := by
  unfold Watched.extend at h
  dsimp only at h
  split at h
  · rcases List.mem_append.mp h with h | h
    · obtain ⟨l₀, hl₀, heq⟩ := List.mem_map.mp h
      injection heq with hkey hlife
      rw [← hkey, ← hlife]
      exact Or.inl (Option.mem_toList.mp hl₀)
    · exact Or.inr h
  · exact Or.inr h

/-- The context that a fragment is given has made the progress of the lifetime the fragment belongs
to. -/
theorem WatchInv.progress (h : WatchInv callback w)
    (hq : Obtained w.transport.rxPool now f (some srcId) i b q) :
    LifeProgress b (w.lifeFor now srcId f) := by
  have hkey := dectKeyed h.query srcId
  unfold Watched.lifeFor
  cases hq with
  | found hi hmatch =>
    -- a match: the fragment does not start a lifetime, and its context is in the invariant
    rw [if_neg fun hstarts => by
      rw [hstarts b (List.mem_of_getElem? hi)] at hmatch
      cases hmatch]
    have hm := (isMatch_iff_matches hkey).mp hmatch
    obtain ⟨hold, -⟩ := getElem?_expire_receiving hi hm.receiving
    obtain ⟨l, hl, hprogress⟩ := h.receiving i b hold hm.receiving
    rw [← hm.key_eq, hl]
    exact hprogress
  | fresh _ hnone =>
    have hstarts : Starts w.transport.rxPool now srcId f := hnone
    rw [if_pos hstarts]
    exact .new rfl

/-- **The rule for a frame that is given a context.** Only the context it is given can make
progress, and only the lifetime under its key is extended. -/
theorem WatchInv.record (h : WatchInv callback w)
    (hq : Obtained w.transport.rxPool now f (some srcId) i b q)
    {q' : TransportBufferPool DectTransportExt UInt32} {l : Life} (hpool : PoolInv q')
    (hunique : KeyUnique q') (hquery : q'.additionalQueryCb = some prvAdditionalQueryMatches)
    (hother : ∀ j c, j ≠ i → q'.contexts[j]? = some c → c.state = .receiving →
      q.contexts[j]? = some c)
    (hown : ∀ c, q'.contexts[i]? = some c → c.state = .receiving →
      c.key = f.key srcId ∧ LifeProgress c l)
    (hgood : l.Good (f.key srcId)) :
    WatchInv callback (w.extend now srcId f { w.transport with rxPool := q' } l) where
  pool := hpool
  unique := hunique
  query := hquery
  callback := h.callback
  receiving j c hj hc := by
    by_cases hji : j = i
    · subst hji
      obtain ⟨hkey, hprogress⟩ := hown c hj hc
      rw [hkey]
      exact ⟨l, extend_current_self _ _, hprogress⟩
    · -- the other contexts have other keys
      have hjq := hother j c hji hj hc
      have hne : c.key ≠ f.key srcId := fun heq =>
        h.unique.not_matches (dectKeyed h.query srcId) hq hji hjq (matches_of_key_eq hc heq)
      obtain ⟨l', hl', hprogress⟩ := h.receiving j c (hq.getElem?_old hji hjq hc) hc
      exact ⟨l', (extend_current_of_ne _ _ _ hne).trans hl', hprogress⟩
  current key l' hl' := by
    -- the lifetime under this key is the extended one
    by_cases hkey : key = f.key srcId
    · rw [hkey, extend_current_self] at hl'
      obtain rfl := Option.some.inj hl'
      rw [hkey]
      exact hgood
    · rw [extend_current_of_ne _ _ _ hkey] at hl'
      exact h.current key l' hl'
  past key l' hl' := (mem_extend_past hl').elim (h.current key l') (h.past key l')

/-- The context is written and stays RECEIVING, under the same key, with the progress of the
extended lifetime. -/
theorem WatchInv.store (h : WatchInv callback w)
    (hq : Obtained w.transport.rxPool now f (some srcId) i b q) {b' : DectTransportBuffer}
    {l : Life} (hpool : PoolInv (q.store i b')) (hunique : KeyUnique (q.store i b'))
    (hm : Matches ⟨srcId⟩ f b') (hprogress : LifeProgress b' l) :
    WatchInv callback (w.extend now srcId f { w.transport with rxPool := q.store i b' } l) := by
  refine h.record hq hpool hunique (hq.additionalQueryCb.trans h.query) ?_ ?_
    (hprogress.good hm.key_eq)
  · intro j c hji hj _
    rwa [store_getElem?_of_ne _ _ _ hji] at hj
  · intro c hc _
    rw [store_getElem?_self _ hq.getElem?] at hc
    obtain rfl := Option.some.inj hc
    exact ⟨hm.key_eq, hprogress⟩

/-- Under the condition, no fragment that is given a context ends it short, whether the context was
matched or is fresh. -/
theorem Obtained.not_fallsShort (hq : Obtained w.transport.rxPool now f (some srcId) i b q)
    (hcond : ¬ EndsShort w.transport.rxPool now srcId f) : ¬ FallsShort b f.fragIdx f.payload := by
  intro hshort
  apply hcond
  have htotal := hq.totalSizeBytes
  cases hq with
  | found hi hmatch => exact Or.inl ⟨b, List.mem_of_getElem? hi, hmatch, hshort⟩
  | fresh hidx hnone =>
    obtain ⟨hdata, hzero, hlast, hlen⟩ := hshort
    rw [allocated_len, Nat.zero_add, htotal] at hlen
    exact Or.inr ⟨hnone, hdata, hzero, hlast.symm, hlen⟩

/-- **One frame** that is given a context. Each result of the write is a way for the lifetime to go
on. -/
theorem WatchInv.dataFrame {g : DectTransportLayerDataFrame}
    {out : List (RxEffect DectTransportExt)} (h : WatchInv callback w)
    (hcond : ¬ EndsShort w.transport.rxPool now srcId g.fragment)
    (hstep : DataFrameStep w.transport.transportRxCallback (some srcId)
      (fun ext => { ext with srcId }) now g.fragment w.transport.rxPool q out) (hout : out ≠ []) :
    WatchInv callback (w.extend now srcId g.fragment { w.transport with rxPool := q }
      ((w.lifeFor now srcId g.fragment).record srcId g.fragment
        (out.map (dectRxEffect srcId g)))) := by
  have hkey := dectKeyed h.query srcId
  rw [h.callback] at hstep
  have hpool := hstep.poolInv h.pool
  have hunique := hstep.keyUnique hkey h.unique
  have hquery := hstep.config.1.trans h.query
  cases hstep with
  | refused => exact absurd rfl hout
  | rejected hq hwhy =>
    -- nothing is acknowledged
    rw [record_rejected]
    · obtain ⟨haccepted, hacked, hunfinished⟩ := h.progress hq
      exact h.store hq hpool hunique (hq.matches hkey) ⟨haccepted, hacked, hunfinished⟩
    · rcases hwhy with ⟨rfl, -⟩ | ⟨rfl, -⟩ | ⟨rfl, -⟩ <;> exact TransportBufferWriteRet.noConfusion
    · rcases hwhy with ⟨rfl, -⟩ | ⟨rfl, -⟩ | ⟨rfl, -⟩ <;> exact TransportBufferWriteRet.noConfusion
  | duplicate hq hdata hidx =>
    -- acknowledged again: it is below the counter, so it was accepted
    rw [record_duplicate]
    obtain ⟨haccepted, hacked, hunfinished⟩ := h.progress hq
    refine h.store hq hpool hunique (hq.matches hkey) ⟨haccepted, fun k hk => ?_, hunfinished⟩
    rcases List.mem_append.mp hk with hk | hk
    · exact hacked k hk
    · rw [List.mem_singleton.mp hk]
      exact hidx
  | @success i b q hq hdata hidx hfit hlast =>
    have hm := hq.matches hkey
    have hgidx : g.fragIdx = b.fragIdx := hidx
    have hprogress := (h.progress hq).success
      (accept_fragIdx (b.mark fun ext => { ext with srcId }) now g.payload) (accept_fragTotal _ _ _)
      hlast (w.lifeFor now srcId g.fragment).handedUp
    rw [record_success, hgidx]
    exact h.store hq hpool hunique
      ⟨hm.receiving, hm.ext, hm.seqId, hm.fragTotal, hm.totalSizeBytes⟩ hprogress
  | @invalidFinalSize i b q hq hdata hidx hfit hlast hlen =>
    -- the fragment would end the message short
    have haccept : ((b.mark fun ext => { ext with srcId }).accept now g.payload).len =
        b.len + g.payload.length := accept_len now _ (hq.buffer_ne_none h.pool)
    have hshort : b.len + g.payload.length < b.totalSizeBytes.toNat := by
      rw [← haccept]
      exact Nat.lt_of_le_of_ne (haccept.trans_le hfit) hlen
    exact absurd ⟨hdata, hidx, hlast, hshort⟩ (hq.not_fallsShort hcond)
  | @complete i b b' q hq hdata hidx hlast hlen hb' =>
    have hm := hq.matches hkey
    have hgidx : g.fragIdx = b.fragIdx := hidx
    have hkey' : b'.key = g.fragment.key srcId := by
      rw [hb', ← hm.key_eq]
      rfl
    have hlen' : b'.data.length = (g.fragment.key srcId).totalSizeBytes.toNat := by
      rw [← len_eq_length_data, hb', ← hm.key_eq]
      exact hlen
    -- the context is no longer RECEIVING
    have hreceiving : ∀ j c,
        (handleCompleteTransaction (some callback) (q.store i b') i).1.contexts[j]? = some c →
        c.state = .receiving → j ≠ i ∧ (q.store i b').contexts[j]? = some c := fun j c hj hc =>
      complete_receiving (some callback) (store_getElem?_self b' hq.getElem?) (by rw [hb']) hj hc
    change WatchInv callback (w.extend now srcId g.fragment _ (Life.record _ _ _
      ([RxEffect.wrote .complete, .netBufAddMem b'.len, .ack, .transportRx b'].map _)))
    rw [record_complete, hgidx]
    refine h.record hq hpool hunique hquery ?_ ?_ ((h.progress hq).complete hkey' hlen')
    · intro j c hji hj hc
      obtain ⟨-, hj⟩ := hreceiving j c hj hc
      rwa [store_getElem?_of_ne _ _ _ hji] at hj
    · intro c hc hst
      exact absurd rfl (hreceiving i c hc hst).1

end Frame

/-! ### Runs -/

/-- **One step.** A release only ends the hold of a consumer on a message that was handed up. -/
theorem WatchInv.step {callback : TransportRxCallback DectTransportExt} {w w' : Watched}
    {x : TransportInput} (h : WatchInv callback w) (hcond : NotShort w x)
    (hstep : w.step x = some w') : WatchInv callback w' := by
  cases x with
  | rx now srcId buf =>
    unfold Watched.step prvHandleDataFrame at hstep
    dsimp only at hstep
    by_cases hlen : buf.length < dectTransportLayerDataFrameSizeBytes
    · -- a frame without a complete header
      rw [if_pos hlen] at hstep
      obtain rfl := Option.some.inj hstep
      exact h
    · rw [if_neg hlen] at hstep
      dsimp only at hstep
      -- the reassembly step; it reports nothing exactly if it was given no context
      have hframe := handleDataFrame_spec w.transport.transportRxCallback (some srcId)
        (fun ext : DectTransportExt => { ext with srcId }) now
        (DectTransportLayerDataFrame.ofBytes buf).fragment w.transport.rxPool
      split at hstep
      · next hnil =>
        -- no context was given
        obtain rfl := Option.some.inj hstep
        have hrefused := hframe.refused_of_nil (List.map_eq_nil_iff.mp hnil)
        exact
          { pool := hframe.poolInv h.pool
            unique := hframe.keyUnique (dectKeyed h.query srcId) h.unique
            query := hframe.config.1.trans h.query
            callback := h.callback
            receiving := hrefused.receivingAll h.receiving
            current := h.current
            past := h.past }
      · next hne =>
        obtain rfl := Option.some.inj hstep
        exact h.dataFrame (hcond (not_lt.mp hlen)) hframe
          fun hnil => hne (List.map_eq_nil_iff.mpr hnil)
  | release i =>
    obtain rfl := Option.some.inj hstep
    exact
      { pool := h.pool.release i
        unique := h.unique.release i
        query := (releaseReferenced_additionalQueryCb _ i).trans h.query
        callback := h.callback
        receiving := h.receiving.release i
        current := h.current
        past := h.past }

/-- **A fully acknowledged message has been handed up.** In a run in which no fragment ends its
message short, every lifetime of a context is good: only accepted fragments were acknowledged, and
the message was handed up with all its bytes if all of them were. -/
theorem acknowledged_handedUp (callback : TransportRxCallback DectTransportExt)
    (xs : List TransportInput) (w : Watched)
    (hrun : Steps Watched.step NotShort (.init (some callback)) xs w) (key : MessageKey)
    (l : Life) (hl : w.current key = some l ∨ (key, l) ∈ w.past) : l.Good key := by
  have hinv : WatchInv callback w :=
    hrun.invariant (fun s x t hs hcond hstep => hs.step hcond hstep) (.init callback)
  exact hl.elim (hinv.current key l) (hinv.past key l)

/-- A message of two bytes in two frames, the first one sent twice, as after a lost ACK. -/
def twoByteFrames : List TransportInput :=
  [.rx 0 1 (DectTransportLayerDataFrame.mk 7 2 0 2 [1]).toBytes,
    .rx 5 1 (DectTransportLayerDataFrame.mk 7 2 0 2 [1]).toBytes,
    .rx 9 1 (DectTransportLayerDataFrame.mk 7 2 1 2 [2]).toBytes]

/-- The key of that message. -/
def twoByteKey : MessageKey := ⟨1, 7, 2, 2⟩

/-- It is acknowledged and handed up, fragment 0 being acknowledged twice. -/
theorem acknowledged_handedUp_twoBytes :
    ∃ (w : Watched) (l : Life),
      Steps Watched.step NotShort (.init (some fun _ => 0)) twoByteFrames w ∧
        w.current twoByteKey = some l ∧ l.acked = [0, 0, 1] ∧ l.Good twoByteKey := by
  obtain ⟨w, hrun, l, hl, hacked⟩ : ∃ w,
      Steps Watched.step NotShort (.init (some fun _ => 0)) twoByteFrames w ∧
        ∃ l, w.current twoByteKey = some l ∧ l.acked = [0, 0, 1] :=
    ⟨_, .cons (by decide +kernel) rfl (.cons (by decide +kernel) rfl
      (.cons (by decide +kernel) rfl (.nil _))), _, rfl, rfl⟩
  exact ⟨w, l, hrun, hl, hacked, acknowledged_handedUp _ _ w hrun twoByteKey l (Or.inl hl)⟩

/-- The only frame of a message that announces two bytes and carries one, sent twice. The sender of
this firmware never makes such a frame; the receiver does not know its sender. -/
def shortFrames : List TransportInput :=
  [.rx 0 1 (DectTransportLayerDataFrame.mk 7 1 0 2 [1]).toBytes,
    .rx 5 1 (DectTransportLayerDataFrame.mk 7 1 0 2 [1]).toBytes]

/-- The first copy is rejected, and the second one acknowledged: every fragment has its ACK, and
nothing was handed up. -/
theorem short_message_acknowledged :
    ¬ ∀ (callback : TransportRxCallback DectTransportExt) (xs : List TransportInput) (w : Watched),
      Steps Watched.step (fun _ _ => True) (.init (some callback)) xs w →
      ∀ key l, w.current key = some l ∨ (key, l) ∈ w.past → l.Good key := by
  intro h
  have hgood := h (fun _ => 0) shortFrames _
    (.cons trivial rfl (.cons trivial rfl (.nil _))) ⟨1, 7, 1, 2⟩ _ (Or.inl rfl)
  exact absurd (hgood.accepted 0 (by decide +kernel)) (by decide +kernel)

end DectCommunicator
