import DectCommunicator.Lib.Chunks
import DectCommunicator.Utils.PoolKeys

/-!
# Assembling one message

What a pool does with the fragments of one message, for both transports. A `Message` carries the
size its sender cuts it to; `Message.fragment` is what the receiver reads from a frame of it.

A context that is RECEIVING the message has counted some number `i` of fragments, not necessarily
by accepting this message: an earlier message may have had the same key. What it would hold after
accepting the fragments `i`, `i + 1`, … is its bytes followed by the rest of the message, and no
step changes that (`Assembles`). So the outcome of every fragment is determined by `i` and by this
*whole* (`FragmentOutcome`), whatever the history of the context:

* a fragment below `i` is a duplicate, and one above `i` is out of order;
* fragment `i` is appended, and the last one completes the message if the whole has its size.

`Stage` follows a message whose fragments arrive in order at a pool with nothing left of another
message under its key; then the whole is the message.
-/

namespace DectCommunicator

variable {ε κ : Type}

/-! ### Messages -/

/-- A message and the size of its fragments, within the range of the fields of a frame. The bounds
are fields, so that the conversions to the widths of a frame lose nothing below. -/
structure Message where
  seqId : UInt16
  data : List UInt8
  size : ℕ
  data_pos : 0 < data.length
  size_pos : 0 < size
  length_lt : data.length < 2 ^ 16
  count_lt : Chunks.count size data.length < 2 ^ 8

/-- The number of fragments of a message, which its frames carry as `frag_total`. -/
def Message.count (m : Message) : ℕ := Chunks.count m.size m.data.length

/-- The `i`-th fragment of a message. Every one of them carries the size of the whole and the number
of fragments. -/
def Message.fragment (m : Message) (i : ℕ) : Fragment :=
  ⟨m.seqId, UInt16.ofNat m.data.length, UInt8.ofNat i, UInt8.ofNat m.count,
    Chunks.chunk m.size i m.data⟩

section Message

variable (m : Message)

/-- A message has at least one fragment, as it is not empty. -/
theorem Message.count_pos : 0 < m.count := Chunks.count_pos m.size_pos m.data_pos

theorem Message.fragTotal_toNat (i : ℕ) : (m.fragment i).fragTotal.toNat = m.count :=
  UInt8.toNat_ofNat_of_lt' m.count_lt

theorem Message.totalSizeBytes_toNat (i : ℕ) :
    (m.fragment i).totalSizeBytes.toNat = m.data.length :=
  UInt16.toNat_ofNat_of_lt' m.length_lt

/-- The index of a fragment is not truncated, up to and including the number of fragments, which is
where the counter of a complete message stands. -/
theorem Message.fragIdx_toNat {i : ℕ} (hi : i ≤ m.count) : (m.fragment i).fragIdx.toNat = i :=
  UInt8.toNat_ofNat_of_lt' (lt_of_le_of_lt hi m.count_lt)

/-- No fragment of a message is empty, so none of them is refused for that. -/
theorem Message.payload_ne_nil {i : ℕ} (hi : i < m.count) : (m.fragment i).payload ≠ [] :=
  List.ne_nil_of_length_pos (Chunks.length_chunk_pos m.size_pos hi)

end Message

/-- The fragments of a message have one key, as it does not depend on the index. -/
theorem Matches.fragment {e : ε} {m : Message} {i : ℕ} {b : TransportBuffer ε}
    (h : Matches e (m.fragment i) b) (j : ℕ) : Matches e (m.fragment j) b :=
  ⟨h.receiving, h.ext, h.seqId, h.fragTotal, h.totalSizeBytes⟩

/-! ### A context under the key of a message -/

/-- The context `b` is RECEIVING under the key of `m`, has counted `i` fragments, and would hold
`whole` after accepting the remaining ones. Nothing is said about where its bytes came from. -/
structure Assembles (e : ε) (m : Message) (whole : List UInt8) (i : ℕ) (b : TransportBuffer ε) :
    Prop where
  key : Matches e (m.fragment 0) b
  fragIdx : b.fragIdx.toNat = i
  rest : b.data ++ m.data.drop (m.size * i) = whole

/-- Every context under the key assembles something, namely what it holds followed by the rest of
the message. -/
theorem Matches.assembles {e : ε} {m : Message} {j : ℕ} {b : TransportBuffer ε}
    (h : Matches e (m.fragment j) b) :
    Assembles e m (b.data ++ m.data.drop (m.size * b.fragIdx.toNat)) b.fragIdx.toNat b :=
  ⟨h.fragment 0, rfl, rfl⟩

section Context

variable {e : ε} {m : Message} {whole : List UInt8} {i : ℕ} {b : TransportBuffer ε}

theorem Assembles.totalSizeBytes (h : Assembles e m whole i b) :
    b.totalSizeBytes.toNat = m.data.length := by
  rw [h.key.totalSizeBytes, m.totalSizeBytes_toNat]

theorem Assembles.fragTotal (h : Assembles e m whole i b) : b.fragTotal.toNat = m.count := by
  rw [h.key.fragTotal, m.fragTotal_toNat]

/-- The next fragment is part of the whole, so it fits when the whole has the announced size. -/
theorem Assembles.len_add_le (h : Assembles e m whole i b) :
    b.len + (m.fragment i).payload.length ≤ whole.length := by
  rw [← h.rest, List.length_append, len_eq_length_data,
    ← Chunks.chunk_append_drop m.size i m.data, List.length_append]
  exact Nat.add_le_add_left (Nat.le_add_right _ _) _

/-- The counter does not wrap on a fragment of the message, whose number of fragments is below
256. -/
theorem Assembles.fragIdx_succ (h : Assembles e m whole i b) (hi : i < m.count) :
    (b.fragIdx + 1).toNat = i + 1 := by
  have hlt := m.count_lt
  rw [UInt8.toNat_add, h.fragIdx]
  exact Nat.mod_eq_of_lt (lt_of_le_of_lt hi hlt)

/-- The last fragment is recognised by its index, as the counter and `frag_total` are those of the
message. -/
theorem Assembles.last_iff (h : Assembles e m whole i b) (hi : i < m.count) :
    b.fragIdx + 1 = b.fragTotal ↔ i + 1 = m.count := by
  rw [← UInt8.toNat_inj, h.fragIdx_succ hi, h.fragTotal]

/-- Accepting the next fragment keeps the whole: what moves is the border between what is held and
what is missing. -/
theorem Assembles.accept (h : Assembles e m whole i b) (hb : b.buffer ≠ none) (hi : i < m.count)
    (now : UInt32) : Assembles e m whole (i + 1) (b.accept now (m.fragment i).payload) where
  key := ⟨h.key.receiving, h.key.ext, h.key.seqId, h.key.fragTotal, h.key.totalSizeBytes⟩
  fragIdx := h.fragIdx_succ hi
  rest := by
    rw [accept_data now _ hb, List.append_assoc]
    exact (congrArg (b.data ++ ·) (Chunks.chunk_append_drop m.size i m.data)).trans h.rest

/-- After the last fragment the context holds the whole, as nothing of it is missing. -/
theorem Assembles.data_eq (h : Assembles e m whole m.count b) : b.data = whole := by
  rw [← h.rest]
  exact ((congrArg (b.data ++ ·) (Chunks.drop_count m.size_pos m.data)).trans
    (List.append_nil _)).symm

end Context

/-! ### One fragment -/

/-- Some context of the pool assembles `whole`, at fragment `i`, and last accepted one at `t`. Which
context it is does not matter, as keys are unique. -/
def Tracks (e : ε) (m : Message) (whole : List UInt8) (i : ℕ) (t : UInt32)
    (p : TransportBufferPool ε κ) : Prop :=
  ∃ (j : ℕ) (b : TransportBuffer ε),
    p.contexts[j]? = some b ∧ Assembles e m whole i b ∧ b.lastRxTimeMs = t

/-- Fragment `k` of `m`, arriving at `now`, is given a context, which assembles `whole` and has
counted `i` fragments. It may have been there before, or be allocated for the fragment. -/
structure Awaits (params : Option κ) (mark : ε → ε) (e : ε) (m : Message) (whole : List UInt8)
    (i k : ℕ) (now : UInt32) (p : TransportBufferPool ε κ) : Prop where
  obtained : ∀ {j b q}, Obtained p now (m.fragment k) params j b q →
    Assembles e m whole i (b.mark mark)
  given : ∀ {q}, ¬ Refused p now (m.fragment k) params q

/-- What becomes of fragment `k` when a context that has counted `i` fragments is waiting. The
outcome depends on `k`, `i` and the length of the whole, and on nothing else in the pool. -/
inductive FragmentOutcome (callback : Option (TransportRxCallback ε)) (e : ε) (m : Message)
    (whole : List UInt8) (i k : ℕ) (now : UInt32) (q : TransportBufferPool ε κ) :
    List (RxEffect ε) → Prop
  | duplicate {t : UInt32} (hk : k < i) (h : Tracks e m whole i t q) :
      FragmentOutcome callback e m whole i k now q [.wrote .duplicate, .ack]
  | outOfOrder {t : UInt32} (hk : i < k) (h : Tracks e m whole i t q) :
      FragmentOutcome callback e m whole i k now q [.wrote .outOfOrderFragment]
  | overrun {t : UInt32} (hk : k = i) (hlen : m.data.length < whole.length)
      (h : Tracks e m whole i t q) : FragmentOutcome callback e m whole i k now q [.wrote .overrun]
  | success {len : ℕ} (hk : k = i) (hlast : i + 1 < m.count) (hlen : len ≤ m.data.length)
      (h : Tracks e m whole (i + 1) now q) :
      FragmentOutcome callback e m whole i k now q [.wrote .success, .netBufAddMem len, .ack]
  | invalidFinalSize {len : ℕ} (hk : k = i) (hlast : i + 1 = m.count)
      (hlen : whole.length ≠ m.data.length) (h : Tracks e m whole (i + 1) now q) :
      FragmentOutcome callback e m whole i k now q [.wrote .invalidFinalSize, .netBufAddMem len]
  | complete {b : TransportBuffer ε} (hk : k = i) (hlast : i + 1 = m.count)
      (hlen : whole.length = m.data.length) (hext : b.ext = e) (hseq : b.seqId = m.seqId)
      (hdata : b.data = whole) (hgone : ∀ c ∈ q.contexts, ¬ Matches e (m.fragment 0) c) :
      FragmentOutcome callback e m whole i k now q
        ([.wrote .complete, .netBufAddMem m.data.length, .ack] ++
          if callback.isSome then [.transportRx b] else [])

section Step

variable {callback : Option (TransportRxCallback ε)} {params : Option κ} {mark : ε → ε} {e : ε}
  {m : Message} {whole : List UInt8} {i k : ℕ} {now t : UInt32} {p q : TransportBufferPool ε κ}
  {out : List (RxEffect ε)}

/-- A context that has not timed out is the one every fragment is given, whether it is waited for or
not. -/
theorem Tracks.awaits (h : Tracks e m whole i t p) (hunique : KeyUnique p)
    (hkey : Keyed p.additionalQueryCb params mark e) (hfresh : now - t < p.rxTimeoutMs) (k : ℕ) :
    Awaits params mark e m whole i k now p := by
  obtain ⟨j, b, hj, hb, rfl⟩ := h
  have hfresh := (timedOut_eq_false_iff hb.key.receiving).mpr hfresh
  have hm : Matches e (m.fragment k) b := hb.key.fragment k
  refine ⟨fun hq => ?_, fun hq => hq.not_matches hkey hj hfresh hm⟩
  obtain ⟨-, rfl⟩ := hq.eq_of_matches hunique hkey hj hm hfresh
  rw [hm.mark_eq hkey]
  exact hb

/-- Without such a context the first fragment is given a FREE one, in which nothing of an earlier
message is left, so that the whole is the message. -/
theorem awaits_of_free (hinv : PoolInv p) (hkey : Keyed p.additionalQueryCb params mark e)
    (hnone : ∀ c ∈ p.contexts, c.timedOut now p.rxTimeoutMs = false →
      ¬ Matches e (m.fragment 0) c)
    (hfree : ∃ c ∈ p.contexts, c.state = .free) : Awaits params mark e m m.data 0 0 now p := by
  obtain ⟨c, hc, hst⟩ := hfree
  refine ⟨@fun j b q hq => ?_, fun hq => ?_⟩
  · -- No unexpired context matches, so the context has just been allocated.
    rcases hq.found_or_fresh hkey with ⟨hj, hfresh, hm⟩ | ⟨-, hidx, hdata, -⟩
    · exact absurd hm (hnone b (List.mem_of_getElem? hj) hfresh)
    · refine ⟨hq.matches hkey, ?_, ?_⟩
      · rw [mark_fragIdx, hidx]
        rfl
      · rw [mark_data, hdata]
        rfl
  · exact hq.not_free hinv hkey (UInt8.toNat_inj.mp (m.fragIdx_toNat (Nat.zero_le _))) hc hst

/-- Without such a context a later fragment is refused: it is dropped, and not acknowledged. -/
theorem DataFrameStep.refused_of_unmatched
    (hstep : DataFrameStep callback params mark now (m.fragment k) p q out)
    (hkey : Keyed p.additionalQueryCb params mark e)
    (hnone : ∀ c ∈ p.contexts, c.timedOut now p.rxTimeoutMs = false →
      ¬ Matches e (m.fragment 0) c)
    (hpos : 0 < k) (hk : k < m.count) : Refused p now (m.fragment k) params q ∧ out = [] := by
  apply hstep.refused_of_not_obtained
  intro j b q' hq
  rcases hq.found_or_fresh hkey with ⟨hj, hfresh, hm⟩ | ⟨hidx, -⟩
  · exact hnone b (List.mem_of_getElem? hj) hfresh (hm.fragment 0)
  · -- only fragment 0 allocates a context
    have hzero := m.fragIdx_toNat hk.le
    rw [hidx] at hzero
    exact absurd hzero hpos.ne

/-- **One fragment.** When it is awaited, its outcome is the one that its index and the whole
determine. -/
theorem DataFrameStep.fragmentOutcome
    (hstep : DataFrameStep callback params mark now (m.fragment k) p q out)
    (h : Awaits params mark e m whole i k now p) (hinv : PoolInv p) (hunique : KeyUnique p)
    (hkey : Keyed p.additionalQueryCb params mark e) (hk : k < m.count) :
    FragmentOutcome callback e m whole i k now q out := by
  have hidx := m.fragIdx_toNat hk.le
  -- the context afterwards is the one that was written
  have hstore : ∀ {j b q i'} {b' : TransportBuffer ε},
      Obtained p now (m.fragment k) params j b q → Assembles e m whole i' b' →
      Tracks e m whole i' b'.lastRxTimeMs (q.store j b') := fun hq hb' =>
    ⟨_, _, store_getElem?_self _ hq.getElem?, hb', rfl⟩
  -- a fragment with the index of the counter is the next one
  have hnext : ∀ {j b q}, Obtained p now (m.fragment k) params j b q →
      (m.fragment k).fragIdx = b.fragIdx → k = i := by
    intro j b q hq heq
    rw [← hidx, heq, ← mark_fragIdx b mark, (h.obtained hq).fragIdx]
  cases hstep with
  | refused hq => exact absurd hq h.given
  | @rejected j b q ret hq hwhy =>
    have hb := h.obtained hq
    rcases hwhy with ⟨-, hnil⟩ | ⟨rfl, hlt⟩ | ⟨rfl, heq, hover⟩
    · exact absurd hnil (m.payload_ne_nil hk)
    · have hlt := UInt8.lt_iff_toNat_lt.mp hlt
      rw [hidx, ← mark_fragIdx b mark, hb.fragIdx] at hlt
      exact .outOfOrder hlt (hstore hq hb)
    · obtain rfl := hnext hq heq
      refine .overrun rfl ?_ (hstore hq hb)
      calc m.data.length
          = b.totalSizeBytes.toNat := hb.totalSizeBytes.symm
        _ < b.len + (m.fragment k).payload.length := hover
        _ ≤ whole.length := hb.len_add_le
  | @duplicate j b q hq _ hlt =>
    have hb := h.obtained hq
    have hlt := UInt8.lt_iff_toNat_lt.mp hlt
    rw [hidx, ← mark_fragIdx b mark, hb.fragIdx] at hlt
    exact .duplicate hlt (hstore hq hb)
  | @success j b q hq _ heq hfit hlast =>
    have hb := h.obtained hq
    obtain rfl := hnext hq heq
    have hbuf : (b.mark mark).buffer ≠ none := hq.buffer_ne_none hinv
    have hne : k + 1 ≠ m.count := fun hc => hlast ((hb.last_iff hk).mpr hc)
    refine .success rfl (lt_of_le_of_ne hk hne) ?_ (hstore hq (hb.accept hbuf hk now))
    calc ((b.mark mark).accept now (m.fragment k).payload).len
        = (b.mark mark).len + (m.fragment k).payload.length := accept_len now _ hbuf
      _ ≤ b.totalSizeBytes.toNat := hfit
      _ = m.data.length := hb.totalSizeBytes
  -- The fragment has been added to the whole, which has the wrong size.
  | @invalidFinalSize j b q hq _ heq hfit hlast hlen =>
    have hb := h.obtained hq
    obtain rfl := hnext hq heq
    have hbuf : (b.mark mark).buffer ≠ none := hq.buffer_ne_none hinv
    have hcount : k + 1 = m.count := (hb.last_iff hk).mp hlast
    have haccept := hb.accept hbuf hk now
    refine .invalidFinalSize rfl hcount ?_ (hstore hq haccept)
    rw [hcount] at haccept
    rw [← haccept.data_eq, ← len_eq_length_data, ← hb.totalSizeBytes]
    exact hlen
  | @complete j b b' q hq _ heq hlast hlen hb' =>
    have hb := h.obtained hq
    obtain rfl := hnext hq heq
    have hbuf : (b.mark mark).buffer ≠ none := hq.buffer_ne_none hinv
    have hcount : k + 1 = m.count := (hb.last_iff hk).mp hlast
    have haccept := hb.accept hbuf hk now
    rw [hcount] at haccept
    -- What is handed up are the bytes of the whole, as all fragments have been accepted.
    have hdata : b'.data = whole := by
      rw [← haccept.data_eq, hb']
      rfl
    have hsize : whole.length = m.data.length := by
      rw [← haccept.data_eq, ← len_eq_length_data, hlen]
      exact hb.totalSizeBytes
    have hlen' : b'.len = m.data.length := by rw [len_eq_length_data, hdata, hsize]
    rw [hlen']
    refine .complete rfl hcount hsize ?_ ?_ hdata fun c hc hm => ?_
    · rw [hb']
      exact hkey.mark _
    · rw [hb']
      exact hb.key.seqId
    · -- the completed context is not RECEIVING, and no other one has the key
      obtain ⟨l, hl⟩ := List.getElem?_of_mem hc
      obtain ⟨hne, hl⟩ := complete_receiving callback (store_getElem?_self b' hq.getElem?)
        (by rw [hb']) hl hm.receiving
      rw [store_getElem?_of_ne _ _ _ hne] at hl
      exact hunique.not_matches hkey hq hne hl (hm.fragment k)

/-- **A repetition** is acknowledged and leaves the timer of the context as it is. So a sender whose
ACKs are lost does not keep the context alive, which the source notes as deliberate. -/
theorem DataFrameStep.repetition
    (hstep : DataFrameStep callback params mark now (m.fragment k) p q out)
    (h : Tracks e m whole i t p) (hinv : PoolInv p) (hunique : KeyUnique p)
    (hkey : Keyed p.additionalQueryCb params mark e) (hfresh : now - t < p.rxTimeoutMs)
    (hki : k < i) (hk : k < m.count) :
    out = [.wrote .duplicate, .ack] ∧ Tracks e m whole i t q := by
  -- Of all outcomes only the one of a duplicate has an index below the counter.
  have hout : out = [.wrote .duplicate, .ack] := by
    cases hstep.fragmentOutcome (h.awaits hunique hkey hfresh k) hinv hunique hkey hk with
    | duplicate => rfl
    | outOfOrder hik => exact absurd hik hki.le.not_gt
    | overrun heq => exact absurd heq hki.ne
    | success heq => exact absurd heq hki.ne
    | invalidFinalSize heq => exact absurd heq hki.ne
    | complete heq => exact absurd heq hki.ne
  refine ⟨hout, ?_⟩
  obtain ⟨j, b, hj, hb, rfl⟩ := h
  have hm : Matches e (m.fragment k) b := hb.key.fragment k
  -- The context is the one that was found, written with what it held.
  cases hstep with
  | duplicate hq =>
    obtain ⟨rfl, rfl⟩ := hq.eq_of_matches hunique hkey hj hm
      ((timedOut_eq_false_iff hm.receiving).mpr hfresh)
    rw [hm.mark_eq hkey]
    exact ⟨_, _, store_getElem?_self _ hq.getElem?, hb, rfl⟩
  | complete => simp at hout
  | _ => cases hout

end Step

/-! ### A message that arrives in order -/

/-- A context is FREE, and the contexts under the key of `m` have accepted nothing. An open context
that is still empty does no harm. -/
structure Vacant (e : ε) (m : Message) (now : UInt32) (p : TransportBufferPool ε κ) : Prop where
  free : ∃ c ∈ p.contexts, c.state = .free
  clean : ∀ c ∈ p.contexts, c.timedOut now p.rxTimeoutMs = false → Matches e (m.fragment 0) c →
    c.fragIdx = 0 ∧ c.data = []

/-- A pool with FREE contexts only is vacant for every message. -/
theorem vacant_of_all_free {e : ε} {m : Message} {now : UInt32} {p : TransportBufferPool ε κ}
    (hne : p.contexts ≠ []) (hfree : ∀ c ∈ p.contexts, c.state = .free) : Vacant e m now p where
  free := ⟨_, List.head_mem hne, hfree _ (List.head_mem hne)⟩
  clean := by
    intro c hc _ hm
    have hst := hm.receiving
    rw [hfree c hc] at hst
    cases hst

/-- The pool before fragment `i` of `m`, when fragment `j` arrives at `clock j`. Before the first
one it is vacant, and later it tracks the message. -/
inductive Stage (e : ε) (m : Message) (clock : ℕ → UInt32) (p : TransportBufferPool ε κ) :
    ℕ → Prop
  | first (h : Vacant e m (clock 0) p) : Stage e m clock p 0
  | next {i : ℕ} (h : Tracks e m m.data (i + 1) (clock i) p) : Stage e m clock p (i + 1)

section InOrder

variable {callback : Option (TransportRxCallback ε)} {params : Option κ} {mark : ε → ε} {e : ε}
  {m : Message} {clock : ℕ → UInt32} {i : ℕ} {p q : TransportBufferPool ε κ}
  {out : List (RxEffect ε)}

/-- The first fragment of a message is awaited by a pool that is vacant for it. -/
theorem Vacant.awaits {now : UInt32} (h : Vacant e m now p) (hinv : PoolInv p)
    (hunique : KeyUnique p) (hkey : Keyed p.additionalQueryCb params mark e) :
    Awaits params mark e m m.data 0 0 now p := by
  by_cases hold : ∃ c ∈ p.contexts,
      c.timedOut now p.rxTimeoutMs = false ∧ Matches e (m.fragment 0) c
  · -- a context that has accepted nothing is as good as a fresh one
    obtain ⟨c, hc, hfresh, hm⟩ := hold
    obtain ⟨j, hj⟩ := List.getElem?_of_mem hc
    obtain ⟨hidx, hdata⟩ := h.clean c hc hfresh hm
    have hassembles := hm.assembles
    rw [hidx, hdata] at hassembles
    exact Tracks.awaits ⟨j, c, hj, hassembles, rfl⟩ hunique hkey
      ((timedOut_eq_false_iff hm.receiving).mp hfresh) 0
  · exact awaits_of_free hinv hkey (fun c hc hfresh hm => hold ⟨c, hc, hfresh, hm⟩) h.free

/-- In every stage the next fragment is awaited, unless the timeout has passed since the last one
was accepted. -/
theorem Stage.awaits (h : Stage e m clock p i) (hinv : PoolInv p) (hunique : KeyUnique p)
    (hkey : Keyed p.additionalQueryCb params mark e)
    (hgap : ∀ j, j + 1 = i → clock (j + 1) - clock j < p.rxTimeoutMs) :
    Awaits params mark e m m.data i i (clock i) p := by
  cases h with
  | first h => exact h.awaits hinv hunique hkey
  | next h => exact h.awaits hunique hkey (hgap _ rfl) _

/-- **The next fragment** is appended; the last one completes the message. -/
theorem Stage.step (h : Stage e m clock p i)
    (hstep : DataFrameStep callback params mark (clock i) (m.fragment i) p q out)
    (hinv : PoolInv p) (hunique : KeyUnique p) (hkey : Keyed p.additionalQueryCb params mark e)
    (hi : i < m.count) (hgap : ∀ j, j + 1 = i → clock (j + 1) - clock j < p.rxTimeoutMs) :
    (i + 1 < m.count ∧ Stage e m clock q (i + 1) ∧
      ∃ len ≤ m.data.length, out = [.wrote .success, .netBufAddMem len, .ack]) ∨
    (i + 1 = m.count ∧ ∃ b : TransportBuffer ε, b.ext = e ∧ b.seqId = m.seqId ∧ b.data = m.data ∧
      out = [.wrote .complete, .netBufAddMem m.data.length, .ack] ++
        if callback.isSome then [.transportRx b] else []) := by
  cases hstep.fragmentOutcome (h.awaits hinv hunique hkey hgap) hinv hunique hkey hi with
  | duplicate hk => exact absurd hk (lt_irrefl i)
  | outOfOrder hk => exact absurd hk (lt_irrefl i)
  | overrun _ hlen => exact absurd hlen (lt_irrefl _)
  | success _ hlast hlen h => exact Or.inl ⟨hlast, .next h, _, hlen, rfl⟩
  | invalidFinalSize _ _ hlen => exact absurd rfl hlen
  | complete _ hlast _ hext hseq hdata => exact Or.inr ⟨hlast, _, hext, hseq, hdata, rfl⟩

end InOrder

end DectCommunicator
