import DectCommunicator.Utils.TransportBuffer

/-!
# What the pool operations do

One inversion per operation of `Utils/TransportBuffer.lean`, so that no later proof unfolds them.

* `Write` — the results of `transport_buffer_write`, each with the condition it is given under and
  the context it leaves (`transportBufferWrite_spec`).
* `Obtained` — the contexts `transport_buffer_pool_get` can return for a fragment: a RECEIVING one
  that matches and has not timed out, or one just allocated (`transportBufferPoolGet_spec`).
* `DataFrameStep` — the outcomes of `handleDataFrame`: no context, a fragment that was not
  appended, one that was, or a completed message (`handleDataFrame_spec`).

`DataFrameStep.receivingAll` is the rule that carries an invariant of RECEIVING contexts over a
frame: it has to hold of what is written to a context that matched, and to one just allocated.
-/

namespace DectCommunicator

variable {ε κ : Type}

/-! ### Fields of the small operations -/

section Fields

variable (b : TransportBuffer ε)

@[simp] theorem ref_state : (transportBufferRef b).state = b.state := rfl

@[simp] theorem allocated_len (id : ℕ) (seqId : UInt16) (total : ℕ) (fragTotal : UInt8)
    (now : UInt32) : (b.allocated id seqId total fragTotal now).len = 0 := rfl

/-- `buf->buffer->len` is the length of the bytes that have been received. -/
theorem len_eq_length_data : b.len = b.data.length := by
  unfold TransportBuffer.len TransportBuffer.data
  cases b.buffer <;> rfl

/-- What is added comes behind what is there, provided that the context has a buffer. -/
theorem addMem_data {b : TransportBuffer ε} (h : b.buffer ≠ none) (data : List UInt8) :
    (b.addMem data).data = b.data ++ data := by
  unfold TransportBuffer.data TransportBuffer.addMem
  cases hb : b.buffer with
  | none => exact absurd hb h
  | some nb => rfl

end Fields

section Store

variable (p : TransportBufferPool ε κ) (i : ℕ) (b : TransportBuffer ε)

@[simp] theorem store_contexts : (p.store i b).contexts = p.contexts.set i b := rfl

@[simp] theorem store_rxTimeoutMs : (p.store i b).rxTimeoutMs = p.rxTimeoutMs := rfl

@[simp] theorem store_bufferSizeBytes : (p.store i b).bufferSizeBytes = p.bufferSizeBytes := rfl

@[simp] theorem store_additionalQueryCb :
    (p.store i b).additionalQueryCb = p.additionalQueryCb := rfl

theorem store_getElem?_of_ne {j : ℕ} (hj : j ≠ i) :
    (p.store i b).contexts[j]? = p.contexts[j]? :=
  List.getElem?_set_ne hj.symm

theorem store_getElem?_self {p : TransportBufferPool ε κ} {i : ℕ} {c : TransportBuffer ε}
    (hi : p.contexts[i]? = some c) : (p.store i b).contexts[i]? = some b := by
  obtain ⟨hlt, -⟩ := List.getElem?_eq_some_iff.mp hi
  exact List.getElem?_set_self hlt

end Store

/-! ### `transport_buffer_write` -/

/-- The context after a fragment was appended and counted, which are one step:
`transport_buffer_write` returns between the two in no case. -/
def TransportBuffer.accept (b : TransportBuffer ε) (now : UInt32) (data : List UInt8) :
    TransportBuffer ε :=
  { b.addMem data with lastRxTimeMs := now, fragIdx := b.fragIdx + 1 }

/-- The results of `transport_buffer_write`, each with all the conditions it is given under. Every
result but the last three leaves the context as it was, so that a refused fragment has no effect at
all. -/
inductive Write (now : UInt32) (b : TransportBuffer ε) (fragIdx : UInt8) (data : List UInt8) :
    TransportBufferWriteRet → TransportBuffer ε → Prop
  | invalidArgs (hdata : data = []) : Write now b fragIdx data .invalidArgs b
  | outOfOrderFragment (hdata : data ≠ []) (hidx : b.fragIdx < fragIdx) :
      Write now b fragIdx data .outOfOrderFragment b
  | duplicate (hdata : data ≠ []) (hidx : fragIdx < b.fragIdx) :
      Write now b fragIdx data .duplicate b
  | overrun (hdata : data ≠ []) (hidx : fragIdx = b.fragIdx)
      (hfit : b.totalSizeBytes.toNat < b.len + data.length) : Write now b fragIdx data .overrun b
  | success (hdata : data ≠ []) (hidx : fragIdx = b.fragIdx)
      (hfit : b.len + data.length ≤ b.totalSizeBytes.toNat)
      (hlast : b.fragIdx + 1 ≠ b.fragTotal) :
      Write now b fragIdx data .success (b.accept now data)
  | invalidFinalSize (hdata : data ≠ []) (hidx : fragIdx = b.fragIdx)
      (hfit : b.len + data.length ≤ b.totalSizeBytes.toNat)
      (hlast : b.fragIdx + 1 = b.fragTotal)
      (hlen : (b.accept now data).len ≠ b.totalSizeBytes.toNat) :
      Write now b fragIdx data .invalidFinalSize (b.accept now data)
  | complete (hdata : data ≠ []) (hidx : fragIdx = b.fragIdx)
      (hlast : b.fragIdx + 1 = b.fragTotal)
      (hlen : (b.accept now data).len = b.totalSizeBytes.toNat) :
      Write now b fragIdx data .complete { b.accept now data with state := .referenced }

/-- **Inversion of `transport_buffer_write`.** Later proofs split on the result of a write instead
of unfolding the function. -/
theorem transportBufferWrite_spec (now : UInt32) (b : TransportBuffer ε) (fragIdx : UInt8)
    (data : List UInt8) :
    Write now b fragIdx data (transportBufferWrite now b fragIdx data).1
      (transportBufferWrite now b fragIdx data).2 := by
  unfold transportBufferWrite
  -- the checks in their order; past the first three the index is the counter
  split
  · next h => exact .invalidArgs (List.length_eq_zero_iff.mp h)
  next h =>
  have hdata : data ≠ [] := fun hnil => h (by rw [hnil]; rfl)
  split
  · next h1 => exact .outOfOrderFragment hdata h1
  next h1 =>
  split
  · next h2 => exact .duplicate hdata h2
  next h2 =>
  -- Neither an index of the future nor one of the past: what is left is the fragment that is waited
  -- for.
  have hidx : fragIdx = b.fragIdx := by
    apply UInt8.toNat_inj.mp
    rw [UInt8.lt_iff_toNat_lt] at h1 h2
    omega
  split
  · next h3 => exact .overrun hdata hidx h3
  next h3 =>
  -- From here on the fragment has been added, and only the result is open.
  have hfit : b.len + data.length ≤ b.totalSizeBytes.toNat := by omega
  dsimp only
  split
  · next h4 =>
    split
    · next h5 => exact .invalidFinalSize hdata hidx hfit h4 h5
    · next h5 => exact .complete hdata hidx h4 (not_not.mp h5)
  · next h4 => exact .success hdata hidx hfit h4

section Accept

variable (b : TransportBuffer ε) (now : UInt32) (data : List UInt8)

@[simp] theorem accept_state : (b.accept now data).state = b.state := rfl

@[simp] theorem accept_fragTotal : (b.accept now data).fragTotal = b.fragTotal := rfl

@[simp] theorem accept_fragIdx : (b.accept now data).fragIdx = b.fragIdx + 1 := rfl

/-- A fragment that is accepted comes behind the bytes received before. -/
theorem accept_data {b : TransportBuffer ε} (h : b.buffer ≠ none) :
    (b.accept now data).data = b.data ++ data := addMem_data h data

theorem accept_len {b : TransportBuffer ε} (h : b.buffer ≠ none) :
    (b.accept now data).len = b.len + data.length := by
  rw [len_eq_length_data, len_eq_length_data, accept_data now data h, List.length_append]

end Accept

/-- A context without a buffer keeps none, and one with a buffer keeps the same one, whatever is
written. -/
theorem Write.bufId_eq {now : UInt32} {b b' : TransportBuffer ε} {fragIdx : UInt8}
    {data : List UInt8} {ret : TransportBufferWriteRet} (h : Write now b fragIdx data ret b') :
    b'.bufId = b.bufId := by
  have haccept : (b.accept now data).bufId = b.bufId := by
    unfold TransportBuffer.bufId TransportBuffer.accept TransportBuffer.addMem
    cases b.buffer <;> rfl
  cases h with
  | success | invalidFinalSize | complete => exact haccept
  | _ => rfl

/-! ### `transport_buffer_pool_get` -/

/-- Expiry of a single context, which depends on no other context of the pool. -/
def TransportBuffer.expire (now rxTimeoutMs : UInt32) (b : TransportBuffer ε) :
    TransportBuffer ε :=
  if b.timedOut now rxTimeoutMs then b.released else b

/-- The first loop does to every context what `TransportBuffer.expire` does to one. -/
theorem expire_contexts (p : TransportBufferPool ε κ) (now : UInt32) :
    (p.expire now).contexts = p.contexts.map (TransportBuffer.expire now p.rxTimeoutMs) := rfl

/-- A context that is RECEIVING after the first loop was so before, and has not timed out. -/
theorem expire_receiving {now t : UInt32} {b : TransportBuffer ε}
    (h : (b.expire now t).state = .receiving) : b.expire now t = b ∧ b.timedOut now t = false := by
  unfold TransportBuffer.expire at h ⊢
  split at h
  · cases h
  · next hb => exact ⟨if_neg hb, by simpa using hb⟩

/-- A context that is not RECEIVING never expires. -/
theorem expire_state_of_ne {now t : UInt32} {b : TransportBuffer ε} (h : b.state ≠ .receiving) :
    b.expire now t = b := by
  unfold TransportBuffer.expire TransportBuffer.timedOut
  simp [h]

/-- An index that is RECEIVING after the first loop holds the context it held before. -/
theorem getElem?_expire_receiving {p : TransportBufferPool ε κ} {now : UInt32} {i : ℕ}
    {b : TransportBuffer ε} (hi : (p.expire now).contexts[i]? = some b)
    (hb : b.state = .receiving) :
    p.contexts[i]? = some b ∧ b.timedOut now p.rxTimeoutMs = false := by
  rw [expire_contexts, List.getElem?_map, Option.map_eq_some_iff] at hi
  obtain ⟨b₀, hb₀, rfl⟩ := hi
  obtain ⟨heq, hnot⟩ := expire_receiving hb
  rw [heq]
  exact ⟨hb₀, hnot⟩

/-- A RECEIVING context is kept for as long as its last fragment is younger than the timeout. -/
theorem timedOut_eq_false_iff {now t : UInt32} {b : TransportBuffer ε}
    (hb : b.state = .receiving) : b.timedOut now t = false ↔ now - b.lastRxTimeMs < t := by
  unfold TransportBuffer.timedOut
  rw [decide_eq_true hb, Bool.true_and, decide_eq_false_iff_not, UInt32.not_le]

/-- A context that has not timed out survives the first loop. -/
theorem getElem?_expire_of_fresh {p : TransportBufferPool ε κ} {now : UInt32} {i : ℕ}
    {b : TransportBuffer ε} (hi : p.contexts[i]? = some b)
    (hfresh : b.timedOut now p.rxTimeoutMs = false) : (p.expire now).contexts[i]? = some b := by
  rw [expire_contexts, List.getElem?_map, hi, Option.map_some, TransportBuffer.expire,
    if_neg (by rw [hfresh]; exact Bool.noConfusion)]

/-- No context of the pool has timed out, as is the case when frames come in quick succession. -/
def AllFresh (now : UInt32) (p : TransportBufferPool ε κ) : Prop :=
  ∀ b ∈ p.contexts, b.timedOut now p.rxTimeoutMs = false

/-- When no context has timed out the first loop releases nothing. -/
theorem AllFresh.expire_contexts {now : UInt32} {p : TransportBufferPool ε κ}
    (h : AllFresh now p) : (p.expire now).contexts = p.contexts := by
  refine (List.map_congr_left fun b hb => ?_).trans (List.map_id _)
  rw [h b hb]
  rfl

/-- The test of the second loop as a conjunction. A pool without a query callback asks for nothing
more than the message. -/
theorem isMatch_iff {p : TransportBufferPool ε κ} {seqId : UInt16} {total : ℕ} {fragTotal : UInt8}
    {params : Option κ} {b : TransportBuffer ε} :
    p.isMatch seqId total fragTotal params b = true ↔
      b.state = .receiving ∧ seqId = b.seqId ∧ fragTotal = b.fragTotal ∧
        total = b.totalSizeBytes.toNat ∧
        ∀ query, p.additionalQueryCb = some query → query b params = true := by
  unfold TransportBufferPool.isMatch
  cases p.additionalQueryCb <;> simp [and_assoc]

/-- `Obtained p now f params i b q`: for the fragment `f` the pool `p` returns the context `b` at
index `i`, leaving the pool `q`. It is the first context that matches, or, for a fragment with index
0 that no context matches, the first FREE one. -/
inductive Obtained (p : TransportBufferPool ε κ) (now : UInt32) (f : Fragment)
    (params : Option κ) : ℕ → TransportBuffer ε → TransportBufferPool ε κ → Prop
  | found {i : ℕ} {b : TransportBuffer ε} (hi : (p.expire now).contexts[i]? = some b)
      (hmatch : p.isMatch f.seqId f.totalSizeBytes.toNat f.fragTotal params b = true)
      (hfirst : ∀ j c, j < i → (p.expire now).contexts[j]? = some c →
        p.isMatch f.seqId f.totalSizeBytes.toNat f.fragTotal params c = false) :
      Obtained p now f params i b (p.expire now)
  | fresh {i id : ℕ} {b : TransportBuffer ε} {rest : List ℕ} (hidx : f.fragIdx = 0)
      (hnone : ∀ c ∈ (p.expire now).contexts,
        p.isMatch f.seqId f.totalSizeBytes.toNat f.fragTotal params c = false)
      (hi : (p.expire now).contexts[i]? = some b) (hfree : b.state = .free)
      (hfirst : ∀ j c, j < i → (p.expire now).contexts[j]? = some c → c.state ≠ .free)
      (hbufs : (p.expire now).freeBufs = id :: rest) :
      Obtained p now f params i
        (b.allocated id f.seqId f.totalSizeBytes.toNat f.fragTotal now)
        { (p.expire now).store i (b.allocated id f.seqId f.totalSizeBytes.toNat f.fragTotal now)
          with freeBufs := rest }

/-- Why `transport_buffer_pool_get` returns NULL. What has timed out is released nevertheless,
unless the parameters were refused. -/
inductive Refused (p : TransportBufferPool ε κ) (now : UInt32) (f : Fragment)
    (params : Option κ) : TransportBufferPool ε κ → Prop
  | misuse (hparams : params.isSome ∧ p.additionalQueryCb.isNone) : Refused p now f params p
  | noContext
      (hnone : ∀ c ∈ (p.expire now).contexts,
        p.isMatch f.seqId f.totalSizeBytes.toNat f.fragTotal params c = false)
      (hwhy : f.fragIdx ≠ 0 ∨ (∀ c ∈ (p.expire now).contexts, c.state ≠ .free)
        ∨ (p.expire now).freeBufs = []) :
      Refused p now f params (p.expire now)

/-- Modifying an element that is known is setting it. -/
theorem modify_eq_set_of_getElem? {α : Type} (g : α → α) {l : List α} {i : ℕ} {a : α}
    (h : l[i]? = some a) : l.modify i g = l.set i (g a) := by
  apply List.ext_getElem?
  intro j
  rw [List.getElem?_modify, List.getElem?_set]
  obtain ⟨hlt, -⟩ := List.getElem?_eq_some_iff.mp h
  by_cases hij : i = j
  · subst hij
    simp only [if_true, if_pos hlt, h]
    rfl
  · simp only [if_neg hij]
    exact id_map _

/-- **Inversion of `transport_buffer_pool_get`.** A context is returned for one of the two reasons
of `Obtained`, or NULL for one of those of `Refused`. -/
theorem transportBufferPoolGet_spec (p : TransportBufferPool ε κ) (now : UInt32) (f : Fragment)
    (params : Option κ) :
    (∃ i b q, transportBufferPoolGet p now f.seqId f.totalSizeBytes.toNat f.fragIdx f.fragTotal
        params = (some i, q) ∧ Obtained p now f params i b q) ∨
    (∃ q, transportBufferPoolGet p now f.seqId f.totalSizeBytes.toNat f.fragIdx f.fragTotal
        params = (none, q) ∧ Refused p now f params q) := by
  unfold transportBufferPoolGet
  split
  · next h => exact Or.inr ⟨p, rfl, .misuse h⟩
  next h =>
  dsimp only
  cases hfind : (p.expire now).contexts.findIdx?
      ((p.expire now).isMatch f.seqId f.totalSizeBytes.toNat f.fragTotal params) with
  | some i =>
    -- the second loop stops at the first match
    obtain ⟨hlt, hmatch, hfirst⟩ := List.findIdx?_eq_some_iff_getElem.mp hfind
    refine Or.inl ⟨i, _, _, rfl, .found (List.getElem?_eq_getElem hlt) hmatch ?_⟩
    intro j c hj hc
    obtain ⟨hjlt, rfl⟩ := List.getElem?_eq_some_iff.mp hc
    exact eq_false_of_ne_true (hfirst j hj)
  | none =>
    have hnone := List.findIdx?_eq_none_iff.mp hfind
    dsimp only
    split
    · next hidx => exact Or.inr ⟨_, rfl, .noContext hnone (Or.inl hidx)⟩
    next hidx =>
    cases hfree : (p.expire now).contexts.findIdx? (fun b => decide (b.state = .free)) with
    | none =>
      have hall := List.findIdx?_eq_none_iff.mp hfree
      exact Or.inr ⟨_, rfl, .noContext hnone (Or.inr (Or.inl fun c hc => by simpa using hall c hc))⟩
    | some i =>
      -- the third loop stops at the first FREE context, and allocates
      obtain ⟨hlt, hst, hfirst⟩ := List.findIdx?_eq_some_iff_getElem.mp hfree
      dsimp only
      cases hbufs : (p.expire now).freeBufs with
      -- A FREE context is of no use without a free `net_buf`.
      | nil => exact Or.inr ⟨_, rfl, .noContext hnone (Or.inr (Or.inr hbufs))⟩
      | cons id rest =>
        have hi := List.getElem?_eq_getElem hlt
        refine Or.inl ⟨i, _, _, ?_, .fresh (not_not.mp hidx) hnone hi (by simpa using hst) ?_ hbufs⟩
        · dsimp only
          rw [modify_eq_set_of_getElem? _ hi]
          rfl
        · intro j c hj hc
          obtain ⟨hjlt, rfl⟩ := List.getElem?_eq_some_iff.mp hc
          simpa using hfirst j hj

section Obtained

variable {p q : TransportBufferPool ε κ} {now : UInt32} {f : Fragment} {params : Option κ}
  {i : ℕ} {b : TransportBuffer ε}

/-- The context that was returned is the one at its index afterwards. -/
theorem Obtained.getElem? (h : Obtained p now f params i b q) : q.contexts[i]? = some b := by
  cases h with
  | found hi => exact hi
  | fresh _ _ hi =>
    obtain ⟨hlt, -⟩ := List.getElem?_eq_some_iff.mp hi
    exact List.getElem?_set_self hlt

/-- The context that was returned is RECEIVING, whether it was so before or has just been
allocated. -/
theorem Obtained.receiving (h : Obtained p now f params i b q) : b.state = .receiving := by
  cases h with
  | found _ hmatch => exact (isMatch_iff.mp hmatch).1
  | fresh => rfl

theorem Obtained.seqId (h : Obtained p now f params i b q) : b.seqId = f.seqId := by
  cases h with
  | found _ hmatch => exact (isMatch_iff.mp hmatch).2.1.symm
  | fresh => rfl

theorem Obtained.fragTotal (h : Obtained p now f params i b q) : b.fragTotal = f.fragTotal := by
  cases h with
  | found _ hmatch => exact (isMatch_iff.mp hmatch).2.2.1.symm
  | fresh => rfl

theorem Obtained.totalSizeBytes (h : Obtained p now f params i b q) :
    b.totalSizeBytes = f.totalSizeBytes := by
  cases h with
  | found _ hmatch => exact UInt16.toNat_inj.mp (isMatch_iff.mp hmatch).2.2.2.1.symm
  | fresh => exact UInt16.ofNat_toNat

theorem Obtained.rxTimeoutMs (h : Obtained p now f params i b q) :
    q.rxTimeoutMs = p.rxTimeoutMs := by
  cases h <;> rfl

theorem Obtained.bufferSizeBytes (h : Obtained p now f params i b q) :
    q.bufferSizeBytes = p.bufferSizeBytes := by
  cases h <;> rfl

theorem Obtained.additionalQueryCb (h : Obtained p now f params i b q) :
    q.additionalQueryCb = p.additionalQueryCb := by
  cases h <;> rfl

/-- Every other context of the pool left by the call is one of the expired pool: the call allocates
at most one. -/
theorem Obtained.getElem?_of_ne (h : Obtained p now f params i b q) {j : ℕ} (hj : j ≠ i) :
    q.contexts[j]? = (p.expire now).contexts[j]? := by
  cases h with
  | found => rfl
  | fresh => exact List.getElem?_set_ne hj.symm

/-- The array of contexts is static. -/
theorem Obtained.length_eq (h : Obtained p now f params i b q) :
    q.contexts.length = p.contexts.length := by
  cases h with
  | found => exact List.length_map _
  | fresh => exact List.length_set.trans (List.length_map _)

theorem Refused.length_eq (h : Refused p now f params q) :
    q.contexts.length = p.contexts.length := by
  cases h with
  | misuse => rfl
  | noContext => exact List.length_map _

end Obtained

/-! ### `transport_buffer_unref` -/

/-- The array of contexts is static: a release changes what a context is, and not where it is. -/
theorem unref_length (p : TransportBufferPool ε κ) (i : ℕ) :
    (transportBufferUnref p i).contexts.length = p.contexts.length := by
  unfold transportBufferUnref
  split
  · rfl
  · split
    · rfl
    · split <;> simp

@[simp] theorem unref_rxTimeoutMs (p : TransportBufferPool ε κ) (i : ℕ) :
    (transportBufferUnref p i).rxTimeoutMs = p.rxTimeoutMs := by
  unfold transportBufferUnref
  repeat' split
  all_goals rfl

@[simp] theorem unref_bufferSizeBytes (p : TransportBufferPool ε κ) (i : ℕ) :
    (transportBufferUnref p i).bufferSizeBytes = p.bufferSizeBytes := by
  unfold transportBufferUnref
  repeat' split
  all_goals rfl

@[simp] theorem unref_additionalQueryCb (p : TransportBufferPool ε κ) (i : ℕ) :
    (transportBufferUnref p i).additionalQueryCb = p.additionalQueryCb := by
  unfold transportBufferUnref
  repeat' split
  all_goals rfl

/-- Releasing a reference touches no other context. -/
theorem unref_getElem?_of_ne (p : TransportBufferPool ε κ) {i j : ℕ} (hj : j ≠ i) :
    (transportBufferUnref p i).contexts[j]? = p.contexts[j]? := by
  unfold transportBufferUnref
  repeat' split
  all_goals first | rfl | exact List.getElem?_set_ne hj.symm

/-- The context itself keeps its state or is released, depending on whether the reference was the
last. -/
theorem unref_getElem?_self {p : TransportBufferPool ε κ} {i : ℕ} {b : TransportBuffer ε}
    (hi : p.contexts[i]? = some b) :
    ∃ b', (transportBufferUnref p i).contexts[i]? = some b' ∧
      (b' = b.released ∨ b'.state = b.state) := by
  obtain ⟨hlt, -⟩ := List.getElem?_eq_some_iff.mp hi
  unfold transportBufferUnref
  rw [hi]
  dsimp only
  split
  · exact ⟨b, hi, Or.inr rfl⟩
  · split
    · exact ⟨_, List.getElem?_set_self hlt, Or.inl rfl⟩
    · exact ⟨_, List.getElem?_set_self hlt, Or.inr rfl⟩

/-- A context that is RECEIVING after the release of one that was not, was so before. Hence a
release never disturbs a message that is being received. -/
theorem unref_receiving {p : TransportBufferPool ε κ} {i j : ℕ} {b c : TransportBuffer ε}
    (hi : p.contexts[i]? = some b) (hb : b.state ≠ .receiving)
    (hj : (transportBufferUnref p i).contexts[j]? = some c) (hc : c.state = .receiving) :
    j ≠ i ∧ p.contexts[j]? = some c := by
  by_cases hji : j = i
  · subst hji
    obtain ⟨b', hb', hcase⟩ := unref_getElem?_self hi
    rw [hb'] at hj
    obtain rfl := Option.some.inj hj
    -- The context that was released is FREE now or has kept a state that is not RECEIVING.
    rcases hcase with rfl | hst
    · cases hc
    · exact absurd (hst ▸ hc) hb
  · rw [unref_getElem?_of_ne p hji] at hj
    exact ⟨hji, hj⟩

theorem ne_receiving_of_referenced {b : TransportBuffer ε} (hb : b.state = .referenced) :
    b.state ≠ .receiving := by
  rw [hb]
  exact TransportBufferState.noConfusion

/-- A release drops a reference of a message that has been handed up, or does nothing. -/
theorem releaseReferenced_cases (p : TransportBufferPool ε κ) (i : ℕ) :
    releaseReferenced p i = p ∨
      ∃ b, p.contexts[i]? = some b ∧ b.state = .referenced ∧
        releaseReferenced p i = transportBufferUnref p i := by
  unfold releaseReferenced
  split
  · next b hi =>
    split
    · next hb => exact Or.inr ⟨b, hi, hb, rfl⟩
    · exact Or.inl rfl
  · exact Or.inl rfl

theorem releaseReferenced_additionalQueryCb (p : TransportBufferPool ε κ) (i : ℕ) :
    (releaseReferenced p i).additionalQueryCb = p.additionalQueryCb := by
  rcases releaseReferenced_cases p i with heq | ⟨b, -, -, heq⟩
  · rw [heq]
  · rw [heq, unref_additionalQueryCb]

theorem releaseReferenced_rxTimeoutMs (p : TransportBufferPool ε κ) (i : ℕ) :
    (releaseReferenced p i).rxTimeoutMs = p.rxTimeoutMs := by
  rcases releaseReferenced_cases p i with heq | ⟨b, -, -, heq⟩
  · rw [heq]
  · rw [heq, unref_rxTimeoutMs]

/-- A release leaves the RECEIVING contexts as they are, and makes none. -/
theorem releaseReferenced_receiving_iff {p : TransportBufferPool ε κ} {i j : ℕ}
    {c : TransportBuffer ε} (hc : c.state = .receiving) :
    (releaseReferenced p i).contexts[j]? = some c ↔ p.contexts[j]? = some c := by
  rcases releaseReferenced_cases p i with heq | ⟨b, hi, hb, heq⟩
  · rw [heq]
  · rw [heq]
    have hne := ne_receiving_of_referenced hb
    constructor
    · exact fun hj => (unref_receiving hi hne hj hc).2
    · intro hj
      have hji : j ≠ i := by
        rintro rfl
        obtain rfl := Option.some.inj (hi.symm.trans hj)
        exact hne hc
      rwa [unref_getElem?_of_ne p hji]

/-! ### The reassembly step -/

section Mark

variable (b : TransportBuffer ε) (g : ε → ε)

@[simp] theorem mark_state : (b.mark g).state = b.state := rfl

@[simp] theorem mark_fragIdx : (b.mark g).fragIdx = b.fragIdx := rfl

@[simp] theorem mark_len : (b.mark g).len = b.len := rfl

@[simp] theorem mark_data : (b.mark g).data = b.data := rfl

end Mark

/-- What the completion of a message emits: the callback, if one is registered. -/
theorem handleCompleteTransaction_effects (callback : Option (TransportRxCallback ε))
    {p : TransportBufferPool ε κ} {i : ℕ} {b : TransportBuffer ε} (hi : p.contexts[i]? = some b) :
    (handleCompleteTransaction callback p i).2
      = if callback.isSome then [.transportRx b] else [] := by
  unfold handleCompleteTransaction
  rw [hi]
  cases callback <;> rfl

/-- However many references a consumer takes, the state of the context does not change. -/
theorem repeat_ref_state (n : ℕ) (b : TransportBuffer ε) :
    (Nat.repeat transportBufferRef n b).state = b.state := by
  induction n with
  | zero => rfl
  | succ n ih => rw [Nat.repeat, ref_state, ih]

/-- Completion touches no other context, and leaves the completed one in its state or released. It
is released when no consumer has taken a reference. -/
theorem handleCompleteTransaction_contexts (callback : Option (TransportRxCallback ε))
    {p : TransportBufferPool ε κ} {i : ℕ} {b : TransportBuffer ε} (hi : p.contexts[i]? = some b) :
    (∀ j, j ≠ i → (handleCompleteTransaction callback p i).1.contexts[j]? = p.contexts[j]?) ∧
      ∃ b', (handleCompleteTransaction callback p i).1.contexts[i]? = some b' ∧
        (b'.state = .free ∨ b'.state = b.state) := by
  unfold handleCompleteTransaction
  rw [hi]
  cases callback with
  | none =>
    refine ⟨fun j hj => unref_getElem?_of_ne p hj, ?_⟩
    obtain ⟨b', hb', hcase⟩ := unref_getElem?_self hi
    exact ⟨b', hb', hcase.imp (fun h => by rw [h]; rfl) fun h => h⟩
  | some cb =>
    -- The consumer's references come first, and the transport drops its own behind them.
    have hst := store_getElem?_self (Nat.repeat transportBufferRef (cb b) b) hi
    refine ⟨fun j hj => (unref_getElem?_of_ne _ hj).trans (store_getElem?_of_ne _ _ _ hj), ?_⟩
    obtain ⟨b', hb', hcase⟩ := unref_getElem?_self hst
    refine ⟨b', hb', hcase.imp (fun h => by rw [h]; rfl) fun h => ?_⟩
    rw [h, repeat_ref_state]

@[simp] theorem handleCompleteTransaction_rxTimeoutMs (callback : Option (TransportRxCallback ε))
    (p : TransportBufferPool ε κ) (i : ℕ) :
    (handleCompleteTransaction callback p i).1.rxTimeoutMs = p.rxTimeoutMs := by
  unfold handleCompleteTransaction
  split <;> simp

@[simp] theorem handleCompleteTransaction_bufferSizeBytes
    (callback : Option (TransportRxCallback ε)) (p : TransportBufferPool ε κ) (i : ℕ) :
    (handleCompleteTransaction callback p i).1.bufferSizeBytes = p.bufferSizeBytes := by
  unfold handleCompleteTransaction
  split <;> simp

@[simp] theorem handleCompleteTransaction_additionalQueryCb
    (callback : Option (TransportRxCallback ε)) (p : TransportBufferPool ε κ) (i : ℕ) :
    (handleCompleteTransaction callback p i).1.additionalQueryCb = p.additionalQueryCb := by
  unfold handleCompleteTransaction
  split <;> simp

/-- The outcomes of the reassembly step for the fragment `f`, with everything that it emits. A
fragment that is rejected leaves its mark on the context nevertheless, as the owner's fields are
stored before the fragment is written. -/
inductive DataFrameStep (callback : Option (TransportRxCallback ε)) (params : Option κ)
    (mark : ε → ε) (now : UInt32) (f : Fragment) (p : TransportBufferPool ε κ) :
    TransportBufferPool ε κ → List (RxEffect ε) → Prop
  | refused {q : TransportBufferPool ε κ} (h : Refused p now f params q) :
      DataFrameStep callback params mark now f p q []
  | rejected {i : ℕ} {b : TransportBuffer ε} {q : TransportBufferPool ε κ}
      {ret : TransportBufferWriteRet} (h : Obtained p now f params i b q)
      (hwhy : ret = .invalidArgs ∧ f.payload = [] ∨
        ret = .outOfOrderFragment ∧ b.fragIdx < f.fragIdx ∨
        ret = .overrun ∧ f.fragIdx = b.fragIdx ∧
          b.totalSizeBytes.toNat < b.len + f.payload.length) :
      DataFrameStep callback params mark now f p (q.store i (b.mark mark)) [.wrote ret]
  | duplicate {i : ℕ} {b : TransportBuffer ε} {q : TransportBufferPool ε κ}
      (h : Obtained p now f params i b q) (hdata : f.payload ≠ []) (hidx : f.fragIdx < b.fragIdx) :
      DataFrameStep callback params mark now f p (q.store i (b.mark mark))
        [.wrote .duplicate, .ack]
  | success {i : ℕ} {b : TransportBuffer ε} {q : TransportBufferPool ε κ}
      (h : Obtained p now f params i b q) (hdata : f.payload ≠ []) (hidx : f.fragIdx = b.fragIdx)
      (hfit : b.len + f.payload.length ≤ b.totalSizeBytes.toNat)
      (hlast : b.fragIdx + 1 ≠ b.fragTotal) :
      DataFrameStep callback params mark now f p
        (q.store i ((b.mark mark).accept now f.payload))
        [.wrote .success, .netBufAddMem ((b.mark mark).accept now f.payload).len, .ack]
  | invalidFinalSize {i : ℕ} {b : TransportBuffer ε} {q : TransportBufferPool ε κ}
      (h : Obtained p now f params i b q) (hdata : f.payload ≠ []) (hidx : f.fragIdx = b.fragIdx)
      (hfit : b.len + f.payload.length ≤ b.totalSizeBytes.toNat)
      (hlast : b.fragIdx + 1 = b.fragTotal)
      (hlen : ((b.mark mark).accept now f.payload).len ≠ b.totalSizeBytes.toNat) :
      DataFrameStep callback params mark now f p
        (q.store i ((b.mark mark).accept now f.payload))
        [.wrote .invalidFinalSize, .netBufAddMem ((b.mark mark).accept now f.payload).len]
  | complete {i : ℕ} {b b' : TransportBuffer ε} {q : TransportBufferPool ε κ}
      (h : Obtained p now f params i b q) (hdata : f.payload ≠ []) (hidx : f.fragIdx = b.fragIdx)
      (hlast : b.fragIdx + 1 = b.fragTotal)
      (hlen : ((b.mark mark).accept now f.payload).len = b.totalSizeBytes.toNat)
      (hb' : b' = { (b.mark mark).accept now f.payload with state := .referenced }) :
      DataFrameStep callback params mark now f p
        (handleCompleteTransaction callback (q.store i b') i).1
        ([.wrote .complete, .netBufAddMem b'.len, .ack] ++
          if callback.isSome then [.transportRx b'] else [])

/-- **Inversion of the reassembly step,** which both transports share. It is the composition of the
two inversions above with the completion of a message. -/
theorem handleDataFrame_spec (callback : Option (TransportRxCallback ε)) (params : Option κ)
    (mark : ε → ε) (now : UInt32) (f : Fragment) (p : TransportBufferPool ε κ) :
    DataFrameStep callback params mark now f p
      (handleDataFrame callback params mark now f p).1
      (handleDataFrame callback params mark now f p).2 := by
  unfold handleDataFrame
  rcases transportBufferPoolGet_spec p now f params with ⟨i, b, q, hget, h⟩ | ⟨q, hget, h⟩
  · rw [hget]
    dsimp only
    unfold writeFragment
    rw [h.getElem?]
    dsimp only
    have hw := transportBufferWrite_spec now (b.mark mark) f.fragIdx f.payload
    generalize transportBufferWrite now (b.mark mark) f.fragIdx f.payload = w at hw
    obtain ⟨ret, b'⟩ := w
    dsimp only at hw ⊢
    -- one result of the write after the other: only COMPLETE goes on to the callback
    cases hw with
    | invalidArgs hdata => exact .rejected h (Or.inl ⟨rfl, hdata⟩)
    | outOfOrderFragment _ hidx => exact .rejected h (Or.inr (Or.inl ⟨rfl, hidx⟩))
    | duplicate hdata hidx => exact .duplicate h hdata hidx
    | overrun _ hidx hfit => exact .rejected h (Or.inr (Or.inr ⟨rfl, hidx, hfit⟩))
    | success hdata hidx hfit hlast => exact .success h hdata hidx hfit hlast
    | invalidFinalSize hdata hidx hfit hlast hlen =>
      exact .invalidFinalSize h hdata hidx hfit hlast hlen
    | complete hdata hidx hlast hlen =>
      have hstore := store_getElem?_self
        { (b.mark mark).accept now f.payload with state := .referenced } h.getElem?
      dsimp only
      rw [handleCompleteTransaction_effects callback hstore]
      exact .complete h hdata hidx hlast hlen rfl
  · rw [hget]
    exact .refused h

/-- A fragment that obtains no context is refused, and nothing is emitted for it. -/
theorem DataFrameStep.refused_of_not_obtained {callback : Option (TransportRxCallback ε)}
    {params : Option κ} {mark : ε → ε} {now : UInt32} {f : Fragment}
    {p q : TransportBufferPool ε κ} {out : List (RxEffect ε)}
    (hstep : DataFrameStep callback params mark now f p q out)
    (hnot : ∀ {i b q}, ¬ Obtained p now f params i b q) : Refused p now f params q ∧ out = [] := by
  cases hstep with
  | refused hq => exact ⟨hq, rfl⟩
  | rejected hq => exact absurd hq hnot
  | duplicate hq => exact absurd hq hnot
  | success hq => exact absurd hq hnot
  | invalidFinalSize hq => exact absurd hq hnot
  | complete hq => exact absurd hq hnot

/-- Without an effect the fragment obtained no context, since even a rejected write is an effect. -/
theorem DataFrameStep.refused_of_nil {callback : Option (TransportRxCallback ε)}
    {params : Option κ} {mark : ε → ε} {now : UInt32} {f : Fragment}
    {p q : TransportBufferPool ε κ} {out : List (RxEffect ε)}
    (hstep : DataFrameStep callback params mark now f p q out) (hnil : out = []) :
    Refused p now f params q := by
  cases hstep with
  | refused hq => exact hq
  | _ => cases hnil

/-- A step changes neither the capacity nor the query of the pool, nor its timeout. -/
theorem DataFrameStep.config {callback : Option (TransportRxCallback ε)} {params : Option κ}
    {mark : ε → ε} {now : UInt32} {f : Fragment} {p q : TransportBufferPool ε κ}
    {out : List (RxEffect ε)} (hstep : DataFrameStep callback params mark now f p q out) :
    q.additionalQueryCb = p.additionalQueryCb ∧ q.bufferSizeBytes = p.bufferSizeBytes ∧
      q.rxTimeoutMs = p.rxTimeoutMs := by
  -- the lookup keeps the configuration, and so does storing a context
  have hstore : ∀ {i b q} (c : TransportBuffer ε), Obtained p now f params i b q →
      (q.store i c).additionalQueryCb = p.additionalQueryCb ∧
        (q.store i c).bufferSizeBytes = p.bufferSizeBytes ∧
        (q.store i c).rxTimeoutMs = p.rxTimeoutMs := fun c hq =>
    ⟨hq.additionalQueryCb, hq.bufferSizeBytes, hq.rxTimeoutMs⟩
  cases hstep with
  | refused hq => cases hq <;> exact ⟨rfl, rfl, rfl⟩
  | rejected hq => exact hstore _ hq
  | duplicate hq => exact hstore _ hq
  | success hq => exact hstore _ hq
  | invalidFinalSize hq => exact hstore _ hq
  | complete hq =>
    rw [handleCompleteTransaction_additionalQueryCb, handleCompleteTransaction_bufferSizeBytes,
      handleCompleteTransaction_rxTimeoutMs]
    exact hstore _ hq

/-! ### Invariants of the RECEIVING contexts -/

/-- A property of every RECEIVING context of a pool. What is FREE or REFERENCED is not constrained,
so that releasing a context never breaks it. -/
def ReceivingAll (R : TransportBuffer ε → Prop) (p : TransportBufferPool ε κ) : Prop :=
  ∀ (i : ℕ) (b : TransportBuffer ε), p.contexts[i]? = some b → b.state = .receiving → R b

section ReceivingAll

variable {R : TransportBuffer ε → Prop} {p q : TransportBufferPool ε κ}

/-- Expiry only takes contexts away from the RECEIVING ones. -/
theorem ReceivingAll.expire (h : ReceivingAll R p) (now : UInt32) :
    ReceivingAll R (p.expire now) :=
  fun i b hi hb => h i b (getElem?_expire_receiving hi hb).1 hb

/-- The release of a context that is not RECEIVING leaves those that are. -/
theorem ReceivingAll.unref (h : ReceivingAll R p) {i : ℕ} {b : TransportBuffer ε}
    (hi : p.contexts[i]? = some b) (hb : b.state ≠ .receiving) :
    ReceivingAll R (transportBufferUnref p i) := by
  intro j c hj hc
  exact h j c (unref_receiving hi hb hj hc).2 hc

/-- A consumer that releases its message leaves the RECEIVING contexts alone. -/
theorem ReceivingAll.release (h : ReceivingAll R p) (i : ℕ) :
    ReceivingAll R (releaseReferenced p i) :=
  fun j c hj hc => h j c ((releaseReferenced_receiving_iff hc).mp hj) hc

/-- A refused fragment at most lets contexts expire. -/
theorem Refused.receivingAll {now : UInt32} {f : Fragment} {params : Option κ}
    (hq : Refused p now f params q) (h : ReceivingAll R p) : ReceivingAll R q := by
  cases hq with
  | misuse => exact h
  | noContext => exact h.expire now

/-- The other contexts keep the property when one is obtained. -/
theorem Obtained.receivingAll_of_ne {now : UInt32} {f : Fragment} {params : Option κ} {i : ℕ}
    {b : TransportBuffer ε} (hq : Obtained p now f params i b q) (h : ReceivingAll R p) {j : ℕ}
    {c : TransportBuffer ε} (hji : j ≠ i) (hj : q.contexts[j]? = some c)
    (hc : c.state = .receiving) : R c := by
  rw [hq.getElem?_of_ne hji] at hj
  exact h.expire now j c hj hc

/-- Every RECEIVING context has the property when the one that was obtained is overwritten, provided
that what is written to it has it. -/
theorem Obtained.receivingAll_store {now : UInt32} {f : Fragment} {params : Option κ} {i : ℕ}
    {b b' : TransportBuffer ε} (hq : Obtained p now f params i b q) (h : ReceivingAll R p)
    (hb' : b'.state = .receiving → R b') : ReceivingAll R (q.store i b') := by
  intro j c hj hc
  by_cases hji : j = i
  · subst hji
    rw [store_getElem?_self b' hq.getElem?] at hj
    obtain rfl := Option.some.inj hj
    exact hb' hc
  · rw [store_getElem?_of_ne q i b' hji] at hj
    exact hq.receivingAll_of_ne h hji hj hc

/-- The completed context is no longer RECEIVING, and its completion touches no other one. -/
theorem Obtained.receivingAll_complete {callback : Option (TransportRxCallback ε)} {now : UInt32}
    {f : Fragment} {params : Option κ} {i : ℕ} {b b' : TransportBuffer ε}
    (hq : Obtained p now f params i b q) (h : ReceivingAll R p) (hb' : b'.state ≠ .receiving) :
    ReceivingAll R (handleCompleteTransaction callback (q.store i b') i).1 := by
  have hst : ReceivingAll R (q.store i b') := hq.receivingAll_store h fun hb => absurd hb hb'
  obtain ⟨hother, c', hc', hcase⟩ :=
    handleCompleteTransaction_contexts callback (store_getElem?_self b' hq.getElem?)
  intro j c hj hc
  by_cases hji : j = i
  · subst hji
    rw [hc'] at hj
    obtain rfl := Option.some.inj hj
    rcases hcase with hfree | hsame
    · rw [hfree] at hc; cases hc
    · exact absurd (hsame ▸ hc) hb'
  · rw [hother j hji] at hj
    exact hst j c hj hc

/-- **The rule for RECEIVING contexts.** A frame preserves a property of all of them when what it
writes to the context it obtains has the property. Both the old contents with the new mark and the
contents with the fragment have to have it. -/
theorem DataFrameStep.receivingAll {callback : Option (TransportRxCallback ε)} {params : Option κ}
    {mark : ε → ε} {now : UInt32} {f : Fragment} {out : List (RxEffect ε)}
    (hstep : DataFrameStep callback params mark now f p q out) (h : ReceivingAll R p)
    (hkeep : ∀ i b q, Obtained p now f params i b q → R (b.mark mark))
    (haccept : ∀ i b q, Obtained p now f params i b q → f.payload ≠ [] → f.fragIdx = b.fragIdx →
      b.len + f.payload.length ≤ b.totalSizeBytes.toNat →
      (b.fragIdx + 1 = b.fragTotal →
        ((b.mark mark).accept now f.payload).len ≠ b.totalSizeBytes.toNat) →
      R ((b.mark mark).accept now f.payload)) :
    ReceivingAll R q := by
  cases hstep with
  | refused hq => exact hq.receivingAll h
  | rejected hq => exact hq.receivingAll_store h fun _ => hkeep _ _ _ hq
  | duplicate hq => exact hq.receivingAll_store h fun _ => hkeep _ _ _ hq
  | success hq hdata hidx hfit hlast =>
    exact hq.receivingAll_store h fun _ => haccept _ _ _ hq hdata hidx hfit fun h => absurd h hlast
  | invalidFinalSize hq hdata hidx hfit hlast hlen =>
    exact hq.receivingAll_store h fun _ => haccept _ _ _ hq hdata hidx hfit fun _ => hlen
  | complete hq hdata hidx hlast hlen hb' =>
    refine hq.receivingAll_complete h ?_
    rw [hb']
    exact TransportBufferState.noConfusion

end ReceivingAll

end DectCommunicator
