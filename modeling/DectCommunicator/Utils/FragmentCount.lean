import DectCommunicator.Utils.PoolGet
import DectCommunicator.Utils.WriteErrors

/-!
# The fragment counter

`frag_idx` of a RECEIVING context is meant to count the fragments that it holds, below its
`frag_total`. Nothing checks this bound. It follows from the test for equality after the increment,
as long as a context starts below its total and leaves RECEIVING when it reaches it.

Two kinds of frames break it (`counter_reaches_total`). A frame that announces `frag_total` 0 opens
a context that no increment completes until the counter wraps, and a last fragment that falls short
of the announced size is counted by the write that rejects it, so that the context stays RECEIVING
at its total and accepts the indices above it.

`Counted` keeps the number of fragments appended to every context beside the two transports. In
every run without such frames the counters are below their totals and equal to these numbers, and
each one of them breaks it at once (`fragments_counted`).
-/

namespace DectCommunicator

open Machine

/-! ### One pool -/

section Pool

variable {ε κ : Type} {p q q' : TransportBufferPool ε κ} {now : UInt32} {f : Fragment}
  {params : Option κ} {mark : ε → ε} {e : ε} {i : ℕ} {b : TransportBuffer ε} {count : ℕ → ℕ}
  {callback : Option (TransportRxCallback ε)} {out : List (RxEffect ε)}

/-- The effect is a write that appended the fragment, whether the message goes on, is complete, or
is left short. -/
def RxEffect.isAppended : RxEffect ε → Bool
  | .wrote ret => ret.appended
  | _ => false

/-- The number of fragments appended to every context since it was opened, after `f` was handled
with the effects `out`. A context that is FREE after the first loop is opened by the lookup, and
counted from zero again. -/
def countAfter (p : TransportBufferPool ε κ) (now : UInt32) (params : Option κ) (f : Fragment)
    (out : List (RxEffect ε)) (count : ℕ → ℕ) : ℕ → ℕ :=
  match (transportBufferPoolGet p now f.seqId f.totalSizeBytes.toNat f.fragIdx f.fragTotal
    params).1 with
  | none => count
  | some i =>
    let before :=
      if ((p.expire now).contexts[i]?).any fun b => b.state = .free then 0 else count i
    Function.update count i (before + out.countP RxEffect.isAppended)

/-- The context counts what it holds: `n` fragments, fewer than its total. The length is within the
announced size, as every write checks it. -/
structure ContextCounted (b : TransportBuffer ε) (n : ℕ) : Prop where
  fragIdx_lt : b.fragIdx < b.fragTotal
  len_le : b.len ≤ b.totalSizeBytes.toNat
  counted : b.fragIdx.toNat = n

/-- Every RECEIVING context counts what it holds, `count` being the true numbers kept beside the
pool. -/
def PoolCounted (p : TransportBufferPool ε κ) (count : ℕ → ℕ) : Prop :=
  ∀ i b, p.contexts[i]? = some b → b.state = .receiving → ContextCounted b (count i)

/-- The query finds a context that is RECEIVING and has not timed out. It is stated on the pool
before the call, where the claim's condition is evaluated. -/
def Finds (p : TransportBufferPool ε κ) (now : UInt32) (params : Option κ) (f : Fragment)
    (c : TransportBuffer ε) : Prop :=
  c.timedOut now p.rxTimeoutMs = false ∧
    p.isMatch f.seqId f.totalSizeBytes.toNat f.fragTotal params c = true

instance (p : TransportBufferPool ε κ) (now : UInt32) (params : Option κ) (f : Fragment)
    (c : TransportBuffer ε) : Decidable (Finds p now params f c) := by
  unfold Finds
  infer_instance

/-- The fragment opens a context: it is the first one, no context is found, and there is one that
is FREE or has timed out. -/
def Opens (p : TransportBufferPool ε κ) (now : UInt32) (params : Option κ) (f : Fragment) : Prop :=
  f.fragIdx = 0 ∧ (∀ c ∈ p.contexts, ¬ Finds p now params f c) ∧
    ∃ c ∈ p.contexts, c.state = .free ∨ c.timedOut now p.rxTimeoutMs = true

instance (p : TransportBufferPool ε κ) (now : UInt32) (params : Option κ) (f : Fragment) :
    Decidable (Opens p now params f) := by
  unfold Opens
  infer_instance

/-- The fragment is the last one of a message, found or opened by it, and leaves it short. A message
of one fragment is opened and ended by the same frame. -/
def EndsMessageShort (p : TransportBufferPool ε κ) (now : UInt32) (params : Option κ)
    (f : Fragment) : Prop :=
  (∃ c ∈ p.contexts, Finds p now params f c ∧ FallsShort c f.fragIdx f.payload) ∨
    (Opens p now params f ∧ f.fragTotal = 1 ∧ f.payload ≠ [] ∧
      f.payload.length < f.totalSizeBytes.toNat)

instance (p : TransportBufferPool ε κ) (now : UInt32) (params : Option κ) (f : Fragment) :
    Decidable (EndsMessageShort p now params f) := by
  unfold EndsMessageShort
  infer_instance

/-- **The condition** on a fragment: it opens no context for no fragments, and does not end a
message short. It is a predicate of the frame and of the pool before it. -/
def KeepsCount (p : TransportBufferPool ε κ) (now : UInt32) (params : Option κ) (f : Fragment) :
    Prop :=
  ¬ (Opens p now params f ∧ f.fragTotal = 0) ∧ ¬ EndsMessageShort p now params f

instance (p : TransportBufferPool ε κ) (now : UInt32) (params : Option κ) (f : Fragment) :
    Decidable (KeepsCount p now params f) := by
  unfold KeepsCount
  infer_instance

/-! ### The context that is obtained -/

/-- Only one context is obtained, as both loops stop at the first one they can take. -/
theorem Obtained.unique {j : ℕ} {c : TransportBuffer ε}
    (hq : Obtained p now f params i b q) (hq' : Obtained p now f params j c q') :
    j = i ∧ q' = q := by
  -- both are the first context with some property
  have hfirst : ∀ {P : TransportBuffer ε → Prop} {j k : ℕ} {c d : TransportBuffer ε},
      (p.expire now).contexts[j]? = some c → P c →
      (∀ l a, l < j → (p.expire now).contexts[l]? = some a → ¬ P a) →
      (p.expire now).contexts[k]? = some d → P d →
      (∀ l a, l < k → (p.expire now).contexts[l]? = some a → ¬ P a) → k = j := by
    intro P j k c d hj hc hbefore hk hd hbefore'
    rcases Nat.lt_trichotomy k j with hlt | heq | hlt
    · exact absurd hd (hbefore k d hlt hk)
    · exact heq
    · exact absurd hc (hbefore' j c hlt hj)
  -- The two cannot have been obtained in different ways: a context is allocated only when none is
  -- found.
  cases hq with
  | found hi hmatch hbefore =>
    cases hq' with
    | found hj hmatch' hbefore' =>
      refine ⟨hfirst (P := fun c => p.isMatch f.seqId f.totalSizeBytes.toNat f.fragTotal params c
        = true) hi hmatch ?_ hj hmatch' ?_, rfl⟩
      · exact fun l a hl ha => ne_true_of_eq_false (hbefore l a hl ha)
      · exact fun l a hl ha => ne_true_of_eq_false (hbefore' l a hl ha)
    | fresh _ hnone =>
      rw [hnone b (List.mem_of_getElem? hi)] at hmatch
      cases hmatch
  | fresh _ hnone hi hfree hbefore hbufs =>
    cases hq' with
    | found hj hmatch =>
      rw [hnone c (List.mem_of_getElem? hj)] at hmatch
      cases hmatch
    | fresh _ _ hj hfree' hbefore' hbufs' =>
      obtain rfl := hfirst (P := fun c => c.state = .free) hi hfree hbefore hj hfree' hbefore'
      rw [hi] at hj
      obtain rfl := Option.some.inj hj
      rw [hbufs] at hbufs'
      injection hbufs' with hid hrest
      subst hid hrest
      exact ⟨rfl, rfl⟩

/-- A query that obtains a context is not refused. -/
theorem Obtained.not_refused (hkey : Keyed p.additionalQueryCb params mark e)
    (hq : Obtained p now f params i b q) : ¬ Refused p now f params q' := by
  intro hr
  cases hr with
  | misuse hmisuse => exact hkey.allowed hmisuse
  | noContext hnone hwhy =>
    cases hq with
    | found hi hmatch =>
      rw [hnone b (List.mem_of_getElem? hi)] at hmatch
      cases hmatch
    | fresh hidx _ hi hfree _ hbufs =>
      rcases hwhy with hne | hall | hnil
      · exact hne hidx
      · exact hall _ (List.mem_of_getElem? hi) hfree
      · rw [hbufs] at hnil
        cases hnil

/-- What is obtained is what the call returns. -/
theorem Obtained.get_eq (hkey : Keyed p.additionalQueryCb params mark e)
    (hq : Obtained p now f params i b q) :
    transportBufferPoolGet p now f.seqId f.totalSizeBytes.toNat f.fragIdx f.fragTotal params =
      (some i, q) := by
  rcases transportBufferPoolGet_spec p now f params with ⟨j, c, q', hget, hq'⟩ | ⟨q', -, hr⟩
  · obtain ⟨rfl, rfl⟩ := hq.unique hq'
    exact hget
  · exact absurd hr (hq.not_refused hkey)

/-- A query that is refused returns NULL. -/
theorem Refused.get_eq (hkey : Keyed p.additionalQueryCb params mark e)
    (hr : Refused p now f params q) :
    (transportBufferPoolGet p now f.seqId f.totalSizeBytes.toNat f.fragIdx f.fragTotal params).1
      = none := by
  rcases transportBufferPoolGet_spec p now f params with ⟨j, c, q', -, hq'⟩ | ⟨q', hget, -⟩
  · exact absurd hr (hq'.not_refused hkey)
  · rw [hget]

/-- The fragments that the context obtained for `f` has appended so far: those it had, or none when
it was allocated for `f`, and the one at hand if it was appended. -/
theorem Obtained.countAfter_self (hkey : Keyed p.additionalQueryCb params mark e)
    (hq : Obtained p now f params i b q) (count : ℕ → ℕ) (out : List (RxEffect ε)) :
    ∃ before, countAfter p now params f out count i
        = before + out.countP RxEffect.isAppended ∧
      (p.contexts[i]? = some b ∧ before = count i ∨ b.fragIdx = 0 ∧ b.len = 0 ∧ before = 0) := by
  unfold countAfter
  rw [hq.get_eq hkey]
  dsimp only
  rw [Function.update_self]
  refine ⟨_, rfl, ?_⟩
  cases hq with
  | found hi hmatch =>
    have hst := (isMatch_iff.mp hmatch).1
    rw [hi, Option.any_some, hst]
    exact Or.inl ⟨(getElem?_expire_receiving hi hst).1, rfl⟩
  | fresh _ _ hi hfree =>
    rw [hi, Option.any_some, decide_eq_true hfree]
    exact Or.inr ⟨rfl, rfl, rfl⟩

/-- The numbers of the other contexts stay the same. -/
theorem Obtained.countAfter_of_ne (hkey : Keyed p.additionalQueryCb params mark e)
    (hq : Obtained p now f params i b q) (out : List (RxEffect ε)) {j : ℕ} (hj : j ≠ i) :
    countAfter p now params f out count j = count j := by
  unfold countAfter
  rw [hq.get_eq hkey]
  exact Function.update_of_ne hj _ _

/-! ### One frame -/

/-- A context that can be opened is FREE once the first loop is over. -/
theorem exists_free_expire
    (h : ∃ c ∈ p.contexts, c.state = .free ∨ c.timedOut now p.rxTimeoutMs = true) :
    ∃ (j : ℕ) (c : TransportBuffer ε),
      (p.expire now).contexts[j]? = some c ∧ c.state = .free := by
  obtain ⟨c, hc, hwhy⟩ := h
  obtain ⟨j, hj⟩ := List.getElem?_of_mem hc
  refine ⟨j, c.expire now p.rxTimeoutMs, ?_, ?_⟩
  · rw [expire_contexts, List.getElem?_map, hj, Option.map_some]
  · unfold TransportBuffer.expire
    split
    · rfl
    · next hdue => exact hwhy.resolve_right hdue

/-- Conversely, what is FREE once the first loop is over was so before, or has timed out. -/
theorem exists_available {c : TransportBuffer ε} (hi : (p.expire now).contexts[i]? = some c)
    (hfree : c.state = .free) :
    ∃ c ∈ p.contexts, c.state = .free ∨ c.timedOut now p.rxTimeoutMs = true := by
  rw [expire_contexts, List.getElem?_map, Option.map_eq_some_iff] at hi
  obtain ⟨c₀, hc₀, rfl⟩ := hi
  refine ⟨c₀, List.mem_of_getElem? hc₀, ?_⟩
  unfold TransportBuffer.expire at hfree
  split at hfree
  · next hdue => exact Or.inr hdue
  · exact Or.inl hfree

/-- Nothing is found in the pool exactly if the second loop finds nothing. The left side does not
mention the expiry. -/
theorem not_finds_iff : (∀ c ∈ p.contexts, ¬ Finds p now params f c) ↔
    ∀ c ∈ (p.expire now).contexts,
      p.isMatch f.seqId f.totalSizeBytes.toNat f.fragTotal params c = false := by
  constructor
  · intro h c hc
    refine eq_false_of_ne_true fun hmatch => ?_
    obtain ⟨j, hj⟩ := List.getElem?_of_mem hc
    obtain ⟨hold, hfresh⟩ := getElem?_expire_receiving hj (isMatch_iff.mp hmatch).1
    exact h c (List.mem_of_getElem? hold) ⟨hfresh, hmatch⟩
  · rintro h c hc ⟨hfresh, hmatch⟩
    obtain ⟨j, hj⟩ := List.getElem?_of_mem hc
    rw [h c (List.mem_of_getElem? (getElem?_expire_of_fresh hj hfresh))] at hmatch
    cases hmatch

/-- Under the condition, the context that is obtained counts below its total and does not end short,
whether it was found or opened. -/
theorem Obtained.of_keepsCount (hq : Obtained p now f params i b q) (hcount : PoolCounted p count)
    (hkeeps : KeepsCount p now params f) :
    b.fragIdx < b.fragTotal ∧ ¬ FallsShort b f.fragIdx f.payload := by
  obtain ⟨hopens, hshort⟩ := hkeeps
  have htotal := hq.totalSizeBytes
  cases hq with
  | found hi hmatch =>
    -- a context that was found is one that counts below its total, and the condition excludes a
    -- short end
    have hst := (isMatch_iff.mp hmatch).1
    obtain ⟨hold, hfresh⟩ := getElem?_expire_receiving hi hst
    refine ⟨(hcount i b hold hst).fragIdx_lt, fun h => hshort (Or.inl ?_)⟩
    exact ⟨b, List.mem_of_getElem? hold, ⟨hfresh, hmatch⟩, h⟩
  | fresh hidx hnone hi hfree =>
    -- a context that is opened counts none, and the condition excludes a total of 0
    have hopen : Opens p now params f :=
      ⟨hidx, not_finds_iff.mpr hnone, exists_available hi hfree⟩
    refine ⟨UInt8.pos_iff_ne_zero.mpr fun hzero => hopens ⟨hopen, hzero⟩, ?_⟩
    rintro ⟨hdata, -, hlast, hlen⟩
    rw [allocated_len, Nat.zero_add, htotal] at hlen
    exact hshort (Or.inr ⟨hopen, hlast.symm, hdata, hlen⟩)

/-- Without it, a context is obtained for no fragments, or one that the fragment leaves short. So a
frame that breaks the condition does reach a context. -/
theorem obtained_of_not_keepsCount (hinv : PoolInv p) (hunique : KeyUnique p)
    (hkey : Keyed p.additionalQueryCb params mark e) (hkeeps : ¬ KeepsCount p now params f) :
    ∃ i b q, Obtained p now f params i b q ∧
      (b.fragTotal = 0 ∧ b.fragIdx = 0 ∨ FallsShort b f.fragIdx f.payload) := by
  -- a fragment that opens a context is given a FREE one
  have hopened : Opens p now params f → ∃ i b q, Obtained p now f params i b q ∧
      b.fragTotal = f.fragTotal ∧ b.fragIdx = 0 ∧ b.len = 0 ∧
      b.totalSizeBytes = f.totalSizeBytes := by
    rintro ⟨hidx, hnone, hfree⟩
    rcases transportBufferPoolGet_spec p now f params with ⟨i, b, q, -, hq⟩ | ⟨q, -, hr⟩
    · refine ⟨i, b, q, hq, hq.fragTotal, ?_⟩
      have htotal := hq.totalSizeBytes
      cases hq with
      | found hi hmatch =>
        rw [not_finds_iff.mp hnone b (List.mem_of_getElem? hi)] at hmatch
        cases hmatch
      | fresh => exact ⟨rfl, rfl, htotal⟩
    · obtain ⟨j, c, hj, hst⟩ := exists_free_expire hfree
      cases hr with
      | misuse hmisuse => exact absurd hmisuse hkey.allowed
      | noContext _ hwhy =>
        rcases hwhy with hne | hall | hnil
        · exact absurd hidx hne
        · exact absurd hst (hall c (List.mem_of_getElem? hj))
        · exact absurd hnil ((hinv.expire now).freeBufs_ne_nil hj hst)
  -- The condition has two parts, and one of them fails.
  by_cases hempty : Opens p now params f ∧ f.fragTotal = 0
  · -- a first fragment of a message of no fragments opens a context
    obtain ⟨i, b, q, hq, htotal, hidx, -⟩ := hopened hempty.1
    exact ⟨i, b, q, hq, Or.inl ⟨htotal.trans hempty.2, hidx⟩⟩
  · have hshort : EndsMessageShort p now params f := by
      by_contra h
      exact hkeeps ⟨hempty, h⟩
    rcases hshort with ⟨c, hc, ⟨hfresh, hmatch⟩, hfalls⟩ | ⟨hopen, htotal, hdata, hlen⟩
    · obtain ⟨j, hj⟩ := List.getElem?_of_mem hc
      have hm := (isMatch_iff_matches hkey).mp hmatch
      rcases transportBufferPoolGet_spec p now f params with ⟨i, b, q, -, hq⟩ | ⟨q, -, hr⟩
      · obtain ⟨-, rfl⟩ := hq.eq_of_matches hunique hkey hj hm hfresh
        exact ⟨i, _, q, hq, Or.inr hfalls⟩
      · -- a context that matches and is fresh is found
        exact absurd hm (hr.not_matches hkey hj hfresh)
    · obtain ⟨i, b, q, hq, hfrag, hidx, hzero, hsize⟩ := hopened hopen
      refine ⟨i, b, q, hq, Or.inr ⟨hdata, hopen.1.trans hidx.symm, ?_, ?_⟩⟩
      · rw [hidx, hfrag, htotal]
        rfl
      · rw [hzero, Nat.zero_add, hsize]
        exact hlen

/-- Below its total the counter does not wrap, as the total is a byte itself. -/
theorem ContextCounted.toNat_succ {n : ℕ} (h : ContextCounted b n) :
    (b.fragIdx + 1).toNat = b.fragIdx.toNat + 1 := by
  have hlt := UInt8.lt_iff_toNat_lt.mp h.fragIdx_lt
  rw [UInt8.toNat_add]
  exact Nat.mod_eq_of_lt (lt_of_le_of_lt hlt b.fragTotal.toNat_lt)

/-- The context that is obtained counts what it has appended so far, also when it has just been
opened. -/
theorem Obtained.contextCounted (hkey : Keyed p.additionalQueryCb params mark e)
    (hq : Obtained p now f params i b q) (hcount : PoolCounted p count)
    (hlt : b.fragIdx < b.fragTotal) (out : List (RxEffect ε)) :
    ∃ n, ContextCounted b n ∧
      countAfter p now params f out count i = n + out.countP RxEffect.isAppended := by
  obtain ⟨n, hn, hcase⟩ := hq.countAfter_self hkey count out
  refine ⟨n, ?_, hn⟩
  rcases hcase with ⟨hold, rfl⟩ | ⟨hidx, hlen, rfl⟩
  · exact hcount i b hold hq.receiving
  · exact ⟨hlt, hlen.trans_le (Nat.zero_le _), by rw [hidx]; rfl⟩

/-- The other contexts, RECEIVING afterwards, count what they counted before. What is left to show
is about the context that was obtained. -/
theorem Obtained.poolCounted (hkey : Keyed p.additionalQueryCb params mark e)
    (hq : Obtained p now f params i b q) (hcount : PoolCounted p count)
    (hown : ∀ c, q'.contexts[i]? = some c → c.state = .receiving →
      ContextCounted c (countAfter p now params f out count i))
    (hother : ∀ j c, j ≠ i → q'.contexts[j]? = some c → c.state = .receiving →
      q.contexts[j]? = some c) :
    PoolCounted q' (countAfter p now params f out count) := by
  intro j c hj hc
  by_cases hji : j = i
  · subst hji
    exact hown c hj hc
  · rw [hq.countAfter_of_ne hkey out hji]
    exact hcount j c (hq.getElem?_old hji (hother j c hji hj hc) hc) hc

/-- The fragments accepted by a frame, with the totals of their messages: one, or none. -/
def acceptedBy (f : Fragment) (out : List (RxEffect ε)) : List (UInt8 × UInt8) :=
  out.filterMap fun e => if e.isAppended then some (f.fragIdx, f.fragTotal) else none

/-- What a frame has accepted has an index below its total when the frame has. -/
theorem acceptedBy_lt (h : f.fragIdx < f.fragTotal) : ∀ a ∈ acceptedBy f out, a.1 < a.2 := by
  intro a ha
  obtain ⟨e, -, he⟩ := List.mem_filterMap.mp ha
  split at he
  · obtain rfl := Option.some.inj he
    exact h
  · cases he

/-- **One frame** under the condition keeps the counts, and accepts only indices below the total. -/
theorem DataFrameStep.poolCounted (hstep : DataFrameStep callback params mark now f p q out)
    (hinv : PoolInv p) (hkey : Keyed p.additionalQueryCb params mark e)
    (hcount : PoolCounted p count) (hkeeps : KeepsCount p now params f) :
    PoolCounted q (countAfter p now params f out count) ∧ ∀ a ∈ acceptedBy f out, a.1 < a.2 := by
  -- writing the context that was obtained
  have hstore : ∀ {i b q n} {b' : TransportBuffer ε}, Obtained p now f params i b q →
      countAfter p now params f out count i = n → ContextCounted b' n →
      PoolCounted (q.store i b') (countAfter p now params f out count) := by
    intro i b q n b' hq hn hb'
    refine hq.poolCounted hkey hcount (fun c hc _ => ?_) fun j c hji hj _ => ?_
    · rw [store_getElem?_self b' hq.getElem?] at hc
      obtain rfl := Option.some.inj hc
      rwa [hn]
    · rwa [store_getElem?_of_ne q i b' hji] at hj
  -- A fragment that is waited for has the index of the counter, which is below the total.
  have hlast : ∀ {i b q}, Obtained p now f params i b q → f.fragIdx = b.fragIdx →
      f.fragIdx < f.fragTotal := by
    intro i b q hq hidx
    rw [hidx, ← hq.fragTotal]
    exact (hq.of_keepsCount hcount hkeeps).1
  cases hstep with
  | refused hr =>
    refine ⟨fun j c hj hc => ?_, fun a ha => absurd ha List.not_mem_nil⟩
    have hsame : countAfter p now params f [] count = count := by
      unfold countAfter
      rw [hr.get_eq hkey]
    rw [hsame]
    cases hr with
    | misuse => exact hcount j c hj hc
    | noContext => exact hcount j c (getElem?_expire_receiving hj hc).1 hc
  | @rejected i b q ret hq hwhy =>
    obtain ⟨hlt, -⟩ := hq.of_keepsCount hcount hkeeps
    obtain ⟨n, hb, hn⟩ := hq.contextCounted hkey hcount hlt [.wrote ret]
    have hnone : ret.appended = false := by
      rcases hwhy with ⟨rfl, -⟩ | ⟨rfl, -⟩ | ⟨rfl, -⟩ <;> rfl
    refine ⟨hstore hq (hn.trans ?_) ⟨hb.fragIdx_lt, hb.len_le, hb.counted⟩, ?_⟩
    · simp [RxEffect.isAppended, hnone]
    · simp [acceptedBy, RxEffect.isAppended, hnone]
  | @duplicate i b q hq =>
    obtain ⟨hlt, -⟩ := hq.of_keepsCount hcount hkeeps
    obtain ⟨n, hb, hn⟩ := hq.contextCounted hkey hcount hlt [.wrote .duplicate, .ack]
    exact ⟨hstore hq hn ⟨hb.fragIdx_lt, hb.len_le, hb.counted⟩,
      fun a ha => absurd ha List.not_mem_nil⟩
  | @success i b q hq hdata hidx hfit hne =>
    obtain ⟨hlt, -⟩ := hq.of_keepsCount hcount hkeeps
    obtain ⟨n, hb, hn⟩ := hq.contextCounted hkey hcount hlt _
    refine ⟨hstore hq hn ⟨?_, ?_, ?_⟩, acceptedBy_lt (hlast hq hidx)⟩
    · -- the counter has not reached the total
      have hlt := UInt8.lt_iff_toNat_lt.mp hb.fragIdx_lt
      refine UInt8.lt_iff_toNat_lt.mpr (lt_of_le_of_ne ?_ fun heq => hne (UInt8.toNat_inj.mp heq))
      rw [accept_fragIdx, mark_fragIdx, hb.toNat_succ]
      exact hlt
    · have hbuf : (b.mark mark).buffer ≠ none := hq.buffer_ne_none hinv
      rw [accept_len _ _ hbuf]
      exact hfit
    · rw [accept_fragIdx, mark_fragIdx, hb.toNat_succ, hb.counted]
      rfl
  | @invalidFinalSize i b q hq hdata hidx hfit hfull hlen =>
    -- the fragment would leave the message short
    obtain ⟨-, hshort⟩ := hq.of_keepsCount hcount hkeeps
    have hbuf : (b.mark mark).buffer ≠ none := hq.buffer_ne_none hinv
    rw [accept_len _ _ hbuf] at hlen
    exact absurd ⟨hdata, hidx, hfull, lt_of_le_of_ne hfit hlen⟩ hshort
  | @complete i b b' q hq hdata hidx hfull hlen hb' =>
    -- the context is no longer RECEIVING
    have hreceiving := fun (j : ℕ) (c : TransportBuffer ε) => complete_receiving callback (i := i)
      (j := j) (c := c) (store_getElem?_self b' hq.getElem?) (by rw [hb'])
    refine ⟨hq.poolCounted hkey hcount (fun c hc hst => ?_) fun j c hji hj hst => ?_,
      acceptedBy_lt (hlast hq hidx)⟩
    · exact absurd rfl (hreceiving i c hc hst).1
    · obtain ⟨-, hj⟩ := hreceiving j c hj hst
      rwa [store_getElem?_of_ne _ _ _ hji] at hj

/-- **One frame** without it: a context is RECEIVING whose counter is not below its total. -/
theorem DataFrameStep.not_poolCounted
    (hstep : DataFrameStep callback params mark now f p q out) (hinv : PoolInv p)
    (hunique : KeyUnique p) (hkey : Keyed p.additionalQueryCb params mark e)
    (hkeeps : ¬ KeepsCount p now params f) (count' : ℕ → ℕ) : ¬ PoolCounted q count' := by
  intro hcount'
  obtain ⟨i, b, q₀, hq₀, hbad⟩ := obtained_of_not_keepsCount hinv hunique hkey hkeeps
  -- the step has obtained this very context
  have hsame : ∀ {j c q'}, Obtained p now f params j c q' → j = i ∧ q' = q₀ ∧ c = b := by
    intro j c q' hq
    obtain ⟨rfl, rfl⟩ := hq₀.unique hq
    have hc := hq.getElem?
    rw [hq₀.getElem?] at hc
    exact ⟨rfl, rfl, (Option.some.inj hc).symm⟩
  -- a context that stays RECEIVING may not be at its total or beyond
  have hstuck : ∀ b', q = q₀.store i b' → b'.state = .receiving →
      b'.fragIdx < b'.fragTotal := by
    rintro b' rfl hst
    exact (hcount' i b' (store_getElem?_self b' hq₀.getElem?) hst).fragIdx_lt
  -- no counter is below a total of 0
  have hempty : ∀ {k : UInt8}, b.fragTotal = 0 → ¬ k < b.fragTotal := fun h => by
    rw [h]
    exact UInt8.not_lt_zero
  cases hstep with
  | refused hr => exact hq₀.not_refused hkey hr
  | rejected hq hwhy =>
    obtain ⟨rfl, rfl, rfl⟩ := hsame hq
    have hlt := hstuck _ rfl hq.receiving
    rcases hbad with ⟨htotal, -⟩ | ⟨hdata, hidx, -, hlen⟩
    · exact hempty htotal hlt
    · -- such a fragment is not rejected before it is appended
      rcases hwhy with ⟨-, hnil⟩ | ⟨-, hahead⟩ | ⟨-, -, hover⟩
      · exact hdata hnil
      · rw [hidx] at hahead
        exact UInt8.lt_irrefl _ hahead
      · omega
  | duplicate hq _ hdup =>
    obtain ⟨rfl, rfl, rfl⟩ := hsame hq
    have hlt := hstuck _ rfl hq.receiving
    rcases hbad with ⟨htotal, -⟩ | ⟨-, hidx, -⟩
    · exact hempty htotal hlt
    · rw [hidx] at hdup
      exact UInt8.lt_irrefl _ hdup
  | success hq _ _ _ hne =>
    obtain ⟨rfl, rfl, rfl⟩ := hsame hq
    have hlt := hstuck _ rfl hq.receiving
    rcases hbad with ⟨htotal, -⟩ | ⟨-, -, hfull, -⟩
    · exact hempty htotal hlt
    · exact hne hfull
  | invalidFinalSize hq _ _ _ hfull =>
    -- the rejected fragment has been counted
    obtain ⟨rfl, rfl, rfl⟩ := hsame hq
    have hlt := hstuck _ rfl hq.receiving
    rw [accept_fragIdx, accept_fragTotal, mark_fragIdx, hfull] at hlt
    exact UInt8.lt_irrefl _ hlt
  | complete hq hdata _ hfull hlen =>
    obtain ⟨rfl, rfl, rfl⟩ := hsame hq
    rcases hbad with ⟨htotal, hidx⟩ | ⟨-, -, -, hshort⟩
    · rw [htotal, hidx] at hfull
      exact absurd hfull (by decide)
    · -- a completed message has its announced length, and this one would be shorter
      have hbuf : (TransportBuffer.mark _ mark).buffer ≠ none := hq.buffer_ne_none hinv
      rw [accept_len _ _ hbuf, mark_len] at hlen
      omega

end Pool

/-! ### Both transports -/

/-- The fragment in the bytes of a DECT frame, if it is a data frame and long enough to be read as
one. -/
def dectFragmentOf (buf : List UInt8) : Option Fragment :=
  if dectTransportLayerDataFrameSizeBytes ≤ buf.length ∧ frameTypeOf buf = some .data then
    some (DectTransportLayerDataFrame.ofBytes buf).fragment
  else none

/-- The fragment in the bytes of a characteristic write, if it is a data frame and long enough. -/
def bleFragmentOf (buf : List UInt8) : Option Fragment :=
  if alfieBleServiceProtoDataFrameSizeBytes ≤ buf.length ∧ bleFrameTypeOf buf = some .data then
    some (AlfieBleServiceProtoDataFrame.ofBytes buf).fragment
  else none

/-- The reassembly step of the DECT transport, which looks contexts up by the source of the frame as
well. -/
def DectTransportLayer.reassemble (st : DectTransportLayer) (now srcId : UInt32) (f : Fragment) :
    TransportBufferPool DectTransportExt UInt32 × List (RxEffect DectTransportExt) :=
  handleDataFrame st.transportRxCallback (some srcId) (fun ext => { ext with srcId }) now f st.rxPool

/-- The reassembly step of the BLE service, which has one peer and so no query of its own. -/
def AlfieBleService.reassemble (st : AlfieBleService) (now : UInt32) (f : Fragment) :
    TransportBufferPool Unit Unit × List (RxEffect Unit) :=
  handleDataFrame st.transportRxCallback none id now f st.rxPool

/-- The transports, and for every context the number of fragments appended since it was opened. The
numbers are natural, so that they cannot wrap as the counter of the source can. -/
structure Counted where
  transports : Transports
  dectCount : ℕ → ℕ
  bleCount : ℕ → ℕ

/-- The transports after initialisation, when nothing has been appended. -/
def Counted.init (dectCallback : Option (TransportRxCallback DectTransportExt))
    (bleCallback : Option (TransportRxCallback Unit)) : Counted :=
  ⟨.init dectCallback bleCallback, fun _ => 0, fun _ => 0⟩

/-- The transports handle one input; the output is the fragments accepted. -/
def Counted.step (s : Counted) (x : RxInput) : Counted × List (UInt8 × UInt8) :=
  let transports := (s.transports.step x).1
  match x with
  | .dect now srcId buf =>
    match dectFragmentOf buf with
    | some f =>
      let out := (s.transports.dect.reassemble now srcId f).2
      ({ s with
          transports
          dectCount := countAfter s.transports.dect.rxPool now (some srcId) f out s.dectCount },
        acceptedBy f out)
    | none => ({ s with transports }, [])
  | .ble now buf =>
    match bleFragmentOf buf with
    | some f =>
      let out := (s.transports.ble.reassemble now f).2
      ({ s with
          transports
          bleCount := countAfter s.transports.ble.rxPool now none f out s.bleCount },
        acceptedBy f out)
    | none => ({ s with transports }, [])
  | .releaseDect _ => ({ s with transports }, [])
  | .releaseBle _ => ({ s with transports }, [])

/-- **The property of a state.** Every RECEIVING context of both pools counts what it holds. -/
structure Counted.Good (s : Counted) : Prop where
  dect : PoolCounted s.transports.dect.rxPool s.dectCount
  ble : PoolCounted s.transports.ble.rxPool s.bleCount

/-- **The condition** on an input: its fragment, if it has one, keeps the count. It reads the state
before the input only. -/
def Counted.Keeps (s : Counted) : RxInput → Prop
  | .dect now srcId buf =>
    ∀ f ∈ dectFragmentOf buf, KeepsCount s.transports.dect.rxPool now (some srcId) f
  | .ble now buf => ∀ f ∈ bleFragmentOf buf, KeepsCount s.transports.ble.rxPool now none f
  | _ => True

instance (s : Counted) (x : RxInput) : Decidable (s.Keeps x) :=
  x.casesOn (motive := fun x => Decidable (s.Keeps x))
    (fun now srcId buf => inferInstanceAs (Decidable (∀ f ∈ dectFragmentOf buf,
      KeepsCount s.transports.dect.rxPool now (some srcId) f)))
    (fun now buf => inferInstanceAs (Decidable (∀ f ∈ bleFragmentOf buf,
      KeepsCount s.transports.ble.rxPool now none f)))
    (fun _ => .isTrue trivial) fun _ => .isTrue trivial

section Run

variable {dectCallback : Option (TransportRxCallback DectTransportExt)}
  {bleCallback : Option (TransportRxCallback Unit)} {s : Counted} {x : RxInput}

/-- A consumer that releases a message does not touch the contexts that count. -/
theorem PoolCounted.release {ε κ : Type} {p : TransportBufferPool ε κ} {count : ℕ → ℕ}
    (h : PoolCounted p count) (i : ℕ) : PoolCounted (releaseReferenced p i) count :=
  fun j c hj hc => h j c ((releaseReferenced_receiving_iff hc).mp hj) hc

/-- A frame with a fragment is a reassembly step, and another one leaves the pool as it is. -/
theorem prvOnDataLayerRx_rxPool (now srcId : UInt32) (buf : List UInt8) (st : DectTransportLayer) :
    (prvOnDataLayerRx now srcId buf st).1.rxPool =
      match dectFragmentOf buf with
      | some f => (st.reassemble now srcId f).1
      | none => st.rxPool := by
  by_cases hdata : dectTransportLayerDataFrameSizeBytes ≤ buf.length ∧
      frameTypeOf buf = some .data
  · obtain ⟨hlen, htype⟩ := hdata
    have hheader : ¬ buf.length < dectTransportLayerFrameHeaderSizeBytes :=
      not_lt.mpr (le_trans (by decide) hlen)
    unfold prvOnDataLayerRx dectFragmentOf prvHandleDataFrame
    rw [if_neg hheader, htype]
    dsimp only
    rw [if_neg (not_lt.mpr hlen), if_pos (c := _ ∧ _) ⟨hlen, rfl⟩]
    rfl
  · -- It is too short for a header or for a data frame, or of another type.
    unfold prvOnDataLayerRx dectFragmentOf prvHandleDataFrame
    rw [if_neg (c := dectTransportLayerDataFrameSizeBytes ≤ _ ∧ _) hdata]
    split
    · rfl
    · split
      · next htype => rw [if_pos (not_le.mp fun hlen => hdata ⟨hlen, htype⟩)]
      · rfl
      · rfl

/-- The same for a characteristic write. -/
theorem prvOnDataWrite_rxPool (now : UInt32) (buf : List UInt8) (st : AlfieBleService) :
    (prvOnDataWrite now buf st).1.rxPool =
      match bleFragmentOf buf with
      | some f => (st.reassemble now f).1
      | none => st.rxPool := by
  by_cases hdata : alfieBleServiceProtoDataFrameSizeBytes ≤ buf.length ∧
      bleFrameTypeOf buf = some .data
  · -- a data frame that is long enough for its header is reassembled
    obtain ⟨hlen, htype⟩ := hdata
    have hheader : ¬ buf.length < alfieBleServiceProtoFrameHeaderSizeBytes :=
      not_lt.mpr (le_trans (by decide) hlen)
    unfold prvOnDataWrite bleFragmentOf prvHandleIncomingDataFrame
    rw [if_neg hheader, htype]
    dsimp only
    rw [if_neg (not_lt.mpr hlen), if_pos (c := _ ∧ _) ⟨hlen, rfl⟩]
    rfl
  · unfold prvOnDataWrite bleFragmentOf prvHandleIncomingDataFrame
    -- anything else is an ACK or is dropped, and the pool stays
    rw [if_neg (c := alfieBleServiceProtoDataFrameSizeBytes ≤ _ ∧ _) hdata]
    split
    · rfl
    · split
      · next htype => rw [if_pos (not_le.mp fun hlen => hdata ⟨hlen, htype⟩)]
      · unfold prvHandleIncomingDataAck
        split <;> rfl
      · rfl

/-- **One fragment** keeps the counters right exactly if it meets the condition, whatever transport
it reaches. -/
theorem handleDataFrame_poolCounted_iff {ε κ : Type} {p q : TransportBufferPool ε κ}
    {now : UInt32} {f : Fragment} {params : Option κ} {mark : ε → ε} {e : ε} {count : ℕ → ℕ}
    {callback : Option (TransportRxCallback ε)}
    (hq : q = (handleDataFrame callback params mark now f p).1) (hinv : PoolInv p)
    (hunique : KeyUnique p) (hkey : Keyed p.additionalQueryCb params mark e)
    (hcount : PoolCounted p count) :
    (∀ g ∈ some f, KeepsCount p now params g) ↔
      PoolCounted q
          (countAfter p now params f (handleDataFrame callback params mark now f p).2 count) ∧
        ∀ a ∈ acceptedBy f (handleDataFrame callback params mark now f p).2, a.1 < a.2 := by
  have hstep := handleDataFrame_spec callback params mark now f p
  rw [← hq] at hstep
  constructor
  · intro hkeeps
    exact hstep.poolCounted hinv hkey hcount (hkeeps f rfl)
  · -- otherwise no numbers at all would do, in particular not those kept here
    rintro ⟨hgood, -⟩ g hg
    obtain rfl := Option.some.inj hg
    by_contra hkeeps
    exact hstep.not_poolCounted hinv hunique hkey hkeeps _ hgood

/-- **One input** keeps the counters right exactly if it meets the condition. A release always does,
and so does a frame without a fragment. -/
theorem Counted.step_iff (hinv : TransportsInv dectCallback bleCallback s.transports)
    (h : s.Good) (x : RxInput) :
    s.Keeps x ↔ (s.step x).1.Good ∧ ∀ a ∈ (s.step x).2, a.1 < a.2 := by
  cases x with
  | dect now srcId buf =>
    have hpool := prvOnDataLayerRx_rxPool now srcId buf s.transports.dect
    unfold Counted.step Counted.Keeps
    dsimp only
    cases hf : dectFragmentOf buf with
    | none =>
      -- a frame without a fragment does not reach the pool
      rw [hf] at hpool
      have hgood : PoolCounted (prvOnDataLayerRx now srcId buf s.transports.dect).1.rxPool
          s.dectCount := by
        rw [hpool]
        exact h.dect
      exact ⟨fun _ => ⟨⟨hgood, h.ble⟩, fun a ha => absurd ha List.not_mem_nil⟩,
        fun _ f hf => by cases hf⟩
    | some f =>
      rw [hf] at hpool
      -- the rest is the statement about one pool, with the other one unchanged
      have hiff := handleDataFrame_poolCounted_iff hpool hinv.dect.pool hinv.dect.unique
        (dectKeyed hinv.dect.query srcId) h.dect
      exact hiff.trans ⟨fun hgood => ⟨⟨hgood.1, h.ble⟩, hgood.2⟩,
        fun hgood => ⟨hgood.1.dect, hgood.2⟩⟩
  | ble now buf =>
    have hpool := prvOnDataWrite_rxPool now buf s.transports.ble
    unfold Counted.step Counted.Keeps
    dsimp only
    cases hf : bleFragmentOf buf with
    | none =>
      rw [hf] at hpool
      have hgood : PoolCounted (prvOnDataWrite now buf s.transports.ble).1.rxPool s.bleCount := by
        rw [hpool]
        exact h.ble
      exact ⟨fun _ => ⟨⟨h.dect, hgood⟩, fun a ha => absurd ha List.not_mem_nil⟩,
        fun _ f hf => by cases hf⟩
    | some f =>
      rw [hf] at hpool
      have hiff := handleDataFrame_poolCounted_iff hpool hinv.ble.pool hinv.ble.unique
        (bleKeyed hinv.ble.query) h.ble
      exact hiff.trans ⟨fun hgood => ⟨⟨h.dect, hgood.1⟩, hgood.2⟩,
        fun hgood => ⟨hgood.1.ble, hgood.2⟩⟩
  -- a release is of a context that is not RECEIVING
  | releaseDect i =>
    exact ⟨fun _ => ⟨⟨h.dect.release i, h.ble⟩, fun a ha => absurd ha List.not_mem_nil⟩,
      fun _ => trivial⟩
  | releaseBle i =>
    exact ⟨fun _ => ⟨⟨h.dect, h.ble.release i⟩, fun a ha => absurd ha List.not_mem_nil⟩,
      fun _ => trivial⟩

/-- The counters do not affect the transports: they only watch what these do. -/
theorem Counted.step_transports (s : Counted) (x : RxInput) :
    (s.step x).1.transports = (s.transports.step x).1 := by
  unfold Counted.step
  cases x with
  | dect now srcId buf => dsimp only; split <;> rfl
  | ble now buf => dsimp only; split <;> rfl
  | releaseDect i => rfl
  | releaseBle i => rfl

/-- Initially no context is RECEIVING, so every count is right. -/
theorem Counted.Good.init (dectCallback : Option (TransportRxCallback DectTransportExt))
    (bleCallback : Option (TransportRxCallback Unit)) :
    (Counted.init dectCallback bleCallback).Good := by
  -- every context is FREE
  have hfree : ∀ {ε : Type} {n : ℕ} {c : TransportBuffer ε} {i : ℕ} {b : TransportBuffer ε},
      c.state = .free → (List.replicate n c)[i]? = some b → b.state ≠ .receiving := by
    intro ε n c i b hc hi hb
    rw [List.eq_of_mem_replicate (List.mem_of_getElem? hi), hc] at hb
    cases hb
  exact ⟨fun i b hi hb => absurd hb (hfree rfl hi), fun i b hi hb => absurd hb (hfree rfl hi)⟩

/-- **The counters count.** In every run of frames of both transports and releases whose inputs all
meet the condition, every RECEIVING context has a counter below its total, equal to the number of
fragments it has appended, and holds at most its announced size; and the next input keeps it so,
and has only fragments below their totals accepted, exactly if it meets the condition. -/
theorem fragments_counted (dectCallback : Option (TransportRxCallback DectTransportExt))
    (bleCallback : Option (TransportRxCallback Unit)) (xs : List RxInput) (s : Counted)
    (hrun : Steps (fun s x => some (Counted.step s x).1) Counted.Keeps
      (.init dectCallback bleCallback) xs s) :
    s.Good ∧ ∀ x, s.Keeps x ↔ (s.step x).1.Good ∧ ∀ a ∈ (s.step x).2, a.1 < a.2 := by
  obtain ⟨hinv, hgood⟩ : TransportsInv dectCallback bleCallback s.transports ∧ s.Good := by
    refine hrun.invariant (P := fun s => TransportsInv dectCallback bleCallback s.transports ∧
      s.Good) ?_ ⟨.init dectCallback bleCallback, .init dectCallback bleCallback⟩
    rintro s x t ⟨hinv, hgood⟩ hkeeps hstep
    obtain rfl := Option.some.inj hstep
    refine ⟨?_, ((s.step_iff hinv hgood x).mp hkeeps).1⟩
    rw [s.step_transports]
    exact hinv.step x
  exact ⟨hgood, s.step_iff hinv hgood⟩

/-- Frames of one DECT message from source 1, each with its index as its only byte. -/
def countedFrames (total : UInt16) (fragTotal : UInt8) (idxs : List UInt8) : List RxInput :=
  idxs.map fun i => .dect 0 1 (DectTransportLayerDataFrame.mk 7 fragTotal i total [i]).toBytes

/-- Two of three fragments have arrived, and the context has counted both. -/
theorem fragments_counted_twoOfThree :
    ∃ s, Steps (fun s x => some (Counted.step s x).1) Counted.Keeps (.init none none)
      (countedFrames 3 3 [0, 1]) s ∧ s.Good ∧ s.dectCount 0 = 2 := by
  obtain ⟨s, hrun, hcount⟩ : ∃ s, Steps (fun s x => some (Counted.step s x).1) Counted.Keeps
      (.init none none) (countedFrames 3 3 [0, 1]) s ∧ s.dectCount 0 = 2 :=
    ⟨_, .cons (by decide +kernel) rfl (.cons (by decide +kernel) rfl (.nil _)), by decide +kernel⟩
  exact ⟨s, hrun, (fragments_counted none none _ s hrun).1, hcount⟩

/-- A message of two bytes whose only fragment carries one: the context stays RECEIVING at its
total, and accepts fragment 1 of 1. A message of no fragments opens a context all the same. -/
theorem counter_reaches_total :
    (∃ s b, Steps (fun s x => some (Counted.step s x).1) (fun _ _ => True) (.init none none)
        (countedFrames 2 1 [0, 1]) s ∧ s.transports.dect.rxPool.contexts[0]? = some b ∧
      b.state = .receiving ∧ b.fragIdx = 2 ∧ b.fragTotal = 1 ∧ ¬ s.Good) ∧
    ∃ s b, Steps (fun s x => some (Counted.step s x).1) (fun _ _ => True) (.init none none)
        (countedFrames 2 0 [0]) s ∧ s.transports.dect.rxPool.contexts[0]? = some b ∧
      b.state = .receiving ∧ b.fragIdx = 1 ∧ b.fragTotal = 0 ∧ ¬ s.Good := by
  have hbad : ∀ {s : Counted} {b}, s.transports.dect.rxPool.contexts[0]? = some b →
      b.state = .receiving → ¬ b.fragIdx < b.fragTotal → ¬ s.Good := fun hi hb hnot hgood =>
    hnot (hgood.dect 0 _ hi hb).fragIdx_lt
  exact ⟨⟨_, _, .cons trivial rfl (.cons trivial rfl (.nil _)), rfl, rfl, by decide +kernel,
      by decide +kernel, hbad rfl rfl (by decide +kernel)⟩,
    ⟨_, _, .cons trivial rfl (.nil _), rfl, rfl, by decide +kernel, by decide +kernel,
      hbad rfl rfl (by decide +kernel)⟩⟩

end Run

end DectCommunicator
