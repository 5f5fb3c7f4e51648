import DectCommunicator.Utils.PoolInvariant

/-!
# One context for each message

A transport looks up a context by `seq_id`, number of fragments, total size and, with its query,
by the fields it adds to a context itself: the DECT layer adds the source id, the BLE service
nothing. `Keyed` says that the query `params` finds exactly the contexts whose added fields are
`e`, which are also what the transport stores in a context it obtains.

A context is allocated only when the lookup finds none. So no two RECEIVING contexts agree in the
whole key (`KeyUnique`), whatever frames arrive, and a fragment that matches an unexpired context
is given that one (`Obtained.eq_of_matches`, `Refused.not_matches`).
-/

namespace DectCommunicator

variable {ε κ : Type}

/-- The context `b` with the owner's fields `e` is RECEIVING the message of the fragment `f`, as far
as a fragment names its message: the index and the payload are left out. -/
structure Matches (e : ε) (f : Fragment) (b : TransportBuffer ε) : Prop where
  receiving : b.state = .receiving
  ext : b.ext = e
  seqId : b.seqId = f.seqId
  fragTotal : b.fragTotal = f.fragTotal
  totalSizeBytes : b.totalSizeBytes = f.totalSizeBytes

/-- No two RECEIVING contexts belong to one message. What is REFERENCED does not count, as the same
`seq_id` may come again while a consumer still holds a message. -/
def KeyUnique (p : TransportBufferPool ε κ) : Prop :=
  ∀ (i j : ℕ) (b c : TransportBuffer ε) (e : ε) (f : Fragment),
    p.contexts[i]? = some b → p.contexts[j]? = some c → Matches e f b → Matches e f c → i = j

/-- The query parameter `params` of a transport asks for the owner's fields `e`, and `mark` stores
them. The two have to agree, or a context would not be found again by the fragments it was opened
for. -/
structure Keyed (query : Option (TransportBuffer ε → Option κ → Bool)) (params : Option κ)
    (mark : ε → ε) (e : ε) : Prop where
  allowed : ¬ (params.isSome ∧ query.isNone)
  query : ∀ b, (∀ q, query = some q → q b params = true) ↔ b.ext = e
  mark : ∀ x, mark x = e

section Keys

variable {p q : TransportBufferPool ε κ} {now : UInt32} {f : Fragment} {params : Option κ}
  {mark : ε → ε} {e : ε} {i : ℕ} {b : TransportBuffer ε}

/-- The test of the pool, with the query of the transport, is the abstract one. -/
theorem isMatch_iff_matches (hkey : Keyed p.additionalQueryCb params mark e) :
    p.isMatch f.seqId f.totalSizeBytes.toNat f.fragTotal params b = true ↔ Matches e f b := by
  rw [isMatch_iff, hkey.query]
  constructor
  · rintro ⟨hst, hseq, hfrag, htotal, hext⟩
    exact ⟨hst, hext, hseq.symm, hfrag.symm, UInt16.toNat_inj.mp htotal.symm⟩
  · intro h
    exact ⟨h.receiving, h.seqId.symm, h.fragTotal.symm, by rw [h.totalSizeBytes], h.ext⟩

/-- A context that is obtained matches once the owner has marked it. One just allocated does not
match before, as it has the owner's fields of its former message. -/
theorem Obtained.matches (hkey : Keyed p.additionalQueryCb params mark e)
    (hq : Obtained p now f params i b q) : Matches e f (b.mark mark) :=
  ⟨hq.receiving, hkey.mark _, hq.seqId, hq.fragTotal, hq.totalSizeBytes⟩

/-- Marking a context that matches changes nothing, since it stores what is there. -/
theorem Matches.mark_eq (hkey : Keyed p.additionalQueryCb params mark e) (hm : Matches e f b) :
    b.mark mark = b := by
  unfold TransportBuffer.mark
  rw [hkey.mark, ← hm.ext]

/-- A context that is obtained matched in the pool before, or the fragment is the first one and no
context of the expired pool matches. In the second case it has counted nothing and holds nothing. -/
theorem Obtained.found_or_fresh (hkey : Keyed p.additionalQueryCb params mark e)
    (hq : Obtained p now f params i b q) :
    (p.contexts[i]? = some b ∧ b.timedOut now p.rxTimeoutMs = false ∧ Matches e f b) ∨
      (f.fragIdx = 0 ∧ b.fragIdx = 0 ∧ b.data = [] ∧
        ∀ c ∈ (p.expire now).contexts, ¬ Matches e f c) := by
  cases hq with
  | found hi hmatch =>
    have hm := (isMatch_iff_matches hkey).mp hmatch
    obtain ⟨hold, hfresh⟩ := getElem?_expire_receiving hi hm.receiving
    exact Or.inl ⟨hold, hfresh, hm⟩
  | fresh hidx hnone =>
    refine Or.inr ⟨hidx, rfl, rfl, fun c hc hm => ?_⟩
    have hno := hnone c hc
    rw [(isMatch_iff_matches hkey).mpr hm] at hno
    cases hno

/-- No other context of the pool left by the lookup matches: it was the only one, or there was
none. -/
theorem KeyUnique.not_matches (h : KeyUnique p)
    (hkey : Keyed p.additionalQueryCb params mark e) (hq : Obtained p now f params i b q) {j : ℕ} {c : TransportBuffer ε} (hj : j ≠ i)
    (hc : q.contexts[j]? = some c) : ¬ Matches e f c := by
  intro hm
  rw [hq.getElem?_of_ne hj] at hc
  have hold := (getElem?_expire_receiving hc hm.receiving).1
  rcases hq.found_or_fresh hkey with ⟨hi, -, hmb⟩ | ⟨-, -, -, hnone⟩
  · exact hj (h j i c b e f hold hi hm hmb)
  · exact hnone c (List.mem_of_getElem? hc) hm

/-- The other contexts that are RECEIVING were so before, and hold what they held. -/
theorem Obtained.getElem?_old (hq : Obtained p now f params i b q) {j : ℕ}
    {c : TransportBuffer ε} (hj : j ≠ i) (hc : q.contexts[j]? = some c)
    (hst : c.state = .receiving) : p.contexts[j]? = some c := by
  rw [hq.getElem?_of_ne hj] at hc
  exact (getElem?_expire_receiving hc hst).1

/-- Initially nothing is RECEIVING, so that keys are unique. -/
theorem KeyUnique.init (numBuffers bufferSizeBytes : ℕ) (rxTimeoutMs : UInt32)
    (api : Option (TransportBuffer ε → Option κ → Bool)) (ext : ε) :
    KeyUnique (transportBufferPoolInit numBuffers bufferSizeBytes rxTimeoutMs api ext) := by
  intro i j b c s f hi _ hb
  have hst := hb.receiving
  rw [List.eq_of_mem_replicate (List.mem_of_getElem? hi)] at hst
  cases hst

/-- Expiry only takes keys away. -/
theorem KeyUnique.expire (h : KeyUnique p) (now : UInt32) : KeyUnique (p.expire now) :=
  fun i j b c s f hi hj hb hc => h i j b c s f (getElem?_expire_receiving hi hb.receiving).1
    (getElem?_expire_receiving hj hc.receiving).1 hb hc

/-- Writing the context that was obtained, under the key of the fragment, keeps keys unique. What is
written may also cease to be RECEIVING. -/
theorem KeyUnique.store (h : KeyUnique p) (hkey : Keyed p.additionalQueryCb params mark e)
    (hq : Obtained p now f params i b q) {b' : TransportBuffer ε}
    (hb' : b'.state = .receiving → Matches e f b') : KeyUnique (q.store i b') := by
  have hown : ∀ {s : ε} {g : Fragment} {c : TransportBuffer ε}, Matches s g b' →
      Matches s g c → Matches e f c := by
    intro s g c hmb hmc
    have hf := hb' hmb.receiving
    exact ⟨hmc.receiving, hmc.ext.trans (hmb.ext.symm.trans hf.ext),
      hmc.seqId.trans (hmb.seqId.symm.trans hf.seqId),
      hmc.fragTotal.trans (hmb.fragTotal.symm.trans hf.fragTotal),
      hmc.totalSizeBytes.trans (hmb.totalSizeBytes.symm.trans hf.totalSizeBytes)⟩
  -- Each of the two contexts is the one that was written, or one of the others.
  intro j k c d s g hj hk hc hd
  by_cases hji : j = i
  · by_cases hki : k = i
    · rw [hji, hki]
    · -- the context written is the only one under its key
      rw [hji, store_getElem?_self b' hq.getElem?] at hj
      obtain rfl := Option.some.inj hj
      rw [store_getElem?_of_ne q i b' hki] at hk
      exact absurd (hown hc hd) (h.not_matches hkey hq hki hk)
  · rw [store_getElem?_of_ne q i b' hji] at hj
    by_cases hki : k = i
    · rw [hki, store_getElem?_self b' hq.getElem?] at hk
      obtain rfl := Option.some.inj hk
      exact absurd (hown hd hc) (h.not_matches hkey hq hji hj)
    · rw [store_getElem?_of_ne q i b' hki] at hk
      exact h j k c d s g (hq.getElem?_old hji hj hc.receiving)
        (hq.getElem?_old hki hk hd.receiving) hc hd

/-- Dropping RECEIVING contexts keeps keys unique, and so does anything that makes no new ones. -/
theorem KeyUnique.mono (h : KeyUnique p)
    (hold : ∀ (j : ℕ) (c : TransportBuffer ε), q.contexts[j]? = some c → c.state = .receiving →
      p.contexts[j]? = some c) : KeyUnique q :=
  fun i j b c s f hi hj hb hc =>
    h i j b c s f (hold i b hi hb.receiving) (hold j c hj hc.receiving) hb hc

/-- The release of a context that is not RECEIVING takes no key away and makes none. -/
theorem KeyUnique.unref (h : KeyUnique p) (hi : p.contexts[i]? = some b)
    (hb : b.state ≠ .receiving) : KeyUnique (transportBufferUnref p i) :=
  h.mono fun _ _ hj hc => (unref_receiving hi hb hj hc).2

theorem KeyUnique.release (h : KeyUnique p) (i : ℕ) : KeyUnique (releaseReferenced p i) :=
  h.mono fun _ _ hj hc => (releaseReferenced_receiving_iff hc).mp hj

/-- A completed context is no longer RECEIVING, and completion makes no other context so. -/
theorem complete_receiving (callback : Option (TransportRxCallback ε))
    (hi : p.contexts[i]? = some b) (hb : b.state = .referenced) {j : ℕ} {c : TransportBuffer ε}
    (hj : (handleCompleteTransaction callback p i).1.contexts[j]? = some c)
    (hc : c.state = .receiving) : j ≠ i ∧ p.contexts[j]? = some c := by
  obtain ⟨hother, c', hc', hcase⟩ := handleCompleteTransaction_contexts callback hi
  have hji : j ≠ i := by
    rintro rfl
    rw [hc'] at hj
    obtain rfl := Option.some.inj hj
    rcases hcase with hfree | hsame
    · rw [hfree] at hc
      cases hc
    · rw [hsame, hb] at hc
      cases hc
  rw [hother j hji] at hj
  exact ⟨hji, hj⟩

/-- **The reassembly step keeps keys unique**, whatever the frame. -/
theorem DataFrameStep.keyUnique {callback : Option (TransportRxCallback ε)}
    {out : List (RxEffect ε)} (hstep : DataFrameStep callback params mark now f p q out)
    (hkey : Keyed p.additionalQueryCb params mark e) (h : KeyUnique p) : KeyUnique q := by
  cases hstep with
  | refused hq =>
    cases hq with
    | misuse => exact h
    | noContext => exact h.expire now
  | rejected hq => exact h.store hkey hq fun _ => hq.matches hkey
  | duplicate hq => exact h.store hkey hq fun _ => hq.matches hkey
  -- A context that goes on RECEIVING does so under the key of the fragment.
  | success hq =>
    have hm := hq.matches hkey
    exact h.store hkey hq fun _ =>
      ⟨hm.receiving, hm.ext, hm.seqId, hm.fragTotal, hm.totalSizeBytes⟩
  | invalidFinalSize hq =>
    have hm := hq.matches hkey
    exact h.store hkey hq fun _ =>
      ⟨hm.receiving, hm.ext, hm.seqId, hm.fragTotal, hm.totalSizeBytes⟩
  | @complete i b b' q hq _ _ _ _ hb' =>
    have hstore : KeyUnique (q.store i b') :=
      h.store hkey hq fun hst => by rw [hb'] at hst; cases hst
    exact hstore.mono fun j c hj hc => (complete_receiving callback
      (store_getElem?_self b' hq.getElem?) (by rw [hb']) hj hc).2

/-- **The lookup finds the context of the message**, as long as it has not timed out. Since keys are
unique, the first match is the only one. -/
theorem Obtained.eq_of_matches (hq : Obtained p now f params i b q) (h : KeyUnique p)
    (hkey : Keyed p.additionalQueryCb params mark e) {j : ℕ} {c : TransportBuffer ε}
    (hj : p.contexts[j]? = some c) (hm : Matches e f c)
    (hfresh : c.timedOut now p.rxTimeoutMs = false) : i = j ∧ b = c := by
  rcases hq.found_or_fresh hkey with ⟨hi, -, hmb⟩ | ⟨-, -, -, hnone⟩
  · have hij : i = j := h i j b c e f hi hj hmb hm
    rw [hij, hj] at hi
    exact ⟨hij, (Option.some.inj hi).symm⟩
  · have hexp := getElem?_expire_of_fresh hj hfresh
    exact absurd hm (hnone c (List.mem_of_getElem? hexp))

/-- The lookup is refused only when no unexpired context matches, so a message in progress goes
on. -/
theorem Refused.not_matches (hq : Refused p now f params q)
    (hkey : Keyed p.additionalQueryCb params mark e) {j : ℕ} {c : TransportBuffer ε}
    (hj : p.contexts[j]? = some c) (hfresh : c.timedOut now p.rxTimeoutMs = false) :
    ¬ Matches e f c := by
  intro hm
  cases hq with
  | misuse hmisuse => exact hkey.allowed hmisuse
  | noContext hnone =>
    have hno := hnone c (List.mem_of_getElem? (getElem?_expire_of_fresh hj hfresh))
    rw [(isMatch_iff_matches hkey).mpr hm] at hno
    cases hno

/-- The first fragment of a message is refused only when no context is FREE; with a FREE one there
is a buffer as well. -/
theorem Refused.not_free (hq : Refused p now f params q) (hinv : PoolInv p)
    (hkey : Keyed p.additionalQueryCb params mark e) (hidx : f.fragIdx = 0)
    {c : TransportBuffer ε} (hc : c ∈ p.contexts) : c.state ≠ .free := by
  intro hfree
  cases hq with
  | misuse hmisuse => exact hkey.allowed hmisuse
  | noContext _ hwhy =>
    -- a FREE context stays FREE when the others expire
    have hmem : c ∈ (p.expire now).contexts := by
      rw [expire_contexts, List.mem_map]
      refine ⟨c, hc, expire_state_of_ne ?_⟩
      rw [hfree]
      exact fun h => by cases h
    -- None of the three reasons for a refusal is left.
    rcases hwhy with hne | hnone | hbufs
    · exact hne hidx
    · exact hnone c hmem hfree
    · obtain ⟨j, hj⟩ := List.getElem?_of_mem hmem
      exact (hinv.expire now).freeBufs_ne_nil hj hfree hbufs

end Keys

end DectCommunicator
