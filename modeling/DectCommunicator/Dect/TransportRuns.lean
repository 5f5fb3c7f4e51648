import DectCommunicator.Dect.TransportSpec
import DectCommunicator.Lib.Runs

/-!
# Runs of the DECT transport

The transport layer on its own: frames of any content arrive at any uptime, and consumers drop
references to the messages they hold.

A message that has been handed up stays as it is for as long as somebody holds it. No loop of
`transport_buffer_pool_get` considers a REFERENCED context (`Obtained.ne_of_referenced`), so no
frame touches it (`DataFrameStep.referenced`), and only the release of the last reference gives it
up (`referenced_immutable`).
-/

namespace DectCommunicator

open Machine

/-! ### One pool -/

section Pool

variable {ε κ : Type} {p q : TransportBufferPool ε κ} {now : UInt32} {f : Fragment}
  {params : Option κ} {i j : ℕ} {b c : TransportBuffer ε}

/-- A REFERENCED context does not expire, the first loop passing over every state but RECEIVING. -/
theorem getElem?_expire_of_referenced (hi : p.contexts[i]? = some b) (hb : b.state = .referenced)
    (now : UInt32) : (p.expire now).contexts[i]? = some b := by
  rw [expire_contexts, List.getElem?_map, hi, Option.map_some,
    expire_state_of_ne (ne_receiving_of_referenced hb)]

/-- It is not the one that a lookup returns: a match is RECEIVING and a fresh context was FREE. -/
theorem Obtained.ne_of_referenced (hq : Obtained p now f params j c q)
    (hi : p.contexts[i]? = some b) (hb : b.state = .referenced) : j ≠ i := by
  have hexp := getElem?_expire_of_referenced hi hb now
  rintro rfl
  cases hq with
  | found hj hmatch =>
    have hst := (isMatch_iff.mp hmatch).1
    rw [hexp] at hj
    rw [← Option.some.inj hj, hb] at hst
    cases hst
  | fresh _ _ hj hfree =>
    rw [hexp] at hj
    rw [← Option.some.inj hj, hb] at hfree
    cases hfree

/-- The lookup leaves it alone, be it by a match or by an allocation elsewhere. -/
theorem Obtained.referenced (hq : Obtained p now f params j c q) (hi : p.contexts[i]? = some b)
    (hb : b.state = .referenced) : q.contexts[i]? = some b := by
  rw [hq.getElem?_of_ne (hq.ne_of_referenced hi hb).symm]
  exact getElem?_expire_of_referenced hi hb now

/-- **No frame touches a message that has been handed up.** -/
theorem DataFrameStep.referenced {callback : Option (TransportRxCallback ε)} {mark : ε → ε}
    {out : List (RxEffect ε)} (hstep : DataFrameStep callback params mark now f p q out)
    (hi : p.contexts[i]? = some b) (hb : b.state = .referenced) : q.contexts[i]? = some b := by
  -- Whatever the step writes goes to the context it obtained, which is another one.
  have hstore : ∀ {j c q} (c' : TransportBuffer ε), Obtained p now f params j c q →
      (q.store j c').contexts[i]? = some b := by
    intro j c q c' hq
    rw [store_getElem?_of_ne _ _ _ (hq.ne_of_referenced hi hb).symm]
    exact hq.referenced hi hb
  cases hstep with
  -- the lookup gave no context, and at most expired some
  | refused hq =>
    cases hq with
    | misuse => exact hi
    | noContext => exact getElem?_expire_of_referenced hi hb now
  | rejected hq => exact hstore _ hq
  | duplicate hq => exact hstore _ hq
  | success hq => exact hstore _ hq
  | invalidFinalSize hq => exact hstore _ hq
  -- the callback may take references, but to the completed message only
  | @complete j c c' q hq =>
    obtain ⟨hother, -⟩ := handleCompleteTransaction_contexts callback
      (store_getElem?_self c' hq.getElem?)
    rw [hother i (hq.ne_of_referenced hi hb).symm]
    exact hstore _ hq

end Pool

/-! ### The machine -/

/-- What happens to the transport: `buf` arrives from `srcId` at uptime `now`, or a consumer drops
a reference to the message in context `i`. -/
inductive TransportInput where
  | rx (now srcId : UInt32) (buf : List UInt8)
  | release (i : ℕ)
deriving DecidableEq, Repr

/-- The transport handles an input. Every input is possible in every state. -/
def DectTransportLayer.step (st : DectTransportLayer) : TransportInput → Option DectTransportLayer
  | .rx now srcId buf => some (prvOnDataLayerRx now srcId buf st).1
  | .release i => some { st with rxPool := transportBufferUnref st.rxPool i }

/-- What `prv_on_data_layer_rx` does to the pool is a reassembly step, or nothing: a frame that is
too short, an ACK and a frame of an unknown type never get as far as the pool. -/
theorem prvOnDataLayerRx_pool (now srcId : UInt32) (buf : List UInt8) (st : DectTransportLayer) :
    (prvOnDataLayerRx now srcId buf st).1.rxPool = st.rxPool ∨
      ∃ (f : DectTransportLayerDataFrame) (effects : List (RxEffect DectTransportExt)),
        DataFrameStep st.transportRxCallback (some srcId) (fun ext => { ext with srcId }) now
          f.fragment st.rxPool (prvOnDataLayerRx now srcId buf st).1.rxPool effects := by
  unfold prvOnDataLayerRx
  split
  · exact Or.inl rfl
  split
  · unfold prvHandleDataFrame
    split
    · exact Or.inl rfl
    · exact Or.inr ⟨_, _, handleDataFrame_spec _ _ _ _ _ _⟩
  · exact Or.inl rfl
  · exact Or.inl rfl

/-! ### Messages in the hands of a consumer -/

/-- The context `c` holds the same message as `b`: another number of references at most, which is
why the buffer is compared by its index and its bytes. -/
structure SameMessage (b c : DectTransportBuffer) : Prop where
  state : c.state = b.state
  bufId : c.bufId = b.bufId
  data : c.data = b.data
  len : c.len = b.len
  seqId : c.seqId = b.seqId
  totalSizeBytes : c.totalSizeBytes = b.totalSizeBytes
  fragTotal : c.fragTotal = b.fragTotal
  ext : c.ext = b.ext

/-- A context holds the message it holds. -/
theorem SameMessage.refl (b : DectTransportBuffer) : SameMessage b b :=
  ⟨rfl, rfl, rfl, rfl, rfl, rfl, rfl, rfl⟩

/-- Two steps that keep a message keep it together. -/
theorem SameMessage.trans {b c d : DectTransportBuffer} (h : SameMessage b c)
    (h' : SameMessage c d) : SameMessage b d :=
  ⟨h'.state.trans h.state, h'.bufId.trans h.bufId, h'.data.trans h.data, h'.len.trans h.len,
    h'.seqId.trans h.seqId, h'.totalSizeBytes.trans h.totalSizeBytes,
    h'.fragTotal.trans h.fragTotal, h'.ext.trans h.ext⟩

/-- The input does not drop the last reference to the message in context `i`. A frame never does; it
is a condition on the consumers. -/
def KeepsReference (i : ℕ) (st : DectTransportLayer) : TransportInput → Prop
  | .rx _ _ _ => True
  | .release j => j = i → ∀ b ∈ st.rxPool.contexts[i]?, ∀ nb ∈ b.buffer, nb.ref ≠ 1

/-- One input keeps a message that has been handed up, unless it drops the last reference to it. -/
theorem referenced_step {st st' : DectTransportLayer} {x : TransportInput} {i : ℕ}
    {b : DectTransportBuffer} (hkeep : KeepsReference i st x) (hstep : st.step x = some st')
    (hi : st.rxPool.contexts[i]? = some b) (hb : b.state = .referenced) :
    ∃ c, st'.rxPool.contexts[i]? = some c ∧ SameMessage b c := by
  cases x with
  | rx now srcId buf =>
    -- a frame is a reassembly step of some fragment, or nothing
    obtain rfl := Option.some.inj hstep
    rcases prvOnDataLayerRx_pool now srcId buf st with hpool | ⟨f, effects, hpool⟩
    · rw [hpool]
      exact ⟨b, hi, .refl b⟩
    · exact ⟨b, hpool.referenced hi hb, .refl b⟩
  | release j =>
    obtain rfl := Option.some.inj hstep
    dsimp only
    by_cases hji : j = i
    · subst hji
      obtain ⟨hlt, -⟩ := List.getElem?_eq_some_iff.mp hi
      unfold transportBufferUnref
      rw [hi]
      dsimp only
      split
      · -- the context has no buffer to release
        exact ⟨b, hi, .refl b⟩
      · next nb hnb =>
        -- a reference is left
        rw [if_neg (hkeep rfl b hi nb hnb)]
        refine ⟨_, List.getElem?_set_self hlt, ⟨rfl, ?_, ?_, ?_, rfl, rfl, rfl, rfl⟩⟩
        · simp [TransportBuffer.bufId, hnb]
        · simp [TransportBuffer.data, hnb]
        · simp [TransportBuffer.len, hnb]
    · rw [unref_getElem?_of_ne _ (Ne.symm hji)]
      exact ⟨b, hi, .refl b⟩

/-- **A message stays as it is until its last reference is dropped.** After any frames and any
releases but that one, its context holds the same message, and no lookup returns, expires or
allocates it, whatever is asked for. -/
theorem referenced_immutable (st st' : DectTransportLayer) (i : ℕ) (b : DectTransportBuffer)
    (hi : st.rxPool.contexts[i]? = some b) (hb : b.state = .referenced) (xs : List TransportInput)
    (hrun : Steps DectTransportLayer.step (KeepsReference i) st xs st') :
    ∃ c, st'.rxPool.contexts[i]? = some c ∧ SameMessage b c ∧
      ∀ (now srcId : UInt32) (f : Fragment),
        (transportBufferPoolGet st'.rxPool now f.seqId f.totalSizeBytes.toNat f.fragIdx f.fragTotal
            (some srcId)).1 ≠ some i ∧
          (transportBufferPoolGet st'.rxPool now f.seqId f.totalSizeBytes.toNat f.fragIdx
            f.fragTotal (some srcId)).2.contexts[i]? = some c := by
  obtain ⟨c, hc, hsame⟩ : ∃ c, st'.rxPool.contexts[i]? = some c ∧ SameMessage b c := by
    refine hrun.invariant (P := fun s => ∃ c, s.rxPool.contexts[i]? = some c ∧ SameMessage b c)
      ?_ ⟨b, hi, .refl b⟩
    rintro s x t ⟨c, hc, hsame⟩ hkeep hstep
    obtain ⟨d, hd, hsame'⟩ := referenced_step hkeep hstep hc (hsame.state.trans hb)
    exact ⟨d, hd, hsame.trans hsame'⟩
  have hst : c.state = .referenced := hsame.state.trans hb
  -- In the state reached, the lookup is asked for whatever a frame could ask for.
  refine ⟨c, hc, hsame, fun now srcId f => ?_⟩
  rcases transportBufferPoolGet_spec st'.rxPool now f (some srcId) with
    ⟨j, d, q, hget, hq⟩ | ⟨q, hget, hq⟩
  · rw [hget]
    exact ⟨fun h => hq.ne_of_referenced hc hst (Option.some.inj h), hq.referenced hc hst⟩
  · rw [hget]
    refine ⟨fun h => (by cases h), ?_⟩
    cases hq with
    | misuse => exact hc
    | noContext => exact getElem?_expire_of_referenced hc hst now

/-- The frame with a whole message of one byte: complete with its first fragment. -/
def wholeMessage : List UInt8 := (dataFrameOf 7 [42] 0).toBytes

/-- The transport after a message has been handed up to a consumer that holds it. -/
def oneHeld : DectTransportLayer := (prvOnDataLayerRx 0 1 wholeMessage (.init (some fun _ => 1))).1

/-- The same frame again, after the timeout as well, and the release of the context it opened. All
three are about the key of the message that is held. -/
def sameFrames : List TransportInput :=
  [.rx 0 1 wholeMessage, .rx 11000 1 wholeMessage, .release 1]

/-- The message that is held stays, although the frame that carried it comes twice more. -/
theorem referenced_immutable_oneHeld :
    ∃ (st' : DectTransportLayer) (b c : DectTransportBuffer),
      Steps DectTransportLayer.step (KeepsReference 0) oneHeld sameFrames st' ∧
      oneHeld.rxPool.contexts[0]? = some b ∧ b.data = [42] ∧
      st'.rxPool.contexts[0]? = some c ∧ SameMessage b c := by
  obtain ⟨st', hrun⟩ : ∃ st', Steps DectTransportLayer.step (KeepsReference 0) oneHeld sameFrames
      st' :=
    ⟨_, .cons trivial rfl (.cons trivial rfl (.cons (fun h => absurd h (by decide)) rfl (.nil _)))⟩
  obtain ⟨c, hc, hsame, -⟩ := referenced_immutable oneHeld st' 0 _ rfl rfl sameFrames hrun
  exact ⟨st', _, c, hrun, rfl, rfl, hc, hsame⟩

end DectCommunicator
