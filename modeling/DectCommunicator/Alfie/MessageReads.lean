import DectCommunicator.Alfie.Holders
import DectCommunicator.Alfie.Messaging

/-!
# Reads stay within the message

The lengths that the layers check, carried from the reassembly of a message to its last read. A
context that becomes REFERENCED holds exactly `total_size_bytes` bytes (`Keeps` and
`Pipeline.Step.messages`), what the router takes a reference to is at least as long as the alfie
header, and neither changes while the router holds it (`MessagesInv`).

`Reading` is the pipeline of one transport with the forward function that the router thread is in,
one statement a step, so that frames arrive between any two reads. Buffers of other transports are
read from pools of their own, of which the same holds.
-/

namespace DectCommunicator

open Machine Reader

variable {ε κ : Type}

/-! ### Messages in REFERENCED contexts -/

/-- What a reader sees of a context: the bytes and the announced size. It sees neither the state nor
the count of references, so these may change under it. -/
def TransportBuffer.message (b : TransportBuffer ε) : Packet UInt8 UInt16 :=
  ⟨b.data, b.totalSizeBytes⟩

/-- The REFERENCED contexts of `q` are REFERENCED in `p`, with the same message. -/
def Keeps (p q : TransportBufferPool ε κ) : Prop :=
  ∀ (i : ℕ) (c : TransportBuffer ε), q.contexts[i]? = some c → c.state = .referenced →
    ∃ b : TransportBuffer ε, p.contexts[i]? = some b ∧ b.state = .referenced ∧
      b.message = c.message

section Keeps

variable {p q : TransportBufferPool ε κ} {now : UInt32} {f : Fragment} {params : Option κ}
  {i : ℕ} {b b' : TransportBuffer ε}

/-- A step that does nothing to the pool keeps every message in it. -/
theorem Keeps.refl (p : TransportBufferPool ε κ) : Keeps p p :=
  fun _ c hi hc => ⟨c, hi, hc, rfl⟩

/-- A lookup that succeeds keeps the messages that are referenced: it takes a context that is
not. -/
theorem Obtained.keeps (hq : Obtained p now f params i b q) : Keeps p q := by
  intro j c hj hc
  by_cases hji : j = i
  · -- the context that is returned is RECEIVING
    subst hji
    rw [hq.getElem?] at hj
    rw [← Option.some.inj hj, hq.receiving] at hc
    cases hc
  · rw [hq.getElem?_of_ne hji] at hj
    exact ⟨c, (expire_referenced_iff p now j hc).mp hj, hc, rfl⟩

/-- And so does one that fails, which may still have freed contexts whose time was over. -/
theorem Refused.keeps (hq : Refused p now f params q) : Keeps p q := by
  cases hq with
  | misuse => exact .refl p
  | noContext => exact fun j c hj hc => ⟨c, (expire_referenced_iff p now j hc).mp hj, hc, rfl⟩

/-- One context is written: it keeps its message, or is not REFERENCED afterwards. -/
theorem Keeps.store (hi : p.contexts[i]? = some b)
    (hb : b'.state = .referenced → b.state = .referenced ∧ b.message = b'.message) :
    Keeps p (p.store i b') := by
  intro j c hj hc
  by_cases hji : j = i
  · subst hji
    rw [store_getElem?_self b' hi] at hj
    obtain rfl := Option.some.inj hj
    exact ⟨b, hi, hb hc⟩
  · rw [store_getElem?_of_ne p i b' hji] at hj
    exact ⟨c, hj, hc, rfl⟩

/-- Taking a reference counts, and leaves the message as it is. -/
theorem ref_message (b : TransportBuffer ε) : (transportBufferRef b).message = b.message := by
  unfold TransportBuffer.message TransportBuffer.data transportBufferRef
  cases b.buffer <;> rfl

/-- Giving a reference back keeps the messages: only the last one frees the context, and a context
that is freed is no longer referenced, so nothing is promised of it. -/
theorem Keeps.unref (p : TransportBufferPool ε κ) (i : ℕ) : Keeps p (transportBufferUnref p i) := by
  unfold transportBufferUnref
  split
  · exact .refl p
  next b hi =>
  split
  · exact .refl p
  next nb hnb =>
  split
  · -- the last reference: the context is FREE now, and nothing is promised of it
    exact .store hi fun hb => (by cases hb)
  · -- others hold it still, and the bytes are theirs
    refine .store hi fun hb => ⟨hb, ?_⟩
    unfold TransportBuffer.message TransportBuffer.data
    rw [hnb]
    rfl

end Keeps

/-! ### The pipeline -/

section Pipeline

variable {s s' : Pipeline ε κ} {type : AlfieTransportType} {registered : Bool}

/-- **What a step does to the messages.** They are kept, except that a write may complete one,
whose length is then its `total_size_bytes`. -/
theorem PipelineInv.messages (h : PipelineInv s) (hstep : s.Step type s') :
    Keeps s.pool s'.pool ∨
      ∃ (i : ℕ) (b b' : TransportBuffer ε), s'.phase = .completed i ∧
        s.pool.contexts[i]? = some b ∧ s'.pool = s.pool.store i b' ∧
        b'.data.length = b'.totalSizeBytes.toNat := by
  cases hstep with
  | given _ hq => exact Or.inl hq.keeps
  | refused _ hq => exact Or.inl hq.keeps
  | @written now mark i f b b' ret hphase hi hw =>
    -- a write works on a RECEIVING context, of which no message is kept
    obtain ⟨c, hc, hreceiving⟩ := h.obtained i f hphase
    rw [hi] at hc
    obtain rfl := Option.some.inj hc
    have hst := hw.state_eq
    by_cases hret : ret = .complete
    · subst hret
      cases hw with
      -- the write has just checked the length against the announced size
      | complete hdata hidx hlast hlen =>
        exact Or.inr ⟨i, b, _, rfl, hi, rfl, (len_eq_length_data _).symm.trans hlen⟩
    · -- the context stays RECEIVING
      rw [if_neg hret, mark_state, hreceiving] at hst
      exact Or.inl (.store hi fun hb => by cases hst.symm.trans hb)
  | ref hphase hi => exact Or.inl (.store hi fun hb => ⟨hb, (ref_message _).symm⟩)
  | unref => exact Or.inl (.unref _ _)
  | release => exact Or.inl (.unref _ _)
  | skipped | entered | releaseOther => exact Or.inl (.refl _)
  | enqueued | otherRx =>
    rw [put_pool]
    exact Or.inl (.refl _)
  | dequeue =>
    rw [take_pool]
    exact Or.inl (.refl _)

/-- The router has context `i`, or is about to take its reference. -/
def Pipeline.Tracked (s : Pipeline ε κ) (i : ℕ) : Prop := s.phase = .entered i ∨ 0 < s.routerHolds i

/-- A context with the router is REFERENCED: the router took a reference before the transport gave
up its own. -/
theorem PipelineInv.tracked (h : PipelineInv s) {i : ℕ} (hi : s.Tracked i) :
    ∃ b, s.pool.contexts[i]? = some b ∧ b.state = .referenced := by
  refine h.referenced ?_
  unfold Pipeline.holders
  rcases hi with hphase | hrouter
  · rw [hphase]
    exact Nat.lt_add_right _ (by simp [RxPhase.holds])
  · exact Nat.lt_add_left _ hrouter

/-- Every step but the callback leaves with the router only what was with it before. -/
theorem Pipeline.Step.tracked (hstep : s.Step type s') {i : ℕ} (hi : s'.Tracked i) :
    s.Tracked i ∨ s.phase = .completed i ∧ s'.phase = .entered i ∧ s'.pool = s.pool := by
  -- in most steps the router holds what it held, and no callback begins
  have hsame : s'.phase ≠ .entered i → s'.routerHolds i = s.routerHolds i → s.Tracked i :=
    fun hphase hrouter => Or.inr (hrouter ▸ hi.resolve_left hphase)
  cases hstep with
  | given hphase hq =>
    exact Or.inl (hsame (by simp) (phase_routerHolds s i _ (by rw [hphase]; rfl)))
  | refused hphase hq => exact Or.inl hi
  | @written now mark j f b b' ret hphase hj hw =>
    refine Or.inl (hsame ?_ (phase_routerHolds s i _ ?_))
    · by_cases hret : ret = .complete <;> simp [hret]
    · rw [hphase]
      by_cases hret : ret = .complete <;> simp [hret, RxPhase.routerHolds]
  | skipped hphase =>
    exact Or.inl (hsame (by simp) (phase_routerHolds s i _ (by rw [hphase]; rfl)))
  -- the callback begins: from now on its context is with the router
  | @entered j hphase =>
    by_cases hji : j = i
    · subst hji
      exact Or.inr ⟨hphase, rfl, rfl⟩
    · exact Or.inl (hsame (by simpa using hji) (phase_routerHolds s i _ (by rw [hphase]; rfl)))
  -- the callback goes on, so its context was with the router before
  | @ref j b hphase hj =>
    by_cases hji : j = i
    · subst hji
      exact Or.inl (Or.inl hphase)
    · -- the reference that is taken is one to another context
      refine Or.inl (hsame (by simp) (phase_routerHolds s i _ ?_))
      rw [hphase]
      exact if_neg hji
  | @enqueued j hphase =>
    refine Or.inl (hsame ?_ (enqueued_routerHolds s type i hphase))
    rw [put_phase]
    simp
  | unref hphase =>
    exact Or.inl (hsame (by simp) (phase_routerHolds s i _ (by rw [hphase]; rfl)))
  -- an entry for the other transport is no entry for this pool
  | otherRx d a =>
    refine Or.inl ?_
    unfold Pipeline.Tracked at hi ⊢
    rwa [put_phase, otherRx_routerHolds] at hi
  | dequeue hhand hfifo =>
    refine Or.inl ?_
    unfold Pipeline.Tracked at hi ⊢
    rwa [take_phase, take_routerHolds s _ _ _ i hhand hfifo] at hi
  | @release j hhand =>
    -- what is left with the router was with it
    refine Or.inl (hi.imp id fun hrouter => Nat.lt_of_lt_of_le hrouter ?_)
    unfold Pipeline.routerHolds
    exact Nat.add_le_add_left (Nat.zero_le _) _
  | releaseOther hhand =>
    refine Or.inl (hi.imp id fun hrouter => Nat.lt_of_lt_of_le hrouter ?_)
    unfold Pipeline.routerHolds
    exact Nat.add_le_add_left (Nat.zero_le _) _

/-- What the callback lets through is at least as long as the alfie header. -/
theorem step_entered {x : PipelineAction ε κ} (h : s.step type registered x = some s') {i : ℕ}
    (hbefore : s.phase = .completed i) (hafter : s'.phase = .entered i) :
    ∃ b, s.pool.contexts[i]? = some b ∧ alfieProtoHeaderSizeBytes ≤ b.totalSizeBytes.toNat := by
  have hphase : s'.phase ≠ s.phase := fun heq => by
    rw [hbefore, hafter] at heq
    cases heq
  unfold Pipeline.step at h
  cases x with
  | callback =>
    dsimp only at h
    rw [hbefore] at h
    dsimp only at h
    split at h
    · next b hi =>
      split at h
      · -- no callback, or a message too short for it
        obtain rfl := Option.some.inj h
        cases hafter
      · next hlong => exact ⟨b, hi, not_lt.mp fun hlt => hlong (Or.inr hlt)⟩
    · cases h
  | poolGet | write | ref | enqueue | unref =>
    -- the receiver is not at such a step
    dsimp only at h
    rw [hbefore] at h
    cases h
  -- the router thread leaves the phase of the receiver as it is
  | otherRx d a =>
    obtain rfl := Option.some.inj h
    exact absurd (put_phase s _ d) hphase
  | dequeue d =>
    dsimp only at h
    split at h
    · obtain rfl := Option.some.inj h
      exact absurd (take_phase s _ _ d) hphase
    · cases h
  | release =>
    dsimp only at h
    split at h
    · obtain rfl := Option.some.inj h
      exact absurd rfl hphase
    · obtain rfl := Option.some.inj h
      exact absurd rfl hphase
    · cases h

/-- Once the router has released a message, the thread has none in its hand. -/
theorem step_release_inHand (h : s.step type registered .release = some s') : s'.inHand = none := by
  unfold Pipeline.step at h
  dsimp only at h
  split at h
  · obtain rfl := Option.some.inj h
    rfl
  · obtain rfl := Option.some.inj h
    rfl
  · cases h

/-- Only the router thread changes what it has in hand. -/
theorem step_inHand {x : PipelineAction ε κ} (h : s.step type registered x = some s')
    (hdequeue : ∀ d, x ≠ .dequeue d) (hrelease : x ≠ .release) : s'.inHand = s.inHand := by
  unfold Pipeline.step at h
  cases x with
  | dequeue d => exact absurd rfl (hdequeue d)
  | release => exact absurd rfl hrelease
  | otherRx d a =>
    obtain rfl := Option.some.inj h
    exact put_inHand s _ d
  -- the steps of the receiver change the pool, the phase and the FIFOs
  | poolGet now params f =>
    dsimp only at h
    split at h
    · split at h <;> (obtain rfl := Option.some.inj h; rfl)
    · cases h
  | callback =>
    dsimp only at h
    split at h
    · split at h
      · split at h <;> (obtain rfl := Option.some.inj h; rfl)
      · cases h
    · cases h
  | write | ref =>
    dsimp only at h
    split at h
    · split at h
      · obtain rfl := Option.some.inj h
        rfl
      · cases h
    · cases h
  -- a context that is queued goes to the end of a FIFO, and not to the hand
  | enqueue =>
    dsimp only at h
    split at h
    · obtain rfl := Option.some.inj h
      exact put_inHand _ _ type
    · cases h
  | unref =>
    dsimp only at h
    split at h
    · obtain rfl := Option.some.inj h
      rfl
    · cases h

/-- The invariant of the messages. It joins the two checks on the way of a message, by the transport
that completes it and by the router that takes it. -/
structure MessagesInv (s : Pipeline ε κ) : Prop where
  pipeline : PipelineInv s
  /-- a complete message is as long as announced -/
  complete : ∀ (i : ℕ) (b : TransportBuffer ε), s.pool.contexts[i]? = some b →
    b.state = .referenced → b.data.length = b.totalSizeBytes.toNat
  /-- and one with the router holds the alfie header -/
  header : ∀ (i : ℕ) (b : TransportBuffer ε), s.pool.contexts[i]? = some b → s.Tracked i →
    alfieProtoHeaderSizeBytes ≤ b.totalSizeBytes.toNat

/-- What the router has, it had with the same message, unless the callback has just let it in. -/
theorem MessagesInv.tracked_before (h : MessagesInv s) {x : PipelineAction ε κ}
    (hstep : s.step type registered x = some s') {i : ℕ} {c : TransportBuffer ε}
    (hc : s'.pool.contexts[i]? = some c) (hi : s'.Tracked i) :
    ∃ b, s.pool.contexts[i]? = some b ∧ b.state = .referenced ∧ b.message = c.message ∧
      (s.Tracked i ∨ s.phase = .completed i ∧ s'.phase = .entered i) := by
  have hspec := Pipeline.step_spec hstep
  have hinv' := h.pipeline.step hspec
  obtain ⟨c', hc', hreferenced⟩ := hinv'.tracked hi
  obtain rfl := Option.some.inj (hc.symm.trans hc')
  have hwith : s.Tracked i ∨ s.phase = .completed i ∧ s'.phase = .entered i :=
    (hspec.tracked hi).imp_right fun h => ⟨h.1, h.2.1⟩
  rcases h.pipeline.messages hspec with hkeeps | ⟨j, b, b', hphase, hj, hpool, hlen⟩
  · obtain ⟨b, hb, hst, hmessage⟩ := hkeeps i c hc hreferenced
    exact ⟨b, hb, hst, hmessage, hwith⟩
  · -- the completed context is not with the router yet
    have hji : i ≠ j := by
      rintro rfl
      rcases hi with hi | hi
      · cases hphase.symm.trans hi
      · exact absurd (hinv'.before i (Or.inl hphase)) hi.ne'
    rw [hpool, store_getElem?_of_ne s.pool j b' hji] at hc
    exact ⟨c, hc, hreferenced, rfl, hwith⟩

/-- **One step**: a message with the router was there before, and then it is unchanged, or it came
in this step, and then it was just checked. -/
theorem MessagesInv.step (h : MessagesInv s) {x : PipelineAction ε κ}
    (hstep : s.step type registered x = some s') : MessagesInv s' where
  pipeline := h.pipeline.step (Pipeline.step_spec hstep)
  complete i c hc hst := by
    rcases h.pipeline.messages (Pipeline.step_spec hstep) with
      hkeeps | ⟨j, b, b', hphase, hj, hpool, hlen⟩
    · -- a REFERENCED context is one that the step kept
      obtain ⟨b, hb, hreferenced, hmessage⟩ := hkeeps i c hc hst
      have hcomplete := h.complete i b hb hreferenced
      obtain ⟨hdata, htotal⟩ := Packet.mk.inj hmessage
      rwa [hdata, htotal] at hcomplete
    · rw [hpool] at hc
      -- or the one that it has just completed
      by_cases hij : i = j
      · subst hij
        rw [store_getElem?_self b' hj] at hc
        obtain rfl := Option.some.inj hc
        exact hlen
      · rw [store_getElem?_of_ne s.pool j b' hij] at hc
        exact h.complete i c hc hst
  header i c hc hi := by
    obtain ⟨b, hb, -, hmessage, hwith⟩ := h.tracked_before hstep hc hi
    rw [← (Packet.mk.inj hmessage).2]
    rcases hwith with hwith | ⟨hbefore, hafter⟩
    · -- it was with the router before
      exact h.header i b hb hwith
    · obtain ⟨b', hb', hlong⟩ := step_entered hstep hbefore hafter
      obtain rfl := Option.some.inj (hb.symm.trans hb')
      exact hlong

/-- All contexts are FREE in the beginning, and the router has no message. -/
theorem MessagesInv.init (numBuffers bufferSizeBytes : ℕ) (rxTimeoutMs : UInt32)
    (api : Option (TransportBuffer ε → Option κ → Bool)) (ext : ε) :
    MessagesInv (Pipeline.init numBuffers bufferSizeBytes rxTimeoutMs api ext) where
  pipeline := .init _ _ _ _ _
  complete i b hi hb := by
    rw [List.eq_of_mem_replicate (List.mem_of_getElem? hi)] at hb
    cases hb
  header i b hi htracked := by
    rcases htracked with hphase | hrouter
    · cases hphase
    · exact absurd hrouter (Nat.lt_irrefl 0)

end Pipeline

/-! ### The reads of the router thread -/

/-- The pipeline of a transport, with the rest of the forward function that the router thread
executes for the buffer it has in hand. -/
structure Reading (ε κ : Type) where
  pipeline : Pipeline ε κ
  handler : MessageReader

/-- What can happen next. A statement of the forward function is one action, so that the transport's
threads may run between any two reads. -/
inductive ReadingAction (ε κ : Type) where
  /-- an operation of the pipeline -/
  | operation (x : PipelineAction ε κ)
  /-- the next statement of the forward function -/
  | advance

/-- The forward function for a buffer dequeued from the FIFO of a direction. -/
def handlerOf (transports : List AlfieTransport) (endpoints : List AlfieEndpoint)
    (d : AlfieTransportType) : Option FifoEntry → MessageReader
  | some (.own i) => prvForwardReader d.opposite transports endpoints i
  | _ => .done

/-- A step: a dequeued buffer is handled, and released when the handling is over. -/
def Reading.step (type : AlfieTransportType) (registered : Bool) (transports : List AlfieTransport)
    (endpoints : List AlfieEndpoint) (s : Reading ε κ) : ReadingAction ε κ → Option (Reading ε κ)
  | .operation (.dequeue d) =>
    match s.pipeline.step type registered (.dequeue d) with
    | some p => some ⟨p, handlerOf transports endpoints d p.inHand⟩
    | none => none
  | .operation .release =>
    match s.handler, s.pipeline.step type registered .release with
    | .done, some p => some ⟨p, .done⟩
    | _, _ => none
  | .operation x =>
    match s.pipeline.step type registered x with
    | some p => some { s with pipeline := p }
    | none => none
  | .advance =>
    match s.pipeline.inHand with
    | some (.own i) =>
      match s.pipeline.pool.contexts[i]? with
      | some b =>
        match s.handler.step b.message with
        | some handler => some { s with handler := handler }
        | none => none
      | none => none
    | _ => none

/-- The state after initialisation: no message taken, and the forward function with nothing to
do. -/
def Reading.init (numBuffers bufferSizeBytes : ℕ) (rxTimeoutMs : UInt32)
    (api : Option (TransportBuffer ε → Option κ → Bool)) (ext : ε) : Reading ε κ :=
  ⟨.init numBuffers bufferSizeBytes rxTimeoutMs api ext, .done⟩

/-- The invariant: what is left to be executed is safe on the message in hand. -/
structure ReadingInv (s : Reading ε κ) : Prop where
  messages : MessagesInv s.pipeline
  handler : ∀ (i : ℕ) (b : TransportBuffer ε), s.pipeline.inHand = some (.own i) →
    s.pipeline.pool.contexts[i]? = some b → s.handler.Safe b.message (MessageCall.Fits b.message)

section Reading

variable {s s' : Reading ε κ} {type : AlfieTransportType} {registered : Bool}
  {transports : List AlfieTransport} {endpoints : List AlfieEndpoint}

/-- The steps, by what they do to the thread: a message is dequeued and its reader starts, the
reader goes on by one statement, or something else happens to the pool. -/
inductive Reading.Step (type : AlfieTransportType) (registered : Bool)
    (transports : List AlfieTransport) (endpoints : List AlfieEndpoint) (s : Reading ε κ) :
    Reading ε κ → Prop
  | dequeue {d : AlfieTransportType} {p : Pipeline ε κ}
      (hp : s.pipeline.step type registered (.dequeue d) = some p) :
      Reading.Step type registered transports endpoints s
        ⟨p, handlerOf transports endpoints d p.inHand⟩
  | release {p : Pipeline ε κ} (hp : s.pipeline.step type registered .release = some p)
      (hhand : p.inHand = none) :
      Reading.Step type registered transports endpoints s ⟨p, .done⟩
  | operation {x : PipelineAction ε κ} {p : Pipeline ε κ}
      (hp : s.pipeline.step type registered x = some p)
      (hhand : p.inHand = s.pipeline.inHand) :
      Reading.Step type registered transports endpoints s { s with pipeline := p }
  | advance {i : ℕ} {b : TransportBuffer ε} {handler : MessageReader}
      (hhand : s.pipeline.inHand = some (.own i)) (hi : s.pipeline.pool.contexts[i]? = some b)
      (hstep : s.handler.step b.message = some handler) :
      Reading.Step type registered transports endpoints s { s with handler := handler }

/-- Every possible action is one of these steps. -/
theorem Reading.step_spec {x : ReadingAction ε κ}
    (h : s.step type registered transports endpoints x = some s') :
    s.Step type registered transports endpoints s' := by
  unfold Reading.step at h
  -- the cases are those of the source order: dequeue, release, the other operations, a statement
  split at h
  · next d =>
    split at h
    · next p hp =>
      obtain rfl := Option.some.inj h
      exact .dequeue hp
    · cases h
  · split at h
    · -- the release is the last statement, so it comes when the reader is done
      next p hdone hp =>
      obtain rfl := Option.some.inj h
      exact .release hp (step_release_inHand hp)
    · cases h
  · next x hdequeue hrelease =>
    split at h
    · next p hp =>
      obtain rfl := Option.some.inj h
      exact .operation hp
        (step_inHand hp (fun d heq => hdequeue d (heq ▸ rfl)) fun heq => hrelease (heq ▸ rfl))
    · cases h
  · split at h
    · -- a statement is one of the reader of the message in hand
      next i hhand =>
      split at h
      · next b hi =>
        split at h
        · next handler hstep =>
          obtain rfl := Option.some.inj h
          exact .advance hhand hi hstep
        · cases h
      · cases h
    · cases h

/-- What the router thread has in hand is with the router. -/
theorem Pipeline.tracked_of_inHand {s : Pipeline ε κ} {i : ℕ} (h : s.inHand = some (.own i)) :
    s.Tracked i := by
  refine Or.inr ?_
  unfold Pipeline.routerHolds
  rw [h]
  simp

/-- **One step**: what the reader still has to do stays safe for the message it was started on. A
step of another thread keeps the message, and a step of the reader is one its safety allows. -/
theorem ReadingInv.step (h : ReadingInv s) (hstep : s.Step type registered transports endpoints s') :
    ReadingInv s' := by
  cases hstep with
  | @dequeue d p hp =>
    have hmessages := h.messages.step hp
    refine ⟨hmessages, fun i b hhand hi => ?_⟩
    -- the whole forward function is still to be executed
    have htracked := Pipeline.tracked_of_inHand hhand
    obtain ⟨c, hc, hreferenced⟩ := hmessages.pipeline.tracked htracked
    obtain rfl := Option.some.inj (hi.symm.trans hc)
    have hlen := hmessages.complete i b hi hreferenced
    have hheader := hmessages.header i b hi htracked
    rw [← hlen] at hheader
    dsimp only at hhand ⊢
    rw [hhand]
    exact prvForwardReader_safe hlen hheader d.opposite transports endpoints i
  | release hp hhand =>
    refine ⟨h.messages.step hp, fun i b hown hi => ?_⟩
    cases hhand.symm.trans hown
  | @operation x p hp hhand =>
    refine ⟨h.messages.step hp, fun i c hown hc => ?_⟩
    -- the message in hand is the one it was
    obtain ⟨b, hb, -, hmessage, -⟩ :=
      h.messages.tracked_before hp hc (Pipeline.tracked_of_inHand hown)
    rw [← hmessage]
    exact h.handler i b (hhand.symm.trans hown) hb
  | @advance i b handler hhand hi hstep =>
    refine ⟨h.messages, fun j c hown hc => ?_⟩
    obtain rfl : i = j := by
      injection hhand.symm.trans hown with hentry
      injection hentry
    obtain rfl := Option.some.inj (hi.symm.trans hc)
    exact (h.handler i b hhand hi).step hstep

end Reading

/-! ### Runs -/

/-- **No layer reads past a delivered message.** In every reachable state, whatever frames arrive
and wherever the threads are:

* the message that is handed to the callback is in a `net_buf` whose length is `total_size_bytes`;
* so is the message that the router thread handles, and its next statement, a read of a header or of
  bytes, lies within that length; the bytes written to a transport are all of the message, and the
  length of a text is that of the message less the 27 bytes before it. -/
theorem reads_within_message (type : AlfieTransportType) (registered : Bool)
    (transports : List AlfieTransport) (endpoints : List AlfieEndpoint)
    (numBuffers bufferSizeBytes : ℕ) (rxTimeoutMs : UInt32)
    (api : Option (TransportBuffer ε → Option κ → Bool)) (ext : ε)
    (xs : List (ReadingAction ε κ)) (s : Reading ε κ)
    (hrun : Steps (Reading.step type registered transports endpoints) (fun _ _ => True)
      (.init numBuffers bufferSizeBytes rxTimeoutMs api ext) xs s) :
    (∀ i, s.pipeline.phase = .completed i → ∃ b nb, s.pipeline.pool.contexts[i]? = some b ∧
      b.buffer = some nb ∧ nb.data.length = b.totalSizeBytes.toNat) ∧
    ∀ i, s.pipeline.inHand = some (.own i) → ∃ b nb, s.pipeline.pool.contexts[i]? = some b ∧
      b.buffer = some nb ∧ nb.data.length = b.totalSizeBytes.toNat ∧
      (∀ offset len k, s.handler = .read offset len k → offset + len ≤ nb.data.length) ∧
      ∀ call k, s.handler = .call call k → call.Fits ⟨nb.data, b.totalSizeBytes⟩ := by
  have hinv : ReadingInv s := by
    refine hrun.invariant (fun t x t' h _ hstep => h.step (Reading.step_spec hstep))
      ⟨.init _ _ _ _ _, fun i b hhand => by cases hhand⟩
  -- a context with a holder is REFERENCED, and its message complete
  have hbuffer : ∀ i, 0 < s.pipeline.holders i → ∃ b nb, s.pipeline.pool.contexts[i]? = some b ∧
      b.buffer = some nb ∧ b.data = nb.data ∧ nb.data.length = b.totalSizeBytes.toNat := by
    intro i hholds
    obtain ⟨b, hi, hb⟩ := hinv.messages.pipeline.referenced hholds
    obtain ⟨nb, hnb, -⟩ := hinv.messages.pipeline.ledger.counted i b hi hb
    have hdata : b.data = nb.data := by
      unfold TransportBuffer.data
      rw [hnb]
      rfl
    exact ⟨b, nb, hi, hnb, hdata, hdata ▸ hinv.messages.complete i b hi hb⟩
  refine ⟨fun i hphase => ?_, fun i hhand => ?_⟩
  · -- the transport holds what it hands to the callback
    have hholds : 0 < s.pipeline.holders i := by
      unfold Pipeline.holders
      rw [hphase]
      exact Nat.lt_add_right _ (by simp [RxPhase.holds])
    obtain ⟨b, nb, hi, hnb, -, hlen⟩ := hbuffer i hholds
    exact ⟨b, nb, hi, hnb, hlen⟩
  · -- and the router what it has in hand
    have hholds : 0 < s.pipeline.holders i := by
      unfold Pipeline.holders Pipeline.routerHolds
      rw [hhand]
      simp
    obtain ⟨b, nb, hi, hnb, hdata, hlen⟩ := hbuffer i hholds
    have hsafe := hinv.handler i b hhand hi
    unfold TransportBuffer.message at hsafe
    rw [hdata] at hsafe
    refine ⟨b, nb, hi, hnb, hlen, fun offset len k hread => ?_, fun call k hcall => ?_⟩
    · rw [hread] at hsafe
      exact hsafe.1
    · rw [hcall] at hsafe
      exact hsafe.1

/-- The text message "h" from device 1 to device 5. -/
def textToFive : List UInt8 :=
  [0, 0, 1, 0, 0, 0, 5, 0, 0, 0, 0] ++ List.replicate 16 7 ++ [104]

/-- It arrives over BLE in one frame and is dequeued; the thread executes eleven statements. -/
def oneText : List (ReadingAction Unit Unit) :=
  [.poolGet 0 none ⟨7, 28, 0, 1, textToFive⟩, .write 0 id, .callback, .ref, .enqueue, .unref,
    .dequeue .upstream].map .operation ++ List.replicate 11 .advance

/-- A text message that has gone through pool, FIFO and router: the next read is that of the text,
at byte 27 of the message, and within it. -/
theorem reads_within_message_text :
    ∃ (s : Reading Unit Unit) (b : TransportBuffer Unit) (nb : NetBuf) (k : List UInt8 → MessageReader),
      Steps (Reading.step .upstream true [⟨0, .downstream⟩, ⟨1, .upstream⟩] [⟨7, 0⟩])
        (fun _ _ => True) (.init 2 256 10000 none ()) oneText s ∧
      s.pipeline.pool.contexts[0]? = some b ∧ b.buffer = some nb ∧ s.handler = .read 27 1 k ∧
      27 + 1 ≤ nb.data.length := by
  have hend : ∃ s ∈ checkRun (Reading.step .upstream true [⟨0, .downstream⟩, ⟨1, .upstream⟩] [⟨7, 0⟩])
      (fun _ _ => True) (.init 2 256 10000 none ()) oneText, s.pipeline.inHand = some (.own 0) ∧
      ∃ k, s.handler = .read 27 1 k := ⟨_, rfl, rfl, _, rfl⟩
  obtain ⟨s, hs, hhand, k, hread⟩ := hend
  have hrun := steps_of_checkRun hs
  obtain ⟨-, hhandled⟩ := reads_within_message _ _ _ _ _ _ _ _ _ oneText s hrun
  obtain ⟨b, nb, hi, hnb, -, hwithin, -⟩ := hhandled 0 hhand
  exact ⟨s, b, nb, k, hrun, hi, hnb, hread, hwithin 27 1 k hread⟩

end DectCommunicator
