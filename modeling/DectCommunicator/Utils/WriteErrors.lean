import DectCommunicator.Utils.TransportBufferSpec

/-!
# A failed write

What `transport_buffer_write` leaves behind when it does not return SUCCESS or COMPLETE. Four of
the five error results are returned before anything is changed. INVALID_FINAL_SIZE is not: the
fragment has been appended and counted by then, and the time taken (`Write.eq_of_error`).

So a write is atomic exactly when the last fragment does not leave the message short of its
announced size (`write_atomic_iff`). After a short one the same fragment is a DUPLICATE, and no
other one can complete the message (`short_message_stuck`).
-/

namespace DectCommunicator

variable {ε : Type}

/-- The fragment is the last one of the message in `b`, and does not fill it up to its announced
size. All of this is known before the write. -/
def FallsShort (b : TransportBuffer ε) (fragIdx : UInt8) (data : List UInt8) : Prop :=
  data ≠ [] ∧ fragIdx = b.fragIdx ∧ b.fragIdx + 1 = b.fragTotal ∧
    b.len + data.length < b.totalSizeBytes.toNat

instance (b : TransportBuffer ε) (fragIdx : UInt8) (data : List UInt8) :
    Decidable (FallsShort b fragIdx data) := by
  unfold FallsShort
  infer_instance

/-- The two contexts agree in what a write changes. The other fields are set when a context is
allocated and by its owner. -/
structure Unwritten (b b' : TransportBuffer ε) : Prop where
  data : b'.data = b.data
  len : b'.len = b.len
  fragIdx : b'.fragIdx = b.fragIdx
  state : b'.state = b.state
  lastRxTimeMs : b'.lastRxTimeMs = b.lastRxTimeMs

/-- A write that fails leaves the context as it was, so that the same write fails in the same way
and every other write does what it would have done before. -/
def WriteAtomic (now : UInt32) (b : TransportBuffer ε) (fragIdx : UInt8) (data : List UInt8) :
    Prop :=
  ∀ ret b', transportBufferWrite now b fragIdx data = (ret, b') →
    ret ≠ .success → ret ≠ .complete →
    Unwritten b b' ∧ (∀ now', (transportBufferWrite now' b' fragIdx data).1 = ret) ∧
      ∀ now' fragIdx' data', transportBufferWrite now' b' fragIdx' data' =
        transportBufferWrite now' b fragIdx' data'

section Write

variable {now : UInt32} {b b' : TransportBuffer ε} {fragIdx : UInt8} {data : List UInt8}
  {ret : TransportBufferWriteRet}

/-- Before the last check nothing has been changed, so the four errors returned by then leave the
context alone. -/
theorem Write.eq_of_error (h : Write now b fragIdx data ret b') (hsuccess : ret ≠ .success)
    (hcomplete : ret ≠ .complete) (hsize : ret ≠ .invalidFinalSize) : b' = b := by
  cases h with
  | success => exact absurd rfl hsuccess
  | invalidFinalSize => exact absurd rfl hsize
  | complete => exact absurd rfl hcomplete
  | _ => rfl

/-- INVALID_FINAL_SIZE is the result for a last fragment that falls short, and for nothing else. -/
theorem Write.invalidFinalSize_iff (h : Write now b fragIdx data ret b') (hb : b.buffer ≠ none) :
    ret = .invalidFinalSize ↔ FallsShort b fragIdx data := by
  have hlen : (b.accept now data).len = b.len + data.length := accept_len now data hb
  -- Every other result is given under a condition that contradicts one part of falling short.
  cases h with
  | invalidArgs hdata => exact ⟨fun h => (by cases h), fun h => absurd hdata h.1⟩
  | outOfOrderFragment _ hidx =>
    refine ⟨fun h => (by cases h), fun h => ?_⟩
    rw [h.2.1] at hidx
    exact absurd hidx (UInt8.lt_irrefl _)
  | duplicate _ hidx =>
    refine ⟨fun h => (by cases h), fun h => ?_⟩
    rw [h.2.1] at hidx
    exact absurd hidx (UInt8.lt_irrefl _)
  | overrun _ _ hover => exact ⟨fun h => (by cases h), fun h => absurd h.2.2.2 (by omega)⟩
  | success _ _ _ hlast => exact ⟨fun h => (by cases h), fun h => absurd h.2.2.1 hlast⟩
  | invalidFinalSize hdata hidx hfit hlast hne =>
    rw [hlen] at hne
    exact ⟨fun _ => ⟨hdata, hidx, hlast, Nat.lt_of_le_of_ne hfit hne⟩, fun _ => rfl⟩
  | complete _ _ _ heq =>
    rw [hlen] at heq
    exact ⟨fun h => (by cases h), fun h => absurd h.2.2.2 (by omega)⟩

/-- The checks that reject a fragment do not look at the time, so it is rejected at any later time,
too. -/
theorem Write.retry (h : Write now b fragIdx data ret b') (hsuccess : ret ≠ .success)
    (hcomplete : ret ≠ .complete) (hsize : ret ≠ .invalidFinalSize) (now' : UInt32) :
    transportBufferWrite now' b fragIdx data = (ret, b) := by
  unfold transportBufferWrite
  -- The result determines which checks were passed, and these are passed again.
  cases h with
  | success => exact absurd rfl hsuccess
  | invalidFinalSize => exact absurd rfl hsize
  | complete => exact absurd rfl hcomplete
  | invalidArgs hdata => exact if_pos (List.length_eq_zero_iff.mpr hdata)
  | outOfOrderFragment hdata hidx =>
    rw [if_neg (mt List.length_eq_zero_iff.mp hdata), if_pos hidx]
  | duplicate hdata hidx =>
    rw [if_neg (mt List.length_eq_zero_iff.mp hdata), if_neg (UInt8.lt_asymm hidx), if_pos hidx]
  | overrun hdata hidx hover =>
    subst hidx
    rw [if_neg (mt List.length_eq_zero_iff.mp hdata), if_neg (UInt8.lt_irrefl _),
      if_neg (UInt8.lt_irrefl _), if_pos hover]

/-- **A write is atomic on error exactly if it does not end the message short of its size.** The
context has to have a buffer, as a RECEIVING one always does. -/
theorem write_atomic_iff (now : UInt32) (b : TransportBuffer ε) (hb : b.buffer ≠ none)
    (fragIdx : UInt8) (data : List UInt8) :
    WriteAtomic now b fragIdx data ↔ ¬ FallsShort b fragIdx data := by
  have hspec := transportBufferWrite_spec now b fragIdx data
  constructor
  · intro h hshort
    -- the fragment has been counted
    have hret := (hspec.invalidFinalSize_iff hb).mpr hshort
    generalize hw : transportBufferWrite now b fragIdx data = w at hspec hret
    obtain ⟨ret, b'⟩ := w
    dsimp only at hspec hret
    subst hret
    obtain ⟨hunwritten, -⟩ := h _ _ hw TransportBufferWriteRet.noConfusion
      TransportBufferWriteRet.noConfusion
    have hidx := hunwritten.fragIdx
    cases hspec with
    | invalidFinalSize =>
      rw [accept_fragIdx] at hidx
      exact absurd (UInt8.add_eq_left.mp hidx) (by decide)
  · -- Any other error is returned before anything is changed.
    intro hshort ret b' hw hsuccess hcomplete
    rw [hw] at hspec
    have hsize : ret ≠ .invalidFinalSize := fun hret =>
      hshort ((hspec.invalidFinalSize_iff hb).mp hret)
    obtain rfl := hspec.eq_of_error hsuccess hcomplete hsize
    refine ⟨⟨rfl, rfl, rfl, rfl, rfl⟩, fun now' => ?_, fun _ _ _ => rfl⟩
    rw [hspec.retry hsuccess hcomplete hsize]

/-- The first half of a message of two bytes in two fragments. -/
def firstHalf : TransportBuffer Unit :=
  { buffer := some ⟨0, 1, [0]⟩
    state := .receiving
    seqId := 7
    totalSizeBytes := 2
    fragTotal := 2
    fragIdx := 1
    lastRxTimeMs := 0
    ext := () }

/-- The second half completes the message, and fragment 2 is out of order and changes nothing. -/
theorem write_atomic_firstHalf : WriteAtomic 5 firstHalf 2 [1] :=
  (write_atomic_iff 5 firstHalf (by decide) 2 [1]).mpr fun h => absurd h.2.1 (by decide)

/-- The context of a message that announces two bytes in one fragment, before the fragment
arrives. -/
def emptyContext : TransportBuffer Unit :=
  { buffer := some ⟨0, 1, []⟩
    state := .receiving
    seqId := 7
    totalSizeBytes := 2
    fragTotal := 1
    fragIdx := 0
    lastRxTimeMs := 0
    ext := () }

/-- The fragment carries only one byte: it is rejected, and kept. The counter has passed it, so no
fragment can complete the message any more. -/
theorem short_message_stuck :
    ¬ ∀ (now : UInt32) (b : TransportBuffer Unit), b.buffer ≠ none →
      ∀ (fragIdx : UInt8) (data : List UInt8), WriteAtomic now b fragIdx data := by
  intro h
  obtain ⟨hunwritten, -⟩ := h 0 emptyContext (by decide) 0 [1] .invalidFinalSize _ rfl
    TransportBufferWriteRet.noConfusion TransportBufferWriteRet.noConfusion
  exact absurd hunwritten.fragIdx (by decide)

end Write

end DectCommunicator
