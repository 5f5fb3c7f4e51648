import DectCommunicator.Dect.NetworkInv

/-!
# Integrity of reassembly

Whatever is lost, delayed, duplicated, reordered or timed out, a device hands up only messages that
the device named as their source wrote to it (`delivered_is_written`). The assumption on the
`seq_id`s is `NoSeqReuse`: a source does not use one again towards the same destination for other
data. Different sources are free to use the same one.

The invariant is `NetInv`, which ties every fragment in flight and every RECEIVING context to one
call, together with the property itself.
-/

namespace DectCommunicator

open Machine

/-- A call that draws a `seq_id` does not draw one that its device used for other data to the same
destination. -/
def NoSeqReuse (n : Net) : Action → Prop
  | .startWrite d dstId seqId data =>
    (n.device d).admits data = true →
      ∀ call ∈ (n.device d).calls, call.dstId = dstId → call.seqId = seqId → call.data = data
  | _ => True

instance (n : Net) (a : Action) : Decidable (NoSeqReuse n a) :=
  a.casesOn (motive := fun a => Decidable (NoSeqReuse n a))
    (fun d _ _ data => inferInstanceAs (Decidable ((n.device d).admits data = true → _)))
    (fun _ => instDecidableTrue) (fun _ _ _ _ => instDecidableTrue) (fun _ => instDecidableTrue)
    fun _ _ => instDecidableTrue

/-- Every message handed up was written by its source to the device. -/
def DeliveredIsWritten (n : Net) : Prop :=
  ∀ d, ∀ m ∈ (n.device d).delivered, ∃ call ∈ (n.device m.srcId).calls,
    call.dstId = d ∧ call.seqId = m.seqId ∧ call.data = m.data

/-- A `seq_id` that comes again comes with the same data, which is what the network's invariant asks
for. -/
theorem NoSeqReuse.admits {n : Net} {a : Action} (h : NoSeqReuse n a) : n.Admits a := by
  cases a with
  | startWrite d dstId seqId data =>
    intro hadmits
    refine Or.inl fun call hlook => ?_
    have hkey := List.find?_some hlook
    simp only [Bool.and_eq_true, decide_eq_true_eq] at hkey
    exact h hadmits call (List.mem_of_find?_eq_some hlook) hkey.1 hkey.2
  | _ => trivial

/-- One step keeps it: what was handed up before keeps its call, and what is handed up now comes
from a call that the lookup finds. -/
theorem DeliveredIsWritten.step {n n' : Net} {a : Action} (h : DeliveredIsWritten n)
    (hinv : NetInv n) (hstep : n.step a = some n') : DeliveredIsWritten n' := by
  intro d m hm
  obtain ⟨ms, hdelivered, hms⟩ := hinv.step_delivered hstep d
  rw [hdelivered] at hm
  rcases List.mem_append.mp hm with hm | hm
  · obtain ⟨call, hcall, hmsg⟩ := h d m hm
    exact ⟨call, hinv.step_calls hstep m.srcId hcall, hmsg⟩
  · obtain ⟨call, hlook, hdata⟩ := hms m hm
    obtain ⟨hdst, hseq, -⟩ := hinv.sound _ _ _ _ hlook
    exact ⟨call, hinv.step_calls hstep m.srcId (List.mem_of_find?_eq_some hlook), hdst, hseq, hdata⟩

/-- **Integrity.** In every run without reuse of `seq_id`s, every message a device has handed up is
the data of a call that its source made to the device. -/
theorem delivered_is_written
    {callback : UInt32 → Option (TransportRxCallback DectTransportExt)} {as : List Action} {n : Net}
    (h : Steps Net.step NoSeqReuse (Net.init callback) as n) (d : UInt32) (m : Delivery)
    (hm : m ∈ (n.device d).delivered) :
    ∃ call ∈ (n.device m.srcId).calls,
      call.dstId = d ∧ call.seqId = m.seqId ∧ call.data = m.data := by
  have hboth : NetInv n ∧ DeliveredIsWritten n := by
    refine h.invariant (P := fun n => NetInv n ∧ DeliveredIsWritten n) ?_
      ⟨.init callback, fun _ _ hm => absurd hm List.not_mem_nil⟩
    intro s a t hs hC hstep
    exact ⟨hs.1.step hC.admits hstep, hs.2.step hs.1 hstep⟩
  exact hboth.2 d m hm

/-- Devices 1 and 2 write to device 3 under the same `seq_id`; the first fragment of device 1 is
handled twice and its first ACK is lost. -/
def collidingWrites : List Action :=
  [.startWrite 1 3 7 fifteenBytes, .startWrite 2 3 7 [9],
    .writer 1, .writer 1, .writer 2, .writer 2,
    .receive 3 0 100 fun _ => 0, .lose 2, .receive 3 1 110 fun _ => 0, .writer 1,
    .writer 1, .writer 1, .receive 3 0 120 fun _ => 0, .receive 1 4 130 fun _ => 0, .writer 1,
    .writer 1, .writer 1, .receive 3 5 140 fun _ => 0]

/-- Both messages of `collidingWrites` are delivered under their own source, `seq_id` 7 or not. -/
theorem delivered_is_written_colliding :
    ∃ n, Steps Net.step NoSeqReuse (Net.init oneReference) collidingWrites n ∧
      (n.device 3).delivered = [⟨2, 7, [9]⟩, ⟨1, 7, fifteenBytes⟩] ∧
      ∃ call ∈ (n.device 1).calls, call.dstId = 3 ∧ call.seqId = 7 ∧ call.data = fifteenBytes := by
  have hrun : (checkRun Net.step NoSeqReuse (Net.init oneReference) collidingWrites).map
      (fun n => (n.device 3).delivered) = some [⟨2, 7, [9]⟩, ⟨1, 7, fifteenBytes⟩] := by
    decide +kernel
  obtain ⟨n, hn, hdelivered⟩ := Option.map_eq_some_iff.mp hrun
  have hsteps := steps_of_checkRun hn
  exact ⟨n, hsteps, hdelivered,
    delivered_is_written hsteps 3 ⟨1, 7, fifteenBytes⟩ (by rw [hdelivered]; decide)⟩

end DectCommunicator
