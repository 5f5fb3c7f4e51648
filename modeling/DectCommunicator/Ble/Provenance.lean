import DectCommunicator.Ble.LongConnection
import DectCommunicator.Ble.OneWay

/-!
# Where the messages of a direction come from

The argument that a receiver delivers only what the other side sent is the same in both directions
of a connection, and is made here once. `look` gives, for a `seq_id`, the last call that drew it.

`Provenance` says that the channel carries frames of these calls and ACKs only, that the call that
goes on sends frames of these calls only, that the receiver is fit for each of them (`Fit`), and
that everything it has delivered satisfies `Sent`. There is a rule for each thing that can happen:
`Provenance.start` for a new call, `Provenance.receive` for a frame that the receiver handles,
`Provenance.subset` and `Provenance.acks` for the channel, and `Provenance.resume` for the call.
-/

namespace DectCommunicator

open StopAndWait

/-- What a direction carries: frames of the last calls, and ACKs for the other direction. An ACK
here is arbitrary, since it never becomes part of a message. -/
inductive Carried (look : UInt16 → Option Outgoing) : List UInt8 → Prop
  | frame {x : List UInt8} (h : IsLookedUp look x) : Carried look x
  | ack (a : AlfieBleServiceProtoDataAckFrame) : Carried look a.toBytes

/-- A data frame that is carried is one of the last call under its `seq_id`: the other kind of value
is no data frame. -/
theorem Carried.eq_frame {look : UInt16 → Option Outgoing} {f : AlfieBleServiceProtoDataFrame}
    (h : Carried look f.toBytes) :
    ∃ o i, look f.seqId = some o ∧ i < o.count ∧ f = o.frame i := by
  generalize hx : f.toBytes = x at h
  cases h with
  | ack a => exact absurd hx.symm (ack_ne_data a f)
  | frame hframe =>
    rw [← hx] at hframe
    exact hframe.eq_frame

/-- **The invariant of a direction.** What is under way, what is about to be sent and what the
receiver holds are of the last calls, and so is what has been delivered. `look` grows with the calls
and is existential where the invariant is used, so it is no part of the state. -/
structure Provenance {ε : Type} (look : UInt16 → Option Outgoing) (Sent : List UInt8 → Prop)
    (channel : List (List UInt8)) (writer : Option (BleCall × Proc ε (List UInt8) (Status ε)))
    (Fit : Outgoing → Prop) (delivered : List (List UInt8)) : Prop where
  call : ∀ seqId o, look seqId = some o → o.seqId = seqId ∧ Sent o.data
  channel : ∀ x ∈ channel, Carried look x
  writer : ∀ call p, writer = some (call, p) → p.SendsOnly (IsLookedUp look)
  fit : ∀ seqId o, look seqId = some o → Fit o
  delivered : ∀ m ∈ delivered, Sent m

section Rules

variable {ε : Type} {look : UInt16 → Option Outgoing} {Sent : List UInt8 → Prop}
  {channel : List (List UInt8)} {writer : Option (BleCall × Proc ε (List UInt8) (Status ε))}
  {Fit : Outgoing → Prop} {delivered : List (List UInt8)}

/-- Before the first call nothing is under way and nothing has been delivered. -/
theorem Provenance.init : @Provenance ε (fun _ => none) Sent [] none Fit [] where
  call _ _ h := by cases h
  channel _ h := absurd h List.not_mem_nil
  writer _ _ h := by cases h
  fit _ _ h := by cases h
  delivered _ h := absurd h List.not_mem_nil

/-- Values leave the channel: what is said of the others remains. -/
theorem Provenance.subset (h : Provenance look Sent channel writer Fit delivered)
    {rest : List (List UInt8)} (hsub : rest ⊆ channel) :
    Provenance look Sent rest writer Fit delivered :=
  { h with channel := fun x hx => h.channel x (hsub hx) }

/-- ACKs for the other direction enter the channel, whatever they acknowledge. -/
theorem Provenance.acks (h : Provenance look Sent channel writer Fit delivered)
    {acks : List (List UInt8)}
    (hacks : ∀ x ∈ acks, ∃ a : AlfieBleServiceProtoDataAckFrame, x = a.toBytes) :
    Provenance look Sent (channel ++ acks) writer Fit delivered := by
  refine { h with channel := List.forall_mem_append.mpr ⟨h.channel, fun x hx => ?_⟩ }
  obtain ⟨a, rfl⟩ := hacks x hx
  exact .ack a

/-- The receiver releases something, after which it is fit for every call it was fit for. -/
theorem Provenance.refit (h : Provenance look Sent channel writer Fit delivered)
    {Fit' : Outgoing → Prop} (hfit : ∀ o, Fit o → Fit' o) :
    Provenance look Sent channel writer Fit' delivered :=
  { h with fit := fun seqId o ho => hfit o (h.fit seqId o ho) }

/-- There is no call any more, it having returned or been cancelled. Its frames stay under way. -/
theorem Provenance.cancel (h : Provenance look Sent channel writer Fit delivered) :
    Provenance look Sent channel (none : Option (BleCall × Proc ε (List UInt8) (Status ε))) Fit
      delivered :=
  { h with writer := fun _ _ hw => by cases hw }

/-- The call goes on, and sends nothing else than before. This covers each effect but a send that
succeeds. -/
theorem Provenance.resume (h : Provenance look Sent channel writer Fit delivered) (call : BleCall)
    {k : Proc ε (List UInt8) (Status ε)} (hk : k.SendsOnly (IsLookedUp look)) :
    Provenance look Sent channel (some (call, k)) Fit delivered :=
  { h with writer := hk.running }

/-- The call sends a frame, which is one of its own, and goes on. -/
theorem Provenance.send {call : BleCall} {x : List UInt8}
    {k : Status ε → Proc ε (List UInt8) (Status ε)}
    (h : Provenance look Sent channel (some (call, .send x k)) Fit delivered) :
    Provenance look Sent (channel ++ [x]) (some (call, k .ok)) Fit delivered := by
  obtain ⟨hx, hk⟩ := h.writer call _ rfl
  refine { h.resume call (hk .ok) with channel := List.forall_mem_append.mpr ⟨h.channel, ?_⟩ }
  exact List.forall_mem_singleton.mpr (.frame hx)

/-- **A call begins.** It is the last one under its `seq_id` from now on, so what is left under the
`seq_id` has to be part of it. -/
theorem Provenance.start (h : Provenance look Sent channel writer Fit delivered) (o : Outgoing)
    (hsent : Sent o.data) (hchannel : OnlyFrames o channel) (hfit : Fit o) (call : BleCall)
    (attempts timeoutMs : ℕ) : ∃ look' : UInt16 → Option Outgoing,
      Provenance look' Sent channel
        (some (call, (transfer attempts timeoutMs o.frames : Proc ε _ _))) Fit delivered := by
  have hself : Function.update look o.seqId (some o) o.seqId = some o :=
    Function.update_self _ _ _
  have hother : ∀ {id : UInt16}, id ≠ o.seqId →
      Function.update look o.seqId (some o) id = look id := fun hne =>
    Function.update_of_ne hne _ _
  have hcases : ∀ {id : UInt16} {x : Outgoing},
      Function.update look o.seqId (some o) id = some x →
        x = o ∧ id = o.seqId ∨ look id = some x := by
    intro id x hx
    -- the new call replaces the one before under its `seq_id` and no other
    by_cases hid : id = o.seqId
    · rw [hid, hself] at hx
      exact Or.inl ⟨(Option.some.inj hx).symm, hid⟩
    · rw [hother hid] at hx
      exact Or.inr hx
  refine ⟨Function.update look o.seqId (some o), ?_, ?_, ?_, ?_, h.delivered⟩
  · intro id x hx
    rcases hcases hx with ⟨rfl, rfl⟩ | hold
    · exact ⟨rfl, hsent⟩
    · exact h.call id x hold
  · intro x hx
    cases h.channel x hx with
    | ack a => exact .ack a
    | frame hframe =>
      obtain ⟨y, i, hlook, hi, rfl⟩ := hframe
      by_cases hseq : y.seqId = o.seqId
      · -- what is in the channel under the `seq_id` belongs to the call
        obtain ⟨j, hj, hframe⟩ := hchannel _ hx hseq
        rw [hframe]
        exact .frame ⟨o, j, hself, hj, rfl⟩
      · exact .frame ⟨y, i, (hother hseq).trans hlook, hi, rfl⟩
  · -- the program of the call sends its own frames only
    refine Proc.SendsOnly.running (transfer_sendsOnly fun x hx => ?_)
    obtain ⟨i, hi, rfl⟩ := List.mem_map.mp hx
    exact ⟨o, i, hself, List.mem_range.mp hi, rfl⟩
  · intro id x hx
    rcases hcases hx with ⟨rfl, -⟩ | hold
    · exact hfit
    · exact h.fit id x hold

/-- **The receiver handles a frame.** It stays fit for the call of the frame, of which it may
deliver the data, and for every call under another `seq_id`. The two hypotheses are what is to be
shown of each receiver. -/
theorem Provenance.receive {f : AlfieBleServiceProtoDataFrame}
    (h : Provenance look Sent (f.toBytes :: channel) writer Fit delivered)
    {Fit' : Outgoing → Prop} {new : List (List UInt8)}
    (hown : ∀ o i, i < o.count → f = o.frame i → Fit o → Fit' o ∧ ∀ m ∈ new, m = o.data)
    (hother : ∀ o : Outgoing, f.seqId ≠ o.seqId → Fit o → Fit' o) :
    Provenance look Sent channel writer Fit' (delivered ++ new) := by
  obtain ⟨o, i, hlook, hi, hf⟩ := (h.channel _ List.mem_cons_self).eq_frame
  obtain ⟨hfit, hnew⟩ := hown o i hi hf (h.fit _ o hlook)
  have hseq := (h.call _ o hlook).1
  refine ⟨h.call, fun x hx => h.channel x (List.mem_cons_of_mem _ hx), h.writer, ?_, ?_⟩
  · intro id x hx
    -- `look` has one call under the `seq_id` of the frame
    by_cases hid : id = f.seqId
    · rw [hid, hlook] at hx
      rw [← Option.some.inj hx]
      exact hfit
    · refine hother x (fun heq => hid ?_) (h.fit id x hx)
      rw [heq, (h.call id x hx).1]
  · refine List.forall_mem_append.mpr ⟨h.delivered, fun m hm => ?_⟩
    rw [hnew m hm]
    exact (h.call _ o hlook).2

/-- The receiver handles an ACK, or drops a value. Neither delivers anything. -/
theorem Provenance.tail {x : List UInt8}
    (h : Provenance look Sent (x :: channel) writer Fit delivered) :
    Provenance look Sent channel writer Fit delivered :=
  h.subset (List.subset_cons_self x channel)

end Rules

end DectCommunicator
