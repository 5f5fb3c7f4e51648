import DectCommunicator.Ble.Connection
import DectCommunicator.Ble.Outgoing

/-!
# One direction of the connection

The two directions differ in their languages, not in their argument, which is made here once. A
`OneWay` is what the argument needs to know of a direction: the suspended call, the histories, the
channel of the data frames, and three propositions for the flag, the ACKs under way and the
receiver.

`OneWayInv` says that the calls that have succeeded are delivered, and follows the suspended one
with `Acked`. There is a rule for each effect of the sender, `OneWayInv.ack` for an ACK that comes
in, and `OneWayInv.mono` for the steps of everything else.
-/

namespace DectCommunicator

open StopAndWait

/-- One direction: `given` when the flag that an ACK sets is up, `acked o` when an ACK of the last
frame of `o` is under way, `fit o` when the receiver is fit for `o`. `base` of a call counts in
`delivered`. The three propositions are filled in by each direction from its own state. -/
structure OneWay (ε : Type) where
  writer : Option (BleCall × Proc ε (List UInt8) (Status ε))
  sent : Option (List UInt8)
  returned : List (BleCall × Status ε)
  delivered : List (List UInt8)
  channel : List (List UInt8)
  given : Prop
  acked : Outgoing → Prop
  fit : Outgoing → Prop

/-- The data frames of a channel under the `seq_id` of `o` are frames of `o`. Nothing is said of
those under other numbers. -/
def OnlyFrames (o : Outgoing) (channel : List (List UInt8)) : Prop :=
  ∀ f : AlfieBleServiceProtoDataFrame, f.toBytes ∈ channel → f.seqId = o.seqId →
    ∃ i < o.count, f = o.frame i

/-- A channel that has lost values still has only frames of the call. -/
theorem OnlyFrames.subset {o : Outgoing} {l l' : List (List UInt8)} (h : OnlyFrames o l)
    (hsub : l' ⊆ l) : OnlyFrames o l' :=
  fun f hf => h f (hsub hf)

/-- What is sent behind has to be of the call as well. -/
theorem OnlyFrames.append {o : Outgoing} {l r : List (List UInt8)} (h : OnlyFrames o l)
    (hr : OnlyFrames o r) : OnlyFrames o (l ++ r) :=
  fun f hf hseq => (List.mem_append.mp hf).elim (fun hf => h f hf hseq) fun hf => hr f hf hseq

variable {ε : Type}

/-- The suspended call: its program is in a transfer of the frames of `o`, and what the other side
will make of these frames is settled. -/
structure Sending (attempts timeoutMs : ℕ) (l : OneWay ε) (call : BleCall)
    (p : Proc ε (List UInt8) (Status ε)) (o : Outgoing) : Prop where
  data : o.data = call.data
  transfer : Acked attempts timeoutMs o.frames l.sent l.given (l.acked o)
    (call.data ∈ l.delivered.drop call.base) p
  channel : OnlyFrames o l.channel
  fit : l.fit o

/-- **The invariant of a direction.** A call that returned success is delivered, and the suspended
one either is about to return an error or is followed by `Sending`. -/
structure OneWayInv (attempts timeoutMs : ℕ) (l : OneWay ε) : Prop where
  returned : ∀ call, (call, .ok) ∈ l.returned → call.data ∈ l.delivered.drop call.base
  base : ∀ call p, l.writer = some (call, p) → call.base ≤ l.delivered.length
  sending : ∀ call p, l.writer = some (call, p) →
    (∃ e, p = .ret (.err e)) ∨ ∃ o, Sending attempts timeoutMs l call p o

section Rules

variable {attempts timeoutMs : ℕ} {l l' : OneWay ε} {call : BleCall}

/-- **A step of the rest of the system**, after which the receiver is still fit for every call it
was fit for, and a new ACK of a last frame comes with the data delivered. -/
theorem OneWayInv.mono (h : OneWayInv attempts timeoutMs l) (hwriter : l'.writer = l.writer)
    (hsent : l'.sent = l.sent) (hreturned : l'.returned = l.returned)
    (hgiven : l'.given → l.given) (hdelivered : l.delivered <+: l'.delivered)
    (hcall : ∀ o, OnlyFrames o l.channel → l.fit o → OnlyFrames o l'.channel ∧ l'.fit o ∧
      (l'.acked o → l.acked o ∨ o.data ∈ l'.delivered.drop l.delivered.length)) :
    OneWayInv attempts timeoutMs l' where
  returned call hmem := by
    rw [hreturned] at hmem
    exact (hdelivered.drop _).subset (h.returned call hmem)
  base call p hw := by
    rw [hwriter] at hw
    exact (h.base call p hw).trans hdelivered.length_le
  sending call p hw := by
    rw [hwriter] at hw
    have hbase := h.base call p hw
    -- a call that is about to return an error needs nothing
    rcases h.sending call p hw with herr | ⟨o, ho⟩
    · exact Or.inl herr
    · obtain ⟨hchannel, hfit, hacked⟩ := hcall o ho.channel ho.fit
      refine Or.inr ⟨o, ho.data, ?_, hchannel, hfit⟩
      rw [hsent]
      refine ho.transfer.mono hgiven (fun ha => ?_) fun hdone => (hdelivered.drop _).subset hdone
      refine (hacked ha).imp_right fun hnew => ?_
      -- what is delivered now is delivered since the call began
      rw [← ho.data]
      exact List.drop_subset_drop_left _ hbase hnew

/-- **An ACK comes in**, which is the one of the last frame in case that is in hand. The flag says
nothing more about it, so this is where the condition on the run is used. -/
theorem OneWayInv.ack (h : OneWayInv attempts timeoutMs l) (given' : Prop)
    (hmatch : ∀ call p, l.writer = some (call, p) → ∀ x ∈ p.inHand l.sent,
      ∀ o : Outgoing, o.frames.getLast? = some x → l.acked o) :
    OneWayInv attempts timeoutMs { l with given := given' } where
  returned := h.returned
  base := h.base
  sending call p hw := by
    refine (h.sending call p hw).imp_right fun ⟨o, ho⟩ => ⟨o, ho.data, ?_, ho.channel, ho.fit⟩
    exact ho.transfer.ack fun x hx hlast => hmatch call p hw x hx o hlast

/-- A call begins: it is refused, or a transfer for which everything is ready. No ACK of its last
frame is under way, so the first one that comes is earned by a delivery. -/
theorem OneWayInv.start (h : OneWayInv attempts timeoutMs l) (hattempts : 0 < attempts)
    (seqId : UInt16) (data : List UInt8) {p : Proc ε (List UInt8) (Status ε)}
    (hp : (∃ e, p = .ret (.err e)) ∨ ∃ o : Outgoing, o.data = data ∧
      p = transfer attempts timeoutMs o.frames ∧ OnlyFrames o l.channel ∧ l.fit o ∧ ¬ l.acked o) :
    OneWayInv attempts timeoutMs
      { l with writer := some (⟨seqId, data, l.delivered.length⟩, p) } where
  returned := h.returned
  base call q hw := by
    obtain ⟨rfl, -⟩ := Prod.mk.inj (Option.some.inj hw)
    exact le_rfl
  sending call q hw := by
    obtain ⟨rfl, rfl⟩ := Prod.mk.inj (Option.some.inj hw)
    refine hp.imp_right fun ⟨o, hdata, heq, hchannel, hfit, hquiet⟩ =>
      ⟨o, hdata, ?_, hchannel, hfit⟩
    rw [heq]
    exact .start hattempts o.frames_ne_nil hquiet

/-- The call is cancelled, and is not among those that have returned. -/
theorem OneWayInv.cancel (h : OneWayInv attempts timeoutMs l) :
    OneWayInv attempts timeoutMs { l with writer := none } where
  returned := h.returned
  base _ _ hw := by cases hw
  sending _ _ hw := by cases hw

/-- The suspended call takes its next effect. The rules for the single effects below are instances
of this one. -/
theorem OneWayInv.resume (h : OneWayInv attempts timeoutMs l)
    {p k : Proc ε (List UInt8) (Status ε)} (hw : l.writer = some (call, p))
    (hwriter : l'.writer = some (call, k)) (hreturned : l'.returned = l.returned)
    (hdelivered : l'.delivered = l.delivered) (hk : ∀ o, Sending attempts timeoutMs l call p o →
      (∃ e, k = .ret (.err e)) ∨ Sending attempts timeoutMs l' call k o)
    (hp : ∀ e, p ≠ .ret (.err e)) : OneWayInv attempts timeoutMs l' where
  returned call hmem := by
    rw [hreturned] at hmem
    rw [hdelivered]
    exact h.returned call hmem
  base call' q hq := by
    rw [hwriter] at hq
    obtain ⟨rfl, -⟩ := Prod.mk.inj (Option.some.inj hq)
    rw [hdelivered]
    exact h.base _ p hw
  sending call' q hq := by
    rw [hwriter] at hq
    obtain ⟨rfl, rfl⟩ := Prod.mk.inj (Option.some.inj hq)
    -- a program that is to return an error has no effect left
    rcases h.sending _ p hw with ⟨e, he⟩ | ⟨o, ho⟩
    · exact absurd he (hp e)
    · exact (hk o ho).imp_right fun hk => ⟨o, hk⟩

/-- The flag is cleared, so an ACK that came before does not count for the frame. -/
theorem OneWayInv.reset (h : OneWayInv attempts timeoutMs l)
    {k : Proc ε (List UInt8) (Status ε)} (hw : l.writer = some (call, .reset k)) {given' : Prop}
    (hgiven : ¬ given') :
    OneWayInv attempts timeoutMs { l with writer := some (call, k), given := given' } := by
  refine h.resume hw rfl rfl rfl (fun o ho => Or.inr ⟨ho.data, ?_, ho.channel, ho.fit⟩)
    fun e he => by cases he
  exact ho.transfer.reset hgiven

/-- A frame is sent: it is behind everything in the channel, and it is one of the call. -/
theorem OneWayInv.send_ok (h : OneWayInv attempts timeoutMs l) {x : List UInt8}
    {k : Status ε → Proc ε (List UInt8) (Status ε)} (hw : l.writer = some (call, .send x k)) :
    OneWayInv attempts timeoutMs
      { l with writer := some (call, k .ok), sent := some x, channel := l.channel ++ [x] } := by
  refine h.resume hw rfl rfl rfl (fun o ho => ?_) fun e he => by cases he
  obtain ⟨hmem, hok, -⟩ := ho.transfer.send
  refine Or.inr ⟨ho.data, hok, ho.channel.append fun f hf _ => ?_, ho.fit⟩
  rw [← List.mem_singleton.mp hf] at hmem
  exact o.eq_frame_of_mem hmem

/-- The frame cannot be sent, so the call returns the error and never gets to a success. -/
theorem OneWayInv.send_err (h : OneWayInv attempts timeoutMs l) {x : List UInt8}
    {k : Status ε → Proc ε (List UInt8) (Status ε)} (hw : l.writer = some (call, .send x k))
    (e : ε) : OneWayInv attempts timeoutMs { l with writer := some (call, k (.err e)) } := by
  refine h.resume hw rfl rfl rfl (fun o ho => ?_) fun e he => by cases he
  exact Or.inr ⟨ho.data, ho.transfer.send.2.2 e, ho.channel, ho.fit⟩

/-- The wait ends on the flag. With the last frame in hand that flag was set by its ACK, so the data
is delivered. -/
theorem OneWayInv.take_ok (h : OneWayInv attempts timeoutMs l) (hattempts : 0 < attempts) {t : ℕ}
    {k : Status ε → Proc ε (List UInt8) (Status ε)} (hw : l.writer = some (call, .take t k))
    (hgiven : l.given) (given' : Prop) :
    OneWayInv attempts timeoutMs { l with writer := some (call, k .ok), given := given' } := by
  refine h.resume hw rfl rfl rfl (fun o ho => ?_) fun e he => by cases he
  exact Or.inr ⟨ho.data, ho.transfer.take_ok hattempts hgiven, ho.channel, ho.fit⟩

/-- The wait times out: another attempt follows, or the call returns the error. -/
theorem OneWayInv.take_err (h : OneWayInv attempts timeoutMs l) {t : ℕ}
    {k : Status ε → Proc ε (List UInt8) (Status ε)} (hw : l.writer = some (call, .take t k))
    (e : ε) : OneWayInv attempts timeoutMs { l with writer := some (call, k (.err e)) } := by
  refine h.resume hw rfl rfl rfl (fun o ho => ?_) fun e he => by cases he
  exact Or.inr ⟨ho.data, ho.transfer.take_err e, ho.channel, ho.fit⟩

/-- The call returns. Its success is what the transfer has established. -/
theorem OneWayInv.ret (h : OneWayInv attempts timeoutMs l) {r : Status ε}
    (hw : l.writer = some (call, .ret r)) :
    OneWayInv attempts timeoutMs
      { l with writer := none, returned := (call, r) :: l.returned } where
  returned call' hmem := by
    -- the call that returns now, or one that had returned before
    rcases List.mem_cons.mp hmem with heq | hmem
    · obtain ⟨rfl, rfl⟩ := Prod.mk.inj heq
      rcases h.sending _ _ hw with ⟨e, he⟩ | ⟨o, ho⟩
      · cases he
      · exact ho.transfer.of_ret_ok
    · exact h.returned call' hmem
  base _ _ hq := by cases hq
  sending _ _ hq := by cases hq

end Rules

end DectCommunicator
