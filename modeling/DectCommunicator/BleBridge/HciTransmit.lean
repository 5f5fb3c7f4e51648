import DectCommunicator.BleBridge.HciUart

/-!
# From the controller to the UART

`main` takes the buffers of the controller one by one, and puts each into `uart_tx_queue` and
enables the transmit interrupt, in this order. `tx_isr` writes the buffers to the UART in portions
and disables the interrupt when it finds none. The two run in any interleaving.

After `cc_evt` the UART sends the data of the buffers, in order and without a gap, and each buffer
is given back when its last byte is written (`transmitter_sends`). The interrupt is never left
disabled over data: `main` enables it after it has queued a buffer, and `tx_isr` disables it only
when it finds none (`transmitter_drains`).
-/

namespace DectCommunicator

open Machine

/-- The buffers that `main` has taken and that are not yet written. -/
def HciTransmitter.pending (t : HciTransmitter) : List HciBuf :=
  t.buf.toList ++ (t.uartTxQueue ++ t.holding.toList)

/-- What holds in every state: the bytes written and those pending are the ones taken, the buffers
given back and those pending are the ones taken, and the interrupt is enabled, or about to be, when
a buffer is pending in `tx_isr` or its queue. -/
structure HciTransmitter.Inv (t : HciTransmitter) : Prop where
  wire_eq : t.wire ++ t.pending.flatMap HciBuf.data = ccEvt ++ t.taken.flatMap HciBuf.data
  ids_eq : t.unreffed.map HciBuf.id ++ t.pending.map HciBuf.id = t.taken.map HciBuf.id
  main : t.enabling = true → t.holding = none
  irq : t.buf.isSome ∨ t.uartTxQueue ≠ [] → t.txIrq = true ∨ t.enabling = true

/-- At the start nothing is pending, and `cc_evt` has been written. -/
theorem HciTransmitter.Inv.init : HciTransmitter.init.Inv where
  wire_eq := rfl
  ids_eq := rfl
  main := fun h => by cases h
  irq := fun h => by simp [HciTransmitter.init] at h

variable {t t' : HciTransmitter} {b : HciBuf} {queue : List HciBuf}

/-- `fill` when the UART takes all of the buffer, which is then given back. -/
theorem HciTransmitter.fill_of_le (t : HciTransmitter) {b : HciBuf} {room : ℕ}
    (h : b.data.length ≤ room) :
    t.fill b room = { t with
      buf := none, wire := t.wire ++ b.data, unreffed := t.unreffed ++ [b.pull b.data.length] } := by
  have hnil : (b.pull b.data.length).data = [] := List.drop_length
  simp only [HciTransmitter.fill, Nat.min_eq_right h, List.take_length, if_pos hnil]

/-- `fill` when the UART takes a part of it, the rest being kept for the next interrupt. -/
theorem HciTransmitter.fill_of_lt (t : HciTransmitter) {b : HciBuf} {room : ℕ}
    (h : room < b.data.length) :
    t.fill b room = { t with
      buf := some (b.pull room), wire := t.wire ++ b.data.take room } := by
  have hrest : (b.pull room).data ≠ [] := by
    intro hnil
    have hlen := congrArg List.length hnil
    rw [HciBuf.pull, List.length_drop, List.length_nil] at hlen
    omega
  simp only [HciTransmitter.fill, Nat.min_eq_left (Nat.le_of_lt h), if_neg hrest]

/-- `tx_isr` finds no buffer, or goes on with the first one, whether it had taken that before or
not. -/
theorem txIsr_cases (t : HciTransmitter) (room : ℕ) :
    (t.buf = none ∧ t.uartTxQueue = [] ∧ txIsr t room = { t with txIrq := false }) ∨
      ∃ b queue, t.buf.toList ++ t.uartTxQueue = b :: queue ∧
        txIsr t room = { t with uartTxQueue := queue }.fill b room := by
  unfold txIsr
  cases hbuf : t.buf with
  | some b => exact .inr ⟨b, t.uartTxQueue, rfl, rfl⟩
  | none =>
    cases hqueue : t.uartTxQueue with
    | nil => exact .inl ⟨rfl, rfl, rfl⟩
    | cons b queue => exact .inr ⟨b, queue, rfl, rfl⟩

/-- The interrupt keeps the order of the bytes, and disables itself only with nothing pending for
it. -/
theorem HciTransmitter.Inv.interrupt (h : t.Inv) (hirq : t.txIrq = true) (room : ℕ) :
    (txIsr t room).Inv := by
  rcases txIsr_cases t room with ⟨hbuf, hqueue, heq⟩ | ⟨b, queue, hpending, heq⟩
  · rw [heq]
    exact ⟨h.wire_eq, h.ids_eq, h.main, fun hsome => by simp [hbuf, hqueue] at hsome⟩
  · have hall : t.pending = b :: (queue ++ t.holding.toList) := by
      rw [HciTransmitter.pending, ← List.append_assoc, hpending, List.cons_append]
    have hwire := h.wire_eq
    have hids := h.ids_eq
    rw [hall] at hwire hids
    rw [heq]
    by_cases hroom : b.data.length ≤ room
    · -- the buffer is written and given back
      rw [HciTransmitter.fill_of_le _ hroom]
      refine ⟨?_, ?_, h.main, fun _ => .inl hirq⟩
      · simpa [HciTransmitter.pending, List.append_assoc] using hwire
      · simpa [HciTransmitter.pending, HciBuf.pull, List.append_assoc] using hids
    · -- its rest stays in front of the others
      rw [HciTransmitter.fill_of_lt _ (Nat.lt_of_not_le hroom)]
      refine ⟨?_, ?_, h.main, fun _ => .inl hirq⟩
      · rw [← hwire]
        simp only [HciTransmitter.pending, HciBuf.pull, Option.toList_some, List.cons_append,
          List.nil_append, List.flatMap_cons, List.append_assoc]
        rw [← List.append_assoc (b.data.take room), List.take_append_drop]
      · simpa [HciTransmitter.pending, HciBuf.pull] using hids

/-- **The invariant is kept by every step of `main` and of the interrupt.** -/
theorem HciTransmitter.Inv.step (h : t.Inv) {a : HciTxAction} (hstep : t.step a = some t') :
    t'.Inv := by
  cases a with
  | get buf =>
    simp only [HciTransmitter.step, Option.ite_none_right_eq_some] at hstep
    obtain ⟨⟨hholding, henabling⟩, hstep⟩ := hstep
    obtain rfl := Option.some.inj hstep
    -- the buffer is neither in the queue nor on the wire yet: `main` holds it
    have hwire := h.wire_eq
    have hids := h.ids_eq
    refine ⟨?_, ?_, fun hmain => ?_, h.irq⟩
    · simp only [HciTransmitter.pending, hholding, Option.toList_none, List.append_nil,
        Option.toList_some, List.flatMap_append, List.flatMap_singleton] at hwire ⊢
      rw [← List.append_assoc ccEvt, ← hwire, List.append_assoc, List.append_assoc]
    · simp only [HciTransmitter.pending, hholding, Option.toList_none, List.append_nil,
        Option.toList_some, List.map_append, List.map_singleton] at hids ⊢
      rw [← hids, List.append_assoc, List.append_assoc]
    · exact absurd hmain (by simp [henabling])
  | put =>
    cases hholding : t.holding with
    | none => simp [HciTransmitter.step, hholding] at hstep
    | some buf =>
      simp only [HciTransmitter.step, hholding] at hstep
      obtain rfl := Option.some.inj hstep
      -- it goes from the hand of `main` to the end of the queue, and the order stays
      have hpending : t.buf.toList ++ ((t.uartTxQueue ++ [buf]) ++ [])
          = t.pending := by
        rw [HciTransmitter.pending, hholding, List.append_nil, Option.toList_some]
      refine ⟨?_, ?_, fun _ => rfl, fun _ => .inr rfl⟩
      · exact (congrArg (fun l => t.wire ++ l.flatMap HciBuf.data) hpending).trans h.wire_eq
      · exact (congrArg (fun l => t.unreffed.map HciBuf.id ++ l.map HciBuf.id) hpending).trans
          h.ids_eq
  -- only the flag of the interrupt changes
  | enable =>
    simp only [HciTransmitter.step, Option.ite_none_right_eq_some] at hstep
    obtain rfl := Option.some.inj hstep.2
    exact ⟨h.wire_eq, h.ids_eq, fun hmain => absurd hmain Bool.false_ne_true, fun _ => .inl rfl⟩
  | interrupt room =>
    simp only [HciTransmitter.step, Option.ite_none_right_eq_some] at hstep
    obtain rfl := Option.some.inj hstep.2
    exact h.interrupt hstep.1 room

/-- **The UART sends the controller's packets, in order and without a gap.** In every run the bytes
written, and behind them the ones pending, are `cc_evt` and the data of the buffers that `main` has
taken; and the buffers given back, each once, are the first of these. -/
theorem transmitter_sends {as : List HciTxAction}
    (h : Steps HciTransmitter.step (fun _ _ => True) .init as t) :
    t.wire ++ t.pending.flatMap HciBuf.data = ccEvt ++ t.taken.flatMap HciBuf.data ∧
      t.unreffed.map HciBuf.id ++ t.pending.map HciBuf.id = t.taken.map HciBuf.id :=
  have hinv : t.Inv := h.invariant (fun _ _ _ hs _ hstep => hs.step hstep) .init
  ⟨hinv.wire_eq, hinv.ids_eq⟩

/-! ### Progress -/

/-- The buffers that the interrupt finds, one of them perhaps partly written. -/
def HciTransmitter.ready (t : HciTransmitter) : List HciBuf := t.buf.toList ++ t.uartTxQueue

/-- The calls of `tx_isr` that are left: one for a byte and one for a buffer at most, and one that
finds none. -/
def HciTransmitter.work (t : HciTransmitter) : ℕ :=
  (t.ready.flatMap HciBuf.data).length + t.ready.length + if t.txIrq then 1 else 0

/-- The UART interrupts, and has room for a byte at least. -/
def HciTxAction.Draining (_ : HciTransmitter) : HciTxAction → Prop
  | .interrupt room => 0 < room
  | _ => False

/-- An interrupt writes a byte, gives a buffer back, or disables itself, and so does some of the
work. -/
theorem HciTransmitter.work_lt {a : HciTxAction} (ha : a.Draining t) (hstep : t.step a = some t') :
    t'.work < t.work := by
  cases a with
  | interrupt room =>
    simp only [HciTransmitter.step, Option.ite_none_right_eq_some] at hstep
    obtain ⟨hirq, hstep⟩ := hstep
    obtain rfl := Option.some.inj hstep
    have hroom : 0 < room := ha
    rcases txIsr_cases t room with ⟨hbuf, hqueue, heq⟩ | ⟨b, queue, hready, heq⟩
    · -- there is no buffer: the handler disables the interrupt
      rw [heq]
      simp [HciTransmitter.work, HciTransmitter.ready, hbuf, hqueue, hirq]
    · have hbefore : t.work
          = (b.data ++ queue.flatMap HciBuf.data).length + (queue.length + 1) + 1 := by
        rw [HciTransmitter.work, HciTransmitter.ready, hready, if_pos hirq, List.flatMap_cons,
          List.length_cons]
      rw [heq, hbefore, List.length_append]
      -- the whole rest of the buffer fits into the UART's FIFO, and the buffer is given back; or it
      -- does not
      by_cases hle : b.data.length ≤ room
      · rw [HciTransmitter.fill_of_le _ hle]
        simp [HciTransmitter.work, HciTransmitter.ready, hirq]
        omega
      · rw [HciTransmitter.fill_of_lt _ (Nat.lt_of_not_le hle)]
        simp [HciTransmitter.work, HciTransmitter.ready, HciBuf.pull, hirq]
        omega
  | get buf => exact ha.elim
  | put => exact ha.elim
  | enable => exact ha.elim

/-- **No buffer is left behind.** From every state of every run the interrupts of a UART with room
come to an end, after at most one for each byte and each buffer that they find and one more. As long
as there is a buffer to be sent and `main` is not about to enable the interrupt, there is another
one. -/
theorem transmitter_drains {as bs : List HciTxAction}
    (h : Steps HciTransmitter.step (fun _ _ => True) .init as t)
    (hdrain : Steps HciTransmitter.step (fun t a => a.Draining t) t bs t') :
    bs.length ≤ (t.ready.flatMap HciBuf.data).length + t.ready.length + 1 ∧
      (t'.ready = [] ∨ t'.enabling = true ∨
        ∃ a t'', a.Draining t' ∧ t'.step a = some t'') := by
  have hinv : t.Inv := h.invariant (fun _ _ _ hs _ hstep => hs.step hstep) .init
  have hinv' : t'.Inv := hdrain.invariant (fun _ _ _ hs _ hstep => hs.step hstep) hinv
  constructor
  · -- every interrupt decreases the measure, which therefore bounds their number
    have hlt : ∀ (s : HciTransmitter) (a : HciTxAction) t, True → a.Draining s →
        s.step a = some t → True ∧ t.work < s.work :=
      fun _ _ _ _ ha hstep => ⟨trivial, HciTransmitter.work_lt ha hstep⟩
    have hwork := hdrain.length_le hlt trivial
    rw [HciTransmitter.work] at hwork
    split at hwork <;> omega
  · by_cases hready : t'.ready = []
    · exact .inl hready
    · -- there is a buffer, in the handler's hand or in the queue, so the interrupt is or will be
      -- enabled
      have hsome : t'.buf.isSome ∨ t'.uartTxQueue ≠ [] := by
        cases hbuf : t'.buf with
        | some b => exact .inl rfl
        | none =>
          refine .inr fun hqueue => hready ?_
          rw [HciTransmitter.ready, hbuf, hqueue]
          rfl
      rcases hinv'.irq hsome with hirq | henabling
      · exact .inr (.inr ⟨.interrupt 1, _, Nat.one_pos, if_pos hirq⟩)
      · exact .inr (.inl henabling)

/-- `main` sends two events; the interrupt writes the first in two portions. -/
def twoEvents : List HciTxAction :=
  [.get ⟨0, 8, [4, 0x13, 1], by decide⟩, .put, .enable, .interrupt 2,
    .get ⟨1, 8, [4, 0x0F, 0], by decide⟩, .interrupt 8, .put]

/-- The first event is on the wire behind `cc_evt`, and the second is still pending. -/
theorem transmitter_sends_twoEvents : ∃ t : HciTransmitter,
    t.wire = [4, 0x0E, 3, 1, 0, 0, 4, 0x13, 1] ∧
    t.wire ++ t.pending.flatMap HciBuf.data = ccEvt ++ t.taken.flatMap HciBuf.data ∧
      t.unreffed.map HciBuf.id ++ t.pending.map HciBuf.id = t.taken.map HciBuf.id :=
  ⟨_, rfl, @transmitter_sends _ twoEvents (steps_of_checkRun rfl)⟩

/-- From a state in the middle of the first event two interrupts stay within the bound. -/
theorem transmitter_drains_twoEvents : ∃ t t' : HciTransmitter,
    2 ≤ (t.ready.flatMap HciBuf.data).length + t.ready.length + 1 ∧
      (t'.ready = [] ∨ t'.enabling = true ∨
        ∃ a t'', a.Draining t' ∧ t'.step a = some t'') :=
  ⟨_, _, @transmitter_drains _ _ (twoEvents.take 3) [.interrupt 2, .interrupt 1]
    (steps_of_checkRun rfl)
    (.cons (Nat.succ_pos 1) rfl (.cons Nat.one_pos rfl (.nil _)))⟩

end DectCommunicator
