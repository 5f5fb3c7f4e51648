import DectCommunicator.BleBridge.HciReceive

/-!
# The buffers of the HCI receiver

In every run `rx_isr` stays inside of `hdr_buf` and of the buffer it fills (`receiver_in_bounds`);
each buffer it allocates is in one place, until it is given back or accepted by `bt_send`
(`receiver_conserves`); and its passes read all that has arrived and come to an end
(`receiver_drains`).
-/

namespace DectCommunicator

open Machine

variable {stack : BtStack} {r r' : HciReceiver} {as : List HciRxAction}

/-- A pass that is defined is a step of the receiver. -/
theorem step_pass {btIsoHdrLen : ℕ → ℕ} {count : ℕ} {answer : Option HciBuf} {p : RxPass}
    (hrunning : r.running = true)
    (hp : rxIsr btIsoHdrLen r.isr (r.read count) answer = some p) :
    r.step btIsoHdrLen (.pass count answer) = some (r.afterPass (r.read count) p) := by
  rw [HciReceiver.step, if_pos hrunning, hp, Option.map_some]

/-- **No access outside of a buffer.** Whatever arrives, a pass of the loop of `rx_isr` is defined
in every state in which it can take place: no read goes behind `hdr_buf` or behind the buffer that
the packet is received into, and no buffer is used that `bt_buf_get_tx` has not given. The
assumption on the stack is `BtStack.room`, that a buffer which it gives has room for the header;
`rx_isr` adds the header without a check, and only the payload is compared with the tailroom. -/
theorem receiver_in_bounds (stack : BtStack) {r : HciReceiver} {as : List HciRxAction}
    (h : Steps (HciReceiver.step stack.btIsoHdrLen) (fun r a => a.Admitted stack r) .init as r)
    (hrunning : r.running = true) (count : ℕ) (answer : Option HciBuf)
    (hanswer : r.isr.state = .hdr → stack.Answers r.isr.type answer) :
    ∃ r', r.step stack.btIsoHdrLen (.pass count answer) = some r' := by
  obtain ⟨items, pend, hdecoded⟩ := decoded_of_steps h
  obtain ⟨p, -, -, hp, -⟩ := hdecoded.pass count hanswer
  exact ⟨_, step_pass hrunning hp⟩

/-- Two passes of `hostTraffic`, of which one completes the header of the command and adds it to a
new buffer, and the other one reads the first byte of its payload behind it. -/
theorem receiver_in_bounds_hostTraffic :
    (∃ r r' : HciReceiver, r.isr.state = .hdr ∧ r.isr.remaining = 2 ∧ r.fifo = [12, 2, 7, 8, 9] ∧
      r.step smallPool.btIsoHdrLen (.pass 9 (some ⟨0, 8, [], Nat.zero_le 8⟩)) = some r') ∧
    ∃ r r' : HciReceiver, r.isr.state = .payload ∧ r.isr.remaining = 2 ∧ r.fifo = [7, 8, 9] ∧
      r.step smallPool.btIsoHdrLen (.pass 1 none) = some r' := by
  -- a prefix of the traffic that ends in the state from which the pass starts
  have hrun : ∀ n state fifo,
      (checkRun (HciReceiver.step smallPool.btIsoHdrLen) (fun r a => a.Admitted smallPool r) .init
        (hostTraffic.take n)).map (fun r => (r.running, r.isr.state, r.isr.remaining, r.fifo)) =
          some (true, state, 2, fifo) →
      ∃ r, Steps (HciReceiver.step smallPool.btIsoHdrLen) (fun r a => a.Admitted smallPool r) .init
        (hostTraffic.take n) r ∧ r.running = true ∧ r.isr.state = state ∧ r.isr.remaining = 2 ∧
          r.fifo = fifo := by
    intro n state fifo h
    obtain ⟨r, hr, hstate⟩ := Option.map_eq_some_iff.mp h
    injection hstate with hrunning hstate
    injection hstate with hisr hstate
    injection hstate with hremaining hfifo
    exact ⟨r, steps_of_checkRun hr, hrunning, hisr, hremaining, hfifo⟩
  constructor
  · obtain ⟨r, h, hrunning, hstate, hremaining, hfifo⟩ :=
      hrun 7 .hdr [12, 2, 7, 8, 9] (by decide +kernel)
    obtain ⟨r', hr'⟩ := receiver_in_bounds smallPool h hrunning 9
      (some ⟨0, 8, [], Nat.zero_le 8⟩) fun _ => rfl
    exact ⟨r, r', hstate, hremaining, hfifo, hr'⟩
  · obtain ⟨r, h, hrunning, hstate, hremaining, hfifo⟩ :=
      hrun 8 .payload [7, 8, 9] (by decide +kernel)
    obtain ⟨r', hr'⟩ := receiver_in_bounds smallPool h hrunning 1 none fun hhdr => by
      rw [hstate] at hhdr
      cases hhdr
    exact ⟨r, r', hstate, hremaining, hfifo, hr'⟩

/-! ### Conservation -/

/-- The buffer that the static variables of `rx_isr` hold: while a payload is received. In the other
states `buf` points to a buffer that has been handed on or given back. -/
def RxIsr.held (s : RxIsr) : List HciBuf :=
  match s.state with
  | .payload => s.buf.toList
  | _ => []

/-- The buffer of a successful allocation, which the receiver has to account for. -/
def HciRxInput.allocated? : HciRxInput → Option HciBuf
  | .byte _ => none
  | .answer a => a

/-- The buffers that `bt_send` has accepted, which are the controller's from then on. -/
def HciReceiver.accepted (r : HciReceiver) : List HciBuf :=
  r.sent.filterMap fun x => if x.2 = 0 then some x.1 else none

/-- The buffers, by number, that `rx_isr` has allocated. -/
def HciReceiver.allocated (r : HciReceiver) : List ℕ :=
  (r.inputs.filterMap HciRxInput.allocated?).map HciBuf.id

/-- The places where they can be: given back, at the controller, in `tx_thread`, in `tx_queue`, or
in `rx_isr`. -/
def HciReceiver.places (r : HciReceiver) : List ℕ :=
  (r.unreffed ++ (r.accepted ++ (r.txThread.toList ++ (r.txQueue ++ r.isr.held)))).map HciBuf.id

/-- The numbers of buffers, with how often each occurs. -/
def idCount (n : ℕ) (bufs : List HciBuf) : ℕ := (bufs.map HciBuf.id).count n

/-- An empty place holds no buffer. -/
@[simp] theorem idCount_nil (n : ℕ) : idCount n [] = 0 := rfl

/-- Places are counted together. -/
@[simp] theorem idCount_append (n : ℕ) (xs ys : List HciBuf) :
    idCount n (xs ++ ys) = idCount n xs + idCount n ys := by
  rw [idCount, List.map_append, List.count_append]
  rfl

/-- What counts is which buffer it is, not what is in it. -/
theorem idCount_singleton_congr {b c : HciBuf} (h : c.id = b.id) (n : ℕ) :
    idCount n [c] = idCount n [b] := by
  rw [idCount, idCount, List.map_singleton, List.map_singleton, h]

/-- A buffer that is read into remains the same buffer. -/
theorem HciBuf.id_readTail {b buf : HciBuf} {len : ℕ} {read : List UInt8}
    (h : b.readTail len read = some buf) : buf.id = b.id := by
  unfold HciBuf.readTail at h
  split at h
  · exact (HciBuf.addMem_eq_some h).1
  · cases h

/-- Outside of a payload nothing is held. -/
theorem RxIsr.held_of_ne {s : RxIsr} (h : s.state ≠ .payload) : s.held = [] := by
  unfold RxIsr.held
  split
  · next hstate => exact absurd hstate h
  · rfl

/-- In a payload it is `buf` that is held. -/
theorem RxIsr.held_of_payload {s : RxIsr} (h : s.state = .payload) : s.held = s.buf.toList := by
  unfold RxIsr.held
  rw [h]

/-- What the completion of a header allocates is what it gives back and holds after: it is one
buffer, in one of the two places. -/
theorem RxIsr.onHeader_conserves {btIsoHdrLen : ℕ → ℕ} {s : RxIsr} {answer : Option HciBuf}
    {again : Bool} {p : RxPass} (h : s.onHeader btIsoHdrLen answer again = some p) (n : ℕ) :
    idCount n ((p.effects.filterMap HciRxEffect.input?).filterMap HciRxInput.allocated?)
      = idCount n (p.effects.filterMap HciRxEffect.put?)
        + idCount n (p.effects.filterMap HciRxEffect.unref?) + idCount n p.isr.held := by
  unfold RxIsr.onHeader at h
  cases answer with
  | none =>
    obtain rfl := Option.some.inj h
    rfl
  | some b =>
    obtain ⟨buf, hadd, hpass⟩ := Option.map_eq_some_iff.mp h
    have hid := idCount_singleton_congr (HciBuf.addMem_eq_some hadd).1 n
    simp only at hpass
    split at hpass
    · -- no payload is to come: the buffer is put into the queue at once
      obtain rfl := hpass
      show idCount n [b] = idCount n [] + idCount n [buf] + idCount n []
      rw [hid, idCount_nil, Nat.zero_add, Nat.add_zero]
    · obtain rfl := hpass
      show idCount n [b] = idCount n [] + idCount n [] + idCount n [buf]
      rw [hid, idCount_nil, Nat.zero_add]

/-- What a pass allocates and what is held before it is what it queues and gives back and what is
held after it. -/
theorem rxIsr_conserves {btIsoHdrLen : ℕ → ℕ} {s : RxIsr} {read : List UInt8}
    {answer : Option HciBuf} {p : RxPass} (h : rxIsr btIsoHdrLen s read answer = some p) (n : ℕ) :
    idCount n ((p.effects.filterMap HciRxEffect.input?).filterMap HciRxInput.allocated?)
        + idCount n s.held
      = idCount n (p.effects.filterMap HciRxEffect.put?)
        + idCount n (p.effects.filterMap HciRxEffect.unref?) + idCount n p.isr.held := by
  unfold rxIsr at h
  cases hstate : s.state with
  -- no buffer is held before the header is complete
  | idle =>
    simp only [hstate] at h
    rw [RxIsr.held_of_ne (by simp [hstate])]
    cases read with
    | nil =>
      obtain rfl := Option.some.inj h
      rw [RxIsr.held_of_ne (by simp [hstate])]
      rfl
    | cons type rest =>
      by_cases htype : validType type = true
      · obtain rfl := Option.some.inj ((if_pos htype).symm.trans h)
        rfl
      · obtain rfl := Option.some.inj ((if_neg htype).symm.trans h)
        rfl
  | hdr =>
    simp only [hstate, Option.ite_none_right_eq_some, Option.dite_none_right_eq_some] at h
    obtain ⟨-, hin, h⟩ := h
    rw [RxIsr.held_of_ne (by simp [hstate]), idCount_nil, Nat.add_zero]
    split at h
    · exact RxIsr.onHeader_conserves h n
    · obtain rfl := Option.some.inj h
      rfl
  | payload =>
    simp only [hstate, Option.map_eq_some_iff, Option.bind_eq_some_iff] at h
    obtain ⟨buf, ⟨b, hb, hread⟩, rfl⟩ := h
    have hid := idCount_singleton_congr (HciBuf.id_readTail hread) n
    rw [RxIsr.held_of_payload hstate, hb]
    split
    · -- the packet is whole, and its buffer queued
      show idCount n [] + idCount n [b] = idCount n [buf] + idCount n [] + idCount n []
      rw [hid, idCount_nil, Nat.zero_add, Nat.add_zero]
    · rw [RxIsr.held_of_payload rfl]
      show idCount n [] + idCount n [b] = idCount n [] + idCount n [] + idCount n [buf]
      rw [hid, idCount_nil]
  -- the buffer of a dropped packet was given back with its header
  | discard =>
    simp only [hstate] at h
    obtain rfl := Option.some.inj h
    rw [RxIsr.held_of_ne (by simp [hstate]), RxIsr.held_of_ne (by split <;> simp)]
    rfl

/-- What a step moves, it moves from one place to another: each buffer is counted once for each time
it was allocated. -/
def HciReceiver.Conserves (r : HciReceiver) : Prop :=
  ∀ n, idCount n (r.inputs.filterMap HciRxInput.allocated?)
    = idCount n (r.unreffed ++ (r.accepted ++ (r.txThread.toList ++ (r.txQueue ++ r.isr.held))))

/-- A step of the interrupt or of the thread keeps the count. -/
theorem HciReceiver.Conserves.step {btIsoHdrLen : ℕ → ℕ} (h : r.Conserves) {a : HciRxAction}
    (hstep : r.step btIsoHdrLen a = some r') : r'.Conserves := by
  intro n
  have hn := h n
  cases a with
  | arrive bytes =>
    obtain rfl := Option.some.inj hstep
    exact hn
  | interrupt =>
    simp only [HciReceiver.step, Option.ite_none_left_eq_some] at hstep
    obtain rfl := Option.some.inj hstep.2
    exact hn
  | pass count answer =>
    simp only [HciReceiver.step, Option.ite_none_right_eq_some, Option.map_eq_some_iff] at hstep
    obtain ⟨-, p, hp, rfl⟩ := hstep
    have hpass := rxIsr_conserves hp n
    -- bytes allocate nothing
    have hbytes : ((r.read count).map HciRxInput.byte).filterMap HciRxInput.allocated? = [] := by
      rw [List.filterMap_map, List.filterMap_eq_nil_iff]
      intro b _
      rfl
    simp only [HciReceiver.afterPass, HciReceiver.accepted, List.filterMap_append, hbytes,
      List.nil_append, idCount_append] at hn hpass ⊢
    omega
  -- a buffer goes from the queue to the thread
  | get =>
    simp only [HciReceiver.step] at hstep
    split at hstep
    · next buf queue hthread hqueue =>
      obtain rfl := Option.some.inj hstep
      simpa [HciReceiver.accepted, hthread, hqueue] using hn
    · cases hstep
  | send err =>
    simp only [HciReceiver.step] at hstep
    split at hstep
    · next buf hthread =>
      obtain rfl := Option.some.inj hstep
      simp only [HciReceiver.accepted, hthread, List.filterMap_append, idCount_append,
        Option.toList_some, Option.toList_none, idCount_nil] at hn ⊢
      -- An accepted buffer is the controller's; one that is refused is given back.
      by_cases herr : err = 0
      · simp only [herr, if_true, List.filterMap_cons, List.filterMap_nil, idCount_nil]
        omega
      · simp only [herr, if_false, List.filterMap_cons, List.filterMap_nil, idCount_nil]
        omega
    · cases hstep

/-- **Every buffer is in one place.** In every run the buffers that `rx_isr` has allocated are, each
as often as it was allocated, those given back, those that `bt_send` has accepted, and those in
`tx_thread`, in `tx_queue` or being filled: none is lost, and none given back twice or while it is
in use. -/
theorem receiver_conserves (btIsoHdrLen : ℕ → ℕ) {C : HciReceiver → HciRxAction → Prop}
    {r : HciReceiver} {as : List HciRxAction}
    (h : Steps (HciReceiver.step btIsoHdrLen) C .init as r) : r.allocated.Perm r.places := by
  have hrun : r.Conserves := h.invariant (P := HciReceiver.Conserves)
    (fun _ _ _ hc _ hstep => hc.step hstep) fun _ => rfl
  exact List.perm_iff_count.mpr hrun

/-- The traffic uses one buffer three times, which is given back once and queued twice. -/
theorem receiver_conserves_hostTraffic : ∃ r : HciReceiver,
    r.queued.map HciBuf.data = [[3, 12, 2, 7, 8], [3, 12, 0]] ∧ r.allocated.Perm r.places := by
  obtain ⟨r, h, -, -, hdata⟩ := exists_steps_hostTraffic
  exact ⟨r, hdata, receiver_conserves smallPool.btIsoHdrLen h⟩

/-! ### The end of the interrupt -/

instance (s : RxIsr) : Decidable s.Due := inferInstanceAs (Decidable (_ ∧ _))

/-- What the interrupt handler does while no more bytes arrive: the UART interrupts when it has
bytes, and delivers some of them to a read. -/
def HciRxAction.Draining (stack : BtStack) (r : HciReceiver) : HciRxAction → Prop
  | .interrupt => r.fifo ≠ []
  | .pass count answer => 0 < count ∧ (HciRxAction.pass count answer).Admitted stack r
  | _ => False

/-- What is left to do: three steps for a byte at most, and one that finds no byte. -/
def HciReceiver.work (r : HciReceiver) : ℕ :=
  if r.running then
    if r.isr.Due ∨ r.fifo = [] then 3 * r.fifo.length + 1 else 3 * r.fifo.length - 1
  else 3 * r.fifo.length

/-- The work is bounded by the bytes that are left. -/
theorem HciReceiver.work_le (r : HciReceiver) : r.work ≤ 3 * r.fifo.length + 1 := by
  unfold HciReceiver.work
  split
  · split <;> omega
  · omega

/-- The loop goes on only after a read that delivered something. -/
theorem rxIsr_again {btIsoHdrLen : ℕ → ℕ} {s : RxIsr} {answer : Option HciBuf} {p : RxPass}
    (h : rxIsr btIsoHdrLen s [] answer = some p) : p.again = false := by
  unfold rxIsr at h
  cases hstate : s.state with
  -- no type byte was read
  | idle =>
    simp only [hstate] at h
    obtain rfl := Option.some.inj h
    rfl
  -- the flag is whether the read delivered something, also when the pass completes a header
  | hdr =>
    simp only [hstate, Option.ite_none_right_eq_some, Option.dite_none_right_eq_some] at h
    obtain ⟨-, hin, h⟩ := h
    split at h
    · unfold RxIsr.onHeader at h
      cases answer with
      | none =>
        obtain rfl := Option.some.inj h
        rfl
      | some b =>
        obtain ⟨buf, -, rfl⟩ := Option.map_eq_some_iff.mp h
        simp only
        split <;> rfl
    · obtain rfl := Option.some.inj h
      rfl
  | payload =>
    simp only [hstate, Option.map_eq_some_iff] at h
    obtain ⟨buf, -, rfl⟩ := h
    split <;> rfl
  | discard =>
    simp only [hstate] at h
    obtain rfl := Option.some.inj h
    rfl

/-- Unless a packet is due, the next read asks for something. With a payload of no bytes it does
not, which is what makes a packet due. -/
theorem RxIsr.Pending.request_pos {s : RxIsr} {pend : List HciRxInput} (h : s.Pending stack pend)
    (hdue : ¬ s.Due) : 0 < s.request := by
  unfold RxIsr.request
  cases h with
  | idle hstate => simp [hstate]
  | hdr hstate _ _ hpos => simpa [hstate] using hpos
  | payload hstate =>
    have hpos : 0 < s.remaining := Nat.pos_of_ne_zero fun hzero => hdue ⟨hstate, hzero⟩
    simpa [hstate] using hpos
  | discard hstate _ _ _ hpos => simpa [hstate, h4DiscardLen] using hpos

/-- A step of the interrupt handler does some of the work: it takes a byte, or the loop ends. -/
theorem HciReceiver.Decoded.work_lt {items : List H4Item} {pend : List HciRxInput}
    (h : r.Decoded stack items pend) {a : HciRxAction} (ha : a.Draining stack r)
    (hstep : r.step stack.btIsoHdrLen a = some r') : r'.work < r.work := by
  cases a with
  | interrupt =>
    simp only [HciReceiver.step, Option.ite_none_left_eq_some] at hstep
    obtain ⟨hrunning, hstep⟩ := hstep
    obtain rfl := Option.some.inj hstep
    have hdue : ¬ r.isr.Due := fun hdue => hrunning (h.running hdue)
    have hpos : 0 < r.fifo.length := List.length_pos_of_ne_nil ha
    simp only [HciReceiver.work, hrunning, hdue, false_or, if_true, if_neg ha]
    rw [if_neg Bool.false_ne_true]
    omega
  | pass count answer =>
    simp only [HciReceiver.step, Option.ite_none_right_eq_some, Option.map_eq_some_iff] at hstep
    obtain ⟨hrunning, p, hp, rfl⟩ := hstep
    by_cases hstop : r.isr.Due ∨ r.fifo = []
    · -- The read delivers nothing, and the handler returns.
      have hnil : r.read count = [] := by
        unfold HciReceiver.read
        rcases hstop with ⟨hstate, hzero⟩ | hnil
        · rw [RxIsr.request, hstate]
          simp only [hzero, Nat.min_zero, List.take_zero]
        · rw [hnil, List.take_nil]
      rw [hnil] at hp ⊢
      simp only [HciReceiver.work, HciReceiver.afterPass, rxIsr_again hp, hrunning, if_true,
        if_pos hstop, List.length_nil, List.drop_zero]
      rw [if_neg Bool.false_ne_true]
      omega
    · -- The read delivers at least one byte.
      have hdue : ¬ r.isr.Due := fun hdue => hstop (.inl hdue)
      have hpos : 0 < r.fifo.length := List.length_pos_of_ne_nil fun hnil => hstop (.inr hnil)
      have hread : 0 < (r.read count).length := by
        have hrequest := h.pending.request_pos hdue
        have hcount := ha.1
        rw [HciReceiver.read, List.length_take]
        omega
      have hlast := (r.afterPass (r.read count) p).work_le
      simp only [HciReceiver.afterPass, List.length_drop] at hlast
      simp only [HciReceiver.work, hrunning, if_true, if_neg hstop]
      simp only [HciReceiver.work, HciReceiver.afterPass, List.length_drop] at hlast ⊢
      omega
  | arrive bytes => exact ha.elim
  | get => exact ha.elim
  | send err => exact ha.elim

/-- **The interrupt handler reads everything and returns.** From every state of every run, while no
more bytes arrive, it takes at most three steps for a byte and one more; and as long as there are
bytes or it has not returned, it can take another one. -/
theorem receiver_drains (stack : BtStack) {r r' : HciReceiver} {as bs : List HciRxAction}
    (h : Steps (HciReceiver.step stack.btIsoHdrLen) (fun r a => a.Admitted stack r) .init as r)
    (hdrain : Steps (HciReceiver.step stack.btIsoHdrLen) (fun r a => a.Draining stack r) r bs r') :
    bs.length ≤ 3 * r.fifo.length + 1 ∧
      ((r'.fifo = [] ∧ r'.running = false) ∨
        ∃ a r'', a.Draining stack r' ∧ r'.step stack.btIsoHdrLen a = some r'') := by
  -- the actions of a run that drains are among those that the invariant is about
  have hadmitted : ∀ {r : HciReceiver} {a : HciRxAction}, a.Draining stack r →
      a.Admitted stack r := by
    intro r a ha
    cases a with
    | pass count answer => exact ha.2
    | interrupt => trivial
    | arrive bytes => trivial
    | get => trivial
    | send err => trivial
  have hdecoded := decoded_of_steps h
  constructor
  · -- the measure counts three for a byte: one step for its read, and the interrupts around it
    have hpass : ∀ (s : HciReceiver) (a : HciRxAction) t,
        (∃ items pend, s.Decoded stack items pend) → a.Draining stack s →
        s.step stack.btIsoHdrLen a = some t →
        (∃ items pend, t.Decoded stack items pend) ∧ t.work < s.work := by
      rintro s a t ⟨items, pend, hs⟩ ha hstep
      exact ⟨hs.step (hadmitted ha) hstep, hs.work_lt ha hstep⟩
    exact (hdrain.length_le hpass hdecoded).trans r.work_le
  · have hend : ∃ items pend, r'.Decoded stack items pend :=
      hdrain.invariant (P := fun r => ∃ items pend, r.Decoded stack items pend)
        (fun _ _ _ ⟨_, _, hs⟩ ha hstep => hs.step (hadmitted ha) hstep) hdecoded
    obtain ⟨items, pend, hend⟩ := hend
    cases hrunning : r'.running with
    | true =>
      -- the handler is running: a pass is possible with any answer that the stack gives
      obtain ⟨answer, hanswer⟩ := stack.exists_answer r'.isr.type
      obtain ⟨p, -, -, hp, -⟩ := hend.pass 1 fun _ => hanswer
      exact .inr ⟨.pass 1 answer, _, ⟨Nat.one_pos, fun _ => hanswer⟩, step_pass hrunning hp⟩
    | false =>
      by_cases hfifo : r'.fifo = []
      · exact .inl ⟨hfifo, rfl⟩
      · -- it has returned and there are bytes: the interrupt is raised again
        refine .inr ⟨.interrupt, { r' with running := true }, hfifo, ?_⟩
        rw [HciReceiver.step, hrunning, if_neg Bool.false_ne_true]

/-- As for `HciRxAction.Admitted`. -/
instance (r : HciReceiver) (a : HciRxAction) : Decidable (a.Draining smallPool r) :=
  match a with
  | .interrupt => inferInstanceAs (Decidable (r.fifo ≠ []))
  | .pass count answer =>
    inferInstanceAs (Decidable (0 < count ∧
      (r.isr.state = .hdr → answer = some ⟨0, 8, [], Nat.zero_le 8⟩)))
  | .arrive _ => instDecidableFalse
  | .get => instDecidableFalse
  | .send _ => instDecidableFalse

/-- Six passes of `hostTraffic` behind the arrival of the last bytes. -/
theorem receiver_drains_hostTraffic : ∃ r r' : HciReceiver, r.fifo.length = 15 ∧
    6 ≤ 3 * r.fifo.length + 1 ∧
      ((r'.fifo = [] ∧ r'.running = false) ∨
        ∃ a r'', a.Draining smallPool r' ∧ r'.step smallPool.btIsoHdrLen a = some r'') := by
  have hrun : (checkRun (HciReceiver.step smallPool.btIsoHdrLen)
      (fun r a => a.Admitted smallPool r) .init (hostTraffic.take 12)).map (fun r =>
        (r.fifo.length, (checkRun (HciReceiver.step smallPool.btIsoHdrLen)
          (fun r a => a.Draining smallPool r) r ((hostTraffic.drop 13).take 6)).isSome)) =
      some (15, true) := by
    decide +kernel
  obtain ⟨r, hr, hstate⟩ := Option.map_eq_some_iff.mp hrun
  injection hstate with hlength hdrains
  obtain ⟨r', hr'⟩ := Option.isSome_iff_exists.mp hdrains
  exact ⟨r, r', hlength, receiver_drains smallPool (steps_of_checkRun hr) (steps_of_checkRun hr')⟩

end DectCommunicator
