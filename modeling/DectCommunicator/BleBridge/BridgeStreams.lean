import DectCommunicator.BleBridge.UartBridge

/-!
# The streams of the serial bridge

Two handlers that preempt each other between any two statements carry the bytes of each port to the
other one in order. Bytes are lost only where `ring_buf_put` finds the ring buffer full, whose
result the handlers ignore (`bridge_streams`, `bridge_lossless_iff`).

Data in a ring buffer are also *signalled*: the transmit interrupt of the port they are for is
enabled, or the other handler is about to enable it. This holds as long as no handler queues data
while the other one, having found nothing, is about to disable its interrupt (`bridge_signalled`).
`uart_isr` is never in that place when `cdc_isr` runs, as an interrupt of `uart0` is served at once;
the other way round it can happen, and the data then stay in the ring buffer
(`bridge_stranded`).
-/

namespace DectCommunicator

open Machine

/-! ### One direction -/

/-- The bytes of a call of `ring_buf_put` that the ring buffer took, which are the first ones. -/
def BridgePut.stored (p : BridgePut) : List UInt8 := p.chunk.take p.taken

/-- How many of the bytes at the head of the ring buffer the port has accepted already. -/
def IsrPhase.sent : IsrPhase → ℕ
  | .finish sent => sent
  | _ => 0

/-- The bytes read that are not yet in the ring buffer: those in `buf`. -/
def IsrPhase.unqueued : IsrPhase → List UInt8
  | .put buf => buf
  | _ => []

/-- What holds of the bytes on the way from the port `src` to the port `dst` through `ring`, between
any two statements of the two handlers. -/
structure BridgePort.Feeds (src dst : BridgePort) (ring : BridgeRing) : Prop where
  /-- the bytes accepted at `dst` and those left in the ring buffer are those it took -/
  written_eq : dst.written ++ ring.data.drop dst.phase.sent = src.puts.flatMap BridgePut.stored
  /-- the bytes queued and the ones about to be are those read -/
  received_eq : src.received = src.puts.flatMap BridgePut.chunk ++ src.phase.unqueued
  /-- the ring buffer takes all, or it is full then -/
  stored : ∀ p ∈ src.puts, p.taken = p.chunk.length ∨
    p.taken < p.chunk.length ∧ p.held = bridgeBufSize
  /-- the bytes claimed are at the head of the ring buffer -/
  claimed : ∀ data, dst.phase = .fill data → data <+: ring.data
  /-- no more is finished than there is -/
  finished : dst.phase.sent ≤ ring.data.length

/-- Before the first interrupt nothing is on the way. -/
theorem BridgePort.Feeds.init : BridgePort.init.Feeds .init .empty where
  written_eq := rfl
  received_eq := rfl
  stored := by simp [BridgePort.init]
  claimed := fun _ h => by cases h
  finished := Nat.le_refl 0

/-- Both directions at a pair of ports, each with its own ring buffer. -/
structure PortPair.Streams (b : PortPair) : Prop where
  out : b.own.Feeds b.peer b.toPeer
  into : b.peer.Feeds b.own b.fromPeer

variable {b b' : PortPair} {src src' dst dst' : BridgePort} {ring : BridgeRing}

/-- Nothing that the direction speaks of changes, as in most statements of the other handler. -/
theorem BridgePort.Feeds.congr (h : src.Feeds dst ring) (hputs : src'.puts = src.puts)
    (hreceived : src'.received = src.received)
    (hunqueued : src'.phase.unqueued = src.phase.unqueued) (hwritten : dst'.written = dst.written)
    (hsent : dst'.phase.sent = dst.phase.sent)
    (hfill : ∀ data, dst'.phase = .fill data → data <+: ring.data) : src'.Feeds dst' ring where
  written_eq := by rw [hwritten, hsent, hputs]; exact h.written_eq
  received_eq := by rw [hreceived, hputs, hunqueued]; exact h.received_eq
  stored := by rw [hputs]; exact h.stored
  claimed := hfill
  finished := by rw [hsent]; exact h.finished

/-- Bytes are read at the source, and are in `buf` until they are queued. -/
theorem BridgePort.Feeds.enter (h : src.Feeds dst ring) (hphase : src.phase = .loop)
    (buf rest : List UInt8) :
    BridgePort.Feeds { src with rx := rest, received := src.received ++ buf, phase := .put buf }
      dst ring where
  written_eq := h.written_eq
  received_eq := by
    have hreceived := h.received_eq
    rw [hphase] at hreceived
    show src.received ++ buf = src.puts.flatMap BridgePut.chunk ++ buf
    rw [hreceived]
    exact congrArg (· ++ buf) (List.append_nil _)
  stored := h.stored
  claimed := h.claimed
  finished := h.finished

/-- Bytes are queued, as many as there is room for. -/
theorem BridgePort.Feeds.put (h : src.Feeds dst ring) {buf : List UInt8}
    (hphase : src.phase = .put buf) :
    BridgePort.Feeds { src with
      puts := src.puts ++ [⟨buf, min ring.space buf.length, (ring.put buf).data.length⟩]
      phase := .enable } dst (ring.put buf) where
  written_eq := by
    -- `ring_buf_put` stores as many bytes as there is room for, which is what is recorded of the
    -- call
    have htake : buf.take (min ring.space buf.length) = buf.take ring.space :=
      List.take_eq_take_min.symm
    show dst.written ++ (ring.data ++ buf.take ring.space).drop dst.phase.sent = _
    rw [List.drop_append_of_le_length h.finished, ← List.append_assoc, h.written_eq,
      List.flatMap_append, List.flatMap_singleton, BridgePut.stored, htake]
  received_eq := by
    have hreceived := h.received_eq
    rw [hphase] at hreceived
    show src.received = _ ++ []
    rw [hreceived, List.append_nil, List.flatMap_append, List.flatMap_singleton]
    rfl
  stored := by
    intro p hp
    rcases List.mem_append.mp hp with hp | hp
    · -- an earlier call, about which nothing changes
      exact h.stored p hp
    · -- this call: it stores all the bytes, or as many as fit, and then the ring is full
      obtain rfl := List.mem_singleton.mp hp
      by_cases hfull : ring.space < buf.length
      · exact .inr ⟨Nat.lt_of_le_of_lt (Nat.min_le_left _ _) hfull,
          BoundedFifo.length_put_of_lt hfull⟩
      · exact .inl (Nat.min_eq_right (Nat.le_of_not_lt hfull))
  claimed := fun data hdata => BoundedFifo.prefix_put (h.claimed data hdata) buf
  finished := by
    refine Nat.le_trans h.finished ?_
    rw [BoundedFifo.data_put, List.length_append]
    exact Nat.le_add_right _ _

/-- The port accepts claimed bytes, which stay in the ring buffer until they are finished. -/
theorem BridgePort.Feeds.fill (h : src.Feeds dst ring) {data : List UInt8}
    (hphase : dst.phase = .fill data) (count : ℕ) :
    src.Feeds { dst with
      written := dst.written ++ data.take (min count data.length)
      phase := .finish (min count data.length) } ring where
  written_eq := by
    obtain ⟨rest, hrest⟩ := h.claimed data hphase
    have hwritten := h.written_eq
    rw [hphase] at hwritten
    rw [← hwritten]
    show dst.written ++ data.take (min count data.length) ++ ring.data.drop (min count data.length)
      = dst.written ++ ring.data.drop 0
    rw [List.append_assoc, ← hrest, List.drop_append_of_le_length (Nat.min_le_right _ _),
      ← List.append_assoc (data.take _), List.take_append_drop, List.drop_zero]
  received_eq := h.received_eq
  stored := h.stored
  claimed := fun _ hdata => by cases hdata
  finished := Nat.le_trans (Nat.min_le_right _ _) (h.claimed data hphase).length_le

/-- The accepted bytes leave the ring buffer. Bytes queued since they were claimed are behind
them. -/
theorem BridgePort.Feeds.finish (h : src.Feeds dst ring) {sent : ℕ}
    (hphase : dst.phase = .finish sent) :
    src.Feeds { dst with phase := .loop } (ring.finish sent) where
  written_eq := by
    have hwritten := h.written_eq
    rw [hphase] at hwritten
    exact hwritten
  received_eq := h.received_eq
  stored := h.stored
  claimed := fun _ hdata => by cases hdata
  finished := Nat.zero_le _

/-- A step that leaves the ring buffers and the histories alone. -/
theorem PortPair.Streams.move (h : b.Streams) {rx : List UInt8} {irq irq' : Bool}
    {phase : IsrPhase} (hunqueued : phase.unqueued = b.own.phase.unqueued)
    (hsent : phase.sent = b.own.phase.sent)
    (hfill : ∀ data, phase = .fill data → data <+: b.fromPeer.data) :
    PortPair.Streams { b with
      own := { b.own with rx := rx, txIrq := irq, phase := phase }
      peer := { b.peer with txIrq := irq' } } :=
  ⟨h.out.congr rfl rfl hunqueued rfl rfl h.out.claimed, h.into.congr rfl rfl rfl rfl hsent hfill⟩

/-- **The two directions are kept by every step of a handler.** -/
theorem PortPair.Streams.step (h : b.Streams) {a : PortAction} (hstep : b.step a = some b') :
    b'.Streams := by
  have hout := h.out
  have hinto := h.into
  cases PortPair.move_of_step hstep with
  -- bytes arrive at the port, where they wait to be read
  | arrive bytes => exact h.move rfl rfl hinto.claimed
  | skip count hphase hnone => exact h.move (by rw [hphase]; rfl) (by rw [hphase]; rfl) (by simp)
  | read count buf hphase hbuf hsome =>
    exact ⟨hout.enter hphase _ _, hinto.congr rfl rfl rfl rfl (by rw [hphase]; rfl) (by simp)⟩
  -- the ring buffer takes what it has room for, and the other direction is not concerned
  | put count buf hphase =>
    exact ⟨hout.put hphase, hinto.congr rfl rfl rfl rfl (by rw [hphase]; rfl) (by simp)⟩
  | enable count hphase => exact h.move (by rw [hphase]; rfl) (by rw [hphase]; rfl) (by simp)
  | notReady count hphase hready =>
    exact h.move (by rw [hphase]; rfl) (by rw [hphase]; rfl) (by simp)
  | claimNone count hphase hready hnil =>
    exact h.move (by rw [hphase]; rfl) (by rw [hphase]; rfl) (by simp)
  | claim count data hphase hready hdata hsome =>
    refine h.move (by rw [hphase]; rfl) (by rw [hphase]; rfl) ?_
    intro claimed hclaimed
    -- what is claimed is the beginning of the ring buffer
    obtain rfl := IsrPhase.fill.inj hclaimed
    rw [hdata]
    exact BoundedFifo.claim_prefix _ _
  -- the bytes are written to the port, but are in the ring buffer until the finish
  | fill count data hphase =>
    exact ⟨hout.congr rfl rfl (by rw [hphase]; rfl) rfl rfl hout.claimed, hinto.fill hphase count⟩
  | finish count sent hphase =>
    exact ⟨hout.congr rfl rfl (by rw [hphase]; rfl) rfl rfl hout.claimed, hinto.finish hphase⟩
  | disable count hphase => exact h.move (by rw [hphase]; rfl) (by rw [hphase]; rfl) (by simp)

/-! ### The bridge -/

variable {u u' : UartBridge} {as : List BridgeAction}

/-- A step of `uart_isr` is one of the handler at its pair of ports. -/
theorem uartIsr_eq_some {a : PortAction} (h : uartIsr u a = some u') :
    u.atUart.step a = some u'.atUart := by
  obtain ⟨p, hp, rfl⟩ := Option.map_eq_some_iff.mp h
  exact hp

/-- And so is one of `cdc_isr`, at the pair the other way round. -/
theorem cdcIsr_eq_some {a : PortAction} (h : cdcIsr u a = some u') :
    u.atCdc.step a = some u'.atCdc := by
  obtain ⟨p, hp, rfl⟩ := Option.map_eq_some_iff.mp h
  exact hp

/-- Both directions of the bridge, which the two handlers see as the pairs of ports. -/
structure UartBridge.Streams (u : UartBridge) : Prop where
  toCdc : u.uart.Feeds u.cdc u.uartToCdc
  toUart : u.cdc.Feeds u.uart u.cdcToUart

/-- A step of either handler keeps both, with the same lemma. -/
theorem UartBridge.Streams.step (h : u.Streams) {a : BridgeAction} (hstep : u.step a = some u') :
    u'.Streams := by
  cases a with
  | uart a =>
    have hat : u'.atUart.Streams :=
      PortPair.Streams.step (b := u.atUart) ⟨h.toCdc, h.toUart⟩ (uartIsr_eq_some hstep)
    exact ⟨hat.out, hat.into⟩
  | cdc a =>
    have hat : u'.atCdc.Streams :=
      PortPair.Streams.step (b := u.atCdc) ⟨h.toUart, h.toCdc⟩ (cdcIsr_eq_some hstep)
    exact ⟨hat.into, hat.out⟩

/-- The bytes that the handler of `src` has read and `dst` has not yet accepted, as far as they were
not lost: those accepted by the ring buffer, and behind them those not yet queued. -/
def BridgePort.Carried (src dst : BridgePort) (ring : BridgeRing) : Prop :=
  dst.written ++ ring.data.drop dst.phase.sent = src.puts.flatMap BridgePut.stored ∧
    src.received = src.puts.flatMap BridgePut.chunk ++ src.phase.unqueued ∧
    ∀ p ∈ src.puts, p.taken = p.chunk.length ∨ p.taken < p.chunk.length ∧ p.held = bridgeBufSize

/-- The part of it that says what has been carried, without the places of the handlers. -/
theorem BridgePort.Feeds.carried (h : src.Feeds dst ring) : src.Carried dst ring :=
  ⟨h.written_eq, h.received_eq, h.stored⟩

/-- And so both directions hold in every run, whatever its condition. -/
theorem streams_of_steps {C : UartBridge → BridgeAction → Prop}
    (h : Steps UartBridge.step C .init as u) : u.Streams :=
  h.invariant (P := UartBridge.Streams) (fun _ _ _ hs _ hstep => hs.step hstep) ⟨.init, .init⟩

/-- The bytes that arrive at `uart0` in a run. -/
def arrivedAtUart (as : List BridgeAction) : List UInt8 :=
  as.flatMap fun
    | .uart (.arrive bytes) => bytes
    | _ => []

/-- The bytes that arrive at the USB port in a run. -/
def arrivedAtCdc (as : List BridgeAction) : List UInt8 :=
  as.flatMap fun
    | .cdc (.arrive bytes) => bytes
    | _ => []

/-- The bytes that arrived at the port of a step, of which only one kind has any. -/
def PortAction.arrived : PortAction → List UInt8
  | .arrive bytes => bytes
  | .enter _ => []
  | .next _ => []

/-- A step reads bytes of its own port, and none of the other one. Nothing is lost before it is
read. -/
theorem PortPair.received_step {a : PortAction} (hstep : b.step a = some b') :
    b'.own.received ++ b'.own.rx = b.own.received ++ b.own.rx ++ a.arrived ∧
      b'.peer.received ++ b'.peer.rx = b.peer.received ++ b.peer.rx := by
  cases PortPair.move_of_step hstep with
  | arrive bytes => exact ⟨(List.append_assoc _ _ _).symm, rfl⟩
  | read count buf hphase hbuf hsome =>
    refine ⟨?_, rfl⟩
    -- What is read is the beginning of what was there.
    have hprefix : buf <+: b.own.rx := hbuf ▸ List.take_prefix _ _
    rw [PortAction.arrived, List.append_nil, List.append_assoc,
      List.prefix_iff_eq_append.mp hprefix]
  -- no other move reads or brings bytes
  | _ => exact ⟨(List.append_nil _).symm, rfl⟩

/-- The bytes read and those not yet read are the ones that arrived. -/
theorem arrived_of_steps {C : UartBridge → BridgeAction → Prop}
    (h : Steps UartBridge.step C .init as u) :
    u.uart.received ++ u.uart.rx = arrivedAtUart as ∧
      u.cdc.received ++ u.cdc.rx = arrivedAtCdc as := by
  constructor
  · refine h.history (f := fun u => u.uart.received ++ u.uart.rx) ?_
    intro u a u' _ hstep
    cases a with
    | uart a =>
      -- a step of the UART's handler, which alone reads from the UART
      refine (@PortPair.received_step u.atUart u'.atUart _ (uartIsr_eq_some hstep)).1.trans ?_
      cases a <;> rfl
    | cdc a =>
      exact (@PortPair.received_step u.atCdc u'.atCdc _ (cdcIsr_eq_some hstep)).2.trans
        (List.append_nil _).symm
  · refine h.history (f := fun u => u.cdc.received ++ u.cdc.rx) ?_
    intro u a u' _ hstep
    cases a with
    | uart a =>
      exact (@PortPair.received_step u.atUart u'.atUart _ (uartIsr_eq_some hstep)).2.trans
        (List.append_nil _).symm
    | cdc a =>
      refine (@PortPair.received_step u.atCdc u'.atCdc _ (cdcIsr_eq_some hstep)).1.trans ?_
      cases a <;> rfl

/-- **Both streams arrive in order.** For any interleaving of the two handlers, statement by
statement: the bytes that a port has accepted, and those left for it in the ring buffer, are the
bytes that arrived at the other port as far as they are read and queued, but for the ends of those
chunks that filled the ring buffer. -/
theorem bridge_streams {C : UartBridge → BridgeAction → Prop}
    (h : Steps UartBridge.step C .init as u) :
    (u.uart.received ++ u.uart.rx = arrivedAtUart as ∧ u.uart.Carried u.cdc u.uartToCdc) ∧
      (u.cdc.received ++ u.cdc.rx = arrivedAtCdc as ∧ u.cdc.Carried u.uart u.cdcToUart) :=
  ⟨⟨(arrived_of_steps h).1, (streams_of_steps h).toCdc.carried⟩,
    ⟨(arrived_of_steps h).2, (streams_of_steps h).toUart.carried⟩⟩

/-- More bytes of the console than the ring buffer holds. -/
def consoleBytes : List UInt8 := (List.range 600).map UInt8.ofNat

/-- `uart_isr` reads a chunk and queues it. -/
def readChunk : List BridgeAction :=
  [.uart (.enter 64), .uart (.next 0), .uart (.next 0), .uart (.next 0)]

/-- `cdc_isr` claims a chunk, the USB port accepts it, and it leaves the ring buffer. -/
def sendChunk : List BridgeAction :=
  [.cdc (.enter 0), .cdc (.next 64), .cdc (.next 64), .cdc (.next 64)]

/-- Eight chunks fill the ring buffer. The ninth is queued statement by statement beside the first
pass of `cdc_isr`: the port has accepted a chunk by then, but the ring buffer still holds it, so
that nothing of the ninth is taken. The tenth and last one has room. -/
def crowdedRun : List BridgeAction :=
  .uart (.arrive consoleBytes) :: ((List.replicate 8 readChunk).flatten ++
    [.uart (.enter 64), .cdc (.enter 0), .cdc (.next 64), .cdc (.next 64), .uart (.next 0),
      .cdc (.next 64), .uart (.next 0), .uart (.next 0)] ++ readChunk ++
    (List.replicate 8 sendChunk).flatten)

theorem exists_steps_crowdedRun : ∃ u,
    Steps UartBridge.step (fun _ _ => True) .init crowdedRun u ∧ u.uart.phase = .loop ∧
      u.uartToCdc.data = [] ∧ u.uart.puts.map BridgePut.taken = List.replicate 8 64 ++ [0, 24] ∧
      u.cdc.written = consoleBytes.take 512 ++ consoleBytes.drop 576 := by
  have hrun : (checkRun UartBridge.step (fun _ _ => True) .init crowdedRun).map (fun u =>
      (u.uart.phase, u.uartToCdc.data, u.uart.puts.map BridgePut.taken, u.cdc.written)) =
      some (.loop, [], List.replicate 8 64 ++ [0, 24],
        consoleBytes.take 512 ++ consoleBytes.drop 576) := by decide +kernel
  obtain ⟨u, hu, hend⟩ := Option.map_eq_some_iff.mp hrun
  injection hend with hphase hend
  injection hend with hring hend
  injection hend with htaken hwritten
  exact ⟨u, steps_of_checkRun hu, hphase, hring, htaken, hwritten⟩

/-- The bytes of the console reach the USB port in order, but for the one chunk. -/
theorem bridge_streams_crowdedRun : ∃ u : UartBridge,
    u.cdc.written = consoleBytes.take 512 ++ consoleBytes.drop 576 ∧
    (u.uart.received ++ u.uart.rx = arrivedAtUart crowdedRun ∧ u.uart.Carried u.cdc u.uartToCdc) ∧
      (u.cdc.received ++ u.cdc.rx = arrivedAtCdc crowdedRun ∧
        u.cdc.Carried u.uart u.cdcToUart) := by
  obtain ⟨u, h, -, -, -, hwritten⟩ := exists_steps_crowdedRun
  exact ⟨u, hwritten, bridge_streams h⟩

/-- No more is stored than was given. -/
theorem length_stored_le (puts : List BridgePut) :
    (puts.flatMap BridgePut.stored).length ≤ (puts.flatMap BridgePut.chunk).length := by
  induction puts with
  | nil => exact Nat.le_refl 0
  | cons p puts ih =>
    have hp : p.stored.length ≤ p.chunk.length := (List.take_prefix _ _).length_le
    rw [List.flatMap_cons, List.flatMap_cons, List.length_append, List.length_append]
    exact Nat.add_le_add hp ih

/-- What calls of `ring_buf_put` stored is what they were given only if each stored all. -/
theorem stored_eq_chunks_iff {puts : List BridgePut} (h : ∀ p ∈ puts, p.taken ≤ p.chunk.length) :
    puts.flatMap BridgePut.stored = puts.flatMap BridgePut.chunk
      ↔ ∀ p ∈ puts, p.taken = p.chunk.length := by
  constructor
  · intro heq
    have hlen := congrArg List.length heq
    clear heq
    -- By induction on the calls, with the lengths alone.
    induction puts with
    | nil => exact fun p hp => absurd hp List.not_mem_nil
    | cons p puts ih =>
      have hp := h p List.mem_cons_self
      have hrest := length_stored_le puts
      rw [List.flatMap_cons, List.flatMap_cons, List.length_append, List.length_append,
        BridgePut.stored, List.length_take, Nat.min_eq_left hp] at hlen
      intro q hq
      rcases List.mem_cons.mp hq with rfl | hq
      · omega
      · exact ih (fun q hq => h q (List.mem_cons_of_mem _ hq)) (by omega) q hq
  · intro hall
    refine List.flatMap_congr fun p hp => ?_
    rw [BridgePut.stored, hall p hp, List.take_length]

/-- **Bytes are lost only to a full ring buffer.** For any interleaving of the two handlers: when
the bytes read at one port have been queued and the ring buffer is empty again, the other port has
accepted exactly these bytes, if and only if every call of `ring_buf_put` had room for its chunk. -/
theorem bridge_lossless_iff {C : UartBridge → BridgeAction → Prop}
    (h : Steps UartBridge.step C .init as u) :
    (u.uart.phase.unqueued = [] → u.uartToCdc.data = [] →
      (u.cdc.written = u.uart.received ↔ ∀ p ∈ u.uart.puts, p.taken = p.chunk.length)) ∧
    (u.cdc.phase.unqueued = [] → u.cdcToUart.data = [] →
      (u.uart.written = u.cdc.received ↔ ∀ p ∈ u.cdc.puts, p.taken = p.chunk.length)) := by
  -- the two directions differ only in their names
  have hdirection : ∀ {src dst : BridgePort} {ring : BridgeRing}, src.Carried dst ring →
      src.phase.unqueued = [] → ring.data = [] →
      (dst.written = src.received ↔ ∀ p ∈ src.puts, p.taken = p.chunk.length) := by
    rintro src dst ring ⟨hwritten, hreceived, hstored⟩ hunqueued hring
    rw [hring, List.drop_nil, List.append_nil] at hwritten
    rw [hunqueued, List.append_nil] at hreceived
    rw [hwritten, hreceived]
    refine stored_eq_chunks_iff fun p hp => ?_
    rcases hstored p hp with heq | ⟨hlt, -⟩
    · exact Nat.le_of_eq heq
    · exact Nat.le_of_lt hlt
  exact ⟨hdirection (streams_of_steps h).toCdc.carried,
    hdirection (streams_of_steps h).toUart.carried⟩

/-- Here both sides are false: the ring buffer took nothing of the ninth chunk and less than 64
bytes of the last one, which is that short, so that the ninth is what the USB port misses. -/
theorem bridge_lossless_iff_crowdedRun : ∃ u : UartBridge,
    u.uart.puts.map BridgePut.taken = List.replicate 8 64 ++ [0, 24] ∧
    (u.cdc.written = u.uart.received ↔ ∀ p ∈ u.uart.puts, p.taken = p.chunk.length) := by
  obtain ⟨u, h, hphase, hring, htaken, -⟩ := exists_steps_crowdedRun
  exact ⟨u, htaken, (bridge_lossless_iff h).1 (by rw [hphase]; rfl) hring⟩

/-! ### Signalled data -/

/-- Data in the ring buffer are signalled to the port `dst`, and there are none when its handler is
about to disable the interrupt. -/
structure BridgePort.Signals (src dst : BridgePort) (ring : BridgeRing) : Prop where
  signalled : ring.data ≠ [] → dst.txIrq = true ∨ src.phase = .enable
  disabling : dst.phase = .disable → ring.data = []

/-- The handler at `own` is about to queue data while the other one, which has found none, is about
to disable its interrupt. -/
def PortPair.Races (b : PortPair) : PortAction → Prop
  | .next _ => b.peer.phase = .disable ∧ ∃ buf, b.own.phase = .put buf
  | _ => False

/-- A step of the handler that queues the data: it enables the interrupt right behind the put. -/
theorem PortPair.signals_out (h : b.own.Signals b.peer b.toPeer) {a : PortAction}
    (hrace : ¬ b.Races a) (hstep : b.step a = some b') :
    b'.own.Signals b'.peer b'.toPeer := by
  -- Outside of `enable` it is the interrupt that signals the data.
  have hirq {phase : IsrPhase} (hphase : b.own.phase = phase) (hne : phase ≠ .enable)
      (hdata : b.toPeer.data ≠ []) : b.peer.txIrq = true :=
    (h.signalled hdata).resolve_right (hphase ▸ hne)
  cases PortPair.move_of_step hstep with
  -- bytes that arrive are not in the ring buffer yet
  | arrive bytes => exact ⟨h.signalled, h.disabling⟩
  -- the put is followed by the enabling, unless the other handler is about to disable
  | put count buf hphase =>
    exact ⟨fun _ => .inr rfl, fun hdisable => absurd ⟨hdisable, buf, hphase⟩ hrace⟩
  -- the interrupt is enabled now
  | enable count hphase => exact ⟨fun _ => .inl rfl, h.disabling⟩
  -- the other moves leave the ring buffer and the interrupt of the peer as they are
  | skip count hphase hnone | read count buf hphase hbuf hsome | notReady count hphase hready
  | claimNone count hphase hready hnil | claim count data hphase hready hdata hsome
  | fill count data hphase | finish count sent hphase | disable count hphase =>
    exact ⟨fun hdata => .inl (hirq hphase (by simp) hdata), h.disabling⟩

/-- A step of the handler of the port that the data are for: it disables its interrupt only after a
claim that returned nothing. -/
theorem PortPair.signals_into (h : b.peer.Signals b.own b.fromPeer) {a : PortAction}
    (hstep : b.step a = some b') : b'.peer.Signals b'.own b'.fromPeer := by
  cases PortPair.move_of_step hstep with
  | arrive bytes => exact ⟨h.signalled, h.disabling⟩
  | claimNone count hphase hready hnil =>
    -- A claim that returns nothing has found the ring buffer empty.
    have hpos : 0 < min count bridgeChunkSize := Nat.lt_min.mpr ⟨hready.2, Nat.succ_pos 63⟩
    exact ⟨h.signalled, fun _ => (BoundedFifo.claim_eq_nil hpos).mp hnil⟩
  -- taking bytes out leaves none where there were none
  | finish count sent hphase =>
    refine ⟨fun hdata => h.signalled fun hnil => hdata ?_, fun hphase => by cases hphase⟩
    rw [BoundedFifo.data_finish, hnil, List.drop_nil]
  -- the handler disables its interrupt with the ring buffer empty since its claim
  | disable count hphase =>
    have hnil := h.disabling hphase
    exact ⟨fun hdata => absurd hnil hdata, fun hphase => by cases hphase⟩
  -- the other moves leave the ring buffer and the handler in a place that is not the disabling
  | skip count hphase hnone | read count buf hphase hbuf hsome | put count buf hphase
  | enable count hphase | notReady count hphase hready
  | claim count data hphase hready hdata hsome | fill count data hphase =>
    exact ⟨h.signalled, fun hphase => by cases hphase⟩

/-- `uart0` is served at once: the handler of the USB port, which runs in a thread, does not run
while `uart_isr` does. -/
def BridgeAction.Served (u : UartBridge) : BridgeAction → Prop
  | .cdc (.enter _) => u.uart.phase = .loop
  | .cdc (.next _) => u.uart.phase = .loop
  | _ => True

instance (u : UartBridge) : ∀ a : BridgeAction, Decidable (a.Served u)
  | .cdc (.enter _) => inferInstanceAs (Decidable (u.uart.phase = .loop))
  | .cdc (.next _) => inferInstanceAs (Decidable (u.uart.phase = .loop))
  | .cdc (.arrive _) => .isTrue trivial
  | .uart _ => .isTrue trivial

/-- `uart_isr` interrupts `cdc_isr` between a claim that returned nothing and
`uart_irq_tx_disable`, and queues data. -/
def BridgeAction.Races (u : UartBridge) : BridgeAction → Prop
  | .uart a => u.atUart.Races a
  | .cdc _ => False

/-- Data for `uart0` stay signalled in every step, because `cdc_isr` does not run while `uart_isr`
is about to disable its interrupt. -/
theorem UartBridge.toUart_signals_step (h : u.cdc.Signals u.uart u.cdcToUart) {a : BridgeAction}
    (ha : a.Served u) (hstep : u.step a = some u') : u'.cdc.Signals u'.uart u'.cdcToUart := by
  cases a with
  | uart a => exact @PortPair.signals_into u.atUart u'.atUart h _ (uartIsr_eq_some hstep)
  | cdc a =>
    refine @PortPair.signals_out u.atCdc u'.atCdc h _ ?_ (cdcIsr_eq_some hstep)
    intro hrace
    cases a with
    | next count => cases ha.symm.trans hrace.1
    | arrive bytes => exact hrace
    | enter count => exact hrace

/-- Data for the USB port stay signalled in every step but the race. -/
theorem UartBridge.toCdc_signals_step (h : u.uart.Signals u.cdc u.uartToCdc) {a : BridgeAction}
    (ha : ¬ a.Races u) (hstep : u.step a = some u') : u'.uart.Signals u'.cdc u'.uartToCdc := by
  cases a with
  | uart a => exact @PortPair.signals_out u.atUart u'.atUart h _ ha (uartIsr_eq_some hstep)
  | cdc a => exact @PortPair.signals_into u.atCdc u'.atCdc h _ (cdcIsr_eq_some hstep)

/-- Before the first interrupt there are no data. -/
theorem BridgePort.Signals.init : BridgePort.init.Signals .init .empty :=
  ⟨fun hdata => absurd rfl hdata, fun _ => rfl⟩

/-- **Queued data are signalled, but for one race.** In every run in which `uart0` is served at
once, data for `uart0` have its transmit interrupt enabled or about to be. Data for the USB port
have, too, unless at some step before `uart_isr` queued data while `cdc_isr`, which had found none,
was about to disable the interrupt. -/
theorem bridge_signalled (h : Steps UartBridge.step (fun u a => a.Served u) .init as u) :
    (u.cdcToUart.data ≠ [] → u.uart.txIrq = true ∨ u.cdc.phase = .enable) ∧
    (u.uartToCdc.data ≠ [] → (u.cdc.txIrq = true ∨ u.uart.phase = .enable) ∨
      ∃ before a behind v, as = before ++ a :: behind ∧
        Steps UartBridge.step (fun u a => a.Served u) .init before v ∧ a.Races v) := by
  have htoUart : u.cdc.Signals u.uart u.cdcToUart :=
    h.invariant (P := fun u => u.cdc.Signals u.uart u.cdcToUart)
      (fun _ _ _ hs ha hstep => UartBridge.toUart_signals_step hs ha hstep) .init
  refine ⟨htoUart.signalled, fun hdata => ?_⟩
  rcases h.split (fun u a => ¬ a.Races u) with hall | ⟨before, a, behind, v, heq, hbefore, -, hrace⟩
  · have htoCdc : u.uart.Signals u.cdc u.uartToCdc :=
      hall.invariant (P := fun u => u.uart.Signals u.cdc u.uartToCdc)
        (fun _ _ _ hs ha hstep => UartBridge.toCdc_signals_step hs ha.2 hstep) .init
    exact .inl (htoCdc.signalled hdata)
  · exact .inr ⟨before, a, behind, v, heq, hbefore.mono fun _ _ hC => hC.1, not_not.mp hrace⟩

/-- A byte of the console goes to the USB port. Then `cdc_isr` finds the ring buffer empty, and
before it disables the interrupt, `uart_isr` queues a second byte. -/
def racingRun : List BridgeAction :=
  [.uart (.arrive [0x41]), .uart (.enter 1), .uart (.next 1), .uart (.next 1), .uart (.next 1),
    .cdc (.enter 0), .cdc (.next 1), .cdc (.next 1), .cdc (.next 1), .cdc (.enter 0), .cdc (.next 1),
    .uart (.arrive [0x42]), .uart (.enter 1), .uart (.next 1), .uart (.next 1), .uart (.next 1),
    .cdc (.next 1)]

/-- The second byte is then left in the ring buffer, with both handlers done and the interrupt
disabled: nothing moves it until the console sends again. -/
theorem bridge_stranded : ∃ u,
    Steps UartBridge.step (fun u a => a.Served u) .init racingRun u ∧ u.uartToCdc.data = [0x42] ∧
      u.cdc.txIrq = false ∧ u.uart.phase = .loop ∧ u.cdc.phase = .loop := by
  have hrun : (checkRun UartBridge.step (fun u a => a.Served u) .init racingRun).map (fun u =>
      (u.uartToCdc.data, u.cdc.txIrq, u.uart.phase, u.cdc.phase)) =
      some ([0x42], false, .loop, .loop) := by decide
  obtain ⟨u, hu, hend⟩ := Option.map_eq_some_iff.mp hrun
  injection hend with hdata hend
  injection hend with hirq hend
  injection hend with huart hcdc
  exact ⟨u, steps_of_checkRun hu, hdata, hirq, huart, hcdc⟩

/-- In the run that strands a byte the race is the step that the theorem names. -/
theorem bridge_signalled_racingRun : ∃ u : UartBridge, u.uartToCdc.data = [0x42] ∧
    (u.cdcToUart.data ≠ [] → u.uart.txIrq = true ∨ u.cdc.phase = .enable) ∧
    (u.uartToCdc.data ≠ [] → (u.cdc.txIrq = true ∨ u.uart.phase = .enable) ∨
      ∃ before a behind v, racingRun = before ++ a :: behind ∧
        Steps UartBridge.step (fun u a => a.Served u) .init before v ∧ a.Races v) := by
  obtain ⟨u, h, hdata, -⟩ := bridge_stranded
  exact ⟨u, hdata, bridge_signalled h⟩

end DectCommunicator
