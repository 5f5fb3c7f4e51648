import DectCommunicator.Lib.BoundedFifo
import DectCommunicator.Lib.Runs
import DectCommunicator.Utils.Errno

/-!
# The serial bridge

The console of the nRF9151 on `uart0` and the USB port `cdc_acm_uart1`, joined in both directions
(`alfie/ble_bridge/src/uart_bridge.c`). The interrupt handler of each port reads what arrived there
into a ring buffer, enables the transmit interrupt of the other port, and writes to its own port
from the other ring buffer; it disables its own transmit interrupt when that is empty.

The two handlers are the same function with the ports exchanged. They are modelled statement by
statement, so that one can run between any two statements of the other.
-/

namespace DectCommunicator

open Machine

/-! ### Ports -/

/-- `BRIDGE_BUF_SIZE`, of each of the two ring buffers. -/
abbrev bridgeBufSize : ℕ := 512

/-- The size of `buf`, and the most that is claimed at once: the literal 64 of both handlers. -/
def bridgeChunkSize : ℕ := 64

/-- A ring buffer of the bridge, as the queue of bytes that it is to its two users. -/
abbrev BridgeRing := BoundedFifo UInt8 bridgeBufSize

/-- The statement of the interrupt handler that is executed next. The two handlers share the ring
buffers and the interrupt flags, so it matters which statements one of them is between. -/
inductive IsrPhase where
  /-- the condition of the loop, or no interrupt -/
  | loop
  /-- `ring_buf_put` of the bytes in `buf` -/
  | put (buf : List UInt8)
  /-- `uart_irq_tx_enable` of the other port -/
  | enable
  /-- the second `if`, and `ring_buf_get_claim` -/
  | claim
  /-- `uart_fifo_fill` with the bytes claimed -/
  | fill (data : List UInt8)
  /-- `ring_buf_get_finish` of the bytes sent -/
  | finish (sent : ℕ)
  /-- `uart_irq_tx_disable` -/
  | disable
deriving DecidableEq, Repr

/-- A call of `ring_buf_put`: the bytes, how many of them it took, and how many the ring buffer held
then. The handlers ignore the result, so this record is all that tells of a loss. -/
structure BridgePut where
  chunk : List UInt8
  taken : ℕ
  held : ℕ
deriving DecidableEq, Repr

/-- A port with its interrupt handler: the bytes that have arrived and are not read, whether the
transmit interrupt is enabled, and the handler. The histories are the bytes read, the calls of
`ring_buf_put` and the bytes the port has accepted. -/
structure BridgePort where
  rx : List UInt8
  txIrq : Bool
  phase : IsrPhase
  received : List UInt8
  puts : List BridgePut
  written : List UInt8
deriving DecidableEq, Repr

/-- A port before the first interrupt, with nothing to send and its transmit interrupt disabled. -/
def BridgePort.init : BridgePort := ⟨[], false, .loop, [], [], []⟩

/-- What happens at a port. How many bytes the hardware has or takes comes with the step, so every
size of its FIFOs is covered. -/
inductive PortAction where
  /-- bytes arrive -/
  | arrive (bytes : List UInt8)
  /-- the handler enters its loop, and the port delivers at most `count` bytes -/
  | enter (count : ℕ)
  /-- the next statement; the port has room for `count` bytes -/
  | next (count : ℕ)
deriving DecidableEq, Repr

/-- Two ports, and the ring buffers from the one to the other and back: the bridge as the handler of
`own` sees it. -/
structure PortPair where
  own : BridgePort
  peer : BridgePort
  toPeer : BridgeRing
  fromPeer : BridgeRing
deriving DecidableEq, Repr

/-- A step at the port `own`; `none` when its handler is not in the place that the step needs. A
receive interrupt without a byte goes on with the second `if`. -/
def PortPair.step (b : PortPair) : PortAction → Option PortPair
  | .arrive bytes => some { b with own := { b.own with rx := b.own.rx ++ bytes } }
  | .enter count =>
    if b.own.phase = .loop then
      let buf := b.own.rx.take (min count bridgeChunkSize)
      if buf = [] then some { b with own := { b.own with phase := .claim } }
      else
        some { b with
          own := { b.own with
            rx := b.own.rx.drop buf.length
            received := b.own.received ++ buf
            phase := .put buf } }
    else none
  | .next count =>
    match b.own.phase with
    | .loop => none
    | .put buf =>
      let toPeer := b.toPeer.put buf
      let put : BridgePut := ⟨buf, min b.toPeer.space buf.length, toPeer.data.length⟩
      some { b with
        own := { b.own with puts := b.own.puts ++ [put], phase := .enable }
        toPeer := toPeer }
    | .enable =>
      some { b with own := { b.own with phase := .claim }, peer := { b.peer with txIrq := true } }
    | .claim =>
      -- The port is ready for transmission when its interrupt is enabled and it has room.
      if b.own.txIrq ∧ 0 < count then
        let data := b.fromPeer.claim (min count bridgeChunkSize)
        if data = [] then some { b with own := { b.own with phase := .disable } }
        else some { b with own := { b.own with phase := .fill data } }
      else some { b with own := { b.own with phase := .loop } }
    | .fill data =>
      let sent := min count data.length
      some { b with
        own := { b.own with written := b.own.written ++ data.take sent, phase := .finish sent } }
    | .finish sent =>
      some { b with
        own := { b.own with phase := .loop }
        fromPeer := b.fromPeer.finish sent }
    | .disable => some { b with own := { b.own with txIrq := false, phase := .loop } }

/-- The same steps as a relation, one constructor for each way through the handler, with the guards
that it has checked on it. What a step can do is read off here, so no proof takes the function apart
again. -/
inductive PortPair.Move (b : PortPair) : PortAction → PortPair → Prop
  | arrive (bytes : List UInt8) :
    b.Move (.arrive bytes) { b with own := { b.own with rx := b.own.rx ++ bytes } }
  | skip (count : ℕ) (hphase : b.own.phase = .loop)
      (hnone : b.own.rx.take (min count bridgeChunkSize) = []) :
    b.Move (.enter count) { b with own := { b.own with phase := .claim } }
  | read (count : ℕ) (buf : List UInt8) (hphase : b.own.phase = .loop)
      (hbuf : buf = b.own.rx.take (min count bridgeChunkSize)) (hsome : buf ≠ []) :
    b.Move (.enter count)
      { b with
        own := { b.own with
          rx := b.own.rx.drop buf.length
          received := b.own.received ++ buf
          phase := .put buf } }
  | put (count : ℕ) (buf : List UInt8) (hphase : b.own.phase = .put buf) :
    b.Move (.next count)
      { b with
        own := { b.own with
          puts := b.own.puts ++
            [⟨buf, min b.toPeer.space buf.length, (b.toPeer.put buf).data.length⟩]
          phase := .enable }
        toPeer := b.toPeer.put buf }
  | enable (count : ℕ) (hphase : b.own.phase = .enable) :
    b.Move (.next count)
      { b with own := { b.own with phase := .claim }, peer := { b.peer with txIrq := true } }
  | notReady (count : ℕ) (hphase : b.own.phase = .claim) (hready : ¬ (b.own.txIrq ∧ 0 < count)) :
    b.Move (.next count) { b with own := { b.own with phase := .loop } }
  | claimNone (count : ℕ) (hphase : b.own.phase = .claim) (hready : b.own.txIrq ∧ 0 < count)
      (hnil : b.fromPeer.claim (min count bridgeChunkSize) = []) :
    b.Move (.next count) { b with own := { b.own with phase := .disable } }
  | claim (count : ℕ) (data : List UInt8) (hphase : b.own.phase = .claim)
      (hready : b.own.txIrq ∧ 0 < count)
      (hdata : data = b.fromPeer.claim (min count bridgeChunkSize)) (hsome : data ≠ []) :
    b.Move (.next count) { b with own := { b.own with phase := .fill data } }
  | fill (count : ℕ) (data : List UInt8) (hphase : b.own.phase = .fill data) :
    b.Move (.next count)
      { b with
        own := { b.own with
          written := b.own.written ++ data.take (min count data.length)
          phase := .finish (min count data.length) } }
  | finish (count sent : ℕ) (hphase : b.own.phase = .finish sent) :
    b.Move (.next count)
      { b with own := { b.own with phase := .loop }, fromPeer := b.fromPeer.finish sent }
  | disable (count : ℕ) (hphase : b.own.phase = .disable) :
    b.Move (.next count) { b with own := { b.own with txIrq := false, phase := .loop } }

/-- Every step of the handler is one of the eleven moves. -/
theorem PortPair.move_of_step {b b' : PortPair} {a : PortAction} (hstep : b.step a = some b') :
    b.Move a b' := by
  cases a with
  | arrive bytes =>
    obtain rfl := Option.some.inj hstep
    exact .arrive bytes
  | enter count =>
    simp only [PortPair.step, Option.ite_none_right_eq_some] at hstep
    obtain ⟨hphase, hstep⟩ := hstep
    split at hstep
    · next hnone =>
      obtain rfl := Option.some.inj hstep
      exact .skip count hphase hnone
    · next hsome =>
      obtain rfl := Option.some.inj hstep
      exact .read count _ hphase rfl hsome
  | next count =>
    cases hphase : b.own.phase with
    | loop => simp [PortPair.step, hphase] at hstep
    | put buf =>
      simp only [PortPair.step, hphase] at hstep
      obtain rfl := Option.some.inj hstep
      exact .put count buf hphase
    | enable =>
      simp only [PortPair.step, hphase] at hstep
      obtain rfl := Option.some.inj hstep
      exact .enable count hphase
    -- the only place with a choice: whether the port is ready, and whether there is something
    | claim =>
      simp only [PortPair.step, hphase] at hstep
      split at hstep
      · next hready =>
        split at hstep
        · next hnil =>
          obtain rfl := Option.some.inj hstep
          exact .claimNone count hphase hready hnil
        · next hsome =>
          obtain rfl := Option.some.inj hstep
          exact .claim count _ hphase hready rfl hsome
      · next hready =>
        obtain rfl := Option.some.inj hstep
        exact .notReady count hphase hready
    | fill data =>
      simp only [PortPair.step, hphase] at hstep
      obtain rfl := Option.some.inj hstep
      exact .fill count data hphase
    | finish sent =>
      simp only [PortPair.step, hphase] at hstep
      obtain rfl := Option.some.inj hstep
      exact .finish count sent hphase
    | disable =>
      simp only [PortPair.step, hphase] at hstep
      obtain rfl := Option.some.inj hstep
      exact .disable count hphase

/-! ### The bridge -/

/-- The two ports and the two ring buffers, each of the latter named by its direction. -/
structure UartBridge where
  uart : BridgePort
  cdc : BridgePort
  uartToCdc : BridgeRing
  cdcToUart : BridgeRing
deriving DecidableEq, Repr

/-- The bridge as the handler of `uart0` sees it, which sends to the USB port. -/
def UartBridge.atUart (b : UartBridge) : PortPair := ⟨b.uart, b.cdc, b.uartToCdc, b.cdcToUart⟩

/-- The bridge as the handler of `cdc_acm_uart1` sees it, which sends to `uart0`. -/
def UartBridge.atCdc (b : UartBridge) : PortPair := ⟨b.cdc, b.uart, b.cdcToUart, b.uartToCdc⟩

/-- `uart_isr`, and what arrives at `uart0`: the handler of a port, with this one as its own. -/
def uartIsr (b : UartBridge) (a : PortAction) : Option UartBridge :=
  (b.atUart.step a).map fun p => ⟨p.own, p.peer, p.toPeer, p.fromPeer⟩

/-- `cdc_isr`, and what arrives at `cdc_acm_uart1`: the same handler, with the ports exchanged. -/
def cdcIsr (b : UartBridge) (a : PortAction) : Option UartBridge :=
  (b.atCdc.step a).map fun p => ⟨p.peer, p.own, p.fromPeer, p.toPeer⟩

/-- The bridge after `uart_bridge_init`, when both devices are ready and both receive interrupts
enabled. -/
def UartBridge.init : UartBridge := ⟨.init, .init, .empty, .empty⟩

/-- `uart_bridge_init`: without either of the devices nothing is set up, since it returns before it
sets the first callback. -/
def uartBridgeInit (uartReady cdcReady : Bool) : Ret × Option UartBridge :=
  if uartReady = false then (.err .enodev, none)
  else if cdcReady = false then (.err .enodev, none)
  else (.ok, some .init)

/-- A step at one of the ports. The two interleave in any order. -/
inductive BridgeAction where
  | uart (a : PortAction)
  | cdc (a : PortAction)
deriving DecidableEq, Repr

/-- One step of the bridge, by one of its two handlers. -/
def UartBridge.step (b : UartBridge) : BridgeAction → Option UartBridge
  | .uart a => uartIsr b a
  | .cdc a => cdcIsr b a

end DectCommunicator
