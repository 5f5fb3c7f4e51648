import DectCommunicator.Lib.LittleEndian
import DectCommunicator.Lib.Runs

/-!
# The HCI UART of the bridge

The bridge runs on the nRF5340 and joins the Bluetooth controller to the host on the nRF9151, over
a UART with H:4 framing (`alfie/ble_bridge/src/main.c`). What the host sends goes through `rx_isr`,
`tx_queue` and `tx_thread` to the controller (`HciReceiver`); what the controller sends goes through
the loop of `main`, `uart_tx_queue` and `tx_isr` to the UART (`HciTransmitter`).

`bt_uart_isr` calls the two interrupt handlers in a loop. The steps are single passes of the loop of
`rx_isr` and single calls of `tx_isr`, between which bytes may arrive and threads may run; that
allows all the orders that `bt_uart_isr` produces. A UART read or write moves as many bytes as the
hardware has or takes, which is the number that comes with the step.

The buffers, `bt_buf_get_tx`, `bt_send` and `bt_iso_hdr_len` are the Bluetooth stack's. The first
is the result that comes with a step, and the last one a parameter.
-/

namespace DectCommunicator

open LittleEndian

/-! ### H:4 packets -/

/-- `H4_CMD`: a command of the host. -/
def h4Cmd : UInt8 := 0x01

/-- `H4_ACL`: asynchronous data, in either direction. -/
def h4Acl : UInt8 := 0x02

/-- `H4_EVT`: an event of the controller, which the bridge writes and never accepts. -/
def h4Evt : UInt8 := 0x04

/-- `H4_ISO`: isochronous data, in either direction. -/
def h4Iso : UInt8 := 0x05

/-- `H4_DISCARD_LEN`, the size of the buffer on the stack into which a payload without room is
read. -/
def h4DiscardLen : ℕ := 33

/-- The size of `hdr_buf`, the larger of the command and the ACL header. -/
abbrev hdrBufSize : ℕ := 4

/-- `valid_type`, which tells what a host may send. Any other byte is skipped. -/
def validType (type : UInt8) : Bool := type == h4Cmd || type == h4Acl || type == h4Iso

/-- `hdr_len`: the sizes of the packed headers. -/
def hdrLen (type : UInt8) : ℕ :=
  if type = h4Cmd then 3
  else if type = h4Iso then 4
  else if type = h4Acl then 4
  else 0

/-- `get_len`: `param_len` of a command follows its 16-bit opcode, and the 16-bit length of the
others their handle. -/
def getLen (btIsoHdrLen : ℕ → ℕ) (hdrBuf : List UInt8) (type : UInt8) : ℕ :=
  if type = h4Cmd then field hdrBuf 2 1
  else if type = h4Iso then btIsoHdrLen (field hdrBuf 2 2)
  else if type = h4Acl then field hdrBuf 2 2
  else 0

/-! ### Buffers -/

/-- A `net_buf` of the HCI pools: which one it is, the size of its memory behind the headroom, and
its data, which lie in it. -/
structure HciBuf where
  id : ℕ
  size : ℕ
  data : List UInt8
  fits : data.length ≤ size
deriving DecidableEq, Repr

/-- `net_buf_tailroom`: the memory behind the data, into which the payload is read. -/
def HciBuf.tailroom (b : HciBuf) : ℕ := b.size - b.data.length

/-- `net_buf_add_mem`; `none` is a write behind the buffer. -/
def HciBuf.addMem (b : HciBuf) (mem : List UInt8) : Option HciBuf :=
  if h : b.data.length + mem.length ≤ b.size then
    some ⟨b.id, b.size, b.data ++ mem, by rw [List.length_append]; exact h⟩
  else none

/-- A read of at most `len` bytes to `net_buf_tail`, with the length moved on; `none` when the UART
was allowed to write behind the buffer, whether it has done so or not. -/
def HciBuf.readTail (b : HciBuf) (len : ℕ) (read : List UInt8) : Option HciBuf :=
  if b.data.length + len ≤ b.size then b.addMem read else none

/-- `net_buf_pull`, after the UART has taken the first `len` bytes. -/
def HciBuf.pull (b : HciBuf) (len : ℕ) : HciBuf :=
  ⟨b.id, b.size, b.data.drop len, by rw [List.length_drop]; exact (Nat.sub_le _ _).trans b.fits⟩

/-- `hdr_buf`, which is static, so its old bytes remain until they are overwritten. -/
structure HdrBuf where
  bytes : List UInt8
  length_bytes : bytes.length = hdrBufSize
deriving DecidableEq, Repr

/-- A read to `hdr_buf` at an offset. That it stays inside is a hypothesis, which `rxIsr` has to
check. -/
def HdrBuf.write (b : HdrBuf) (offset : ℕ) (read : List UInt8)
    (h : offset + read.length ≤ hdrBufSize) : HdrBuf :=
  ⟨b.bytes.take offset ++ read ++ b.bytes.drop (offset + read.length), by
    have hb := b.length_bytes
    simp only [List.length_append, List.length_take, List.length_drop]
    omega⟩

/-! ### The receiver -/

/-- The receiver states, `ST_IDLE` to `ST_DISCARD`. -/
inductive RxState where
  | idle
  | hdr
  | payload
  | discard
deriving DecidableEq, Repr

/-- The static variables of `rx_isr`, which keep a packet over as many interrupts as it takes. -/
structure RxIsr where
  buf : Option HciBuf
  remaining : ℕ
  state : RxState
  type : UInt8
  hdrBuf : HdrBuf
deriving DecidableEq, Repr

/-- The static variables at the start, which C sets to zero. -/
def RxIsr.init : RxIsr := ⟨none, 0, .idle, 0, List.replicate hdrBufSize 0, List.length_replicate⟩

/-- What a pass does besides changing the static variables, in the order in which it does it. -/
inductive HciRxEffect where
  /-- `bt_buf_get_tx` was called, with this result -/
  | allocated (answer : Option HciBuf)
  /-- `net_buf_unref` -/
  | unref (buf : HciBuf)
  /-- `k_fifo_put` to `tx_queue` -/
  | put (buf : HciBuf)
deriving DecidableEq, Repr

/-- What a pass of the loop leaves, and whether there is another one, which is the value of
`read`. -/
structure RxPass where
  isr : RxIsr
  effects : List HciRxEffect
  again : Bool
deriving DecidableEq, Repr

/-- How many bytes the next `h4_read` asks for, which bounds what it delivers. -/
def RxIsr.request (s : RxIsr) : ℕ :=
  match s.state with
  | .idle => 1
  | .hdr => s.remaining
  | .payload => s.remaining
  | .discard => min s.remaining h4DiscardLen

/-- A pass of the loop of `rx_isr` once the header is complete. A buffer without room for the
payload is given back, but `buf` still points to it. -/
def RxIsr.onHeader (btIsoHdrLen : ℕ → ℕ) (s : RxIsr) (answer : Option HciBuf) (again : Bool) :
    Option RxPass :=
  match answer with
  | none =>
    -- "On failed allocation state machine is reset", and the interrupt is left.
    some ⟨{ s with buf := none, state := .idle }, [.allocated none], false⟩
  | some b =>
    (b.addMem (s.hdrBuf.bytes.take (hdrLen s.type))).map fun buf =>
      let s := { s with buf := some buf, remaining := getLen btIsoHdrLen s.hdrBuf.bytes s.type }
      if s.remaining > buf.tailroom then
        ⟨{ s with state := .discard }, [.allocated answer, .unref buf], again⟩
      else ⟨{ s with state := .payload }, [.allocated answer], again⟩

/-- A pass of the loop of `rx_isr`, with the bytes that `h4_read` delivers and the result of
`bt_buf_get_tx`; `none` is an access outside of a buffer. -/
def rxIsr (btIsoHdrLen : ℕ → ℕ) (s : RxIsr) (read : List UInt8) (answer : Option HciBuf) :
    Option RxPass :=
  let again := !read.isEmpty
  match s.state with
  | .idle =>
    match read with
    | [] => some ⟨s, [], again⟩
    | type :: _ =>
      if validType type then
        some ⟨{ s with type := type, remaining := hdrLen type, state := .hdr }, [], again⟩
      else some ⟨{ s with type := type }, [], again⟩
  | .hdr =>
    -- `&hdr_buf[hdr_len(type) - remaining]`, and `remaining` bytes from there on.
    if s.remaining ≤ hdrLen s.type ∧ hdrLen s.type ≤ hdrBufSize then
      if h : hdrLen s.type - s.remaining + read.length ≤ hdrBufSize then
        let s := { s with
          hdrBuf := s.hdrBuf.write (hdrLen s.type - s.remaining) read h
          remaining := s.remaining - read.length }
        if s.remaining = 0 then s.onHeader btIsoHdrLen answer again else some ⟨s, [], again⟩
      else none
    else none
  | .payload =>
    (s.buf.bind fun b => b.readTail s.remaining read).map fun buf =>
      let s := { s with buf := some buf, remaining := s.remaining - read.length }
      if s.remaining = 0 then ⟨{ s with state := .idle }, [.put buf], again⟩
      else ⟨s, [], again⟩
  | .discard =>
    let s := { s with remaining := s.remaining - read.length }
    some ⟨if s.remaining = 0 then { s with state := .idle } else s, [], again⟩

/-- What `rx_isr` gets from outside: bytes of the UART, and the results of `bt_buf_get_tx`. These
determine all that it does. -/
inductive HciRxInput where
  | byte (b : UInt8)
  | answer (a : Option HciBuf)
deriving DecidableEq, Repr

/-- The result of an allocation, as an input, for the history of these. -/
def HciRxEffect.input? : HciRxEffect → Option HciRxInput
  | .allocated answer => some (.answer answer)
  | .unref _ => none
  | .put _ => none

/-- The buffer that an effect puts into `tx_queue`, with a whole packet in it. -/
def HciRxEffect.put? : HciRxEffect → Option HciBuf
  | .allocated _ => none
  | .unref _ => none
  | .put buf => some buf

/-- The buffer that an effect gives back to its pool, the packet having no room in it. -/
def HciRxEffect.unref? : HciRxEffect → Option HciBuf
  | .allocated _ => none
  | .unref buf => some buf
  | .put _ => none

/-- The way from the UART to the controller. `txThread` is the buffer that `tx_thread` has taken
from `tx_queue`. The histories are what `rx_isr` got, the buffers `bt_send` was called with and its
results, and the buffers given back by `net_buf_unref`, oldest first. -/
structure HciReceiver where
  fifo : List UInt8
  running : Bool
  isr : RxIsr
  txQueue : List HciBuf
  txThread : Option HciBuf
  inputs : List HciRxInput
  sent : List (HciBuf × Int)
  unreffed : List HciBuf
deriving DecidableEq, Repr

/-- The bridge at the start, when nothing has arrived and `tx_thread` waits. -/
def HciReceiver.init : HciReceiver where
  fifo := []
  running := false
  isr := .init
  txQueue := []
  txThread := none
  inputs := []
  sent := []
  unreffed := []

/-- The steps of the receiver, of which the interrupt and the thread take theirs in any order. -/
inductive HciRxAction where
  /-- bytes arrive at the UART -/
  | arrive (bytes : List UInt8)
  /-- `bt_uart_isr` calls `rx_isr` -/
  | interrupt
  /-- a pass of its loop, in which the UART delivers at most `count` bytes and `bt_buf_get_tx`
  answers `answer` -/
  | pass (count : ℕ) (answer : Option HciBuf)
  /-- `tx_thread` takes a buffer -/
  | get
  /-- `tx_thread` calls `bt_send`, with this result -/
  | send (err : Int)
deriving DecidableEq, Repr

/-- The state after a pass that read `read`: what was read has left the UART, and the effects have
been done. -/
def HciReceiver.afterPass (r : HciReceiver) (read : List UInt8) (p : RxPass) : HciReceiver :=
  { r with
    fifo := r.fifo.drop read.length
    running := p.again
    isr := p.isr
    txQueue := r.txQueue ++ p.effects.filterMap HciRxEffect.put?
    inputs := r.inputs ++ (read.map .byte ++ p.effects.filterMap HciRxEffect.input?)
    unreffed := r.unreffed ++ p.effects.filterMap HciRxEffect.unref? }

/-- The bytes that the UART delivers when it has `count` of them at hand: no more than are asked
for. -/
def HciReceiver.read (r : HciReceiver) (count : ℕ) : List UInt8 :=
  r.fifo.take (min count r.isr.request)

/-- One step; `none` when it cannot be taken. A buffer that `bt_send` refuses is given back by the
thread, and one that it accepts is the controller's. -/
def HciReceiver.step (btIsoHdrLen : ℕ → ℕ) (r : HciReceiver) : HciRxAction → Option HciReceiver
  | .arrive bytes => some { r with fifo := r.fifo ++ bytes }
  | .interrupt => if r.running then none else some { r with running := true }
  | .pass count answer =>
    if r.running then
      (rxIsr btIsoHdrLen r.isr (r.read count) answer).map (r.afterPass (r.read count))
    else none
  | .get =>
    match r.txThread, r.txQueue with
    | none, buf :: queue => some { r with txThread := some buf, txQueue := queue }
    | _, _ => none
  | .send err =>
    match r.txThread with
    | some buf =>
      some { r with
        txThread := none
        sent := r.sent ++ [(buf, err)]
        unreffed := r.unreffed ++ if err = 0 then [] else [buf] }
    | none => none

/-- The bytes that arrive in a run, in the order of their arrival. -/
def arrivedBytes (as : List HciRxAction) : List UInt8 :=
  as.flatMap fun
    | .arrive bytes => bytes
    | _ => []

/-! ### The transmitter -/

/-- `cc_evt`: Command Complete with the opcode NOP, as an H:4 event. -/
def ccEvt : List UInt8 :=
  -- `.h4`, `.hdr.evt`, `.hdr.len`, `.cc.ncmd`, and the two bytes of `.cc.opcode`
  [h4Evt, 0x0E, 3, 1, 0, 0]

/-- The way from the controller to the UART. `buf` is the static variable of `tx_isr`. `main` has
taken a buffer (`holding`), or it has put it into `uart_tx_queue` and not yet enabled the interrupt
(`enabling`). The histories are the buffers `main` has taken, those given back, and the bytes
written to the UART. -/
structure HciTransmitter where
  buf : Option HciBuf
  uartTxQueue : List HciBuf
  txIrq : Bool
  holding : Option HciBuf
  enabling : Bool
  taken : List HciBuf
  unreffed : List HciBuf
  wire : List UInt8
deriving DecidableEq, Repr

/-- `main` before its loop, when it has written `cc_evt` with `uart_poll_out`. -/
def HciTransmitter.init : HciTransmitter where
  buf := none
  uartTxQueue := []
  txIrq := false
  holding := none
  enabling := false
  taken := []
  unreffed := []
  wire := ccEvt

/-- What follows in `tx_isr` once there is a buffer: the UART takes at most `room` bytes. -/
def HciTransmitter.fill (t : HciTransmitter) (b : HciBuf) (room : ℕ) : HciTransmitter :=
  let len := min room b.data.length
  let wire := t.wire ++ b.data.take len
  let b := b.pull len
  if b.data = [] then { t with buf := none, wire := wire, unreffed := t.unreffed ++ [b] }
  else { t with buf := some b, wire := wire }

/-- `tx_isr`: it takes a buffer when it has none, and disables the interrupt when there is none to
take. -/
def txIsr (t : HciTransmitter) (room : ℕ) : HciTransmitter :=
  match t.buf, t.uartTxQueue with
  | some b, _ => t.fill b room
  | none, b :: queue => { t with uartTxQueue := queue }.fill b room
  | none, [] => { t with txIrq := false }

/-- The steps of the transmitter, in which `h4_send` is two, so that the interrupt can come between
them. -/
inductive HciTxAction where
  /-- `main` takes a buffer of the controller from `rx_queue` -/
  | get (buf : HciBuf)
  /-- `h4_send`: `k_fifo_put` -/
  | put
  /-- `h4_send`: `uart_irq_tx_enable` -/
  | enable
  /-- `bt_uart_isr` calls `tx_isr` -/
  | interrupt (room : ℕ)
deriving DecidableEq, Repr

/-- One step; `none` when it cannot be taken. The UART interrupts for transmission only when that is
enabled. -/
def HciTransmitter.step (t : HciTransmitter) : HciTxAction → Option HciTransmitter
  | .get buf =>
    if t.holding = none ∧ t.enabling = false then
      some { t with holding := some buf, taken := t.taken ++ [buf] }
    else none
  | .put =>
    match t.holding with
    | some buf =>
      some { t with holding := none, enabling := true, uartTxQueue := t.uartTxQueue ++ [buf] }
    | none => none
  | .enable => if t.enabling then some { t with enabling := false, txIrq := true } else none
  | .interrupt room => if t.txIrq then some (txIsr t room) else none

end DectCommunicator
