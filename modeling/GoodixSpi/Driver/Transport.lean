import GoodixSpi.Driver.Listener

/-! Commands over the listener. The MCU answers a written command with an ACK and a response,
each at most once and in the order of the commands, but whenever it likes; the thread moves
what arrives to the queues whenever it likes; a caller drains, writes and waits. -/

namespace GoodixSpi.Driver

/-- `GDIX51C0_PKT_READ`, the kind of every ACK. -/
abbrev pktRead : UInt8 := 0xb0

/-- A command on its way to the MCU, and the call that wrote it. -/
structure Write where
  payload : List UInt8
  call : Nat
deriving DecidableEq

/-- An answer of the MCU; `cause` is the number of the write it answers. -/
structure Packet where
  kind : UInt8
  cause : Nat
deriving DecidableEq

/-- The arguments of `gdix51c0_listener_command`, or without a response command those of
`gdix51c0_listener_send_ack`. -/
structure Request where
  payload : List UInt8
  responseCommand : Option UInt8
deriving DecidableEq

/-- Where a call stands. `round` counts the attempts of the command, `attempt` those of its
transport. -/
inductive Point
  | drainResponse (round : Nat)
  | drainAck (round : Nat)
  | write (round attempt : Nat)
  | awaitAck (round attempt : Nat)
  | awaitResponse (round : Nat) (ack : Packet)
deriving DecidableEq

structure Call where
  number : Nat
  request : Request
  point : Point
deriving DecidableEq

/-- A call that returned, with the ACK and the response of a success. -/
structure Returned where
  number : Nat
  request : Request
  success : Option (Packet × Option Packet)
deriving DecidableEq

structure Transport where
  writes : List Write
  acknowledged : Nat
  answered : Nat
  wire : List Packet
  listener : Listener Packet
  stopped : Bool
  calls : Nat
  current : Option Call
  takers : List (Packet × Nat)
  returned : List Returned

/-- One step of the MCU, of the thread or of the caller. -/
inductive TransportStep
  | acknowledge (write : Nat)
  | respond (write : Nat) (kind : UInt8)
  | receive
  | stop
  | call (request : Request)
  | drain
  | write
  | writeFails
  | take
  | timeOut

namespace Transport

def start : Transport where
  writes := []
  acknowledged := 0
  answered := 0
  wire := []
  listener := .new
  stopped := false
  calls := 0
  current := none
  takers := []
  returned := []

variable (self : Transport)

def moveTo (call : Call) (point : Point) : Transport :=
  { self with current := some { call with point } }

def finish (call : Call) (success : Option (Packet × Option Packet)) : Transport :=
  { self with
    current := none
    returned := self.returned ++ [⟨call.number, call.request, success⟩] }

/-- The queue that a call waits on. -/
def Point.awaited (request : Request) : Point → Option UInt8
  | .awaitAck _ _ => some pktRead
  | .awaitResponse _ _ => request.responseCommand
  | _ => none

/-- `gdix51c0_listener_drain_cmd`, before the write or before the transport. -/
def drain (call : Call) : Option Transport :=
  match call.point with
  | .drainResponse round =>
    call.request.responseCommand.map fun cmd =>
      { self with listener := self.listener.drainCmd cmd }.moveTo call (.drainAck round)
  | .drainAck round =>
    some ({ self with listener := self.listener.drainCmd pktRead }.moveTo call (.write round 1))
  | _ => none

/-- A packet that a wait takes: the ACK ends the transport, the response the command. -/
def take (call : Call) : Option Transport := do
  let cmd ← Point.awaited call.request call.point
  let (packet, listener) ← self.listener.popHead cmd
  let taken := { self with listener, takers := self.takers ++ [(packet, call.number)] }
  match call.point with
  | .awaitAck round _ =>
    if call.request.responseCommand.isSome then
      return taken.moveTo call (.awaitResponse round packet)
    else return taken.finish call (some (packet, none))
  | .awaitResponse _ ack => return taken.finish call (some (ack, some packet))
  | _ => none

/-- A wait that ends on an empty queue. A time-out is answered by one resend, a stopped
listener by none. -/
def timeOut (call : Call) : Option Transport := do
  let cmd ← Point.awaited call.request call.point
  if self.listener.queues cmd ≠ [] then none
  else if self.stopped then return self.finish call none
  else
    match call.point with
    | .awaitAck round attempt =>
      return if attempt = 1 then self.moveTo call (.write round 2) else self.finish call none
    | .awaitResponse round _ =>
      return if round = 1 then self.moveTo call (.drainResponse 2) else self.finish call none
    | _ => none

def step (self : Transport) : TransportStep → Option Transport
  | .acknowledge write =>
    if self.acknowledged ≤ write ∧ write < self.writes.length then
      some { self with acknowledged := write + 1, wire := self.wire ++ [⟨pktRead, write⟩] }
    else none
  | .respond write kind =>
    if self.answered ≤ write ∧ write < self.writes.length then
      some { self with answered := write + 1, wire := self.wire ++ [⟨kind, write⟩] }
    else none
  | .receive =>
    match self.wire with
    | [] => none
    | packet :: rest =>
      some { self with wire := rest, listener := self.listener.enqueueLocked packet.kind packet }
  | .stop => some { self with stopped := true }
  | .call request =>
    match self.current with
    | some _ => none
    | none =>
      some { self with
        calls := self.calls + 1
        current := some ⟨self.calls, request,
          if request.responseCommand.isSome then .drainResponse 1 else .drainAck 1⟩ }
  | .drain => self.current.bind self.drain
  | .write =>
    match self.current with
    | some ⟨number, request, .write round attempt⟩ =>
      some { self with
        writes := self.writes ++ [⟨request.payload, number⟩]
        current := some ⟨number, request, .awaitAck round attempt⟩ }
    | _ => none
  | .writeFails =>
    match self.current with
    | some ⟨number, request, .write round attempt⟩ =>
      some (self.finish ⟨number, request, .write round attempt⟩ none)
    | _ => none
  | .take => self.current.bind self.take
  | .timeOut => self.current.bind self.timeOut

end Transport

end GoodixSpi.Driver
