import Snf.Lib.Journal
import Snf.Lib.Machine
import Snf.Worker.Connection

/-! # The network part of a worker

Poll events, the read queue, the flush loop, sends and closes. The two loops that talk to a
socket are taken one round at a time: `reading` and `writing` name the connection a loop is
at, and the label of a round carries what the budgets, the socket and the sink answered in it.
While the sink holds a posted frame it may send and close, as it may between the loops; a
worker that waits for the poller is in neither loop.

The state also keeps what was received, posted, accepted and sent on each connection, filed
under its generation, and why connections were closed.
-/

namespace Snf.Worker

open Snf.Protocol (Frame)
open Snf.Adapter (RequestPostResult)

/-- The place in the code at which a connection was closed. -/
inductive CloseCause where
  | pollEvent | writeQueueFull | readQueueFull | decodeError | postRefused | readBufferFull
  | endOfStream | receiveFailed | sendFailed | drained | requested | deadline | timersFull
  /-- the frame did not fit behind the bytes queued already -/
  | writeBufferFull (queuedBytes : Nat) (frame : Frame)
deriving DecidableEq

structure ConnectionClosed where
  handle : ConnectionHandle
  reason : CloseReason
  cause : CloseCause
deriving DecidableEq

/-- The read loop: not entered, at a connection, or waiting for the sink's answer to a frame of
that connection. -/
inductive ReadLoop where
  | idle
  | looping (handle : ConnectionHandle)
  | posting (handle : ConnectionHandle)
deriving DecidableEq, Repr

structure WorkerNetwork where
  id : WorkerId
  connections : ConnectionTable
  readQueue : ConnectionWorkQueue
  writeQueue : ConnectionWorkQueue
  networkStopping : Bool := false
  reading : ReadLoop := .idle
  writing : Option ConnectionHandle := none
  received : List (ConnectionGeneration × List UInt8) := []
  posted : List (ConnectionGeneration × Frame) := []
  accepted : List (ConnectionGeneration × Frame) := []
  sent : List (ConnectionGeneration × List UInt8) := []
  closed : List ConnectionClosed := []

namespace WorkerNetwork

/-! ## Closing and queueing -/

def find (s : WorkerNetwork) (handle : ConnectionHandle) : Option ConnectionSlot :=
  s.connections.find handle

def update (s : WorkerNetwork) (slot : ConnectionSlot) : WorkerNetwork :=
  { s with connections := s.connections.update slot }

def forceClose (s : WorkerNetwork) (handle : ConnectionHandle) (reason : CloseReason)
    (cause : CloseCause) : WorkerNetwork :=
  match s.find handle with
  | none => s
  | some _ =>
    { s with
      connections := s.connections.release handle
      closed := s.closed ++ [{ handle := handle, reason := reason, cause := cause }] }

def enqueueRead (s : WorkerNetwork) (slot : ConnectionSlot) : Option WorkerNetwork :=
  if slot.readQueued then some s
  else
    (s.readQueue.tryPush slot.handle).map fun readQueue =>
      { s.update { slot with readQueued := true } with readQueue := readQueue }

def enqueueWrite (s : WorkerNetwork) (slot : ConnectionSlot) : Option WorkerNetwork :=
  if slot.writeQueued then some s
  else
    (s.writeQueue.tryPush slot.handle).map fun writeQueue =>
      { s.update { slot with writeQueued := true } with writeQueue := writeQueue }

/-- A connection that the read queue refuses is closed. -/
def enqueueReadOrClose (s : WorkerNetwork) (slot : ConnectionSlot) : WorkerNetwork :=
  (s.enqueueRead slot).getD (s.forceClose slot.handle .overload .readQueueFull)

/-- A connection that the write queue refuses is closed. -/
def enqueueWriteOrClose (s : WorkerNetwork) (slot : ConnectionSlot) : WorkerNetwork :=
  (s.enqueueWrite slot).getD (s.forceClose slot.handle .slowConsumer .writeQueueFull)

/-- The slot after the poller was told what to watch its descriptor for. -/
def updateConnectionInterest (slot : ConnectionSlot) : ConnectionSlot :=
  { slot with interest := { read := slot.isOpen, write := slot.waitingEpollout } }

/-! ## Poll events -/

structure ConnectionEvent where
  readable : Bool := false
  writable : Bool := false
  error : Bool := false
  hangup : Bool := false
  fatalError : Bool := false
deriving DecidableEq, Repr

/-- The writable half of an event. -/
def resumeWrite (s : WorkerNetwork) (slot : ConnectionSlot) (event : ConnectionEvent) :
    WorkerNetwork :=
  if event.writable ∧ slot.waitingEpollout then
    let slot := updateConnectionInterest { slot with waitingEpollout := false }
    (s.update slot).enqueueWriteOrClose slot
  else s

/-- The readable half of an event. -/
def requestRead (s : WorkerNetwork) (handle : ConnectionHandle) (event : ConnectionEvent) :
    WorkerNetwork :=
  match s.find handle with
  | none => s
  | some slot =>
    if s.networkStopping = false ∧ slot.isOpen ∧ event.readable ∧ slot.readQueued = false then
      s.enqueueReadOrClose slot
    else s

/-- One event of a client connection in `processPollEvents`. -/
def processPollEvent (s : WorkerNetwork) (handle : ConnectionHandle) (event : ConnectionEvent) :
    WorkerNetwork :=
  match s.find handle with
  | none => s
  | some slot =>
    if event.error ∨ event.hangup then
      s.forceClose handle (if event.fatalError then .ioError else .peerClosed) .pollEvent
    else (s.resumeWrite slot event).requestRead handle event

/-- One client of `acceptPendingClients`. -/
def acceptPendingClient (s : WorkerNetwork) : WorkerNetwork :=
  if s.networkStopping then s
  else
    match s.connections.tryReserve s.id with
    | none => s
    | some connections => { s with connections := connections }

/-! ## The read loop -/

/-- What `recv` answered. -/
inductive Receive where
  | bytes (chunk : List UInt8)
  | endOfStream | interrupted | wouldBlock | failed
deriving DecidableEq, Repr

/-- A round of `readConnection`: whether the frame or time budget is used up, whether the byte
budget is, how much a receive may ask for beside the room in the decoder, and its answer. -/
structure ReadRound where
  expired : Bool := false
  outOfBytes : Bool := false
  receiveSize : Nat := 0
  receive : Receive := .wouldBlock
deriving DecidableEq, Repr

/-- The next item of `processReadQueue`; a handle without a connection is skipped. -/
def beginRead (s : WorkerNetwork) : WorkerNetwork :=
  if s.networkStopping then s
  else
    match s.readQueue.tryPop with
    | none => s
    | some (handle, readQueue) =>
      let s := { s with readQueue := readQueue }
      match s.find handle with
      | none => s
      | some slot =>
        { s.update { slot with readQueued := false } with reading := .looping handle }

/-- The loop leaves the connection, which goes back to the queue if it is still open. -/
def requeue (s : WorkerNetwork) (slot : ConnectionSlot) : WorkerNetwork :=
  if slot.isOpen then { s with reading := .idle }.enqueueReadOrClose slot
  else { s with reading := .idle }

/-- The loop leaves the connection and closes it. -/
def endRead (s : WorkerNetwork) (handle : ConnectionHandle) (reason : CloseReason)
    (cause : CloseCause) : WorkerNetwork :=
  { s with reading := .idle }.forceClose handle reason cause

/-- The end of a round that found no whole frame in the decoder. -/
def receiveBytes (s : WorkerNetwork) (slot : ConnectionSlot) (round : ReadRound) :
    Option WorkerNetwork :=
  let handle := slot.handle
  let maxReadBufferBytes := s.connections.limits.maxReadBufferBytes
  if round.outOfBytes then some (s.requeue slot)
  else if slot.decoder.bufferedByteCount ≥ maxReadBufferBytes then
    some (s.endRead handle .protocolViolation .readBufferFull)
  else
    let receiveSize := min (maxReadBufferBytes - slot.decoder.bufferedByteCount) round.receiveSize
    if receiveSize = 0 then some (s.requeue slot)
    else
      match round.receive with
      | .bytes chunk =>
        -- the socket answers at least one byte and no more than it was asked for
        if chunk = [] ∨ receiveSize < chunk.length then none
        else
          some
            { s.update { slot with decoder := slot.decoder.push chunk } with
              received := s.received ++ [(handle.generation, chunk)] }
      | .endOfStream => some (s.endRead handle .peerClosed .endOfStream)
      | .interrupted => some s
      | .wouldBlock => some { s with reading := .idle }
      | .failed => some (s.endRead handle .ioError .receiveFailed)

/-- One round of `readConnection`. -/
def readRound (s : WorkerNetwork) (handle : ConnectionHandle) (round : ReadRound) :
    Option WorkerNetwork :=
  match s.find handle with
  | none => some { s with reading := .idle }
  | some slot =>
    if slot.isOpen = false then some { s with reading := .idle }
    else if round.expired then some (s.requeue slot)
    else
      let (decoded, decoder) := slot.decoder.tryDecodeNext
      let slot := { slot with decoder := decoder }
      let s := s.update slot
      if decoded.error.isSome then some (s.endRead handle .protocolViolation .decodeError)
      else
        match decoded.frame with
        | some frame =>
          some
            { s with
              reading := .posting handle
              posted := s.posted ++ [(handle.generation, frame)] }
        | none => s.receiveBytes slot round

/-- The sink answers the posted frame. -/
def postReturns (s : WorkerNetwork) (handle : ConnectionHandle) (result : RequestPostResult) :
    WorkerNetwork :=
  match result with
  | .accepted => { s with reading := .looping handle }
  | .invalid => s.endRead handle .protocolViolation .postRefused
  | .rejected => s.endRead handle .overload .postRefused

/-! ## The flush loop -/

/-- What `send` answered. -/
inductive Sent where
  | bytes (count : Nat)
  | interrupted | wouldBlock | failed
deriving DecidableEq, Repr

/-- The next item of `flushWrites`; a handle without a connection is skipped. -/
def beginFlush (s : WorkerNetwork) : WorkerNetwork :=
  match s.writeQueue.tryPop with
  | none => s
  | some (handle, writeQueue) =>
    let s := { s with writeQueue := writeQueue }
    match s.find handle with
    | none => s
    | some slot =>
      { s.update { slot with writeQueued := false, waitingEpollout := false } with
        writing := some handle }

/-- A round of the inner loop of `flushWrites`, and what follows the loop once it is left;
`expired` when the byte or time budget is used up. -/
def flushRound (s : WorkerNetwork) (handle : ConnectionHandle) (expired : Bool) (answer : Sent) :
    Option WorkerNetwork :=
  let left : WorkerNetwork := { s with writing := none }
  match s.find handle with
  | none => some left
  | some slot =>
    if slot.hasPendingWrite = false then
      if slot.isClosing then some (left.forceClose handle slot.closeReason .drained)
      else some (left.update (updateConnectionInterest slot))
    else if expired then some (left.enqueueWriteOrClose slot)
    else
      match answer with
      | .bytes count =>
        -- a positive answer is never more than was handed over
        if count = 0 ∨ slot.writeBuffer.frontBytes.length < count then none
        else
          match slot.writeBuffer.consume count with
          | .error _ => none
          | .ok (_, writeBuffer) =>
            some
              { s.update { slot with writeBuffer := writeBuffer } with
                sent := s.sent ++
                  [(handle.generation, slot.writeBuffer.frontBytes.take count)] }
      | .interrupted => some s
      | .wouldBlock =>
        some (left.update (updateConnectionInterest { slot with waitingEpollout := true }))
      | .failed => some (left.forceClose handle .ioError .sendFailed)

/-! ## Sends and closes -/

def sendLocal (s : WorkerNetwork) (connection : ConnectionRef) (frame : Frame) (critical : Bool) :
    SendResult × WorkerNetwork :=
  let handle : ConnectionHandle := { id := connection.id, generation := connection.generation }
  match s.find handle with
  | none => (.stale, s)
  | some slot =>
    if slot.reference.owner ≠ connection.owner then (.stale, s)
    else
      let (result, slot') := slot.appendFrame frame critical
      match result with
      | .hardLimit =>
        (.hardLimit, s.forceClose handle .slowConsumer
          (.writeBufferFull slot.writeBuffer.queuedBytes frame))
      | .accepted =>
        let s := s.update slot'
        let noted (s : WorkerNetwork) : WorkerNetwork :=
          { s with accepted := s.accepted ++ [(handle.generation, frame)] }
        if slot'.writeQueued = false ∧ slot'.waitingEpollout = false then
          match s.enqueueWrite slot' with
          | some s => (.accepted, noted s)
          | none => (.rejected, s.forceClose handle .slowConsumer .writeQueueFull)
        else (.accepted, noted s)
      | other => (other, s)

/-- Drain before closing; `scheduled` when the timer of the drain deadline was taken. -/
def beginGracefulClose (s : WorkerNetwork) (handle : ConnectionHandle) (reason : CloseReason)
    (scheduled : Bool) : Bool × WorkerNetwork :=
  match s.find handle with
  | none => (false, s)
  | some slot =>
    if slot.isClosing then (true, s)
    else
      let slot := updateConnectionInterest (slot.beginClosing reason)
      let s := s.update slot
      if slot.hasPendingWrite = false then (true, s.forceClose handle reason .requested)
      else
        let deadline (s : WorkerNetwork) : WorkerNetwork :=
          if scheduled then s else s.forceClose handle .timeout .timersFull
        if slot.writeQueued = false ∧ slot.waitingEpollout = false then
          match s.enqueueWrite slot with
          | some s => (true, deadline s)
          | none => (true, s.forceClose handle .slowConsumer .writeQueueFull)
        else (true, deadline s)

/-- `closeConnection` at the worker that owns the connection; another worker is sent the
request. -/
def closeConnection (s : WorkerNetwork) (connection : ConnectionRef) (reason : CloseReason)
    (graceful scheduled : Bool) : Bool × WorkerNetwork :=
  let handle : ConnectionHandle := { id := connection.id, generation := connection.generation }
  if connection.owner ≠ s.id then (false, s)
  else if (s.find handle).isNone then (false, s)
  else if graceful then s.beginGracefulClose handle reason scheduled
  else (true, s.forceClose handle reason .requested)

/-- The timer of a drain deadline. -/
def closeDeadline (s : WorkerNetwork) (handle : ConnectionHandle) : WorkerNetwork :=
  match s.find handle with
  | none => s
  | some slot => if slot.isClosing then s.forceClose handle .timeout .deadline else s

/-- The part of `beginShutdownPhaseA` about connections: nothing is read any more. -/
def beginShutdownPhaseA (s : WorkerNetwork) : WorkerNetwork :=
  let connections := s.connections.activeHandles.foldl
    (fun table handle => table.modify handle fun slot =>
      { slot with interest := { read := false, write := slot.waitingEpollout } }) s.connections
  let connections := s.readQueue.items.foldl
    (fun table handle => table.modify handle fun slot => { slot with readQueued := false })
    connections
  { s with networkStopping := true, connections := connections, readQueue := s.readQueue.clear }

end WorkerNetwork

/-! ## Runs -/

inductive NetworkAction where
  | accept
  | poll (handle : ConnectionHandle) (event : WorkerNetwork.ConnectionEvent)
  | beginRead
  | readRound (round : WorkerNetwork.ReadRound)
  | postReturns (result : RequestPostResult)
  | beginFlush
  | flushRound (expired : Bool) (answer : WorkerNetwork.Sent)
  | sendLocal (connection : ConnectionRef) (frame : Frame) (critical : Bool)
  | closeConnection (connection : ConnectionRef) (reason : CloseReason)
      (graceful scheduled : Bool)
  | closeDeadline (handle : ConnectionHandle)
  | beginShutdown
deriving DecidableEq

namespace WorkerNetwork

/-- Neither loop is at a connection. -/
def resting (s : WorkerNetwork) : Bool := s.reading = .idle ∧ s.writing = none

/-- Other code runs between the loops and inside the sink, never inside a round. -/
def callable (s : WorkerNetwork) : Bool :=
  match s.reading with
  | .looping _ => false
  | _ => s.writing = none

def step (s : WorkerNetwork) : NetworkAction → Option WorkerNetwork
  | .accept => if s.resting then some s.acceptPendingClient else none
  | .poll handle event => if s.resting then some (s.processPollEvent handle event) else none
  | .beginRead => if s.resting then some s.beginRead else none
  | .readRound round =>
    match s.reading with
    | .looping handle => s.readRound handle round
    | _ => none
  | .postReturns result =>
    match s.reading with
    | .posting handle => some (s.postReturns handle result)
    | _ => none
  | .beginFlush => if s.resting then some s.beginFlush else none
  | .flushRound expired answer =>
    match s.writing with
    | some handle => s.flushRound handle expired answer
    | none => none
  | .sendLocal connection frame critical =>
    if s.callable then some (s.sendLocal connection frame critical).2 else none
  | .closeConnection connection reason graceful scheduled =>
    if s.callable then some (s.closeConnection connection reason graceful scheduled).2 else none
  | .closeDeadline handle => if s.resting then some (s.closeDeadline handle) else none
  | .beginShutdown => if s.resting then some s.beginShutdownPhaseA else none

def initial (id : WorkerId) (capacity : Nat) (limits : ConnectionLimits) : WorkerNetwork where
  id := id
  connections := { capacity := capacity, limits := limits }
  readQueue := { capacity := capacity, fits := Nat.zero_le _ }
  writeQueue := { capacity := capacity, fits := Nat.zero_le _ }

end WorkerNetwork

/-- The runs of the network part of a worker. -/
def networkRuns : Lib.Machine WorkerNetwork NetworkAction where
  init s := ∃ id capacity limits, 0 < capacity ∧ s = .initial id capacity limits
  step := WorkerNetwork.step

end Snf.Worker
