import Snf.Lib.Ensures
import Snf.Lib.Machine
import Snf.Net.Session

/-! # The TCP server

`TcpServer` of the legacy server: the reactor that accepts connections, posts the frames it
receives to the frame ingress, sends what the Logic runtime answers, and tells the ingress of
every connection that is closed. A notice that the ingress has no room for is kept and tried
again. On shutdown the ingress is told of all connections at once, and is closed after that.

The server runs on one thread, so that a run is a sequence of calls. What the ingress was called
with is listed in `frames` and `notices`, oldest first, with its answers, which are the
environment's; so are the bytes that the sockets give and take. The wake-up descriptors and the
measurements are outside the model, and so is the outbound channel: what it hands over is the
argument of a call. The registration of events is added in `Snf.Server.OutgoingBytes`.
-/

namespace Snf.Server

open Snf.Lib Snf.Net
open Snf.Protocol (Frame)

inductive PostResult where
  | accepted | full | closed
deriving DecidableEq, Repr

inductive FramePostResult where
  | accepted | full | closed | invalidPayload | unsupportedMessage
deriving DecidableEq, Repr

inductive ConnectionCloseCause where
  | peerClosed | protocolError | overflow | serverShutdown
deriving DecidableEq, Repr

structure ConnectionClosed where
  connection : Net.ConnectionId
  cause : ConnectionCloseCause
deriving DecidableEq, Repr

structure FrameEnvelope where
  connection : Net.ConnectionId
  frame : Frame
deriving DecidableEq, Repr

inductive OutboundAction where
  | sendFrame (connection : Net.ConnectionId) (frame : Frame)
  | closeConnection (connection : Net.ConnectionId)
deriving DecidableEq, Repr

structure TcpServerConfig where
  maxPendingSendBytes : Nat := 1024 * 1024
  connectionLifecycleCapacity : Nat := 4096
deriving DecidableEq, Repr

structure TcpServerStats where
  acceptedConnections : Nat := 0
  closedConnections : Nat := 0
  receivedFrames : Nat := 0
  sentFrames : Nat := 0
  protocolErrors : Nat := 0
  actorQueueOverflows : Nat := 0
  outboundAdmissionFailures : Nat := 0
  outboundAdmissionFailureFallbacks : Nat := 0
  staleOutboundActions : Nat := 0
  connectionLifecycleRejections : Nat := 0
  pendingConnectionClosesHighWaterMark : Nat := 0
deriving DecidableEq, Repr

/-- The flags of an event: `EPOLLERR`, `EPOLLIN`, `EPOLLOUT`, `EPOLLRDHUP` and `EPOLLHUP`. -/
structure EventFlags where
  error : Bool := false
  readable : Bool := false
  writable : Bool := false
  readHangUp : Bool := false
  hangUp : Bool := false
deriving DecidableEq, Repr

/-- A result of `recv`. Interrupted calls are repeated and leave no trace; the call that would
block is the end of a list of results. -/
inductive Received where
  | bytes (chunk : List UInt8)
  | closed
  | failed
deriving DecidableEq, Repr

/-- A result of `send`, in the same way. -/
inductive Sent where
  | bytes (count : Nat)
  | failed
deriving DecidableEq, Repr

/-- What the ingress answers to the notices of one call. -/
abbrev NoticeAnswers := Net.ConnectionId → PostResult

structure TcpServer where
  config : TcpServerConfig
  nextConnectionGeneration : Nat := 0
  isStopping : Bool := false
  frameIngressClosed : Bool := false
  frameIngressCancelled : Bool := false
  logicRuntimeDrained : Bool := false
  sessions : AList (fun _ : Nat => Session) := ∅
  clientDescriptorsByEventToken : AList (fun _ : Nat => Nat) := ∅
  pendingConnectionCloses : List ConnectionClosed := []
  stats : TcpServerStats := {}
  /-- every connection that was given a session -/
  accepted : List Net.ConnectionId := []
  frames : List (FrameEnvelope × FramePostResult) := []
  notices : List (ConnectionClosed × PostResult) := []
deriving DecidableEq

namespace TcpServer

def maxConnectionGeneration : Nat := 2 ^ 64 - 5
def connectionCloseRetryBudget : Nat := 64

def capacityViolated : String := "Connection lifecycle capacity invariant violated"

def create (config : TcpServerConfig) : Except String TcpServer :=
  if config.maxPendingSendBytes = 0 ∨ config.connectionLifecycleCapacity = 0 then
    .error "Invalid TCP server configuration"
  else .ok { config := config }

/-! ## Notices -/

def hasAvailableConnectionLifecycleSlot (s : TcpServer) : Bool :=
  s.sessions.entries.length < s.config.connectionLifecycleCapacity &&
    s.pendingConnectionCloses.length <
      s.config.connectionLifecycleCapacity - s.sessions.entries.length

/-- `FrameIngress::tryPostConnectionClosed`. -/
def postNotice (s : TcpServer) (closed : ConnectionClosed) (answer : PostResult) : TcpServer :=
  { s with notices := s.notices ++ [(closed, answer)] }

def pushPending (s : TcpServer) (closed : ConnectionClosed) : TcpServer :=
  { s with pendingConnectionCloses := s.pendingConnectionCloses ++ [closed] }

def raiseHighWaterMark (s : TcpServer) : TcpServer :=
  { s with stats := { s.stats with
      pendingConnectionClosesHighWaterMark :=
        max s.stats.pendingConnectionClosesHighWaterMark s.pendingConnectionCloses.length } }

def notifyConnectionClosed (s : TcpServer) (closed : ConnectionClosed) (answer : PostResult) :
    Except String TcpServer :=
  if s.isStopping then .ok s
  else
    let s := s.postNotice closed answer
    match answer with
    | .accepted | .closed => .ok s
    | .full =>
      if !s.hasAvailableConnectionLifecycleSlot then
        .error capacityViolated
      else .ok (s.pushPending closed).raiseHighWaterMark

def closeFrameIngressAfterConnectionLifecyclesDrain (s : TcpServer) : TcpServer :=
  if !s.isStopping || s.frameIngressClosed || !s.pendingConnectionCloses.isEmpty then s
  else { s with frameIngressClosed := true }

/-- The body of the loops over the pending closes and over the sessions of a shutdown. -/
def postOrKeep (s : TcpServer) (closed : ConnectionClosed) (answer : PostResult) : TcpServer :=
  let s := s.postNotice closed answer
  if answer = .full then s.pushPending closed else s

/-- The notice at the front is tried again, and goes to the back when there is no room for it. -/
def retryFront (s : TcpServer) (answers : NoticeAnswers) : TcpServer :=
  match s.pendingConnectionCloses with
  | [] => s
  | closed :: rest =>
    { s with pendingConnectionCloses := rest }.postOrKeep closed (answers closed.connection)

def retryAttempts (answers : NoticeAnswers) : Nat → TcpServer → TcpServer
  | 0, s => s
  | attempts + 1, s => retryAttempts answers attempts (s.retryFront answers)

def retryPendingConnectionCloses (s : TcpServer) (answers : NoticeAnswers) : TcpServer :=
  (retryAttempts answers (min s.pendingConnectionCloses.length connectionCloseRetryBudget)
    s).closeFrameIngressAfterConnectionLifecyclesDrain

/-! ## Sessions -/

def eraseSession (s : TcpServer) (descriptor : Nat) (connection : Net.ConnectionId) : TcpServer :=
  { s with
    clientDescriptorsByEventToken := s.clientDescriptorsByEventToken.erase connection.generation
    sessions := s.sessions.erase descriptor
    stats := { s.stats with closedConnections := s.stats.closedConnections + 1 } }

def removeSession (s : TcpServer) (descriptor : Nat) (cause : ConnectionCloseCause)
    (answers : NoticeAnswers) : Except String TcpServer :=
  match s.sessions.lookup descriptor with
  | none => .ok s
  | some session =>
    let connection := session.connectionId
    let s := s.eraseSession descriptor connection
    if !s.isStopping then
      s.notifyConnectionClosed { connection := connection, cause := cause } (answers connection)
    else .ok s

/-- The sessions of some descriptors are removed one after the other. -/
def removeSessions (s : TcpServer) (cause : ConnectionCloseCause) (answers : NoticeAnswers) :
    List Nat → Except String TcpServer
  | [] => .ok s
  | descriptor :: rest => do
    let s ← s.removeSession descriptor cause answers
    s.removeSessions cause answers rest

def closeRemainingSessions (s : TcpServer) (answers : NoticeAnswers) : Except String TcpServer :=
  s.removeSessions .serverShutdown answers s.sessions.keys

/-- A descriptor from the listener, whose session is not there yet. -/
def acceptClient (s : TcpServer) (descriptor : Nat) : Except String TcpServer :=
  if s.nextConnectionGeneration = maxConnectionGeneration then
    .error "Connection generation exhausted"
  else
    let generation := s.nextConnectionGeneration + 1
    let connection : Net.ConnectionId := { descriptor := descriptor, generation := generation }
    if (s.sessions.lookup descriptor).isSome then
      .error "A session already owns the client descriptor"
    else if (s.clientDescriptorsByEventToken.lookup generation).isSome then
      .error "A client event token is already registered"
    else
      .ok
        { s with
          nextConnectionGeneration := generation
          sessions := s.sessions.insert descriptor
            { connectionId := connection, maxPendingSendBytes := s.config.maxPendingSendBytes }
          clientDescriptorsByEventToken :=
            s.clientDescriptorsByEventToken.insert generation descriptor
          stats := { s.stats with acceptedConnections := s.stats.acceptedConnections + 1 }
          accepted := s.accepted ++ [connection] }

/-- The descriptors that the listener has. Without a slot the socket is closed and the others wait
for the next event. -/
def acceptPendingClients (s : TcpServer) : List Nat → Except String TcpServer
  | [] => .ok s
  | descriptor :: rest =>
    if !s.hasAvailableConnectionLifecycleSlot then
      .ok { s with stats := { s.stats with
        connectionLifecycleRejections := s.stats.connectionLifecycleRejections + 1 } }
    else do
      let s ← s.acceptClient descriptor
      s.acceptPendingClients rest

/-! ## Events of a client -/

/-- The frames of one chunk are posted until one is not accepted. `posts n` answers the post
number `n`. The frames posted, and the cause to close the connection, if there is one. -/
def postFrames (posts : Nat → FramePostResult) : Nat → List Frame →
    List Frame × Option ConnectionCloseCause
  | _, [] => ([], none)
  | n, frame :: frames =>
    match posts n with
    | .accepted =>
      let (posted, cause) := postFrames posts (n + 1) frames
      (frame :: posted, cause)
    | .unsupportedMessage | .invalidPayload => ([frame], some .protocolError)
    | .full => ([frame], some .overflow)
    | .closed => ([frame], some .serverShutdown)

/-- The loop around `recv`. -/
def receive (posts : Nat → FramePostResult) : Nat → Session → List Received →
    Session × List Frame × Option ConnectionCloseCause
  | _, session, [] => (session, [], none)
  | _, session, .closed :: _ => (session, [], some .peerClosed)
  | _, session, .failed :: _ => (session, [], some .peerClosed)
  | n, session, .bytes chunk :: rest =>
    match session.appendReceivedBytes chunk with
    | (_, some _, session) => (session, [], some .protocolError)
    | (frames, none, session) =>
      match postFrames posts n frames with
      | (posted, some cause) => (session, posted, some cause)
      | (posted, none) =>
        let (session, more, cause) := receive posts (n + posted.length) session rest
        (session, posted ++ more, cause)

/-- The session, the number of frames sent in full, and whether the socket still works. -/
def flushPendingSend (session : Session) : List Sent → Except String (Session × Nat × Bool)
  | [] => .ok (session, 0, true)
  | .failed :: _ => .ok (session, 0, !session.hasPendingSend)
  | .bytes count :: rest =>
    if !session.hasPendingSend then .ok (session, 0, true)
    else if count = 0 then .ok (session, 0, false)
    else
      match session.consumeSentBytes count with
      | .error e => .error e
      | .ok (session, whole) =>
        match flushPendingSend session rest with
        | .error e => .error e
        | .ok (session, frames, works) => .ok (session, frames + whole.toNat, works)

def setSession (s : TcpServer) (descriptor : Nat) (session : Session) : TcpServer :=
  { s with sessions := s.sessions.insert descriptor session }

/-- The frames that were posted, with the answers, and what is counted of them. -/
def recordPosts (s : TcpServer) (posts : Nat → FramePostResult) (connection : Net.ConnectionId)
    (posted : List Frame) (cause : Option ConnectionCloseCause) : TcpServer :=
  { s with
    frames := s.frames ++ posted.mapIdx fun i frame =>
      ({ connection := connection, frame := frame }, posts (s.frames.length + i))
    stats := { s.stats with
      receivedFrames := s.stats.receivedFrames + posted.length
      protocolErrors := s.stats.protocolErrors + if cause = some .protocolError then 1 else 0
      actorQueueOverflows :=
        s.stats.actorQueueOverflows + if cause = some .overflow then 1 else 0 } }

/-- The reading part of an event. `none` when there is no session. -/
def handleRead (s : TcpServer) (descriptor : Nat) (received : List Received)
    (posts : Nat → FramePostResult) : Option (TcpServer × Option ConnectionCloseCause) :=
  match s.sessions.lookup descriptor with
  | none => none
  | some session =>
    let (session', posted, cause) := receive posts s.frames.length session received
    some ((s.setSession descriptor session').recordPosts posts session.connectionId posted cause,
      cause)

/-- The writing part of an event. -/
def handleWrite (s : TcpServer) (descriptor : Nat) (sent : List Sent) :
    Except String (Option (TcpServer × Option ConnectionCloseCause)) :=
  match s.sessions.lookup descriptor with
  | none => .ok none
  | some session =>
    match flushPendingSend session sent with
    | .error e => .error e
    | .ok (session', sentFrames, works) =>
      let s := { s.setSession descriptor session' with
        stats := { s.stats with sentFrames := s.stats.sentFrames + sentFrames } }
      let cause :=
        if s.isStopping && s.logicRuntimeDrained && !session'.hasPendingSend then
          some .serverShutdown
        else if works then none
        else some .peerClosed
      .ok (some (s, cause))

/-- The end of an event: the session is removed when there is a cause. -/
def finishEvent (s : TcpServer) (descriptor : Nat) (flags : EventFlags)
    (cause : Option ConnectionCloseCause) (answers : NoticeAnswers) : Except String TcpServer :=
  let cause := cause.or
    (if flags.readHangUp || flags.hangUp then
      some (if s.isStopping then .serverShutdown else .peerClosed) else none)
  match cause with
  | some cause => s.removeSession descriptor cause answers
  | none => .ok s

def handleClientEvent (s : TcpServer) (descriptor : Nat) (flags : EventFlags)
    (received : List Received) (posts : Nat → FramePostResult) (sent : List Sent)
    (answers : NoticeAnswers) : Except String TcpServer :=
  if flags.error then s.finishEvent descriptor flags (some .peerClosed) answers
  else
    let hasReadEvent := !s.isStopping && (flags.readable || flags.readHangUp || flags.hangUp)
    let read := if hasReadEvent then s.handleRead descriptor received posts else some (s, none)
    match read with
    | none => .ok s
    | some (s, some cause) => s.finishEvent descriptor flags (some cause) answers
    | some (s, none) =>
      if flags.writable then
        match s.handleWrite descriptor sent with
        | .error e => .error e
        | .ok none => .ok s
        | .ok (some (s, cause)) => s.finishEvent descriptor flags cause answers
      else s.finishEvent descriptor flags none answers

/-! ## What the Logic runtime sends -/

/-- `none`, and one more stale action, when the connection is not the current one. -/
def findCurrentSession (s : TcpServer) (connection : Net.ConnectionId) : Option Session :=
  (s.sessions.lookup connection.descriptor).filter (·.connectionId = connection)

def countStaleAction (s : TcpServer) : TcpServer :=
  { s with stats := { s.stats with staleOutboundActions := s.stats.staleOutboundActions + 1 } }

def handleOutboundAction (s : TcpServer) (action : OutboundAction) (answers : NoticeAnswers) :
    Except String TcpServer :=
  match action with
  | .sendFrame connection frame =>
    match s.findCurrentSession connection with
    | none => .ok s.countStaleAction
    | some session =>
      match session.enqueueFrame frame with
      | .error e => .error e
      | .ok none => s.removeSession connection.descriptor .overflow answers
      | .ok (some session) => .ok (s.setSession connection.descriptor session)
  | .closeConnection connection =>
    match s.findCurrentSession connection with
    | none => .ok s.countStaleAction
    | some _ =>
      { s with stats := { s.stats with protocolErrors := s.stats.protocolErrors + 1 } }.removeSession
        connection.descriptor .protocolError answers

def countAdmissionFailure (s : TcpServer) (failures : Nat) : TcpServer :=
  { s with stats := { s.stats with
      outboundAdmissionFailures := s.stats.outboundAdmissionFailures + failures } }

/-- The connections whose responses could not be admitted. -/
def closeFailedAdmissions (s : TcpServer) (answers : NoticeAnswers) :
    List Net.ConnectionId → Except String TcpServer
  | [] => .ok s
  | connection :: rest =>
    match s.findCurrentSession connection with
    | none => s.countStaleAction.closeFailedAdmissions answers rest
    | some _ => do
      let s ← (s.countAdmissionFailure 1).removeSession connection.descriptor .overflow answers
      s.closeFailedAdmissions answers rest

def closeConnectionsWithFailedOutboundAdmission (s : TcpServer) (failed : List Net.ConnectionId)
    (closeAllSessions : Bool) (answers : NoticeAnswers) : Except String TcpServer := do
  let s ← s.closeFailedAdmissions answers failed
  if !closeAllSessions then .ok s
  else
    let s := { s with stats := { s.stats with
      outboundAdmissionFailureFallbacks := s.stats.outboundAdmissionFailureFallbacks + 1 } }
    (s.countAdmissionFailure s.sessions.entries.length).removeSessions .overflow answers
      s.sessions.keys

/-! ## Shutdown -/

/-- The notice of one session in the sweep of a shutdown. -/
def sweepNotice (answers : NoticeAnswers) (s : TcpServer) (session : Session) : TcpServer :=
  s.postOrKeep { connection := session.connectionId, cause := .serverShutdown }
    (answers session.connectionId)

def completeShutdownAfterLogicRuntimeDrained (s : TcpServer) (answers : NoticeAnswers) :
    Except String TcpServer :=
  s.removeSessions .serverShutdown answers
    ((s.sessions.entries.filter fun e => !e.2.hasPendingSend).map (·.1))

/-- `sweep` answers the notices of the sessions, `retry` the ones that are tried again. -/
def beginShutdown (s : TcpServer) (controlDrained : Bool) (sweep retry : NoticeAnswers) :
    Except String TcpServer :=
  if s.isStopping then .ok s
  else
    let s := { s with isStopping := true }
    let s := (s.sessions.entries.map (·.2)).foldl (sweepNotice sweep) s
    let s := s.raiseHighWaterMark.retryPendingConnectionCloses retry
    if s.logicRuntimeDrained && controlDrained then
      s.completeShutdownAfterLogicRuntimeDrained retry
    else .ok s

def cancelQueues (s : TcpServer) : TcpServer := { s with frameIngressCancelled := true }

def abortShutdownAfterLogicRuntimeFailure (s : TcpServer) (controlDrained : Bool)
    (sweep retry : NoticeAnswers) : Except String TcpServer := do
  let s ← { s with logicRuntimeDrained := true }.beginShutdown controlDrained sweep retry
  s.cancelQueues.closeRemainingSessions retry

/-- The completion of the Logic runtime: whether it failed, and whether it is drained. -/
def handleRuntimeCompletion (s : TcpServer) (failed drained controlDrained : Bool)
    (sweep retry : NoticeAnswers) : Except String TcpServer :=
  if failed then s.abortShutdownAfterLogicRuntimeFailure controlDrained sweep retry
  else if !s.logicRuntimeDrained && drained then
    let s := { s with logicRuntimeDrained := true }
    if s.isStopping && controlDrained then s.completeShutdownAfterLogicRuntimeDrained retry
    else .ok s
  else .ok s

end TcpServer

/-! ## Runs -/

/-- The calls of the reactor. Those that `handleOutboundActions` makes one after the other are
steps of their own. -/
inductive TcpAction where
  | accept (descriptors : List Nat)
  | clientEvent (token : Nat) (flags : EventFlags) (received : List Received)
      (posts : Nat → FramePostResult) (sent : List Sent) (answers : NoticeAnswers)
  | outbound (action : OutboundAction) (answers : NoticeAnswers)
  | failedAdmissions (failed : List Net.ConnectionId) (closeAllSessions : Bool)
      (answers : NoticeAnswers)
  | runtimeCompletion (failed drained controlDrained : Bool) (sweep retry : NoticeAnswers)
  | controlDrained (answers : NoticeAnswers)
  | retry (answers : NoticeAnswers)
  | stop (controlDrained : Bool) (sweep retry : NoticeAnswers)
  | deadlineExpired (answers : NoticeAnswers)

namespace TcpServer

def transition (s : TcpServer) : TcpAction → Except String TcpServer
  | .accept descriptors => if s.isStopping then .ok s else s.acceptPendingClients descriptors
  | .clientEvent token flags received posts sent answers =>
    match s.clientDescriptorsByEventToken.lookup token with
    | none => .ok s
    | some descriptor => s.handleClientEvent descriptor flags received posts sent answers
  | .outbound action answers => s.handleOutboundAction action answers
  | .failedAdmissions failed closeAllSessions answers =>
    s.closeConnectionsWithFailedOutboundAdmission failed closeAllSessions answers
  | .runtimeCompletion failed drained controlDrained sweep retry =>
    s.handleRuntimeCompletion failed drained controlDrained sweep retry
  | .controlDrained answers =>
    if s.isStopping && s.logicRuntimeDrained then s.completeShutdownAfterLogicRuntimeDrained answers
    else .ok s
  | .retry answers => .ok (s.retryPendingConnectionCloses answers)
  | .stop controlDrained sweep retry => s.beginShutdown controlDrained sweep retry
  | .deadlineExpired answers =>
    if s.isStopping then s.cancelQueues.closeRemainingSessions answers else .ok s

end TcpServer

/-- The runs of a server. A call that throws ends the run. -/
def tcpMachine (config : TcpServerConfig) : Machine TcpServer TcpAction where
  init s := TcpServer.create config = .ok s
  step s action := (s.transition action).toOption

end Snf.Server
