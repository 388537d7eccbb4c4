import Snf.Lib.Map
import Snf.Adapter.GamePayloads

/-! # Frame routing of a Worker

`GameRequestSink`: the frames of authenticated connections become messages to the actor of
their player, and the close of such a connection becomes a notice that is sent again until
a receipt for it arrives.

What the Worker answers is an argument of the calls: the result of `tell`, and the receipts
that arrive before `notifyActorConnectionClosed` returns.
-/

namespace Snf.Adapter

open Snf.Game Snf.Worker

/-! ## Frames -/

inductive MessageType where
  | ping | pong | authenticate | authenticated | enterZone | zoneEntered | move | moved
  | leaveZone | zoneLeft | purchase | purchaseResult | roomJoin | roomJoined | battleStart
  | battleStarted | battleCleared | roomLeave | roomLeft | returnedToZone | useSkill
  | skillApplied | battleFailed | battleDigest | skillAcknowledged | setMoveIntent
  | moveAcknowledged | equipSkill | equipSkillResult
deriving DecidableEq, Repr

structure Frame where
  type : MessageType
  requestId : Nat
  payload : List UInt8
deriving DecidableEq, Repr

/-- An unsigned integer over an exact byte range. The ranges below are as wide as the
types that they are decoded to, so nothing is cut off. -/
def decodeBigEndian (payload : List UInt8) (offset size : Nat) : Nat :=
  ((payload.drop offset).take size).foldl (fun value byte => value * 256 + byte.toNat) 0

/-- `static_cast<std::int32_t>` of a `std::uint32_t`. -/
def decodeInt32 (payload : List UInt8) (offset : Nat) : Int32 :=
  (UInt32.ofNat (decodeBigEndian payload offset 4)).toInt32

def decodePlayerId (payload : List UInt8) : Option PlayerId :=
  if payload.length ≠ 8 then none
  else
    let value := decodeBigEndian payload 0 8
    if value = 0 then none else some value

def decodePurchase (payload : List UInt8) : Option PlayerCommand :=
  if payload.length ≠ 12 then none
  else
    let key := decodeBigEndian payload 0 8
    let product := decodeBigEndian payload 8 4
    if key = 0 || product = 0 then none else some (.purchase key product)

def decodeEquipSkill (payload : List UInt8) : Option PlayerCommand :=
  if payload.length ≠ 4 then none
  else
    let skillId := decodeBigEndian payload 0 4
    if skillId = 0 then none else some (.equipSkill skillId)

def decodeEnterZone (payload : List UInt8) : Option ZoneRequest :=
  if payload.length ≠ 16 then none
  else some (.enterZone (decodeBigEndian payload 0 8)
    { x := decodeInt32 payload 8, y := decodeInt32 payload 12 })

def decodeMove (payload : List UInt8) : Option ZoneRequest :=
  if payload.length ≠ 8 then none
  else some (.move { x := decodeInt32 payload 0, y := decodeInt32 payload 4 })

def decodeLeave (payload : List UInt8) : Option ZoneRequest :=
  if payload ≠ [] then none else some .leave

def decodeRoomJoin (payload : List UInt8) : Option RoomRequest :=
  if payload.length ≠ 8 then none else some (.roomJoin (decodeBigEndian payload 0 8))

def decodeBattleStart (payload : List UInt8) : Option RoomRequest :=
  if payload.length ≠ 8 then none else some (.battleStart (decodeBigEndian payload 0 8))

def decodeRoomLeave (payload : List UInt8) : Option RoomRequest :=
  if payload ≠ [] then none else some .roomLeave

def decodeUseSkill (payload : List UInt8) : Option RoomRequest :=
  if payload.length ≠ 20 then none
  else
    let room := decodeBigEndian payload 0 8
    let skill := decodeBigEndian payload 8 4
    let sequence := decodeBigEndian payload 12 8
    if skill = 0 || sequence = 0 then none else some (.useSkill room skill sequence)

/-- The directions in the order of their wire values. -/
def moveDirections : List MoveDirection :=
  [.stop, .north, .northEast, .east, .southEast, .south, .southWest, .west, .northWest]

/-- `isValidMoveDirection` and the cast that follows it. -/
def decodeSetMoveIntent (payload : List UInt8) : Option RoomRequest :=
  if payload.length ≠ 17 then none
  else
    let room := decodeBigEndian payload 0 8
    let sequence := decodeBigEndian payload 9 8
    match moveDirections[decodeBigEndian payload 8 1]? with
    | none => none
    | some direction =>
      if sequence = 0 then none else some (.setMoveIntent room direction sequence)

/-! ## Sessions and their records -/

inductive RequestPostResult where
  | accepted | invalid | rejected
deriving DecidableEq, Repr

inductive SessionRecordState where
  | free | tracked | closing
deriving DecidableEq, Repr

structure SessionRecord where
  state : SessionRecordState := .free
  connection : ConnectionRef := ⟨0, 0, 0⟩
  player : PlayerId := 0
deriving DecidableEq, Repr

structure Session where
  generation : ConnectionGeneration
  player : PlayerId
  recordIndex : Nat
deriving DecidableEq, Repr

def maxTrackedSessions : Nat := 1024

/-- The milliseconds between two notices. -/
def closeRetryDelay : Nat := 10

/-- A `GameRequestSink` of the Worker `worker`. Of the atomic mirrors `liveSessions` is
kept; `_pending_closes_atomic` is written together with `pendingCloses`. -/
structure GameRequestSink where
  worker : WorkerId
  sessions : AList (fun _ : Nat => Session) := ∅
  liveSessions : Nat := 0
  records : List SessionRecord := List.replicate maxTrackedSessions {}
  pendingCloses : Nat := 0
  nextRetryDeadline : Option TimePoint := none
  retryCursor : Nat := 0
deriving DecidableEq

def playerKey (player : PlayerId) : ActorKey := ⟨.player, player⟩

inductive ActorConnectionClosedResult where
  | mailboxAccepted | actorAbsent
deriving DecidableEq, Repr

/-- The arguments of `onActorConnectionClosedReceipt`. -/
structure ClosedReceipt where
  key : ActorKey
  connection : ConnectionRef
  result : ActorConnectionClosedResult
deriving DecidableEq, Repr

/-- What a call of `tryPost` did: what it returns, the message it told, and the frame that
it sent back itself. -/
structure Posted where
  sink : GameRequestSink
  result : RequestPostResult
  told : Option (ActorKey × GameMessage) := none
  sent : Option Frame := none
deriving DecidableEq

structure CountTimeBudget where
  maxCount : Nat
  maxDuration : Nat
deriving DecidableEq, Repr

/-- What one round of a retry pass meets: the time since the pass began, and the receipts
that arrive while it notifies. -/
structure RetryRound where
  elapsed : Nat := 0
  receipts : List ClosedReceipt := []
deriving DecidableEq, Repr

namespace GameRequestSink

def playerFor (sink : GameRequestSink) (connection : ConnectionRef) : Option PlayerId :=
  match sink.sessions.lookup connection.id with
  | none => none
  | some session =>
    if session.generation ≠ connection.generation then none else some session.player

/-- Tell the actor of the player; anything but an accepted message is a rejection. -/
def tellPlayer (sink : GameRequestSink) (player : PlayerId) (message : GameMessage)
    (delivery : DeliveryResult) : Posted where
  sink := sink
  result := if delivery ≠ .accepted then .rejected else .accepted
  told := some (playerKey player, message)

/-- The record and the entry of a new session. -/
def reserve (sink : GameRequestSink) (connection : ConnectionRef) (player : PlayerId)
    (index : Nat) : GameRequestSink :=
  { sink with
    records := sink.records.set index
      { state := .tracked, connection := connection, player := player }
    sessions := sink.sessions.insert connection.id
      { generation := connection.generation, player := player, recordIndex := index }
    liveSessions := sink.liveSessions + 1 }

def rollback (sink : GameRequestSink) (connection : ConnectionRef) (index : Nat) :
    GameRequestSink :=
  { sink with
    records := sink.records.set index {}
    sessions := sink.sessions.erase connection.id
    liveSessions := sink.liveSessions - 1 }

def postAuthenticate (sink : GameRequestSink) (connection : ConnectionRef) (frame : Frame)
    (delivery : DeliveryResult) : Posted :=
  match decodePlayerId frame.payload with
  | none => { sink := sink, result := .invalid }
  | some player =>
    let message : GameMessage :=
      .playerCommand (some connection) frame.requestId (.authenticate player)
    match sink.sessions.lookup connection.id with
    | some session =>
      if session.generation ≠ connection.generation then { sink := sink, result := .invalid }
      else if session.player ≠ player then { sink := sink, result := .invalid }
      else sink.tellPlayer player message delivery
    | none =>
      if sink.records.any fun record =>
          record.state = .closing && record.connection = connection then
        { sink := sink, result := .invalid }
      else
        match sink.records.findIdx? (·.state = .free) with
        | none => { sink := sink, result := .rejected }
        | some index =>
          let posted := (sink.reserve connection player index).tellPlayer player message delivery
          if delivery ≠ .accepted then
            { posted with sink := posted.sink.rollback connection index }
          else posted

def postPing (sink : GameRequestSink) (connection : ConnectionRef) (frame : Frame)
    (delivery : DeliveryResult) : Posted :=
  match sink.playerFor connection with
  | none =>
    { sink := sink, result := .accepted
      sent := some { type := .pong, requestId := frame.requestId, payload := frame.payload } }
  | some player =>
    sink.tellPlayer player (.ping connection frame.requestId frame.payload) delivery

/-- `postPlayerCommand`, `postZoneRequest` and `postRoomRequest`: the session gives the
player, the decoder the request, and `message` says what is told. -/
def postDecoded {ρ : Type} (sink : GameRequestSink) (connection : ConnectionRef) (frame : Frame)
    (decoder : List UInt8 → Option ρ) (message : ρ → GameMessage) (delivery : DeliveryResult) :
    Posted :=
  match sink.playerFor connection with
  | none => { sink := sink, result := .invalid }
  | some player =>
    match decoder frame.payload with
    | none => { sink := sink, result := .invalid }
    | some request => sink.tellPlayer player (message request) delivery

def postPlayerCommand (sink : GameRequestSink) (connection : ConnectionRef) (frame : Frame)
    (decoder : List UInt8 → Option PlayerCommand) (delivery : DeliveryResult) : Posted :=
  sink.postDecoded connection frame decoder (.playerCommand (some connection) frame.requestId ·)
    delivery

def postZoneRequest (sink : GameRequestSink) (connection : ConnectionRef) (frame : Frame)
    (decoder : List UInt8 → Option ZoneRequest) (delivery : DeliveryResult) : Posted :=
  sink.postDecoded connection frame decoder (.playerZoneRequest connection frame.requestId ·)
    delivery

def postRoomRequest (sink : GameRequestSink) (connection : ConnectionRef) (frame : Frame)
    (decoder : List UInt8 → Option RoomRequest) (delivery : DeliveryResult) : Posted :=
  sink.postDecoded connection frame decoder (.playerRoomRequest connection frame.requestId ·)
    delivery

def tryPost (sink : GameRequestSink) (connection : ConnectionRef) (frame : Frame)
    (delivery : DeliveryResult) : Posted :=
  match frame.type with
  | .authenticate => sink.postAuthenticate connection frame delivery
  | .ping => sink.postPing connection frame delivery
  | .purchase => sink.postPlayerCommand connection frame decodePurchase delivery
  | .equipSkill => sink.postPlayerCommand connection frame decodeEquipSkill delivery
  | .enterZone => sink.postZoneRequest connection frame decodeEnterZone delivery
  | .move => sink.postZoneRequest connection frame decodeMove delivery
  | .leaveZone => sink.postZoneRequest connection frame decodeLeave delivery
  | .roomJoin => sink.postRoomRequest connection frame decodeRoomJoin delivery
  | .battleStart => sink.postRoomRequest connection frame decodeBattleStart delivery
  | .roomLeave => sink.postRoomRequest connection frame decodeRoomLeave delivery
  | .useSkill => sink.postRoomRequest connection frame decodeUseSkill delivery
  | .setMoveIntent => sink.postRoomRequest connection frame decodeSetMoveIntent delivery
  | _ => { sink := sink, result := .invalid }

/-! ## Closed connections -/

/-- The Closing record that a receipt is for. -/
def ClosedReceipt.isFor (receipt : ClosedReceipt) (record : SessionRecord) : Bool :=
  record.state = .closing && record.connection = receipt.connection &&
    playerKey record.player = receipt.key

def onActorConnectionClosedReceipt (sink : GameRequestSink) (receipt : ClosedReceipt) :
    GameRequestSink :=
  if receipt.connection.owner ≠ sink.worker then sink
  else if receipt.result ≠ .mailboxAccepted && receipt.result ≠ .actorAbsent then sink
  else
    match sink.records.findIdx? (ClosedReceipt.isFor receipt) with
    | none => sink
    | some index =>
      let pendingCloses := sink.pendingCloses - 1
      { sink with
        records := sink.records.set index {}
        pendingCloses := pendingCloses
        nextRetryDeadline := if pendingCloses = 0 then none else sink.nextRetryDeadline }

/-- `notifyActorConnectionClosed`, as far as the sink sees it: the receipts that arrive
before the call returns. -/
def notifyActorConnectionClosed (sink : GameRequestSink) (receipts : List ClosedReceipt) :
    GameRequestSink :=
  receipts.foldl onActorConnectionClosedReceipt sink

/-- The record of a session becomes Closing, and the entry goes. -/
def beginClose (sink : GameRequestSink) (connection : ConnectionRef) (record : SessionRecord)
    (index : Nat) (now : TimePoint) : GameRequestSink :=
  let passDeadline := now + closeRetryDelay
  { sink with
    records := sink.records.set index { record with state := .closing }
    pendingCloses := sink.pendingCloses + 1
    nextRetryDeadline := some
      (match sink.nextRetryDeadline with
        | none => passDeadline
        | some deadline => min deadline passDeadline)
    sessions := sink.sessions.erase connection.id
    liveSessions := sink.liveSessions - 1 }

def onConnectionClosed (sink : GameRequestSink) (connection : ConnectionRef) (now : TimePoint)
    (receipts : List ClosedReceipt) : GameRequestSink :=
  if connection.owner ≠ sink.worker then sink
  else
    match sink.sessions.lookup connection.id with
    | none => sink
    | some session =>
      if session.generation ≠ connection.generation then sink
      else
        match sink.records[session.recordIndex]? with
        | none => sink
        | some record =>
          if record.state ≠ .tracked || record.connection ≠ connection ||
              record.player ≠ session.player then sink
          else
            (sink.beginClose connection record session.recordIndex now).notifyActorConnectionClosed
              receipts

def nextActorConnectionCloseRetryDeadline (sink : GameRequestSink) : Option TimePoint :=
  if sink.pendingCloses = 0 then none else sink.nextRetryDeadline

/-- The rounds of a retry pass, `left` of `limit` of them still to go. The clock is not
looked at before the first. -/
def retryScan (budget : CountTimeBudget) (limit : Nat) (rounds : Nat → RetryRound) :
    Nat → GameRequestSink → GameRequestSink
  | 0, sink => sink
  | left + 1, sink =>
    let scanned := limit - (left + 1)
    if sink.pendingCloses = 0 then sink
    else if scanned > 0 && (rounds scanned).elapsed ≥ budget.maxDuration then sink
    else
      let index := sink.retryCursor
      let sink := { sink with retryCursor := (index + 1) % maxTrackedSessions }
      match sink.records[index]? with
      | some record =>
        if record.state = .closing then
          retryScan budget limit rounds left
            (sink.notifyActorConnectionClosed (rounds scanned).receipts)
        else retryScan budget limit rounds left sink
      | none => retryScan budget limit rounds left sink

def retryActorConnectionClosed (sink : GameRequestSink) (now finishedAt : TimePoint)
    (budget : CountTimeBudget) (rounds : Nat → RetryRound) : GameRequestSink :=
  if sink.pendingCloses = 0 then sink
  else
    match sink.nextRetryDeadline with
    | none => sink
    | some deadline =>
      if deadline > now then sink
      else
        let scanLimit := min budget.maxCount maxTrackedSessions
        let sink :=
          if budget.maxCount > 0 && budget.maxDuration > 0 then
            retryScan budget scanLimit rounds scanLimit sink
          else sink
        { sink with
          nextRetryDeadline :=
            if sink.pendingCloses > 0 then some (max now finishedAt + closeRetryDelay) else none }

end GameRequestSink

end Snf.Adapter
