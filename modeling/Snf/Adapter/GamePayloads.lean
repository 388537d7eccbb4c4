import Snf.Game.Zone
import Snf.Game.Room
import Snf.Worker.Actor

/-! # Messages between the game actors

The payloads of `game_payloads.hpp` and the frames that the actors hand to the encoder. A
frame is kept as the arguments of its encoder; of the encoded bytes only the size of a
digest matters, because a digest that does not fit into a frame is not sent.
-/

namespace Snf.Adapter

open Snf.Game Snf.Worker

inductive WorkflowStep where
  | none | zoneEnter | zoneMove | zoneLeave | roomJoinStep1JoinRoom | roomJoinStep2LeaveZone
  | roomReturnStep1ZoneEnter | roomTerminalNotification | crossZoneLeaveSource
  | crossZoneEnterTarget | crossZoneRestoreSource | cleanupZone | cleanupRoom
deriving DecidableEq, Repr

structure RoomMembership where
  incarnation : ActorIncarnation
  sequence : Nat
deriving DecidableEq, Repr

structure WorkflowReplyTo where
  player : PlayerId
  connectionGeneration : ConnectionGeneration
  correlationId : Nat
  step : WorkflowStep
  routeEpoch : Nat
  requestId : Nat
deriving DecidableEq, Repr

structure ZoneCommandMessage where
  connection : Option ConnectionRef := none
  requestId : Nat := 0
  command : ZoneCommand
  replyTo : Option WorkflowReplyTo := none
deriving DecidableEq, Repr

structure RoomCommandMessage where
  connection : Option ConnectionRef := none
  requestId : Nat := 0
  command : RoomCommand
  replyTo : Option WorkflowReplyTo := none
  membership : Option RoomMembership := none
deriving DecidableEq, Repr

inductive ZoneRequest where
  | enterZone (zone : ZoneId) (position : ZonePosition)
  | move (position : ZonePosition)
  | leave
deriving DecidableEq, Repr

inductive RoomRequest where
  | roomJoin (room : RoomId)
  | battleStart (room : RoomId)
  | roomLeave
  | useSkill (room : RoomId) (skillId : SkillId) (requestSequence : Nat)
  | setMoveIntent (room : RoomId) (direction : MoveDirection) (requestSequence : Nat)
deriving DecidableEq, Repr

structure ZoneOutcomeMessage where
  player : PlayerId
  connectionGeneration : ConnectionGeneration
  correlationId : Nat
  step : WorkflowStep
  zone : ZoneId
  routeEpoch : Nat
  requestId : Nat
  result : ZoneResult
deriving DecidableEq, Repr

structure RoomOutcomeMessage where
  player : PlayerId
  connectionGeneration : ConnectionGeneration
  correlationId : Nat
  step : WorkflowStep
  room : RoomId
  requestId : Nat
  result : RoomResult
  membership : Option RoomMembership := none
deriving DecidableEq, Repr

inductive GameMessage where
  | playerCommand (connection : Option ConnectionRef) (requestId : Nat) (command : PlayerCommand)
  | experienceGrant (grant : StreetExperienceGrant)
  | zoneCommand (message : ZoneCommandMessage)
  | zoneTick (tick : Nat)
  | roomCommand (message : RoomCommandMessage)
  | roomDeadline (room : RoomId) (sequence : Nat)
  | roomTick (room : RoomId) (tick : Nat)
  | ping (connection : ConnectionRef) (requestId : Nat) (payload : List UInt8)
  | playerSave (player : PlayerId)
  | playerConnectionClosed (connection : ConnectionRef)
  | playerZoneRequest (connection : ConnectionRef) (requestId : Nat) (request : ZoneRequest)
  | zoneOutcome (message : ZoneOutcomeMessage)
  | roomOutcome (message : RoomOutcomeMessage)
  | playerWorkflowTimeout (correlationId : Nat) (step : WorkflowStep)
  | playerRoomRequest (connection : ConnectionRef) (requestId : Nat) (request : RoomRequest)
deriving DecidableEq, Repr

/-! ## Frames -/

inductive ZoneReplyFrameKind where
  | entered | moved | left
deriving DecidableEq, Repr

inductive RoomReplyFrameKind where
  | joined | battleStarted | skillAcknowledged | moveAcknowledged
deriving DecidableEq, Repr

inductive GameFrame where
  | playerResponse (response : PlayerResponse) (requestId : Nat)
  | zoneReply (kind : ZoneReplyFrameKind) (zone : ZoneId) (result : ZoneResult) (requestId : Nat)
  | roomReply (kind : RoomReplyFrameKind) (room : RoomId) (result : RoomResult) (requestId : Nat)
  | battleDigest (phase : RoomPhase) (digest : BattleDigest) (requestId : Nat)
  | battleCleared (experience : UInt64) (requestId : Nat)
  | battleFailed (bossHealth : Nat) (bossSpawned : Bool) (reason : BattleFailureReason)
      (requestId : Nat)
  | returnedToZone (zone : ZoneId) (position : ZonePosition) (requestId : Nat)
deriving DecidableEq, Repr

def unsolicitedRequestId : Nat := 0

def maxPayloadSize : Nat := 64 * 1024 - (2 + 4)

def digestHeaderSize : Nat := 8 + 1 + 2

def encodedEventSize : BattleEvent → Nat
  | .enemySpawned .. => 1 + 4 + 1 + 8
  | .enemyDamaged .. => 1 + 4 + 8 + 4 + 8 + 8
  | .enemyDied .. => 1 + 4
  | .skillWhiffed .. => 1 + 8 + 4
  | .arenaStarted .. => 1 + 4 + 4
  | .participantSpawned .. => 1 + 8 + 4 + 4 + 8
  | .participantMoved .. => 1 + 8 + 4 + 4
  | .enemyPositioned .. => 1 + 4 + 4 + 4
  | .participantDamaged .. => 1 + 8 + 4 + 8 + 8
  | .participantDied .. => 1 + 8
  | .participantLeft .. => 1 + 8
  | .projectileSpawned .. => 1 + 4 + 8 + 4 + 4 + 4 + 4
  | .projectileMoved .. => 1 + 4 + 4 + 4
  | .projectileRemoved .. => 1 + 4 + 1

/-- The digest of a result as a frame, if it fits into one. -/
def encodeBattleDigest (result : RoomResult) (requestId : Nat) : Option GameFrame :=
  result.digest.bind fun digest =>
    if digest.events.length > 2 ^ 16 - 1 then none
    else if digestHeaderSize + (digest.events.map encodedEventSize).sum > maxPayloadSize then none
    else some (.battleDigest result.phase digest requestId)

def encodeBattleFailure (result : RoomResult) (requestId : Nat) : GameFrame :=
  .battleFailed result.bossHealth result.bossSpawned (result.failureReason.getD .deadline) requestId

/-! ## Effects -/

abbrev GameEffect := Effect GameMessage GameFrame

/-- What the actors are built with. `charge` is `calculateCharge` of a payload: the size of
its type and the capacity of its vectors, which the compiler and the library decide. -/
structure GameActorConfig where
  playerLoadEnabled : Bool := false
  timerAdmission : Bool := false
  playerSaveInterval : Nat := 5000
  roomConfig : RoomConfig := {}
  charge : GameMessage → Nat

namespace GameActorConfig

variable (config : GameActorConfig)

/-- `GameActorPayloadRegistry::create`. -/
def create (message : GameMessage) : ActorEnvelope GameMessage :=
  { payload := message, chargedBytes := config.charge message }

def tell (kind : ActorKind) (entity : Nat) (message : GameMessage) : GameEffect :=
  .tellActor ⟨kind, entity⟩ (config.create message)

/-- `TimerAdmission::tryReserve` for one message; no admission, no reservation. -/
def tryReserve (message : GameMessage) (context : ActorTurnContext) : Option TimerReservation :=
  if config.timerAdmission && context.canReserve [config.charge message] then
    some { chargedBytes := config.charge message, turnId := context.turnId }
  else none

end GameActorConfig

end Snf.Adapter
