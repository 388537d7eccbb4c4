import Snf.Adapter.GamePayloads

/-! # From results to effects, and the actors of Zones and Rooms

`toEffects` of the three kinds of result, and the adapters of Zone and Room, whose turns
are a command to the aggregate followed by `toEffects`.
-/

namespace Snf.Adapter

open Snf.Game Snf.Worker

variable (config : GameActorConfig)

/-! ## Player results -/

structure PlayerTurnContext where
  connection : Option ConnectionRef
  requestId : Nat
  playerId : Option PlayerId

def playerEffects (context : PlayerTurnContext) (result : PlayerResult) : List GameEffect :=
  (match result.roomJoin with
    | some join =>
      [config.tell .room join.room (.roomCommand
        { connection := context.connection, requestId := context.requestId
          command := .joinRoom (context.playerId.getD 0) join.stats join.equippedSkillId })]
    | none => []) ++
  match context.connection with
  | some connection =>
    result.responses.map fun response =>
      .sendFrame connection (.playerResponse response context.requestId) false
  | none => []

/-! ## Zones -/

structure ZoneTurnContext where
  connection : Option ConnectionRef := none
  requestId : Nat := 0
  zone : ZoneId
  replyKind : Option ZoneReplyFrameKind := none
  now : TimePoint
  zoneEmpty : Bool
  replyTo : Option WorkflowReplyTo := none

def zoneReplyEffects (context : ZoneTurnContext) (result : ZoneResult) : List GameEffect :=
  match context.replyTo with
  | some reply =>
    [config.tell .player reply.player (.zoneOutcome
      { player := reply.player, connectionGeneration := reply.connectionGeneration
        correlationId := reply.correlationId, step := reply.step, zone := context.zone
        routeEpoch := reply.routeEpoch, requestId := context.requestId, result := result })]
  | none =>
    match context.connection, context.replyKind with
    | some connection, some kind =>
      [.sendFrame connection (.zoneReply kind context.zone result context.requestId) false]
    | _, _ => []

def zoneEffects (context : ZoneTurnContext) (result : ZoneResult) : List GameEffect :=
  zoneReplyEffects config context result ++
    if context.zoneEmpty then [.stopActor]
    else
      match result.tickAfter with
      | some after =>
        [.scheduleTimer (context.now + after) (config.create (.zoneTick (result.tick + 1))) none]
      | none => []

/-! ## Rooms -/

def maxRoomParticipants : Nat := 4

structure PreparedRoomTimer where
  deadline : TimePoint
  message : ActorEnvelope GameMessage
  reservation : TimerReservation

structure RoomAudienceRoute where
  player : PlayerId
  connection : Option ConnectionRef := none
  membership : Option RoomMembership := none

structure RoomTurnContext where
  connection : Option ConnectionRef := none
  requestId : Nat := 0
  room : RoomId
  replyKind : Option RoomReplyFrameKind := none
  now : TimePoint
  audienceRoutes : List RoomAudienceRoute := []
  replyTo : Option WorkflowReplyTo := none
  membership : Option RoomMembership := none

def connectionFor (context : RoomTurnContext) (player : PlayerId) : Option ConnectionRef :=
  (context.audienceRoutes.find? (·.player = player)).bind (·.connection)

/-- The membership of the last route of the player. -/
def membershipFor (context : RoomTurnContext) (player : PlayerId) : Option RoomMembership :=
  (context.audienceRoutes.filter (·.player = player)).getLast?.bind (·.membership)

/-- One effect for each of the players that has a connection. -/
def toConnections (context : RoomTurnContext) (players : List PlayerId)
    (effect : ConnectionRef → GameEffect) : List GameEffect :=
  players.filterMap fun player => (connectionFor context player).map effect

def roomReplyEffects (context : RoomTurnContext) (result : RoomResult) : List GameEffect :=
  match context.replyTo with
  | some reply =>
    [config.tell .player reply.player (.roomOutcome
      { player := reply.player, connectionGeneration := reply.connectionGeneration
        correlationId := reply.correlationId, step := reply.step, room := context.room
        requestId := context.requestId, result := result, membership := context.membership })]
  | none =>
    match context.connection, context.replyKind with
    | some connection, some kind =>
      [.sendFrame connection (.roomReply kind context.room result context.requestId) false]
    | _, _ => []

/-- A digest that fits into no frame closes the connections it was for. -/
def digestEffects (context : RoomTurnContext) (result : RoomResult) : List GameEffect :=
  if result.digest.isNone then []
  else
    match encodeBattleDigest result unsolicitedRequestId with
    | none =>
      toConnections context result.audience fun connection =>
        .closeConnection connection .slowConsumer false
    | some frame =>
      toConnections context result.audience fun connection => .sendFrame connection frame false

def outcomeFrames (context : RoomTurnContext) (result : RoomResult) (outcome : BattleOutcome) :
    List GameEffect :=
  match outcome with
  | .cleared =>
    result.grants.filterMap fun grant =>
      (connectionFor context grant.player).map fun connection =>
        .sendFrame connection (.battleCleared grant.experience unsolicitedRequestId) false
  | .failed =>
    toConnections context result.audience fun connection =>
      .sendFrame connection (encodeBattleFailure result unsolicitedRequestId) false

def terminalNotification (context : RoomTurnContext) (result : RoomResult) (player : PlayerId) :
    GameEffect :=
  config.tell .player player (.roomOutcome
    { player := player, connectionGeneration := 0, correlationId := 0
      step := .roomTerminalNotification, room := context.room, requestId := 0, result := result
      membership := membershipFor context player })

def outcomeEffects (context : RoomTurnContext) (result : RoomResult) : List GameEffect :=
  match result.outcome with
  | some outcome =>
    outcomeFrames context result outcome ++
      result.grants.map (fun grant => config.tell .player grant.player (.experienceGrant grant)) ++
      result.audience.map (terminalNotification config context result) ++ [.stopActor]
  | none =>
    match result.tickAfter with
    | some after =>
      [.scheduleTimer (context.now + after) (config.create (.roomTick context.room 1)) none]
    | none => []

def preparedTimerEffects (timer : Option PreparedRoomTimer) : List GameEffect :=
  (timer.map fun timer =>
    .scheduleTimer timer.deadline timer.message (some timer.reservation)).toList

def roomEffects (context : RoomTurnContext) (result : RoomResult)
    (preparedTimer : Option PreparedRoomTimer := none) : List GameEffect :=
  preparedTimerEffects preparedTimer ++ roomReplyEffects config context result ++ digestEffects context result ++
    outcomeEffects config context result

def roomReplyKind : RoomCommand → Option RoomReplyFrameKind
  | .joinRoom .. => some .joined
  | .startBattle => some .battleStarted
  | .useSkill .. => some .skillAcknowledged
  | .setMoveIntent .. => some .moveAcknowledged
  | _ => none

structure RoomActorAdapter where
  room : Room
  playerConnections : AList (fun _ : PlayerId => ConnectionRef) := ∅
  memberships : AList (fun _ : PlayerId => RoomMembership) := ∅
deriving DecidableEq

namespace RoomActorAdapter

def create (room : RoomId) (roomConfig : RoomConfig) : Except String RoomActorAdapter :=
  if roomConfig.maxParticipants > maxRoomParticipants then
    .error "RoomActorAdapter supports at most four participants"
  else do
    let room ← Room.create room roomConfig
    .ok { room := room }

def routesOf (a : RoomActorAdapter) : List RoomAudienceRoute :=
  a.playerConnections.entries.map (fun entry =>
    { player := entry.1, connection := some entry.2, membership := a.memberships.lookup entry.1 }) ++
  (a.memberships.entries.filter fun entry => (a.playerConnections.lookup entry.1).isNone).map
    fun entry => { player := entry.1, membership := some entry.2 }

/-- The command is a Leave of another membership than the one on record: a delayed
cleanup, or one without a membership for a player that has one. -/
def staleLeave (a : RoomActorAdapter) (msg : RoomCommandMessage) : Option PlayerId :=
  match msg.command with
  | .leaveRoom player =>
    match msg.membership, a.memberships.lookup player with
    | some membership, found => if found = some membership then none else some player
    | none, some _ => some player
    | none, none => none
  | _ => none

/-- The connections and memberships after the Room has handled a command. -/
def register (a : RoomActorAdapter) (msg : RoomCommandMessage) (result : RoomResult) :
    RoomActorAdapter :=
  match msg.command with
  | .joinRoom player _ _ =>
    { a with
      memberships :=
        match msg.membership with
        | some membership =>
          if result.status = .applied then a.memberships.insert player membership
          else a.memberships
        | none => a.memberships
      playerConnections :=
        match msg.connection with
        | some connection =>
          if result.status = .applied || result.status = .alreadyJoined then
            a.playerConnections.insert player connection
          else a.playerConnections
        | none => a.playerConnections }
  | .leaveRoom player =>
    if result.status = .applied then
      { a with
        playerConnections := a.playerConnections.erase player
        memberships := a.memberships.erase player }
    else a
  | _ => a

def turnContext (a : RoomActorAdapter) (msg : RoomCommandMessage) (now : TimePoint) :
    RoomTurnContext where
  connection := msg.connection
  requestId := msg.requestId
  room := a.room.id
  replyKind := roomReplyKind msg.command
  now := now
  audienceRoutes := a.routesOf
  replyTo := msg.replyTo
  membership := msg.membership

/-- A StartBattle that the Room will accept: the timer of the deadline is reserved first. -/
def startBattle (a : RoomActorAdapter) (msg : RoomCommandMessage) (context : ActorTurnContext) :
    Except String (RoomActorAdapter × List GameEffect) :=
  let message := GameMessage.roomDeadline a.room.id 1
  let turn := a.turnContext msg context.now
  match config.tryReserve message context with
  | none =>
    .ok (a, roomEffects config turn { status := .runtimeOverloaded, phase := a.room.phase })
  | some reservation =>
    let (result, room) := a.room.handle msg.command context.now
    match result.deadlineAfter with
    | none => .error "Started Room battle did not provide its critical deadline"
    | some after =>
      .ok ({ a with room := room }, roomEffects config turn result (some
        { deadline := context.now + after, message := config.create message
          reservation := reservation }))

/-- The turn of a timer: the aggregate's own command, without a reply. -/
def timerTurn (a : RoomActorAdapter) (command : RoomCommand) (context : ActorTurnContext) :
    RoomActorAdapter × List GameEffect :=
  let (result, room) := a.room.handle command context.now
  ({ a with room := room }, roomEffects config
    { room := a.room.id, now := context.now, audienceRoutes := a.routesOf } result)

def handleCommand (a : RoomActorAdapter) (msg : RoomCommandMessage) (context : ActorTurnContext) :
    Except String (RoomActorAdapter × List GameEffect) :=
  match a.staleLeave msg with
  | some player =>
    .ok (a, roomEffects config
      { requestId := msg.requestId, room := a.room.id, now := context.now
        replyTo := msg.replyTo, membership := msg.membership }
      { status := .notJoined, phase := a.room.phase, player := some player })
  | none =>
    if msg.command = .startBattle && a.room.canStartBattle then a.startBattle config msg context
    else
      let (result, room) := a.room.handle msg.command context.now
      let a := { a with room := room }.register msg result
      .ok (a, roomEffects config (a.turnContext msg context.now) result)

def dispatch (a : RoomActorAdapter) (message : GameMessage) (context : ActorTurnContext) :
    Except String (RoomActorAdapter × List GameEffect) :=
  match message with
  | .roomCommand msg => a.handleCommand config msg context
  | .roomDeadline room _ =>
    if room ≠ a.room.id then .error "Room deadline payload does not match its Actor"
    else .ok (a.timerTurn config .battleDeadline context)
  | .roomTick room _ =>
    if room ≠ a.room.id then .error "Room tick payload does not match its Actor"
    else .ok (a.timerTurn config .simulationTick context)
  | _ => .ok (a, [])

end RoomActorAdapter

end Snf.Adapter
