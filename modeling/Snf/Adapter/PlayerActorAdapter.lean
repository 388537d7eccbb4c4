import Snf.Adapter.ToEffects

/-! # The actor of a Player

`PlayerActorAdapter`: the Player aggregate together with the session it is bound to, the
route of the player through Zones and Rooms, and the Leaves that are still to be
confirmed; the row that it saves, and how `GameActorFactory` makes it from what was loaded.

Epochs, correlations and the sequence of the cleanups are 64-bit counters of the source
that only go up; they are natural numbers here.
-/

namespace Snf.Adapter

open Snf.Game Snf.Worker

/-! ## State -/

structure EnteringRoute where
  targetRoom : RoomId
  sourceZone : ZoneId
  sourceEpoch : Nat
  returnPosition : ZonePosition
  requestId : Nat
  correlationId : Nat
  step : WorkflowStep := .roomJoinStep1JoinRoom
deriving DecidableEq, Repr

structure InRoomRoute where
  room : RoomId
  returnZone : ZoneId
  returnPosition : ZonePosition
deriving DecidableEq, Repr

structure ReturningRoute where
  sourceRoom : RoomId
  returnZone : ZoneId
  returnPosition : ZonePosition
  returnEpoch : Nat
  requestId : Nat
  correlationId : Nat
  step : WorkflowStep := .roomReturnStep1ZoneEnter
deriving DecidableEq, Repr

structure TransferringRoute where
  sourceZone : ZoneId
  sourceEpoch : Nat
  sourcePosition : ZonePosition
  targetZone : ZoneId
  targetEpoch : Nat
  targetPosition : ZonePosition
  restoreEpoch : Nat := 0
  requestId : Nat
  correlationId : Nat
  step : WorkflowStep := .crossZoneLeaveSource
deriving DecidableEq, Repr

inductive WorkflowState where
  | stable (zone : Option ZoneId)
  | entering (route : EnteringRoute)
  | inRoom (route : InRoomRoute)
  | returning (route : ReturningRoute)
  | transferring (route : TransferringRoute)
deriving DecidableEq, Repr

structure PendingZoneOperation where
  correlationId : Nat
  step : WorkflowStep
  targetZone : ZoneId
  targetEpoch : Nat
  requestId : Nat
deriving DecidableEq, Repr

/-- A Leave that its target has not confirmed. -/
structure Cleanup where
  target : ActorKey
  epoch : Nat := 0
  correlation : Nat := 0
  generation : ConnectionGeneration := 0
  membership : Option RoomMembership := none
deriving DecidableEq, Repr

def maxCleanups : Nat := 19

structure PlayerActorAdapter where
  player : Player
  boundConnection : Option ConnectionRef := none
  connectionClosing : Bool := false
  workflowState : WorkflowState := .stable none
  routeEpoch : Nat := 0
  correlationSequence : Nat := 0
  pendingZoneOps : List PendingZoneOperation := []
  authenticationConflicts : Nat := 0
  saveInterval : Nat := 5000
  saveScheduled : Bool := false
  committedSaves : Nat := 0
  unknownCommits : Nat := 0
  cleanups : List (Option Cleanup) := List.replicate maxCleanups none
  cleanupCount : Nat := 0
  cleanupSequence : Nat := 0
  cleanupDeadline : Option TimePoint := none
  roomMembership : Option RoomMembership := none
  deferredReturn : Option ZoneOutcomeMessage := none
  shutdownStarted : Bool := false
  finalSaveStarted : Bool := false
  finalSaveFinished : Bool := false
  finalSaveFailed : Bool := false
deriving DecidableEq

def toSaveRequest (record : PlayerRecord) : SavePlayerRequest where
  playerId := record.player
  handledCommandCount := record.handledCommandCount
  hasLocation := record.lastLocation.isSome
  zoneId := record.lastLocation.elim 0 (·.zone)
  positionX := record.lastLocation.elim 0 (·.position.x)
  positionY := record.lastLocation.elim 0 (·.position.y)
  currencyBalance := record.currencyBalance
  purchasedItemCount := record.purchasedItemCount
  streetExperience := record.streetExperience
  equippedSkillId := record.skillLoadout.equipped
  ownedSkillIds := record.skillLoadout.owned

/-! ## Construction -/

inductive GameActor where
  | player (adapter : PlayerActorAdapter)
  | zone (zone : Zone)
  | room (adapter : RoomActorAdapter)
deriving DecidableEq

namespace GameActorFactory

variable (config : GameActorConfig)

/-- The record of a persisted row. -/
def loadedRecord (player : PlayerId) (loaded : LoadPlayerResult) : Except String PlayerRecord := do
  let loadout ← SkillLoadout.ofOwned loaded.ownedSkillIds loaded.row.equippedSkillId
  .ok
    { player := player
      handledCommandCount := loaded.row.handledCommandCount
      lastLocation :=
        if loaded.row.hasLocation then
          some ⟨loaded.row.zoneId, ⟨loaded.row.positionX, loaded.row.positionY⟩⟩
        else none
      currencyBalance := loaded.row.currencyBalance
      purchasedItemCount := loaded.row.purchasedItemCount
      streetExperience := loaded.row.streetExperience
      skillLoadout := loadout }

/-- Without a row the player is new. -/
def constructLoaded (key : ActorKey) (loaded : LoadPlayerResult) :
    Except String (ActorConstructionResult GameActor) :=
  if key.kind ≠ .player then .ok .rejected
  else
    let fresh := Player.ofIdentity (some key.entity)
    if loaded.found then do
      let record ← loadedRecord key.entity loaded
      let player ← fresh.restore record
      .ok (.ready (.player { player := player, saveInterval := config.playerSaveInterval }))
    else .ok (.ready (.player { player := fresh, saveInterval := config.playerSaveInterval }))

end GameActorFactory

end Snf.Adapter
