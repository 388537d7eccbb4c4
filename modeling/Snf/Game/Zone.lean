import Snf.Game.Player

/-! # Zones

`Zone` of the game domain: the players of one area with their positions, each under the
route epoch of the command that brought it in. A command with an older epoch is stale,
and a Leave or a Move has to name the epoch exactly.

The differences of two 32-bit coordinates and the sum of their squares fit into the
64-bit arithmetic of the source, so the model computes with integers.
-/

namespace Snf.Game

inductive ZoneCommandStatus where
  | applied | alreadyPresent | playerMissing | staleRoute | transitionInProgress
  | transferFailed | inRoom
deriving DecidableEq, Repr

structure ZoneResult where
  status : ZoneCommandStatus := .applied
  player : Option PlayerId := none
  position : Option ZonePosition := none
  routeEpoch : Nat := 0
  tick : Nat := 0
  visiblePlayers : List PlayerId := []
  tickAfter : Option Nat := none
deriving DecidableEq, Repr

inductive ZoneCommand where
  | enterZone (player : PlayerId) (routeEpoch : Nat) (position : ZonePosition)
  | leaveZone (player : PlayerId) (routeEpoch : Nat)
  | moveInZone (player : PlayerId) (routeEpoch : Nat) (position : ZonePosition)
  | simulationTick
deriving DecidableEq, Repr

/-- Intervals are in milliseconds. -/
structure ZoneConfig where
  aoiRadius : Int32 := 1000
  tickInterval : Nat := 100
deriving DecidableEq, Repr

structure ZoneEntity where
  position : ZonePosition
  routeEpoch : Nat := 0
deriving DecidableEq, Repr

structure Zone where
  id : ZoneId
  aoiRadius : Int32
  tickInterval : Nat
  lastTick : Nat := 0
  players : AList (fun _ : PlayerId => ZoneEntity) := ∅
deriving DecidableEq

namespace Zone

def create (zone : ZoneId) (config : ZoneConfig := {}) : Except String Zone :=
  if zone = 0 then .error "ZoneId must be non-zero"
  else if config.aoiRadius < 0 then .error "Zone AOI radius cannot be negative"
  else if config.tickInterval = 0 then .error "Zone tick interval must be positive"
  else .ok { id := zone, aoiRadius := config.aoiRadius, tickInterval := config.tickInterval }

def isVisible (z : Zone) (left right : ZonePosition) : Bool :=
  let x := left.x.toInt - right.x.toInt
  let y := left.y.toInt - right.y.toInt
  let radius := z.aoiRadius.toInt
  if x.natAbs > radius || y.natAbs > radius then false
  else x * x + y * y ≤ radius * radius

def visiblePlayers (z : Zone) (player : PlayerId) : List PlayerId :=
  match z.players.lookup player with
  | none => []
  | some subject =>
    ((z.players.entries.filter fun entry =>
      entry.1 ≠ player && z.isVisible subject.position entry.2.position).map
        Sigma.fst).insertionSort (· ≤ ·)

/-- The answer to a command that finds the player in the Zone and leaves it alone. -/
def present (z : Zone) (status : ZoneCommandStatus) (player : PlayerId) (entity : ZoneEntity) :
    ZoneResult :=
  { status := status, player := some player, position := some entity.position
    routeEpoch := entity.routeEpoch, tick := z.lastTick
    visiblePlayers := z.visiblePlayers player }

def missing (z : Zone) (player : PlayerId) (position : Option ZonePosition) (routeEpoch : Nat) :
    ZoneResult :=
  { status := .playerMissing, player := some player, position := position
    routeEpoch := routeEpoch, tick := z.lastTick }

def enter (z : Zone) (player : PlayerId) (routeEpoch : Nat) (position : ZonePosition) :
    ZoneResult × Zone :=
  let wasEmpty := z.players.entries.isEmpty
  let z := { z with
    players := z.players.insert player { position := position, routeEpoch := routeEpoch } }
  ({ status := .applied, player := some player, position := some position
     routeEpoch := routeEpoch, tick := z.lastTick, visiblePlayers := z.visiblePlayers player
     tickAfter := if wasEmpty then some z.tickInterval else none }, z)

def handle (z : Zone) : ZoneCommand → ZoneResult × Zone
  | .enterZone player routeEpoch position =>
    match z.players.lookup player with
    | some existing =>
      if routeEpoch < existing.routeEpoch then (z.present .staleRoute player existing, z)
      else if routeEpoch = existing.routeEpoch then (z.present .alreadyPresent player existing, z)
      else z.enter player routeEpoch position
    | none => z.enter player routeEpoch position
  | .leaveZone player routeEpoch =>
    match z.players.lookup player with
    | none => (z.missing player none routeEpoch, z)
    | some existing =>
      if routeEpoch ≠ existing.routeEpoch then (z.present .staleRoute player existing, z)
      else
        ({ status := .applied, player := some player, position := some existing.position
           routeEpoch := routeEpoch, tick := z.lastTick },
          { z with players := z.players.erase player })
  | .moveInZone player routeEpoch position =>
    match z.players.lookup player with
    | none => (z.missing player (some position) routeEpoch, z)
    | some existing =>
      if routeEpoch ≠ existing.routeEpoch then (z.present .staleRoute player existing, z)
      else
        let z := { z with players := z.players.insert player { existing with position := position } }
        ({ status := .applied, player := some player, position := some position
           routeEpoch := routeEpoch, tick := z.lastTick
           visiblePlayers := z.visiblePlayers player }, z)
  | .simulationTick =>
    let z := { z with lastTick := z.lastTick + 1 }
    ({ status := .applied, tick := z.lastTick
       tickAfter := if z.players.entries.isEmpty then none else some z.tickInterval }, z)

end Zone

end Snf.Game
