import Snf.Lib.Views
import Snf.Game.Room

/-! # The world of the client

`World` of the game client, as far as a battle is concerned: what `apply_digest` makes of the
events of a digest. Coordinates are floats in the source; those of an arena are exact, and
the model keeps them as naturals. The texts of the log are left out, and the parts of the
world that belong to a Zone.
-/

namespace Snf.Client

open Snf.Game Snf.Lib

structure Entity where
  id : Nat
  x : Nat := 0
  y : Nat := 0
  hp : Nat := 100
  maxHp : Nat := 100
  prevX : Nat := 0
  prevY : Nat := 0
  updatedAt : Nat
  alive : Bool := true
  kind : EnemyKind := .minion
deriving DecidableEq, Repr

def Entity.setPos (e : Entity) (position : ArenaPosition) (now : Nat) : Entity :=
  { e with prevX := e.x, prevY := e.y, x := position.x, y := position.y, updatedAt := now }

structure ProjectileState where
  id : ProjectileId
  owner : PlayerId
  skillId : SkillId
  target : EnemyId
  x : Nat
  y : Nat
  prevX : Nat
  prevY : Nat
  updatedAt : Nat
deriving DecidableEq, Repr

def ProjectileState.setPos (q : ProjectileState) (position : ArenaPosition) (now : Nat) :
    ProjectileState :=
  { q with prevX := q.x, prevY := q.y, x := position.x, y := position.y, updatedAt := now }

structure World where
  arenaW : Nat := 100
  arenaH : Nat := 100
  phase : RoomPhase := .waiting
  digestSeq : Nat := 0
  players : AList (fun _ : PlayerId => Entity) := ∅
  enemies : AList (fun _ : EnemyId => Entity) := ∅
  projectiles : AList (fun _ : ProjectileId => ProjectileState) := ∅
  bossId : Option EnemyId := none
  battleStartTime : Option Nat := none

namespace World

def enterRoomMode (w : World) : World :=
  { w with
    players := ∅
    enemies := ∅
    projectiles := ∅
    bossId := none
    digestSeq := 0
    phase := .waiting
    battleStartTime := none }

/-- One event of the digest `seq` that arrives at `now`. -/
def applyEvent (seq now : Nat) (w : World) : BattleEvent → World
  | .arenaStarted width height =>
    { w with
      arenaW := width
      arenaH := height
      digestSeq := seq
      battleStartTime := w.battleStartTime.or (some now) }
  | .enemySpawned id kind health =>
    { w with
      enemies := w.enemies.insert id
        { id := id, hp := health, maxHp := health, kind := kind, updatedAt := now }
      bossId := if kind = .boss then some id else w.bossId }
  | .enemyPositioned enemy position =>
    { w with enemies := modify w.enemies enemy (·.setPos position now) }
  | .enemyDamaged target _ _ _ health =>
    { w with enemies := modify w.enemies target fun e => { e with hp := health } }
  | .enemyDied id =>
    { w with
      enemies := w.enemies.erase id
      bossId := if w.bossId = some id then none else w.bossId }
  | .projectileSpawned projectile owner skillId target position =>
    { w with
      projectiles := w.projectiles.insert projectile
        { id := projectile, owner := owner, skillId := skillId, target := target
          x := position.x, y := position.y, prevX := position.x, prevY := position.y
          updatedAt := now } }
  | .projectileMoved projectile position =>
    { w with projectiles := modify w.projectiles projectile (·.setPos position now) }
  | .projectileRemoved projectile _ => { w with projectiles := w.projectiles.erase projectile }
  | .participantSpawned player position health =>
    { w with
      players := w.players.insert player
        { id := player, x := position.x, y := position.y, prevX := position.x, prevY := position.y
          hp := health, maxHp := health, updatedAt := now, alive := true } }
  | .participantMoved player position =>
    { w with players := modify w.players player (·.setPos position now) }
  | .participantDamaged target _ _ health =>
    { w with players := modify w.players target fun e => { e with hp := health } }
  | .participantDied player =>
    { w with players := modify w.players player fun e => { e with alive := false, hp := 0 } }
  | .participantLeft player => { w with players := w.players.erase player }
  | .skillWhiffed _ _ => w

def applyEvents (seq now : Nat) (w : World) (events : List BattleEvent) : World :=
  events.foldl (applyEvent seq now) w

/-- `apply_digest`. A gap in the numbers is only logged. -/
def applyDigest (w : World) (seq : Nat) (phase : RoomPhase) (events : List BattleEvent)
    (now : Nat) : World :=
  let w := applyEvents seq now { w with digestSeq := seq, phase := phase } events
  if phase = .cleared ∨ phase = .failed then { w with projectiles := ∅ } else w

end World

end Snf.Client
