import Snf.Game.Arena

/-! # Rooms

`Room` of the game domain: participants gather while the Room is Waiting, fight while it
is Running, and the battle ends Cleared or Failed. A tick moves the participants, the
projectiles and the enemies, in this order, and spawns the waves and the boss. What
happened is collected as events and handed out in numbered digests.

Times and durations are in milliseconds. Enemy and projectile ids are 32-bit in the
source: the spawn capacity that the constructor checks keeps the first from wrapping, and
the wrap of the second is written out. The participants are a vector sorted by id.
-/

namespace Snf.Game

abbrev EnemyId := Nat
abbrev ProjectileId := Nat

inductive RoomPhase where
  | waiting | running | cleared | failed
deriving DecidableEq, Repr

inductive RoomCommandStatus where
  | applied | alreadyJoined | roomFull | wrongPhase | notJoined | entryFailed | duplicateRequest
  | skillOnCooldown | unknownSkill | battleExpired | participantDead | runtimeOverloaded
  | projectileCapacityExceeded | skillNotEquipped
deriving DecidableEq, Repr

inductive BattleOutcome where
  | cleared | failed
deriving DecidableEq, Repr

inductive BattleFailureReason where
  | deadline | participantsDefeated
deriving DecidableEq, Repr

inductive EnemyKind where
  | minion | boss
deriving DecidableEq, Repr

inductive ProjectileRemovalReason where
  | hit | targetLost | expired
deriving DecidableEq, Repr

inductive BattleEvent where
  | enemySpawned (id : EnemyId) (kind : EnemyKind) (health : Nat)
  | enemyDamaged (target : EnemyId) (actor : PlayerId) (skillId : SkillId) (amount health : Nat)
  | enemyDied (id : EnemyId)
  | skillWhiffed (actor : PlayerId) (skillId : SkillId)
  | arenaStarted (width height : Nat)
  | participantSpawned (player : PlayerId) (position : ArenaPosition) (health : Nat)
  | participantMoved (player : PlayerId) (position : ArenaPosition)
  | enemyPositioned (enemy : EnemyId) (position : ArenaPosition)
  | participantDamaged (target : PlayerId) (attacker : EnemyId) (amount health : Nat)
  | participantDied (player : PlayerId)
  | participantLeft (player : PlayerId)
  | projectileSpawned (projectile : ProjectileId) (owner : PlayerId) (skillId : SkillId)
      (target : EnemyId) (position : ArenaPosition)
  | projectileMoved (projectile : ProjectileId) (position : ArenaPosition)
  | projectileRemoved (projectile : ProjectileId) (reason : ProjectileRemovalReason)
deriving DecidableEq, Repr

structure BattleDigest where
  sequence : Nat
  events : List BattleEvent
deriving DecidableEq, Repr

structure StreetExperienceGrant where
  player : PlayerId
  experience : UInt64
deriving DecidableEq, Repr

structure RoomResult where
  status : RoomCommandStatus := .applied
  phase : RoomPhase := .waiting
  player : Option PlayerId := none
  deadlineAfter : Option Nat := none
  tickAfter : Option Nat := none
  bossHealth : Nat := 0
  bossSpawned : Bool := false
  digest : Option BattleDigest := none
  outcome : Option BattleOutcome := none
  failureReason : Option BattleFailureReason := none
  audience : List PlayerId := []
  grants : List StreetExperienceGrant := []
deriving DecidableEq, Repr

inductive RoomCommand where
  | joinRoom (player : PlayerId) (stats : CombatStats) (equippedSkillId : SkillId)
  | leaveRoom (player : PlayerId)
  | startBattle
  | useSkill (player : PlayerId) (skillId : SkillId) (requestSequence : Nat)
  | battleDeadline
  | simulationTick
  | setMoveIntent (player : PlayerId) (direction : MoveDirection) (requestSequence : Nat)
deriving DecidableEq, Repr

structure RoomConfig where
  battleDuration : Nat := 90000
  maxParticipants : Nat := 4
  clearExperience : UInt64 := 300
  bossHealth : Nat := 500
  tickInterval : Nat := 100
  waveInterval : Nat := 20000
  waveCount : Nat := 2
  minionsPerWave : Nat := 10
  minionHealth : Nat := 60
  bossSpawnAfter : Nat := 40000
  maxSpawnedEnemies : Nat := 64
  digestFlushThreshold : Nat := 512
  maxActiveProjectiles : Nat := 128
  arenaWidth : Nat := 100
  arenaHeight : Nat := 100
  playerMoveSpeed : Nat := 4
  participantSpawnSpacing : Nat := 4
  minionSpawnRadius : Nat := 25
  minionMoveSpeed : Nat := 1
  bossMoveSpeed : Nat := 1
  minionAttackDamage : Nat := 3
  bossAttackDamage : Nat := 10
  minionAttackRange : Nat := 3
  bossAttackRange : Nat := 5
  minionAttackCooldown : Nat := 1000
  bossAttackCooldown : Nat := 2000
deriving DecidableEq, Repr

structure SkillCooldown where
  skillId : SkillId
  readyAt : Nat
deriving DecidableEq, Repr

structure Participant where
  playerId : PlayerId
  stats : CombatStats
  equippedSkillId : SkillId := slash
  currentHealth : Nat := 0
  position : ArenaPosition := {}
  moveIntent : MoveDirection := .stop
  appliedSkillSequence : Nat := 0
  appliedMovementSequence : Nat := 0
  cooldowns : List SkillCooldown := []
deriving DecidableEq, Repr

structure Enemy where
  id : EnemyId
  kind : EnemyKind
  health : Nat
  position : ArenaPosition
  attackReadyAt : Nat
deriving DecidableEq, Repr

structure Projectile where
  id : ProjectileId
  owner : PlayerId
  skillId : SkillId
  target : EnemyId
  position : ArenaPosition
  speedPerTick : Nat
  hitRange : Nat
  damage : Nat
  expiresAt : Nat
deriving DecidableEq, Repr

structure Room where
  id : RoomId
  config : RoomConfig
  phase : RoomPhase := .waiting
  battleDeadlineAt : Nat := 0
  nextWaveAt : Nat := 0
  bossSpawnAt : Nat := 0
  spawnedWaveCount : Nat := 0
  nextEnemyId : EnemyId := 1
  nextProjectileId : ProjectileId := 1
  digestSequence : Nat := 0
  bossSpawned : Bool := false
  participants : List Participant := []
  enemies : List Enemy := []
  projectiles : List Projectile := []
  pendingEvents : List BattleEvent := []
deriving DecidableEq, Repr

/-- `calculateSkillDamage`: both behaviours scale the attack by their percentage, and the
product is taken modulo the width of the attack. -/
def calculateSkillDamage (skill : SkillDefinition) (attack : Nat) : Nat :=
  match skill.behavior with
  | .area attackPercent _ => attack * attackPercent.toNat % 2 ^ 64 / 100
  | .homingProjectile attackPercent _ _ _ _ => attack * attackPercent.toNat % 2 ^ 64 / 100

namespace RoomConfig

def maxUInt32 : Nat := 2 ^ 32 - 1
def maxSize : Nat := 2 ^ 64 - 1
def maxArenaExtent : Nat := 2 ^ 31 - 1

/-- The checks of the constructor in their order: the text of the first that fails. -/
def checks (room : RoomId) (c : RoomConfig) : List (Bool × String) :=
  let centerX := c.arenaWidth / 2
  let centerY := c.arenaHeight / 2
  let radius := c.minionSpawnRadius
  let formationMembers := c.maxParticipants - 1
  let formationSpan := c.participantSpawnSpacing * formationMembers
  let reserveBase := c.digestFlushThreshold + c.maxParticipants
  [ (room = 0, "RoomId must be non-zero"),
    (c.battleDuration = 0, "Room battle duration must be positive"),
    (c.maxParticipants = 0, "Room must admit at least one participant"),
    (c.bossHealth = 0, "Room boss health must be positive"),
    (c.tickInterval = 0, "Room tick interval must be positive"),
    (c.waveInterval = 0, "Room wave interval must be positive"),
    (c.minionHealth = 0, "Room minion health must be positive"),
    (c.bossSpawnAfter = 0 || c.bossSpawnAfter ≥ c.battleDuration,
      "Room boss spawn time must be positive and before the battle deadline"),
    (c.maxSpawnedEnemies = 0 || c.maxSpawnedEnemies > maxUInt32,
      "Room spawned enemy capacity must fit EnemyId"),
    (c.maxActiveProjectiles = 0 || c.maxActiveProjectiles > maxUInt32,
      "Room projectile capacity must fit ProjectileId"),
    (c.digestFlushThreshold = 0, "Room digest flush threshold must be positive"),
    (decide (c.waveCount = 0) != decide (c.minionsPerWave = 0),
      "Room wave and minion counts must both be zero or both be positive"),
    (c.waveCount ≠ 0 && c.minionsPerWave > (maxSize - 1) / c.waveCount,
      "Room total enemy count exceeds size_t"),
    (c.waveCount * c.minionsPerWave + 1 > c.maxSpawnedEnemies,
      "Room total enemy count exceeds its spawn capacity"),
    (c.waveCount > 1 && c.waveCount - 1 > c.bossSpawnAfter / c.waveInterval,
      "Room boss must spawn after every configured wave"),
    (c.arenaWidth = 0 || c.arenaHeight = 0 || c.arenaWidth > maxArenaExtent ||
      c.arenaHeight > maxArenaExtent,
      "Room arena extents must be positive and fit signed distance intermediates"),
    (c.playerMoveSpeed = 0 || c.minionMoveSpeed = 0 || c.bossMoveSpeed = 0,
      "Room arena movement speeds must be positive"),
    (c.participantSpawnSpacing = 0 || c.minionSpawnRadius = 0,
      "Room arena spawn spacing and radius must be positive"),
    (c.minionAttackDamage = 0 || c.bossAttackDamage = 0 || c.minionAttackRange = 0 ||
      c.bossAttackRange = 0, "Room enemy attacks must have positive damage and range"),
    (c.minionAttackCooldown = 0 || c.bossAttackCooldown = 0,
      "Room enemy attack cooldowns must be positive"),
    (radius > centerX || radius > centerY || radius > c.arenaWidth - 1 - centerX ||
      radius > c.arenaHeight - 1 - centerY,
      "Room minion spawn radius must fit around the arena center"),
    (formationMembers > maxSize / c.participantSpawnSpacing,
      "Room participant formation exceeds uint64"),
    (formationSpan / 2 > centerX || centerX - formationSpan / 2 + formationSpan ≥ c.arenaWidth,
      "Room participant formation must fit around the arena center"),
    (c.maxParticipants > maxSize - c.digestFlushThreshold, "Room event reserve exceeds size_t"),
    (c.maxSpawnedEnemies > (maxSize - reserveBase) / 3, "Room event reserve exceeds size_t"),
    (c.maxActiveProjectiles > (maxSize - reserveBase - 3 * c.maxSpawnedEnemies) / 4,
      "Room event reserve exceeds size_t") ]

end RoomConfig

namespace Room

def create (room : RoomId) (config : RoomConfig := {}) : Except String Room :=
  match (config.checks room).find? (·.1) with
  | some (_, text) => .error text
  | none => .ok { id := room, config := config }

def canStartBattle (r : Room) : Bool := r.phase = .waiting && !r.participants.isEmpty

def bossHealth (r : Room) : Nat :=
  match r.enemies.find? (·.kind = .boss) with
  | none => 0
  | some boss => boss.health

/-- `std::ranges::lower_bound`, and the comparison that follows it. -/
def findParticipant (r : Room) (player : PlayerId) : Option Participant :=
  (r.participants.dropWhile (·.playerId < player)).head?.filter (·.playerId = player)

def setParticipant (r : Room) (participant : Participant) : Room :=
  { r with participants := r.participants.map fun p =>
      if p.playerId = participant.playerId then participant else p }

def allParticipantsDead (r : Room) : Bool :=
  !r.participants.isEmpty && r.participants.all (·.currentHealth = 0)

/-- The nearest element, the first one among those at the same distance whose ids are
not smaller. -/
def nearest {α : Type} (distance : α → Nat) (id : α → Nat) : Option α → List α → Option α
  | best, [] => best
  | none, candidate :: rest => nearest distance id (some candidate) rest
  | some best, candidate :: rest =>
    if distance candidate < distance best ||
        distance candidate = distance best && id candidate < id best then
      nearest distance id (some candidate) rest
    else nearest distance id (some best) rest

def nearestLivingParticipant (r : Room) (origin : ArenaPosition) : Option Participant :=
  nearest (squaredDistance origin ·.position) (·.playerId) none
    (r.participants.filter (·.currentHealth ≠ 0))

def findLivingEnemy (r : Room) (target : EnemyId) : Option Enemy :=
  (r.enemies.find? (·.id = target)).filter (·.health ≠ 0)

def findTargetEnemy (r : Room) (origin : ArenaPosition) (acquisitionRange : Nat) : Option Enemy :=
  nearest (squaredDistance origin ·.position) (·.id) none
    (r.enemies.filter fun enemy =>
      enemy.health ≠ 0 && isWithinRange origin enemy.position acquisitionRange)

def enemyMoveSpeed (r : Room) : EnemyKind → Nat
  | .minion => r.config.minionMoveSpeed
  | .boss => r.config.bossMoveSpeed

def enemyAttackRange (r : Room) : EnemyKind → Nat
  | .minion => r.config.minionAttackRange
  | .boss => r.config.bossAttackRange

def enemyAttackDamage (r : Room) : EnemyKind → Nat
  | .minion => r.config.minionAttackDamage
  | .boss => r.config.bossAttackDamage

def enemyAttackCooldown (r : Room) : EnemyKind → Nat
  | .minion => r.config.minionAttackCooldown
  | .boss => r.config.bossAttackCooldown

def audience (r : Room) : List PlayerId := r.participants.map (·.playerId)

def pushEvents (r : Room) (events : List BattleEvent) : Room :=
  { r with pendingEvents := r.pendingEvents ++ events }

def baseResult (r : Room) (status : RoomCommandStatus) (player : Option PlayerId) : RoomResult :=
  { status := status, phase := r.phase, player := player, bossHealth := r.bossHealth
    bossSpawned := r.bossSpawned }

def takeDigest (r : Room) : Option BattleDigest × Room :=
  if r.pendingEvents.isEmpty then (none, r)
  else
    (some { sequence := r.digestSequence + 1, events := r.pendingEvents },
      { r with digestSequence := r.digestSequence + 1, pendingEvents := [] })

def failBattle (r : Room) (status : RoomCommandStatus) (player : Option PlayerId)
    (reason : BattleFailureReason) : RoomResult × Room :=
  let r := { r with phase := .failed, projectiles := [] }
  let result := r.baseResult status player
  let (digest, r) := r.takeDigest
  ({ result with
      digest := digest, outcome := some .failed, failureReason := some reason
      audience := r.audience }, r)

def rewardClear (r : Room) : List StreetExperienceGrant :=
  r.participants.map fun participant =>
    { player := participant.playerId, experience := r.config.clearExperience }

def clearBattle (r : Room) (player : Option PlayerId) : RoomResult × Room :=
  let r := { r with phase := .cleared, projectiles := [] }
  let result := r.baseResult .applied player
  let (digest, r) := r.takeDigest
  ({ result with
      digest := digest, outcome := some .cleared, audience := r.audience
      grants := r.rewardClear }, r)

/-! ## The course of a battle -/

def initializeArena (r : Room) : Room :=
  let participants : List Participant := r.participants.zipIdx.map fun (participant, index) =>
    { participant with
      currentHealth := participant.stats.health
      position := centeredParticipantPosition index r.participants.length r.config.arenaWidth
        r.config.arenaHeight r.config.participantSpawnSpacing
      moveIntent := .stop }
  { r with participants := participants }.pushEvents
    (.arenaStarted r.config.arenaWidth r.config.arenaHeight ::
      participants.map fun (p : Participant) =>
        .participantSpawned p.playerId p.position p.currentHealth)

/-- Where the intent of a living participant leads. -/
def moved (r : Room) (participant : Participant) : ArenaPosition :=
  if participant.currentHealth = 0 then participant.position
  else
    moveInDirection participant.position participant.moveIntent r.config.playerMoveSpeed
      r.config.arenaWidth r.config.arenaHeight

def moveParticipants (r : Room) : Room :=
  let participants : List Participant := r.participants.map fun participant =>
    { participant with position := r.moved participant }
  { r with participants := participants }.pushEvents
    (r.participants.filterMap fun participant =>
      if r.moved participant = participant.position then none
      else some (.participantMoved participant.playerId (r.moved participant)))

/-- The way of an enemy towards its target, if that is out of range. -/
def approach (r : Room) (enemy : Enemy) (target : ArenaPosition) : Enemy × List BattleEvent :=
  if isWithinRange enemy.position target (r.enemyAttackRange enemy.kind) then (enemy, [])
  else
    let position := moveToward enemy.position target (r.enemyMoveSpeed enemy.kind)
      r.config.arenaWidth r.config.arenaHeight
    if position = enemy.position then (enemy, [])
    else ({ enemy with position := position }, [.enemyPositioned enemy.id position])

/-- The attack of an enemy that is ready and in range. -/
def attack (r : Room) (enemy : Enemy) (target : Participant) (observedAt : Nat) : Enemy × Room :=
  let damage := min (r.enemyAttackDamage enemy.kind) target.currentHealth
  let health := target.currentHealth - damage
  let enemy := { enemy with attackReadyAt := observedAt + r.enemyAttackCooldown enemy.kind }
  let event := .participantDamaged target.playerId enemy.id damage health
  if health = 0 then
    (enemy, (r.setParticipant { target with currentHealth := health, moveIntent := .stop }).pushEvents
      [event, .participantDied target.playerId])
  else (enemy, (r.setParticipant { target with currentHealth := health }).pushEvents [event])

/-- `actEnemies`: the enemies in order, `false` when no participant is left alive. The
enemies after the one that ends the battle do not act. -/
def actEnemies (observedAt : Nat) : Room → List Enemy → Bool × Room × List Enemy
  | r, [] => (true, r, [])
  | r, enemy :: rest =>
    if enemy.health = 0 then
      let (alive, r, acted) := actEnemies observedAt r rest
      (alive, r, enemy :: acted)
    else
      match r.nearestLivingParticipant enemy.position with
      | none => (!r.allParticipantsDead, r, enemy :: rest)
      | some target =>
        let (enemy, events) := r.approach enemy target.position
        let r := r.pushEvents events
        if observedAt < enemy.attackReadyAt ||
            !isWithinRange enemy.position target.position (r.enemyAttackRange enemy.kind) then
          let (alive, r, acted) := actEnemies observedAt r rest
          (alive, r, enemy :: acted)
        else
          let (enemy, r) := r.attack enemy target observedAt
          if r.allParticipantsDead then (false, r, enemy :: rest)
          else
            let (alive, r, acted) := actEnemies observedAt r rest
            (alive, r, enemy :: acted)

def minion (r : Room) (index observedAt : Nat) : Enemy where
  id := r.nextEnemyId + index
  kind := .minion
  health := r.config.minionHealth
  position := squarePerimeterPosition index r.config.minionsPerWave r.config.arenaWidth
    r.config.arenaHeight r.config.minionSpawnRadius
  attackReadyAt := observedAt + r.config.minionAttackCooldown

def spawned (enemy : Enemy) : List BattleEvent :=
  [.enemySpawned enemy.id enemy.kind enemy.health, .enemyPositioned enemy.id enemy.position]

def spawnWave (r : Room) (observedAt : Nat) : Room :=
  if r.spawnedWaveCount ≥ r.config.waveCount then r
  else
    let wave := (List.range r.config.minionsPerWave).map fun index => r.minion index observedAt
    { r with
      nextEnemyId := r.nextEnemyId + r.config.minionsPerWave
      enemies := r.enemies ++ wave
      spawnedWaveCount := r.spawnedWaveCount + 1 }.pushEvents (wave.map spawned).flatten

def spawnBoss (r : Room) (observedAt : Nat) : Room :=
  if r.bossSpawned then r
  else
    let boss : Enemy :=
      { id := r.nextEnemyId, kind := .boss, health := r.config.bossHealth
        position := bossSpawnPosition r.config.arenaWidth
        attackReadyAt := observedAt + r.config.bossAttackCooldown }
    { r with
      nextEnemyId := r.nextEnemyId + 1
      enemies := r.enemies ++ [boss]
      bossSpawned := true }.pushEvents (spawned boss)

/-! ## Skills -/

/-- `cooldowns` with the time at which the skill is ready again, sorted by skill. -/
def setCooldown (cooldown : SkillCooldown) : List SkillCooldown → List SkillCooldown
  | [] => [cooldown]
  | first :: rest =>
    if first.skillId < cooldown.skillId then first :: setCooldown cooldown rest
    else if first.skillId = cooldown.skillId then cooldown :: rest
    else cooldown :: first :: rest

structure SkillCastContext where
  participant : Participant
  skillId : SkillId
  requestSequence : Nat
  observedAt : Nat
  cooldown : Nat
  damage : Nat

def commitSkillUse (r : Room) (c : SkillCastContext) : Room :=
  r.setParticipant { c.participant with
    cooldowns := setCooldown ⟨c.skillId, c.observedAt + c.cooldown⟩ c.participant.cooldowns
    appliedSkillSequence := c.requestSequence }

def finishSkillUse (r : Room) (player : PlayerId) : RoomResult × Room :=
  let result := r.baseResult .applied (some player)
  if r.pendingEvents.length ≥ r.config.digestFlushThreshold then
    let (digest, r) := r.takeDigest
    ({ result with digest := digest, audience := r.audience }, r)
  else (result, r)

/-- The damage that an enemy takes, and what it leaves. -/
def hit (enemy : Enemy) (actor : PlayerId) (skillId : SkillId) (damage : Nat) :
    Enemy × List BattleEvent :=
  let amount := min damage enemy.health
  let enemy := { enemy with health := enemy.health - amount }
  (enemy, .enemyDamaged enemy.id actor skillId amount enemy.health ::
    if enemy.health = 0 then [.enemyDied enemy.id] else [])

def inArea (c : SkillCastContext) (range : Nat) (enemy : Enemy) : Bool :=
  enemy.health ≠ 0 && isWithinRange c.participant.position enemy.position range

def applyAreaAttack (r : Room) (c : SkillCastContext) (range : Nat) : RoomResult × Room :=
  let player := c.participant.playerId
  let r := r.commitSkillUse c
  let hits := (r.enemies.filter (inArea c range)).map fun enemy =>
    hit enemy player c.skillId c.damage
  let enemies : List Enemy := r.enemies.map fun enemy =>
    if inArea c range enemy then (hit enemy player c.skillId c.damage).1 else enemy
  let r := { r with enemies := enemies }
  let r := r.pushEvents (hits.map (·.2)).flatten
  if hits.isEmpty then (r.pushEvents [.skillWhiffed player c.skillId]).finishSkillUse player
  else if hits.any (fun h => h.1.health = 0 && h.1.kind = .boss) then r.clearBattle (some player)
  else r.finishSkillUse player

def spawnHomingProjectile (r : Room) (c : SkillCastContext)
    (acquisitionRange speedPerTick hitRange lifetime : Nat) : RoomResult × Room :=
  let player := c.participant.playerId
  match r.findTargetEnemy c.participant.position acquisitionRange with
  | none =>
    ((r.commitSkillUse c).pushEvents [.skillWhiffed player c.skillId]).finishSkillUse player
  | some target =>
    if r.projectiles.length ≥ r.config.maxActiveProjectiles || r.nextProjectileId = 0 then
      (r.baseResult .projectileCapacityExceeded (some player), r)
    else
      let r := r.commitSkillUse c
      let projectile : Projectile :=
        { id := r.nextProjectileId, owner := player, skillId := c.skillId, target := target.id
          position := c.participant.position, speedPerTick := speedPerTick, hitRange := hitRange
          damage := c.damage, expiresAt := c.observedAt + lifetime }
      let r := { r with
        nextProjectileId :=
          if r.nextProjectileId = RoomConfig.maxUInt32 then 0 else r.nextProjectileId + 1
        projectiles := r.projectiles ++ [projectile] }
      (r.pushEvents [.projectileSpawned projectile.id player c.skillId target.id
        projectile.position]).finishSkillUse player

inductive ProjectileAdvanceResult where
  | active | removed | bossKilled
deriving DecidableEq, Repr

def advanceProjectile (r : Room) (projectile : Projectile) (observedAt : Nat) :
    ProjectileAdvanceResult × Projectile × Room :=
  if projectile.expiresAt ≤ observedAt then
    (.removed, projectile, r.pushEvents [.projectileRemoved projectile.id .expired])
  else
    match r.findLivingEnemy projectile.target with
    | none => (.removed, projectile, r.pushEvents [.projectileRemoved projectile.id .targetLost])
    | some target =>
      let position :=
        if isWithinRange projectile.position target.position projectile.hitRange then
          projectile.position
        else
          moveToward projectile.position target.position projectile.speedPerTick
            r.config.arenaWidth r.config.arenaHeight
      let r := r.pushEvents
        (if position = projectile.position then []
         else [.projectileMoved projectile.id position])
      let projectile := { projectile with position := position }
      if !isWithinRange projectile.position target.position projectile.hitRange then
        (.active, projectile, r)
      else
        let (enemy, events) := hit target projectile.owner projectile.skillId projectile.damage
        let enemies : List Enemy := r.enemies.map fun e => if e.id = enemy.id then enemy else e
        let r := { r with enemies := enemies }
        let r := r.pushEvents (events ++ [.projectileRemoved projectile.id .hit])
        (if enemy.health = 0 && enemy.kind = .boss then .bossKilled else .removed, projectile, r)

/-- `advanceProjectiles`: `true` when the boss is killed, which ends the loop. -/
def advanceProjectiles (observedAt : Nat) : Room → List Projectile → Bool × Room × List Projectile
  | r, [] => (false, r, [])
  | r, projectile :: rest =>
    match r.advanceProjectile projectile observedAt with
    | (.active, projectile, r) =>
      let (killed, r, left) := advanceProjectiles observedAt r rest
      (killed, r, projectile :: left)
    | (.removed, _, r) => advanceProjectiles observedAt r rest
    | (.bossKilled, projectile, r) => (true, r, projectile :: rest)

/-! ## Commands -/

def joinRoom (r : Room) (player : PlayerId) (stats : CombatStats) (equippedSkillId : SkillId) :
    RoomResult × Room :=
  if r.phase ≠ .waiting then (r.baseResult .wrongPhase (some player), r)
  else if (r.findParticipant player).isSome then (r.baseResult .alreadyJoined (some player), r)
  else if r.participants.length ≥ r.config.maxParticipants then
    (r.baseResult .roomFull (some player), r)
  else
    let participant : Participant :=
      { playerId := player, stats := stats, equippedSkillId := equippedSkillId
        currentHealth := stats.health }
    let r := { r with
      participants := r.participants.takeWhile (·.playerId < player) ++
        participant :: r.participants.dropWhile (·.playerId < player) }
    (r.baseResult .applied (some player), r)

def leaveRoom (r : Room) (player : PlayerId) : RoomResult × Room :=
  if r.phase = .cleared || r.phase = .failed then (r.baseResult .wrongPhase (some player), r)
  else if (r.findParticipant player).isNone then (r.baseResult .notJoined (some player), r)
  else
    let r := { r with
      participants := r.participants.takeWhile (·.playerId < player) ++
        (r.participants.dropWhile (·.playerId < player)).tail }
    if r.phase ≠ .running then (r.baseResult .applied (some player), r)
    else if r.participants.isEmpty then
      let r := { r with pendingEvents := [], projectiles := [] }
      (r.baseResult .applied (some player), r)
    else
      let r := r.pushEvents [.participantLeft player]
      if r.allParticipantsDead then r.failBattle .applied (some player) .participantsDefeated
      else
        let result := r.baseResult .applied (some player)
        let (digest, r) := r.takeDigest
        ({ result with digest := digest, audience := r.audience }, r)

/-- The digest of a turn, with the audience it is for. -/
def withDigest (r : Room) (result : RoomResult) : RoomResult × Room :=
  match r.takeDigest with
  | (some digest, r) => ({ result with digest := some digest, audience := r.audience }, r)
  | (none, r) => (result, r)

def startBattle (r : Room) (observedAt : Nat) : RoomResult × Room :=
  if !r.canStartBattle then (r.baseResult .wrongPhase none, r)
  else
    let r := { r with
      phase := .running
      battleDeadlineAt := observedAt + r.config.battleDuration
      nextWaveAt := observedAt + r.config.waveInterval
      bossSpawnAt := observedAt + r.config.bossSpawnAfter }
    let r := r.initializeArena.spawnWave observedAt
    r.withDigest { r.baseResult .applied none with
      deadlineAfter := some r.config.battleDuration
      tickAfter := some r.config.tickInterval }

def useSkill (r : Room) (player : PlayerId) (skillId : SkillId) (requestSequence observedAt : Nat) :
    RoomResult × Room :=
  if r.phase ≠ .running then (r.baseResult .wrongPhase (some player), r)
  else if observedAt ≥ r.battleDeadlineAt then r.failBattle .battleExpired (some player) .deadline
  else
    match r.findParticipant player with
    | none => (r.baseResult .notJoined (some player), r)
    | some participant =>
      if requestSequence ≤ participant.appliedSkillSequence then
        (r.baseResult .duplicateRequest (some player), r)
      else if participant.currentHealth = 0 then (r.baseResult .participantDead (some player), r)
      else
        match findSkill skillId with
        | none => (r.baseResult .unknownSkill (some player), r)
        | some skill =>
          if skillId ≠ participant.equippedSkillId then
            (r.baseResult .skillNotEquipped (some player), r)
          else if participant.cooldowns.any (fun cooldown =>
              cooldown.skillId = skillId && observedAt < cooldown.readyAt) then
            (r.baseResult .skillOnCooldown (some player), r)
          else
            let context : SkillCastContext :=
              { participant := participant, skillId := skillId
                requestSequence := requestSequence, observedAt := observedAt
                cooldown := skill.cooldownMs
                damage := calculateSkillDamage skill participant.stats.attack }
            match skill.behavior with
            | .area _ range => r.applyAreaAttack context range.toNat
            | .homingProjectile _ acquisitionRange speedPerTick hitRange lifetime =>
              r.spawnHomingProjectile context acquisitionRange.toNat speedPerTick.toNat
                hitRange.toNat lifetime

def setMoveIntent (r : Room) (player : PlayerId) (direction : MoveDirection)
    (requestSequence observedAt : Nat) : RoomResult × Room :=
  if r.phase ≠ .running then (r.baseResult .wrongPhase (some player), r)
  else if observedAt ≥ r.battleDeadlineAt then r.failBattle .battleExpired (some player) .deadline
  else
    match r.findParticipant player with
    | none => (r.baseResult .notJoined (some player), r)
    | some participant =>
      if requestSequence ≤ participant.appliedMovementSequence then
        (r.baseResult .duplicateRequest (some player), r)
      else if participant.currentHealth = 0 then (r.baseResult .participantDead (some player), r)
      else
        let r := r.setParticipant { participant with
          appliedMovementSequence := requestSequence, moveIntent := direction }
        (r.baseResult .applied (some player), r)

def battleDeadline (r : Room) (observedAt : Nat) : RoomResult × Room :=
  if r.phase ≠ .running || observedAt < r.battleDeadlineAt then (r.baseResult .wrongPhase none, r)
  else r.failBattle .applied none .deadline

/-- The waves that are due, at most one for each that is left to spawn. -/
def spawnWaves (observedAt : Nat) : Nat → Room → Room
  | 0, r => r
  | left + 1, r =>
    if r.spawnedWaveCount < r.config.waveCount && observedAt ≥ r.nextWaveAt then
      let r := r.spawnWave observedAt
      spawnWaves observedAt left { r with nextWaveAt := r.nextWaveAt + r.config.waveInterval }
    else r

def simulationTick (r : Room) (observedAt : Nat) : RoomResult × Room :=
  if r.phase ≠ .running then (r.baseResult .wrongPhase none, r)
  else if observedAt ≥ r.battleDeadlineAt then r.failBattle .applied none .deadline
  else
    let r := { r with enemies := r.enemies.filter (·.health ≠ 0) }.moveParticipants
    let (killed, r, projectiles) := advanceProjectiles observedAt r r.projectiles
    let r := { r with projectiles := projectiles }
    if killed then r.clearBattle none
    else
      let (alive, r, enemies) := actEnemies observedAt r r.enemies
      let r := { r with enemies := enemies }
      if !alive then r.failBattle .applied none .participantsDefeated
      else
        let r := spawnWaves observedAt (r.config.waveCount - r.spawnedWaveCount) r
        let r := if !r.bossSpawned && observedAt ≥ r.bossSpawnAt then r.spawnBoss observedAt else r
        r.withDigest { r.baseResult .applied none with tickAfter := some r.config.tickInterval }

def handle (r : Room) (command : RoomCommand) (observedAt : Nat) : RoomResult × Room :=
  match command with
  | .joinRoom player stats equippedSkillId => r.joinRoom player stats equippedSkillId
  | .leaveRoom player => r.leaveRoom player
  | .startBattle => r.startBattle observedAt
  | .useSkill player skillId requestSequence => r.useSkill player skillId requestSequence observedAt
  | .battleDeadline => r.battleDeadline observedAt
  | .simulationTick => r.simulationTick observedAt
  | .setMoveIntent player direction requestSequence =>
    r.setMoveIntent player direction requestSequence observedAt

end Room

end Snf.Game
