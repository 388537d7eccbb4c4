import Snf.Lib.Keyed
import Snf.Game.RoomCourse

/-! # What a command does to a battle

A command changes a battle in small steps: a participant walks, an enemy approaches or
strikes, a projectile flies or is dropped, an enemy is wounded, a wave comes. Each of these
changes appends the events that tell it. The loops of the source are paths of such changes,
and what holds along a run is shown change by change.
-/

namespace Snf.Game.Room

open Snf.Lib

/-! ## Changes -/

def withParticipants (r : Room) (participants : List Participant) : Room :=
  { r with participants := participants }

def withEnemies (r : Room) (enemies : List Enemy) : Room := { r with enemies := enemies }

def withProjectiles (r : Room) (projectiles : List Projectile) : Room :=
  { r with projectiles := projectiles }

/-- A participant after a blow. -/
def struck (participant : Participant) (damage : Nat) : Participant :=
  { participant with
    currentHealth := participant.currentHealth - damage
    moveIntent :=
      if participant.currentHealth - damage = 0 then .stop else participant.moveIntent }

def blow (participant : Participant) (attacker : EnemyId) (damage : Nat) : List BattleEvent :=
  .participantDamaged participant.playerId attacker damage (participant.currentHealth - damage) ::
    if participant.currentHealth - damage = 0 then [.participantDied participant.playerId] else []

/-- Where an enemy gets on its way to a participant. -/
def nearer (r : Room) (enemy : Enemy) (target : ArenaPosition) : ArenaPosition :=
  moveToward enemy.position target (r.enemyMoveSpeed enemy.kind) r.config.arenaWidth
    r.config.arenaHeight

/-- Where a projectile gets on its way to its target. -/
def closer (r : Room) (projectile : Projectile) (target : ArenaPosition) : ArenaPosition :=
  moveToward projectile.position target projectile.speedPerTick r.config.arenaWidth
    r.config.arenaHeight

def wave (r : Room) (observedAt : Nat) : List Enemy :=
  (List.range r.config.minionsPerWave).map fun index => r.minion index observedAt

def bossOf (r : Room) (observedAt : Nat) : Enemy where
  id := r.nextEnemyId
  kind := .boss
  health := r.config.bossHealth
  position := bossSpawnPosition r.config.arenaWidth
  attackReadyAt := observedAt + r.config.bossAttackCooldown

/-- The boss has been killed. -/
def BossDown (r : Room) : Prop := ∃ e ∈ r.enemies, e.kind = .boss ∧ e.health = 0

/-- Why a projectile is removed: its time is over, its target is gone, or it has just hit. -/
def Falls (observedAt : Nat) (r : Room) (q : Projectile) : ProjectileRemovalReason → Prop
  | .expired => q.expiresAt ≤ observedAt
  | .targetLost => observedAt < q.expiresAt ∧ r.findLivingEnemy q.target = none
  | .hit => observedAt < q.expiresAt ∧ ∃ e earlier, e.id = q.target ∧ e.health ≠ 0 ∧
      r.pendingEvents = earlier ++ (hit e q.owner q.skillId q.damage).2

/-- One change of a battle, with the events that tell it. -/
inductive Change (observedAt : Nat) : Room → List BattleEvent → Room → Prop where
  /-- A skill or an intent is noted. -/
  | adjust {r : Room} {before after : List Participant} {p p' : Participant} :
      r.participants = before ++ p :: after → p'.playerId = p.playerId → p'.stats = p.stats →
      p'.currentHealth = p.currentHealth → p'.position = p.position →
      Change observedAt r [] (r.withParticipants (before ++ p' :: after))
  | walk {r : Room} {before after : List Participant} {p : Participant} :
      r.participants = before ++ p :: after → p.currentHealth ≠ 0 →
      Change observedAt r [.participantMoved p.playerId (r.moved p)]
        (r.withParticipants (before ++ { p with position := r.moved p } :: after))
  /-- The dead enemies are erased. -/
  | bury {r : Room} :
      ¬ r.BossDown → Change observedAt r [] (r.withEnemies (r.enemies.filter (·.health ≠ 0)))
  | approach {r : Room} {before after : List Enemy} {e : Enemy} {target : Participant} :
      r.enemies = before ++ e :: after → e.health ≠ 0 → target ∈ r.participants →
      target.currentHealth ≠ 0 →
      Change observedAt r [.enemyPositioned e.id (r.nearer e target.position)]
        (r.withEnemies (before ++ { e with position := r.nearer e target.position } :: after))
  /-- An enemy has to wait for its next attack. -/
  | tire {r : Room} {before after : List Enemy} {e : Enemy} :
      r.enemies = before ++ e :: after → e.attackReadyAt ≤ observedAt →
      Change observedAt r []
        (r.withEnemies (before ++
          { e with attackReadyAt := observedAt + r.enemyAttackCooldown e.kind } :: after))
  | strike {r : Room} {before after : List Participant} {p : Participant} {attacker : Enemy}
      {damage : Nat} :
      r.participants = before ++ p :: after → p.currentHealth ≠ 0 → damage ≤ p.currentHealth →
      attacker ∈ r.enemies → attacker.health ≠ 0 → attacker.attackReadyAt ≤ observedAt →
      Change observedAt r (blow p attacker.id damage)
        (r.withParticipants (before ++ struck p damage :: after))
  | fly {r : Room} {before after : List Projectile} {q : Projectile} {target : Enemy} :
      r.projectiles = before ++ q :: after → target ∈ r.enemies → target.id = q.target →
      target.health ≠ 0 → observedAt < q.expiresAt →
      Change observedAt r [.projectileMoved q.id (r.closer q target.position)]
        (r.withProjectiles
          (before ++ { q with position := r.closer q target.position } :: after))
  | drop {r : Room} {before after : List Projectile} {q : Projectile}
      {reason : ProjectileRemovalReason} :
      r.projectiles = before ++ q :: after → Falls observedAt r q reason →
      Change observedAt r [.projectileRemoved q.id reason]
        (r.withProjectiles (before ++ after))
  | wound {r : Room} {before after : List Enemy} {e : Enemy} {actor : PlayerId}
      {skillId : SkillId} {damage : Nat} :
      r.enemies = before ++ e :: after → e.health ≠ 0 →
      Change observedAt r (hit e actor skillId damage).2
        (r.withEnemies (before ++ (hit e actor skillId damage).1 :: after))
  | whiff {r : Room} {p : Participant} {skillId : SkillId} :
      p ∈ r.participants → p.currentHealth ≠ 0 →
      Change observedAt r [.skillWhiffed p.playerId skillId] r
  | launch {r : Room} {p : Participant} {q : Projectile} {target : Enemy} :
      p ∈ r.participants → q.id = r.nextProjectileId → q.id ≠ 0 → q.position = p.position →
      r.projectiles.length < r.config.maxActiveProjectiles → p.currentHealth ≠ 0 →
      q.owner = p.playerId → target ∈ r.enemies → target.id = q.target → target.health ≠ 0 →
      Change observedAt r [.projectileSpawned q.id q.owner q.skillId q.target q.position]
        { r with
          nextProjectileId :=
            if r.nextProjectileId = RoomConfig.maxUInt32 then 0 else r.nextProjectileId + 1
          projectiles := r.projectiles ++ [q] }
  | wave {r : Room} :
      r.spawnedWaveCount < r.config.waveCount → r.nextWaveAt ≤ observedAt →
      Change observedAt r ((r.wave observedAt).map spawned).flatten
        { r with
          nextEnemyId := r.nextEnemyId + r.config.minionsPerWave
          enemies := r.enemies ++ r.wave observedAt
          spawnedWaveCount := r.spawnedWaveCount + 1
          nextWaveAt := r.nextWaveAt + r.config.waveInterval }
  | boss {r : Room} :
      r.bossSpawned = false → r.bossSpawnAt ≤ observedAt →
      (r.spawnedWaveCount < r.config.waveCount → observedAt < r.nextWaveAt) →
      Change observedAt r (spawned (r.bossOf observedAt))
        { r with
          nextEnemyId := r.nextEnemyId + 1
          enemies := r.enemies ++ [r.bossOf observedAt]
          bossSpawned := true }

/-- A sequence of changes, with their events in order. -/
inductive Path (observedAt : Nat) (r : Room) : List BattleEvent → Room → Prop where
  | refl : Path observedAt r [] r
  | step {events new : List BattleEvent} {s s' : Room} : Path observedAt r events s →
      Change observedAt s new s' → Path observedAt r (events ++ new) (s'.pushEvents new)

theorem pushEvents_nil (r : Room) : r.pushEvents [] = r := by
  simp only [pushEvents, List.append_nil]

theorem pushEvents_append (r : Room) (events new : List BattleEvent) :
    (r.pushEvents events).pushEvents new = r.pushEvents (events ++ new) := by
  simp only [pushEvents, List.append_assoc]

namespace Path

variable {t : Nat} {r s s' : Room} {events new : List BattleEvent}

theorem one (h : Change t r new s) : Path t r new (s.pushEvents new) := .step .refl h

theorem silent (h : Change t r [] s) : Path t r [] s := pushEvents_nil s ▸ one h

theorem trans (h : Path t r events s) (h' : Path t s new s') : Path t r (events ++ new) s' := by
  induction h' with
  | refl => rwa [List.append_nil]
  | step _ hchange ih =>
    rw [← List.append_assoc]
    exact ih.step hchange

theorem pendingEvents_eq (h : Path t r events s) :
    s.pendingEvents = r.pendingEvents ++ events := by
  induction h with
  | refl => rw [List.append_nil]
  | step _ hchange ih =>
    rw [← List.append_assoc, ← ih]
    cases hchange <;> rfl

end Path

/-- Between the two Rooms a battle was fought, and nobody came. -/
def Fought (r r' : Room) : Prop :=
  r' = { r with
    participants := r'.participants
    enemies := r'.enemies
    projectiles := r'.projectiles
    pendingEvents := r'.pendingEvents }

theorem Fought.trans {r s t : Room} (h : Fought r s) (h' : Fought s t) : Fought r t := by
  unfold Fought at *
  rw [h', h]

/-! ## Participants -/

/-- The event of a participant that has moved. -/
def walked (r : Room) (p : Participant) : Option BattleEvent :=
  if r.moved p = p.position then none else some (.participantMoved p.playerId (r.moved p))

/-- A participant where its intent leads it. -/
def walker (r : Room) (p : Participant) : Participant := { p with position := r.moved p }

theorem path_walks (t : Nat) :
    ∀ (ps before : List Participant) (r : Room), r.participants = before ++ ps →
      Path t r (ps.filterMap r.walked)
        ((r.withParticipants (before ++ ps.map r.walker)).pushEvents (ps.filterMap r.walked))
  | [], before, r, h => by
    have hsame : r.withParticipants (before ++ []) = r := by rw [← h]; rfl
    simp only [List.map_nil, List.filterMap_nil, pushEvents_nil, hsame]
    exact .refl
  | p :: ps, before, r, h => by
    by_cases hmoved : r.moved p = p.position
    · have hp : r.walker p = p := by
        unfold walker
        rw [hmoved]
      have hevent : r.walked p = none := if_pos hmoved
      have ih := path_walks t ps (before ++ [p]) r (by simp [h])
      simpa only [List.filterMap_cons, hevent, List.map_cons, hp, List.append_assoc,
        List.singleton_append] using ih
    · have halive : p.currentHealth ≠ 0 := by
        intro hdead
        exact hmoved (if_pos hdead)
      have hevent : r.walked p = some (.participantMoved p.playerId (r.moved p)) := if_neg hmoved
      have hwalk : Change t r _ _ := .walk h halive
      have hrest := path_walks t ps (before ++ [r.walker p])
        ((r.withParticipants (before ++ r.walker p :: ps)).pushEvents
          [.participantMoved p.playerId (r.moved p)]) (by simp [pushEvents, withParticipants])
      have hboth := (Path.one hwalk).trans hrest
      simp only [List.filterMap_cons, hevent, List.map_cons]
      simp only [pushEvents, withParticipants, List.append_assoc, List.singleton_append] at hboth ⊢
      exact hboth

theorem path_moveParticipants (t : Nat) (r : Room) :
    ∃ events, Path t r events r.moveParticipants ∧ events.length ≤ r.participants.length :=
  ⟨r.participants.filterMap r.walked, path_walks t r.participants [] r rfl,
    List.length_filterMap_le _ _⟩

theorem InOrder.nodup {r : Room} (h : r.InOrder) : (r.participants.map (·.playerId)).Nodup :=
  h.imp fun hlt => Nat.ne_of_lt hlt

/-- Writing a participant back changes it alone. -/
theorem setParticipant_split {r : Room} {before after : List Participant} {p p' : Participant}
    (ho : r.InOrder) (h : r.participants = before ++ p :: after)
    (hid : p'.playerId = p.playerId) :
    r.setParticipant p' = r.withParticipants (before ++ p' :: after) := by
  have hnodup := ho.nodup
  rw [h] at hnodup
  simp only [setParticipant, withParticipants, h, hid]
  rw [map_ite_key hnodup]

theorem mem_of_findParticipant {r : Room} {player : PlayerId} {p : Participant}
    (h : r.findParticipant player = some p) : p ∈ r.participants ∧ p.playerId = player := by
  obtain ⟨hhead, hid⟩ := Option.filter_eq_some_iff.1 h
  exact ⟨(List.dropWhile_sublist _).subset (List.mem_of_mem_head? hhead), by simpa using hid⟩

/-- A skill or an intent is noted for a participant. -/
theorem path_adjust {t : Nat} {r : Room} {p p' : Participant} (ho : r.InOrder)
    (hp : p ∈ r.participants) (hid : p'.playerId = p.playerId) (hstats : p'.stats = p.stats)
    (hhealth : p'.currentHealth = p.currentHealth) (hposition : p'.position = p.position) :
    Path t r [] (r.setParticipant p') ∧
      (r.setParticipant p').allParticipantsDead = r.allParticipantsDead := by
  obtain ⟨before, after, hsplit⟩ := List.append_of_mem hp
  rw [setParticipant_split ho hsplit hid]
  refine ⟨.silent (.adjust hsplit hid hstats hhealth hposition), ?_⟩
  simp only [allParticipantsDead, withParticipants, hsplit, List.all_append, List.all_cons, hhealth]
  cases before <;> rfl

/-! ## Enemies -/

section Nearest

variable {α : Type} {distance id : α → Nat} {l : List α} {a : α}

theorem mem_of_nearest {best : Option α} (h : nearest distance id best l = some a) :
    a ∈ l ∨ best = some a := by
  induction l generalizing best with
  | nil => exact .inr h
  | cons b l ih =>
    cases best with
    | none =>
      rcases ih h with hmem | hbest
      · exact .inl (List.mem_cons_of_mem _ hmem)
      · exact .inl (Option.some.inj hbest ▸ List.mem_cons_self)
    | some c =>
      simp only [nearest] at h
      split at h
      · rcases ih h with hmem | hbest
        · exact .inl (List.mem_cons_of_mem _ hmem)
        · exact .inl (Option.some.inj hbest ▸ List.mem_cons_self)
      · rcases ih h with hmem | hbest
        · exact .inl (List.mem_cons_of_mem _ hmem)
        · exact .inr hbest

end Nearest

theorem mem_of_nearestLivingParticipant {r : Room} {origin : ArenaPosition} {p : Participant}
    (h : r.nearestLivingParticipant origin = some p) :
    p ∈ r.participants ∧ p.currentHealth ≠ 0 := by
  rcases mem_of_nearest h with hmem | hnone
  · simpa using hmem
  · cases hnone

theorem mem_of_findTargetEnemy {r : Room} {origin : ArenaPosition} {range : Nat} {e : Enemy}
    (h : r.findTargetEnemy origin range = some e) : e ∈ r.enemies ∧ e.health ≠ 0 := by
  rcases mem_of_nearest h with hmem | hnone
  · obtain ⟨hin, hliving⟩ := List.mem_filter.1 hmem
    simp only [Bool.and_eq_true, decide_eq_true_eq] at hliving
    exact ⟨hin, hliving.1⟩
  · cases hnone

theorem approach_cases (r : Room) (e : Enemy) (target : ArenaPosition) :
    r.approach e target = (e, []) ∨
      r.approach e target = ({ e with position := r.nearer e target },
        [.enemyPositioned e.id (r.nearer e target)]) := by
  simp only [approach]
  split
  · exact .inl rfl
  · split
    · exact .inl rfl
    · exact .inr rfl

theorem attack_eq (r : Room) (e : Enemy) (p : Participant) (t : Nat) :
    r.attack e p t = ({ e with attackReadyAt := t + r.enemyAttackCooldown e.kind },
      (r.setParticipant (struck p (min (r.enemyAttackDamage e.kind) p.currentHealth))).pushEvents
        (blow p e.id (min (r.enemyAttackDamage e.kind) p.currentHealth))) := by
  simp only [attack, struck, blow]
  split <;> rfl

/-- What a fight does not change about an enemy. -/
def standing (e : Enemy) : EnemyId × EnemyKind × Nat := (e.id, e.kind, e.health)

/-- **The turn of the enemies** `es`, those in `before` having acted. -/
structure Assault (t : Nat) (before es : List Enemy) (r : Room)
    (out : Bool × Room × List Enemy) : Prop where
  path : ∃ events, Path t (r.withEnemies (before ++ es)) events
    (out.2.1.withEnemies (before ++ out.2.2)) ∧ events.length ≤ 3 * es.length
  fought : Fought r out.2.1
  standing : out.2.2.map standing = es.map standing
  alive : out.1 = true → r.allParticipantsDead = false → out.2.1.allParticipantsDead = false
  dead : out.1 = false → out.2.1.allParticipantsDead = true

namespace Assault

variable {t : Nat} {before rest : List Enemy} {e e' : Enemy} {r r' : Room}
  {events : List BattleEvent} {out : Bool × Room × List Enemy}

/-- The battle is over for the enemies that have not acted. -/
theorem stop {alive : Bool}
    (hpath : Path t (r.withEnemies (before ++ e :: rest)) events
      (r'.withEnemies (before ++ e' :: rest)))
    (hlength : events.length ≤ 3) (hfought : Fought r r')
    (hsame : Room.standing e' = Room.standing e)
    (halive : alive = !r'.allParticipantsDead) :
    Assault t before (e :: rest) r (alive, r', e' :: rest) := by
  refine ⟨⟨events, hpath, ?_⟩, hfought, ?_, ?_, ?_⟩
  · simp only [List.length_cons]
    omega
  · simp only [List.map_cons, hsame]
  · intro htrue _
    simpa [halive] using htrue
  · intro hfalse
    simpa [halive] using hfalse

/-- One enemy has acted, and the others follow. -/
theorem cons
    (hpath : Path t (r.withEnemies (before ++ e :: rest)) events
      (r'.withEnemies (before ++ e' :: rest)))
    (hlength : events.length ≤ 3) (hfought : Fought r r')
    (hsame : Room.standing e' = Room.standing e)
    (halive : r.allParticipantsDead = false → r'.allParticipantsDead = false)
    (h : Assault t (before ++ [e']) rest r' out) :
    Assault t before (e :: rest) r (out.1, out.2.1, e' :: out.2.2) := by
  obtain ⟨more, hmore, hcount⟩ := h.path
  simp only [List.append_assoc, List.singleton_append] at hmore
  refine ⟨⟨events ++ more, hpath.trans hmore, ?_⟩, hfought.trans h.fought, ?_, ?_, h.dead⟩
  · simp only [List.length_append, List.length_cons]
    omega
  · simp only [List.map_cons, hsame, h.standing]
  · exact fun htrue hr => h.alive htrue (halive hr)

end Assault

section Assaults

variable {t : Nat} {e : Enemy} {r : Room} {target : Participant} (before rest : List Enemy)

theorem path_approach (he : e.health ≠ 0) (htarget : target ∈ r.participants)
    (halive : target.currentHealth ≠ 0) :
    Path t (r.withEnemies (before ++ e :: rest)) (r.approach e target.position).2
      ((r.pushEvents (r.approach e target.position).2).withEnemies
        (before ++ (r.approach e target.position).1 :: rest)) ∧
    (r.approach e target.position).2.length ≤ 1 ∧
    standing (r.approach e target.position).1 = standing e := by
  rcases approach_cases r e target.position with heq | heq
  · rw [heq, pushEvents_nil]
    exact ⟨.refl, Nat.zero_le _, rfl⟩
  · rw [heq]
    have hchange : Change t (r.withEnemies (before ++ e :: rest)) _ _ :=
      .approach rfl he htarget halive
    exact ⟨.one hchange, Nat.le_refl _, rfl⟩

theorem length_blow (p : Participant) (attacker : EnemyId) (damage : Nat) :
    (blow p attacker damage).length ≤ 2 := by
  simp only [blow, List.length_cons]
  split <;> simp

theorem path_attack (ho : r.InOrder) (htarget : target ∈ r.participants)
    (halive : target.currentHealth ≠ 0) (he : e.health ≠ 0) (hready : e.attackReadyAt ≤ t) :
    (∃ events, events.length ≤ 2 ∧ Path t (r.withEnemies (before ++ e :: rest)) events
      ((r.attack e target t).2.withEnemies (before ++ (r.attack e target t).1 :: rest))) ∧
    Fought r (r.attack e target t).2 ∧ standing (r.attack e target t).1 = standing e := by
  obtain ⟨first, last, hsplit⟩ := List.append_of_mem htarget
  generalize hdamage : min (r.enemyAttackDamage e.kind) target.currentHealth = damage
  have hset : r.setParticipant (struck target damage) =
      r.withParticipants (first ++ struck target damage :: last) :=
    setParticipant_split ho hsplit rfl
  rw [attack_eq, hdamage, hset]
  generalize htired : ({ e with attackReadyAt := t + r.enemyAttackCooldown e.kind } : Enemy) = tired
  -- the blow comes first, while the enemy is still ready
  have hstrike : Change t (r.withEnemies (before ++ e :: rest)) (blow target e.id damage)
      ((r.withEnemies (before ++ e :: rest)).withParticipants
        (first ++ struck target damage :: last)) :=
    .strike hsplit halive (hdamage ▸ Nat.min_le_right _ _)
      (List.mem_append_right _ List.mem_cons_self) he hready
  have htire : Path t (((r.withEnemies (before ++ e :: rest)).withParticipants
        (first ++ struck target damage :: last)).pushEvents (blow target e.id damage)) []
      (((r.withEnemies (before ++ tired :: rest)).withParticipants
        (first ++ struck target damage :: last)).pushEvents (blow target e.id damage)) :=
    htired ▸ .silent (.tire rfl hready)
  have hboth := (Path.one hstrike).trans htire
  rw [List.append_nil] at hboth
  exact ⟨⟨_, length_blow target e.id damage, hboth⟩, rfl, htired ▸ rfl⟩

end Assaults

theorem path_actEnemies (t : Nat) (es : List Enemy) (before : List Enemy) (r : Room)
    (ho : r.InOrder) : Assault t before es r (actEnemies t r es) := by
  induction es generalizing before r with
  | nil => exact ⟨⟨[], .refl, Nat.zero_le _⟩, rfl, rfl, fun _ h => h, nofun⟩
  | cons e rest ih =>
    simp only [actEnemies]
    split
    · exact .cons .refl (Nat.zero_le _) rfl rfl (fun h => h) (ih (before ++ [e]) r ho)
    · next halive =>
      split
      · exact .stop .refl (Nat.zero_le _) rfl rfl rfl
      · next target htarget =>
        obtain ⟨hmem, htargetAlive⟩ := mem_of_nearestLivingParticipant htarget
        obtain ⟨hpath, hlength, hsame⟩ :=
          path_approach (t := t) before rest halive hmem htargetAlive
        generalize r.approach e target.position = came at hpath hlength hsame ⊢
        obtain ⟨e₁, events⟩ := came
        dsimp only at hpath hlength hsame ⊢
        have ho₁ : (r.pushEvents events).InOrder := ho
        split
        · exact .cons hpath (by omega) rfl hsame (fun h => h) (ih _ _ ho₁)
        · next hready =>
          simp only [Bool.or_eq_true, decide_eq_true_eq, not_or, Nat.not_lt] at hready
          have halive₁ : e₁.health ≠ 0 := by
            simp only [standing, Prod.mk.injEq] at hsame
            rw [hsame.2.2]
            exact halive
          obtain ⟨⟨blows, hblows, hattack⟩, hfought, hsame'⟩ :=
            path_attack (t := t) (e := e₁) before rest ho₁ hmem htargetAlive halive₁ hready.1
          have hboth := hpath.trans hattack
          have ho₂ := ho₁.congr (SameBattle.attack (r := r.pushEvents events) e₁ target t).audience
          generalize (r.pushEvents events).attack e₁ target t = struck at *
          obtain ⟨e₂, r₂⟩ := struck
          have hcount : (events ++ blows).length ≤ 3 := by
            simp only [List.length_append]
            omega
          dsimp only at *
          split
          · next hdead =>
            exact .stop hboth hcount hfought (hsame'.trans hsame) (by rw [hdead]; rfl)
          · next hlive =>
            refine .cons hboth hcount hfought (hsame'.trans hsame) (fun _ => ?_) (ih _ _ ho₂)
            simpa using hlive

/-! ## Projectiles -/

theorem mem_of_findLivingEnemy {r : Room} {id : EnemyId} {e : Enemy}
    (h : r.findLivingEnemy id = some e) : e ∈ r.enemies ∧ e.health ≠ 0 ∧ e.id = id := by
  obtain ⟨hfound, halive⟩ := Option.filter_eq_some_iff.1 h
  exact ⟨List.mem_of_find?_eq_some hfound, by simpa using halive, by
    simpa using List.find?_some hfound⟩

theorem length_hit (e : Enemy) (actor : PlayerId) (skillId : SkillId) (damage : Nat) :
    (hit e actor skillId damage).2.length ≤ 2 := by
  simp only [hit, List.length_cons]
  split <;> simp

/-- Whether the boss is down after one enemy has been wounded. -/
theorem bossDown_wound {r : Room} {before after : List Enemy} {e e' : Enemy}
    (h : r.enemies = before ++ e :: after) (hr : ¬ r.BossDown) :
    (r.withEnemies (before ++ e' :: after)).BossDown ↔ e'.kind = .boss ∧ e'.health = 0 := by
  constructor
  · rintro ⟨c, hc, hdown⟩
    have hmem : c ∈ before ++ e' :: after := hc
    rcases List.mem_append.1 hmem with hbefore | hrest
    · exact absurd ⟨c, h ▸ List.mem_append_left _ hbefore, hdown⟩ hr
    · rcases List.mem_cons.1 hrest with rfl | hafter
      · exact hdown
      · exact absurd ⟨c, h ▸ List.mem_append_right _ (List.mem_cons_of_mem _ hafter), hdown⟩ hr
  · intro hdown
    exact ⟨e', List.mem_append_right _ List.mem_cons_self, hdown⟩

/-- **The flight of a projectile** `q` between those that have flown and those that follow. -/
structure Flight (t : Nat) (before rest : List Projectile) (q : Projectile) (r : Room)
    (out : ProjectileAdvanceResult × Projectile × Room) : Prop where
  path : ∃ events, Path t (r.withProjectiles (before ++ q :: rest)) events
    (out.2.2.withProjectiles (before ++ ((if out.1 = .active then [out.2.1] else []) ++ rest))) ∧
      events.length ≤ 4
  fought : Fought r out.2.2
  participants : out.2.2.participants = r.participants
  ids : out.2.2.enemies.map (·.id) = r.enemies.map (·.id)
  killed : out.1 = .bossKilled → out.2.2.BossDown
  spared : out.1 ≠ .bossKilled → ¬ r.BossDown → ¬ out.2.2.BossDown

section Flights

variable {t : Nat} {q : Projectile} {r : Room} {target : Enemy} (before rest : List Projectile)

theorem Flight.lost {reason : ProjectileRemovalReason} (hfalls : Falls t r q reason) :
    Flight t before rest q r (.removed, q, r.pushEvents [.projectileRemoved q.id reason]) := by
  have hdrop : Change t (r.withProjectiles (before ++ q :: rest)) [.projectileRemoved q.id reason]
      ((r.withProjectiles (before ++ q :: rest)).withProjectiles (before ++ rest)) := by
    refine .drop rfl ?_
    cases reason with
    | expired => exact hfalls
    | targetLost => exact hfalls
    | hit => exact hfalls
  exact ⟨⟨_, .one hdrop, by simp⟩, rfl, rfl, rfl, nofun, fun _ h => h⟩

def flown (r : Room) (q : Projectile) (target : Enemy) : ArenaPosition :=
  if isWithinRange q.position target.position q.hitRange then q.position
  else r.closer q target.position

/-- The event of a projectile that has moved. -/
def flownEvents (r : Room) (q : Projectile) (target : Enemy) : List BattleEvent :=
  if r.flown q target = q.position then [] else [.projectileMoved q.id (r.flown q target)]

theorem path_fly (htarget : target ∈ r.enemies) (hid : target.id = q.target)
    (halive : target.health ≠ 0) (hlive : t < q.expiresAt) :
    Path t (r.withProjectiles (before ++ q :: rest)) (r.flownEvents q target)
      ((r.pushEvents (r.flownEvents q target)).withProjectiles
        (before ++ { q with position := r.flown q target } :: rest)) ∧
    (r.flownEvents q target).length ≤ 1 := by
  unfold flownEvents
  split
  · next hstays =>
    rw [hstays, pushEvents_nil]
    exact ⟨.refl, Nat.zero_le _⟩
  · next hmoves =>
    have hfar : r.flown q target = r.closer q target.position := by
      unfold flown at hmoves ⊢
      split at hmoves
      · exact absurd rfl hmoves
      · next hrange => exact if_neg hrange
    rw [hfar]
    have hfly : Change t (r.withProjectiles (before ++ q :: rest)) _ _ :=
      .fly rfl htarget hid halive hlive
    exact ⟨.one hfly, Nat.le_refl _⟩

/-- A projectile hits: its target is wounded and it is gone. -/
theorem path_land {first last : List Enemy} (hsplit : r.enemies = first ++ target :: last)
    (hid : target.id = q.target) (halive : target.health ≠ 0) (hlive : t < q.expiresAt) :
    Path t (r.withProjectiles (before ++ q :: rest))
      ((hit target q.owner q.skillId q.damage).2 ++ [.projectileRemoved q.id .hit])
      (((r.withEnemies (first ++ (hit target q.owner q.skillId q.damage).1 :: last)).pushEvents
        ((hit target q.owner q.skillId q.damage).2 ++
          [.projectileRemoved q.id .hit])).withProjectiles (before ++ rest)) := by
  generalize hwounded : hit target q.owner q.skillId q.damage = wounded
  have hwound : Change t (r.withProjectiles (before ++ q :: rest)) wounded.2
      ((r.withProjectiles (before ++ q :: rest)).withEnemies (first ++ wounded.1 :: last)) :=
    hwounded ▸ .wound hsplit halive
  have hdrop : Change t (((r.withProjectiles (before ++ q :: rest)).withEnemies
      (first ++ wounded.1 :: last)).pushEvents wounded.2) [.projectileRemoved q.id .hit] _ :=
    .drop rfl ⟨hlive, target, r.pendingEvents, hid, halive, hwounded ▸ rfl⟩
  have hboth := (Path.one hwound).trans (.one hdrop)
  rw [← pushEvents_append]
  exact hboth

/-- The flight of a projectile that has a target. -/
theorem advanceProjectile_eq (hlive : ¬ q.expiresAt ≤ t)
    (htarget : r.findLivingEnemy q.target = some target) :
    r.advanceProjectile q t =
      if !isWithinRange (r.flown q target) target.position q.hitRange then
        (.active, { q with position := r.flown q target }, r.pushEvents (r.flownEvents q target))
      else
        (if (hit target q.owner q.skillId q.damage).1.health = 0 &&
            (hit target q.owner q.skillId q.damage).1.kind = .boss then .bossKilled else .removed,
          { q with position := r.flown q target },
          ((r.pushEvents (r.flownEvents q target)).withEnemies (r.enemies.map fun e =>
            if e.id = (hit target q.owner q.skillId q.damage).1.id then
              (hit target q.owner q.skillId q.damage).1 else e)).pushEvents
            ((hit target q.owner q.skillId q.damage).2 ++ [.projectileRemoved q.id .hit])) := by
  simp only [advanceProjectile, if_neg hlive, htarget]
  rfl

theorem path_advanceProjectile (hkeys : (r.enemies.map (·.id)).Nodup) :
    Flight t before rest q r (r.advanceProjectile q t) := by
  by_cases hexpired : q.expiresAt ≤ t
  · simp only [advanceProjectile, if_pos hexpired]
    exact .lost before rest hexpired
  cases htarget : r.findLivingEnemy q.target with
  | none =>
    simp only [advanceProjectile, if_neg hexpired, htarget]
    exact .lost before rest ⟨Nat.not_le.1 hexpired, htarget⟩
  | some target =>
    obtain ⟨hmem, halive, htargetId⟩ := mem_of_findLivingEnemy htarget
    have hlive : t < q.expiresAt := Nat.not_le.1 hexpired
    obtain ⟨first, last, hsplit⟩ := List.append_of_mem hmem
    obtain ⟨hfly, hlength⟩ := path_fly before rest hmem htargetId halive hlive
    rw [advanceProjectile_eq hexpired htarget]
    generalize r.flown q target = position at hfly ⊢
    generalize r.flownEvents q target = events at hfly hlength ⊢
    split
    · exact ⟨⟨events, hfly, by omega⟩, rfl, rfl, rfl, (fun h => by cases h), fun _ h => h⟩
    · have hland := path_land (t := t) (q := { q with position := position })
        (r := r.pushEvents events) before rest hsplit htargetId halive hlive
      have hcount := length_hit target q.owner q.skillId q.damage
      have hid : (hit target q.owner q.skillId q.damage).1.id = target.id := rfl
      have hmap : (r.enemies.map fun e =>
          if e.id = target.id then (hit target q.owner q.skillId q.damage).1 else e) =
          first ++ (hit target q.owner q.skillId q.damage).1 :: last := by
        rw [hsplit] at hkeys ⊢
        exact map_ite_key hkeys
      have hids : (first ++ (hit target q.owner q.skillId q.damage).1 :: last).map (·.id) =
          r.enemies.map (·.id) := by
        rw [hsplit]
        exact map_key_replace hid
      have hdown (hr : ¬ r.BossDown) : (r.withEnemies (first ++
          (hit target q.owner q.skillId q.damage).1 :: last)).BossDown ↔ _ :=
        bossDown_wound hsplit hr
      rw [hid, hmap]
      generalize hit target q.owner q.skillId q.damage = wounded at *
      have hboth := hfly.trans hland
      have htotal : (events ++ (wounded.2 ++
          [BattleEvent.projectileRemoved q.id .hit])).length ≤ 4 := by
        simp only [List.length_append, List.length_cons, List.length_nil]
        omega
      split
      · next hkill =>
        refine ⟨⟨_, hboth, htotal⟩, rfl, rfl, hids, fun _ => ?_, fun h => absurd rfl h⟩
        simp only [Bool.and_eq_true, decide_eq_true_eq] at hkill
        exact ⟨wounded.1, List.mem_append_right _ List.mem_cons_self, hkill.2, hkill.1⟩
      · next hspare =>
        refine ⟨⟨_, hboth, htotal⟩, rfl, rfl, hids, (fun h => by cases h), fun _ hr hbad => ?_⟩
        obtain ⟨hkind, hhealth⟩ := (hdown hr).1 hbad
        exact hspare (by simp [hkind, hhealth])

end Flights

/-- **The flight of the projectiles** `qs`, those in `before` having flown. -/
structure Volley (t : Nat) (before qs : List Projectile) (r : Room)
    (out : Bool × Room × List Projectile) : Prop where
  path : ∃ events left, Path t (r.withProjectiles (before ++ qs)) events
    (out.2.1.withProjectiles left) ∧ (out.1 = false → left = before ++ out.2.2) ∧
      events.length ≤ 4 * qs.length
  fought : Fought r out.2.1
  participants : out.2.1.participants = r.participants
  ids : out.2.1.enemies.map (·.id) = r.enemies.map (·.id)
  killed : out.1 = true → out.2.1.BossDown
  spared : out.1 = false → ¬ r.BossDown → ¬ out.2.1.BossDown

/-- One projectile has flown, and the others follow. -/
theorem Volley.cons {t : Nat} {before rest stays : List Projectile} {q q' : Projectile}
    {r r' : Room}
    {verdict : ProjectileAdvanceResult} {out : Bool × Room × List Projectile}
    (hfirst : Flight t before rest q r (verdict, q', r')) (hverdict : verdict ≠ .bossKilled)
    (hstays : (if verdict = .active then [q'] else []) = stays)
    (h : Volley t (before ++ stays) rest r' out) :
    Volley t before (q :: rest) r (out.1, out.2.1, stays ++ out.2.2) := by
  obtain ⟨events, hpath, hcount⟩ := hfirst.path
  obtain ⟨more, left, hmore, hleft, hcount'⟩ := h.path
  simp only [hstays] at hpath
  rw [List.append_assoc] at hmore
  refine ⟨⟨events ++ more, left, hpath.trans hmore, ?_, ?_⟩, hfirst.fought.trans h.fought,
    h.participants.trans hfirst.participants, h.ids.trans hfirst.ids, h.killed, ?_⟩
  · intro hfalse
    rw [hleft hfalse, List.append_assoc]
  · simp only [List.length_append, List.length_cons]
    omega
  · exact fun hfalse hr => h.spared hfalse (hfirst.spared hverdict hr)

theorem path_advanceProjectiles (t : Nat) (qs before : List Projectile) (r : Room)
    (hkeys : (r.enemies.map (·.id)).Nodup) :
    Volley t before qs r (advanceProjectiles t r qs) := by
  induction qs generalizing before r with
  | nil => exact ⟨⟨[], _, .refl, fun _ => rfl, Nat.zero_le _⟩, rfl, rfl, rfl, (fun h => by cases h), fun _ h => h⟩
  | cons q rest ih =>
    have hfirst := path_advanceProjectile (t := t) (q := q) before rest hkeys
    simp only [advanceProjectiles]
    generalize r.advanceProjectile q t = out at hfirst ⊢
    obtain ⟨verdict, q', r'⟩ := out
    have hkeys' : (r'.enemies.map (·.id)).Nodup := by
      rw [hfirst.ids]
      exact hkeys
    cases verdict with
    | active => exact .cons hfirst (fun h => by cases h) rfl (ih (before ++ [q']) r' hkeys')
    | removed => exact .cons hfirst (fun h => by cases h) rfl (by simpa using ih before r' hkeys')
    | bossKilled =>
      obtain ⟨events, hpath, hcount⟩ := hfirst.path
      refine ⟨⟨events, _, hpath, (fun h => by cases h), ?_⟩, hfirst.fought, hfirst.participants, hfirst.ids,
        fun _ => hfirst.killed rfl, (fun h => by cases h)⟩
      simp only [List.length_cons]
      omega

/-! ## Spawns -/

theorem spawnWave_eq {r : Room} (h : r.spawnedWaveCount < r.config.waveCount) (t : Nat) :
    r.spawnWave t = { r with
      nextEnemyId := r.nextEnemyId + r.config.minionsPerWave
      enemies := r.enemies ++ r.wave t
      spawnedWaveCount := r.spawnedWaveCount + 1 }.pushEvents ((r.wave t).map spawned).flatten :=
  if_neg (Nat.not_le.2 h)

theorem length_flatten_spawned (es : List Enemy) :
    ((es.map spawned).flatten).length = 2 * es.length := by
  induction es with
  | nil => rfl
  | cons e es ih =>
    simp only [List.map_cons, List.flatten_cons, List.length_append, ih, List.length_cons, spawned,
      List.length_nil]
    omega

theorem length_wave (r : Room) (t : Nat) : (r.wave t).length = r.config.minionsPerWave := by
  simp only [wave, List.length_map, List.length_range]

theorem kind_of_mem_wave {r : Room} {t : Nat} {e : Enemy} (h : e ∈ r.wave t) :
    e.kind = .minion := by
  obtain ⟨_, -, rfl⟩ := List.mem_map.1 h
  rfl

/-- **Enemies come**, two events for each. -/
structure Reinforced (t : Nat) (r r' : Room) : Prop where
  path : ∃ events, Path t r events r' ∧ events.length + 2 * r.nextEnemyId = 2 * r'.nextEnemyId
  participants : r'.participants = r.participants
  spared : ¬ r.BossDown → ¬ r'.BossDown

namespace Reinforced

variable {t : Nat} {r r' r'' : Room}

theorem refl : Reinforced t r r := ⟨⟨[], .refl, Nat.zero_add _⟩, rfl, fun h => h⟩

theorem trans (h : Reinforced t r r') (h' : Reinforced t r' r'') : Reinforced t r r'' := by
  obtain ⟨events, hpath, hcount⟩ := h.path
  obtain ⟨more, hmore, hcount'⟩ := h'.path
  refine ⟨⟨events ++ more, hpath.trans hmore, ?_⟩, h'.participants.trans h.participants,
    fun hr => h'.spared (h.spared hr)⟩
  simp only [List.length_append]
  omega

/-- One wave, and the time of the next. -/
theorem wave (h : r.spawnedWaveCount < r.config.waveCount) (hdue : r.nextWaveAt ≤ t) :
    Reinforced t r { r.spawnWave t with
      nextWaveAt := (r.spawnWave t).nextWaveAt + (r.spawnWave t).config.waveInterval } := by
  rw [spawnWave_eq h]
  have hwave : Change t r _ _ := .wave h hdue
  refine ⟨⟨_, .one hwave, ?_⟩, rfl, ?_⟩
  · simp only [length_flatten_spawned, length_wave, pushEvents]
    omega
  · rintro hr ⟨e, he, hkind, hdead⟩
    rcases List.mem_append.1 he with hold | hnew
    · exact hr ⟨e, hold, hkind, hdead⟩
    · rw [kind_of_mem_wave hnew] at hkind
      cases hkind

theorem boss (hhealth : r.config.bossHealth ≠ 0) (hboss : r.bossSpawned = false)
    (hdue : r.bossSpawnAt ≤ t)
    (hwaves : r.spawnedWaveCount < r.config.waveCount → t < r.nextWaveAt) :
    Reinforced t r (r.spawnBoss t) := by
  have hspawn : r.spawnBoss t = { r with
      nextEnemyId := r.nextEnemyId + 1
      enemies := r.enemies ++ [r.bossOf t]
      bossSpawned := true }.pushEvents (spawned (r.bossOf t)) := by
    simp only [spawnBoss, hboss]
    rfl
  rw [hspawn]
  refine ⟨⟨_, .one (.boss hboss hdue hwaves), ?_⟩, rfl, ?_⟩
  · simp only [spawned, List.length_cons, List.length_nil, pushEvents]
    omega
  · rintro hr ⟨e, he, hkind, hdead⟩
    rcases List.mem_append.1 he with hold | hnew
    · exact hr ⟨e, hold, hkind, hdead⟩
    · obtain rfl := List.mem_singleton.1 hnew
      exact hhealth hdead

/-- The waves that are due come, and then none is due any more. -/
theorem waves (t left : Nat) (r : Room) :
    Reinforced t r (spawnWaves t left r) ∧
      (r.config.waveCount - r.spawnedWaveCount ≤ left →
        (spawnWaves t left r).spawnedWaveCount < (spawnWaves t left r).config.waveCount →
        t < (spawnWaves t left r).nextWaveAt) := by
  induction left generalizing r with
  | zero =>
    refine ⟨.refl, fun hleft hcount => ?_⟩
    simp only [spawnWaves] at hcount
    omega
  | succ left ih =>
    simp only [spawnWaves]
    split
    · next hdue =>
      simp only [Bool.and_eq_true, decide_eq_true_eq] at hdue
      have hcount : (r.spawnWave t).spawnedWaveCount = r.spawnedWaveCount + 1 := by
        rw [spawnWave_eq hdue.1]
        rfl
      have hconfig : (r.spawnWave t).config = r.config := (SameBattle.spawnWave t).config
      obtain ⟨hrest, hdone⟩ := ih { r.spawnWave t with
        nextWaveAt := (r.spawnWave t).nextWaveAt + (r.spawnWave t).config.waveInterval }
      refine ⟨(wave hdue.1 hdue.2).trans hrest, fun hleft => hdone ?_⟩
      simp only [hcount, hconfig]
      omega
    · next hnot =>
      refine ⟨.refl, fun _ hcount => ?_⟩
      simp only [Bool.and_eq_true, decide_eq_true_eq, not_and] at hnot
      exact Nat.not_le.1 (hnot hcount)

end Reinforced

/-! ## Skills -/

section Skills

variable (c : SkillCastContext) (range : Nat)

def areaHit (e : Enemy) : Enemy :=
  if inArea c range e then (hit e c.participant.playerId c.skillId c.damage).1 else e

def areaEvents (e : Enemy) : List BattleEvent :=
  if inArea c range e then (hit e c.participant.playerId c.skillId c.damage).2 else []

theorem path_areaHits (t : Nat) :
    ∀ (es before : List Enemy) (r : Room), r.enemies = before ++ es →
      Path t r (es.map (areaEvents c range)).flatten
        ((r.withEnemies (before ++ es.map (areaHit c range))).pushEvents
          (es.map (areaEvents c range)).flatten)
  | [], before, r, h => by
    have hsame : r.withEnemies (before ++ []) = r := by
      rw [← h]
      rfl
    simp only [List.map_nil, List.flatten_nil, pushEvents_nil, hsame]
    exact .refl
  | e :: es, before, r, h => by
    by_cases harea : inArea c range e = true
    · have halive : e.health ≠ 0 := by
        simp only [inArea, Bool.and_eq_true, decide_eq_true_eq] at harea
        exact harea.1
      have hevents : areaEvents c range e = _ := if_pos harea
      have hhit : areaHit c range e = _ := if_pos harea
      have hwound : Change t r (areaEvents c range e)
          (r.withEnemies (before ++ areaHit c range e :: es)) := by
        rw [hevents, hhit]
        exact .wound h halive
      have hrest := path_areaHits t es (before ++ [areaHit c range e])
        ((r.withEnemies (before ++ areaHit c range e :: es)).pushEvents (areaEvents c range e))
        (by simp [pushEvents, withEnemies])
      have hboth := (Path.one hwound).trans hrest
      simp only [pushEvents, withEnemies, List.append_assoc, List.singleton_append] at hboth
      exact hboth
    · have hevents : areaEvents c range e = [] := if_neg harea
      have hhit : areaHit c range e = e := if_neg harea
      have hrest := path_areaHits t es (before ++ [e]) r (by simp [h])
      simpa only [List.map_cons, hevents, hhit, List.flatten_cons, List.nil_append,
        List.append_assoc, List.singleton_append] using hrest

theorem length_areaEvents (es : List Enemy) :
    (es.map (areaEvents c range)).flatten.length ≤ 2 * es.length := by
  induction es with
  | nil => exact Nat.zero_le _
  | cons e es ih =>
    have hfirst : (areaEvents c range e).length ≤ 2 := by
      unfold areaEvents
      split
      · exact length_hit _ _ _ _
      · exact Nat.zero_le _
    simp only [List.map_cons, List.flatten_cons, List.length_append, List.length_cons]
    omega

theorem flatten_hits (es : List Enemy) :
    (((es.filter (inArea c range)).map fun e =>
      hit e c.participant.playerId c.skillId c.damage).map (·.2)).flatten =
      (es.map (areaEvents c range)).flatten := by
  induction es with
  | nil => rfl
  | cons e es ih =>
    by_cases harea : inArea c range e = true
    · simp only [List.filter_cons_of_pos harea, List.map_cons, List.flatten_cons, ih, areaEvents,
        if_pos harea]
    · simp only [List.filter_cons_of_neg harea, List.map_cons, List.flatten_cons, ih, areaEvents,
        if_neg harea, List.nil_append]

/-- The boss is down after an area attack exactly if one of the hits killed it. -/
theorem any_hit_iff {r : Room} (hr : ¬ r.BossDown) :
    ((r.enemies.filter (inArea c range)).map fun e =>
      hit e c.participant.playerId c.skillId c.damage).any
        (fun h => h.1.health = 0 && h.1.kind = .boss) = true ↔
      (r.withEnemies (r.enemies.map (areaHit c range))).BossDown := by
  simp only [List.any_eq_true, List.mem_map, List.mem_filter, Bool.and_eq_true, decide_eq_true_eq]
  constructor
  · rintro ⟨_, ⟨e, ⟨he, harea⟩, rfl⟩, hdead, hkind⟩
    have hhit : areaHit c range e = _ := if_pos harea
    exact ⟨areaHit c range e, List.mem_map_of_mem he, by rw [hhit]; exact ⟨hkind, hdead⟩⟩
  · rintro ⟨_, hmem, hkind, hdead⟩
    obtain ⟨e, he, rfl⟩ := List.mem_map.1 hmem
    by_cases harea : inArea c range e = true
    · have hhit : areaHit c range e = _ := if_pos harea
      rw [hhit] at hkind hdead
      exact ⟨_, ⟨e, ⟨he, harea⟩, rfl⟩, hdead, hkind⟩
    · have hhit : areaHit c range e = e := if_neg harea
      rw [hhit] at hkind hdead
      exact absurd ⟨e, he, hkind, hdead⟩ hr

end Skills

/-! ## Commands -/

/-- Those whose ids tell them apart, and a boss that is not yet down. -/
structure Tidy (r : Room) : Prop where
  order : r.InOrder
  keys : (r.enemies.map (·.id)).Nodup
  bossHealth : r.config.bossHealth ≠ 0
  unspawned : r.phase = .waiting → r.spawnedWaveCount = 0
  up : r.phase = .running → ¬ r.BossDown

/-- What a command makes of a running battle before a digest is taken. -/
structure Fray (t : Nat) (r : Room) (events : List BattleEvent) (r' : Room) : Prop where
  path : Path t r events r'
  count : events.length + 2 * r.nextEnemyId ≤
    r.participants.length + 4 * r.projectiles.length + 3 * r.enemies.length + 1 +
      2 * r'.nextEnemyId

/-- No enemy comes, and each has at most two events. -/
theorem Fray.of_few {t : Nat} {r r' : Room} {events : List BattleEvent} (h : Path t r events r')
    (hnext : r'.nextEnemyId = r.nextEnemyId) (hcount : events.length ≤ 2 * r.enemies.length + 1) :
    Fray t r events r' := by
  refine ⟨h, ?_⟩
  rw [hnext]
  omega

/-- Neither side has won. -/
structure Undecided (r r' : Room) : Prop where
  alive : r.allParticipantsDead = false → r'.allParticipantsDead = false
  up : ¬ r'.BossDown

/-- No wave is due any more, and neither is the boss. -/
structure UpToDate (t : Nat) (r : Room) : Prop where
  waves : r.spawnedWaveCount < r.config.waveCount → t < r.nextWaveAt
  boss : r.bossSpawned = false → t < r.bossSpawnAt

/-- The Room at the start of its battle, before the first wave. -/
def opened (r : Room) (t : Nat) : Room :=
  { r with
    phase := .running
    battleDeadlineAt := t + r.config.battleDuration
    nextWaveAt := if 0 < r.config.waveCount then t else t + r.config.waveInterval
    bossSpawnAt := t + r.config.bossSpawnAfter }.initializeArena

def newcomer (player : PlayerId) (stats : CombatStats) (skill : SkillId) : Participant where
  playerId := player
  stats := stats
  equippedSkillId := skill
  currentHealth := stats.health

/-- **What a command does.** It is refused, or someone comes or goes, or a battle begins, goes
on or ends. -/
inductive Handled (t : Nat) (r : Room) : RoomCommand → RoomResult × Room → Prop where
  | refused {command : RoomCommand} {status : RoomCommandStatus} {player : Option PlayerId} :
      status ≠ .applied → Handled t r command (r.baseResult status player, r)
  | joined {player : PlayerId} {stats : CombatStats} {skill : SkillId} {r' : Room} :
      r.phase = .waiting → r.findParticipant player = none →
      r.participants.length < r.config.maxParticipants →
      r' = r.withParticipant (newcomer player stats skill) →
      Handled t r (.joinRoom player stats skill) (r'.baseResult .applied (some player), r')
  | left {player : PlayerId} {r' : Room} :
      r.phase = .waiting → (r.findParticipant player).isSome = true →
      r' = r.withoutParticipant player →
      Handled t r (.leaveRoom player) (r'.baseResult .applied (some player), r')
  | emptied {player : PlayerId} {r' : Room} :
      r.phase = .running → (r.findParticipant player).isSome = true →
      (r.withoutParticipant player).participants = [] →
      r' = { r.withoutParticipant player with pendingEvents := [], projectiles := [] } →
      Handled t r (.leaveRoom player) (r'.baseResult .applied (some player), r')
  | parted {player : PlayerId} {r' : Room} :
      r.phase = .running → (r.findParticipant player).isSome = true →
      (r.withoutParticipant player).participants ≠ [] →
      r' = (r.withoutParticipant player).pushEvents [.participantLeft player] →
      r'.allParticipantsDead = false →
      Handled t r (.leaveRoom player)
        ({ r'.baseResult .applied (some player) with
          digest := r'.takeDigest.1, audience := r'.takeDigest.2.audience }, r'.takeDigest.2)
  | deserted {player : PlayerId} {r' : Room} :
      r.phase = .running → (r.findParticipant player).isSome = true →
      (r.withoutParticipant player).participants ≠ [] →
      r' = (r.withoutParticipant player).pushEvents [.participantLeft player] →
      r'.allParticipantsDead = true →
      Handled t r (.leaveRoom player)
        (r'.failBattle .applied (some player) .participantsDefeated)
  | began {r' : Room} :
      r.canStartBattle = true → Reinforced t (r.opened t) r' →
      Handled t r .startBattle (r'.withDigest { r'.baseResult .applied none with
        deadlineAfter := some r'.config.battleDuration
        tickAfter := some r'.config.tickInterval })
  | noted {command : RoomCommand} {player : PlayerId} {r' : Room} :
      r.phase = .running → t < r.battleDeadlineAt → Fray t r [] r' →
      r'.nextEnemyId = r.nextEnemyId → Undecided r r' →
      Handled t r command (r'.baseResult .applied (some player), r')
  | cast {command : RoomCommand} {player : PlayerId} {events : List BattleEvent} {r' : Room} :
      r.phase = .running → t < r.battleDeadlineAt → Fray t r events r' →
      r'.nextEnemyId = r.nextEnemyId → Undecided r r' →
      Handled t r command (r'.finishSkillUse player)
  | ticked {events : List BattleEvent} {r' : Room} :
      r.phase = .running → t < r.battleDeadlineAt → Fray t r events r' → Undecided r r' →
      UpToDate t r' →
      Handled t r .simulationTick (r'.withDigest { r'.baseResult .applied none with
        tickAfter := some r'.config.tickInterval })
  | won {command : RoomCommand} {player : Option PlayerId} {events : List BattleEvent}
      {r' : Room} :
      r.phase = .running → t < r.battleDeadlineAt → Fray t r events r' → r'.BossDown →
      Handled t r command (r'.clearBattle player)
  | lost {events : List BattleEvent} {r' : Room} :
      r.phase = .running → t < r.battleDeadlineAt → Fray t r events r' → ¬ r'.BossDown →
      r'.allParticipantsDead = true →
      Handled t r .simulationTick (r'.failBattle .applied none .participantsDefeated)
  | expired {command : RoomCommand} {status : RoomCommandStatus} {player : Option PlayerId} :
      r.phase = .running → r.battleDeadlineAt ≤ t →
      Handled t r command (r.failBattle status player .deadline)

/-! ## Ticks -/

section Ticks

variable {t : Nat} {r : Room}

/-- Burying the dead and walking hurts nobody. -/
theorem allParticipantsDead_moveParticipants (r : Room) :
    r.moveParticipants.allParticipantsDead = r.allParticipantsDead := by
  simp only [allParticipantsDead, moveParticipants, pushEvents, List.all_map, List.isEmpty_map]
  rfl

theorem bossDown_of_standing {r r' : Room}
    (h : r'.enemies.map standing = r.enemies.map standing) : r'.BossDown ↔ r.BossDown := by
  have hdown (r : Room) : r.BossDown ↔ ∃ s ∈ r.enemies.map standing, s.2 = (.boss, 0) := by
    constructor
    · rintro ⟨e, he, hkind, hdead⟩
      exact ⟨standing e, List.mem_map_of_mem he, by simp [standing, hkind, hdead]⟩
    · rintro ⟨_, hs, hboss⟩
      obtain ⟨e, he, rfl⟩ := List.mem_map.1 hs
      simp only [standing, Prod.mk.injEq] at hboss
      exact ⟨e, he, hboss⟩
  rw [hdown, hdown, h]

/-- **The first half of a tick**: the dead are erased, the participants walk and the
projectiles fly. -/
structure Opening (t : Nat) (r : Room) (out : Bool × Room × List Projectile) : Prop where
  path : ∃ events left, Path t r events (out.2.1.withProjectiles left) ∧
    (out.1 = false → left = out.2.2) ∧
    events.length ≤ r.participants.length + 4 * r.projectiles.length
  fought : Fought r out.2.1
  audience : out.2.1.audience = r.audience
  alive : out.2.1.allParticipantsDead = r.allParticipantsDead
  enemies : out.2.1.enemies.length ≤ r.enemies.length
  killed : out.1 = true → out.2.1.BossDown
  spared : out.1 = false → ¬ out.2.1.BossDown

theorem opening (hr : r.Tidy) (hphase : r.phase = .running) {buried : Room}
    (hburied : r.withEnemies (r.enemies.filter (·.health ≠ 0)) = buried) :
    Opening t r (advanceProjectiles t buried.moveParticipants
      buried.moveParticipants.projectiles) := by
  have hbury : Path t r [] buried := hburied ▸ .silent (.bury (hr.up hphase))
  obtain ⟨walks, hwalks, hwalked⟩ := path_moveParticipants t buried
  have hkeys : (buried.moveParticipants.enemies.map (·.id)).Nodup := by
    rw [← hburied]
    exact hr.keys.sublist (List.filter_sublist.map _)
  have hup : ¬ buried.moveParticipants.BossDown := by
    rw [← hburied]
    rintro ⟨e, he, hboss⟩
    exact hr.up hphase ⟨e, (List.mem_filter.1 he).1, hboss⟩
  have hfought : Fought r buried.moveParticipants := by
    rw [← hburied]
    rfl
  have hvolley := path_advanceProjectiles t buried.moveParticipants.projectiles []
    buried.moveParticipants hkeys
  generalize Room.advanceProjectiles t buried.moveParticipants _ = out at hvolley ⊢
  obtain ⟨flights, left, hflights, hleft, hcount⟩ := hvolley.path
  have hseats : out.2.1.audience = buried.moveParticipants.audience := by
    unfold audience
    rw [hvolley.participants]
  have halive : out.2.1.allParticipantsDead = buried.moveParticipants.allParticipantsDead := by
    unfold allParticipantsDead
    rw [hvolley.participants]
  have hsize : out.2.1.enemies.length = buried.moveParticipants.enemies.length := by
    simpa using congrArg List.length hvolley.ids
  refine ⟨⟨[] ++ walks ++ flights, left, (hbury.trans hwalks).trans hflights, hleft, ?_⟩,
    hfought.trans hvolley.fought, ?_, ?_, ?_, hvolley.killed, fun h => hvolley.spared h hup⟩
  · have hparticipants : buried.participants = r.participants := by
      rw [← hburied]
      rfl
    have hprojectiles : buried.moveParticipants.projectiles = r.projectiles := by
      rw [← hburied]
      rfl
    rw [hparticipants] at hwalked
    rw [hprojectiles] at hcount
    simp only [List.nil_append, List.length_append]
    omega
  · rw [hseats, SameBattle.moveParticipants.audience, ← hburied]
    rfl
  · rw [halive, allParticipantsDead_moveParticipants, ← hburied]
    rfl
  · rw [hsize, ← hburied]
    exact List.length_filter_le _ _

/-- The waves that are due, and the boss if it is. -/
def reinforce (t : Nat) (r : Room) : Room :=
  let r := spawnWaves t (r.config.waveCount - r.spawnedWaveCount) r
  if !r.bossSpawned && t ≥ r.bossSpawnAt then r.spawnBoss t else r

/-- The end of a tick, after the enemies have acted. -/
def afterAssault (t : Nat) (out : Bool × Room × List Enemy) : RoomResult × Room :=
  if !out.1 then (out.2.1.withEnemies out.2.2).failBattle .applied none .participantsDefeated
  else
    let r := reinforce t (out.2.1.withEnemies out.2.2)
    r.withDigest { r.baseResult .applied none with tickAfter := some r.config.tickInterval }

/-- The rest of a tick, after the projectiles have flown. -/
def afterFlight (t : Nat) (out : Bool × Room × List Projectile) : RoomResult × Room :=
  if out.1 then (out.2.1.withProjectiles out.2.2).clearBattle none
  else afterAssault t (actEnemies t (out.2.1.withProjectiles out.2.2) out.2.1.enemies)

theorem simulationTick_eq (hphase : r.phase = .running) (hearly : t < r.battleDeadlineAt) :
    r.simulationTick t = afterFlight t (advanceProjectiles t
      (r.withEnemies (r.enemies.filter (·.health ≠ 0))).moveParticipants
      (r.withEnemies (r.enemies.filter (·.health ≠ 0))).moveParticipants.projectiles) := by
  unfold Room.simulationTick
  rw [if_neg (not_not.2 hphase), if_neg (Nat.not_le.2 hearly)]
  rfl

theorem upToDate_reinforce (t : Nat) (r : Room) : UpToDate t (reinforce t r) := by
  obtain ⟨-, hdone⟩ := Reinforced.waves t (r.config.waveCount - r.spawnedWaveCount) r
  have hdone := hdone (Nat.le_refl _)
  unfold reinforce
  generalize spawnWaves t (r.config.waveCount - r.spawnedWaveCount) r = waved at *
  dsimp only
  split
  · next hdue =>
    simp only [Bool.and_eq_true, Bool.not_eq_true', decide_eq_true_eq] at hdue
    simp only [spawnBoss, hdue.1]
    exact ⟨hdone, (fun h => by cases h)⟩
  · next hdue =>
    simp only [Bool.and_eq_true, Bool.not_eq_true', decide_eq_true_eq, not_and] at hdue
    exact ⟨hdone, fun hnone => Nat.not_le.1 (hdue hnone)⟩

theorem reinforced (hboss : r.config.bossHealth ≠ 0) : Reinforced t r (reinforce t r) := by
  obtain ⟨hwaves, hdone⟩ := Reinforced.waves t (r.config.waveCount - r.spawnedWaveCount) r
  have hconfig : (spawnWaves t (r.config.waveCount - r.spawnedWaveCount) r).config = r.config :=
    (SameBattle.spawnWaves t _).config
  unfold reinforce
  generalize spawnWaves t (r.config.waveCount - r.spawnedWaveCount) r = waved at *
  dsimp only
  split
  · next hdue =>
    simp only [Bool.and_eq_true, Bool.not_eq_true', decide_eq_true_eq] at hdue
    exact hwaves.trans (.boss (hconfig ▸ hboss) hdue.1 hdue.2 (hdone (Nat.le_refl _)))
  · exact hwaves

end Ticks

namespace Handled

variable {t : Nat} {r : Room}

theorem joinRoom {player : PlayerId} {stats : CombatStats} {skill : SkillId} :
    Handled t r (.joinRoom player stats skill) (r.joinRoom player stats skill) := by
  unfold Room.joinRoom
  split
  · exact .refused nofun
  · next hphase =>
    split
    · exact .refused nofun
    · next hfound =>
      split
      · exact .refused nofun
      · next hfull =>
        exact .joined (not_not.1 hphase) (by simpa using hfound) (Nat.not_le.1 hfull) rfl

theorem leaveRoom {player : PlayerId} : Handled t r (.leaveRoom player) (r.leaveRoom player) := by
  simp only [Room.leaveRoom]
  split
  · exact .refused (fun h => by cases h)
  · next hover =>
    split
    · exact .refused (fun h => by cases h)
    · next hfound =>
      have hsome : (r.findParticipant player).isSome = true := by
        simpa [Option.isNone_iff_eq_none, Option.isSome_iff_ne_none] using hfound
      split
      · next hphase =>
        refine .left ?_ hsome rfl
        cases hp : r.phase <;> simp_all
      · next hphase =>
        have hphase : r.phase = .running := not_not.1 hphase
        split
        · next hempty => exact .emptied hphase hsome (List.isEmpty_iff.1 hempty) rfl
        · next hempty =>
          have hsomebody : (r.withoutParticipant player).participants ≠ [] := by
            intro hnil
            exact hempty (List.isEmpty_iff.2 hnil)
          split
          · next hdead => exact .deserted hphase hsome hsomebody rfl hdead
          · next halive =>
            exact .parted hphase hsome hsomebody rfl (Bool.eq_false_of_not_eq_true halive)

theorem startBattle (hr : r.Tidy) : Handled t r .startBattle (r.startBattle t) := by
  simp only [Room.startBattle]
  split
  · exact .refused (fun h => by cases h)
  · next hcan =>
    have hcan : r.canStartBattle = true := by simpa using hcan
    have hzero : r.spawnedWaveCount = 0 := by
      simp only [canStartBattle, Bool.and_eq_true, decide_eq_true_eq] at hcan
      exact hr.unspawned hcan.1
    refine .began hcan ?_
    by_cases hwaves : 0 < r.config.waveCount
    · have hdue : (r.opened t).spawnedWaveCount < (r.opened t).config.waveCount := by
        simp only [opened, initializeArena, pushEvents, hzero]
        exact hwaves
      have hroom : { (r.opened t).spawnWave t with
          nextWaveAt := ((r.opened t).spawnWave t).nextWaveAt +
            ((r.opened t).spawnWave t).config.waveInterval } =
          ({ r with
            phase := .running
            battleDeadlineAt := t + r.config.battleDuration
            nextWaveAt := t + r.config.waveInterval
            bossSpawnAt := t + r.config.bossSpawnAfter } : Room).initializeArena.spawnWave t := by
        rw [spawnWave_eq hdue, spawnWave_eq (by exact hdue)]
        simp only [opened, if_pos hwaves]
        rfl
      rw [← hroom]
      refine .wave hdue ?_
      simp only [opened, initializeArena, pushEvents, if_pos hwaves]
      exact Nat.le_refl t
    · have hsame : ({ r with
          phase := .running
          battleDeadlineAt := t + r.config.battleDuration
          nextWaveAt := t + r.config.waveInterval
          bossSpawnAt := t + r.config.bossSpawnAfter } : Room).initializeArena = r.opened t := by
        simp only [opened, if_neg hwaves]
      rw [hsame]
      have hnone : (r.opened t).spawnWave t = r.opened t := by
        refine if_pos ?_
        simp only [opened, initializeArena, pushEvents]
        omega
      rw [hnone]
      exact .refl

variable {c : SkillCastContext}

theorem path_commit (hr : r.InOrder) (hc : c.participant ∈ r.participants) :
    Path t r [] (r.commitSkillUse c) ∧
      (r.commitSkillUse c).allParticipantsDead = r.allParticipantsDead :=
  path_adjust hr hc rfl rfl rfl rfl

/-- The participant once the use of the skill is noted. -/
def caster (c : SkillCastContext) : Participant :=
  { c.participant with
    cooldowns := setCooldown ⟨c.skillId, c.observedAt + c.cooldown⟩ c.participant.cooldowns
    appliedSkillSequence := c.requestSequence }

theorem mem_commitSkillUse (hc : c.participant ∈ r.participants) :
    caster c ∈ (r.commitSkillUse c).participants :=
  List.mem_map.2 ⟨c.participant, hc, if_pos rfl⟩

theorem applyAreaAttack {command : RoomCommand} {range : Nat} (hr : r.Tidy)
    (hphase : r.phase = .running) (hearly : t < r.battleDeadlineAt)
    (hc : c.participant ∈ r.participants) (hactor : c.participant.currentHealth ≠ 0) :
    Handled t r command (r.applyAreaAttack c range) := by
  obtain ⟨hcommit, hlive⟩ := path_commit (t := t) hr.order hc
  have hdown : ¬ (r.commitSkillUse c).BossDown := hr.up hphase
  have hhits := path_areaHits c range t (r.commitSkillUse c).enemies [] _ rfl
  have hboth := hcommit.trans hhits
  have hlength := length_areaEvents c range (r.commitSkillUse c).enemies
  have hkilled := any_hit_iff c range hdown
  have halive : ((r.commitSkillUse c).withEnemies
      ((r.commitSkillUse c).enemies.map (areaHit c range))).allParticipantsDead =
      r.allParticipantsDead := hlive
  simp only [Room.applyAreaAttack, flatten_hits]
  have hroom : ({ r.commitSkillUse c with
      enemies := (r.commitSkillUse c).enemies.map fun enemy =>
        if inArea c range enemy then (hit enemy c.participant.playerId c.skillId c.damage).1
        else enemy } : Room) = (r.commitSkillUse c).withEnemies
      ((r.commitSkillUse c).enemies.map (areaHit c range)) := rfl
  rw [hroom]
  generalize ((r.commitSkillUse c).enemies.map (areaEvents c range)).flatten = events at *
  have hcount : events.length ≤ 2 * r.enemies.length := hlength
  split
  · next hempty =>
    have hwhiff : Path t r (events ++ [.skillWhiffed c.participant.playerId c.skillId]) _ :=
      hboth.step (.whiff (p := caster c) (mem_commitSkillUse hc) hactor)
    refine .cast hphase hearly (.of_few hwhiff rfl ?_) rfl
      ⟨fun h => halive.trans h, fun hbad => ?_⟩
    · rw [List.length_append]
      exact Nat.add_le_add_right hcount 1
    · have hany := hkilled.2 hbad
      rw [List.isEmpty_iff.1 hempty] at hany
      cases hany
  · have hfray : Fray t r events _ := .of_few hboth rfl (Nat.le_succ_of_le hcount)
    split
    · next hkill => exact .won hphase hearly hfray (hkilled.1 hkill)
    · next hspare =>
      exact .cast hphase hearly hfray rfl
        ⟨fun h => halive.trans h, fun hbad => hspare (hkilled.2 hbad)⟩

theorem spawnHomingProjectile {command : RoomCommand} {range speed hitRange lifetime : Nat}
    (hr : r.Tidy) (hphase : r.phase = .running) (hearly : t < r.battleDeadlineAt)
    (hc : c.participant ∈ r.participants) (hactor : c.participant.currentHealth ≠ 0) :
    Handled t r command (r.spawnHomingProjectile c range speed hitRange lifetime) := by
  obtain ⟨hcommit, hlive⟩ := path_commit (t := t) hr.order hc
  have hdown : ¬ (r.commitSkillUse c).BossDown := hr.up hphase
  have hone : 1 ≤ 2 * r.enemies.length + 1 := Nat.le_add_left _ _
  simp only [Room.spawnHomingProjectile]
  split
  · have hwhiff : Path t r ([] ++ [.skillWhiffed c.participant.playerId c.skillId]) _ :=
      hcommit.step (.whiff (p := caster c) (mem_commitSkillUse hc) hactor)
    exact .cast hphase hearly (.of_few hwhiff rfl hone) rfl ⟨fun h => hlive.trans h, hdown⟩
  · next target htarget =>
    split
    · exact .refused (fun h => by cases h)
    · next hroom =>
      simp only [Bool.or_eq_true, decide_eq_true_eq, not_or, Nat.not_le] at hroom
      obtain ⟨hmem, hstanding⟩ := mem_of_findTargetEnemy htarget
      let q : Projectile :=
        { id := (r.commitSkillUse c).nextProjectileId, owner := c.participant.playerId
          skillId := c.skillId, target := target.id, position := c.participant.position
          speedPerTick := speed, hitRange := hitRange, damage := c.damage
          expiresAt := c.observedAt + lifetime }
      have hlaunch : Change t (r.commitSkillUse c) _ _ :=
        .launch (q := q) (mem_commitSkillUse hc) rfl hroom.2 rfl hroom.1 hactor rfl hmem rfl
          hstanding
      exact .cast hphase hearly (.of_few (hcommit.step hlaunch) rfl hone) rfl
        ⟨fun h => hlive.trans h, hdown⟩

theorem useSkill {player : PlayerId} {skillId : SkillId} {sequence : Nat} (hr : r.Tidy) :
    Handled t r (.useSkill player skillId sequence) (r.useSkill player skillId sequence t) := by
  simp only [Room.useSkill]
  split
  · exact .refused (fun h => by cases h)
  · next hphase =>
    have hphase : r.phase = .running := not_not.1 hphase
    split
    · next hlate => exact .expired hphase hlate
    · next hearly =>
      have hearly : t < r.battleDeadlineAt := Nat.not_le.1 hearly
      split
      · exact .refused (fun h => by cases h)
      · next p hp =>
        have hmem := (mem_of_findParticipant hp).1
        split
        · exact .refused (fun h => by cases h)
        · split
          · exact .refused (fun h => by cases h)
          · next hactor =>
            split
            · exact .refused (fun h => by cases h)
            · split
              · exact .refused (fun h => by cases h)
              · split
                · exact .refused (fun h => by cases h)
                · split
                  · exact applyAreaAttack hr hphase hearly hmem hactor
                  · exact spawnHomingProjectile hr hphase hearly hmem hactor

theorem setMoveIntent {player : PlayerId} {direction : MoveDirection} {sequence : Nat}
    (hr : r.Tidy) :
    Handled t r (.setMoveIntent player direction sequence)
      (r.setMoveIntent player direction sequence t) := by
  simp only [Room.setMoveIntent]
  split
  · exact .refused (fun h => by cases h)
  · next hphase =>
    have hphase : r.phase = .running := not_not.1 hphase
    split
    · next hlate => exact .expired hphase hlate
    · next hearly =>
      split
      · exact .refused (fun h => by cases h)
      · next p hp =>
        split
        · exact .refused (fun h => by cases h)
        · split
          · exact .refused (fun h => by cases h)
          · have hnoted : Path t r [] (r.setParticipant
                  { p with appliedMovementSequence := sequence, moveIntent := direction }) ∧
                (r.setParticipant { p with
                  appliedMovementSequence := sequence
                  moveIntent := direction }).allParticipantsDead = r.allParticipantsDead :=
              path_adjust hr.order (mem_of_findParticipant hp).1 rfl rfl rfl rfl
            obtain ⟨hpath, hlive⟩ := hnoted
            exact .noted hphase (Nat.not_le.1 hearly) (.of_few hpath rfl (Nat.zero_le _)) rfl
              ⟨fun h => hlive.trans h, hr.up hphase⟩

variable {events : List BattleEvent}

theorem afterAssault {alive : Bool} {fighting : Room} {enemies : List Enemy}
    (hboss : r.config.bossHealth ≠ 0) (hphase : r.phase = .running)
    (hearly : t < r.battleDeadlineAt) (hpath : Path t r events (fighting.withEnemies enemies))
    (hcount : events.length ≤
      r.participants.length + 4 * r.projectiles.length + 3 * r.enemies.length)
    (hfought : Fought r fighting) (hup : ¬ (fighting.withEnemies enemies).BossDown)
    (hdead : alive = false → fighting.allParticipantsDead = true)
    (hlive : alive = true → r.allParticipantsDead = false → fighting.allParticipantsDead = false) :
    Handled t r .simulationTick (Room.afterAssault t (alive, fighting, enemies)) := by
  have hnext : (fighting.withEnemies enemies).nextEnemyId = r.nextEnemyId := by
    rw [hfought]
    rfl
  have hconfig : (fighting.withEnemies enemies).config = r.config := by
    rw [hfought]
    rfl
  simp only [Room.afterAssault]
  split
  · next hover =>
    refine .lost hphase hearly ⟨hpath, ?_⟩ hup (hdead (by simpa using hover))
    rw [hnext]
    omega
  · next hon =>
    have hon : alive = true := by simpa using hon
    have hspawned := reinforced (t := t) (r := fighting.withEnemies enemies) (hconfig ▸ hboss)
    obtain ⟨more, hmore, hcount'⟩ := hspawned.path
    rw [hnext] at hcount'
    refine .ticked hphase hearly ⟨hpath.trans hmore, ?_⟩ ⟨fun hr => ?_, hspawned.spared hup⟩
      (upToDate_reinforce t _)
    · simp only [List.length_append]
      omega
    · have hsame : (reinforce t (fighting.withEnemies enemies)).allParticipantsDead =
          fighting.allParticipantsDead := by
        unfold allParticipantsDead
        rw [hspawned.participants]
        rfl
      rw [hsame]
      exact hlive hon hr

theorem afterFlight {out : Bool × Room × List Projectile} (hr : r.Tidy)
    (hphase : r.phase = .running) (hearly : t < r.battleDeadlineAt) (h : Opening t r out) :
    Handled t r .simulationTick (Room.afterFlight t out) := by
  obtain ⟨killed, flying, projectiles⟩ := out
  obtain ⟨⟨events, left, hpath, hleft, hcount⟩, hfought, haudience, halive, henemies, hkilled,
    hspared⟩ := h
  dsimp only at *
  cases killed with
  | true =>
    have hnext : (flying.withProjectiles left).nextEnemyId = r.nextEnemyId := by
      rw [hfought]
      rfl
    have hfray : Fray t r events (flying.withProjectiles left) := by
      refine ⟨hpath, ?_⟩
      rw [hnext]
      omega
    -- the projectile that killed the boss is still listed, and is cleared with the others
    show Handled t r .simulationTick ((flying.withProjectiles left).clearBattle none)
    exact .won hphase hearly hfray (hkilled rfl)
  | false =>
    obtain rfl := hleft rfl
    have horder : (flying.withProjectiles left).InOrder := hr.order.congr haudience
    have hassault := path_actEnemies t flying.enemies [] (flying.withProjectiles left) horder
    show Handled t r .simulationTick
      (Room.afterAssault t (Room.actEnemies t (flying.withProjectiles left) flying.enemies))
    generalize Room.actEnemies t (flying.withProjectiles left) flying.enemies = out at hassault ⊢
    obtain ⟨alive, fighting, enemies⟩ := out
    obtain ⟨⟨blows, hblows, hstruck⟩, hfought', hstanding, hlive, hdead⟩ := hassault
    have hflew : Fought flying (flying.withProjectiles left) := rfl
    refine afterAssault hr.bossHealth hphase hearly (hpath.trans hblows) ?_
      ((hfought.trans hflew).trans hfought') ?_ hdead ?_
    · simp only [List.length_append]
      omega
    · rw [bossDown_of_standing (r := flying) hstanding]
      exact hspared rfl
    · exact fun hon h => hlive hon (halive.trans h)

theorem simulationTick (hr : r.Tidy) : Handled t r .simulationTick (r.simulationTick t) := by
  by_cases hphase : r.phase = .running
  · by_cases hearly : t < r.battleDeadlineAt
    · rw [simulationTick_eq hphase hearly]
      exact afterFlight hr hphase hearly (opening hr hphase rfl)
    · unfold Room.simulationTick
      rw [if_neg (not_not.2 hphase), if_pos (Nat.not_lt.1 hearly)]
      exact .expired hphase (Nat.not_lt.1 hearly)
  · unfold Room.simulationTick
    rw [if_pos hphase]
    exact .refused nofun

theorem battleDeadline : Handled t r .battleDeadline (r.battleDeadline t) := by
  simp only [Room.battleDeadline]
  split
  · exact .refused (fun h => by cases h)
  · next h =>
    simp only [Bool.or_eq_true, decide_eq_true_eq, not_or, not_not, Nat.not_lt] at h
    exact .expired h.1 h.2

end Handled

theorem handled {r : Room} (hr : r.Tidy) (command : RoomCommand) (t : Nat) :
    Handled t r command (r.handle command t) := by
  cases command with
  | joinRoom player stats skill => exact .joinRoom
  | leaveRoom player => exact .leaveRoom
  | startBattle => exact .startBattle hr
  | useSkill player skill sequence => exact .useSkill hr
  | battleDeadline => exact .battleDeadline
  | simulationTick => exact .simulationTick hr
  | setMoveIntent player direction sequence => exact .setMoveIntent hr

end Snf.Game.Room
