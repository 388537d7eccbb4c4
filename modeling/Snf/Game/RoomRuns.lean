import Snf.Lib.Machine
import Snf.Game.Battle

/-! # Runs of a Room

A Room takes commands at the times at which they are observed, and its results are kept. The
constructor admits only configurations that satisfy its checks; from these the invariant of a
battle follows: who is where in which order, how many enemies have come and which id the next
one gets, and that every wave comes before the boss.
-/

namespace Snf.Game

open Snf.Lib

/-! ## Configurations -/

/-- What the checks of the constructor leave of the configurations. -/
structure RoomConfig.Valid (c : RoomConfig) : Prop where
  maxParticipants : 0 < c.maxParticipants
  bossHealth : c.bossHealth ≠ 0
  minionHealth : c.minionHealth ≠ 0
  maxSpawnedEnemies : c.maxSpawnedEnemies ≤ RoomConfig.maxUInt32
  maxActiveProjectiles : c.maxActiveProjectiles ≤ RoomConfig.maxUInt32
  digestFlushThreshold : 0 < c.digestFlushThreshold
  waves : c.waveCount = 0 ↔ c.minionsPerWave = 0
  enemies : c.waveCount * c.minionsPerWave + 1 ≤ c.maxSpawnedEnemies
  bossAfterWaves : (c.waveCount - 1) * c.waveInterval ≤ c.bossSpawnAfter
  width : 0 < c.arenaWidth ∧ c.arenaWidth ≤ RoomConfig.maxArenaExtent
  height : 0 < c.arenaHeight ∧ c.arenaHeight ≤ RoomConfig.maxArenaExtent
  radiusX : c.minionSpawnRadius ≤ c.arenaWidth / 2 ∧
    c.minionSpawnRadius ≤ c.arenaWidth - 1 - c.arenaWidth / 2
  radiusY : c.minionSpawnRadius ≤ c.arenaHeight / 2 ∧
    c.minionSpawnRadius ≤ c.arenaHeight - 1 - c.arenaHeight / 2
  formation : c.participantSpawnSpacing * (c.maxParticipants - 1) / 2 ≤ c.arenaWidth / 2 ∧
    c.arenaWidth / 2 - c.participantSpawnSpacing * (c.maxParticipants - 1) / 2 +
      c.participantSpawnSpacing * (c.maxParticipants - 1) < c.arenaWidth
  waveInterval : 0 < c.waveInterval

theorem RoomConfig.valid_of_checks {room : RoomId} {c : RoomConfig}
    (h : ∀ check ∈ c.checks room, check.1 = false) : c.Valid := by
  simp only [RoomConfig.checks, List.forall_mem_cons, Bool.or_eq_false_iff, Bool.and_eq_false_imp,
    decide_eq_false_iff_not, decide_eq_true_eq, bne_eq_false_iff_eq, decide_eq_decide] at h
  obtain ⟨-, -, hseats, hboss, -, hinterval, hminion, -, hspawned, hprojectiles, hflush, hwaves, -,
    htotal, hlast, harena, -, -, -, -, hradius, -, hformation, -⟩ := h
  refine ⟨by omega, hboss, hminion, by omega, by omega, by omega, hwaves, by omega, ?_, by omega,
    by omega, by omega, by omega, by omega, by omega⟩
  rcases Nat.lt_or_ge 1 c.waveCount with hmany | hfew
  · have hle : c.waveCount - 1 ≤ c.bossSpawnAfter / c.waveInterval := Nat.not_lt.1 (hlast hmany)
    exact (Nat.le_div_iff_mul_le (Nat.pos_of_ne_zero hinterval)).1 hle
  · have hzero : c.waveCount - 1 = 0 := by omega
    rw [hzero, Nat.zero_mul]
    exact Nat.zero_le _

theorem Room.create_eq {room : RoomId} {c : RoomConfig} {r : Room}
    (h : Room.create room c = .ok r) : c.Valid ∧ r = { id := room, config := c } := by
  unfold Room.create at h
  split at h
  · cases h
  · next hnone =>
    have hchecks : ∀ check ∈ c.checks room, check.1 = false := by
      intro check hcheck
      exact Bool.eq_false_of_not_eq_true (List.find?_eq_none.1 hnone check hcheck)
    exact ⟨RoomConfig.valid_of_checks hchecks, (Except.ok.inj h).symm⟩

/-! ## The machine -/

/-- A Room and the results of its commands, the latest first. -/
structure RoomRun where
  room : Room
  results : List RoomResult := []
deriving DecidableEq, Repr

/-- A command with the time at which it is observed. -/
abbrev RoomInput := RoomCommand × Nat

def roomMachine (room : RoomId) (config : RoomConfig) : Machine RoomRun RoomInput where
  init s := Room.create room config = .ok s.room ∧ s.results = []
  step s input :=
    let out := s.room.handle input.1 input.2
    some { room := out.2, results := out.1 :: s.results }

def RoomCommand.isHealthy : RoomCommand → Bool
  | .joinRoom _ stats _ => stats.health ≠ 0
  | _ => true

/-- Those who join are alive. -/
def healthyJoin (_ : RoomRun) (input : RoomInput) : Prop := input.1.isHealthy = true

instance (s : RoomRun) (input : RoomInput) : Decidable (healthyJoin s input) :=
  inferInstanceAs (Decidable (_ = true))

namespace Room

/-! ## Changes keep the ranks -/

theorem Change.sameBattle {t : Nat} {r r' : Room} {events : List BattleEvent}
    (h : Change t r events r') : SameBattle r r' := by
  have hreplace {before after : List Participant} {p p' : Participant}
      (hsplit : r.participants = before ++ p :: after) (hid : p'.playerId = p.playerId) :
      SameBattle r (r.withParticipants (before ++ p' :: after)) := by
    refine ⟨⟨rfl, rfl, rfl, ?_⟩, rfl⟩
    simp only [audience, withParticipants, hsplit]
    exact map_key_replace hid
  cases h with
  | adjust hsplit hid => exact hreplace hsplit hid
  | walk hsplit => exact hreplace hsplit rfl
  | strike hsplit => exact hreplace hsplit rfl
  | _ => exact ⟨⟨rfl, rfl, rfl, rfl⟩, rfl⟩

theorem Path.sameBattle {t : Nat} {r r' : Room} {events : List BattleEvent}
    (h : Path t r events r') : SameBattle r r' := by
  induction h with
  | refl => exact .refl r
  | step _ hchange ih => exact (ih.trans hchange.sameBattle).trans (.pushEvents _)

/-- **The ranks of a battle**: the enemies in the order in which they came, the projectiles in
the order in which they were launched. -/
structure Ranks (r : Room) : Prop where
  ids : (r.enemies.map (·.id)).Pairwise (· < ·)
  issued : ∀ e ∈ r.enemies, 0 < e.id ∧ e.id < r.nextEnemyId
  next : r.nextEnemyId = r.spawnedWaveCount * r.config.minionsPerWave + 1 +
    if r.bossSpawned then 1 else 0
  waves : r.spawnedWaveCount ≤ r.config.waveCount
  bossLast : r.bossSpawned = true → r.spawnedWaveCount = r.config.waveCount
  bosses : r.enemies.countP (·.kind = .boss) = if r.bossSpawned then 1 else 0
  bossId : ∀ e ∈ r.enemies, e.kind = .boss →
    e.id = r.config.waveCount * r.config.minionsPerWave + 1
  flying : r.projectiles.length ≤ r.config.maxActiveProjectiles
  shots : (r.projectiles.map (·.id)).Pairwise (· < ·)
  launched : ∀ q ∈ r.projectiles, r.nextProjectileId = 0 ∨ q.id < r.nextProjectileId
  clock : r.phase = .running → 0 < r.config.waveCount →
    r.nextWaveAt + r.config.bossSpawnAfter =
      r.bossSpawnAt + r.config.waveInterval * r.spawnedWaveCount

namespace Ranks

variable {t : Nat} {r : Room}

theorem participants (h : Ranks r) (ps : List Participant) : Ranks (r.withParticipants ps) :=
  ⟨h.ids, h.issued, h.next, h.waves, h.bossLast, h.bosses, h.bossId, h.flying, h.shots, h.launched,
    h.clock⟩

theorem pushEvents (h : Ranks r) (events : List BattleEvent) : Ranks (r.pushEvents events) :=
  ⟨h.ids, h.issued, h.next, h.waves, h.bossLast, h.bosses, h.bossId, h.flying, h.shots, h.launched,
    h.clock⟩

/-- An enemy moves, attacks or is wounded. -/
theorem enemy (h : Ranks r) {before after : List Enemy} {e e' : Enemy}
    (hsplit : r.enemies = before ++ e :: after) (hid : e'.id = e.id) (hkind : e'.kind = e.kind) :
    Ranks (r.withEnemies (before ++ e' :: after)) := by
  have hids := h.ids
  have hissued := h.issued
  have hbosses := h.bosses
  have hbossId := h.bossId
  rw [hsplit] at hids hissued hbosses hbossId
  have hmem (c : Enemy) (hc : c ∈ before ++ e' :: after) :
      ∃ d ∈ before ++ e :: after, c.id = d.id ∧ c.kind = d.kind := by
    rcases List.mem_append.1 hc with hbefore | hrest
    · exact ⟨c, List.mem_append_left _ hbefore, rfl, rfl⟩
    · rcases List.mem_cons.1 hrest with rfl | hafter
      · exact ⟨e, List.mem_append_right _ List.mem_cons_self, hid, hkind⟩
      · exact ⟨c, List.mem_append_right _ (List.mem_cons_of_mem _ hafter), rfl, rfl⟩
  refine ⟨?_, ?_, h.next, h.waves, h.bossLast, ?_, ?_, h.flying, h.shots, h.launched, h.clock⟩
  · simp only [withEnemies]
    rwa [map_key_replace hid]
  · intro c hc
    obtain ⟨d, hd, hsame, -⟩ := hmem c hc
    rw [hsame]
    exact hissued d hd
  · simp only [withEnemies, List.countP_append, List.countP_cons, hkind] at hbosses ⊢
    exact hbosses
  · intro c hc hboss
    obtain ⟨d, hd, hsame, hsort⟩ := hmem c hc
    rw [hsame]
    exact hbossId d hd (hsort ▸ hboss)

theorem bury (h : Ranks r) (hup : ¬ r.BossDown) :
    Ranks (r.withEnemies (r.enemies.filter (·.health ≠ 0))) := by
  refine ⟨h.ids.sublist (List.filter_sublist.map _),
    fun e he => h.issued e (List.mem_filter.1 he).1, h.next, h.waves, h.bossLast, ?_,
    fun e he => h.bossId e (List.mem_filter.1 he).1, h.flying, h.shots, h.launched, h.clock⟩
  refine Eq.trans ?_ h.bosses
  simp only [withEnemies, List.countP_filter]
  refine List.countP_congr fun e he => ?_
  simp only [Bool.and_eq_true, decide_eq_true_eq]
  exact ⟨fun hboth => hboth.1, fun hboss => ⟨hboss, fun hdead => hup ⟨e, he, hboss, hdead⟩⟩⟩

/-- A projectile moves, or is gone. -/
theorem projectiles (h : Ranks r) {qs : List Projectile}
    (hids : (qs.map (·.id)).Sublist (r.projectiles.map (·.id))) :
    Ranks (r.withProjectiles qs) := by
  refine ⟨h.ids, h.issued, h.next, h.waves, h.bossLast, h.bosses, h.bossId, ?_,
    h.shots.sublist hids, ?_, h.clock⟩
  · have hlength := hids.length_le
    simp only [List.length_map] at hlength
    exact hlength.trans h.flying
  · intro q hq
    obtain ⟨q', hq', hsame⟩ := List.mem_map.1 (hids.subset (List.mem_map_of_mem hq))
    rw [← hsame]
    exact h.launched q' hq'

theorem launch (h : Ranks r) {q : Projectile} (hid : q.id = r.nextProjectileId) (hne : q.id ≠ 0)
    (hroom : r.projectiles.length < r.config.maxActiveProjectiles) :
    Ranks { r with
      nextProjectileId :=
        if r.nextProjectileId = RoomConfig.maxUInt32 then 0 else r.nextProjectileId + 1
      projectiles := r.projectiles ++ [q] } := by
  have hbelow (q' : Projectile) (hq' : q' ∈ r.projectiles) : q'.id < q.id := by
    rcases h.launched q' hq' with hzero | hlt
    · exact absurd (hid.trans hzero) hne
    · exact hid ▸ hlt
  refine ⟨h.ids, h.issued, h.next, h.waves, h.bossLast, h.bosses, h.bossId, ?_, ?_, ?_, h.clock⟩
  · simp only [List.length_append, List.length_singleton]
    exact hroom
  · simp only [List.map_append, List.map_cons, List.map_nil]
    refine List.pairwise_append.2 ⟨h.shots, List.pairwise_singleton _ _, ?_⟩
    intro a ha b hb
    obtain ⟨q', hq', rfl⟩ := List.mem_map.1 ha
    obtain rfl := List.mem_singleton.1 hb
    exact hbelow q' hq'
  · intro q' hq'
    dsimp only
    split
    · exact .inl rfl
    · refine .inr ?_
      rcases List.mem_append.1 hq' with hold | hnew
      · exact Nat.lt_succ_of_lt (hid ▸ hbelow q' hold)
      · obtain rfl := List.mem_singleton.1 hnew
        rw [hid]
        exact Nat.lt_succ_self _

theorem ids_wave (r : Room) (t : Nat) :
    (r.wave t).map (·.id) = List.range' r.nextEnemyId r.config.minionsPerWave := by
  rw [List.range'_eq_map_range]
  simp only [Room.wave, List.map_map]
  rfl

theorem countP_wave (r : Room) (t : Nat) : (r.wave t).countP (·.kind = .boss) = 0 := by
  refine List.countP_eq_zero.2 fun e he => ?_
  simp [kind_of_mem_wave he]

theorem wave (h : Ranks r) (hleft : r.spawnedWaveCount < r.config.waveCount) :
    Ranks { r with
      nextEnemyId := r.nextEnemyId + r.config.minionsPerWave
      enemies := r.enemies ++ r.wave t
      spawnedWaveCount := r.spawnedWaveCount + 1
      nextWaveAt := r.nextWaveAt + r.config.waveInterval } := by
  have hboss : r.bossSpawned = false := by
    refine Bool.eq_false_of_not_eq_true fun hspawned => ?_
    exact Nat.ne_of_lt hleft (h.bossLast hspawned)
  have hnew (id : EnemyId) (hid : id ∈ (r.wave t).map (·.id)) :
      r.nextEnemyId ≤ id ∧ id < r.nextEnemyId + r.config.minionsPerWave := by
    rw [ids_wave] at hid
    exact List.mem_range'_1.1 hid
  have hnext := h.next
  refine ⟨?_, ?_, ?_, hleft, ?_, ?_, ?_, h.flying, h.shots, h.launched, ?_⟩
  · simp only [List.map_append]
    refine List.pairwise_append.2 ⟨h.ids, ?_, ?_⟩
    · rw [ids_wave]
      exact List.pairwise_lt_range'
    · intro a ha b hb
      obtain ⟨e, he, rfl⟩ := List.mem_map.1 ha
      exact Nat.lt_of_lt_of_le (h.issued e he).2 (hnew b hb).1
  · intro e he
    rcases List.mem_append.1 he with hold | hcame
    · exact ⟨(h.issued e hold).1, Nat.lt_add_right _ (h.issued e hold).2⟩
    · obtain ⟨hlow, hhigh⟩ := hnew e.id (List.mem_map_of_mem hcame)
      refine ⟨Nat.lt_of_lt_of_le ?_ hlow, hhigh⟩
      rw [hnext]
      omega
  · rw [hnext]
    simp only [hboss, Bool.false_eq_true, if_false, Nat.add_zero, Nat.succ_mul]
    exact Nat.add_right_comm _ _ _
  · intro hspawned
    rw [hboss] at hspawned
    cases hspawned
  · simp only [List.countP_append, countP_wave, Nat.add_zero]
    exact h.bosses
  · intro e he hkind
    rcases List.mem_append.1 he with hold | hcame
    · exact h.bossId e hold hkind
    · rw [kind_of_mem_wave hcame] at hkind
      cases hkind
  · intro hphase hwaves
    have hclock := h.clock hphase hwaves
    simp only [Nat.mul_succ]
    omega

theorem boss (h : Ranks r) (hvalid : r.config.Valid) (hphase : r.phase = .running) (hboss : r.bossSpawned = false)
    (hdue : r.bossSpawnAt ≤ t)
    (hwaves : r.spawnedWaveCount < r.config.waveCount → t < r.nextWaveAt) :
    Ranks { r with
      nextEnemyId := r.nextEnemyId + 1
      enemies := r.enemies ++ [r.bossOf t]
      bossSpawned := true } := by
  have hnext := h.next
  have hall : r.spawnedWaveCount = r.config.waveCount := by
    refine Nat.le_antisymm h.waves (Nat.not_lt.1 fun hleft => ?_)
    have hlate := hwaves hleft
    have hclock := h.clock hphase (Nat.lt_of_le_of_lt (Nat.zero_le _) hleft)
    have hbefore : r.config.waveInterval * r.spawnedWaveCount ≤ r.config.bossSpawnAfter := by
      refine Nat.le_trans ?_ hvalid.bossAfterWaves
      rw [Nat.mul_comm]
      exact Nat.mul_le_mul_right _ (Nat.le_pred_of_lt hleft)
    omega
  refine ⟨?_, ?_, ?_, h.waves, fun _ => hall, ?_, ?_, h.flying, h.shots, h.launched, h.clock⟩
  · simp only [List.map_append, List.map_cons, List.map_nil]
    refine List.pairwise_append.2 ⟨h.ids, List.pairwise_singleton _ _, ?_⟩
    intro a ha b hb
    obtain ⟨e, he, rfl⟩ := List.mem_map.1 ha
    obtain rfl := List.mem_singleton.1 hb
    exact (h.issued e he).2
  · intro e he
    rcases List.mem_append.1 he with hold | hcame
    · exact ⟨(h.issued e hold).1, Nat.lt_succ_of_lt (h.issued e hold).2⟩
    · obtain rfl := List.mem_singleton.1 hcame
      refine ⟨?_, Nat.lt_succ_self _⟩
      show 0 < r.nextEnemyId
      rw [hnext]
      exact Nat.lt_add_right _ (Nat.succ_pos _)
  · rw [hnext, hboss]
    rfl
  · have hbosses := h.bosses
    rw [hboss] at hbosses
    simp only [List.countP_append, hbosses]
    rfl
  · intro e he hkind
    rcases List.mem_append.1 he with hold | hcame
    · exact h.bossId e hold hkind
    · obtain rfl := List.mem_singleton.1 hcame
      show r.nextEnemyId = _
      rw [hnext, hboss, hall]
      rfl

/-- **Every change keeps the ranks.** -/
theorem change (h : Ranks r) (hvalid : r.config.Valid) (hphase : r.phase = .running) {events : List BattleEvent} {r' : Room}
    (hc : Change t r events r') : Ranks r' := by
  cases hc with
  | adjust => exact h.participants _
  | walk => exact h.participants _
  | strike => exact h.participants _
  | bury hup => exact h.bury hup
  | approach hsplit => exact h.enemy hsplit rfl rfl
  | tire hsplit => exact h.enemy hsplit rfl rfl
  | wound hsplit => exact h.enemy hsplit rfl rfl
  | fly hsplit =>
    refine h.projectiles ?_
    rw [hsplit]
    simp only [List.map_append, List.map_cons]
    exact .refl _
  | drop hsplit =>
    refine h.projectiles ?_
    rw [hsplit]
    exact ((List.sublist_cons_self _ _).append_left _).map _
  | whiff => exact h
  | launch _ hid hne _ hroom => exact h.launch hid hne hroom
  | wave hleft => exact h.wave hleft
  | boss hboss hdue hwaves => exact h.boss hvalid hphase hboss hdue hwaves

theorem path (h : Ranks r) (hvalid : r.config.Valid) (hphase : r.phase = .running) {events : List BattleEvent} {r' : Room}
    (hp : Path t r events r') : Ranks r' := by
  induction hp with
  | refl => exact h
  | step hpath hchange ih =>
    exact (ih.change (hpath.sameBattle.config ▸ hvalid) (hpath.sameBattle.phase.trans hphase)
      hchange).pushEvents _

/-- The ranks do not depend on who takes part, on events or on the end of the battle. -/
theorem congr (h : Ranks r) {r' : Room} (henemies : r'.enemies = r.enemies)
    (hnext : r'.nextEnemyId = r.nextEnemyId) (hwaves : r'.spawnedWaveCount = r.spawnedWaveCount)
    (hboss : r'.bossSpawned = r.bossSpawned) (hconfig : r'.config = r.config)
    (hprojectiles : r'.projectiles.Sublist r.projectiles)
    (hlaunch : r'.nextProjectileId = r.nextProjectileId)
    (hclock : r'.phase = .running → r.phase = .running ∧ r'.nextWaveAt = r.nextWaveAt ∧
      r'.bossSpawnAt = r.bossSpawnAt) : Ranks r' := by
  refine ⟨?_, ?_, ?_, ?_, ?_, ?_, ?_, ?_, ?_, ?_, ?_⟩
  · rw [henemies]
    exact h.ids
  · rw [henemies, hnext]
    exact h.issued
  · rw [hnext, hwaves, hboss, hconfig]
    exact h.next
  · rw [hwaves, hconfig]
    exact h.waves
  · rw [hboss, hwaves, hconfig]
    exact h.bossLast
  · rw [henemies, hboss]
    exact h.bosses
  · rw [henemies, hconfig]
    exact h.bossId
  · rw [hconfig]
    exact hprojectiles.length_le.trans h.flying
  · exact h.shots.sublist (hprojectiles.map _)
  · intro q hq
    rw [hlaunch]
    exact h.launched q (hprojectiles.subset hq)
  · intro hphase
    obtain ⟨hbefore, hwave, hspawn⟩ := hclock hphase
    rw [hconfig, hwave, hspawn, hwaves]
    exact h.clock hbefore

end Ranks

/-! ## Commands keep the invariant -/

/-- The battle is over. -/
def concluded (r : Room) (phase : RoomPhase) : Room := { r with phase := phase, projectiles := [] }

theorem takeDigest_snd (r : Room) :
    r.takeDigest.2 = r ∨
      r.takeDigest.2 = { r with digestSequence := r.digestSequence + 1, pendingEvents := [] } := by
  unfold takeDigest
  split
  · exact .inl rfl
  · exact .inr rfl

theorem withDigest_snd (r : Room) (result : RoomResult) :
    (r.withDigest result).2 = r.takeDigest.2 := by
  unfold withDigest
  split
  · next h => rw [h]
  · next h => rw [h]

theorem finishSkillUse_snd (r : Room) (player : PlayerId) :
    (r.finishSkillUse player).2 = r ∧ r.pendingEvents.length < r.config.digestFlushThreshold ∨
      (r.finishSkillUse player).2 = r.takeDigest.2 := by
  simp only [finishSkillUse]
  split
  · exact .inr rfl
  · next h => exact .inl ⟨rfl, Nat.not_le.1 h⟩

/-- **The invariant of a Room.** -/
structure Sound (c : RoomConfig) (r : Room) : Prop where
  config : r.config = c
  order : r.InOrder
  seats : r.participants.length ≤ c.maxParticipants
  ranks : r.Ranks
  up : r.phase = .running → ¬ r.BossDown
  still : r.phase ≠ .running → r.projectiles = []
  fresh : r.phase = .waiting → r.spawnedWaveCount = 0 ∧ r.bossSpawned = false ∧ r.enemies = [] ∧
    r.pendingEvents = [] ∧ r.digestSequence = 0

namespace Sound

variable {c : RoomConfig} {t : Nat} {r r' : Room}

theorem tidy (h : Sound c r) (hc : c.Valid) : r.Tidy where
  order := h.order
  keys := h.ranks.ids.imp Nat.ne_of_lt
  bossHealth := h.config ▸ hc.bossHealth
  unspawned := fun hphase => (h.fresh hphase).1
  up := h.up

/-- The same players go on, or stop, fighting. -/
theorem advance (h : Sound c r) (hconfig : r'.config = r.config) (haudience : r'.audience = r.audience)
    (hranks : r'.Ranks) (hphase : r'.phase ≠ .waiting)
    (hup : r'.phase = .running → ¬ r'.BossDown) (hstill : r'.phase ≠ .running → r'.projectiles = []) :
    Sound c r' := by
  refine ⟨hconfig.trans h.config, h.order.congr haudience, ?_, hranks, hup, hstill,
    fun hwaiting => absurd hwaiting hphase⟩
  have hlength := congrArg List.length haudience
  simp only [audience, List.length_map] at hlength
  rw [hlength]
  exact h.seats

theorem takeDigest (h : Sound c r) (hphase : r.phase ≠ .waiting) : Sound c r.takeDigest.2 := by
  rcases takeDigest_snd r with heq | heq
  · rw [heq]
    exact h
  · rw [heq]
    exact h.advance rfl rfl (h.ranks.congr rfl rfl rfl rfl rfl (.refl _) rfl fun hp => ⟨hp, rfl, rfl⟩)
      hphase h.up h.still

theorem fought (h : Sound c r) (hc : c.Valid) (hphase : r.phase = .running)
    {events : List BattleEvent} (hpath : Path t r events r') (hup : ¬ r'.BossDown) : Sound c r' := by
  have hsame := hpath.sameBattle
  have hrunning := hsame.phase.trans hphase
  refine h.advance hsame.config hsame.audience (h.ranks.path (h.config ▸ hc) hphase hpath) ?_
    (fun _ => hup) (fun hnot => absurd hrunning hnot)
  rw [hrunning]
  nofun

theorem ended (h : Sound c r) (hc : c.Valid) (hphase : r.phase = .running)
    {events : List BattleEvent} (hpath : Path t r events r') {phase : RoomPhase}
    (hover : phase = .cleared ∨ phase = .failed) : Sound c (r'.concluded phase).takeDigest.2 := by
  have hsame := hpath.sameBattle
  have hranks := h.ranks.path (h.config ▸ hc) hphase hpath
  have hnot : phase ≠ .running ∧ phase ≠ .waiting := by
    rcases hover with rfl | rfl <;> exact ⟨nofun, nofun⟩
  refine takeDigest (h.advance hsame.config hsame.audience ?_ hnot.2 (fun hp => absurd hp hnot.1)
    fun _ => rfl) hnot.2
  exact hranks.congr rfl rfl rfl rfl rfl (List.nil_sublist _) rfl fun hp => absurd hp hnot.1

theorem join (h : Sound c r) {player : PlayerId} {stats : CombatStats} {skill : SkillId}
    (hfound : r.findParticipant player = none)
    (hroom : r.participants.length < r.config.maxParticipants) :
    Sound c (r.withParticipant (newcomer player stats skill)) := by
  have habsent : player ∉ r.audience := by
    intro hmem
    rw [← isSome_findParticipant h.order, hfound] at hmem
    cases hmem
  refine ⟨h.config, ?_, ?_, h.ranks.congr rfl rfl rfl rfl rfl (.refl _) rfl fun hp => ⟨hp, rfl, rfl⟩,
    h.up, h.still, h.fresh⟩
  · unfold InOrder
    rw [audience_withParticipant]
    exact pairwise_insertAt h.order habsent
  · have hlength : (r.withParticipant (newcomer player stats skill)).participants.length =
        r.participants.length + 1 := by
      simp only [withParticipant, List.length_append, List.length_cons, ← Nat.add_assoc]
      rw [← List.length_append, List.takeWhile_append_dropWhile]
    rw [hlength, ← h.config]
    exact hroom

theorem leave (h : Sound c r) (player : PlayerId) : Sound c (r.withoutParticipant player) := by
  refine ⟨h.config, ?_, ?_, h.ranks.congr rfl rfl rfl rfl rfl (.refl _) rfl fun hp => ⟨hp, rfl, rfl⟩,
    h.up, h.still, h.fresh⟩
  · unfold InOrder
    rw [audience_withoutParticipant]
    exact pairwise_removeAt h.order
  · refine Nat.le_trans ?_ h.seats
    have hsplit : (r.participants.takeWhile (·.playerId < player)).length +
        (r.participants.dropWhile (·.playerId < player)).length = r.participants.length := by
      rw [← List.length_append, List.takeWhile_append_dropWhile]
    simp only [withoutParticipant, List.length_append, List.length_tail]
    omega

theorem pushEvents (h : Sound c r) (hphase : r.phase ≠ .waiting) (events : List BattleEvent) :
    Sound c (r.pushEvents events) :=
  h.advance rfl rfl (h.ranks.pushEvents events) hphase h.up h.still

theorem opened (h : Sound c r) (hphase : r.phase = .waiting) (t : Nat) : Sound c (r.opened t) := by
  obtain ⟨hwaves, hboss, henemies, -, -⟩ := h.fresh hphase
  have hranks : (r.opened t).Ranks := by
    refine ⟨h.ranks.ids, h.ranks.issued, h.ranks.next, h.ranks.waves, h.ranks.bossLast,
      h.ranks.bosses, h.ranks.bossId, h.ranks.flying, h.ranks.shots, h.ranks.launched, ?_⟩
    intro _ hsome
    have hsome : 0 < r.config.waveCount := hsome
    simp only [Room.opened, initializeArena, Room.pushEvents, if_pos hsome, hwaves, Nat.mul_zero,
      Nat.add_zero]
  refine h.advance rfl (SameBattle.initializeArena.audience) hranks (fun h => by cases h) ?_ fun hnot => absurd rfl hnot
  rintro _ ⟨e, he, -⟩
  have he : e ∈ r.enemies := he
  rw [henemies] at he
  cases he

/-- **Every command keeps the invariant.** -/
theorem handled (h : Sound c r) (hc : c.Valid) {command : RoomCommand} {out : RoomResult × Room}
    (hh : Handled t r command out) : Sound c out.2 := by
  have hnot : ∀ {r : Room}, r.phase = .running → r.phase ≠ .waiting := by
    intro r hphase
    rw [hphase]
    nofun
  cases hh with
  | refused => exact h
  | joined _ hfound hroom heq => exact heq ▸ h.join hfound hroom
  | left _ _ heq => exact heq ▸ h.leave _
  | emptied hphase _ _ heq =>
    subst heq
    have hleft := h.leave ‹_›
    exact hleft.advance rfl rfl (hleft.ranks.congr rfl rfl rfl rfl rfl (List.nil_sublist _) rfl
      fun hp => ⟨hp, rfl, rfl⟩) (hnot hphase) hleft.up fun _ => rfl
  | parted hphase _ _ heq =>
    subst heq
    exact ((h.leave _).pushEvents (hnot hphase) _).takeDigest (hnot hphase)
  | deserted hphase _ _ heq =>
    subst heq
    exact ((h.leave _).pushEvents (hnot hphase) _).ended (t := t) hc hphase .refl (.inr rfl)
  | began hcan hspawn =>
    simp only [canStartBattle, Bool.and_eq_true, decide_eq_true_eq] at hcan
    obtain ⟨events, hpath, -⟩ := hspawn.path
    have hopened := h.opened hcan.1 t
    have hsound := hopened.fought hc rfl hpath (hspawn.spared (hopened.up rfl))
    rw [withDigest_snd]
    exact hsound.takeDigest (hnot hpath.sameBattle.phase)
  | noted hphase _ hfray _ hundecided => exact h.fought hc hphase hfray.path hundecided.up
  | @cast _ player _ r' hphase _ hfray _ hundecided =>
    have hsound := h.fought hc hphase hfray.path hundecided.up
    rcases finishSkillUse_snd r' player with ⟨heq, -⟩ | heq
    · rw [heq]
      exact hsound
    · rw [heq]
      exact hsound.takeDigest (hnot (hfray.path.sameBattle.phase.trans hphase))
  | ticked hphase _ hfray hundecided =>
    have hsound := h.fought hc hphase hfray.path hundecided.up
    rw [withDigest_snd]
    exact hsound.takeDigest (hnot (hfray.path.sameBattle.phase.trans hphase))
  | won hphase _ hfray => exact h.ended hc hphase hfray.path (.inl rfl)
  | lost hphase _ hfray => exact h.ended hc hphase hfray.path (.inr rfl)
  | expired hphase => exact h.ended (t := t) hc hphase .refl (.inr rfl)

theorem created {room : RoomId} (h : Room.create room c = .ok r) : Sound c r := by
  obtain ⟨-, rfl⟩ := create_eq h
  refine ⟨rfl, .nil, Nat.zero_le _, ?_, nofun, fun _ => rfl, fun _ => ⟨rfl, rfl, rfl, rfl, rfl⟩⟩
  exact ⟨.nil, nofun, by simp, Nat.zero_le _, nofun, rfl, nofun, Nat.zero_le _, .nil, nofun, nofun⟩

end Sound

end Room

/-! ## Digests -/

/-- The events that a result hands out. -/
def RoomResult.told (result : RoomResult) : List BattleEvent :=
  match result.digest with
  | none => []
  | some digest => digest.events

namespace Room

/-- The digest of `r` has been taken, or it is still to come. -/
structure Told (r : Room) (out : RoomResult × Room) : Prop where
  events : out.1.told ++ out.2.pendingEvents = r.pendingEvents
  whole : out.1.digest = none ∨ out.2.pendingEvents = []
  numbered : ∀ digest, out.1.digest = some digest →
    digest.sequence = r.digestSequence + 1 ∧ out.2.digestSequence = r.digestSequence + 1
  unnumbered : out.1.digest = none → out.2.digestSequence = r.digestSequence

namespace Told

variable {r : Room} {result : RoomResult}

theorem none (h : result.digest = none) : Told r (result, r) := by
  refine ⟨?_, .inl h, ?_, fun _ => rfl⟩
  · simp only [RoomResult.told, h, List.nil_append]
  · intro digest hsome
    rw [h] at hsome
    cases hsome

theorem take (h : result.digest = r.takeDigest.1) : Told r (result, r.takeDigest.2) := by
  unfold takeDigest at h ⊢
  split at h
  · next hempty => exact Eq.symm (if_pos hempty) ▸ none h
  · next hsome =>
    rw [if_neg hsome]
    refine ⟨?_, .inr rfl, ?_, ?_⟩
    · simp only [RoomResult.told, h, List.append_nil]
    · intro digest hdigest
      obtain rfl := Option.some.inj (h.symm.trans hdigest)
      exact ⟨rfl, rfl⟩
    · intro hnone
      rw [h] at hnone
      cases hnone

theorem withDigest (h : result.digest = .none) : Told r (r.withDigest result) := by
  have hfst : (r.withDigest result).1.digest = r.takeDigest.1 := by
    unfold Room.withDigest
    split
    · next htake => rw [htake]
    · next htake =>
      rw [htake]
      exact h
  have htold := take hfst
  rw [← withDigest_snd r result] at htold
  exact htold

theorem finishSkillUse (player : PlayerId) : Told r (r.finishSkillUse player) := by
  simp only [Room.finishSkillUse]
  split
  · exact take rfl
  · exact none rfl

theorem failBattle (status : RoomCommandStatus) (player : Option PlayerId)
    (reason : BattleFailureReason) :
    Told (r.concluded .failed) (r.failBattle status player reason) :=
  take rfl

theorem clearBattle (player : Option PlayerId) : Told (r.concluded .cleared) (r.clearBattle player) :=
  take rfl

end Told

end Room

/-! ## Runs -/

section Runs

variable {room : RoomId} {config : RoomConfig} {guard : RoomRun → RoomInput → Prop} {s : RoomRun}

theorem valid_of_reach (h : (roomMachine room config).Reach guard s) : config.Valid := by
  induction h with
  | init hi => exact (Room.create_eq hi.1).1
  | step _ _ _ _ ih => exact ih

theorem sound_of_reach (h : (roomMachine room config).Reach guard s) : s.room.Sound config := by
  have hvalid := valid_of_reach h
  refine h.invariant (P := fun s => s.room.Sound config) (fun s hi => .created hi.1) ?_
  rintro s input _ _ hsound _ ⟨⟩
  exact hsound.handled hvalid (Room.handled (hsound.tidy hvalid) input.1 input.2)

/-- What a command does to the Room of a run. -/
theorem handled_of_reach (h : (roomMachine room config).Reach guard s) (input : RoomInput) :
    Room.Handled input.2 s.room input.1 (s.room.handle input.1 input.2) :=
  Room.handled ((sound_of_reach h).tidy (valid_of_reach h)) input.1 input.2

end Runs

end Snf.Game
