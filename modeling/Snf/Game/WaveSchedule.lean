import Snf.Game.RoomLog

/-! # Waves and the boss

When the enemies of a battle come: the waves at equal intervals from the start of the battle, the
boss at its time, both with the first tick that is not too early. However late a tick is, it
catches up. And no enemy attacks before its cooldown is over.
-/

namespace Snf.Game

open Snf.Lib

namespace Room

variable {t : Nat} {r r' : Room} {H : List TimedEvent} {l : List BattleEvent}

/-! ## What is recorded about the enemies -/

theorem spawnedIds_opener (r : Room) (t : Nat) : Game.spawnedIds (r.opener t) = [] := by
  have hids := spawnedIds_opened r t
  rwa [pendingEvents_opened, spawnedIds_append, List.append_right_eq_self] at hids

/-- Every enemy that has come is recorded under the next number. -/
def Numbered (H : List TimedEvent) (r : Room) : Prop :=
  ∃ n : Nat, r.nextEnemyId = n + 1 ∧ Game.spawnedIds (H.map (·.2)) = List.range' 1 n

theorem Numbered.record (h : Numbered H r) (n : Nat)
    (hnext : r'.nextEnemyId = r.nextEnemyId + n)
    (hids : Game.spawnedIds l = List.range' r.nextEnemyId n) :
    Numbered (H ++ stamp t l) r' := by
  obtain ⟨k, hk, hold⟩ := h
  refine ⟨k + n, ?_, ?_⟩
  · rw [hnext, hk]
    exact Nat.add_right_comm _ _ _
  · rw [List.map_append, map_snd_stamp, spawnedIds_append, hold, hids, hk, Nat.add_comm k 1]
    exact List.range'_append_1

theorem Numbered.kept (config : RoomConfig) : Kept config Numbered where
  created _ := ⟨0, rfl, rfl⟩
  seat _ _ _ h _ _ := h
  unseat _ _ _ h := h
  parting _ _ t player h _ := h.record (t := t) (l := [.participantLeft player]) 0 rfl rfl
  desertion _ _ h _ := h
  digest _ _ h := h
  conclusion _ _ _ h _ _ _ := h
  opening _ r t h _ _ := h.record 0 rfl (spawnedIds_opener r t)
  change _ _ _ _ _ h _ _ _ _ _ hchange := by
    obtain ⟨n, hnext, hids⟩ := hchange.spawnedIds
    exact h.record n hnext hids

/-! ## The start of the battle -/

/-- The battle began when the arena was opened, and the boss is due from then. -/
def Dated (H : List TimedEvent) (r : Room) : Prop :=
  ∀ t width height, (t, .arenaStarted width height) ∈ H →
    r.phase ≠ .waiting ∧ r.bossSpawnAt = t + r.config.bossSpawnAfter

theorem Change.bossSpawnAt_eq (h : Change t r l r') : r'.bossSpawnAt = r.bossSpawnAt := by
  cases h <;> rfl

theorem Change.not_arenaStarted (h : Change t r l r') (width height : Nat) :
    BattleEvent.arenaStarted width height ∉ l := by
  cases h with
  | strike =>
    unfold blow
    split <;> simp
  | wound =>
    unfold hit
    dsimp only
    split <;> simp
  | wave => simp [spawned]
  | boss => simp [spawned]
  | _ => simp

theorem Dated.kept (config : RoomConfig) : Kept config Dated where
  created _ := nofun
  seat _ _ _ h _ _ := h
  unseat _ _ _ h := h
  parting _ _ _ _ h _ := by
    intro t width height hmem
    rcases List.mem_append.1 hmem with hold | hnew
    · exact h t width height hold
    · simp at hnew
  desertion _ _ h _ := h
  digest _ _ h := h
  conclusion _ _ _ h _ _ hphase := fun t width height hmem =>
    ⟨hphase, (h t width height hmem).2⟩
  opening _ r t h _ hphase := by
    intro t' width height hmem
    rcases List.mem_append.1 hmem with hold | hnew
    · exact absurd hphase (h t' width height hold).1
    · obtain ⟨rfl, -⟩ := mem_stamp.1 hnew
      exact ⟨nofun, rfl⟩
  change _ r t _ r' h _ _ _ _ _ hchange := by
    intro t' width height hmem
    rcases List.mem_append.1 hmem with hold | hnew
    · obtain ⟨hphase, hboss⟩ := h t' width height hold
      have hsame := hchange.sameBattle
      refine ⟨fun hwaiting => hphase (hsame.phase.symm.trans hwaiting), ?_⟩
      show r'.bossSpawnAt = t' + r'.config.bossSpawnAfter
      rw [hsame.config, ← hboss]
      exact hchange.bossSpawnAt_eq
    · exact absurd (mem_stamp.1 hnew).2 (hchange.not_arenaStarted width height)

/-- What a start records first. -/
theorem mem_recordedBy_startBattle (h : (r.startBattle t).1.status = .applied) :
    .arenaStarted r.config.arenaWidth r.config.arenaHeight ∈ r.recordedBy (r.startBattle t) := by
  unfold startBattle at h ⊢
  split at h
  · cases h
  · next hcan =>
    rw [if_neg hcan]
    dsimp only
    generalize hstart : ({ r with
      phase := .running
      battleDeadlineAt := t + r.config.battleDuration
      nextWaveAt := t + r.config.waveInterval
      bossSpawnAt := t + r.config.bossSpawnAfter } : Room) = start
    have hpending : ∃ rest, (start.initializeArena.spawnWave t).pendingEvents =
        r.pendingEvents ++
          .arenaStarted r.config.arenaWidth r.config.arenaHeight :: rest := by
      subst hstart
      unfold spawnWave
      split
      · exact ⟨_, rfl⟩
      · exact ⟨_, List.append_assoc _ _ _⟩
    obtain ⟨rest, hrest⟩ := hpending
    rw [recordedBy_eq (.withDigest rfl) r hrest]
    exact List.mem_cons_self

/-! ## The pace of the waves -/

/-- A time that is not before anything that was recorded. -/
def Past (H : List TimedEvent) (T : Nat) : Prop := ∀ x ∈ H, x.1 ≤ T

theorem Past.mono {H' : List TimedEvent} {T : Nat} (h : Past (H ++ H') T) : Past H T :=
  fun x hx => h x (List.mem_append_left _ hx)

theorem Past.le {T : Nat} {e : BattleEvent} (h : Past (H ++ stamp t l) T) (hmem : e ∈ l) :
    t ≤ T :=
  h (t, e) (List.mem_append_right _ (mem_stamp.2 ⟨rfl, hmem⟩))

/-- No wave has come before its time, and neither has the boss. -/
structure Paced (H : List TimedEvent) (r : Room) : Prop where
  waves : r.phase = .running → 0 < r.config.waveCount → ∀ T, Past H T →
    r.bossSpawnAt + r.config.waveInterval * r.spawnedWaveCount ≤
      T + r.config.bossSpawnAfter + r.config.waveInterval
  boss : r.phase = .running → r.bossSpawned = true → ∀ T, Past H T → r.bossSpawnAt ≤ T

/-- More is recorded, and nothing about the waves has changed. -/
theorem Paced.congr {H' : List TimedEvent} (h : Paced H r)
    (hphase : r'.phase = r.phase) (hconfig : r'.config = r.config)
    (hwaves : r'.spawnedWaveCount = r.spawnedWaveCount)
    (hboss : r'.bossSpawned = r.bossSpawned) (hat : r'.bossSpawnAt = r.bossSpawnAt) :
    Paced (H ++ H') r' := by
  refine ⟨?_, ?_⟩
  · intro hrunning hsome T hpast
    rw [hat, hconfig, hwaves]
    exact h.waves (hphase ▸ hrunning) (hconfig ▸ hsome) T hpast.mono
  · intro hrunning hspawned T hpast
    rw [hat]
    exact h.boss (hphase ▸ hrunning) (hboss ▸ hspawned) T hpast.mono

theorem Paced.kept (config : RoomConfig) : Kept config Paced where
  created _ := ⟨nofun, nofun⟩
  seat _ _ _ h _ _ := ⟨h.waves, h.boss⟩
  unseat _ _ _ h := ⟨h.waves, h.boss⟩
  parting _ _ _ _ h _ := h.congr rfl rfl rfl rfl rfl
  desertion _ _ h _ := ⟨h.waves, h.boss⟩
  digest _ _ h := ⟨h.waves, h.boss⟩
  conclusion _ _ _ _ _ hover _ := ⟨fun hrunning => absurd hrunning hover,
    fun hrunning => absurd hrunning hover⟩
  opening H r t _ hsound hphase := by
    obtain ⟨hwaves, hboss, -⟩ := hsound.fresh hphase
    refine ⟨?_, ?_⟩
    · intro _ _ T hpast
      have hnow : t ≤ T := hpast.le List.mem_cons_self
      show t + r.config.bossSpawnAfter + r.config.waveInterval * r.spawnedWaveCount ≤
        T + r.config.bossSpawnAfter + r.config.waveInterval
      rw [hwaves]
      omega
    · intro _ hspawned
      have hspawned : r.bossSpawned = true := hspawned
      rw [hboss] at hspawned
      cases hspawned
  change H r t new r' h hranks _ hconfig hvalid hphase hchange := by
    cases hchange with
    | wave hleft hdue =>
      refine ⟨?_, fun hrunning hspawned T hpast => h.boss hrunning hspawned T hpast.mono⟩
      intro hrunning hsome T hpast
      -- a wave is not empty, so that its events bear the time of this tick
      have hminions : 0 < r.config.minionsPerWave := by
        have hsame := hvalid.waves
        have hsome : 0 < r.config.waveCount := hsome
        rw [← hconfig] at hsame
        omega
      have hnow : t ≤ T := by
        refine hpast.le (e := .enemySpawned (r.minion 0 t).id .minion r.config.minionHealth) ?_
        refine List.mem_flatten.2
          ⟨spawned (r.minion 0 t), List.mem_map_of_mem ?_, List.mem_cons_self⟩
        exact List.mem_map_of_mem (List.mem_range.2 hminions)
      have hclock := hranks.clock hphase hsome
      show r.bossSpawnAt + r.config.waveInterval * (r.spawnedWaveCount + 1) ≤
        T + r.config.bossSpawnAfter + r.config.waveInterval
      rw [Nat.mul_succ]
      omega
    | boss hboss hdue hwaves =>
      refine ⟨fun hrunning hsome T hpast => h.waves hrunning hsome T hpast.mono, ?_⟩
      intro _ _ T hpast
      exact hdue.trans (hpast.le (e := .enemySpawned r.nextEnemyId .boss r.config.bossHealth)
        List.mem_cons_self)
    | _ => exact h.congr rfl rfl rfl rfl rfl

/-! ## Attacks -/

/-- Since when the enemies have been there, and that none has attacked before its time. -/
structure Patient (H : List TimedEvent) (r : Room) : Prop where
  ready : ∀ t id kind health, (t, .enemySpawned id kind health) ∈ H → id < r.nextEnemyId ∧
    ∀ e ∈ r.enemies, e.id = id → e.kind = kind ∧ t + r.enemyAttackCooldown kind ≤ e.attackReadyAt
  attackers : ∀ t player id amount health, (t, .participantDamaged player id amount health) ∈ H →
    id < r.nextEnemyId
  late : ∀ t id kind health t' player amount health',
    (t, .enemySpawned id kind health) ∈ H → (t', .participantDamaged player id amount health') ∈ H →
    t + r.enemyAttackCooldown kind ≤ t'

/-- An event about neither a coming nor an attack. -/
def isPeaceful : BattleEvent → Bool
  | .enemySpawned _ _ _ | .participantDamaged _ _ _ _ => false
  | _ => true

namespace Patient

theorem cooldown_congr (hconfig : r'.config = r.config) (kind : EnemyKind) :
    r'.enemyAttackCooldown kind = r.enemyAttackCooldown kind := by
  cases kind <;> simp only [enemyAttackCooldown, hconfig]

/-- Nobody comes and nobody attacks, and no enemy is ready earlier. -/
theorem keep (h : Patient H r) (hnext : r'.nextEnemyId = r.nextEnemyId)
    (hconfig : r'.config = r.config)
    (henemies : ∀ e ∈ r'.enemies, ∃ e₀ ∈ r.enemies,
      e.id = e₀.id ∧ e.kind = e₀.kind ∧ e₀.attackReadyAt ≤ e.attackReadyAt)
    (hpeace : ∀ event ∈ l, isPeaceful event = true) :
    Patient (H ++ stamp t l) r' := by
  have hold {time : Nat} {event : BattleEvent} (hloud : isPeaceful event = false)
      (hmem : (time, event) ∈ H ++ stamp t l) : (time, event) ∈ H := by
    rcases List.mem_append.1 hmem with hold | hnew
    · exact hold
    · rw [hpeace event (mem_stamp.1 hnew).2] at hloud
      cases hloud
  refine ⟨?_, ?_, ?_⟩
  · intro time id kind health hmem
    obtain ⟨hissued, hready⟩ := h.ready time id kind health (hold rfl hmem)
    refine ⟨hnext ▸ hissued, ?_⟩
    intro e he hid
    obtain ⟨e₀, he₀, hid₀, hkind, hle⟩ := henemies e he
    obtain ⟨hkind₀, hcool⟩ := hready e₀ he₀ (hid₀.symm.trans hid)
    rw [cooldown_congr hconfig]
    exact ⟨hkind.trans hkind₀, hcool.trans hle⟩
  · intro time player id amount health hmem
    exact hnext ▸ h.attackers time player id amount health (hold rfl hmem)
  · intro time id kind health time' player amount health' hspawn hattack
    rw [cooldown_congr hconfig]
    exact h.late time id kind health time' player amount health' (hold rfl hspawn)
      (hold rfl hattack)

theorem keep_same (h : Patient H r) (hnext : r'.nextEnemyId = r.nextEnemyId)
    (hconfig : r'.config = r.config) (henemies : r'.enemies ⊆ r.enemies)
    (hpeace : ∀ event ∈ l, isPeaceful event = true) : Patient (H ++ stamp t l) r' :=
  h.keep hnext hconfig (fun e he => ⟨e, henemies he, rfl, rfl, Nat.le_refl _⟩) hpeace

/-- One enemy changes, but not its name, and it is not ready earlier. -/
theorem keep_enemy (h : Patient H r) {before after : List Enemy} {e e' : Enemy}
    (hsplit : r.enemies = before ++ e :: after)
    (hsplit' : r'.enemies = before ++ e' :: after) (hnext : r'.nextEnemyId = r.nextEnemyId)
    (hconfig : r'.config = r.config) (hid : e'.id = e.id) (hkind : e'.kind = e.kind)
    (hready : e.attackReadyAt ≤ e'.attackReadyAt)
    (hpeace : ∀ event ∈ l, isPeaceful event = true) : Patient (H ++ stamp t l) r' := by
  refine h.keep hnext hconfig ?_ hpeace
  intro c hc
  rw [hsplit'] at hc
  rw [hsplit]
  rcases List.mem_append.1 hc with hbefore | hrest
  · exact ⟨c, List.mem_append_left _ hbefore, rfl, rfl, Nat.le_refl _⟩
  · rcases List.mem_cons.1 hrest with rfl | hafter
    · exact ⟨e, List.mem_append_right _ List.mem_cons_self, hid, hkind, hready⟩
    · exact ⟨c, List.mem_append_right _ (List.mem_cons_of_mem _ hafter), rfl, rfl, Nat.le_refl _⟩

theorem strike (h : Patient H r) (hranks : r.Ranks) {p : Participant} {attacker : Enemy}
    {damage : Nat} (henemies : r'.enemies = r.enemies) (hnext : r'.nextEnemyId = r.nextEnemyId)
    (hconfig : r'.config = r.config) (hattacker : attacker ∈ r.enemies)
    (hready : attacker.attackReadyAt ≤ t) :
    Patient (H ++ stamp t (blow p attacker.id damage)) r' := by
  have hblow {time : Nat} {event : BattleEvent} (hloud : isPeaceful event = false)
      (hmem : (time, event) ∈ H ++ stamp t (blow p attacker.id damage)) :
      (time, event) ∈ H ∨ time = t ∧
        event = .participantDamaged p.playerId attacker.id damage (p.currentHealth - damage) := by
    refine (List.mem_append.1 hmem).imp_right fun hnew => ?_
    obtain ⟨htime, hevent⟩ := mem_stamp.1 hnew
    refine ⟨htime, ?_⟩
    unfold blow at hevent
    rcases List.mem_cons.1 hevent with heq | hdied
    · exact heq
    · split at hdied
      · rw [List.mem_singleton.1 hdied] at hloud
        cases hloud
      · cases hdied
  have hspawn {time : Nat} {id : EnemyId} {kind : EnemyKind} {health : Nat}
      (hmem : (time, BattleEvent.enemySpawned id kind health) ∈
        H ++ stamp t (blow p attacker.id damage)) : (time, .enemySpawned id kind health) ∈ H := by
    rcases hblow rfl hmem with hold | ⟨-, hnot⟩
    · exact hold
    · cases hnot
  refine ⟨?_, ?_, ?_⟩
  · intro time id kind health hmem
    rw [henemies, hnext, cooldown_congr hconfig]
    exact h.ready time id kind health (hspawn hmem)
  · intro time player id amount health hmem
    rw [hnext]
    rcases hblow rfl hmem with hold | ⟨-, hnew⟩
    · exact h.attackers time player id amount health hold
    · cases hnew
      exact (hranks.issued attacker hattacker).2
  · intro time id kind health time' player amount health' hmem hattack
    rw [cooldown_congr hconfig]
    rcases hblow rfl hattack with hold | ⟨htime, hnew⟩
    · exact h.late time id kind health time' player amount health' (hspawn hmem) hold
    · cases hnew
      rw [htime]
      exact (((h.ready time _ kind health (hspawn hmem)).2 attacker hattacker rfl).2).trans hready

/-- Enemies of one kind come. -/
theorem arrive (h : Patient H r) (hranks : r.Ranks) (kind : EnemyKind) {es : List Enemy}
    (henemies : r'.enemies = r.enemies ++ es) (hconfig : r'.config = r.config)
    (hnext : r.nextEnemyId ≤ r'.nextEnemyId)
    (hnew : ∀ e ∈ es, e.kind = kind ∧ e.attackReadyAt = t + r.enemyAttackCooldown kind ∧
      r.nextEnemyId ≤ e.id ∧ e.id < r'.nextEnemyId) :
    Patient (H ++ stamp t (es.map spawned).flatten) r' := by
  have hspawned {event : BattleEvent} (hmem : event ∈ (es.map spawned).flatten) :
      (∃ e ∈ es, event = .enemySpawned e.id e.kind e.health) ∨
        ∃ e ∈ es, event = .enemyPositioned e.id e.position := by
    obtain ⟨l, hl, hevent⟩ := List.mem_flatten.1 hmem
    obtain ⟨e, he, rfl⟩ := List.mem_map.1 hl
    rcases List.mem_cons.1 hevent with heq | hrest
    · exact .inl ⟨e, he, heq⟩
    · exact .inr ⟨e, he, List.mem_singleton.1 hrest⟩
  have hattack {time : Nat} {player : PlayerId} {id : EnemyId} {amount health : Nat}
      (hmem : (time, BattleEvent.participantDamaged player id amount health) ∈
        H ++ stamp t (es.map spawned).flatten) :
      (time, .participantDamaged player id amount health) ∈ H := by
    rcases List.mem_append.1 hmem with hold | hnew
    · exact hold
    · rcases hspawned (mem_stamp.1 hnew).2 with ⟨_, _, hnot⟩ | ⟨_, _, hnot⟩
      · cases hnot
      · cases hnot
  refine ⟨?_, ?_, ?_⟩
  · intro time id kind' health hmem
    rcases List.mem_append.1 hmem with hold | hcame
    · obtain ⟨hissued, hready⟩ := h.ready time id kind' health hold
      refine ⟨Nat.lt_of_lt_of_le hissued hnext, ?_⟩
      intro e he hid
      rw [henemies] at he
      rw [cooldown_congr hconfig]
      rcases List.mem_append.1 he with hthere | hes
      · exact hready e hthere hid
      · exact absurd (hid ▸ hissued) (Nat.not_lt.2 (hnew e hes).2.2.1)
    · obtain ⟨rfl, hevent⟩ := mem_stamp.1 hcame
      rcases hspawned hevent with ⟨c, hc, heq⟩ | ⟨_, _, hnot⟩
      · cases heq
        obtain ⟨hkind, -, hlow, hhigh⟩ := hnew c hc
        refine ⟨hhigh, ?_⟩
        intro e he hid
        rw [henemies] at he
        rw [cooldown_congr hconfig, hkind]
        rcases List.mem_append.1 he with hthere | hes
        · exact absurd (hid ▸ (hranks.issued e hthere).2) (Nat.not_lt.2 hlow)
        · exact ⟨(hnew e hes).1, Nat.le_of_eq (hnew e hes).2.1.symm⟩
      · cases hnot
  · intro time player id amount health hmem
    exact Nat.lt_of_lt_of_le (h.attackers time player id amount health (hattack hmem)) hnext
  · intro time id kind' health time' player amount health' hmem hstruck
    rw [cooldown_congr hconfig]
    rcases List.mem_append.1 hmem with hold | hcame
    · exact h.late time id kind' health time' player amount health' hold (hattack hstruck)
    · rcases hspawned (mem_stamp.1 hcame).2 with ⟨c, hc, heq⟩ | ⟨_, _, hnot⟩
      · cases heq
        exact absurd (h.attackers time' player _ amount health' (hattack hstruck))
          (Nat.not_lt.2 (hnew c hc).2.2.1)
      · cases hnot

theorem kept (config : RoomConfig) : Kept config Patient where
  created _ := ⟨nofun, nofun, nofun⟩
  seat _ _ _ h _ _ := ⟨h.ready, h.attackers, h.late⟩
  unseat _ _ _ h := ⟨h.ready, h.attackers, h.late⟩
  parting _ _ t player h _ :=
    h.keep_same (t := t) (l := [.participantLeft player]) rfl rfl (List.Subset.refl _)
      (by simp [isPeaceful])
  desertion _ _ h _ := ⟨h.ready, h.attackers, h.late⟩
  digest _ _ h := ⟨h.ready, h.attackers, h.late⟩
  conclusion _ _ _ h _ _ _ := ⟨h.ready, h.attackers, h.late⟩
  opening _ r t h _ _ :=
    h.keep_same rfl rfl (List.Subset.refl _) (by simp [opener, isPeaceful])
  change _ r t _ _ h hranks _ _ _ _ hchange := by
    cases hchange with
    | adjust => exact h.keep_same rfl rfl (List.Subset.refl _) nofun
    | walk => exact h.keep_same rfl rfl (List.Subset.refl _) (by simp [isPeaceful])
    | bury => exact h.keep_same rfl rfl (fun e he => (List.mem_filter.1 he).1) nofun
    | approach hsplit =>
      refine h.keep_enemy hsplit rfl rfl rfl rfl rfl (Nat.le_refl _) ?_
      simp [isPeaceful]
    | tire hsplit hready =>
      exact h.keep_enemy hsplit rfl rfl rfl rfl rfl (hready.trans (Nat.le_add_right _ _)) nofun
    | strike _ _ _ hattacker _ hready => exact h.strike hranks rfl rfl rfl hattacker hready
    | fly => exact h.keep_same rfl rfl (List.Subset.refl _) (by simp [isPeaceful])
    | drop => exact h.keep_same rfl rfl (List.Subset.refl _) (by simp [isPeaceful])
    | wound hsplit =>
      refine h.keep_enemy hsplit rfl rfl rfl rfl rfl (Nat.le_refl _) ?_
      unfold hit
      dsimp only
      split <;> simp [isPeaceful]
    | whiff => exact h.keep_same rfl rfl (List.Subset.refl _) (by simp [isPeaceful])
    | launch => exact h.keep_same rfl rfl (List.Subset.refl _) (by simp [isPeaceful])
    | wave =>
      refine h.arrive hranks .minion rfl rfl (Nat.le_add_right _ _) ?_
      intro e he
      obtain ⟨index, hindex, rfl⟩ := List.mem_map.1 he
      exact ⟨rfl, rfl, Nat.le_add_right _ _, Nat.add_lt_add_left (List.mem_range.1 hindex) _⟩
    | boss =>
      have hone : spawned (r.bossOf t) = ([r.bossOf t].map spawned).flatten := by simp
      rw [hone]
      refine h.arrive hranks .boss rfl rfl (Nat.le_succ _) ?_
      intro e he
      obtain rfl := List.mem_singleton.1 he
      exact ⟨rfl, rfl, Nat.le_refl _, Nat.lt_succ_self _⟩

end Patient

/-! ## Ticks -/

theorem phase_takeDigest (r : Room) : r.takeDigest.2.phase = r.phase := by
  rcases takeDigest_snd r with heq | heq <;> rw [heq]

theorem UpToDate.takeDigest (h : UpToDate t r) : UpToDate t r.takeDigest.2 := by
  rcases takeDigest_snd r with heq | heq
  · rw [heq]
    exact h
  · rw [heq]
    exact ⟨h.waves, h.boss⟩

/-- After a tick that leaves the battle running, no wave is due and neither is the boss. -/
theorem upToDate_of_running (h : (r.simulationTick t).2.phase = .running) :
    UpToDate t (r.simulationTick t).2 := by
  have hover {phase : RoomPhase} {mid : Room} (hphase : (mid.concluded phase).takeDigest.2.phase =
      .running) : phase = .running := (phase_takeDigest _).symm.trans hphase
  by_cases hphase : r.phase = .running
  · by_cases hearly : t < r.battleDeadlineAt
    · rw [simulationTick_eq hphase hearly] at h ⊢
      unfold afterFlight at h ⊢
      split at h
      · cases hover h
      · next hkilled =>
        rw [if_neg hkilled]
        unfold afterAssault at h ⊢
        split at h
        · cases hover h
        · next halive =>
          rw [if_neg halive, withDigest_snd]
          exact (upToDate_reinforce t _).takeDigest
    · unfold Room.simulationTick at h
      rw [if_neg (not_not.2 hphase), if_pos (Nat.not_lt.1 hearly)] at h
      cases hover h
  · unfold Room.simulationTick at h
    rw [if_pos hphase] at h
    exact absurd h hphase

end Room

/-! ## Runs -/

section Runs

variable {room : RoomId} {config : RoomConfig} {s : RoomLog}

/-- The number of waves that are due, from the bounds between which the last of them lies. -/
theorem waves_eq_min {interval count waves elapsed : Nat} (hinterval : 0 < interval)
    (hwaves : waves ≤ count) (hlow : interval * waves ≤ elapsed + interval)
    (hhigh : waves < count → elapsed < interval * waves) :
    waves = min count (1 + elapsed / interval) := by
  have hdiv : waves ≤ 1 + elapsed / interval := by
    cases waves with
    | zero => exact Nat.zero_le _
    | succ n =>
      rw [Nat.mul_succ] at hlow
      have hle : n ≤ elapsed / interval := by
        rw [Nat.le_div_iff_mul_le hinterval, Nat.mul_comm]
        exact Nat.le_of_add_le_add_right hlow
      omega
  rcases Nat.lt_or_ge waves count with hless | hall
  · have hlt : elapsed / interval < waves := by
      rw [Nat.div_lt_iff_lt_mul hinterval, Nat.mul_comm]
      exact hhigh hless
    omega
  · omega

theorem RoomLog.mem_recorded {entry : RoomEntry} {event : BattleEvent} (hentry : entry ∈ s.entries)
    (hevent : event ∈ entry.events) : (entry.time, event) ∈ s.recorded :=
  List.mem_flatMap.2 ⟨entry, List.mem_reverse.2 hentry, mem_stamp.2 ⟨rfl, hevent⟩⟩

/-- Every entry is that of its command. -/
theorem entry_of_mem {guard : RoomLog → RoomInput → Prop}
    (h : (roomLog room config).Reach guard s) {entry : RoomEntry} (hentry : entry ∈ s.entries) :
    ∃ r : Room, r.config = config ∧ entry = r.entry (entry.command, entry.time) := by
  induction h with
  | init hi =>
    rw [hi.2] at hentry
    cases hentry
  | @step s _ input hr _ hs ih =>
    cases hs
    rcases List.mem_cons.1 hentry with rfl | hold
    · exact ⟨s.room, (sound_of_log hr).config, rfl⟩
    · exact ih hold

/-- In a run in which time does not go back, nothing was recorded after the latest entry. -/
theorem past_of_log (h : (roomLog room config).Reach onTime s) {tick : RoomEntry}
    {rest : List RoomEntry} (hentries : s.entries = tick :: rest) :
    (∀ e ∈ s.entries, e.time ≤ tick.time) ∧ Room.Past s.recorded tick.time := by
  have htimes : ∀ e ∈ s.entries, e.time ≤ tick.time := by
    cases h with
    | init hi =>
      rw [hi.2] at hentries
      cases hentries
    | step input _ hg hs =>
      cases hs
      cases hentries
      intro e he
      rcases List.mem_cons.1 he with rfl | hold
      · exact Nat.le_refl _
      · exact hg e hold
  refine ⟨htimes, ?_⟩
  rintro ⟨time, event⟩ hmem
  obtain ⟨e, he, hevent⟩ := List.mem_flatMap.1 hmem
  obtain ⟨rfl, -⟩ := mem_stamp.1 hevent
  exact htimes e (List.mem_reverse.1 he)

end Runs

end Snf.Game
