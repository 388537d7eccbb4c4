import Snf.Game.DamageLedger
import Snf.Game.ProjectileLives

/-! # The flights of a tick

A tick lets the participants walk, then each projectile has its turn in the order of their ids,
then the enemies act and reinforcements come. What a projectile does depends on the enemies that
the turns before it have left. A turn that kills the boss is the end of the tick.
-/

namespace Snf.Game

open Snf.Lib

/-! ## Turns -/

/-- A projectile has moved or not. -/
def Moves (q : Projectile) (events : List BattleEvent) : Prop :=
  events = [] ∨ ∃ position, events = [.projectileMoved q.id position]

/-- **The turn of a projectile**, with its events, between the enemies before and after it. -/
inductive Fate (t : Nat) (enemies : List Enemy) (q : Projectile) :
    List BattleEvent → List Enemy → Prop where
  | expired : q.expiresAt ≤ t → Fate t enemies q [.projectileRemoved q.id .expired] enemies
  | targetLost : t < q.expiresAt → (∀ e ∈ enemies, e.id = q.target → e.health = 0) →
      Fate t enemies q [.projectileRemoved q.id .targetLost] enemies
  | flies {e : Enemy} {moves : List BattleEvent} :
      t < q.expiresAt → e ∈ enemies → e.id = q.target → e.health ≠ 0 → Moves q moves →
      Fate t enemies q moves enemies
  | hits {e : Enemy} {moves : List BattleEvent} :
      t < q.expiresAt → e ∈ enemies → e.id = q.target → e.health ≠ 0 → Moves q moves →
      Fate t enemies q
        (moves ++ ((Room.hit e q.owner q.skillId q.damage).2 ++ [.projectileRemoved q.id .hit]))
        (enemies.map fun c =>
          if c.id = e.id then (Room.hit e q.owner q.skillId q.damage).1 else c)

/-- The boss lies dead among these enemies. -/
def BossFallen (enemies : List Enemy) : Prop := ∃ e ∈ enemies, e.kind = .boss ∧ e.health = 0

/-- **The turns of a tick**, one after the other. The flag tells that the boss has been killed,
which ends them. -/
inductive Flights (t : Nat) : List Enemy → List Projectile → List (List BattleEvent) → Bool → Prop
    where
  | done {enemies : List Enemy} : Flights t enemies [] [] false
  | turn {enemies enemies' : List Enemy} {q : Projectile} {rest : List Projectile}
      {events : List BattleEvent} {fates : List (List BattleEvent)} {killed : Bool} :
      Fate t enemies q events enemies' → ¬ BossFallen enemies' →
      Flights t enemies' rest fates killed →
      Flights t enemies (q :: rest) (events :: fates) killed
  | boss {enemies enemies' : List Enemy} {q : Projectile} {rest : List Projectile}
      {events : List BattleEvent} :
      Fate t enemies q events enemies' → BossFallen enemies' →
      Flights t enemies (q :: rest) [events] true

namespace Room

variable {r : Room} {t : Nat} {q : Projectile}

theorem moves_flown (r : Room) (q : Projectile) (target : Enemy) :
    Moves q (r.flownEvents q target) := by
  unfold flownEvents
  split
  · exact .inl rfl
  · exact .inr ⟨_, rfl⟩

/-- Nobody alive has an id that the search does not find. -/
theorem dead_of_findLivingEnemy (hkeys : (r.enemies.map (·.id)).Nodup) {id : EnemyId}
    (h : r.findLivingEnemy id = none) : ∀ e ∈ r.enemies, e.id = id → e.health = 0 := by
  intro e he hid
  by_contra halive
  unfold findLivingEnemy at h
  cases hfound : r.enemies.find? (·.id = id) with
  | none => exact List.find?_eq_none.1 hfound e he (by simpa using hid)
  | some c =>
    have hc := List.mem_of_find?_eq_some hfound
    have hcid : c.id = id := by simpa using List.find?_some hfound
    obtain rfl := List.inj_on_of_nodup_map hkeys hc he (hcid.trans hid.symm)
    rw [hfound, Option.filter_some, if_pos (by simpa using halive)] at h
    cases h

theorem fate_advanceProjectile (hkeys : (r.enemies.map (·.id)).Nodup) :
    ∃ events, (r.advanceProjectile q t).2.2.pendingEvents = r.pendingEvents ++ events ∧
      Fate t r.enemies q events (r.advanceProjectile q t).2.2.enemies := by
  by_cases hexpired : q.expiresAt ≤ t
  · simp only [advanceProjectile, if_pos hexpired]
    exact ⟨_, rfl, .expired hexpired⟩
  have hlive : t < q.expiresAt := Nat.not_le.1 hexpired
  cases htarget : r.findLivingEnemy q.target with
  | none =>
    simp only [advanceProjectile, if_neg hexpired, htarget]
    exact ⟨_, rfl, .targetLost hlive (dead_of_findLivingEnemy hkeys htarget)⟩
  | some target =>
    obtain ⟨hmem, halive, hid⟩ := mem_of_findLivingEnemy htarget
    have hmoves := moves_flown r q target
    rw [advanceProjectile_eq hexpired htarget]
    generalize r.flownEvents q target = moves at hmoves ⊢
    split
    · exact ⟨moves, rfl, .flies hlive hmem hid halive hmoves⟩
    · refine ⟨_, List.append_assoc _ _ _, .hits hlive hmem hid halive hmoves⟩

/-- **The loop over the projectiles takes their turns.** -/
theorem flights_advanceProjectiles (t : Nat) (qs : List Projectile) (r : Room)
    (hkeys : (r.enemies.map (·.id)).Nodup) (hup : ¬ r.BossDown) :
    ∃ fates, (advanceProjectiles t r qs).2.1.pendingEvents = r.pendingEvents ++ fates.flatten ∧
      Flights t r.enemies qs fates (advanceProjectiles t r qs).1 := by
  induction qs generalizing r with
  | nil => exact ⟨[], (List.append_nil _).symm, .done⟩
  | cons q rest ih =>
    have hflight := path_advanceProjectile (t := t) (q := q) [] [] hkeys
    obtain ⟨events, hevents, hfate⟩ := fate_advanceProjectile (q := q) (t := t) hkeys
    simp only [advanceProjectiles]
    generalize r.advanceProjectile q t = out at hflight hevents hfate ⊢
    obtain ⟨verdict, q', r'⟩ := out
    have hkeys' : (r'.enemies.map (·.id)).Nodup := by
      rw [hflight.ids]
      exact hkeys
    have hmore (hspared : verdict ≠ .bossKilled) : ∃ fates,
        (advanceProjectiles t r' rest).2.1.pendingEvents = r.pendingEvents ++ fates.flatten ∧
        Flights t r.enemies (q :: rest) fates (advanceProjectiles t r' rest).1 := by
      have hup' := hflight.spared hspared hup
      obtain ⟨fates, hpending, hflights⟩ := ih r' hkeys' hup'
      refine ⟨events :: fates, ?_, .turn hfate hup' hflights⟩
      rw [hpending, hevents, List.flatten_cons, List.append_assoc]
    cases verdict with
    | active => exact hmore (fun h => by cases h)
    | removed => exact hmore (fun h => by cases h)
    | bossKilled =>
      refine ⟨[events], ?_, .boss hfate (hflight.killed rfl)⟩
      rw [List.flatten_singleton]
      exact hevents

end Room

/-! ## The rest of a tick -/

namespace BattleEvent

def isWalk : BattleEvent → Bool
  | .participantMoved _ _ => true
  | _ => false

/-- What may happen after the projectiles have flown. -/
def isAftermath : BattleEvent → Bool
  | .enemyPositioned _ _ | .participantDamaged _ _ _ _ | .participantDied _
  | .enemySpawned _ _ _ => true
  | _ => false

end BattleEvent

namespace Room

variable {r r' r'' : Room} {t : Nat}

/-- Nothing but what may happen after the flights has been recorded. -/
def Winds (r r' : Room) : Prop :=
  ∃ events, r'.pendingEvents = r.pendingEvents ++ events ∧ ∀ e ∈ events, e.isAftermath = true

namespace Winds

theorem of_eq (h : r'.pendingEvents = r.pendingEvents) : Winds r r' :=
  ⟨[], by rw [h, List.append_nil], List.forall_mem_nil _⟩

theorem trans (h : Winds r r') (h' : Winds r' r'') : Winds r r'' := by
  obtain ⟨first, hfirst, hall⟩ := h
  obtain ⟨second, hsecond, hall'⟩ := h'
  refine ⟨first ++ second, by rw [hsecond, hfirst, List.append_assoc], ?_⟩
  exact List.forall_mem_append.2 ⟨hall, hall'⟩

theorem pushEvents {events : List BattleEvent} (hall : ∀ e ∈ events, e.isAftermath = true) :
    Winds r (r.pushEvents events) := ⟨events, rfl, hall⟩

theorem attack (e : Enemy) (target : Participant) (t : Nat) :
    Winds r (r.attack e target t).2 := by
  rw [attack_eq]
  refine ⟨_, rfl, ?_⟩
  unfold blow
  split <;> simp [BattleEvent.isAftermath]

theorem actEnemies (t : Nat) (es : List Enemy) (r : Room) :
    Winds r (Room.actEnemies t r es).2.1 := by
  induction es generalizing r with
  | nil => exact of_eq rfl
  | cons e rest ih =>
    simp only [Room.actEnemies]
    split
    · exact ih r
    · split
      · exact of_eq rfl
      · next target _ =>
        have hcame : Winds r (r.pushEvents (r.approach e target.position).2) := by
          refine pushEvents ?_
          rcases approach_cases r e target.position with heq | heq
          · rw [heq]
            exact List.forall_mem_nil _
          · rw [heq]
            exact List.forall_mem_singleton.2 rfl
        generalize r.approach e target.position = came at hcame ⊢
        split
        · exact hcame.trans (ih _)
        · split
          · exact hcame.trans (attack _ _ _)
          · exact (hcame.trans (attack _ _ _)).trans (ih _)

theorem spawned (e : Enemy) : ∀ event ∈ Room.spawned e, event.isAftermath = true := by
  simp [Room.spawned, BattleEvent.isAftermath]

theorem spawnWave (t : Nat) : Winds r (r.spawnWave t) := by
  unfold Room.spawnWave
  split
  · exact of_eq rfl
  · refine ⟨_, rfl, ?_⟩
    intro event hevent
    obtain ⟨events, hevents, hmem⟩ := List.mem_flatten.1 hevent
    obtain ⟨e, -, rfl⟩ := List.mem_map.1 hevents
    exact spawned e event hmem

theorem spawnWaves (t left : Nat) : Winds r (Room.spawnWaves t left r) := by
  induction left generalizing r with
  | zero => exact of_eq rfl
  | succ left ih =>
    simp only [Room.spawnWaves]
    split
    · exact (spawnWave t).trans (Winds.trans (of_eq rfl) ih)
    · exact of_eq rfl

theorem reinforce (t : Nat) (r : Room) : Winds r (Room.reinforce t r) := by
  have hwaves := spawnWaves (r := r) t (r.config.waveCount - r.spawnedWaveCount)
  unfold Room.reinforce
  generalize Room.spawnWaves t (r.config.waveCount - r.spawnedWaveCount) r = waved at hwaves ⊢
  dsimp only
  split
  · refine hwaves.trans ?_
    unfold spawnBoss
    split
    · exact of_eq rfl
    · exact pushEvents (spawned _)
  · exact hwaves

end Winds

/-- **The events of a tick.** -/
theorem tick_events (hkeys : (r.enemies.map (·.id)).Nodup) (hphase : r.phase = .running)
    (hearly : t < r.battleDeadlineAt) : ∃ walks fates rest killed,
      r.recordedBy (r.simulationTick t) = walks ++ fates.flatten ++ rest ∧
      (∀ e ∈ walks, e.isWalk = true) ∧
      Flights t (r.enemies.filter (·.health ≠ 0)) r.projectiles fates killed ∧
      (∀ e ∈ rest, e.isAftermath = true) ∧ (killed = true → rest = []) := by
  rw [simulationTick_eq hphase hearly]
  obtain ⟨walks, hwalks, hwalked⟩ : ∃ walks,
      (r.withEnemies (r.enemies.filter (·.health ≠ 0))).moveParticipants.pendingEvents =
        r.pendingEvents ++ walks ∧ ∀ e ∈ walks, e.isWalk = true := by
    refine ⟨_, rfl, ?_⟩
    intro e he
    obtain ⟨p, -, hp⟩ := List.mem_filterMap.1 he
    split at hp
    · cases hp
    · cases hp
      rfl
  have hkeys' : ((r.withEnemies (r.enemies.filter
      (·.health ≠ 0))).moveParticipants.enemies.map (·.id)).Nodup :=
    hkeys.sublist (List.filter_sublist.map _)
  have hup : ¬ (r.withEnemies (r.enemies.filter (·.health ≠ 0))).moveParticipants.BossDown := by
    rintro ⟨e, he, -, hdead⟩
    have halive := (List.mem_filter.1 he).2
    simp only [decide_eq_true_eq] at halive
    exact halive hdead
  have hprojectiles : (r.withEnemies (r.enemies.filter
      (·.health ≠ 0))).moveParticipants.projectiles = r.projectiles := rfl
  have henemies : (r.withEnemies (r.enemies.filter
      (·.health ≠ 0))).moveParticipants.enemies = r.enemies.filter (·.health ≠ 0) := rfl
  generalize (r.withEnemies (r.enemies.filter (·.health ≠ 0))).moveParticipants = walked at *
  obtain ⟨fates, hpending, hflights⟩ :=
    flights_advanceProjectiles t walked.projectiles walked hkeys' hup
  rw [henemies, hprojectiles] at hflights
  rw [hprojectiles] at hpending ⊢
  generalize advanceProjectiles t walked r.projectiles = out at hpending hflights ⊢
  obtain ⟨killed, flying, left⟩ := out
  rw [hwalks] at hpending
  cases killed with
  | true =>
    refine ⟨walks, fates, [], true, ?_, hwalked, hflights, List.forall_mem_nil _, fun _ => rfl⟩
    rw [List.append_nil]
    refine recordedBy_eq (m := (flying.withProjectiles left).concluded .cleared)
      (.clearBattle _) r ?_
    rw [← List.append_assoc]
    exact hpending
  | false =>
    have hacted := Winds.actEnemies t flying.enemies (flying.withProjectiles left)
    simp only [afterFlight, afterAssault, Bool.false_eq_true, if_false]
    generalize Room.actEnemies t (flying.withProjectiles left) flying.enemies = acted at hacted ⊢
    obtain ⟨alive, fighting, enemies⟩ := acted
    have hpending' : (flying.withProjectiles left).pendingEvents =
        r.pendingEvents ++ walks ++ fates.flatten := hpending
    cases alive with
    | false =>
      obtain ⟨rest, hrest, hall⟩ := hacted
      refine ⟨walks, fates, rest, false, ?_, hwalked, hflights, hall, (fun h => by cases h)⟩
      refine recordedBy_eq (m := (fighting.withEnemies enemies).concluded .failed)
        (.failBattle _ _ _) r ?_
      rw [← List.append_assoc, ← List.append_assoc, ← hpending']
      exact hrest
    | true =>
      obtain ⟨rest, hrest, hall⟩ := hacted.trans
        (Winds.reinforce t (fighting.withEnemies enemies) :
          Winds fighting (Room.reinforce t (fighting.withEnemies enemies)))
      refine ⟨walks, fates, rest, false, ?_, hwalked, hflights, hall, (fun h => by cases h)⟩
      refine recordedBy_eq (.withDigest rfl) r ?_
      rw [← List.append_assoc, ← List.append_assoc, ← hpending']
      exact hrest

end Room

/-! ## The laws of a tick -/

/-- Nothing was just dealt. -/
def Settled (H : List BattleEvent) : Prop :=
  ∀ last, H.getLast? = some last → last.damage = none ∧ last.death = none

/-- A projectile that is removed without a hit does not directly follow damage or a death. -/
def Unprovoked (past : List BattleEvent) (event : BattleEvent) : Prop :=
  ∀ id reason, event = .projectileRemoved id reason → reason ≠ .hit → Settled past

theorem settled_concat {H : List BattleEvent} {event : BattleEvent} (hdamage : event.damage = none)
    (hdeath : event.death = none) : Settled (H ++ [event]) := by
  intro last hlast
  rw [List.getLast?_concat] at hlast
  cases hlast
  exact ⟨hdamage, hdeath⟩

section Turns

variable {t : Nat} {enemies enemies' : List Enemy} {q : Projectile} {qs : List Projectile}
  {events : List BattleEvent} {fates : List (List BattleEvent)} {killed : Bool}

theorem damage_of_mem_hit {e : Enemy} {owner : PlayerId} {skill : SkillId} {damage : Nat}
    {event : BattleEvent} (h : event ∈ (Room.hit e owner skill damage).2) :
    (∃ amount left, event = .enemyDamaged e.id owner skill amount left) ∨
      event = .enemyDied e.id := by
  rcases List.mem_cons.1 h with rfl | hdied
  · exact .inl ⟨_, _, rfl⟩
  · split at hdied
    · exact .inr (List.mem_singleton.1 hdied)
    · cases hdied

/-- What the events of a turn are. -/
theorem Fate.event_cases (h : Fate t enemies q events enemies') {event : BattleEvent}
    (hmem : event ∈ events) :
    (∃ reason, event = .projectileRemoved q.id reason ∧ (reason = .expired ↔ q.expiresAt ≤ t)) ∨
      t < q.expiresAt ∧ ((∃ position, event = .projectileMoved q.id position) ∨
        (∃ amount left, event = .enemyDamaged q.target q.owner q.skillId amount left) ∨
        event = .enemyDied q.target) := by
  have hmoves {moves : List BattleEvent} (hmoves : Moves q moves) (hmem : event ∈ moves) :
      ∃ position, event = .projectileMoved q.id position := by
    rcases hmoves with rfl | ⟨position, rfl⟩
    · cases hmem
    · exact ⟨position, List.mem_singleton.1 hmem⟩
  cases h with
  | expired hexpired =>
    exact .inl ⟨.expired, List.mem_singleton.1 hmem, iff_of_true rfl hexpired⟩
  | targetLost hlive =>
    exact .inl ⟨.targetLost, List.mem_singleton.1 hmem, iff_of_false nofun (Nat.not_le.2 hlive)⟩
  | flies hlive _ _ _ hmoved => exact .inr ⟨hlive, .inl (hmoves hmoved hmem)⟩
  | hits hlive _ hid _ hmoved =>
    rcases List.mem_append.1 hmem with hmem | hmem
    · exact .inr ⟨hlive, .inl (hmoves hmoved hmem)⟩
    · rcases List.mem_append.1 hmem with hblow | hremoved
      · rw [← hid]
        exact .inr ⟨hlive, .inr (damage_of_mem_hit hblow)⟩
      · exact .inl ⟨.hit, List.mem_singleton.1 hremoved,
          iff_of_false nofun (Nat.not_le.2 hlive)⟩

/-- Every event belongs to a turn. -/
theorem Flights.event_cases (h : Flights t enemies qs fates killed) {event : BattleEvent}
    (hmem : event ∈ fates.flatten) : ∃ q ∈ qs,
    (∃ reason, event = .projectileRemoved q.id reason ∧ (reason = .expired ↔ q.expiresAt ≤ t)) ∨
      t < q.expiresAt ∧ ((∃ position, event = .projectileMoved q.id position) ∨
        (∃ amount left, event = .enemyDamaged q.target q.owner q.skillId amount left) ∨
        event = .enemyDied q.target) := by
  induction h with
  | done => cases hmem
  | @turn _ _ q _ _ _ _ hfate _ _ ih =>
    rw [List.flatten_cons] at hmem
    rcases List.mem_append.1 hmem with hfirst | hrest
    · exact ⟨q, List.mem_cons_self, hfate.event_cases hfirst⟩
    · obtain ⟨q', hq', hcases⟩ := ih hrest
      exact ⟨q', List.mem_cons_of_mem _ hq', hcases⟩
  | @boss _ _ q _ _ hfate =>
    rw [List.flatten_singleton] at hmem
    exact ⟨q, List.mem_cons_self, hfate.event_cases hmem⟩

theorem Fate.settled (h : Fate t enemies q events enemies') {H : List BattleEvent}
    (hsettled : Settled H) (hbefore : Throughout Unprovoked H) :
    Throughout Unprovoked (H ++ events) ∧ Settled (H ++ events) := by
  have hmoves {moves : List BattleEvent} (hmoves : Moves q moves) :
      Throughout Unprovoked (H ++ moves) ∧ Settled (H ++ moves) := by
    rcases hmoves with rfl | ⟨position, rfl⟩
    · rw [List.append_nil]
      exact ⟨hbefore, hsettled⟩
    · exact ⟨hbefore.concat nofun, settled_concat rfl rfl⟩
  cases h with
  | expired => exact ⟨hbefore.concat fun _ _ _ _ => hsettled, settled_concat rfl rfl⟩
  | targetLost => exact ⟨hbefore.concat fun _ _ _ _ => hsettled, settled_concat rfl rfl⟩
  | flies _ _ _ _ hmoved => exact hmoves hmoved
  | hits _ _ _ _ hmoved =>
    rw [← List.append_assoc, ← List.append_assoc]
    refine ⟨((hmoves hmoved).1.append ?_).concat ?_, settled_concat rfl rfl⟩
    · intro event hevent past
      rcases damage_of_mem_hit hevent with ⟨amount, left, rfl⟩ | rfl
      · exact nofun
      · exact nofun
    · intro id reason heq hne
      cases heq
      exact absurd rfl hne

theorem Flights.unprovoked (h : Flights t enemies qs fates killed) {H : List BattleEvent}
    (hsettled : Settled H) (hbefore : Throughout Unprovoked H) :
    Throughout Unprovoked (H ++ fates.flatten) := by
  induction h generalizing H with
  | done =>
    rw [List.flatten_nil, List.append_nil]
    exact hbefore
  | turn hfate _ _ ih =>
    obtain ⟨hall, hafter⟩ := hfate.settled hsettled hbefore
    rw [List.flatten_cons, ← List.append_assoc]
    exact ih hafter hall
  | boss hfate =>
    rw [List.flatten_singleton]
    exact (hfate.settled hsettled hbefore).1

end Turns

/-- **The law of a tick** at time `t`, with all events that it records. -/
structure TickLaw (r : Room) (t : Nat) (events : List BattleEvent) : Prop where
  /-- The projectiles have their turns in the order of their ids. -/
  order : (r.projectiles.map (·.id)).Pairwise (· < ·)
  /-- The tick is made of walks, the turns of the projectiles and the aftermath. There is no
  aftermath if the boss has been killed. -/
  turns : ∃ walks fates rest killed, events = walks ++ fates.flatten ++ rest ∧
    (∀ e ∈ walks, e.isWalk = true) ∧
    Flights t (r.enemies.filter (·.health ≠ 0)) r.projectiles fates killed ∧
    (∀ e ∈ rest, e.isAftermath = true) ∧ (killed = true → rest = [])
  /-- What has expired does not move. -/
  moved : ∀ id position, .projectileMoved id position ∈ events →
    ∃ q ∈ r.projectiles, q.id = id ∧ t < q.expiresAt
  /-- What has expired deals no damage. -/
  dealt : ∀ target actor skill amount left,
    .enemyDamaged target actor skill amount left ∈ events →
    ∃ q ∈ r.projectiles, q.target = target ∧ q.owner = actor ∧ q.skillId = skill ∧ t < q.expiresAt
  /-- What has expired is removed for that reason, and nothing else is. -/
  removed : ∀ id reason, .projectileRemoved id reason ∈ events →
    ∃ q ∈ r.projectiles, q.id = id ∧ (reason = .expired ↔ q.expiresAt ≤ t)
  /-- Only the removal of a hit directly follows damage or a death. -/
  unprovoked : Throughout Unprovoked events

theorem Room.tickLaw {r : Room} {t : Nat} (hranks : r.Ranks) (hphase : r.phase = .running)
    (hearly : t < r.battleDeadlineAt) : TickLaw r t (r.recordedBy (r.simulationTick t)) := by
  obtain ⟨walks, fates, rest, killed, hevents, hwalks, hflights, hrest, hkilled⟩ :=
    tick_events (hranks.ids.imp Nat.ne_of_lt) hphase hearly
  -- an event that is neither a walk nor of the aftermath belongs to a turn
  have hturn {event : BattleEvent} (hmem : event ∈ r.recordedBy (r.simulationTick t))
      (hnot : event.isWalk = false) (hnot' : event.isAftermath = false) :
      event ∈ fates.flatten := by
    rw [hevents] at hmem
    rcases List.mem_append.1 hmem with hmem | hlate
    · rcases List.mem_append.1 hmem with hwalk | hmine
      · rw [hwalks event hwalk] at hnot
        cases hnot
      · exact hmine
    · rw [hrest event hlate] at hnot'
      cases hnot'
  refine ⟨hranks.shots, ⟨walks, fates, rest, killed, hevents, hwalks, hflights, hrest, hkilled⟩,
    ?_, ?_, ?_, ?_⟩
  · intro id position hmem
    obtain ⟨q, hq, ⟨_, heq, -⟩ | ⟨hlive, ⟨_, heq⟩ | ⟨_, _, heq⟩ | heq⟩⟩ :=
      hflights.event_cases (hturn hmem rfl rfl)
    · cases heq
    · cases heq
      exact ⟨q, hq, rfl, hlive⟩
    · cases heq
    · cases heq
  · intro target actor skill amount left hmem
    obtain ⟨q, hq, ⟨_, heq, -⟩ | ⟨hlive, ⟨_, heq⟩ | ⟨_, _, heq⟩ | heq⟩⟩ :=
      hflights.event_cases (hturn hmem rfl rfl)
    · cases heq
    · cases heq
    · cases heq
      exact ⟨q, hq, rfl, rfl, rfl, hlive⟩
    · cases heq
  · intro id reason hmem
    obtain ⟨q, hq, ⟨_, heq, hexpired⟩ | ⟨hlive, ⟨_, heq⟩ | ⟨_, _, heq⟩ | heq⟩⟩ :=
      hflights.event_cases (hturn hmem rfl rfl)
    · cases heq
      exact ⟨q, hq, rfl, hexpired⟩
    · cases heq
    · cases heq
    · cases heq
  · rw [hevents]
    refine (hflights.unprovoked (H := walks) ?_ ?_).append ?_
    · intro last hlast
      have hwalk := hwalks last (List.mem_of_getLast? hlast)
      cases last <;> first | exact ⟨rfl, rfl⟩ | cases hwalk
    · refine Throughout.append (throughout_nil Unprovoked) ?_
      rintro event hevent past id reason rfl
      cases hwalks _ hevent
    · rintro event hevent past id reason rfl
      cases hrest _ hevent

/-! ## Runs -/

section Runs

variable {room : RoomId} {config : RoomConfig} {s : RoomLog}

/-- **The lives of projectiles.** Take any run of a Room in which time does not go back, and all
events that were recorded in it. A projectile is spawned before anything else is told of it,
moves and is removed only while it is in the air, and a hit directly follows the damage to its
target and the death if there is one. While the battle is running and someone is there, the
active projectiles are those in the air. And the next tick keeps its law, unless it comes after
the deadline and records nothing. -/
theorem projectile_lives (h : (roomLog room config).Reach onTime s) :
    (∀ past event future, s.recorded.map (·.2) = past ++ event :: future → Flies past event) ∧
    (s.room.phase = .running → s.room.participants ≠ [] → ∀ id,
      (∃ q ∈ s.room.projectiles, q.id = id) ↔ Airborne (s.recorded.map (·.2)) id) ∧
    ∀ t, s.room.phase = .running →
      (t < s.room.battleDeadlineAt →
        TickLaw s.room t (s.room.recordedBy (s.room.handle .simulationTick t))) ∧
      (s.room.battleDeadlineAt ≤ t →
        s.room.recordedBy (s.room.handle .simulationTick t) = []) := by
  have hairspace := (Room.Airspace.kept config).of_log h
  have hsound := sound_of_log h
  refine ⟨hairspace.flies, ?_, ?_⟩
  · intro hphase hsome id
    constructor
    · rintro ⟨q, hq, rfl⟩
      exact hairspace.airborne hq
    · exact hairspace.active hphase hsome id
  · intro t hphase
    refine ⟨Room.tickLaw hsound.ranks hphase, ?_⟩
    intro hlate
    have hfail : s.room.handle .simulationTick t = s.room.failBattle .applied none .deadline := by
      show s.room.simulationTick t = _
      unfold Room.simulationTick
      rw [if_neg (not_not.2 hphase), if_pos hlate]
    rw [hfail]
    exact Room.recordedBy_eq (.failBattle _ _ _) s.room (List.append_nil _).symm

end Runs

/-- The law at work: a bolt is in the air. -/
theorem projectile_lives_bolt :
    ∃ s, (roomLog 1 {}).Reach onTime s ∧ Airborne (s.recorded.map (·.2)) 1 ∧
      TickLaw s.room 100 (s.room.recordedBy (s.room.handle .simulationTick 100)) := by
  obtain ⟨s, hs, ht⟩ := (roomLog 1 {}).exists_reach_of_replay onTime
    (s := { room := { id := 1, config := {} } }) ⟨rfl, rfl⟩
    [(.joinRoom 7 ⟨10, 100⟩ arcaneBolt, 0), (.startBattle, 0), (.useSkill 7 arcaneBolt 1, 10)]
    (fun s => s.room.phase = .running && !s.room.participants.isEmpty &&
      s.room.projectiles.any (·.id = 1) && decide (100 < s.room.battleDeadlineAt))
    (by decide +kernel)
  simp only [Bool.and_eq_true, decide_eq_true_eq, List.any_eq_true, Bool.not_eq_true',
    List.isEmpty_eq_false_iff] at ht
  obtain ⟨⟨⟨hphase, hsome⟩, hq⟩, hearly⟩ := ht
  obtain ⟨-, hactive, htick⟩ := projectile_lives hs
  exact ⟨s, hs, (hactive hphase hsome 1).1 hq, (htick 100 hphase).1 hearly⟩

/-- Slash kills the target of a bolt, and the next tick begins with the removal of the bolt: it
directly follows the death of its target without being a hit. -/
theorem removal_after_slash :
    ∃ s, Machine.Reach (roomLog 1 { waveCount := 1, minionsPerWave := 1, minionSpawnRadius := 5 })
        onTime s ∧
      s.room.phase = .running ∧ s.room.participants ≠ [] ∧
      ∃ past future owner skill target position actor amount,
        s.recorded.map (·.2) = past ++ .enemyDamaged target actor slash amount 0 ::
          .enemyDied target :: .projectileRemoved 1 .targetLost :: future ∧
        .projectileSpawned 1 owner skill target position ∈ past := by
  obtain ⟨s, hs, ht⟩ := Machine.exists_reach_of_replay
    (roomLog 1 { waveCount := 1, minionsPerWave := 1, minionSpawnRadius := 5 }) onTime
    (s := { room := { id := 1, config := {
      waveCount := 1, minionsPerWave := 1, minionSpawnRadius := 5 } } }) ⟨rfl, rfl⟩
    [(.joinRoom 7 ⟨100, 1000⟩ slash, 0), (.joinRoom 8 ⟨100, 1000⟩ arcaneBolt, 0), (.startBattle, 0),
      (.useSkill 8 arcaneBolt 1, 10), (.useSkill 7 slash 1, 20), (.simulationTick, 100)]
    (fun s => s.room.phase = .running && !s.room.participants.isEmpty &&
      (s.recorded.map (·.2)).drop 6 = [.enemyDamaged 1 7 slash 60 0, .enemyDied 1,
        .projectileRemoved 1 .targetLost] &&
      decide (BattleEvent.projectileSpawned 1 8 arcaneBolt 1 ⟨52, 50⟩ ∈
        (s.recorded.map (·.2)).take 6))
    (by decide +kernel)
  simp only [Bool.and_eq_true, decide_eq_true_eq, Bool.not_eq_true',
    List.isEmpty_eq_false_iff] at ht
  obtain ⟨⟨⟨hphase, hsome⟩, hlast⟩, hspawned⟩ := ht
  refine ⟨s, hs, hphase, hsome, _, [], 8, arcaneBolt, 1, ⟨52, 50⟩, 7, 60, ?_, hspawned⟩
  rw [← hlast, List.take_append_drop]

end Snf.Game
