import Snf.Lib.Sorted
import Snf.Game.Room

/-! # The course of a Room

What a command can do to the phase of a Room and to the players in it. The functions that
move, hurt and spawn keep both; a battle is decided only while it runs, and a result that
carries an outcome names as its audience the players that are still in the Room.

Only a join and a leave change who is in the Room, only the start of a battle sets its
deadline, and only the start and a tick ask for another tick.
-/

namespace Snf.Game.Room

open Snf.Lib

/-- The battle has been decided. -/
def Over (r : Room) : Prop := r.phase = .cleared ∨ r.phase = .failed

instance (r : Room) : Decidable r.Over := inferInstanceAs (Decidable (_ ∨ _))

/-- The same Room with the same players in the same phase. -/
structure SameSeats (r r' : Room) : Prop where
  id : r'.id = r.id
  config : r'.config = r.config
  phase : r'.phase = r.phase
  audience : r'.audience = r.audience

/-- The same seats in a battle with the same deadline. -/
structure SameBattle (r r' : Room) : Prop extends SameSeats r r' where
  deadlineAt : r'.battleDeadlineAt = r.battleDeadlineAt

namespace SameBattle

variable {r s t : Room}

theorem refl (r : Room) : SameBattle r r := ⟨⟨rfl, rfl, rfl, rfl⟩, rfl⟩

theorem trans (h : SameBattle r s) (h' : SameBattle s t) : SameBattle r t :=
  ⟨⟨h'.id.trans h.id, h'.config.trans h.config, h'.phase.trans h.phase,
    h'.audience.trans h.audience⟩, h'.deadlineAt.trans h.deadlineAt⟩

theorem pushEvents (events : List BattleEvent) : SameBattle r (r.pushEvents events) :=
  ⟨⟨rfl, rfl, rfl, rfl⟩, rfl⟩

theorem setParticipant (participant : Participant) :
    SameBattle r (r.setParticipant participant) := by
  refine ⟨⟨rfl, rfl, rfl, ?_⟩, rfl⟩
  simp only [Room.audience, Room.setParticipant, List.map_map]
  refine List.map_congr_left fun p _ => ?_
  simp only [Function.comp_apply]
  split
  · next h => exact h.symm
  · rfl

theorem takeDigest : SameBattle r r.takeDigest.2 := by
  simp only [Room.takeDigest]
  split <;> exact ⟨⟨rfl, rfl, rfl, rfl⟩, rfl⟩

theorem initializeArena : SameBattle r r.initializeArena := by
  refine ⟨⟨rfl, rfl, rfl, ?_⟩, rfl⟩
  simp only [Room.initializeArena, Room.pushEvents, Room.audience, List.map_map]
  calc r.participants.zipIdx.map _
      = r.participants.zipIdx.map (Participant.playerId ∘ Prod.fst) :=
        List.map_congr_left fun _ _ => rfl
    _ = r.participants.map Participant.playerId := by
        rw [← List.map_map, List.zipIdx_map_fst]

theorem moveParticipants : SameBattle r r.moveParticipants := by
  refine ⟨⟨rfl, rfl, rfl, ?_⟩, rfl⟩
  simp only [Room.moveParticipants, Room.pushEvents, Room.audience, List.map_map]
  rfl

theorem attack (enemy : Enemy) (target : Participant) (observedAt : Nat) :
    SameBattle r (r.attack enemy target observedAt).2 := by
  simp only [Room.attack]
  split
  · exact (setParticipant _).trans (pushEvents _)
  · exact (setParticipant _).trans (pushEvents _)

theorem actEnemies (observedAt : Nat) (enemies : List Enemy) :
    SameBattle r (Room.actEnemies observedAt r enemies).2.1 := by
  induction enemies generalizing r with
  | nil => exact .refl r
  | cons enemy rest ih =>
    simp only [Room.actEnemies]
    split
    · exact ih
    · split
      · exact .refl r
      · split
        · exact (pushEvents _).trans ih
        · split
          · exact (pushEvents _).trans (attack _ _ _)
          · exact ((pushEvents _).trans (attack _ _ _)).trans ih

theorem spawnWave (observedAt : Nat) : SameBattle r (r.spawnWave observedAt) := by
  simp only [Room.spawnWave]
  split
  · exact .refl r
  · exact ⟨⟨rfl, rfl, rfl, rfl⟩, rfl⟩

theorem spawnWaves (observedAt left : Nat) : SameBattle r (Room.spawnWaves observedAt left r) := by
  induction left generalizing r with
  | zero => exact .refl r
  | succ left ih =>
    simp only [Room.spawnWaves]
    split
    · have hnext : SameBattle (r.spawnWave observedAt)
          { r.spawnWave observedAt with
            nextWaveAt := (r.spawnWave observedAt).nextWaveAt +
              (r.spawnWave observedAt).config.waveInterval } := ⟨⟨rfl, rfl, rfl, rfl⟩, rfl⟩
      exact ((spawnWave observedAt).trans hnext).trans ih
    · exact .refl r

theorem spawnBoss (observedAt : Nat) : SameBattle r (r.spawnBoss observedAt) := by
  simp only [Room.spawnBoss]
  split
  · exact .refl r
  · exact ⟨⟨rfl, rfl, rfl, rfl⟩, rfl⟩

theorem advanceProjectile (projectile : Projectile) (observedAt : Nat) :
    SameBattle r (r.advanceProjectile projectile observedAt).2.2 := by
  simp only [Room.advanceProjectile]
  split
  · exact pushEvents _
  · split
    · exact pushEvents _
    · next target _ =>
      generalize (if isWithinRange projectile.position target.position projectile.hitRange = true
        then projectile.position else _) = position
      split <;> exact ⟨⟨rfl, rfl, rfl, rfl⟩, rfl⟩

theorem advanceProjectiles (observedAt : Nat) (projectiles : List Projectile) :
    SameBattle r (Room.advanceProjectiles observedAt r projectiles).2.1 := by
  induction projectiles generalizing r with
  | nil => exact .refl r
  | cons projectile rest ih =>
    have hstep := advanceProjectile (r := r) projectile observedAt
    simp only [Room.advanceProjectiles]
    split
    · next h =>
      rw [h] at hstep
      exact hstep.trans ih
    · next h =>
      rw [h] at hstep
      exact hstep.trans ih
    · next h =>
      rw [h] at hstep
      exact hstep

end SameBattle

/-! ## Results -/

/-- How a command ends: with an outcome for the players that are in the Room, or without
one, and then the phase is as before or the battle has begun. -/
structure Course (r : Room) (out : RoomResult × Room) : Prop where
  id : out.2.id = r.id
  config : out.2.config = r.config
  phase : out.1.phase = out.2.phase
  decided : out.1.outcome.isSome = true →
    r.phase = .running ∧ out.2.Over ∧ out.1.audience = out.2.audience
  undecided : out.1.outcome = none →
    out.2.phase = r.phase ∨ r.phase = .waiting ∧ out.2.phase = .running

/-- A command that leaves the players where they are and asks for no timer. -/
structure Seated (r : Room) (out : RoomResult × Room) : Prop extends Course r out where
  audience : out.2.audience = r.audience
  deadlineAt : out.2.battleDeadlineAt = r.battleDeadlineAt
  deadlineAfter : out.1.deadlineAfter = none
  tickAfter : out.1.tickAfter = none
  ended : out.2.phase = r.phase ∨ r.phase = .running ∧ out.2.Over

namespace Seated

variable {r r' : Room}

/-- A result without an outcome. -/
theorem plain {result : RoomResult} (h : SameBattle r r') (hr : result.phase = r'.phase)
    (ho : result.outcome = none) (hd : result.deadlineAfter = none)
    (ht : result.tickAfter = none) : Seated r (result, r') :=
  ⟨⟨h.id, h.config, hr, fun hsome => by simp [ho] at hsome, fun _ => .inl h.phase⟩,
    h.audience, h.deadlineAt, hd, ht, .inl h.phase⟩

theorem base {status : RoomCommandStatus} {player : Option PlayerId} (h : SameBattle r r') :
    Seated r (r'.baseResult status player, r') :=
  plain h rfl rfl rfl rfl

theorem failBattle {status : RoomCommandStatus} {player : Option PlayerId}
    {reason : BattleFailureReason} (h : SameBattle r r') (hp : r.phase = .running) :
    Seated r (r'.failBattle status player reason) := by
  have hseats := SameBattle.takeDigest (r := { r' with phase := .failed, projectiles := [] })
  exact ⟨⟨hseats.id.trans h.id, hseats.config.trans h.config, hseats.phase.symm,
    fun _ => ⟨hp, .inr hseats.phase, rfl⟩, nofun⟩, hseats.audience.trans h.audience,
    hseats.deadlineAt.trans h.deadlineAt, rfl, rfl, .inr ⟨hp, .inr hseats.phase⟩⟩

theorem clearBattle {player : Option PlayerId} (h : SameBattle r r') (hp : r.phase = .running) :
    Seated r (r'.clearBattle player) := by
  have hseats := SameBattle.takeDigest (r := { r' with phase := .cleared, projectiles := [] })
  exact ⟨⟨hseats.id.trans h.id, hseats.config.trans h.config, hseats.phase.symm,
    fun _ => ⟨hp, .inl hseats.phase, rfl⟩, nofun⟩, hseats.audience.trans h.audience,
    hseats.deadlineAt.trans h.deadlineAt, rfl, rfl, .inr ⟨hp, .inl hseats.phase⟩⟩

theorem finishSkillUse {player : PlayerId} (h : SameBattle r r') :
    Seated r (r'.finishSkillUse player) := by
  simp only [Room.finishSkillUse]
  split
  · exact plain (h.trans .takeDigest) (SameBattle.takeDigest.phase).symm rfl rfl rfl
  · exact base h

theorem applyAreaAttack {c : SkillCastContext} {range : Nat} (hp : r.phase = .running) :
    Seated r (r.applyAreaAttack c range) := by
  have hcommit : SameBattle r (r.commitSkillUse c) := .setParticipant _
  simp only [Room.applyAreaAttack]
  split
  · exact finishSkillUse (hcommit.trans ⟨⟨rfl, rfl, rfl, rfl⟩, rfl⟩)
  · split
    · exact clearBattle (hcommit.trans ⟨⟨rfl, rfl, rfl, rfl⟩, rfl⟩) hp
    · exact finishSkillUse (hcommit.trans ⟨⟨rfl, rfl, rfl, rfl⟩, rfl⟩)

theorem spawnHomingProjectile {c : SkillCastContext} {range speed hitRange lifetime : Nat} :
    Seated r (r.spawnHomingProjectile c range speed hitRange lifetime) := by
  have hcommit : SameBattle r (r.commitSkillUse c) := .setParticipant _
  simp only [Room.spawnHomingProjectile]
  split
  · exact finishSkillUse (hcommit.trans (.pushEvents _))
  · split
    · exact base (.refl r)
    · exact finishSkillUse (hcommit.trans ⟨⟨rfl, rfl, rfl, rfl⟩, rfl⟩)

theorem useSkill {player : PlayerId} {skillId : SkillId} {sequence observedAt : Nat} :
    Seated r (r.useSkill player skillId sequence observedAt) := by
  simp only [Room.useSkill]
  split
  · exact base (.refl r)
  · next hphase =>
    have hphase : r.phase = .running := not_not.1 hphase
    split
    · exact failBattle (.refl r) hphase
    · split
      · exact base (.refl r)
      · split
        · exact base (.refl r)
        · split
          · exact base (.refl r)
          · split
            · exact base (.refl r)
            · split
              · exact base (.refl r)
              · split
                · exact base (.refl r)
                · split
                  · exact applyAreaAttack hphase
                  · exact spawnHomingProjectile

theorem setMoveIntent {player : PlayerId} {direction : MoveDirection}
    {sequence observedAt : Nat} :
    Seated r (r.setMoveIntent player direction sequence observedAt) := by
  simp only [Room.setMoveIntent]
  split
  · exact base (.refl r)
  · next hphase =>
    split
    · exact failBattle (.refl r) (not_not.1 hphase)
    · split
      · exact base (.refl r)
      · split
        · exact base (.refl r)
        · split
          · exact base (.refl r)
          · exact base (.setParticipant _)

theorem battleDeadline {observedAt : Nat} : Seated r (r.battleDeadline observedAt) := by
  simp only [Room.battleDeadline]
  split
  · exact base (.refl r)
  · next h =>
    simp only [Bool.or_eq_true, decide_eq_true_eq, not_or, not_not] at h
    exact failBattle (.refl r) h.1

end Seated

/-! ## Joins and leaves -/

section Seats

variable (r : Room) (player : PlayerId)

/-- The Room with another participant, at the place of its id. -/
def withParticipant (participant : Participant) : Room :=
  { r with
    participants := r.participants.takeWhile (·.playerId < participant.playerId) ++
      participant :: r.participants.dropWhile (·.playerId < participant.playerId) }

/-- The Room without the participant that is found under the id. -/
def withoutParticipant : Room :=
  { r with
    participants := r.participants.takeWhile (·.playerId < player) ++
      (r.participants.dropWhile (·.playerId < player)).tail }

/-- The players stand in the order of their ids, none twice. -/
def InOrder : Prop := r.audience.Pairwise (· < ·)

variable {r player}

/-- A join is refused, or its player is new and takes a seat. -/
theorem joinRoom_cases (r : Room) (player : PlayerId) (stats : CombatStats) (skill : SkillId) :
    ((r.joinRoom player stats skill).2 = r ∧ (r.joinRoom player stats skill).1.status ≠ .applied ∧
        ((r.joinRoom player stats skill).1.status = .alreadyJoined →
          (r.findParticipant player).isSome = true) ∧
        Seated r (r.joinRoom player stats skill)) ∨
      ∃ participant : Participant, participant.playerId = player ∧
        (r.joinRoom player stats skill).1.status = .applied ∧
        r.findParticipant player = none ∧
        (r.joinRoom player stats skill).2 = r.withParticipant participant ∧
        Seated (r.withParticipant participant) (r.joinRoom player stats skill) := by
  unfold Room.joinRoom
  split
  · exact .inl ⟨rfl, nofun, nofun, .base (.refl r)⟩
  · split
    · next hfound => exact .inl ⟨rfl, nofun, fun _ => hfound, .base (.refl r)⟩
    · next hfound =>
      split
      · exact .inl ⟨rfl, nofun, nofun, .base (.refl r)⟩
      · have hnone : r.findParticipant player = none := by simpa using hfound
        refine .inr ⟨⟨player, stats, skill, stats.health, _, _, _, _, _⟩, rfl, rfl, hnone, rfl, ?_⟩
        exact .base (.refl (r.withParticipant _))

/-- A leave is refused, or its player has a seat and gives it up. -/
theorem leaveRoom_cases (r : Room) (player : PlayerId) :
    ((r.leaveRoom player).2 = r ∧ (r.leaveRoom player).1.status ≠ .applied ∧
        Seated r (r.leaveRoom player)) ∨
      (r.leaveRoom player).1.status = .applied ∧ (r.findParticipant player).isSome = true ∧
        Seated (r.withoutParticipant player) (r.leaveRoom player) := by
  simp only [Room.leaveRoom]
  split
  · exact .inl ⟨rfl, nofun, .base (.refl r)⟩
  · split
    · exact .inl ⟨rfl, nofun, .base (.refl r)⟩
    · next hfound =>
      have hsome : (r.findParticipant player).isSome = true := by
        simpa [Option.isNone_iff_eq_none, Option.isSome_iff_ne_none] using hfound
      have hleft : SameBattle (r.withoutParticipant player) (r.withoutParticipant player) := .refl _
      refine .inr ⟨?_, hsome, ?_⟩
      · split
        · rfl
        · split
          · rfl
          · split <;> rfl
      · split
        · exact .base hleft
        · next hphase =>
          have hphase : r.phase = .running := not_not.1 hphase
          split
          · exact .base (hleft.trans ⟨⟨rfl, rfl, rfl, rfl⟩, rfl⟩)
          · split
            · exact .failBattle (hleft.trans (.pushEvents _)) hphase
            · exact .plain ((hleft.trans (.pushEvents _)).trans .takeDigest)
                (SameBattle.takeDigest.phase).symm rfl rfl rfl

theorem InOrder.congr {r' : Room} (ho : r.InOrder) (h : r'.audience = r.audience) : r'.InOrder := by
  unfold InOrder
  rw [h]
  exact ho

theorem perm_withParticipant (r : Room) (participant : Participant) :
    (r.withParticipant participant).participants.Perm (participant :: r.participants) := by
  refine List.perm_middle.trans (.cons _ ?_)
  rw [List.takeWhile_append_dropWhile]

theorem sublist_withoutParticipant (r : Room) (player : PlayerId) :
    (r.withoutParticipant player).participants.Sublist r.participants := by
  have hsub := (List.tail_sublist (r.participants.dropWhile (·.playerId < player))).append_left
    (r.participants.takeWhile (·.playerId < player))
  rwa [List.takeWhile_append_dropWhile] at hsub

theorem audience_withParticipant (participant : Participant) :
    (r.withParticipant participant).audience = insertAt participant.playerId r.audience := by
  simp only [audience, withParticipant, insertAt, List.map_append, List.map_cons,
    List.takeWhile_map, List.dropWhile_map]
  rfl

theorem audience_withoutParticipant :
    (r.withoutParticipant player).audience = removeAt player r.audience := by
  simp only [audience, withoutParticipant, removeAt, List.map_append, List.map_tail,
    List.takeWhile_map, List.dropWhile_map]
  rfl

/-- The search finds a player exactly if they have a seat. -/
theorem isSome_findParticipant (ho : r.InOrder) :
    (r.findParticipant player).isSome = true ↔ player ∈ r.audience := by
  rw [← head_dropWhile_iff ho]
  have hhead : (r.audience.dropWhile (· < player)).head? =
      (r.participants.dropWhile (·.playerId < player)).head?.map (·.playerId) := by
    simp only [audience, List.dropWhile_map, List.head?_map]
    rfl
  rw [hhead, findParticipant]
  cases (r.participants.dropWhile (·.playerId < player)).head? with
  | none => simp
  | some participant => by_cases hp : participant.playerId = player <;> simp [hp]

end Seats

/-! ## The start of a battle and its ticks -/

section Digest

variable {r : Room} {result : RoomResult}

theorem SameBattle.withDigest : SameBattle r (r.withDigest result).2 := by
  unfold Room.withDigest
  split
  · next h => exact congrArg Prod.snd h ▸ SameBattle.takeDigest
  · next h => exact congrArg Prod.snd h ▸ SameBattle.takeDigest

/-- What a digest leaves of the result that it is added to. -/
theorem withDigest_fst (r : Room) (result : RoomResult) :
    (r.withDigest result).1.phase = result.phase ∧
    (r.withDigest result).1.outcome = result.outcome ∧
    (r.withDigest result).1.deadlineAfter = result.deadlineAfter ∧
    (r.withDigest result).1.tickAfter = result.tickAfter := by
  unfold Room.withDigest
  split
  · exact ⟨rfl, rfl, rfl, rfl⟩
  · exact ⟨rfl, rfl, rfl, rfl⟩

end Digest

/-- A battle begins: its deadline is set and reported. -/
structure Begun (r : Room) (observedAt : Nat) (out : RoomResult × Room) : Prop
    extends Course r out where
  could : r.canStartBattle = true
  running : out.2.phase = .running
  audience : out.2.audience = r.audience
  outcome : out.1.outcome = none
  deadlineAt : out.2.battleDeadlineAt = observedAt + r.config.battleDuration
  deadlineAfter : out.1.deadlineAfter = some r.config.battleDuration
  tickAfter : out.1.tickAfter = some r.config.tickInterval

/-- A battle goes on: the next tick is asked for. -/
structure Ticked (r : Room) (out : RoomResult × Room) : Prop extends Course r out where
  running : r.phase = .running
  same : SameBattle r out.2
  outcome : out.1.outcome = none
  deadlineAfter : out.1.deadlineAfter = none
  tickAfter : out.1.tickAfter = some r.config.tickInterval

theorem Ticked.withDigest {r r' : Room} {result : RoomResult} (h : SameBattle r r')
    (hp : r.phase = .running) (hr : result.phase = r'.phase) (ho : result.outcome = none)
    (hd : result.deadlineAfter = none) (ht : result.tickAfter = some r.config.tickInterval) :
    Ticked r (r'.withDigest result) := by
  have hsame : SameBattle r (r'.withDigest result).2 := h.trans .withDigest
  obtain ⟨hphase, houtcome, hdeadline, htick⟩ := withDigest_fst r' result
  refine ⟨⟨hsame.id, hsame.config, ?_, ?_, fun _ => .inl hsame.phase⟩, hp, hsame,
    houtcome.trans ho, hdeadline.trans hd, htick.trans ht⟩
  · exact hphase.trans (hr.trans (SameBattle.withDigest.phase).symm)
  · intro hsome
    rw [houtcome, ho] at hsome
    cases hsome

theorem startBattle_cases (r : Room) (observedAt : Nat) :
    r.canStartBattle = false ∧ Seated r (r.startBattle observedAt) ∨
      Begun r observedAt (r.startBattle observedAt) := by
  simp only [Room.startBattle]
  split
  · next h => exact .inl ⟨by simpa using h, .base (.refl r)⟩
  · next h =>
    have hcan : r.canStartBattle = true := by simpa using h
    have hwaiting : r.phase = .waiting := by
      simp only [canStartBattle, Bool.and_eq_true, decide_eq_true_eq] at hcan
      exact hcan.1
    refine .inr ?_
    have harena {r : Room} : SameBattle r (r.initializeArena.spawnWave observedAt) :=
      SameBattle.initializeArena.trans (.spawnWave observedAt)
    have hsame {r : Room} {result : RoomResult} :
        SameBattle r ((r.initializeArena.spawnWave observedAt).withDigest result).2 :=
      harena.trans .withDigest
    have hconfig {r : Room} : (r.initializeArena.spawnWave observedAt).config = r.config :=
      harena.config
    obtain ⟨hphase, houtcome, hdeadline, htick⟩ := withDigest_fst (Room.spawnWave
        (Room.initializeArena { r with
          phase := .running
          battleDeadlineAt := observedAt + r.config.battleDuration
          nextWaveAt := observedAt + r.config.waveInterval
          bossSpawnAt := observedAt + r.config.bossSpawnAfter }) observedAt) _
    refine ⟨⟨hsame.id, hsame.config, hphase.trans ?_, ?_, fun _ => .inr ⟨hwaiting, hsame.phase⟩⟩,
      hcan, hsame.phase, hsame.audience, houtcome, hsame.deadlineAt, hdeadline.trans ?_,
      htick.trans ?_⟩
    · exact (SameBattle.withDigest.phase).symm
    · intro hsome
      rw [houtcome] at hsome
      cases hsome
    · simp only [hconfig]
    · simp only [hconfig]

theorem simulationTick_cases (r : Room) (observedAt : Nat) :
    Seated r (r.simulationTick observedAt) ∨ Ticked r (r.simulationTick observedAt) := by
  simp only [Room.simulationTick]
  split
  · exact .inl (.base (.refl r))
  · next hphase =>
    have hphase : r.phase = .running := not_not.1 hphase
    split
    · exact .inl (.failBattle (.refl r) hphase)
    · generalize hcleared : ({ r with enemies := r.enemies.filter (·.health ≠ 0) } : Room) = cleared
      have hmoved : SameBattle r cleared.moveParticipants :=
        SameBattle.trans (hcleared ▸ ⟨⟨rfl, rfl, rfl, rfl⟩, rfl⟩) .moveParticipants
      have hflown := hmoved.trans
        (.advanceProjectiles observedAt cleared.moveParticipants.projectiles)
      generalize Room.advanceProjectiles observedAt _ _ = flown at hflown
      obtain ⟨killed, flying, projectiles⟩ := flown
      dsimp only at hflown ⊢
      have hlanded : SameBattle r { flying with projectiles := projectiles } :=
        hflown.trans ⟨⟨rfl, rfl, rfl, rfl⟩, rfl⟩
      split
      · exact .inl (.clearBattle hlanded hphase)
      · have hfought := hlanded.trans (.actEnemies observedAt flying.enemies)
        generalize Room.actEnemies observedAt _ _ = fought at hfought
        obtain ⟨alive, fighting, enemies⟩ := fought
        have hstruck : SameBattle r { fighting with enemies := enemies } :=
          hfought.trans ⟨⟨rfl, rfl, rfl, rfl⟩, rfl⟩
        dsimp only
        split
        · exact .inl (.failBattle hstruck hphase)
        · have hwaved := hstruck.trans (.spawnWaves observedAt
            (fighting.config.waveCount - fighting.spawnedWaveCount))
          generalize Room.spawnWaves observedAt _ _ = waved at hwaved
          have hspawned : SameBattle r (if !waved.bossSpawned && observedAt ≥ waved.bossSpawnAt then
              waved.spawnBoss observedAt else waved) := by
            split
            · exact hwaved.trans (.spawnBoss observedAt)
            · exact hwaved
          exact .inr (.withDigest hspawned hphase rfl rfl rfl (by simp only [hspawned.config]))

/-- **The course of a Room.** No command moves a battle other than from Waiting to Running
and from Running to its end, and the turn that ends it says so to those who are there. -/
theorem handle_course (r : Room) (command : RoomCommand) (observedAt : Nat) :
    Course r (r.handle command observedAt) := by
  cases command with
  | joinRoom player stats skill =>
    rcases joinRoom_cases r player stats skill with
      ⟨-, -, -, hseated⟩ | ⟨_, -, -, -, -, hseated⟩
    · exact hseated.toCourse
    · exact ⟨hseated.id, hseated.config, hseated.phase, hseated.decided, hseated.undecided⟩
  | leaveRoom player =>
    rcases leaveRoom_cases r player with ⟨-, -, hseated⟩ | ⟨-, -, hseated⟩
    · exact hseated.toCourse
    · exact ⟨hseated.id, hseated.config, hseated.phase, hseated.decided, hseated.undecided⟩
  | startBattle =>
    rcases startBattle_cases r observedAt with ⟨-, hseated⟩ | hbegun
    · exact hseated.toCourse
    · exact hbegun.toCourse
  | useSkill player skill sequence => exact Seated.useSkill.toCourse
  | setMoveIntent player direction sequence => exact Seated.setMoveIntent.toCourse
  | battleDeadline => exact Seated.battleDeadline.toCourse
  | simulationTick =>
    rcases simulationTick_cases r observedAt with hseated | hticked
    · exact hseated.toCourse
    · exact hticked.toCourse

end Snf.Game.Room
