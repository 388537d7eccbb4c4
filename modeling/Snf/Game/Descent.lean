import Snf.Game.RoomRuns

/-! # What becomes of the participants

A battle does three things to a participant: it takes its place, it walks, and it is hurt.
Whatever relation these keep holds between the participants before and after any command that
lets nobody in.
-/

namespace Snf.Game.Room

open Snf.Lib

/-- Every participant was there before, and is related to what it was. -/
def Descends (R : Participant → Participant → Prop) (r r' : Room) : Prop :=
  ∀ p' ∈ r'.participants, ∃ p ∈ r.participants, R p p'

/-- A relation that blows keep. -/
structure Bears (R S : Participant → Participant → Prop) : Prop where
  stay : ∀ p, S p p
  hurt : ∀ p damage, S p (struck p damage)
  comp : ∀ p q q', R p q → S q q' → R p q'

namespace Descends

variable {R S : Participant → Participant → Prop} {t : Nat} {r r' r'' : Room}

theorem of_subset (hstay : ∀ p, R p p) (h : r'.participants ⊆ r.participants) :
    Descends R r r' :=
  fun p hp => ⟨p, h hp, hstay p⟩

theorem of_eq (hstay : ∀ p, R p p) (h : r'.participants = r.participants) : Descends R r r' :=
  of_subset hstay (h ▸ List.Subset.refl _)

theorem comp (h : Descends R r r') (hb : Bears R S) (h' : Descends S r' r'') :
    Descends R r r'' := by
  intro p'' hp''
  obtain ⟨p', hp', hS⟩ := h' p'' hp''
  obtain ⟨p, hp, hR⟩ := h p' hp'
  exact ⟨p, hp, hb.comp p p' p'' hR hS⟩

theorem setParticipant (hstay : ∀ p, R p p) {p p' : Participant} (hp : p ∈ r.participants)
    (hR : R p p') : Descends R r (r.setParticipant p') := by
  intro q' hq'
  obtain ⟨q, hq, rfl⟩ := List.mem_map.1 hq'
  split
  · exact ⟨p, hp, hR⟩
  · exact ⟨q, hq, hstay q⟩

theorem leave (hstay : ∀ p, R p p) (player : PlayerId) :
    Descends R r (r.withoutParticipant player) :=
  of_subset hstay (sublist_withoutParticipant r player).subset

theorem takeDigest (h : Descends R r r') : Descends R r r'.takeDigest.2 := by
  rcases takeDigest_snd r' with heq | heq
  · rw [heq]
    exact h
  · rw [heq]
    exact h

theorem failBattle (h : Descends R r r') (status : RoomCommandStatus) (player : Option PlayerId)
    (reason : BattleFailureReason) : Descends R r (r'.failBattle status player reason).2 :=
  have hover : Descends R r (r'.concluded .failed) := h
  hover.takeDigest

theorem clearBattle (h : Descends R r r') (player : Option PlayerId) :
    Descends R r (r'.clearBattle player).2 :=
  have hover : Descends R r (r'.concluded .cleared) := h
  hover.takeDigest

theorem leaveRoom (hstay : ∀ p, R p p) (player : PlayerId) :
    Descends R r (r.leaveRoom player).2 := by
  have hsame : Descends R r r := of_eq hstay rfl
  have hleave := leave (r := r) hstay player
  simp only [Room.leaveRoom]
  split
  · exact hsame
  · split
    · exact hsame
    · split
      · exact hleave
      · split
        · exact hleave
        · split
          · exact failBattle (by exact hleave) _ _ _
          · exact takeDigest (by exact hleave)

theorem battleDeadline (hstay : ∀ p, R p p) (t : Nat) : Descends R r (r.battleDeadline t).2 := by
  unfold Room.battleDeadline
  split
  · exact of_eq hstay rfl
  · exact failBattle (of_eq hstay rfl) _ _ _

/-! ## Ticks -/

theorem moveParticipants (hwalk : ∀ p ∈ r.participants, R p { p with position := r.moved p }) :
    Descends R r r.moveParticipants := by
  intro p' hp'
  obtain ⟨p, hp, rfl⟩ := List.mem_map.1 hp'
  exact ⟨p, hp, hwalk p hp⟩

theorem actEnemies (hb : Bears S S) (t : Nat) (es : List Enemy) (r : Room) :
    Descends S r (Room.actEnemies t r es).2.1 := by
  induction es generalizing r with
  | nil => exact of_eq hb.stay rfl
  | cons e rest ih =>
    simp only [Room.actEnemies]
    split
    · exact ih r
    · split
      · exact of_eq hb.stay rfl
      · next target htarget =>
        have hmem := (mem_of_nearestLivingParticipant htarget).1
        generalize r.approach e target.position = came
        have hcame : Descends S r (r.pushEvents came.2) := of_eq hb.stay rfl
        split
        · exact hcame.comp hb (ih _)
        · have hattack : Descends S r ((r.pushEvents came.2).attack came.1 target t).2 := by
            rw [attack_eq]
            exact hcame.comp hb (setParticipant hb.stay hmem (hb.hurt _ _))
          split
          · exact hattack
          · exact hattack.comp hb (ih _)

theorem participants_reinforce (t : Nat) (r : Room) :
    (reinforce t r).participants = r.participants := by
  have hwaves := (Reinforced.waves t (r.config.waveCount - r.spawnedWaveCount) r).1.participants
  unfold reinforce
  generalize spawnWaves t (r.config.waveCount - r.spawnedWaveCount) r = waved at *
  dsimp only
  unfold spawnBoss
  split
  · split
    · exact hwaves
    · exact hwaves
  · exact hwaves

theorem afterAssault {out : Bool × Room × List Enemy} (h : Descends R r out.2.1) :
    Descends R r (Room.afterAssault t out).2 := by
  unfold Room.afterAssault
  split
  · exact failBattle (by exact h) _ _ _
  · dsimp only
    rw [withDigest_snd]
    refine takeDigest ?_
    unfold Descends
    rw [participants_reinforce]
    exact h

theorem afterFlight (hb : Bears R S) (hb' : Bears S S) {out : Bool × Room × List Projectile}
    (h : Descends R r out.2.1) : Descends R r (Room.afterFlight t out).2 := by
  unfold Room.afterFlight
  split
  · exact clearBattle (by exact h) _
  · exact afterAssault
      (h.comp hb (actEnemies hb' t out.2.1.enemies (out.2.1.withProjectiles out.2.2)))

/-- The participants walk at the beginning of a tick, then they are hurt. -/
theorem simulationTick (hr : r.Tidy) (hb : Bears R S) (hb' : Bears S S) (hstay : ∀ p, R p p)
    (hwalk : ∀ p ∈ r.participants, R p { p with position := r.moved p }) (t : Nat) :
    Descends R r (r.simulationTick t).2 := by
  have hsame : Descends R r r := of_eq hstay rfl
  by_cases hphase : r.phase = .running
  · by_cases hearly : t < r.battleDeadlineAt
    · rw [simulationTick_eq hphase hearly]
      have hwalked : Descends R r
          (r.withEnemies (r.enemies.filter (·.health ≠ 0))).moveParticipants :=
        moveParticipants (r := r.withEnemies (r.enemies.filter (·.health ≠ 0))) hwalk
      have hkeys : ((r.withEnemies (r.enemies.filter
          (·.health ≠ 0))).moveParticipants.enemies.map (·.id)).Nodup :=
        hr.keys.sublist (List.filter_sublist.map _)
      generalize (r.withEnemies (r.enemies.filter (·.health ≠ 0))).moveParticipants = walked at *
      have hflight := path_advanceProjectiles t walked.projectiles [] walked hkeys
      generalize advanceProjectiles t walked walked.projectiles = out at *
      obtain ⟨killed, flying, left⟩ := out
      refine afterFlight hb hb' ?_
      unfold Descends
      rw [hflight.participants]
      exact hwalked
    · unfold Room.simulationTick
      rw [if_neg (not_not.2 hphase), if_pos (Nat.not_lt.1 hearly)]
      exact hsame.failBattle _ _ _
  · unfold Room.simulationTick
    rw [if_pos hphase]
    exact hsame

end Descends

end Snf.Game.Room
