import Snf.Game.RoomRuns

/-! # Refused commands

A command that a Room refuses leaves no trace: the Room is as it was, and the result carries
nothing but its status. So the refused commands can be left out of any sequence of commands.
-/

namespace Snf.Game

open Snf.Lib

/-- The statuses of a command that was not admitted. -/
def RoomCommandStatus.isRefusal : RoomCommandStatus → Bool
  | .alreadyJoined | .roomFull | .wrongPhase | .notJoined | .duplicateRequest
  | .skillOnCooldown | .unknownSkill | .participantDead | .skillNotEquipped
  | .projectileCapacityExceeded => true
  | .applied | .entryFailed | .battleExpired | .runtimeOverloaded => false

namespace Room

/-- The results of a sequence of commands, in order, and the Room that they leave. -/
def run : Room → List RoomInput → List RoomResult × Room
  | r, [] => ([], r)
  | r, input :: rest =>
    let (result, r) := r.handle input.1 input.2
    let (results, r) := run r rest
    (result :: results, r)

/-- The commands of a sequence that are not refused when the whole of it is run. -/
def admitted : Room → List RoomInput → List RoomInput
  | _, [] => []
  | r, input :: rest =>
    let (result, r) := r.handle input.1 input.2
    if result.status.isRefusal then admitted r rest else input :: admitted r rest

variable {r : Room} {t : Nat}

theorem run_cons (r : Room) (input : RoomInput) (rest : List RoomInput) :
    r.run (input :: rest) = ((r.handle input.1 input.2).1 ::
      ((r.handle input.1 input.2).2.run rest).1, ((r.handle input.1 input.2).2.run rest).2) :=
  rfl

/-! ## Handlers -/

theorem status_finishSkillUse (r : Room) (player : PlayerId) :
    (r.finishSkillUse player).1.status = .applied := by
  simp only [finishSkillUse]
  split <;> rfl

theorem status_withDigest (r : Room) (result : RoomResult) :
    (r.withDigest result).1.status = result.status := by
  unfold withDigest
  split <;> rfl

/-- A command is not admitted, or it is seen to have been. -/
def Silent (r : Room) (out : RoomResult × Room) : Prop :=
  out.1.status.isRefusal = true → ∃ status player, out = (r.baseResult status player, r)

theorem Silent.refused {status : RoomCommandStatus} {player : Option PlayerId} :
    Silent r (r.baseResult status player, r) := fun _ => ⟨status, player, rfl⟩

theorem Silent.of_status {out : RoomResult × Room} {status : RoomCommandStatus}
    (h : out.1.status = status) (hadmitted : status.isRefusal = false) : Silent r out := by
  intro hrefused
  rw [h, hadmitted] at hrefused
  cases hrefused

theorem silent_joinRoom (player : PlayerId) (stats : CombatStats) (skill : SkillId) :
    Silent r (r.joinRoom player stats skill) := by
  unfold joinRoom
  split
  · exact .refused
  · split
    · exact .refused
    · split
      · exact .refused
      · exact .of_status rfl rfl

theorem silent_leaveRoom (player : PlayerId) : Silent r (r.leaveRoom player) := by
  simp only [leaveRoom]
  split
  · exact .refused
  · split
    · exact .refused
    · split
      · exact .of_status rfl rfl
      · split
        · exact .of_status rfl rfl
        · split
          · exact .of_status rfl rfl
          · exact .of_status rfl rfl

theorem silent_startBattle : Silent r (r.startBattle t) := by
  simp only [startBattle]
  split
  · exact .refused
  · exact .of_status (status_withDigest _ _) rfl

theorem silent_applyAreaAttack (c : SkillCastContext) (range : Nat) :
    Silent r (r.applyAreaAttack c range) := by
  simp only [applyAreaAttack]
  split
  · exact .of_status (status_finishSkillUse _ _) rfl
  · split
    · exact .of_status rfl rfl
    · exact .of_status (status_finishSkillUse _ _) rfl

/-- The capacity is exceeded only after a target has been found, and nothing has been
committed by then. -/
theorem silent_spawnHomingProjectile (c : SkillCastContext) (range speed hitRange lifetime : Nat) :
    Silent r (r.spawnHomingProjectile c range speed hitRange lifetime) := by
  simp only [spawnHomingProjectile]
  split
  · exact .of_status (status_finishSkillUse _ _) rfl
  · split
    · exact .refused
    · exact .of_status (status_finishSkillUse _ _) rfl

theorem silent_useSkill (player : PlayerId) (skillId : SkillId) (sequence : Nat) :
    Silent r (r.useSkill player skillId sequence t) := by
  simp only [useSkill]
  split
  · exact .refused
  · split
    · exact .of_status rfl rfl
    · split
      · exact .refused
      · split
        · exact .refused
        · split
          · exact .refused
          · split
            · exact .refused
            · split
              · exact .refused
              · split
                · exact .refused
                · split
                  · exact silent_applyAreaAttack _ _
                  · exact silent_spawnHomingProjectile _ _ _ _ _

theorem silent_setMoveIntent (player : PlayerId) (direction : MoveDirection) (sequence : Nat) :
    Silent r (r.setMoveIntent player direction sequence t) := by
  simp only [setMoveIntent]
  split
  · exact .refused
  · split
    · exact .of_status rfl rfl
    · split
      · exact .refused
      · split
        · exact .refused
        · split
          · exact .refused
          · exact .of_status rfl rfl

theorem silent_battleDeadline : Silent r (r.battleDeadline t) := by
  unfold battleDeadline
  split
  · exact .refused
  · exact .of_status rfl rfl

theorem silent_simulationTick : Silent r (r.simulationTick t) := by
  simp only [simulationTick]
  split
  · exact .refused
  · split
    · exact .of_status rfl rfl
    · split
      · exact .of_status rfl rfl
      · split
        · exact .of_status rfl rfl
        · exact .of_status (status_withDigest _ _) rfl

theorem silent_handle (r : Room) (command : RoomCommand) (t : Nat) :
    Silent r (r.handle command t) := by
  cases command with
  | joinRoom => exact silent_joinRoom _ _ _
  | leaveRoom => exact silent_leaveRoom _
  | startBattle => exact silent_startBattle
  | useSkill => exact silent_useSkill _ _ _
  | battleDeadline => exact silent_battleDeadline
  | simulationTick => exact silent_simulationTick
  | setMoveIntent => exact silent_setMoveIntent _ _ _

/-! ## Sequences of commands -/

/-- Without the refused commands the others have the same results, and the Room is the same. -/
theorem run_admitted (r : Room) (inputs : List RoomInput) :
    r.run (r.admitted inputs) =
      ((r.run inputs).1.filter (!·.status.isRefusal), (r.run inputs).2) := by
  induction inputs generalizing r with
  | nil => rfl
  | cons input rest ih =>
    rw [run_cons]
    simp only [admitted]
    by_cases hrefused : (r.handle input.1 input.2).1.status.isRefusal = true
    · obtain ⟨status, player, hout⟩ := silent_handle r input.1 input.2 hrefused
      have hsame : (r.handle input.1 input.2).2 = r := congrArg Prod.snd hout
      rw [if_pos hrefused, hsame, ih r, List.filter_cons_of_neg (by simp [hrefused])]
    · rw [if_neg hrefused, run_cons, ih, List.filter_cons_of_pos (by simp [hrefused])]

/-- **Refused commands are invisible.** Whatever the Room and the time, a command that is refused
leaves the whole Room unchanged, and its result has no digest, outcome, grants, audience or
timer. So if the refused commands are left out of a sequence, every other result and the Room
at the end are the same. -/
theorem refused_invisible (r : Room) :
    (∀ command t, (r.handle command t).1.status.isRefusal = true →
      (r.handle command t).2 = r ∧ (r.handle command t).1.digest = none ∧
      (r.handle command t).1.outcome = none ∧ (r.handle command t).1.grants = [] ∧
      (r.handle command t).1.audience = [] ∧ (r.handle command t).1.tickAfter = none ∧
      (r.handle command t).1.deadlineAfter = none) ∧
    ∀ inputs, (r.run (r.admitted inputs)).2 = (r.run inputs).2 ∧
      (r.run (r.admitted inputs)).1 = (r.run inputs).1.filter (!·.status.isRefusal) := by
  refine ⟨?_, ?_⟩
  · intro command t hrefused
    obtain ⟨status, player, hout⟩ := silent_handle r command t hrefused
    rw [hout]
    exact ⟨rfl, rfl, rfl, rfl, rfl, rfl, rfl⟩
  · intro inputs
    rw [run_admitted]
    exact ⟨rfl, rfl⟩

end Room

end Snf.Game
