import Snf.Game.RunningBattle

/-! # The outcome of a battle

A battle is decided once. The result of the command that decides it carries the outcome, and
rewards those who are there if the boss has been killed; before it no result carries one, and
after it none carries an outcome, a digest or the wish for a timer.
-/

namespace Snf.Game

open Snf.Lib

/-- How the phase of a Room may move. -/
def RoomPhase.Next (before after : RoomPhase) : Prop :=
  after = before ∨ before = .waiting ∧ after = .running ∨
    before = .running ∧ (after = .cleared ∨ after = .failed)

/-- The phase in which a battle with this outcome ends. -/
def BattleOutcome.phase : BattleOutcome → RoomPhase
  | .cleared => .cleared
  | .failed => .failed

namespace Room

theorem not_over_of_running {r : Room} (h : r.phase = .running) : ¬ r.Over := by
  rintro (hover | hover) <;> exact absurd (h.symm.trans hover) nofun

theorem not_over_of_waiting {r : Room} (h : r.phase = .waiting) : ¬ r.Over := by
  rintro (hover | hover) <;> exact absurd (h.symm.trans hover) nofun

/-- **What a command says about the outcome.** -/
structure Ruled (r : Room) (out : RoomResult × Room) : Prop where
  moves : r.phase.Next out.2.phase
  decided : ∀ outcome, out.1.outcome = some outcome ↔
    r.phase = .running ∧ out.2.phase = outcome.phase
  grants : out.1.grants = if out.1.outcome = some .cleared then out.2.rewardClear else []
  cleared : out.1.outcome = some .cleared ↔ ¬ r.BossDown ∧ out.2.BossDown
  timers : out.2.Over → out.1.tickAfter = none ∧ out.1.deadlineAfter = none
  after : r.Over → out.2 = r ∧ out.1.digest = none

namespace Ruled

variable {r r' : Room} {result : RoomResult}

/-- The battle goes on, or begins, or has not begun or is over already. -/
theorem undecided (hmoves : r'.phase = r.phase ∨ r.phase = .waiting ∧ r'.phase = .running)
    (houtcome : result.outcome = none) (hgrants : result.grants = [])
    (hdown : r'.BossDown → r.BossDown)
    (htimers : r'.Over → result.tickAfter = none ∧ result.deadlineAfter = none)
    (hafter : r.Over → r' = r ∧ result.digest = none) : Ruled r (result, r') := by
  have hphases : ∀ outcome : BattleOutcome, ¬ (r.phase = .running ∧ r'.phase = outcome.phase) := by
    rintro outcome ⟨hrunning, hended⟩
    rcases hmoves with hsame | ⟨hwaiting, -⟩
    · rw [hsame, hrunning] at hended
      cases outcome <;> cases hended
    · rw [hwaiting] at hrunning
      cases hrunning
  refine ⟨?_, ?_, ?_, ?_, htimers, hafter⟩
  · rcases hmoves with hsame | hstart
    · exact .inl hsame
    · exact .inr (.inl hstart)
  · intro outcome
    simp only [houtcome, reduceCtorEq, false_iff]
    exact hphases outcome
  · simp only [houtcome, reduceCtorEq, if_false]
    exact hgrants
  · simp only [houtcome, reduceCtorEq, false_iff]
    exact fun ⟨hup, hbad⟩ => hup (hdown hbad)

theorem bossDown_takeDigest (r : Room) : r.takeDigest.2.BossDown ↔ r.BossDown := by
  rcases takeDigest_snd r with heq | heq
  · rw [heq]
  · rw [heq]
    rfl

/-- The battle is lost. -/
theorem failBattle {status : RoomCommandStatus} {player : Option PlayerId}
    {reason : BattleFailureReason} (hphase : r.phase = .running) (hup : ¬ r'.BossDown) :
    Ruled r (r'.failBattle status player reason) := by
  have hfailed : (r'.failBattle status player reason).2.phase = .failed :=
    SameBattle.takeDigest.phase
  refine ⟨.inr (.inr ⟨hphase, .inr hfailed⟩), ?_, rfl, ?_, fun _ => ⟨rfl, rfl⟩,
    fun hover => absurd hover (not_over_of_running hphase)⟩
  · intro outcome
    rw [hfailed]
    cases outcome
    · exact ⟨nofun, fun h => absurd h.2 nofun⟩
    · exact ⟨fun _ => ⟨hphase, rfl⟩, fun _ => rfl⟩
  · refine ⟨nofun, fun ⟨_, hbad⟩ => absurd ?_ hup⟩
    exact (bossDown_takeDigest (r'.concluded .failed)).1 hbad

/-- The battle is won. -/
theorem clearBattle {player : Option PlayerId} (hphase : r.phase = .running)
    (hup : ¬ r.BossDown) (hdown : r'.BossDown) : Ruled r (r'.clearBattle player) := by
  have hcleared : (r'.clearBattle player).2.phase = .cleared := SameBattle.takeDigest.phase
  refine ⟨.inr (.inr ⟨hphase, .inl hcleared⟩), ?_, rfl, ?_, fun _ => ⟨rfl, rfl⟩,
    fun hover => absurd hover (not_over_of_running hphase)⟩
  · intro outcome
    rw [hcleared]
    cases outcome
    · exact ⟨fun _ => ⟨hphase, rfl⟩, fun _ => rfl⟩
    · exact ⟨nofun, fun h => absurd h.2 nofun⟩
  · refine ⟨fun _ => ⟨hup, ?_⟩, fun _ => rfl⟩
    exact (bossDown_takeDigest (r'.concluded .cleared)).2 hdown

/-- The players of a running battle change nothing about its outcome. -/
theorem running (hphase : r.phase = .running) (hphase' : r'.phase = .running)
    (houtcome : result.outcome = none) (hgrants : result.grants = []) (hup : ¬ r'.BossDown) :
    Ruled r (result, r') := by
  exact undecided (.inl (hphase'.trans hphase.symm)) houtcome hgrants (fun h => absurd h hup)
    (fun hover => absurd hover (not_over_of_running hphase'))
    fun hover => absurd hover (not_over_of_running hphase)

theorem withDigest_grants (r : Room) (result : RoomResult) :
    (r.withDigest result).1.grants = result.grants := by
  unfold withDigest
  split <;> rfl

/-- A digest changes nothing about the outcome. -/
theorem withDigest (h : Ruled r (result, r')) (hphase : ¬ r.Over) :
    Ruled r (r'.withDigest result) := by
  obtain ⟨-, houtcome, hdeadline, htick⟩ := withDigest_fst r' result
  have hsame : SameBattle r' (r'.withDigest result).2 := .withDigest
  have hreward : (r'.withDigest result).2.rewardClear = r'.rewardClear := by
    rw [withDigest_snd]
    rcases takeDigest_snd r' with heq | heq
    · rw [heq]
    · rw [heq]
      rfl
  have hover : (r'.withDigest result).2.Over ↔ r'.Over := by
    unfold Over
    rw [hsame.phase]
  refine ⟨?_, ?_, ?_, ?_, ?_, fun hbad => absurd hbad hphase⟩
  · rw [hsame.phase]
    exact h.moves
  · intro outcome
    rw [houtcome, hsame.phase]
    exact h.decided outcome
  · rw [houtcome, withDigest_grants, hreward]
    exact h.grants
  · rw [houtcome, withDigest_snd, bossDown_takeDigest]
    exact h.cleared
  · rw [hover, htick, hdeadline]
    exact h.timers

theorem handled {c : RoomConfig} (h : Sound c r) {t : Nat} {command : RoomCommand}
    {out : RoomResult × Room} (hh : Handled t r command out) : Ruled r out := by
  cases hh with
  | refused =>
    exact undecided (.inl rfl) rfl rfl (fun hd => hd) (fun _ => ⟨rfl, rfl⟩) fun _ => ⟨rfl, rfl⟩
  | joined hphase _ _ heq =>
    refine undecided (.inl (by rw [heq]; rfl)) rfl rfl ?_ (fun _ => ⟨rfl, rfl⟩)
      fun hover => absurd hover (not_over_of_waiting hphase)
    rw [heq]
    exact fun hd => hd
  | left hphase _ heq =>
    refine undecided (.inl (by rw [heq]; rfl)) rfl rfl ?_ (fun _ => ⟨rfl, rfl⟩)
      fun hover => absurd hover (not_over_of_waiting hphase)
    rw [heq]
    exact fun hd => hd
  | emptied hphase _ _ heq =>
    refine running hphase (by rw [heq]; exact hphase) rfl rfl ?_
    rw [heq]
    exact h.up hphase
  | parted hphase _ _ heq =>
    refine running hphase ?_ rfl rfl ?_
    · rw [SameBattle.takeDigest.phase, heq]
      exact hphase
    · rw [bossDown_takeDigest, heq]
      exact h.up hphase
  | deserted hphase _ _ heq =>
    refine failBattle hphase ?_
    rw [heq]
    exact h.up hphase
  | began hcan hspawn =>
    simp only [canStartBattle, Bool.and_eq_true, decide_eq_true_eq] at hcan
    obtain ⟨events, hpath, -⟩ := hspawn.path
    have hphase := hpath.sameBattle.phase
    have hwaiting := not_over_of_waiting hcan.1
    refine withDigest (undecided (.inr ⟨hcan.1, hphase⟩) rfl rfl ?_
      (fun hover => absurd hover (not_over_of_running hphase)) fun hover => absurd hover hwaiting)
      hwaiting
    intro hbad
    exact absurd hbad (hspawn.spared ((h.opened hcan.1 t).up rfl))
  | noted hphase _ hfray _ hundecided =>
    exact running hphase (hfray.path.sameBattle.phase.trans hphase) rfl rfl hundecided.up
  | @cast _ player _ r' hphase _ hfray _ hundecided =>
    have hrunning := hfray.path.sameBattle.phase.trans hphase
    simp only [finishSkillUse]
    split
    · refine running hphase (SameBattle.takeDigest.phase.trans hrunning) rfl rfl ?_
      rw [bossDown_takeDigest]
      exact hundecided.up
    · exact running hphase hrunning rfl rfl hundecided.up
  | ticked hphase _ hfray hundecided =>
    have hrunning := hfray.path.sameBattle.phase.trans hphase
    exact withDigest (running hphase hrunning rfl rfl hundecided.up) (not_over_of_running hphase)
  | won hphase _ _ hdown => exact clearBattle hphase (h.up hphase) hdown
  | lost hphase _ _ hup => exact failBattle hphase hup
  | expired hphase => exact failBattle hphase (h.up hphase)

/-- A battle that was not over before is over now exactly if the result has an outcome. -/
theorem isSome_outcome_iff {out : RoomResult × Room} (h : Ruled r out) :
    out.1.outcome.isSome = true ↔ ¬ r.Over ∧ out.2.Over := by
  rw [Option.isSome_iff_exists]
  constructor
  · rintro ⟨outcome, hsome⟩
    obtain ⟨hrunning, hended⟩ := (h.decided outcome).1 hsome
    refine ⟨not_over_of_running hrunning, ?_⟩
    cases outcome
    · exact .inl hended
    · exact .inr hended
  · rintro ⟨hbefore, hafter⟩
    have hrunning : r.phase = .running := by
      rcases h.moves with hsame | ⟨-, hrunning⟩ | ⟨hrunning, -⟩
      · exact absurd (by unfold Over at *; rwa [hsame] at hafter) hbefore
      · exact absurd hafter (not_over_of_running hrunning)
      · exact hrunning
    rcases hafter with hcleared | hfailed
    · exact ⟨.cleared, (h.decided .cleared).2 ⟨hrunning, hcleared⟩⟩
    · exact ⟨.failed, (h.decided .failed).2 ⟨hrunning, hfailed⟩⟩

end Ruled

end Room

section Runs

variable {room : RoomId} {config : RoomConfig} {s : RoomRun}

theorem ruled_of_reach {guard : RoomRun → RoomInput → Prop}
    (h : (roomMachine room config).Reach guard s) (input : RoomInput) :
    Room.Ruled s.room (s.room.handle input.1 input.2) :=
  .handled (sound_of_reach h) (handled_of_reach h input)

/-- One result of a run has an outcome if its battle is over, and none otherwise. -/
theorem countP_outcome {guard : RoomRun → RoomInput → Prop}
    (h : (roomMachine room config).Reach guard s) :
    s.results.countP (·.outcome.isSome) = if s.room.Over then 1 else 0 := by
  refine h.invariant (P := fun s => s.results.countP (·.outcome.isSome) =
    if s.room.Over then 1 else 0) ?_ ?_
  · rintro s ⟨hcreate, hnil⟩
    obtain ⟨-, heq⟩ := Room.create_eq hcreate
    rw [hnil, heq]
    rfl
  · rintro s input _ hr hcount _ ⟨⟩
    have hruled := ruled_of_reach hr input
    have hsome := hruled.isSome_outcome_iff
    generalize s.room.handle input.1 input.2 = out at *
    simp only [List.countP_cons, hcount, hsome]
    by_cases hover : s.room.Over
    · have hsame := (hruled.after hover).1
      simp [hover, hsame]
    · simp [hover]

/-- **A battle is decided once.** In every run the phase moves only from Waiting to Running and
from there to Cleared or Failed. One result has an outcome if the battle is over, and it is that
of the command that ended it: Cleared exactly if this command brought the health of the boss to
zero, and then everyone who is there is granted the experience once. A result of a battle that
is over asks for no timer, and none after the outcome has a digest or changes the Room. -/
theorem battle_decided_once (h : (roomMachine room config).Reach (fun _ _ => True) s) :
    s.results.countP (·.outcome.isSome) = (if s.room.Over then 1 else 0) ∧
    ∀ (command : RoomCommand) (observedAt : Nat) (result : RoomResult) (r : Room),
      s.room.handle command observedAt = (result, r) →
      s.room.phase.Next r.phase ∧ result.phase = r.phase ∧
      (∀ outcome, result.outcome = some outcome ↔
        s.room.phase = .running ∧ r.phase = outcome.phase) ∧
      (result.outcome = some .cleared ↔ ¬ s.room.BossDown ∧ r.BossDown) ∧
      (result.grants = if result.outcome = some .cleared then
        r.audience.map fun player => ⟨player, config.clearExperience⟩ else []) ∧
      r.audience.Nodup ∧
      (r.Over → result.tickAfter = none ∧ result.deadlineAfter = none) ∧
      (s.room.Over → r = s.room ∧ result.digest = none) := by
  refine ⟨countP_outcome h, ?_⟩
  intro command observedAt result r hout
  have hruled := ruled_of_reach h (command, observedAt)
  have hcourse := Room.handle_course s.room command observedAt
  have hsound : r.Sound config := by
    have hnext := (sound_of_reach h).handled (valid_of_reach h)
      (handled_of_reach h (command, observedAt))
    rw [hout] at hnext
    exact hnext
  simp only [hout] at hruled hcourse
  refine ⟨hruled.moves, hcourse.phase, hruled.decided, hruled.cleared, ?_,
    hsound.order.imp Nat.ne_of_lt, hruled.timers, hruled.after⟩
  have hreward : r.rewardClear = r.audience.map fun player => ⟨player, config.clearExperience⟩ := by
    simp only [Room.rewardClear, Room.audience, List.map_map, hsound.config]
    rfl
  rw [← hreward]
  exact hruled.grants

end Runs

/-- A small arena in which the boss comes within reach of those who wait for it. -/
def smallArena : RoomConfig :=
  { waveCount := 0, minionsPerWave := 0, bossHealth := 5, arenaWidth := 20, arenaHeight := 20
    minionSpawnRadius := 5 }

/-- The boss is killed, and nobody kills it again. -/
theorem battle_decided_once_cleared :
    ∃ s, (roomMachine 1 smallArena).Reach (fun _ _ => True) s ∧ s.room.phase = .cleared ∧
      s.results.countP (·.outcome.isSome) = 1 := by
  obtain ⟨s, hs, ht⟩ := (roomMachine 1 smallArena).exists_reach_of_replay (fun _ _ => True)
    (s := { room := { id := 1, config := smallArena } }) ⟨rfl, rfl⟩
    [(.joinRoom 7 ⟨10, 100⟩ slash, 0), (.startBattle, 0), (.simulationTick, 40000),
      (.useSkill 7 slash 1, 40001), (.useSkill 7 slash 2, 50000)]
    (fun s => s.room.phase = .cleared) (by decide +kernel)
  have hphase : s.room.phase = .cleared := of_decide_eq_true ht
  refine ⟨s, hs, hphase, ?_⟩
  rw [(battle_decided_once hs).1, if_pos (.inl hphase)]

end Snf.Game
