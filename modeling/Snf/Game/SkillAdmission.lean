import Snf.Game.Descent
import Snf.Game.RefusedCommands
import Snf.Game.RoomLog

/-! # The admission of skills and moves

A participant carries what the admission of its requests needs: the skill it joined with, the last
sequence numbers and the cooldowns. These are written when a request is applied and at no other
time. So the requests that were applied before are known from the participant, and the next one
is judged by them.
-/

namespace Snf.Game

open Snf.Lib

/-- What the admission of a request reads of a participant. -/
def Participant.admission (p : Participant) :
    PlayerId × SkillId × Nat × Nat × List SkillCooldown :=
  (p.playerId, p.equippedSkillId, p.appliedSkillSequence, p.appliedMovementSequence, p.cooldowns)

/-- A command is a player's own. -/
def RoomCommand.isOf (player : PlayerId) : RoomCommand → Bool
  | .joinRoom other _ _ | .leaveRoom other | .useSkill other _ _ | .setMoveIntent other _ _ =>
    other = player
  | .startBattle | .battleDeadline | .simulationTick => false

namespace Room

variable {r : Room} {t : Nat} {player : PlayerId} {skillId : SkillId} {sequence : Nat}

/-! ## Skills -/

structure MayUse (r : Room) (t : Nat) (player : PlayerId) (skillId : SkillId) (sequence : Nat)
    (p : Participant) (skill : SkillDefinition) : Prop where
  running : r.phase = .running
  early : t < r.battleDeadlineAt
  found : r.findParticipant player = some p
  fresh : p.appliedSkillSequence < sequence
  alive : p.currentHealth ≠ 0
  known : findSkill skillId = some skill
  equipped : skillId = p.equippedSkillId
  ready : ∀ c ∈ p.cooldowns, c.skillId = skillId → c.readyAt ≤ t

def used (p : Participant) (skillId : SkillId) (sequence readyAt : Nat) : Participant :=
  { p with
    cooldowns := setCooldown ⟨skillId, readyAt⟩ p.cooldowns
    appliedSkillSequence := sequence }

theorem participants_takeDigest (r : Room) : r.takeDigest.2.participants = r.participants := by
  rcases takeDigest_snd r with heq | heq <;> rw [heq]

theorem participants_finishSkillUse (r : Room) (player : PlayerId) :
    (r.finishSkillUse player).2.participants = r.participants := by
  rcases finishSkillUse_snd r player with ⟨heq, -⟩ | heq
  · rw [heq]
  · rw [heq]
    exact participants_takeDigest r

theorem applyAreaAttack_applied (c : SkillCastContext) (range : Nat) :
    (r.applyAreaAttack c range).1.status = .applied ∧
      (r.applyAreaAttack c range).2.participants = (r.commitSkillUse c).participants := by
  simp only [applyAreaAttack]
  split
  · exact ⟨status_finishSkillUse _ _, participants_finishSkillUse _ _⟩
  · split
    · exact ⟨rfl, participants_takeDigest _⟩
    · exact ⟨status_finishSkillUse _ _, participants_finishSkillUse _ _⟩

/-- A projectile is refused for want of room, or the use is applied. -/
theorem spawnHomingProjectile_cases (c : SkillCastContext) (range speed hitRange lifetime : Nat) :
    (r.spawnHomingProjectile c range speed hitRange lifetime).1.status ≠ .applied ∧
        (r.spawnHomingProjectile c range speed hitRange lifetime).2 = r ∨
      (r.spawnHomingProjectile c range speed hitRange lifetime).1.status = .applied ∧
        (r.spawnHomingProjectile c range speed hitRange lifetime).2.participants =
          (r.commitSkillUse c).participants := by
  simp only [spawnHomingProjectile]
  split
  · exact .inr ⟨status_finishSkillUse _ _, participants_finishSkillUse _ _⟩
  · split
    · exact .inl ⟨(fun h => by cases h), rfl⟩
    · exact .inr ⟨status_finishSkillUse _ _, participants_finishSkillUse _ _⟩

/-- **The use of a skill.** It is refused and the Room is as it was, or it comes too late and the
battle is lost, or it may be made and is noted. -/
theorem useSkill_cases (r : Room) (player : PlayerId) (skillId : SkillId) (sequence t : Nat) :
    ((r.useSkill player skillId sequence t).1.status ≠ .applied ∧
        (r.useSkill player skillId sequence t).2 = r) ∨
      ((r.useSkill player skillId sequence t).1.status = .battleExpired ∧
        (r.useSkill player skillId sequence t).2.participants = r.participants) ∨
      (r.useSkill player skillId sequence t).1.status = .applied ∧
        ∃ p skill, MayUse r t player skillId sequence p skill ∧
          (r.useSkill player skillId sequence t).2.participants =
            (r.setParticipant (used p skillId sequence (t + skill.cooldownMs))).participants := by
  simp only [useSkill]
  split
  · exact .inl ⟨(fun h => by cases h), rfl⟩
  next hphase =>
  split
  · exact .inr (.inl ⟨rfl, participants_takeDigest _⟩)
  next hearly =>
  split
  · exact .inl ⟨(fun h => by cases h), rfl⟩
  next p hp =>
  split
  · exact .inl ⟨(fun h => by cases h), rfl⟩
  next hfresh =>
  split
  · exact .inl ⟨(fun h => by cases h), rfl⟩
  next halive =>
  split
  · exact .inl ⟨(fun h => by cases h), rfl⟩
  next skill hskill =>
  split
  · exact .inl ⟨(fun h => by cases h), rfl⟩
  next hequipped =>
  split
  · exact .inl ⟨(fun h => by cases h), rfl⟩
  next hready =>
  have hmay : MayUse r t player skillId sequence p skill := by
    refine ⟨not_not.1 hphase, Nat.lt_of_not_le hearly, hp, Nat.lt_of_not_le hfresh, halive, hskill,
      not_not.1 hequipped, ?_⟩
    intro c hc hid
    by_contra hlate
    refine hready (List.any_eq_true.2 ⟨c, hc, ?_⟩)
    simpa [hid] using Nat.lt_of_not_le hlate
  split
  · obtain ⟨hstatus, hparticipants⟩ := applyAreaAttack_applied (r := r)
      { participant := p, skillId := skillId, requestSequence := sequence, observedAt := t
        cooldown := skill.cooldownMs, damage := calculateSkillDamage skill p.stats.attack } _
    exact .inr (.inr ⟨hstatus, p, skill, hmay, hparticipants⟩)
  · rcases spawnHomingProjectile_cases (r := r)
      { participant := p, skillId := skillId, requestSequence := sequence, observedAt := t
        cooldown := skill.cooldownMs, damage := calculateSkillDamage skill p.stats.attack } _ _ _ _
      with hrefused | ⟨hstatus, hparticipants⟩
    · exact .inl hrefused
    · exact .inr (.inr ⟨hstatus, p, skill, hmay, hparticipants⟩)

/-! ## Moves -/

/-- An intent to move is refused, comes too late, or is noted. -/
theorem setMoveIntent_cases (r : Room) (player : PlayerId) (direction : MoveDirection)
    (sequence t : Nat) :
    ((r.setMoveIntent player direction sequence t).1.status ≠ .applied ∧
        (r.setMoveIntent player direction sequence t).2 = r) ∨
      ((r.setMoveIntent player direction sequence t).1.status = .battleExpired ∧
        (r.setMoveIntent player direction sequence t).2.participants = r.participants) ∨
      (r.setMoveIntent player direction sequence t).1.status = .applied ∧ r.phase = .running ∧
        ∃ p, r.findParticipant player = some p ∧ p.appliedMovementSequence < sequence ∧
          (r.setMoveIntent player direction sequence t).2.participants =
            (r.setParticipant { p with
              appliedMovementSequence := sequence, moveIntent := direction }).participants := by
  simp only [setMoveIntent]
  split
  · exact .inl ⟨(fun h => by cases h), rfl⟩
  next hphase =>
  split
  · exact .inr (.inl ⟨rfl, participants_takeDigest _⟩)
  split
  · exact .inl ⟨(fun h => by cases h), rfl⟩
  next p hp =>
  split
  · exact .inl ⟨(fun h => by cases h), rfl⟩
  next hfresh =>
  split
  · exact .inl ⟨(fun h => by cases h), rfl⟩
  exact .inr (.inr ⟨rfl, not_not.1 hphase, p, hp, Nat.lt_of_not_le hfresh, rfl⟩)

/-! ## Where a participant comes from -/

def SameAdmission (p p' : Participant) : Prop := p'.admission = p.admission

theorem bears_sameAdmission : Bears SameAdmission SameAdmission where
  stay _ := rfl
  hurt _ _ := rfl
  comp _ _ _ h h' := Eq.trans h' h

/-- **Where a participant comes from.** It was there and no request of its own was applied, or it
has joined, or it has used a skill, or it has changed its direction. -/
inductive Origin (t : Nat) (r : Room) (command : RoomCommand) (status : RoomCommandStatus)
    (p' : Participant) : Prop where
  | kept {p : Participant} : p ∈ r.participants → SameAdmission p p' →
      (status = .applied → command.isOf p'.playerId = false) → Origin t r command status p'
  | joined {player : PlayerId} {stats : CombatStats} {skill : SkillId} :
      command = .joinRoom player stats skill → status = .applied → r.phase = .waiting →
      p' = newcomer player stats skill → Origin t r command status p'
  | cast {p : Participant} {player : PlayerId} {skillId : SkillId} {sequence : Nat}
      {skill : SkillDefinition} :
      command = .useSkill player skillId sequence →
      MayUse r t player skillId sequence p skill →
      p' = used p skillId sequence (t + skill.cooldownMs) → Origin t r command status p'
  | steered {p : Participant} {player : PlayerId} {direction : MoveDirection} {sequence : Nat} :
      command = .setMoveIntent player direction sequence → r.findParticipant player = some p →
      p.appliedMovementSequence < sequence →
      p' = { p with appliedMovementSequence := sequence, moveIntent := direction } →
      Origin t r command status p'

namespace Origin

variable {command : RoomCommand} {status : RoomCommandStatus} {out : Room}

theorem of_descends (h : Descends SameAdmission r out)
    (hother : ∀ p' ∈ out.participants, status = .applied → command.isOf p'.playerId = false) :
    ∀ p' ∈ out.participants, Origin t r command status p' := by
  intro p' hp'
  obtain ⟨p, hp, hsame⟩ := h p' hp'
  exact .kept hp hsame (hother p' hp')

theorem of_participants (hout : out.participants = r.participants) (hstatus : status ≠ .applied) :
    ∀ p' ∈ out.participants, Origin t r command status p' :=
  of_descends (.of_eq (fun _ => rfl) hout) fun _ _ happlied => absurd happlied hstatus

theorem of_setParticipant {p written : Participant} (hp : r.findParticipant player = some p)
    (hout : out.participants = (r.setParticipant written).participants)
    (hid : written.playerId = p.playerId)
    (hcommand : ∀ other, command.isOf other = decide (player = other))
    (hwritten : Origin t r command status written) :
    ∀ p' ∈ out.participants, Origin t r command status p' := by
  intro p' hp'
  rw [hout] at hp'
  obtain ⟨q, hq, rfl⟩ := List.mem_map.1 hp'
  have hplayer := (mem_of_findParticipant hp).2
  split
  · exact hwritten
  · next hne =>
    refine .kept hq rfl fun _ => ?_
    rw [hcommand, decide_eq_false_iff_not, ← hplayer, ← hid]
    exact fun heq => hne heq.symm

end Origin

theorem participants_startBattle (r : Room) (t : Nat) :
    Descends SameAdmission r (r.startBattle t).2 := by
  simp only [startBattle]
  split
  · exact .of_eq (fun _ => rfl) rfl
  · have hspawn (r : Room) : (r.spawnWave t).participants = r.participants := by
      unfold spawnWave
      split <;> rfl
    intro p' hp'
    rw [withDigest_snd, participants_takeDigest, hspawn] at hp'
    obtain ⟨⟨p, index⟩, hp, rfl⟩ := List.mem_map.1 hp'
    exact ⟨p, (List.mem_zipIdx hp).2.2 ▸ List.getElem_mem _, rfl⟩

/-- **Every participant has an origin.** -/
theorem origin (hr : r.Tidy) (command : RoomCommand) (t : Nat) :
    ∀ p' ∈ (r.handle command t).2.participants,
      Origin t r command (r.handle command t).1.status p' := by
  cases command with
  | joinRoom player stats skill =>
    simp only [handle, joinRoom]
    split
    · exact .of_participants rfl nofun
    next hphase =>
    split
    · exact .of_participants rfl nofun
    next hnew =>
    split
    · exact .of_participants rfl nofun
    intro p' hp'
    rcases List.mem_cons.1 ((perm_withParticipant r (newcomer player stats skill)).mem_iff.1 hp')
      with heq | hold
    · exact .joined rfl rfl (not_not.1 hphase) heq
    · refine .kept hold rfl fun _ => ?_
      simp only [RoomCommand.isOf, decide_eq_false_iff_not]
      rintro rfl
      rw [isSome_findParticipant hr.order] at hnew
      exact hnew (List.mem_map_of_mem hold)
  | leaveRoom player =>
    refine .of_descends (.leaveRoom bears_sameAdmission.stay player) ?_
    intro p' hp' happlied
    rcases leaveRoom_cases r player with ⟨-, hstatus, -⟩ | ⟨-, hfound, hleft⟩
    · exact absurd happlied hstatus
    · have hmem : p'.playerId ∈ (r.leaveRoom player).2.audience := List.mem_map_of_mem hp'
      rw [hleft.audience, audience_withoutParticipant,
        mem_removeAt hr.order ((isSome_findParticipant hr.order).1 hfound)] at hmem
      simp only [RoomCommand.isOf, decide_eq_false_iff_not]
      exact fun heq => hmem.1 heq.symm
  | startBattle => exact .of_descends (participants_startBattle r t) fun _ _ _ => rfl
  | useSkill player skillId sequence =>
    rcases useSkill_cases r player skillId sequence t with
      ⟨hstatus, hout⟩ | ⟨hstatus, hout⟩ | ⟨-, p, skill, hmay, hout⟩
    · exact .of_participants (congrArg Room.participants hout) hstatus
    · refine .of_participants hout ?_
      show (r.useSkill player skillId sequence t).1.status ≠ .applied
      rw [hstatus]
      exact nofun
    · exact .of_setParticipant hmay.found hout rfl (fun _ => rfl) (.cast rfl hmay rfl)
  | battleDeadline =>
    exact .of_descends (.battleDeadline bears_sameAdmission.stay t) fun _ _ _ => rfl
  | simulationTick =>
    exact .of_descends (.simulationTick hr bears_sameAdmission bears_sameAdmission (fun _ => rfl)
      (fun _ _ => rfl) t) fun _ _ _ => rfl
  | setMoveIntent player direction sequence =>
    rcases setMoveIntent_cases r player direction sequence t with
      ⟨hstatus, hout⟩ | ⟨hstatus, hout⟩ | ⟨-, -, p, hfound, hfresh, hout⟩
    · exact .of_participants (congrArg Room.participants hout) hstatus
    · refine .of_participants hout ?_
      show (r.setMoveIntent player direction sequence t).1.status ≠ .applied
      rw [hstatus]
      exact nofun
    · exact .of_setParticipant hfound hout rfl (fun _ => rfl) (.steered rfl hfound hfresh rfl)

end Room

/-! ## Cooldowns -/

section Cooldowns

variable {cooldown c : SkillCooldown} {cooldowns : List SkillCooldown}

theorem mem_setCooldown (cooldown : SkillCooldown) (cooldowns : List SkillCooldown) :
    cooldown ∈ Room.setCooldown cooldown cooldowns := by
  induction cooldowns with
  | nil => exact List.mem_singleton.2 rfl
  | cons first rest ih =>
    simp only [Room.setCooldown]
    split
    · exact List.mem_cons_of_mem _ ih
    · split <;> exact List.mem_cons_self

theorem mem_setCooldown_of_ne (hc : c ∈ cooldowns) (hne : c.skillId ≠ cooldown.skillId) :
    c ∈ Room.setCooldown cooldown cooldowns := by
  induction cooldowns with
  | nil => cases hc
  | cons first rest ih =>
    simp only [Room.setCooldown]
    rcases List.mem_cons.1 hc with rfl | hrest
    · rw [if_neg hne]
      split
      · exact List.mem_cons_self
      · exact List.mem_cons_of_mem _ List.mem_cons_self
    · split
      · exact List.mem_cons_of_mem _ (ih hrest)
      · split
        · exact List.mem_cons_of_mem _ hrest
        · exact List.mem_cons_of_mem _ (List.mem_cons_of_mem _ hrest)

theorem eq_or_mem_of_mem_setCooldown (hc : c ∈ Room.setCooldown cooldown cooldowns) :
    c = cooldown ∨ c ∈ cooldowns := by
  induction cooldowns with
  | nil => exact .inl (List.mem_singleton.1 hc)
  | cons first rest ih =>
    simp only [Room.setCooldown] at hc
    split at hc
    · rcases List.mem_cons.1 hc with rfl | hrest
      · exact .inr List.mem_cons_self
      · exact (ih hrest).imp_right (List.mem_cons_of_mem _)
    · split at hc
      · exact (List.mem_cons.1 hc).imp_right (List.mem_cons_of_mem _)
      · exact List.mem_cons.1 hc

theorem pairwise_setCooldown (h : cooldowns.Pairwise (·.skillId < ·.skillId)) :
    (Room.setCooldown cooldown cooldowns).Pairwise (·.skillId < ·.skillId) := by
  induction cooldowns with
  | nil => exact List.pairwise_singleton _ _
  | cons first rest ih =>
    obtain ⟨hfirst, hrest⟩ := List.pairwise_cons.1 h
    simp only [Room.setCooldown]
    split
    · next hlt =>
      refine List.pairwise_cons.2 ⟨?_, ih hrest⟩
      intro c hc
      rcases eq_or_mem_of_mem_setCooldown hc with rfl | hold
      · exact hlt
      · exact hfirst c hold
    · next hle =>
      split
      · next heq =>
        refine List.pairwise_cons.2 ⟨?_, hrest⟩
        intro c hc
        rw [← heq]
        exact hfirst c hc
      · next hne =>
        have hlt : cooldown.skillId < first.skillId :=
          lt_of_le_of_ne (not_lt.1 hle) fun heq => hne heq.symm
        refine List.pairwise_cons.2 ⟨?_, h⟩
        intro c hc
        rcases List.mem_cons.1 hc with rfl | hc
        · exact hlt
        · exact hlt.trans (hfirst c hc)

end Cooldowns

/-! ## The log -/

namespace RoomEntry

def Uses (player : PlayerId) (skillId : SkillId) (sequence : Nat) (e : RoomEntry) : Prop :=
  e.command = .useSkill player skillId sequence ∧ e.result.status = .applied

def Steers (player : PlayerId) (sequence : Nat) (e : RoomEntry) : Prop :=
  (∃ direction, e.command = .setMoveIntent player direction sequence) ∧
    e.result.status = .applied

/-- A player has come or gone. -/
def Seats (player : PlayerId) (e : RoomEntry) : Prop :=
  (e.command = .leaveRoom player ∨ ∃ stats skill, e.command = .joinRoom player stats skill) ∧
    e.result.status = .applied

end RoomEntry

/-- The player has joined with this skill, and has neither come nor gone since. The latest entry
is the first. -/
def JoinedWith (entries : List RoomEntry) (player : PlayerId) (skill : SkillId) : Prop :=
  ∃ since join before stats, entries = since ++ join :: before ∧
    join.command = .joinRoom player stats skill ∧ join.result.status = .applied ∧
    ∀ e ∈ since, ¬ e.Seats player

/-- What the log says about a participant. -/
structure Docket (entries : List RoomEntry) (p : Participant) : Prop where
  joined : JoinedWith entries p.playerId p.equippedSkillId
  used : ∀ e ∈ entries, ∀ skillId sequence, e.Uses p.playerId skillId sequence →
    sequence ≤ p.appliedSkillSequence
  rested : ∀ e ∈ entries, ∀ skillId sequence skill, e.Uses p.playerId skillId sequence →
    findSkill skillId = some skill →
    ∃ c ∈ p.cooldowns, c.skillId = skillId ∧ e.time + skill.cooldownMs ≤ c.readyAt
  steered : ∀ e ∈ entries, ∀ sequence, e.Steers p.playerId sequence →
    sequence ≤ p.appliedMovementSequence
  sorted : p.cooldowns.Pairwise (·.skillId < ·.skillId)

namespace Docket

variable {entries : List RoomEntry} {entry : RoomEntry} {p p' : Participant}

theorem congr (h : Docket entries p) (hsame : Room.SameAdmission p p') : Docket entries p' := by
  simp only [Room.SameAdmission, Participant.admission, Prod.mk.injEq] at hsame
  obtain ⟨hid, hskill, hused, hsteered, hcooldowns⟩ := hsame
  refine ⟨?_, ?_, ?_, ?_, hcooldowns ▸ h.sorted⟩
  · rw [hid, hskill]
    exact h.joined
  · rw [hid, hused]
    exact h.used
  · rw [hid, hcooldowns]
    exact h.rested
  · rw [hid, hsteered]
    exact h.steered

theorem joinedWith_cons {player : PlayerId} {skill : SkillId}
    (h : JoinedWith entries player skill) (hstay : ¬ entry.Seats player) :
    JoinedWith (entry :: entries) player skill := by
  obtain ⟨since, join, before, stats, rfl, hjoin, happlied, hsince⟩ := h
  exact ⟨entry :: since, join, before, stats, rfl, hjoin, happlied,
    List.forall_mem_cons.2 ⟨hstay, hsince⟩⟩

theorem cons (h : Docket entries p)
    (hother : entry.result.status = .applied → entry.command.isOf p.playerId = false) :
    Docket (entry :: entries) p := by
  have hnot {command : RoomCommand} (heq : entry.command = command)
      (happlied : entry.result.status = .applied) (hmine : command.isOf p.playerId = true) :
      False := by
    rw [← heq, hother happlied] at hmine
    cases hmine
  refine ⟨joinedWith_cons h.joined ?_, ?_, ?_, ?_, h.sorted⟩
  · rintro ⟨hleft | ⟨stats, skill, hjoined⟩, happlied⟩
    · exact hnot hleft happlied (by simp [RoomCommand.isOf])
    · exact hnot hjoined happlied (by simp [RoomCommand.isOf])
  · intro e he skillId sequence huses
    rcases List.mem_cons.1 he with rfl | he
    · exact (hnot huses.1 huses.2 (by simp [RoomCommand.isOf])).elim
    · exact h.used e he skillId sequence huses
  · intro e he skillId sequence skill huses
    rcases List.mem_cons.1 he with rfl | he
    · exact (hnot huses.1 huses.2 (by simp [RoomCommand.isOf])).elim
    · exact h.rested e he skillId sequence skill huses
  · intro e he sequence hsteers
    rcases List.mem_cons.1 he with rfl | he
    · obtain ⟨⟨direction, hcommand⟩, happlied⟩ := hsteers
      exact (hnot hcommand happlied (by simp [RoomCommand.isOf])).elim
    · exact h.steered e he sequence hsteers

theorem join {player : PlayerId} {stats : CombatStats} {skill : SkillId}
    (hcommand : entry.command = .joinRoom player stats skill)
    (happlied : entry.result.status = .applied)
    (hbefore : ∀ e ∈ entries, ∀ skillId sequence, ¬ e.Uses player skillId sequence ∧
      ¬ e.Steers player sequence) :
    Docket (entry :: entries) (Room.newcomer player stats skill) := by
  refine ⟨⟨[], entry, entries, stats, rfl, hcommand, happlied, List.forall_mem_nil _⟩, ?_, ?_, ?_,
    .nil⟩
  · intro e he skillId sequence huses
    rcases List.mem_cons.1 he with rfl | he
    · cases hcommand.symm.trans huses.1
    · exact absurd huses (hbefore e he skillId sequence).1
  · intro e he skillId sequence _ huses
    rcases List.mem_cons.1 he with rfl | he
    · cases hcommand.symm.trans huses.1
    · exact absurd huses (hbefore e he skillId sequence).1
  · intro e he sequence hsteers
    rcases List.mem_cons.1 he with rfl | he
    · obtain ⟨⟨direction, hmove⟩, -⟩ := hsteers
      cases hcommand.symm.trans hmove
    · exact absurd hsteers (hbefore e he skill sequence).2

theorem use (h : Docket entries p) {skillId : SkillId} {sequence : Nat} {skill : SkillDefinition}
    (hcommand : entry.command = .useSkill p.playerId skillId sequence)
    (hfresh : p.appliedSkillSequence < sequence) (hskill : findSkill skillId = some skill)
    (htime : ∀ e ∈ entries, e.time ≤ entry.time) :
    Docket (entry :: entries)
      (Room.used p skillId sequence (entry.time + skill.cooldownMs)) := by
  refine ⟨joinedWith_cons h.joined ?_, ?_, ?_, ?_, pairwise_setCooldown h.sorted⟩
  · rintro ⟨hleft | ⟨stats, skill, hjoined⟩, -⟩
    · cases hcommand.symm.trans hleft
    · cases hcommand.symm.trans hjoined
  · intro e he skillId' sequence' huses
    rcases List.mem_cons.1 he with rfl | he
    · cases hcommand.symm.trans huses.1
      exact Nat.le_refl _
    · exact Nat.le_trans (h.used e he skillId' sequence' huses) (Nat.le_of_lt hfresh)
  · intro e he skillId' sequence' skill' huses hskill'
    rcases List.mem_cons.1 he with rfl | he
    · cases hcommand.symm.trans huses.1
      cases hskill.symm.trans hskill'
      exact ⟨_, mem_setCooldown _ _, rfl, Nat.le_refl _⟩
    · by_cases hsame : skillId' = skillId
      · subst hsame
        cases hskill.symm.trans hskill'
        exact ⟨_, mem_setCooldown _ _, rfl, Nat.add_le_add_right (htime e he) _⟩
      · obtain ⟨c, hc, hid, hready⟩ := h.rested e he skillId' sequence' skill' huses hskill'
        exact ⟨c, mem_setCooldown_of_ne hc (hid ▸ hsame), hid, hready⟩
  · intro e he sequence' hsteers
    rcases List.mem_cons.1 he with rfl | he
    · obtain ⟨⟨direction, hmove⟩, -⟩ := hsteers
      cases hcommand.symm.trans hmove
    · exact h.steered e he sequence' hsteers

theorem steer (h : Docket entries p) {direction : MoveDirection} {sequence : Nat}
    (hcommand : entry.command = .setMoveIntent p.playerId direction sequence)
    (hfresh : p.appliedMovementSequence < sequence) :
    Docket (entry :: entries)
      { p with appliedMovementSequence := sequence, moveIntent := direction } := by
  refine ⟨joinedWith_cons h.joined ?_, ?_, ?_, ?_, h.sorted⟩
  · rintro ⟨hleft | ⟨stats, skill, hjoined⟩, -⟩
    · cases hcommand.symm.trans hleft
    · cases hcommand.symm.trans hjoined
  · intro e he skillId' sequence' huses
    rcases List.mem_cons.1 he with rfl | he
    · cases hcommand.symm.trans huses.1
    · exact h.used e he skillId' sequence' huses
  · intro e he skillId' sequence' skill' huses
    rcases List.mem_cons.1 he with rfl | he
    · cases hcommand.symm.trans huses.1
    · exact h.rested e he skillId' sequence' skill' huses
  · intro e he sequence' hsteers
    rcases List.mem_cons.1 he with rfl | he
    · obtain ⟨⟨direction', hmove⟩, -⟩ := hsteers
      cases hcommand.symm.trans hmove
      exact Nat.le_refl _
    · exact Nat.le_trans (h.steered e he sequence' hsteers) (Nat.le_of_lt hfresh)

end Docket

namespace Room

variable {r : Room} {t : Nat}

theorem status_startBattle (h : r.canStartBattle = true) :
    (r.startBattle t).1.status = .applied := by
  unfold startBattle
  rw [h]
  exact status_withDigest _ _

/-- Before the battle no request is applied. -/
theorem not_applied_waiting (hphase : r.phase = .waiting) {command : RoomCommand}
    {player : PlayerId} {skillId : SkillId} {sequence : Nat} :
    ¬ (r.entry (command, t)).Uses player skillId sequence ∧
      ¬ (r.entry (command, t)).Steers player sequence := by
  refine ⟨?_, ?_⟩
  · rintro ⟨hcommand, happlied⟩
    obtain rfl : command = .useSkill player skillId sequence := hcommand
    have happlied : (r.useSkill player skillId sequence t).1.status = .applied := happlied
    rcases useSkill_cases r player skillId sequence t with
      ⟨hstatus, -⟩ | ⟨hstatus, -⟩ | ⟨-, p, skill, hmay, -⟩
    · exact hstatus happlied
    · cases happlied.symm.trans hstatus
    · cases hphase.symm.trans hmay.running
  · rintro ⟨⟨direction, hcommand⟩, happlied⟩
    obtain rfl : command = .setMoveIntent player direction sequence := hcommand
    have happlied : (r.setMoveIntent player direction sequence t).1.status = .applied := happlied
    rcases setMoveIntent_cases r player direction sequence t with
      ⟨hstatus, -⟩ | ⟨hstatus, -⟩ | ⟨-, hrunning, -⟩
    · exact hstatus happlied
    · cases happlied.symm.trans hstatus
    · cases hphase.symm.trans hrunning

/-- Only the start of a battle sets its deadline. -/
theorem handle_deadlineAt (r : Room) (command : RoomCommand) (t : Nat) :
    ((r.handle command t).2.battleDeadlineAt = r.battleDeadlineAt ∧
        ((r.handle command t).2.phase = .running → r.phase = .running)) ∨
      command = .startBattle ∧ Begun r t (r.handle command t) := by
  have hseated {r' : Room} {out : RoomResult × Room} (h : Seated r' out)
      (hdeadline : r'.battleDeadlineAt = r.battleDeadlineAt) (hphase : r'.phase = r.phase) :
      out.2.battleDeadlineAt = r.battleDeadlineAt ∧
        (out.2.phase = .running → r.phase = .running) := by
    refine ⟨h.deadlineAt.trans hdeadline, fun hrunning => ?_⟩
    rcases h.ended with hsame | ⟨hwas, -⟩
    · exact hphase.symm.trans (hsame.symm.trans hrunning)
    · exact hphase.symm.trans hwas
  cases command with
  | joinRoom player stats skill =>
    rcases joinRoom_cases r player stats skill with
      ⟨-, -, -, h⟩ | ⟨_, -, -, -, -, h⟩
    · exact .inl (hseated h rfl rfl)
    · exact .inl (hseated h rfl rfl)
  | leaveRoom player =>
    rcases leaveRoom_cases r player with ⟨-, -, h⟩ | ⟨-, -, h⟩
    · exact .inl (hseated h rfl rfl)
    · exact .inl (hseated h rfl rfl)
  | startBattle =>
    rcases startBattle_cases r t with ⟨-, h⟩ | hbegun
    · exact .inl (hseated h rfl rfl)
    · exact .inr ⟨rfl, hbegun⟩
  | useSkill player skill sequence => exact .inl (hseated .useSkill rfl rfl)
  | setMoveIntent player direction sequence => exact .inl (hseated .setMoveIntent rfl rfl)
  | battleDeadline => exact .inl (hseated .battleDeadline rfl rfl)
  | simulationTick =>
    rcases simulationTick_cases r t with h | h
    · exact .inl (hseated h rfl rfl)
    · exact .inl ⟨h.same.deadlineAt, fun _ => h.running⟩

end Room

/-! ## Runs -/

/-- What the log says about the Room. -/
structure Docketed (config : RoomConfig) (s : RoomLog) : Prop where
  participants : ∀ p ∈ s.room.participants, Docket s.entries p
  waiting : s.room.phase = .waiting → ∀ e ∈ s.entries, ∀ player skillId sequence,
    ¬ e.Uses player skillId sequence ∧ ¬ e.Steers player sequence
  running : s.room.phase = .running → ∃ start ∈ s.entries, start.command = .startBattle ∧
    start.result.status = .applied ∧
    s.room.battleDeadlineAt = start.time + config.battleDuration

section Runs

variable {room : RoomId} {config : RoomConfig} {s : RoomLog} {t : Nat}

theorem Docketed.step (h : Docketed config s) (hsound : s.room.Sound config)
    (hvalid : config.Valid) {input : RoomInput} (htime : onTime s input) :
    Docketed config { room := (s.room.handle input.1 input.2).2,
                      entries := s.room.entry input :: s.entries } := by
  obtain ⟨command, t⟩ := input
  have hcourse := Room.handle_course s.room command t
  refine ⟨?_, ?_, ?_⟩
  · intro p' hp'
    cases Room.origin (hsound.tidy hvalid) command t p' hp' with
    | kept hp hsame hother =>
      refine ((h.participants _ hp).congr hsame).cons hother
    | joined hcommand happlied hphase heq =>
      rw [heq]
      exact .join hcommand happlied fun e he skillId sequence =>
        h.waiting hphase e he _ skillId sequence
    | cast hcommand hmay heq =>
      obtain ⟨hmem, hid⟩ := Room.mem_of_findParticipant hmay.found
      rw [heq]
      rw [← hid] at hcommand
      exact (h.participants _ hmem).use hcommand hmay.fresh hmay.known htime
    | steered hcommand hfound hfresh heq =>
      obtain ⟨hmem, hid⟩ := Room.mem_of_findParticipant hfound
      rw [heq]
      rw [← hid] at hcommand
      exact (h.participants _ hmem).steer hcommand hfresh
  · intro hphase
    have hbefore : s.room.phase = .waiting := by
      cases houtcome : (s.room.handle command t).1.outcome with
      | none =>
        rcases hcourse.undecided houtcome with hsame | ⟨hwas, -⟩
        · exact hsame.symm.trans hphase
        · exact hwas
      | some outcome =>
        rcases (hcourse.decided (by rw [houtcome]; rfl)).2.1 with hover | hover
        · cases hphase.symm.trans hover
        · cases hphase.symm.trans hover
    intro e he player skillId sequence
    rcases List.mem_cons.1 he with rfl | he
    · exact Room.not_applied_waiting hbefore
    · exact h.waiting hbefore e he player skillId sequence
  · intro hphase
    rcases Room.handle_deadlineAt s.room command t with ⟨hdeadline, hwas⟩ | ⟨rfl, hbegun⟩
    · obtain ⟨start, hstart, hcommand, happlied, hat⟩ := h.running (hwas hphase)
      exact ⟨start, List.mem_cons_of_mem _ hstart, hcommand, happlied, hdeadline.trans hat⟩
    · refine ⟨_, List.mem_cons_self, rfl, Room.status_startBattle hbegun.could, ?_⟩
      exact hbegun.deadlineAt.trans (by rw [hsound.config]; rfl)

theorem docketed_of_log (h : (roomLog room config).Reach onTime s) : Docketed config s := by
  have hvalid := valid_of_log h
  refine h.invariant (P := Docketed config) ?_ ?_
  · rintro ⟨r, entries⟩ ⟨hcreate, rfl⟩
    obtain ⟨-, rfl⟩ := Room.create_eq hcreate
    exact ⟨nofun, fun _ => List.forall_mem_nil _, nofun⟩
  · rintro s input _ hr hdocketed htime ⟨⟩
    exact hdocketed.step (sound_of_log hr) hvalid htime

/-- **The admission law.** Take any run of a Room in which time does not go back, and the next
request. If a use of a skill is applied, its sequence number is greater than that of every use of
the player that was applied before, the cooldown of the skill has passed since each of its uses,
the skill is the one that the player joined with, the participant is alive and the deadline of
the battle that was started has not passed. If a direction is applied, its sequence number is
greater than that of every one before. And a request that is refused leaves the Room as it was,
so that the next request is judged as if it had not been sent. -/
theorem admission_law (h : (roomLog room config).Reach onTime s) (t : Nat) (player : PlayerId)
    (sequence : Nat) :
    (∀ skillId, (s.room.handle (.useSkill player skillId sequence) t).1.status = .applied →
      (∀ e ∈ s.entries, ∀ other earlier, e.Uses player other earlier → earlier < sequence) ∧
      (∃ skill, findSkill skillId = some skill ∧ ∀ e ∈ s.entries, ∀ earlier,
        e.Uses player skillId earlier → e.time + skill.cooldownMs ≤ t) ∧
      JoinedWith s.entries player skillId ∧
      (∃ p, s.room.findParticipant player = some p ∧ p.currentHealth ≠ 0) ∧
      ∃ start ∈ s.entries, start.command = .startBattle ∧ start.result.status = .applied ∧
        t < start.time + config.battleDuration) ∧
    (∀ direction,
      (s.room.handle (.setMoveIntent player direction sequence) t).1.status = .applied →
      ∀ e ∈ s.entries, ∀ earlier, e.Steers player earlier → earlier < sequence) ∧
    (∀ skillId, (s.room.handle (.useSkill player skillId sequence) t).1.status ≠ .applied →
      (s.room.handle (.useSkill player skillId sequence) t).1.status ≠ .battleExpired →
      (s.room.handle (.useSkill player skillId sequence) t).2 = s.room) ∧
    ∀ direction,
      (s.room.handle (.setMoveIntent player direction sequence) t).1.status ≠ .applied →
      (s.room.handle (.setMoveIntent player direction sequence) t).1.status ≠ .battleExpired →
      (s.room.handle (.setMoveIntent player direction sequence) t).2 = s.room := by
  have hdocketed := docketed_of_log h
  simp only [Room.handle]
  refine ⟨?_, ?_, ?_, ?_⟩
  · intro skillId happlied
    rcases Room.useSkill_cases s.room player skillId sequence t with
      ⟨hstatus, -⟩ | ⟨hstatus, -⟩ | ⟨-, p, skill, hmay, -⟩
    · exact absurd happlied hstatus
    · cases happlied.symm.trans hstatus
    · obtain ⟨hmem, rfl⟩ := Room.mem_of_findParticipant hmay.found
      have hdocket := hdocketed.participants p hmem
      obtain ⟨start, hstart, hcommand, hstarted, hat⟩ := hdocketed.running hmay.running
      refine ⟨?_, ⟨skill, hmay.known, ?_⟩, hmay.equipped ▸ hdocket.joined,
        ⟨p, hmay.found, hmay.alive⟩, start, hstart, hcommand, hstarted, hat ▸ hmay.early⟩
      · intro e he other earlier huses
        exact Nat.lt_of_le_of_lt (hdocket.used e he other earlier huses) hmay.fresh
      · intro e he earlier huses
        obtain ⟨c, hc, hid, hready⟩ := hdocket.rested e he skillId earlier skill huses hmay.known
        exact Nat.le_trans hready (hmay.ready c hc hid)
  · intro direction happlied
    rcases Room.setMoveIntent_cases s.room player direction sequence t with
      ⟨hstatus, -⟩ | ⟨hstatus, -⟩ | ⟨-, -, p, hfound, hfresh, -⟩
    · exact absurd happlied hstatus
    · cases happlied.symm.trans hstatus
    · obtain ⟨hmem, rfl⟩ := Room.mem_of_findParticipant hfound
      intro e he earlier hsteers
      exact Nat.lt_of_le_of_lt ((hdocketed.participants p hmem).steered e he earlier hsteers) hfresh
  · intro skillId hrefused hearly
    rcases Room.useSkill_cases s.room player skillId sequence t with
      ⟨-, hout⟩ | ⟨hstatus, -⟩ | ⟨hstatus, -⟩
    · exact hout
    · exact absurd hstatus hearly
    · exact absurd hstatus hrefused
  · intro direction hrefused hearly
    rcases Room.setMoveIntent_cases s.room player direction sequence t with
      ⟨-, hout⟩ | ⟨hstatus, -⟩ | ⟨hstatus, -⟩
    · exact hout
    · exact absurd hstatus hearly
    · exact absurd hstatus hrefused

end Runs

/-- Slash is used, refused while it cools down and used again a second later. -/
theorem admission_law_slash :
    ∃ s, (roomLog 1 {}).Reach onTime s ∧
      (s.room.handle (.useSkill 7 slash 2) 1010).1.status = .applied ∧
      JoinedWith s.entries 7 slash := by
  obtain ⟨s, hs, ht⟩ := (roomLog 1 {}).exists_reach_of_replay onTime
    (s := { room := { id := 1, config := {} } }) ⟨rfl, rfl⟩
    [(.joinRoom 7 ⟨10, 100⟩ slash, 0), (.startBattle, 5), (.useSkill 7 slash 1, 10),
      (.useSkill 7 slash 2, 20)]
    (fun s => (s.room.handle (.useSkill 7 slash 2) 1010).1.status = .applied)
    (by decide +kernel)
  have happlied := of_decide_eq_true ht
  exact ⟨s, hs, happlied, ((admission_law hs 1010 7 2).1 slash happlied).2.2.1⟩

end Snf.Game
