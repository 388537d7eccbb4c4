import Snf.Game.RoomLog
import Snf.Lib.Balance

/-! # The lives of projectiles

A projectile is spawned once, moves while it is active and is removed at most once. The ids are
handed out in order, so none comes twice, and the projectiles of a battle are those that were
spawned and not removed. The events of a hit stand right before the removal.
-/

namespace Snf.Game

open Snf.Lib

/-- The projectile that an event is about. -/
def BattleEvent.projectile : BattleEvent → Option ProjectileId
  | .projectileSpawned id _ _ _ _ | .projectileMoved id _ | .projectileRemoved id _ => some id
  | _ => none

section Histories

variable (H : List BattleEvent)

/-- A projectile has been spawned and not removed. -/
structure Airborne (id : ProjectileId) : Prop where
  spawned : ∃ owner skill target position, .projectileSpawned id owner skill target position ∈ H
  left : ∀ reason, .projectileRemoved id reason ∉ H

/-- What an event may tell of a projectile after the events of a history: it is spawned if it has
never been told of, it moves and is removed if it is in the air. The damage of a hit, and the
death if there is one, come directly before the removal. -/
structure Flies (event : BattleEvent) : Prop where
  spawned : ∀ id owner skill target position,
    event = .projectileSpawned id owner skill target position → ∀ e ∈ H, e.projectile ≠ some id
  moved : ∀ id position, event = .projectileMoved id position → Airborne H id
  removed : ∀ id reason, event = .projectileRemoved id reason → Airborne H id
  hit : ∀ id, event = .projectileRemoved id .hit →
    ∃ owner skill target position amount left earlier,
    .projectileSpawned id owner skill target position ∈ earlier ∧
    H = earlier ++ .enemyDamaged target owner skill amount left ::
      if left = 0 then [.enemyDied target] else []

end Histories

theorem Flies.of_other {H : List BattleEvent} {event : BattleEvent}
    (h : event.projectile = none) : Flies H event := by
  refine ⟨?_, ?_, ?_, ?_⟩
  · rintro id owner skill target position rfl
    cases h
  · rintro id position rfl
    cases h
  · rintro id reason rfl
    cases h
  · rintro id rfl
    cases h

namespace Airborne

variable {H : List BattleEvent} {id : ProjectileId} {event : BattleEvent}

theorem of_append {new : List BattleEvent} (h : Airborne (H ++ new) id)
    (hnew : ∀ owner skill target position,
      .projectileSpawned id owner skill target position ∉ new) : Airborne H id := by
  obtain ⟨owner, skill, target, position, hmem⟩ := h.spawned
  refine ⟨⟨owner, skill, target, position, ?_⟩, ?_⟩
  · rcases List.mem_append.1 hmem with hold | hlate
    · exact hold
    · exact absurd hlate (hnew owner skill target position)
  · exact fun reason hremoved => h.left reason (List.mem_append_left _ hremoved)

end Airborne

namespace Room

/-- What the history says about the projectiles of a Room. -/
structure Airspace (H : List BattleEvent) (r : Room) : Prop where
  flies : Throughout Flies H
  /-- All that is pending stands at the end of the history. -/
  pending : ∃ told, H = told ++ r.pendingEvents
  /-- The ids of the history have been handed out. -/
  issued : ∀ e ∈ H, ∀ id, e.projectile = some id → r.nextProjectileId ≠ 0 →
    id < r.nextProjectileId
  spawned : ∀ q ∈ r.projectiles, ∃ position,
    .projectileSpawned q.id q.owner q.skillId q.target position ∈ H
  left : ∀ q ∈ r.projectiles, ∀ reason, .projectileRemoved q.id reason ∉ H
  active : r.phase = .running → r.participants ≠ [] → ∀ id, Airborne H id →
    ∃ q ∈ r.projectiles, q.id = id
  silent : r.phase = .waiting → H = []

namespace Airspace

variable {H : List BattleEvent} {r r' : Room} {t : Nat}

theorem airborne (h : Airspace H r) {q : Projectile} (hq : q ∈ r.projectiles) :
    Airborne H q.id := by
  obtain ⟨position, hmem⟩ := h.spawned q hq
  exact ⟨⟨q.owner, q.skillId, q.target, position, hmem⟩, h.left q hq⟩

/-- Nothing happens to the projectiles. -/
theorem other (h : Airspace H r) {new : List BattleEvent}
    (hnew : ∀ e ∈ new, e.projectile = none) (hpending : r'.pendingEvents = r.pendingEvents ++ new)
    (hnext : r'.nextProjectileId = r.nextProjectileId)
    (hprojectiles : r'.projectiles = r.projectiles)
    (hactive : r'.phase = .running → r'.participants ≠ [] → ∀ id, Airborne H id →
      ∃ q ∈ r.projectiles, q.id = id)
    (hwaiting : r'.phase ≠ .waiting ∨ new = [] ∧ r.phase = .waiting) : Airspace (H ++ new) r' := by
  have hnot (e : BattleEvent) (he : e ∈ new) {id : ProjectileId} : e.projectile ≠ some id := by
    rw [hnew e he]
    exact nofun
  have hflies : Throughout Flies (H ++ new) :=
    h.flies.append fun e he _ => .of_other (hnew e he)
  obtain ⟨told, htold⟩ := h.pending
  refine ⟨hflies, ⟨told, by rw [hpending, htold, List.append_assoc]⟩, ?_, ?_, ?_, ?_, ?_⟩
  · intro e he id hid
    rw [hnext]
    rcases List.mem_append.1 he with hold | hlate
    · exact h.issued e hold id hid
    · exact absurd hid (hnot e hlate)
  · intro q hq
    obtain ⟨position, hmem⟩ := h.spawned q (hprojectiles ▸ hq)
    exact ⟨position, List.mem_append_left _ hmem⟩
  · intro q hq reason hremoved
    rcases List.mem_append.1 hremoved with hold | hlate
    · exact h.left q (hprojectiles ▸ hq) reason hold
    · exact hnot _ hlate rfl
  · intro hphase hsome id hairborne
    rw [hprojectiles]
    refine hactive hphase hsome id (hairborne.of_append ?_)
    exact fun owner skill target position hlate => hnot _ hlate rfl
  · intro hphase
    rcases hwaiting with hbegun | ⟨rfl, hbefore⟩
    · exact absurd hphase hbegun
    · rw [h.silent hbefore]
      rfl

theorem launch (h : Airspace H r) (hphase : r.phase = .running) {q : Projectile}
    (hid : q.id = r.nextProjectileId) (hne : q.id ≠ 0) :
    Airspace (H ++ [.projectileSpawned q.id q.owner q.skillId q.target q.position])
      (pushEvents { r with
        nextProjectileId :=
          if r.nextProjectileId = RoomConfig.maxUInt32 then 0 else r.nextProjectileId + 1
        projectiles := r.projectiles ++ [q] }
        [.projectileSpawned q.id q.owner q.skillId q.target q.position]) := by
  have hfresh : ∀ e ∈ H, e.projectile ≠ some q.id := by
    intro e he hsame
    have hbelow := h.issued e he q.id hsame (hid ▸ hne)
    rw [hid] at hbelow
    exact Nat.lt_irrefl _ hbelow
  obtain ⟨told, htold⟩ := h.pending
  refine ⟨h.flies.concat ⟨?_, nofun, nofun, nofun⟩, ⟨told, ?_⟩, ?_, ?_, ?_, ?_, ?_⟩
  · rintro id owner skill target position heq
    cases heq
    exact hfresh
  · rw [htold, List.append_assoc]
    rfl
  · intro e he id hsome hnext
    dsimp only [pushEvents] at hnext ⊢
    split at hnext
    · exact absurd rfl hnext
    · next hmax =>
      rw [if_neg hmax]
      rcases List.mem_append.1 he with hold | hnew
      · exact Nat.lt_succ_of_lt (h.issued e hold id hsome (hid ▸ hne))
      · obtain rfl := List.mem_singleton.1 hnew
        cases hsome
        rw [hid]
        exact Nat.lt_succ_self _
  · intro c hc
    rcases List.mem_append.1 hc with hold | hnew
    · obtain ⟨position, hmem⟩ := h.spawned c hold
      exact ⟨position, List.mem_append_left _ hmem⟩
    · obtain rfl := List.mem_singleton.1 hnew
      exact ⟨c.position, by simp⟩
  · intro c hc reason hremoved
    rcases List.mem_append.1 hremoved with hgone | hlate
    · rcases List.mem_append.1 hc with hold | hnew
      · exact h.left c hold reason hgone
      · obtain rfl := List.mem_singleton.1 hnew
        exact hfresh (.projectileRemoved c.id reason) hgone rfl
    · simp at hlate
  · intro _ hsome id hairborne
    by_cases hmine : q.id = id
    · exact ⟨q, by simp [pushEvents], hmine⟩
    · obtain ⟨c, hc, hcid⟩ :=
        h.active hphase hsome id (hairborne.of_append (by simp [Ne.symm hmine]))
      exact ⟨c, List.mem_append_left _ hc, hcid⟩
  · intro hwaiting
    cases hphase.symm.trans hwaiting

theorem fly (h : Airspace H r) (hphase : r.phase = .running) {before after : List Projectile}
    {q : Projectile} {position : ArenaPosition} (hsplit : r.projectiles = before ++ q :: after) :
    Airspace (H ++ [.projectileMoved q.id position])
      ((r.withProjectiles (before ++ { q with position := position } :: after)).pushEvents
        [.projectileMoved q.id position]) := by
  have hq : q ∈ r.projectiles := by simp [hsplit]
  have hsame (c : Projectile) (hc : c ∈ before ++ { q with position := position } :: after) :
      ∃ c₀ ∈ r.projectiles, c₀.id = c.id ∧ c₀.owner = c.owner ∧ c₀.skillId = c.skillId ∧
        c₀.target = c.target := by
    rw [hsplit]
    rcases List.mem_append.1 hc with hfirst | hrest
    · exact ⟨c, List.mem_append_left _ hfirst, rfl, rfl, rfl, rfl⟩
    · rcases List.mem_cons.1 hrest with rfl | hlast
      · exact ⟨q, by simp, rfl, rfl, rfl, rfl⟩
      · exact ⟨c, List.mem_append_right _ (List.mem_cons_of_mem _ hlast), rfl, rfl, rfl, rfl⟩
  obtain ⟨told, htold⟩ := h.pending
  refine ⟨h.flies.concat ⟨nofun, ?_, nofun, nofun⟩, ⟨told, ?_⟩, ?_, ?_, ?_, ?_, ?_⟩
  · rintro id position heq
    cases heq
    exact h.airborne hq
  · rw [htold, List.append_assoc]
    rfl
  · intro e he id hsome hnext
    rcases List.mem_append.1 he with hold | hnew
    · exact h.issued e hold id hsome hnext
    · obtain rfl := List.mem_singleton.1 hnew
      cases hsome
      obtain ⟨position, hmem⟩ := h.spawned q hq
      exact h.issued _ hmem q.id rfl hnext
  · intro c hc
    obtain ⟨c₀, hc₀, hid, howner, hskill, htarget⟩ := hsame c hc
    obtain ⟨position, hmem⟩ := h.spawned c₀ hc₀
    rw [hid, howner, hskill, htarget] at hmem
    exact ⟨position, List.mem_append_left _ hmem⟩
  · intro c hc reason hremoved
    obtain ⟨c₀, hc₀, hid, -⟩ := hsame c hc
    rw [← hid] at hremoved
    rcases List.mem_append.1 hremoved with hold | hlate
    · exact h.left c₀ hc₀ reason hold
    · simp at hlate
  · intro _ hsome id hairborne
    obtain ⟨c, hc, hid⟩ := h.active hphase hsome id (hairborne.of_append (by simp))
    rw [hsplit] at hc
    rcases List.mem_append.1 hc with hfirst | hrest
    · exact ⟨c, List.mem_append_left _ hfirst, hid⟩
    · rcases List.mem_cons.1 hrest with rfl | hlast
      · exact ⟨_, List.mem_append_right _ List.mem_cons_self, hid⟩
      · exact ⟨c, List.mem_append_right _ (List.mem_cons_of_mem _ hlast), hid⟩
  · intro hwaiting
    cases hphase.symm.trans hwaiting

theorem drop (h : Airspace H r) (hphase : r.phase = .running)
    (hids : (r.projectiles.map (·.id)).Nodup) {before after : List Projectile} {q : Projectile}
    {reason : ProjectileRemovalReason} (hsplit : r.projectiles = before ++ q :: after)
    (hfalls : Falls t r q reason) :
    Airspace (H ++ [.projectileRemoved q.id reason])
      ((r.withProjectiles (before ++ after)).pushEvents [.projectileRemoved q.id reason]) := by
  have hq : q ∈ r.projectiles := by simp [hsplit]
  have hsub (c : Projectile) (hc : c ∈ before ++ after) : c ∈ r.projectiles ∧ q.id ≠ c.id := by
    rw [hsplit, List.map_append, List.map_cons] at hids
    have hother := (List.nodup_middle.1 hids)
    rw [← List.map_append] at hother
    refine ⟨?_, fun heq => (List.nodup_cons.1 hother).1 (List.mem_map.2 ⟨c, hc, heq.symm⟩)⟩
    rw [hsplit]
    rcases List.mem_append.1 hc with hfirst | hlast
    · exact List.mem_append_left _ hfirst
    · exact List.mem_append_right _ (List.mem_cons_of_mem _ hlast)
  obtain ⟨told, htold⟩ := h.pending
  obtain ⟨position, hspawned⟩ := h.spawned q hq
  refine ⟨h.flies.concat ⟨nofun, nofun, ?_, ?_⟩, ⟨told, ?_⟩, ?_, ?_, ?_, ?_, ?_⟩
  · rintro id reason heq
    cases heq
    exact h.airborne hq
  · rintro id heq
    cases heq
    obtain ⟨-, e, earlier, hid, -, hpending⟩ := hfalls
    -- the blow is the last that is pending
    have hH : H = (told ++ earlier) ++ (Room.hit e q.owner q.skillId q.damage).2 := by
      rw [htold, hpending, List.append_assoc]
    refine ⟨q.owner, q.skillId, q.target, position, min q.damage e.health,
      e.health - min q.damage e.health, told ++ earlier, ?_, by rw [← hid]; exact hH⟩
    rw [hH] at hspawned
    rcases List.mem_append.1 hspawned with hbefore | hblow
    · exact hbefore
    · exfalso
      rcases List.mem_cons.1 hblow with heq | hdied
      · cases heq
      · split at hdied
        · simp at hdied
        · cases hdied
  · rw [htold, List.append_assoc]
    rfl
  · intro e he id hsome hnext
    rcases List.mem_append.1 he with hold | hnew
    · exact h.issued e hold id hsome hnext
    · obtain rfl := List.mem_singleton.1 hnew
      cases hsome
      exact h.issued _ hspawned q.id rfl hnext
  · intro c hc
    obtain ⟨position, hmem⟩ := h.spawned c (hsub c hc).1
    exact ⟨position, List.mem_append_left _ hmem⟩
  · intro c hc reason hremoved
    obtain ⟨hold, hother⟩ := hsub c hc
    rcases List.mem_append.1 hremoved with hremoved | hlate
    · exact h.left c hold reason hremoved
    · have hsame := List.mem_singleton.1 hlate
      simp only [BattleEvent.projectileRemoved.injEq] at hsame
      exact hother hsame.1.symm
  · intro _ hsome id hairborne
    obtain ⟨c, hc, hid⟩ := h.active hphase hsome id (hairborne.of_append (by simp))
    rw [hsplit] at hc
    rcases List.mem_append.1 hc with hfirst | hrest
    · exact ⟨c, List.mem_append_left _ hfirst, hid⟩
    · rcases List.mem_cons.1 hrest with rfl | hlast
      · exact absurd (hid ▸ by simp) (hairborne.left reason)
      · exact ⟨c, List.mem_append_right _ hlast, hid⟩
  · intro hwaiting
    cases hphase.symm.trans hwaiting

theorem change (h : Airspace H r) (hranks : r.Ranks) (hphase : r.phase = .running)
    {new : List BattleEvent} (hchange : Change t r new r') :
    Airspace (H ++ new) (r'.pushEvents new) := by
  have hbegun : r.phase ≠ .waiting := by
    rw [hphase]
    intro h
    cases h
  have hother (r' : Room) (new : List BattleEvent) (hnew : ∀ e ∈ new, e.projectile = none)
      (hpending : r'.pendingEvents = r.pendingEvents)
      (hnext : r'.nextProjectileId = r.nextProjectileId)
      (hprojectiles : r'.projectiles = r.projectiles) (hsame : r'.phase = r.phase)
      (hseats : r'.audience = r.audience) : Airspace (H ++ new) (r'.pushEvents new) := by
    refine h.other hnew (congrArg (· ++ new) hpending) hnext hprojectiles ?_ (.inl (hsame ▸ hbegun))
    intro _ hsome
    refine h.active hphase fun hnobody => hsome ?_
    unfold audience at hseats
    rw [hnobody] at hseats
    exact List.map_eq_nil_iff.1 hseats
  have hspawned (enemy : Enemy) : ∀ e ∈ Room.spawned enemy, e.projectile = none := by
    simp [Room.spawned, BattleEvent.projectile]
  have hseats := hchange.sameBattle.audience
  cases hchange with
  | adjust => exact hother _ _ (List.forall_mem_nil _) rfl rfl rfl rfl hseats
  | walk => exact hother _ _ (by simp [BattleEvent.projectile]) rfl rfl rfl rfl hseats
  | bury => exact hother _ _ (List.forall_mem_nil _) rfl rfl rfl rfl hseats
  | approach => exact hother _ _ (by simp [BattleEvent.projectile]) rfl rfl rfl rfl hseats
  | tire => exact hother _ _ (List.forall_mem_nil _) rfl rfl rfl rfl hseats
  | strike =>
    refine hother _ _ ?_ rfl rfl rfl rfl hseats
    unfold blow
    split <;> simp [BattleEvent.projectile]
  | fly hsplit => exact h.fly hphase hsplit
  | drop hsplit hfalls =>
    exact h.drop hphase (hranks.shots.imp Nat.ne_of_lt) hsplit hfalls
  | wound =>
    refine hother _ _ ?_ rfl rfl rfl rfl hseats
    unfold hit
    dsimp only
    split <;> simp [BattleEvent.projectile]
  | whiff => exact hother _ _ (by simp [BattleEvent.projectile]) rfl rfl rfl rfl hseats
  | launch _ hid hne => exact h.launch hphase hid hne
  | wave =>
    refine hother _ _ ?_ rfl rfl rfl rfl hseats
    intro e he
    obtain ⟨events, hevents, he⟩ := List.mem_flatten.1 he
    obtain ⟨enemy, -, rfl⟩ := List.mem_map.1 hevents
    exact hspawned enemy e he
  | boss => exact hother _ _ (hspawned _) rfl rfl rfl rfl hseats

theorem kept (config : RoomConfig) :
    Kept config fun (H : List TimedEvent) r => Airspace (H.map (·.2)) r where
  created _ := by
    refine ⟨throughout_nil Flies, ⟨[], rfl⟩, ?_, ?_, ?_, nofun, fun _ => rfl⟩
    · exact List.forall_mem_nil _
    · exact List.forall_mem_nil _
    · exact List.forall_mem_nil _
  seat H r p h hphase _ := by
    have hnot : r.phase ≠ .running := by
      rw [hphase]
      exact nofun
    exact ⟨h.flies, h.pending, h.issued, h.spawned, h.left,
      fun hrunning => absurd hrunning hnot, h.silent⟩
  unseat H r player h := by
    refine ⟨h.flies, h.pending, h.issued, h.spawned, h.left, ?_, h.silent⟩
    intro hphase hsome
    refine h.active hphase fun hnobody => hsome ?_
    have hsub := sublist_withoutParticipant r player
    rw [hnobody] at hsub
    exact List.sublist_nil.1 hsub
  parting H r t player h hphase := by
    rw [List.map_append]
    refine h.other ?_ rfl rfl rfl (fun _ hsome => h.active hphase hsome) (.inl ?_)
    · exact List.forall_mem_singleton.2 rfl
    · show r.phase ≠ .waiting
      rw [hphase]
      exact nofun
  desertion H r h hnobody := by
    refine ⟨h.flies, ⟨_, (List.append_nil _).symm⟩, h.issued, ?_, ?_, ?_, h.silent⟩
    · exact List.forall_mem_nil _
    · exact List.forall_mem_nil _
    · exact fun _ hsome => absurd hnobody hsome
  digest H r h :=
    ⟨h.flies, ⟨_, (List.append_nil _).symm⟩, h.issued, h.spawned, h.left, h.active, h.silent⟩
  conclusion H r phase h _ hended hbegun := by
    refine ⟨h.flies, h.pending, h.issued, ?_, ?_, ?_, ?_⟩
    · exact List.forall_mem_nil _
    · exact List.forall_mem_nil _
    · exact fun hrunning => absurd hrunning hended
    · exact fun hwaiting => absurd hwaiting hbegun
  opening H r t h hsound hphase := by
    rw [List.map_append, map_snd_stamp]
    have hnew : ∀ e ∈ r.opener t, e.projectile = none := by
      intro e he
      rcases List.mem_cons.1 he with rfl | he
      · rfl
      · obtain ⟨p, -, rfl⟩ := List.mem_map.1 he
        rfl
    refine h.other hnew rfl rfl rfl ?_ (.inl nofun)
    intro _ _ id hairborne
    obtain ⟨owner, skill, target, position, hmem⟩ := hairborne.spawned
    rw [h.silent hphase] at hmem
    cases hmem
  change H r t new r' h hranks _ _ _ hphase hchange := by
    rw [List.map_append, map_snd_stamp]
    exact h.change hranks hphase hchange

end Airspace

end Room

end Snf.Game
