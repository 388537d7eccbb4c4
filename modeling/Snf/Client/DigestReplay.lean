import Snf.Client.World
import Snf.Game.RunningBattle

/-! # What the client sees is what is there

The client knows a battle from its digests alone. Every change of the battle comes with events,
and what the client makes of them is the same change of its own view: the living enemies, the
participants and the projectiles. So a client that has applied all digests of a running battle,
and then the events that are still pending, sees the battle as it is.
-/

namespace Snf.Client

open Snf.Game Snf.Lib

/-! ## The two sides of the view -/

def Entity.asEnemy (e : Entity) : EnemyId × EnemyKind × Nat × ArenaPosition :=
  (e.id, e.kind, e.hp, ⟨e.x, e.y⟩)

def Entity.asPlayer (e : Entity) : PlayerId × Nat × ArenaPosition × Bool :=
  (e.id, e.hp, ⟨e.x, e.y⟩, e.alive)

def ProjectileState.flight (q : ProjectileState) :
    ProjectileId × PlayerId × SkillId × EnemyId × ArenaPosition :=
  (q.id, q.owner, q.skillId, q.target, ⟨q.x, q.y⟩)

def enemyView (e : Enemy) : EnemyId × EnemyKind × Nat × ArenaPosition :=
  (e.id, e.kind, e.health, e.position)

def participantView (p : Participant) : PlayerId × Nat × ArenaPosition × Bool :=
  (p.playerId, p.currentHealth, p.position, p.currentHealth ≠ 0)

def projectileView (q : Projectile) : ProjectileId × PlayerId × SkillId × EnemyId × ArenaPosition :=
  (q.id, q.owner, q.skillId, q.target, q.position)

/-- **The world shows the battle**: the living enemies, the participants and the projectiles. -/
structure Mirrors (w : World) (r : Room) : Prop where
  enemies : ∀ k, shown Entity.asEnemy w.enemies k =
    seen (·.id) (fun e => e.health ≠ 0) enemyView r.enemies k
  players : ∀ k, shown Entity.asPlayer w.players k =
    seen (·.playerId) (fun _ => true) participantView r.participants k
  projectiles : ∀ k, shown ProjectileState.flight w.projectiles k =
    seen (·.id) (fun _ => true) projectileView r.projectiles k

namespace Mirrors

variable {w w' : World} {r : Room} {seq now t : Nat}

/-! ## Enemies -/

section Enemies

variable {before after : List Enemy} {e e' : Enemy}

theorem enemy (h : Mirrors w r) (hkeys : (r.enemies.map (·.id)).Nodup)
    (hsplit : r.enemies = before ++ e :: after) (hid : e'.id = e.id)
    (hplayers : w'.players = w.players) (hprojectiles : w'.projectiles = w.projectiles)
    (hw : ∀ k, shown Entity.asEnemy w'.enemies k = if k = e.id then
      ((some e').filter (fun e => e.health ≠ 0)).map enemyView
      else shown Entity.asEnemy w.enemies k) :
    Mirrors w' (r.withEnemies (before ++ e' :: after)) := by
  refine ⟨?_, ?_, ?_⟩
  · intro k
    have hold := h.enemies k
    rw [hsplit] at hold hkeys
    rw [hw k, hold]
    exact (seen_replace hkeys hid k).symm
  · rw [hplayers]
    exact h.players
  · rw [hprojectiles]
    exact h.projectiles

/-- What is shown of an enemy that is alive. -/
theorem shown_enemy (h : Mirrors w r) (hkeys : (r.enemies.map (·.id)).Nodup)
    (hsplit : r.enemies = before ++ e :: after) (halive : e.health ≠ 0) :
    shown Entity.asEnemy w.enemies e.id = some (enemyView e) := by
  have he : e ∈ r.enemies := by
    rw [hsplit]
    exact List.mem_append_right _ List.mem_cons_self
  rw [h.enemies]
  exact seen_of_mem hkeys he (by simpa using halive)

theorem approach (h : Mirrors w r) (hkeys : (r.enemies.map (·.id)).Nodup)
    (hsplit : r.enemies = before ++ e :: after) (halive : e.health ≠ 0) (position : ArenaPosition) :
    Mirrors (w.applyEvents seq now [.enemyPositioned e.id position])
      (r.withEnemies (before ++ { e with position := position } :: after)) := by
  refine h.enemy hkeys hsplit rfl rfl rfl fun k => ?_
  have hmodify := shown_modify Entity.asEnemy w.enemies k e.id (f := (·.setPos position now))
    (g := fun v => (v.1, v.2.1, v.2.2.1, position)) fun _ => rfl
  rw [h.shown_enemy hkeys hsplit halive] at hmodify
  rw [Option.filter_some_pos (by simpa using halive)]
  exact hmodify

theorem tire (h : Mirrors w r) (hkeys : (r.enemies.map (·.id)).Nodup)
    (hsplit : r.enemies = before ++ e :: after) (readyAt : Nat) :
    Mirrors w (r.withEnemies (before ++ { e with attackReadyAt := readyAt } :: after)) := by
  refine ⟨fun k => ?_, h.players, h.projectiles⟩
  have hold := h.enemies k
  rw [hsplit] at hold hkeys
  have hsame : seen (·.id) (fun e => decide (e.health ≠ 0)) enemyView
      (before ++ { e with attackReadyAt := readyAt } :: after) k =
      seen (·.id) (fun e => decide (e.health ≠ 0)) enemyView (before ++ e :: after) k :=
    seen_same (b := { e with attackReadyAt := readyAt }) hkeys rfl rfl rfl k
  rw [hold]
  exact hsame.symm

theorem wound (h : Mirrors w r) (hkeys : (r.enemies.map (·.id)).Nodup)
    (hsplit : r.enemies = before ++ e :: after) (halive : e.health ≠ 0) (actor : PlayerId)
    (skillId : SkillId) (damage : Nat) :
    Mirrors (w.applyEvents seq now (Room.hit e actor skillId damage).2)
      (r.withEnemies (before ++ (Room.hit e actor skillId damage).1 :: after)) := by
  have hshown := h.shown_enemy hkeys hsplit halive
  have hmodify (k : EnemyId) := shown_modify Entity.asEnemy w.enemies k e.id
    (f := fun e' => { e' with hp := e.health - min damage e.health })
    (g := fun v => (v.1, v.2.1, e.health - min damage e.health, v.2.2.2)) fun _ => rfl
  by_cases hdead : e.health - min damage e.health = 0
  · have hevents : (Room.hit e actor skillId damage).2 =
        [.enemyDamaged e.id actor skillId (min damage e.health) (e.health - min damage e.health),
          .enemyDied e.id] := by
      simp [Room.hit, hdead]
    rw [hevents]
    refine h.enemy hkeys hsplit rfl rfl rfl fun k => ?_
    rw [Option.filter_some_neg (by simpa [Room.hit] using hdead)]
    refine (shown_erase _ k e.id).trans ?_
    split
    · rfl
    · next hk => exact (hmodify k).trans (if_neg hk)
  · have hevents : (Room.hit e actor skillId damage).2 =
        [.enemyDamaged e.id actor skillId (min damage e.health)
          (e.health - min damage e.health)] := by
      simp [Room.hit, hdead]
    rw [hevents]
    refine h.enemy hkeys hsplit rfl rfl rfl fun k => ?_
    rw [Option.filter_some_pos (by simpa [Room.hit] using hdead)]
    have hmodify := hmodify k
    rw [hshown] at hmodify
    exact hmodify

theorem bury (h : Mirrors w r) (hkeys : (r.enemies.map (·.id)).Nodup) :
    Mirrors w (r.withEnemies (r.enemies.filter (·.health ≠ 0))) :=
  ⟨fun k => (h.enemies k).trans (seen_filter hkeys k).symm, h.players, h.projectiles⟩

/-- Enemies come, one after the other, under new ids. -/
theorem spawn (es : List Enemy) (h : Mirrors w r)
    (hkeys : ((r.enemies ++ es).map (·.id)).Nodup) (halive : ∀ e ∈ es, e.health ≠ 0) :
    Mirrors (w.applyEvents seq now (es.map Room.spawned).flatten)
      (r.withEnemies (r.enemies ++ es)) := by
  induction es generalizing w r with
  | nil =>
    have hsame : r.withEnemies (r.enemies ++ []) = r := by
      rw [List.append_nil]
      rfl
    rw [hsame]
    exact h
  | cons e es ih =>
    obtain ⟨hfirst, hrest⟩ := List.forall_mem_cons.1 halive
    have hfresh : ∀ c ∈ r.enemies, c.id ≠ e.id := fun c hc =>
      key_ne_of_split hkeys (.inl hc)
    have hone : Mirrors (w.applyEvents seq now (Room.spawned e))
        (r.withEnemies (r.enemies ++ [e])) := by
      refine ⟨fun k => ?_, h.players, h.projectiles⟩
      have hmodify := shown_modify Entity.asEnemy (w.enemies.insert e.id
          { id := e.id, hp := e.health, maxHp := e.health, kind := e.kind, updatedAt := now })
        k e.id (f := (·.setPos e.position now)) (g := fun v => (v.1, v.2.1, v.2.2.1, e.position))
        fun _ => rfl
      rw [shown_insert, if_pos rfl, shown_insert] at hmodify
      have hseen : seen (·.id) (fun e => decide (e.health ≠ 0)) enemyView (r.enemies ++ [e]) k = _ :=
        seen_append hfresh (by simpa using hfirst) k
      refine Eq.trans hmodify (Eq.trans ?_ hseen.symm)
      split
      · rfl
      · exact h.enemies k
    have hall := ih (r := r.withEnemies (r.enemies ++ [e])) hone
      (by simpa [Room.withEnemies] using hkeys) hrest
    simp only [Room.withEnemies, List.append_assoc, List.singleton_append] at hall
    simp only [List.map_cons, List.flatten_cons, World.applyEvents, List.foldl_append] at hall ⊢
    exact hall

end Enemies

/-! ## Participants -/

section Players

variable {before after : List Participant} {p p' : Participant}

theorem participant (h : Mirrors w r) (ho : r.InOrder)
    (hsplit : r.participants = before ++ p :: after) (hid : p'.playerId = p.playerId)
    (henemies : w'.enemies = w.enemies) (hprojectiles : w'.projectiles = w.projectiles)
    (hw : ∀ k, shown Entity.asPlayer w'.players k = if k = p.playerId then
      some (participantView p') else shown Entity.asPlayer w.players k) :
    Mirrors w' (r.withParticipants (before ++ p' :: after)) := by
  refine ⟨?_, ?_, ?_⟩
  · rw [henemies]
    exact h.enemies
  · intro k
    have hold := h.players k
    have hkeys := ho.nodup
    rw [hsplit] at hold hkeys
    rw [hw k, hold]
    exact (seen_replace hkeys hid k).symm
  · rw [hprojectiles]
    exact h.projectiles

theorem shown_participant (h : Mirrors w r) (ho : r.InOrder)
    (hsplit : r.participants = before ++ p :: after) :
    shown Entity.asPlayer w.players p.playerId = some (participantView p) := by
  have hp : p ∈ r.participants := by
    rw [hsplit]
    exact List.mem_append_right _ List.mem_cons_self
  rw [h.players]
  exact seen_of_mem ho.nodup hp rfl

theorem adjust (h : Mirrors w r) (ho : r.InOrder)
    (hsplit : r.participants = before ++ p :: after) (hid : p'.playerId = p.playerId)
    (hhealth : p'.currentHealth = p.currentHealth) (hposition : p'.position = p.position) :
    Mirrors w (r.withParticipants (before ++ p' :: after)) := by
  have hview : participantView p' = participantView p := by
    simp only [participantView, hid, hhealth, hposition]
  refine h.participant ho hsplit hid rfl rfl fun k => ?_
  split
  · next hk => rw [hk, h.shown_participant ho hsplit, hview]
  · rfl

theorem walk (h : Mirrors w r) (ho : r.InOrder)
    (hsplit : r.participants = before ++ p :: after) (position : ArenaPosition) :
    Mirrors (w.applyEvents seq now [.participantMoved p.playerId position])
      (r.withParticipants (before ++ { p with position := position } :: after)) := by
  refine h.participant ho hsplit rfl rfl rfl fun k => ?_
  have hmodify := shown_modify Entity.asPlayer w.players k p.playerId
    (f := (·.setPos position now)) (g := fun v => (v.1, v.2.1, position, v.2.2.2)) fun _ => rfl
  rw [h.shown_participant ho hsplit] at hmodify
  exact hmodify

theorem strike (h : Mirrors w r) (ho : r.InOrder)
    (hsplit : r.participants = before ++ p :: after) (halive : p.currentHealth ≠ 0)
    (attacker : EnemyId) (damage : Nat) :
    Mirrors (w.applyEvents seq now (Room.blow p attacker damage))
      (r.withParticipants (before ++ Room.struck p damage :: after)) := by
  have hmodify (k : PlayerId) := shown_modify Entity.asPlayer w.players k p.playerId
    (f := fun e => { e with hp := p.currentHealth - damage })
    (g := fun v => (v.1, p.currentHealth - damage, v.2.2)) fun _ => rfl
  simp only [h.shown_participant ho hsplit] at hmodify
  by_cases hdead : p.currentHealth - damage = 0
  · have hevents : Room.blow p attacker damage =
        [.participantDamaged p.playerId attacker damage (p.currentHealth - damage),
          .participantDied p.playerId] := by
      simp [Room.blow, hdead]
    rw [hevents]
    refine h.participant ho hsplit rfl rfl rfl fun k => ?_
    have hdied := shown_modify Entity.asPlayer (modify w.players p.playerId
        fun e => { e with hp := p.currentHealth - damage }) k p.playerId
      (f := fun e => { e with alive := false, hp := 0 }) (g := fun v => (v.1, 0, v.2.2.1, false))
      fun _ => rfl
    rw [hmodify, if_pos rfl, hmodify] at hdied
    refine Eq.trans hdied ?_
    split
    · simp [participantView, Room.struck, hdead]
    · rfl
  · have hevents : Room.blow p attacker damage =
        [.participantDamaged p.playerId attacker damage (p.currentHealth - damage)] := by
      simp [Room.blow, hdead]
    rw [hevents]
    refine h.participant ho hsplit rfl rfl rfl fun k => ?_
    refine Eq.trans (hmodify k) ?_
    split
    · simp [participantView, Room.struck, hdead, halive]
    · rfl

/-- Someone leaves. -/
theorem leave (h : Mirrors w r) (ho : r.InOrder) {player : PlayerId}
    (hfound : (r.findParticipant player).isSome = true) :
    Mirrors (w.applyEvents seq now [.participantLeft player]) (r.withoutParticipant player) := by
  obtain ⟨p, hp⟩ := Option.isSome_iff_exists.1 hfound
  obtain ⟨hhead, hid⟩ := Option.filter_eq_some_iff.1 hp
  obtain ⟨rest, hrest⟩ := List.head?_eq_some_iff.1 hhead
  have hid : p.playerId = player := by simpa using hid
  have hsplit : r.participants = r.participants.takeWhile (·.playerId < player) ++ p :: rest := by
    rw [← hrest, List.takeWhile_append_dropWhile]
  have hleft : (r.withoutParticipant player).participants =
      r.participants.takeWhile (·.playerId < player) ++ rest := by
    simp only [Room.withoutParticipant, hrest, List.tail_cons]
  refine ⟨h.enemies, fun k => ?_, h.projectiles⟩
  have hold := h.players k
  have hkeys := ho.nodup
  rw [hsplit] at hold hkeys
  refine (shown_erase w.players k player).trans ?_
  rw [hleft, seen_remove hkeys, hold, hid]

end Players

/-! ## Projectiles -/

section Projectiles

variable {before after : List Projectile} {q : Projectile}

theorem fly (h : Mirrors w r) (hkeys : (r.projectiles.map (·.id)).Nodup)
    (hsplit : r.projectiles = before ++ q :: after) (position : ArenaPosition) :
    Mirrors (w.applyEvents seq now [.projectileMoved q.id position])
      (r.withProjectiles (before ++ { q with position := position } :: after)) := by
  refine ⟨h.enemies, h.players, fun k => ?_⟩
  have hq : q ∈ r.projectiles := by
    rw [hsplit]
    exact List.mem_append_right _ List.mem_cons_self
  have hshown : shown ProjectileState.flight w.projectiles q.id = some (projectileView q) := by
    rw [h.projectiles]
    exact seen_of_mem hkeys hq rfl
  have hmodify := shown_modify ProjectileState.flight w.projectiles k q.id
    (f := (·.setPos position now)) (g := fun v => (v.1, v.2.1, v.2.2.1, v.2.2.2.1, position))
    fun _ => rfl
  rw [hshown, h.projectiles] at hmodify
  rw [hsplit] at hkeys hmodify
  refine hmodify.trans (Eq.symm ?_)
  exact seen_replace (b := { q with position := position }) hkeys rfl k

theorem drop (h : Mirrors w r) (hkeys : (r.projectiles.map (·.id)).Nodup)
    (hsplit : r.projectiles = before ++ q :: after) (reason : ProjectileRemovalReason) :
    Mirrors (w.applyEvents seq now [.projectileRemoved q.id reason])
      (r.withProjectiles (before ++ after)) := by
  refine ⟨h.enemies, h.players, fun k => ?_⟩
  have hold := h.projectiles k
  rw [hsplit] at hkeys hold
  refine (shown_erase w.projectiles k q.id).trans (Eq.symm ?_)
  rw [hold]
  exact seen_remove hkeys k

theorem launch (h : Mirrors w r) (hfresh : ∀ c ∈ r.projectiles, c.id ≠ q.id)
    (next : ProjectileId) :
    Mirrors (w.applyEvents seq now
      [.projectileSpawned q.id q.owner q.skillId q.target q.position])
      { r with nextProjectileId := next, projectiles := r.projectiles ++ [q] } := by
  refine ⟨h.enemies, h.players, fun k => ?_⟩
  have hseen : seen (·.id) (fun _ => true) projectileView (r.projectiles ++ [q]) k = _ :=
    seen_append hfresh rfl k
  refine (shown_insert w.projectiles k q.id _).trans (Eq.symm ?_)
  refine hseen.trans ?_
  rw [← h.projectiles k]
  rfl

end Projectiles

/-! ## Changes -/

/-- **Every change is shown as it is.** -/
theorem change {r' : Room} {events : List BattleEvent} (h : Mirrors w r) (hc : r.config.Valid)
    (hphase : r.phase = .running) (ho : r.InOrder) (hranks : r.Ranks)
    (hchange : Room.Change t r events r') : Mirrors (w.applyEvents seq now events) r' := by
  have hkeys : (r.enemies.map (·.id)).Nodup := hranks.ids.imp Nat.ne_of_lt
  have hshots : (r.projectiles.map (·.id)).Nodup := hranks.shots.imp Nat.ne_of_lt
  have hnext := hranks.change hc hphase hchange
  have hkeys' : (r'.enemies.map (·.id)).Nodup := hnext.ids.imp Nat.ne_of_lt
  cases hchange with
  | adjust hsplit hid _ hhealth hposition => exact h.adjust ho hsplit hid hhealth hposition
  | walk hsplit => exact h.walk ho hsplit _
  | bury => exact h.bury hkeys
  | approach hsplit halive => exact h.approach hkeys hsplit halive _
  | tire hsplit => exact h.tire hkeys hsplit _
  | strike hsplit halive => exact h.strike ho hsplit halive _ _
  | fly hsplit => exact h.fly hshots hsplit _
  | drop hsplit => exact h.drop hshots hsplit _
  | wound hsplit halive => exact h.wound hkeys hsplit halive _ _ _
  | whiff => exact h
  | launch _ hid hne =>
    refine h.launch (fun c hcur => ?_) _
    rcases hranks.launched c hcur with hzero | hlt
    · exact absurd (hid.trans hzero) hne
    · rw [hid]
      exact Nat.ne_of_lt hlt
  | wave =>
    have hspawn : Mirrors (w.applyEvents seq now ((r.wave t).map Room.spawned).flatten) _ :=
      h.spawn (r.wave t) hkeys' fun e he => ?_
    · exact ⟨hspawn.enemies, hspawn.players, hspawn.projectiles⟩
    · obtain ⟨_, -, rfl⟩ := List.mem_map.1 he
      exact hc.minionHealth
  | boss =>
    have hspawn : Mirrors (w.applyEvents seq now (Room.spawned (r.bossOf t))) _ :=
      h.spawn [r.bossOf t] hkeys' fun e he => ?_
    · exact ⟨hspawn.enemies, hspawn.players, hspawn.projectiles⟩
    · obtain rfl := List.mem_singleton.1 he
      exact hc.bossHealth

theorem congr {r' : Room} (h : Mirrors w r) (henemies : r'.enemies = r.enemies)
    (hparticipants : r'.participants = r.participants) (hprojectiles : r'.projectiles = r.projectiles) :
    Mirrors w r' :=
  ⟨henemies ▸ h.enemies, hparticipants ▸ h.players, hprojectiles ▸ h.projectiles⟩

theorem takeDigest (h : Mirrors w r) : Mirrors w r.takeDigest.2 := by
  rcases Room.takeDigest_snd r with heq | heq
  · rw [heq]
    exact h
  · rw [heq]
    exact h.congr rfl rfl rfl

/-- **A sequence of changes is shown as it is.** -/
theorem path {r' : Room} {events : List BattleEvent} (h : Mirrors w r) (hc : r.config.Valid)
    (hphase : r.phase = .running) (ho : r.InOrder) (hranks : r.Ranks)
    (hpath : Room.Path t r events r') : Mirrors (w.applyEvents seq now events) r' := by
  induction hpath with
  | refl => exact h
  | @step events new s s' hbefore hchange ih =>
    have hsame := hbefore.sameBattle
    have hnext : Mirrors ((w.applyEvents seq now events).applyEvents seq now new) s' :=
      ih.change (hsame.config ▸ hc) (hsame.phase.trans hphase) (ho.congr hsame.audience)
        (hranks.path hc hphase hbefore) hchange
    rw [World.applyEvents, List.foldl_append]
    exact hnext.congr rfl rfl rfl

/-- The participants are placed, one after the other. -/
theorem place (ps : List Participant) (h : Mirrors w r)
    (hkeys : ((r.participants ++ ps).map (·.playerId)).Nodup)
    (halive : ∀ p ∈ ps, p.currentHealth ≠ 0) :
    Mirrors (w.applyEvents seq now (ps.map fun p =>
      .participantSpawned p.playerId p.position p.currentHealth))
      (r.withParticipants (r.participants ++ ps)) := by
  induction ps generalizing w r with
  | nil =>
    have hsame : r.withParticipants (r.participants ++ []) = r := by
      rw [List.append_nil]
      rfl
    rw [hsame]
    exact h
  | cons p ps ih =>
    obtain ⟨hfirst, hrest⟩ := List.forall_mem_cons.1 halive
    have hfresh : ∀ c ∈ r.participants, c.playerId ≠ p.playerId := fun c hc =>
      key_ne_of_split hkeys (.inl hc)
    have hone : Mirrors (w.applyEvent seq now
        (.participantSpawned p.playerId p.position p.currentHealth))
        (r.withParticipants (r.participants ++ [p])) := by
      refine ⟨h.enemies, fun k => ?_, h.projectiles⟩
      have hseen : seen (·.playerId) (fun _ => true) participantView (r.participants ++ [p]) k = _ :=
        seen_append hfresh rfl k
      refine (shown_insert w.players k p.playerId _).trans (Eq.trans ?_ hseen.symm)
      rw [h.players k]
      split
      · simp [Entity.asPlayer, participantView, hfirst]
      · rfl
    have hall := ih (r := r.withParticipants (r.participants ++ [p])) hone
      (by simpa [Room.withParticipants] using hkeys) hrest
    simp only [Room.withParticipants, List.append_assoc, List.singleton_append] at hall
    exact hall

/-- The opening of a battle, for a client that knows of nothing. -/
theorem opened (hplayers : w.players = ∅) (henemies : w.enemies = ∅)
    (hprojectiles : w.projectiles = ∅) (hr : r.enemies = [] ∧ r.projectiles = [])
    (hpending : r.pendingEvents = []) (ho : r.InOrder) (hlively : r.Lively) :
    Mirrors (w.applyEvents seq now (r.opened t).pendingEvents) (r.opened t) := by
  have hempty : Mirrors (w.applyEvent seq now
      (.arenaStarted r.config.arenaWidth r.config.arenaHeight))
      ((r.opened t).withParticipants []) := by
    refine ⟨?_, ?_, ?_⟩
    · have hnone : ((r.opened t).withParticipants []).enemies = [] := hr.1
      intro k
      rw [hnone]
      show shown Entity.asEnemy w.enemies k = none
      rw [henemies]
      rfl
    · intro k
      show shown Entity.asPlayer w.players k = none
      rw [hplayers]
      rfl
    · have hnone : ((r.opened t).withParticipants []).projectiles = [] := hr.2
      intro k
      rw [hnone]
      show shown ProjectileState.flight w.projectiles k = none
      rw [hprojectiles]
      rfl
  have hkeys : ((r.opened t).participants.map (·.playerId)).Nodup := by
    have haudience : (r.opened t).audience = r.audience := Room.SameBattle.initializeArena.audience
    exact (ho.congr haudience).nodup
  have halive : ∀ p ∈ (r.opened t).participants, p.currentHealth ≠ 0 := by
    intro p hp
    simp only [Room.opened, Room.initializeArena, Room.pushEvents, List.mem_map] at hp
    obtain ⟨⟨q, index⟩, hq, rfl⟩ := hp
    exact hlively.healthy q (List.fst_mem_of_mem_zipIdx hq)
  have hevents : (r.opened t).pendingEvents =
      .arenaStarted r.config.arenaWidth r.config.arenaHeight ::
        (r.opened t).participants.map fun p =>
          .participantSpawned p.playerId p.position p.currentHealth := by
    simp only [Room.opened, Room.initializeArena, Room.pushEvents, hpending, List.nil_append]
  rw [hevents]
  exact hempty.place (r.opened t).participants hkeys halive

end Mirrors

end Snf.Client

namespace Snf.Game

/-- The digests of a run with the phases in which they were taken, the first one first. -/
def RoomRun.digests (s : RoomRun) : List (RoomPhase × BattleDigest) :=
  s.results.reverse.filterMap fun result => result.digest.map (result.phase, ·)

namespace Room

theorem Change.digestSequence_eq {t : Nat} {r r' : Room} {events : List BattleEvent}
    (h : Change t r events r') : r'.digestSequence = r.digestSequence := by
  cases h <;> rfl

theorem Path.digestSequence_eq {t : Nat} {r r' : Room} {events : List BattleEvent}
    (h : Path t r events r') : r'.digestSequence = r.digestSequence := by
  induction h with
  | refl => rfl
  | step _ hchange ih => exact hchange.digestSequence_eq.trans ih

end Room

end Snf.Game

namespace Snf.Client

open Snf.Game Snf.Lib

/-- The client applies the digests one after the other, the one with number `n` at `now n`. -/
def World.replay (now : Nat → Nat) (w : World) (digests : List (RoomPhase × BattleDigest)) : World :=
  digests.foldl (fun w d => w.applyDigest d.2.sequence d.1 d.2.events (now d.2.sequence)) w

/-- A client that has followed the run. What it shows does not depend on the numbers and the
times under which it applies what is pending. -/
structure Followed (now : Nat → Nat) (w : World) (s : RoomRun) : Prop where
  numbered : s.digests.map (·.2.sequence) = List.range' 1 s.room.digestSequence
  unread : s.room.phase = .waiting → s.digests = []
  mirrors : s.room.phase = .running → s.room.participants ≠ [] → ∀ seq at' digestSeq phase,
    Mirrors (({ w.enterRoomMode.replay now s.digests with
      digestSeq := digestSeq, phase := phase } : World).applyEvents seq at' s.room.pendingEvents)
      s.room

namespace Followed

variable {now : Nat → Nat} {w : World} {s : RoomRun} {r' : Room} {out : RoomResult × Room}

/-- A command after which `r'` holds the events that are to be told. -/
theorem step (h : Followed now w s) (htold : r'.Told out)
    (hnumber : r'.digestSequence = s.room.digestSequence) (hphase : out.1.phase = out.2.phase)
    (hwaiting : out.2.phase = .waiting → s.room.phase = .waiting ∧ out.1.digest = none)
    (hmirrors : out.2.phase = .running → out.2.participants ≠ [] → ∀ seq at' digestSeq phase,
      Mirrors (({ w.enterRoomMode.replay now s.digests with
        digestSeq := digestSeq, phase := phase } : World).applyEvents seq at' r'.pendingEvents)
        out.2) :
    Followed now w ⟨out.2, out.1 :: s.results⟩ := by
  have hevents := htold.events
  cases hdigest : out.1.digest with
  | none =>
    have hsame : (⟨out.2, out.1 :: s.results⟩ : RoomRun).digests = s.digests := by
      simp [RoomRun.digests, List.filterMap_append, hdigest]
    have hpending : out.2.pendingEvents = r'.pendingEvents := by
      simpa [RoomResult.told, hdigest] using hevents
    refine ⟨?_, ?_, ?_⟩
    · rw [hsame, h.numbered]
      exact congrArg (List.range' 1) ((htold.unnumbered hdigest).trans hnumber).symm
    · intro hwait
      rw [hsame]
      exact h.unread (hwaiting hwait).1
    · intro hrunning hsome
      rw [hsame]
      dsimp only
      rw [hpending]
      exact hmirrors hrunning hsome
  | some digest =>
    obtain ⟨hsequence, hnext⟩ := htold.numbered digest hdigest
    have hsame : (⟨out.2, out.1 :: s.results⟩ : RoomRun).digests =
        s.digests ++ [(out.1.phase, digest)] := by
      simp [RoomRun.digests, List.filterMap_append, hdigest]
    have hpending : out.2.pendingEvents = [] := by
      rcases htold.whole with hnone | hnil
      · rw [hdigest] at hnone
        cases hnone
      · exact hnil
    have hwhole : digest.events = r'.pendingEvents := by
      simpa [RoomResult.told, hdigest, hpending] using hevents
    refine ⟨?_, ?_, ?_⟩
    · have hlast : (⟨out.2, out.1 :: s.results⟩ : RoomRun).room.digestSequence =
          s.room.digestSequence + 1 := by
        show out.2.digestSequence = _
        rw [hnext, hnumber]
      rw [hsame, hlast, List.map_append, h.numbered, List.range'_concat, List.map_cons, hsequence,
        hnumber]
      simp [Nat.add_comm]
    · intro hwait
      rw [(hwaiting hwait).2] at hdigest
      cases hdigest
    · intro hrunning hsome seq at' digestSeq phase
      have hon : out.1.phase = .running := hphase.trans hrunning
      have hshown := hmirrors hrunning hsome digest.sequence (now digest.sequence) digest.sequence
        .running
      dsimp only
      rw [hsame, hpending, World.replay, List.foldl_append, hon]
      rw [← hwhole] at hshown
      exact ⟨hshown.enemies, hshown.players, hshown.projectiles⟩

/-- A command that ends the battle: what comes after it is not followed. -/
theorem ended (h : Followed now w s) {phase : RoomPhase} (htold : (r'.concluded phase).Told out)
    (hnumber : r'.digestSequence = s.room.digestSequence) (hphase : out.1.phase = out.2.phase)
    (hout : out.2 = (r'.concluded phase).takeDigest.2) (hover : phase = .cleared ∨ phase = .failed) :
    Followed now w ⟨out.2, out.1 :: s.results⟩ := by
  have hlast : out.2.phase = phase := by
    rw [hout]
    rcases Room.takeDigest_snd (r'.concluded phase) with heq | heq <;> rw [heq] <;> rfl
  refine h.step htold hnumber hphase ?_ ?_
  · intro hwaiting
    rw [hlast] at hwaiting
    rcases hover with rfl | rfl <;> cases hwaiting
  · intro hrunning
    rw [hlast] at hrunning
    rcases hover with rfl | rfl <;> cases hrunning

/-- A command after which the battle goes on. -/
theorem goesOn (h : Followed now w s) (htold : r'.Told out)
    (hnumber : r'.digestSequence = s.room.digestSequence) (hphase : out.1.phase = out.2.phase)
    (hrunning : r'.phase = .running) (hout : out.2 = r' ∨ out.2 = r'.takeDigest.2)
    (hmirrors : r'.participants ≠ [] → ∀ seq at' digestSeq phase,
      Mirrors (({ w.enterRoomMode.replay now s.digests with
        digestSeq := digestSeq, phase := phase } : World).applyEvents seq at' r'.pendingEvents) r') :
    Followed now w ⟨out.2, out.1 :: s.results⟩ := by
  have hsame : out.2.phase = r'.phase ∧ out.2.participants = r'.participants := by
    rcases hout with heq | heq
    · rw [heq]
      exact ⟨rfl, rfl⟩
    · rw [heq]
      rcases Room.takeDigest_snd r' with heq | heq <;> rw [heq] <;> exact ⟨rfl, rfl⟩
  refine h.step htold hnumber hphase (fun hwait => ?_) fun _ hsome seq at' digestSeq phase => ?_
  · rw [hsame.1, hrunning] at hwait
    cases hwait
  · have hshown := hmirrors (hsame.2 ▸ hsome) seq at' digestSeq phase
    rcases hout with heq | heq
    · rw [heq]
      exact hshown
    · rw [heq]
      exact hshown.takeDigest

/-- **A client follows every command.** -/
theorem handled (h : Followed now w s) {c : RoomConfig} {t : Nat} {command : RoomCommand}
    (hs : s.room.Sound c) (hc : c.Valid) (hlively : s.room.Lively)
    (hphase : out.1.phase = out.2.phase) (hh : Room.Handled t s.room command out) :
    Followed now w ⟨out.2, out.1 :: s.results⟩ := by
  have hvalid : s.room.config.Valid := hs.config ▸ hc
  have hfight {events : List BattleEvent} {r : Room} (hrunning : s.room.phase = .running)
      (hpath : Room.Path t s.room events r) (hsome : r.participants ≠ []) :
      ∀ seq at' digestSeq phase, Mirrors (({ w.enterRoomMode.replay now s.digests with
        digestSeq := digestSeq, phase := phase } : World).applyEvents seq at' r.pendingEvents) r := by
    intro seq at' digestSeq phase
    have hhere : s.room.participants ≠ [] := by
      intro hnil
      have haudience := hpath.sameBattle.audience
      simp only [Room.audience, hnil, List.map_nil, List.map_eq_nil_iff] at haudience
      exact hsome haudience
    have hold := h.mirrors hrunning hhere seq at' digestSeq phase
    rw [hpath.pendingEvents_eq, World.applyEvents, List.foldl_append]
    exact hold.path hvalid hrunning hs.order hs.ranks hpath
  cases hh with
  | refused => exact h.step (.none rfl) rfl hphase (fun hwait => ⟨hwait, rfl⟩) h.mirrors
  | joined hwait _ _ heq =>
    subst heq
    exact h.step (.none rfl) rfl hphase (fun _ => ⟨hwait, rfl⟩) fun hrunning =>
      absurd (hwait.symm.trans hrunning) (fun h => by cases h)
  | left hwait _ heq =>
    subst heq
    exact h.step (.none rfl) rfl hphase (fun _ => ⟨hwait, rfl⟩) fun hrunning =>
      absurd (hwait.symm.trans hrunning) (fun h => by cases h)
  | emptied hrunning _ hnobody heq =>
    subst heq
    exact h.goesOn (.none rfl) rfl hphase hrunning (.inl rfl) fun hsome => absurd hnobody hsome
  | parted hrunning hfound hsomebody heq =>
    subst heq
    have hhere : s.room.participants ≠ [] := by
      intro hnil
      simp [Room.withoutParticipant, hnil] at hsomebody
    refine h.goesOn (.take rfl) rfl hphase hrunning (.inr rfl) fun _ seq at' digestSeq phase => ?_
    have hold := h.mirrors hrunning hhere seq at' digestSeq phase
    simp only [Room.pushEvents, World.applyEvents, List.foldl_append] at hold ⊢
    exact (hold.leave hs.order hfound).congr rfl rfl rfl
  | deserted _ _ _ heq =>
    subst heq
    exact h.ended (.failBattle _ _ _) rfl hphase rfl (.inr rfl)
  | began hcan hspawn =>
    simp only [Room.canStartBattle, Bool.and_eq_true, decide_eq_true_eq] at hcan
    obtain ⟨events, hpath, -⟩ := hspawn.path
    obtain ⟨-, -, henemies, hpending, -⟩ := hs.fresh hcan.1
    have hprojectiles : s.room.projectiles = [] := hs.still (by rw [hcan.1]; simp)
    have hopened := hs.opened hcan.1 t
    refine h.goesOn (.withDigest rfl) hpath.digestSequence_eq hphase hpath.sameBattle.phase
      (.inr (Room.withDigest_snd _ _)) fun _ seq at' digestSeq phase => ?_
    have hfirst : Mirrors (({ w.enterRoomMode with
        digestSeq := digestSeq, phase := phase } : World).applyEvents seq at'
        (s.room.opened t).pendingEvents) (s.room.opened t) :=
      .opened rfl rfl rfl ⟨henemies, hprojectiles⟩ hpending hs.order hlively
    rw [h.unread hcan.1, hpath.pendingEvents_eq, World.applyEvents, List.foldl_append]
    exact hfirst.path (r := s.room.opened t) hvalid rfl hopened.order hopened.ranks hpath
  | noted hrunning _ hfray =>
    exact h.goesOn (.none rfl) hfray.path.digestSequence_eq hphase
      (hfray.path.sameBattle.phase.trans hrunning) (.inl rfl) (hfight hrunning hfray.path)
  | @cast _ player events r' hrunning _ hfray =>
    refine h.goesOn (.finishSkillUse player) hfray.path.digestSequence_eq hphase
      (hfray.path.sameBattle.phase.trans hrunning) ?_ (hfight hrunning hfray.path)
    rcases Room.finishSkillUse_snd r' player with ⟨heq, -⟩ | heq
    · exact .inl heq
    · exact .inr heq
  | ticked hrunning _ hfray =>
    exact h.goesOn (.withDigest rfl) hfray.path.digestSequence_eq hphase
      (hfray.path.sameBattle.phase.trans hrunning) (.inr (Room.withDigest_snd _ _))
      (hfight hrunning hfray.path)
  | won _ _ hfray => exact h.ended (.clearBattle _) hfray.path.digestSequence_eq hphase rfl (.inl rfl)
  | lost _ _ hfray =>
    exact h.ended (.failBattle _ _ _) hfray.path.digestSequence_eq hphase rfl (.inr rfl)
  | expired => exact h.ended (.failBattle _ _ _) rfl hphase rfl (.inr rfl)

theorem of_reach {room : RoomId} {config : RoomConfig} (now : Nat → Nat) (w : World)
    (h : (roomMachine room config).Reach healthyJoin s) : Followed now w s := by
  refine h.invariant (P := Followed now w) ?_ ?_
  · rintro ⟨r, results⟩ ⟨hcreate, rfl⟩
    obtain ⟨-, rfl⟩ := Room.create_eq hcreate
    exact ⟨rfl, fun _ => rfl, nofun⟩
  · rintro s input _ hr hs _ ⟨⟩
    exact hs.handled (sound_of_reach hr) (valid_of_reach hr) (lively_of_reach hr)
      (Room.handle_course s.room input.1 input.2).phase (handled_of_reach hr input)

end Followed

/-- What a client shows that has entered the Room, applies its digests and then the events that
are still pending. -/
def World.follow (now : Nat → Nat) (w : World) (s : RoomRun) : World :=
  (w.enterRoomMode.replay now s.digests).applyEvents (s.room.digestSequence + 1)
    (now (s.room.digestSequence + 1)) s.room.pendingEvents

/-- **The digests tell the battle.** In every run in which those who join have health, while the
battle goes on and someone takes part, the digests are numbered one, two, three and so on. A
client that applies them, whenever they arrive, and then the events that are still pending,
shows exactly the living enemies, the participants and the projectiles of the battle, each with
what there is to be shown of it. -/
theorem digest_replay {room : RoomId} {config : RoomConfig} {s : RoomRun}
    (h : (roomMachine room config).Reach healthyJoin s) (hphase : s.room.phase = .running)
    (hsome : s.room.participants ≠ []) (w : World) (now : Nat → Nat) :
    s.digests.map (·.2.sequence) = List.range' 1 s.digests.length ∧
    (∀ id, ((w.follow now s).enemies.lookup id).map Entity.asEnemy =
      (s.room.findLivingEnemy id).map enemyView) ∧
    (∀ id, ((w.follow now s).players.lookup id).map Entity.asPlayer =
      (s.room.participants.find? (·.playerId = id)).map participantView) ∧
    (∀ id, ((w.follow now s).projectiles.lookup id).map ProjectileState.flight =
      (s.room.projectiles.find? (·.id = id)).map projectileView) := by
  have hfollowed := Followed.of_reach now w h
  have hmirrors : Mirrors (w.follow now s) s.room :=
    hfollowed.mirrors hphase hsome (s.room.digestSequence + 1) (now (s.room.digestSequence + 1))
      (w.enterRoomMode.replay now s.digests).digestSeq
      (w.enterRoomMode.replay now s.digests).phase
  have hlength : s.digests.length = s.room.digestSequence := by
    have hlength := congrArg List.length hfollowed.numbered
    simpa using hlength
  refine ⟨hlength ▸ hfollowed.numbered, hmirrors.enemies, ?_, ?_⟩
  · intro id
    rw [← seen_true]
    exact hmirrors.players id
  · intro id
    rw [← seen_true]
    exact hmirrors.projectiles id

/-- A client that joins late, and sees the bolt that is on its way. -/
theorem digest_replay_bolt :
    ∃ s, (roomMachine 1 {}).Reach healthyJoin s ∧ s.digests.length = 2 ∧
      s.room.projectiles.map (·.id) = [1] ∧
      ∀ now, ((World.follow now {} s).projectiles.lookup 1).map ProjectileState.flight =
        (s.room.projectiles.find? (·.id = 1)).map projectileView := by
  obtain ⟨s, hs, ht⟩ := (roomMachine 1 {}).exists_reach_of_replay healthyJoin
    (s := { room := { id := 1, config := {} } }) ⟨rfl, rfl⟩
    [(.joinRoom 7 ⟨10, 100⟩ arcaneBolt, 0), (.startBattle, 0), (.setMoveIntent 7 .east 1, 50),
      (.simulationTick, 100), (.useSkill 7 arcaneBolt 1, 150)]
    (fun s => decide (s.room.phase = .running) && !s.room.participants.isEmpty &&
      decide (s.digests.length = 2) && decide (s.room.projectiles.map (·.id) = [1]))
    (by decide +kernel)
  simp only [Bool.and_eq_true, decide_eq_true_eq, Bool.not_eq_true', List.isEmpty_eq_false_iff] at ht
  obtain ⟨⟨⟨hphase, hsome⟩, hdigests⟩, hbolt⟩ := ht
  exact ⟨s, hs, hdigests, hbolt, fun now => (digest_replay hs hphase hsome {} now).2.2.2 1⟩

end Snf.Client
