import Snf.Game.RoomRuns

/-! # The running battle

What holds of a battle in every state of a run: the order of those who take part and of the
enemies and projectiles, that someone is alive on either side as long as it goes on, and that
the enemies come under the numbers one, two, three and so on, the boss last.
-/

namespace Snf.Game

open Snf.Lib

/-! ## Who has come -/

/-- The enemies whose coming is told. -/
def spawnedIds (events : List BattleEvent) : List EnemyId :=
  events.filterMap fun
    | .enemySpawned id _ _ => some id
    | _ => none

theorem spawnedIds_append (events new : List BattleEvent) :
    spawnedIds (events ++ new) = spawnedIds events ++ spawnedIds new :=
  List.filterMap_append

/-- All events that the digests of a run have handed out, in order. -/
def RoomRun.told (s : RoomRun) : List BattleEvent := s.results.reverse.flatMap RoomResult.told

namespace Room

theorem spawnedIds_flatten_spawned (es : List Enemy) :
    spawnedIds (es.map spawned).flatten = es.map (·.id) := by
  induction es with
  | nil => rfl
  | cons e es ih =>
    rw [List.map_cons, List.flatten_cons, spawnedIds_append, ih]
    rfl

variable {t : Nat} {r r' : Room} {events : List BattleEvent}

/-- The enemies that a change brings get the next numbers. -/
theorem Change.spawnedIds (h : Change t r events r') :
    ∃ n, r'.nextEnemyId = r.nextEnemyId + n ∧
      Game.spawnedIds events = List.range' r.nextEnemyId n := by
  cases h with
  | strike =>
    refine ⟨0, rfl, ?_⟩
    unfold blow
    split <;> rfl
  | wound =>
    refine ⟨0, rfl, ?_⟩
    simp only [hit]
    split <;> rfl
  | wave =>
    refine ⟨r.config.minionsPerWave, rfl, ?_⟩
    rw [spawnedIds_flatten_spawned, Ranks.ids_wave]
  | boss => exact ⟨1, rfl, rfl⟩
  | _ => exact ⟨0, rfl, rfl⟩

theorem Path.spawnedIds (h : Path t r events r') :
    ∃ n, r'.nextEnemyId = r.nextEnemyId + n ∧
      Game.spawnedIds events = List.range' r.nextEnemyId n := by
  induction h with
  | refl => exact ⟨0, rfl, rfl⟩
  | step _ hchange ih =>
    obtain ⟨n, hnext, hids⟩ := ih
    obtain ⟨k, hnext', hids'⟩ := hchange.spawnedIds
    refine ⟨n + k, ?_, ?_⟩
    · rw [← Nat.add_assoc, ← hnext]
      exact hnext'
    · rw [spawnedIds_append, hids, hids', hnext]
      exact List.range'_append_1

theorem spawnedIds_opened (r : Room) (t : Nat) :
    Game.spawnedIds (r.opened t).pendingEvents = Game.spawnedIds r.pendingEvents := by
  simp only [opened, initializeArena, pushEvents]
  rw [spawnedIds_append, List.append_right_eq_self]
  simp only [Game.spawnedIds, List.filterMap_cons, List.filterMap_map]
  exact List.filterMap_eq_nil_iff.2 fun _ _ => rfl

theorem pendingEvents_takeDigest (r : Room) : r.takeDigest.2.pendingEvents = [] := by
  unfold takeDigest
  split
  · next hempty => exact List.isEmpty_iff.1 hempty
  · rfl

end Room

/-- **The numbers of the enemies.** Each one that has come was told under the next number, and
none is still to be told. -/
structure Heralded (s : RoomRun) : Prop where
  told : ∃ n : Nat, s.room.nextEnemyId = n + 1 ∧ spawnedIds s.told = List.range' 1 n
  pending : spawnedIds s.room.pendingEvents = []

namespace Heralded

variable {s : RoomRun} {r : Room} {out : RoomResult × Room} {n : Nat}

/-- A command after which `r` holds the events that are to be told. -/
theorem step (h : Heralded s) (hnext : r.nextEnemyId = s.room.nextEnemyId + n)
    (hids : spawnedIds r.pendingEvents = List.range' s.room.nextEnemyId n) (htold : r.Told out)
    (hsame : out.2.nextEnemyId = r.nextEnemyId) (hwhole : n = 0 ∨ out.2.pendingEvents = []) :
    Heralded ⟨out.2, out.1 :: s.results⟩ := by
  have hsplit := congrArg spawnedIds htold.events
  rw [spawnedIds_append, hids] at hsplit
  have hpending : spawnedIds out.2.pendingEvents = [] := by
    rcases hwhole with rfl | hnil
    · exact (List.append_eq_nil_iff.1 hsplit).2
    · rw [hnil]
      rfl
  rw [hpending, List.append_nil] at hsplit
  obtain ⟨k, hk, hold⟩ := h.told
  refine ⟨⟨k + n, ?_, ?_⟩, hpending⟩
  · show out.2.nextEnemyId = _
    rw [hsame, hnext, hk]
    exact Nat.add_right_comm _ _ _
  · have happend : (⟨out.2, out.1 :: s.results⟩ : RoomRun).told = s.told ++ out.1.told := by
      simp only [RoomRun.told, List.reverse_cons, List.flatMap_append, List.flatMap_cons,
        List.flatMap_nil, List.append_nil]
    rw [happend, spawnedIds_append, hold, hsplit, hk, Nat.add_comm k 1]
    exact List.range'_append_1

/-- A command that brings no enemy. -/
theorem quiet (h : Heralded s) (hnext : r.nextEnemyId = s.room.nextEnemyId)
    (hids : spawnedIds r.pendingEvents = []) (htold : r.Told out)
    (hsame : out.2.nextEnemyId = r.nextEnemyId) : Heralded ⟨out.2, out.1 :: s.results⟩ :=
  h.step (n := 0) hnext hids htold hsame (.inl rfl)

/-- A command after which all events are told. -/
theorem loud {r₀ r' : Room} {t : Nat} {events : List BattleEvent} (h : Heralded s)
    (hpath : Room.Path t r₀ events r) (htold : r'.Told out) (hout : out.2 = r'.takeDigest.2)
    (hids : spawnedIds r₀.pendingEvents = []) (hnext : r₀.nextEnemyId = s.room.nextEnemyId)
    (hpending : r'.pendingEvents = r.pendingEvents) (hnext' : r'.nextEnemyId = r.nextEnemyId) :
    Heralded ⟨out.2, out.1 :: s.results⟩ := by
  obtain ⟨n, hn, hnew⟩ := hpath.spawnedIds
  refine h.step (r := r') (n := n) (hnext'.trans (hn.trans (congrArg (· + n) hnext))) ?_ htold ?_
    (.inr ?_)
  · rw [hpending, hpath.pendingEvents_eq, spawnedIds_append, hids, hnew, hnext]
    rfl
  · rw [hout]
    rcases Room.takeDigest_snd r' with heq | heq <;> rw [heq]
  · rw [hout]
    exact Room.pendingEvents_takeDigest r'

theorem handled (h : Heralded s) {t : Nat} {command : RoomCommand}
    (hh : Room.Handled t s.room command out) : Heralded ⟨out.2, out.1 :: s.results⟩ := by
  have hpending := h.pending
  have hparted {player : PlayerId} {r' : Room}
      (heq : r' = (s.room.withoutParticipant player).pushEvents [.participantLeft player]) :
      spawnedIds r'.pendingEvents = [] := by
    have hevents : r'.pendingEvents = s.room.pendingEvents ++ [.participantLeft player] := by
      rw [heq]
      rfl
    rw [hevents, spawnedIds_append, hpending]
    rfl
  cases hh with
  | refused => exact h.quiet rfl hpending (.none rfl) rfl
  | joined _ _ _ heq =>
    exact h.quiet (by rw [heq]; rfl) (by rw [heq]; exact hpending) (.none rfl) rfl
  | left _ _ heq =>
    exact h.quiet (by rw [heq]; rfl) (by rw [heq]; exact hpending) (.none rfl) rfl
  | emptied _ _ _ heq => exact h.quiet (by rw [heq]; rfl) (by rw [heq]; rfl) (.none rfl) rfl
  | parted _ _ _ heq =>
    exact h.loud (t := t) .refl (.take rfl) rfl (hparted heq) (by rw [heq]; rfl) rfl rfl
  | deserted _ _ _ heq =>
    exact h.loud (t := t) .refl (.failBattle _ _ _) rfl (hparted heq) (by rw [heq]; rfl) rfl rfl
  | began _ hspawn =>
    obtain ⟨events, hpath, -⟩ := hspawn.path
    exact h.loud hpath (.withDigest rfl) (Room.withDigest_snd _ _)
      ((Room.spawnedIds_opened _ _).trans hpending) rfl rfl rfl
  | noted _ _ hfray hnext =>
    refine h.quiet hnext ?_ (.none rfl) rfl
    rw [hfray.path.pendingEvents_eq, List.append_nil]
    exact hpending
  | @cast _ player events r' _ _ hfray hnext =>
    obtain ⟨n, hn, hnew⟩ := hfray.path.spawnedIds
    have hzero : n = 0 := Nat.add_left_cancel (hn.symm.trans hnext)
    refine h.quiet hnext ?_ (.finishSkillUse player) ?_
    · rw [hfray.path.pendingEvents_eq, spawnedIds_append, hpending, hnew, hzero]
      rfl
    · rcases Room.finishSkillUse_snd r' player with ⟨heq, -⟩ | heq
      · rw [heq]
      · rw [heq]
        rcases Room.takeDigest_snd r' with heq | heq <;> rw [heq]
  | ticked _ _ hfray =>
    exact h.loud hfray.path (.withDigest rfl) (Room.withDigest_snd _ _) hpending rfl rfl rfl
  | won _ _ hfray => exact h.loud hfray.path (.clearBattle _) rfl hpending rfl rfl rfl
  | lost _ _ hfray => exact h.loud hfray.path (.failBattle _ _ _) rfl hpending rfl rfl rfl
  | expired => exact h.loud (t := t) .refl (.failBattle _ _ _) rfl hpending rfl rfl rfl

theorem of_reach {room : RoomId} {config : RoomConfig} {guard : RoomRun → RoomInput → Prop}
    (h : (roomMachine room config).Reach guard s) : Heralded s := by
  refine h.invariant (P := Heralded) ?_ ?_
  · rintro ⟨r, results⟩ ⟨hcreate, rfl⟩
    obtain ⟨-, rfl⟩ := Room.create_eq hcreate
    exact ⟨⟨0, rfl, rfl⟩, rfl⟩
  · rintro s input _ hr hs _ ⟨⟩
    exact hs.handled (handled_of_reach hr input)

end Heralded

/-! ## Who is alive -/

namespace Room

/-- Those who take part have health, and not all of them are dead while the battle goes on. -/
structure Lively (r : Room) : Prop where
  healthy : ∀ p ∈ r.participants, p.stats.health ≠ 0
  alive : r.phase = .running → r.allParticipantsDead = false

theorem allParticipantsDead_iff {r : Room} :
    r.allParticipantsDead = true ↔ r.participants ≠ [] ∧ ∀ p ∈ r.participants, p.currentHealth = 0 := by
  simp [allParticipantsDead]

theorem Change.healthy {t : Nat} {r r' : Room} {events : List BattleEvent}
    (h : ∀ p ∈ r.participants, p.stats.health ≠ 0) (hc : Change t r events r') :
    ∀ p ∈ r'.participants, p.stats.health ≠ 0 := by
  have hreplace {before after : List Participant} {p p' : Participant}
      (hsplit : r.participants = before ++ p :: after) (hstats : p'.stats = p.stats) :
      ∀ p ∈ before ++ p' :: after, p.stats.health ≠ 0 := by
    rw [hsplit] at h
    intro q hq
    rcases List.mem_append.1 hq with hbefore | hrest
    · exact h q (List.mem_append_left _ hbefore)
    · rcases List.mem_cons.1 hrest with rfl | hafter
      · rw [hstats]
        exact h p (List.mem_append_right _ List.mem_cons_self)
      · exact h q (List.mem_append_right _ (List.mem_cons_of_mem _ hafter))
  cases hc with
  | adjust hsplit _ hstats => exact hreplace hsplit hstats
  | walk hsplit => exact hreplace hsplit rfl
  | strike hsplit => exact hreplace hsplit rfl
  | _ => exact h

theorem Path.healthy {t : Nat} {r r' : Room} {events : List BattleEvent}
    (hp : Path t r events r') (h : ∀ p ∈ r.participants, p.stats.health ≠ 0) :
    ∀ p ∈ r'.participants, p.stats.health ≠ 0 := by
  induction hp with
  | refl => exact h
  | step _ hchange ih =>
    have hnext := Change.healthy ih hchange
    exact hnext

namespace Lively

variable {t : Nat} {r r' : Room} {events : List BattleEvent}

theorem takeDigest (h : Lively r) : Lively r.takeDigest.2 := by
  rcases takeDigest_snd r with heq | heq
  · rw [heq]
    exact h
  · rw [heq]
    exact ⟨h.healthy, h.alive⟩

theorem path (h : Lively r) (hpath : Path t r events r')
    (halive : r'.phase = .running → r'.allParticipantsDead = false) : Lively r' :=
  ⟨hpath.healthy h.healthy, halive⟩

theorem ended (h : Lively r) (hpath : Path t r events r') {phase : RoomPhase}
    (hphase : phase ≠ .running) : Lively (r'.concluded phase).takeDigest.2 :=
  takeDigest ⟨hpath.healthy h.healthy, fun hp => absurd hp hphase⟩

theorem leave (h : Lively r) (player : PlayerId) :
    ∀ p ∈ (r.withoutParticipant player).participants, p.stats.health ≠ 0 := by
  intro p hp
  refine h.healthy p ?_
  rw [← List.takeWhile_append_dropWhile (p := (·.playerId < player)) (l := r.participants)]
  rcases List.mem_append.1 hp with htake | htail
  · exact List.mem_append_left _ htake
  · exact List.mem_append_right _ (List.mem_of_mem_tail htail)

theorem opened (h : Lively r) (t : Nat) :
    Lively (r.opened t) ∧ (r.opened t).allParticipantsDead = false := by
  have hfull : ∀ p ∈ (r.opened t).participants,
      p.currentHealth = p.stats.health ∧ p.stats.health ≠ 0 := by
    intro p hp
    simp only [Room.opened, initializeArena, Room.pushEvents, List.mem_map] at hp
    obtain ⟨⟨q, i⟩, hq, rfl⟩ := hp
    exact ⟨rfl, h.healthy q (List.fst_mem_of_mem_zipIdx hq)⟩
  have hdead : (r.opened t).allParticipantsDead = false := by
    refine Bool.eq_false_of_not_eq_true fun hall => ?_
    obtain ⟨hne, hzero⟩ := allParticipantsDead_iff.1 hall
    obtain ⟨p, hp⟩ := List.exists_mem_of_ne_nil _ hne
    obtain ⟨hhealth, hpositive⟩ := hfull p hp
    exact hpositive (hhealth.symm.trans (hzero p hp))
  exact ⟨⟨fun p hp => (hfull p hp).2, fun _ => hdead⟩, hdead⟩

theorem handled (h : Lively r) {command : RoomCommand} {out : RoomResult × Room}
    (hjoin : command.isHealthy = true) (hh : Handled t r command out) : Lively out.2 := by
  cases hh with
  | refused => exact h
  | @joined _ stats _ _ hphase _ _ heq =>
    refine ⟨?_, ?_⟩
    · intro p hp
      rw [heq] at hp
      have hhealth : stats.health ≠ 0 := by simpa [RoomCommand.isHealthy] using hjoin
      rcases List.mem_append.1 hp with htake | hrest
      · exact h.healthy p ((List.takeWhile_sublist _).subset htake)
      · rcases List.mem_cons.1 hrest with rfl | hdrop
        · exact hhealth
        · exact h.healthy p ((List.dropWhile_sublist _).subset hdrop)
    · intro hrunning
      rw [heq] at hrunning
      exact absurd (hphase.symm.trans hrunning) (fun h => by cases h)
  | left hphase _ heq =>
    refine ⟨heq ▸ h.leave _, fun hrunning => ?_⟩
    rw [heq] at hrunning
    exact absurd (hphase.symm.trans hrunning) (fun h => by cases h)
  | emptied _ _ hempty heq =>
    refine ⟨?_, fun _ => ?_⟩
    · rw [heq]
      exact h.leave _
    · rw [heq]
      simp only [allParticipantsDead, hempty]
      rfl
  | parted _ _ _ heq hlive =>
    refine takeDigest ⟨?_, fun _ => hlive⟩
    rw [heq]
    exact h.leave _
  | deserted _ _ _ heq =>
    refine takeDigest ⟨?_, (fun h => by cases h)⟩
    rw [heq]
    exact h.leave _
  | began _ hspawn =>
    obtain ⟨events, hpath, -⟩ := hspawn.path
    obtain ⟨hopened, hlive⟩ := h.opened t
    rw [withDigest_snd]
    refine takeDigest (hopened.path hpath fun _ => ?_)
    unfold allParticipantsDead at hlive ⊢
    rw [hspawn.participants]
    exact hlive
  | noted hphase _ hfray _ hundecided =>
    exact h.path hfray.path fun _ => hundecided.alive (h.alive hphase)
  | @cast _ player _ r' hphase _ hfray _ hundecided =>
    have hlively := h.path hfray.path fun _ => hundecided.alive (h.alive hphase)
    rcases finishSkillUse_snd r' player with ⟨heq, -⟩ | heq
    · rw [heq]
      exact hlively
    · rw [heq]
      exact hlively.takeDigest
  | ticked hphase _ hfray hundecided =>
    rw [withDigest_snd]
    exact takeDigest (h.path hfray.path fun _ => hundecided.alive (h.alive hphase))
  | won _ _ hfray => exact h.ended hfray.path (fun h => by cases h)
  | lost _ _ hfray => exact h.ended hfray.path (fun h => by cases h)
  | expired => exact h.ended (t := t) .refl (fun h => by cases h)

end Lively

end Room

section Runs

variable {room : RoomId} {config : RoomConfig} {s : RoomRun}

theorem lively_of_reach (h : (roomMachine room config).Reach healthyJoin s) : s.room.Lively := by
  refine h.invariant (P := fun s => s.room.Lively) ?_ ?_
  · intro s hi
    obtain ⟨-, heq⟩ := Room.create_eq hi.1
    rw [heq]
    exact ⟨nofun, nofun⟩
  · rintro s input _ hr hs hjoin ⟨⟩
    exact hs.handled hjoin (handled_of_reach hr input)

end Runs

end Snf.Game
