import Snf.Game.RunningBattle
import Snf.Adapter.GamePayloads

/-! # The events of a battle fit into their buffer

A command appends its events to those that are pending, and takes the digest at its end. Each
event of a command is charged to a participant, to an enemy that is there or comes, or to a
projectile; together with what was pending before, they fit into the buffer that the
constructor reserves. If the reserve fits into a frame, so does every digest.
-/

namespace Snf.Game

/-- The events for which the constructor reserves room. -/
def RoomConfig.eventReserve (c : RoomConfig) : Nat :=
  c.digestFlushThreshold + c.maxParticipants + 3 * c.maxSpawnedEnemies + 4 * c.maxActiveProjectiles

namespace Room

/-! ## From the beginning of a command to its digest -/

/-- How a command begins: with the Room as it finds it, with someone who has come or gone, or
with the opening of a battle. -/
inductive Begins (t : Nat) (r : Room) : Room → Prop where
  | same : Begins t r r
  | joined {p : Participant} : Begins t r (r.withParticipant p)
  | left {player : PlayerId} : Begins t r (r.withoutParticipant player)
  | parted {player : PlayerId} :
      Begins t r ((r.withoutParticipant player).pushEvents [.participantLeft player])
  | opened : Begins t r (r.opened t)

/-- How a command ends: its digest has what is pending at `finish`, or that stays pending, or it
is dropped with the last participant. -/
def Ends (finish : Room) (out : RoomResult × Room) : Prop :=
  out.1.told ++ out.2.pendingEvents = finish.pendingEvents ∨
    out.1.digest = none ∧ out.2.pendingEvents = []

/-- **The passage of a command**: its beginning, its changes, and its end with the most events
that are pending on the way. -/
structure Passage (c : RoomConfig) (t : Nat) (r : Room) (out : RoomResult × Room)
    (start : Room) (events : List BattleEvent) (finish : Room) : Prop where
  begins : Begins t r start
  path : Path t start events finish
  ends : Ends finish out
  reserve : finish.pendingEvents.length ≤ c.eventReserve
  left : out.2.pendingEvents.length < c.digestFlushThreshold

/-- There are at most as many enemies as have come, and these are within the capacity. -/
theorem Ranks.exists_spawned {r : Room} (h : r.Ranks) (hc : r.config.Valid) :
    ∃ n : Nat, r.nextEnemyId = n + 1 ∧ r.enemies.length ≤ n ∧ n ≤ r.config.maxSpawnedEnemies := by
  have hmost := hc.enemies
  have hwaves := Nat.mul_le_mul_right r.config.minionsPerWave h.waves
  refine ⟨r.spawnedWaveCount * r.config.minionsPerWave + if r.bossSpawned then 1 else 0, ?_, ?_, ?_⟩
  · rw [h.next]
    exact Nat.add_right_comm _ _ _
  · have hsubset : r.enemies.map (·.id) ⊆ List.range' 1
        (r.spawnedWaveCount * r.config.minionsPerWave + if r.bossSpawned then 1 else 0) := by
      intro id hid
      obtain ⟨e, he, rfl⟩ := List.mem_map.1 hid
      obtain ⟨hpos, hlt⟩ := h.issued e he
      rw [h.next, Nat.add_right_comm, Nat.add_comm] at hlt
      exact List.mem_range'_1.2 ⟨hpos, hlt⟩
    have hnodup : (r.enemies.map (·.id)).Nodup := h.ids.imp Nat.ne_of_lt
    have hlength := (List.subperm_of_subset hnodup hsubset).length_le
    simpa using hlength
  · split <;> omega

section Passages

variable {c : RoomConfig} {t : Nat} {r r' : Room} {events : List BattleEvent}
  {out : RoomResult × Room}

/-- The events of a fight fit into the reserve. -/
theorem Fray.reserve (hs : Sound c r) (hc : c.Valid) (hphase : r.phase = .running)
    (hpending : r.pendingEvents.length < c.digestFlushThreshold) (h : Fray t r events r') :
    r'.pendingEvents.length ≤ c.eventReserve := by
  have hcount := h.count
  have hranks := hs.ranks.path (hs.config ▸ hc) hphase h.path
  have hconfig := h.path.sameBattle.config.trans hs.config
  obtain ⟨n, hn, henemies, -⟩ := hs.ranks.exists_spawned (hs.config ▸ hc)
  obtain ⟨n', hn', -, hmost⟩ := hranks.exists_spawned (hconfig ▸ hc)
  have hflying := hs.ranks.flying
  have hseats := hs.seats
  obtain ⟨came, hcame, -⟩ := h.path.spawnedIds
  have hmore : n' = n + came := by
    rw [hn, hn', Nat.add_right_comm] at hcame
    exact Nat.succ.inj hcame
  rw [hn, hn'] at hcount
  rw [hconfig] at hmost
  rw [hs.config] at hflying
  rw [h.path.pendingEvents_eq, List.length_append]
  unfold RoomConfig.eventReserve
  omega

/-- A command that appends no event. -/
theorem Passage.silent {start : Room} (hc : c.Valid) (hbegin : Begins t r start)
    (hpending : r.pendingEvents.length < c.digestFlushThreshold)
    (hsame : start.pendingEvents = r.pendingEvents) (hnone : out.1.digest = none)
    (hout : out.2.pendingEvents = start.pendingEvents ∨ out.2.pendingEvents = []) :
    Passage c t r out start [] start := by
  refine ⟨hbegin, .refl, ?_, ?_, ?_⟩
  · rcases hout with hout | hout
    · refine .inl ?_
      simp only [RoomResult.told, hnone, hout, List.nil_append]
    · exact .inr ⟨hnone, hout⟩
  · rw [hsame]
    unfold RoomConfig.eventReserve
    omega
  · rcases hout with hout | hout
    · rw [hout, hsame]
      exact hpending
    · rw [hout]
      exact hc.digestFlushThreshold

/-- A command after which all events are told. -/
theorem Passage.loud {start finish : Room} (hc : c.Valid) (hbegin : Begins t r start)
    (hpath : Path t start events finish) (hreserve : finish.pendingEvents.length ≤ c.eventReserve)
    (htold : Told r' out) (hsame : r'.pendingEvents = finish.pendingEvents)
    (hout : out.2 = r'.takeDigest.2) : Passage c t r out start events finish := by
  refine ⟨hbegin, hpath, .inl (htold.events.trans hsame), hreserve, ?_⟩
  rw [hout, pendingEvents_takeDigest]
  exact hc.digestFlushThreshold

end Passages

/-- **Every command has a passage.** -/
theorem Handled.passage {c : RoomConfig} {t : Nat} {r : Room} {command : RoomCommand}
    {out : RoomResult × Room} (hs : Sound c r) (hc : c.Valid)
    (hpending : r.pendingEvents.length < c.digestFlushThreshold) (hh : Handled t r command out) :
    ∃ start events finish, Passage c t r out start events finish := by
  have hfew : r.pendingEvents.length + 1 ≤ c.eventReserve := by
    unfold RoomConfig.eventReserve
    omega
  cases hh with
  | refused => exact ⟨r, [], r, .silent hc .same hpending rfl rfl (.inl rfl)⟩
  | joined _ _ _ heq =>
    subst heq
    exact ⟨_, [], _, .silent hc .joined hpending rfl rfl (.inl rfl)⟩
  | left _ _ heq =>
    subst heq
    exact ⟨_, [], _, .silent hc .left hpending rfl rfl (.inl rfl)⟩
  | @emptied player _ _ _ _ heq =>
    subst heq
    have hleft : Begins t r (r.withoutParticipant player) := .left
    exact ⟨_, [], _, .silent hc hleft hpending rfl rfl (.inr rfl)⟩
  | parted _ _ _ heq =>
    subst heq
    refine ⟨_, [], _, .loud hc .parted .refl ?_ (.take rfl) rfl rfl⟩
    simpa [pushEvents, withoutParticipant] using hfew
  | deserted _ _ _ heq =>
    subst heq
    refine ⟨_, [], _, .loud hc .parted .refl ?_ (.failBattle _ _ _) rfl rfl⟩
    simpa [pushEvents, withoutParticipant] using hfew
  | began hcan hspawn =>
    obtain ⟨events, hpath, hcount⟩ := hspawn.path
    refine ⟨_, events, _, .loud hc .opened hpath ?_ (.withDigest rfl) rfl (withDigest_snd _ _)⟩
    simp only [canStartBattle, Bool.and_eq_true, decide_eq_true_eq] at hcan
    have hopened := hs.opened hcan.1 t
    have hranks := hopened.ranks.path (hopened.config ▸ hc) rfl hpath
    have hconfig := hpath.sameBattle.config.trans hopened.config
    obtain ⟨before, hbefore, -⟩ := hopened.ranks.exists_spawned (hopened.config ▸ hc)
    obtain ⟨n, hn, -, hmost⟩ := hranks.exists_spawned (hconfig ▸ hc)
    have hfirst : (r.opened t).pendingEvents.length = r.participants.length + 1 := by
      simp [Room.opened, initializeArena, pushEvents, (hs.fresh hcan.1).2.2.2.1]
    have hseats := hs.seats
    have hthreshold := hc.digestFlushThreshold
    rw [hconfig] at hmost
    rw [hbefore, hn] at hcount
    rw [hpath.pendingEvents_eq, List.length_append, hfirst]
    unfold RoomConfig.eventReserve
    omega
  | noted hphase _ hfray =>
    refine ⟨r, [], _, .same, hfray.path, ?_, hfray.reserve hs hc hphase hpending, ?_⟩
    · exact .inl rfl
    · rw [hfray.path.pendingEvents_eq, List.append_nil]
      exact hpending
  | @cast _ player events r' hphase _ hfray =>
    have hreserve := hfray.reserve hs hc hphase hpending
    have hconfig := hfray.path.sameBattle.config.trans hs.config
    rcases finishSkillUse_snd r' player with ⟨heq, hlt⟩ | heq
    · refine ⟨r, events, r', .same, hfray.path, .inl (Told.finishSkillUse player).events, hreserve,
        ?_⟩
      rw [heq, ← hconfig]
      exact hlt
    · exact ⟨r, events, r', .loud hc .same hfray.path hreserve (.finishSkillUse player) rfl heq⟩
  | ticked hphase _ hfray =>
    exact ⟨r, _, _, .loud hc .same hfray.path (hfray.reserve hs hc hphase hpending)
      (.withDigest rfl) rfl (withDigest_snd _ _)⟩
  | won hphase _ hfray =>
    exact ⟨r, _, _, .loud hc .same hfray.path (hfray.reserve hs hc hphase hpending)
      (.clearBattle _) rfl rfl⟩
  | lost hphase _ hfray =>
    exact ⟨r, _, _, .loud hc .same hfray.path (hfray.reserve hs hc hphase hpending)
      (.failBattle _ _ _) rfl rfl⟩
  | expired =>
    exact ⟨r, [], r, .loud hc .same .refl (Nat.le_of_succ_le hfew) (.failBattle _ _ _) rfl rfl⟩

end Room

section Runs

variable {room : RoomId} {config : RoomConfig} {guard : RoomRun → RoomInput → Prop} {s : RoomRun}

theorem pendingEvents_lt (h : (roomMachine room config).Reach guard s) :
    s.room.pendingEvents.length < config.digestFlushThreshold := by
  have hvalid := valid_of_reach h
  refine h.invariant (P := fun s => s.room.pendingEvents.length < config.digestFlushThreshold) ?_ ?_
  · rintro s ⟨hcreate, -⟩
    obtain ⟨-, heq⟩ := Room.create_eq hcreate
    rw [heq]
    exact hvalid.digestFlushThreshold
  · rintro s input _ hr hpending _ ⟨⟩
    obtain ⟨_, _, _, hpassage⟩ :=
      (handled_of_reach hr input).passage (sound_of_reach hr) hvalid hpending
    exact hpassage.left

theorem passage_of_reach (h : (roomMachine room config).Reach guard s) (input : RoomInput) :
    ∃ start events finish,
      Room.Passage config input.2 s.room (s.room.handle input.1 input.2) start events finish :=
  (handled_of_reach h input).passage (sound_of_reach h) (valid_of_reach h) (pendingEvents_lt h)

/-- A digest has at most the events for which there is room. -/
theorem length_told_le (h : (roomMachine room config).Reach guard s) :
    ∀ result ∈ s.results, result.told.length ≤ config.eventReserve := by
  refine h.invariant
    (P := fun s => ∀ result ∈ s.results, result.told.length ≤ config.eventReserve) ?_ ?_
  · rintro s ⟨-, hnil⟩ result hresult
    rw [hnil] at hresult
    cases hresult
  · rintro s input _ hr hs _ ⟨⟩ result hresult
    rcases List.mem_cons.1 hresult with rfl | hold
    · obtain ⟨start, events, finish, hpassage⟩ := passage_of_reach hr input
      have hreserve := hpassage.reserve
      rcases hpassage.ends with htold | ⟨hnone, -⟩
      · rw [← htold, List.length_append] at hreserve
        omega
      · simp only [RoomResult.told, hnone, List.length_nil]
        exact Nat.zero_le _
    · exact hs result hold

end Runs

end Snf.Game

namespace Snf.Adapter

open Snf.Game

theorem encodedEventSize_le (event : BattleEvent) : encodedEventSize event ≤ 33 := by
  cases event <;> simp only [encodedEventSize] <;> omega

theorem sum_encodedEventSize_le (events : List BattleEvent) :
    (events.map encodedEventSize).sum ≤ 33 * events.length := by
  induction events with
  | nil => exact Nat.zero_le _
  | cons event events ih =>
    have hfirst := encodedEventSize_le event
    simp only [List.map_cons, List.sum_cons, List.length_cons]
    omega

/-- A digest with few events fits into a frame. -/
theorem isSome_encodeBattleDigest {result : RoomResult} {bound : Nat} (requestId : Nat)
    (hsome : result.digest.isSome = true) (hlength : result.told.length ≤ bound)
    (hframe : 11 + 33 * bound ≤ maxPayloadSize) (hcount : bound ≤ 65535) :
    (encodeBattleDigest result requestId).isSome = true := by
  obtain ⟨digest, hdigest⟩ := Option.isSome_iff_exists.1 hsome
  simp only [RoomResult.told, hdigest] at hlength
  have hsize := sum_encodedEventSize_le digest.events
  have hheader : digestHeaderSize = 11 := rfl
  have hfew : ¬ digest.events.length > 2 ^ 16 - 1 := by omega
  have hfits :
      ¬ digestHeaderSize + (digest.events.map encodedEventSize).sum > maxPayloadSize := by omega
  simp only [encodeBattleDigest, hdigest, Option.bind_some, if_neg hfew, if_neg hfits,
    Option.isSome_some]

/-- **The buffer of events is large enough.** Between the commands of a run fewer events are
pending than the threshold at which a digest is taken. A command begins with the Room as it is,
with someone who has come or gone or with the opening of the battle, and ends with what is
pending at `finish`; at no moment on the way there are more events pending than the constructor
reserves room for. If that many events fit into a frame, every digest is sent. -/
theorem event_buffer {room : RoomId} {config : RoomConfig} {s : RoomRun}
    (h : (roomMachine room config).Reach (fun _ _ => True) s) :
    s.room.pendingEvents.length < config.digestFlushThreshold ∧
    (∀ (command : RoomCommand) (t : Nat), ∃ start events finish,
      s.room.Begins t start ∧ Room.Path t start events finish ∧
      finish.Ends (s.room.handle command t) ∧
      ∀ m before after, Room.Path t start before m → Room.Path t m after finish →
        m.pendingEvents.length ≤ config.digestFlushThreshold + config.maxParticipants +
          3 * config.maxSpawnedEnemies + 4 * config.maxActiveProjectiles) ∧
    (11 + 33 * config.eventReserve ≤ maxPayloadSize → config.eventReserve ≤ 65535 →
      ∀ result ∈ s.results, result.digest.isSome = true → ∀ requestId,
        (encodeBattleDigest result requestId).isSome = true) := by
  refine ⟨pendingEvents_lt h, ?_, ?_⟩
  · intro command t
    obtain ⟨start, events, finish, hpassage⟩ := passage_of_reach h (command, t)
    refine ⟨start, events, finish, hpassage.begins, hpassage.path, hpassage.ends, ?_⟩
    intro m before after _ hafter
    have hreserve := hpassage.reserve
    rw [hafter.pendingEvents_eq, List.length_append] at hreserve
    exact Nat.le_trans (Nat.le_add_right _ _) hreserve
  · intro hframe hcount result hresult hsome requestId
    exact isSome_encodeBattleDigest requestId hsome (length_told_le h result hresult) hframe hcount

/-- The digests of a battle with the capacities of the default configuration, which fit. -/
theorem event_buffer_digests :
    ∃ s, (roomMachine 1 {}).Reach (fun _ _ => True) s ∧
      s.results.countP (·.digest.isSome) = 2 ∧
      ∀ result ∈ s.results, result.digest.isSome = true → ∀ requestId,
        (encodeBattleDigest result requestId).isSome = true := by
  obtain ⟨s, hs, ht⟩ := (roomMachine 1 {}).exists_reach_of_replay (fun _ _ => True)
    (s := { room := { id := 1, config := {} } }) ⟨rfl, rfl⟩
    [(.joinRoom 7 ⟨10, 100⟩ slash, 0), (.startBattle, 0), (.setMoveIntent 7 .east 1, 50),
      (.simulationTick, 100)]
    (fun s => s.results.countP (·.digest.isSome) = 2) (by decide +kernel)
  exact ⟨s, hs, of_decide_eq_true ht, (event_buffer hs).2.2 (by decide) (by decide)⟩

end Snf.Adapter
