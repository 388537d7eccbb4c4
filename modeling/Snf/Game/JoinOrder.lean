import Snf.Game.RefusedCommands

/-! # The order of joins

The participants of a Room that waits stand in the order of their ids, and of each there is no
more than the join has said. So the Room is determined by its seats, whoever came first and
whoever went and came back.
-/

namespace Snf.Game

open Snf.Lib

/-- Commands that fill and clear seats. -/
def RoomCommand.isSeating : RoomCommand → Bool
  | .joinRoom _ _ _ | .leaveRoom _ => true
  | _ => false

namespace Room

/-- A seat: the player with the stats and the skill of the join. -/
structure Seat where
  player : PlayerId
  stats : CombatStats
  equippedSkillId : SkillId
deriving DecidableEq, Repr

def Seat.join (seat : Seat) : RoomCommand :=
  .joinRoom seat.player seat.stats seat.equippedSkillId

def Seat.participant (seat : Seat) : Participant :=
  newcomer seat.player seat.stats seat.equippedSkillId

def seatOf (p : Participant) : Seat := ⟨p.playerId, p.stats, p.equippedSkillId⟩

def seats (r : Room) : List Seat := r.participants.map seatOf

/-- **A Room that waits**: nothing has happened since it was created but that seats were taken
and given up. -/
structure Waits (start r : Room) : Prop where
  same : r = start.withParticipants r.participants
  phase : start.phase = .waiting
  order : r.InOrder
  fresh : ∀ p ∈ r.participants, p = (seatOf p).participant

namespace Waits

variable {start r r' : Room} {t : Nat}

theorem refl (hphase : start.phase = .waiting) (hnobody : start.participants = []) :
    Waits start start := by
  refine ⟨rfl, hphase, ?_, ?_⟩
  · unfold InOrder audience
    rw [hnobody]
    exact .nil
  · rw [hnobody]
    exact nofun

theorem waiting (h : Waits start r) : r.phase = .waiting := by
  rw [h.same]
  exact h.phase

theorem join (h : Waits start r) (seat : Seat) (hnew : seat.player ∉ r.audience) :
    Waits start (r.withParticipant seat.participant) := by
  refine ⟨?_, h.phase, ?_, ?_⟩
  · nth_rewrite 1 [h.same]
    rfl
  · unfold InOrder
    rw [audience_withParticipant]
    exact pairwise_insertAt h.order hnew
  · intro p hp
    rcases List.mem_cons.1 ((perm_withParticipant r _).mem_iff.1 hp) with rfl | hold
    · rfl
    · exact h.fresh p hold

theorem leave (h : Waits start r) (player : PlayerId) :
    Waits start (r.withoutParticipant player) := by
  refine ⟨?_, h.phase, ?_, ?_⟩
  · nth_rewrite 1 [h.same]
    rfl
  · unfold InOrder
    rw [audience_withoutParticipant]
    exact pairwise_removeAt h.order
  · intro p hp
    exact h.fresh p ((sublist_withoutParticipant r player).subset hp)

/-- A join takes its seat, or it is refused. -/
theorem joinRoom_eq (h : Waits start r) (seat : Seat) :
    (r.handle seat.join t).2 = r ∧
        (seat.player ∈ r.audience ∨ r.config.maxParticipants ≤ r.participants.length) ∨
      (r.handle seat.join t).2 = r.withParticipant seat.participant ∧ seat.player ∉ r.audience := by
  have hfound : (r.findParticipant seat.player).isSome ↔ seat.player ∈ r.audience :=
    isSome_findParticipant h.order
  simp only [Seat.join, handle, joinRoom]
  rw [if_neg (not_not.2 h.waiting)]
  split
  · next hseated => exact .inl ⟨rfl, .inl (hfound.1 hseated)⟩
  · next hnew =>
    split
    · next hfull => exact .inl ⟨rfl, .inr hfull⟩
    · exact .inr ⟨rfl, fun hmem => hnew (hfound.2 hmem)⟩

theorem leaveRoom_eq (h : Waits start r) (player : PlayerId) :
    (r.handle (.leaveRoom player) t).2 = r ∨
      (r.handle (.leaveRoom player) t).2 = r.withoutParticipant player := by
  have hwaiting : ¬ (r.phase = .cleared || r.phase = .failed) = true := by simp [h.waiting]
  simp only [handle, leaveRoom]
  rw [if_neg hwaiting]
  split
  · exact .inl rfl
  · split
    · exact .inr rfl
    · next hphase =>
      rw [h.waiting] at hphase
      exact absurd (fun h => by cases h) hphase

theorem step (h : Waits start r) {command : RoomCommand} (hseating : command.isSeating = true) :
    Waits start (r.handle command t).2 := by
  cases command with
  | joinRoom player stats skill =>
    rcases h.joinRoom_eq (t := t) ⟨player, stats, skill⟩ with ⟨heq, -⟩ | ⟨heq, hnew⟩
    · exact heq.symm ▸ h
    · exact heq.symm ▸ h.join _ hnew
  | leaveRoom player =>
    rcases h.leaveRoom_eq (t := t) player with heq | heq
    · exact heq.symm ▸ h
    · exact heq.symm ▸ h.leave player
  | startBattle => cases hseating
  | useSkill => cases hseating
  | battleDeadline => cases hseating
  | simulationTick => cases hseating
  | setMoveIntent => cases hseating

theorem run (h : Waits start r) {inputs : List RoomInput}
    (hseating : ∀ input ∈ inputs, input.1.isSeating = true) : Waits start (r.run inputs).2 := by
  induction inputs generalizing r with
  | nil => exact h
  | cons input rest ih =>
    rw [run_cons]
    exact ih (h.step (hseating input List.mem_cons_self)) fun input hinput =>
      hseating input (List.mem_cons_of_mem _ hinput)

/-- The Room is determined by its seats. -/
theorem eq_of_seats (h : Waits start r) (h' : Waits start r')
    (hseats : ∀ seat, seat ∈ r.seats ↔ seat ∈ r'.seats) : r = r' := by
  have hmem {r r' : Room} (h : Waits start r) (h' : Waits start r')
      (hsub : ∀ seat, seat ∈ r.seats → seat ∈ r'.seats) :
      ∀ p, p ∈ r.participants → p ∈ r'.participants := by
    intro p hp
    obtain ⟨q, hq, heq⟩ := List.mem_map.1 (hsub (seatOf p) (List.mem_map_of_mem hp))
    rw [h.fresh p hp, ← heq, ← h'.fresh q hq]
    exact hq
  have hsame : r.participants = r'.participants := by
    refine eq_of_mem_iff h.order h'.order fun p => ⟨?_, ?_⟩
    · exact hmem h h' (fun seat => (hseats seat).1) p
    · exact hmem h' h (fun seat => (hseats seat).2) p
  rw [h.same, hsame, ← h'.same]

/-- Joins of different players for whom there are seats all take them. -/
theorem mem_seats_run (h : Waits start r) (joins : List (Seat × Nat))
    (hnodup : (joins.map (·.1.player)).Nodup)
    (hnew : ∀ join ∈ joins, join.1.player ∉ r.audience)
    (hroom : joins.length + r.participants.length ≤ start.config.maxParticipants) (seat : Seat) :
    seat ∈ (r.run (joins.map fun join => (join.1.join, join.2))).2.seats ↔
      seat ∈ r.seats ∨ seat ∈ joins.map (·.1) := by
  induction joins generalizing r with
  | nil => simp [Room.run]
  | cons join rest ih =>
    obtain ⟨hother, hnodup⟩ := List.nodup_cons.1 hnodup
    have hconfig : r.config = start.config := by
      rw [h.same]
      rfl
    have habsent := hnew join List.mem_cons_self
    rw [List.length_cons] at hroom
    have htaken : (r.handle join.1.join join.2).2 = r.withParticipant join.1.participant := by
      rcases h.joinRoom_eq (t := join.2) join.1 with ⟨-, hseated | hfull⟩ | ⟨heq, -⟩
      · exact absurd hseated habsent
      · rw [hconfig] at hfull
        omega
      · exact heq
    have hperm := perm_withParticipant r join.1.participant
    rw [List.map_cons, run_cons, htaken]
    rw [ih (h.join join.1 habsent) hnodup ?_ ?_]
    · have hseats : seat ∈ (r.withParticipant join.1.participant).seats ↔
          seat = join.1 ∨ seat ∈ r.seats := by
        unfold seats
        rw [(hperm.map seatOf).mem_iff, List.map_cons, List.mem_cons]
        rfl
      rw [hseats, List.map_cons, List.mem_cons, or_assoc]
      exact or_left_comm
    · intro other hmem
      rw [audience_withParticipant, mem_insertAt]
      rintro (heq | hold)
      · exact hother (List.mem_map.2 ⟨other, hmem, heq⟩)
      · exact hnew other (List.mem_cons_of_mem _ hmem) hold
    · rw [hperm.length_eq, List.length_cons]
      omega

end Waits

/-- **The order of joins does not matter.** In a Room that was just created, two sequences of
joins and leaves, at whatever times, that end with the same seats lead to the same Room. So do the
same joins of different players, in any two orders, as long as there are seats for all of them.
And from the same Room, every later sequence of commands has the same results. -/
theorem join_order_irrelevant {room : RoomId} {config : RoomConfig} {r : Room}
    (hcreate : Room.create room config = .ok r) :
    (∀ first second : List RoomInput,
      (∀ input ∈ first, input.1.isSeating = true) →
      (∀ input ∈ second, input.1.isSeating = true) →
      (∀ seat, seat ∈ (r.run first).2.seats ↔ seat ∈ (r.run second).2.seats) →
      (r.run first).2 = (r.run second).2 ∧
        ∀ later, (r.run first).2.run later = (r.run second).2.run later) ∧
    (∀ first second : List (Seat × Nat),
      (first.map (·.1)).Perm (second.map (·.1)) → (first.map (·.1.player)).Nodup →
      first.length ≤ config.maxParticipants →
      (r.run (first.map fun join => (join.1.join, join.2))).2 =
          (r.run (second.map fun join => (join.1.join, join.2))).2 ∧
        ∀ later, (r.run (first.map fun join => (join.1.join, join.2))).2.run later =
          (r.run (second.map fun join => (join.1.join, join.2))).2.run later) := by
  obtain ⟨-, rfl⟩ := create_eq hcreate
  have hwaits : Waits { id := room, config := config } { id := room, config := config } :=
    .refl rfl rfl
  refine ⟨?_, ?_⟩
  · intro first second hfirst hsecond hseats
    have hsame := (hwaits.run hfirst).eq_of_seats (hwaits.run hsecond) hseats
    exact ⟨hsame, fun later => by rw [hsame]⟩
  · intro first second hperm hnodup hroom
    have hseating (joins : List (Seat × Nat)) :
        ∀ input ∈ joins.map fun join => (join.1.join, join.2), input.1.isSeating = true := by
      intro input hinput
      obtain ⟨join, -, rfl⟩ := List.mem_map.1 hinput
      rfl
    have hlength : second.length = first.length := by simpa using hperm.length_eq.symm
    have hnodup' : (second.map (·.1.player)).Nodup := by
      have hplayers := hperm.map Seat.player
      simp only [List.map_map] at hplayers
      exact hplayers.nodup_iff.1 hnodup
    have hsame := (hwaits.run (hseating first)).eq_of_seats (hwaits.run (hseating second))
      fun seat => by
      rw [hwaits.mem_seats_run first hnodup nofun hroom,
        hwaits.mem_seats_run second hnodup' nofun (hlength.symm ▸ hroom), hperm.mem_iff]
    exact ⟨hsame, fun later => by rw [hsame]⟩

/-- Two players join in either order. -/
theorem join_order_irrelevant_two :
    (({ id := 1, config := {} } : Room).run
        [(.joinRoom 7 ⟨10, 100⟩ slash, 0), (.joinRoom 3 ⟨20, 200⟩ arcaneBolt, 1)]).2 =
      (({ id := 1, config := {} } : Room).run
        [(.joinRoom 3 ⟨20, 200⟩ arcaneBolt, 5), (.joinRoom 7 ⟨10, 100⟩ slash, 6)]).2 :=
  ((join_order_irrelevant (by rfl : Room.create 1 {} = .ok { id := 1, config := {} })).2
    [(⟨7, ⟨10, 100⟩, slash⟩, 0), (⟨3, ⟨20, 200⟩, arcaneBolt⟩, 1)]
    [(⟨3, ⟨20, 200⟩, arcaneBolt⟩, 5), (⟨7, ⟨10, 100⟩, slash⟩, 6)]
    (.swap _ _ _) (by decide) (by decide)).1

end Room

end Snf.Game
