import Snf.Lib.Machine
import Snf.Lib.Map
import Snf.Lib.Ensures
import Snf.Game.RoomCourse
import Snf.Adapter.ToEffects

/-! # The membership fence of a Room

The adapter of a Room keeps a membership and a connection for the players in it. A Leave
takes a seat away only from the membership that the seat was taken with: one that was sent
for an earlier membership of the same player and arrives late, or twice, changes nothing.
-/

namespace Snf.Adapter

open Snf.Game Snf.Worker Snf.Lib

namespace RoomActorAdapter

variable {config : GameActorConfig} {a b : RoomActorAdapter} {player : PlayerId}
  {message : GameMessage} {msg : RoomCommandMessage} {context : ActorTurnContext}
  {effects : List GameEffect}

/-! ## What a turn does to the seats -/

/-- What a message does to the seats of the Room and to what the adapter keeps for them. -/
inductive Seating (a : RoomActorAdapter) : GameMessage → RoomActorAdapter → Prop where
  | same {message : GameMessage} {b : RoomActorAdapter}
      (audience : b.room.audience = a.room.audience) (memberships : b.memberships = a.memberships)
      (connections : b.playerConnections = a.playerConnections) : Seating a message b
  /-- A repeated join: the player answers on another connection. -/
  | rejoined {msg : RoomCommandMessage} {b : RoomActorAdapter} (player : PlayerId)
      (connection : ConnectionRef) (found : (a.room.findParticipant player).isSome = true)
      (audience : b.room.audience = a.room.audience) (memberships : b.memberships = a.memberships)
      (connections : b.playerConnections = a.playerConnections.insert player connection) :
      Seating a (.roomCommand msg) b
  | joined {msg : RoomCommandMessage} {b : RoomActorAdapter} (player : PlayerId)
      (stats : CombatStats) (skill : SkillId) (command : msg.command = .joinRoom player stats skill)
      (missing : a.room.findParticipant player = none)
      (audience : b.room.audience = insertAt player a.room.audience)
      (memberships : b.memberships =
        msg.membership.elim a.memberships (a.memberships.insert player))
      (connections : b.playerConnections =
        msg.connection.elim a.playerConnections (a.playerConnections.insert player)) :
      Seating a (.roomCommand msg) b
  | left {msg : RoomCommandMessage} {b : RoomActorAdapter} (player : PlayerId)
      (command : msg.command = .leaveRoom player)
      (current : a.memberships.lookup player = msg.membership)
      (found : (a.room.findParticipant player).isSome = true)
      (audience : b.room.audience = removeAt player a.room.audience)
      (memberships : b.memberships = a.memberships.erase player)
      (connections : b.playerConnections = a.playerConnections.erase player) :
      Seating a (.roomCommand msg) b

/-- A Leave passes the fence exactly if it carries what the adapter keeps for its player. -/
theorem staleLeave_eq_none (hc : msg.command = .leaveRoom player) :
    a.staleLeave msg = none ↔ a.memberships.lookup player = msg.membership := by
  unfold staleLeave
  rw [hc]
  cases msg.membership with
  | none =>
    dsimp only
    split <;> simp_all
  | some membership => simp

/-- A join or a leave. -/
def seats : RoomCommand → Bool
  | .joinRoom .. => true
  | .leaveRoom _ => true
  | _ => false

/-- The other commands keep everyone where they are. -/
theorem audience_handle {r : Room} {command : RoomCommand} {now : TimePoint}
    (h : seats command = false) : (r.handle command now).2.audience = r.audience := by
  cases command with
  | joinRoom player stats skill => cases h
  | leaveRoom player => cases h
  | startBattle =>
    rcases Room.startBattle_cases r now with ⟨-, hseated⟩ | hbegun
    · exact hseated.audience
    · exact hbegun.audience
  | useSkill player skill sequence => exact Room.Seated.useSkill.audience
  | setMoveIntent player direction sequence => exact Room.Seated.setMoveIntent.audience
  | battleDeadline => exact Room.Seated.battleDeadline.audience
  | simulationTick =>
    rcases Room.simulationTick_cases r now with hseated | hticked
    · exact hseated.audience
    · exact hticked.same.audience

theorem seats_cases (command : RoomCommand) : seats command = false ∨
    (∃ player stats skill, command = .joinRoom player stats skill) ∨
      ∃ player, command = .leaveRoom player := by
  cases command with
  | joinRoom player stats skill => exact .inr (.inl ⟨player, stats, skill, rfl⟩)
  | leaveRoom player => exact .inr (.inr ⟨player, rfl⟩)
  | startBattle | useSkill | setMoveIntent | battleDeadline | simulationTick => exact .inl rfl

theorem seating_handle {command : RoomCommand} (now : TimePoint) (h : seats command = false) :
    Seating a message { a with room := (a.room.handle command now).2 } :=
  .same (audience_handle h) rfl rfl

theorem register_of_not_seats {result : RoomResult} (h : seats msg.command = false) :
    a.register msg result = a := by
  unfold register
  split
  · next hc =>
    rw [hc] at h
    cases h
  · next hc =>
    rw [hc] at h
    cases h
  · rfl

theorem seating_join {stats : CombatStats} {skill : SkillId}
    (hc : msg.command = .joinRoom player stats skill) :
    Seating a (.roomCommand msg) (({ a with room := (a.room.joinRoom player stats skill).2 } :
      RoomActorAdapter).register msg (a.room.joinRoom player stats skill).1) := by
  rcases Room.joinRoom_cases a.room player stats skill with
    ⟨hroom, hstatus, halready, -⟩ | ⟨participant, hid, hstatus, hnone, hroom, -⟩
  · unfold register
    rw [hc]
    by_cases hagain : (a.room.joinRoom player stats skill).1.status = .alreadyJoined
    · cases hconnection : msg.connection with
      | none => exact .same (by simp [hroom]) (by cases msg.membership <;> simp [hstatus]) rfl
      | some connection =>
        refine .rejoined player connection (halready hagain) (by simp [hroom]) ?_
          (by simp [hagain])
        cases msg.membership <;> simp [hstatus]
    · refine .same (by simp [hroom]) ?_ ?_
      · cases msg.membership <;> simp [hstatus]
      · cases msg.connection <;> simp [hstatus, hagain]
  · unfold register
    rw [hc]
    refine .joined player stats skill hc hnone ?_ ?_ ?_
    · simp only [hroom, Room.audience_withParticipant, hid]
    · cases msg.membership <;> simp [hstatus]
    · cases msg.connection <;> simp [hstatus]

theorem seating_leave (hc : msg.command = .leaveRoom player)
    (hcurrent : a.memberships.lookup player = msg.membership) :
    Seating a (.roomCommand msg) (({ a with room := (a.room.leaveRoom player).2 } :
      RoomActorAdapter).register msg (a.room.leaveRoom player).1) := by
  unfold register
  rw [hc]
  rcases Room.leaveRoom_cases a.room player with
    ⟨hroom, hstatus, -⟩ | ⟨hstatus, hfound, hseated⟩
  · simp only [hstatus, if_false]
    exact .same (by rw [hroom]) rfl rfl
  · simp only [hstatus, if_true]
    refine .left player hc hcurrent hfound ?_ rfl rfl
    exact hseated.audience.trans Room.audience_withoutParticipant

theorem seating_startBattle (h : a.startBattle config msg context = .ok (b, effects))
    (hc : msg.command = .startBattle) : Seating a (.roomCommand msg) b := by
  simp only [startBattle] at h
  split at h
  · obtain ⟨rfl, rfl⟩ := Prod.mk.inj (Except.ok.inj h)
    exact .same rfl rfl rfl
  · split at h
    · cases h
    · obtain ⟨rfl, rfl⟩ := Prod.mk.inj (Except.ok.inj h)
      exact seating_handle context.now (by rw [hc]; rfl)

theorem seating_handleCommand (h : a.handleCommand config msg context = .ok (b, effects)) :
    Seating a (.roomCommand msg) b := by
  unfold handleCommand at h
  split at h
  · obtain ⟨rfl, rfl⟩ := Prod.mk.inj (Except.ok.inj h)
    exact .same rfl rfl rfl
  · next hstale =>
    split at h
    · next hstart =>
      simp only [Bool.and_eq_true, decide_eq_true_eq] at hstart
      exact seating_startBattle h hstart.1
    · obtain ⟨rfl, rfl⟩ := Prod.mk.inj (Except.ok.inj h)
      rcases seats_cases msg.command with hseats | ⟨player, stats, skill, hc⟩ | ⟨player, hc⟩
      · rw [register_of_not_seats hseats]
        exact seating_handle context.now hseats
      · rw [hc]
        exact seating_join hc
      · rw [hc]
        exact seating_leave hc ((staleLeave_eq_none hc).1 hstale)

theorem seating_timerTurn {command : RoomCommand} (hc : seats command = false)
    (h : a.timerTurn config command context = (b, effects)) : Seating a message b := by
  obtain rfl : _ = b := congrArg Prod.fst h
  exact seating_handle context.now hc

/-- **Seats.** Every turn of the adapter is one of these. -/
theorem seating_dispatch (h : a.dispatch config message context = .ok (b, effects)) :
    Seating a message b := by
  unfold dispatch at h
  split at h
  · exact seating_handleCommand h
  · split at h
    · cases h
    · exact seating_timerTurn rfl (Except.ok.inj h)
  · split at h
    · cases h
    · exact seating_timerTurn rfl (Except.ok.inj h)
  · obtain ⟨rfl, rfl⟩ := Prod.mk.inj (Except.ok.inj h)
    exact .same rfl rfl rfl

end RoomActorAdapter

/-! ## Runs of one adapter -/

/-- An adapter, and for each seat the membership that the JoinRoom carried which made it.
No turn reads `origins`. -/
structure RoomRun where
  adapter : RoomActorAdapter
  origins : AList (fun _ : PlayerId => Option RoomMembership) := ∅
deriving DecidableEq

namespace RoomRun

/-- The seats after a turn: a join may have made one, a leave may have taken one away. -/
def originsAfter (s : RoomRun) (message : GameMessage) (b : RoomActorAdapter) :
    AList (fun _ : PlayerId => Option RoomMembership) :=
  match message with
  | .roomCommand msg =>
    match msg.command with
    | .joinRoom player _ _ =>
      if player ∉ s.adapter.room.audience ∧ player ∈ b.room.audience then
        s.origins.insert player msg.membership
      else s.origins
    | .leaveRoom player =>
      if player ∈ s.adapter.room.audience ∧ player ∉ b.room.audience then s.origins.erase player
      else s.origins
    | _ => s.origins
  | _ => s.origins

def turn (config : GameActorConfig) (s : RoomRun) (message : GameMessage)
    (context : ActorTurnContext) : Option RoomRun :=
  match s.adapter.dispatch config message context with
  | .error _ => none
  | .ok (b, _) => some { adapter := b, origins := s.originsAfter message b }

end RoomRun

/-- The turns of one adapter, in any order. -/
def roomMachine (config : GameActorConfig) (roomConfig : RoomConfig) :
    Machine RoomRun (GameMessage × ActorTurnContext) where
  init s := ∃ room a, RoomActorAdapter.create room roomConfig = .ok a ∧ s = { adapter := a }
  step s label := s.turn config label.1 label.2

namespace RoomRun

variable {config : GameActorConfig} {roomConfig : RoomConfig} {s s' : RoomRun}
  {player : PlayerId} {message : GameMessage} {msg : RoomCommandMessage}
  {context : ActorTurnContext} {b : RoomActorAdapter}

theorem originsAfter_same (h : b.room.audience = s.adapter.room.audience) :
    s.originsAfter message b = s.origins := by
  unfold originsAfter
  split
  · split
    · rw [h, if_neg (fun hc => hc.1 hc.2)]
    · rw [h, if_neg (fun hc => hc.2 hc.1)]
    · rfl
  · rfl

/-- What the adapter keeps for the players is about those that have a seat. -/
structure Fenced (s : RoomRun) : Prop where
  inOrder : s.adapter.room.InOrder
  /-- The record of seats is that of the Room. -/
  seats : ∀ player, player ∈ s.adapter.room.audience ↔ (s.origins.lookup player).isSome = true
  /-- The membership on record is the one that the seat was taken with. -/
  memberships : ∀ player origin, s.origins.lookup player = some origin →
    s.adapter.memberships.lookup player = origin
  strangers : ∀ player, player ∉ s.adapter.room.audience →
    s.adapter.memberships.lookup player = none ∧ s.adapter.playerConnections.lookup player = none

namespace Fenced

theorem found (h : Fenced s) : (s.adapter.room.findParticipant player).isSome = true ↔
    player ∈ s.adapter.room.audience :=
  Room.isSome_findParticipant h.inOrder

theorem same (h : Fenced s) (hr : b.room.audience = s.adapter.room.audience)
    (hm : b.memberships = s.adapter.memberships)
    (hc : ∀ player, player ∉ s.adapter.room.audience → b.playerConnections.lookup player = none) :
    Fenced ⟨b, s.origins⟩ where
  inOrder := h.inOrder.congr hr
  seats player := by
    rw [hr]
    exact h.seats player
  memberships player origin ho := by
    rw [hm]
    exact h.memberships player origin ho
  strangers player hp := by
    rw [hr] at hp
    rw [hm]
    exact ⟨(h.strangers player hp).1, hc player hp⟩

theorem join (h : Fenced s) (hnew : player ∉ s.adapter.room.audience)
    {membership : Option RoomMembership} {connection : Option ConnectionRef}
    (hr : b.room.audience = insertAt player s.adapter.room.audience)
    (hm : b.memberships = membership.elim s.adapter.memberships
      (s.adapter.memberships.insert player))
    (hc : b.playerConnections = connection.elim s.adapter.playerConnections
      (s.adapter.playerConnections.insert player)) :
    Fenced ⟨b, s.origins.insert player membership⟩ where
  inOrder := by
    unfold Room.InOrder
    rw [hr]
    exact pairwise_insertAt h.inOrder hnew
  seats other := by
    rw [hr, mem_insertAt, lookup_insert_ite]
    split
    · next heq => simp [heq]
    · next hne => simp only [hne, false_or, h.seats]
  memberships other origin ho := by
    rw [lookup_insert_ite] at ho
    split at ho
    · next heq =>
      obtain rfl := Option.some.inj ho
      rw [hm, heq]
      cases membership with
      | none => exact (h.strangers player hnew).1
      | some m => exact AList.lookup_insert _
    · next hne =>
      have hold := h.memberships other origin ho
      rw [hm]
      cases membership with
      | none => exact hold
      | some m => exact (AList.lookup_insert_ne hne).trans hold
  strangers other hp := by
    rw [hr, mem_insertAt, not_or] at hp
    obtain ⟨hmember, hconn⟩ := h.strangers other hp.2
    rw [hm, hc]
    constructor
    · cases membership with
      | none => exact hmember
      | some m => exact (AList.lookup_insert_ne hp.1).trans hmember
    · cases connection with
      | none => exact hconn
      | some c => exact (AList.lookup_insert_ne hp.1).trans hconn

theorem leave (h : Fenced s) (hseat : player ∈ s.adapter.room.audience)
    (hr : b.room.audience = removeAt player s.adapter.room.audience)
    (hm : b.memberships = s.adapter.memberships.erase player)
    (hc : b.playerConnections = s.adapter.playerConnections.erase player) :
    Fenced ⟨b, s.origins.erase player⟩ where
  inOrder := by
    unfold Room.InOrder
    rw [hr]
    exact pairwise_removeAt h.inOrder
  seats other := by
    rw [hr, mem_removeAt h.inOrder hseat, lookup_erase_ite]
    split
    · next heq => simp [heq]
    · next hne => simp only [ne_eq, hne, not_false_eq_true, true_and, h.seats]
  memberships other origin ho := by
    rw [lookup_erase_ite] at ho
    split at ho
    · cases ho
    · next hne =>
      rw [hm, lookup_erase_ite, if_neg hne]
      exact h.memberships other origin ho
  strangers other hp := by
    rw [hr, mem_removeAt h.inOrder hseat] at hp
    rw [hm, hc, lookup_erase_ite, lookup_erase_ite]
    split
    · exact ⟨rfl, rfl⟩
    · next hne => exact h.strangers other fun hin => hp ⟨hne, hin⟩

/-- The seats of a turn, with the record that goes with them. -/
theorem seating (h : Fenced s) (hs : s.adapter.Seating message b) :
    Fenced ⟨b, s.originsAfter message b⟩ := by
  cases hs with
  | same audience memberships connections =>
    rw [originsAfter_same audience]
    refine h.same audience memberships fun player hp => ?_
    rw [connections]
    exact (h.strangers player hp).2
  | rejoined player connection found audience memberships connections =>
    rw [originsAfter_same audience]
    refine h.same audience memberships fun other hp => ?_
    have hne : other ≠ player := by
      rintro rfl
      exact hp (h.found.1 found)
    rw [connections, AList.lookup_insert_ne hne]
    exact (h.strangers other hp).2
  | @joined msg _ player stats skill command missing audience memberships connections =>
    have hnew : player ∉ s.adapter.room.audience := by
      rw [← h.found, missing]
      nofun
    have hin : player ∈ b.room.audience := by
      rw [audience]
      exact mem_insertAt.2 (.inl rfl)
    have horigins : s.originsAfter (.roomCommand msg) b =
        s.origins.insert player msg.membership := by
      simp only [originsAfter, command]
      exact if_pos ⟨hnew, hin⟩
    rw [horigins]
    exact h.join hnew audience memberships connections
  | @left msg _ player command current found audience memberships connections =>
    have hseat := h.found.1 found
    have hout : player ∉ b.room.audience := by
      rw [audience, mem_removeAt h.inOrder hseat]
      exact fun hc => hc.1 rfl
    have horigins : s.originsAfter (.roomCommand msg) b = s.origins.erase player := by
      simp only [originsAfter, command]
      exact if_pos ⟨hseat, hout⟩
    rw [horigins]
    exact h.leave hseat audience memberships connections

/-- A seat is given up by a Leave that carries the membership it was taken with. -/
theorem origin_of_left (h : Fenced s) (hs : s.adapter.Seating message b)
    (hp : player ∈ s.adapter.room.audience) (hout : player ∉ b.room.audience) :
    ∃ msg, message = .roomCommand msg ∧ msg.command = .leaveRoom player ∧
      s.origins.lookup player = some msg.membership := by
  cases hs with
  | same audience => exact absurd hp (audience ▸ hout)
  | rejoined _ _ _ audience => exact absurd hp (audience ▸ hout)
  | joined _ _ _ _ _ audience =>
    rw [audience] at hout
    exact absurd (mem_insertAt.2 (.inr hp)) hout
  | left leaving command current found audience =>
    obtain rfl : player = leaving := by
      by_contra hne
      rw [audience, mem_removeAt h.inOrder (h.found.1 found)] at hout
      exact hout ⟨hne, hp⟩
    obtain ⟨origin, ho⟩ := Option.isSome_iff_exists.1 ((h.seats player).1 hp)
    refine ⟨_, rfl, command, ?_⟩
    rw [ho, ← current, h.memberships player origin ho]

/-- A Leave that does not carry the membership of the seat leaves the adapter as it is. -/
theorem stale_leave (h : Fenced s) (hc : msg.command = .leaveRoom player)
    (ho : s.origins.lookup player ≠ some msg.membership) :
    ∃ effects, s.adapter.dispatch config (.roomCommand msg) context = .ok (s.adapter, effects) := by
  simp only [RoomActorAdapter.dispatch, RoomActorAdapter.handleCommand]
  cases hstale : s.adapter.staleLeave msg with
  | some stale => exact ⟨_, rfl⟩
  | none =>
    have hcurrent := (RoomActorAdapter.staleLeave_eq_none hc).1 hstale
    have hseat : player ∉ s.adapter.room.audience := by
      intro hp
      obtain ⟨origin, horigin⟩ := Option.isSome_iff_exists.1 ((h.seats player).1 hp)
      rw [← hcurrent, h.memberships player origin horigin] at ho
      exact ho horigin
    rcases Room.leaveRoom_cases s.adapter.room player with
      ⟨hroom, hstatus, -⟩ | ⟨-, hfound, -⟩
    · simp only [hc, Room.handle, reduceCtorEq, decide_false, Bool.false_and, Bool.false_eq_true,
        if_false]
      refine ⟨_, congrArg Except.ok (Prod.ext ?_ rfl)⟩
      simp only [RoomActorAdapter.register, hc, hstatus, if_false, hroom]
    · exact absurd (h.found.1 hfound) hseat

theorem create {room : RoomId} {a : RoomActorAdapter}
    (h : RoomActorAdapter.create room roomConfig = .ok a) : Fenced { adapter := a } := by
  have hempty : a.room.participants = [] ∧ a.memberships = ∅ ∧ a.playerConnections = ∅ := by
    unfold RoomActorAdapter.create at h
    split at h
    · cases h
    · obtain ⟨created, hroom, h⟩ := bind_eq_ok h
      obtain rfl := Except.ok.inj h
      unfold Room.create at hroom
      split at hroom
      · cases hroom
      · obtain rfl := Except.ok.inj hroom
        exact ⟨rfl, rfl, rfl⟩
  obtain ⟨hparticipants, hmemberships, hconnections⟩ := hempty
  have haudience : a.room.audience = [] := by
    rw [Room.audience, hparticipants]
    rfl
  constructor
  · unfold Room.InOrder
    rw [haudience]
    exact .nil
  · intro player
    simp [haudience]
  · intro player origin ho
    simp at ho
  · intro player _
    simp [hmemberships, hconnections]

/-- **Fence.** The record agrees with the Room in every run. -/
theorem of_reach (h : (roomMachine config roomConfig).Reach (fun _ _ => True) s) : Fenced s := by
  refine h.invariant ?_ ?_
  · rintro _ ⟨room, a, hcreate, rfl⟩
    exact create hcreate
  · intro s label s' _ hs _ hstep
    simp only [roomMachine, turn] at hstep
    split at hstep
    · cases hstep
    · next hdispatch =>
      obtain rfl := Option.some.inj hstep
      exact hs.seating (RoomActorAdapter.seating_dispatch hdispatch)

end Fenced

end RoomRun

/-- **Membership fence.** In every run of the adapter of a Room, the players that it keeps
a membership or a connection for are in the Room. A turn takes away the seat of a player
only if its message is a Leave of that player with the membership, or the lack of one, that
the seat was taken with; and a Leave with another one leaves the Room, the connections and
the memberships as they are. -/
theorem membership_fence (config : GameActorConfig) (roomConfig : RoomConfig) (s : RoomRun)
    (h : (roomMachine config roomConfig).Reach (fun _ _ => True) s) :
    (∀ player, player ∈ s.adapter.memberships ∨ player ∈ s.adapter.playerConnections →
      player ∈ s.adapter.room.audience) ∧
    (∀ message context s', (roomMachine config roomConfig).step s (message, context) = some s' →
      ∀ player ∈ s.adapter.room.audience, player ∉ s'.adapter.room.audience →
        ∃ msg, message = .roomCommand msg ∧ msg.command = .leaveRoom player ∧
          s.origins.lookup player = some msg.membership) ∧
    ∀ (msg : RoomCommandMessage) player context, msg.command = .leaveRoom player →
      s.origins.lookup player ≠ some msg.membership →
        ∃ effects, s.adapter.dispatch config (.roomCommand msg) context =
          .ok (s.adapter, effects) := by
  have hfenced := RoomRun.Fenced.of_reach h
  refine ⟨?_, ?_, ?_⟩
  · intro player hkept
    by_contra hp
    obtain ⟨hmember, hconnection⟩ := hfenced.strangers player hp
    rcases hkept with hin | hin
    · exact AList.lookup_eq_none.1 hmember hin
    · exact AList.lookup_eq_none.1 hconnection hin
  · intro message context s' hstep player hp hout
    simp only [roomMachine, RoomRun.turn] at hstep
    split at hstep
    · cases hstep
    · next hdispatch =>
      obtain rfl := Option.some.inj hstep
      exact hfenced.origin_of_left (RoomActorAdapter.seating_dispatch hdispatch) hp hout
  · intro msg player context hc ho
    exact hfenced.stale_leave hc ho

/-- Player 1 joins, leaves and joins again; then the first Leave arrives a second time. -/
theorem membership_fence_second_leave :
    ∃ s, (roomMachine { charge := fun _ => 1 } {}).Reach (fun _ _ => True) s ∧
      1 ∈ s.adapter.room.audience ∧ s.adapter.memberships.lookup 1 = some ⟨1, 2⟩ ∧
      ∃ effects, s.adapter.dispatch { charge := fun _ => 1 }
        (.roomCommand { command := .leaveRoom 1, membership := some ⟨1, 1⟩ })
        ⟨⟨⟨.room, 7⟩, 1⟩, 9, 4, fun _ => false⟩ = .ok (s.adapter, effects) := by
  let context : ActorTurnContext := ⟨⟨⟨.room, 7⟩, 1⟩, 0, 1, fun _ => false⟩
  let join (sequence : Nat) : GameMessage := .roomCommand
    { connection := some { id := 1, generation := 1, owner := 0 }
      command := .joinRoom 1 { attack := 1, health := 1 } slash
      membership := some ⟨1, sequence⟩ }
  let leave : GameMessage :=
    .roomCommand { command := .leaveRoom 1, membership := some ⟨1, 1⟩ }
  obtain ⟨s, hs, ht⟩ := (roomMachine { charge := fun _ => 1 } {}).exists_reach_of_replay
    (fun _ _ => True) (s := { adapter := { room := { id := 7, config := {} } } })
    ⟨7, _, rfl, rfl⟩ [(join 1, context), (leave, context), (join 2, context)]
    (fun s => 1 ∈ s.adapter.room.audience ∧ s.adapter.memberships.lookup 1 = some ⟨1, 2⟩ ∧
      s.origins.lookup 1 = some (some ⟨1, 2⟩)) (by decide +kernel)
  obtain ⟨hseat, hmembership, horigin⟩ := of_decide_eq_true ht
  refine ⟨s, hs, hseat, hmembership, ?_⟩
  refine (membership_fence _ _ s hs).2.2 _ 1 _ rfl ?_
  rw [horigin]
  decide

end Snf.Adapter
