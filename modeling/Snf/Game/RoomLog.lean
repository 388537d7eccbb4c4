import Snf.Game.RunningBattle

/-! # The log of a Room

`roomLog` is the Room with everything that has happened to it: each command with its time, its
result and the events that it has recorded. An event is recorded once, whether it is handed out at
once, handed out with a later digest or dropped when the last participant leaves.

`Kept` says what has to be shown of a property of the Room and of all that was recorded, so that
it holds in every state of every run: one condition for each way in which a Room changes.
-/

namespace Snf.Game

open Snf.Lib

/-- An event with the time at which it was recorded. -/
abbrev TimedEvent := Nat × BattleEvent

def stamp (t : Nat) (events : List BattleEvent) : List TimedEvent :=
  events.map fun event => (t, event)

@[simp] theorem stamp_nil (t : Nat) : stamp t [] = [] := rfl

theorem stamp_append (t : Nat) (events new : List BattleEvent) :
    stamp t (events ++ new) = stamp t events ++ stamp t new := List.map_append

theorem map_snd_stamp (t : Nat) (events : List BattleEvent) :
    (stamp t events).map (·.2) = events := by
  simp [stamp]

theorem mem_stamp {t time : Nat} {events : List BattleEvent} {event : BattleEvent} :
    (time, event) ∈ stamp t events ↔ time = t ∧ event ∈ events := by
  simp only [stamp, List.mem_map, Prod.mk.injEq]
  constructor
  · rintro ⟨e, he, rfl, rfl⟩
    exact ⟨rfl, he⟩
  · rintro ⟨rfl, he⟩
    exact ⟨event, he, rfl, rfl⟩

structure RoomEntry where
  command : RoomCommand
  time : Nat
  result : RoomResult
  events : List BattleEvent
deriving DecidableEq, Repr

/-- A Room and its entries, the latest first. -/
structure RoomLog where
  room : Room
  entries : List RoomEntry := []
deriving DecidableEq, Repr

namespace Room

/-- The events that a command has recorded: those handed out or pending after it that were not
pending before. -/
def recordedBy (r : Room) (out : RoomResult × Room) : List BattleEvent :=
  (out.1.told ++ out.2.pendingEvents).drop r.pendingEvents.length

def entry (r : Room) (input : RoomInput) : RoomEntry where
  command := input.1
  time := input.2
  result := (r.handle input.1 input.2).1
  events := r.recordedBy (r.handle input.1 input.2)

end Room

def roomLog (room : RoomId) (config : RoomConfig) : Machine RoomLog RoomInput where
  init s := Room.create room config = .ok s.room ∧ s.entries = []
  step s input :=
    some { room := (s.room.handle input.1 input.2).2, entries := s.room.entry input :: s.entries }

namespace RoomLog

/-- All that was recorded, in order. -/
def recorded (s : RoomLog) : List TimedEvent :=
  s.entries.reverse.flatMap fun entry => stamp entry.time entry.events

theorem recorded_cons (r : Room) (entry : RoomEntry) (entries : List RoomEntry) (r' : Room) :
    recorded ⟨r', entry :: entries⟩ =
      recorded ⟨r, entries⟩ ++ stamp entry.time entry.events := by
  simp [recorded]

end RoomLog

/-- Time does not go back. -/
def onTime (s : RoomLog) (input : RoomInput) : Prop := ∀ e ∈ s.entries, e.time ≤ input.2

instance (s : RoomLog) (input : RoomInput) : Decidable (onTime s input) :=
  inferInstanceAs (Decidable (∀ e ∈ s.entries, e.time ≤ input.2))

namespace Room

/-- The events with which a battle begins. -/
def opener (r : Room) (t : Nat) : List BattleEvent :=
  .arenaStarted r.config.arenaWidth r.config.arenaHeight ::
    (r.opened t).participants.map fun p =>
      .participantSpawned p.playerId p.position p.currentHealth

theorem pendingEvents_opened (r : Room) (t : Nat) :
    (r.opened t).pendingEvents = r.pendingEvents ++ r.opener t := rfl

/-- **A property that every change of a Room keeps**, of the Room and of what was recorded. -/
structure Kept (config : RoomConfig) (P : List TimedEvent → Room → Prop) : Prop where
  created : ∀ room, P [] { id := room, config := config }
  seat : ∀ H r p, P H r → r.phase = .waiting → p.playerId ∉ r.audience →
    P H (r.withParticipant p)
  unseat : ∀ H r player, P H r → P H (r.withoutParticipant player)
  parting : ∀ H r t player, P H r → r.phase = .running →
    P (H ++ [(t, .participantLeft player)]) (r.pushEvents [.participantLeft player])
  desertion : ∀ H r, P H r → r.participants = [] →
    P H { r with pendingEvents := [], projectiles := [] }
  digest : ∀ H r, P H r → P H { r with digestSequence := r.digestSequence + 1, pendingEvents := [] }
  conclusion : ∀ H r phase, P H r → r.phase = .running → phase ≠ .running → phase ≠ .waiting →
    P H (r.concluded phase)
  opening : ∀ H r t, P H r → r.Sound config → r.phase = .waiting →
    P (H ++ stamp t (r.opener t)) (r.opened t)
  change : ∀ H r t new r', P H r → r.Ranks → r.InOrder → r.config = config → config.Valid →
    r.phase = .running → Change t r new r' → P (H ++ stamp t new) (r'.pushEvents new)

namespace Kept

variable {config : RoomConfig} {P : List TimedEvent → Room → Prop} {H : List TimedEvent}
  {t : Nat} {r r' mid : Room} {out : RoomResult × Room} {new : List BattleEvent}

theorem takeDigest (h : Kept config P) (hP : P H r) : P H r.takeDigest.2 := by
  rcases takeDigest_snd r with heq | heq
  · rw [heq]
    exact hP
  · rw [heq]
    exact h.digest H r hP

theorem path (h : Kept config P) (hP : P H r) (hranks : r.Ranks) (horder : r.InOrder)
    (hconfig : r.config = config) (hvalid : config.Valid) (hphase : r.phase = .running)
    (hpath : Path t r new r') : P (H ++ stamp t new) r' := by
  induction hpath with
  | refl =>
    rw [stamp_nil, List.append_nil]
    exact hP
  | step hbefore hchange ih =>
    have hsame := hbefore.sameBattle
    rw [stamp_append, ← List.append_assoc]
    exact h.change _ _ t _ _ ih (hranks.path (hconfig.symm ▸ hvalid) hphase hbefore)
      (horder.congr hsame.audience) (hsame.config.trans hconfig) hvalid
      (hsame.phase.trans hphase) hchange

end Kept

theorem recordedBy_eq {m : Room} {out : RoomResult × Room} {l : List BattleEvent}
    (htold : m.Told out) (r : Room) (hpending : m.pendingEvents = r.pendingEvents ++ l) :
    r.recordedBy out = l := by
  unfold recordedBy
  rw [htold.events, hpending, List.drop_left]

namespace Kept

variable {config : RoomConfig} {P : List TimedEvent → Room → Prop} {H : List TimedEvent}
  {t : Nat} {r : Room} {command : RoomCommand} {out : RoomResult × Room}

/-- **Every command keeps the property.** -/
theorem handled (h : Kept config P) (hsound : r.Sound config) (hvalid : config.Valid) (hP : P H r)
    (hh : Handled t r command out) : P (H ++ stamp t (r.recordedBy out)) out.2 := by
  have hpath {events : List BattleEvent} {r' : Room} (hphase : r.phase = .running)
      (hpath : Path t r events r') : P (H ++ stamp t events) r' :=
    h.path hP hsound.ranks hsound.order hsound.config hvalid hphase hpath
  have hquiet (mid : Room) (hpending : mid.pendingEvents = r.pendingEvents) (htold : mid.Told out) :
      r.recordedBy out = [] :=
    recordedBy_eq htold r (hpending.trans (List.append_nil _).symm)
  cases hh with
  | refused =>
    rw [hquiet r rfl (.none rfl), stamp_nil, List.append_nil]
    exact hP
  | @joined player _ _ _ hphase hfound _ heq =>
    rw [hquiet _ (heq ▸ rfl) (.none rfl), stamp_nil, List.append_nil, heq]
    have habsent : player ∉ r.audience := by
      intro hmem
      rw [← isSome_findParticipant hsound.order, hfound] at hmem
      cases hmem
    exact h.seat H r _ hP hphase habsent
  | left _ _ heq =>
    rw [hquiet _ (heq ▸ rfl) (.none rfl), stamp_nil, List.append_nil, heq]
    exact h.unseat H r _ hP
  | @emptied player r' _ _ hnobody heq =>
    have hnothing : r.recordedBy (r'.baseResult .applied (some player), r') = [] := by
      rw [heq]
      exact List.drop_nil
    rw [hnothing, stamp_nil, List.append_nil, heq]
    exact h.desertion H _ (h.unseat H r _ hP) hnobody
  | @parted player r' hphase _ _ heq =>
    have hleft := h.parting H _ t player (h.unseat H r player hP) hphase
    rw [recordedBy_eq (l := [.participantLeft player]) (.take rfl) r (heq ▸ rfl)]
    exact h.takeDigest (heq ▸ hleft)
  | @deserted player r' hphase _ _ heq =>
    have hleft := h.parting H _ t player (h.unseat H r player hP) hphase
    rw [recordedBy_eq (l := [.participantLeft player]) (.failBattle _ _ _) r (heq ▸ rfl)]
    exact h.takeDigest (h.conclusion _ _ .failed (heq ▸ hleft) (heq ▸ hphase) (fun h => by cases h) (fun h => by cases h))
  | @began r' hcan hspawn =>
    simp only [canStartBattle, Bool.and_eq_true, decide_eq_true_eq] at hcan
    obtain ⟨events, hevents, -⟩ := hspawn.path
    have hopened := hsound.opened hcan.1 t
    have hstart := h.opening H r t hP hsound hcan.1
    have hspawned := h.path hstart hopened.ranks hopened.order hopened.config hvalid rfl hevents
    rw [recordedBy_eq (l := r.opener t ++ events) (.withDigest rfl) r ?_, withDigest_snd,
      stamp_append, ← List.append_assoc]
    · exact h.takeDigest hspawned
    · rw [hevents.pendingEvents_eq, pendingEvents_opened, List.append_assoc]
  | noted hphase _ hfray =>
    rw [recordedBy_eq (.none rfl) r hfray.path.pendingEvents_eq]
    exact hpath hphase hfray.path
  | @cast _ player _ r' hphase _ hfray =>
    rw [recordedBy_eq (.finishSkillUse player) r hfray.path.pendingEvents_eq]
    rcases finishSkillUse_snd r' player with ⟨heq, -⟩ | heq
    · rw [heq]
      exact hpath hphase hfray.path
    · rw [heq]
      exact h.takeDigest (hpath hphase hfray.path)
  | ticked hphase _ hfray =>
    rw [recordedBy_eq (.withDigest rfl) r hfray.path.pendingEvents_eq, withDigest_snd]
    exact h.takeDigest (hpath hphase hfray.path)
  | won hphase _ hfray =>
    rw [recordedBy_eq (.clearBattle _) r hfray.path.pendingEvents_eq]
    exact h.takeDigest (h.conclusion _ _ .cleared (hpath hphase hfray.path)
      (hfray.path.sameBattle.phase.trans hphase) (fun h => by cases h) (fun h => by cases h))
  | lost hphase _ hfray =>
    rw [recordedBy_eq (.failBattle _ _ _) r hfray.path.pendingEvents_eq]
    exact h.takeDigest (h.conclusion _ _ .failed (hpath hphase hfray.path)
      (hfray.path.sameBattle.phase.trans hphase) (fun h => by cases h) (fun h => by cases h))
  | expired hphase =>
    rw [recordedBy_eq (m := r.concluded .failed) (l := []) (.failBattle _ _ _) r
      (List.append_nil _).symm, stamp_nil, List.append_nil]
    exact h.takeDigest (h.conclusion _ _ .failed hP hphase (fun h => by cases h) (fun h => by cases h))

end Kept

end Room

/-! ## Runs -/

section Runs

variable {room : RoomId} {config : RoomConfig} {guard : RoomLog → RoomInput → Prop} {s : RoomLog}

/-- The log without its entries is a run of the Room. -/
theorem run_of_log (h : (roomLog room config).Reach guard s) :
    (roomMachine room config).Reach (fun _ _ => True) ⟨s.room, s.entries.map (·.result)⟩ := by
  induction h with
  | init hi => exact .init ⟨hi.1, congrArg (List.map _) hi.2⟩
  | step input _ _ hs ih =>
    cases hs
    exact .step input ih trivial rfl

theorem valid_of_log (h : (roomLog room config).Reach guard s) : config.Valid :=
  valid_of_reach (run_of_log h)

theorem sound_of_log (h : (roomLog room config).Reach guard s) : s.room.Sound config :=
  sound_of_reach (run_of_log h)

theorem handled_of_log (h : (roomLog room config).Reach guard s) (input : RoomInput) :
    Room.Handled input.2 s.room input.1 (s.room.handle input.1 input.2) :=
  handled_of_reach (run_of_log h) input

/-- **The rule of the log.** -/
theorem Room.Kept.of_log {P : List TimedEvent → Room → Prop} (hkept : Room.Kept config P)
    (h : (roomLog room config).Reach guard s) : P s.recorded s.room := by
  have hvalid := valid_of_log h
  refine h.invariant (P := fun s => P s.recorded s.room) ?_ ?_
  · rintro ⟨r, entries⟩ ⟨hcreate, rfl⟩
    obtain ⟨-, rfl⟩ := Room.create_eq hcreate
    exact hkept.created room
  · rintro s input _ hr hP - ⟨⟩
    rw [RoomLog.recorded_cons s.room]
    exact hkept.handled (sound_of_log hr) hvalid hP (handled_of_log hr input)

end Runs

end Snf.Game
