import Snf.Lib.Checked
import Snf.Lib.Machine
import Snf.Lib.Map
import Snf.Game.Zone

/-! # Route epochs fence the players of a Zone

Commands reach a Zone in any order, also those of a route that the player has left. The epoch of
a player in the Zone grows only with an Enter of a later route, and a Leave or a Move of another
route changes nothing. Who sees whom depends on the exact distance, and so is symmetric.
-/

namespace Snf.Game

open Snf.Lib

namespace Zone

/-! ## What a command does -/

/-- The cases of `handle`: a refused command, or one that is applied. -/
inductive Handled (z : Zone) : ZoneCommand → ZoneResult × Zone → Prop where
  | refused {command : ZoneCommand} {result : ZoneResult} : result.status ≠ .applied →
      Handled z command (result, z)
  | entered {player : PlayerId} {routeEpoch : Nat} {position : ZonePosition} {result : ZoneResult} :
      (∀ e, z.players.lookup player = some e → e.routeEpoch < routeEpoch) →
      result.status = .applied →
      Handled z (.enterZone player routeEpoch position) (result, { z with
        players := z.players.insert player { position := position, routeEpoch := routeEpoch } })
  | left {player : PlayerId} {e : ZoneEntity} {result : ZoneResult} :
      z.players.lookup player = some e → result.status = .applied →
      Handled z (.leaveZone player e.routeEpoch) (result, { z with
        players := z.players.erase player })
  | moved {player : PlayerId} {e : ZoneEntity} {position : ZonePosition} {result : ZoneResult} :
      z.players.lookup player = some e → result.status = .applied →
      Handled z (.moveInZone player e.routeEpoch position) (result, { z with
        players := z.players.insert player { e with position := position } })
  | ticked {result : ZoneResult} :
      Handled z .simulationTick (result, { z with lastTick := z.lastTick + 1 })

theorem handle_spec (z : Zone) (command : ZoneCommand) : Handled z command (z.handle command) := by
  cases command with
  | enterZone player routeEpoch position =>
    simp only [handle]
    split
    · next e he =>
      split
      · exact .refused nofun
      split
      · exact .refused nofun
      refine .entered (fun e' he' => ?_) rfl
      rw [he] at he'
      cases he'
      omega
    · next he => exact .entered (fun e' he' => by rw [he] at he'; cases he') rfl
  | leaveZone player routeEpoch =>
    simp only [handle]
    split
    · exact .refused nofun
    · next e he =>
      split
      · exact .refused nofun
      · next hepoch =>
        cases not_not.1 hepoch
        exact .left he rfl
  | moveInZone player routeEpoch position =>
    simp only [handle]
    split
    · exact .refused nofun
    · next e he =>
      split
      · exact .refused nofun
      · next hepoch =>
        cases not_not.1 hepoch
        exact .moved he rfl
  | simulationTick => exact .ticked

/-! ## Epochs -/

/-- The route that a Leave or a Move is of. -/
def routed : ZoneCommand → Option (PlayerId × Nat)
  | .leaveZone player routeEpoch | .moveInZone player routeEpoch _ => some (player, routeEpoch)
  | _ => none

/-- What a command may do to the route epochs. -/
structure Fenced (z : Zone) (command : ZoneCommand) : Prop where
  stale : ∀ player routeEpoch e, routed command = some (player, routeEpoch) →
    z.players.lookup player = some e → routeEpoch ≠ e.routeEpoch → (z.handle command).2 = z
  epochs : ∀ player e e', z.players.lookup player = some e →
    (z.handle command).2.players.lookup player = some e' →
    e'.routeEpoch = e.routeEpoch ∨
      e.routeEpoch < e'.routeEpoch ∧ (z.handle command).1.status = .applied ∧
        ∃ position, command = .enterZone player e'.routeEpoch position

theorem fenced (z : Zone) (command : ZoneCommand) : Fenced z command := by
  have hspec := z.handle_spec command
  generalize hout : z.handle command = out at hspec
  refine ⟨?_, ?_⟩
  · intro player routeEpoch e hrouted he hne
    rw [hout]
    cases hspec with
    | refused _ => rfl
    | entered _ _ => cases hrouted
    | left he' _ | moved he' _ =>
      cases hrouted
      rw [he] at he'
      cases he'
      exact absurd rfl hne
    | ticked => cases hrouted
  · intro player e e' he he'
    rw [hout] at he' ⊢
    cases hspec with
    | refused _ | ticked =>
      rw [he] at he'
      cases he'
      exact .inl rfl
    | entered hlater happlied =>
      rw [lookup_insert_ite] at he'
      split at he'
      · next hplayer =>
        cases he'
        subst hplayer
        exact .inr ⟨hlater e he, happlied, _, rfl⟩
      · rw [he] at he'
        cases he'
        exact .inl rfl
    | left _ _ =>
      rw [lookup_erase_ite] at he'
      split at he'
      · cases he'
      · rw [he] at he'
        cases he'
        exact .inl rfl
    | moved hmoved _ =>
      rw [lookup_insert_ite] at he'
      split at he'
      · next hplayer =>
        cases he'
        rw [hplayer, hmoved] at he
        cases he
        exact .inl rfl
      · rw [he] at he'
        cases he'
        exact .inl rfl

def run (z : Zone) (commands : List ZoneCommand) : Zone :=
  commands.foldl (fun z command => (z.handle command).2) z

/-- The player is in the Zone before, between and after the commands. -/
def Stays (player : PlayerId) : Zone → List ZoneCommand → Prop
  | z, [] => (z.players.lookup player).isSome
  | z, command :: commands =>
    (z.players.lookup player).isSome ∧ Stays player (z.handle command).2 commands

theorem Stays.head {player : PlayerId} {z : Zone} {commands : List ZoneCommand}
    (h : Stays player z commands) : (z.players.lookup player).isSome := by
  cases commands with
  | nil => exact h
  | cons _ _ => exact h.1

/-- **Epochs never decrease** while the player stays. -/
theorem routeEpoch_le_run {player : PlayerId} {z : Zone} {commands : List ZoneCommand}
    (hstays : Stays player z commands) {e e' : ZoneEntity}
    (he : z.players.lookup player = some e)
    (he' : (z.run commands).players.lookup player = some e') : e.routeEpoch ≤ e'.routeEpoch := by
  induction commands generalizing z e with
  | nil =>
    rw [show z.run [] = z from rfl, he] at he'
    cases he'
    exact Nat.le_refl _
  | cons command commands ih =>
    obtain ⟨mid, hmid⟩ := Option.isSome_iff_exists.1 hstays.2.head
    have hstep : e.routeEpoch ≤ mid.routeEpoch := by
      rcases (z.fenced command).epochs player e mid he hmid with heq | ⟨hlt, -⟩
      · exact heq.ge
      · exact hlt.le
    exact hstep.trans (ih hstays.2 hmid he')

/-! ## Positions -/

/-- The position that an applied Enter or Move of the player sets. -/
def appliedPosition (player : PlayerId) : ZoneCommand × ZoneResult → Option ZonePosition
  | (.enterZone p _ position, result) | (.moveInZone p _ position, result) =>
    if p = player ∧ result.status = .applied then some position else none
  | _ => none

/-- The position of the last of them in a record of commands, the latest first. -/
def lastPosition (player : PlayerId) (record : List (ZoneCommand × ZoneResult)) :
    Option ZonePosition :=
  record.findSome? (appliedPosition player)

/-- The players of the Zone are where the record says. -/
def Placed (z : Zone) (record : List (ZoneCommand × ZoneResult)) : Prop :=
  ∀ player e, z.players.lookup player = some e → lastPosition player record = some e.position

theorem lastPosition_cons_applied {player : PlayerId} {command : ZoneCommand}
    {result : ZoneResult} {position : ZonePosition}
    (h : appliedPosition player (command, result) = some position)
    (record : List (ZoneCommand × ZoneResult)) :
    lastPosition player ((command, result) :: record) = some position := by
  rw [lastPosition, List.findSome?_cons, h]

theorem lastPosition_cons_other {player : PlayerId} {command : ZoneCommand} {result : ZoneResult}
    (h : appliedPosition player (command, result) = none)
    (record : List (ZoneCommand × ZoneResult)) :
    lastPosition player ((command, result) :: record) = lastPosition player record := by
  rw [lastPosition, List.findSome?_cons, h]
  rfl

theorem Placed.handle {z : Zone} {record : List (ZoneCommand × ZoneResult)} (h : Placed z record)
    (command : ZoneCommand) :
    Placed (z.handle command).2 ((command, (z.handle command).1) :: record) := by
  have hspec := z.handle_spec command
  generalize z.handle command = out at hspec
  intro player e he
  cases hspec with
  | refused hrefused =>
    rw [lastPosition_cons_other ?_, h player e he]
    cases command with
    | enterZone p _ position | moveInZone p _ position => exact if_neg fun h' => hrefused h'.2
    | leaveZone p _ | simulationTick => rfl
  | entered _ happlied | moved _ happlied =>
    rw [lookup_insert_ite] at he
    split at he
    · next hplayer =>
      cases he
      refine lastPosition_cons_applied ?_ record
      exact if_pos ⟨hplayer.symm, happlied⟩
    · next hplayer =>
      rw [lastPosition_cons_other ?_, h player e he]
      exact if_neg fun h' => hplayer h'.1.symm
  | left _ _ =>
    rw [lookup_erase_ite] at he
    split at he
    · cases he
    · rw [lastPosition_cons_other rfl, h player e he]
  | ticked => rw [lastPosition_cons_other rfl, h player e he]

/-! ## Visibility -/

/-- `isVisible` with arithmetic that fails where the words of the source would wrap. -/
def checkedIsVisible (z : Zone) (left right : ZonePosition) : Option Bool := do
  let x ← int64 (left.x.toInt - right.x.toInt)
  let y ← int64 (left.y.toInt - right.y.toInt)
  let radius := z.aoiRadius.toInt
  if (← int64 |x|) > radius || (← int64 |y|) > radius then return false
  let distance ← int64 ((← int64 (x * x)) + (← int64 (y * y)))
  return distance ≤ (← int64 (radius * radius))

/-- The exact square of the distance of two positions. -/
def distanceSquared (left right : ZonePosition) : Int :=
  (left.x.toInt - right.x.toInt) ^ 2 + (left.y.toInt - right.y.toInt) ^ 2

theorem abs_sub_lt (a b : Int32) : |a.toInt - b.toInt| < 2 ^ 32 := by
  have ha := a.le_toInt
  have ha' := a.toInt_lt
  have hb := b.le_toInt
  have hb' := b.toInt_lt
  rw [abs_lt]
  omega

theorem square_le {x radius : Int} (h : |x| ≤ radius) : 0 ≤ x * x ∧ x * x ≤ radius * radius := by
  refine ⟨mul_self_nonneg x, ?_⟩
  rw [← abs_mul_abs_self]
  exact mul_le_mul h h (abs_nonneg x) ((abs_nonneg x).trans h)

theorem radius_square_lt {z : Zone} (h : 0 ≤ z.aoiRadius.toInt) :
    z.aoiRadius.toInt * z.aoiRadius.toInt < 2 ^ 62 := by
  have hlt := z.aoiRadius.toInt_lt
  nlinarith

/-- The checks of the axes keep the squares small. -/
theorem checkedIsVisible_eq {z : Zone} (h : 0 ≤ z.aoiRadius.toInt) (left right : ZonePosition) :
    z.checkedIsVisible left right = some (z.isVisible left right) := by
  have hx := abs_sub_lt left.x right.x
  have hy := abs_sub_lt left.y right.y
  have hradius := radius_square_lt h
  unfold checkedIsVisible isVisible
  generalize left.x.toInt - right.x.toInt = x at *
  generalize left.y.toInt - right.y.toInt = y at *
  generalize z.aoiRadius.toInt = radius at *
  have hx' := abs_lt.1 hx
  have hy' := abs_lt.1 hy
  have hx'' := abs_nonneg x
  have hy'' := abs_nonneg y
  have habs (n : Int) : ((n.natAbs : Nat) : Int) = |n| := (Int.abs_eq_natAbs n).symm
  rw [int64_eq (a := x) (by omega), Option.bind_eq_bind, Option.bind_some,
    int64_eq (a := y) (by omega), Option.bind_some]
  dsimp only
  rw [int64_eq (a := |x|) (by omega), Option.bind_some, int64_eq (a := |y|) (by omega),
    Option.bind_some, habs, habs]
  by_cases hfar : (decide (|x| > radius) || decide (|y| > radius)) = true
  · rw [if_pos hfar, if_pos hfar]
    rfl
  · rw [if_neg hfar, if_neg hfar]
    simp only [Bool.or_eq_true, decide_eq_true_eq, not_or, not_lt] at hfar
    obtain ⟨hxx, hxx'⟩ := square_le hfar.1
    obtain ⟨hyy, hyy'⟩ := square_le hfar.2
    rw [int64_eq (a := x * x) (by omega), Option.bind_some, int64_eq (a := y * y) (by omega),
      Option.bind_some, int64_eq (a := x * x + y * y) (by omega), Option.bind_some,
      int64_eq (a := radius * radius) (by omega), Option.bind_some]
    rfl

theorem isVisible_iff {z : Zone} (h : 0 ≤ z.aoiRadius.toInt) (left right : ZonePosition) :
    z.isVisible left right = true ↔ distanceSquared left right ≤ z.aoiRadius.toInt ^ 2 := by
  unfold isVisible distanceSquared
  generalize left.x.toInt - right.x.toInt = x
  generalize left.y.toInt - right.y.toInt = y
  generalize z.aoiRadius.toInt = radius at *
  dsimp only
  split
  · next hfar =>
    simp only [Bool.or_eq_true, decide_eq_true_eq] at hfar
    refine iff_of_false Bool.false_ne_true (not_le.2 ?_)
    rcases hfar with hx | hy
    · have hlt : radius ^ 2 < x ^ 2 := by
        rw [sq_lt_sq, abs_of_nonneg h, Int.abs_eq_natAbs]
        exact hx
      have hnonneg := sq_nonneg y
      omega
    · have hlt : radius ^ 2 < y ^ 2 := by
        rw [sq_lt_sq, abs_of_nonneg h, Int.abs_eq_natAbs]
        exact hy
      have hnonneg := sq_nonneg x
      omega
  · rw [decide_eq_true_iff, sq, sq, sq]

theorem distanceSquared_comm (left right : ZonePosition) :
    distanceSquared left right = distanceSquared right left := by
  unfold distanceSquared
  ring

theorem mem_visiblePlayers {z : Zone} {player other : PlayerId} :
    other ∈ z.visiblePlayers player ↔ ∃ e e', z.players.lookup player = some e ∧
      z.players.lookup other = some e' ∧ other ≠ player ∧
      z.isVisible e.position e'.position = true := by
  unfold visiblePlayers
  split
  · next hnone =>
    refine iff_of_false List.not_mem_nil ?_
    rintro ⟨e, -, he, -⟩
    rw [hnone] at he
    cases he
  · next e he =>
    rw [List.mem_insertionSort, List.mem_map]
    constructor
    · rintro ⟨⟨other, e'⟩, hmem, rfl⟩
      rw [List.mem_filter, Bool.and_eq_true, decide_eq_true_iff] at hmem
      exact ⟨e, e', he, AList.mem_lookup_iff.2 hmem.1, hmem.2.1, hmem.2.2⟩
    · rintro ⟨d, e', hd, he', hne, hvisible⟩
      rw [he] at hd
      cases hd
      refine ⟨⟨other, e'⟩, ?_, rfl⟩
      rw [List.mem_filter, Bool.and_eq_true, decide_eq_true_iff]
      exact ⟨AList.mem_lookup_iff.1 he', hne, hvisible⟩

theorem pairwise_visiblePlayers (z : Zone) (player : PlayerId) :
    (z.visiblePlayers player).Pairwise (· < ·) := by
  unfold visiblePlayers
  split
  · exact .nil
  · refine ((List.pairwise_insertionSort (· ≤ ·) _).and ?_).imp fun h => lt_of_le_of_ne h.1 h.2
    have hnodup : (z.players.entries.map Sigma.fst).Nodup := z.players.nodupKeys
    exact ((List.perm_insertionSort _ _).nodup_iff).2
      (hnodup.sublist (List.filter_sublist.map Sigma.fst))

/-- What the players of a Zone see of each other. -/
structure Sighted (z : Zone) : Prop where
  noWrap : ∀ left right, z.checkedIsVisible left right = some (z.isVisible left right)
  increasing : ∀ player, (z.visiblePlayers player).Pairwise (· < ·)
  others : ∀ player, player ∉ z.visiblePlayers player
  symmetric : ∀ player other,
    other ∈ z.visiblePlayers player ↔ player ∈ z.visiblePlayers other
  exact : ∀ player other e e', z.players.lookup player = some e →
    z.players.lookup other = some e' → player ≠ other →
    (other ∈ z.visiblePlayers player ↔
      distanceSquared e.position e'.position ≤ z.aoiRadius.toInt ^ 2)

theorem sighted {z : Zone} (h : 0 ≤ z.aoiRadius.toInt) : Sighted z where
  noWrap := checkedIsVisible_eq h
  increasing := z.pairwise_visiblePlayers
  others player hself := by
    obtain ⟨_, _, -, -, hne, -⟩ := mem_visiblePlayers.1 hself
    exact hne rfl
  symmetric player other := by
    rw [mem_visiblePlayers, mem_visiblePlayers]
    constructor
    · rintro ⟨e, e', he, he', hne, hvisible⟩
      rw [isVisible_iff h, distanceSquared_comm, ← isVisible_iff h] at hvisible
      exact ⟨e', e, he', he, hne.symm, hvisible⟩
    · rintro ⟨e, e', he, he', hne, hvisible⟩
      rw [isVisible_iff h, distanceSquared_comm, ← isVisible_iff h] at hvisible
      exact ⟨e', e, he', he, hne.symm, hvisible⟩
  exact player other e e' he he' hne := by
    rw [mem_visiblePlayers, ← isVisible_iff h]
    constructor
    · rintro ⟨d, d', hd, hd', -, hvisible⟩
      rw [he] at hd
      rw [he'] at hd'
      cases hd
      cases hd'
      exact hvisible
    · intro hvisible
      exact ⟨e, e', he, he', hne.symm, hvisible⟩

theorem aoiRadius_handle (z : Zone) (command : ZoneCommand) :
    (z.handle command).2.aoiRadius = z.aoiRadius := by
  have hspec := z.handle_spec command
  generalize z.handle command = out at hspec
  cases hspec <;> rfl

end Zone

/-! ## Runs -/

/-- A Zone and the record of its commands, the latest first. -/
structure ZoneRun where
  zone : Zone
  record : List (ZoneCommand × ZoneResult) := []
deriving DecidableEq

/-- The runs of a Zone. -/
def zoneMachine (zone : ZoneId) (config : ZoneConfig) : Machine ZoneRun ZoneCommand where
  init s := Zone.create zone config = .ok s.zone ∧ s.record = []
  step s command := some
    { zone := (s.zone.handle command).2
      record := (command, (s.zone.handle command).1) :: s.record }

section Runs

variable {zone : ZoneId} {config : ZoneConfig} {guard : ZoneRun → ZoneCommand → Prop} {s : ZoneRun}

theorem create_zone_eq {z : Zone} (h : Zone.create zone config = .ok z) :
    z = { id := zone, aoiRadius := config.aoiRadius, tickInterval := config.tickInterval } ∧
      0 ≤ config.aoiRadius.toInt := by
  unfold Zone.create at h
  split at h
  · cases h
  split at h
  · cases h
  · next hradius =>
    split at h
    · cases h
    · cases h
      rw [Int32.lt_iff_toInt_lt] at hradius
      exact ⟨rfl, Int.not_lt.1 hradius⟩

/-- **Fencing and visibility.** In every state of every run of a Zone: what a further command does
to the route epochs, the epochs of a player that stays over any further commands, the positions of
the players, and who sees whom. -/
theorem zone_fencing (h : (zoneMachine zone config).Reach (fun _ _ => True) s) :
    (∀ command, s.zone.Fenced command) ∧
    (∀ player commands e e', Zone.Stays player s.zone commands →
      s.zone.players.lookup player = some e →
      (s.zone.run commands).players.lookup player = some e' → e.routeEpoch ≤ e'.routeEpoch) ∧
    s.zone.Placed s.record ∧ s.zone.Sighted := by
  refine ⟨s.zone.fenced, fun _ _ _ _ hstays he he' => Zone.routeEpoch_le_run hstays he he', ?_, ?_⟩
  · refine h.invariant (P := fun s => s.zone.Placed s.record) ?_ ?_
    · intro s hinit player e he
      rw [(create_zone_eq hinit.1).1] at he
      cases he
    · intro s command s' _ hplaced _ hstep
      cases hstep
      exact hplaced.handle command
  · refine Zone.sighted (h.invariant (P := fun s => 0 ≤ s.zone.aoiRadius.toInt) ?_ ?_)
    · intro s hinit
      obtain ⟨heq, hradius⟩ := create_zone_eq hinit.1
      rwa [heq]
    · intro s command s' _ hradius _ hstep
      cases hstep
      show 0 ≤ (s.zone.handle command).2.aoiRadius.toInt
      rwa [Zone.aoiRadius_handle]

/-- A player who enters, whom a Leave of an older route does not remove, and who sees another one
at the border of the range. -/
theorem zone_fencing_two_players :
    ∃ s : ZoneRun, s.zone.Placed s.record ∧ s.zone.Sighted ∧
      2 ∈ s.zone.visiblePlayers 1 ∧ (s.zone.players.lookup 1).map (·.routeEpoch) = some 7 := by
  obtain ⟨s, hreach, htest⟩ := (zoneMachine 1 {}).exists_reach_of_replay (fun _ _ => True)
    (s := { zone := { id := 1, aoiRadius := 1000, tickInterval := 100 } }) ⟨rfl, rfl⟩
    [.enterZone 1 7 ⟨0, 0⟩, .leaveZone 1 6, .enterZone 2 1 ⟨-600, 800⟩, .simulationTick]
    (fun s => decide (2 ∈ s.zone.visiblePlayers 1 ∧
      (s.zone.players.lookup 1).map (·.routeEpoch) = some 7)) (by decide +kernel)
  obtain ⟨-, -, hplaced, hsighted⟩ := zone_fencing hreach
  obtain ⟨hsees, hepoch⟩ := of_decide_eq_true htest
  exact ⟨s, hplaced, hsighted, hsees, hepoch⟩

end Runs

end Snf.Game
