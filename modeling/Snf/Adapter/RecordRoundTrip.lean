import Snf.Adapter.PlayerActorAdapter

/-! # The record of a Player in the database

A record is saved as the columns of a row and one row for each skill, and a Player is built again
from what a load reads. The loadout carries the checks of its constructor, so no stored record is
refused; and since its ids are sorted without repetition, they come back in their order whatever
the order of the rows.
-/

namespace Snf.Adapter

open Snf.Game Snf.Worker

/-! ## The ids that make a loadout -/

/-- The loop over the ids refuses no known ones without repetition. -/
theorem ownedError_eq_none (owned : List SkillId) (previous : Option SkillId)
    (hk : ∀ skill ∈ owned, (findSkill skill).isSome) (hn : owned.Nodup)
    (hp : ∀ skill ∈ previous, skill ∉ owned) : SkillLoadout.ownedError previous owned = none := by
  induction owned generalizing previous with
  | nil => rfl
  | cons skill rest ih =>
    obtain ⟨hnot, hn⟩ := List.nodup_cons.1 hn
    have hknown : ¬(findSkill skill).isNone = true := by
      rw [Option.isNone_iff_eq_none]
      exact Option.isSome_iff_ne_none.1 (hk skill List.mem_cons_self)
    have hprevious : previous ≠ some skill := fun he => hp skill he List.mem_cons_self
    rw [SkillLoadout.ownedError, if_neg hknown, if_neg hprevious]
    refine ih _ (fun k hm => hk k (List.mem_cons_of_mem _ hm)) hn fun k hm => ?_
    cases hm
    exact hnot

theorem restore_ok {player : PlayerId} {record : PlayerRecord} (h : record.player = player) :
    ∃ restored, (Player.ofIdentity (some player)).restore record = .ok restored :=
  ⟨_, if_neg (not_not.2 (congrArg some h.symm))⟩

/-! ## What is stored -/

/-- The values of `playerUpsert`, in the order in which `playerSelect` reads them. -/
def playerUpsert (request : SavePlayerRequest) : List DbColumn :=
  let whenLocated (value : Int) : DbColumn := if request.hasLocation then .value value else .null
  [ .value request.handledCommandCount.toNat,
    whenLocated request.zoneId,
    whenLocated request.positionX.toInt,
    whenLocated request.positionY.toInt,
    .value request.currencyBalance.toNat,
    .value request.purchasedItemCount.toNat,
    .value request.streetExperience.toNat,
    .value request.equippedSkillId ]

def skillRow (skill : Nat) : List DbColumn := [.value skill]

/-- The rows of one stage of a load. Nothing is left of the operation when one does not decode. -/
def consumeRows (f : InFlight) : List (List DbColumn) → Except Unit (Option InFlight)
  | [] => .ok (some f)
  | columns :: rows =>
    match consumeRow f columns with
    | .ok (some f) => consumeRows f rows
    | out => out

/-- A load of a player before its first row. -/
def startedLoad (key : AwaitKey) (deadline : TimePoint) (player : PlayerId) : InFlight where
  key := key
  request := .loadPlayer player
  deadline := deadline
  stage := .playerRow

/-- The result of a load that reads the row of a player and then the skills. -/
def readPlayer (load : InFlight) (columns : List DbColumn) (skills : List (List DbColumn)) :
    Except Unit (Option LoadPlayerResult) :=
  match consumeRows load [columns] with
  | .ok (some f) =>
    match consumeRows { f with stage := .playerSkills } skills with
    | .ok (some f) => .ok (some f.result)
    | .ok none => .ok none
    | .error e => .error e
  | .ok none => .ok none
  | .error e => .error e

def storedRow (request : SavePlayerRequest) : LoadedPlayerRow where
  playerId := request.playerId
  handledCommandCount := request.handledCommandCount
  hasLocation := request.hasLocation
  zoneId := request.zoneId
  positionX := request.positionX
  positionY := request.positionY
  currencyBalance := request.currencyBalance
  purchasedItemCount := request.purchasedItemCount
  streetExperience := request.streetExperience
  equippedSkillId := request.equippedSkillId

/-! ## Reading it back -/

theorem parseUnsigned_natCast {value : Nat} (h : value < 2 ^ 64) :
    parseUnsigned (.value value) = some value := by
  have hrange : 0 ≤ (value : Int) ∧ (value : Int) < 2 ^ 64 := by omega
  unfold parseUnsigned
  dsimp only
  rw [if_pos hrange, Int.toNat_natCast]

theorem parseSigned_toInt (value : Int32) : parseSigned (.value value.toInt) = some value.toInt := by
  have hlow := value.le_toInt
  have hhigh := value.toInt_lt
  have hrange : -(2 ^ 63) ≤ value.toInt ∧ value.toInt < 2 ^ 63 := by omega
  unfold parseSigned
  dsimp only
  rw [if_pos hrange]

theorem decodePlayerRow_upsert {request : SavePlayerRequest} (hzone : request.zoneId < 2 ^ 64)
    (hequipped : request.equippedSkillId ≤ uint32Max)
    (hplain : request.hasLocation = false →
      request.zoneId = 0 ∧ request.positionX = 0 ∧ request.positionY = 0) :
    decodePlayerRow request.playerId (playerUpsert request) = some (storedRow request) := by
  have hx := request.positionX.le_toInt
  have hx' := request.positionX.toInt_lt
  have hy := request.positionY.le_toInt
  have hy' := request.positionY.toInt_lt
  have hlimit : uint32Max < 2 ^ 64 := by decide
  have hlow : int32Min = -2 ^ 31 := rfl
  have hhigh : int32Max = 2 ^ 31 - 1 := rfl
  have hhandled := parseUnsigned_natCast request.handledCommandCount.toNat_lt
  have hcurrency := parseUnsigned_natCast request.currencyBalance.toNat_lt
  have hpurchased := parseUnsigned_natCast request.purchasedItemCount.toNat_lt
  have hstreet := parseUnsigned_natCast request.streetExperience.toNat_lt
  have hskill := parseUnsigned_natCast (Nat.lt_of_le_of_lt hequipped hlimit)
  unfold decodePlayerRow playerUpsert storedRow
  cases hlocated : request.hasLocation with
  | false =>
    obtain ⟨hz, hx0, hy0⟩ := hplain hlocated
    simp only [Bool.false_eq_true, if_false, hhandled, hcurrency, hpurchased, hstreet, hskill,
      parseNullable, consumeLocation, Option.bind_eq_bind, Option.bind_some, Option.map_none,
      Option.getD_none]
    rw [if_neg (by omega)]
    simp [hz, hx0, hy0]
  | true =>
    simp only [if_true, hhandled, hcurrency, hpurchased, hstreet, hskill,
      parseNullable, parseUnsigned_natCast hzone, parseSigned_toInt, consumeLocation,
      Option.bind_eq_bind, Option.bind_some, Option.map_some, Option.getD_some]
    rw [if_neg (by omega)]
    simp

def withSkills (f : InFlight) (skills : List Nat) : InFlight :=
  { f with result := { f.result with ownedSkillIds := f.result.ownedSkillIds ++ skills } }

theorem consumeRow_skill {f : InFlight} (hstage : f.stage = .playerSkills) {column : DbColumn}
    {skill : Nat} (hparse : parseUnsigned column = some skill) (h : skill ≤ uint32Max) :
    consumeRow f [column] = .ok (some (withSkills f [skill])) := by
  unfold consumeRow
  rw [if_pos hstage]
  dsimp only
  rw [hparse]
  dsimp only
  rw [if_neg (Nat.not_lt.2 h)]
  rfl

theorem consumeRows_skills (skills : List Nat) (h : ∀ skill ∈ skills, skill ≤ uint32Max)
    (f : InFlight) (hstage : f.stage = .playerSkills) :
    consumeRows f (skills.map skillRow) = .ok (some (withSkills f skills)) := by
  induction skills generalizing f with
  | nil =>
    unfold withSkills
    rw [List.append_nil]
    rfl
  | cons skill skills ih =>
    have hmore : withSkills (withSkills f [skill]) skills = withSkills f (skill :: skills) := by
      unfold withSkills
      dsimp only
      rw [List.append_assoc]
      rfl
    have hskill := h skill List.mem_cons_self
    have hparse := parseUnsigned_natCast (Nat.lt_of_le_of_lt hskill (by decide))
    rw [List.map_cons, consumeRows, skillRow, consumeRow_skill hstage hparse hskill]
    dsimp only
    rw [ih (fun k hk => h k (List.mem_cons_of_mem _ hk)) (withSkills f [skill]) hstage, hmore]

def withRow (f : InFlight) (row : LoadedPlayerRow) : InFlight :=
  { f with result := { f.result with found := true, row := row } }

theorem consumeRow_row {key : AwaitKey} {deadline : TimePoint} {player : PlayerId}
    {columns : List DbColumn} {row : LoadedPlayerRow}
    (h : decodePlayerRow player columns = some row) :
    consumeRow (startedLoad key deadline player) columns =
      .ok (some (withRow (startedLoad key deadline player) row)) := by
  have hplayer : (startedLoad key deadline player).request.playerId = player := rfl
  have hload : (startedLoad key deadline player).request.isSave = false := rfl
  have hfound : (startedLoad key deadline player).result.found = false := rfl
  have hstage : (startedLoad key deadline player).stage = .playerRow := rfl
  unfold consumeRow
  rw [hplayer, hload, hfound, hstage, h, if_neg (by decide), if_neg (by decide)]
  dsimp only
  rw [if_neg (by decide)]
  rfl

/-- A load gives the row and the skills in the order of their rows. -/
theorem readPlayer_of_row (key : AwaitKey) (deadline : TimePoint) {player : PlayerId}
    {columns : List DbColumn} {row : LoadedPlayerRow}
    (hrow : decodePlayerRow player columns = some row)
    {skills : List Nat} (hskills : ∀ skill ∈ skills, skill ≤ uint32Max) :
    readPlayer (startedLoad key deadline player) columns (skills.map skillRow) =
      .ok (some { found := true, row := row, ownedSkillIds := skills }) := by
  unfold readPlayer
  rw [consumeRows, consumeRow_row hrow]
  dsimp only
  rw [consumeRows]
  dsimp only
  rw [consumeRows_skills skills hskills _ rfl]
  rfl

/-! ## Loadouts -/

theorem eq_of_findSkill {skill : SkillId} (h : (findSkill skill).isSome) :
    skill ∈ [slash, arcaneBolt] := by
  unfold findSkill at h
  split at h
  · next heq => exact heq ▸ List.mem_cons_self
  split at h
  · next heq => exact heq ▸ List.mem_cons_of_mem _ List.mem_cons_self
  · cases h

theorem length_owned (l : SkillLoadout) : l.owned.length ≤ 2 :=
  (List.subperm_of_subset (l.sorted.imp Nat.ne_of_lt)
    (fun skill hskill => eq_of_findSkill (l.known skill hskill))).length_le

theorem skill_le (l : SkillLoadout) {skill : SkillId} (h : skill ∈ l.owned) :
    skill ≤ uint32Max := by
  have hall : ∀ known ∈ [slash, arcaneBolt], known ≤ uint32Max := by decide
  exact hall skill (eq_of_findSkill (l.known skill h))

/-- **The rows of a loadout make it again**, in any order. -/
theorem ofOwned_perm (l : SkillLoadout) {rows : List SkillId} (h : rows.Perm l.owned) :
    SkillLoadout.ofOwned rows l.equipped = .ok l := by
  have hsorted : rows.insertionSort (· ≤ ·) = l.owned := by
    refine List.Perm.eq_of_pairwise' (List.pairwise_insertionSort (· ≤ ·) rows)
      (l.sorted.imp Nat.le_of_lt) ((List.perm_insertionSort (· ≤ ·) rows).trans h)
  have hnil : rows ≠ [] := fun hnil => List.not_mem_nil (hnil ▸ h.mem_iff.2 l.equipped_mem)
  have hnone : SkillLoadout.ownedError none (rows.insertionSort (· ≤ ·)) = none := by
    rw [hsorted]
    exact ownedError_eq_none _ none l.known (l.sorted.imp Nat.ne_of_lt) nofun
  have hmem : l.equipped ∈ rows.insertionSort (· ≤ ·) := hsorted ▸ l.equipped_mem
  unfold SkillLoadout.ofOwned
  rw [if_neg hnil]
  split
  · next herror => cases herror.symm.trans hnone
  · rw [dif_pos hmem]
    congr 1
    obtain ⟨owned, equipped, _, _, _⟩ := l
    dsimp only at hsorted ⊢
    subst hsorted
    rfl

/-! ## Records -/

/-- What is admitted to the database, whatever else is there. -/
theorem admissible_toSaveRequest (record : PlayerRecord) :
    (DbRequest.savePlayer (toSaveRequest record)).admissible = true := by
  have hlength := length_owned record.skillLoadout
  have hmem := record.skillLoadout.equipped_mem
  have hnil : record.skillLoadout.owned ≠ [] := fun hnil => List.not_mem_nil (hnil ▸ hmem)
  have hlimit : maxPlayerSkillRows = 64 := rfl
  unfold DbRequest.admissible toSaveRequest
  simp only [Bool.and_eq_true, Bool.not_eq_true', List.isEmpty_eq_false_iff, decide_eq_true_eq]
  exact ⟨hnil, by omega⟩

/-- The record that a load of the saved one builds. -/
theorem loadedRecord_stored (record : PlayerRecord) {rows : List SkillId}
    (h : rows.Perm record.skillLoadout.owned) :
    GameActorFactory.loadedRecord record.player
      { found := true, row := storedRow (toSaveRequest record), ownedSkillIds := rows } =
      .ok record := by
  have hloadout := ofOwned_perm record.skillLoadout h
  unfold GameActorFactory.loadedRecord
  dsimp only [storedRow, toSaveRequest]
  rw [hloadout]
  obtain ⟨player, handled, location, currency, purchased, street, loadout⟩ := record
  cases location with
  | none => rfl
  | some location => rfl

/-- The row of a record without a location has no coordinates. -/
theorem unlocated_toSaveRequest {record : PlayerRecord}
    (h : (toSaveRequest record).hasLocation = false) :
    (toSaveRequest record).zoneId = 0 ∧ (toSaveRequest record).positionX = 0 ∧
      (toSaveRequest record).positionY = 0 := by
  have hnone : record.lastLocation = none := Option.not_isSome_iff_eq_none.1 (Bool.eq_false_iff.1 h)
  unfold toSaveRequest
  rw [hnone]
  exact ⟨rfl, rfl, rfl⟩

theorem zone_toSaveRequest {record : PlayerRecord}
    (h : ∀ location ∈ record.lastLocation, location.zone < 2 ^ 64) :
    (toSaveRequest record).zoneId < 2 ^ 64 := by
  unfold toSaveRequest
  cases hlocation : record.lastLocation with
  | none => exact Nat.two_pow_pos 64
  | some location => exact h location hlocation

theorem snapshot_of_restore {p restored : Player} {record : PlayerRecord}
    (h : p.restore record = .ok restored) :
    restored.snapshot = .ok record ∧ restored.state.dirtyComponents = {} := by
  unfold Player.restore at h
  split at h
  · cases h
  · next hidentity =>
    cases h
    refine ⟨?_, rfl⟩
    unfold Player.snapshot
    dsimp only
    rw [not_not.1 hidentity]

/-- A Player made of a record has it for its snapshot, and nothing of it to save. -/
theorem constructLoaded_of_record (game : GameActorConfig) {record : PlayerRecord}
    {loaded : LoadPlayerResult} (hfound : loaded.found = true)
    (h : GameActorFactory.loadedRecord record.player loaded = .ok record) :
    ∃ adapter,
      GameActorFactory.constructLoaded game ⟨.player, record.player⟩ loaded =
        .ok (.ready (.player adapter)) ∧
      adapter.player.snapshot = .ok record ∧ adapter.player.state.dirtyComponents = {} := by
  obtain ⟨restored, hrestored⟩ := restore_ok (rfl : record.player = record.player)
  refine ⟨{ player := restored, saveInterval := game.playerSaveInterval }, ?_,
    snapshot_of_restore hrestored⟩
  unfold GameActorFactory.constructLoaded
  rw [if_neg (not_not.2 rfl), if_pos hfound, h]
  dsimp only [bind, Except.bind]
  rw [hrestored]

/-- **A saved record is loaded as it was.** It passes the checks of the database client; and when
its columns and the rows of its skills are read back, these in any order, the Player made of them
has the record for its snapshot and nothing to save. -/
theorem player_record_round_trip (game : GameActorConfig) (record : PlayerRecord)
    (hzone : ∀ location ∈ record.lastLocation, location.zone < 2 ^ 64)
    (key : AwaitKey) (deadline : TimePoint) (rows : List SkillId)
    (hrows : rows.Perm (toSaveRequest record).ownedSkillIds) :
    (DbRequest.savePlayer (toSaveRequest record)).admissible = true ∧
      ∃ loaded adapter,
        readPlayer (startedLoad key deadline record.player) (playerUpsert (toSaveRequest record))
          (rows.map skillRow) = .ok (some loaded) ∧
        GameActorFactory.constructLoaded game ⟨.player, record.player⟩ loaded =
          .ok (.ready (.player adapter)) ∧
        adapter.player.snapshot = .ok record ∧ adapter.player.state.dirtyComponents = {} := by
  refine ⟨admissible_toSaveRequest record, ?_⟩
  have hequipped := skill_le record.skillLoadout record.skillLoadout.equipped_mem
  have hrow : decodePlayerRow record.player (playerUpsert (toSaveRequest record)) = _ :=
    decodePlayerRow_upsert (zone_toSaveRequest hzone) hequipped unlocated_toSaveRequest
  have hread := readPlayer_of_row key deadline hrow
    (fun skill hskill => skill_le record.skillLoadout (hrows.mem_iff.1 hskill))
  obtain ⟨adapter, hadapter⟩ := constructLoaded_of_record game rfl (loadedRecord_stored record hrows)
  exact ⟨_, adapter, hread, hadapter⟩

/-- A record with both skills, the second of them equipped. -/
def skilledRecord : PlayerRecord where
  player := 7
  handledCommandCount := 18446744073709551615
  lastLocation := some ⟨3, ⟨-2, 5⟩⟩
  skillLoadout :=
    { owned := [slash, arcaneBolt]
      equipped := arcaneBolt
      sorted := by decide
      known := by decide
      equipped_mem := by decide }

def loadedGame : GameActorConfig where
  playerLoadEnabled := true
  charge _ := 1


/-- The rows of its skills come back in the other order. -/
theorem player_record_round_trip_skilled :
    (DbRequest.savePlayer (toSaveRequest skilledRecord)).admissible = true ∧
      ∃ loaded adapter,
        readPlayer (startedLoad ⟨⟨.player, 7⟩, 1, 1⟩ 0 7)
          (playerUpsert (toSaveRequest skilledRecord)) [[.value arcaneBolt], [.value slash]] =
            .ok (some loaded) ∧
        GameActorFactory.constructLoaded loadedGame ⟨.player, 7⟩ loaded =
          .ok (.ready (.player adapter)) ∧
        adapter.player.snapshot = .ok skilledRecord ∧ adapter.player.state.dirtyComponents = {} :=
  player_record_round_trip loadedGame skilledRecord
    (fun location hlocation => by cases hlocation; decide) ⟨⟨.player, 7⟩, 1, 1⟩ 0
    [arcaneBolt, slash] (List.Perm.swap slash arcaneBolt [])

end Snf.Adapter
