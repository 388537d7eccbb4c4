import Snf.Lib.Machine
import Snf.Adapter.RecordRoundTrip

/-! # Loads between saves

A load reads the row of a player with one statement and the skills with another; a save writes
both in one transaction. Each connection runs its statements one after the other, and those of
several connections interleave in any way. A statement reads what is committed at that moment,
and a transaction is committed as a whole.

There are two loads: that of `DbClient`, whose result the actor factory makes a record of, and
that of `MySqlStore`. Neither is a transaction. A save that commits between the two statements
leaves the load with the row of one record and the skills of another.
-/

namespace Snf.Adapter

open Snf.Lib Snf.Game Snf.Worker

/-! ## The load of the blocking repository -/

/-- `parse_integer` at the range of its type. -/
def parseInteger (low high : Int) (field : String) : DbColumn → Except String Int
  | .null => .error (field ++ " is unexpectedly NULL")
  | .value v =>
    if low ≤ v ∧ v ≤ high then .ok v else .error (field ++ " is not a valid integer")
  | .garbled => .error (field ++ " is not a valid integer")

def uint64Max : Int := 2 ^ 64 - 1

def parseUInt64 (field : String) (column : DbColumn) : Except String UInt64 :=
  (parseInteger 0 uint64Max field column).map fun v => UInt64.ofNat v.toNat

def parseInt32 (field : String) (column : DbColumn) : Except String Int32 :=
  (parseInteger int32Min int32Max field column).map Int32.ofInt

def parseUInt32 (field : String) (column : DbColumn) : Except String Nat :=
  (parseInteger 0 uint32Max field column).map Int.toNat

structure DecodedPlayerRow where
  record : PlayerRecord
  equippedSkillId : SkillId
deriving DecidableEq

/-- `decode_player`. The query selects eight columns. -/
def decodePlayer (player : PlayerId) (columns : List DbColumn) : Except String DecodedPlayerRow :=
  match columns with
  | [handled, zone, x, y, currency, purchased, street, equipped] =>
    if decide (zone = .null) ≠ decide (x = .null) ∨ decide (zone = .null) ≠ decide (y = .null) then
      .error "Player location columns are inconsistent"
    else do
      let location : Option PlayerLocation ←
        if zone = .null then .ok none
        else do
          let zone ← parseInteger 0 uint64Max "zone_id" zone
          let x ← parseInt32 "position_x" x
          let y ← parseInt32 "position_y" y
          .ok (some ⟨zone.toNat, ⟨x, y⟩⟩)
      let handled ← parseUInt64 "handled_command_count" handled
      let currency ← parseUInt64 "currency_balance" currency
      let purchased ← parseUInt64 "purchased_item_count" purchased
      let street ← parseUInt64 "street_experience" street
      let equipped ← parseUInt32 "equipped_skill_id" equipped
      .ok
        { record :=
            { player := player, handledCommandCount := handled, lastLocation := location
              currencyBalance := currency, purchasedItemCount := purchased
              streetExperience := street }
          equippedSkillId := equipped }
  | _ => .error ""

/-- The end of `MySqlStore::load`, with the rows of its second query. -/
def DecodedPlayerRow.complete (decoded : DecodedPlayerRow) (skills : List (List DbColumn)) :
    Except String PlayerRecord := do
  let owned ← skills.mapM fun row => parseUInt32 "skill_id" (row.headD .null)
  let loadout ← SkillLoadout.ofOwned owned decoded.equippedSkillId
  .ok { decoded.record with skillLoadout := loadout }

/-! ## Connections -/

/-- What is committed of a player: its row, and its skills. -/
structure StoredPlayer where
  columns : List DbColumn
  skills : List Nat
deriving DecidableEq

/-- `ORDER BY skill_id`. -/
def StoredPlayer.skillRows (stored : StoredPlayer) : List (List DbColumn) :=
  (stored.skills.insertionSort (· ≤ ·)).map skillRow

/-- What a connection is doing. -/
inductive Work where
  | idle
  /-- A save at one of its statements, with what its transaction has written. -/
  | saving (record : PlayerRecord) (stage : DbStage) (written : StoredPlayer)
  /-- A load of `DbClient`. -/
  | loading (f : InFlight)
  /-- A load of `MySqlStore`, before and after its first query. -/
  | reading (decoded : Option DecodedPlayerRow)
deriving DecidableEq

/-- The row has been read and the skills have not. -/
def Work.isHalfway : Work → Bool
  | .loading f => f.stage = .playerSkills
  | .reading decoded => decoded.isSome
  | _ => false

/-- The connections to a database, and what it holds of one player. -/
structure PlayerDb where
  committed : Option StoredPlayer := none
  connections : List Work
  /-- All records that have been committed. -/
  saves : List PlayerRecord := []
  /-- What the loads have come to. -/
  outcomes : List (Except String (Option PlayerRecord)) := []

namespace PlayerDb

variable (player : PlayerId)

def put (s : PlayerDb) (c : Nat) (work : Work) : PlayerDb :=
  { s with connections := s.connections.set c work }

/-- A load is over. -/
def finish (s : PlayerDb) (c : Nat) (outcome : Except String (Option PlayerRecord)) : PlayerDb :=
  { s.put c .idle with outcomes := outcome :: s.outcomes }

def skillRows (s : PlayerDb) : List (List DbColumn) :=
  match s.committed with
  | none => []
  | some stored => stored.skillRows

def saveStatement (s : PlayerDb) (c : Nat) (record : PlayerRecord) (written : StoredPlayer) :
    DbStage → Option PlayerDb
  | .saveIsolation => some (s.put c (.saving record .saveBegin written))
  | .saveBegin => some (s.put c (.saving record .saveUpsert written))
  | .saveUpsert => some (s.put c (.saving record .saveDeleteSkills
      { written with columns := playerUpsert (toSaveRequest record) }))
  | .saveDeleteSkills =>
    some (s.put c (.saving record .saveInsertSkills { written with skills := [] }))
  | .saveInsertSkills => some (s.put c (.saving record .saveCommit
      { written with skills := written.skills ++ (toSaveRequest record).ownedSkillIds }))
  | .saveCommit =>
    some { s.put c .idle with committed := some written, saves := record :: s.saves }
  | _ => none

def loadStatement (s : PlayerDb) (c : Nat) (f : InFlight) : Option PlayerDb :=
  match f.stage with
  | .playerRow =>
    match s.committed with
    | none => some (s.finish c (.ok none))
    | some stored =>
      match consumeRows f [stored.columns] with
      | .ok (some f) => some (s.put c (.loading { f with stage := .playerSkills }))
      | _ => some (s.finish c (.error "row decode failed"))
  | .playerSkills =>
    match consumeRows f s.skillRows with
    | .ok (some f) => some (s.finish c ((GameActorFactory.loadedRecord player f.result).map some))
    | _ => some (s.finish c (.error "row decode failed"))
  | _ => none

def readStatement (s : PlayerDb) (c : Nat) : Option DecodedPlayerRow → Option PlayerDb
  | none =>
    match s.committed with
    | none => some (s.finish c (.ok none))
    | some stored =>
      match decodePlayer player stored.columns with
      | .ok decoded => some (s.put c (.reading (some decoded)))
      | .error error => some (s.finish c (.error error))
  | some decoded => some (s.finish c ((decoded.complete s.skillRows).map some))

/-- The next statement of a connection. -/
def statement (s : PlayerDb) (c : Nat) : Option PlayerDb :=
  match s.connections[c]? with
  | some (.saving record stage written) => s.saveStatement c record written stage
  | some (.loading f) => s.loadStatement player c f
  | some (.reading decoded) => s.readStatement player c decoded
  | _ => none

end PlayerDb

inductive PlayerDbAction where
  | startSave (c : Nat) (record : PlayerRecord)
  | startLoad (c : Nat) (key : AwaitKey) (deadline : TimePoint)
  | startRead (c : Nat)
  | statement (c : Nat)
  /-- A statement fails: a transaction is rolled back, a load ends without a result. -/
  | fail (c : Nat)

/-- A record of the player, with the id of its Zone in its range. -/
def SavesFor (player : PlayerId) (record : PlayerRecord) : Prop :=
  record.player = player ∧ ∀ location ∈ record.lastLocation, location.zone < 2 ^ 64

instance (player : PlayerId) (record : PlayerRecord) : Decidable (SavesFor player record) :=
  inferInstanceAs (Decidable (_ ∧ _))

def playerDb (player : PlayerId) : Machine PlayerDb PlayerDbAction where
  init s := s.committed = none ∧ s.saves = [] ∧ s.outcomes = [] ∧ ∀ w ∈ s.connections, w = .idle
  step s
    | .startSave c record =>
      if s.connections[c]? = some .idle ∧ SavesFor player record then
        some (s.put c (.saving record .saveIsolation ⟨[], []⟩))
      else none
    | .startLoad c key deadline =>
      if s.connections[c]? = some .idle then
        some (s.put c (.loading (startedLoad key deadline player)))
      else none
    | .startRead c =>
      if s.connections[c]? = some .idle then some (s.put c (.reading none)) else none
    | .statement c => s.statement player c
    | .fail c => some (s.put c .idle)

/-! ## Reading a stored record -/

/-- The rows of a record. -/
def storedPlayer (record : PlayerRecord) : StoredPlayer where
  columns := playerUpsert (toSaveRequest record)
  skills := (toSaveRequest record).ownedSkillIds

theorem skillRows_storedPlayer (record : PlayerRecord) :
    (storedPlayer record).skillRows = record.skillLoadout.owned.map skillRow := by
  have hsorted : record.skillLoadout.owned.Pairwise (· ≤ ·) :=
    record.skillLoadout.sorted.imp Nat.le_of_lt
  show (record.skillLoadout.owned.insertionSort (· ≤ ·)).map skillRow = _
  rw [hsorted.insertionSort_eq]

theorem parseInteger_ok {low high v : Int} (field : String) (hlow : low ≤ v) (hhigh : v ≤ high) :
    parseInteger low high field (.value v) = .ok v := if_pos ⟨hlow, hhigh⟩

theorem parseUInt64_toNat (field : String) (value : UInt64) :
    parseUInt64 field (.value value.toNat) = .ok value := by
  have hlt := value.toNat_lt
  have hmax : uint64Max = 2 ^ 64 - 1 := rfl
  unfold parseUInt64
  rw [parseInteger_ok field (by omega) (by omega)]
  simp [Except.map]

theorem parseInt32_toInt (field : String) (value : Int32) :
    parseInt32 field (.value value.toInt) = .ok value := by
  have hle := value.le_toInt
  have hlt := value.toInt_lt
  have hlow : int32Min = -2 ^ 31 := rfl
  have hhigh : int32Max = 2 ^ 31 - 1 := rfl
  unfold parseInt32
  rw [parseInteger_ok field (by omega) (by omega)]
  simp [Except.map]

theorem parseUInt32_natCast (field : String) {value : Nat} (h : value ≤ uint32Max) :
    parseUInt32 field (.value value) = .ok value := by
  unfold parseUInt32
  rw [parseInteger_ok field (by omega) (by omega)]
  simp [Except.map]

/-- The blocking repository decodes the columns of a record. -/
theorem decodePlayer_upsert {record : PlayerRecord}
    (hzone : ∀ location ∈ record.lastLocation, location.zone < 2 ^ 64) :
    decodePlayer record.player (playerUpsert (toSaveRequest record)) =
      .ok ⟨{ record with skillLoadout := .initial }, record.skillLoadout.equipped⟩ := by
  have hequipped := parseUInt32_natCast "equipped_skill_id"
    (skill_le record.skillLoadout record.skillLoadout.equipped_mem)
  unfold decodePlayer playerUpsert toSaveRequest
  cases hlocation : record.lastLocation with
  | none =>
    simp only [Option.isSome_none, Bool.false_eq_true, if_false, ne_eq, not_true, or_self, if_true,
      bind, Except.bind, parseUInt64_toNat, hequipped]
  | some location =>
    have hlt : (location.zone : Int) < 2 ^ 64 := by exact_mod_cast hzone location hlocation
    have hid : parseInteger 0 uint64Max "zone_id" (.value location.zone) = .ok location.zone :=
      parseInteger_ok "zone_id" (Int.natCast_nonneg _) (Int.le_sub_one_of_lt hlt)
    simp [bind, Except.bind, parseUInt64_toNat, parseInt32_toInt, hequipped, hid]

/-- `DbClient` reads the columns of a record. -/
theorem consumeRows_columns (key : AwaitKey) (deadline : TimePoint) {record : PlayerRecord}
    (hzone : ∀ location ∈ record.lastLocation, location.zone < 2 ^ 64) :
    consumeRows (startedLoad key deadline record.player) [(storedPlayer record).columns] =
      .ok (some (withRow (startedLoad key deadline record.player)
        (storedRow (toSaveRequest record)))) := by
  have hrow : decodePlayerRow record.player (storedPlayer record).columns =
      some (storedRow (toSaveRequest record)) :=
    decodePlayerRow_upsert (zone_toSaveRequest hzone)
      (skill_le record.skillLoadout record.skillLoadout.equipped_mem) unlocated_toSaveRequest
  rw [consumeRows, consumeRow_row hrow]
  rfl

theorem mapM_skillRow {skills : List Nat} (h : ∀ skill ∈ skills, skill ≤ uint32Max) :
    (skills.map skillRow).mapM (fun row => parseUInt32 "skill_id" (row.headD .null)) =
      .ok skills := by
  induction skills with
  | nil => rfl
  | cons skill skills ih =>
    have hfirst := parseUInt32_natCast "skill_id" (h skill List.mem_cons_self)
    have hrest := ih fun other hother => h other (List.mem_cons_of_mem _ hother)
    rw [List.map_cons, List.mapM_cons, hrest]
    simp only [skillRow, List.headD_cons, hfirst, bind, Except.bind, pure, Except.pure]

/-- What the blocking repository makes of the rows of one record. -/
theorem complete_stored (record : PlayerRecord) :
    DecodedPlayerRow.complete
      ⟨{ record with skillLoadout := .initial }, record.skillLoadout.equipped⟩
      (storedPlayer record).skillRows = .ok record := by
  have hloadout := ofOwned_perm record.skillLoadout (List.Perm.refl _)
  unfold DecodedPlayerRow.complete
  rw [skillRows_storedPlayer, mapM_skillRow fun _ => skill_le record.skillLoadout]
  simp only [bind, Except.bind, hloadout]

/-! ## Runs -/

/-- What a connection may be doing, given what is committed. -/
def Work.Sound (player : PlayerId) (s : PlayerDb) : Work → Prop
  | .idle => True
  | .saving record stage written => SavesFor player record ∧
    (stage ∈ [.saveDeleteSkills, .saveInsertSkills, .saveCommit] →
      written.columns = playerUpsert (toSaveRequest record)) ∧
    (stage = .saveInsertSkills → written.skills = []) ∧
    (stage = .saveCommit → written.skills = (toSaveRequest record).ownedSkillIds)
  | .loading f => ∃ key deadline, f = startedLoad key deadline player ∨
    ∃ record ∈ s.saves, SavesFor player record ∧ s.committed = some (storedPlayer record) ∧
      f = { withRow (startedLoad key deadline player) (storedRow (toSaveRequest record)) with
        stage := .playerSkills }
  | .reading none => True
  | .reading (some decoded) =>
    ∃ record ∈ s.saves, SavesFor player record ∧ s.committed = some (storedPlayer record) ∧
      decoded = ⟨{ record with skillLoadout := .initial }, record.skillLoadout.equipped⟩

/-- No load has mixed two saves. -/
structure PlayerDb.Sound (player : PlayerId) (s : PlayerDb) : Prop where
  committed : s.committed = none ∨
    ∃ record ∈ s.saves, SavesFor player record ∧ s.committed = some (storedPlayer record)
  work : ∀ w ∈ s.connections, w.Sound player s
  outcomes : ∀ outcome ∈ s.outcomes, outcome = .ok none ∨
    ∃ record ∈ s.saves, outcome = .ok (some record)

/-- A save does not commit while a load is halfway. -/
def commitsApart (s : PlayerDb) : PlayerDbAction → Prop
  | .statement c =>
    match s.connections[c]? with
    | some (.saving _ .saveCommit _) => ∀ w ∈ s.connections, w.isHalfway = false
    | _ => True
  | _ => True

instance (s : PlayerDb) : DecidablePred (commitsApart s)
  | .statement c => by
    unfold commitsApart
    dsimp only
    split <;> infer_instance
  | .startSave _ _ => .isTrue trivial
  | .startLoad _ _ _ => .isTrue trivial
  | .startRead _ => .isTrue trivial
  | .fail _ => .isTrue trivial

namespace PlayerDb.Sound

variable {player : PlayerId} {s : PlayerDb} {c : Nat} {work : Work}

/-- A connection goes on, and nothing is committed. -/
theorem put (h : Sound player s) (hwork : work.Sound player s) : Sound player (s.put c work) := by
  refine ⟨h.committed, ?_, h.outcomes⟩
  intro w hw
  rcases List.mem_or_eq_of_mem_set hw with hold | rfl
  · exact h.work w hold
  · exact hwork

theorem finish (h : Sound player s) {outcome : Except String (Option PlayerRecord)}
    (houtcome : outcome = .ok none ∨ ∃ record ∈ s.saves, outcome = .ok (some record)) :
    Sound player (s.finish c outcome) := by
  have hidle : Sound player (s.put c .idle) := h.put trivial
  refine ⟨hidle.committed, hidle.work, ?_⟩
  exact List.forall_mem_cons.2 ⟨houtcome, h.outcomes⟩

/-- The record of a halfway load is the one that is committed. -/
theorem skillRows_eq {record : PlayerRecord} (h : s.committed = some (storedPlayer record)) :
    s.skillRows = record.skillLoadout.owned.map skillRow := by
  unfold skillRows
  rw [h]
  exact skillRows_storedPlayer record

theorem saveStatement (h : Sound player s) {record : PlayerRecord} {stage : DbStage}
    {written : StoredPlayer} (hwork : Work.Sound player s (.saving record stage written))
    (hapart : stage = .saveCommit → ∀ w ∈ s.connections, w.isHalfway = false) {s' : PlayerDb}
    (hs : s.saveStatement c record written stage = some s') : Sound player s' := by
  obtain ⟨hrecord, hcolumns, hnone, hskills⟩ := hwork
  cases stage with
  | saveIsolation =>
    cases hs
    exact h.put ⟨hrecord, by simp, nofun, nofun⟩
  | saveBegin =>
    cases hs
    exact h.put ⟨hrecord, by simp, nofun, nofun⟩
  | saveUpsert =>
    cases hs
    exact h.put ⟨hrecord, fun _ => rfl, nofun, nofun⟩
  | saveDeleteSkills =>
    cases hs
    exact h.put ⟨hrecord, fun _ => hcolumns (by simp), fun _ => rfl, nofun⟩
  | saveInsertSkills =>
    cases hs
    refine h.put ⟨hrecord, fun _ => hcolumns (by simp), nofun, fun _ => ?_⟩
    dsimp only
    rw [hnone rfl, List.nil_append]
  | saveCommit =>
    cases hs
    have hwritten : written = storedPlayer record := by
      obtain ⟨columns, skills⟩ := written
      simp only [storedPlayer, StoredPlayer.mk.injEq]
      exact ⟨hcolumns (by simp), hskills rfl⟩
    refine ⟨.inr ⟨record, List.mem_cons_self, hrecord, congrArg some hwritten⟩, ?_, ?_⟩
    · intro w hw
      rcases List.mem_or_eq_of_mem_set hw with hold | rfl
      · have hsound := h.work w hold
        have hstart := hapart rfl w hold
        -- a load that has not begun reads what is committed now
        cases w with
        | idle => trivial
        | saving => exact hsound
        | loading f =>
          obtain ⟨key, deadline, rfl | ⟨_, _, _, _, rfl⟩⟩ := hsound
          · exact ⟨key, deadline, .inl rfl⟩
          · cases hstart
        | reading decoded =>
          cases decoded with
          | none => trivial
          | some decoded => cases hstart
      · trivial
    · intro outcome houtcome
      rcases h.outcomes outcome houtcome with hnobody | ⟨other, hother, heq⟩
      · exact .inl hnobody
      · exact .inr ⟨other, List.mem_cons_of_mem _ hother, heq⟩
  | playerRow => cases hs
  | playerSkills => cases hs
  | saveRollback => cases hs

-- `f` is a variable here: the row of a load in progress would be decoded by the unifier
theorem loadStatement_row {f read : InFlight} {stored : StoredPlayer}
    (hstage : f.stage = .playerRow) (hcommitted : s.committed = some stored)
    (hread : consumeRows f [stored.columns] = .ok (some read)) :
    s.loadStatement player c f =
      some (s.put c (.loading { read with stage := .playerSkills })) := by
  unfold PlayerDb.loadStatement
  rw [hstage, hcommitted]
  dsimp only
  rw [hread]

theorem loadStatement_skills {f read : InFlight} (hstage : f.stage = .playerSkills)
    (hread : consumeRows f s.skillRows = .ok (some read)) :
    s.loadStatement player c f =
      some (s.finish c ((GameActorFactory.loadedRecord player read.result).map some)) := by
  unfold PlayerDb.loadStatement
  rw [hstage]
  dsimp only
  rw [hread]

theorem loadStatement (h : Sound player s) {f : InFlight}
    (hwork : Work.Sound player s (.loading f)) {s' : PlayerDb}
    (hs : s.loadStatement player c f = some s') : Sound player s' := by
  obtain ⟨key, deadline, rfl | ⟨record, hsaved, hrecord, hcommitted, rfl⟩⟩ := hwork
  · rcases h.committed with hnone | ⟨record, hsaved, hrecord, hcommitted⟩
    · unfold PlayerDb.loadStatement at hs
      rw [hnone] at hs
      cases hs
      exact h.finish (.inl rfl)
    · obtain ⟨rfl, hzone⟩ := hrecord
      rw [loadStatement_row rfl hcommitted (consumeRows_columns key deadline hzone)] at hs
      cases hs
      exact h.put ⟨key, deadline, .inr ⟨record, hsaved, ⟨rfl, hzone⟩, hcommitted, rfl⟩⟩
  · obtain ⟨rfl, hzone⟩ := hrecord
    have hrows := skillRows_eq hcommitted
    have hread := consumeRows_skills record.skillLoadout.owned
      (fun skill hskill => skill_le record.skillLoadout hskill)
      { withRow (startedLoad key deadline record.player) (storedRow (toSaveRequest record)) with
        stage := .playerSkills } rfl
    rw [← hrows] at hread
    rw [loadStatement_skills rfl hread] at hs
    cases hs
    refine h.finish (.inr ⟨record, hsaved, ?_⟩)
    have hresult := loadedRecord_stored record (List.Perm.refl record.skillLoadout.owned)
    exact congrArg (Except.map some) hresult

theorem readStatement (h : Sound player s) {decoded : Option DecodedPlayerRow}
    (hwork : Work.Sound player s (.reading decoded)) {s' : PlayerDb}
    (hs : s.readStatement player c decoded = some s') : Sound player s' := by
  cases decoded with
  | none =>
    unfold PlayerDb.readStatement at hs
    rcases h.committed with hnone | ⟨record, hsaved, hrecord, hcommitted⟩
    · rw [hnone] at hs
      cases hs
      exact h.finish (.inl rfl)
    · obtain ⟨rfl, hzone⟩ := hrecord
      rw [hcommitted] at hs
      dsimp only [storedPlayer] at hs
      rw [decodePlayer_upsert hzone] at hs
      cases hs
      exact h.put ⟨record, hsaved, ⟨rfl, hzone⟩, hcommitted, rfl⟩
  | some decoded =>
    obtain ⟨record, hsaved, -, hcommitted, rfl⟩ := hwork
    cases hs
    refine h.finish (.inr ⟨record, hsaved, ?_⟩)
    have hrows : s.skillRows = (storedPlayer record).skillRows := by
      unfold skillRows
      rw [hcommitted]
    rw [hrows, complete_stored]
    rfl

/-- **Every step keeps the loads apart from the commits.** -/
theorem step (h : Sound player s) {a : PlayerDbAction} (hguard : commitsApart s a) {s' : PlayerDb}
    (hs : (playerDb player).step s a = some s') : Sound player s' := by
  cases a with
  | startSave c record =>
    obtain ⟨⟨-, hrecord⟩, hs⟩ := Option.ite_none_right_eq_some.1 hs
    cases hs
    exact h.put ⟨hrecord, by simp, nofun, nofun⟩
  | startLoad c key deadline =>
    obtain ⟨-, hs⟩ := Option.ite_none_right_eq_some.1 hs
    cases hs
    exact h.put ⟨key, deadline, .inl rfl⟩
  | startRead c =>
    obtain ⟨-, hs⟩ := Option.ite_none_right_eq_some.1 hs
    cases hs
    exact h.put trivial
  | statement c =>
    have hs : s.statement player c = some s' := hs
    unfold PlayerDb.statement at hs
    split at hs
    · next record stage written hc =>
      refine h.saveStatement (h.work _ (List.mem_of_getElem? hc)) ?_ hs
      intro hcommit
      subst hcommit
      unfold commitsApart at hguard
      dsimp only at hguard
      rw [hc] at hguard
      exact hguard
    · next f hc => exact h.loadStatement (h.work _ (List.mem_of_getElem? hc)) hs
    · next decoded hc => exact h.readStatement (h.work _ (List.mem_of_getElem? hc)) hs
    · cases hs
  | fail c =>
    cases hs
    exact h.put trivial

end PlayerDb.Sound

/-- **A load does not mix two saves**, if no save commits between its two statements. In every
run of that kind, whatever the connections do, each load has found no player or has come to a
record that was committed as a whole. None is refused. -/
theorem load_of_one_save {player : PlayerId} {s : PlayerDb}
    (h : (playerDb player).Reach commitsApart s) :
    ∀ outcome ∈ s.outcomes, outcome = .ok none ∨
      ∃ record ∈ s.saves, outcome = .ok (some record) := by
  have hsound : s.Sound player := by
    refine h.invariant (P := PlayerDb.Sound player) ?_ ?_
    · rintro s ⟨hcommitted, hsaves, houtcomes, hidle⟩
      refine ⟨.inl hcommitted, ?_, ?_⟩
      · intro w hw
        rw [hidle w hw]
        trivial
      · rw [houtcomes]
        exact List.forall_mem_nil _
    · intro s a s' _ hsound hguard hs
      exact hsound.step hguard hs
  exact hsound.outcomes

/-- A new player, who owns the first skill. -/
def beginner : PlayerRecord where
  player := 7

/-- The same player after they have bought the second skill and equipped it. -/
def buyer : PlayerRecord where
  player := 7
  currencyBalance := 500
  skillLoadout := skilledRecord.skillLoadout

/-- A player with the second skill who has not paid for it. -/
def unpaid : PlayerRecord where
  player := 7
  skillLoadout :=
    { skilledRecord.skillLoadout with
      equipped := slash
      equipped_mem := by decide }

def threeConnections : PlayerDb where
  connections := [.idle, .idle, .idle]

theorem init_threeConnections (player : PlayerId) : (playerDb player).init threeConnections :=
  ⟨rfl, rfl, rfl, by decide⟩

/-- A save on the first connection. -/
def saved (record : PlayerRecord) : List PlayerDbAction :=
  .startSave 0 record :: List.replicate 6 (.statement 0)

/-- The second record is saved between the two statements of both loads. -/
def savedBetween (first second : PlayerRecord) : List PlayerDbAction :=
  saved first ++
    [.startLoad 1 ⟨⟨.player, 7⟩, 1, 1⟩ 0, .startRead 2, .statement 1, .statement 2] ++
    saved second ++ [.statement 1, .statement 2]

/-- **Loads that mix two saves.** A player buys a skill and equips it between the two statements
of a load: the load comes to a record that was never saved, with the skill owned and its price
not paid. With the saves the other way around the player is refused. -/
theorem load_of_two_saves :
    (∃ s, (playerDb 7).Reach (fun _ _ => True) s ∧ s.saves = [buyer, beginner] ∧
      s.outcomes = [.ok (some unpaid), .ok (some unpaid)]) ∧
    ∃ s, (playerDb 7).Reach (fun _ _ => True) s ∧ s.saves = [beginner, buyer] ∧
      s.outcomes = [.error "The equipped skill ID must be owned",
        .error "The equipped skill ID must be owned"] := by
  constructor
  · obtain ⟨s, hs, ht⟩ := (playerDb 7).exists_reach_of_replay (fun _ _ => True)
      (init_threeConnections 7) (savedBetween beginner buyer)
      (fun s => s.saves = [buyer, beginner] ∧
        s.outcomes = [.ok (some unpaid), .ok (some unpaid)]) (by decide +kernel)
    exact ⟨s, hs, of_decide_eq_true ht⟩
  · obtain ⟨s, hs, ht⟩ := (playerDb 7).exists_reach_of_replay (fun _ _ => True)
      (init_threeConnections 7) (savedBetween buyer beginner)
      (fun s => s.saves = [beginner, buyer] ∧
        s.outcomes = [.error "The equipped skill ID must be owned",
          .error "The equipped skill ID must be owned"]) (by decide +kernel)
    exact ⟨s, hs, of_decide_eq_true ht⟩

/-- A load after a save, and one before. -/
theorem load_of_one_save_buyer :
    ∃ s, (playerDb 7).Reach commitsApart s ∧ s.outcomes = [.ok (some buyer), .ok none] ∧
      ∀ outcome ∈ s.outcomes, outcome = .ok none ∨
        ∃ record ∈ s.saves, outcome = .ok (some record) := by
  obtain ⟨s, hs, ht⟩ := (playerDb 7).exists_reach_of_replay commitsApart
    (init_threeConnections 7)
    ([.startRead 2, .statement 2] ++ saved buyer ++
      [.startLoad 1 ⟨⟨.player, 7⟩, 1, 1⟩ 0, .statement 1, .statement 1])
    (fun s => s.outcomes = [.ok (some buyer), .ok none]) (by decide +kernel)
  exact ⟨s, hs, of_decide_eq_true ht, load_of_one_save hs⟩

end Snf.Adapter
