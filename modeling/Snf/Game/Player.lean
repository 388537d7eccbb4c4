import Mathlib

/-! # The Player aggregate

`PlayerRecord`, `SkillLoadout` and `Player` of the game domain. The Player is
the unit of ownership of the persistent state: a command is handled against the
state, `takeDirtySnapshot` turns the dirty components into a record, and a save
that did not go through puts the components back.

Counters and balances are `UInt64`, as in the source. Ids are plain naturals,
since they are only compared. The source throws on a broken precondition; the
model returns the text of the exception.
-/

namespace Snf.Game

abbrev PlayerId := Nat
abbrev ZoneId := Nat
abbrev RoomId := Nat
abbrev SkillId := Nat
abbrev ProductId := Nat
abbrev PurchaseIdempotencyKey := Nat

structure ZonePosition where
  x : Int32 := 0
  y : Int32 := 0
deriving DecidableEq, Repr

structure PlayerLocation where
  zone : ZoneId
  position : ZonePosition
deriving DecidableEq, Repr

/-! ## Skills -/

def slash : SkillId := 1
def arcaneBolt : SkillId := 2

inductive AttackBehavior where
  | area (attackPercent : UInt64) (range : UInt32)
  | homingProjectile (attackPercent : UInt64) (acquisitionRange speedPerTick hitRange : UInt32)
      (lifetimeMs : Nat)
deriving DecidableEq, Repr

structure SkillDefinition where
  skillId : SkillId
  cooldownMs : Nat
  behavior : AttackBehavior
deriving DecidableEq, Repr

def findSkill (skill : SkillId) : Option SkillDefinition :=
  if skill = slash then some { skillId := slash, cooldownMs := 1000, behavior := .area 100 12 }
  else if skill = arcaneBolt then
    some { skillId := arcaneBolt, cooldownMs := 1500, behavior := .homingProjectile 160 40 4 1 3000 }
  else none

/-- The owned skills are strictly sorted and known, and the equipped one is owned:
the checks of the source's constructor. -/
structure SkillLoadout where
  owned : List SkillId
  equipped : SkillId
  sorted : owned.Pairwise (· < ·)
  known : ∀ k ∈ owned, (findSkill k).isSome
  equipped_mem : equipped ∈ owned
deriving DecidableEq

namespace SkillLoadout

/-- The loadout of a new Player. -/
def initial : SkillLoadout where
  owned := [slash]
  equipped := slash
  sorted := by simp
  known := by simp [findSkill]
  equipped_mem := by simp

inductive EquipSkillResult where
  | equipped | alreadyEquipped | skillNotOwned | unknownSkill
deriving DecidableEq, Repr

inductive AddOwnedSkillResult where
  | added | alreadyOwned | unknownSkill
deriving DecidableEq, Repr

/-- Insertion at the position `lower_bound` finds. -/
def addOwnedSkillId (l : SkillLoadout) (skill : SkillId) : AddOwnedSkillResult × SkillLoadout :=
  if hk : (findSkill skill).isSome then
    if hm : skill ∈ l.owned then (.alreadyOwned, l)
    else
      (.added,
        { owned := l.owned.orderedInsert (· ≤ ·) skill
          equipped := l.equipped
          sorted := by
            have hle : l.owned.Pairwise (· ≤ ·) := l.sorted.imp Nat.le_of_lt
            have hnd : (l.owned.orderedInsert (· ≤ ·) skill).Nodup :=
              (List.perm_orderedInsert (· ≤ ·) skill l.owned).nodup_iff.2
                (List.nodup_cons.2 ⟨hm, l.sorted.imp Nat.ne_of_lt⟩)
            exact ((hle.orderedInsert skill).and hnd).imp
              fun h => Nat.lt_of_le_of_ne h.1 h.2
          known := by
            intro k hkm
            rcases List.mem_cons.1 ((List.perm_orderedInsert _ skill l.owned).mem_iff.1 hkm) with
              rfl | hin
            · exact hk
            · exact l.known k hin
          equipped_mem := (List.perm_orderedInsert _ skill l.owned).mem_iff.2
            (List.mem_cons_of_mem _ l.equipped_mem) })
  else (.unknownSkill, l)

def equipSkillId (l : SkillLoadout) (skill : SkillId) : EquipSkillResult × SkillLoadout :=
  if (findSkill skill).isNone then (.unknownSkill, l)
  else if hm : skill ∈ l.owned then
    if l.equipped = skill then (.alreadyEquipped, l)
    else (.equipped, { l with equipped := skill, equipped_mem := hm })
  else (.skillNotOwned, l)

/-- The loop over the sorted ids: the first unknown or repeated one is refused. -/
def ownedError : Option SkillId → List SkillId → Option String
  | _, [] => none
  | previous, skill :: rest =>
    if (findSkill skill).isNone then some "A SkillLoadout contains an unknown skill ID"
    else if previous = some skill then some "A SkillLoadout contains a duplicate skill ID"
    else ownedError (some skill) rest

theorem known_of_ownedError (owned : List SkillId) (previous : Option SkillId)
    (h : ownedError previous owned = none) : ∀ k ∈ owned, (findSkill k).isSome := by
  induction owned generalizing previous with
  | nil => simp
  | cons skill rest ih =>
    simp only [ownedError] at h
    split at h
    · cases h
    · rename_i hknown
      split at h
      · cases h
      · intro k hk
        rcases List.mem_cons.1 hk with rfl | hin
        · exact Option.isSome_iff_ne_none.2 (mt Option.isNone_iff_eq_none.2 hknown)
        · exact ih _ h k hin

/-- On a sorted list it is enough to compare each id with the one before it. -/
theorem sorted_of_ownedError (owned : List SkillId) (previous : Option SkillId)
    (hs : owned.Pairwise (· ≤ ·)) (hp : ∀ p ∈ previous, ∀ k ∈ owned, p ≤ k)
    (h : ownedError previous owned = none) :
    owned.Pairwise (· < ·) ∧ ∀ p ∈ previous, ∀ k ∈ owned, p < k := by
  induction owned generalizing previous with
  | nil => simp
  | cons skill rest ih =>
    simp only [ownedError] at h
    split at h
    · cases h
    · split at h
      · cases h
      · rename_i hne
        obtain ⟨hhead, htail⟩ := List.pairwise_cons.1 hs
        obtain ⟨hrest, hlt⟩ := ih (some skill) htail
          (fun p hpm => Option.mem_some.1 hpm ▸ hhead) h
        have hlt : ∀ k ∈ rest, skill < k := hlt skill rfl
        refine ⟨List.pairwise_cons.2 ⟨hlt, hrest⟩, fun p hpm k hk => ?_⟩
        have hskill : p < skill := Nat.lt_of_le_of_ne (hp p hpm skill List.mem_cons_self)
          (fun he => hne (he ▸ hpm))
        rcases List.mem_cons.1 hk with rfl | hin
        · exact hskill
        · exact hskill.trans (hlt k hin)

/-- The constructor from the ids of a persisted row. -/
def ofOwned (owned : List SkillId) (equipped : SkillId) : Except String SkillLoadout :=
  if owned = [] then .error "A SkillLoadout must own at least one skill ID"
  else
    match h : ownedError none (owned.insertionSort (· ≤ ·)) with
    | some error => .error error
    | none =>
      if hm : equipped ∈ owned.insertionSort (· ≤ ·) then
        .ok
          { owned := owned.insertionSort (· ≤ ·)
            equipped := equipped
            sorted := (sorted_of_ownedError _ none (owned.pairwise_insertionSort (· ≤ ·))
              (by simp) h).1
            known := known_of_ownedError _ _ h
            equipped_mem := hm }
      else .error "The equipped skill ID must be owned"

end SkillLoadout

/-! ## Records and purchases -/

def initialCurrencyBalance : UInt64 := 1000

structure PlayerRecord where
  player : PlayerId
  handledCommandCount : UInt64 := 0
  lastLocation : Option PlayerLocation := none
  currencyBalance : UInt64 := initialCurrencyBalance
  purchasedItemCount : UInt64 := 0
  streetExperience : UInt64 := 0
  skillLoadout : SkillLoadout := .initial
deriving DecidableEq

inductive PurchaseStatus where
  | committed | insufficientFunds | productNotFound | inventoryCapacityExceeded
  | idempotencyConflict | idempotencyCapacityExceeded | unavailable | alreadyOwned
deriving DecidableEq, Repr

structure PurchaseTransactionResult where
  status : PurchaseStatus := .unavailable
  player : PlayerId
  idempotencyKey : PurchaseIdempotencyKey
  product : ProductId
  currencyBalance : UInt64 := 0
  purchasedItemCount : UInt64 := 0
  replayed : Bool := false
deriving DecidableEq, Repr

inductive ProductReward where
  | addPurchasedItemCount (itemCount : UInt64)
  | addOwnedSkill (skill : SkillId)
deriving DecidableEq, Repr

structure ProductDefinition where
  product : ProductId
  price : UInt64
  reward : ProductReward
deriving DecidableEq, Repr

def basicProduct : ProductId := 1
def arcaneBoltProduct : ProductId := 2

def findProduct (product : ProductId) : Option ProductDefinition :=
  if product = basicProduct then
    some { product := basicProduct, price := 100, reward := .addPurchasedItemCount 1 }
  else if product = arcaneBoltProduct then
    some { product := arcaneBoltProduct, price := 500, reward := .addOwnedSkill arcaneBolt }
  else none

/-! ## State -/

/-- A set of state components, the bit mask of the source. -/
structure PlayerStateComponentMask where
  session : Bool := false
  economy : Bool := false
  progression : Bool := false
  skills : Bool := false
deriving DecidableEq, Repr

namespace PlayerStateComponentMask

def union (a b : PlayerStateComponentMask) : PlayerStateComponentMask where
  session := a.session || b.session
  economy := a.economy || b.economy
  progression := a.progression || b.progression
  skills := a.skills || b.skills

/-- A mask with a component that a save writes. -/
def flushable (a : PlayerStateComponentMask) : Bool := a.economy || a.progression || a.skills

end PlayerStateComponentMask

structure PlayerState where
  identity : Option PlayerId := none
  handledCommandCount : UInt64 := 0
  lastLocation : Option PlayerLocation := none
  currencyBalance : UInt64 := initialCurrencyBalance
  purchasedItemCount : UInt64 := 0
  streetExperience : UInt64 := 0
  skillLoadout : SkillLoadout := .initial
  dirtyComponents : PlayerStateComponentMask := {}
deriving DecidableEq

structure PurchaseEvidence where
  product : ProductId
  result : PurchaseTransactionResult
deriving DecidableEq, Repr

def defaultPurchaseIdempotencyCapacity : Nat := 1024

structure Player where
  state : PlayerState := {}
  maxPurchaseIdempotencyRecords : Nat := defaultPurchaseIdempotencyCapacity
  purchaseEvidence : AList (fun _ : PurchaseIdempotencyKey => PurchaseEvidence) := ∅
deriving DecidableEq

/-! ## Commands and responses -/

inductive PlayerCommand where
  | ping (payload : List UInt8)
  | authenticate (player : PlayerId)
  | purchase (idempotencyKey : PurchaseIdempotencyKey) (product : ProductId)
  | joinRoom (room : RoomId)
  | equipSkill (skill : SkillId)
deriving DecidableEq, Repr

inductive EquipSkillStatus where
  | equipped | alreadyEquipped | skillNotOwned | unknownSkill
deriving DecidableEq, Repr

inductive PlayerResponse where
  | pong (payload : List UInt8)
  | authenticated (player : PlayerId)
  | purchase (result : PurchaseTransactionResult)
  | equipSkill (status : EquipSkillStatus) (equipped : SkillId)
deriving DecidableEq, Repr

structure CombatStats where
  attack : Nat
  health : Nat
deriving DecidableEq, Repr

def streetLevel (experience : UInt64) : Nat := min (experience.toNat / 1000 + 1) 30

/-- `grown`: a tenth of the base for each level gained. -/
def grown (base levelsGained : Nat) : Nat := base + levelsGained * base * 1 / 10

def combatStats (level : Nat) : CombatStats :=
  let levelsGained := max 1 (min level 30) - 1
  { attack := grown 10 levelsGained, health := grown 100 levelsGained }

structure RoomJoinRequest where
  room : RoomId
  stats : CombatStats
  equippedSkillId : SkillId := slash
deriving DecidableEq, Repr

structure PlayerResult where
  responses : List PlayerResponse := []
  roomJoin : Option RoomJoinRequest := none
deriving DecidableEq, Repr

namespace Player

/-- The constructor with an identity and the default evidence capacity. -/
def ofIdentity (identity : Option PlayerId) : Player := { state := { identity := identity } }

/-- The constructor with an evidence capacity. -/
def create (identity : Option PlayerId) (maxPurchaseIdempotencyRecords : Nat) :
    Except String Player :=
  if maxPurchaseIdempotencyRecords = 0 then
    .error "Purchase idempotency capacity must be positive"
  else
    .ok
      { state := { identity := identity }
        maxPurchaseIdempotencyRecords := maxPurchaseIdempotencyRecords }

def restore (p : Player) (record : PlayerRecord) : Except String Player :=
  if p.state.identity ≠ some record.player then
    .error "Player record identity does not match the Actor"
  else
    .ok { p with
      state :=
        { identity := p.state.identity
          handledCommandCount := record.handledCommandCount
          lastLocation := record.lastLocation
          currencyBalance := record.currencyBalance
          purchasedItemCount := record.purchasedItemCount
          streetExperience := record.streetExperience
          skillLoadout := record.skillLoadout
          dirtyComponents := {} }
      purchaseEvidence := ∅ }

def setLastLocation (p : Player) (location : Option PlayerLocation) : Player :=
  { p with state := { p.state with
      lastLocation := location
      dirtyComponents := p.state.dirtyComponents.union { session := true } } }

def maxUInt64 : UInt64 := 0xFFFFFFFFFFFFFFFF

/-- The sum saturates. -/
def grantStreetExperience (p : Player) (experience : UInt64) : Player :=
  { p with state := { p.state with
      streetExperience :=
        if experience.toNat > maxUInt64.toNat - p.state.streetExperience.toNat then maxUInt64
        else p.state.streetExperience + experience
      dirtyComponents := p.state.dirtyComponents.union { progression := true } } }

def hasFlushableDirtyState (p : Player) : Bool := p.state.dirtyComponents.flushable

def restoreDirtyComponents (p : Player) (components : PlayerStateComponentMask) : Player :=
  { p with state := { p.state with
      dirtyComponents := p.state.dirtyComponents.union components } }

def snapshot (p : Player) : Except String PlayerRecord :=
  match p.state.identity with
  | none => .error "A provisional Player actor has no persistent snapshot"
  | some player =>
    .ok
      { player := player
        handledCommandCount := p.state.handledCommandCount
        lastLocation := p.state.lastLocation
        currencyBalance := p.state.currencyBalance
        purchasedItemCount := p.state.purchasedItemCount
        streetExperience := p.state.streetExperience
        skillLoadout := p.state.skillLoadout }

/-- The record to save, if a component that a save writes is dirty, with the mask
of the components it clears. -/
def takeDirtySnapshot (p : Player) :
    Except String (Option PlayerRecord × PlayerStateComponentMask × Player) :=
  if p.hasFlushableDirtyState then do
    let record ← p.snapshot
    .ok (some record, p.state.dirtyComponents, { p with state := { p.state with
      dirtyComponents := {} } })
  else .ok (none, {}, p)

/-! ## Command handling -/

/-- What a product's reward makes of balance, item count and loadout: the status,
the new values and whether the skills changed. -/
def applyReward (definition : ProductDefinition) (balance itemCount : UInt64)
    (loadout : SkillLoadout) : PurchaseStatus × UInt64 × UInt64 × SkillLoadout × Bool :=
  match definition.reward with
  | .addPurchasedItemCount count =>
    if balance < definition.price then
      (.insufficientFunds, balance, itemCount, loadout, false)
    else if itemCount > maxUInt64 - count then
      (.inventoryCapacityExceeded, balance, itemCount, loadout, false)
    else (.committed, balance - definition.price, itemCount + count, loadout, false)
  | .addOwnedSkill skill =>
    match loadout.addOwnedSkillId skill with
    | (.alreadyOwned, next) => (.alreadyOwned, balance, itemCount, next, false)
    | (.unknownSkill, next) => (.productNotFound, balance, itemCount, next, false)
    | (.added, next) =>
      if balance < definition.price then
        (.insufficientFunds, balance, itemCount, next, false)
      else (.committed, balance - definition.price, itemCount, next, true)

def handlePurchase (p : Player) (player : PlayerId) (key : PurchaseIdempotencyKey)
    (product : ProductId) : PurchaseTransactionResult × Player :=
  let result : PurchaseTransactionResult :=
    { status := .productNotFound, player := player, idempotencyKey := key, product := product
      currencyBalance := p.state.currencyBalance
      purchasedItemCount := p.state.purchasedItemCount, replayed := false }
  match p.purchaseEvidence.lookup key with
  | some existing =>
    if existing.product ≠ product then ({ result with status := .idempotencyConflict }, p)
    else
      ({ existing.result with
          currencyBalance := p.state.currencyBalance
          purchasedItemCount := p.state.purchasedItemCount
          replayed := true }, p)
  | none =>
    match findProduct product with
    | none => ({ result with status := .productNotFound }, p)
    | some definition =>
      if p.purchaseEvidence.entries.length ≥ p.maxPurchaseIdempotencyRecords then
        ({ result with status := .idempotencyCapacityExceeded }, p)
      else
        let (status, nextBalance, nextItemCount, nextLoadout, skillsChanged) :=
          applyReward definition p.state.currencyBalance p.state.purchasedItemCount
            p.state.skillLoadout
        let result := { result with
          status := status, currencyBalance := nextBalance, purchasedItemCount := nextItemCount }
        let p := { p with purchaseEvidence :=
          p.purchaseEvidence.insert key { product := product, result := result } }
        if status = .committed then
          (result, { p with state := { p.state with
            currencyBalance := nextBalance
            purchasedItemCount := nextItemCount
            skillLoadout := if skillsChanged then nextLoadout else p.state.skillLoadout
            dirtyComponents := p.state.dirtyComponents.union
              { economy := true, skills := skillsChanged } } })
        else (result, p)

def equipSkillStatus : SkillLoadout.EquipSkillResult → EquipSkillStatus
  | .equipped => .equipped
  | .alreadyEquipped => .alreadyEquipped
  | .skillNotOwned => .skillNotOwned
  | .unknownSkill => .unknownSkill

def handleCommand (p : Player) : PlayerCommand → Except String (PlayerResult × Player)
  | .ping payload => .ok ({ responses := [.pong payload] }, p)
  | .authenticate player =>
    if p.state.identity ≠ some player then
      .error "AuthenticateCommand reached a different Player actor"
    else .ok ({ responses := [.authenticated player] }, p)
  | .joinRoom room =>
    match p.state.identity with
    | none => .error "JoinRoomRequest reached a provisional Player actor"
    | some _ =>
      .ok ({ roomJoin := some
              { room := room
                stats := combatStats (streetLevel p.state.streetExperience)
                equippedSkillId := p.state.skillLoadout.equipped } }, p)
  | .equipSkill skill =>
    match p.state.identity with
    | none => .error "EquipSkillCommand reached a provisional Player actor"
    | some _ =>
      let (result, loadout) := p.state.skillLoadout.equipSkillId skill
      let p := { p with state := { p.state with
        skillLoadout := loadout
        dirtyComponents := p.state.dirtyComponents.union
          { skills := result = .equipped } } }
      .ok ({ responses := [.equipSkill (equipSkillStatus result) loadout.equipped] }, p)
  | .purchase key product =>
    match p.state.identity with
    | none => .error "PurchaseCommand reached a provisional Player actor"
    | some player =>
      let (result, p) := p.handlePurchase player key product
      .ok ({ responses := [.purchase result] }, p)

/-- Every handled command is counted, refused purchases included. -/
def handle (p : Player) (command : PlayerCommand) : Except String (PlayerResult × Player) := do
  let (result, p) ← p.handleCommand command
  .ok (result, { p with state := { p.state with
    handledCommandCount := p.state.handledCommandCount + 1 } })

end Player

end Snf.Game
