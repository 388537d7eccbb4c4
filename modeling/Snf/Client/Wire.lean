import Snf.Lib.Packing
import Snf.Adapter.GameRequestSink

/-! # The wire format of the client

`snf_wire.py` of the game client: the frames, the payloads of the requests it sends and of the
replies and battle digests it receives. Its integers have no width, so they are `Int` here, and
packing a value that its field cannot hold is an error of the `struct` module.
-/

namespace Snf.Client

open Snf.Game Snf.Lib
open Snf.Adapter (MessageType)

/-- What `struct` raises. -/
def structError : String := "struct.error"

def structPack (format : Format) (values : List Int) : Except String (List UInt8) :=
  match format.pack values with
  | some bytes => .ok bytes
  | none => .error structError

theorem structPack_of_pack {format : Format} {values : List Int} {bytes : List UInt8}
    (h : format.pack values = some bytes) : structPack format values = .ok bytes := by
  unfold structPack
  rw [h]

/-! ## Frames -/

def minBodySize : Nat := 6
def maxBodySize : Nat := 64 * 1024

/-- The values of the enumeration `MessageType`. -/
def messageValue : MessageType → Int
  | .ping => 1 | .pong => 2 | .authenticate => 3 | .authenticated => 4 | .enterZone => 5
  | .zoneEntered => 6 | .move => 7 | .moved => 8 | .leaveZone => 9 | .zoneLeft => 10
  | .purchase => 11 | .purchaseResult => 12 | .roomJoin => 17 | .roomJoined => 18
  | .battleStart => 19 | .battleStarted => 20 | .battleCleared => 21 | .roomLeave => 22
  | .roomLeft => 23 | .returnedToZone => 24 | .useSkill => 25 | .skillApplied => 26
  | .battleFailed => 27 | .battleDigest => 28 | .skillAcknowledged => 29 | .setMoveIntent => 30
  | .moveAcknowledged => 31 | .equipSkill => 32 | .equipSkillResult => 33

def messageTypes : List MessageType :=
  [.ping, .pong, .authenticate, .authenticated, .enterZone, .zoneEntered, .move, .moved,
    .leaveZone, .zoneLeft, .purchase, .purchaseResult, .roomJoin, .roomJoined, .battleStart,
    .battleStarted, .battleCleared, .roomLeave, .roomLeft, .returnedToZone, .useSkill,
    .skillApplied, .battleFailed, .battleDigest, .skillAcknowledged, .setMoveIntent,
    .moveAcknowledged, .equipSkill, .equipSkillResult]

/-- `MessageType(raw_type)`. -/
def messageTypeOf (rawType : Int) : Option MessageType := messageTypes.find? (messageValue · = rawType)

structure Frame where
  type : MessageType
  requestId : Int
  payload : List UInt8 := []
deriving DecidableEq, Repr

def encode (msgType requestId : Int) (payload : List UInt8) : Except String (List UInt8) :=
  let bodyLen := minBodySize + payload.length
  if bodyLen > maxBodySize then
    .error s!"Body length {bodyLen} exceeds maximum allowed size ({maxBodySize})"
  else (structPack [.u32, .u16, .u32] [bodyLen, msgType, requestId]).map (· ++ payload)

structure FrameDecoder where
  buf : List UInt8 := []
  offset : Nat := 0
deriving DecidableEq, Repr

namespace FrameDecoder

/-- `del self._buf[: self._offset]`. -/
def compact (d : FrameDecoder) : FrameDecoder :=
  if d.offset > 0 then { buf := d.buf.drop d.offset } else d

def feed (d : FrameDecoder) (data : List UInt8) : FrameDecoder :=
  let d := d.compact
  { d with buf := d.buf ++ data }

/-- What the generator does when it is asked for the next frame. -/
inductive Pulled where
  | stop
  | frame (frame : Frame)
  | raise (text : String)
deriving DecidableEq, Repr

/-- The rest of the loop body, for a frame that has arrived. -/
def yieldFrame (d : FrameDecoder) (totalLen : Nat) : Pulled × FrameDecoder :=
  match Format.unpackFrom [.u16, .u32] d.buf (d.offset + 4) with
  | some [rawType, requestId] =>
    let payload := (d.buf.take (d.offset + totalLen)).drop (d.offset + 10)
    let d := { d with offset := d.offset + totalLen }
    match messageTypeOf rawType with
    | none => (.raise s!"Unknown message type: {rawType}", d)
    | some type => (.frame { type := type, requestId := requestId, payload := payload }, d)
  | _ => (.raise structError, d)

def pull (d : FrameDecoder) : Pulled × FrameDecoder :=
  let remaining := d.buf.length - d.offset
  if remaining < 4 then (.stop, d.compact)
  else
    match Format.unpackFrom [.u32] d.buf d.offset with
    | some [bodyLen] =>
      if bodyLen < minBodySize ∨ bodyLen > maxBodySize then
        (.raise s!"Invalid frame body length: {bodyLen}", d)
      else
        let totalLen := 4 + bodyLen.toNat
        if remaining < totalLen then (.stop, d.compact) else d.yieldFrame totalLen
    | _ => (.raise structError, d)

/-- The frames of the generator until it stops or raises. Every frame takes bytes from the
buffer, so their number bounds the rounds. -/
def drain : Nat → FrameDecoder → List Frame × Option String × FrameDecoder
  | 0, d => ([], none, d)
  | rounds + 1, d =>
    match d.pull with
    | (.stop, d) => ([], none, d)
    | (.raise text, d) => ([], some text, d)
    | (.frame frame, d) =>
      let (frames, error, d) := drain rounds d
      (frame :: frames, error, d)

def frames (d : FrameDecoder) : List Frame × Option String × FrameDecoder :=
  d.drain (d.buf.length - d.offset + 1)

end FrameDecoder

/-! ## Requests -/

/-- The values of the enumeration `Direction`. -/
def directionValue : MoveDirection → Int
  | .stop => 0 | .north => 1 | .northEast => 2 | .east => 3 | .southEast => 4 | .south => 5
  | .southWest => 6 | .west => 7 | .northWest => 8

/-- A packed request, whose named values must not be zero. -/
def packNonZero (required : List (Int × String)) (format : Format) (values : List Int) :
    Except String (List UInt8) :=
  match required.find? (·.1 = 0) with
  | some (_, name) => .error s!"{name} must be non-zero"
  | none => structPack format values

def authenticate (playerId : Int) : Except String (List UInt8) :=
  packNonZero [(playerId, "player_id")] [.u64] [playerId]

def purchase (idempotencyKey productId : Int) : Except String (List UInt8) :=
  packNonZero [(idempotencyKey, "idempotency_key"), (productId, "product_id")] [.u64, .u32]
    [idempotencyKey, productId]

def equipSkill (skillId : Int) : Except String (List UInt8) :=
  packNonZero [(skillId, "skill_id")] [.u32] [skillId]

def enterZone (zoneId x y : Int) : Except String (List UInt8) :=
  structPack [.u64, .i32, .i32] [zoneId, x, y]

def roomJoin (roomId : Int) : Except String (List UInt8) :=
  packNonZero [(roomId, "room_id")] [.u64] [roomId]

def battleStart (roomId : Int) : Except String (List UInt8) :=
  packNonZero [(roomId, "room_id")] [.u64] [roomId]

/-- The direction is checked after the two other values. -/
def setMoveIntent (roomId direction seq : Int) : Except String (List UInt8) :=
  if roomId = 0 then .error "room_id must be non-zero"
  else if seq = 0 then .error "sequence must be non-zero"
  else if direction < 0 ∨ direction > directionValue .northWest then
    .error s!"Invalid move direction: {direction}"
  else structPack [.u64, .u8, .u64] [roomId, direction, seq]

def useSkill (roomId skillId seq : Int) : Except String (List UInt8) :=
  packNonZero [(roomId, "room_id"), (skillId, "skill_id"), (seq, "sequence")] [.u64, .u32, .u64]
    [roomId, skillId, seq]

def moveInZone (x y : Int) : Except String (List UInt8) := structPack [.i32, .i32] [x, y]

def leaveZone : List UInt8 := []

def roomLeave : List UInt8 := []

/-! ## Battle digests -/

inductive EventTag where
  | enemySpawned | enemyDamaged | enemyDied | skillWhiffed | arenaStarted | participantSpawned
  | participantMoved | enemyPositioned | participantDamaged | participantDied | participantLeft
  | projectileSpawned | projectileMoved | projectileRemoved
deriving DecidableEq, Repr

/-- The values of the enumeration `EventTag`. -/
def tagValue : EventTag → Nat
  | .enemySpawned => 0 | .enemyDamaged => 1 | .enemyDied => 2 | .skillWhiffed => 3
  | .arenaStarted => 4 | .participantSpawned => 5 | .participantMoved => 6
  | .enemyPositioned => 7 | .participantDamaged => 8 | .participantDied => 9
  | .participantLeft => 10 | .projectileSpawned => 11 | .projectileMoved => 12
  | .projectileRemoved => 13

/-- `_EVENT_SPECS`: how the fields of an event are packed, and their names. -/
def eventSpecs : List (EventTag × Format × List String) :=
  [ (.enemySpawned, [.u32, .u8, .u64], ["id", "kind", "hp"]),
    (.enemyDamaged, [.u32, .u64, .u32, .u64, .u64],
      ["target", "actor", "skill_id", "amount", "hp"]),
    (.enemyDied, [.u32], ["id"]),
    (.skillWhiffed, [.u64, .u32], ["actor", "skill_id"]),
    (.arenaStarted, [.u32, .u32], ["width", "height"]),
    (.participantSpawned, [.u64, .u32, .u32, .u64], ["player", "x", "y", "hp"]),
    (.participantMoved, [.u64, .u32, .u32], ["player", "x", "y"]),
    (.enemyPositioned, [.u32, .u32, .u32], ["enemy", "x", "y"]),
    (.participantDamaged, [.u64, .u32, .u64, .u64], ["target", "attacker", "amount", "hp"]),
    (.participantDied, [.u64], ["player"]),
    (.participantLeft, [.u64], ["player"]),
    (.projectileSpawned, [.u32, .u64, .u32, .u32, .u32, .u32],
      ["projectile", "owner", "skill_id", "target", "x", "y"]),
    (.projectileMoved, [.u32, .u32, .u32], ["projectile", "x", "y"]),
    (.projectileRemoved, [.u32, .u8], ["projectile", "reason"]) ]

def EventTag.name : EventTag → String
  | .enemySpawned => "EnemySpawned" | .enemyDamaged => "EnemyDamaged" | .enemyDied => "EnemyDied"
  | .skillWhiffed => "SkillWhiffed" | .arenaStarted => "ArenaStarted"
  | .participantSpawned => "ParticipantSpawned" | .participantMoved => "ParticipantMoved"
  | .enemyPositioned => "EnemyPositioned" | .participantDamaged => "ParticipantDamaged"
  | .participantDied => "ParticipantDied" | .participantLeft => "ParticipantLeft"
  | .projectileSpawned => "ProjectileSpawned" | .projectileMoved => "ProjectileMoved"
  | .projectileRemoved => "ProjectileRemoved"

def eventTags : List EventTag :=
  [.enemySpawned, .enemyDamaged, .enemyDied, .skillWhiffed, .arenaStarted, .participantSpawned,
    .participantMoved, .enemyPositioned, .participantDamaged, .participantDied, .participantLeft,
    .projectileSpawned, .projectileMoved, .projectileRemoved]

/-- `EventTag(tag_val)`. -/
def eventTagOf (tagVal : Nat) : Option EventTag := eventTags.find? (tagValue · = tagVal)

def specOf (tag : EventTag) : Option (Format × List String) :=
  (eventSpecs.find? (·.1 = tag)).map (·.2)

/-- The phases in the order of their values. -/
def roomPhases : List RoomPhase := [.waiting, .running, .cleared, .failed]

/-- An event with its fields by name. -/
abbrev ParsedEvent := EventTag × List (String × Int)

/-- One round of the loop over the events: the event at the offset and the offset after it. -/
def parseEvent (payload : List UInt8) (offset : Nat) : Except String (ParsedEvent × Nat) :=
  match payload[offset]? with
  | none => .error s!"Digest truncated while reading event tag at offset {offset}"
  | some byte =>
    let tagVal := byte.toNat
    let offset := offset + 1
    match eventTagOf tagVal with
    | none => .error s!"Unknown event tag: {tagVal}"
    | some tag =>
      let name := tag.name
      match specOf tag with
      | none => .error s!"No spec for event tag: {name}"
      | some (format, fields) =>
        let size := format.size
        let total := payload.length
        if offset + size > payload.length then
          .error s!"Digest truncated while reading {name}: need {size} bytes at {offset}, total {total}"
        else
          match format.unpackFrom payload offset with
          | none => .error structError
          | some vals => .ok ((tag, fields.zip vals), offset + size)

def parseEvents (payload : List UInt8) : Nat → Nat → Except String (List ParsedEvent × Nat)
  | 0, offset => .ok ([], offset)
  | count + 1, offset => do
    let (event, offset) ← parseEvent payload offset
    let (events, offset) ← parseEvents payload count offset
    return (event :: events, offset)

def parseDigest (payload : List UInt8) : Except String (Int × RoomPhase × List ParsedEvent) :=
  let size := payload.length
  if size < 11 then .error s!"BattleDigest payload too short: {size} < 11"
  else
    match Format.unpackFrom [.u64, .u8, .u16] payload 0 with
    | some [seq, phaseRaw, count] =>
      match roomPhases[phaseRaw.toNat]? with
      | none => .error s!"{phaseRaw} is not a valid RoomPhase"
      | some phase =>
        match parseEvents payload count.toNat 11 with
        | .error text => .error text
        | .ok (events, offset) =>
          let rest : Int := size - offset
          if offset ≠ size then .error s!"Digest has {rest} unparsed trailing bytes"
          else .ok (seq, phase, events)
    | _ => .error structError

/-! ## Replies -/

/-- A reply of a fixed size. -/
def parseFixed (name : String) (expected : Nat) (format : Format) (payload : List UInt8) :
    Except String (List Int) :=
  let size := payload.length
  if size ≠ expected then .error s!"{name} payload must be {expected} bytes, got {size}"
  else if size ≠ format.size then .error structError
  else .ok (format.unpack payload)

/-- The member of an enumeration, whose members are listed in the order of their values. -/
def memberOf {α : Type} (members : List α) (name : String) (value : Int) : Except String α :=
  match members[value.toNat]? with
  | none => .error s!"{value} is not a valid {name}"
  | some member => .ok member

def purchaseStatuses : List PurchaseStatus :=
  [.committed, .insufficientFunds, .productNotFound, .inventoryCapacityExceeded,
    .idempotencyConflict, .idempotencyCapacityExceeded, .unavailable, .alreadyOwned]

def equipSkillStatuses : List EquipSkillStatus :=
  [.equipped, .alreadyEquipped, .skillNotOwned, .unknownSkill]

def roomStatuses : List RoomCommandStatus :=
  [.applied, .alreadyJoined, .roomFull, .wrongPhase, .notJoined, .entryFailed, .duplicateRequest,
    .skillOnCooldown, .unknownSkill, .battleExpired, .participantDead, .runtimeOverloaded,
    .projectileCapacityExceeded, .skillNotEquipped]

def failureReasons : List BattleFailureReason := [.deadline, .participantsDefeated]

structure ParsedPurchase where
  status : PurchaseStatus
  replayed : Bool
  idempotencyKey : Int
  productId : Int
  currencyBalance : Int
  purchasedItemCount : Int
deriving DecidableEq, Repr

structure ParsedZone where
  status : Int
  zoneId : Int
  epoch : Int
  x : Int
  y : Int
  visiblePlayers : List Int
deriving DecidableEq, Repr

def parseAuthenticated (payload : List UInt8) : Except String Int :=
  match parseFixed "Authenticated" 8 [.u64] payload with
  | .ok [player] => .ok player
  | .ok _ => .error structError
  | .error text => .error text

def parsePurchaseResult (payload : List UInt8) : Except String ParsedPurchase :=
  match parseFixed "PurchaseResult" 30 [.u8, .u8, .u64, .u32, .u64, .u64] payload with
  | .ok [status, replayed, idempotencyKey, productId, currencyBalance, purchasedItemCount] =>
    (memberOf purchaseStatuses "PurchaseStatus" status).map fun status =>
      { status, replayed := replayed ≠ 0, idempotencyKey, productId, currencyBalance,
        purchasedItemCount }
  | .ok _ => .error structError
  | .error text => .error text

def parseEquipSkillResult (payload : List UInt8) : Except String (EquipSkillStatus × Int) :=
  match parseFixed "EquipSkillResult" 5 [.u8, .u32] payload with
  | .ok [status, equippedSkillId] =>
    (memberOf equipSkillStatuses "EquipSkillStatus" status).map (·, equippedSkillId)
  | .ok _ => .error structError
  | .error text => .error text

def parseZoneEntered (payload : List UInt8) : Except String ParsedZone :=
  let size := payload.length
  if size < 27 then .error s!"ZoneEntered payload too short: {size} < 27"
  else
    match Format.unpackFrom [.u8, .u64, .u64, .i32, .i32, .u16] payload 0 with
    | some [status, zoneId, epoch, x, y, visibleCount] =>
      let expectedLen := 27 + visibleCount.toNat * 8
      if size ≠ expectedLen then
        .error s!"ZoneEntered payload size mismatch: expected {expectedLen}, got {size}"
      else if visibleCount > 0 then
        match Format.unpackFrom (List.replicate visibleCount.toNat .u64) payload 27 with
        | some visiblePlayers => .ok { status, zoneId, epoch, x, y, visiblePlayers }
        | none => .error structError
      else .ok { status, zoneId, epoch, x, y, visiblePlayers := [] }
    | _ => .error structError

def parseMoved (payload : List UInt8) : Except String ParsedZone := parseZoneEntered payload

def parseRoomReply (payload : List UInt8) : Except String (RoomCommandStatus × RoomPhase × Int) :=
  match parseFixed "Room reply" 10 [.u8, .u8, .u64] payload with
  | .ok [statusRaw, phaseRaw, roomId] => do
    let status ← memberOf roomStatuses "RoomStatus" statusRaw
    let phase ← memberOf roomPhases "RoomPhase" phaseRaw
    return (status, phase, roomId)
  | .ok _ => .error structError
  | .error text => .error text

def parseAck (payload : List UInt8) : Except String (RoomCommandStatus × RoomPhase) :=
  match parseFixed "Ack" 2 [.u8, .u8] payload with
  | .ok [statusRaw, phaseRaw] => do
    let status ← memberOf roomStatuses "RoomStatus" statusRaw
    let phase ← memberOf roomPhases "RoomPhase" phaseRaw
    return (status, phase)
  | .ok _ => .error structError
  | .error text => .error text

def parseCleared (payload : List UInt8) : Except String Int :=
  match parseFixed "BattleCleared" 8 [.u64] payload with
  | .ok [experience] => .ok experience
  | .ok _ => .error structError
  | .error text => .error text

def parseFailed (payload : List UInt8) : Except String (Int × Bool × BattleFailureReason) :=
  match parseFixed "BattleFailed" 10 [.u64, .u8, .u8] payload with
  | .ok [bossHp, bossSpawned, reason] =>
    (memberOf failureReasons "BattleFailureReason" reason).map (bossHp, bossSpawned ≠ 0, ·)
  | .ok _ => .error structError
  | .error text => .error text

def parseReturned (payload : List UInt8) : Except String (Int × Int × Int) :=
  match parseFixed "ReturnedToZone" 16 [.u64, .i32, .i32] payload with
  | .ok [zoneId, x, y] => .ok (zoneId, x, y)
  | .ok _ => .error structError
  | .error text => .error text

end Snf.Client
