import Snf.Protocol.FrameCodec

/-! # The frames that the server sends

The encoders of `protocol_encoder.cpp` down to their bytes. `encodeBattleDigest` sums up the size
of the payload first, and a digest that does not fit into a frame is not encoded. Of the other
replies only that of a Zone varies in size: it lists as many visible players as fit.
-/

namespace Snf.Adapter.ProtocolEncoder

open Snf.Game Snf.Lib

/-- The values of the enumeration `BattleEventKind`. -/
def battleEventKind : BattleEvent → UInt8
  | .enemySpawned .. => 0
  | .enemyDamaged .. => 1
  | .enemyDied .. => 2
  | .skillWhiffed .. => 3
  | .arenaStarted .. => 4
  | .participantSpawned .. => 5
  | .participantMoved .. => 6
  | .enemyPositioned .. => 7
  | .participantDamaged .. => 8
  | .participantDied .. => 9
  | .participantLeft .. => 10
  | .projectileSpawned .. => 11
  | .projectileMoved .. => 12
  | .projectileRemoved .. => 13

def enemyKindByte : EnemyKind → UInt8
  | .minion => 0
  | .boss => 1

def removalReasonByte : ProjectileRemovalReason → UInt8
  | .hit => 0
  | .targetLost => 1
  | .expired => 2

def roomPhaseByte : RoomPhase → UInt8
  | .waiting => 0
  | .running => 1
  | .cleared => 2
  | .failed => 3

/-- The fields of an event after its kind, in the order in which they are appended. -/
def eventFields : BattleEvent → List (List UInt8)
  | .enemySpawned id kind health => [bigEndian 4 id, [enemyKindByte kind], bigEndian 8 health]
  | .enemyDamaged target actor skillId amount health =>
    [bigEndian 4 target, bigEndian 8 actor, bigEndian 4 skillId, bigEndian 8 amount,
      bigEndian 8 health]
  | .enemyDied id => [bigEndian 4 id]
  | .skillWhiffed actor skillId => [bigEndian 8 actor, bigEndian 4 skillId]
  | .arenaStarted width height => [bigEndian 4 width, bigEndian 4 height]
  | .participantSpawned player position health =>
    [bigEndian 8 player, bigEndian 4 position.x, bigEndian 4 position.y, bigEndian 8 health]
  | .participantMoved player position =>
    [bigEndian 8 player, bigEndian 4 position.x, bigEndian 4 position.y]
  | .enemyPositioned enemy position =>
    [bigEndian 4 enemy, bigEndian 4 position.x, bigEndian 4 position.y]
  | .participantDamaged target attacker amount health =>
    [bigEndian 8 target, bigEndian 4 attacker, bigEndian 8 amount, bigEndian 8 health]
  | .participantDied player => [bigEndian 8 player]
  | .participantLeft player => [bigEndian 8 player]
  | .projectileSpawned projectile owner skillId target position =>
    [bigEndian 4 projectile, bigEndian 8 owner, bigEndian 4 skillId, bigEndian 4 target,
      bigEndian 4 position.x, bigEndian 4 position.y]
  | .projectileMoved projectile position =>
    [bigEndian 4 projectile, bigEndian 4 position.x, bigEndian 4 position.y]
  | .projectileRemoved projectile reason => [bigEndian 4 projectile, [removalReasonByte reason]]

/-- `append_event`: the bytes an event adds to the payload. -/
def appendEvent (event : BattleEvent) : List UInt8 :=
  battleEventKind event :: (eventFields event).flatten

/-- The loop that sums up the sizes, which ends as soon as the payload is too large. -/
def digestSize : List BattleEvent → Nat → Option Nat
  | [], size => some size
  | event :: events, size =>
    if size > Protocol.maxPayloadSize || encodedEventSize event > Protocol.maxPayloadSize - size then
      none
    else digestSize events (size + encodedEventSize event)

def encodeBattleDigest (result : RoomResult) (requestId : UInt32) : Option Protocol.Frame :=
  result.digest.bind fun digest =>
    if digest.events.length > 2 ^ 16 - 1 then none
    else
      (digestSize digest.events digestHeaderSize).map fun _ =>
        { type := Protocol.messageCode .battleDigest
          requestId := requestId
          payload := bigEndian 8 digest.sequence ++ [roomPhaseByte result.phase] ++
            bigEndian 2 digest.events.length ++ digest.events.flatMap appendEvent }

/-! ## Sizes -/

theorem length_appendEvent (event : BattleEvent) :
    (appendEvent event).length = encodedEventSize event := by
  cases event <;> rfl

theorem length_flatMap_appendEvent (events : List BattleEvent) :
    (events.flatMap appendEvent).length = (events.map encodedEventSize).sum := by
  induction events with
  | nil => rfl
  | cons event events ih =>
    rw [List.flatMap_cons, List.length_append, length_appendEvent, ih, List.map_cons,
      List.sum_cons]

/-- The loop finds out whether the whole payload fits. -/
theorem digestSize_eq (events : List BattleEvent) (size : Nat)
    (hsize : size ≤ Protocol.maxPayloadSize) :
    digestSize events size =
      if size + (events.map encodedEventSize).sum ≤ Protocol.maxPayloadSize then
        some (size + (events.map encodedEventSize).sum)
      else none := by
  induction events generalizing size with
  | nil =>
    rw [digestSize, List.map_nil, List.sum_nil, Nat.add_zero, if_pos hsize]
  | cons event events ih =>
    rw [digestSize, List.map_cons, List.sum_cons]
    simp only [Bool.or_eq_true, decide_eq_true_eq]
    by_cases hevent : encodedEventSize event > Protocol.maxPayloadSize - size
    · rw [if_pos (Or.inr hevent), if_neg (by omega)]
    · rw [if_neg (by omega), ih (size + encodedEventSize event) (by omega), Nat.add_assoc]

theorem encodeBattleDigest_eq (result : RoomResult) (requestId : UInt32) :
    encodeBattleDigest result requestId = result.digest.bind fun digest =>
      if digest.events.length ≤ 65535 ∧
          11 + (digest.events.map encodedEventSize).sum ≤ Protocol.maxPayloadSize then
        some
          { type := Protocol.messageCode .battleDigest
            requestId := requestId
            payload := bigEndian 8 digest.sequence ++ [roomPhaseByte result.phase] ++
              bigEndian 2 digest.events.length ++ digest.events.flatMap appendEvent }
      else none := by
  have hheader : digestHeaderSize = 11 := rfl
  unfold encodeBattleDigest
  congr 1
  funext digest
  rw [digestSize_eq _ _ (by decide), hheader]
  by_cases hcount : digest.events.length > 2 ^ 16 - 1
  · rw [if_pos hcount, if_neg (by omega)]
  rw [if_neg hcount]
  by_cases hsize : 11 + (digest.events.map encodedEventSize).sum ≤ Protocol.maxPayloadSize
  · rw [if_pos hsize, if_pos ⟨by omega, hsize⟩]
    rfl
  · rw [if_neg hsize, if_neg (fun h => hsize h.2)]
    rfl

/-! ## Replies -/

def purchaseStatusByte : PurchaseStatus → UInt8
  | .committed => 0 | .insufficientFunds => 1 | .productNotFound => 2
  | .inventoryCapacityExceeded => 3 | .idempotencyConflict => 4
  | .idempotencyCapacityExceeded => 5 | .unavailable => 6 | .alreadyOwned => 7

def equipSkillStatusByte : EquipSkillStatus → UInt8
  | .equipped => 0 | .alreadyEquipped => 1 | .skillNotOwned => 2 | .unknownSkill => 3

def zoneStatusByte : ZoneCommandStatus → UInt8
  | .applied => 0 | .alreadyPresent => 1 | .playerMissing => 2 | .staleRoute => 3
  | .transitionInProgress => 4 | .transferFailed => 5 | .inRoom => 6

def roomStatusByte : RoomCommandStatus → UInt8
  | .applied => 0 | .alreadyJoined => 1 | .roomFull => 2 | .wrongPhase => 3 | .notJoined => 4
  | .entryFailed => 5 | .duplicateRequest => 6 | .skillOnCooldown => 7 | .unknownSkill => 8
  | .battleExpired => 9 | .participantDead => 10 | .runtimeOverloaded => 11
  | .projectileCapacityExceeded => 12 | .skillNotEquipped => 13

def failureReasonByte : BattleFailureReason → UInt8
  | .deadline => 0
  | .participantsDefeated => 1

/-- The loop that fills the payload of an `Authenticated` frame from its last byte on. -/
def fillBackwards : (index remaining : Nat) → List UInt8 → List UInt8
  | 0, _, payload => payload
  | index + 1, remaining, payload =>
    fillBackwards index (remaining >>> 8) (payload.set index (UInt8.ofNat (remaining &&& 0xFF)))

def encodePlayerResponse (response : PlayerResponse) (requestId : UInt32) : Protocol.Frame :=
  match response with
  | .pong payload => { type := Protocol.messageCode .pong, requestId, payload }
  | .authenticated player =>
    { type := Protocol.messageCode .authenticated
      requestId
      payload := fillBackwards 8 player (List.replicate 8 0) }
  | .purchase result =>
    { type := Protocol.messageCode .purchaseResult
      requestId
      payload := [[purchaseStatusByte result.status], [if result.replayed then 1 else 0],
        bigEndian 8 result.idempotencyKey, bigEndian 4 result.product,
        bigEndian 8 result.currencyBalance.toNat,
        bigEndian 8 result.purchasedItemCount.toNat].flatten }
  | .equipSkill status equipped =>
    { type := Protocol.messageCode .equipSkillResult
      requestId
      payload := [[equipSkillStatusByte status], bigEndian 4 equipped].flatten }

def zoneReplyType : ZoneReplyFrameKind → MessageType
  | .entered => .zoneEntered
  | .moved => .moved
  | .left => .zoneLeft

def fixedPayloadSize : Nat := 1 + 8 + 8 + 4 + 4 + 2

def maxVisibleByPayload : Nat := (Protocol.maxPayloadSize - fixedPayloadSize) / 8

def visibleCount (result : ZoneResult) : Nat :=
  min result.visiblePlayers.length (min (2 ^ 16 - 1) maxVisibleByPayload)

/-- The part of a Zone reply before the visible players. -/
def zoneReplyHeader (zone : ZoneId) (result : ZoneResult) : List (List UInt8) :=
  let position := result.position.getD { x := 0, y := 0 }
  [[zoneStatusByte result.status], bigEndian 8 zone, bigEndian 8 result.routeEpoch,
    bigEndian 4 position.x.toUInt32.toNat, bigEndian 4 position.y.toUInt32.toNat,
    bigEndian 2 (visibleCount result)]

def encodeZoneReply (kind : ZoneReplyFrameKind) (zone : ZoneId) (result : ZoneResult)
    (requestId : UInt32) : Protocol.Frame where
  type := Protocol.messageCode (zoneReplyType kind)
  requestId
  payload := (zoneReplyHeader zone result).flatten ++
    (result.visiblePlayers.take (visibleCount result)).flatMap (bigEndian 8)

def roomReplyType : RoomReplyFrameKind → MessageType
  | .joined => .roomJoined
  | .battleStarted => .battleStarted
  | .skillAcknowledged => .skillAcknowledged
  | .moveAcknowledged => .moveAcknowledged

/-- The acknowledgements are shorter than the other replies of a Room. -/
def isAcknowledgement (kind : RoomReplyFrameKind) : Bool :=
  kind = .skillAcknowledged || kind = .moveAcknowledged

def encodeRoomReply (kind : RoomReplyFrameKind) (room : RoomId) (result : RoomResult)
    (requestId : UInt32) : Protocol.Frame where
  type := Protocol.messageCode (roomReplyType kind)
  requestId
  payload :=
    if isAcknowledgement kind then
      [[roomStatusByte result.status], [roomPhaseByte result.phase]].flatten
    else
      [[roomStatusByte result.status], [roomPhaseByte result.phase], bigEndian 8 room].flatten

def encodeBattleCleared (experience : UInt64) (requestId : UInt32) : Protocol.Frame where
  type := Protocol.messageCode .battleCleared
  requestId
  payload := [bigEndian 8 experience.toNat].flatten

def encodeBattleFailure (result : RoomResult) (requestId : UInt32) : Protocol.Frame where
  type := Protocol.messageCode .battleFailed
  requestId
  payload := [bigEndian 8 result.bossHealth, [if result.bossSpawned then 1 else 0],
    [failureReasonByte (result.failureReason.getD .deadline)]].flatten

def encodeReturnedToZone (zone : ZoneId) (position : ZonePosition) (requestId : UInt32) :
    Protocol.Frame where
  type := Protocol.messageCode .returnedToZone
  requestId
  payload := [bigEndian 8 zone, bigEndian 4 position.x.toUInt32.toNat,
    bigEndian 4 position.y.toUInt32.toNat].flatten

/-- The loop fills in what the other payloads append. -/
theorem fillBackwards_eq (index remaining : Nat) (payload : List UInt8)
    (h : index ≤ payload.length) :
    fillBackwards index remaining payload = bigEndian index remaining ++ payload.drop index := by
  induction index generalizing remaining payload with
  | zero => rfl
  | succ index ih =>
    have hbyte : UInt8.ofNat (remaining &&& 0xFF) = UInt8.ofNat remaining := by
      rw [← UInt8.toNat_inj, UInt8.toNat_ofNat', UInt8.toNat_ofNat',
        show (0xFF : Nat) = 2 ^ 8 - 1 from rfl, Nat.and_two_pow_sub_one_eq_mod]
      exact Nat.mod_mod _ _
    rw [fillBackwards, ih _ _ (by rw [List.length_set]; omega), hbyte, bigEndian_succ_eq,
      List.append_assoc]
    congr 1
    rw [List.drop_eq_getElem_cons (by rw [List.length_set]; omega), List.getElem_set_self,
      List.drop_set_of_lt (by omega)]
    rfl

end Snf.Adapter.ProtocolEncoder
