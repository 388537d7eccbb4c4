import Snf.Client.DigestWire
import Snf.Protocol.FrameStream

/-! # Replies on the wire

Every reply of the server but the battle digest, from the encoder to the parser of the client. The
payload of a reply is the packed form of the format by which the client reads it, so that the
values come back; only the reply of a Zone has a second part, the visible players.
-/

namespace Snf.Client

open Snf.Game Snf.Lib
open Snf.Adapter (MessageType ZoneReplyFrameKind RoomReplyFrameKind)
open Snf.Adapter.ProtocolEncoder
open Snf.Lib.Format (pack_flatten_cons pack_flatten_nil)

/-! ## The values of the source's types -/

def ResponseTyped : PlayerResponse → Prop
  -- the payload of a Ping, which came in a frame
  | .pong payload => payload.length ≤ Protocol.maxPayloadSize
  | .authenticated player => player < 2 ^ 64
  | .purchase result => result.idempotencyKey < 2 ^ 64 ∧ result.product < 2 ^ 32
  | .equipSkill _ equipped => equipped < 2 ^ 32

structure ZoneReplyTyped (zone : ZoneId) (result : ZoneResult) : Prop where
  zone : zone < 2 ^ 64
  routeEpoch : result.routeEpoch < 2 ^ 64
  visiblePlayers : ∀ player ∈ result.visiblePlayers, player < 2 ^ 64

/-! ## What the client is to read -/

def responseType : PlayerResponse → MessageType
  | .pong _ => .pong
  | .authenticated _ => .authenticated
  | .purchase _ => .purchaseResult
  | .equipSkill _ _ => .equipSkillResult

/-- The parser of a response returns its values. -/
def ReadsResponse (payload : List UInt8) : PlayerResponse → Prop
  | .pong sent => payload = sent
  | .authenticated player => parseAuthenticated payload = .ok player
  | .purchase result => parsePurchaseResult payload = .ok
      { status := result.status
        replayed := result.replayed
        idempotencyKey := result.idempotencyKey
        productId := result.product
        currencyBalance := result.currencyBalance.toNat
        purchasedItemCount := result.purchasedItemCount.toNat }
  | .equipSkill status equipped => parseEquipSkillResult payload = .ok (status, (equipped : Int))

/-- The values of a Zone reply, with as many visible players as fit into a frame. -/
def parsedZone (zone : ZoneId) (result : ZoneResult) : ParsedZone :=
  let position := result.position.getD { x := 0, y := 0 }
  { status := (zoneStatusByte result.status).toNat
    zoneId := zone
    epoch := result.routeEpoch
    x := position.x.toInt
    y := position.y.toInt
    visiblePlayers := (result.visiblePlayers.take
      (min result.visiblePlayers.length ((Protocol.maxPayloadSize - 27) / 8))).map Nat.cast }

/-- A frame of a type and a request that the codec takes. -/
structure Travels (frame : Protocol.Frame) (type : MessageType) (requestId : UInt32) : Prop where
  type : frame.type = Protocol.messageCode type
  requestId : frame.requestId = requestId
  fits : frame.payload.length ≤ Protocol.maxPayloadSize
  encodes : ∃ bytes, Protocol.encodeFrame frame = .ok bytes

theorem travels (type : MessageType) (requestId : UInt32) {payload : List UInt8}
    (hfits : payload.length ≤ Protocol.maxPayloadSize) :
    Travels { type := Protocol.messageCode type, requestId, payload } type requestId where
  type := rfl
  requestId := rfl
  fits := hfits
  encodes := Protocol.encodeFrame_ok (by cases type <;> rfl) hfits

/-! ## Replies of a fixed size -/

/-- A payload that is packed by a format is read by it. -/
theorem parseFixed_of_pack {format : Format} {values : List Int} {payload : List UInt8}
    (name : String) (expected : Nat) (hexpected : format.size = expected)
    (hpack : format.pack values = some payload) :
    parseFixed name expected format payload = .ok values ∧ payload.length = expected := by
  have hlength := Format.length_pack hpack
  have hvalues := Format.unpack_pack hpack []
  rw [List.append_nil] at hvalues
  refine ⟨?_, hlength.trans hexpected⟩
  unfold parseFixed
  dsimp only
  rw [if_neg (not_not.2 (hlength.trans hexpected)), if_neg (not_not.2 hlength), hvalues]

theorem pack_u64 {value : Nat} (h : value < 2 ^ 64) :
    Field.u64.pack (value : Int) = some (bigEndian 8 value) :=
  Field.pack_natCast (Field.holds_u64.2 h)

theorem pack_u32 {value : Nat} (h : value < 2 ^ 32) :
    Field.u32.pack (value : Int) = some (bigEndian 4 value) :=
  Field.pack_natCast (Field.holds_u32.2 h)

/-- A flag in a byte. -/
theorem pack_flag (flag : Bool) :
    Field.u8.pack (((if flag then 1 else 0 : UInt8).toNat : Nat) : Int) =
      some [if flag then 1 else 0] :=
  Field.pack_byte _

theorem flag_ne_zero (flag : Bool) :
    decide ((((if flag then 1 else 0 : UInt8).toNat : Nat) : Int) ≠ 0) = flag := by
  cases flag <;> rfl

theorem memberOf_purchaseStatus (status : PurchaseStatus) :
    memberOf purchaseStatuses "PurchaseStatus" ((purchaseStatusByte status).toNat : Int) =
      .ok status := by
  cases status <;> rfl

theorem memberOf_equipSkillStatus (status : EquipSkillStatus) :
    memberOf equipSkillStatuses "EquipSkillStatus" ((equipSkillStatusByte status).toNat : Int) =
      .ok status := by
  cases status <;> rfl

theorem memberOf_roomStatus (status : RoomCommandStatus) :
    memberOf roomStatuses "RoomStatus" ((roomStatusByte status).toNat : Int) = .ok status := by
  cases status <;> rfl

theorem memberOf_roomPhase (phase : RoomPhase) :
    memberOf roomPhases "RoomPhase" ((roomPhaseByte phase).toNat : Int) = .ok phase := by
  cases phase <;> rfl

theorem memberOf_failureReason (reason : BattleFailureReason) :
    memberOf failureReasons "BattleFailureReason" ((failureReasonByte reason).toNat : Int) =
      .ok reason := by
  cases reason <;> rfl

theorem playerResponse_reads (response : PlayerResponse) (requestId : UInt32)
    (h : ResponseTyped response) :
    Travels (encodePlayerResponse response requestId) (responseType response) requestId ∧
      ReadsResponse (encodePlayerResponse response requestId).payload response := by
  cases response with
  | pong payload => exact ⟨travels _ requestId h, rfl⟩
  | authenticated player =>
    have hpayload : fillBackwards 8 player (List.replicate 8 0) = [bigEndian 8 player].flatten := by
      rw [fillBackwards_eq _ _ _ (by decide)]
      rfl
    have hpack : Format.pack [.u64] [(player : Int)] = some [bigEndian 8 player].flatten :=
      pack_flatten_cons (pack_u64 h) pack_flatten_nil
    obtain ⟨hparse, hlength⟩ := parseFixed_of_pack "Authenticated" 8 rfl hpack
    unfold encodePlayerResponse
    dsimp only
    rw [hpayload]
    refine ⟨travels _ requestId (hlength.trans_le (by decide)), ?_⟩
    unfold ReadsResponse parseAuthenticated
    dsimp only
    rw [hparse]
  | purchase result =>
    have hpack := pack_flatten_cons (Field.pack_byte (purchaseStatusByte result.status))
      (pack_flatten_cons (pack_flag result.replayed)
        (pack_flatten_cons (pack_u64 h.1) (pack_flatten_cons (pack_u32 h.2)
          (pack_flatten_cons (pack_u64 result.currencyBalance.toNat_lt)
            (pack_flatten_cons (pack_u64 result.purchasedItemCount.toNat_lt)
              pack_flatten_nil)))))
    obtain ⟨hparse, hlength⟩ := parseFixed_of_pack "PurchaseResult" 30 rfl hpack
    refine ⟨travels _ requestId (hlength.trans_le (by decide)), ?_⟩
    unfold ReadsResponse parsePurchaseResult encodePlayerResponse
    dsimp only
    rw [hparse]
    dsimp only
    rw [memberOf_purchaseStatus, flag_ne_zero]
    rfl
  | equipSkill status equipped =>
    have hpack := pack_flatten_cons (Field.pack_byte (equipSkillStatusByte status))
      (pack_flatten_cons (pack_u32 h) pack_flatten_nil)
    obtain ⟨hparse, hlength⟩ := parseFixed_of_pack "EquipSkillResult" 5 rfl hpack
    refine ⟨travels _ requestId (hlength.trans_le (by decide)), ?_⟩
    unfold ReadsResponse parseEquipSkillResult encodePlayerResponse
    dsimp only
    rw [hparse]
    dsimp only
    rw [memberOf_equipSkillStatus]
    rfl

theorem roomReply_reads (kind : RoomReplyFrameKind) (room : RoomId) (result : RoomResult)
    (requestId : UInt32) (h : room < 2 ^ 64) :
    Travels (encodeRoomReply kind room result requestId) (roomReplyType kind) requestId ∧
      if isAcknowledgement kind then
        parseAck (encodeRoomReply kind room result requestId).payload =
          .ok (result.status, result.phase)
      else
        parseRoomReply (encodeRoomReply kind room result requestId).payload =
          .ok (result.status, result.phase, (room : Int)) := by
  unfold encodeRoomReply
  dsimp only
  split
  · have hpack := pack_flatten_cons (Field.pack_byte (roomStatusByte result.status))
      (pack_flatten_cons (Field.pack_byte (roomPhaseByte result.phase))
        pack_flatten_nil)
    obtain ⟨hparse, hlength⟩ := parseFixed_of_pack "Ack" 2 rfl hpack
    refine ⟨travels _ requestId (hlength.trans_le (by decide)), ?_⟩
    unfold parseAck
    rw [hparse]
    dsimp only
    rw [memberOf_roomStatus, memberOf_roomPhase]
    rfl
  · have hpack := pack_flatten_cons (Field.pack_byte (roomStatusByte result.status))
      (pack_flatten_cons (Field.pack_byte (roomPhaseByte result.phase))
        (pack_flatten_cons (pack_u64 h) pack_flatten_nil))
    obtain ⟨hparse, hlength⟩ := parseFixed_of_pack "Room reply" 10 rfl hpack
    refine ⟨travels _ requestId (hlength.trans_le (by decide)), ?_⟩
    unfold parseRoomReply
    rw [hparse]
    dsimp only
    rw [memberOf_roomStatus, memberOf_roomPhase]
    rfl

theorem battleCleared_reads (experience : UInt64) (requestId : UInt32) :
    Travels (encodeBattleCleared experience requestId) .battleCleared requestId ∧
      parseCleared (encodeBattleCleared experience requestId).payload =
        .ok (experience.toNat : Int) := by
  have hpack := pack_flatten_cons (pack_u64 experience.toNat_lt) pack_flatten_nil
  obtain ⟨hparse, hlength⟩ := parseFixed_of_pack "BattleCleared" 8 rfl hpack
  refine ⟨travels _ requestId (hlength.trans_le (by decide)), ?_⟩
  unfold parseCleared encodeBattleCleared
  dsimp only
  rw [hparse]

theorem battleFailure_reads (result : RoomResult) (requestId : UInt32)
    (h : result.bossHealth < 2 ^ 64) :
    Travels (encodeBattleFailure result requestId) .battleFailed requestId ∧
      parseFailed (encodeBattleFailure result requestId).payload =
        .ok ((result.bossHealth : Int), result.bossSpawned,
          result.failureReason.getD .deadline) := by
  have hpack := pack_flatten_cons (pack_u64 h)
    (pack_flatten_cons (pack_flag result.bossSpawned)
      (pack_flatten_cons
        (Field.pack_byte (failureReasonByte (result.failureReason.getD .deadline)))
        pack_flatten_nil))
  obtain ⟨hparse, hlength⟩ := parseFixed_of_pack "BattleFailed" 10 rfl hpack
  refine ⟨travels _ requestId (hlength.trans_le (by decide)), ?_⟩
  unfold parseFailed encodeBattleFailure
  dsimp only
  rw [hparse]
  dsimp only
  rw [memberOf_failureReason, flag_ne_zero]
  rfl

theorem returnedToZone_reads (zone : ZoneId) (position : ZonePosition) (requestId : UInt32)
    (h : zone < 2 ^ 64) :
    Travels (encodeReturnedToZone zone position requestId) .returnedToZone requestId ∧
      parseReturned (encodeReturnedToZone zone position requestId).payload =
        .ok ((zone : Int), position.x.toInt, position.y.toInt) := by
  have hpack := pack_flatten_cons (pack_u64 h)
    (pack_flatten_cons (Field.pack_toInt position.x)
      (pack_flatten_cons (Field.pack_toInt position.y) pack_flatten_nil))
  obtain ⟨hparse, hlength⟩ := parseFixed_of_pack "ReturnedToZone" 16 rfl hpack
  refine ⟨travels _ requestId (hlength.trans_le (by decide)), ?_⟩
  unfold parseReturned encodeReturnedToZone
  dsimp only
  rw [hparse]

/-! ## The reply of a Zone -/

theorem visibleCount_eq (result : ZoneResult) :
    visibleCount result =
      min result.visiblePlayers.length ((Protocol.maxPayloadSize - 27) / 8) := by
  have hsize : min (2 ^ 16 - 1) maxVisibleByPayload = (Protocol.maxPayloadSize - 27) / 8 := by
    decide
  rw [visibleCount, hsize]

theorem zoneReply_reads (kind : ZoneReplyFrameKind) (zone : ZoneId) (result : ZoneResult)
    (requestId : UInt32) (h : ZoneReplyTyped zone result) :
    Travels (encodeZoneReply kind zone result requestId) (zoneReplyType kind) requestId ∧
      parseZoneEntered (encodeZoneReply kind zone result requestId).payload =
        .ok (parsedZone zone result) := by
  have hbound : visibleCount result ≤ 8187 :=
    Nat.le_trans (Nat.min_le_right _ _) (by decide)
  generalize hvisible : result.visiblePlayers.take (visibleCount result) = visible
  have hcount : visible.length = visibleCount result := by
    rw [← hvisible, List.length_take]
    exact Nat.min_eq_left (Nat.min_le_left _ _)
  have hholds : ∀ player ∈ visible, Field.u64.Holds player := by
    intro player hplayer
    rw [← hvisible] at hplayer
    exact Field.holds_u64.2 (h.visiblePlayers player (List.mem_of_mem_take hplayer))
  have hplayers := Format.pack_replicate visible hholds
  have hheader := pack_flatten_cons (Field.pack_byte (zoneStatusByte result.status))
    (pack_flatten_cons (pack_u64 h.zone) (pack_flatten_cons (pack_u64 h.routeEpoch)
      (pack_flatten_cons (Field.pack_toInt (result.position.getD { x := 0, y := 0 }).x)
        (pack_flatten_cons (Field.pack_toInt (result.position.getD { x := 0, y := 0 }).y)
          (pack_flatten_cons
            (Field.pack_natCast (Field.holds_u16.2 (by omega : visibleCount result < 2 ^ 16)))
            pack_flatten_nil)))))
  change Format.pack _ _ = some (zoneReplyHeader zone result).flatten at hheader
  unfold encodeZoneReply
  dsimp only
  rw [hvisible]
  generalize (zoneReplyHeader zone result).flatten = header at hheader
  have hfirst : header.length = 27 := Format.length_pack hheader
  have hrest : (visible.flatMap (bigEndian 8)).length = visibleCount result * 8 := by
    have hlength := Format.length_pack hplayers
    rw [hcount, Format.size, List.map_replicate, List.sum_replicate] at hlength
    exact hlength
  have hlength : (header ++ visible.flatMap (bigEndian 8)).length =
      27 + visibleCount result * 8 := by
    rw [List.length_append, hfirst, hrest]
  refine ⟨travels _ requestId ?_, ?_⟩
  · rw [hlength]
    exact Nat.le_trans (by omega : _ ≤ 27 + 8187 * 8) (by decide)
  have hfields := Format.unpackFrom_pack hheader [] (visible.flatMap (bigEndian 8))
  have hvalues := Format.unpackFrom_pack hplayers header []
  rw [hfirst, hcount, List.append_nil] at hvalues
  unfold parseZoneEntered parsedZone
  dsimp only
  rw [hlength, if_neg (by omega)]
  rw [List.nil_append, List.length_nil] at hfields
  rw [hfields, ← visibleCount_eq, hvisible]
  dsimp only
  rw [Int.toNat_natCast, if_neg (not_not.2 rfl)]
  split
  · change Format.unpackFrom _ (header ++ visible.flatMap (bigEndian 8)) 27 = _ at hvalues
    rw [hvalues]
  · next hnone =>
    have hempty : visible = [] := List.eq_nil_of_length_eq_zero (by omega)
    rw [hempty]
    rfl

/-! ## All replies -/

/-- **Replies survive the wire.** Every reply is a frame of its type that fits, so that it is
encoded, and the parser of the client returns the values that were encoded. The list of visible
players is cut to what fits, and signed coordinates come back with their sign. -/
theorem replies_survive_wire (requestId : UInt32) :
    (∀ response, ResponseTyped response →
      Travels (encodePlayerResponse response requestId) (responseType response) requestId ∧
        ReadsResponse (encodePlayerResponse response requestId).payload response) ∧
    (∀ kind zone result, ZoneReplyTyped zone result →
      Travels (encodeZoneReply kind zone result requestId) (zoneReplyType kind) requestId ∧
        parseZoneEntered (encodeZoneReply kind zone result requestId).payload =
          .ok (parsedZone zone result) ∧
        parseMoved (encodeZoneReply kind zone result requestId).payload =
          .ok (parsedZone zone result)) ∧
    (∀ kind room result, room < 2 ^ 64 →
      Travels (encodeRoomReply kind room result requestId) (roomReplyType kind) requestId ∧
        if isAcknowledgement kind then
          parseAck (encodeRoomReply kind room result requestId).payload =
            .ok (result.status, result.phase)
        else
          parseRoomReply (encodeRoomReply kind room result requestId).payload =
            .ok (result.status, result.phase, (room : Int))) ∧
    (∀ experience, Travels (encodeBattleCleared experience requestId) .battleCleared requestId ∧
      parseCleared (encodeBattleCleared experience requestId).payload =
        .ok (experience.toNat : Int)) ∧
    (∀ result, result.bossHealth < 2 ^ 64 →
      Travels (encodeBattleFailure result requestId) .battleFailed requestId ∧
        parseFailed (encodeBattleFailure result requestId).payload =
          .ok ((result.bossHealth : Int), result.bossSpawned,
            result.failureReason.getD .deadline)) ∧
    (∀ zone position, zone < 2 ^ 64 →
      Travels (encodeReturnedToZone zone position requestId) .returnedToZone requestId ∧
        parseReturned (encodeReturnedToZone zone position requestId).payload =
          .ok ((zone : Int), position.x.toInt, position.y.toInt)) := by
  refine ⟨fun response h => playerResponse_reads response requestId h, ?_,
    fun kind room result h => roomReply_reads kind room result requestId h,
    fun experience => battleCleared_reads experience requestId,
    fun result h => battleFailure_reads result requestId h,
    fun zone position h => returnedToZone_reads zone position requestId h⟩
  intro kind zone result h
  obtain ⟨htravels, hparse⟩ := zoneReply_reads kind zone result requestId h
  exact ⟨htravels, hparse, hparse⟩

/-- A player left of the origin, who sees two others. -/
def westernZone : ZoneResult :=
  { position := some { x := -3, y := 7 }, routeEpoch := 2, visiblePlayers := [4, 9] }

theorem replies_survive_wire_west :
    parseMoved (encodeZoneReply .moved 5 westernZone 1).payload =
      .ok { status := 0, zoneId := 5, epoch := 2, x := -3, y := 7, visiblePlayers := [4, 9] } := by
  have htyped : ZoneReplyTyped 5 westernZone := ⟨by decide, by decide, by decide⟩
  exact ((replies_survive_wire 1).2.1 .moved 5 westernZone htyped).2.2

end Snf.Client
