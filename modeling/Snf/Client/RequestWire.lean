import Snf.Client.Wire
import Snf.Protocol.FrameStream
import Snf.Server.MessageDispatcher

/-! # Requests on the wire

A request of the client is packed by a format that its message type determines, and both servers
read the same fields back. What a decoder accepts is a payload of the format's size, and the
request it returns has the values of the payload. So both decoders agree wherever both accept, and
a payload is determined by its request.
-/

namespace Snf.Client

open Snf.Game Snf.Lib
open Snf.Adapter (MessageType ZoneRequest RoomRequest moveDirections decodeBigEndian decodeInt32)
open Snf.Protocol (readU32BigEndian byteAt)

/-! ## Requests and their values -/

/-- What the decoders make of a payload. -/
inductive GameRequest where
  | command (command : PlayerCommand)
  | zone (request : ZoneRequest)
  | room (request : RoomRequest)
deriving DecidableEq, Repr

namespace GameRequest

/-- The type of the message that carries the request. -/
def type : GameRequest → Option MessageType
  | .command (.ping _) => some .ping
  | .command (.authenticate _) => some .authenticate
  | .command (.purchase _ _) => some .purchase
  | .command (.equipSkill _) => some .equipSkill
  | .command (.joinRoom _) => none
  | .zone (.enterZone _ _) => some .enterZone
  | .zone (.move _) => some .move
  | .zone .leave => some .leaveZone
  | .room (.roomJoin _) => some .roomJoin
  | .room (.battleStart _) => some .battleStart
  | .room .roomLeave => some .roomLeave
  | .room (.useSkill _ _ _) => some .useSkill
  | .room (.setMoveIntent _ _ _) => some .setMoveIntent

/-- The values of its fields, a direction by its number. -/
def values : GameRequest → List Int
  | .command (.ping payload) => payload.map fun byte => (byte.toNat : Int)
  | .command (.authenticate player) => [(player : Int)]
  | .command (.purchase key product) => [(key : Int), (product : Int)]
  | .command (.equipSkill skill) => [(skill : Int)]
  | .command (.joinRoom target) => [(target : Int)]
  | .zone (.enterZone target position) => [(target : Int), position.x.toInt, position.y.toInt]
  | .zone (.move position) => [position.x.toInt, position.y.toInt]
  | .zone .leave => []
  | .room (.roomJoin target) => [(target : Int)]
  | .room (.battleStart target) => [(target : Int)]
  | .room .roomLeave => []
  | .room (.useSkill target skill sequence) => [(target : Int), (skill : Int), (sequence : Int)]
  | .room (.setMoveIntent target direction sequence) =>
    [(target : Int), (moveDirections.idxOf direction : Int), (sequence : Int)]

end GameRequest

/-- How the payload of a message is laid out. A Ping carries any bytes. -/
def formatOf (type : MessageType) (payload : List UInt8) : Format :=
  match type with
  | .ping => List.replicate payload.length .u8
  | .authenticate | .roomJoin | .battleStart => [.u64]
  | .purchase => [.u64, .u32]
  | .equipSkill => [.u32]
  | .enterZone => [.u64, .i32, .i32]
  | .move => [.i32, .i32]
  | .useSkill => [.u64, .u32, .u64]
  | .setMoveIntent => [.u64, .u8, .u64]
  | _ => []

/-! ## The decoders of the two servers -/

open Snf.Server.MessageDispatcher Snf.Server.ProtocolGateway in
/-- The decoding of the legacy server: the branches of the gateway, and for all other types the
dispatcher. -/
def legacyDecode (type : MessageType) (payload : List UInt8) : Option GameRequest :=
  match type with
  | .roomJoin => (parseRoomJoin payload).map .room
  | .battleStart => (parseBattleStart payload).map .room
  | .useSkill => (parseUseSkill payload).map .room
  | .setMoveIntent => (parseSetMoveIntent payload).map .room
  | .roomLeave => (parseRoomLeave payload).map .room
  | .enterZone => (parseEnterZone payload).map .zone
  | .leaveZone => (parseLeaveZone payload).map .zone
  | .move => (parseMove payload).map .zone
  | _ => (dispatch type payload).command.map .command

open Snf.Adapter in
/-- The decoding of `GameRequestSink::tryPost`. -/
def sinkDecode (type : MessageType) (payload : List UInt8) : Option GameRequest :=
  match type with
  | .authenticate => (decodePlayerId payload).map fun player => .command (.authenticate player)
  | .ping => some (.command (.ping payload))
  | .purchase => (decodePurchase payload).map .command
  | .equipSkill => (decodeEquipSkill payload).map .command
  | .enterZone => (decodeEnterZone payload).map .zone
  | .move => (decodeMove payload).map .zone
  | .leaveZone => (decodeLeave payload).map .zone
  | .roomJoin => (decodeRoomJoin payload).map .room
  | .battleStart => (decodeBattleStart payload).map .room
  | .roomLeave => (decodeRoomLeave payload).map .room
  | .useSkill => (decodeUseSkill payload).map .room
  | .setMoveIntent => (decodeSetMoveIntent payload).map .room
  | _ => none

/-! ## Fields -/

/-- The number at an offset. -/
def fieldAt (payload : List UInt8) (offset width : Nat) : Nat :=
  ofBigEndian ((payload.drop offset).take width)

theorem decodeBigEndian_eq (payload : List UInt8) (offset width : Nat) :
    decodeBigEndian payload offset width = fieldAt payload offset width := by
  unfold decodeBigEndian fieldAt
  rw [foldl_ofBigEndian, Nat.zero_mul, Nat.zero_add]

theorem shiftIn_eq (bytes : List UInt8) :
    Server.MessageDispatcher.shiftIn bytes = ofBigEndian bytes := by
  have hstep : (fun (value : Nat) (byte : UInt8) => (value <<< 8) ||| byte.toNat) =
      fun value byte => value * 256 + byte.toNat := by
    funext value byte
    exact Protocol.shiftLeft_or (i := 8) byte.toNat_lt
  unfold Server.MessageDispatcher.shiftIn
  rw [hstep, foldl_ofBigEndian, Nat.zero_mul, Nat.zero_add]

theorem readU32_eq {payload : List UInt8} {offset : Nat} (h : offset + 4 ≤ payload.length) :
    readU32BigEndian payload offset = fieldAt payload offset 4 :=
  Protocol.readU32BigEndian_eq h

theorem readU64_eq {payload : List UInt8} {offset : Nat} (h : offset + 8 ≤ payload.length) :
    Server.ProtocolGateway.readU64 payload offset = fieldAt payload offset 8 := by
  have hlow : fieldAt payload (offset + 4) 4 < 2 ^ 32 := by
    have hlt := ofBigEndian_lt ((payload.drop (offset + 4)).take 4)
    rw [List.length_take, List.length_drop, Nat.min_eq_left (by omega)] at hlt
    exact hlt
  unfold Server.ProtocolGateway.readU64
  rw [readU32_eq (by omega), readU32_eq (by omega), Protocol.shiftLeft_or hlow]
  have hsplit : (payload.drop offset).take 8 =
      (payload.drop offset).take 4 ++ (payload.drop (offset + 4)).take 4 := by
    rw [← List.drop_drop]
    exact List.take_add (i := 4) (j := 4)
  unfold fieldAt
  rw [hsplit, ofBigEndian_append, List.length_take, List.length_drop,
    Nat.min_eq_left (by omega)]
  norm_num

theorem byteAt_eq {payload : List UInt8} {offset : Nat} (h : offset < payload.length) :
    byteAt payload offset = fieldAt payload offset 1 := by
  have hbyte : (payload.drop offset).take 1 = [payload[offset]] := by
    rw [List.drop_eq_getElem_cons h]
    rfl
  unfold byteAt fieldAt
  rw [List.getD_eq_getElem _ _ h, hbyte, ofBigEndian, ofBigEndian]
  simp

/-- A signed field, as the servers cast it. -/
theorem toInt_decodeInt32 {payload : List UInt8} {offset : Nat}
    (h : offset + 4 ≤ payload.length) :
    (decodeInt32 payload offset).toInt = Field.i32.unpack ((payload.drop offset).take 4) := by
  have hlt : fieldAt payload offset 4 < 2 ^ 32 := by
    have hlt := ofBigEndian_lt ((payload.drop offset).take 4)
    rw [List.length_take, List.length_drop, Nat.min_eq_left (by omega)] at hlt
    exact hlt
  have hturn : Field.i32.turn = 2 ^ 31 := by decide
  unfold decodeInt32
  rw [decodeBigEndian_eq]
  show (UInt32.ofNat (fieldAt payload offset 4)).toBitVec.toInt = _
  unfold Field.unpack
  rw [hturn, Field.span_i32, BitVec.toInt_eq_toNat_cond]
  have hnat : (UInt32.ofNat (fieldAt payload offset 4)).toBitVec.toNat = fieldAt payload offset 4 := by
    show (UInt32.ofNat (fieldAt payload offset 4)).toNat = _
    rw [UInt32.toNat_ofNat', Nat.mod_eq_of_lt hlt]
  rw [hnat]
  show (if 2 * fieldAt payload offset 4 < 2 ^ 32 then (fieldAt payload offset 4 : Int)
      else (fieldAt payload offset 4 : Int) - (2 ^ 32 : Nat)) =
    if fieldAt payload offset 4 < 2 ^ 31 then (fieldAt payload offset 4 : Int)
      else (fieldAt payload offset 4 : Int) - (2 ^ 32 : Nat)
  split
  · rw [if_pos (by omega)]
  · rw [if_neg (by omega)]

theorem readI32_eq {payload : List UInt8} {offset : Nat} (h : offset + 4 ≤ payload.length) :
    Server.ProtocolGateway.readI32 payload offset = decodeInt32 payload offset := by
  unfold Server.ProtocolGateway.readI32 decodeInt32
  rw [readU32_eq h, decodeBigEndian_eq]

/-! ## The two servers -/

/-- The request does not name the Room zero. -/
def GameRequest.named : GameRequest → Bool
  | .room (.roomJoin target) => target != 0
  | .room (.battleStart target) => target != 0
  | .room (.useSkill target _ _) => target != 0
  | .room (.setMoveIntent target _ _) => target != 0
  | _ => true

/-! The handlers of the dispatcher decode as the sink does. -/

section Handlers

open Snf.Server.MessageDispatcher Snf.Adapter

variable (payload : List UInt8)

theorem handleAuthenticate_eq :
    handleAuthenticate payload = (decodePlayerId payload).map .authenticate := by
  unfold handleAuthenticate decodePlayerId
  by_cases hlength : payload.length ≠ 8
  · rw [if_pos hlength, if_pos hlength]
    rfl
  have hall : fieldAt payload 0 8 = ofBigEndian payload := by
    unfold fieldAt
    rw [List.drop_zero, List.take_of_length_le (by omega)]
  rw [if_neg hlength, if_neg hlength, shiftIn_eq, decodeBigEndian_eq, hall]
  dsimp only
  split
  · rfl
  · rfl

theorem handlePurchase_eq : handlePurchase payload = decodePurchase payload := by
  unfold handlePurchase decodePurchase
  by_cases hlength : payload.length ≠ 12
  · rw [if_pos hlength, if_pos hlength]
  have hproduct : fieldAt payload 8 4 = ofBigEndian (payload.drop 8) := by
    unfold fieldAt
    rw [List.take_of_length_le]
    rw [List.length_drop]
    omega
  rw [if_neg hlength, if_neg hlength, shiftIn_eq, shiftIn_eq, decodeBigEndian_eq,
    decodeBigEndian_eq, hproduct]
  rfl

theorem handleEquipSkill_eq : handleEquipSkill payload = decodeEquipSkill payload := by
  unfold handleEquipSkill decodeEquipSkill
  by_cases hlength : payload.length ≠ 4
  · rw [if_pos hlength, if_pos hlength]
  have hall : fieldAt payload 0 4 = ofBigEndian payload := by
    unfold fieldAt
    rw [List.drop_zero, List.take_of_length_le (by omega)]
  rw [if_neg hlength, if_neg hlength, shiftIn_eq, decodeBigEndian_eq, hall]

end Handlers

/-! The parsers of the gateway do so too, but refuse the Room zero. -/

section Parsers

open Snf.Server.ProtocolGateway Snf.Adapter

variable (payload : List UInt8)

theorem parseRoom_eq {request : RoomId → RoomRequest} (hrequest : ∀ target,
    (GameRequest.room (request target)).named = (target != 0)) :
    (parseRoom request payload).map GameRequest.room =
      ((if payload.length ≠ 8 then none else some (request (decodeBigEndian payload 0 8))).map
        GameRequest.room).filter GameRequest.named := by
  unfold parseRoom
  by_cases hlength : payload.length ≠ 8
  · rw [if_pos hlength, if_pos hlength]
    rfl
  rw [if_neg hlength, if_neg hlength, readU64_eq (by omega), decodeBigEndian_eq]
  by_cases hzero : fieldAt payload 0 8 = 0
  · simp [hzero, Option.filter, hrequest]
  · simp [hzero, Option.filter, hrequest]

theorem parseUseSkill_eq : (parseUseSkill payload).map GameRequest.room =
    ((decodeUseSkill payload).map GameRequest.room).filter GameRequest.named := by
  unfold parseUseSkill decodeUseSkill
  by_cases hlength : payload.length ≠ 20
  · rw [if_pos hlength, if_pos hlength]
    rfl
  rw [if_neg hlength, if_neg hlength, readU64_eq (by omega), readU64_eq (by omega),
    readU32_eq (by omega), decodeBigEndian_eq, decodeBigEndian_eq, decodeBigEndian_eq]
  by_cases hskill : fieldAt payload 8 4 = 0
  · simp [hskill]
  by_cases hsequence : fieldAt payload 12 8 = 0
  · simp [hsequence]
  by_cases hzero : fieldAt payload 0 8 = 0
  · simp [hskill, hsequence, hzero, Option.filter, GameRequest.named]
  · simp [hskill, hsequence, hzero, Option.filter, GameRequest.named]

theorem parseSetMoveIntent_eq : (parseSetMoveIntent payload).map GameRequest.room =
    ((decodeSetMoveIntent payload).map GameRequest.room).filter GameRequest.named := by
  unfold parseSetMoveIntent decodeSetMoveIntent
  by_cases hlength : payload.length ≠ 17
  · rw [if_pos hlength, if_pos hlength]
    rfl
  rw [if_neg hlength, if_neg hlength, readU64_eq (by omega), readU64_eq (by omega),
    byteAt_eq (by omega), decodeBigEndian_eq, decodeBigEndian_eq, decodeBigEndian_eq]
  dsimp only
  cases moveDirections[fieldAt payload 8 1]? with
  | none => rfl
  | some direction =>
    by_cases hchecked : fieldAt payload 9 8 = 0
    · simp [hchecked]
    by_cases hzero : fieldAt payload 0 8 = 0
    · simp [hchecked, hzero, Option.filter, GameRequest.named]
    · simp [hchecked, hzero, Option.filter, GameRequest.named]

theorem parseEnterZone_eq : parseEnterZone payload = decodeEnterZone payload := by
  unfold parseEnterZone decodeEnterZone
  by_cases hlength : payload.length ≠ 16
  · rw [if_pos hlength, if_pos hlength]
  rw [if_neg hlength, if_neg hlength, readU64_eq (by omega), readI32_eq (by omega),
    readI32_eq (by omega), decodeBigEndian_eq]

theorem parseMove_eq : parseMove payload = decodeMove payload := by
  unfold parseMove decodeMove
  by_cases hlength : payload.length ≠ 8
  · rw [if_pos hlength, if_pos hlength]
  rw [if_neg hlength, if_neg hlength, readI32_eq (by omega), readI32_eq (by omega)]

end Parsers

theorem filter_named_zone (request : Option ZoneRequest) :
    (request.map GameRequest.zone).filter GameRequest.named = request.map GameRequest.zone := by
  cases request with
  | none => rfl
  | some request => rfl

theorem filter_named_command (command : Option PlayerCommand) :
    (command.map GameRequest.command).filter GameRequest.named =
      command.map GameRequest.command := by
  cases command with
  | none => rfl
  | some command => rfl

/-- **The legacy server accepts what the sink accepts, but for the Room zero**, and decodes it
alike. -/
theorem legacyDecode_eq (type : MessageType) (payload : List UInt8) :
    legacyDecode type payload = (sinkDecode type payload).filter GameRequest.named := by
  cases type with
  | authenticate =>
    show ((Server.MessageDispatcher.dispatch .authenticate payload).command.map _) = _
    rw [Server.MessageDispatcher.command_dispatch]
    show (Server.MessageDispatcher.handleAuthenticate payload).map _ = _
    rw [handleAuthenticate_eq, ← filter_named_command, Option.map_map]
    rfl
  | purchase =>
    show ((Server.MessageDispatcher.dispatch .purchase payload).command.map _) = _
    rw [Server.MessageDispatcher.command_dispatch]
    show (Server.MessageDispatcher.handlePurchase payload).map _ = _
    rw [handlePurchase_eq]
    exact (filter_named_command _).symm
  | equipSkill =>
    show ((Server.MessageDispatcher.dispatch .equipSkill payload).command.map _) = _
    rw [Server.MessageDispatcher.command_dispatch]
    show (Server.MessageDispatcher.handleEquipSkill payload).map _ = _
    rw [handleEquipSkill_eq]
    exact (filter_named_command _).symm
  | roomJoin => exact parseRoom_eq payload (fun _ => rfl)
  | battleStart => exact parseRoom_eq payload (fun _ => rfl)
  | useSkill => exact parseUseSkill_eq payload
  | setMoveIntent => exact parseSetMoveIntent_eq payload
  | roomLeave =>
    show (if payload ≠ [] then none else some RoomRequest.roomLeave).map _ =
      ((if payload ≠ [] then none else some RoomRequest.roomLeave).map _).filter _
    split
    · rfl
    · rfl
  | enterZone =>
    show (Server.ProtocolGateway.parseEnterZone payload).map _ = _
    rw [parseEnterZone_eq]
    exact (filter_named_zone _).symm
  | leaveZone => exact (filter_named_zone _).symm
  | move =>
    show (Server.ProtocolGateway.parseMove payload).map _ = _
    rw [parseMove_eq]
    exact (filter_named_zone _).symm
  | _ => rfl

/-! ## What an accepted payload is -/

/-- An accepted payload, the request it is decoded to, and the values both have. -/
structure Decoded (type : MessageType) (payload : List UInt8) (q : GameRequest) : Prop where
  length : payload.length = (formatOf type payload).size
  type_eq : q.type = some type
  values : q.values = (formatOf type payload).unpack payload

theorem unpack_replicate_u8 (payload : List UInt8) :
    Format.unpack (List.replicate payload.length .u8) payload =
      payload.map fun byte => (byte.toNat : Int) := by
  induction payload with
  | nil => rfl
  | cons byte payload ih =>
    rw [List.length_cons, List.replicate_succ, Format.unpack_cons rfl _ (Nat.le_add_left _ _),
      List.map_cons]
    refine congrArg₂ List.cons ?_ ih
    simp [Field.u8, ofBigEndian]

theorem size_replicate_u8 (n : Nat) : Format.size (List.replicate n .u8) = n := by
  induction n with
  | zero => rfl
  | succ n ih =>
    rw [List.replicate_succ, Format.size_cons, ih]
    exact Nat.add_comm 1 n

/-- The values from an offset on, the first of which is unsigned. -/
theorem unpack_drop {payload : List UInt8} {f : Field} (hf : f.signed = false) (format : Format)
    {offset : Nat} (h : offset + f.width ≤ payload.length) :
    Format.unpack (f :: format) (payload.drop offset) =
      (fieldAt payload offset f.width : Int) :: format.unpack (payload.drop (offset + f.width)) := by
  rw [Format.unpack_cons hf format, List.drop_drop]
  · rfl
  · rw [List.length_drop]
    omega

theorem unpack_drop_i32 {payload : List UInt8} (format : Format) {offset : Nat}
    (h : offset + 4 ≤ payload.length) :
    Format.unpack (.i32 :: format) (payload.drop offset) =
      (decodeInt32 payload offset).toInt :: format.unpack (payload.drop (offset + 4)) := by
  rw [toInt_decodeInt32 h, Format.unpack, List.drop_drop]
  rfl

theorem idxOf_moveDirections {n : Nat} {direction : MoveDirection}
    (h : moveDirections[n]? = some direction) : moveDirections.idxOf direction = n := by
  have hnodup : moveDirections.Nodup := by decide
  obtain ⟨hlt, heq⟩ := List.getElem?_eq_some_iff.1 h
  rw [← heq]
  exact hnodup.idxOf_getElem n hlt

/-! When the sink accepts a payload, and what it decodes it to. -/

section Accepted

open Snf.Adapter

variable {payload : List UInt8}

theorem decodePlayerId_eq_some {player : PlayerId} : decodePlayerId payload = some player ↔
    payload.length = 8 ∧ fieldAt payload 0 8 ≠ 0 ∧ player = fieldAt payload 0 8 := by
  unfold decodePlayerId
  rw [decodeBigEndian_eq]
  by_cases hlength : payload.length = 8
  · simp [hlength, eq_comm]
  · simp [hlength]

theorem decodePurchase_eq_some {command : PlayerCommand} :
    decodePurchase payload = some command ↔
      payload.length = 12 ∧ fieldAt payload 0 8 ≠ 0 ∧ fieldAt payload 8 4 ≠ 0 ∧
        command = .purchase (fieldAt payload 0 8) (fieldAt payload 8 4) := by
  unfold decodePurchase
  rw [decodeBigEndian_eq, decodeBigEndian_eq]
  by_cases hlength : payload.length = 12
  · simp [hlength, and_assoc, @eq_comm _ command]
  · simp [hlength]

theorem decodeEquipSkill_eq_some {command : PlayerCommand} :
    decodeEquipSkill payload = some command ↔
      payload.length = 4 ∧ fieldAt payload 0 4 ≠ 0 ∧
        command = .equipSkill (fieldAt payload 0 4) := by
  unfold decodeEquipSkill
  rw [decodeBigEndian_eq]
  by_cases hlength : payload.length = 4
  · simp [hlength, eq_comm]
  · simp [hlength]

theorem decodeEnterZone_eq_some {request : ZoneRequest} :
    decodeEnterZone payload = some request ↔
      payload.length = 16 ∧ request = .enterZone (fieldAt payload 0 8)
        { x := decodeInt32 payload 8, y := decodeInt32 payload 12 } := by
  unfold decodeEnterZone
  rw [decodeBigEndian_eq]
  by_cases hlength : payload.length = 16
  · simp [hlength, eq_comm]
  · simp [hlength]

theorem decodeMove_eq_some {request : ZoneRequest} :
    decodeMove payload = some request ↔
      payload.length = 8 ∧
        request = .move { x := decodeInt32 payload 0, y := decodeInt32 payload 4 } := by
  unfold decodeMove
  by_cases hlength : payload.length = 8
  · simp [hlength, eq_comm]
  · simp [hlength]

theorem decodeRoomJoin_eq_some {request : RoomRequest} :
    decodeRoomJoin payload = some request ↔
      payload.length = 8 ∧ request = .roomJoin (fieldAt payload 0 8) := by
  unfold decodeRoomJoin
  rw [decodeBigEndian_eq]
  by_cases hlength : payload.length = 8
  · simp [hlength, eq_comm]
  · simp [hlength]

theorem decodeBattleStart_eq_some {request : RoomRequest} :
    decodeBattleStart payload = some request ↔
      payload.length = 8 ∧ request = .battleStart (fieldAt payload 0 8) := by
  unfold decodeBattleStart
  rw [decodeBigEndian_eq]
  by_cases hlength : payload.length = 8
  · simp [hlength, eq_comm]
  · simp [hlength]

theorem decodeUseSkill_eq_some {request : RoomRequest} :
    decodeUseSkill payload = some request ↔
      payload.length = 20 ∧ fieldAt payload 8 4 ≠ 0 ∧ fieldAt payload 12 8 ≠ 0 ∧
        request = .useSkill (fieldAt payload 0 8) (fieldAt payload 8 4) (fieldAt payload 12 8) := by
  unfold decodeUseSkill
  rw [decodeBigEndian_eq, decodeBigEndian_eq, decodeBigEndian_eq]
  by_cases hlength : payload.length = 20
  · simp [hlength, and_assoc, @eq_comm _ request]
  · simp [hlength]

theorem decodeSetMoveIntent_eq_some {request : RoomRequest} :
    decodeSetMoveIntent payload = some request ↔
      payload.length = 17 ∧ fieldAt payload 9 8 ≠ 0 ∧ ∃ direction,
        moveDirections[fieldAt payload 8 1]? = some direction ∧
          request = .setMoveIntent (fieldAt payload 0 8) direction (fieldAt payload 9 8) := by
  unfold decodeSetMoveIntent
  rw [decodeBigEndian_eq, decodeBigEndian_eq, decodeBigEndian_eq]
  by_cases hlength : payload.length = 17
  · cases moveDirections[fieldAt payload 8 1]? with
    | none => simp [hlength]
    | some direction => simp [hlength, eq_comm]
  · simp [hlength]

end Accepted

/-! The values of a payload of each format. -/

section Values

variable {payload : List UInt8}

theorem unpack_id (h : payload.length = 8) :
    Format.unpack [.u64] payload = [(fieldAt payload 0 8 : Int)] :=
  unpack_drop (f := .u64) rfl [] (show 0 + 8 ≤ payload.length from Nat.le_of_eq h.symm)

theorem unpack_skill (h : payload.length = 4) :
    Format.unpack [.u32] payload = [(fieldAt payload 0 4 : Int)] :=
  unpack_drop (f := .u32) rfl [] (show 0 + 4 ≤ payload.length from Nat.le_of_eq h.symm)

theorem unpack_purchase (h : payload.length = 12) :
    Format.unpack [.u64, .u32] payload =
      [(fieldAt payload 0 8 : Int), (fieldAt payload 8 4 : Int)] := by
  show Format.unpack [.u64, .u32] (payload.drop 0) = _
  rw [unpack_drop rfl _ (show 0 + 8 ≤ payload.length by omega),
    unpack_drop rfl _ (show 8 + 4 ≤ payload.length by omega)]
  rfl

theorem unpack_enterZone (h : payload.length = 16) :
    Format.unpack [.u64, .i32, .i32] payload =
      [(fieldAt payload 0 8 : Int), (decodeInt32 payload 8).toInt,
        (decodeInt32 payload 12).toInt] := by
  have hx := unpack_drop_i32 [.i32] (show 8 + 4 ≤ payload.length by omega)
  rw [unpack_drop_i32 _ (show 12 + 4 ≤ payload.length by omega)] at hx
  exact (unpack_drop (f := .u64) rfl _ (show 0 + 8 ≤ payload.length by omega)).trans
    (congrArg _ hx)

theorem unpack_move (h : payload.length = 8) :
    Format.unpack [.i32, .i32] payload =
      [(decodeInt32 payload 0).toInt, (decodeInt32 payload 4).toInt] := by
  show Format.unpack [.i32, .i32] (payload.drop 0) = _
  rw [unpack_drop_i32 _ (show 0 + 4 ≤ payload.length by omega),
    unpack_drop_i32 _ (show 4 + 4 ≤ payload.length by omega)]
  rfl

theorem unpack_useSkill (h : payload.length = 20) :
    Format.unpack [.u64, .u32, .u64] payload =
      [(fieldAt payload 0 8 : Int), (fieldAt payload 8 4 : Int), (fieldAt payload 12 8 : Int)] := by
  show Format.unpack [.u64, .u32, .u64] (payload.drop 0) = _
  rw [unpack_drop rfl _ (show 0 + 8 ≤ payload.length by omega),
    unpack_drop rfl _ (show 8 + 4 ≤ payload.length by omega),
    unpack_drop rfl _ (show 12 + 8 ≤ payload.length by omega)]
  rfl

theorem unpack_setMoveIntent (h : payload.length = 17) :
    Format.unpack [.u64, .u8, .u64] payload =
      [(fieldAt payload 0 8 : Int), (fieldAt payload 8 1 : Int), (fieldAt payload 9 8 : Int)] := by
  show Format.unpack [.u64, .u8, .u64] (payload.drop 0) = _
  rw [unpack_drop rfl _ (show 0 + 8 ≤ payload.length by omega),
    unpack_drop rfl _ (show 8 + 1 ≤ payload.length by omega),
    unpack_drop rfl _ (show 9 + 8 ≤ payload.length by omega)]
  rfl

end Values

/-- **What the sink accepts has the size of its format, and the request has its values.** -/
theorem sinkDecode_decoded {type : MessageType} {payload : List UInt8} {q : GameRequest}
    (h : sinkDecode type payload = some q) : Decoded type payload q := by
  cases type with
  | ping =>
    cases h
    exact ⟨(size_replicate_u8 _).symm, rfl, (unpack_replicate_u8 payload).symm⟩
  | authenticate =>
    obtain ⟨player, hplayer, rfl⟩ := Option.map_eq_some_iff.1 h
    obtain ⟨hlength, -, rfl⟩ := decodePlayerId_eq_some.1 hplayer
    exact ⟨hlength, rfl, (unpack_id hlength).symm⟩
  | purchase =>
    obtain ⟨command, hcommand, rfl⟩ := Option.map_eq_some_iff.1 h
    obtain ⟨hlength, -, -, rfl⟩ := decodePurchase_eq_some.1 hcommand
    exact ⟨hlength, rfl, (unpack_purchase hlength).symm⟩
  | equipSkill =>
    obtain ⟨command, hcommand, rfl⟩ := Option.map_eq_some_iff.1 h
    obtain ⟨hlength, -, rfl⟩ := decodeEquipSkill_eq_some.1 hcommand
    exact ⟨hlength, rfl, (unpack_skill hlength).symm⟩
  | enterZone =>
    obtain ⟨request, hrequest, rfl⟩ := Option.map_eq_some_iff.1 h
    obtain ⟨hlength, rfl⟩ := decodeEnterZone_eq_some.1 hrequest
    exact ⟨hlength, rfl, (unpack_enterZone hlength).symm⟩
  | move =>
    obtain ⟨request, hrequest, rfl⟩ := Option.map_eq_some_iff.1 h
    obtain ⟨hlength, rfl⟩ := decodeMove_eq_some.1 hrequest
    exact ⟨hlength, rfl, (unpack_move hlength).symm⟩
  | leaveZone =>
    obtain ⟨request, hrequest, rfl⟩ := Option.map_eq_some_iff.1 h
    unfold Adapter.decodeLeave at hrequest
    split at hrequest
    · cases hrequest
    next hempty =>
    cases hrequest
    exact ⟨congrArg List.length (not_not.1 hempty), rfl, rfl⟩
  | roomJoin =>
    obtain ⟨request, hrequest, rfl⟩ := Option.map_eq_some_iff.1 h
    obtain ⟨hlength, rfl⟩ := decodeRoomJoin_eq_some.1 hrequest
    exact ⟨hlength, rfl, (unpack_id hlength).symm⟩
  | battleStart =>
    obtain ⟨request, hrequest, rfl⟩ := Option.map_eq_some_iff.1 h
    obtain ⟨hlength, rfl⟩ := decodeBattleStart_eq_some.1 hrequest
    exact ⟨hlength, rfl, (unpack_id hlength).symm⟩
  | roomLeave =>
    obtain ⟨request, hrequest, rfl⟩ := Option.map_eq_some_iff.1 h
    unfold Adapter.decodeRoomLeave at hrequest
    split at hrequest
    · cases hrequest
    next hempty =>
    cases hrequest
    exact ⟨congrArg List.length (not_not.1 hempty), rfl, rfl⟩
  | useSkill =>
    obtain ⟨request, hrequest, rfl⟩ := Option.map_eq_some_iff.1 h
    obtain ⟨hlength, -, -, rfl⟩ := decodeUseSkill_eq_some.1 hrequest
    exact ⟨hlength, rfl, (unpack_useSkill hlength).symm⟩
  | setMoveIntent =>
    obtain ⟨request, hrequest, rfl⟩ := Option.map_eq_some_iff.1 h
    obtain ⟨hlength, -, direction, hdirection, rfl⟩ := decodeSetMoveIntent_eq_some.1 hrequest
    refine ⟨hlength, rfl, ?_⟩
    rw [GameRequest.values, idxOf_moveDirections hdirection]
    exact (unpack_setMoveIntent hlength).symm
  | _ => cases h

/-! ## The client -/

/-- A call of one of the client's builders. -/
inductive ClientRequest where
  | authenticate (playerId : Int)
  | purchase (idempotencyKey productId : Int)
  | equipSkill (skillId : Int)
  | enterZone (zoneId x y : Int)
  | moveInZone (x y : Int)
  | leaveZone
  | roomJoin (roomId : Int)
  | battleStart (roomId : Int)
  | roomLeave
  | useSkill (roomId skillId seq : Int)
  | setMoveIntent (roomId direction seq : Int)
deriving DecidableEq, Repr

namespace ClientRequest

def build : ClientRequest → Except String (List UInt8)
  | .authenticate playerId => Client.authenticate playerId
  | .purchase idempotencyKey productId => Client.purchase idempotencyKey productId
  | .equipSkill skillId => Client.equipSkill skillId
  | .enterZone zoneId x y => Client.enterZone zoneId x y
  | .moveInZone x y => Client.moveInZone x y
  | .leaveZone => .ok Client.leaveZone
  | .roomJoin roomId => Client.roomJoin roomId
  | .battleStart roomId => Client.battleStart roomId
  | .roomLeave => .ok Client.roomLeave
  | .useSkill roomId skillId seq => Client.useSkill roomId skillId seq
  | .setMoveIntent roomId direction seq => Client.setMoveIntent roomId direction seq

/-- The type under which the client sends it. -/
def type : ClientRequest → MessageType
  | .authenticate _ => .authenticate
  | .purchase _ _ => .purchase
  | .equipSkill _ => .equipSkill
  | .enterZone _ _ _ => .enterZone
  | .moveInZone _ _ => .move
  | .leaveZone => .leaveZone
  | .roomJoin _ => .roomJoin
  | .battleStart _ => .battleStart
  | .roomLeave => .roomLeave
  | .useSkill _ _ _ => .useSkill
  | .setMoveIntent _ _ _ => .setMoveIntent

def values : ClientRequest → List Int
  | .authenticate playerId => [playerId]
  | .purchase idempotencyKey productId => [idempotencyKey, productId]
  | .equipSkill skillId => [skillId]
  | .enterZone zoneId x y => [zoneId, x, y]
  | .moveInZone x y => [x, y]
  | .leaveZone => []
  | .roomJoin roomId => [roomId]
  | .battleStart roomId => [roomId]
  | .roomLeave => []
  | .useSkill roomId skillId seq => [roomId, skillId, seq]
  | .setMoveIntent roomId direction seq => [roomId, direction, seq]

/-- The values that the builder wants to be other than zero, and the range of directions. -/
def Checked : ClientRequest → Prop
  | .authenticate playerId => playerId ≠ 0
  | .purchase idempotencyKey productId => idempotencyKey ≠ 0 ∧ productId ≠ 0
  | .equipSkill skillId => skillId ≠ 0
  | .roomJoin roomId => roomId ≠ 0
  | .battleStart roomId => roomId ≠ 0
  | .useSkill roomId skillId seq => roomId ≠ 0 ∧ skillId ≠ 0 ∧ seq ≠ 0
  | .setMoveIntent roomId direction seq =>
    roomId ≠ 0 ∧ seq ≠ 0 ∧ 0 ≤ direction ∧ direction ≤ 8
  | _ => True

theorem structPack_eq_ok {format : Format} {values : List Int} {bytes : List UInt8} :
    structPack format values = .ok bytes ↔ format.pack values = some bytes := by
  unfold structPack
  cases format.pack values with
  | none => simp
  | some packed => simp

theorem packNonZero_eq_ok {required : List (Int × String)} {format : Format} {values : List Int}
    {bytes : List UInt8} : packNonZero required format values = .ok bytes ↔
      (∀ value ∈ required, value.1 ≠ 0) ∧ format.pack values = some bytes := by
  unfold packNonZero
  cases hfind : required.find? (·.1 = 0) with
  | none =>
    rw [structPack_eq_ok]
    rw [List.find?_eq_none] at hfind
    simp only [decide_eq_true_eq] at hfind
    exact (and_iff_right hfind).symm
  | some value =>
    have hzero : value.1 = 0 := by simpa using List.find?_some hfind
    have hmem := List.mem_of_find?_eq_some hfind
    constructor
    · intro h
      cases h
    · rintro ⟨hrequired, -⟩
      exact absurd hzero (hrequired value hmem)

/-- A builder accepts the values that pass its checks and fit their fields. -/
theorem build_eq_ok (r : ClientRequest) (payload : List UInt8) :
    r.build = .ok payload ↔ r.Checked ∧ (formatOf r.type payload).pack r.values = some payload := by
  cases r with
  | enterZone zoneId x y => exact structPack_eq_ok.trans (and_iff_right trivial).symm
  | moveInZone x y => exact structPack_eq_ok.trans (and_iff_right trivial).symm
  | leaveZone => simp [build, Client.leaveZone, Checked, formatOf, type, values, Format.pack]
  | roomLeave => simp [build, Client.roomLeave, Checked, formatOf, type, values, Format.pack]
  | setMoveIntent roomId direction seq =>
    have hlast : directionValue .northWest = 8 := rfl
    show Client.setMoveIntent roomId direction seq = .ok payload ↔ _
    unfold Client.setMoveIntent
    rw [hlast]
    constructor
    · intro h
      split at h
      · cases h
      split at h
      · cases h
      split at h
      · cases h
      next hroom hseq hdirection =>
      exact ⟨⟨hroom, hseq, by omega, by omega⟩, structPack_eq_ok.1 h⟩
    · rintro ⟨⟨hroom, hseq, hlow, hhigh⟩, hpack⟩
      rw [if_neg hroom, if_neg hseq, if_neg (by omega)]
      exact structPack_eq_ok.2 hpack
  | _ => exact packNonZero_eq_ok.trans (and_congr_left' (by simp [Checked]))

/-- The payload of an accepted request, and the values in it. -/
theorem build_unpack {r : ClientRequest} {payload : List UInt8} (h : r.build = .ok payload) :
    payload.length = (formatOf r.type payload).size ∧
      (formatOf r.type payload).unpack payload = r.values := by
  obtain ⟨-, hpack⟩ := (build_eq_ok r payload).1 h
  have hvalues := Format.unpack_pack hpack []
  rw [List.append_nil] at hvalues
  exact ⟨Format.length_pack hpack, hvalues⟩

/-- **The sink accepts every payload that a builder returns.** -/
theorem sinkDecode_build {r : ClientRequest} {payload : List UInt8} (h : r.build = .ok payload) :
    ∃ q, sinkDecode r.type payload = some q ∧ q.named = true := by
  obtain ⟨hchecked, -⟩ := (build_eq_ok r payload).1 h
  obtain ⟨hlength, hvalues⟩ := build_unpack h
  cases r with
  | authenticate playerId =>
    rw [show formatOf _ payload = [.u64] from rfl, unpack_id hlength] at hvalues
    cases hvalues
    refine ⟨_, Option.map_eq_some_iff.2 ⟨_, decodePlayerId_eq_some.2 ⟨hlength, ?_, rfl⟩, rfl⟩, rfl⟩
    exact Int.natCast_ne_zero.1 hchecked
  | purchase idempotencyKey productId =>
    rw [show formatOf _ payload = [.u64, .u32] from rfl, unpack_purchase hlength] at hvalues
    cases hvalues
    refine ⟨_, Option.map_eq_some_iff.2
      ⟨_, decodePurchase_eq_some.2 ⟨hlength, ?_, ?_, rfl⟩, rfl⟩, rfl⟩
    · exact Int.natCast_ne_zero.1 hchecked.1
    · exact Int.natCast_ne_zero.1 hchecked.2
  | equipSkill skillId =>
    rw [show formatOf _ payload = [.u32] from rfl, unpack_skill hlength] at hvalues
    cases hvalues
    refine ⟨_, Option.map_eq_some_iff.2
      ⟨_, decodeEquipSkill_eq_some.2 ⟨hlength, ?_, rfl⟩, rfl⟩, rfl⟩
    exact Int.natCast_ne_zero.1 hchecked
  | enterZone zoneId x y =>
    exact ⟨_, Option.map_eq_some_iff.2 ⟨_, decodeEnterZone_eq_some.2 ⟨hlength, rfl⟩, rfl⟩, rfl⟩
  | moveInZone x y =>
    exact ⟨_, Option.map_eq_some_iff.2 ⟨_, decodeMove_eq_some.2 ⟨hlength, rfl⟩, rfl⟩, rfl⟩
  | leaveZone =>
    cases h
    exact ⟨_, rfl, rfl⟩
  | roomJoin roomId =>
    rw [show formatOf _ payload = [.u64] from rfl, unpack_id hlength] at hvalues
    cases hvalues
    refine ⟨_, Option.map_eq_some_iff.2 ⟨_, decodeRoomJoin_eq_some.2 ⟨hlength, rfl⟩, rfl⟩, ?_⟩
    exact bne_iff_ne.2 (Int.natCast_ne_zero.1 hchecked)
  | battleStart roomId =>
    rw [show formatOf _ payload = [.u64] from rfl, unpack_id hlength] at hvalues
    cases hvalues
    refine ⟨_, Option.map_eq_some_iff.2 ⟨_, decodeBattleStart_eq_some.2 ⟨hlength, rfl⟩, rfl⟩, ?_⟩
    exact bne_iff_ne.2 (Int.natCast_ne_zero.1 hchecked)
  | roomLeave =>
    cases h
    exact ⟨_, rfl, rfl⟩
  | useSkill roomId skillId seq =>
    rw [show formatOf _ payload = [.u64, .u32, .u64] from rfl, unpack_useSkill hlength] at hvalues
    cases hvalues
    obtain ⟨hroom, hskill, hseq⟩ := hchecked
    refine ⟨_, Option.map_eq_some_iff.2
      ⟨_, decodeUseSkill_eq_some.2 ⟨hlength, ?_, ?_, rfl⟩, rfl⟩, ?_⟩
    · exact Int.natCast_ne_zero.1 hskill
    · exact Int.natCast_ne_zero.1 hseq
    · exact bne_iff_ne.2 (Int.natCast_ne_zero.1 hroom)
  | setMoveIntent roomId direction seq =>
    rw [show formatOf _ payload = [.u64, .u8, .u64] from rfl,
      unpack_setMoveIntent hlength] at hvalues
    cases hvalues
    obtain ⟨hroom, hseq, -, hhigh⟩ := hchecked
    have hvalid : fieldAt payload 8 1 < moveDirections.length := by
      show fieldAt payload 8 1 < 9
      omega
    refine ⟨_, Option.map_eq_some_iff.2 ⟨_, decodeSetMoveIntent_eq_some.2
      ⟨hlength, ?_, _, List.getElem?_eq_getElem hvalid, rfl⟩, rfl⟩, ?_⟩
    · exact Int.natCast_ne_zero.1 hseq
    · exact bne_iff_ne.2 (Int.natCast_ne_zero.1 hroom)

end ClientRequest

theorem formatOf_eq {type : MessageType} (h : type ≠ .ping) (payload payload' : List UInt8) :
    formatOf type payload = formatOf type payload' := by
  cases type with
  | ping => exact absurd rfl h
  | _ => rfl

/-- A payload is determined by the request it is decoded to. -/
theorem sinkDecode_injective {type : MessageType} {payload payload' : List UInt8} {q : GameRequest}
    (h : sinkDecode type payload = some q) (h' : sinkDecode type payload' = some q) :
    payload = payload' := by
  by_cases hping : type = .ping
  · subst hping
    cases h
    cases h'
    rfl
  obtain ⟨hlength, -, hvalues⟩ := sinkDecode_decoded h
  obtain ⟨hlength', -, hvalues'⟩ := sinkDecode_decoded h'
  rw [formatOf_eq hping payload' payload] at hlength' hvalues'
  exact Format.unpack_injective hlength hlength' (hvalues.symm.trans hvalues')

theorem sinkDecode_of_legacyDecode {type : MessageType} {payload : List UInt8} {q : GameRequest}
    (h : legacyDecode type payload = some q) : sinkDecode type payload = some q := by
  rw [legacyDecode_eq] at h
  exact (Option.filter_eq_some_iff.1 h).1

theorem ClientRequest.exists_build (r : ClientRequest) : (∃ payload, r.build = .ok payload) ↔
    r.Checked ∧ List.Forall₂ Field.Fits (formatOf r.type []) r.values := by
  have hping : r.type ≠ .ping := by cases r <;> exact fun h => nomatch h
  constructor
  · rintro ⟨payload, hbuild⟩
    obtain ⟨hchecked, hpack⟩ := (build_eq_ok r payload).1 hbuild
    rw [formatOf_eq hping payload []] at hpack
    exact ⟨hchecked, Format.fits_of_pack hpack⟩
  · rintro ⟨hchecked, hfits⟩
    obtain ⟨payload, hpack⟩ := Format.pack_of_fits hfits
    rw [formatOf_eq hping [] payload] at hpack
    exact ⟨payload, (build_eq_ok r payload).2 ⟨hchecked, hpack⟩⟩

/-- **Requests on the wire.** A payload that a builder of the client returns is accepted by both
servers, which decode it to one request, of the client's type and with the values that were
packed. Every payload that both servers accept is decoded alike, and neither decodes two payloads
of one type to the same request. The builders accept exactly the values that pass their checks and
fit their fields. -/
theorem request_wire_agreement :
    (∀ (r : ClientRequest) (payload : List UInt8), r.build = .ok payload →
      ∃ q, legacyDecode r.type payload = some q ∧ sinkDecode r.type payload = some q ∧
        q.type = some r.type ∧ q.values = r.values) ∧
    (∀ (type : MessageType) (payload : List UInt8) (q q' : GameRequest),
      legacyDecode type payload = some q → sinkDecode type payload = some q' → q = q') ∧
    (∀ (type : MessageType) (payload payload' : List UInt8) (q : GameRequest),
      legacyDecode type payload = some q → legacyDecode type payload' = some q →
        payload = payload') ∧
    (∀ (type : MessageType) (payload payload' : List UInt8) (q : GameRequest),
      sinkDecode type payload = some q → sinkDecode type payload' = some q →
        payload = payload') ∧
    (∀ r : ClientRequest, (∃ payload, r.build = .ok payload) ↔
      r.Checked ∧ List.Forall₂ Field.Fits (formatOf r.type []) r.values) := by
  refine ⟨?_, ?_, ?_, fun _ _ _ _ => sinkDecode_injective, ClientRequest.exists_build⟩
  · intro r payload hbuild
    obtain ⟨q, hsink, hnamed⟩ := ClientRequest.sinkDecode_build hbuild
    obtain ⟨-, htype, hvalues⟩ := sinkDecode_decoded hsink
    refine ⟨q, ?_, hsink, htype, hvalues.trans (ClientRequest.build_unpack hbuild).2⟩
    rw [legacyDecode_eq, hsink]
    exact if_pos hnamed
  · intro type payload q q' hlegacy hsink
    rw [sinkDecode_of_legacyDecode hlegacy] at hsink
    exact Option.some.inj hsink
  · intro type payload payload' q hlegacy hlegacy'
    exact sinkDecode_injective (sinkDecode_of_legacyDecode hlegacy)
      (sinkDecode_of_legacyDecode hlegacy')

end Snf.Client
