import Snf.Protocol.FrameCodec

/-! # Payloads of the legacy server

`MessageDispatcher` turns the frames of the Player's own requests into commands, and the branches
of `ProtocolGateway::tryPost` parse those of the requests to Zones and Rooms. Here is what is read
from a payload and when it is refused; the checks against sessions and routes, which stand between
them in the source, belong to the gateway.
-/

namespace Snf.Server

open Snf.Game
open Snf.Adapter (MessageType ZoneRequest RoomRequest moveDirections)
open Snf.Protocol (readU32BigEndian byteAt)

inductive DispatchStatus where
  | handled | handlerNotFound | invalidPayload
deriving DecidableEq, Repr

structure DispatchResult where
  status : DispatchStatus
  command : Option PlayerCommand := none
deriving DecidableEq, Repr

namespace MessageDispatcher

/-- The loops of the handlers over a range of bytes. The ranges are as wide as the types of the
values, so nothing is shifted out. -/
def shiftIn (bytes : List UInt8) : Nat :=
  bytes.foldl (fun value byte => (value <<< 8) ||| byte.toNat) 0

def handleAuthenticate (payload : List UInt8) : Option PlayerCommand :=
  if payload.length ≠ 8 then none
  else
    let player := shiftIn payload
    if player = 0 then none else some (.authenticate player)

def handlePurchase (payload : List UInt8) : Option PlayerCommand :=
  if payload.length ≠ 12 then none
  else
    let key := shiftIn (payload.take 8)
    let product := shiftIn (payload.drop 8)
    if key = 0 || product = 0 then none else some (.purchase key product)

def handleEquipSkill (payload : List UInt8) : Option PlayerCommand :=
  if payload.length ≠ 4 then none
  else
    let skillId := shiftIn payload
    if skillId = 0 then none else some (.equipSkill skillId)

/-- The handlers that the constructor registers. -/
def handler : MessageType → Option (List UInt8 → Option PlayerCommand)
  | .ping => some fun payload => some (.ping payload)
  | .authenticate => some handleAuthenticate
  | .purchase => some handlePurchase
  | .equipSkill => some handleEquipSkill
  | _ => none

def dispatch (type : MessageType) (payload : List UInt8) : DispatchResult :=
  match handler type with
  | none => { status := .handlerNotFound }
  | some handle =>
    match handle payload with
    | none => { status := .invalidPayload }
    | some command => { status := .handled, command := some command }

theorem command_dispatch (type : MessageType) (payload : List UInt8) :
    (dispatch type payload).command = (handler type).bind (· payload) := by
  unfold dispatch
  cases handler type with
  | none => rfl
  | some handle =>
    dsimp only [Option.bind_some]
    split
    · next hnone => exact hnone.symm
    · next hsome => exact hsome.symm

end MessageDispatcher

namespace ProtocolGateway

def readU64 (bytes : List UInt8) (offset : Nat) : Nat :=
  (readU32BigEndian bytes offset <<< 32) ||| readU32BigEndian bytes (offset + 4)

/-- `static_cast<std::int32_t>` of `read_u32`. -/
def readI32 (bytes : List UInt8) (offset : Nat) : Int32 :=
  (UInt32.ofNat (readU32BigEndian bytes offset)).toInt32

/-- The payload of a request that names a Room and nothing else. -/
def parseRoom (request : RoomId → RoomRequest) (payload : List UInt8) : Option RoomRequest :=
  if payload.length ≠ 8 then none
  else
    let room := readU64 payload 0
    if room = 0 then none else some (request room)

def parseRoomJoin (payload : List UInt8) : Option RoomRequest := parseRoom .roomJoin payload

def parseBattleStart (payload : List UInt8) : Option RoomRequest := parseRoom .battleStart payload

def parseUseSkill (payload : List UInt8) : Option RoomRequest :=
  if payload.length ≠ 20 then none
  else
    let room := readU64 payload 0
    let skillId := readU32BigEndian payload 8
    let requestSequence := readU64 payload 12
    if room = 0 || skillId = 0 || requestSequence = 0 then none
    else some (.useSkill room skillId requestSequence)

def parseSetMoveIntent (payload : List UInt8) : Option RoomRequest :=
  if payload.length ≠ 17 then none
  else
    let room := readU64 payload 0
    let rawDirection := byteAt payload 8
    let requestSequence := readU64 payload 9
    match moveDirections[rawDirection]? with
    | none => none
    | some direction =>
      if room = 0 || requestSequence = 0 then none
      else some (.setMoveIntent room direction requestSequence)

def parseRoomLeave (payload : List UInt8) : Option RoomRequest :=
  if payload ≠ [] then none else some .roomLeave

def parseEnterZone (payload : List UInt8) : Option ZoneRequest :=
  if payload.length ≠ 16 then none
  else some (.enterZone (readU64 payload 0) { x := readI32 payload 8, y := readI32 payload 12 })

def parseLeaveZone (payload : List UInt8) : Option ZoneRequest :=
  if payload ≠ [] then none else some .leave

def parseMove (payload : List UInt8) : Option ZoneRequest :=
  if payload.length ≠ 8 then none
  else some (.move { x := readI32 payload 0, y := readI32 payload 4 })

end ProtocolGateway

end Snf.Server
