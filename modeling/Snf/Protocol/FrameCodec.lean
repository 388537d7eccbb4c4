import Snf.Adapter.GameRequestSink
import Snf.Lib.BigEndian
import Snf.Lib.Parsing

/-! # The frame codec

`encode_frame` and `FrameDecoder` of the protocol library. A frame is a length, a message type, a
request id and a payload. The decoder keeps the received bytes in a buffer with an offset of the
bytes it has already decoded, and drops those lazily.

The type of a frame is any 16-bit number, as the source's enumeration can hold any.
-/

namespace Snf.Protocol

open Snf.Lib
open Snf.Adapter (MessageType)

/-! ## Frames -/

def frameLengthFieldSize : Nat := 4
def frameTypeSize : Nat := 2
def frameRequestIdSize : Nat := 4
def minBodySize : Nat := frameTypeSize + frameRequestIdSize
def maxBodySize : Nat := 64 * 1024
def maxPayloadSize : Nat := maxBodySize - minBodySize

def messageTypes : List MessageType :=
  [.ping, .pong, .authenticate, .authenticated, .enterZone, .zoneEntered, .move, .moved,
    .leaveZone, .zoneLeft, .purchase, .purchaseResult, .roomJoin, .roomJoined, .battleStart,
    .battleStarted, .battleCleared, .roomLeave, .roomLeft, .returnedToZone, .useSkill,
    .skillApplied, .battleFailed, .battleDigest, .skillAcknowledged, .setMoveIntent,
    .moveAcknowledged, .equipSkill, .equipSkillResult]

/-- The number of a message type on the wire. The numbers 13 to 16 are not used. -/
def messageCode : MessageType → UInt16
  | .ping => 1 | .pong => 2 | .authenticate => 3 | .authenticated => 4 | .enterZone => 5
  | .zoneEntered => 6 | .move => 7 | .moved => 8 | .leaveZone => 9 | .zoneLeft => 10
  | .purchase => 11 | .purchaseResult => 12 | .roomJoin => 17 | .roomJoined => 18
  | .battleStart => 19 | .battleStarted => 20 | .battleCleared => 21 | .roomLeave => 22
  | .roomLeft => 23 | .returnedToZone => 24 | .useSkill => 25 | .skillApplied => 26
  | .battleFailed => 27 | .battleDigest => 28 | .skillAcknowledged => 29 | .setMoveIntent => 30
  | .moveAcknowledged => 31 | .equipSkill => 32 | .equipSkillResult => 33

def isKnownMessageType (type : UInt16) : Bool := messageTypes.any (messageCode · = type)

structure Frame where
  type : UInt16
  requestId : UInt32
  payload : List UInt8
deriving DecidableEq, Repr

def encodeFrame (frame : Frame) : Except String (List UInt8) :=
  if !isKnownMessageType frame.type then .error "Unknown message type"
  else if frame.payload.length > maxPayloadSize then
    .error "Frame body exceeds the configured maximum size"
  else
    .ok (bigEndian 4 (minBodySize + frame.payload.length) ++ bigEndian 2 frame.type.toNat ++
      bigEndian 4 frame.requestId.toNat ++ frame.payload)

/-! ## The decoder -/

inductive DecodeError where
  | invalidBodyLength | bodyTooLarge | unknownMessageType
deriving DecidableEq, Repr

structure DecodeNextResult where
  frame : Option Frame := none
  error : Option DecodeError := none
deriving DecidableEq, Repr

structure FrameDecoder where
  buffer : List UInt8 := []
  readOffset : Nat := 0
  bounded : readOffset ≤ buffer.length := by exact Nat.zero_le _
deriving DecidableEq, Repr

def FrameDecoder.initial : FrameDecoder := {}

/-- The byte of a span, which the source reads without a check. -/
def byteAt (bytes : List UInt8) (offset : Nat) : Nat := (bytes.getD offset 0).toNat

def readU32BigEndian (bytes : List UInt8) (offset : Nat) : Nat :=
  (byteAt bytes offset <<< 24) ||| (byteAt bytes (offset + 1) <<< 16) |||
    (byteAt bytes (offset + 2) <<< 8) ||| byteAt bytes (offset + 3)

def readU16BigEndian (bytes : List UInt8) (offset : Nat) : Nat :=
  (byteAt bytes offset <<< 8) ||| byteAt bytes (offset + 1)

namespace FrameDecoder

def bufferedByteCount (d : FrameDecoder) : Nat := d.buffer.length - d.readOffset

def reset (_ : FrameDecoder) : FrameDecoder := {}

def compactConsumedPrefix (d : FrameDecoder) : FrameDecoder :=
  if d.readOffset = 0 then d
  else if d.readOffset = d.buffer.length then {}
  else { buffer := d.buffer.drop d.readOffset }

def fail (d : FrameDecoder) (error : DecodeError) : DecodeNextResult × FrameDecoder :=
  ({ error := some error }, d.reset)

def push (d : FrameDecoder) (bytes : List UInt8) : FrameDecoder :=
  let d := d.compactConsumedPrefix
  { buffer := d.buffer ++ bytes
    readOffset := d.readOffset
    bounded := by
      rw [List.length_append]
      exact Nat.le_trans d.bounded (Nat.le_add_right _ _) }

/-- The frame at the offset, whose size is known to be there. -/
def takeFrame (d : FrameDecoder) (bodySize : Nat)
    (h : frameLengthFieldSize + bodySize ≤ d.bufferedByteCount) : DecodeNextResult × FrameDecoder :=
  let type := UInt16.ofNat (readU16BigEndian d.buffer (d.readOffset + frameLengthFieldSize))
  if !isKnownMessageType type then d.fail .unknownMessageType
  else
    let payloadBegin := d.readOffset + frameLengthFieldSize + minBodySize
    let frame : Frame :=
      { type := type
        requestId := UInt32.ofNat
          (readU32BigEndian d.buffer (d.readOffset + frameLengthFieldSize + frameTypeSize))
        payload := (d.buffer.drop payloadBegin).take (bodySize - minBodySize) }
    let next : FrameDecoder :=
      { buffer := d.buffer
        readOffset := d.readOffset + (frameLengthFieldSize + bodySize)
        bounded := by
          have := d.bounded
          unfold bufferedByteCount at h
          omega }
    ({ frame := some frame },
      if next.readOffset = next.buffer.length then next.compactConsumedPrefix else next)

def tryDecodeNext (d : FrameDecoder) : DecodeNextResult × FrameDecoder :=
  if d.bufferedByteCount < frameLengthFieldSize then ({}, d.compactConsumedPrefix)
  else
    let bodySize := readU32BigEndian d.buffer d.readOffset
    if bodySize < minBodySize then d.fail .invalidBodyLength
    else if bodySize > maxBodySize then d.fail .bodyTooLarge
    else if h : d.bufferedByteCount < frameLengthFieldSize + bodySize then
      ({}, d.compactConsumedPrefix)
    else d.takeFrame bodySize (Nat.not_lt.1 h)

/-- The loop of `append`. Every frame takes bytes from the buffer, so the number of buffered
bytes bounds the rounds. -/
def decodeFrames : Nat → FrameDecoder → List Frame × Option DecodeError × FrameDecoder
  | 0, d => ([], none, d)
  | rounds + 1, d =>
    match d.tryDecodeNext with
    | ({ frame := some frame, .. }, d) =>
      let (frames, error, d) := decodeFrames rounds d
      (frame :: frames, error, d)
    | ({ error, .. }, d) => ([], error, d)

def append (d : FrameDecoder) (bytes : List UInt8) :
    List Frame × Option DecodeError × FrameDecoder :=
  let d := d.push bytes
  d.decodeFrames (d.bufferedByteCount + 1)

/-- Chunks fed to a decoder until one of them reports an error. -/
def feed : FrameDecoder → List (List UInt8) → List Frame × Option DecodeError × FrameDecoder
  | d, [] => ([], none, d)
  | d, chunk :: chunks =>
    match d.append chunk with
    | (frames, some error, d) => (frames, some error, d)
    | (frames, none, d) =>
      let (rest, error, d) := feed d chunks
      (frames ++ rest, error, d)

end FrameDecoder

end Snf.Protocol
