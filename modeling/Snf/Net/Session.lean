import Snf.Protocol.FrameCodec

/-! # The session of a connection

`Session` of the legacy server: the decoder of what a client sends, and the encoded frames that
are on their way to it, of which the first may be sent in part.
-/

namespace Snf.Net

open Snf.Protocol

/-- A descriptor is used again after its connection is closed, a generation is not. -/
structure ConnectionId where
  descriptor : Nat
  generation : Nat
deriving DecidableEq, Repr

structure PendingSend where
  bytes : List UInt8
  offset : Nat := 0
deriving DecidableEq, Repr

structure Session where
  connectionId : ConnectionId
  maxPendingSendBytes : Nat
  frameDecoder : FrameDecoder := .initial
  sendQueue : List PendingSend := []
  pendingSendByteCount : Nat := 0
deriving DecidableEq, Repr

namespace Session

def appendReceivedBytes (s : Session) (bytes : List UInt8) :
    List Frame × Option DecodeError × Session :=
  let (frames, error, decoder) := s.frameDecoder.append bytes
  (frames, error, { s with frameDecoder := decoder })

/-- `none` when the limit of the pending bytes does not allow the frame. -/
def enqueueFrame (s : Session) (frame : Frame) : Except String (Option Session) :=
  match encodeFrame frame with
  | .error e => .error e
  | .ok encoded =>
    if s.pendingSendByteCount > s.maxPendingSendBytes ∨
        encoded.length > s.maxPendingSendBytes - s.pendingSendByteCount then .ok none
    else
      .ok (some
        { s with
          pendingSendByteCount := s.pendingSendByteCount + encoded.length
          sendQueue := s.sendQueue ++ [{ bytes := encoded }] })

def hasPendingSend (s : Session) : Bool := !s.sendQueue.isEmpty

/-- What the kernel has accepted of the first frame, and whether that was the rest of it. -/
def consumeSentBytes (s : Session) (byteCount : Nat) : Except String (Session × Bool) :=
  match s.sendQueue with
  | [] => .error "Sent byte count exceeds the pending send"
  | pending :: queue =>
    if byteCount > pending.bytes.length - pending.offset then
      .error "Sent byte count exceeds the pending send"
    else
      let pending := { pending with offset := pending.offset + byteCount }
      let s := { s with pendingSendByteCount := s.pendingSendByteCount - byteCount }
      if pending.offset = pending.bytes.length then .ok ({ s with sendQueue := queue }, true)
      else .ok ({ s with sendQueue := pending :: queue }, false)

end Session

end Snf.Net
