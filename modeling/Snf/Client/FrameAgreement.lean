import Snf.Client.Wire
import Snf.Protocol.FrameStream

/-! # The decoders of the server and of the client

Both decoders are the same parser of the bytes they have not decoded yet, although they drop
decoded bytes at different moments and raise at different points of the loop. So they stay in
step: fed with the same chunks they answer every call alike, until one of them fails, and then the
other fails in the same call.
-/

namespace Snf.Client

open Snf.Lib
open Snf.Adapter (MessageType)
open Snf.Protocol (DecodeError nextFrame isKnownMessageType messageCode)

/-! ## What is compared -/

/-- The type, the request id and the payload. -/
def Frame.parts (f : Frame) : Int × Int × List UInt8 :=
  (messageValue f.type, f.requestId, f.payload)

def serverParts (f : Protocol.Frame) : Int × Int × List UInt8 :=
  (f.type.toNat, f.requestId.toNat, f.payload)

/-- The answers of the server's decoder to the chunks, up to the first with an error. -/
def serverReplies : Protocol.FrameDecoder → List (List UInt8) →
    List (List Protocol.Frame × Option DecodeError)
  | _, [] => []
  | d, chunk :: chunks =>
    match d.append chunk with
    | (frames, some error, _) => [(frames, some error)]
    | (frames, none, d) => (frames, none) :: serverReplies d chunks

/-- The answers of the client's decoder, which is fed with a chunk and then asked for frames. -/
def clientReplies : FrameDecoder → List (List UInt8) → List (List Frame × Option String)
  | _, [] => []
  | d, chunk :: chunks =>
    match (d.feed chunk).frames with
    | (frames, some text, _) => [(frames, some text)]
    | (frames, none, d) => (frames, none) :: clientReplies d chunks

/-- Both calls gave the same frames, and both failed or neither did. -/
structure SameReply (server : List Protocol.Frame × Option DecodeError)
    (client : List Frame × Option String) : Prop where
  frames : server.1.map serverParts = client.1.map Frame.parts
  error : server.2.isSome = client.2.isSome

/-! ## Message types -/

theorem messageValue_eq (type : MessageType) : messageValue type = (messageCode type).toNat := by
  cases type <;> rfl

theorem messageTypeOf_eq_some {rawType : Int} {type : MessageType}
    (h : messageTypeOf rawType = some type) : messageValue type = rawType := by
  have := List.find?_some h
  exact of_decide_eq_true this

/-- Both sides know the same types. -/
theorem messageTypeOf_isSome (type : UInt16) :
    (messageTypeOf type.toNat).isSome = isKnownMessageType type := by
  have hsame : ∀ t : MessageType,
      decide (messageValue t = type.toNat) = decide (messageCode t = type) := by
    intro t
    rw [messageValue_eq]
    apply decide_eq_decide.2
    rw [Int.natCast_inj]
    exact UInt16.toNat_inj
  unfold messageTypeOf isKnownMessageType
  rw [List.isSome_find?]
  simp only [hsame]
  rfl

/-! ## One frame -/

/-- The number in front of a frame. -/
theorem unpack_length {bytes : List UInt8} (h : 4 ≤ bytes.length) :
    Format.unpack [.u32] bytes = [(ofBigEndian (bytes.take 4) : Int)] :=
  Format.unpack_cons rfl [] h

/-- The type and the request id. -/
theorem unpack_header {bytes : List UInt8} (h : 6 ≤ bytes.length) :
    Format.unpack [.u16, .u32] bytes =
      [(ofBigEndian (bytes.take 2) : Int), (ofBigEndian ((bytes.drop 2).take 4) : Int)] := by
  have hrest : 4 ≤ (bytes.drop 2).length := by
    rw [List.length_drop]
    omega
  rw [Format.unpack_cons rfl _ (show 2 ≤ bytes.length by omega)]
  exact congrArg _ (unpack_length hrest)

namespace FrameDecoder

/-- The received bytes that are not decoded yet. -/
def remaining (d : FrameDecoder) : List UInt8 := d.buf.drop d.offset

theorem length_remaining (d : FrameDecoder) : d.remaining.length = d.buf.length - d.offset :=
  List.length_drop

@[simp] theorem remaining_compact (d : FrameDecoder) : d.compact.remaining = d.remaining := by
  unfold compact
  split
  · rfl
  · rfl

theorem offset_compact (d : FrameDecoder) : d.compact.offset = 0 := by
  unfold compact
  split
  · rfl
  · next hzero => exact Nat.le_zero.1 (Nat.not_lt.1 hzero)

@[simp] theorem remaining_feed (d : FrameDecoder) (data : List UInt8) :
    (d.feed data).remaining = d.remaining ++ data := by
  have hoffset := d.offset_compact
  rw [← d.remaining_compact]
  unfold feed remaining
  dsimp only
  rw [hoffset]
  rfl

/-- What the generator does next, by what is at the front of the bytes. -/
inductive Pulls (d : FrameDecoder) :
    Parse Protocol.Frame DecodeError → Pulled × FrameDecoder → Prop where
  | more {d' : FrameDecoder} (h : d'.remaining = d.remaining) : Pulls d .more (.stop, d')
  | fail {e : DecodeError} {text : String} {d' : FrameDecoder} :
      Pulls d (.fail e) (.raise text, d')
  | item {d' : FrameDecoder} {found : Protocol.Frame} {frame : Frame} {n : Nat}
      (h : d'.remaining = d.remaining.drop n) (hparts : serverParts found = frame.parts) :
      Pulls d (.item found n) (.frame frame, d')

/-- A frame that has arrived, of which only the type can be wrong. -/
theorem yieldFrame_pulls (d : FrameDecoder) {bodySize : Nat} (hmin : 6 ≤ bodySize)
    (hlength : 4 + bodySize ≤ d.remaining.length) :
    Pulls d
      (if !isKnownMessageType (UInt16.ofNat (ofBigEndian ((d.remaining.drop 4).take 2))) then
        .fail .unknownMessageType
      else
        .item
          { type := UInt16.ofNat (ofBigEndian ((d.remaining.drop 4).take 2))
            requestId := UInt32.ofNat (ofBigEndian ((d.remaining.drop 6).take 4))
            payload := (d.remaining.drop 10).take (bodySize - 6) }
          (4 + bodySize))
      (d.yieldFrame (4 + bodySize)) := by
  have hbuf := d.length_remaining
  have hheader : Format.unpackFrom [.u16, .u32] d.buf (d.offset + 4) =
      some [(ofBigEndian ((d.remaining.drop 4).take 2) : Int),
        (ofBigEndian ((d.remaining.drop 6).take 4) : Int)] := by
    have hdrop : d.buf.drop (d.offset + 4) = d.remaining.drop 4 := by
      unfold remaining
      rw [List.drop_drop]
    rw [Format.unpackFrom_of_le, hdrop, unpack_header, List.drop_drop]
    · rw [List.length_drop]
      omega
    · show d.offset + 4 + 6 ≤ d.buf.length
      omega
  have hpayload : (d.buf.take (d.offset + (4 + bodySize))).drop (d.offset + 10) =
      (d.remaining.drop 10).take (bodySize - 6) := by
    unfold remaining
    rw [List.drop_take, List.drop_drop]
    congr 1
    omega
  -- both fields fit the types the server reads them into
  have htype : (UInt16.ofNat (ofBigEndian ((d.remaining.drop 4).take 2))).toNat =
      ofBigEndian ((d.remaining.drop 4).take 2) := by
    have hlt := ofBigEndian_lt ((d.remaining.drop 4).take 2)
    rw [List.length_take, List.length_drop, Nat.min_eq_left (by omega)] at hlt
    rw [UInt16.toNat_ofNat']
    exact Nat.mod_eq_of_lt hlt
  have hrequest : (UInt32.ofNat (ofBigEndian ((d.remaining.drop 6).take 4))).toNat =
      ofBigEndian ((d.remaining.drop 6).take 4) := by
    have hlt := ofBigEndian_lt ((d.remaining.drop 6).take 4)
    rw [List.length_take, List.length_drop, Nat.min_eq_left (by omega)] at hlt
    rw [UInt32.toNat_ofNat']
    exact Nat.mod_eq_of_lt hlt
  have hknown := messageTypeOf_isSome (UInt16.ofNat (ofBigEndian ((d.remaining.drop 4).take 2)))
  rw [htype] at hknown
  unfold yieldFrame
  rw [hheader]
  dsimp only
  cases hmessage : messageTypeOf (ofBigEndian ((d.remaining.drop 4).take 2)) with
  | none =>
    rw [hmessage] at hknown
    rw [← hknown]
    exact .fail
  | some type =>
    rw [hmessage] at hknown
    rw [← hknown]
    refine .item ?_ ?_
    · unfold remaining
      rw [List.drop_drop]
    · unfold serverParts Frame.parts
      rw [htype, hrequest, messageTypeOf_eq_some hmessage, hpayload]

/-- **One round of the generator is one step of the server's parser.** -/
theorem pull_pulls (d : FrameDecoder) : Pulls d (nextFrame d.remaining) d.pull := by
  have hlength := d.length_remaining
  have hfield : Protocol.frameLengthFieldSize = 4 := rfl
  have hlow : Protocol.minBodySize = 6 := rfl
  have hlow' : minBodySize = 6 := rfl
  have hhigh : Protocol.maxBodySize = maxBodySize := rfl
  unfold nextFrame pull
  rw [← hlength, hfield, hlow, hlow', hhigh]
  by_cases hshort : d.remaining.length < 4
  · rw [if_pos hshort]
    dsimp only
    rw [if_pos hshort]
    exact .more d.remaining_compact
  have hread : Format.unpackFrom [.u32] d.buf d.offset =
      some [(ofBigEndian (d.remaining.take 4) : Int)] := by
    rw [Format.unpackFrom_of_le]
    · exact congrArg some (unpack_length (Nat.not_lt.1 hshort))
    · show d.offset + 4 ≤ d.buf.length
      omega
  rw [if_neg hshort, hread]
  dsimp only
  rw [if_neg hshort]
  by_cases hmin : ofBigEndian (d.remaining.take 4) < 6
  · rw [if_pos hmin, if_pos (by omega)]
    exact .fail
  rw [if_neg hmin]
  by_cases hmax : ofBigEndian (d.remaining.take 4) > maxBodySize
  · rw [if_pos hmax, if_pos (by omega)]
    exact .fail
  have hvalid : ¬((ofBigEndian (d.remaining.take 4) : Int) < (6 : Nat) ∨
      (ofBigEndian (d.remaining.take 4) : Int) > maxBodySize) := by omega
  rw [if_neg hmax, if_neg hvalid, Int.toNat_natCast]
  by_cases hbody : d.remaining.length < 4 + ofBigEndian (d.remaining.take 4)
  · rw [if_pos hbody, if_pos hbody]
    exact .more d.remaining_compact
  rw [if_neg hbody, if_neg hbody]
  exact d.yieldFrame_pulls (Nat.not_lt.1 hmin) (Nat.not_lt.1 hbody)

/-! ## All frames of a chunk -/

/-- What one call leaves: equal answers, and without an error equal bytes to go on with. -/
structure InStep (server : List Protocol.Frame × Option DecodeError × Protocol.FrameDecoder)
    (client : List Frame × Option String × FrameDecoder) : Prop where
  reply : SameReply (server.1, server.2.1) (client.1, client.2.1)
  remaining : server.2.1 = none → client.2.2.remaining = server.2.2.remaining

theorem drain_inStep (rounds : Nat) (s : Protocol.FrameDecoder) (d : FrameDecoder)
    (h : d.remaining = s.remaining) : InStep (s.decodeFrames rounds) (d.drain rounds) := by
  induction rounds generalizing s d with
  | zero => exact ⟨⟨rfl, rfl⟩, fun _ => h⟩
  | succ rounds ih =>
    have hpulls := d.pull_pulls
    have hdecoded := s.tryDecodeNext_decoded
    rw [h] at hpulls
    unfold Protocol.FrameDecoder.decodeFrames drain
    generalize s.tryDecodeNext = answer at hdecoded
    generalize d.pull = pulled at hpulls
    generalize nextFrame s.remaining = found at hpulls hdecoded
    cases hdecoded with
    | more hs =>
      cases hpulls with
      | more hd => exact ⟨⟨rfl, rfl⟩, fun _ => by rw [hd, hs, h]⟩
    | fail =>
      cases hpulls with
      | fail => exact ⟨⟨rfl, rfl⟩, fun hnone => by cases hnone⟩
    | item hs =>
      cases hpulls with
      | item hd hparts =>
        have hrest := ih _ _ (by rw [hd, hs, h])
        refine ⟨⟨?_, hrest.reply.error⟩, hrest.remaining⟩
        exact congrArg₂ List.cons hparts hrest.reply.frames

theorem frames_inStep (s : Protocol.FrameDecoder) (d : FrameDecoder) (h : d.remaining = s.remaining)
    (chunk : List UInt8) : InStep (s.append chunk) (d.feed chunk).frames := by
  have hfed : (d.feed chunk).remaining = (s.push chunk).remaining := by
    rw [remaining_feed, Protocol.FrameDecoder.remaining_push, h]
  have hrounds : (d.feed chunk).buf.length - (d.feed chunk).offset =
      (s.push chunk).bufferedByteCount := by
    rw [← length_remaining, hfed, Protocol.FrameDecoder.length_remaining]
  unfold frames
  rw [hrounds]
  exact drain_inStep _ _ _ hfed

end FrameDecoder

theorem replies_agree (chunks : List (List UInt8)) (s : Protocol.FrameDecoder) (d : FrameDecoder)
    (h : d.remaining = s.remaining) :
    List.Forall₂ SameReply (serverReplies s chunks) (clientReplies d chunks) := by
  induction chunks generalizing s d with
  | nil => exact .nil
  | cons chunk chunks ih =>
    obtain ⟨hreply, hremaining⟩ := FrameDecoder.frames_inStep s d h chunk
    unfold serverReplies clientReplies
    generalize s.append chunk = server at hreply hremaining
    generalize (d.feed chunk).frames = client at hreply hremaining
    obtain ⟨frames, error, s'⟩ := server
    obtain ⟨frames', error', d'⟩ := client
    have herror := hreply.error
    cases error with
    | some e =>
      cases error' with
      | none => cases herror
      | some text => exact .cons hreply .nil
    | none =>
      cases error' with
      | some text => cases herror
      | none => exact .cons hreply (ih s' d' (hremaining rfl))

/-! ## The encoders -/

theorem encode_of_le {msgType requestId : Int} {payload : List UInt8}
    (h : ¬minBodySize + payload.length > maxBodySize) :
    encode msgType requestId payload =
      (structPack [.u32, .u16, .u32]
        [((minBodySize + payload.length : Nat) : Int), msgType, requestId]).map (· ++ payload) :=
  if_neg h

theorem encode_eq {frame : Protocol.Frame} {bytes : List UInt8}
    (h : Protocol.encodeFrame frame = .ok bytes) :
    encode frame.type.toNat frame.requestId.toNat frame.payload = .ok bytes := by
  obtain ⟨-, hsize, rfl⟩ := Protocol.length_encodeFrame h
  have hlimit : Protocol.maxPayloadSize + minBodySize = maxBodySize := rfl
  have hmax : maxBodySize = 65536 := rfl
  have hbody : Field.u32.Holds (minBodySize + frame.payload.length) :=
    Field.holds_u32.2 (by omega)
  have htype : Field.u16.Holds frame.type.toNat := Field.holds_u16.2 frame.type.toNat_lt
  have hrequest : Field.u32.Holds frame.requestId.toNat :=
    Field.holds_u32.2 frame.requestId.toNat_lt
  have hheader := Format.pack_natCast (.cons hbody (.cons htype (.cons hrequest .nil)))
  have hlow : Protocol.minBodySize = minBodySize := rfl
  rw [encode_of_le (by omega), hlow]
  refine (congrArg (Except.map _) (structPack_of_pack hheader)).trans ?_
  simp only [Except.map, List.zipWith, List.flatten_cons, List.flatten_nil, List.append_nil,
    List.append_assoc]
  rfl

/-- **The decoders agree, and so do the encoders.** Fed with the same chunks, the decoder of the
server and that of the client answer every call with the same frames, up to a call in which both
report an error. Every frame of a known type and of at most the maximal size is encoded by both,
to the same bytes. -/
theorem wire_frames_agree :
    (∀ chunks : List (List UInt8),
      List.Forall₂ SameReply (serverReplies {} chunks) (clientReplies {} chunks)) ∧
    (∀ frame : Protocol.Frame, isKnownMessageType frame.type = true →
      frame.payload.length ≤ 65530 →
      ∃ bytes, Protocol.encodeFrame frame = .ok bytes ∧
        encode frame.type.toNat frame.requestId.toNat frame.payload = .ok bytes) := by
  refine ⟨fun chunks => replies_agree chunks {} {} rfl, ?_⟩
  intro frame hknown hsize
  have hlimit : 65530 = Protocol.maxPayloadSize := rfl
  obtain ⟨bytes, hbytes⟩ := Protocol.encodeFrame_ok hknown (hlimit ▸ hsize)
  exact ⟨bytes, hbytes, encode_eq hbytes⟩

end Snf.Client
