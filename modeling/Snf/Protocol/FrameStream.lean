import Snf.Protocol.FrameCodec

/-! # Frames in a stream of bytes

The decoder as a parser of the bytes it has not decoded yet. The parser is stable under more
bytes, so the decoded frames do not depend on the chunks in which the bytes arrive; and it is
inverse to the encoder, so no byte is lost or invented.
-/

namespace Snf.Protocol

open Snf.Lib

/-- The frame at the front of the received bytes. -/
def nextFrame (bytes : List UInt8) : Parse Frame DecodeError :=
  if bytes.length < frameLengthFieldSize then .more
  else
    let bodySize := ofBigEndian (bytes.take 4)
    if bodySize < minBodySize then .fail .invalidBodyLength
    else if bodySize > maxBodySize then .fail .bodyTooLarge
    else if bytes.length < frameLengthFieldSize + bodySize then .more
    else
      let type := UInt16.ofNat (ofBigEndian ((bytes.drop 4).take 2))
      if !isKnownMessageType type then .fail .unknownMessageType
      else
        .item
          { type := type
            requestId := UInt32.ofNat (ofBigEndian ((bytes.drop 6).take 4))
            payload := (bytes.drop 10).take (bodySize - minBodySize) }
          (frameLengthFieldSize + bodySize)

/-! ## What was found stays -/

/-- A field that has arrived is not changed by what follows. -/
theorem take_drop_append {l m : List UInt8} {offset size : Nat} (h : offset + size ≤ l.length) :
    ((l ++ m).drop offset).take size = (l.drop offset).take size := by
  rw [List.drop_append_of_le_length (by omega), List.take_append_of_le_length]
  rw [List.length_drop]
  omega

theorem nextFrame_item {l : List UInt8} {frame : Frame} {n : Nat}
    (h : nextFrame l = .item frame n) :
    ∃ bodySize, bodySize = ofBigEndian (l.take 4) ∧ minBodySize ≤ bodySize ∧
      bodySize ≤ maxBodySize ∧ n = frameLengthFieldSize + bodySize ∧ n ≤ l.length ∧
      isKnownMessageType frame.type = true ∧
      frame.type = UInt16.ofNat (ofBigEndian ((l.drop 4).take 2)) ∧
      frame.requestId = UInt32.ofNat (ofBigEndian ((l.drop 6).take 4)) ∧
      frame.payload = (l.drop 10).take (bodySize - minBodySize) := by
  unfold nextFrame at h
  split at h
  · cases h
  dsimp only at h
  split at h
  · cases h
  next hmin =>
  split at h
  · cases h
  next hmax =>
  split at h
  · cases h
  next hlength =>
  split at h
  · cases h
  next hknown =>
  cases h
  refine ⟨_, rfl, by omega, by omega, rfl, by omega, ?_, rfl, rfl, rfl⟩
  simpa using hknown

theorem nextFrame_of_fields {l : List UInt8} {frame : Frame} {bodySize : Nat}
    (hsize : bodySize = ofBigEndian (l.take 4)) (hmin : minBodySize ≤ bodySize)
    (hmax : bodySize ≤ maxBodySize) (hlength : frameLengthFieldSize + bodySize ≤ l.length)
    (hknown : isKnownMessageType frame.type = true)
    (htype : frame.type = UInt16.ofNat (ofBigEndian ((l.drop 4).take 2)))
    (hrequest : frame.requestId = UInt32.ofNat (ofBigEndian ((l.drop 6).take 4)))
    (hpayload : frame.payload = (l.drop 10).take (bodySize - minBodySize)) :
    nextFrame l = .item frame (frameLengthFieldSize + bodySize) := by
  unfold nextFrame
  rw [← hsize, ← htype, ← hrequest, if_neg (by omega)]
  dsimp only
  rw [if_neg (by omega), if_neg (by omega), if_neg (by omega), hknown, ← hpayload]
  rfl

theorem nextFrame_item_append {l : List UInt8} {frame : Frame} {n : Nat} (m : List UInt8)
    (h : nextFrame l = .item frame n) : nextFrame (l ++ m) = .item frame n := by
  obtain ⟨bodySize, hsize, hmin, hmax, hn, hlength, hknown, htype, hrequest, hpayload⟩ :=
    nextFrame_item h
  have hfields : frameLengthFieldSize + minBodySize = 10 := rfl
  subst hn
  refine nextFrame_of_fields ?_ hmin hmax ?_ hknown ?_ ?_ ?_
  · rw [List.take_append_of_le_length (by omega)]
    exact hsize
  · rw [List.length_append]
    omega
  · rw [take_drop_append (by omega)]
    exact htype
  · rw [take_drop_append (by omega)]
    exact hrequest
  · rw [take_drop_append (by omega)]
    exact hpayload

theorem nextFrame_fail_append {l : List UInt8} {e : DecodeError} (m : List UInt8)
    (h : nextFrame l = .fail e) : nextFrame (l ++ m) = .fail e := by
  have hfield : frameLengthFieldSize = 4 := rfl
  unfold nextFrame at h ⊢
  split at h
  · cases h
  next hlength =>
  have hlong : ¬(l ++ m).length < frameLengthFieldSize := by
    rw [List.length_append]
    omega
  have hsize : (l ++ m).take 4 = l.take 4 := List.take_append_of_le_length (by omega)
  rw [if_neg hlong, hsize]
  dsimp only at h ⊢
  split at h
  · next hmin =>
    rw [if_pos hmin]
    exact h
  next hmin =>
  rw [if_neg hmin]
  split at h
  · next hmax =>
    rw [if_pos hmax]
    exact h
  next hmax =>
  rw [if_neg hmax]
  split at h
  · cases h
  next hbody =>
  have hbody' : ¬(l ++ m).length < frameLengthFieldSize + ofBigEndian (l.take 4) := by
    rw [List.length_append]
    omega
  have hsmall : minBodySize = 6 := rfl
  rw [if_neg hbody', take_drop_append (by omega)]
  split at h
  · next hunknown =>
    rw [if_pos hunknown]
    exact h
  · cases h

def frameParser : Parser UInt8 Frame DecodeError where
  next := nextFrame
  used_pos := by
    intro l frame n h
    obtain ⟨bodySize, -, hmin, -, hn, hlength, -⟩ := nextFrame_item h
    have hsmall : minBodySize = 6 := rfl
    omega
  item_append := nextFrame_item_append
  fail_append := nextFrame_fail_append

/-! ## The encoder -/

theorem length_encodeFrame {frame : Frame} {bytes : List UInt8}
    (h : encodeFrame frame = .ok bytes) :
    isKnownMessageType frame.type = true ∧ frame.payload.length ≤ maxPayloadSize ∧
      bytes = bigEndian 4 (minBodySize + frame.payload.length) ++ bigEndian 2 frame.type.toNat ++
        bigEndian 4 frame.requestId.toNat ++ frame.payload := by
  unfold encodeFrame at h
  split at h
  · cases h
  next hknown =>
  split at h
  · cases h
  next hsize =>
  cases h
  exact ⟨by simpa using hknown, Nat.not_lt.1 hsize, rfl⟩

/-- The decoder finds the encoded frame. -/
theorem nextFrame_encodeFrame {frame : Frame} {bytes : List UInt8}
    (h : encodeFrame frame = .ok bytes) (m : List UInt8) :
    nextFrame (bytes ++ m) = .item frame bytes.length := by
  obtain ⟨hknown, hsize, heq⟩ := length_encodeFrame h
  have hbody : frameLengthFieldSize + (minBodySize + frame.payload.length) = bytes.length := by
    rw [heq]
    simp only [List.length_append, length_bigEndian]
    have hfields : frameLengthFieldSize + minBodySize = 10 := rfl
    omega
  have hmax : minBodySize + frame.payload.length ≤ maxBodySize := by
    have hlimit : maxPayloadSize + minBodySize = maxBodySize := rfl
    omega
  have hbytes : bytes ++ m = bigEndian 4 (minBodySize + frame.payload.length) ++
      (bigEndian 2 frame.type.toNat ++ (bigEndian 4 frame.requestId.toNat ++
        (frame.payload ++ m))) := by
    rw [heq]
    simp only [List.append_assoc]
  have htake4 : (bytes ++ m).take 4 = bigEndian 4 (minBodySize + frame.payload.length) := by
    rw [hbytes]
    exact List.take_left' (length_bigEndian _ _)
  have hdrop4 : (bytes ++ m).drop 4 = bigEndian 2 frame.type.toNat ++
      (bigEndian 4 frame.requestId.toNat ++ (frame.payload ++ m)) := by
    rw [hbytes]
    exact List.drop_left' (length_bigEndian _ _)
  have hdrop6 : (bytes ++ m).drop 6 =
      bigEndian 4 frame.requestId.toNat ++ (frame.payload ++ m) := by
    rw [show (6 : Nat) = 4 + 2 from rfl, ← List.drop_drop, hdrop4]
    exact List.drop_left' (length_bigEndian _ _)
  have hdrop10 : (bytes ++ m).drop 10 = frame.payload ++ m := by
    rw [show (10 : Nat) = 6 + 4 from rfl, ← List.drop_drop, hdrop6]
    exact List.drop_left' (length_bigEndian _ _)
  rw [← hbody]
  refine nextFrame_of_fields ?_ (Nat.le_add_right _ _) hmax ?_ hknown ?_ ?_ ?_
  · rw [htake4, ofBigEndian_bigEndian, Nat.mod_eq_of_lt]
    exact Nat.lt_of_le_of_lt hmax (by decide)
  · rw [hbody, List.length_append]
    exact Nat.le_add_right _ _
  · rw [hdrop4, List.take_left' (length_bigEndian _ _), ofBigEndian_bigEndian, Nat.mod_eq_of_lt]
    · exact UInt16.ofNat_toNat.symm
    · exact frame.type.toNat_lt
  · rw [hdrop6, List.take_left' (length_bigEndian _ _), ofBigEndian_bigEndian, Nat.mod_eq_of_lt]
    · exact UInt32.ofNat_toNat.symm
    · exact frame.requestId.toNat_lt
  · rw [hdrop10, Nat.add_sub_cancel_left]
    exact (List.take_left' rfl).symm

/-- The found frame encodes to the bytes it was found in. -/
theorem encodeFrame_of_nextFrame {l : List UInt8} {frame : Frame} {n : Nat}
    (h : nextFrame l = .item frame n) : encodeFrame frame = .ok (l.take n) := by
  obtain ⟨bodySize, hsize, hmin, hmax, hn, hlength, hknown, htype, hrequest, hpayload⟩ :=
    nextFrame_item h
  have hfield : frameLengthFieldSize = 4 := rfl
  have hsmall : minBodySize = 6 := rfl
  have hlimit : maxPayloadSize + minBodySize = maxBodySize := rfl
  have hpayloadLength : frame.payload.length = bodySize - minBodySize := by
    rw [hpayload, List.length_take, List.length_drop]
    omega
  have hfield4 : (l.take 4).length = 4 := by rw [List.length_take]; omega
  have hfield2 : ((l.drop 4).take 2).length = 2 := by
    rw [List.length_take, List.length_drop]
    omega
  have hfield4' : ((l.drop 6).take 4).length = 4 := by
    rw [List.length_take, List.length_drop]
    omega
  have hb1 : bigEndian 4 (minBodySize + frame.payload.length) = l.take 4 := by
    rw [hpayloadLength, Nat.add_sub_of_le hmin, hsize]
    exact bigEndian_ofBigEndian hfield4
  have hb2 : bigEndian 2 frame.type.toNat = (l.drop 4).take 2 := by
    have hvalue : frame.type.toNat = ofBigEndian ((l.drop 4).take 2) := by
      rw [htype, UInt16.toNat_ofNat', Nat.mod_eq_of_lt]
      have hlt := ofBigEndian_lt ((l.drop 4).take 2)
      rw [hfield2] at hlt
      exact hlt
    rw [hvalue]
    exact bigEndian_ofBigEndian hfield2
  have hb3 : bigEndian 4 frame.requestId.toNat = (l.drop 6).take 4 := by
    have hvalue : frame.requestId.toNat = ofBigEndian ((l.drop 6).take 4) := by
      rw [hrequest, UInt32.toNat_ofNat', Nat.mod_eq_of_lt]
      have hlt := ofBigEndian_lt ((l.drop 6).take 4)
      rw [hfield4'] at hlt
      exact hlt
    rw [hvalue]
    exact bigEndian_ofBigEndian hfield4'
  unfold encodeFrame
  rw [if_neg (by simp [hknown]), if_neg (by omega), hb1, hb2, hb3, hpayload]
  -- the four fields are the bytes of the frame, one after another
  have hjoin : ∀ i k, l.take i ++ (l.drop i).take k = l.take (i + k) := fun i k =>
    (List.take_add (i := i) (j := k)).symm
  rw [hjoin 4 2, hjoin 6 4, hjoin 10]
  congr 2
  omega

/-- Encoding the frames of the bytes gives the bytes back. -/
theorem encode_of_splits {l rest : List UInt8} {frames : List Frame}
    (h : Splits frameParser l frames rest) :
    ∃ encoded, frames.mapM encodeFrame = .ok encoded ∧ encoded.flatten ++ rest = l := by
  induction h with
  | nil => exact ⟨[], rfl, rfl⟩
  | cons hb hbs ih =>
    rename_i l' rest' frame frames' n
    obtain ⟨encoded, hencoded, heq⟩ := ih
    refine ⟨l'.take n :: encoded, ?_, ?_⟩
    · rw [List.mapM_cons, encodeFrame_of_nextFrame hb, hencoded]
      rfl
    · rw [List.flatten_cons, List.append_assoc, heq]
      exact List.take_append_drop n l'

theorem splits_of_encode {frames : List Frame} {encoded : List (List UInt8)}
    (h : frames.mapM encodeFrame = .ok encoded) (rest : List UInt8) :
    Splits frameParser (encoded.flatten ++ rest) frames rest := by
  induction frames generalizing encoded with
  | nil =>
    cases h
    exact .nil
  | cons frame frames ih =>
    rw [List.mapM_cons] at h
    cases hframe : encodeFrame frame with
    | error e =>
      rw [hframe] at h
      cases h
    | ok bytes =>
      cases hrest : frames.mapM encodeFrame with
      | error e =>
        rw [hframe, hrest] at h
        cases h
      | ok tail =>
        rw [hframe, hrest] at h
        cases h
        rw [List.flatten_cons, List.append_assoc]
        refine .cons (nextFrame_encodeFrame hframe _) ?_
        rw [List.drop_left' rfl]
        exact ih hrest

/-! ## The decoder -/

theorem byteAt_drop (bytes : List UInt8) (offset i : Nat) :
    byteAt bytes (offset + i) = byteAt (bytes.drop offset) i := by
  unfold byteAt
  rw [List.getD_eq_getElem?_getD, List.getD_eq_getElem?_getD, List.getElem?_drop]

/-- The shifted bytes do not overlap. -/
theorem shiftLeft_or {a b i : Nat} (h : b < 2 ^ i) : a <<< i ||| b = a * 2 ^ i + b := by
  rw [← Nat.shiftLeft_add_eq_or_of_lt h, Nat.shiftLeft_eq]

theorem readU32BigEndian_eq {bytes : List UInt8} {offset : Nat} (h : offset + 4 ≤ bytes.length) :
    readU32BigEndian bytes offset = ofBigEndian ((bytes.drop offset).take 4) := by
  unfold readU32BigEndian
  have hfirst := byteAt_drop bytes offset 0
  rw [Nat.add_zero] at hfirst
  rw [hfirst, byteAt_drop, byteAt_drop, byteAt_drop]
  have hlength : 4 ≤ (bytes.drop offset).length := by
    rw [List.length_drop]
    omega
  match hbytes : bytes.drop offset, hlength with
  | a :: b :: c :: d :: _, _ =>
    have hb : b.toNat < 256 := b.toNat_lt
    have hc : c.toNat < 256 := c.toNat_lt
    have hd : d.toNat < 256 := d.toNat_lt
    show ((a.toNat <<< 24 ||| b.toNat <<< 16) ||| c.toNat <<< 8) ||| d.toNat =
      a.toNat * 256 ^ 3 + (b.toNat * 256 ^ 2 + (c.toNat * 256 ^ 1 + (d.toNat * 256 ^ 0 + 0)))
    rw [Nat.or_assoc, Nat.or_assoc, shiftLeft_or (i := 8) hd, shiftLeft_or (i := 16) (by omega),
      shiftLeft_or (i := 24) (by omega)]
    ring

theorem readU16BigEndian_eq {bytes : List UInt8} {offset : Nat} (h : offset + 2 ≤ bytes.length) :
    readU16BigEndian bytes offset = ofBigEndian ((bytes.drop offset).take 2) := by
  unfold readU16BigEndian
  have hfirst := byteAt_drop bytes offset 0
  rw [Nat.add_zero] at hfirst
  rw [hfirst, byteAt_drop]
  have hlength : 2 ≤ (bytes.drop offset).length := by
    rw [List.length_drop]
    omega
  match hbytes : bytes.drop offset, hlength with
  | a :: b :: _, _ =>
    have hb : b.toNat < 256 := b.toNat_lt
    show a.toNat <<< 8 ||| b.toNat = a.toNat * 256 ^ 1 + (b.toNat * 256 ^ 0 + 0)
    rw [shiftLeft_or (i := 8) hb]
    ring

namespace FrameDecoder

/-- The received bytes that are not decoded yet. -/
def remaining (d : FrameDecoder) : List UInt8 := d.buffer.drop d.readOffset

theorem length_remaining (d : FrameDecoder) : d.remaining.length = d.bufferedByteCount :=
  List.length_drop

@[simp] theorem remaining_compactConsumedPrefix (d : FrameDecoder) :
    d.compactConsumedPrefix.remaining = d.remaining := by
  unfold compactConsumedPrefix
  split
  · rfl
  split
  · next hall =>
    unfold remaining
    rw [hall, List.drop_length, List.drop_nil]
  · rfl

theorem readOffset_compactConsumedPrefix (d : FrameDecoder) :
    d.compactConsumedPrefix.readOffset = 0 := by
  unfold compactConsumedPrefix
  split
  · next hzero => exact hzero
  split
  · rfl
  · rfl

@[simp] theorem remaining_push (d : FrameDecoder) (bytes : List UInt8) :
    (d.push bytes).remaining = d.remaining ++ bytes := by
  have hoffset := d.readOffset_compactConsumedPrefix
  rw [← d.remaining_compactConsumedPrefix]
  unfold push remaining
  dsimp only
  rw [hoffset]
  rfl

/-- What a call of the decoder answers and leaves, by what is at the front of its bytes. -/
inductive Decoded (d : FrameDecoder) :
    Parse Frame DecodeError → DecodeNextResult × FrameDecoder → Prop where
  | more {d' : FrameDecoder} (h : d'.remaining = d.remaining) : Decoded d .more ({}, d')
  | fail {e : DecodeError} : Decoded d (.fail e) ({ error := some e }, {})
  | item {d' : FrameDecoder} {frame : Frame} {n : Nat}
      (h : d'.remaining = d.remaining.drop n) :
      Decoded d (.item frame n) ({ frame := some frame }, d')

/-- **One call of the decoder is one step of the parser.** -/
theorem tryDecodeNext_decoded (d : FrameDecoder) :
    Decoded d (nextFrame d.remaining) d.tryDecodeNext := by
  have hlength := d.length_remaining
  have hbounded := d.bounded
  have hcount : d.bufferedByteCount = d.buffer.length - d.readOffset := rfl
  have hfield : frameLengthFieldSize = 4 := rfl
  have hsmall : minBodySize = 6 := rfl
  have htype : frameTypeSize = 2 := rfl
  unfold nextFrame tryDecodeNext
  rw [hlength]
  by_cases hshort : d.bufferedByteCount < frameLengthFieldSize
  · rw [if_pos hshort, if_pos hshort]
    exact .more d.remaining_compactConsumedPrefix
  have hread : readU32BigEndian d.buffer d.readOffset = ofBigEndian (d.remaining.take 4) :=
    readU32BigEndian_eq (by omega)
  rw [if_neg hshort, if_neg hshort, ← hread]
  dsimp only
  by_cases hmin : readU32BigEndian d.buffer d.readOffset < minBodySize
  · rw [if_pos hmin, if_pos hmin]
    exact .fail
  rw [if_neg hmin, if_neg hmin]
  by_cases hmax : readU32BigEndian d.buffer d.readOffset > maxBodySize
  · rw [if_pos hmax, if_pos hmax]
    exact .fail
  rw [if_neg hmax, if_neg hmax]
  by_cases hbody : d.bufferedByteCount < frameLengthFieldSize +
      readU32BigEndian d.buffer d.readOffset
  · rw [if_pos hbody, dif_pos hbody]
    exact .more d.remaining_compactConsumedPrefix
  rw [if_neg hbody, dif_neg hbody]
  -- the fields of the frame, read at the offset or in the remaining bytes
  have hread2 : readU16BigEndian d.buffer (d.readOffset + frameLengthFieldSize) =
      ofBigEndian ((d.remaining.drop 4).take 2) := by
    rw [readU16BigEndian_eq (by omega)]
    unfold remaining
    rw [List.drop_drop, hfield]
  have hread4 : readU32BigEndian d.buffer (d.readOffset + frameLengthFieldSize + frameTypeSize) =
      ofBigEndian ((d.remaining.drop 6).take 4) := by
    rw [readU32BigEndian_eq (by omega)]
    unfold remaining
    rw [List.drop_drop, hfield, htype, Nat.add_assoc]
  have hpayload : d.buffer.drop (d.readOffset + frameLengthFieldSize + minBodySize) =
      d.remaining.drop 10 := by
    unfold remaining
    rw [List.drop_drop, hfield, hsmall, Nat.add_assoc]
  unfold takeFrame
  rw [hread2, hread4]
  dsimp only
  rw [hpayload]
  by_cases hknown : (!isKnownMessageType
      (UInt16.ofNat (ofBigEndian ((d.remaining.drop 4).take 2)))) = true
  · rw [if_pos hknown, if_pos hknown]
    exact .fail
  rw [if_neg hknown, if_neg hknown]
  refine .item ?_
  split
  · rw [remaining_compactConsumedPrefix]
    unfold remaining
    rw [List.drop_drop]
  · unfold remaining
    rw [List.drop_drop]

/-- The loop of `append` decodes all frames that have arrived. -/
theorem decodeFrames_spec (rounds : Nat) (d : FrameDecoder) (hrounds : d.bufferedByteCount < rounds) :
    ∃ rest, Stops frameParser d.remaining (d.decodeFrames rounds).1 (d.decodeFrames rounds).2.1 rest ∧
      ((d.decodeFrames rounds).2.1 = none → (d.decodeFrames rounds).2.2.remaining = rest) := by
  induction rounds generalizing d with
  | zero => exact absurd hrounds (Nat.not_lt_zero _)
  | succ rounds ih =>
    have hdecoded := d.tryDecodeNext_decoded
    unfold decodeFrames
    generalize d.tryDecodeNext = out at hdecoded
    generalize hnext : nextFrame d.remaining = found at hdecoded
    cases hdecoded with
    | more hremaining => exact ⟨d.remaining, ⟨.nil, hnext⟩, fun _ => hremaining⟩
    | fail => exact ⟨d.remaining, ⟨.nil, hnext⟩, fun h => nomatch h⟩
    | item hremaining =>
      rename_i d' frame n
      obtain ⟨hpos, hle⟩ := frameParser.used_pos hnext
      have hless : d'.bufferedByteCount < rounds := by
        rw [← length_remaining, hremaining, List.length_drop, length_remaining]
        rw [length_remaining] at hle
        omega
      obtain ⟨rest, hstops, hrest⟩ := ih d' hless
      rw [hremaining] at hstops
      exact ⟨rest, ⟨.cons hnext hstops.splits, hstops.next⟩, hrest⟩

theorem append_spec (d : FrameDecoder) (bytes : List UInt8) :
    ∃ rest, Stops frameParser (d.remaining ++ bytes) (d.append bytes).1 (d.append bytes).2.1 rest ∧
      ((d.append bytes).2.1 = none → (d.append bytes).2.2.remaining = rest) := by
  rw [← remaining_push]
  exact decodeFrames_spec _ _ (Nat.lt_succ_self _)

/-- A decoder that waits for more bytes, fed with chunks. -/
theorem feed_spec (d : FrameDecoder) (chunks : List (List UInt8))
    (hwaits : frameParser.next d.remaining = .more) :
    ∃ rest, Stops frameParser (d.remaining ++ chunks.flatten) (d.feed chunks).1
        (d.feed chunks).2.1 rest ∧
      ((d.feed chunks).2.1 = none → (d.feed chunks).2.2.remaining = rest) := by
  induction chunks generalizing d with
  | nil =>
    rw [List.flatten_nil, List.append_nil]
    exact ⟨d.remaining, ⟨.nil, hwaits⟩, fun _ => rfl⟩
  | cons chunk chunks ih =>
    obtain ⟨rest, hstops, hrest⟩ := d.append_spec chunk
    unfold feed
    rw [List.flatten_cons, ← List.append_assoc]
    generalize d.append chunk = out at hstops hrest
    obtain ⟨frames, error, d'⟩ := out
    cases error with
    | some e => exact ⟨_, hstops.append _, fun h => nomatch h⟩
    | none =>
      have hremaining : d'.remaining = rest := hrest rfl
      subst hremaining
      obtain ⟨rest', hstops', hrest'⟩ := ih d' hstops.next
      exact ⟨rest', .extend hstops.splits hstops', hrest'⟩

/-- Bytes that wait for more are fewer than those of a longest frame. -/
theorem length_of_more {l : List UInt8} (h : nextFrame l = .more) :
    l.length < frameLengthFieldSize + maxBodySize := by
  unfold nextFrame at h
  split at h
  · next hshort => exact Nat.lt_of_lt_of_le hshort (Nat.le_add_right _ _)
  dsimp only at h
  split at h
  · cases h
  split at h
  · cases h
  next hmax =>
  split at h
  · next hbody => omega
  split at h
  · cases h
  · cases h

end FrameDecoder

/-- Encoding succeeds for known types and payloads of at most the maximal size. -/
theorem encodeFrame_ok {frame : Frame} (hknown : isKnownMessageType frame.type = true)
    (hsize : frame.payload.length ≤ maxPayloadSize) : ∃ bytes, encodeFrame frame = .ok bytes := by
  unfold encodeFrame
  rw [if_neg (by simp [hknown]), if_neg (Nat.not_lt.2 hsize)]
  exact ⟨_, rfl⟩

theorem encode_ok {frames : List Frame} (h : ∀ frame ∈ frames,
    isKnownMessageType frame.type = true ∧ frame.payload.length ≤ maxPayloadSize) :
    ∃ encoded, frames.mapM encodeFrame = .ok encoded := by
  induction frames with
  | nil => exact ⟨[], rfl⟩
  | cons frame frames ih =>
    obtain ⟨hknown, hsize⟩ := h frame List.mem_cons_self
    obtain ⟨encoded, hencoded⟩ := ih fun f hf => h f (List.mem_cons_of_mem _ hf)
    obtain ⟨bytes, hbytes⟩ := encodeFrame_ok hknown hsize
    refine ⟨bytes :: encoded, ?_⟩
    rw [List.mapM_cons, hbytes, hencoded]
    rfl

/-- **The frame codec.** Frames that are encoded and fed in any chunks come out again, and
nothing stays in the buffer. For any bytes, the frames up to the first error do not depend on the
chunks; a call without an error leaves less than a longest frame in the buffer; and as long as
there is no error the frames and the buffer are the bytes received. -/
theorem frame_codec :
    (∀ frames : List Frame, (∀ frame ∈ frames,
        isKnownMessageType frame.type = true ∧ frame.payload.length ≤ maxPayloadSize) →
      ∃ encoded, frames.mapM encodeFrame = .ok encoded ∧
        ∀ chunks : List (List UInt8), chunks.flatten = encoded.flatten →
          (FrameDecoder.feed {} chunks).1 = frames ∧ (FrameDecoder.feed {} chunks).2.1 = none ∧
            (FrameDecoder.feed {} chunks).2.2.bufferedByteCount = 0) ∧
    (∀ chunks chunks' : List (List UInt8), chunks.flatten = chunks'.flatten →
      (FrameDecoder.feed {} chunks).1 = (FrameDecoder.feed {} chunks').1 ∧
        (FrameDecoder.feed {} chunks).2.1 = (FrameDecoder.feed {} chunks').2.1) ∧
    (∀ (d : FrameDecoder) (bytes : List UInt8), (d.append bytes).2.1 = none →
      (d.append bytes).2.2.bufferedByteCount < frameLengthFieldSize + maxBodySize) ∧
    (∀ chunks : List (List UInt8), (FrameDecoder.feed {} chunks).2.1 = none →
      ∃ encoded, (FrameDecoder.feed {} chunks).1.mapM encodeFrame = .ok encoded ∧
        encoded.flatten ++ (FrameDecoder.feed {} chunks).2.2.remaining = chunks.flatten) := by
  have hfeed : ∀ chunks : List (List UInt8), ∃ rest,
      Stops frameParser chunks.flatten (FrameDecoder.feed {} chunks).1
        (FrameDecoder.feed {} chunks).2.1 rest ∧
      ((FrameDecoder.feed {} chunks).2.1 = none →
        (FrameDecoder.feed {} chunks).2.2.remaining = rest) :=
    fun chunks => FrameDecoder.feed_spec {} chunks rfl
  refine ⟨?_, ?_, ?_, ?_⟩
  · intro frames hframes
    obtain ⟨encoded, hencoded⟩ := encode_ok hframes
    refine ⟨encoded, hencoded, ?_⟩
    intro chunks hchunks
    obtain ⟨rest, hstops, hrest⟩ := hfeed chunks
    have hall : Stops frameParser chunks.flatten frames none [] := by
      refine ⟨?_, rfl⟩
      have := splits_of_encode hencoded []
      rwa [List.append_nil, ← hchunks] at this
    obtain ⟨hsame, hnone, hnil⟩ := hstops.unique hall
    refine ⟨hsame, hnone, ?_⟩
    rw [← FrameDecoder.length_remaining, hrest hnone, hnil]
    rfl
  · intro chunks chunks' hsame
    obtain ⟨rest, hstops, -⟩ := hfeed chunks
    obtain ⟨rest', hstops', -⟩ := hfeed chunks'
    rw [← hsame] at hstops'
    obtain ⟨hframes, herror, -⟩ := hstops.unique hstops'
    exact ⟨hframes, herror⟩
  · intro d bytes hnone
    obtain ⟨rest, hstops, hrest⟩ := d.append_spec bytes
    have hmore := hstops.next
    rw [hnone] at hmore
    rw [← FrameDecoder.length_remaining, hrest hnone]
    exact FrameDecoder.length_of_more hmore
  · intro chunks hnone
    obtain ⟨rest, hstops, hrest⟩ := hfeed chunks
    obtain ⟨encoded, hencoded, heq⟩ := encode_of_splits hstops.splits
    exact ⟨encoded, hencoded, by rw [hrest hnone]; exact heq⟩

end Snf.Protocol
