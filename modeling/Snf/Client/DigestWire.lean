import Snf.Adapter.ProtocolEncoder
import Snf.Client.Wire

/-! # Battle digests on the wire

The server appends the fields of an event one by one and keeps their sizes in a function of its
own; the client reads an event by the format of its tag. Event by event the appended bytes are the
packed form of that format, so the client reads back what the server wrote.
-/

namespace Snf.Client

open Snf.Game Snf.Lib
open Snf.Adapter (encodedEventSize digestHeaderSize)
open Snf.Adapter.ProtocolEncoder

/-! ## The values of the source's types

The fields of an event are naturals in the model. In the source they have types of 32 and 64 bits. -/

def PositionTyped (position : ArenaPosition) : Prop := position.x < 2 ^ 32 ∧ position.y < 2 ^ 32

def EventTyped : BattleEvent → Prop
  | .enemySpawned id _ health => id < 2 ^ 32 ∧ health < 2 ^ 64
  | .enemyDamaged target actor skillId amount health =>
    target < 2 ^ 32 ∧ actor < 2 ^ 64 ∧ skillId < 2 ^ 32 ∧ amount < 2 ^ 64 ∧ health < 2 ^ 64
  | .enemyDied id => id < 2 ^ 32
  | .skillWhiffed actor skillId => actor < 2 ^ 64 ∧ skillId < 2 ^ 32
  | .arenaStarted width height => width < 2 ^ 32 ∧ height < 2 ^ 32
  | .participantSpawned player position health =>
    player < 2 ^ 64 ∧ PositionTyped position ∧ health < 2 ^ 64
  | .participantMoved player position => player < 2 ^ 64 ∧ PositionTyped position
  | .enemyPositioned enemy position => enemy < 2 ^ 32 ∧ PositionTyped position
  | .participantDamaged target attacker amount health =>
    target < 2 ^ 64 ∧ attacker < 2 ^ 32 ∧ amount < 2 ^ 64 ∧ health < 2 ^ 64
  | .participantDied player => player < 2 ^ 64
  | .participantLeft player => player < 2 ^ 64
  | .projectileSpawned projectile owner skillId target position =>
    projectile < 2 ^ 32 ∧ owner < 2 ^ 64 ∧ skillId < 2 ^ 32 ∧ target < 2 ^ 32 ∧
      PositionTyped position
  | .projectileMoved projectile position => projectile < 2 ^ 32 ∧ PositionTyped position
  | .projectileRemoved projectile _ => projectile < 2 ^ 32

structure DigestTyped (digest : BattleDigest) : Prop where
  sequence : digest.sequence < 2 ^ 64
  events : ∀ event ∈ digest.events, EventTyped event

/-! ## What the client is to read -/

def tagOf : BattleEvent → EventTag
  | .enemySpawned .. => .enemySpawned
  | .enemyDamaged .. => .enemyDamaged
  | .enemyDied .. => .enemyDied
  | .skillWhiffed .. => .skillWhiffed
  | .arenaStarted .. => .arenaStarted
  | .participantSpawned .. => .participantSpawned
  | .participantMoved .. => .participantMoved
  | .enemyPositioned .. => .enemyPositioned
  | .participantDamaged .. => .participantDamaged
  | .participantDied .. => .participantDied
  | .participantLeft .. => .participantLeft
  | .projectileSpawned .. => .projectileSpawned
  | .projectileMoved .. => .projectileMoved
  | .projectileRemoved .. => .projectileRemoved

/-- The fields of an event with their values, under the names the client gives them. -/
def namedFields : BattleEvent → List (String × Nat)
  | .enemySpawned id kind health =>
    [("id", id), ("kind", (enemyKindByte kind).toNat), ("hp", health)]
  | .enemyDamaged target actor skillId amount health =>
    [("target", target), ("actor", actor), ("skill_id", skillId), ("amount", amount),
      ("hp", health)]
  | .enemyDied id => [("id", id)]
  | .skillWhiffed actor skillId => [("actor", actor), ("skill_id", skillId)]
  | .arenaStarted width height => [("width", width), ("height", height)]
  | .participantSpawned player position health =>
    [("player", player), ("x", position.x), ("y", position.y), ("hp", health)]
  | .participantMoved player position =>
    [("player", player), ("x", position.x), ("y", position.y)]
  | .enemyPositioned enemy position => [("enemy", enemy), ("x", position.x), ("y", position.y)]
  | .participantDamaged target attacker amount health =>
    [("target", target), ("attacker", attacker), ("amount", amount), ("hp", health)]
  | .participantDied player => [("player", player)]
  | .participantLeft player => [("player", player)]
  | .projectileSpawned projectile owner skillId target position =>
    [("projectile", projectile), ("owner", owner), ("skill_id", skillId), ("target", target),
      ("x", position.x), ("y", position.y)]
  | .projectileMoved projectile position =>
    [("projectile", projectile), ("x", position.x), ("y", position.y)]
  | .projectileRemoved projectile reason =>
    [("projectile", projectile), ("reason", (removalReasonByte reason).toNat)]

def parsedEvent (event : BattleEvent) : ParsedEvent :=
  (tagOf event, (namedFields event).map fun field => (field.1, (field.2 : Int)))

/-! ## One event -/

/-- The format of an event's tag. -/
structure Described (event : BattleEvent) (format : Format) : Prop where
  spec : specOf (tagOf event) = some (format, (namedFields event).map (·.1))
  fits : List.Forall₂ Field.Holds format ((namedFields event).map (·.2))
  fields : (eventFields event).flatten =
    (List.zipWith (fun f value => bigEndian f.width value) format
      ((namedFields event).map (·.2))).flatten

/-- The table of the client describes every event of the server. -/
theorem exists_described (event : BattleEvent) (h : EventTyped event) :
    ∃ format, Described event format := by
  cases event with
  | enemySpawned id kind health =>
    refine ⟨_, rfl, ?_, ?_⟩
    · cases kind <;> simpa [EventTyped, namedFields, enemyKindByte] using h
    · cases kind <;> rfl
  | projectileRemoved projectile reason =>
    refine ⟨_, rfl, ?_, ?_⟩
    · cases reason <;> simpa [EventTyped, namedFields, removalReasonByte] using h
    · cases reason <;> rfl
  | _ => exact ⟨_, rfl, by simpa [EventTyped, PositionTyped, namedFields, and_assoc] using h, rfl⟩

theorem eventTagOf_battleEventKind (event : BattleEvent) :
    eventTagOf (battleEventKind event).toNat = some (tagOf event) := by
  cases event <;> rfl

/-- **The client reads an event as the server wrote it**, wherever it stands in the payload. -/
theorem parseEvent_appendEvent {event : BattleEvent} (h : EventTyped event)
    (before after : List UInt8) :
    parseEvent (before ++ (appendEvent event ++ after)) before.length =
      .ok (parsedEvent event, before.length + encodedEventSize event) := by
  obtain ⟨format, hspec, hfits, hfields⟩ := exists_described event h
  have hpack := Format.pack_natCast hfits
  rw [← hfields] at hpack
  have hsize : encodedEventSize event = format.size + 1 := by
    rw [← length_appendEvent, appendEvent, List.length_cons, Format.length_pack hpack]
  have hbyte : (before ++ (appendEvent event ++ after))[before.length]? =
      some (battleEventKind event) := by
    rw [List.getElem?_append_right (Nat.le_refl _), Nat.sub_self]
    rfl
  have hdrop : (before ++ (appendEvent event ++ after)).drop (before.length + 1) =
      (eventFields event).flatten ++ after := by
    rw [← List.drop_drop, List.drop_left]
    rfl
  have hroom : before.length + 1 + format.size ≤
      (before ++ (appendEvent event ++ after)).length := by
    rw [List.length_append, List.length_append, length_appendEvent]
    omega
  unfold parseEvent
  rw [hbyte]
  dsimp only
  rw [eventTagOf_battleEventKind]
  dsimp only
  rw [hspec]
  dsimp only
  rw [if_neg (Nat.not_lt.2 hroom), Format.unpackFrom_of_le hroom, hdrop, Format.unpack_pack hpack]
  have hzip : ((namedFields event).map (·.1)).zip
      (((namedFields event).map (·.2)).map (Nat.cast : Nat → Int)) =
      (namedFields event).map fun field => (field.1, (field.2 : Int)) := by
    rw [List.map_map, List.zip_map']
    rfl
  dsimp only
  rw [hzip, hsize, Nat.add_assoc, Nat.add_comm 1]
  rfl

/-! ## All events -/

theorem parseEvents_flatMap (events : List BattleEvent) (h : ∀ event ∈ events, EventTyped event)
    (before after : List UInt8) :
    parseEvents (before ++ (events.flatMap appendEvent ++ after)) events.length before.length =
      .ok (events.map parsedEvent, before.length + (events.map encodedEventSize).sum) := by
  induction events generalizing before with
  | nil => rfl
  | cons event events ih =>
    have hfirst := parseEvent_appendEvent (h event List.mem_cons_self) before
      (events.flatMap appendEvent ++ after)
    have hrest := ih (fun e he => h e (List.mem_cons_of_mem _ he)) (before ++ appendEvent event)
    rw [List.length_append, length_appendEvent, List.append_assoc] at hrest
    rw [List.flatMap_cons, List.append_assoc, List.length_cons, parseEvents, hfirst]
    show (parseEvents _ _ _ >>= _) = _
    rw [hrest, List.map_cons, List.map_cons, List.sum_cons, ← Nat.add_assoc]
    rfl

theorem roomPhases_get (phase : RoomPhase) :
    roomPhases[(roomPhaseByte phase).toNat]? = some phase := by
  cases phase <;> rfl

/-- The header of a digest. -/
theorem unpack_digestHeader {sequence count : Nat} {phase : UInt8} (hsequence : sequence < 2 ^ 64)
    (hcount : count < 2 ^ 16) (after : List UInt8) :
    Format.unpack [.u64, .u8, .u16]
      (bigEndian 8 sequence ++ [phase] ++ bigEndian 2 count ++ after) =
      [(sequence : Int), (phase.toNat : Int), (count : Int)] := by
  have hholds : List.Forall₂ Field.Holds [.u64, .u8, .u16] [sequence, phase.toNat, count] :=
    .cons (Field.holds_u64.2 hsequence) (.cons (Field.holds_u8.2 phase.toNat_lt)
      (.cons (Field.holds_u16.2 hcount) .nil))
  have hpack := Format.pack_natCast hholds
  have hphase : bigEndian 1 phase.toNat = [phase] := by
    rw [bigEndian, bigEndian, Nat.zero_mul, Nat.shiftRight_zero, UInt8.ofNat_toNat]
  have hbytes : (List.zipWith (fun (f : Field) value => bigEndian f.width value)
      [.u64, .u8, .u16] [sequence, phase.toNat, count]).flatten =
      bigEndian 8 sequence ++ [phase] ++ bigEndian 2 count := by
    rw [← hphase, List.append_assoc]
    rfl
  rw [hbytes] at hpack
  exact Format.unpack_pack hpack after

theorem parseDigest_payload {digest : BattleDigest} (h : DigestTyped digest) (phase : RoomPhase)
    (hcount : digest.events.length < 2 ^ 16) :
    parseDigest (bigEndian 8 digest.sequence ++ [roomPhaseByte phase] ++
        bigEndian 2 digest.events.length ++ digest.events.flatMap appendEvent) =
      .ok (digest.sequence, phase, digest.events.map parsedEvent) := by
  generalize hheader : bigEndian 8 digest.sequence ++ [roomPhaseByte phase] ++
    bigEndian 2 digest.events.length = header
  have hlength : header.length = 11 := by
    rw [← hheader]
    simp only [List.length_append, length_bigEndian, List.length_singleton]
  have hfields : Format.unpackFrom [.u64, .u8, .u16]
      (header ++ digest.events.flatMap appendEvent) 0 =
      some [(digest.sequence : Int), ((roomPhaseByte phase).toNat : Int),
        (digest.events.length : Int)] := by
    rw [Format.unpackFrom_of_le, List.drop_zero, ← hheader]
    · exact congrArg some (unpack_digestHeader h.sequence hcount _)
    · rw [List.length_append, hlength]
      exact Nat.le_add_right _ _
  have hevents := parseEvents_flatMap digest.events h.events header []
  rw [List.append_nil, hlength] at hevents
  have hsize : (header ++ digest.events.flatMap appendEvent).length =
      11 + (digest.events.map encodedEventSize).sum := by
    rw [List.length_append, hlength, length_flatMap_appendEvent]
  unfold parseDigest
  rw [hfields, hsize]
  dsimp only
  rw [if_neg (by omega), Int.toNat_natCast, Int.toNat_natCast, roomPhases_get]
  dsimp only
  rw [hevents]
  dsimp only
  rw [if_neg (not_not.2 rfl)]

/-! ## Digests -/

/-- **Battle digests on the wire.** If a digest is encoded, its payload is as long as the sizes of
its events say and fits into a frame, and the client reads the same sequence number, phase and
events from it. It is not encoded exactly when there is none, when it has too many events or when
it does not fit. -/
theorem battle_digest_round_trip (result : RoomResult) (requestId : UInt32)
    (htyped : ∀ digest, result.digest = some digest → DigestTyped digest) :
    (∀ frame, encodeBattleDigest result requestId = some frame →
      ∃ digest, result.digest = some digest ∧
        frame.payload.length = 11 + (digest.events.map encodedEventSize).sum ∧
        frame.payload.length ≤ Protocol.maxPayloadSize ∧
        parseDigest frame.payload =
          .ok (digest.sequence, result.phase, digest.events.map parsedEvent)) ∧
    (encodeBattleDigest result requestId = none ↔
      result.digest = none ∨ ∃ digest, result.digest = some digest ∧
        (65535 < digest.events.length ∨
          Protocol.maxPayloadSize < 11 + (digest.events.map encodedEventSize).sum)) := by
  rw [encodeBattleDigest_eq]
  cases hdigest : result.digest with
  | none => simp
  | some digest =>
    rw [Option.bind_some]
    by_cases hfits : digest.events.length ≤ 65535 ∧
        11 + (digest.events.map encodedEventSize).sum ≤ Protocol.maxPayloadSize
    · rw [if_pos hfits]
      constructor
      · intro frame hframe
        cases hframe
        have hlength : (bigEndian 8 digest.sequence ++ [roomPhaseByte result.phase] ++
            bigEndian 2 digest.events.length ++ digest.events.flatMap appendEvent).length =
            11 + (digest.events.map encodedEventSize).sum := by
          simp only [List.length_append, length_bigEndian, List.length_singleton,
            length_flatMap_appendEvent]
        refine ⟨digest, rfl, hlength, hlength ▸ hfits.2, ?_⟩
        exact parseDigest_payload (htyped digest hdigest) result.phase (by omega)
      · constructor
        · intro hnone
          cases hnone
        · rintro (hnone | ⟨digest', hsame, hlarge⟩)
          · cases hnone
          · cases hsame
            omega
    · rw [if_neg hfits]
      constructor
      · intro frame hframe
        cases hframe
      · refine ⟨fun _ => .inr ⟨digest, rfl, ?_⟩, fun _ => rfl⟩
        omega

def bossDigest : RoomResult :=
  { phase := .running
    digest := some
      { sequence := 3
        events := [.enemySpawned 9 .boss 500, .projectileRemoved 4 .expired, .participantDied 1] } }

/-- The digest with which a boss appears arrives as it was sent. -/
theorem battle_digest_round_trip_boss :
    ∃ frame, encodeBattleDigest bossDigest 0 = some frame ∧
      parseDigest frame.payload = .ok (3, .running,
        [(.enemySpawned, [("id", 9), ("kind", 1), ("hp", 500)]),
          (.projectileRemoved, [("projectile", 4), ("reason", 2)]),
          (.participantDied, [("player", 1)])]) := by
  have htyped : ∀ digest, bossDigest.digest = some digest → DigestTyped digest := by
    intro digest hdigest
    cases hdigest
    refine ⟨by decide, ?_⟩
    simp [EventTyped]
  obtain ⟨frame, hframe⟩ : ∃ frame, encodeBattleDigest bossDigest 0 = some frame :=
    Option.isSome_iff_exists.1 (by decide)
  obtain ⟨digest, hdigest, -, -, hparse⟩ :=
    (battle_digest_round_trip bossDigest 0 htyped).1 frame hframe
  cases hdigest
  exact ⟨frame, hframe, hparse⟩

end Snf.Client
