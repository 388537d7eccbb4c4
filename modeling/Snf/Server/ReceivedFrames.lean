import Snf.Protocol.FrameStream
import Snf.Server.CloseNotices

/-! # The frames of a client's stream

The TCP server posts the frames of the bytes that it receives. When a chunk has frames and an
error after them, none of these frames is posted: so what is posted depends on how the stream is
cut into chunks. If an error is reported only by chunks without a frame before it, the posted
frames are those of the stream, up to the first one that is not accepted.
-/

namespace Snf.Server

open Snf.Lib Snf.Net Snf.Protocol

namespace TcpServer

/-! ## What is to be posted -/

/-- The bytes that a client has sent, as far as they were received. -/
def streamOf : List Received → List UInt8
  | .bytes chunk :: rest => chunk ++ streamOf rest
  | _ => []

/-- The frames up to the first that is not accepted, with this one. -/
def untilRefused (posts : Nat → FramePostResult) : Nat → List Frame → List Frame
  | _, [] => []
  | n, frame :: frames =>
    if posts n = .accepted then frame :: untilRefused posts (n + 1) frames else [frame]

/-- No chunk that is received has frames and an error after them. -/
def errorsAlone (posts : Nat → FramePostResult) : Nat → Session → List Received → Bool
  | n, session, .bytes chunk :: rest =>
    match session.appendReceivedBytes chunk with
    | (frames, some _, _) => frames.isEmpty
    | (frames, none, session) =>
      (postFrames posts n frames).2.isSome || errorsAlone posts (n + frames.length) session rest
  | _, _, _ => true

/-- Read events of one client, one after the other. -/
def readEvents (s : TcpServer) (descriptor : Nat) (posts : Nat → FramePostResult)
    (answers : NoticeAnswers) : List (List Received) → Except String TcpServer
  | [] => .ok s
  | received :: rest => do
    let s ← s.handleClientEvent descriptor { readable := true } received posts [] answers
    s.readEvents descriptor posts answers rest

/-! ## Posting -/

/-- Either all frames are accepted, or more of them would not change what is posted. -/
theorem postFrames_spec (posts : Nat → FramePostResult) (n : Nat) (frames : List Frame) :
    (∃ cause, postFrames posts n frames = (untilRefused posts n frames, some cause) ∧
      ∀ more, untilRefused posts n (frames ++ more) = untilRefused posts n frames) ∨
    (postFrames posts n frames = (frames, none) ∧
      ∀ more, untilRefused posts n (frames ++ more) =
        frames ++ untilRefused posts (n + frames.length) more) := by
  induction frames generalizing n with
  | nil => exact .inr ⟨rfl, fun _ => rfl⟩
  | cons frame frames ih =>
    by_cases haccepted : posts n = .accepted
    · rcases ih (n + 1) with ⟨cause, hposted, hmore⟩ | ⟨hposted, hmore⟩
      · refine .inl ⟨cause, ?_, fun more => ?_⟩
        · unfold postFrames untilRefused
          rw [haccepted, hposted, if_pos rfl]
        · rw [List.cons_append, untilRefused, untilRefused, if_pos haccepted, if_pos haccepted,
            hmore]
      · refine .inr ⟨?_, fun more => ?_⟩
        · unfold postFrames
          rw [haccepted, hposted]
        · rw [List.cons_append, untilRefused, if_pos haccepted, hmore, List.length_cons,
            Nat.add_assoc, Nat.add_comm 1]
          rfl
    · refine .inl ?_
      have hone : ∀ more, untilRefused posts n (frame :: more) = [frame] := by
        intro more
        rw [untilRefused, if_neg haccepted]
      have hposted : ∃ cause, postFrames posts n (frame :: frames) = ([frame], some cause) := by
        unfold postFrames
        split
        · next h => exact absurd h haccepted
        · exact ⟨_, rfl⟩
        · exact ⟨_, rfl⟩
        · exact ⟨_, rfl⟩
        · exact ⟨_, rfl⟩
      obtain ⟨cause, hposted⟩ := hposted
      refine ⟨cause, ?_, fun more => ?_⟩
      · rw [hposted, hone]
      · rw [List.cons_append, hone, hone]

theorem exists_stops (l : List UInt8) : ∃ frames e rest, Stops frameParser l frames e rest := by
  obtain ⟨rest, hstops, -⟩ := FrameDecoder.append_spec {} l
  exact ⟨_, _, rest, hstops⟩

theorem stops_of_waits {l : List UInt8} (h : nextFrame l = .more) :
    Stops frameParser (l ++ []) [] none l := by
  rw [List.append_nil]
  exact ⟨.nil, h⟩

/-- **What is posted are the frames of the stream**, up to the first that is not accepted. -/
theorem receive_spec (posts : Nat → FramePostResult) (received : List Received) (n : Nat)
    (session : Session) (hwaits : nextFrame session.frameDecoder.remaining = .more)
    (halone : errorsAlone posts n session received = true) :
    ∃ frames e rest,
      Stops frameParser (session.frameDecoder.remaining ++ streamOf received) frames e rest ∧
        (receive posts n session received).2.1 = untilRefused posts n frames := by
  induction received generalizing n session with
  | nil => exact ⟨[], none, _, stops_of_waits hwaits, rfl⟩
  | cons result received ih =>
    cases result with
    | closed => exact ⟨[], none, _, stops_of_waits hwaits, rfl⟩
    | failed => exact ⟨[], none, _, stops_of_waits hwaits, rfl⟩
    | bytes chunk =>
      obtain ⟨rest, hstops, hrest⟩ := session.frameDecoder.append_spec chunk
      unfold receive
      unfold errorsAlone at halone
      unfold Session.appendReceivedBytes at halone ⊢
      unfold streamOf
      rw [← List.append_assoc]
      generalize session.frameDecoder.append chunk = out at hstops hrest halone ⊢
      obtain ⟨frames, error, decoder⟩ := out
      cases error with
      | some e =>
        have hnil : frames = [] := List.isEmpty_iff.1 halone
        subst hnil
        exact ⟨[], some e, _, hstops.append _, rfl⟩
      | none =>
        have hremaining : decoder.remaining = rest := hrest rfl
        subst hremaining
        dsimp only at halone ⊢
        rcases postFrames_spec posts n frames with ⟨cause, hposted, hmore⟩ | ⟨hposted, hmore⟩
        · -- the rest of the stream is not received
          obtain ⟨frames', e, rest', hrest'⟩ := exists_stops (decoder.remaining ++ streamOf received)
          refine ⟨frames ++ frames', e, rest', .extend hstops.splits hrest', ?_⟩
          rw [hposted, hmore]
        · rw [hposted, Option.isSome_none, Bool.false_or] at halone
          obtain ⟨frames', e, rest', hstops', hposted'⟩ :=
            ih (n + frames.length) { session with frameDecoder := decoder } hstops.next halone
          refine ⟨frames ++ frames', e, rest', .extend hstops.splits hstops', ?_⟩
          rw [hposted, hmore]
          dsimp only
          rw [hposted']

/-! ## Events of the server -/

theorem receive_bytes (posts : Nat → FramePostResult) (n : Nat) (session : Session)
    (chunk : List UInt8) (rest : List Received) :
    receive posts n session (.bytes chunk :: rest) =
      match session.appendReceivedBytes chunk with
      | (_, some _, session) => (session, [], some .protocolError)
      | (frames, none, session) =>
        match postFrames posts n frames with
        | (posted, some cause) => (session, posted, some cause)
        | (posted, none) =>
          let (session, more, cause) := receive posts (n + posted.length) session rest
          (session, posted ++ more, cause) :=
  rfl

theorem receive_append (posts : Nat → FramePostResult) (first second : List Received) (n : Nat)
    (session : Session) :
    receive posts n session (first ++ second) =
      match receive posts n session first with
      | (session, posted, some cause) => (session, posted, some cause)
      | (session, posted, none) =>
        let (session, more, cause) := receive posts (n + posted.length) session second
        (session, posted ++ more, cause) := by
  induction first generalizing n session with
  | nil => rfl
  | cons result first ih =>
    cases result with
    | closed => rfl
    | failed => rfl
    | bytes chunk =>
      rw [List.cons_append, receive_bytes, receive_bytes]
      generalize session.appendReceivedBytes chunk = out
      obtain ⟨frames, error, session'⟩ := out
      cases error with
      | some e => rfl
      | none =>
        dsimp only
        generalize postFrames posts n frames = out
        obtain ⟨posted, cause⟩ := out
        cases cause with
        | some cause => rfl
        | none =>
          dsimp only
          rw [ih]
          generalize receive posts (n + posted.length) session' first = out
          obtain ⟨session'', posted', cause⟩ := out
          cases cause with
          | some cause => rfl
          | none =>
            dsimp only
            rw [List.length_append, List.append_assoc, Nat.add_assoc]

theorem readEvents_of_none {s : TcpServer} {d : Nat} (posts : Nat → FramePostResult)
    (answers : NoticeAnswers) (hserving : s.isStopping = false)
    (hnone : s.sessions.lookup d = none) (events : List (List Received)) :
    s.readEvents d posts answers events = .ok s := by
  have hread : ∀ received, s.handleRead d received posts = none := by
    intro received
    unfold handleRead
    rw [hnone]
  induction events with
  | nil => rfl
  | cons received rest ih =>
    have hevent : s.handleClientEvent d { readable := true } received posts [] answers = .ok s := by
      unfold handleClientEvent
      rw [hserving]
      simp only [Bool.not_false, Bool.true_or, Bool.and_true, if_true, Bool.false_eq_true, if_false,
        hread]
    rw [readEvents, hevent]
    exact ih

/-- The frames posted for a connection, as they are recorded. -/
def envelopes (session : Session) (frames : List Frame) : List FrameEnvelope :=
  frames.map fun frame => { connection := session.connectionId, frame := frame }

theorem frames_recordPosts (s : TcpServer) (posts : Nat → FramePostResult) (session : Session)
    (posted : List Frame) (cause : Option ConnectionCloseCause) :
    (s.recordPosts posts session.connectionId posted cause).frames.map (·.1) =
        s.frames.map (·.1) ++ envelopes session posted ∧
      (s.recordPosts posts session.connectionId posted cause).frames.length =
        s.frames.length + posted.length := by
  unfold recordPosts envelopes
  dsimp only
  constructor
  · rw [List.map_append]
    congr 1
    apply List.ext_getElem
    · simp
    · intro i hi hi'
      simp
  · rw [List.length_append, List.length_mapIdx]

theorem removeSession_frames {s s' : TcpServer} {d : Nat} {cause : ConnectionCloseCause}
    {answers : NoticeAnswers} (h : s.removeSession d cause answers = .ok s') :
    s'.frames = s.frames ∧ s'.isStopping = s.isStopping ∧ s'.sessions.lookup d = none := by
  unfold removeSession at h
  split at h
  · next hnone =>
    cases h
    exact ⟨rfl, rfl, hnone⟩
  next session hsession =>
  dsimp only at h
  have hgone : (s.eraseSession d session.connectionId).sessions.lookup d = none :=
    AList.lookup_erase _ _
  split at h
  · unfold notifyConnectionClosed at h
    split at h
    · cases h
      exact ⟨rfl, rfl, hgone⟩
    dsimp only at h
    split at h
    · cases h
      exact ⟨rfl, rfl, hgone⟩
    · cases h
      exact ⟨rfl, rfl, hgone⟩
    · split at h
      · cases h
      · cases h
        exact ⟨rfl, rfl, hgone⟩
  · cases h
    exact ⟨rfl, rfl, hgone⟩

/-- There is only one error that removing a session can throw. -/
theorem removeSession_error {s : TcpServer} {d : Nat} {cause : ConnectionCloseCause}
    {answers : NoticeAnswers} {e : String} (h : s.removeSession d cause answers = .error e) :
    e = capacityViolated := by
  unfold removeSession at h
  split at h
  · cases h
  dsimp only at h
  split at h
  · unfold notifyConnectionClosed at h
    split at h
    · cases h
    dsimp only at h
    split at h
    · cases h
    · cases h
    · split at h
      · cases h
        rfl
      · cases h
  · cases h

theorem handleClientEvent_read {s : TcpServer} {d : Nat} {session : Session}
    (posts : Nat → FramePostResult) (answers : NoticeAnswers) (received : List Received)
    (hserving : s.isStopping = false) (hsession : s.sessions.lookup d = some session)
    {session' : Session} {posted : List Frame} {cause : Option ConnectionCloseCause}
    (hreceive : receive posts s.frames.length session received = (session', posted, cause)) :
    s.handleClientEvent d { readable := true } received posts [] answers =
      match cause with
      | some cause => ((s.setSession d session').recordPosts posts session.connectionId posted
          (some cause)).removeSession d cause answers
      | none => .ok ((s.setSession d session').recordPosts posts session.connectionId posted none) := by
  unfold handleClientEvent handleRead
  rw [hserving, hsession]
  simp only [Bool.not_false, Bool.true_or, Bool.and_true, if_true, Bool.false_eq_true, if_false,
    hreceive]
  cases cause with
  | some cause => rfl
  | none => rfl

/-- **The read events of a client post what the loop around `recv` posts** of all their results. -/
theorem readEvents_posts {s : TcpServer} {d : Nat} {session : Session}
    (posts : Nat → FramePostResult) (answers : NoticeAnswers) (events : List (List Received))
    (h : Posture s) (hserving : s.isStopping = false)
    (hsession : s.sessions.lookup d = some session) :
    ∃ s', s.readEvents d posts answers events = .ok s' ∧
      s'.frames.map (·.1) = s.frames.map (·.1) ++
        envelopes session (receive posts s.frames.length session events.flatten).2.1 := by
  induction events generalizing s session with
  | nil => exact ⟨s, rfl, (List.append_nil _).symm⟩
  | cons received rest ih =>
    have hkeeps := h.handleClientEvent d { readable := true } received posts [] answers
    have hid := connectionId_receive posts received s.frames.length session
    rw [readEvents, List.flatten_cons, receive_append]
    generalize hreceive : receive posts s.frames.length session received = out at hid ⊢
    obtain ⟨session', posted, cause⟩ := out
    rw [handleClientEvent_read posts answers received hserving hsession hreceive] at hkeeps ⊢
    obtain ⟨hframes, hlength⟩ := frames_recordPosts (s.setSession d session') posts session posted
      cause
    cases cause with
    | some cause =>
      -- the session is removed, and later events find none
      dsimp only at hkeeps ⊢
      generalize hremoved : TcpServer.removeSession _ d cause answers = removed at hkeeps ⊢
      cases removed with
      | error e => exact absurd (removeSession_error hremoved) hkeeps
      | ok s' =>
        obtain ⟨hsame, hstopping, hnone⟩ := removeSession_frames hremoved
        refine ⟨s', readEvents_of_none posts answers (hstopping.trans hserving) hnone rest, ?_⟩
        rw [hsame]
        exact hframes
    | none =>
      dsimp only at hkeeps ⊢
      have hlookup : ((s.setSession d session').recordPosts posts session.connectionId posted
          none).sessions.lookup d = some session' := AList.lookup_insert _
      obtain ⟨s', hs', hposted⟩ := ih hkeeps hserving hlookup
      refine ⟨s', hs', ?_⟩
      rw [hposted, hframes, hlength, List.append_assoc]
      have hsame : ∀ frames, envelopes session' frames = envelopes session frames := by
        intro frames
        unfold envelopes
        rw [hid]
      rw [hsame]
      unfold envelopes
      rw [← List.map_append]
      rfl

end TcpServer

open TcpServer

def pingBytes : List UInt8 := [0, 0, 0, 6, 0, 1, 0, 0, 0, 9]

/-- A length that no frame has. -/
def badLength : List UInt8 := [0, 0, 0, 0]

/-- A server with one connection, before its first byte. -/
def oneClient : List TcpAction := [.accept [5]]

end Snf.Server
