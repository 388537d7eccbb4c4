import Snf.Protocol.FrameStream
import Snf.Server.TcpServer

/-! # The bytes that the server sends

The way out of `TcpServer`: to the model of its calls come the events that epoll is asked for, and
two logs that no function reads, the frames that each connection has taken in and the bytes that
`send` has accepted of it. The logs belong to a connection, not to a descriptor, and outlive its
session.

The kernel is held to its contract: `send` accepts at most the bytes that it is given. A call that
is interrupted is repeated and leaves no trace, and one that would block ends a list of results.
-/

namespace Snf.Server

open Snf.Lib Snf.Net
open Snf.Protocol (Frame FrameDecoder encodeFrame)

/-! ## One session -/

/-- The frames, encoded one after the other. -/
def encodedFrames (frames : List Frame) : List UInt8 :=
  frames.flatMap fun frame => (encodeFrame frame).toOption.getD []

/-- What is left of the frames in a queue. -/
def unsentBytes (queue : List PendingSend) : List UInt8 :=
  queue.flatMap fun pending => pending.bytes.drop pending.offset

/-- The bytes that `send` accepts in the loop of `flushPendingSend`. -/
def acceptedBytes (session : Session) : List Sent → List UInt8
  | [] => []
  | .failed :: _ => []
  | .bytes count :: rest =>
    match session.sendQueue, session.consumeSentBytes count with
    | pending :: _, .ok (session, _) =>
      if count = 0 then []
      else (pending.bytes.drop pending.offset).take count ++ acceptedBytes session rest
    | _, _ => []

/-- `send` accepts no more than it is given, which is the rest of the first frame. -/
def withinRequests (session : Session) : List Sent → Bool
  | [] => true
  | .failed :: _ => true
  | .bytes count :: rest =>
    match session.sendQueue with
    | [] => true
    | pending :: _ =>
      count = 0 || (count ≤ pending.bytes.length - pending.offset &&
        match session.consumeSentBytes count with
        | .ok (session, _) => withinRequests session rest
        | .error _ => true)

/-- The frames of a session are on their way: `sent` is out, the rest is in the queue. -/
structure Streams (frames : List Frame) (sent : List UInt8) (session : Session) : Prop where
  encoded : ∀ frame ∈ frames, ∃ bytes, encodeFrame frame = .ok bytes
  bytes : encodedFrames frames = sent ++ unsentBytes session.sendQueue
  count : session.pendingSendByteCount = (unsentBytes session.sendQueue).length
  limit : session.pendingSendByteCount ≤ session.maxPendingSendBytes
  unfinished : ∀ pending ∈ session.sendQueue, pending.offset < pending.bytes.length

namespace Streams

variable {frames : List Frame} {sent : List UInt8} {session session' : Session}

theorem hasPendingSend_iff (h : Streams frames sent session) :
    session.hasPendingSend = true ↔ 0 < session.pendingSendByteCount := by
  rw [h.count, Session.hasPendingSend]
  cases hqueue : session.sendQueue with
  | nil => simp [unsentBytes]
  | cons pending queue =>
    have hlt := h.unfinished pending (hqueue ▸ List.mem_cons_self)
    simp only [List.isEmpty_cons, Bool.not_false, unsentBytes, List.flatMap_cons,
      List.length_append, List.length_drop, true_iff]
    omega

/-- What comes in does not touch what goes out. -/
theorem decoder (h : Streams frames sent session) (decoder : FrameDecoder) :
    Streams frames sent { session with frameDecoder := decoder } :=
  ⟨h.encoded, h.bytes, h.count, h.limit, h.unfinished⟩

theorem enqueueFrame (h : Streams frames sent session) {frame : Frame}
    (henqueue : session.enqueueFrame frame = .ok (some session')) :
    Streams (frames ++ [frame]) sent session' ∧
      session'.connectionId = session.connectionId ∧
      session'.maxPendingSendBytes = session.maxPendingSendBytes := by
  unfold Session.enqueueFrame at henqueue
  split at henqueue
  · cases henqueue
  next encoded hencoded =>
  split at henqueue
  · cases henqueue
  next hroom =>
  cases henqueue
  have hunsent : unsentBytes (session.sendQueue ++ [{ bytes := encoded }]) =
      unsentBytes session.sendQueue ++ encoded := by
    simp [unsentBytes]
  have hlength := h.count
  refine ⟨⟨?_, ?_, ?_, ?_, ?_⟩, rfl, rfl⟩
  · intro other hother
    rcases List.mem_append.1 hother with hold | hnew
    · exact h.encoded other hold
    · cases List.mem_singleton.1 hnew
      exact ⟨encoded, hencoded⟩
  · have hframes : encodedFrames (frames ++ [frame]) = encodedFrames frames ++ encoded := by
      simp [encodedFrames, hencoded, Except.toOption]
    rw [hframes, h.bytes, hunsent, List.append_assoc]
  · rw [hunsent, List.length_append]
    exact congrArg (· + _) hlength
  · obtain ⟨_, hle⟩ := not_or.1 hroom
    have hlimit := h.limit
    simp only
    omega
  · intro pending hpending
    rcases List.mem_append.1 hpending with hold | hnew
    · exact h.unfinished pending hold
    · cases List.mem_singleton.1 hnew
      obtain ⟨-, -, rfl⟩ := Protocol.length_encodeFrame hencoded
      simp only [List.length_append, length_bigEndian]
      omega

/-- The bytes that `send` has accepted go from the front of the queue to the end of what is out. -/
theorem consumeSentBytes (h : Streams frames sent session) {pending : PendingSend}
    {queue : List PendingSend} (hqueue : session.sendQueue = pending :: queue) {count : Nat}
    {whole : Bool} (hconsume : session.consumeSentBytes count = .ok (session', whole)) :
    Streams frames (sent ++ (pending.bytes.drop pending.offset).take count) session' ∧
      session'.connectionId = session.connectionId ∧
      session'.maxPendingSendBytes = session.maxPendingSendBytes := by
  have hunsent : unsentBytes session.sendQueue = (pending.bytes.drop pending.offset).take count ++
      (pending.bytes.drop (pending.offset + count) ++ unsentBytes queue) := by
    rw [hqueue, unsentBytes, List.flatMap_cons, ← List.append_assoc, ← List.drop_drop,
      List.take_append_drop]
    rfl
  have hcount := h.count
  have hlimit := h.limit
  unfold Session.consumeSentBytes at hconsume
  rw [hqueue] at hconsume
  dsimp only at hconsume
  split at hconsume
  · cases hconsume
  next hle =>
  have hlength : ((pending.bytes.drop pending.offset).take count).length = count := by
    rw [List.length_take, List.length_drop]
    omega
  -- what is left is the rest of the first frame, if there is one, and the other frames
  have hleft : ∀ rest, unsentBytes rest =
      pending.bytes.drop (pending.offset + count) ++ unsentBytes queue →
      (∀ pending ∈ rest, pending.offset < pending.bytes.length) →
      Streams frames (sent ++ (pending.bytes.drop pending.offset).take count)
        { session with
          pendingSendByteCount := session.pendingSendByteCount - count, sendQueue := rest } := by
    intro rest hrest hunfinished
    rw [hunsent, List.length_append, hlength] at hcount
    refine ⟨h.encoded, ?_, ?_, ?_, hunfinished⟩
    · rw [h.bytes, hunsent, hrest, List.append_assoc]
    · rw [hrest]
      simp only
      omega
    · simp only
      omega
  split at hconsume
  · next hend =>
    cases hconsume
    refine ⟨hleft queue ?_ ?_, rfl, rfl⟩
    · rw [List.drop_eq_nil_of_le (Nat.le_of_eq hend.symm)]
      rfl
    · intro other hother
      exact h.unfinished other (hqueue ▸ List.mem_cons_of_mem _ hother)
  · next hend =>
    cases hconsume
    refine ⟨hleft _ ?_ ?_, rfl, rfl⟩
    · simp only [unsentBytes, List.flatMap_cons]
    · intro other hother
      rcases List.mem_cons.1 hother with hfirst | hrest
      · rw [hfirst]
        dsimp only at hend ⊢
        have hlt := h.unfinished pending (hqueue ▸ List.mem_cons_self)
        omega
      · exact h.unfinished other (hqueue ▸ List.mem_cons_of_mem _ hrest)

/-- **The loop around `send`** moves what it accepts, in order, however it is cut. -/
theorem flushPendingSend (results : List Sent) (h : Streams frames sent session) {sentFrames : Nat}
    {works : Bool}
    (hflush : TcpServer.flushPendingSend session results = .ok (session', sentFrames, works)) :
    Streams frames (sent ++ acceptedBytes session results) session' ∧
      session'.connectionId = session.connectionId ∧
      session'.maxPendingSendBytes = session.maxPendingSendBytes := by
  induction results generalizing session sent sentFrames with
  | nil =>
    cases hflush
    rw [acceptedBytes, List.append_nil]
    exact ⟨h, rfl, rfl⟩
  | cons result rest ih =>
    cases result with
    | failed =>
      cases hflush
      rw [acceptedBytes, List.append_nil]
      exact ⟨h, rfl, rfl⟩
    | bytes count =>
      unfold TcpServer.flushPendingSend at hflush
      unfold acceptedBytes
      cases hqueue : session.sendQueue with
      | nil =>
        simp only [Session.hasPendingSend, hqueue, List.isEmpty_nil, Bool.not_true, Bool.not_false,
          if_true] at hflush
        cases hflush
        rw [List.append_nil]
        exact ⟨h, rfl, rfl⟩
      | cons pending queue =>
        simp only [Session.hasPendingSend, hqueue, List.isEmpty_cons, Bool.not_false,
          Bool.not_true, Bool.false_eq_true, if_false] at hflush
        cases hconsume : session.consumeSentBytes count with
        | error e =>
          rw [hconsume] at hflush
          split at hflush
          · cases hflush
            rw [List.append_nil]
            exact ⟨h, rfl, rfl⟩
          · cases hflush
        | ok out =>
          obtain ⟨consumed, whole⟩ := out
          rw [hconsume] at hflush
          dsimp only at hflush ⊢
          split at hflush
          · next hzero =>
            cases hflush
            rw [if_pos hzero, List.append_nil]
            exact ⟨h, rfl, rfl⟩
          next hcount =>
          split at hflush
          · cases hflush
          next flushed frames' works' hrest =>
          cases hflush
          obtain ⟨hstreams, hid, hmax⟩ := h.consumeSentBytes hqueue hconsume
          obtain ⟨hstreams', hid', hmax'⟩ := ih hstreams hrest
          rw [if_neg hcount, ← List.append_assoc]
          exact ⟨hstreams', hid'.trans hid, hmax'.trans hmax⟩

end Streams

/-- A `send` that accepts at most what it is given never makes `consumeSentBytes` throw. -/
theorem flushPendingSend_ok (results : List Sent) (session : Session)
    (hwithin : withinRequests session results = true) :
    ∃ out, TcpServer.flushPendingSend session results = .ok out := by
  induction results generalizing session with
  | nil => exact ⟨_, rfl⟩
  | cons result rest ih =>
    cases result with
    | failed => exact ⟨_, rfl⟩
    | bytes count =>
      unfold TcpServer.flushPendingSend
      unfold withinRequests at hwithin
      split
      · exact ⟨_, rfl⟩
      next hpending =>
      split
      · exact ⟨_, rfl⟩
      next hcount =>
      cases hqueue : session.sendQueue with
      | nil => exact absurd (by rw [Session.hasPendingSend, hqueue]; rfl) hpending
      | cons pending queue =>
        simp only [hqueue, hcount, decide_false, Bool.false_or, Bool.and_eq_true,
          decide_eq_true_eq] at hwithin
        obtain ⟨hle, hrest⟩ := hwithin
        cases hconsume : session.consumeSentBytes count with
        | error e =>
          unfold Session.consumeSentBytes at hconsume
          rw [hqueue] at hconsume
          dsimp only at hconsume
          rw [if_neg (Nat.not_lt.2 hle)] at hconsume
          split at hconsume
          · cases hconsume
          · cases hconsume
        | ok out =>
          rw [hconsume] at hrest
          obtain ⟨out', hout⟩ := ih out.1 hrest
          dsimp only
          rw [hout]
          exact ⟨_, rfl⟩

namespace TcpServer

/-! ## What the calls leave of the sessions -/

/-- The sessions of `s'` are sessions of `s`, with nothing changed on the way out. -/
structure Retains (s s' : TcpServer) : Prop where
  config : s'.config = s.config
  generation : s'.nextConnectionGeneration = s.nextConnectionGeneration
  session : ∀ {d session'}, s'.sessions.lookup d = some session' →
    ∃ session decoder, s.sessions.lookup d = some session ∧
      session' = { session with frameDecoder := decoder }

namespace Retains

variable {s s' s'' : TcpServer}

theorem of_sessions (hconfig : s'.config = s.config)
    (hgeneration : s'.nextConnectionGeneration = s.nextConnectionGeneration)
    (hsessions : s'.sessions = s.sessions) : Retains s s' where
  config := hconfig
  generation := hgeneration
  session := by
    intro d session' hsession
    exact ⟨session', session'.frameDecoder, hsessions ▸ hsession, rfl⟩

theorem refl (s : TcpServer) : Retains s s := of_sessions rfl rfl rfl

theorem trans (h : Retains s s') (h' : Retains s' s'') : Retains s s'' where
  config := h'.config.trans h.config
  generation := h'.generation.trans h.generation
  session := by
    intro d session'' hsession
    obtain ⟨session', decoder', hsession', rfl⟩ := h'.session hsession
    obtain ⟨session, decoder, hlookup, rfl⟩ := h.session hsession'
    exact ⟨session, decoder', hlookup, rfl⟩

theorem follow {x : Except String TcpServer} (h : Retains s s') (hx : Ensures x (Retains s')) :
    Ensures x (Retains s) :=
  hx.mono fun _ hs => h.trans hs

theorem eraseSession (s : TcpServer) (d : Nat) (connection : Net.ConnectionId) :
    Retains s (s.eraseSession d connection) where
  config := rfl
  generation := rfl
  session := by
    intro e session' hsession
    rw [TcpServer.eraseSession, lookup_erase_ite] at hsession
    split at hsession
    · cases hsession
    · exact ⟨session', session'.frameDecoder, hsession, rfl⟩

theorem notifyConnectionClosed (s : TcpServer) (closed : ConnectionClosed) (answer : PostResult) :
    Ensures (s.notifyConnectionClosed closed answer) (Retains s) := by
  unfold TcpServer.notifyConnectionClosed
  refine .ite (fun _ => .ok (refl s)) fun _ => ?_
  have hposted : Retains s (s.postNotice closed answer) := of_sessions rfl rfl rfl
  cases answer with
  | accepted => exact .ok hposted
  | closed => exact .ok hposted
  | full => exact .ite (fun _ => .error) fun _ => .ok (of_sessions rfl rfl rfl)

theorem removeSession (s : TcpServer) (d : Nat) (cause : ConnectionCloseCause)
    (answers : NoticeAnswers) : Ensures (s.removeSession d cause answers) (Retains s) := by
  unfold TcpServer.removeSession
  split
  · exact .ok (refl s)
  next session hsession =>
  have herased := eraseSession s d session.connectionId
  exact .ite (fun _ => herased.follow (notifyConnectionClosed _ _ _)) fun _ => .ok herased

theorem removeSessions (cause : ConnectionCloseCause) (answers : NoticeAnswers)
    (descriptors : List Nat) (s : TcpServer) :
    Ensures (s.removeSessions cause answers descriptors) (Retains s) := by
  induction descriptors generalizing s with
  | nil => exact .ok (refl s)
  | cons d rest ih =>
    unfold TcpServer.removeSessions
    exact (removeSession s d cause answers).bind fun s' hs => hs.follow (ih s')

theorem postOrKeep (s : TcpServer) (closed : ConnectionClosed) (answer : PostResult) :
    Retains s (s.postOrKeep closed answer) := by
  unfold TcpServer.postOrKeep
  dsimp only
  split
  · exact of_sessions rfl rfl rfl
  · exact of_sessions rfl rfl rfl

theorem retryAttempts (answers : NoticeAnswers) (attempts : Nat) (s : TcpServer) :
    Retains s (retryAttempts answers attempts s) := by
  induction attempts generalizing s with
  | zero => exact refl s
  | succ attempts ih =>
    have hfront : Retains s (s.retryFront answers) := by
      unfold TcpServer.retryFront
      split
      · exact refl s
      · next closed rest hpending =>
        have hpopped : Retains s { s with pendingConnectionCloses := rest } :=
          of_sessions rfl rfl rfl
        exact hpopped.trans (postOrKeep _ _ _)
    exact hfront.trans (ih _)

theorem retryPendingConnectionCloses (s : TcpServer) (answers : NoticeAnswers) :
    Retains s (s.retryPendingConnectionCloses answers) := by
  unfold TcpServer.retryPendingConnectionCloses
  refine (retryAttempts answers (min s.pendingConnectionCloses.length connectionCloseRetryBudget)
    s).trans ?_
  unfold closeFrameIngressAfterConnectionLifecyclesDrain
  split
  · exact refl _
  · exact of_sessions rfl rfl rfl

theorem finishEvent (s : TcpServer) (d : Nat) (flags : EventFlags)
    (cause : Option ConnectionCloseCause) (answers : NoticeAnswers) :
    Ensures (s.finishEvent d flags cause answers) (Retains s) := by
  unfold TcpServer.finishEvent
  dsimp only
  split
  · exact removeSession _ _ _ _
  · exact .ok (refl s)

theorem closeFailedAdmissions (answers : NoticeAnswers) (failed : List Net.ConnectionId)
    (s : TcpServer) : Ensures (s.closeFailedAdmissions answers failed) (Retains s) := by
  induction failed generalizing s with
  | nil => exact .ok (refl s)
  | cons connection rest ih =>
    unfold TcpServer.closeFailedAdmissions
    split
    · have hcounted : Retains s s.countStaleAction := of_sessions rfl rfl rfl
      exact hcounted.follow (ih _)
    · have hcounted : Retains s (s.countAdmissionFailure 1) := of_sessions rfl rfl rfl
      exact (hcounted.follow (removeSession _ _ _ answers)).bind fun s' hs => hs.follow (ih s')

theorem closeConnectionsWithFailedOutboundAdmission (s : TcpServer)
    (failed : List Net.ConnectionId) (closeAllSessions : Bool) (answers : NoticeAnswers) :
    Ensures (s.closeConnectionsWithFailedOutboundAdmission failed closeAllSessions answers)
      (Retains s) := by
  unfold TcpServer.closeConnectionsWithFailedOutboundAdmission
  refine (closeFailedAdmissions answers failed s).bind fun s' hs => ?_
  refine .ite (fun _ => .ok hs) fun _ => ?_
  have hcounted : Retains s' (countAdmissionFailure { s' with stats := { s'.stats with
      outboundAdmissionFailureFallbacks := s'.stats.outboundAdmissionFailureFallbacks + 1 } }
      s'.sessions.entries.length) := of_sessions rfl rfl rfl
  exact (hs.trans hcounted).follow (removeSessions _ _ _ _)

theorem raiseHighWaterMark (s : TcpServer) : Retains s s.raiseHighWaterMark :=
  of_sessions rfl rfl rfl

theorem sweep (answers : NoticeAnswers) (sessions : List Session) (s : TcpServer) :
    Retains s (sessions.foldl (sweepNotice answers) s) := by
  induction sessions generalizing s with
  | nil => exact refl s
  | cons session rest ih => exact (postOrKeep s _ _).trans (ih _)

theorem beginShutdown (s : TcpServer) (controlDrained : Bool) (sweep retry : NoticeAnswers) :
    Ensures (s.beginShutdown controlDrained sweep retry) (Retains s) := by
  unfold TcpServer.beginShutdown
  refine .ite (fun _ => .ok (refl s)) fun _ => ?_
  have hstopping : Retains s { s with isStopping := true } := of_sessions rfl rfl rfl
  have hswept := hstopping.trans (Retains.sweep sweep (s.sessions.entries.map (·.2)) _)
  have hraised := (hswept.trans (raiseHighWaterMark _)).trans
    (retryPendingConnectionCloses _ retry)
  exact .ite (fun _ => hraised.follow (removeSessions _ _ _ _)) fun _ => .ok hraised

theorem handleRuntimeCompletion (s : TcpServer) (failed drained controlDrained : Bool)
    (sweep retry : NoticeAnswers) :
    Ensures (s.handleRuntimeCompletion failed drained controlDrained sweep retry) (Retains s) := by
  have hdrained : Retains s { s with logicRuntimeDrained := true } := of_sessions rfl rfl rfl
  unfold TcpServer.handleRuntimeCompletion abortShutdownAfterLogicRuntimeFailure
  refine .ite (fun _ => ?_) fun _ => .ite (fun _ => ?_) fun _ => .ok (refl s)
  · refine (hdrained.follow (beginShutdown _ controlDrained sweep retry)).bind fun s' hs => ?_
    have hcancelled : Retains s' s'.cancelQueues := of_sessions rfl rfl rfl
    exact (hs.trans hcancelled).follow (removeSessions _ _ _ _)
  · exact .ite (fun _ => hdrained.follow (removeSessions _ _ _ _)) fun _ => .ok hdrained

/-- The loop around `recv` changes the decoder alone. -/
theorem receive (posts : Nat → FramePostResult) (received : List Received) (n : Nat)
    (session : Session) :
    ∃ decoder, (TcpServer.receive posts n session received).1 =
      { session with frameDecoder := decoder } := by
  induction received generalizing n session with
  | nil => exact ⟨session.frameDecoder, rfl⟩
  | cons result rest ih =>
    cases result with
    | closed => exact ⟨session.frameDecoder, rfl⟩
    | failed => exact ⟨session.frameDecoder, rfl⟩
    | bytes chunk =>
      have happend : ∃ decoder, (session.appendReceivedBytes chunk).2.2 =
          { session with frameDecoder := decoder } := ⟨_, rfl⟩
      unfold TcpServer.receive
      generalize session.appendReceivedBytes chunk = out at happend ⊢
      obtain ⟨frames, error, session'⟩ := out
      cases error with
      | some e => exact happend
      | none =>
        dsimp only
        split
        · exact happend
        · obtain ⟨decoder, rfl⟩ := happend
          obtain ⟨decoder', hrest⟩ := ih _ { session with frameDecoder := decoder }
          exact ⟨decoder', hrest⟩

theorem handleRead {d : Nat} {received : List Received} {posts : Nat → FramePostResult}
    {cause : Option ConnectionCloseCause}
    (hread : s.handleRead d received posts = some (s', cause)) : Retains s s' := by
  unfold TcpServer.handleRead at hread
  split at hread
  · cases hread
  next session hsession =>
  obtain ⟨decoder, hreceive⟩ := receive posts received s.frames.length session
  cases hread
  refine ⟨rfl, rfl, ?_⟩
  intro e session' hlookup
  rw [recordPosts, setSession, lookup_insert_ite] at hlookup
  split at hlookup
  · next he =>
    cases hlookup
    exact ⟨session, decoder, he ▸ hsession, hreceive⟩
  · exact ⟨session', session'.frameDecoder, hlookup, rfl⟩

end Retains

/-! ## The writing part of an event -/

/-- The session that `handleClientEvent` gives to `flushPendingSend`, as its reading part leaves
it. -/
def flushing (s : TcpServer) (descriptor : Nat) (flags : EventFlags) (received : List Received)
    (posts : Nat → FramePostResult) : Option Session :=
  if flags.error then none
  else
    let hasReadEvent := !s.isStopping && (flags.readable || flags.readHangUp || flags.hangUp)
    let read := if hasReadEvent then s.handleRead descriptor received posts else some (s, none)
    match read with
    | some (s, none) => if flags.writable then s.sessions.lookup descriptor else none
    | _ => none

/-- The session that a call flushes, with the results of `send`. -/
def flushed (s : TcpServer) : TcpAction → Option (Session × List Sent)
  | .clientEvent token flags received posts sent _ =>
    match s.clientDescriptorsByEventToken.lookup token with
    | none => none
    | some descriptor => (s.flushing descriptor flags received posts).map (·, sent)
  | _ => none

/-- The frame that a call gives to the queue of a connection. -/
def enqueued (s : TcpServer) : TcpAction → Option (Net.ConnectionId × Frame)
  | .outbound (.sendFrame connection frame) _ =>
    match s.findCurrentSession connection with
    | none => none
    | some session =>
      match session.enqueueFrame frame with
      | .ok (some _) => some (connection, frame)
      | _ => none
  | _ => none

/-- The kernel keeps to its contract in a call. -/
def obeyed (s : TcpServer) (action : TcpAction) : Bool :=
  match s.flushed action with
  | none => true
  | some (session, results) => withinRequests session results

theorem handleClientEvent_flushing (s : TcpServer) (d : Nat) (flags : EventFlags)
    (received : List Received) (posts : Nat → FramePostResult) (sent : List Sent)
    (answers : NoticeAnswers) :
    Ensures (s.handleClientEvent d flags received posts sent answers) fun s' =>
      (s.flushing d flags received posts = none ∧ Retains s s') ∨
      ∃ s₁ session session' sentFrames works, Retains s s₁ ∧
        s₁.sessions.lookup d = some session ∧
        s.flushing d flags received posts = some session ∧ flags.writable = true ∧
        flushPendingSend session sent = .ok (session', sentFrames, works) ∧
        Retains (s₁.setSession d session') s' := by
  unfold handleClientEvent flushing
  split
  · exact (Retains.finishEvent _ _ _ _ _).mono fun s' hs => .inl ⟨rfl, hs⟩
  dsimp only
  have hread : ∀ {out},
      (if (!s.isStopping && (flags.readable || flags.readHangUp || flags.hangUp)) = true
        then s.handleRead d received posts else some (s, none)) = some out →
      Retains s out.1 := by
    intro out hout
    split at hout
    · exact Retains.handleRead hout
    · cases hout
      exact .refl s
  generalize (if (!s.isStopping && (flags.readable || flags.readHangUp || flags.hangUp)) = true
    then s.handleRead d received posts else some (s, none)) = read at hread ⊢
  cases read with
  | none => exact .ok (.inl ⟨rfl, .refl s⟩)
  | some out =>
    obtain ⟨s₁, cause⟩ := out
    have hretains : Retains s s₁ := hread rfl
    cases cause with
    | some cause =>
      exact (hretains.follow (Retains.finishEvent _ _ _ _ _)).mono fun s' hs => .inl ⟨rfl, hs⟩
    | none =>
      dsimp only
      split
      · next hwritable =>
        unfold handleWrite
        cases hsession : s₁.sessions.lookup d with
        | none => exact .ok (.inl ⟨rfl, hretains⟩)
        | some session =>
          dsimp only
          cases hflush : flushPendingSend session sent with
          | error e => exact .error
          | ok out =>
            obtain ⟨session', sentFrames, works⟩ := out
            dsimp only
            have hcounted : Retains (s₁.setSession d session') { s₁.setSession d session' with
                stats := { s₁.stats with sentFrames := s₁.stats.sentFrames + sentFrames } } :=
              .of_sessions rfl rfl rfl
            refine (hcounted.follow (Retains.finishEvent _ _ _ _ _)).mono fun s' hs => .inr ?_
            exact ⟨s₁, session, session', sentFrames, works, hretains, hsession, rfl, hwritable,
              hflush, hs⟩
      · exact (hretains.follow (Retains.finishEvent _ _ _ _ _)).mono fun s' hs => .inl ⟨rfl, hs⟩

/-! ## The logs of a run -/

/-- The frames of every connection, after a call. -/
def acceptedAfter (s : TcpServer) (accepted : Net.ConnectionId → List Frame) (action : TcpAction) :
    Net.ConnectionId → List Frame :=
  match s.enqueued action with
  | none => accepted
  | some (connection, frame) =>
    Function.update accepted connection (accepted connection ++ [frame])

/-- The bytes of every connection that are out after a call. -/
def sentAfter (s : TcpServer) (sent : Net.ConnectionId → List UInt8) (action : TcpAction) :
    Net.ConnectionId → List UInt8 :=
  match s.flushed action with
  | none => sent
  | some (session, results) =>
    Function.update sent session.connectionId
      (sent session.connectionId ++ acceptedBytes session results)

/-- The logs fit the sessions. A connection that is closed keeps what it has sent, and a
generation that is not given yet has nothing. -/
structure Streaming (s : TcpServer) (accepted : Net.ConnectionId → List Frame)
    (sent : Net.ConnectionId → List UInt8) : Prop where
  owned : ∀ {d session}, s.sessions.lookup d = some session →
    session.connectionId.descriptor = d ∧
      session.connectionId.generation ≤ s.nextConnectionGeneration ∧
      session.maxPendingSendBytes = s.config.maxPendingSendBytes
  session : ∀ {d session}, s.sessions.lookup d = some session →
    Streams (accepted session.connectionId) (sent session.connectionId) session
  log : ∀ connection, sent connection <+: encodedFrames (accepted connection) ∧
    ∀ frame ∈ accepted connection, ∃ bytes, encodeFrame frame = .ok bytes
  fresh : ∀ connection : Net.ConnectionId, s.nextConnectionGeneration < connection.generation →
    accepted connection = [] ∧ sent connection = []

namespace Streaming

variable {s s' : TcpServer} {accepted : Net.ConnectionId → List Frame}
  {sent : Net.ConnectionId → List UInt8}

theorem retains (h : Streaming s accepted sent) (hretains : Retains s s') :
    Streaming s' accepted sent where
  owned := by
    intro d session' hsession'
    obtain ⟨session, decoder, hsession, rfl⟩ := hretains.session hsession'
    have howned := h.owned hsession
    rw [hretains.generation, hretains.config]
    exact howned
  session := by
    intro d session' hsession'
    obtain ⟨session, decoder, hsession, rfl⟩ := hretains.session hsession'
    exact (h.session hsession).decoder decoder
  log := h.log
  fresh := by
    intro connection hlt
    exact h.fresh connection (hretains.generation ▸ hlt)

/-- What a session takes in or sends is in the logs of its connection, and of no other. -/
theorem setSession (h : Streaming s accepted sent) {d : Nat} {session session' : Session}
    (hsession : s.sessions.lookup d = some session)
    (hid : session'.connectionId = session.connectionId)
    (hmax : session'.maxPendingSendBytes = session.maxPendingSendBytes) {frames : List Frame}
    {bytes : List UInt8} (hstreams : Streams frames bytes session') :
    Streaming (s.setSession d session')
      (Function.update accepted session.connectionId frames)
      (Function.update sent session.connectionId bytes) := by
  obtain ⟨hdescriptor, hgeneration, hlimit⟩ := h.owned hsession
  refine ⟨?_, ?_, ?_, ?_⟩
  · intro e other hother
    rw [TcpServer.setSession, lookup_insert_ite] at hother
    split at hother
    · next he =>
      cases hother
      rw [hid, he]
      exact ⟨hdescriptor, hgeneration, hmax.trans hlimit⟩
    · exact h.owned hother
  · intro e other hother
    rw [TcpServer.setSession, lookup_insert_ite] at hother
    split at hother
    · cases hother
      rw [hid, Function.update_self, Function.update_self]
      exact hstreams
    · next he =>
      have hne : other.connectionId ≠ session.connectionId := by
        intro heq
        exact he ((h.owned hother).1.symm.trans ((congrArg _ heq).trans hdescriptor))
      rw [Function.update_of_ne hne, Function.update_of_ne hne]
      exact h.session hother
  · intro connection
    by_cases heq : connection = session.connectionId
    · rw [heq, Function.update_self, Function.update_self]
      exact ⟨⟨_, hstreams.bytes.symm⟩, hstreams.encoded⟩
    · rw [Function.update_of_ne heq, Function.update_of_ne heq]
      exact h.log connection
  · intro connection hlt
    have hne : connection ≠ session.connectionId := by
      intro heq
      rw [heq] at hlt
      exact absurd hgeneration (Nat.not_le.2 hlt)
    rw [Function.update_of_ne hne, Function.update_of_ne hne]
    exact h.fresh connection hlt

theorem acceptClient_ok {d : Nat} (haccept : s.acceptClient d = .ok s') :
    s.sessions.lookup d = none ∧ s'.config = s.config ∧
      s'.nextConnectionGeneration = s.nextConnectionGeneration + 1 ∧
      s'.sessions = s.sessions.insert d
        { connectionId := ⟨d, s.nextConnectionGeneration + 1⟩
          maxPendingSendBytes := s.config.maxPendingSendBytes } := by
  unfold TcpServer.acceptClient at haccept
  dsimp only at haccept
  split at haccept
  · cases haccept
  split at haccept
  · cases haccept
  next hfree =>
  split at haccept
  · cases haccept
  cases haccept
  exact ⟨by simpa using hfree, rfl, rfl, rfl⟩

theorem acceptClient (h : Streaming s accepted sent) {d : Nat}
    (haccept : s.acceptClient d = .ok s') : Streaming s' accepted sent := by
  obtain ⟨-, hconfig, hnext, hsessions⟩ := acceptClient_ok haccept
  refine ⟨?_, ?_, h.log, ?_⟩
  · intro e session hsession
    rw [hsessions, lookup_insert_ite] at hsession
    rw [hconfig, hnext]
    split at hsession
    · next he =>
      cases hsession
      exact ⟨he.symm, Nat.le_refl _, rfl⟩
    · obtain ⟨hdescriptor, hgeneration, hmax⟩ := h.owned hsession
      exact ⟨hdescriptor, Nat.le_succ_of_le hgeneration, hmax⟩
  · intro e session hsession
    rw [hsessions, lookup_insert_ite] at hsession
    split at hsession
    · cases hsession
      obtain ⟨hframes, hsent⟩ := h.fresh ⟨d, s.nextConnectionGeneration + 1⟩
        (Nat.lt_succ_self _)
      dsimp only
      rw [hframes, hsent]
      exact ⟨List.forall_mem_nil _, rfl, rfl, Nat.zero_le _, List.forall_mem_nil _⟩
    · exact h.session hsession
  · intro connection hlt
    rw [hnext] at hlt
    exact h.fresh connection (Nat.lt_of_succ_lt hlt)

end Streaming

/-! ## One call -/

/-- Whether a call makes `updateClientEvents` for a descriptor whose session, if it is still there
at the end, is `session`. -/
def updatesClientEvents (s : TcpServer) (descriptor : Nat) (session : Session) : TcpAction → Bool
  | .clientEvent token flags _ _ _ _ =>
    flags.writable && s.clientDescriptorsByEventToken.lookup token = some descriptor
  | .outbound (.sendFrame connection _) _ =>
    connection.descriptor = descriptor && (s.findCurrentSession connection).isSome
  | .stop _ _ _ => !s.isStopping
  -- `completeShutdownAfterLogicRuntimeDrained`; a runtime that has failed leaves no session
  | .runtimeCompletion failed drained controlDrained _ _ =>
    !failed && !s.logicRuntimeDrained && drained && s.isStopping && controlDrained &&
      session.hasPendingSend
  | .controlDrained _ => s.isStopping && s.logicRuntimeDrained && session.hasPendingSend
  | _ => false

/-- A session that is there after a call is new and has nothing to send, or its events are
updated, or it has to send what it had to send before. -/
structure Updates (s : TcpServer) (action : TcpAction) (s' : TcpServer) : Prop where
  config : s'.config = s.config
  session : ∀ {d session'}, s'.sessions.lookup d = some session' →
    (s.sessions.lookup d = none ∧ session'.sendQueue = []) ∨
    ∃ session, s.sessions.lookup d = some session ∧
      (s.updatesClientEvents d session' action = true ∨ session'.sendQueue = session.sendQueue)

variable {s s' : TcpServer} {accepted : Net.ConnectionId → List Frame}
  {sent : Net.ConnectionId → List UInt8}

theorem Retains.updates (h : Retains s s') (action : TcpAction) : Updates s action s' where
  config := h.config
  session := by
    intro d session' hsession'
    obtain ⟨session, decoder, hsession, rfl⟩ := h.session hsession'
    exact .inr ⟨session, hsession, .inr rfl⟩

theorem Streaming.retained {action : TcpAction} (h : Streaming s accepted sent)
    (hretains : Retains s s') (hflushed : s.flushed action = none)
    (henqueued : s.enqueued action = none) :
    Streaming s' (s.acceptedAfter accepted action) (s.sentAfter sent action) ∧
      Updates s action s' := by
  refine ⟨?_, hretains.updates action⟩
  rw [acceptedAfter, sentAfter, hflushed, henqueued]
  exact h.retains hretains

theorem Streaming.acceptPendingClients (descriptors : List Nat) (h : Streaming s accepted sent)
    (action : TcpAction) :
    Ensures (s.acceptPendingClients descriptors) fun s' =>
      Streaming s' accepted sent ∧ Updates s action s' := by
  suffices hnew : Ensures (s.acceptPendingClients descriptors) fun s' =>
      Streaming s' accepted sent ∧ s'.config = s.config ∧
        ∀ {d session'}, s'.sessions.lookup d = some session' →
          (s.sessions.lookup d = none ∧ session'.sendQueue = []) ∨
            s.sessions.lookup d = some session' by
    refine hnew.mono fun s' hs => ⟨hs.1, hs.2.1, ?_⟩
    intro d session' hsession'
    rcases hs.2.2 hsession' with hfresh | hold
    · exact .inl hfresh
    · exact .inr ⟨session', hold, .inr rfl⟩
  induction descriptors generalizing s with
  | nil => exact .ok ⟨h, rfl, .inr⟩
  | cons d rest ih =>
    unfold TcpServer.acceptPendingClients
    split
    · exact .ok ⟨h.retains (.of_sessions rfl rfl rfl), rfl, .inr⟩
    intro s' hs'
    obtain ⟨s₁, haccept, hrest⟩ := bind_eq_ok hs'
    obtain ⟨hstreaming, hconfig, hsessions⟩ := ih (h.acceptClient haccept) s' hrest
    obtain ⟨hnone, hsame, -, hinsert⟩ := Streaming.acceptClient_ok haccept
    refine ⟨hstreaming, hconfig.trans hsame, ?_⟩
    intro e session' hsession'
    have hlookup := hsessions hsession'
    rw [hinsert, lookup_insert_ite] at hlookup
    split at hlookup
    · next he =>
      rw [he]
      rcases hlookup with hfresh | hold
      · exact absurd hfresh.1 (by simp)
      · cases hold
        exact .inl ⟨hnone, rfl⟩
    · exact hlookup

/-- The event of a client: what it flushes goes to the log of its connection. -/
theorem Streaming.clientEvent (h : Streaming s accepted sent) (token : Nat) (flags : EventFlags)
    (received : List Received) (posts : Nat → FramePostResult) (results : List Sent)
    (answers : NoticeAnswers) :
    Ensures (s.transition (.clientEvent token flags received posts results answers)) fun s' =>
      Streaming s'
        (s.acceptedAfter accepted (.clientEvent token flags received posts results answers))
        (s.sentAfter sent (.clientEvent token flags received posts results answers)) ∧
      Updates s (.clientEvent token flags received posts results answers) s' := by
  unfold TcpServer.transition
  dsimp only
  cases htoken : s.clientDescriptorsByEventToken.lookup token with
  | none =>
    refine .ok (h.retained (.refl s) ?_ rfl)
    rw [flushed, htoken]
  | some d =>
    intro s' hs'
    have hcases := handleClientEvent_flushing s d flags received posts results answers s' hs'
    rcases hcases with hnone | hsome
    · refine h.retained hnone.2 ?_ rfl
      rw [flushed, htoken]
      dsimp only
      rw [hnone.1]
      rfl
    obtain ⟨s₁, session, session', sentFrames, works, hread, hsession, hflushing, hwritable,
      hflush, hretains⟩ := hsome
    have h₁ := h.retains hread
    obtain ⟨hstreams, hid, hmax⟩ := (h₁.session hsession).flushPendingSend results hflush
    have hset := h₁.setSession hsession hid hmax hstreams
    rw [Function.update_eq_self] at hset
    refine ⟨?_, ?_⟩
    · rw [sentAfter, flushed, htoken]
      dsimp only
      rw [hflushing]
      exact hset.retains hretains
    · refine ⟨hretains.config.trans hread.config, ?_⟩
      intro e other hother
      obtain ⟨before, decoder, hbefore, rfl⟩ := hretains.session hother
      rw [TcpServer.setSession, lookup_insert_ite] at hbefore
      split at hbefore
      · next he =>
        obtain ⟨first, -, hfirst, -⟩ := hread.session hsession
        refine .inr ⟨first, he ▸ hfirst, .inl ?_⟩
        rw [updatesClientEvents, hwritable, htoken, he]
        simp
      · obtain ⟨first, decoder', hfirst, rfl⟩ := hread.session hbefore
        exact .inr ⟨first, hfirst, .inr rfl⟩

/-- A frame that the session takes in goes to the log of its connection. -/
theorem Streaming.sendFrame (h : Streaming s accepted sent) (connection : Net.ConnectionId)
    (frame : Frame) (answers : NoticeAnswers) :
    Ensures (s.transition (.outbound (.sendFrame connection frame) answers)) fun s' =>
      Streaming s' (s.acceptedAfter accepted (.outbound (.sendFrame connection frame) answers))
        (s.sentAfter sent (.outbound (.sendFrame connection frame) answers)) ∧
      Updates s (.outbound (.sendFrame connection frame) answers) s' := by
  unfold TcpServer.transition TcpServer.handleOutboundAction
  dsimp only
  cases hcurrent : s.findCurrentSession connection with
  | none =>
    refine .ok (h.retained (.of_sessions rfl rfl rfl) rfl ?_)
    rw [enqueued, hcurrent]
  | some session =>
    obtain ⟨hsession, hid⟩ := Option.filter_eq_some_iff.1 hcurrent
    have hconnection : session.connectionId = connection := of_decide_eq_true hid
    dsimp only
    cases henqueue : session.enqueueFrame frame with
    | error e => exact .error
    | ok out =>
      cases out with
      | none =>
        refine (Retains.removeSession _ _ _ _).mono fun s' hs => h.retained hs rfl ?_
        rw [enqueued, hcurrent]
        dsimp only
        rw [henqueue]
      | some session' =>
        obtain ⟨hstreams, hsame, hmax⟩ := (h.session hsession).enqueueFrame henqueue
        have hset := h.setSession hsession hsame hmax hstreams
        rw [Function.update_eq_self, hconnection] at hset
        refine .ok ⟨?_, ?_⟩
        · rw [acceptedAfter, enqueued, hcurrent]
          dsimp only
          rw [henqueue]
          exact hset
        · refine ⟨rfl, ?_⟩
          intro e other hother
          rw [TcpServer.setSession, lookup_insert_ite] at hother
          split at hother
          · next he =>
            refine .inr ⟨session, he ▸ hsession, .inl ?_⟩
            rw [updatesClientEvents, hcurrent, he]
            simp
          · exact .inr ⟨other, hother, .inr rfl⟩

/-- **One call.** The logs still fit the sessions, and the events are updated where they have to
be. -/
theorem Streaming.transition (h : Streaming s accepted sent) (action : TcpAction) :
    Ensures (s.transition action) fun s' =>
      Streaming s' (s.acceptedAfter accepted action) (s.sentAfter sent action) ∧
        Updates s action s' := by
  cases action with
  | accept descriptors =>
    exact .ite (fun _ => .ok (h.retained (.refl s) rfl rfl))
      fun _ => h.acceptPendingClients descriptors _
  | clientEvent token flags received posts results answers =>
    exact h.clientEvent token flags received posts results answers
  | outbound action answers =>
    cases action with
    | sendFrame connection frame => exact h.sendFrame connection frame answers
    | closeConnection connection =>
      unfold TcpServer.transition TcpServer.handleOutboundAction
      dsimp only
      split
      · exact .ok (h.retained (.of_sessions rfl rfl rfl) rfl rfl)
      · have hcounted : Retains s { s with stats := { s.stats with
            protocolErrors := s.stats.protocolErrors + 1 } } := .of_sessions rfl rfl rfl
        exact (hcounted.follow (Retains.removeSession _ _ _ _)).mono fun s' hs =>
          h.retained hs rfl rfl
  | failedAdmissions failed closeAllSessions answers =>
    exact (Retains.closeConnectionsWithFailedOutboundAdmission s failed closeAllSessions
      answers).mono fun s' hs => h.retained hs rfl rfl
  | runtimeCompletion failed drained controlDrained sweep retry =>
    exact (Retains.handleRuntimeCompletion s failed drained controlDrained sweep retry).mono
      fun s' hs => h.retained hs rfl rfl
  | controlDrained answers =>
    exact .ite
      (fun _ => (Retains.removeSessions _ _ _ _).mono fun s' hs => h.retained hs rfl rfl)
      fun _ => .ok (h.retained (.refl s) rfl rfl)
  | retry answers =>
    exact .ok (h.retained (.retryPendingConnectionCloses s answers) rfl rfl)
  | stop controlDrained sweep retry =>
    exact (Retains.beginShutdown s controlDrained sweep retry).mono fun s' hs =>
      h.retained hs rfl rfl
  | deadlineExpired answers =>
    have hcancelled : Retains s s.cancelQueues := .of_sessions rfl rfl rfl
    exact .ite
      (fun _ => (hcancelled.follow (Retains.removeSessions _ _ _ _)).mono fun s' hs =>
        h.retained hs rfl rfl)
      fun _ => .ok (h.retained (.refl s) rfl rfl)

end TcpServer

/-! ## Runs -/

open TcpServer

/-- The events that epoll is asked for: `EPOLLIN` and `EPOLLOUT`, besides `EPOLLRDHUP`. -/
structure ClientEvents where
  readable : Bool
  writable : Bool
deriving DecidableEq, Repr

/-- The server with the registrations of epoll, and the logs of its connections. -/
structure Reactor where
  server : TcpServer
  events : Nat → Option ClientEvents := fun _ => none
  accepted : Net.ConnectionId → List Frame := fun _ => []
  sent : Net.ConnectionId → List UInt8 := fun _ => []

namespace Reactor

/-- `updateClientEvents`. -/
def updateClientEvents (s : TcpServer) (session : Session) : ClientEvents where
  readable := !s.isStopping
  writable := session.hasPendingSend

/-- The registration of a descriptor after a call that leaves the server as `server`. -/
def eventsAfter (r : Reactor) (server : TcpServer) (action : TcpAction) (descriptor : Nat) :
    Option ClientEvents :=
  match server.sessions.lookup descriptor with
  -- `EPOLL_CTL_DEL` in `removeSession`
  | none => none
  | some session =>
    -- `EPOLL_CTL_ADD` in `acceptPendingClients`
    if (r.server.sessions.lookup descriptor).isNone then
      some { readable := true, writable := false }
    else if r.server.updatesClientEvents descriptor session action then
      some (updateClientEvents server session)
    else r.events descriptor

def transition (r : Reactor) (action : TcpAction) : Except String Reactor :=
  match r.server.transition action with
  | .error e => .error e
  | .ok server =>
    .ok
      { server
        events := r.eventsAfter server action
        accepted := r.server.acceptedAfter r.accepted action
        sent := r.server.sentAfter r.sent action }

/-- The logs fit the sessions, and so do the registrations. -/
structure Outgoing (r : Reactor) : Prop where
  streaming : Streaming r.server r.accepted r.sent
  registered : ∀ {d session}, r.server.sessions.lookup d = some session →
    ∃ readable, r.events d = some { readable, writable := session.hasPendingSend }

theorem Outgoing.transition {r r' : Reactor} {action : TcpAction} (h : r.Outgoing)
    (hstep : r.transition action = .ok r') :
    r'.Outgoing ∧ r'.server.config = r.server.config := by
  unfold Reactor.transition at hstep
  split at hstep
  · cases hstep
  next server hserver =>
  cases hstep
  obtain ⟨hstreaming, hupdates⟩ := h.streaming.transition action server hserver
  refine ⟨⟨hstreaming, ?_⟩, hupdates.config⟩
  intro d session' hsession'
  dsimp only at hsession' ⊢
  rw [eventsAfter, hsession']
  dsimp only
  rcases hupdates.session hsession' with hnew | hold
  · rw [hnew.1]
    refine ⟨true, ?_⟩
    rw [Session.hasPendingSend, hnew.2]
    rfl
  obtain ⟨session, hsession, hevents⟩ := hold
  rw [hsession]
  dsimp only [Option.isNone_some]
  rw [if_neg Bool.false_ne_true]
  split
  · exact ⟨_, rfl⟩
  next hkept =>
  have hqueue := hevents.resolve_left hkept
  rw [Session.hasPendingSend, hqueue]
  exact h.registered hsession

end Reactor

/-- The runs of the server with its registrations. A call that throws ends the run. -/
def reactorMachine (config : TcpServerConfig) : Machine Reactor TcpAction where
  init r := ∃ s, TcpServer.create config = .ok s ∧ r = { server := s }
  step r action := (r.transition action).toOption

theorem outgoing_of_reach {config : TcpServerConfig} {guard : Reactor → TcpAction → Prop}
    {r : Reactor} (hr : (reactorMachine config).Reach guard r) :
    r.Outgoing ∧ r.server.config = config := by
  refine hr.invariant (P := fun r => r.Outgoing ∧ r.server.config = config) ?_ ?_
  · intro r hinit
    obtain ⟨s, hcreate, rfl⟩ := hinit
    unfold TcpServer.create at hcreate
    split at hcreate
    · cases hcreate
    cases hcreate
    refine ⟨⟨⟨?_, ?_, ?_, ?_⟩, ?_⟩, rfl⟩
    · intro d session hsession
      cases hsession
    · intro d session hsession
      cases hsession
    · intro connection
      exact ⟨List.nil_prefix, List.forall_mem_nil _⟩
    · intro connection _
      exact ⟨rfl, rfl⟩
    · intro d session hsession
      cases hsession
  · intro r action r' _ h _ hstep
    unfold reactorMachine at hstep
    dsimp only at hstep
    cases hout : r.transition action with
    | error e =>
      rw [hout] at hstep
      cases hstep
    | ok out =>
      rw [hout] at hstep
      cases hstep
      obtain ⟨houtgoing, hconfig⟩ := h.1.transition hout
      exact ⟨houtgoing, hconfig.trans h.2⟩

/-- **The bytes on their way out.** In every run in which `send` accepts at most what it is given:
what it has accepted of a connection is a prefix of the frames that the connection has taken in,
encoded in their order. The pending bytes of an open session are the ones still to be sent and
stay within the limit, and `EPOLLOUT` is registered for it exactly if there are any. Taking note
of what was sent never throws. -/
theorem outgoing_bytes {config : TcpServerConfig} {r : Reactor}
    (hr : (reactorMachine config).Reach (fun r action => r.server.obeyed action = true) r) :
    (∀ connection, r.sent connection <+: encodedFrames (r.accepted connection) ∧
      ∀ frame ∈ r.accepted connection, ∃ bytes, encodeFrame frame = .ok bytes) ∧
    (∀ d session, r.server.sessions.lookup d = some session →
      session.pendingSendByteCount =
        (encodedFrames (r.accepted session.connectionId)).length -
          (r.sent session.connectionId).length ∧
      session.pendingSendByteCount ≤ config.maxPendingSendBytes ∧
      ∃ readable, r.events d =
        some { readable, writable := decide (0 < session.pendingSendByteCount) }) ∧
    ∀ action session results, r.server.flushed action = some (session, results) →
      r.server.obeyed action = true → ∃ out, flushPendingSend session results = .ok out := by
  obtain ⟨h, hconfig⟩ := outgoing_of_reach hr
  refine ⟨h.streaming.log, ?_, ?_⟩
  · intro d session hsession
    have hstreams := h.streaming.session hsession
    obtain ⟨-, -, hmax⟩ := h.streaming.owned hsession
    refine ⟨?_, ?_, ?_⟩
    · rw [hstreams.bytes, hstreams.count, List.length_append]
      omega
    · rw [← hconfig, ← hmax]
      exact hstreams.limit
    · obtain ⟨readable, hevents⟩ := h.registered hsession
      have hwritable : session.hasPendingSend = decide (0 < session.pendingSendByteCount) :=
        Bool.eq_iff_iff.2 (hstreams.hasPendingSend_iff.trans decide_eq_true_iff.symm)
      exact ⟨readable, hwritable ▸ hevents⟩
  · intro action session results hflushed hobeyed
    rw [obeyed, hflushed] at hobeyed
    exact flushPendingSend_ok results session hobeyed

/-- Two frames are taken in, and the socket accepts the first and a part of the second. -/
def partialSend : List TcpAction :=
  [.accept [5],
    .outbound (.sendFrame ⟨5, 1⟩ { type := 2, requestId := 9, payload := [7] }) fun _ => .accepted,
    .outbound (.sendFrame ⟨5, 1⟩ { type := 2, requestId := 10, payload := [] }) fun _ => .accepted,
    .clientEvent 1 { writable := true } [] (fun _ => .accepted) [.bytes 3, .bytes 8, .bytes 4]
      fun _ => .accepted]

theorem outgoing_bytes_part :
    ∃ r, (reactorMachine {}).Reach (fun r action => r.server.obeyed action = true) r ∧
      r.sent ⟨5, 1⟩ = [0, 0, 0, 7, 0, 2, 0, 0, 0, 9, 7, 0, 0, 0, 6] ∧
      r.events 5 = some { readable := true, writable := true } ∧
      r.sent ⟨5, 1⟩ <+: encodedFrames (r.accepted ⟨5, 1⟩) := by
  obtain ⟨r, hr, htest⟩ := (reactorMachine {}).exists_reach_of_replay
    (fun r action => r.server.obeyed action = true) (s := { server := { config := {} } })
    ⟨_, rfl, rfl⟩ partialSend
    (fun r => r.sent ⟨5, 1⟩ = [0, 0, 0, 7, 0, 2, 0, 0, 0, 9, 7, 0, 0, 0, 6] ∧
      r.events 5 = some { readable := true, writable := true })
    (by decide +kernel)
  obtain ⟨hsent, hevents⟩ := of_decide_eq_true htest
  exact ⟨r, hr, hsent, hevents, ((outgoing_bytes hr).1 ⟨5, 1⟩).1⟩

end Snf.Server
