import Snf.Client.FrameAgreement
import Snf.Client.RequestWire
import Snf.Server.OutgoingBytes
import Snf.Worker.NetworkStreams

/-! # From one end of a connection to the other

The stream of a connection, from the frames that one side takes in to those that the other side
gets. In between the bytes are sent in parts and arrive in chunks, so that at any time the receiver
has a beginning of them. Sender and receiver meet at the parser of frames: what was sent begins a
stream that splits into the frames, and of such a stream every beginning is read without an error.
-/

namespace Snf.Client

open Snf.Lib
open Snf.Protocol (encodeFrame frameParser nextFrame_encodeFrame splits_of_encode)
open Snf.Server (Reactor TcpServerConfig encodedFrames outgoing_of_reach partialSend reactorMachine)
open Snf.Worker (WorkerNetwork networkRuns)
open Snf.Worker.WorkerNetwork (smallLimits)

/-! ## The client reads -/

/-- What the client has read after these chunks. -/
def readFrames (chunks : List (List UInt8)) : List (Int × Int × List UInt8) :=
  ((clientReplies {} chunks).flatMap (·.1)).map Frame.parts

theorem clientReplies_of_feed (chunks : List (List UInt8)) (s : Protocol.FrameDecoder)
    (d : FrameDecoder) (h : d.remaining = s.remaining) (hnone : (s.feed chunks).2.1 = none) :
    (∀ reply ∈ clientReplies d chunks, reply.2 = none) ∧
      ((clientReplies d chunks).flatMap (·.1)).map Frame.parts =
        (s.feed chunks).1.map serverParts := by
  induction chunks generalizing s d with
  | nil => exact ⟨List.forall_mem_nil _, rfl⟩
  | cons chunk chunks ih =>
    obtain ⟨hreply, hremaining⟩ := FrameDecoder.frames_inStep s d h chunk
    unfold Protocol.FrameDecoder.feed at hnone ⊢
    unfold clientReplies
    generalize s.append chunk = server at hreply hremaining hnone
    generalize (d.feed chunk).frames = client at hreply hremaining
    obtain ⟨frames, error, s'⟩ := server
    obtain ⟨frames', error', d'⟩ := client
    cases error with
    | some e => cases hnone
    | none =>
      cases error' with
      | some text => cases hreply.error
      | none =>
        obtain ⟨hall, hrest⟩ := ih s' d' (hremaining rfl) hnone
        refine ⟨List.forall_mem_cons.2 ⟨rfl, hall⟩, ?_⟩
        dsimp only
        rw [List.flatMap_cons, List.map_append, hrest, ← hreply.frames, ← List.map_append]

/-- **Every beginning of encoded frames is read** without an error, and whole frames of it. -/
theorem client_reads {frames : List Protocol.Frame} {bytes : List UInt8}
    (hall : Stops frameParser bytes frames none []) {chunks : List (List UInt8)}
    (harrived : chunks.flatten <+: bytes) :
    (∀ reply ∈ clientReplies {} chunks, reply.2 = none) ∧
      readFrames chunks <+: frames.map serverParts ∧
      (chunks.flatten = bytes → readFrames chunks = frames.map serverParts) := by
  obtain ⟨m, rfl⟩ := harrived
  obtain ⟨rest, hstops, -⟩ := Protocol.FrameDecoder.feed_spec {} chunks rfl
  obtain ⟨hnone, hbegins⟩ := hall.of_append hstops
  obtain ⟨hreplies, hread⟩ := clientReplies_of_feed chunks {} {} rfl hnone
  refine ⟨hreplies, ?_, ?_⟩
  · rw [readFrames, hread]
    exact hbegins.map _
  · intro hwhole
    rw [← hwhole] at hall
    rw [readFrames, hread, (hstops.unique hall).1]

theorem stops_of_encode {frames : List Protocol.Frame} {encoded : List (List UInt8)}
    (h : frames.mapM encodeFrame = .ok encoded) :
    Stops frameParser encoded.flatten frames none [] := by
  have hsplits := splits_of_encode h []
  rw [List.append_nil] at hsplits
  exact ⟨hsplits, rfl⟩

theorem stops_encodedFrames {frames : List Protocol.Frame}
    (h : ∀ frame ∈ frames, ∃ bytes, encodeFrame frame = .ok bytes) :
    Stops frameParser (encodedFrames frames) frames none [] := by
  induction frames with
  | nil => exact ⟨.nil, rfl⟩
  | cons frame frames ih =>
    obtain ⟨bytes, hbytes⟩ := h frame List.mem_cons_self
    have hrest := ih fun f hf => h f (List.mem_cons_of_mem _ hf)
    have hcons : encodedFrames (frame :: frames) = bytes ++ encodedFrames frames := by
      simp [encodedFrames, hbytes, Except.toOption]
    rw [hcons]
    refine ⟨.cons (nextFrame_encodeFrame hbytes _) ?_, rfl⟩
    rw [List.drop_left]
    exact hrest.splits

/-! ## From a server to the client -/

/-- **The client of a Worker gets the frames that were accepted for it**: of whatever has arrived
of the bytes sent on its connection it reads a beginning of them in their order, without an error,
and all of them when everything has arrived and nothing is left to write. -/
theorem worker_delivers {s : WorkerNetwork} (h : networkRuns.Reach (fun _ _ => True) s)
    (generation : Nat) (chunks : List (List UInt8))
    (harrived : chunks.flatten <+: (filed generation s.sent).flatten) :
    (∀ reply ∈ clientReplies {} chunks, reply.2 = none) ∧
      readFrames chunks <+: (filed generation s.accepted).map serverParts ∧
      ∀ handle slot, s.find handle = some slot → handle.generation = generation →
        slot.writeBuffer.pending = [] → chunks.flatten = (filed generation s.sent).flatten →
        readFrames chunks = (filed generation s.accepted).map serverParts := by
  have hs := WorkerNetwork.inOrder_of_reach h
  obtain ⟨encoded, hencoded, hsent⟩ := (hs.told generation).written
  obtain ⟨hreplies, hread, hwhole⟩ :=
    client_reads (stops_of_encode hencoded) (harrived.trans hsent)
  refine ⟨hreplies, hread, ?_⟩
  intro handle slot hslot hgeneration hempty hall
  obtain rfl := WorkerNetwork.handle_of_find hslot
  obtain ⟨encoded', hencoded', hflat⟩ := (hs.flows slot hslot).written
  rw [hgeneration, hencoded] at hencoded'
  cases hencoded'
  rw [hgeneration, hempty, List.append_nil] at hflat
  exact hwhole (hall.trans hflat.symm)

/-- The socket takes the first frame and a part of the second. -/
theorem worker_delivers_part :
    ∃ s, networkRuns.Reach (fun _ _ => True) s ∧
      readFrames [[0, 0, 0, 6, 0], [2, 0, 0, 0, 1, 0]] <+:
        (filed 1 s.accepted).map serverParts := by
  obtain ⟨s, hs, htest⟩ := networkRuns.exists_reach_of_replay (fun _ _ => True)
    (s := .initial 0 1 smallLimits) ⟨0, 1, smallLimits, by decide, rfl⟩
    [.accept, .sendLocal ⟨0, 1, 0⟩ { type := 2, requestId := 1, payload := [] } true,
      .sendLocal ⟨0, 1, 0⟩ { type := 2, requestId := 2, payload := [] } true,
      .beginFlush, .flushRound false (.bytes 10), .flushRound false (.bytes 2)]
    (fun s => [[0, 0, 0, 6, 0], [2, 0, 0, 0, 1, 0]].flatten <+: (filed 1 s.sent).flatten)
    (by decide +kernel)
  exact ⟨s, hs, (worker_delivers hs 1 _ (of_decide_eq_true htest)).2.1⟩

/-- **The client of the legacy server gets the frames of its connection** in the same way. -/
theorem tcpServer_delivers {config : TcpServerConfig} {r : Reactor}
    (hr : (reactorMachine config).Reach (fun r action => r.server.obeyed action = true) r)
    (connection : Net.ConnectionId) (chunks : List (List UInt8))
    (harrived : chunks.flatten <+: r.sent connection) :
    (∀ reply ∈ clientReplies {} chunks, reply.2 = none) ∧
      readFrames chunks <+: (r.accepted connection).map serverParts ∧
      ∀ d session, r.server.sessions.lookup d = some session →
        session.connectionId = connection → session.hasPendingSend = false →
        chunks.flatten = r.sent connection →
        readFrames chunks = (r.accepted connection).map serverParts := by
  have hstreaming := (outgoing_of_reach hr).1.streaming
  obtain ⟨hsent, hframes⟩ := hstreaming.log connection
  obtain ⟨hreplies, hread, hwhole⟩ :=
    client_reads (stops_encodedFrames hframes) (harrived.trans hsent)
  refine ⟨hreplies, hread, ?_⟩
  intro d session hsession hconnection hempty hall
  subst hconnection
  have hqueue : session.sendQueue = [] := by
    simpa [Net.Session.hasPendingSend] using hempty
  have hbytes := (hstreaming.session hsession).bytes
  rw [hqueue] at hbytes
  exact hwhole (hall.trans (hbytes.trans (List.append_nil _)).symm)

theorem tcpServer_delivers_part :
    ∃ r, (reactorMachine {}).Reach (fun r action => r.server.obeyed action = true) r ∧
      readFrames [[0, 0, 0, 7, 0, 2], [0, 0, 0, 9, 7, 0]] <+:
        (r.accepted ⟨5, 1⟩).map serverParts := by
  obtain ⟨r, hr, htest⟩ := (reactorMachine {}).exists_reach_of_replay
    (fun r action => r.server.obeyed action = true) (s := { server := { config := {} } })
    ⟨_, rfl, rfl⟩ partialSend
    (fun r => [[0, 0, 0, 7, 0, 2], [0, 0, 0, 9, 7, 0]].flatten <+: r.sent ⟨5, 1⟩)
    (by decide +kernel)
  exact ⟨r, hr, (tcpServer_delivers hr ⟨5, 1⟩ _ (of_decide_eq_true htest)).2.1⟩

/-! ## From the client to a Worker -/

/-- The bytes that the client sends for a request and its number. -/
def sendRequest (request : ClientRequest × UInt32) : Except String (List UInt8) := do
  let payload ← request.1.build
  encode (messageValue request.1.type) request.2.toNat payload

/-- The frame carries the request. -/
structure Carries (frame : Protocol.Frame) (request : ClientRequest × UInt32) : Prop where
  type : frame.type = Protocol.messageCode request.1.type
  requestId : frame.requestId = request.2
  decodes : ∃ q, sinkDecode request.1.type frame.payload = some q ∧
    q.type = some request.1.type ∧ q.values = request.1.values

theorem sendRequest_carries {request : ClientRequest × UInt32} {bytes : List UInt8}
    (h : sendRequest request = .ok bytes) :
    ∃ frame, Carries frame request ∧ encodeFrame frame = .ok bytes := by
  obtain ⟨payload, hbuild, hencode⟩ := bind_eq_ok h
  obtain ⟨q, hdecode, -⟩ := ClientRequest.sinkDecode_build hbuild
  obtain ⟨-, htype, hvalues⟩ := sinkDecode_decoded hdecode
  have hsize : payload.length ≤ Protocol.maxPayloadSize := by
    have hlimit : Protocol.maxPayloadSize + minBodySize = maxBodySize := rfl
    unfold encode at hencode
    dsimp only at hencode
    split at hencode
    · cases hencode
    · omega
  have hknown : Protocol.isKnownMessageType (Protocol.messageCode request.1.type) = true := by
    cases request.1.type <;> rfl
  obtain ⟨sent, hsent⟩ : ∃ sent,
      encodeFrame ⟨Protocol.messageCode request.1.type, request.2, payload⟩ = .ok sent :=
    Protocol.encodeFrame_ok hknown hsize
  have hsame := encode_eq hsent
  rw [← messageValue_eq, hencode] at hsame
  cases hsame
  exact ⟨_, ⟨rfl, rfl, q, hdecode, htype, hvalues.trans (ClientRequest.build_unpack hbuild).2⟩,
    hsent⟩

theorem sendRequests_carry {requests : List (ClientRequest × UInt32)} {stream : List (List UInt8)}
    (h : requests.mapM sendRequest = .ok stream) :
    ∃ frames, List.Forall₂ Carries frames requests ∧ frames.mapM encodeFrame = .ok stream := by
  induction requests generalizing stream with
  | nil => exact ⟨[], .nil, h⟩
  | cons request requests ih =>
    rw [List.mapM_cons] at h
    obtain ⟨bytes, hbytes, h⟩ := bind_eq_ok h
    obtain ⟨rest, hrest, h⟩ := bind_eq_ok h
    obtain ⟨frame, hcarries, hframe⟩ := sendRequest_carries hbytes
    obtain ⟨frames, hall, hframes⟩ := ih hrest
    refine ⟨frame :: frames, .cons hcarries hall, ?_⟩
    rw [List.mapM_cons, hframe, hframes]
    exact h

/-- **A Worker hears the requests of its client**: of whatever has arrived of them, the posted
frames carry the first ones in their order, each once and as it was built, and the connection is
never closed for a decode error. -/
theorem worker_hears {s : WorkerNetwork} (h : networkRuns.Reach (fun _ _ => True) s)
    (generation : Nat) {requests : List (ClientRequest × UInt32)} {stream : List (List UInt8)}
    (hstream : requests.mapM sendRequest = .ok stream)
    (harrived : (filed generation s.received).flatten <+: stream.flatten) :
    (∃ heard, heard <+: requests ∧ List.Forall₂ Carries (filed generation s.posted) heard) ∧
      ∀ closed ∈ s.closed, closed.handle.generation = generation →
        closed.cause ≠ .decodeError := by
  have hs := WorkerNetwork.inOrder_of_reach h
  obtain ⟨frames, hcarries, hencoded⟩ := sendRequests_carry hstream
  obtain ⟨m, hm⟩ := harrived
  have hall := stops_of_encode hencoded
  rw [← hm] at hall
  refine ⟨?_, ?_⟩
  · obtain ⟨rest, hsplits⟩ := (hs.told generation).split
    obtain ⟨others, rfl⟩ := hall.begins (hsplits.append m)
    exact ⟨_, List.take_prefix _ _, (List.forall₂_take_append _ _ _ hcarries.flip).flip⟩
  · intro closed hclosed hgeneration hcause
    obtain ⟨rest, error, hsplits, hfail⟩ := (hs.ended closed hclosed).decodeError hcause
    rw [hgeneration] at hsplits
    obtain ⟨hnone, -⟩ := hall.of_append (e := some error) ⟨hsplits, hfail⟩
    cases hnone

/-- A request that arrives in two chunks, and a part of the next. -/
theorem worker_hears_part :
    ∃ s, networkRuns.Reach (fun _ _ => True) s ∧ filed 1 s.posted ≠ [] ∧
      ∃ heard, heard <+: [(.leaveZone, 1), (.roomLeave, 2)] ∧
        List.Forall₂ Carries (filed 1 s.posted) heard := by
  have hstream : [(.leaveZone, 1), (.roomLeave, 2)].mapM sendRequest = .ok
      [[0, 0, 0, 6, 0, 9, 0, 0, 0, 1], [0, 0, 0, 6, 0, 22, 0, 0, 0, 2]] := rfl
  obtain ⟨s, hs, htest⟩ := networkRuns.exists_reach_of_replay (fun _ _ => True)
    (s := .initial 0 1 smallLimits) ⟨0, 1, smallLimits, by decide, rfl⟩
    [.accept, .poll ⟨0, 1⟩ { readable := true }, .beginRead,
      .readRound { receiveSize := 8, receive := .bytes [0, 0, 0, 6, 0, 9, 0, 0] },
      .readRound { receiveSize := 8, receive := .bytes [0, 1, 0, 0] }, .readRound {},
      .postReturns .accepted]
    (fun s => filed 1 s.posted ≠ [] ∧ (filed 1 s.received).flatten <+:
      [[0, 0, 0, 6, 0, 9, 0, 0, 0, 1], [0, 0, 0, 6, 0, 22, 0, 0, 0, 2]].flatten)
    (by decide +kernel)
  obtain ⟨hposted, harrived⟩ := of_decide_eq_true htest
  exact ⟨s, hs, hposted, (worker_hears hs 1 hstream harrived).1⟩

end Snf.Client
