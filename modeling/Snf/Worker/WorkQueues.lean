import Snf.Worker.NetworkStreams

/-! # Room in the work queues

A work queue has as many places as the table has slots, but a closed connection leaves its
handle in the queue while its slot is given to the next client. There is room for every live
connection as long as a client is accepted only when the handles left behind leave it room;
without that condition a connection is closed for the work of one that is gone.
-/

namespace Snf.Worker.WorkerNetwork

open Snf.Protocol Snf.Lib

variable {s s' t : WorkerNetwork} {slot slot' : ConnectionSlot} {handle other : ConnectionHandle}

/-- The handles in a queue whose connection is gone. -/
def stale (s : WorkerNetwork) (queue : ConnectionWorkQueue) : Nat :=
  queue.items.countP fun handle => (s.find handle).isNone

/-- A client is accepted only if it fits beside the live connections and the handles left
behind in each queue. -/
def acceptsWithRoom (s : WorkerNetwork) : NetworkAction → Prop
  | .accept =>
    s.connections.activeCount + s.stale s.readQueue < s.connections.capacity ∧
      s.connections.activeCount + s.stale s.writeQueue < s.connections.capacity
  | _ => True

instance (s : WorkerNetwork) (action : NetworkAction) : Decidable (acceptsWithRoom s action) :=
  match action with
  | .accept => inferInstanceAs (Decidable (_ ∧ _))
  | .poll _ _ | .beginRead | .readRound _ | .postReturns _ | .beginFlush | .flushRound _ _
  | .sendLocal _ _ _ | .closeConnection _ _ _ _ | .closeDeadline _ | .beginShutdown =>
    inferInstanceAs (Decidable True)

/-! ## Counting -/

/-- Different live connections are in different slots. -/
theorem length_le_activeCount {handles : List ConnectionHandle} (hnodup : handles.Nodup)
    (hlive : ∀ handle ∈ handles, (s.find handle).isSome = true) :
    handles.length ≤ s.connections.activeCount := by
  have hinjective : ∀ a ∈ handles, ∀ b ∈ handles, a.id = b.id → a = b := by
    intro a ha b hb hid
    obtain ⟨slot, hslot⟩ := Option.isSome_iff_exists.1 (hlive a ha)
    by_contra hne
    have hnone := ConnectionTable.find_eq_none_of_ne hslot hid.symm (Ne.symm hne)
    have hsome := hlive b hb
    rw [show s.find b = none from hnone] at hsome
    cases hsome
  have hids : (handles.map ConnectionHandle.id).Nodup :=
    hnodup.map_on fun a ha b hb hid => hinjective a ha b hb hid
  have hkeys : handles.map ConnectionHandle.id ⊆ s.connections.slots.keys := by
    intro index hindex
    obtain ⟨handle, hmem, rfl⟩ := List.mem_map.1 hindex
    obtain ⟨slot, hslot⟩ := Option.isSome_iff_exists.1 (hlive handle hmem)
    exact mem_keys_of_lookup (ConnectionTable.lookup_of_find hslot)
  have hle := (List.subperm_of_subset hids hkeys).length_le
  rw [List.length_map] at hle
  exact hle.trans (List.length_map _).le

/-- A queue that has room for the handles left behind has room for a live connection that is
not in it. -/
theorem length_lt_capacity {queue : ConnectionWorkQueue} (hnodup : queue.items.Nodup)
    (hroom : s.connections.activeCount + s.stale queue ≤ queue.capacity)
    (hlive : s.find slot.handle = some slot) (hnot : slot.handle ∉ queue.items) :
    queue.items.length < queue.capacity := by
  let waiting := queue.items.filter fun handle => (s.find handle).isSome
  have hwaiting : (slot.handle :: waiting).length ≤ s.connections.activeCount := by
    refine length_le_activeCount ?_ ?_
    · rw [List.nodup_cons]
      exact ⟨fun hmem => hnot (List.mem_of_mem_filter hmem), hnodup.filter _⟩
    · intro handle hmem
      rcases List.mem_cons.1 hmem with rfl | hmem
      · rw [hlive]
        rfl
      · exact (List.mem_filter.1 hmem).2
  have hsplit : queue.items.length = waiting.length + s.stale queue := by
    rw [List.length_eq_countP_add_countP fun handle => (s.find handle).isSome,
      List.countP_eq_length_filter]
    congr 1
    refine List.countP_congr ?_
    intro handle _
    cases s.find handle <;> simp
  rw [List.length_cons] at hwaiting
  omega

theorem stale_congr {queue : ConnectionWorkQueue}
    (h : ∀ handle, (s'.find handle).isNone = (s.find handle).isNone) :
    s'.stale queue = s.stale queue := by
  refine List.countP_congr ?_
  intro handle _
  rw [h handle]

/-- A queue move for a live connection leaves nothing behind. -/
theorem QueueMove.stale {queue queue' : ConnectionWorkQueue} {flag flag' : Bool}
    (h : QueueMove slot.handle queue queue' flag flag') (hlive : s.find slot.handle = some slot) :
    s.stale queue' = s.stale queue ∧ queue'.capacity = queue.capacity := by
  have hsome : (s.find slot.handle).isNone = false := by rw [hlive]; rfl
  cases h with
  | kept hqueue _ => exact ⟨by rw [hqueue], by rw [hqueue]⟩
  | pushed hitems hcapacity _ _ =>
    refine ⟨?_, hcapacity⟩
    unfold WorkerNetwork.stale
    rw [hitems, List.countP_append, List.countP_singleton, hsome]
    rfl
  | popped hitems hcapacity _ =>
    refine ⟨?_, hcapacity⟩
    unfold WorkerNetwork.stale
    rw [hitems, List.countP_cons, hsome]
    rfl

theorem countP_le_add {α : Type} {p q r : α → Bool}
    (h : ∀ a, p a = true → q a = true ∨ r a = true) (l : List α) :
    l.countP p ≤ l.countP q + l.countP r := by
  induction l with
  | nil => exact Nat.le_refl _
  | cons a l ih =>
    have ha := h a
    simp only [List.countP_cons]
    cases hp : p a with
    | false =>
      simp only [Bool.false_eq_true, if_false]
      omega
    | true =>
      rcases ha hp with hq | hr
      · simp only [hq, if_true]
        omega
      · simp only [hr, if_true]
        omega

/-- A closed connection leaves at most its own handle behind. -/
theorem Closed.stale_le {reason : CloseReason} {cause : CloseCause} {queue : ConnectionWorkQueue}
    (h : Closed s s' slot reason cause) (hnodup : queue.items.Nodup) :
    s'.stale queue ≤ s.stale queue + 1 := by
  have hcount : s'.stale queue ≤ s.stale queue + queue.items.count slot.handle := by
    refine countP_le_add ?_ _
    intro handle hnone
    rw [h.found] at hnone
    split at hnone
    · next heq => exact .inr (beq_iff_eq.2 heq)
    · exact .inl hnone
  have hone := List.nodup_iff_count_le_one.1 hnodup slot.handle
  omega

/-! ## Room along a run -/

/-- There is room for the live connections beside the handles left behind, and no connection
was closed for want of it. -/
structure Roomy (s : WorkerNetwork) : Prop where
  readCapacity : s.readQueue.capacity = s.connections.capacity
  writeCapacity : s.writeQueue.capacity = s.connections.capacity
  read : s.connections.activeCount + s.stale s.readQueue ≤ s.connections.capacity
  write : s.connections.activeCount + s.stale s.writeQueue ≤ s.connections.capacity
  unrefused : ∀ closed ∈ s.closed, closed.cause ≠ .readQueueFull ∧ closed.cause ≠ .writeQueueFull
  own : ∀ closed ∈ s.closed, closed.reason = .slowConsumer →
    closed.cause = .requested ∨ closed.cause = .drained ∨
      ∃ queuedBytes frame encoded, closed.cause = .writeBufferFull queuedBytes frame ∧
        encodeFrame frame = .ok encoded ∧
        s.connections.limits.writeHardLimitBytes < queuedBytes + encoded.length

namespace Roomy

theorem read_room (h : Roomy s) (hq : Queues s) (hlive : s.find slot.handle = some slot)
    (hflag : slot.readQueued = false) : s.readQueue.items.length < s.readQueue.capacity := by
  refine length_lt_capacity hq.readNodup (h.readCapacity ▸ h.read) hlive ?_
  rw [← hq.readFlag slot hlive, hflag]
  nofun

theorem write_room (h : Roomy s) (hq : Queues s) (hlive : s.find slot.handle = some slot)
    (hflag : slot.writeQueued = false) : s.writeQueue.items.length < s.writeQueue.capacity := by
  refine length_lt_capacity hq.writeNodup (h.writeCapacity ▸ h.write) hlive ?_
  rw [← hq.writeFlag slot hlive, hflag]
  nofun

theorem changed (h : Roomy s) (hc : Changed s s' slot slot') : Roomy s' := by
  have hstale : ∀ queue, s'.stale queue = s.stale queue := by
    intro queue
    refine stale_congr ?_
    intro handle
    rw [hc.found]
    split
    · next heq =>
      rw [heq, hc.live]
      rfl
    · rfl
  obtain ⟨hread, hreadCapacity⟩ := hc.readQueue.stale hc.live
  obtain ⟨hwrite, hwriteCapacity⟩ := hc.writeQueue.stale hc.live
  refine ⟨?_, ?_, ?_, ?_, ?_, ?_⟩
  · rw [hreadCapacity, hc.beside.capacity, h.readCapacity]
  · rw [hwriteCapacity, hc.beside.capacity, h.writeCapacity]
  · rw [hc.count, hstale, hread, hc.beside.capacity]
    exact h.read
  · rw [hc.count, hstale, hwrite, hc.beside.capacity]
    exact h.write
  · rw [hc.closed]
    exact h.unrefused
  · rw [hc.closed, hc.beside.limits]
    exact h.own

/-- **No live connection is closed for want of room.** -/
theorem closed {reason : CloseReason} {cause : CloseCause} (h : Roomy s) (hs : InOrder s)
    (hc : Closed s s' slot reason cause) : Roomy s' := by
  have hread := hc.stale_le hs.queues.readNodup
  have hwrite := hc.stale_le hs.queues.writeNodup
  have hcount := hc.count
  have hroom := h.read
  have hroom' := h.write
  have hjustified := hc.justified
  refine ⟨?_, ?_, ?_, ?_, ?_, ?_⟩
  · rw [hc.readQueue, hc.beside.capacity, h.readCapacity]
  · rw [hc.writeQueue, hc.beside.capacity, h.writeCapacity]
  · rw [hc.readQueue, hc.beside.capacity]
    omega
  · rw [hc.writeQueue, hc.beside.capacity]
    omega
  · intro closed hmem
    rw [hc.closed, List.mem_append, List.mem_singleton] at hmem
    rcases hmem with hmem | rfl
    · exact h.unrefused closed hmem
    · constructor
      · intro hcause
        have hcause : cause = .readQueueFull := hcause
        rw [hcause] at hjustified
        have := h.read_room hs.queues hc.live hjustified.1
        exact absurd hjustified.2 this.ne
      · intro hcause
        have hcause : cause = .writeQueueFull := hcause
        rw [hcause] at hjustified
        have := h.write_room hs.queues hc.live hjustified.1
        exact absurd hjustified.2 this.ne
  · intro closed hmem hreason
    rw [hc.closed, List.mem_append, List.mem_singleton] at hmem
    rw [hc.beside.limits]
    rcases hmem with hmem | rfl
    · exact h.own closed hmem hreason
    · have hreason : reason = .slowConsumer := hreason
      cases cause with
      | requested => exact .inl rfl
      | drained => exact .inr (.inl rfl)
      | writeBufferFull queuedBytes frame =>
        obtain ⟨-, encoded, hencoded, hfull⟩ := hjustified
        rw [(hs.flows slot hc.live).limit] at hfull
        exact .inr (.inr ⟨queuedBytes, frame, encoded, rfl, hencoded, hfull⟩)
      | readQueueFull =>
        exact absurd hjustified.2 (h.read_room hs.queues hc.live hjustified.1).ne
      | writeQueueFull =>
        exact absurd hjustified.2 (h.write_room hs.queues hc.live hjustified.1).ne
      | decodeError => exact absurd hreason hjustified.1
      | readBufferFull => exact absurd hreason hjustified.1
      | pollEvent => exact absurd hreason hjustified
      | postRefused => exact absurd hreason hjustified
      | endOfStream => exact absurd hreason hjustified
      | receiveFailed => exact absurd hreason hjustified
      | sendFailed => exact absurd hreason hjustified
      | deadline => exact absurd hreason hjustified
      | timersFull => exact absurd hreason hjustified

theorem move (h : Roomy s) (hs : InOrder s) (hm : Move s s') : Roomy s' := by
  cases hm with
  | changed hc => exact h.changed hc
  | closed hc => exact h.closed hs hc
  | turned _ _ =>
    exact ⟨h.readCapacity, h.writeCapacity, h.read, h.write, h.unrefused, h.own⟩
  | @skippedRead handle queue hnone hitems hcapacity =>
    refine ⟨hcapacity.trans h.readCapacity, h.writeCapacity, ?_, h.write, h.unrefused, h.own⟩
    have hroom := h.read
    unfold stale at hroom
    rw [hitems, List.countP_cons] at hroom
    exact (Nat.add_le_add_left (Nat.le_add_right _ _) _).trans hroom
  | @skippedWrite handle queue hnone hitems hcapacity =>
    refine ⟨h.readCapacity, hcapacity.trans h.writeCapacity, h.read, ?_, h.unrefused, h.own⟩
    have hroom := h.write
    unfold stale at hroom
    rw [hitems, List.countP_cons] at hroom
    exact (Nat.add_le_add_left (Nat.le_add_right _ _) _).trans hroom
  | stopped hs' =>
    obtain ⟨table, hsame⟩ := hs'.same
    have hwriteQueue : s'.writeQueue = s.writeQueue := by rw [hsame]
    have hclosed : s'.closed = s.closed := by rw [hsame]
    have hstale : s'.stale s.writeQueue = s.stale s.writeQueue := by
      refine stale_congr ?_
      intro handle
      cases hfound : s'.find handle with
      | none => rw [hs'.lost handle hfound]
      | some found =>
        obtain ⟨old, hold, -⟩ := hs'.found handle found hfound
        rw [hold]
        rfl
    refine ⟨?_, ?_, ?_, ?_, hclosed ▸ h.unrefused, ?_⟩
    · rw [hs'.readQueue, hs'.capacity]
      exact h.readCapacity
    · rw [hwriteQueue, hs'.capacity]
      exact h.writeCapacity
    · rw [hs'.readQueue, hs'.count, hs'.capacity]
      exact (Nat.add_le_add_left (Nat.zero_le _) _).trans h.read
    · rw [hwriteQueue, hstale, hs'.count, hs'.capacity]
      exact h.write
    · rw [hclosed, hs'.limits]
      exact h.own

theorem moves (h : Roomy s) (hs : InOrder s) (hm : Moves s s') : Roomy s' := by
  induction hm with
  | refl => exact h
  | tail hmoves hmove ih => exact ih.move (hs.moves hmoves) hmove

theorem accepted {table : ConnectionTable} (h : Roomy s)
    (hroom : acceptsWithRoom s .accept)
    (hr : ConnectionTable.Reserved s.connections table slot) :
    Roomy { s with connections := table } := by
  have hstale : ∀ queue, stale { s with connections := table } queue ≤ s.stale queue := by
    intro queue
    refine List.countP_mono_left ?_
    intro handle _ hnone
    have hnone : (table.find handle).isNone = true := hnone
    rw [hr.found] at hnone
    split at hnone
    · cases hnone
    · exact hnone
  obtain ⟨hread, hwrite⟩ := hroom
  refine ⟨h.readCapacity.trans hr.capacity.symm, h.writeCapacity.trans hr.capacity.symm, ?_, ?_,
    h.unrefused, ?_⟩
  · show table.activeCount + _ ≤ table.capacity
    have := hstale s.readQueue
    rw [hr.count, hr.capacity]
    show _ + stale { s with connections := table } s.readQueue ≤ _
    omega
  · show table.activeCount + _ ≤ table.capacity
    have := hstale s.writeQueue
    rw [hr.count, hr.capacity]
    show _ + stale { s with connections := table } s.writeQueue ≤ _
    omega
  · show ∀ closed ∈ s.closed, _ → _ ∨ _ ∨ ∃ queuedBytes frame encoded, _ ∧ _ ∧
      table.limits.writeHardLimitBytes < _
    rw [hr.limits]
    exact h.own

end Roomy

theorem roomy_of_reach (h : networkRuns.Reach acceptsWithRoom s) : Roomy s := by
  refine h.invariant ?_ ?_
  · rintro s ⟨id, capacity, limits, -, rfl⟩
    exact ⟨rfl, rfl, Nat.zero_le _, Nat.zero_le _, fun _ hmem => absurd hmem List.not_mem_nil,
      fun _ hmem => absurd hmem List.not_mem_nil⟩
  · intro s action s' hreach hs hguard hstep
    rcases step_moves hstep with ⟨rfl, table, slot, hreserved, rfl⟩ | hmoves
    · exact hs.accepted hguard hreserved
    · exact hs.moves (inOrder_of_reach hreach) hmoves

/-- With one slot: a client is queued for reading and hangs up before it is read, and the next
client is closed for overload at its first readable event; another is queued for writing and
hangs up before it is flushed, and the next is closed as a slow consumer at its first frame. -/
theorem closed_for_another :
    (∃ s, networkRuns.Reach (fun _ _ => True) s ∧
        s.closed = [{ handle := ⟨0, 1⟩, reason := .peerClosed, cause := .pollEvent },
          { handle := ⟨0, 2⟩, reason := .overload, cause := .readQueueFull }]) ∧
      ∃ s, networkRuns.Reach (fun _ _ => True) s ∧
        s.closed = [{ handle := ⟨0, 1⟩, reason := .peerClosed, cause := .pollEvent },
          { handle := ⟨0, 2⟩, reason := .slowConsumer, cause := .writeQueueFull }] := by
  constructor
  · obtain ⟨s, hs, ht⟩ := networkRuns.exists_reach_of_replay (fun _ _ => True)
      (s := .initial 0 1 smallLimits) ⟨0, 1, smallLimits, by decide, rfl⟩
      [.accept, .poll ⟨0, 1⟩ { readable := true }, .poll ⟨0, 1⟩ { hangup := true }, .accept,
        .poll ⟨0, 2⟩ { readable := true }]
      (fun s => s.closed = [{ handle := ⟨0, 1⟩, reason := .peerClosed, cause := .pollEvent },
        { handle := ⟨0, 2⟩, reason := .overload, cause := .readQueueFull }]) (by decide +kernel)
    exact ⟨s, hs, of_decide_eq_true ht⟩
  · obtain ⟨s, hs, ht⟩ := networkRuns.exists_reach_of_replay (fun _ _ => True)
      (s := .initial 0 1 smallLimits) ⟨0, 1, smallLimits, by decide, rfl⟩
      [.accept, .sendLocal ⟨0, 1, 0⟩ { type := 2, requestId := 1, payload := [] } true,
        .poll ⟨0, 1⟩ { hangup := true }, .accept,
        .sendLocal ⟨0, 2, 0⟩ { type := 2, requestId := 1, payload := [] } true]
      (fun s => s.closed = [{ handle := ⟨0, 1⟩, reason := .peerClosed, cause := .pollEvent },
        { handle := ⟨0, 2⟩, reason := .slowConsumer, cause := .writeQueueFull }])
      (by decide +kernel)
    exact ⟨s, hs, of_decide_eq_true ht⟩

/-- **A connection is closed for itself.** When clients are accepted only with room, the work
queues take every live connection that is not in them, no connection is closed because they
refused it, and one that the network closes as a slow consumer would have exceeded its own
hard limit. -/
theorem closed_for_itself (h : networkRuns.Reach acceptsWithRoom s) :
    (∀ handle slot, s.find handle = some slot →
        (slot.readQueued = false → (s.readQueue.tryPush handle).isSome = true) ∧
          (slot.writeQueued = false → (s.writeQueue.tryPush handle).isSome = true)) ∧
      (∀ closed ∈ s.closed,
        closed.cause ≠ .readQueueFull ∧ closed.cause ≠ .writeQueueFull) ∧
      ∀ closed ∈ s.closed, closed.reason = .slowConsumer →
        closed.cause = .requested ∨ closed.cause = .drained ∨
          ∃ queuedBytes frame encoded, closed.cause = .writeBufferFull queuedBytes frame ∧
            encodeFrame frame = .ok encoded ∧
            s.connections.limits.writeHardLimitBytes < queuedBytes + encoded.length := by
  have hs := roomy_of_reach h
  have hqueues := (inOrder_of_reach h).queues
  refine ⟨?_, hs.unrefused, hs.own⟩
  intro handle slot hslot
  have hlive := find_self hslot
  constructor
  · intro hflag
    unfold ConnectionWorkQueue.tryPush
    rw [dif_neg (hs.read_room hqueues hlive hflag).ne]
    rfl
  · intro hflag
    unfold ConnectionWorkQueue.tryPush
    rw [dif_neg (hs.write_room hqueues hlive hflag).ne]
    rfl

/-- The slot of a client that hung up is reused once its handle has left the queue. -/
theorem closed_for_itself_reused :
    ∃ s, networkRuns.Reach acceptsWithRoom s ∧
      s.closed = [{ handle := ⟨0, 1⟩, reason := .peerClosed, cause := .pollEvent }] ∧
      s.readQueue.items = [⟨0, 2⟩] ∧
      ∀ closed ∈ s.closed, closed.cause ≠ .readQueueFull ∧ closed.cause ≠ .writeQueueFull := by
  obtain ⟨s, hs, ht⟩ := networkRuns.exists_reach_of_replay acceptsWithRoom
    (s := .initial 0 1 smallLimits) ⟨0, 1, smallLimits, by decide, rfl⟩
    [.accept, .poll ⟨0, 1⟩ { readable := true }, .poll ⟨0, 1⟩ { hangup := true }, .beginRead,
      .accept, .poll ⟨0, 2⟩ { readable := true }]
    (fun s => s.closed = [{ handle := ⟨0, 1⟩, reason := .peerClosed, cause := .pollEvent }] ∧
      s.readQueue.items = [⟨0, 2⟩]) (by decide +kernel)
  simp only [Bool.decide_and, Bool.and_eq_true, decide_eq_true_eq] at ht
  exact ⟨s, hs, ht.1, ht.2, (closed_for_itself hs).2.1⟩

end Snf.Worker.WorkerNetwork
