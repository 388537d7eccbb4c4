import Snf.Worker.Network

/-! # What a network step does

A step is a sequence of moves, and a move concerns one connection: it is changed in its slot,
or closed, or a loop passes over a handle without a connection. The facts about one connection
that a change keeps are part of what a change is.
-/

namespace Snf.Worker.WorkerNetwork

open Snf.Protocol Snf.Lib

variable {s s' t : WorkerNetwork} {slot slot' : ConnectionSlot} {handle other : ConnectionHandle}

/-- The read loop is at the connection. -/
def Reads (s : WorkerNetwork) (handle : ConnectionHandle) : Prop :=
  s.reading = .looping handle ∨ s.reading = .posting handle

/-! ## Facts about one connection -/

/-- The posted frames are those decoded from the received bytes, and a connection that is left
alone has none to decode. -/
structure Fed (s : WorkerNetwork) (slot : ConnectionSlot) : Prop where
  split : slot.isOpen = true →
    Splits frameParser (filed slot.handle.generation s.received).flatten
      (filed slot.handle.generation s.posted) slot.decoder.remaining
  awake : slot.isOpen = true → slot.readQueued = false → ¬ s.Reads slot.handle →
    s.networkStopping = false → nextFrame slot.decoder.remaining = .more

/-- The accepted frames are the bytes that were sent and those that are pending. -/
structure Flows (s : WorkerNetwork) (slot : ConnectionSlot) : Prop where
  written : ∃ encoded, (filed slot.handle.generation s.accepted).mapM encodeFrame = .ok encoded ∧
    encoded.flatten = (filed slot.handle.generation s.sent).flatten ++ slot.writeBuffer.pending
  exact : slot.writeBuffer.Exact
  limit : slot.writeBuffer.hardLimit = s.connections.limits.writeHardLimitBytes
  watched : slot.waitingEpollout = true → slot.interest.write = true

/-- Pending bytes are being written, queued, or waited for. -/
def Awake (s : WorkerNetwork) (slot : ConnectionSlot) : Prop :=
  slot.hasPendingWrite = true →
    s.writing = some slot.handle ∨ slot.writeQueued = true ∨ slot.waitingEpollout = true

/-- The input side of a connection and the loop are as before. -/
theorem Fed.congr (h : Fed s slot) (hhandle : slot'.handle = slot.handle)
    (hopen : slot'.isOpen = true → slot.isOpen = true) (hqueued : slot'.readQueued = slot.readQueued)
    (hdecoder : slot'.isOpen = true → slot'.decoder.remaining = slot.decoder.remaining)
    (hreads : s'.Reads slot.handle ↔ s.Reads slot.handle)
    (hstopping : s'.networkStopping = s.networkStopping)
    (hreceived : filed slot.handle.generation s'.received = filed slot.handle.generation s.received)
    (hposted : filed slot.handle.generation s'.posted = filed slot.handle.generation s.posted) :
    Fed s' slot' := by
  constructor
  · intro hopen'
    rw [hhandle, hreceived, hposted, hdecoder hopen']
    exact h.split (hopen hopen')
  · intro hopen' hqueued' hreads' hstopping'
    rw [hdecoder hopen']
    refine h.awake (hopen hopen') (hqueued ▸ hqueued') ?_ (hstopping ▸ hstopping')
    rw [hhandle, hreads] at hreads'
    exact hreads'

theorem Flows.congr (h : Flows s slot) (hhandle : slot'.handle = slot.handle)
    (hbuffer : slot'.writeBuffer = slot.writeBuffer)
    (hwatched : slot'.waitingEpollout = true → slot'.interest.write = true)
    (hlimits : s'.connections.limits = s.connections.limits)
    (haccepted : filed slot.handle.generation s'.accepted = filed slot.handle.generation s.accepted)
    (hsent : filed slot.handle.generation s'.sent = filed slot.handle.generation s.sent) :
    Flows s' slot' := by
  refine ⟨?_, hbuffer ▸ h.exact, ?_, hwatched⟩
  · rw [hhandle, haccepted, hsent, hbuffer]
    exact h.written
  · rw [hbuffer, hlimits]
    exact h.limit

/-! ## Moves -/

/-- What may happen to a work queue, and to the flag of the connection it happens for. -/
inductive QueueMove (handle : ConnectionHandle) (queue queue' : ConnectionWorkQueue)
    (flag flag' : Bool) : Prop where
  | kept (hqueue : queue' = queue) (hflag : flag' = flag)
  | pushed (hitems : queue'.items = queue.items ++ [handle])
      (hcapacity : queue'.capacity = queue.capacity) (hflag : flag = false) (hflag' : flag' = true)
  | popped (hitems : queue.items = handle :: queue'.items)
      (hcapacity : queue'.capacity = queue.capacity) (hflag' : flag' = false)

/-- What belongs to other connections is as it was. -/
structure Beside (s s' : WorkerNetwork) (handle : ConnectionHandle) : Prop where
  stopping : s'.networkStopping = s.networkStopping
  capacity : s'.connections.capacity = s.connections.capacity
  limits : s'.connections.limits = s.connections.limits
  last : s'.connections.lastGeneration = s.connections.lastGeneration
  reads : ∀ other, other ≠ handle → (s'.Reads other ↔ s.Reads other)
  writing : ∀ other, other ≠ handle → (s'.writing = some other ↔ s.writing = some other)
  received : ∀ g, g ≠ handle.generation → filed g s'.received = filed g s.received
  posted : ∀ g, g ≠ handle.generation → filed g s'.posted = filed g s.posted
  accepted : ∀ g, g ≠ handle.generation → filed g s'.accepted = filed g s.accepted
  sent : ∀ g, g ≠ handle.generation → filed g s'.sent = filed g s.sent

/-- A connection is changed in its slot, and its input and output sides stay in order; the
work queues are left out. -/
structure Prepared (s s' : WorkerNetwork) (slot slot' : ConnectionSlot) : Prop where
  live : s.find slot.handle = some slot
  handle : slot'.handle = slot.handle
  beside : Beside s s' slot.handle
  found : ∀ other, s'.find other = if other = slot.handle then some slot' else s.find other
  count : s'.connections.activeCount = s.connections.activeCount
  closed : s'.closed = s.closed
  opened : slot'.isOpen = true → slot.isOpen = true
  quiet : slot'.isOpen = false →
    filed slot.handle.generation s'.received = filed slot.handle.generation s.received ∧
      filed slot.handle.generation s'.posted = filed slot.handle.generation s.posted
  fed : Fed s slot → Fed s' slot'
  flows : Flows s slot → Flows s' slot'

/-- A connection is changed in its slot and stays in order. -/
structure Changed (s s' : WorkerNetwork) (slot slot' : ConnectionSlot) : Prop extends
    Prepared s s' slot slot' where
  readQueue : QueueMove slot.handle s.readQueue s'.readQueue slot.readQueued slot'.readQueued
  writeQueue : QueueMove slot.handle s.writeQueue s'.writeQueue slot.writeQueued slot'.writeQueued
  awake : Awake s slot → Awake s' slot'

/-- Why a connection is closed at a place of the code. -/
def Justified (s : WorkerNetwork) (slot : ConnectionSlot) (reason : CloseReason) :
    CloseCause → Prop
  | .decodeError => reason ≠ .slowConsumer ∧ slot.isOpen = true ∧
      ∃ e, nextFrame slot.decoder.remaining = .fail e
  | .readBufferFull => reason ≠ .slowConsumer ∧ slot.isOpen = true ∧
      nextFrame slot.decoder.remaining = .more ∧
      s.connections.limits.maxReadBufferBytes ≤ slot.decoder.remaining.length
  | .readQueueFull => slot.readQueued = false ∧ s.readQueue.items.length = s.readQueue.capacity
  | .writeQueueFull => slot.writeQueued = false ∧ s.writeQueue.items.length = s.writeQueue.capacity
  | .writeBufferFull queuedBytes frame => queuedBytes = slot.writeBuffer.queuedBytes ∧
      ∃ encoded, encodeFrame frame = .ok encoded ∧
        slot.writeBuffer.hardLimit < queuedBytes + encoded.length
  | .requested | .drained => True
  | _ => reason ≠ .slowConsumer

/-- A connection is closed. -/
structure Closed (s s' : WorkerNetwork) (slot : ConnectionSlot) (reason : CloseReason)
    (cause : CloseCause) : Prop where
  live : s.find slot.handle = some slot
  beside : Beside s s' slot.handle
  found : ∀ other, s'.find other = if other = slot.handle then none else s.find other
  count : s'.connections.activeCount + 1 = s.connections.activeCount
  received : s'.received = s.received
  posted : s'.posted = s.posted
  accepted : s'.accepted = s.accepted
  sent : s'.sent = s.sent
  closed : s'.closed = s.closed ++ [{ handle := slot.handle, reason := reason, cause := cause }]
  readQueue : s'.readQueue = s.readQueue
  writeQueue : s'.writeQueue = s.writeQueue
  justified : Justified s slot reason cause

/-- The shutdown takes every connection off the read queue. -/
structure Stopped (s s' : WorkerNetwork) : Prop where
  stopping : s'.networkStopping = true
  found : ∀ handle slot', s'.find handle = some slot' → ∃ slot, s.find handle = some slot ∧
    slot' = { slot with
      interest := { read := false, write := slot.waitingEpollout }
      readQueued := if handle ∈ s.readQueue.items then false else slot.readQueued }
  lost : ∀ handle, s'.find handle = none → s.find handle = none
  readQueue : s'.readQueue = s.readQueue.clear
  same : ∃ connections, s' = { s with
    networkStopping := true, connections := connections, readQueue := s.readQueue.clear }
  capacity : s'.connections.capacity = s.connections.capacity
  limits : s'.connections.limits = s.connections.limits
  last : s'.connections.lastGeneration = s.connections.lastGeneration
  count : s'.connections.activeCount = s.connections.activeCount

/-- A move of the network: a connection is changed or closed, a loop goes on or is left over
a connection that is not open, a handle without a connection is taken off a queue, or the
shutdown begins. -/
inductive Move (s : WorkerNetwork) : WorkerNetwork → Prop where
  | changed {s' : WorkerNetwork} {slot slot' : ConnectionSlot} (h : Changed s s' slot slot') :
      Move s s'
  | closed {s' : WorkerNetwork} {slot : ConnectionSlot} {reason : CloseReason}
      {cause : CloseCause} (h : Closed s s' slot reason cause) : Move s s'
  | turned {reading : ReadLoop} {writing : Option ConnectionHandle}
      (hreads : ∀ slot, s.find slot.handle = some slot → slot.isOpen = true →
        (({ s with reading := reading, writing := writing } : WorkerNetwork).Reads slot.handle ↔
          s.Reads slot.handle))
      (hwriting : ∀ slot, s.find slot.handle = some slot → s.writing = some slot.handle →
        writing = some slot.handle) :
      Move s { s with reading := reading, writing := writing }
  | skippedRead {handle : ConnectionHandle} {readQueue : ConnectionWorkQueue}
      (hnone : s.find handle = none) (hitems : s.readQueue.items = handle :: readQueue.items)
      (hcapacity : readQueue.capacity = s.readQueue.capacity) :
      Move s { s with readQueue := readQueue }
  | skippedWrite {handle : ConnectionHandle} {writeQueue : ConnectionWorkQueue}
      (hnone : s.find handle = none) (hitems : s.writeQueue.items = handle :: writeQueue.items)
      (hcapacity : writeQueue.capacity = s.writeQueue.capacity) :
      Move s { s with writeQueue := writeQueue }
  | stopped {s' : WorkerNetwork} (h : Stopped s s') : Move s s'

/-- A sequence of moves. -/
abbrev Moves : WorkerNetwork → WorkerNetwork → Prop := Relation.ReflTransGen Move

theorem Move.moves (h : Move s t) : Moves s t := .single h

/-! ## The pieces -/

theorem handle_of_find (h : s.find handle = some slot) : slot.handle = handle :=
  ConnectionTable.handle_of_find h

theorem find_self (h : s.find handle = some slot) : s.find slot.handle = some slot := by
  rw [handle_of_find h]
  exact h

theorem found_same (h : s.find slot.handle = some slot) (other : ConnectionHandle) :
    s.find other = if other = slot.handle then some slot else s.find other := by
  split
  · next heq => rw [heq, h]
  · rfl

/-- The read loop is at no other connection. -/
def OnlyReads (s : WorkerNetwork) (handle : ConnectionHandle) : Prop :=
  ∀ other, other ≠ handle → ¬ s.Reads other

theorem onlyReads_of_reads (h : s.Reads handle) : s.OnlyReads handle := by
  rintro other hne (hother | hother) <;> rcases h with h | h <;> rw [h] at hother <;> cases hother
  · exact hne rfl
  · exact hne rfl

theorem not_reads_idle (h : s.reading = .idle) (handle : ConnectionHandle) : ¬ s.Reads handle := by
  rintro (hreads | hreads) <;>
  · rw [h] at hreads
    cases hreads

/-- A state that differs from `s` in one connection only, with its logs and queues. -/
structure Ready (s t : WorkerNetwork) (slot slot' : ConnectionSlot) : Prop where
  live : s.find slot.handle = some slot
  handle : slot'.handle = slot.handle
  found : ∀ other, t.find other = if other = slot.handle then some slot' else s.find other
  count : t.connections.activeCount = s.connections.activeCount
  capacity : t.connections.capacity = s.connections.capacity
  limits : t.connections.limits = s.connections.limits
  last : t.connections.lastGeneration = s.connections.lastGeneration
  stopping : t.networkStopping = s.networkStopping
  reads : ∀ other, other ≠ slot.handle → (t.Reads other ↔ s.Reads other)
  writing : ∀ other, other ≠ slot.handle → (t.writing = some other ↔ s.writing = some other)
  received : t.received = s.received
  posted : t.posted = s.posted
  accepted : t.accepted = s.accepted
  sent : t.sent = s.sent
  closed : t.closed = s.closed
  readQueue : t.readQueue = s.readQueue
  writeQueue : t.writeQueue = s.writeQueue

namespace Ready

theorem refl (h : s.find slot.handle = some slot) : Ready s s slot slot :=
  ⟨h, rfl, found_same h, rfl, rfl, rfl, rfl, rfl, fun _ _ => Iff.rfl, fun _ _ => Iff.rfl, rfl, rfl,
    rfl, rfl, rfl, rfl, rfl⟩

theorem found_self (h : Ready s t slot slot') : t.find slot.handle = some slot' := by
  rw [h.found, if_pos rfl]

theorem update {slot'' : ConnectionSlot} (h : Ready s t slot slot')
    (hhandle : slot''.handle = slot.handle) : Ready s (t.update slot'') slot slot'' := by
  have hfound := h.found_self
  have hfind := ConnectionTable.find_update hfound hhandle
  refine ⟨h.live, hhandle, ?_, ?_, h.capacity, h.limits, h.last, h.stopping, h.reads, h.writing,
    h.received, h.posted, h.accepted, h.sent, h.closed, h.readQueue, h.writeQueue⟩
  · intro other
    rw [← ite_congr rfl (fun _ => rfl) (fun hne => (h.found other).trans (if_neg hne))]
    exact hfind other
  · exact (ConnectionTable.activeCount_update hfound hhandle).trans h.count

theorem leaveRead (h : Ready s t slot slot') (honly : s.OnlyReads slot.handle) :
    Ready s { t with reading := .idle } slot slot' := by
  refine ⟨h.live, h.handle, h.found, h.count, h.capacity, h.limits, h.last, h.stopping, ?_,
    h.writing, h.received, h.posted, h.accepted, h.sent, h.closed, h.readQueue, h.writeQueue⟩
  intro other hne
  exact iff_of_false (not_reads_idle rfl other) (honly other hne)

theorem leaveWrite (h : Ready s t slot slot') (hwriting : s.writing = some slot.handle) :
    Ready s { t with writing := none } slot slot' := by
  refine ⟨h.live, h.handle, h.found, h.count, h.capacity, h.limits, h.last, h.stopping, h.reads,
    ?_, h.received, h.posted, h.accepted, h.sent, h.closed, h.readQueue, h.writeQueue⟩
  intro other hne
  refine iff_of_false nofun ?_
  rw [hwriting, Option.some.injEq]
  exact Ne.symm hne

theorem beside (h : Ready s t slot slot') : Beside s t slot.handle :=
  ⟨h.stopping, h.capacity, h.limits, h.last, h.reads, h.writing, fun _ _ => by rw [h.received],
    fun _ _ => by rw [h.posted], fun _ _ => by rw [h.accepted], fun _ _ => by rw [h.sent]⟩

/-- Closing the connection from such a state closes it. -/
theorem close {reason : CloseReason} {cause : CloseCause} (h : Ready s t slot slot')
    (hjustified : Justified s slot reason cause) :
    Closed s (t.forceClose slot.handle reason cause) slot reason cause := by
  have hfound := h.found_self
  unfold forceClose
  rw [hfound]
  refine ⟨h.live, ⟨h.stopping, ?_, ?_, ?_, h.reads, h.writing, fun _ _ => by rw [← h.received],
    fun _ _ => by rw [← h.posted], fun _ _ => by rw [← h.accepted], fun _ _ => by rw [← h.sent]⟩,
    ?_, ?_, h.received, h.posted, h.accepted, h.sent, by rw [← h.closed], h.readQueue, h.writeQueue,
    hjustified⟩
  · exact (ConnectionTable.release_capacity _ _).trans h.capacity
  · exact (ConnectionTable.release_limits _ _).trans h.limits
  · exact (ConnectionTable.release_lastGeneration _ _).trans h.last
  · intro other
    refine (ConnectionTable.find_release t.connections slot.handle other).trans ?_
    split
    · rfl
    · next hne => exact (h.found other).trans (if_neg hne)
  · rw [← h.count]
    exact ConnectionTable.activeCount_release hfound

/-- The connection is changed, with queues and logs left alone. -/
theorem changed (h : Ready s t slot slot') (hopen : slot'.isOpen = true → slot.isOpen = true)
    (hread : slot'.readQueued = slot.readQueued) (hwrite : slot'.writeQueued = slot.writeQueued)
    (hfed : Fed s slot → Fed t slot') (hflows : Flows s slot → Flows t slot')
    (hawake : Awake s slot → Awake t slot') : Changed s t slot slot' :=
  ⟨⟨h.live, h.handle, h.beside, h.found, h.count, h.closed, hopen,
      fun _ => ⟨by rw [h.received], by rw [h.posted]⟩, hfed, hflows⟩,
    .kept h.readQueue hread, .kept h.writeQueue hwrite, hawake⟩

end Ready

/-! ## Queueing -/

theorem enqueueRead_cases (t : WorkerNetwork) (slot : ConnectionSlot) :
    (slot.readQueued = true ∧ t.enqueueRead slot = some t) ∨
      (slot.readQueued = false ∧ t.readQueue.items.length = t.readQueue.capacity ∧
        t.enqueueRead slot = none) ∨
      ∃ queue, slot.readQueued = false ∧ queue.items = t.readQueue.items ++ [slot.handle] ∧
        queue.capacity = t.readQueue.capacity ∧
        t.enqueueRead slot =
          some { t.update { slot with readQueued := true } with readQueue := queue } := by
  unfold enqueueRead
  cases hflag : slot.readQueued with
  | true => exact .inl ⟨rfl, rfl⟩
  | false =>
    rw [if_neg Bool.false_ne_true]
    cases hpush : t.readQueue.tryPush slot.handle with
    | none => exact .inr (.inl ⟨rfl, ConnectionWorkQueue.tryPush_none hpush, rfl⟩)
    | some queue =>
      obtain ⟨hitems, hcapacity⟩ := ConnectionWorkQueue.tryPush_spec hpush
      exact .inr (.inr ⟨queue, rfl, hitems, hcapacity, rfl⟩)

theorem enqueueWrite_cases (t : WorkerNetwork) (slot : ConnectionSlot) :
    (slot.writeQueued = true ∧ t.enqueueWrite slot = some t) ∨
      (slot.writeQueued = false ∧ t.writeQueue.items.length = t.writeQueue.capacity ∧
        t.enqueueWrite slot = none) ∨
      ∃ queue, slot.writeQueued = false ∧ queue.items = t.writeQueue.items ++ [slot.handle] ∧
        queue.capacity = t.writeQueue.capacity ∧
        t.enqueueWrite slot =
          some { t.update { slot with writeQueued := true } with writeQueue := queue } := by
  unfold enqueueWrite
  cases hflag : slot.writeQueued with
  | true => exact .inl ⟨rfl, rfl⟩
  | false =>
    rw [if_neg Bool.false_ne_true]
    cases hpush : t.writeQueue.tryPush slot.handle with
    | none => exact .inr (.inl ⟨rfl, ConnectionWorkQueue.tryPush_none hpush, rfl⟩)
    | some queue =>
      obtain ⟨hitems, hcapacity⟩ := ConnectionWorkQueue.tryPush_spec hpush
      exact .inr (.inr ⟨queue, rfl, hitems, hcapacity, rfl⟩)

theorem Fed.of_queued (h : Fed s slot) (hhandle : slot'.handle = slot.handle)
    (hopen : slot'.isOpen = slot.isOpen) (hqueued : slot'.readQueued = true)
    (hdecoder : slot'.decoder = slot.decoder) (hreceived : s'.received = s.received)
    (hposted : s'.posted = s.posted) : Fed s' slot' := by
  constructor
  · intro hopen'
    rw [hhandle, hreceived, hposted, hdecoder]
    exact h.split (hopen ▸ hopen')
  · intro _ hqueued'
    rw [hqueued] at hqueued'
    cases hqueued'

/-- A connection goes into the read queue. -/
theorem Ready.pushRead {queue : ConnectionWorkQueue} (h : Ready s t slot slot)
    (hflag : slot.readQueued = false) (hwriting : t.writing = s.writing)
    (hitems : queue.items = t.readQueue.items ++ [slot.handle])
    (hcapacity : queue.capacity = t.readQueue.capacity) :
    Changed s { t.update { slot with readQueued := true } with readQueue := queue } slot
      { slot with readQueued := true } := by
  have hupdate : Ready s (t.update { slot with readQueued := true }) slot
      { slot with readQueued := true } := h.update rfl
  refine
    { live := h.live
      handle := rfl
      beside := ⟨hupdate.stopping, hupdate.capacity, hupdate.limits, hupdate.last, hupdate.reads,
        hupdate.writing, hupdate.beside.received, hupdate.beside.posted, hupdate.beside.accepted,
        hupdate.beside.sent⟩
      found := hupdate.found
      count := hupdate.count
      closed := hupdate.closed
      opened := fun hopen => hopen
      quiet := fun _ => ⟨congrArg _ h.received, congrArg _ h.posted⟩
      fed := fun hfed => hfed.of_queued rfl rfl rfl rfl h.received h.posted
      flows := fun hflows => hflows.congr rfl rfl hflows.watched h.limits
        (congrArg _ h.accepted) (congrArg _ h.sent)
      readQueue := .pushed (by rw [hitems, h.readQueue]) (by rw [hcapacity, h.readQueue]) hflag rfl
      writeQueue := .kept h.writeQueue rfl
      awake := ?_ }
  intro hawake hpending
  rcases hawake hpending with hwrites | hqueued
  · exact .inl (hwriting.trans hwrites)
  · exact .inr hqueued

/-- The read loop leaves the connection, which goes into the read queue or is closed. -/
theorem enqueueReadOrClose_move (hlive : s.find slot.handle = some slot)
    (honly : s.OnlyReads slot.handle) :
    Move s ({ s with reading := .idle }.enqueueReadOrClose slot) := by
  have hready := (Ready.refl hlive).leaveRead honly
  unfold enqueueReadOrClose
  rcases enqueueRead_cases { s with reading := .idle } slot with ⟨hflag, hres⟩ |
    ⟨hflag, hfull, hres⟩ | ⟨queue, hflag, hitems, hcapacity, hres⟩ <;> rw [hres]
  · exact .changed (hready.changed (fun hopen => hopen) rfl rfl
      (fun hfed => hfed.of_queued rfl rfl hflag rfl rfl rfl)
      (fun hflows => hflows.congr rfl rfl hflows.watched rfl rfl rfl) (fun hawake => hawake))
  · exact .closed (hready.close ⟨hflag, hfull⟩)
  · exact .changed (hready.pushRead hflag rfl hitems hcapacity)

/-- Outside the loop nothing is left. -/
theorem enqueueReadOrClose_idle (hlive : s.find slot.handle = some slot)
    (hreading : s.reading = .idle) : Move s (s.enqueueReadOrClose slot) := by
  have honly : s.OnlyReads slot.handle := fun other _ => not_reads_idle hreading other
  have hsame : ({ s with reading := .idle } : WorkerNetwork) = s := by
    rw [← hreading]
  have h := enqueueReadOrClose_move hlive honly
  rw [hsame] at h
  exact h

/-- A prepared connection goes into the write queue. -/
theorem Prepared.pushWrite {queue : ConnectionWorkQueue} (h : Prepared s t slot slot')
    (hread : t.readQueue = s.readQueue) (hwrite : t.writeQueue = s.writeQueue)
    (hreadFlag : slot'.readQueued = slot.readQueued)
    (hwriteFlag : slot'.writeQueued = slot.writeQueued) (hflag : slot'.writeQueued = false)
    (hitems : queue.items = t.writeQueue.items ++ [slot'.handle])
    (hcapacity : queue.capacity = t.writeQueue.capacity) :
    Changed s { t.update { slot' with writeQueued := true } with writeQueue := queue } slot
      { slot' with writeQueued := true } := by
  have hhandle : ({ slot' with writeQueued := true } : ConnectionSlot).handle = slot.handle :=
    h.handle
  have hfound : t.find slot.handle = some slot' := by rw [h.found, if_pos rfl]
  refine
    { live := h.live
      handle := hhandle
      beside := ⟨h.beside.stopping, h.beside.capacity, h.beside.limits, h.beside.last,
        h.beside.reads, h.beside.writing, h.beside.received, h.beside.posted, h.beside.accepted,
        h.beside.sent⟩
      found := ?_
      count := (ConnectionTable.activeCount_update hfound hhandle).trans h.count
      closed := h.closed
      opened := h.opened
      quiet := h.quiet
      fed := ?_
      flows := ?_
      readQueue := .kept hread hreadFlag
      writeQueue := .pushed ?_ ?_ (hwriteFlag ▸ hflag) rfl
      awake := fun _ _ => .inr (.inl rfl) }
  · intro other
    refine (ConnectionTable.find_update hfound hhandle other).trans ?_
    refine ite_congr rfl (fun _ => rfl) (fun hne => ?_)
    exact (h.found other).trans (if_neg hne)
  · intro hfed
    exact (h.fed hfed).congr rfl (fun hopen => hopen) rfl (fun _ => rfl) Iff.rfl rfl rfl rfl
  · intro hflows
    have hflows' := h.flows hflows
    exact hflows'.congr rfl rfl hflows'.watched rfl rfl rfl
  · rw [hitems, hwrite, h.handle]
  · rw [hcapacity, hwrite]

/-- A prepared connection goes into the write queue or is closed. -/
theorem Prepared.enqueueWriteOrClose (h : Prepared s t slot slot') (hready : Ready s t slot slot')
    (hreadFlag : slot'.readQueued = slot.readQueued)
    (hwriteFlag : slot'.writeQueued = slot.writeQueued) :
    Move s (t.enqueueWriteOrClose slot') := by
  unfold WorkerNetwork.enqueueWriteOrClose
  rcases enqueueWrite_cases t slot' with ⟨hflag, hres⟩ | ⟨hflag, hfull, hres⟩ |
    ⟨queue, hflag, hitems, hcapacity, hres⟩ <;> rw [hres]
  · exact .changed ⟨h, .kept hready.readQueue hreadFlag, .kept hready.writeQueue hwriteFlag,
      fun _ _ => .inr (.inl hflag)⟩
  · rw [h.handle]
    refine .closed (hready.close ⟨hwriteFlag ▸ hflag, ?_⟩)
    rw [← hready.writeQueue]
    exact hfull
  · exact .changed (h.pushWrite hready.readQueue hready.writeQueue hreadFlag hwriteFlag hflag
      hitems hcapacity)

/-! ## The read loop -/

/-- The loop is left over a connection that is gone or closing. -/
theorem leave_closed (hreads : s.Reads handle)
    (hopen : ∀ slot, s.find handle = some slot → slot.isOpen = false) :
    Move s { s with reading := .idle } := by
  refine .turned ?_ (fun _ _ hwriting => hwriting)
  intro slot hlive hslot
  have hne : slot.handle ≠ handle := by
    intro heq
    rw [hopen slot (heq ▸ hlive)] at hslot
    cases hslot
  exact iff_of_false (not_reads_idle rfl _) (onlyReads_of_reads hreads _ hne)

theorem endRead_move (reason : CloseReason) (cause : CloseCause) (hready : Ready s t slot slot')
    (hreads : s.Reads slot.handle) (hjustified : Justified s slot reason cause) :
    Move s (t.endRead slot.handle reason cause) :=
  .closed ((hready.leaveRead (onlyReads_of_reads hreads)).close hjustified)

theorem requeue_move (hlive : s.find slot.handle = some slot) (hreads : s.Reads slot.handle)
    (hopen : slot.isOpen = true) : Move s (s.requeue slot) := by
  unfold requeue
  rw [if_pos hopen]
  exact enqueueReadOrClose_move hlive (onlyReads_of_reads hreads)

/-- Received bytes go into the decoder. -/
theorem received_changed (chunk : List UInt8) (hlive : s.find slot.handle = some slot)
    (hreads : s.Reads slot.handle) (hopen : slot.isOpen = true) :
    Changed s
      { s.update { slot with decoder := slot.decoder.push chunk } with
        received := s.received ++ [(slot.handle.generation, chunk)] }
      slot { slot with decoder := slot.decoder.push chunk } := by
  have hupdate : Ready s (s.update { slot with decoder := slot.decoder.push chunk }) slot
      { slot with decoder := slot.decoder.push chunk } := (Ready.refl hlive).update rfl
  refine
    { live := hlive
      handle := rfl
      beside := ⟨rfl, rfl, rfl, rfl, fun _ _ => Iff.rfl, fun _ _ => Iff.rfl,
        fun _ hg => filed_append_ne hg _ _, fun _ _ => rfl, fun _ _ => rfl, fun _ _ => rfl⟩
      found := hupdate.found
      count := hupdate.count
      closed := rfl
      opened := fun hopen => hopen
      quiet := fun hclosed => Bool.noConfusion (hopen.symm.trans hclosed)
      fed := ?_
      flows := fun hflows => hflows.congr rfl rfl hflows.watched rfl rfl rfl
      readQueue := .kept rfl rfl
      writeQueue := .kept rfl rfl
      awake := fun hawake => hawake }
  intro hfed
  refine ⟨fun _ => ?_, fun _ _ hnot => absurd hreads hnot⟩
  show Splits frameParser (filed slot.handle.generation
    (s.received ++ [(slot.handle.generation, chunk)])).flatten
    (filed slot.handle.generation s.posted) (slot.decoder.push chunk).remaining
  rw [filed_append_self, FrameDecoder.remaining_push, List.flatten_append, List.flatten_singleton]
  exact (hfed.split hopen).append chunk

/-- A decoded frame is posted. -/
theorem posted_changed {decoder : FrameDecoder} {frame : Frame} {n : Nat}
    (hlive : s.find slot.handle = some slot) (hreads : s.Reads slot.handle)
    (hopen : slot.isOpen = true) (hitem : nextFrame slot.decoder.remaining = .item frame n)
    (hrest : decoder.remaining = slot.decoder.remaining.drop n) :
    Changed s
      { s.update { slot with decoder := decoder } with
        reading := .posting slot.handle
        posted := s.posted ++ [(slot.handle.generation, frame)] }
      slot { slot with decoder := decoder } := by
  have hupdate : Ready s (s.update { slot with decoder := decoder }) slot
      { slot with decoder := decoder } := (Ready.refl hlive).update rfl
  refine
    { live := hlive
      handle := rfl
      beside := ⟨rfl, rfl, rfl, rfl, ?_, fun _ _ => Iff.rfl, fun _ _ => rfl,
        fun _ hg => filed_append_ne hg _ _, fun _ _ => rfl, fun _ _ => rfl⟩
      found := hupdate.found
      count := hupdate.count
      closed := rfl
      opened := fun hopen => hopen
      quiet := fun hclosed => Bool.noConfusion (hopen.symm.trans hclosed)
      fed := ?_
      flows := fun hflows => hflows.congr rfl rfl hflows.watched rfl rfl rfl
      readQueue := .kept rfl rfl
      writeQueue := .kept rfl rfl
      awake := fun hawake => hawake }
  · intro other hne
    exact iff_of_false (onlyReads_of_reads (.inr rfl) other hne)
      (onlyReads_of_reads hreads other hne)
  · intro hfed
    refine ⟨fun _ => ?_, fun _ _ hnot => absurd (.inr rfl) hnot⟩
    show Splits frameParser (filed slot.handle.generation s.received).flatten
      (filed slot.handle.generation (s.posted ++ [(slot.handle.generation, frame)]))
      decoder.remaining
    rw [filed_append_self, hrest]
    exact (hfed.split hopen).trans (.single hitem)

/-- The end of a round, once the decoder was found without a whole frame. -/
theorem receiveBytes_moves {round : ReadRound} (h : s.receiveBytes slot round = some s')
    (hlive : s.find slot.handle = some slot) (hreads : s.Reads slot.handle)
    (hopen : slot.isOpen = true) (hmore : nextFrame slot.decoder.remaining = .more) :
    Moves s s' := by
  have hready := Ready.refl hlive
  unfold receiveBytes at h
  dsimp only at h
  split at h
  · cases h
    exact (requeue_move hlive hreads hopen).moves
  split at h
  · next hfull =>
    cases h
    refine (endRead_move .protocolViolation .readBufferFull hready hreads
      ⟨nofun, hopen, hmore, ?_⟩).moves
    rw [slot.decoder.length_remaining]
    exact hfull
  split at h
  · cases h
    exact (requeue_move hlive hreads hopen).moves
  split at h
  · split at h
    · cases h
    · cases h
      exact (Move.changed (received_changed _ hlive hreads hopen)).moves
  · cases h
    exact (endRead_move .peerClosed .endOfStream hready hreads nofun).moves
  · cases h
    exact .refl
  · -- nothing more to receive: the decoder has no whole frame when the loop leaves
    cases h
    exact (Move.changed ((hready.leaveRead (onlyReads_of_reads hreads)).changed
      (fun hopen => hopen) rfl rfl (fun hfed => ⟨hfed.split, fun _ _ _ _ => hmore⟩)
      (fun hflows => hflows.congr rfl rfl hflows.watched rfl rfl rfl)
      (fun hawake => hawake))).moves
  · cases h
    exact (endRead_move .ioError .receiveFailed hready hreads nofun).moves

theorem readRound_moves {round : ReadRound} (h : s.readRound handle round = some s')
    (hreading : s.reading = .looping handle) : Moves s s' := by
  have hreads : s.Reads handle := .inl hreading
  unfold readRound at h
  split at h
  · next hnone =>
    cases h
    refine (leave_closed hreads ?_).moves
    intro slot hslot
    rw [hnone] at hslot
    cases hslot
  next slot hslot =>
  obtain rfl := handle_of_find hslot
  split at h
  · next hclosed =>
    cases h
    refine (leave_closed hreads ?_).moves
    intro slot' hslot'
    rw [hslot, Option.some.injEq] at hslot'
    rw [← hslot']
    exact hclosed
  next hopen =>
  have hopen : slot.isOpen = true := by simpa using hopen
  split at h
  · cases h
    exact (requeue_move hslot hreads hopen).moves
  have hdecoded := slot.decoder.tryDecodeNext_decoded
  revert h
  generalize slot.decoder.tryDecodeNext = result at hdecoded
  generalize hparse : nextFrame slot.decoder.remaining = parse at hdecoded
  have hready : ∀ decoder, Ready s (s.update { slot with decoder := decoder }) slot
      { slot with decoder := decoder } := fun _ => (Ready.refl hslot).update rfl
  cases hdecoded with
  | @more decoder hrest =>
    intro h
    have hchanged := (hready decoder).changed (fun hopen => hopen) rfl rfl
      (fun hfed => hfed.congr rfl (fun hopen => hopen) rfl (fun _ => hrest) Iff.rfl rfl rfl rfl)
      (fun hflows => hflows.congr rfl rfl hflows.watched rfl rfl rfl) (fun hawake => hawake)
    refine .head (.changed hchanged) ?_
    refine receiveBytes_moves h (hready decoder).found_self hreads hopen ?_
    show nextFrame decoder.remaining = .more
    rw [hrest, hparse]
  | @fail e =>
    intro h
    cases h
    exact (endRead_move .protocolViolation .decodeError (hready _) hreads
      ⟨nofun, hopen, e, hparse⟩).moves
  | @item decoder frame n hrest =>
    intro h
    cases h
    exact (Move.changed (posted_changed hslot hreads hopen hparse hrest)).moves

/-- The sink refuses the frame. -/
theorem refused_moves {reason : CloseReason} (hreads : s.Reads handle)
    (hreason : reason ≠ .slowConsumer) : Moves s (s.endRead handle reason .postRefused) := by
  cases hfind : s.find handle with
  | none =>
    have hsame : s.endRead handle reason .postRefused = { s with reading := .idle } := by
      unfold endRead forceClose
      rw [show find { s with reading := .idle } handle = none from hfind]
    rw [hsame]
    refine (leave_closed hreads ?_).moves
    intro slot hslot
    rw [hfind] at hslot
    cases hslot
  | some slot =>
    obtain rfl := handle_of_find hfind
    exact (endRead_move reason .postRefused (Ready.refl hfind) hreads hreason).moves

theorem postReturns_moves (result : Adapter.RequestPostResult)
    (hreading : s.reading = .posting handle) : Moves s (s.postReturns handle result) := by
  have hreads : s.Reads handle := .inr hreading
  cases result with
  | accepted =>
    refine Move.moves (.turned ?_ (fun _ _ hwriting => hwriting))
    intro slot _ _
    have hthere : ({ s with reading := .looping handle } : WorkerNetwork).Reads handle := .inl rfl
    by_cases heq : slot.handle = handle
    · rw [heq]
      exact iff_of_true hthere hreads
    · exact iff_of_false (onlyReads_of_reads hthere _ heq) (onlyReads_of_reads hreads _ heq)
  | invalid => exact refused_moves hreads nofun
  | rejected => exact refused_moves hreads nofun

/-- The read loop begins with a connection of the queue. -/
theorem beginRead_changed {queue : ConnectionWorkQueue} (hlive : s.find slot.handle = some slot)
    (hreading : s.reading = .idle) (hitems : s.readQueue.items = slot.handle :: queue.items)
    (hcapacity : queue.capacity = s.readQueue.capacity) :
    Changed s
      { s.update { slot with readQueued := false } with
        readQueue := queue, reading := .looping slot.handle }
      slot { slot with readQueued := false } := by
  have hupdate : Ready s (s.update { slot with readQueued := false }) slot
      { slot with readQueued := false } := (Ready.refl hlive).update rfl
  refine
    { live := hlive
      handle := rfl
      beside := ⟨rfl, rfl, rfl, rfl, ?_, fun _ _ => Iff.rfl, fun _ _ => rfl, fun _ _ => rfl,
        fun _ _ => rfl, fun _ _ => rfl⟩
      found := hupdate.found
      count := hupdate.count
      closed := rfl
      opened := fun hopen => hopen
      quiet := fun _ => ⟨rfl, rfl⟩
      fed := fun hfed => ⟨hfed.split, fun _ _ hnot => absurd (.inl rfl) hnot⟩
      flows := fun hflows => hflows.congr rfl rfl hflows.watched rfl rfl rfl
      readQueue := .popped hitems hcapacity rfl
      writeQueue := .kept rfl rfl
      awake := fun hawake => hawake }
  intro other hne
  exact iff_of_false (onlyReads_of_reads (.inl rfl) other hne) (not_reads_idle hreading other)

theorem beginRead_moves (hreading : s.reading = .idle) : Moves s s.beginRead := by
  unfold beginRead
  split
  · exact .refl
  split
  · exact .refl
  next handle queue hpop =>
  obtain ⟨hitems, hcapacity⟩ := ConnectionWorkQueue.tryPop_spec hpop
  dsimp only
  split
  · next hnone => exact Move.moves (.skippedRead (show s.find handle = none from hnone) hitems hcapacity)
  · next slot hslot =>
    have hlive : s.find handle = some slot := hslot
    obtain rfl := handle_of_find hlive
    exact (Move.changed (beginRead_changed hlive hreading hitems hcapacity)).moves

/-! ## The flush loop -/

/-- The flush loop begins with a connection of the queue. -/
theorem beginFlush_changed {queue : ConnectionWorkQueue} (hlive : s.find slot.handle = some slot)
    (hwriting : s.writing = none) (hitems : s.writeQueue.items = slot.handle :: queue.items)
    (hcapacity : queue.capacity = s.writeQueue.capacity) :
    Changed s
      { s.update { slot with writeQueued := false, waitingEpollout := false } with
        writeQueue := queue, writing := some slot.handle }
      slot { slot with writeQueued := false, waitingEpollout := false } := by
  have hupdate : Ready s (s.update { slot with writeQueued := false, waitingEpollout := false }) slot
      { slot with writeQueued := false, waitingEpollout := false } := (Ready.refl hlive).update rfl
  refine
    { live := hlive
      handle := rfl
      beside := ⟨rfl, rfl, rfl, rfl, fun _ _ => Iff.rfl, ?_, fun _ _ => rfl, fun _ _ => rfl,
        fun _ _ => rfl, fun _ _ => rfl⟩
      found := hupdate.found
      count := hupdate.count
      closed := rfl
      opened := fun hopen => hopen
      quiet := fun _ => ⟨rfl, rfl⟩
      fed := fun hfed =>
        hfed.congr rfl (fun hopen => hopen) rfl (fun _ => rfl) Iff.rfl rfl rfl rfl
      flows := fun hflows => hflows.congr rfl rfl nofun rfl rfl rfl
      readQueue := .kept rfl rfl
      writeQueue := .popped hitems hcapacity rfl
      awake := fun _ _ => .inl rfl }
  intro other hne
  refine iff_of_false ?_ (by rw [hwriting]; nofun)
  show some slot.handle ≠ some other
  rw [ne_eq, Option.some.injEq]
  exact Ne.symm hne

theorem beginFlush_moves (hwriting : s.writing = none) : Moves s s.beginFlush := by
  unfold beginFlush
  split
  · exact .refl
  next handle queue hpop =>
  obtain ⟨hitems, hcapacity⟩ := ConnectionWorkQueue.tryPop_spec hpop
  dsimp only
  split
  · next hnone =>
    exact Move.moves (.skippedWrite (show s.find handle = none from hnone) hitems hcapacity)
  · next slot hslot =>
    have hlive : s.find handle = some slot := hslot
    obtain rfl := handle_of_find hlive
    exact (Move.changed (beginFlush_changed hlive hwriting hitems hcapacity)).moves

/-- Sent bytes leave the write buffer. -/
theorem sent_changed {count : Nat} {finished : Bool} {writeBuffer : WriteBuffer}
    (hlive : s.find slot.handle = some slot) (hwriting : s.writing = some slot.handle)
    (hconsume : slot.writeBuffer.consume count = .ok (finished, writeBuffer)) :
    Changed s
      { s.update { slot with writeBuffer := writeBuffer } with
        sent := s.sent ++ [(slot.handle.generation, slot.writeBuffer.frontBytes.take count)] }
      slot { slot with writeBuffer := writeBuffer } := by
  have hupdate : Ready s (s.update { slot with writeBuffer := writeBuffer }) slot
      { slot with writeBuffer := writeBuffer } := (Ready.refl hlive).update rfl
  obtain ⟨-, hpending, hlimit, hexact⟩ := WriteBuffer.consume_spec hconsume
  refine
    { live := hlive
      handle := rfl
      beside := ⟨rfl, rfl, rfl, rfl, fun _ _ => Iff.rfl, fun _ _ => Iff.rfl, fun _ _ => rfl,
        fun _ _ => rfl, fun _ _ => rfl, fun _ hg => filed_append_ne hg _ _⟩
      found := hupdate.found
      count := hupdate.count
      closed := rfl
      opened := fun hopen => hopen
      quiet := fun _ => ⟨rfl, rfl⟩
      fed := fun hfed =>
        hfed.congr rfl (fun hopen => hopen) rfl (fun _ => rfl) Iff.rfl rfl rfl rfl
      flows := ?_
      readQueue := .kept rfl rfl
      writeQueue := .kept rfl rfl
      awake := fun _ _ => .inl hwriting }
  intro hflows
  obtain ⟨encoded, hencoded, hflat⟩ := hflows.written
  refine ⟨⟨encoded, hencoded, ?_⟩, hexact hflows.exact, hlimit.trans hflows.limit, hflows.watched⟩
  show encoded.flatten = (filed slot.handle.generation (s.sent ++
    [(slot.handle.generation, slot.writeBuffer.frontBytes.take count)])).flatten ++
    writeBuffer.pending
  rw [filed_append_self, List.flatten_append, List.flatten_singleton, List.append_assoc,
    ← hpending, hflat]

/-- The flush loop is left over a connection that is gone. -/
theorem leave_gone (hwriting : s.writing = some handle) (hnone : s.find handle = none) :
    Move s { s with writing := none } := by
  refine .turned (fun _ _ _ => Iff.rfl) ?_
  intro slot hlive hslot
  rw [hwriting, Option.some.injEq] at hslot
  rw [← hslot, hnone] at hlive
  cases hlive

theorem flushRound_moves {expired : Bool} {answer : Sent}
    (h : s.flushRound handle expired answer = some s') (hwriting : s.writing = some handle) :
    Moves s s' := by
  unfold flushRound at h
  dsimp only at h
  split at h
  · next hnone =>
    cases h
    exact (leave_gone hwriting hnone).moves
  next slot hslot =>
  obtain rfl := handle_of_find hslot
  have hready := (Ready.refl hslot).leaveWrite hwriting
  have hsame : Fed s slot → Fed { s with writing := none } slot := fun hfed =>
    hfed.congr rfl (fun hopen => hopen) rfl (fun _ => rfl) Iff.rfl rfl rfl rfl
  split at h
  · next hempty =>
    split at h
    · cases h
      exact Move.moves (.closed (hready.close trivial))
    · cases h
      have hupdate := hready.update (rfl : (updateConnectionInterest slot).handle = slot.handle)
      refine Move.moves (.changed (hupdate.changed (fun hopen => hopen) rfl rfl
        (fun hfed => (hsame hfed).congr rfl (fun hopen => hopen) rfl (fun _ => rfl) Iff.rfl rfl rfl
          rfl)
        (fun hflows => hflows.congr rfl rfl (fun hwaiting => hwaiting) rfl rfl rfl) ?_))
      intro _ hpending
      have hpending' : slot.hasPendingWrite = true := hpending
      rw [hempty] at hpending'
      cases hpending'
  split at h
  · cases h
    have hprepared : Prepared s { s with writing := none } slot slot :=
      ⟨hslot, rfl, hready.beside, hready.found, rfl, rfl, fun hopen => hopen,
        fun _ => ⟨rfl, rfl⟩, hsame,
        fun hflows => hflows.congr rfl rfl hflows.watched rfl rfl rfl⟩
    exact (hprepared.enqueueWriteOrClose hready rfl rfl).moves
  split at h
  · split at h
    · cases h
    · split at h
      · cases h
      · next hconsume =>
        cases h
        exact (Move.changed (sent_changed hslot hwriting hconsume)).moves
  · cases h
    exact .refl
  · cases h
    have hupdate := hready.update
      (rfl : (updateConnectionInterest { slot with waitingEpollout := true }).handle = slot.handle)
    exact Move.moves (.changed (hupdate.changed (fun hopen => hopen) rfl rfl
      (fun hfed => (hsame hfed).congr rfl (fun hopen => hopen) rfl (fun _ => rfl) Iff.rfl rfl rfl
        rfl)
      (fun hflows => hflows.congr rfl rfl (fun hwaiting => hwaiting) rfl rfl rfl)
      (fun _ _ => .inr (.inr rfl))))
  · cases h
    exact Move.moves (.closed (hready.close nofun))

/-! ## Sends and closes -/

theorem appendFrame_cases (slot : ConnectionSlot) (frame : Frame) (critical : Bool) :
    (∃ encoded writeBuffer, slot.appendFrame frame critical =
        (.accepted, { slot with writeBuffer := writeBuffer }) ∧
        encodeFrame frame = .ok encoded ∧
        writeBuffer.pending = slot.writeBuffer.pending ++ encoded ∧
        writeBuffer.hardLimit = slot.writeBuffer.hardLimit ∧
        (slot.writeBuffer.Exact → writeBuffer.Exact)) ∨
      ∃ result, slot.appendFrame frame critical = (result, slot) ∧ result ≠ .accepted ∧
        (result = .hardLimit → ∃ encoded, encodeFrame frame = .ok encoded ∧
          slot.writeBuffer.hardLimit < slot.writeBuffer.queuedBytes + encoded.length) := by
  unfold ConnectionSlot.appendFrame
  split
  · exact .inr ⟨.closing, rfl, nofun, nofun⟩
  · rcases slot.writeBuffer.append_cases frame critical with
      ⟨encoded, writeBuffer, hres, hencoded, hpending, -, hlimit, hexact⟩ |
      ⟨result, hres, hne, hfull⟩ <;> rw [hres]
    · exact .inl ⟨encoded, writeBuffer, rfl, hencoded, hpending, hlimit, hexact⟩
    · exact .inr ⟨result, rfl, hne, hfull⟩

/-- The state after a frame was accepted, before the connection is queued. -/
theorem accepted_prepared {frame : Frame} {encoded : List UInt8} {writeBuffer : WriteBuffer}
    (hlive : s.find slot.handle = some slot) (hencoded : encodeFrame frame = .ok encoded)
    (hpending : writeBuffer.pending = slot.writeBuffer.pending ++ encoded)
    (hlimit : writeBuffer.hardLimit = slot.writeBuffer.hardLimit)
    (hexact : slot.writeBuffer.Exact → writeBuffer.Exact) :
    Prepared s
      { s.update { slot with writeBuffer := writeBuffer } with
        accepted := s.accepted ++ [(slot.handle.generation, frame)] }
      slot { slot with writeBuffer := writeBuffer } := by
  have hupdate : Ready s (s.update { slot with writeBuffer := writeBuffer }) slot
      { slot with writeBuffer := writeBuffer } := (Ready.refl hlive).update rfl
  refine
    { live := hlive
      handle := rfl
      beside := ⟨rfl, rfl, rfl, rfl, fun _ _ => Iff.rfl, fun _ _ => Iff.rfl, fun _ _ => rfl,
        fun _ _ => rfl, fun _ hg => filed_append_ne hg _ _, fun _ _ => rfl⟩
      found := hupdate.found
      count := hupdate.count
      closed := rfl
      opened := fun hopen => hopen
      quiet := fun _ => ⟨rfl, rfl⟩
      fed := fun hfed =>
        hfed.congr rfl (fun hopen => hopen) rfl (fun _ => rfl) Iff.rfl rfl rfl rfl
      flows := ?_ }
  intro hflows
  obtain ⟨bytes, hbytes, hflat⟩ := hflows.written
  refine ⟨⟨bytes ++ [encoded], ?_, ?_⟩, hexact hflows.exact, hlimit.trans hflows.limit,
    hflows.watched⟩
  · show (filed slot.handle.generation (s.accepted ++ [(slot.handle.generation, frame)])).mapM
      encodeFrame = .ok (bytes ++ [encoded])
    rw [filed_append_self, List.mapM_append, hbytes]
    simp [hencoded, pure, Except.pure, bind, Except.bind]
  · show (bytes ++ [encoded]).flatten = (filed slot.handle.generation s.sent).flatten ++
      writeBuffer.pending
    rw [List.flatten_append, List.flatten_singleton, hflat, hpending, List.append_assoc]

theorem sendLocal_moves (connection : ConnectionRef) (frame : Frame) (critical : Bool) :
    Moves s (s.sendLocal connection frame critical).2 := by
  unfold sendLocal
  dsimp only
  split
  · exact .refl
  next slot hslot =>
  have hhandle := handle_of_find hslot
  have hgeneration : connection.generation = slot.handle.generation :=
    congrArg ConnectionHandle.generation hhandle.symm
  rw [← hhandle] at hslot ⊢
  rw [hgeneration]
  split
  · exact .refl
  rcases appendFrame_cases slot frame critical with
    ⟨encoded, writeBuffer, hres, hencoded, hpending, hlimit, hexact⟩ |
    ⟨result, hres, hne, hfull⟩
  · rw [hres]
    dsimp only
    have hprepared := accepted_prepared hslot hencoded hpending hlimit hexact
    have hready : Ready s (s.update { slot with writeBuffer := writeBuffer }) slot
        { slot with writeBuffer := writeBuffer } := (Ready.refl hslot).update rfl
    split
    · rcases enqueueWrite_cases (s.update { slot with writeBuffer := writeBuffer })
        { slot with writeBuffer := writeBuffer } with ⟨hflag, hres⟩ | ⟨hflag, hrefused, hres⟩ |
        ⟨queue, hflag, hitems, hcapacity, hres⟩ <;> rw [hres]
      · exact Move.moves (.changed ⟨hprepared, .kept rfl rfl, .kept rfl rfl,
          fun _ _ => .inr (.inl hflag)⟩)
      · exact Move.moves (.closed (hready.close ⟨hflag, hrefused⟩))
      · exact Move.moves (.changed (hprepared.pushWrite rfl rfl rfl rfl hflag hitems hcapacity))
    · next hqueued =>
      refine Move.moves (.changed ⟨hprepared, .kept rfl rfl, .kept rfl rfl, ?_⟩)
      intro _ _
      have hqueued' : ¬ (slot.writeQueued = false ∧ slot.waitingEpollout = false) := hqueued
      rw [not_and_or, Bool.not_eq_false, Bool.not_eq_false] at hqueued'
      exact .inr hqueued'
  · rw [hres]
    cases result with
    | accepted => exact absurd rfl hne
    | hardLimit =>
      exact Move.moves (.closed ((Ready.refl hslot).close ⟨rfl, hfull rfl⟩))
    | softLimit => exact .refl
    | closing => exact .refl
    | stale => exact .refl
    | rejected => exact .refl

/-- A live connection is closed on request, or for a reason of its own. -/
theorem forceClose_move (reason : CloseReason) (cause : CloseCause)
    (hlive : s.find slot.handle = some slot) (h : Justified s slot reason cause) :
    Move s (s.forceClose slot.handle reason cause) :=
  .closed ((Ready.refl hlive).close h)

theorem beginGracefulClose_moves (handle : ConnectionHandle) (reason : CloseReason)
    (scheduled : Bool) : Moves s (s.beginGracefulClose handle reason scheduled).2 := by
  unfold beginGracefulClose
  split
  · exact .refl
  next slot hslot =>
  obtain rfl := handle_of_find hslot
  split
  · exact .refl
  dsimp only
  let closing := updateConnectionInterest (slot.beginClosing reason)
  have hready : Ready s (s.update closing) slot closing := (Ready.refl hslot).update rfl
  have hchanged : Move s (s.update closing) := .changed (hready.changed nofun rfl rfl
    (fun _ => ⟨nofun, nofun⟩)
    (fun hflows => hflows.congr rfl rfl (fun hwaiting => hwaiting) rfl rfl rfl)
    (fun hawake => hawake))
  have hlive : (s.update closing).find closing.handle = some closing := hready.found_self
  refine .head hchanged ?_
  -- the timer of the drain deadline may be refused whether or not the connection was queued
  have hdeadline : ∀ t slot', find t slot.handle = some slot' →
      Moves t (if scheduled = true then t else t.forceClose slot.handle .timeout .timersFull) := by
    intro t slot' hslot'
    split
    · exact .refl
    · rw [← handle_of_find hslot']
      exact (forceClose_move .timeout .timersFull (find_self hslot') nofun).moves
  split
  · exact (forceClose_move reason .requested hlive trivial).moves
  split
  · rcases enqueueWrite_cases (s.update closing) closing with ⟨hflag, hres⟩ |
      ⟨hflag, hrefused, hres⟩ | ⟨queue, hflag, hitems, hcapacity, hres⟩
    · rw [show (s.update closing).enqueueWrite closing = _ from hres]
      exact hdeadline _ _ hlive
    · rw [show (s.update closing).enqueueWrite closing = _ from hres]
      exact (forceClose_move .slowConsumer .writeQueueFull hlive ⟨hflag, hrefused⟩).moves
    · rw [show (s.update closing).enqueueWrite closing = _ from hres]
      have hself := Ready.refl hlive
      have hprepared : Prepared (s.update closing) (s.update closing) closing closing :=
        ⟨hlive, rfl, hself.beside, hself.found, rfl, rfl, fun hopen => hopen,
          fun _ => ⟨rfl, rfl⟩, fun hfed => hfed, fun hflows => hflows⟩
      have hpushed := hprepared.pushWrite rfl rfl rfl rfl hflag hitems hcapacity
      refine .head (.changed hpushed) (hdeadline _ { closing with writeQueued := true } ?_)
      exact (hpushed.found slot.handle).trans (if_pos rfl)
  · exact hdeadline _ _ hlive

theorem closeConnection_moves (connection : ConnectionRef) (reason : CloseReason)
    (graceful scheduled : Bool) :
    Moves s (s.closeConnection connection reason graceful scheduled).2 := by
  unfold closeConnection
  dsimp only
  split
  · exact .refl
  split
  · exact .refl
  next hsome =>
  split
  · exact beginGracefulClose_moves _ reason scheduled
  · obtain ⟨slot, hslot⟩ := Option.ne_none_iff_exists'.1
      (fun hnone => hsome (Option.isNone_iff_eq_none.2 hnone))
    have hhandle := handle_of_find hslot
    rw [← hhandle] at hslot ⊢
    exact (forceClose_move reason .requested hslot trivial).moves

theorem closeDeadline_moves (handle : ConnectionHandle) : Moves s (s.closeDeadline handle) := by
  unfold closeDeadline
  split
  · exact .refl
  next slot hslot =>
  obtain rfl := handle_of_find hslot
  split
  · exact (forceClose_move .timeout .deadline hslot nofun).moves
  · exact .refl

/-! ## Poll events -/

theorem resumeWrite_moves (event : ConnectionEvent) (hlive : s.find slot.handle = some slot) :
    Moves s (s.resumeWrite slot event) := by
  unfold resumeWrite
  split
  · dsimp only
    let resumed := updateConnectionInterest { slot with waitingEpollout := false }
    have hready : Ready s (s.update resumed) slot resumed := (Ready.refl hlive).update rfl
    have hprepared : Prepared s (s.update resumed) slot resumed :=
      ⟨hlive, rfl, hready.beside, hready.found, hready.count, rfl, fun hopen => hopen,
        fun _ => ⟨rfl, rfl⟩,
        fun hfed => hfed.congr rfl (fun hopen => hopen) rfl (fun _ => rfl) Iff.rfl rfl rfl rfl,
        fun hflows => hflows.congr rfl rfl (fun hwaiting => hwaiting) rfl rfl rfl⟩
    exact (hprepared.enqueueWriteOrClose hready rfl rfl).moves
  · exact .refl

theorem requestRead_moves (handle : ConnectionHandle) (event : ConnectionEvent)
    (hreading : s.reading = .idle) : Moves s (s.requestRead handle event) := by
  unfold requestRead
  split
  · exact .refl
  next slot hslot =>
  split
  · exact (enqueueReadOrClose_idle (find_self hslot) hreading).moves
  · exact .refl

theorem reading_forceClose (s : WorkerNetwork) (handle : ConnectionHandle) (reason : CloseReason)
    (cause : CloseCause) : (s.forceClose handle reason cause).reading = s.reading := by
  unfold forceClose
  split <;> rfl

theorem reading_resumeWrite (s : WorkerNetwork) (slot : ConnectionSlot) (event : ConnectionEvent) :
    (s.resumeWrite slot event).reading = s.reading := by
  unfold resumeWrite
  split
  · dsimp only
    unfold enqueueWriteOrClose
    rcases enqueueWrite_cases _ _ with ⟨-, hres⟩ | ⟨-, -, hres⟩ | ⟨queue, -, -, -, hres⟩ <;> rw [hres]
    · rfl
    · exact reading_forceClose _ _ _ _
    · rfl
  · rfl

theorem processPollEvent_moves (handle : ConnectionHandle) (event : ConnectionEvent)
    (hreading : s.reading = .idle) : Moves s (s.processPollEvent handle event) := by
  unfold processPollEvent
  split
  · exact .refl
  next slot hslot =>
  obtain rfl := handle_of_find hslot
  split
  · refine (forceClose_move _ .pollEvent hslot ?_).moves
    show (if event.fatalError = true then CloseReason.ioError else .peerClosed) ≠ .slowConsumer
    split <;> nofun
  · refine (resumeWrite_moves event hslot).trans (requestRead_moves _ event ?_)
    rw [reading_resumeWrite, hreading]

/-! ## The shutdown -/

theorem beginShutdownPhaseA_stopped (s : WorkerNetwork) : Stopped s s.beginShutdownPhaseA := by
  let quiet (slot : ConnectionSlot) : ConnectionSlot :=
    { slot with interest := { read := false, write := slot.waitingEpollout } }
  let unqueue (slot : ConnectionSlot) : ConnectionSlot := { slot with readQueued := false }
  have hquiet : ∀ slot, (quiet slot).handle = slot.handle := fun _ => rfl
  have hunqueue : ∀ slot, (unqueue slot).handle = slot.handle := fun _ => rfl
  let silenced := s.connections.activeHandles.foldl
    (fun table handle => table.modify handle quiet) s.connections
  obtain ⟨hcount, hcapacity, hlimits, hlast⟩ :=
    ConnectionTable.foldl_modify_fields hquiet s.connections.activeHandles s.connections
  obtain ⟨hcount', hcapacity', hlimits', hlast'⟩ :=
    ConnectionTable.foldl_modify_fields hunqueue s.readQueue.items silenced
  have hfind : ∀ handle, s.beginShutdownPhaseA.find handle =
      if handle ∈ s.readQueue.items then (silenced.find handle).map unqueue
      else silenced.find handle :=
    ConnectionTable.find_foldl_modify hunqueue (fun _ => rfl) s.readQueue.items silenced
  have hsilenced : ∀ handle, silenced.find handle = (s.find handle).map quiet := by
    intro handle
    refine (ConnectionTable.find_foldl_modify hquiet (fun _ => rfl) _ s.connections handle).trans ?_
    split
    · rfl
    · next hnot =>
      cases hslot : s.connections.find handle with
      | none => exact (congrArg (Option.map quiet) hslot).symm
      | some slot => exact absurd (ConnectionTable.mem_activeHandles hslot) hnot
  refine ⟨rfl, ?_, ?_, rfl, ⟨_, rfl⟩, hcapacity'.trans hcapacity, hlimits'.trans hlimits,
    hlast'.trans hlast, hcount'.trans hcount⟩
  · intro handle slot' hslot'
    rw [hfind, hsilenced] at hslot'
    split at hslot'
    · next hmem =>
      obtain ⟨found, hfound, hslot'⟩ := Option.map_eq_some_iff.1 hslot'
      obtain ⟨slot, hslot, hfound⟩ := Option.map_eq_some_iff.1 hfound
      refine ⟨slot, hslot, ?_⟩
      rw [← hslot', ← hfound, if_pos hmem]
    · next hnot =>
      obtain ⟨slot, hslot, hslot'⟩ := Option.map_eq_some_iff.1 hslot'
      refine ⟨slot, hslot, ?_⟩
      rw [← hslot', if_neg hnot]
  · intro handle hnone
    rw [hfind, hsilenced] at hnone
    split at hnone
    · exact Option.map_eq_none_iff.1 (Option.map_eq_none_iff.1 hnone)
    · exact Option.map_eq_none_iff.1 hnone

/-! ## Steps -/

theorem resting_iff : s.resting = true ↔ s.reading = .idle ∧ s.writing = none := by
  simp [resting]

/-- **A step is an accepted client or a sequence of moves.** -/
theorem step_moves {action : NetworkAction} (h : s.step action = some s') :
    (action = .accept ∧ ∃ table slot, ConnectionTable.Reserved s.connections table slot ∧
        s' = { s with connections := table }) ∨ Moves s s' := by
  cases action with
  | accept =>
    simp only [step, Option.ite_none_right_eq_some, Option.some.injEq] at h
    obtain ⟨-, rfl⟩ := h
    unfold acceptPendingClient
    split
    · exact .inr .refl
    split
    · exact .inr .refl
    · next table htable =>
      obtain ⟨slot, hslot⟩ := ConnectionTable.tryReserve_reserved htable
      exact .inl ⟨rfl, table, slot, hslot, rfl⟩
  | poll handle event =>
    simp only [step, Option.ite_none_right_eq_some, Option.some.injEq] at h
    obtain ⟨hresting, rfl⟩ := h
    exact .inr (processPollEvent_moves handle event (resting_iff.1 hresting).1)
  | beginRead =>
    simp only [step, Option.ite_none_right_eq_some, Option.some.injEq] at h
    obtain ⟨hresting, rfl⟩ := h
    exact .inr (beginRead_moves (resting_iff.1 hresting).1)
  | readRound round =>
    unfold step at h
    dsimp only at h
    split at h
    · next hreading => exact .inr (readRound_moves h hreading)
    · cases h
  | postReturns result =>
    unfold step at h
    dsimp only at h
    split at h
    · next hreading =>
      cases h
      exact .inr (postReturns_moves result hreading)
    · cases h
  | beginFlush =>
    simp only [step, Option.ite_none_right_eq_some, Option.some.injEq] at h
    obtain ⟨hresting, rfl⟩ := h
    exact .inr (beginFlush_moves (resting_iff.1 hresting).2)
  | flushRound expired answer =>
    unfold step at h
    dsimp only at h
    split at h
    · next hwriting => exact .inr (flushRound_moves h hwriting)
    · cases h
  | sendLocal connection frame critical =>
    simp only [step, Option.ite_none_right_eq_some, Option.some.injEq] at h
    obtain ⟨-, rfl⟩ := h
    exact .inr (sendLocal_moves connection frame critical)
  | closeConnection connection reason graceful scheduled =>
    simp only [step, Option.ite_none_right_eq_some, Option.some.injEq] at h
    obtain ⟨-, rfl⟩ := h
    exact .inr (closeConnection_moves connection reason graceful scheduled)
  | closeDeadline handle =>
    simp only [step, Option.ite_none_right_eq_some, Option.some.injEq] at h
    obtain ⟨-, rfl⟩ := h
    exact .inr (closeDeadline_moves handle)
  | beginShutdown =>
    simp only [step, Option.ite_none_right_eq_some, Option.some.injEq] at h
    obtain ⟨-, rfl⟩ := h
    exact .inr (Move.stopped (beginShutdownPhaseA_stopped s)).moves

end Snf.Worker.WorkerNetwork
