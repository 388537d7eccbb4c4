import Snf.Protocol.FrameStream

/-! # Connections of a worker

The write buffer of a connection, its slot, the work queues and the table of the slots. A
connection is named by its slot index and its generation; the index is reused, the generation
is not.
-/

namespace Snf.Worker

open Snf.Protocol (Frame FrameDecoder encodeFrame)

inductive SendResult where
  | accepted | softLimit | hardLimit | closing | stale | rejected
deriving DecidableEq, Repr

/-! ## The write buffer -/

/-- An accepted frame of which the first `offset` bytes have been written. A frame leaves the
buffer with its last byte. -/
structure PendingFrame where
  bytes : List UInt8
  offset : Nat := 0
  unsent : offset < bytes.length

/-- The bytes of the frame that have not been written. -/
def PendingFrame.rest (frame : PendingFrame) : List UInt8 := frame.bytes.drop frame.offset

theorem PendingFrame.length_rest (frame : PendingFrame) :
    frame.rest.length = frame.bytes.length - frame.offset :=
  List.length_drop

theorem PendingFrame.length_rest_pos (frame : PendingFrame) : 0 < frame.rest.length := by
  have := frame.unsent
  rw [frame.length_rest]
  omega

structure WriteBuffer where
  softWatermark : Nat
  hardLimit : Nat
  frames : List PendingFrame := []
  queuedBytes : Nat := 0

theorem encodeFrame_pos {frame : Frame} {encoded : List UInt8}
    (h : encodeFrame frame = .ok encoded) : 0 < encoded.length := by
  obtain ⟨-, -, rfl⟩ := Protocol.length_encodeFrame h
  simp only [List.length_append, Lib.length_bigEndian]
  omega

namespace WriteBuffer

def append (buffer : WriteBuffer) (frame : Frame) (critical : Bool) : SendResult × WriteBuffer :=
  match h : encodeFrame frame with
  | .error _ => (.rejected, buffer)
  | .ok encoded =>
    if encoded.length > buffer.hardLimit ∨
        buffer.queuedBytes > buffer.hardLimit - encoded.length then (.hardLimit, buffer)
    else if critical = false ∧ (encoded.length > buffer.softWatermark ∨
        buffer.queuedBytes > buffer.softWatermark - encoded.length) then (.softLimit, buffer)
    else
      (.accepted,
        { buffer with
          frames := buffer.frames ++ [{ bytes := encoded, unsent := encodeFrame_pos h }]
          queuedBytes := buffer.queuedBytes + encoded.length })

def empty (buffer : WriteBuffer) : Bool := buffer.frames.isEmpty

/-- What is still to be written of the oldest frame. -/
def frontBytes (buffer : WriteBuffer) : List UInt8 :=
  match buffer.frames with
  | [] => []
  | frame :: _ => frame.rest

/-- Take written bytes off the oldest frame; `true` when that finishes the frame. -/
def consume (buffer : WriteBuffer) (byteCount : Nat) : Except String (Bool × WriteBuffer) :=
  match buffer.frames with
  | [] => .error "Written byte count exceeds the pending frame"
  | frame :: rest =>
    if byteCount > frame.rest.length then .error "Written byte count exceeds the pending frame"
    else if h : frame.offset + byteCount < frame.bytes.length then
      .ok (false,
        { buffer with
          frames := { frame with offset := frame.offset + byteCount, unsent := h } :: rest
          queuedBytes := buffer.queuedBytes - byteCount })
    else
      .ok (true, { buffer with frames := rest, queuedBytes := buffer.queuedBytes - byteCount })

/-- Every byte that is still to be written, in order. -/
def pending (buffer : WriteBuffer) : List UInt8 := buffer.frames.flatMap PendingFrame.rest

theorem pending_eq_nil {buffer : WriteBuffer} : buffer.pending = [] ↔ buffer.empty = true := by
  unfold pending empty
  rw [List.isEmpty_iff]
  constructor
  · intro h
    cases hframes : buffer.frames with
    | nil => rfl
    | cons frame rest =>
      rw [hframes, List.flatMap_cons, List.append_eq_nil_iff] at h
      have := frame.length_rest_pos
      rw [h.1] at this
      cases this
  · intro h
    rw [h]
    rfl

/-- The counter agrees with the bytes it counts, and keeps the hard limit. -/
structure Exact (buffer : WriteBuffer) : Prop where
  counted : buffer.queuedBytes = buffer.pending.length
  bounded : buffer.queuedBytes ≤ buffer.hardLimit

/-- Either the frame joins the end of the buffer with all its bytes, or the buffer is left as
it was. -/
theorem append_cases (buffer : WriteBuffer) (frame : Frame) (critical : Bool) :
    (∃ encoded buffer', buffer.append frame critical = (.accepted, buffer') ∧
        encodeFrame frame = .ok encoded ∧ buffer'.pending = buffer.pending ++ encoded ∧
        buffer'.softWatermark = buffer.softWatermark ∧ buffer'.hardLimit = buffer.hardLimit ∧
        (buffer.Exact → buffer'.Exact)) ∨
      ∃ result, buffer.append frame critical = (result, buffer) ∧ result ≠ .accepted ∧
        (result = .hardLimit → ∃ encoded, encodeFrame frame = .ok encoded ∧
          buffer.hardLimit < buffer.queuedBytes + encoded.length) := by
  unfold append
  split
  · exact .inr ⟨.rejected, rfl, nofun, nofun⟩
  next encoded hencoded =>
  split
  · next hfull => exact .inr ⟨.hardLimit, rfl, nofun, fun _ => ⟨encoded, hencoded, by omega⟩⟩
  next hfits =>
  split
  · exact .inr ⟨.softLimit, rfl, nofun, nofun⟩
  · refine .inl ⟨encoded, _, rfl, hencoded, ?_, rfl, rfl, ?_⟩
    · simp [pending, PendingFrame.rest]
    · intro hexact
      refine ⟨?_, ?_⟩
      · have := hexact.counted
        simp only [pending, List.flatMap_append, List.flatMap_singleton, List.length_append,
          PendingFrame.rest, List.drop_zero] at this ⊢
        omega
      · show buffer.queuedBytes + encoded.length ≤ buffer.hardLimit
        omega

theorem consume_spec {buffer buffer' : WriteBuffer} {byteCount : Nat} {finished : Bool}
    (h : buffer.consume byteCount = .ok (finished, buffer')) :
    byteCount ≤ buffer.frontBytes.length ∧
      buffer.pending = buffer.frontBytes.take byteCount ++ buffer'.pending ∧
      buffer'.hardLimit = buffer.hardLimit ∧ (buffer.Exact → buffer'.Exact) := by
  unfold consume at h
  split at h
  · cases h
  next frame rest hframes =>
  have hfront : buffer.frontBytes = frame.rest := by unfold frontBytes; rw [hframes]
  have hpending : buffer.pending = frame.rest ++ rest.flatMap PendingFrame.rest := by
    unfold pending
    rw [hframes]
    rfl
  split at h
  · cases h
  next hcount =>
  rw [hfront]
  -- in both cases the written bytes go and the rest of the frame, if any, stays in front
  have hkey : ∀ frames, frame.rest.drop byteCount ++ rest.flatMap PendingFrame.rest =
      frames.flatMap PendingFrame.rest →
      let next : WriteBuffer :=
        { buffer with frames := frames, queuedBytes := buffer.queuedBytes - byteCount }
      buffer.pending = frame.rest.take byteCount ++ next.pending ∧
        (buffer.Exact → next.Exact) := by
    intro frames hframes' next
    have hnext : next.pending =
        frame.rest.drop byteCount ++ rest.flatMap PendingFrame.rest := hframes'.symm
    refine ⟨?_, ?_⟩
    · rw [hnext, ← List.append_assoc, List.take_append_drop, hpending]
    · intro hexact
      have hcounted := hexact.counted
      have hbounded := hexact.bounded
      rw [hpending, List.length_append] at hcounted
      refine ⟨?_, ?_⟩
      · show buffer.queuedBytes - byteCount = next.pending.length
        rw [hnext, List.length_append, List.length_drop]
        omega
      · show buffer.queuedBytes - byteCount ≤ buffer.hardLimit
        omega
  split at h
  · cases h
    obtain ⟨hsplit, hexact⟩ := hkey
      ({ frame with offset := frame.offset + byteCount, unsent := by assumption } :: rest)
      (by simp [PendingFrame.rest, List.drop_drop])
    exact ⟨by omega, hsplit, rfl, hexact⟩
  · next hdone =>
    cases h
    obtain ⟨hsplit, hexact⟩ := hkey rest (by
      rw [List.drop_eq_nil_of_le, List.nil_append]
      rw [frame.length_rest]
      omega)
    exact ⟨by omega, hsplit, rfl, hexact⟩

end WriteBuffer

/-! ## Slots -/

inductive ConnectionState where
  | opened | closing
deriving DecidableEq, Repr

/-- What the poller watches a descriptor for. -/
structure PollInterest where
  read : Bool
  write : Bool
deriving DecidableEq, Repr

structure ConnectionLimits where
  maxReadBufferBytes : Nat
  writeSoftWatermarkBytes : Nat
  writeHardLimitBytes : Nat
  readable : 0 < maxReadBufferBytes
  soft : 0 < writeSoftWatermarkBytes
  ordered : writeSoftWatermarkBytes ≤ writeHardLimitBytes

/-- A connection, with the interest its descriptor is registered with. -/
structure ConnectionSlot where
  reference : ConnectionRef
  state : ConnectionState := .opened
  closeReason : CloseReason := .shutdown
  readQueued : Bool := false
  writeQueued : Bool := false
  waitingEpollout : Bool := false
  decoder : FrameDecoder := .initial
  writeBuffer : WriteBuffer
  interest : PollInterest := { read := true, write := false }

namespace ConnectionSlot

/-- The slot of an accepted client. -/
def create (reference : ConnectionRef) (limits : ConnectionLimits) : ConnectionSlot where
  reference := reference
  writeBuffer :=
    { softWatermark := limits.writeSoftWatermarkBytes
      hardLimit := limits.writeHardLimitBytes }

def handle (slot : ConnectionSlot) : ConnectionHandle where
  id := slot.reference.id
  generation := slot.reference.generation

def isOpen (slot : ConnectionSlot) : Bool := slot.state = .opened

def isClosing (slot : ConnectionSlot) : Bool := slot.state = .closing

def beginClosing (slot : ConnectionSlot) (reason : CloseReason) : ConnectionSlot :=
  { slot with state := .closing, closeReason := reason, decoder := slot.decoder.reset }

def appendFrame (slot : ConnectionSlot) (frame : Frame) (critical : Bool) :
    SendResult × ConnectionSlot :=
  if slot.isClosing then (.closing, slot)
  else
    let (result, writeBuffer) := slot.writeBuffer.append frame critical
    (result, { slot with writeBuffer := writeBuffer })

def hasPendingWrite (slot : ConnectionSlot) : Bool := !slot.writeBuffer.empty

end ConnectionSlot

/-! ## Work queues -/

structure ConnectionWorkQueue where
  capacity : Nat
  items : List ConnectionHandle := []
  fits : items.length ≤ capacity

namespace ConnectionWorkQueue

def tryPush (queue : ConnectionWorkQueue) (handle : ConnectionHandle) :
    Option ConnectionWorkQueue :=
  if h : queue.items.length = queue.capacity then none
  else
    some
      { queue with
        items := queue.items ++ [handle]
        fits := by
          have := queue.fits
          rw [List.length_append, List.length_singleton]
          omega }

def tryPop (queue : ConnectionWorkQueue) : Option (ConnectionHandle × ConnectionWorkQueue) :=
  match h : queue.items with
  | [] => none
  | handle :: rest =>
    some (handle,
      { queue with
        items := rest
        fits := by
          have := queue.fits
          rw [h, List.length_cons] at this
          omega })

def clear (queue : ConnectionWorkQueue) : ConnectionWorkQueue :=
  { queue with items := [], fits := Nat.zero_le _ }

theorem tryPush_spec {queue queue' : ConnectionWorkQueue} {handle : ConnectionHandle}
    (h : queue.tryPush handle = some queue') :
    queue'.items = queue.items ++ [handle] ∧ queue'.capacity = queue.capacity := by
  unfold tryPush at h
  split at h
  · cases h
  · cases h
    exact ⟨rfl, rfl⟩

theorem tryPush_none {queue : ConnectionWorkQueue} {handle : ConnectionHandle}
    (h : queue.tryPush handle = none) : queue.items.length = queue.capacity := by
  unfold tryPush at h
  split at h
  · assumption
  · cases h

theorem tryPop_spec {queue queue' : ConnectionWorkQueue} {handle : ConnectionHandle}
    (h : queue.tryPop = some (handle, queue')) :
    queue.items = handle :: queue'.items ∧ queue'.capacity = queue.capacity := by
  unfold tryPop at h
  split at h
  · cases h
  · next hitems =>
    cases h
    exact ⟨hitems, rfl⟩

end ConnectionWorkQueue

/-! ## The table -/

structure ConnectionTable where
  capacity : Nat
  limits : ConnectionLimits
  slots : AList fun _ : Nat => ConnectionSlot := ∅
  lastGeneration : ConnectionGeneration := 0

namespace ConnectionTable

/-- The connection at the slot of the handle, if its generation is the handle's. -/
def find (table : ConnectionTable) (handle : ConnectionHandle) : Option ConnectionSlot :=
  (table.slots.lookup handle.id).filter (·.handle = handle)

def activeCount (table : ConnectionTable) : Nat := table.slots.entries.length

def hasCapacity (table : ConnectionTable) : Bool := table.activeCount < table.capacity

def activeHandles (table : ConnectionTable) : List ConnectionHandle :=
  table.slots.entries.map (·.2.handle)

/-- The connection is replaced in its slot. -/
def update (table : ConnectionTable) (slot : ConnectionSlot) : ConnectionTable :=
  { table with slots := table.slots.insert slot.reference.id slot }

def modify (table : ConnectionTable) (handle : ConnectionHandle)
    (f : ConnectionSlot → ConnectionSlot) : ConnectionTable :=
  match table.find handle with
  | none => table
  | some slot => table.update (f slot)

def release (table : ConnectionTable) (handle : ConnectionHandle) : ConnectionTable :=
  if (table.find handle).isSome then { table with slots := table.slots.erase handle.id }
  else table

def freeIndex (table : ConnectionTable) : Option Nat :=
  (List.range table.capacity).find? (· ∉ table.slots.keys)

/-- A new connection in the first free slot, reserved and committed. -/
def tryReserve (table : ConnectionTable) (owner : WorkerId) : Option ConnectionTable :=
  if !table.hasCapacity then none
  else
    match table.freeIndex with
    | none => none
    | some index =>
      let slot := ConnectionSlot.create
        { id := index, generation := table.lastGeneration + 1, owner := owner } table.limits
      some { table.update slot with lastGeneration := table.lastGeneration + 1 }

/-! ### What is found -/

variable {table table' : ConnectionTable} {handle other : ConnectionHandle}
  {slot slot' : ConnectionSlot}

theorem find_eq_some :
    table.find handle = some slot ↔ table.slots.lookup handle.id = some slot ∧ slot.handle = handle := by
  unfold find
  rw [Option.filter_eq_some_iff]
  simp

theorem handle_of_find (h : table.find handle = some slot) : slot.handle = handle :=
  (find_eq_some.1 h).2

theorem lookup_of_find (h : table.find handle = some slot) :
    table.slots.lookup handle.id = some slot :=
  (find_eq_some.1 h).1

/-- The slot of a connection holds no other. -/
theorem find_eq_none_of_ne (h : table.find handle = some slot) (hid : other.id = handle.id)
    (hne : other ≠ handle) : table.find other = none := by
  rw [← Option.not_isSome_iff_eq_none]
  intro hsome
  obtain ⟨found, hfound⟩ := Option.isSome_iff_exists.1 hsome
  have hlookup := lookup_of_find hfound
  rw [hid, lookup_of_find h, Option.some.injEq] at hlookup
  rw [← hlookup] at hfound
  exact hne ((handle_of_find hfound).symm.trans (handle_of_find h))

/-- A slot that holds no other connection is found by its own handle and changes nothing for
the others. -/
theorem find_update_of_alone
    (halone : ∀ other, other.id = slot.handle.id → other ≠ slot.handle → table.find other = none)
    (other : ConnectionHandle) :
    (table.update slot).find other = if other = slot.handle then some slot else table.find other := by
  unfold update find
  dsimp only
  by_cases hid : other.id = slot.handle.id
  · have hlookup : (table.slots.insert slot.reference.id slot).lookup other.id = some slot := by
      rw [hid]
      exact AList.lookup_insert _
    rw [hlookup, Option.filter_some]
    by_cases heq : other = slot.handle
    · rw [if_pos heq, if_pos (by simpa using heq.symm)]
    · rw [if_neg heq, if_neg (by simpa using Ne.symm heq)]
      exact (halone other hid heq).symm
  · have hne : other.id ≠ slot.reference.id := hid
    rw [if_neg (fun heq => hid (congrArg ConnectionHandle.id heq)), AList.lookup_insert_ne hne]

theorem find_update (h : table.find handle = some slot) (hslot : slot'.handle = handle)
    (other : ConnectionHandle) :
    (table.update slot').find other = if other = handle then some slot' else table.find other := by
  subst hslot
  exact find_update_of_alone (fun _ hid hne => find_eq_none_of_ne h hid hne) other

theorem find_release (table : ConnectionTable) (handle other : ConnectionHandle) :
    (table.release handle).find other = if other = handle then none else table.find other := by
  unfold release
  split
  · next hsome =>
    obtain ⟨slot, hslot⟩ := Option.isSome_iff_exists.1 hsome
    by_cases hid : other.id = handle.id
    · have herased : find { table with slots := table.slots.erase handle.id } other = none := by
        unfold find
        dsimp only
        rw [hid, AList.lookup_erase]
        rfl
      rw [herased]
      split
      · rfl
      · next hne => exact (find_eq_none_of_ne hslot hid hne).symm
    · rw [if_neg (fun heq => hid (congrArg ConnectionHandle.id heq))]
      unfold find
      dsimp only
      rw [AList.lookup_erase_ne hid]
  · next hnone =>
    split
    · next heq => rw [heq, Option.not_isSome_iff_eq_none.1 hnone]
    · rfl

theorem release_capacity (table : ConnectionTable) (handle : ConnectionHandle) :
    (table.release handle).capacity = table.capacity := by
  unfold release
  split <;> rfl

theorem release_limits (table : ConnectionTable) (handle : ConnectionHandle) :
    (table.release handle).limits = table.limits := by
  unfold release
  split <;> rfl

theorem release_lastGeneration (table : ConnectionTable) (handle : ConnectionHandle) :
    (table.release handle).lastGeneration = table.lastGeneration := by
  unfold release
  split <;> rfl

theorem activeCount_update (h : table.find handle = some slot) (hslot : slot'.handle = handle) :
    (table.update slot').activeCount = table.activeCount := by
  have hid : slot'.reference.id = handle.id := congrArg ConnectionHandle.id hslot
  unfold activeCount update
  dsimp only
  rw [hid]
  exact Lib.length_insert_of_lookup (lookup_of_find h) slot'

theorem activeCount_release (h : table.find handle = some slot) :
    (table.release handle).activeCount + 1 = table.activeCount := by
  unfold activeCount release
  rw [if_pos (by rw [h]; rfl)]
  exact Lib.length_erase_of_lookup (lookup_of_find h)

section

variable {f : ConnectionSlot → ConnectionSlot}

theorem find_modify (hf : ∀ slot, (f slot).handle = slot.handle) (table : ConnectionTable)
    (handle other : ConnectionHandle) :
    (table.modify handle f).find other =
      if other = handle then (table.find other).map f else table.find other := by
  unfold modify
  split
  · next hnone =>
    split
    · next heq => rw [heq, hnone]; rfl
    · rfl
  · next slot hslot =>
    rw [find_update hslot ((hf slot).trans (handle_of_find hslot))]
    split
    · next heq => rw [heq, hslot]; rfl
    · rfl

/-- The loops of the shutdown change each listed connection once. -/
theorem find_foldl_modify (hf : ∀ slot, (f slot).handle = slot.handle)
    (hagain : ∀ slot, f (f slot) = f slot) (handles : List ConnectionHandle)
    (table : ConnectionTable) (other : ConnectionHandle) :
    (handles.foldl (fun table handle => table.modify handle f) table).find other =
      if other ∈ handles then (table.find other).map f else table.find other := by
  induction handles generalizing table with
  | nil => rfl
  | cons handle handles ih =>
    rw [List.foldl_cons, ih, find_modify hf]
    by_cases heq : other = handle
    · subst heq
      have htwice : ((table.find other).map f).map f = (table.find other).map f := by
        cases table.find other with
        | none => rfl
        | some slot => exact congrArg some (hagain slot)
      rw [if_pos rfl, if_pos List.mem_cons_self, htwice, ite_self]
    · rw [if_neg heq]
      simp only [List.mem_cons, heq, false_or]

theorem modify_fields (hf : ∀ slot, (f slot).handle = slot.handle) (table : ConnectionTable)
    (handle : ConnectionHandle) :
    (table.modify handle f).activeCount = table.activeCount ∧
      (table.modify handle f).capacity = table.capacity ∧
      (table.modify handle f).limits = table.limits ∧
      (table.modify handle f).lastGeneration = table.lastGeneration := by
  unfold modify
  split
  · exact ⟨rfl, rfl, rfl, rfl⟩
  · next slot hslot =>
    exact ⟨activeCount_update hslot ((hf slot).trans (handle_of_find hslot)), rfl, rfl, rfl⟩

theorem foldl_modify_fields (hf : ∀ slot, (f slot).handle = slot.handle)
    (handles : List ConnectionHandle) (table : ConnectionTable) :
    let table' := handles.foldl (fun table handle => table.modify handle f) table
    table'.activeCount = table.activeCount ∧ table'.capacity = table.capacity ∧
      table'.limits = table.limits ∧ table'.lastGeneration = table.lastGeneration := by
  induction handles generalizing table with
  | nil => exact ⟨rfl, rfl, rfl, rfl⟩
  | cons handle handles ih =>
    obtain ⟨hcount, hcapacity, hlimits, hlast⟩ := modify_fields hf table handle
    obtain ⟨hcount', hcapacity', hlimits', hlast'⟩ := ih (table.modify handle f)
    exact ⟨hcount'.trans hcount, hcapacity'.trans hcapacity, hlimits'.trans hlimits,
      hlast'.trans hlast⟩

end

theorem mem_activeHandles (h : table.find handle = some slot) : handle ∈ table.activeHandles := by
  refine List.mem_map.2 ⟨⟨handle.id, slot⟩, ?_, handle_of_find h⟩
  exact AList.mem_lookup_iff.1 (lookup_of_find h)

/-- What reserving a slot leaves. -/
structure Reserved (table table' : ConnectionTable) (slot : ConnectionSlot) : Prop where
  created : ∃ reference, slot = .create reference table.limits ∧
    reference.generation = table.lastGeneration + 1
  found : ∀ handle, table'.find handle =
    if handle = slot.handle then some slot else table.find handle
  generation : table'.lastGeneration = table.lastGeneration + 1
  capacity : table'.capacity = table.capacity
  limits : table'.limits = table.limits
  count : table'.activeCount = table.activeCount + 1

theorem tryReserve_reserved {owner : WorkerId} (h : table.tryReserve owner = some table') :
    ∃ slot, Reserved table table' slot := by
  unfold tryReserve at h
  split at h
  · cases h
  split at h
  · cases h
  next index hindex =>
  cases h
  have hfree : table.slots.lookup index = none := by
    have hnot : index ∉ table.slots.keys := by simpa using List.find?_some hindex
    exact AList.lookup_eq_none.2 (fun hmem => hnot (AList.mem_keys.1 hmem))
  refine ⟨.create { id := index, generation := table.lastGeneration + 1, owner := owner }
    table.limits, ⟨_, rfl, rfl⟩, ?_, rfl, rfl, rfl, Lib.length_insert_of_none hfree _⟩
  refine find_update_of_alone ?_
  intro other hid _
  unfold find
  rw [hid]
  show (table.slots.lookup index).filter _ = none
  rw [hfree]
  rfl

end ConnectionTable

end Snf.Worker
