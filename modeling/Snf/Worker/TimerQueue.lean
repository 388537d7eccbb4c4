import Snf.Worker.Identity

/-! # The timer queue

Entries and admission of `TimerQueue`. The heap is kept as a list: among the
entries of the smallest deadline a heap may deliver any, so `popDue` takes the
position of the entry that comes out and checks that no other is due earlier.

The source terminates the process when one of its accounting invariants is
broken; the model returns an error there.
-/

namespace Snf.Worker

inductive TimerPayload (μ : Type) where
  | awaitTimeout (key : AwaitKey)
  | connectionCloseDeadline (connection : ConnectionHandle)
  | applicationTimer (target : ActivationRef) (message : ActorEnvelope μ)
deriving DecidableEq

namespace TimerPayload

variable {μ : Type}

/-- The bytes that an application timer holds; the other payloads hold none. -/
def applicationBytes : TimerPayload μ → Nat
  | .applicationTimer _ message => message.chargedBytes
  | _ => 0

def isApplicationTimer : TimerPayload μ → Bool
  | .applicationTimer _ _ => true
  | _ => false

end TimerPayload

structure TimerEntry (μ : Type) where
  deadline : TimePoint
  payload : TimerPayload μ
deriving DecidableEq

/-- What became of an application timer. -/
inductive TimerOutcome where
  | delivered (now : TimePoint)
  | failed
  | stale
  | cancelled
deriving DecidableEq, Repr

inductive TimerEvent (μ : Type) where
  | scheduled (deadline : TimePoint) (target : ActivationRef) (message : ActorEnvelope μ)
  | ended (outcome : TimerOutcome) (target : ActivationRef) (message : ActorEnvelope μ)
deriving DecidableEq

/-- `history` is a record of what happened to application timers, the latest first. No
function reads it. -/
structure TimerQueue (μ : Type) where
  heap : List (TimerEntry μ) := []
  reservedEntries : Nat := 0
  reservedApplicationTimerEntries : Nat := 0
  maxApplicationTimerBytes : Nat := 64 * 1024 * 1024
  applicationTimerBytes : Nat := 0
  reservedApplicationTimerBytes : Nat := 0
  history : List (TimerEvent μ) := []
deriving DecidableEq

namespace TimerQueue

variable {μ : Type} {q q' : TimerQueue μ}

def capacity : Nat := 65536

def invariantViolated : String := "TimerQueue invariant violated"

def hasEntryCapacity (q : TimerQueue μ) : Bool :=
  q.reservedEntries < capacity && q.heap.length < capacity - q.reservedEntries

def hasApplicationByteCapacity (q : TimerQueue μ) (charge : Nat) : Bool :=
  q.applicationTimerBytes ≤ q.maxApplicationTimerBytes &&
    q.reservedApplicationTimerBytes ≤ q.maxApplicationTimerBytes - q.applicationTimerBytes &&
      charge ≤ q.maxApplicationTimerBytes - q.applicationTimerBytes -
        q.reservedApplicationTimerBytes

def hasCommittedApplicationByteCapacity (q : TimerQueue μ) (charge : Nat) : Bool :=
  q.applicationTimerBytes ≤ q.maxApplicationTimerBytes &&
    charge ≤ q.maxApplicationTimerBytes - q.applicationTimerBytes

/-- The record of an event. -/
def record (q : TimerQueue μ) (event : TimerEvent μ) : TimerQueue μ :=
  { q with history := event :: q.history }

def push (q : TimerQueue μ) (deadline : TimePoint) (payload : TimerPayload μ) : TimerQueue μ :=
  { q with
    heap := { deadline := deadline, payload := payload } :: q.heap
    applicationTimerBytes := q.applicationTimerBytes + payload.applicationBytes }

def trySchedule (q : TimerQueue μ) (deadline : TimePoint) (payload : TimerPayload μ) :
    Option (TimerQueue μ) :=
  if !q.hasEntryCapacity then none
  else if payload.isApplicationTimer && !q.hasApplicationByteCapacity payload.applicationBytes then
    none
  else some (q.push deadline payload)

def tryReserve (q : TimerQueue μ) : Option (TimerQueue μ) :=
  if q.hasEntryCapacity then some { q with reservedEntries := q.reservedEntries + 1 } else none

def releaseReservation (q : TimerQueue μ) : Except String (TimerQueue μ) :=
  if q.reservedEntries > 0 then .ok { q with reservedEntries := q.reservedEntries - 1 }
  else .error invariantViolated

def commitReserved (q : TimerQueue μ) (deadline : TimePoint) (payload : TimerPayload μ) :
    Except String (TimerQueue μ) :=
  if q.reservedEntries = 0 then .error invariantViolated
  else if payload.isApplicationTimer &&
      !q.hasCommittedApplicationByteCapacity payload.applicationBytes then
    .error invariantViolated
  else .ok ({ q with reservedEntries := q.reservedEntries - 1 }.push deadline payload)

def tryReserveApplicationTimer (q : TimerQueue μ) (chargedBytes : Nat) : Option (TimerQueue μ) :=
  if !q.hasEntryCapacity then none
  else if !q.hasApplicationByteCapacity chargedBytes then none
  else some { q with
    reservedEntries := q.reservedEntries + 1
    reservedApplicationTimerEntries := q.reservedApplicationTimerEntries + 1
    reservedApplicationTimerBytes := q.reservedApplicationTimerBytes + chargedBytes }

def releaseApplicationTimerReservation (q : TimerQueue μ) (chargedBytes : Nat) :
    Except String (TimerQueue μ) :=
  if q.reservedEntries > 0 && q.reservedApplicationTimerEntries > 0 &&
      q.reservedApplicationTimerBytes ≥ chargedBytes then
    .ok { q with
      reservedEntries := q.reservedEntries - 1
      reservedApplicationTimerEntries := q.reservedApplicationTimerEntries - 1
      reservedApplicationTimerBytes := q.reservedApplicationTimerBytes - chargedBytes }
  else .error invariantViolated

def commitReservedApplicationTimer (q : TimerQueue μ) (deadline : TimePoint)
    (target : ActivationRef) (message : ActorEnvelope μ) (chargedBytes : Nat) :
    Except String (TimerQueue μ) :=
  if q.reservedEntries > 0 && q.reservedApplicationTimerEntries > 0 &&
      q.reservedApplicationTimerBytes ≥ chargedBytes && message.chargedBytes = chargedBytes &&
      q.hasCommittedApplicationByteCapacity chargedBytes then
    .ok (({ q with
      reservedEntries := q.reservedEntries - 1
      reservedApplicationTimerEntries := q.reservedApplicationTimerEntries - 1
      reservedApplicationTimerBytes := q.reservedApplicationTimerBytes - chargedBytes }.push
        deadline (.applicationTimer target message)).record (.scheduled deadline target message))
  else .error invariantViolated

def tryScheduleApplicationTimer (q : TimerQueue μ) (deadline : TimePoint)
    (target : ActivationRef) (message : ActorEnvelope μ) : Option (TimerQueue μ) :=
  if !q.hasEntryCapacity then none
  else if !q.hasApplicationByteCapacity message.chargedBytes then none
  else some ((q.push deadline (.applicationTimer target message)).record
    (.scheduled deadline target message))

/-- The application timers of a list of entries, with the deadlines they wait for. -/
def applicationTimers (entries : List (TimerEntry μ)) :
    List (TimePoint × ActivationRef × ActorEnvelope μ) :=
  entries.filterMap fun entry =>
    match entry.payload with
    | .applicationTimer target message => some (entry.deadline, target, message)
    | _ => none

def cancelApplicationTimers (q : TimerQueue μ) : TimerQueue μ :=
  { q with
    heap := q.heap.filter fun e => !e.payload.isApplicationTimer
    history := (applicationTimers q.heap).map (fun timer => .ended .cancelled timer.2.1 timer.2.2) ++
      q.history
    applicationTimerBytes := q.applicationTimerBytes -
      ((q.heap.filter fun e => e.payload.isApplicationTimer).map
        fun e => e.payload.applicationBytes).sum }

/-- One round of the loop of `expire`: the entry at position `i` comes out of the
heap if it is due at `now` and no entry has an earlier deadline. -/
def popDue (q : TimerQueue μ) (now : TimePoint) (i : Nat) :
    Option (TimerEntry μ × TimerQueue μ) :=
  match q.heap[i]? with
  | none => none
  | some entry =>
    if entry.deadline ≤ now ∧ ∀ e ∈ q.heap, entry.deadline ≤ e.deadline then
      some (entry, { q with
        heap := q.heap.eraseIdx i
        applicationTimerBytes := q.applicationTimerBytes - entry.payload.applicationBytes })
    else none

/-! ## The entries after each operation -/

theorem heap_tryReserve (h : q.tryReserve = some q') : q'.heap = q.heap := by
  simp only [tryReserve] at h
  split at h <;> cases h
  rfl

theorem heap_releaseReservation (h : q.releaseReservation = .ok q') : q'.heap = q.heap := by
  simp only [releaseReservation] at h
  split at h <;> cases h
  rfl

theorem heap_commitReserved {deadline : TimePoint} {payload : TimerPayload μ}
    (h : q.commitReserved deadline payload = .ok q') :
    q'.heap = ⟨deadline, payload⟩ :: q.heap := by
  simp only [commitReserved] at h
  split at h
  · cases h
  · split at h <;> cases h
    rfl

end TimerQueue

end Snf.Worker
