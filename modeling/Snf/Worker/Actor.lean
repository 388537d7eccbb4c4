import Snf.Worker.DbClient
import Snf.Worker.TimerQueue

/-! # Actors as the worker sees them

The interface between a worker and the actors it runs: turns and the effects they
return, suspended turns, slots. The actors themselves are a parameter: an
`ActorModel` has the types of `ActorInstance`, of its messages and of its suspended
coroutines, and the functions of `ActorInstance` and `ActorFactory` on them. What
is proved about the worker holds for every `ActorModel`.
-/

namespace Snf.Worker

inductive ActorState where
  | idle | queued | running | suspended | loading | stopping
deriving DecidableEq, Repr

inductive DeliveryResult where
  | accepted | wrongOwner | actorTableFull | mailboxFull | constructionRejected | stopping
  | closed | activationLimit | remoteInboxFull
deriving DecidableEq, Repr

inductive CloseReason where
  | shutdown | protocolViolation | slowConsumer | peerClosed | timeout | ioError | overload
  | application
deriving DecidableEq, Repr

/-- The right to schedule one timer of the given charge, taken during a turn. -/
structure TimerReservation where
  chargedBytes : Nat
  turnId : Nat
deriving DecidableEq, Repr

inductive Effect (μ φ : Type) where
  | sendFrame (connection : ConnectionRef) (frame : φ) (critical : Bool)
  | closeConnection (connection : ConnectionRef) (reason : CloseReason) (graceful : Bool)
  | tellActor (target : ActorKey) (message : ActorEnvelope μ)
  | stopActor
  | scheduleTimer (deadline : TimePoint) (message : ActorEnvelope μ)
      (reservation : Option TimerReservation)
deriving DecidableEq

namespace Effect

variable {μ φ : Type}

def isStop : Effect μ φ → Bool
  | .stopActor => true
  | _ => false

def isScheduleTimer : Effect μ φ → Bool
  | .scheduleTimer _ _ _ => true
  | _ => false

/-- The charges of the timers that the effect holds a reservation for. -/
def reserved : Effect μ φ → List Nat
  | .scheduleTimer _ _ (some r) => [r.chargedBytes]
  | _ => []

end Effect

def maxEffects : Nat := 64

/-- What a turn may ask of its worker. `canReserve charges` is the answer of timer
admission to reservations of these charges, made one after the other. -/
structure ActorTurnContext where
  activation : ActivationRef
  now : TimePoint
  turnId : Nat
  canReserve : List Nat → Bool

inductive SyntheticAwaitOutcome where
  | completed | rejected | timedOut | cancelled
deriving DecidableEq, Repr

inductive SyntheticActivationOutcome where
  | ready | rejected | timedOut | cancelled
deriving DecidableEq, Repr

/-- A turn ends with its effects or with a coroutine that waits. -/
inductive TurnResult (μ φ τ : Type) where
  | completed (effects : List (Effect μ φ))
  | suspended (task : τ)
deriving DecidableEq

inductive ActorConstructionResult (ι : Type) where
  | ready (actor : ι)
  | rejected
  | needsLoad
deriving DecidableEq

/-- `ActorInstance` and `ActorFactory`. A turn or a construction that throws is an
error; a suspended coroutine is a value of `Task` that is resumed with the result
of its await. -/
structure ActorModel where
  Instance : Type
  Message : Type
  Frame : Type
  Task : Type
  construct : ActorKey → Except String (ActorConstructionResult Instance)
  constructLoaded : ActorKey → LoadPlayerResult → Except String (ActorConstructionResult Instance)
  dispatch : Instance → ActorEnvelope Message → ActorTurnContext →
    Except String (Instance × TurnResult Message Frame Task)
  lifecycleTurn : Instance → ActorTurnContext → Bool →
    Except String (Instance × TurnResult Message Frame Task)
  /-- What a task that waits on a `DbAwait` asks for. -/
  dbRequest : Task → Option DbRequest
  resumeDb : Instance → Task → DbResult →
    Except String (Instance × TurnResult Message Frame Task)
  resumeSynthetic : Instance → Task → SyntheticAwaitOutcome →
    Except String (Instance × TurnResult Message Frame Task)
  lifecycleDeadline : Instance → Option TimePoint
  needsShutdownTurn : Instance → Bool
  shutdownPending : Instance → Bool

structure SuspendedCommand (τ ρ : Type) where
  key : AwaitKey
  deadline : TimePoint
  task : τ
  completion : Option ρ := none
deriving DecidableEq

structure ActivationLoad where
  key : AwaitKey
  deadline : TimePoint
deriving DecidableEq, Repr

inductive BlockedTask (τ : Type) where
  | synthetic (command : SuspendedCommand τ SyntheticAwaitOutcome)
  | db (command : SuspendedCommand τ DbResult)
  | activationLoad (load : ActivationLoad)
deriving DecidableEq

structure ActorSlot (A : ActorModel) where
  incarnation : ActorIncarnation
  state : ActorState := .idle
  lifecycleArmed : Bool := false
  inst : Option A.Instance := none
  blocked : Option (BlockedTask A.Task) := none
  mailbox : List (ActorEnvelope A.Message) := []

namespace ActorSlot

variable {A : ActorModel}

def mailboxBytes (slot : ActorSlot A) : Nat := (slot.mailbox.map (·.chargedBytes)).sum

end ActorSlot

structure WorkerActorConfig where
  actorTableCapacity : Nat := 16384
  maxMailboxMessagesPerActor : Nat := 1024
  maxMailboxBytesPerActor : Nat := 4 * 1024 * 1024
  maxMailboxMessagesTotal : Nat := 65536
  maxMailboxBytesTotal : Nat := 64 * 1024 * 1024
  maxTurnsPerActorSlice : Nat := 30
  awaitTimeout : Nat := 2000
  maxConcurrentLoading : Nat := 1024
  maxApplicationTimerBytesTotal : Nat := 64 * 1024 * 1024
  /-- The keys that placement assigns to this worker. -/
  owns : ActorKey → Bool := fun _ => true

/-- What `configureActors` asks of its configuration. -/
def WorkerActorConfig.isValid (config : WorkerActorConfig) : Bool :=
  config.actorTableCapacity > 0 && config.maxMailboxMessagesPerActor > 0 &&
    config.maxMailboxBytesPerActor > 0 &&
    config.maxMailboxMessagesTotal ≥ config.maxMailboxMessagesPerActor &&
    config.maxMailboxBytesTotal ≥ config.maxMailboxBytesPerActor &&
    config.maxTurnsPerActorSlice > 0 && config.awaitTimeout > 0 &&
    config.maxConcurrentLoading > 0 && config.maxApplicationTimerBytesTotal > 0

end Snf.Worker
