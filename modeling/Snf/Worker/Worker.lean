import Snf.Worker.Actor
import Snf.Lib.Machine
import Snf.Lib.Map

/-! # The worker

The actor side of `Worker`: the actor table with its mailboxes and totals, the
ready queue, delivery and activation, turns and their effects, suspended turns and
what completes them, and the shutdown phases. Turns run the functions of an
`ActorModel`. The network side is left out: frames and closes leave the worker, and
what comes back is a delivery.

The clock readings that the source takes on the way, and the points where a time or
count budget stops a loop, are arguments: the environment chooses them. Nothing
below depends on the readings growing.

A thrown exception leaves the worker loop, so it ends the run: the functions return
an error and the step of the machine is not enabled.
-/

namespace Snf.Worker

open Snf.Lib

/-- Where the loop stands between two of the phases that touch actors. Polling,
inbox and writes are one phase here: all they do to actors is to deliver. -/
inductive LoopPhase where
  | inbox | timers | db | actors
deriving DecidableEq, Repr

inductive WorkerStage where
  | running | phaseB | phaseC | phaseD | dbShutdown | stopped
deriving DecidableEq, Repr

/-- What happened to messages and awaits. A completion is recorded with the number of
the next turn, a resumption with the number of its own turn. -/
inductive WorkerEvent (μ : Type) where
  | accepted (target : ActivationRef) (message : ActorEnvelope μ)
  | dispatched (target : ActivationRef) (message : ActorEnvelope μ)
  | discarded (target : ActivationRef) (messages : List (ActorEnvelope μ))
  | completed (key : AwaitKey) (nextTurn : Nat)
  | resumed (key : AwaitKey) (turnId : Nat)
  | loadFailed (target : ActivationRef)

/-- `stopped` is a record of the activations whose turn completed with a
`StopActorEffect`, `history` a record of events, the latest first. No function reads
them. -/
structure WorkerState (A : ActorModel) where
  actors : AList (fun _ : ActorKey => ActorSlot A) := ∅
  nextIncarnation : ActorIncarnation := 1
  nextOperation : OperationId := 1
  nextTurn : Nat := 1
  readyQueue : List ActivationRef := []
  lifecycleArmed : List ActivationRef := []
  totalMailboxMessages : Nat := 0
  totalMailboxBytes : Nat := 0
  loadingCount : Nat := 0
  timers : TimerQueue A.Message := {}
  db : Option DbClient := none
  shuttingDown : Bool := false
  networkStopping : Bool := false
  stopRequested : Bool := false
  logicalCancelPerformed : Bool := false
  stage : WorkerStage := .running
  phase : LoopPhase := .inbox
  now : TimePoint := 0
  stopped : List ActivationRef := []
  history : List (WorkerEvent A.Message) := []

def exceedsByteLimit (current addition limit : Nat) : Bool :=
  addition > limit || current > limit - addition

namespace WorkerState

variable {A : ActorModel} (config : WorkerActorConfig)

/-- The record of an event. -/
def record (w : WorkerState A) (event : WorkerEvent A.Message) : WorkerState A :=
  { w with history := event :: w.history }

/-- The record of an accepted completion. -/
def complete (w : WorkerState A) (key : AwaitKey) : WorkerState A :=
  w.record (.completed key w.nextTurn)

/-! ## Table and ready queue -/

def find (w : WorkerState A) (handle : ActivationRef) : Option (ActorSlot A) :=
  (w.actors.lookup handle.actor).filter fun slot => slot.incarnation = handle.incarnation

def setSlot (w : WorkerState A) (key : ActorKey) (slot : ActorSlot A) : WorkerState A :=
  { w with actors := w.actors.insert key slot }

def hasCapacity (w : WorkerState A) : Bool := w.actors.entries.length < config.actorTableCapacity

def queueFull : String := "ReadyActorQueue invariant violation: queue is full"

def pushReady (w : WorkerState A) (handle : ActivationRef) : Except String (WorkerState A) :=
  if w.readyQueue.length ≥ config.actorTableCapacity then
    .error queueFull
  else .ok { w with readyQueue := w.readyQueue ++ [handle] }

/-- The slot becomes Queued and its handle enters the ready queue. -/
def enqueue (w : WorkerState A) (key : ActorKey) (slot : ActorSlot A) :
    Except String (WorkerState A) :=
  (w.setSlot key { slot with state := .queued }).pushReady config ⟨key, slot.incarnation⟩

/-- How a turn leaves an actor that neither stopped nor suspended. -/
def settle (w : WorkerState A) (handle : ActivationRef) : Except String (WorkerState A) :=
  match w.find handle with
  | none => .ok w
  | some slot =>
    if slot.mailbox.isEmpty then .ok (w.setSlot handle.actor { slot with state := .idle })
    else w.enqueue config handle.actor slot

/-- Release of the slot: the blocked task, the mailbox and the instance go with it. -/
def removeActor (w : WorkerState A) (handle : ActivationRef) : WorkerState A :=
  match w.find handle with
  | none => w
  | some slot =>
    { w with
      loadingCount := if slot.state = .loading then w.loadingCount - 1 else w.loadingCount
      lifecycleArmed :=
        if slot.lifecycleArmed then w.lifecycleArmed.filter (· ≠ handle) else w.lifecycleArmed
      totalMailboxMessages := w.totalMailboxMessages - slot.mailbox.length
      totalMailboxBytes := w.totalMailboxBytes - slot.mailboxBytes
      actors := w.actors.erase handle.actor
      history := .discarded handle slot.mailbox :: w.history }

def refreshLifecycleArm (w : WorkerState A) (handle : ActivationRef) : WorkerState A :=
  match w.find handle with
  | none => w
  | some slot =>
    let armed := slot.inst.any fun inst =>
      (A.lifecycleDeadline inst).isSome ||
        (w.shuttingDown && (A.needsShutdownTurn inst || A.shutdownPending inst))
    if armed = slot.lifecycleArmed then w
    else
      { w.setSlot handle.actor { slot with lifecycleArmed := armed } with
        lifecycleArmed :=
          if armed then w.lifecycleArmed ++ [handle]
          else w.lifecycleArmed.filter (· ≠ handle) }

/-! ## Delivery and activation -/

def overMailboxLimits (w : WorkerState A) (slot : ActorSlot A) (charge : Nat) : Bool :=
  slot.mailbox.length ≥ config.maxMailboxMessagesPerActor ||
    exceedsByteLimit slot.mailboxBytes charge config.maxMailboxBytesPerActor ||
    w.totalMailboxMessages ≥ config.maxMailboxMessagesTotal ||
    exceedsByteLimit w.totalMailboxBytes charge config.maxMailboxBytesTotal

/-- The limits that the first message of an activation meets. -/
def overActivationLimits (w : WorkerState A) (charge : Nat) : Bool :=
  charge > config.maxMailboxBytesPerActor ||
    w.totalMailboxMessages ≥ config.maxMailboxMessagesTotal ||
    exceedsByteLimit w.totalMailboxBytes charge config.maxMailboxBytesTotal

def chargeMailbox (w : WorkerState A) (target : ActivationRef)
    (envelope : ActorEnvelope A.Message) : WorkerState A :=
  { w with
    totalMailboxMessages := w.totalMailboxMessages + 1
    totalMailboxBytes := w.totalMailboxBytes + envelope.chargedBytes
    history := .accepted target envelope :: w.history }

def pushMailbox (w : WorkerState A) (key : ActorKey) (slot : ActorSlot A)
    (envelope : ActorEnvelope A.Message) : Except String (WorkerState A) :=
  let slot := { slot with mailbox := slot.mailbox ++ [envelope] }
  let w := w.chargeMailbox ⟨key, slot.incarnation⟩ envelope
  if slot.state = .idle then w.enqueue config key slot else .ok (w.setSlot key slot)

/-- Delivery to an actor that is in the table. -/
def deliverToSlot (w : WorkerState A) (key : ActorKey) (slot : ActorSlot A)
    (envelope : ActorEnvelope A.Message) : Except String (WorkerState A × DeliveryResult) :=
  if slot.state = .stopping then .ok (w, .stopping)
  else if w.overMailboxLimits config slot envelope.chargedBytes then .ok (w, .mailboxFull)
  else do
    let w ← w.pushMailbox config key slot envelope
    .ok (w, .accepted)

/-- The incarnation that a table reservation takes. A rolled back reservation does
not give it back. -/
def takeIncarnation (w : WorkerState A) : ActorIncarnation × WorkerState A :=
  (w.nextIncarnation, { w with nextIncarnation := w.nextIncarnation + 1 })

def takeOperation (w : WorkerState A) : OperationId × WorkerState A :=
  (w.nextOperation, { w with nextOperation := w.nextOperation + 1 })

/-- The load request of an activation, for a Player when there is a database. -/
def startLoad (w : WorkerState A) (key : AwaitKey) (deadline : TimePoint) :
    DbSubmitStatus × WorkerState A :=
  match w.db with
  | some db =>
    if key.actor.kind = .player then
      let (status, db) := db.tryStart key (.loadPlayer key.actor.entity) deadline
      (status, { w with db := some db })
    else (.pending, w)
  | none => (.pending, w)

def beginActivationLoad (w : WorkerState A) (key : ActorKey) (envelope : ActorEnvelope A.Message)
    (clock : TimePoint) : Except String (WorkerState A × DeliveryResult) :=
  if w.shuttingDown then .ok (w, .closed)
  else if !w.hasCapacity config then .ok (w, .actorTableFull)
  else if w.loadingCount ≥ config.maxConcurrentLoading then .ok (w, .activationLimit)
  else if w.overActivationLimits config envelope.chargedBytes then .ok (w, .mailboxFull)
  else
    match w.timers.tryReserve with
    | none => .ok (w, .activationLimit)
    | some timers => do
      let w := { w with timers := timers }
      let (incarnation, w) := w.takeIncarnation
      let (operation, w) := w.takeOperation
      let awaitKey : AwaitKey := ⟨key, incarnation, operation⟩
      let deadline := clock + config.awaitTimeout
      match w.startLoad awaitKey deadline with
      | (.rejected, w) =>
        let timers ← w.timers.releaseReservation
        .ok ({ w with timers := timers }, .activationLimit)
      | (.pending, w) =>
        let timers ← w.timers.commitReserved deadline (.awaitTimeout awaitKey)
        let w := { w.chargeMailbox awaitKey.activation envelope with
          timers := timers, loadingCount := w.loadingCount + 1 }
        .ok (w.setSlot key
          { incarnation := incarnation, state := .loading, mailbox := [envelope]
            blocked := some (.activationLoad { key := awaitKey, deadline := deadline }) },
          .accepted)

/-- Delivery to a key without a slot. -/
def activate (w : WorkerState A) (key : ActorKey) (envelope : ActorEnvelope A.Message)
    (clock : TimePoint) : Except String (WorkerState A × DeliveryResult) :=
  if !w.hasCapacity config then .ok (w, .actorTableFull)
  else if w.overActivationLimits config envelope.chargedBytes then .ok (w, .mailboxFull)
  else do
    let (incarnation, w) := w.takeIncarnation
    match ← A.construct key with
    | .rejected => .ok (w, .constructionRejected)
    | .needsLoad => w.beginActivationLoad config key envelope clock
    | .ready actor =>
      let w ← (w.chargeMailbox ⟨key, incarnation⟩ envelope).enqueue config key
        { incarnation := incarnation, inst := some actor, mailbox := [envelope] }
      .ok (w, .accepted)

def tryDeliverLocalInternal (w : WorkerState A) (key : ActorKey)
    (envelope : ActorEnvelope A.Message) (clock : TimePoint) :
    Except String (WorkerState A × DeliveryResult) :=
  if !config.owns key then .ok (w, .wrongOwner)
  else
    match w.actors.lookup key with
    | some slot => w.deliverToSlot config key slot envelope
    | none => w.activate config key envelope clock

/-- `tellInternal` with `allow_quiescing`. A tell to another worker's actor leaves
through that worker's inbox. -/
def tellInternal (w : WorkerState A) (key : ActorKey) (envelope : ActorEnvelope A.Message)
    (clock : TimePoint) : Except String (WorkerState A × DeliveryResult) :=
  if config.owns key then w.tryDeliverLocalInternal config key envelope clock
  else .ok (w, .accepted)

def tell (w : WorkerState A) (key : ActorKey) (envelope : ActorEnvelope A.Message)
    (clock : TimePoint) : Except String (WorkerState A × DeliveryResult) :=
  if w.shuttingDown || w.stopRequested then .ok (w, .closed)
  else w.tellInternal config key envelope clock

/-- A close notice never activates an actor. -/
def deliverActorConnectionClosedLocally (w : WorkerState A) (key : ActorKey)
    (envelope : ActorEnvelope A.Message) : Except String (WorkerState A × DeliveryResult) :=
  if !config.owns key then .ok (w, .wrongOwner)
  else
    match w.actors.lookup key with
    | some slot => w.deliverToSlot config key slot envelope
    | none => .ok (w, .accepted)

/-! ## Effects of a turn -/

/-- The answer of timer admission during a turn. -/
def canReserve (w : WorkerState A) (charges : List Nat) : Bool :=
  !(w.shuttingDown || w.networkStopping) &&
    (charges.foldlM TimerQueue.tryReserveApplicationTimer w.timers).isSome

/-- The reservations that a finished turn holds, taken from the timer queue. -/
def holdReservations (w : WorkerState A) (effects : List (Effect A.Message A.Frame)) :
    Except String (WorkerState A) :=
  let charges := (effects.map Effect.reserved).flatten
  if charges.isEmpty then .ok w
  else if w.shuttingDown || w.networkStopping then .error "TimerReservation is invalid"
  else
    match charges.foldlM TimerQueue.tryReserveApplicationTimer w.timers with
    | none => .error "TimerReservation is invalid"
    | some timers => .ok { w with timers := timers }

/-- The reservations of effects that are not applied go back. -/
def releaseReservations (w : WorkerState A) (effects : List (Effect A.Message A.Frame)) :
    Except String (WorkerState A) := do
  let timers ← ((effects.map Effect.reserved).flatten).foldlM
    TimerQueue.releaseApplicationTimerReservation w.timers
  .ok { w with timers := timers }

def checkReservation (turnId : Nat) : Effect A.Message A.Frame → Except String Unit
  | .scheduleTimer _ message (some reservation) =>
    if reservation.chargedBytes ≠ message.chargedBytes then
      .error "TimerReservation charged bytes does not match message charged bytes"
    else if turnId = 0 ∨ reservation.turnId ≠ turnId then
      .error "TimerReservation does not belong to the current Actor turn"
    else .ok ()
  | _ => .ok ()

def setState (w : WorkerState A) (handle : ActivationRef) (state : ActorState) : WorkerState A :=
  match w.find handle with
  | none => w
  | some slot => w.setSlot handle.actor { slot with state := state }

/-- The effects in order, with the `stopped` flag. A timer that cannot be scheduled
ends the batch. -/
def applyEffects (handle : ActivationRef) (clock : TimePoint) :
    WorkerState A → Bool → List (Effect A.Message A.Frame) → Except String (WorkerState A × Bool)
  | w, stopped, [] => .ok (w, stopped)
  | w, stopped, .sendFrame _ _ _ :: rest => applyEffects handle clock w stopped rest
  | w, stopped, .closeConnection _ _ _ :: rest => applyEffects handle clock w stopped rest
  | w, stopped, .tellActor target message :: rest => do
    let (w, _) ← w.tellInternal config target message clock
    applyEffects handle clock w stopped rest
  | w, _, .stopActor :: rest =>
    applyEffects handle clock
      { w.setState handle .stopping with stopped := w.stopped ++ [handle] } true rest
  | w, stopped, .scheduleTimer deadline message (some reservation) :: rest => do
    let timers ← w.timers.commitReservedApplicationTimer deadline handle message
      reservation.chargedBytes
    applyEffects handle clock { w with timers := timers } stopped rest
  | w, stopped, .scheduleTimer deadline message none :: rest =>
    if w.shuttingDown || w.networkStopping then do
      let w ← w.releaseReservations rest
      .ok (w, stopped)
    else
      match w.timers.tryScheduleApplicationTimer deadline handle message with
      | none => do
        let w ← w.releaseReservations rest
        .ok (w, stopped)
      | some timers => applyEffects handle clock { w with timers := timers } stopped rest

def applyEffectBatch (w : WorkerState A) (handle : ActivationRef)
    (effects : List (Effect A.Message A.Frame)) (turnId : Nat) (clock : TimePoint) :
    Except String (WorkerState A × Bool) :=
  if effects.length > maxEffects then
    .error "EffectBatch capacity exceeded maximum limit of 64"
  else if effects.any Effect.isStop && effects.any Effect.isScheduleTimer then
    .error "StopActorEffect and ScheduleTimerEffect cannot coexist in the same EffectBatch"
  else do
    let w ← w.holdReservations effects
    effects.forM (checkReservation turnId)
    w.applyEffects config handle clock false effects

/-! ## Suspended turns -/

/-- The await is already completed: the actor is queued to be resumed. -/
def blockCompleted (w : WorkerState A) (awaitKey : AwaitKey) (slot : ActorSlot A)
    (blocked : BlockedTask A.Task) : Except String (WorkerState A) :=
  (w.complete awaitKey).enqueue config awaitKey.actor { slot with blocked := some blocked }

def overloaded (message : String) : DbResult :=
  .failure { kind := .overloaded, reachedServer := false, message := message }

/-- Submission of the request of a suspended turn. During shutdown only the save of
a lifecycle turn is submitted. -/
def submitRequest (w : WorkerState A) (key : AwaitKey) (request : DbRequest)
    (deadline : TimePoint) (finalSave : Bool) : Option DbResult × WorkerState A :=
  match w.db with
  | none => (some (overloaded "no database"), w)
  | some db =>
    if w.shuttingDown && !(finalSave && request.isSave) then
      (some (overloaded "no database"), w)
    else
      match db.tryStart key request deadline with
      | (.rejected, _) => (some (overloaded "db admission"), w)
      | (.pending, db) => (none, { w with db := some db })

/-- `none` when the task suspended without a request. -/
def suspendOnDbRequest (w : WorkerState A) (key : ActorKey) (slot : ActorSlot A) (task : A.Task)
    (finalSave : Bool) (clock : TimePoint) : Except String (Option (WorkerState A)) :=
  match A.dbRequest task with
  | none => .ok none
  | some request => do
    let (operation, w) := w.takeOperation
    let awaitKey : AwaitKey := ⟨key, slot.incarnation, operation⟩
    let deadline := clock + config.awaitTimeout
    match w.timers.tryReserve with
    | none =>
      let w ← w.blockCompleted config awaitKey slot
        (.db { key := awaitKey, deadline := deadline, task := task
               completion := some (overloaded "no timeout slot") })
      .ok (some w)
    | some timers =>
      match { w with timers := timers }.submitRequest awaitKey request deadline finalSave with
      | (some failure, w) =>
        let timers ← w.timers.releaseReservation
        let w ← { w with timers := timers }.blockCompleted config awaitKey slot
          (.db { key := awaitKey, deadline := deadline, task := task, completion := some failure })
        .ok (some w)
      | (none, w) =>
        let timers ← w.timers.commitReserved deadline (.awaitTimeout awaitKey)
        .ok (some ({ w with timers := timers }.setSlot key
          { slot with
            blocked := some (.db { key := awaitKey, deadline := deadline, task := task })
            state := .suspended }))

def suspendOnSyntheticAwait (w : WorkerState A) (key : ActorKey) (slot : ActorSlot A)
    (task : A.Task) (clock : TimePoint) : Except String (WorkerState A) := do
  let (operation, w) := w.takeOperation
  let awaitKey : AwaitKey := ⟨key, slot.incarnation, operation⟩
  let deadline := clock + config.awaitTimeout
  let command : SuspendedCommand A.Task SyntheticAwaitOutcome :=
    { key := awaitKey, deadline := deadline, task := task }
  if w.shuttingDown then
    w.blockCompleted config awaitKey slot (.synthetic { command with completion := some .cancelled })
  else
    match w.timers.tryReserve with
    | none =>
      w.blockCompleted config awaitKey slot (.synthetic { command with completion := some .rejected })
    | some timers =>
      let timers ← timers.commitReserved deadline (.awaitTimeout awaitKey)
      .ok ({ w with timers := timers }.setSlot key
        { slot with blocked := some (.synthetic command), state := .suspended })

/-! ## Running an actor -/

def beginTurn (w : WorkerState A) : Nat × WorkerState A :=
  (w.nextTurn, { w with nextTurn := w.nextTurn + 1 })

def notReady : String := "Queued actor is blocked without a ready completion"

def noInstance : String := "Actor slot has no instance"

/-- The turn of a DB continuation. A batch that stops the actor leaves through the
`continue` of the source: nothing is released. -/
def resumeDbCommand (w : WorkerState A) (handle : ActivationRef) (slot : ActorSlot A)
    (command : SuspendedCommand A.Task DbResult) (clock : TimePoint) :
    Except String (WorkerState A) :=
  match command.completion, slot.inst with
  | none, _ => .error notReady
  | some _, none => .error noInstance
  | some completion, some inst => do
    let (turnId, w) := w.beginTurn
    let w := w.record (.resumed command.key turnId)
    let (inst, result) ← A.resumeDb inst command.task completion
    let slot := { slot with blocked := none, state := .running, inst := some inst }
    match result with
    | .suspended task =>
      let w := w.setSlot handle.actor slot
      match ← w.suspendOnDbRequest config handle.actor slot task false clock with
      | some w => .ok w
      | none => .ok (w.removeActor handle)
    | .completed effects =>
      let (w, stopped) ← (w.setSlot handle.actor slot).applyEffectBatch config handle effects
        turnId clock
      if stopped then .ok w else w.settle config handle

def resumeSyntheticCommand (w : WorkerState A) (handle : ActivationRef) (slot : ActorSlot A)
    (command : SuspendedCommand A.Task SyntheticAwaitOutcome) (clock : TimePoint) :
    Except String (WorkerState A) :=
  match command.completion, slot.inst with
  | none, _ => .error notReady
  | some _, none => .error noInstance
  | some outcome, some inst => do
    let (turnId, w) := w.beginTurn
    let w := w.record (.resumed command.key turnId)
    let (inst, result) ← A.resumeSynthetic inst command.task outcome
    let slot := { slot with blocked := none, state := .running, inst := some inst }
    match result with
    | .suspended task =>
      (w.setSlot handle.actor slot).suspendOnSyntheticAwait config handle.actor slot task clock
    | .completed effects =>
      let (w, stopped) ← (w.setSlot handle.actor slot).applyEffectBatch config handle effects
        turnId clock
      if stopped then .ok (w.removeActor handle) else w.settle config handle

inductive SliceEnd where
  | stopped | suspended | yielded
deriving DecidableEq, Repr

/-- A lifecycle turn is due for the instance. -/
def lifecycleDue (w : WorkerState A) (inst : A.Instance) (clock : TimePoint) : Bool :=
  (w.shuttingDown && A.needsShutdownTurn inst) ||
    (A.lifecycleDeadline inst).any fun deadline => deadline ≤ clock

/-- The turn of the instance: a lifecycle turn if one is due, else the next message.
`none` when there is nothing to do. -/
def takeTurn (w : WorkerState A) (handle : ActivationRef) (slot : ActorSlot A)
    (inst : A.Instance) (turnId : Nat) (clock : TimePoint) :
    Except String (Option (WorkerState A × ActorSlot A × TurnResult A.Message A.Frame A.Task)) :=
  let context : ActorTurnContext :=
    { activation := handle, now := clock, turnId := turnId, canReserve := w.canReserve }
  if w.lifecycleDue inst clock then do
    let (inst, result) ← A.lifecycleTurn inst context w.shuttingDown
    .ok (some (w, { slot with inst := some inst }, result))
  else
    match slot.mailbox with
    | [] => .ok none
    | envelope :: mailbox => do
      let w := { w with
        totalMailboxMessages := w.totalMailboxMessages - 1
        totalMailboxBytes := w.totalMailboxBytes - envelope.chargedBytes
        history := .dispatched handle envelope :: w.history }
      let (inst, result) ← A.dispatch inst envelope context
      .ok (some (w, { slot with inst := some inst, mailbox := mailbox }, result))

/-- The turns of a slice, one for each clock reading, until the actor stops,
suspends or has nothing to do. The end of the list is the end of the budget. -/
def runTurns (handle : ActivationRef) :
    WorkerState A → List TimePoint → Except String (WorkerState A × SliceEnd)
  | w, [] => .ok (w, .yielded)
  | w, clock :: rest =>
    match w.find handle with
    | none => .error noInstance
    | some slot =>
      match slot.inst with
      | none => .error noInstance
      | some inst => do
        let final := w.lifecycleDue inst clock && w.shuttingDown
        let (turnId, w) := w.beginTurn
        match ← w.takeTurn handle slot inst turnId clock with
        | none => .ok (w, .yielded)
        | some (w, slot, .suspended task) =>
          let w := w.setSlot handle.actor slot
          if (A.dbRequest task).isSome then
            match ← w.suspendOnDbRequest config handle.actor slot task final clock with
            | some w => .ok (w, .suspended)
            | none => .ok (w.removeActor handle, .suspended)
          else do
            let w ← w.suspendOnSyntheticAwait config handle.actor slot task clock
            .ok (w, .suspended)
        | some (w, slot, .completed effects) =>
          let (w, stopped) ← (w.setSlot handle.actor slot).applyEffectBatch config handle effects
            turnId clock
          if stopped then .ok (w, .stopped) else runTurns handle w rest

def runSlice (w : WorkerState A) (handle : ActivationRef) (slot : ActorSlot A)
    (turns : List TimePoint) : Except String (WorkerState A) := do
  let w := w.setSlot handle.actor { slot with state := .running }
  let (w, sliceEnd) ← w.runTurns config handle (turns.take config.maxTurnsPerActorSlice)
  match sliceEnd with
  | .stopped => .ok (w.removeActor handle)
  | .suspended => .ok w
  | .yielded => w.settle config handle

/-- The turns of a Queued actor: its continuation if it waited, else a slice. A
blocked actor without a continuation never dispatches its mailbox. -/
def runQueued (w : WorkerState A) (handle : ActivationRef) (slot : ActorSlot A)
    (clock : TimePoint) (turns : List TimePoint) : Except String (WorkerState A) :=
  match slot.blocked with
  | some (.db command) => w.resumeDbCommand config handle slot command clock
  | some (.synthetic command) => w.resumeSyntheticCommand config handle slot command clock
  | some (.activationLoad _) => .ok w
  | none => w.runSlice config handle slot turns

/-- One round of the loop of `runReadyActors`: the handle at the head of the ready
queue. `turns` are the clock readings of the turns that the budget leaves. -/
def runReadyActor (w : WorkerState A) (clock : TimePoint) (turns : List TimePoint) :
    Except String (WorkerState A) :=
  match w.readyQueue with
  | [] => .ok w
  | handle :: rest =>
    let w := { w with readyQueue := rest }
    match w.find handle with
    | none => .ok w
    | some slot =>
      if slot.state ≠ .queued then .ok w
      else do
        let w ← w.runQueued config handle slot clock turns
        .ok (w.refreshLifecycleArm handle)

/-- The scan over the lifecycle index at the start of `runReadyActors`. -/
def armIdle (startedAt : TimePoint) (w : WorkerState A) (handle : ActivationRef) :
    Except String (WorkerState A) :=
  match w.find handle with
  | none => .ok { w with lifecycleArmed := w.lifecycleArmed.filter (· ≠ handle) }
  | some slot =>
    if !slot.lifecycleArmed then
      .ok { w with lifecycleArmed := w.lifecycleArmed.filter (· ≠ handle) }
    else if slot.blocked.isSome || slot.state ≠ .idle then .ok w
    else
      match slot.inst with
      | none => .ok w
      | some inst =>
        if w.lifecycleDue inst startedAt then w.enqueue config handle.actor slot else .ok w

/-! ## Completions of awaits -/

def tryMarkDbCommandReady (w : WorkerState A) (key : AwaitKey) (result : DbResult) :
    Except String (WorkerState A) :=
  match w.actors.lookup key.actor with
  | some slot =>
    match slot.blocked with
    | some (.db command) =>
      if slot.state = .suspended && acceptsCompletion key command.key &&
          command.completion.isNone then
        (w.complete key).enqueue config key.actor
          { slot with blocked := some (.db { command with completion := some result }) }
      else .ok w
    | _ => .ok w
  | none => .ok w

def tryMarkSyntheticCommandReady (w : WorkerState A) (key : AwaitKey)
    (outcome : SyntheticAwaitOutcome) : Except String (WorkerState A) :=
  match w.actors.lookup key.actor with
  | some slot =>
    match slot.blocked with
    | some (.synthetic command) =>
      if slot.state = .suspended && acceptsCompletion key command.key &&
          command.completion.isNone then
        (w.complete key).enqueue config key.actor
          { slot with blocked := some (.synthetic { command with completion := some outcome }) }
      else .ok w
    | _ => .ok w
  | none => .ok w

/-- The load of an activation succeeded: the slot gets its instance. -/
def finishActivation (w : WorkerState A) (key : ActorKey) (slot : ActorSlot A)
    (actor : A.Instance) : Except String (WorkerState A) :=
  ({ w with loadingCount := w.loadingCount - 1 }.setSlot key
    { slot with inst := some actor, blocked := none }).settle config ⟨key, slot.incarnation⟩

/-- The slot that an activation load with this key blocks. -/
def loadingSlot (w : WorkerState A) (key : AwaitKey) : Option (ActorSlot A) :=
  (w.actors.lookup key.actor).filter fun slot =>
    match slot.blocked with
    | some (.activationLoad load) => slot.state = .loading && acceptsCompletion key load.key
    | _ => false

/-- The load of an activation failed: the slot is released. -/
def failActivation (w : WorkerState A) (key : ActorKey) (slot : ActorSlot A) : WorkerState A :=
  (w.record (.loadFailed ⟨key, slot.incarnation⟩)).removeActor ⟨key, slot.incarnation⟩

def completeLoad (w : WorkerState A) (key : AwaitKey)
    (construction : Except String (ActorConstructionResult A.Instance)) :
    Except String (WorkerState A) :=
  match w.loadingSlot key with
  | none => .ok w
  | some slot => do
    match ← construction with
    | .ready actor => (w.complete key).finishActivation config key.actor slot actor
    | _ => .ok ((w.complete key).failActivation key.actor slot)

def completeSyntheticActivation (w : WorkerState A) (key : AwaitKey)
    (outcome : SyntheticActivationOutcome) : Except String (WorkerState A) :=
  w.completeLoad config key
    (if outcome = .ready then A.construct key.actor else .ok .rejected)

/-- A result for a blocked actor; one that no await waits for is dropped. -/
def completeDb (w : WorkerState A) (completion : DbCompletion) : Except String (WorkerState A) :=
  let (key, result) := completion
  match (w.actors.lookup key.actor).bind (·.blocked) with
  | some (.db _) => w.tryMarkDbCommandReady config key result
  | some (.activationLoad _) =>
    match result with
    | .loadPlayer loaded => w.completeLoad config key (A.constructLoaded key.actor loaded)
    | .failure _ => w.completeLoad config key (.ok .rejected)
    | .savePlayer _ => if (w.loadingSlot key).isSome then .error "bad variant access" else .ok w
  | _ => .ok w

def completeAllDb (w : WorkerState A) (completions : List DbCompletion) :
    Except String (WorkerState A) :=
  completions.foldlM (completeDb config) w

def awaitTimedOut : DbResult :=
  .failure { kind := .timedOut, reachedServer := true, message := "await timeout" }

/-- The record of what became of an application timer. -/
def endTimer (w : WorkerState A) (outcome : TimerOutcome) (target : ActivationRef)
    (message : ActorEnvelope A.Message) : WorkerState A :=
  { w with timers := w.timers.record (.ended outcome target message) }

def retryRefused : String :=
  "Failed to re-register application timer on transient mailbox saturation"

/-- A timer of an actor whose mailbox is full comes back a millisecond later. -/
def onApplicationTimer (w : WorkerState A) (target : ActivationRef)
    (message : ActorEnvelope A.Message) : Except String (WorkerState A) :=
  match w.find target with
  | none => .ok (w.endTimer .stale target message)
  | some slot =>
    if slot.state = .stopping then .ok (w.endTimer .failed target message)
    else if message.chargedBytes > config.maxMailboxBytesPerActor ||
        message.chargedBytes > config.maxMailboxBytesTotal then
      .ok (w.endTimer .failed target message)
    else if w.overMailboxLimits config slot message.chargedBytes then
      match w.timers.trySchedule (w.now + 1) (.applicationTimer target message) with
      | none => .error retryRefused
      | some timers => .ok { w with timers := timers }
    else
      (w.endTimer (.delivered w.now) target message).pushMailbox config target.actor slot message

def onTimer (w : WorkerState A) : TimerPayload A.Message → Except String (WorkerState A)
  | .connectionCloseDeadline _ => .ok w
  | .awaitTimeout key =>
    match (w.actors.lookup key.actor).bind (·.blocked) with
    | some (.synthetic _) => w.tryMarkSyntheticCommandReady config key .timedOut
    | some (.db _) => w.tryMarkDbCommandReady config key awaitTimedOut
    | some (.activationLoad _) => w.completeSyntheticActivation config key .timedOut
    | none => .ok w
  | .applicationTimer target message => w.onApplicationTimer config target message

/-! ## Shutdown -/

def cancelledByShutdown : DbResult :=
  .failure { kind := .connectionLost, reachedServer := true, message := "cancelled by shutdown" }

/-- The final save that a lifecycle turn submitted is not cancelled, nor is an await
that has its completion. -/
def cancellable (slot : ActorSlot A) : Bool :=
  !(slot.inst.any fun inst => !A.needsShutdownTurn inst && A.shutdownPending inst) &&
    match slot.blocked with
    | some (.synthetic command) => command.completion.isNone
    | some (.db command) => command.completion.isNone
    | some (.activationLoad _) => true
    | none => false

/-- The logical cancel of one actor. The database is not asked. -/
def cancelBlocked (w : WorkerState A) (key : ActorKey) : Except String (WorkerState A) :=
  match w.actors.lookup key with
  | none => .ok w
  | some slot =>
    if !cancellable slot then .ok w
    else
      match slot.blocked with
      | some (.synthetic command) =>
        (w.complete command.key).enqueue config key
          { slot with
            blocked := some (.synthetic { command with completion := some .cancelled }) }
      | some (.db command) =>
        (w.complete command.key).enqueue config key
          { slot with
            blocked := some (.db { command with completion := some cancelledByShutdown }) }
      | some (.activationLoad load) =>
        .ok ((w.complete load.key).failActivation key slot)
      | none => .ok w

def cancelBlockedActorsForShutdown (w : WorkerState A) : Except String (WorkerState A) :=
  w.actors.keys.foldlM (cancelBlocked config) w

def armLifecycleForShutdown (w : WorkerState A) : WorkerState A :=
  w.actors.keys.foldl
    (fun w key => match w.actors.lookup key with
      | none => w
      | some slot => w.refreshLifecycleArm ⟨key, slot.incarnation⟩) w

/-- Phase A and the entry of phase B. -/
def beginShutdown (w : WorkerState A) : Except String (WorkerState A) := do
  let w := { w with shuttingDown := true, networkStopping := true, stage := .phaseB }
  let w := w.armLifecycleForShutdown
  let w := { w with timers := w.timers.cancelApplicationTimers
                    logicalCancelPerformed := w.actors.entries.any fun e => cancellable e.2 }
  w.cancelBlockedActorsForShutdown config

/-- The loops of the shutdown phases over the handles of the table. -/
def removeActors (w : WorkerState A) (p : ActorSlot A → Bool) : WorkerState A :=
  w.actors.keys.foldl
    (fun w key => match w.actors.lookup key with
      | none => w
      | some slot => if p slot then w.removeActor ⟨key, slot.incarnation⟩ else w) w

/-- The end of phase B: the database takes no more work and the actors that are not
suspended are released. -/
def leavePhaseB (w : WorkerState A) : Except String (WorkerState A) := do
  let w := { w with stage := .phaseC }
  let w ← match w.db with
    | none => .ok w
    | some db =>
      let (db, completions) := db.beginShutdown
      { w with db := some db }.completeAllDb config completions
  .ok (w.removeActors fun slot => slot.state = .idle || slot.state = .queued)

/-! ## Phases -/

/-- Timers run in every iteration of the loop and of phases B to D. -/
def expireTimers (w : WorkerState A) (now : TimePoint) : WorkerState A :=
  { w with now := now, phase := .timers }

def fireTimer (w : WorkerState A) (i : Nat) : Option (Except String (WorkerState A)) :=
  (w.timers.popDue w.now i).map fun (entry, timers) =>
    { w with timers := timers }.onTimer config entry.payload

def driveDb (w : WorkerState A) (i : Nat) (event : DriverEvent) (clock : TimePoint) :
    Option (Except String (WorkerState A)) := do
  let db ← w.db
  let (db, completions) ← db.advance i event clock
  some ({ w with db := some db }.completeAllDb config completions)

def expireDb (w : WorkerState A) (now : TimePoint) : Except String (WorkerState A) :=
  match w.db with
  | none => .ok w
  | some db =>
    let (db, completions) := db.expireDeadlines now
    { w with db := some (db.maintainConnections now) }.completeAllDb config completions

/-- The rest of `advanceDb`, with the time that the timers expired at, and the start
of `runReadyActors`. -/
def startActors (w : WorkerState A) (startedAt : TimePoint) : Except String (WorkerState A) := do
  let w ← { w with phase := .actors }.expireDb config w.now
  w.lifecycleArmed.foldlM (armIdle config startedAt) w

def forceCloseDb (w : WorkerState A) : Except String (WorkerState A) :=
  let w := { w with stage := .stopped }
  match w.db with
  | none => .ok w
  | some db =>
    let (db, completions) := db.forceClose
    { w with db := some db }.completeAllDb config completions

/-- The iterations that run actors. -/
def runsActors (w : WorkerState A) : Bool := w.stage = .running || w.stage = .phaseB

/-- The inbox phase of a loop that still drains events. -/
def takesEvents (w : WorkerState A) : Bool :=
  w.phase = .inbox && w.stage ≠ .dbShutdown && w.stage ≠ .stopped

end WorkerState

/-! ## The machine -/

inductive WorkerAction (A : ActorModel) where
  | requestStop
  | tell (key : ActorKey) (message : ActorEnvelope A.Message) (clock : TimePoint)
  | remoteMessage (key : ActorKey) (message : ActorEnvelope A.Message) (clock : TimePoint)
  | connectionClosed (key : ActorKey) (message : ActorEnvelope A.Message)
  | completeSyntheticCommand (key : AwaitKey) (outcome : SyntheticAwaitOutcome)
  | completeSyntheticActivation (key : AwaitKey) (outcome : SyntheticActivationOutcome)
  | scheduleConnectionClose (deadline : TimePoint) (connection : ConnectionHandle)
  | dbPollEvent (token : DbClient.PollToken)
  | expireTimers (now : TimePoint)
  | fireTimer (i : Nat)
  | beginDb
  | driver (i : Nat) (event : DriverEvent) (clock : TimePoint)
  | runReadyActors (startedAt : TimePoint)
  | runActor (clock : TimePoint) (turns : List TimePoint)
  | endIteration
  | beginShutdown
  | cancelBlocked
  | leavePhaseB
  | leavePhaseC
  | leavePhaseD
  | expireAtShutdown (now : TimePoint)
  | forceCloseDb

section Machine

variable {A : ActorModel} (config : WorkerActorConfig)

/-- One transition, with the errors of the source. `none` is an action that does not
fit the phase. -/
def workerTransition (w : WorkerState A) :
    WorkerAction A → Option (Except String (WorkerState A))
  | .requestStop => some (.ok { w with stopRequested := true })
  | .tell key message clock =>
    if w.takesEvents then some ((w.tell config key message clock).map (·.1)) else none
  | .remoteMessage key message clock =>
    if w.takesEvents then
      some ((w.tryDeliverLocalInternal config key message clock).map (·.1))
    else none
  | .connectionClosed key message =>
    if w.takesEvents then
      some ((w.deliverActorConnectionClosedLocally config key message).map (·.1))
    else none
  | .completeSyntheticCommand key outcome =>
    if w.takesEvents then some (w.tryMarkSyntheticCommandReady config key outcome) else none
  | .completeSyntheticActivation key outcome =>
    if w.takesEvents then some (w.completeSyntheticActivation config key outcome) else none
  | .scheduleConnectionClose deadline connection =>
    (w.timers.trySchedule deadline (.connectionCloseDeadline connection)).map
      fun timers => .ok { w with timers := timers }
  | .dbPollEvent token => w.db.map fun db => .ok { w with db := some (db.onPollEvent token) }
  | .expireTimers now =>
    if w.takesEvents then some (.ok (w.expireTimers now)) else none
  | .fireTimer i => if w.phase = .timers then w.fireTimer config i else none
  | .beginDb =>
    if w.phase = .timers ∧ w.runsActors then some (.ok { w with phase := .db }) else none
  | .driver i event clock =>
    if w.phase = .db ∨ w.stage = .dbShutdown then w.driveDb config i event clock else none
  | .runReadyActors startedAt =>
    if w.phase = .db then some (w.startActors config startedAt) else none
  | .runActor clock turns =>
    if w.phase = .actors then some (w.runReadyActor config clock turns) else none
  | .endIteration =>
    if w.phase = .actors ∨ (w.phase = .timers ∧ ¬w.runsActors) then
      some (.ok { w with phase := .inbox })
    else none
  | .beginShutdown =>
    if w.phase = .inbox ∧ w.stage = .running ∧ w.stopRequested then
      some (w.beginShutdown config)
    else none
  | .cancelBlocked =>
    if w.phase = .inbox ∧ w.stage = .phaseB ∧ !w.logicalCancelPerformed then
      some ({ w with logicalCancelPerformed := true }.cancelBlockedActorsForShutdown config)
    else none
  | .leavePhaseB =>
    if w.phase = .inbox ∧ w.stage = .phaseB then some (w.leavePhaseB config) else none
  | .leavePhaseC =>
    if w.phase = .inbox ∧ w.stage = .phaseC then
      some (.ok { w.removeActors (fun _ => true) with readyQueue := [], stage := .phaseD })
    else none
  | .leavePhaseD =>
    if w.phase = .inbox ∧ w.stage = .phaseD then some (.ok { w with stage := .dbShutdown })
    else none
  | .expireAtShutdown now =>
    if w.stage = .dbShutdown then
      some (w.expireDb config now)
    else none
  | .forceCloseDb => if w.stage = .dbShutdown then some (w.forceCloseDb config) else none

/-- A worker that has just been configured, with or without a database. -/
def workerMachine (A : ActorModel) (config : WorkerActorConfig) (dbConfig : Option DbClientConfig) :
    Machine (WorkerState A) (WorkerAction A) where
  init w := w =
    { timers := { maxApplicationTimerBytes := config.maxApplicationTimerBytesTotal }
      db := dbConfig.map fun dbConfig => (DbClient.create dbConfig).start }
  step w action := (workerTransition config w action).bind Except.toOption

end Machine

end Snf.Worker
