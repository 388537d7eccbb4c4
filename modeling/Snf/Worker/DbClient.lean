import Snf.Worker.Identity

/-! # The database client of a worker

`DbClient`: connection slots that run one operation each, statement by statement,
and a bounded queue of operations that wait for a slot. The driver is outside the
model: what it answers at a slot is a `DriverEvent`, chosen by the environment.

A call into the completion sink becomes a completion in the result of the
function. The sink never calls back into the client, so handing the completions
over after the function has returned is the same.

An operation in flight carries a record of its statements, and the client a record
of the requests it accepted, of those it handed to a connection and of those it
completed. No function reads them.
-/

namespace Snf.Worker

structure SavePlayerRequest where
  playerId : EntityId
  handledCommandCount : UInt64 := 0
  hasLocation : Bool := false
  zoneId : Nat := 0
  positionX : Int32 := 0
  positionY : Int32 := 0
  currencyBalance : UInt64 := 0
  purchasedItemCount : UInt64 := 0
  streetExperience : UInt64 := 0
  equippedSkillId : Nat := 0
  ownedSkillIds : List Nat := []
  /-- The capacity of `ownedSkillIds` beyond its size. -/
  spareSkillCapacity : Nat := 0
deriving DecidableEq, Repr

inductive DbRequest where
  | loadPlayer (playerId : EntityId)
  | savePlayer (request : SavePlayerRequest)
deriving DecidableEq, Repr

namespace DbRequest

def isSave : DbRequest → Bool
  | .loadPlayer _ => false
  | .savePlayer _ => true

def playerId : DbRequest → EntityId
  | .loadPlayer playerId => playerId
  | .savePlayer request => request.playerId

end DbRequest

structure LoadedPlayerRow where
  playerId : EntityId := 0
  handledCommandCount : UInt64 := 0
  hasLocation : Bool := false
  zoneId : Nat := 0
  positionX : Int32 := 0
  positionY : Int32 := 0
  currencyBalance : UInt64 := 0
  purchasedItemCount : UInt64 := 0
  streetExperience : UInt64 := 0
  equippedSkillId : Nat := 0
deriving DecidableEq, Repr

structure LoadPlayerResult where
  found : Bool := false
  row : LoadedPlayerRow := {}
  ownedSkillIds : List Nat := []
deriving DecidableEq, Repr

inductive DbFailureKind where
  | overloaded | timedOut | connectionLost | queryFailed | resultTooLarge
deriving DecidableEq, Repr

structure DbFailure where
  kind : DbFailureKind
  reachedServer : Bool
  message : String
deriving DecidableEq, Repr

inductive SaveOutcome where
  | committed | failedBeforeCommit | commitOutcomeUnknown
deriving DecidableEq, Repr

inductive DbResult where
  | loadPlayer (result : LoadPlayerResult)
  | savePlayer (outcome : SaveOutcome)
  | failure (failure : DbFailure)
deriving DecidableEq, Repr

structure DbClientConfig where
  connectionCount : Nat := 2
  maxQueuedOperations : Nat := 256
  maxQueuedBytes : Nat := 1024 * 1024
  reconnectBackoff : Nat := 250
  maxResultRows : Nat := 4096
  maxResultBytes : Nat := 4 * 1024 * 1024
  /-- The size of a request without its dynamic storage. -/
  requestBytes : Nat := 104
deriving DecidableEq, Repr

inductive DbSlotState where
  | closed | connecting | idle | querying | fetching | freeingResult
deriving DecidableEq, Repr

inductive DbStage where
  | playerRow | playerSkills
  | saveIsolation | saveBegin | saveUpsert | saveDeleteSkills | saveInsertSkills
  | saveCommit | saveRollback
deriving DecidableEq, Repr

def DbStage.isSaveStage : DbStage → Bool
  | .playerRow | .playerSkills => false
  | _ => true

/-- A statement was handed to the driver, or the driver reported that it was done, on
the connection of this generation. -/
inductive DbStatement where
  | handed (connection : Nat) (stage : DbStage)
  | succeeded (connection : Nat) (stage : DbStage)
deriving DecidableEq, Repr

structure InFlight where
  key : AwaitKey
  request : DbRequest
  deadline : TimePoint
  stage : DbStage
  result : LoadPlayerResult := {}
  rows : Nat := 0
  bytes : Nat := 0
  commitDispatched : Bool := false
  statements : List DbStatement := []
deriving DecidableEq, Repr

def InFlight.note (f : InFlight) (statement : DbStatement) : InFlight :=
  { f with statements := f.statements ++ [statement] }

structure QueuedOperation where
  key : AwaitKey
  request : DbRequest
  deadline : TimePoint
  footprint : Nat
deriving DecidableEq, Repr

structure DbSlot where
  state : DbSlotState := .closed
  generation : Nat := 0
  runnable : Bool := false
  retryAt : TimePoint := 0
  inFlight : Option InFlight := none
deriving DecidableEq, Repr

abbrev DbCompletion := AwaitKey × DbResult

/-- A completed operation: what the sink is told, and the record of its statements. -/
structure DbOutcome where
  key : AwaitKey
  request : DbRequest
  result : DbResult
  statements : List DbStatement := []
deriving DecidableEq, Repr

def DbOutcome.completion (o : DbOutcome) : DbCompletion := (o.key, o.result)

def InFlight.outcome (f : InFlight) (result : DbResult) : DbOutcome where
  key := f.key
  request := f.request
  result := result
  statements := f.statements

def QueuedOperation.outcome (q : QueuedOperation) (failure : DbFailure) : DbOutcome where
  key := q.key
  request := q.request
  result := .failure failure

structure DbClient where
  config : DbClientConfig := {}
  slots : List DbSlot := []
  queue : List QueuedOperation := []
  queuedBytes : Nat := 0
  nextGeneration : Nat := 1
  shuttingDown : Bool := false
  submitted : List (AwaitKey × DbRequest) := []
  started : List (AwaitKey × DbRequest) := []
  outcomes : List DbOutcome := []
deriving DecidableEq, Repr

def maxPlayerRows : Nat := 2
def maxPlayerSkillRows : Nat := 64

/-! ## What the driver answers -/

/-- A column of a row: NULL, an integer, or text that is not an integer of the
column's type. -/
inductive DbColumn where
  | null
  | value (v : Int)
  | garbled
deriving DecidableEq, Repr

/-- The answer of one non-blocking driver call, with the driver's own text where it
fails. `done` is the completion of a connect, of a statement without a result set,
or of freeing a result; a statement that announces a result set is done when the set
has been read and freed. -/
inductive DriverEvent where
  | notReady
  | error (text : String)
  | done
  | resultSet
  | noResultSet (text : String)
  | row (columns : List DbColumn) (bytes : Nat)
  | endOfRows
deriving DecidableEq, Repr

def parseUnsigned : DbColumn → Option Nat
  | .value v => if 0 ≤ v ∧ v < 2 ^ 64 then some v.toNat else none
  | _ => none

def parseSigned : DbColumn → Option Int
  | .value v => if -(2 ^ 63) ≤ v ∧ v < 2 ^ 63 then some v else none
  | _ => none

/-- A column that is NULL or parses. -/
def parseNullable {α : Type} (parse : DbColumn → Option α) : DbColumn → Option (Option α)
  | .null => some none
  | c => (parse c).map some

def int32Min : Int := -(2 ^ 31)
def int32Max : Int := 2 ^ 31 - 1
def uint32Max : Nat := 2 ^ 32 - 1

/-- The location columns are NULL together or not at all. -/
def consumeLocation (zone : Option Nat) (x y : Option Int) : Option (Option (Nat × Int × Int)) :=
  match zone, x, y with
  | some z, some x, some y => some (some (z, x, y))
  | none, none, none => some none
  | _, _, _ => none

/-- The columns of a player's row. -/
def decodePlayerRow (playerId : EntityId) (columns : List DbColumn) : Option LoadedPlayerRow :=
  match columns with
  | [handled, zone, x, y, currency, purchased, street, equipped] => do
    let handled ← parseUnsigned handled
    let zone ← parseNullable parseUnsigned zone
    let x ← parseNullable parseSigned x
    let y ← parseNullable parseSigned y
    let currency ← parseUnsigned currency
    let purchased ← parseUnsigned purchased
    let street ← parseUnsigned street
    let equipped ← parseUnsigned equipped
    let location ← consumeLocation zone x y
    let (px, py) := ((location.map fun l => l.2.1).getD 0, (location.map fun l => l.2.2).getD 0)
    if px < int32Min ∨ px > int32Max ∨ py < int32Min ∨ py > int32Max ∨ equipped > uint32Max then
      none
    else
      some
        { playerId := playerId
          handledCommandCount := UInt64.ofNat handled
          hasLocation := location.isSome
          zoneId := (location.map fun l => l.1).getD 0
          positionX := Int32.ofInt px
          positionY := Int32.ofInt py
          currencyBalance := UInt64.ofNat currency
          purchasedItemCount := UInt64.ofNat purchased
          streetExperience := UInt64.ofNat street
          equippedSkillId := equipped }
  | _ => none

/-- What becomes of a row: an operation that has taken it in, or a row that does not
decode. A player's row that decodes although the operation is a save makes the source
throw, which is an error here. -/
def consumeRow (f : InFlight) (columns : List DbColumn) : Except Unit (Option InFlight) :=
  if f.stage = .playerSkills then
    match columns with
    | [skill] =>
      match parseUnsigned skill with
      | some skillId =>
        if skillId > uint32Max then .ok none
        else .ok (some { f with result := { f.result with
          ownedSkillIds := f.result.ownedSkillIds ++ [skillId] } })
      | none => .ok none
    | _ => .ok none
  else if f.result.found then .ok none
  else
    match decodePlayerRow f.request.playerId columns with
    | none => .ok none
    | some row =>
      if f.request.isSave then .error ()
      else .ok (some { f with result := { f.result with found := true, row := row } })

/-! ## One driver step -/

def closeSlot (slot : DbSlot) : DbSlot := { slot with state := .closed, runnable := false }

/-- The result a failure produces depends on how far the transaction got. -/
def failureResultFor (f : InFlight) (failure : DbFailure) : DbResult :=
  match f.request with
  | .loadPlayer _ => .failure failure
  | .savePlayer _ =>
    .savePlayer (if f.commitDispatched then .commitOutcomeUnknown else .failedBeforeCommit)

/-- A connection that was cut in the middle of an operation is not used again. -/
def poisonSlot (slot : DbSlot) (failure : DbFailure) (clock : TimePoint) :
    DbSlot × List DbOutcome :=
  ({ closeSlot slot with inFlight := none, retryAt := clock },
    (slot.inFlight.map fun f => f.outcome (failureResultFor f failure)).toList)

def failOperation (slot : DbSlot) (kind : DbFailureKind) (message : String) (clock : TimePoint) :
    DbSlot × List DbOutcome :=
  poisonSlot slot { kind := kind, reachedServer := true, message := message } clock

def finish (slot : DbSlot) (f : InFlight) (result : DbResult) : DbSlot × List DbOutcome :=
  ({ slot with inFlight := none, state := .idle, runnable := true }, [f.outcome result])

def beginStageQuery (slot : DbSlot) (f : InFlight) : DbSlot :=
  { slot with state := .querying, runnable := true, inFlight := some f }

/-- The next statement of the operation, or its end. -/
def advanceStage (slot : DbSlot) (f : InFlight) : DbSlot × List DbOutcome :=
  let next (stage : DbStage) := (beginStageQuery slot { f with stage := stage }, [])
  match f.stage with
  | .playerRow =>
    if f.result.found then
      (beginStageQuery slot { f with stage := .playerSkills, rows := 0 }, [])
    else finish slot f (.loadPlayer f.result)
  | .playerSkills => finish slot f (.loadPlayer f.result)
  | .saveIsolation => next .saveBegin
  | .saveBegin => next .saveUpsert
  | .saveUpsert => next .saveDeleteSkills
  | .saveDeleteSkills => next .saveInsertSkills
  | .saveInsertSkills => next .saveCommit
  | .saveCommit => finish slot f (.savePlayer .committed)
  | .saveRollback => finish slot f (.savePlayer .failedBeforeCommit)

/-- A failed statement does not roll the transaction back on its own, so a ROLLBACK
is sent, unless the COMMIT was already on its way or the ROLLBACK itself failed. -/
def onSaveStatementFailed (slot : DbSlot) (f : InFlight) (clock : TimePoint) :
    DbSlot × List DbOutcome :=
  let dropped : DbSlot := { closeSlot slot with inFlight := none, retryAt := clock }
  if f.commitDispatched then (dropped, [f.outcome (.savePlayer .commitOutcomeUnknown)])
  else if f.stage = .saveRollback then (dropped, [f.outcome (.savePlayer .failedBeforeCommit)])
  else (beginStageQuery slot { f with stage := .saveRollback }, [])

def stageRowLimit (f : InFlight) : Nat :=
  if f.stage = .playerRow then maxPlayerRows else maxPlayerSkillRows

def yieldSlot (slot : DbSlot) : DbSlot × List DbOutcome := ({ slot with runnable := false }, [])

/-- The driver has reported that the statement of the current stage is done. -/
def statementDone (slot : DbSlot) (f : InFlight) : DbSlot × List DbOutcome :=
  advanceStage slot (f.note (.succeeded slot.generation f.stage))

/-- The operation as the driver is called with the statement of its stage.
`commitDispatched` is set before the call: once the driver has been asked to send the
COMMIT, nothing can prove that it did not reach the server. -/
def handStatement (slot : DbSlot) (f : InFlight) : InFlight :=
  { f.note (.handed slot.generation f.stage) with
    commitDispatched := f.commitDispatched || f.stage = .saveCommit }

def stepQuerying (slot : DbSlot) (f : InFlight) (event : DriverEvent) (clock : TimePoint) :
    Option (DbSlot × List DbOutcome) :=
  let f := handStatement slot f
  let slot := { slot with inFlight := some f }
  match event with
  | .notReady => some (yieldSlot slot)
  | .error text =>
    if f.stage.isSaveStage then some (onSaveStatementFailed slot f clock)
    else some (failOperation slot .queryFailed text clock)
  | .done => some (statementDone slot f)
  | .resultSet => some ({ slot with state := .fetching, runnable := true }, [])
  | .noResultSet text => some (failOperation slot .queryFailed text clock)
  | _ => none

def stepFetching (config : DbClientConfig) (slot : DbSlot) (f : InFlight) (event : DriverEvent)
    (clock : TimePoint) : Option (DbSlot × List DbOutcome) :=
  match event with
  | .notReady => some (yieldSlot slot)
  | .error text => some (failOperation slot .queryFailed text clock)
  | .endOfRows => some ({ slot with state := .freeingResult, runnable := true }, [])
  | .row columns bytes =>
    let f := { f with rows := f.rows + 1 }
    if f.rows > stageRowLimit f || f.rows > config.maxResultRows then
      some (failOperation { slot with inFlight := some f } .resultTooLarge "row cap exceeded" clock)
    else
      let f := { f with bytes := f.bytes + bytes }
      let slot := { slot with inFlight := some f }
      if f.bytes > config.maxResultBytes then
        some (failOperation slot .resultTooLarge "byte cap exceeded" clock)
      else
        match consumeRow f columns with
        | .error _ => none
        | .ok none => some (failOperation slot .queryFailed "row decode failed" clock)
        | .ok (some f) => some ({ slot with inFlight := some f, runnable := true }, [])
  | _ => none

/-- One driver step of a slot. -/
def DbSlot.step (config : DbClientConfig) (slot : DbSlot) (event : DriverEvent)
    (clock : TimePoint) : Option (DbSlot × List DbOutcome) :=
  match slot.state, slot.inFlight with
  | .closed, _ => some (yieldSlot slot)
  | .connecting, _ =>
    match event with
    | .notReady => some (yieldSlot slot)
    | .error _ => some ({ closeSlot slot with retryAt := clock + config.reconnectBackoff }, [])
    | .done => some ({ slot with state := .idle, runnable := true }, [])
    | _ => none
  | .idle, some f => some (beginStageQuery slot f, [])
  | .idle, none => some (yieldSlot slot)
  | .querying, some f => stepQuerying slot f event clock
  | .fetching, some f => stepFetching config slot f event clock
  | .freeingResult, some f =>
    match event with
    | .notReady => some (yieldSlot slot)
    | .error _ => some (failOperation slot .queryFailed "free result failed" clock)
    | .done => some (statementDone slot f)
    | _ => none
  | _, none => none

/-! ## The client -/

def uint64Max : Nat := 2 ^ 64 - 1

def queuedFootprint (config : DbClientConfig) : DbRequest → Nat
  | .loadPlayer _ => config.requestBytes
  | .savePlayer request =>
    let capacity := request.ownedSkillIds.length + request.spareSkillCapacity
    if capacity > (uint64Max - config.requestBytes) / 4 then uint64Max
    else config.requestBytes + capacity * 4

def openSlot (slot : DbSlot) (generation : Nat) : DbSlot :=
  { slot with generation := generation, state := .connecting, runnable := true }

/-- Open the slots that `p` selects, each with the next generation. -/
def openSlots (p : DbSlot → Bool) : Nat → List DbSlot → List DbSlot × Nat
  | next, [] => ([], next)
  | next, slot :: rest =>
    if p slot then
      let (rest, last) := openSlots p (next + 1) rest
      (openSlot slot next :: rest, last)
    else
      let (rest, last) := openSlots p next rest
      (slot :: rest, last)

def assign (slot : DbSlot) (key : AwaitKey) (request : DbRequest) (deadline : TimePoint) : DbSlot :=
  beginStageQuery slot
    { key := key, request := request, deadline := deadline
      stage := if request.isSave then .saveIsolation else .playerRow }

def DbSlot.isFree (slot : DbSlot) : Bool := slot.state = .idle && slot.inFlight.isNone

inductive DbSubmitStatus where
  | rejected | pending
deriving DecidableEq, Repr

/-- A save needs a skill and no more of them than its result may hold. -/
def DbRequest.admissible : DbRequest → Bool
  | .loadPlayer _ => true
  | .savePlayer request =>
    !request.ownedSkillIds.isEmpty && request.ownedSkillIds.length ≤ maxPlayerSkillRows

namespace DbClient

def create (config : DbClientConfig) : DbClient where
  config := config
  slots := List.replicate config.connectionCount {}

def openWhere (db : DbClient) (p : DbSlot → Bool) : DbClient :=
  let (slots, next) := openSlots p db.nextGeneration db.slots
  { db with slots := slots, nextGeneration := next }

def start (db : DbClient) : DbClient := db.openWhere fun slot => slot.state = .closed

/-- Hand `(key, request)` to the first free slot of `slots`. -/
def assignFirst (key : AwaitKey) (request : DbRequest) (deadline : TimePoint) :
    List DbSlot → Option (List DbSlot)
  | [] => none
  | slot :: rest =>
    if slot.isFree then some (assign slot key request deadline :: rest)
    else (assignFirst key request deadline rest).map (slot :: ·)

/-- No request completes inline, so the result is a verdict and the client. -/
def tryStart (db : DbClient) (key : AwaitKey) (request : DbRequest) (deadline : TimePoint) :
    DbSubmitStatus × DbClient :=
  if db.shuttingDown then (.rejected, db)
  else if !request.admissible then (.rejected, db)
  else
    match assignFirst key request deadline db.slots with
    | some slots =>
      (.pending, { db with
        slots := slots
        submitted := db.submitted ++ [(key, request)]
        started := db.started ++ [(key, request)] })
    | none =>
      let footprint := queuedFootprint db.config request
      if db.queue.length ≥ db.config.maxQueuedOperations || footprint > db.config.maxQueuedBytes ||
          db.queuedBytes > db.config.maxQueuedBytes - footprint then (.rejected, db)
      else
        (.pending, { db with
          queue := db.queue ++
            [{ key := key, request := request, deadline := deadline, footprint := footprint }]
          queuedBytes := db.queuedBytes + footprint
          submitted := db.submitted ++ [(key, request)] })

/-- Free slots take operations from the head of the queue, in slot order. -/
def pumpSlots : List DbSlot → List QueuedOperation → List DbSlot × List QueuedOperation
  | slots, [] => (slots, [])
  | [], queue => ([], queue)
  | slot :: rest, q :: queue =>
    if slot.isFree then
      let (rest, queue) := pumpSlots rest queue
      (assign slot q.key q.request q.deadline :: rest, queue)
    else
      let (rest, queue) := pumpSlots rest (q :: queue)
      (slot :: rest, queue)

def footprints (queue : List QueuedOperation) : Nat := (queue.map (·.footprint)).sum

def pumpQueue (db : DbClient) : DbClient :=
  let (slots, queue) := pumpSlots db.slots db.queue
  let taken := db.queue.take (db.queue.length - queue.length)
  { db with
    slots := slots
    queue := queue
    queuedBytes := db.queuedBytes - footprints taken
    started := db.started ++ taken.map fun q => (q.key, q.request) }

/-- The client with these operations on record, and what the sink is told. -/
def complete (db : DbClient) (outcomes : List DbOutcome) : DbClient × List DbCompletion :=
  ({ db with outcomes := db.outcomes ++ outcomes }, outcomes.map (·.completion))

/-- One turn of the loop of `advance`: a step of a runnable slot, then the queue. -/
def advance (db : DbClient) (i : Nat) (event : DriverEvent) (clock : TimePoint) :
    Option (DbClient × List DbCompletion) :=
  match db.slots[i]? with
  | none => none
  | some slot =>
    if !slot.runnable then none
    else
      match slot.step db.config event clock with
      | none => none
      | some (slot', outcomes) =>
        some ({ db with slots := db.slots.set i slot' }.pumpQueue.complete outcomes)

inductive PollTargetKind where
  | invalid | wakeup | clientConnection | dbConnection | listener
deriving DecidableEq, Repr

structure PollToken where
  kind : PollTargetKind
  index : Nat
  generation : UInt32
deriving DecidableEq, Repr

/-- The token has the low 32 bits of the generation of its connection. -/
def onPollEvent (db : DbClient) (token : PollToken) : DbClient :=
  if token.kind ≠ .dbConnection then db
  else { db with slots := db.slots.modify token.index fun slot =>
      if UInt32.ofNat slot.generation ≠ token.generation || slot.state = .closed then slot
      else { slot with runnable := true } }

def queuedTimeout : DbFailure where
  kind := .timedOut
  reachedServer := false
  message := "timed out while queued"

def inFlightTimeout : DbFailure where
  kind := .timedOut
  reachedServer := true
  message := "timed out in flight"

def expireSlot (now : TimePoint) (slot : DbSlot) : DbSlot × List DbOutcome :=
  match slot.inFlight with
  | none => (slot, [])
  | some f => if f.deadline > now then (slot, []) else poisonSlot slot inFlightTimeout now

/-- A queued operation that is due leaves the queue, one in flight takes its
connection with it. -/
def expireDeadlines (db : DbClient) (now : TimePoint) : DbClient × List DbCompletion :=
  let due := db.queue.filter fun q => q.deadline ≤ now
  let kept := db.queue.filter fun q => q.deadline > now
  let expired := db.slots.map (expireSlot now)
  complete
    { db with
      queue := kept
      queuedBytes := db.queuedBytes - footprints due
      slots := expired.map (·.1) }
    (due.map (·.outcome queuedTimeout) ++ (expired.map (·.2)).flatten)

def maintainConnections (db : DbClient) (now : TimePoint) : DbClient :=
  if db.shuttingDown then db
  else db.openWhere fun slot => slot.state = .closed && slot.retryAt ≤ now

def shutdownFailure : DbFailure where
  kind := .overloaded
  reachedServer := false
  message := "worker is shutting down"

def beginShutdown (db : DbClient) : DbClient × List DbCompletion :=
  complete
    { db with
      shuttingDown := true
      queue := []
      queuedBytes := db.queuedBytes - footprints db.queue }
    (db.queue.map (·.outcome shutdownFailure))

def lostAtShutdown : DbFailure where
  kind := .connectionLost
  reachedServer := true
  message := "worker is shutting down"

/-- The end of `shutdown`: what is still in flight is failed and every handle is
closed. -/
def forceClose (db : DbClient) : DbClient × List DbCompletion :=
  complete
    { db with slots := db.slots.map fun slot => { closeSlot slot with inFlight := none } }
    (db.slots.map fun slot =>
      (slot.inFlight.map fun f => f.outcome (failureResultFor f lostAtShutdown)).toList).flatten

end DbClient

end Snf.Worker
