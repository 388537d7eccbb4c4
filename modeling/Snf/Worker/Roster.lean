import Snf.Worker.Worker
import Snf.Lib.Ensures

/-! # The roster: a worker as its table, ready queue and history

Scheduling, awaits and mailboxes do not depend on timers, on the
database or on the phases of the loop. The roster keeps the rest, and its moves are
the smallest changes that the code makes to it: one slot at a time, with the push or
the pop of its handle and the record of what happened.

A `Permit` says what a sequence of moves may do: create slots, discard messages,
and dispatch for which activations. `Fault` says in which rosters an error of the
source is thrown. That every step of the worker is a sequence of permitted moves is
shown in `Snf.Worker.RosterSteps`; the invariants are proved from the moves alone.
-/

namespace Snf.Worker

open Snf.Lib

namespace BlockedTask

variable {τ : Type}

def key : BlockedTask τ → AwaitKey
  | .synthetic command => command.key
  | .db command => command.key
  | .activationLoad load => load.key

/-- A suspended turn that has its completion. -/
def ready : BlockedTask τ → Bool
  | .synthetic command => command.completion.isSome
  | .db command => command.completion.isSome
  | .activationLoad _ => false

/-- A suspended turn that has no completion yet. -/
def waiting : BlockedTask τ → Bool
  | .synthetic command => command.completion.isNone
  | .db command => command.completion.isNone
  | .activationLoad _ => false

/-- The same await with its completion. -/
inductive Completes : BlockedTask τ → BlockedTask τ → Prop where
  | synthetic (command : SuspendedCommand τ SyntheticAwaitOutcome)
      (h : command.completion = none) (outcome : SyntheticAwaitOutcome) :
      Completes (.synthetic command) (.synthetic { command with completion := some outcome })
  | db (command : SuspendedCommand τ DbResult) (h : command.completion = none)
      (result : DbResult) : Completes (.db command) (.db { command with completion := some result })

theorem Completes.waiting {b b' : BlockedTask τ} (h : Completes b b') : b.waiting = true := by
  cases h with
  | synthetic _ h => simp [BlockedTask.waiting, h]
  | db _ h => simp [BlockedTask.waiting, h]

theorem Completes.ready {b b' : BlockedTask τ} (h : Completes b b') : b'.ready = true := by
  cases h <;> rfl

theorem Completes.key {b b' : BlockedTask τ} (h : Completes b b') : b'.key = b.key := by
  cases h <;> rfl

theorem not_waiting_of_ready {b : BlockedTask τ} (h : b.ready = true) : b.waiting = false := by
  cases b with
  | synthetic command => simpa [ready, waiting, Option.isSome_iff_ne_none] using h
  | db command => simpa [ready, waiting, Option.isSome_iff_ne_none] using h
  | activationLoad load => rfl

theorem not_ready_of_waiting {b : BlockedTask τ} (h : b.waiting = true) : b.ready = false := by
  cases hr : b.ready with
  | false => rfl
  | true =>
    rw [not_waiting_of_ready hr] at h
    cases h

end BlockedTask

/-- Some function of the actors throws this error. -/
inductive ActorModel.Raises (A : ActorModel) (e : String) : Prop where
  | construct (key : ActorKey) (h : A.construct key = .error e)
  | constructLoaded (key : ActorKey) (loaded : LoadPlayerResult)
      (h : A.constructLoaded key loaded = .error e)
  | dispatch (inst : A.Instance) (message : ActorEnvelope A.Message) (context : ActorTurnContext)
      (h : A.dispatch inst message context = .error e)
  | lifecycleTurn (inst : A.Instance) (context : ActorTurnContext) (shuttingDown : Bool)
      (h : A.lifecycleTurn inst context shuttingDown = .error e)
  | resumeDb (inst : A.Instance) (task : A.Task) (result : DbResult)
      (h : A.resumeDb inst task result = .error e)
  | resumeSynthetic (inst : A.Instance) (task : A.Task) (outcome : SyntheticAwaitOutcome)
      (h : A.resumeSynthetic inst task outcome = .error e)

@[ext] structure Roster (A : ActorModel) where
  actors : AList (fun _ : ActorKey => ActorSlot A)
  readyQueue : List ActivationRef
  totalMailboxMessages : Nat
  totalMailboxBytes : Nat
  loadingCount : Nat
  nextIncarnation : ActorIncarnation
  nextOperation : OperationId
  nextTurn : Nat
  history : List (WorkerEvent A.Message)
  shuttingDown : Bool
  stage : WorkerStage
  phase : LoopPhase

namespace WorkerState

variable {A : ActorModel}

def roster (w : WorkerState A) : Roster A where
  actors := w.actors
  readyQueue := w.readyQueue
  totalMailboxMessages := w.totalMailboxMessages
  totalMailboxBytes := w.totalMailboxBytes
  loadingCount := w.loadingCount
  nextIncarnation := w.nextIncarnation
  nextOperation := w.nextOperation
  nextTurn := w.nextTurn
  history := w.history
  shuttingDown := w.shuttingDown
  stage := w.stage
  phase := w.phase

end WorkerState

namespace Roster

variable {A : ActorModel}

def find (r : Roster A) (handle : ActivationRef) : Option (ActorSlot A) :=
  (r.actors.lookup handle.actor).filter fun slot => slot.incarnation = handle.incarnation

def set (r : Roster A) (key : ActorKey) (slot : ActorSlot A) : Roster A :=
  { r with actors := r.actors.insert key slot }

def push (r : Roster A) (handle : ActivationRef) : Roster A :=
  { r with readyQueue := r.readyQueue ++ [handle] }

def enqueue (r : Roster A) (key : ActorKey) (slot : ActorSlot A) : Roster A :=
  (r.set key { slot with state := .queued }).push ⟨key, slot.incarnation⟩

def record (r : Roster A) (event : WorkerEvent A.Message) : Roster A :=
  { r with history := event :: r.history }

def charge (r : Roster A) (target : ActivationRef) (envelope : ActorEnvelope A.Message) :
    Roster A :=
  { r.record (.accepted target envelope) with
    totalMailboxMessages := r.totalMailboxMessages + 1
    totalMailboxBytes := r.totalMailboxBytes + envelope.chargedBytes }

def discharge (r : Roster A) (target : ActivationRef) (envelope : ActorEnvelope A.Message) :
    Roster A :=
  { r.record (.dispatched target envelope) with
    totalMailboxMessages := r.totalMailboxMessages - 1
    totalMailboxBytes := r.totalMailboxBytes - envelope.chargedBytes }

def remove (r : Roster A) (key : ActorKey) (slot : ActorSlot A) : Roster A :=
  { r.record (.discarded ⟨key, slot.incarnation⟩ slot.mailbox) with
    actors := r.actors.erase key
    totalMailboxMessages := r.totalMailboxMessages - slot.mailbox.length
    totalMailboxBytes := r.totalMailboxBytes - slot.mailboxBytes
    loadingCount := if slot.state = .loading then r.loadingCount - 1 else r.loadingCount }

def complete (r : Roster A) (key : AwaitKey) : Roster A := r.record (.completed key r.nextTurn)

/-- The mailbox of the slot and the totals have room for a message of this charge. -/
structure Admits (config : WorkerActorConfig) (r : Roster A) (slot : ActorSlot A)
    (charge : Nat) : Prop where
  messages : slot.mailbox.length < config.maxMailboxMessagesPerActor
  bytes : slot.mailboxBytes + charge ≤ config.maxMailboxBytesPerActor
  totalMessages : r.totalMailboxMessages < config.maxMailboxMessagesTotal
  totalBytes : r.totalMailboxBytes + charge ≤ config.maxMailboxBytesTotal

/-- The first message of an activation meets no limit on the number in its mailbox. -/
structure AdmitsFirst (config : WorkerActorConfig) (r : Roster A) (charge : Nat) : Prop where
  bytes : charge ≤ config.maxMailboxBytesPerActor
  totalMessages : r.totalMailboxMessages < config.maxMailboxMessagesTotal
  totalBytes : r.totalMailboxBytes + charge ≤ config.maxMailboxBytesTotal

theorem find_eq_some {r : Roster A} {handle : ActivationRef} {slot : ActorSlot A} :
    r.find handle = some slot ↔
      r.actors.lookup handle.actor = some slot ∧ slot.incarnation = handle.incarnation := by
  simp only [find, Option.filter_eq_some_iff, decide_eq_true_eq]

end Roster

/-- What a sequence of moves may do. -/
structure Permit where
  creates : Prop
  drops : Prop
  dispatches : ActivationRef → Prop

/-- Everything is permitted. -/
def Permit.all : Permit := ⟨True, True, fun _ => True⟩

namespace Roster

variable {A : ActorModel}

/-! ## Moves -/

inductive Move (config : WorkerActorConfig) (p : Permit) : Roster A → Roster A → Prop where
  | count {r : Roster A} (i o t : Nat) (hi : r.nextIncarnation ≤ i) (ho : r.nextOperation ≤ o)
      (ht : r.nextTurn ≤ t) :
      Move config p r { r with nextIncarnation := i, nextOperation := o, nextTurn := t }
  | arm {r : Roster A} {key : ActorKey} {slot : ActorSlot A} (armed : Bool)
      (hl : r.actors.lookup key = some slot) :
      Move config p r (r.set key { slot with lifecycleArmed := armed })
  | receive {r : Roster A} {key : ActorKey} {slot : ActorSlot A}
      (envelope : ActorEnvelope A.Message) (hl : r.actors.lookup key = some slot)
      (hs : slot.state ≠ .stopping) (hi : slot.state ≠ .idle)
      (ha : r.Admits config slot envelope.chargedBytes) :
      Move config p r ((r.charge ⟨key, slot.incarnation⟩ envelope).set key
        { slot with mailbox := slot.mailbox ++ [envelope] })
  | receiveIdle {r : Roster A} {key : ActorKey} {slot : ActorSlot A}
      (envelope : ActorEnvelope A.Message) (hl : r.actors.lookup key = some slot)
      (hi : slot.state = .idle) (ha : r.Admits config slot envelope.chargedBytes) :
      Move config p r ((r.charge ⟨key, slot.incarnation⟩ envelope).enqueue key
        { slot with mailbox := slot.mailbox ++ [envelope] })
  | construct {r : Roster A} {key : ActorKey} (actor : A.Instance)
      (envelope : ActorEnvelope A.Message) (hp : p.creates) (hl : r.actors.lookup key = none)
      (hc : r.actors.entries.length < config.actorTableCapacity)
      (ha : r.AdmitsFirst config envelope.chargedBytes) :
      Move config p r
        (({ r with nextIncarnation := r.nextIncarnation + 1 }.charge ⟨key, r.nextIncarnation⟩
          envelope).enqueue key
            { incarnation := r.nextIncarnation, inst := some actor, mailbox := [envelope] })
  | load {r : Roster A} {key : ActorKey} (deadline : TimePoint)
      (envelope : ActorEnvelope A.Message) (hp : p.creates) (hl : r.actors.lookup key = none)
      (hc : r.actors.entries.length < config.actorTableCapacity)
      (ha : r.AdmitsFirst config envelope.chargedBytes) :
      Move config p r
        ({ r.charge ⟨key, r.nextIncarnation⟩ envelope with
            nextIncarnation := r.nextIncarnation + 1
            nextOperation := r.nextOperation + 1
            loadingCount := r.loadingCount + 1 }.set key
          { incarnation := r.nextIncarnation, state := .loading, mailbox := [envelope]
            blocked := some (.activationLoad
              { key := ⟨key, r.nextIncarnation, r.nextOperation⟩, deadline := deadline }) })
  | wake {r : Roster A} {key : ActorKey} {slot : ActorSlot A}
      (hl : r.actors.lookup key = some slot) (hi : slot.state = .idle) :
      Move config p r (r.enqueue key slot)
  /-- A handle at the head of the queue whose actor has nothing to run. -/
  | skip {r : Roster A} {handle : ActivationRef} {rest : List ActivationRef}
      (hq : r.readyQueue = handle :: rest)
      (hs : ∀ slot, r.find handle = some slot → slot.state = .queued →
        ∃ b, slot.blocked = some b ∧ b.ready = false) :
      Move config p r { r with readyQueue := rest }
  | start {r : Roster A} {handle : ActivationRef} {rest : List ActivationRef} {slot : ActorSlot A}
      (hq : r.readyQueue = handle :: rest) (hf : r.find handle = some slot)
      (hs : slot.state = .queued) (hb : slot.blocked = none) :
      Move config p r
        ({ r with readyQueue := rest }.set handle.actor { slot with state := .running })
  | resume {r : Roster A} {handle : ActivationRef} {rest : List ActivationRef}
      {slot : ActorSlot A} {b : BlockedTask A.Task} (inst : A.Instance)
      (hq : r.readyQueue = handle :: rest) (hf : r.find handle = some slot)
      (hs : slot.state = .queued) (hb : slot.blocked = some b) (hr : b.ready = true) :
      Move config p r
        ({ r.record (.resumed b.key r.nextTurn) with
            readyQueue := rest, nextTurn := r.nextTurn + 1 }.set handle.actor
          { slot with blocked := none, state := .running, inst := some inst })
  | turn {r : Roster A} {handle : ActivationRef} {slot : ActorSlot A} (inst : A.Instance)
      (hf : r.find handle = some slot) (hs : slot.state = .running) :
      Move config p r (r.set handle.actor { slot with inst := some inst })
  | dispatch {r : Roster A} {handle : ActivationRef} {slot : ActorSlot A} (inst : A.Instance)
      {envelope : ActorEnvelope A.Message} {mailbox : List (ActorEnvelope A.Message)}
      (hp : p.dispatches handle) (hf : r.find handle = some slot) (hs : slot.state = .running)
      (hm : slot.mailbox = envelope :: mailbox) :
      Move config p r ((r.discharge handle envelope).set handle.actor
        { slot with inst := some inst, mailbox := mailbox })
  | stop {r : Roster A} {handle : ActivationRef} {slot : ActorSlot A}
      (hf : r.find handle = some slot) (hs : slot.state = .running ∨ slot.state = .stopping) :
      Move config p r (r.set handle.actor { slot with state := .stopping })
  | rest {r : Roster A} {handle : ActivationRef} {slot : ActorSlot A}
      (hf : r.find handle = some slot) (hs : slot.state = .running) :
      Move config p r (r.set handle.actor { slot with state := .idle })
  | requeue {r : Roster A} {handle : ActivationRef} {slot : ActorSlot A}
      (hf : r.find handle = some slot) (hs : slot.state = .running) :
      Move config p r (r.enqueue handle.actor slot)
  | suspend {r : Roster A} {handle : ActivationRef} {slot : ActorSlot A} {b : BlockedTask A.Task}
      (hf : r.find handle = some slot) (hs : slot.state = .running) (hw : b.waiting = true)
      (hk : b.key = ⟨handle.actor, slot.incarnation, r.nextOperation⟩) :
      Move config p r ({ r with nextOperation := r.nextOperation + 1 }.set handle.actor
        { slot with blocked := some b, state := .suspended })
  /-- The await of a turn is refused: it is completed at once. -/
  | refuse {r : Roster A} {handle : ActivationRef} {slot : ActorSlot A} {b : BlockedTask A.Task}
      (hf : r.find handle = some slot) (hs : slot.state = .running) (hr : b.ready = true)
      (hk : b.key = ⟨handle.actor, slot.incarnation, r.nextOperation⟩) :
      Move config p r (({ r with nextOperation := r.nextOperation + 1 }.complete b.key).enqueue
        handle.actor { slot with blocked := some b })
  | complete {r : Roster A} {key : ActorKey} {slot : ActorSlot A} {b b' : BlockedTask A.Task}
      (hl : r.actors.lookup key = some slot) (hb : slot.blocked = some b) (hc : b.Completes b') :
      Move config p r ((r.complete b.key).enqueue key { slot with blocked := some b' })
  | activate {r : Roster A} {key : ActorKey} {slot : ActorSlot A} {load : ActivationLoad}
      (inst : A.Instance) (hl : r.actors.lookup key = some slot) (hs : slot.state = .loading)
      (hb : slot.blocked = some (.activationLoad load)) :
      Move config p r ({ r.complete load.key with loadingCount := r.loadingCount - 1 }.set key
        { slot with inst := some inst, blocked := none, state := .idle })
  | activateQueued {r : Roster A} {key : ActorKey} {slot : ActorSlot A} {load : ActivationLoad}
      (inst : A.Instance) (hl : r.actors.lookup key = some slot) (hs : slot.state = .loading)
      (hb : slot.blocked = some (.activationLoad load)) :
      Move config p r ({ r.complete load.key with loadingCount := r.loadingCount - 1 }.enqueue key
        { slot with inst := some inst, blocked := none })
  | failLoad {r : Roster A} {key : ActorKey} {slot : ActorSlot A} {load : ActivationLoad}
      (hl : r.actors.lookup key = some slot) (hb : slot.blocked = some (.activationLoad load)) :
      Move config p r
        (((r.complete load.key).record (.loadFailed ⟨key, slot.incarnation⟩)).remove key slot)
  | remove {r : Roster A} {handle : ActivationRef} {slot : ActorSlot A}
      (hf : r.find handle = some slot) (hs : slot.state = .running ∨ slot.state = .stopping)
      (hm : slot.mailbox ≠ [] → p.drops) : Move config p r (r.remove handle.actor slot)

/-- Sequences of moves. -/
def Moves (config : WorkerActorConfig) (p : Permit) : Roster A → Roster A → Prop :=
  Relation.ReflTransGen (Move config p)

/-- The releases of the shutdown phases: any slot, in any state. -/
inductive Release : Roster A → Roster A → Prop where
  | intro {r : Roster A} {key : ActorKey} {slot : ActorSlot A}
      (hl : r.actors.lookup key = some slot) : Release r (r.remove key slot)

/-! ## Errors -/

/-- The roster in which an error is thrown. -/
inductive Fault (config : WorkerActorConfig) (p : Permit) (r : Roster A) (e : String) : Prop where
  /-- A push for a slot that is not Queued. -/
  | full {key : ActorKey} {slot : ActorSlot A} (hl : r.actors.lookup key = some slot)
      (hs : slot.state ≠ .queued) (hq : config.actorTableCapacity ≤ r.readyQueue.length)
  /-- A push for a slot that waits. -/
  | fullWaiting {key : ActorKey} {slot : ActorSlot A} {b : BlockedTask A.Task}
      (hl : r.actors.lookup key = some slot) (hb : slot.blocked = some b)
      (hw : b.waiting = true) (hq : config.actorTableCapacity ≤ r.readyQueue.length)
  /-- A push for a new slot. -/
  | fullNew (hp : p.creates) (hc : r.actors.entries.length < config.actorTableCapacity)
      (hq : config.actorTableCapacity ≤ r.readyQueue.length)
  | notReady {handle : ActivationRef} {rest : List ActivationRef} {slot : ActorSlot A}
      {b : BlockedTask A.Task} (hq : r.readyQueue = handle :: rest)
      (hf : r.find handle = some slot) (hs : slot.state = .queued) (hb : slot.blocked = some b)
      (hw : b.ready = false)
  | raised (h : A.Raises e)
  | other (hq : e ≠ WorkerState.queueFull) (hn : e ≠ WorkerState.notReady)

/-- `x`, run from the roster `r`, returns what satisfies `post`, or throws in a roster
that moves lead to. -/
def Refines {α : Type} (config : WorkerActorConfig) (p : Permit) (r : Roster A)
    (x : Except String α) (post : α → Prop) : Prop :=
  Yields x post fun e => ∃ r', Moves config p r r' ∧ Fault config p r' e

/-! ## Rules -/

variable {config : WorkerActorConfig} {p q : Permit} {r r' r'' : Roster A}

namespace Moves

theorem refl (r : Roster A) : Moves config p r r := Relation.ReflTransGen.refl

theorem trans (h : Moves config p r r') (h' : Moves config p r' r'') : Moves config p r r'' :=
  Relation.ReflTransGen.trans h h'

/-- **Invariant rule.** What every permitted move keeps, a sequence of them keeps. -/
theorem invariant {P : Roster A → Prop} (hmove : ∀ r r', P r → Move config p r r' → P r')
    (h : Moves config p r r') (hr : P r) : P r' := by
  induction h with
  | refl => exact hr
  | tail _ hm ih => exact hmove _ _ ih hm

end Moves

/-- The rosters stand at the same point of the loop and of the shutdown. -/
structure SameControl (r r' : Roster A) : Prop where
  stage : r'.stage = r.stage
  shuttingDown : r'.shuttingDown = r.shuttingDown
  phase : r'.phase = r.phase

theorem SameControl.refl (r : Roster A) : SameControl r r := ⟨rfl, rfl, rfl⟩

theorem SameControl.trans (h : SameControl r r') (h' : SameControl r' r'') : SameControl r r'' :=
  ⟨h'.stage.trans h.stage, h'.shuttingDown.trans h.shuttingDown, h'.phase.trans h.phase⟩

theorem Move.control (h : Move config p r r') : SameControl r r' := by
  cases h <;> exact ⟨rfl, rfl, rfl⟩

/-- Moves do not enter another stage. -/
theorem Moves.control (h : Moves config p r r') : SameControl r r' :=
  h.invariant (P := SameControl r) (fun _ _ hr hm => hr.trans hm.control) (.refl r)

/-- The history grows, and only by permitted dispatches. -/
def Grows (p : Permit) (r r' : Roster A) : Prop :=
  ∃ new, r'.history = new ++ r.history ∧
    ∀ target message, .dispatched target message ∈ new → p.dispatches target

theorem Grows.refl (r : Roster A) : Grows p r r := ⟨[], rfl, by simp⟩

theorem Grows.trans (h : Grows p r r') (h' : Grows p r' r'') : Grows p r r'' := by
  obtain ⟨new, hn, hp⟩ := h
  obtain ⟨new', hn', hp'⟩ := h'
  refine ⟨new' ++ new, by rw [hn', hn, List.append_assoc], fun target message hm => ?_⟩
  rcases List.mem_append.1 hm with hm | hm
  · exact hp' target message hm
  · exact hp target message hm

theorem Move.grows (h : Move config p r r') : Grows p r r' := by
  cases h with
  | dispatch inst hp =>
    refine ⟨[_], rfl, ?_⟩
    rintro _ _ (_ | ⟨_, ⟨⟩⟩)
    exact hp
  | failLoad => exact ⟨[_, _, _], rfl, by simp⟩
  | count | arm | wake | skip | start | turn | stop | rest | requeue | suspend =>
    exact .refl _
  | receive | receiveIdle | construct | load | resume | refuse | complete | activate
  | activateQueued | remove => exact ⟨[_], rfl, by simp⟩

theorem Moves.grows (h : Moves config p r r') : Grows p r r' :=
  h.invariant (P := Grows p r) (fun _ _ hr hm => hr.trans hm.grows) (.refl r)

theorem releases_control (h : Relation.ReflTransGen Release r r') : SameControl r r' := by
  induction h with
  | refl => exact .refl r
  | tail _ hr ih =>
    obtain ⟨hl⟩ := hr
    exact ih.trans ⟨rfl, rfl, rfl⟩

theorem Release.grows (h : Release r r') : Grows p r r' := by
  obtain ⟨hl⟩ := h
  exact ⟨[_], rfl, by simp⟩

theorem Move.moves (h : Move config p r r') : Moves config p r r' := .single h

namespace Refines

variable {α β : Type} {x y : Except String α} {post mid : α → Prop}

theorem ok {a : α} (h : post a) : Refines config p r (.ok a) post := h

theorem error {e : String} (h : Fault config p r e) : Refines config p r (.error e) post :=
  ⟨r, .refl r, h⟩

theorem mono (h : Refines config p r x mid) (himp : ∀ a, mid a → post a) :
    Refines config p r x post :=
  Yields.mono h himp fun _ => id

theorem bind {f : α → Except String β} {post : β → Prop} (hx : Refines config p r x mid)
    (hf : ∀ a, mid a → Refines config p r (f a) post) : Refines config p r (x >>= f) post :=
  Yields.bind hx hf

theorem ite {c : Prop} [Decidable c] (ht : c → Refines config p r x post)
    (hf : ¬c → Refines config p r y post) : Refines config p r (if c then x else y) post :=
  Yields.ite ht hf

theorem and (h : Refines config p r x post) (h' : Ensures x mid) :
    Refines config p r x fun a => post a ∧ mid a :=
  Yields.and h h'

/-- What starts after some moves starts before them. -/
theorem after (hm : Moves config p r r') (h : Refines config p r' x post) :
    Refines config p r x post :=
  Yields.mono h (fun _ => id) fun _ ⟨r'', hm', hf⟩ => ⟨r'', hm.trans hm', hf⟩

end Refines

end Roster

end Snf.Worker
