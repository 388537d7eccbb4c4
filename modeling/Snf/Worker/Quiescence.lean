import Snf.Lib.Machine
import Snf.Lib.Update
import Snf.Worker.Barrier

/-! # Shutdown quiescence of a worker group

The workers of a group run until `requestStop` has armed the barrier, and then
enter phase B of their shutdown, where they go on handling what is left until the
barrier verifies that nothing is left anywhere.

A step is one atomic action of one worker thread: a push into another worker's
inbox, the `notePublished` that follows it, the pop of an event, the beginning or
the end of what a thread does between two such actions (the handler of an event or
an actor turn), a read or an exchange of the barrier word, the local scan. Between
the beginning and the end of a handler or turn the worker may push any number of
events, and what is ready, blocked, pending or scheduled afterwards is arbitrary.
Before phase B a turn may begin at any time, since requests come in from outside.
In phase B the doors are closed: a turn needs something that is ready, blocked,
lifecycle-pending or scheduled, and a handler needs an event.

In phase B the local work is what the scan of `runShutdownPhaseB` reads, so that a
lifecycle-pending actor is one that `hasPendingActorLifecycle` reports. An actor
asks for a turn of its own only while it reports `shutdownPending`.

A worker that is past phase B runs no actors any more, but phases C and D still drain
its inbox. What it publishes there are the receipts for notices of closed connections.
-/

namespace Snf.Worker

open Snf.Lib

/-- What the local scan counts. -/
structure Work where
  ready : Nat := 0
  blocked : Nat := 0
  lifecycle : Nat := 0
  /-- application timers and reservations of the timer queue -/
  timers : Nat := 0
deriving DecidableEq, Repr

def Work.isEmpty (w : Work) : Bool :=
  w.ready == 0 && w.blocked == 0 && w.lifecycle == 0 && w.timers == 0

/-- Where a worker stands with respect to phase B. -/
inductive Phase where
  /-- the main loop and phase A -/
  | running
  | active
  /-- `Waiting`, at the head of the loop -/
  | waiting
  /-- after the snapshot, before the local scan -/
  | scanning (epoch : BarrierWord)
  /-- the scan has found work -/
  | reactivating
  /-- the scan has found nothing -/
  | marking (epoch : BarrierWord)
  /-- the quiescent bit has been set -/
  | marked
  /-- `snap_after` was all quiescent -/
  | verifying (epoch : BarrierWord)
  /-- out of phase B through a verified `all_quiescent` -/
  | left
  /-- out of phase B by deadline or abort -/
  | gone
deriving DecidableEq, Repr

/-- Past phase B. -/
def Phase.departed : Phase → Bool
  | .left | .gone => true
  | _ => false

/-- The kind of event an inbox carries, as far as the counters tell them apart. -/
inductive EventKind where
  /-- `RemoteActorMessage` -/
  | actorMessage
  /-- `RemoteActorConnectionClosed`, which is answered with a receipt -/
  | closeNotice
  /-- sends and closes of connections, and the receipts -/
  | other
deriving DecidableEq, Repr

/-- The receipt that a worker past phase B is about to send to the owner of a connection. -/
inductive Receipt (n : Nat) where
  | owed (owner : Fin n)
  /-- pushed, and its `notePublished` is still to come -/
  | pushed (owner : Fin n)
deriving DecidableEq, Repr

structure WorkerProgress (n : Nat) where
  phase : Phase := .running
  work : Work := {}
  /-- the thread is inside the handler of an event or an actor turn -/
  busy : Bool := false
  /-- an event has been pushed and its `notePublished` is still to come -/
  publishing : Option (Fin n × EventKind) := none
  receipt : Option (Receipt n) := none
  remoteTellsSent : Nat := 0
  remoteTellsReceived : Nat := 0
deriving DecidableEq

structure GroupState (n : Nat) where
  barrier : BarrierWord := 0
  worker : Fin n → WorkerProgress n := fun _ => {}
  inbox : Fin n → List EventKind := fun _ => []
  /-- the number of publications the epoch has counted, not part of the source -/
  publications : Nat := 0

inductive GroupAction (n : Nat) where
  /-- `requestStop` arms the barrier, any number of times -/
  | arm
  | abort
  | begin (i : Fin n)
  | drain (i : Fin n)
  | push (i target : Fin n) (kind : EventKind)
  | publish (i : Fin n)
  | finish (i : Fin n) (work : Work)
  | enterPhaseB (i : Fin n)
  | settle (i : Fin n)
  | pollEvents (i : Fin n)
  | snapshot (i : Fin n)
  | scan (i : Fin n)
  | reactivate (i : Fin n)
  | mark (i : Fin n)
  | snapAfter (i : Fin n)
  | snapVerify (i : Fin n)
  | expire (i : Fin n)
  /-- an event that is taken in phase C or D; `owner` is the owner of the connection that
  a notice is about -/
  | lateDrain (i owner : Fin n)
  | latePush (i : Fin n) (accepted : Bool)
  | latePublish (i : Fin n)
deriving DecidableEq, Repr

namespace GroupState

variable {n : Nat} (s : GroupState n)

def setWorker (i : Fin n) (w : WorkerProgress n) : GroupState n :=
  { s with worker := Function.update s.worker i w }

def setPhase (i : Fin n) (phase : Phase) : GroupState n :=
  s.setWorker i { s.worker i with phase := phase }

/-- The head of a handler or of an actor turn. -/
def begin (i : Fin n) : Option (GroupState n) :=
  let w := s.worker i
  if w.busy then none
  else
    match w.phase with
    | .running => some (s.setWorker i { w with busy := true })
    | .active => if w.work.isEmpty then none else some (s.setWorker i { w with busy := true })
    | _ => none

/-- `drainInbox` takes one event, and `onEvent` begins. -/
def drain (i : Fin n) : Option (GroupState n) :=
  let w := s.worker i
  if w.busy || !(w.phase == .running || w.phase == .active) then none
  else
    match s.inbox i with
    | [] => none
    | kind :: rest =>
      some { s.setWorker i { w with
          busy := true
          remoteTellsReceived := w.remoteTellsReceived + if kind = .actorMessage then 1 else 0 }
        with inbox := Function.update s.inbox i rest }

/-- A `tryPush` into the inbox of another worker that is accepted. -/
def push (i target : Fin n) (kind : EventKind) : Option (GroupState n) :=
  let w := s.worker i
  if w.busy && w.publishing.isNone && target ≠ i then
    some { s.setWorker i { w with publishing := some (target, kind) } with
      inbox := Function.update s.inbox target (s.inbox target ++ [kind]) }
  else none

/-- The `notePublished` after an accepted push, and the counter of `tellInternal`. -/
def publish (i : Fin n) : Option (GroupState n) :=
  let w := s.worker i
  match w.publishing with
  | none => none
  | some (target, kind) =>
    let next := s.barrier.notePublished target
    some { s.setWorker i { w with
        publishing := none
        remoteTellsSent := w.remoteTellsSent + if kind = .actorMessage then 1 else 0 }
      with
        barrier := next
        publications := s.publications + if s.barrier.idle || next.aborted then 0 else 1 }

def finish (i : Fin n) (work : Work) : Option (GroupState n) :=
  let w := s.worker i
  if w.busy && w.publishing.isNone then
    some (s.setWorker i { w with busy := false, work := work })
  else none

/-- The worker sees the stop request, which `requestStop` raises after it has armed the
barrier, and cancels its application timers. -/
def enterPhaseB (i : Fin n) : Option (GroupState n) :=
  let w := s.worker i
  if w.phase = .running ∧ w.busy = false ∧ s.barrier.armed = true then
    some (s.setWorker i { w with phase := .active, work := { w.work with timers := 0 } })
  else none

/-- From `Active` to `Waiting`. -/
def settle (i : Fin n) : Option (GroupState n) :=
  let w := s.worker i
  if w.phase = .active ∧ w.busy = false ∧ s.inbox i = [] ∧ w.work.ready = 0 ∧
      w.work.lifecycle = 0 then
    some (s.setPhase i .waiting)
  else none

/-- Poll events while waiting: `markActive`, then `Active`. -/
def pollEvents (i : Fin n) : Option (GroupState n) :=
  if (s.worker i).phase = .waiting then
    some { s.setPhase i .active with barrier := s.barrier.markActive i }
  else none

def snapshot (i : Fin n) : Option (GroupState n) :=
  if (s.worker i).phase = .waiting then
    let snap := s.barrier.snapshot n
    some (s.setPhase i (if snap.aborted then .gone else .scanning snap.epoch))
  else none

/-- The local scan: `has_work`. -/
def scan (i : Fin n) : Option (GroupState n) :=
  match (s.worker i).phase with
  | .scanning epoch =>
    some (s.setPhase i
      (if (s.inbox i).isEmpty && (s.worker i).work.isEmpty then .marking epoch
       else .reactivating))
  | _ => none

def reactivate (i : Fin n) : Option (GroupState n) :=
  if (s.worker i).phase = .reactivating then
    some { s.setPhase i .active with barrier := s.barrier.markActive i }
  else none

def mark (i : Fin n) : Option (GroupState n) :=
  match (s.worker i).phase with
  | .marking epoch =>
    match s.barrier.tryMarkQuiescent i epoch with
    | none => some (s.setPhase i .waiting)
    | some next => some { s.setPhase i .marked with barrier := next }
  | _ => none

def snapAfter (i : Fin n) : Option (GroupState n) :=
  if (s.worker i).phase = .marked then
    let snap := s.barrier.snapshot n
    some (s.setPhase i
      (if snap.aborted then .gone
       else if snap.allQuiescent then .verifying snap.epoch else .waiting))
  else none

def snapVerify (i : Fin n) : Option (GroupState n) :=
  match (s.worker i).phase with
  | .verifying epoch =>
    let snap := s.barrier.snapshot n
    some (s.setPhase i
      (if snap.allQuiescent && snap.epoch == epoch && !snap.aborted then .left else .waiting))
  | _ => none

/-- The deadline, which the loop reads at its head. -/
def expire (i : Fin n) : Option (GroupState n) :=
  let w := s.worker i
  if w.busy = false ∧ (w.phase = .active ∨ w.phase = .waiting) then some (s.setPhase i .gone)
  else none

/-- `drainInbox` of phase C or the drain of phase D takes one event. -/
def lateDrain (i owner : Fin n) : Option (GroupState n) :=
  let w := s.worker i
  if w.phase.departed = true ∧ w.receipt = none then
    match s.inbox i with
    | [] => none
    | kind :: rest =>
      some { s.setWorker i { w with
          receipt := if kind = .closeNotice ∧ owner ≠ i then some (.owed owner) else none
          remoteTellsReceived := w.remoteTellsReceived + if kind = .actorMessage then 1 else 0 }
        with inbox := Function.update s.inbox i rest }
  else none

/-- The push of `sendActorConnectionClosedReceipt`; a refused one is not repeated. -/
def latePush (i : Fin n) (accepted : Bool) : Option (GroupState n) :=
  let w := s.worker i
  match w.receipt with
  | some (.owed owner) =>
    if accepted then
      some { s.setWorker i { w with receipt := some (.pushed owner) } with
        inbox := Function.update s.inbox owner (s.inbox owner ++ [.other]) }
    else some (s.setWorker i { w with receipt := none })
  | _ => none

def latePublish (i : Fin n) : Option (GroupState n) :=
  let w := s.worker i
  match w.receipt with
  | some (.pushed owner) =>
    let next := s.barrier.notePublished owner
    some { s.setWorker i { w with receipt := none } with
      barrier := next
      publications := s.publications + if s.barrier.idle || next.aborted then 0 else 1 }
  | _ => none

def step (s : GroupState n) : GroupAction n → Option (GroupState n)
  | .arm => some { s with barrier := s.barrier.arm }
  | .abort => some { s with barrier := s.barrier.abort }
  | .begin i => s.begin i
  | .drain i => s.drain i
  | .push i target kind => s.push i target kind
  | .publish i => s.publish i
  | .finish i work => s.finish i work
  | .enterPhaseB i => s.enterPhaseB i
  | .settle i => s.settle i
  | .pollEvents i => s.pollEvents i
  | .snapshot i => s.snapshot i
  | .scan i => s.scan i
  | .reactivate i => s.reactivate i
  | .mark i => s.mark i
  | .snapAfter i => s.snapAfter i
  | .snapVerify i => s.snapVerify i
  | .expire i => s.expire i
  | .lateDrain i owner => s.lateDrain i owner
  | .latePush i accepted => s.latePush i accepted
  | .latePublish i => s.latePublish i

end GroupState

def groupMachine (n : Nat) : Machine (GroupState n) (GroupAction n) where
  init s := s = {}
  step := GroupState.step

/-- The runs in which no worker leaves phase B by deadline or abort. -/
def stays {n : Nat} (s : GroupState n) : GroupAction n → Prop
  | .expire _ => False
  | .snapshot _ | .snapAfter _ => s.barrier.aborted = false
  | _ => True

instance {n : Nat} (s : GroupState n) : DecidablePred (stays s)
  | .expire _ => .isFalse id
  | .snapshot _ | .snapAfter _ => inferInstanceAs (Decidable (s.barrier.aborted = false))
  | .arm | .abort | .begin _ | .drain _ | .push _ _ _ | .publish _ | .finish _ _ | .enterPhaseB _
  | .settle _ | .pollEvents _ | .scan _ | .reactivate _ | .mark _ | .snapVerify _
  | .lateDrain _ _ | .latePush _ _ | .latePublish _ =>
    .isTrue trivial

/-! ## The invariant -/

/-- Neither in the main loop nor `Active`. -/
def Phase.atRest : Phase → Bool
  | .running | .active => false
  | _ => true

/-- The event whose `notePublished` is still to come, if it is an actor message. -/
def WorkerProgress.unpublished {n : Nat} (w : WorkerProgress n) : Nat :=
  match w.publishing with
  | some (_, .actorMessage) => 1
  | _ => 0

namespace GroupState

variable {n : Nat}

/-- The worker has nothing to do, except for events whose publishers have not come to
their `notePublished` yet. -/
structure Rested (s : GroupState n) (i : Fin n) : Prop where
  atRest : (s.worker i).phase.atRest = true
  work : (s.worker i).work.isEmpty = true
  inbox : ∀ kind ∈ s.inbox i, (∃ k, (s.worker k).publishing = some (i, kind)) ∨
    kind = .other ∧ ∃ k, (s.worker k).receipt = some (.pushed i)

/-- Nothing is left anywhere, and nothing can come up again. -/
structure Quiet (s : GroupState n) : Prop where
  inbox : ∀ i, s.inbox i = []
  publishing : ∀ i, (s.worker i).publishing = none
  work : ∀ i, (s.worker i).work.isEmpty = true
  busy : ∀ i, (s.worker i).busy = false
  phase : ∀ i, (s.worker i).phase ≠ .running

/-- Actor messages sent, published or not, are received or in an inbox. -/
def Balanced (s : GroupState n) : Prop :=
  ∑ i, ((s.worker i).remoteTellsSent + (s.worker i).unpublished) =
    ∑ i, (s.worker i).remoteTellsReceived + ∑ i, (s.inbox i).count .actorMessage

/-- The barrier says, or is about to be told, that the worker has nothing to do. -/
structure Claimed (s : GroupState n) (i : Fin n) : Prop where
  live : s.barrier.Live
  said : s.barrier.quiescent i = true ∨ (s.worker i).phase = .marking s.barrier.epochBits

structure Inv (s : GroupState n) : Prop where
  epoch : s.barrier.epoch = s.publications
  armed : ∀ i, (s.worker i).phase ≠ .running → s.barrier.armed = true
  busy : ∀ i, (s.worker i).busy = true → (s.worker i).phase.atRest = false
  publishing : ∀ i, (s.worker i).publishing ≠ none → (s.worker i).busy = true
  observed : ∀ i e, (s.worker i).phase = .scanning e ∨ (s.worker i).phase = .marking e →
    e.toNat ≤ s.barrier.epoch
  rested : ∀ i, s.Claimed i → s.Rested i
  /-- a notice that a departed worker takes while its bit is set is not published yet -/
  receipt : ∀ i, (s.worker i).receipt ≠ none → (s.worker i).phase.departed = true ∧
    (s.Claimed i → ∃ k, (s.worker k).publishing = some (i, .closeNotice))
  left : ∀ i, (s.worker i).phase = .left → s.Quiet ∧ ∀ k, (s.worker k).receipt = none
  balanced : s.Balanced

theorem Inv.not_busy {s : GroupState n} (h : s.Inv) {i : Fin n}
    (hrest : (s.worker i).phase.atRest = true) : (s.worker i).busy = false := by
  by_contra hne
  have := h.busy i (by simpa using hne)
  rw [hrest] at this
  cases this

theorem Inv.no_receipt {s : GroupState n} (h : s.Inv) {i : Fin n}
    (hp : (s.worker i).phase.departed = false) : (s.worker i).receipt = none := by
  by_contra hne
  obtain ⟨hd, -⟩ := h.receipt i hne
  rw [hp] at hd
  cases hd

/-- If every worker says that it has nothing to do, nothing is left: an event in an inbox
would have a publisher, a publisher is not at rest, and a receipt is owed for a notice
that has a publisher. -/
theorem Inv.quiet {s : GroupState n} (h : s.Inv) (hc : ∀ i, s.Claimed i) :
    s.Quiet ∧ ∀ k, (s.worker k).receipt = none := by
  have hr : ∀ i, s.Rested i := fun i => h.rested i (hc i)
  have hbusy : ∀ i, (s.worker i).busy = false := fun i => h.not_busy (hr i).atRest
  have hpub : ∀ i, (s.worker i).publishing = none := by
    intro i
    by_contra hne
    have := h.publishing i hne
    rw [hbusy i] at this
    cases this
  have hreceipt : ∀ i, (s.worker i).receipt = none := by
    intro i
    by_contra hne
    obtain ⟨k, hk⟩ := (h.receipt i hne).2 (hc i)
    rw [hpub k] at hk
    cases hk
  refine ⟨⟨fun i => ?_, hpub, fun i => (hr i).work, hbusy, fun i he => ?_⟩, hreceipt⟩
  · rw [List.eq_nil_iff_forall_not_mem]
    intro kind hkind
    rcases (hr i).inbox kind hkind with ⟨k, hk⟩ | ⟨-, k, hk⟩
    · rw [hpub k] at hk
      cases hk
    · rw [hreceipt k] at hk
      cases hk
  · have := (hr i).atRest
    rw [he] at this
    cases this

/-! ## Steps that move a worker through phase B -/

section Phases

variable (s : GroupState n) (i k : Fin n) (p : Phase)

@[simp] theorem setPhase_phase :
    ((s.setPhase i p).worker k).phase = if k = i then p else (s.worker k).phase := by
  by_cases h : k = i
  · subst h; simp [setPhase, setWorker]
  · simp [setPhase, setWorker, h]

/-- A step to another phase changes nothing else of any worker. -/
theorem setPhase_worker : ((s.setPhase i p).worker k) =
    { s.worker k with phase := ((s.setPhase i p).worker k).phase } := by
  by_cases h : k = i
  · subst h; simp [setPhase, setWorker]
  · simp [setPhase, setWorker, h]

@[simp] theorem setPhase_work : ((s.setPhase i p).worker k).work = (s.worker k).work := by
  rw [setPhase_worker]
@[simp] theorem setPhase_busy : ((s.setPhase i p).worker k).busy = (s.worker k).busy := by
  rw [setPhase_worker]
@[simp] theorem setPhase_publishing :
    ((s.setPhase i p).worker k).publishing = (s.worker k).publishing := by
  rw [setPhase_worker]
@[simp] theorem setPhase_receipt :
    ((s.setPhase i p).worker k).receipt = (s.worker k).receipt := by
  rw [setPhase_worker]
@[simp] theorem setPhase_remoteTellsSent :
    ((s.setPhase i p).worker k).remoteTellsSent = (s.worker k).remoteTellsSent := by
  rw [setPhase_worker]
@[simp] theorem setPhase_remoteTellsReceived :
    ((s.setPhase i p).worker k).remoteTellsReceived = (s.worker k).remoteTellsReceived := by
  rw [setPhase_worker]
@[simp] theorem setPhase_inbox : (s.setPhase i p).inbox = s.inbox := rfl

@[simp] theorem setPhase_unpublished :
    ((s.setPhase i p).worker k).unpublished = (s.worker k).unpublished := by
  rw [WorkerProgress.unpublished, setPhase_publishing, WorkerProgress.unpublished]

end Phases

/-- A worker in phase B moves to another phase. The barrier keeps its epoch; the only bit
that may be new is that of the worker itself, which then has nothing to do. -/
theorem Inv.setPhase {s : GroupState n} (h : s.Inv) {i : Fin n} {p : Phase} {b : BarrierWord}
    (hne : (s.worker i).phase ≠ .running) (hstay : (s.worker i).phase.departed = false)
    (hbusy : (s.worker i).busy = false)
    (hepoch : b.epoch = s.barrier.epoch) (harmed : b.armed = s.barrier.armed)
    (hlive : b.Live → s.barrier.Live)
    (hbit : b.Live → ∀ k : Fin n, b.quiescent k = true →
      s.barrier.quiescent k = true ∧ (k = i → p.atRest = true) ∨ k = i ∧ p = .marked ∧ s.Rested i)
    (hrun : p ≠ .running)
    (hobserved : ∀ e, p = .scanning e ∨ p = .marking e → e.toNat ≤ s.barrier.epoch)
    (hmarking : s.barrier.Live → p = .marking s.barrier.epochBits → s.Rested i)
    (hleft : p = .left → s.Quiet ∧ ∀ k, (s.worker k).receipt = none) :
    Inv { s.setPhase i p with barrier := b } := by
  have hbits : b.epochBits = s.barrier.epochBits := BitVec.eq_of_toNat_eq hepoch
  have rested_of : ∀ k, s.Rested k → (k = i → p.atRest = true) →
      Rested { s.setPhase i p with barrier := b } k := by
    intro k hk hp
    refine ⟨?_, by simpa using hk.work, by simpa using hk.inbox⟩
    by_cases hki : k = i
    · simpa [hki] using hp hki
    · simpa [hki] using hk.atRest
  have quiet_of : (s.Quiet ∧ ∀ k, (s.worker k).receipt = none) →
      Quiet { s.setPhase i p with barrier := b } ∧
        ∀ k, ((s.setPhase i p).worker k).receipt = none := by
    rintro ⟨hq, hreceipt⟩
    refine ⟨⟨by simpa using hq.inbox, by simpa using hq.publishing, by simpa using hq.work,
      by simpa using hq.busy, fun k => ?_⟩, by simpa using hreceipt⟩
    by_cases hki : k = i
    · simpa [hki] using hrun
    · simpa [hki] using hq.phase k
  refine ⟨hepoch.trans h.epoch, ?_, ?_, by simpa using h.publishing, ?_, ?_, ?_, ?_,
    by simpa [Balanced] using h.balanced⟩
  · exact fun k _ => harmed.trans (h.armed i hne)
  · intro k hk
    have hkb : (s.worker k).busy = true := by simpa using hk
    have hki : k ≠ i := by
      intro he
      rw [he, hbusy] at hkb
      cases hkb
    simpa [hki] using h.busy k hkb
  · intro k e he
    rw [hepoch]
    by_cases hki : k = i
    · exact hobserved e (by simpa [hki] using he)
    · exact h.observed k e (by simpa [hki] using he)
  · rintro k ⟨hl, hsaid⟩
    rcases hsaid with hq | hm
    · rcases hbit hl k hq with ⟨hold, hp⟩ | ⟨rfl, rfl, hr⟩
      · exact rested_of k (h.rested k ⟨hlive hl, .inl hold⟩) hp
      · exact rested_of k hr fun _ => rfl
    · by_cases hki : k = i
      · subst hki
        have hp : p = .marking s.barrier.epochBits := by simpa [hbits] using hm
        exact rested_of k (hmarking (hlive hl) hp) fun _ => by rw [hp]; rfl
      · have hm : (s.worker k).phase = .marking s.barrier.epochBits := by
          simpa [hki, hbits] using hm
        exact rested_of k (h.rested k ⟨hlive hl, .inr hm⟩) fun hk => absurd hk hki
  · intro k hk
    replace hk : (s.worker k).receipt ≠ none := by simpa using hk
    have hki : k ≠ i := by
      intro he
      exact hk (he ▸ h.no_receipt hstay)
    obtain ⟨hd, hcause⟩ := h.receipt k hk
    refine ⟨by simpa [hki] using hd, fun ⟨hl, hsaid⟩ => ?_⟩
    have hold : s.barrier.quiescent k = true := by
      rcases hsaid with hq | hm
      · rcases hbit hl k hq with ⟨hold, -⟩ | ⟨he, -⟩
        · exact hold
        · exact absurd he hki
      · have hm : (s.worker k).phase = .marking b.epochBits := by simpa [hki] using hm
        rw [hm] at hd
        cases hd
    simpa using hcause ⟨hlive hl, .inl hold⟩
  · intro k hk
    by_cases hki : k = i
    · exact quiet_of (hleft (by simpa [hki] using hk))
    · exact quiet_of (h.left k (by simpa [hki] using hk))

/-- A worker that stays at rest, or comes to rest, with the barrier as it is. -/
theorem Inv.setPhase_rest {s : GroupState n} (h : s.Inv) {i : Fin n} {p : Phase}
    (hne : (s.worker i).phase ≠ .running) (hstay : (s.worker i).phase.departed = false)
    (hbusy : (s.worker i).busy = false) (hp : p.atRest = true)
    (hobserved : ∀ e, p = .scanning e ∨ p = .marking e → e.toNat ≤ s.barrier.epoch)
    (hmarking : s.barrier.Live → p = .marking s.barrier.epochBits → s.Rested i)
    (hleft : p = .left → s.Quiet ∧ ∀ k, (s.worker k).receipt = none) :
    Inv (s.setPhase i p) :=
  h.setPhase hne hstay hbusy rfl rfl id (fun _ _ hq => .inl ⟨hq, fun _ => hp⟩)
    (fun he => by rw [he] at hp; cases hp) hobserved hmarking hleft

/-- A worker at rest that takes its bit back becomes active. -/
theorem Inv.markActive {s : GroupState n} (h : s.Inv) (hn : n ≤ 32) {i : Fin n}
    (hrest : (s.worker i).phase.atRest = true) (hstay : (s.worker i).phase.departed = false) :
    Inv { s.setPhase i .active with barrier := s.barrier.markActive i } := by
  have hi : (i : Nat) < 32 := by omega
  refine h.setPhase (fun he => by rw [he] at hrest; cases hrest) hstay (h.not_busy hrest)
    (BarrierWord.epoch_markActive _ hi) (BarrierWord.armed_markActive _ hi)
    (BarrierWord.live_markActive hi).1 ?_ (by decide) (by simp) (by simp) (by simp)
  intro hl k hq
  rw [BarrierWord.quiescent, BarrierWord.getLsbD_markActive ((BarrierWord.live_markActive hi).1 hl)
    (by omega), Bool.and_eq_true] at hq
  refine .inl ⟨hq.1, fun hk => ?_⟩
  have hval : (i : Nat) ≠ k := by simpa using hq.2
  exact absurd (congrArg Fin.val hk.symm) hval

section PhaseSteps

variable {s t : GroupState n} {i : Fin n}

theorem Inv.settle (h : s.Inv) (ht : s.settle i = some t) : t.Inv := by
  simp only [GroupState.settle] at ht
  split at ht
  · next hc =>
    obtain rfl := Option.some.inj ht
    exact h.setPhase_rest (by simp [hc.1]) (by simp [hc.1, Phase.departed]) hc.2.1 rfl (by simp)
      (by simp) (by simp)
  · cases ht

theorem Inv.pollEvents (h : s.Inv) (hn : n ≤ 32) (ht : s.pollEvents i = some t) : t.Inv := by
  unfold GroupState.pollEvents at ht
  split at ht
  · next hw =>
    obtain rfl := Option.some.inj ht
    exact h.markActive hn (by rw [hw]; rfl) (by rw [hw]; rfl)
  · cases ht

theorem Inv.reactivate (h : s.Inv) (hn : n ≤ 32) (ht : s.reactivate i = some t) : t.Inv := by
  unfold GroupState.reactivate at ht
  split at ht
  · next hw =>
    obtain rfl := Option.some.inj ht
    exact h.markActive hn (by rw [hw]; rfl) (by rw [hw]; rfl)
  · cases ht

theorem Inv.snapshot (h : s.Inv) (ht : s.snapshot i = some t) : t.Inv := by
  unfold GroupState.snapshot at ht
  split at ht
  · next hw =>
    obtain rfl := Option.some.inj ht
    have hb := h.not_busy (i := i) (by rw [hw]; rfl)
    split
    · exact h.setPhase_rest (by simp [hw]) (by rw [hw]; rfl) hb rfl (by simp) (by simp) (by simp)
    · exact h.setPhase_rest (by simp [hw]) (by rw [hw]; rfl) hb rfl
        (by simp [BarrierWord.snapshot, BarrierWord.epoch]) (by simp) (by simp)
  · cases ht

/-- A scan that finds nothing leaves the worker rested, whatever is pushed and not
published since: that would be in the inbox. -/
theorem Inv.scan (h : s.Inv) (ht : s.scan i = some t) : t.Inv := by
  unfold GroupState.scan at ht
  split at ht
  · next epoch hw =>
    obtain rfl := Option.some.inj ht
    have hrest : (s.worker i).phase.atRest = true := by rw [hw]; rfl
    have hb := h.not_busy hrest
    split
    · next hempty =>
      have hempty := Bool.and_eq_true _ _ |>.mp hempty
      refine h.setPhase_rest (by simp [hw]) (by rw [hw]; rfl) hb rfl ?_ (fun _ _ => ?_) (by simp)
      · intro e he
        obtain rfl : epoch = e := by simpa using he
        exact h.observed i epoch (.inl hw)
      · have hin : s.inbox i = [] := by simpa using hempty.1
        exact ⟨hrest, hempty.2, by simp [hin]⟩
    · exact h.setPhase_rest (by simp [hw]) (by rw [hw]; rfl) hb rfl (by simp) (by simp) (by simp)
  · cases ht

theorem Inv.mark (h : s.Inv) (hn : n ≤ 32) (ht : s.mark i = some t) : t.Inv := by
  unfold GroupState.mark at ht
  split at ht
  · next epoch hw =>
    have hrest : (s.worker i).phase.atRest = true := by rw [hw]; rfl
    have hne : (s.worker i).phase ≠ .running := by simp [hw]
    have hi : (i : Nat) < 32 := by omega
    split at ht
    · obtain rfl := Option.some.inj ht
      exact h.setPhase_rest hne (by rw [hw]; rfl) (h.not_busy hrest) rfl (by simp) (by simp)
        (by simp)
    · next next hm =>
      obtain rfl := Option.some.inj ht
      obtain ⟨hl, rfl, rfl⟩ := BarrierWord.tryMarkQuiescent_eq_some hm
      refine h.setPhase hne (by rw [hw]; rfl) (h.not_busy hrest)
        (BarrierWord.epoch_or_twoPow _ hi) ?_ (fun _ => hl) ?_ (by simp) (by simp) (by simp)
        (by simp)
      · rw [(BarrierWord.live_or_twoPow hl hi).armed, hl.armed]
      · intro _ k hq
        rw [BarrierWord.quiescent_or_twoPow _ (by omega), Bool.or_eq_true, decide_eq_true_eq] at hq
        rcases hq with hq | hq
        · exact .inl ⟨hq, fun _ => rfl⟩
        · exact .inr ⟨Fin.ext hq.symm, rfl, h.rested i ⟨hl, .inr hw⟩⟩
  · cases ht

theorem Inv.snapAfter (h : s.Inv) (ht : s.snapAfter i = some t) : t.Inv := by
  unfold GroupState.snapAfter at ht
  split at ht
  · next hw =>
    obtain rfl := Option.some.inj ht
    have hb := h.not_busy (i := i) (by rw [hw]; rfl)
    split
    · exact h.setPhase_rest (by simp [hw]) (by rw [hw]; rfl) hb rfl (by simp) (by simp) (by simp)
    · split
      · exact h.setPhase_rest (by simp [hw]) (by rw [hw]; rfl) hb rfl (by simp) (by simp) (by simp)
      · exact h.setPhase_rest (by simp [hw]) (by rw [hw]; rfl) hb rfl (by simp) (by simp) (by simp)
  · cases ht

theorem Inv.snapVerify (h : s.Inv) (hn : n ≤ 32) (ht : s.snapVerify i = some t) : t.Inv := by
  unfold GroupState.snapVerify at ht
  split at ht
  · next epoch hw =>
    obtain rfl := Option.some.inj ht
    have hb := h.not_busy (i := i) (by rw [hw]; rfl)
    split
    · next hall =>
      refine h.setPhase_rest (by simp [hw]) (by rw [hw]; rfl) hb rfl (by simp) (by simp)
        (fun _ => h.quiet fun k => ?_)
      simp only [Bool.and_eq_true] at hall
      obtain ⟨hl, hq⟩ := BarrierWord.allQuiescent_snapshot hn hall.1.1
      exact ⟨hl, .inl (hq k k.isLt)⟩
    · exact h.setPhase_rest (by simp [hw]) (by rw [hw]; rfl) hb rfl (by simp) (by simp) (by simp)
  · cases ht

end PhaseSteps

/-! ## Steps inside a handler or a turn -/

section Turns

variable {s t : GroupState n} {i : Fin n}

/-- One worker and one inbox change, and no actor message is lost or duplicated. -/
theorem Balanced.update (h : s.Balanced) {w : WorkerProgress n} {k : Fin n} {q : List EventKind}
    (hw : t.worker = Function.update s.worker i w) (hq : t.inbox = Function.update s.inbox k q)
    (hc : w.remoteTellsSent + w.unpublished + (s.worker i).remoteTellsReceived +
        (s.inbox k).count .actorMessage =
      (s.worker i).remoteTellsSent + (s.worker i).unpublished + w.remoteTellsReceived +
        q.count .actorMessage) :
    t.Balanced := by
  have h1 := sum_update_add
    (fun w : WorkerProgress n => w.remoteTellsSent + w.unpublished) s.worker i w
  have h2 := sum_update_add (fun w : WorkerProgress n => w.remoteTellsReceived) s.worker i w
  have h3 := sum_update_add (fun q : List EventKind => q.count .actorMessage) s.inbox k q
  unfold Balanced at h ⊢
  rw [hw, hq]
  omega

/-- Worker `i`, which is not at rest, changes and is not at rest afterwards. The others
claim no more than before; for those that still claim it, what was waiting for its
publication is still waiting, and what is new in the inbox is being published by `i`. -/
theorem Inv.turn (h : s.Inv) {w : WorkerProgress n} (hw : t.worker = Function.update s.worker i w)
    (hi : (s.worker i).phase.atRest = false) (hwi : w.phase.atRest = false)
    (hreceipt : w.receipt = (s.worker i).receipt)
    (hquiet : ¬ s.Quiet) (hpublishing : w.publishing ≠ none → w.busy = true)
    (hepoch : t.barrier.epoch = t.publications) (hle : s.barrier.epoch ≤ t.barrier.epoch)
    (harmed : s.barrier.armed = true → t.barrier.armed = true)
    (hrunning : w.phase ≠ .running → s.barrier.armed = true)
    (hclaimed : ∀ k, t.Claimed k → s.Claimed k)
    (hkept : ∀ k kind, t.Claimed k → (s.worker i).publishing = some (k, kind) →
      w.publishing = some (k, kind))
    (hinbox : ∀ k, t.Claimed k → ∀ kind ∈ t.inbox k,
      kind ∈ s.inbox k ∨ w.publishing = some (k, kind))
    (hbalanced : t.Balanced) : t.Inv := by
  have hother : ∀ {k}, k ≠ i → t.worker k = s.worker k := by
    intro k hk
    rw [hw, Function.update_of_ne hk]
  have hself : t.worker i = w := by rw [hw, Function.update_self]
  have hnone : (s.worker i).receipt = none := by
    refine h.no_receipt ?_
    cases hp : (s.worker i).phase <;> first | rfl | (rw [hp] at hi; cases hi)
  have kept : ∀ {k kind}, t.Claimed k → (∃ j, (s.worker j).publishing = some (k, kind)) →
      ∃ j, (t.worker j).publishing = some (k, kind) := by
    rintro k kind hk ⟨j, hj⟩
    refine ⟨j, ?_⟩
    by_cases hji : j = i
    · rw [hji, hself]
      exact hkept k kind hk (hji ▸ hj)
    · rw [hother hji]
      exact hj
  refine ⟨hepoch, ?_, ?_, ?_, ?_, ?_, ?_, ?_, hbalanced⟩
  · intro k hk
    by_cases hki : k = i
    · exact harmed (hrunning (by rwa [hki, hself] at hk))
    · exact harmed (h.armed k (by rwa [hother hki] at hk))
  · intro k hk
    by_cases hki : k = i
    · rwa [hki, hself]
    · rw [hother hki] at hk ⊢
      exact h.busy k hk
  · intro k hk
    by_cases hki : k = i
    · rw [hki, hself] at hk ⊢
      exact hpublishing hk
    · rw [hother hki] at hk ⊢
      exact h.publishing k hk
  · intro k e he
    by_cases hki : k = i
    · rw [hki, hself] at he
      rcases he with he | he <;> (rw [he] at hwi; cases hwi)
    · rw [hother hki] at he
      exact (h.observed k e he).trans hle
  · intro k hk
    have hr := h.rested k (hclaimed k hk)
    have hki : k ≠ i := by
      intro he
      have := hr.atRest
      rw [he, hi] at this
      cases this
    refine ⟨by rw [hother hki]; exact hr.atRest, by rw [hother hki]; exact hr.work, ?_⟩
    intro kind hkind
    rcases hinbox k hk kind hkind with hold | hnew
    · rcases hr.inbox kind hold with hj | ⟨ho, j, hj⟩
      · exact .inl (kept hk hj)
      · refine .inr ⟨ho, j, ?_⟩
        rw [hother]
        · exact hj
        · rintro rfl
          rw [hnone] at hj
          cases hj
    · exact .inl ⟨i, by rw [hself]; exact hnew⟩
  · intro k hk
    have hki : k ≠ i := by
      rintro rfl
      rw [hself, hreceipt] at hk
      exact hk hnone
    rw [hother hki] at hk ⊢
    obtain ⟨hd, hcause⟩ := h.receipt k hk
    exact ⟨hd, fun hc => kept hc (hcause (hclaimed k hc))⟩
  · intro k hk
    by_cases hki : k = i
    · rw [hki, hself] at hk
      rw [hk] at hwi
      cases hwi
    · exact absurd (h.left k (by rwa [hother hki] at hk)).1 hquiet

/-- A worker that is not at rest claims nothing by its phase. -/
theorem Claimed.of_update {w : WorkerProgress n} {k : Fin n} (h : t.Claimed k)
    (hb : t.barrier = s.barrier) (hw : t.worker = Function.update s.worker i w)
    (hwi : w.phase.atRest = false) : s.Claimed k := by
  obtain ⟨hl, hsaid⟩ := h
  rw [hb] at hl hsaid
  refine ⟨hl, hsaid.imp id fun hm => ?_⟩
  rw [hw, Function.update_apply] at hm
  split at hm
  · rw [hm] at hwi
    cases hwi
  · exact hm

/-- A change to worker `i` alone that keeps what it is publishing and its counters. -/
theorem Inv.setWorker (h : s.Inv) {w : WorkerProgress n} (hi : (s.worker i).phase.atRest = false)
    (hquiet : ¬ s.Quiet) (hwi : w.phase.atRest = false)
    (hrunning : w.phase ≠ .running → s.barrier.armed = true)
    (hreceipt : w.receipt = (s.worker i).receipt)
    (hpub : w.publishing = (s.worker i).publishing) (hbusy : w.publishing ≠ none → w.busy = true)
    (hsent : w.remoteTellsSent = (s.worker i).remoteTellsSent)
    (hreceived : w.remoteTellsReceived = (s.worker i).remoteTellsReceived) :
    (s.setWorker i w).Inv := by
  refine h.turn rfl hi hwi hreceipt hquiet hbusy h.epoch le_rfl id hrunning
    (fun k hk => hk.of_update rfl rfl hwi) (fun k kind _ hk => hpub.trans hk)
    (fun k _ kind hkind => .inl hkind)
    (h.balanced.update (k := i) (q := s.inbox i) rfl (Function.update_eq_self _ _).symm ?_)
  rw [hsent, hreceived, WorkerProgress.unpublished, hpub, WorkerProgress.unpublished]

theorem Inv.begin (h : s.Inv) (ht : s.begin i = some t) : t.Inv := by
  simp only [GroupState.begin] at ht
  split at ht
  · cases ht
  · split at ht
    · next hp =>
      obtain rfl := Option.some.inj ht
      exact h.setWorker (by rw [hp]; rfl) (fun hq => hq.phase i hp) (by simp [hp, Phase.atRest])
        (h.armed i) rfl rfl (fun _ => rfl) rfl rfl
    · next hp =>
      split at ht
      · cases ht
      · next hwork =>
        obtain rfl := Option.some.inj ht
        exact h.setWorker (by rw [hp]; rfl) (fun hq => hwork (hq.work i))
          (by simp [hp, Phase.atRest]) (h.armed i) rfl rfl (fun _ => rfl) rfl rfl
    · cases ht

theorem Inv.finish (h : s.Inv) {work : Work} (ht : s.finish i work = some t) : t.Inv := by
  simp only [GroupState.finish] at ht
  split at ht
  · next hc =>
    obtain ⟨hbusy, hpub⟩ := Bool.and_eq_true _ _ |>.mp hc
    obtain rfl := Option.some.inj ht
    refine h.setWorker (h.busy i hbusy) (fun hq => ?_) (h.busy i hbusy) (h.armed i) rfl rfl
      (fun hne => absurd (by simpa using hpub) hne) rfl rfl
    rw [hq.busy i] at hbusy
    cases hbusy
  · cases ht

theorem Inv.enterPhaseB (h : s.Inv) (ht : s.enterPhaseB i = some t) : t.Inv := by
  simp only [GroupState.enterPhaseB] at ht
  split at ht
  · next hc =>
    obtain ⟨hp, -, harmed⟩ := hc
    obtain rfl := Option.some.inj ht
    exact h.setWorker (by rw [hp]; rfl) (fun hq => hq.phase i hp) rfl (fun _ => harmed) rfl rfl
      (h.publishing i) rfl rfl
  · cases ht

theorem Inv.drain (h : s.Inv) (ht : s.drain i = some t) : t.Inv := by
  simp only [GroupState.drain] at ht
  split at ht
  · cases ht
  · next hc =>
    simp only [Bool.or_eq_true, Bool.not_eq_true', Bool.or_eq_false_iff, not_or,
      beq_eq_false_iff_ne, ne_eq, Bool.not_eq_true] at hc
    obtain ⟨hbusy, hphase⟩ := hc
    have hi : (s.worker i).phase.atRest = false := by
      cases hp : (s.worker i).phase <;> simp_all [Phase.atRest]
    split at ht
    · cases ht
    · next kind rest hin =>
      obtain rfl := Option.some.inj ht
      refine h.turn rfl hi hi rfl (fun hq => ?_) (fun _ => rfl) h.epoch le_rfl id (h.armed i)
        (fun k hk => hk.of_update rfl rfl hi) (fun k kd _ hk => hk) (fun k _ kd hkd => .inl ?_)
        (h.balanced.update (k := i) (q := rest) rfl rfl ?_)
      · rw [hq.inbox i] at hin
        cases hin
      · by_cases hki : k = i
        · subst hki
          rw [hin]
          exact List.mem_cons_of_mem kind (by simpa using hkd)
        · simpa [hki] using hkd
      · rw [hin]
        cases kind <;> simp [WorkerProgress.unpublished]
        omega

theorem Inv.push (h : s.Inv) {target : Fin n} {kind : EventKind}
    (ht : s.push i target kind = some t) : t.Inv := by
  simp only [GroupState.push] at ht
  split at ht
  · next hc =>
    simp only [Bool.and_eq_true, Option.isNone_iff_eq_none] at hc
    obtain ⟨⟨hbusy, hnone⟩, -⟩ := hc
    obtain rfl := Option.some.inj ht
    have hi := h.busy i hbusy
    refine h.turn rfl hi hi rfl (fun hq => ?_) (fun _ => hbusy) h.epoch le_rfl id (h.armed i)
      (fun k hk => hk.of_update rfl rfl hi) (fun k kd _ hk => ?_) (fun k _ kd hkd => ?_)
      (h.balanced.update (k := target) (q := s.inbox target ++ [kind]) rfl rfl ?_)
    · rw [hq.busy i] at hbusy
      cases hbusy
    · rw [hnone] at hk
      cases hk
    · by_cases hkt : k = target
      · subst hkt
        have hkd : kd ∈ s.inbox k ∨ kd = kind := by simpa using hkd
        rcases hkd with hold | rfl
        · exact .inl hold
        · exact .inr rfl
      · exact .inl (by simpa [hkt] using hkd)
    · cases kind <;> simp [WorkerProgress.unpublished, hnone]
      omega
  · cases ht

/-- After a publication that the barrier counts, every epoch observed so far is older, so
that only bits make claims, and the target has lost its bit. -/
theorem Inv.claimed_notePublished (h : s.Inv) (hn : n ≤ 32) {target k : Fin n}
    (hl : s.barrier.Live) (he : s.barrier.epoch < 2 ^ 30 - 1)
    (hb : t.barrier = s.barrier.notePublished target)
    (hp : (t.worker k).phase = (s.worker k).phase) (hk : t.Claimed k) :
    s.barrier.quiescent k = true ∧ k ≠ target := by
  obtain ⟨-, hq | hm⟩ := hk
  · rw [hb, BarrierWord.quiescent_notePublished hl he target (by omega), Bool.and_eq_true] at hq
    refine ⟨hq.1, ?_⟩
    rintro rfl
    simp at hq
  · rw [hp, hb] at hm
    have hle : (s.barrier.notePublished target).epoch ≤ s.barrier.epoch :=
      h.observed k _ (.inr hm)
    have hnew := BarrierWord.epoch_notePublished hl he target
    omega

theorem Inv.publish (h : s.Inv) (hn : n ≤ 32) (ht : s.publish i = some t) : t.Inv := by
  simp only [GroupState.publish] at ht
  split at ht
  · cases ht
  · next target kind hpub =>
    obtain rfl := Option.some.inj ht
    have hbusy := h.publishing i (by simp [hpub])
    have hi := h.busy i hbusy
    have hquiet : ¬ s.Quiet := by
      intro hq
      rw [hq.busy i] at hbusy
      cases hbusy
    have hbalanced : ∀ b p, Balanced { s.setWorker i { s.worker i with
        publishing := none
        remoteTellsSent := (s.worker i).remoteTellsSent + if kind = .actorMessage then 1 else 0 }
        with barrier := b, publications := p } := fun b p =>
      h.balanced.update (k := i) (q := s.inbox i) rfl (Function.update_eq_self _ _).symm
        (by cases kind <;> simp [WorkerProgress.unpublished, hpub])
    rcases BarrierWord.notePublished_cases s.barrier target with ⟨hdead, hepoch, harmed, hsame⟩ | ⟨hl, he, hl'⟩
    · refine h.turn rfl hi hi rfl hquiet (fun hne => absurd rfl hne) ?_ hepoch.ge ?_ (h.armed i)
        (fun k hk => absurd hk.live hdead) (fun k _ hk => absurd hk.live hdead)
        (fun k hk => absurd hk.live hdead) (hbalanced _ _)
      · simpa [hsame, hepoch] using h.epoch
      · exact harmed.trans
    · have hnew := BarrierWord.epoch_notePublished hl he target
      have hbit : ∀ k, Claimed { s.setWorker i { s.worker i with
            publishing := none
            remoteTellsSent := (s.worker i).remoteTellsSent +
              if kind = .actorMessage then 1 else 0 }
          with
            barrier := s.barrier.notePublished target
            publications := s.publications +
              if s.barrier.idle || (s.barrier.notePublished target).aborted then 0 else 1 } k →
          s.barrier.quiescent k = true ∧ k ≠ target := fun k hk =>
        h.claimed_notePublished hn hl he rfl (by
          simp only [GroupState.setWorker, Function.update_apply]
          split
          · next hki => rw [hki]
          · rfl) hk
      refine h.turn rfl hi hi rfl hquiet (fun hne => absurd rfl hne) ?_ (by simp [hnew])
        (fun _ => hl'.armed) (h.armed i) (fun k hk => ⟨hl, .inl (hbit k hk).1⟩) ?_
        (fun k _ kd hkd => .inl hkd) (hbalanced _ _)
      · simp [hnew, hl.idle_eq_false, hl'.aborted, h.epoch]
      · intro k kd hk hj
        rw [hpub] at hj
        exact absurd (by simpa using (congrArg (Option.map Prod.fst) hj).symm) (hbit k hk).2

end Turns

/-! ## Steps of phases C and D -/

section Late

variable {s t : GroupState n} {i : Fin n}

theorem phase_of_late {r : Option (Receipt n)} {received : Nat}
    (hw : t.worker = Function.update s.worker i
      { s.worker i with receipt := r, remoteTellsReceived := received }) (k : Fin n) :
    (t.worker k).phase = (s.worker k).phase := by
  rw [hw, Function.update_apply]
  split
  · next hki => rw [hki]
  · rfl

theorem Claimed.of_late {r : Option (Receipt n)} {received : Nat} {k : Fin n}
    (h : t.Claimed k) (hb : t.barrier = s.barrier)
    (hw : t.worker = Function.update s.worker i
      { s.worker i with receipt := r, remoteTellsReceived := received }) : s.Claimed k := by
  obtain ⟨hl, hsaid⟩ := h
  rw [hb] at hl hsaid
  rw [phase_of_late hw] at hsaid
  exact ⟨hl, hsaid⟩

/-- Worker `i`, past phase B, takes an event or goes on with a receipt. -/
theorem Inv.late (h : s.Inv) {r : Option (Receipt n)} {received : Nat}
    (hw : t.worker = Function.update s.worker i
      { s.worker i with receipt := r, remoteTellsReceived := received })
    (hd : (s.worker i).phase.departed = true)
    (hquiet : ¬ (s.Quiet ∧ ∀ k, (s.worker k).receipt = none))
    (hepoch : t.barrier.epoch = t.publications) (hle : s.barrier.epoch ≤ t.barrier.epoch)
    (harmed : s.barrier.armed = true → t.barrier.armed = true)
    (hclaimed : ∀ k, t.Claimed k → s.Claimed k)
    (hkept : ∀ k, t.Claimed k → (s.worker i).receipt = some (.pushed k) → r = some (.pushed k))
    (hinbox : ∀ k, t.Claimed k → ∀ kind ∈ t.inbox k,
      kind ∈ s.inbox k ∨ kind = .other ∧ r = some (.pushed k))
    (hcause : r ≠ none → t.Claimed i → ∃ k, (s.worker k).publishing = some (i, .closeNotice))
    (hbalanced : t.Balanced) : t.Inv := by
  have hworker : ∀ k, (t.worker k).phase = (s.worker k).phase ∧
      (t.worker k).busy = (s.worker k).busy ∧ (t.worker k).work = (s.worker k).work ∧
      (t.worker k).publishing = (s.worker k).publishing ∧
      (t.worker k).receipt = if k = i then r else (s.worker k).receipt := by
    intro k
    rw [hw, Function.update_apply]
    by_cases hki : k = i
    · subst hki
      simp
    · simp [hki]
  refine ⟨hepoch, ?_, ?_, ?_, ?_, ?_, ?_, ?_, hbalanced⟩
  · intro k hk
    exact harmed (h.armed k ((hworker k).1 ▸ hk))
  · intro k hk
    rw [(hworker k).1]
    exact h.busy k ((hworker k).2.1 ▸ hk)
  · intro k hk
    rw [(hworker k).2.1]
    exact h.publishing k ((hworker k).2.2.2.1 ▸ hk)
  · intro k e he
    rw [(hworker k).1] at he
    exact (h.observed k e he).trans hle
  · intro k hk
    have hr := h.rested k (hclaimed k hk)
    refine ⟨(hworker k).1 ▸ hr.atRest, (hworker k).2.2.1 ▸ hr.work, fun kind hkind => ?_⟩
    rcases hinbox k hk kind hkind with hold | ⟨ho, hnew⟩
    · rcases hr.inbox kind hold with ⟨j, hj⟩ | ⟨ho, j, hj⟩
      · exact .inl ⟨j, (hworker j).2.2.2.1.trans hj⟩
      · refine .inr ⟨ho, j, (hworker j).2.2.2.2.trans ?_⟩
        split
        · next he => exact hkept k hk (he ▸ hj)
        · exact hj
    · exact .inr ⟨ho, i, (hworker i).2.2.2.2.trans ((if_pos rfl).trans hnew)⟩
  · intro k hk
    rw [(hworker k).2.2.2.2] at hk
    rw [(hworker k).1]
    have hpub : (∃ j, (s.worker j).publishing = some (k, .closeNotice)) →
        ∃ j, (t.worker j).publishing = some (k, .closeNotice) :=
      fun ⟨j, hj⟩ => ⟨j, (hworker j).2.2.2.1.trans hj⟩
    split at hk
    · next he =>
      subst he
      exact ⟨hd, fun hc => hpub (hcause hk hc)⟩
    · exact ⟨(h.receipt k hk).1, fun hc => hpub ((h.receipt k hk).2 (hclaimed k hc))⟩
  · intro k hk
    rw [(hworker k).1] at hk
    exact absurd (h.left k hk) hquiet

theorem Inv.lateDrain (h : s.Inv) {owner : Fin n} (ht : s.lateDrain i owner = some t) :
    t.Inv := by
  simp only [GroupState.lateDrain] at ht
  split at ht
  · next hc =>
    obtain ⟨hd, hnone⟩ := hc
    split at ht
    · cases ht
    · next kind rest hin =>
      obtain rfl := Option.some.inj ht
      refine h.late rfl hd ?_ h.epoch le_rfl id (fun k hk => hk.of_late rfl rfl) ?_ ?_ ?_
        (h.balanced.update (k := i) (q := rest) rfl rfl ?_)
      · rintro ⟨hq, -⟩
        rw [hq.inbox i] at hin
        cases hin
      · intro k _ hk
        rw [hnone] at hk
        cases hk
      · intro k _ kd hkd
        by_cases hki : k = i
        · subst hki
          rw [hin]
          exact .inl (List.mem_cons_of_mem kind (by simpa using hkd))
        · exact .inl (by simpa [hki] using hkd)
      · -- the notice is still to be published, because it is in the inbox of a rested worker
        intro hr hk
        have hkind : kind = .closeNotice := by
          by_contra hne
          simp [hne] at hr
        rcases (h.rested i (hk.of_late rfl rfl)).inbox kind (by simp [hin]) with hj | ⟨ho, -⟩
        · exact hkind ▸ hj
        · rw [hkind] at ho
          cases ho
      · rw [hin]
        cases kind <;> simp [WorkerProgress.unpublished]
        omega
  · cases ht

theorem Inv.latePush (h : s.Inv) {accepted : Bool} (ht : s.latePush i accepted = some t) :
    t.Inv := by
  simp only [GroupState.latePush] at ht
  split at ht
  · next owner howed =>
    have hne : (s.worker i).receipt ≠ none := by simp [howed]
    obtain ⟨hd, hcause⟩ := h.receipt i hne
    have hquiet : ¬ (s.Quiet ∧ ∀ k, (s.worker k).receipt = none) := fun hq => hne (hq.2 i)
    have hkept : ∀ {r : Option (Receipt n)} (k : Fin n),
        (s.worker i).receipt = some (.pushed k) → r = some (.pushed k) := by
      intro r k hk
      rw [howed] at hk
      cases hk
    split at ht
    · obtain rfl := Option.some.inj ht
      refine h.late rfl hd hquiet h.epoch le_rfl id
        (fun k hk => hk.of_late rfl rfl) (fun k _ => hkept k) ?_
        (fun _ hk => hcause (hk.of_late rfl rfl))
        (h.balanced.update (k := owner) (q := s.inbox owner ++ [.other]) rfl rfl ?_)
      · intro k _ kd hkd
        by_cases hko : k = owner
        · subst hko
          have hkd : kd ∈ s.inbox k ∨ kd = .other := by simpa using hkd
          exact hkd.imp id fun ho => ⟨ho, rfl⟩
        · exact .inl (by simpa [hko] using hkd)
      · simp [WorkerProgress.unpublished]
    · obtain rfl := Option.some.inj ht
      exact h.late rfl hd hquiet h.epoch le_rfl id
        (fun k hk => hk.of_late rfl rfl) (fun k _ => hkept k)
        (fun k _ kd hkd => .inl hkd) (fun hr => absurd rfl hr)
        (h.balanced.update (k := i) (q := s.inbox i) rfl (Function.update_eq_self _ _).symm
          (by simp [WorkerProgress.unpublished]))
  · cases ht

theorem Inv.latePublish (h : s.Inv) (hn : n ≤ 32) (ht : s.latePublish i = some t) : t.Inv := by
  simp only [GroupState.latePublish] at ht
  split at ht
  · next owner hpushed =>
    obtain rfl := Option.some.inj ht
    have hne : (s.worker i).receipt ≠ none := by simp [hpushed]
    obtain ⟨hd, -⟩ := h.receipt i hne
    have hquiet : ¬ (s.Quiet ∧ ∀ k, (s.worker k).receipt = none) := fun hq => hne (hq.2 i)
    have hbalanced : ∀ b p, Balanced { s.setWorker i { s.worker i with receipt := none } with
        barrier := b, publications := p } := fun b p =>
      h.balanced.update (k := i) (q := s.inbox i) rfl (Function.update_eq_self _ _).symm
        (by simp [WorkerProgress.unpublished])
    rcases BarrierWord.notePublished_cases s.barrier owner with
      ⟨hdead, hepoch, harmed, hsame⟩ | ⟨hl, he, hl'⟩
    · refine h.late rfl hd hquiet ?_ hepoch.ge harmed.trans (fun k hk => absurd hk.live hdead)
        (fun k hk => absurd hk.live hdead) (fun k hk => absurd hk.live hdead)
        (fun hr => absurd rfl hr) (hbalanced _ _)
      simpa [hsame, hepoch] using h.epoch
    · have hnew := BarrierWord.epoch_notePublished hl he owner
      have hbit : ∀ k, Claimed { s.setWorker i { s.worker i with receipt := none } with
            barrier := s.barrier.notePublished owner
            publications := s.publications +
              if s.barrier.idle || (s.barrier.notePublished owner).aborted then 0 else 1 } k →
          s.barrier.quiescent k = true ∧ k ≠ owner := fun k hk =>
        h.claimed_notePublished hn hl he rfl (phase_of_late rfl k) hk
      refine h.late rfl hd hquiet ?_ (by simp [hnew]) (fun _ => hl'.armed)
        (fun k hk => ⟨hl, .inl (hbit k hk).1⟩) ?_ (fun k _ kd hkd => .inl hkd)
        (fun hr => absurd rfl hr) (hbalanced _ _)
      · simp [hnew, hl.idle_eq_false, hl'.aborted, h.epoch]
      · intro k hk hj
        rw [hpushed] at hj
        exact absurd (by simpa using hj.symm) (hbit k hk).2
  · cases ht

end Late

/-! ## Whole runs -/

/-- A new barrier with the old epoch on which no bit counts. -/
theorem Inv.setBarrier {s : GroupState n} (h : s.Inv) {b : BarrierWord}
    (hepoch : b.epoch = s.barrier.epoch) (harmed : s.barrier.armed = true → b.armed = true)
    (hclaimed : ∀ k, Claimed { s with barrier := b } k → s.Claimed k) :
    Inv { s with barrier := b } where
  epoch := hepoch.trans h.epoch
  armed i hi := harmed (h.armed i hi)
  busy := h.busy
  publishing := h.publishing
  observed i e he := (h.observed i e he).trans hepoch.ge
  rested k hk := ⟨(h.rested k (hclaimed k hk)).atRest, (h.rested k (hclaimed k hk)).work,
    (h.rested k (hclaimed k hk)).inbox⟩
  receipt k hk := ⟨(h.receipt k hk).1, fun hc => (h.receipt k hk).2 (hclaimed k hc)⟩
  left i hi := ⟨⟨(h.left i hi).1.inbox, (h.left i hi).1.publishing, (h.left i hi).1.work,
    (h.left i hi).1.busy, (h.left i hi).1.phase⟩, (h.left i hi).2⟩
  balanced := h.balanced

theorem Inv.arm {s : GroupState n} (h : s.Inv) (hn : n ≤ 32) :
    Inv { s with barrier := s.barrier.arm } := by
  refine h.setBarrier (BarrierWord.epoch_arm _) (fun _ => BarrierWord.armed_arm _) ?_
  rintro k ⟨hl, hq | hm⟩
  · rw [BarrierWord.quiescent_arm _ (by omega)] at hq
    cases hq
  · have hbits : s.barrier.arm.epochBits = s.barrier.epochBits :=
      BitVec.eq_of_toNat_eq (BarrierWord.epoch_arm _)
    have hm : (s.worker k).phase = .marking s.barrier.epochBits := by rw [← hbits]; exact hm
    refine ⟨⟨h.armed k (by simp [hm]), ?_⟩, .inr hm⟩
    rw [← BarrierWord.aborted_arm]
    exact hl.aborted

theorem Inv.abort {s : GroupState n} (h : s.Inv) : Inv { s with barrier := s.barrier.abort } := by
  refine h.setBarrier (BarrierWord.epoch_abort _) (BarrierWord.armed_abort _).trans fun k hk => ?_
  have := hk.live.aborted
  rw [BarrierWord.aborted_abort] at this
  cases this

theorem Inv.expire {s t : GroupState n} {i : Fin n} (h : s.Inv) (ht : s.expire i = some t) :
    t.Inv := by
  simp only [GroupState.expire] at ht
  split at ht
  · next hc =>
    obtain rfl := Option.some.inj ht
    exact h.setPhase_rest (by rcases hc.2 with hp | hp <;> simp [hp])
      (by rcases hc.2 with hp | hp <;> simp [hp, Phase.departed]) hc.1 rfl (by simp) (by simp)
      (by simp)
  · cases ht

theorem Inv.step {s t : GroupState n} (h : s.Inv) (hn : n ≤ 32) {a : GroupAction n}
    (ht : s.step a = some t) : t.Inv := by
  cases a with
  | arm => obtain rfl := Option.some.inj ht; exact h.arm hn
  | abort => obtain rfl := Option.some.inj ht; exact h.abort
  | begin i => exact h.begin ht
  | drain i => exact h.drain ht
  | push i target kind => exact h.push ht
  | publish i => exact h.publish hn ht
  | finish i work => exact h.finish ht
  | enterPhaseB i => exact h.enterPhaseB ht
  | settle i => exact h.settle ht
  | pollEvents i => exact h.pollEvents hn ht
  | snapshot i => exact h.snapshot ht
  | scan i => exact h.scan ht
  | reactivate i => exact h.reactivate hn ht
  | mark i => exact h.mark hn ht
  | snapAfter i => exact h.snapAfter ht
  | snapVerify i => exact h.snapVerify hn ht
  | expire i => exact h.expire ht
  | lateDrain i owner => exact h.lateDrain ht
  | latePush i accepted => exact h.latePush ht
  | latePublish i => exact h.latePublish hn ht

theorem inv_init : Inv ({} : GroupState n) where
  epoch := by
    show BarrierWord.epoch 0 = 0
    decide
  armed i hi := absurd rfl hi
  busy i hi := nomatch hi
  publishing i hi := absurd rfl hi
  observed i e he := by rcases he with he | he <;> cases he
  rested k hk := by
    have : BarrierWord.armed 0 = true := hk.live.armed
    exact absurd this (by decide)
  receipt i hi := absurd rfl hi
  left i hi := nomatch hi
  balanced := by simp [Balanced, WorkerProgress.unpublished]

theorem inv_of_reach (hn : n ≤ 32) {s : GroupState n} (h : (groupMachine n).Reach stays s) :
    s.Inv := by
  refine Machine.Reach.invariant (P := Inv) ?_ (fun _ _ _ _ hs _ hst => hs.step hn hst) h
  rintro s rfl
  exact inv_init

/-- Where nothing is left, every actor message sent has been received. -/
theorem Inv.sent_eq_received {s : GroupState n} (h : s.Inv) (hq : s.Quiet) :
    ∑ i, (s.worker i).remoteTellsSent = ∑ i, (s.worker i).remoteTellsReceived := by
  have hb := h.balanced
  simpa [Balanced, WorkerProgress.unpublished, hq.publishing, hq.inbox] using hb

end GroupState

/-- **A verified exit from phase B finds the whole group quiet.** In every run in which no
worker leaves by deadline or abort, from the moment a worker has left phase B no inbox
holds an event, no publication is outstanding, no worker has anything to do, and the
counters of remote tells agree. The epoch counts publications exactly, so it never wraps. -/
theorem quiet_of_left {n : Nat} (hn : n ≤ 32) {s : GroupState n}
    (h : (groupMachine n).Reach stays s) :
    (∀ i, (s.worker i).phase = .left → s.Quiet ∧
      ∑ k, (s.worker k).remoteTellsSent = ∑ k, (s.worker k).remoteTellsReceived) ∧
    s.barrier.epoch = s.publications := by
  have hinv := GroupState.inv_of_reach hn h
  refine ⟨fun i hi => ?_, hinv.epoch⟩
  obtain ⟨hq, -⟩ := hinv.left i hi
  exact ⟨hq, hinv.sent_eq_received hq⟩

/-- Two workers: the first sends a message in phase B and rests, the second handles it,
rests and leaves. -/
theorem quiet_of_left_two : ∃ s : GroupState 2, (groupMachine 2).Reach stays s ∧
    (s.worker 1).phase = .left ∧ s.barrier.epoch = 1 ∧ s.publications = 1 ∧ s.Quiet := by
  obtain ⟨s, hs, htest⟩ := (groupMachine 2).exists_reach_of_replay stays (s := {}) rfl
    [.begin 0, .finish 0 { lifecycle := 1 }, .arm, .enterPhaseB 0, .begin 0,
      .push 0 1 .actorMessage, .enterPhaseB 1, .publish 0, .finish 0 {}, .settle 0, .snapshot 0,
      .scan 0, .mark 0, .snapAfter 0, .drain 1, .finish 1 {}, .settle 1, .snapshot 1, .scan 1,
      .mark 1, .snapAfter 1, .snapVerify 1]
    (fun s => (s.worker 1).phase = .left && s.barrier.epoch == 1) (by decide)
  simp only [Bool.and_eq_true, decide_eq_true_eq, beq_iff_eq] at htest
  obtain ⟨hquiet, hepoch⟩ := quiet_of_left (by decide) hs
  exact ⟨s, hs, htest.1, htest.2, hepoch ▸ htest.2, (hquiet 1 htest.1).1⟩

end Snf.Worker
