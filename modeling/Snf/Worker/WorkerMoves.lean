import Snf.Worker.Worker
import Snf.Lib.Ensures

/-! # What the parts of a worker step can do

One inversion for each group of functions of the worker: what a delivery, a
completed await or a lifecycle scan can make of the state. The invariants of the
worker are proved from these and never unfold the functions again.
-/

namespace Snf.Worker

open Snf.Lib

/-! ## Submission to the database -/

theorem DbClient.tryStart_rejected {db : DbClient} {key : AwaitKey} {request : DbRequest}
    {deadline : TimePoint} (h : (db.tryStart key request deadline).1 = .rejected) :
    (db.tryStart key request deadline).2 = db := by
  simp only [DbClient.tryStart] at h ⊢
  split
  · rfl
  · split
    · rfl
    · next hs hr =>
      simp only [hs, hr] at h
      split
      · next slots hslots => simp [hslots] at h
      · next hslots =>
        simp only [hslots] at h
        split
        · rfl
        · next hfull => simp [hfull] at h

/-! ## Timers -/

theorem TimerQueue.releaseReservation_ok {μ : Type} {q : TimerQueue μ} :
    Ensures q.releaseReservation fun q' => q'.heap = q.heap :=
  fun _ h => heap_releaseReservation h

theorem TimerQueue.commitReserved_ok {μ : Type} {q : TimerQueue μ} {deadline : TimePoint}
    {payload : TimerPayload μ} :
    Ensures (q.commitReserved deadline payload) fun q' => q'.heap = ⟨deadline, payload⟩ :: q.heap :=
  fun _ h => heap_commitReserved h

namespace WorkerState

variable {A : ActorModel} {config : WorkerActorConfig} {w w' : WorkerState A}
  {handle : ActivationRef} {key : ActorKey} {slot : ActorSlot A}

theorem find_eq_some : w.find handle = some slot ↔
    w.actors.lookup handle.actor = some slot ∧ slot.incarnation = handle.incarnation := by
  simp only [find, Option.filter_eq_some_iff, decide_eq_true_eq]

/-! ## Ready queue -/

theorem pushReady_ok : Ensures (w.pushReady config handle)
    fun w' => w' = { w with readyQueue := w.readyQueue ++ [handle] } :=
  .ite (fun _ => .error) fun _ => .ok rfl

/-- What `enqueue` makes of the state: the slot is Queued; only the ready queue
changes besides. -/
theorem enqueue_ok : Ensures (w.enqueue config key slot)
    fun w' => ∃ ready, w' =
      { w.setSlot key { slot with state := .queued } with readyQueue := ready } :=
  pushReady_ok.mono fun _ h => ⟨_, h⟩

/-! ## Deliveries -/

/-- The two states agree on what only the phases of the loop and stopped turns
change. -/
structure SameRest (w w' : WorkerState A) : Prop where
  stopped : w'.stopped = w.stopped
  shuttingDown : w'.shuttingDown = w.shuttingDown
  stage : w'.stage = w.stage
  phase : w'.phase = w.phase
  now : w'.now = w.now

theorem SameRest.refl (w : WorkerState A) : SameRest w w := ⟨rfl, rfl, rfl, rfl, rfl⟩

/-- One more message is charged to the totals. -/
def Charged (w w' : WorkerState A) (envelope : ActorEnvelope A.Message) : Prop :=
  w'.totalMailboxMessages = w.totalMailboxMessages + 1 ∧
    w'.totalMailboxBytes = w.totalMailboxBytes + envelope.chargedBytes

/-- The outcomes of a delivery: nothing but spent counters, one more message in the
mailbox of an actor that is not stopping, a new actor, or a new slot that waits for
its load. -/
inductive Delivered (w w' : WorkerState A) : Prop where
  | kept (hr : SameRest w w') (ha : w'.actors = w.actors) (hdb : w'.db = w.db)
      (ht : w'.timers.heap = w.timers.heap)
      (hm : w'.totalMailboxMessages = w.totalMailboxMessages)
      (hb : w'.totalMailboxBytes = w.totalMailboxBytes)
      (hn : w.nextIncarnation ≤ w'.nextIncarnation) (ho : w.nextOperation ≤ w'.nextOperation)
  | received (key : ActorKey) (slot : ActorSlot A) (envelope : ActorEnvelope A.Message)
      (hl : w.actors.lookup key = some slot) (hs : slot.state ≠ .stopping)
      (hr : SameRest w w') (hc : Charged w w' envelope)
      (ha : w'.actors = w.actors.insert key
        { slot with
          mailbox := slot.mailbox ++ [envelope]
          state := if slot.state = .idle then .queued else slot.state })
      (hdb : w'.db = w.db) (ht : w'.timers.heap = w.timers.heap)
      (hn : w'.nextIncarnation = w.nextIncarnation) (ho : w'.nextOperation = w.nextOperation)
  | constructed (key : ActorKey) (actor : A.Instance) (envelope : ActorEnvelope A.Message)
      (hl : w.actors.lookup key = none) (hcon : A.construct key = .ok (.ready actor))
      (hr : SameRest w w') (hc : Charged w w' envelope)
      (ha : w'.actors = w.actors.insert key
        { incarnation := w.nextIncarnation, state := .queued, inst := some actor
          mailbox := [envelope] })
      (hdb : w'.db = w.db) (ht : w'.timers.heap = w.timers.heap)
      (hn : w'.nextIncarnation = w.nextIncarnation + 1) (ho : w'.nextOperation = w.nextOperation)
  | loading (key : ActorKey) (envelope : ActorEnvelope A.Message) (deadline : TimePoint)
      (awaitKey : AwaitKey) (hl : w.actors.lookup key = none)
      (hkey : awaitKey = ⟨key, w.nextIncarnation + 1, w.nextOperation⟩)
      (hr : SameRest w w') (hc : Charged w w' envelope)
      (ha : w'.actors = w.actors.insert key
        { incarnation := w.nextIncarnation + 1, state := .loading, mailbox := [envelope]
          blocked := some (.activationLoad { key := awaitKey, deadline := deadline }) })
      (hdb : w'.db = w.db ∨ ∃ c, w.db = some c ∧
        w'.db = some (c.tryStart awaitKey (.loadPlayer key.entity) deadline).2)
      (ht : w'.timers.heap = ⟨deadline, .awaitTimeout awaitKey⟩ :: w.timers.heap)
      (hn : w'.nextIncarnation = w.nextIncarnation + 2)
      (ho : w'.nextOperation = w.nextOperation + 1)

/-- **Frame of a delivery.** A slot keeps all but its mailbox; if it was idle, it may
become queued. -/
theorem Delivered.lookup (hd : Delivered w w') (hl : w.actors.lookup key = some slot) :
    ∃ mailbox state, w'.actors.lookup key =
        some { slot with mailbox := mailbox, state := state } ∧
      (state = slot.state ∨ (slot.state = .idle ∧ state = .queued)) := by
  cases hd with
  | kept _ ha => exact ⟨slot.mailbox, slot.state, ha ▸ hl, .inl rfl⟩
  | received key₁ slot₁ envelope hl₁ _ _ _ ha =>
    by_cases hk : key = key₁
    · have hsame : slot₁ = slot := Option.some.inj ((hk ▸ hl₁).symm.trans hl)
      subst hsame
      refine ⟨_, _, by rw [ha, lookup_insert_ite, if_pos hk], ?_⟩
      split
      · next hi => exact .inr ⟨hi, rfl⟩
      · exact .inl rfl
    · exact ⟨slot.mailbox, slot.state, by rw [ha, lookup_insert_ite, if_neg hk]; exact hl, .inl rfl⟩
  | constructed key₁ _ _ hl₁ _ _ _ ha =>
    have hk : key ≠ key₁ := by
      rintro rfl
      rw [hl] at hl₁
      cases hl₁
    exact ⟨slot.mailbox, slot.state, by rw [ha, lookup_insert_ite, if_neg hk]; exact hl, .inl rfl⟩
  | loading key₁ _ _ _ hl₁ _ _ _ ha =>
    have hk : key ≠ key₁ := by
      rintro rfl
      rw [hl] at hl₁
      cases hl₁
    exact ⟨slot.mailbox, slot.state, by rw [ha, lookup_insert_ite, if_neg hk]; exact hl, .inl rfl⟩

/-- The outcomes of a delivery of `envelope` to `key`, as in `Delivered`. -/
inductive Sent (key : ActorKey) (envelope : ActorEnvelope A.Message) (w w' : WorkerState A) :
    Prop where
  | kept (hr : SameRest w w') (ha : w'.actors = w.actors) (hdb : w'.db = w.db)
      (ht : w'.timers.heap = w.timers.heap)
      (hm : w'.totalMailboxMessages = w.totalMailboxMessages)
      (hb : w'.totalMailboxBytes = w.totalMailboxBytes)
      (hn : w.nextIncarnation ≤ w'.nextIncarnation) (ho : w.nextOperation ≤ w'.nextOperation)
  | received (slot : ActorSlot A)
      (hl : w.actors.lookup key = some slot) (hs : slot.state ≠ .stopping)
      (hr : SameRest w w') (hc : Charged w w' envelope)
      (ha : w'.actors = w.actors.insert key
        { slot with
          mailbox := slot.mailbox ++ [envelope]
          state := if slot.state = .idle then .queued else slot.state })
      (hdb : w'.db = w.db) (ht : w'.timers.heap = w.timers.heap)
      (hn : w'.nextIncarnation = w.nextIncarnation) (ho : w'.nextOperation = w.nextOperation)
  | constructed (actor : A.Instance)
      (hl : w.actors.lookup key = none) (hcon : A.construct key = .ok (.ready actor))
      (hr : SameRest w w') (hc : Charged w w' envelope)
      (ha : w'.actors = w.actors.insert key
        { incarnation := w.nextIncarnation, state := .queued, inst := some actor
          mailbox := [envelope] })
      (hdb : w'.db = w.db) (ht : w'.timers.heap = w.timers.heap)
      (hn : w'.nextIncarnation = w.nextIncarnation + 1) (ho : w'.nextOperation = w.nextOperation)
  | loading (deadline : TimePoint) (awaitKey : AwaitKey) (hl : w.actors.lookup key = none)
      (hcon : A.construct key = .ok .needsLoad)
      (hkey : awaitKey = ⟨key, w.nextIncarnation + 1, w.nextOperation⟩)
      (hr : SameRest w w') (hc : Charged w w' envelope)
      (ha : w'.actors = w.actors.insert key
        { incarnation := w.nextIncarnation + 1, state := .loading, mailbox := [envelope]
          blocked := some (.activationLoad { key := awaitKey, deadline := deadline }) })
      (hdb : w'.db = w.db ∨ ∃ c, w.db = some c ∧
        w'.db = some (c.tryStart awaitKey (.loadPlayer key.entity) deadline).2)
      (ht : w'.timers.heap = ⟨deadline, .awaitTimeout awaitKey⟩ :: w.timers.heap)
      (hn : w'.nextIncarnation = w.nextIncarnation + 2)
      (ho : w'.nextOperation = w.nextOperation + 1)

theorem Sent.refl {envelope : ActorEnvelope A.Message} (w : WorkerState A) :
    Sent key envelope w w :=
  .kept (.refl w) rfl rfl rfl rfl rfl le_rfl le_rfl

theorem Sent.delivered {envelope : ActorEnvelope A.Message} (h : Sent key envelope w w') :
    Delivered w w' := by
  cases h with
  | kept hr ha hdb ht hm hb hn ho => exact .kept hr ha hdb ht hm hb hn ho
  | received slot hl hs hr hc ha hdb ht hn ho =>
    exact .received key slot envelope hl hs hr hc ha hdb ht hn ho
  | constructed actor hl hcon hr hc ha hdb ht hn ho =>
    exact .constructed key actor envelope hl hcon hr hc ha hdb ht hn ho
  | loading deadline awaitKey hl _ hkey hr hc ha hdb ht hn ho =>
    exact .loading key envelope deadline awaitKey hl hkey hr hc ha hdb ht hn ho

theorem pushMailbox_received {envelope : ActorEnvelope A.Message} :
    Ensures (w.pushMailbox config key slot envelope) fun w' =>
      SameRest w w' ∧ Charged w w' envelope ∧
      w'.actors = w.actors.insert key
        { slot with
          mailbox := slot.mailbox ++ [envelope]
          state := if slot.state = .idle then .queued else slot.state } ∧
      w'.db = w.db ∧ w'.timers.heap = w.timers.heap ∧
      w'.nextIncarnation = w.nextIncarnation ∧ w'.nextOperation = w.nextOperation := by
  simp only [pushMailbox]
  refine .ite (fun hi => enqueue_ok.mono ?_) fun hi => .ok ?_
  · rintro _ ⟨ready, rfl⟩
    exact ⟨⟨rfl, rfl, rfl, rfl, rfl⟩, ⟨rfl, rfl⟩, by rw [if_pos hi]; rfl, rfl, rfl, rfl, rfl⟩
  · exact ⟨⟨rfl, rfl, rfl, rfl, rfl⟩, ⟨rfl, rfl⟩, by rw [if_neg hi]; rfl, rfl, rfl, rfl, rfl⟩

theorem pushMailbox_sent {envelope : ActorEnvelope A.Message}
    (hl : w.actors.lookup key = some slot) (hs : slot.state ≠ .stopping) :
    Ensures (w.pushMailbox config key slot envelope) (Sent key envelope w) :=
  pushMailbox_received.mono fun _ ⟨hr, hc, ha, hdb, ht, hn, ho⟩ =>
    .received slot hl hs hr hc ha hdb ht hn ho

theorem deliverToSlot_sent {envelope : ActorEnvelope A.Message}
    (hl : w.actors.lookup key = some slot) :
    Ensures (w.deliverToSlot config key slot envelope) fun r => Sent key envelope w r.1 := by
  simp only [deliverToSlot]
  refine .ite (fun _ => .ok (.refl w)) fun hs => .ite (fun _ => .ok (.refl w)) fun _ => ?_
  exact (pushMailbox_sent hl hs).bind fun _ h => .ok h

theorem with_db_self {db : Option DbClient} (h : w.db = db) : { w with db := db } = w := by
  subst h
  rfl

/-- A load request is taken or leaves the state alone. -/
theorem startLoad_cases (w : WorkerState A) (key : AwaitKey) (deadline : TimePoint) :
    (w.startLoad key deadline = (.rejected, w)) ∨
    ∃ db, w.startLoad key deadline = (.pending, { w with db := db }) ∧
      (db = w.db ∨ ∃ c, w.db = some c ∧
        db = some (c.tryStart key (.loadPlayer key.actor.entity) deadline).2) := by
  cases hdb : w.db with
  | none => exact .inr ⟨none, by simp only [startLoad, hdb, with_db_self hdb], .inl rfl⟩
  | some c =>
    by_cases hk : key.actor.kind = .player
    · cases hst : (c.tryStart key (.loadPlayer key.actor.entity) deadline).1 with
      | rejected =>
        left
        simp only [startLoad, hdb, hk, if_true, hst, DbClient.tryStart_rejected hst,
          with_db_self hdb]
      | pending =>
        exact .inr ⟨_, by simp only [startLoad, hdb, hk, if_true, hst], .inr ⟨c, rfl, rfl⟩⟩
    · exact .inr ⟨some c, by simp only [startLoad, hdb, hk, if_false, with_db_self hdb], .inl rfl⟩

/-- A load that is begun after a rolled back reservation of the same key. -/
theorem beginActivationLoad_sent {envelope : ActorEnvelope A.Message} {clock : TimePoint}
    (hl : w.actors.lookup key = none) (hcon : A.construct key = .ok .needsLoad) :
    Ensures ((w.takeIncarnation).2.beginActivationLoad config key envelope clock)
      fun r => Sent key envelope w r.1 := by
  have hkept : Sent key envelope w w.takeIncarnation.2 :=
    .kept ⟨rfl, rfl, rfl, rfl, rfl⟩ rfl rfl rfl rfl rfl (Nat.le_succ _) le_rfl
  simp only [beginActivationLoad]
  refine .ite (fun _ => .ok hkept) fun _ => .ite (fun _ => .ok hkept) fun _ =>
    .ite (fun _ => .ok hkept) fun _ => .ite (fun _ => .ok hkept) fun _ => ?_
  split
  · exact .ok hkept
  · next timers htimers =>
    have hheap : timers.heap = w.timers.heap := TimerQueue.heap_tryReserve htimers
    rcases startLoad_cases
      (({ w.takeIncarnation.2 with timers := timers } : WorkerState A).takeIncarnation.2.takeOperation.2)
      ⟨key, w.nextIncarnation + 1, w.nextOperation⟩ (clock + config.awaitTimeout) with
      hrej | ⟨db, hpend, hdb⟩
    · simp only [takeIncarnation, takeOperation] at hrej ⊢
      rw [hrej]
      exact TimerQueue.releaseReservation_ok.bind fun q hq =>
        .ok (.kept ⟨rfl, rfl, rfl, rfl, rfl⟩ rfl rfl (hq.trans hheap) rfl rfl
          (Nat.le_add_right _ 2) (Nat.le_succ _))
    · simp only [takeIncarnation, takeOperation] at hpend ⊢
      rw [hpend]
      exact TimerQueue.commitReserved_ok.bind fun q hq =>
        .ok (.loading _ _ hl hcon rfl ⟨rfl, rfl, rfl, rfl, rfl⟩ ⟨rfl, rfl⟩ rfl hdb
          (hq.trans (by rw [hheap])) rfl rfl)

theorem activate_sent {envelope : ActorEnvelope A.Message} {clock : TimePoint}
    (hl : w.actors.lookup key = none) :
    Ensures (w.activate config key envelope clock) fun r => Sent key envelope w r.1 := by
  simp only [activate]
  refine .ite (fun _ => .ok (.refl w)) fun _ => .ite (fun _ => .ok (.refl w)) fun _ => ?_
  intro r hr
  obtain ⟨construction, hcon, hr⟩ := bind_eq_ok hr
  cases construction with
  | rejected =>
    cases hr
    exact .kept ⟨rfl, rfl, rfl, rfl, rfl⟩ rfl rfl rfl rfl rfl (Nat.le_succ _) le_rfl
  | needsLoad => exact beginActivationLoad_sent hl hcon r hr
  | ready actor =>
    refine (enqueue_ok.bind ?_ : Ensures _ fun r => Sent key envelope w r.1) r hr
    rintro _ ⟨ready, rfl⟩
    exact .ok (.constructed actor hl hcon ⟨rfl, rfl, rfl, rfl, rfl⟩ ⟨rfl, rfl⟩ rfl rfl
      rfl rfl rfl)

theorem tryDeliverLocalInternal_sent {envelope : ActorEnvelope A.Message} {clock : TimePoint} :
    Ensures (w.tryDeliverLocalInternal config key envelope clock) fun r => Sent key envelope w r.1 := by
  simp only [tryDeliverLocalInternal]
  refine .ite (fun _ => .ok (.refl w)) fun _ => ?_
  split
  · next slot hl => exact deliverToSlot_sent hl
  · next hl => exact activate_sent hl

theorem tellInternal_sent {envelope : ActorEnvelope A.Message} {clock : TimePoint} :
    Ensures (w.tellInternal config key envelope clock) fun r => Sent key envelope w r.1 :=
  .ite (fun _ => tryDeliverLocalInternal_sent) fun _ => .ok (.refl w)

theorem tellInternal_ok {envelope : ActorEnvelope A.Message} {clock : TimePoint} :
    Ensures (w.tellInternal config key envelope clock) fun r => Delivered w r.1 :=
  tellInternal_sent.mono fun _ h => h.delivered

/-! ## One slot changes -/

/-- The slot of `key` becomes `slot`, besides scheduling data. -/
structure Replaced (w : WorkerState A) (key : ActorKey) (slot : ActorSlot A)
    (w' : WorkerState A) : Prop where
  rest : SameRest w w'
  actors : w'.actors = w.actors.insert key slot
  db : w'.db = w.db
  timers : w'.timers = w.timers
  messages : w'.totalMailboxMessages = w.totalMailboxMessages
  bytes : w'.totalMailboxBytes = w.totalMailboxBytes
  incarnation : w'.nextIncarnation = w.nextIncarnation
  operation : w'.nextOperation = w.nextOperation

/-- `slot`, the slot of `key`, is released with its mailbox. -/
structure Removed (w : WorkerState A) (key : ActorKey) (slot : ActorSlot A)
    (w' : WorkerState A) : Prop where
  lookup : w.actors.lookup key = some slot
  rest : SameRest w w'
  actors : w'.actors = w.actors.erase key
  db : w'.db = w.db
  timers : w'.timers = w.timers
  messages : w'.totalMailboxMessages = w.totalMailboxMessages - slot.mailbox.length
  bytes : w'.totalMailboxBytes = w.totalMailboxBytes - slot.mailboxBytes
  incarnation : w'.nextIncarnation = w.nextIncarnation
  operation : w'.nextOperation = w.nextOperation

theorem replaced_setSlot (w : WorkerState A) (key : ActorKey) (slot : ActorSlot A) :
    Replaced w key slot (w.setSlot key slot) :=
  ⟨⟨rfl, rfl, rfl, rfl, rfl⟩, rfl, rfl, rfl, rfl, rfl, rfl, rfl⟩

theorem removeActor_cases (w : WorkerState A) (handle : ActivationRef) :
    (w.find handle = none ∧ w.removeActor handle = w) ∨
    ∃ slot, w.find handle = some slot ∧ Removed w handle.actor slot (w.removeActor handle) := by
  cases hf : w.find handle with
  | none => exact .inl ⟨rfl, by simp only [removeActor, hf]⟩
  | some slot =>
    refine .inr ⟨slot, rfl, ?_⟩
    simp only [removeActor, hf]
    exact ⟨(find_eq_some.1 hf).1, ⟨rfl, rfl, rfl, rfl, rfl⟩, rfl, rfl, rfl, rfl, rfl, rfl, rfl⟩

theorem removed_of_find (hf : w.find handle = some slot) :
    Removed w handle.actor slot (w.removeActor handle) := by
  rcases removeActor_cases w handle with ⟨hn, -⟩ | ⟨slot', hs, hr⟩
  · rw [hf] at hn
    cases hn
  · rw [hf] at hs
    cases hs
    exact hr

theorem removed_of_lookup (hl : w.actors.lookup key = some slot) :
    Removed w key slot (w.removeActor ⟨key, slot.incarnation⟩) :=
  removed_of_find (find_eq_some.2 ⟨hl, rfl⟩ : w.find ⟨key, slot.incarnation⟩ = some slot)

theorem Replaced.lookup (h : Replaced w key slot w') (a : ActorKey) :
    w'.actors.lookup a = if a = key then some slot else w.actors.lookup a := by
  rw [h.actors, lookup_insert_ite]

theorem Replaced.find (handle : ActivationRef) (h : Replaced w handle.actor slot w')
    (hi : slot.incarnation = handle.incarnation) : w'.find handle = some slot :=
  find_eq_some.2 ⟨by rw [h.lookup, if_pos rfl], hi⟩

/-! ## Completed awaits -/

theorem loadingSlot_eq_some {key : AwaitKey} (h : w.loadingSlot key = some slot) :
    w.actors.lookup key.actor = some slot ∧ slot.state = .loading ∧
      ∃ load, slot.blocked = some (.activationLoad load) ∧ load.key = key := by
  simp only [loadingSlot, Option.filter_eq_some_iff] at h
  obtain ⟨hl, hb⟩ := h
  split at hb
  · next load hload =>
    simp only [Bool.and_eq_true, decide_eq_true_eq] at hb
    exact ⟨hl, hb.1, load, hload, (eq_of_acceptsCompletion hb.2).symm⟩
  · cases hb

/-! ## Suspended turns -/

theorem submitRequest_cases (w : WorkerState A) (key : AwaitKey) (request : DbRequest)
    (deadline : TimePoint) (finalSave : Bool) :
    (∃ message, w.submitRequest key request deadline finalSave =
      (some (overloaded message), w)) ∨
    ∃ db, w.db = some db ∧ (db.tryStart key request deadline).1 = .pending ∧
      w.submitRequest key request deadline finalSave =
        (none, { w with db := some (db.tryStart key request deadline).2 }) := by
  simp only [submitRequest]
  split
  · exact .inl ⟨_, rfl⟩
  · next db hdb =>
    split
    · exact .inl ⟨_, rfl⟩
    · cases hst : db.tryStart key request deadline with
      | mk status db' =>
        cases status with
        | rejected => exact .inl ⟨_, rfl⟩
        | pending => exact .inr ⟨db, hdb, by rw [hst], by rw [hst]⟩

end WorkerState

end Snf.Worker
