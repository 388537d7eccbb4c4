import Snf.Worker.Roster
import Snf.Worker.WorkerMoves

/-! # Every step of the worker is a sequence of moves of its roster

One refinement lemma for each function of the worker, assembled in the order of the
code. `transition_refines` is their sum: a step moves the roster as the permit of its
action allows, and an error that it throws is thrown in a roster that the moves reach.
-/

namespace Snf.Worker

open Snf.Lib

/-! ## Errors of the timer queue -/

/-- An error that is neither of the ready queue nor of a blocked actor. -/
def Unrelated (e : String) : Prop := e ≠ WorkerState.queueFull ∧ e ≠ WorkerState.notReady

theorem unrelated_invariantViolated : Unrelated TimerQueue.invariantViolated := by
  constructor <;> simp [TimerQueue.invariantViolated, WorkerState.queueFull, WorkerState.notReady]

theorem unrelated_noInstance : Unrelated WorkerState.noInstance := by
  constructor <;> simp [WorkerState.noInstance, WorkerState.queueFull, WorkerState.notReady]

namespace TimerQueue

variable {μ : Type} {q : TimerQueue μ} {e : String}

theorem unrelated_releaseReservation (h : q.releaseReservation = .error e) : Unrelated e := by
  simp only [releaseReservation] at h
  split at h <;> cases h
  exact unrelated_invariantViolated

theorem unrelated_commitReserved {deadline : TimePoint} {payload : TimerPayload μ}
    (h : q.commitReserved deadline payload = .error e) : Unrelated e := by
  simp only [commitReserved] at h
  split at h
  · cases h
    exact unrelated_invariantViolated
  · split at h <;> cases h
    exact unrelated_invariantViolated

theorem unrelated_commitReservedApplicationTimer {deadline : TimePoint} {target : ActivationRef}
    {message : ActorEnvelope μ} {charge : Nat}
    (h : q.commitReservedApplicationTimer deadline target message charge = .error e) :
    Unrelated e := by
  simp only [commitReservedApplicationTimer] at h
  split at h <;> cases h
  exact unrelated_invariantViolated

theorem unrelated_releaseApplicationTimerReservation {charge : Nat}
    (h : q.releaseApplicationTimerReservation charge = .error e) : Unrelated e := by
  simp only [releaseApplicationTimerReservation] at h
  split at h <;> cases h
  exact unrelated_invariantViolated

theorem unrelated_foldlM_release : ∀ (charges : List Nat) {q : TimerQueue μ},
    charges.foldlM releaseApplicationTimerReservation q = .error e → Unrelated e
  | [], q, h => by cases h
  | charge :: rest, q, h => by
    rw [List.foldlM_cons] at h
    cases hx : q.releaseApplicationTimerReservation charge with
    | error e' =>
      rw [hx] at h
      cases h
      exact unrelated_releaseApplicationTimerReservation hx
    | ok q' =>
      rw [hx] at h
      exact unrelated_foldlM_release rest h

end TimerQueue

namespace WorkerState

open Roster (Move Moves Fault Refines Release)

variable {A : ActorModel} {config : WorkerActorConfig} {p : Permit} {w w' : WorkerState A}
  {r : Roster A} {handle : ActivationRef} {key : ActorKey} {slot : ActorSlot A}

theorem fault_unrelated {e : String} (h : Unrelated e) : Fault config p r e := .other h.1 h.2

/-- Nothing is known of the first part but that its errors are unrelated. -/
theorem refines_bind {α β : Type} {x : Except String α} {f : α → Except String β}
    {post : β → Prop} (herror : ∀ e, x = .error e → Unrelated e ∨ A.Raises e)
    (hf : ∀ a, x = .ok a → Refines config p r (f a) post) : Refines config p r (x >>= f) post :=
  Yields.of_bind
    (fun e he => ⟨r, .refl r, (herror e he).elim fault_unrelated .raised⟩) hf

/-! ## Ready queue -/

theorem enqueue_refines (hm : Moves config p r (w.roster.enqueue key slot))
    (hfault : config.actorTableCapacity ≤ w.readyQueue.length → Fault config p r queueFull) :
    Refines config p r (w.enqueue config key slot) fun w' => Moves config p r w'.roster := by
  simp only [enqueue, pushReady]
  exact .ite (fun h => .error (hfault h)) fun _ => .ok hm

theorem fault_full (hl : w.actors.lookup key = some slot) (hs : slot.state ≠ .queued)
    (hq : config.actorTableCapacity ≤ w.readyQueue.length) : Fault config p w.roster queueFull :=
  .full (r := w.roster) hl hs hq

theorem settle_refines (hf : w.find handle = some slot) (hs : slot.state = .running) :
    Refines config p w.roster (w.settle config handle)
      fun w' => Moves config p w.roster w'.roster := by
  simp only [settle, hf]
  refine .ite (fun _ => .ok ?_) fun _ => enqueue_refines ?_ ?_
  · exact (Move.rest (r := w.roster) hf hs).moves
  · exact (Move.requeue (r := w.roster) hf hs).moves
  · exact fault_full (find_eq_some.1 hf).1 (by simp [hs])

theorem roster_removeActor (hf : w.find handle = some slot) :
    (w.removeActor handle).roster = w.roster.remove handle.actor slot := by
  simp only [removeActor, hf, Roster.remove, Roster.record, roster]
  rw [(find_eq_some.1 hf).2]

theorem refreshLifecycleArm_moves (w : WorkerState A) (handle : ActivationRef) :
    Moves config p w.roster (w.refreshLifecycleArm handle).roster := by
  simp only [refreshLifecycleArm]
  split
  · exact .refl _
  · next slot hf =>
    split
    · exact .refl _
    · exact (Move.arm (r := w.roster) _ (find_eq_some.1 hf).1).moves

/-! ## Deliveries -/

/-- A delivery to this key creates a slot, if no limit is in the way. -/
def Activates (w : WorkerState A) (key : ActorKey) : Prop :=
  w.actors.lookup key = none ∧
    (w.shuttingDown = true → ∃ actor, A.construct key = .ok (.ready actor))

section Delivery

variable {envelope : ActorEnvelope A.Message} {clock : TimePoint}

theorem le_of_exceedsByteLimit {current addition limit : Nat}
    (h : exceedsByteLimit current addition limit = false) : current + addition ≤ limit := by
  simp only [exceedsByteLimit, Bool.or_eq_false_iff, decide_eq_false_iff_not] at h
  omega

theorem admits_of_limits {charge : Nat} (h : ¬w.overMailboxLimits config slot charge = true) :
    w.roster.Admits config slot charge := by
  simp only [overMailboxLimits, Bool.or_eq_true, not_or, decide_eq_true_eq, Bool.not_eq_true]
    at h
  obtain ⟨⟨⟨hmessages, hbytes⟩, htotal⟩, htotalBytes⟩ := h
  exact ⟨Nat.lt_of_not_ge hmessages, le_of_exceedsByteLimit hbytes, Nat.lt_of_not_ge htotal,
    le_of_exceedsByteLimit htotalBytes⟩

theorem admitsFirst_of_limits {charge : Nat} (h : ¬w.overActivationLimits config charge = true) :
    w.roster.AdmitsFirst config charge := by
  simp only [overActivationLimits, Bool.or_eq_true, not_or, decide_eq_true_eq, Bool.not_eq_true]
    at h
  obtain ⟨⟨hbytes, htotal⟩, htotalBytes⟩ := h
  exact ⟨Nat.le_of_not_gt hbytes, Nat.lt_of_not_ge htotal, le_of_exceedsByteLimit htotalBytes⟩

theorem pushMailbox_refines (hl : w.actors.lookup key = some slot) (hs : slot.state ≠ .stopping)
    (ha : w.roster.Admits config slot envelope.chargedBytes) :
    Refines config p w.roster (w.pushMailbox config key slot envelope)
      fun w' => Moves config p w.roster w'.roster := by
  simp only [pushMailbox]
  refine .ite (fun hi => enqueue_refines ?_ ?_) fun hi => .ok ?_
  · exact (Move.receiveIdle (r := w.roster) envelope hl hi ha).moves
  · exact fault_full hl (by simp [hi])
  · exact (Move.receive (r := w.roster) envelope hl hs hi ha).moves

theorem deliverToSlot_refines (hl : w.actors.lookup key = some slot) :
    Refines config p w.roster (w.deliverToSlot config key slot envelope)
      fun res => Moves config p w.roster res.1.roster := by
  simp only [deliverToSlot]
  refine .ite (fun _ => .ok (.refl _)) fun hs => .ite (fun _ => .ok (.refl _)) fun hroom => ?_
  exact (pushMailbox_refines hl hs (admits_of_limits hroom)).bind fun _ h => .ok h

/-- The counters that an activation takes and does not give back. -/
theorem takeIncarnation_moves : Moves config p w.roster w.takeIncarnation.2.roster :=
  (Move.count (r := w.roster) _ _ _ (Nat.le_succ _) le_rfl le_rfl).moves

theorem beginActivationLoad_refines (hp : w.Activates key → p.creates)
    (hl : w.actors.lookup key = none) :
    Refines config p w.roster (w.beginActivationLoad config key envelope clock)
      fun res => Moves config p w.roster res.1.roster := by
  simp only [beginActivationLoad]
  refine .ite (fun _ => .ok (.refl _)) fun hdown => .ite (fun _ => .ok (.refl _)) fun hcap => .ite
    (fun _ => .ok (.refl _)) fun _ => .ite (fun _ => .ok (.refl _)) fun hroom => ?_
  split
  · exact .ok (.refl _)
  · next timers htimers =>
    rcases startLoad_cases
      (({ w with timers := timers } : WorkerState A).takeIncarnation.2.takeOperation.2)
      ⟨key, w.nextIncarnation, w.nextOperation⟩ (clock + config.awaitTimeout) with
      hrej | ⟨db, hpend, -⟩
    · simp only [takeIncarnation, takeOperation] at hrej ⊢
      rw [hrej]
      refine refines_bind (fun _ he => .inl (TimerQueue.unrelated_releaseReservation he))
        fun q _ => .ok ?_
      exact (Move.count (r := w.roster) _ _ _ (Nat.le_succ _) (Nat.le_succ _) le_rfl).moves
    · simp only [takeIncarnation, takeOperation] at hpend ⊢
      rw [hpend]
      refine refines_bind (fun _ he => .inl (TimerQueue.unrelated_commitReserved he))
        fun q _ => .ok ?_
      have hcreates : p.creates := hp ⟨hl, fun h => absurd h hdown⟩
      have hcap : w.actors.entries.length < config.actorTableCapacity := by
        simpa [hasCapacity] using hcap
      exact (Move.load (r := w.roster) (clock + config.awaitTimeout) envelope hcreates hl hcap
        (admitsFirst_of_limits hroom)).moves

theorem activate_refines (hp : w.Activates key → p.creates) (hl : w.actors.lookup key = none) :
    Refines config p w.roster (w.activate config key envelope clock)
      fun res => Moves config p w.roster res.1.roster := by
  simp only [activate]
  refine .ite (fun _ => .ok (.refl _)) fun hcap => .ite (fun _ => .ok (.refl _)) fun hroom => ?_
  refine refines_bind (fun e he => .inr (.construct key he)) fun construction hcon => ?_
  cases construction with
  | rejected => exact .ok takeIncarnation_moves
  | needsLoad =>
    refine .after takeIncarnation_moves (.mono ?_ fun res h => takeIncarnation_moves.trans h)
    exact beginActivationLoad_refines (w := w.takeIncarnation.2) hp hl
  | ready actor =>
    have hcreates : p.creates := hp ⟨hl, fun _ => ⟨actor, hcon⟩⟩
    have hcap : w.actors.entries.length < config.actorTableCapacity := by
      simpa [hasCapacity] using hcap
    refine (enqueue_refines ?_ ?_).bind fun w' hw => .ok hw
    · exact (Move.construct (r := w.roster) actor envelope hcreates hl hcap
        (admitsFirst_of_limits hroom)).moves
    · exact .fullNew (r := w.roster) hcreates hcap

theorem tryDeliverLocalInternal_refines (hp : w.Activates key → p.creates) :
    Refines config p w.roster (w.tryDeliverLocalInternal config key envelope clock)
      fun res => Moves config p w.roster res.1.roster := by
  simp only [tryDeliverLocalInternal]
  refine .ite (fun _ => .ok (.refl _)) fun _ => ?_
  split
  · next slot hl => exact deliverToSlot_refines hl
  · next hl => exact activate_refines hp hl

theorem tellInternal_refines (hp : w.Activates key → p.creates) :
    Refines config p w.roster (w.tellInternal config key envelope clock)
      fun res => Moves config p w.roster res.1.roster :=
  .ite (fun _ => tryDeliverLocalInternal_refines hp) fun _ => .ok (.refl _)

theorem tell_refines (hp : w.shuttingDown = false → w.Activates key → p.creates) :
    Refines config p w.roster (w.tell config key envelope clock)
      fun res => Moves config p w.roster res.1.roster := by
  refine .ite (fun _ => .ok (.refl _)) fun hopen => tellInternal_refines (hp ?_)
  simp only [Bool.or_eq_true, not_or, Bool.not_eq_true] at hopen
  exact hopen.1

theorem deliverActorConnectionClosedLocally_refines :
    Refines config p w.roster (w.deliverActorConnectionClosedLocally config key envelope)
      fun res => Moves config p w.roster res.1.roster := by
  simp only [deliverActorConnectionClosedLocally]
  refine .ite (fun _ => .ok (.refl _)) fun _ => ?_
  split
  · next slot hl => exact deliverToSlot_refines hl
  · exact .ok (.refl _)

end Delivery

/-! ## Effects of a turn -/

/-- The activation is in its turn; `stopped` after a `StopActorEffect`. -/
def OnTurn (w : WorkerState A) (handle : ActivationRef) (stopped : Bool) : Prop :=
  ∃ slot, w.find handle = some slot ∧ slot.state = if stopped then .stopping else .running

theorem OnTurn.delivered {stopped : Bool} (h : w.OnTurn handle stopped) (hd : Delivered w w') :
    w'.OnTurn handle stopped := by
  obtain ⟨slot, hf, hs⟩ := h
  obtain ⟨hl, hi⟩ := find_eq_some.1 hf
  obtain ⟨mailbox, state, hl', hstate⟩ := hd.lookup hl
  refine ⟨_, find_eq_some.2 ⟨hl', hi⟩, ?_⟩
  rcases hstate with rfl | ⟨hidle, -⟩
  · exact hs
  · rw [hs] at hidle
    split at hidle <;> cases hidle

theorem OnTurn.stop (config : WorkerActorConfig) (p : Permit) {stopped : Bool} (h : w.OnTurn handle stopped) :
    Moves config p w.roster (w.setState handle .stopping).roster ∧
      (w.setState handle .stopping).OnTurn handle true := by
  obtain ⟨slot, hf, hs⟩ := h
  simp only [setState, hf]
  refine ⟨(Move.stop (r := w.roster) hf ?_).moves, ⟨_, (replaced_setSlot _ _ _).find handle ?_, rfl⟩⟩
  · cases stopped with
    | false => exact .inl hs
    | true => exact .inr hs
  · exact (find_eq_some.1 hf).2

theorem unrelated_checkReservation {turnId : Nat} {effect : Effect A.Message A.Frame} {e : String}
    (h : checkReservation turnId effect = .error e) : Unrelated e := by
  have hcharge : Unrelated
      "TimerReservation charged bytes does not match message charged bytes" := by
    constructor <;> simp [queueFull, notReady]
  have hturn : Unrelated "TimerReservation does not belong to the current Actor turn" := by
    constructor <;> simp [queueFull, notReady]
  simp only [checkReservation] at h
  split at h
  · split at h
    · cases h
      exact hcharge
    · split at h <;> cases h
      exact hturn
  · cases h

theorem unrelated_checkReservations {turnId : Nat} {e : String} :
    ∀ effects : List (Effect A.Message A.Frame),
      effects.forM (checkReservation turnId) = .error e → Unrelated e
  | [], h => by cases h
  | effect :: rest, h => by
    rw [List.forM_eq_forM, List.forM_cons] at h
    cases hx : checkReservation turnId effect with
    | ok u =>
      rw [hx] at h
      exact unrelated_checkReservations rest h
    | error e' =>
      rw [hx] at h
      cases h
      exact unrelated_checkReservation hx

theorem releaseReservations_refines {effects : List (Effect A.Message A.Frame)} :
    Refines config p w.roster (w.releaseReservations effects)
      fun w' => ∃ timers, w' = { w with timers := timers } :=
  refines_bind (fun _ he => .inl (TimerQueue.unrelated_foldlM_release _ he))
    fun timers _ => .ok ⟨timers, rfl⟩

theorem applyEffects_refines (hp : p.creates) {clock : TimePoint} :
    ∀ (effects : List (Effect A.Message A.Frame)) (w : WorkerState A) (stopped : Bool),
      w.OnTurn handle stopped →
      Refines config p w.roster (applyEffects config handle clock w stopped effects)
        fun res => Moves config p w.roster res.1.roster ∧ res.1.OnTurn handle res.2
  | [], w, stopped, h => .ok ⟨.refl _, h⟩
  | .sendFrame _ _ _ :: rest, w, stopped, h => applyEffects_refines hp rest w stopped h
  | .closeConnection _ _ _ :: rest, w, stopped, h => applyEffects_refines hp rest w stopped h
  | .tellActor target message :: rest, w, stopped, h => by
    refine ((tellInternal_refines fun _ => hp).and tellInternal_ok).bind fun res hres => ?_
    refine .after hres.1 ((applyEffects_refines hp rest res.1 stopped (h.delivered hres.2)).mono
      fun out hout => ⟨hres.1.trans hout.1, hout.2⟩)
  | .stopActor :: rest, w, stopped, h => by
    obtain ⟨hm, hstop⟩ := h.stop config p
    exact .after hm ((applyEffects_refines hp rest
      { w.setState handle .stopping with stopped := w.stopped ++ [handle] } true hstop).mono
        fun out hout => ⟨hm.trans hout.1, hout.2⟩)
  | .scheduleTimer deadline message (some reservation) :: rest, w, stopped, h => by
    simp only [applyEffects]
    exact refines_bind
      (fun _ he => .inl (TimerQueue.unrelated_commitReservedApplicationTimer he))
      fun timers _ => applyEffects_refines hp rest { w with timers := timers } stopped h
  | .scheduleTimer deadline message none :: rest, w, stopped, h => by
    have hhalt : Refines config p w.roster
        (do let w ← w.releaseReservations rest; .ok (w, stopped))
        fun res => Moves config p w.roster res.1.roster ∧ res.1.OnTurn handle res.2 := by
      refine releaseReservations_refines.bind ?_
      rintro _ ⟨timers, rfl⟩
      exact .ok ⟨.refl _, h⟩
    simp only [applyEffects]
    refine .ite (fun _ => hhalt) fun _ => ?_
    split
    · exact hhalt
    · next timers _ => exact applyEffects_refines hp rest { w with timers := timers } stopped h

theorem holdReservations_refines {effects : List (Effect A.Message A.Frame)} :
    Refines config p w.roster (w.holdReservations effects)
      fun w' => ∃ timers, w' = { w with timers := timers } := by
  have hinvalid : Unrelated "TimerReservation is invalid" := by
    constructor <;> simp [queueFull, notReady]
  simp only [holdReservations]
  refine .ite (fun _ => .ok ⟨w.timers, rfl⟩) fun _ => .ite
    (fun _ => .error (fault_unrelated hinvalid)) fun _ => ?_
  split
  · exact .error (fault_unrelated hinvalid)
  · next timers _ => exact .ok ⟨timers, rfl⟩

theorem applyEffectBatch_refines (hp : p.creates) {effects : List (Effect A.Message A.Frame)}
    {turnId : Nat} {clock : TimePoint} (h : w.OnTurn handle false) :
    Refines config p w.roster (w.applyEffectBatch config handle effects turnId clock)
      fun res => Moves config p w.roster res.1.roster ∧ res.1.OnTurn handle res.2 := by
  have hlimit : Unrelated "EffectBatch capacity exceeded maximum limit of 64" := by
    constructor <;> simp [queueFull, notReady]
  have hboth : Unrelated
      "StopActorEffect and ScheduleTimerEffect cannot coexist in the same EffectBatch" := by
    constructor <;> simp [queueFull, notReady]
  simp only [applyEffectBatch]
  refine .ite (fun _ => .error (fault_unrelated hlimit)) fun _ => .ite
    (fun _ => .error (fault_unrelated hboth)) fun _ => ?_
  refine holdReservations_refines.bind ?_
  rintro _ ⟨timers, rfl⟩
  exact refines_bind (fun _ he => .inl (unrelated_checkReservations _ he)) fun _ _ =>
    applyEffects_refines hp effects { w with timers := timers } false h

/-! ## Suspended turns -/

theorem blockCompleted_refines {awaitKey : AwaitKey} {b : BlockedTask A.Task}
    (hf : w.find handle = some slot) (hs : slot.state = .running)
    (hk : awaitKey = ⟨handle.actor, slot.incarnation, w.nextOperation⟩)
    (hw : w'.roster = { w.roster with nextOperation := w.nextOperation + 1 })
    (hb : b.key = awaitKey) (hr : b.ready = true) :
    Refines config p w.roster (w'.blockCompleted config awaitKey slot b)
      fun w' => Moves config p w.roster w'.roster := by
  subst hb
  have hqueue : w'.readyQueue = w.readyQueue := congrArg Roster.readyQueue hw
  have hactor : b.key.actor = handle.actor := congrArg AwaitKey.actor hk
  have hroster : (w'.complete b.key).roster =
      ({ w.roster with nextOperation := w.nextOperation + 1 } : Roster A).complete b.key := by
    rw [← hw]
    rfl
  refine enqueue_refines ?_ fun hq => fault_full (find_eq_some.1 hf).1 (by simp [hs]) (hqueue ▸ hq)
  rw [hroster, hactor]
  exact (Move.refuse (r := w.roster) hf hs hr hk).moves

theorem suspendOnDbRequest_refines {task : A.Task} {finalSave : Bool} {clock : TimePoint}
    (hf : w.find handle = some slot) (hs : slot.state = .running) :
    Refines config p w.roster
      (w.suspendOnDbRequest config handle.actor slot task finalSave clock) fun res =>
        (res = none ∧ A.dbRequest task = none) ∨
          ∃ w', res = some w' ∧ Moves config p w.roster w'.roster := by
  simp only [suspendOnDbRequest]
  split
  · next hn => exact .ok (.inl ⟨rfl, hn⟩)
  · next request hreq =>
    simp only [takeOperation]
    split
    · refine .bind (blockCompleted_refines hf hs rfl (by rfl) rfl rfl) fun w' hw => ?_
      exact .ok (.inr ⟨w', rfl, hw⟩)
    · next timers htimers =>
      rcases submitRequest_cases
        { w with nextOperation := w.nextOperation + 1, timers := timers }
        ⟨handle.actor, slot.incarnation, w.nextOperation⟩ request (clock + config.awaitTimeout)
        finalSave with ⟨message, hsub⟩ | ⟨db, -, -, hsub⟩
      · rw [hsub]
        refine refines_bind (fun _ he => .inl (TimerQueue.unrelated_releaseReservation he))
          fun q _ => ?_
        refine .bind (blockCompleted_refines hf hs rfl (by rfl) rfl rfl) fun w' hw => ?_
        exact .ok (.inr ⟨w', rfl, hw⟩)
      · rw [hsub]
        refine refines_bind (fun _ he => .inl (TimerQueue.unrelated_commitReserved he))
          fun q _ => .ok (.inr ⟨_, rfl, ?_⟩)
        exact (Move.suspend (r := w.roster) (b := .db _) hf hs rfl rfl).moves

theorem suspendOnSyntheticAwait_refines {task : A.Task} {clock : TimePoint}
    (hf : w.find handle = some slot) (hs : slot.state = .running) :
    Refines config p w.roster (w.suspendOnSyntheticAwait config handle.actor slot task clock)
      fun w' => Moves config p w.roster w'.roster := by
  simp only [suspendOnSyntheticAwait, takeOperation]
  refine .ite (fun _ => ?_) fun _ => ?_
  · exact blockCompleted_refines hf hs rfl (by rfl) rfl rfl
  · split
    · exact blockCompleted_refines hf hs rfl (by rfl) rfl rfl
    · refine refines_bind (fun _ he => .inl (TimerQueue.unrelated_commitReserved he))
        fun q _ => .ok ?_
      exact (Move.suspend (r := w.roster) (b := .synthetic _) hf hs rfl rfl).moves

/-! ## Running an actor -/

theorem takeTurn_refines {inst : A.Instance} {turnId : Nat} {clock : TimePoint}
    (hd : p.dispatches handle) (hf : w.find handle = some slot) (hs : slot.state = .running) :
    Refines config p w.roster (w.takeTurn handle slot inst turnId clock) fun res =>
      ∀ w' slot' result, res = some (w', slot', result) →
        Moves config p w.roster (w'.setSlot handle.actor slot').roster ∧
          (w'.setSlot handle.actor slot').find handle = some slot' ∧ slot'.state = .running := by
  have hi : slot.incarnation = handle.incarnation := (find_eq_some.1 hf).2
  simp only [takeTurn]
  refine .ite (fun _ => ?_) fun _ => ?_
  · refine refines_bind (fun e he => .inr (.lifecycleTurn _ _ _ he)) fun out _ => .ok ?_
    rintro _ _ _ ⟨⟩
    exact ⟨(Move.turn (r := w.roster) _ hf hs).moves, (replaced_setSlot _ _ _).find handle hi, hs⟩
  · split
    · exact .ok (by simp)
    · next envelope mailbox hm =>
      refine refines_bind (fun e he => .inr (.dispatch _ _ _ he)) fun out _ => .ok ?_
      rintro _ _ _ ⟨⟩
      exact ⟨(Move.dispatch (r := w.roster) _ hd hf hs hm).moves,
        (replaced_setSlot _ _ _).find handle hi, hs⟩

theorem beginTurn_moves (config : WorkerActorConfig) (p : Permit) (w : WorkerState A) :
    Moves config p w.roster w.beginTurn.2.roster :=
  (Move.count (r := w.roster) _ _ _ le_rfl le_rfl (Nat.le_succ _)).moves

/-- How the turns of a slice leave the roster. -/
def SliceLeft (config : WorkerActorConfig) (p : Permit) (r : Roster A) (handle : ActivationRef)
    (res : WorkerState A × SliceEnd) : Prop :=
  Moves config p r res.1.roster ∧
    match res.2 with
    | .stopped => res.1.OnTurn handle true
    | .suspended => True
    | .yielded => res.1.OnTurn handle false

theorem SliceLeft.after {r' : Roster A} {res : WorkerState A × SliceEnd}
    (hm : Moves config p r r') (h : SliceLeft config p r' handle res) :
    SliceLeft config p r handle res :=
  ⟨hm.trans h.1, h.2⟩

theorem runTurns_refines (hp : p.creates) (hd : p.dispatches handle) :
    ∀ (turns : List TimePoint) (w : WorkerState A), w.OnTurn handle false →
      Refines config p w.roster (runTurns config handle w turns)
        (SliceLeft config p w.roster handle)
  | [], w, h => .ok ⟨.refl _, h⟩
  | clock :: rest, w, h => by
    obtain ⟨slot, hf, hs⟩ := h
    simp only [runTurns, hf]
    split
    · exact .error (fault_unrelated unrelated_noInstance)
    · next inst hinst =>
      have hbegin := beginTurn_moves config p w
      refine .after hbegin ?_
      refine .mono ?_ fun res hres => SliceLeft.after hbegin hres
      refine (takeTurn_refines (w := w.beginTurn.2) hd hf hs).bind fun taken htaken => ?_
      match taken, htaken with
      | none, _ => exact .ok ⟨.refl _, slot, hf, hs⟩
      | some (w₁, slot', .completed effects), htaken =>
        obtain ⟨hm, hf', hs'⟩ := htaken _ _ _ rfl
        refine .after hm (.mono ?_ fun res hres => SliceLeft.after hm hres)
        refine (applyEffectBatch_refines hp ⟨slot', hf', hs'⟩).bind fun out hout => ?_
        refine .ite (fun hstop => .ok ⟨hout.1, ?_⟩) fun hstop => ?_
        · simpa [hstop] using hout.2
        · have hturn : out.1.OnTurn handle false := by simpa [hstop] using hout.2
          exact .after hout.1 ((runTurns_refines hp hd rest out.1 hturn).mono
            fun res hres => hres.after hout.1)
      | some (w₁, slot', .suspended task), htaken =>
        obtain ⟨hm, hf', hs'⟩ := htaken _ _ _ rfl
        refine .after hm (.mono ?_ fun res hres => SliceLeft.after hm hres)
        refine .ite (fun hreq => ?_) fun hreq => ?_
        · refine (suspendOnDbRequest_refines hf' hs').bind ?_
          rintro _ (⟨rfl, hn⟩ | ⟨w₂, rfl, hm₂⟩)
          · simp [hn] at hreq
          · exact .ok ⟨hm₂, trivial⟩
        · exact (suspendOnSyntheticAwait_refines hf' hs').bind fun w₂ hm₂ => .ok ⟨hm₂, trivial⟩

theorem OnTurn.settle (h : w.OnTurn handle false) :
    Refines config p w.roster (w.settle config handle)
      fun w' => Moves config p w.roster w'.roster := by
  obtain ⟨slot, hf, hs⟩ := h
  exact settle_refines hf hs

/-- The messages in the mailbox of an activation. -/
def backlog (w : WorkerState A) (handle : ActivationRef) : List (ActorEnvelope A.Message) :=
  match w.find handle with
  | some slot => slot.mailbox
  | none => []

theorem OnTurn.remove {stopped : Bool} (h : w.OnTurn handle stopped)
    (hdrop : w.backlog handle ≠ [] → p.drops) :
    Moves config p w.roster (w.removeActor handle).roster := by
  obtain ⟨slot, hf, hs⟩ := h
  rw [roster_removeActor hf]
  refine (Move.remove (r := w.roster) hf ?_ ?_).moves
  · cases stopped with
    | false => exact .inl hs
    | true => exact .inr hs
  · simpa [backlog, hf] using hdrop

/-- The messages that wait when the slice of a Queued actor ends with its release. -/
def sliceBacklog (config : WorkerActorConfig) (w : WorkerState A) (handle : ActivationRef)
    (slot : ActorSlot A) (turns : List TimePoint) : List (ActorEnvelope A.Message) :=
  match (w.setSlot handle.actor { slot with state := .running }).runTurns config handle
    (turns.take config.maxTurnsPerActorSlice) with
  | .ok (w, .stopped) => w.backlog handle
  | _ => []

/-- The messages that wait when a synthetic continuation stops its actor. -/
def syntheticBacklog (config : WorkerActorConfig) (w : WorkerState A) (handle : ActivationRef)
    (slot : ActorSlot A) (command : SuspendedCommand A.Task SyntheticAwaitOutcome)
    (clock : TimePoint) : List (ActorEnvelope A.Message) :=
  match command.completion, slot.inst with
  | some outcome, some inst =>
    match A.resumeSynthetic inst command.task outcome with
    | .ok (inst, .completed effects) =>
      let (turnId, w) := w.beginTurn
      match ((w.record (.resumed command.key turnId)).setSlot handle.actor
        { slot with blocked := none, state := .running, inst := some inst }).applyEffectBatch config
          handle effects turnId clock with
      | .ok (w, true) => w.backlog handle
      | _ => []
    | _ => []
  | _, _ => []

/-- The messages that wait when a DB continuation suspends without a request. -/
def dbBacklog (slot : ActorSlot A) (command : SuspendedCommand A.Task DbResult) :
    List (ActorEnvelope A.Message) :=
  match command.completion, slot.inst with
  | some completion, some inst =>
    match A.resumeDb inst command.task completion with
    | .ok (_, .suspended task) => if (A.dbRequest task).isSome then [] else slot.mailbox
    | _ => []
  | _, _ => []

/-- The messages that wait in the mailbox of the next actor if its turns end with its
release. -/
def backlogAtRelease (config : WorkerActorConfig) (w : WorkerState A) (clock : TimePoint)
    (turns : List TimePoint) : List (ActorEnvelope A.Message) :=
  match w.readyQueue with
  | [] => []
  | handle :: rest =>
    let w := { w with readyQueue := rest }
    match w.find handle with
    | none => []
    | some slot =>
      if slot.state ≠ .queued then []
      else
        match slot.blocked with
        | some (.db command) => dbBacklog slot command
        | some (.synthetic command) => w.syntheticBacklog config handle slot command clock
        | some (.activationLoad _) => []
        | none => w.sliceBacklog config handle slot turns

section Queued

variable {rest : List ActivationRef} {turns : List TimePoint} {clock : TimePoint}

theorem runSlice_refines (hp : p.creates) (hd : p.dispatches handle)
    (hq : w.readyQueue = handle :: rest) (hf : w.find handle = some slot)
    (hs : slot.state = .queued) (hb : slot.blocked = none)
    (hdrop : { w with readyQueue := rest }.sliceBacklog config handle slot turns ≠ [] → p.drops) :
    Refines config p w.roster ({ w with readyQueue := rest }.runSlice config handle slot turns)
      fun w' => Moves config p w.roster w'.roster := by
  have hi : slot.incarnation = handle.incarnation := (find_eq_some.1 hf).2
  have hstart : Moves config p w.roster
      ({ w with readyQueue := rest }.setSlot handle.actor { slot with state := .running }).roster :=
    (Move.start (r := w.roster) hq hf hs hb).moves
  have hturn : ({ w with readyQueue := rest }.setSlot handle.actor
      { slot with state := .running }).OnTurn handle false :=
    ⟨_, (replaced_setSlot _ _ _).find handle hi, rfl⟩
  refine .after hstart ?_
  refine ((runTurns_refines hp hd _ _ hturn).and fun a ha => ha).bind fun res hres => ?_
  obtain ⟨⟨hm, hend⟩, heq⟩ := hres
  have hm' := hstart.trans hm
  match res, hm, hend, heq with
  | (w', .stopped), hm, hend, heq =>
    refine .ok (hm'.trans (hend.remove fun hne => hdrop ?_))
    simpa only [sliceBacklog, heq] using hne
  | (w', .suspended), hm, hend, heq => exact .ok hm'
  | (w', .yielded), hm, hend, heq => exact .after hm (hend.settle.mono fun _ h => hm'.trans h)

theorem resume_moves (config : WorkerActorConfig) (p : Permit) {b : BlockedTask A.Task}
    (inst : A.Instance) (hq : w.readyQueue = handle :: rest) (hf : w.find handle = some slot)
    (hs : slot.state = .queued) (hb : slot.blocked = some b) (hr : b.ready = true) :
    Moves config p w.roster
      (({ w with readyQueue := rest }.beginTurn.2.record
        (.resumed b.key { w with readyQueue := rest }.beginTurn.1)).setSlot handle.actor
          { slot with blocked := none, state := .running, inst := some inst }).roster :=
  (Move.resume (r := w.roster) inst hq hf hs hb hr).moves

theorem resumeDbCommand_refines {command : SuspendedCommand A.Task DbResult} (hp : p.creates)
    (hq : w.readyQueue = handle :: rest) (hf : w.find handle = some slot)
    (hs : slot.state = .queued) (hb : slot.blocked = some (.db command))
    (hdrop : dbBacklog slot command ≠ [] → p.drops) :
    Refines config p w.roster
      ({ w with readyQueue := rest }.resumeDbCommand config handle slot command clock)
      fun w' => Moves config p w.roster w'.roster := by
  have hi : slot.incarnation = handle.incarnation := (find_eq_some.1 hf).2
  simp only [resumeDbCommand]
  split
  · next hc => exact .error (.notReady (r := w.roster) hq hf hs hb (by simp [BlockedTask.ready, hc]))
  · exact .error (fault_unrelated unrelated_noInstance)
  · next completion inst hc hinst =>
    refine refines_bind (fun e he => .inr (.resumeDb _ _ _ he)) fun out hout => ?_
    obtain ⟨inst', result⟩ := out
    have hresume := resume_moves config p inst' hq hf hs hb
      (by simp [BlockedTask.ready, hc])
    refine .after hresume (.mono ?_ fun w' h => hresume.trans h)
    cases result with
    | suspended task =>
      have hfind := (replaced_setSlot
        ({ w with readyQueue := rest }.beginTurn.2.record (.resumed command.key w.nextTurn))
        handle.actor { slot with blocked := none, state := .running, inst := some inst' }).find
          handle hi
      refine (suspendOnDbRequest_refines hfind rfl).bind ?_
      rintro _ (⟨rfl, hn⟩ | ⟨w₁, rfl, hm⟩)
      · have hturn : OnTurn _ handle false := ⟨_, hfind, rfl⟩
        refine .ok (hturn.remove fun hne => hdrop ?_)
        rw [backlog, hfind] at hne
        simpa [dbBacklog, hc, hinst, hout, hn] using hne
      · exact .ok hm
    | completed effects =>
      refine (applyEffectBatch_refines hp ?_).bind fun res hres => ?_
      · exact ⟨_, (replaced_setSlot _ _ _).find handle hi, rfl⟩
      refine .ite (fun _ => .ok hres.1) fun hstop => .after hres.1 ?_
      have hturn : res.1.OnTurn handle false := by simpa [hstop] using hres.2
      exact hturn.settle.mono fun _ h => hres.1.trans h

theorem resumeSyntheticCommand_refines {command : SuspendedCommand A.Task SyntheticAwaitOutcome}
    (hp : p.creates) (hq : w.readyQueue = handle :: rest) (hf : w.find handle = some slot)
    (hs : slot.state = .queued) (hb : slot.blocked = some (.synthetic command))
    (hdrop : { w with readyQueue := rest }.syntheticBacklog config handle slot command clock ≠ [] →
      p.drops) :
    Refines config p w.roster
      ({ w with readyQueue := rest }.resumeSyntheticCommand config handle slot command clock)
      fun w' => Moves config p w.roster w'.roster := by
  have hi : slot.incarnation = handle.incarnation := (find_eq_some.1 hf).2
  simp only [resumeSyntheticCommand]
  split
  · next hc => exact .error (.notReady (r := w.roster) hq hf hs hb (by simp [BlockedTask.ready, hc]))
  · exact .error (fault_unrelated unrelated_noInstance)
  · next outcome inst hc hinst =>
    refine refines_bind (fun e he => .inr (.resumeSynthetic _ _ _ he)) fun out hout => ?_
    obtain ⟨inst', result⟩ := out
    have hresume := resume_moves config p inst' hq hf hs hb
      (by simp [BlockedTask.ready, hc])
    refine .after hresume (.mono ?_ fun w' h => hresume.trans h)
    cases result with
    | suspended task =>
      refine suspendOnSyntheticAwait_refines ?_ rfl
      exact (replaced_setSlot _ _ _).find handle hi
    | completed effects =>
      refine ((applyEffectBatch_refines hp ?_).and fun a ha => ha).bind fun res hres => ?_
      · exact ⟨_, (replaced_setSlot _ _ _).find handle hi, rfl⟩
      obtain ⟨⟨hm, hturn⟩, heq⟩ := hres
      refine .ite (fun hstop => .ok (hm.trans (hturn.remove fun hne => hdrop ?_))) fun hstop => ?_
      · obtain ⟨w₁, stopped⟩ := res
        cases hstop
        simp only [BlockedTask.key] at heq
        simpa only [syntheticBacklog, hc, hinst, hout, heq] using hne
      · have hturn : res.1.OnTurn handle false := by simpa [hstop] using hturn
        exact .after hm (hturn.settle.mono fun _ h => hm.trans h)

end Queued

/-- The next round of `runReadyActors` gives this activation a slice. -/
def Dispatches (w : WorkerState A) (handle : ActivationRef) : Prop :=
  w.readyQueue.head? = some handle ∧
    ∃ slot, w.find handle = some slot ∧ slot.state = .queued ∧ slot.blocked = none

theorem runReadyActor_refines {clock : TimePoint} {turns : List TimePoint} (hp : p.creates)
    (hd : ∀ handle, w.Dispatches handle → p.dispatches handle)
    (hdrop : w.backlogAtRelease config clock turns ≠ [] → p.drops) :
    Refines config p w.roster (w.runReadyActor config clock turns)
      fun w' => Moves config p w.roster w'.roster := by
  simp only [runReadyActor]
  split
  · exact .ok (.refl _)
  · next handle rest hq =>
    split
    · next hf =>
      have hf : w.find handle = none := hf
      exact .ok (Move.skip (r := w.roster) hq fun slot h =>
        absurd (hf.symm.trans h) (by simp)).moves
    · next slot hf =>
      have hf : w.find handle = some slot := hf
      refine .ite (fun hs => .ok ?_) fun hs => ?_
      · refine (Move.skip (r := w.roster) hq fun slot' h hs' => ?_).moves
        cases hf.symm.trans h
        exact absurd hs' hs
      have hs : slot.state = .queued := not_not.1 hs
      have hf' : { w with readyQueue := rest }.find handle = some slot := hf
      simp only [backlogAtRelease, hq, hf', hs, ne_eq, not_true_eq_false, if_false] at hdrop
      have hrun : Refines config p w.roster
          ({ w with readyQueue := rest }.runQueued config handle slot clock turns)
          fun w' => Moves config p w.roster w'.roster := by
        simp only [runQueued]
        split
        · next command hb =>
          simp only [hb] at hdrop
          exact resumeDbCommand_refines hp hq hf hs hb hdrop
        · next command hb =>
          simp only [hb] at hdrop
          exact resumeSyntheticCommand_refines hp hq hf hs hb hdrop
        · next load hb =>
          refine .ok (Move.skip (r := w.roster) hq fun slot' h _ => ?_).moves
          cases hf.symm.trans h
          exact ⟨_, hb, rfl⟩
        · next hb =>
          simp only [hb] at hdrop
          exact runSlice_refines hp (hd handle ⟨by simp [hq], slot, hf, hs, hb⟩) hq hf hs hb hdrop
      exact hrun.bind fun w' hm => .ok (hm.trans (refreshLifecycleArm_moves w' handle))

theorem armIdle_refines {startedAt : TimePoint} :
    Refines config p w.roster (armIdle config startedAt w handle)
      fun w' => Moves config p w.roster w'.roster := by
  simp only [armIdle]
  split
  · exact .ok (.refl _)
  · next slot hf =>
    refine .ite (fun _ => .ok (.refl _)) fun _ => .ite (fun _ => .ok (.refl _)) fun hidle => ?_
    have hs : slot.state = .idle := by
      simp only [Bool.or_eq_true, decide_eq_true_eq, not_or, not_not] at hidle
      exact hidle.2
    have hl := (find_eq_some.1 hf).1
    split
    · exact .ok (.refl _)
    · refine .ite (fun _ => enqueue_refines ?_ (fault_full hl (by simp [hs]))) fun _ =>
        .ok (.refl _)
      exact (Move.wake (r := w.roster) hl hs).moves

end WorkerState

end Snf.Worker
