import Snf.Worker.RosterSteps

/-! # Runs of the worker as runs of its roster

The rest of the refinement: completed awaits, timers, the shutdown, and the step of
the machine. `enter` is what an action does to the stage before anything else moves,
`Leaves` what the ends of phases B and C do after all else.
-/

namespace Snf.Worker

open Snf.Lib

namespace WorkerState

open Roster (Move Moves Fault Refines Release)

variable {A : ActorModel} {config : WorkerActorConfig} {p : Permit} {w w' : WorkerState A}
  {handle : ActivationRef} {key : ActorKey} {slot : ActorSlot A}

/-! ## Completed awaits -/

theorem complete_refines (config : WorkerActorConfig) (p : Permit) {b b' : BlockedTask A.Task}
    (hl : w.actors.lookup key = some slot) (hb : slot.blocked = some b) (hc : b.Completes b') :
    Refines config p w.roster
      ((w.complete b.key).enqueue config key { slot with blocked := some b' })
      fun w' => Moves config p w.roster w'.roster := by
  refine enqueue_refines ?_ fun hq => ?_
  · exact (Move.complete (r := w.roster) hl hb hc).moves
  · exact .fullWaiting (r := w.roster) hl hb hc.waiting hq

theorem tryMarkDbCommandReady_refines {key : AwaitKey} {result : DbResult} :
    Refines config p w.roster (w.tryMarkDbCommandReady config key result)
      fun w' => Moves config p w.roster w'.roster := by
  simp only [tryMarkDbCommandReady]
  split
  · next slot hl =>
    split
    · next command hb =>
      refine .ite (fun hc => ?_) fun _ => .ok (.refl _)
      simp only [Bool.and_eq_true, decide_eq_true_eq, Option.isNone_iff_eq_none] at hc
      have hkey : key = command.key := eq_of_acceptsCompletion hc.1.2
      have hrun := complete_refines config p hl hb (.db command hc.2 result)
      rw [hkey] at hl hrun ⊢
      exact hrun
    · exact .ok (.refl _)
  · exact .ok (.refl _)

theorem tryMarkSyntheticCommandReady_refines {key : AwaitKey} {outcome : SyntheticAwaitOutcome} :
    Refines config p w.roster (w.tryMarkSyntheticCommandReady config key outcome)
      fun w' => Moves config p w.roster w'.roster := by
  simp only [tryMarkSyntheticCommandReady]
  split
  · next slot hl =>
    split
    · next command hb =>
      refine .ite (fun hc => ?_) fun _ => .ok (.refl _)
      simp only [Bool.and_eq_true, decide_eq_true_eq, Option.isNone_iff_eq_none] at hc
      have hkey : key = command.key := eq_of_acceptsCompletion hc.1.2
      have hrun := complete_refines config p hl hb
        (.synthetic command hc.2 outcome)
      rw [hkey] at hl hrun ⊢
      exact hrun
    · exact .ok (.refl _)
  · exact .ok (.refl _)

theorem setSlot_setSlot (slot' : ActorSlot A) :
    (w.setSlot key slot).setSlot key slot' = w.setSlot key slot' := by
  simp only [setSlot, AList.insert_insert]

theorem finishActivation_refines {load : ActivationLoad} {actor : A.Instance}
    (hl : w.actors.lookup key = some slot) (hs : slot.state = .loading)
    (hb : slot.blocked = some (.activationLoad load)) :
    Refines config p w.roster ((w.complete load.key).finishActivation config key slot actor)
      fun w' => Moves config p w.roster w'.roster := by
  have hfind := (replaced_setSlot { w.complete load.key with loadingCount := w.loadingCount - 1 }
    key { slot with inst := some actor, blocked := none }).find ⟨key, slot.incarnation⟩ rfl
  simp only [finishActivation, settle]
  rw [show ({ w.complete load.key with loadingCount := (w.complete load.key).loadingCount - 1 } :
    WorkerState A) = { w.complete load.key with loadingCount := w.loadingCount - 1 } from rfl, hfind]
  simp only [enqueue, setSlot_setSlot]
  refine .ite (fun _ => .ok ?_) fun _ => ?_
  · exact (Move.activate (r := w.roster) actor hl hs hb).moves
  · refine .ite (fun hq => .error (fault_full hl (by simp [hs]) hq)) fun _ => .ok ?_
    exact (Move.activateQueued (r := w.roster) actor hl hs hb).moves

theorem failActivation_moves {load : ActivationLoad} (hl : w.actors.lookup key = some slot)
    (hb : slot.blocked = some (.activationLoad load)) :
    Moves config p w.roster ((w.complete load.key).failActivation key slot).roster := by
  rw [failActivation, roster_removeActor (find_eq_some.2 ⟨hl, rfl⟩)]
  exact (Move.failLoad (r := w.roster) hl hb).moves

theorem completeLoad_refines {key : AwaitKey}
    {construction : Except String (ActorConstructionResult A.Instance)}
    (herror : ∀ e, construction = .error e → A.Raises e) :
    Refines config p w.roster (w.completeLoad config key construction)
      fun w' => Moves config p w.roster w'.roster := by
  simp only [completeLoad]
  split
  · exact .ok (.refl _)
  · next slot hslot =>
    obtain ⟨hl, hs, load, hb, rfl⟩ := loadingSlot_eq_some hslot
    refine refines_bind (fun e he => .inr (herror e he)) fun result _ => ?_
    cases result with
    | ready actor => exact finishActivation_refines hl hs hb
    | rejected => exact .ok (failActivation_moves hl hb)
    | needsLoad => exact .ok (failActivation_moves hl hb)

theorem completeSyntheticActivation_refines {key : AwaitKey}
    {outcome : SyntheticActivationOutcome} :
    Refines config p w.roster (w.completeSyntheticActivation config key outcome)
      fun w' => Moves config p w.roster w'.roster := by
  refine completeLoad_refines fun e he => ?_
  split at he
  · exact .construct key.actor he
  · cases he

theorem completeDb_refines {completion : DbCompletion} :
    Refines config p w.roster (w.completeDb config completion)
      fun w' => Moves config p w.roster w'.roster := by
  have hbad : Unrelated "bad variant access" := by
    constructor <;> simp [queueFull, notReady]
  simp only [completeDb]
  split
  · exact tryMarkDbCommandReady_refines
  · split
    · exact completeLoad_refines fun e he => .constructLoaded _ _ he
    · exact completeLoad_refines (fun _ herror => by cases herror)
    · exact .ite (fun _ => .error (fault_unrelated hbad)) fun _ => .ok (.refl _)
  · exact .ok (.refl _)

/-- A loop over the state moves the roster if each round does. -/
theorem foldlM_refines {γ : Type} {f : WorkerState A → γ → Except String (WorkerState A)}
    (hf : ∀ w c, Refines config p w.roster (f w c) fun w' => Moves config p w.roster w'.roster)
    (l : List γ) (w : WorkerState A) :
    Refines config p w.roster (l.foldlM f w) fun w' => Moves config p w.roster w'.roster := by
  refine Yields.foldlM (fun w' c hw' => ?_) l w (Moves.refl w.roster)
  exact Refines.after hw' ((hf w' c).mono fun _ h => hw'.trans h)

theorem completeAllDb_refines {completions : List DbCompletion} :
    Refines config p w.roster (w.completeAllDb config completions)
      fun w' => Moves config p w.roster w'.roster :=
  foldlM_refines (fun _ _ => completeDb_refines) completions w

theorem onTimer_refines {payload : TimerPayload A.Message} :
    Refines config p w.roster (w.onTimer config payload)
      fun w' => Moves config p w.roster w'.roster := by
  have hretry : Unrelated
      "Failed to re-register application timer on transient mailbox saturation" := by
    constructor <;> simp [queueFull, notReady]
  cases payload with
  | connectionCloseDeadline connection => exact .ok (.refl _)
  | awaitTimeout key =>
    simp only [onTimer]
    split
    · exact tryMarkSyntheticCommandReady_refines
    · exact tryMarkDbCommandReady_refines
    · exact completeSyntheticActivation_refines
    · exact .ok (.refl _)
  | applicationTimer target message =>
    simp only [onTimer, onApplicationTimer]
    split
    · exact .ok (.refl _)
    · next slot hf =>
      refine .ite (fun _ => .ok (.refl _)) fun hs => .ite (fun _ => .ok (.refl _)) fun _ => .ite
        (fun _ => ?_) fun hroom =>
          pushMailbox_refines (find_eq_some.1 hf).1 hs (admits_of_limits hroom)
      split
      · exact .error (fault_unrelated hretry)
      · exact .ok (.refl _)

/-! ## Shutdown -/

theorem cancelBlocked_refines :
    Refines config p w.roster (w.cancelBlocked config key)
      fun w' => Moves config p w.roster w'.roster := by
  simp only [cancelBlocked]
  split
  · exact .ok (.refl _)
  · next slot hl =>
    refine .ite (fun _ => .ok (.refl _)) fun hc => ?_
    have hc : cancellable slot = true := by simpa using hc
    simp only [cancellable, Bool.and_eq_true] at hc
    split
    · next command hb =>
      have hnone : command.completion = none := by simpa [hb] using hc.2
      have hrun := complete_refines config p hl hb
        (.synthetic command hnone .cancelled)
      exact hrun
    · next command hb =>
      have hnone : command.completion = none := by simpa [hb] using hc.2
      have hrun := complete_refines config p hl hb
        (.db command hnone cancelledByShutdown)
      exact hrun
    · next load hb => exact .ok (failActivation_moves hl hb)
    · exact .ok (.refl _)

theorem cancelAll_refines :
    Refines config p w.roster (w.cancelBlockedActorsForShutdown config)
      fun w' => Moves config p w.roster w'.roster :=
  foldlM_refines (fun _ _ => cancelBlocked_refines) _ w

theorem armAll_moves (config : WorkerActorConfig) (p : Permit) (w : WorkerState A) :
    Moves config p w.roster w.armLifecycleForShutdown.roster := by
  refine List.foldlRecOn (motive := fun w' : WorkerState A => Moves config p w.roster w'.roster) _ _
    (.refl _) fun w' hw' key _ => ?_
  split
  · exact hw'
  · exact hw'.trans (refreshLifecycleArm_moves _ _)

theorem removeActors_releases (q : ActorSlot A → Bool) :
    Relation.ReflTransGen Release w.roster (w.removeActors q).roster := by
  refine List.foldlRecOn
    (motive := fun w' : WorkerState A => Relation.ReflTransGen Release w.roster w'.roster) _ _
    .refl fun w' hw' key _ => ?_
  split
  · exact hw'
  · next slot hl =>
    split
    · refine hw'.tail ?_
      rw [roster_removeActor (find_eq_some.2 ⟨hl, rfl⟩)]
      exact .intro hl
    · exact hw'

theorem lookup_removeActor_of_ne {handle : ActivationRef} (h : key ≠ handle.actor) :
    (w.removeActor handle).actors.lookup key = w.actors.lookup key := by
  simp only [removeActor]
  split
  · rfl
  · simp only [lookup_erase_ite, if_neg h]

/-- A key that the loop has passed stays without a slot. -/
theorem lookup_foldl_removeActor : ∀ (keys : List ActorKey) (w : WorkerState A) (key : ActorKey),
    (key ∈ keys ∨ w.actors.lookup key = none) →
    (keys.foldl (fun w key => match w.actors.lookup key with
      | none => w
      | some slot => if true then w.removeActor ⟨key, slot.incarnation⟩ else w) w).actors.lookup
        key = none
  | [], w, key, h => by simpa using h
  | k :: keys, w, key, h => by
    rw [List.foldl_cons]
    refine lookup_foldl_removeActor keys _ key ?_
    by_cases hk : key ∈ keys
    · exact .inl hk
    · refine .inr ?_
      have h : key = k ∨ w.actors.lookup key = none := by
        rcases h with h | h
        · exact .inl ((List.mem_cons.1 h).resolve_right hk)
        · exact .inr h
      cases hl : w.actors.lookup k with
      | none => exact h.elim (fun he => he ▸ hl) id
      | some slot =>
        simp only [if_true]
        by_cases he : key = k
        · subst he
          rw [(removed_of_lookup hl).actors, lookup_erase_ite, if_pos rfl]
        · rw [lookup_removeActor_of_ne he]
          exact h.resolve_left he

theorem lookup_removeActors_all (w : WorkerState A) (key : ActorKey) :
    (w.removeActors fun _ => true).actors.lookup key = none := by
  refine lookup_foldl_removeActor _ w key ?_
  by_cases h : key ∈ w.actors.keys
  · exact .inl h
  · exact .inr (AList.lookup_eq_none.2 h)

end WorkerState

namespace Roster

variable {A : ActorModel}

/-- The stage or phase that an action enters. -/
def enter (r : Roster A) : WorkerAction A → Roster A
  | .beginShutdown => { r with shuttingDown := true, stage := .phaseB }
  | .leavePhaseB => { r with stage := .phaseC }
  | .leavePhaseC => { r with stage := .phaseD }
  | .leavePhaseD => { r with stage := .dbShutdown }
  | .forceCloseDb => { r with stage := .stopped }
  | .expireTimers _ => { r with phase := .timers }
  | .beginDb => { r with phase := .db }
  | .runReadyActors _ => { r with phase := .actors }
  | .endIteration => { r with phase := .inbox }
  | _ => r

/-- The releases at the end of an action. -/
def Leaves (a : WorkerAction A) (r r' : Roster A) : Prop :=
  match a with
  | .leavePhaseB => Relation.ReflTransGen Release r r'
  | .leavePhaseC => ∃ r₁, Relation.ReflTransGen Release r r₁ ∧ r' = { r₁ with readyQueue := [] } ∧
      ∀ key, r₁.actors.lookup key = none
  | _ => r' = r

/-- What the step of an action does to the roster. -/
def Stepped (config : WorkerActorConfig) (p : Permit) (a : WorkerAction A) (r r' : Roster A) :
    Prop :=
  ∃ r₁, Moves config p (r.enter a) r₁ ∧ Leaves a r₁ r'

end Roster

open Roster WorkerState

variable {A : ActorModel} {config : WorkerActorConfig} {dbConfig : Option DbClientConfig}
  {p : Permit} {w w' : WorkerState A}

/-- The permit covers what the action may do in this state. -/
def Permit.Allows (p : Permit) (config : WorkerActorConfig) (w : WorkerState A) :
    WorkerAction A → Prop
  | .tell key _ _ => w.shuttingDown = false → w.Activates key → p.creates
  | .remoteMessage key _ _ => w.Activates key → p.creates
  | .runActor clock turns => p.creates ∧ (∀ handle, w.Dispatches handle → p.dispatches handle) ∧
      (w.backlogAtRelease config clock turns ≠ [] → p.drops)
  | _ => True

theorem Permit.all_allows (a : WorkerAction A) : Permit.all.Allows config w a := by
  cases a <;> simp [Permit.Allows, Permit.all]

theorem expireDb_refines {now : TimePoint} :
    Refines config p w.roster (w.expireDb config now)
      fun w' => Moves config p w.roster w'.roster := by
  simp only [expireDb]
  split
  · exact .ok (.refl _)
  · exact completeAllDb_refines (w := { w with db := _ })

theorem startActors_refines {startedAt : TimePoint} :
    Refines config p { w.roster with phase := .actors } (w.startActors config startedAt)
      fun w' => Moves config p { w.roster with phase := .actors } w'.roster := by
  refine (expireDb_refines (w := { w with phase := .actors })).bind fun w' hw' => .after hw' ?_
  exact (foldlM_refines (fun _ _ => armIdle_refines) _ w').mono fun _ h => hw'.trans h

/-- **Refinement.** A step moves the roster within the permit of its action, and an
error is thrown in a roster that such moves reach. -/
theorem transition_refines {a : WorkerAction A} {x : Except String (WorkerState A)}
    (h : workerTransition config w a = some x) (ha : p.Allows config w a) :
    Refines config p (w.roster.enter a) x fun w' => Stepped config p a w.roster w'.roster := by
  have hmoves {y : Except String (WorkerState A)}
      (hy : Refines config p (w.roster.enter a) y
        fun w' => Moves config p (w.roster.enter a) w'.roster)
      (hleaves : ∀ r, Leaves a r r) :
      Refines config p (w.roster.enter a) y fun w' => Stepped config p a w.roster w'.roster :=
    hy.mono fun w' hw' => ⟨_, hw', hleaves _⟩
  have hkeep (hleaves : ∀ r, Leaves a r r) {w' : WorkerState A}
      (hw' : w'.roster = w.roster.enter a) : Stepped config p a w.roster w'.roster :=
    ⟨_, .refl _, hw' ▸ hleaves _⟩
  cases a with
  | requestStop => cases h; exact .ok (hkeep (fun _ => rfl) rfl)
  | tell key message clock =>
    obtain ⟨_, ⟨⟩⟩ := Option.ite_none_right_eq_some.1 h
    exact hmoves (Yields.map (tell_refines ha)) fun _ => rfl
  | remoteMessage key message clock =>
    obtain ⟨_, ⟨⟩⟩ := Option.ite_none_right_eq_some.1 h
    exact hmoves (Yields.map (tryDeliverLocalInternal_refines ha)) fun _ => rfl
  | connectionClosed key message =>
    obtain ⟨_, ⟨⟩⟩ := Option.ite_none_right_eq_some.1 h
    exact hmoves (Yields.map deliverActorConnectionClosedLocally_refines) fun _ => rfl
  | completeSyntheticCommand key outcome =>
    obtain ⟨_, ⟨⟩⟩ := Option.ite_none_right_eq_some.1 h
    exact hmoves tryMarkSyntheticCommandReady_refines fun _ => rfl
  | completeSyntheticActivation key outcome =>
    obtain ⟨_, ⟨⟩⟩ := Option.ite_none_right_eq_some.1 h
    exact hmoves completeSyntheticActivation_refines fun _ => rfl
  | scheduleConnectionClose deadline connection =>
    obtain ⟨timers, _, rfl⟩ := Option.map_eq_some_iff.1 h
    exact .ok (hkeep (fun _ => rfl) rfl)
  | dbPollEvent i =>
    obtain ⟨db, _, rfl⟩ := Option.map_eq_some_iff.1 h
    exact .ok (hkeep (fun _ => rfl) rfl)
  | expireTimers now =>
    obtain ⟨_, ⟨⟩⟩ := Option.ite_none_right_eq_some.1 h
    exact .ok (hkeep (fun _ => rfl) rfl)
  | fireTimer i =>
    obtain ⟨_, h⟩ := Option.ite_none_right_eq_some.1 h
    obtain ⟨⟨entry, timers⟩, _, rfl⟩ := Option.map_eq_some_iff.1 h
    exact hmoves (onTimer_refines (w := { w with timers := timers })) fun _ => rfl
  | beginDb =>
    obtain ⟨_, ⟨⟩⟩ := Option.ite_none_right_eq_some.1 h
    exact .ok (hkeep (fun _ => rfl) rfl)
  | driver i event clock =>
    obtain ⟨_, h⟩ := Option.ite_none_right_eq_some.1 h
    simp only [driveDb, Option.bind_eq_bind, Option.bind_eq_some_iff] at h
    obtain ⟨db, _, ⟨db', completions⟩, _, h⟩ := h
    cases h
    exact hmoves (completeAllDb_refines (w := { w with db := some db' })) fun _ => rfl
  | runReadyActors startedAt =>
    obtain ⟨_, ⟨⟩⟩ := Option.ite_none_right_eq_some.1 h
    exact hmoves startActors_refines fun _ => rfl
  | runActor clock turns =>
    obtain ⟨_, ⟨⟩⟩ := Option.ite_none_right_eq_some.1 h
    exact hmoves (runReadyActor_refines ha.1 ha.2.1 ha.2.2) fun _ => rfl
  | endIteration =>
    obtain ⟨_, ⟨⟩⟩ := Option.ite_none_right_eq_some.1 h
    exact .ok (hkeep (fun _ => rfl) rfl)
  | beginShutdown =>
    obtain ⟨_, ⟨⟩⟩ := Option.ite_none_right_eq_some.1 h
    have harm := armAll_moves config p
      { w with shuttingDown := true, networkStopping := true, stage := .phaseB }
    refine hmoves (.after harm ?_) fun _ => rfl
    exact cancelAll_refines.mono fun _ h => harm.trans h
  | cancelBlocked =>
    obtain ⟨_, ⟨⟩⟩ := Option.ite_none_right_eq_some.1 h
    exact hmoves (cancelAll_refines (w := { w with logicalCancelPerformed := true })) fun _ => rfl
  | leavePhaseB =>
    obtain ⟨_, ⟨⟩⟩ := Option.ite_none_right_eq_some.1 h
    simp only [leavePhaseB]
    split
    · exact .ok ⟨_, .refl _, removeActors_releases (w := { w with stage := .phaseC }) _⟩
    · exact (completeAllDb_refines (w := { w with stage := .phaseC, db := _ })).bind
        fun w₁ h₁ => .ok ⟨_, h₁, removeActors_releases _⟩
  | leavePhaseC =>
    obtain ⟨_, ⟨⟩⟩ := Option.ite_none_right_eq_some.1 h
    refine .ok ⟨_, .refl _, { (w.removeActors fun _ => true).roster with stage := .phaseD }, ?_, rfl,
      fun key => lookup_removeActors_all w key⟩
    refine Relation.ReflTransGen.lift (fun r : Roster A => { r with stage := .phaseD }) ?_
      _ _ (removeActors_releases (w := w) _)
    rintro _ _ ⟨hl⟩
    exact .intro hl
  | leavePhaseD =>
    obtain ⟨_, ⟨⟩⟩ := Option.ite_none_right_eq_some.1 h
    exact .ok (hkeep (fun _ => rfl) rfl)
  | expireAtShutdown now =>
    obtain ⟨_, ⟨⟩⟩ := Option.ite_none_right_eq_some.1 h
    exact hmoves expireDb_refines fun _ => rfl
  | forceCloseDb =>
    obtain ⟨_, ⟨⟩⟩ := Option.ite_none_right_eq_some.1 h
    refine hmoves ?_ fun _ => rfl
    simp only [forceCloseDb]
    split
    · exact .ok (.refl _)
    · exact completeAllDb_refines (w := { w with stage := .stopped, db := _ })

/-! ## Runs -/

/-- A step of the machine is a transition that returns. -/
theorem transition_of_step {a : WorkerAction A}
    (h : (workerMachine A config dbConfig).step w a = some w') :
    workerTransition config w a = some (.ok w') := by
  obtain ⟨x, hx, hok⟩ := Option.bind_eq_some_iff.1 h
  cases x with
  | error e => cases hok
  | ok w₁ =>
    cases hok
    exact hx

theorem stepped_of_step {a : WorkerAction A}
    (h : (workerMachine A config dbConfig).step w a = some w') (ha : p.Allows config w a) :
    Stepped config p a w.roster w'.roster :=
  (transition_refines (transition_of_step h) ha : Yields (.ok w') _ _)

/-- The roster of a worker that has just been configured. -/
def Roster.initial : Roster A where
  actors := ∅
  readyQueue := []
  totalMailboxMessages := 0
  totalMailboxBytes := 0
  loadingCount := 0
  nextIncarnation := 1
  nextOperation := 1
  nextTurn := 1
  history := []
  shuttingDown := false
  stage := .running
  phase := .inbox

/-- What has to be shown of a property of rosters that holds in every run. -/
structure Roster.Lasting (config : WorkerActorConfig) (p : Permit) (P : Roster A → Prop) :
    Prop where
  initial : P .initial
  enter : ∀ r a, P r → P (r.enter a)
  move : ∀ r r', P r → Move config p r r' → P r'
  release : ∀ r r', P r → Release r r' → P r'
  clear : ∀ r, P r → P { r with readyQueue := [] }

namespace Roster.Lasting

variable {P : Roster A → Prop} {r r' : Roster A}

theorem releases (L : Lasting config p P) (h : Relation.ReflTransGen Release r r') (hr : P r) :
    P r' := by
  induction h with
  | refl => exact hr
  | tail _ hrel ih => exact L.release _ _ ih hrel

theorem stepped (L : Lasting config p P) {a : WorkerAction A} (hr : P r)
    (h : Stepped config p a r r') : P r' := by
  obtain ⟨r₁, hm, hl⟩ := h
  have h₁ : P r₁ := hm.invariant L.move (L.enter r a hr)
  cases a with
  | leavePhaseB => exact L.releases hl h₁
  | leavePhaseC =>
    obtain ⟨r₂, hrel, rfl, -⟩ := hl
    exact L.clear _ (L.releases hrel h₁)
  | _ => exact hl ▸ h₁

/-- **Run rule.** What lasts holds in every state of every run. -/
theorem reach (L : Lasting config p P) {guard : WorkerState A → WorkerAction A → Prop}
    (hg : ∀ w a, guard w a → p.Allows config w a)
    (h : (workerMachine A config dbConfig).Reach guard w) : P w.roster := by
  refine h.invariant (P := fun w => P w.roster) ?_ ?_
  · rintro _ rfl
    exact L.initial
  · intro w a w' _ hw ha hs
    exact L.stepped hw (stepped_of_step hs (hg w a ha))

end Roster.Lasting

end Snf.Worker
