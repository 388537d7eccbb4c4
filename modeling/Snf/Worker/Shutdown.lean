import Snf.Worker.ReadyQueue

/-! # What the shutdown leaves behind

`Counted`: the totals of the worker are those of its table, in every run. `Roomy`: the
handles in the ready queue and the slots that are not Queued fit into the queue together,
so that no push can fail; after phase B, when Queued slots have been released and their
handles are still in the queue, this is all that is left of the ready queue invariant.

Phase D releases what is left and clears the queue, and then drains the inbox once more.
A message of another worker that arrives after the end of phase B can activate a new
actor, which nothing releases. The result is therefore proved for the runs in which no
such message does.
-/

namespace Snf.Worker

open Snf.Lib

namespace Roster

variable {A : ActorModel} {config : WorkerActorConfig} {p : Permit} {r r' : Roster A}
  {handle : ActivationRef} {key : ActorKey} {slot slot' : ActorSlot A}

/-! ## Totals -/

def loads (slot : ActorSlot A) : Nat := if slot.state = .loading then 1 else 0

structure Counted (r : Roster A) : Prop where
  messages : r.totalMailboxMessages = total (fun slot => slot.mailbox.length) r.actors
  bytes : r.totalMailboxBytes = total ActorSlot.mailboxBytes r.actors
  loading : r.loadingCount = total loads r.actors

namespace Counted

theorem keep (h : Counted r) (ha : r'.actors = r.actors)
    (hm : r'.totalMailboxMessages = r.totalMailboxMessages)
    (hb : r'.totalMailboxBytes = r.totalMailboxBytes) (hl : r'.loadingCount = r.loadingCount) :
    Counted r' :=
  ⟨by rw [hm, ha, h.messages], by rw [hb, ha, h.bytes], by rw [hl, ha, h.loading]⟩

/-- The totals change as the slot does. -/
theorem update (h : Counted r) (hl : r.actors.lookup key = some slot)
    (ha : r'.actors = r.actors.insert key slot')
    (hm : r'.totalMailboxMessages + slot.mailbox.length =
      r.totalMailboxMessages + slot'.mailbox.length)
    (hb : r'.totalMailboxBytes + slot.mailboxBytes = r.totalMailboxBytes + slot'.mailboxBytes)
    (hload : r'.loadingCount + loads slot = r.loadingCount + loads slot') : Counted r' where
  messages := by
    have := total_insert_of_lookup (fun slot : ActorSlot A => slot.mailbox.length) hl slot'
    have := h.messages
    rw [ha]
    omega
  bytes := by
    have := total_insert_of_lookup ActorSlot.mailboxBytes hl slot'
    have := h.bytes
    rw [ha]
    omega
  loading := by
    have := total_insert_of_lookup loads hl slot'
    have := h.loading
    rw [ha]
    omega

/-- Neither the mailbox nor the load of a slot changes. -/
theorem same (h : Counted r) (hl : r.actors.lookup key = some slot)
    (ha : r'.actors = r.actors.insert key slot')
    (hm : r'.totalMailboxMessages = r.totalMailboxMessages)
    (hb : r'.totalMailboxBytes = r.totalMailboxBytes) (hc : r'.loadingCount = r.loadingCount)
    (hbox : slot'.mailbox = slot.mailbox) (hload : loads slot' = loads slot) : Counted r' :=
  h.update hl ha (by rw [hm, hbox])
    (by rw [hb, ActorSlot.mailboxBytes, ActorSlot.mailboxBytes, hbox]) (by rw [hc, hload])

theorem create (h : Counted r) (hl : r.actors.lookup key = none)
    (ha : r'.actors = r.actors.insert key slot')
    (hm : r'.totalMailboxMessages = r.totalMailboxMessages + slot'.mailbox.length)
    (hb : r'.totalMailboxBytes = r.totalMailboxBytes + slot'.mailboxBytes)
    (hload : r'.loadingCount = r.loadingCount + loads slot') : Counted r' where
  messages := by rw [hm, ha, total_insert_of_none _ hl, h.messages]
  bytes := by rw [hb, ha, total_insert_of_none _ hl, h.bytes]
  loading := by rw [hload, ha, total_insert_of_none _ hl, h.loading]

theorem remove (h : Counted r) (hl : r.actors.lookup key = some slot) :
    Counted (r.remove key slot) where
  messages := by
    have := total_erase_of_lookup (fun slot : ActorSlot A => slot.mailbox.length) hl
    have := h.messages
    simp only [Roster.remove]
    omega
  bytes := by
    have := total_erase_of_lookup ActorSlot.mailboxBytes hl
    have := h.bytes
    simp only [Roster.remove]
    omega
  loading := by
    have herase := total_erase_of_lookup loads hl
    have := h.loading
    simp only [Roster.remove]
    split
    · next hs =>
      rw [show loads slot = 1 from if_pos hs] at herase
      omega
    · next hs =>
      rw [show loads slot = 0 from if_neg hs] at herase
      omega

/-- A message enters a mailbox. -/
theorem receive (h : Counted r) (hl : r.actors.lookup key = some slot)
    (ha : r'.actors = r.actors.insert key slot') {envelope : ActorEnvelope A.Message}
    (hbox : slot'.mailbox = slot.mailbox ++ [envelope])
    (hm : r'.totalMailboxMessages = r.totalMailboxMessages + 1)
    (hb : r'.totalMailboxBytes = r.totalMailboxBytes + envelope.chargedBytes)
    (hc : r'.loadingCount = r.loadingCount) (hload : loads slot' = loads slot) : Counted r' := by
  refine h.update hl ha ?_ ?_ (by rw [hc, hload])
  · rw [hm, hbox, List.length_append, List.length_singleton]
    omega
  · simp only [hb, ActorSlot.mailboxBytes, hbox, List.map_append, List.sum_append, List.map_cons,
      List.map_nil, List.sum_cons, List.sum_nil]
    omega

/-- The first message leaves a mailbox. -/
theorem take (h : Counted r) (hl : r.actors.lookup key = some slot)
    (ha : r'.actors = r.actors.insert key slot') {envelope : ActorEnvelope A.Message}
    (hbox : slot.mailbox = envelope :: slot'.mailbox)
    (hm : r'.totalMailboxMessages = r.totalMailboxMessages - 1)
    (hb : r'.totalMailboxBytes = r.totalMailboxBytes - envelope.chargedBytes)
    (hc : r'.loadingCount = r.loadingCount) (hload : loads slot' = loads slot) : Counted r' := by
  have hlen := le_total (fun slot : ActorSlot A => slot.mailbox.length) hl
  have hbytes := le_total ActorSlot.mailboxBytes hl
  have hmsg := h.messages
  have hbyt := h.bytes
  refine h.update hl ha ?_ ?_ (by rw [hc, hload])
  · rw [hbox, List.length_cons] at hlen ⊢
    omega
  · simp only [ActorSlot.mailboxBytes, hbox, List.map_cons, List.sum_cons] at hbytes ⊢
    omega

/-- A load is over and its slot stays. -/
theorem finish (h : Counted r) (hl : r.actors.lookup key = some slot) (hs : slot.state = .loading)
    (ha : r'.actors = r.actors.insert key slot')
    (hm : r'.totalMailboxMessages = r.totalMailboxMessages)
    (hb : r'.totalMailboxBytes = r.totalMailboxBytes)
    (hc : r'.loadingCount = r.loadingCount - 1) (hbox : slot'.mailbox = slot.mailbox)
    (hs' : slot'.state ≠ .loading) : Counted r' := by
  have hone : loads slot = 1 := if_pos hs
  have hzero : loads slot' = 0 := if_neg hs'
  have hle := le_total loads hl
  have hload := h.loading
  refine h.update hl ha (by rw [hm, hbox])
    (by rw [hb, ActorSlot.mailboxBytes, ActorSlot.mailboxBytes, hbox]) ?_
  omega

theorem move (h : Counted r) (ho : Orderly r) (hm : Move config p r r') : Counted r' := by
  cases hm with
  | count => exact h.keep rfl rfl rfl rfl
  | arm armed hl => exact h.same hl rfl rfl rfl rfl rfl rfl
  | receive envelope hl hs hi => exact h.receive hl rfl rfl rfl rfl rfl rfl
  | receiveIdle envelope hl hi =>
    exact h.receive hl rfl rfl rfl rfl rfl (by simp [loads, hi])
  | construct actor envelope _ hl _ =>
    exact h.create hl rfl rfl (by simp [Roster.enqueue, Roster.push, Roster.set, Roster.charge,
      ActorSlot.mailboxBytes]) rfl
  | load deadline envelope _ hl _ =>
    exact h.create hl rfl rfl (by simp [Roster.set, Roster.charge, ActorSlot.mailboxBytes]) rfl
  | wake hl hi => exact h.same hl rfl rfl rfl rfl rfl (by simp [loads, hi])
  | skip => exact h.keep rfl rfl rfl rfl
  | start hq hf hs => exact h.same (find_eq_some.1 hf).1 rfl rfl rfl rfl rfl (by simp [loads, hs])
  | resume inst hq hf hs =>
    exact h.same (find_eq_some.1 hf).1 rfl rfl rfl rfl rfl (by simp [loads, hs])
  | turn inst hf hs => exact h.same (find_eq_some.1 hf).1 rfl rfl rfl rfl rfl rfl
  | dispatch inst _ hf hs hbox =>
    exact h.take (find_eq_some.1 hf).1 rfl hbox rfl rfl rfl rfl
  | stop hf hs =>
    refine h.same (find_eq_some.1 hf).1 rfl rfl rfl rfl rfl ?_
    rcases hs with hs | hs <;> simp [loads, hs]
  | rest hf hs => exact h.same (find_eq_some.1 hf).1 rfl rfl rfl rfl rfl (by simp [loads, hs])
  | requeue hf hs => exact h.same (find_eq_some.1 hf).1 rfl rfl rfl rfl rfl (by simp [loads, hs])
  | suspend hf hs => exact h.same (find_eq_some.1 hf).1 rfl rfl rfl rfl rfl (by simp [loads, hs])
  | refuse hf hs => exact h.same (find_eq_some.1 hf).1 rfl rfl rfl rfl rfl (by simp [loads, hs])
  | complete hl hb hc =>
    have hs := (ho.proper _ _ hl).coherent.suspended hb hc.waiting
    exact h.same hl rfl rfl rfl rfl rfl (by simp [loads, hs])
  | activate inst hl hs => exact h.finish hl hs rfl rfl rfl rfl rfl nofun
  | activateQueued inst hl hs => exact h.finish hl hs rfl rfl rfl rfl rfl nofun
  | failLoad hl hb =>
    refine Counted.remove ?_ hl
    exact h.keep rfl rfl rfl rfl
  | remove hf => exact h.remove (find_eq_some.1 hf).1

theorem lasting : Lasting config p fun r : Roster A => Orderly r ∧ Counted r where
  initial := ⟨.initial, rfl, rfl, rfl⟩
  enter r a h := by
    refine ⟨h.1.enter a, ?_⟩
    cases a <;> exact h.2.keep rfl rfl rfl rfl
  move _ _ h hm := ⟨h.1.move hm, h.2.move h.1 hm⟩
  release _ _ h hr := by
    refine ⟨h.1.release hr, ?_⟩
    obtain ⟨hl⟩ := hr
    exact h.2.remove hl
  clear _ h := ⟨h.1.keep rfl le_rfl le_rfl, h.2.keep rfl rfl rfl rfl⟩

end Counted

/-! ## Room in the ready queue -/

def notQueued (slot : ActorSlot A) : Nat := if slot.state = .queued then 0 else 1

/-- The queue has room for the handles of all slots that are not in it. -/
def Roomy (config : WorkerActorConfig) (r : Roster A) : Prop :=
  r.readyQueue.length + total notQueued r.actors ≤ config.actorTableCapacity

theorem notQueued_of_ne (h : slot.state ≠ .queued) : notQueued slot = 1 := if_neg h

theorem notQueued_of_eq (h : slot.state = .queued) : notQueued slot = 0 := if_pos h

namespace Roomy

theorem keep (h : Roomy config r) (ha : r'.actors = r.actors)
    (hq : r'.readyQueue.length ≤ r.readyQueue.length) : Roomy config r' := by
  simp only [Roomy, ha] at h ⊢
  omega

theorem update (h : Roomy config r) (hl : r.actors.lookup key = some slot)
    (ha : r'.actors = r.actors.insert key slot')
    (hq : r'.readyQueue.length + notQueued slot' ≤ r.readyQueue.length + notQueued slot) :
    Roomy config r' := by
  have := total_insert_of_lookup notQueued hl slot'
  simp only [Roomy, ha] at h ⊢
  omega

theorem remove (h : Roomy config r) (hl : r.actors.lookup key = some slot) :
    Roomy config (r.remove key slot) := by
  have herase := total_erase_of_lookup notQueued hl
  simp only [Roomy, Roster.remove, Roster.record] at h ⊢
  omega

theorem enqueue (h : Roomy config r) (hl : r.actors.lookup key = some slot)
    (hs : slot.state ≠ .queued) (ha : r'.actors = r.actors.insert key slot')
    (hs' : slot'.state = .queued) (hq : r'.readyQueue.length = r.readyQueue.length + 1) :
    Roomy config r' :=
  h.update hl ha (by rw [notQueued_of_ne hs, notQueued_of_eq hs', hq])

theorem pop (h : Roomy config r) (hl : r.actors.lookup key = some slot)
    (ha : r'.actors = r.actors.insert key slot')
    (hq : r.readyQueue.length = r'.readyQueue.length + 1) : Roomy config r' := by
  refine h.update hl ha ?_
  have : notQueued slot' ≤ 1 := by
    unfold notQueued
    split <;> omega
  omega

theorem move (h : Roomy config r) (ho : Orderly r) (hc : ¬p.creates) (hm : Move config p r r') :
    Roomy config r' := by
  have hpush (l : List ActivationRef) (x : ActivationRef) : (l ++ [x]).length = l.length + 1 := by
    simp
  cases hm with
  | count => exact h.keep rfl le_rfl
  | arm armed hl => exact h.update hl rfl le_rfl
  | receive envelope hl => exact h.update hl rfl le_rfl
  | receiveIdle envelope hl hi => exact h.enqueue hl (by simp [hi]) rfl rfl (hpush _ _)
  | construct _ _ hp => exact absurd hp hc
  | load _ _ hp => exact absurd hp hc
  | wake hl hi => exact h.enqueue hl (by simp [hi]) rfl rfl (hpush _ _)
  | skip hq => exact h.keep rfl (by simp [hq])
  | start hq hf => exact h.pop (find_eq_some.1 hf).1 rfl (by simp [hq, Roster.set])
  | resume inst hq hf => exact h.pop (find_eq_some.1 hf).1 rfl (by simp [hq, Roster.set])
  | turn inst hf => exact h.update (find_eq_some.1 hf).1 rfl le_rfl
  | dispatch inst _ hf => exact h.update (find_eq_some.1 hf).1 rfl le_rfl
  | stop hf hs =>
    refine h.update (find_eq_some.1 hf).1 rfl ?_
    rcases hs with hs | hs <;> simp [notQueued, hs, Roster.set]
  | rest hf hs =>
    exact h.update (find_eq_some.1 hf).1 rfl (by simp [notQueued, hs, Roster.set])
  | requeue hf hs => exact h.enqueue (find_eq_some.1 hf).1 (by simp [hs]) rfl rfl (hpush _ _)
  | suspend hf hs =>
    exact h.update (find_eq_some.1 hf).1 rfl (by simp [notQueued, hs, Roster.set])
  | refuse hf hs => exact h.enqueue (find_eq_some.1 hf).1 (by simp [hs]) rfl rfl (hpush _ _)
  | complete hl hb hc =>
    have hs := (ho.proper _ _ hl).coherent.suspended hb hc.waiting
    exact h.enqueue hl (by simp [hs]) rfl rfl (hpush _ _)
  | activate inst hl hs => exact h.update hl rfl (by simp [notQueued, hs, Roster.set, Roster.complete, Roster.record])
  | activateQueued inst hl hs => exact h.enqueue hl (by simp [hs]) rfl rfl (hpush _ _)
  | failLoad hl hb =>
    refine Roomy.remove ?_ hl
    exact h.keep rfl le_rfl
  | remove hf => exact h.remove (find_eq_some.1 hf).1

/-- The ready queue invariant leaves room. -/
theorem ofScheduled (h : Scheduled config r) : Roomy config r := by
  -- the keys in the queue and those of the other slots are different keys of the table
  have hsub : (r.actors.entries.filter fun e => ¬e.2.state = .queued).map Sigma.fst ⊆
      r.actors.keys :=
    (List.filter_sublist.map Sigma.fst).subset
  have hfree : ((r.actors.entries.filter fun e => ¬e.2.state = .queued).map Sigma.fst).Nodup :=
    List.Nodup.sublist (List.filter_sublist.map Sigma.fst) r.actors.nodupKeys
  have hlist : (r.readyQueue.map (·.actor) ++
      (r.actors.entries.filter fun e => ¬e.2.state = .queued).map Sigma.fst).Nodup := by
    refine List.nodup_append.2 ⟨Scheduled.nodup_actors h.nodup fun handle hm =>
      ((h.mem_iff handle).1 hm).imp fun _ => And.left, hfree, ?_⟩
    rintro key hq key' hk rfl
    obtain ⟨handle, hm, rfl⟩ := List.mem_map.1 hq
    obtain ⟨⟨key, slot'⟩, he, hkey⟩ := List.mem_map.1 hk
    obtain ⟨slot, hf, hs⟩ := (h.mem_iff handle).1 hm
    obtain ⟨he, hne⟩ := List.mem_filter.1 he
    have hl : r.actors.lookup key = some slot' := AList.mem_lookup_iff.2 he
    cases hkey
    rw [(find_eq_some.1 hf).1] at hl
    cases hl
    simp [hs] at hne
  have hkeys : r.readyQueue.map (·.actor) ++
      (r.actors.entries.filter fun e => ¬e.2.state = .queued).map Sigma.fst ⊆ r.actors.keys := by
    refine List.append_subset.2 ⟨fun key hq => ?_, hsub⟩
    obtain ⟨handle, hm, rfl⟩ := List.mem_map.1 hq
    obtain ⟨slot, hf, -⟩ := (h.mem_iff handle).1 hm
    exact mem_keys_of_lookup (find_eq_some.1 hf).1
  have hlen := (List.subperm_of_subset hlist hkeys).length_le
  have htable := h.table
  have htotal : total notQueued r.actors = _ :=
    total_ite (fun slot : ActorSlot A => slot.state = .queued) r.actors
  simp only [List.length_append, List.length_map, AList.keys, List.keys] at hlen
  simp only [Roomy]
  omega

/-- No push fails. -/
theorem fault (h : Roomy config r) (ho : Orderly r) (hc : ¬p.creates) {e : String}
    (hf : Fault config p r e) : Unrelated e ∨ A.Raises e := by
  have hfull {key : ActorKey} {slot : ActorSlot A} (hl : r.actors.lookup key = some slot)
      (hs : slot.state ≠ .queued) : r.readyQueue.length < config.actorTableCapacity := by
    have hle := le_total notQueued hl
    rw [notQueued_of_ne hs] at hle
    simp only [Roomy] at h
    omega
  cases hf with
  | full hl hs hq => exact absurd (hfull hl hs) (Nat.not_lt.2 hq)
  | fullWaiting hl hb hw hq =>
    have hs := (ho.proper _ _ hl).coherent.suspended hb hw
    exact absurd (hfull hl (by simp [hs])) (Nat.not_lt.2 hq)
  | fullNew hp => exact absurd hp hc
  | notReady hq hf hs hb hw =>
    have hcoh := (ho.find hf).coherent
    simp only [ActorSlot.Coherent, hs] at hcoh
    rw [hcoh _ hb] at hw
    cases hw
  | raised hr => exact .inr hr
  | other hq hn => exact .inl ⟨hq, hn⟩

end Roomy

/-! ## After phase B -/

/-- Phase B has ended. -/
def Late (r : Roster A) : Prop := r.stage ≠ .running ∧ r.stage ≠ .phaseB

/-- Neither slots nor handles are left. -/
def Empty (r : Roster A) : Prop := r.actors = ∅ ∧ r.readyQueue = []

theorem Empty.move (h : Empty r) (hc : ¬p.creates) (hm : Move config p r r') : Empty r' := by
  have hnone {key : ActorKey} {slot : ActorSlot A} : r.actors.lookup key ≠ some slot := by
    rw [h.1]
    simp
  have hfind {handle : ActivationRef} {slot : ActorSlot A} : r.find handle ≠ some slot :=
    fun hf => hnone (find_eq_some.1 hf).1
  cases hm with
  | count => exact h
  | construct _ _ hp => exact absurd hp hc
  | load _ _ hp => exact absurd hp hc
  | skip hq =>
    rw [h.2] at hq
    cases hq
  | arm _ hl | receive _ hl | receiveIdle _ hl | wake hl | complete hl | activate _ hl
  | activateQueued _ hl | failLoad hl => exact absurd hl hnone
  | start _ hf | resume _ _ hf | turn _ hf | dispatch _ _ hf | stop hf | rest hf | requeue hf
  | suspend hf | refuse hf | remove hf => exact absurd hf hfind

/-- The course of the shutdown. -/
structure Winding (config : WorkerActorConfig) (r : Roster A) : Prop where
  down : r.stage ≠ .running → r.shuttingDown = true
  phase : r.Late → r.phase = .inbox ∨ r.phase = .timers
  roomy : r.Late → Roomy config r
  empty : r.Late → r.stage ≠ .phaseC → Empty r

end Roster

open Roster WorkerState

variable {A : ActorModel} {config : WorkerActorConfig} {dbConfig : Option DbClientConfig}
  {w w' : WorkerState A}

/-- An actor of this key is constructed without a load. -/
def ActorModel.constructible (A : ActorModel) (key : ActorKey) : Bool :=
  match A.construct key with
  | .ok (.ready _) => true
  | _ => false

/-- No message that arrives after the end of phase B activates an actor. -/
def shutdownGuard (w : WorkerState A) : WorkerAction A → Prop
  | .remoteMessage key _ _ => w.stage = .running ∨ w.stage = .phaseB ∨
      (w.actors.lookup key).isSome = true ∨ A.constructible key = false
  | _ => True

instance (w : WorkerState A) (a : WorkerAction A) : Decidable (shutdownGuard w a) :=
  match a with
  | .remoteMessage _ _ _ => inferInstanceAs (Decidable (_ ∨ _ ∨ _ ∨ _))
  | .requestStop | .tell _ _ _ | .connectionClosed _ _ | .completeSyntheticCommand _ _
  | .completeSyntheticActivation _ _ | .scheduleConnectionClose _ _ | .dbPollEvent _
  | .expireTimers _ | .fireTimer _ | .beginDb | .driver _ _ _ | .runReadyActors _ | .runActor _ _
  | .endIteration | .beginShutdown | .cancelBlocked | .leavePhaseB | .leavePhaseC | .leavePhaseD
  | .expireAtShutdown _ | .forceCloseDb => inferInstanceAs (Decidable True)

/-- What the steps after phase B may do. -/
def latePermit : Permit := ⟨False, True, fun _ => True⟩

/-- A guarded step after phase B creates nothing. -/
theorem latePermit_allows (hw : Winding config w.roster) (hlate : w.roster.Late)
    {a : WorkerAction A} (hg : shutdownGuard w a) {x : Except String (WorkerState A)}
    (h : workerTransition config w a = some x) : latePermit.Allows config w a := by
  cases a with
  | tell key message clock =>
    intro hdown
    rw [show w.shuttingDown = true from hw.down hlate.1] at hdown
    cases hdown
  | remoteMessage key message clock =>
    rintro ⟨hl, hready⟩
    obtain ⟨actor, hcon⟩ := hready (hw.down hlate.1)
    rcases hg with hs | hs | hs | hs
    · exact hlate.1 hs
    · exact hlate.2 hs
    · rw [hl] at hs
      cases hs
    · simp [ActorModel.constructible, hcon] at hs
  | runActor clock turns =>
    obtain ⟨hphase, _⟩ := Option.ite_none_right_eq_some.1 h
    rcases hw.phase hlate with hp | hp <;> cases hp.symm.trans hphase
  | _ => trivial

theorem Roster.Roomy.enter {r : Roster A} (h : Roomy config r) (a : WorkerAction A) :
    Roomy config (r.enter a) := by
  cases a <;> exact h.keep rfl le_rfl

theorem Roster.Empty.enter {r : Roster A} (h : Empty r) (a : WorkerAction A) :
    Empty (r.enter a) := by
  cases a <;> exact h

theorem Roster.Roomy.releases {r r' : Roster A} (h : Roomy config r)
    (hr : Relation.ReflTransGen Release r r') : Roomy config r' := by
  induction hr with
  | refl => exact h
  | tail _ hrel ih =>
    obtain ⟨hl⟩ := hrel
    exact ih.remove hl

/-- An action that does not end phase C, taken in a late stage, leads to a late stage of
the same phase or of one that follows. -/
theorem enter_late {a : WorkerAction A} {x : Except String (WorkerState A)}
    (h : workerTransition config w a = some x) (hlate : w.roster.Late)
    (hphase : w.phase = .inbox ∨ w.phase = .timers) (ha : a ≠ .leavePhaseC) :
    ((w.roster.enter a).phase = .inbox ∨ (w.roster.enter a).phase = .timers) ∧
      (w.roster.enter a).shuttingDown = w.shuttingDown ∧
      ((w.roster.enter a).stage ≠ .phaseC → w.stage ≠ .phaseC) ∧
      ∀ r r', Leaves a r r' → r' = r := by
  cases a with
  | beginShutdown =>
    obtain ⟨hc, _⟩ := Option.ite_none_right_eq_some.1 h
    exact absurd hc.2.1 hlate.1
  | leavePhaseB =>
    obtain ⟨hc, _⟩ := Option.ite_none_right_eq_some.1 h
    exact absurd hc.2 hlate.2
  | leavePhaseC => exact absurd rfl ha
  | leavePhaseD =>
    obtain ⟨hc, _⟩ := Option.ite_none_right_eq_some.1 h
    exact ⟨hphase, rfl, fun _ he => (by cases he.symm.trans hc.2), fun _ _ => id⟩
  | forceCloseDb =>
    obtain ⟨hc, _⟩ := Option.ite_none_right_eq_some.1 h
    exact ⟨hphase, rfl, fun _ he => (by cases he.symm.trans hc), fun _ _ => id⟩
  | expireTimers now => exact ⟨.inr rfl, rfl, id, fun _ _ => id⟩
  | endIteration => exact ⟨.inl rfl, rfl, id, fun _ _ => id⟩
  | beginDb =>
    obtain ⟨hc, _⟩ := Option.ite_none_right_eq_some.1 h
    simp only [runsActors, Bool.or_eq_true, decide_eq_true_eq] at hc
    exact absurd hc.2 (not_or.2 hlate)
  | runReadyActors startedAt =>
    obtain ⟨hc, _⟩ := Option.ite_none_right_eq_some.1 h
    rcases hphase with hp | hp <;> cases hp.symm.trans hc
  | _ => exact ⟨hphase, rfl, id, fun _ _ => id⟩

theorem Roster.Winding.late_step (hw : Winding config w.roster) (ho : Orderly w.roster)
    (hlate : w.roster.Late) {a : WorkerAction A} (hg : shutdownGuard w a)
    (h : (workerMachine A config dbConfig).step w a = some w') : Winding config w'.roster := by
  have ht := transition_of_step h
  obtain ⟨r₁, hm, hl⟩ := stepped_of_step h (latePermit_allows hw hlate hg ht)
  have hroomy : Roomy config r₁ :=
    (hm.invariant (P := fun r => Orderly r ∧ Roomy config r)
      (fun _ _ h hm => ⟨h.1.move hm, h.2.move h.1 id hm⟩)
      ⟨ho.enter a, (hw.roomy hlate).enter a⟩).2
  have hdown : w.shuttingDown = true := hw.down hlate.1
  by_cases ha : a = .leavePhaseC
  · subst ha
    obtain ⟨r₂, hrel, hr, hnone⟩ := hl
    have hcontrol := hm.control.trans (releases_control hrel)
    have hempty : Empty w'.roster := by
      rw [hr]
      exact ⟨eq_empty_of_lookup hnone, rfl⟩
    rw [hr] at hempty ⊢
    exact ⟨fun _ => hcontrol.shuttingDown.trans hdown,
      fun _ => by rw [hcontrol.phase]; exact hw.phase hlate,
      fun _ => (hroomy.releases hrel).keep rfl (Nat.zero_le _), fun _ _ => hempty⟩
  · obtain ⟨hphase, hsame, hstage, hleaves⟩ := enter_late ht hlate (hw.phase hlate) ha
    rw [hleaves _ _ hl]
    refine ⟨fun _ => (hm.control.shuttingDown.trans hsame).trans hdown,
      fun _ => by rw [hm.control.phase]; exact hphase, fun _ => hroomy, fun _ hc => ?_⟩
    rw [hm.control.stage] at hc
    exact hm.invariant (fun _ _ h hm => h.move id hm) ((hw.empty hlate (hstage hc)).enter a)

theorem Roster.Winding.early_step (hw : Winding config w.roster) (hs : Scheduled config w.roster)
    (he : w.Early) {a : WorkerAction A}
    (h : (workerMachine A config dbConfig).step w a = some w') : Winding config w'.roster := by
  have ht := transition_of_step h
  obtain ⟨r₁, hm, hl⟩ := stepped_of_step (p := .all) h (Permit.all_allows a)
  -- an early stage that the step keeps has nothing to show but the flag
  have hkeep (hstage : w'.roster.stage = w.roster.stage)
      (hdown : w'.roster.shuttingDown = w.roster.shuttingDown) : Winding config w'.roster := by
    have hnot : ¬w'.roster.Late := by
      rintro ⟨hr, hb⟩
      rw [hstage] at hr hb
      exact he.elim hr hb
    refine ⟨fun hr => ?_, fun hlate => absurd hlate hnot, fun hlate => absurd hlate hnot,
      fun hlate => absurd hlate hnot⟩
    rw [hstage] at hr
    exact hdown.trans (hw.down hr)
  cases a with
  | leavePhaseB =>
    obtain ⟨hc, _⟩ := Option.ite_none_right_eq_some.1 ht
    have hcontrol := hm.control.trans (releases_control hl)
    have hroomy := (Roomy.ofScheduled ((hs.enter .leavePhaseB).moves hm)).releases hl
    have hstage : w'.roster.stage = .phaseC := hcontrol.stage
    have hdown : w.shuttingDown = true :=
      hw.down (by rw [show w.roster.stage = .phaseB from hc.2]; nofun)
    exact ⟨fun _ => hcontrol.shuttingDown.trans hdown, fun _ => .inl (hcontrol.phase.trans hc.1),
      fun _ => hroomy, fun _ hne => absurd hstage hne⟩
  | leavePhaseC =>
    obtain ⟨hc, _⟩ := Option.ite_none_right_eq_some.1 ht
    rcases he with he | he <;> cases he.symm.trans hc.2
  | leavePhaseD =>
    obtain ⟨hc, _⟩ := Option.ite_none_right_eq_some.1 ht
    rcases he with he | he <;> cases he.symm.trans hc.2
  | forceCloseDb =>
    obtain ⟨hc, _⟩ := Option.ite_none_right_eq_some.1 ht
    rcases he with he | he <;> cases he.symm.trans hc
  | beginShutdown =>
    have hstage : w'.roster.stage = .phaseB := (congrArg Roster.stage hl).trans hm.control.stage
    have hnot : ¬w'.roster.Late := fun hlate => hlate.2 hstage
    exact ⟨fun _ => (congrArg Roster.shuttingDown hl).trans hm.control.shuttingDown,
      fun hlate => absurd hlate hnot, fun hlate => absurd hlate hnot,
      fun hlate => absurd hlate hnot⟩
  | _ =>
    exact hkeep ((congrArg Roster.stage hl).trans hm.control.stage)
      ((congrArg Roster.shuttingDown hl).trans hm.control.shuttingDown)

theorem winding_of_reach (h : (workerMachine A config dbConfig).Reach shutdownGuard w) :
    Winding config w.roster := by
  refine h.invariant (P := fun w => Winding config w.roster) ?_ ?_
  · rintro _ rfl
    exact ⟨fun h => absurd rfl h, fun h => absurd rfl h.1, fun h => absurd rfl h.1,
      fun h => absurd rfl h.1⟩
  · intro w a w' hreach hw hg hs
    by_cases he : w.Early
    · exact hw.early_step (scheduled_of_reach hreach he) he hs
    · have ho := orderly_lasting.reach (p := .all) (fun _ a _ => Permit.all_allows a) hreach
      exact hw.late_step ho (not_or.1 he) hg hs

/-- The stages of a shutdown that a deadline hurries along: the actor that was told
something has not run. -/
def hurriedShutdown : List (WorkerAction askingActor) :=
  [.tell ⟨.player, 1⟩ ⟨(), 0⟩ 0, .requestStop, .beginShutdown, .leavePhaseB]

end Snf.Worker
