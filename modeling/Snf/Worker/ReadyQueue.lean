import Snf.Worker.RosterRuns

/-! # The ready queue holds the Queued slots

`Orderly` ties the state of a slot to what blocks it: only a Suspended or Loading slot
waits, and a Queued slot that is blocked has its completion. It holds in every run.
`Scheduled` adds that the ready queue lists the Queued slots, each once, which holds
until the end of phase B releases Queued slots and leaves their handles behind.
-/

namespace Snf.Worker

open Snf.Lib

/-! ## Slots -/

/-- The state of a slot fits what blocks it. -/
def ActorSlot.Coherent {A : ActorModel} (slot : ActorSlot A) : Prop :=
  match slot.state with
  | .idle => slot.blocked = none
  | .queued => ∀ b, slot.blocked = some b → b.ready = true
  | .running => slot.blocked = none
  | .suspended => ∃ b, slot.blocked = some b ∧ b.waiting = true
  | .loading => ∃ load, slot.blocked = some (.activationLoad load)
  | .stopping => slot.blocked = none

theorem ActorSlot.Coherent.suspended {A : ActorModel} {slot : ActorSlot A} (h : slot.Coherent)
    {b : BlockedTask A.Task} (hb : slot.blocked = some b) (hw : b.waiting = true) :
    slot.state = .suspended := by
  cases hs : slot.state with
  | suspended => rfl
  | queued =>
    simp only [Coherent, hs] at h
    rw [BlockedTask.not_waiting_of_ready (h b hb)] at hw
    cases hw
  | loading =>
    simp only [Coherent, hs] at h
    obtain ⟨load, hload⟩ := h
    rw [hload] at hb
    cases hb
    cases hw
  | idle =>
    simp only [Coherent, hs] at h
    rw [h] at hb
    cases hb
  | running =>
    simp only [Coherent, hs] at h
    rw [h] at hb
    cases hb
  | stopping =>
    simp only [Coherent, hs] at h
    rw [h] at hb
    cases hb

theorem ActorSlot.Coherent.loading {A : ActorModel} {slot : ActorSlot A} (h : slot.Coherent)
    {load : ActivationLoad} (hb : slot.blocked = some (.activationLoad load)) :
    slot.state = .loading := by
  cases hs : slot.state with
  | loading => rfl
  | queued =>
    simp only [Coherent, hs] at h
    cases h _ hb
  | suspended =>
    simp only [Coherent, hs] at h
    obtain ⟨b, hb', hw⟩ := h
    rw [hb] at hb'
    cases hb'
    cases hw
  | idle =>
    simp only [Coherent, hs] at h
    rw [h] at hb
    cases hb
  | running =>
    simp only [Coherent, hs] at h
    rw [h] at hb
    cases hb
  | stopping =>
    simp only [Coherent, hs] at h
    rw [h] at hb
    cases hb

namespace Roster

variable {A : ActorModel} {config : WorkerActorConfig} {p : Permit} {r r' : Roster A}
  {handle : ActivationRef} {key : ActorKey} {slot slot' : ActorSlot A}

/-- A slot of the table: its identity was handed out before, and the await that blocks
it carries this identity and an operation that was handed out before. -/
structure Proper (r : Roster A) (key : ActorKey) (slot : ActorSlot A) : Prop where
  coherent : slot.Coherent
  positive : 0 < slot.incarnation
  fresh : slot.incarnation < r.nextIncarnation
  await : ∀ b, slot.blocked = some b → b.key.actor = key ∧ b.key.incarnation = slot.incarnation ∧
    0 < b.key.operation ∧ b.key.operation < r.nextOperation

structure Orderly (r : Roster A) : Prop where
  incarnations : 0 < r.nextIncarnation
  operations : 0 < r.nextOperation
  proper : ∀ key slot, r.actors.lookup key = some slot → Proper r key slot

theorem Proper.mono (h : Proper r key slot) (hi : r.nextIncarnation ≤ r'.nextIncarnation)
    (ho : r.nextOperation ≤ r'.nextOperation) : Proper r' key slot where
  coherent := h.coherent
  positive := h.positive
  fresh := lt_of_lt_of_le h.fresh hi
  await b hb :=
    have ⟨ha, hinc, hpos, hop⟩ := h.await b hb
    ⟨ha, hinc, hpos, lt_of_lt_of_le hop ho⟩

namespace Orderly

theorem keep (h : Orderly r) (ha : r'.actors = r.actors)
    (hi : r.nextIncarnation ≤ r'.nextIncarnation) (ho : r.nextOperation ≤ r'.nextOperation) :
    Orderly r' where
  incarnations := lt_of_lt_of_le h.incarnations hi
  operations := lt_of_lt_of_le h.operations ho
  proper key slot hl := (h.proper key slot (ha ▸ hl)).mono hi ho

theorem insert (h : Orderly r) (ha : r'.actors = r.actors.insert key slot)
    (hi : r.nextIncarnation ≤ r'.nextIncarnation) (ho : r.nextOperation ≤ r'.nextOperation)
    (hp : Proper r' key slot) : Orderly r' where
  incarnations := lt_of_lt_of_le h.incarnations hi
  operations := lt_of_lt_of_le h.operations ho
  proper a slot₁ hl := by
    rw [ha, lookup_insert_ite] at hl
    split at hl
    · next hk =>
      cases hl
      exact hk ▸ hp
    · exact (h.proper a slot₁ hl).mono hi ho

/-- A slot keeps its identity and has no await that it did not have. -/
theorem update (h : Orderly r) (hl : r.actors.lookup key = some slot)
    (ha : r'.actors = r.actors.insert key slot') (hi : r'.nextIncarnation = r.nextIncarnation)
    (ho : r'.nextOperation = r.nextOperation) (hinc : slot'.incarnation = slot.incarnation)
    (hb : ∀ b, slot'.blocked = some b → slot.blocked = some b) (hc : slot'.Coherent) :
    Orderly r' :=
  have hp := (h.proper key slot hl).mono hi.symm.le ho.symm.le
  h.insert ha hi.symm.le ho.symm.le
    ⟨hc, hinc ▸ hp.positive, hinc ▸ hp.fresh, fun b hb' => hinc ▸ hp.await b (hb b hb')⟩

/-- A slot keeps its identity and gets an await that was handed out for it. -/
theorem block (h : Orderly r) (hl : r.actors.lookup key = some slot)
    (ha : r'.actors = r.actors.insert key slot') (hi : r'.nextIncarnation = r.nextIncarnation)
    (ho : r.nextOperation ≤ r'.nextOperation) (hinc : slot'.incarnation = slot.incarnation)
    {b : BlockedTask A.Task} (hb : slot'.blocked = some b)
    (hk : b.key.actor = key ∧ b.key.incarnation = slot.incarnation ∧
      0 < b.key.operation ∧ b.key.operation < r'.nextOperation) (hc : slot'.Coherent) :
    Orderly r' := by
  have hp : Proper r' key slot := (h.proper key slot hl).mono hi.symm.le ho
  refine h.insert ha hi.symm.le ho ⟨hc, hinc ▸ hp.positive, hinc ▸ hp.fresh, fun b' hb' => ?_⟩
  rw [hb] at hb'
  cases hb'
  exact hinc ▸ hk

theorem erase (h : Orderly r) (ha : r'.actors = r.actors.erase key)
    (hi : r'.nextIncarnation = r.nextIncarnation) (ho : r'.nextOperation = r.nextOperation) :
    Orderly r' where
  incarnations := hi ▸ h.incarnations
  operations := ho ▸ h.operations
  proper a slot₁ hl := by
    rw [ha, lookup_erase_ite] at hl
    split at hl
    · cases hl
    · exact (h.proper a slot₁ hl).mono hi.symm.le ho.symm.le

theorem find (h : Orderly r) (hf : r.find handle = some slot) : Proper r handle.actor slot :=
  h.proper _ _ (find_eq_some.1 hf).1

theorem unblocked (h : Orderly r) (hl : r.actors.lookup key = some slot)
    (hs : slot.state = .idle ∨ slot.state = .running ∨ slot.state = .stopping) :
    slot.blocked = none := by
  have hc := (h.proper _ _ hl).coherent
  rcases hs with hs | hs | hs <;> simpa only [ActorSlot.Coherent, hs] using hc

theorem move (h : Orderly r) (hm : Move config p r r') : Orderly r' := by
  cases hm with
  | count i o t hi ho _ => exact h.keep rfl hi ho
  | arm armed hl => exact h.update hl rfl rfl rfl rfl (fun _ => id) (h.proper _ _ hl).coherent
  | receive envelope hl hs hi =>
    exact h.update hl rfl rfl rfl rfl (fun _ => id) (h.proper _ _ hl).coherent
  | receiveIdle envelope hl hi =>
    refine h.update hl rfl rfl rfl rfl (fun _ => id) ?_
    simp [ActorSlot.Coherent, h.unblocked hl (.inl hi)]
  | construct actor envelope _ hl _ =>
    refine h.insert rfl (Nat.le_succ _) le_rfl ⟨?_, h.incarnations, Nat.lt_succ_self _, nofun⟩
    simp [ActorSlot.Coherent]
  | load deadline envelope _ hl _ =>
    refine h.insert rfl (Nat.le_succ _) (Nat.le_succ _)
      ⟨⟨_, rfl⟩, h.incarnations, Nat.lt_succ_self _, ?_⟩
    rintro _ ⟨⟩
    exact ⟨rfl, rfl, h.operations, Nat.lt_succ_self _⟩
  | wake hl hi =>
    refine h.update hl rfl rfl rfl rfl (fun _ => id) ?_
    simp [ActorSlot.Coherent, h.unblocked hl (.inl hi)]
  | skip hq hs => exact h.keep rfl le_rfl le_rfl
  | start hq hf hs hb =>
    exact h.update (find_eq_some.1 hf).1 rfl rfl rfl rfl (fun _ => id) hb
  | resume inst hq hf hs hb hr =>
    exact h.update (find_eq_some.1 hf).1 rfl rfl rfl rfl (by simp) rfl
  | turn inst hf hs =>
    exact h.update (find_eq_some.1 hf).1 rfl rfl rfl rfl (fun _ => id) (h.find hf).coherent
  | dispatch inst _ hf hs hm =>
    exact h.update (find_eq_some.1 hf).1 rfl rfl rfl rfl (fun _ => id) (h.find hf).coherent
  | stop hf hs =>
    have hb := h.unblocked (find_eq_some.1 hf).1 (.inr hs)
    exact h.update (find_eq_some.1 hf).1 rfl rfl rfl rfl (fun _ => id) hb
  | rest hf hs =>
    have hb := h.unblocked (find_eq_some.1 hf).1 (.inr (.inl hs))
    exact h.update (find_eq_some.1 hf).1 rfl rfl rfl rfl (fun _ => id) hb
  | requeue hf hs =>
    have hl := (find_eq_some.1 hf).1
    refine h.update hl rfl rfl rfl rfl (fun _ => id) ?_
    simp [ActorSlot.Coherent, h.unblocked hl (.inr (.inl hs))]
  | suspend hf hs hw hk =>
    refine h.block (find_eq_some.1 hf).1 rfl rfl (Nat.le_succ _) rfl rfl ?_ ⟨_, rfl, hw⟩
    rw [hk]
    exact ⟨rfl, rfl, h.operations, Nat.lt_succ_self _⟩
  | refuse hf hs hr hk =>
    refine h.block (find_eq_some.1 hf).1 rfl rfl (Nat.le_succ _) rfl rfl ?_ ?_
    · rw [hk]
      exact ⟨rfl, rfl, h.operations, Nat.lt_succ_self _⟩
    · rintro _ ⟨⟩
      exact hr
  | complete hl hb hc =>
    refine h.block hl rfl rfl le_rfl rfl rfl ?_ ?_
    · rw [hc.key]
      exact (h.proper _ _ hl).await _ hb
    · rintro _ ⟨⟩
      exact hc.ready
  | activate inst hl hs hb => exact h.update hl rfl rfl rfl rfl (by simp) rfl
  | activateQueued inst hl hs hb =>
    refine h.update hl rfl rfl rfl rfl (by simp) ?_
    simp [ActorSlot.Coherent]
  | failLoad hl hb => exact h.erase rfl rfl rfl
  | remove hf hs hm => exact h.erase rfl rfl rfl

theorem release (h : Orderly r) (hr : Release r r') : Orderly r' := by
  obtain ⟨hl⟩ := hr
  exact h.erase rfl rfl rfl

end Orderly

/-! ## The queue -/

/-- The activation is live and its slot is Queued. -/
def Queued (r : Roster A) (handle : ActivationRef) : Prop :=
  ∃ slot, r.find handle = some slot ∧ slot.state = .queued

structure Scheduled (config : WorkerActorConfig) (r : Roster A) : Prop where
  orderly : Orderly r
  mem_iff : ∀ handle, handle ∈ r.readyQueue ↔ r.Queued handle
  nodup : r.readyQueue.Nodup
  table : r.actors.entries.length ≤ config.actorTableCapacity

theorem queued_insert (ha : r'.actors = r.actors.insert key slot) (handle : ActivationRef) :
    r'.Queued handle ↔
      if handle.actor = key then slot.incarnation = handle.incarnation ∧ slot.state = .queued
      else r.Queued handle := by
  simp only [Queued, find_eq_some, ha, lookup_insert_ite]
  split
  · simp
  · rfl

theorem queued_of_lookup (hl : r.actors.lookup key = some slot) (hk : handle.actor = key) :
    r.Queued handle ↔ slot.incarnation = handle.incarnation ∧ slot.state = .queued := by
  subst hk
  simp only [Queued, find_eq_some, hl]
  constructor
  · rintro ⟨_, ⟨⟨⟩, hi⟩, hs⟩
    exact ⟨hi, hs⟩
  · rintro ⟨hi, hs⟩
    exact ⟨slot, ⟨rfl, hi⟩, hs⟩

namespace Scheduled

theorem keep (h : Scheduled config r) (ho : Orderly r') (ha : r'.actors = r.actors)
    (hq : r'.readyQueue = r.readyQueue) : Scheduled config r' where
  orderly := ho
  mem_iff handle := by
    rw [hq, h.mem_iff]
    simp only [Queued, Roster.find, ha]
  nodup := hq ▸ h.nodup
  table := ha ▸ h.table

/-- A slot changes and stays Queued or not Queued. -/
theorem update (h : Scheduled config r) (ho : Orderly r') (hl : r.actors.lookup key = some slot)
    (ha : r'.actors = r.actors.insert key slot') (hq : r'.readyQueue = r.readyQueue)
    (hi : slot'.incarnation = slot.incarnation) (hs : slot'.state = .queued ↔ slot.state = .queued) :
    Scheduled config r' where
  orderly := ho
  mem_iff handle := by
    rw [hq, h.mem_iff, queued_insert ha]
    split
    · next hk => rw [queued_of_lookup hl hk, hi, hs]
    · rfl
  nodup := hq ▸ h.nodup
  table := by rw [ha, length_insert_of_lookup hl]; exact h.table

/-- A slot that was not Queued becomes Queued. -/
theorem enqueue (h : Scheduled config r) (ho : Orderly r') (hl : r.actors.lookup key = some slot)
    (hs : slot.state ≠ .queued) (ha : r'.actors = r.actors.insert key slot')
    (hq : r'.readyQueue = r.readyQueue ++ [⟨key, slot.incarnation⟩])
    (hi : slot'.incarnation = slot.incarnation) (hs' : slot'.state = .queued) :
    Scheduled config r' where
  orderly := ho
  mem_iff handle := by
    rw [hq, List.mem_append, List.mem_singleton, h.mem_iff, queued_insert ha]
    split
    · next hk =>
      subst hk
      rw [queued_of_lookup hl rfl]
      simp only [hs, and_false, false_or, hi, hs', and_true]
      constructor
      · intro he
        rw [he]
      · intro he
        rw [he]
    · next hk =>
      constructor
      · rintro (hm | rfl)
        · exact hm
        · exact absurd rfl hk
      · exact .inl
  nodup := by
    rw [hq]
    refine List.nodup_append.2 ⟨h.nodup, List.nodup_singleton _, ?_⟩
    rintro a hm b hb rfl
    rw [List.mem_singleton] at hb
    rw [h.mem_iff, hb, queued_of_lookup hl rfl] at hm
    exact hs hm.2
  table := by rw [ha, length_insert_of_lookup hl]; exact h.table

/-- A slot enters the table; it is pushed if it is Queued. -/
theorem create (h : Scheduled config r) (ho : Orderly r') (hl : r.actors.lookup key = none)
    (hc : r.actors.entries.length < config.actorTableCapacity)
    (ha : r'.actors = r.actors.insert key slot')
    (hq : r'.readyQueue =
      if slot'.state = .queued then r.readyQueue ++ [⟨key, slot'.incarnation⟩]
      else r.readyQueue) : Scheduled config r' where
  orderly := ho
  mem_iff handle := by
    have hnone : handle.actor = key → ¬r.Queued handle := by
      rintro rfl ⟨slot, hf, _⟩
      rw [(find_eq_some.1 hf).1] at hl
      cases hl
    rw [hq, queued_insert ha]
    split
    · next hs =>
      rw [List.mem_append, List.mem_singleton, h.mem_iff]
      split
      · next hk =>
        subst hk
        simp only [hnone rfl, false_or, hs, and_true]
        constructor
        · intro he
          rw [he]
        · intro he
          rw [he]
      · next hk =>
        constructor
        · rintro (hm | rfl)
          · exact hm
          · exact absurd rfl hk
        · exact .inl
    · next hs =>
      rw [h.mem_iff]
      split
      · next hk => simp [hnone hk, hs]
      · rfl
  nodup := by
    rw [hq]
    split
    · refine List.nodup_append.2 ⟨h.nodup, List.nodup_singleton _, ?_⟩
      rintro a hm b hb rfl
      rw [List.mem_singleton] at hb
      obtain ⟨slot, hf, _⟩ := (h.mem_iff a).1 hm
      rw [hb] at hf
      rw [(find_eq_some.1 hf).1] at hl
      cases hl
    · exact h.nodup
  table := by
    have := length_insert_le r.actors key slot'
    rw [ha]
    omega

/-- The slot of the handle at the head leaves the queue and is no longer Queued. -/
theorem pop (h : Scheduled config r) (ho : Orderly r') {rest : List ActivationRef}
    (hq : r.readyQueue = handle :: rest) (hf : r.find handle = some slot)
    (ha : r'.actors = r.actors.insert handle.actor slot') (hq' : r'.readyQueue = rest)
    (hs' : slot'.state ≠ .queued) : Scheduled config r' where
  orderly := ho
  mem_iff handle' := by
    have hnd : handle ∉ rest := (List.nodup_cons.1 (hq ▸ h.nodup)).1
    have hmem := h.mem_iff handle'
    rw [hq, List.mem_cons] at hmem
    rw [hq', queued_insert ha]
    split
    · next hk =>
      simp only [hs', and_false, iff_false]
      intro hm
      have hqueued := (queued_of_lookup (find_eq_some.1 hf).1 hk).1 (hmem.1 (.inr hm))
      have hsame : handle' = handle := by
        obtain ⟨actor', incarnation'⟩ := handle'
        obtain ⟨actor, incarnation⟩ := handle
        have hinc : incarnation' = incarnation := hqueued.1.symm.trans (find_eq_some.1 hf).2
        cases hk
        cases hinc
        rfl
      exact hnd (hsame ▸ hm)
    · next hk =>
      rw [← hmem]
      constructor
      · exact .inr
      · rintro (rfl | hm)
        · exact absurd rfl hk
        · exact hm
  nodup := by rw [hq']; exact (List.nodup_cons.1 (hq ▸ h.nodup)).2
  table := by rw [ha, length_insert_of_lookup (find_eq_some.1 hf).1]; exact h.table

/-- A slot that is not Queued leaves the table. -/
theorem erase (h : Scheduled config r) (ho : Orderly r') (hl : r.actors.lookup key = some slot)
    (hs : slot.state ≠ .queued) (ha : r'.actors = r.actors.erase key)
    (hq : r'.readyQueue = r.readyQueue) : Scheduled config r' where
  orderly := ho
  mem_iff handle := by
    rw [hq, h.mem_iff]
    by_cases hk : handle.actor = key
    · rw [queued_of_lookup hl hk]
      simp [Queued, find_eq_some, ha, lookup_erase_ite, hk, hs]
    · simp only [Queued, find_eq_some, ha, lookup_erase_ite, if_neg hk]
  nodup := hq ▸ h.nodup
  table := by
    rw [ha]
    exact (length_erase_le r.actors key).trans h.table

theorem queued_head (h : Scheduled config r) {rest : List ActivationRef}
    (hq : r.readyQueue = handle :: rest) : r.Queued handle :=
  (h.mem_iff handle).1 (by simp [hq])

theorem move (h : Scheduled config r) (hm : Move config p r r') : Scheduled config r' := by
  have ho := h.orderly.move hm
  cases hm with
  | count => exact h.keep ho rfl rfl
  | arm armed hl => exact h.update ho hl rfl rfl rfl .rfl
  | receive envelope hl => exact h.update ho hl rfl rfl rfl .rfl
  | receiveIdle envelope hl hi => exact h.enqueue ho hl (by simp [hi]) rfl rfl rfl rfl
  | construct actor envelope _ hl hc => exact h.create ho hl hc rfl rfl
  | load deadline envelope _ hl hc => exact h.create ho hl hc rfl rfl
  | wake hl hi => exact h.enqueue ho hl (by simp [hi]) rfl rfl rfl rfl
  | skip hq hs =>
    -- a handle at the head belongs to a Queued slot that can run
    obtain ⟨slot, hf, hstate⟩ := h.queued_head hq
    obtain ⟨b, hb, hr⟩ := hs slot hf hstate
    have hc := (h.orderly.find hf).coherent
    simp only [ActorSlot.Coherent, hstate] at hc
    rw [hc b hb] at hr
    cases hr
  | start hq hf => exact h.pop ho hq hf rfl rfl nofun
  | resume inst hq hf => exact h.pop ho hq hf rfl rfl nofun
  | turn inst hf hs => exact h.update ho (find_eq_some.1 hf).1 rfl rfl rfl .rfl
  | dispatch inst _ hf hs => exact h.update ho (find_eq_some.1 hf).1 rfl rfl rfl .rfl
  | stop hf hs =>
    refine h.update ho (find_eq_some.1 hf).1 rfl rfl rfl ?_
    rcases hs with hs | hs <;> simp [hs]
  | rest hf hs => exact h.update ho (find_eq_some.1 hf).1 rfl rfl rfl (by simp [hs])
  | requeue hf hs =>
    exact h.enqueue ho (find_eq_some.1 hf).1 (by simp [hs]) rfl rfl rfl rfl
  | suspend hf hs => exact h.update ho (find_eq_some.1 hf).1 rfl rfl rfl (by simp [hs])
  | refuse hf hs => exact h.enqueue ho (find_eq_some.1 hf).1 (by simp [hs]) rfl rfl rfl rfl
  | complete hl hb hc =>
    have hs := (h.orderly.proper _ _ hl).coherent.suspended hb hc.waiting
    exact h.enqueue ho hl (by simp [hs]) rfl rfl rfl rfl
  | activate inst hl hs => exact h.update ho hl rfl rfl rfl (by simp [hs])
  | activateQueued inst hl hs => exact h.enqueue ho hl (by simp [hs]) rfl rfl rfl rfl
  | failLoad hl hb =>
    have hs := (h.orderly.proper _ _ hl).coherent.loading hb
    exact h.erase ho hl (by simp [hs]) rfl rfl
  | remove hf hs =>
    refine h.erase ho (find_eq_some.1 hf).1 ?_ rfl rfl
    rcases hs with hs | hs <;> simp [hs]

theorem moves (h : Scheduled config r) (hm : Moves config p r r') : Scheduled config r' :=
  hm.invariant (fun _ _ hr hm => hr.move hm) h

/-! ## Room in the queue -/

/-- Handles of live slots, each once, are of different actors. -/
theorem nodup_actors {l : List ActivationRef} (hnodup : l.Nodup)
    (hlive : ∀ handle ∈ l, ∃ slot, r.find handle = some slot) : (l.map (·.actor)).Nodup := by
  refine List.Nodup.map_on (fun a ha b hb hab => ?_) hnodup
  obtain ⟨slot, hfa⟩ := hlive a ha
  obtain ⟨slot', hfb⟩ := hlive b hb
  obtain ⟨hla, hia⟩ := find_eq_some.1 hfa
  obtain ⟨hlb, hib⟩ := find_eq_some.1 hfb
  rw [hab, hlb] at hla
  cases hla
  obtain ⟨actor, incarnation⟩ := a
  obtain ⟨actor', incarnation'⟩ := b
  cases hab
  cases hia.symm.trans hib
  rfl

/-- Handles of live slots, each once, are not more than there are slots. -/
theorem length_le_entries {l : List ActivationRef} (hnodup : l.Nodup)
    (hlive : ∀ handle ∈ l, ∃ slot, r.find handle = some slot) :
    l.length ≤ r.actors.entries.length := by
  have hkeys : l.map (·.actor) ⊆ r.actors.keys := by
    intro key hk
    obtain ⟨handle, hm, rfl⟩ := List.mem_map.1 hk
    obtain ⟨slot, hf⟩ := hlive handle hm
    exact mem_keys_of_lookup (find_eq_some.1 hf).1
  have hlen := (List.subperm_of_subset (nodup_actors hnodup hlive) hkeys).length_le
  simpa [AList.keys, List.keys] using hlen

theorem length_le (h : Scheduled config r) : r.readyQueue.length ≤ r.actors.entries.length :=
  length_le_entries h.nodup fun handle hm => ((h.mem_iff handle).1 hm).imp fun _ => And.left

/-- A slot that is not Queued leaves room for its handle. -/
theorem length_lt (h : Scheduled config r) (hl : r.actors.lookup key = some slot)
    (hs : slot.state ≠ .queued) : r.readyQueue.length < config.actorTableCapacity := by
  have hnot : ⟨key, slot.incarnation⟩ ∉ r.readyQueue := fun hm =>
    hs ((queued_of_lookup hl rfl).1 ((h.mem_iff _).1 hm)).2
  have hlen : (⟨key, slot.incarnation⟩ :: r.readyQueue).length ≤ r.actors.entries.length := by
    refine length_le_entries (List.nodup_cons.2 ⟨hnot, h.nodup⟩) fun handle hm => ?_
    rcases List.mem_cons.1 hm with rfl | hm
    · exact ⟨slot, find_eq_some.2 ⟨hl, rfl⟩⟩
    · exact ((h.mem_iff handle).1 hm).imp fun _ => And.left
  have := h.table
  rw [List.length_cons] at hlen
  omega

/-- **No error of the queue.** What is thrown is thrown by the actors or has another
cause. -/
theorem fault (h : Scheduled config r) {e : String} (hf : Fault config p r e) :
    Unrelated e ∨ A.Raises e := by
  cases hf with
  | full hl hs hq => exact absurd (h.length_lt hl hs) (Nat.not_lt.2 hq)
  | fullWaiting hl hb hw hq =>
    have hs := (h.orderly.proper _ _ hl).coherent.suspended hb hw
    exact absurd (h.length_lt hl (by simp [hs])) (Nat.not_lt.2 hq)
  | fullNew _ hc hq =>
    have := h.length_le
    omega
  | notReady hq hf hs hb hw =>
    have hc := (h.orderly.find hf).coherent
    simp only [ActorSlot.Coherent, hs] at hc
    rw [hc _ hb] at hw
    cases hw
  | raised hr => exact .inr hr
  | other hq hn => exact .inl ⟨hq, hn⟩

end Scheduled

/-! ## Runs -/

theorem Orderly.initial : Orderly (Roster.initial : Roster A) :=
  ⟨Nat.one_pos, Nat.one_pos, by simp [Roster.initial]⟩

theorem Orderly.enter (h : Orderly r) (a : WorkerAction A) : Orderly (r.enter a) := by
  cases a <;> exact h.keep rfl le_rfl le_rfl

theorem orderly_lasting : Lasting config p (Orderly : Roster A → Prop) where
  initial := .initial
  enter _ a h := h.enter a
  move _ _ h := h.move
  release _ _ h := h.release
  clear _ h := h.keep rfl le_rfl le_rfl

theorem Scheduled.initial : Scheduled config (Roster.initial : Roster A) where
  orderly := .initial
  mem_iff handle := by simp [Roster.initial, Queued, find_eq_some]
  nodup := List.nodup_nil
  table := Nat.zero_le _

theorem Scheduled.enter (h : Scheduled config r) (a : WorkerAction A) :
    Scheduled config (r.enter a) := by
  cases a <;> exact h.keep (h.orderly.enter _) rfl rfl

end Roster

open Roster

variable {A : ActorModel} {config : WorkerActorConfig} {dbConfig : Option DbClientConfig}
  {p : Permit} {w w' : WorkerState A}

/-- Phase B has not ended. -/
def WorkerState.Early (w : WorkerState A) : Prop := w.stage = .running ∨ w.stage = .phaseB

/-- A step into an early stage is a step from one, and releases nothing. -/
theorem early_of_step {a : WorkerAction A} (h : workerTransition config w a = some (.ok w'))
    (hs : Stepped config p a w.roster w'.roster) (he : w'.Early) :
    w.Early ∧ Moves config p (w.roster.enter a) w'.roster := by
  obtain ⟨r₁, hm, hl⟩ := hs
  have hstage (hw : w'.roster = r₁) : w'.stage = (w.roster.enter a).stage :=
    (congrArg Roster.stage hw).trans hm.control.stage
  cases a with
  | beginShutdown =>
    obtain ⟨hc, _⟩ := Option.ite_none_right_eq_some.1 h
    exact ⟨.inl hc.2.1, hl ▸ hm⟩
  | leavePhaseB =>
    have hlate : w'.roster.stage = .phaseC := by
      refine (releases_control hl).stage.trans hm.control.stage
    rcases he with he | he <;> cases hlate.symm.trans he
  | leavePhaseC =>
    obtain ⟨r₂, hrel, hw, -⟩ := hl
    have hlate : w'.roster.stage = .phaseD := by
      rw [hw]
      exact (releases_control hrel).stage.trans hm.control.stage
    rcases he with he | he <;> cases hlate.symm.trans he
  | leavePhaseD => rcases he with he | he <;> cases (hstage hl).symm.trans he
  | forceCloseDb => rcases he with he | he <;> cases (hstage hl).symm.trans he
  | _ =>
    refine ⟨?_, hl ▸ hm⟩
    rw [WorkerState.Early, hstage hl] at he
    exact he

/-- **Ready queue.** Before the end of phase B the ready queue lists the Queued slots. -/
theorem scheduled_of_reach {guard : WorkerState A → WorkerAction A → Prop}
    (h : (workerMachine A config dbConfig).Reach guard w) (he : w.Early) :
    Scheduled config w.roster := by
  refine h.invariant (P := fun w => w.Early → Scheduled config w.roster) ?_ ?_ he
  · rintro _ rfl _
    exact .initial
  · intro w a w' _ hw _ hs he
    obtain ⟨hearly, hm⟩ := early_of_step (transition_of_step hs)
      (stepped_of_step (p := .all) hs (Permit.all_allows a)) he
    exact ((hw hearly).enter a).moves hm

theorem Roster.Scheduled.count_eq_one_iff {r : Roster A} (h : Scheduled config r)
    {key : ActorKey} {slot : ActorSlot A} (hl : r.actors.lookup key = some slot) :
    slot.state = .queued ↔ r.readyQueue.count ⟨key, slot.incarnation⟩ = 1 := by
  have hq : r.Queued ⟨key, slot.incarnation⟩ ↔ _ := queued_of_lookup hl rfl
  rw [← h.mem_iff] at hq
  simp only [true_and] at hq
  rw [← hq, ← List.one_le_count_iff]
  have := List.nodup_iff_count_le_one.1 h.nodup ⟨key, slot.incarnation⟩
  omega

/-- What a step may dispatch: only the slice of the actor that is at the head of the
queue, Queued and not blocked. -/
theorem dispatches_of_step {a : WorkerAction A}
    (h : (workerMachine A config dbConfig).step w a = some w') :
    ∃ new, w'.history = new ++ w.history ∧
      ∀ target message, .dispatched target message ∈ new → w.Dispatches target := by
  have hallows : Permit.Allows ⟨True, True, w.Dispatches⟩ config w a := by
    cases a <;> simp [Permit.Allows]
  obtain ⟨r₁, hm, hl⟩ := stepped_of_step h hallows
  have hgrows : Grows ⟨True, True, w.Dispatches⟩ (w.roster.enter a) r₁ := hm.grows
  have hreleased {r₂ : Roster A} (hr : Relation.ReflTransGen Release r₁ r₂) :
      Grows ⟨True, True, w.Dispatches⟩ (w.roster.enter a) r₂ := by
    induction hr with
    | refl => exact hgrows
    | tail _ hr ih => exact ih.trans hr.grows
  cases a with
  | leavePhaseB => exact hreleased hl
  | leavePhaseC =>
    obtain ⟨r₂, hrel, hw, -⟩ := hl
    obtain ⟨new, hn, hp⟩ := hreleased hrel
    exact ⟨new, (congrArg Roster.history hw).trans hn, hp⟩
  | _ =>
    obtain ⟨new, hn, hp⟩ := hgrows
    exact ⟨new, (congrArg Roster.history hl).trans hn, hp⟩

/-- An error of the ready queue or of a blocked actor comes from the actors. -/
theorem raises_of_error (hs : Scheduled config w.roster) {a : WorkerAction A} {e : String}
    (h : workerTransition config w a = some (.error e))
    (he : e = WorkerState.queueFull ∨ e = WorkerState.notReady) : A.Raises e := by
  obtain ⟨r, hm, hf⟩ := (transition_refines (p := .all) h (Permit.all_allows a) :
    Yields (.error e) _ _)
  rcases ((hs.enter a).moves hm).fault hf with hu | hr
  · rcases he with rfl | rfl
    · exact absurd rfl hu.1
    · exact absurd rfl hu.2
  · exact hr

/-- **The ready queue.** In every state of every run before the end of phase B: a slot
is Queued exactly when its handle occurs once in the queue, and the queue has no other
handles; it is not longer than the table may be; a Queued slot that is blocked has its
completion; a message is only dispatched for a slot that was Queued and not blocked;
and a step that throws the errors of a full queue or of a blocked actor throws what the
actors themselves threw. -/
theorem ready_queue_lists_queued
    (h : (workerMachine A config dbConfig).Reach (fun _ _ => True) w)
    (he : w.stage = .running ∨ w.stage = .phaseB) :
    (∀ key slot, w.actors.lookup key = some slot →
      (slot.state = .queued ↔ w.readyQueue.count ⟨key, slot.incarnation⟩ = 1)) ∧
    (∀ handle ∈ w.readyQueue, ∃ slot, w.find handle = some slot ∧ slot.state = .queued) ∧
    w.readyQueue.length ≤ config.actorTableCapacity ∧
    (∀ key slot b, w.actors.lookup key = some slot → slot.state = .queued →
      slot.blocked = some b → b.ready = true) ∧
    (∀ a w', (workerMachine A config dbConfig).step w a = some w' →
      ∃ new, w'.history = new ++ w.history ∧
        ∀ target message, .dispatched target message ∈ new →
          ∃ slot, w.find target = some slot ∧ slot.state = .queued ∧ slot.blocked = none) ∧
    ∀ a e, workerTransition config w a = some (.error e) →
      e = WorkerState.queueFull ∨ e = WorkerState.notReady → A.Raises e := by
  have hs := scheduled_of_reach h he
  refine ⟨fun key slot hl => hs.count_eq_one_iff hl, fun handle hm => (hs.mem_iff handle).1 hm,
    hs.length_le.trans hs.table, fun key slot b hl hq hb => ?_, fun a w' hstep => ?_,
    fun a e herr he => raises_of_error hs herr he⟩
  · have hc := (hs.orderly.proper key slot hl).coherent
    simp only [ActorSlot.Coherent, hq] at hc
    exact hc b hb
  · obtain ⟨new, hn, hp⟩ := dispatches_of_step hstep
    exact ⟨new, hn, fun target message hm => (hp target message hm).2⟩

/-- An actor that asks the database for a player whenever it gets a message. -/
def askingActor : ActorModel where
  Instance := Unit
  Message := Unit
  Frame := Unit
  Task := Unit
  construct _ := .ok (.ready ())
  constructLoaded _ _ := .ok .rejected
  dispatch _ _ _ := .ok ((), .suspended ())
  lifecycleTurn _ _ _ := .ok ((), .completed [])
  dbRequest _ := some (.loadPlayer 1)
  resumeDb _ _ _ := .ok ((), .completed [])
  resumeSynthetic _ _ _ := .ok ((), .completed [])
  lifecycleDeadline _ := none
  needsShutdownTurn _ := false
  shutdownPending _ := false

/-- Two actors are told something; the first one has run and is Queued again, because
there is no database. -/
theorem ready_queue_lists_queued_two :
    ∃ w, (workerMachine askingActor {} none).Reach (fun _ _ => True) w ∧
      w.readyQueue = [⟨⟨.player, 2⟩, 2⟩, ⟨⟨.player, 1⟩, 1⟩] ∧
      ∀ handle ∈ w.readyQueue, ∃ slot, w.find handle = some slot ∧ slot.state = .queued := by
  obtain ⟨w, hw, ht⟩ := (workerMachine askingActor {} none).exists_reach_of_replay
    (fun _ _ => True) (s := { timers := { maxApplicationTimerBytes := 64 * 1024 * 1024 } }) rfl
    [.tell ⟨.player, 1⟩ ⟨(), 0⟩ 0, .tell ⟨.player, 2⟩ ⟨(), 0⟩ 0, .expireTimers 0, .beginDb,
      .runReadyActors 0, .runActor 0 [0]]
    (fun w => w.stage = .running ∧ w.readyQueue = [⟨⟨.player, 2⟩, 2⟩, ⟨⟨.player, 1⟩, 1⟩])
    (by decide)
  have ht := of_decide_eq_true ht
  exact ⟨w, hw, ht.2, (ready_queue_lists_queued hw (.inl ht.1)).2.1⟩

end Snf.Worker
