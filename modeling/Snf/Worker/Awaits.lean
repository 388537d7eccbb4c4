import Snf.Worker.ReadyQueue

/-! # Every await is completed and resumed at most once

An await is known by its key: an actor, an incarnation and an operation, and no
operation is handed out twice. The history says when an await was completed and when
its coroutine was resumed. What keeps the two in step with the slots is that the await
of a waiting slot has not been completed, and the await of a slot that has its
completion has been completed and not yet resumed.
-/

namespace Snf.Worker

open Snf.Lib

namespace WorkerEvent

variable {μ : Type}

def completedKey : WorkerEvent μ → Option AwaitKey
  | .completed key _ => some key
  | _ => none

def resumedKey : WorkerEvent μ → Option AwaitKey
  | .resumed key _ => some key
  | _ => none

/-- The event is not about an await. -/
def neutral (event : WorkerEvent μ) : Prop :=
  event.completedKey = none ∧ event.resumedKey = none

end WorkerEvent

/-- The awaits that were completed, the latest first. -/
def completedKeys {μ : Type} (history : List (WorkerEvent μ)) : List AwaitKey :=
  history.filterMap WorkerEvent.completedKey

/-- The awaits whose coroutine was resumed, the latest first. -/
def resumedKeys {μ : Type} (history : List (WorkerEvent μ)) : List AwaitKey :=
  history.filterMap WorkerEvent.resumedKey

/-- Every resumption comes after the completion of its await, in a turn that began
after it. -/
def ResumedLater {μ : Type} (history : List (WorkerEvent μ)) : Prop :=
  ∀ later earlier key turnId, history = later ++ .resumed key turnId :: earlier →
    ∃ n ≤ turnId, .completed key n ∈ earlier

theorem mem_completedKeys {μ : Type} {history : List (WorkerEvent μ)} {key : AwaitKey} :
    key ∈ completedKeys history ↔ ∃ n, .completed key n ∈ history := by
  simp only [completedKeys, List.mem_filterMap]
  constructor
  · rintro ⟨event, hm, he⟩
    cases event <;> cases he
    exact ⟨_, hm⟩
  · rintro ⟨n, hm⟩
    exact ⟨_, hm, rfl⟩

theorem ResumedLater.cons {μ : Type} {history : List (WorkerEvent μ)} {event : WorkerEvent μ}
    (h : ResumedLater history)
    (he : ∀ key turnId, event = .resumed key turnId → ∃ n ≤ turnId, .completed key n ∈ history) :
    ResumedLater (event :: history) := by
  intro later earlier key turnId hh
  cases later with
  | nil =>
    cases hh
    exact he key turnId rfl
  | cons first later =>
    cases hh
    exact h later earlier key turnId rfl

/-! ## The history -/

section History

variable {μ : Type} {history : List (WorkerEvent μ)}

/-- The history taken alone is in order. -/
structure InOrder (history : List (WorkerEvent μ)) : Prop where
  completed : (completedKeys history).Nodup
  resumed : (resumedKeys history).Nodup
  later : ResumedLater history
  subset : resumedKeys history ⊆ completedKeys history

theorem InOrder.nil : InOrder ([] : List (WorkerEvent μ)) where
  completed := List.nodup_nil
  resumed := List.nodup_nil
  later := by
    intro later earlier key turnId h
    cases later <;> cases h
  subset := List.nil_subset _

variable {event : WorkerEvent μ} {key : AwaitKey} {n : Nat}

theorem completedKeys_neutral (he : event.neutral) :
    completedKeys (event :: history) = completedKeys history :=
  List.filterMap_cons_none he.1

theorem resumedKeys_neutral (he : event.neutral) :
    resumedKeys (event :: history) = resumedKeys history :=
  List.filterMap_cons_none he.2

theorem InOrder.neutral (h : InOrder history) (he : event.neutral) :
    InOrder (event :: history) where
  completed := by
    rw [completedKeys_neutral he]
    exact h.completed
  resumed := by
    rw [resumedKeys_neutral he]
    exact h.resumed
  later := h.later.cons fun key turnId hr => by
    rw [hr] at he
    cases he.2
  subset := by
    rw [completedKeys_neutral he, resumedKeys_neutral he]
    exact h.subset

theorem InOrder.complete (h : InOrder history) (hk : key ∉ completedKeys history) :
    InOrder (.completed key n :: history) where
  completed := List.nodup_cons.2 ⟨hk, h.completed⟩
  resumed := h.resumed
  later := h.later.cons nofun
  subset _ hk := List.mem_cons_of_mem _ (h.subset hk)

theorem InOrder.resume (h : InOrder history) (hc : ∃ m ≤ n, .completed key m ∈ history)
    (hk : key ∉ resumedKeys history) : InOrder (.resumed key n :: history) where
  completed := h.completed
  resumed := List.nodup_cons.2 ⟨hk, h.resumed⟩
  later := h.later.cons fun _ _ he => by
    cases he
    exact hc
  subset := by
    intro key' hm
    rcases List.mem_cons.1 hm with rfl | hm
    · obtain ⟨m, _, hm⟩ := hc
      exact mem_completedKeys.2 ⟨m, List.mem_cons_of_mem _ hm⟩
    · exact h.subset hm

end History

namespace Roster

variable {A : ActorModel} {config : WorkerActorConfig} {p : Permit} {r r' : Roster A}
  {handle : ActivationRef} {key : ActorKey} {slot slot' : ActorSlot A}

/-- The await of a slot is known to the history as far as it has come. -/
def Tracked (history : List (WorkerEvent A.Message)) (b : BlockedTask A.Task) : Prop :=
  if b.ready = true then b.key ∈ completedKeys history ∧ b.key ∉ resumedKeys history
  else b.key ∉ completedKeys history

section Tracked

variable {history : List (WorkerEvent A.Message)} {b : BlockedTask A.Task} {k : AwaitKey} {n : Nat}

theorem Tracked.of_completed (h : Tracked history b) (hk : b.key ≠ k) :
    Tracked (.completed k n :: history) b := by
  unfold Tracked at h ⊢
  change if b.ready = true then b.key ∈ k :: completedKeys history ∧ b.key ∉ resumedKeys history
    else b.key ∉ k :: completedKeys history
  split at h
  · next hr =>
    rw [if_pos hr]
    exact ⟨List.mem_cons_of_mem _ h.1, h.2⟩
  · next hr =>
    rw [if_neg hr, List.mem_cons, not_or]
    exact ⟨hk, h⟩

theorem Tracked.of_resumed (h : Tracked history b) (hk : b.key ≠ k) :
    Tracked (.resumed k n :: history) b := by
  unfold Tracked at h ⊢
  change if b.ready = true then b.key ∈ completedKeys history ∧ b.key ∉ k :: resumedKeys history
    else b.key ∉ completedKeys history
  split at h
  · next hr =>
    rw [if_pos hr, List.mem_cons, not_or]
    exact ⟨h.1, hk, h.2⟩
  · next hr =>
    rw [if_neg hr]
    exact h

/-- The await has just been completed. -/
theorem Tracked.completed (hr : b.ready = true) (hk : b.key ∉ resumedKeys history) :
    Tracked (.completed b.key n :: history) b := by
  unfold Tracked
  rw [if_pos hr]
  exact ⟨List.mem_cons_self, hk⟩

end Tracked

/-- The awaits of the slots and the history are in step. -/
structure InStep (r : Roster A) : Prop where
  orderly : Orderly r
  order : InOrder r.history
  old : ∀ k ∈ completedKeys r.history, k.operation < r.nextOperation
  turns : ∀ k n, .completed k n ∈ r.history → n ≤ r.nextTurn
  tracked : ∀ key slot b, r.actors.lookup key = some slot → slot.blocked = some b →
    Tracked r.history b

namespace InStep

/-- Nothing about awaits is recorded, and no slot has an await that it did not have. -/
theorem keep (h : InStep r) (ho : Orderly r') (hh : r'.history = r.history)
    (hop : r.nextOperation ≤ r'.nextOperation) (ht : r.nextTurn ≤ r'.nextTurn)
    (hs : ∀ key slot' b, r'.actors.lookup key = some slot' → slot'.blocked = some b →
      (∃ slot, r.actors.lookup key = some slot ∧ slot.blocked = some b) ∨
        (b.ready = false ∧ r.nextOperation ≤ b.key.operation)) : InStep r' where
  orderly := ho
  order := hh ▸ h.order
  old k hk := lt_of_lt_of_le (h.old k (hh ▸ hk)) hop
  turns k n hm := (h.turns k n (hh ▸ hm)).trans ht
  tracked key slot' b hl hb := by
    rw [hh]
    rcases hs key slot' b hl hb with ⟨slot, hl', hb'⟩ | ⟨hr, hnew⟩
    · exact h.tracked key slot b hl' hb'
    · simp only [Tracked, hr, Bool.false_eq_true, if_false]
      exact fun hk => absurd (h.old _ hk) (Nat.not_lt.2 hnew)

theorem neutral (h : InStep r) (event : WorkerEvent A.Message) (he : event.neutral) :
    InStep (r.record event) where
  orderly := h.orderly.keep rfl le_rfl le_rfl
  order := h.order.neutral he
  old k hk := h.old k (completedKeys_neutral he ▸ hk)
  turns k n hm := by
    rcases List.mem_cons.1 hm with rfl | hm
    · cases he.1
    · exact h.turns k n hm
  tracked key slot b hl hb := by
    have ht := h.tracked key slot b hl hb
    simp only [Tracked, record, completedKeys_neutral he, resumedKeys_neutral he] at ht ⊢
    exact ht

/-- The awaits of two slots have different keys. -/
theorem key_ne (h : Orderly r) {key' : ActorKey} {b b' : BlockedTask A.Task}
    (hl : r.actors.lookup key = some slot) (hb : slot.blocked = some b)
    (hl' : r.actors.lookup key' = some slot') (hb' : slot'.blocked = some b') (hne : key' ≠ key) :
    b'.key ≠ b.key := by
  intro he
  have h₁ := ((h.proper _ _ hl).await b hb).1
  have h₂ := ((h.proper _ _ hl').await b' hb').1
  rw [he, h₁] at h₂
  exact hne h₂.symm

/-- The await `k` is completed: the slots that are blocked on it have their completion,
the others have the awaits that they had. -/
theorem complete (h : InStep r) (ho : Orderly r') {k : AwaitKey}
    (hk : k ∉ completedKeys r.history) (hkop : k.operation < r'.nextOperation)
    (hh : r'.history = .completed k r.nextTurn :: r.history)
    (hop : r.nextOperation ≤ r'.nextOperation) (ht : r'.nextTurn = r.nextTurn)
    (hs : ∀ key slot' b, r'.actors.lookup key = some slot' → slot'.blocked = some b →
      (b.ready = true ∧ b.key = k) ∨
        (b.key ≠ k ∧ ∃ slot, r.actors.lookup key = some slot ∧ slot.blocked = some b)) :
    InStep r' where
  orderly := ho
  order := hh ▸ h.order.complete hk
  old k' hk' := by
    rw [hh] at hk'
    rcases List.mem_cons.1 hk' with rfl | hk'
    · exact hkop
    · exact lt_of_lt_of_le (h.old k' hk') hop
  turns k' n hm := by
    rw [hh] at hm
    rw [ht]
    rcases List.mem_cons.1 hm with he | hm
    · cases he
      exact le_rfl
    · exact h.turns k' n hm
  tracked key slot' b hl hb := by
    rw [hh]
    rcases hs key slot' b hl hb with ⟨hr, rfl⟩ | ⟨hne, slot, hl', hb'⟩
    · exact .completed hr fun hm => hk (h.order.subset hm)
    · exact (h.tracked key slot b hl' hb').of_completed hne

/-- The coroutine of a completed await is resumed. -/
theorem resume (h : InStep r) (ho : Orderly r') {b : BlockedTask A.Task}
    (hl : r.actors.lookup key = some slot) (hb : slot.blocked = some b) (hr : b.ready = true)
    (hh : r'.history = .resumed b.key r.nextTurn :: r.history)
    (hop : r'.nextOperation = r.nextOperation) (ht : r'.nextTurn = r.nextTurn + 1)
    (ha : r'.actors = r.actors.insert key slot') (hu : slot'.blocked = none) : InStep r' where
  orderly := ho
  order := by
    have htr := h.tracked _ _ _ hl hb
    simp only [Tracked, hr, if_true] at htr
    obtain ⟨n, hn⟩ := mem_completedKeys.1 htr.1
    exact hh ▸ h.order.resume ⟨n, h.turns _ n hn, hn⟩ htr.2
  old k hk := by
    rw [hh] at hk
    rw [hop]
    exact h.old k hk
  turns k n hm := by
    rw [hh] at hm
    rw [ht]
    rcases List.mem_cons.1 hm with he | hm
    · cases he
    · exact (h.turns k n hm).trans (Nat.le_succ _)
  tracked key' slot₁ b' hl' hb' := by
    rw [ha, lookup_insert_ite] at hl'
    split at hl'
    · cases hl'
      rw [hu] at hb'
      cases hb'
    · next hne =>
      rw [hh]
      exact (h.tracked _ _ _ hl' hb').of_resumed (key_ne h.orderly hl hb hl' hb' hne)

/-- A slot changes and has no await that it did not have. -/
theorem update (h : InStep r) (ho : Orderly r') (hh : r'.history = r.history)
    (hop : r.nextOperation ≤ r'.nextOperation) (ht : r.nextTurn ≤ r'.nextTurn)
    (hl : r.actors.lookup key = some slot) (ha : r'.actors = r.actors.insert key slot')
    (hb : ∀ b, slot'.blocked = some b → slot.blocked = some b) : InStep r' := by
  refine h.keep ho hh hop ht fun key₁ slot₁ b hl₁ hb₁ => .inl ?_
  rw [ha, lookup_insert_ite] at hl₁
  split at hl₁
  · next hk =>
    cases hl₁
    exact ⟨slot, hk ▸ hl, hb b hb₁⟩
  · exact ⟨slot₁, hl₁, hb₁⟩

/-- A slot takes an await with a new operation, and waits. -/
theorem block (h : InStep r) (ho : Orderly r') (hh : r'.history = r.history)
    (hop : r.nextOperation ≤ r'.nextOperation) (ht : r.nextTurn ≤ r'.nextTurn)
    (ha : r'.actors = r.actors.insert key slot') {b : BlockedTask A.Task}
    (hb : slot'.blocked = some b) (hr : b.ready = false)
    (hk : b.key.operation = r.nextOperation) : InStep r' := by
  refine h.keep ho hh hop ht fun key₁ slot₁ b₁ hl₁ hb₁ => ?_
  rw [ha, lookup_insert_ite] at hl₁
  split at hl₁
  · cases hl₁
    rw [hb] at hb₁
    cases hb₁
    exact .inr ⟨hr, hk.symm.le⟩
  · exact .inl ⟨slot₁, hl₁, hb₁⟩

/-- The await that a slot waits on is completed, and only this slot changes. -/
theorem completeSlot (h : InStep r) (ho : Orderly r') {b : BlockedTask A.Task}
    (hl : r.actors.lookup key = some slot) (hb : slot.blocked = some b) (hr : b.ready = false)
    (hh : r'.history = .completed b.key r.nextTurn :: r.history)
    (hop : r'.nextOperation = r.nextOperation) (ht : r'.nextTurn = r.nextTurn)
    (hother : ∀ key', key' ≠ key → r'.actors.lookup key' = r.actors.lookup key')
    (hself : ∀ slot' b', r'.actors.lookup key = some slot' → slot'.blocked = some b' →
      b'.ready = true ∧ b'.key = b.key) : InStep r' := by
  have hk : b.key ∉ completedKeys r.history := by
    simpa [Tracked, hr] using h.tracked _ _ b hl hb
  refine h.complete ho hk ?_ hh hop.symm.le ht fun key₁ slot₁ b₁ hl₁ hb₁ => ?_
  · exact hop ▸ ((h.orderly.proper _ _ hl).await b hb).2.2.2
  · by_cases hne : key₁ = key
    · exact .inl (hself slot₁ b₁ (hne ▸ hl₁) hb₁)
    · rw [hother key₁ hne] at hl₁
      exact .inr ⟨key_ne h.orderly hl hb hl₁ hb₁ hne, slot₁, hl₁, hb₁⟩

theorem remove (h : InStep r) (key : ActorKey) (slot : ActorSlot A) : InStep (r.remove key slot) := by
  have hrec := h.neutral (.discarded ⟨key, slot.incarnation⟩ slot.mailbox) ⟨rfl, rfl⟩
  refine hrec.keep (hrec.orderly.erase rfl rfl rfl) rfl le_rfl le_rfl fun key₁ slot₁ b hl₁ hb₁ => ?_
  change (r.actors.erase key).lookup key₁ = some slot₁ at hl₁
  rw [lookup_erase_ite] at hl₁
  split at hl₁
  · cases hl₁
  · exact .inl ⟨slot₁, hl₁, hb₁⟩

theorem move (h : InStep r) (hm : Move config p r r') : InStep r' := by
  have ho := h.orderly.move hm
  cases hm with
  | count i o t hi hop ht => exact h.keep ho rfl hop ht fun _ slot _ hl hb => .inl ⟨slot, hl, hb⟩
  | arm armed hl => exact h.update ho rfl le_rfl le_rfl hl rfl fun _ => id
  | receive envelope hl =>
    exact (h.neutral (.accepted _ envelope) ⟨rfl, rfl⟩).update ho rfl le_rfl le_rfl hl rfl fun _ => id
  | receiveIdle envelope hl =>
    exact (h.neutral (.accepted _ envelope) ⟨rfl, rfl⟩).update ho rfl le_rfl le_rfl hl rfl fun _ => id
  | @construct key actor envelope _ hl =>
    refine (h.neutral (.accepted _ envelope) ⟨rfl, rfl⟩).keep ho rfl le_rfl le_rfl fun key₁ slot₁ b hl₁ hb₁ => .inl ?_
    change (r.actors.insert key _).lookup key₁ = some slot₁ at hl₁
    rw [lookup_insert_ite] at hl₁
    split at hl₁
    · cases hl₁
      cases hb₁
    · exact ⟨slot₁, hl₁, hb₁⟩
  | load deadline envelope _ hl =>
    exact (h.neutral (.accepted _ envelope) ⟨rfl, rfl⟩).block ho rfl (Nat.le_succ _) le_rfl rfl rfl rfl rfl
  | wake hl => exact h.update ho rfl le_rfl le_rfl hl rfl fun _ => id
  | skip => exact h.keep ho rfl le_rfl le_rfl fun _ slot _ hl hb => .inl ⟨slot, hl, hb⟩
  | start hq hf => exact h.update ho rfl le_rfl le_rfl (find_eq_some.1 hf).1 rfl fun _ => id
  | resume inst hq hf hs hb hr => exact h.resume ho (find_eq_some.1 hf).1 hb hr rfl rfl rfl rfl rfl
  | turn inst hf => exact h.update ho rfl le_rfl le_rfl (find_eq_some.1 hf).1 rfl fun _ => id
  | @dispatch handle slot inst envelope _ _ hf =>
    exact (h.neutral (.dispatched handle envelope) ⟨rfl, rfl⟩).update ho rfl le_rfl le_rfl (find_eq_some.1 hf).1 rfl fun _ => id
  | stop hf => exact h.update ho rfl le_rfl le_rfl (find_eq_some.1 hf).1 rfl fun _ => id
  | rest hf => exact h.update ho rfl le_rfl le_rfl (find_eq_some.1 hf).1 rfl fun _ => id
  | requeue hf => exact h.update ho rfl le_rfl le_rfl (find_eq_some.1 hf).1 rfl fun _ => id
  | suspend hf hs hw hk =>
    exact h.block ho rfl (Nat.le_succ _) le_rfl rfl rfl (BlockedTask.not_ready_of_waiting hw)
      (congrArg AwaitKey.operation hk)
  | @refuse handle slot b hf hs hr hk =>
    have hop : b.key.operation = r.nextOperation := congrArg AwaitKey.operation hk
    refine h.complete ho (fun hm => absurd (h.old _ hm) (Nat.not_lt.2 hop.symm.le)) ?_ rfl
      (Nat.le_succ _) rfl fun key₁ slot₁ b₁ hl₁ hb₁ => ?_
    · rw [hop]
      exact Nat.lt_succ_self _
    · change (r.actors.insert handle.actor _).lookup key₁ = some slot₁ at hl₁
      rw [lookup_insert_ite] at hl₁
      split at hl₁
      · cases hl₁
        cases hb₁
        exact .inl ⟨hr, rfl⟩
      · refine .inr ⟨fun he => ?_, slot₁, hl₁, hb₁⟩
        have hold := ((h.orderly.proper _ _ hl₁).await b₁ hb₁).2.2.2
        rw [he, hop] at hold
        exact absurd hold (Nat.lt_irrefl _)
  | @complete key slot b b' hl hb hc =>
    refine h.completeSlot ho hl hb (BlockedTask.not_ready_of_waiting hc.waiting) rfl rfl rfl
      (fun key' hne => ?_) fun slot₁ b₁ hl₁ hb₁ => ?_
    · exact (lookup_insert_ite _ _ _ _).trans (if_neg hne)
    · change (r.actors.insert key _).lookup key = some slot₁ at hl₁
      rw [lookup_insert_ite, if_pos rfl] at hl₁
      cases hl₁
      cases hb₁
      exact ⟨hc.ready, hc.key⟩
  | @activate key slot load inst hl hs hb =>
    refine h.completeSlot ho hl hb rfl rfl rfl rfl (fun key' hne => ?_) fun slot₁ b₁ hl₁ hb₁ => ?_
    · exact (lookup_insert_ite _ _ _ _).trans (if_neg hne)
    · change (r.actors.insert key _).lookup key = some slot₁ at hl₁
      rw [lookup_insert_ite, if_pos rfl] at hl₁
      cases hl₁
      cases hb₁
  | @activateQueued key slot load inst hl hs hb =>
    refine h.completeSlot ho hl hb rfl rfl rfl rfl (fun key' hne => ?_) fun slot₁ b₁ hl₁ hb₁ => ?_
    · exact (lookup_insert_ite _ _ _ _).trans (if_neg hne)
    · change (r.actors.insert key _).lookup key = some slot₁ at hl₁
      rw [lookup_insert_ite, if_pos rfl] at hl₁
      cases hl₁
      cases hb₁
  | @failLoad key slot load hl hb =>
    have herased : InStep { r.complete load.key with actors := r.actors.erase key } := by
      refine h.completeSlot (h.orderly.erase rfl rfl rfl) hl hb rfl rfl rfl rfl (fun key' hne => ?_)
        fun slot₁ b₁ hl₁ hb₁ => ?_
      · exact (lookup_erase_ite _ _ _).trans (if_neg hne)
      · change (r.actors.erase key).lookup key = some slot₁ at hl₁
        rw [lookup_erase_ite, if_pos rfl] at hl₁
        cases hl₁
    have hfailed := (herased.neutral (.loadFailed ⟨key, slot.incarnation⟩) ⟨rfl, rfl⟩).neutral
      (.discarded ⟨key, slot.incarnation⟩ slot.mailbox) ⟨rfl, rfl⟩
    exact hfailed.keep ho rfl le_rfl le_rfl fun _ slot _ hl hb => .inl ⟨slot, hl, hb⟩
  | remove hf => exact h.remove _ _

theorem initial : InStep (Roster.initial : Roster A) where
  orderly := .initial
  order := .nil
  old := by simp [Roster.initial, completedKeys]
  turns := by simp [Roster.initial]
  tracked := by simp [Roster.initial]

theorem lasting : Lasting config p (InStep : Roster A → Prop) where
  initial := .initial
  enter r a h := by
    have ho := h.orderly.enter a
    cases a <;> exact h.keep ho rfl le_rfl le_rfl fun _ slot _ hl hb => .inl ⟨slot, hl, hb⟩
  move _ _ h := h.move
  release _ _ h hr := by
    obtain ⟨hl⟩ := hr
    exact h.remove _ _
  clear _ h := h.keep (h.orderly.keep rfl le_rfl le_rfl) rfl le_rfl le_rfl
    fun _ slot _ hl hb => .inl ⟨slot, hl, hb⟩

end InStep

end Roster

/-! ## Completions that arrive -/

namespace WorkerState

variable {A : ActorModel} {config : WorkerActorConfig} {w : WorkerState A}

/-- A slot is blocked on the await `key`, which has no completion yet. -/
def Awaits (w : WorkerState A) (key : AwaitKey) : Prop :=
  ∃ slot b, w.actors.lookup key.actor = some slot ∧ slot.blocked = some b ∧ b.ready = false ∧
    b.key = key

/-- No completion of `key`, from whatever source, changes anything. -/
structure Ignores (config : WorkerActorConfig) (w : WorkerState A) (key : AwaitKey) : Prop where
  db : ∀ result, w.completeDb config (key, result) = .ok w
  synthetic : ∀ outcome, w.tryMarkSyntheticCommandReady config key outcome = .ok w
  activation : ∀ outcome, w.completeSyntheticActivation config key outcome = .ok w
  timeout : w.onTimer config (.awaitTimeout key) = .ok w

theorem tryMarkDbCommandReady_stale {key : AwaitKey} (h : ¬w.Awaits key) (result : DbResult) :
    w.tryMarkDbCommandReady config key result = .ok w := by
  simp only [tryMarkDbCommandReady]
  split
  · next slot hl =>
    split
    · next command hb =>
      split
      · next hc =>
        simp only [Bool.and_eq_true, Option.isNone_iff_eq_none] at hc
        exact absurd ⟨slot, _, hl, hb, by simp [BlockedTask.ready, hc.2],
          (eq_of_acceptsCompletion hc.1.2).symm⟩ h
      · rfl
    · rfl
  · rfl

theorem tryMarkSyntheticCommandReady_stale {key : AwaitKey} (h : ¬w.Awaits key)
    (outcome : SyntheticAwaitOutcome) :
    w.tryMarkSyntheticCommandReady config key outcome = .ok w := by
  simp only [tryMarkSyntheticCommandReady]
  split
  · next slot hl =>
    split
    · next command hb =>
      split
      · next hc =>
        simp only [Bool.and_eq_true, Option.isNone_iff_eq_none] at hc
        exact absurd ⟨slot, _, hl, hb, by simp [BlockedTask.ready, hc.2],
          (eq_of_acceptsCompletion hc.1.2).symm⟩ h
      · rfl
    · rfl
  · rfl

theorem loadingSlot_stale {key : AwaitKey} (h : ¬w.Awaits key) : w.loadingSlot key = none := by
  cases hs : w.loadingSlot key with
  | none => rfl
  | some slot =>
    obtain ⟨hl, -, load, hb, hk⟩ := loadingSlot_eq_some hs
    exact absurd ⟨slot, _, hl, hb, rfl, hk⟩ h

theorem completeLoad_stale {key : AwaitKey} (h : ¬w.Awaits key)
    (construction : Except String (ActorConstructionResult A.Instance)) :
    w.completeLoad config key construction = .ok w := by
  simp only [completeLoad, loadingSlot_stale h]

theorem ignores_of_not_awaits {key : AwaitKey} (h : ¬w.Awaits key) : w.Ignores config key where
  db result := by
    simp only [completeDb]
    split
    · exact tryMarkDbCommandReady_stale h result
    · split
      · exact completeLoad_stale h _
      · exact completeLoad_stale h _
      · simp [loadingSlot_stale h]
    · rfl
  synthetic := tryMarkSyntheticCommandReady_stale h
  activation _ := completeLoad_stale h _
  timeout := by
    simp only [onTimer]
    split
    · exact tryMarkSyntheticCommandReady_stale h _
    · exact tryMarkDbCommandReady_stale h _
    · exact completeLoad_stale h _
    · rfl

variable {actor : ActorKey} {slot : ActorSlot A}

/-- A key that was handed out accepts itself. -/
theorem acceptsCompletion_self (ho : w.roster.Orderly) {b : BlockedTask A.Task}
    (hl : w.actors.lookup actor = some slot) (hb : slot.blocked = some b) :
    b.key.actor = actor ∧ acceptsCompletion b.key b.key = true := by
  have hp := ho.proper actor slot hl
  obtain ⟨ha, hi, hop, -⟩ := hp.await b hb
  have hpos : 0 < b.key.incarnation := hi ▸ hp.positive
  refine ⟨ha, ?_⟩
  simp only [acceptsCompletion, Bool.and_eq_true, decide_eq_true_eq]
  exact ⟨⟨⟨⟨hpos.ne', hop.ne'⟩, hpos.ne'⟩, hop.ne'⟩, trivial⟩

theorem tryMarkDb_accepted (config : WorkerActorConfig) (ho : w.roster.Orderly) {command : SuspendedCommand A.Task DbResult}
    (hl : w.actors.lookup actor = some slot) (hb : slot.blocked = some (.db command))
    (hc : command.completion = none) (result : DbResult) :
    w.tryMarkDbCommandReady config command.key result =
      (w.complete command.key).enqueue config actor
        { slot with blocked := some (.db { command with completion := some result }) } := by
  obtain ⟨ha, hself⟩ := acceptsCompletion_self ho hl hb
  have ha : actor = command.key.actor := ha.symm
  subst ha
  have hs := (ho.proper _ slot hl).coherent.suspended hb (by simp [BlockedTask.waiting, hc])
  have hself : acceptsCompletion command.key command.key = true := hself
  simp [tryMarkDbCommandReady, hl, hb, hs, hself, hc]

theorem tryMarkSynthetic_accepted (config : WorkerActorConfig) (ho : w.roster.Orderly)
    {command : SuspendedCommand A.Task SyntheticAwaitOutcome}
    (hl : w.actors.lookup actor = some slot) (hb : slot.blocked = some (.synthetic command))
    (hc : command.completion = none) (outcome : SyntheticAwaitOutcome) :
    w.tryMarkSyntheticCommandReady config command.key outcome =
      (w.complete command.key).enqueue config actor
        { slot with blocked := some (.synthetic { command with completion := some outcome }) } := by
  obtain ⟨ha, hself⟩ := acceptsCompletion_self ho hl hb
  have ha : actor = command.key.actor := ha.symm
  subst ha
  have hs := (ho.proper _ slot hl).coherent.suspended hb (by simp [BlockedTask.waiting, hc])
  have hself : acceptsCompletion command.key command.key = true := hself
  simp [tryMarkSyntheticCommandReady, hl, hb, hs, hself, hc]

theorem completeLoad_accepted (config : WorkerActorConfig) (ho : w.roster.Orderly) {load : ActivationLoad}
    (hl : w.actors.lookup actor = some slot) (hb : slot.blocked = some (.activationLoad load))
    (construction : ActorConstructionResult A.Instance) :
    w.completeLoad config load.key (.ok construction) =
      match construction with
      | .ready inst => (w.complete load.key).finishActivation config actor slot inst
      | _ => .ok ((w.complete load.key).failActivation actor slot) := by
  obtain ⟨ha, hself⟩ := acceptsCompletion_self ho hl hb
  have ha : actor = load.key.actor := ha.symm
  subst ha
  have hs := (ho.proper _ slot hl).coherent.loading hb
  have hself : acceptsCompletion load.key load.key = true := hself
  have hslot : w.loadingSlot load.key = some slot := by
    simp [loadingSlot, hl, hb, hs, hself]
  simp only [completeLoad, hslot]
  rfl

/-- Which function an arriving result and an expired timeout reach depends on what
blocks the slot of the key. -/
theorem completeDb_of_db (config : WorkerActorConfig) {key : AwaitKey} {command : SuspendedCommand A.Task DbResult}
    (hl : w.actors.lookup key.actor = some slot) (hb : slot.blocked = some (.db command))
    (result : DbResult) :
    w.completeDb config (key, result) = w.tryMarkDbCommandReady config key result ∧
      w.onTimer config (.awaitTimeout key) =
        w.tryMarkDbCommandReady config key awaitTimedOut := by
  simp [completeDb, onTimer, hl, hb]

theorem onTimer_of_synthetic {key : AwaitKey}
    {command : SuspendedCommand A.Task SyntheticAwaitOutcome}
    (hl : w.actors.lookup key.actor = some slot) (hb : slot.blocked = some (.synthetic command)) :
    w.onTimer config (.awaitTimeout key) =
      w.tryMarkSyntheticCommandReady config key .timedOut := by
  simp [onTimer, hl, hb]

theorem onTimer_of_load {key : AwaitKey} {load : ActivationLoad}
    (hl : w.actors.lookup key.actor = some slot)
    (hb : slot.blocked = some (.activationLoad load)) :
    w.onTimer config (.awaitTimeout key) = w.completeLoad config key (.ok .rejected) := by
  simp [onTimer, hl, hb, completeSyntheticActivation]

/-- What the worker makes of the completions of awaits: no await is completed or resumed
twice, a coroutine is resumed in a turn that began after its completion, the first
completion that carries the key of an await is the one it gets, and a completion that no
slot waits for changes nothing. -/
structure AwaitsOnce (config : WorkerActorConfig) (w : WorkerState A) : Prop where
  completed : (completedKeys w.history).Nodup
  resumed : (resumedKeys w.history).Nodup
  later : ResumedLater w.history
  firstDb : ∀ actor slot command, w.actors.lookup actor = some slot →
    slot.blocked = some (.db command) → command.completion = none →
    (∀ result, w.completeDb config (command.key, result) =
      (w.complete command.key).enqueue config actor
        { slot with blocked := some (.db { command with completion := some result }) }) ∧
    w.onTimer config (.awaitTimeout command.key) =
      (w.complete command.key).enqueue config actor
        { slot with blocked := some (.db { command with completion := some awaitTimedOut }) }
  firstSynthetic : ∀ actor slot command, w.actors.lookup actor = some slot →
    slot.blocked = some (.synthetic command) → command.completion = none →
    (∀ outcome, w.tryMarkSyntheticCommandReady config command.key outcome =
      (w.complete command.key).enqueue config actor
        { slot with blocked := some (.synthetic { command with completion := some outcome }) }) ∧
    w.onTimer config (.awaitTimeout command.key) =
      (w.complete command.key).enqueue config actor
        { slot with blocked := some (.synthetic { command with completion := some .timedOut }) }
  firstLoad : ∀ actor slot load, w.actors.lookup actor = some slot →
    slot.blocked = some (.activationLoad load) →
    (∀ construction, w.completeLoad config load.key (.ok construction) =
      match construction with
      | .ready inst => (w.complete load.key).finishActivation config actor slot inst
      | _ => .ok ((w.complete load.key).failActivation actor slot)) ∧
    w.onTimer config (.awaitTimeout load.key) =
      .ok ((w.complete load.key).failActivation actor slot)
  stale : ∀ key, ¬w.Awaits key → w.Ignores config key

end WorkerState

section Runs

variable {A : ActorModel} {config : WorkerActorConfig} {dbConfig : Option DbClientConfig}
  {w : WorkerState A}

/-- **Awaits.** In every state of every run, every await is completed at most once, by
the first completion that carries its key, and resumed at most once, in a later turn;
every other completion changes nothing. -/
theorem awaits_once (h : (workerMachine A config dbConfig).Reach (fun _ _ => True) w) :
    w.AwaitsOnce config := by
  have hstep : w.roster.InStep :=
    Roster.InStep.lasting.reach (p := .all) (fun _ a _ => Permit.all_allows a) h
  exact {
    completed := hstep.order.completed
    resumed := hstep.order.resumed
    later := hstep.order.later
    firstDb := fun actor slot command hl hb hc => by
      have hl' : w.actors.lookup command.key.actor = some slot :=
        (WorkerState.acceptsCompletion_self hstep.orderly hl hb).1 ▸ hl
      have hmark := WorkerState.tryMarkDb_accepted config hstep.orderly hl hb hc
      have hroute := WorkerState.completeDb_of_db config hl' hb
      exact ⟨fun result => (hroute result).1.trans (hmark result),
        (hroute WorkerState.awaitTimedOut).2.trans (hmark _)⟩
    firstSynthetic := fun actor slot command hl hb hc => by
      have hl' : w.actors.lookup command.key.actor = some slot :=
        (WorkerState.acceptsCompletion_self hstep.orderly hl hb).1 ▸ hl
      have hmark := WorkerState.tryMarkSynthetic_accepted config hstep.orderly hl hb hc
      exact ⟨hmark, (WorkerState.onTimer_of_synthetic hl' hb).trans (hmark _)⟩
    firstLoad := fun actor slot load hl hb => by
      have hl' : w.actors.lookup load.key.actor = some slot :=
        (WorkerState.acceptsCompletion_self hstep.orderly hl hb).1 ▸ hl
      have hload := WorkerState.completeLoad_accepted config hstep.orderly hl hb
      exact ⟨hload, (WorkerState.onTimer_of_load hl' hb).trans (hload _)⟩
    stale := fun _ hn => WorkerState.ignores_of_not_awaits hn }

/-- The timeout of a request completes its await; what the database then says about the
request is stale. -/
theorem awaits_once_timeout :
    ∃ w, (workerMachine askingActor {} (some {})).Reach (fun _ _ => True) w ∧
      resumedKeys w.history = [⟨⟨.player, 1⟩, 1, 1⟩] ∧
      completedKeys w.history = [⟨⟨.player, 1⟩, 1, 1⟩] ∧
      ∀ result, w.completeDb {} (⟨⟨.player, 1⟩, 1, 1⟩, result) = .ok w := by
  obtain ⟨w, hw, ht⟩ := (workerMachine askingActor {} (some {})).exists_reach_of_replay
    (fun _ _ => True)
    (s := { timers := { maxApplicationTimerBytes := 64 * 1024 * 1024 }
            db := some (DbClient.start (DbClient.create {})) }) rfl
    [.tell ⟨.player, 1⟩ ⟨(), 0⟩ 0, .expireTimers 0, .beginDb, .runReadyActors 0, .runActor 0 [0],
      .endIteration, .expireTimers 3000, .fireTimer 0, .beginDb, .runReadyActors 3000,
      .runActor 3000 [3000]]
    (fun w => resumedKeys w.history = [⟨⟨.player, 1⟩, 1, 1⟩] ∧
      completedKeys w.history = [⟨⟨.player, 1⟩, 1, 1⟩] ∧
      ((w.actors.lookup ⟨.player, 1⟩).bind (·.blocked)).isNone) (by decide)
  have ht := of_decide_eq_true ht
  refine ⟨w, hw, ht.1, ht.2.1, ((awaits_once hw).stale _ ?_).db⟩
  rintro ⟨slot, b, hl, hb, -⟩
  simp [hl, hb] at ht

end Runs

end Snf.Worker
