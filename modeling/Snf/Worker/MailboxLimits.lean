import Snf.Worker.Mailboxes
import Snf.Worker.Shutdown

/-! # Mailboxes within their limits

`Counted` and `Balanced` say what the totals of a worker are and what becomes of an accepted
message. What is left is that the limits hold: every way into a mailbox compares with them
first, and the first message of an activation needs no more than a configuration that allows
one message.
-/

namespace Snf.Worker

open Snf.Lib

namespace Roster

variable {A : ActorModel} {config : WorkerActorConfig} {p : Permit} {r r' : Roster A}
  {key : ActorKey} {slot slot' : ActorSlot A}

/-- A mailbox within the limits of one actor. -/
structure Within (config : WorkerActorConfig) (slot : ActorSlot A) : Prop where
  messages : slot.mailbox.length ≤ config.maxMailboxMessagesPerActor
  bytes : slot.mailboxBytes ≤ config.maxMailboxBytesPerActor

theorem Within.of_mailbox (h : Within config slot) (hbox : slot'.mailbox = slot.mailbox) :
    Within config slot' := by
  refine ⟨hbox ▸ h.messages, ?_⟩
  rw [ActorSlot.mailboxBytes, hbox]
  exact h.bytes

theorem Admits.within {envelope : ActorEnvelope A.Message}
    (h : r.Admits config slot envelope.chargedBytes)
    (hbox : slot'.mailbox = slot.mailbox ++ [envelope]) : Within config slot' := by
  constructor
  · rw [hbox, List.length_append]
    exact h.messages
  · simpa [ActorSlot.mailboxBytes, hbox] using h.bytes

theorem AdmitsFirst.within {envelope : ActorEnvelope A.Message}
    (h : r.AdmitsFirst config envelope.chargedBytes)
    (hone : 0 < config.maxMailboxMessagesPerActor) (hbox : slot'.mailbox = [envelope]) :
    Within config slot' := by
  constructor
  · rw [hbox]
    exact hone
  · simpa [ActorSlot.mailboxBytes, hbox] using h.bytes

structure Limited (config : WorkerActorConfig) (r : Roster A) : Prop where
  slots : ∀ key slot, r.actors.lookup key = some slot → Within config slot
  messages : r.totalMailboxMessages ≤ config.maxMailboxMessagesTotal
  bytes : r.totalMailboxBytes ≤ config.maxMailboxBytesTotal

namespace Limited

theorem insert (h : Limited config r) (ha : r'.actors = r.actors.insert key slot')
    (hslot : Within config slot')
    (hm : r'.totalMailboxMessages ≤ config.maxMailboxMessagesTotal)
    (hb : r'.totalMailboxBytes ≤ config.maxMailboxBytesTotal) : Limited config r' := by
  refine ⟨?_, hm, hb⟩
  intro key₁ slot₁ hl₁
  rw [ha, lookup_insert_ite] at hl₁
  split at hl₁
  · cases hl₁
    exact hslot
  · exact h.slots key₁ slot₁ hl₁

/-- A slot changes and keeps its mailbox. -/
theorem same (h : Limited config r) (hl : r.actors.lookup key = some slot)
    (ha : r'.actors = r.actors.insert key slot') (hbox : slot'.mailbox = slot.mailbox)
    (hm : r'.totalMailboxMessages = r.totalMailboxMessages)
    (hb : r'.totalMailboxBytes = r.totalMailboxBytes) : Limited config r' :=
  h.insert ha ((h.slots key slot hl).of_mailbox hbox) (hm ▸ h.messages) (hb ▸ h.bytes)

theorem remove (h : Limited config r) : Limited config (r.remove key slot) := by
  refine ⟨?_, (Nat.sub_le _ _).trans h.messages, (Nat.sub_le _ _).trans h.bytes⟩
  intro key₁ slot₁ hl₁
  simp only [Roster.remove, lookup_erase_ite] at hl₁
  split at hl₁
  · cases hl₁
  · exact h.slots key₁ slot₁ hl₁

theorem move (h : Limited config r) (hone : 0 < config.maxMailboxMessagesPerActor)
    (hm : Move config p r r') : Limited config r' := by
  cases hm with
  | count | skip => exact ⟨h.slots, h.messages, h.bytes⟩
  | receive envelope hl _ _ ha =>
    exact h.insert rfl (ha.within rfl) ha.totalMessages ha.totalBytes
  | receiveIdle envelope hl _ ha =>
    exact h.insert rfl (ha.within rfl) ha.totalMessages ha.totalBytes
  | construct actor envelope _ _ _ ha =>
    exact h.insert rfl (ha.within hone rfl) ha.totalMessages ha.totalBytes
  | load deadline envelope _ _ _ ha =>
    exact h.insert rfl (ha.within hone rfl) ha.totalMessages ha.totalBytes
  | @dispatch handle slot inst envelope mailbox _ hf _ hbox =>
    have hslot := h.slots _ _ (find_eq_some.1 hf).1
    refine h.insert rfl ⟨?_, ?_⟩ ((Nat.sub_le _ _).trans h.messages)
      ((Nat.sub_le _ _).trans h.bytes)
    · have := hslot.messages
      rw [hbox, List.length_cons] at this
      exact (Nat.le_succ _).trans this
    · have := hslot.bytes
      rw [ActorSlot.mailboxBytes, hbox, List.map_cons, List.sum_cons] at this
      exact (Nat.le_add_left _ _).trans this
  | arm armed hl => exact h.same hl rfl rfl rfl rfl
  | wake hl => exact h.same hl rfl rfl rfl rfl
  | complete hl => exact h.same hl rfl rfl rfl rfl
  | activate inst hl => exact h.same hl rfl rfl rfl rfl
  | activateQueued inst hl => exact h.same hl rfl rfl rfl rfl
  | start _ hf => exact h.same (find_eq_some.1 hf).1 rfl rfl rfl rfl
  | resume inst _ hf => exact h.same (find_eq_some.1 hf).1 rfl rfl rfl rfl
  | turn inst hf => exact h.same (find_eq_some.1 hf).1 rfl rfl rfl rfl
  | stop hf => exact h.same (find_eq_some.1 hf).1 rfl rfl rfl rfl
  | rest hf => exact h.same (find_eq_some.1 hf).1 rfl rfl rfl rfl
  | requeue hf => exact h.same (find_eq_some.1 hf).1 rfl rfl rfl rfl
  | suspend hf => exact h.same (find_eq_some.1 hf).1 rfl rfl rfl rfl
  | refuse hf => exact h.same (find_eq_some.1 hf).1 rfl rfl rfl rfl
  | failLoad hl =>
    refine Limited.remove ?_
    exact ⟨h.slots, h.messages, h.bytes⟩
  | remove hf => exact h.remove

theorem lasting (hone : 0 < config.maxMailboxMessagesPerActor) :
    Lasting config p (Limited (A := A) config) where
  initial := ⟨fun _ _ hl => by simp [Roster.initial] at hl, Nat.zero_le _, Nat.zero_le _⟩
  enter r a h := by cases a <;> exact ⟨h.slots, h.messages, h.bytes⟩
  move _ _ h hm := h.move hone hm
  release _ _ h hr := by
    obtain ⟨-⟩ := hr
    exact h.remove
  clear _ h := ⟨h.slots, h.messages, h.bytes⟩

end Limited

end Roster

/-! ## Runs -/

open Roster WorkerState

variable {A : ActorModel} {config : WorkerActorConfig} {dbConfig : Option DbClientConfig}
  {w : WorkerState A}

/-- **The accounts of a worker.** In every run of a worker with a valid configuration: the
totals are those of the mailboxes in the table and within the limits, as is every mailbox,
the count of loads is that of the Loading slots, and what an activation accepted is, in this
order, what was dispatched to it, what was discarded with its slot and what is in its
mailbox. Nothing has been discarded while the slot is in the table. -/
theorem mailbox_accounts (hv : config.isValid = true)
    (h : (workerMachine A config dbConfig).Reach (fun _ _ => True) w) :
    (w.totalMailboxMessages = total (fun slot => slot.mailbox.length) w.actors ∧
      w.totalMailboxBytes = total ActorSlot.mailboxBytes w.actors) ∧
    (w.totalMailboxMessages ≤ config.maxMailboxMessagesTotal ∧
      w.totalMailboxBytes ≤ config.maxMailboxBytesTotal) ∧
    (∀ key slot, w.actors.lookup key = some slot →
      slot.mailbox.length ≤ config.maxMailboxMessagesPerActor ∧
      slot.mailboxBytes ≤ config.maxMailboxBytesPerActor) ∧
    w.loadingCount = total (fun slot => if slot.state = .loading then 1 else 0) w.actors ∧
    ∀ target,
      (booksOf target w.history).accepted =
        (booksOf target w.history).dispatched ++ (booksOf target w.history).discarded ++
          w.backlog target ∧
      ((w.find target).isSome = true → (booksOf target w.history).discarded = []) := by
  have hone : 0 < config.maxMailboxMessagesPerActor := by
    simp only [WorkerActorConfig.isValid, Bool.and_eq_true, decide_eq_true_eq] at hv
    omega
  have hall (w : WorkerState A) (a : WorkerAction A) (_ : True) : Permit.all.Allows config w a :=
    Permit.all_allows a
  have hcounted := (Counted.lasting.reach hall h).2
  have hlimited := (Limited.lasting hone).reach hall h
  have hbooks := Balanced.lasting.reach hall h
  refine ⟨⟨hcounted.messages, hcounted.bytes⟩, ⟨hlimited.messages, hlimited.bytes⟩, ?_,
    hcounted.loading, ?_⟩
  · intro key slot hl
    have hslot := hlimited.slots key slot hl
    exact ⟨hslot.messages, hslot.bytes⟩
  · intro target
    refine ⟨hbooks.balance target, ?_⟩
    intro hsome
    obtain ⟨slot, hf⟩ := Option.isSome_iff_exists.1 hsome
    exact hbooks.live target slot hf

/-- A mailbox for two messages: the first of three is dispatched, the other two fill it
again, and a fourth is refused. -/
theorem mailbox_accounts_full :
    ∃ w, (workerMachine askingActor { maxMailboxMessagesPerActor := 2 } none).Reach
        (fun _ _ => True) w ∧
      (w.totalMailboxMessages = 2 ∧
        total (fun slot => slot.mailbox.length) w.actors = 2) ∧
      ∀ key slot, w.actors.lookup key = some slot → slot.mailbox.length ≤ 2 := by
  let envelope (charge : Nat) : ActorEnvelope Unit := ⟨(), charge⟩
  obtain ⟨w, hw, ht⟩ := (workerMachine askingActor { maxMailboxMessagesPerActor := 2 }
      none).exists_reach_of_replay
    (fun _ _ => True) (s := { timers := { maxApplicationTimerBytes := 64 * 1024 * 1024 } }) rfl
    [.tell ⟨.player, 1⟩ (envelope 1) 0, .tell ⟨.player, 1⟩ (envelope 2) 0, .expireTimers 0,
      .beginDb, .runReadyActors 0, .runActor 0 [0], .endIteration,
      .tell ⟨.player, 1⟩ (envelope 3) 0, .tell ⟨.player, 1⟩ (envelope 4) 0]
    (fun w => w.totalMailboxMessages = 2) (by decide)
  have hmessages : w.totalMailboxMessages = 2 := of_decide_eq_true ht
  obtain ⟨⟨htotal, -⟩, -, hslots, -⟩ := mailbox_accounts (by decide) hw
  exact ⟨w, hw, ⟨hmessages, htotal.symm.trans hmessages⟩,
    fun key slot hl => (hslots key slot hl).1⟩

end Snf.Worker
