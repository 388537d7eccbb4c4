import Snf.Worker.ReadyQueue

/-! # What becomes of an accepted message

The history of a worker is read as books, one for each activation: the messages that it
accepted, those that were dispatched to it, and those that were discarded with its
mailbox. In every run the books of an activation balance: what it accepted is what was
dispatched, then what was discarded, then what is in its mailbox.
-/

namespace Snf.Worker

open Snf.Lib

/-! ## Books -/

structure Books (μ : Type) where
  accepted : List (ActorEnvelope μ) := []
  dispatched : List (ActorEnvelope μ) := []
  discarded : List (ActorEnvelope μ) := []

namespace WorkerEvent

variable {μ : Type}

/-- The activation whose books the event belongs to. -/
def about : WorkerEvent μ → Option ActivationRef
  | .accepted target _ => some target
  | .dispatched target _ => some target
  | .discarded target _ => some target
  | .completed _ _ => none
  | .resumed _ _ => none
  | .loadFailed _ => none

def enter (event : WorkerEvent μ) (books : Books μ) : Books μ :=
  match event with
  | .accepted _ message => { books with accepted := books.accepted ++ [message] }
  | .dispatched _ message => { books with dispatched := books.dispatched ++ [message] }
  | .discarded _ messages => { books with discarded := books.discarded ++ messages }
  | _ => books

end WorkerEvent

/-- The books of an activation after a history, whose latest event comes first. -/
def booksOf {μ : Type} (target : ActivationRef) : List (WorkerEvent μ) → Books μ
  | [] => {}
  | event :: history =>
    if event.about = some target then event.enter (booksOf target history)
    else booksOf target history

section Books

variable {μ : Type} {history : List (WorkerEvent μ)} {event : WorkerEvent μ}
  {target : ActivationRef}

theorem booksOf_cons_self (h : event.about = some target) :
    booksOf target (event :: history) = event.enter (booksOf target history) :=
  if_pos h

theorem booksOf_cons_ne (h : event.about ≠ some target) :
    booksOf target (event :: history) = booksOf target history :=
  if_neg h

end Books

namespace Roster

variable {A : ActorModel} {config : WorkerActorConfig} {p : Permit} {r r' : Roster A}
  {target : ActivationRef} {key : ActorKey} {slot slot' : ActorSlot A}

def mailbox (r : Roster A) (target : ActivationRef) : List (ActorEnvelope A.Message) :=
  match r.find target with
  | some slot => slot.mailbox
  | none => []

theorem mailbox_of_find (h : r.find target = some slot) : r.mailbox target = slot.mailbox := by
  simp only [mailbox, h]

theorem mailbox_of_none (h : r.find target = none) : r.mailbox target = [] := by
  simp only [mailbox, h]

theorem mailbox_congr (h : r'.find target = r.find target) :
    r'.mailbox target = r.mailbox target := by
  simp only [mailbox, h]

/-- A slot is set whose key had no slot of another incarnation. -/
theorem find_insert (ha : r'.actors = r.actors.insert key slot')
    (hk : ∀ slot, r.actors.lookup key = some slot → slot.incarnation = slot'.incarnation)
    (target : ActivationRef) :
    r'.find target = if target = ⟨key, slot'.incarnation⟩ then some slot' else r.find target := by
  obtain ⟨actor, incarnation⟩ := target
  simp only [find, ha, lookup_insert_ite, ActivationRef.mk.injEq]
  by_cases hkey : actor = key
  · subst hkey
    by_cases hinc : incarnation = slot'.incarnation
    · simp [hinc]
    · have hold : (r.actors.lookup actor).filter
          (fun slot => slot.incarnation = incarnation) = none := by
        rw [Option.filter_eq_none_iff]
        intro slot hl he
        exact hinc ((of_decide_eq_true he).symm.trans (hk slot hl))
      simp [hinc, hold, Ne.symm hinc]
  · simp [hkey]

theorem find_erase (ha : r'.actors = r.actors.erase key) (hl : r.actors.lookup key = some slot)
    (target : ActivationRef) :
    r'.find target = if target = ⟨key, slot.incarnation⟩ then none else r.find target := by
  obtain ⟨actor, incarnation⟩ := target
  simp only [find, ha, lookup_erase_ite, ActivationRef.mk.injEq]
  by_cases hkey : actor = key
  · subst hkey
    by_cases hinc : incarnation = slot.incarnation
    · simp [hinc]
    · simp [hinc, hl, Option.filter, Ne.symm hinc]
  · simp [hkey]

/-! ## The books balance -/

structure Balanced (r : Roster A) : Prop where
  orderly : Orderly r
  /-- An incarnation that has not been handed out has no books. -/
  fresh : ∀ target, r.nextIncarnation ≤ target.incarnation → booksOf target r.history = {}
  /-- Nothing was discarded from the mailbox of a slot. -/
  live : ∀ target slot, r.find target = some slot → (booksOf target r.history).discarded = []
  balance : ∀ target, (booksOf target r.history).accepted =
    (booksOf target r.history).dispatched ++ (booksOf target r.history).discarded ++
      r.mailbox target

namespace Balanced

/-- Neither the books nor a mailbox change. -/
theorem keep (h : Balanced r) (ho : Orderly r')
    (hb : ∀ target, booksOf target r'.history = booksOf target r.history)
    (hi : r.nextIncarnation ≤ r'.nextIncarnation)
    (hf : ∀ target slot', r'.find target = some slot' → ∃ slot, r.find target = some slot)
    (hm : ∀ target, r'.mailbox target = r.mailbox target) : Balanced r' where
  orderly := ho
  fresh target ht := (hb target).trans (h.fresh target (hi.trans ht))
  live target slot' hf' := by
    obtain ⟨slot, hslot⟩ := hf target slot' hf'
    rw [hb]
    exact h.live target slot hslot
  balance target := by
    rw [hb, hm]
    exact h.balance target

/-- A slot changes and keeps its identity and its mailbox. -/
theorem update (h : Balanced r) (ho : Orderly r')
    (hb : ∀ target, booksOf target r'.history = booksOf target r.history)
    (hi : r.nextIncarnation ≤ r'.nextIncarnation) (hl : r.actors.lookup key = some slot)
    (ha : r'.actors = r.actors.insert key slot') (hinc : slot'.incarnation = slot.incarnation)
    (hm : slot'.mailbox = slot.mailbox) : Balanced r' := by
  have hsame (s : ActorSlot A) (hs : r.actors.lookup key = some s) :
      s.incarnation = slot'.incarnation := by
    cases hl.symm.trans hs
    exact hinc.symm
  have hfind := find_insert ha hsame
  have hold : r.find ⟨key, slot'.incarnation⟩ = some slot := find_eq_some.2 ⟨hl, hinc.symm⟩
  refine h.keep ho hb hi (fun target s hs => ?_) fun target => ?_
  · rw [hfind] at hs
    split at hs
    · next ht => exact ⟨slot, ht ▸ hold⟩
    · exact ⟨s, hs⟩
  · by_cases ht : target = ⟨key, slot'.incarnation⟩
    · subst ht
      rw [mailbox_of_find hold, mailbox_of_find ((hfind _).trans (if_pos rfl)), hm]
    · exact mailbox_congr ((hfind target).trans (if_neg ht))

/-- One event enters the books of `target`; other activations are left alone. -/
theorem enter (h : Balanced r) (ho : Orderly r') {event : WorkerEvent A.Message}
    (hh : r'.history = event :: r.history) (he : event.about = some target)
    (hi : r.nextIncarnation ≤ r'.nextIncarnation) (hnew : target.incarnation < r'.nextIncarnation)
    (hother : ∀ t, t ≠ target → r'.find t = r.find t)
    (hlive : ∀ slot, r'.find target = some slot →
      (event.enter (booksOf target r.history)).discarded = [])
    (hbal : (event.enter (booksOf target r.history)).accepted =
      (event.enter (booksOf target r.history)).dispatched ++
        (event.enter (booksOf target r.history)).discarded ++ r'.mailbox target) :
    Balanced r' := by
  have hself : booksOf target r'.history = event.enter (booksOf target r.history) := by
    rw [hh]
    exact booksOf_cons_self he
  have hrest (t : ActivationRef) (ht : t ≠ target) :
      booksOf t r'.history = booksOf t r.history := by
    rw [hh]
    refine booksOf_cons_ne fun hc => ht ?_
    exact Option.some.inj (hc.symm.trans he)
  refine ⟨ho, fun t ht => ?_, fun t slot hf => ?_, fun t => ?_⟩
  · have hne : t ≠ target := by
      rintro rfl
      exact absurd hnew (Nat.not_lt.2 ht)
    exact (hrest t hne).trans (h.fresh t (hi.trans ht))
  · by_cases ht : t = target
    · subst ht
      rw [hself]
      exact hlive slot hf
    · rw [hrest t ht]
      exact h.live t slot (hother t ht ▸ hf)
  · by_cases ht : t = target
    · subst ht
      rw [hself]
      exact hbal
    · rw [hrest t ht, mailbox_congr (hother t ht)]
      exact h.balance t

/-- A message is appended to the mailbox of a slot, which may be new. -/
theorem accept (h : Balanced r) (ho : Orderly r') {envelope : ActorEnvelope A.Message}
    (ha : r'.actors = r.actors.insert key slot')
    (hh : r'.history = .accepted ⟨key, slot'.incarnation⟩ envelope :: r.history)
    (hi : r.nextIncarnation ≤ r'.nextIncarnation)
    (hk : ∀ slot, r.actors.lookup key = some slot → slot.incarnation = slot'.incarnation)
    (hnone : (booksOf ⟨key, slot'.incarnation⟩ r.history).discarded = [])
    (hm : slot'.mailbox = r.mailbox ⟨key, slot'.incarnation⟩ ++ [envelope]) : Balanced r' := by
  have hfind := find_insert ha hk
  have hself : r'.find ⟨key, slot'.incarnation⟩ = some slot' := (hfind _).trans (if_pos rfl)
  refine h.enter ho hh rfl hi (ho.find hself).fresh
    (fun t ht => (hfind t).trans (if_neg ht)) (fun _ _ => hnone) ?_
  have hbal := h.balance ⟨key, slot'.incarnation⟩
  simp only [WorkerEvent.enter, mailbox_of_find hself, hm, hbal, hnone, List.append_assoc,
    List.nil_append]

/-- The first message of a mailbox is dispatched. -/
theorem dispatch (h : Balanced r) (ho : Orderly r') {envelope : ActorEnvelope A.Message}
    (hf : r.find target = some slot) (hm : slot.mailbox = envelope :: slot'.mailbox)
    (hh : r'.history = .dispatched target envelope :: r.history)
    (hi : r'.nextIncarnation = r.nextIncarnation)
    (ha : r'.actors = r.actors.insert target.actor slot')
    (hinc : slot'.incarnation = slot.incarnation) : Balanced r' := by
  obtain ⟨hl, htarget⟩ := find_eq_some.1 hf
  have href : (⟨target.actor, slot'.incarnation⟩ : ActivationRef) = target := by
    rw [hinc, htarget]
  have hsame (s : ActorSlot A) (hs : r.actors.lookup target.actor = some s) :
      s.incarnation = slot'.incarnation := by
    cases hl.symm.trans hs
    exact hinc.symm
  have hfind := find_insert ha hsame
  rw [href] at hfind
  have hself : r'.find target = some slot' := (hfind _).trans (if_pos rfl)
  have hnone := h.live target slot hf
  refine h.enter ho hh rfl hi.symm.le ?_ (fun t ht => (hfind t).trans (if_neg ht))
    (fun _ _ => hnone) ?_
  · rw [← htarget, ← hinc]
    exact (ho.find hself).fresh
  · have hbal := h.balance target
    simp only [mailbox_of_find hf, hm] at hbal
    simp only [WorkerEvent.enter, mailbox_of_find hself, hbal, hnone, List.append_nil,
      List.append_assoc, List.cons_append, List.nil_append]

theorem remove (h : Balanced r) (hl : r.actors.lookup key = some slot) :
    Balanced (r.remove key slot) := by
  have ho : Orderly (r.remove key slot) := h.orderly.erase rfl rfl rfl
  have hactors : (r.remove key slot).actors = r.actors.erase key := rfl
  have hfind := find_erase hactors hl
  have hgone : (r.remove key slot).find ⟨key, slot.incarnation⟩ = none :=
    (hfind _).trans (if_pos rfl)
  have hslot : r.find ⟨key, slot.incarnation⟩ = some slot := find_eq_some.2 ⟨hl, rfl⟩
  refine h.enter ho rfl rfl le_rfl (h.orderly.proper _ _ hl).fresh
    (fun t ht => (hfind t).trans (if_neg ht)) (fun s hs => ?_) ?_
  · rw [hgone] at hs
    cases hs
  · have hbal := h.balance ⟨key, slot.incarnation⟩
    rw [mailbox_of_find hslot] at hbal
    simp only [WorkerEvent.enter, mailbox_of_none hgone, hbal, List.append_nil, List.append_assoc]

/-- An event that belongs to no books. -/
theorem record (h : Balanced r) (event : WorkerEvent A.Message) (he : event.about = none) :
    Balanced (r.record event) := by
  refine h.keep (h.orderly.keep rfl le_rfl le_rfl) (fun t => booksOf_cons_ne ?_) le_rfl
    (fun _ slot hs => ⟨slot, hs⟩) fun _ => rfl
  rw [he]
  nofun

theorem move (h : Balanced r) (hm : Move config p r r') : Balanced r' := by
  have ho := h.orderly.move hm
  -- what a new activation finds in its books
  have hfresh (key : ActorKey) : (booksOf ⟨key, r.nextIncarnation⟩ r.history).discarded = [] ∧
      (r.actors.lookup key = none → r.mailbox ⟨key, r.nextIncarnation⟩ = []) := by
    refine ⟨by rw [h.fresh _ le_rfl], fun hl => mailbox_of_none ?_⟩
    simp [find, hl]
  cases hm with
  | count i o t hi =>
    exact h.keep ho (fun _ => rfl) hi (fun _ slot hs => ⟨slot, hs⟩) fun _ => rfl
  | skip =>
    exact h.keep ho (fun _ => rfl) le_rfl (fun _ slot hs => ⟨slot, hs⟩) fun _ => rfl
  | @receive key slot envelope hl =>
    have hslot : r.find ⟨key, slot.incarnation⟩ = some slot := find_eq_some.2 ⟨hl, rfl⟩
    refine h.accept ho rfl rfl le_rfl ?_ (h.live _ slot hslot) ?_
    · intro s hs
      cases hl.symm.trans hs
      rfl
    · exact congrArg (· ++ [envelope]) (mailbox_of_find hslot).symm
  | @receiveIdle key slot envelope hl =>
    have hslot : r.find ⟨key, slot.incarnation⟩ = some slot := find_eq_some.2 ⟨hl, rfl⟩
    refine h.accept ho rfl rfl le_rfl ?_ (h.live _ slot hslot) ?_
    · intro s hs
      cases hl.symm.trans hs
      rfl
    · exact congrArg (· ++ [envelope]) (mailbox_of_find hslot).symm
  | @construct key actor envelope _ hl =>
    refine h.accept ho rfl rfl (Nat.le_succ _) ?_ (hfresh key).1 ?_
    · intro s hs
      cases hl.symm.trans hs
    · exact congrArg (· ++ [envelope]) ((hfresh key).2 hl).symm
  | @load key deadline envelope _ hl =>
    refine h.accept ho rfl rfl (Nat.le_succ _) ?_ (hfresh key).1 ?_
    · intro s hs
      cases hl.symm.trans hs
    · exact congrArg (· ++ [envelope]) ((hfresh key).2 hl).symm
  | dispatch inst _ hf _ hmail => exact h.dispatch ho hf hmail rfl rfl rfl rfl
  | arm armed hl => exact h.update ho (fun _ => rfl) le_rfl hl rfl rfl rfl
  | wake hl => exact h.update ho (fun _ => rfl) le_rfl hl rfl rfl rfl
  | start _ hf => exact h.update ho (fun _ => rfl) le_rfl (find_eq_some.1 hf).1 rfl rfl rfl
  | resume inst _ hf =>
    exact (h.record (.resumed _ _) rfl).update ho (fun _ => rfl) le_rfl (find_eq_some.1 hf).1 rfl
      rfl rfl
  | turn inst hf => exact h.update ho (fun _ => rfl) le_rfl (find_eq_some.1 hf).1 rfl rfl rfl
  | stop hf => exact h.update ho (fun _ => rfl) le_rfl (find_eq_some.1 hf).1 rfl rfl rfl
  | rest hf => exact h.update ho (fun _ => rfl) le_rfl (find_eq_some.1 hf).1 rfl rfl rfl
  | requeue hf => exact h.update ho (fun _ => rfl) le_rfl (find_eq_some.1 hf).1 rfl rfl rfl
  | suspend hf => exact h.update ho (fun _ => rfl) le_rfl (find_eq_some.1 hf).1 rfl rfl rfl
  | refuse hf =>
    exact (h.record (.completed _ _) rfl).update ho (fun _ => rfl) le_rfl (find_eq_some.1 hf).1
      rfl rfl rfl
  | complete hl =>
    exact (h.record (.completed _ _) rfl).update ho (fun _ => rfl) le_rfl hl rfl rfl rfl
  | activate inst hl =>
    exact (h.record (.completed _ _) rfl).update ho (fun _ => rfl) le_rfl hl rfl rfl rfl
  | activateQueued inst hl =>
    exact (h.record (.completed _ _) rfl).update ho (fun _ => rfl) le_rfl hl rfl rfl rfl
  | @failLoad key slot load hl =>
    have hrec := (h.record (.completed load.key r.nextTurn) rfl).record
      (.loadFailed ⟨key, slot.incarnation⟩) rfl
    exact hrec.remove hl
  | remove hf => exact h.remove (find_eq_some.1 hf).1

theorem initial : Balanced (.initial : Roster A) where
  orderly := .initial
  fresh _ _ := rfl
  live _ _ _ := rfl
  balance target := by
    have hnone : (Roster.initial : Roster A).mailbox target = [] :=
      mailbox_of_none (by simp [find, Roster.initial])
    rw [hnone]
    rfl

/-- **Balance.** The books balance in every run. -/
theorem lasting : Lasting config p (Balanced (A := A)) where
  initial := initial
  enter r a h := by
    have ho : Orderly (r.enter a) := h.orderly.enter a
    cases a <;> exact ⟨ho, h.fresh, h.live, h.balance⟩
  move _ _ h hm := h.move hm
  release _ _ h hr := by
    obtain ⟨hl⟩ := hr
    exact h.remove hl
  clear r h := ⟨h.orderly.keep rfl le_rfl le_rfl, h.fresh, h.live, h.balance⟩

end Balanced

end Roster

/-! ## Runs -/

open Roster WorkerState

variable {A : ActorModel} {config : WorkerActorConfig} {dbConfig : Option DbClientConfig}
  {w w' : WorkerState A}

end Snf.Worker
