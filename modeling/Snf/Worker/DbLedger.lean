import Snf.Worker.DbClient
import Snf.Lib.Machine

/-! # Every accepted request is completed once

A client is used through its public calls, in any order and with any answers of the
driver. The balance of the client says where each accepted request is: completed, in
flight on a slot, or queued. A call moves requests between these places and loses or
repeats none; the queue is first in, first out, and no slot is free while it holds
something.
-/

namespace Snf.Worker

open Snf.Lib

/-- A request and the await it belongs to. -/
abbrev DbEntry := AwaitKey × DbRequest

def InFlight.entry (f : InFlight) : DbEntry := (f.key, f.request)

def QueuedOperation.entry (q : QueuedOperation) : DbEntry := (q.key, q.request)

def DbOutcome.entry (o : DbOutcome) : DbEntry := (o.key, o.request)

@[simp] theorem QueuedOperation.entry_outcome (q : QueuedOperation) (failure : DbFailure) :
    (q.outcome failure).entry = q.entry := rfl

/-! ## One slot -/

namespace DbSlot

variable {config : DbClientConfig} {slot : DbSlot} {out : DbSlot × List DbOutcome}
  {event : DriverEvent} {clock : TimePoint} {f : InFlight} {entry : DbEntry}

def entries (slot : DbSlot) : List DbEntry := slot.inFlight.toList.map (·.entry)

/-- The operation of the slot is still there or is what has ended. -/
def Settles (entries : List DbEntry) (out : DbSlot × List DbOutcome) : Prop :=
  entries = out.2.map (·.entry) ++ out.1.entries

theorem settles_poisonSlot {failure : DbFailure} :
    Settles slot.entries (poisonSlot slot failure clock) := by
  unfold Settles poisonSlot entries
  cases slot.inFlight <;> rfl

theorem settles_failOperation {kind : DbFailureKind} {message : String}
    (h : slot.inFlight = some f) (he : f.entry = entry) :
    Settles [entry] (failOperation slot kind message clock) := by
  have hpoison : Settles slot.entries (failOperation slot kind message clock) :=
    settles_poisonSlot
  simpa [entries, h, he] using hpoison

theorem settles_advanceStage (he : f.entry = entry) : Settles [entry] (advanceStage slot f) := by
  subst he
  unfold advanceStage
  cases f.stage with
  | playerRow =>
    show Settles _ (if f.result.found = true then _ else _)
    split <;> rfl
  | _ => rfl

theorem settles_onSaveStatementFailed (he : f.entry = entry) :
    Settles [entry] (onSaveStatementFailed slot f clock) := by
  subst he
  unfold onSaveStatementFailed
  split
  · rfl
  · split <;> rfl

theorem settles_stepQuerying (h : stepQuerying slot f event clock = some out) :
    Settles [f.entry] out := by
  unfold stepQuerying at h
  cases event with
  | error text =>
    simp only at h
    split at h <;> obtain rfl := Option.some.inj h
    · exact settles_onSaveStatementFailed rfl
    · exact settles_failOperation rfl rfl
  | done =>
    obtain rfl := Option.some.inj h
    exact settles_advanceStage rfl
  | noResultSet text =>
    obtain rfl := Option.some.inj h
    exact settles_failOperation rfl rfl
  | notReady | resultSet =>
    obtain rfl := Option.some.inj h
    rfl
  | row | endOfRows => cases h

/-- A row that is taken in changes only the result. -/
theorem eq_of_consumeRow {columns : List DbColumn} {g : InFlight}
    (h : consumeRow f columns = .ok (some g)) : ∃ result, g = { f with result := result } := by
  unfold consumeRow at h
  split at h
  · split at h
    · split at h
      · split at h <;> cases h
        exact ⟨_, rfl⟩
      · cases h
    · cases h
  · split at h
    · cases h
    · split at h
      · cases h
      · split at h <;> cases h
        exact ⟨_, rfl⟩

theorem settles_stepFetching (hf : slot.inFlight = some f)
    (h : stepFetching config slot f event clock = some out) :
    Settles [f.entry] out := by
  unfold stepFetching at h
  cases event with
  | row columns bytes =>
    simp only at h
    split at h
    · obtain rfl := Option.some.inj h
      exact settles_failOperation rfl rfl
    · split at h
      · obtain rfl := Option.some.inj h
        exact settles_failOperation rfl rfl
      · split at h
        · cases h
        · obtain rfl := Option.some.inj h
          exact settles_failOperation rfl rfl
        · next g hg =>
          obtain rfl := Option.some.inj h
          obtain ⟨result, rfl⟩ := eq_of_consumeRow hg
          rfl
  | error text =>
    obtain rfl := Option.some.inj h
    exact settles_failOperation hf rfl
  | notReady | endOfRows =>
    obtain rfl := Option.some.inj h
    simp [Settles, yieldSlot, entries, hf]
  | done | resultSet | noResultSet => cases h

/-- **One driver step.** It ends the operation of the slot or leaves it in flight. -/
theorem settles_step (h : slot.step config event clock = some out) :
    Settles slot.entries out := by
  unfold step at h
  split at h
  · obtain rfl := Option.some.inj h
    rfl
  · split at h <;> first | (obtain rfl := Option.some.inj h; rfl) | cases h
  · next f _ hf =>
    obtain rfl := Option.some.inj h
    simp [Settles, entries, hf, beginStageQuery]
  · obtain rfl := Option.some.inj h
    rfl
  · next f _ hf =>
    simpa [entries, hf] using settles_stepQuerying h
  · next f _ hf =>
    simpa [entries, hf] using settles_stepFetching hf h
  · next f _ hf =>
    split at h
    · obtain rfl := Option.some.inj h
      rfl
    · obtain rfl := Option.some.inj h
      exact settles_poisonSlot
    · obtain rfl := Option.some.inj h
      have hdone : Settles [f.entry] (statementDone slot f) := settles_advanceStage rfl
      simpa [entries, hf] using hdone
    · cases h
  · cases h

end DbSlot

/-! ## The slots -/

namespace DbClient

variable {db db' : DbClient} {slots slots' : List DbSlot} {queue queue' : List QueuedOperation}

def entries (slots : List DbSlot) : List DbEntry := slots.flatMap (·.entries)

@[simp] theorem entries_cons (slot : DbSlot) (slots : List DbSlot) :
    entries (slot :: slots) = slot.entries ++ entries slots := rfl

/-- No slot is free. -/
def Busy (slots : List DbSlot) : Prop := ∀ slot ∈ slots, slot.isFree = false

theorem entries_eq_nil (h : ∀ slot ∈ slots, slot.inFlight = none) : entries slots = [] :=
  List.flatMap_eq_nil_iff.2 fun slot hs => by simp [DbSlot.entries, h slot hs]

theorem entries_of_isFree {slot : DbSlot} (h : slot.isFree = true) : slot.entries = [] := by
  unfold DbSlot.isFree at h
  simp only [Bool.and_eq_true, Option.isNone_iff_eq_none] at h
  simp [DbSlot.entries, h.2]

@[simp] theorem entries_assign (slot : DbSlot) (key : AwaitKey) (request : DbRequest)
    (deadline : TimePoint) : (assign slot key request deadline).entries = [(key, request)] := rfl

/-- A request goes to a free slot, or there is none. -/
theorem assignFirst_cases (slots : List DbSlot) (key : AwaitKey) (request : DbRequest)
    (deadline : TimePoint) :
    (∃ slots', assignFirst key request deadline slots = some slots' ∧ ¬ Busy slots ∧
      (entries slots').Perm ((key, request) :: entries slots)) ∨
    (assignFirst key request deadline slots = none ∧ Busy slots) := by
  induction slots with
  | nil => exact .inr ⟨rfl, by simp [Busy]⟩
  | cons slot rest ih =>
    unfold assignFirst
    split
    · next hfree =>
      refine .inl ⟨_, rfl, fun hbusy => ?_, ?_⟩
      · rw [hbusy slot List.mem_cons_self] at hfree
        cases hfree
      · simp [entries_of_isFree hfree]
    · next hfree =>
      have hslot : slot.isFree = false := by simpa using hfree
      rcases ih with ⟨slots', heq, hbusy, hperm⟩ | ⟨heq, hbusy⟩
      · refine .inl ⟨slot :: slots', by rw [heq]; rfl, fun hall => hbusy fun s hs => ?_, ?_⟩
        · exact hall s (List.mem_cons_of_mem _ hs)
        · exact (hperm.append_left slot.entries).trans List.perm_middle
      · refine .inr ⟨by rw [heq]; rfl, ?_⟩
        intro s hs
        rcases List.mem_cons.1 hs with rfl | hs
        · exact hslot
        · exact hbusy s hs

theorem pumpSlots_nil (slots : List DbSlot) : pumpSlots slots [] = (slots, []) := by
  cases slots <;> rfl

/-- **The queue moves up.** What is taken is a first part of the queue and is now in
flight; if something is left, no slot is free. -/
theorem pumpSlots_spec (slots : List DbSlot) (queue : List QueuedOperation) :
    ∃ taken, queue = taken ++ (pumpSlots slots queue).2 ∧
      (entries (pumpSlots slots queue).1).Perm (taken.map (·.entry) ++ entries slots) ∧
      ((pumpSlots slots queue).2 ≠ [] → Busy (pumpSlots slots queue).1) := by
  induction slots generalizing queue with
  | nil => cases queue <;> exact ⟨[], rfl, .refl _, by simp [pumpSlots, Busy]⟩
  | cons slot rest ih =>
    cases queue with
    | nil => exact ⟨[], rfl, .refl _, by simp [pumpSlots]⟩
    | cons q queue =>
      unfold pumpSlots
      split
      · next hfree =>
        obtain ⟨taken, hqueue, hperm, hbusy⟩ := ih queue
        refine ⟨q :: taken, congrArg (q :: ·) hqueue, ?_, fun hne s hs => ?_⟩
        · simp only [entries_cons, entries_of_isFree hfree, List.nil_append]
          exact hperm.cons q.entry
        · rcases List.mem_cons.1 hs with rfl | hs
          · rfl
          · exact hbusy hne s hs
      · next hfree =>
        obtain ⟨taken, hqueue, hperm, hbusy⟩ := ih (q :: queue)
        refine ⟨taken, hqueue, ?_, fun hne s hs => ?_⟩
        · simp only [entries_cons]
          exact (hperm.append_left _).trans
            (by simpa using (List.perm_append_comm.append_right (entries rest)))
        · rcases List.mem_cons.1 hs with rfl | hs
          · simpa using hfree
          · exact hbusy hne s hs

theorem entries_set {i : Nat} {slot slot' : DbSlot} {outcomes : List DbOutcome}
    (hi : slots[i]? = some slot) (h : DbSlot.Settles slot.entries (slot', outcomes)) :
    (entries slots).Perm (outcomes.map (·.entry) ++ entries (slots.set i slot')) := by
  induction slots generalizing i with
  | nil => simp at hi
  | cons s rest ih =>
    cases i with
    | zero =>
      obtain rfl : s = slot := by simpa using hi
      unfold DbSlot.Settles at h
      simp [h]
    | succ i =>
      have hrest := ih (by simpa using hi)
      simp only [List.set_cons_succ, entries_cons]
      exact (hrest.append_left s.entries).trans
        (by simpa using (List.perm_append_comm.append_right _))

/-! ## The balance of a client -/

/-- Where the accepted requests are, and what the queue costs. -/
structure Accounted (db : DbClient) : Prop where
  requests : db.submitted.Perm
    (db.outcomes.map (·.entry) ++ entries db.slots ++ db.queue.map (·.entry))
  order : (db.started ++ db.queue.map (·.entry)).Sublist db.submitted
  sizes : ∀ q ∈ db.queue, q.footprint = queuedFootprint db.config q.request
  bytes : db.queuedBytes = footprints db.queue
  count : db.queue.length ≤ db.config.maxQueuedOperations
  cap : db.queuedBytes ≤ db.config.maxQueuedBytes

/-- Between two calls no slot is free while something waits. -/
structure Balanced (db : DbClient) : Prop extends Accounted db where
  busy : db.queue ≠ [] → Busy db.slots

theorem footprints_append (queue queue' : List QueuedOperation) :
    footprints (queue ++ queue') = footprints queue + footprints queue' := by
  simp [footprints]

theorem balanced_create (config : DbClientConfig) : (create config).Balanced where
  requests := by
    have hnone : entries (List.replicate config.connectionCount {}) = [] :=
      entries_eq_nil fun slot hs => by rw [List.eq_of_mem_replicate hs]
    simp [create, hnone]
  order := .slnil
  sizes := fun q hq => by cases hq
  busy := fun h => absurd rfl h
  bytes := rfl
  count := Nat.zero_le _
  cap := Nat.zero_le _

/-- A call that touches only connections without an operation. -/
theorem Balanced.reconnect (h : db.Balanced) {next : Nat} (he : entries slots' = entries db.slots)
    (hb : Busy db.slots → Busy slots') :
    Balanced { db with slots := slots', nextGeneration := next } :=
  { h with
    requests := by
      show db.submitted.Perm (_ ++ entries slots' ++ _)
      rw [he]
      exact h.requests
    busy := fun hq => hb (h.busy hq) }

theorem entries_openSlots (p : DbSlot → Bool) (next : Nat) (slots : List DbSlot) :
    entries (openSlots p next slots).1 = entries slots ∧
      (Busy slots → Busy (openSlots p next slots).1) := by
  induction slots generalizing next with
  | nil => exact ⟨rfl, id⟩
  | cons slot rest ih =>
    unfold openSlots
    split
    · obtain ⟨he, hb⟩ := ih (next + 1)
      refine ⟨congrArg (slot.entries ++ ·) he, fun hbusy s hs => ?_⟩
      rcases List.mem_cons.1 hs with rfl | hs
      · rfl
      · exact hb (fun t ht => hbusy t (List.mem_cons_of_mem _ ht)) s hs
    · obtain ⟨he, hb⟩ := ih next
      refine ⟨congrArg (slot.entries ++ ·) he, fun hbusy s hs => ?_⟩
      rcases List.mem_cons.1 hs with rfl | hs
      · exact hbusy _ List.mem_cons_self
      · exact hb (fun t ht => hbusy t (List.mem_cons_of_mem _ ht)) s hs

theorem Balanced.openWhere (h : db.Balanced) (p : DbSlot → Bool) : (db.openWhere p).Balanced :=
  h.reconnect (entries_openSlots p _ db.slots).1 (entries_openSlots p _ db.slots).2

theorem Balanced.onPollEvent (h : db.Balanced) (token : PollToken) :
    (db.onPollEvent token).Balanced := by
  unfold DbClient.onPollEvent
  split
  · exact h
  · -- the event only marks a slot as runnable
    have hmodify (f : DbSlot → DbSlot) (hf : ∀ slot, (f slot).entries = slot.entries ∧
        (f slot).isFree = slot.isFree) (i : Nat) (slots : List DbSlot) :
        entries (slots.modify i f) = entries slots ∧
          (Busy slots → Busy (slots.modify i f)) := by
      induction slots generalizing i with
      | nil => cases i <;> exact ⟨rfl, id⟩
      | cons slot rest ih =>
        cases i with
        | zero =>
          refine ⟨congrArg (· ++ entries rest) (hf slot).1, fun hbusy s hs => ?_⟩
          rcases List.mem_cons.1 hs with rfl | hs
          · exact (hf slot).2.trans (hbusy slot List.mem_cons_self)
          · exact hbusy s (List.mem_cons_of_mem _ hs)
        | succ i =>
          refine ⟨congrArg (slot.entries ++ ·) (ih i).1, fun hbusy s hs => ?_⟩
          rcases List.mem_cons.1 hs with rfl | hs
          · exact hbusy _ List.mem_cons_self
          · exact (ih i).2 (fun t ht => hbusy t (List.mem_cons_of_mem _ ht)) s hs
    have hmark := hmodify (fun slot =>
        if UInt32.ofNat slot.generation ≠ token.generation || slot.state = .closed then slot
        else { slot with runnable := true })
      (fun slot => by split <;> exact ⟨rfl, rfl⟩) token.index db.slots
    exact h.reconnect hmark.1 hmark.2

/-- Operations that have ended move from the slots and the queue to the record of
outcomes. -/
theorem Accounted.complete (h : db.Accounted) {outcomes : List DbOutcome} {bytes : Nat}
    {shuttingDown : Bool}
    (hp : (entries db.slots ++ db.queue.map (·.entry)).Perm
      (outcomes.map (·.entry) ++ (entries slots' ++ queue'.map (·.entry))))
    (hq : queue'.Sublist db.queue) (hb : bytes = footprints queue') (hle : bytes ≤ db.queuedBytes) :
    (DbClient.complete { db with
      slots := slots', queue := queue', queuedBytes := bytes, shuttingDown := shuttingDown }
      outcomes).1.Accounted where
  requests := by
    have hmoved := h.requests
    rw [List.append_assoc] at hmoved
    refine (hmoved.trans (hp.append_left _)).trans ?_
    simp [DbClient.complete, List.append_assoc]
  order := ((hq.map _).append_left db.started).trans h.order
  sizes := fun q hmem => h.sizes q (hq.subset hmem)
  bytes := hb
  count := Nat.le_trans hq.length_le h.count
  cap := Nat.le_trans hle h.cap

theorem Balanced.tryStart (h : db.Balanced) (key : AwaitKey) (request : DbRequest)
    (deadline : TimePoint) : (db.tryStart key request deadline).2.Balanced := by
  unfold DbClient.tryStart
  split
  · exact h
  · split
    · exact h
    · rcases assignFirst_cases db.slots key request deadline with
        ⟨slots', heq, hfree, hperm⟩ | ⟨heq, hbusy⟩
      · -- a slot is free, so nothing waits in the queue
        have hempty : db.queue = [] := by
          by_contra hne
          exact hfree (h.busy hne)
        rw [heq]
        refine { h with requests := ?_, order := ?_, busy := fun hne => absurd hempty hne }
        · have hadd := h.requests.append_right [(key, request)]
          simp only [hempty, List.map_nil, List.append_nil] at hadd ⊢
          refine hadd.trans ?_
          rw [List.append_assoc]
          exact (List.perm_append_comm.trans hperm.symm).append_left _
        · have horder := h.order
          simp only [hempty, List.map_nil, List.append_nil] at horder ⊢
          exact horder.append (.refl _)
      · rw [heq]
        simp only
        split
        · exact h
        · next hroom =>
          simp only [Bool.or_eq_true, decide_eq_true_eq, not_or, Nat.not_le] at hroom
          refine ⟨⟨?_, ?_, ?_, ?_, ?_, ?_⟩, fun _ => hbusy⟩
          · simpa [List.append_assoc, QueuedOperation.entry] using
              h.requests.append_right [(key, request)]
          · simpa [← List.append_assoc, QueuedOperation.entry] using
              h.order.append (.refl [(key, request)])
          · intro q hq
            rcases List.mem_append.1 hq with hq | hq
            · exact h.sizes q hq
            · obtain rfl := List.mem_singleton.1 hq
              rfl
          · show db.queuedBytes + _ = footprints (db.queue ++ [_])
            rw [footprints_append, h.bytes]
            rfl
          · show (db.queue ++ [_]).length ≤ _
            rw [List.length_append]
            exact hroom.1.1
          · show db.queuedBytes + _ ≤ db.config.maxQueuedBytes
            omega

/-- **The queue after a step.** What is taken from the queue starts in its order. -/
theorem Accounted.pumpQueue (h : db.Accounted) : db.pumpQueue.Balanced := by
  obtain ⟨taken, hqueue, hperm, hbusy⟩ := pumpSlots_spec db.slots db.queue
  have htaken : db.queue.take (db.queue.length - (pumpSlots db.slots db.queue).2.length) = taken := by
    generalize (pumpSlots db.slots db.queue).2 = rest at hqueue
    simp [hqueue]
  unfold DbClient.pumpQueue
  simp only [htaken]
  generalize pumpSlots db.slots db.queue = pumped at hqueue hperm hbusy
  obtain ⟨slots', queue'⟩ := pumped
  obtain ⟨hrequests, horder, hsizes, hbytes, hcount, hcap⟩ := h
  have hfoot : footprints db.queue = footprints taken + footprints queue' := by
    rw [hqueue, footprints_append]
  rw [hqueue, List.map_append] at hrequests horder
  have hlength : db.queue.length = taken.length + queue'.length := by
    rw [hqueue, List.length_append]
  refine ⟨⟨hrequests.trans ?_, ?_, fun q hq => hsizes q ?_, ?_, ?_, ?_⟩, hbusy⟩
  · rw [← List.append_assoc]
    refine List.Perm.append_right _ ?_
    rw [List.append_assoc]
    exact (List.perm_append_comm.trans hperm.symm).append_left _
  · rw [← List.append_assoc] at horder
    exact horder
  · rw [hqueue]
    exact List.mem_append_right taken hq
  · show db.queuedBytes - footprints taken = footprints queue'
    omega
  · show queue'.length ≤ db.config.maxQueuedOperations
    omega
  · show db.queuedBytes - footprints taken ≤ db.config.maxQueuedBytes
    omega

theorem Balanced.advance (h : db.Balanced) {i : Nat} {event : DriverEvent} {clock : TimePoint}
    {out : DbClient × List DbCompletion} (ha : db.advance i event clock = some out) :
    out.1.Balanced := by
  unfold DbClient.advance at ha
  split at ha
  · cases ha
  · next slot hslot =>
    split at ha
    · cases ha
    · split at ha
      · cases ha
      · next slot' outcomes hstep =>
        obtain rfl := Option.some.inj ha
        have hset := entries_set hslot (DbSlot.settles_step hstep)
        refine Accounted.pumpQueue (h.toAccounted.complete ?_ (.refl _) h.bytes (Nat.le_refl _))
        rw [← List.append_assoc]
        exact hset.append_right _

/-- What is due leaves the queue, the rest keeps its order. -/
theorem footprints_filter (p : QueuedOperation → Bool) (queue : List QueuedOperation) :
    footprints queue = footprints (queue.filter p) + footprints (queue.filter fun q => !p q) := by
  induction queue with
  | nil => rfl
  | cons q queue ih =>
    have hcons (rest : List QueuedOperation) : footprints (q :: rest) = q.footprint + footprints rest :=
      rfl
    cases hp : p q <;> simp only [List.filter_cons, hp, Bool.not_false, Bool.not_true, if_true,
      Bool.false_eq_true, if_false, hcons, ih] <;> omega

/-- Each slot ends or keeps its operation. -/
theorem entries_map {g : DbSlot → DbSlot × List DbOutcome}
    (hg : ∀ slot : DbSlot, DbSlot.Settles slot.entries (g slot)) (slots : List DbSlot) :
    (entries slots).Perm (((slots.map g).map (·.2)).flatten.map (·.entry) ++
      entries ((slots.map g).map (·.1))) := by
  induction slots with
  | nil => exact .refl _
  | cons slot rest ih =>
    have hslot : slot.entries = _ := hg slot
    simp only [List.map_cons, List.flatten_cons, List.map_append, entries_cons, hslot,
      List.append_assoc]
    refine List.Perm.append_left _ ((ih.append_left _).trans ?_)
    simp only [← List.append_assoc]
    exact List.perm_append_comm.append_right _

theorem settles_expireSlot (now : TimePoint) (slot : DbSlot) :
    DbSlot.Settles slot.entries (expireSlot now slot) := by
  unfold expireSlot
  split
  · rfl
  · split
    · rfl
    · exact DbSlot.settles_poisonSlot

theorem Busy.expire (h : Busy slots) (now : TimePoint) :
    Busy ((slots.map (expireSlot now)).map (·.1)) := by
  intro slot hs
  simp only [List.map_map, List.mem_map, Function.comp_apply] at hs
  obtain ⟨before, hbefore, rfl⟩ := hs
  unfold expireSlot
  split
  · exact h before hbefore
  · split
    · exact h before hbefore
    · rfl

theorem Balanced.expireDeadlines (h : db.Balanced) (now : TimePoint) :
    (db.expireDeadlines now).1.Balanced := by
  have hnot : (fun q : QueuedOperation => decide (q.deadline > now)) =
      fun q => !decide (q.deadline ≤ now) := by
    funext q
    by_cases hq : q.deadline ≤ now <;> simp [hq, Nat.lt_of_not_le]
  have hfoot := footprints_filter (fun q => q.deadline ≤ now) db.queue
  have hsplit := List.filter_append_perm (fun q : QueuedOperation => q.deadline ≤ now) db.queue
  unfold DbClient.expireDeadlines
  simp only [hnot]
  generalize db.queue.filter (fun q => decide (q.deadline ≤ now)) = due at hfoot hsplit
  have hkept : (db.queue.filter fun q => !decide (q.deadline ≤ now)).Sublist db.queue :=
    List.filter_sublist
  generalize (db.queue.filter fun q => !decide (q.deadline ≤ now)) = kept at hfoot hsplit hkept
  have hbytes := h.bytes
  refine ⟨h.toAccounted.complete ?_ hkept (by omega) (by omega), fun hne => ?_⟩
  · -- the operations that are due, and those of the connections that are cut
    have hqueue := (hsplit.map (·.entry)).symm
    have hslots := entries_map (settles_expireSlot now) db.slots
    rw [List.map_append] at hqueue
    refine (hslots.append hqueue).trans ((List.perm_append_comm_assoc _ _ _).trans ?_)
    simp [Function.comp_def]
  · refine Busy.expire (h.busy fun hnil => hne ?_) now
    rw [hnil] at hkept
    exact List.sublist_nil.1 hkept

theorem Balanced.beginShutdown (h : db.Balanced) : db.beginShutdown.1.Balanced := by
  refine ⟨h.toAccounted.complete ?_ (List.nil_sublist _) ?_ ?_, fun hne => absurd rfl hne⟩
  · simpa [Function.comp_def] using List.perm_append_comm
  · rw [h.bytes, Nat.sub_self]
    rfl
  · exact Nat.sub_le _ _

theorem Balanced.forceClose (h : db.Balanced) : db.forceClose.1.Balanced := by
  have hclosed := entries_map (g := fun slot => ({ closeSlot slot with inFlight := none },
      (slot.inFlight.map fun f => f.outcome (failureResultFor f lostAtShutdown)).toList))
    (fun slot => by
      unfold DbSlot.Settles DbSlot.entries
      cases slot.inFlight <;> rfl) db.slots
  simp only [List.map_map, Function.comp_def] at hclosed
  refine ⟨h.toAccounted.complete ?_ (.refl _) h.bytes (Nat.le_refl _), fun _ slot hs => ?_⟩
  · rw [← List.append_assoc]
    exact hclosed.append_right _
  · obtain ⟨before, -, rfl⟩ := List.mem_map.1 hs
    rfl

/-! ## The calls of a client -/

/-- What `shutdown` does between two tests of its deadline. -/
structure ShutdownRound where
  steps : List (Nat × DriverEvent × TimePoint)
  now : TimePoint
  events : List PollToken

/-- The loop of `advance` goes over the runnable slots until its budget is spent. -/
def advanceAll (db : DbClient) :
    List (Nat × DriverEvent × TimePoint) → Option (DbClient × List DbCompletion)
  | [] => some (db, [])
  | (i, event, clock) :: rest => do
    let (db, completions) ← db.advance i event clock
    let (db, others) ← advanceAll db rest
    some (db, completions ++ others)

def shutdownRounds (db : DbClient) : List ShutdownRound → Option (DbClient × List DbCompletion)
  | [] => some (db, [])
  | round :: rest => do
    let (db, completions) ← db.advanceAll round.steps
    let (db, expired) := db.expireDeadlines round.now
    let (db, others) ← shutdownRounds (round.events.foldl onPollEvent db) rest
    some (db, completions ++ expired ++ others)

/-- `shutdown` waits for the operations in flight until its deadline passes. -/
def shutdown (db : DbClient) (rounds : List ShutdownRound) :
    Option (DbClient × List DbCompletion) := do
  let (db, dropped) := db.beginShutdown
  let (db, completions) ← db.shutdownRounds rounds
  let (db, failed) := db.forceClose
  some (db, dropped ++ completions ++ failed)

/-! ## What a call keeps -/

/-- A property of clients that every call keeps. -/
structure Stable (P : DbClient → Prop) : Prop where
  tryStart : ∀ {db} key request deadline, P db → P (db.tryStart key request deadline).2
  advance : ∀ {db i event clock out}, db.advance i event clock = some out → P db → P out.1
  onPollEvent : ∀ {db} token, P db → P (db.onPollEvent token)
  expireDeadlines : ∀ {db} now, P db → P (db.expireDeadlines now).1
  openWhere : ∀ {db p}, (∀ slot : DbSlot, p slot = true → slot.state = .closed) → P db →
    P (db.openWhere p)
  beginShutdown : ∀ {db}, P db → P db.beginShutdown.1
  forceClose : ∀ {db}, P db → P db.forceClose.1

namespace Stable

variable {P : DbClient → Prop} (hp : Stable P) {out : DbClient × List DbCompletion}

include hp

theorem start (h : P db) : P db.start := hp.openWhere (fun _ hs => of_decide_eq_true hs) h

theorem maintainConnections (now : TimePoint) (h : P db) : P (db.maintainConnections now) := by
  unfold DbClient.maintainConnections
  split
  · exact h
  · refine hp.openWhere (fun slot hs => ?_) h
    simp only [Bool.and_eq_true, decide_eq_true_eq] at hs
    exact hs.1

theorem advanceAll {steps : List (Nat × DriverEvent × TimePoint)}
    (ha : db.advanceAll steps = some out) (h : P db) : P out.1 := by
  induction steps generalizing db out with
  | nil =>
    obtain rfl := Option.some.inj ha
    exact h
  | cons step rest ih =>
    obtain ⟨first, hfirst, ha⟩ := Option.bind_eq_some_iff.1 ha
    obtain ⟨second, hsecond, ha⟩ := Option.bind_eq_some_iff.1 ha
    obtain rfl := Option.some.inj ha
    have hrest : P second.1 := ih hsecond (hp.advance hfirst h)
    exact hrest

theorem shutdownRounds {rounds : List ShutdownRound}
    (hs : db.shutdownRounds rounds = some out) (h : P db) : P out.1 := by
  induction rounds generalizing db out with
  | nil =>
    obtain rfl := Option.some.inj hs
    exact h
  | cons round rest ih =>
    obtain ⟨advanced, hadvanced, hs⟩ := Option.bind_eq_some_iff.1 hs
    obtain ⟨others, hothers, hs⟩ := Option.bind_eq_some_iff.1 hs
    obtain rfl := Option.some.inj hs
    have hexpired := hp.expireDeadlines round.now (hp.advanceAll hadvanced h)
    have hrest : P others.1 := ih hothers (List.foldlRecOn round.events DbClient.onPollEvent hexpired
      fun _ hdb token _ => hp.onPollEvent token hdb)
    exact hrest

theorem shutdown {rounds : List ShutdownRound} (hs : db.shutdown rounds = some out) (h : P db) :
    P out.1 := by
  obtain ⟨waited, hwaited, hs⟩ := Option.bind_eq_some_iff.1 hs
  obtain rfl := Option.some.inj hs
  exact hp.forceClose (hp.shutdownRounds hwaited (hp.beginShutdown h))

end Stable

theorem balanced_stable : Stable Balanced where
  tryStart key request deadline h := h.tryStart key request deadline
  advance ha h := h.advance ha
  onPollEvent token h := h.onPollEvent token
  expireDeadlines now h := h.expireDeadlines now
  openWhere _ h := h.openWhere _
  beginShutdown h := h.beginShutdown
  forceClose h := h.forceClose

/-! ## What a call makes of the records -/

/-- A call that is not a submission: the accepted requests stay, and the sink is told
what goes on record. -/
structure Tells (db : DbClient) (out : DbClient × List DbCompletion) : Prop where
  config : out.1.config = db.config
  submitted : out.1.submitted = db.submitted
  told : ∃ outcomes, out.1.outcomes = db.outcomes ++ outcomes ∧
    out.2 = outcomes.map (·.completion)
  shuttingDown : db.shuttingDown = true → out.1.shuttingDown = true
  queue : db.queue = [] → out.1.queue = []

theorem Tells.silent (hc : db'.config = db.config) (hs : db'.submitted = db.submitted)
    (ho : db'.outcomes = db.outcomes) (hd : db'.shuttingDown = db.shuttingDown)
    (hq : db'.queue = db.queue) : Tells db (db', []) :=
  ⟨hc, hs, ⟨[], by simp [ho]⟩, hd.trans, hq.trans⟩

theorem Tells.refl (db : DbClient) : Tells db (db, []) := .silent rfl rfl rfl rfl rfl

theorem Tells.trans {out out' : DbClient × List DbCompletion} (h : Tells db out)
    (h' : Tells out.1 out') : Tells db (out'.1, out.2 ++ out'.2) := by
  obtain ⟨outcomes, ho, hc⟩ := h.told
  obtain ⟨outcomes', ho', hc'⟩ := h'.told
  refine ⟨h'.config.trans h.config, h'.submitted.trans h.submitted,
    ⟨outcomes ++ outcomes', ?_, ?_⟩, h'.shuttingDown ∘ h.shuttingDown, h'.queue ∘ h.queue⟩
  · rw [ho', ho, List.append_assoc]
  · rw [hc, hc', List.map_append]

theorem tells_advance {i : Nat} {event : DriverEvent} {clock : TimePoint}
    {out : DbClient × List DbCompletion} (h : db.advance i event clock = some out) :
    Tells db out := by
  unfold advance at h
  split at h
  · cases h
  · split at h
    · cases h
    · split at h
      · cases h
      · next outcomes _ =>
        obtain rfl := Option.some.inj h
        refine ⟨rfl, rfl, ⟨outcomes, rfl, rfl⟩, id, fun hq => ?_⟩
        show (pumpSlots _ db.queue).2 = []
        rw [hq, pumpSlots_nil]

theorem tells_openWhere (p : DbSlot → Bool) : Tells db (db.openWhere p, []) :=
  .silent rfl rfl rfl rfl rfl

theorem tells_maintainConnections (now : TimePoint) : Tells db (db.maintainConnections now, []) := by
  unfold maintainConnections
  split
  · exact .refl db
  · exact tells_openWhere _

theorem tells_onPollEvent (token : PollToken) : Tells db (db.onPollEvent token, []) := by
  refine .silent ?_ ?_ ?_ ?_ ?_ <;>
    (unfold onPollEvent; split <;> rfl)

theorem tells_expireDeadlines (now : TimePoint) : Tells db (db.expireDeadlines now) :=
  ⟨rfl, rfl, ⟨_, rfl, rfl⟩, id, fun hq => by
    show db.queue.filter _ = []
    rw [hq]
    rfl⟩

theorem tells_beginShutdown : Tells db db.beginShutdown :=
  ⟨rfl, rfl, ⟨_, rfl, rfl⟩, fun _ => rfl, fun _ => rfl⟩

theorem tells_forceClose : Tells db db.forceClose :=
  ⟨rfl, rfl, ⟨_, rfl, rfl⟩, id, id⟩

theorem tells_advanceAll {steps : List (Nat × DriverEvent × TimePoint)}
    {out : DbClient × List DbCompletion} (h : db.advanceAll steps = some out) : Tells db out := by
  induction steps generalizing db out with
  | nil =>
    obtain rfl := Option.some.inj h
    exact .refl db
  | cons step rest ih =>
    obtain ⟨first, hfirst, h⟩ := Option.bind_eq_some_iff.1 h
    obtain ⟨second, hsecond, h⟩ := Option.bind_eq_some_iff.1 h
    obtain rfl := Option.some.inj h
    exact (tells_advance hfirst).trans (ih hsecond)

theorem tells_pollEvents (events : List PollToken) :
    Tells db (events.foldl onPollEvent db, []) := by
  induction events generalizing db with
  | nil => exact .refl db
  | cons token rest ih => exact (tells_onPollEvent token).trans ih

theorem tells_shutdownRounds {rounds : List ShutdownRound} {out : DbClient × List DbCompletion}
    (h : db.shutdownRounds rounds = some out) : Tells db out := by
  induction rounds generalizing db out with
  | nil =>
    obtain rfl := Option.some.inj h
    exact .refl db
  | cons round rest ih =>
    obtain ⟨advanced, hadvanced, h⟩ := Option.bind_eq_some_iff.1 h
    obtain ⟨others, hothers, h⟩ := Option.bind_eq_some_iff.1 h
    obtain rfl := Option.some.inj h
    have hround := ((tells_advanceAll hadvanced).trans (tells_expireDeadlines round.now)).trans
      (tells_pollEvents round.events)
    rw [List.append_nil] at hround
    exact hround.trans (ih hothers)

/-- **The end of a client.** When `shutdown` returns, nothing is queued or in flight. -/
theorem tells_shutdown {rounds : List ShutdownRound} {out : DbClient × List DbCompletion}
    (h : db.shutdown rounds = some out) :
    Tells db out ∧ out.1.shuttingDown = true ∧ entries out.1.slots = [] ∧ out.1.queue = [] := by
  obtain ⟨waited, hwaited, h⟩ := Option.bind_eq_some_iff.1 h
  obtain rfl := Option.some.inj h
  have hrounds := tells_shutdownRounds hwaited
  refine ⟨(tells_beginShutdown.trans hrounds).trans tells_forceClose, ?_, ?_, ?_⟩
  · exact tells_forceClose.shuttingDown (hrounds.shuttingDown rfl)
  · refine entries_eq_nil fun slot hs => ?_
    obtain ⟨before, -, rfl⟩ := List.mem_map.1 hs
    rfl
  · exact tells_forceClose.queue (hrounds.queue rfl)

end DbClient

inductive DbCall where
  | start
  | tryStart (key : AwaitKey) (request : DbRequest) (deadline : TimePoint)
  | advance (steps : List (Nat × DriverEvent × TimePoint))
  | onPollEvent (token : DbClient.PollToken)
  | expireDeadlines (now : TimePoint)
  | maintainConnections (now : TimePoint)
  | beginShutdown
  | shutdown (rounds : List DbClient.ShutdownRound)

/-- A client, the answers its owner got and the completions its sink was told. -/
structure DbUse where
  client : DbClient
  answers : List (AwaitKey × DbRequest × DbSubmitStatus) := []
  told : List DbCompletion := []
  returned : Bool := false

namespace DbUse

/-- The requests that were answered with Pending, in their order. -/
def pending (u : DbUse) : List DbEntry :=
  u.answers.filterMap fun (key, request, status) =>
    if status = .pending then some (key, request) else none

def tell (u : DbUse) (out : DbClient × List DbCompletion) : DbUse :=
  { u with client := out.1, told := u.told ++ out.2 }

def call (u : DbUse) : DbCall → Option DbUse
  | .start => some { u with client := u.client.start }
  | .tryStart key request deadline =>
    let (status, client) := u.client.tryStart key request deadline
    some { u with client := client, answers := u.answers ++ [(key, request, status)] }
  | .advance steps => (u.client.advanceAll steps).map u.tell
  | .onPollEvent token => some { u with client := u.client.onPollEvent token }
  | .expireDeadlines now => some (u.tell (u.client.expireDeadlines now))
  | .maintainConnections now => some { u with client := u.client.maintainConnections now }
  | .beginShutdown => some (u.tell u.client.beginShutdown)
  | .shutdown rounds =>
    (u.client.shutdown rounds).map fun out => { u.tell out with returned := true }

/-- What holds between two calls. Once `shutdown` has returned, as many requests are
completed as were accepted. -/
structure Kept (config : DbClientConfig) (u : DbUse) : Prop where
  config : u.client.config = config
  accepted : u.client.submitted = u.pending
  told : u.told = u.client.outcomes.map (·.completion)
  returned : u.returned = true → u.client.shuttingDown = true ∧
    u.client.submitted.length ≤ u.client.outcomes.length

variable {config : DbClientConfig} {u u' : DbUse}

theorem Kept.tell (h : u.Kept config) {out : DbClient × List DbCompletion} (ht : u.client.Tells out) :
    (u.tell out).Kept config := by
  obtain ⟨outcomes, ho, hc⟩ := ht.told
  refine ⟨ht.config.trans h.config, ht.submitted.trans h.accepted, ?_, fun hr => ?_⟩
  · show u.told ++ out.2 = out.1.outcomes.map _
    rw [h.told, ho, hc, List.map_append]
  · obtain ⟨hshutting, hlength⟩ := h.returned hr
    refine ⟨ht.shuttingDown hshutting, ?_⟩
    show out.1.submitted.length ≤ out.1.outcomes.length
    rw [ht.submitted, ho, List.length_append]
    exact Nat.le_add_right_of_le hlength

theorem Kept.silent (h : u.Kept config) {client : DbClient} (ht : u.client.Tells (client, [])) :
    Kept config { u with client := client } := by
  simpa [DbUse.tell] using h.tell ht

theorem submitted_tryStart (db : DbClient) (key : AwaitKey) (request : DbRequest)
    (deadline : TimePoint) :
    ((db.tryStart key request deadline).1 = .pending ∧ db.shuttingDown = false ∧
      (db.tryStart key request deadline).2.submitted = db.submitted ++ [(key, request)] ∨
    (db.tryStart key request deadline).1 = .rejected ∧
      (db.tryStart key request deadline).2.submitted = db.submitted) ∧
    (db.tryStart key request deadline).2.config = db.config ∧
    (db.tryStart key request deadline).2.outcomes = db.outcomes ∧
    (db.tryStart key request deadline).2.shuttingDown = db.shuttingDown := by
  unfold DbClient.tryStart
  split
  · exact ⟨.inr ⟨rfl, rfl⟩, rfl, rfl, rfl⟩
  · next hopen =>
    split
    · exact ⟨.inr ⟨rfl, rfl⟩, rfl, rfl, rfl⟩
    · split
      · exact ⟨.inl ⟨rfl, by simpa using hopen, rfl⟩, rfl, rfl, rfl⟩
      · simp only
        split
        · exact ⟨.inr ⟨rfl, rfl⟩, rfl, rfl, rfl⟩
        · exact ⟨.inl ⟨rfl, by simpa using hopen, rfl⟩, rfl, rfl, rfl⟩

theorem Kept.tryStart (h : u.Kept config) (key : AwaitKey) (request : DbRequest) (deadline : TimePoint) :
    Kept config { u with
      client := (u.client.tryStart key request deadline).2
      answers := u.answers ++ [(key, request, (u.client.tryStart key request deadline).1)] } := by
  obtain ⟨hcases, hc, ho, hd⟩ := submitted_tryStart u.client key request deadline
  refine ⟨hc.trans h.config, ?_, h.told.trans (by rw [ho]), fun hr => ?_⟩
  · show (u.client.tryStart key request deadline).2.submitted =
      List.filterMap _ (u.answers ++ [_])
    rw [List.filterMap_append]
    rcases hcases with ⟨hp, -, hs⟩ | ⟨hp, hs⟩
    · rw [hs, h.accepted, hp]
      rfl
    · rw [hs, h.accepted, hp]
      exact (List.append_nil _).symm
  · obtain ⟨hshutting, hlength⟩ := h.returned hr
    refine ⟨hd.trans hshutting, ?_⟩
    rcases hcases with ⟨-, hopen, -⟩ | ⟨-, hs⟩
    · rw [hshutting] at hopen
      cases hopen
    · show (u.client.tryStart key request deadline).2.submitted.length ≤ _
      rw [hs, ho]
      exact hlength

theorem length_outcomes {db : DbClient} (h : db.Balanced) :
    db.submitted.length =
      db.outcomes.length + (DbClient.entries db.slots).length + db.queue.length := by
  have hlength := h.requests.length_eq
  simpa [Nat.add_assoc] using hlength

/-- A stable property of the client holds after every call. -/
theorem stable_call {P : DbClient → Prop} (hp : DbClient.Stable P) {call : DbCall}
    (hs : u.call call = some u') (h : P u.client) : P u'.client := by
  cases call with
  | start =>
    obtain rfl := Option.some.inj hs
    exact hp.start h
  | tryStart key request deadline =>
    obtain rfl := Option.some.inj hs
    exact hp.tryStart key request deadline h
  | advance steps =>
    obtain ⟨out, hout, rfl⟩ := Option.map_eq_some_iff.1 hs
    exact hp.advanceAll hout h
  | onPollEvent token =>
    obtain rfl := Option.some.inj hs
    exact hp.onPollEvent token h
  | expireDeadlines now =>
    obtain rfl := Option.some.inj hs
    exact hp.expireDeadlines now h
  | maintainConnections now =>
    obtain rfl := Option.some.inj hs
    exact hp.maintainConnections now h
  | beginShutdown =>
    obtain rfl := Option.some.inj hs
    exact hp.beginShutdown h
  | shutdown rounds =>
    obtain ⟨out, hout, rfl⟩ := Option.map_eq_some_iff.1 hs
    exact hp.shutdown hout h

theorem kept_call {call : DbCall} (h : u.Kept config) (hb : u'.client.Balanced)
    (hs : u.call call = some u') : u'.Kept config := by
  cases call with
  | start =>
    obtain rfl := Option.some.inj hs
    exact h.silent (DbClient.tells_openWhere _)
  | tryStart key request deadline =>
    obtain rfl := Option.some.inj hs
    exact h.tryStart key request deadline
  | advance steps =>
    obtain ⟨out, hout, rfl⟩ := Option.map_eq_some_iff.1 hs
    exact h.tell (DbClient.tells_advanceAll hout)
  | onPollEvent token =>
    obtain rfl := Option.some.inj hs
    exact h.silent (DbClient.tells_onPollEvent token)
  | expireDeadlines now =>
    obtain rfl := Option.some.inj hs
    exact h.tell (DbClient.tells_expireDeadlines now)
  | maintainConnections now =>
    obtain rfl := Option.some.inj hs
    exact h.silent (DbClient.tells_maintainConnections now)
  | beginShutdown =>
    obtain rfl := Option.some.inj hs
    exact h.tell DbClient.tells_beginShutdown
  | shutdown rounds =>
    obtain ⟨out, hout, rfl⟩ := Option.map_eq_some_iff.1 hs
    obtain ⟨htells, hshutting, hentries, hqueue⟩ := DbClient.tells_shutdown hout
    have hkept := h.tell htells
    have hlength : out.1.submitted.length = out.1.outcomes.length +
        (DbClient.entries out.1.slots).length + out.1.queue.length := length_outcomes hb
    refine { hkept with returned := fun _ => ⟨hshutting, ?_⟩ }
    show out.1.submitted.length ≤ out.1.outcomes.length
    rw [hentries, hqueue] at hlength
    exact Nat.le_of_eq hlength

end DbUse

/-- A client that has been constructed, under any calls. -/
def dbMachine (config : DbClientConfig) : Machine DbUse DbCall where
  init u := u = { client := .create config }
  step := DbUse.call

/-- What a client owes its owner between two calls. -/
structure DbUse.Honoured (config : DbClientConfig) (u : DbUse) : Prop where
  /-- A request that was answered with Pending has been completed with its own key, or
  it is in flight, or it is queued. -/
  once : (u.pending.map (·.1)).Perm
    (u.told.map (·.1) ++ (DbClient.entries u.client.slots).map (·.1) ++
      u.client.queue.map (·.key))
  /-- Once `shutdown` has returned, each of them has been completed. -/
  returned : u.returned = true → (u.told.map (·.1)).Perm (u.pending.map (·.1))
  /-- Requests start in the order of their submission. -/
  order : (u.client.started ++ u.client.queue.map (·.entry)).Sublist u.pending
  busy : u.client.queue ≠ [] → ∀ slot ∈ u.client.slots, slot.isFree = false
  bytes : u.client.queuedBytes =
    (u.client.queue.map fun q => queuedFootprint config q.request).sum
  count : u.client.queue.length ≤ config.maxQueuedOperations
  cap : u.client.queuedBytes ≤ config.maxQueuedBytes

theorem DbUse.Kept.honoured {config : DbClientConfig} {u : DbUse} (h : u.Kept config)
    (hb : u.client.Balanced) : u.Honoured config := by
  have hkeys : u.told.map (·.1) = u.client.outcomes.map fun o => o.entry.1 := by
    rw [h.told, List.map_map]
    rfl
  have honce : (u.pending.map (·.1)).Perm
      (u.told.map (·.1) ++ (DbClient.entries u.client.slots).map (·.1) ++
        u.client.queue.map (·.key)) := by
    have hmap := hb.requests.map (·.1)
    rw [h.accepted] at hmap
    rw [hkeys]
    simpa [Function.comp_def, QueuedOperation.entry] using hmap
  have hsizes : (u.client.queue.map (·.footprint)).sum =
      (u.client.queue.map fun q => queuedFootprint config q.request).sum := by
    rw [List.map_congr_left fun q hq => h.config ▸ hb.sizes q hq]
  refine ⟨honce, fun hr => ?_, h.accepted ▸ hb.order, hb.busy,
    hb.bytes.trans hsizes, h.config ▸ hb.count, h.config ▸ hb.cap⟩
  have hlength := length_outcomes hb
  have hdone := (h.returned hr).2
  have hentries : DbClient.entries u.client.slots = [] := List.length_eq_zero_iff.1 (by omega)
  have hqueue : u.client.queue = [] := List.length_eq_zero_iff.1 (by omega)
  rw [hentries, hqueue] at honce
  simpa using honce.symm

/-- A stable property of a new client holds in every state. -/
theorem stable_of_reach {P : DbClient → Prop} (hp : DbClient.Stable P) {config : DbClientConfig}
    (h0 : P (.create config)) {u : DbUse} (h : (dbMachine config).Reach (fun _ _ => True) u) :
    P u.client := by
  refine h.invariant (P := fun u => P u.client) ?_ ?_
  · rintro u rfl
    exact h0
  · intro u call u' _ hu _ hs
    exact DbUse.stable_call hp hs hu

theorem balanced_of_reach {config : DbClientConfig} {u : DbUse}
    (h : (dbMachine config).Reach (fun _ _ => True) u) : u.client.Balanced :=
  stable_of_reach DbClient.balanced_stable (DbClient.balanced_create config) h

theorem kept_of_reach {config : DbClientConfig} {u : DbUse}
    (h : (dbMachine config).Reach (fun _ _ => True) u) : u.Kept config := by
  refine h.invariant (P := DbUse.Kept config) ?_ ?_
  · rintro u rfl
    exact ⟨rfl, rfl, rfl, fun hr => by cases hr⟩
  · intro u call u' hr hu _ hs
    exact DbUse.kept_call hu (balanced_of_reach (hr.step call trivial hs)) hs

/-- **Every accepted request is completed exactly once.** For every number of slots and
limits, under any calls and whatever the driver answers, a request that was answered
with Pending is told to the sink once, with its own key, by the time `shutdown` returns,
and nothing else is told; requests start in the order of their submission, no slot is
free while the queue holds one, and the queue keeps its accounts and its limits. -/
theorem requests_completed_once {config : DbClientConfig} {u : DbUse}
    (h : (dbMachine config).Reach (fun _ _ => True) u) : u.Honoured config :=
  (kept_of_reach h).honoured (balanced_of_reach h)

/-- One connection, two requests: the second waits while the first is in flight, and the
shutdown finds it queued. -/
theorem requests_completed_once_two :
    ∃ u, (dbMachine { connectionCount := 1 }).Reach (fun _ _ => True) u ∧
      u.told.map (·.1) = [⟨⟨.player, 1⟩, 1, 1⟩, ⟨⟨.player, 3⟩, 1, 3⟩, ⟨⟨.player, 2⟩, 1, 2⟩] ∧
      u.returned = true ∧ u.Honoured { connectionCount := 1 } := by
  obtain ⟨u, hu, ht⟩ := (dbMachine { connectionCount := 1 }).exists_reach_of_replay
    (fun _ _ => True) (s := { client := .create { connectionCount := 1 } }) rfl
    [.start, .tryStart ⟨⟨.player, 1⟩, 1, 1⟩ (.loadPlayer 1) 9,
      .advance [(0, .done, 0), (0, .resultSet, 0), (0, .endOfRows, 0), (0, .done, 0)],
      .tryStart ⟨⟨.player, 2⟩, 1, 2⟩ (.loadPlayer 2) 9,
      .tryStart ⟨⟨.player, 3⟩, 1, 3⟩ (.loadPlayer 3) 9, .shutdown []]
    (fun u => u.told.map (·.1) =
      [⟨⟨.player, 1⟩, 1, 1⟩, ⟨⟨.player, 3⟩, 1, 3⟩, ⟨⟨.player, 2⟩, 1, 2⟩] ∧ u.returned)
    (by decide +kernel)
  have ht := of_decide_eq_true ht
  exact ⟨u, hu, ht.1, ht.2, requests_completed_once hu⟩

end Snf.Worker
