import Snf.Lib.Ensures
import Snf.Lib.Heap
import Snf.Lib.Machine
import Snf.Worker.TimerQueue

/-! # The heap of the timer queue

`TimerQueue` with the vector of its entries, which the heap functions of the standard library keep
in order, and the whole loop of `expire`. Admission and the counters are those of `TimerQueue`;
what becomes of the entries is said here. A failed `requireInvariant` ends the process.

The users are held to one condition only: a reservation is released or committed once, with the
bytes that it reserved.
-/

namespace Snf.Worker

open Snf.Lib

/-- An entry, numbered in the order of admission. No function reads the number. -/
structure QueuedTimer (μ : Type) extends TimerEntry μ where
  number : Nat
deriving DecidableEq

abbrev TimerAlgorithms (μ : Type) := HeapAlgorithms fun e : QueuedTimer μ => e.deadline

/-- `issued` is the number of the next entry. -/
structure TimerHeap (μ : Type) where
  heap : List (QueuedTimer μ) := []
  reservedEntries : Nat := 0
  reservedApplicationTimerEntries : Nat := 0
  maxApplicationTimerBytes : Nat
  applicationTimerBytes : Nat := 0
  reservedApplicationTimerBytes : Nat := 0
  issued : Nat := 0
deriving DecidableEq

namespace TimerHeap

variable {μ : Type}

/-- The queue without the order of its entries. -/
def queue (t : TimerHeap μ) : TimerQueue μ where
  heap := t.heap.map (·.toTimerEntry)
  reservedEntries := t.reservedEntries
  reservedApplicationTimerEntries := t.reservedApplicationTimerEntries
  maxApplicationTimerBytes := t.maxApplicationTimerBytes
  applicationTimerBytes := t.applicationTimerBytes
  reservedApplicationTimerBytes := t.reservedApplicationTimerBytes

/-- The counters of the queue after an operation. -/
def adopt (t : TimerHeap μ) (q : TimerQueue μ) : TimerHeap μ :=
  { t with
    reservedEntries := q.reservedEntries
    reservedApplicationTimerEntries := q.reservedApplicationTimerEntries
    applicationTimerBytes := q.applicationTimerBytes
    reservedApplicationTimerBytes := q.reservedApplicationTimerBytes }

/-- `push_back` and `push_heap`. -/
def insert (alg : TimerAlgorithms μ) (t : TimerHeap μ) (deadline : TimePoint)
    (payload : TimerPayload μ) : TimerHeap μ :=
  { t with
    heap := alg.pushHeap
      (t.heap ++ [{ deadline := deadline, payload := payload, number := t.issued }])
    issued := t.issued + 1 }

def trySchedule (alg : TimerAlgorithms μ) (t : TimerHeap μ) (deadline : TimePoint)
    (payload : TimerPayload μ) : Option (TimerHeap μ) :=
  (t.queue.trySchedule deadline payload).map fun q => (t.adopt q).insert alg deadline payload

def tryReserve (t : TimerHeap μ) : Option (TimerHeap μ) := t.queue.tryReserve.map t.adopt

def releaseReservation (t : TimerHeap μ) : Except String (TimerHeap μ) :=
  t.queue.releaseReservation.map t.adopt

def commitReserved (alg : TimerAlgorithms μ) (t : TimerHeap μ) (deadline : TimePoint)
    (payload : TimerPayload μ) : Except String (TimerHeap μ) :=
  (t.queue.commitReserved deadline payload).map fun q => (t.adopt q).insert alg deadline payload

def tryReserveApplicationTimer (t : TimerHeap μ) (chargedBytes : Nat) : Option (TimerHeap μ) :=
  (t.queue.tryReserveApplicationTimer chargedBytes).map t.adopt

def releaseApplicationTimerReservation (t : TimerHeap μ) (chargedBytes : Nat) :
    Except String (TimerHeap μ) :=
  (t.queue.releaseApplicationTimerReservation chargedBytes).map t.adopt

def commitReservedApplicationTimer (alg : TimerAlgorithms μ) (t : TimerHeap μ)
    (deadline : TimePoint) (target : ActivationRef) (message : ActorEnvelope μ)
    (chargedBytes : Nat) : Except String (TimerHeap μ) :=
  (t.queue.commitReservedApplicationTimer deadline target message chargedBytes).map fun q =>
    (t.adopt q).insert alg deadline (.applicationTimer target message)

def tryScheduleApplicationTimer (alg : TimerAlgorithms μ) (t : TimerHeap μ) (deadline : TimePoint)
    (target : ActivationRef) (message : ActorEnvelope μ) : Option (TimerHeap μ) :=
  (t.queue.tryScheduleApplicationTimer deadline target message).map fun q =>
    (t.adopt q).insert alg deadline (.applicationTimer target message)

/-- The counter after an entry with these bytes is gone. -/
def discharge (bytes charge : Nat) : Except String Nat :=
  if bytes ≥ charge then .ok (bytes - charge) else .error TimerQueue.invariantViolated

/-- What is left by `erase_if`. The heap is made again if there was anything to erase. -/
def uncancelled (alg : TimerAlgorithms μ) (heap : List (QueuedTimer μ)) : List (QueuedTimer μ) :=
  let kept := heap.filter fun e => !e.payload.isApplicationTimer
  if kept.length < heap.length then alg.makeHeap kept else kept

/-- The predicate of `erase_if` is called once for each entry. -/
def cancelApplicationTimers (alg : TimerAlgorithms μ) (t : TimerHeap μ) :
    Except String (TimerHeap μ) := do
  let bytes ← t.heap.foldlM (fun bytes e => discharge bytes e.payload.applicationBytes)
    t.applicationTimerBytes
  let heap := uncancelled alg t.heap
  if heap.countP (·.payload.isApplicationTimer) ≠ 0 ∨ bytes = 0 then
    .ok { t with heap := heap, applicationTimerBytes := bytes }
  else .error TimerQueue.invariantViolated

/-- `pop_heap` and `pop_back`, of a heap that is not empty. -/
def pop (alg : TimerAlgorithms μ) (t : TimerHeap μ) :
    Except String (QueuedTimer μ × TimerHeap μ) :=
  match (alg.popHeap t.heap).getLast? with
  | none => .error TimerQueue.invariantViolated
  | some entry => do
    let bytes ← discharge t.applicationTimerBytes entry.payload.applicationBytes
    .ok (entry, { t with
      heap := (alg.popHeap t.heap).dropLast
      applicationTimerBytes := bytes })

/-- The front is due. -/
def due (t : TimerHeap μ) (now : TimePoint) : Bool := t.heap.head?.any (·.deadline ≤ now)

end TimerHeap

/-! ## The users of the queue -/

inductive TimerCall (μ : Type) where
  | trySchedule (deadline : TimePoint) (payload : TimerPayload μ)
  | tryReserve
  | releaseReservation
  | commitReserved (deadline : TimePoint) (payload : TimerPayload μ)
  | tryReserveApplicationTimer (chargedBytes : Nat)
  | releaseApplicationTimerReservation (chargedBytes : Nat)
  | commitReservedApplicationTimer (deadline : TimePoint) (target : ActivationRef)
      (message : ActorEnvelope μ) (chargedBytes : Nat)
  | tryScheduleApplicationTimer (deadline : TimePoint) (target : ActivationRef)
      (message : ActorEnvelope μ)
  | cancelApplicationTimers

/-- A call that the users do not make, and a failed `requireInvariant`. -/
inductive TimerFault where
  | misused
  | terminated
deriving DecidableEq, Repr

structure CountTimeBudget where
  maxCount : Nat
  maxDuration : Nat
deriving DecidableEq, Repr

structure ExpireResult where
  expired : Nat := 0
  dueItemsRemain : Bool := false
  budgetExhausted : Bool := false
deriving DecidableEq, Repr

/-- What the users hold of the queue, and the entries that were handed over, the first first. -/
structure TimerRun (μ : Type) where
  timers : TimerHeap μ
  reservations : Nat := 0
  applicationReservations : List Nat := []
  handed : List (QueuedTimer μ) := []
deriving DecidableEq

namespace TimerRun

variable {μ : Type}

/-- The run after a call that may end the process. -/
def after (result : Except String (TimerHeap μ)) (run : TimerHeap μ → TimerRun μ) :
    Except TimerFault (TimerRun μ) :=
  match result with
  | .ok timers => .ok (run timers)
  | .error _ => .error .terminated

def call (alg : TimerAlgorithms μ) (r : TimerRun μ) :
    TimerCall μ → Except TimerFault (TimerRun μ)
  | .trySchedule deadline payload =>
    .ok { r with timers := (r.timers.trySchedule alg deadline payload).getD r.timers }
  | .tryReserve =>
    match r.timers.tryReserve with
    | none => .ok r
    | some timers => .ok { r with timers := timers, reservations := r.reservations + 1 }
  | .releaseReservation =>
    if r.reservations = 0 then .error .misused
    else
      after r.timers.releaseReservation fun timers =>
        { r with timers := timers, reservations := r.reservations - 1 }
  | .commitReserved deadline payload =>
    if r.reservations = 0 ∨ payload.applicationBytes ≠ 0 then .error .misused
    else
      after (r.timers.commitReserved alg deadline payload) fun timers =>
        { r with timers := timers, reservations := r.reservations - 1 }
  | .tryReserveApplicationTimer chargedBytes =>
    match r.timers.tryReserveApplicationTimer chargedBytes with
    | none => .ok r
    | some timers => .ok { r with
        timers := timers
        applicationReservations := chargedBytes :: r.applicationReservations }
  | .releaseApplicationTimerReservation chargedBytes =>
    if chargedBytes ∉ r.applicationReservations then .error .misused
    else
      after (r.timers.releaseApplicationTimerReservation chargedBytes) fun timers =>
        { r with
          timers := timers
          applicationReservations := r.applicationReservations.erase chargedBytes }
  | .commitReservedApplicationTimer deadline target message chargedBytes =>
    if chargedBytes ∉ r.applicationReservations ∨ message.chargedBytes ≠ chargedBytes then
      .error .misused
    else
      after (r.timers.commitReservedApplicationTimer alg deadline target message chargedBytes)
        fun timers =>
          { r with
            timers := timers
            applicationReservations := r.applicationReservations.erase chargedBytes }
  | .tryScheduleApplicationTimer deadline target message =>
    .ok { r with
      timers := (r.timers.tryScheduleApplicationTimer alg deadline target message).getD r.timers }
  | .cancelApplicationTimers =>
    after (r.timers.cancelApplicationTimers alg) fun timers => { r with timers := timers }

/-- The loop of `expire` with `remaining` entries left to its budget. The handler of the `n`-th
entry makes the calls `script[n]`, and `elapsed` lists the readings of the clock. -/
def expireLoop (alg : TimerAlgorithms μ) (now maxDuration : Nat)
    (script : List (List (TimerCall μ))) (elapsed : List Nat) :
    Nat → Nat → TimerRun μ → Except TimerFault (TimerRun μ × ExpireResult)
  | remaining, expired, r =>
    if !r.timers.due now then .ok (r, { expired := expired })
    else
      match remaining with
      | 0 => .ok (r, { expired := expired, budgetExhausted := true, dueItemsRemain := true })
      | remaining + 1 =>
        match r.timers.pop alg with
        | .error _ => .error .terminated
        | .ok (entry, timers) => do
          let r ← (script.getD expired []).foldlM (call alg)
            { r with timers := timers, handed := r.handed ++ [entry] }
          if (expired + 1) % 64 = 0 ∧ elapsed.getD (expired / 64) 0 ≥ maxDuration then
            .ok (r,
              { expired := expired + 1
                budgetExhausted := true
                dueItemsRemain := r.timers.due now })
          else expireLoop alg now maxDuration script elapsed remaining (expired + 1) r

def expire (alg : TimerAlgorithms μ) (r : TimerRun μ) (now : TimePoint) (budget : CountTimeBudget)
    (script : List (List (TimerCall μ))) (elapsed : List Nat) :
    Except TimerFault (TimerRun μ × ExpireResult) :=
  expireLoop alg now budget.maxDuration script elapsed budget.maxCount 0 r

end TimerRun

/-! ## The entries -/

namespace TimerHeap

variable {μ : Type} {alg : TimerAlgorithms μ} {t t' : TimerHeap μ} {handed : List (QueuedTimer μ)}

def bytesOf (entries : List (QueuedTimer μ)) : Nat :=
  (entries.map (·.payload.applicationBytes)).sum

/-- The entries are a heap, their bytes are counted, and each has a number of its own that no
entry had which was handed over. -/
structure Stored (handed : List (QueuedTimer μ)) (t : TimerHeap μ) : Prop where
  heap : IsHeap (fun e : QueuedTimer μ => e.deadline) t.heap
  bytes : t.applicationTimerBytes = bytesOf t.heap
  numbers : ((handed ++ t.heap).map (·.number)).Nodup
  issued : ∀ e ∈ handed ++ t.heap, e.number < t.issued

/-- The entries of a queue later on: those that were there and new ones. -/
structure Grows (t t' : TimerHeap μ) : Prop where
  limit : t'.maxApplicationTimerBytes = t.maxApplicationTimerBytes
  issued : t.issued ≤ t'.issued
  heap : ∀ e ∈ t'.heap, e ∈ t.heap ∨ t.issued ≤ e.number

theorem Grows.refl (t : TimerHeap μ) : Grows t t := ⟨rfl, le_rfl, fun _ => .inl⟩

theorem Grows.trans {t'' : TimerHeap μ} (h : Grows t t') (h' : Grows t' t'') : Grows t t'' := by
  refine ⟨h'.limit.trans h.limit, h.issued.trans h'.issued, fun e he => ?_⟩
  rcases h'.heap e he with hold | hnew
  · exact h.heap e hold
  · exact .inr (h.issued.trans hnew)

theorem Stored.front_le (h : Stored handed t) {e : QueuedTimer μ} {rest : List (QueuedTimer μ)}
    (ht : t.heap = e :: rest) : ∀ c ∈ t.heap, e.deadline ≤ c.deadline := by
  have hheap := h.heap
  rw [ht] at hheap ⊢
  exact hheap.front_le

theorem Stored.due_iff (h : Stored handed t) {now : TimePoint} :
    t.due now = true ↔ ∃ e ∈ t.heap, e.deadline ≤ now := by
  unfold due
  cases hheap : t.heap with
  | nil => simp
  | cons front rest =>
    simp only [List.head?_cons, Option.any_some, decide_eq_true_eq]
    constructor
    · exact fun hdue => ⟨front, List.mem_cons_self, hdue⟩
    · intro hdue
      obtain ⟨e, he, hle⟩ := hdue
      exact (h.front_le hheap e (hheap ▸ he)).trans hle

/-- Operations that leave the entries alone. -/
theorem Stored.adopt (h : Stored handed t) {q : TimerQueue μ}
    (hbytes : q.applicationTimerBytes = t.applicationTimerBytes) : Stored handed (t.adopt q) where
  heap := h.heap
  bytes := hbytes.trans h.bytes
  numbers := h.numbers
  issued := h.issued

theorem Stored.insert (alg : TimerAlgorithms μ) (h : Stored handed t) {q : TimerQueue μ}
    (deadline : TimePoint) {payload : TimerPayload μ}
    (hbytes : q.applicationTimerBytes = t.applicationTimerBytes + payload.applicationBytes) :
    Stored handed ((t.adopt q).insert alg deadline payload) ∧
      Grows t ((t.adopt q).insert alg deadline payload) := by
  have hperm : ((t.adopt q).insert alg deadline payload).heap.Perm
      (⟨⟨deadline, payload⟩, t.issued⟩ :: t.heap) :=
    (alg.pushHeap_perm _).trans (List.perm_append_singleton _ _)
  have hall : (handed ++ ((t.adopt q).insert alg deadline payload).heap).Perm
      (⟨⟨deadline, payload⟩, t.issued⟩ :: (handed ++ t.heap)) :=
    (hperm.append_left handed).trans List.perm_middle
  refine ⟨⟨alg.isHeap_pushHeap _ _ h.heap, ?_, ?_, ?_⟩, rfl, Nat.le_succ _, fun e he => ?_⟩
  · rw [bytesOf, (hperm.map _).sum_eq, List.map_cons, List.sum_cons, Nat.add_comm]
    exact hbytes.trans (congrArg (· + _) h.bytes)
  · rw [(hall.map _).nodup_iff, List.map_cons, List.nodup_cons]
    refine ⟨fun hmem => ?_, h.numbers⟩
    obtain ⟨e, he, heq⟩ := List.mem_map.1 hmem
    exact Nat.lt_irrefl _ (heq ▸ h.issued e he)
  · intro e he
    rcases List.mem_cons.1 (hall.mem_iff.1 he) with rfl | hold
    · exact Nat.lt_succ_self _
    · exact Nat.lt_succ_of_lt (h.issued e hold)
  · rcases List.mem_cons.1 (hperm.mem_iff.1 he) with rfl | hold
    · exact .inr le_rfl
    · exact .inl hold

/-- Counting the bytes of some entries down from a counter that has them. -/
theorem foldlM_discharge (entries : List (QueuedTimer μ)) {bytes : Nat}
    (h : bytesOf entries ≤ bytes) :
    entries.foldlM (fun bytes e => discharge bytes e.payload.applicationBytes) bytes =
      .ok (bytes - bytesOf entries) := by
  induction entries generalizing bytes with
  | nil => rfl
  | cons e entries ih =>
    have hsum : bytesOf (e :: entries) = e.payload.applicationBytes + bytesOf entries := by
      simp only [bytesOf, List.map_cons, List.sum_cons]
    rw [hsum] at h ⊢
    have hhead : discharge bytes e.payload.applicationBytes =
        .ok (bytes - e.payload.applicationBytes) := if_pos (by omega)
    rw [List.foldlM_cons, hhead]
    have hrest := @ih (bytes - e.payload.applicationBytes) (by omega)
    rw [Nat.sub_add_eq]
    exact hrest

/-- The queue with fewer entries. -/
def withHeap (t : TimerHeap μ) (heap : List (QueuedTimer μ)) : TimerHeap μ :=
  { t with heap := heap, applicationTimerBytes := bytesOf heap }

/-- Some of the entries stay, some are handed over. -/
theorem Stored.remain (h : Stored handed t) {handed' heap' : List (QueuedTimer μ)}
    (hheap : IsHeap (fun e : QueuedTimer μ => e.deadline) heap')
    (hsub : (handed' ++ heap').Subperm (handed ++ t.heap)) (hmem : ∀ e ∈ heap', e ∈ t.heap) :
    Stored handed' (t.withHeap heap') ∧ Grows t (t.withHeap heap') := by
  refine ⟨⟨hheap, rfl, ?_, fun e he => h.issued e (hsub.subset he)⟩, rfl, le_rfl,
    fun e he => .inl (hmem e he)⟩
  obtain ⟨l, hperm, hl⟩ := hsub
  exact (hperm.map _).nodup_iff.1 (h.numbers.sublist (hl.map _))

theorem uncancelled_perm (alg : TimerAlgorithms μ) (heap : List (QueuedTimer μ)) :
    (uncancelled alg heap).Perm (heap.filter fun e => !e.payload.isApplicationTimer) := by
  simp only [uncancelled]
  split
  · exact alg.makeHeap_perm _
  · exact .rfl

theorem isHeap_uncancelled {heap : List (QueuedTimer μ)}
    (h : IsHeap (fun e : QueuedTimer μ => e.deadline) heap) :
    IsHeap (fun e : QueuedTimer μ => e.deadline) (uncancelled alg heap) := by
  simp only [uncancelled]
  split
  · exact alg.isHeap_makeHeap _
  · next hall =>
    rw [List.filter_sublist.eq_of_length
      (le_antisymm (List.length_filter_le _ _) (Nat.le_of_not_lt hall))]
    exact h

theorem bytesOf_uncancelled (alg : TimerAlgorithms μ) (heap : List (QueuedTimer μ)) :
    bytesOf (uncancelled alg heap) = 0 := by
  refine List.sum_eq_zero fun n hn => ?_
  obtain ⟨e, he, rfl⟩ := List.mem_map.1 hn
  have hkept := (List.mem_filter.1 ((uncancelled_perm alg heap).mem_iff.1 he)).2
  cases hpayload : e.payload with
  | applicationTimer target message =>
    rw [hpayload] at hkept
    cases hkept
  | _ => rfl

theorem cancelApplicationTimers_ok (alg : TimerAlgorithms μ) (h : Stored handed t) :
    ∃ heap', t.cancelApplicationTimers alg = .ok (t.withHeap heap') ∧
      Stored handed (t.withHeap heap') ∧ Grows t (t.withHeap heap') ∧
      heap'.length ≤ t.heap.length ∧ bytesOf heap' ≤ bytesOf t.heap := by
  have hperm := uncancelled_perm alg t.heap
  have hsub : (handed ++ uncancelled alg t.heap).Subperm (handed ++ t.heap) :=
    (hperm.append_left handed).subperm.trans (List.filter_sublist.append_left handed).subperm
  obtain ⟨hstored, hgrows⟩ := h.remain (isHeap_uncancelled h.heap) hsub
    fun e he => (List.mem_filter.1 (hperm.mem_iff.1 he)).1
  refine ⟨_, ?_, hstored, hgrows, ?_, bytesOf_uncancelled alg t.heap ▸ Nat.zero_le _⟩
  · have hfold := foldlM_discharge t.heap h.bytes.ge
    rw [h.bytes, Nat.sub_self] at hfold
    unfold cancelApplicationTimers
    rw [h.bytes, hfold, withHeap, bytesOf_uncancelled]
    exact if_pos (.inr rfl)
  · exact hperm.length_eq.trans_le (List.length_filter_le _ _)

theorem pop_ok (alg : TimerAlgorithms μ) (h : Stored handed t) {now : TimePoint}
    (hdue : t.due now = true) :
    ∃ entry heap', t.pop alg = .ok (entry, t.withHeap heap') ∧
      Stored (handed ++ [entry]) (t.withHeap heap') ∧ Grows t (t.withHeap heap') ∧
      entry ∈ t.heap ∧ entry.deadline ≤ now ∧ (∀ c ∈ t.heap, entry.deadline ≤ c.deadline) ∧
      heap'.length ≤ t.heap.length ∧ bytesOf heap' ≤ bytesOf t.heap := by
  cases hheap : t.heap with
  | nil =>
    rw [due, hheap] at hdue
    cases hdue
  | cons entry rest =>
    have hheap' := h.heap
    rw [hheap] at hheap'
    obtain ⟨heap', hpop, hperm, hrest⟩ := alg.popHeap_eq entry rest hheap'
    have hbytes : bytesOf t.heap = entry.payload.applicationBytes + bytesOf heap' := by
      rw [hheap, bytesOf, List.map_cons, List.sum_cons, ← (hperm.map _).sum_eq]
      rfl
    have hsub : (handed ++ [entry] ++ heap').Subperm (handed ++ t.heap) := by
      rw [hheap, List.append_assoc]
      exact ((hperm.cons entry).append_left handed).subperm
    have hmem : ∀ e ∈ heap', e ∈ t.heap := by
      intro e he
      rw [hheap]
      exact List.mem_cons_of_mem _ (hperm.mem_iff.1 he)
    obtain ⟨hstored, hgrows⟩ := h.remain hrest hsub hmem
    refine ⟨entry, heap', ?_, hstored, hgrows, List.mem_cons_self, ?_, ?_, ?_, ?_⟩
    · have hdischarge : discharge t.applicationTimerBytes entry.payload.applicationBytes =
          .ok (bytesOf heap') := by
        rw [h.bytes, hbytes, discharge, if_pos (Nat.le_add_right _ _), Nat.add_sub_cancel_left]
      simp only [pop, hheap, hpop, List.getLast?_append, List.getLast?_singleton, Option.some_or,
        hdischarge, List.dropLast_concat]
      rfl
    · rw [due, hheap] at hdue
      exact of_decide_eq_true hdue
    · exact hheap ▸ h.front_le hheap
    · exact hperm.length_eq.trans_le (Nat.le_succ _)
    · rw [← hheap, hbytes]
      exact Nat.le_add_left _ _

end TimerHeap

/-! ## The counters -/

namespace TimerQueue

variable {μ : Type} {q q' : TimerQueue μ} {n charge : Nat} {l : List Nat}

/-- `n` plain reservations and those of application timers with the bytes `l` are counted, and
nothing exceeds its limit. -/
structure Booked (n : Nat) (l : List Nat) (q : TimerQueue μ) : Prop where
  entries : q.heap.length + q.reservedEntries ≤ capacity
  reservedEntries : q.reservedEntries = n + l.length
  reservedApplicationTimerEntries : q.reservedApplicationTimerEntries = l.length
  reservedBytes : q.reservedApplicationTimerBytes = l.sum
  limit : q.applicationTimerBytes + q.reservedApplicationTimerBytes ≤ q.maxApplicationTimerBytes

theorem hasEntryCapacity_iff :
    q.hasEntryCapacity = true ↔ q.heap.length + q.reservedEntries < capacity := by
  simp only [hasEntryCapacity, Bool.and_eq_true, decide_eq_true_eq]
  omega

theorem hasApplicationByteCapacity_iff : q.hasApplicationByteCapacity charge = true ↔
    q.applicationTimerBytes + q.reservedApplicationTimerBytes + charge ≤
      q.maxApplicationTimerBytes := by
  simp only [hasApplicationByteCapacity, Bool.and_eq_true, decide_eq_true_eq]
  omega

theorem hasCommittedApplicationByteCapacity_iff :
    q.hasCommittedApplicationByteCapacity charge = true ↔
      q.applicationTimerBytes + charge ≤ q.maxApplicationTimerBytes := by
  simp only [hasCommittedApplicationByteCapacity, Bool.and_eq_true, decide_eq_true_eq]
  omega

/-- One more entry, of the bytes that are admitted. -/
theorem Booked.push (h : q.Booked n l) (deadline : TimePoint) {payload : TimerPayload μ}
    (hentry : q.heap.length + q.reservedEntries < capacity)
    (hbytes : q.applicationTimerBytes + q.reservedApplicationTimerBytes + payload.applicationBytes ≤
      q.maxApplicationTimerBytes) : (q.push deadline payload).Booked n l := by
  obtain ⟨_, hreserved, happlication, hsum, _⟩ := h
  refine ⟨?_, hreserved, happlication, hsum, ?_⟩
  · simp only [TimerQueue.push, List.length_cons]
    omega
  · simp only [TimerQueue.push]
    omega

theorem booked_trySchedule {deadline : TimePoint} {payload : TimerPayload μ} (h : q.Booked n l)
    (hq : q.trySchedule deadline payload = some q') :
    q' = q.push deadline payload ∧ q'.Booked n l := by
  unfold trySchedule at hq
  split at hq
  · cases hq
  next hentry =>
  split at hq
  · cases hq
  next hbytes =>
  cases hq
  refine ⟨rfl, h.push deadline (hasEntryCapacity_iff.1 (by simpa using hentry)) ?_⟩
  cases payload with
  | applicationTimer target message =>
    exact hasApplicationByteCapacity_iff.1 (by simpa [TimerPayload.isApplicationTimer] using hbytes)
  | _ => exact h.limit

theorem booked_tryReserve (h : q.Booked n l) (hq : q.tryReserve = some q') :
    q' = { q with reservedEntries := q.reservedEntries + 1 } ∧ q'.Booked (n + 1) l := by
  obtain ⟨-, hreserved, happlication, hsum, hlimit⟩ := h
  unfold tryReserve at hq
  split at hq
  · next hentry =>
    cases hq
    refine ⟨rfl, hasEntryCapacity_iff.1 hentry, ?_, happlication, hsum, hlimit⟩
    rw [hreserved, Nat.add_right_comm]
  · cases hq

theorem booked_tryReserveApplicationTimer (h : q.Booked n l)
    (hq : q.tryReserveApplicationTimer charge = some q') :
    q' = { q with
      reservedEntries := q.reservedEntries + 1
      reservedApplicationTimerEntries := q.reservedApplicationTimerEntries + 1
      reservedApplicationTimerBytes := q.reservedApplicationTimerBytes + charge } ∧
      q'.Booked n (charge :: l) := by
  obtain ⟨-, hreserved, happlication, hsum, -⟩ := h
  unfold tryReserveApplicationTimer at hq
  split at hq
  · cases hq
  next hentry =>
  split at hq
  · cases hq
  next hbytes =>
  cases hq
  have hroom : q.heap.length + q.reservedEntries < capacity :=
    hasEntryCapacity_iff.1 (by simpa using hentry)
  have hlimit := hasApplicationByteCapacity_iff.1 (by simpa using hbytes)
  have hlength : (charge :: l).length = l.length + 1 := rfl
  have hcons : (charge :: l).sum = charge + l.sum := List.sum_cons
  refine ⟨rfl, hroom, ?_, ?_, ?_, ?_⟩
  all_goals
    simp only
    omega

theorem booked_releaseReservation (h : q.Booked n l) (hn : n ≠ 0) :
    q.releaseReservation = .ok { q with reservedEntries := q.reservedEntries - 1 } ∧
      Booked (n - 1) l { q with reservedEntries := q.reservedEntries - 1 } := by
  obtain ⟨hentries, hreserved, happlication, hsum, hlimit⟩ := h
  exact ⟨if_pos (by omega), by simp only; omega, by simp only; omega, happlication, hsum, hlimit⟩

/-- A reservation is committed to an entry without bytes. -/
theorem booked_commitReserved (h : q.Booked n l) (hn : n ≠ 0) (deadline : TimePoint)
    {payload : TimerPayload μ} (hzero : payload.applicationBytes = 0) :
    ∃ q', q.commitReserved deadline payload = .ok q' ∧
      q' = { q with reservedEntries := q.reservedEntries - 1 }.push deadline payload ∧
      q'.Booked (n - 1) l := by
  have hentries := h.entries
  have hreserved := h.reservedEntries
  have hlimit := h.limit
  refine ⟨_, ?_, rfl, (booked_releaseReservation h hn).2.push deadline ?_
    (by rw [hzero]; exact hlimit)⟩
  · unfold commitReserved
    rw [if_neg (by omega), if_neg]
    rw [hzero, hasCommittedApplicationByteCapacity_iff.2 (by omega)]
    simp
  · simp only
    omega

/-- What a reservation of an application timer has counted, without it. -/
theorem booked_unreserved (h : q.Booked n l) (hcharge : charge ∈ l) :
    (0 < q.reservedEntries ∧ 0 < q.reservedApplicationTimerEntries ∧
      charge ≤ q.reservedApplicationTimerBytes) ∧
    Booked n (l.erase charge)
      { q with
        reservedEntries := q.reservedEntries - 1
        reservedApplicationTimerEntries := q.reservedApplicationTimerEntries - 1
        reservedApplicationTimerBytes := q.reservedApplicationTimerBytes - charge } := by
  obtain ⟨hentries, hreserved, happlication, hsum, hlimit⟩ := h
  have hlength := List.length_erase_of_mem hcharge
  have hpos := List.length_pos_of_mem hcharge
  have herase := List.sum_erase hcharge
  refine ⟨⟨by omega, by omega, by omega⟩, ?_, ?_, ?_, ?_, ?_⟩
  all_goals
    simp only
    omega

theorem booked_releaseApplicationTimerReservation (h : q.Booked n l) (hcharge : charge ∈ l) :
    q.releaseApplicationTimerReservation charge = .ok
      { q with
        reservedEntries := q.reservedEntries - 1
        reservedApplicationTimerEntries := q.reservedApplicationTimerEntries - 1
        reservedApplicationTimerBytes := q.reservedApplicationTimerBytes - charge } := by
  obtain ⟨⟨hentries, happlication, hbytes⟩, -⟩ := booked_unreserved h hcharge
  refine if_pos ?_
  simp only [Bool.and_eq_true, decide_eq_true_eq]
  exact ⟨⟨hentries, happlication⟩, hbytes⟩

theorem booked_commitReservedApplicationTimer (h : q.Booked n l) (deadline : TimePoint)
    (target : ActivationRef) {message : ActorEnvelope μ} (hcharge : message.chargedBytes ∈ l) :
    ∃ q', q.commitReservedApplicationTimer deadline target message message.chargedBytes = .ok q' ∧
      q' = ({ q with
        reservedEntries := q.reservedEntries - 1
        reservedApplicationTimerEntries := q.reservedApplicationTimerEntries - 1
        reservedApplicationTimerBytes :=
          q.reservedApplicationTimerBytes - message.chargedBytes }.push deadline
            (.applicationTimer target message)).record (.scheduled deadline target message) ∧
      q'.Booked n (l.erase message.chargedBytes) := by
  obtain ⟨⟨hentries, happlication, hbytes⟩, hbooked⟩ := booked_unreserved h hcharge
  have hroom := h.entries
  have hlimit := h.limit
  have hpush : Booked n (l.erase message.chargedBytes)
      (TimerQueue.push _ deadline (.applicationTimer target message)) :=
    hbooked.push deadline (by simp only; omega)
      (by simp only [TimerPayload.applicationBytes]; omega)
  refine ⟨_, if_pos ?_, rfl, hpush.entries, hpush.reservedEntries,
    hpush.reservedApplicationTimerEntries, hpush.reservedBytes, hpush.limit⟩
  simp only [Bool.and_eq_true, decide_eq_true_eq]
  exact ⟨⟨⟨⟨hentries, happlication⟩, hbytes⟩, trivial⟩,
    hasCommittedApplicationByteCapacity_iff.2 (by omega)⟩

end TimerQueue

namespace TimerHeap

variable {μ : Type} {alg : TimerAlgorithms μ} {t : TimerHeap μ} {q : TimerQueue μ} {n : Nat}
  {l : List Nat}

theorem booked_adopt (h : q.Booked n l) (hlength : q.heap.length = t.heap.length)
    (hmax : q.maxApplicationTimerBytes = t.maxApplicationTimerBytes) :
    (t.adopt q).queue.Booked n l := by
  obtain ⟨hentries, hreserved, happlication, hsum, hlimit⟩ := h
  refine ⟨?_, hreserved, happlication, hsum, hlimit.trans_eq hmax⟩
  simp only [queue, adopt, List.length_map]
  omega

theorem booked_insert (h : q.Booked n l) {deadline : TimePoint} {payload : TimerPayload μ}
    (hlength : q.heap.length = t.heap.length + 1)
    (hmax : q.maxApplicationTimerBytes = t.maxApplicationTimerBytes) :
    ((t.adopt q).insert alg deadline payload).queue.Booked n l := by
  obtain ⟨hentries, hreserved, happlication, hsum, hlimit⟩ := h
  refine ⟨?_, hreserved, happlication, hsum, hlimit.trans_eq hmax⟩
  simp only [queue, adopt, insert, List.length_map, (alg.pushHeap_perm _).length_eq,
    List.length_append, List.length_singleton]
  omega

theorem booked_withHeap (h : t.queue.Booked n l) (hbytes : t.applicationTimerBytes = bytesOf t.heap)
    {heap : List (QueuedTimer μ)} (hlength : heap.length ≤ t.heap.length)
    (hle : bytesOf heap ≤ bytesOf t.heap) : (t.withHeap heap).queue.Booked n l := by
  obtain ⟨hentries, hreserved, happlication, hsum, hlimit⟩ := h
  refine ⟨?_, hreserved, happlication, hsum, ?_⟩
  · simp only [queue, withHeap, List.length_map] at hentries ⊢
    omega
  · simp only [queue, withHeap] at hlimit ⊢
    omega

/-- The two ways to schedule an application timer are one. -/
theorem tryScheduleApplicationTimer_eq (deadline : TimePoint) (target : ActivationRef)
    (message : ActorEnvelope μ) :
    t.tryScheduleApplicationTimer alg deadline target message =
      t.trySchedule alg deadline (.applicationTimer target message) := by
  simp only [tryScheduleApplicationTimer, TimerQueue.tryScheduleApplicationTimer, trySchedule,
    TimerQueue.trySchedule, TimerPayload.isApplicationTimer, TimerPayload.applicationBytes,
    Bool.true_and]
  split
  · rfl
  split
  · rfl
  · rfl

end TimerHeap

namespace TimerRun

variable {μ : Type} {alg : TimerAlgorithms μ} {r r' : TimerRun μ}

structure Inv (r : TimerRun μ) : Prop where
  stored : r.timers.Stored r.handed
  booked : r.timers.queue.Booked r.reservations r.applicationReservations

/-- What a call of the users leaves. -/
structure Leaves (r r' : TimerRun μ) : Prop where
  inv : r'.Inv
  grows : r.timers.Grows r'.timers
  handed : r'.handed = r.handed

theorem Inv.adopt (h : r.Inv) {q : TimerQueue μ} {n : Nat} {l : List Nat} (hq : q.Booked n l)
    (hheap : q.heap = r.timers.queue.heap)
    (hmax : q.maxApplicationTimerBytes = r.timers.maxApplicationTimerBytes)
    (hbytes : q.applicationTimerBytes = r.timers.applicationTimerBytes) :
    Leaves r { r with
      timers := r.timers.adopt q, reservations := n, applicationReservations := l } where
  inv := by
    refine ⟨h.stored.adopt hbytes, TimerHeap.booked_adopt hq ?_ hmax⟩
    rw [hheap, TimerHeap.queue, List.length_map]
  grows := ⟨rfl, le_rfl, fun _ => .inl⟩
  handed := rfl

theorem Inv.insert (h : r.Inv) {q : TimerQueue μ} {n : Nat} {l : List Nat} {deadline : TimePoint}
    {payload : TimerPayload μ} (hq : q.Booked n l)
    (hheap : q.heap = ⟨deadline, payload⟩ :: r.timers.queue.heap)
    (hmax : q.maxApplicationTimerBytes = r.timers.maxApplicationTimerBytes)
    (hbytes : q.applicationTimerBytes =
      r.timers.applicationTimerBytes + payload.applicationBytes) :
    Leaves r { r with
      timers := (r.timers.adopt q).insert alg deadline payload
      reservations := n, applicationReservations := l } := by
  obtain ⟨hstored, hgrows⟩ := h.stored.insert alg deadline hbytes
  refine ⟨⟨hstored, TimerHeap.booked_insert hq ?_ hmax⟩, hgrows, rfl⟩
  rw [hheap, TimerHeap.queue, List.length_cons, List.length_map]

theorem Inv.trySchedule (h : r.Inv) (deadline : TimePoint) (payload : TimerPayload μ) :
    Leaves r { r with timers := (r.timers.trySchedule alg deadline payload).getD r.timers } := by
  unfold TimerHeap.trySchedule
  cases hq : r.timers.queue.trySchedule deadline payload with
  | none => exact ⟨h, .refl _, rfl⟩
  | some q =>
    obtain ⟨rfl, hbooked⟩ := TimerQueue.booked_trySchedule h.booked hq
    exact h.insert hbooked rfl rfl rfl

theorem yields_after {result : Except String (TimerHeap μ)} {timers : TimerHeap μ}
    {run : TimerHeap μ → TimerRun μ} {post : TimerRun μ → Prop} {fault : TimerFault → Prop}
    (hok : result = .ok timers) (hpost : post (run timers)) :
    Yields (after result run) post fault := by
  rw [hok]
  exact .ok hpost

/-- **A call keeps the invariants** and does not end the process. -/
theorem Inv.call (h : r.Inv) (c : TimerCall μ) :
    Yields (r.call alg c) (Leaves r) (· = .misused) := by
  cases c with
  | trySchedule deadline payload => exact .ok (h.trySchedule deadline payload)
  | tryScheduleApplicationTimer deadline target message =>
    simp only [TimerRun.call, TimerHeap.tryScheduleApplicationTimer_eq]
    exact .ok (h.trySchedule deadline _)
  | tryReserve =>
    simp only [TimerRun.call, TimerHeap.tryReserve]
    cases hq : r.timers.queue.tryReserve with
    | none => exact .ok ⟨h, .refl _, rfl⟩
    | some q =>
      obtain ⟨rfl, hbooked⟩ := TimerQueue.booked_tryReserve h.booked hq
      exact .ok (h.adopt hbooked rfl rfl rfl)
  | tryReserveApplicationTimer charge =>
    simp only [TimerRun.call, TimerHeap.tryReserveApplicationTimer]
    cases hq : r.timers.queue.tryReserveApplicationTimer charge with
    | none => exact .ok ⟨h, .refl _, rfl⟩
    | some q =>
      obtain ⟨rfl, hbooked⟩ := TimerQueue.booked_tryReserveApplicationTimer h.booked hq
      exact .ok (h.adopt hbooked rfl rfl rfl)
  | releaseReservation =>
    refine .ite (fun _ => .error rfl) fun hn => ?_
    obtain ⟨hok, hbooked⟩ := TimerQueue.booked_releaseReservation h.booked hn
    exact yields_after (congrArg (Except.map _) hok) (h.adopt hbooked rfl rfl rfl)
  | commitReserved deadline payload =>
    refine .ite (fun _ => .error rfl) fun hallowed => ?_
    obtain ⟨hn, hzero⟩ := not_or.1 hallowed
    obtain ⟨_, hok, rfl, hbooked⟩ :=
      TimerQueue.booked_commitReserved h.booked hn deadline (not_not.1 hzero)
    exact yields_after (congrArg (Except.map _) hok) (h.insert hbooked rfl rfl rfl)
  | releaseApplicationTimerReservation charge =>
    refine .ite (fun _ => .error rfl) fun hcharge => ?_
    have hok := TimerQueue.booked_releaseApplicationTimerReservation h.booked (not_not.1 hcharge)
    have hbooked := (TimerQueue.booked_unreserved h.booked (not_not.1 hcharge)).2
    exact yields_after (congrArg (Except.map _) hok) (h.adopt hbooked rfl rfl rfl)
  | commitReservedApplicationTimer deadline target message charge =>
    refine .ite (fun _ => .error rfl) fun hallowed => ?_
    obtain ⟨hcharge, hmessage⟩ := not_or.1 hallowed
    obtain rfl := not_not.1 hmessage
    obtain ⟨_, hok, rfl, hbooked⟩ := TimerQueue.booked_commitReservedApplicationTimer h.booked
      deadline target (not_not.1 hcharge)
    exact yields_after (congrArg (Except.map _) hok) (h.insert hbooked rfl rfl rfl)
  | cancelApplicationTimers =>
    obtain ⟨heap', hok, hstored, hgrows, hlength, hbytes⟩ :=
      TimerHeap.cancelApplicationTimers_ok alg h.stored
    refine yields_after hok ⟨⟨hstored, ?_⟩, hgrows, rfl⟩
    exact TimerHeap.booked_withHeap h.booked h.stored.bytes hlength hbytes

theorem Leaves.trans {r'' : TimerRun μ} (h : Leaves r r') (h' : Leaves r' r'') : Leaves r r'' where
  inv := h'.inv
  grows := h.grows.trans h'.grows
  handed := h'.handed.trans h.handed

theorem Inv.calls (h : r.Inv) (cs : List (TimerCall μ)) :
    Yields (cs.foldlM (TimerRun.call alg) r) (Leaves r) (· = .misused) :=
  Yields.foldlM (fun _ c ha => (ha.inv.call c).mono (fun _ hb => ha.trans hb) fun _ he => he) cs r
    ⟨h, .refl _, rfl⟩

/-! ## Expiry -/

/-- A call of `expire` that handed over the entries `new`, in this order. -/
structure Expired (now : TimePoint) (r r' : TimerRun μ) (dueItemsRemain : Bool)
    (new : List (QueuedTimer μ)) : Prop where
  grows : r.timers.Grows r'.timers
  handed : r'.handed = r.handed ++ new
  due : ∀ e ∈ new, e.deadline ≤ now
  origin : ∀ e ∈ new, e ∈ r.timers.heap ∨ r.timers.issued ≤ e.number
  ordered : new.Pairwise fun a b => b ∈ r.timers.heap → a.deadline ≤ b.deadline
  remain : dueItemsRemain = true ↔ ∃ e ∈ r'.timers.heap, e.deadline ≤ now

variable {now : TimePoint} {dueItemsRemain : Bool} {new : List (QueuedTimer μ)}
  {entry : QueuedTimer μ}

theorem Expired.nil (hremain : dueItemsRemain = true ↔ ∃ e ∈ r.timers.heap, e.deadline ≤ now) :
    Expired now r r dueItemsRemain [] where
  grows := .refl _
  handed := (List.append_nil _).symm
  due := List.forall_mem_nil _
  origin := List.forall_mem_nil _
  ordered := .nil
  remain := hremain

/-- An entry comes before those that its call, and the handler's calls, leave for later. -/
theorem Expired.cons {middle : TimerRun μ} (h : Expired now middle r' dueItemsRemain new)
    (hinv : r.Inv) (hgrows : r.timers.Grows middle.timers)
    (hhanded : middle.handed = r.handed ++ [entry]) (hmem : entry ∈ r.timers.heap)
    (hdue : entry.deadline ≤ now) (hleast : ∀ c ∈ r.timers.heap, entry.deadline ≤ c.deadline) :
    Expired now r r' dueItemsRemain (entry :: new) where
  grows := hgrows.trans h.grows
  handed := by rw [h.handed, hhanded, List.append_assoc, List.singleton_append]
  due := List.forall_mem_cons.2 ⟨hdue, h.due⟩
  origin := by
    refine List.forall_mem_cons.2 ⟨.inl hmem, fun e he => ?_⟩
    rcases h.origin e he with hold | hnew
    · exact hgrows.heap e hold
    · exact .inr (hgrows.issued.trans hnew)
  ordered := by
    refine List.pairwise_cons.2 ⟨fun b _ hb => hleast b hb, h.ordered.imp_of_mem ?_⟩
    intro a b _ hb hle hstart
    -- an entry of the start that is handed over later is still there
    refine hle ((h.origin b hb).resolve_right fun hnew => ?_)
    have hlt := hinv.stored.issued b (List.mem_append_right _ hstart)
    exact Nat.not_le_of_lt hlt (hgrows.issued.trans hnew)
  remain := h.remain

/-- What a call of `expire` promises. -/
def Expires (now : TimePoint) (r : TimerRun μ) (expired : Nat) (p : TimerRun μ × ExpireResult) :
    Prop :=
  p.1.Inv ∧ ∃ new, Expired now r p.1 p.2.dueItemsRemain new ∧ p.2.expired = expired + new.length

theorem Inv.expireLoop {maxDuration : Nat} {script : List (List (TimerCall μ))}
    {elapsed : List Nat} (remaining expired : Nat) (h : r.Inv) :
    Yields (expireLoop alg now maxDuration script elapsed remaining expired r)
      (Expires now r expired) (· = .misused) := by
  induction remaining generalizing expired r with
  | zero =>
    unfold TimerRun.expireLoop
    refine .ite (fun hdue => .ok ⟨h, [], .nil ?_, rfl⟩) fun hdue => .ok ⟨h, [], .nil ?_, rfl⟩
    · have hdue : r.timers.due now = false := by simpa using hdue
      rw [← h.stored.due_iff, hdue]
    · have hdue : r.timers.due now = true := by simpa using hdue
      rw [← h.stored.due_iff, hdue]
  | succ remaining ih =>
    unfold TimerRun.expireLoop
    refine .ite (fun hdue => .ok ⟨h, [], .nil ?_, rfl⟩) fun hdue => ?_
    · have hdue : r.timers.due now = false := by simpa using hdue
      rw [← h.stored.due_iff, hdue]
    have hdue : r.timers.due now = true := by simpa using hdue
    obtain ⟨entry, heap', hpop, hstored, hgrows, hmem, hle, hleast, hlength, hbytes⟩ :=
      TimerHeap.pop_ok alg h.stored hdue
    rw [hpop]
    have hpopped : Inv { r with
        timers := r.timers.withHeap heap', handed := r.handed ++ [entry] } :=
      ⟨hstored, TimerHeap.booked_withHeap h.booked h.stored.bytes hlength hbytes⟩
    refine (hpopped.calls _).bind fun middle hmiddle => ?_
    have hgrows' := hgrows.trans hmiddle.grows
    refine .ite (fun _ => .ok ⟨hmiddle.inv, [entry], ?_, rfl⟩) fun _ => ?_
    · exact (Expired.nil hmiddle.inv.stored.due_iff).cons h hgrows' hmiddle.handed hmem hle hleast
    · refine (ih (expired + 1) hmiddle.inv).mono (fun p hp => ?_) fun _ he => he
      obtain ⟨hinv, new, hnew, hcount⟩ := hp
      refine ⟨hinv, entry :: new, hnew.cons h hgrows' hmiddle.handed hmem hle hleast, ?_⟩
      rw [hcount, List.length_cons]
      omega

end TimerRun

/-! ## Runs -/

inductive TimerAction (μ : Type) where
  | call (c : TimerCall μ)
  | expire (now : TimePoint) (budget : CountTimeBudget) (script : List (List (TimerCall μ)))
      (elapsed : List Nat)

def TimerRun.perform {μ : Type} (alg : TimerAlgorithms μ) (r : TimerRun μ) :
    TimerAction μ → Except TimerFault (TimerRun μ)
  | .call c => r.call alg c
  | .expire now budget script elapsed => (r.expire alg now budget script elapsed).map (·.1)

def timerMachine {μ : Type} (alg : TimerAlgorithms μ) (maxApplicationTimerBytes : Nat) :
    Machine (TimerRun μ) (TimerAction μ) where
  init r := r = { timers := { maxApplicationTimerBytes := maxApplicationTimerBytes } }
  step r action := (r.perform alg action).toOption

/-- What holds of the queue at any time, and of the next call. -/
structure TimerRun.Sound {μ : Type} (alg : TimerAlgorithms μ) (maxApplicationTimerBytes : Nat)
    (r : TimerRun μ) : Prop where
  front : ∀ e rest, r.timers.heap = e :: rest → ∀ c ∈ r.timers.heap, e.deadline ≤ c.deadline
  entries : r.timers.heap.length + r.timers.reservedEntries ≤ TimerQueue.capacity
  reservedEntries : r.timers.reservedEntries = r.reservations + r.applicationReservations.length
  bytes : r.timers.applicationTimerBytes = TimerHeap.bytesOf r.timers.heap
  reservedBytes : r.timers.reservedApplicationTimerBytes = r.applicationReservations.sum
  limit : r.timers.applicationTimerBytes + r.timers.reservedApplicationTimerBytes ≤
    maxApplicationTimerBytes
  once : ((r.handed ++ r.timers.heap).map (·.number)).Nodup
  alive : ∀ action, r.perform alg action ≠ .error .terminated
  expires : ∀ now budget script elapsed r' result,
    r.expire alg now budget script elapsed = .ok (r', result) →
    ∃ new, TimerRun.Expired now r r' result.dueItemsRemain new ∧ result.expired = new.length

namespace TimerRun

variable {μ : Type} {alg : TimerAlgorithms μ} {r r' : TimerRun μ} {maxApplicationTimerBytes : Nat}

theorem Inv.expire (alg : TimerAlgorithms μ) (h : r.Inv) (now : TimePoint)
    (budget : CountTimeBudget) (script : List (List (TimerCall μ))) (elapsed : List Nat) :
    Yields (r.expire alg now budget script elapsed) (Expires now r 0) (· = .misused) :=
  h.expireLoop budget.maxCount 0

/-- **An action keeps the invariants** and does not end the process. -/
theorem Inv.perform (alg : TimerAlgorithms μ) (h : r.Inv) (action : TimerAction μ) :
    Yields (r.perform alg action) (fun r' => r'.Inv ∧ r.timers.Grows r'.timers) (· = .misused) := by
  cases action with
  | call c => exact (h.call c).mono (fun _ hleaves => ⟨hleaves.inv, hleaves.grows⟩) fun _ he => he
  | expire now budget script elapsed =>
    refine ((h.expire alg now budget script elapsed).mono (fun p hp => ?_) fun _ he => he).map
    obtain ⟨hinv, new, hexpired, -⟩ := hp
    exact ⟨hinv, hexpired.grows⟩

theorem Inv.sound (h : r.Inv)
    (hmax : r.timers.maxApplicationTimerBytes = maxApplicationTimerBytes) :
    r.Sound alg maxApplicationTimerBytes where
  front e rest hheap := h.stored.front_le hheap
  entries := by simpa [TimerHeap.queue] using h.booked.entries
  reservedEntries := h.booked.reservedEntries
  bytes := h.stored.bytes
  reservedBytes := h.booked.reservedBytes
  limit := h.booked.limit.trans_eq hmax
  once := h.stored.numbers
  alive action hterminated := by
    have hyields := h.perform alg action
    rw [hterminated] at hyields
    cases hyields
  expires now budget script elapsed r' result hok := by
    have hyields := h.expire alg now budget script elapsed
    rw [hok] at hyields
    obtain ⟨-, new, hexpired, hcount⟩ := hyields
    exact ⟨new, hexpired, hcount.trans (Nat.zero_add _)⟩

end TimerRun

/-- **The timer queue is sound at any time**, for any heap functions that keep the contract of
the standard library and whatever its users and handlers do. -/
theorem timerQueue_sound {μ : Type} {alg : TimerAlgorithms μ} {maxApplicationTimerBytes : Nat}
    {r : TimerRun μ}
    (h : (timerMachine alg maxApplicationTimerBytes).Reach (fun _ _ => True) r) :
    r.Sound alg maxApplicationTimerBytes := by
  have hinv := h.invariant (P := fun r : TimerRun μ =>
    r.Inv ∧ r.timers.maxApplicationTimerBytes = maxApplicationTimerBytes) ?_ ?_
  · exact hinv.1.sound hinv.2
  · intro r hinit
    subst hinit
    refine ⟨⟨⟨?_, rfl, .nil, List.forall_mem_nil _⟩, ⟨?_, rfl, rfl, rfl, Nat.zero_le _⟩⟩, rfl⟩
    · intro i p c hp
      cases hp
    · exact Nat.zero_le _
  · intro r action r' _ hr _ hstep
    have hyields := hr.1.perform alg action
    simp only [timerMachine] at hstep
    cases hperform : r.perform alg action with
    | error fault =>
      rw [hperform] at hstep
      cases hstep
    | ok after =>
      rw [hperform] at hstep hyields
      cases hstep
      exact ⟨hyields.1, hyields.2.limit.trans hr.2⟩

/-- A timer that schedules another due one while it expires, an application timer that is
committed from a reservation, and a deadline that is not due. -/
theorem timerQueue_sound_expiry : ∃ r : TimerRun Nat,
    r.Sound (.sorting _) 100 ∧ r.handed.map (·.deadline) = [3, 5, 4] ∧
      r.timers.heap.map (·.deadline) = [9] := by
  obtain ⟨r, hr, htest⟩ := (timerMachine (.sorting _) 100).exists_reach_of_replay
    (fun _ _ => True) rfl
    [.call (.tryReserveApplicationTimer 40),
      .call (.trySchedule 9 (.connectionCloseDeadline ⟨0, 1⟩)),
      .call (.trySchedule 3 (.connectionCloseDeadline ⟨1, 2⟩)),
      .call (.commitReservedApplicationTimer 5 ⟨⟨.player, 7⟩, 1⟩ ⟨0, 40⟩ 40),
      .expire 6 ⟨10, 1⟩ [[.tryReserve, .releaseReservation],
        [.trySchedule 4 (.connectionCloseDeadline ⟨2, 3⟩)]] []]
    (fun r => r.handed.map (·.deadline) = [3, 5, 4] ∧ r.timers.heap.map (·.deadline) = [9])
    (by decide +kernel)
  exact ⟨r, timerQueue_sound hr, of_decide_eq_true htest⟩

end Snf.Worker
