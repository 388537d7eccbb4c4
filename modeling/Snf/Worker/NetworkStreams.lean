import Snf.Worker.NetworkMoves

/-! # The byte streams of a connection

Whatever the budgets, the sockets and the sink answer, the frames posted for a connection are
those its received bytes decode to, and the bytes sent on it are those its accepted frames
encode to. The work queues and the flags in the slots say the same, so a connection with work
left is found by the loop that does it.
-/

namespace Snf.Worker.WorkerNetwork

open Snf.Protocol Snf.Lib

variable {s s' t : WorkerNetwork} {slot slot' : ConnectionSlot} {handle other : ConnectionHandle}

/-! ## Queues and generations -/

theorem QueueMove.keeps {queue queue' : ConnectionWorkQueue} {flag flag' : Bool}
    (h : QueueMove handle queue queue' flag flag') (hnodup : queue.items.Nodup)
    (hflag : flag = true ↔ handle ∈ queue.items) :
    queue'.items.Nodup ∧ (flag' = true ↔ handle ∈ queue'.items) ∧
      (∀ other, other ≠ handle → (other ∈ queue'.items ↔ other ∈ queue.items)) ∧
      ∀ other ∈ queue'.items, other = handle ∨ other ∈ queue.items := by
  cases h with
  | kept hqueue hflags =>
    rw [hqueue, hflags]
    exact ⟨hnodup, hflag, fun _ _ => Iff.rfl, fun _ hmem => .inr hmem⟩
  | pushed hitems _ hfalse htrue =>
    have hnot : handle ∉ queue.items := by
      rw [← hflag, hfalse]
      nofun
    rw [hitems]
    refine ⟨?_, ?_, ?_, ?_⟩
    · rw [List.nodup_append]
      refine ⟨hnodup, List.nodup_singleton _, ?_⟩
      intro a ha b hb heq
      rw [List.mem_singleton.1 hb] at heq
      exact hnot (heq ▸ ha)
    · exact iff_of_true htrue (List.mem_append_right _ (List.mem_singleton.2 rfl))
    · intro other hne
      rw [List.mem_append, List.mem_singleton]
      exact or_iff_left hne
    · intro other hmem
      rw [List.mem_append, List.mem_singleton] at hmem
      exact hmem.symm
  | popped hitems _ hfalse =>
    rw [hitems, List.nodup_cons] at hnodup
    refine ⟨hnodup.2, iff_of_false (by rw [hfalse]; nofun) hnodup.1, ?_, ?_⟩
    · intro other hne
      rw [hitems, List.mem_cons]
      exact (or_iff_right hne).symm
    · intro other hmem
      rw [hitems]
      exact .inr (List.mem_cons_of_mem _ hmem)

/-- Live connections have generations of their own, and each is in a work queue, once, exactly
when its slot says so. -/
structure Queues (s : WorkerNetwork) : Prop where
  distinct : ∀ handle handle' slot slot', s.find handle = some slot →
    s.find handle' = some slot' → handle.generation = handle'.generation → handle = handle'
  bound : ∀ handle slot, s.find handle = some slot →
    handle.generation ≤ s.connections.lastGeneration
  readFlag : ∀ slot, s.find slot.handle = some slot →
    (slot.readQueued = true ↔ slot.handle ∈ s.readQueue.items)
  writeFlag : ∀ slot, s.find slot.handle = some slot →
    (slot.writeQueued = true ↔ slot.handle ∈ s.writeQueue.items)
  readNodup : s.readQueue.items.Nodup
  writeNodup : s.writeQueue.items.Nodup
  readBound : ∀ handle ∈ s.readQueue.items, handle.generation ≤ s.connections.lastGeneration
  writeBound : ∀ handle ∈ s.writeQueue.items, handle.generation ≤ s.connections.lastGeneration

namespace Queues

theorem ne_of_ne (h : Queues s) (hslot : s.find slot.handle = some slot)
    (hslot' : s.find slot'.handle = some slot') (hne : slot'.handle ≠ slot.handle) :
    slot'.handle.generation ≠ slot.handle.generation := by
  intro heq
  exact hne (h.distinct _ _ _ _ hslot' hslot heq)

theorem changed (h : Queues s) (hc : Changed s s' slot slot') : Queues s' := by
  obtain ⟨hreadNodup, hreadFlag, hreadOther, hreadMem⟩ :=
    hc.readQueue.keeps h.readNodup (h.readFlag slot hc.live)
  obtain ⟨hwriteNodup, hwriteFlag, hwriteOther, hwriteMem⟩ :=
    hc.writeQueue.keeps h.writeNodup (h.writeFlag slot hc.live)
  have hlast := hc.beside.last
  -- whatever is found now was found before, under the same handle
  have hbefore : ∀ handle found, s'.find handle = some found → ∃ old, s.find handle = some old := by
    intro handle found hfound
    rw [hc.found] at hfound
    split at hfound
    · next heq => exact ⟨slot, heq ▸ hc.live⟩
    · exact ⟨found, hfound⟩
  constructor
  · intro handle handle' found found' hfound hfound'
    obtain ⟨old, hold⟩ := hbefore _ _ hfound
    obtain ⟨old', hold'⟩ := hbefore _ _ hfound'
    exact h.distinct _ _ _ _ hold hold'
  · intro handle found hfound
    obtain ⟨old, hold⟩ := hbefore _ _ hfound
    rw [hlast]
    exact h.bound _ _ hold
  · intro found hfound
    rw [hc.found] at hfound
    split at hfound
    · cases hfound
      rw [hc.handle]
      exact hreadFlag
    · next hne => exact (h.readFlag found hfound).trans (hreadOther _ hne).symm
  · intro found hfound
    rw [hc.found] at hfound
    split at hfound
    · cases hfound
      rw [hc.handle]
      exact hwriteFlag
    · next hne => exact (h.writeFlag found hfound).trans (hwriteOther _ hne).symm
  · exact hreadNodup
  · exact hwriteNodup
  · intro handle hmem
    rw [hlast]
    rcases hreadMem handle hmem with rfl | hmem
    · exact h.bound _ _ hc.live
    · exact h.readBound handle hmem
  · intro handle hmem
    rw [hlast]
    rcases hwriteMem handle hmem with rfl | hmem
    · exact h.bound _ _ hc.live
    · exact h.writeBound handle hmem

theorem closed {reason : CloseReason} {cause : CloseCause} (h : Queues s)
    (hc : Closed s s' slot reason cause) : Queues s' := by
  have hbefore : ∀ handle found, s'.find handle = some found → s.find handle = some found := by
    intro handle found hfound
    rw [hc.found] at hfound
    split at hfound
    · cases hfound
    · exact hfound
  have hlast := hc.beside.last
  refine ⟨?_, ?_, ?_, ?_, ?_, ?_, ?_, ?_⟩
  · intro handle handle' found found' hfound hfound'
    exact h.distinct _ _ _ _ (hbefore _ _ hfound) (hbefore _ _ hfound')
  · intro handle found hfound
    rw [hlast]
    exact h.bound _ _ (hbefore _ _ hfound)
  · intro found hfound
    rw [hc.readQueue]
    exact h.readFlag found (hbefore _ _ hfound)
  · intro found hfound
    rw [hc.writeQueue]
    exact h.writeFlag found (hbefore _ _ hfound)
  · exact hc.readQueue ▸ h.readNodup
  · exact hc.writeQueue ▸ h.writeNodup
  · rw [hc.readQueue, hlast]
    exact h.readBound
  · rw [hc.writeQueue, hlast]
    exact h.writeBound

theorem stopped (h : Queues s) (hs : Stopped s s') : Queues s' := by
  obtain ⟨table, hsame⟩ := hs.same
  have hwrite : s'.writeQueue = s.writeQueue := by rw [hsame]
  have hread : s'.readQueue.items = [] := by rw [hs.readQueue]; rfl
  refine ⟨?_, ?_, ?_, ?_, ?_, ?_, ?_, ?_⟩
  · intro handle handle' found found' hfound hfound'
    obtain ⟨old, hold, -⟩ := hs.found _ _ hfound
    obtain ⟨old', hold', -⟩ := hs.found _ _ hfound'
    exact h.distinct _ _ _ _ hold hold'
  · intro handle found hfound
    obtain ⟨old, hold, -⟩ := hs.found _ _ hfound
    rw [hs.last]
    exact h.bound _ _ hold
  · intro found hfound
    obtain ⟨old, hold, heq⟩ := hs.found _ _ hfound
    have hhandle : found.handle = old.handle := by rw [heq]; rfl
    have hold' : s.find old.handle = some old := hhandle ▸ hold
    rw [hread]
    refine iff_of_false ?_ List.not_mem_nil
    intro hflag
    rw [heq] at hflag
    dsimp only at hflag
    split at hflag
    · cases hflag
    · next hnot => exact hnot (hhandle ▸ (h.readFlag old hold').1 hflag)
  · intro found hfound
    obtain ⟨old, hold, heq⟩ := hs.found _ _ hfound
    have hhandle : found.handle = old.handle := by rw [heq]; rfl
    have hold' : s.find old.handle = some old := hhandle ▸ hold
    have hflag : found.writeQueued = old.writeQueued := by rw [heq]
    rw [hflag, hhandle, hwrite]
    exact h.writeFlag old hold'
  · rw [hread]
    exact List.nodup_nil
  · exact hwrite ▸ h.writeNodup
  · rw [hread]
    exact fun _ hmem => absurd hmem List.not_mem_nil
  · rw [hwrite, hs.last]
    exact h.writeBound

theorem move (h : Queues s) (hm : Move s s') : Queues s' := by
  cases hm with
  | changed hc => exact h.changed hc
  | closed hc => exact h.closed hc
  | turned _ _ =>
    exact ⟨h.distinct, h.bound, h.readFlag, h.writeFlag, h.readNodup, h.writeNodup, h.readBound,
      h.writeBound⟩
  | @skippedRead handle queue hnone hitems hcapacity =>
    have hnodup := h.readNodup
    rw [hitems, List.nodup_cons] at hnodup
    refine ⟨h.distinct, h.bound, ?_, h.writeFlag, hnodup.2, h.writeNodup, ?_, h.writeBound⟩
    · intro slot hslot
      refine (h.readFlag slot hslot).trans ?_
      rw [hitems, List.mem_cons]
      refine or_iff_right ?_
      rintro rfl
      rw [show s.find slot.handle = some slot from hslot] at hnone
      cases hnone
    · intro other hmem
      exact h.readBound other (hitems ▸ List.mem_cons_of_mem _ hmem)
  | @skippedWrite handle queue hnone hitems hcapacity =>
    have hnodup := h.writeNodup
    rw [hitems, List.nodup_cons] at hnodup
    refine ⟨h.distinct, h.bound, h.readFlag, ?_, h.readNodup, hnodup.2, h.readBound, ?_⟩
    · intro slot hslot
      refine (h.writeFlag slot hslot).trans ?_
      rw [hitems, List.mem_cons]
      refine or_iff_right ?_
      rintro rfl
      rw [show s.find slot.handle = some slot from hslot] at hnone
      cases hnone
    · intro other hmem
      exact h.writeBound other (hitems ▸ List.mem_cons_of_mem _ hmem)
  | stopped hs => exact h.stopped hs

/-- A new connection is in no queue and no other has its generation. -/
theorem accepted {table : ConnectionTable} (h : Queues s)
    (hr : ConnectionTable.Reserved s.connections table slot) :
    Queues { s with connections := table } := by
  obtain ⟨reference, hslot, hgeneration⟩ := hr.created
  have hnew : slot.handle.generation = s.connections.lastGeneration + 1 := by
    rw [hslot]
    exact hgeneration
  have hfound : ∀ handle found,
      find { s with connections := table } handle = some found →
      (handle = slot.handle ∧ found = slot) ∨ s.find handle = some found := by
    intro handle found hfind
    have hfind : table.find handle = some found := hfind
    rw [hr.found] at hfind
    split at hfind
    · next heq => exact .inl ⟨heq, (Option.some.inj hfind).symm⟩
    · exact .inr hfind
  refine ⟨?_, ?_, ?_, ?_, h.readNodup, h.writeNodup, ?_, ?_⟩
  · intro handle handle' found found' hfind hfind' heq
    rcases hfound _ _ hfind with ⟨hhandle, -⟩ | hold <;>
      rcases hfound _ _ hfind' with ⟨hhandle', -⟩ | hold'
    · exact hhandle.trans hhandle'.symm
    · rw [hhandle, hnew] at heq
      exact absurd (heq.trans_le (h.bound _ _ hold')) (Nat.not_succ_le_self _)
    · rw [hhandle', hnew] at heq
      exact absurd (heq.symm.trans_le (h.bound _ _ hold)) (Nat.not_succ_le_self _)
    · exact h.distinct _ _ _ _ hold hold' heq
  · intro handle found hfind
    show handle.generation ≤ table.lastGeneration
    rw [hr.generation]
    rcases hfound _ _ hfind with ⟨rfl, -⟩ | hold
    · exact hnew.le
    · exact (h.bound _ _ hold).trans (Nat.le_succ _)
  · intro found hfind
    rcases hfound _ _ hfind with ⟨-, rfl⟩ | hold
    · refine iff_of_false (by rw [hslot]; nofun) ?_
      intro hmem
      exact absurd (hnew.symm.trans_le (h.readBound _ hmem)) (Nat.not_succ_le_self _)
    · exact h.readFlag found hold
  · intro found hfind
    rcases hfound _ _ hfind with ⟨-, rfl⟩ | hold
    · refine iff_of_false (by rw [hslot]; nofun) ?_
      intro hmem
      exact absurd (hnew.symm.trans_le (h.writeBound _ hmem)) (Nat.not_succ_le_self _)
    · exact h.writeFlag found hold
  · intro handle hmem
    show handle.generation ≤ table.lastGeneration
    rw [hr.generation]
    exact (h.readBound _ hmem).trans (Nat.le_succ _)
  · intro handle hmem
    show handle.generation ≤ table.lastGeneration
    rw [hr.generation]
    exact (h.writeBound _ hmem).trans (Nat.le_succ _)

theorem initial (id : WorkerId) (capacity : Nat) (limits : ConnectionLimits) :
    Queues (.initial id capacity limits) := by
  have hnone : ∀ handle, find (.initial id capacity limits) handle = none := fun _ => rfl
  refine ⟨?_, ?_, ?_, ?_, List.nodup_nil, List.nodup_nil, ?_, ?_⟩
  · intro handle handle' slot slot' hslot
    rw [hnone] at hslot
    cases hslot
  · intro handle slot hslot
    rw [hnone] at hslot
    cases hslot
  · intro slot hslot
    rw [hnone] at hslot
    cases hslot
  · intro slot hslot
    rw [hnone] at hslot
    cases hslot
  · exact fun _ hmem => absurd hmem List.not_mem_nil
  · exact fun _ hmem => absurd hmem List.not_mem_nil

end Queues

/-! ## The streams along a run -/

/-- The logs of one connection, whether it lives or not. -/
structure Told (s : WorkerNetwork) (generation : ConnectionGeneration) : Prop where
  split : ∃ rest, Splits frameParser (filed generation s.received).flatten
    (filed generation s.posted) rest
  written : ∃ encoded, (filed generation s.accepted).mapM encodeFrame = .ok encoded ∧
    (filed generation s.sent).flatten <+: encoded.flatten

/-- The logs of one connection are as they were. -/
structure SameLogs (s s' : WorkerNetwork) (generation : ConnectionGeneration) : Prop where
  received : filed generation s'.received = filed generation s.received
  posted : filed generation s'.posted = filed generation s.posted
  accepted : filed generation s'.accepted = filed generation s.accepted
  sent : filed generation s'.sent = filed generation s.sent

theorem Told.same {generation : ConnectionGeneration} (h : Told s generation)
    (hlogs : SameLogs s s' generation) : Told s' generation := by
  constructor
  · rw [hlogs.received, hlogs.posted]
    exact h.split
  · rw [hlogs.accepted, hlogs.sent]
    exact h.written

theorem Beside.logs {generation : ConnectionGeneration} (h : Beside s s' handle)
    (hne : generation ≠ handle.generation) : SameLogs s s' generation :=
  ⟨h.received _ hne, h.posted _ hne, h.accepted _ hne, h.sent _ hne⟩

theorem Closed.logs {reason : CloseReason} {cause : CloseCause}
    (h : Closed s s' slot reason cause) (generation : ConnectionGeneration) :
    SameLogs s s' generation :=
  ⟨by rw [h.received], by rw [h.posted], by rw [h.accepted], by rw [h.sent]⟩

/-- What the bytes of a connection were when the code found fault with them. -/
structure Ended (s : WorkerNetwork) (closed : ConnectionClosed) : Prop where
  decodeError : closed.cause = .decodeError → ∃ rest error,
    Splits frameParser (filed closed.handle.generation s.received).flatten
      (filed closed.handle.generation s.posted) rest ∧ nextFrame rest = .fail error
  readBufferFull : closed.cause = .readBufferFull → ∃ rest,
    Splits frameParser (filed closed.handle.generation s.received).flatten
      (filed closed.handle.generation s.posted) rest ∧
      nextFrame rest = .more ∧ s.connections.limits.maxReadBufferBytes ≤ rest.length

theorem Ended.same {closed : ConnectionClosed} (h : Ended s closed)
    (hlogs : SameLogs s s' closed.handle.generation)
    (hlimits : s'.connections.limits = s.connections.limits) : Ended s' closed := by
  constructor
  · rw [hlogs.received, hlogs.posted]
    exact h.decodeError
  · rw [hlogs.received, hlogs.posted, hlimits]
    exact h.readBufferFull

/-- Every connection is in order, and so are the logs of those that are gone. -/
structure InOrder (s : WorkerNetwork) : Prop where
  queues : Queues s
  fed : ∀ slot, s.find slot.handle = some slot → Fed s slot
  flows : ∀ slot, s.find slot.handle = some slot → Flows s slot
  awake : ∀ slot, s.find slot.handle = some slot → Awake s slot
  told : ∀ generation, Told s generation
  fresh : ∀ generation, s.connections.lastGeneration < generation →
    filed generation s.received = [] ∧ filed generation s.posted = [] ∧
      filed generation s.accepted = [] ∧ filed generation s.sent = []
  gone : ∀ closed ∈ s.closed, closed.handle.generation ≤ s.connections.lastGeneration ∧
    ∀ slot, s.find slot.handle = some slot → slot.handle.generation ≠ closed.handle.generation
  ended : ∀ closed ∈ s.closed, Ended s closed

/-- What belongs to another connection stays in order. -/
theorem Fed.beside (h : Fed s slot) (hbeside : Beside s s' handle) (hne : slot.handle ≠ handle)
    (hlogs : SameLogs s s' slot.handle.generation) : Fed s' slot :=
  h.congr rfl (fun hopen => hopen) rfl (fun _ => rfl) (hbeside.reads _ hne) hbeside.stopping
    hlogs.received hlogs.posted

theorem Flows.beside (h : Flows s slot) (hbeside : Beside s s' handle)
    (hlogs : SameLogs s s' slot.handle.generation) : Flows s' slot :=
  h.congr rfl rfl h.watched hbeside.limits hlogs.accepted hlogs.sent

theorem Awake.beside (h : Awake s slot) (hbeside : Beside s s' handle)
    (hne : slot.handle ≠ handle) : Awake s' slot := by
  intro hpending
  rcases h hpending with hwriting | hqueued
  · exact .inl ((hbeside.writing _ hne).2 hwriting)
  · exact .inr hqueued

namespace InOrder

theorem changed (h : InOrder s) (hc : Changed s s' slot slot') : InOrder s' := by
  have hbound := h.queues.bound _ _ hc.live
  have hlast := hc.beside.last
  have hother : ∀ found, s'.find found.handle = some found → found.handle ≠ slot.handle →
      s.find found.handle = some found ∧
        SameLogs s s' found.handle.generation := by
    intro found hfound hne
    rw [hc.found, if_neg hne] at hfound
    exact ⟨hfound, hc.beside.logs (h.queues.ne_of_ne hc.live hfound hne)⟩
  have hself : ∀ found, s'.find found.handle = some found → found.handle = slot.handle →
      found = slot' := by
    intro found hfound heq
    rw [hc.found, if_pos heq, Option.some.injEq] at hfound
    exact hfound.symm
  have hfed := hc.fed (h.fed _ hc.live)
  have hflows := hc.flows (h.flows _ hc.live)
  refine ⟨h.queues.changed hc, ?_, ?_, ?_, ?_, ?_, ?_, ?_⟩
  · intro found hfound
    by_cases heq : found.handle = slot.handle
    · rw [hself found hfound heq]
      exact hfed
    · obtain ⟨hold, hlogs⟩ := hother found hfound heq
      exact (h.fed found hold).beside hc.beside heq hlogs
  · intro found hfound
    by_cases heq : found.handle = slot.handle
    · rw [hself found hfound heq]
      exact hflows
    · obtain ⟨hold, hlogs⟩ := hother found hfound heq
      exact (h.flows found hold).beside hc.beside hlogs
  · intro found hfound
    by_cases heq : found.handle = slot.handle
    · rw [hself found hfound heq]
      exact hc.awake (h.awake _ hc.live)
    · obtain ⟨hold, -⟩ := hother found hfound heq
      exact (h.awake found hold).beside hc.beside heq
  · intro generation
    by_cases heq : generation = slot.handle.generation
    · subst heq
      constructor
      · cases hopen : slot'.isOpen with
        | true => exact ⟨_, hc.handle ▸ hfed.split hopen⟩
        | false =>
          obtain ⟨hreceived, hposted⟩ := hc.quiet hopen
          rw [hreceived, hposted]
          exact (h.told _).split
      · obtain ⟨encoded, hencoded, hflat⟩ := hflows.written
        rw [hc.handle] at hencoded hflat
        exact ⟨encoded, hencoded, _, hflat.symm⟩
    · exact (h.told generation).same (hc.beside.logs heq)
  · intro generation hgeneration
    rw [hlast] at hgeneration
    have hlogs := hc.beside.logs (Nat.ne_of_gt (hbound.trans_lt hgeneration))
    rw [hlogs.received, hlogs.posted, hlogs.accepted, hlogs.sent]
    exact h.fresh generation hgeneration
  · intro closed hmem
    rw [hc.closed] at hmem
    obtain ⟨hle, hne⟩ := h.gone closed hmem
    refine ⟨hlast ▸ hle, ?_⟩
    intro found hfound
    by_cases heq : found.handle = slot.handle
    · rw [heq]
      exact hne slot hc.live
    · exact hne found (hother found hfound heq).1
  · intro closed hmem
    rw [hc.closed] at hmem
    exact (h.ended closed hmem).same (hc.beside.logs ((h.gone closed hmem).2 slot hc.live).symm)
      hc.beside.limits

/-- The bytes that the code found fault with are those of the log. -/
theorem ended_of_justified {reason : CloseReason} {cause : CloseCause} (h : InOrder s)
    (hlive : s.find slot.handle = some slot) (hjustified : Justified s slot reason cause) :
    Ended s { handle := slot.handle, reason := reason, cause := cause } := by
  constructor
  · intro hcause
    have hcause : cause = .decodeError := hcause
    rw [hcause] at hjustified
    obtain ⟨-, hopen, e, hfail⟩ := hjustified
    exact ⟨_, e, (h.fed slot hlive).split hopen, hfail⟩
  · intro hcause
    have hcause : cause = .readBufferFull := hcause
    rw [hcause] at hjustified
    obtain ⟨-, hopen, hmore, hfull⟩ := hjustified
    exact ⟨_, (h.fed slot hlive).split hopen, hmore, hfull⟩

theorem closed {reason : CloseReason} {cause : CloseCause} (h : InOrder s)
    (hc : Closed s s' slot reason cause) : InOrder s' := by
  have hlast := hc.beside.last
  have hother : ∀ found, s'.find found.handle = some found →
      s.find found.handle = some found ∧ found.handle ≠ slot.handle := by
    intro found hfound
    rw [hc.found] at hfound
    split at hfound
    · cases hfound
    · next hne => exact ⟨hfound, hne⟩
  have hclosed : ∀ closed, closed ∈ s'.closed → closed ∈ s.closed ∨
      closed = { handle := slot.handle, reason := reason, cause := cause } := by
    intro closed hmem
    rw [hc.closed, List.mem_append, List.mem_singleton] at hmem
    exact hmem
  refine ⟨h.queues.closed hc, ?_, ?_, ?_, ?_, ?_, ?_, ?_⟩
  · intro found hfound
    obtain ⟨hold, hne⟩ := hother found hfound
    exact (h.fed found hold).beside hc.beside hne (hc.logs _)
  · intro found hfound
    obtain ⟨hold, hne⟩ := hother found hfound
    exact (h.flows found hold).beside hc.beside (hc.logs _)
  · intro found hfound
    obtain ⟨hold, hne⟩ := hother found hfound
    exact (h.awake found hold).beside hc.beside hne
  · intro generation
    exact (h.told generation).same (hc.logs _)
  · rw [hlast, hc.received, hc.posted, hc.accepted, hc.sent]
    exact h.fresh
  · intro closed hmem
    rcases hclosed closed hmem with hmem | rfl
    · obtain ⟨hle, hne⟩ := h.gone closed hmem
      exact ⟨hlast ▸ hle, fun found hfound => hne found (hother found hfound).1⟩
    · refine ⟨hlast ▸ h.queues.bound _ _ hc.live, ?_⟩
      intro found hfound
      obtain ⟨hold, hne⟩ := hother found hfound
      exact h.queues.ne_of_ne hc.live hold hne
  · intro closed hmem
    rcases hclosed closed hmem with hmem | rfl
    · exact (h.ended closed hmem).same (hc.logs _) hc.beside.limits
    · exact (h.ended_of_justified hc.live hc.justified).same (hc.logs _) hc.beside.limits

theorem stopped (h : InOrder s) (hs : Stopped s s') : InOrder s' := by
  obtain ⟨table, hsame⟩ := hs.same
  have hlogs : ∀ generation, SameLogs s s' generation := by
    intro generation
    rw [hsame]
    exact ⟨rfl, rfl, rfl, rfl⟩
  have hold : ∀ found, s'.find found.handle = some found → ∃ old,
      s.find old.handle = some old ∧ found.handle = old.handle ∧ found.decoder = old.decoder ∧
        found.isOpen = old.isOpen ∧ found.writeBuffer = old.writeBuffer ∧
        found.writeQueued = old.writeQueued ∧ found.waitingEpollout = old.waitingEpollout ∧
        found.interest.write = old.waitingEpollout := by
    intro found hfound
    obtain ⟨old, hold, heq⟩ := hs.found _ _ hfound
    have hhandle : found.handle = old.handle := by rw [heq]; rfl
    refine ⟨old, hhandle ▸ hold, hhandle, ?_⟩
    rw [heq]
    exact ⟨rfl, rfl, rfl, rfl, rfl, rfl⟩
  refine ⟨h.queues.stopped hs, ?_, ?_, ?_, ?_, ?_, ?_, ?_⟩
  · intro found hfound
    obtain ⟨old, hlive, hhandle, hdecoder, hopen, -⟩ := hold found hfound
    constructor
    · intro hopen'
      rw [hhandle, hdecoder, (hlogs _).received, (hlogs _).posted]
      exact (h.fed old hlive).split (hopen ▸ hopen')
    · intro _ _ _ hstopping
      rw [hs.stopping] at hstopping
      cases hstopping
  · intro found hfound
    obtain ⟨old, hlive, hhandle, -, -, hbuffer, -, hwaiting, hinterest⟩ := hold found hfound
    exact (h.flows old hlive).congr hhandle hbuffer
      (fun hflag => hinterest.trans (hwaiting.symm.trans hflag)) hs.limits (hlogs _).accepted
      (hlogs _).sent
  · intro found hfound hpending
    obtain ⟨old, hlive, hhandle, -, -, hbuffer, hqueued, hwaiting, -⟩ := hold found hfound
    have hwriting : s'.writing = s.writing := by rw [hsame]
    rw [hwriting, hhandle, hqueued, hwaiting]
    refine h.awake old hlive ?_
    unfold ConnectionSlot.hasPendingWrite at hpending ⊢
    exact hbuffer ▸ hpending
  · exact fun generation => (h.told generation).same (hlogs _)
  · intro generation hgeneration
    rw [(hlogs _).received, (hlogs _).posted, (hlogs _).accepted, (hlogs _).sent]
    exact h.fresh generation (hs.last ▸ hgeneration)
  · intro closed hmem
    have hmem : closed ∈ s.closed := by rw [hsame] at hmem; exact hmem
    obtain ⟨hle, hne⟩ := h.gone closed hmem
    refine ⟨hs.last ▸ hle, ?_⟩
    intro found hfound
    obtain ⟨old, hlive, hhandle, -⟩ := hold found hfound
    rw [hhandle]
    exact hne old hlive
  · intro closed hmem
    have hmem : closed ∈ s.closed := by rw [hsame] at hmem; exact hmem
    exact (h.ended closed hmem).same (hlogs _) hs.limits

/-- The table and the logs are as they were. -/
theorem sameTable (h : InOrder s) (hqueues : Queues s') (hlogs : ∀ g, SameLogs s s' g)
    (hconnections : s'.connections = s.connections) (hclosed : s'.closed = s.closed)
    (hstopping : s'.networkStopping = s.networkStopping)
    (hreads : ∀ slot, s.find slot.handle = some slot → slot.isOpen = true →
      (s'.Reads slot.handle ↔ s.Reads slot.handle))
    (hwriting : ∀ slot, s.find slot.handle = some slot → s.writing = some slot.handle →
      s'.writing = some slot.handle) : InOrder s' := by
  have hfind : ∀ handle, s'.find handle = s.find handle := by
    intro handle
    unfold find
    rw [hconnections]
  refine ⟨hqueues, ?_, ?_, ?_, fun g => (h.told g).same (hlogs g), ?_, ?_, ?_⟩
  · intro slot hslot
    rw [hfind] at hslot
    have hfed := h.fed slot hslot
    constructor
    · intro hopen
      rw [(hlogs _).received, (hlogs _).posted]
      exact hfed.split hopen
    · intro hopen hqueued hnot hnotStopping
      refine hfed.awake hopen hqueued ?_ (hstopping ▸ hnotStopping)
      exact fun hold => hnot ((hreads slot hslot hopen).2 hold)
  · intro slot hslot
    rw [hfind] at hslot
    have hflows := h.flows slot hslot
    exact hflows.congr rfl rfl hflows.watched (by rw [hconnections]) (hlogs _).accepted
      (hlogs _).sent
  · intro slot hslot hpending
    rw [hfind] at hslot
    rcases h.awake slot hslot hpending with hold | hqueued
    · exact .inl (hwriting slot hslot hold)
    · exact .inr hqueued
  · intro g hg
    rw [(hlogs _).received, (hlogs _).posted, (hlogs _).accepted, (hlogs _).sent]
    exact h.fresh g (hconnections ▸ hg)
  · intro closed hmem
    obtain ⟨hle, hne⟩ := h.gone closed (hclosed ▸ hmem)
    exact ⟨hconnections ▸ hle, fun slot hslot => hne slot (hfind _ ▸ hslot)⟩
  · intro closed hmem
    exact (h.ended closed (hclosed ▸ hmem)).same (hlogs _) (by rw [hconnections])

/-- **One move keeps every connection in order.** -/
theorem move (h : InOrder s) (hm : Move s s') : InOrder s' := by
  have hqueues := h.queues.move hm
  cases hm with
  | changed hc => exact h.changed hc
  | closed hc => exact h.closed hc
  | turned hreads hwriting =>
    exact h.sameTable hqueues (fun _ => ⟨rfl, rfl, rfl, rfl⟩) rfl rfl rfl hreads hwriting
  | skippedRead _ _ _ =>
    exact h.sameTable hqueues (fun _ => ⟨rfl, rfl, rfl, rfl⟩) rfl rfl rfl (fun _ _ _ => Iff.rfl)
      (fun _ _ hwriting => hwriting)
  | skippedWrite _ _ _ =>
    exact h.sameTable hqueues (fun _ => ⟨rfl, rfl, rfl, rfl⟩) rfl rfl rfl (fun _ _ _ => Iff.rfl)
      (fun _ _ hwriting => hwriting)
  | stopped hs => exact h.stopped hs

theorem moves (h : InOrder s) (hm : Moves s s') : InOrder s' := by
  induction hm with
  | refl => exact h
  | tail _ hmove ih => exact ih.move hmove

theorem accepted {table : ConnectionTable} (h : InOrder s)
    (hr : ConnectionTable.Reserved s.connections table slot) :
    InOrder { s with connections := table } := by
  obtain ⟨reference, hslot, hgeneration⟩ := hr.created
  have hnew : slot.handle.generation = s.connections.lastGeneration + 1 := by
    rw [hslot]
    exact hgeneration
  obtain ⟨hreceived, hposted, haccepted, hsent⟩ :=
    h.fresh slot.handle.generation (hnew ▸ Nat.lt_succ_self _)
  have hfound : ∀ found, find { s with connections := table } found.handle = some found →
      found = slot ∨ s.find found.handle = some found := by
    intro found hfind
    have hfind : table.find found.handle = some found := hfind
    rw [hr.found] at hfind
    split at hfind
    · exact .inl (Option.some.inj hfind).symm
    · exact .inr hfind
  have hempty : slot.decoder.remaining = [] := by rw [hslot]; rfl
  have hpending : slot.writeBuffer.pending = [] := by rw [hslot]; rfl
  refine ⟨h.queues.accepted hr, ?_, ?_, ?_, ?_, ?_, ?_, ?_⟩
  · intro found hfind
    rcases hfound found hfind with rfl | hold
    · refine ⟨fun _ => ?_, fun _ _ _ _ => ?_⟩
      · show Splits frameParser (filed found.handle.generation s.received).flatten
          (filed found.handle.generation s.posted) found.decoder.remaining
        rw [hreceived, hposted, hempty]
        exact .nil
      · rw [hempty]
        rfl
    · have hfed := h.fed found hold
      exact ⟨hfed.split, hfed.awake⟩
  · intro found hfind
    rcases hfound found hfind with rfl | hold
    · refine ⟨⟨[], ?_, ?_⟩, ?_, ?_, ?_⟩
      · show (filed found.handle.generation s.accepted).mapM encodeFrame = .ok []
        rw [haccepted]
        rfl
      · show [] = (filed found.handle.generation s.sent).flatten ++ found.writeBuffer.pending
        rw [hsent, hpending]
        rfl
      · rw [hslot]
        exact ⟨rfl, Nat.zero_le _⟩
      · show found.writeBuffer.hardLimit = table.limits.writeHardLimitBytes
        rw [hr.limits, hslot]
        rfl
      · rw [hslot]
        nofun
    · have hflows := h.flows found hold
      exact hflows.congr rfl rfl hflows.watched hr.limits rfl rfl
  · intro found hfind hwrite
    rcases hfound found hfind with rfl | hold
    · rw [hslot] at hwrite
      cases hwrite
    · exact h.awake found hold hwrite
  · exact fun generation => (h.told generation).same ⟨rfl, rfl, rfl, rfl⟩
  · intro generation hlt
    refine h.fresh generation ?_
    have hlt : table.lastGeneration < generation := hlt
    rw [hr.generation] at hlt
    exact Nat.lt_of_succ_lt hlt
  · intro closed hmem
    obtain ⟨hle, hne⟩ := h.gone closed hmem
    refine ⟨?_, ?_⟩
    · show closed.handle.generation ≤ table.lastGeneration
      rw [hr.generation]
      exact hle.trans (Nat.le_succ _)
    · intro found hfind
      rcases hfound found hfind with rfl | hold
      · rw [hnew]
        exact (Nat.lt_succ_of_le hle).ne'
      · exact hne found hold
  · exact fun closed hmem => (h.ended closed hmem).same ⟨rfl, rfl, rfl, rfl⟩ hr.limits

theorem initial (id : WorkerId) (capacity : Nat) (limits : ConnectionLimits) :
    InOrder (.initial id capacity limits) := by
  have hnone : ∀ slot : ConnectionSlot,
      find (.initial id capacity limits) slot.handle ≠ some slot := by
    intro slot hslot
    rw [show find (.initial id capacity limits) slot.handle = none from rfl] at hslot
    cases hslot
  refine ⟨.initial id capacity limits, ?_, ?_, ?_, ?_, ?_, ?_, ?_⟩
  · exact fun slot hslot => absurd hslot (hnone slot)
  · exact fun slot hslot => absurd hslot (hnone slot)
  · exact fun slot hslot => absurd hslot (hnone slot)
  · exact fun _ => ⟨⟨[], .nil⟩, [], rfl, List.prefix_rfl⟩
  · exact fun _ _ => ⟨rfl, rfl, rfl, rfl⟩
  · exact fun _ hmem => absurd hmem List.not_mem_nil
  · exact fun _ hmem => absurd hmem List.not_mem_nil

end InOrder

/-- **Every run keeps every connection in order.** -/
theorem inOrder_of_reach {guard : WorkerNetwork → NetworkAction → Prop}
    (h : networkRuns.Reach guard s) : InOrder s := by
  refine h.invariant ?_ ?_
  · rintro s ⟨id, capacity, limits, -, rfl⟩
    exact .initial id capacity limits
  · intro s action s' _ hs _ hstep
    rcases step_moves hstep with ⟨-, table, slot, hreserved, rfl⟩ | hmoves
    · exact hs.accepted hreserved
    · exact hs.moves hmoves

/-! ## A connection that is not open -/

/-- The generation was handed out, and no open connection has it. -/
structure Silent (s : WorkerNetwork) (generation : ConnectionGeneration) : Prop where
  issued : generation ≤ s.connections.lastGeneration
  closed : ∀ slot, s.find slot.handle = some slot → slot.isOpen = true →
    slot.handle.generation ≠ generation

theorem Silent.move {generation : ConnectionGeneration} (h : Silent s generation)
    (hm : Move s s') :
    Silent s' generation ∧ filed generation s'.received = filed generation s.received ∧
      filed generation s'.posted = filed generation s.posted := by
  cases hm with
  | @changed _ slot slot' hc =>
    refine ⟨⟨hc.beside.last ▸ h.issued, ?_⟩, ?_⟩
    · intro found hfound hopen
      rw [hc.found] at hfound
      split at hfound
      · cases hfound
        rw [hc.handle]
        exact h.closed slot hc.live (hc.opened hopen)
      · exact h.closed found hfound hopen
    · by_cases heq : generation = slot.handle.generation
      · subst heq
        cases hopen : slot'.isOpen with
        | true => exact absurd rfl (h.closed slot hc.live (hc.opened hopen))
        | false => exact hc.quiet hopen
      · exact ⟨hc.beside.received _ heq, hc.beside.posted _ heq⟩
  | @closed _ slot reason cause hc =>
    refine ⟨⟨hc.beside.last ▸ h.issued, ?_⟩, by rw [hc.received], by rw [hc.posted]⟩
    intro found hfound hopen
    rw [hc.found] at hfound
    split at hfound
    · cases hfound
    · exact h.closed found hfound hopen
  | turned _ _ => exact ⟨⟨h.issued, h.closed⟩, rfl, rfl⟩
  | skippedRead _ _ _ => exact ⟨⟨h.issued, h.closed⟩, rfl, rfl⟩
  | skippedWrite _ _ _ => exact ⟨⟨h.issued, h.closed⟩, rfl, rfl⟩
  | stopped hs =>
    obtain ⟨table, hsame⟩ := hs.same
    refine ⟨⟨hs.last ▸ h.issued, ?_⟩, by rw [hsame], by rw [hsame]⟩
    intro found hfound hopen
    obtain ⟨old, hold, heq⟩ := hs.found _ _ hfound
    have hhandle : found.handle = old.handle := by rw [heq]; rfl
    have hopen' : found.isOpen = old.isOpen := by rw [heq]; rfl
    rw [hhandle]
    exact h.closed old (hhandle ▸ hold) (hopen' ▸ hopen)

theorem Silent.moves {generation : ConnectionGeneration} (h : Silent s generation)
    (hm : Moves s s') :
    Silent s' generation ∧ filed generation s'.received = filed generation s.received ∧
      filed generation s'.posted = filed generation s.posted := by
  induction hm with
  | refl => exact ⟨h, rfl, rfl⟩
  | tail _ hmove ih =>
    obtain ⟨hsilent, hreceived, hposted⟩ := ih
    obtain ⟨hsilent', hreceived', hposted'⟩ := hsilent.move hmove
    exact ⟨hsilent', hreceived'.trans hreceived, hposted'.trans hposted⟩

/-- One step of the network. -/
def Steps (s s' : WorkerNetwork) : Prop := ∃ action, s.step action = some s'

theorem Silent.step {generation : ConnectionGeneration} (h : Silent s generation)
    (hstep : Steps s s') :
    Silent s' generation ∧ filed generation s'.received = filed generation s.received ∧
      filed generation s'.posted = filed generation s.posted := by
  obtain ⟨action, hstep⟩ := hstep
  rcases step_moves hstep with ⟨-, table, slot, hr, rfl⟩ | hmoves
  · obtain ⟨reference, hslot, hgeneration⟩ := hr.created
    refine ⟨⟨?_, ?_⟩, rfl, rfl⟩
    · show generation ≤ table.lastGeneration
      rw [hr.generation]
      exact h.issued.trans (Nat.le_succ _)
    · intro found hfind hopen
      have hfind : table.find found.handle = some found := hfind
      rw [hr.found] at hfind
      split at hfind
      · next heq =>
        rw [heq, hslot]
        show reference.generation ≠ generation
        rw [hgeneration]
        exact (Nat.lt_succ_of_le h.issued).ne'
      · exact h.closed found hfind hopen
  · exact h.moves hmoves

/-- **A connection that is not open is never read again.** -/
theorem Silent.run {generation : ConnectionGeneration} (h : Silent s generation)
    (hrun : Relation.ReflTransGen Steps s s') :
    Silent s' generation ∧ filed generation s'.received = filed generation s.received ∧
      filed generation s'.posted = filed generation s.posted := by
  induction hrun with
  | refl => exact ⟨h, rfl, rfl⟩
  | tail _ hstep ih =>
    obtain ⟨hsilent, hreceived, hposted⟩ := ih
    obtain ⟨hsilent', hreceived', hposted'⟩ := hsilent.step hstep
    exact ⟨hsilent', hreceived'.trans hreceived, hposted'.trans hposted⟩

/-- A frame that the sink refuses is the end of its connection. -/
theorem find_postReturns {result : Adapter.RequestPostResult} (h : result ≠ .accepted) :
    (s.postReturns handle result).find handle = none := by
  have hclosed : ∀ reason, (s.endRead handle reason .postRefused).find handle = none := by
    intro reason
    unfold endRead forceClose
    split
    · assumption
    · exact (ConnectionTable.find_release _ _ _).trans (if_pos rfl)
  cases result with
  | accepted => exact absurd rfl h
  | invalid => exact hclosed _
  | rejected => exact hclosed _

/-! ## Incoming frames -/

/-- **The incoming stream.** The posted frames are the decoded received bytes, in order and each
once; an open connection that is neither queued nor being read has nothing left to decode; a
connection closed for its bytes was closed at the first fault in them; a refused frame closes
the connection, and after it is no longer open nothing is posted for it. -/
theorem incoming_frame_stream (h : networkRuns.Reach (fun _ _ => True) s) :
    (∀ generation, ∃ rest, Splits frameParser (filed generation s.received).flatten
        (filed generation s.posted) rest) ∧
      (∀ handle slot, s.find handle = some slot → slot.isOpen = true →
        Splits frameParser (filed handle.generation s.received).flatten
          (filed handle.generation s.posted) slot.decoder.remaining ∧
        (nextFrame slot.decoder.remaining = .more ∨ handle ∈ s.readQueue.items ∨
          s.Reads handle ∨ s.networkStopping = true)) ∧
      (∀ closed ∈ s.closed, Ended s closed ∧ Silent s closed.handle.generation) ∧
      (∀ handle result, s.reading = .posting handle → result ≠ .accepted →
        (s.postReturns handle result).find handle = none) ∧
      ∀ generation, Silent s generation → ∀ s', Relation.ReflTransGen Steps s s' →
        filed generation s'.posted = filed generation s.posted := by
  have hs := inOrder_of_reach h
  refine ⟨fun generation => (hs.told generation).split, ?_, ?_, ?_, ?_⟩
  · intro handle slot hslot hopen
    obtain rfl := handle_of_find hslot
    have hfed := hs.fed slot hslot
    refine ⟨hfed.split hopen, ?_⟩
    by_cases hmem : slot.handle ∈ s.readQueue.items
    · exact .inr (.inl hmem)
    by_cases hreads : s.Reads slot.handle
    · exact .inr (.inr (.inl hreads))
    by_cases hstopping : s.networkStopping = true
    · exact .inr (.inr (.inr hstopping))
    have hflag : slot.readQueued = false := by
      rw [← Bool.not_eq_true, hs.queues.readFlag slot hslot]
      exact hmem
    exact .inl (hfed.awake hopen hflag hreads (Bool.not_eq_true _ ▸ hstopping))
  · intro closed hmem
    obtain ⟨hissued, hne⟩ := hs.gone closed hmem
    exact ⟨hs.ended closed hmem, hissued, fun slot hslot _ => hne slot hslot⟩
  · intro handle result _ hresult
    exact find_postReturns hresult
  · intro generation hsilent s' hrun
    exact (hsilent.run hrun).2.2

/-- Small limits, for runs that can be followed by hand. -/
def smallLimits : ConnectionLimits where
  maxReadBufferBytes := 16
  writeSoftWatermarkBytes := 16
  writeHardLimitBytes := 32
  readable := by decide
  soft := by decide
  ordered := by decide

/-- A frame that arrives in two chunks and the beginning of the next one, with the budget used
up in between. -/
theorem incoming_frame_stream_chunks :
    ∃ s, networkRuns.Reach (fun _ _ => True) s ∧
      s.posted = [(1, { type := 1, requestId := 9, payload := [] })] ∧
      ∃ rest, Splits frameParser (filed 1 s.received).flatten (filed 1 s.posted) rest := by
  obtain ⟨s, hs, ht⟩ := networkRuns.exists_reach_of_replay (fun _ _ => True)
    (s := .initial 0 1 smallLimits) ⟨0, 1, smallLimits, by decide, rfl⟩
    [.accept, .poll ⟨0, 1⟩ { readable := true }, .beginRead,
      .readRound { receiveSize := 8, receive := .bytes [0, 0, 0, 6, 0, 1, 0, 0] },
      .readRound { outOfBytes := true }, .beginRead,
      .readRound { receiveSize := 8, receive := .bytes [0, 9, 0, 0] },
      .readRound { expired := true }, .beginRead, .readRound {}, .postReturns .accepted,
      .readRound { receiveSize := 8 }]
    (fun s => s.posted = [(1, { type := 1, requestId := 9, payload := [] })] ∧
      s.reading = .idle) (by decide +kernel)
  simp only [Bool.decide_and, Bool.and_eq_true, decide_eq_true_eq] at ht
  exact ⟨s, hs, ht.1, (incoming_frame_stream hs).1 1⟩

/-! ## Outgoing bytes -/

/-- **The outgoing stream.** The bytes sent on a connection begin the encodings of its accepted
frames, in order; what is queued on a live connection is the rest of them and keeps the hard
limit; and a connection with bytes to write is in the write queue or waits for the socket with
write interest registered, unless the flush loop is at it. -/
theorem outgoing_byte_stream (h : networkRuns.Reach (fun _ _ => True) s) :
    (∀ generation, ∃ encoded,
        (filed generation s.accepted).mapM encodeFrame = .ok encoded ∧
          (filed generation s.sent).flatten <+: encoded.flatten) ∧
      ∀ handle slot, s.find handle = some slot →
        (∃ encoded, (filed handle.generation s.accepted).mapM encodeFrame = .ok encoded ∧
          encoded.flatten = (filed handle.generation s.sent).flatten ++ slot.writeBuffer.pending) ∧
        slot.writeBuffer.queuedBytes = slot.writeBuffer.pending.length ∧
        slot.writeBuffer.queuedBytes ≤ s.connections.limits.writeHardLimitBytes ∧
        (slot.writeBuffer.pending ≠ [] → s.writing ≠ some handle →
          handle ∈ s.writeQueue.items ∨
            slot.waitingEpollout = true ∧ slot.interest.write = true) := by
  have hs := inOrder_of_reach h
  refine ⟨fun generation => (hs.told generation).written, ?_⟩
  intro handle slot hslot
  obtain rfl := handle_of_find hslot
  have hflows := hs.flows slot hslot
  refine ⟨hflows.written, hflows.exact.counted, hflows.limit ▸ hflows.exact.bounded, ?_⟩
  intro hpending hwriting
  have hwrite : slot.hasPendingWrite = true := by
    unfold ConnectionSlot.hasPendingWrite
    rw [Bool.not_eq_true', ← Bool.not_eq_true]
    exact fun hempty => hpending (WriteBuffer.pending_eq_nil.2 hempty)
  rcases hs.awake slot hslot hwrite with hold | hqueued | hwaiting
  · exact absurd hold hwriting
  · exact .inl ((hs.queues.writeFlag slot hslot).1 hqueued)
  · exact .inr ⟨hwaiting, hflows.watched hwaiting⟩

/-- Two frames of which the socket takes the first and a part of the second. -/
theorem outgoing_byte_stream_partial :
    ∃ s, networkRuns.Reach (fun _ _ => True) s ∧
      s.sent = [(1, [0, 0, 0, 6]), (1, [0, 2, 0, 0, 0, 1]), (1, [0, 0])] ∧
      ∃ encoded, (filed 1 s.accepted).mapM encodeFrame = .ok encoded ∧
        (filed 1 s.sent).flatten <+: encoded.flatten := by
  obtain ⟨s, hs, ht⟩ := networkRuns.exists_reach_of_replay (fun _ _ => True)
    (s := .initial 0 1 smallLimits) ⟨0, 1, smallLimits, by decide, rfl⟩
    [.accept, .sendLocal ⟨0, 1, 0⟩ { type := 2, requestId := 1, payload := [] } true,
      .sendLocal ⟨0, 1, 0⟩ { type := 2, requestId := 2, payload := [] } true,
      .beginFlush, .flushRound false (.bytes 4), .flushRound false .wouldBlock,
      .poll ⟨0, 1⟩ { writable := true }, .beginFlush, .flushRound false (.bytes 6),
      .flushRound false (.bytes 2), .flushRound true .interrupted]
    (fun s => s.sent = [(1, [0, 0, 0, 6]), (1, [0, 2, 0, 0, 0, 1]), (1, [0, 0])] ∧
      s.writing = none) (by decide +kernel)
  simp only [Bool.decide_and, Bool.and_eq_true, decide_eq_true_eq] at ht
  exact ⟨s, hs, ht.1, (outgoing_byte_stream hs).1 1⟩

end Snf.Worker.WorkerNetwork
