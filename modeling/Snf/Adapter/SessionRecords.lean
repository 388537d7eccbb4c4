import Snf.Lib.Machine
import Snf.Adapter.GameRequestSink

/-! # The session records of a request sink

The map of sessions, the array of records and the counters are kept by hand in every call,
and receipts arrive inside of some of them. In every run they agree, and the notice of a
closed connection is kept until its receipt.
-/

namespace Snf.Adapter

open Snf.Game Snf.Worker Snf.Lib

/-- What an assignment to one place of an array leaves at another. -/
theorem getElem?_set_cases {α : Type} {l : List α} {i j : Nat} {a b : α}
    (h : (l.set i a)[j]? = some b) : j = i ∧ b = a ∨ j ≠ i ∧ l[j]? = some b := by
  by_cases hij : i = j
  · subst hij
    rw [List.getElem?_set_self'] at h
    cases hl : l[i]? with
    | none => simp [hl] at h
    | some c => exact .inl ⟨rfl, by simpa [hl] using h.symm⟩
  · rw [List.getElem?_set_ne hij] at h
    exact .inr ⟨Ne.symm hij, h⟩

namespace GameRequestSink

variable {sink sink' sink'' : GameRequestSink} {connection : ConnectionRef}
  {receipt : ClosedReceipt} {record : SessionRecord} {session : Session} {index : Nat}
  {player : PlayerId}

def isClosing (record : SessionRecord) : Bool := record.state = .closing

/-- The sessions, the records and the counters say the same. -/
structure Agreed (sink : GameRequestSink) : Prop where
  length : sink.records.length = maxTrackedSessions
  /-- The entry of a session points to a Tracked record of the same connection and player. -/
  session : ∀ id session, sink.sessions.lookup id = some session →
    sink.records[session.recordIndex]? = some
      { state := .tracked, connection := ⟨id, session.generation, sink.worker⟩
        player := session.player }
  /-- Every Tracked record is pointed to by the entry of its connection. -/
  tracked : ∀ index record, sink.records[index]? = some record → record.state = .tracked →
    sink.sessions.lookup record.connection.id =
      some ⟨record.connection.generation, record.player, index⟩
  pending : sink.pendingCloses = sink.records.countP isClosing
  live : sink.liveSessions = sink.sessions.entries.length
  deadline : 0 < sink.pendingCloses → sink.nextRetryDeadline.isSome = true
  cursor : sink.retryCursor < maxTrackedSessions

/-! ## Receipts -/

/-- A Closing record is freed. -/
theorem Agreed.free (h : Agreed sink) (hr : sink.records[index]? = some record)
    (hs : record.state = .closing) :
    Agreed { sink with
      records := sink.records.set index {}
      pendingCloses := sink.pendingCloses - 1
      nextRetryDeadline := if sink.pendingCloses - 1 = 0 then none else sink.nextRetryDeadline } := by
  obtain ⟨hlt, hget⟩ := List.getElem?_eq_some_iff.1 hr
  refine ⟨by simpa using h.length, ?_, ?_, ?_, h.live, ?_, h.cursor⟩
  · intro id session hl
    have hold := h.session id session hl
    by_cases hi : index = session.recordIndex
    · rw [hi, hold] at hr
      obtain rfl := Option.some.inj hr
      cases hs
    · simp only [List.getElem?_set_ne hi]
      exact hold
  · intro j other hj ht
    rcases getElem?_set_cases hj with ⟨-, rfl⟩ | ⟨-, hj⟩
    · cases ht
    · exact h.tracked j other hj ht
  · simp only [List.countP_set hlt, hget, h.pending]
    simp [isClosing, hs]
  · intro hpos
    have hne : ¬ sink.pendingCloses - 1 = 0 := Nat.ne_of_gt hpos
    simp only [if_neg hne]
    exact h.deadline (by omega)

/-- What the receipts of `answers` can do to a sink. -/
structure Answered (answers : ClosedReceipt → Prop) (sink sink' : GameRequestSink) : Prop where
  worker : sink'.worker = sink.worker
  sessions : sink'.sessions = sink.sessions
  agreed : Agreed sink → Agreed sink'
  /-- A Closing record stays, or a receipt for its connection and player is among them. -/
  kept : ∀ (index : Nat) (record : SessionRecord), sink.records[index]? = some record →
    record.state = .closing →
    sink'.records[index]? = some record ∨
      ∃ receipt, answers receipt ∧ receipt.connection = record.connection ∧
        receipt.key = playerKey record.player

section Answered

variable {answers : ClosedReceipt → Prop} {receipts : List ClosedReceipt}

theorem Answered.refl : Answered answers sink sink :=
  ⟨rfl, rfl, id, fun _ _ h _ => .inl h⟩

theorem Answered.trans (h : Answered answers sink sink') (h' : Answered answers sink' sink'') :
    Answered answers sink sink'' := by
  refine ⟨h'.worker.trans h.worker, h'.sessions.trans h.sessions,
    fun ha => h'.agreed (h.agreed ha), ?_⟩
  intro index record hr hs
  rcases h.kept index record hr hs with hkept | hanswer
  · exact h'.kept index record hkept hs
  · exact .inr hanswer

theorem answered_receipt (ha : answers receipt) :
    Answered answers sink (sink.onActorConnectionClosedReceipt receipt) := by
  unfold onActorConnectionClosedReceipt
  split
  · exact .refl
  · split
    · exact .refl
    · split
      · exact .refl
      · next index hfind =>
        obtain ⟨hlt, hfor, -⟩ := List.findIdx?_eq_some_iff_getElem.1 hfind
        have hrecord := List.getElem?_eq_getElem hlt
        simp only [ClosedReceipt.isFor, Bool.and_eq_true, decide_eq_true_eq] at hfor
        obtain ⟨⟨hclosing, hconnection⟩, hkey⟩ := hfor
        refine ⟨rfl, rfl, fun h => h.free hrecord hclosing, ?_⟩
        intro j other hj hs
        by_cases hi : index = j
        · subst hi
          rw [hrecord] at hj
          obtain rfl := Option.some.inj hj
          exact .inr ⟨receipt, ha, hconnection.symm, hkey.symm⟩
        · left
          simp only [List.getElem?_set_ne hi]
          exact hj

theorem answered_notify (ha : ∀ receipt ∈ receipts, answers receipt) :
    Answered answers sink (sink.notifyActorConnectionClosed receipts) := by
  unfold notifyActorConnectionClosed
  induction receipts generalizing sink with
  | nil => exact .refl
  | cons receipt rest ih =>
    rw [List.foldl_cons]
    have hfirst : Answered answers sink (sink.onActorConnectionClosedReceipt receipt) :=
      answered_receipt (ha receipt List.mem_cons_self)
    exact hfirst.trans (ih fun r hr => ha r (List.mem_cons_of_mem _ hr))

/-- The next round of a pass starts at the next record. -/
theorem answered_cursor : Answered answers sink
    { sink with retryCursor := (sink.retryCursor + 1) % maxTrackedSessions } :=
  ⟨rfl, rfl, fun h => ⟨h.length, h.session, h.tracked, h.pending, h.live, h.deadline,
    Nat.mod_lt _ (by decide)⟩, fun _ _ h _ => .inl h⟩

theorem answered_retryScan {budget : CountTimeBudget} {limit : Nat} {rounds : Nat → RetryRound}
    (ha : ∀ k, ∀ receipt ∈ (rounds k).receipts, answers receipt) (left : Nat) :
    Answered answers sink (retryScan budget limit rounds left sink) := by
  induction left generalizing sink with
  | zero => exact .refl
  | succ left ih =>
    unfold retryScan
    dsimp only
    split
    · exact .refl
    · split
      · exact .refl
      · split
        · split
          · exact (answered_cursor.trans (answered_notify (ha _))).trans ih
          · exact answered_cursor.trans ih
        · exact answered_cursor.trans ih

/-- The deadline of the next pass, if there is anything left for it. -/
theorem answered_deadline {deadline : TimePoint} (h : Answered answers sink sink') :
    Answered answers sink { sink' with
      nextRetryDeadline := if sink'.pendingCloses > 0 then some deadline else none } := by
  refine ⟨h.worker, h.sessions, fun ha => ?_, h.kept⟩
  have ha := h.agreed ha
  refine ⟨ha.length, ha.session, ha.tracked, ha.pending, ha.live, ?_, ha.cursor⟩
  intro hpos
  rw [if_pos (show sink'.pendingCloses > 0 from hpos)]
  rfl

theorem answered_retry {now finishedAt : TimePoint} {budget : CountTimeBudget}
    {rounds : Nat → RetryRound} (ha : ∀ k, ∀ receipt ∈ (rounds k).receipts, answers receipt) :
    Answered answers sink (sink.retryActorConnectionClosed now finishedAt budget rounds) := by
  unfold retryActorConnectionClosed
  split
  · exact .refl
  · split
    · exact .refl
    · split
      · exact .refl
      · dsimp only
        -- the pass, if the budget allows one at all
        have hscan : Answered answers sink
            (if budget.maxCount > 0 && budget.maxDuration > 0 then
              retryScan budget (min budget.maxCount maxTrackedSessions) rounds
                (min budget.maxCount maxTrackedSessions) sink
            else sink) := by
          split
          · exact answered_retryScan ha _
          · exact .refl
        exact answered_deadline hscan

end Answered

/-! ## Sessions begin and end -/

theorem Agreed.reserve (h : Agreed sink) (hw : connection.owner = sink.worker)
    (hl : sink.sessions.lookup connection.id = none) (hr : sink.records[index]? = some record)
    (hs : record.state = .free) : Agreed (sink.reserve connection player index) := by
  obtain ⟨hlt, hget⟩ := List.getElem?_eq_some_iff.1 hr
  have hself : (sink.reserve connection player index).records[index]? = some
      { state := .tracked, connection := connection, player := player } :=
    List.getElem?_set_self hlt
  refine ⟨by simpa [GameRequestSink.reserve] using h.length, ?_, ?_, ?_, ?_, h.deadline, h.cursor⟩
  · intro id session hlookup
    simp only [GameRequestSink.reserve, lookup_insert_ite] at hlookup
    split at hlookup
    · next heq =>
      obtain rfl := Option.some.inj hlookup
      rw [hself, heq]
      simp only [GameRequestSink.reserve, ← hw]
    · have hold := h.session id session hlookup
      have hi : index ≠ session.recordIndex := by
        rintro rfl
        rw [hr] at hold
        obtain rfl := Option.some.inj hold
        cases hs
      exact (List.getElem?_set_ne hi).trans hold
  · intro j other hj ht
    rcases getElem?_set_cases hj with ⟨rfl, rfl⟩ | ⟨hne, hj⟩
    · exact AList.lookup_insert _
    · have hold := h.tracked j other hj ht
      have hid : other.connection.id ≠ connection.id := by
        intro heq
        rw [heq, hl] at hold
        cases hold
      exact (AList.lookup_insert_ne hid).trans hold
  · show sink.pendingCloses = (sink.records.set index _).countP isClosing
    rw [List.countP_set hlt, hget, h.pending]
    simp [isClosing, hs]
  · show sink.liveSessions + 1 = (sink.sessions.insert connection.id _).entries.length
    rw [h.live, AList.insert_of_notMem (AList.lookup_eq_none.1 hl)]
    rfl

/-- A free record is assigned the empty one. -/
theorem Agreed.clear (h : Agreed sink) (hr : sink.records[index]? = some record)
    (hs : record.state = .free) : Agreed { sink with records := sink.records.set index {} } := by
  obtain ⟨hlt, hget⟩ := List.getElem?_eq_some_iff.1 hr
  refine ⟨by simpa using h.length, ?_, ?_, ?_, h.live, h.deadline, h.cursor⟩
  · intro id session hl
    have hold := h.session id session hl
    have hi : index ≠ session.recordIndex := by
      rintro rfl
      rw [hr] at hold
      obtain rfl := Option.some.inj hold
      cases hs
    exact (List.getElem?_set_ne hi).trans hold
  · intro j other hj ht
    rcases getElem?_set_cases hj with ⟨-, rfl⟩ | ⟨-, hj⟩
    · cases ht
    · exact h.tracked j other hj ht
  · simp only [List.countP_set hlt, hget, h.pending]
    simp [isClosing, hs]

/-- A session that the actor refuses leaves nothing behind. -/
theorem rollback_reserve (hl : sink.sessions.lookup connection.id = none) :
    (sink.reserve connection player index).rollback connection index =
      { sink with records := sink.records.set index {} } := by
  have hsessions (session : Session) :
      (sink.sessions.insert connection.id session).erase connection.id = sink.sessions := by
    rw [AList.insert_of_notMem (AList.lookup_eq_none.1 hl)]
    exact AList.ext (List.kerase_cons_eq rfl)
  simp only [reserve, rollback, List.set_set, hsessions, Nat.add_sub_cancel]

theorem Agreed.beginClose (h : Agreed sink) {now : TimePoint}
    (hl : sink.sessions.lookup connection.id = some session)
    (hr : sink.records[session.recordIndex]? = some record) (hs : record.state = .tracked)
    (hc : record.connection = connection) :
    Agreed (sink.beginClose connection record session.recordIndex now) := by
  obtain ⟨hlt, hget⟩ := List.getElem?_eq_some_iff.1 hr
  refine ⟨by simpa [GameRequestSink.beginClose] using h.length, ?_, ?_, ?_, ?_, fun _ => rfl,
    h.cursor⟩
  · intro id other hlookup
    simp only [GameRequestSink.beginClose, lookup_erase_ite] at hlookup
    split at hlookup
    · cases hlookup
    · next hne =>
      have hold := h.session id other hlookup
      have hi : session.recordIndex ≠ other.recordIndex := by
        intro heq
        rw [← heq, hr] at hold
        obtain rfl := Option.some.inj hold
        exact hne (congrArg ConnectionRef.id hc)
      exact (List.getElem?_set_ne hi).trans hold
  · intro j other hj ht
    rcases getElem?_set_cases hj with ⟨-, rfl⟩ | ⟨hne, hj⟩
    · cases ht
    · have hold := h.tracked j other hj ht
      have hid : other.connection.id ≠ connection.id := by
        intro heq
        rw [heq, hl] at hold
        exact hne (congrArg Session.recordIndex (Option.some.inj hold)).symm
      exact (AList.lookup_erase_ne hid).trans hold
  · show sink.pendingCloses + 1 = (sink.records.set _ _).countP isClosing
    rw [List.countP_set hlt, hget, h.pending]
    simp [isClosing, hs]
  · show sink.liveSessions - 1 = (sink.sessions.erase connection.id).entries.length
    have hlen := total_erase_of_lookup (fun _ => 1) hl
    rw [total_one, total_one] at hlen
    rw [h.live]
    omega

/-! ## Frames -/

/-- What a frame does to the records: nothing, or it opens a session. -/
inductive Opening (sink : GameRequestSink) (connection : ConnectionRef) : GameRequestSink → Prop
  | same : Opening sink connection sink
  | opened {player : PlayerId} {index : Nat} {record : SessionRecord}
      (missing : sink.sessions.lookup connection.id = none)
      (found : sink.records[index]? = some record) (free : record.state = .free) :
      Opening sink connection (sink.reserve connection player index)
  | refused {index : Nat} {record : SessionRecord} (found : sink.records[index]? = some record)
      (free : record.state = .free) :
      Opening sink connection { sink with records := sink.records.set index {} }

theorem opening_postAuthenticate {frame : Frame} {delivery : DeliveryResult} :
    Opening sink connection (sink.postAuthenticate connection frame delivery).sink := by
  unfold postAuthenticate
  split
  · exact .same
  · split
    · split
      · exact .same
      · split
        · exact .same
        · exact .same
    · next hmissing =>
      split
      · exact .same
      · split
        · exact .same
        · next index hfind =>
          obtain ⟨hlt, hfree, -⟩ := List.findIdx?_eq_some_iff_getElem.1 hfind
          have hrecord := List.getElem?_eq_getElem hlt
          dsimp only
          split
          · show Opening sink connection ((sink.reserve connection _ index).rollback _ index)
            rw [rollback_reserve hmissing]
            exact .refused hrecord (of_decide_eq_true hfree)
          · exact .opened hmissing hrecord (of_decide_eq_true hfree)

theorem postDecoded_sink {ρ : Type} {frame : Frame} {decoder : List UInt8 → Option ρ}
    {message : ρ → GameMessage} {delivery : DeliveryResult} :
    (sink.postDecoded connection frame decoder message delivery).sink = sink := by
  unfold postDecoded
  split
  · rfl
  · split <;> rfl

theorem postPing_sink {frame : Frame} {delivery : DeliveryResult} :
    (sink.postPing connection frame delivery).sink = sink := by
  unfold postPing
  split <;> rfl

theorem opening_tryPost {frame : Frame} {delivery : DeliveryResult} :
    Opening sink connection (sink.tryPost connection frame delivery).sink := by
  unfold tryPost
  split
  · exact opening_postAuthenticate
  · rw [postPing_sink]
    exact .same
  all_goals
    first
    | exact .same
    | simp only [postPlayerCommand, postZoneRequest, postRoomRequest, postDecoded_sink, Opening.same]

theorem Agreed.opening (h : Agreed sink) (hw : connection.owner = sink.worker)
    (ho : Opening sink connection sink') : Agreed sink' := by
  cases ho with
  | same => exact h
  | opened missing found free => exact h.reserve hw missing found free
  | refused found free => exact h.clear found free

theorem Opening.worker (h : Opening sink connection sink') : sink'.worker = sink.worker := by
  cases h <;> rfl

/-- A frame leaves the Closing records alone. -/
theorem Opening.kept (h : Opening sink connection sink') (hr : sink.records[index]? = some record)
    (hs : record.state = .closing) : sink'.records[index]? = some record := by
  have hset {i : Nat} {old new : SessionRecord} (hi : sink.records[i]? = some old)
      (hold : old.state = .free) : (sink.records.set i new)[index]? = some record := by
    have hne : i ≠ index := by
      rintro rfl
      rw [hr] at hi
      obtain rfl := Option.some.inj hi
      rw [hs] at hold
      cases hold
    rw [List.getElem?_set_ne hne]
    exact hr
  cases h with
  | same => exact hr
  | opened missing found free => exact hset found free
  | refused found free => exact hset found free

/-- A frame of one connection gives no player to another that had none. -/
theorem Opening.playerFor (h : Opening sink connection sink') {other : ConnectionRef}
    (hne : other.id = connection.id → other.generation ≠ connection.generation)
    (hp : sink.playerFor other = none) : sink'.playerFor other = none := by
  cases h with
  | same => exact hp
  | refused => exact hp
  | opened missing found free =>
    unfold GameRequestSink.playerFor at hp ⊢
    simp only [reserve, lookup_insert_ite]
    by_cases hid : other.id = connection.id
    · simp only [hid, if_true]
      exact if_pos (Ne.symm (hne hid))
    · simp only [hid, if_false]
      exact hp

/-! ## Closing -/

/-- The close of a connection of this Worker: without a session it does nothing, and
otherwise the record of the session becomes Closing before any receipt is taken. -/
theorem Agreed.onConnectionClosed_cases (h : Agreed sink) (hw : connection.owner = sink.worker)
    (now : TimePoint) (receipts : List ClosedReceipt) :
    (sink.playerFor connection = none ∧ sink.onConnectionClosed connection now receipts = sink) ∨
      ∃ session : Session, sink.playerFor connection = some session.player ∧
        sink.sessions.lookup connection.id = some session ∧
        sink.records[session.recordIndex]? = some ⟨.tracked, connection, session.player⟩ ∧
        sink.onConnectionClosed connection now receipts =
          (sink.beginClose connection ⟨.tracked, connection, session.player⟩ session.recordIndex
            now).notifyActorConnectionClosed receipts := by
  simp only [onConnectionClosed, GameRequestSink.playerFor, if_neg (not_not.2 hw)]
  cases hl : sink.sessions.lookup connection.id with
  | none => exact .inl ⟨rfl, rfl⟩
  | some session =>
    dsimp only
    by_cases hg : session.generation = connection.generation
    · have hrecord := h.session connection.id session hl
      rw [hg, ← hw] at hrecord
      refine .inr ⟨session, by rw [if_neg (not_not.2 hg)], rfl, hrecord, ?_⟩
      simp [hg, hrecord]
    · exact .inl ⟨if_pos hg, if_pos hg⟩

end GameRequestSink

/-! ## Runs -/

/-- A call of the Worker. -/
inductive SinkCall where
  | tryPost (connection : ConnectionRef) (frame : Frame) (delivery : DeliveryResult)
  | onConnectionClosed (connection : ConnectionRef) (now : TimePoint)
      (receipts : List ClosedReceipt)
  | onActorConnectionClosedReceipt (receipt : ClosedReceipt)
  | retryActorConnectionClosed (now finishedAt : TimePoint) (budget : CountTimeBudget)
      (rounds : Nat → RetryRound)

/-- The receipts that arrive during the call. -/
def SinkCall.Answers (receipt : ClosedReceipt) : SinkCall → Prop
  | .tryPost .. => False
  | .onConnectionClosed _ _ receipts => receipt ∈ receipts
  | .onActorConnectionClosedReceipt r => receipt = r
  | .retryActorConnectionClosed _ _ _ rounds => ∃ k, receipt ∈ (rounds k).receipts

/-- A sink and the connections of its Worker that have been closed. -/
structure SinkRun where
  sink : GameRequestSink
  closed : List ConnectionRef := []
deriving DecidableEq

/-- The Worker posts the frames of its own connections, and none after it has closed one:
the slot is released before the sink is told, and its generation is not used again. -/
def SinkRun.call (s : SinkRun) : SinkCall → Option SinkRun
  | .tryPost connection frame delivery =>
    if connection.owner = s.sink.worker ∧ connection ∉ s.closed then
      some { s with sink := (s.sink.tryPost connection frame delivery).sink }
    else none
  | .onConnectionClosed connection now receipts =>
    some
      { sink := s.sink.onConnectionClosed connection now receipts
        closed := if connection.owner = s.sink.worker then connection :: s.closed else s.closed }
  | .onActorConnectionClosedReceipt receipt =>
    some { s with sink := s.sink.onActorConnectionClosedReceipt receipt }
  | .retryActorConnectionClosed now finishedAt budget rounds =>
    some { s with sink := s.sink.retryActorConnectionClosed now finishedAt budget rounds }

def sinkMachine (worker : WorkerId) : Machine SinkRun SinkCall where
  init s := s = { sink := { worker := worker } }
  step := SinkRun.call

namespace SinkRun

open GameRequestSink

variable {s s' : SinkRun} {worker : WorkerId}

structure Sound (worker : WorkerId) (s : SinkRun) : Prop where
  owner : s.sink.worker = worker
  agreed : Agreed s.sink
  /-- A closed connection is one of this Worker and has no player. -/
  closed : ∀ connection ∈ s.closed, connection.owner = worker ∧
    s.sink.playerFor connection = none

theorem playerFor_congr {sink sink' : GameRequestSink} (h : sink'.sessions = sink.sessions)
    (connection : ConnectionRef) : sink'.playerFor connection = sink.playerFor connection := by
  unfold playerFor
  rw [h]

theorem Sound.answered {answers : ClosedReceipt → Prop} {sink : GameRequestSink}
    (h : Sound worker s) (ha : Answered answers s.sink sink) :
    Sound worker { s with sink := sink } := by
  refine ⟨ha.worker.trans h.owner, ha.agreed h.agreed, fun connection hc => ?_⟩
  rw [playerFor_congr ha.sessions]
  exact h.closed connection hc

theorem Sound.tryPost {connection : ConnectionRef} {sink : GameRequestSink} (h : Sound worker s)
    (hw : connection.owner = s.sink.worker) (hopen : connection ∉ s.closed)
    (ho : Opening s.sink connection sink) : Sound worker { s with sink := sink } := by
  refine ⟨ho.worker.trans h.owner, h.agreed.opening hw ho, fun other hc => ?_⟩
  obtain ⟨hother, hnone⟩ := h.closed other hc
  refine ⟨hother, ho.playerFor ?_ hnone⟩
  intro hid hgeneration
  have heq : other = connection := by
    obtain ⟨id, generation, owner⟩ := other
    obtain ⟨id', generation', owner'⟩ := connection
    simp only at hid hgeneration hother hw
    rw [hid, hgeneration, hother, ← h.owner, ← hw]
  exact hopen (heq ▸ hc)

theorem Sound.onConnectionClosed {connection : ConnectionRef} (h : Sound worker s)
    (now : TimePoint) (receipts : List ClosedReceipt) :
    Sound worker
      { sink := s.sink.onConnectionClosed connection now receipts
        closed := if connection.owner = s.sink.worker then connection :: s.closed
          else s.closed } := by
  by_cases hw : connection.owner = s.sink.worker
  · simp only [if_pos hw]
    rcases h.agreed.onConnectionClosed_cases hw now receipts with
      ⟨hnone, hsame⟩ | ⟨session, -, hl, hr, hclose⟩
    · rw [hsame]
      refine ⟨h.owner, h.agreed, ?_⟩
      intro other hc
      rcases List.mem_cons.1 hc with rfl | hc
      · exact ⟨hw.trans h.owner, hnone⟩
      · exact h.closed other hc
    · rw [hclose]
      have hnotify : Answered (fun _ => True)
          (s.sink.beginClose connection ⟨.tracked, connection, session.player⟩
            session.recordIndex now) _ := answered_notify fun receipt (_ : receipt ∈ receipts) => trivial
      refine ⟨hnotify.worker.trans h.owner,
        hnotify.agreed (h.agreed.beginClose hl hr rfl rfl), ?_⟩
      intro other hc
      rw [playerFor_congr hnotify.sessions]
      have hother : other.owner = worker ∧ (s.sink.playerFor other = none ∨
          other.id = connection.id) := by
        rcases List.mem_cons.1 hc with rfl | hc
        · exact ⟨hw.trans h.owner, .inr rfl⟩
        · exact ⟨(h.closed other hc).1, .inl (h.closed other hc).2⟩
      refine ⟨hother.1, ?_⟩
      unfold playerFor at hother ⊢
      simp only [beginClose, lookup_erase_ite]
      by_cases hid : other.id = connection.id
      · simp only [hid, if_true]
      · simp only [hid, if_false]
        exact hother.2.resolve_right hid
  · simp only [if_neg hw, GameRequestSink.onConnectionClosed, if_pos hw]
    exact h

theorem Sound.call {made : SinkCall} (h : Sound worker s) (hc : s.call made = some s') : Sound worker s' := by
  cases made with
  | tryPost connection frame delivery =>
    simp only [SinkRun.call] at hc
    split at hc
    · next hopen =>
      obtain rfl := Option.some.inj hc
      exact h.tryPost hopen.1 hopen.2 opening_tryPost
    · cases hc
  | onConnectionClosed connection now receipts =>
    obtain rfl := Option.some.inj hc
    exact h.onConnectionClosed now receipts
  | onActorConnectionClosedReceipt receipt =>
    obtain rfl := Option.some.inj hc
    have hanswered : Answered (fun _ => True) s.sink
        (s.sink.onActorConnectionClosedReceipt receipt) := answered_receipt trivial
    exact h.answered hanswered
  | retryActorConnectionClosed now finishedAt budget rounds =>
    obtain rfl := Option.some.inj hc
    have hanswered : Answered (fun _ => True) s.sink
        (s.sink.retryActorConnectionClosed now finishedAt budget rounds) :=
      answered_retry fun _ _ _ => trivial
    exact h.answered hanswered

theorem sound_of_reach (h : (sinkMachine worker).Reach (fun _ _ => True) s) : Sound worker s := by
  refine h.invariant ?_ fun s call s' _ hs _ hc => hs.call hc
  rintro _ rfl
  refine ⟨rfl, ⟨List.length_replicate, ?_, ?_, ?_, rfl, nofun, Nat.zero_lt_succ _⟩, nofun⟩
  · intro id session hl
    simp at hl
  · intro index record hr ht
    obtain rfl := List.eq_of_mem_replicate (List.mem_of_getElem? hr)
    cases ht
  · simp [List.countP_replicate, isClosing]

/-- A call leaves a Closing record alone unless it brings a receipt for it. -/
theorem kept_of_call {made : SinkCall} (h : Sound worker s) (hc : s.call made = some s')
    {index : Nat} {record : SessionRecord} (hr : s.sink.records[index]? = some record)
    (hs : record.state = .closing) : s'.sink.records[index]? = some record ∨
      ∃ receipt, made.Answers receipt ∧ receipt.connection = record.connection ∧
        receipt.key = playerKey record.player := by
  cases made with
  | tryPost connection frame delivery =>
    simp only [SinkRun.call] at hc
    split at hc
    · obtain rfl := Option.some.inj hc
      exact .inl (opening_tryPost.kept hr hs)
    · cases hc
  | onConnectionClosed connection now receipts =>
    obtain rfl := Option.some.inj hc
    by_cases hw : connection.owner = s.sink.worker
    · rcases h.agreed.onConnectionClosed_cases hw now receipts with
        ⟨-, hsame⟩ | ⟨session, -, -, htracked, hclose⟩
      · left
        simp only [hsame]
        exact hr
      · have hne : session.recordIndex ≠ index := by
          rintro rfl
          rw [htracked] at hr
          obtain rfl := Option.some.inj hr
          cases hs
        simp only [hclose]
        refine (answered_notify (fun _ hmem => hmem)).kept index record ?_ hs
        exact (List.getElem?_set_ne hne).trans hr
    · left
      simp only [GameRequestSink.onConnectionClosed, if_pos hw]
      exact hr
  | onActorConnectionClosedReceipt receipt =>
    obtain rfl := Option.some.inj hc
    have hanswered : Answered (· = receipt) s.sink _ := answered_receipt rfl
    exact hanswered.kept index record hr hs
  | retryActorConnectionClosed now finishedAt budget rounds =>
    obtain rfl := Option.some.inj hc
    exact (answered_retry fun k _ hmem => ⟨k, hmem⟩).kept index record hr hs

/-- The close of a connection that has a player leaves a Closing record, unless its receipt
arrives at once. -/
theorem closing_of_closed {connection : ConnectionRef} {now : TimePoint}
    {receipts : List ClosedReceipt} {player : PlayerId} (h : Sound worker s)
    (hw : connection.owner = worker) (hp : s.sink.playerFor connection = some player) :
    (∃ index : Nat, (s.sink.onConnectionClosed connection now receipts).records[index]? =
        some ⟨.closing, connection, player⟩) ∨
      ∃ receipt ∈ receipts, receipt.connection = connection ∧ receipt.key = playerKey player := by
  rw [← h.owner] at hw
  rcases h.agreed.onConnectionClosed_cases hw now receipts with
    ⟨hnone, -⟩ | ⟨session, hplayer, hl, hr, hclose⟩
  · rw [hnone] at hp
    cases hp
  · obtain rfl : session.player = player := Option.some.inj (hplayer.symm.trans hp)
    rw [hclose]
    have hlt := (List.getElem?_eq_some_iff.1 hr).1
    have hclosing : (s.sink.beginClose connection ⟨.tracked, connection, session.player⟩
        session.recordIndex now).records[session.recordIndex]? =
          some ⟨.closing, connection, session.player⟩ := List.getElem?_set_self hlt
    rcases (answered_notify (fun _ hmem => hmem)).kept _ _ hclosing rfl with hkept | hanswer
    · exact .inl ⟨_, hkept⟩
    · exact .inr hanswer

end SinkRun

/-- **Session records.** In every run of the sink of a Worker, the entries of the session
map and the Tracked records are the same sessions, the counters count, at most
`maxTrackedSessions` records are in use, and a retry is due whenever a close is pending. A
closed connection has no player. A Closing record is freed only by a receipt for its
connection and player, and the close of a connection that has a player leaves such a record
unless that receipt arrives during the call. -/
theorem session_records_agree (worker : WorkerId) (s : SinkRun)
    (h : (sinkMachine worker).Reach (fun _ _ => True) s) :
    s.sink.Agreed ∧
    s.sink.records.countP (·.state ≠ .free) ≤ maxTrackedSessions ∧
    (0 < s.sink.pendingCloses → s.sink.nextActorConnectionCloseRetryDeadline.isSome = true) ∧
    (∀ connection ∈ s.closed, s.sink.playerFor connection = none) ∧
    (∀ call s', (sinkMachine worker).step s call = some s' →
      ∀ (index : Nat) (record : SessionRecord), s.sink.records[index]? = some record →
        record.state = .closing → s'.sink.records[index]? = some record ∨
          ∃ receipt, call.Answers receipt ∧ receipt.connection = record.connection ∧
            receipt.key = playerKey record.player ∧
            (receipt.result = .mailboxAccepted ∨ receipt.result = .actorAbsent)) ∧
    ∀ connection now receipts player s', connection.owner = worker →
      s.sink.playerFor connection = some player →
      (sinkMachine worker).step s (.onConnectionClosed connection now receipts) = some s' →
        (∃ index : Nat, s'.sink.records[index]? = some ⟨.closing, connection, player⟩) ∨
          ∃ receipt ∈ receipts, receipt.connection = connection ∧
            receipt.key = playerKey player := by
  have hsound := SinkRun.sound_of_reach h
  refine ⟨hsound.agreed, ?_, ?_, fun c hc => (hsound.closed c hc).2, ?_, ?_⟩
  · rw [← hsound.agreed.length]
    exact List.countP_le_length
  · intro hpos
    unfold GameRequestSink.nextActorConnectionCloseRetryDeadline
    rw [if_neg (Nat.ne_of_gt hpos)]
    exact hsound.agreed.deadline hpos
  · intro call s' hstep index record hr hs
    refine (SinkRun.kept_of_call hsound hstep hr hs).imp_right ?_
    rintro ⟨receipt, hanswers, hconnection, hkey⟩
    refine ⟨receipt, hanswers, hconnection, hkey, ?_⟩
    cases receipt.result with
    | mailboxAccepted => exact .inl rfl
    | actorAbsent => exact .inr rfl
  · intro connection now receipts player s' hw hp hstep
    obtain rfl := Option.some.inj hstep
    exact SinkRun.closing_of_closed hsound hw hp

/-- A connection authenticates as player 5 and is closed without an answer; a pass later the
receipt arrives. -/
theorem session_records_agree_closing :
    ∃ s, (sinkMachine 0).Reach (fun _ _ => True) s ∧ s.sink.pendingCloses = 1 ∧
      s.sink.nextActorConnectionCloseRetryDeadline.isSome = true ∧
      s.sink.playerFor ⟨1, 1, 0⟩ = none := by
  let connection : ConnectionRef := ⟨1, 1, 0⟩
  obtain ⟨s, hs, ht⟩ := (sinkMachine 0).exists_reach_of_replay (fun _ _ => True)
    (s := { sink := { worker := 0 } }) rfl
    [.tryPost connection ⟨.authenticate, 1, [0, 0, 0, 0, 0, 0, 0, 5]⟩ .accepted,
      .onConnectionClosed connection 0 [],
      .retryActorConnectionClosed 10 11 ⟨2, 1⟩ fun _ => {}]
    (fun s => s.sink.pendingCloses = 1 ∧ connection ∈ s.closed) (by decide +kernel)
  obtain ⟨hpending, hclosed⟩ := of_decide_eq_true ht
  obtain ⟨-, -, hdeadline, hplayer, -⟩ := session_records_agree 0 s hs
  exact ⟨s, hs, hpending, hdeadline (hpending ▸ Nat.one_pos), hplayer connection hclosed⟩

end Snf.Adapter
