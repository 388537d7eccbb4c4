import Snf.Worker.DbLedger

/-! # The outcome of a save says what became of its COMMIT

The record of a save's statements is read beside its stage and its
`commitDispatched` flag: the stages before the current one have succeeded, in their
order and on the connection of the slot, and the flag is set exactly when the COMMIT
has been handed to the driver. So whatever ends the operation, its outcome is the one
that its COMMIT deserves.
-/

namespace Snf.Worker

/-! ## Statements -/

def DbStatement.success : DbStatement → Option (Nat × DbStage)
  | .handed _ _ => none
  | .succeeded connection stage => some (connection, stage)

/-- The statements that the driver has reported as done, with their connections. -/
def successes (statements : List DbStatement) : List (Nat × DbStage) :=
  statements.filterMap (·.success)

/-- The COMMIT has been handed to the driver. -/
def HandsCommit (statements : List DbStatement) : Prop :=
  ∃ connection, .handed connection .saveCommit ∈ statements

/-- The driver has reported the COMMIT as done. -/
def Acknowledged (statements : List DbStatement) : Prop :=
  ∃ connection, .succeeded connection .saveCommit ∈ statements

def beforeCommit : List DbStage :=
  [.saveIsolation, .saveBegin, .saveUpsert, .saveDeleteSkills, .saveInsertSkills]

/-- Whenever the COMMIT is handed over, exactly the statements before it have succeeded,
in their order and on its connection. -/
def CommitsLast (statements : List DbStatement) : Prop :=
  ∀ before connection after, statements = before ++ .handed connection .saveCommit :: after →
    successes before = beforeCommit.map (connection, ·)

/-- The statements that come before a stage of the save transaction. -/
def DbStage.earlier : DbStage → List DbStage
  | .saveBegin => [.saveIsolation]
  | .saveUpsert => [.saveIsolation, .saveBegin]
  | .saveDeleteSkills => [.saveIsolation, .saveBegin, .saveUpsert]
  | .saveInsertSkills => [.saveIsolation, .saveBegin, .saveUpsert, .saveDeleteSkills]
  | .saveCommit => beforeCommit
  | _ => []

section Statements

variable {statements : List DbStatement} {statement : DbStatement}

theorem successes_snoc : successes (statements ++ [statement]) =
    successes statements ++ statement.success.toList := by
  unfold successes
  rw [List.filterMap_append]
  cases h : statement.success <;> simp [h]

theorem handsCommit_snoc : HandsCommit (statements ++ [statement]) ↔
    HandsCommit statements ∨ ∃ connection, statement = .handed connection .saveCommit := by
  simp only [HandsCommit, List.mem_append, List.mem_singleton, exists_or, eq_comm]

theorem acknowledged_snoc : Acknowledged (statements ++ [statement]) ↔
    Acknowledged statements ∨ ∃ connection, statement = .succeeded connection .saveCommit := by
  simp only [Acknowledged, List.mem_append, List.mem_singleton, exists_or, eq_comm]

theorem CommitsLast.snoc (h : CommitsLast statements)
    (hs : ∀ connection, statement = .handed connection .saveCommit →
      successes statements = beforeCommit.map (connection, ·)) :
    CommitsLast (statements ++ [statement]) := by
  intro before connection after heq
  -- the COMMIT is the new statement or one of the old ones
  rcases List.eq_nil_or_concat after with rfl | ⟨rest, last, rfl⟩
  · obtain ⟨rfl, hlast⟩ := List.append_inj' heq rfl
    exact hs connection (List.singleton_inj.1 hlast)
  · have hsplit : statements ++ [statement] =
        (before ++ .handed connection .saveCommit :: rest) ++ [last] := by
      rw [heq]
      simp
    exact h before connection rest (List.append_inj' hsplit rfl).1

end Statements

/-! ## An operation in flight -/

/-- A save in flight on the connection of this generation. -/
structure InFlight.Saving (generation : Nat) (f : InFlight) : Prop where
  stage : f.stage.isSaveStage = true
  commits : CommitsLast f.statements
  flag : f.commitDispatched = true ↔ HandsCommit f.statements
  waiting : ¬ Acknowledged f.statements
  progress : f.stage ≠ .saveRollback →
    successes f.statements = f.stage.earlier.map (generation, ·)
  committing : f.commitDispatched = true → f.stage = .saveCommit

/-- What the outcome of a save says about its COMMIT. -/
structure DbOutcome.Truthful (o : DbOutcome) : Prop where
  committed : o.result = .savePlayer .committed ↔ Acknowledged o.statements
  unknown : o.result = .savePlayer .commitOutcomeUnknown ↔
    HandsCommit o.statements ∧ ¬ Acknowledged o.statements
  failed : o.result = .savePlayer .failedBeforeCommit → ¬ HandsCommit o.statements
  /-- A plain failure is the answer to a request that never left the queue. -/
  refused : ∀ failure, o.result = .failure failure → o.statements = []
  commits : CommitsLast o.statements

namespace InFlight.Saving

variable {generation : Nat} {f : InFlight} {slot : DbSlot}

theorem unknown (h : f.Saving generation) (hd : f.commitDispatched = true) :
    (f.outcome (.savePlayer .commitOutcomeUnknown)).Truthful where
  committed := ⟨(fun hr => by cases hr), fun ha => absurd ha h.waiting⟩
  unknown := ⟨fun _ => ⟨h.flag.1 hd, h.waiting⟩, fun _ => rfl⟩
  failed := fun hr => by cases hr
  refused := fun _ hr => by cases hr
  commits := h.commits

theorem failed (h : f.Saving generation) (hd : f.commitDispatched = false) :
    (f.outcome (.savePlayer .failedBeforeCommit)).Truthful := by
  have hnone : ¬ HandsCommit f.statements := fun hc => by
    rw [h.flag.2 hc] at hd
    cases hd
  exact ⟨⟨(fun hr => by cases hr), fun ha => absurd ha h.waiting⟩,
    ⟨(fun hr => by cases hr), fun hc => absurd hc.1 hnone⟩, fun _ => hnone,
    (fun _ hr => by cases hr), h.commits⟩

/-- Whatever cuts the connection, the flag decides. -/
theorem failureResultFor (h : f.Saving generation) (hr : f.request.isSave = true)
    (failure : DbFailure) : (f.outcome (Worker.failureResultFor f failure)).Truthful := by
  unfold Worker.failureResultFor
  split
  · next hload =>
    rw [hload] at hr
    cases hr
  · split
    · next hd => exact h.unknown hd
    · next hd => exact h.failed (by simpa using hd)

/-- The statement of the stage is handed to the driver. -/
theorem handStatement (h : f.Saving slot.generation) :
    (handStatement slot f).Saving slot.generation where
  stage := h.stage
  commits := by
    refine h.commits.snoc fun connection heq => ?_
    obtain ⟨rfl, hstage⟩ := DbStatement.handed.inj heq
    rw [h.progress (by rw [hstage]; decide), hstage]
    rfl
  flag := by
    show (f.commitDispatched || decide (f.stage = .saveCommit)) = true ↔ _
    rw [Bool.or_eq_true, decide_eq_true_eq, h.flag]
    refine Iff.trans ?_ handsCommit_snoc.symm
    simp
  waiting := by
    intro hack
    rcases acknowledged_snoc.1 hack with hold | ⟨connection, hnew⟩
    · exact h.waiting hold
    · cases hnew
  progress := by
    intro hr
    exact successes_snoc.trans ((List.append_nil _).trans (h.progress hr))
  committing := by
    intro hd
    rcases Bool.or_eq_true_iff.1 hd with hd | hd
    · exact h.committing hd
    · exact of_decide_eq_true hd

/-- The next statement of the transaction, after the one of the stage is done. -/
theorem next (h : f.Saving slot.generation) {stage : DbStage} (hs : stage.isSaveStage = true)
    (hd : f.commitDispatched = false) (hc : f.stage ≠ .saveCommit)
    (hp : f.stage ≠ .saveRollback ∧ stage.earlier = f.stage.earlier ++ [f.stage]) :
    Saving slot.generation
      { f.note (.succeeded slot.generation f.stage) with stage := stage } where
  stage := hs
  commits := h.commits.snoc fun connection heq => by cases heq
  flag := by
    refine h.flag.trans ?_
    refine Iff.trans ?_ handsCommit_snoc.symm
    simp
  waiting := by
    intro hack
    rcases acknowledged_snoc.1 hack with hold | ⟨connection, hnew⟩
    · exact h.waiting hold
    · exact hc (DbStatement.succeeded.inj hnew).2
  progress := by
    intro _
    refine successes_snoc.trans ?_
    rw [h.progress hp.1, hp.2, List.map_append]
    rfl
  committing := by
    intro hdispatched
    exact absurd hdispatched (by simp [InFlight.note, hd])

/-- A statement before the COMMIT has failed and is rolled back. -/
theorem rollback (h : f.Saving generation) (hd : f.commitDispatched = false) :
    Saving generation { f with stage := .saveRollback } :=
  { h with
    stage := rfl
    progress := fun hr => absurd rfl hr
    committing := fun hdispatched => absurd hdispatched (by simp [hd]) }

/-- The driver has reported the COMMIT as done. -/
theorem committed (h : f.Saving generation) (hd : f.commitDispatched = true)
    (connection : Nat) :
    ((f.note (.succeeded connection f.stage)).outcome (.savePlayer .committed)).Truthful := by
  have hack : Acknowledged (f.statements ++ [.succeeded connection f.stage]) := by
    rw [acknowledged_snoc, h.committing hd]
    exact .inr ⟨connection, rfl⟩
  exact ⟨⟨fun _ => hack, fun _ => rfl⟩, ⟨(fun hr => by cases hr), fun hu => absurd hack hu.2⟩,
    (fun hr => by cases hr), (fun _ hr => by cases hr), h.commits.snoc fun _ heq => by cases heq⟩

/-- The rollback is done. -/
theorem rolledBack (h : f.Saving generation) (hs : f.stage = .saveRollback) (connection : Nat) :
    ((f.note (.succeeded connection f.stage)).outcome
      (.savePlayer .failedBeforeCommit)).Truthful := by
  have hd : f.commitDispatched = false := by
    cases hdispatched : f.commitDispatched with
    | false => rfl
    | true => rw [h.committing hdispatched] at hs; cases hs
  have hnone : ¬ HandsCommit (f.statements ++ [.succeeded connection f.stage]) := by
    intro hc
    rcases handsCommit_snoc.1 hc with hold | ⟨_, hnew⟩
    · rw [h.flag.2 hold] at hd
      cases hd
    · cases hnew
  have hwaiting : ¬ Acknowledged (f.statements ++ [.succeeded connection f.stage]) := by
    intro hack
    rcases acknowledged_snoc.1 hack with hold | ⟨_, hnew⟩
    · exact h.waiting hold
    · rw [hs] at hnew
      cases hnew
  exact ⟨⟨(fun hr => by cases hr), fun ha => absurd ha hwaiting⟩,
    ⟨(fun hr => by cases hr), fun hc => absurd hc.1 hnone⟩, fun _ => hnone,
    (fun _ hr => by cases hr), h.commits.snoc fun _ heq => by cases heq⟩

end InFlight.Saving

/-! ## One slot -/

/-- What a call leaves in a slot: nothing is in flight without a connection, a save in
flight is on this one, and a result set is read only of a statement that was handed over. -/
structure DbSlot.Faithful (slot : DbSlot) : Prop where
  connected : slot.state = .closed ∨ slot.state = .connecting → slot.inFlight = none
  saving : ∀ f, slot.inFlight = some f → f.request.isSave = true → f.Saving slot.generation
  reading : slot.state = .fetching ∨ slot.state = .freeingResult →
    ∀ f, slot.inFlight = some f → f.stage = .saveCommit → f.commitDispatched = true

/-- The outcomes of a call. -/
def TruthfulSaves (outcomes : List DbOutcome) : Prop :=
  ∀ o ∈ outcomes, o.request.isSave = true → o.Truthful

/-- A slot and the outcomes that a step leaves. -/
def FaithfulStep (out : DbSlot × List DbOutcome) : Prop :=
  out.1.Faithful ∧ TruthfulSaves out.2

theorem truthfulSaves_single {o : DbOutcome} (ho : o.request.isSave = true → o.Truthful) :
    TruthfulSaves [o] := fun p hp hsave => by
  obtain rfl := List.mem_singleton.1 hp
  exact ho hsave

namespace DbSlot.Faithful

variable {config : DbClientConfig} {slot : DbSlot} {out : DbSlot × List DbOutcome}
  {event : DriverEvent} {clock : TimePoint} {f : InFlight}

theorem empty (h : slot.inFlight = none) : slot.Faithful :=
  have hnone {p : Prop} (f : InFlight) (hf : slot.inFlight = some f) : p := by
    rw [h] at hf
    cases hf
  ⟨fun _ => h, fun f hf _ => hnone f hf, fun _ f hf _ => hnone f hf⟩

/-- A slot whose operation has a statement to run. -/
theorem querying (hs : slot.state = .querying) (hi : slot.inFlight = some f)
    (hf : f.request.isSave = true → f.Saving slot.generation) : slot.Faithful := by
  refine ⟨fun hstate => ?_, fun g hg => ?_, fun hstate => ?_⟩
  · rcases hstate with hstate | hstate <;> (rw [hs] at hstate; cases hstate)
  · obtain rfl := Option.some.inj (hi.symm.trans hg)
    exact hf
  · rcases hstate with hstate | hstate <;> (rw [hs] at hstate; cases hstate)

/-- A slot whose operation reads its result set. -/
theorem reads (hs : slot.state = .fetching ∨ slot.state = .freeingResult)
    (hi : slot.inFlight = some f) (hf : f.request.isSave = true → f.Saving slot.generation)
    (hc : f.stage = .saveCommit → f.commitDispatched = true) : slot.Faithful := by
  refine ⟨fun hstate => ?_, fun g hg => ?_, fun _ g hg => ?_⟩
  · rcases hstate with hstate | hstate <;> rcases hs with hs | hs <;>
      (rw [hs] at hstate; cases hstate)
  · obtain rfl := Option.some.inj (hi.symm.trans hg)
    exact hf
  · obtain rfl := Option.some.inj (hi.symm.trans hg)
    exact hc

theorem silent (h : slot.Faithful) : FaithfulStep (slot, []) := ⟨h, fun o ho => by cases ho⟩

/-- The operation ends with this outcome. -/
theorem ends {slot' : DbSlot} {o : DbOutcome} (h : slot'.inFlight = none)
    (ho : o.request.isSave = true → o.Truthful) : FaithfulStep (slot', [o]) :=
  ⟨empty h, truthfulSaves_single ho⟩

theorem poisonSlot (h : slot.inFlight = some f)
    (hf : f.request.isSave = true → f.Saving slot.generation) (failure : DbFailure) :
    FaithfulStep (poisonSlot slot failure clock) := by
  refine ⟨empty rfl, ?_⟩
  unfold Worker.poisonSlot
  rw [h]
  exact truthfulSaves_single fun hsave => (hf hsave).failureResultFor hsave failure

/-- **A statement is done.** The transaction goes on or has ended. -/
theorem statementDone (hf : f.request.isSave = true → f.Saving slot.generation)
    (hc : f.stage = .saveCommit → f.commitDispatched = true) :
    FaithfulStep (statementDone slot f) := by
  have hnext {stage : DbStage} (hs : stage.isSaveStage = true)
      (hearlier : stage.earlier = f.stage.earlier ++ [f.stage])
      (hstage : f.stage ≠ .saveCommit ∧ f.stage ≠ .saveRollback) :
      FaithfulStep (beginStageQuery slot
        { f.note (.succeeded slot.generation f.stage) with stage := stage }, []) := by
    refine silent (querying rfl rfl fun hsave => ?_)
    have hsaving := hf hsave
    refine hsaving.next hs ?_ hstage.1 ⟨hstage.2, hearlier⟩
    cases hdispatched : f.commitDispatched with
    | false => rfl
    | true => exact absurd (hsaving.committing hdispatched) hstage.1
  have hload {o : DbOutcome} (ho : o.request = f.request) (hs : f.stage.isSaveStage = false) :
      o.request.isSave = true → o.Truthful := fun hsave => by
    rw [(hf (ho ▸ hsave)).stage] at hs
    cases hs
  unfold Worker.statementDone advanceStage
  cases hstage : f.stage with
  | playerRow =>
    simp only [InFlight.note, hstage]
    split
    · refine silent (querying rfl rfl fun hsave => ?_)
      have hsaved := (hf hsave).stage
      rw [hstage] at hsaved
      cases hsaved
    · exact ends rfl (hload rfl (by rw [hstage]; rfl))
  | playerSkills =>
    simp only [InFlight.note, hstage]
    exact ends rfl (hload rfl (by rw [hstage]; rfl))
  | saveCommit =>
    simp only [InFlight.note, hstage]
    refine ends rfl fun hsave => ?_
    have hcommitted := (hf hsave).committed (hc hstage) slot.generation
    rwa [InFlight.note, hstage] at hcommitted
  | saveRollback =>
    simp only [InFlight.note, hstage]
    refine ends rfl fun hsave => ?_
    have hrolled := (hf hsave).rolledBack hstage slot.generation
    rwa [InFlight.note, hstage] at hrolled
  | saveIsolation | saveBegin | saveUpsert | saveDeleteSkills | saveInsertSkills =>
    simp only [InFlight.note, hstage]
    rw [hstage] at hnext
    exact hnext rfl rfl (by decide)

theorem onSaveStatementFailed (hf : f.request.isSave = true → f.Saving slot.generation) :
    FaithfulStep (onSaveStatementFailed slot f clock) := by
  unfold Worker.onSaveStatementFailed
  split
  · next hd => exact ends rfl fun hsave => (hf hsave).unknown hd
  · next hd =>
    have hdispatched : f.commitDispatched = false := by simpa using hd
    split
    · exact ends rfl fun hsave => (hf hsave).failed hdispatched
    · exact silent (querying rfl rfl fun hsave => (hf hsave).rollback hdispatched)

theorem stepQuerying (hs : slot.state = .querying) (hf : f.request.isSave = true → f.Saving slot.generation)
    (h : stepQuerying slot f event clock = some out) : FaithfulStep out := by
  have hhanded : (handStatement slot f).request.isSave = true →
      (handStatement slot f).Saving slot.generation := fun hsave => (hf hsave).handStatement
  have hflag : (handStatement slot f).stage = .saveCommit →
      (handStatement slot f).commitDispatched = true := fun hs => by
    have hstage : f.stage = .saveCommit := hs
    simp [handStatement, hstage]
  unfold Worker.stepQuerying at h
  cases event with
  | notReady =>
    obtain rfl := Option.some.inj h
    exact silent (querying hs rfl hhanded)
  | error text =>
    simp only at h
    split at h <;> obtain rfl := Option.some.inj h
    · exact onSaveStatementFailed hhanded
    · refine poisonSlot rfl ?_ _
      exact hhanded
  | done =>
    obtain rfl := Option.some.inj h
    exact statementDone hhanded hflag
  | resultSet =>
    obtain rfl := Option.some.inj h
    exact silent (reads (.inl rfl) rfl hhanded hflag)
  | noResultSet text =>
    obtain rfl := Option.some.inj h
    refine poisonSlot rfl ?_ _
    exact hhanded
  | row | endOfRows => cases h

theorem stepFetching (h : slot.Faithful) (hs : slot.state = .fetching) (hi : slot.inFlight = some f)
    (hstep : stepFetching config slot f event clock = some out) : FaithfulStep out := by
  have hf := h.saving f hi
  have hc := h.reading (.inl hs) f hi
  unfold Worker.stepFetching at hstep
  cases event with
  | row columns bytes =>
    -- counting a row changes nothing that is known of the operation
    have hcounted {rows bytes : Nat} {result : LoadPlayerResult} : f.request.isSave = true →
        InFlight.Saving slot.generation
          { f with rows := rows, bytes := bytes, result := result } := fun hsave =>
      { hf hsave with }
    simp only at hstep
    split at hstep
    · obtain rfl := Option.some.inj hstep
      refine poisonSlot rfl ?_ _
      exact hcounted
    · split at hstep
      · obtain rfl := Option.some.inj hstep
        refine poisonSlot rfl ?_ _
        exact hcounted
      · split at hstep
        · cases hstep
        · obtain rfl := Option.some.inj hstep
          refine poisonSlot rfl ?_ _
          exact hcounted
        · next g hg =>
          obtain rfl := Option.some.inj hstep
          obtain ⟨result, rfl⟩ := eq_of_consumeRow hg
          exact silent (reads (.inl hs) rfl hcounted hc)
  | error text =>
    obtain rfl := Option.some.inj hstep
    exact poisonSlot hi hf _
  | notReady =>
    obtain rfl := Option.some.inj hstep
    exact silent (reads (.inl hs) hi hf hc)
  | endOfRows =>
    obtain rfl := Option.some.inj hstep
    exact silent (reads (.inr rfl) hi hf hc)
  | done | resultSet | noResultSet => cases hstep

/-- **One driver step.** Its outcome, if there is one, is truthful. -/
theorem step (h : slot.Faithful) (hstep : slot.step config event clock = some out) :
    FaithfulStep out := by
  unfold DbSlot.step at hstep
  split at hstep
  · next hs =>
    obtain rfl := Option.some.inj hstep
    exact silent (empty (h.connected (.inl hs)))
  · next hs =>
    have hnone := h.connected (.inr hs)
    split at hstep <;>
      first | (obtain rfl := Option.some.inj hstep; exact silent (empty hnone)) | cases hstep
  · next hs hi =>
    obtain rfl := Option.some.inj hstep
    exact silent (querying rfl rfl (h.saving _ hi))
  · next hi =>
    obtain rfl := Option.some.inj hstep
    exact silent (empty hi)
  · next hs hi => exact stepQuerying hs (h.saving _ hi) hstep
  · next hs hi => exact stepFetching h hs hi hstep
  · next hs hi =>
    have hf := h.saving _ hi
    have hc := h.reading (.inr hs) _ hi
    split at hstep
    · obtain rfl := Option.some.inj hstep
      exact silent (reads (.inr hs) hi hf hc)
    · obtain rfl := Option.some.inj hstep
      exact poisonSlot hi hf _
    · obtain rfl := Option.some.inj hstep
      exact statementDone hf hc
    · cases hstep
  · cases hstep

end DbSlot.Faithful

/-! ## The client -/

namespace DbClient

/-- Every slot is faithful and every save on record ended truthfully. -/
structure Faithful (db : DbClient) : Prop where
  slots : ∀ slot ∈ db.slots, slot.Faithful
  outcomes : TruthfulSaves db.outcomes

variable {db db' : DbClient}

theorem faithful_create (config : DbClientConfig) : (create config).Faithful where
  slots := fun slot hs => by
    rw [List.eq_of_mem_replicate hs]
    exact .empty rfl
  outcomes := fun o ho => by cases ho

theorem faithful_assign (slot : DbSlot) (key : AwaitKey) (request : DbRequest)
    (deadline : TimePoint) : (assign slot key request deadline).Faithful := by
  refine .querying rfl rfl fun hsave => ?_
  have hrequest : request.isSave = true := hsave
  simp only [hrequest, if_true]
  exact ⟨rfl, fun before connection after heq => by simp at heq, by simp [HandsCommit],
    by simp [Acknowledged], fun _ => rfl, fun hd => by cases hd⟩

theorem faithful_assignFirst {key : AwaitKey} {request : DbRequest} {deadline : TimePoint}
    {slots slots' : List DbSlot} (h : ∀ slot ∈ slots, slot.Faithful)
    (ha : assignFirst key request deadline slots = some slots') :
    ∀ slot ∈ slots', slot.Faithful := by
  induction slots generalizing slots' with
  | nil => cases ha
  | cons slot rest ih =>
    obtain ⟨hslot, hrest⟩ := List.forall_mem_cons.1 h
    unfold assignFirst at ha
    split at ha
    · obtain rfl := Option.some.inj ha
      exact List.forall_mem_cons.2 ⟨faithful_assign slot key request deadline, hrest⟩
    · obtain ⟨rest', hrest', rfl⟩ := Option.map_eq_some_iff.1 ha
      exact List.forall_mem_cons.2 ⟨hslot, ih hrest hrest'⟩

theorem faithful_pumpSlots {slots : List DbSlot} {queue : List QueuedOperation}
    (h : ∀ slot ∈ slots, slot.Faithful) : ∀ slot ∈ (pumpSlots slots queue).1, slot.Faithful := by
  induction slots generalizing queue with
  | nil => cases queue <;> exact h
  | cons slot rest ih =>
    obtain ⟨hslot, hrest⟩ := List.forall_mem_cons.1 h
    cases queue with
    | nil => exact h
    | cons q queue =>
      unfold pumpSlots
      split
      · exact List.forall_mem_cons.2 ⟨faithful_assign slot q.key q.request q.deadline, ih hrest⟩
      · exact List.forall_mem_cons.2 ⟨hslot, ih hrest⟩

/-- Only a closed slot is opened, and nothing is in flight there. -/
theorem faithful_openSlots {p : DbSlot → Bool} {next : Nat} {slots : List DbSlot}
    (hp : ∀ slot, p slot = true → slot.state = .closed) (h : ∀ slot ∈ slots, slot.Faithful) :
    ∀ slot ∈ (openSlots p next slots).1, slot.Faithful := by
  induction slots generalizing next with
  | nil => exact h
  | cons slot rest ih =>
    obtain ⟨hslot, hrest⟩ := List.forall_mem_cons.1 h
    unfold openSlots
    split
    · next hopen =>
      have hnone : slot.inFlight = none := hslot.connected (.inl (hp slot hopen))
      exact List.forall_mem_cons.2 ⟨.empty hnone, ih hrest⟩
    · exact List.forall_mem_cons.2 ⟨hslot, ih hrest⟩

theorem Faithful.advance (h : db.Faithful) {i : Nat} {event : DriverEvent} {clock : TimePoint}
    {out : DbClient × List DbCompletion} (ha : db.advance i event clock = some out) :
    out.1.Faithful := by
  unfold DbClient.advance at ha
  split at ha
  · cases ha
  · next slot hslot =>
    split at ha
    · cases ha
    · split at ha
      · cases ha
      · next slot' outcomes hstep =>
        obtain rfl := Option.some.inj ha
        obtain ⟨hfaithful, htruthful⟩ := (h.slots slot (List.mem_of_getElem? hslot)).step hstep
        refine ⟨faithful_pumpSlots fun s hs => ?_, fun o ho => ?_⟩
        · rcases List.mem_or_eq_of_mem_set hs with hs | rfl
          · exact h.slots s hs
          · exact hfaithful
        · rcases List.mem_append.1 ho with ho | ho
          · exact h.outcomes o ho
          · exact htruthful o ho

theorem Faithful.tryStart (h : db.Faithful) (key : AwaitKey) (request : DbRequest)
    (deadline : TimePoint) : (db.tryStart key request deadline).2.Faithful := by
  unfold DbClient.tryStart
  split
  · exact h
  · split
    · exact h
    · split
      · next ha => exact ⟨faithful_assignFirst h.slots ha, h.outcomes⟩
      · simp only
        split
        · exact h
        · exact ⟨h.slots, h.outcomes⟩

theorem truthful_queued (queue : List QueuedOperation) (failure : DbFailure) :
    TruthfulSaves (queue.map (·.outcome failure)) := by
  intro o ho _
  obtain ⟨q, -, rfl⟩ := List.mem_map.1 ho
  exact ⟨⟨(fun hr => by cases hr), fun ⟨_, hmem⟩ => by cases hmem⟩,
    ⟨(fun hr => by cases hr), fun ⟨⟨_, hmem⟩, _⟩ => by cases hmem⟩, (fun hr => by cases hr),
    fun _ _ => rfl, fun before connection after heq => by simp [QueuedOperation.outcome] at heq⟩

theorem faithful_expireSlot {slot : DbSlot} (h : slot.Faithful) (now : TimePoint) :
    FaithfulStep (expireSlot now slot) := by
  unfold expireSlot
  split
  · exact DbSlot.Faithful.silent h
  · next f hf =>
    split
    · exact DbSlot.Faithful.silent h
    · exact DbSlot.Faithful.poisonSlot hf (h.saving f hf) _

theorem Faithful.expireDeadlines (h : db.Faithful) (now : TimePoint) :
    (db.expireDeadlines now).1.Faithful := by
  refine ⟨fun slot hs => ?_, fun o ho => ?_⟩
  · obtain ⟨out, hout, rfl⟩ := List.mem_map.1 hs
    obtain ⟨before, hbefore, rfl⟩ := List.mem_map.1 hout
    exact (faithful_expireSlot (h.slots before hbefore) now).1
  · rcases List.mem_append.1 ho with ho | ho
    · exact h.outcomes o ho
    · rcases List.mem_append.1 ho with ho | ho
      · exact truthful_queued _ _ o ho
      · obtain ⟨outcomes, houtcomes, ho⟩ := List.mem_flatten.1 ho
        obtain ⟨out, hout, rfl⟩ := List.mem_map.1 houtcomes
        obtain ⟨before, hbefore, rfl⟩ := List.mem_map.1 hout
        exact (faithful_expireSlot (h.slots before hbefore) now).2 o ho

theorem forall_mem_modify {α : Type} {p : α → Prop} {g : α → α} (hg : ∀ a, p a → p (g a))
    {l : List α} {i : Nat} (h : ∀ a ∈ l, p a) : ∀ a ∈ l.modify i g, p a := by
  induction l generalizing i with
  | nil => cases i <;> exact h
  | cons a rest ih =>
    obtain ⟨ha, hrest⟩ := List.forall_mem_cons.1 h
    cases i with
    | zero => exact List.forall_mem_cons.2 ⟨hg a ha, hrest⟩
    | succ i => exact List.forall_mem_cons.2 ⟨ha, ih hrest⟩

theorem Faithful.onPollEvent (h : db.Faithful) (token : PollToken) :
    (db.onPollEvent token).Faithful := by
  unfold DbClient.onPollEvent
  split
  · exact h
  · refine ⟨forall_mem_modify (fun slot hslot => ?_) h.slots, h.outcomes⟩
    split
    · exact hslot
    · exact ⟨hslot.connected, hslot.saving, hslot.reading⟩

theorem Faithful.openWhere (h : db.Faithful) {p : DbSlot → Bool}
    (hp : ∀ slot, p slot = true → slot.state = .closed) : (db.openWhere p).Faithful :=
  ⟨faithful_openSlots hp h.slots, h.outcomes⟩

theorem Faithful.beginShutdown (h : db.Faithful) : db.beginShutdown.1.Faithful := by
  refine ⟨h.slots, fun o ho => ?_⟩
  rcases List.mem_append.1 ho with ho | ho
  · exact h.outcomes o ho
  · exact truthful_queued _ _ o ho

theorem Faithful.forceClose (h : db.Faithful) : db.forceClose.1.Faithful := by
  refine ⟨fun slot hs => ?_, fun o ho => ?_⟩
  · obtain ⟨before, -, rfl⟩ := List.mem_map.1 hs
    exact .empty rfl
  · rcases List.mem_append.1 ho with ho | ho
    · exact h.outcomes o ho
    · obtain ⟨outcomes, houtcomes, ho⟩ := List.mem_flatten.1 ho
      obtain ⟨before, hbefore, rfl⟩ := List.mem_map.1 houtcomes
      simp only [Option.mem_toList, Option.map_eq_some_iff] at ho
      obtain ⟨f, hf, rfl⟩ := ho
      exact fun hsave => ((h.slots before hbefore).saving f hf hsave).failureResultFor hsave _

theorem faithful_stable : Stable Faithful where
  tryStart key request deadline h := h.tryStart key request deadline
  advance ha h := h.advance ha
  onPollEvent token h := h.onPollEvent token
  expireDeadlines now h := h.expireDeadlines now
  openWhere hp h := h.openWhere hp
  beginShutdown h := h.beginShutdown
  forceClose h := h.forceClose

end DbClient

/-- What the sink is told about saves, and what is known of those in flight. -/
structure DbUse.TellsTruth (u : DbUse) : Prop where
  told : u.told = u.client.outcomes.map (·.completion)
  truthful : ∀ o ∈ u.client.outcomes, o.request.isSave = true → o.Truthful
  inFlight : ∀ slot ∈ u.client.slots, ∀ f, slot.inFlight = some f → f.request.isSave = true →
    CommitsLast f.statements ∧ ¬ Acknowledged f.statements

/-- **The outcome of a save is truthful.** Under any calls and whatever the driver
answers, a save is completed with Committed exactly when the driver acknowledged its
COMMIT, with CommitOutcomeUnknown exactly when the COMMIT was handed over and not
acknowledged, and with a failure only when it was never handed over; and it is handed
over only after the five statements before it succeeded, in their order and on the same
connection. -/
theorem save_outcomes_truthful {config : DbClientConfig} {u : DbUse}
    (h : (dbMachine config).Reach (fun _ _ => True) u) : u.TellsTruth := by
  have hfaithful : u.client.Faithful :=
    stable_of_reach DbClient.faithful_stable (DbClient.faithful_create config) h
  refine ⟨(kept_of_reach h).told, hfaithful.outcomes, fun slot hs f hf hsave => ?_⟩
  have hsaving := (hfaithful.slots slot hs).saving f hf hsave
  exact ⟨hsaving.commits, hsaving.waiting⟩

/-- Two saves on one connection: the first is acknowledged, the shutdown finds the COMMIT
of the second on its way. -/
theorem save_outcomes_truthful_two :
    ∃ u, (dbMachine { connectionCount := 1 }).Reach (fun _ _ => True) u ∧
      u.told = [(⟨⟨.player, 1⟩, 1, 1⟩, .savePlayer .committed),
        (⟨⟨.player, 2⟩, 1, 2⟩, .savePlayer .commitOutcomeUnknown)] ∧ u.TellsTruth := by
  obtain ⟨u, hu, ht⟩ := (dbMachine { connectionCount := 1 }).exists_reach_of_replay
    (fun _ _ => True) (s := { client := .create { connectionCount := 1 } }) rfl
    [.start, .advance [(0, .done, 0)],
      .tryStart ⟨⟨.player, 1⟩, 1, 1⟩ (.savePlayer { playerId := 1, ownedSkillIds := [1] }) 9,
      .tryStart ⟨⟨.player, 2⟩, 1, 2⟩ (.savePlayer { playerId := 2, ownedSkillIds := [1] }) 9,
      .advance (List.replicate 11 (0, .done, 0) ++ [(0, .notReady, 0)]), .shutdown []]
    (fun u => u.told = [(⟨⟨.player, 1⟩, 1, 1⟩, .savePlayer .committed),
      (⟨⟨.player, 2⟩, 1, 2⟩, .savePlayer .commitOutcomeUnknown)]) (by decide +kernel)
  exact ⟨u, hu, of_decide_eq_true ht, save_outcomes_truthful hu⟩

end Snf.Worker
