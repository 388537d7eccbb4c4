import Snf.Server.TcpServer

/-! # The notices of closed connections

Every connection that the TCP server accepts is reported to the frame ingress once: when its
session is removed, or in the sweep of a shutdown while the session is still there. A report that
the ingress has no room for waits and is made again. `Noted` says where each connection stands in
this, `Posture` adds what depends on whether the server is stopping.
-/

namespace Snf.Server

open Snf.Lib Snf.Net

namespace TcpServer

variable {s s' : TcpServer} {c : Net.ConnectionId}

/-! ## Where a connection stands -/

/-- The connections that the ingress was told of. -/
def noticed (s : TcpServer) : List Net.ConnectionId := s.notices.map (·.1.connection)

/-- Those for which it has answered that they need no further notice. -/
def answered (s : TcpServer) : List Net.ConnectionId :=
  (s.notices.filter (·.2 ≠ .full)).map (·.1.connection)

/-- The connections of the pending closes. -/
def waiting (s : TcpServer) : List Net.ConnectionId :=
  s.pendingConnectionCloses.map (·.connection)

def Open (s : TcpServer) (c : Net.ConnectionId) : Prop :=
  ∃ session, s.sessions.lookup c.descriptor = some session ∧ session.connectionId = c

theorem mem_noticed_of_answered (h : c ∈ s.answered) : c ∈ s.noticed := by
  obtain ⟨notice, hnotice, hc⟩ := List.mem_map.1 h
  exact List.mem_map.2 ⟨notice, (List.mem_filter.1 hnotice).1, hc⟩

/-- Where each accepted connection stands. -/
structure Noted (s : TcpServer) : Prop where
  owned : ∀ {d session}, s.sessions.lookup d = some session →
    session.connectionId.descriptor = d ∧ session.connectionId ∈ s.accepted
  issued : ∀ c ∈ s.accepted, c.generation ≤ s.nextConnectionGeneration
  told : ∀ c ∈ s.noticed, c ∈ s.accepted
  distinct : s.waiting.Nodup
  unanswered : ∀ c ∈ s.waiting, c ∈ s.noticed ∧ c ∉ s.answered
  placed : ∀ c ∈ s.accepted, (s.Open c ∧ c ∉ s.noticed) ∨ c ∈ s.waiting ∨ c ∈ s.answered
  once : s.notices.Pairwise fun a b => a.1.connection = b.1.connection → a.2 = .full

namespace Noted

/-- A change of the other fields. -/
theorem transfer (h : Noted s) (hsessions : s'.sessions = s.sessions)
    (haccepted : s'.accepted = s.accepted)
    (hnext : s'.nextConnectionGeneration = s.nextConnectionGeneration)
    (hnotices : s'.notices = s.notices)
    (hpending : s'.pendingConnectionCloses = s.pendingConnectionCloses) : Noted s' := by
  have hnoticed : s'.noticed = s.noticed := by unfold noticed; rw [hnotices]
  have hanswered : s'.answered = s.answered := by unfold answered; rw [hnotices]
  have hwaiting : s'.waiting = s.waiting := by unfold waiting; rw [hpending]
  have hopen : ∀ c, s'.Open c ↔ s.Open c := by intro c; unfold Open; rw [hsessions]
  constructor
  · rw [hsessions, haccepted]; exact h.owned
  · rw [haccepted, hnext]; exact h.issued
  · rw [hnoticed, haccepted]; exact h.told
  · rw [hwaiting]; exact h.distinct
  · rw [hwaiting, hnoticed, hanswered]; exact h.unanswered
  · intro c hc
    rw [hopen, hnoticed, hwaiting, hanswered]
    exact h.placed c (haccepted ▸ hc)
  · rw [hnotices]; exact h.once

end Noted

/-! ## Posting a notice -/

theorem noticed_postOrKeep (closed : ConnectionClosed) (answer : PostResult) :
    (s.postOrKeep closed answer).noticed = s.noticed ++ [closed.connection] := by
  unfold postOrKeep noticed
  dsimp only
  split
  · exact List.map_append
  · exact List.map_append

theorem answered_postOrKeep (closed : ConnectionClosed) (answer : PostResult) :
    (s.postOrKeep closed answer).answered =
      s.answered ++ if answer = .full then [] else [closed.connection] := by
  unfold postOrKeep answered postNotice
  dsimp only
  split
  · next hfull => simp [pushPending, hfull]
  · next hfull => simp [hfull]

theorem waiting_postOrKeep (closed : ConnectionClosed) (answer : PostResult) :
    (s.postOrKeep closed answer).waiting =
      s.waiting ++ if answer = .full then [closed.connection] else [] := by
  unfold postOrKeep waiting postNotice
  dsimp only
  split
  · exact List.map_append
  · exact (List.append_nil _).symm

theorem fields_postOrKeep (closed : ConnectionClosed) (answer : PostResult) :
    (s.postOrKeep closed answer).sessions = s.sessions ∧
      (s.postOrKeep closed answer).accepted = s.accepted ∧
      (s.postOrKeep closed answer).nextConnectionGeneration = s.nextConnectionGeneration ∧
      (s.postOrKeep closed answer).notices = s.notices ++ [(closed, answer)] := by
  unfold postOrKeep
  dsimp only
  split
  · exact ⟨rfl, rfl, rfl, rfl⟩
  · exact ⟨rfl, rfl, rfl, rfl⟩

/-- All connections but one are in their places, and that one is due for a notice. -/
structure Due (s : TcpServer) (c : Net.ConnectionId) : Prop where
  owned : ∀ {d session}, s.sessions.lookup d = some session →
    session.connectionId.descriptor = d ∧ session.connectionId ∈ s.accepted
  issued : ∀ c ∈ s.accepted, c.generation ≤ s.nextConnectionGeneration
  told : ∀ c ∈ s.noticed, c ∈ s.accepted
  distinct : s.waiting.Nodup
  unanswered : ∀ c ∈ s.waiting, c ∈ s.noticed ∧ c ∉ s.answered
  placed : ∀ c' ∈ s.accepted, c' ≠ c →
    (s.Open c' ∧ c' ∉ s.noticed) ∨ c' ∈ s.waiting ∨ c' ∈ s.answered
  once : s.notices.Pairwise fun a b => a.1.connection = b.1.connection → a.2 = .full
  accepted : c ∈ s.accepted
  absent : c ∉ s.waiting
  open_ : c ∉ s.answered

/-- **A notice puts the connection in its place.** -/
theorem Due.postOrKeep (closed : ConnectionClosed) (h : Due s closed.connection)
    (answer : PostResult) : Noted (s.postOrKeep closed answer) := by
  obtain ⟨hsessions, haccepted, hnext, hnotices⟩ := s.fields_postOrKeep closed answer
  have hopen : ∀ c, (s.postOrKeep closed answer).Open c ↔ s.Open c := by
    intro c
    unfold Open
    rw [hsessions]
  constructor
  · rw [hsessions, haccepted]
    exact h.owned
  · rw [haccepted, hnext]
    exact h.issued
  · rw [noticed_postOrKeep, haccepted]
    intro c hc
    cases List.mem_append.1 hc with
    | inl hc => exact h.told c hc
    | inr hc => exact List.mem_singleton.1 hc ▸ h.accepted
  · rw [waiting_postOrKeep]
    split
    · refine h.distinct.append (List.nodup_singleton _) ?_
      intro c hc hsame
      exact h.absent (List.mem_singleton.1 hsame ▸ hc)
    · rw [List.append_nil]
      exact h.distinct
  · rw [waiting_postOrKeep, noticed_postOrKeep, answered_postOrKeep]
    intro c hc
    split at hc
    · next hfull =>
      rw [if_pos hfull, List.append_nil]
      cases List.mem_append.1 hc with
      | inl hc => exact ⟨List.mem_append_left _ (h.unanswered c hc).1, (h.unanswered c hc).2⟩
      | inr hc => exact ⟨List.mem_append_right _ hc, List.mem_singleton.1 hc ▸ h.open_⟩
    · next hfull =>
      rw [List.append_nil] at hc
      rw [if_neg hfull, List.mem_append, List.mem_append, List.mem_singleton]
      have hne : c ≠ closed.connection := fun he => h.absent (he ▸ hc)
      exact ⟨.inl (h.unanswered c hc).1, fun hor => hor.elim (h.unanswered c hc).2 hne⟩
  · intro c hc
    rw [haccepted] at hc
    rw [hopen, noticed_postOrKeep, waiting_postOrKeep, answered_postOrKeep]
    by_cases hsame : c = closed.connection
    · subst hsame
      by_cases hfull : answer = .full
      · rw [if_pos hfull]
        exact .inr (.inl (List.mem_append_right _ List.mem_cons_self))
      · rw [if_neg hfull, if_neg hfull]
        exact .inr (.inr (List.mem_append_right _ List.mem_cons_self))
    · rcases h.placed c hc hsame with ⟨hopen, hnew⟩ | hwaits | hdone
      · refine .inl ⟨hopen, ?_⟩
        rw [List.mem_append, List.mem_singleton]
        exact fun hor => hor.elim hnew hsame
      · exact .inr (.inl (List.mem_append_left _ hwaits))
      · exact .inr (.inr (List.mem_append_left _ hdone))
  · rw [hnotices]
    refine List.pairwise_append.2 ⟨h.once, List.pairwise_singleton _ _, ?_⟩
    intro notice hnotice last hlast hsame
    rw [List.mem_singleton.1 hlast] at hsame
    by_contra hfull
    refine h.open_ (List.mem_map.2 ⟨notice, List.mem_filter.2 ⟨hnotice, ?_⟩, hsame⟩)
    exact decide_eq_true hfull

/-- A connection that the ingress was not told of is due for its first notice. -/
theorem Noted.due (h : Noted s) (haccepted : c ∈ s.accepted) (hnew : c ∉ s.noticed) : Due s c where
  owned := h.owned
  issued := h.issued
  told := h.told
  distinct := h.distinct
  unanswered := h.unanswered
  placed c' hc' _ := h.placed c' hc'
  once := h.once
  accepted := haccepted
  absent hc := hnew (h.unanswered c hc).1
  open_ hc := hnew (mem_noticed_of_answered hc)

/-- The notice at the front of those that wait is due when it is taken out. -/
theorem Noted.due_front {closed : ConnectionClosed} {rest : List ConnectionClosed} (h : Noted s)
    (hpending : s.pendingConnectionCloses = closed :: rest) :
    Due { s with pendingConnectionCloses := rest } closed.connection := by
  have hwaiting : s.waiting = closed.connection :: rest.map (·.connection) := by
    unfold waiting
    rw [hpending, List.map_cons]
  have hfront := h.unanswered closed.connection (hwaiting ▸ List.mem_cons_self)
  obtain ⟨habsent, hdistinct⟩ := List.nodup_cons.1 (hwaiting ▸ h.distinct)
  refine ⟨h.owned, h.issued, h.told, hdistinct, ?_, ?_, h.once, h.told _ hfront.1, habsent,
    hfront.2⟩
  · intro c hc
    exact h.unanswered c (hwaiting ▸ List.mem_cons_of_mem _ hc)
  · intro c hc hne
    rcases h.placed c hc with hopen | hwaits | hdone
    · exact .inl hopen
    · rw [hwaiting] at hwaits
      exact .inr (.inl (List.mem_of_ne_of_mem hne hwaits))
    · exact .inr (.inr hdone)

theorem Noted.retryFront (h : Noted s) (answers : NoticeAnswers) :
    Noted (s.retryFront answers) := by
  unfold TcpServer.retryFront
  split
  · exact h
  · next hpending => exact (h.due_front hpending).postOrKeep _ _

/-! ## Sessions -/

/-- A session may go when the ingress was told of its connection. -/
theorem Noted.eraseSession {d : Nat} {session : Session} (h : Noted s)
    (hsession : s.sessions.lookup d = some session) (htold : session.connectionId ∈ s.noticed) :
    Noted (s.eraseSession d session.connectionId) := by
  refine ⟨?_, h.issued, h.told, h.distinct, h.unanswered, ?_, h.once⟩
  · intro d' session' hsession'
    have hkept : s.sessions.lookup d' = some session' := by
      unfold TcpServer.eraseSession at hsession'
      rw [lookup_erase_ite] at hsession'
      split at hsession'
      · cases hsession'
      · exact hsession'
    exact h.owned hkept
  · intro c hc
    rcases h.placed c hc with ⟨⟨session', hsession', hid⟩, hnew⟩ | hrest
    · refine .inl ⟨⟨session', ?_, hid⟩, hnew⟩
      have hne : c.descriptor ≠ d := by
        intro hsame
        rw [hsame, hsession] at hsession'
        cases hsession'
        exact hnew (hid ▸ htold)
      exact (AList.lookup_erase_ne hne).trans hsession'
    · exact .inr hrest

/-- The session of a descriptor is replaced by one of the same connection. -/
theorem Noted.setSession {d : Nat} {session session' : Session} (h : Noted s)
    (hsession : s.sessions.lookup d = some session)
    (hid : session'.connectionId = session.connectionId) : Noted (s.setSession d session') := by
  have howned := h.owned hsession
  refine ⟨?_, h.issued, h.told, h.distinct, h.unanswered, ?_, h.once⟩
  · intro d' session'' hlookup
    unfold TcpServer.setSession at hlookup
    rw [lookup_insert_ite] at hlookup
    split at hlookup
    · next hd =>
      cases hlookup
      rw [hid, hd]
      exact howned
    · exact h.owned hlookup
  · intro c hc
    rcases h.placed c hc with ⟨⟨session'', hlookup, hc'⟩, hnew⟩ | hrest
    · refine .inl ⟨?_, hnew⟩
      unfold Open TcpServer.setSession
      rw [lookup_insert_ite]
      split
      · next hd =>
        rw [hd, hsession] at hlookup
        cases hlookup
        exact ⟨session', rfl, hid.trans hc'⟩
      · exact ⟨session'', hlookup, hc'⟩
    · exact .inr hrest

/-- A new session has a connection that the ingress was not told of. -/
theorem Noted.acceptClient {d : Nat} (h : Noted s) (haccept : s.acceptClient d = .ok s') :
    Noted s' := by
  unfold TcpServer.acceptClient at haccept
  split at haccept
  · cases haccept
  dsimp only at haccept
  split at haccept
  · cases haccept
  next hfree =>
  split at haccept
  · cases haccept
  cases haccept
  have hnone : s.sessions.lookup d = none := Option.not_isSome_iff_eq_none.1 hfree
  have hissued : ∀ {c}, c ∈ s.accepted → c.generation ≠ s.nextConnectionGeneration + 1 := by
    intro c hc
    have hle := h.issued c hc
    omega
  refine ⟨?_, ?_, ?_, h.distinct, h.unanswered, ?_, h.once⟩
  · intro d' session hlookup
    dsimp only at hlookup ⊢
    rw [lookup_insert_ite] at hlookup
    split at hlookup
    · next hd =>
      cases hlookup
      exact ⟨hd.symm, List.mem_append_right _ List.mem_cons_self⟩
    · exact ⟨(h.owned hlookup).1, List.mem_append_left _ (h.owned hlookup).2⟩
  · intro c hc
    dsimp only at hc ⊢
    cases List.mem_append.1 hc with
    | inl hc => exact Nat.le_succ_of_le (h.issued c hc)
    | inr hc =>
      rw [List.mem_singleton.1 hc]
  · intro c hc
    exact List.mem_append_left _ (h.told c hc)
  · intro c hc
    unfold Open
    dsimp only at hc ⊢
    cases List.mem_append.1 hc with
    | inr hc =>
      rw [List.mem_singleton] at hc
      subst hc
      refine .inl ⟨⟨_, AList.lookup_insert _, rfl⟩, ?_⟩
      intro htold
      exact hissued (h.told _ htold) rfl
    | inl hc =>
      rcases h.placed c hc with ⟨⟨session, hlookup, hid⟩, hnew⟩ | hrest
      · refine .inl ⟨⟨session, ?_, hid⟩, hnew⟩
        have hne : c.descriptor ≠ d := by
          intro hsame
          rw [hsame, hnone] at hlookup
          cases hlookup
        exact (AList.lookup_insert_ne hne).trans hlookup
      · exact .inr hrest

/-! ## Serving and stopping -/

/-- While the server serves, sessions and pending closes share the capacity, and the ingress was
not told of a connection with a session. When it stops, the ingress was told of all of them. -/
structure Posture (s : TcpServer) : Prop where
  noted : Noted s
  bounded : s.isStopping = false →
    s.sessions.entries.length + s.pendingConnectionCloses.length ≤
      s.config.connectionLifecycleCapacity
  serving : s.isStopping = false →
    ∀ {d session}, s.sessions.lookup d = some session → session.connectionId ∉ s.noticed
  stopping : s.isStopping = true →
    ∀ {d session}, s.sessions.lookup d = some session → session.connectionId ∈ s.noticed
  closed : s.frameIngressClosed = true →
    s.isStopping = true ∧ s.pendingConnectionCloses = []

/-- What a call makes of the server, and that it does not throw the error of the capacity. -/
def Keeps (x : Except String TcpServer) : Prop := Yields x Posture (· ≠ capacityViolated)

namespace Posture

theorem transfer (h : Posture s) (hsessions : s'.sessions = s.sessions)
    (haccepted : s'.accepted = s.accepted)
    (hnext : s'.nextConnectionGeneration = s.nextConnectionGeneration)
    (hnotices : s'.notices = s.notices)
    (hpending : s'.pendingConnectionCloses = s.pendingConnectionCloses)
    (hstopping : s'.isStopping = s.isStopping) (hclosed : s'.frameIngressClosed = s.frameIngressClosed)
    (hconfig : s'.config = s.config) : Posture s' := by
  have hnoticed : s'.noticed = s.noticed := by unfold noticed; rw [hnotices]
  constructor
  · exact h.noted.transfer hsessions haccepted hnext hnotices hpending
  · rw [hstopping, hsessions, hpending, hconfig]
    exact h.bounded
  · rw [hstopping, hsessions, hnoticed]
    exact h.serving
  · rw [hstopping, hsessions, hnoticed]
    exact h.stopping
  · rw [hclosed, hstopping, hpending]
    exact h.closed

theorem setSession {d : Nat} {session session' : Session} (h : Posture s)
    (hsession : s.sessions.lookup d = some session)
    (hid : session'.connectionId = session.connectionId) : Posture (s.setSession d session') := by
  have hlookup : ∀ {d' session''}, (s.setSession d session').sessions.lookup d' = some session'' →
      ∃ old, s.sessions.lookup d' = some old ∧ session''.connectionId = old.connectionId := by
    intro d' session'' hlookup
    unfold TcpServer.setSession at hlookup
    rw [lookup_insert_ite] at hlookup
    split at hlookup
    · next hd =>
      cases hlookup
      exact ⟨session, hd ▸ hsession, hid⟩
    · exact ⟨session'', hlookup, rfl⟩
  refine ⟨h.noted.setSession hsession hid, ?_, ?_, ?_, h.closed⟩
  · intro hserving
    unfold TcpServer.setSession
    dsimp only
    rw [length_insert_of_lookup hsession]
    exact h.bounded hserving
  · intro hserving d' session'' hnew
    obtain ⟨old, hold, hsame⟩ := hlookup hnew
    exact hsame ▸ h.serving hserving hold
  · intro hstopping d' session'' hnew
    obtain ⟨old, hold, hsame⟩ := hlookup hnew
    exact hsame ▸ h.stopping hstopping hold

/-- A session of a stopping server goes without a notice. -/
theorem eraseSession {d : Nat} {session : Session} (h : Posture s) (hstop : s.isStopping = true)
    (hsession : s.sessions.lookup d = some session) :
    Posture (s.eraseSession d session.connectionId) := by
  refine ⟨h.noted.eraseSession hsession (h.stopping hstop hsession), ?_, ?_, ?_, h.closed⟩
  · intro hserving
    exact absurd (hserving.symm.trans hstop) Bool.false_ne_true
  · intro hserving
    exact absurd (hserving.symm.trans hstop) Bool.false_ne_true
  · intro _ d' session' hlookup
    unfold TcpServer.eraseSession at hlookup
    rw [lookup_erase_ite] at hlookup
    split at hlookup
    · cases hlookup
    · exact h.stopping hstop hlookup

end Posture

theorem hasAvailableConnectionLifecycleSlot_iff :
    s.hasAvailableConnectionLifecycleSlot = true ↔
      s.sessions.entries.length + s.pendingConnectionCloses.length <
        s.config.connectionLifecycleCapacity := by
  unfold hasAvailableConnectionLifecycleSlot
  simp only [Bool.and_eq_true, decide_eq_true_eq]
  omega

/-- The connections of two descriptors are different. -/
theorem Noted.ne_of_descriptor {d d' : Nat} {session session' : Session} (h : Noted s)
    (hsession : s.sessions.lookup d = some session) (hsession' : s.sessions.lookup d' = some session')
    (hne : d' ≠ d) : session'.connectionId ≠ session.connectionId := by
  intro hsame
  rw [← (h.owned hsession).1, ← (h.owned hsession').1, hsame] at hne
  exact hne rfl

/-- A session of a serving server is removed, and its connection announced. -/
theorem Posture.announce {d : Nat} {session : Session} (closed : ConnectionClosed)
    (answer : PostResult) (h : Posture s) (hserving : s.isStopping = false)
    (hsession : s.sessions.lookup d = some session)
    (hclosed : closed.connection = session.connectionId) :
    Posture ((s.postOrKeep closed answer).eraseSession d session.connectionId) := by
  have haccepted := (h.noted.owned hsession).2
  have hnew := h.serving hserving hsession
  rw [← hclosed] at haccepted hnew
  obtain ⟨hsessions, -, -, -⟩ := s.fields_postOrKeep closed answer
  have hnoted := (h.noted.due haccepted hnew).postOrKeep closed answer
  have hsame : (s.postOrKeep closed answer).isStopping = false ∧
      (s.postOrKeep closed answer).frameIngressClosed = s.frameIngressClosed ∧
      (s.postOrKeep closed answer).config = s.config := by
    unfold postOrKeep
    dsimp only
    split
    · exact ⟨hserving, rfl, rfl⟩
    · exact ⟨hserving, rfl, rfl⟩
  have htold : session.connectionId ∈ (s.postOrKeep closed answer).noticed := by
    rw [noticed_postOrKeep, ← hclosed]
    exact List.mem_append_right _ List.mem_cons_self
  have hlength := length_erase_of_lookup hsession
  have hpending : (s.postOrKeep closed answer).pendingConnectionCloses.length ≤
      s.pendingConnectionCloses.length + 1 := by
    unfold postOrKeep
    dsimp only
    split
    · exact Nat.le_of_eq List.length_append
    · exact Nat.le_succ _
  refine ⟨hnoted.eraseSession (hsessions ▸ hsession) htold, ?_, ?_, ?_, ?_⟩
  · intro _
    have hbound := h.bounded hserving
    unfold TcpServer.eraseSession
    dsimp only
    rw [hsessions, hsame.2.2]
    omega
  · intro _ d' session' hlookup
    have hlookup' : (s.sessions.erase d).lookup d' = some session' := hsessions ▸ hlookup
    rw [lookup_erase_ite] at hlookup'
    split at hlookup'
    · cases hlookup'
    next hne =>
    have hother := h.noted.ne_of_descriptor hsession hlookup' hne
    show session'.connectionId ∉ (s.postOrKeep closed answer).noticed
    rw [noticed_postOrKeep, List.mem_append, List.mem_singleton, hclosed]
    exact fun hor => hor.elim (h.serving hserving hlookup') hother
  · intro hstop
    exact absurd (hsame.1.symm.trans hstop) Bool.false_ne_true
  · intro hsealed
    have hstop := (h.closed (hsame.2.1.symm.trans hsealed)).1
    exact absurd (hserving.symm.trans hstop) Bool.false_ne_true

/-- **Removing a session** keeps the books, and there is room for its notice. -/
theorem Posture.removeSession (h : Posture s) (d : Nat) (cause : ConnectionCloseCause)
    (answers : NoticeAnswers) : Keeps (s.removeSession d cause answers) := by
  unfold TcpServer.removeSession
  split
  · exact .ok h
  next session hsession =>
  dsimp only
  cases hstop : s.isStopping with
  | true =>
    have hafter : (s.eraseSession d session.connectionId).isStopping = true := hstop
    rw [hafter]
    exact .ok (h.eraseSession hstop hsession)
  | false =>
    have hafter : (s.eraseSession d session.connectionId).isStopping = false := hstop
    rw [hafter]
    have hannounced := h.announce { connection := session.connectionId, cause := cause }
      (answers session.connectionId) hstop hsession rfl
    unfold notifyConnectionClosed
    rw [hafter]
    simp only [Bool.not_false, if_true, Bool.false_eq_true, if_false]
    cases hanswer : answers session.connectionId with
    | accepted =>
      rw [hanswer] at hannounced
      exact .ok hannounced
    | closed =>
      rw [hanswer] at hannounced
      exact .ok hannounced
    | full =>
      rw [hanswer] at hannounced
      dsimp only
      refine .ite ?_ ?_
      · intro hfull
        have hbound := h.bounded hstop
        have hlength := length_erase_of_lookup hsession
        have havailable : ((s.eraseSession d session.connectionId).postNotice
            { connection := session.connectionId, cause := cause } .full).hasAvailableConnectionLifecycleSlot
            = true := by
          rw [hasAvailableConnectionLifecycleSlot_iff]
          dsimp only [TcpServer.eraseSession, postNotice]
          omega
        rw [havailable] at hfull
        cases hfull
      · intro _
        exact .ok (hannounced.transfer rfl rfl rfl rfl rfl rfl rfl rfl)

theorem Posture.removeSessions (cause : ConnectionCloseCause) (answers : NoticeAnswers)
    (descriptors : List Nat) (h : Posture s) :
    Keeps (s.removeSessions cause answers descriptors) := by
  induction descriptors generalizing s with
  | nil => exact .ok h
  | cons d rest ih =>
    unfold TcpServer.removeSessions
    exact (h.removeSession d cause answers).bind fun _ hs => ih hs

theorem Posture.acceptClient {d : Nat} (h : Posture s) (hserving : s.isStopping = false)
    (hslot : s.hasAvailableConnectionLifecycleSlot = true)
    (haccept : s.acceptClient d = .ok s') : Posture s' ∧ s'.isStopping = false := by
  have hnoted := h.noted.acceptClient haccept
  unfold TcpServer.acceptClient at haccept
  split at haccept
  · cases haccept
  dsimp only at haccept
  split at haccept
  · cases haccept
  next hfree =>
  split at haccept
  · cases haccept
  cases haccept
  have hnone : s.sessions.lookup d = none := Option.not_isSome_iff_eq_none.1 hfree
  refine ⟨⟨hnoted, ?_, ?_, ?_, h.closed⟩, hserving⟩
  · intro _
    rw [hasAvailableConnectionLifecycleSlot_iff] at hslot
    have hlength := length_insert_of_none hnone
      { connectionId := ⟨d, s.nextConnectionGeneration + 1⟩
        maxPendingSendBytes := s.config.maxPendingSendBytes : Session }
    dsimp only
    omega
  · intro _ d' session hlookup
    dsimp only at hlookup
    rw [lookup_insert_ite] at hlookup
    split at hlookup
    · cases hlookup
      intro htold
      have hle := h.noted.issued _ (h.noted.told _ htold)
      dsimp only at hle
      omega
    · exact h.serving hserving hlookup
  · intro hstop
    exact absurd (hserving.symm.trans hstop) Bool.false_ne_true

theorem Posture.acceptPendingClients (descriptors : List Nat) (h : Posture s)
    (hserving : s.isStopping = false) : Keeps (s.acceptPendingClients descriptors) := by
  induction descriptors generalizing s with
  | nil => exact .ok h
  | cons d rest ih =>
    unfold TcpServer.acceptPendingClients
    refine .ite ?_ ?_
    · intro _
      exact .ok (h.transfer rfl rfl rfl rfl rfl rfl rfl rfl)
    · intro hslot
      refine .of_bind ?_ ?_
      · intro e he
        unfold TcpServer.acceptClient at he
        dsimp only at he
        split at he
        · cases he
          decide
        split at he
        · cases he
          decide
        split at he
        · cases he
          decide
        · cases he
      · intro s' haccept
        obtain ⟨hs', hserving'⟩ := h.acceptClient hserving (by simpa using hslot) haccept
        exact ih hs' hserving'

/-! ## Retries -/

theorem Posture.retryFront (h : Posture s) (answers : NoticeAnswers) :
    Posture (s.retryFront answers) := by
  have hnoted := h.noted.retryFront answers
  cases hpending : s.pendingConnectionCloses with
  | nil =>
    unfold TcpServer.retryFront
    rw [hpending]
    exact h
  | cons front rest =>
    have hwaits : front.connection ∈ s.waiting := by
      unfold waiting
      rw [hpending]
      exact List.mem_cons_self
    have hfront := (h.noted.unanswered _ hwaits).1
    have heq : s.retryFront answers =
        { s with pendingConnectionCloses := rest }.postOrKeep front (answers front.connection) := by
      unfold TcpServer.retryFront
      rw [hpending]
    -- the ingress hears of no other connection than before
    have htold : ∀ c, c ∈ (s.retryFront answers).noticed ↔ c ∈ s.noticed := by
      intro c
      rw [heq, noticed_postOrKeep, List.mem_append, List.mem_singleton]
      exact ⟨fun hor => hor.elim id fun hc => hc ▸ hfront, .inl⟩
    rw [heq] at hnoted htold ⊢
    generalize hanswer : answers front.connection = answer at hnoted htold ⊢
    unfold postOrKeep at hnoted htold ⊢
    dsimp only at hnoted htold ⊢
    have hclosed : s.frameIngressClosed ≠ true := by
      intro hsealed
      exact absurd (hpending.symm.trans (h.closed hsealed).2) (List.cons_ne_nil _ _)
    split
    · next hfull =>
      rw [if_pos hfull] at hnoted htold
      refine ⟨hnoted, ?_, ?_, ?_, fun hsealed => absurd hsealed hclosed⟩
      · intro hserving
        have hbound := h.bounded hserving
        rw [hpending] at hbound
        simpa [pushPending, postNotice, Nat.add_comm] using hbound
      · intro hserving d session hlookup
        rw [htold]
        exact h.serving hserving hlookup
      · intro hstop d session hlookup
        rw [htold]
        exact h.stopping hstop hlookup
    · next hfull =>
      rw [if_neg hfull] at hnoted htold
      refine ⟨hnoted, ?_, ?_, ?_, fun hsealed => absurd hsealed hclosed⟩
      · intro hserving
        have hbound := h.bounded hserving
        rw [hpending, List.length_cons] at hbound
        exact Nat.le_trans (Nat.add_le_add_left (Nat.le_succ _) _) hbound
      · intro hserving d session hlookup
        rw [htold]
        exact h.serving hserving hlookup
      · intro hstop d session hlookup
        rw [htold]
        exact h.stopping hstop hlookup

theorem Posture.retryAttempts (answers : NoticeAnswers) (attempts : Nat) (h : Posture s) :
    Posture (retryAttempts answers attempts s) := by
  induction attempts generalizing s with
  | zero => exact h
  | succ attempts ih => exact ih (h.retryFront answers)

theorem Posture.closeFrameIngress (h : Posture s) :
    Posture s.closeFrameIngressAfterConnectionLifecyclesDrain := by
  unfold closeFrameIngressAfterConnectionLifecyclesDrain
  split
  · exact h
  next hcond =>
  simp only [Bool.or_eq_true, Bool.not_eq_true', not_or, Bool.not_eq_false,
    List.isEmpty_iff] at hcond
  refine ⟨h.noted.transfer rfl rfl rfl rfl rfl, h.bounded, h.serving, h.stopping, ?_⟩
  intro _
  exact ⟨hcond.1.1, hcond.2⟩

theorem Posture.retryPendingConnectionCloses (h : Posture s) (answers : NoticeAnswers) :
    Posture (s.retryPendingConnectionCloses answers) :=
  (h.retryAttempts answers _).closeFrameIngress

/-! ## Events -/

theorem connectionId_receive (posts : Nat → FramePostResult) (received : List Received)
    (n : Nat) (session : Session) :
    (receive posts n session received).1.connectionId = session.connectionId := by
  induction received generalizing n session with
  | nil => rfl
  | cons result rest ih =>
    cases result with
    | closed => rfl
    | failed => rfl
    | bytes chunk =>
      have hid : (session.appendReceivedBytes chunk).2.2.connectionId = session.connectionId := rfl
      unfold receive
      generalize session.appendReceivedBytes chunk = out at hid ⊢
      obtain ⟨frames, error, session'⟩ := out
      cases error with
      | some e => exact hid
      | none =>
        dsimp only
        split
        · exact hid
        · exact (ih _ _).trans hid

theorem Posture.handleRead {d : Nat} {received : List Received} {posts : Nat → FramePostResult}
    {cause : Option ConnectionCloseCause} (h : Posture s)
    (hread : s.handleRead d received posts = some (s', cause)) : Posture s' := by
  unfold TcpServer.handleRead at hread
  split at hread
  · cases hread
  next session hsession =>
  have hid := connectionId_receive posts received s.frames.length session
  cases hread
  exact (h.setSession hsession hid).transfer rfl rfl rfl rfl rfl rfl rfl rfl

theorem consumeSentBytes_yields (session : Session) (count : Nat) :
    Yields (session.consumeSentBytes count)
      (fun out => out.1.connectionId = session.connectionId) (· ≠ capacityViolated) := by
  unfold Session.consumeSentBytes
  split
  · exact .error (by decide)
  refine .ite (fun _ => .error (by decide)) fun _ => ?_
  dsimp only
  exact .ite (fun _ => .ok rfl) fun _ => .ok rfl

theorem flushPendingSend_yields (sent : List Sent) (session : Session) :
    Yields (flushPendingSend session sent)
      (fun out => out.1.connectionId = session.connectionId) (· ≠ capacityViolated) := by
  induction sent generalizing session with
  | nil => exact .ok rfl
  | cons result rest ih =>
    cases result with
    | failed => exact .ok rfl
    | bytes count =>
      unfold flushPendingSend
      refine .ite (fun _ => .ok rfl) fun _ => .ite (fun _ => .ok rfl) fun _ => ?_
      have hconsumed := consumeSentBytes_yields session count
      generalize session.consumeSentBytes count = out at hconsumed ⊢
      cases out with
      | error e => exact hconsumed
      | ok out =>
        obtain ⟨session', whole⟩ := out
        have hrest := ih session'
        dsimp only
        generalize flushPendingSend session' rest = out' at hrest ⊢
        cases out' with
        | error e => exact hrest
        | ok out' => exact hrest.trans hconsumed

theorem Posture.handleWrite (h : Posture s) (d : Nat) (sent : List Sent) :
    Yields (s.handleWrite d sent) (fun out => ∀ s' cause, out = some (s', cause) → Posture s')
      (· ≠ capacityViolated) := by
  unfold TcpServer.handleWrite
  split
  · exact .ok fun _ _ hnone => nomatch hnone
  next session hsession =>
  have hflushed := flushPendingSend_yields sent session
  generalize flushPendingSend session sent = out at hflushed ⊢
  cases out with
  | error e => exact hflushed
  | ok out =>
    intro s' cause hout
    cases hout
    exact (h.setSession hsession hflushed).transfer rfl rfl rfl rfl rfl rfl rfl rfl

theorem Posture.finishEvent (h : Posture s) (d : Nat) (flags : EventFlags)
    (cause : Option ConnectionCloseCause) (answers : NoticeAnswers) :
    Keeps (s.finishEvent d flags cause answers) := by
  unfold TcpServer.finishEvent
  dsimp only
  split
  · exact h.removeSession d _ answers
  · exact .ok h

theorem Posture.handleClientEvent (h : Posture s) (d : Nat) (flags : EventFlags)
    (received : List Received) (posts : Nat → FramePostResult) (sent : List Sent)
    (answers : NoticeAnswers) :
    Keeps (s.handleClientEvent d flags received posts sent answers) := by
  unfold TcpServer.handleClientEvent
  refine .ite (fun _ => h.finishEvent d flags _ answers) fun _ => ?_
  dsimp only
  have hread : ∀ s' cause, (if (!s.isStopping && (flags.readable || flags.readHangUp ||
      flags.hangUp)) = true then s.handleRead d received posts else some (s, none)) =
        some (s', cause) → Posture s' := by
    intro s' cause hout
    split at hout
    · exact h.handleRead hout
    · cases hout
      exact h
  split
  · exact .ok h
  · next hout => exact (hread _ _ hout).finishEvent d flags _ answers
  · next s' hout =>
    have hs' := hread _ _ hout
    refine .ite (fun _ => ?_) fun _ => hs'.finishEvent d flags none answers
    have hwrite := hs'.handleWrite d sent
    generalize s'.handleWrite d sent = out at hwrite ⊢
    cases out with
    | error e => exact hwrite
    | ok out =>
      cases out with
      | none => exact .ok hs'
      | some out => exact (hwrite _ _ rfl).finishEvent d flags out.2 answers

theorem enqueueFrame_yields (session : Session) (frame : Snf.Protocol.Frame) :
    Yields (session.enqueueFrame frame)
      (fun out => ∀ session', out = some session' → session'.connectionId = session.connectionId)
      (· ≠ capacityViolated) := by
  unfold Session.enqueueFrame Snf.Protocol.encodeFrame
  split
  · next e he =>
    refine .error ?_
    split at he
    · cases he
      decide
    split at he
    · cases he
      decide
    · cases he
  · refine .ite (fun _ => .ok fun _ hnone => nomatch hnone) fun _ => .ok ?_
    intro session' hsome
    cases hsome
    rfl

theorem Posture.handleOutboundAction (h : Posture s) (action : OutboundAction)
    (answers : NoticeAnswers) : Keeps (s.handleOutboundAction action answers) := by
  have hstale : Posture s.countStaleAction := h.transfer rfl rfl rfl rfl rfl rfl rfl rfl
  cases action with
  | sendFrame connection frame =>
    unfold TcpServer.handleOutboundAction
    dsimp only
    split
    · exact .ok hstale
    next session hcurrent =>
    have hsession : s.sessions.lookup connection.descriptor = some session :=
      (Option.filter_eq_some_iff.1 hcurrent).1
    have henqueued := enqueueFrame_yields session frame
    generalize session.enqueueFrame frame = out at henqueued ⊢
    cases out with
    | error e => exact henqueued
    | ok out =>
      cases out with
      | none => exact h.removeSession _ _ answers
      | some session' => exact .ok (h.setSession hsession (henqueued _ rfl))
  | closeConnection connection =>
    unfold TcpServer.handleOutboundAction
    dsimp only
    split
    · exact .ok hstale
    · have hcounted : Posture { s with stats := { s.stats with
          protocolErrors := s.stats.protocolErrors + 1 } } :=
        h.transfer rfl rfl rfl rfl rfl rfl rfl rfl
      exact hcounted.removeSession _ _ answers

theorem Posture.closeFailedAdmissions (answers : NoticeAnswers) (failed : List Net.ConnectionId)
    (h : Posture s) : Keeps (s.closeFailedAdmissions answers failed) := by
  induction failed generalizing s with
  | nil => exact .ok h
  | cons connection rest ih =>
    unfold TcpServer.closeFailedAdmissions
    split
    · exact ih (h.transfer rfl rfl rfl rfl rfl rfl rfl rfl)
    · have hcounted : Posture (s.countAdmissionFailure 1) :=
        h.transfer rfl rfl rfl rfl rfl rfl rfl rfl
      exact (hcounted.removeSession _ _ answers).bind fun _ hs => ih hs

theorem Posture.closeConnectionsWithFailedOutboundAdmission (h : Posture s)
    (failed : List Net.ConnectionId) (closeAllSessions : Bool) (answers : NoticeAnswers) :
    Keeps (s.closeConnectionsWithFailedOutboundAdmission failed closeAllSessions answers) := by
  unfold TcpServer.closeConnectionsWithFailedOutboundAdmission
  refine (h.closeFailedAdmissions answers failed).bind fun s' hs' => ?_
  refine .ite (fun _ => .ok hs') fun _ => ?_
  refine Posture.removeSessions .overflow answers _ ?_
  exact hs'.transfer rfl rfl rfl rfl rfl rfl rfl rfl

/-! ## Shutdown -/

/-- The sweep of a shutdown, from a session on: the ingress is told of the connections of the
sessions, and nothing else is done. -/
theorem sweep_sessions (answers : NoticeAnswers) (sessions : List Session) (h : Noted s)
    (haccepted : ∀ session ∈ sessions, session.connectionId ∈ s.accepted)
    (hnew : ∀ session ∈ sessions, session.connectionId ∉ s.noticed)
    (hdistinct : (sessions.map (·.connectionId)).Nodup)
    (hafter : sessions.foldl (sweepNotice answers) s = s') :
    Noted s' ∧ s'.noticed = s.noticed ++ sessions.map (·.connectionId) ∧
      s'.sessions = s.sessions ∧ s'.isStopping = s.isStopping ∧
      s'.frameIngressClosed = s.frameIngressClosed := by
  induction sessions generalizing s with
  | nil =>
    cases hafter
    exact ⟨h, (List.append_nil _).symm, rfl, rfl, rfl⟩
  | cons session rest ih =>
    obtain ⟨hother, hrest⟩ := List.nodup_cons.1 hdistinct
    have hone := (h.due (haccepted session List.mem_cons_self)
      (hnew session List.mem_cons_self)).postOrKeep
        { connection := session.connectionId, cause := .serverShutdown }
        (answers session.connectionId)
    have htold : (sweepNotice answers s session).noticed = s.noticed ++ [session.connectionId] :=
      noticed_postOrKeep _ _
    obtain ⟨hsessions, hsame, -, -⟩ := s.fields_postOrKeep
      { connection := session.connectionId, cause := .serverShutdown }
      (answers session.connectionId)
    have hflags : (sweepNotice answers s session).isStopping = s.isStopping ∧
        (sweepNotice answers s session).frameIngressClosed = s.frameIngressClosed := by
      unfold sweepNotice postOrKeep
      dsimp only
      split
      · exact ⟨rfl, rfl⟩
      · exact ⟨rfl, rfl⟩
    obtain ⟨hnoted, hnoticed, hkept, hstopping, hclosed⟩ := ih hone
      (fun session' hmem => by
        rw [hsame]
        exact haccepted session' (List.mem_cons_of_mem _ hmem))
      (fun session' hmem => by
        have hne : session'.connectionId ≠ session.connectionId := by
          intro hid
          exact hother (List.mem_map.2 ⟨session', hmem, hid⟩)
        have hpart : session'.connectionId ∉ s.noticed ++ [session.connectionId] := by
          rw [List.mem_append, List.mem_singleton]
          exact fun hor => hor.elim (hnew session' (List.mem_cons_of_mem _ hmem)) hne
        exact fun hmem => hpart (htold ▸ hmem))
      hrest hafter
    refine ⟨hnoted, ?_, hkept.trans hsessions, hstopping.trans hflags.1, hclosed.trans hflags.2⟩
    rw [hnoticed, List.map_cons]
    refine (congrArg (· ++ _) htold).trans ?_
    rw [List.append_assoc]
    rfl

/-- The sessions of the table have different connections. -/
theorem Noted.nodup_sessions (h : Noted s) :
    ((s.sessions.entries.map (·.2)).map (·.connectionId)).Nodup := by
  have hkeys : ((s.sessions.entries.map (·.2)).map (·.connectionId)).map (·.descriptor) =
      s.sessions.keys := by
    rw [List.map_map, List.map_map]
    refine List.map_congr_left fun entry hentry => ?_
    exact (h.owned (AList.mem_lookup_iff.2 hentry)).1
  refine List.Nodup.of_map (·.descriptor) ?_
  rw [hkeys]
  exact s.sessions.keys_nodup

theorem Posture.sweep (h : Posture s) (hserving : s.isStopping = false) (answers : NoticeAnswers) :
    Posture ((s.sessions.entries.map (·.2)).foldl (sweepNotice answers)
      { s with isStopping := true }) := by
  have hlookup : ∀ {session}, session ∈ s.sessions.entries.map (·.2) →
      ∃ d, s.sessions.lookup d = some session := by
    intro session hmem
    obtain ⟨entry, hentry, hsession⟩ := List.mem_map.1 hmem
    exact ⟨entry.1, hsession ▸ AList.mem_lookup_iff.2 hentry⟩
  obtain ⟨hnoted, htold, hsessions, hstop, hclosed⟩ := sweep_sessions answers
    (s.sessions.entries.map (·.2))
    (h.noted.transfer rfl rfl rfl rfl rfl : Noted { s with isStopping := true })
    (fun session hmem => by
      obtain ⟨d, hsession⟩ := hlookup hmem
      exact (h.noted.owned hsession).2)
    (fun session hmem => by
      obtain ⟨d, hsession⟩ := hlookup hmem
      exact h.serving hserving hsession)
    h.noted.nodup_sessions rfl
  refine ⟨hnoted, ?_, ?_, ?_, ?_⟩
  · intro hfalse
    exact absurd (hfalse.symm.trans hstop) Bool.false_ne_true
  · intro hfalse
    exact absurd (hfalse.symm.trans hstop) Bool.false_ne_true
  · intro _ d session hsession
    rw [hsessions] at hsession
    rw [htold]
    have hentry := AList.mem_lookup_iff.1 hsession
    exact List.mem_append_right _ (List.mem_map_of_mem (List.mem_map_of_mem hentry))
  · intro hsealed
    have hstopped := (h.closed (hclosed.symm.trans hsealed)).1
    exact absurd (hserving.symm.trans hstopped) Bool.false_ne_true

theorem Posture.completeShutdown (h : Posture s) (answers : NoticeAnswers) :
    Keeps (s.completeShutdownAfterLogicRuntimeDrained answers) :=
  h.removeSessions .serverShutdown answers _

theorem Posture.beginShutdown (h : Posture s) (controlDrained : Bool) (sweep retry : NoticeAnswers) :
    Keeps (s.beginShutdown controlDrained sweep retry) := by
  unfold TcpServer.beginShutdown
  refine .ite (fun _ => .ok h) fun hserving => ?_
  have hswept := h.sweep (Bool.eq_false_iff.2 hserving) sweep
  have hraised := Posture.retryPendingConnectionCloses
    (hswept.transfer rfl rfl rfl rfl rfl rfl rfl rfl : Posture (raiseHighWaterMark _)) retry
  exact .ite (fun _ => hraised.completeShutdown retry) fun _ => .ok hraised

theorem Posture.handleRuntimeCompletion (h : Posture s) (failed drained controlDrained : Bool)
    (sweep retry : NoticeAnswers) :
    Keeps (s.handleRuntimeCompletion failed drained controlDrained sweep retry) := by
  have hdrained : Posture { s with logicRuntimeDrained := true } :=
    h.transfer rfl rfl rfl rfl rfl rfl rfl rfl
  unfold TcpServer.handleRuntimeCompletion
  refine .ite (fun _ => ?_) fun _ => .ite (fun _ => ?_) fun _ => .ok h
  · refine (hdrained.beginShutdown controlDrained sweep retry).bind fun s' hs' => ?_
    refine Posture.removeSessions .serverShutdown retry _ ?_
    exact hs'.transfer rfl rfl rfl rfl rfl rfl rfl rfl
  · exact .ite (fun _ => hdrained.completeShutdown retry) fun _ => .ok hdrained

/-! ## Runs -/

/-- **Every call keeps the books**, and none throws the error of the capacity. -/
theorem Posture.transition (h : Posture s) (action : TcpAction) : Keeps (s.transition action) := by
  cases action with
  | accept descriptors =>
    refine .ite (fun _ => .ok h) fun hserving => ?_
    exact h.acceptPendingClients descriptors (Bool.eq_false_iff.2 hserving)
  | clientEvent token flags received posts sent answers =>
    unfold TcpServer.transition
    dsimp only
    split
    · exact .ok h
    · exact h.handleClientEvent _ flags received posts sent answers
  | outbound action answers => exact h.handleOutboundAction action answers
  | failedAdmissions failed closeAllSessions answers =>
    exact h.closeConnectionsWithFailedOutboundAdmission failed closeAllSessions answers
  | runtimeCompletion failed drained controlDrained sweep retry =>
    exact h.handleRuntimeCompletion failed drained controlDrained sweep retry
  | controlDrained answers => exact .ite (fun _ => h.completeShutdown answers) fun _ => .ok h
  | retry answers => exact .ok (h.retryPendingConnectionCloses answers)
  | stop controlDrained sweep retry => exact h.beginShutdown controlDrained sweep retry
  | deadlineExpired answers =>
    refine .ite (fun _ => ?_) fun _ => .ok h
    refine Posture.removeSessions .serverShutdown answers _ ?_
    exact h.transfer rfl rfl rfl rfl rfl rfl rfl rfl

theorem posture_create {config : TcpServerConfig} (h : create config = .ok s) : Posture s := by
  unfold create at h
  split at h
  · cases h
  cases h
  refine ⟨⟨?_, ?_, ?_, List.nodup_nil, ?_, ?_, List.Pairwise.nil⟩, ?_, ?_, ?_, ?_⟩
  · exact fun hlookup => nomatch hlookup
  · exact fun c hc => absurd hc List.not_mem_nil
  · exact fun c hc => absurd hc List.not_mem_nil
  · exact fun c hc => absurd hc List.not_mem_nil
  · exact fun c hc => absurd hc List.not_mem_nil
  · exact fun _ => Nat.zero_le _
  · exact fun _ _ _ hlookup => nomatch hlookup
  · exact fun hstop => nomatch hstop
  · exact fun hclosed => nomatch hclosed

end TcpServer

open TcpServer

theorem posture_of_reach {config : TcpServerConfig} {guard : TcpServer → TcpAction → Prop}
    {s : TcpServer} (h : (tcpMachine config).Reach guard s) : Posture s := by
  refine h.invariant (P := Posture) (fun _ => posture_create) ?_
  intro s action s' _ hs _ hstep
  have hkeeps := hs.transition action
  unfold tcpMachine at hstep
  dsimp only at hstep
  cases hout : s.transition action with
  | error e =>
    rw [hout] at hstep
    cases hstep
  | ok out =>
    rw [hout] at hstep hkeeps
    cases hstep
    exact hkeeps

/-- **The notices of closed connections.** In every run: while the server is not stopping, sessions
and pending closes stay within the capacity, and no call throws the error of the capacity. An
accepted connection has a session and no notice yet, or a pending close, or an answer, and only
one of these. A notice follows another of the same connection only when that was answered with
Full. And the ingress is closed only when all connections are answered. -/
theorem close_notices {config : TcpServerConfig} {s : TcpServer}
    (h : (tcpMachine config).Reach (fun _ _ => True) s) :
    (s.isStopping = false →
      s.sessions.entries.length + s.pendingConnectionCloses.length ≤
        s.config.connectionLifecycleCapacity) ∧
    (∀ action, s.transition action ≠ .error capacityViolated) ∧
    (∀ c ∈ s.accepted,
      ((s.Open c ∧ c ∉ s.noticed) ∧ c ∉ s.waiting ∧ c ∉ s.answered) ∨
      (¬(s.Open c ∧ c ∉ s.noticed) ∧ c ∈ s.waiting ∧ c ∉ s.answered) ∨
      (¬(s.Open c ∧ c ∉ s.noticed) ∧ c ∉ s.waiting ∧ c ∈ s.answered)) ∧
    (s.notices.Pairwise fun a b => a.1.connection = b.1.connection → a.2 = .full) ∧
    (s.frameIngressClosed = true → ∀ c ∈ s.accepted, c ∈ s.answered) := by
  have hs := posture_of_reach h
  refine ⟨hs.bounded, ?_, ?_, hs.noted.once, ?_⟩
  · intro action herror
    have hkeeps := hs.transition action
    rw [herror] at hkeeps
    exact hkeeps rfl
  · intro c hc
    rcases hs.noted.placed c hc with ⟨hopen, hnew⟩ | hwaits | hdone
    · refine .inl ⟨⟨hopen, hnew⟩, ?_, ?_⟩
      · exact fun hwaits => hnew (hs.noted.unanswered c hwaits).1
      · exact fun hdone => hnew (mem_noticed_of_answered hdone)
    · obtain ⟨htold, hanswer⟩ := hs.noted.unanswered c hwaits
      exact .inr (.inl ⟨fun hnew => hnew.2 htold, hwaits, hanswer⟩)
    · refine .inr (.inr ⟨fun hnew => hnew.2 (mem_noticed_of_answered hdone), ?_, hdone⟩)
      exact fun hwaits => (hs.noted.unanswered c hwaits).2 hdone
  · intro hclosed c hc
    obtain ⟨hstop, hnone⟩ := hs.closed hclosed
    rcases hs.noted.placed c hc with ⟨⟨session, hsession, hid⟩, hnew⟩ | hwaits | hdone
    · exact absurd (hid ▸ hs.stopping hstop hsession) hnew
    · unfold waiting at hwaits
      rw [hnone] at hwaits
      exact absurd hwaits List.not_mem_nil
    · exact hdone

/-- Two connections. The ingress is full when the first of them is closed, and in the sweep of a
shutdown, so that both notices wait; then it accepts them. -/
def noticesRun : List TcpAction :=
  [.accept [5, 6, 7],
    .clientEvent 1 { readable := true } [.closed] (fun _ => .accepted) [] (fun _ => .full),
    .stop true (fun _ => .full) (fun _ => .full),
    .retry (fun _ => .accepted)]

theorem close_notices_two :
    ∃ s, (tcpMachine { connectionLifecycleCapacity := 2 }).Reach (fun _ _ => True) s ∧
      s.accepted = [⟨5, 1⟩, ⟨6, 2⟩] ∧ s.notices.length = 6 ∧ s.frameIngressClosed = true ∧
      ∀ c ∈ s.accepted, c ∈ s.answered := by
  obtain ⟨s, hs, htest⟩ :=
    (tcpMachine { connectionLifecycleCapacity := 2 }).exists_reach_of_replay (fun _ _ => True)
      (s := { config := { connectionLifecycleCapacity := 2 } }) rfl noticesRun
      (fun s => s.accepted = [⟨5, 1⟩, ⟨6, 2⟩] ∧ s.notices.length = 6 ∧ s.frameIngressClosed = true)
      (by decide +kernel)
  obtain ⟨haccepted, hnotices, hclosed⟩ := of_decide_eq_true htest
  exact ⟨s, hs, haccepted, hnotices, hclosed, (close_notices hs).2.2.2.2 hclosed⟩

end Snf.Server
