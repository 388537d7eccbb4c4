import Snf.Game.SkillAdmission
import Snf.Lib.Balance

/-! # The ledger of a battle

Everyone's health is an account: what a combatant comes with is its credit, what it is dealt are
its debits. `Fits` says what an event may be, given the events before it. The figures of the Room
are the balances of these accounts, in every state of every run.
-/

namespace Snf.Game

open Snf.Lib

inductive Combatant where
  | enemy (id : EnemyId)
  | participant (id : PlayerId)
deriving DecidableEq, Repr

namespace BattleEvent

/-- Who comes with which health. -/
def arrival : BattleEvent → Option (Combatant × Nat)
  | .enemySpawned id _ health => some (.enemy id, health)
  | .participantSpawned id _ health => some (.participant id, health)
  | _ => none

/-- Who is dealt which amount, and the health that is left. -/
def damage : BattleEvent → Option (Combatant × Nat × Nat)
  | .enemyDamaged target _ _ amount health => some (.enemy target, amount, health)
  | .participantDamaged target _ amount health => some (.participant target, amount, health)
  | _ => none

def death : BattleEvent → Option Combatant
  | .enemyDied id => some (.enemy id)
  | .participantDied id => some (.participant id)
  | _ => none

/-- Those that an event finds alive: who is hit, moves or attacks, who uses a skill and who is
aimed at. -/
def involved : BattleEvent → List Combatant
  | .enemyDamaged target _ _ _ _ => [.enemy target]
  | .enemyPositioned enemy _ => [.enemy enemy]
  | .participantDamaged target attacker _ _ => [.participant target, .enemy attacker]
  | .participantMoved player _ => [.participant player]
  | .projectileSpawned _ owner _ target _ => [.participant owner, .enemy target]
  | .skillWhiffed actor _ => [.participant actor]
  | _ => []

/-- The death that has to be told next. -/
def demands (event : BattleEvent) : Option Combatant :=
  event.damage.bind fun (who, _, health) => if health = 0 then some who else none

/-- What an event posts to the health of a combatant. -/
def posting (who : Combatant) (event : BattleEvent) : Option Posting :=
  match event.arrival, event.damage with
  | some (newcomer, health), _ => if newcomer = who then some (.credit health) else none
  | none, some (target, amount, _) => if target = who then some (.debit amount) else none
  | none, none => none

theorem damage_of_arrival {event : BattleEvent} {who : Combatant} {full : Nat}
    (h : event.arrival = some (who, full)) : event.damage = none := by
  cases event <;> first | rfl | cases h

theorem plain_of_death {event : BattleEvent} {who : Combatant} (h : event.death = some who) :
    event.arrival = none ∧ event.damage = none ∧ event.involved = [] := by
  cases event <;> first | exact ⟨rfl, rfl, rfl⟩ | cases h

end BattleEvent

/-! ## Histories -/

section Histories

variable (H : List BattleEvent)

def health (who : Combatant) : Option Nat := balance (BattleEvent.posting who) H

/-- All that a combatant has been dealt. -/
def damageTo (who : Combatant) : Nat := debits (BattleEvent.posting who) H

/-- Someone has come with this health. -/
def Arrived (who : Combatant) (full : Nat) : Prop := ∃ event ∈ H, event.arrival = some (who, full)

/-- The death that is still to be told. -/
def deathDue : Option Combatant := H.getLast?.bind BattleEvent.demands

/-- What an event may be after the events of a history. -/
structure Fits (event : BattleEvent) : Prop where
  involved : ∀ who ∈ event.involved, ∃ left, health H who = some left ∧ left ≠ 0
  arrival : ∀ who full, event.arrival = some (who, full) → health H who = none
  damage : ∀ who amount left, event.damage = some (who, amount, left) →
    health H who = some (left + amount)
  death : deathDue H = event.death

end Histories

/-- A history in which every event fits. -/
abbrev Lawful (H : List BattleEvent) : Prop := Throughout Fits H

section Histories

variable {H : List BattleEvent} {event : BattleEvent}

theorem deathDue_concat : deathDue (H ++ [event]) = event.demands := by
  simp [deathDue]

theorem demands_of_plain (h : event.damage = none) : event.demands = none := by
  rw [BattleEvent.demands, h]
  rfl

theorem health_arrival {newcomer : Combatant} {full : Nat}
    (h : event.arrival = some (newcomer, full)) (who : Combatant) :
    health (H ++ [event]) who = if newcomer = who then some full else health H who := by
  rw [health, balance_concat, BattleEvent.posting, h]
  dsimp only
  split <;> rfl

theorem health_damage {target : Combatant} {amount left : Nat}
    (h : event.damage = some (target, amount, left)) (who : Combatant) :
    health (H ++ [event]) who =
      if target = who then (health H who).map (· - amount) else health H who := by
  have harrival : event.arrival = none := by
    cases harrival : event.arrival with
    | none => rfl
    | some entry =>
      rw [BattleEvent.damage_of_arrival harrival] at h
      cases h
  rw [health, balance_concat, BattleEvent.posting, h, harrival]
  dsimp only
  split <;> rfl

theorem health_plain (harrival : event.arrival = none) (hdamage : event.damage = none)
    (who : Combatant) : health (H ++ [event]) who = health H who := by
  refine balance_concat_none ?_
  rw [BattleEvent.posting, harrival, hdamage]

end Histories

namespace Room

/-- The figures of the Room are those of the history. -/
structure Figures (H : List BattleEvent) (r : Room) : Prop where
  enemies : ∀ e ∈ r.enemies, health H (.enemy e.id) = some e.health
  gone : ∀ id left, health H (.enemy id) = some left → id < r.nextEnemyId ∧
    ((∀ e ∈ r.enemies, e.id ≠ id) → left = 0)
  participants : ∀ p ∈ r.participants, health H (.participant p.playerId) = some p.currentHealth

/-- What is counted of an enemy. -/
def enemyFigures (e : Enemy) : EnemyId × Nat := (e.id, e.health)

/-- What is counted of a participant. -/
def participantFigures (p : Participant) : PlayerId × Nat := (p.playerId, p.currentHealth)

namespace Figures

variable {H : List BattleEvent} {r r' : Room} {event : BattleEvent}

theorem congr (h : Figures H r)
    (henemies : r'.enemies.map enemyFigures = r.enemies.map enemyFigures)
    (hparticipants : r'.participants.map participantFigures =
      r.participants.map participantFigures)
    (hnext : r'.nextEnemyId = r.nextEnemyId) : Figures H r' := by
  refine ⟨?_, ?_, ?_⟩
  · intro e he
    have hmem : enemyFigures e ∈ r.enemies.map enemyFigures := henemies ▸ List.mem_map_of_mem he
    obtain ⟨e₀, he₀, heq⟩ := List.mem_map.1 hmem
    simp only [enemyFigures, Prod.mk.injEq] at heq
    rw [← heq.1, ← heq.2]
    exact h.enemies e₀ he₀
  · intro id left hleft
    obtain ⟨hissued, hgone⟩ := h.gone id left hleft
    refine ⟨hnext ▸ hissued, fun habsent => hgone ?_⟩
    intro e he heq
    have hmem : enemyFigures e ∈ r'.enemies.map enemyFigures := henemies ▸ List.mem_map_of_mem he
    obtain ⟨e', he', heq'⟩ := List.mem_map.1 hmem
    simp only [enemyFigures, Prod.mk.injEq] at heq'
    exact habsent e' he' (heq'.1.trans heq)
  · intro p hp
    have hmem : participantFigures p ∈ r.participants.map participantFigures :=
      hparticipants ▸ List.mem_map_of_mem hp
    obtain ⟨p₀, hp₀, heq⟩ := List.mem_map.1 hmem
    simp only [participantFigures, Prod.mk.injEq] at heq
    rw [← heq.1, ← heq.2]
    exact h.participants p₀ hp₀

/-- An event that touches nobody's health. -/
theorem plain (h : Figures H r) (harrival : event.arrival = none) (hdamage : event.damage = none) :
    Figures (H ++ [event]) r := by
  have hsame (who : Combatant) : health (H ++ [event]) who = health H who :=
    health_plain harrival hdamage who
  refine ⟨fun e he => ?_, fun id left => ?_, fun p hp => ?_⟩
  · rw [hsame]
    exact h.enemies e he
  · rw [hsame]
    exact h.gone id left
  · rw [hsame]
    exact h.participants p hp

theorem strike (h : Figures H r) (ho : r.InOrder) {before after : List Participant}
    {p : Participant} (hsplit : r.participants = before ++ p :: after) {amount left : Nat}
    (hdamage : event.damage = some (.participant p.playerId, amount, left)) :
    Figures (H ++ [event]) (r.withParticipants (before ++ struck p amount :: after)) := by
  refine ⟨?_, ?_, ?_⟩
  · intro e he
    rw [health_damage hdamage, if_neg nofun]
    exact h.enemies e he
  · intro id left hleft
    rw [health_damage hdamage, if_neg nofun] at hleft
    exact h.gone id left hleft
  · intro q hq
    have hq : q ∈ before ++ struck p amount :: after := hq
    rw [health_damage hdamage]
    by_cases hid : p.playerId = q.playerId
    · have hmine : q = struck p amount := by
        have hself : struck p amount ∈ before ++ struck p amount :: after := by simp
        have hkeys : ((before ++ struck p amount :: after).map (·.playerId)).Nodup := by
          have hnodup := ho.nodup
          rw [hsplit, List.map_append, List.map_cons] at hnodup
          rw [List.map_append, List.map_cons]
          exact hnodup
        exact List.inj_on_of_nodup_map hkeys hq hself hid.symm
      rw [if_pos (hid ▸ rfl), ← hid, h.participants p (by simp [hsplit]), hmine]
      rfl
    · have hother : q ∈ r.participants := by
        rw [hsplit]
        rcases List.mem_append.1 hq with hbefore | hrest
        · exact List.mem_append_left _ hbefore
        · rcases List.mem_cons.1 hrest with rfl | hafter
          · exact absurd rfl hid
          · exact List.mem_append_right _ (List.mem_cons_of_mem _ hafter)
      rw [if_neg fun heq => hid (Combatant.participant.inj heq)]
      exact h.participants q hother

theorem wound (h : Figures H r) (hkeys : (r.enemies.map (·.id)).Nodup) {before after : List Enemy}
    {e : Enemy} (hsplit : r.enemies = before ++ e :: after) {amount left : Nat}
    (hdamage : event.damage = some (.enemy e.id, amount, left)) :
    Figures (H ++ [event])
      (r.withEnemies (before ++ { e with health := e.health - amount } :: after)) := by
  have hbefore := h.enemies e (by simp [hsplit])
  have hself (id : EnemyId) : health (H ++ [event]) (.enemy id) =
      if e.id = id then some (e.health - amount) else health H (.enemy id) := by
    rw [health_damage hdamage]
    by_cases hid : e.id = id
    · rw [if_pos (hid ▸ rfl), if_pos hid, ← hid, hbefore]
      rfl
    · rw [if_neg hid, if_neg fun heq => hid (Combatant.enemy.inj heq)]
  refine ⟨?_, ?_, ?_⟩
  · intro c hc
    have hc : c ∈ before ++ { e with health := e.health - amount } :: after := hc
    rw [hself]
    rw [hsplit] at hkeys
    by_cases hid : e.id = c.id
    · have hmine : c = { e with health := e.health - amount } := by
        refine List.inj_on_of_nodup_map ?_ hc (by simp) hid.symm
        rw [List.map_append, List.map_cons] at hkeys ⊢
        exact hkeys
      rw [if_pos hid, hmine]
    · rw [if_neg hid]
      refine h.enemies c ?_
      rw [hsplit]
      rcases List.mem_append.1 hc with hfirst | hrest
      · exact List.mem_append_left _ hfirst
      · rcases List.mem_cons.1 hrest with rfl | hlast
        · exact absurd rfl hid
        · exact List.mem_append_right _ (List.mem_cons_of_mem _ hlast)
  · intro id left hleft
    rw [hself] at hleft
    split at hleft
    · next hid =>
      refine ⟨hid ▸ (h.gone e.id e.health hbefore).1, fun habsent => ?_⟩
      refine absurd hid (habsent { e with health := e.health - amount } ?_)
      exact List.mem_append_right _ List.mem_cons_self
    · next hid =>
      obtain ⟨hissued, hgone⟩ := h.gone id left hleft
      refine ⟨hissued, fun habsent => hgone ?_⟩
      intro c hc
      rw [hsplit] at hc
      rcases List.mem_append.1 hc with hfirst | hrest
      · exact habsent c (List.mem_append_left _ hfirst)
      · rcases List.mem_cons.1 hrest with rfl | hlast
        · exact hid
        · exact habsent c (List.mem_append_right _ (List.mem_cons_of_mem _ hlast))
  · intro p hp
    rw [health_damage hdamage, if_neg nofun]
    exact h.participants p hp

/-- The next enemy comes. -/
theorem arrive (h : Figures H r) {e : Enemy} (hid : e.id = r.nextEnemyId)
    (harrival : event.arrival = some (.enemy e.id, e.health)) :
    Figures (H ++ [event])
      { r with enemies := r.enemies ++ [e], nextEnemyId := r.nextEnemyId + 1 } := by
  have hself (id : EnemyId) : health (H ++ [event]) (.enemy id) =
      if e.id = id then some e.health else health H (.enemy id) := by
    rw [health_arrival harrival]
    simp only [Combatant.enemy.injEq]
  refine ⟨?_, ?_, ?_⟩
  · intro c hc
    rw [hself]
    rcases List.mem_append.1 hc with hold | hnew
    · have hbelow := (h.gone c.id c.health (h.enemies c hold)).1
      rw [if_neg (hid ▸ Nat.ne_of_gt hbelow)]
      exact h.enemies c hold
    · obtain rfl := List.mem_singleton.1 hnew
      rw [if_pos rfl]
  · intro id left hleft
    rw [hself] at hleft
    split at hleft
    · next heq =>
      refine ⟨?_, fun habsent => ?_⟩
      · rw [← heq, hid]
        exact Nat.lt_succ_self _
      · exact absurd heq (habsent e (List.mem_append_right _ (List.mem_singleton.2 rfl)))
    · obtain ⟨hissued, hgone⟩ := h.gone id left hleft
      refine ⟨Nat.lt_succ_of_lt hissued, fun habsent => hgone fun c hc => ?_⟩
      exact habsent c (List.mem_append_left _ hc)
  · intro p hp
    rw [health_arrival harrival, if_neg nofun]
    exact h.participants p hp

/-- The dead are erased. -/
theorem bury (h : Figures H r) :
    Figures H (r.withEnemies (r.enemies.filter (·.health ≠ 0))) := by
  refine ⟨fun e he => h.enemies e (List.mem_filter.1 he).1, ?_, h.participants⟩
  intro id left hleft
  obtain ⟨hissued, hgone⟩ := h.gone id left hleft
  refine ⟨hissued, fun habsent => ?_⟩
  by_cases hthere : ∃ e ∈ r.enemies, e.id = id
  · obtain ⟨e, he, rfl⟩ := hthere
    have hdead : e.health = 0 := by
      by_contra halive
      exact habsent e (List.mem_filter.2 ⟨he, by simpa using halive⟩) rfl
    rw [h.enemies e he, hdead] at hleft
    exact (Option.some.inj hleft).symm
  · exact hgone fun e he heq => hthere ⟨e, he, heq⟩

end Figures

/-- **The ledger of a Room.** -/
structure Ledger (H : List BattleEvent) (r : Room) : Prop where
  lawful : Lawful H
  due : deathDue H = none
  figures : r.phase ≠ .waiting → Figures H r
  silent : r.phase = .waiting → H = []

namespace Ledger

variable {H : List BattleEvent} {r r' : Room} {t : Nat} {event : BattleEvent}

theorem of_figures {new : List BattleEvent} (hlawful : Lawful (H ++ new))
    (hdue : deathDue (H ++ new) = none) (hphase : r'.phase ≠ .waiting)
    (hfigures : Figures (H ++ new) r') : Ledger (H ++ new) r' :=
  ⟨hlawful, hdue, fun _ => hfigures, fun hwaiting => absurd hwaiting hphase⟩

theorem congr (h : Ledger H r)
    (henemies : r'.enemies.map enemyFigures = r.enemies.map enemyFigures)
    (hparticipants : r'.participants.map participantFigures =
      r.participants.map participantFigures)
    (hnext : r'.nextEnemyId = r.nextEnemyId) (hphase : r'.phase = r.phase) : Ledger H r' := by
  refine ⟨h.lawful, h.due, ?_, fun hwaiting => h.silent (hphase ▸ hwaiting)⟩
  intro hbegun
  exact (h.figures (hphase ▸ hbegun)).congr henemies hparticipants hnext

/-- An event that touches nobody's health, and those it finds alive are. -/
theorem plain (h : Ledger H r) (hphase : r.phase ≠ .waiting) (harrival : event.arrival = none)
    (hdamage : event.damage = none) (hdeath : event.death = none)
    (halive : ∀ who ∈ event.involved, ∃ left, health H who = some left ∧ left ≠ 0) :
    Ledger (H ++ [event]) r := by
  refine of_figures (h.lawful.concat ⟨halive, ?_, ?_, ?_⟩) ?_ hphase
    ((h.figures hphase).plain harrival hdamage)
  · intro who full hsome
    rw [harrival] at hsome
    cases hsome
  · intro who amount left hsome
    rw [hdamage] at hsome
    cases hsome
  · rw [hdeath]
    exact h.due
  · rw [deathDue_concat]
    exact demands_of_plain hdamage

/-- A death is told as soon as it is due. -/
theorem death (hlawful : Lawful H) (hfigures : Figures H r) (hphase : r.phase ≠ .waiting)
    {who : Combatant} (hdeath : event.death = some who) (hdue : deathDue H = some who) :
    Ledger (H ++ [event]) r := by
  obtain ⟨harrival, hdamage, hinvolved⟩ := BattleEvent.plain_of_death hdeath
  refine of_figures (hlawful.concat ⟨?_, ?_, ?_, hdue.trans hdeath.symm⟩) ?_ hphase
    (hfigures.plain harrival hdamage)
  · rw [hinvolved]
    exact List.forall_mem_nil _
  · intro who full hsome
    rw [harrival] at hsome
    cases hsome
  · intro who amount left hsome
    rw [hdamage] at hsome
    cases hsome
  · rw [deathDue_concat]
    exact demands_of_plain hdamage

/-- Someone is dealt damage, and the death is told if there is one. -/
theorem dealt (hlawful : Lawful (H ++ [event])) (hfigures : Figures (H ++ [event]) r)
    (hphase : r.phase ≠ .waiting) {who : Combatant} {amount left : Nat} {died : BattleEvent}
    (hdamage : event.damage = some (who, amount, left)) (hdeath : died.death = some who) :
    Ledger (H ++ event :: if left = 0 then [died] else []) r := by
  have hdue : deathDue (H ++ [event]) = if left = 0 then some who else none := by
    rw [deathDue_concat, BattleEvent.demands, hdamage]
    rfl
  split at hdue
  · next hzero =>
    rw [if_pos hzero, List.append_cons]
    exact death hlawful hfigures hphase hdeath hdue
  · next hleft =>
    rw [if_neg hleft]
    exact of_figures hlawful hdue hphase hfigures

theorem strike (h : Ledger H r) (hphase : r.phase ≠ .waiting) (ho : r.InOrder)
    {before after : List Participant} {p : Participant} {attacker : Enemy} {damage : Nat}
    (hsplit : r.participants = before ++ p :: after) (halive : p.currentHealth ≠ 0)
    (hle : damage ≤ p.currentHealth) (hattacker : attacker ∈ r.enemies)
    (hup : attacker.health ≠ 0) :
    Ledger (H ++ blow p attacker.id damage)
      (r.withParticipants (before ++ struck p damage :: after)) := by
  have hfigures := h.figures hphase
  have hp : health H (.participant p.playerId) = some p.currentHealth :=
    hfigures.participants p (by simp [hsplit])
  have hfits : Fits H
      (.participantDamaged p.playerId attacker.id damage (p.currentHealth - damage)) := by
    refine ⟨?_, nofun, ?_, h.due⟩
    · intro who hwho
      rcases List.mem_cons.1 hwho with rfl | hwho
      · exact ⟨p.currentHealth, hp, halive⟩
      · obtain rfl := List.mem_singleton.1 hwho
        exact ⟨attacker.health, hfigures.enemies attacker hattacker, hup⟩
    · intro who amount left hdamage
      cases hdamage
      rw [Nat.sub_add_cancel hle]
      exact hp
  exact dealt (h.lawful.concat hfits) (hfigures.strike ho hsplit rfl) hphase rfl rfl

theorem wound (h : Ledger H r) (hphase : r.phase ≠ .waiting)
    (hkeys : (r.enemies.map (·.id)).Nodup) {before after : List Enemy} {e : Enemy}
    (hsplit : r.enemies = before ++ e :: after) (halive : e.health ≠ 0) (actor : PlayerId)
    (skill : SkillId) (damage : Nat) :
    Ledger (H ++ (hit e actor skill damage).2)
      (r.withEnemies (before ++ (hit e actor skill damage).1 :: after)) := by
  have hfigures := h.figures hphase
  have he : health H (.enemy e.id) = some e.health := hfigures.enemies e (by simp [hsplit])
  have hfits : Fits H (.enemyDamaged e.id actor skill (min damage e.health)
      (e.health - min damage e.health)) := by
    refine ⟨?_, nofun, ?_, h.due⟩
    · intro who hwho
      obtain rfl := List.mem_singleton.1 hwho
      exact ⟨e.health, he, halive⟩
    · intro who amount left hdamage
      cases hdamage
      rw [Nat.sub_add_cancel (Nat.min_le_right _ _)]
      exact he
  exact dealt (h.lawful.concat hfits) (hfigures.wound hkeys hsplit rfl) hphase rfl rfl

/-- The next enemy comes, and stands somewhere. -/
theorem arrive (h : Ledger H r) (hphase : r.phase ≠ .waiting) {e : Enemy}
    (hid : e.id = r.nextEnemyId) (halive : e.health ≠ 0) :
    Ledger (H ++ spawned e)
      { r with enemies := r.enemies ++ [e], nextEnemyId := r.nextEnemyId + 1 } := by
  have hfigures := h.figures hphase
  have hnone : health H (.enemy e.id) = none := by
    cases hbalance : health H (.enemy e.id) with
    | none => rfl
    | some left =>
      have hissued := (hfigures.gone e.id left hbalance).1
      rw [hid] at hissued
      exact absurd hissued (Nat.lt_irrefl _)
  have harrived : Ledger (H ++ [.enemySpawned e.id e.kind e.health])
      { r with enemies := r.enemies ++ [e], nextEnemyId := r.nextEnemyId + 1 } := by
    refine of_figures (h.lawful.concat ⟨nofun, ?_, nofun, h.due⟩) deathDue_concat hphase
      (hfigures.arrive hid rfl)
    intro who full harrival
    cases harrival
    exact hnone
  unfold spawned
  rw [List.append_cons]
  refine harrived.plain hphase rfl rfl rfl ?_
  intro who hwho
  obtain rfl := List.mem_singleton.1 hwho
  exact ⟨e.health, (harrived.figures hphase).enemies e (by simp), halive⟩

theorem arriveAll (h : Ledger H r) (hphase : r.phase ≠ .waiting) {es : List Enemy}
    (hids : es.map (·.id) = List.range' r.nextEnemyId es.length)
    (halive : ∀ e ∈ es, e.health ≠ 0) :
    Ledger (H ++ (es.map spawned).flatten)
      { r with enemies := r.enemies ++ es, nextEnemyId := r.nextEnemyId + es.length } := by
  induction es generalizing H r with
  | nil => simpa using h
  | cons e es ih =>
    simp only [List.map_cons, List.length_cons, List.range'_succ, List.cons.injEq] at hids
    have hfirst := h.arrive hphase hids.1 (halive e List.mem_cons_self)
    have hrest := ih hfirst hphase hids.2 fun c hc => halive c (List.mem_cons_of_mem _ hc)
    rw [List.map_cons, List.flatten_cons, ← List.append_assoc]
    refine hrest.congr ?_ rfl ?_ rfl
    · simp
    · exact Nat.add_right_comm r.nextEnemyId es.length 1

/-- The participants are shown to each other. -/
theorem lawful_opener (hlawful : Lawful H) (hdue : deathDue H = none) {ps : List Participant}
    (hnodup : (ps.map (·.playerId)).Nodup)
    (hnew : ∀ p ∈ ps, health H (.participant p.playerId) = none) :
    Lawful (H ++ ps.map fun p => .participantSpawned p.playerId p.position p.currentHealth) ∧
    deathDue (H ++ ps.map fun p =>
      .participantSpawned p.playerId p.position p.currentHealth) = none ∧
    (∀ p ∈ ps, health (H ++ ps.map fun p =>
      .participantSpawned p.playerId p.position p.currentHealth) (.participant p.playerId) =
        some p.currentHealth) ∧
    ∀ who, (∀ p ∈ ps, .participant p.playerId ≠ who) → health (H ++ ps.map fun p =>
      .participantSpawned p.playerId p.position p.currentHealth) who = health H who := by
  induction ps generalizing H with
  | nil => simpa using ⟨hlawful, hdue⟩
  | cons p ps ih =>
    obtain ⟨hother, hnodup⟩ := List.nodup_cons.1 hnodup
    have hself (who : Combatant) : health
        (H ++ [.participantSpawned p.playerId p.position p.currentHealth]) who =
        if .participant p.playerId = who then some p.currentHealth else health H who :=
      health_arrival rfl who
    have hfirst : Lawful (H ++ [.participantSpawned p.playerId p.position p.currentHealth]) := by
      refine hlawful.concat ⟨nofun, ?_, nofun, hdue⟩
      intro who full harrival
      cases harrival
      exact hnew p List.mem_cons_self
    have hfresh : ∀ q ∈ ps, health
        (H ++ [.participantSpawned p.playerId p.position p.currentHealth])
        (.participant q.playerId) = none := by
      intro q hq
      rw [hself, if_neg]
      · exact hnew q (List.mem_cons_of_mem _ hq)
      · intro heq
        exact hother (List.mem_map.2 ⟨q, hq, (Combatant.participant.inj heq).symm⟩)
    obtain ⟨hlawful', hdue', hhealth, hothers⟩ := ih hfirst deathDue_concat hnodup hfresh
    rw [List.map_cons, List.append_cons]
    refine ⟨hlawful', hdue', ?_, ?_⟩
    · intro q hq
      rcases List.mem_cons.1 hq with rfl | hq
      · rw [hothers, hself, if_pos rfl]
        intro c hc heq
        exact hother (List.mem_map.2 ⟨c, hc, Combatant.participant.inj heq⟩)
      · exact hhealth q hq
    · intro who hwho
      rw [hothers who fun c hc => hwho c (List.mem_cons_of_mem _ hc), hself,
        if_neg (hwho p List.mem_cons_self)]

theorem opening (h : Ledger H r) {config : RoomConfig} (hsound : r.Sound config)
    (hphase : r.phase = .waiting) (t : Nat) : Ledger (H ++ r.opener t) (r.opened t) := by
  obtain ⟨-, -, henemies, -, -⟩ := hsound.fresh hphase
  obtain rfl := h.silent hphase
  have hstart : Lawful [.arenaStarted r.config.arenaWidth r.config.arenaHeight] :=
    (throughout_nil Fits).concat ⟨nofun, nofun, nofun, rfl⟩
  have hnodup : ((r.opened t).participants.map (·.playerId)).Nodup :=
    (hsound.opened hphase t).order.nodup
  obtain ⟨hlawful, hdue, hhealth, hothers⟩ := lawful_opener hstart rfl hnodup fun _ _ => rfl
  refine ⟨hlawful, hdue, fun _ => ⟨?_, ?_, hhealth⟩, nofun⟩
  · intro e he
    have he : e ∈ r.enemies := he
    rw [henemies] at he
    cases he
  · intro id left hleft
    have hnone : health ([] ++ r.opener t) (.enemy id) = none :=
      hothers (.enemy id) fun _ _ => nofun
    cases hnone.symm.trans hleft

/-- **Every change keeps the ledger.** -/
theorem change (h : Ledger H r) (hranks : r.Ranks) (ho : r.InOrder) (hvalid : r.config.Valid)
    (hphase : r.phase ≠ .waiting) {new : List BattleEvent} (hchange : Change t r new r') :
    Ledger (H ++ new) r' := by
  have hkeys : (r.enemies.map (·.id)).Nodup := hranks.ids.imp Nat.ne_of_lt
  have hfigures := h.figures hphase
  have henemy {e : Enemy} (he : e ∈ r.enemies) (halive : e.health ≠ 0) :
      ∃ left, health H (.enemy e.id) = some left ∧ left ≠ 0 :=
    ⟨e.health, hfigures.enemies e he, halive⟩
  have hparticipant {p : Participant} (hp : p ∈ r.participants) (halive : p.currentHealth ≠ 0) :
      ∃ left, health H (.participant p.playerId) = some left ∧ left ≠ 0 :=
    ⟨p.currentHealth, hfigures.participants p hp, halive⟩
  cases hchange with
  | adjust hsplit hid _ hhealth =>
    rw [List.append_nil]
    refine h.congr rfl ?_ rfl rfl
    rw [hsplit]
    simp only [withParticipants, List.map_append, List.map_cons, participantFigures, hid, hhealth]
  | @walk _ _ p hsplit halive =>
    have hp : p ∈ r.participants := by simp [hsplit]
    refine (h.plain hphase rfl rfl rfl ?_).congr rfl ?_ rfl rfl
    · intro who hwho
      obtain rfl := List.mem_singleton.1 hwho
      exact hparticipant hp halive
    · rw [hsplit]
      simp only [withParticipants, List.map_append, List.map_cons, participantFigures]
  | bury =>
    rw [List.append_nil]
    exact ⟨h.lawful, h.due, fun _ => hfigures.bury, h.silent⟩
  | @approach _ _ e _ hsplit halive =>
    have he : e ∈ r.enemies := by simp [hsplit]
    refine (h.plain hphase rfl rfl rfl ?_).congr ?_ rfl rfl rfl
    · intro who hwho
      obtain rfl := List.mem_singleton.1 hwho
      exact henemy he halive
    · rw [hsplit]
      simp only [withEnemies, List.map_append, List.map_cons, enemyFigures]
  | tire hsplit =>
    rw [List.append_nil]
    refine h.congr ?_ rfl rfl rfl
    rw [hsplit]
    simp only [withEnemies, List.map_append, List.map_cons, enemyFigures]
  | strike hsplit halive hle hattacker hup =>
    exact h.strike hphase ho hsplit halive hle hattacker hup
  | fly =>
    refine (h.plain hphase rfl rfl rfl ?_).congr rfl rfl rfl rfl
    exact List.forall_mem_nil _
  | drop =>
    refine (h.plain hphase rfl rfl rfl ?_).congr rfl rfl rfl rfl
    exact List.forall_mem_nil _
  | wound hsplit halive => exact h.wound hphase hkeys hsplit halive _ _ _
  | whiff hactor halive =>
    refine h.plain hphase rfl rfl rfl ?_
    intro who hwho
    obtain rfl := List.mem_singleton.1 hwho
    exact hparticipant hactor halive
  | launch hp _ _ _ _ halive howner htarget hid hup =>
    refine (h.plain hphase rfl rfl rfl ?_).congr rfl rfl rfl rfl
    intro who hwho
    rcases List.mem_cons.1 hwho with rfl | hwho
    · rw [howner]
      exact hparticipant hp halive
    · obtain rfl := List.mem_singleton.1 hwho
      rw [← hid]
      exact henemy htarget hup
  | wave hleft hdue =>
    have halive : ∀ e ∈ r.wave t, e.health ≠ 0 := by
      intro e he
      obtain ⟨index, -, rfl⟩ := List.mem_map.1 he
      exact hvalid.minionHealth
    have hids := Ranks.ids_wave r t
    rw [← length_wave r t] at hids
    refine (h.arriveAll hphase hids halive).congr rfl rfl ?_ rfl
    rw [length_wave]
  | boss => exact (h.arrive hphase rfl hvalid.bossHealth).congr rfl rfl rfl rfl

theorem kept (config : RoomConfig) :
    Kept config fun (H : List TimedEvent) r => Ledger (H.map (·.2)) r where
  created _ := ⟨throughout_nil Fits, rfl, fun hbegun => absurd rfl hbegun, fun _ => rfl⟩
  seat H r p h hphase _ := ⟨h.lawful, h.due, fun hbegun => absurd hphase hbegun, h.silent⟩
  unseat H r player h := by
    refine ⟨h.lawful, h.due, fun hbegun => ?_, h.silent⟩
    have hfigures := h.figures hbegun
    exact ⟨hfigures.enemies, hfigures.gone, fun p hp =>
      hfigures.participants p ((sublist_withoutParticipant r player).subset hp)⟩
  parting H r t player h hphase := by
    rw [List.map_append]
    refine (h.plain (by rw [hphase]; exact nofun) rfl rfl rfl ?_).congr rfl rfl rfl rfl
    exact List.forall_mem_nil _
  desertion _ _ h _ := h.congr rfl rfl rfl rfl
  digest _ _ h := h.congr rfl rfl rfl rfl
  conclusion H r phase h hrunning _ hbegun := by
    have hfigures := h.figures (by rw [hrunning]; exact nofun)
    exact ⟨h.lawful, h.due, fun _ => hfigures.congr rfl rfl rfl,
      fun hwaiting => absurd hwaiting hbegun⟩
  opening H r t h hsound hphase := by
    rw [List.map_append, map_snd_stamp]
    exact h.opening hsound hphase t
  change H r t new r' h hranks ho hconfig hvalid hphase hchange := by
    rw [List.map_append, map_snd_stamp]
    refine (h.change hranks ho (hconfig ▸ hvalid) ?_ hchange).congr rfl rfl rfl rfl
    rw [hphase]
    exact nofun

end Ledger

end Room

/-! ## What a lawful history says -/

/-- **What holds of each event**, between those before it and those after it. -/
structure Booked (past : List BattleEvent) (event : BattleEvent) (future : List BattleEvent) :
    Prop where
  /-- Nobody comes twice. -/
  once : ∀ who full, event.arrival = some (who, full) → ∀ other, ¬ Arrived past who other
  /-- The health that is left, the amount and all damage before add up to what one came with. -/
  balance : ∀ who amount left, event.damage = some (who, amount, left) →
    ∃ full, Arrived past who full ∧ left + amount + damageTo past who = full
  /-- A death directly follows the damage that leaves nothing, and nobody dies twice. -/
  death : ∀ who, event.death = some who →
    (∃ earlier blow amount, past = earlier ++ [blow] ∧ blow.damage = some (who, amount, 0)) ∧
    ∀ other ∈ past, other.death ≠ some who
  /-- Damage that leaves nothing is directly followed by the death. -/
  due : ∀ who amount, event.damage = some (who, amount, 0) →
    ∃ died rest, future = died :: rest ∧ died.death = some who
  /-- Those that are hit, move, attack, use a skill or are aimed at have health left. -/
  alive : ∀ who ∈ event.involved, ∃ full, Arrived past who full ∧ damageTo past who < full

namespace BattleEvent

variable {event : BattleEvent} {who : Combatant}

theorem posting_of_arrival {full : Nat} (h : event.arrival = some (who, full)) :
    event.posting who = some (.credit full) := by
  rw [posting, h]
  exact if_pos rfl

theorem arrival_of_posting {full : Nat} (h : event.posting who = some (.credit full)) :
    event.arrival = some (who, full) := by
  unfold posting at h
  split at h
  · next newcomer health harrival =>
    split at h
    · next heq =>
      cases h
      rw [harrival, heq]
    · cases h
  · split at h <;> cases h
  · cases h

theorem damage_of_posting {amount : Nat} (h : event.posting who = some (.debit amount)) :
    ∃ left, event.damage = some (who, amount, left) := by
  unfold posting at h
  split at h
  · split at h <;> cases h
  · next target dealt left _ hdamage =>
    split at h
    · next heq =>
      cases h
      exact ⟨left, by rw [hdamage, heq]⟩
    · cases h
  · cases h

theorem mem_involved {amount left : Nat} (h : event.damage = some (who, amount, left)) :
    who ∈ event.involved := by
  cases event <;> first | (cases h; exact List.mem_cons_self) | cases h

theorem damage_of_demands (h : event.demands = some who) :
    ∃ amount, event.damage = some (who, amount, 0) := by
  unfold demands at h
  obtain ⟨⟨target, amount, left⟩, hdamage, hzero⟩ := Option.bind_eq_some_iff.1 h
  dsimp only at hzero
  split at hzero
  · next hleft =>
    cases hzero
    exact ⟨amount, hleft ▸ hdamage⟩
  · cases hzero

end BattleEvent

namespace Lawful

variable {H : List BattleEvent} {who : Combatant}

theorem covered (h : Lawful H) (who : Combatant) :
    Throughout (Covered (BattleEvent.posting who)) H := by
  refine h.mono fun past event hfits => ?_
  unfold Covered
  split
  · trivial
  · next full hposting => exact hfits.arrival who full (BattleEvent.arrival_of_posting hposting)
  · next amount hposting =>
    obtain ⟨left, hdamage⟩ := BattleEvent.damage_of_posting hposting
    exact ⟨left + amount, hfits.damage who amount left hdamage, Nat.le_add_left _ _⟩

/-- Whoever has come has a balance. -/
theorem health_of_arrived (h : Lawful H) {full : Nat} (harrived : Arrived H who full) :
    ∃ left, health H who = some left ∧ left + damageTo H who = full := by
  obtain ⟨event, hmem, harrival⟩ := harrived
  exact (h.covered who).balance_add_debits hmem (BattleEvent.posting_of_arrival harrival)

/-- Whoever has a balance has come. -/
theorem arrived_of_health (h : Lawful H) {left : Nat} (hleft : health H who = some left) :
    ∃ full, Arrived H who full ∧ left + damageTo H who = full := by
  obtain ⟨event, hmem, full, hposting⟩ := exists_credit_of_balance hleft
  have harrived : Arrived H who full := ⟨event, hmem, BattleEvent.arrival_of_posting hposting⟩
  obtain ⟨left', hleft', hsum⟩ := h.health_of_arrived harrived
  cases hleft.symm.trans hleft'
  exact ⟨full, harrived, hsum⟩

/-- The dead stay dead. -/
theorem health_eq_zero {past : List BattleEvent} (h : Lawful (past ++ H))
    (hdead : health past who = some 0) : health (past ++ H) who = some 0 := by
  induction H using List.reverseRecOn with
  | nil => rwa [List.append_nil]
  | append_singleton H event ih =>
    rw [← List.append_assoc] at h ⊢
    have hbefore := ih h.of_append
    have hfits := h.last
    cases harrival : event.arrival with
    | some entry =>
      obtain ⟨newcomer, full⟩ := entry
      rw [health_arrival harrival, if_neg]
      · exact hbefore
      · rintro rfl
        cases hbefore.symm.trans (hfits.arrival newcomer full harrival)
    | none =>
      cases hdamage : event.damage with
      | some entry =>
        obtain ⟨target, amount, left⟩ := entry
        rw [health_damage hdamage, if_neg]
        · exact hbefore
        · rintro rfl
          obtain ⟨left, hleft, halive⟩ := hfits.involved target (BattleEvent.mem_involved hdamage)
          cases hbefore.symm.trans hleft
          exact halive rfl
      | none =>
        rw [health_plain harrival hdamage]
        exact hbefore

/-- A death comes directly after the damage that leaves nothing. -/
theorem blow_of_death {past : List BattleEvent} {event : BattleEvent} (hfits : Fits past event)
    (hdeath : event.death = some who) : ∃ earlier blow amount,
      past = earlier ++ [blow] ∧ blow.damage = some (who, amount, 0) := by
  have hdue := hfits.death.trans hdeath
  obtain ⟨blow, hlast, hdemands⟩ := Option.bind_eq_some_iff.1 hdue
  obtain ⟨earlier, rfl⟩ := List.getLast?_eq_some_iff.1 hlast
  obtain ⟨amount, hdamage⟩ := BattleEvent.damage_of_demands hdemands
  exact ⟨earlier, blow, amount, rfl, hdamage⟩

/-- Nobody dies twice. -/
theorem dies_once {past future : List BattleEvent} {event : BattleEvent}
    (h : Lawful (past ++ event :: future)) (hdeath : event.death = some who) :
    ∀ other ∈ past, other.death ≠ some who := by
  intro other hother hbefore
  obtain ⟨earlier, blow, amount, hpast, hblow⟩ := blow_of_death (h past event future rfl) hdeath
  obtain ⟨before, after, rfl⟩ := List.append_of_mem hother
  -- the first death has left nothing
  obtain ⟨start, first, dealt, rfl, hfirst⟩ := blow_of_death
    (h before other (after ++ event :: future) (by simp)) hbefore
  have hdead : health (start ++ [first]) who = some 0 := by
    have hfits := h start first (other :: (after ++ event :: future)) (by simp)
    rw [health_damage hfirst, if_pos rfl, hfits.damage who dealt 0 hfirst]
    simp
  rcases List.eq_nil_or_concat' after with rfl | ⟨rest, last, rfl⟩
  · obtain ⟨-, hsame⟩ := List.append_inj' hpast rfl
    cases hsame
    rw [(BattleEvent.plain_of_death hbefore).2.1] at hblow
    cases hblow
  · rw [← List.cons_append, ← List.append_assoc] at hpast
    obtain ⟨rfl, hsame⟩ := List.append_inj' hpast rfl
    cases hsame
    -- so the second blow finds nobody alive
    have hlawful : Lawful ((start ++ [first]) ++ (other :: rest)) := by
      have hall : Lawful (((start ++ [first]) ++ (other :: rest)) ++ blow :: event :: future) := by
        simpa using h
      exact Throughout.of_append hall
    have hstill := hlawful.health_eq_zero hdead
    have hfits := h ((start ++ [first]) ++ (other :: rest)) blow (event :: future) (by simp)
    obtain ⟨left, hleft, halive⟩ := hfits.involved who (BattleEvent.mem_involved hblow)
    cases hstill.symm.trans hleft
    exact halive rfl

/-- **Every event of a lawful history is booked.** -/
theorem booked (h : Lawful H) (hdue : deathDue H = none) {past future : List BattleEvent}
    {event : BattleEvent} (heq : H = past ++ event :: future) : Booked past event future := by
  subst heq
  have hfits := h past event future rfl
  have hpast : Lawful past := h.of_append
  refine ⟨?_, ?_, ?_, ?_, ?_⟩
  · intro who full harrival other harrived
    obtain ⟨left, hleft, -⟩ := hpast.health_of_arrived harrived
    cases hleft.symm.trans (hfits.arrival who full harrival)
  · intro who amount left hdamage
    exact hpast.arrived_of_health (hfits.damage who amount left hdamage)
  · intro who hdeath
    exact ⟨blow_of_death hfits hdeath, h.dies_once hdeath⟩
  · intro who amount hdamage
    have hdemands : event.demands = some who := by
      rw [BattleEvent.demands, hdamage]
      rfl
    cases future with
    | nil =>
      rw [deathDue_concat, hdemands] at hdue
      cases hdue
    | cons died rest =>
      refine ⟨died, rest, rfl, ?_⟩
      have hnext := (h (past ++ [event]) died rest (by simp)).death
      rw [deathDue_concat, hdemands] at hnext
      exact hnext.symm
  · intro who hwho
    obtain ⟨left, hleft, halive⟩ := hfits.involved who hwho
    obtain ⟨full, harrived, hsum⟩ := hpast.arrived_of_health hleft
    exact ⟨full, harrived, by omega⟩

end Lawful

/-! ## Runs -/

section Runs

variable {room : RoomId} {config : RoomConfig} {s : RoomLog}

/-- **The damage ledger.** Take any run of a Room and all events that were ever recorded in it.
The health of each enemy in the list and all its damage add up to the health it came with; the
damage to one that has left the list is all of that health. The same holds of the participants
that are there. Each event is booked, and a skill is applied only for someone who has health
left. -/
theorem damage_ledger (h : (roomLog room config).Reach (fun _ _ => True) s) :
    (∀ e ∈ s.room.enemies, ∃ full, Arrived (s.recorded.map (·.2)) (.enemy e.id) full ∧
      e.health + damageTo (s.recorded.map (·.2)) (.enemy e.id) = full) ∧
    (∀ id full, Arrived (s.recorded.map (·.2)) (.enemy id) full →
      (∀ e ∈ s.room.enemies, e.id ≠ id) →
      damageTo (s.recorded.map (·.2)) (.enemy id) = full) ∧
    (s.room.phase ≠ .waiting → ∀ p ∈ s.room.participants,
      ∃ full, Arrived (s.recorded.map (·.2)) (.participant p.playerId) full ∧
        p.currentHealth + damageTo (s.recorded.map (·.2)) (.participant p.playerId) = full) ∧
    (∀ past event future, s.recorded.map (·.2) = past ++ event :: future →
      Booked past event future) ∧
    ∀ player skillId sequence t,
      (s.room.handle (.useSkill player skillId sequence) t).1.status = .applied →
      ∃ full, Arrived (s.recorded.map (·.2)) (.participant player) full ∧
        damageTo (s.recorded.map (·.2)) (.participant player) < full := by
  have hledger := (Room.Ledger.kept config).of_log h
  have hsound := sound_of_log h
  generalize s.recorded.map (·.2) = H at hledger ⊢
  refine ⟨?_, ?_, ?_, fun past event future => hledger.lawful.booked hledger.due, ?_⟩
  · intro e he
    by_cases hphase : s.room.phase = .waiting
    · rw [(hsound.fresh hphase).2.2.1] at he
      cases he
    · exact hledger.lawful.arrived_of_health ((hledger.figures hphase).enemies e he)
  · intro id full harrived habsent
    obtain ⟨left, hleft, hsum⟩ := hledger.lawful.health_of_arrived harrived
    by_cases hphase : s.room.phase = .waiting
    · obtain rfl := hledger.silent hphase
      cases hleft
    · obtain rfl := ((hledger.figures hphase).gone id left hleft).2 habsent
      rwa [Nat.zero_add] at hsum
  · intro hphase p hp
    exact hledger.lawful.arrived_of_health ((hledger.figures hphase).participants p hp)
  · intro player skillId sequence t happlied
    rcases Room.useSkill_cases s.room player skillId sequence t with
      ⟨hstatus, -⟩ | ⟨hstatus, -⟩ | ⟨-, p, skill, hmay, -⟩
    · exact absurd happlied hstatus
    · cases happlied.symm.trans hstatus
    · obtain ⟨hmem, rfl⟩ := Room.mem_of_findParticipant hmay.found
      have hbegun : s.room.phase ≠ .waiting := by
        rw [hmay.running]
        exact nofun
      obtain ⟨full, harrived, hsum⟩ := hledger.lawful.arrived_of_health
        ((hledger.figures hbegun).participants p hmem)
      have halive := hmay.alive
      exact ⟨full, harrived, by omega⟩

end Runs

/-- A bolt hits a minion, which keeps part of its health. -/
theorem damage_ledger_bolt :
    ∃ s e, (roomLog 1 {}).Reach (fun _ _ => True) s ∧ e ∈ s.room.enemies ∧ 0 < e.health ∧
      e.health < 60 ∧ ∃ full, Arrived (s.recorded.map (·.2)) (.enemy e.id) full ∧
        e.health + damageTo (s.recorded.map (·.2)) (.enemy e.id) = full := by
  obtain ⟨s, hs, ht⟩ := (roomLog 1 {}).exists_reach_of_replay (fun _ _ => True)
    (s := { room := { id := 1, config := {} } }) ⟨rfl, rfl⟩
    [(.joinRoom 7 ⟨10, 100⟩ arcaneBolt, 0), (.startBattle, 0), (.useSkill 7 arcaneBolt 1, 10),
      (.simulationTick, 100), (.simulationTick, 200), (.simulationTick, 300),
      (.simulationTick, 400), (.simulationTick, 500), (.simulationTick, 600)]
    (fun s => s.room.enemies.any fun e => 0 < e.health && e.health < 60)
    (by decide +kernel)
  obtain ⟨e, he, hhealth⟩ := List.any_eq_true.1 ht
  simp only [Bool.and_eq_true, decide_eq_true_eq] at hhealth
  exact ⟨s, e, hs, he, hhealth.1, hhealth.2, (damage_ledger hs).1 e he⟩

end Snf.Game
