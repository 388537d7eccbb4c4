import Snf.Game.Purchases

/-! # Dirty components

A component that is not dirty is the same as in the latest record, restored or handed out. A
snapshot clears the mask and hands it out. If the save fails the mask is given back, and what
differs from the record before is dirty again.
-/

namespace Snf.Game

open Snf.Lib

/-- The components that a save writes. -/
inductive SavedComponent where
  | economy | progression | skills
deriving DecidableEq, Repr

def PlayerStateComponentMask.has (mask : PlayerStateComponentMask) : SavedComponent → Bool
  | .economy => mask.economy
  | .progression => mask.progression
  | .skills => mask.skills

/-- What a Player or a record has in these components. -/
structure SavedState where
  currencyBalance : UInt64
  purchasedItemCount : UInt64
  streetExperience : UInt64
  skillLoadout : SkillLoadout
deriving DecidableEq

def PlayerState.saved (state : PlayerState) : SavedState where
  currencyBalance := state.currencyBalance
  purchasedItemCount := state.purchasedItemCount
  streetExperience := state.streetExperience
  skillLoadout := state.skillLoadout

def PlayerRecord.saved (record : PlayerRecord) : SavedState where
  currencyBalance := record.currencyBalance
  purchasedItemCount := record.purchasedItemCount
  streetExperience := record.streetExperience
  skillLoadout := record.skillLoadout

/-- The two are the same in a component. -/
def SavedState.Agree (a b : SavedState) : SavedComponent → Prop
  | .economy =>
    a.currencyBalance = b.currencyBalance ∧ a.purchasedItemCount = b.purchasedItemCount
  | .progression => a.streetExperience = b.streetExperience
  | .skills => a.skillLoadout = b.skillLoadout

namespace SavedState

variable {a b c : SavedState} {component : SavedComponent}

theorem Agree.refl (a : SavedState) (component : SavedComponent) : a.Agree a component := by
  cases component with
  | economy => exact ⟨rfl, rfl⟩
  | progression => rfl
  | skills => rfl

theorem Agree.trans (h : a.Agree b component) (h' : b.Agree c component) :
    a.Agree c component := by
  cases component with
  | economy => exact ⟨h.1.trans h'.1, h.2.trans h'.2⟩
  | progression => exact Eq.trans h h'
  | skills => exact Eq.trans h h'

theorem eq_of_agree (h : ∀ component, a.Agree b component) : a = b := by
  obtain ⟨balance, items, experience, loadout⟩ := a
  obtain ⟨hbalance, hitems⟩ := h .economy
  have hexperience := h .progression
  have hskills := h .skills
  simp only [Agree] at hbalance hitems hexperience hskills
  rw [hbalance, hitems, hexperience, hskills]

end SavedState

theorem PlayerStateComponentMask.has_union (a b : PlayerStateComponentMask)
    (component : SavedComponent) :
    (a.union b).has component = (a.has component || b.has component) := by
  cases component <;> rfl

/-- What the latest of the records has, or the state at the start if there is none. -/
def latest (start : PlayerState) : List PlayerRecord → SavedState
  | [] => start.saved
  | record :: _ => record.saved

namespace Player

variable {p p' : Player}

/-- What changes is marked, and no mark is lost. -/
structure Marks (p p' : Player) : Prop where
  identity : p'.state.identity = p.state.identity
  marked : ∀ component, p'.state.dirtyComponents.has component = false →
    p.state.dirtyComponents.has component = false ∧
      p'.state.saved.Agree p.state.saved component

theorem Marks.of_union {mask : PlayerStateComponentMask}
    (hidentity : p'.state.identity = p.state.identity)
    (hdirty : p'.state.dirtyComponents = p.state.dirtyComponents.union mask)
    (hsame : ∀ component, mask.has component = false →
      p'.state.saved.Agree p.state.saved component) : Marks p p' := by
  refine ⟨hidentity, ?_⟩
  intro component hclean
  rw [hdirty, PlayerStateComponentMask.has_union, Bool.or_eq_false_iff] at hclean
  exact ⟨hclean.1, hsame component hclean.2⟩

theorem Marks.of_eq (hidentity : p'.state.identity = p.state.identity)
    (hdirty : p'.state.dirtyComponents = p.state.dirtyComponents)
    (hsaved : p'.state.saved = p.state.saved) : Marks p p' := by
  refine ⟨hidentity, fun component hclean => ⟨hdirty ▸ hclean, ?_⟩⟩
  rw [hsaved]
  exact .refl _ _

theorem marks_setLastLocation (p : Player) (location : Option PlayerLocation) :
    Marks p (p.setLastLocation location) :=
  .of_union rfl rfl fun component _ => .refl p.state.saved component

theorem marks_restoreDirtyComponents (p : Player) (mask : PlayerStateComponentMask) :
    Marks p (p.restoreDirtyComponents mask) :=
  .of_union rfl rfl fun component _ => .refl p.state.saved component

theorem marks_grantStreetExperience (p : Player) (experience : UInt64) :
    Marks p (p.grantStreetExperience experience) := by
  refine .of_union rfl rfl ?_
  intro component hclean
  cases component with
  | economy => exact ⟨rfl, rfl⟩
  | progression => cases hclean
  | skills => rfl

theorem marks_purchased {key : PurchaseIdempotencyKey} {product : ProductId}
    {result : PurchaseTransactionResult} (h : Purchased p key product result p') :
    Marks p p' := by
  cases h with
  | replayed => exact .of_eq rfl rfl rfl
  | conflict => exact .of_eq rfl rfl rfl
  | refused => exact .of_eq rfl rfl rfl
  | declined => exact .of_eq rfl rfl rfl
  | bought =>
    refine .of_union rfl rfl ?_
    intro component hclean
    cases component with
    | economy => cases hclean
    | progression => rfl
    | skills =>
      -- the loadout is replaced only together with its mark
      have hkept : _ = false := hclean
      subst hkept
      rfl

theorem marks_equipSkill (p : Player) (skill : SkillId) :
    Marks p { p with state := { p.state with
      skillLoadout := (p.state.skillLoadout.equipSkillId skill).2
      dirtyComponents := p.state.dirtyComponents.union
        { skills := (p.state.skillLoadout.equipSkillId skill).1 = .equipped } } } := by
  refine .of_union rfl rfl ?_
  intro component hclean
  cases component with
  | economy => exact ⟨rfl, rfl⟩
  | progression => rfl
  | skills =>
    have hnot : (p.state.skillLoadout.equipSkillId skill).1 ≠ .equipped :=
      of_decide_eq_false hclean
    show (p.state.skillLoadout.equipSkillId skill).2 = p.state.skillLoadout
    unfold SkillLoadout.equipSkillId at hnot ⊢
    split
    · rfl
    · split
      · split
        · rfl
        · next hknown howned hother =>
          rw [if_neg hknown, dif_pos howned, if_neg hother] at hnot
          exact absurd rfl hnot
      · rfl

theorem marks_handle {command : PlayerCommand} {result : PlayerResult}
    (h : p.handle command = .ok (result, p')) : Marks p p' := by
  cases handled h with
  | @purchased player key product =>
    obtain ⟨hidentity, hmarked⟩ := marks_purchased (purchased p player key product)
    exact ⟨hidentity, hmarked⟩
  | @equipped skill _ _ _ heq =>
    obtain ⟨hidentity, hmarked⟩ := marks_equipSkill p skill
    exact heq ▸ ⟨hidentity, hmarked⟩
  | other => exact .of_eq rfl rfl rfl

end Player

/-- **The marks of a run.** -/
structure Tracked (start : PlayerState) (s : PlayerRun) : Prop where
  clean : ∀ component, s.player.state.dirtyComponents.has component = false →
    s.player.state.saved.Agree (latest start s.records) component
  cleared : ∀ mask, s.cleared = some mask → ∀ component, mask.has component = false →
    (latest start s.records).Agree (latest start s.records.tail) component
  owner : ∀ record ∈ s.records, some record.player = s.player.state.identity

namespace Tracked

variable {start : PlayerState} {s s' : PlayerRun}

/-- The Player is changed, and no record is taken. -/
theorem touch (h : Tracked start s) {p : Player} (hp : Player.Marks s.player p)
    (purchases : List PurchaseTransactionResult) :
    Tracked start { s with player := p, purchases := purchases } := by
  refine ⟨?_, h.cleared, ?_⟩
  · intro component hclean
    obtain ⟨hbefore, hagree⟩ := hp.marked component hclean
    exact hagree.trans (h.clean component hbefore)
  · intro record hrecord
    exact (h.owner record hrecord).trans hp.identity.symm

/-- The Player now is what the new record says. -/
theorem anew (h : Tracked start s) {record : PlayerRecord}
    (hrecords : s'.records = record :: s.records)
    (hidentity : s'.player.state.identity = s.player.state.identity)
    (howner : some record.player = s.player.state.identity)
    (hsaved : s'.player.state.saved = record.saved)
    (hcleared : ∀ mask, s'.cleared = some mask → ∀ component, mask.has component = false →
      record.saved.Agree (latest start s.records) component) : Tracked start s' := by
  refine ⟨?_, ?_, ?_⟩
  all_goals rw [hrecords]
  · intro component _
    show s'.player.state.saved.Agree record.saved component
    rw [hsaved]
    exact .refl _ _
  · exact hcleared
  · intro r hr
    rw [hidentity]
    rcases List.mem_cons.1 hr with rfl | hr
    · exact howner
    · exact h.owner r hr

theorem step (h : Tracked start s) (action : PlayerAction) : Tracked start (s.step action) := by
  cases action with
  | setLastLocation location => exact h.touch (s.player.marks_setLastLocation location) _
  | grantStreetExperience experience =>
    exact h.touch (s.player.marks_grantStreetExperience experience) _
  | restoreDirtyComponents mask => exact h.touch (s.player.marks_restoreDirtyComponents mask) _
  | restore record =>
    simp only [PlayerRun.step]
    split
    · exact h
    · next hrestore =>
      unfold Player.restore at hrestore
      split at hrestore
      · cases hrestore
      · next hidentity =>
        cases hrestore
        exact h.anew rfl rfl (not_not.1 hidentity).symm rfl (fun _ hmask => by cases hmask)
  | handle command =>
    simp only [PlayerRun.step]
    split
    · exact h
    · next hhandle => exact h.touch (Player.marks_handle hhandle) _
  | takeDirtySnapshot =>
    simp only [PlayerRun.step]
    split
    · exact h
    · next htake =>
      rcases Player.takeDirtySnapshot_eq htake with ⟨-, rfl⟩ | ⟨_, hsome, -⟩
      · exact h
      · cases hsome
    · next htake =>
      rcases Player.takeDirtySnapshot_eq htake with
        ⟨hnone, -⟩ | ⟨record, hsome, hsnapshot, hmask, rfl⟩
      · cases hnone
      · obtain rfl := Option.some.inj hsome
        unfold Player.snapshot at hsnapshot
        split at hsnapshot
        · cases hsnapshot
        · next hidentity =>
          cases hsnapshot
          refine h.anew rfl rfl hidentity.symm rfl ?_
          intro mask heq component hclean
          obtain rfl := Option.some.inj heq
          exact h.clean component (hmask ▸ hclean)

end Tracked

section Runs

variable {start : Player} {s : PlayerRun}

theorem tracked_of_reach (h : (playerMachine start).Reach (fun _ _ => True) s) :
    Tracked start.state s := by
  refine h.invariant (P := Tracked start.state) ?_ ?_
  · rintro s rfl
    exact ⟨fun component _ => .refl _ component, nofun, nofun⟩
  · rintro s action _ - htracked - ⟨⟩
    exact htracked.step action

/-- **No change goes unmarked.** In every run of a Player, a component that is not dirty is the
same as in the latest record, restored or handed out, or at the start. If the mask of the record
that was handed out last is given back, every component that differs from the record before it is
dirty. And while no component is dirty that a save writes, the latest record is the current
snapshot but for the number of commands and the location. -/
theorem dirty_tracking_complete (h : (playerMachine start).Reach (fun _ _ => True) s) :
    (∀ component, s.player.state.dirtyComponents.has component = false →
      s.player.state.saved.Agree (latest start.state s.records) component) ∧
    (∀ mask, s.cleared = some mask → ∀ component,
      ¬ s.player.state.saved.Agree (latest start.state s.records.tail) component →
      (s.player.restoreDirtyComponents mask).state.dirtyComponents.has component = true) ∧
    (s.player.hasFlushableDirtyState = false →
      s.player.state.saved = latest start.state s.records ∧
      ∀ record, s.records.head? = some record →
        s.player.snapshot = .ok { record with
          handledCommandCount := s.player.state.handledCommandCount
          lastLocation := s.player.state.lastLocation }) := by
  have htracked := tracked_of_reach h
  refine ⟨htracked.clean, ?_, ?_⟩
  · intro mask hcleared component hdiffers
    show (s.player.state.dirtyComponents.union mask).has component = true
    rw [PlayerStateComponentMask.has_union]
    by_contra hclean
    obtain ⟨hdirty, hmask⟩ := Bool.or_eq_false_iff.1 (Bool.eq_false_of_not_eq_true hclean)
    exact hdiffers ((htracked.clean component hdirty).trans
      (htracked.cleared mask hcleared component hmask))
  · intro hnone
    simp only [Player.hasFlushableDirtyState, PlayerStateComponentMask.flushable,
      Bool.or_eq_false_iff] at hnone
    have hsaved : s.player.state.saved = latest start.state s.records := by
      refine SavedState.eq_of_agree fun component => htracked.clean component ?_
      cases component with
      | economy => exact hnone.1.1
      | progression => exact hnone.1.2
      | skills => exact hnone.2
    refine ⟨hsaved, ?_⟩
    intro record hrecord
    obtain ⟨rest, hrecords⟩ : ∃ rest, s.records = record :: rest := List.head?_eq_some_iff.1 hrecord
    have howner := htracked.owner record (hrecords ▸ List.mem_cons_self)
    rw [hrecords] at hsaved
    have hfields : s.player.state.saved = record.saved := hsaved
    simp only [PlayerState.saved, PlayerRecord.saved, SavedState.mk.injEq] at hfields
    obtain ⟨hbalance, hitems, hexperience, hloadout⟩ := hfields
    unfold Player.snapshot
    rw [← howner]
    simp only [hbalance, hitems, hexperience, hloadout]

end Runs

/-- A purchase is handed out and its mask given back: the economy is dirty again. -/
theorem dirty_tracking_complete_given_back :
    ∃ s mask, (playerMachine (.ofIdentity (some 7))).Reach (fun _ _ => True) s ∧
      s.cleared = some mask ∧
      (s.player.restoreDirtyComponents mask).state.dirtyComponents.has .economy = true := by
  obtain ⟨s, hs, ht⟩ := (playerMachine (.ofIdentity (some 7))).exists_reach_of_replay
    (fun _ _ => True) (s := { player := .ofIdentity (some 7) }) rfl
    [.handle (.purchase 1 basicProduct), .takeDirtySnapshot]
    (fun s => s.cleared = some { economy := true } &&
      s.player.state.saved.currencyBalance ≠ initialCurrencyBalance && s.records.tail = [])
    (by decide +kernel)
  simp only [Bool.and_eq_true, decide_eq_true_eq, ne_eq] at ht
  obtain ⟨⟨hcleared, hspent⟩, htail⟩ := ht
  refine ⟨s, _, hs, hcleared, ?_⟩
  refine (dirty_tracking_complete hs).2.1 _ hcleared .economy ?_
  intro hagree
  rw [htail] at hagree
  exact hspent hagree.1

end Snf.Game
