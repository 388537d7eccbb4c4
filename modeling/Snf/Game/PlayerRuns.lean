import Snf.Game.Player
import Snf.Lib.Machine
import Snf.Lib.Map

/-! # Runs of a Player

A Player is restored, handles commands, is told where it stands and what it has gained, and hands
out snapshots of its dirty state; the mask of a snapshot may be given back. `playerMachine` takes
these calls in any order. Beside the Player it keeps the results of the purchases and the records
that were restored or handed out, the latest first.

A call that throws leaves the Player as it was.
-/

namespace Snf.Game

open Snf.Lib

/-- The results of the purchases among the responses. -/
def PlayerResult.purchases (result : PlayerResult) : List PurchaseTransactionResult :=
  result.responses.filterMap fun
    | .purchase result => some result
    | _ => none

structure PlayerRun where
  player : Player
  purchases : List PurchaseTransactionResult := []
  records : List PlayerRecord := []
  /-- The mask of the latest record, if it was handed out and not restored. -/
  cleared : Option PlayerStateComponentMask := none
deriving DecidableEq

inductive PlayerAction where
  | restore (record : PlayerRecord)
  | handle (command : PlayerCommand)
  | setLastLocation (location : Option PlayerLocation)
  | grantStreetExperience (experience : UInt64)
  | takeDirtySnapshot
  | restoreDirtyComponents (components : PlayerStateComponentMask)
deriving DecidableEq

namespace PlayerRun

def step (s : PlayerRun) : PlayerAction → PlayerRun
  | .restore record =>
    match s.player.restore record with
    | .error _ => s
    | .ok player => { s with player := player, records := record :: s.records, cleared := none }
  | .handle command =>
    match s.player.handle command with
    | .error _ => s
    | .ok (result, player) =>
      { s with player := player, purchases := result.purchases ++ s.purchases }
  | .setLastLocation location => { s with player := s.player.setLastLocation location }
  | .grantStreetExperience experience =>
    { s with player := s.player.grantStreetExperience experience }
  | .takeDirtySnapshot =>
    match s.player.takeDirtySnapshot with
    | .error _ => s
    | .ok (none, _, player) => { s with player := player }
    | .ok (some record, mask, player) =>
      { s with player := player, records := record :: s.records, cleared := some mask }
  | .restoreDirtyComponents components =>
    { s with player := s.player.restoreDirtyComponents components }

end PlayerRun

/-- The runs of the Player `start`. -/
def playerMachine (start : Player) : Machine PlayerRun PlayerAction where
  init s := s = { player := start }
  step s action := some (s.step action)

namespace Player

/-- A command has been counted. -/
def counted (p : Player) : Player :=
  { p with state := { p.state with handledCommandCount := p.state.handledCommandCount + 1 } }

/-- **What a command does.** It buys something, or equips a skill, or changes nothing but the
number of commands. -/
inductive Handled (p : Player) : PlayerCommand → PlayerResult → Player → Prop where
  | purchased {player : PlayerId} {key : PurchaseIdempotencyKey} {product : ProductId} :
      p.state.identity = some player →
      Handled p (.purchase key product)
        { responses := [.purchase (p.handlePurchase player key product).1] }
        (p.handlePurchase player key product).2.counted
  | equipped {skill : SkillId} {result : PlayerResult} {p' : Player} : result.purchases = [] →
      p' = { p with state := { p.state with
        skillLoadout := (p.state.skillLoadout.equipSkillId skill).2
        dirtyComponents := p.state.dirtyComponents.union
          { skills := (p.state.skillLoadout.equipSkillId skill).1 = .equipped } } } →
      Handled p (.equipSkill skill) result p'.counted
  | other {command : PlayerCommand} {result : PlayerResult} :
      (∀ key product, command ≠ .purchase key product) → result.purchases = [] →
      Handled p command result p.counted

theorem handled {p p' : Player} {command : PlayerCommand} {result : PlayerResult}
    (h : p.handle command = .ok (result, p')) : Handled p command result p' := by
  simp only [handle, bind, Except.bind] at h
  split at h
  · cases h
  · next out hout =>
    cases h
    obtain ⟨result, q⟩ := out
    cases command with
    | ping payload =>
      cases hout
      exact .other nofun rfl
    | authenticate player =>
      simp only [handleCommand] at hout
      split at hout
      · cases hout
      · cases hout
        exact .other nofun rfl
    | joinRoom room =>
      simp only [handleCommand] at hout
      split at hout
      · cases hout
      · cases hout
        exact .other nofun rfl
    | equipSkill skill =>
      simp only [handleCommand] at hout
      split at hout
      · cases hout
      · cases hout
        exact .equipped rfl rfl
    | purchase key product =>
      simp only [handleCommand] at hout
      split at hout
      · cases hout
      · next player hidentity =>
        cases hout
        exact .purchased hidentity

/-- A record to save is handed out exactly if a component that a save writes is dirty. -/
theorem takeDirtySnapshot_eq {p p' : Player} {record : Option PlayerRecord}
    {mask : PlayerStateComponentMask} (h : p.takeDirtySnapshot = .ok (record, mask, p')) :
    (record = none ∧ p' = p) ∨
      (∃ taken, record = some taken ∧ p.snapshot = .ok taken ∧ mask = p.state.dirtyComponents ∧
        p' = { p with state := { p.state with dirtyComponents := {} } }) := by
  unfold takeDirtySnapshot at h
  split at h
  · simp only [bind, Except.bind] at h
    split at h
    · cases h
    · next taken htaken =>
      cases h
      exact .inr ⟨taken, rfl, htaken, rfl, rfl⟩
  · cases h
    exact .inl ⟨rfl, rfl⟩

end Player

end Snf.Game
