import Mathlib

/-! # Labelled machines and guarded runs

A machine is a partial step function: the label of a step carries every choice
that the environment or the scheduler makes, so that a step is executable and a
run is replayed from its list of labels.

Safety results are stated over `Reach guard`, the states of the runs all of
whose steps satisfy `guard`. A guard reads the state before the step and the
label, never the state after it. The unguarded runs are `Reach (fun _ _ => True)`.
-/

namespace Snf.Lib

universe u v

/-- A machine over states `σ` and labels `α`; `step s a = none` means that `a` is
not enabled in `s`. -/
structure Machine (σ : Type u) (α : Type v) where
  init : σ → Prop
  step : σ → α → Option σ

namespace Machine

variable {σ : Type u} {α : Type v} {m : Machine σ α} {guard guard' : σ → α → Prop}

/-- The states of the runs all of whose steps satisfy `guard`. -/
inductive Reach (m : Machine σ α) (guard : σ → α → Prop) : σ → Prop where
  | init {s : σ} : m.init s → Reach m guard s
  | step {s s' : σ} (a : α) : Reach m guard s → guard s a → m.step s a = some s' →
      Reach m guard s'

/-- **Invariant rule.** A property of the initial states that every guarded step
from a reachable state keeps holds in every state of every guarded run. -/
theorem Reach.invariant {P : σ → Prop} (h0 : ∀ s, m.init s → P s)
    (hstep : ∀ s a s', m.Reach guard s → P s → guard s a → m.step s a = some s' → P s')
    {s : σ} (h : m.Reach guard s) : P s := by
  induction h with
  | init hi => exact h0 _ hi
  | step a hr hg hs ih => exact hstep _ a _ hr ih hg hs

/-- Replay a list of labels, checking `guard` before each of them. -/
def replay (m : Machine σ α) (guard : σ → α → Prop) [∀ s a, Decidable (guard s a)] :
    σ → List α → Option σ
  | s, [] => some s
  | s, a :: rest => if guard s a then (m.step s a).bind (replay m guard · rest) else none

/-- A successful replay ends in a reachable state. -/
theorem Reach.replay [∀ s a, Decidable (guard s a)] :
    ∀ {acts : List α} {s s' : σ}, m.Reach guard s → m.replay guard s acts = some s' →
      m.Reach guard s'
  | [], s, s', h, hr => by
    simp only [Machine.replay, Option.some.injEq] at hr
    exact hr ▸ h
  | a :: rest, s, s', h, hr => by
    simp only [Machine.replay] at hr
    split at hr
    · next hg =>
      obtain ⟨t, ht, hrest⟩ := Option.bind_eq_some_iff.1 hr
      exact Reach.replay (.step a h hg ht) hrest
    · cases hr

/-- A replay whose last state passes a test reaches a state that passes it. -/
theorem exists_reach_of_replay (m : Machine σ α) (guard : σ → α → Prop)
    [∀ s a, Decidable (guard s a)] {s : σ} (hi : m.init s) (acts : List α) (test : σ → Bool)
    (h : (m.replay guard s acts).map test = some true) :
    ∃ s', m.Reach guard s' ∧ test s' = true := by
  obtain ⟨s', hr, ht⟩ := Option.map_eq_some_iff.1 h
  exact ⟨s', Reach.replay (.init hi) hr, ht⟩

end Machine

end Snf.Lib
