import Mathlib

/-! # Identities of the worker runtime

Keys, activations, awaits and connections, and the staleness rule of completions.
A valid incarnation, operation or generation is not zero: the counters that hand
them out start at one.
-/

namespace Snf.Worker

inductive ActorKind where
  | provisionalPlayer | player | zone | room
deriving DecidableEq, Repr

abbrev EntityId := Nat
abbrev WorkerId := Nat
abbrev ActorIncarnation := Nat
abbrev OperationId := Nat
abbrev ConnectionGeneration := Nat

/-- Readings of the steady clock. -/
abbrev TimePoint := Nat

structure ActorKey where
  kind : ActorKind
  entity : EntityId
deriving DecidableEq, Repr

/-- One activation of an actor. The handles of the actor table are written in this
form too: an incarnation is never handed out twice, so the slot index of a handle
adds nothing to it. -/
structure ActivationRef where
  actor : ActorKey
  incarnation : ActorIncarnation
deriving DecidableEq, Repr

structure AwaitKey where
  actor : ActorKey
  incarnation : ActorIncarnation
  operation : OperationId
deriving DecidableEq, Repr

def AwaitKey.activation (key : AwaitKey) : ActivationRef where
  actor := key.actor
  incarnation := key.incarnation

structure ConnectionHandle where
  id : Nat
  generation : ConnectionGeneration
deriving DecidableEq, Repr

structure ConnectionRef where
  id : Nat
  generation : ConnectionGeneration
  owner : WorkerId
deriving DecidableEq, Repr

/-- Both identities are valid and the whole key matches. -/
def acceptsCompletion (arriving blocked : AwaitKey) : Bool :=
  arriving.incarnation ≠ 0 && arriving.operation ≠ 0 && blocked.incarnation ≠ 0 &&
    blocked.operation ≠ 0 && arriving = blocked

theorem eq_of_acceptsCompletion {arriving blocked : AwaitKey}
    (h : acceptsCompletion arriving blocked = true) : arriving = blocked := by
  simp only [acceptsCompletion, Bool.and_eq_true, decide_eq_true_eq] at h
  exact h.2

/-- A message together with the bytes it is charged for. -/
structure ActorEnvelope (μ : Type) where
  payload : μ
  chargedBytes : Nat
deriving DecidableEq, Repr

end Snf.Worker
