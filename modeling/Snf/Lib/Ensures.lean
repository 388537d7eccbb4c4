import Mathlib

/-! # Postconditions of computations that may throw

`Ensures x post` is partial correctness of an `Except` computation: whatever it
returns satisfies `post`, and a thrown error promises nothing. `Yields x post fault`
also says what it may throw. The rules follow the shape of the program, so that the
postcondition of a function is assembled from those of the functions it calls.
-/

namespace Snf.Lib

universe u v

variable {ε : Type u} {α β : Type v}

/-- Every value that `x` returns satisfies `post`. -/
def Ensures (x : Except ε α) (post : α → Prop) : Prop := ∀ a, x = .ok a → post a

namespace Ensures

variable {x y : Except ε α} {post mid : α → Prop}

theorem ok {a : α} (h : post a) : Ensures (.ok a : Except ε α) post := by
  intro b hb
  cases hb
  exact h

theorem error {e : ε} : Ensures (.error e : Except ε α) post := by
  intro b hb
  cases hb

theorem mono (h : Ensures x mid) (himp : ∀ a, mid a → post a) : Ensures x post :=
  fun a ha => himp a (h a ha)

/-- **Sequencing.** The continuation may assume what the first part ensures. -/
theorem bind {f : α → Except ε β} {post : β → Prop} (hx : Ensures x mid)
    (hf : ∀ a, mid a → Ensures (f a) post) : Ensures (x >>= f) post := by
  intro b hb
  cases x with
  | error e => cases hb
  | ok a => exact hf a (hx a rfl) b hb

theorem ite {c : Prop} [Decidable c] (ht : c → Ensures x post) (hf : ¬c → Ensures y post) :
    Ensures (if c then x else y) post := by
  split
  · next h => exact ht h
  · next h => exact hf h

end Ensures

/-- Every value that `x` returns satisfies `post`, every error that it throws `fault`. -/
def Yields (x : Except ε α) (post : α → Prop) (fault : ε → Prop) : Prop :=
  match x with
  | .ok a => post a
  | .error e => fault e

namespace Yields

variable {x y : Except ε α} {post mid : α → Prop} {fault thrown : ε → Prop}

theorem ok {a : α} (h : post a) : Yields (.ok a : Except ε α) post fault := h

theorem error {e : ε} (h : fault e) : Yields (.error e : Except ε α) post fault := h

theorem mono (h : Yields x mid thrown) (himp : ∀ a, mid a → post a)
    (hthrown : ∀ e, thrown e → fault e) : Yields x post fault := by
  cases x with
  | ok a => exact himp a h
  | error e => exact hthrown e h

/-- What is known of the values alone adds to what is known of both. -/
theorem and (h : Yields x post fault) (h' : Ensures x mid) :
    Yields x (fun a => post a ∧ mid a) fault := by
  cases x with
  | ok a => exact ⟨h, h' a rfl⟩
  | error e => exact h

theorem bind {f : α → Except ε β} {post : β → Prop} (hx : Yields x mid fault)
    (hf : ∀ a, mid a → Yields (f a) post fault) : Yields (x >>= f) post fault := by
  cases x with
  | ok a => exact hf a hx
  | error e => exact hx

theorem ite {c : Prop} [Decidable c] (ht : c → Yields x post fault)
    (hf : ¬c → Yields y post fault) : Yields (if c then x else y) post fault := by
  split
  · next h => exact ht h
  · next h => exact hf h

theorem foldlM {γ : Type v} {f : α → γ → Except ε α} {inv : α → Prop}
    (hf : ∀ a c, inv a → Yields (f a c) inv fault) :
    ∀ (l : List γ) (a : α), inv a → Yields (l.foldlM f a) inv fault
  | [], _, ha => ok ha
  | c :: l, a, ha => (hf a c ha).bind fun a' ha' => foldlM hf l a' ha'

/-- Where nothing is known of the first part but its value. -/
theorem of_bind {f : α → Except ε β} {post : β → Prop}
    (herror : ∀ e, x = .error e → fault e) (hf : ∀ a, x = .ok a → Yields (f a) post fault) :
    Yields (x >>= f) post fault := by
  cases x with
  | ok a => exact hf a rfl
  | error e => exact herror e rfl

theorem map {f : α → β} {post : β → Prop} (h : Yields x (fun a => post (f a)) fault) :
    Yields (x.map f) post fault := by
  cases x with
  | ok a => exact h
  | error e => exact h

end Yields

/-- A successful sequence splits into its two parts. -/
theorem bind_eq_ok {x : Except ε α} {f : α → Except ε β} {b : β} (h : x >>= f = .ok b) :
    ∃ a, x = .ok a ∧ f a = .ok b := by
  cases x with
  | error e => cases h
  | ok a => exact ⟨a, rfl, h⟩

end Snf.Lib
