import Mathlib

/-! # Journals

A list of entries filed under numbers, and the entries filed under one number in their order.
-/

namespace Snf.Lib

universe u

variable {α : Type u} {l l' : List (Nat × α)} {n m : Nat}

/-- The entries filed under a number. -/
def filed (n : Nat) (l : List (Nat × α)) : List α :=
  l.filterMap fun entry => if entry.1 = n then some entry.2 else none

theorem filed_append (n : Nat) (l l' : List (Nat × α)) :
    filed n (l ++ l') = filed n l ++ filed n l' :=
  List.filterMap_append

@[simp] theorem filed_cons_self (n : Nat) (a : α) (l : List (Nat × α)) :
    filed n ((n, a) :: l) = a :: filed n l := by
  simp [filed]

theorem filed_cons_ne (h : m ≠ n) (a : α) (l : List (Nat × α)) :
    filed n ((m, a) :: l) = filed n l := by
  simp [filed, h]

theorem filed_append_ne (h : m ≠ n) (l : List (Nat × α)) (a : α) :
    filed m (l ++ [(n, a)]) = filed m l := by
  rw [filed_append, filed_cons_ne (Ne.symm h)]
  exact List.append_nil _

theorem filed_append_self (n : Nat) (l : List (Nat × α)) (a : α) :
    filed n (l ++ [(n, a)]) = filed n l ++ [a] := by
  rw [filed_append, filed_cons_self]
  rfl

end Snf.Lib
