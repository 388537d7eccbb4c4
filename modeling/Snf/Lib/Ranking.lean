import Mathlib

/-! # Elements by rank

The element of a rank in a list, counted from zero in increasing order. It depends only on the
multiset of the elements, monotone functions commute with it, and it can be found by counting.
-/

namespace Snf.Lib

universe u v

variable {α : Type u} [LinearOrder α] {β : Type v} [LinearOrder β] {l l' : List α} {a b : α}
  {i j k : Nat}

/-- The element that `k` others come before. -/
def ranked (l : List α) (k : Nat) : Option α := (l.insertionSort (· ≤ ·))[k]?

theorem insertionSort_eq_of_perm (h : l.Perm l') :
    l.insertionSort (· ≤ ·) = l'.insertionSort (· ≤ ·) := by
  have hperm := (List.perm_insertionSort (· ≤ ·) l).trans
    (h.trans (List.perm_insertionSort (· ≤ ·) l').symm)
  exact hperm.eq_of_pairwise (fun _ _ _ _ => le_antisymm) (List.pairwise_insertionSort _ _)
    (List.pairwise_insertionSort _ _)

theorem ranked_perm (h : l.Perm l') (k : Nat) : ranked l k = ranked l' k := by
  rw [ranked, ranked, insertionSort_eq_of_perm h]

theorem ranked_map {f : α → β} (hf : Monotone f) (l : List α) (k : Nat) :
    ranked (l.map f) k = (ranked l k).map f := by
  have hperm := (List.perm_insertionSort (· ≤ ·) (l.map f)).trans
    ((List.perm_insertionSort (· ≤ ·) l).map f).symm
  have hsorted : ((l.insertionSort (· ≤ ·)).map f).Pairwise (· ≤ ·) :=
    (List.pairwise_insertionSort (· ≤ ·) l).map f fun _ _ hle => hf hle
  rw [ranked, ranked, ← List.getElem?_map,
    hperm.eq_of_pairwise (fun _ _ _ _ => le_antisymm) (List.pairwise_insertionSort _ _) hsorted]

theorem ranked_mem (h : ranked l k = some a) : a ∈ l :=
  (List.mem_insertionSort (· ≤ ·)).1 (List.mem_of_getElem? h)

theorem exists_ranked (h : k < l.length) : ∃ a, ranked l k = some a :=
  ⟨_, List.getElem?_eq_getElem (by rwa [List.length_insertionSort])⟩

theorem ranked_le (hij : i ≤ j) (hi : ranked l i = some a) (hj : ranked l j = some b) : a ≤ b := by
  obtain ⟨_, rfl⟩ := List.getElem?_eq_some_iff.1 hi
  obtain ⟨_, rfl⟩ := List.getElem?_eq_some_iff.1 hj
  rcases hij.eq_or_lt with rfl | hlt
  · exact le_rfl
  · exact List.pairwise_iff_getElem.1 (List.pairwise_insertionSort (· ≤ ·) l) i j _ _ hlt

/-- In increasing order, what is closed downwards holds of the first elements only. -/
theorem lt_countP_of_sorted {p : α → Bool} (hp : ∀ x y, x ≤ y → p y = true → p x = true)
    (hl : l.Pairwise (· ≤ ·)) (h : l[k]? = some a) : k < l.countP p ↔ p a = true := by
  induction l generalizing k with
  | nil => cases h
  | cons c l ih =>
    obtain ⟨hc, hl⟩ := List.pairwise_cons.1 hl
    by_cases hpc : p c = true
    · rw [List.countP_cons_of_pos hpc]
      cases k with
      | zero =>
        rw [List.getElem?_cons_zero] at h
        cases h
        exact iff_of_true (Nat.succ_pos _) hpc
      | succ k =>
        rw [List.getElem?_cons_succ] at h
        rw [Nat.succ_lt_succ_iff]
        exact ih hl h
    · have hnone : ∀ x ∈ c :: l, ¬ p x = true := by
        intro x hx hpx
        rcases List.mem_cons.1 hx with rfl | hx
        · exact hpc hpx
        · exact hpc (hp c x (hc x hx) hpx)
      rw [List.countP_eq_zero.2 hnone]
      exact iff_of_false (Nat.not_lt_zero k) (hnone a (List.mem_of_getElem? h))

theorem lt_countP_iff {p : α → Bool} (hp : ∀ x y, x ≤ y → p y = true → p x = true)
    (h : ranked l k = some a) : k < l.countP p ↔ p a = true := by
  rw [← (List.perm_insertionSort (· ≤ ·) l).countP_eq]
  exact lt_countP_of_sorted hp (List.pairwise_insertionSort _ _) h

end Snf.Lib
