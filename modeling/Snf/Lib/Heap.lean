import Mathlib

/-! # Heaps in a vector

The binary heaps that library functions keep in a vector: the parent of the element at `i + 1` is
the one at `i / 2`. Of the functions only their contract is assumed; `HeapAlgorithms.sorting`
shows that it can be met.
-/

namespace Snf.Lib

universe u

variable {α : Type u} {key : α → Nat} {l : List α} {e : α}

/-- No element is less than its parent. -/
def IsHeap (key : α → Nat) (l : List α) : Prop :=
  ∀ i p c, l[i / 2]? = some p → l[i + 1]? = some c → key p ≤ key c

/-- The front of a heap is a least element. -/
theorem IsHeap.front_le (h : IsHeap key (e :: l)) : ∀ c ∈ e :: l, key e ≤ key c := by
  intro c hc
  obtain ⟨i, hi⟩ := List.getElem?_of_mem hc
  clear hc
  induction i using Nat.strongRecOn generalizing c with
  | ind i ih =>
    cases i with
    | zero =>
      cases hi
      exact le_rfl
    | succ i =>
      obtain ⟨hlt, -⟩ := List.getElem?_eq_some_iff.1 hi
      have hparent : i / 2 < (e :: l).length := by omega
      have hp := List.getElem?_eq_getElem hparent
      exact (ih (i / 2) (by omega) _ hp).trans (h i _ c hp hi)

theorem isHeap_of_pairwise (h : l.Pairwise fun a b => key a ≤ key b) : IsHeap key l := by
  intro i p c hp hc
  obtain ⟨_, rfl⟩ := List.getElem?_eq_some_iff.1 hp
  obtain ⟨_, rfl⟩ := List.getElem?_eq_some_iff.1 hc
  exact List.pairwise_iff_getElem.1 h _ _ _ _ (by omega)

/-- `push_heap`, `pop_heap` and `make_heap`. The first is called when an element was added at the
end of a heap; the second brings the front to the end. -/
structure HeapAlgorithms (key : α → Nat) where
  pushHeap : List α → List α
  popHeap : List α → List α
  makeHeap : List α → List α
  pushHeap_perm : ∀ l, (pushHeap l).Perm l
  isHeap_pushHeap : ∀ l e, IsHeap key l → IsHeap key (pushHeap (l ++ [e]))
  popHeap_eq : ∀ e l, IsHeap key (e :: l) →
    ∃ rest, popHeap (e :: l) = rest ++ [e] ∧ rest.Perm l ∧ IsHeap key rest
  makeHeap_perm : ∀ l, (makeHeap l).Perm l
  isHeap_makeHeap : ∀ l, IsHeap key (makeHeap l)

/-- The elements in increasing order are a heap. -/
def sortByKey (key : α → Nat) (l : List α) : List α := l.insertionSort fun a b => key a ≤ key b

theorem isHeap_sortByKey (l : List α) : IsHeap key (sortByKey key l) := by
  have : Std.Total fun a b : α => key a ≤ key b := ⟨fun a b => Nat.le_total (key a) (key b)⟩
  have : IsTrans α fun a b => key a ≤ key b := ⟨fun _ _ _ => Nat.le_trans⟩
  exact isHeap_of_pairwise (List.pairwise_insertionSort _ l)

def HeapAlgorithms.sorting (key : α → Nat) : HeapAlgorithms key where
  pushHeap := sortByKey key
  popHeap
    | [] => []
    | e :: l => sortByKey key l ++ [e]
  makeHeap := sortByKey key
  pushHeap_perm := List.perm_insertionSort _
  isHeap_pushHeap l e _ := isHeap_sortByKey (l ++ [e])
  popHeap_eq _ l _ := ⟨sortByKey key l, rfl, List.perm_insertionSort _ l, isHeap_sortByKey l⟩
  makeHeap_perm := List.perm_insertionSort _
  isHeap_makeHeap := isHeap_sortByKey

end Snf.Lib
