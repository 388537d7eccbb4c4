import Mathlib

/-! # Strictly ordered lists

Insertion and removal at the lower bound of a value, in a list that is kept in strictly
increasing order.
-/

namespace Snf.Lib

universe u

variable {α : Type u} [LinearOrder α] {l : List α} {a b : α}

/-- The list with `a` at its lower bound. -/
def insertAt (a : α) (l : List α) : List α :=
  l.takeWhile (· < a) ++ a :: l.dropWhile (· < a)

/-- The list without the element at the lower bound of `a`. -/
def removeAt (a : α) (l : List α) : List α :=
  l.takeWhile (· < a) ++ (l.dropWhile (· < a)).tail

theorem le_of_mem_dropWhile (h : l.Pairwise (· < ·)) (hb : b ∈ l.dropWhile (· < a)) : a ≤ b := by
  induction l with
  | nil => cases hb
  | cons c l ih =>
    obtain ⟨hc, hl⟩ := List.pairwise_cons.1 h
    rw [List.dropWhile_cons] at hb
    split at hb
    · exact ih hl hb
    · next hca =>
      have hac : a ≤ c := not_lt.1 (by simpa using hca)
      rcases List.mem_cons.1 hb with hbc | hbl
      · exact hbc ▸ hac
      · exact hac.trans (hc b hbl).le

theorem lt_of_mem_takeWhile (hb : b ∈ l.takeWhile (· < a)) : b < a := by
  simpa using List.mem_takeWhile_imp hb

theorem mem_split : b ∈ l ↔ b ∈ l.takeWhile (· < a) ∨ b ∈ l.dropWhile (· < a) := by
  rw [← List.mem_append, List.takeWhile_append_dropWhile]

/-- The element at the lower bound of `a` is `a` exactly if `a` is in the list. -/
theorem head_dropWhile_iff (h : l.Pairwise (· < ·)) :
    (l.dropWhile (· < a)).head? = some a ↔ a ∈ l := by
  constructor
  · intro hhead
    exact (List.dropWhile_sublist _).subset (List.mem_of_mem_head? hhead)
  · intro ha
    have hdrop : a ∈ l.dropWhile (· < a) := by
      rcases mem_split.1 ha with htake | hdrop
      · exact absurd (lt_of_mem_takeWhile htake) (lt_irrefl a)
      · exact hdrop
    have hle := fun b hb => le_of_mem_dropWhile (b := b) (a := a) h hb
    have hsorted := h.sublist (List.dropWhile_sublist (· < a))
    cases hd : l.dropWhile (· < a) with
    | nil => simp [hd] at hdrop
    | cons c rest =>
      rw [hd] at hdrop hle hsorted
      rcases List.mem_cons.1 hdrop with hac | hrest
      · simp [hac]
      · have hca := (List.pairwise_cons.1 hsorted).1 a hrest
        exact absurd (hle c List.mem_cons_self) (not_le.2 hca)

theorem mem_insertAt : b ∈ insertAt a l ↔ b = a ∨ b ∈ l := by
  rw [mem_split (a := a) (l := l), insertAt, List.mem_append, List.mem_cons]
  exact or_left_comm

theorem pairwise_insertAt (h : l.Pairwise (· < ·)) (ha : a ∉ l) :
    (insertAt a l).Pairwise (· < ·) := by
  have habove (b : α) (hb : b ∈ l.dropWhile (· < a)) : a < b := by
    refine lt_of_le_of_ne (le_of_mem_dropWhile h hb) ?_
    rintro rfl
    exact ha (mem_split.2 (.inr hb))
  refine List.pairwise_append.2 ⟨h.sublist (List.takeWhile_sublist _), ?_, ?_⟩
  · exact List.pairwise_cons.2 ⟨habove, h.sublist (List.dropWhile_sublist _)⟩
  · intro c hc d hd
    have hca := lt_of_mem_takeWhile hc
    rcases List.mem_cons.1 hd with rfl | hd
    · exact hca
    · exact hca.trans (habove d hd)

theorem pairwise_removeAt (h : l.Pairwise (· < ·)) : (removeAt a l).Pairwise (· < ·) := by
  have hsub : (removeAt a l).Sublist (l.takeWhile (· < a) ++ l.dropWhile (· < a)) :=
    (List.tail_sublist _).append_left _
  rw [List.takeWhile_append_dropWhile] at hsub
  exact h.sublist hsub

theorem mem_removeAt (h : l.Pairwise (· < ·)) (ha : a ∈ l) : b ∈ removeAt a l ↔ b ≠ a ∧ b ∈ l := by
  have hhead := (head_dropWhile_iff h).2 ha
  have hsorted := h.sublist (List.dropWhile_sublist (· < a))
  rw [mem_split (a := a) (l := l), removeAt, List.mem_append]
  cases hd : l.dropWhile (· < a) with
  | nil => simp [hd] at hhead
  | cons c rest =>
    obtain rfl : c = a := by simpa [hd] using hhead
    rw [hd] at hsorted
    have hrest := (List.pairwise_cons.1 hsorted).1
    constructor
    · rintro (htake | htail)
      · exact ⟨(lt_of_mem_takeWhile htake).ne, .inl htake⟩
      · exact ⟨(hrest b htail).ne', .inr (List.mem_cons_of_mem _ htail)⟩
    · rintro ⟨hne, htake | hdrop⟩
      · exact .inl htake
      · exact .inr ((List.mem_cons.1 hdrop).resolve_left hne)

/-- Two lists whose keys increase are the same if they have the same elements. -/
theorem eq_of_mem_iff {β : Type*} {key : β → α} {xs ys : List β}
    (hxs : (xs.map key).Pairwise (· < ·)) (hys : (ys.map key).Pairwise (· < ·))
    (h : ∀ x, x ∈ xs ↔ x ∈ ys) : xs = ys := by
  rw [List.pairwise_map] at hxs hys
  have hnodup {zs : List β} (hzs : zs.Pairwise fun x y => key x < key y) : zs.Nodup := by
    refine hzs.imp fun hlt heq => ?_
    rw [heq] at hlt
    exact lt_irrefl _ hlt
  refine List.Perm.eq_of_pairwise ?_ hxs hys
    ((List.perm_ext_iff_of_nodup (hnodup hxs) (hnodup hys)).2 h)
  intro x y _ _ hlt hgt
  exact absurd hgt (lt_asymm hlt)

end Snf.Lib
