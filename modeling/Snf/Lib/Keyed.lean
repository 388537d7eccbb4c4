import Mathlib

/-! # Lists of records with distinct keys

A vector of records that is searched by key: replacing, removing and appending one record,
and what a search finds afterwards.
-/

namespace Snf.Lib

universe u v

variable {α : Type u} {κ : Type v} {key : α → κ} {before after l : List α} {a b : α}

theorem key_ne_of_split (h : ((before ++ a :: after).map key).Nodup) {c : α}
    (hc : c ∈ before ∨ c ∈ after) : key c ≠ key a := by
  simp only [List.map_append, List.map_cons] at h
  obtain ⟨-, hafter, hbefore⟩ := List.nodup_append.1 h
  rcases hc with hc | hc
  · exact hbefore _ (List.mem_map_of_mem hc) _ List.mem_cons_self
  · intro heq
    exact (List.nodup_cons.1 hafter).1 (heq ▸ List.mem_map_of_mem hc)

theorem map_key_replace (hkey : key b = key a) :
    (before ++ b :: after).map key = (before ++ a :: after).map key := by
  simp only [List.map_append, List.map_cons, hkey]

variable [DecidableEq κ]

/-- Writing a record back under its key changes it alone. -/
theorem map_ite_key (h : ((before ++ a :: after).map key).Nodup) :
    (before ++ a :: after).map (fun c => if key c = key a then b else c) =
      before ++ b :: after := by
  have hsame : ∀ l : List α, (∀ c ∈ l, key c ≠ key a) →
      l.map (fun c => if key c = key a then b else c) = l := by
    intro l hl
    refine (List.map_congr_left fun c hc => if_neg (hl c hc)).trans (List.map_id' l)
  rw [List.map_append, List.map_cons, if_pos rfl,
    hsame before fun c hc => key_ne_of_split h (.inl hc),
    hsame after fun c hc => key_ne_of_split h (.inr hc)]

/-- The record with the key, the first of the list. -/
def atKey (key : α → κ) (k : κ) (l : List α) : Option α := l.find? (key · = k)

theorem atKey_eq_none {k : κ} (h : ∀ c ∈ l, key c ≠ k) : atKey key k l = none :=
  List.find?_eq_none.2 fun c hc => by simpa using h c hc

theorem atKey_append (k : κ) (l l' : List α) :
    atKey key k (l ++ l') = (atKey key k l).or (atKey key k l') :=
  List.find?_append

theorem atKey_cons (k : κ) (l : List α) :
    atKey key k (a :: l) = if k = key a then some a else atKey key k l := by
  simp only [atKey, List.find?_cons]
  by_cases hk : key a = k
  · simp [hk]
  · simp [hk, Ne.symm hk]

/-- A search under distinct keys finds each record under its own. -/
theorem atKey_split (h : ((before ++ a :: after).map key).Nodup) (k : κ) :
    atKey key k (before ++ a :: after) =
      if k = key a then some a else atKey key k (before ++ after) := by
  rw [atKey_append, atKey_cons, atKey_append]
  split
  · next hk =>
    rw [atKey_eq_none fun c hc => hk ▸ key_ne_of_split h (.inl hc)]
    rfl
  · rfl

theorem atKey_of_mem (h : (l.map key).Nodup) (ha : a ∈ l) : atKey key (key a) l = some a := by
  obtain ⟨before, after, rfl⟩ := List.append_of_mem ha
  rw [atKey_split h, if_pos rfl]

/-- A record that is removed is not found any more. -/
theorem atKey_remove (h : ((before ++ a :: after).map key).Nodup) (k : κ) :
    atKey key k (before ++ after) =
      if k = key a then none else atKey key k (before ++ a :: after) := by
  rw [atKey_split h]
  split
  · next hk =>
    refine atKey_eq_none fun c hc => ?_
    rw [hk]
    exact key_ne_of_split h (List.mem_append.1 hc)
  · rfl

/-- A record that is replaced is found in its new form. -/
theorem atKey_replace (h : ((before ++ a :: after).map key).Nodup) (hkey : key b = key a) (k : κ) :
    atKey key k (before ++ b :: after) =
      if k = key a then some b else atKey key k (before ++ a :: after) := by
  have h' : ((before ++ b :: after).map key).Nodup := by
    rw [map_key_replace hkey]
    exact h
  rw [atKey_split h', atKey_split h, hkey]
  split <;> rfl

end Snf.Lib
