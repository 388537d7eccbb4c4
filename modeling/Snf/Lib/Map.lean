import Mathlib

/-! # Lookups in finite maps

Mathlib states the lookup lemmas of `AList` apart for the updated key and for the
others. Step proofs meet both at once, so the two are joined here.
-/

namespace Snf.Lib

universe u v

variable {α : Type u} {β : Type v} [DecidableEq α]

theorem lookup_insert_ite (m : AList fun _ : α => β) (k a : α) (b : β) :
    (m.insert k b).lookup a = if a = k then some b else m.lookup a := by
  by_cases h : a = k
  · subst h; simp [AList.lookup_insert]
  · simp [AList.lookup_insert_ne h, h]

theorem lookup_erase_ite (m : AList fun _ : α => β) (k a : α) :
    (m.erase k).lookup a = if a = k then none else m.lookup a := by
  by_cases h : a = k
  · subst h; simp [AList.lookup_erase]
  · simp [AList.lookup_erase_ne h, h]

theorem mem_keys_of_lookup {m : AList fun _ : α => β} {a : α} {b : β}
    (h : m.lookup a = some b) : a ∈ m.keys := by
  rw [← AList.mem_keys, ← AList.lookup_isSome, h]
  rfl

/-! ## Sums over the values of a map -/

/-- The sum of `f` over the values. -/
def total (f : β → Nat) (m : AList fun _ : α => β) : Nat := (m.entries.map fun e => f e.2).sum

theorem sum_kerase (f : β → Nat) (k : α) :
    ∀ l : List (Sigma fun _ : α => β), l.NodupKeys →
      ((l.kerase k).map fun e => f e.2).sum + ((l.dlookup k).map f).getD 0 =
        (l.map fun e => f e.2).sum
  | [], _ => rfl
  | ⟨a, b⟩ :: l, h => by
    have hl : l.NodupKeys := (List.nodupKeys_cons.1 h).2
    by_cases hk : k = a
    · subst hk
      simp [List.kerase_cons_eq, List.dlookup_cons_eq, Nat.add_comm]
    · rw [List.kerase_cons_ne hk, List.dlookup_cons_ne l _ hk]
      simp only [List.map_cons, List.sum_cons]
      have ih := sum_kerase f k l hl
      omega

/-- Erasing a key takes the value of its entry out of the sum. -/
theorem total_erase (f : β → Nat) (m : AList fun _ : α => β) (k : α) :
    total f (m.erase k) + ((m.lookup k).map f).getD 0 = total f m :=
  sum_kerase f k m.entries m.nodupKeys

/-- Inserting at a key replaces the value there, if there was one. -/
theorem total_insert (f : β → Nat) (m : AList fun _ : α => β) (k : α) (b : β) :
    total f (m.insert k b) + ((m.lookup k).map f).getD 0 = total f m + f b := by
  have h := sum_kerase f k m.entries m.nodupKeys
  simp only [total, AList.entries_insert, List.map_cons, List.sum_cons,
    AList.lookup] at h ⊢
  omega

theorem total_insert_of_lookup (f : β → Nat) {m : AList fun _ : α => β} {k : α} {b : β}
    (h : m.lookup k = some b) (b' : β) : total f (m.insert k b') + f b = total f m + f b' := by
  have hins := total_insert f m k b'
  simpa only [h, Option.map_some, Option.getD_some] using hins

theorem total_insert_of_none (f : β → Nat) {m : AList fun _ : α => β} {k : α}
    (h : m.lookup k = none) (b : β) : total f (m.insert k b) = total f m + f b := by
  have hins := total_insert f m k b
  simpa only [h, Option.map_none, Option.getD_none, Nat.add_zero] using hins

theorem total_erase_of_lookup (f : β → Nat) {m : AList fun _ : α => β} {k : α} {b : β}
    (h : m.lookup k = some b) : total f (m.erase k) + f b = total f m := by
  have hers := total_erase f m k
  simpa only [h, Option.map_some, Option.getD_some] using hers

/-- The value of an entry is part of the sum. -/
theorem le_total (f : β → Nat) {m : AList fun _ : α => β} {k : α} {b : β}
    (h : m.lookup k = some b) : f b ≤ total f m := by
  have := total_erase_of_lookup f h
  omega

theorem eq_empty_of_lookup {m : AList fun _ : α => β} (h : ∀ k, m.lookup k = none) : m = ∅ := by
  refine AList.ext (List.eq_nil_iff_forall_not_mem.2 fun e he => ?_)
  have hk : e.1 ∈ m.keys := List.mem_map_of_mem he
  exact AList.lookup_eq_none.1 (h e.1) hk

omit [DecidableEq α] in
/-- Counting the values counts the entries. -/
theorem total_one (m : AList fun _ : α => β) : total (fun _ => 1) m = m.entries.length := by
  simp [total]

omit [DecidableEq α] in
/-- Counting the values that do not satisfy `q`. -/
theorem total_ite (q : β → Prop) [DecidablePred q] (m : AList fun _ : α => β) :
    total (fun b => if q b then 0 else 1) m = (m.entries.filter fun e => ¬q e.2).length := by
  unfold total
  induction m.entries with
  | nil => rfl
  | cons e l ih =>
    by_cases h : q e.2
    · simp [h, ih]
    · simp [h, ih, Nat.add_comm]

theorem length_insert_of_lookup {m : AList fun _ : α => β} {k : α} {b : β}
    (h : m.lookup k = some b) (b' : β) :
    (m.insert k b').entries.length = m.entries.length := by
  have hins := total_insert (fun _ => 1) m k b'
  simp only [total_one, h, Option.map_some, Option.getD_some] at hins
  omega

theorem length_insert_of_none {m : AList fun _ : α => β} {k : α}
    (h : m.lookup k = none) (b : β) :
    (m.insert k b).entries.length = m.entries.length + 1 := by
  have hins := total_insert (fun _ => 1) m k b
  simp only [total_one, h, Option.map_none, Option.getD_none] at hins
  omega

theorem length_erase_of_lookup {m : AList fun _ : α => β} {k : α} {b : β}
    (h : m.lookup k = some b) : (m.erase k).entries.length + 1 = m.entries.length := by
  have hers := total_erase (fun _ => 1) m k
  simp only [total_one, h, Option.map_some, Option.getD_some] at hers
  omega

theorem length_insert_le (m : AList fun _ : α => β) (k : α) (b : β) :
    (m.insert k b).entries.length ≤ m.entries.length + 1 := by
  have hins := total_insert (fun _ => 1) m k b
  simp only [total_one] at hins
  omega

theorem length_erase_le (m : AList fun _ : α => β) (k : α) :
    (m.erase k).entries.length ≤ m.entries.length := by
  have hers := total_erase (fun _ => 1) m k
  simp only [total_one] at hers
  omega

end Snf.Lib
