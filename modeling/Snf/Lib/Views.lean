import Snf.Lib.Map
import Snf.Lib.Keyed

/-! # Views of keyed records

One side keeps records in a vector, another side keeps a map of what it has been told about
them. Both are looked at through a view: what is seen under a key. A step of the first side
and the message about it change the two views in the same way.
-/

namespace Snf.Lib

universe u v w

variable {α : Type u} {β : Type v} {κ : Type w} {σ : Type} [DecidableEq κ]

/-! ## A map -/

/-- The record under a key, if there is one, is changed in place. -/
def modify (m : AList fun _ : κ => β) (k : κ) (f : β → β) : AList fun _ : κ => β :=
  match m.lookup k with
  | none => m
  | some b => m.insert k (f b)

/-- What a map shows under a key. -/
def shown (view : β → σ) (m : AList fun _ : κ => β) (k : κ) : Option σ := (m.lookup k).map view

section Shown

variable {view : β → σ} (m : AList fun _ : κ => β) (k a : κ)

theorem shown_insert (b : β) :
    shown view (m.insert a b) k = if k = a then some (view b) else shown view m k := by
  unfold shown
  rw [lookup_insert_ite]
  split <;> rfl

theorem shown_erase :
    shown view (m.erase a) k = if k = a then none else shown view m k := by
  unfold shown
  rw [lookup_erase_ite]
  split <;> rfl

variable (view) in
/-- A change in place that the view can follow. -/
theorem shown_modify {f : β → β} {g : σ → σ} (h : ∀ b, view (f b) = g (view b)) :
    shown view (modify m a f) k = if k = a then (shown view m a).map g else shown view m k := by
  unfold modify
  split
  · next hnone =>
    split
    · next hk =>
      subst hk
      simp [shown, hnone]
    · rfl
  · next b hsome =>
    rw [shown_insert, h]
    simp only [shown, hsome, Option.map_some]

end Shown

/-! ## A vector -/

/-- What is seen of the record under a key, if it is one of those that `p` lets be seen. -/
def seen (key : α → κ) (p : α → Bool) (view : α → σ) (l : List α) (k : κ) : Option σ :=
  ((atKey key k l).filter p).map view

section Seen

variable {key : α → κ} {p : α → Bool} {view : α → σ} {before after l : List α} {a b : α}

theorem seen_true (k : κ) :
    seen key (fun _ => true) view l k = (l.find? (key · = k)).map view := by
  unfold seen atKey
  cases l.find? (key · = k) <;> rfl

theorem seen_of_mem (h : (l.map key).Nodup) (ha : a ∈ l) (hp : p a = true) :
    seen key p view l (key a) = some (view a) := by
  unfold seen
  rw [atKey_of_mem h ha, Option.filter_some_pos hp]
  rfl

theorem seen_replace (h : ((before ++ a :: after).map key).Nodup) (hkey : key b = key a) (k : κ) :
    seen key p view (before ++ b :: after) k =
      if k = key a then ((some b).filter p).map view else seen key p view (before ++ a :: after) k := by
  unfold seen
  rw [atKey_replace h hkey]
  split <;> rfl

theorem seen_remove (h : ((before ++ a :: after).map key).Nodup) (k : κ) :
    seen key p view (before ++ after) k =
      if k = key a then none else seen key p view (before ++ a :: after) k := by
  unfold seen
  rw [atKey_remove h]
  split <;> rfl

/-- A change of a record that the view does not show. -/
theorem seen_same (h : ((before ++ a :: after).map key).Nodup) (hkey : key b = key a)
    (hp : p b = p a) (hview : view b = view a) (k : κ) :
    seen key p view (before ++ b :: after) k = seen key p view (before ++ a :: after) k := by
  rw [seen_replace h hkey]
  split
  · next hk =>
    rw [hk]
    unfold seen
    rw [atKey_split h, if_pos rfl]
    simp only [Option.filter_some, hp]
    split
    · rw [Option.map_some, Option.map_some, hview]
    · rfl
  · rfl

theorem seen_append (h : ∀ c ∈ l, key c ≠ key b) (hp : p b = true) (k : κ) :
    seen key p view (l ++ [b]) k = if k = key b then some (view b) else seen key p view l k := by
  unfold seen
  rw [atKey_append, atKey_cons]
  split
  · next hk =>
    rw [hk, atKey_eq_none h, Option.none_or, Option.filter_some_pos hp]
    rfl
  · have hnone : atKey key k ([] : List α) = none := rfl
    rw [hnone, Option.or_none]

/-- Those that are not seen can be erased. -/
theorem seen_filter (h : (l.map key).Nodup) (k : κ) :
    seen key p view (l.filter p) k = seen key p view l k := by
  induction l with
  | nil => rfl
  | cons c l ih =>
    obtain ⟨hc, hl⟩ := List.nodup_cons.1 h
    have hne (d : α) (hd : d ∈ l) : key d ≠ key c := by
      intro heq
      exact hc (heq ▸ List.mem_map_of_mem hd)
    cases hp : p c with
    | true =>
      rw [List.filter_cons_of_pos hp]
      unfold seen at ih ⊢
      rw [atKey_cons, atKey_cons]
      split
      · rfl
      · exact ih hl
    | false =>
      rw [List.filter_cons_of_neg (by simp [hp]), ih hl]
      unfold seen
      rw [atKey_cons]
      split
      · next hk =>
        rw [hk, atKey_eq_none hne, Option.filter_some_neg (by simp [hp])]
        rfl
      · rfl

end Seen

end Snf.Lib
