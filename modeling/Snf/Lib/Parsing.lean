import Mathlib

/-! # Parsers of streams

A parser looks at the input received so far and finds an item at its front, finds an error, or
waits for more. What it found it finds again when more has arrived. So the items of a stream up
to the first error do not depend on the pieces in which the stream arrives.
-/

namespace Snf.Lib

universe u v w

/-- What is at the front of the input. -/
inductive Parse (β : Type v) (ε : Type w) where
  | item (b : β) (used : Nat)
  | more
  | fail (e : ε)

structure Parser (α : Type u) (β : Type v) (ε : Type w) where
  next : List α → Parse β ε
  used_pos : ∀ {l b n}, next l = .item b n → 0 < n ∧ n ≤ l.length
  item_append : ∀ {l b n} (m : List α), next l = .item b n → next (l ++ m) = .item b n
  fail_append : ∀ {l e} (m : List α), next l = .fail e → next (l ++ m) = .fail e

variable {α : Type u} {β : Type v} {ε : Type w} {P : Parser α β ε} {l m rest rest' : List α}
  {bs cs : List β} {e e' : Option ε}

/-- The input is these items, followed by a rest. -/
inductive Splits (P : Parser α β ε) : List α → List β → List α → Prop where
  | nil {l : List α} : Splits P l [] l
  | cons {l rest : List α} {b : β} {bs : List β} {n : Nat} (hb : P.next l = .item b n)
      (hbs : Splits P (l.drop n) bs rest) : Splits P l (b :: bs) rest

namespace Splits

theorem append (h : Splits P l bs rest) (m : List α) : Splits P (l ++ m) bs (rest ++ m) := by
  induction h with
  | nil => exact .nil
  | cons hb _ ih =>
    refine .cons (P.item_append m hb) ?_
    rw [List.drop_append_of_le_length (P.used_pos hb).2]
    exact ih

theorem trans (h : Splits P l bs m) (h' : Splits P m cs rest) : Splits P l (bs ++ cs) rest := by
  induction h with
  | nil => exact h'
  | cons hb _ ih => exact .cons hb (ih h')

theorem single {b : β} {n : Nat} (hb : P.next l = .item b n) : Splits P l [b] (l.drop n) :=
  .cons hb .nil

/-- The items are determined when the rest has no further one. -/
theorem unique (h : Splits P l bs rest) (h' : Splits P l cs rest')
    (hend : ∀ b n, P.next rest ≠ .item b n) (hend' : ∀ b n, P.next rest' ≠ .item b n) :
    bs = cs ∧ rest = rest' := by
  induction h generalizing cs with
  | nil =>
    cases h' with
    | nil => exact ⟨rfl, rfl⟩
    | cons hb _ => exact absurd hb (hend _ _)
  | cons hb _ ih =>
    cases h' with
    | nil => exact absurd hb (hend' _ _)
    | cons hb' hrest' =>
      rw [hb] at hb'
      cases hb'
      obtain ⟨hbs, hrest⟩ := ih hrest' hend
      exact ⟨congrArg _ hbs, hrest⟩

end Splits

/-- The items of the input, and whether an error follows them. -/
structure Stops (P : Parser α β ε) (l : List α) (bs : List β) (e : Option ε) (rest : List α) :
    Prop where
  splits : Splits P l bs rest
  next : P.next rest = match e with
    | none => .more
    | some e => .fail e

namespace Stops

theorem not_item (h : Stops P l bs e rest) (b : β) (n : Nat) : P.next rest ≠ .item b n := by
  rw [h.next]
  cases e with
  | none => exact fun hb => nomatch hb
  | some e => exact fun hb => nomatch hb

theorem unique (h : Stops P l bs e rest) (h' : Stops P l cs e' rest') :
    bs = cs ∧ e = e' ∧ rest = rest' := by
  obtain ⟨hbs, hrest⟩ := h.splits.unique h'.splits h.not_item h'.not_item
  refine ⟨hbs, ?_, hrest⟩
  have hnext := h.next
  rw [hrest, h'.next] at hnext
  cases e with
  | none =>
    cases e' with
    | none => rfl
    | some e' => cases hnext
  | some e =>
    cases e' with
    | none => cases hnext
    | some e' =>
      cases hnext
      rfl

/-- What arrives after an error does not change what came before it. -/
theorem append {e : ε} (h : Stops P l bs (some e) rest) (m : List α) :
    Stops P (l ++ m) bs (some e) (rest ++ m) :=
  ⟨h.splits.append m, P.fail_append m h.next⟩

/-- The items of a piece, after those of the pieces before it. -/
theorem extend (h : Splits P l bs rest) (h' : Stops P (rest ++ m) cs e rest') :
    Stops P (l ++ m) (bs ++ cs) e rest' :=
  ⟨(h.append m).trans h'.splits, h'.next⟩

/-- What is found in front of an input are the first of its items. -/
theorem begins (h : Stops P l bs e rest) (h' : Splits P l cs rest') : cs <+: bs := by
  induction h' generalizing bs with
  | nil => exact List.nil_prefix
  | cons hb _ ih =>
    obtain ⟨hsplits, hnext⟩ := h
    cases hsplits with
    | nil => exact absurd hb ((⟨.nil, hnext⟩ : Stops P _ [] e rest).not_item _ _)
    | cons hb' hrest =>
      rw [hb] at hb'
      cases hb'
      exact List.cons_prefix_cons.2 ⟨rfl, ih ⟨hrest, hnext⟩⟩

/-- A part of an input without an error. -/
theorem of_append (h : Stops P (l ++ m) bs none rest) (h' : Stops P l cs e rest') :
    e = none ∧ cs <+: bs := by
  cases e with
  | none => exact ⟨rfl, h.begins (h'.splits.append m)⟩
  | some e =>
    obtain ⟨-, herror, -⟩ := h.unique (h'.append m)
    cases herror

end Stops

end Snf.Lib
