import Mathlib

/-! # Tables of stamped slots

A table of slots that are reserved, committed and emptied again. Every use of a slot has a stamp,
which is taken from a counter that only grows, so that a stamp tells the uses of a slot apart: a
use that has ended never comes back.
-/

namespace Snf.Lib

universe u

structure Slot (α : Type u) where
  value : Option α := none
  reserved : Bool := false
  committed : Bool := false
deriving DecidableEq, Repr

namespace Slot

variable {α : Type u}

/-- A slot that is reserved for a value. -/
def pending (v : α) : Slot α := { value := some v, reserved := true }

/-- A slot whose value is committed. -/
def active (v : α) : Slot α := { value := some v, committed := true }

/-- The states of a slot. -/
def Formed (s : Slot α) : Prop := s = {} ∨ (∃ v, s = pending v) ∨ ∃ v, s = active v

end Slot

/-- `last` is the last stamp that was handed out. `retired` lists the uses that have ended; no
function reads it. -/
structure Slots (α : Type u) where
  slots : List (Slot α)
  reservedCount : Nat := 0
  activeCount : Nat := 0
  last : Nat := 0
  retired : List α := []
deriving DecidableEq, Repr

namespace Slots

variable {α : Type u} {t t' : Slots α} {i j : Nat} {s : Slot α} {v w : α}

def hasCapacity (t : Slots α) : Bool := t.reservedCount + t.activeCount < t.slots.length

def isFree (s : Slot α) : Bool := !(s.reserved || s.committed)

/-- A free slot is reserved for a value, which has the next stamp. -/
def reserve (t : Slots α) (i : Nat) (v : α) : Slots α :=
  { t with
    slots := t.slots.set i (.pending v)
    reservedCount := t.reservedCount + 1
    last := t.last + 1 }

def commit (t : Slots α) (i : Nat) : Slots α :=
  { t with
    slots := t.slots.modify i fun s => { s with reserved := false, committed := true }
    reservedCount := t.reservedCount - 1
    activeCount := t.activeCount + 1 }

/-- The end of a reservation that is not committed. -/
def rollback (t : Slots α) (i : Nat) : Slots α :=
  match t.slots[i]? with
  | none => t
  | some s =>
    if !s.reserved || s.committed then t
    else
      { t with
        slots := t.slots.set i {}
        reservedCount := t.reservedCount - 1
        retired := s.value.toList ++ t.retired }

/-- The end of a committed use. -/
def release (t : Slots α) (i : Nat) : Slots α :=
  { t with
    slots := t.slots.set i {}
    activeCount := t.activeCount - 1
    retired := ((t.slots[i]?).bind (·.value)).toList ++ t.retired }

/-- What a slot is used for, reserved or committed. -/
def valueAt (t : Slots α) (i : Nat) : Option α := (t.slots[i]?).bind (·.value)

/-- The committed value of a slot. -/
def activeAt (t : Slots α) (i : Nat) : Option α :=
  (t.slots[i]?).bind fun s => if s.committed then s.value else none

/-- The slots are well formed and counted, and no two uses, also of those that have ended, have
the same stamp. -/
structure Sound (stamp : α → Nat) (t : Slots α) : Prop where
  formed : ∀ (i : Nat) (s : Slot α), t.slots[i]? = some s → s.Formed
  reservedCount : t.reservedCount = t.slots.countP (·.reserved)
  activeCount : t.activeCount = t.slots.countP (·.committed)
  stamped : ∀ i v, t.valueAt i = some v → 0 < stamp v ∧ stamp v ≤ t.last
  distinct : ∀ i j v w, t.valueAt i = some v → t.valueAt j = some w → stamp v = stamp w → i = j
  retired : ∀ v ∈ t.retired, stamp v ≤ t.last ∧ ∀ i w, t.valueAt i = some w → stamp w ≠ stamp v

/-- The uses of the slots, and those that have ended, have a property. -/
structure Every (P : Nat → α → Prop) (t : Slots α) : Prop where
  valueAt : ∀ i v, t.valueAt i = some v → P i v
  retired : ∀ v ∈ t.retired, ∃ i, P i v

theorem countP_formed {l : List (Slot α)} (h : ∀ s ∈ l, s.Formed) :
    l.countP isFree + l.countP (·.reserved) + l.countP (·.committed) = l.length := by
  induction l with
  | nil => rfl
  | cons s l ih =>
    obtain ⟨hs, hl⟩ := List.forall_mem_cons.1 h
    have ih := ih hl
    simp only [List.countP_cons, List.length_cons]
    rcases hs with rfl | ⟨v, rfl⟩ | ⟨v, rfl⟩ <;>
      simp [isFree, Slot.pending, Slot.active] <;> omega

/-- Every slot is free, reserved or committed, and counted as such. -/
theorem Sound.count_slots {stamp : α → Nat} (h : Sound stamp t) :
    t.slots.countP isFree + t.reservedCount + t.activeCount = t.slots.length := by
  rw [h.reservedCount, h.activeCount]
  refine countP_formed fun s hs => ?_
  obtain ⟨i, hi⟩ := List.getElem?_of_mem hs
  exact h.formed i s hi

theorem Sound.eq_empty {stamp : α → Nat} (h : Sound stamp t) (hi : t.slots[i]? = some s)
    (hfree : isFree s = true) : s = {} := by
  rcases h.formed i s hi with rfl | ⟨v, rfl⟩ | ⟨v, rfl⟩
  · rfl
  · cases hfree
  · cases hfree

theorem Sound.firstFree {stamp : α → Nat} (h : Sound stamp t)
    (hi : t.slots.findIdx? isFree = some i) : t.slots[i]? = some {} := by
  obtain ⟨hlt, hfree, -⟩ := List.findIdx?_eq_some_iff_getElem.1 hi
  have hslot := List.getElem?_eq_getElem hlt
  rw [hslot, h.eq_empty hslot hfree]

theorem Sound.activeAt {stamp : α → Nat} (h : Sound stamp t) (hv : t.activeAt i = some v) :
    t.slots[i]? = some (.active v) := by
  obtain ⟨s, hs, hvalue⟩ := Option.bind_eq_some_iff.1 hv
  rw [hs]
  rcases h.formed i s hs with rfl | ⟨w, rfl⟩ | ⟨w, rfl⟩
  · cases hvalue
  · cases hvalue
  · cases hvalue
    rfl

theorem valueAt_active (hi : t.slots[i]? = some (.active v)) : t.valueAt i = some v := by
  rw [Slots.valueAt, hi]
  rfl

/-- A use that has ended does not share its stamp with a committed one. -/
theorem Sound.active_ne {stamp : α → Nat} (h : Sound stamp t) (hv : v ∈ t.retired)
    (hw : t.slots[i]? = some (.active w)) : stamp w ≠ stamp v :=
  (h.retired v hv).2 i w (valueAt_active hw)

/-! ## One slot changes -/

theorem countP_set_add {β : Type u} {l : List β} {a : β} (h : l[i]? = some a) (b : β)
    (p : β → Bool) : (l.set i b).countP p + (p a).toNat = l.countP p + (p b).toNat := by
  induction l generalizing i with
  | nil => cases h
  | cons c l ih =>
    cases i with
    | zero =>
      cases h
      simp only [List.set_cons_zero, List.countP_cons]
      cases p a <;> cases p b <;> rfl
    | succ i =>
      simp only [List.set_cons_succ, List.countP_cons]
      have hl := ih h
      omega

/-- The slot `i` changes from `old` to `new`: everything that follows for the table. -/
structure Changed (stamp : α → Nat) (i : Nat) (old new : Slot α) (t t' : Slots α) : Prop where
  before : t.slots[i]? = some old
  slots : t'.slots = t.slots.set i new
  formed : new.Formed
  reservedCount : t'.reservedCount + old.reserved.toNat = t.reservedCount + new.reserved.toNat
  activeCount : t'.activeCount + old.committed.toNat = t.activeCount + new.committed.toNat
  last : t.last ≤ t'.last
  value : ∀ v, new.value = some v → old.value = some v ∨ t.last < stamp v ∧ stamp v ≤ t'.last
  retired : ∀ v ∈ t'.retired, v ∈ t.retired ∨ old.value = some v ∧ new.value = none

variable {stamp : α → Nat} {old new : Slot α}

theorem Changed.getElem? (h : Changed stamp i old new t t') (j : Nat) :
    t'.slots[j]? = if j = i then some new else t.slots[j]? := by
  rw [h.slots, List.getElem?_set]
  by_cases hj : i = j
  · subst hj
    rw [if_pos rfl, if_pos rfl, if_pos (List.getElem?_eq_some_iff.1 h.before).1]
  · rw [if_neg hj, if_neg (Ne.symm hj)]

theorem Changed.valueAt (h : Changed stamp i old new t t') (j : Nat) :
    t'.valueAt j = if j = i then new.value else t.valueAt j := by
  unfold Slots.valueAt
  rw [h.getElem?]
  split <;> rfl

theorem Changed.oldValue (h : Changed stamp i old new t t') : t.valueAt i = old.value := by
  rw [Slots.valueAt, h.before, Option.bind_some]

/-- A value after the change was there before, or has a new stamp. -/
theorem Changed.origin (h : Changed stamp i old new t t') (hv : t'.valueAt j = some v) :
    t.valueAt j = some v ∨ j = i ∧ t.last < stamp v ∧ stamp v ≤ t'.last := by
  rw [h.valueAt] at hv
  split at hv
  · next hj =>
    rcases h.value v hv with hold | hnew
    · rw [hj, h.oldValue]
      exact .inl hold
    · exact .inr ⟨hj, hnew⟩
  · exact .inl hv

theorem Sound.changed (hs : Sound stamp t) (h : Changed stamp i old new t t') :
    Sound stamp t' where
  formed j s hj := by
    rw [h.getElem?] at hj
    split at hj
    · cases hj
      exact h.formed
    · exact hs.formed j s hj
  reservedCount := by
    have hcount := countP_set_add h.before new (·.reserved)
    have hnow := h.reservedCount
    have hbefore := hs.reservedCount
    rw [h.slots]
    omega
  activeCount := by
    have hcount := countP_set_add h.before new (·.committed)
    have hnow := h.activeCount
    have hbefore := hs.activeCount
    rw [h.slots]
    omega
  stamped j v hv := by
    rcases h.origin hv with hold | ⟨-, hlow, hhigh⟩
    · exact ⟨(hs.stamped j v hold).1, Nat.le_trans (hs.stamped j v hold).2 h.last⟩
    · exact ⟨Nat.zero_lt_of_lt hlow, hhigh⟩
  distinct j k v w hv hw heq := by
    rcases h.origin hv with hv' | ⟨rfl, hv', -⟩
    · rcases h.origin hw with hw' | ⟨-, hw', -⟩
      · exact hs.distinct j k v w hv' hw' heq
      · have hle := (hs.stamped j v hv').2
        omega
    · rcases h.origin hw with hw' | ⟨rfl, -, -⟩
      · have hle := (hs.stamped k w hw').2
        omega
      · rfl
  retired v hv := by
    rcases h.retired v hv with hold | ⟨hvalue, hempty⟩
    · obtain ⟨hle, hgone⟩ := hs.retired v hold
      refine ⟨Nat.le_trans hle h.last, fun j w hw => ?_⟩
      rcases h.origin hw with hw' | ⟨-, hlow, -⟩
      · exact hgone j w hw'
      · omega
    · -- the use that ends now was the only one with its stamp
      rw [← h.oldValue] at hvalue
      refine ⟨Nat.le_trans (hs.stamped i v hvalue).2 h.last, fun j w hw heq => ?_⟩
      rcases h.origin hw with hw' | ⟨-, hlow, -⟩
      · cases hs.distinct j i w v hw' hvalue heq
        rw [h.valueAt, if_pos rfl, hempty] at hw
        cases hw
      · have hle := (hs.stamped i v hvalue).2
        omega

theorem Every.changed {P : Nat → α → Prop} (he : Every P t) (h : Changed stamp i old new t t')
    (hnew : ∀ v, new.value = some v → old.value = some v ∨ P i v) : Every P t' where
  valueAt j v hv := by
    rw [h.valueAt] at hv
    split at hv
    · next hj =>
      subst hj
      rcases hnew v hv with hold | hP
      · exact he.valueAt j v (h.oldValue.trans hold)
      · exact hP
    · exact he.valueAt j v hv
  retired v hv := by
    rcases h.retired v hv with hold | ⟨hvalue, -⟩
    · exact he.retired v hold
    · exact ⟨i, he.valueAt i v (h.oldValue.trans hvalue)⟩

theorem Changed.length_slots (h : Changed stamp i old new t t') :
    t'.slots.length = t.slots.length := by
  rw [h.slots, List.length_set]

/-! ## The operations -/

theorem Sound.reservedCount_pos (hs : Sound stamp t) (hi : t.slots[i]? = some (.pending v)) :
    0 < t.reservedCount := by
  rw [hs.reservedCount, List.countP_pos_iff]
  exact ⟨_, List.mem_of_getElem? hi, rfl⟩

theorem reserve_changed (hi : t.slots[i]? = some {}) (hv : stamp v = t.last + 1) :
    Changed stamp i {} (.pending v) t (t.reserve i v) where
  before := hi
  slots := rfl
  formed := .inr (.inl ⟨v, rfl⟩)
  reservedCount := rfl
  activeCount := rfl
  last := Nat.le_succ _
  value w hw := by
    cases hw
    exact .inr ⟨by omega, Nat.le_of_eq hv⟩
  retired _ hw := .inl hw

theorem commit_changed (hs : Sound stamp t) (hi : t.slots[i]? = some (.pending v)) :
    Changed stamp i (.pending v) (.active v) t (t.commit i) where
  before := hi
  slots := by
    rw [commit, List.modify_eq_set_getElem?, hi]
    rfl
  formed := .inr (.inr ⟨v, rfl⟩)
  reservedCount := Nat.sub_add_cancel (hs.reservedCount_pos hi)
  activeCount := rfl
  last := Nat.le_refl _
  value _ hw := .inl hw
  retired _ hw := .inl hw

theorem rollback_changed (hs : Sound stamp t) (hi : t.slots[i]? = some (.pending v)) :
    Changed stamp i (.pending v) {} t (t.rollback i) := by
  have heq : t.rollback i =
      { t with
        slots := t.slots.set i {}
        reservedCount := t.reservedCount - 1
        retired := v :: t.retired } := by
    rw [rollback, hi]
    rfl
  rw [heq]
  exact
    { before := hi
      slots := rfl
      formed := .inl rfl
      reservedCount := Nat.sub_add_cancel (hs.reservedCount_pos hi)
      activeCount := rfl
      last := Nat.le_refl _
      value := fun _ hw => by cases hw
      retired := by
        intro w hw
        rcases List.mem_cons.1 hw with rfl | hw
        · exact .inr ⟨rfl, rfl⟩
        · exact .inl hw }

theorem release_changed (hs : Sound stamp t) (hi : t.slots[i]? = some (.active v)) :
    Changed stamp i (.active v) {} t (t.release i) where
  before := hi
  slots := rfl
  formed := .inl rfl
  reservedCount := rfl
  activeCount := by
    have hpos : 0 < t.slots.countP (·.committed) :=
      List.countP_pos_iff.2 ⟨_, List.mem_of_getElem? hi, rfl⟩
    rw [← hs.activeCount] at hpos
    exact Nat.sub_add_cancel hpos
  last := Nat.le_refl _
  value _ hw := by cases hw
  retired := by
    intro w hw
    rw [release, hi] at hw
    rcases List.mem_cons.1 hw with rfl | hw
    · exact .inr ⟨rfl, rfl⟩
    · exact .inl hw

end Slots

end Snf.Lib
