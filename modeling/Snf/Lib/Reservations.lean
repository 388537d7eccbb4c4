import Snf.Lib.Machine
import Snf.Lib.Map
import Snf.Lib.Slots

/-! # Objects that hold reservations

A reservation of a table is an object that its owner may commit, give back, move into another
object or let go of. An object from which was moved, or that has given its reservation back, is
detached from the table, and a committed one does nothing more. So at most one object at a time
can still commit a reserved slot.

The second part is about tables that are nothing but slots, with any functions that reserve a free
slot and release a committed one.
-/

namespace Snf.Lib

universe u v

/-- `attached` says that the pointer to the table is set. -/
structure Reservation (η : Type u) where
  attached : Bool := true
  index : Nat
  handle : η
  committed : Bool := false
deriving DecidableEq, Repr

namespace Reservation

variable {η : Type u}

/-- The object can still commit its slot or give it back. -/
def isOpen (r : Reservation η) : Bool := r.attached && !r.committed

/-- What is left of an object after it is moved from. -/
def movedFrom (r : Reservation η) : Reservation η :=
  { r with attached := false, committed := false }

end Reservation

/-- What a table does to the slot of a reservation. -/
structure ReservationOps (τ : Type v) where
  commit : τ → Nat → τ
  rollback : τ → Nat → τ

/-- A table and the reservation objects that exist, by their names. -/
structure Holding (τ : Type v) (η : Type u) where
  table : τ
  objects : AList (fun _ : Nat => Reservation η) := ∅

inductive HolderAction where
  | commit (object : Nat)
  | rollback (object : Nat)
  | moveConstruct (target source : Nat)
  | moveAssign (target source : Nat)
  | destroy (object : Nat)
deriving DecidableEq, Repr

namespace Holding

variable {τ : Type v} {η : Type u} {ops : ReservationOps τ} {h h' : Holding τ η}

def put (h : Holding τ η) (object : Nat) (r : Reservation η) : Holding τ η :=
  { h with objects := h.objects.insert object r }

def commit (ops : ReservationOps τ) (h : Holding τ η) (object : Nat) (r : Reservation η) :
    Holding τ η :=
  if r.isOpen then
    { h with table := ops.commit h.table r.index }.put object { r with committed := true }
  else h

def rollback (ops : ReservationOps τ) (h : Holding τ η) (object : Nat) (r : Reservation η) :
    Holding τ η :=
  if r.isOpen then
    { h with table := ops.rollback h.table r.index }.put object { r with attached := false }
  else h

/-- An action on objects that exist. A new object has a name of its own. -/
def act (ops : ReservationOps τ) (h : Holding τ η) : HolderAction → Option (Holding τ η)
  | .commit object => (h.objects.lookup object).map (h.commit ops object)
  | .rollback object => (h.objects.lookup object).map (h.rollback ops object)
  | .moveConstruct target source =>
    if (h.objects.lookup target).isSome then none
    else (h.objects.lookup source).map fun r => (h.put source r.movedFrom).put target r
  | .moveAssign target source =>
    (h.objects.lookup target).bind fun old => (h.objects.lookup source).map fun r =>
      if target = source then h
      else ((h.rollback ops target old).put source r.movedFrom).put target r
  | .destroy object => (h.objects.lookup object).map fun r =>
      let h := h.rollback ops object r
      { h with objects := h.objects.erase object }

/-- Every open object holds a slot, and no two of them the same. -/
structure Sound (held : τ → Nat → Prop) (h : Holding τ η) : Prop where
  held : ∀ o r, h.objects.lookup o = some r → r.isOpen = true → held h.table r.index
  distinct : ∀ o o' r r', h.objects.lookup o = some r → h.objects.lookup o' = some r' →
    r.isOpen = true → r'.isOpen = true → r.index = r'.index → o = o'

/-- What a table has to guarantee: it keeps an invariant when a held slot is committed or given
back, and the other slots stay held. -/
structure Rule (ops : ReservationOps τ) (inv : τ → Prop) (held : τ → Nat → Prop) : Prop where
  commit : ∀ t i, inv t → held t i →
    inv (ops.commit t i) ∧ ∀ j, j ≠ i → held t j → held (ops.commit t i) j
  rollback : ∀ t i, inv t → held t i →
    inv (ops.rollback t i) ∧ ∀ j, j ≠ i → held t j → held (ops.rollback t i) j

variable {held : τ → Nat → Prop} {inv : τ → Prop} {object : Nat} {r : Reservation η}

theorem Sound.table (hs : Sound held h) {t : τ} (ht : ∀ j, held h.table j → held t j) :
    Sound held { h with table := t } where
  held o r ho hopen := ht _ (hs.held o r ho hopen)
  distinct := hs.distinct

/-- A new object for a slot that no other one holds. -/
theorem Sound.add (hs : Sound held h) {t : τ} {i : Nat} {handle : η}
    (ht : ∀ j, held h.table j → held t j) (hfree : ¬ held h.table i) (hi : held t i) :
    Sound held ({ h with table := t }.put object { index := i, handle := handle }) := by
  have hother : ∀ o r, h.objects.lookup o = some r → r.isOpen = true → r.index ≠ i := by
    intro o r ho hopen heq
    exact hfree (heq ▸ hs.held o r ho hopen)
  refine ⟨?_, ?_⟩
  · intro o r ho hopen
    rw [put, lookup_insert_ite] at ho
    split at ho
    · cases ho
      exact hi
    · exact ht _ (hs.held o r ho hopen)
  · intro o o' r r' ho ho' hopen hopen' heq
    simp only [put, lookup_insert_ite] at ho ho'
    split at ho
    · split at ho'
      · next h1 h2 => rw [h1, h2]
      · cases ho
        exact absurd heq.symm (hother o' r' ho' hopen')
    · split at ho'
      · cases ho'
        exact absurd heq (hother o r ho hopen)
      · exact hs.distinct o o' r r' ho ho' hopen hopen' heq

/-- An object is replaced by one that is closed, and the others keep their slots. -/
theorem Sound.close (hs : Sound held h) {t : τ} {closed : Reservation η}
    (hclosed : closed.isOpen = false)
    (ht : ∀ o r, o ≠ object → h.objects.lookup o = some r → r.isOpen = true → held t r.index) :
    Sound held ({ h with table := t }.put object closed) := by
  have hold : ∀ o r, ({ h with table := t }.put object closed).objects.lookup o = some r →
      r.isOpen = true → o ≠ object ∧ h.objects.lookup o = some r := by
    intro o r ho hopen
    rw [put, lookup_insert_ite] at ho
    split at ho
    · cases ho
      rw [hclosed] at hopen
      cases hopen
    · next hne => exact ⟨hne, ho⟩
  refine ⟨fun o r ho hopen => ?_, fun o o' r r' ho ho' hopen hopen' heq => ?_⟩
  · obtain ⟨hne, ho⟩ := hold o r ho hopen
    exact ht o r hne ho hopen
  · exact hs.distinct o o' r r' (hold o r ho hopen).2 (hold o' r' ho' hopen').2 hopen hopen' heq

theorem Sound.move (hs : Sound held h) {target source : Nat} (hne : target ≠ source)
    (hr : h.objects.lookup source = some r) :
    Sound held ((h.put source r.movedFrom).put target r) := by
  -- where an open object of the new holding was before
  have hold : ∀ o q, ((h.put source r.movedFrom).put target r).objects.lookup o = some q →
      q.isOpen = true → h.objects.lookup (if o = target then source else o) = some q ∧
        o ≠ source := by
    intro o q ho hopen
    simp only [put, lookup_insert_ite] at ho
    by_cases h1 : o = target
    · rw [if_pos h1] at ho ⊢
      cases ho
      exact ⟨hr, h1 ▸ hne⟩
    rw [if_neg h1] at ho ⊢
    by_cases h2 : o = source
    · rw [if_pos h2] at ho
      cases ho
      cases hopen
    · rw [if_neg h2] at ho
      exact ⟨ho, h2⟩
  refine ⟨fun o q ho hopen => hs.held _ q (hold o q ho hopen).1 hopen, ?_⟩
  intro o o' q q' ho ho' hopen hopen' heq
  obtain ⟨hq, hsource⟩ := hold o q ho hopen
  obtain ⟨hq', hsource'⟩ := hold o' q' ho' hopen'
  have hsame := hs.distinct _ _ q q' hq hq' hopen hopen' heq
  split at hsame <;> split at hsame
  · next h1 h2 => rw [h1, h2]
  · exact absurd hsame.symm hsource'
  · exact absurd hsame hsource
  · exact hsame

theorem Sound.rollback (hrule : Rule ops inv held) (hs : Sound held h) (hinv : inv h.table)
    (hr : h.objects.lookup object = some r) :
    inv (h.rollback ops object r).table ∧ Sound held (h.rollback ops object r) ∧
      ∀ o, o ≠ object → (h.rollback ops object r).objects.lookup o = h.objects.lookup o := by
  unfold Holding.rollback
  split
  · next hopen =>
    obtain ⟨hinv', hothers⟩ := hrule.rollback _ _ hinv (hs.held object r hr hopen)
    refine ⟨hinv', hs.close rfl fun o q hne ho hq => ?_, fun o hne => ?_⟩
    · refine hothers _ (fun heq => ?_) (hs.held o q ho hq)
      exact hne (hs.distinct o object q r ho hr hq hopen heq)
    · rw [put, lookup_insert_ite, if_neg hne]
  · exact ⟨hinv, hs, fun _ _ => rfl⟩

/-- **Every action keeps the invariants.** -/
theorem Sound.act (hrule : Rule ops inv held) (hs : Sound held h) (hinv : inv h.table)
    {action : HolderAction} (hact : h.act ops action = some h') :
    inv h'.table ∧ Sound held h' := by
  cases action with
  | commit object =>
    obtain ⟨r, hr, rfl⟩ := Option.map_eq_some_iff.1 hact
    unfold Holding.commit
    split
    · next hopen =>
      obtain ⟨hinv', hothers⟩ := hrule.commit _ _ hinv (hs.held object r hr hopen)
      refine ⟨hinv', hs.close ?_ fun o q hne ho hq => ?_⟩
      · exact Bool.and_eq_false_iff.2 (.inr rfl)
      · refine hothers _ (fun heq => ?_) (hs.held o q ho hq)
        exact hne (hs.distinct o object q r ho hr hq hopen heq)
    · exact ⟨hinv, hs⟩
  | rollback object =>
    obtain ⟨r, hr, rfl⟩ := Option.map_eq_some_iff.1 hact
    obtain ⟨hinv', hs', -⟩ := hs.rollback hrule hinv hr
    exact ⟨hinv', hs'⟩
  | moveConstruct target source =>
    simp only [Holding.act] at hact
    split at hact
    · cases hact
    · next hfresh =>
      obtain ⟨r, hr, rfl⟩ := Option.map_eq_some_iff.1 hact
      have hnone : h.objects.lookup target = none := Option.not_isSome_iff_eq_none.1 hfresh
      have hne : target ≠ source := by
        rintro rfl
        rw [hnone] at hr
        cases hr
      exact ⟨hinv, hs.move hne hr⟩
  | moveAssign target source =>
    obtain ⟨old, hold, hmap⟩ := Option.bind_eq_some_iff.1 hact
    obtain ⟨r, hr, rfl⟩ := Option.map_eq_some_iff.1 hmap
    split
    · exact ⟨hinv, hs⟩
    · next hne =>
      obtain ⟨hinv', hs', hlookup⟩ := hs.rollback hrule hinv hold
      refine ⟨hinv', hs'.move hne ?_⟩
      rw [hlookup source (Ne.symm hne), hr]
  | destroy object =>
    obtain ⟨r, hr, rfl⟩ := Option.map_eq_some_iff.1 hact
    obtain ⟨hinv', hs', -⟩ := hs.rollback hrule hinv hr
    refine ⟨hinv', fun o q ho hopen => ?_, fun o o' q q' ho ho' => ?_⟩
    · rw [lookup_erase_ite] at ho
      split at ho
      · cases ho
      · exact hs'.held o q ho hopen
    · rw [lookup_erase_ite] at ho ho'
      split at ho
      · cases ho
      split at ho'
      · cases ho'
      exact hs'.distinct o o' q q' ho ho'

end Holding

/-! ## Tables of slots -/

/-- The functions of a table: the table, the index and the handle of a new reservation, and the
table after a release. A function that throws changes nothing. -/
structure SlotCalls (α ρ η : Type u) where
  tryReserve : Slots α → ρ → Except String (Option (Slots α × Nat × η))
  release : Slots α → η → Slots α

inductive SlotAction (ρ η : Type u) where
  | tryReserve (object : Nat) (request : ρ)
  | holder (action : HolderAction)
  | release (handle : η)
deriving DecidableEq, Repr

namespace SlotCalls

variable {α ρ η : Type u} {stamp : α → Nat} {P : Nat → α → Prop} {capacity : Nat}

def ops : ReservationOps (Slots α) where
  commit := Slots.commit
  rollback := Slots.rollback

/-- A table and the objects of its users, of which there are none at first. -/
def machine (calls : SlotCalls α ρ η) (table : Slots α) :
    Machine (Holding (Slots α) η) (SlotAction ρ η) where
  init s := s.table = table ∧ s.objects = ∅
  step s
    | .tryReserve object request =>
      if (s.objects.lookup object).isSome then none
      else
        match calls.tryReserve s.table request with
        | .ok (some (table, index, handle)) =>
          some ({ s with table := table }.put object { index := index, handle := handle })
        | _ => some s
    | .holder action => s.act ops action
    | .release handle => some { s with table := calls.release s.table handle }

def Held (t : Slots α) (i : Nat) : Prop := ∃ v, t.slots[i]? = some (.pending v)

/-- A sound table of `capacity` slots whose uses have the property `P`. -/
structure Kept (stamp : α → Nat) (P : Nat → α → Prop) (capacity : Nat) (t : Slots α) : Prop where
  sound : t.Sound stamp
  every : t.Every P
  length : t.slots.length = capacity

/-- What is asked of the functions: a reservation is of a free slot and has the next stamp, and a
release is of a committed slot. -/
structure Lawful (calls : SlotCalls α ρ η) (stamp : α → Nat) (P : Nat → α → Prop)
    (capacity : Nat) : Prop where
  tryReserve : ∀ t request table i handle, Kept stamp P capacity t →
    calls.tryReserve t request = .ok (some (table, i, handle)) →
    ∃ v, t.slots[i]? = some {} ∧ stamp v = t.last + 1 ∧ P i v ∧ table = t.reserve i v
  release : ∀ t handle, Kept stamp P capacity t → calls.release t handle = t ∨
    ∃ i v, t.slots[i]? = some (.active v) ∧ calls.release t handle = t.release i

theorem kept_init : Kept stamp P capacity { slots := List.replicate capacity {} } := by
  have hslot (i : Nat) (s : Slot α) (hs : (List.replicate capacity {})[i]? = some s) : s = {} :=
    List.eq_of_mem_replicate (List.mem_of_getElem? hs)
  have hvalue (i : Nat) :
      Slots.valueAt { slots := List.replicate capacity ({} : Slot α) } i = none := by
    rw [Slots.valueAt, Option.bind_eq_none_iff]
    intro s hs
    rw [hslot i s hs]
  refine ⟨⟨fun i s hs => .inl (hslot i s hs), ?_, ?_, ?_, ?_, ?_⟩, ⟨?_, ?_⟩, List.length_replicate⟩
  · simp [List.countP_replicate]
  · simp [List.countP_replicate]
  · intro i v hv
    rw [hvalue] at hv
    cases hv
  · intro i j v w hv
    rw [hvalue] at hv
    cases hv
  · intro v hv
    cases hv
  · intro i v hv
    rw [hvalue] at hv
    cases hv
  · intro v hv
    cases hv

theorem Kept.changed {t t' : Slots α} {i : Nat} {old new : Slot α} (h : Kept stamp P capacity t)
    (hchanged : Slots.Changed stamp i old new t t')
    (hnew : ∀ v, new.value = some v → old.value = some v ∨ P i v) :
    Kept stamp P capacity t' where
  sound := h.sound.changed hchanged
  every := h.every.changed hchanged hnew
  length := hchanged.length_slots.trans h.length

theorem held_changed {t t' : Slots α} {i : Nat} {old new : Slot α}
    (hchanged : Slots.Changed stamp i old new t t') (j : Nat) (hj : j ≠ i) (h : Held t j) :
    Held t' j := by
  obtain ⟨v, hv⟩ := h
  exact ⟨v, (hchanged.getElem? j).trans ((if_neg hj).trans hv)⟩

theorem rule : Holding.Rule (ops (α := α)) (Kept stamp P capacity) Held where
  commit t i h hheld := by
    obtain ⟨v, hv⟩ := hheld
    have hchanged := Slots.commit_changed h.sound hv
    exact ⟨h.changed hchanged fun _ => .inl, held_changed hchanged⟩
  rollback t i h hheld := by
    obtain ⟨v, hv⟩ := hheld
    have hchanged := Slots.rollback_changed h.sound hv
    exact ⟨h.changed hchanged fun _ hw => (by cases hw), held_changed hchanged⟩

variable {calls : SlotCalls α ρ η} {table : Slots α} {s s' : Holding (Slots α) η}

theorem Lawful.step (hlaw : calls.Lawful stamp P capacity)
    (h : Kept stamp P capacity s.table ∧ s.Sound Held) {action : SlotAction ρ η}
    (hstep : (calls.machine table).step s action = some s') :
    Kept stamp P capacity s'.table ∧ s'.Sound Held := by
  obtain ⟨hkept, hs⟩ := h
  cases action with
  | tryReserve object request =>
    simp only [machine] at hstep
    split at hstep
    · cases hstep
    split at hstep
    · next index handle hok =>
      cases hstep
      obtain ⟨v, hfree, hstamp, hP, rfl⟩ := hlaw.tryReserve s.table request _ index handle
        hkept hok
      have hchanged := Slots.reserve_changed hfree hstamp
      have hother (j : Nat) (hj : Held s.table j) : j ≠ index := by
        obtain ⟨w, hw⟩ := hj
        intro heq
        rw [heq, hfree] at hw
        cases hw
      refine ⟨hkept.changed hchanged fun w hw => ?_, hs.add ?_ (fun hheld => hother _ hheld rfl) ?_⟩
      · cases hw
        exact .inr hP
      · exact fun j hj => held_changed hchanged j (hother j hj) hj
      · exact ⟨v, (hchanged.getElem? index).trans (if_pos rfl)⟩
    · cases hstep
      exact ⟨hkept, hs⟩
  | holder action => exact hs.act rule hkept hstep
  | release handle =>
    cases hstep
    rcases hlaw.release s.table handle hkept with heq | ⟨i, v, hactive, heq⟩
    · rw [heq]
      exact ⟨hkept, hs⟩
    · rw [heq]
      have hchanged := Slots.release_changed hkept.sound hactive
      refine ⟨hkept.changed hchanged fun _ hw => (by cases hw), hs.table fun j hj => ?_⟩
      refine held_changed hchanged j (fun heq => ?_) hj
      obtain ⟨w, hw⟩ := hj
      rw [heq, hactive] at hw
      cases hw

/-- **Every run keeps the table**, whatever its users do. -/
theorem Lawful.reach (hlaw : calls.Lawful stamp P capacity) (hinit : Kept stamp P capacity table)
    (h : (calls.machine table).Reach (fun _ _ => True) s) : Kept stamp P capacity s.table := by
  refine (h.invariant (P := fun s : Holding (Slots α) η =>
    Kept stamp P capacity s.table ∧ s.Sound Held) ?_ ?_).1
  · intro s hs
    obtain ⟨htable, hobjects⟩ := hs
    refine ⟨htable ▸ hinit, ?_, ?_⟩
    · intro o r ho
      rw [hobjects] at ho
      cases ho
    · intro o o' r r' ho
      rw [hobjects] at ho
      cases ho
  · intro s action s' _ hs _ hstep
    exact hlaw.step hs hstep

end SlotCalls

end Snf.Lib
