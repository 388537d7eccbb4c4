import Snf.Lib.Reservations
import Snf.Worker.Identity

/-! # The table of actors

`ActorTable` down to its slots: the list of free indices, the index of the keys, the counters and
the reservation objects. The state, the mailbox and the instance of an actor are not read by the
table and are left out.

The free indices are a stack whose top is the head of the list.
-/

namespace Snf.Worker.Tables

open Snf.Lib

structure ActorHandle where
  slotIndex : Nat := 0
  incarnation : ActorIncarnation := 0
deriving DecidableEq, Repr

def ActorHandle.isValid (handle : ActorHandle) : Bool := handle.incarnation ≠ 0

structure ActorSlot where
  key : ActorKey
  incarnation : ActorIncarnation
  slotIndex : Nat
deriving DecidableEq, Repr

structure ActorTable extends Slots ActorSlot where
  freeIndices : List Nat
  keyToSlot : AList (fun _ : ActorKey => Nat) := ∅

namespace ActorTable

def create (capacity : Nat) : Except String ActorTable :=
  if capacity = 0 then .error "ActorTable capacity must be > 0"
  else .ok { slots := List.replicate capacity {}, freeIndices := List.range capacity }

/-- The table, the index and the handle of a new reservation. -/
def tryReserve (t : ActorTable) (key : ActorKey) :
    Except String (Option (ActorTable × Nat × ActorHandle)) :=
  match t.freeIndices with
  | [] => .ok none
  | index :: free =>
    if !t.hasCapacity then .ok none
    else if (t.keyToSlot.lookup key).isSome then .ok none
    else if t.last = 2 ^ 64 - 1 then .error "Actor incarnation exhausted"
    else
      let incarnation := t.last + 1
      .ok (some (
        { toSlots := t.reserve index { key := key, incarnation := incarnation, slotIndex := index }
          freeIndices := free
          keyToSlot := t.keyToSlot.insert key index },
        index, { slotIndex := index % 2 ^ 32, incarnation := incarnation }))

def find (t : ActorTable) (key : ActorKey) : Option ActorSlot :=
  (t.keyToSlot.lookup key).bind t.activeAt

def findHandle (t : ActorTable) (handle : ActorHandle) : Option ActorSlot :=
  if !handle.isValid || handle.slotIndex ≥ t.slots.length then none
  else (t.activeAt handle.slotIndex).filter (·.incarnation = handle.incarnation)

/-- The slot, the key and the index are free again. -/
def vacate (t : ActorTable) (slots : Slots ActorSlot) (index : Nat) (key : ActorKey) :
    ActorTable where
  toSlots := slots
  freeIndices := index :: t.freeIndices
  keyToSlot := t.keyToSlot.erase key

def release (t : ActorTable) (handle : ActorHandle) : Bool × ActorTable :=
  match t.findHandle handle with
  | none => (false, t)
  | some actor =>
    (true, t.vacate (t.toSlots.release handle.slotIndex) handle.slotIndex actor.key)

def commit (t : ActorTable) (index : Nat) : ActorTable :=
  { t with toSlots := t.toSlots.commit index }

def rollback (t : ActorTable) (index : Nat) : ActorTable :=
  match t.slots[index]? with
  | some { value := some actor, reserved := true, committed := false } =>
    t.vacate (t.toSlots.rollback index) index actor.key
  | _ => t

def ops : ReservationOps ActorTable where
  commit := commit
  rollback := rollback

/-! ## The invariant of the table -/

structure Inv (t : ActorTable) : Prop where
  sound : t.toSlots.Sound ActorSlot.incarnation
  nodup : t.freeIndices.Nodup
  free : ∀ i, i ∈ t.freeIndices ↔ t.slots[i]? = some {}
  keys : ∀ key i, t.keyToSlot.lookup key = some i ↔ ∃ a, t.valueAt i = some a ∧ a.key = key

/-- The slot is reserved. -/
def Held (t : ActorTable) (i : Nat) : Prop := ∃ a, t.slots[i]? = some (.pending a)

variable {t t' : ActorTable} {i : Nat} {a : ActorSlot}

theorem inv_create {capacity : Nat} (h : create capacity = .ok t) : t.Inv := by
  unfold create at h
  split at h
  · cases h
  cases h
  have hslot (i : Nat) (s : Slot ActorSlot) (hs : (List.replicate capacity {})[i]? = some s) :
      s = {} := List.eq_of_mem_replicate (List.mem_of_getElem? hs)
  have hempty (i : Nat) (v : ActorSlot) :
      ¬ Slots.valueAt { slots := List.replicate capacity {} } i = some v := by
    intro hv
    obtain ⟨s, hs, hvalue⟩ := Option.bind_eq_some_iff.1 hv
    rw [hslot i s hs] at hvalue
    cases hvalue
  refine ⟨⟨fun i s hs => .inl (hslot i s hs), ?_, ?_, fun i v hv => absurd hv (hempty i v),
    fun i j v w hv => absurd hv (hempty i v), List.forall_mem_nil _⟩, List.nodup_range, ?_, ?_⟩
  · exact (List.countP_eq_zero.2 fun s hs => by rw [List.eq_of_mem_replicate hs]; decide).symm
  · exact (List.countP_eq_zero.2 fun s hs => by rw [List.eq_of_mem_replicate hs]; decide).symm
  · intro i
    rw [List.mem_range, List.getElem?_replicate]
    split <;> simp [*]
  · intro key i
    refine iff_of_false nofun ?_
    rintro ⟨v, hv, -⟩
    exact hempty i v hv

/-- A slot is reserved for a key that was not there. -/
theorem Inv.reserve (h : t.Inv) {free : List Nat} {key : ActorKey}
    (hfree : t.freeIndices = i :: free) (hkey : t.keyToSlot.lookup key = none) :
    Inv { toSlots := t.toSlots.reserve i { key := key, incarnation := t.last + 1, slotIndex := i }
          freeIndices := free
          keyToSlot := t.keyToSlot.insert key i } := by
  have hempty : t.slots[i]? = some {} := (h.free i).1 (hfree ▸ List.mem_cons_self)
  have hchanged : Slots.Changed ActorSlot.incarnation i {} (.pending
      { key := key, incarnation := t.last + 1, slotIndex := i }) t.toSlots _ :=
    Slots.reserve_changed hempty rfl
  obtain ⟨hhead, htail⟩ := List.nodup_cons.1 (hfree ▸ h.nodup)
  refine ⟨h.sound.changed hchanged, htail, fun j => ?_, fun key' j => ?_⟩
  · rw [hchanged.getElem?]
    split
    · next hj =>
      rw [hj]
      exact iff_of_false hhead nofun
    · next hj =>
      rw [← h.free, hfree, List.mem_cons]
      exact (or_iff_right hj).symm
  · rw [lookup_insert_ite, hchanged.valueAt]
    by_cases hkey' : key' = key
    · rw [if_pos hkey']
      by_cases hj : j = i
      · rw [if_pos hj, hj]
        exact iff_of_true rfl ⟨_, rfl, hkey'.symm⟩
      · rw [if_neg hj]
        refine iff_of_false (fun heq => hj (Option.some.inj heq).symm) fun hex => ?_
        rw [← h.keys, hkey', hkey] at hex
        cases hex
    · rw [if_neg hkey', h.keys]
      by_cases hj : j = i
      · rw [if_pos hj, hj, hchanged.oldValue]
        refine iff_of_false (fun ⟨_, hnone, _⟩ => nomatch hnone) ?_
        rintro ⟨_, hvalue, hkey''⟩
        cases hvalue
        exact hkey' hkey''.symm
      · rw [if_neg hj]

theorem Inv.commit (h : t.Inv) (hi : t.slots[i]? = some (.pending a)) : (t.commit i).Inv := by
  have hchanged := Slots.commit_changed h.sound hi
  refine ⟨h.sound.changed hchanged, h.nodup, fun j => ?_, fun key j => ?_⟩
  · show j ∈ t.freeIndices ↔ (t.toSlots.commit i).slots[j]? = some {}
    rw [hchanged.getElem?, h.free]
    split
    · next hj =>
      rw [hj, hi]
      exact iff_of_false nofun nofun
    · rfl
  · show t.keyToSlot.lookup key = some j ↔ ∃ a, (t.toSlots.commit i).valueAt j = some a ∧ _
    rw [hchanged.valueAt, h.keys]
    split
    · next hj =>
      rw [hj, hchanged.oldValue]
      rfl
    · rfl

/-- A slot is emptied, and its key and its index are given back. -/
theorem Inv.vacate (h : t.Inv) {slots : Slots ActorSlot} {old : Slot ActorSlot}
    (hchanged : Slots.Changed ActorSlot.incarnation i old {} t.toSlots slots)
    (hvalue : old.value = some a) : (t.vacate slots i a.key).Inv := by
  have hthere : t.valueAt i = some a := hchanged.oldValue.trans hvalue
  have hfull : i ∉ t.freeIndices := by
    rw [h.free, hchanged.before]
    intro heq
    cases heq
    cases hvalue
  refine ⟨h.sound.changed hchanged, List.nodup_cons.2 ⟨hfull, h.nodup⟩, fun j => ?_,
    fun key j => ?_⟩
  · show j ∈ i :: t.freeIndices ↔ slots.slots[j]? = some {}
    rw [hchanged.getElem?, List.mem_cons, h.free]
    split
    · next hj => exact iff_of_true (.inl hj) rfl
    · next hj => exact or_iff_right hj
  · show (t.keyToSlot.erase a.key).lookup key = some j ↔ ∃ b, slots.valueAt j = some b ∧ _
    rw [lookup_erase_ite, hchanged.valueAt]
    by_cases hj : j = i
    · rw [if_pos hj]
      refine iff_of_false ?_ (fun ⟨_, hnone, _⟩ => nomatch hnone)
      split
      · exact nofun
      · next hkey =>
        rw [h.keys, hj, hthere]
        rintro ⟨_, hb, rfl⟩
        cases hb
        exact hkey rfl
    · rw [if_neg hj, ← h.keys]
      split
      · next hkey =>
        refine iff_of_false nofun fun heq => hj ?_
        have hi := (h.keys key i).2 ⟨a, hthere, hkey.symm⟩
        rw [heq] at hi
        exact Option.some.inj hi
      · rfl

theorem rollback_eq (hi : t.slots[i]? = some (.pending a)) :
    t.rollback i = t.vacate (t.toSlots.rollback i) i a.key := by
  rw [rollback, hi]
  rfl

/-- The table keeps its invariant under what its reservations do. -/
theorem rule : Holding.Rule ops Inv Held where
  commit t i h hheld := by
    obtain ⟨a, ha⟩ := hheld
    refine ⟨h.commit ha, fun j hj ⟨b, hb⟩ => ⟨b, ?_⟩⟩
    exact ((Slots.commit_changed h.sound ha).getElem? j).trans ((if_neg hj).trans hb)
  rollback t i h hheld := by
    obtain ⟨a, ha⟩ := hheld
    have hchanged := Slots.rollback_changed h.sound ha
    have heq : ops.rollback t i = _ := rollback_eq ha
    rw [heq]
    refine ⟨h.vacate hchanged rfl, fun j hj ⟨b, hb⟩ => ⟨b, ?_⟩⟩
    exact (hchanged.getElem? j).trans ((if_neg hj).trans hb)

/-! ## What the table offers -/

theorem findHandle_eq_some (h : t.Inv) {handle : ActorHandle}
    (hfind : t.findHandle handle = some a) :
    t.slots[handle.slotIndex]? = some (.active a) ∧ a.incarnation = handle.incarnation := by
  unfold findHandle at hfind
  split at hfind
  · cases hfind
  · obtain ⟨hactive, hincarnation⟩ := Option.filter_eq_some_iff.1 hfind
    exact ⟨h.sound.activeAt hactive, of_decide_eq_true hincarnation⟩

theorem Inv.release (h : t.Inv) (handle : ActorHandle) :
    (t.release handle).2.Inv ∧ ∀ j, t.Held j → (t.release handle).2.Held j := by
  unfold ActorTable.release
  split
  · exact ⟨h, fun _ => id⟩
  · next a hfind =>
    obtain ⟨hactive, -⟩ := findHandle_eq_some h hfind
    have hchanged := Slots.release_changed h.sound hactive
    refine ⟨h.vacate hchanged rfl, fun j ⟨b, hb⟩ => ⟨b, (hchanged.getElem? j).trans ?_⟩⟩
    rw [if_neg ?_, hb]
    rintro rfl
    rw [hactive] at hb
    cases hb

/-- The results of `tryReserve`. -/
theorem tryReserve_cases (t : ActorTable) (key : ActorKey) :
    t.tryReserve key = .ok none ∧
      (t.freeIndices = [] ∨ t.hasCapacity = false ∨ (t.keyToSlot.lookup key).isSome) ∨
    t.tryReserve key = .error "Actor incarnation exhausted" ∧ t.last = 2 ^ 64 - 1 ∨
    ∃ index free, t.freeIndices = index :: free ∧ t.keyToSlot.lookup key = none ∧
      t.tryReserve key = .ok (some (
        { toSlots := t.reserve index
            { key := key, incarnation := t.last + 1, slotIndex := index }
          freeIndices := free
          keyToSlot := t.keyToSlot.insert key index },
        index, { slotIndex := index % 2 ^ 32, incarnation := t.last + 1 })) := by
  unfold tryReserve
  split
  · next hnil => exact .inl ⟨rfl, .inl hnil⟩
  · next index free hfree =>
    split
    · next hfull => exact .inl ⟨rfl, .inr (.inl (by simpa using hfull))⟩
    split
    · next hkey => exact .inl ⟨rfl, .inr (.inr hkey)⟩
    · next hkey =>
      split
      · next hlast => exact .inr (.inl ⟨rfl, hlast⟩)
      · exact .inr (.inr ⟨index, free, hfree, Option.not_isSome_iff_eq_none.1 hkey, rfl⟩)

/-- Without a free index every slot is taken. -/
theorem Inv.full (h : t.Inv) (hfull : t.freeIndices = [] ∨ t.hasCapacity = false) :
    t.reservedCount + t.activeCount = t.slots.length := by
  have hcount := h.sound.count_slots
  rcases hfull with hnil | hcapacity
  · have hnone : t.slots.countP Slots.isFree = 0 := by
      refine List.countP_eq_zero.2 fun s hs hfree => ?_
      obtain ⟨i, hi⟩ := List.getElem?_of_mem hs
      have hmem := (h.free i).2 (hi.trans (congrArg some (h.sound.eq_empty hi hfree)))
      rw [hnil] at hmem
      cases hmem
    omega
  · have hle := of_decide_eq_false hcapacity
    omega

end ActorTable

/-! ## Runs -/

inductive ActorTableAction where
  | tryReserve (object : Nat) (key : ActorKey)
  | holder (action : HolderAction)
  | release (handle : ActorHandle)
deriving DecidableEq, Repr

/-- The table with the reservation objects of its users. A call that throws changes nothing. -/
def actorTableMachine (capacity : Nat) : Machine (Holding ActorTable ActorHandle) ActorTableAction
    where
  init s := ActorTable.create capacity = .ok s.table ∧ s.objects = ∅
  step s
    | .tryReserve object key =>
      if (s.objects.lookup object).isSome then none
      else
        match s.table.tryReserve key with
        | .ok (some (table, index, handle)) =>
          some ({ s with table := table }.put object { index := index, handle := handle })
        | _ => some s
    | .holder action => s.act ActorTable.ops action
    | .release handle => some { s with table := (s.table.release handle).2 }

/-- What holds of a table at any time. -/
structure ActorTable.Consistent (t : ActorTable) : Prop where
  partition : ∀ i < t.slots.length,
    t.freeIndices.count i = 1 ∧ t.slots[i]? = some {} ∨
    i ∉ t.freeIndices ∧ (∃ a, t.slots[i]? = some (.pending a)) ∨
    i ∉ t.freeIndices ∧ ∃ a, t.slots[i]? = some (.active a)
  freeIndices : ∀ i ∈ t.freeIndices, i < t.slots.length
  keys : ∀ key i, t.keyToSlot.lookup key = some i ↔ ∃ a, t.valueAt i = some a ∧ a.key = key
  counts : t.reservedCount = t.slots.countP (·.reserved) ∧
    t.activeCount = t.slots.countP (·.committed)
  find : ∀ key a, t.find key = some a → a.key = key ∧ ∃ i : Nat, t.slots[i]? = some (.active a)
  findHandle : ∀ handle a, t.findHandle handle = some a →
    a.incarnation = handle.incarnation ∧ t.slots[handle.slotIndex]? = some (.active a)
  incarnations : ∀ i j a b, t.valueAt i = some a → t.valueAt j = some b →
    a.incarnation = b.incarnation → i = j
  issued : (∀ i a, t.valueAt i = some a → a.incarnation ≤ t.last) ∧
    ∀ key table index handle, t.tryReserve key = .ok (some (table, index, handle)) →
      handle.incarnation = t.last + 1 ∧ table.last = t.last + 1
  stale : ∀ a ∈ t.retired, a.incarnation ≤ t.last ∧
    ∀ handle : ActorHandle, handle.incarnation = a.incarnation → t.findHandle handle = none
  refused : ∀ key, t.tryReserve key = .ok none →
    t.reservedCount + t.activeCount = t.slots.length ∨ (t.keyToSlot.lookup key).isSome
  thrown : ∀ key text, t.tryReserve key = .error text → t.last = 2 ^ 64 - 1

theorem ActorTable.Inv.consistent {t : ActorTable} (h : t.Inv) : t.Consistent where
  partition i hi := by
    obtain ⟨s, hs⟩ : ∃ s, t.slots[i]? = some s := ⟨_, List.getElem?_eq_getElem hi⟩
    have hfree := h.free i
    rw [hs] at hfree ⊢
    rcases h.sound.formed i s hs with rfl | ⟨a, rfl⟩ | ⟨a, rfl⟩
    · exact .inl ⟨List.count_eq_one_of_mem h.nodup (hfree.2 rfl), rfl⟩
    · exact .inr (.inl ⟨fun hmem => (nomatch hfree.1 hmem), a, rfl⟩)
    · exact .inr (.inr ⟨fun hmem => (nomatch hfree.1 hmem), a, rfl⟩)
  freeIndices i hi := (List.getElem?_eq_some_iff.1 ((h.free i).1 hi)).1
  keys := h.keys
  counts := ⟨h.sound.reservedCount, h.sound.activeCount⟩
  find key a hfind := by
    obtain ⟨i, hi, hactive⟩ := Option.bind_eq_some_iff.1 hfind
    have hslot := h.sound.activeAt hactive
    obtain ⟨b, hb, hkey⟩ := (h.keys key i).1 hi
    rw [Slots.valueAt, hslot] at hb
    cases hb
    exact ⟨hkey, i, hslot⟩
  findHandle handle a hfind := (findHandle_eq_some h hfind).symm
  incarnations := h.sound.distinct
  issued := by
    refine ⟨fun i a ha => (h.sound.stamped i a ha).2, fun key table index handle hok => ?_⟩
    rcases t.tryReserve_cases key with ⟨hnone, -⟩ | ⟨herror, -⟩ | ⟨_, _, -, -, heq⟩
    · rw [hnone] at hok
      cases hok
    · rw [herror] at hok
      cases hok
    · rw [heq] at hok
      cases hok
      exact ⟨rfl, rfl⟩
  stale a ha := by
    refine ⟨(h.sound.retired a ha).1, fun handle hincarnation => ?_⟩
    rw [Option.eq_none_iff_forall_ne_some]
    intro b hfind
    obtain ⟨hslot, hb⟩ := findHandle_eq_some h hfind
    exact h.sound.active_ne ha hslot (hb.trans hincarnation)
  refused key hnone := by
    rcases t.tryReserve_cases key with ⟨-, hnil | hfull | hkey⟩ | ⟨herror, -⟩ | ⟨_, _, -, -, heq⟩
    · exact .inl (h.full (.inl hnil))
    · exact .inl (h.full (.inr hfull))
    · exact .inr hkey
    · rw [herror] at hnone
      cases hnone
    · rw [heq] at hnone
      cases hnone
  thrown key text herror := by
    rcases t.tryReserve_cases key with ⟨hnone, -⟩ | ⟨-, hlast⟩ | ⟨_, _, -, -, heq⟩
    · rw [hnone] at herror
      cases herror
    · exact hlast
    · rw [heq] at herror
      cases herror

variable {capacity : Nat} {s s' : Holding ActorTable ActorHandle}

/-- The table is in order and every open reservation object holds a reserved slot of its own. -/
def Tended (s : Holding ActorTable ActorHandle) : Prop := s.table.Inv ∧ s.Sound ActorTable.Held

theorem Tended.step (h : Tended s) {action : ActorTableAction}
    (hstep : (actorTableMachine capacity).step s action = some s') : Tended s' := by
  obtain ⟨hinv, hs⟩ := h
  cases action with
  | tryReserve object key =>
    simp only [actorTableMachine] at hstep
    split at hstep
    · cases hstep
    rcases s.table.tryReserve_cases key with
      ⟨heq, -⟩ | ⟨heq, -⟩ | ⟨index, free, hfree, hkey, heq⟩
    · rw [heq] at hstep
      cases hstep
      exact ⟨hinv, hs⟩
    · rw [heq] at hstep
      cases hstep
      exact ⟨hinv, hs⟩
    · rw [heq] at hstep
      cases hstep
      have hempty : s.table.slots[index]? = some {} :=
        (hinv.free index).1 (hfree ▸ List.mem_cons_self)
      have hchanged : Slots.Changed ActorSlot.incarnation index {} (.pending
          { key := key, incarnation := s.table.last + 1, slotIndex := index }) s.table.toSlots _ :=
        Slots.reserve_changed hempty rfl
      have hother {j : Nat} (hj : s.table.Held j) : j ≠ index := by
        rintro rfl
        obtain ⟨a, ha⟩ := hj
        rw [hempty] at ha
        cases ha
      refine ⟨hinv.reserve hfree hkey, hs.add ?_ (fun hheld => hother hheld rfl) ?_⟩
      · rintro j ⟨a, ha⟩
        exact ⟨a, (hchanged.getElem? j).trans ((if_neg (hother ⟨a, ha⟩)).trans ha)⟩
      · exact ⟨_, (hchanged.getElem? index).trans (if_pos rfl)⟩
  | holder action => exact hs.act ActorTable.rule hinv hstep
  | release handle =>
    cases hstep
    obtain ⟨hinv', hheld⟩ := hinv.release handle
    exact ⟨hinv', hs.table hheld⟩

/-- **The actor table is consistent at any time**, whatever its users do. -/
theorem actorTable_consistent
    (h : (actorTableMachine capacity).Reach (fun _ _ => True) s) : s.table.Consistent := by
  refine (h.invariant (P := Tended) ?_ ?_).1.consistent
  · rintro s ⟨hcreate, hobjects⟩
    refine ⟨ActorTable.inv_create hcreate, ?_, ?_⟩
    · intro o r ho
      rw [hobjects] at ho
      cases ho
    · intro o o' r r' ho
      rw [hobjects] at ho
      cases ho
  · intro s action s' _ hs _ hstep
    exact hs.step hstep

/-- A slot is reserved, committed, released and reserved again. -/
theorem actorTable_consistent_reused : ∃ s, (actorTableMachine 2).Reach (fun _ _ => True) s ∧
    s.table.Consistent ∧ s.table.retired.length = 1 ∧
    s.table.findHandle { slotIndex := 0, incarnation := 1 } = none := by
  obtain ⟨s, hs, htest⟩ := (actorTableMachine 2).exists_reach_of_replay (fun _ _ => True)
    (s := { table := { slots := [{}, {}], freeIndices := [0, 1] } }) ⟨rfl, rfl⟩
    [.tryReserve 0 ⟨.player, 1⟩, .holder (.moveConstruct 1 0), .holder (.commit 1),
      .release { slotIndex := 0, incarnation := 1 }, .holder (.destroy 0),
      .tryReserve 2 ⟨.player, 1⟩, .holder (.commit 2)]
    (fun s => s.table.retired.length = 1 ∧
      s.table.findHandle { slotIndex := 0, incarnation := 1 } = none) (by decide +kernel)
  exact ⟨s, hs, actorTable_consistent hs, of_decide_eq_true htest⟩

/-! ### The last incarnation -/

/-- A table of one free slot after `n` incarnations. -/
def idleTable (n : Nat) (retired : List ActorSlot) : Holding ActorTable ActorHandle where
  table := { slots := [{}], last := n, retired := retired, freeIndices := [0] }

/-- The table while its slot is reserved. -/
def busyTable (n : Nat) (retired : List ActorSlot) : ActorTable where
  toSlots := (idleTable n retired).table.reserve 0 ⟨⟨.player, 1⟩, n + 1, 0⟩
  freeIndices := []
  keyToSlot := (∅ : AList fun _ : ActorKey => Nat).insert ⟨.player, 1⟩ 0

theorem tryReserve_idleTable (n : Nat) (retired : List ActorSlot) :
    (idleTable n retired).table.tryReserve ⟨.player, 1⟩ =
      if n = 2 ^ 64 - 1 then .error "Actor incarnation exhausted"
      else .ok (some (busyTable n retired, 0, ⟨0, n + 1⟩)) := rfl

/-- The slot is reserved and given back. -/
theorem idleTable_cycle {n : Nat} (hn : n < 2 ^ 64 - 1) (retired : List ActorSlot) :
    ∃ s, (actorTableMachine 1).step (idleTable n retired) (.tryReserve 0 ⟨.player, 1⟩) = some s ∧
      (actorTableMachine 1).step s (.holder (.destroy 0)) =
        some (idleTable (n + 1) (⟨⟨.player, 1⟩, n + 1, 0⟩ :: retired)) := by
  refine ⟨Holding.put { table := busyTable n retired } 0 ⟨true, 0, ⟨0, n + 1⟩, false⟩, ?_, rfl⟩
  simp only [actorTableMachine]
  rw [tryReserve_idleTable, if_neg (Nat.ne_of_lt hn)]
  rfl

theorem reach_idleTable (n : Nat) (hn : n ≤ 2 ^ 64 - 1) :
    ∃ retired, (actorTableMachine 1).Reach (fun _ _ => True) (idleTable n retired) := by
  induction n with
  | zero => exact ⟨[], .init ⟨rfl, rfl⟩⟩
  | succ n ih =>
    obtain ⟨retired, hreach⟩ := ih (Nat.le_of_succ_le hn)
    obtain ⟨s, hreserve, hdestroy⟩ := idleTable_cycle hn retired
    exact ⟨_, .step _ (.step _ hreach trivial hreserve) trivial hdestroy⟩

/-- An empty table refuses a key that it does not have, with an exception, when the incarnations
have run out. -/
theorem actorTable_exhausted : ∃ s, (actorTableMachine 1).Reach (fun _ _ => True) s ∧
    s.table.reservedCount + s.table.activeCount < s.table.slots.length ∧
    s.table.keyToSlot.lookup ⟨.player, 1⟩ = none ∧
    s.table.tryReserve ⟨.player, 1⟩ = .error "Actor incarnation exhausted" := by
  obtain ⟨retired, hreach⟩ := reach_idleTable (2 ^ 64 - 1) (Nat.le_refl _)
  refine ⟨_, hreach, Nat.zero_lt_one, rfl, ?_⟩
  rw [tryReserve_idleTable, if_pos rfl]

end Snf.Worker.Tables
