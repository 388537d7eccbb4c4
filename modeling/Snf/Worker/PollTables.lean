import Snf.Lib.Reservations
import Snf.Worker.Connection

/-! # The tables of connections and poll registrations

`ConnectionTable` and `PollRegistrationTable` down to their slots, and the tokens under which the
registrations are known to epoll. The socket and the buffers of a connection are not read by its
table and are left out. A slot that is not in use has no value, where the source has default
fields.
-/

namespace Snf.Worker.Tables

open Snf.Lib

def maxPollIndex : Nat := 0xFFFFFF

def maxPollGeneration : Nat := 0xFFFFFFFF

/-! ## Connections -/

namespace ConnectionTable

/-- `capacity` apart, a configuration that the constructor accepts (`ConnectionLimits`). -/
def create (capacity : Nat) (_ : ConnectionLimits) : Except String (Slots ConnectionRef) :=
  if capacity = 0 ∨ capacity > maxPollIndex + 1 then .error "Invalid connection table configuration"
  else .ok { slots := List.replicate capacity {} }

/-- The socket and the owner of a new connection. -/
structure Request where
  socketValid : Bool
  owner : WorkerId
deriving DecidableEq, Repr

def tryReserve (t : Slots ConnectionRef) (request : Request) :
    Except String (Option (Slots ConnectionRef × Nat × ConnectionHandle)) :=
  if !request.socketValid then .error "A connection reservation requires a valid socket"
  else if !t.hasCapacity then .ok none
  else
    match t.slots.findIdx? Slots.isFree with
    | none => .ok none
    | some index =>
      if t.last = 2 ^ 64 - 1 then .error "Connection generation exhausted"
      else
        let reference : ConnectionRef :=
          { id := index % 2 ^ 32, generation := t.last + 1, owner := request.owner }
        .ok (some (t.reserve index reference, index,
          { id := reference.id, generation := reference.generation }))

def handle (reference : ConnectionRef) : ConnectionHandle where
  id := reference.id
  generation := reference.generation

def find (t : Slots ConnectionRef) (h : ConnectionHandle) : Option ConnectionRef :=
  if h.generation = 0 ∨ h.id ≥ t.slots.length then none
  else (t.activeAt h.id).filter (handle · = h)

def release (t : Slots ConnectionRef) (h : ConnectionHandle) : Bool × Slots ConnectionRef :=
  if h.generation = 0 ∨ h.id ≥ t.slots.length then (false, t)
  else
    match (t.activeAt h.id).filter (handle · = h) with
    | none => (false, t)
    | some _ => (true, t.release h.id)

end ConnectionTable

/-! ## Tokens -/

/-- A byte that names no kind stays what it is. -/
inductive PollTargetKind where
  | invalid
  | wakeup
  | clientConnection
  | dbConnection
  | listener
  | unnamed (value : Nat)
deriving DecidableEq, Repr

namespace PollTargetKind

def value : PollTargetKind → Nat
  | invalid => 0
  | wakeup => 1
  | clientConnection => 2
  | dbConnection => 3
  | listener => 4
  | unnamed value => value

def ofValue : Nat → PollTargetKind
  | 0 => invalid
  | 1 => wakeup
  | 2 => clientConnection
  | 3 => dbConnection
  | 4 => listener
  | value => unnamed value

/-- The value is a byte and is read as the same kind. -/
def IsByte (kind : PollTargetKind) : Prop := kind.value < 256 ∧ ofValue kind.value = kind

instance (kind : PollTargetKind) : Decidable kind.IsByte := by
  unfold IsByte
  infer_instance

end PollTargetKind

structure PollToken where
  kind : PollTargetKind := .invalid
  index : Nat := 0
  generation : Nat := 0
deriving DecidableEq, Repr

def encodePollToken (kind : PollTargetKind) (index generation : Nat) : Nat :=
  (kind.value <<< 56) ||| (index <<< 32) ||| generation

def decodePollToken (raw : Nat) : PollToken where
  kind := .ofValue ((raw >>> 56) &&& 0xFF)
  index := (raw >>> 32) &&& 0xFFFFFF
  generation := raw &&& 0xFFFFFFFF

/-- The fields of a word lie side by side. -/
theorem encodePollToken_eq {kind : PollTargetKind} {index generation : Nat}
    (hindex : index ≤ maxPollIndex) (hgeneration : generation ≤ maxPollGeneration) :
    encodePollToken kind index generation =
      kind.value * 2 ^ 56 + index * 2 ^ 32 + generation := by
  unfold maxPollIndex at hindex
  unfold maxPollGeneration at hgeneration
  have hlow : index <<< 32 < 2 ^ 56 := by
    rw [Nat.shiftLeft_eq]
    omega
  have hword : kind.value <<< 56 ||| index <<< 32 = (kind.value * 2 ^ 24 + index) <<< 32 := by
    rw [← Nat.shiftLeft_add_eq_or_of_lt hlow]
    simp only [Nat.shiftLeft_eq]
    omega
  have hlast : generation < 2 ^ 32 := by omega
  rw [encodePollToken, hword, ← Nat.shiftLeft_add_eq_or_of_lt hlast, Nat.shiftLeft_eq]
  omega

/-- **A token is read back as it was written.** -/
theorem decodePollToken_encode {kind : PollTargetKind} {index generation : Nat}
    (hkind : kind.IsByte) (hindex : index ≤ maxPollIndex)
    (hgeneration : generation ≤ maxPollGeneration) :
    decodePollToken (encodePollToken kind index generation) = ⟨kind, index, generation⟩ := by
  rw [encodePollToken_eq hindex hgeneration]
  unfold maxPollIndex at hindex
  unfold maxPollGeneration at hgeneration
  have hbyte : ∀ n, n &&& 0xFF = n % 2 ^ 8 := fun n => Nat.and_two_pow_sub_one_eq_mod n 8
  have hmiddle : ∀ n, n &&& 0xFFFFFF = n % 2 ^ 24 := fun n => Nat.and_two_pow_sub_one_eq_mod n 24
  have hlow : ∀ n, n &&& 0xFFFFFFFF = n % 2 ^ 32 := fun n => Nat.and_two_pow_sub_one_eq_mod n 32
  obtain ⟨hbound, hvalue⟩ := hkind
  simp only [decodePollToken, hbyte, hmiddle, hlow, Nat.shiftRight_eq_div_pow, PollToken.mk.injEq]
  refine ⟨?_, by omega, by omega⟩
  have hkindByte : (kind.value * 2 ^ 56 + index * 2 ^ 32 + generation) / 2 ^ 56 % 2 ^ 8 =
      kind.value := by omega
  rw [hkindByte, hvalue]

/-! ## Poll registrations -/

structure PollRegistrationHandle where
  index : Nat := 0
  generation : Nat := 0
deriving DecidableEq, Repr

/-- What a slot in use holds. -/
structure PollRegistration where
  generation : Nat
  descriptor : Int
  token : PollToken
  connection : Option ConnectionHandle
deriving DecidableEq, Repr

structure PollRegistrationView where
  handle : PollRegistrationHandle
  descriptor : Int
  token : PollToken
  connection : Option ConnectionHandle
deriving DecidableEq, Repr

namespace PollRegistrationTable

def create (capacity : Nat) : Except String (Slots PollRegistration) :=
  if capacity = 0 ∨ capacity > maxPollIndex + 1 then .error "Invalid poll registration capacity"
  else .ok { slots := List.replicate capacity {} }

structure Request where
  descriptor : Int
  kind : PollTargetKind
  connection : Option ConnectionHandle
  isByte : kind.IsByte
deriving DecidableEq

def Request.rejected (request : Request) : Bool :=
  request.descriptor < 0 || request.kind = .invalid || request.kind = .wakeup ||
    (request.kind = .clientConnection && !request.connection.isSome) ||
    (request.kind ≠ .clientConnection && request.connection.isSome)

def tryReserve (t : Slots PollRegistration) (request : Request) :
    Except String (Option (Slots PollRegistration × Nat × PollRegistrationHandle)) :=
  if request.rejected then .error "Invalid client poll registration"
  else
    match t.slots.findIdx? Slots.isFree with
    | none => .ok none
    | some index =>
      if t.last ≥ maxPollGeneration then .error "Poll registration generation exhausted"
      else
        let generation := t.last + 1
        let registration : PollRegistration :=
          { generation := generation
            descriptor := request.descriptor
            token :=
              { kind := request.kind
                index := index % 2 ^ 32
                generation := generation % 2 ^ 32 }
            connection := request.connection }
        .ok (some (t.reserve index registration, index,
          { index := index % 2 ^ 32, generation := generation }))

def view (index : Nat) (registration : PollRegistration) : PollRegistrationView where
  handle := { index := index % 2 ^ 32, generation := registration.generation }
  descriptor := registration.descriptor
  token := registration.token
  connection := registration.connection

def lookupToken (t : Slots PollRegistration) (token : PollToken) : Option PollRegistrationView :=
  if token.kind = .invalid ∨ token.index ≥ t.slots.length then none
  else
    ((t.activeAt token.index).filter fun r =>
      r.token.kind = token.kind && r.token.generation = token.generation).map (view token.index)

def lookupHandle (t : Slots PollRegistration) (h : PollRegistrationHandle) :
    Option PollRegistrationView :=
  if h.generation = 0 ∨ h.index ≥ t.slots.length then none
  else ((t.activeAt h.index).filter (·.generation = h.generation)).map (view h.index)

def release (t : Slots PollRegistration) (h : PollRegistrationHandle) :
    Bool × Slots PollRegistration :=
  if h.generation = 0 ∨ h.index ≥ t.slots.length then (false, t)
  else
    match (t.activeAt h.index).filter (·.generation = h.generation) with
    | none => (false, t)
    | some _ => (true, t.release h.index)

end PollRegistrationTable

/-! ## Uses that have ended -/

section Connections

variable {capacity : Nat} {t : Slots ConnectionRef}

namespace ConnectionTable

def calls : SlotCalls ConnectionRef Request ConnectionHandle where
  tryReserve := tryReserve
  release t h := (release t h).2

/-- What holds of the table at any time. -/
structure Fenced (t : Slots ConnectionRef) : Prop where
  slots : ∀ s ∈ t.slots, s.Formed
  reservedCount : t.reservedCount = t.slots.countP (·.reserved)
  activeCount : t.activeCount = t.slots.countP (·.committed)
  find : ∀ h c, find t h = some c → t.slots[h.id]? = some (.active c) ∧ handle c = h
  returned : ∀ request table i h, tryReserve t request = .ok (some (table, i, h)) →
    t.last < h.generation ∧ ∃ c, handle c = h ∧ table.slots[i]? = some (.pending c)
  ended : ∀ c ∈ t.retired, c.generation ≤ t.last ∧
    ∀ h : ConnectionHandle, h.generation = c.generation → ConnectionTable.find t h = none

theorem tryReserve_eq {request : Request} {table : Slots ConnectionRef} {i : Nat}
    {h : ConnectionHandle} (hok : tryReserve t request = .ok (some (table, i, h))) :
    t.slots.findIdx? Slots.isFree = some i ∧ ∃ c : ConnectionRef,
      c.generation = t.last + 1 ∧ handle c = h ∧ table = t.reserve i c := by
  unfold tryReserve at hok
  split at hok
  · cases hok
  split at hok
  · cases hok
  split at hok
  · cases hok
  · next hfirst =>
    split at hok
    · cases hok
    · cases hok
      exact ⟨hfirst, _, rfl, rfl, rfl⟩

theorem find_eq_some (hs : t.Sound ConnectionRef.generation) {h : ConnectionHandle}
    {c : ConnectionRef} (hfind : find t h = some c) :
    t.slots[h.id]? = some (.active c) ∧ handle c = h := by
  unfold find at hfind
  split at hfind
  · cases hfind
  · obtain ⟨hactive, heq⟩ := Option.filter_eq_some_iff.1 hfind
    exact ⟨hs.activeAt hactive, of_decide_eq_true heq⟩

theorem lawful : calls.Lawful ConnectionRef.generation (fun _ _ => True) capacity where
  tryReserve t request table i h hkept hok := by
    obtain ⟨hfirst, c, hgeneration, -, htable⟩ := tryReserve_eq hok
    exact ⟨c, hkept.sound.firstFree hfirst, hgeneration, trivial, htable⟩
  release t h hkept := by
    simp only [calls, release]
    split
    · exact .inl rfl
    split
    · exact .inl rfl
    · next hfound =>
      exact .inr ⟨_, _, hkept.sound.activeAt (Option.filter_eq_some_iff.1 hfound).1, rfl⟩

theorem Fenced.of_kept
    (hkept : SlotCalls.Kept ConnectionRef.generation (fun _ _ => True) capacity t) :
    Fenced t where
  slots s hs := by
    obtain ⟨i, hi⟩ := List.getElem?_of_mem hs
    exact hkept.sound.formed i s hi
  reservedCount := hkept.sound.reservedCount
  activeCount := hkept.sound.activeCount
  find h c hfind := find_eq_some hkept.sound hfind
  returned request table i h hok := by
    obtain ⟨hfirst, c, hgeneration, rfl, rfl⟩ := tryReserve_eq hok
    have hchanged := Slots.reserve_changed (hkept.sound.firstFree hfirst) hgeneration
    exact ⟨Nat.lt_of_lt_of_eq (Nat.lt_succ_self _) hgeneration.symm, c, rfl,
      (hchanged.getElem? i).trans (if_pos rfl)⟩
  ended c hc := by
    refine ⟨(hkept.sound.retired c hc).1, fun h hgeneration => ?_⟩
    rw [Option.eq_none_iff_forall_ne_some]
    intro d hfind
    obtain ⟨hactive, hhandle⟩ := find_eq_some hkept.sound hfind
    refine hkept.sound.active_ne hc hactive ?_
    rw [← hgeneration, ← hhandle]
    rfl

end ConnectionTable

end Connections

section Registrations

variable {capacity : Nat} {t : Slots PollRegistration}

/-- The token of a registration says which one it is. -/
structure PollRegistration.Tagged (i : Nat) (r : PollRegistration) : Prop where
  kind : r.token.kind.IsByte
  index : r.token.index = i
  generation : r.token.generation = r.generation
  index_le : i ≤ maxPollIndex
  generation_le : r.generation ≤ maxPollGeneration

/-- The word that is registered with epoll. -/
def PollToken.raw (token : PollToken) : Nat :=
  encodePollToken token.kind token.index token.generation

theorem PollRegistration.Tagged.decode {i : Nat} {r : PollRegistration} (h : r.Tagged i) :
    decodePollToken r.token.raw = r.token :=
  decodePollToken_encode h.kind (h.index.trans_le h.index_le)
    (h.generation.trans_le h.generation_le)

namespace PollRegistrationTable

def calls : SlotCalls PollRegistration Request PollRegistrationHandle where
  tryReserve := tryReserve
  release t h := (release t h).2

/-- What holds of the table at any time. -/
structure Fenced (t : Slots PollRegistration) : Prop where
  slots : ∀ s ∈ t.slots, s.Formed
  reservedCount : t.reservedCount = t.slots.countP (·.reserved)
  activeCount : t.activeCount = t.slots.countP (·.committed)
  lookupHandle : ∀ h v, lookupHandle t h = some v →
    ∃ r, t.slots[h.index]? = some (.active r) ∧ r.generation = h.generation ∧ v = view h.index r
  returned : ∀ request table i h, tryReserve t request = .ok (some (table, i, h)) →
    t.last < h.generation ∧
      ∃ r, r.generation = h.generation ∧ table.slots[i]? = some (.pending r)
  ended : ∀ r ∈ t.retired, r.generation ≤ t.last ∧
    (∀ h : PollRegistrationHandle, h.generation = r.generation →
      PollRegistrationTable.lookupHandle t h = none) ∧
    lookupToken t (decodePollToken r.token.raw) = none
  tokens : ∀ i r, t.valueAt i = some r → ∀ v, lookupToken t (decodePollToken r.token.raw) = some v →
    t.slots[i]? = some (.active r) ∧ v = view i r

theorem tryReserve_eq {request : Request} {table : Slots PollRegistration} {i : Nat}
    {h : PollRegistrationHandle} (hlength : t.slots.length ≤ maxPollIndex + 1)
    (hok : tryReserve t request = .ok (some (table, i, h))) :
    t.slots.findIdx? Slots.isFree = some i ∧ ∃ r : PollRegistration, r.generation = t.last + 1 ∧
      h.generation = r.generation ∧ r.Tagged i ∧ table = t.reserve i r := by
  unfold tryReserve at hok
  split at hok
  · cases hok
  split at hok
  · cases hok
  · next hfirst =>
    split at hok
    · cases hok
    · next hlast =>
      cases hok
      obtain ⟨hlt, -, -⟩ := List.findIdx?_eq_some_iff_getElem.1 hfirst
      have hindex : i ≤ maxPollIndex := Nat.le_of_lt_succ (Nat.lt_of_lt_of_le hlt hlength)
      have hword : i < 2 ^ 32 := Nat.lt_of_le_of_lt hindex (by decide)
      have hgeneration : t.last + 1 ≤ maxPollGeneration := Nat.lt_of_not_le hlast
      have hnarrow : t.last + 1 < 2 ^ 32 := Nat.lt_of_le_of_lt hgeneration (by decide)
      exact ⟨hfirst, _, rfl, rfl, ⟨request.isByte, Nat.mod_eq_of_lt hword, Nat.mod_eq_of_lt hnarrow,
        hindex, hgeneration⟩, rfl⟩

theorem lookupHandle_eq_some (hs : t.Sound PollRegistration.generation)
    {h : PollRegistrationHandle} {v : PollRegistrationView} (hlookup : lookupHandle t h = some v) :
    ∃ r, t.slots[h.index]? = some (.active r) ∧ r.generation = h.generation ∧
      v = view h.index r := by
  unfold lookupHandle at hlookup
  split at hlookup
  · cases hlookup
  · obtain ⟨r, hr, rfl⟩ := Option.map_eq_some_iff.1 hlookup
    obtain ⟨hactive, heq⟩ := Option.filter_eq_some_iff.1 hr
    exact ⟨r, hs.activeAt hactive, of_decide_eq_true heq, rfl⟩

theorem lookupToken_eq_some (hs : t.Sound PollRegistration.generation) {token : PollToken}
    {v : PollRegistrationView} (hlookup : lookupToken t token = some v) :
    ∃ r, t.slots[token.index]? = some (.active r) ∧ r.token.generation = token.generation ∧
      v = view token.index r := by
  unfold lookupToken at hlookup
  split at hlookup
  · cases hlookup
  · obtain ⟨r, hr, rfl⟩ := Option.map_eq_some_iff.1 hlookup
    obtain ⟨hactive, heq⟩ := Option.filter_eq_some_iff.1 hr
    exact ⟨r, hs.activeAt hactive, of_decide_eq_true (Bool.and_eq_true_iff.1 heq).2, rfl⟩

theorem lawful (hcapacity : capacity ≤ maxPollIndex + 1) :
    calls.Lawful PollRegistration.generation (fun i r => r.Tagged i) capacity where
  tryReserve t request table i h hkept hok := by
    obtain ⟨hfirst, r, hgeneration, -, htagged, htable⟩ :=
      tryReserve_eq (hkept.length.trans_le hcapacity) hok
    exact ⟨r, hkept.sound.firstFree hfirst, hgeneration, htagged, htable⟩
  release t h hkept := by
    simp only [calls, release]
    split
    · exact .inl rfl
    split
    · exact .inl rfl
    · next hfound =>
      exact .inr ⟨_, _, hkept.sound.activeAt (Option.filter_eq_some_iff.1 hfound).1, rfl⟩

/-- The registration that a token of another one finds has the generation of that one. -/
theorem lookupToken_raw
    (hkept : SlotCalls.Kept PollRegistration.generation (fun i r => r.Tagged i) capacity t)
    {i : Nat} {r : PollRegistration} (hr : r.Tagged i) {v : PollRegistrationView}
    (hlookup : lookupToken t (decodePollToken r.token.raw) = some v) :
    ∃ r', t.slots[i]? = some (.active r') ∧ r'.generation = r.generation ∧ v = view i r' := by
  rw [hr.decode] at hlookup
  obtain ⟨r', hactive, hgeneration, hview⟩ := lookupToken_eq_some hkept.sound hlookup
  rw [hr.index] at hactive hview
  have htagged := hkept.every.valueAt i r' (Slots.valueAt_active hactive)
  exact ⟨r', hactive, htagged.generation.symm.trans (hgeneration.trans hr.generation), hview⟩

theorem Fenced.of_kept (hcapacity : capacity ≤ maxPollIndex + 1)
    (hkept : SlotCalls.Kept PollRegistration.generation (fun i r => r.Tagged i) capacity t) :
    Fenced t where
  slots s hs := by
    obtain ⟨i, hi⟩ := List.getElem?_of_mem hs
    exact hkept.sound.formed i s hi
  reservedCount := hkept.sound.reservedCount
  activeCount := hkept.sound.activeCount
  lookupHandle h v hlookup := lookupHandle_eq_some hkept.sound hlookup
  returned request table i h hok := by
    obtain ⟨hfirst, r, hnext, hgeneration, -, rfl⟩ :=
      tryReserve_eq (hkept.length.trans_le hcapacity) hok
    have hchanged := Slots.reserve_changed (hkept.sound.firstFree hfirst) hnext
    refine ⟨?_, r, hgeneration.symm, (hchanged.getElem? i).trans (if_pos rfl)⟩
    rw [hgeneration, hnext]
    exact Nat.lt_succ_self _
  ended r hr := by
    refine ⟨(hkept.sound.retired r hr).1, fun h hgeneration => ?_, ?_⟩
    · rw [Option.eq_none_iff_forall_ne_some]
      intro v hlookup
      obtain ⟨r', hactive, heq, -⟩ := lookupHandle_eq_some hkept.sound hlookup
      exact hkept.sound.active_ne hr hactive (heq.trans hgeneration)
    · rw [Option.eq_none_iff_forall_ne_some]
      intro v hlookup
      obtain ⟨i, hi⟩ := hkept.every.retired r hr
      obtain ⟨r', hactive, heq, -⟩ := lookupToken_raw hkept hi hlookup
      exact hkept.sound.active_ne hr hactive heq
  tokens i r hr v hlookup := by
    obtain ⟨r', hactive, -, hview⟩ := lookupToken_raw hkept (hkept.every.valueAt i r hr) hlookup
    have hvalue := Slots.valueAt_active hactive
    rw [hr] at hvalue
    cases hvalue
    exact ⟨hactive, hview⟩

end PollRegistrationTable

end Registrations

/-- **Nothing stale is found**: whatever the users of the two tables do, a handle or a token of a
use of a slot that has ended finds nothing. -/
theorem stale_never_found {connections registrations : Nat} {limits : ConnectionLimits}
    {connectionSlots : Slots ConnectionRef} {registrationSlots : Slots PollRegistration}
    (hconnections : ConnectionTable.create connections limits = .ok connectionSlots)
    (hregistrations : PollRegistrationTable.create registrations = .ok registrationSlots)
    {s : Holding (Slots ConnectionRef) ConnectionHandle}
    {p : Holding (Slots PollRegistration) PollRegistrationHandle}
    (hs : (ConnectionTable.calls.machine connectionSlots).Reach (fun _ _ => True) s)
    (hp : (PollRegistrationTable.calls.machine registrationSlots).Reach (fun _ _ => True) p) :
    ConnectionTable.Fenced s.table ∧ PollRegistrationTable.Fenced p.table := by
  unfold ConnectionTable.create at hconnections
  unfold PollRegistrationTable.create at hregistrations
  split at hconnections
  · cases hconnections
  split at hregistrations
  · cases hregistrations
  next hcapacity =>
  cases hconnections
  cases hregistrations
  have hle : registrations ≤ maxPollIndex + 1 := Nat.le_of_not_gt fun hgt => hcapacity (.inr hgt)
  have hkept := (PollRegistrationTable.lawful hle).reach SlotCalls.kept_init hp
  exact ⟨.of_kept (ConnectionTable.lawful.reach SlotCalls.kept_init hs), .of_kept hle hkept⟩

def clientRequest : PollRegistrationTable.Request where
  descriptor := 9
  kind := .clientConnection
  connection := some ⟨0, 1⟩
  isByte := by decide

/-- Both slots are used twice, and the second time the first handle and token find nothing. -/
theorem stale_never_found_reused : ∃ s p,
    (ConnectionTable.Fenced s ∧ s.retired.length = 1 ∧ ConnectionTable.find s ⟨0, 1⟩ = none) ∧
    PollRegistrationTable.Fenced p ∧ p.retired.length = 1 ∧
    PollRegistrationTable.lookupToken p (decodePollToken 144115188075855873) = none := by
  obtain ⟨s, hs, hs'⟩ := Machine.exists_reach_of_replay
    (ConnectionTable.calls.machine { slots := [{}, {}] }) (fun _ _ => True)
    (s := { table := { slots := [{}, {}] } }) ⟨rfl, rfl⟩
    [.tryReserve 0 ⟨true, 3⟩, .holder (.commit 0), .release ⟨0, 1⟩, .tryReserve 1 ⟨true, 3⟩]
    (fun s => s.table.retired.length = 1 ∧ ConnectionTable.find s.table ⟨0, 1⟩ = none)
    (by decide +kernel)
  obtain ⟨p, hp, hp'⟩ := Machine.exists_reach_of_replay
    (PollRegistrationTable.calls.machine { slots := [{}] }) (fun _ _ => True)
    (s := { table := { slots := [{}] } }) ⟨rfl, rfl⟩
    [.tryReserve 0 clientRequest, .holder (.destroy 0), .tryReserve 0 clientRequest,
      .holder (.commit 0)]
    (fun p => p.table.retired.length = 1 ∧
      PollRegistrationTable.lookupToken p.table (decodePollToken 144115188075855873) = none)
    (by decide +kernel)
  obtain ⟨hconnections, hregistrations⟩ := @stale_never_found 2 1
    ⟨1, 1, 1, Nat.one_pos, Nat.one_pos, Nat.le_refl 1⟩ _ _ rfl rfl s p hs hp
  exact ⟨_, _, ⟨hconnections, of_decide_eq_true hs'⟩, hregistrations, of_decide_eq_true hp'⟩

end Snf.Worker.Tables
