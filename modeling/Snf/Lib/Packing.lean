import Snf.Lib.BigEndian

/-! # Packed records

A format is a list of integer fields of fixed widths. The values of a record are packed one after
another, most significant byte first, a signed one in two's complement. A value that its field
cannot hold is refused. On the values a format can hold, packing and unpacking are inverse.
-/

namespace Snf.Lib

structure Field where
  width : Nat
  signed : Bool := false
deriving DecidableEq, Repr

abbrev Format := List Field

namespace Field

def u8 : Field := { width := 1 }
def u16 : Field := { width := 2 }
def u32 : Field := { width := 4 }
def u64 : Field := { width := 8 }
def i32 : Field := { width := 4, signed := true }

/-- The number of values of a field. -/
def span (f : Field) : Nat := 256 ^ f.width

/-- The first number that is read as a negative value. -/
def turn (f : Field) : Nat := if f.signed then f.span / 2 else f.span

def Fits (f : Field) (value : Int) : Prop := (f.turn : Int) - f.span ≤ value ∧ value < f.turn

instance (f : Field) (value : Int) : Decidable (f.Fits value) := inferInstanceAs (Decidable (_ ∧ _))

def pack (f : Field) (value : Int) : Option (List UInt8) :=
  if f.Fits value then some (bigEndian f.width (value % f.span).toNat) else none

def unpack (f : Field) (bytes : List UInt8) : Int :=
  let value := ofBigEndian bytes
  if value < f.turn then value else value - f.span

@[simp] theorem span_u8 : u8.span = 2 ^ 8 := by decide
@[simp] theorem span_u16 : u16.span = 2 ^ 16 := by decide
@[simp] theorem span_u32 : u32.span = 2 ^ 32 := by decide
@[simp] theorem span_u64 : u64.span = 2 ^ 64 := by decide
@[simp] theorem span_i32 : i32.span = 2 ^ 32 := by decide

theorem span_pos (f : Field) : 0 < f.span := Nat.pow_pos (by decide)

theorem turn_le (f : Field) : f.turn ≤ f.span := by
  unfold turn
  split
  · exact Nat.div_le_self _ _
  · exact Nat.le_refl _

/-- An unsigned field, and a number that it can hold. -/
def Holds (f : Field) (value : Nat) : Prop := f.signed = false ∧ value < f.span

@[simp] theorem holds_u8 {value : Nat} : u8.Holds value ↔ value < 2 ^ 8 := by
  rw [← span_u8]
  exact and_iff_right rfl

@[simp] theorem holds_u16 {value : Nat} : u16.Holds value ↔ value < 2 ^ 16 := by
  rw [← span_u16]
  exact and_iff_right rfl

@[simp] theorem holds_u32 {value : Nat} : u32.Holds value ↔ value < 2 ^ 32 := by
  rw [← span_u32]
  exact and_iff_right rfl

@[simp] theorem holds_u64 {value : Nat} : u64.Holds value ↔ value < 2 ^ 64 := by
  rw [← span_u64]
  exact and_iff_right rfl

theorem fits_natCast {f : Field} {value : Nat} (h : f.Holds value) : f.Fits value := by
  obtain ⟨hsign, hlt⟩ := h
  unfold Fits turn
  rw [hsign]
  simp only [Bool.false_eq_true, if_false]
  omega

theorem unpack_of_unsigned {f : Field} (hf : f.signed = false) {bytes : List UInt8}
    (h : bytes.length = f.width) : f.unpack bytes = ofBigEndian bytes := by
  have hlt := ofBigEndian_lt bytes
  rw [h] at hlt
  unfold unpack turn
  rw [hf]
  exact if_pos hlt

theorem pack_of_fits {f : Field} {value : Int} (h : f.Fits value) :
    f.pack value = some (bigEndian f.width (value % f.span).toNat) := if_pos h

theorem pack_natCast {f : Field} {value : Nat} (h : f.Holds value) :
    f.pack value = some (bigEndian f.width value) := by
  rw [pack_of_fits (fits_natCast h), ← Int.natCast_mod, Int.toNat_natCast, Nat.mod_eq_of_lt h.2]

theorem pack_byte (byte : UInt8) : u8.pack (byte.toNat : Int) = some [byte] := by
  rw [pack_natCast (holds_u8.2 byte.toNat_lt)]
  show some (bigEndian 1 byte.toNat) = _
  rw [bigEndian, bigEndian, Nat.zero_mul, Nat.shiftRight_zero, UInt8.ofNat_toNat]

/-- A signed number that is cast to an unsigned one of its width. -/
theorem pack_toInt (value : Int32) :
    i32.pack value.toInt = some (bigEndian 4 value.toUInt32.toNat) := by
  have hturn : i32.turn = 2 ^ 31 := by decide
  have hfits : i32.Fits value.toInt := by
    have hlow := value.le_toInt
    have hhigh := value.toInt_lt
    unfold Fits
    rw [hturn, span_i32]
    omega
  have hcast : (value.toInt % (i32.span : Int)).toNat = value.toUInt32.toNat := by
    rw [span_i32]
    show (value.toBitVec.toInt % ((2 ^ 32 : Nat) : Int)).toNat = value.toBitVec.toNat
    rw [BitVec.toInt_eq_toNat_bmod, Int.bmod_emod]
    have hlt := value.toBitVec.isLt
    rw [Int.emod_eq_of_lt (by omega) (by omega), Int.toNat_natCast]
  rw [pack_of_fits hfits, hcast]
  rfl

theorem pack_eq_some {f : Field} {value : Int} {bytes : List UInt8}
    (h : f.pack value = some bytes) :
    f.Fits value ∧ bytes = bigEndian f.width (value % f.span).toNat := by
  unfold pack at h
  split at h
  · next hfits => exact ⟨hfits, (Option.some.inj h).symm⟩
  · cases h

theorem unpack_bigEndian {f : Field} {value : Int} (h : f.Fits value) :
    f.unpack (bigEndian f.width (value % f.span).toNat) = value := by
  obtain ⟨hlow, hhigh⟩ := h
  have hpos := f.span_pos
  have hturn := f.turn_le
  have hnumber : ofBigEndian (bigEndian f.width (value % f.span).toNat) =
      (value % f.span).toNat := by
    rw [ofBigEndian_bigEndian]
    apply Nat.mod_eq_of_lt
    have hlt : value % f.span < f.span := Int.emod_lt_of_pos _ (by omega)
    have hnonneg : 0 ≤ value % f.span := Int.emod_nonneg _ (by omega)
    show (value % f.span).toNat < f.span
    omega
  unfold unpack
  rw [hnumber]
  dsimp only
  -- a negative value is stored as the number a whole span above it
  by_cases hneg : value < 0
  · have hmod : value % f.span = value + f.span := by
      rw [← Int.add_emod_right]
      exact Int.emod_eq_of_lt (by omega) (by omega)
    rw [hmod, if_neg (by omega)]
    omega
  · have hmod : value % f.span = value := Int.emod_eq_of_lt (by omega) (by omega)
    rw [hmod, if_pos (by omega)]
    omega

theorem pack_unpack {f : Field} {bytes : List UInt8} (h : bytes.length = f.width) :
    f.pack (f.unpack bytes) = some bytes := by
  have hlt : ofBigEndian bytes < f.span := by
    have := ofBigEndian_lt bytes
    rwa [h] at this
  have hturn := f.turn_le
  have hfits : f.Fits (f.unpack bytes) := by
    unfold Fits unpack
    dsimp only
    split
    · omega
    · omega
  have hmod : (f.unpack bytes % f.span).toNat = ofBigEndian bytes := by
    unfold unpack
    dsimp only
    split
    · rw [Int.emod_eq_of_lt (by omega) (by omega)]
      exact Int.toNat_natCast _
    · rw [← Int.add_emod_right, Int.sub_add_cancel, Int.emod_eq_of_lt (by omega) (by omega)]
      exact Int.toNat_natCast _
  rw [pack_of_fits hfits, hmod, bigEndian_ofBigEndian h]

end Field

namespace Format

def size (format : Format) : Nat := (format.map Field.width).sum

def pack : Format → List Int → Option (List UInt8)
  | [], [] => some []
  | f :: format, value :: values => do
    let bytes ← f.pack value
    let rest ← pack format values
    return bytes ++ rest
  | _, _ => none

def unpack : Format → List UInt8 → List Int
  | [], _ => []
  | f :: format, bytes => f.unpack (bytes.take f.width) :: unpack format (bytes.drop f.width)

/-- The values at an offset, if the bytes reach that far. -/
def unpackFrom (format : Format) (bytes : List UInt8) (offset : Nat) : Option (List Int) :=
  if offset + size format ≤ bytes.length then some (unpack format (bytes.drop offset)) else none

@[simp] theorem size_cons (f : Field) (format : Format) :
    size (f :: format) = f.width + size format := by
  unfold size
  rw [List.map_cons, List.sum_cons]

/-- The first value, if its field is unsigned. -/
theorem unpack_cons {f : Field} (hf : f.signed = false) (format : Format) {bytes : List UInt8}
    (h : f.width ≤ bytes.length) :
    unpack (f :: format) bytes =
      (ofBigEndian (bytes.take f.width) : Int) :: unpack format (bytes.drop f.width) := by
  rw [unpack, Field.unpack_of_unsigned hf]
  rw [List.length_take]
  exact Nat.min_eq_left h

theorem unpackFrom_of_le {format : Format} {bytes : List UInt8} {offset : Nat}
    (h : offset + size format ≤ bytes.length) :
    unpackFrom format bytes offset = some (unpack format (bytes.drop offset)) := if_pos h

theorem pack_of_fits {format : Format} {values : List Int}
    (h : List.Forall₂ Field.Fits format values) : ∃ bytes, pack format values = some bytes := by
  induction h with
  | nil => exact ⟨[], rfl⟩
  | cons hfits _ ih =>
    obtain ⟨rest, hrest⟩ := ih
    rw [pack, Field.pack_of_fits hfits, hrest]
    exact ⟨_, rfl⟩

/-- Naturals in unsigned fields. -/
theorem pack_natCast {format : Format} {values : List Nat}
    (h : List.Forall₂ Field.Holds format values) :
    pack format (values.map Nat.cast) =
      some (List.zipWith (fun f value => bigEndian f.width value) format values).flatten := by
  induction h with
  | nil => rfl
  | cons hfits _ ih =>
    rw [List.map_cons, pack, Field.pack_natCast hfits, ih]
    rfl

theorem pack_flatten_nil : pack [] [] = some ([] : List (List UInt8)).flatten := rfl

/-- One more field, in front of packed ones. -/
theorem pack_flatten_cons {f : Field} {format : Format} {value : Int} {values : List Int}
    {bytes : List UInt8} {chunks : List (List UInt8)} (h : f.pack value = some bytes)
    (hrest : pack format values = some chunks.flatten) :
    pack (f :: format) (value :: values) = some (bytes :: chunks).flatten := by
  rw [pack, h, hrest]
  rfl

/-- Numbers in fields of one kind. -/
theorem pack_replicate {f : Field} (values : List Nat) (h : ∀ value ∈ values, f.Holds value) :
    pack (List.replicate values.length f) (values.map Nat.cast) =
      some (values.flatMap (bigEndian f.width)) := by
  induction values with
  | nil => rfl
  | cons value values ih =>
    rw [List.length_cons, List.replicate_succ, List.map_cons, pack,
      Field.pack_natCast (h value List.mem_cons_self),
      ih fun other hother => h other (List.mem_cons_of_mem _ hother), List.flatMap_cons]
    rfl

theorem pack_cons {f : Field} {format : Format} {values : List Int} {bytes : List UInt8}
    (h : pack (f :: format) values = some bytes) :
    ∃ value values' rest, values = value :: values' ∧ f.Fits value ∧
      pack format values' = some rest ∧
      bytes = bigEndian f.width (value % f.span).toNat ++ rest := by
  cases values with
  | nil => cases h
  | cons value values =>
    rw [pack] at h
    obtain ⟨first, hfirst, h⟩ := Option.bind_eq_some_iff.1 h
    obtain ⟨rest, hrest, h⟩ := Option.bind_eq_some_iff.1 h
    obtain ⟨hfits, rfl⟩ := Field.pack_eq_some hfirst
    exact ⟨value, values, rest, rfl, hfits, hrest, (Option.some.inj h).symm⟩

theorem fits_of_pack {format : Format} {values : List Int} {bytes : List UInt8}
    (h : pack format values = some bytes) : List.Forall₂ Field.Fits format values := by
  induction format generalizing values bytes with
  | nil =>
    cases values with
    | nil => exact .nil
    | cons value values => cases h
  | cons f format ih =>
    obtain ⟨value, values', rest, rfl, hfits, hrest, -⟩ := pack_cons h
    exact .cons hfits (ih hrest)

theorem length_pack {format : Format} {values : List Int} {bytes : List UInt8}
    (h : pack format values = some bytes) : bytes.length = size format := by
  induction format generalizing values bytes with
  | nil =>
    cases values with
    | nil =>
      cases h
      rfl
    | cons value values => cases h
  | cons f format ih =>
    obtain ⟨value, values', rest, -, -, hrest, rfl⟩ := pack_cons h
    rw [List.length_append, length_bigEndian, ih hrest, size_cons]

/-- What was packed comes back, whatever follows it. -/
theorem unpack_pack {format : Format} {values : List Int} {bytes : List UInt8}
    (h : pack format values = some bytes) (m : List UInt8) :
    unpack format (bytes ++ m) = values := by
  induction format generalizing values bytes with
  | nil =>
    cases values with
    | nil => rfl
    | cons value values => cases h
  | cons f format ih =>
    obtain ⟨value, values', rest, rfl, hfits, hrest, rfl⟩ := pack_cons h
    rw [unpack, List.append_assoc, List.take_left' (length_bigEndian _ _),
      List.drop_left' (length_bigEndian _ _), Field.unpack_bigEndian hfits, ih hrest]

/-- The same at an offset. -/
theorem unpackFrom_pack {format : Format} {values : List Int} {bytes : List UInt8}
    (h : pack format values = some bytes) (l m : List UInt8) :
    unpackFrom format (l ++ (bytes ++ m)) l.length = some values := by
  rw [unpackFrom_of_le, List.drop_left, unpack_pack h]
  rw [List.length_append, List.length_append, length_pack h]
  omega

/-- Bytes of the format's size are the packed form of their values. -/
theorem pack_unpack {format : Format} {bytes : List UInt8} (h : bytes.length = size format) :
    pack format (unpack format bytes) = some bytes := by
  induction format generalizing bytes with
  | nil =>
    cases bytes with
    | nil => rfl
    | cons byte bytes => cases h
  | cons f format ih =>
    rw [size_cons] at h
    have hfirst : (bytes.take f.width).length = f.width := by
      rw [List.length_take]
      omega
    have hrest : (bytes.drop f.width).length = size format := by
      rw [List.length_drop]
      omega
    rw [unpack, pack, Field.pack_unpack hfirst, ih hrest]
    exact congrArg some (List.take_append_drop _ _)

/-- Records of one format are equal when their values are. -/
theorem unpack_injective {format : Format} {bytes bytes' : List UInt8}
    (h : bytes.length = size format) (h' : bytes'.length = size format)
    (hvalues : unpack format bytes = unpack format bytes') : bytes = bytes' := by
  have hpack := pack_unpack h
  rw [hvalues, pack_unpack h'] at hpack
  exact (Option.some.inj hpack).symm

end Format

end Snf.Lib
