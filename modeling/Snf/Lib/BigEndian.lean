import Mathlib

/-! # Big-endian numbers

The bytes of a number in a given width, most significant byte first, and the number of a list of
bytes. On the lists of one length the two are inverse.
-/

namespace Snf.Lib

/-- The low `width` bytes of a number. -/
def bigEndian : (width : Nat) → Nat → List UInt8
  | 0, _ => []
  | width + 1, value => UInt8.ofNat (value >>> (width * 8)) :: bigEndian width value

def ofBigEndian : List UInt8 → Nat
  | [] => 0
  | byte :: bytes => byte.toNat * 256 ^ bytes.length + ofBigEndian bytes

@[simp] theorem length_bigEndian (width value : Nat) : (bigEndian width value).length = width := by
  induction width with
  | zero => rfl
  | succ width ih => rw [bigEndian, List.length_cons, ih]

theorem ofBigEndian_lt (bytes : List UInt8) : ofBigEndian bytes < 256 ^ bytes.length := by
  induction bytes with
  | nil => exact Nat.one_pos
  | cons byte bytes ih =>
    have hbyte : byte.toNat < 256 := byte.toNat_lt
    calc byte.toNat * 256 ^ bytes.length + ofBigEndian bytes
        < byte.toNat * 256 ^ bytes.length + 256 ^ bytes.length := by omega
      _ = (byte.toNat + 1) * 256 ^ bytes.length := by ring
      _ ≤ 256 * 256 ^ bytes.length := Nat.mul_le_mul_right _ hbyte
      _ = 256 ^ (bytes.length + 1) := by ring

/-- Shifting the bytes in, one after another. -/
theorem foldl_ofBigEndian (bytes : List UInt8) (value : Nat) :
    bytes.foldl (fun value byte => value * 256 + byte.toNat) value =
      value * 256 ^ bytes.length + ofBigEndian bytes := by
  induction bytes generalizing value with
  | nil => simp [ofBigEndian]
  | cons byte bytes ih =>
    rw [List.foldl_cons, ih, ofBigEndian, List.length_cons, pow_succ]
    ring

theorem ofBigEndian_append (l m : List UInt8) :
    ofBigEndian (l ++ m) = ofBigEndian l * 256 ^ m.length + ofBigEndian m := by
  rw [← Nat.zero_add (ofBigEndian (l ++ m)), ← Nat.zero_mul (256 ^ (l ++ m).length),
    ← foldl_ofBigEndian, List.foldl_append, foldl_ofBigEndian, foldl_ofBigEndian, Nat.zero_mul,
    Nat.zero_add]

theorem shiftRight_bytes (value width : Nat) : value >>> (width * 8) = value / 256 ^ width := by
  rw [Nat.shiftRight_eq_div_pow, Nat.mul_comm, pow_mul, show (2 : Nat) ^ 8 = 256 from rfl]

theorem ofBigEndian_bigEndian (width value : Nat) :
    ofBigEndian (bigEndian width value) = value % 256 ^ width := by
  induction width with
  | zero => rw [pow_zero, Nat.mod_one]; rfl
  | succ width ih =>
    have hbyte : (UInt8.ofNat (value >>> (width * 8))).toNat = value / 256 ^ width % 256 := by
      rw [shiftRight_bytes]
      exact UInt8.toNat_ofNat'
    rw [bigEndian, ofBigEndian, ih, hbyte, length_bigEndian, pow_succ, Nat.mod_mul]
    ring

/-- The last byte apart. -/
theorem bigEndian_succ_eq (width value : Nat) :
    bigEndian (width + 1) value = bigEndian width (value >>> 8) ++ [UInt8.ofNat value] := by
  induction width with
  | zero =>
    show [UInt8.ofNat (value >>> (0 * 8))] = [UInt8.ofNat value]
    rw [Nat.zero_mul, Nat.shiftRight_zero]
  | succ width ih =>
    rw [bigEndian, ih, bigEndian, List.cons_append, ← Nat.shiftRight_add]
    congr 3
    omega

/-- Only the low bytes count. -/
theorem bigEndian_add_mul (width value high : Nat) :
    bigEndian width (high * 256 ^ width + value) = bigEndian width value := by
  suffices h : ∀ k, k ≤ width →
      bigEndian k (high * 256 ^ width + value) = bigEndian k value from h width (Nat.le_refl _)
  intro k hk
  induction k with
  | zero => rfl
  | succ k ih =>
    rw [bigEndian, bigEndian, ih (by omega), shiftRight_bytes, shiftRight_bytes]
    have hsplit : high * 256 ^ width = (high * 256 ^ (width - k - 1) * 256) * 256 ^ k := by
      have hwidth : width = (width - k - 1) + 1 + k := by omega
      conv_lhs => rw [hwidth, pow_add, pow_add]
      ring
    have hbyte : UInt8.ofNat ((high * 256 ^ width + value) / 256 ^ k) =
        UInt8.ofNat (value / 256 ^ k) := by
      rw [hsplit, Nat.add_comm, Nat.add_mul_div_right _ _ (Nat.pow_pos (by decide))]
      apply UInt8.toNat_inj.1
      rw [UInt8.toNat_ofNat', UInt8.toNat_ofNat']
      exact Nat.add_mul_mod_self_right _ _ _
    rw [hbyte]

theorem bigEndian_ofBigEndian {bytes : List UInt8} {width : Nat} (h : bytes.length = width) :
    bigEndian width (ofBigEndian bytes) = bytes := by
  subst h
  induction bytes with
  | nil => rfl
  | cons byte bytes ih =>
    rw [List.length_cons, ofBigEndian, bigEndian, bigEndian_add_mul, ih, shiftRight_bytes]
    have hhead : (byte.toNat * 256 ^ bytes.length + ofBigEndian bytes) / 256 ^ bytes.length =
        byte.toNat := by
      rw [Nat.add_comm, Nat.add_mul_div_right _ _ (Nat.pow_pos (by decide)),
        Nat.div_eq_of_lt (ofBigEndian_lt bytes), Nat.zero_add]
    rw [hhead, UInt8.ofNat_toNat]

end Snf.Lib
