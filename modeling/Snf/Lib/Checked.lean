import Mathlib

/-! # Arithmetic that does not wrap

The operations of unsigned words of `width` bits on naturals, and the values of signed words of 64
bits. They fail where the machine would wrap, so that a computation that succeeds has the same
value on numbers and on words.
-/

namespace Snf.Lib

def checkedAdd (width a b : Nat) : Option Nat := if a + b < 2 ^ width then some (a + b) else none

def checkedSub (a b : Nat) : Option Nat := if b ≤ a then some (a - b) else none

def checkedMul (width a b : Nat) : Option Nat := if a * b < 2 ^ width then some (a * b) else none

/-- A conversion to fewer bits. -/
def narrow (width a : Nat) : Option Nat := if a < 2 ^ width then some a else none

/-- A value of a signed word of 64 bits. -/
def int64 (a : Int) : Option Int := if -2 ^ 63 ≤ a ∧ a < 2 ^ 63 then some a else none

variable {width a b : Nat}

theorem checkedAdd_eq (h : a + b < 2 ^ width) : checkedAdd width a b = some (a + b) := if_pos h

theorem checkedSub_eq (h : b ≤ a) : checkedSub a b = some (a - b) := if_pos h

theorem checkedMul_eq (h : a * b < 2 ^ width) : checkedMul width a b = some (a * b) := if_pos h

theorem narrow_eq (h : a < 2 ^ width) : narrow width a = some a := if_pos h

theorem int64_eq {a : Int} (h : -2 ^ 63 ≤ a ∧ a < 2 ^ 63) : int64 a = some a := if_pos h

end Snf.Lib
