import Snf.Lib.Checked
import Snf.Game.Arena

/-! # The arithmetic of the arena

The functions of the arena are written down a second time with arithmetic that fails where
the words of the source would wrap. On the positions of an arena, and for the distances on all
positions, they do not fail, and have the values of the functions on naturals.
-/

namespace Snf.Game

open Snf.Lib

def checkedStepToward (value target amount : Nat) : Option Nat :=
  if target < value then do
    let distance ← checkedSub value target
    checkedSub value (min amount distance)
  else do
    let distance ← checkedSub target value
    checkedAdd 32 value (min amount distance)

def checkedMoveToward (p target : ArenaPosition) (speed width height : Nat) :
    Option ArenaPosition := do
  let x := min (← checkedStepToward p.x target.x speed) (← checkedSub width 1)
  let y := min (← checkedStepToward p.y target.y speed) (← checkedSub height 1)
  return ⟨x, y⟩

/-- The distance on one axis. -/
def checkedDelta (left right : Nat) : Option Nat :=
  if left < right then checkedSub right left else checkedSub left right

def checkedSquaredDistance (left right : ArenaPosition) : Option Nat := do
  let deltaX ← checkedDelta left.x right.x
  let deltaY ← checkedDelta left.y right.y
  let xSquared ← checkedMul 64 deltaX deltaX
  let ySquared ← checkedMul 64 deltaY deltaY
  if ySquared > (← checkedSub (2 ^ 64 - 1) xSquared) then return 2 ^ 64 - 1
  checkedAdd 64 xSquared ySquared

def checkedIsWithinRange (left right : ArenaPosition) (range : Nat) : Option Bool := do
  return (← checkedSquaredDistance left right) ≤ (← checkedMul 64 range range)

def checkedProductQuotient (value multiplier divisor : Nat) : Option Nat := do
  let whole ← checkedMul 64 (value / divisor) multiplier
  let rest ← checkedMul 64 (value % divisor) multiplier
  checkedAdd 64 whole (rest / divisor)

def checkedSquarePerimeterPosition (index count width height radius : Nat) :
    Option ArenaPosition := do
  let centerX := width / 2
  let centerY := height / 2
  let perimeter ← checkedMul 64 radius 8
  let offset ← checkedProductQuotient perimeter index count
  let top ← checkedSub centerY radius
  let right ← checkedAdd 64 centerX radius
  let bottom ← checkedAdd 64 centerY radius
  let left ← checkedSub centerX radius
  if offset < radius then
    return ⟨← narrow 32 (← checkedAdd 64 centerX offset), ← narrow 32 top⟩
  if offset < (← checkedMul 64 radius 3) then
    let y ← checkedSub (← checkedAdd 64 top offset) radius
    return ⟨← narrow 32 right, ← narrow 32 y⟩
  if offset < (← checkedMul 64 radius 5) then
    let x ← checkedSub right (← checkedSub offset (← checkedMul 64 radius 3))
    return ⟨← narrow 32 x, ← narrow 32 bottom⟩
  if offset < (← checkedMul 64 radius 7) then
    let y ← checkedSub bottom (← checkedSub offset (← checkedMul 64 radius 5))
    return ⟨← narrow 32 left, ← narrow 32 y⟩
  let x ← checkedSub (← checkedAdd 64 left offset) (← checkedMul 64 radius 7)
  return ⟨← narrow 32 x, ← narrow 32 top⟩

/-- The position is in an arena of this size. -/
structure ArenaPosition.Within (p : ArenaPosition) (width height : Nat) : Prop where
  x : p.x < width
  y : p.y < height

section Movement

variable {p target : ArenaPosition} {speed width height : Nat}

theorem checkedStepToward_eq (value amount : Nat) {target : Nat} (htarget : target < 2 ^ 32) :
    checkedStepToward value target amount = some (stepToward value target amount) := by
  unfold checkedStepToward stepToward
  split
  · next h =>
    simp only [checkedSub_eq h.le, Option.bind_eq_bind, Option.bind_some]
    refine checkedSub_eq ?_
    omega
  · next h =>
    simp only [checkedSub_eq (Nat.not_lt.1 h), Option.bind_eq_bind, Option.bind_some]
    refine checkedAdd_eq ?_
    omega

theorem checkedMoveToward_eq (hp : p.Within width height) (htarget : target.Within width height)
    (hwidth : width < 2 ^ 32) (hheight : height < 2 ^ 32) :
    checkedMoveToward p target speed width height =
      some (moveToward p target speed width height) := by
  have hx := checkedStepToward_eq p.x speed (htarget.x.trans hwidth)
  have hy := checkedStepToward_eq p.y speed (htarget.y.trans hheight)
  have hmaxX : checkedSub width 1 = _ := checkedSub_eq (Nat.succ_le_of_lt (Nat.zero_lt_of_lt hp.x))
  have hmaxY : checkedSub height 1 = _ := checkedSub_eq (Nat.succ_le_of_lt (Nat.zero_lt_of_lt hp.y))
  simp only [checkedMoveToward, hx, hy, hmaxX, hmaxY, Option.bind_eq_bind, Option.bind_some]
  rfl

end Movement

/-! ## Distances -/

/-- The distance of two coordinates. -/
def delta (a b : Nat) : Nat := if a < b then b - a else a - b

theorem delta_lt {a b bound : Nat} (ha : a < bound) (hb : b < bound) : delta a b < bound := by
  unfold delta
  split <;> omega

theorem checkedDelta_eq (a b : Nat) : checkedDelta a b = some (delta a b) := by
  unfold checkedDelta delta
  split
  · next h => exact checkedSub_eq h.le
  · next h => exact checkedSub_eq (Nat.not_lt.1 h)

theorem square_lt {n : Nat} (h : n < 2 ^ 32) : n * n < 2 ^ 64 - 1 := by
  have hle : n * n ≤ (2 ^ 32 - 1) * (2 ^ 32 - 1) := Nat.mul_le_mul (by omega) (by omega)
  omega

/-- The check before the sum finds out whether it fits. -/
theorem checkedSquaredDistance_eq {a b : ArenaPosition} (ha : a.Within (2 ^ 32) (2 ^ 32))
    (hb : b.Within (2 ^ 32) (2 ^ 32)) :
    checkedSquaredDistance a b = some (squaredDistance a b) := by
  have hx := square_lt (delta_lt ha.x hb.x)
  have hy := square_lt (delta_lt ha.y hb.y)
  have hmin : squaredDistance a b =
      min (delta a.x b.x * delta a.x b.x + delta a.y b.y * delta a.y b.y) (2 ^ 64 - 1) := rfl
  have hmulX : checkedMul 64 (delta a.x b.x) (delta a.x b.x) = _ := checkedMul_eq (by omega)
  have hmulY : checkedMul 64 (delta a.y b.y) (delta a.y b.y) = _ := checkedMul_eq (by omega)
  simp only [checkedSquaredDistance, checkedDelta_eq, hmulX, hmulY, checkedSub_eq hx.le,
    Option.bind_eq_bind, Option.bind_some]
  rw [hmin]
  split
  · next h => rw [Nat.min_eq_right (by omega)]; rfl
  · next h => rw [checkedAdd_eq (by omega), Nat.min_eq_left (by omega)]

theorem checkedIsWithinRange_eq {a b : ArenaPosition} {range : Nat}
    (ha : a.Within (2 ^ 32) (2 ^ 32)) (hb : b.Within (2 ^ 32) (2 ^ 32)) (hrange : range < 2 ^ 32) :
    checkedIsWithinRange a b range = some (isWithinRange a b range) := by
  have hsquare : checkedMul 64 range range = _ := checkedMul_eq ((square_lt hrange).trans (by omega))
  simp only [checkedIsWithinRange, checkedSquaredDistance_eq ha hb, hsquare, Option.bind_eq_bind,
    Option.bind_some]
  rfl

/-! ## Placement -/

theorem productQuotient_eq (value multiplier : Nat) {divisor : Nat} (h : 0 < divisor) :
    productQuotient value multiplier divisor = value * multiplier / divisor := by
  unfold productQuotient
  conv_rhs => rw [← Nat.div_add_mod value divisor, Nat.add_mul, Nat.mul_assoc]
  rw [Nat.mul_add_div h]

theorem checkedProductQuotient_eq {value multiplier divisor : Nat} (hvalue : value < 2 ^ 34)
    (h : multiplier < divisor) (hdivisor : divisor ≤ 2 ^ 32) :
    checkedProductQuotient value multiplier divisor =
      some (productQuotient value multiplier divisor) := by
  have hpos : 0 < divisor := Nat.zero_lt_of_lt h
  have hwhole : value / divisor * multiplier ≤ value :=
    Nat.le_trans (Nat.mul_le_mul_left _ h.le) (Nat.div_mul_le_self _ _)
  have hrest : value % divisor * multiplier < 2 ^ 32 * 2 ^ 32 :=
    Nat.mul_lt_mul'' ((Nat.mod_lt _ hpos).trans_le hdivisor) (h.trans_le hdivisor)
  have hquotient : value % divisor * multiplier / divisor ≤ value % divisor := by
    refine Nat.div_le_of_le_mul ?_
    rw [Nat.mul_comm divisor]
    exact Nat.mul_le_mul_left _ h.le
  have hmod := Nat.mod_le value divisor
  have hfirst : checkedMul 64 (value / divisor) multiplier = _ := checkedMul_eq (by omega)
  have hsecond : checkedMul 64 (value % divisor) multiplier = _ := checkedMul_eq hrest
  simp only [checkedProductQuotient, hfirst, hsecond, Option.bind_eq_bind, Option.bind_some]
  refine checkedAdd_eq ?_
  omega

section Placement

variable {index count width height : Nat}

theorem offset_le (radius : Nat) (hindex : index < count) :
    productQuotient (radius * 8) index count ≤ radius * 8 := by
  have hpos : 0 < count := Nat.zero_lt_of_lt hindex
  rw [productQuotient_eq _ _ hpos]
  refine Nat.div_le_of_le_mul ?_
  rw [Nat.mul_comm count]
  exact Nat.mul_le_mul_left _ hindex.le

theorem narrow_place {x y : Nat} (hx : x < 2 ^ 32) (hy : y < 2 ^ 32) :
    (do return ⟨← narrow 32 x, ← narrow 32 y⟩ : Option ArenaPosition) = some ⟨x, y⟩ := by
  simp only [narrow_eq hx, narrow_eq hy, Option.bind_eq_bind, Option.bind_some]
  rfl

theorem checkedSquarePerimeterPosition_eq {radius : Nat} (hindex : index < count)
    (hcount : count ≤ 2 ^ 32) (hwidth : width < 2 ^ 31) (hheight : height < 2 ^ 31)
    (hx : radius ≤ width / 2 ∧ radius ≤ width - 1 - width / 2)
    (hy : radius ≤ height / 2 ∧ radius ≤ height - 1 - height / 2) :
    checkedSquarePerimeterPosition index count width height radius =
      some (squarePerimeterPosition index count width height radius) := by
  have hperimeter : checkedMul 64 radius 8 = _ := checkedMul_eq (by omega)
  have hthree : checkedMul 64 radius 3 = _ := checkedMul_eq (by omega)
  have hfive : checkedMul 64 radius 5 = _ := checkedMul_eq (by omega)
  have hseven : checkedMul 64 radius 7 = _ := checkedMul_eq (by omega)
  have hoffset : checkedProductQuotient (radius * 8) index count = _ :=
    checkedProductQuotient_eq (by omega) hindex hcount
  have hbelow := offset_le radius hindex
  have hright : checkedAdd 64 (width / 2) radius = _ := checkedAdd_eq (by omega)
  have hbottom : checkedAdd 64 (height / 2) radius = _ := checkedAdd_eq (by omega)
  unfold checkedSquarePerimeterPosition squarePerimeterPosition
  rw [hperimeter, Option.bind_eq_bind, Option.bind_some, hoffset, Option.bind_some,
    checkedSub_eq hy.1, Option.bind_some, hright, Option.bind_some, hbottom, Option.bind_some,
    checkedSub_eq hx.1, Option.bind_some, hthree, hfive, hseven]
  dsimp only
  generalize productQuotient (radius * 8) index count = offset at *
  -- one side of the square after the other
  by_cases hfirst : offset < radius
  · rw [if_pos hfirst, if_pos hfirst, checkedAdd_eq (by omega), Option.bind_some]
    exact narrow_place (by omega) (by omega)
  rw [if_neg hfirst, if_neg hfirst, Option.bind_some]
  by_cases hsecond : offset < radius * 3
  · rw [if_pos hsecond, if_pos hsecond, checkedAdd_eq (by omega), Option.bind_some,
      checkedSub_eq (by omega), Option.bind_some]
    exact narrow_place (by omega) (by omega)
  rw [if_neg hsecond, if_neg hsecond, Option.bind_some]
  by_cases hthird : offset < radius * 5
  · rw [if_pos hthird, if_pos hthird, Option.bind_some, checkedSub_eq (by omega), Option.bind_some,
      checkedSub_eq (by omega), Option.bind_some]
    exact narrow_place (by omega) (by omega)
  rw [if_neg hthird, if_neg hthird, Option.bind_some]
  by_cases hfourth : offset < radius * 7
  · rw [if_pos hfourth, if_pos hfourth, Option.bind_some, checkedSub_eq (by omega),
      Option.bind_some, checkedSub_eq (by omega), Option.bind_some]
    exact narrow_place (by omega) (by omega)
  rw [if_neg hfourth, if_neg hfourth, checkedAdd_eq (by omega), Option.bind_some, Option.bind_some,
    checkedSub_eq (by omega), Option.bind_some]
  exact narrow_place (by omega) (by omega)

end Placement

end Snf.Game
