import Snf.Game.Player

/-! # The arena of a battle

Positions and movement in a Room. Coordinates are `std::uint32_t` below the extents of
the arena, which the Room's constructor keeps below `2 ^ 31`: the model computes with
naturals, and no sum or product of the source wraps. The one saturation of the source,
in `squaredDistance`, is kept.
-/

namespace Snf.Game

structure ArenaPosition where
  x : Nat := 0
  y : Nat := 0
deriving DecidableEq, Repr

inductive MoveDirection where
  | stop | north | northEast | east | southEast | south | southWest | west | northWest
deriving DecidableEq, Repr

def decrease (value amount : Nat) : Nat := value - min value amount

def increase (value amount maximum : Nat) : Nat := value + min amount (maximum - value)

def stepToward (value target amount : Nat) : Nat :=
  if target < value then value - min amount (value - target)
  else value + min amount (target - value)

def productQuotient (value multiplier divisor : Nat) : Nat :=
  value / divisor * multiplier + value % divisor * multiplier / divisor

def moveInDirection (p : ArenaPosition) (direction : MoveDirection) (speed width height : Nat) :
    ArenaPosition :=
  let maxX := width - 1
  let maxY := height - 1
  match direction with
  | .stop => p
  | .north => { p with y := decrease p.y speed }
  | .northEast => { x := increase p.x speed maxX, y := decrease p.y speed }
  | .east => { p with x := increase p.x speed maxX }
  | .southEast => { x := increase p.x speed maxX, y := increase p.y speed maxY }
  | .south => { p with y := increase p.y speed maxY }
  | .southWest => { x := decrease p.x speed, y := increase p.y speed maxY }
  | .west => { p with x := decrease p.x speed }
  | .northWest => { x := decrease p.x speed, y := decrease p.y speed }

def moveToward (p target : ArenaPosition) (speed width height : Nat) : ArenaPosition where
  x := min (stepToward p.x target.x speed) (width - 1)
  y := min (stepToward p.y target.y speed) (height - 1)

def squaredDistance (left right : ArenaPosition) : Nat :=
  let deltaX := if left.x < right.x then right.x - left.x else left.x - right.x
  let deltaY := if left.y < right.y then right.y - left.y else left.y - right.y
  min (deltaX * deltaX + deltaY * deltaY) (2 ^ 64 - 1)

def isWithinRange (left right : ArenaPosition) (range : Nat) : Bool :=
  squaredDistance left right ≤ range * range

def centeredParticipantPosition (index count width height spacing : Nat) : ArenaPosition where
  x := width / 2 - spacing * (count - 1) / 2 + spacing * index
  y := height / 2

/-- The `index`-th of `count` places, clockwise from the middle of the top, on the
square around the center. -/
def squarePerimeterPosition (index count width height radius : Nat) : ArenaPosition :=
  let centerX := width / 2
  let centerY := height / 2
  let offset := productQuotient (radius * 8) index count
  let top := centerY - radius
  let right := centerX + radius
  let bottom := centerY + radius
  let left := centerX - radius
  if offset < radius then ⟨centerX + offset, top⟩
  else if offset < radius * 3 then ⟨right, top + offset - radius⟩
  else if offset < radius * 5 then ⟨right - (offset - radius * 3), bottom⟩
  else if offset < radius * 7 then ⟨left, bottom - (offset - radius * 5)⟩
  else ⟨left + offset - radius * 7, top⟩

def bossSpawnPosition (width : Nat) : ArenaPosition where
  x := width / 2
  y := 0

end Snf.Game
