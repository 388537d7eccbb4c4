import Snf.Game.ArenaWords
import Snf.Game.RoomRuns

/-! # The geometry of the arena

What the functions of the arena compute is exact. Two positions are in range if and only if
their true distance says so, steps toward a target arrive after as many of them as the longer
axis needs, and the places of a wave lie on the square around the center, each of them ahead of
the one before.
-/

namespace Snf.Game

/-! ## Ranges -/

theorem delta_mul_delta (a b : Nat) :
    ((delta a b * delta a b : Nat) : Int) = ((a : Int) - b) ^ 2 := by
  unfold delta
  split
  · next h =>
    rw [Int.natCast_mul, Int.ofNat_sub h.le]
    ring
  · next h =>
    rw [Int.natCast_mul, Int.ofNat_sub (Nat.not_lt.1 h)]
    ring

/-- The saturation is above every square of a range. -/
theorem isWithinRange_iff (a b : ArenaPosition) {range : Nat} (hrange : range < 2 ^ 32) :
    isWithinRange a b range = true ↔
      ((a.x : Int) - b.x) ^ 2 + ((a.y : Int) - b.y) ^ 2 ≤ (range : Int) ^ 2 := by
  have hsquare := square_lt hrange
  have hcast : ((range * range : Nat) : Int) = (range : Int) ^ 2 := by
    rw [Int.natCast_mul, sq]
  rw [← delta_mul_delta, ← delta_mul_delta, ← hcast, ← Int.natCast_add, Int.ofNat_le]
  have hdef : isWithinRange a b range =
      decide (min (delta a.x b.x * delta a.x b.x + delta a.y b.y * delta a.y b.y) (2 ^ 64 - 1) ≤
        range * range) := rfl
  rw [hdef, decide_eq_true_iff]
  omega

/-! ## Steps toward a target -/

/-- `b` lies on the way from `a` to `c`. -/
def Between (a b c : Nat) : Prop := a ≤ b ∧ b ≤ c ∨ c ≤ b ∧ b ≤ a

theorem between_stepToward (value target amount : Nat) :
    Between value (stepToward value target amount) target := by
  unfold Between stepToward
  split <;> omega

theorem delta_stepToward (value target amount : Nat) :
    delta (stepToward value target amount) target = delta value target - amount := by
  unfold delta stepToward
  by_cases h : target < value
  · rw [if_pos h, if_neg (by omega), if_neg (by omega)]
    omega
  · rw [if_neg h]
    split <;> split <;> omega

theorem delta_eq_zero {a b : Nat} : delta a b = 0 ↔ a = b := by
  unfold delta
  split <;> omega

/-- The larger of the distances on the two axes. -/
def axisDistance (p q : ArenaPosition) : Nat := max (delta p.x q.x) (delta p.y q.y)

theorem axisDistance_eq_zero {p q : ArenaPosition} : axisDistance p q = 0 ↔ p = q := by
  unfold axisDistance
  rw [Nat.max_eq_zero_iff, delta_eq_zero, delta_eq_zero, ArenaPosition.mk.injEq]

/-- The position after some steps toward a fixed target. -/
def walk (p target : ArenaPosition) (speed width height : Nat) : Nat → ArenaPosition
  | 0 => p
  | n + 1 => moveToward (walk p target speed width height n) target speed width height

section Walk

variable {p target : ArenaPosition} {speed width height : Nat}

/-- The border of the arena cuts nothing off a step to a target inside it. -/
theorem moveToward_eq (hp : p.Within width height) (htarget : target.Within width height) :
    moveToward p target speed width height =
      ⟨stepToward p.x target.x speed, stepToward p.y target.y speed⟩ := by
  have hx := between_stepToward p.x target.x speed
  have hy := between_stepToward p.y target.y speed
  obtain ⟨hpx, hpy⟩ := hp
  obtain ⟨htx, hty⟩ := htarget
  unfold Between at hx hy
  unfold moveToward
  rw [Nat.min_eq_left (by omega), Nat.min_eq_left (by omega)]

theorem axisDistance_moveToward (hp : p.Within width height)
    (htarget : target.Within width height) :
    axisDistance (moveToward p target speed width height) target =
      axisDistance p target - speed := by
  rw [moveToward_eq hp htarget]
  simp only [axisDistance, delta_stepToward]
  omega

theorem within_moveToward (hwidth : 0 < width) (hheight : 0 < height) :
    (moveToward p target speed width height).Within width height := by
  constructor <;> simp only [moveToward] <;> omega

theorem within_walk (hp : p.Within width height) :
    ∀ n, (walk p target speed width height n).Within width height
  | 0 => hp
  | _ + 1 => within_moveToward (Nat.zero_lt_of_lt hp.x) (Nat.zero_lt_of_lt hp.y)

theorem axisDistance_walk (hp : p.Within width height) (htarget : target.Within width height)
    (n : Nat) :
    axisDistance (walk p target speed width height n) target =
      axisDistance p target - n * speed := by
  induction n with
  | zero => rw [walk, Nat.zero_mul, Nat.sub_zero]
  | succ n ih =>
    rw [walk, axisDistance_moveToward (within_walk hp n) htarget, ih, Nat.sub_sub, Nat.succ_mul]

end Walk

/-- What repeated steps toward a target do: no word wraps, no coordinate passes the target, the
larger distance shrinks until it is zero, and that is so after exactly as many steps as it takes
speeds to cover it. -/
structure Arrives (p target : ArenaPosition) (speed width height : Nat) : Prop where
  noWrap : ∀ n, checkedMoveToward (walk p target speed width height n) target speed width height =
    some (walk p target speed width height (n + 1))
  between : ∀ n,
    Between (walk p target speed width height n).x (walk p target speed width height (n + 1)).x
      target.x ∧
    Between (walk p target speed width height n).y (walk p target speed width height (n + 1)).y
      target.y
  closer : ∀ n, axisDistance (walk p target speed width height n) target ≠ 0 →
    axisDistance (walk p target speed width height (n + 1)) target <
      axisDistance (walk p target speed width height n) target
  arrival : ∀ n, walk p target speed width height n = target ↔
    (axisDistance p target + speed - 1) / speed ≤ n

theorem walk_arrives {p target : ArenaPosition} {speed width height : Nat}
    (hwidth : width < 2 ^ 32) (hheight : height < 2 ^ 32) (hp : p.Within width height)
    (htarget : target.Within width height) (hspeed : 1 ≤ speed) :
    Arrives p target speed width height where
  noWrap n := checkedMoveToward_eq (within_walk hp n) htarget hwidth hheight
  between n := by
    rw [walk, moveToward_eq (within_walk hp n) htarget]
    exact ⟨between_stepToward _ _ _, between_stepToward _ _ _⟩
  closer n hne := by
    rw [walk, axisDistance_moveToward (within_walk hp n) htarget]
    omega
  arrival n := by
    rw [← axisDistance_eq_zero, axisDistance_walk hp htarget, Nat.sub_eq_zero_iff_le,
      Nat.div_le_iff_le_mul_add_pred hspeed, Nat.mul_comm]
    omega

/-- **Distances and steps are exact.** -/
theorem geometry_exact :
    (∀ (a b : ArenaPosition) (range : Nat), a.Within (2 ^ 32) (2 ^ 32) →
      b.Within (2 ^ 32) (2 ^ 32) → range < 2 ^ 32 →
      checkedIsWithinRange a b range = some (isWithinRange a b range) ∧
      (isWithinRange a b range = true ↔
        ((a.x : Int) - b.x) ^ 2 + ((a.y : Int) - b.y) ^ 2 ≤ (range : Int) ^ 2)) ∧
    ∀ (p target : ArenaPosition) (speed width height : Nat), width < 2 ^ 32 → height < 2 ^ 32 →
      p.Within width height → target.Within width height → 1 ≤ speed →
      Arrives p target speed width height :=
  ⟨fun a b _ ha hb hrange => ⟨checkedIsWithinRange_eq ha hb hrange, isWithinRange_iff a b hrange⟩,
    fun _ _ _ _ _ hwidth hheight hp htarget hspeed =>
      walk_arrives hwidth hheight hp htarget hspeed⟩

/-- From one corner to the opposite one of an arena of 8 by 5 at speed 3: three steps. -/
theorem geometry_exact_corners :
    isWithinRange ⟨0, 0⟩ ⟨2 ^ 32 - 1, 2 ^ 32 - 1⟩ (2 ^ 32 - 1) = false ∧
      Arrives ⟨0, 4⟩ ⟨7, 0⟩ 3 8 5 := by
  refine ⟨?_, geometry_exact.2 ⟨0, 4⟩ ⟨7, 0⟩ 3 8 5 (by decide) (by decide)
    ⟨by decide, by decide⟩ ⟨by decide, by decide⟩ (by decide)⟩
  rw [Bool.eq_false_iff]
  intro h
  have hexact := (geometry_exact.1 ⟨0, 0⟩ ⟨2 ^ 32 - 1, 2 ^ 32 - 1⟩ (2 ^ 32 - 1)
    ⟨by decide, by decide⟩ ⟨by decide, by decide⟩ (by decide)).2.1 h
  revert hexact
  decide

/-! ## The square of a wave -/

/-- The point of the square that is `offset` along its sides. -/
def ringPoint (centerX centerY radius offset : Nat) : ArenaPosition :=
  if offset < radius then ⟨centerX + offset, centerY - radius⟩
  else if offset < radius * 3 then ⟨centerX + radius, centerY - radius + offset - radius⟩
  else if offset < radius * 5 then ⟨centerX + radius - (offset - radius * 3), centerY + radius⟩
  else if offset < radius * 7 then ⟨centerX - radius, centerY + radius - (offset - radius * 5)⟩
  else ⟨centerX - radius + offset - radius * 7, centerY - radius⟩

/-- The next point of the square, clockwise: right along the top, down the right side, left along
the bottom, up the left side. -/
def clockwise (centerX centerY radius : Nat) : ArenaPosition → ArenaPosition
  | ⟨x, y⟩ =>
    if y = centerY - radius ∧ x < centerX + radius then ⟨x + 1, y⟩
    else if x = centerX + radius ∧ y < centerY + radius then ⟨x, y + 1⟩
    else if y = centerY + radius ∧ x > centerX - radius then ⟨x - 1, y⟩
    else ⟨x, y - 1⟩

section Ring

variable {centerX centerY radius : Nat}

theorem clockwise_ringPoint (hx : radius ≤ centerX) (hy : radius ≤ centerY) {offset : Nat}
    (h : offset < radius * 8) :
    clockwise centerX centerY radius (ringPoint centerX centerY radius offset) =
      ringPoint centerX centerY radius (offset + 1) := by
  unfold ringPoint
  -- the side of the point, and for the next one whether it is beyond the corner
  split
  · rw [clockwise, if_pos ⟨rfl, by omega⟩]
    split
    · rfl
    · rw [if_pos (by omega), ArenaPosition.mk.injEq]
      omega
  split
  · rw [clockwise, if_neg (by omega), if_pos ⟨rfl, by omega⟩, if_neg (by omega)]
    split
    · rw [ArenaPosition.mk.injEq]
      omega
    · rw [if_pos (by omega), ArenaPosition.mk.injEq]
      omega
  split
  · rw [clockwise, if_neg (by omega), if_neg (by omega),
      if_pos ⟨rfl, by omega⟩, if_neg (by omega), if_neg (by omega)]
    split
    · rw [ArenaPosition.mk.injEq]
      omega
    · rw [if_pos (by omega), ArenaPosition.mk.injEq]
      omega
  split
  · rw [clockwise, if_neg (by omega), if_neg (by omega),
      if_neg (by omega), if_neg (by omega), if_neg (by omega), if_neg (by omega)]
    split
    · rw [ArenaPosition.mk.injEq]
      omega
    · rw [ArenaPosition.mk.injEq]
      omega
  rw [clockwise, if_pos ⟨rfl, by omega⟩, if_neg (by omega), if_neg (by omega),
    if_neg (by omega), if_neg (by omega), ArenaPosition.mk.injEq]
  omega

/-- A point of the square, reached from the middle of its top. -/
theorem clockwise_iterate (hx : radius ≤ centerX) (hy : radius ≤ centerY) (hradius : 0 < radius)
    {offset : Nat} (h : offset ≤ radius * 8) :
    (clockwise centerX centerY radius)^[offset] ⟨centerX, centerY - radius⟩ =
      ringPoint centerX centerY radius offset := by
  induction offset with
  | zero => rw [Function.iterate_zero_apply, ringPoint, if_pos hradius, Nat.add_zero]
  | succ offset ih =>
    rw [Function.iterate_succ_apply', ih (by omega), clockwise_ringPoint hx hy h]

theorem axisDistance_ringPoint (hx : radius ≤ centerX) (hy : radius ≤ centerY) {offset : Nat}
    (h : offset ≤ radius * 8) :
    axisDistance (ringPoint centerX centerY radius offset) ⟨centerX, centerY⟩ = radius := by
  unfold ringPoint
  split
  · simp only [axisDistance, delta]
    split <;> split <;> omega
  split
  · simp only [axisDistance, delta]
    split <;> split <;> omega
  split
  · simp only [axisDistance, delta]
    split <;> split <;> omega
  split
  · simp only [axisDistance, delta]
    split <;> split <;> omega
  simp only [axisDistance, delta]
  split <;> split <;> omega

/-- No point of the square is met twice within one round. -/
theorem ringPoint_injective (hx : radius ≤ centerX) (hy : radius ≤ centerY) {s t : Nat}
    (hs : s < radius * 8) (ht : t < radius * 8)
    (h : ringPoint centerX centerY radius s = ringPoint centerX centerY radius t) : s = t := by
  unfold ringPoint at h
  repeat' split at h
  all_goals
    rw [ArenaPosition.mk.injEq] at h
    omega

end Ring

theorem squarePerimeterPosition_eq {index count : Nat} (hindex : index < count)
    (width height radius : Nat) :
    squarePerimeterPosition index count width height radius =
      ringPoint (width / 2) (height / 2) radius (radius * 8 * index / count) := by
  rw [← productQuotient_eq _ _ (Nat.zero_lt_of_lt hindex)]
  rfl

theorem offset_lt {index count radius : Nat} (hindex : index < count) (hradius : 0 < radius) :
    radius * 8 * index / count < radius * 8 := by
  rw [Nat.div_lt_iff_lt_mul (Nat.zero_lt_of_lt hindex)]
  exact Nat.mul_lt_mul_of_pos_left hindex (by omega)

/-- With no more places than points of the square, the next place is a later point. -/
theorem offset_strictMono {i j count radius : Nat} (hij : i < j) (hj : j < count)
    (hcount : count ≤ radius * 8) :
    radius * 8 * i / count < radius * 8 * j / count := by
  have hpos : 0 < count := Nat.zero_lt_of_lt hj
  rw [← Nat.add_one_le_iff, ← Nat.add_div_right _ hpos]
  refine Nat.div_le_div_right ?_
  calc radius * 8 * i + count ≤ radius * 8 * i + radius * 8 := Nat.add_le_add_left hcount _
    _ = radius * 8 * (i + 1) := (Nat.mul_succ _ _).symm
    _ ≤ radius * 8 * j := Nat.mul_le_mul_left _ hij

/-- The places of a wave of `count` minions: no word wraps, every place lies on the square around
the center, a later one is further along it, before the round is complete, and they are distinct
unless there are more of them than points. -/
structure OnRing (c : RoomConfig) (count : Nat) : Prop where
  quotient : ∀ index < count, checkedProductQuotient (c.minionSpawnRadius * 8) index count =
    some (c.minionSpawnRadius * 8 * index / count)
  noWrap : ∀ index < count,
    checkedSquarePerimeterPosition index count c.arenaWidth c.arenaHeight c.minionSpawnRadius =
      some (squarePerimeterPosition index count c.arenaWidth c.arenaHeight c.minionSpawnRadius)
  distance : ∀ index < count,
    axisDistance
      (squarePerimeterPosition index count c.arenaWidth c.arenaHeight c.minionSpawnRadius)
      ⟨c.arenaWidth / 2, c.arenaHeight / 2⟩ = c.minionSpawnRadius
  ahead : ∀ i j, i ≤ j → j < count → ∃ steps,
    c.minionSpawnRadius * 8 * i / count + steps < c.minionSpawnRadius * 8 ∧
    squarePerimeterPosition j count c.arenaWidth c.arenaHeight c.minionSpawnRadius =
      (clockwise (c.arenaWidth / 2) (c.arenaHeight / 2) c.minionSpawnRadius)^[steps]
        (squarePerimeterPosition i count c.arenaWidth c.arenaHeight c.minionSpawnRadius)
  distinct : count ≤ 8 * c.minionSpawnRadius → ∀ i < count, ∀ j < count,
    squarePerimeterPosition i count c.arenaWidth c.arenaHeight c.minionSpawnRadius =
      squarePerimeterPosition j count c.arenaWidth c.arenaHeight c.minionSpawnRadius → i = j

theorem minionSpawnRadius_pos {room : RoomId} {c : RoomConfig} {r : Room}
    (h : Room.create room c = .ok r) : 0 < c.minionSpawnRadius := by
  unfold Room.create at h
  split at h
  · cases h
  · next hnone =>
    have hchecks := List.find?_eq_none.1 hnone
    simp only [RoomConfig.checks, List.forall_mem_cons, Bool.or_eq_true, decide_eq_true_eq] at hchecks
    omega

/-- **Minions are placed around the center.** -/
theorem minions_on_ring {room : RoomId} {c : RoomConfig} {r : Room}
    (h : Room.create room c = .ok r) {count : Nat} (hcount : count < 2 ^ 32) : OnRing c count := by
  have hradius := minionSpawnRadius_pos h
  obtain ⟨hvalid, -⟩ := Room.create_eq h
  have hwidth : c.arenaWidth < 2 ^ 31 := Nat.lt_succ_of_le hvalid.width.2
  have hheight : c.arenaHeight < 2 ^ 31 := Nat.lt_succ_of_le hvalid.height.2
  have hx := hvalid.radiusX.1
  have hy := hvalid.radiusY.1
  refine ⟨?_, ?_, ?_, ?_, ?_⟩
  · intro index hindex
    rw [checkedProductQuotient_eq (by omega) hindex hcount.le,
      productQuotient_eq _ _ (Nat.zero_lt_of_lt hindex)]
  · intro index hindex
    exact checkedSquarePerimeterPosition_eq hindex hcount.le hwidth hheight hvalid.radiusX
      hvalid.radiusY
  · intro index hindex
    rw [squarePerimeterPosition_eq hindex]
    exact axisDistance_ringPoint hx hy (offset_lt hindex hradius).le
  · intro i j hij hj
    have hoffset : c.minionSpawnRadius * 8 * i / count ≤ c.minionSpawnRadius * 8 * j / count :=
      Nat.div_le_div_right (Nat.mul_le_mul_left _ hij)
    have hround := offset_lt hj hradius
    refine ⟨c.minionSpawnRadius * 8 * j / count - c.minionSpawnRadius * 8 * i / count, by omega, ?_⟩
    rw [squarePerimeterPosition_eq hj, squarePerimeterPosition_eq (Nat.lt_of_le_of_lt hij hj),
      ← clockwise_iterate hx hy hradius hround.le,
      ← clockwise_iterate hx hy hradius (hoffset.trans hround.le), ← Function.iterate_add_apply,
      Nat.sub_add_cancel hoffset]
  · intro hpoints i hi j hj heq
    rw [squarePerimeterPosition_eq hi, squarePerimeterPosition_eq hj] at heq
    have hsame := ringPoint_injective hx hy (offset_lt hi hradius) (offset_lt hj hradius) heq
    rcases Nat.lt_trichotomy i j with hlt | rfl | hgt
    · exact absurd hsame (offset_strictMono hlt hj (by omega)).ne
    · rfl
    · exact absurd hsame (offset_strictMono hgt hi (by omega)).ne'

/-- The ten minions of a wave in the default arena. -/
theorem minions_on_ring_default : OnRing {} 10 := by
  have hcreate : Room.create 1 {} = .ok { id := 1, config := {} } := by decide +kernel
  exact minions_on_ring hcreate (by decide)

end Snf.Game
