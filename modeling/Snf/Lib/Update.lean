import Mathlib

/-! # Sums over a family with one changed member -/

namespace Snf.Lib

/-- Changing one member of a family changes a sum over it by the difference there. -/
theorem sum_update_add {ι : Type*} [Fintype ι] [DecidableEq ι] {α : Type*} (f : α → Nat)
    (w : ι → α) (i : ι) (x : α) :
    (∑ j, f (Function.update w i x j)) + f (w i) = (∑ j, f (w j)) + f x := by
  rw [← Finset.add_sum_erase _ _ (Finset.mem_univ i),
    ← Finset.add_sum_erase (Finset.univ) (fun j => f (w j)) (Finset.mem_univ i)]
  have hrest : ∑ j ∈ Finset.univ.erase i, f (Function.update w i x j) =
      ∑ j ∈ Finset.univ.erase i, f (w j) := by
    refine Finset.sum_congr rfl fun j hj => ?_
    rw [Function.update_of_ne (Finset.ne_of_mem_erase hj)]
  rw [hrest, Function.update_self]
  omega

end Snf.Lib
