import Mathlib.Algebra.Order.BigOperators.Group.Finset

/-!
# Counting over a family of workers

`tally weight family` is the total weight of a finite family of workers.  A step changes one worker,
so the one fact every accounting argument needs is `tally_update`.
-/

open Finset Function

universe u v

variable {ι : Type u} {α : Type v} [Fintype ι]

def tally (weight : α → ℕ) (family : ι → α) : ℕ := ∑ i, weight (family i)

/-- **Changing one worker changes the total by that worker's weight.**  Stated
as an equation of sums, so that it needs no subtraction. -/
theorem tally_update [DecidableEq ι] (weight : α → ℕ) (family : ι → α) (i : ι) (a : α) :
    tally weight (update family i a) + weight (family i) =
      tally weight family + weight a := by
  have rest : ∀ j ∈ univ.erase i, weight (update family i a j) =
      weight (family j) := by
    intro j member
    rw [update_of_ne (ne_of_mem_erase member)]
  have before := add_sum_erase univ (fun j => weight (family j)) (mem_univ i)
  have after := add_sum_erase univ (fun j => weight (update family i a j)) (mem_univ i)
  rw [sum_congr rfl rest, update_self] at after
  simp only [tally]
  omega

variable {family : ι → α} {i : ι} {weight : α → ℕ}

theorem tally_update_of_eq [DecidableEq ι] {a : α} (same : weight a = weight (family i)) :
    tally weight (update family i a) = tally weight family := by
  have := tally_update weight family i a
  omega

theorem tally_eq_zero_iff : tally weight family = 0 ↔ ∀ i, weight (family i) = 0 := by
  simp [tally]

theorem add_le_tally (weight : α → ℕ) (family : ι → α) {j : ι} (different : i ≠ j) :
    weight (family i) + weight (family j) ≤ tally weight family := by
  classical
  calc weight (family i) + weight (family j)
      = ∑ k ∈ {i, j}, weight (family k) := by rw [sum_pair different]
    _ ≤ tally weight family := sum_le_sum_of_subset (subset_univ _)

theorem le_tally (weight : α → ℕ) (family : ι → α) (i : ι) :
    weight (family i) ≤ tally weight family :=
  single_le_sum (fun j _ => Nat.zero_le (weight (family j))) (mem_univ i)

theorem existsUnique_of_tally_eq_one (one : tally weight family = 1) :
    ∃! i, 0 < weight (family i) := by
  have some_weighs : ∃ i, 0 < weight (family i) := by
    by_contra none_weighs
    push Not at none_weighs
    have zero := tally_eq_zero_iff.mpr fun i => Nat.le_zero.mp (none_weighs i)
    omega
  obtain ⟨i, weighs⟩ := some_weighs
  refine ⟨i, weighs, fun j weighs' => ?_⟩
  by_contra different
  have both := add_le_tally weight family different
  omega

theorem tally_eq_sum_erase [DecidableEq ι] (nothing : weight (family i) = 0) :
    tally weight family = ∑ j ∈ univ.erase i, weight (family j) := by
  rw [tally, ← add_sum_erase univ (fun j => weight (family j)) (mem_univ i), nothing, zero_add]
