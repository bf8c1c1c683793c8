import Mathlib.Data.List.Nodup

/-!
# Resources with one owner

`OwnedOnce`: a resource that exists is in one place, any other in none.
-/

universe u

variable {R : Type u} [DecidableEq R]

def OwnedOnce (owners : R → Nat) (live : R → Bool) : Prop :=
  ∀ r, owners r = if live r then 1 else 0

def destroyAll (live : R → Bool) (gone : List R) : R → Bool := fun r => live r && !gone.contains r

def createAll (live : R → Bool) (new : List R) : R → Bool := fun r => live r || new.contains r

namespace OwnedOnce

variable {owners owners' : R → Nat} {live : R → Bool}

theorem destroy (owned : OwnedOnce owners live) {gone : List R}
    (taken : ∀ r, owners' r + gone.count r = owners r) :
    OwnedOnce owners' (destroyAll live gone) := by
  intro r
  have before := owned r
  have step := taken r
  by_cases mem : r ∈ gone
  · have counted : 0 < gone.count r := List.count_pos_iff.mpr mem
    have dead : destroyAll live gone r = false := by simp [destroyAll, mem]
    rw [dead]
    split at before <;> simp only [Bool.false_eq_true, if_false] <;> omega
  · have counted : gone.count r = 0 := List.count_eq_zero.mpr mem
    have same : destroyAll live gone r = live r := by simp [destroyAll, mem]
    rw [same, ← before]
    omega

theorem create (owned : OwnedOnce owners live) {new : List R} (fresh : ∀ r ∈ new, live r = false)
    (distinct : new.Nodup) (given : ∀ r, owners' r = owners r + new.count r) :
    OwnedOnce owners' (createAll live new) := by
  intro r
  have before := owned r
  have step := given r
  by_cases mem : r ∈ new
  · have born : createAll live new r = true := by simp [createAll, mem]
    rw [fresh r mem] at before
    rw [born, step, before, List.count_eq_one_of_mem distinct mem]
    rfl
  · have counted : new.count r = 0 := List.count_eq_zero.mpr mem
    have same : createAll live new r = live r := by simp [createAll, mem]
    rw [same, step, counted, before, Nat.add_zero]

end OwnedOnce
