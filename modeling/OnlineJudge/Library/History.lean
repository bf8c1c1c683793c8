import Mathlib.Logic.Function.Basic

/-!
# The versions of a datum

The versions of a datum that is replaced as a whole, numbered in the order of the commits.
-/

universe u

/-- All versions that a datum has had; `version` is of no meaning past `last`. -/
structure History (D : Type u) where
  version : Nat → D
  last : Nat

namespace History

variable {D : Type u}

def start (d : D) : History D := ⟨fun _ => d, 0⟩

variable (h : History D)

def current : D := h.version h.last

def commit (d : D) : History D :=
  ⟨Function.update h.version (h.last + 1) d, h.last + 1⟩

def Was (v : Nat) (d : D) : Prop := v ≤ h.last ∧ h.version v = d

def Since (v : Nat) (d : D) : Prop := ∃ w, v ≤ w ∧ h.Was w d

def Later (h h' : History D) : Prop := ∀ ⦃v d⦄, h.Was v d → h'.Was v d

theorem was_current : h.Was h.last h.current := ⟨Nat.le_refl _, rfl⟩

theorem was_commit (d : D) : (h.commit d).Was (h.commit d).last d :=
  ⟨Nat.le_refl _, Function.update_self ..⟩

theorem later_commit (d : D) : h.Later (h.commit d) := by
  rintro v d ⟨bound, rfl⟩
  exact ⟨Nat.le_succ_of_le bound, Function.update_of_ne (by omega) ..⟩

theorem was_or_eq_of_commit {v : Nat} {d e : D} (was : (h.commit d).Was v e) :
    h.Was v e ∨ e = d := by
  obtain ⟨bound, rfl⟩ := was
  rcases Nat.lt_or_eq_of_le bound with old | rfl
  · exact .inl ⟨Nat.le_of_lt_succ old, (Function.update_of_ne (Nat.ne_of_lt old) ..).symm⟩
  · exact .inr (Function.update_self ..)

theorem Later.refl : h.Later h := fun _ _ was => was

variable {h : History D} {d : D}

theorem Later.last_le {h' : History D} (later : h.Later h') : h.last ≤ h'.last :=
  (later h.was_current).1

theorem Was.since {v w : Nat} (was : h.Was w d) (order : v ≤ w) : h.Since v d :=
  ⟨w, order, was⟩

theorem Since.later {h' : History D} {v : Nat} (since : h.Since v d) (later : h.Later h') :
    h'.Since v d := by
  obtain ⟨w, order, was⟩ := since
  exact ⟨w, order, later was⟩

theorem Since.eq_current (since : h.Since h.last d) : d = h.current := by
  obtain ⟨w, order, bound, rfl⟩ := since
  rw [current, Nat.le_antisymm bound order]

end History
