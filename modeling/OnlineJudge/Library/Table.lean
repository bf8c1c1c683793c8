import Mathlib.Data.List.Nodup
import Mathlib.Data.List.Count

/-!
# Tables with a primary key

A table is a list of rows no two of which have the same key.  What `find` returns is decided by
membership alone, and counting rows after a write needs no side condition.
-/

@[ext]
structure Table (R : Type) (key : R → Nat) where
  rows : List R
  unique : (rows.map key).Nodup

namespace Table

open List

variable {R : Type} {key : R → Nat} (table : Table R key) {row old : R} {k : Nat}

def find (k : Nat) : Option R := table.rows.find? fun row => key row = k

def count (p : R → Bool) : Nat := table.rows.countP p

def insert (row : R) : Table R key :=
  if fresh : key row ∉ table.rows.map key then
    ⟨row :: table.rows, List.nodup_cons.mpr ⟨fresh, table.unique⟩⟩
  else table

/-- An update of all columns of the row with the key of `row`. -/
def update (row : R) : Table R key where
  rows := table.rows.map fun old => if key old = key row then row else old
  unique := by
    have keys : (table.rows.map fun old => if key old = key row then row else old).map key =
        table.rows.map key := by
      rw [map_map]
      refine map_congr_left fun old _ => ?_
      dsimp only [Function.comp_apply]
      split
      case isTrue same => exact same.symm
      case isFalse => rfl
    rw [keys]
    exact table.unique

def keep (p : R → Bool) : Table R key where
  rows := table.rows.filter p
  unique := table.unique.sublist (List.filter_sublist.map key)

variable {table}

theorem eq_of_key {first second : R} (mem : first ∈ table.rows) (mem' : second ∈ table.rows)
    (same : key first = key second) : first = second :=
  inj_on_of_nodup_map table.unique mem mem' same

theorem find_eq_some_iff : table.find k = some row ↔ row ∈ table.rows ∧ key row = k := by
  constructor
  · intro found
    exact ⟨mem_of_find?_eq_some found, by simpa using List.find?_some found⟩
  · rintro ⟨mem, rfl⟩
    cases found : table.find (key row) with
    | none => simpa using List.find?_eq_none.mp found row mem
    | some other =>
      have same : key other = key row := by simpa using List.find?_some found
      rw [eq_of_key (mem_of_find?_eq_some found) mem same]

theorem find_eq_none_iff : table.find k = none ↔ ∀ row ∈ table.rows, key row ≠ k := by
  simp [find, List.find?_eq_none]

theorem find_key (mem : row ∈ table.rows) : table.find (key row) = some row :=
  find_eq_some_iff.mpr ⟨mem, rfl⟩

variable {p : R → Bool} {other : R}

theorem mem_map_filter :
    k ∈ (table.rows.filter p).map key ↔ ∃ row, table.find k = some row ∧ p row = true := by
  simp only [mem_map, mem_filter, find_eq_some_iff]
  constructor
  · rintro ⟨row, ⟨mem, passes⟩, keyed⟩
    exact ⟨row, ⟨mem, keyed⟩, passes⟩
  · rintro ⟨row, ⟨mem, keyed⟩, passes⟩
    exact ⟨row, ⟨mem, passes⟩, keyed⟩

theorem find_congr {table' : Table R key}
    (same : ∀ row, key row = k → (row ∈ table'.rows ↔ row ∈ table.rows)) :
    table'.find k = table.find k := by
  ext row
  rw [find_eq_some_iff, find_eq_some_iff]
  constructor
  · rintro ⟨mem, keyed⟩
    exact ⟨(same row keyed).mp mem, keyed⟩
  · rintro ⟨mem, keyed⟩
    exact ⟨(same row keyed).mpr mem, keyed⟩

section

variable (fresh : table.find (key row) = none)
include fresh

theorem rows_insert : (table.insert row).rows = row :: table.rows := by
  have new : key row ∉ table.rows.map key := by
    simpa using find_eq_none_iff.mp fresh
  simp [insert, new]

theorem mem_insert : other ∈ (table.insert row).rows ↔ other = row ∨ other ∈ table.rows := by
  rw [rows_insert fresh, mem_cons]

theorem find_insert_self : (table.insert row).find (key row) = some row :=
  find_eq_some_iff.mpr ⟨(mem_insert fresh).mpr (.inl rfl), rfl⟩

theorem find_insert_of_ne (other : k ≠ key row) : (table.insert row).find k = table.find k := by
  refine find_congr fun found keyed => ?_
  rw [mem_insert fresh]
  constructor
  · rintro (rfl | mem)
    · exact absurd keyed.symm other
    · exact mem
  · exact .inr

theorem count_insert (p : R → Bool) :
    (table.insert row).count p = table.count p + if p row then 1 else 0 := by
  rw [count, rows_insert fresh, countP_cons, count]

end

section

variable (found : table.find (key row) = some old)
include found

theorem mem_update :
    other ∈ (table.update row).rows ↔ other = row ∨ (other ∈ table.rows ∧ key other ≠ key row) := by
  simp only [update, mem_map]
  constructor
  · rintro ⟨before, mem, rfl⟩
    by_cases same : key before = key row
    · exact .inl (if_pos same)
    · rw [if_neg same]
      exact .inr ⟨mem, same⟩
  · rintro (rfl | ⟨mem, different⟩)
    · obtain ⟨mem, same⟩ := find_eq_some_iff.mp found
      exact ⟨old, mem, if_pos same⟩
    · exact ⟨other, mem, if_neg different⟩

theorem find_update_self : (table.update row).find (key row) = some row :=
  find_eq_some_iff.mpr ⟨(mem_update found).mpr (.inl rfl), rfl⟩

theorem find_update_of_ne (other : k ≠ key row) : (table.update row).find k = table.find k := by
  refine find_congr fun found' keyed => ?_
  rw [mem_update found]
  constructor
  · rintro (rfl | ⟨mem, _⟩)
    · exact absurd keyed.symm other
    · exact mem
  · intro mem
    exact .inr ⟨mem, keyed.trans_ne other⟩

theorem count_update (same : p row = p old) : (table.update row).count p = table.count p := by
  obtain ⟨member, keyed⟩ := find_eq_some_iff.mp found
  rw [count, update, countP_map, count]
  refine countP_congr fun other mem => ?_
  dsimp only [Function.comp_apply]
  split
  case isTrue mine => rw [eq_of_key mem member (mine.trans keyed.symm), same]
  case isFalse => rfl

end

theorem mem_keep : other ∈ (table.keep p).rows ↔ other ∈ table.rows ∧ p other = true := mem_filter

theorem count_keep {q : R → Bool} (kept : ∀ row ∈ table.rows, p row = true → q row = true) :
    (table.keep q).count p = table.count p := by
  rw [count, keep, countP_filter, count]
  refine countP_congr fun row mem => ?_
  have keeps := kept row mem
  cases counted : p row with
  | false => simp
  | true => simp [keeps counted]

theorem countP_key (mem : row ∈ table.rows) :
    table.rows.countP (fun other => key other = key row) = 1 := by
  have once : (table.rows.map key).count (key row) = 1 :=
    count_eq_one_of_mem table.unique (mem_map_of_mem mem)
  rw [List.count, countP_map] at once
  rw [← once]
  refine countP_congr fun other _ => ?_
  simp

/-- Erasing a row takes it from the count; rows that `p` does not count may go with it. -/
theorem count_keep_of_mem {q : R → Bool} (mem : row ∈ table.rows) (gone : q row = false)
    (counted : p row = true)
    (kept : ∀ other ∈ table.rows, key other ≠ key row → p other = true → q other = true) :
    (table.keep q).count p + 1 = table.count p := by
  have erased : table.rows.countP (fun other => p other && !q other) = 1 := by
    rw [← countP_key mem]
    refine countP_congr fun other mem' => ?_
    by_cases same : key other = key row
    · rw [eq_of_key mem' mem same]
      simp [counted, gone]
    have keeps := kept other mem' same
    cases isCounted : p other with
    | false => simp [same]
    | true => simp [same, keeps isCounted]
  rw [count, keep, count, countP_eq_countP_filter_add table.rows p q, ← erased, countP_filter]
  simp [countP_filter]

end Table
