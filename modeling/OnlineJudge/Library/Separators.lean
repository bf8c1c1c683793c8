import Mathlib.Data.List.DropRight

/-!
# Lists cut at a separator

A loop that looks for the next separator, works on what stands before it and goes on behind it
visits the parts of `List.splitOn`; `cutInduction` follows such a loop.  A separator may also be a
word (`append_word_eq_iff`).
-/

namespace Separators

open List

variable {α : Type} [DecidableEq α] {separator : α} {part : List α}

section

variable (plain : separator ∉ part)
include plain

theorem forall_ne_of_not_mem :
    ∀ x ∈ part, decide (x ≠ separator) = true := fun _ mem =>
  decide_eq_true (ne_of_mem_of_not_mem mem plain)

theorem takeWhile_of_not_mem : part.takeWhile (· ≠ separator) = part :=
  List.takeWhile_eq_self_iff.mpr (forall_ne_of_not_mem plain)

theorem takeWhile_append (rest : List α) :
    (part ++ separator :: rest).takeWhile (· ≠ separator) = part := by
  rw [takeWhile_append_of_pos (forall_ne_of_not_mem plain),
    takeWhile_cons_of_neg (by simp), append_nil]

theorem dropWhile_append (rest : List α) :
    (part ++ separator :: rest).dropWhile (· ≠ separator) = separator :: rest := by
  rw [dropWhile_append_of_pos (forall_ne_of_not_mem plain), dropWhile_cons_of_neg (by simp)]

end

theorem exists_cut (separator : α) (xs : List α) :
    ∃ first, separator ∉ first ∧ xs.takeWhile (· ≠ separator) = first ∧
      (xs = first ∨ ∃ rest, xs = first ++ separator :: rest) := by
  induction xs with
  | nil => exact ⟨[], not_mem_nil, rfl, .inl rfl⟩
  | cons x xs ih =>
    by_cases here : x = separator
    · exact ⟨[], not_mem_nil, by simp [here], .inr ⟨xs, by rw [here, nil_append]⟩⟩
    obtain ⟨first, plain, taken, whole⟩ := ih
    refine ⟨x :: first, ?_, ?_, ?_⟩
    · rw [mem_cons, not_or]
      exact ⟨Ne.symm here, plain⟩
    · rw [takeWhile_cons_of_pos (by simpa using here), taken]
    · rcases whole with rfl | ⟨rest, rfl⟩
      · exact .inl rfl
      · exact .inr ⟨rest, rfl⟩

theorem cutInduction {motive : List α → Prop} (separator : α)
    (last : ∀ part, separator ∉ part → motive part)
    (cut : ∀ part rest, separator ∉ part → motive rest → motive (part ++ separator :: rest))
    (xs : List α) : motive xs := by
  induction size : xs.length using Nat.strong_induction_on generalizing xs with
  | h size' ih =>
    obtain ⟨part, plain, -, same | ⟨rest, rfl⟩⟩ := exists_cut separator xs
    · rw [same]
      exact last part plain
    · refine cut part rest plain (ih rest.length ?_ rest rfl)
      rw [← size, length_append, length_cons]
      omega

theorem not_mem_of_mem_splitOn {xs : List α} (mem : part ∈ xs.splitOn separator) :
    separator ∉ part := by
  induction xs using cutInduction separator with
  | last first plain =>
    rw [splitOn_eq_singleton plain, mem_singleton] at mem
    rwa [mem]
  | cut first rest plain ih =>
    rw [splitOn_append_cons_self_of_not_mem plain, mem_cons] at mem
    rcases mem with rfl | later
    · exact plain
    · exact ih later

omit [DecidableEq α] in
theorem rdropWhile_append_cons {p : α → Bool} {x : α} (stays : p x = false) (front back : List α) :
    (front ++ x :: back).rdropWhile p = front ++ x :: back.rdropWhile p := by
  induction back using List.reverseRecOn with
  | nil => rw [rdropWhile_concat_neg _ _ _ (by simp [stays]), rdropWhile_nil]
  | append_singleton back last ih =>
    rw [← cons_append, ← append_assoc, rdropWhile_concat, rdropWhile_concat, ih]
    split
    · rfl
    · simp

omit [DecidableEq α] in
theorem intercalate_concat (parts : List (List α)) (last : List α) :
    [separator].intercalate (parts ++ [last]) = parts.flatMap (· ++ [separator]) ++ last := by
  induction parts with
  | nil => simp
  | cons part parts ih =>
    rw [cons_append, intercalate_cons_of_ne_nil (by simp), ih, flatMap_cons]
    simp

theorem rdropWhile_flatMap {parts : List (List α)} (plain : ∀ part ∈ parts, separator ∉ part) :
    (parts.flatMap (· ++ [separator])).rdropWhile (· = separator) =
      [separator].intercalate (parts.rdropWhile (·.isEmpty)) := by
  induction parts using List.reverseRecOn with
  | nil => simp
  | append_singleton parts last ih =>
    have before : ∀ part ∈ parts, separator ∉ part :=
      fun part mem => plain part (mem_append_left _ mem)
    have closed : (parts ++ [last]).flatMap (· ++ [separator]) =
        parts.flatMap (· ++ [separator]) ++ last ++ [separator] := by simp
    rw [closed, rdropWhile_concat_pos _ _ _ (by simp), rdropWhile_concat]
    rcases eq_nil_or_concat' last with rfl | ⟨front, x, rfl⟩
    · rw [append_nil, if_pos isEmpty_nil]
      exact ih before
    have other : x ≠ separator := by
      rintro rfl
      exact plain _ (mem_append_right _ mem_cons_self) (by simp)
    rw [if_neg (by simp), intercalate_concat, ← append_assoc,
      rdropWhile_concat_neg _ _ _ (by simpa using other)]

section Word

variable {mark : α} {word : List α}

omit [DecidableEq α]

theorem eq_nil_or_word_of_append (once : mark ∉ word) {front rest rest' : List α}
    (same : mark :: word ++ rest = front ++ (mark :: word ++ rest')) :
    front = [] ∨ ∃ between, front = mark :: word ++ between := by
  rcases List.append_eq_append_iff.mp same with ⟨between, whole, -⟩ | ⟨back, whole, behind⟩
  · exact .inr ⟨between, whole⟩
  cases back with
  | nil => exact .inr ⟨[], by rw [append_nil] at whole ⊢; exact whole.symm⟩
  | cons first =>
    obtain rfl : mark = first := (List.cons.inj behind).1
    cases front with
    | nil => exact .inl rfl
    | cons =>
      -- the word would begin again inside itself
      have inside := (List.cons.inj whole).2
      exact absurd (inside ▸ mem_append_right _ mem_cons_self) once

theorem append_word_eq_iff (once : mark ∉ word) {first second first' second' : List α} :
    first ++ (mark :: word) ++ second = first' ++ (mark :: word) ++ second' ↔
      first = first' ∧ second = second' ∨
      (∃ between, first = first' ++ (mark :: word) ++ between ∧
        second' = between ++ (mark :: word) ++ second) ∨
      ∃ between, first' = first ++ (mark :: word) ++ between ∧
        second = between ++ (mark :: word) ++ second' := by
  constructor
  · intro same
    rw [append_assoc, append_assoc] at same
    rcases List.append_eq_append_iff.mp same with ⟨front, rfl, later⟩ | ⟨front, rfl, later⟩
    · rcases eq_nil_or_word_of_append once later with rfl | ⟨between, rfl⟩
      · exact .inl ⟨(append_nil _).symm, append_cancel_left later⟩
      · refine .inr (.inr ⟨between, by simp, ?_⟩)
        simpa using later
    · rcases eq_nil_or_word_of_append once later with rfl | ⟨between, rfl⟩
      · exact .inl ⟨append_nil _, (append_cancel_left later).symm⟩
      · refine .inr (.inl ⟨between, by simp, ?_⟩)
        simpa using later
  · rintro (⟨rfl, rfl⟩ | ⟨between, rfl, rfl⟩ | ⟨between, rfl, rfl⟩)
    · rfl
    · simp
    · simp

end Word

end Separators
