import OnlineJudge.Judger.Run
import OnlineJudge.Library.Separators

/-!
# Comparing outputs

`NormalizeOutput` (`judger.hpp`) is a loop over positions (`scanOutput`); `normalizeOutput` follows
the bytes instead, and both are the same function (`scanOutput_eq`).
-/

namespace OnlineJudge.Judger

open List

def findLineEnd (output : Bytes) (lineStart : Nat) : Nat :=
  lineStart + ((output.drop lineStart).takeWhile (· ≠ 10)).length

def isBlank (c : UInt8) : Bool := c = 32 || c = 9 || c = 13

/-- The inner loop: `content_end` moves back to `line_start` over blanks. -/
def trimContentEnd (output : Bytes) (lineStart : Nat) : Nat → Nat
  | 0 => 0
  | contentEnd + 1 =>
    if contentEnd + 1 > lineStart ∧ (output[contentEnd]?.any isBlank) = true then
      trimContentEnd output lineStart contentEnd
    else contentEnd + 1

def scanLines (output : Bytes) (lineStart : Nat) : Bytes :=
  if lineStart < output.length then
    let lineEnd := findLineEnd output lineStart
    let contentEnd := trimContentEnd output lineStart lineEnd
    (output.drop lineStart).take (contentEnd - lineStart) ++
      10 :: scanLines output (lineEnd + if lineEnd < output.length then 1 else 0)
  else []
termination_by output.length - lineStart
decreasing_by
  have : lineStart ≤ findLineEnd output lineStart := Nat.le_add_right _ _
  split <;> omega

def scanOutput (output : Bytes) : Bytes := (scanLines output 0).rdropWhile (· = 10)

theorem stripLine_reverse (line : Bytes) : stripLine line.reverse = line.rdropWhile isBlank := rfl

variable {line : Bytes}

theorem trimContentEnd_line {output : Bytes} {lineStart : Nat} (rest : Bytes)
    (here : output.drop lineStart = line ++ rest) :
    trimContentEnd output lineStart (lineStart + line.length) =
      lineStart + (line.rdropWhile isBlank).length := by
  induction line using List.reverseRecOn generalizing rest with
  | nil => cases lineStart <;> simp [trimContentEnd]
  | append_singleton line c ih =>
    have last : output[lineStart + line.length]? = some c := by
      rw [← List.getElem?_drop, here, append_assoc, List.getElem?_append_right le_rfl]
      simp
    rw [length_append, length_singleton, ← Nat.add_assoc, trimContentEnd, last, rdropWhile_concat]
    by_cases blank : isBlank c = true
    · rw [if_pos ⟨by omega, blank⟩, if_pos blank]
      exact ih (c :: rest) (by simpa using here)
    · rw [if_neg fun both => blank both.2, if_neg blank, length_append,
        length_singleton, Nat.add_assoc]

theorem normalizeLines_append (plain : 10 ∉ line) (before rest : Bytes) :
    normalizeLines before (line ++ rest) = normalizeLines (line.reverse ++ before) rest := by
  induction line generalizing before with
  | nil => rfl
  | cons c line ih =>
    obtain ⟨head, tail⟩ := ne_and_not_mem_of_not_mem_cons plain
    rw [cons_append, normalizeLines, if_neg head.symm, ih tail, reverse_cons,
      append_assoc, singleton_append]

theorem normalizeLines_last (plain : 10 ∉ line) (nonempty : line ≠ []) :
    normalizeLines [] line = line.rdropWhile isBlank ++ [10] := by
  have taken := normalizeLines_append plain [] []
  simp only [append_nil] at taken
  rw [taken, normalizeLines, if_neg (by simpa using nonempty), stripLine_reverse]

theorem normalizeLines_cut (plain : 10 ∉ line) (rest : Bytes) :
    normalizeLines [] (line ++ 10 :: rest) =
      line.rdropWhile isBlank ++ 10 :: normalizeLines [] rest := by
  rw [normalizeLines_append plain, append_nil, normalizeLines, if_pos rfl, stripLine_reverse]

theorem scanLines_eq (output : Bytes) (lineStart : Nat) :
    scanLines output lineStart = normalizeLines [] (output.drop lineStart) := by
  fun_induction scanLines output lineStart with
  | case1 lineStart inside lineEnd contentEnd ih =>
    obtain ⟨line, plain, isLine, whole⟩ := Separators.exists_cut 10 (output.drop lineStart)
    have ends : lineEnd = lineStart + line.length := by
      rw [← isLine]
      rfl
    obtain ⟨later, here⟩ : ∃ later, output.drop lineStart = line ++ later := by
      rcases whole with all | ⟨rest, cut⟩
      · exact ⟨[], by simpa using all⟩
      · exact ⟨10 :: rest, cut⟩
    have size : output.length - lineStart = line.length + later.length := by
      rw [← length_drop, here, length_append]
    have content : (output.drop lineStart).take (contentEnd - lineStart) =
        line.rdropWhile isBlank := by
      have ended : contentEnd = lineStart + (line.rdropWhile isBlank).length := by
        rw [← trimContentEnd_line later here, ← ends]
      have front : line.rdropWhile isBlank <+: output.drop lineStart := by
        rw [here]
        exact ( rdropWhile_prefix _ _).trans (prefix_append line later)
      rw [ended, Nat.add_sub_cancel_left]
      exact (List.prefix_iff_eq_take.mp front).symm
    simp only [dite_eq_ite] at ih
    rw [content, ih]
    rcases whole with all | ⟨rest, cut⟩
    · -- the last line ends with the output
      have none_later : later = [] := by
        rw [all] at here
        simpa using here.symm
      rw [none_later, length_nil] at size
      rw [if_neg (by omega), drop_eq_nil_of_le (by omega), all,
        normalizeLines_last plain (by rintro rfl; simp at size; omega), normalizeLines,
        if_pos rfl]
    · have closed : later = 10 :: rest := append_cancel_left (here.symm.trans cut)
      rw [closed, length_cons] at size
      have behind : output.drop (lineEnd + 1) = rest := by
        rw [ends, Nat.add_assoc, ← drop_drop, cut, ← drop_drop, drop_left, drop_one, tail_cons]
      rw [if_pos (by omega), behind, cut, normalizeLines_cut plain]
  | case2 => rw [drop_eq_nil_of_le (by omega), normalizeLines, if_pos rfl]

theorem scanOutput_eq (output : Bytes) : scanOutput output = normalizeOutput output := by
  rw [scanOutput, scanLines_eq, drop_zero]
  rfl

def outputLines (output : Bytes) : List Bytes :=
  ((output.splitOn 10).map (·.rdropWhile isBlank)).rdropWhile (·.isEmpty)

theorem newline_not_mem_stripped {output : Bytes}
    (mem : line ∈ (output.splitOn 10).map (·.rdropWhile isBlank)) : 10 ∉ line := by
  obtain ⟨whole, isLine, rfl⟩ := List.mem_map.mp mem
  exact fun mem =>
    Separators.not_mem_of_mem_splitOn isLine (( rdropWhile_prefix _ _).subset mem)

section

variable (output : Bytes)

theorem flatMap_lines_eq :
    ∃ tail, (tail = [] ∨ tail = [10]) ∧
      ((output.splitOn 10).map (·.rdropWhile isBlank)).flatMap (· ++ [10]) =
        normalizeLines [] output ++ tail := by
  induction output using Separators.cutInduction (10 : UInt8) with
  | last line plain =>
    rw [splitOn_eq_singleton plain]
    rcases eq_or_ne line [] with rfl | nonempty
    · exact ⟨[10], .inr rfl, by simp [normalizeLines]⟩
    · exact ⟨[], .inl rfl, by simp [normalizeLines_last plain nonempty]⟩
  | cut line rest plain ih =>
    obtain ⟨tail, short, same⟩ := ih
    refine ⟨tail, short, ?_⟩
    rw [splitOn_append_cons_self_of_not_mem plain, map_cons, flatMap_cons, same,
      normalizeLines_cut plain]
    simp

theorem rdropWhile_normalizeLines :
    (normalizeLines [] output).rdropWhile (· = 10) =
      (((output.splitOn 10).map (·.rdropWhile isBlank)).flatMap (· ++ [10])).rdropWhile
        (· = 10) := by
  obtain ⟨tail, rfl | rfl, same⟩ := flatMap_lines_eq output
  · rw [same, append_nil]
  · rw [same, rdropWhile_concat_pos _ _ _ (by simp)]

theorem normalizeOutput_eq_intercalate :
    normalizeOutput output = [10].intercalate (outputLines output) := by
  calc
    normalizeOutput output = (normalizeLines [] output).rdropWhile (· = 10) := rfl
    _ = _ := rdropWhile_normalizeLines output
    _ = _ := Separators.rdropWhile_flatMap fun _ mem => newline_not_mem_stripped mem

theorem outputLines_subset : outputLines output ⊆ (output.splitOn 10).map (·.rdropWhile isBlank) :=
  ( rdropWhile_prefix _ _).subset

theorem map_outputLines : (outputLines output).map (·.rdropWhile isBlank) = outputLines output := by
  refine (map_congr_left fun line mem => ?_).trans (map_id _)
  obtain ⟨whole, -, rfl⟩ := List.mem_map.mp (outputLines_subset output mem)
  exact rdropWhile_idempotent _ _

theorem outputLines_normalizeOutput :
    outputLines (normalizeOutput output) = outputLines output := by
  rw [normalizeOutput_eq_intercalate]
  rcases eq_or_ne (outputLines output) [] with none | some
  · rw [none]
    rfl
  have plain : ∀ line ∈ outputLines output, 10 ∉ line :=
    fun line mem => newline_not_mem_stripped (outputLines_subset output mem)
  calc
    outputLines ([10].intercalate (outputLines output)) =
        ((outputLines output).map (·.rdropWhile isBlank)).rdropWhile (·.isEmpty) := by
      rw [outputLines, splitOn_intercalate 10 plain some]
    _ = (outputLines output).rdropWhile (·.isEmpty) := by rw [map_outputLines]
    _ = outputLines output := rdropWhile_idempotent _ _

end

/-- Two outputs are normalized alike exactly when they have the same lines. -/
theorem normalizeOutput_eq_iff (a b : Bytes) :
    (normalizeOutput a = normalizeOutput b ↔ outputLines a = outputLines b) ∧
      normalizeOutput (normalizeOutput a) = normalizeOutput a := by
  refine ⟨⟨fun same => ?_, fun same => ?_⟩, ?_⟩
  · rw [← outputLines_normalizeOutput a, same, outputLines_normalizeOutput b]
  · rw [normalizeOutput_eq_intercalate, normalizeOutput_eq_intercalate, same]
  · rw [normalizeOutput_eq_intercalate (normalizeOutput a), outputLines_normalizeOutput,
      normalizeOutput_eq_intercalate a]

example : normalizeOutput (text "1 \r\n\n2\t\n \n") = text "1\n\n2" := by decide +kernel

end OnlineJudge.Judger
