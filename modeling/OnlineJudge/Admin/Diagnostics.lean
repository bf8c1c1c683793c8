import Mathlib
import OnlineJudge.Common.Messages
import OnlineJudge.Library.Separators

/-!
# The tail of a diagnostic file

`ReadDiagnosticTail` (`oj_admin_service_impl.cpp`) reads a file line by line and drops lines from
the front while they exceed one of two budgets.
-/

namespace OnlineJudge.Admin

open List Separators

def diagnosticMaxLines : Nat := 2000

def diagnosticMaxBytes : Nat := 2 * 1024 * 1024

/-- The variables of the loop. -/
structure Tail where
  lines : List Bytes := []
  bytes : Nat := 0
  dropped : Bool := false

/-- `std::getline`, with what is left of the input; nothing is read at its end. -/
def getline (input : Bytes) : Option (Bytes × Bytes) :=
  if input.isEmpty then none
  else some (input.takeWhile (· ≠ 10), (input.dropWhile (· ≠ 10)).tail)

/-- The inner loop.  `bytes` is zero once the deque is empty, so `front` has an element. -/
def evict : List Bytes → Nat → Bool → Tail
  | [], bytes, dropped => ⟨[], bytes, dropped⟩
  | front :: rest, bytes, dropped =>
    if (front :: rest).length > diagnosticMaxLines ∨ bytes > diagnosticMaxBytes then
      evict rest (bytes - (front.length + 1)) true
    else ⟨front :: rest, bytes, dropped⟩

def Tail.push (tail : Tail) (line : Bytes) : Tail :=
  evict (tail.lines ++ [line]) (tail.bytes + (line.length + 1)) tail.dropped

theorem length_lt_of_getline {input line rest : Bytes}
    (read : getline input = some (line, rest)) : rest.length < input.length := by
  unfold getline at read
  split at read
  case isTrue => cases read
  case isFalse nonempty =>
    obtain ⟨-, rfl⟩ := Prod.mk.inj (Option.some.inj read)
    have positive : 0 < input.length := List.length_pos_iff.mpr (by simpa using nonempty)
    have shorter := (input.dropWhile_sublist (· ≠ 10)).length_le
    rw [length_tail]
    omega

def readLines (tail : Tail) (input : Bytes) : Tail :=
  match _ : getline input with
  | none => tail
  | some (line, rest) => readLines (tail.push line) rest
termination_by input.length
decreasing_by exact length_lt_of_getline ‹_›

structure Diagnostic where
  content : Bytes
  returnedLines : UInt32
  truncated : Bool

/-- `ReadDiagnosticTail` on the bytes that are read and `bad()` after them; `none` where the file
does not open. -/
def readDiagnosticTail (file : Option (Bytes × Bool)) : Option Diagnostic :=
  file.map fun (input, bad) =>
    let tail := readLines {} input
    { content := tail.lines.flatMap (· ++ [10])
      returnedLines := UInt32.ofNat tail.lines.length
      truncated := bad || tail.dropped }

/-- The lines of a file: its parts between newlines, without an empty part at its end. -/
def fileLines (content : Bytes) : List Bytes :=
  let parts := content.splitOn 10
  if parts.getLast? = some [] then parts.dropLast else parts

/-- The bytes of lines, with one extra byte per line. -/
def size (lines : List Bytes) : Nat := (lines.map (·.length + 1)).sum

def Fits (lines : List Bytes) : Prop :=
  lines.length ≤ diagnosticMaxLines ∧ size lines ≤ diagnosticMaxBytes

structure IsLongestTail (tail lines : List Bytes) : Prop where
  suffix : tail <:+ lines
  fits : Fits tail
  longest : ∀ other, other <:+ lines → Fits other → other.length ≤ tail.length

/-- What the loop knows after it has read `seen`. -/
structure Kept (seen : List Bytes) (tail : Tail) : Prop where
  lines : IsLongestTail tail.lines seen
  bytes : tail.bytes = size tail.lines
  dropped : tail.dropped = true ↔ tail.lines ≠ seen

variable {seen lines : List Bytes} {tail : Tail} {line : Bytes}

theorem size_append (lines : List Bytes) (line : Bytes) :
    size (lines ++ [line]) = size lines + (line.length + 1) := by
  simp [size]

theorem fits_of_append (fits : Fits (lines ++ [line])) : Fits lines := by
  have ⟨count, bytes⟩ := fits
  rw [length_append] at count
  rw [size_append] at bytes
  exact ⟨by omega, by omega⟩

theorem isLongestTail_self (fits : Fits lines) : IsLongestTail lines lines :=
  ⟨suffix_rfl, fits, fun _ inside _ => inside.length_le⟩

theorem fits_nil : Fits [] := ⟨Nat.zero_le _, Nat.zero_le _⟩

theorem evict_spec (lines : List Bytes) (dropped : Bool) :
    IsLongestTail (evict lines (size lines) dropped).lines lines ∧
      (evict lines (size lines) dropped).bytes = size (evict lines (size lines) dropped).lines ∧
      ((evict lines (size lines) dropped).dropped = true ↔
        dropped = true ∨ (evict lines (size lines) dropped).lines ≠ lines) := by
  induction lines generalizing dropped with
  | nil => exact ⟨isLongestTail_self fits_nil, rfl, by simp [evict]⟩
  | cons front rest ih =>
    rw [evict]
    split
    case isTrue tooLong =>
      have left : size (front :: rest) - (front.length + 1) = size rest := by
        simp [size]
      rw [left]
      obtain ⟨found, bytes, gone⟩ := ih true
      refine ⟨⟨found.suffix.trans (suffix_cons front rest), found.fits, ?_⟩, bytes, ?_⟩
      · intro other inside fits
        rcases suffix_cons_iff.mp inside with rfl | inside
        · have ⟨count, bytes⟩ := fits
          omega
        · exact found.longest other inside fits
      · have shorter := found.suffix.length_le
        have changed : (evict rest (size rest) true).lines ≠ front :: rest := by
          intro same
          rw [same, length_cons] at shorter
          omega
        exact iff_of_true (gone.mpr (.inl rfl)) (.inr changed)
    case isFalse short =>
      rw [not_or, not_lt, not_lt] at short
      exact ⟨isLongestTail_self short, rfl, by simp⟩

theorem push_kept (kept : Kept seen tail) (line : Bytes) :
    Kept (seen ++ [line]) (tail.push line) := by
  have bytes : tail.bytes + (line.length + 1) = size (tail.lines ++ [line]) := by
    rw [kept.bytes, size_append]
  unfold Tail.push
  rw [bytes]
  obtain ⟨found, counted, gone⟩ := evict_spec (tail.lines ++ [line]) tail.dropped
  have inside : tail.lines ++ [line] <:+ seen ++ [line] :=
    suffix_append_inj_of_length_eq rfl |>.mpr ⟨kept.lines.suffix, rfl⟩
  refine ⟨⟨found.suffix.trans inside, found.fits, ?_⟩, counted, ?_⟩
  · intro other suffix fits
    rcases suffix_concat_iff.mp suffix with rfl | ⟨before, rfl, earlier⟩
    · exact Nat.zero_le _
    have shorter := kept.lines.longest before earlier (fits_of_append fits)
    have nested := suffix_of_suffix_length_le earlier kept.lines.suffix shorter
    refine found.longest _ ?_ fits
    exact suffix_append_inj_of_length_eq rfl |>.mpr ⟨nested, rfl⟩
  · rw [gone, kept.dropped, ← not_and_or, not_iff_not]
    constructor
    · rintro ⟨same, same'⟩
      rw [same', same]
    · intro same
      have whole := inside.eq_of_length_le (same ▸ found.suffix.length_le)
      exact ⟨append_cancel_right whole, same.trans whole.symm⟩

theorem readLines_of_getline {input rest : Bytes} (read : getline input = some (line, rest)) :
    readLines tail input = readLines (tail.push line) rest := by
  rw [readLines]
  split
  case h_1 none => cases read.symm.trans none
  case h_2 =>
    obtain ⟨rfl, rfl⟩ := Prod.mk.inj (Option.some.inj (‹getline input = _›.symm.trans read))
    rfl

theorem readLines_nil : readLines tail [] = tail := by
  rw [readLines]
  rfl

variable {part : Bytes}

theorem getline_append (plain : 10 ∉ part) (rest : Bytes) :
    getline (part ++ 10 :: rest) = some (part, rest) := by
  rw [getline, if_neg (by simp), takeWhile_append plain, dropWhile_append plain, tail_cons]

theorem getline_last (plain : 10 ∉ part) (nonempty : part ≠ []) :
    getline part = some (part, []) := by
  rw [getline, if_neg (by simpa using nonempty), takeWhile_of_not_mem plain,
    dropWhile_eq_nil_iff.mpr (forall_ne_of_not_mem plain), tail_nil]

theorem fileLines_append (plain : 10 ∉ part) (rest : Bytes) :
    fileLines (part ++ 10 :: rest) = part :: fileLines rest := by
  simp only [fileLines, splitOn_append_cons_self_of_not_mem plain]
  have nonempty : rest.splitOn 10 ≠ [] := splitOn_ne_nil 10 rest
  rw [dropLast_cons_of_ne_nil nonempty, getLast?_cons_of_ne_nil nonempty, ← apply_ite (part :: ·)]

theorem fileLines_last (plain : 10 ∉ part) (nonempty : part ≠ []) : fileLines part = [part] := by
  simp [fileLines, splitOn_eq_singleton plain, nonempty]

theorem readLines_kept (input : Bytes) (kept : Kept seen tail) :
    Kept (seen ++ fileLines input) (readLines tail input) := by
  induction input using cutInduction (10 : UInt8) generalizing seen tail with
  | last part plain =>
    by_cases empty : part = []
    · rw [empty, readLines_nil]
      rwa [show fileLines [] = [] from rfl, append_nil]
    rw [readLines_of_getline (getline_last plain empty), readLines_nil, fileLines_last plain empty]
    exact push_kept kept part
  | cut part rest plain ih =>
    rw [readLines_of_getline (getline_append plain rest), fileLines_append plain, append_cons]
    exact ih (push_kept kept part)

theorem readDiagnosticTail_longest_tail (content : Bytes) :
    ∃ diagnostic lines, readDiagnosticTail (some (content, false)) = some diagnostic ∧
      IsLongestTail lines (fileLines content) ∧
      diagnostic.content = lines.flatMap (· ++ [10]) ∧
      diagnostic.returnedLines.toNat = lines.length ∧
      (diagnostic.truncated = true ↔ lines ≠ fileLines content) := by
  have start : Kept [] {} := ⟨isLongestTail_self fits_nil, rfl, by simp⟩
  have kept := readLines_kept content start
  rw [nil_append] at kept
  refine ⟨_, (readLines {} content).lines, rfl, kept.lines, rfl, ?_, kept.dropped⟩
  have count : (readLines {} content).lines.length ≤ 2000 := kept.lines.fits.1
  exact UInt32.toNat_ofNat_of_lt' (count.trans_lt (by decide))

end OnlineJudge.Admin
