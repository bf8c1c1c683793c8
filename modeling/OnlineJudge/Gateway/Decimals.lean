import Mathlib
import OnlineJudge.Common.Messages

/-!
# Decimal strings in range

`decimal_in_range` (`protobuf_codec.lua`) compares 64-bit integers as texts: by their length and
then byte by byte, once leading zeros are gone.
-/

namespace OnlineJudge.Gateway

open List

def isDecimal (value : Bytes) : Bool :=
  let digits := if value.head? = some 45 then value.tail else value
  !digits.isEmpty && digits.all fun c => 48 ≤ c && c ≤ 57

/-- `gsub("^0+", "")`, and `"0"` for the empty text. -/
def stripZeros (digits : Bytes) : Bytes :=
  let stripped := digits.dropWhile (· = 48)
  if stripped.isEmpty then [48] else stripped

def unsignedCompare (left right : Bytes) : Int :=
  let left := stripZeros left
  let right := stripZeros right
  if left.length ≠ right.length then (if left.length < right.length then -1 else 1)
  else if left = right then 0
  else if left < right then -1 else 1

def decimalInRange (value minimum maximum : Bytes) : Bool :=
  if !isDecimal value then false
  else if value.head? = some 45 then
    if minimum.head? ≠ some 45 then false
    else unsignedCompare value.tail minimum.tail ≤ 0
  else unsignedCompare value maximum ≤ 0

/-- The integer types of protobuf. -/
inductive IntegerType
  | int32 | sint32 | sfixed32 | uint32 | fixed32 | int64 | sint64 | sfixed64 | uint64 | fixed64
  deriving DecidableEq

def integerLimits : IntegerType → Bytes × Bytes
  | .int32 | .sint32 | .sfixed32 => (text "-2147483648", text "2147483647")
  | .uint32 | .fixed32 => (text "0", text "4294967295")
  | .int64 | .sint64 | .sfixed64 => (text "-9223372036854775808", text "9223372036854775807")
  | .uint64 | .fixed64 => (text "0", text "18446744073709551615")

def magnitude : Bytes → Nat
  | [] => 0
  | c :: rest => (c.toNat - 48) * 10 ^ rest.length + magnitude rest

def denoted (value : Bytes) : Int :=
  if value.head? = some 45 then -magnitude value.tail else magnitude value

abbrev Digits (digits : Bytes) : Prop := ∀ c ∈ digits, 48 ≤ c.toNat ∧ c.toNat ≤ 57

variable {digits left right : Bytes}

theorem digits_of_isDecimal {value : Bytes} (decimal : isDecimal value = true) :
    Digits (if value.head? = some 45 then value.tail else value) := by
  simp only [isDecimal, Bool.and_eq_true, all_eq_true, decide_eq_true_eq] at decimal
  exact decimal.2

theorem magnitude_lt (valid : Digits digits) : magnitude digits < 10 ^ digits.length := by
  induction digits with
  | nil => exact Nat.one_pos
  | cons c rest ih =>
    obtain ⟨digit, later⟩ := forall_mem_cons.mp valid
    have upper : (c.toNat - 48) * 10 ^ rest.length ≤ 9 * 10 ^ rest.length :=
      Nat.mul_le_mul_right _ (by omega)
    have tail := ih later
    rw [magnitude, length_cons, Nat.pow_succ]
    omega

theorem magnitude_stripZeros (digits : Bytes) :
    magnitude (stripZeros digits) = magnitude digits := by
  have stripped : magnitude (digits.dropWhile (· = 48)) = magnitude digits := by
    induction digits with
    | nil => rfl
    | cons c rest ih =>
      rw [dropWhile_cons]
      split
      case isTrue zero =>
        rw [ih, magnitude, of_decide_eq_true zero]
        simp
      case isFalse => rfl
  rw [← stripped, stripZeros]
  split
  case isTrue empty => rw [isEmpty_iff.mp empty]; rfl
  case isFalse => rfl

theorem digits_stripZeros (valid : Digits digits) : Digits (stripZeros digits) := by
  rw [stripZeros]
  split
  case isTrue =>
    intro c mem
    rw [mem_singleton.mp mem]
    decide
  case isFalse => exact fun c mem => valid c (dropWhile_subset _ mem)

theorem length_stripZeros_pos (digits : Bytes) : 0 < (stripZeros digits).length := by
  rw [stripZeros]
  split
  case isTrue => decide
  case isFalse nonempty => exact length_pos_iff.mpr (by simpa using nonempty)

theorem pow_le_magnitude {c : UInt8} {rest : Bytes} (valid : Digits (stripZeros digits))
    (shape : stripZeros digits = c :: rest) (long : rest ≠ []) :
    10 ^ rest.length ≤ magnitude (c :: rest) := by
  have first : c ≠ 48 := by
    rw [stripZeros] at shape
    split at shape
    case isTrue => exact absurd (List.cons.inj shape).2.symm long
    case isFalse =>
      have stripped : digits.dropWhile (· = 48) ≠ [] := by simp [shape]
      simpa [shape] using head_dropWhile_not _ stripped
  have digit := valid c (shape ▸ mem_cons_self)
  have positive : 1 ≤ c.toNat - 48 := by
    have different : c.toNat ≠ 48 := fun same => first (UInt8.toNat_inj.mp same)
    omega
  calc 10 ^ rest.length = 1 * 10 ^ rest.length := (Nat.one_mul _).symm
    _ ≤ (c.toNat - 48) * 10 ^ rest.length := Nat.mul_le_mul_right _ positive
    _ ≤ magnitude (c :: rest) := Nat.le_add_right _ _

theorem magnitude_lt_of_shorter (valid : Digits left) (valid' : Digits right)
    (shorter : (stripZeros left).length < (stripZeros right).length) :
    magnitude (stripZeros left) < magnitude (stripZeros right) := by
  have nonempty := length_stripZeros_pos left
  cases shape : stripZeros right with
  | nil => rw [shape] at shorter; exact absurd shorter (Nat.not_lt_zero _)
  | cons c rest =>
    rw [shape, length_cons] at shorter
    calc magnitude (stripZeros left) < 10 ^ (stripZeros left).length :=
          magnitude_lt (digits_stripZeros valid)
      _ ≤ 10 ^ rest.length := Nat.pow_le_pow_right (by decide) (by omega)
      _ ≤ magnitude (c :: rest) :=
        pow_le_magnitude (digits_stripZeros valid') shape (length_pos_iff.mp (by omega))

theorem magnitude_cons_lt {c c' : UInt8} {rest rest' : Bytes} (digit : 48 ≤ c.toNat)
    (less : c.toNat < c'.toNat) (valid : Digits rest) (length : rest.length = rest'.length) :
    magnitude (c :: rest) < magnitude (c' :: rest') := by
  have bound := magnitude_lt valid
  calc (c.toNat - 48) * 10 ^ rest.length + magnitude rest
      < (c.toNat - 48 + 1) * 10 ^ rest.length := by
        rw [Nat.add_mul, Nat.one_mul]
        exact Nat.add_lt_add_left bound _
    _ ≤ (c'.toNat - 48) * 10 ^ rest.length := Nat.mul_le_mul_right _ (by omega)
    _ ≤ magnitude (c' :: rest') := by
        rw [magnitude, length]
        exact Nat.le_add_right _ _

theorem lexicographic_order (valid : Digits left) (valid' : Digits right)
    (length : left.length = right.length) :
    left < right ∧ magnitude left < magnitude right ∨ left = right ∨
      ¬ left < right ∧ magnitude right < magnitude left := by
  induction left generalizing right with
  | nil => exact .inr (.inl (eq_nil_of_length_eq_zero length.symm).symm)
  | cons c rest ih =>
    cases right with
    | nil => cases length
    | cons c' rest' =>
      obtain ⟨digit, later⟩ := forall_mem_cons.mp valid
      obtain ⟨digit', later'⟩ := forall_mem_cons.mp valid'
      have length' : rest.length = rest'.length := Nat.succ.inj length
      simp only [cons_lt_cons_iff, UInt8.lt_iff_toNat_lt, ← UInt8.toNat_inj, List.cons.injEq]
      rcases lt_trichotomy c.toNat c'.toNat with less | same | greater
      · exact .inl ⟨.inl less, magnitude_cons_lt digit.1 less later length'⟩
      · simp only [magnitude, length', same, lt_irrefl, true_and, false_or,
          Nat.add_lt_add_iff_left]
        exact ih later later' length'
      · refine .inr (.inr ⟨?_, magnitude_cons_lt digit'.1 greater later' length'.symm⟩)
        rintro (less | ⟨same, -⟩) <;> omega

theorem unsignedCompare_le_iff (valid : Digits left) (valid' : Digits right) :
    unsignedCompare left right ≤ 0 ↔ magnitude left ≤ magnitude right := by
  rw [← magnitude_stripZeros left, ← magnitude_stripZeros right, unsignedCompare]
  split
  case isTrue different =>
    split
    case isTrue shorter =>
      exact iff_of_true (by decide) (magnitude_lt_of_shorter valid valid' shorter).le
    case isFalse longer =>
      have longer' : (stripZeros right).length < (stripZeros left).length := by omega
      exact iff_of_false (by decide) (magnitude_lt_of_shorter valid' valid longer').not_ge
  case isFalse length =>
    rcases lexicographic_order (digits_stripZeros valid) (digits_stripZeros valid')
      (not_not.mp length) with ⟨less, smaller⟩ | same | ⟨notLess, larger⟩
    · have different : stripZeros left ≠ stripZeros right := fun same =>
        smaller.ne (congrArg magnitude same)
      simp [different, less, smaller.le]
    · simp [same]
    · have different : stripZeros left ≠ stripZeros right := fun same =>
        larger.ne (congrArg magnitude same.symm)
      simp [different, notLess, larger]

theorem decimalInRange_iff_of_limits {minimum maximum : Bytes} (lower : isDecimal minimum = true)
    (upper : isDecimal maximum = true) (nonpositive : denoted minimum ≤ 0)
    (nonnegative : maximum.head? ≠ some 45) (value : Bytes) :
    decimalInRange value minimum maximum = true ↔
      isDecimal value = true ∧ (value.head? = some 45 → minimum.head? = some 45) ∧
        denoted minimum ≤ denoted value ∧ denoted value ≤ denoted maximum := by
  have above := digits_of_isDecimal upper
  have below := digits_of_isDecimal lower
  rw [if_neg nonnegative] at above
  rw [decimalInRange]
  cases decimal : isDecimal value with
  | false => simp
  | true =>
    have valid := digits_of_isDecimal decimal
    by_cases negative : value.head? = some 45
    · by_cases signed : minimum.head? = some 45
      · rw [if_pos negative] at valid
        rw [if_pos signed] at below
        simp [negative, signed, denoted, nonnegative, unsignedCompare_le_iff valid below]
      · simp [negative, signed]
    · rw [if_neg negative] at valid
      have : 0 ≤ denoted value := by simp [denoted, negative]
      simp [negative, unsignedCompare_le_iff valid above]
      simp [denoted, negative, nonnegative] at this nonpositive ⊢
      omega

theorem decimalInRange_iff (type : IntegerType) (value : Bytes) :
    decimalInRange value (integerLimits type).1 (integerLimits type).2 = true ↔
      isDecimal value = true ∧
        (value.head? = some 45 → (integerLimits type).1.head? = some 45) ∧
        denoted (integerLimits type).1 ≤ denoted value ∧
        denoted value ≤ denoted (integerLimits type).2 := by
  apply decimalInRange_iff_of_limits
  all_goals cases type <;> decide +kernel

end OnlineJudge.Gateway
