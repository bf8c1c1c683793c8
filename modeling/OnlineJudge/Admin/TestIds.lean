import Mathlib
import OnlineJudge.Questions.Question

/-!
# Identifiers of test cases

`EncodeTestId` and `DecodeTestId` (`oj_admin_service_impl.cpp`) pack an ordinal and a question id
into 64 bits.
-/

namespace OnlineJudge.Admin

open List

open Questions (isAlnum)

def maxTestOrdinal : UInt32 := 127

def maxEncodedQuestionIdLength : Nat := 5

def isDigits (value : Bytes) : Bool :=
  !value.isEmpty && value.length ≤ maxEncodedQuestionIdLength && value.all isAlnum

def encodeQuestion (questionId : Bytes) : UInt64 :=
  questionId.foldl (fun encoded ch => (encoded <<< 8) ||| ch.toUInt64) 0

def encodeTestId (questionId : Bytes) (ordinal : UInt32) : UInt64 :=
  if !isDigits questionId || questionId.length > maxEncodedQuestionIdLength || ordinal = 0 ||
      ordinal > maxTestOrdinal then 0
  else (ordinal.toUInt64 <<< 48) ||| (UInt64.ofNat questionId.length <<< 40) |||
    encodeQuestion questionId

def isDecimalDigit (ch : UInt8) : Bool := !(ch < 48 || ch > 57)

/-- The loop of `DecodeTestId`, which fills the question id from its end.  `none` is a return from
the loop; otherwise the question id and what is left of the encoded bytes. -/
def decodeQuestion : Nat → UInt64 → Bytes → Option (Bytes × UInt64)
  | 0, question, questionId => some (questionId, question)
  | index + 1, question, questionId =>
    let ch := (question &&& 0xff).toUInt8
    if !isDecimalDigit ch then none
    else decodeQuestion index (question >>> 8) (ch :: questionId)

def decodeTestId (encoded : UInt64) : Option (Bytes × Nat) :=
  if encoded = 0 then none
  else
    let value := encoded >>> 48
    let length := ((encoded >>> 40) &&& 0xff).toNat
    if value = 0 ∨ value > maxTestOrdinal.toUInt64 ∨ length = 0 ∨
        length > maxEncodedQuestionIdLength then none
    else
      match decodeQuestion length (encoded &&& (((1 : UInt64) <<< 40) - 1)) [] with
      | none => none
      | some (questionId, question) => if question ≠ 0 then none else some (questionId, value.toNat)

def bytesValue (questionId : Bytes) : Nat :=
  questionId.foldl (fun value ch => value * 256 + ch.toNat) 0

theorem bytesValue_concat (questionId : Bytes) (ch : UInt8) :
    bytesValue (questionId ++ [ch]) = bytesValue questionId * 256 + ch.toNat := by
  simp [bytesValue]

theorem bytesValue_lt (questionId : Bytes) : bytesValue questionId < 256 ^ questionId.length := by
  induction questionId using List.reverseRecOn with
  | nil => decide
  | append_singleton questionId ch =>
    have := ch.toNat_lt
    rw [bytesValue_concat, length_append, length_singleton, Nat.pow_succ]
    omega

variable {questionId : Bytes} {ordinal : Nat}

theorem bytesValue_lt_of_length_le (short : questionId.length ≤ 5) :
    bytesValue questionId < 2 ^ 40 :=
  calc
    bytesValue questionId < 256 ^ questionId.length := bytesValue_lt questionId
    _ ≤ 256 ^ 5 := Nat.pow_le_pow_right (by decide) short
    _ = 2 ^ 40 := by decide

theorem toNat_encodeQuestion (short : questionId.length ≤ 8) :
    (encodeQuestion questionId).toNat = bytesValue questionId := by
  induction questionId using List.reverseRecOn with
  | nil => rfl
  | append_singleton questionId ch ih =>
    rw [length_append, length_singleton] at short
    have value := ih (by omega)
    have bound : bytesValue questionId < 2 ^ 56 := by
      calc
        bytesValue questionId < 256 ^ questionId.length := bytesValue_lt questionId
        _ ≤ 256 ^ 7 := Nat.pow_le_pow_right (by decide) (by omega)
        _ = 2 ^ 56 := by decide
    have last : ch.toNat < 2 ^ 8 := ch.toNat_lt
    have shifted : bytesValue questionId <<< 8 < 2 ^ 64 := by
      rw [Nat.shiftLeft_eq]
      omega
    rw [bytesValue_concat, encodeQuestion, foldl_concat, ← encodeQuestion,
      UInt64.toNat_or, UInt64.toNat_shiftLeft, value]
    rw [show (8 : UInt64).toNat % 64 = 8 from rfl, Nat.mod_eq_of_lt shifted,
      UInt8.toNat_toUInt64, ← Nat.shiftLeft_add_eq_or_of_lt last, Nat.shiftLeft_eq]

def packedValue (questionId : Bytes) (ordinal : Nat) : Nat :=
  ordinal * 2 ^ 48 + questionId.length * 2 ^ 40 + bytesValue questionId

theorem toNat_encodeTestId {ordinal : UInt32} (accepted : isDigits questionId = true)
    (low : 1 ≤ ordinal) (high : ordinal ≤ maxTestOrdinal) :
    (encodeTestId questionId ordinal).toNat = packedValue questionId ordinal.toNat := by
  have short : questionId.length ≤ 5 := by
    simp only [isDigits, Bool.and_eq_true, decide_eq_true_eq] at accepted
    exact accepted.1.2
  have small : ordinal.toNat ≤ 127 := high
  have question : (encodeQuestion questionId).toNat = bytesValue questionId :=
    toNat_encodeQuestion (by omega)
  have bound : bytesValue questionId < 2 ^ 40 := bytesValue_lt_of_length_le short
  have first : (ordinal.toUInt64 <<< 48).toNat = ordinal.toNat <<< 48 := by
    rw [UInt64.toNat_shiftLeft, UInt32.toNat_toUInt64, show (48 : UInt64).toNat % 64 = 48 from rfl,
      Nat.mod_eq_of_lt (by rw [Nat.shiftLeft_eq]; omega)]
  have second : (UInt64.ofNat questionId.length <<< 40).toNat = questionId.length <<< 40 := by
    rw [UInt64.toNat_shiftLeft, UInt64.toNat_ofNat_of_lt' (by simp only [UInt64.size]; omega),
      show (40 : UInt64).toNat % 64 = 40 from rfl,
      Nat.mod_eq_of_lt (by rw [Nat.shiftLeft_eq]; omega)]
  have lengths : questionId.length <<< 40 < 2 ^ 48 := by
    rw [Nat.shiftLeft_eq]
    omega
  have both : ordinal.toNat <<< 48 + questionId.length <<< 40 =
      (ordinal.toNat * 256 + questionId.length) <<< 40 := by
    simp only [Nat.shiftLeft_eq]
    omega
  have packs : encodeTestId questionId ordinal = (ordinal.toUInt64 <<< 48) |||
      (UInt64.ofNat questionId.length <<< 40) ||| encodeQuestion questionId := by
    have positive : ordinal ≠ 0 := by
      rintro rfl
      exact absurd low (by decide)
    have checks : ¬ ((!isDigits questionId || decide (questionId.length > 5) ||
        decide (ordinal = 0) || decide (ordinal > maxTestOrdinal)) = true) := by
      simp [accepted, positive, short, high]
    rw [encodeTestId, maxEncodedQuestionIdLength, if_neg checks]
  rw [packs, UInt64.toNat_or, UInt64.toNat_or, first, second, question,
    ← Nat.shiftLeft_add_eq_or_of_lt lengths, both, ← Nat.shiftLeft_add_eq_or_of_lt bound,
    Nat.shiftLeft_eq, packedValue]
  omega

theorem toNat_lastByte (question : UInt64) :
    ((question &&& 0xff).toUInt8).toNat = question.toNat % 256 := by
  rw [UInt64.toNat_toUInt8, UInt64.toNat_and]
  have masked := Nat.and_two_pow_sub_one_eq_mod question.toNat 8
  rw [show (0xff : UInt64).toNat = 2 ^ 8 - 1 from rfl, masked]
  omega

theorem toNat_shiftRight_eight (question : UInt64) :
    (question >>> 8).toNat = question.toNat / 256 := by
  rw [UInt64.toNat_shiftRight, show (8 : UInt64).toNat % 64 = 8 from rfl, Nat.shiftRight_eq_div_pow]

theorem decodeQuestion_eq_some_iff {length : Nat} {question rest : UInt64} {before after : Bytes} :
    decodeQuestion length question before = some (after, rest) ↔
      ∃ questionId : Bytes, questionId.length = length ∧ questionId.all isDecimalDigit = true ∧
        after = questionId ++ before ∧
        question.toNat = rest.toNat * 256 ^ length + bytesValue questionId := by
  induction length generalizing question before with
  | zero =>
    rw [decodeQuestion, Option.some.injEq, Prod.mk.injEq]
    constructor
    · rintro ⟨rfl, rfl⟩
      exact ⟨[], rfl, rfl, rfl, by simp [bytesValue]⟩
    · rintro ⟨questionId, empty, -, rfl, value⟩
      obtain rfl := eq_nil_of_length_eq_zero empty
      refine ⟨rfl, UInt64.toNat_inj.mp ?_⟩
      simpa [bytesValue] using value
  | succ length ih =>
    have last := toNat_lastByte question
    have earlier := toNat_shiftRight_eight question
    simp only [decodeQuestion]
    generalize (question &&& 0xff).toUInt8 = ch at last ⊢
    constructor
    · intro decoded
      split at decoded
      · cases decoded
      rename_i digit
      obtain ⟨questionId, sized, digits, rfl, value⟩ := ih.mp decoded
      refine ⟨questionId ++ [ch], by simp [sized], ?_, by simp, ?_⟩
      · simpa [digits] using digit
      · rw [bytesValue_concat, Nat.pow_succ, ← Nat.mul_assoc]
        omega
    · rintro ⟨questionId, sized, digits, rfl, value⟩
      rcases eq_nil_or_concat' questionId with rfl | ⟨front, c, rfl⟩
      · cases sized
      have here := c.toNat_lt
      rw [bytesValue_concat, Nat.pow_succ, ← Nat.mul_assoc] at value
      obtain rfl : ch = c := UInt8.toNat_inj.mp (by omega)
      simp only [all_append, all_cons, all_nil, Bool.and_true, Bool.and_eq_true] at digits
      rw [if_neg (by simp [digits.2])]
      refine ih.mpr ⟨front, by simpa using sized, digits.1, by simp, by omega⟩

theorem decoded_eq_some_iff {decoded : Option (Bytes × UInt64)} {value : Nat} :
    (match decoded with
      | none => none
      | some (questionId, question) =>
        if question ≠ 0 then none else some (questionId, value)) = some (questionId, ordinal) ↔
      decoded = some (questionId, 0) ∧ value = ordinal := by
  rcases decoded with _ | ⟨id, question⟩
  · simp
  · by_cases rest : question = 0 <;> simp [rest]

theorem decodeTestId_eq_some_iff_parts {encoded : UInt64} :
    decodeTestId encoded = some (questionId, ordinal) ↔
      ordinal = encoded.toNat / 2 ^ 48 ∧ 1 ≤ ordinal ∧ ordinal ≤ 127 ∧
        questionId.length = encoded.toNat / 2 ^ 40 % 256 ∧ 1 ≤ questionId.length ∧
        questionId.length ≤ 5 ∧ questionId.all isDecimalDigit = true ∧
        encoded.toNat % 2 ^ 40 = bytesValue questionId := by
  have value : (encoded >>> 48).toNat = encoded.toNat / 2 ^ 48 := by
    rw [UInt64.toNat_shiftRight, show (48 : UInt64).toNat % 64 = 48 from rfl,
      Nat.shiftRight_eq_div_pow]
  have length : ((encoded >>> 40) &&& 0xff).toNat = encoded.toNat / 2 ^ 40 % 256 := by
    rw [UInt64.toNat_and, UInt64.toNat_shiftRight, show (40 : UInt64).toNat % 64 = 40 from rfl,
      Nat.shiftRight_eq_div_pow, show (0xff : UInt64).toNat = 2 ^ 8 - 1 from rfl,
      Nat.and_two_pow_sub_one_eq_mod]
  have question : (encoded &&& (((1 : UInt64) <<< 40) - 1)).toNat = encoded.toNat % 2 ^ 40 := by
    rw [UInt64.toNat_and, show (((1 : UInt64) <<< 40) - 1).toNat = 2 ^ 40 - 1 from rfl,
      Nat.and_two_pow_sub_one_eq_mod]
  have zero : encoded >>> 48 = 0 ↔ encoded.toNat / 2 ^ 48 = 0 := by
    rw [← UInt64.toNat_inj, value]
    rfl
  have large : encoded >>> 48 > maxTestOrdinal.toUInt64 ↔ 127 < encoded.toNat / 2 ^ 48 := by
    rw [gt_iff_lt, UInt64.lt_iff_toNat_lt, value]
    rfl
  have first : encoded = 0 → encoded.toNat / 2 ^ 48 = 0 := by
    rintro rfl
    rfl
  simp only [decodeTestId, zero, large, length, maxEncodedQuestionIdLength]
  split
  · rename_i empty
    have := first empty
    exact ⟨nofun, by omega⟩
  split
  · refine ⟨nofun, by omega⟩
  rw [decoded_eq_some_iff, decodeQuestion_eq_some_iff, question, value]
  constructor
  · rintro ⟨⟨id, sized, digits, rfl, bytes⟩, rfl⟩
    rw [append_nil]
    refine ⟨rfl, by omega, by omega, sized, by omega, by omega, digits, by simpa using bytes⟩
  · rintro ⟨rfl, -, -, sized, -, -, digits, bytes⟩
    exact ⟨⟨questionId, sized, digits, by simp, by simpa using bytes⟩, rfl⟩

theorem decodeTestId_eq_some_iff {encoded : UInt64} :
    decodeTestId encoded = some (questionId, ordinal) ↔
      questionId.all isDecimalDigit = true ∧ 1 ≤ questionId.length ∧ questionId.length ≤ 5 ∧
        1 ≤ ordinal ∧ ordinal ≤ 127 ∧ encoded.toNat = packedValue questionId ordinal := by
  rw [decodeTestId_eq_some_iff_parts, packedValue]
  constructor
  · rintro ⟨rfl, low, high, sized, nonempty, short, digits, bytes⟩
    exact ⟨digits, nonempty, short, low, high, by omega⟩
  · rintro ⟨digits, nonempty, short, low, high, packed⟩
    have bound := bytesValue_lt_of_length_le short
    exact ⟨by omega, low, high, by omega, nonempty, short, digits, by omega⟩

theorem isDigits_of_all_isDecimalDigit (digits : questionId.all isDecimalDigit = true)
    (nonempty : 1 ≤ questionId.length)
    (short : questionId.length ≤ 5) : isDigits questionId = true := by
  have alnum : questionId.all isAlnum = true := by
    rw [all_eq_true] at digits ⊢
    intro ch mem
    have digit := digits ch mem
    simp only [isDecimalDigit, Bool.not_eq_true', Bool.or_eq_false_iff, decide_eq_false_iff_not,
      UInt8.not_lt, gt_iff_lt] at digit
    simp [isAlnum, digit.1, digit.2]
  have some_byte : questionId.isEmpty = false :=
    List.isEmpty_eq_false_iff.mpr (ne_nil_of_length_pos nonempty)
  simp [isDigits, maxEncodedQuestionIdLength, alnum, some_byte, short]

/-- An identifier is read as what it was made from exactly where the question id has no letters. -/
theorem testId_roundTrip_iff {questionId : Bytes} {ordinal : UInt32}
    (accepted : isDigits questionId = true) (low : 1 ≤ ordinal) (high : ordinal ≤ maxTestOrdinal) :
    (decodeTestId (encodeTestId questionId ordinal) = some (questionId, ordinal.toNat) ↔
      questionId.all isDecimalDigit = true) ∧
    ∀ encoded id value, decodeTestId encoded = some (id, value) →
      encodeTestId id (UInt32.ofNat value) = encoded := by
  constructor
  · rw [decodeTestId_eq_some_iff, toNat_encodeTestId accepted low high]
    simp only [isDigits, Bool.and_eq_true, decide_eq_true_eq, Bool.not_eq_true',
      isEmpty_eq_false_iff] at accepted
    have nonempty := List.length_pos_iff.mpr accepted.1.1
    have bounds : 1 ≤ ordinal.toNat ∧ ordinal.toNat ≤ 127 := ⟨low, high⟩
    exact ⟨fun decoded => decoded.1,
      fun digits => ⟨digits, nonempty, accepted.1.2, bounds.1, bounds.2, rfl⟩⟩
  · intro encoded id value decoded
    obtain ⟨digits, nonempty, short, positive, small, packed⟩ := decodeTestId_eq_some_iff.mp decoded
    have same : (UInt32.ofNat value).toNat = value :=
      UInt32.toNat_ofNat_of_lt' (by simp only [UInt32.size]; omega)
    refine UInt64.toNat_inj.mp ?_
    rw [toNat_encodeTestId (isDigits_of_all_isDecimalDigit digits nonempty short), same, packed]
    · rw [UInt32.le_iff_toNat_le, same]
      exact positive
    · rw [UInt32.le_iff_toNat_le, same]
      exact small

theorem testId_roundTrip_of_digits :
    isDigits (text "1042") = true ∧
      decodeTestId (encodeTestId (text "1042") 3) = some (text "1042", 3) :=
  ⟨by decide +kernel,
    (testId_roundTrip_iff (by decide +kernel) (by decide) (by decide)).1.mpr (by decide +kernel)⟩

/-- A question `A1` can be saved, and the identifier of its first test cannot be read. -/
theorem testId_of_letters :
    isDigits (text "A1") = true ∧ decodeTestId (encodeTestId (text "A1") 1) = none := by
  decide +kernel

end OnlineJudge.Admin
