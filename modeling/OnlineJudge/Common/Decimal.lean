import OnlineJudge.Common.Messages

/-!
# Numbers in texts

`std::to_string` and `std::from_chars`.
-/

namespace OnlineJudge

open List

def decimal (n : Nat) : Bytes := (Nat.toDigits 10 n).map fun digit => UInt8.ofNat digit.toNat

variable {n : Nat} {digit : Char} {byte separator : UInt8} {first rest rest' second : Bytes}

theorem bounds_of_mem_toDigits (mem : digit ∈ Nat.toDigits 10 n) :
    48 ≤ digit.toNat ∧ digit.toNat ≤ 57 := by
  have isDigit : digit.isDigit = true :=
    Nat.isDigit_of_mem_toDigits (by decide) (by decide) mem
  simp only [Char.isDigit, Bool.and_eq_true, decide_eq_true_eq] at isDigit
  exact isDigit

theorem toNat_ofNat_of_mem_toDigits (mem : digit ∈ Nat.toDigits 10 n) :
    (UInt8.ofNat digit.toNat).toNat = digit.toNat := by
  have bounds := bounds_of_mem_toDigits mem
  apply UInt8.toNat_ofNat_of_lt'
  simp only [UInt8.size]
  omega

theorem bounds_of_mem_decimal (mem : byte ∈ decimal n) : 48 ≤ byte.toNat ∧ byte.toNat ≤ 57 := by
  obtain ⟨digit, isDigit, rfl⟩ := List.mem_map.mp mem
  rw [toNat_ofNat_of_mem_toDigits isDigit]
  exact bounds_of_mem_toDigits isDigit

theorem map_decimal (n : Nat) :
    (decimal n).map (fun byte => Char.ofNat byte.toNat) = Nat.toDigits 10 n := by
  unfold decimal
  rw [map_map]
  refine (map_congr_left fun digit mem => ?_).trans (map_id _)
  simp only [Function.comp_apply, toNat_ofNat_of_mem_toDigits mem, Char.ofNat_toNat, id]

theorem decimal_injective : Function.Injective decimal := by
  intro m n same
  have digits : Nat.toDigits 10 m = Nat.toDigits 10 n := by
    rw [← map_decimal m, ← map_decimal n, same]
  calc
    m = Nat.ofDigitChars 10 (Nat.toDigits 10 m) 0 := Nat.ofDigitChars_ten_toDigits.symm
    _ = Nat.ofDigitChars 10 (Nat.toDigits 10 n) 0 := by rw [digits]
    _ = n := Nat.ofDigitChars_ten_toDigits

def decimalInt : Int → Bytes
  | .ofNat n => decimal n
  | .negSucc n => 45 :: decimal (n + 1)

theorem byte_of_mem_decimalInt {n : Int} (mem : byte ∈ decimalInt n) :
    byte.toNat = 45 ∨ 48 ≤ byte.toNat ∧ byte.toNat ≤ 57 := by
  cases n with
  | ofNat => exact .inr (bounds_of_mem_decimal mem)
  | negSucc =>
    rcases List.mem_cons.mp mem with rfl | digit
    · exact .inl rfl
    · exact .inr (bounds_of_mem_decimal digit)

theorem decimalInt_injective : Function.Injective decimalInt := by
  have sign_ne (m n : Nat) : decimal m ≠ 45 :: decimal n := by
    intro same
    have bounds := bounds_of_mem_decimal (n := m) (same ▸ mem_cons_self (a := 45))
    exact absurd bounds.1 (by decide)
  intro m n same
  cases m with
  | ofNat m =>
    cases n with
    | ofNat => exact congrArg Int.ofNat (decimal_injective same)
    | negSucc n => exact absurd same (sign_ne m (n + 1))
  | negSucc m =>
    cases n with
    | ofNat n => exact absurd same.symm (sign_ne n (m + 1))
    | negSucc =>
      have digits := decimal_injective (List.cons.inj same).2
      exact congrArg Int.negSucc (Nat.succ.inj digits)

def parseDecimal (digits : Bytes) : Option Nat :=
  if digits ≠ [] ∧ digits.all fun byte => 48 ≤ byte.toNat && byte.toNat ≤ 57 then
    some (Nat.ofDigitChars 10 (digits.map fun byte => Char.ofNat byte.toNat) 0)
  else none

theorem parseDecimal_decimal (n : Nat) : parseDecimal (decimal n) = some n := by
  have nonempty : decimal n ≠ [] := by
    intro empty
    exact Nat.toDigits_ne_nil (List.map_eq_nil_iff.mp empty)
  have digits : (decimal n).all fun byte => 48 ≤ byte.toNat && byte.toNat ≤ 57 := by
    simp only [all_eq_true, Bool.and_eq_true, decide_eq_true_eq]
    exact fun byte mem => bounds_of_mem_decimal mem
  rw [parseDecimal, if_pos ⟨nonempty, digits⟩, map_decimal, Nat.ofDigitChars_ten_toDigits]

/-- `std::from_chars` for a signed type with the given limits, where the whole text has to be
read. -/
def parseInteger (least greatest : Int) (encoded : Bytes) : Option Int :=
  let value : Option Int :=
    if encoded.head? = some 45 then (parseDecimal encoded.tail).map fun n => -(n : Int)
    else (parseDecimal encoded).map fun n => (n : Int)
  value.filter fun n => least ≤ n && n ≤ greatest

/-- As many separators in front leave the same one to cut at. -/
theorem eq_of_count_separator_eq (counts : first.count separator = second.count separator)
    (same : first ++ separator :: rest = second ++ separator :: rest') :
    first = second ∧ rest = rest' := by
  induction first generalizing second with
  | nil =>
    cases second with
    | nil => exact ⟨rfl, (List.cons.inj same).2⟩
    | cons =>
      rw [← (List.cons.inj same).1, count_nil, count_cons_self] at counts
      exact absurd counts (Nat.succ_ne_zero _).symm
  | cons byte later ih =>
    cases second with
    | nil =>
      rw [(List.cons.inj same).1, count_nil, count_cons_self] at counts
      exact absurd counts (Nat.succ_ne_zero _)
    | cons =>
      obtain ⟨rfl, tail⟩ := List.cons.inj same
      rw [count_cons, count_cons, Nat.add_right_cancel_iff] at counts
      obtain ⟨front, back⟩ := ih counts tail
      exact ⟨by rw [front], back⟩

theorem eq_of_append_separator_eq (plain : separator ∉ first) (plain' : separator ∉ second)
    (same : first ++ separator :: rest = second ++ separator :: rest') :
    first = second ∧ rest = rest' :=
  eq_of_count_separator_eq (by rw [count_eq_zero.mpr plain, count_eq_zero.mpr plain']) same

theorem eq_of_append_last_separator_eq (plain : separator ∉ rest) (plain' : separator ∉ rest')
    (same : first ++ separator :: rest = second ++ separator :: rest') :
    first = second ∧ rest = rest' := by
  have reversed := congrArg List.reverse same
  simp only [reverse_append, reverse_cons, append_assoc, singleton_append] at reversed
  have parts := eq_of_append_separator_eq (mt List.mem_reverse.mp plain)
    (mt List.mem_reverse.mp plain') reversed
  exact ⟨reverse_injective parts.2, reverse_injective parts.1⟩

/-! ## Hexadecimal digits -/

/-- The digit for a number below 16. -/
def hexDigit (value : Nat) : UInt8 := .ofNat (if value < 10 then 48 + value else 87 + value)

/-- The number that a digit stands for; both cases are read. -/
def hexValue? (c : UInt8) : Option UInt8 :=
  if 48 ≤ c ∧ c ≤ 57 then some (c - 48)
  else if 97 ≤ c ∧ c ≤ 102 then some (c - 87)
  else if 65 ≤ c ∧ c ≤ 70 then some (c - 55)
  else none

/-- Two digits for each byte, as `ToHex`, `RandomHex` and `PayloadFingerprint` write them. -/
def toHex (data : Bytes) : Bytes :=
  data.flatMap fun byte => [hexDigit (byte.toNat / 16), hexDigit (byte.toNat % 16)]

@[simp]
theorem length_toHex (data : Bytes) : (toHex data).length = 2 * data.length := by
  induction data with
  | nil => rfl
  | cons byte rest ih =>
    simp only [toHex, flatMap_cons, length_append, length_cons, length_nil] at ih ⊢
    omega

theorem forall_mem_toHex {P : UInt8 → Prop} (digits : ∀ value < 16, P (hexDigit value))
    {data : Bytes} : ∀ byte ∈ toHex data, P byte := by
  intro digit mem
  obtain ⟨byte, -, mem⟩ := mem_flatMap.mp mem
  have bound := byte.toNat_lt
  rcases mem_pair.mp mem with rfl | rfl
  · exact digits _ (by omega)
  · exact digits _ (by omega)

theorem ascii_toHex (data : Bytes) : ∀ byte ∈ toHex data, byte ≤ 0x7F := by
  have digits : ∀ value < 16, hexDigit value ≤ 0x7F := by decide
  exact forall_mem_toHex digits

theorem toHex_injective : Function.Injective toHex := by
  have digits : ∀ value < 16, ∀ value' < 16, hexDigit value = hexDigit value' → value = value' := by
    decide
  intro first second same
  induction first generalizing second with
  | nil =>
    cases second with
    | nil => rfl
    | cons => cases same
  | cons byte first ih =>
    cases second with
    | nil => cases same
    | cons byte' second =>
      have bound := byte.toNat_lt
      have bound' := byte'.toNat_lt
      simp only [toHex, flatMap_cons, cons_append, nil_append, cons.injEq] at same
      have high := digits _ (by omega) _ (by omega) same.1
      have low := digits _ (by omega) _ (by omega) same.2.1
      rw [ih same.2.2, UInt8.toNat_inj.mp (show byte.toNat = byte'.toNat by omega)]

end OnlineJudge
