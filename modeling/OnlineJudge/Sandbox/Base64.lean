import Mathlib
import OnlineJudge.Common.Decimal

/-!
# Base64

`Base64Encode` (`docker_sandbox.hpp`) keeps the bits in an `int`, which overflows on longer inputs
and keeps bits of digits that are written already.  None of this reaches the output.
-/

namespace OnlineJudge.Sandbox

def base64Table : Bytes :=
  text "ABCDEFGHIJKLMNOPQRSTUVWXYZabcdefghijklmnopqrstuvwxyz0123456789+/"

def base64Digit (value : Int32) : UInt8 := base64Table.getD (value &&& 0x3F).toNatClampNeg 0

def pushDigits (val : Int32) (output : Bytes) (valb : Int) : Bytes × Int :=
  if 0 ≤ valb then
    pushDigits val (output ++ [base64Digit (val >>> Int32.ofInt valb)]) (valb - 6)
  else (output, valb)
termination_by (valb + 6).toNat

/-- The loop over the bytes: `val`, `valb` and `output` after it. -/
def encodeBytes (val : Int32) (valb : Int) (output : Bytes) : Bytes → Int32 × Int × Bytes
  | [] => (val, valb, output)
  | c :: rest =>
    let val := (val <<< 8) + Int32.ofNat c.toNat
    let pushed := pushDigits val output (valb + 8)
    encodeBytes val pushed.2 pushed.1 rest

def padGroup (output : Bytes) : Bytes :=
  if output.length % 4 = 0 then output else padGroup (output ++ [61])
termination_by (4 - output.length % 4) % 4
decreasing_by
  rw [List.length_append, List.length_singleton]
  omega

def base64Encode (input : Bytes) : Bytes :=
  let (val, valb, output) := encodeBytes 0 (-6) [] input
  padGroup (if valb > -6 then
    output ++ [base64Digit ((val <<< 8) >>> Int32.ofInt (valb + 8))] else output)

def sextet (n : Nat) : UInt8 := base64Table.getD (n % 64) 0

/-- The encoding of RFC 4648: four digits for three bytes, and padding at the end. -/
def rfc4648 : Bytes → Bytes
  | a :: b :: c :: rest =>
    let group := (a.toNat * 256 + b.toNat) * 256 + c.toNat
    sextet (group / 262144) :: sextet (group / 4096) :: sextet (group / 64) :: sextet group ::
      rfc4648 rest
  | [a, b] =>
    let group := (a.toNat * 256 + b.toNat) * 4
    [sextet (group / 4096), sextet (group / 64), sextet group, 61]
  | [a] => [sextet (a.toNat * 16 / 64), sextet (a.toNat * 16), 61, 61]
  | [] => []

def decode4648 : Bytes → Option Bytes
  | [] => some []
  | w :: x :: y :: z :: rest => do
    let high := (← base64Table.idxOf? w) * 64 + (← base64Table.idxOf? x)
    if y = 61 ∧ z = 61 ∧ rest = [] then return [UInt8.ofNat (high / 16)]
    let middle := high * 64 + (← base64Table.idxOf? y)
    if z = 61 ∧ rest = [] then
      return [UInt8.ofNat (middle / 1024), UInt8.ofNat (middle / 4 % 256)]
    let group := middle * 64 + (← base64Table.idxOf? z)
    return UInt8.ofNat (group / 65536) :: UInt8.ofNat (group / 256 % 256) ::
      UInt8.ofNat (group % 256) :: (← decode4648 rest)
  | _ => none

theorem idxOf_sextet (n : Nat) : base64Table.idxOf? (sextet n) = some (n % 64) := by
  have all : ∀ n : Fin 64, base64Table.idxOf? (base64Table.getD n 0) = some n.val := by
    decide +kernel
  exact all ⟨_, Nat.mod_lt _ (by decide)⟩

theorem sextet_ne_padding (n : Nat) : sextet n ≠ 61 := by
  intro same
  have found := idxOf_sextet n
  rw [same, show base64Table.idxOf? 61 = none by decide +kernel] at found
  cases found

theorem decode4648_rfc4648 (input : Bytes) : decode4648 (rfc4648 input) = some input := by
  fun_induction rfc4648 input with
  | case1 a b c rest group ih =>
    have whole : group = (a.toNat * 256 + b.toNat) * 256 + c.toNat := rfl
    have := a.toNat_lt
    have := b.toNat_lt
    have := c.toNat_lt
    have digits : ((group / 262144 % 64 * 64 + group / 4096 % 64) * 64 + group / 64 % 64) * 64 +
        group % 64 = group := by omega
    have bytes : group / 65536 = a.toNat ∧ group / 256 % 256 = b.toNat ∧ group % 256 = c.toNat :=
      by omega
    simp [decode4648, idxOf_sextet, sextet_ne_padding, ih, digits, bytes]
  | case2 a b group =>
    have whole : group = (a.toNat * 256 + b.toNat) * 4 := rfl
    have := a.toNat_lt
    have := b.toNat_lt
    have digits : (group / 4096 % 64 * 64 + group / 64 % 64) * 64 + group % 64 = group := by omega
    have bytes : group / 1024 = a.toNat ∧ group / 4 % 256 = b.toNat := by omega
    simp [decode4648, idxOf_sextet, sextet_ne_padding, digits, bytes]
  | case3 a =>
    have := a.toNat_lt
    have byte : (a.toNat * 16 / 64 % 64 * 64 + a.toNat * 16 % 64) / 16 = a.toNat := by omega
    simp [decode4648, idxOf_sextet, byte]
  | case4 => rfl

/-- The bits of the accumulator, stale ones included. -/
def bits (val : Int32) : Nat := val.toBitVec.toNat

theorem bits_shiftLeft (val : Int32) : bits (val <<< 8) = bits val * 256 % 4294967296 := by
  rw [bits, Int32.toBitVec_shiftLeft]
  exact (BitVec.toNat_shiftLeft ..).trans (by rw [Nat.shiftLeft_eq]; rfl)

theorem bits_shiftIn (val : Int32) (c : UInt8) :
    bits (val <<< 8 + Int32.ofNat c.toNat) = (bits val * 256 + c.toNat) % 4294967296 := by
  have shifted := bits_shiftLeft val
  rw [bits] at shifted ⊢
  rw [Int32.toBitVec_add, BitVec.toNat_add, shifted, Int32.toBitVec_ofNat', BitVec.toNat_ofNat]
  omega

theorem base64Digit_eq (val : Int32) : base64Digit val = sextet (bits val) := by
  have masked : (val &&& 0x3F).toBitVec.toNat = bits val % 64 := by
    rw [Int32.toBitVec_and, BitVec.toNat_and]
    exact Nat.and_two_pow_sub_one_eq_mod _ 6
  have small : 2 * (val &&& 0x3F).toBitVec.toNat < 2 ^ 32 := by omega
  rw [base64Digit, Int32.toNatClampNeg, Int32.toInt, BitVec.toInt_eq_toNat_of_lt small,
    Int.toNat_natCast, masked, sextet]

variable (val : Int32) (output : Bytes) (digit : Nat) {s : Nat}

/-- The sign that `>>` brings in does not reach the six bits. -/
theorem base64Digit_shiftRight (few : s < 8) (is : bits val / 2 ^ s % 64 = digit % 64) :
    base64Digit (val >>> Int32.ofInt s) = sextet digit := by
  have amounts : ∀ s : Fin 8, ((Int32.ofInt s.val).toBitVec.smod 32).toNat = s := by decide
  have shift : (val >>> Int32.ofInt s).toBitVec = val.toBitVec.sshiftRight s := by
    rw [Int32.toBitVec_shiftRight, BitVec.sshiftRight', amounts ⟨s, few⟩]
  rw [base64Digit_eq, sextet, sextet, ← is]
  refine congrArg (base64Table.getD · 0) (Nat.eq_of_testBit_eq fun i => ?_)
  rw [Nat.testBit_mod_two_pow _ 6 i, Nat.testBit_mod_two_pow _ 6 i, Nat.testBit_div_two_pow]
  by_cases low : i < 6
  · have inside : s + i < 32 := by omega
    have notOver : ¬ 32 ≤ i := by omega
    have bit := BitVec.getLsbD_sshiftRight val.toBitVec s i
    rw [if_pos inside, decide_eq_false notOver, Nat.add_comm] at bit
    rw [bits, shift]
    exact congrArg (decide (i < 6) && ·) bit
  · simp [low]

section

variable (c : UInt8) (rest : Bytes)

theorem encodeBytes_first (is : (bits val * 256 + c.toNat) % 4294967296 / 4 % 64 = digit % 64) :
    ∃ val', bits val' = (bits val * 256 + c.toNat) % 4294967296 ∧
      encodeBytes val (-6) output (c :: rest) =
        encodeBytes val' (-4) (output ++ [sextet digit]) rest := by
  refine ⟨_, bits_shiftIn val c, ?_⟩
  rw [← bits_shiftIn] at is
  rw [encodeBytes, pushDigits, if_pos (by decide), pushDigits, if_neg (by decide),
    ← base64Digit_shiftRight (s := 2) _ _ (by decide) is]
  rfl

theorem encodeBytes_second (is : (bits val * 256 + c.toNat) % 4294967296 / 16 % 64 = digit % 64) :
    ∃ val', bits val' = (bits val * 256 + c.toNat) % 4294967296 ∧
      encodeBytes val (-4) output (c :: rest) =
        encodeBytes val' (-2) (output ++ [sextet digit]) rest := by
  refine ⟨_, bits_shiftIn val c, ?_⟩
  rw [← bits_shiftIn] at is
  rw [encodeBytes, pushDigits, if_pos (by decide), pushDigits, if_neg (by decide),
    ← base64Digit_shiftRight (s := 4) _ _ (by decide) is]
  rfl

theorem encodeBytes_third (is : (bits val * 256 + c.toNat) % 4294967296 % 4096 = digit % 4096) :
    ∃ val', encodeBytes val (-2) output (c :: rest) =
      encodeBytes val' (-6) (output ++ [sextet (digit / 64)] ++ [sextet digit]) rest := by
  refine ⟨val <<< 8 + Int32.ofNat c.toNat, ?_⟩
  rw [← bits_shiftIn] at is
  have high : bits (val <<< 8 + Int32.ofNat c.toNat) / 2 ^ 6 % 64 = digit / 64 % 64 := by omega
  have low : bits (val <<< 8 + Int32.ofNat c.toNat) / 2 ^ 0 % 64 = digit % 64 := by omega
  rw [encodeBytes, pushDigits, if_pos (by decide), pushDigits, if_pos (by decide), pushDigits,
    if_neg (by decide), ← base64Digit_shiftRight _ _ (by decide) high,
    ← base64Digit_shiftRight _ _ (by decide) low]
  rfl

end

theorem padGroup_eq (output : Bytes) :
    padGroup output = output ++ List.replicate ((4 - output.length % 4) % 4) 61 := by
  fun_induction padGroup output with
  | case1 output whole => simp [whole]
  | case2 output short ih =>
    have one : (4 - output.length % 4) % 4 = (4 - (output ++ [61]).length % 4) % 4 + 1 := by
      rw [List.length_append, List.length_singleton]
      omega
    rw [ih, one, List.replicate_succ, List.append_assoc]
    rfl

def finish (encoded : Int32 × Int × Bytes) : Bytes :=
  padGroup (if encoded.2.1 > -6 then
    encoded.2.2 ++ [base64Digit ((encoded.1 <<< 8) >>> Int32.ofInt (encoded.2.1 + 8))]
    else encoded.2.2)

theorem finish_last (few : s < 8) (more : 2 < s)
    (is : bits val * 256 % 4294967296 / 2 ^ s % 64 = digit % 64) :
    finish (val, s - 8, output) = padGroup (output ++ [sextet digit]) := by
  rw [← bits_shiftLeft] at is
  rw [finish, if_pos (show (s : Int) - 8 > -6 by omega), Int.sub_add_cancel,
    base64Digit_shiftRight _ _ few is]

/-- Whole groups leave nothing in the accumulator that reaches the digits after them. -/
theorem finish_encodeBytes (input : Bytes) (val : Int32) {output : Bytes}
    (whole : output.length % 4 = 0) :
    finish (encodeBytes val (-6) output input) = output ++ rfc4648 input := by
  fun_induction rfc4648 input generalizing val output with
  | case1 a b c rest group ih =>
    have := b.toNat_lt
    have := c.toNat_lt
    obtain ⟨first, bits₁, step₁⟩ :=
      encodeBytes_first val output (group / 262144) a (b :: c :: rest) (by omega)
    obtain ⟨second, bits₂, step₂⟩ :=
      encodeBytes_second first _ (group / 4096) b (c :: rest) (by omega)
    obtain ⟨third, step₃⟩ := encodeBytes_third second _ group c rest (by omega)
    rw [step₁, step₂, step₃, ih _ (by simp; omega)]
    simp
  | case2 a b group =>
    have := b.toNat_lt
    obtain ⟨first, bits₁, step₁⟩ := encodeBytes_first val output (group / 4096) a [b] (by omega)
    obtain ⟨second, bits₂, step₂⟩ := encodeBytes_second first _ (group / 64) b [] (by omega)
    rw [step₁, step₂]
    refine (finish_last (s := 6) second _ group (by decide) (by decide) (by omega)).trans ?_
    simp [padGroup_eq, Nat.add_mod, whole]
  | case3 a =>
    obtain ⟨first, bits₁, step₁⟩ :=
      encodeBytes_first val output (a.toNat * 16 / 64) a [] (by omega)
    rw [step₁]
    refine (finish_last (s := 4) first _ (a.toNat * 16) (by decide) (by decide) (by omega)).trans ?_
    simp [padGroup_eq, Nat.add_mod, whole, List.replicate]
  | case4 => simp [encodeBytes, finish, padGroup_eq, whole]

theorem base64Encode_eq (input : Bytes) : base64Encode input = rfc4648 input :=
  finish_encodeBytes input 0 rfl

/-- **`Base64Encode` is the encoding of RFC 4648**, so that it can be decoded. -/
theorem base64Encode_is_rfc4648 (input : Bytes) :
    base64Encode input = rfc4648 input ∧ decode4648 (base64Encode input) = some input :=
  ⟨base64Encode_eq input, by rw [base64Encode_eq, decode4648_rfc4648]⟩

theorem length_base64Encode (input : Bytes) :
    (base64Encode input).length = 4 * ((input.length + 2) / 3) := by
  rw [base64Encode_eq]
  fun_induction rfc4648 input with
  | case1 a b c rest group ih =>
    simp only [List.length_cons, ih]
    omega
  | case2 | case3 | case4 => simp

end OnlineJudge.Sandbox
