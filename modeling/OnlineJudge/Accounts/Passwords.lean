import OnlineJudge.Submissions.Creation

/-!
# Password hashes

`BuildPasswordHash` and `VerifyPasswordHash` (`control_auth.hpp`).  A hash is a salt, a number of
rounds and a digest, joined by dollar signs.  SHA-256 and the pepper are parameters.
-/

namespace OnlineJudge.Accounts

open List

variable (data : List UInt8)

theorem dollar_not_mem_toHex : 36 ∉ toHex data := by
  have digits : ∀ value < 16, hexDigit value ≠ 36 := by decide
  exact fun mem => forall_mem_toHex (P := (· ≠ 36)) digits 36 mem rfl

/-- SHA-256, and `PasswordPepper`. -/
structure Hashing where
  sha256 : Bytes → Fin 32 → UInt8
  pepper : Bytes

variable (hashing : Hashing)

def sha256Hex (input : Bytes) : Bytes := toHex (List.ofFn (hashing.sha256 input))

@[simp]
theorem length_sha256Hex (input : Bytes) : (sha256Hex hashing input).length = 64 := by
  simp [sha256Hex]

def digestAfter (password salt : Bytes) : Nat → Bytes
  | 0 => sha256Hex hashing (salt ++ text ":" ++ password ++ text ":" ++ hashing.pepper)
  | rounds + 1 =>
    sha256Hex hashing
      (digestAfter password salt rounds ++ text ":" ++ salt ++ text ":" ++ hashing.pepper)

def derivePasswordDigest (password salt : Bytes) (iterations : Nat) : Bytes :=
  digestAfter hashing password salt (iterations - 1)

section

variable (password salt : Bytes) (iterations : Nat)

theorem exists_derivePasswordDigest :
    ∃ input, derivePasswordDigest hashing password salt iterations = sha256Hex hashing input := by
  unfold derivePasswordDigest
  cases iterations - 1 with
  | zero | succ => exact ⟨_, rfl⟩

theorem length_derivePasswordDigest :
    (derivePasswordDigest hashing password salt iterations).length = 64 := by
  obtain ⟨input, digest⟩ := exists_derivePasswordDigest hashing password salt iterations
  rw [digest, length_sha256Hex]

theorem dollar_not_mem_derivePasswordDigest :
    36 ∉ derivePasswordDigest hashing password salt iterations := by
  obtain ⟨input, digest⟩ := exists_derivePasswordDigest hashing password salt iterations
  rw [digest]
  exact dollar_not_mem_toHex _

end

def passwordAlgoTag : Bytes := text "sha256_iter_v1"

def passwordIterations : Nat := 120000

def joinPasswordHash (salt digest : Bytes) : Bytes :=
  salt ++ text "$" ++ decimal passwordIterations ++ text "$" ++ digest

/-- `BuildPasswordHash`; `random` are the bytes of `GenerateSaltHex`, if there are any. -/
def buildPasswordHash (password : Bytes) (random : Option (Fin 16 → UInt8)) : Bytes :=
  match random with
  | none => []
  | some raw =>
    let salt := toHex (List.ofFn raw)
    joinPasswordHash salt (derivePasswordDigest hashing password salt passwordIterations)

/-- `StringUtil::SplitString` by one character, which drops empty tokens. -/
def splitString (str : Bytes) (space : UInt8) : List Bytes :=
  (str.splitOn space).filter (!·.isEmpty)

/-- `std::stoi`; `none` where it throws. -/
def stoi (encoded : Bytes) : Option Int :=
  let rest := encoded.dropWhile Submissions.isSpace
  let signed := rest.head? = some 45 || rest.head? = some 43
  let digits := (if signed then rest.tail else rest).takeWhile fun byte => 48 ≤ byte && byte ≤ 57
  (parseDecimal digits).bind fun value =>
    let value : Int := if rest.head? = some 45 then -value else value
    if -2147483648 ≤ value && value ≤ 2147483647 then some value else none

def verifyPasswordHash (password storedHash algo : Bytes) : Bool :=
  if algo ≠ passwordAlgoTag then false
  else
    match splitString storedHash 36 with
    | [salt, iterations, digest] =>
      match stoi iterations with
      | none => false
      | some iter =>
        if iter ≠ passwordIterations || salt.length ≠ 32 || digest.length ≠ 64 then false
        else derivePasswordDigest hashing password salt passwordIterations = digest
    | _ => false

def dummyPasswordHash : Bytes :=
  let salt := List.replicate 32 48
  joinPasswordHash salt
    (derivePasswordDigest hashing (text "invalid-password") salt passwordIterations)

variable (password : Bytes)

def isPasswordStrongEnough : Bool :=
  !(password.length < 8 || 72 < password.length) &&
    (password.any fun ch => (65 ≤ ch && ch ≤ 90) || (97 ≤ ch && ch ≤ 122)) &&
    password.any fun ch => 48 ≤ ch && ch ≤ 57

variable (raw : Fin 16 → UInt8)

theorem ascii_buildPasswordHash :
    ∀ byte ∈ buildPasswordHash hashing password (some raw), byte ≤ 0x7F := by
  have dollar : text "$" = [36] := by decide +kernel
  obtain ⟨input, digest⟩ := exists_derivePasswordDigest hashing password (toHex (List.ofFn raw))
    passwordIterations
  intro byte mem
  simp only [buildPasswordHash, joinPasswordHash, digest, dollar, mem_append, mem_singleton] at mem
  rcases mem with (((salt | rfl) | rounds) | rfl) | last
  · exact ascii_toHex _ byte salt
  · decide
  · exact (bounds_of_mem_decimal rounds).2.trans (by decide)
  · decide
  · exact ascii_toHex _ byte last

theorem length_buildPasswordHash :
    (buildPasswordHash hashing password (some raw)).length = 104 := by
  have dollar : text "$" = [36] := by decide +kernel
  have rounds : (decimal passwordIterations).length = 6 := by decide +kernel
  simp [buildPasswordHash, joinPasswordHash, length_derivePasswordDigest, dollar, rounds]

theorem splitString_joinPasswordHash {salt digest : Bytes} (salted : salt ≠ [])
    (digested : digest ≠ []) (plain : 36 ∉ salt) (plain' : 36 ∉ digest) :
    splitString (joinPasswordHash salt digest) 36 = [salt, decimal passwordIterations, digest] := by
  have dollar : text "$" = [36] := by decide +kernel
  have rounds : 36 ∉ decimal passwordIterations := fun mem =>
    absurd (bounds_of_mem_decimal mem).1 (by decide)
  have rounded : decimal passwordIterations ≠ [] := by
    intro empty
    have read := parseDecimal_decimal passwordIterations
    rw [empty] at read
    cases read
  have shape : joinPasswordHash salt digest =
      salt ++ 36 :: (decimal passwordIterations ++ 36 :: digest) := by
    simp [joinPasswordHash, dollar]
  rw [splitString, shape, splitOn_append_cons_self, splitOn_append_cons_self,
    splitOn_eq_singleton plain, splitOn_eq_singleton rounds,
    splitOn_eq_singleton plain']
  simp [salted, rounded, digested]

theorem stoi_passwordIterations : stoi (decimal passwordIterations) = some passwordIterations := by
  decide +kernel

theorem verifyPasswordHash_join {salt digest : Bytes} (salted : salt.length = 32)
    (digested : digest.length = 64) (plain : 36 ∉ salt) (plain' : 36 ∉ digest) (password : Bytes) :
    verifyPasswordHash hashing password (joinPasswordHash salt digest) passwordAlgoTag =
      decide (derivePasswordDigest hashing password salt passwordIterations = digest) := by
  have salt_ne : salt ≠ [] := ne_nil_of_length_pos (by omega)
  have digest_ne : digest ≠ [] := ne_nil_of_length_pos (by omega)
  simp [verifyPasswordHash, splitString_joinPasswordHash salt_ne digest_ne plain plain',
    stoi_passwordIterations, salted, digested]

/-- **What is built from a password verifies it.** -/
theorem verifyPasswordHash_build :
    verifyPasswordHash hashing password (buildPasswordHash hashing password (some raw))
      passwordAlgoTag = true := by
  have verified := verifyPasswordHash_join hashing (length_toHex (List.ofFn raw))
    (length_derivePasswordDigest hashing password (toHex (List.ofFn raw)) passwordIterations)
    (dollar_not_mem_toHex _) (dollar_not_mem_derivePasswordDigest hashing password _ _) password
  rw [buildPasswordHash, verified, decide_eq_true rfl]

end OnlineJudge.Accounts
