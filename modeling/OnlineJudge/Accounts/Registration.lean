import OnlineJudge.Accounts.Passwords
import OnlineJudge.Accounts.UserTable

/-!
# Registration

`VerifyEmailAuthCodeAndLogin` (`control_auth.hpp`) deletes the code as soon as it has matched, so
that a later error has spent it, and after `CreateUser` leaves a row without a password.
-/

namespace OnlineJudge.Accounts

open UserTable CommandFate

open Submissions (trim)

/-! ## The call -/

inductive AuthStep
  | getCode
  | incrAttempts
  | expireAttempts
  | delCode
  | delAttempts
  | checkUser
  | createUser
  | setUserPassword
  | updateLastLogin
  | getUser
  deriving DecidableEq

inductive AuthError
  | codeExpired
  | codeMismatch
  | attemptsExceeded
  | registerNameRequired
  | weakPassword
  | createUserFailed
  | passwordHashFailed
  | updatePasswordFailed
  | loadUserFailed
  | redisError
  deriving DecidableEq

namespace AuthError

def errCode : AuthError → String
  | .codeExpired => "CODE_EXPIRED"
  | .codeMismatch => "CODE_MISMATCH"
  | .attemptsExceeded => "ATTEMPTS_EXCEEDED"
  | .registerNameRequired => "REGISTER_NAME_REQUIRED"
  | .weakPassword => "WEAK_PASSWORD"
  | .createUserFailed => "CREATE_USER_FAILED"
  | .passwordHashFailed => "PASSWORD_HASH_FAILED"
  | .updatePasswordFailed => "UPDATE_PASSWORD_FAILED"
  | .loadUserFailed => "LOAD_USER_FAILED"
  | .redisError => "REDIS_ERROR"

def concernsCode : AuthError → Bool
  | .codeExpired | .codeMismatch | .attemptsExceeded => true
  | _ => false

end AuthError

structure AuthRequest where
  email : Bytes
  code : Bytes
  optionalName : Bytes
  optionalPassword : Bytes
  now : Int
  /-- `GetTimeStamp`. -/
  time : DateTime
  /-- The next value of `AUTO_INCREMENT`. -/
  uid : UInt32
  /-- The bytes for the salt, if `RAND_bytes` has any. -/
  random : Option (Fin 16 → UInt8)

def buildDefaultUserName (email optionalName : Bytes) (now : DateTime) : Bytes :=
  let name := trim optionalName
  if !name.isEmpty then name.take 64
  else
    let start := email.takeWhile (· ≠ 64)
    let start := if start.isEmpty then text "user" else start
    start.take 32 ++ text "_" ++ decimalInt ((now.tdiv 1000000).tmod 100000)

def AuthRequest.name (request : AuthRequest) : Bytes :=
  buildDefaultUserName request.email (trim request.optionalName) request.time

structure AccountStores (collation : Collation) where
  codes : ExpiringStore Bytes Bytes Int
  attempts : ExpiringStore Bytes Nat Int
  users : UserTable collation

variable {collation : Collation}

namespace AccountStores

variable (s : AccountStores collation) (hashing : Hashing) (request : AuthRequest)
  (fate : AuthStep → CommandFate)

def deleteCode : Except AuthError Unit × AccountStores collation :=
  let codes := s.codes.del (buildAuthCodeKey request.email)
  let s := { s with codes := (fate .delCode).select s.codes codes }
  if (fate .delCode).throws then (.error .redisError, s)
  else
    let attempts := s.attempts.del (buildAuthAttemptsKey request.email)
    let s := { s with attempts := (fate .delAttempts).select s.attempts attempts }
    if (fate .delAttempts).throws then (.error .redisError, s) else (.ok (), s)

def countMismatch : AuthError × AccountStores collation :=
  let key := buildAuthAttemptsKey request.email
  let (attempts, count) := s.attempts.incr request.now key
  let s := { s with attempts := (fate .incrAttempts).select s.attempts attempts }
  if (fate .incrAttempts).throws then (.redisError, s)
  else
    let attempts := s.attempts.expire request.now key (request.now + codeTtl)
    let s :=
      if count = 1 then
        { s with attempts := (fate .expireAttempts).select s.attempts attempts }
      else s
    if count = 1 && (fate .expireAttempts).throws then (.redisError, s)
    else if count ≥ maxAttempts then
      let (deleted, s) := s.deleteCode request fate
      match deleted with
      | .ok () => (.attemptsExceeded, s)
      | .error error => (error, s)
    else (.codeMismatch, s)

def verifyCode : Except AuthError Unit × AccountStores collation :=
  if (fate .getCode).throws then (.error .redisError, s)
  else
    match s.codes.get request.now (buildAuthCodeKey request.email) with
    | none => (.error .codeExpired, s)
    | some cached =>
      if cached ≠ request.code then
        let (error, s) := s.countMismatch request fate
        (.error error, s)
      else s.deleteCode request fate

def createAccount : Except AuthError Unit × AccountStores collation :=
  if (trim request.optionalName).isEmpty then (.error .registerNameRequired, s)
  else if !isPasswordStrongEnough request.optionalPassword then (.error .weakPassword, s)
  else
    let (users, created) := (fate .createUser).run s.users
      (s.users.createUser request.uid request.name request.email request.time)
    let s := { s with users }
    if !created then (.error .createUserFailed, s)
    else
      let hash := buildPasswordHash hashing request.optionalPassword request.random
      if hash.isEmpty then (.error .passwordHashFailed, s)
      else
        let (users, stored) := (fate .setUserPassword).run s.users
          (s.users.setUserPassword request.email hash passwordAlgoTag request.time)
        let s := { s with users }
        if !stored then (.error .updatePasswordFailed, s) else (.ok (), s)

def loadUser (isNewUser : Bool) : Except AuthError (User × Bool) × AccountStores collation :=
  let users := ((fate .updateLastLogin).run s.users
    (s.users.updateLastLogin request.email request.time)).1
  let s := { s with users }
  if (fate .getUser).throws then (.error .loadUserFailed, s)
  else
    match s.users.findByEmail request.email with
    | none => (.error .loadUserFailed, s)
    | some user => (.ok (user, isNewUser), s)

def enter : Except AuthError (User × Bool) × AccountStores collation :=
  if !(fate .checkUser).throws && (s.users.findByEmail request.email).isSome then
    s.loadUser request fate false
  else
    match s.createAccount hashing request fate with
    | (.error error, s) => (.error error, s)
    | (.ok (), s) => s.loadUser request fate true

/-- `VerifyEmailAuthCodeAndLogin`; the user, and `is_new_user`. -/
def verifyEmailAuthCodeAndLogin : Except AuthError (User × Bool) × AccountStores collation :=
  match s.verifyCode request fate with
  | (.error error, s) => (.error error, s)
  | (.ok (), s) => s.enter hashing request fate

end AccountStores

/-! ## All or nothing -/

section

variable (s : AccountStores collation) (hashing : Hashing) (request : AuthRequest)
  (fate : AuthStep → CommandFate)

/-- A call that returns `false` leaves no row for the address and, unless the code was missing,
wrong or exhausted, leaves the code that was there. -/
def RegisteredOrUnchanged : Prop :=
  ∀ error after, s.verifyEmailAuthCodeAndLogin hashing request fate = (.error error, after) →
    after.users.findByEmail request.email = none ∧
      (error.concernsCode = false → ∀ issued,
        s.codes.get request.now (buildAuthCodeKey request.email) = some issued →
          after.codes.get request.now (buildAuthCodeKey request.email) = some issued)

def DeletesWhole : Prop :=
  fate .delCode = .notExecuted ∨ (fate .delCode = .answered ∧ fate .delAttempts = .answered)

/-- Nothing is wrong with the request, and nothing fails after the code has been deleted, except
perhaps `CheckUser` and `UpdateLastLogin`. -/
structure Registers : Prop where
  named : trim request.optionalName ≠ []
  strong : isPasswordStrongEnough request.optionalPassword = true
  fits : (newUser request.uid request.name request.email request.time).fits = true
  free : ∀ user ∈ s.users.rows, user.uid ≠ request.uid ∧
    collation.equal user.name request.name = false
  created : fate .createUser = .answered
  random : request.random.isSome = true
  stored : fate .setUserPassword = .answered
  loaded : fate .getUser = .answered

def Settles : Prop :=
  match s.codes.get request.now (buildAuthCodeKey request.email) with
  | none => True
  | some cached =>
    (fate .getCode).throws = true ∨
      if cached = request.code then
        fate .delCode = .notExecuted ∨
          (fate .delCode = .answered ∧ fate .delAttempts = .answered ∧ Registers s request fate)
      else
        (fate .incrAttempts).throws = true ∨
          (s.attempts.get request.now (buildAuthAttemptsKey request.email)).getD 0 + 1 <
            maxAttempts ∨
          DeletesWhole fate

end

namespace AccountStores

variable {s : AccountStores collation} {hashing : Hashing} {request : AuthRequest}
  {fate : AuthStep → CommandFate}

@[simp]
theorem users_deleteCode : (s.deleteCode request fate).2.users = s.users := by
  unfold deleteCode
  split
  · rfl
  · split <;> rfl

@[simp]
theorem codes_deleteCode :
    (s.deleteCode request fate).2.codes =
      (fate .delCode).select s.codes (s.codes.del (buildAuthCodeKey request.email)) := by
  unfold deleteCode
  split
  · rfl
  · split <;> rfl

theorem deleteCode_spec (fate : AuthStep → CommandFate) {cached : Bytes}
    (found : s.codes.get request.now (buildAuthCodeKey request.email) = some cached) :
    ((s.deleteCode request fate).1 = .ok () ∧ fate .delCode = .answered ∧
        fate .delAttempts = .answered ∨
      (s.deleteCode request fate).1 = .error .redisError ∧
        ¬ (fate .delCode = .answered ∧ fate .delAttempts = .answered)) ∧
      (s.deleteCode request fate).2.codes.get request.now (buildAuthCodeKey request.email) =
        if fate .delCode = .notExecuted then some cached else none := by
  constructor
  · unfold deleteCode
    cases fate .delCode <;> cases fate .delAttempts <;> simp [throws]
  · rw [codes_deleteCode]
    cases fate .delCode with
    | notExecuted => exact found
    | answered | replyLost => exact ExpiringStore.get_del ..

theorem users_countMismatch : (s.countMismatch request fate).2.users = s.users := by
  unfold countMismatch
  dsimp only
  repeat' split
  all_goals first | rfl | exact users_deleteCode

theorem users_verifyCode : (s.verifyCode request fate).2.users = s.users := by
  have counted : (s.countMismatch request fate).2.users = s.users := users_countMismatch
  unfold verifyCode
  dsimp only
  repeat' split
  · rfl
  · rfl
  · exact counted
  · exact users_deleteCode

/-- Counting a wrong code spends it on an error of Redis only where its deletion is not whole. -/
theorem countMismatch_keeps_iff (fate : AuthStep → CommandFate) {cached : Bytes}
    (found : s.codes.get request.now (buildAuthCodeKey request.email) = some cached) :
    ((s.countMismatch request fate).1.concernsCode = false →
      (s.countMismatch request fate).2.codes.get request.now (buildAuthCodeKey request.email) =
        some cached) ↔
      (fate .incrAttempts).throws = true ∨
        (s.attempts.get request.now (buildAuthAttemptsKey request.email)).getD 0 + 1 <
          maxAttempts ∨
        DeletesWhole fate := by
  have counted := (s.attempts.get_incr request.now (buildAuthAttemptsKey request.email)).1
  rw [countMismatch]
  generalize s.attempts.incr request.now (buildAuthAttemptsKey request.email) = incremented
    at counted ⊢
  obtain ⟨attempts, count⟩ := incremented
  dsimp only at counted ⊢
  rw [← counted]
  split
  · rename_i thrown
    exact ⟨fun _ => .inl thrown, fun _ _ => found⟩
  rename_i answered
  generalize expired : ite (count = 1) _ _ = t
  have codes : t.codes = s.codes := by
    rw [← expired]
    split <;> rfl
  rw [← codes] at found
  split
  · rename_i failed
    have first : count = 1 := by simp at failed; exact failed.1
    have few : count < maxAttempts := by rw [first]; decide
    exact ⟨fun _ => .inr (.inl few), fun _ _ => found⟩
  · split
    · rename_i many
      have enough : ¬ count < maxAttempts := Nat.not_lt.mpr many
      obtain ⟨seen, after⟩ := deleteCode_spec fate found
      rcases deleted : t.deleteCode request fate with ⟨result, t'⟩
      rw [deleted] at seen after
      rcases seen with ⟨rfl, whole⟩ | ⟨rfl, partly⟩
      · exact ⟨fun _ => .inr (.inr (.inr whole)),
          fun _ spent => (Bool.false_ne_true spent.symm).elim⟩
      refine ⟨fun kept => ?_, ?_⟩
      · have present := kept rfl
        rw [after] at present
        split at present
        · rename_i unexecuted
          exact .inr (.inr (.inl unexecuted))
        · cases present
      · rintro (thrown | few | unexecuted | whole) _
        · exact absurd thrown answered
        · exact absurd few enough
        · rw [after, if_pos unexecuted]
        · exact absurd whole partly
    · rename_i few
      exact ⟨fun _ => .inr (.inl (Nat.not_le.mp few)),
        fun _ spent => (Bool.false_ne_true spent.symm).elim⟩

/-! ### The account -/

def Spends {α : Type} (s : AccountStores collation)
    (outcome : Except AuthError α × AccountStores collation) : Prop :=
  outcome.2.codes = s.codes ∧ ∀ error, outcome.1 = .error error → error.concernsCode = false

theorem spends_createAccount : Spends s (s.createAccount hashing request fate) := by
  unfold createAccount
  dsimp only
  repeat' split
  all_goals exact ⟨rfl, fun _ failed => by cases failed <;> rfl⟩

theorem spends_loadUser (isNewUser : Bool) : Spends s (s.loadUser request fate isNewUser) := by
  unfold loadUser
  dsimp only
  repeat' split
  all_goals exact ⟨rfl, fun _ failed => by cases failed <;> rfl⟩

theorem spends_enter : Spends s (s.enter hashing request fate) := by
  unfold enter
  split
  · exact spends_loadUser false
  have created : Spends s (s.createAccount hashing request fate) := spends_createAccount
  split
  · rename_i error t outcome
    rw [outcome] at created
    exact ⟨created.1, fun error' failed => created.2 error' (by cases failed; rfl)⟩
  rename_i t outcome
  rw [outcome] at created
  have loaded : Spends t (t.loadUser request fate true) := spends_loadUser true
  exact ⟨loaded.1.trans created.1, loaded.2⟩

theorem fits_withPassword {user : User} (fits : user.fits = true) (hashing : Hashing)
    (password : Bytes) (raw : Fin 16 → UInt8) (time : DateTime) :
    (user.withPassword (buildPasswordHash hashing password (some raw)) passwordAlgoTag time).fits =
      true := by
  have hash : Accounts.fits 255 (buildPasswordHash hashing password (some raw)) = true :=
    fits_of_ascii (ascii_buildPasswordHash hashing password raw)
      (by rw [length_buildPasswordHash]; decide)
  have algo : Accounts.fits 32 passwordAlgoTag = true := by decide +kernel
  simp only [User.fits, User.withPassword, Bool.and_eq_true] at fits ⊢
  exact ⟨⟨⟨fits.1.1.1, hash⟩, fits.1.2⟩, algo⟩

theorem createAccount_of_registers (hashing : Hashing)
    (absent : s.users.findByEmail request.email = none) (registers : Registers s request fate) :
    ∃ t user, s.createAccount hashing request fate = (.ok (), t) ∧
      t.users.findByEmail request.email = some user := by
  obtain ⟨raw, random⟩ := Option.isSome_iff_exists.mp registers.random
  have distinct : ∀ row ∈ s.users.rows, collation.distinct row
      (newUser request.uid request.name request.email request.time) = true := by
    intro row mem
    obtain ⟨uid, name⟩ := registers.free row mem
    exact Collation.distinct_iff.mpr ⟨uid, name, UserTable.findBy_eq_none_iff.mp absent row mem⟩
  obtain ⟨users, inserted, rows⟩ := exists_insert registers.fits distinct
  have found : users.findByEmail request.email =
      some (newUser request.uid request.name request.email request.time) :=
    UserTable.findByEmail_eq_some_iff.mpr ⟨by simp [rows], Collation.equal_self request.email⟩
  have fits := fits_withPassword registers.fits hashing request.optionalPassword raw request.time
  obtain ⟨after, stored, found'⟩ := exists_modify
    (·.withPassword (buildPasswordHash hashing request.optionalPassword (some raw)) passwordAlgoTag
      request.time) found rfl rfl rfl fits
  have nonempty :
      (buildPasswordHash hashing request.optionalPassword (some raw)).isEmpty = false := by
    rw [← Bool.not_eq_true, List.isEmpty_iff_length_eq_zero, length_buildPasswordHash]
    decide
  have created : s.users.createUser request.uid request.name request.email request.time =
      some users := inserted
  have set : users.setUserPassword request.email
      (buildPasswordHash hashing request.optionalPassword (some raw)) passwordAlgoTag request.time =
        some after := stored
  refine ⟨{ s with users := after }, _, ?_, found'⟩
  have named : (trim request.optionalName).isEmpty = false := by
    simpa using registers.named
  simp [createAccount, named, registers.strong, created, registers.created, run,
    select, throws, random, nonempty, set, registers.stored]

theorem registers_of_createAccount (loaded : fate .getUser = .answered)
    (created : (s.createAccount hashing request fate).1 = .ok ()) : Registers s request fate := by
  unfold createAccount at created
  split at created <;> [cases created; skip]
  rename_i named
  split at created <;> [cases created; skip]
  rename_i strong
  dsimp only at created
  split at created <;> [cases created; skip]
  rename_i inserted
  split at created <;> [cases created; skip]
  rename_i hashed
  split at created <;> [cases created; skip]
  rename_i stored
  simp only [Bool.not_eq_true, Bool.not_eq_false'] at strong inserted stored
  obtain ⟨answered, row⟩ := CommandFate.run_eq_true_iff.mp inserted
  obtain ⟨fits, distinct, -⟩ := of_insert row
  refine
    { named := fun empty => named (by rw [empty]; rfl)
      strong := strong
      fits := fits
      free := fun user mem => ?_
      created := answered
      random := ?_
      stored := (CommandFate.run_eq_true_iff.mp stored).1
      loaded := loaded }
  · obtain ⟨uid, name, -⟩ := Collation.distinct_iff.mp (distinct user mem)
    exact ⟨uid, name⟩
  · cases random : request.random with
    | none => exact absurd (by rw [random]; rfl) hashed
    | some => rfl

/-- A row that is there is loaded, whatever becomes of `UpdateLastLogin`. -/
theorem loadUser_of_found {user : User} (found : s.users.findByEmail request.email = some user)
    (loaded : fate .getUser = .answered) (isNewUser : Bool) :
    ∃ result, (s.loadUser request fate isNewUser).1 = .ok result := by
  obtain ⟨after, updated, found'⟩ := exists_updateLastLogin found request.time
  cases fated : fate .updateLastLogin <;>
    simp [loadUser, loaded, updated, fated, found, found', run, select, throws]

theorem getUser_of_loadUser {isNewUser : Bool} {result : User × Bool}
    (loaded : (s.loadUser request fate isNewUser).1 = .ok result) : fate .getUser = .answered := by
  unfold loadUser at loaded
  cases fated : fate .getUser with
  | answered => rfl
  | replyLost | notExecuted => simp [fated, throws] at loaded

theorem enter_eq_ok_iff (absent : s.users.findByEmail request.email = none) :
    (∃ result, (s.enter hashing request fate).1 = .ok result) ↔ Registers s request fate := by
  have goesOn : s.enter hashing request fate =
      match s.createAccount hashing request fate with
      | (.error error, s) => (.error error, s)
      | (.ok (), s) => s.loadUser request fate true := by
    simp [enter, absent]
  rw [goesOn]
  constructor
  · rintro ⟨result, entered⟩
    split at entered
    · cases entered
    · rename_i t created
      exact registers_of_createAccount (getUser_of_loadUser entered) (by rw [created])
  · intro registers
    obtain ⟨t, user, created, found⟩ := createAccount_of_registers hashing absent registers
    rw [created]
    exact loadUser_of_found found registers.loaded true

section Rows

variable {P : User → Prop}

theorem forall_users_createAccount (all : ∀ row ∈ s.users.rows, P row)
    (fresh : ∀ uid name email now, P (newUser uid name email now))
    (password : ∀ row hash now, P row → P (row.withPassword hash passwordAlgoTag now)) :
    ∀ row ∈ (s.createAccount hashing request fate).2.users.rows, P row := by
  let users := ((fate .createUser).run s.users
    (s.users.createUser request.uid request.name request.email request.time)).1
  have created : ∀ row ∈ users.rows, P row := by
    refine forall_mem_run all (fun after inserted => ?_) (fate .createUser)
    exact forall_mem_insert all (fresh ..) inserted
  have stored (hash : Bytes) : ∀ row ∈ ((fate .setUserPassword).run users
      (users.setUserPassword request.email hash passwordAlgoTag request.time)).1.rows, P row := by
    refine forall_mem_run created (fun after modified => ?_) (fate .setUserPassword)
    exact forall_mem_modify created modified fun row => password row hash request.time
  unfold createAccount
  dsimp only
  repeat' split
  · exact all
  · exact all
  · exact created
  · exact created
  · exact stored _
  · exact stored _

theorem forall_users_loadUser (all : ∀ row ∈ s.users.rows, P row)
    (login : ∀ row now, P row → P (row.withLastLogin now)) (isNewUser : Bool) :
    ∀ row ∈ (s.loadUser request fate isNewUser).2.users.rows, P row := by
  have updated : ∀ row ∈ ((fate .updateLastLogin).run s.users
      (s.users.updateLastLogin request.email request.time)).1.rows, P row := by
    refine forall_mem_run all (fun after modified => ?_) (fate .updateLastLogin)
    exact forall_mem_modify all modified fun row => login row request.time
  unfold loadUser
  dsimp only
  repeat' split
  all_goals exact updated

/-- **What holds of all rows after a call**: that which holds of a new row and of a row with a new
password, and does not depend on the last login. -/
theorem forall_users_verify (all : ∀ row ∈ s.users.rows, P row)
    (fresh : ∀ uid name email now, P (newUser uid name email now))
    (password : ∀ row hash now, P row → P (row.withPassword hash passwordAlgoTag now))
    (login : ∀ row now, P row → P (row.withLastLogin now)) :
    ∀ row ∈ (s.verifyEmailAuthCodeAndLogin hashing request fate).2.users.rows, P row := by
  have unchanged : (s.verifyCode request fate).2.users = s.users := users_verifyCode
  rw [← unchanged] at all
  unfold verifyEmailAuthCodeAndLogin
  generalize s.verifyCode request fate = verified at all
  obtain ⟨error | matched, t⟩ := verified
  · exact all
  have all' : ∀ row ∈ t.users.rows, P row := all
  have created : ∀ row ∈ (t.createAccount hashing request fate).2.users.rows, P row :=
    forall_users_createAccount all' fresh password
  dsimp only [enter]
  split
  · exact forall_users_loadUser all' login false
  generalize t.createAccount hashing request fate = outcome at created
  obtain ⟨error | done, u⟩ := outcome
  · exact created
  · exact forall_users_loadUser created login true

end Rows

end AccountStores

open AccountStores

section

variable {s t after : AccountStores collation} {hashing : Hashing} {request : AuthRequest}
  {fate : AuthStep → CommandFate} {cached : Bytes}

theorem registeredOrUnchanged_iff_of_error {error : AuthError}
    (absent : s.users.findByEmail request.email = none)
    (found : s.codes.get request.now (buildAuthCodeKey request.email) = some cached)
    (returned : s.verifyEmailAuthCodeAndLogin hashing request fate = (.error error, after))
    (users : after.users = s.users) :
    RegisteredOrUnchanged s hashing request fate ↔
      (error.concernsCode = false →
        after.codes.get request.now (buildAuthCodeKey request.email) = some cached) := by
  unfold RegisteredOrUnchanged
  rw [returned, found]
  constructor
  · intro holds other
    exact (holds error after rfl).2 other cached rfl
  · rintro kept _ _ ⟨⟩
    exact ⟨by rw [users, absent], fun other issued same => same ▸ kept other⟩

theorem registeredOrUnchanged_iff_of_spent
    (found : s.codes.get request.now (buildAuthCodeKey request.email) = some cached)
    (spent : t.codes.get request.now (buildAuthCodeKey request.email) = none)
    (returned : s.verifyEmailAuthCodeAndLogin hashing request fate = t.enter hashing request fate) :
    RegisteredOrUnchanged s hashing request fate ↔
      ∃ result, (t.enter hashing request fate).1 = .ok result := by
  unfold RegisteredOrUnchanged
  have spends : Spends t (t.enter hashing request fate) := spends_enter
  rw [returned, found]
  generalize t.enter hashing request fate = outcome at spends ⊢
  obtain ⟨error | result, after⟩ := outcome
  · refine ⟨fun holds => ?_, fun ⟨_, impossible⟩ => nomatch impossible⟩
    have kept := (holds error after rfl).2 (spends.2 error rfl) cached rfl
    rw [spends.1, spent] at kept
    cases kept
  · exact ⟨fun _ => ⟨result, rfl⟩, fun _ _ _ impossible => nomatch impossible⟩

theorem Registers.of_users_eq (registers : Registers s request fate) (users : t.users = s.users) :
    Registers t request fate :=
  { registers with free := users ▸ registers.free }

theorem registeredOrUnchanged_iff_of_match (absent : s.users.findByEmail request.email = none)
    (found : s.codes.get request.now (buildAuthCodeKey request.email) = some cached)
    (verified : s.verifyCode request fate = s.deleteCode request fate) :
    RegisteredOrUnchanged s hashing request fate ↔
      fate .delCode = .notExecuted ∨
        (fate .delCode = .answered ∧ fate .delAttempts = .answered ∧
          Registers s request fate) := by
  obtain ⟨seen, kept⟩ := deleteCode_spec fate found
  have users : (s.deleteCode request fate).2.users = s.users := users_deleteCode
  rcases deleted : s.deleteCode request fate with ⟨result, t⟩
  rw [deleted] at seen kept users verified
  rcases seen with ⟨rfl, code, attempts⟩ | ⟨rfl, partly⟩
  · have spent : t.codes.get request.now (buildAuthCodeKey request.email) = none := by
      rw [kept, code]
      rfl
    have returned : s.verifyEmailAuthCodeAndLogin hashing request fate =
        t.enter hashing request fate := by
      rw [verifyEmailAuthCodeAndLogin, verified]
    rw [registeredOrUnchanged_iff_of_spent found spent returned,
      enter_eq_ok_iff (by rw [users, absent])]
    constructor
    · intro registers
      exact .inr ⟨code, attempts, registers.of_users_eq users.symm⟩
    · rintro (unexecuted | ⟨-, -, registers⟩)
      · rw [code] at unexecuted
        cases unexecuted
      · exact registers.of_users_eq users
  · have returned : s.verifyEmailAuthCodeAndLogin hashing request fate =
        (.error .redisError, t) := by
      rw [verifyEmailAuthCodeAndLogin, verified]
    rw [registeredOrUnchanged_iff_of_error absent found returned users, kept]
    constructor
    · intro present
      refine .inl ?_
      by_contra executed
      rw [if_neg executed] at present
      cases present rfl
    · rintro (unexecuted | ⟨code, attempts, -⟩) _
      · exact if_pos unexecuted
      · exact absurd ⟨code, attempts⟩ partly

end

/-- **All or nothing**: a call that returns `false` leaves no row and a code that was right exactly
where it does not come to the deletion of the code or finishes it, and finds nothing wrong after
that. -/
theorem registered_or_unchanged_iff (s : AccountStores collation) (hashing : Hashing)
    (request : AuthRequest) (fate : AuthStep → CommandFate)
    (absent : s.users.findByEmail request.email = none) :
    RegisteredOrUnchanged s hashing request fate ↔ Settles s request fate := by
  cases found : s.codes.get request.now (buildAuthCodeKey request.email) with
  | none =>
    have returned : ∃ error,
        s.verifyEmailAuthCodeAndLogin hashing request fate = (.error error, s) := by
      cases thrown : (fate .getCode).throws <;>
        simp [verifyEmailAuthCodeAndLogin, verifyCode, found, thrown]
    obtain ⟨error, returned⟩ := returned
    simp [RegisteredOrUnchanged, Settles, found, returned, absent]
  | some cached =>
    simp only [Settles, found]
    cases thrown : (fate .getCode).throws with
    | true =>
      have returned : s.verifyEmailAuthCodeAndLogin hashing request fate =
          (.error .redisError, s) := by
        simp [verifyEmailAuthCodeAndLogin, verifyCode, thrown]
      rw [registeredOrUnchanged_iff_of_error absent found returned rfl]
      exact ⟨fun _ => .inl rfl, fun _ _ => found⟩
    | false =>
      simp only [Bool.false_eq_true, false_or]
      by_cases equal : cached = request.code
      · rw [if_pos equal]
        refine registeredOrUnchanged_iff_of_match absent found ?_
        simp [verifyCode, found, thrown, equal]
      rw [if_neg equal]
      have users : (s.countMismatch request fate).2.users = s.users := users_countMismatch
      have returned : s.verifyEmailAuthCodeAndLogin hashing request fate =
          (.error (s.countMismatch request fate).1, (s.countMismatch request fate).2) := by
        simp [verifyEmailAuthCodeAndLogin, verifyCode, found, thrown, equal]
      rw [registeredOrUnchanged_iff_of_error absent found returned users]
      exact countMismatch_keeps_iff fate found

/-! ### A registration -/

def sentStores : AccountStores .ignoringCase where
  codes := fun key =>
    if key = buildAuthCodeKey (text "a@b.cd") then some ⟨text "123456", some 300000⟩ else none
  attempts := fun _ => none
  users := .empty _

def sampleHashing : Hashing := ⟨fun _ _ => 0, []⟩

def registration (random : Option (Fin 16 → UInt8)) : AuthRequest where
  email := text "a@b.cd"
  code := text "123456"
  optionalName := text "ann"
  optionalPassword := text "secret123"
  now := 1000
  time := 1
  uid := 1
  random

/-- A registration in which `CheckUser` and `UpdateLastLogin` fail. -/
theorem registered_or_unchanged_new_user :
    sentStores.users.findByEmail (text "a@b.cd") = none ∧
      RegisteredOrUnchanged sentStores sampleHashing (registration (some fun _ => 7))
        (fun step =>
          if step = .checkUser || step = .updateLastLogin then .replyLost else .answered) := by
  refine ⟨rfl, (registered_or_unchanged_iff _ _ _ _ rfl).mpr ?_⟩
  have found : sentStores.codes.get 1000 (buildAuthCodeKey (text "a@b.cd")) =
      some (text "123456") := by decide +kernel
  simp only [Settles, registration, found, if_true]
  exact .inr (.inr ⟨rfl, rfl, by decide +kernel, by decide +kernel, by decide +kernel, nofun, rfl,
    rfl, rfl, rfl⟩)

/-- `RAND_bytes` fails after `CreateUser`. -/
theorem account_without_password :
    (sentStores.verifyEmailAuthCodeAndLogin sampleHashing (registration none) fun _ =>
      .answered).1 = .error .passwordHashFailed ∧
      ¬ RegisteredOrUnchanged sentStores sampleHashing (registration none) fun _ => .answered := by
  have failed : (sentStores.verifyEmailAuthCodeAndLogin sampleHashing (registration none) fun _ =>
    .answered).1 = .error .passwordHashFailed := by decide +kernel
  refine ⟨failed, fun holds => ?_⟩
  have unchanged := (holds .passwordHashFailed _ (Prod.ext failed rfl)).1
  revert unchanged
  decide +kernel

end OnlineJudge.Accounts
