import OnlineJudge.Accounts.Registration

/-!
# Login with a password

`LoginWithPassword` (`control_auth.hpp`).  Every command and every transaction may fail;
`loginWithPassword_answered` is the call in which none does.
-/

namespace OnlineJudge.Accounts

open CommandFate

open Submissions (trim)

/-- The keys of Redis that count failures and lock accounts and clients; a lock has the value 1. -/
abbrev LoginRates := ExpiringStore Bytes Nat Int

def loginRateKey (hashing : Hashing) (scope dimension value suffix : Bytes) : Bytes :=
  text "oj:auth:password:" ++ scope ++ text ":" ++ dimension ++ text ":" ++
    sha256Hex hashing value ++ text ":" ++ suffix

inductive Dimension
  | account
  | ip
  deriving DecidableEq

namespace Dimension

def name : Dimension → Bytes
  | .account => text "account"
  | .ip => text "ip"

def threshold : Dimension → Nat
  | .account => 5
  | .ip => 50

end Dimension

/-- The keys of the scope `user`. -/
def attemptsKey (hashing : Hashing) (dimension : Dimension) (value : Bytes) : Bytes :=
  loginRateKey hashing (text "user") dimension.name value (text "attempts")

@[inherit_doc attemptsKey]
def lockKey (hashing : Hashing) (dimension : Dimension) (value : Bytes) : Bytes :=
  loginRateKey hashing (text "user") dimension.name value (text "lock")

def rateWindow : Nat := 900

def lockSeconds (attempts threshold : Nat) : Nat :=
  min rateWindow (5 * 2 ^ min 6 (attempts - threshold))

namespace LoginRates

variable (hashing : Hashing) (rates : LoginRates)

/-- `CheckPasswordLoginRate`: one of the two locks exists. -/
def locked (account clientIp : Bytes) (now : Int) : Bool :=
  (rates.get now (lockKey hashing .account account)).isSome ||
    (rates.get now (lockKey hashing .ip clientIp)).isSome

/-- The function `record` of the script of `RecordPasswordLoginFailure`. -/
def record (dimension : Dimension) (value : Bytes) (now : Int) : LoginRates :=
  let (rates, attempts) := rates.incr now (attemptsKey hashing dimension value)
  let rates :=
    if attempts = 1 then
      rates.expire now (attemptsKey hashing dimension value) (now + rateWindow * 1000)
    else rates
  if attempts ≥ dimension.threshold then
    rates.setEx (lockKey hashing dimension value) 1
      (now + lockSeconds attempts dimension.threshold * 1000)
  else rates

/-- `RecordPasswordLoginFailure`; the counters are numbers, so that the script does not refuse
them. -/
def recordFailure (account clientIp : Bytes) (now : Int) : LoginRates :=
  LoginRates.record hashing (LoginRates.record hashing rates .account account now) .ip clientIp now

end LoginRates

inductive LoginStep
  | checkRate
  | getUserByName
  /-- `GetUserPasswordAuth` for the address of the user of that name. -/
  | getPasswordAuthByName
  | getPasswordAuth
  | recordFailure
  | clearAttempts
  | clearLock
  | updateLastLogin
  | getUser
  deriving DecidableEq

structure LoginCall where
  emailOrUsername : Bytes
  password : Bytes
  clientIp : Bytes
  checkedAt : Int
  recordedAt : Int
  /-- `GetTimeStamp`. -/
  time : DateTime
  deriving DecidableEq

inductive LoginResult
  | tooManyRequests
  | invalidCredentials
  | loadUserFailed
  | redisError
  | loggedIn (user : User)
  deriving DecidableEq

def LoginResult.errCode : LoginResult → Option String
  | .tooManyRequests => some "TOO_MANY_REQUESTS"
  | .invalidCredentials => some "INVALID_CREDENTIALS"
  | .loadUserFailed => some "LOAD_USER_FAILED"
  | .redisError => some "REDIS_ERROR"
  | .loggedIn _ => none

variable {collation : Collation}

def CommandFate.query {α : Type} (fate : CommandFate) (found : Option α) : Option α :=
  if fate.throws then none else found

def UserTable.resolve (table : UserTable collation) (emailOrUsername : Bytes)
    (fate : LoginStep → CommandFate) : Option (Bytes × User) :=
  let byName := do
    let user ← (fate .getUserByName).query (table.findByName emailOrUsername)
    let row ← (fate .getPasswordAuthByName).query (table.findByEmail user.email)
    return (user.email, row)
  match byName with
  | some resolved => some resolved
  | none =>
    ((fate .getPasswordAuth).query (table.findByEmail emailOrUsername)).map (emailOrUsername, ·)

open UserTable

/-- `has_password`, for the row that was found. -/
def hasPassword (resolved : Option (Bytes × User)) : Bool :=
  resolved.any fun (_, row) => !row.passwordHash.isEmpty && row.passwordAlgo = passwordAlgoTag

/-- The password is compared with the hash, or with that of nobody; `true` if the call goes on. -/
def accepts (hashing : Hashing) (resolved : Option (Bytes × User)) (password : Bytes) : Bool :=
  let sizeValid : Bool := password.length ≤ 72
  let storedHash :=
    match resolved with
    | some (_, row) => if hasPassword resolved then row.passwordHash else dummyPasswordHash hashing
    | none => dummyPasswordHash hashing
  let passwordMatches := verifyPasswordHash hashing
    (if sizeValid then password else text "invalid-password") storedHash passwordAlgoTag
  hasPassword resolved && sizeValid && passwordMatches

structure LoginStores (collation : Collation) where
  rates : LoginRates
  users : UserTable collation

namespace LoginStores

variable (s : LoginStores collation) (hashing : Hashing) (call : LoginCall)
  (fate : LoginStep → CommandFate)

def reject : LoginResult × LoginStores collation :=
  let rates :=
    LoginRates.recordFailure hashing s.rates call.emailOrUsername call.clientIp call.recordedAt
  let s := { s with rates := (fate .recordFailure).select s.rates rates }
  (if (fate .recordFailure).throws then .redisError else .invalidCredentials, s)

/-- The password is right: `ClearPasswordLoginAccountRate`, and the user is loaded. -/
def accept (resolvedEmail : Bytes) : LoginResult × LoginStores collation :=
  let rates := s.rates.del (attemptsKey hashing .account call.emailOrUsername)
  let s := { s with rates := (fate .clearAttempts).select s.rates rates }
  if (fate .clearAttempts).throws then (.redisError, s)
  else
    let rates := s.rates.del (lockKey hashing .account call.emailOrUsername)
    let s := { s with rates := (fate .clearLock).select s.rates rates }
    if (fate .clearLock).throws then (.redisError, s)
    else
      let users := ((fate .updateLastLogin).run s.users
        (s.users.updateLastLogin resolvedEmail call.time)).1
      let s := { s with users }
      match (fate .getUser).query (s.users.findByEmail resolvedEmail) with
      | none => (.loadUserFailed, s)
      | some user => (.loggedIn user, s)

def loginWithPassword : LoginResult × LoginStores collation :=
  if (fate .checkRate).throws then (.redisError, s)
  else if LoginRates.locked hashing s.rates call.emailOrUsername call.clientIp call.checkedAt then
    (.tooManyRequests, s)
  else
    let resolved := s.users.resolve call.emailOrUsername fate
    if accepts hashing resolved call.password then
      s.accept hashing call fate ((resolved.map (·.1)).getD [])
    else s.reject hashing call fate

end LoginStores

section

variable {table : UserTable collation} {emailOrUsername email : Bytes} {row : User}

theorem UserTable.findByEmail_of_resolve {fate : LoginStep → CommandFate}
    (resolved : table.resolve emailOrUsername fate = some (email, row)) :
    table.findByEmail email = some row := by
  have of_query {fate : CommandFate} {found : Option User} (queried : fate.query found = some row) :
      found = some row := by
    unfold query at queried
    split at queried
    · cases queried
    · exact queried
  unfold resolve at resolved
  dsimp only at resolved
  split at resolved
  · rename_i named
    cases resolved
    obtain ⟨user, -, second⟩ := Option.bind_eq_some_iff.mp named
    obtain ⟨found, queried, last⟩ := Option.bind_eq_some_iff.mp second
    cases last
    exact of_query queried
  · obtain ⟨found, queried, last⟩ := Option.map_eq_some_iff.mp resolved
    cases last
    exact of_query queried

theorem UserTable.resolve_answered :
    table.resolve emailOrUsername (fun _ => .answered) =
      match table.findByName emailOrUsername with
      | some user => some (user.email, user)
      | none => (table.findByEmail emailOrUsername).map (emailOrUsername, ·) := by
  unfold resolve
  cases named : table.findByName emailOrUsername with
  | none => rfl
  | some user =>
    have found : table.findByEmail user.email = some user :=
      findByEmail_eq_some_iff.mpr
        ⟨(findByName_eq_some_iff.mp named).1, Collation.equal_self user.email⟩
    simp [query, throws, found]

end

namespace LoginStores

variable {s : LoginStores collation} {hashing : Hashing} {call : LoginCall}

theorem accept_answered {email : Bytes} {row : User}
    (found : s.users.findByEmail email = some row) :
    (s.accept hashing call (fun _ => .answered) email).1 =
      .loggedIn (row.withLastLogin call.time) := by
  obtain ⟨after, updated, found'⟩ := exists_updateLastLogin found call.time
  simp [accept, updated, found', run, query, throws, select]

theorem loginWithPassword_answered
    (unlocked : LoginRates.locked hashing s.rates call.emailOrUsername call.clientIp
      call.checkedAt = false) :
    (s.loginWithPassword hashing call fun _ => .answered).1 =
      match s.users.resolve call.emailOrUsername fun _ => .answered with
      | none => .invalidCredentials
      | some (email, row) =>
        if accepts hashing (some (email, row)) call.password then
          .loggedIn (row.withLastLogin call.time)
        else .invalidCredentials := by
  have answered : CommandFate.answered.throws = false := rfl
  rw [loginWithPassword]
  simp only [answered, unlocked, Bool.false_eq_true, if_false]
  cases resolved : s.users.resolve call.emailOrUsername fun _ => .answered with
  | none => simp [accepts, hasPassword, reject, answered]
  | some found =>
    obtain ⟨email, row⟩ := found
    dsimp only
    split
    · exact accept_answered (findByEmail_of_resolve resolved)
    · simp [reject, answered]

end LoginStores

theorem accepts_of_hash {hashing : Hashing} {row : User} {password : Bytes} {raw : Fin 16 → UInt8}
    (email : Bytes) (hashed : row.passwordHash = buildPasswordHash hashing password (some raw))
    (tagged : row.passwordAlgo = passwordAlgoTag) (short : password.length ≤ 72) :
    accepts hashing (some (email, row)) password = true := by
  have nonempty : row.passwordHash.isEmpty = false := by
    rw [hashed, ← Bool.not_eq_true, List.isEmpty_iff_length_eq_zero, length_buildPasswordHash]
    decide
  have compared : verifyPasswordHash hashing password row.passwordHash passwordAlgoTag = true := by
    rw [hashed, verifyPasswordHash_build]
  simp [accepts, hasPassword, nonempty, tagged, short, compared]

end OnlineJudge.Accounts
