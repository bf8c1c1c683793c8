import OnlineJudge.Accounts.Login

/-!
# Who is logged in

The table of users as `Register` and `UpdateProfile` (`oj_service_impl.cpp`) make it.  The name of
one user may be the address of another, and a login tries the name first (`logged_in_as_another`).
-/

namespace OnlineJudge.Accounts

open Submissions (trim)

def isAlpha (ch : UInt8) : Bool := (65 ≤ ch && ch ≤ 90) || (97 ≤ ch && ch ≤ 122)

def isDigit (ch : UInt8) : Bool := 48 ≤ ch && ch ≤ 57

/-- `StringUtil::IsValidEmail`: a local part before the `@`, a host, and at least two letters after
the last full stop. -/
def isValidEmail (email : Bytes) : Bool :=
  let start := email.takeWhile (· ≠ 64)
  let domain := (email.dropWhile (· ≠ 64)).tail.reverse
  let letters := domain.takeWhile (· ≠ 46)
  let host := (domain.dropWhile (· ≠ 46)).tail
  !start.isEmpty && (start.all fun ch => isAlpha ch || isDigit ch || (text "._%+-").contains ch) &&
    !host.isEmpty && (host.all fun ch => isAlpha ch || isDigit ch || ch = 46 || ch = 45) &&
    2 ≤ letters.length && letters.all isAlpha

def isValidAuthCode (code : Bytes) : Bool := code.length = 6 && code.all isDigit

inductive RegisterError
  | invalidEmail
  | invalidVerificationCode
  | invalidName
  | auth (error : AuthError)
  deriving DecidableEq

def RegisterError.message : RegisterError → String
  | .invalidEmail => "INVALID_EMAIL"
  | .invalidVerificationCode => "INVALID_VERIFICATION_CODE"
  | .invalidName => "INVALID_NAME"
  | .auth error => error.errCode

inductive ProfileError
  | invalidName
  | nameTaken
  | dbError
  deriving DecidableEq

def ProfileError.message : ProfileError → String
  | .invalidName => "INVALID_NAME"
  | .nameTaken => "NAME_TAKEN"
  | .dbError => "DB_ERROR"

/-- The steps of `UpdateProfile` that may fail. -/
inductive ProfileStep
  | getUserByName
  | updateUserName
  deriving DecidableEq

variable {collation : Collation}

/-- `Register`, up to the session. -/
def AccountStores.register (s : AccountStores collation) (hashing : Hashing) (input : AuthRequest)
    (fate : AuthStep → CommandFate) : Except RegisterError User × AccountStores collation :=
  let request := { input with
    email := trim input.email
    optionalName := trim input.optionalName
    code := trim input.code }
  if !isValidEmail request.email then (.error .invalidEmail, s)
  else if !isValidAuthCode request.code then (.error .invalidVerificationCode, s)
  else if request.optionalName.isEmpty || 64 < request.optionalName.length then
    (.error .invalidName, s)
  else
    match s.verifyEmailAuthCodeAndLogin hashing request fate with
    | (.error error, s) => (.error (.auth error), s)
    | (.ok (user, _), s) => (.ok user, s)

/-- `UpdateProfile`, for a user with a session.  The id is converted to `int`. -/
def UserTable.updateProfile (table : UserTable collation) (uid : UInt32) (input : Bytes)
    (fate : ProfileStep → CommandFate) : Except ProfileError Unit × UserTable collation :=
  let name := trim input
  if name.isEmpty || 20 < name.length then (.error .invalidName, table)
  else if ((fate .getUserByName).query (table.findByName name)).any (·.uid != uid) then
    (.error .nameTaken, table)
  else
    let (table, updated) := (fate .updateUserName).run table
      (table.updateUserName uid.toInt32.toInt name)
    if updated then (.ok (), table) else (.error .dbError, table)

open UserTable

structure Site (collation : Collation) extends AccountStores collation where
  rates : LoginRates

def Site.logins (site : Site collation) : LoginStores collation := ⟨site.rates, site.users⟩

inductive SiteAction
  /-- `SendEmailAuthCode` has sent a code. -/
  | sendCode (email code : Bytes) (now : Int)
  | register (input : AuthRequest) (fate : AuthStep → CommandFate)
  | updateProfile (uid : UInt32) (name : Bytes) (fate : ProfileStep → CommandFate)
  | login (call : LoginCall) (fate : LoginStep → CommandFate)

def Site.step (hashing : Hashing) (site : Site collation) : SiteAction → Site collation
  | .sendCode email code now =>
    { site with
      codes := site.codes.setEx (buildAuthCodeKey email) code (now + codeTtl)
      attempts := site.attempts.del (buildAuthAttemptsKey email) }
  | .register input fate =>
    { site with toAccountStores := (site.toAccountStores.register hashing input fate).2 }
  | .updateProfile uid name fate =>
    { site with users := (site.users.updateProfile uid name fate).2 }
  | .login call fate =>
    let after := (site.logins.loginWithPassword hashing call fate).2
    { site with users := after.users, rates := after.rates }

def siteSystem (collation : Collation) (hashing : Hashing) :
    TransitionSystem (Site collation) SiteAction where
  initial := ⟨⟨fun _ => none, fun _ => none, .empty _⟩, fun _ => none⟩
  step site action := some (site.step hashing action)

def Tagged (row : User) : Prop := row.passwordHash = [] ∨ row.passwordAlgo = passwordAlgoTag

section

variable {hashing : Hashing} {site after : Site collation}

theorem tagged_updateProfile {table : UserTable collation} (all : ∀ row ∈ table.rows, Tagged row)
    (uid : UInt32) (name : Bytes) (fate : ProfileStep → CommandFate) :
    ∀ row ∈ (table.updateProfile uid name fate).2.rows, Tagged row := by
  have updated (uid : Int) (name : Bytes) : ∀ row ∈ ((fate .updateUserName).run table
      (table.updateUserName uid name)).1.rows, Tagged row := by
    refine forall_mem_run all (fun after modified => ?_) (fate .updateUserName)
    unfold UserTable.updateUserName at modified
    split at modified
    · cases modified
    · exact forall_mem_modify all modified fun row tagged => tagged
  unfold updateProfile
  dsimp only
  repeat' split
  · exact all
  · exact all
  · exact updated _ _
  · exact updated _ _

theorem tagged_register {s : AccountStores collation} (all : ∀ row ∈ s.users.rows, Tagged row)
    (hashing : Hashing) (input : AuthRequest) (fate : AuthStep → CommandFate) :
    ∀ row ∈ (s.register hashing input fate).2.users.rows, Tagged row := by
  have verified (request : AuthRequest) :
      ∀ row ∈ (s.verifyEmailAuthCodeAndLogin hashing request fate).2.users.rows, Tagged row :=
    AccountStores.forall_users_verify all (fun _ _ _ _ => .inl rfl) (fun _ _ _ _ => .inr rfl)
      fun _ _ tagged => tagged
  unfold AccountStores.register
  dsimp only
  split
  · exact all
  split
  · exact all
  split
  · exact all
  split
  · rename_i outcome
    exact congrArg (·.2) outcome ▸ verified _
  · rename_i outcome
    exact congrArg (·.2) outcome ▸ verified _

theorem tagged_login {s : LoginStores collation} (all : ∀ row ∈ s.users.rows, Tagged row)
    (hashing : Hashing) (call : LoginCall) (fate : LoginStep → CommandFate) :
    ∀ row ∈ (s.loginWithPassword hashing call fate).2.users.rows, Tagged row := by
  have updated (email : Bytes) : ∀ row ∈ ((fate .updateLastLogin).run s.users
      (s.users.updateLastLogin email call.time)).1.rows, Tagged row := by
    refine forall_mem_run all (fun after modified => ?_) (fate .updateLastLogin)
    exact forall_mem_modify all modified fun row tagged => tagged
  unfold LoginStores.loginWithPassword LoginStores.accept LoginStores.reject
  dsimp only
  repeat' split
  all_goals first | exact all | exact updated _

theorem tagged_of_reachable (reachable : (siteSystem collation hashing).Reachable site) :
    ∀ row ∈ site.users.rows, Tagged row := by
  refine TransitionSystem.Reachable.induct (P := fun site => ∀ row ∈ site.users.rows, Tagged row)
    reachable (fun row mem => nomatch mem) fun {s t action} _ step tagged => ?_
  cases step
  cases action with
  | sendCode => exact tagged
  | register input fate => exact tagged_register tagged hashing input fate
  | updateProfile uid name fate => exact tagged_updateProfile tagged uid name fate
  | login call fate => exact tagged_login tagged hashing call fate

end

/-- **A login by address logs its owner in** exactly where no other user has the address for a name,
while nothing fails and the client is not locked. -/
theorem login_identifies_iff {hashing : Hashing} {site : Site collation}
    (reachable : (siteSystem collation hashing).Reachable site) {user : User}
    (mem : user ∈ site.users.rows) {call : LoginCall} {raw : Fin 16 → UInt8}
    (hashed : user.passwordHash = buildPasswordHash hashing call.password (some raw))
    (short : call.password.length ≤ 72) (addressed : call.emailOrUsername = user.email)
    (unlocked : LoginRates.locked hashing site.rates call.emailOrUsername call.clientIp
      call.checkedAt = false) :
    (site.logins.loginWithPassword hashing call fun _ => .answered).1 =
        .loggedIn (user.withLastLogin call.time) ↔
      ∀ other ∈ site.users.rows, collation.equal other.name user.email = true → other = user := by
  have tagged : user.passwordAlgo = passwordAlgoTag := by
    refine (tagged_of_reachable reachable user mem).resolve_left fun empty => ?_
    have length := length_buildPasswordHash hashing call.password raw
    rw [← hashed, empty] at length
    cases length
  rw [LoginStores.loginWithPassword_answered unlocked, addressed, resolve_answered]
  dsimp only [Site.logins]
  cases named : site.users.findByName user.email with
  | none =>
    have found : site.users.findByEmail user.email = some user :=
      findByEmail_eq_some_iff.mpr ⟨mem, Collation.equal_self user.email⟩
    have accepted := accepts_of_hash user.email hashed tagged short
    simp only [found, Option.map_some, accepted, if_true, true_iff]
    intro other mem' equal
    rw [findBy_eq_none_iff.mp named other mem'] at equal
    cases equal
  | some other =>
    obtain ⟨mem', equal⟩ := findByName_eq_some_iff.mp named
    constructor
    · intro loggedIn candidate mem'' equal'
      -- the user of that name is the one who was logged in
      have same : other.uid = user.uid := by
        dsimp only at loggedIn
        split at loggedIn
        · have row := congrArg User.uid (LoginResult.loggedIn.inj loggedIn)
          exact row
        · cases loggedIn
      have alike := Collation.equal_trans equal' (Collation.equal_symm equal)
      rw [eq_of_name_equal mem'' mem' alike]
      exact eq_of_uid_eq mem' mem same
    · intro only
      obtain rfl := only other mem' equal
      simp only [accepts_of_hash other.email hashed tagged short, if_true]

def signUp (uid : UInt32) (email name : Bytes) : List SiteAction :=
  [.sendCode email (text "123456") 0,
    .register { registration (some fun _ => 7) with uid, email, optionalName := name }
      fun _ => .answered]

def signIn (emailOrUsername : Bytes) : LoginCall where
  emailOrUsername
  password := text "secret123"
  clientIp := text "10.0.0.1"
  checkedAt := 2000
  recordedAt := 2100
  time := 2

def sampleHash : Bytes := buildPasswordHash sampleHashing (text "secret123") (some fun _ => 7)

theorem login_identifies_of_two : ∃ site, ∃ user ∈ site.users.rows,
    (siteSystem .ignoringCase sampleHashing).Reachable site ∧ site.users.rows.length = 2 ∧
      (site.logins.loginWithPassword sampleHashing (signIn user.email) fun _ => .answered).1 =
        .loggedIn (user.withLastLogin 2) := by
  obtain ⟨site, reachable, checked⟩ := (siteSystem .ignoringCase sampleHashing).exists_of_run
    (signUp 1 (text "a@b.cd") (text "ann") ++ signUp 2 (text "o@b.cd") (text "O@b.cd"))
    (fun site => site.users.rows.length = 2 && site.users.rows.any fun user =>
      user.passwordHash = sampleHash &&
        !LoginRates.locked sampleHashing site.rates user.email (text "10.0.0.1") 2000 &&
        site.users.rows.all fun other =>
          !Collation.equal .ignoringCase other.name user.email || other = user)
    (by decide +kernel)
  simp only [Bool.and_eq_true, List.any_eq_true, decide_eq_true_eq, Bool.not_eq_true',
    List.all_eq_true, Bool.or_eq_true] at checked
  obtain ⟨two, user, mem, ⟨hashed, unlocked⟩, only⟩ := checked
  refine ⟨site, user, mem, reachable, two, ?_⟩
  have built : user.passwordHash =
      buildPasswordHash sampleHashing (signIn user.email).password (some fun _ => 7) := hashed
  have short : (text "secret123").length ≤ 72 := by decide +kernel
  refine (login_identifies_iff reachable mem built short rfl unlocked).mpr ?_
  intro other mem' equal
  rcases only other mem' with differs | same
  · rw [equal] at differs
    cases differs
  · exact same

/-- Someone has registered the address of another for a name, and both have the same password. -/
theorem logged_in_as_another : ∃ site, ∃ user ∈ site.users.rows, ∃ other ∈ site.users.rows,
    (siteSystem .ignoringCase sampleHashing).Reachable site ∧ user.uid ≠ other.uid ∧
      user.passwordHash = sampleHash ∧
      LoginRates.locked sampleHashing site.rates user.email (text "10.0.0.1") 2000 = false ∧
      (site.logins.loginWithPassword sampleHashing (signIn user.email) fun _ => .answered).1 =
        .loggedIn (other.withLastLogin 2) := by
  obtain ⟨site, reachable, checked⟩ := (siteSystem .ignoringCase sampleHashing).exists_of_run
    (signUp 1 (text "a@b.cd") (text "ann") ++ signUp 2 (text "o@b.cd") (text "A@b.cd"))
    (fun site => site.users.rows.any fun user => site.users.rows.any fun other =>
      user.uid ≠ other.uid && user.passwordHash = sampleHash &&
        !LoginRates.locked sampleHashing site.rates user.email (text "10.0.0.1") 2000 &&
        (site.logins.loginWithPassword sampleHashing (signIn user.email) fun _ => .answered).1 =
          .loggedIn (other.withLastLogin 2))
    (by decide +kernel)
  simp only [Bool.and_eq_true, List.any_eq_true, decide_eq_true_eq, Bool.not_eq_true'] at checked
  obtain ⟨user, mem, other, mem', ⟨⟨different, hashed⟩, unlocked⟩, loggedIn⟩ := checked
  exact ⟨site, user, mem, other, mem', reachable, different, hashed, unlocked, loggedIn⟩

end OnlineJudge.Accounts
