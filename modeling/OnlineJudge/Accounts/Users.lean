import OnlineJudge.Store.Tables

/-!
# Updates of a user's row

`ModelUser` (`model_user.hpp`) changes a column by a transaction that reads the row without a lock
and writes all columns back (`password_set_back`).
-/

namespace OnlineJudge.Accounts

open RepeatableRead Option TransitionSystem

abbrev DateTime := Store.DateTime

structure User where
  uid : UInt32 := 1
  name : Bytes := []
  passwordHash : Bytes := []
  email : Bytes := []
  createTime : DateTime := 0
  lastLogin : DateTime := 0
  passwordAlgo : Bytes := []
  passwordUpdateAt : DateTime := 0
  avatarPath : Option Bytes := none
  deriving DecidableEq

abbrev UserTransaction := Transaction (fun _ : Unit => User) Bool

abbrev UserProcedure := Procedure (fun _ : Unit => User) Bool

/-! ## The methods -/

def modifyBody (found : User → Bool) (change : User → User) : UserTransaction :=
  .find () fun row =>
    match row with
    | some user => if found user then .update () (change user) (.commit true) else .commit true
    | none => .commit true

/-- A method returns `false` when an exception is thrown. -/
def modify (found : User → Bool) (change : User → User) : UserProcedure :=
  .transaction (modifyBody found change) (.done false)

variable (collates : Bytes → Bytes → Bool)

/-- `collates` says which addresses are equal under the collation of the column. -/
def updateLastLogin (email : Bytes) (now : DateTime) : UserProcedure :=
  modify (fun user => collates user.email email) fun user => { user with lastLogin := now }

def updateUserName (uid : Int) (newName : Bytes) : UserProcedure :=
  if uid ≤ 0 then .done false
  else
    modify (fun user => (user.uid.toNat : Int) = uid) fun user => { user with name := newName }

@[inherit_doc updateLastLogin]
def setUserPassword (email passwordHash passwordAlgo : Bytes) (now : DateTime) : UserProcedure :=
  modify (fun user => collates user.email email) fun user =>
    { user with
      passwordHash := passwordHash
      passwordAlgo := passwordAlgo
      passwordUpdateAt := now }

@[inherit_doc updateLastLogin]
def updateUserEmail (oldEmail newEmail : Bytes) : UserProcedure :=
  modify (fun user => collates user.email oldEmail) fun user => { user with email := newEmail }

inductive UserCall
  | updateLastLogin (email : Bytes) (now : DateTime)
  | updateUserName (uid : Int) (newName : Bytes)
  | setUserPassword (email passwordHash passwordAlgo : Bytes) (now : DateTime)
  | updateUserEmail (oldEmail newEmail : Bytes)
  deriving DecidableEq

open UserCall

/-- The row has the address or the id that the call names. -/
def UserCall.names : UserCall → User → Bool
  | .updateLastLogin email _, user | .setUserPassword email _ _ _, user
  | .updateUserEmail email _, user => collates user.email email
  | .updateUserName uid _, user => (user.uid.toNat : Int) = uid

def UserCall.procedure : UserCall → UserProcedure
  | .updateLastLogin email now => Accounts.updateLastLogin collates email now
  | .updateUserName uid newName => Accounts.updateUserName uid newName
  | .setUserPassword email hash algo now => Accounts.setUserPassword collates email hash algo now
  | .updateUserEmail oldEmail newEmail => Accounts.updateUserEmail collates oldEmail newEmail

def userWorkload : Workload (fun _ : Unit => User) Bool where
  Call := UserCall
  procedure := procedure collates
  admits _ _ := true

/-! ## What a call writes -/

inductive Column
  | name
  | password
  | email
  deriving DecidableEq

def User.get (user : User) : Column → Bytes
  | .name => user.name
  | .password => user.passwordHash
  | .email => user.email

def UserCall.value : UserCall → Column → Option Bytes
  | .updateUserName _ newName, .name => some newName
  | .setUserPassword _ hash _ _, .password => some hash
  | .updateUserEmail _ newEmail, .email => some newEmail
  | _, _ => none

def Touches (call : UserCall) (change : User → User) : Prop :=
  ∀ user column, (change user).get column = (call.value column).getD (user.get column)

/-- Where a transaction of the call stands: before its query, before its update, or before its
commit, with the row written or without one that the call names. -/
inductive Place (call : UserCall) :
    Progress (fun _ : Unit => User) → UserTransaction → Prop
  | begun {change : User → User} (touches : Touches call change) :
      Place call {} (modifyBody (call.names collates) change)
  | found {progress : Progress fun _ : Unit => User} {snapshot : Database fun _ : Unit => User}
      {user : User} {change : User → User} (touches : Touches call change)
      (taken : progress.snapshot = some snapshot) (shown : snapshot () = some user) :
      Place call progress (.update () (change user) (.commit true))
  | wrote {progress : Progress fun _ : Unit => User} {snapshot : Database fun _ : Unit => User}
      {user : User} {change : User → User} (touches : Touches call change)
      (taken : progress.snapshot = some snapshot) (shown : snapshot () = some user)
      (written : progress.writes () = some (change user)) :
      Place call progress (.commit true)
  | missed {progress : Progress fun _ : Unit => User} {snapshot : Database fun _ : Unit => User}
      (taken : progress.snapshot = some snapshot)
      (absent : (snapshot ()).any (call.names collates) = false)
      (unwritten : progress.writes () = none) :
      Place call progress (.commit true)

variable {call : UserCall}

theorem every_modify {change : User → User} (touches : Touches call change) :
    (modify (call.names collates) change).Every (Place collates call {}) :=
  ⟨.begun touches, trivial⟩

theorem every_procedure (call : UserCall) :
    (call.procedure collates).Every (Place collates call {}) := by
  cases call with
  | updateLastLogin => exact every_modify collates fun user column => by cases column <;> rfl
  | setUserPassword | updateUserEmail =>
    exact every_modify collates fun user column => by cases column <;> rfl
  | updateUserName =>
    rw [procedure, updateUserName]
    split
    · trivial
    · exact every_modify collates fun user column => by cases column <;> rfl

variable {collates : Bytes → Bytes → Bool}

variable {choice : Choice Unit}

theorem Place.perform {db : Database fun _ : Unit => User} {free : Unit → Bool}
    {progress progress' : Progress fun _ : Unit => User}
    {rest rest' : UserTransaction} (place : Place collates call progress rest)
    (performed : RepeatableRead.perform db free progress choice rest =
      some (.goesOn progress' rest')) : Place collates call progress' rest' := by
  cases place with
  | @begun change touches =>
    cases performed
    change Place collates call _ (match db () with
      | some user =>
        if call.names collates user then .update () (change user) (.commit true) else .commit true
      | none => .commit true)
    split
    · rename_i user shown
      split
      · exact .found touches rfl shown
      · rename_i other
        exact .missed rfl (by simp [shown, other]) rfl
    · rename_i absent
      exact .missed rfl (by simp [absent]) rfl
  | found touches taken shown =>
    rw [RepeatableRead.perform] at performed
    split at performed <;> [skip; cases performed]
    split at performed <;> cases performed
    exact .wrote touches taken shown (Progress.write_self ..)
  | wrote | missed => cases performed

/-! ## All runs -/

variable {initial : Database fun _ : Unit => User}

/-- The row that a transaction has written is still as its snapshot showed it, and the snapshot of a
call that sets a column shows the row under the address or the id that the call names. -/
def Seen (collates : Bytes → Bytes → Bool) (call : UserCall)
    (progress : Progress fun _ : Unit => User) (db : Database fun _ : Unit => User) : Prop :=
  ∀ snapshot, progress.snapshot = some snapshot →
    (progress.writes () ≠ none → snapshot () = db ()) ∧
      ((∃ column, call.value column ≠ none) → (snapshot ()).any (call.names collates) = true)

/-- A transaction commits only what `Seen` allows. -/
abbrev CommitsSeen (s : State (userWorkload collates)) (action : Action (userWorkload collates)) :
    Prop :=
  CommitsWhen (Seen collates) s action

def replaces (column : Column) (s : State (userWorkload collates)) :
    Action (userWorkload collates) → Bool
  | .proceed i _ =>
    match s.sessions i with
    | .running call progress (.commit _) _ _ =>
      (value call column).isSome && (progress.writes ()).isSome
    | _ => false
  | _ => false

variable {allowed : State (userWorkload collates) → Action (userWorkload collates) → Prop}
    {s : State (userWorkload collates)} {i : Nat} {faulted : Bool} {onError : UserProcedure}
    {progress : Progress fun _ : Unit => User}

theorem place_of_running
    (reachable : (system (userWorkload collates) initial).ReachableUnder allowed s)
    {rest : UserTransaction}
    (running : s.sessions i = .running call progress rest onError faulted) :
    Place collates call progress rest := by
  have place := local_of_reachable (P := Place collates) (every_procedure collates)
    (fun performed place => place.perform performed) reachable i
  rw [running] at place
  exact place.1

/-- **A commit changes the column of its call, and no other.** -/
theorem column_of_commit
    (reachable : (system (userWorkload collates) initial).ReachableUnder allowed s) {result : Bool}
    (running : s.sessions i = .running call progress (.commit result) onError faulted)
    (seen : CommitsSeen s (.proceed i choice)) (written : progress.writes () ≠ none)
    (column : Column) :
    ∃ user, s.db () = some user ∧
      (overlay progress.writes s.db ()).map (·.get column) =
        some ((call.value column).getD (user.get column)) := by
  cases place_of_running reachable running with
  | @wrote _ snapshot user change touches taken shown wrote =>
    -- `UPDATE` writes the whole row: the other columns are those of the snapshot.
    have same : snapshot () = s.db () :=
      (seen call progress true onError faulted running snapshot taken).1 written
    refine ⟨user, same.symm.trans shown, ?_⟩
    simp [overlay, wrote, touches user column]
  | missed _ _ unwritten => exact absurd unwritten written

/-- A call that sets a column has written the row, since its snapshot shows it. -/
theorem written_of_seen
    (reachable : (system (userWorkload collates) initial).ReachableUnder allowed s) {result : Bool}
    (running : s.sessions i = .running call progress (.commit result) onError faulted)
    (seen : CommitsSeen s (.proceed i choice)) {column : Column}
    (sets : call.value column ≠ none) : progress.writes () ≠ none := by
  cases place_of_running reachable running with
  | wrote _ _ _ wrote =>
    rw [wrote]
    exact Option.some_ne_none _
  | missed taken absent =>
    have shown := (seen call progress true onError faulted running _ taken).2 ⟨column, sets⟩
    exact absurd (absent.symm.trans shown) Bool.false_ne_true

/-- **A step that replaces nothing keeps the column.** -/
theorem column_kept {t : State (userWorkload collates)}
    {action : Action (userWorkload collates)} {column : Column}
    (reachable : (system (userWorkload collates) initial).ReachableUnder CommitsSeen s)
    (seen : CommitsSeen s action) (keeps : replaces column s action = false)
    (step : sessionStep s action = some t) :
    (t.db ()).map (·.get column) = (s.db ()).map (·.get column) := by
  rcases sessionStep_db step with same | ⟨i, choice, call, progress, result, onError, faulted,
    rfl, running, _, written⟩
  · rw [same]
  rw [written]
  cases wrote : progress.writes () with
  | none => simp [overlay, wrote]
  | some row =>
    obtain ⟨user, shown, after⟩ := column_of_commit reachable running seen
      (by rw [wrote]; exact Option.some_ne_none row) column
    simp only [replaces, running, wrote, isSome_some, Bool.and_true,
      Option.isSome_eq_false_iff, isNone_iff_eq_none] at keeps
    rw [after, shown, keeps]
    rfl

/-- **What a call has set stays until it is replaced**, in every run in which each commit is one of
a row that the call names and that is still as the snapshot showed it. -/
theorem user_update_kept {s t u : State (userWorkload collates)}
    (reachable : (system (userWorkload collates) initial).ReachableUnder CommitsSeen s) {i : Nat}
    {choice : Choice Unit} {call : UserCall} {progress : Progress fun _ : Unit => User}
    {result : Bool} {onError : UserProcedure} {faulted : Bool}
    (running : s.sessions i = .running call progress (.commit result) onError faulted)
    (seen : CommitsSeen s (.proceed i choice))
    (step : sessionStep s (.proceed i choice) = some t) {column : Column} {value : Bytes}
    (isValue : call.value column = some value)
    (later : (system (userWorkload collates) initial).ReachesUnder
      (fun s action => CommitsSeen s action ∧ replaces column s action = false) t u) :
    t.sessions i = .returned call true faulted ∧
      (u.db ()).map (·.get column) = some value := by
  have written := written_of_seen reachable running seen
    (isValue.trans_ne (Option.some_ne_none value))
  obtain ⟨user, _, after⟩ := column_of_commit reachable running seen written column
  rw [isValue] at after
  -- Both ends of the transaction return `true`, also where no row was found.
  have isTrue : result = true := by
    cases place_of_running reachable running <;> rfl
  have taken := step
  rw [sessionStep, running] at taken
  cases taken
  subst isTrue
  refine ⟨Function.update_self .., ?_⟩
  refine later.induct (P := fun u => (u.db ()).map (·.get column) = some value) after ?_
  intro u v action between allowed next holds
  have before := (reachable.tail seen step).trans (between.mono fun _ _ allowed => allowed.1)
  rw [column_kept before allowed.1 allowed.2 next]
  exact holds

/-! ## Two logins -/

def sampleUser : User where
  name := [110]
  passwordHash := [1]
  email := [117]

def sampleRow : Database fun _ : Unit => User := fun _ => some sampleUser

abbrev sampleWorkload : Workload (fun _ : Unit => User) Bool := userWorkload fun a b => a = b

def sampleLogin : UserCall := .updateLastLogin [117] 50

def samplePassword : UserCall := .setUserPassword [117] [2] [97] 40

variable (s : State sampleWorkload)

def commitsSeen : Action sampleWorkload → Bool
  | .proceed i _ =>
    match s.sessions i with
    | .running call progress _ _ _ =>
      progress.snapshot.all fun snapshot =>
        snapshot () = s.db () && (snapshot ()).any (names (fun a b => a = b) call)
    | _ => true
  | _ => true

theorem commitsSeen_sound (action : Action sampleWorkload) (seen : commitsSeen s action = true) :
    CommitsSeen s action := by
  cases action with
  | proceed =>
    intro call progress result onError faulted running snapshot taken
    rw [commitsSeen, running] at seen
    simp only [taken, all_some, Bool.and_eq_true, decide_eq_true_eq] at seen
    exact ⟨fun _ => seen.1, fun _ => seen.2⟩
  | _ => trivial

def upToCommit (i : Nat) (call : UserCall) : List (Action sampleWorkload) :=
  [.start i call, .proceed i {}, .proceed i {}]

def UserCall.same (call other : UserCall) : Bool := call = other

theorem UserCall.eq_of_same {other : UserCall} (same : call.same other = true) :
    call = other :=
  of_decide_eq_true same

def aboutToCommit (i : Nat) (call : UserCall) : Bool :=
  match s.sessions i with
  | .running other _ (.commit _) _ _ => same call other
  | _ => false

theorem running_of_aboutToCommit {s : State sampleWorkload}
    (about : aboutToCommit s i call = true) :
    ∃ progress result onError faulted,
      s.sessions i = .running call progress (.commit result) onError faulted := by
  unfold aboutToCommit at about
  split at about <;> [skip; cases about]
  rename_i other progress result onError faulted running
  obtain rfl : call = other := eq_of_same about
  exact ⟨progress, result, onError, faulted, running⟩

/-- The call has returned `true`, and no statement has failed. -/
def hasReturned (i : Nat) (call : UserCall) : Bool :=
  match s.sessions i with
  | .returned other true false => same call other
  | _ => false

variable {s}

theorem returned_of_hasReturned {s : State sampleWorkload}
    (returned : hasReturned s i call = true) : s.sessions i = .returned call true false := by
  unfold hasReturned at returned
  split at returned <;> [skip; cases returned]
  rename_i other found
  obtain rfl : call = other := eq_of_same returned
  exact found

theorem user_update_kept_login : ∃ u : State sampleWorkload,
    (u.db ()).map User.lastLogin = some 50 ∧ (u.db ()).map (·.get .password) = some [2] := by
  obtain ⟨s, reachable, check⟩ := (system sampleWorkload sampleRow).exists_of_runUnder
    commitsSeen (upToCommit 0 samplePassword)
    (fun s => aboutToCommit s 0 samplePassword && commitsSeen s (.proceed 0 {}) &&
      (sessionStep s (.proceed 0 {})).any fun t =>
        ((system sampleWorkload sampleRow).runUnder
          (fun s action => commitsSeen s action && !replaces .password s action) t
          (upToCommit 1 sampleLogin ++ [.proceed 1 {}])).any
            fun (u : State sampleWorkload) => (u.db ()).map User.lastLogin == some 50)
    (by decide +kernel)
  simp only [Bool.and_eq_true, any_eq_true] at check
  obtain ⟨⟨about, seen⟩, t, step, u, ran, login⟩ := check
  obtain ⟨progress, result, onError, faulted, running⟩ := running_of_aboutToCommit about
  have later := runUnder_reaches ran
  refine ⟨u, beq_iff_eq.mp login, ?_⟩
  refine (user_update_kept (reachable.mono commitsSeen_sound) running
    (commitsSeen_sound _ _ seen) step rfl (later.mono fun s action allowed => ?_)).2
  rw [Bool.and_eq_true, Bool.not_eq_true'] at allowed
  exact ⟨commitsSeen_sound s action allowed.1, allowed.2⟩

/-- `UpdateLastLogin` has read the row when `SetUserPassword` commits, and commits afterwards. -/
theorem password_set_back : ∃ s t : State sampleWorkload,
    (system sampleWorkload sampleRow).Reachable s ∧
      s.sessions 1 = .returned samplePassword true false ∧
      (s.db ()).map (·.get .password) = some [2] ∧
      (system sampleWorkload sampleRow).ReachesUnder
        (fun s action => replaces .password s action = false) s t ∧
      (t.db ()).map (·.get .password) = some [1] := by
  obtain ⟨s, reachable, check⟩ := (system sampleWorkload sampleRow).exists_of_run
    ([.start 0 sampleLogin, .proceed 0 {}] ++ upToCommit 1 samplePassword ++ [.proceed 1 {}])
    (fun s => hasReturned s 1 samplePassword &&
      (s.db ()).map (User.get · .password) == some [2] &&
      ((system sampleWorkload sampleRow).runUnder
        (fun s action => !replaces .password s action) s [.proceed 0 {}, .proceed 0 {}]).any
          fun (t : State sampleWorkload) => (t.db ()).map (User.get · .password) == some [1])
    (by decide +kernel)
  simp only [Bool.and_eq_true, any_eq_true, beq_iff_eq] at check
  obtain ⟨⟨returned, set⟩, t, ran, back⟩ := check
  have later := runUnder_reaches ran
  refine ⟨s, t, reachable, returned_of_hasReturned returned, set, later.mono ?_, back⟩
  intro s action allowed
  rwa [Bool.not_eq_true'] at allowed

end OnlineJudge.Accounts
